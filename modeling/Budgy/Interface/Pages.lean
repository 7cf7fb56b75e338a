import Budgy.Interface.Ranks
import Budgy.Interface.Table
import Mathlib.Data.List.Nodup

/-!
# Pages of a sorted list

A list is read page after page, each page at its own request.  When every request sees the
same list the pages add up to it.  When each one sees some order of the rows that sorts
their keys, the pages add up to the rows as soon as the rows of one key are on one page; if
two of them are on both sides of a boundary, some orders show a row twice.
-/

set_option autoImplicit false

namespace Pages

variable {α κ : Type} {limit k n : ℕ} {l l' rows : List α}

/-- The page number `k`. -/
def page (limit k : ℕ) (l : List α) : List α := (l.drop (k * limit)).take limit

/-- The first `n` pages, each one read in its own list. -/
def concat (limit : ℕ) (lists : ℕ → List α) (n : ℕ) : List α :=
  (List.range n).flatMap fun k => page limit k (lists k)

/-- One more page is appended. -/
theorem concat_succ {lists : ℕ → List α} :
    concat limit lists (n + 1) = concat limit lists n ++ page limit n (lists n) := by
  rw [concat, List.range_succ, List.flatMap_append, List.flatMap_singleton]
  rfl

/-- The pages of one list are its beginning. -/
theorem concat_const (l : List α) : concat limit (fun _ => l) n = l.take (n * limit) := by
  induction n with
  | zero =>
      rw [Nat.zero_mul, List.take_zero]
      rfl
  | succ n ih => rw [concat_succ, ih, page, Nat.succ_mul, List.take_add]

/-- Enough pages make up the list. -/
theorem concat_of_le (h : l.length ≤ n * limit) : concat limit (fun _ => l) n = l := by
  rw [concat_const, List.take_of_length_le h]

/-- Pages that are the same up to their order make up the same list. -/
theorem concat_perm {lists lists' : ℕ → List α}
    (h : ∀ k, (page limit k (lists k)).Perm (page limit k (lists' k))) :
    (concat limit lists n).Perm (concat limit lists' n) := by
  induction n with
  | zero => exact .nil
  | succ n ih =>
      rw [concat_succ, concat_succ]
      exact ih.append (h n)

/-- A condition on the positions of a page is one on its elements. -/
theorem page_eq_filter {p : α → Bool} (hlimit : 0 < limit)
    (h : ∀ i (hi : i < l.length), p l[i] = true ↔ i / limit = k) : page limit k l = l.filter p := by
  have hsplit : l = l.take (k * limit) ++ (page limit k l ++ l.drop (k * limit + limit)) := by
    rw [page, ← List.drop_drop, List.take_append_drop, List.take_append_drop]
  have hbefore : (l.take (k * limit)).filter p = [] := by
    refine List.filter_eq_nil_iff.2 fun a ha hp => ?_
    obtain ⟨i, hi, rfl⟩ := List.mem_take_iff_getElem.1 ha
    have hik := (h i (by omega)).1 hp
    have hlt := (Nat.div_lt_iff_lt_mul hlimit).2 (lt_of_lt_of_le hi (min_le_left _ _))
    omega
  have hpage : (page limit k l).filter p = page limit k l := by
    refine List.filter_eq_self.2 fun a ha => ?_
    obtain ⟨i, hi, rfl⟩ := List.mem_take_iff_getElem.1 ha
    rw [List.length_drop] at hi
    rw [List.getElem_drop]
    refine (h _ (by omega)).2 ?_
    rw [Nat.mul_comm, Nat.mul_add_div hlimit, Nat.div_eq_of_lt (by omega), Nat.add_zero]
  have hafter : (l.drop (k * limit + limit)).filter p = [] := by
    refine List.filter_eq_nil_iff.2 fun a ha hp => ?_
    obtain ⟨i, hi, rfl⟩ := List.mem_drop_iff_getElem.1 ha
    have hik := (h _ (by omega)).1 hp
    have hle : k + 1 ≤ (k * limit + limit + i) / limit := by
      rw [Nat.le_div_iff_mul_le hlimit, Nat.succ_mul]
      omega
    omega
  conv_rhs => rw [hsplit]
  rw [List.filter_append, List.filter_append, hbefore, hpage, hafter, List.append_nil,
    List.nil_append]

/-! ## Orders that sort the keys -/

section Orders

variable [LinearOrder κ] {key : α → κ}

/-- One of the orders of the rows that sort their keys. -/
structure IsOrder (key : α → κ) (rows l : List α) : Prop where
  perm : l.Perm rows
  sorted : l.Pairwise fun a b => key a ≤ key b

/-- The positions of the elements equal to a given one are on one page. -/
def Together (limit : ℕ) (keys : List κ) : Prop :=
  ∀ x ∈ keys, keys.countP (· < x) / limit = (keys.countP (· ≤ x) - 1) / limit

instance (limit : ℕ) (keys : List κ) : Decidable (Together limit keys) :=
  inferInstanceAs
    (Decidable (∀ x ∈ keys, keys.countP (· < x) / limit = (keys.countP (· ≤ x) - 1) / limit))

/-- A row is at one of the positions of its key. -/
theorem IsOrder.hasRank (h : IsOrder key rows l) {i : ℕ} (hi : i < l.length) :
    Ranks.HasRank (rows.map key) i (key l[i]) := by
  have hsorted : (l.map key).Pairwise (· ≤ ·) := List.pairwise_map.2 h.sorted
  have hrank := Ranks.hasRank_getElem hsorted (k := i) (by rwa [List.length_map])
  rw [List.getElem_map] at hrank
  exact (Ranks.hasRank_perm (h.perm.map key)).1 hrank

/-- When the rows of a key are on one page, a page has the same rows in every order. -/
theorem IsOrder.page_perm (hlimit : 0 < limit) (htogether : Together limit (rows.map key))
    (h : IsOrder key rows l) (h' : IsOrder key rows l') :
    (page limit k l).Perm (page limit k l') := by
  let p (a : α) : Bool := (rows.map key).countP (· < key a) / limit = k
  have hpage : ∀ l, IsOrder key rows l → page limit k l = l.filter p := by
    intro l h
    refine page_eq_filter hlimit fun i hi => ?_
    obtain ⟨hle, hlt⟩ := h.hasRank hi
    have hmem : key l[i] ∈ rows.map key :=
      List.mem_map_of_mem (h.perm.mem_iff.1 (List.getElem_mem hi))
    have hsame := htogether _ hmem
    have hfirst := Nat.div_le_div_right (c := limit) hle
    have hlast := Nat.div_le_div_right (c := limit) (Nat.le_sub_one_of_lt hlt)
    simp only [p, decide_eq_true_eq]
    omega
  rw [hpage l h, hpage l' h']
  exact (h.perm.trans h'.perm.symm).filter p

/-- Two neighbours of one key can be exchanged. -/
theorem IsOrder.swap (h : IsOrder key rows l) {before after : List α} {a b : α}
    (hl : l = before ++ a :: b :: after) (hkey : key a = key b) :
    IsOrder key rows (before ++ b :: a :: after) where
  perm := ((List.Perm.swap a b after).append_left before).trans (hl ▸ h.perm)
  sorted := by
    have hsorted := h.sorted
    rw [hl, ← List.pairwise_map (f := key) (R := (· ≤ ·))] at hsorted
    rw [← List.pairwise_map (f := key) (R := (· ≤ ·))]
    simpa [hkey] using hsorted

/-- Rows of one key on both sides of a boundary: in two orders, one of them is last on a page
and first on the next one. -/
theorem exists_swap (hlimit : 0 < limit) (h : ¬ Together limit (rows.map key)) :
    ∃ m a l l', 0 < m ∧ m * limit < rows.length ∧ IsOrder key rows l ∧ IsOrder key rows l' ∧
      a ∈ page limit (m - 1) l ∧ a ∈ page limit m l' := by
  unfold Together at h
  push Not at h
  obtain ⟨x, hx, hpages⟩ := h
  have hself := Ranks.countP_lt_countP hx
  have hcount : (rows.map key).countP (· ≤ x) ≤ rows.length := by
    simpa using List.countP_le_length (p := fun y => decide (y ≤ x)) (l := rows.map key)
  generalize hfirst : (rows.map key).countP (· < x) = first at hpages hself
  generalize hlast : (rows.map key).countP (· ≤ x) = last at hpages hself hcount
  -- the boundary is the start of the page of the last position
  have hle := Nat.div_le_div_right (c := limit) (Nat.le_sub_one_of_lt hself)
  have hpos := Nat.zero_lt_of_lt (lt_of_le_of_ne hle hpages)
  have hstart : (last - 1) / limit * limit ≤ last - 1 := Nat.div_mul_le_self _ _
  have hinside : first < (last - 1) / limit * limit :=
    (Nat.div_lt_iff_lt_mul hlimit).1 (lt_of_le_of_ne hle hpages)
  generalize hm : (last - 1) / limit = m at hpos hstart hinside
  obtain ⟨p, hp⟩ : ∃ p, m * limit = p + 1 := ⟨m * limit - 1, by omega⟩
  have horder : IsOrder key rows (Relational.sortBy key rows) :=
    ⟨Relational.perm_sortBy key rows, Relational.pairwise_sortBy key rows⟩
  generalize Relational.sortBy key rows = l at horder
  have hlength := horder.perm.length_eq
  have hkeys : ∀ i (hi : i < l.length), first ≤ i → i < last → key l[i] = x := by
    intro i hi hge hlt
    exact (horder.hasRank hi).unique ⟨by omega, by omega⟩
  have hsplit : l = l.take p ++ l[p] :: l[p + 1] :: l.drop (p + 2) := by
    rw [List.getElem_cons_drop, List.getElem_cons_drop, List.take_append_drop]
  have hkey : key l[p] = key l[p + 1] := by
    rw [hkeys p (by omega) (by omega) (by omega), hkeys (p + 1) (by omega) (by omega) (by omega)]
  refine ⟨m, l[p], l, _, hpos, by omega, horder, horder.swap hsplit hkey, ?_, ?_⟩
  · have hpage : (m - 1) * limit + limit = p + 1 := by
      rw [← Nat.succ_mul, Nat.succ_eq_add_one, Nat.sub_add_cancel hpos, hp]
    refine List.mem_take_iff_getElem.2 ⟨limit - 1, by rw [List.length_drop]; omega, ?_⟩
    rw [List.getElem_drop]
    congr 1
    omega
  · have htake : (l.take p).length = p := by rw [List.length_take]; omega
    have hdrop : (l.take p ++ l[p + 1] :: l[p] :: l.drop (p + 2)).drop (p + 1) =
        l[p] :: l.drop (p + 2) := by
      rw [← List.drop_drop, List.drop_append_of_le_length htake.ge, List.drop_of_length_le htake.le]
      rfl
    rw [page, hp, hdrop, List.take_cons hlimit]
    exact List.mem_cons_self

/-- Read in whatever orders, the pages show each row once exactly when the rows of each key
are on one page. -/
theorem concat_perm_iff (hrows : rows.Nodup) (hlimit : 0 < limit)
    (hn : rows.length ≤ n * limit) :
    (∀ lists : ℕ → List α, (∀ k, IsOrder key rows (lists k)) →
      (concat limit lists n).Perm rows) ↔ Together limit (rows.map key) := by
  constructor
  · intro h
    by_contra hsplit
    obtain ⟨m, a, l, l', hm, hboundary, hl, hl', hmem, hmem'⟩ := exists_swap hlimit hsplit
    have hlists : ∀ k, IsOrder key rows (if k = m then l' else l) := by
      intro k
      split_ifs
      · exact hl'
      · exact hl
    have hnodup := (h _ hlists).nodup_iff.2 hrows
    have hlast : m < n := by
      by_contra hle
      have hmul := Nat.mul_le_mul_right limit (not_lt.1 hle)
      omega
    have hdisjoint := List.pairwise_iff_getElem.1 (List.nodup_flatMap.1 hnodup).2 (m - 1) m
      (by rw [List.length_range]; omega) (by rw [List.length_range]; omega) (by omega)
    simp only [List.getElem_range, Function.onFun, if_neg (show m - 1 ≠ m by omega)] at hdisjoint
    exact hdisjoint hmem (by simpa using hmem')
  · intro htogether lists hlists
    have hpages := fun k => IsOrder.page_perm (k := k) hlimit htogether (hlists k) (hlists 0)
    have hconst : concat limit (fun _ => lists 0) n = lists 0 := by
      refine concat_of_le ?_
      rw [(hlists 0).perm.length_eq]
      exact hn
    refine (concat_perm hpages).trans ?_
    rw [hconst]
    exact (hlists 0).perm

/-- The orders that sort the keys are those of a query that sorts the rows, whatever order
they come in. -/
theorem isOrder_iff {ι : Type} [LinearOrder ι] {id : α → ι} (hid : (rows.map id).Nodup) :
    IsOrder key rows l ↔ ∃ rank, l = Relational.sortBy key (Relational.arrange id rank rows) := by
  constructor
  · intro h
    have hnodup : (l.map id).Nodup := (h.perm.map id).nodup_iff.2 hid
    obtain ⟨rank, hrank⟩ := Relational.exists_arrange h.perm hnodup
    refine ⟨rank, ?_⟩
    rw [hrank, Relational.sortBy_of_sorted h.sorted]
  · rintro ⟨rank, rfl⟩
    refine ⟨?_, Relational.pairwise_sortBy key _⟩
    exact (Relational.perm_sortBy key _).trans (Relational.perm_arrange id rank rows)

/-- A listing shows the page asked for, in one of the orders that sort the keys, and only if
the rows of that page can be read.  Its pages can all be read and show each row once exactly
when each row can be read and the rows of each key are on one page. -/
theorem pages_iff {ι : Type} {id : α → ι} {Readable : α → Prop} {Answer : ℕ → List ι → Prop}
    (hanswer : ∀ k ids, Answer k ids ↔ ∃ l, IsOrder key rows l ∧
      (∀ a ∈ page limit k l, Readable a) ∧ ids = (page limit k l).map id)
    (hid : (rows.map id).Nodup) (hlimit : 0 < limit) (hn : rows.length ≤ n * limit) :
    ((∀ k, ∃ ids, Answer k ids) ∧ ∀ ids, (∀ k, Answer k (ids k)) →
      ((List.range n).flatMap ids).Perm (rows.map id)) ↔
    (∀ a ∈ rows, Readable a) ∧ Together limit (rows.map key) := by
  have hinj : ∀ a ∈ rows, ∀ b ∈ rows, id a = id b → a = b := fun a ha b hb =>
    List.inj_on_of_nodup_map hid ha hb
  have hpage : ∀ {l : List α} {k : ℕ} {a : α}, IsOrder key rows l → a ∈ page limit k l →
      a ∈ rows := fun h ha => h.perm.mem_iff.1 (List.mem_of_mem_drop (List.mem_of_mem_take ha))
  have hshown : ∀ lists : ℕ → List α, ((List.range n).flatMap fun k =>
      (page limit k (lists k)).map id) = (concat limit lists n).map id := by
    intro lists
    rw [concat, List.map_flatMap]
  constructor
  · rintro ⟨hall, hperm⟩
    have hreadable : ∀ a ∈ rows, Readable a := by
      intro a ha
      choose ids hids using hall
      have hmem := (hperm ids hids).mem_iff.2 (List.mem_map_of_mem ha)
      obtain ⟨k, -, hk⟩ := List.mem_flatMap.1 hmem
      obtain ⟨l, hl, hread, hshows⟩ := (hanswer k _).1 (hids k)
      rw [hshows] at hk
      obtain ⟨b, hb, hba⟩ := List.mem_map.1 hk
      obtain rfl := hinj b (hpage hl hb) a ha hba
      exact hread b hb
    refine ⟨hreadable, (concat_perm_iff (hid.of_map id) hlimit hn).1 fun lists hlists => ?_⟩
    have hids := hperm (fun k => (page limit k (lists k)).map id) fun k =>
      (hanswer k _).2 ⟨lists k, hlists k, fun a ha => hreadable a (hpage (hlists k) ha), rfl⟩
    rw [hshown] at hids
    have hnodup : ((concat limit lists n).map id).Nodup := hids.nodup_iff.2 hid
    refine (List.perm_ext_iff_of_nodup (hnodup.of_map id) (hid.of_map id)).2 fun a => ?_
    have hconcat : ∀ b ∈ concat limit lists n, b ∈ rows := by
      intro b hb
      obtain ⟨k, -, hk⟩ := List.mem_flatMap.1 hb
      exact hpage (hlists k) hk
    constructor
    · exact hconcat a
    · intro ha
      obtain ⟨b, hb, hba⟩ := List.mem_map.1 (hids.mem_iff.2 (List.mem_map_of_mem ha))
      obtain rfl := hinj b (hconcat b hb) a ha hba
      exact hb
  · rintro ⟨hreadable, htogether⟩
    constructor
    · intro k
      have horder : IsOrder key rows (Relational.sortBy key rows) :=
        ⟨Relational.perm_sortBy key rows, Relational.pairwise_sortBy key rows⟩
      exact ⟨_, (hanswer k _).2 ⟨_, horder, fun a ha => hreadable a (hpage horder ha), rfl⟩⟩
    · intro ids hids
      choose lists hlists hread hshows using fun k => (hanswer k (ids k)).1 (hids k)
      rw [funext hshows, hshown]
      have hperm := (concat_perm_iff (hid.of_map id) hlimit hn).2 htogether lists hlists
      exact hperm.map id

end Orders

end Pages
