import Budgy.Interface.Table
import Mathlib.Data.List.Forall2

/-!
# Clusters of close values

`clusters` sorts a list by a key, then goes through it once: an element joins the last
cluster when its key is near that of the first element of the cluster, and starts a cluster
otherwise.  Elements of one key stay together, so that the clusters do not depend on the
order of the list, up to the order inside each of them (`similar_clusters`).
-/

set_option autoImplicit false

namespace Clusters

open Relational

variable {α γ : Type} (f : α → γ) (near : γ → γ → Bool)

/-- One turn: the last cluster takes the element when its first key is near. -/
def add (clusters : List (List α)) (a : α) : List (List α) :=
  match clusters.getLast? with
  | some (first :: rest) =>
      if near (f first) (f a) then clusters.dropLast ++ [first :: rest ++ [a]]
      else clusters ++ [[a]]
  | _ => clusters ++ [[a]]

/-- The clusters of a list, by increasing keys. -/
def clusters [LinearOrder γ] (l : List α) : List (List α) := (sortBy f l).foldl (add f near) []

variable {f near} {a first : α} {rest l l' : List α} {c : List α} {cs cs' : List (List α)}

/-- The last cluster takes an element whose key is near. -/
theorem add_of_near (h : near (f first) (f a) = true) :
    add f near (cs ++ [first :: rest]) a = cs ++ [first :: rest ++ [a]] := by
  simp [add, h]

/-- An element whose key is not near starts a cluster. -/
theorem add_of_not_near (h : near (f first) (f a) = false) :
    add f near (cs ++ [first :: rest]) a = cs ++ [first :: rest] ++ [[a]] := by
  simp [add, h]

/-- A turn places its element after the others. -/
theorem flatten_add : (add f near cs a).flatten = cs.flatten ++ [a] := by
  unfold add
  split
  · rename_i first rest hlast
    obtain ⟨cs, rfl⟩ := List.getLast?_eq_some_iff.1 hlast
    split_ifs
    · simp
    · simp
  · simp

/-- The clusters hold the elements, in their order. -/
theorem flatten_foldl_add : (l.foldl (add f near) cs).flatten = cs.flatten ++ l := by
  induction l generalizing cs with
  | nil => simp
  | cons a l ih =>
      rw [List.foldl_cons, ih, flatten_add]
      simp

/-- A first element, and others whose keys are near its own. -/
def Around (f : α → γ) (near : γ → γ → Bool) (c : List α) : Prop :=
  ∃ first rest, c = first :: rest ∧ ∀ a ∈ rest, near (f first) (f a) = true

/-- An element that is added keeps every cluster around its first element. -/
theorem around_add (h : ∀ c ∈ cs, Around f near c) : ∀ c ∈ add f near cs a, Around f near c := by
  have hnew : ∀ c ∈ cs ++ [[a]], Around f near c := by
    intro c hc
    rcases List.mem_append.1 hc with hc | hc
    · exact h c hc
    · obtain rfl := List.mem_singleton.1 hc
      exact ⟨a, [], rfl, by simp⟩
  unfold add
  split
  · rename_i first rest hlast
    obtain ⟨cs, rfl⟩ := List.getLast?_eq_some_iff.1 hlast
    split_ifs with hnear
    · intro c hc
      rw [List.dropLast_concat] at hc
      rcases List.mem_append.1 hc with hc | hc
      · exact h c (List.mem_append_left _ hc)
      · obtain rfl := List.mem_singleton.1 hc
        obtain ⟨_, _, heq, hrest⟩ := h (first :: rest) (by simp)
        obtain ⟨rfl, rfl⟩ := List.cons.inj heq
        refine ⟨first, rest ++ [a], rfl, fun b hb => ?_⟩
        rcases List.mem_append.1 hb with hb | hb
        · exact hrest b hb
        · obtain rfl := List.mem_singleton.1 hb
          exact hnear
    · exact hnew
  · exact hnew

/-- So do the elements of a list. -/
theorem around_foldl_add (h : ∀ c ∈ cs, Around f near c) :
    ∀ c ∈ l.foldl (add f near) cs, Around f near c := by
  induction l generalizing cs with
  | nil => exact h
  | cons a l ih =>
      rw [List.foldl_cons]
      exact ih (around_add h)

/-- A cluster only grows. -/
theorem exists_subset_add (f : α → γ) (near : γ → γ → Bool) (a : α) (hc : c ∈ cs) :
    ∃ c' ∈ add f near cs a, c ⊆ c' := by
  have hnew : ∃ c' ∈ cs ++ [[a]], c ⊆ c' :=
    ⟨c, List.mem_append_left _ hc, List.Subset.refl c⟩
  unfold add
  split
  · rename_i first rest hlast
    obtain ⟨cs, rfl⟩ := List.getLast?_eq_some_iff.1 hlast
    split_ifs
    · rw [List.dropLast_concat]
      rcases List.mem_append.1 hc with hc | hc
      · exact ⟨c, List.mem_append_left _ hc, List.Subset.refl c⟩
      · obtain rfl := List.mem_singleton.1 hc
        exact ⟨_, List.mem_append_right _ (List.mem_singleton_self _),
          List.subset_append_left _ _⟩
    · exact hnew
  · exact hnew

/-- A cluster only grows. -/
theorem exists_subset_foldl_add (f : α → γ) (near : γ → γ → Bool) (l : List α) (hc : c ∈ cs) :
    ∃ c' ∈ l.foldl (add f near) cs, c ⊆ c' := by
  induction l generalizing cs c with
  | nil => exact ⟨c, hc, List.Subset.refl c⟩
  | cons a l ih =>
      obtain ⟨c', hc', hsub⟩ := exists_subset_add f near a hc
      obtain ⟨c'', hc'', hsub'⟩ := ih hc'
      exact ⟨c'', hc'', List.Subset.trans hsub hsub'⟩

/-- After a turn the last cluster has the element, and starts with it or with an earlier
element whose key is near. -/
theorem exists_last_add (f : α → γ) (near : γ → γ → Bool) (cs : List (List α)) (a : α) :
    ∃ cs' first rest, add f near cs a = cs' ++ [first :: rest] ∧ a ∈ first :: rest ∧
      (first = a ∨ first ∈ cs.flatten ∧ near (f first) (f a) = true) := by
  have hnew : ∃ cs' first rest, cs ++ [[a]] = cs' ++ [first :: rest] ∧ a ∈ first :: rest ∧
      (first = a ∨ first ∈ cs.flatten ∧ near (f first) (f a) = true) :=
    ⟨cs, a, [], rfl, List.mem_cons_self, Or.inl rfl⟩
  unfold add
  split
  · rename_i first rest hlast
    obtain ⟨cs, rfl⟩ := List.getLast?_eq_some_iff.1 hlast
    split_ifs with hnear
    · rw [List.dropLast_concat]
      exact ⟨cs, first, rest ++ [a], rfl, by simp, Or.inr ⟨by simp, hnear⟩⟩
    · exact hnew
  · exact hnew

/-! ## Elements of one key -/

/-- The last cluster takes every element that is near. -/
theorem foldl_add_of_near (hnear : ∀ a ∈ l, near (f first) (f a) = true) :
    l.foldl (add f near) (cs ++ [first :: rest]) = cs ++ [first :: rest ++ l] := by
  induction l generalizing rest with
  | nil => simp
  | cons a l ih =>
      have ha : near (f first) (f a) = true := hnear a List.mem_cons_self
      have hrest : l.foldl (add f near) (cs ++ [first :: (rest ++ [a])]) =
          cs ++ [first :: (rest ++ [a]) ++ l] :=
        ih fun b hb => hnear b (List.mem_cons_of_mem a hb)
      rw [List.foldl_cons, add_of_near ha]
      simpa using hrest

/-- Elements of one key start one cluster. -/
theorem foldl_add_new {x : γ} (hrefl : near x x = true) (hne : l ≠ [])
    (hl : ∀ a ∈ l, f a = x) (hstart : ∀ a, f a = x → add f near cs a = cs ++ [[a]]) :
    l.foldl (add f near) cs = cs ++ [l] := by
  cases l with
  | nil => exact absurd rfl hne
  | cons a l =>
      have ha : f a = x := hl a List.mem_cons_self
      have hrest : ∀ b ∈ l, f b = x := fun b hb => hl b (List.mem_cons_of_mem a hb)
      rw [List.foldl_cons, hstart a ha]
      exact foldl_add_of_near fun b hb => by rw [ha, hrest b hb, hrefl]

/-! ## The order of the list -/

/-- The same clusters, each in some order, after first elements of the same key. -/
inductive Similar (f : α → γ) : List (List α) → List (List α) → Prop where
  | nil : Similar f [] []
  | snoc {cs cs' : List (List α)} {a a' : α} {rest rest' : List α} (h : Similar f cs cs')
      (hkey : f a = f a') (hperm : (a :: rest).Perm (a' :: rest')) :
      Similar f (cs ++ [a :: rest]) (cs' ++ [a' :: rest'])

/-- A cluster of one list has its counterpart, up to the order, in a similar list. -/
theorem Similar.exists_perm (h : Similar f cs cs') (hc : c ∈ cs) : ∃ c' ∈ cs', c.Perm c' := by
  induction h with
  | nil => exact absurd hc List.not_mem_nil
  | snoc _ _ hperm ih =>
      rcases List.mem_append.1 hc with hc | hc
      · obtain ⟨c', hc', hperm⟩ := ih hc
        exact ⟨c', List.mem_append_left _ hc', hperm⟩
      · obtain rfl := List.mem_singleton.1 hc
        exact ⟨_, List.mem_append_right _ (List.mem_singleton_self _), hperm⟩

/-- A cluster more, of elements of one key. -/
theorem Similar.snoc_of_key {x : γ} (hcs : Similar f cs cs') (hne : l ≠ []) (h : l.Perm l')
    (hl : ∀ a ∈ l, f a = x) : Similar f (cs ++ [l]) (cs' ++ [l']) := by
  have hne' : l' ≠ [] := fun hnil => hne (List.perm_nil.1 (hnil ▸ h))
  obtain ⟨a, m, rfl⟩ := List.exists_cons_of_ne_nil hne
  obtain ⟨a', m', rfl⟩ := List.exists_cons_of_ne_nil hne'
  have ha : f a = x := hl a List.mem_cons_self
  have ha' : f a' = x := hl a' (h.mem_iff.2 List.mem_cons_self)
  exact .snoc hcs (ha.trans ha'.symm) h

/-- Elements of one key, in any order, keep the clusters similar. -/
theorem Similar.foldl_add {x : γ} (hrefl : near x x = true) (hcs : Similar f cs cs')
    (hne : l ≠ []) (h : l.Perm l') (hl : ∀ a ∈ l, f a = x) :
    Similar f (l.foldl (add f near) cs) (l'.foldl (add f near) cs') := by
  have hne' : l' ≠ [] := fun hnil => hne (List.perm_nil.1 (hnil ▸ h))
  have hl' : ∀ a ∈ l', f a = x := fun a ha => hl a (h.mem_iff.2 ha)
  cases hcs with
  | nil =>
      rw [foldl_add_new hrefl hne hl fun _ _ => rfl, foldl_add_new hrefl hne' hl' fun _ _ => rfl]
      exact Similar.nil.snoc_of_key hne h hl
  | @snoc cs cs' first first' rest rest' hcs hkey hperm =>
      cases hnear : near (f first) x with
      | true =>
          have hrest : ∀ a ∈ l, near (f first) (f a) = true := fun a ha => by rw [hl a ha, hnear]
          have hrest' : ∀ a ∈ l', near (f first') (f a) = true := fun a ha => by
            rw [← hkey, hl' a ha, hnear]
          rw [foldl_add_of_near hrest, foldl_add_of_near hrest']
          exact .snoc hcs hkey (hperm.append h)
      | false =>
          have hstart : ∀ a, f a = x → near (f first) (f a) = false := by
            rintro a rfl
            exact hnear
          rw [foldl_add_new hrefl hne hl fun a ha => add_of_not_near (hstart a ha),
            foldl_add_new hrefl hne' hl' fun a ha => add_of_not_near (hkey ▸ hstart a ha)]
          exact (Similar.snoc hcs hkey hperm).snoc_of_key hne h hl

section Sorted

variable [LinearOrder γ]

/-- A sorted list starts with the elements of its low keys. -/
theorem filter_append_filter_of_low {p : α → Prop} [DecidablePred p]
    (hl : l.Pairwise fun a b => f a ≤ f b) (hp : ∀ a b, f a ≤ f b → p b → p a) :
    l.filter (fun a => p a) ++ l.filter (fun a => ¬ p a) = l := by
  induction l with
  | nil => rfl
  | cons a l ih =>
      obtain ⟨hfirst, hrest⟩ := List.pairwise_cons.1 hl
      have hih := ih hrest
      by_cases ha : p a
      · simpa [ha] using hih
      · -- every key is beyond that of the first element
        have hnot : ∀ b ∈ a :: l, ¬ p b := by
          intro b hb
          rcases List.mem_cons.1 hb with rfl | hb
          · exact ha
          · exact fun hpb => ha (hp a b (hfirst b hb) hpb)
        have hnone : (a :: l).filter (fun b => p b) = [] := by
          simpa [List.filter_eq_nil_iff] using hnot
        have hall : (a :: l).filter (fun b => ¬ p b) = a :: l := by
          simpa [List.filter_eq_self] using hnot
        rw [hnone, hall, List.nil_append]

/-- A sorted list starts with the elements of its least key. -/
theorem filter_append_filter {x : γ} (hl : l.Pairwise fun a b => f a ≤ f b)
    (hx : ∀ a ∈ l, x ≤ f a) :
    l.filter (fun a => f a = x) ++ l.filter (fun a => ¬ f a = x) = l := by
  have hlow := filter_append_filter_of_low (p := fun a => f a ≤ x) hl
    fun a b hab hb => le_trans hab hb
  have hiff : ∀ a ∈ l, (f a = x ↔ f a ≤ x) := fun a ha =>
    ⟨fun h => h.le, fun h => le_antisymm h (hx a ha)⟩
  rw [List.filter_congr fun a ha => decide_eq_decide.2 (hiff a ha),
    List.filter_congr fun a ha => decide_eq_decide.2 (not_congr (hiff a ha))]
  exact hlow

/-- Two sorted lists of the same elements keep the clusters similar. -/
theorem Similar.foldl_add_sorted (hrefl : ∀ x, near x x = true) (hcs : Similar f cs cs')
    (h : l.Perm l') (hl : l.Pairwise fun a b => f a ≤ f b)
    (hl' : l'.Pairwise fun a b => f a ≤ f b) :
    Similar f (l.foldl (add f near) cs) (l'.foldl (add f near) cs') := by
  -- the elements of the least key first, then the others
  induction hn : l.length using Nat.strong_induction_on generalizing l l' cs cs' with
  | _ n ih =>
      cases l with
      | nil =>
          obtain rfl := List.perm_nil.1 h.symm
          exact hcs
      | cons a m =>
          have hx : ∀ b ∈ a :: m, f a ≤ f b := by
            intro b hb
            rcases List.mem_cons.1 hb with rfl | hb
            · exact le_rfl
            · exact (List.pairwise_cons.1 hl).1 b hb
          have hx' : ∀ b ∈ l', f a ≤ f b := fun b hb => hx b (h.mem_iff.2 hb)
          have hne : (a :: m).filter (fun b => f b = f a) ≠ [] := by simp
          have hblock : ∀ b ∈ (a :: m).filter (fun b => f b = f a), f b = f a := by
            intro b hb
            simpa using (List.mem_filter.1 hb).2
          have hshorter : ((a :: m).filter fun b => ¬ f b = f a).length < n := by
            have hle := List.length_filter_le (fun b => decide (¬ f b = f a)) m
            simp only [List.length_cons] at hn
            simp only [not_true_eq_false, decide_false, Bool.false_eq_true, not_false_eq_true,
              List.filter_cons_of_neg]
            omega
          rw [← filter_append_filter hl hx, ← filter_append_filter hl' hx', List.foldl_append,
            List.foldl_append]
          exact ih _ hshorter (hcs.foldl_add (hrefl _) hne (h.filter _) hblock) (h.filter _)
            (hl.filter _) (hl'.filter _) rfl

/-- The clusters of a list do not depend on its order. -/
theorem similar_clusters (hrefl : ∀ x, near x x = true) (h : l.Perm l') :
    Similar f (clusters f near l) (clusters f near l') := by
  have hsorted : (sortBy f l).Perm (sortBy f l') :=
    (perm_sortBy f l).trans (h.trans (perm_sortBy f l').symm)
  exact Similar.nil.foldl_add_sorted hrefl hsorted (pairwise_sortBy f l) (pairwise_sortBy f l')

/-- The clusters share the sorted list out. -/
theorem flatten_clusters : (clusters f near l).flatten = sortBy f l := flatten_foldl_add

/-- A cluster follows the order of the keys. -/
theorem sublist_of_mem_clusters (hc : c ∈ clusters f near l) : c.Sublist (sortBy f l) := by
  rw [← @flatten_clusters _ _ _ near]
  exact List.sublist_flatten_of_mem hc

/-- The elements of a cluster are elements of the list. -/
theorem mem_of_mem_clusters (hc : c ∈ clusters f near l) (ha : a ∈ c) : a ∈ l :=
  mem_sortBy.1 ((sublist_of_mem_clusters hc).subset ha)

/-- A cluster starts with its least key, and the others are near it. -/
theorem around_of_mem_clusters (hc : c ∈ clusters f near l) :
    ∃ first rest, c = first :: rest ∧ ∀ a ∈ rest, f first ≤ f a ∧ near (f first) (f a) = true := by
  obtain ⟨first, rest, rfl, hnear⟩ := around_foldl_add (fun _ h => absurd h List.not_mem_nil) c hc
  have hsorted := (pairwise_sortBy f l).sublist (sublist_of_mem_clusters hc)
  exact ⟨first, rest, rfl, fun a ha => ⟨(List.pairwise_cons.1 hsorted).1 a ha, hnear a ha⟩⟩

/-! ## Elements of close keys -/

/-- The elements of a sorted list below a key, from it to another, and beyond. -/
theorem exists_split_of_sorted {x y : γ} (hl : l.Pairwise fun a b => f a ≤ f b) (hxy : x ≤ y)
    (hx : ∃ a ∈ l, f a = x) :
    ∃ below a between beyond, l = below ++ (a :: between ++ beyond) ∧ f a = x ∧
      (∀ b ∈ below, f b < x) ∧ (∀ b ∈ between, x ≤ f b ∧ f b ≤ y) ∧ ∀ b ∈ beyond, y < f b := by
  obtain ⟨rest, hrest⟩ : ∃ rest, rest = l.filter fun a => ¬ f a < x := ⟨_, rfl⟩
  have hsplit : l.filter (fun a => f a < x) ++ rest = l := by
    rw [hrest]
    exact filter_append_filter_of_low hl fun a b hab hb => lt_of_le_of_lt hab hb
  have hsorted : rest.Pairwise fun a b => f a ≤ f b := hrest ▸ hl.filter _
  have hmem : ∀ a, a ∈ rest ↔ a ∈ l ∧ x ≤ f a := by
    intro a
    rw [hrest, List.mem_filter]
    simp
  obtain ⟨a, m, rfl⟩ : ∃ a m, rest = a :: m := by
    obtain ⟨a, ha, hax⟩ := hx
    exact List.exists_cons_of_ne_nil (List.ne_nil_of_mem ((hmem a).2 ⟨ha, hax.ge⟩))
  have ha : f a = x := by
    obtain ⟨b, hb, rfl⟩ := hx
    refine le_antisymm ?_ ((hmem a).1 List.mem_cons_self).2
    rcases List.mem_cons.1 ((hmem b).2 ⟨hb, le_rfl⟩) with rfl | hb
    · exact le_rfl
    · exact (List.pairwise_cons.1 hsorted).1 b hb
  refine ⟨l.filter fun a => f a < x, a, m.filter fun b => f b ≤ y, m.filter fun b => ¬ f b ≤ y,
    ?_, ha, ?_, ?_, ?_⟩
  · rw [List.cons_append, filter_append_filter_of_low hsorted.of_cons
      fun a b hab hb => le_trans hab hb, hsplit]
  · intro b hb
    simpa using (List.mem_filter.1 hb).2
  · intro b hb
    obtain ⟨hb, hby⟩ := List.mem_filter.1 hb
    exact ⟨((hmem b).1 (List.mem_cons_of_mem a hb)).2, by simpa using hby⟩
  · intro b hb
    simpa using (List.mem_filter.1 hb).2

/-- Elements whose keys stand between two of them are in one cluster, when the elements that
could take the least of them take them all. -/
theorem exists_cluster_of_between {x y : γ} (hrefl : ∀ z, near z z = true) (hxy : x ≤ y)
    (hx : ∃ a ∈ l, f a = x)
    (hnear : ∀ b ∈ l, f b ≤ x → near (f b) x = true → ∀ a ∈ l, x ≤ f a → f a ≤ y →
      near (f b) (f a) = true) :
    ∃ c ∈ clusters f near l, ∀ a ∈ l, x ≤ f a → f a ≤ y → a ∈ c := by
  obtain ⟨a₀, ha₀, hxa₀⟩ := hx
  obtain ⟨below, a, between, beyond, hsplit, ha, hbelow, hbetween, hbeyond⟩ :=
    exists_split_of_sorted (y := y) (pairwise_sortBy f l) hxy ⟨a₀, mem_sortBy.2 ha₀, hxa₀⟩
  have hmem : ∀ b, b ∈ l ↔ b ∈ below ++ (a :: between ++ beyond) := fun b =>
    hsplit ▸ mem_sortBy.symm
  -- the cluster of the first of them takes the others
  obtain ⟨cs, first, rest, hcs, hmemfirst, hfirst⟩ :=
    exists_last_add f near (below.foldl (add f near) []) a
  have htake : ∀ b ∈ between, near (f first) (f b) = true := by
    intro b hb
    obtain ⟨hxb, hby⟩ := hbetween b hb
    have hbl : b ∈ l := (hmem b).2 (by simp [hb])
    rcases hfirst with rfl | ⟨hmembelow, hnearfirst⟩
    · exact hnear _ ((hmem _).2 (by simp)) ha.le (ha ▸ hrefl _) b hbl hxb hby
    · rw [flatten_foldl_add, List.flatten_nil, List.nil_append] at hmembelow
      exact hnear _ ((hmem _).2 (List.mem_append_left _ hmembelow)) (hbelow _ hmembelow).le
        (ha ▸ hnearfirst) b hbl hxb hby
  have hclusters : clusters f near l =
      beyond.foldl (add f near) (cs ++ [first :: rest ++ between]) := by
    unfold clusters
    rw [hsplit, List.foldl_append, List.foldl_append, List.foldl_cons, hcs,
      foldl_add_of_near htake]
  obtain ⟨c, hc, hsub⟩ := exists_subset_foldl_add f near beyond
    (List.mem_append_right cs (List.mem_singleton_self (first :: rest ++ between)))
  refine ⟨c, hclusters ▸ hc, fun b hb hxb hby => hsub ?_⟩
  rcases List.mem_append.1 ((hmem b).1 hb) with hb | hb
  · exact absurd hxb (not_le.2 (hbelow b hb))
  · rcases List.mem_append.1 hb with hb | hb
    · rcases List.mem_cons.1 hb with rfl | hb
      · exact List.mem_append_left _ hmemfirst
      · exact List.mem_append_right _ hb
    · exact absurd hby (not_le.2 (hbeyond b hb))

end Sorted

end Clusters
