import Mathlib.Data.List.Sort
import Mathlib.Data.List.Perm.Basic
import Mathlib.Data.Prod.Lex
import Mathlib.Tactic.Common

/-!
# Keyed tables

A table is a list of rows in which no two rows have the same key: the primary
key constraint is a field of the type, so a table that violates it cannot be
built.  The operations are those of a relational store: look a key up, select,
insert, update where, delete where.

A database is free to return the rows of a query in any order it likes.
`arrange` models that choice: it orders the rows by an arbitrary ranking of their
keys, so what it returns depends on the rows and on the ranking, not on the way
the table lists them (`arrange_congr`).
-/

set_option autoImplicit false

namespace Relational

variable {ρ κ : Type} {key : ρ → κ}

/-- A list of rows with pairwise distinct keys. -/
@[ext]
structure Table (key : ρ → κ) where
  rows : List ρ
  nodup : (rows.map key).Nodup

namespace Table

instance : Membership ρ (Table key) := ⟨fun t r => r ∈ t.rows⟩

/-- The rows of a table are its members. -/
@[simp]
theorem mem_rows {t : Table key} {r : ρ} : r ∈ t.rows ↔ r ∈ t := Iff.rfl

/-- The table without rows. -/
def empty (key : ρ → κ) : Table key := ⟨[], List.nodup_nil⟩

instance : Inhabited (Table key) := ⟨empty key⟩

/-- Two rows of a table with the same key are the same row. -/
theorem eq_of_key_eq {t : Table key} {r r' : ρ} (hr : r ∈ t) (hr' : r' ∈ t)
    (h : key r = key r') : r = r' :=
  List.inj_on_of_nodup_map t.nodup hr hr' h

/-- The rows that satisfy a condition. -/
def select (t : Table key) (p : ρ → Bool) : List ρ := t.rows.filter p

/-- The rows that a statement selects. -/
@[simp]
theorem mem_select {t : Table key} {p : ρ → Bool} {r : ρ} :
    r ∈ t.select p ↔ r ∈ t ∧ p r = true := List.mem_filter

/-- Two queries that retain the same rows return the same rows, in some order. -/
theorem perm_select {t t' : Table key} {p p' : ρ → Bool}
    (h : ∀ r, (r ∈ t ∧ p r = true) ↔ (r ∈ t' ∧ p' r = true)) :
    (t.select p).Perm (t'.select p') := by
  have hnodup : ∀ (t : Table key) (p : ρ → Bool), (t.select p).Nodup :=
    fun t p => (List.Nodup.of_map key t.nodup).filter p
  refine (List.perm_ext_iff_of_nodup (hnodup t p) (hnodup t' p')).2 fun r => ?_
  rw [mem_select, mem_select]
  exact h r

/-- Does some row satisfy a condition? -/
def any (t : Table key) (p : ρ → Bool) : Bool := t.rows.any p

/-- Some row is selected. -/
@[simp]
theorem any_eq_true {t : Table key} {p : ρ → Bool} :
    t.any p = true ↔ ∃ r ∈ t, p r = true := List.any_eq_true

/-- No row is selected. -/
@[simp]
theorem any_eq_false {t : Table key} {p : ρ → Bool} :
    t.any p = false ↔ ∀ r ∈ t, p r = false := by
  simp only [any, List.any_eq_false, mem_rows, Bool.not_eq_true]

/-- Update in place the rows that satisfy `p`; the update may not touch the key. -/
def update (t : Table key) (p : ρ → Bool) (f : ρ → ρ) (hf : ∀ r, key (f r) = key r) :
    Table key where
  rows := t.rows.map fun r => if p r then f r else r
  nodup := by
    have hkeys : (t.rows.map fun r => if p r then f r else r).map key = t.rows.map key := by
      rw [List.map_map]
      refine List.map_congr_left fun r _ => ?_
      by_cases h : p r <;> simp [h, hf]
    rw [hkeys]
    exact t.nodup

/-- Delete the rows that satisfy `p`. -/
def delete (t : Table key) (p : ρ → Bool) : Table key where
  rows := t.rows.filter fun r => !p r
  nodup := (List.filter_sublist.map key).nodup t.nodup

/-- The rows after an update. -/
theorem mem_update {t : Table key} {p : ρ → Bool} {f : ρ → ρ} {hf : ∀ r, key (f r) = key r}
    {r : ρ} : r ∈ t.update p f hf ↔ ∃ r₀ ∈ t, r = if p r₀ then f r₀ else r₀ := by
  show r ∈ List.map _ _ ↔ _
  rw [List.mem_map]
  exact exists_congr fun r₀ => and_congr_right fun _ => eq_comm

/-- Where an update sends a row. -/
theorem mem_update_of_mem {t : Table key} {p : ρ → Bool} {f : ρ → ρ}
    (hf : ∀ r, key (f r) = key r) {r : ρ} (h : r ∈ t) :
    (if p r then f r else r) ∈ t.update p f hf :=
  mem_update.2 ⟨r, h, rfl⟩

/-- The rows after a deletion. -/
@[simp]
theorem mem_delete {t : Table key} {p : ρ → Bool} {r : ρ} :
    r ∈ t.delete p ↔ r ∈ t ∧ p r = false := by
  show r ∈ List.filter _ _ ↔ _
  simp

/-- An update of rows outside a class, that leaves them outside, does not change the
rows of the class. -/
theorem mem_update_outside {t t' : Table key} {p : ρ → Bool} {f : ρ → ρ} {P : ρ → Prop}
    (ht' : t'.rows = t.rows.map fun r => if p r then f r else r)
    (h : ∀ r ∈ t, p r = true → ¬ P r ∧ ¬ P (f r)) {r : ρ} (hr : P r) : r ∈ t' ↔ r ∈ t := by
  rw [← mem_rows, ht', List.mem_map]
  constructor
  · rintro ⟨r₀, hr₀, rfl⟩
    split at hr
    · rename_i hp
      exact absurd hr (h r₀ hr₀ hp).2
    · rename_i hp
      rwa [if_neg hp]
  · intro hmem
    refine ⟨r, hmem, ?_⟩
    rw [if_neg fun hp => (h r hmem hp).1 hr]

/-- A deletion of rows outside a class does not change the rows of the class. -/
theorem mem_delete_outside {t : Table key} {p : ρ → Bool} {P : ρ → Prop}
    (h : ∀ r ∈ t, p r = true → ¬ P r) {r : ρ} (hr : P r) : r ∈ t.delete p ↔ r ∈ t := by
  rw [mem_delete]
  refine and_iff_left_of_imp fun hmem => ?_
  simpa using fun hp => h r hmem hp hr

/-- The number of rows an update or a deletion reports. -/
def count (t : Table key) (p : ρ → Bool) : ℕ := t.rows.countP p

/-- Two tables that select the same rows count the same. -/
theorem count_congr {t t' : Table key} {p p' : ρ → Bool}
    (h : ∀ r, (r ∈ t ∧ p r = true) ↔ (r ∈ t' ∧ p' r = true)) : t.count p = t'.count p' := by
  have hlength : (t.rows.filter p).length = (t'.rows.filter p').length := (perm_select h).length_eq
  rwa [← List.countP_eq_length_filter, ← List.countP_eq_length_filter] at hlength

/-- Some row is counted. -/
theorem count_pos {t : Table key} {p : ρ → Bool} : 0 < t.count p ↔ ∃ r ∈ t, p r = true :=
  List.countP_pos_iff

/-- No row is counted. -/
theorem count_eq_zero {t : Table key} {p : ρ → Bool} :
    t.count p = 0 ↔ ∀ r ∈ t, p r = false := by
  simp [count, List.countP_eq_zero]

/-- A condition that tells the key is met by one row at most. -/
theorem count_eq_one {t : Table key} {p : ρ → Bool} {r : ρ} (hr : r ∈ t) (hp : p r = true)
    (hkey : ∀ r', p r' = true → key r' = key r) : t.count p = 1 := by
  have hpos : 0 < t.count p := count_pos.2 ⟨r, hr, hp⟩
  have hnodup : (t.rows.filter p).Nodup := (List.Nodup.of_map key t.nodup).filter p
  have hsame : ∀ r' ∈ t.rows.filter p, r' = r := by
    intro r' hr'
    obtain ⟨hmem, hp'⟩ := List.mem_filter.1 hr'
    exact eq_of_key_eq hmem hr (hkey r' hp')
  have hle : (t.rows.filter p).length ≤ 1 := by
    by_contra hlt
    obtain ⟨x, y, rest, hxy⟩ : ∃ x y rest, t.rows.filter p = x :: y :: rest := by
      match hrows : t.rows.filter p with
      | [] | [_] => simp [hrows] at hlt
      | x :: y :: rest => exact ⟨x, y, rest, rfl⟩
    have hx : x = r := hsame x (by simp [hxy])
    have hy : y = r := hsame y (by simp [hxy])
    rw [hxy, hx, hy] at hnodup
    simp at hnodup
  have hcount : t.count p = (t.rows.filter p).length := List.countP_eq_length_filter
  omega

/-- A deletion that selects nothing. -/
theorem delete_eq_self {t : Table key} {p : ρ → Bool} (h : ∀ r ∈ t, p r = false) :
    t.delete p = t := by
  ext1
  show t.rows.filter _ = t.rows
  rw [List.filter_eq_self]
  intro r hr
  simp [h r hr]

/-- An update that changes nothing. -/
theorem update_eq_self {t : Table key} {p : ρ → Bool} {f : ρ → ρ}
    {hf : ∀ r, key (f r) = key r} (h : ∀ r ∈ t, p r = true → f r = r) :
    t.update p f hf = t := by
  ext1
  show t.rows.map _ = t.rows
  conv_rhs => rw [← List.map_id t.rows]
  refine List.map_congr_left fun r hr => ?_
  by_cases hp : p r
  · simp [hp, h r hr hp]
  · simp [hp]

section Lookup

variable [DecidableEq κ]

/-- The row with a given key. -/
def find? (t : Table key) (k : κ) : Option ρ := t.rows.find? fun r => key r = k

/-- The row of a key. -/
theorem find?_eq_some {t : Table key} {k : κ} {r : ρ} :
    t.find? k = some r ↔ r ∈ t ∧ key r = k := by
  constructor
  · intro h
    exact ⟨List.mem_of_find?_eq_some h, by simpa using List.find?_some h⟩
  · rintro ⟨hr, rfl⟩
    cases h : t.find? (key r) with
    | none =>
        have := List.find?_eq_none.1 h r hr
        simp at this
    | some r' =>
        have hr' : r' ∈ t := List.mem_of_find?_eq_some h
        have hk : key r' = key r := by simpa using List.find?_some h
        rw [eq_of_key_eq hr' hr hk]

/-- The absence of a row of a key. -/
theorem find?_eq_none {t : Table key} {k : κ} : t.find? k = none ↔ ∀ r ∈ t, key r ≠ k := by
  simp [find?, List.find?_eq_none]

/-- A row is found at its key. -/
theorem find?_key {t : Table key} {r : ρ} (hr : r ∈ t) : t.find? (key r) = some r :=
  find?_eq_some.2 ⟨hr, rfl⟩

/-- Insert a row, unless its key is taken. -/
def insert (t : Table key) (r : ρ) : Option (Table key) :=
  if h : key r ∈ t.rows.map key then none
  else some
    { rows := t.rows ++ [r]
      nodup := by
        rw [List.map_append, List.nodup_append]
        refine ⟨t.nodup, by simp, ?_⟩
        rintro a ha b hb rfl
        obtain rfl : a = key r := by simpa using hb
        exact h ha }

/-- An insertion succeeds when the key is free, and appends the row. -/
theorem insert_eq_some {t t' : Table key} {r : ρ} :
    t.insert r = some t' ↔ (∀ r' ∈ t, key r' ≠ key r) ∧ t'.rows = t.rows ++ [r] := by
  unfold insert
  split
  · rename_i h
    simp only [reduceCtorEq, false_iff, not_and]
    intro hfresh
    obtain ⟨r', hr', hk⟩ := List.mem_map.1 h
    exact absurd hk (hfresh r' hr')
  · rename_i h
    constructor
    · intro h'
      obtain rfl := Option.some.inj h'
      refine ⟨fun r' hr' hk => h (List.mem_map.2 ⟨r', hr', hk⟩), rfl⟩
    · rintro ⟨-, h'⟩
      congr 1
      ext1
      exact h'.symm

/-- The rows after an insertion. -/
theorem mem_of_insert {t t' : Table key} {r : ρ} (h : t.insert r = some t') {r' : ρ} :
    r' ∈ t' ↔ r' ∈ t ∨ r' = r := by
  rw [← mem_rows, (insert_eq_some.1 h).2]
  simp

/-- The insertion of a row outside a class does not change the rows of the class. -/
theorem mem_insert_outside {t t' : Table key} {r : ρ} (h : t.insert r = some t') {P : ρ → Prop}
    (hr : ¬ P r) {r' : ρ} (hr' : P r') : r' ∈ t' ↔ r' ∈ t := by
  rw [mem_of_insert h]
  refine or_iff_left ?_
  rintro rfl
  exact hr hr'

/-- What is found after an insertion. -/
theorem find?_of_insert {t t' : Table key} {r : ρ} (h : t.insert r = some t') (k : κ) :
    t'.find? k = (t.find? k).or (if key r = k then some r else none) := by
  unfold find?
  rw [(insert_eq_some.1 h).2, List.find?_append]
  congr 1
  by_cases hk : key r = k <;> simp [hk]

/-- What is found after an update. -/
@[simp]
theorem find?_update {t : Table key} {p : ρ → Bool} {f : ρ → ρ} {hf : ∀ r, key (f r) = key r}
    (k : κ) : (t.update p f hf).find? k = (t.find? k).map fun r => if p r then f r else r := by
  unfold find? update
  rw [List.find?_map]
  congr 2
  funext r
  by_cases h : p r <;> simp [h, hf]

/-- What is found after a deletion. -/
@[simp]
theorem find?_delete {t : Table key} {p : ρ → Bool} (k : κ) :
    (t.delete p).find? k = (t.find? k).filter fun r => !p r := by
  cases h : t.find? k with
  | none =>
      rw [Option.filter_none, find?_eq_none]
      intro r hr
      exact find?_eq_none.1 h r (mem_delete.1 hr).1
  | some r =>
      obtain ⟨hr, rfl⟩ := find?_eq_some.1 h
      by_cases hp : p r = true
      · rw [Option.filter_some, if_neg (by simp [hp]), find?_eq_none]
        intro r' hr' hk
        obtain ⟨hr', hp'⟩ := mem_delete.1 hr'
        rw [eq_of_key_eq hr' hr hk, hp] at hp'
        exact Bool.noConfusion hp'
      · have hp : p r = false := by simpa using hp
        rw [Option.filter_some, if_pos (by simp [hp])]
        exact find?_key (mem_delete.2 ⟨hr, hp⟩)

end Lookup

end Table

/-! ## The order in which rows are returned -/

section Order

/-- Stable sort by a key in a linear order: the order of a query's `ORDER BY`. -/
def sortBy {γ : Type} [LinearOrder γ] (f : ρ → γ) (l : List ρ) : List ρ :=
  l.insertionSort fun a b => f a ≤ f b

variable {γ : Type} [LinearOrder γ]

/-- Sorting permutes the rows. -/
theorem perm_sortBy (f : ρ → γ) (l : List ρ) : (sortBy f l).Perm l :=
  List.perm_insertionSort _ _

/-- Sorting keeps the rows. -/
@[simp]
theorem mem_sortBy {f : ρ → γ} {l : List ρ} {r : ρ} : r ∈ sortBy f l ↔ r ∈ l :=
  (perm_sortBy f l).mem_iff

/-- Sorting keeps their number. -/
@[simp]
theorem length_sortBy (f : ρ → γ) (l : List ρ) : (sortBy f l).length = l.length :=
  (perm_sortBy f l).length_eq

/-- Rows in order are left as they are. -/
theorem sortBy_of_sorted {f : ρ → γ} {l : List ρ} (h : l.Pairwise fun a b => f a ≤ f b) :
    sortBy f l = l :=
  h.insertionSort_eq

/-- The rows are sorted by their key. -/
theorem pairwise_sortBy (f : ρ → γ) (l : List ρ) :
    (sortBy f l).Pairwise fun a b => f a ≤ f b := by
  have : Std.Total (fun a b : ρ => f a ≤ f b) := ⟨fun a b => le_total (f a) (f b)⟩
  have : IsTrans ρ (fun a b : ρ => f a ≤ f b) := ⟨fun _ _ _ => le_trans⟩
  exact List.pairwise_insertionSort _ _

/-- Sorting by a key that tells the rows apart forgets how they were listed. -/
theorem sortBy_congr {f : ρ → γ} {l l' : List ρ} (h : l.Perm l')
    (hinj : ∀ a ∈ l, ∀ b ∈ l, f a = f b → a = b) : sortBy f l = sortBy f l' := by
  have : Std.Total (fun a b : ρ => f a ≤ f b) := ⟨fun a b => le_total (f a) (f b)⟩
  have : IsTrans ρ (fun a b : ρ => f a ≤ f b) := ⟨fun _ _ _ => le_trans⟩
  have hp : (sortBy f l).Perm (sortBy f l') :=
    (perm_sortBy f l).trans (h.trans (perm_sortBy f l').symm)
  refine hp.eq_of_pairwise ?_ (List.pairwise_insertionSort _ l) (List.pairwise_insertionSort _ l')
  intro a b ha hb hab hba
  exact hinj a (mem_sortBy.1 ha) b (h.mem_iff.2 (mem_sortBy.1 hb)) (le_antisymm hab hba)

variable [LinearOrder κ]

/-- The rows of a query without `ORDER BY`: some order, given by a ranking of the
keys that the database chooses. -/
def arrange (key : ρ → κ) (rank : κ → ℕ) (l : List ρ) : List ρ :=
  sortBy (fun r => toLex (rank (key r), key r)) l

/-- Any order of the database permutes the rows. -/
theorem perm_arrange (key : ρ → κ) (rank : κ → ℕ) (l : List ρ) : (arrange key rank l).Perm l :=
  perm_sortBy _ l

/-- Any order of the database keeps the rows. -/
@[simp]
theorem mem_arrange {rank : κ → ℕ} {l : List ρ} {r : ρ} : r ∈ arrange key rank l ↔ r ∈ l :=
  (perm_arrange key rank l).mem_iff

/-- Any order of the database keeps their number. -/
@[simp]
theorem length_arrange (key : ρ → κ) (rank : κ → ℕ) (l : List ρ) :
    (arrange key rank l).length = l.length :=
  (perm_arrange key rank l).length_eq

/-- A query may return its rows in any order. -/
theorem exists_arrange {l l' : List ρ} (h : l'.Perm l) (hkey : (l'.map key).Nodup) :
    ∃ rank, arrange key rank l = l' := by
  refine ⟨(l'.map key).idxOf, ?_⟩
  have hrank : ∀ i (hi : i < l'.length), (l'.map key).idxOf (key l'[i]) = i := by
    intro i hi
    have hindex := hkey.idxOf_getElem i (by rwa [List.length_map])
    rwa [List.getElem_map] at hindex
  have hinj : ∀ a ∈ l, ∀ b ∈ l, toLex ((l'.map key).idxOf (key a), key a) =
      toLex ((l'.map key).idxOf (key b), key b) → a = b := by
    intro a ha b hb hab
    have hk : key a = key b := congrArg (fun x => (ofLex x).2) hab
    exact List.inj_on_of_nodup_map hkey (h.mem_iff.2 ha) (h.mem_iff.2 hb) hk
  rw [arrange, sortBy_congr h.symm hinj]
  refine sortBy_of_sorted (List.pairwise_iff_getElem.2 fun i j hi hj hij => ?_)
  rw [hrank i hi, hrank j hj]
  exact (Prod.Lex.toLex_lt_toLex.2 (.inl hij)).le

/-- What a query returns depends on its rows and on the database's choice only. -/
theorem arrange_congr {rank : κ → ℕ} {l l' : List ρ} (h : l.Perm l')
    (hkey : (l.map key).Nodup) : arrange key rank l = arrange key rank l' := by
  refine sortBy_congr h fun a ha b hb hab => ?_
  have hk : key a = key b := by
    have := congrArg (fun x => (ofLex x).2) hab
    simpa using this
  exact List.inj_on_of_nodup_map hkey ha hb hk

/-- Two queries that retain the same rows return them in the same order. -/
theorem arrange_select {t t' : Table key} {p p' : ρ → Bool} {rank : κ → ℕ}
    (h : ∀ r, (r ∈ t ∧ p r = true) ↔ (r ∈ t' ∧ p' r = true)) :
    arrange key rank (t.select p) = arrange key rank (t'.select p') :=
  arrange_congr (Table.perm_select h) (List.Nodup.sublist (List.filter_sublist.map key) t.nodup)

end Order

end Relational
