import Mathlib.Logic.Function.Basic
import Budgy.Interface.Table

/-!
# Views of a table

A view is the finite map that some rows of a table make: an index that identifies a row
among the rows that are shown, and what is shown of the row.  Insertions, updates and
deletions act on a view as the operations of a map.
-/

set_option autoImplicit false

namespace Relational

namespace Table

variable {ρ κ ι φ : Type} {key : ρ → κ}

/-- The index tells the rows that satisfy `p` apart. -/
def IndexedBy (t : Table key) (p : ρ → Bool) (index : ρ → ι) : Prop :=
  ∀ r ∈ t, ∀ r' ∈ t, p r = true → p r' = true → index r = index r' → r = r'

/-- The key is an index. -/
theorem indexedBy_key (t : Table key) (p : ρ → Bool) : t.IndexedBy p key :=
  fun _ hr _ hr' _ _ h => eq_of_key_eq hr hr' h

variable {t t' : Table key} {p : ρ → Bool} {index : ρ → ι}

/-- An update that keeps the index of the rows. -/
theorem IndexedBy.update (ht : t.IndexedBy p index) {q : ρ → Bool} {g : ρ → ρ}
    {hg : ∀ r, key (g r) = key r} (hkeep : ∀ r, p (g r) = p r ∧ index (g r) = index r) :
    (t.update q g hg).IndexedBy p index := by
  have hsame : ∀ r, p (if q r then g r else r) = p r ∧
      index (if q r then g r else r) = index r := by
    intro r
    split
    · exact hkeep r
    · exact ⟨rfl, rfl⟩
  intro r₁ h₁ r₂ h₂ hp₁ hp₂ hindex
  obtain ⟨r₁, hr₁, rfl⟩ := mem_update.1 h₁
  obtain ⟨r₂, hr₂, rfl⟩ := mem_update.1 h₂
  rw [(hsame r₁).1] at hp₁
  rw [(hsame r₂).1] at hp₂
  rw [(hsame r₁).2, (hsame r₂).2] at hindex
  rw [ht r₁ hr₁ r₂ hr₂ hp₁ hp₂ hindex]

variable [DecidableEq ι] {f : ρ → φ} {i : ι} {y : φ}

/-- What the rows that satisfy `p` show under their index. -/
def view (t : Table key) (p : ρ → Bool) (index : ρ → ι) (f : ρ → φ) (i : ι) : Option φ :=
  (t.rows.find? fun r => p r && index r = i).map f

/-- The value of an index, when the index holds one row at most. -/
theorem view_eq_some (ht : t.IndexedBy p index) :
    t.view p index f i = some y ↔ ∃ r ∈ t, p r = true ∧ index r = i ∧ f r = y := by
  unfold view
  rw [Option.map_eq_some_iff]
  constructor
  · rintro ⟨r, hfind, hy⟩
    have hcond : p r = true ∧ index r = i := by simpa using List.find?_some hfind
    exact ⟨r, List.mem_of_find?_eq_some hfind, hcond.1, hcond.2, hy⟩
  · rintro ⟨r, hr, hp, hindex, hy⟩
    cases hfind : t.rows.find? fun r => p r && index r = i with
    | none =>
        have hnone := List.find?_eq_none.1 hfind r hr
        simp [hp, hindex] at hnone
    | some r' =>
        have hcond : p r' = true ∧ index r' = i := by simpa using List.find?_some hfind
        have heq := ht r hr r' (List.mem_of_find?_eq_some hfind) hp hcond.1
          (hindex.trans hcond.2.symm)
        exact ⟨r', rfl, heq ▸ hy⟩

/-- The absence of a value. -/
theorem view_eq_none : t.view p index f i = none ↔ ∀ r ∈ t, p r = true → index r ≠ i := by
  simp [view, List.find?_eq_none]

/-- The presence of a value. -/
theorem view_ne_none : t.view p index f i ≠ none ↔ ∃ r ∈ t, p r = true ∧ index r = i := by
  rw [Ne, view_eq_none]
  push Not
  rfl

/-- A view only depends on the rows it shows. -/
theorem view_congr (ht : t.IndexedBy p index) (ht' : t'.IndexedBy p index)
    (h : ∀ r, p r = true → (r ∈ t' ↔ r ∈ t)) : t'.view p index f = t.view p index f := by
  funext i
  apply Option.ext
  intro y
  rw [view_eq_some ht', view_eq_some ht]
  constructor
  · rintro ⟨r, hr, hp, hrest⟩
    exact ⟨r, (h r hp).1 hr, hp, hrest⟩
  · rintro ⟨r, hr, hp, hrest⟩
    exact ⟨r, (h r hp).2 hr, hp, hrest⟩

/-- The insertion of a row of the view sets its index. -/
theorem view_insert [DecidableEq κ] (ht : t.IndexedBy p index) (ht' : t'.IndexedBy p index)
    {r : ρ} (h : t.insert r = some t') (hp : p r = true) :
    t'.view p index f = Function.update (t.view p index f) (index r) (some (f r)) := by
  funext i
  apply Option.ext
  intro y
  rw [view_eq_some ht']
  by_cases hi : i = index r
  · subst hi
    rw [Function.update_self]
    constructor
    · rintro ⟨r', hr', hp', hindex, hy⟩
      have heq := ht' r' hr' r ((mem_of_insert h).2 (.inr rfl)) hp' hp hindex
      rw [← hy, heq]
    · intro hy
      exact ⟨r, (mem_of_insert h).2 (.inr rfl), hp, rfl, Option.some.inj hy⟩
  · rw [Function.update_of_ne hi, view_eq_some ht]
    constructor
    · rintro ⟨r', hr', hp', hindex, hy⟩
      rcases (mem_of_insert h).1 hr' with hr' | rfl
      · exact ⟨r', hr', hp', hindex, hy⟩
      · exact absurd hindex.symm hi
    · rintro ⟨r', hr', hrest⟩
      exact ⟨r', (mem_of_insert h).2 (.inl hr'), hrest⟩

/-- An update of the row under one index. -/
theorem view_update (ht : t.IndexedBy p index) {q : ρ → Bool} {g : ρ → ρ}
    {hg : ∀ r, key (g r) = key r}
    (hq : ∀ r ∈ t, q r = true ↔ p r = true ∧ index r = i)
    (hkeep : ∀ r, p (g r) = p r ∧ index (g r) = index r) (hy : ∀ r, f (g r) = y) :
    (t.update q g hg).view p index f =
      if (t.view p index f i).isSome then Function.update (t.view p index f) i (some y)
      else t.view p index f := by
  by_cases hpresent : (t.view p index f i).isSome = true
  · rw [if_pos hpresent]
    funext j
    apply Option.ext
    intro z
    rw [view_eq_some (ht.update hkeep)]
    by_cases hj : j = i
    · subst hj
      rw [Function.update_self]
      constructor
      · rintro ⟨r', hr', hp, hindex, hz⟩
        obtain ⟨r, hr, rfl⟩ := mem_update.1 hr'
        split at hp
        · rename_i hqr
          rw [if_pos hqr, hy] at hz
          rw [hz]
        · rename_i hqr
          rw [if_neg hqr] at hindex
          exact absurd ((hq r hr).2 ⟨hp, hindex⟩) hqr
      · intro hz
        obtain rfl := Option.some.inj hz
        obtain ⟨z, hz⟩ := Option.isSome_iff_exists.1 hpresent
        obtain ⟨r, hr, hp, hindex, -⟩ := (view_eq_some ht).1 hz
        have hqr := (hq r hr).2 ⟨hp, hindex⟩
        refine ⟨g r, mem_update.2 ⟨r, hr, (if_pos hqr).symm⟩, ?_, ?_, hy r⟩
        · rw [(hkeep r).1, hp]
        · rw [(hkeep r).2, hindex]
    · rw [Function.update_of_ne hj, view_eq_some ht]
      constructor
      · rintro ⟨r', hr', hp, hindex, hz⟩
        obtain ⟨r, hr, rfl⟩ := mem_update.1 hr'
        split at hp
        · rename_i hqr
          rw [if_pos hqr, (hkeep r).2, ((hq r hr).1 hqr).2] at hindex
          exact absurd hindex.symm hj
        · rename_i hqr
          rw [if_neg hqr] at hindex hz
          exact ⟨r, hr, hp, hindex, hz⟩
      · rintro ⟨r, hr, hp, hindex, hz⟩
        have hqr : ¬ q r = true := fun hqr => hj (hindex.symm.trans ((hq r hr).1 hqr).2)
        exact ⟨r, mem_update.2 ⟨r, hr, (if_neg hqr).symm⟩, hp, hindex, hz⟩
  · rw [if_neg hpresent]
    have hnone : t.view p index f i = none := by simpa using hpresent
    rw [update_eq_self]
    intro r hr hqr
    obtain ⟨hp, hindex⟩ := (hq r hr).1 hqr
    exact absurd hindex (view_eq_none.1 hnone r hr hp)

/-- The same, when there is such a row. -/
theorem view_update_of_ne_none (ht : t.IndexedBy p index) {q : ρ → Bool} {g : ρ → ρ}
    {hg : ∀ r, key (g r) = key r} (hpresent : t.view p index f i ≠ none)
    (hq : ∀ r ∈ t, q r = true ↔ p r = true ∧ index r = i)
    (hkeep : ∀ r, p (g r) = p r ∧ index (g r) = index r) (hy : ∀ r, f (g r) = y) :
    (t.update q g hg).view p index f = Function.update (t.view p index f) i (some y) := by
  rw [view_update ht hq hkeep hy, if_pos (Option.isSome_iff_ne_none.2 hpresent)]

/-- A deletion of the rows under some indices. -/
theorem view_delete (ht : t.IndexedBy p index) {q : ρ → Bool} {P : ι → Prop} [DecidablePred P]
    (hq : ∀ r ∈ t, p r = true → (q r = true ↔ P (index r))) :
    (t.delete q).view p index f = fun i => if P i then none else t.view p index f i := by
  have ht' : (t.delete q).IndexedBy p index := by
    intro r hr r' hr'
    exact ht r (mem_delete.1 hr).1 r' (mem_delete.1 hr').1
  funext i
  split
  · rename_i hP
    apply view_eq_none.2
    rintro r hr hp rfl
    obtain ⟨hr, hqr⟩ := mem_delete.1 hr
    rw [(hq r hr hp).2 hP] at hqr
    cases hqr
  · rename_i hP
    apply Option.ext
    intro y
    rw [view_eq_some ht', view_eq_some ht]
    constructor
    · rintro ⟨r, hr, hrest⟩
      exact ⟨r, (mem_delete.1 hr).1, hrest⟩
    · rintro ⟨r, hr, hp, rfl, hy⟩
      refine ⟨r, mem_delete.2 ⟨hr, ?_⟩, hp, rfl, hy⟩
      have hqr : ¬ q r = true := fun hqr => hP ((hq r hr hp).1 hqr)
      simpa using hqr

/-! ## Lists that show a map -/

/-- The list shows the map: each index once, with its value. -/
structure Shows {α : Type} (l : List α) (index : α → ι) (f : α → φ) (m : ι → Option φ) :
    Prop where
  nodup : (l.map index).Nodup
  mem_iff : ∀ i y, (∃ a ∈ l, index a = i ∧ f a = y) ↔ m i = some y

omit [DecidableEq ι] in
/-- What a mapped list shows. -/
theorem shows_map {α β : Type} {g : α → β} {l : List α} {index : β → ι} {f : β → φ}
    {m : ι → Option φ} :
    Shows (l.map g) index f m ↔ Shows l (fun a => index (g a)) (fun a => f (g a)) m := by
  constructor
  · rintro ⟨hnodup, hmem⟩
    refine ⟨by simpa [Function.comp_def] using hnodup, fun i y => ?_⟩
    rw [← hmem]
    simp
  · rintro ⟨hnodup, hmem⟩
    refine ⟨by simpa [Function.comp_def] using hnodup, fun i y => ?_⟩
    rw [← hmem]
    simp

/-- A query of the rows of a view, in any order. -/
theorem shows_view (ht : t.IndexedBy p index) {l : List ρ} (hl : l.Perm (t.select p)) :
    Shows l index f (t.view p index f) where
  nodup := by
    have hrows : (t.select p).Nodup := (List.Nodup.of_map key t.nodup).filter p
    have hindex : ((t.select p).map index).Nodup := by
      apply hrows.map_on
      intro r hr r' hr' h
      obtain ⟨hr, hp⟩ := mem_select.1 hr
      obtain ⟨hr', hp'⟩ := mem_select.1 hr'
      exact ht r hr r' hr' hp hp' h
    exact (hl.map index).nodup_iff.2 hindex
  mem_iff := by
    intro i y
    rw [view_eq_some ht]
    constructor
    · rintro ⟨r, hr, hrest⟩
      obtain ⟨hr, hp⟩ := mem_select.1 (hl.mem_iff.1 hr)
      exact ⟨r, hr, hp, hrest⟩
    · rintro ⟨r, hr, hp, hrest⟩
      exact ⟨r, hl.mem_iff.2 (mem_select.2 ⟨hr, hp⟩), hrest⟩

/-! ## The row an update returns -/

section Returned

variable {q : ρ → Bool} {k : κ}

/-- No row of the key is selected. -/
theorem filter_find?_eq_none (hq : ∀ r, q r = true → key r = k) [DecidableEq κ] :
    (t.find? k).filter q = none ↔ ∀ r ∈ t, q r = false := by
  constructor
  · intro h r hr
    by_contra hqr
    have hqr : q r = true := by simpa using hqr
    have hfind : t.find? k = some r := hq r hqr ▸ find?_key hr
    rw [hfind] at h
    simp [Option.filter, hqr] at h
  · intro h
    apply Option.filter_eq_none_iff.2
    intro r hr
    simp [h r (find?_eq_some.1 hr).1]

/-- An update that keeps its condition returns the row it found, updated. -/
theorem filter_find?_update [DecidableEq κ] {g : ρ → ρ} {hg : ∀ r, key (g r) = key r}
    (hkeep : ∀ r, q (g r) = q r) :
    ((t.update q g hg).find? k).filter q = ((t.find? k).filter q).map g := by
  rw [find?_update]
  cases t.find? k with
  | none => rfl
  | some r =>
      by_cases hqr : q r = true
      · simp [Option.filter, hqr, hkeep]
      · simp [Option.filter, hqr]

end Returned

/-- An insertion that is refused names a row that is there. -/
theorem find?_of_insert_eq_none [DecidableEq κ] {r : ρ} (h : t.insert r = none) :
    ∃ r', t.find? (key r) = some r' := by
  unfold insert at h
  split at h
  · rename_i hpris
    obtain ⟨r', hr', hk⟩ := List.mem_map.1 hpris
    exact ⟨r', find?_eq_some.2 ⟨hr', hk⟩⟩
  · cases h

end Table

end Relational
