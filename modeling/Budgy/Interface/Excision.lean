import Mathlib.Data.List.Infix
import Mathlib.Logic.Relation
import Mathlib.Tactic.Common

/-!
# Removing every occurrence of a pattern

A pattern is removed from a sequence again and again, at its first occurrence, until it does
not occur.  When no end of the pattern is one of its beginnings, the order of the removals
does not matter: the result is the only one that can be reached and holds no occurrence.
Dropping elements that the pattern does not have then commutes with the removal, as soon as
the dropping does not bring a new occurrence together.
-/

set_option autoImplicit false

namespace Excision

variable {α : Type} {m l l' x y : List α}

/-! ## Removals in any order -/

/-- One removal, anywhere. -/
def Step (m l l' : List α) : Prop := ∃ x y, l = x ++ m ++ y ∧ l' = x ++ y

/-- No proper end of the pattern is one of its beginnings. -/
def Unbordered (m : List α) : Prop := ∀ v, v ≠ [] → v ≠ m → v <+: m → ¬ v <:+ m

/-- A pattern whose first element comes once has no such end. -/
theorem unbordered_of_notMem {a : α} (h : a ∉ m) : Unbordered (a :: m) := by
  intro v hne hproper htete hsuffix
  obtain ⟨b, u, rfl⟩ := List.exists_cons_of_ne_nil hne
  obtain ⟨rfl, -⟩ := List.cons_prefix_cons.1 htete
  rcases List.suffix_cons_iff.1 hsuffix with heq | hrest
  · exact hproper heq
  · exact h (hrest.subset List.mem_cons_self)

/-- Of two occurrences, the first one ends before the other one starts. -/
theorem exists_between (hm : Unbordered m) {x' y' : List α} (h : x ++ m ++ y = x' ++ m ++ y')
    (hlt : x.length < x'.length) : ∃ z, x' = x ++ m ++ z ∧ y = z ++ m ++ y' := by
  rw [List.append_assoc, List.append_assoc] at h
  obtain ⟨u, rfl, hrest⟩ | ⟨u, rfl, -⟩ := List.append_eq_append_iff.1 h
  · obtain ⟨z, rfl, rfl⟩ | ⟨v, hv, hover⟩ := List.append_eq_append_iff.1 hrest
    · exact ⟨z, by simp, by simp⟩
    · by_cases hempty : v = []
      · subst hempty
        rw [List.append_nil] at hv
        subst hv
        exact ⟨[], by simp, by simpa using hover.symm⟩
      · -- an overlap would be an end of the pattern that starts it
        have hsuffix : v <:+ m := ⟨u, hv.symm⟩
        have htete : v <+: m := List.prefix_of_prefix_length_le ⟨y, hover.symm⟩
          (List.prefix_append m y') hsuffix.length_le
        have hproper : v ≠ m := by
          intro hvm
          have hlength := congrArg List.length hv
          simp only [List.length_append, hvm] at hlength hlt
          omega
        exact absurd hsuffix (hm v hempty hproper htete)
  · simp only [List.length_append] at hlt
    omega

/-- Two removals can be brought together by one more on each side. -/
theorem step_diamond (hm : Unbordered m) {a b : List α} (ha : Step m l a) (hb : Step m l b) :
    a = b ∨ ∃ c, Step m a c ∧ Step m b c := by
  obtain ⟨x, y, rfl, rfl⟩ := ha
  obtain ⟨x', y', hl, rfl⟩ := hb
  rcases lt_trichotomy x.length x'.length with hlt | heq | hgt
  · obtain ⟨z, rfl, rfl⟩ := exists_between hm hl hlt
    exact .inr ⟨x ++ z ++ y', ⟨x ++ z, y', by simp, rfl⟩, ⟨x, z ++ y', by simp, by simp⟩⟩
  · rw [List.append_assoc, List.append_assoc] at hl
    obtain ⟨rfl, hrest⟩ := List.append_inj hl heq
    exact .inl (by rw [List.append_cancel_left hrest])
  · obtain ⟨z, rfl, rfl⟩ := exists_between hm hl.symm hgt
    exact .inr ⟨x' ++ z ++ y, ⟨x', z ++ y, by simp, by simp⟩, ⟨x' ++ z, y, by simp, rfl⟩⟩

/-- A sequence without an occurrence is not changed. -/
theorem eq_of_reached (hl : ¬ m <:+: l) (h : Relation.ReflTransGen (Step m) l l') : l' = l := by
  obtain rfl | ⟨a, ⟨x, y, rfl, -⟩, -⟩ := Relation.ReflTransGen.cases_head h
  · rfl
  · exact absurd (List.infix_append x m y) hl

/-- A step on a list is a step on what a filter keeps of it, when the filter keeps the pattern. -/
theorem Step.filter {p : α → Bool} (hp : ∀ a ∈ m, p a = true) (h : Step m l l') :
    Step m (l.filter p) (l'.filter p) := by
  obtain ⟨x, y, rfl, rfl⟩ := h
  refine ⟨x.filter p, y.filter p, ?_, List.filter_append ..⟩
  rw [List.filter_append, List.filter_append, List.filter_eq_self.2 hp]

/-! ## Removals from the first occurrence on -/

section Removal

variable [DecidableEq α]

/-- What is around the first occurrence. -/
def around? (m : List α) : List α → Option (List α × List α)
  | [] => if m = [] then some ([], []) else none
  | a :: l =>
      if m <+: a :: l then some ([], (a :: l).drop m.length)
      else (around? m l).map fun (x, y) => (a :: x, y)

/-- At most `n` removals. -/
def remove (m : List α) : ℕ → List α → List α
  | 0, l => l
  | n + 1, l =>
      match around? m l with
      | some (x, y) => remove m n (x ++ y)
      | none => l

/-- All the removals. -/
def excise (m l : List α) : List α := remove m l.length l

/-- The parts around a pattern, with the pattern, make the list. -/
theorem around?_eq_some (h : around? m l = some (x, y)) : l = x ++ m ++ y := by
  induction l generalizing x with
  | nil =>
      unfold around? at h
      split_ifs at h with hm
      obtain ⟨rfl, rfl⟩ := Prod.mk.inj (Option.some.inj h)
      simp [hm]
  | cons a l ih =>
      unfold around? at h
      split_ifs at h with hm
      · obtain ⟨rfl, rfl⟩ := Prod.mk.inj (Option.some.inj h)
        obtain ⟨z, hz⟩ := hm
        rw [← hz, List.drop_left, List.nil_append]
      · obtain ⟨⟨x', y'⟩, hrest, heq⟩ := Option.map_eq_some_iff.1 h
        obtain ⟨rfl, rfl⟩ := Prod.mk.inj heq
        rw [ih hrest]
        rfl

/-- The pattern is not found when it does not occur. -/
theorem around?_eq_none_iff : around? m l = none ↔ ¬ m <:+: l := by
  induction l with
  | nil =>
      unfold around?
      split_ifs with hm
      · simp [hm]
      · simpa using hm
  | cons a l ih =>
      unfold around?
      split_ifs with hm
      · simpa using hm.isInfix
      · rw [Option.map_eq_none_iff, ih, List.infix_cons_iff, not_or]
        exact ⟨fun h => ⟨hm, h⟩, fun h => h.2⟩

/-- Nothing is removed when the pattern does not occur. -/
theorem remove_of_absent {n : ℕ} (h : ¬ m <:+: l) : remove m n l = l := by
  cases n with
  | zero => rfl
  | succ n => rw [remove, around?_eq_none_iff.2 h]

/-- Nothing is excised when the pattern does not occur. -/
theorem excise_of_absent (h : ¬ m <:+: l) : excise m l = l := remove_of_absent h

/-- As many removals as there are elements are enough. -/
theorem remove_eq_remove (hm : m ≠ []) {n k : ℕ} (hn : l.length ≤ n) (hk : l.length ≤ k) :
    remove m n l = remove m k l := by
  induction n generalizing k l with
  | zero =>
      obtain rfl := List.length_eq_zero_iff.1 (Nat.le_zero.1 hn)
      have hnot : ¬ m <:+: [] := by simpa using hm
      exact (remove_of_absent hnot).symm
  | succ n ih =>
      cases haround : around? m l with
      | none =>
          rw [remove_of_absent (around?_eq_none_iff.1 haround),
            remove_of_absent (around?_eq_none_iff.1 haround)]
      | some p =>
          obtain ⟨x, y⟩ := p
          have hl := around?_eq_some haround
          have hpos := List.length_pos_iff.2 hm
          have hshorter : (x ++ y).length < l.length := by
            rw [hl]
            simp only [List.length_append]
            omega
          cases k with
          | zero => omega
          | succ k =>
              rw [remove, remove, haround]
              exact ih (by omega) (by omega)

/-- As many turns as the list is long remove every occurrence. -/
theorem remove_eq_excise (hm : m ≠ []) {n : ℕ} (hn : l.length ≤ n) : remove m n l = excise m l :=
  remove_eq_remove hm hn le_rfl

/-- The pattern does not occur any more. -/
theorem not_infix_remove (hm : m ≠ []) {n : ℕ} (hn : l.length ≤ n) : ¬ m <:+: remove m n l := by
  induction n generalizing l with
  | zero =>
      obtain rfl := List.length_eq_zero_iff.1 (Nat.le_zero.1 hn)
      simpa [remove] using hm
  | succ n ih =>
      rw [remove]
      split
      · rename_i x y haround
        have hl := around?_eq_some haround
        have hpos := List.length_pos_iff.2 hm
        refine ih ?_
        have hlength := congrArg List.length hl
        simp only [List.length_append] at hlength ⊢
        omega
      · rename_i haround
        exact around?_eq_none_iff.1 haround

/-- The pattern does not occur in what is left. -/
theorem not_infix_excise (hm : m ≠ []) : ¬ m <:+: excise m l := not_infix_remove hm le_rfl

/-- What is left after some turns is a part of the list. -/
theorem remove_sublist {n : ℕ} : (remove m n l).Sublist l := by
  induction n generalizing l with
  | zero => exact List.Sublist.refl l
  | succ n ih =>
      rw [remove]
      split
      · rename_i x y haround
        rw [around?_eq_some haround, List.append_assoc]
        exact ih.trans ((List.Sublist.refl x).append (List.sublist_append_right m y))
      · exact List.Sublist.refl l

/-- What is left is a part of the list. -/
theorem excise_sublist : (excise m l).Sublist l := remove_sublist

/-! ## The result of the removals -/

/-- What is left after some turns is reached by as many steps at most. -/
theorem remove_reached {n : ℕ} : Relation.ReflTransGen (Step m) l (remove m n l) := by
  induction n generalizing l with
  | zero => exact .refl
  | succ n ih =>
      rw [remove]
      split
      · rename_i x y haround
        exact ih.head ⟨x, y, around?_eq_some haround, rfl⟩
      · exact .refl

/-- What is left is reached by steps. -/
theorem excise_reached : Relation.ReflTransGen (Step m) l (excise m l) := remove_reached

/-- The removals end on one sequence, whatever their order. -/
theorem excise_unique (hne : m ≠ []) (hm : Unbordered m)
    (h : Relation.ReflTransGen (Step m) l l') (hl' : ¬ m <:+: l') : l' = excise m l := by
  have hjoin : Relation.Join (Relation.ReflTransGen (Step m)) l' (excise m l) := by
    refine Relation.church_rosser (fun a b c hb hc => ?_) h excise_reached
    obtain rfl | ⟨d, hbd, hcd⟩ := step_diamond hm hb hc
    · exact ⟨b, .refl, .refl⟩
    · exact ⟨d, .single hbd, .single hcd⟩
  obtain ⟨d, hleft, hright⟩ := hjoin
  rw [← eq_of_reached hl' hleft, ← eq_of_reached (not_infix_excise hne) hright]

/-- Dropping elements commutes with the removal when it brings no occurrence together. -/
theorem filter_excise {p : α → Bool} (hne : m ≠ []) (hm : Unbordered m)
    (hp : ∀ a ∈ m, p a = true) (h : ¬ m <:+: (excise m l).filter p) :
    (excise m l).filter p = excise m (l.filter p) := by
  refine excise_unique hne hm ?_ h
  exact Relation.ReflTransGen.lift (List.filter p) (fun a b hab => Step.filter hp hab) _ _ excise_reached

/-- Among the elements that the pattern does not have, the removal drops nothing. -/
theorem filter_excise_of_dropped {p : α → Bool} (hp : ∀ a ∈ m, p a = false) :
    (excise m l).filter p = l.filter p := by
  have hnone : m.filter p = [] := List.filter_eq_nil_iff.2 fun a ha => by simp [hp a ha]
  have hreached : Relation.ReflTransGen (Step m) l (excise m l) := excise_reached
  generalize excise m l = reste at hreached
  induction hreached with
  | refl => rfl
  | tail _ hstep ih =>
      obtain ⟨x, y, rfl, rfl⟩ := hstep
      rw [← ih]
      simp [List.filter_append, hnone]

/-- An element that is not in the pattern stays. -/
theorem mem_excise_of_notMem {a : α} (h : a ∉ m) : a ∈ excise m l ↔ a ∈ l := by
  have hkept := filter_excise_of_dropped (m := m) (l := l) (p := fun b => b = a)
    fun b hb => decide_eq_false fun heq => h (heq ▸ hb)
  have hmem : ∀ k : List α, a ∈ k ↔ a ∈ k.filter fun b => b = a := by simp
  rw [hmem, hkept, ← hmem]

/-- The removal of one element is a filter. -/
theorem excise_singleton {a : α} : excise [a] l = l.filter fun b => b ≠ a := by
  have habsent : a ∉ excise [a] l := fun h =>
    not_infix_excise (List.cons_ne_nil a []) ((List.singleton_infix_iff a _).2 h)
  have hself : (excise [a] l).filter (fun b => b ≠ a) = excise [a] l := by
    refine List.filter_eq_self.2 fun b hb => decide_eq_true ?_
    rintro rfl
    exact habsent hb
  rw [← hself]
  exact filter_excise_of_dropped (by simp)

/-! ## Changing the other elements -/

section Map

variable {f : α → α} (hf : ∀ a ∈ m, ∀ b, f b = a ↔ b = a)
include hf

omit [DecidableEq α] in
/-- A prefix, through an injective map. -/
theorem prefix_map_iff : m <+: l.map f ↔ m <+: l := by
  induction m generalizing l with
  | nil => simp
  | cons a m ih =>
      cases l with
      | nil => simp
      | cons b l =>
          rw [List.map_cons, List.cons_prefix_cons, List.cons_prefix_cons,
            ih fun c hc => hf c (List.mem_cons_of_mem a hc), eq_comm,
            hf a List.mem_cons_self b, eq_comm]

/-- The parts around a pattern, through an injective map. -/
theorem around?_map :
    around? m (l.map f) = (around? m l).map fun (x, y) => (x.map f, y.map f) := by
  induction l with
  | nil =>
      rw [List.map_nil, around?]
      split_ifs <;> rfl
  | cons b l ih =>
      have hstart := @prefix_map_iff α m (b :: l) f hf
      rw [List.map_cons] at hstart
      rw [List.map_cons, around?, around?]
      by_cases hm : m <+: b :: l
      · rw [if_pos (hstart.2 hm), if_pos hm, ← List.map_cons, ← List.map_drop]
        rfl
      · rw [if_neg fun h => hm (hstart.1 h), if_neg hm, ih, Option.map_map, Option.map_map]
        rfl

/-- The removal, through an injective map. -/
theorem remove_map {n : ℕ} : remove m n (l.map f) = (remove m n l).map f := by
  induction n generalizing l with
  | zero => rfl
  | succ n ih =>
      rw [remove, remove, around?_map hf]
      cases around? m l with
      | none => rfl
      | some p =>
          obtain ⟨x, y⟩ := p
          show remove m n (x.map f ++ y.map f) = _
          rw [← List.map_append, ih]

/-- The removals do not look at the elements that the pattern does not have. -/
theorem excise_map : excise m (l.map f) = (excise m l).map f := by
  rw [excise, excise, List.length_map, remove_map hf]

end Map

end Removal

end Excision
