import Mathlib.Data.List.Basic
import Mathlib.Data.List.Induction
import Mathlib.Tactic.Common

/-!
# Greedy selection

`select` goes through a list once and retains an element that is admissible and
conflicts with nothing retained so far.  What it retains is free of conflicts, and an
admissible element that is left out conflicts with a retained one that comes before.
-/

set_option autoImplicit false

namespace Greedy

variable {α : Type} (admissible : α → Bool) (conflict : α → α → Bool)

/-- One turn of the selection. -/
def step (retained : List α) (x : α) : List α :=
  if retained.any (fun y => conflict y x) || !admissible x then retained else retained ++ [x]

/-- The elements retained, in order. -/
def select (l : List α) : List α := l.foldl (step admissible conflict) []

variable {admissible conflict} {l : List α}

/-- Nothing is selected from an empty list. -/
@[simp]
theorem select_nil : select admissible conflict [] = [] := rfl

/-- The last element is examined against what is selected already. -/
theorem select_append_singleton (l : List α) (x : α) :
    select admissible conflict (l ++ [x]) =
      step admissible conflict (select admissible conflict l) x := by
  simp [select]

/-- An element is retained when it is admissible and free of conflicts. -/
theorem step_cases (retained : List α) (x : α) :
    (step admissible conflict retained x = retained ∧
      (admissible x = false ∨ ∃ y ∈ retained, conflict y x = true)) ∨
    (step admissible conflict retained x = retained ++ [x] ∧ admissible x = true ∧
      ∀ y ∈ retained, conflict y x = false) := by
  unfold step
  by_cases hany : retained.any (fun y => conflict y x) = true
  · exact .inl ⟨by simp [hany], .inr (List.any_eq_true.1 hany)⟩
  · have hfree : ∀ y ∈ retained, conflict y x = false := by simpa using hany
    cases hx : admissible x with
    | false => exact .inl ⟨by simp, .inl rfl⟩
    | true => exact .inr ⟨by simp [hany], rfl, hfree⟩

/-- Every element retained is an admissible one of the list. -/
theorem mem_of_mem_select {x : α} (h : x ∈ select admissible conflict l) :
    x ∈ l ∧ admissible x = true := by
  induction l using List.reverseRecOn with
  | nil => exact absurd h List.not_mem_nil
  | append_singleton l y ih =>
      rw [select_append_singleton] at h
      rcases step_cases (select admissible conflict l) y with ⟨heq, -⟩ | ⟨heq, hy, -⟩ <;>
        rw [heq] at h
      · exact ⟨List.mem_append_left _ (ih h).1, (ih h).2⟩
      · rcases List.mem_append.1 h with h | h
        · exact ⟨List.mem_append_left _ (ih h).1, (ih h).2⟩
        · obtain rfl := List.mem_singleton.1 h
          exact ⟨by simp, hy⟩

/-- No two elements retained conflict. -/
theorem pairwise_select :
    (select admissible conflict l).Pairwise fun x y => conflict x y = false := by
  induction l using List.reverseRecOn with
  | nil => exact List.Pairwise.nil
  | append_singleton l y ih =>
      rw [select_append_singleton]
      rcases step_cases (select admissible conflict l) y with ⟨heq, -⟩ | ⟨heq, -, hfree⟩ <;>
        rw [heq]
      · exact ih
      · refine List.pairwise_append.2 ⟨ih, List.pairwise_singleton _ _, fun x hx z hz => ?_⟩
        obtain rfl := List.mem_singleton.1 hz
        exact hfree x hx

/-- An admissible element that is left out conflicts with one retained before it. -/
theorem mem_select_or {r : α → α → Prop} (hl : l.Pairwise r) {x : α} (hx : x ∈ l)
    (hadmissible : admissible x = true) :
    x ∈ select admissible conflict l ∨
      ∃ y ∈ select admissible conflict l, conflict y x = true ∧ r y x := by
  induction l using List.reverseRecOn with
  | nil => exact absurd hx List.not_mem_nil
  | append_singleton l z ih =>
      obtain ⟨hl, -, hlast⟩ := List.pairwise_append.1 hl
      rw [select_append_singleton]
      have hmono : ∀ y ∈ select admissible conflict l,
          y ∈ step admissible conflict (select admissible conflict l) z := by
        intro y hy
        rcases step_cases (select admissible conflict l) z with ⟨heq, -⟩ | ⟨heq, -⟩ <;> rw [heq]
        · exact hy
        · exact List.mem_append_left _ hy
      rcases List.mem_append.1 hx with hx | hx
      · rcases ih hl hx with hmem | ⟨y, hy, hconflict⟩
        · exact .inl (hmono x hmem)
        · exact .inr ⟨y, hmono y hy, hconflict⟩
      · obtain rfl := List.mem_singleton.1 hx
        rcases step_cases (select admissible conflict l) x with ⟨heq, hwhy⟩ | ⟨heq, -⟩
        · rcases hwhy with hnot | ⟨y, hy, hconflict⟩
          · exact nomatch hnot.symm.trans hadmissible
          · exact .inr ⟨y, hmono y hy, hconflict,
              hlast y (mem_of_mem_select hy).1 x (List.mem_singleton_self x)⟩
        · rw [heq]
          exact .inl (by simp)

end Greedy
