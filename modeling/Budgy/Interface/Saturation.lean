import Mathlib.Algebra.BigOperators.Group.List.Basic
import Mathlib.Algebra.Order.Group.Int
import Mathlib.Algebra.Order.BigOperators.Group.List
import Mathlib.Algebra.Order.Ring.Int
import Mathlib.Data.List.Induction
import Mathlib.Data.List.Perm.Basic
import Mathlib.Tactic.Common

/-!
# Saturating sums

Adding with saturation along a list clamps every partial sum.  The total is the clamped
exact sum as long as the partial sums do not leave the interval and come back, which depends
on the order of the list; `total_perm_iff` says for which lists no order does.
-/

set_option autoImplicit false

namespace Saturation

variable {lo hi a : ℤ} {l : List ℤ}

/-- The number of the range that is the closest. -/
def clamp (lo hi n : ℤ) : ℤ := max lo (min hi n)

/-- The sum of a list, clamped at every step. -/
def total (lo hi : ℤ) (l : List ℤ) : ℤ := l.foldl (fun acc n => clamp lo hi (acc + n)) 0

/-- The sum of the terms that raise it. -/
def gains (l : List ℤ) : ℤ := (l.map (max 0)).sum

/-- The sum of the terms that lower it. -/
def losses (l : List ℤ) : ℤ := (l.map (min 0)).sum

/-- A bound that would be crossed is not left again. -/
def Fits (lo hi : ℤ) (l : List ℤ) : Prop :=
  (gains l ≤ hi ∨ losses l = 0) ∧ (lo ≤ losses l ∨ gains l = 0)

/-- The gains of a list with one more number. -/
@[simp]
theorem gains_cons {n : ℤ} : gains (n :: l) = max 0 n + gains l := by simp [gains]

/-- The losses of a list with one more number. -/
@[simp]
theorem losses_cons {n : ℤ} : losses (n :: l) = min 0 n + losses l := by simp [losses]

/-- The gains are not negative. -/
theorem gains_nonneg : 0 ≤ gains l := by
  induction l with
  | nil => exact le_rfl
  | cons n l ih =>
      rw [gains_cons]
      omega

/-- The losses are not positive. -/
theorem losses_nonpos : losses l ≤ 0 := by
  induction l with
  | nil => exact le_rfl
  | cons n l ih =>
      rw [losses_cons]
      omega

/-- The gains and the losses make the sum. -/
theorem gains_add_losses (l : List ℤ) : gains l + losses l = l.sum := by
  induction l with
  | nil => rfl
  | cons n l ih =>
      rw [gains_cons, losses_cons, List.sum_cons, ← ih]
      omega

/-- The gains of two lists. -/
theorem gains_append {l' : List ℤ} : gains (l ++ l') = gains l + gains l' := by simp [gains]

/-- The losses of two lists. -/
theorem losses_append {l' : List ℤ} : losses (l ++ l') = losses l + losses l' := by simp [losses]

/-- The gains do not depend on the order. -/
theorem gains_perm {l' : List ℤ} (h : l'.Perm l) : gains l' = gains l := (h.map _).sum_eq

/-- The losses do not depend on the order. -/
theorem losses_perm {l' : List ℤ} (h : l'.Perm l) : losses l' = losses l := (h.map _).sum_eq

/-! ## Terms of one sign -/

/-- Numbers that are not negative lose nothing. -/
theorem losses_eq_zero (h : ∀ n ∈ l, 0 ≤ n) : losses l = 0 := by
  induction l with
  | nil => rfl
  | cons n l ih =>
      have hn := h n List.mem_cons_self
      rw [losses_cons, ih fun m hm => h m (List.mem_cons_of_mem n hm)]
      omega

/-- Numbers that are not positive gain nothing. -/
theorem gains_eq_zero (h : ∀ n ∈ l, n ≤ 0) : gains l = 0 := by
  induction l with
  | nil => rfl
  | cons n l ih =>
      have hn := h n List.mem_cons_self
      rw [gains_cons, ih fun m hm => h m (List.mem_cons_of_mem n hm)]
      omega

/-- Terms that only raise the sum saturate at most once. -/
theorem foldl_of_losses (hlo : lo ≤ a) (hhi : a ≤ hi) (h : losses l = 0) :
    l.foldl (fun acc n => clamp lo hi (acc + n)) a = min hi (a + gains l) := by
  induction l generalizing a with
  | nil =>
      show a = min hi (a + 0)
      omega
  | cons n l ih =>
      have hrest := losses_nonpos (l := l)
      have hgains := gains_nonneg (l := l)
      rw [losses_cons] at h
      rw [List.foldl_cons, gains_cons]
      unfold clamp at ih ⊢
      rw [ih (by omega) (by omega) (by omega)]
      omega

/-- Terms that only lower the sum saturate at most once. -/
theorem foldl_of_gains (hlo : lo ≤ a) (hhi : a ≤ hi) (h : gains l = 0) :
    l.foldl (fun acc n => clamp lo hi (acc + n)) a = max lo (a + losses l) := by
  induction l generalizing a with
  | nil =>
      show a = max lo (a + 0)
      omega
  | cons n l ih =>
      have hrest := gains_nonneg (l := l)
      have hlosses := losses_nonpos (l := l)
      rw [gains_cons] at h
      rw [List.foldl_cons, losses_cons]
      unfold clamp at ih ⊢
      rw [ih (by omega) (by omega) (by omega)]
      omega

/-- Within the bounds, nothing saturates. -/
theorem foldl_of_bounds (hlo : lo ≤ a + losses l) (hhi : a + gains l ≤ hi) :
    l.foldl (fun acc n => clamp lo hi (acc + n)) a = a + l.sum := by
  induction l generalizing a with
  | nil => exact (add_zero a).symm
  | cons n l ih =>
      have hgains := gains_nonneg (l := l)
      have hlosses := losses_nonpos (l := l)
      rw [losses_cons] at hlo
      rw [gains_cons] at hhi
      have hstep : clamp lo hi (a + n) = a + n := by
        unfold clamp
        omega
      rw [List.foldl_cons, List.sum_cons, hstep, ih (by omega) (by omega), add_assoc]

/-! ## Every order -/

/-- A clamped number is within the bounds. -/
theorem clamp_mem (h : lo ≤ hi) (n : ℤ) : lo ≤ clamp lo hi n ∧ clamp lo hi n ≤ hi :=
  ⟨le_max_left _ _, max_le h (min_le_left _ _)⟩

/-- So is a total, as every partial one is clamped. -/
theorem total_mem (hlo : lo ≤ 0) (hhi : 0 ≤ hi) (l : List ℤ) :
    lo ≤ total lo hi l ∧ total lo hi l ≤ hi := by
  induction l using List.reverseRecOn with
  | nil => exact ⟨hlo, hhi⟩
  | append_singleton l n _ =>
      have hlast : total lo hi (l ++ [n]) = clamp lo hi (total lo hi l + n) := by simp [total]
      rw [hlast]
      exact clamp_mem (hlo.trans hhi) _

/-- When the total fits in every order, it is the clamped sum. -/
theorem total_of_fits (hlo : lo ≤ 0) (hhi : 0 ≤ hi) (h : Fits lo hi l) :
    total lo hi l = clamp lo hi l.sum := by
  have hsum := gains_add_losses l
  have hgains := gains_nonneg (l := l)
  have hlosses := losses_nonpos (l := l)
  by_cases hmonte : losses l = 0
  · rw [total, foldl_of_losses hlo hhi hmonte, clamp]
    omega
  · by_cases hdescend : gains l = 0
    · rw [total, foldl_of_gains hlo hhi hdescend, clamp]
      omega
    · have hhaut := h.1.resolve_right hmonte
      have hbas := h.2.resolve_right hdescend
      rw [total, foldl_of_bounds (by omega) (by omega), clamp]
      omega

/-- Fitting does not depend on the order. -/
theorem fits_of_perm {l' : List ℤ} (hperm : l'.Perm l) (h : Fits lo hi l) : Fits lo hi l' := by
  unfold Fits
  rw [gains_perm hperm, losses_perm hperm]
  exact h

section Orders

variable {ι : Type} (f : ι → Option ℤ)

/-- Does the item raise the sum, or leave it? -/
def raises (i : ι) : Bool := 0 ≤ (f i).getD 0

/-- What raises loses nothing. -/
theorem losses_raises (l : List ι) : losses ((l.filter (raises f)).filterMap f) = 0 := by
  refine losses_eq_zero fun n hn => ?_
  obtain ⟨i, hi, hfi⟩ := List.mem_filterMap.1 hn
  have hraises := (List.mem_filter.1 hi).2
  simpa [raises, hfi] using hraises

/-- What does not raise gains nothing. -/
theorem gains_not_raises (l : List ι) :
    gains ((l.filter fun i => !raises f i).filterMap f) = 0 := by
  refine gains_eq_zero fun n hn => ?_
  obtain ⟨i, hi, hfi⟩ := List.mem_filterMap.1 hn
  have hraises := (List.mem_filter.1 hi).2
  have hneg : n < 0 := by simpa [raises, hfi] using hraises
  exact hneg.le

/-- The saturating total of some items is their clamped sum in every order exactly when the
sum does not cross a bound that it would leave again. -/
theorem total_perm_iff (hlo : lo ≤ 0) (hhi : 0 < hi) (l : List ι) :
    (∀ l' : List ι, l'.Perm l →
      total lo hi (l'.filterMap f) = clamp lo hi (l.filterMap f).sum) ↔
      Fits lo hi (l.filterMap f) := by
  constructor
  · intro h
    have hmonte := losses_raises f l
    have hdescend := gains_not_raises f l
    have hsum := gains_add_losses (l.filterMap f)
    have hperm := List.filter_append_perm (raises f) l
    have hgains := gains_perm (hperm.filterMap f)
    have hlosses := losses_perm (hperm.filterMap f)
    rw [List.filterMap_append, gains_append, hdescend, add_zero] at hgains
    rw [List.filterMap_append, losses_append, hmonte, zero_add] at hlosses
    -- what raises the sum first, then what lowers it, and the other way round
    have hfirst := h _ hperm
    have hlast := h _ (List.perm_append_comm.trans hperm)
    have hpos := gains_nonneg (l := l.filterMap f)
    have hneg := losses_nonpos (l := l.filterMap f)
    rw [total, List.filterMap_append, List.foldl_append, foldl_of_losses hlo hhi.le hmonte, hgains,
      foldl_of_gains (by omega) (by omega) hdescend, hlosses, clamp] at hfirst
    rw [total, List.filterMap_append, List.foldl_append, foldl_of_gains hlo hhi.le hdescend, hlosses,
      foldl_of_losses (by omega) (by omega) hmonte, hgains, clamp] at hlast
    unfold Fits
    omega
  · intro h l' hperm
    have hmontants := hperm.filterMap f
    rw [total_of_fits hlo hhi.le (fits_of_perm hmontants h), hmontants.sum_eq]

end Orders

end Saturation
