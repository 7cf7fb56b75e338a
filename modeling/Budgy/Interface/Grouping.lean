import Mathlib.Algebra.BigOperators.Group.Finset.Piecewise
import Mathlib.Algebra.Order.BigOperators.Group.List
import Mathlib.Algebra.Order.Group.Int
import Mathlib.Algebra.Order.Group.Unbundled.Abs
import Mathlib.Algebra.Order.Ring.Int

/-!
# Sums by key

The elements of a list are grouped by a key and their values summed in each group.
Every element is in one group, so the sums of the groups add up to the sum of the list.
-/

set_option autoImplicit false

namespace Grouping

variable {ι κ : Type} [DecidableEq κ] {key : ι → κ} {value : ι → ℤ} {l l' : List ι} {k : κ}

/-- The sum of the values of the elements with a key. -/
def sumAt (key : ι → κ) (value : ι → ℤ) (l : List ι) (k : κ) : ℤ :=
  ((l.filter fun i => key i = k).map value).sum

/-- An empty list sums to zero. -/
@[simp]
theorem sumAt_nil : sumAt key value [] k = 0 := rfl

/-- The sum of a key over two lists is the sum of both. -/
theorem sumAt_append :
    sumAt key value (l ++ l') k = sumAt key value l k + sumAt key value l' k := by
  simp [sumAt]

/-- One element counts at its own key. -/
theorem sumAt_singleton {i : ι} :
    sumAt key value [i] k = if key i = k then value i else 0 := by
  unfold sumAt
  split <;> simp [*]

/-- The sum of a key does not depend on the order. -/
theorem sumAt_perm (h : l.Perm l') : sumAt key value l k = sumAt key value l' k :=
  ((h.filter _).map _).sum_eq

/-- The sum over a mapped list. -/
theorem sumAt_map {ι' : Type} {f : ι' → ι} {l : List ι'} :
    sumAt key value (l.map f) k = sumAt (fun i => key (f i)) (fun i => value (f i)) l k := by
  simp [sumAt, List.filter_map, Function.comp_def]

/-- A key without elements. -/
theorem sumAt_eq_zero (h : k ∉ l.map key) : sumAt key value l k = 0 := by
  have hnone : (l.filter fun i => key i = k) = [] := by
    refine List.filter_eq_nil_iff.2 fun i hi => ?_
    simpa using fun heq : key i = k => h (heq ▸ List.mem_map_of_mem hi)
  simp [sumAt, hnone]

/-- With distinct keys, an element is alone in its group. -/
theorem filter_of_nodup (h : (l.map key).Nodup) {i : ι} (hi : i ∈ l) :
    (l.filter fun j => key j = key i) = [i] := by
  induction l with
  | nil => cases hi
  | cons j l ih =>
      rw [List.map_cons, List.nodup_cons] at h
      rw [List.filter_cons]
      rcases List.mem_cons.1 hi with rfl | hmem
      · have hnone : (l.filter fun j => key j = key i) = [] := by
          refine List.filter_eq_nil_iff.2 fun j hj => ?_
          simpa using fun heq : key j = key i => h.1 (heq ▸ List.mem_map_of_mem hj)
        rw [if_pos (by simp), hnone]
      · have hne : key j ≠ key i := fun heq => h.1 (heq ▸ List.mem_map_of_mem hmem)
        rw [if_neg (by simpa using hne)]
        exact ih h.2 hmem

/-- Where each key occurs once, its sum is its value. -/
theorem sumAt_of_nodup (h : (l.map key).Nodup) {i : ι} (hi : i ∈ l) :
    sumAt key value l (key i) = value i := by
  rw [sumAt, filter_of_nodup h hi, List.map_singleton, List.sum_singleton]

/-- Values that are not negative sum to none. -/
theorem sumAt_nonneg (h : ∀ i ∈ l, 0 ≤ value i) : 0 ≤ sumAt key value l k := by
  refine List.sum_nonneg fun n hn => ?_
  obtain ⟨i, hi, rfl⟩ := List.mem_map.1 hn
  exact h i (List.mem_of_mem_filter hi)

/-- The part of a group in a sum of magnitudes. -/
theorem sumAt_le (h : ∀ i ∈ l, 0 ≤ value i) : sumAt key value l k ≤ (l.map value).sum := by
  induction l with
  | nil => exact le_rfl
  | cons i l ih =>
      have hi : 0 ≤ value i := h i (by simp)
      have hl := ih fun j hj => h j (by simp [hj])
      unfold sumAt at hl ⊢
      rw [List.filter_cons]
      split
      · simp only [List.map_cons, List.sum_cons]
        omega
      · simp only [List.map_cons, List.sum_cons]
        omega

/-- The sums of the groups add up to the whole. -/
theorem sum_sumAt : ((l.map key).dedup.map (sumAt key value l)).sum = (l.map value).sum := by
  have hsum : ∀ s : Finset κ, (∀ i ∈ l, key i ∈ s) →
      ∑ k ∈ s, sumAt key value l k = (l.map value).sum := by
    intro s
    induction l with
    | nil => simp
    | cons i l ih =>
        intro hs
        have hrest := ih fun j hj => hs j (by simp [hj])
        have hcons : ∀ k, sumAt key value (i :: l) k =
            (if key i = k then value i else 0) + sumAt key value l k := by
          intro k
          rw [← sumAt_singleton, ← sumAt_append]
          rfl
        rw [Finset.sum_congr rfl fun k _ => hcons k, Finset.sum_add_distrib, hrest,
          Finset.sum_ite_eq, if_pos (hs i (by simp)), List.map_cons, List.sum_cons]
  rw [← List.sum_toFinset _ (List.nodup_dedup _)]
  refine hsum _ fun i hi => ?_
  rw [List.mem_toFinset, List.mem_dedup]
  exact List.mem_map_of_mem hi

/-- The sums of distinct groups are a part of what the elements of such groups add up to. -/
theorem sum_sumAt_le {ks : List κ} (hks : ks.Nodup) {p : κ → Bool} (hp : ∀ k ∈ ks, p k = true)
    (h : ∀ i ∈ l, 0 ≤ value i) :
    (ks.map (sumAt key value l)).sum ≤ ((l.filter fun i => p (key i)).map value).sum := by
  rw [← List.sum_toFinset _ hks]
  show ∑ k ∈ ks.toFinset, sumAt key value l k ≤ _
  induction l with
  | nil => exact (Finset.sum_eq_zero fun _ _ => rfl).le
  | cons i l ih =>
      have hi : 0 ≤ value i := h i (by simp)
      have hrest := ih fun j hj => h j (by simp [hj])
      have hcons : ∀ k, sumAt key value (i :: l) k =
          (if key i = k then value i else 0) + sumAt key value l k := by
        intro k
        rw [← sumAt_singleton, ← sumAt_append]
        rfl
      rw [Finset.sum_congr rfl fun k _ => hcons k, Finset.sum_add_distrib, Finset.sum_ite_eq,
        List.filter_cons]
      by_cases hkey : key i ∈ ks
      · rw [if_pos (List.mem_toFinset.2 hkey), if_pos (hp _ hkey), List.map_cons, List.sum_cons]
        omega
      · rw [if_neg fun hmem => hkey (List.mem_toFinset.1 hmem)]
        split
        · rw [List.map_cons, List.sum_cons]
          omega
        · omega

/-- The positive values less the magnitudes of the negative ones make the signed sum. -/
theorem sum_pos_sub_neg (value : ι → ℤ) (l : List ι) :
    ((l.filter fun i => 0 < value i).map fun i => |value i|).sum -
        ((l.filter fun i => value i < 0).map fun i => |value i|).sum =
      (l.map value).sum := by
  induction l with
  | nil => rfl
  | cons i l ih =>
      rw [List.filter_cons, List.filter_cons, List.map_cons, List.sum_cons, ← ih]
      rcases lt_trichotomy (value i) 0 with h | h | h
      · rw [if_neg (by simp [h.le]), if_pos (by simpa using h), List.map_cons, List.sum_cons,
          abs_of_neg h]
        omega
      · rw [if_neg (by simp [h]), if_neg (by simp [h]), h]
        omega
      · rw [if_pos (by simpa using h), if_neg (by simp [h.le]), List.map_cons, List.sum_cons,
          abs_of_pos h]
        omega

end Grouping
