import Mathlib.Data.List.Perm.Basic
import Mathlib.Order.Lattice
import Mathlib.Tactic.Common

/-!
# Ranks in a list

The element of rank `k`, counted from zero, is told by what it leaves below and not above
itself, without sorting the list: `hasRank_getElem` finds it where sorting puts it.
-/

set_option autoImplicit false

namespace Ranks

variable {α : Type} [LinearOrder α] {l l' : List α} {k : ℕ} {a b : α}

/-- At most `k` elements are below `a`, and more than `k` are not above it. -/
def HasRank (l : List α) (k : ℕ) (a : α) : Prop :=
  l.countP (· < a) ≤ k ∧ k < l.countP (· ≤ a)

/-- A rank does not depend on the order of the list. -/
theorem hasRank_perm (h : l.Perm l') : HasRank l k a ↔ HasRank l' k a := by
  unfold HasRank
  rw [h.countP_eq, h.countP_eq]

/-- An element of some rank is in the list. -/
theorem HasRank.mem (h : HasRank l k a) : a ∈ l := by
  by_contra hmem
  have hsame : l.countP (· ≤ a) = l.countP (· < a) := by
    refine List.countP_congr fun x hx => ?_
    have hne : x ≠ a := fun heq => hmem (heq ▸ hx)
    simpa using hne.le_iff_lt
  have hbelow := h.1
  have habove := h.2
  omega

/-- There is one value of a rank at most. -/
theorem HasRank.le (ha : HasRank l k a) (hb : HasRank l k b) : a ≤ b := by
  by_contra hlt
  have hmono : l.countP (· ≤ b) ≤ l.countP (· < a) := by
    refine List.countP_mono_left fun x _ hx => ?_
    simp only [decide_eq_true_eq] at hx ⊢
    exact hx.trans_lt (not_le.1 hlt)
  have hbelow := ha.1
  have habove := hb.2
  omega

/-- A rank has one element. -/
theorem HasRank.unique (ha : HasRank l k a) (hb : HasRank l k b) : a = b :=
  le_antisymm (ha.le hb) (hb.le ha)

/-- An element is above those below it, and not above itself. -/
theorem countP_lt_countP (h : a ∈ l) : l.countP (· < a) < l.countP (· ≤ a) := by
  have hmono : ∀ l : List α, l.countP (· < a) ≤ l.countP (· ≤ a) := fun l =>
    List.countP_mono_left fun x _ hx => by simpa using le_of_lt (by simpa using hx)
  induction l with
  | nil => cases h
  | cons b l ih =>
      rw [List.countP_cons, List.countP_cons]
      rcases List.mem_cons.1 h with rfl | hmem
      · have hl := hmono l
        simp only [lt_irrefl, le_refl, decide_true, decide_false, if_true]
        simp only [Bool.false_eq_true, if_false]
        omega
      · have hl := ih hmem
        by_cases hlt : b < a
        · simp only [hlt, hlt.le, decide_true, if_true]
          omega
        · simp only [hlt, decide_false, Bool.false_eq_true, if_false]
          omega

/-- In a sorted list, the element at an index has that rank. -/
theorem hasRank_getElem (h : l.Pairwise (· ≤ ·)) (hk : k < l.length) : HasRank l k l[k] := by
  have hsplit : l.take k ++ l[k] :: l.drop (k + 1) = l := by
    rw [List.getElem_cons_drop, List.take_append_drop]
  have hsorted := h
  rw [← hsplit, List.pairwise_append, List.pairwise_cons] at hsorted
  obtain ⟨-, ⟨hafter, -⟩, hbefore⟩ := hsorted
  constructor
  · have hnone : (l[k] :: l.drop (k + 1)).countP (· < l[k]) = 0 := by
      refine List.countP_eq_zero.2 fun x hx => ?_
      rcases List.mem_cons.1 hx with rfl | hx
      · simp
      · simpa using hafter x hx
    calc l.countP (· < l[k])
        = (l.take k).countP (· < l[k]) + (l[k] :: l.drop (k + 1)).countP (· < l[k]) := by
          rw [← List.countP_append, hsplit]
      _ = (l.take k).countP (· < l[k]) := by rw [hnone, Nat.add_zero]
      _ ≤ (l.take k).length := List.countP_le_length
      _ ≤ k := List.length_take_le k l
  · have hall : (l.take k).countP (· ≤ l[k]) = k := by
      rw [List.countP_eq_length.2, List.length_take, min_eq_left hk.le]
      intro x hx
      simpa using hbefore x hx l[k] List.mem_cons_self
    have hcount : l.countP (· ≤ l[k]) =
        (l.take k).countP (· ≤ l[k]) + (l[k] :: l.drop (k + 1)).countP (· ≤ l[k]) := by
      rw [← List.countP_append, hsplit]
    have hself : 0 < (l[k] :: l.drop (k + 1)).countP (· ≤ l[k]) :=
      List.countP_pos_iff.2 ⟨l[k], List.mem_cons_self, by simp⟩
    omega

end Ranks
