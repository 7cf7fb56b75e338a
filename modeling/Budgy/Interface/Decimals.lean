import Mathlib.Algebra.Order.Round
import Mathlib.Data.Rat.Floor
import Mathlib.Tactic.Linarith
import Mathlib.Tactic.NormNum
import Mathlib.Tactic.Ring

/-!
# Decimal fractions and their rounding

The value of the digits that follow a decimal point, and rounding half away from
zero.  How a number is rounded at a place depends on the digit after that place
only (`round_hundredths`).
-/

set_option autoImplicit false

namespace Decimals

/-- The nearest integer, half away from zero. -/
def roundAway (x : ℚ) : ℤ := if 0 ≤ x then round x else -round (-x)

/-- The digit at a position, zero past the last one. -/
def digitAt (cs : List Char) (i : ℕ) : ℕ := ((cs[i]?).map fun c => c.toNat - 48).getD 0

/-- The value of the digits behind the point. -/
def fraction : List Char → ℚ
  | [] => 0
  | c :: cs => (((c.toNat - 48 : ℕ) : ℚ) + fraction cs) / 10

/-- A number that is not negative is rounded half up. -/
theorem roundAway_of_nonneg {x : ℚ} (h : 0 ≤ x) : roundAway x = round x := if_pos h

/-- The rounding is symmetric. -/
theorem roundAway_neg (x : ℚ) : roundAway (-x) = -roundAway x := by
  unfold roundAway
  rcases lt_trichotomy x 0 with h | rfl | h
  · rw [if_pos (by linarith), if_neg (by linarith), neg_neg]
  · simp
  · rw [if_neg (by linarith), if_pos (by linarith), neg_neg]

/-- A digit is at most nine. -/
theorem digit_le {c : Char} (h : c.isDigit = true) : c.toNat - 48 ≤ 9 := by
  simp [Char.isDigit, UInt32.le_iff_toNat_le] at h
  omega

/-- So is the digit of a rank, be it absent. -/
theorem digitAt_le {cs : List Char} (h : cs.all Char.isDigit = true) (i : ℕ) :
    digitAt cs i ≤ 9 := by
  unfold digitAt
  cases hi : cs[i]? with
  | none => simp
  | some c => exact digit_le (List.all_eq_true.1 h c (List.mem_of_getElem? hi))

/-- A fraction is its first digit and a tenth of the rest. -/
theorem fraction_eq (cs : List Char) :
    fraction cs = ((digitAt cs 0 : ℚ) + fraction cs.tail) / 10 := by
  cases cs with
  | nil => simp [fraction, digitAt]
  | cons c cs => simp [fraction, digitAt]

/-- The digits of the tail are those of the list, one rank later. -/
theorem digitAt_tail (cs : List Char) (i : ℕ) : digitAt cs.tail i = digitAt cs (i + 1) := by
  simp [digitAt]

/-- A fraction is not negative. -/
theorem fraction_nonneg (cs : List Char) : 0 ≤ fraction cs := by
  induction cs with
  | nil => exact le_refl 0
  | cons c cs ih =>
      have hc : (0 : ℚ) ≤ ((c.toNat - 48 : ℕ) : ℚ) := Nat.cast_nonneg _
      simp only [fraction]
      linarith

/-- A fraction is below one. -/
theorem fraction_lt {cs : List Char} (h : cs.all Char.isDigit = true) : fraction cs < 1 := by
  induction cs with
  | nil => norm_num [fraction]
  | cons c cs ih =>
      obtain ⟨hc, hcs⟩ := by simpa using h
      have hdigit : ((c.toNat - 48 : ℕ) : ℚ) ≤ 9 := by exact_mod_cast digit_le hc
      have htail := ih (by simpa using hcs)
      simp only [fraction]
      linarith

/-- A tenth rounds up from five on, whatever the digits behind it. -/
theorem round_tenth {d : ℕ} {x : ℚ} (hd : d ≤ 9) (hx : 0 ≤ x) (hx' : x < 1) :
    round (((d : ℚ) + x) / 10) = if 5 ≤ d then 1 else 0 := by
  split
  · rename_i h
    have hle : (5 : ℚ) ≤ d := by exact_mod_cast h
    have hle' : (d : ℚ) ≤ 9 := by exact_mod_cast hd
    refine round_eq_iff.2 ⟨?_, ?_⟩
    · push_cast
      linarith
    · push_cast
      linarith
  · rename_i h
    have hlt : (d : ℚ) ≤ 4 := by exact_mod_cast (by omega : d ≤ 4)
    have hnn : (0 : ℚ) ≤ d := Nat.cast_nonneg d
    refine round_eq_zero_iff.2 ⟨?_, ?_⟩
    · linarith
    · linarith

/-- A number in hundredths: two digits behind the point, rounded up by the third. -/
theorem round_hundredths (n : ℕ) {cs : List Char} (h : cs.all Char.isDigit = true) :
    round (100 * ((n : ℚ) + fraction cs)) =
      100 * (n : ℤ) + (10 * digitAt cs 0 + digitAt cs 1 + if 5 ≤ digitAt cs 2 then 1 else 0) := by
  have htails : cs.tail.tail.tail.all Char.isDigit = true :=
    List.all_eq_true.2 fun c hc => List.all_eq_true.1 h c
      (List.mem_of_mem_tail (List.mem_of_mem_tail (List.mem_of_mem_tail hc)))
  have hvalue : 100 * ((n : ℚ) + fraction cs) =
      ((100 * (n : ℤ) + (10 * digitAt cs 0 + digitAt cs 1) : ℤ) : ℚ) +
        ((digitAt cs 2 : ℚ) + fraction cs.tail.tail.tail) / 10 := by
    rw [fraction_eq cs, fraction_eq cs.tail, fraction_eq cs.tail.tail]
    simp only [digitAt_tail]
    push_cast
    ring
  rw [hvalue, round_intCast_add,
    round_tenth (digitAt_le h 2) (fraction_nonneg _) (fraction_lt htails)]
  ring

end Decimals
