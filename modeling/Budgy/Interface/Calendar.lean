import Mathlib.Order.Lattice
import Mathlib.Order.Defs.LinearOrder
import Mathlib.Order.Basic
import Mathlib.Data.Nat.Init
import Mathlib.Tactic.Common

/-!
# The proleptic Gregorian calendar

A date is a year, a month and a day that exist: the bounds are fields of the
structure.  `Date.toDays` numbers the days from 1970-01-01 and `Date.ofDays` goes
back; the two are inverse to each other (`Date.toDays_ofDays`,
`Date.ofDays_toDays`), so the order of the dates is the order of their numbers.
-/

set_option autoImplicit false

namespace Gregorian

/-- Is the year a leap year? -/
def isLeap (y : ℤ) : Bool := y % 4 = 0 && (y % 100 ≠ 0 || y % 400 = 0)

/-- The number of days of month `m` (1 to 12). -/
def monthLength (leap : Bool) : ℕ → ℕ
  | 1 => 31
  | 2 => if leap then 29 else 28
  | 3 => 31
  | 4 => 30
  | 5 => 31
  | 6 => 30
  | 7 => 31
  | 8 => 31
  | 9 => 30
  | 10 => 31
  | 11 => 30
  | 12 => 31
  | _ => 0

/-- The number of days of the first `m` months. -/
def monthStart (leap : Bool) : ℕ → ℕ
  | 0 => 0
  | m + 1 => monthStart leap m + monthLength leap (m + 1)

/-- The number of days before year `y`, counted from year 1. -/
def yearStart (y : ℤ) : ℤ := 365 * (y - 1) + (y - 1) / 4 - (y - 1) / 100 + (y - 1) / 400

/-- The number of days of a year. -/
def yearLength (leap : Bool) : ℕ := if leap then 366 else 365

/-- 1970-01-01, counted from year 1. -/
def epoch : ℤ := 719162

/-- The twelve months make a year. -/
theorem monthStart_twelve (leap : Bool) : monthStart leap 12 = yearLength leap := by
  cases leap <;> rfl

/-- A year starts when the one before it is over. -/
theorem yearStart_succ (y : ℤ) : yearStart (y + 1) = yearStart y + yearLength (isLeap y) := by
  unfold yearStart yearLength isLeap
  by_cases h4 : y % 4 = 0 <;> by_cases h100 : y % 100 = 0 <;> by_cases h400 : y % 400 = 0 <;>
    simp [h4, h100, h400] <;> omega

/-- A day of the calendar. -/
@[ext]
structure Date where
  year : ℤ
  month : ℕ
  day : ℕ
  one_le_month : 1 ≤ month
  month_le : month ≤ 12
  one_le_day : 1 ≤ day
  day_le : day ≤ monthLength (isLeap year) month
  deriving DecidableEq

namespace Date

/-- The date with the given fields, when it exists. -/
def ofYmd? (y : ℤ) (m d : ℕ) : Option Date :=
  if h : 1 ≤ m ∧ m ≤ 12 ∧ 1 ≤ d ∧ d ≤ monthLength (isLeap y) m then
    some ⟨y, m, d, h.1, h.2.1, h.2.2.1, h.2.2.2⟩
  else none

/-- The number of the day, 1970-01-01 being day 0. -/
def toDays (d : Date) : ℤ :=
  yearStart d.year + monthStart (isLeap d.year) (d.month - 1) + (d.day - 1) - epoch

/-! ## From a number to a date -/

/-- The year of the `n`-th day counted from year 1: the mean length of a year
gives it to within one year. -/
def yearOf (n : ℤ) : ℤ :=
  let y := 400 * n / 146097 + 1
  if n < yearStart y then y - 1 else if yearStart (y + 1) ≤ n then y + 1 else y

/-- Among the first `m` months, the one that contains the `r`-th day of the year. -/
def monthOf (leap : Bool) (r : ℕ) : ℕ → ℕ
  | 0 => 0
  | m + 1 => if monthStart leap m ≤ r then m + 1 else monthOf leap r m

/-- A day lies in the year that is computed for it. -/
theorem yearOf_spec (n : ℤ) : yearStart (yearOf n) ≤ n ∧ n < yearStart (yearOf n + 1) := by
  have hlow : yearStart (400 * n / 146097 + 1 - 1) ≤ n := by
    unfold yearStart
    omega
  have hhigh : n < yearStart (400 * n / 146097 + 1 + 1 + 1) := by
    unfold yearStart
    omega
  unfold yearOf
  simp only
  split
  · rename_i h
    exact ⟨hlow, by simpa using h⟩
  · split
    · rename_i h
      exact ⟨h, hhigh⟩
    · rename_i h h'
      exact ⟨not_lt.1 h, not_le.1 h'⟩

/-- A day of the year lies in the month that is computed for it. -/
theorem monthOf_spec {leap : Bool} {r m : ℕ} (h : r < monthStart leap m) :
    1 ≤ monthOf leap r m ∧ monthOf leap r m ≤ m ∧
      monthStart leap (monthOf leap r m - 1) ≤ r ∧ r < monthStart leap (monthOf leap r m) := by
  induction m with
  | zero => exact absurd h (Nat.not_lt_zero r)
  | succ m ih =>
      unfold monthOf
      split
      · rename_i hm
        exact ⟨by omega, le_rfl, by simpa using hm, h⟩
      · rename_i hm
        obtain ⟨h₁, h₂, h₃, h₄⟩ := ih (not_le.1 hm)
        exact ⟨h₁, by omega, h₃, h₄⟩

/-- A month starts when the one before it is over. -/
theorem monthStart_pred (leap : Bool) {m : ℕ} (h : 1 ≤ m) :
    monthStart leap m = monthStart leap (m - 1) + monthLength leap m := by
  obtain ⟨m, rfl⟩ : ∃ k, m = k + 1 := ⟨m - 1, by omega⟩
  rfl

/-- The day of the year is in the range of the twelve months. -/
theorem dayOfYear_lt (n : ℤ) :
    (n - yearStart (yearOf n)).toNat < monthStart (isLeap (yearOf n)) 12 := by
  obtain ⟨h₁, h₂⟩ := yearOf_spec n
  rw [yearStart_succ] at h₂
  rw [monthStart_twelve]
  omega

/-- The date of a day number. -/
def ofDays (n : ℤ) : Date :=
  let y := yearOf (n + epoch)
  let r := (n + epoch - yearStart y).toNat
  let m := monthOf (isLeap y) r 12
  { year := y
    month := m
    day := r - monthStart (isLeap y) (m - 1) + 1
    one_le_month := (monthOf_spec (dayOfYear_lt (n + epoch))).1
    month_le := (monthOf_spec (dayOfYear_lt (n + epoch))).2.1
    one_le_day := Nat.le_add_left _ _
    day_le := by
      obtain ⟨h₁, -, h₃, h₄⟩ := monthOf_spec (dayOfYear_lt (n + epoch))
      have h₅ := monthStart_pred (isLeap y) h₁
      simp only [m, r, y] at *
      omega }

/-! ## The two numberings are inverse to each other -/

/-- The date of a number has this number. -/
@[simp]
theorem toDays_ofDays (n : ℤ) : (ofDays n).toDays = n := by
  obtain ⟨-, -, h₃, -⟩ := monthOf_spec (dayOfYear_lt (n + epoch))
  obtain ⟨h₅, -⟩ := yearOf_spec (n + epoch)
  simp only [toDays, ofDays]
  omega

/-- A later year starts after the end of an earlier one. -/
theorem yearStart_strictMono {y y' : ℤ} (h : y < y') : yearStart (y + 1) ≤ yearStart y' := by
  unfold yearStart
  omega

/-- A later month starts later. -/
theorem monthStart_mono (leap : Bool) {m m' : ℕ} (h : m ≤ m') :
    monthStart leap m ≤ monthStart leap m' := by
  induction h with
  | refl => exact le_rfl
  | step _ ih => exact ih.trans (Nat.le_add_right _ _)

/-- The days of a year before a date of that year. -/
private def offset (d : Date) : ℕ := monthStart (isLeap d.year) (d.month - 1) + (d.day - 1)

/-- The number of a date, from the start of its year and its rank in it. -/
private theorem toDays_eq (d : Date) : d.toDays = yearStart d.year + d.offset - epoch := by
  have := d.one_le_day
  unfold toDays offset
  omega

/-- A date lies before the end of its month. -/
private theorem offset_lt_monthStart (d : Date) :
    d.offset < monthStart (isLeap d.year) d.month := by
  have h₁ := monthStart_pred (isLeap d.year) d.one_le_month
  have h₂ := d.one_le_day
  have h₃ := d.day_le
  unfold offset
  omega

/-- A date lies before the end of its year. -/
private theorem offset_lt (d : Date) : (d.offset : ℤ) < yearLength (isLeap d.year) := by
  have h₁ := d.offset_lt_monthStart
  have h₂ := monthStart_mono (isLeap d.year) d.month_le
  rw [monthStart_twelve] at h₂
  omega

/-- Two dates of the same number are the same. -/
theorem toDays_injective : Function.Injective toDays := by
  intro d d' h
  rw [toDays_eq, toDays_eq] at h
  have hy : d.year = d'.year := by
    have hd := d.offset_lt
    have hd' := d'.offset_lt
    have hs := yearStart_succ d.year
    have hs' := yearStart_succ d'.year
    rcases lt_trichotomy d.year d'.year with hlt | heq | hlt
    · have := yearStart_strictMono hlt
      omega
    · exact heq
    · have := yearStart_strictMono hlt
      omega
  have ho : d.offset = d'.offset := by
    rw [hy] at h
    omega
  have hm : d.month = d'.month := by
    have hd := d.offset_lt_monthStart
    have hd' := d'.offset_lt_monthStart
    rw [hy] at hd
    unfold offset at hd hd' ho
    rw [hy] at ho hd
    rcases lt_trichotomy d.month d'.month with hlt | heq | hlt
    · have := monthStart_mono (isLeap d'.year) (Nat.le_sub_one_of_lt hlt)
      omega
    · exact heq
    · have := monthStart_mono (isLeap d'.year) (Nat.le_sub_one_of_lt hlt)
      omega
  have hday : d.day = d'.day := by
    have h₁ := d.one_le_day
    have h₂ := d'.one_le_day
    unfold offset at ho
    rw [hy, hm] at ho
    omega
  exact Date.ext hy hm hday

/-- A date is that of its number. -/
@[simp]
theorem ofDays_toDays (d : Date) : ofDays d.toDays = d :=
  toDays_injective (toDays_ofDays d.toDays)

/-- Dates are ordered by their day number. -/
instance : LinearOrder Date := LinearOrder.lift' toDays toDays_injective

/-- Dates are ordered as their numbers. -/
theorem le_iff_toDays {d d' : Date} : d ≤ d' ↔ d.toDays ≤ d'.toDays := Iff.rfl

/-- Dates are strictly ordered as their numbers. -/
theorem lt_iff_toDays {d d' : Date} : d < d' ↔ d.toDays < d'.toDays := by
  rw [lt_iff_not_ge, le_iff_toDays, not_le]

/-- A day of an earlier year comes before. -/
theorem lt_of_year_lt {d d' : Date} (h : d.year < d'.year) : d < d' := by
  have hd := d.offset_lt
  have hs := yearStart_succ d.year
  have hnext := yearStart_strictMono h
  rw [lt_iff_toDays, toDays_eq, toDays_eq]
  omega

/-- So does a day of an earlier month of the year. -/
theorem lt_of_month_lt {d d' : Date} (hy : d.year = d'.year) (h : d.month < d'.month) :
    d < d' := by
  have hd := d.offset_lt_monthStart
  have hnext := monthStart_mono (isLeap d.year) (Nat.le_sub_one_of_lt h)
  have hd' : monthStart (isLeap d.year) (d'.month - 1) ≤ d'.offset := by
    unfold offset
    rw [hy]
    exact Nat.le_add_right _ _
  rw [lt_iff_toDays, toDays_eq, toDays_eq, ← hy]
  omega

/-- Numbers are ordered as their dates. -/
theorem ofDays_le_ofDays {n n' : ℤ} : ofDays n ≤ ofDays n' ↔ n ≤ n' := by
  rw [le_iff_toDays, toDays_ofDays, toDays_ofDays]

end Date

example : (Date.ofDays 20665).year = 2026 ∧ (Date.ofDays 20665).month = 7 ∧
    (Date.ofDays 20665).day = 31 := by decide

end Gregorian
