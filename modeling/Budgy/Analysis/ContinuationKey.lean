import Budgy.Analysis.Scenarios
import Budgy.Interface.Forms
import Budgy.Model.Pagination

/-!
# The continuation key in the query

The key of the next page is written behind the date as the bank gave it, without any escape.
The bank reads it back unchanged when it has no character that a query gives a meaning to
(`cleDeSuite_iff`).
-/

set_option autoImplicit false

namespace Budgy

open Forms

/-! ## The text of a date -/

/-- Digits, and a sign in front of some years. -/
theorem chiffresSur_isDigit {n k : ℕ} {c : Char} (h : c ∈ (chiffresSur n k).toList) :
    c.isDigit = true := by
  unfold chiffresSur at h
  rw [String.toList_ofList, List.leftpad, List.mem_append] at h
  rcases h with h | h
  · rw [List.eq_of_mem_replicate h]
    decide
  · exact Nat.isDigit_of_mem_toDigits (by omega) (Nat.le_refl 10) h

/-- A date is written with digits and hyphens, and a plus beyond the year 9999. -/
theorem formatYmd_caracteres {d : NaiveDate} {c : Char} (h : c ∈ (formatYmd d).toList) :
    c.isDigit = true ∨ c = '-' ∨ c = '+' ∧ 9999 < d.year := by
  have hannee : ∀ c ∈ (formatAnnee d.year).toList,
      c.isDigit = true ∨ c = '-' ∨ c = '+' ∧ 9999 < d.year := by
    intro c hc
    unfold formatAnnee at hc
    split_ifs at hc with hquatre hneg
    · exact Or.inl (chiffresSur_isDigit hc)
    · rcases List.mem_append.1 (String.toList_append ▸ hc) with hc | hc
      · exact Or.inr (Or.inl (by simpa using hc))
      · exact Or.inl (chiffresSur_isDigit hc)
    · rcases List.mem_append.1 (String.toList_append ▸ hc) with hc | hc
      · exact Or.inr (Or.inr ⟨by simpa using hc, by omega⟩)
      · exact Or.inl (chiffresSur_isDigit hc)
  unfold formatYmd at h
  simp only [String.toList_append, List.mem_append] at h
  rcases h with (((h | h) | h) | h) | h
  · exact hannee c h
  · exact Or.inr (Or.inl (by simpa using h))
  · exact Or.inl (chiffresSur_isDigit h)
  · exact Or.inr (Or.inl (by simpa using h))
  · exact Or.inl (chiffresSur_isDigit h)

/-- Beyond the year 9999 a date is written with a plus. -/
theorem plus_mem_formatYmd {d : NaiveDate} (h : 9999 < d.year) : '+' ∈ (formatYmd d).toList := by
  have hquatre : ¬ (0 ≤ d.year ∧ d.year ≤ 9999) := by omega
  have hneg : ¬ d.year < 0 := by omega
  unfold formatYmd formatAnnee
  rw [if_neg hquatre, if_neg hneg]
  simp [String.toList_append]

/-- The bytes of a date are its characters. -/
theorem utf8_formatYmd (d : NaiveDate) :
    Text.utf8 (formatYmd d) = (formatYmd d).toList.map Char.toUInt8 := by
  refine Text.utf8_of_ascii fun c hc => ?_
  rcases formatYmd_caracteres hc with h | rfl | ⟨rfl, -⟩
  · have hrange := Text.digit_bounds h
    omega
  · decide
  · decide

/-- A byte that is no digit and no minus is in a date only when it is the sign of its year. -/
theorem notMem_formatYmd {d : NaiveDate} {b : UInt8} (hchiffre : b.toNat < 48 ∨ 57 < b.toNat)
    (hmoins : '-'.toUInt8 ≠ b) (hplus : d.year ≤ 9999 ∨ '+'.toUInt8 ≠ b) :
    b ∉ Text.utf8 (formatYmd d) := by
  rw [utf8_formatYmd]
  intro hmem
  obtain ⟨c, hc, rfl⟩ := List.mem_map.1 hmem
  rcases formatYmd_caracteres hc with h | rfl | ⟨rfl, hannee⟩
  · have hrange := Text.digit_bounds h
    have hoctet : c.toUInt8.toNat = c.toNat % 256 := UInt32.toNat_toUInt8 c.val
    omega
  · exact hmoins rfl
  · rcases hplus with hplus | hplus
    · omega
    · exact hplus rfl

/-- The date comes back as it was written, unless its year has a plus. -/
theorem decode_formatYmd_iff (d : NaiveDate) :
    decode (Text.utf8 (formatYmd d)) = Text.utf8 (formatYmd d) ↔ d.year ≤ 9999 := by
  rw [decode_eq_self_iff]
  constructor
  · rintro ⟨hplus, -⟩
    by_contra hannee
    refine hplus ?_
    rw [utf8_formatYmd]
    exact List.mem_map.2 ⟨'+', plus_mem_formatYmd (by omega), rfl⟩
  · intro hannee
    exact ⟨notMem_formatYmd (by decide) (by decide) (Or.inl hannee),
      not_hasEscape (notMem_formatYmd (by decide) (by decide) (Or.inr (by decide)))⟩

/-! ## The request -/

/-- The bank reads the date and the key of a request as they were written. -/
def CleRetrouvee (compte : BankAccount) (depuis : NaiveDate) (cle : String) : Prop :=
  parameters (query (Text.utf8 (cheminTransactions compte depuis (some cle)))) =
    [(Text.utf8 "date_from", Text.utf8 (formatYmd depuis)),
      (Text.utf8 "continuation_key", Text.utf8 cle)]

/-- The bytes of a request. -/
theorem utf8_cheminTransactions (compte : BankAccount) (depuis : NaiveDate) (cle : String) :
    Text.utf8 (cheminTransactions compte depuis (some cle)) =
      Text.utf8 "/accounts/" ++ Text.utf8 compte.externalAccountId ++ Text.utf8 "/transactions" ++
        mark :: (Text.utf8 "date_from" ++ equals :: Text.utf8 (formatYmd depuis) ++
          ampersand :: (Text.utf8 "continuation_key" ++ equals :: Text.utf8 cle)) := by
  have hdebut : Text.utf8 "/transactions?date_from=" =
      Text.utf8 "/transactions" ++ mark :: (Text.utf8 "date_from" ++ [equals]) := by decide
  have hsuite : Text.utf8 "&continuation_key=" =
      ampersand :: (Text.utf8 "continuation_key" ++ [equals]) := by decide
  unfold cheminTransactions
  simp only [Text.utf8_append, hdebut, hsuite]
  simp

/-- The key and the date come back unchanged when the year has four digits at most and the key
has no hash, no ampersand, no plus and no percent sign followed by two hexadecimal digits. -/
theorem cleDeSuite_iff (compte : BankAccount) (depuis : NaiveDate) (cle : String)
    (hcompte : mark ∉ Text.utf8 compte.externalAccountId ∧
      hash ∉ Text.utf8 compte.externalAccountId) :
    CleRetrouvee compte depuis cle ↔
      depuis.year ≤ 9999 ∧ hash ∉ Text.utf8 cle ∧ ampersand ∉ Text.utf8 cle ∧
        plus ∉ Text.utf8 cle ∧ ¬ HasEscape (Text.utf8 cle) := by
  have hplat : ∀ b : UInt8, b = mark ∨ b = hash →
      b ∉ Text.utf8 "/accounts/" ∧ b ∉ Text.utf8 "/transactions" := by
    rintro b (rfl | rfl) <;> decide
  have hchemin : ∀ b : UInt8, b = mark ∨ b = hash → b ∉ Text.utf8 compte.externalAccountId →
      b ∉ Text.utf8 "/accounts/" ++ Text.utf8 compte.externalAccountId ++
        Text.utf8 "/transactions" := by
    intro b hb hexterne hmem
    rcases List.mem_append.1 hmem with hmem | hmem
    · rcases List.mem_append.1 hmem with hmem | hmem
      · exact (hplat b hb).1 hmem
      · exact hexterne hmem
    · exact (hplat b hb).2 hmem
  have hdate : ∀ b : UInt8, b = hash ∨ b = ampersand → b ∉ Text.utf8 (formatYmd depuis) := by
    rintro b (rfl | rfl)
    · exact notMem_formatYmd (by decide) (by decide) (Or.inr (by decide))
    · exact notMem_formatYmd (by decide) (by decide) (Or.inr (by decide))
  have hnom : ∀ b : UInt8, b = hash ∨ b = ampersand →
      b ∉ Text.utf8 "date_from" ++ equals :: Text.utf8 (formatYmd depuis) := by
    intro b hb hmem
    have hpremier : b ∉ Text.utf8 "date_from" ++ [equals] := by
      rcases hb with rfl | rfl <;> decide
    rw [List.append_cons] at hmem
    rcases List.mem_append.1 hmem with hmem | hmem
    · exact hpremier hmem
    · exact hdate b hb hmem
  unfold CleRetrouvee
  rw [utf8_cheminTransactions, query_append (hchemin _ (Or.inl rfl) hcompte.1)
    (hchemin _ (Or.inr rfl) hcompte.2), parameters_pair_iff, decode_formatYmd_iff]
  · decide
  · decide
  · decide
  · decide
  · exact hnom _ (Or.inr rfl)
  · decide
  · intro hmem
    have hfin : hash ∉ ampersand :: (Text.utf8 "continuation_key" ++ [equals]) := by decide
    rcases List.mem_append.1 hmem with hmem | hmem
    · exact hnom _ (Or.inl rfl) hmem
    · exact hfin hmem

/-- A key of letters, digits and blanks comes back. -/
theorem cleDeSuite_page :
    CleRetrouvee (compteBancaire "acc-1") (Gregorian.Date.ofDays 20665) "page 2 é" :=
  (cleDeSuite_iff (compteBancaire "acc-1") (Gregorian.Date.ofDays 20665) "page 2 é"
    ⟨by decide, by decide +kernel⟩).2
    ⟨by decide, by decide +kernel, by decide +kernel, by decide +kernel,
      not_hasEscape (by decide)⟩

/-- A key with a plus comes back with a blank, one with an ampersand cut in two, one with a hash
cut off, and one with an escape decoded; so does the plus of a year of five digits. -/
theorem not_cleRetrouvee :
    (∀ cle ∈ ["a+b", "a&b", "a#b", "a%2Bb"],
      ¬ CleRetrouvee (compteBancaire "acc-1") (Gregorian.Date.ofDays 20665) cle) ∧
      ¬ CleRetrouvee (compteBancaire "acc-1") (Gregorian.Date.ofDays 2932897) "a" := by
  unfold CleRetrouvee
  decide

end Budgy
