import Budgy.Model.Domain

/-!
# Months and budget cycles

`domain/depense.rs` parses a month, `domain/cycle.rs` turns it into the period
`[debut, fin_exclue)` that starts on the day the user chose.
-/

set_option autoImplicit false

namespace Budgy

open Gregorian (Date isLeap monthLength monthStart yearStart)

/-- Why a month is refused. -/
inductive MoisInvalide where
  | format
  | horsPlage
  deriving DecidableEq

/-- The `Display` of these reasons. -/
def MoisInvalide.toText : MoisInvalide → String
  | .format => "format de mois invalide (YYYY-MM attendu)"
  | .horsPlage => "mois hors plage (01 à 12 attendu)"

/-- A month of a year. -/
@[ext]
structure Mois where
  annee : ℤ
  mois : ℕ
  un_le_mois : 1 ≤ mois
  mois_le : mois ≤ 12

instance : DecidableEq Mois := fun _ _ => decidable_of_iff _ Mois.ext_iff.symm

namespace Mois

/-- `Mois::parse`: the two halves are measured in bytes, then read as an `i32` and
a `u32`, which may carry a sign. -/
def parse (valeur : String) : Except MoisInvalide Mois :=
  match Text.splitOnce '-' valeur with
  | none => .error .format
  | some (annee, mois) =>
      if annee.utf8ByteSize ≠ 4 ∨ mois.utf8ByteSize ≠ 2 then .error .format
      else match Text.parseInt? (-2 ^ 31) (2 ^ 31 - 1) annee, Text.parseU32? mois with
        | some annee, some mois =>
            if h : 1 ≤ mois ∧ mois ≤ 12 then .ok ⟨annee, mois, h.1, h.2⟩ else .error .horsPlage
        | _, _ => .error .format

/-- `{:0n}`: the sign of a negative number counts in the width. -/
def zerosDevant (n : ℕ) (k : ℤ) : String :=
  if k < 0 then "-" ++ String.ofList ((Nat.toDigits 10 k.natAbs).leftpad (n - 1) '0')
  else String.ofList ((Nat.toDigits 10 k.natAbs).leftpad n '0')

/-- `Display for Mois`. -/
def toText (m : Mois) : String := zerosDevant 4 m.annee ++ "-" ++ zerosDevant 2 m.mois

/-- The first day of a month exists. -/
theorem one_le_monthLength (leap : Bool) {m : ℕ} (h₁ : 1 ≤ m) (h₂ : m ≤ 12) :
    1 ≤ monthLength leap m := by
  interval_cases m <;> cases leap <;> decide

/-- `premier_jour`. -/
def premierJour (m : Mois) : NaiveDate :=
  ⟨m.annee, m.mois, 1, m.un_le_mois, m.mois_le, le_rfl,
    one_le_monthLength _ m.un_le_mois m.mois_le⟩

/-- The month after. -/
def suivant (m : Mois) : Mois :=
  if h : m.mois = 12 then ⟨m.annee + 1, 1, le_rfl, by decide⟩
  else ⟨m.annee, m.mois + 1, by omega, by have := m.mois_le; omega⟩

/-- `premier_jour_mois_suivant`. -/
def premierJourMoisSuivant (m : Mois) : NaiveDate := m.suivant.premierJour

/-- `precedent`. -/
def precedent (m : Mois) : Mois :=
  if h : m.mois = 1 then ⟨m.annee - 1, 12, by decide, le_rfl⟩
  else ⟨m.annee, m.mois - 1, by have := m.un_le_mois; omega, by have := m.mois_le; omega⟩

end Mois

/-- The month a date belongs to. -/
def moisDe (d : NaiveDate) : Mois := ⟨d.year, d.month, d.one_le_month, d.month_le⟩

/-- The start day of a cycle, from 1 to 31. -/
@[ext]
structure JourDebutMois where
  valeur : ℕ
  un_le : 1 ≤ valeur
  le_trente_et_un : valeur ≤ 31

instance : DecidableEq JourDebutMois := fun _ _ => decidable_of_iff _ JourDebutMois.ext_iff.symm

namespace JourDebutMois

/-- `PREMIER`. -/
def premier : JourDebutMois := ⟨1, le_rfl, by decide⟩

/-- `JourDebutMois::nouveau`: a day from 1 to 31. -/
def nouveau? (jour : ℕ) : Option JourDebutMois :=
  if h : 1 ≤ jour ∧ jour ≤ 31 then some ⟨jour, h.1, h.2⟩ else none

end JourDebutMois

/-- `NaiveDate::pred_opt`. -/
def veille (d : NaiveDate) : NaiveDate := Date.ofDays (d.toDays - 1)

/-- `dernier_jour`: the day before the first of the next month. -/
def dernierJour (m : Mois) : ℕ := (veille m.premierJourMoisSuivant).day

/-- The last day of a month, as a date. -/
def finDeMois (m : Mois) : NaiveDate :=
  ⟨m.annee, m.mois, monthLength (isLeap m.annee) m.mois, m.un_le_mois, m.mois_le,
    Mois.one_le_monthLength _ m.un_le_mois m.mois_le, le_rfl⟩

/-- The day before the first of the next month is the last of the month. -/
theorem veille_premierJourMoisSuivant (m : Mois) : veille m.premierJourMoisSuivant = finDeMois m := by
  have hnext : m.premierJourMoisSuivant.toDays - 1 = (finDeMois m).toDays := by
    have hlen := Mois.one_le_monthLength (isLeap m.annee) m.un_le_mois m.mois_le
    have hstart := Date.monthStart_pred (isLeap m.annee) m.un_le_mois
    unfold Mois.premierJourMoisSuivant Mois.suivant
    split
    · rename_i h12
      have hyear := Gregorian.yearStart_succ m.annee
      have hfull := Gregorian.monthStart_twelve (isLeap m.annee)
      have hjanvier : monthStart (isLeap (m.annee + 1)) (1 - 1) = 0 := rfl
      rw [h12] at hstart hlen
      simp only [Date.toDays, Mois.premierJour, finDeMois, h12]
      omega
    · simp only [Date.toDays, Mois.premierJour, finDeMois, Nat.add_sub_cancel]
      omega
  unfold veille
  rw [hnext, Date.ofDays_toDays]

/-- The last day is the length of the month. -/
theorem dernierJour_eq (m : Mois) : dernierJour m = monthLength (isLeap m.annee) m.mois := by
  unfold dernierJour
  rw [veille_premierJourMoisSuivant]
  rfl

/-- `jour_dans_le_mois`: the day, brought back to the last one of the month. -/
def jourDansLeMois (m : Mois) (jour : JourDebutMois) : NaiveDate :=
  ⟨m.annee, m.mois, min jour.valeur (dernierJour m), m.un_le_mois, m.mois_le,
    le_min jour.un_le (by
      rw [dernierJour_eq]
      exact Mois.one_le_monthLength _ m.un_le_mois m.mois_le),
    by
      rw [dernierJour_eq]
      exact min_le_right _ _⟩

/-- `CycleMensuel`: the period of a budget month. -/
structure CycleMensuel where
  mois : Mois
  jourDebut : JourDebutMois
  deriving DecidableEq

namespace CycleMensuel

/-- The first day of the next cycle. -/
def finExclue (c : CycleMensuel) : NaiveDate :=
  if c.jourDebut = JourDebutMois.premier then c.mois.premierJourMoisSuivant
  else jourDansLeMois (moisDe c.mois.premierJour) c.jourDebut

/-- The first day of the cycle: the start day, in the month before its end. -/
def debut (c : CycleMensuel) : NaiveDate :=
  jourDansLeMois (moisDe c.finExclue).precedent c.jourDebut

/-- `CycleMensuel::precedent`. -/
def precedent (c : CycleMensuel) : CycleMensuel := ⟨c.mois.precedent, c.jourDebut⟩

end CycleMensuel

/-! ## The bounds of the library

The library has no date outside its years: each function above goes through
constructors that may fail, and stops on an `expect` when one does. -/

/-- The first year of `NaiveDate`. -/
def anneeMin : ℤ := -262143

/-- The last year of `NaiveDate`. -/
def anneeMax : ℤ := 262142

/-- `NaiveDate::from_ymd_opt`. -/
def fromYmdOpt (annee : ℤ) (mois jour : ℕ) : Option NaiveDate :=
  if anneeMin ≤ annee ∧ annee ≤ anneeMax then Date.ofYmd? annee mois jour else none

/-- `NaiveDate::pred_opt`. -/
def predOpt (d : NaiveDate) : Option NaiveDate :=
  if anneeMin ≤ (veille d).year then some (veille d) else none

/-- `premier_jour`, when its `expect` holds. -/
def Mois.premierJour? (m : Mois) : Option NaiveDate := fromYmdOpt m.annee m.mois 1

/-- `premier_jour_mois_suivant`, when its `expect` holds. -/
def Mois.premierJourMoisSuivant? (m : Mois) : Option NaiveDate :=
  fromYmdOpt m.suivant.annee m.suivant.mois 1

/-- `dernier_jour`, when its two `expect` hold. -/
def dernierJour? (m : Mois) : Option ℕ := do
  let premier ← fromYmdOpt m.suivant.annee m.suivant.mois 1
  let dernier ← predOpt premier
  some dernier.day

/-- `jour_dans_le_mois`, when its `expect` and those of `dernier_jour` hold. -/
def jourDansLeMois? (m : Mois) (jour : JourDebutMois) : Option NaiveDate := do
  let dernier ← dernierJour? m
  fromYmdOpt m.annee m.mois (min jour.valeur dernier)

namespace CycleMensuel

/-- `fin_exclue`, when every `expect` on the way holds. -/
def finExclue? (c : CycleMensuel) : Option NaiveDate := do
  let debutMois ← c.mois.premierJour?
  if c.jourDebut = JourDebutMois.premier then c.mois.premierJourMoisSuivant?
  else jourDansLeMois? (moisDe debutMois) c.jourDebut

/-- `debut`, when every `expect` on the way holds. -/
def debut? (c : CycleMensuel) : Option NaiveDate := do
  let fin ← c.finExclue?
  jourDansLeMois? (moisDe fin).precedent c.jourDebut

end CycleMensuel

/-! ## Dates written year-month-day -/

/-- `scan::number`: between one and `max` digits, with the rest of the text. -/
def lireNombre (max : ℕ) (cs : List Char) : Option (ℤ × List Char) :=
  let chiffres := (cs.take max).takeWhile Char.isDigit
  (Text.digitsValue? chiffres).map fun n => ((n : ℤ), cs.drop chiffres.length)

/-- A numeric item: blanks are skipped; a signed year may have any length. -/
def lireAnnee (cs : List Char) : Option (ℤ × List Char) :=
  match cs.dropWhile Text.isWhitespace with
  | '-' :: reste => (lireNombre reste.length reste).map fun r => (-r.1, r.2)
  | '+' :: reste => lireNombre reste.length reste
  | reste => lireNombre 4 reste

/-- The number of a month: white space is skipped before two digits at most. -/
def lireDeuxChiffres (cs : List Char) : Option (ℤ × List Char) :=
  lireNombre 2 (cs.dropWhile Text.isWhitespace)

/-- The hyphen between the year and the month. -/
def lireTiret : List Char → Option (List Char)
  | '-' :: reste => some reste
  | _ => none

/-- `NaiveDate::parse_from_str(_, "%Y-%m-%d")`; the library bounds the years. -/
def parseYmd? (s : String) : Option NaiveDate := do
  let (annee, reste) ← lireAnnee s.toList
  let reste ← lireTiret reste
  let (mois, reste) ← lireDeuxChiffres reste
  let reste ← lireTiret reste
  let (jour, reste) ← lireDeuxChiffres reste
  if reste = [] ∧ -262143 ≤ annee ∧ annee ≤ 262142 then
    Date.ofYmd? annee mois.toNat jour.toNat
  else none

/-- `MoisBudget::parse`. -/
def MoisBudget.parse (valeur : String) : Except BudgetValidationError MoisBudget :=
  match parseYmd? (Text.trim valeur ++ "-01") with
  | some d => .ok ⟨d⟩
  | none => .error .moisInvalide

example : (parseYmd? "2026-07-31").map Date.toDays = some 20665 := by decide

end Budgy
