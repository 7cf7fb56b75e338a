import Budgy.Interface.Loops
import Budgy.Model.ClientEnableBanking

/-!
# `ClientEnableBanking::lister_transactions`

The pages of the transactions of an account.  The bank answers a path as it likes, and may
remember what it was asked; its answer is the decoded page, or the error that `appeler` and
`deserialiser` make of it.
-/

set_option autoImplicit false

namespace Budgy

/-! ## The path of a request -/

/-- The digits of a number on at least `n` places. -/
def chiffresSur (n : ℕ) (k : ℕ) : String := String.ofList ((Nat.toDigits 10 k).leftpad n '0')

/-- `%Y`: a year beyond four digits has a sign. -/
def formatAnnee (annee : ℤ) : String :=
  if 0 ≤ annee ∧ annee ≤ 9999 then chiffresSur 4 annee.natAbs
  else (if annee < 0 then "-" else "+") ++ chiffresSur 4 annee.natAbs

/-- `NaiveDate::format("%Y-%m-%d")`. -/
def formatYmd (d : NaiveDate) : String :=
  formatAnnee d.year ++ "-" ++ chiffresSur 2 d.month ++ "-" ++ chiffresSur 2 d.day

example : formatYmd (Gregorian.Date.ofDays 20665) = "2026-07-31" := by decide

/-- `chemin`: the continuation key follows the date as it was received. -/
def cheminTransactions (compte : BankAccount) (depuis : NaiveDate) (continuation : Option String) :
    String :=
  let chemin := "/accounts/" ++ compte.externalAccountId ++ "/transactions?date_from=" ++
    formatYmd depuis
  match continuation with
  | some cle => chemin ++ "&continuation_key=" ++ cle
  | none => chemin

/-! ## The loop -/

/-- The bank: what it answers to a path, and what it becomes. -/
abbrev Banque (σ : Type) : Type := String → σ → Except BankDataSourceError ReponseTransactions × σ

/-- What the loop holds: the bank, the key of the next page and the transactions read. -/
structure EtatListe (σ : Type) where
  banque : σ
  continuation : Option String
  transactions : List TransactionBancaire

/-- The key of the next page, when there is one. -/
def ReponseTransactions.cle (page : ReponseTransactions) : Option String :=
  page.continuationKey.filter (· ≠ "")

namespace ClientEnableBanking

variable {σ : Type} (uuidDepuis : String → Uuid) (banque : Banque σ) (compte : BankAccount)
  (depuis : NaiveDate) (horodatage : DateTime)

/-- The transactions of a page. -/
def lirePage (page : ReponseTransactions) :
    Except BankDataSourceError (List TransactionBancaire) :=
  page.transactions.mapM (EnableBanking.versTransaction uuidDepuis compte horodatage)

/-- One turn of the loop: a request, and the end of the list or the next key. -/
def tourDeListe (etat : EtatListe σ) :
    Except BankDataSourceError (List TransactionBancaire) ⊕ EtatListe σ :=
  match banque (cheminTransactions compte depuis etat.continuation) etat.banque with
  | (.error e, _) => .inl (.error e)
  | (.ok page, banque') =>
      match lirePage uuidDepuis compte horodatage page with
      | .error e => .inl (.error e)
      | .ok lues =>
          match page.cle with
          | some cle => .inr ⟨banque', some cle, etat.transactions ++ lues⟩
          | none => .inl (.ok (etat.transactions ++ lues))

/-- The list of the transactions, when it takes at most `n` requests. -/
def listerTransactions (n : ℕ) (s : σ) :
    Option (Except BankDataSourceError (List TransactionBancaire)) :=
  Loops.run (tourDeListe uuidDepuis banque compte depuis horodatage) n ⟨s, none, []⟩

end ClientEnableBanking

end Budgy
