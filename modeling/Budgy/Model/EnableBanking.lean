import Budgy.Model.Cycle
import Budgy.Model.Synchro

/-!
# `adapters/bank/enable_banking`

The mapping of the transactions the provider sends.  `uuid_depuis` derives an
identifier from a text with SHA-1; it only names a record that is then stored
under a generated key, so it stays a parameter.
-/

set_option autoImplicit false

namespace Budgy

/-- An amount as the bank writes it. -/
structure MontantWire where
  amount : String
  currency : String
  deriving DecidableEq

/-- A transaction as the bank writes it. -/
structure TransactionWire where
  entryReference : Option String
  transactionId : Option String
  transactionAmount : MontantWire
  creditDebitIndicator : Option String
  status : String
  bookingDate : Option String
  valueDate : Option String
  remittanceInformation : List String
  deriving DecidableEq

/-- A page of transactions, with the key of the next one. -/
structure ReponseTransactions where
  transactions : List TransactionWire
  continuationKey : Option String
  deriving DecidableEq

namespace EnableBanking

/-- `parser_entier`: `str::parse` to an `i64`. -/
def parserEntier (valeur : String) : Except BankDataSourceError ℤ :=
  match Text.parseInt? i64Min i64Max valeur with
  | some n => .ok n
  | none => .error (.reponseInvalide ("montant illisible : " ++ valeur))

/-- `centimes_arrondis`: two decimals, rounded up by the third. -/
def centimesArrondis (decimales : String) : Except BankDataSourceError ℤ :=
  if decimales.toList.any fun c => !c.isDigit then
    .error (.reponseInvalide ("décimales illisibles : " ++ decimales))
  else
    let chiffre (position : ℕ) : ℤ :=
      ((decimales.toList[position]?).map fun c => (c.toNat : ℤ) - 48).getD 0
    let centimes := chiffre 0 * 10 + chiffre 1
    .ok (centimes + if 5 ≤ chiffre 2 then 1 else 0)

/-- `montant_en_centimes`: the sign, the integer part, the rounded decimals, then the product. -/
def montantEnCentimes (montant : MontantWire) : Except BankDataSourceError ℤ := do
  let texte := Text.trim montant.amount
  let (signe, chiffres) : ℤ × String := match Text.stripPrefix? "-" texte with
    | some reste => (-1, reste)
    | none => (1, (Text.stripPrefix? "+" texte).getD texte)
  let (entiers, decimales) := (Text.splitOnce '.' chiffres).getD (chiffres, "")
  let centimesDecimaux ← centimesArrondis decimales
  let entiers ← if entiers = "" then pure 0 else parserEntier entiers
  return i64 (signe * i64 (i64 (entiers * 100) + centimesDecimaux))

/-- `parser_date`: a date that cannot be read is absent. -/
def parserDate (valeur : Option String) : Option NaiveDate := valeur.bind parseYmd?

/-- `statut_transaction`: what is not booked is pending. -/
def statutTransaction (valeur : String) : TransactionStatus :=
  let majuscules := Text.toUppercase valeur
  if majuscules = "BOOK" ∨ majuscules = "BOOKED" then .booked else .pending

/-- `reference_externe`: the reference of the entry, else the identifier of the transaction. -/
def referenceExterne (transaction : TransactionWire) : Option String :=
  transaction.entryReference.or transaction.transactionId

/-- The sign of the amount follows the indicator of a debit. -/
def montantSigne (transaction : TransactionWire) (amountCents : ℤ) : ℤ :=
  if transaction.creditDebitIndicator = some "DBIT" ∨
      transaction.creditDebitIndicator = some "Debit" then
    i64 (-i64 |amountCents|)
  else amountCents

/-- `vers_transaction`: a transaction without a reference or with an unreadable amount fails. -/
def versTransaction (uuidDepuis : String → Uuid) (compte : BankAccount) (horodatage : DateTime)
    (transaction : TransactionWire) : Except BankDataSourceError TransactionBancaire := do
  let externalTransactionId ← match referenceExterne transaction with
    | some reference => .ok reference
    | none => .error (.reponseInvalide "transaction sans référence")
  let amountCents ← montantEnCentimes transaction.transactionAmount
  let label :=
    if transaction.remittanceInformation = [] then externalTransactionId
    else Text.join " " transaction.remittanceInformation
  return {
    id := uuidDepuis ("eb-tx-" ++ compte.id.toText ++ "-" ++ externalTransactionId)
    bankAccount := compte.id
    externalTransactionId := externalTransactionId
    status := statutTransaction transaction.status
    label := label
    amountCents := montantSigne transaction amountCents
    currency := transaction.transactionAmount.currency
    bookingDate := parserDate transaction.bookingDate
    valueDate := parserDate transaction.valueDate
    category := none
    enveloppe := none
    categorizationSource := .none
    ruleId := none
    isRecurrent := false
    recurrenceInterval := none
    createdAt := horodatage }

end EnableBanking

end Budgy
