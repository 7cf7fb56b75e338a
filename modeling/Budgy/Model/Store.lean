import Budgy.Model.Domain
import Budgy.Interface.Table

/-!
# The database

The nine tables that the migrations leave, with the columns the program reads or
writes (`key_version` is written and never read).  Primary keys are carried by
`Relational.Table`; the other constraints are those of `Store.Integre`, which
every statement keeps because it refuses what would break them.
-/

set_option autoImplicit false

namespace Budgy

open Relational (Table)

/-- `budgy.consent`. -/
structure ConsentRow where
  id : Uuid
  ownerId : ProprietaireId
  externalRef : List UInt8
  etablissement : Option String
  status : ConsentStatus
  expiresAt : Option DateTime
  createdAt : DateTime
  updatedAt : DateTime
  deriving DecidableEq

/-- `budgy.bank_account`. -/
structure BankAccountRow where
  id : Uuid
  ownerId : ProprietaireId
  consentId : Uuid
  externalAccountId : List UInt8
  ibanEncrypted : List UInt8
  ibanMasked : String
  currency : String
  nextSyncAt : Option DateTime
  syncCountToday : ℤ
  lastSyncDay : Option NaiveDate
  lastSyncAt : Option DateTime
  dedupKey : String
  empreinteCompte : Option String
  createdAt : DateTime
  updatedAt : DateTime
  deriving DecidableEq

/-- `budgy.balance`. -/
structure BalanceRow where
  id : Uuid
  bankAccountId : Uuid
  balanceType : BalanceType
  amountCents : List UInt8
  currency : String
  referenceDate : DateTime
  createdAt : DateTime
  deriving DecidableEq

/-- `budgy.bank_transaction`. -/
structure BankTransactionRow where
  id : Uuid
  bankAccountId : Uuid
  externalTransactionId : List UInt8
  dedupKey : String
  status : TransactionStatus
  label : List UInt8
  amountCents : List UInt8
  currency : String
  bookingDate : Option NaiveDate
  valueDate : Option NaiveDate
  categoryId : Option Uuid
  enveloppeId : Option Uuid
  categorizationSource : CategorizationSource
  ruleId : Option Uuid
  isRecurrent : Bool
  recurrenceInterval : Option RecurrenceInterval
  isInternalTransfer : Bool
  createdAt : DateTime
  deriving DecidableEq

/-- `budgy.preferences_utilisateur`. -/
structure PreferencesRow where
  ownerId : ProprietaireId
  jourDebutMois : ℤ
  deriving DecidableEq

/-- The effective date of a transaction: `COALESCE(booking_date, value_date)`. -/
def BankTransactionRow.date (t : BankTransactionRow) : Option NaiveDate :=
  t.bookingDate.or t.valueDate

/-- The database.  Categories, rules, envelopes and budgets have the columns of
the record they are read into. -/
@[ext]
structure Store where
  consent : Table ConsentRow.id
  bankAccount : Table BankAccountRow.id
  balance : Table BalanceRow.id
  bankTransaction : Table BankTransactionRow.id
  category : Table Category.id
  reglesCategorisation : Table RegleCategorisation.id
  budgets : Table Budget.id
  preferencesUtilisateur : Table PreferencesRow.ownerId
  enveloppe : Table Enveloppe.id

namespace Store

/-- The database before the migrations seed it. -/
def vide : Store := ⟨.empty _, .empty _, .empty _, .empty _, .empty _, .empty _, .empty _,
  .empty _, .empty _⟩

variable (s : Store)

/-- The owner of an account, as the join on `bank_account` finds it. -/
def proprietaireDuCompte (compte : Uuid) : Option ProprietaireId :=
  (s.bankAccount.find? compte).map BankAccountRow.ownerId

/-- The join condition `a.id = t.bank_account_id AND a.owner_id = $1`. -/
def txDe (owner : ProprietaireId) (t : BankTransactionRow) : Bool :=
  s.proprietaireDuCompte t.bankAccountId = some owner

/-- The condition `owner_id IS NULL OR owner_id = $1` on a category. -/
def categorieVisible (owner : ProprietaireId) (c : Category) : Bool :=
  c.ownerId = none || c.ownerId = some owner

/-! ## Updates of one table -/

section Updates

/-- `UPDATE budgy.consent`. -/
def majConsent (p : ConsentRow → Bool) (f : ConsentRow → ConsentRow)
    (hf : ∀ r, (f r).id = r.id := by intro; rfl) : Store :=
  { s with consent := s.consent.update p f hf }

/-- `UPDATE budgy.bank_account`. -/
def majCompte (p : BankAccountRow → Bool) (f : BankAccountRow → BankAccountRow)
    (hf : ∀ r, (f r).id = r.id := by intro; rfl) : Store :=
  { s with bankAccount := s.bankAccount.update p f hf }

/-- `UPDATE budgy.bank_transaction`. -/
def majTransaction (p : BankTransactionRow → Bool) (f : BankTransactionRow → BankTransactionRow)
    (hf : ∀ r, (f r).id = r.id := by intro; rfl) : Store :=
  { s with bankTransaction := s.bankTransaction.update p f hf }

variable {s}

/-- The rows after an update of the consents. -/
@[simp]
theorem mem_majConsent {p : ConsentRow → Bool} {f : ConsentRow → ConsentRow}
    {hf : ∀ r, (f r).id = r.id} {c : ConsentRow} :
    c ∈ (s.majConsent p f hf).consent ↔ ∃ c₀ ∈ s.consent, c = if p c₀ then f c₀ else c₀ :=
  @Relational.Table.mem_update _ _ _ s.consent p f hf c

/-- The rows after an update of the accounts. -/
@[simp]
theorem mem_majCompte {p : BankAccountRow → Bool} {f : BankAccountRow → BankAccountRow}
    {hf : ∀ r, (f r).id = r.id} {a : BankAccountRow} :
    a ∈ (s.majCompte p f hf).bankAccount ↔ ∃ a₀ ∈ s.bankAccount, a = if p a₀ then f a₀ else a₀ :=
  @Relational.Table.mem_update _ _ _ s.bankAccount p f hf a

/-- The rows after an update of the transactions. -/
@[simp]
theorem mem_majTransaction {p : BankTransactionRow → Bool}
    {f : BankTransactionRow → BankTransactionRow} {hf : ∀ r, (f r).id = r.id}
    {t : BankTransactionRow} :
    t ∈ (s.majTransaction p f hf).bankTransaction ↔
      ∃ t₀ ∈ s.bankTransaction, t = if p t₀ then f t₀ else t₀ :=
  @Relational.Table.mem_update _ _ _ s.bankTransaction p f hf t

end Updates

/-! ## Deletions, with the actions of the foreign keys -/

/-- `DELETE FROM budgy.bank_account`: balances and transactions cascade. -/
def supprimerComptes (p : BankAccountRow → Bool) : Store :=
  let supprime (id : Uuid) : Bool := s.bankAccount.any fun a => a.id = id && p a
  { s with
    bankAccount := s.bankAccount.delete p
    balance := s.balance.delete fun b => supprime b.bankAccountId
    bankTransaction := s.bankTransaction.delete fun t => supprime t.bankAccountId }

/-- `DELETE FROM budgy.consent`: accounts cascade. -/
def supprimerConsents (p : ConsentRow → Bool) : Store :=
  let supprime (id : Uuid) : Bool := s.consent.any fun c => c.id = id && p c
  { s.supprimerComptes fun a => supprime a.consentId with consent := s.consent.delete p }

/-- `DELETE FROM budgy.category`: the trigger resets the categorisation of the
transactions, the foreign keys empty their category and delete rules and budgets. -/
def supprimerCategories (p : Category → Bool) : Store :=
  let supprime (id : Uuid) : Bool := s.category.any fun c => c.id = id && p c
  { s with
    category := s.category.delete p
    bankTransaction := s.bankTransaction.update
      (fun t => t.categoryId.any supprime)
      (fun t => { t with categorizationSource := .none, ruleId := none, categoryId := none })
      (fun _ => rfl)
    reglesCategorisation := s.reglesCategorisation.delete fun r => supprime r.categoryId
    budgets := s.budgets.delete fun b => supprime b.categoryId }

/-- `DELETE FROM budgy.enveloppe`: the transactions are released. -/
def supprimerEnveloppes (p : Enveloppe → Bool) : Store :=
  let supprime (id : Uuid) : Bool := s.enveloppe.any fun e => e.id = id && p e
  { s with
    enveloppe := s.enveloppe.delete p
    bankTransaction := s.bankTransaction.update
      (fun t => t.enveloppeId.any supprime)
      (fun t => { t with enveloppeId := none })
      (fun _ => rfl) }

/-! ## Constraints -/

/-- The `UNIQUE`, `FOREIGN KEY` and `CHECK` constraints of the migrations. -/
structure Integre : Prop where
  compteUnique : ∀ a ∈ s.bankAccount, ∀ b ∈ s.bankAccount,
    a.consentId = b.consentId → a.dedupKey = b.dedupKey → a = b
  transactionUnique : ∀ t ∈ s.bankTransaction, ∀ u ∈ s.bankTransaction,
    t.dedupKey = u.dedupKey → t = u
  budgetUnique : ∀ b ∈ s.budgets, ∀ b' ∈ s.budgets,
    b.ownerId = b'.ownerId → b.categoryId = b'.categoryId → b.mois = b'.mois → b = b'
  enveloppeUnique : ∀ e ∈ s.enveloppe, ∀ e' ∈ s.enveloppe,
    e.proprietaire = e'.proprietaire → e.nom = e'.nom → e = e'
  compteConsent : ∀ a ∈ s.bankAccount, ∃ c ∈ s.consent, c.id = a.consentId
  balanceCompte : ∀ b ∈ s.balance, ∃ a ∈ s.bankAccount, a.id = b.bankAccountId
  transactionCompte : ∀ t ∈ s.bankTransaction, ∃ a ∈ s.bankAccount, a.id = t.bankAccountId
  transactionCategorie : ∀ t ∈ s.bankTransaction, ∀ id, t.categoryId = some id →
    ∃ c ∈ s.category, c.id = id
  transactionEnveloppe : ∀ t ∈ s.bankTransaction, ∀ id, t.enveloppeId = some id →
    ∃ e ∈ s.enveloppe, e.id = id
  regleCategorie : ∀ r ∈ s.reglesCategorisation, ∃ c ∈ s.category, c.id = r.categoryId
  budgetCategorie : ∀ b ∈ s.budgets, ∃ c ∈ s.category, c.id = b.categoryId

end Store

/-! ## The seeded database -/

/-- The system categories that the migrations seed, with the one of the internal
transfers last. -/
def categoriesSemees : List (String × CategoryKind × String × String) :=
  [("Salaire", .revenu, "#2E7D32", "briefcase"),
   ("Loyer", .depense, "#C62828", "home"),
   ("Courses", .depense, "#EF6C00", "shopping-cart"),
   ("Transport", .depense, "#1565C0", "car"),
   ("Loisirs", .depense, "#6A1B9A", "gamepad-2"),
   ("Santé", .depense, "#00838F", "heart-pulse"),
   ("Restaurants", .depense, "#AD1457", "utensils"),
   ("Factures", .depense, "#455A64", "file-text"),
   ("Autres dépenses", .depense, "#757575", "ellipsis"),
   ("Virements internes", .depense, "#546E7A", "exchange")]

/-- The database as the migrations leave it: the system categories, under generated
identifiers but for one, and nothing else. -/
structure Store.Amorcee (s : Store) : Prop where
  consent : s.consent.rows = []
  bankAccount : s.bankAccount.rows = []
  balance : s.balance.rows = []
  bankTransaction : s.bankTransaction.rows = []
  reglesCategorisation : s.reglesCategorisation.rows = []
  budgets : s.budgets.rows = []
  preferencesUtilisateur : s.preferencesUtilisateur.rows = []
  enveloppe : s.enveloppe.rows = []
  category : s.category.rows.map (fun c => (c.name, c.kind, c.color, c.icon)) = categoriesSemees
  systeme : ∀ c ∈ s.category, c.ownerId = none
  virementsInternes : ∀ c ∈ s.category,
    c.id = categorieVirementsInternes ↔ c.name = "Virements internes"

/-! ## What the database chooses -/

/-- What a statement draws from outside the program: whether it fails, the order
in which it visits rows it has no reason to order, a generated key and the clock. -/
structure ChoixSql where
  panne : Option String
  rang : Uuid → ℕ
  uuid : Uuid
  maintenant : DateTime

/-- A statement that only reads. -/
def lire {β : Type} (s : Store) (valeur : β) : Except SqlxError (β × Store) := .ok (valeur, s)

/-- `INSERT`: refused when the generated key is taken. -/
def cleLibre {ρ : Type} {key : ρ → Uuid} {β : Type} (t : Table key) (r : ρ)
    (suite : Table key → Except SqlxError (β × Store)) : Except SqlxError (β × Store) :=
  match t.insert r with
  | some t' => suite t'
  | none => .error (.contrainte "pkey")

/-- A constraint checked by the statement. -/
def exiger {β : Type} (nom : String) (condition : Bool)
    (suite : Except SqlxError (β × Store)) : Except SqlxError (β × Store) :=
  if condition then suite else .error (.contrainte nom)

end Budgy
