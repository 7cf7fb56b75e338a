import Budgy.Model.Store

/-!
# The statements of `repository/bank_transactions.rs`

`UPDATE … FROM budgy.bank_account AS a WHERE t.bank_account_id = a.id AND
a.owner_id = $1` is the test `Store.txDe`: an account has one owner, so a
transaction is joined at most once.
-/

set_option autoImplicit false

namespace Budgy

open Relational (arrange sortBy)

/-- The columns an upsert of a transaction binds. -/
structure InsertionTransaction where
  bankAccountId : Uuid
  externalTransactionId : List UInt8
  dedupKey : String
  status : TransactionStatus
  label : List UInt8
  amountCents : List UInt8
  currency : String
  bookingDate : Option NaiveDate
  valueDate : Option NaiveDate

/-- A transaction with the owner of its account. -/
structure TransactionAvecOwner where
  transaction : BankTransactionRow
  ownerId : ProprietaireId

/-- The filters of `lister_pour_proprietaire` that the statement applies. -/
structure FiltreSql where
  compte : Option Uuid
  categorie : Option Uuid
  debut : Option NaiveDate
  fin : Option NaiveDate

/-- The condition of `lister_pour_proprietaire`: a filter that is `NULL` holds; a
date filter rejects a transaction without date. -/
def FiltreSql.retient (f : FiltreSql) (t : BankTransactionRow) : Bool :=
  f.compte.all (t.bankAccountId = ·) &&
  f.categorie.all (t.categoryId = some ·) &&
  f.debut.all (fun debut => t.date.any (debut ≤ ·)) &&
  f.fin.all (fun fin => t.date.any (· ≤ fin))

/-- The statements on transactions, with their parameters. -/
inductive RequeteTransaction where
  | insert (ligne : InsertionTransaction)
  | fetch (id : Uuid)
  | compterParCompte (compte : Uuid) (owner : ProprietaireId) (nonCategorisees : Bool)
  | listerParCompte (compte : Uuid) (owner : ProprietaireId) (nonCategorisees : Bool)
      (limit offset : ℕ)
  | listerPourProprietaire (owner : ProprietaireId) (filtre : FiltreSql)
  | categoriser (category transaction compte : Uuid) (owner : ProprietaireId)
  | appliquerRegle (category regle transaction : Uuid) (owner : ProprietaireId)
  | listerNonCategorisees (owner : ProprietaireId) (limite : ℕ)
  | appliquerRegleParLot (category regle : Uuid) (transactions : List Uuid)
      (owner : ProprietaireId)
  | categorieAccessible (category : Uuid) (owner : ProprietaireId)
  | categorieCreditParDefaut (owner : ProprietaireId)
  | listerCreditsNonCategorises (owner : ProprietaireId) (limite : ℕ)
  | appliquerCategorieDefautParLot (category : Uuid) (ids : List Uuid) (owner : ProprietaireId)
  | libelleTransaction (transaction compte : Uuid) (owner : ProprietaireId)
  | listerMouvements (owner : ProprietaireId)
  | idsTransfertsInternes (owner : ProprietaireId)
  | reinitialiserTransfertsInternes (owner : ProprietaireId)
  | marquerTransfertsInternes (owner : ProprietaireId) (ids : List Uuid)
  | listerOccurrences (owner : ProprietaireId)
  | reinitialiserRecurrences (owner : ProprietaireId)
  | marquerRecurrentes (owner : ProprietaireId) (interval : RecurrenceInterval)
      (ids : List Uuid)

namespace RequeteTransaction

/-- What each statement returns. -/
abbrev Reponse : RequeteTransaction → Type
  | insert .. => Option (Uuid × Bool)
  | fetch .. => Option TransactionAvecOwner
  | compterParCompte .. => ℕ
  | listerParCompte .. => List TransactionAvecOwner
  | listerPourProprietaire .. => List TransactionAvecOwner
  | categoriser .. => Option Uuid
  | appliquerRegle .. => ℕ
  | listerNonCategorisees .. => List (Uuid × List UInt8)
  | appliquerRegleParLot .. => ℕ
  | categorieAccessible .. => Option Uuid
  | categorieCreditParDefaut .. => Option Uuid
  | listerCreditsNonCategorises .. => List (Uuid × List UInt8)
  | appliquerCategorieDefautParLot .. => ℕ
  | libelleTransaction .. => Option (List UInt8)
  | listerMouvements .. => List BankTransactionRow
  | idsTransfertsInternes .. => List Uuid
  | reinitialiserTransfertsInternes .. => ℕ
  | marquerTransfertsInternes .. => ℕ
  | listerOccurrences .. => List BankTransactionRow
  | reinitialiserRecurrences .. => ℕ
  | marquerRecurrentes .. => ℕ

/-- The row an insertion adds: the other columns take their defaults. -/
def ligneTransaction (x : ChoixSql) (l : InsertionTransaction) : BankTransactionRow :=
  { id := x.uuid
    bankAccountId := l.bankAccountId
    externalTransactionId := l.externalTransactionId
    dedupKey := l.dedupKey
    status := l.status
    label := l.label
    amountCents := l.amountCents
    currency := l.currency
    bookingDate := l.bookingDate
    valueDate := l.valueDate
    categoryId := none
    enveloppeId := none
    categorizationSource := .none
    ruleId := none
    isRecurrent := false
    recurrenceInterval := none
    isInternalTransfer := false
    createdAt := x.maintenant }

/-- `ORDER BY booking_date DESC NULLS FIRST, value_date DESC NULLS LAST,
created_at DESC`. -/
def ordreParCompte (t : BankTransactionRow) : (ℕ ×ₗ ℤ) ×ₗ ((ℕ ×ₗ ℤ) ×ₗ ℤ) :=
  let booking := match t.bookingDate with
    | none => toLex (0, 0)
    | some d => toLex (1, -d.toDays)
  let value := match t.valueDate with
    | none => toLex (1, 0)
    | some d => toLex (0, -d.toDays)
  toLex (booking, toLex (value, -t.createdAt))

/-- The rows of an owner that satisfy a condition, in the order of the database. -/
def transactionsDe (x : ChoixSql) (s : Store) (owner : ProprietaireId)
    (p : BankTransactionRow → Bool) : List BankTransactionRow :=
  arrange BankTransactionRow.id x.rang
    (s.bankTransaction.select fun t => s.txDe owner t && p t)

/-- The condition of `lister_par_compte`. -/
def duCompte (compte : Uuid) (nonCategorisees : Bool) (t : BankTransactionRow) : Bool :=
  t.bankAccountId = compte && (!nonCategorisees || t.categoryId = none)

/-- The category of default credits: that of the owner first, then the system one. -/
def categoriesSalaire (x : ChoixSql) (s : Store) (owner : ProprietaireId) : List Category :=
  sortBy (fun c => if c.ownerId.getD "" = owner then 0 else 1 : Category → ℕ)
    (arrange Category.id x.rang (s.category.select fun c =>
      c.name = "Salaire" && c.kind = .revenu &&
      (c.ownerId.getD "" = owner || c.ownerId.getD "" = "")))

/-- `UPDATE … FROM budgy.bank_account` on the transactions of an owner. -/
def majDe (s : Store) (owner : ProprietaireId) (p : BankTransactionRow → Bool)
    (f : BankTransactionRow → BankTransactionRow) (hf : ∀ r, (f r).id = r.id := by intro; rfl) :
    Except SqlxError (ℕ × Store) :=
  let vise (t : BankTransactionRow) : Bool := s.txDe owner t && p t
  .ok (s.bankTransaction.count vise, s.majTransaction vise f hf)

/-- The foreign key of `category_id` is checked when some row is updated. -/
def exigerCategorie {β : Type} (s : Store) (category : Uuid) (touche : Bool)
    (suite : Except SqlxError (β × Store)) : Except SqlxError (β × Store) :=
  exiger "bank_transaction_category_id_fkey"
    (!touche || s.category.any fun c => c.id = category) suite

/-- What each statement does to the database. -/
def effet (x : ChoixSql) (s : Store) :
    (r : RequeteTransaction) → Except SqlxError (r.Reponse × Store)
  | insert l =>
      match (s.bankTransaction.select fun t => t.dedupKey = l.dedupKey).head? with
      | some t =>
          if t.status = .pending ∧ l.status = .booked then
            .ok (some (t.id, false),
              s.majTransaction (fun u => u.id = t.id) fun u =>
                { u with status := l.status, bookingDate := l.bookingDate,
                         valueDate := l.valueDate })
          else lire s none
      | none =>
          exiger "bank_transaction_bank_account_id_fkey"
            (s.bankAccount.any fun a => a.id = l.bankAccountId) <|
            cleLibre s.bankTransaction (ligneTransaction x l) fun t =>
              .ok (some (x.uuid, true), { s with bankTransaction := t })
  | fetch id =>
      lire s ((s.bankTransaction.find? id).bind fun t =>
        (s.proprietaireDuCompte t.bankAccountId).map fun owner => ⟨t, owner⟩)
  | compterParCompte compte owner nonCategorisees =>
      lire s (s.bankTransaction.count fun t => s.txDe owner t && duCompte compte nonCategorisees t)
  | listerParCompte compte owner nonCategorisees limit offset =>
      lire s ((((sortBy ordreParCompte
        (transactionsDe x s owner (duCompte compte nonCategorisees))).drop offset).take limit).map
          fun t => ⟨t, owner⟩)
  | listerPourProprietaire owner filtre =>
      lire s ((transactionsDe x s owner filtre.retient).map fun t => ⟨t, owner⟩)
  | categoriser category transaction compte owner =>
      let vise (t : BankTransactionRow) : Bool :=
        s.txDe owner t && (t.id = transaction && t.bankAccountId = compte)
      exigerCategorie s category (s.bankTransaction.any vise) <|
        .ok ((s.bankTransaction.select vise).head?.map BankTransactionRow.id,
          s.majTransaction vise fun t =>
            { t with
              categoryId := some category
              categorizationSource := .manual
              ruleId := none
              isInternalTransfer := category = categorieVirementsInternes })
  | appliquerRegle category regle transaction owner =>
      let p (t : BankTransactionRow) : Bool :=
        t.id = transaction && t.categorizationSource ≠ .manual
      exigerCategorie s category (s.bankTransaction.any fun t => s.txDe owner t && p t) <|
        majDe s owner p fun t =>
          { t with categoryId := some category, categorizationSource := .rule,
                   ruleId := some regle }
  | listerNonCategorisees owner limite =>
      lire s (((transactionsDe x s owner fun t =>
        t.categoryId = none && !t.isInternalTransfer).take limite).map fun t => (t.id, t.label))
  | appliquerRegleParLot category regle transactions owner =>
      let p (t : BankTransactionRow) : Bool :=
        transactions.contains t.id && t.categorizationSource = .none
      exigerCategorie s category (s.bankTransaction.any fun t => s.txDe owner t && p t) <|
        majDe s owner p fun t =>
          { t with categoryId := some category, categorizationSource := .rule,
                   ruleId := some regle }
  | categorieAccessible category owner =>
      lire s (((s.category.find? category).filter fun c =>
        Store.categorieVisible owner c).map Category.id)
  | categorieCreditParDefaut owner =>
      lire s ((categoriesSalaire x s owner).head?.map Category.id)
  | listerCreditsNonCategorises owner limite =>
      lire s (((transactionsDe x s owner fun t =>
        t.categorizationSource = .none && !t.isInternalTransfer).take limite).map
          fun t => (t.id, t.amountCents))
  | appliquerCategorieDefautParLot category ids owner =>
      let p (t : BankTransactionRow) : Bool :=
        ids.contains t.id && t.categorizationSource = .none
      exigerCategorie s category (s.bankTransaction.any fun t => s.txDe owner t && p t) <|
        majDe s owner p fun t =>
          { t with categoryId := some category, categorizationSource := .rule, ruleId := none }
  | libelleTransaction transaction compte owner =>
      lire s (((s.bankTransaction.find? transaction).filter fun t =>
        s.txDe owner t && t.bankAccountId = compte).map BankTransactionRow.label)
  | listerMouvements owner => lire s (transactionsDe x s owner fun _ => true)
  | idsTransfertsInternes owner =>
      lire s ((transactionsDe x s owner fun t => t.isInternalTransfer).map BankTransactionRow.id)
  | reinitialiserTransfertsInternes owner =>
      majDe s owner
        (fun t => t.isInternalTransfer && t.categoryId ≠ some categorieVirementsInternes)
        fun t => { t with isInternalTransfer := false }
  | marquerTransfertsInternes owner ids =>
      majDe s owner (fun t => ids.contains t.id && !t.isInternalTransfer) fun t =>
        { t with
          isInternalTransfer := true
          categoryId := if t.categorizationSource = .manual then t.categoryId else none
          ruleId := if t.categorizationSource = .manual then t.ruleId else none
          categorizationSource :=
            if t.categorizationSource = .manual then t.categorizationSource else .none }
  | listerOccurrences owner => lire s (transactionsDe x s owner fun t => !t.isInternalTransfer)
  | reinitialiserRecurrences owner =>
      majDe s owner (fun t => t.isRecurrent) fun t =>
        { t with isRecurrent := false, recurrenceInterval := none }
  | marquerRecurrentes owner interval ids =>
      majDe s owner (fun t => ids.contains t.id) fun t =>
        { t with isRecurrent := true, recurrenceInterval := some interval }

end RequeteTransaction

end Budgy
