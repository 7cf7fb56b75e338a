import Budgy.Model.Store

/-!
# The statements of `repository/bank_accounts.rs` and `repository/balances.rs`
-/

set_option autoImplicit false

namespace Budgy

open Relational (arrange sortBy)

/-- The columns an insertion of an account binds. -/
structure InsertionCompte where
  owner : ProprietaireId
  consentId : Uuid
  externalAccountId : List UInt8
  ibanEncrypted : List UInt8
  ibanMasked : String
  currency : String
  nextSyncAt : Option DateTime
  dedupKey : String
  empreinte : String

/-- An account that is due, with its consent. -/
structure CompteEcheantRow where
  compte : BankAccountRow
  consent : ConsentRow

/-- A balance with the owner of its account. -/
structure BalanceAvecOwner where
  balance : BalanceRow
  ownerId : ProprietaireId

/-- The statements on accounts and balances, with their parameters. -/
inductive RequeteCompte where
  | insert (ligne : InsertionCompte)
  | proprietaireConcurrent (empreinte : String) (demandeur : ProprietaireId)
  | listerSansEmpreinte
  | poserEmpreinte (id : Uuid) (empreinte : String)
  | fetchIdParDedup (consentId : Uuid) (dedup : String)
  | listerParConsent (owner : ProprietaireId) (consentId : Uuid)
  | compter (owner : ProprietaireId)
  | listerAvecSolde (owner : ProprietaireId) (limit offset : ℕ)
  | fetchAvecSolde (id : Uuid) (owner : ProprietaireId)
  | listerSoldes (owner : ProprietaireId)
  | appartientAuProprietaire (id : Uuid) (owner : ProprietaireId)
  | soldeCourant (compte : Uuid)
  | soldeAVenir (compte : Uuid)
  | supprimerParProprietaire (owner : ProprietaireId)
  | listerComptesEcheants (maintenant : DateTime) (jourCourant : NaiveDate) (quota : ℤ)
  | reserverCreneau (compte : Uuid) (plan : PlanificationSynchro) (quota : ℤ)
  | ownerDuCompte (compte : Uuid)
  | insertBalance (compte : Uuid) (balanceType : BalanceType) (amount : List UInt8)
      (currency : String) (referenceDate : DateTime)

namespace RequeteCompte

/-- What each statement returns. -/
abbrev Reponse : RequeteCompte → Type
  | insert .. => Option Uuid
  | proprietaireConcurrent .. => Option ProprietaireId
  | listerSansEmpreinte => List (Uuid × ProprietaireId × List UInt8)
  | poserEmpreinte .. => ℕ
  | fetchIdParDedup .. => Uuid
  | listerParConsent .. => List BankAccountRow
  | compter .. => ℕ
  | listerAvecSolde .. => List BankAccountRow
  | fetchAvecSolde .. => Option BankAccountRow
  | listerSoldes .. => List BankAccountRow
  | appartientAuProprietaire .. => Option Uuid
  | soldeCourant .. => Option BalanceAvecOwner
  | soldeAVenir .. => Option BalanceAvecOwner
  | supprimerParProprietaire .. => ℕ
  | listerComptesEcheants .. => List CompteEcheantRow
  | reserverCreneau .. => ℕ
  | ownerDuCompte .. => ProprietaireId
  | insertBalance .. => Uuid

/-- The row an insertion adds. -/
def ligneCompte (x : ChoixSql) (l : InsertionCompte) : BankAccountRow :=
  { id := x.uuid
    ownerId := l.owner
    consentId := l.consentId
    externalAccountId := l.externalAccountId
    ibanEncrypted := l.ibanEncrypted
    ibanMasked := l.ibanMasked
    currency := l.currency
    nextSyncAt := l.nextSyncAt
    syncCountToday := 0
    lastSyncDay := none
    lastSyncAt := none
    dedupKey := l.dedupKey
    empreinteCompte := some l.empreinte
    createdAt := x.maintenant
    updatedAt := x.maintenant }

/-- The number of synchronisations of a day: the counter of another day is void. -/
def compteurDuJour (a : BankAccountRow) (jour : NaiveDate) : ℤ :=
  if a.lastSyncDay = some jour then a.syncCountToday else 0

/-- The balances of an account, in the order of `solde_courant`. -/
def soldesClasses (x : ChoixSql) (s : Store) (compte : Uuid) : List BalanceRow :=
  sortBy (fun b => toLex ((if b.balanceType = .booked then 0 else 1 : ℕ),
      toLex ((if b.balanceType = .available then 0 else 1 : ℕ),
        toLex (-b.referenceDate, -b.createdAt))))
    (arrange BalanceRow.id x.rang (s.balance.select fun b => b.bankAccountId = compte))

/-- The expected balances of an account, the most recent first. -/
def soldesAVenirClasses (x : ChoixSql) (s : Store) (compte : Uuid) : List BalanceRow :=
  sortBy (fun b => toLex (-b.referenceDate, -b.createdAt))
    (arrange BalanceRow.id x.rang
      (s.balance.select fun b => b.bankAccountId = compte && b.balanceType = .expected))

/-- `JOIN budgy.bank_account a ON a.id = b.bank_account_id`. -/
def avecOwner (s : Store) (b : BalanceRow) : Option BalanceAvecOwner :=
  (s.proprietaireDuCompte b.bankAccountId).map fun owner => ⟨b, owner⟩

/-- Is the account due, and its consent still usable? -/
def estEcheant (maintenant : DateTime) (jour : NaiveDate) (quota : ℤ) (a : BankAccountRow)
    (c : ConsentRow) : Bool :=
  (match a.nextSyncAt with
    | none => true
    | some t => t ≤ maintenant) &&
  c.status = .active &&
  (match c.expiresAt with
    | none => true
    | some t => maintenant < t) &&
  compteurDuJour a jour < quota

/-- `ORDER BY next_sync_at ASC NULLS FIRST`. -/
def ordreEcheance (a : BankAccountRow) : ℕ ×ₗ ℤ :=
  match a.nextSyncAt with
  | none => toLex (0, 0)
  | some t => toLex (1, t)

/-- What each statement does to the database. -/
def effet (x : ChoixSql) (s : Store) : (r : RequeteCompte) → Except SqlxError (r.Reponse × Store)
  | insert l =>
      if s.bankAccount.any fun a => a.consentId = l.consentId && a.dedupKey = l.dedupKey then
        lire s none
      else
        exiger "bank_account_consent_id_fkey" (s.consent.any fun c => c.id = l.consentId) <|
          cleLibre s.bankAccount (ligneCompte x l) fun t =>
            .ok (some x.uuid, { s with bankAccount := t })
  | proprietaireConcurrent empreinte demandeur =>
      lire s ((arrange BankAccountRow.id x.rang (s.bankAccount.select fun a =>
        a.empreinteCompte = some empreinte && a.ownerId ≠ demandeur)).head?.map
          BankAccountRow.ownerId)
  | listerSansEmpreinte =>
      lire s ((arrange BankAccountRow.id x.rang (s.bankAccount.select fun a =>
        a.empreinteCompte = none)).map fun a => (a.id, a.ownerId, a.externalAccountId))
  | poserEmpreinte id empreinte =>
      let vise (a : BankAccountRow) : Bool := a.id = id
      .ok (s.bankAccount.count vise,
        s.majCompte vise fun a => { a with empreinteCompte := some empreinte })
  | fetchIdParDedup consentId dedup =>
      match (s.bankAccount.select fun a =>
          a.consentId = consentId && a.dedupKey = dedup).head? with
      | some a => lire s a.id
      | none => .error .rowNotFound
  | listerParConsent owner consentId =>
      lire s (sortBy BankAccountRow.createdAt (arrange BankAccountRow.id x.rang
        (s.bankAccount.select fun a => a.ownerId = owner && a.consentId = consentId)))
  | compter owner => lire s (s.bankAccount.count fun a => a.ownerId = owner)
  | listerAvecSolde owner limit offset =>
      lire s (((sortBy BankAccountRow.createdAt (arrange BankAccountRow.id x.rang
        (s.bankAccount.select fun a => a.ownerId = owner))).drop offset).take limit)
  | fetchAvecSolde id owner =>
      lire s ((s.bankAccount.find? id).filter fun a => a.ownerId = owner)
  | listerSoldes owner =>
      lire s (sortBy BankAccountRow.createdAt (arrange BankAccountRow.id x.rang
        (s.bankAccount.select fun a => a.ownerId = owner)))
  | appartientAuProprietaire id owner =>
      lire s (((s.bankAccount.find? id).filter fun a => a.ownerId = owner).map
        BankAccountRow.id)
  | soldeCourant compte => lire s ((soldesClasses x s compte).head?.bind (avecOwner s))
  | soldeAVenir compte => lire s ((soldesAVenirClasses x s compte).head?.bind (avecOwner s))
  | supprimerParProprietaire owner =>
      let vise (a : BankAccountRow) : Bool := a.ownerId = owner
      .ok (s.bankAccount.count vise, s.supprimerComptes vise)
  | listerComptesEcheants maintenant jour quota =>
      lire s ((sortBy ordreEcheance (arrange BankAccountRow.id x.rang s.bankAccount.rows)).filterMap
        fun a => ((s.consent.find? a.consentId).filter fun c =>
          estEcheant maintenant jour quota a c).map fun c => ⟨a, c⟩)
  | reserverCreneau compte plan quota =>
      let vise (a : BankAccountRow) : Bool :=
        a.id = compte && compteurDuJour a plan.lastSyncDay < quota
      .ok (s.bankAccount.count vise,
        s.majCompte vise fun a =>
          { a with
            nextSyncAt := some plan.nextSyncAt
            syncCountToday := compteurDuJour a plan.lastSyncDay + 1
            lastSyncDay := some plan.lastSyncDay
            lastSyncAt := some plan.lastSyncAt
            updatedAt := x.maintenant })
  | ownerDuCompte compte =>
      match s.proprietaireDuCompte compte with
      | some owner => lire s owner
      | none => .error .rowNotFound
  | insertBalance compte balanceType amount currency referenceDate =>
      let ligne : BalanceRow :=
        { id := x.uuid, bankAccountId := compte, balanceType, amountCents := amount, currency,
          referenceDate, createdAt := x.maintenant }
      exiger "balance_bank_account_id_fkey" (s.bankAccount.any fun a => a.id = compte) <|
        cleLibre s.balance ligne fun t => .ok (x.uuid, { s with balance := t })

end RequeteCompte

end Budgy
