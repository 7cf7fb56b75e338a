import Budgy.Model.Repository.Comptes
import Budgy.Model.Repository.Consents
import Budgy.Model.Repository.Transactions

/-!
# `domain/synchro.rs`

One cycle of the worker: the accounts that are due are taken one after the other,
each reserves its slot, then its balances and transactions are fetched and stored.
A failure to store one row is skipped; a failure of the bank ends the account; a
failure of the planning ends the cycle.
-/

set_option autoImplicit false

namespace Budgy

open Effects

/-- `QUOTA_JOURNALIER_DEFAUT`. -/
def quotaJournalierDefaut : ℤ := 4

/-- `RapportSynchro`: what a cycle counts. -/
structure RapportSynchro where
  comptesEvalues : ℕ
  comptesSynchronises : ℕ
  comptesIgnoresQuota : ℕ
  consentementsExpires : ℕ
  transactionsInserees : ℕ
  transactionsDoublons : ℕ
  soldesEnregistres : ℕ
  deriving DecidableEq

/-- `RapportSynchro::default`. -/
def RapportSynchro.vide : RapportSynchro := ⟨0, 0, 0, 0, 0, 0, 0⟩

/-- `ParametresSynchro`: the quota, the interval, the window and the margin. -/
structure ParametresSynchro where
  quotaJournalier : ℤ
  intervalle : Duration
  fenetreTransactions : Duration
  margeRenouvellement : Duration
  deriving DecidableEq

/-- `ParametresSynchro::default`. -/
def ParametresSynchro.defaut : ParametresSynchro :=
  { quotaJournalier := quotaJournalierDefaut
    intervalle := Duration.hours 6
    fenetreTransactions := Duration.days 30
    margeRenouvellement := Duration.days 7 }

/-- What a cycle brought back for an account. -/
structure RemonteeCompte where
  transactionsInserees : ℕ
  soldeMisAJour : Bool
  deriving DecidableEq

/-- `consentement_expire`: not active, or its end has come. -/
def consentementExpire (consent : Consent) (maintenant : DateTime) : Bool :=
  consent.status ≠ .active || consent.expiresAt.any (· ≤ maintenant)

/-- `renouvellement_requis`: the end comes within the margin. -/
def renouvellementRequis (consent : Consent) (maintenant : DateTime) (marge : Duration) : Bool :=
  consent.expiresAt.any fun expiration =>
    maintenant < expiration && expiration ≤ maintenant + marge

/-- `vue_bank_account`: what the data source is told of the account. -/
def vueBankAccount (compte : CompteASynchroniser) (maintenant : DateTime) : BankAccount :=
  { id := compte.id
    proprietaire := compte.proprietaire
    consent := compte.consent
    externalAccountId := compte.externalAccountId
    ibanMasked := ""
    currency := compte.currency
    nextSyncAt := some maintenant
    syncCountToday := compte.syncCountToday
    createdAt := maintenant
    updatedAt := maintenant }

/-- `vers_nouvelle_balance`. -/
def versNouvelleBalance (solde : Balance) : NouvelleBalance :=
  { bankAccount := solde.bankAccount
    balanceType := solde.balanceType
    amountCents := solde.amountCents
    currency := solde.currency
    referenceDate := solde.referenceDate }

/-- `vers_nouvelle_transaction`: the transaction goes to the account of the cycle. -/
def versNouvelleTransaction (compte : BankAccountId) (transaction : TransactionBancaire) :
    NouvelleTransactionBancaire :=
  { bankAccount := compte
    externalTransactionId := transaction.externalTransactionId
    status := transaction.status
    label := transaction.label
    amountCents := transaction.amountCents
    currency := transaction.currency
    bookingDate := transaction.bookingDate
    valueDate := transaction.valueDate }

namespace EvenementSynchro

/-- `EvenementSynchro::consent_expired`. -/
def consentExpired (proprietaire : ProprietaireId) (instant : DateTime) : EvenementSynchro :=
  ⟨proprietaire, .consentExpired, none, none, instant⟩

/-- `EvenementSynchro::consent_renewal_required`. -/
def consentRenewalRequired (proprietaire : ProprietaireId) (instant : DateTime) :
    EvenementSynchro :=
  ⟨proprietaire, .consentRenewalRequired, none, none, instant⟩

/-- `EvenementSynchro::sync_started`. -/
def syncStarted (proprietaire : ProprietaireId) (compte : String) (instant : DateTime) :
    EvenementSynchro :=
  ⟨proprietaire, .syncStarted, some compte, none, instant⟩

/-- `EvenementSynchro::sync_failed`. -/
def syncFailed (proprietaire : ProprietaireId) (compte : String) (instant : DateTime) :
    EvenementSynchro :=
  ⟨proprietaire, .syncFailed, some compte, none, instant⟩

/-- `EvenementSynchro::balance_updated`. -/
def balanceUpdated (proprietaire : ProprietaireId) (compte : String) (instant : DateTime) :
    EvenementSynchro :=
  ⟨proprietaire, .balanceUpdated, some compte, none, instant⟩

/-- `EvenementSynchro::account_transactions`. -/
def accountTransactions (proprietaire : ProprietaireId) (compte : String) (transactions : ℕ)
    (instant : DateTime) : EvenementSynchro :=
  ⟨proprietaire, .accountTransactions, some compte, some transactions, instant⟩

/-- `EvenementSynchro::sync_succeeded`. -/
def syncSucceeded (proprietaire : ProprietaireId) (compte : String) (transactions : ℕ)
    (instant : DateTime) : EvenementSynchro :=
  ⟨proprietaire, .syncSucceeded, some compte, some transactions, instant⟩

end EvenementSynchro

namespace Synchro

variable (crypto : CryptoService) (parametres : ParametresSynchro)

/-- `plan_apres_synchro`: the next slot is one interval later. -/
def planApresSynchro (maintenant : DateTime) : PlanificationSynchro :=
  { nextSyncAt := maintenant + parametres.intervalle
    lastSyncDay := maintenant.dateNaive
    lastSyncAt := maintenant }

/-- The first day asked of the bank. -/
def depuisPour (compte : BankAccount) : NaiveDate :=
  let reference := compte.nextSyncAt.getD compte.createdAt
  DateTime.dateNaive (reference - parametres.fenetreTransactions)

/-- The first loop of `remonter_donnees`. -/
def enregistrerSolde (acc : RapportSynchro × RemonteeCompte) (solde : Balance) :
    Programme (RapportSynchro × RemonteeCompte) := do
  match ← (Balances.enregistrer crypto (versNouvelleBalance solde)).run with
  | .ok _ =>
      return ({ acc.1 with soldesEnregistres := acc.1.soldesEnregistres + 1 },
        { acc.2 with soldeMisAJour := true })
  | .error _ => return acc

/-- The second loop of `remonter_donnees`. -/
def enregistrerTransaction (compte : BankAccountId) (acc : RapportSynchro × RemonteeCompte)
    (transaction : TransactionBancaire) : Programme (RapportSynchro × RemonteeCompte) := do
  match ← (BankTransactionsAdapter.enregistrer crypto
      (versNouvelleTransaction compte transaction)).run with
  | .ok (.inseree _) =>
      return ({ acc.1 with transactionsInserees := acc.1.transactionsInserees + 1 },
        { acc.2 with transactionsInserees := acc.2.transactionsInserees + 1 })
  | .ok .doublon =>
      return ({ acc.1 with transactionsDoublons := acc.1.transactionsDoublons + 1 }, acc.2)
  | .error _ => return acc

/-- `remonter_donnees`: what was counted before a failure stays in the report. -/
def remonterDonnees (consent : Consent) (compte : BankAccount) (rapport : RapportSynchro) :
    Programme (RapportSynchro × Except BankDataSourceError RemonteeCompte) := do
  let depuis := depuisPour parametres compte
  match ← (appelerBanque (.solde consent compte)).run with
  | .error erreur => return (rapport, .error erreur)
  | .ok soldes =>
      let acc ← soldes.foldlM (enregistrerSolde crypto) (rapport, ⟨0, false⟩)
      match ← (appelerBanque (.listerTransactions consent compte depuis)).run with
      | .error erreur => return (acc.1, .error erreur)
      | .ok transactions =>
          let acc ← transactions.foldlM (enregistrerTransaction crypto compte.id) acc
          return (acc.1, .ok acc.2)

/-- `recalculer_recurrences_apres_insertion`: nothing without an insertion; a failure is
ignored. -/
def recalculerRecurrencesApresInsertion (proprietaire : ProprietaireId)
    (remontee : RemonteeCompte) : Programme PUnit := do
  if remontee.transactionsInserees ≠ 0 then
    let _ ← (BankTransactionsAdapter.recalculerRecurrences crypto proprietaire).run
  return ()

/-- `publier_succes`: the balance and the transactions are announced when there are any. -/
def publierSucces (proprietaire : ProprietaireId) (referenceCompte : String)
    (remontee : RemonteeCompte) (maintenant : DateTime) : Programme PUnit := do
  if remontee.soldeMisAJour then
    publierEvenement (.balanceUpdated proprietaire referenceCompte maintenant)
  publierEvenement (.accountTransactions proprietaire referenceCompte
    remontee.transactionsInserees maintenant)
  publierEvenement (.syncSucceeded proprietaire referenceCompte remontee.transactionsInserees
    maintenant)

/-- `traiter_echec_source`: a session that the bank does not know any more expires the consent. -/
def traiterEchecSource (proprietaire : ProprietaireId) (consent : ConsentId)
    (erreur : BankDataSourceError) (maintenant : DateTime) (rapport : RapportSynchro) :
    Tache SynchroError RapportSynchro := do
  if erreur = .consentementInvalide then
    (ConsentsAdapter.marquerStatutConsent consent .expired).mapError .ecriture
    Task.ofProg (publierEvenement (.consentExpired proprietaire maintenant))
    return { rapport with consentementsExpires := rapport.consentementsExpires + 1 }
  else return rapport

/-- The event that announces a consent close to its end. -/
def publierRenouvellement (proprietaire : ProprietaireId) (consent : Consent)
    (maintenant : DateTime) : Programme PUnit := do
  if renouvellementRequis consent maintenant parametres.margeRenouvellement then
    publierEvenement (.consentRenewalRequired proprietaire maintenant)

/-- The two ends of `synchroniser_compte`, after `remonter_donnees`. -/
def conclure (compte : CompteASynchroniser) (consent : Consent) (maintenant : DateTime)
    (rapport : RapportSynchro) :
    Except BankDataSourceError RemonteeCompte → Tache SynchroError RapportSynchro
  | .ok remontee => do
      Task.ofProg (recalculerRecurrencesApresInsertion crypto compte.proprietaire remontee)
      Task.ofProg (publierSucces compte.proprietaire compte.id.toText remontee maintenant)
      return { rapport with comptesSynchronises := rapport.comptesSynchronises + 1 }
  | .error erreur => do
      Task.ofProg (publierEvenement
        (.syncFailed compte.proprietaire compte.id.toText maintenant))
      traiterEchecSource compte.proprietaire consent.id erreur maintenant rapport

/-- `synchroniser_compte`, once the slot is reserved. -/
def synchroniserCompteReserve (compte : CompteASynchroniser) (consent : Consent)
    (maintenant : DateTime) (rapport : RapportSynchro) : Tache SynchroError RapportSynchro := do
  Task.ofProg (publierEvenement (.syncStarted compte.proprietaire compte.id.toText maintenant))
  Task.ofProg (publierRenouvellement parametres compte.proprietaire consent maintenant)
  let remontee ← Task.ofProg
    (remonterDonnees crypto parametres consent (vueBankAccount compte maintenant) rapport)
  conclure crypto compte consent maintenant remontee.1 remontee.2

/-- `synchroniser_compte`: the consent, then the slot, then the data of the account. -/
def synchroniserCompte (maintenant : DateTime) (rapport : RapportSynchro)
    (echeant : CompteEcheant) : Tache SynchroError RapportSynchro := do
  let rapport := { rapport with comptesEvalues := rapport.comptesEvalues + 1 }
  let compte := echeant.compte
  let consent := echeant.consent
  if consentementExpire consent maintenant then
    (ConsentsAdapter.marquerStatutConsent consent.id .expired).mapError .ecriture
    Task.ofProg (publierEvenement (.consentExpired compte.proprietaire maintenant))
    return { rapport with consentementsExpires := rapport.consentementsExpires + 1 }
  else
    let creneauReserve ← (BankAccountsAdapter.reserverCreneau compte.id
      (planApresSynchro parametres maintenant) parametres.quotaJournalier).mapError .ecriture
    if !creneauReserve then
      return { rapport with comptesIgnoresQuota := rapport.comptesIgnoresQuota + 1 }
    else synchroniserCompteReserve crypto parametres compte consent maintenant rapport

/-- `executer`: the due accounts, one after the other. -/
def executer : Tache SynchroError RapportSynchro := do
  let maintenant ← Task.ofProg utcNow
  let echeants ← (BankAccountsAdapter.listerComptesEcheants crypto maintenant
    parametres.quotaJournalier).mapError .lecture
  echeants.foldlM (synchroniserCompte crypto parametres maintenant) .vide

end Synchro

end Budgy
