import Budgy.Model.Machine

/-!
# `repository/bank_accounts.rs` and `repository/balances.rs`

An account carries two keyed fingerprints of its external identifier: `dedup_key`,
which depends on the consent and is unique within it, and `empreinte_compte`,
which depends on the identifier alone and tells who already owns the account.
-/

set_option autoImplicit false

namespace Budgy

open Effects

/-- `CONTEXTE_EMPREINTE_COMPTE`. -/
def contexteEmpreinteCompte : List UInt8 := Text.utf8 "budgy:v1:compte-bancaire"

/-- `dedup_key_compte`: a consent has one row per account of the bank. -/
def dedupKeyCompte (crypto : CryptoService) (consent : ConsentId) (externalAccountId : String) :
    String :=
  crypto.dedupKey consent.asBytes externalAccountId

/-- `empreinte_compte`: the fingerprint does not depend on the consent. -/
def empreinteCompte (crypto : CryptoService) (externalAccountId : String) : String :=
  crypto.dedupKey contexteEmpreinteCompte externalAccountId

namespace Balances

variable (crypto : CryptoService)

/-- `into_balance`. -/
def intoBalance (row : BalanceAvecOwner) : Except ChiffrementError Balance := do
  let b := row.balance
  let amountCents ← dechiffrerMontant crypto row.ownerId "balance" "amount_cents" b.amountCents
  return {
    id := b.id
    bankAccount := b.bankAccountId
    balanceType := b.balanceType
    amountCents := amountCents
    currency := b.currency
    referenceDate := b.referenceDate
    createdAt := b.createdAt }

/-- `insert` of a balance. -/
def insert (nouvelle : NouvelleBalance) : Tache ChiffrementError BalanceId := do
  let owner ← interrogerChiffre (.compte (.ownerDuCompte nouvelle.bankAccount))
  let amount ←
    chiffrerMontantFrais crypto owner "balance" "amount_cents" nouvelle.amountCents
  interrogerChiffre (.compte (.insertBalance nouvelle.bankAccount nouvelle.balanceType amount
    nouvelle.currency nouvelle.referenceDate))

/-- `SqlxBalancesWriteAdapter::enregistrer`. -/
def enregistrer (nouvelle : NouvelleBalance) : Tache EcritureError BalanceId :=
  (insert crypto nouvelle).mapError versEcritureError

end Balances

namespace BankAccounts

variable (crypto : CryptoService)

/-- `into_bank_account`. -/
def intoBankAccount (row : BankAccountRow) : Except ChiffrementError BankAccount := do
  let externalAccountId ←
    dechiffrerTexte crypto row.ownerId "bank_account" "external_account_id" row.externalAccountId
  return {
    id := row.id
    proprietaire := row.ownerId
    consent := row.consentId
    externalAccountId := externalAccountId
    ibanMasked := row.ibanMasked
    currency := row.currency
    nextSyncAt := row.nextSyncAt
    syncCountToday := row.syncCountToday
    createdAt := row.createdAt
    updatedAt := row.updatedAt }

/-- `into_compte_echeant`: the account and its consent, each with its reference. -/
def intoCompteEcheant (row : CompteEcheantRow) : Except ChiffrementError CompteEcheant := do
  let a := row.compte
  let c := row.consent
  let externalAccountId ←
    dechiffrerTexte crypto a.ownerId "bank_account" "external_account_id" a.externalAccountId
  let externalRef ← dechiffrerTexte crypto a.ownerId "consent" "external_ref" c.externalRef
  return {
    compte :=
      { id := a.id
        proprietaire := a.ownerId
        consent := a.consentId
        externalAccountId := externalAccountId
        currency := a.currency
        syncCountToday := a.syncCountToday
        lastSyncDay := a.lastSyncDay }
    consent :=
      { id := a.consentId
        proprietaire := a.ownerId
        externalRef := externalRef
        etablissement := c.etablissement
        status := c.status
        expiresAt := c.expiresAt
        createdAt := c.createdAt
        updatedAt := c.updatedAt } }

/-- `fetch_id_par_dedup`: the row that an insertion without a result collided with. -/
def fetchIdParDedup (consentId : ConsentId) (dedup : String) :
    Tache ChiffrementError BankAccountId :=
  interrogerChiffre (.compte (.fetchIdParDedup consentId dedup))

/-- `insert`: an account already attached under the consent keeps its row. -/
def insert (nouveau : NouveauBankAccount) : Tache ChiffrementError BankAccountId := do
  let owner := nouveau.proprietaire
  let externalAccountId ← chiffrerTexteFrais crypto owner "bank_account" "external_account_id"
    nouveau.externalAccountId
  let ibanEncrypted ← chiffrerTexteFrais crypto owner "bank_account" "iban" nouveau.iban
  let dedup := dedupKeyCompte crypto nouveau.consent nouveau.externalAccountId
  let id ← interrogerChiffre (.compte (.insert
    { owner := owner
      consentId := nouveau.consent
      externalAccountId := externalAccountId
      ibanEncrypted := ibanEncrypted
      ibanMasked := masquerIban nouveau.iban
      currency := nouveau.currency
      nextSyncAt := nouveau.nextSyncAt
      dedupKey := dedup
      empreinte := empreinteCompte crypto nouveau.externalAccountId }))
  match id with
  | some id => return id
  | none => fetchIdParDedup nouveau.consent dedup

/-- `proprietaire_concurrent`: another owner of an account of the same fingerprint. -/
def proprietaireConcurrent (externalAccountId : String) (demandeur : ProprietaireId) :
    Tache ChiffrementError (Option ProprietaireId) :=
  interrogerChiffre
    (.compte (.proprietaireConcurrent (empreinteCompte crypto externalAccountId) demandeur))

/-- `reprendre_empreintes`: the first row that cannot be decrypted stops the loop. -/
def reprendreEmpreintes : Tache ChiffrementError ℕ := do
  let lignes ← interrogerChiffre (.compte .listerSansEmpreinte)
  lignes.foldlM
    (fun reprises ligne => do
      let (id, owner, chiffre) := ligne
      let externe ← Task.ofExcept
        (dechiffrerTexte crypto owner "bank_account" "external_account_id" chiffre)
      let _ ← interrogerChiffre (.compte (.poserEmpreinte id (empreinteCompte crypto externe)))
      return reprises + 1)
    0

/-- `lister_par_consent`. -/
def listerParConsent (proprietaire : ProprietaireId) (consent : ConsentId) :
    Tache ChiffrementError (List BankAccount) := do
  let rows ← interrogerChiffre (.compte (.listerParConsent proprietaire consent))
  Task.ofExcept (rows.mapM (intoBankAccount crypto))

/-- `solde_courant`: the first balance in the order of the statement. -/
def soldeCourant (compte : BankAccountId) : Tache ChiffrementError (Option Balance) := do
  match ← interrogerChiffre (.compte (.soldeCourant compte)) with
  | some row =>
      let balance ← Task.ofExcept (Balances.intoBalance crypto row)
      return some balance
  | none => return none

/-- `solde_a_venir`. -/
def soldeAVenir (compte : BankAccountId) : Tache ChiffrementError (Option Balance) := do
  match ← interrogerChiffre (.compte (.soldeAVenir compte)) with
  | some row =>
      let balance ← Task.ofExcept (Balances.intoBalance crypto row)
      return some balance
  | none => return none

/-- An account with its current balance: the body of two loops of the source. -/
def avecSolde (row : BankAccountRow) : Tache ChiffrementError CompteAvecSolde := do
  let compte ← Task.ofExcept (intoBankAccount crypto row)
  let solde ← soldeCourant crypto compte.id
  return ⟨compte, solde, none⟩

/-- `lister_avec_solde`: the count, the page, then two balances for each account. -/
def listerAvecSolde (proprietaire : ProprietaireId) (tranche : Tranche) :
    Tache ChiffrementError (LectureResultat CompteAvecSolde) := do
  let total ← interrogerChiffre (.compte (.compter proprietaire))
  let rows ← interrogerChiffre
    (.compte (.listerAvecSolde proprietaire tranche.limit tranche.offset))
  let elements ← rows.mapM (avecSolde crypto)
  return ⟨elements, total⟩

/-- `fetch_avec_solde`. -/
def fetchAvecSolde (proprietaire : ProprietaireId) (compte : BankAccountId) :
    Tache ChiffrementError (Option CompteAvecSolde) := do
  match ← interrogerChiffre (.compte (.fetchAvecSolde compte proprietaire)) with
  | none => return none
  | some row =>
      let compte ← avecSolde crypto row
      return some compte

/-- An account with its current and expected balances. -/
def avecSoldes (row : BankAccountRow) : Tache ChiffrementError CompteAvecSolde := do
  let compte ← Task.ofExcept (intoBankAccount crypto row)
  let solde ← soldeCourant crypto compte.id
  let soldeAVenir ← soldeAVenir crypto compte.id
  return ⟨compte, solde, soldeAVenir⟩

/-- `lister_soldes`: every account of the owner. -/
def listerSoldes (proprietaire : ProprietaireId) :
    Tache ChiffrementError (List CompteAvecSolde) := do
  let rows ← interrogerChiffre (.compte (.listerSoldes proprietaire))
  rows.mapM (avecSoldes crypto)

/-- `appartient_au_proprietaire`. -/
def appartientAuProprietaire (proprietaire : ProprietaireId) (compte : BankAccountId) :
    Tache ChiffrementError Bool := do
  let existe ← interrogerChiffre (.compte (.appartientAuProprietaire compte proprietaire))
  return existe.isSome

/-- `supprimer_par_proprietaire`. -/
def supprimerParProprietaire (proprietaire : ProprietaireId) : Tache ChiffrementError ℕ :=
  interrogerChiffre (.compte (.supprimerParProprietaire proprietaire))

/-- `lister_comptes_echeants`: the row that cannot be decrypted fails the list. -/
def listerComptesEcheants (maintenant : DateTime) (quotaJournalier : ℤ) :
    Tache ChiffrementError (List CompteEcheant) := do
  let jourCourant := maintenant.dateNaive
  let rows ←
    interrogerChiffre (.compte (.listerComptesEcheants maintenant jourCourant quotaJournalier))
  Task.ofExcept (rows.mapM (intoCompteEcheant crypto))

/-- `reserver_creneau`: did the conditional update take the slot? -/
def reserverCreneau (compte : BankAccountId) (plan : PlanificationSynchro)
    (quotaJournalier : ℤ) : Tache ChiffrementError Bool := do
  let lignes ← interrogerChiffre (.compte (.reserverCreneau compte plan quotaJournalier))
  return lignes = 1

end BankAccounts

/-! ## `SqlxBankAccountsWriteAdapter` -/

namespace BankAccountsAdapter

variable (crypto : CryptoService)

/-- `proprietaire_concurrent`, behind its port. -/
def proprietaireConcurrent (externalAccountId : String) (demandeur : ProprietaireId) :
    Tache EcritureError (Option ProprietaireId) :=
  (BankAccounts.proprietaireConcurrent crypto externalAccountId demandeur).mapError
    versEcritureError

/-- `reprendre_empreintes`, behind its port. -/
def reprendreEmpreintes : Tache EcritureError ℕ :=
  (BankAccounts.reprendreEmpreintes crypto).mapError versEcritureError

/-- `enregistrer`, behind its port. -/
def enregistrer (nouveau : NouveauBankAccount) : Tache EcritureError BankAccountId :=
  (BankAccounts.insert crypto nouveau).mapError versEcritureError

/-- `supprimer_par_proprietaire`, behind its port. -/
def supprimerParProprietaire (proprietaire : ProprietaireId) : Tache EcritureError ℕ :=
  (BankAccounts.supprimerParProprietaire proprietaire).mapError versEcritureError

/-- `lister_par_consent`, behind its port. -/
def listerParConsent (proprietaire : ProprietaireId) (consent : ConsentId) :
    Tache LectureError (List BankAccount) :=
  (BankAccounts.listerParConsent crypto proprietaire consent).mapError versLectureError

/-- `lister_avec_solde`, behind its port. -/
def listerAvecSolde (proprietaire : ProprietaireId) (tranche : Tranche) :
    Tache LectureError (LectureResultat CompteAvecSolde) :=
  (BankAccounts.listerAvecSolde crypto proprietaire tranche).mapError versLectureError

/-- `fetch_avec_solde`, behind its port. -/
def fetchAvecSolde (proprietaire : ProprietaireId) (compte : BankAccountId) :
    Tache LectureError (Option CompteAvecSolde) :=
  (BankAccounts.fetchAvecSolde crypto proprietaire compte).mapError versLectureError

/-- `lister_soldes`, behind its port. -/
def listerSoldes (proprietaire : ProprietaireId) : Tache LectureError (List CompteAvecSolde) :=
  (BankAccounts.listerSoldes crypto proprietaire).mapError versLectureError

/-- `appartient_au_proprietaire`, behind its port. -/
def appartientAuProprietaire (proprietaire : ProprietaireId) (compte : BankAccountId) :
    Tache LectureError Bool :=
  (BankAccounts.appartientAuProprietaire proprietaire compte).mapError versLectureError

/-- `lister_comptes_echeants`, behind its port. -/
def listerComptesEcheants (maintenant : DateTime) (quotaJournalier : ℤ) :
    Tache LectureError (List CompteEcheant) :=
  (BankAccounts.listerComptesEcheants crypto maintenant quotaJournalier).mapError
    versLectureError

/-- `reserver_creneau`, behind its port. -/
def reserverCreneau (compte : BankAccountId) (plan : PlanificationSynchro)
    (quotaJournalier : ℤ) : Tache EcritureError Bool :=
  (BankAccounts.reserverCreneau compte plan quotaJournalier).mapError versEcritureError

end BankAccountsAdapter

end Budgy
