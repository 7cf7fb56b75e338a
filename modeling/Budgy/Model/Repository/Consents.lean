import Budgy.Model.Machine

/-!
# `repository/consents.rs`

Each function encrypts what it writes and decrypts what it reads; the adapter
below it translates the errors.
-/

set_option autoImplicit false

namespace Budgy

open Effects

namespace Consents

variable (crypto : CryptoService)

/-- `into_consent`. -/
def intoConsent (row : ConsentRow) : Except ChiffrementError Consent := do
  let externalRef ← dechiffrerTexte crypto row.ownerId "consent" "external_ref" row.externalRef
  return {
    id := row.id
    proprietaire := row.ownerId
    externalRef := externalRef
    etablissement := row.etablissement
    status := row.status
    expiresAt := row.expiresAt
    createdAt := row.createdAt
    updatedAt := row.updatedAt }

/-- `insert_initie`. -/
def insertInitie (nouveau : NouveauConsentInitie) : Tache ChiffrementError ConsentId := do
  let externalRef ←
    chiffrerTexteFrais crypto nouveau.proprietaire "consent" "external_ref" nouveau.externalRef
  interrogerChiffre (.consent (.insertInitie nouveau.id nouveau.proprietaire externalRef
    nouveau.etablissement nouveau.status nouveau.expiresAt))

/-- `mettre_a_jour`: does the owner have such a consent? -/
def mettreAJour (proprietaire : ProprietaireId) (id : ConsentId) (maj : MiseAJourConsent) :
    Tache ChiffrementError Bool := do
  let externalRef ←
    chiffrerTexteFrais crypto proprietaire "consent" "external_ref" maj.externalRef
  let lignes ← interrogerChiffre (.consent (.mettreAJour maj.status externalRef maj.expiresAt id
    proprietaire))
  return 0 < lignes

/-- `marquer_statut_proprietaire`: does the owner have such a consent? -/
def marquerStatutProprietaire (proprietaire : ProprietaireId) (id : ConsentId)
    (status : ConsentStatus) : Tache ChiffrementError Bool := do
  let lignes ← interrogerChiffre (.consent (.marquerStatutProprietaire status id proprietaire))
  return 0 < lignes

/-- `fetch_pour_proprietaire`. -/
def fetchPourProprietaire (proprietaire : ProprietaireId) (id : ConsentId) :
    Tache ChiffrementError (Option Consent) := do
  match ← interrogerChiffre (.consent (.fetchPourProprietaire id proprietaire)) with
  | none => return none
  | some row =>
      let consent ← Task.ofExcept (intoConsent crypto row)
      return some consent

/-- `lister_par_proprietaire`: the row that cannot be decrypted fails the list. -/
def listerParProprietaire (proprietaire : ProprietaireId) :
    Tache ChiffrementError (List Consent) := do
  let rows ← interrogerChiffre (.consent (.listerParProprietaire proprietaire))
  Task.ofExcept (rows.mapM (intoConsent crypto))

/-- `lister_actifs_par_proprietaire`. -/
def listerActifsParProprietaire (proprietaire : ProprietaireId) :
    Tache ChiffrementError (List Consent) := do
  let rows ← interrogerChiffre (.consent (.listerActifsParProprietaire proprietaire))
  Task.ofExcept (rows.mapM (intoConsent crypto))

/-- `supprimer_par_proprietaire`. -/
def supprimerParProprietaire (proprietaire : ProprietaireId) : Tache ChiffrementError ℕ :=
  interrogerChiffre (.consent (.supprimerParProprietaire proprietaire))

/-- `marquer_statut_consent`: the cycle does not know the owner. -/
def marquerStatutConsent (consent : ConsentId) (statut : ConsentStatus) :
    Tache ChiffrementError Unit := do
  let _ ← interrogerChiffre (.consent (.marquerStatutConsent consent statut))
  return ()

end Consents

/-! ## `SqlxConsentsWriteAdapter` -/

namespace ConsentsAdapter

variable (crypto : CryptoService)

/-- `enregistrer_initie`, behind its port. -/
def enregistrerInitie (nouveau : NouveauConsentInitie) : Tache EcritureError ConsentId :=
  (Consents.insertInitie crypto nouveau).mapError versEcritureError

/-- `mettre_a_jour`, behind its port. -/
def mettreAJour (proprietaire : ProprietaireId) (id : ConsentId) (maj : MiseAJourConsent) :
    Tache EcritureError Bool :=
  (Consents.mettreAJour crypto proprietaire id maj).mapError versEcritureError

/-- `marquer_statut`, behind its port. -/
def marquerStatut (proprietaire : ProprietaireId) (id : ConsentId) (status : ConsentStatus) :
    Tache EcritureError Bool :=
  (Consents.marquerStatutProprietaire proprietaire id status).mapError versEcritureError

/-- `supprimer_par_proprietaire`, behind its port. -/
def supprimerParProprietaire (proprietaire : ProprietaireId) : Tache EcritureError ℕ :=
  (Consents.supprimerParProprietaire proprietaire).mapError versEcritureError

/-- `ConsentsStatutWriteRepository::marquer_statut`. -/
def marquerStatutConsent (consent : ConsentId) (statut : ConsentStatus) :
    Tache EcritureError Unit :=
  (Consents.marquerStatutConsent consent statut).mapError versEcritureError

/-- `lister_actifs_par_proprietaire`, behind its port. -/
def listerActifsParProprietaire (proprietaire : ProprietaireId) :
    Tache LectureError (List Consent) :=
  (Consents.listerActifsParProprietaire crypto proprietaire).mapError versLectureError

/-- `lister_par_proprietaire`, behind its port. -/
def listerParProprietaire (proprietaire : ProprietaireId) : Tache LectureError (List Consent) :=
  (Consents.listerParProprietaire crypto proprietaire).mapError versLectureError

/-- `fetch_pour_proprietaire`, behind its port. -/
def fetchPourProprietaire (proprietaire : ProprietaireId) (id : ConsentId) :
    Tache LectureError (Option Consent) :=
  (Consents.fetchPourProprietaire crypto proprietaire id).mapError versLectureError

end ConsentsAdapter

end Budgy
