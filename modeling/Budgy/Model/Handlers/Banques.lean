import Budgy.Model.Agregation
import Budgy.Model.Repository.Comptes
import Budgy.Model.Repository.Consents

/-!
# `handlers/banques.rs`

The life of a consent as the API sees it: it is created `Pending`, the callback of
the bank completes it and registers the accounts, it may be renewed.  The user is
the owner `proprietaire`; an answer carries the domain records its JSON is made
of.
-/

set_option autoImplicit false

namespace Budgy

open Effects

/-- A list with the number of rows it is a page of. -/
structure ListResponse (α : Type) where
  data : List α
  total : ℕ
  deriving DecidableEq

/-- `ListResponse::new`: the total is the length. -/
def ListResponse.nouveau {α : Type} (data : List α) : ListResponse α := ⟨data, data.length⟩

/-- `From<LectureError>`, on a task. -/
def lectureApi {α : Type} (x : Tache LectureError α) : Tache ApiError α :=
  x.mapError ApiError.ofLecture

/-- `From<EcritureError>`, on a task. -/
def ecritureApi {α : Type} (x : Tache EcritureError α) : Tache ApiError α :=
  x.mapError ApiError.ofEcriture

/-- `From<BankDataSourceError>`, on a call to the bank. -/
def banqueApi (a : AppelBanque) : Tache ApiError a.Reponse :=
  (appelerBanque a).mapError ApiError.ofBank

/-- `ok_or_else`. -/
def ouErreur {α : Type} (e : ApiError) (valeur : Option α) : Tache ApiError α :=
  match valeur with
  | some a => return a
  | none => throw e

/-- What the interface answers to a new consent. -/
structure CreateConsentResponse where
  consentId : ConsentId
  authorizationUrl : String
  deriving DecidableEq

/-- What the bank sends to the callback. -/
structure ConsentCallbackRequest where
  code : String
  state : String
  deriving DecidableEq

/-- What the interface answers to a callback that succeeds. -/
structure ConsentCompletionDto where
  consentId : ConsentId
  status : ConsentStatus
  comptes : List BankAccount
  deriving DecidableEq

/-- A consent as the interface shows it. -/
structure ConsentDto where
  consentId : ConsentId
  bank : Option String
  status : ConsentStatus
  renewal : ConsentRenouvellement
  renewable : Bool
  expiresAt : Option DateTime
  createdAt : DateTime
  updatedAt : DateTime
  deriving DecidableEq

/-- `ConsentDto::depuis`: the name of the bank stops at the first bar. -/
def ConsentDto.depuis (consent : Consent) (maintenant : DateTime) (marge : Duration) :
    ConsentDto :=
  let renouvellement := consent.renouvellement maintenant marge
  { consentId := consent.id
    bank := consent.etablissement.map fun etablissement =>
      Text.trim (match Text.splitOnce '|' etablissement with
        | some (nom, _) => nom
        | none => etablissement)
    status := consent.status
    renewal := renouvellement
    renewable := renouvellement ≠ .aJour
    expiresAt := consent.expiresAt
    createdAt := consent.createdAt
    updatedAt := consent.updatedAt }

namespace Handlers

variable (crypto : CryptoService)

/-- `list_banks`. -/
def listBanks : Tache ApiError (ListResponse Etablissement) := do
  let etablissements ← banqueApi .listerEtablissements
  return .nouveau etablissements

/-- `create_consent`: the bank is asked, then the pending consent is stored. -/
def createConsent (proprietaire : ProprietaireId) (bankCallbackUrl bankId : String) :
    Tache ApiError CreateConsentResponse := do
  let bankId := Text.trim bankId
  if bankId = "" then throw (ApiError.validation "bank_id requis")
  let consentId ← Task.ofProg newV4
  let initie ← banqueApi (.initierConsentement
    { consentId := consentId
      proprietaire := proprietaire
      etablissement := bankId
      urlRetour := bankCallbackUrl })
  let _ ← ecritureApi (ConsentsAdapter.enregistrerInitie crypto
    { id := initie.consent.id
      proprietaire := proprietaire
      externalRef := initie.consent.externalRef
      etablissement := bankId
      status := .pending
      expiresAt := initie.consent.expiresAt })
  return ⟨initie.consent.id, initie.urlAutorisation⟩

/-- `parse_consent_id`. -/
def parseConsentId (state : String) : Except ApiError ConsentId :=
  match Uuid.parseStr? (Text.trim state) with
  | some id => .ok id
  | none => .error (ApiError.validation "state invalide")

/-- `completion_existante`: the answer to a callback that is played again. -/
def completionExistante (proprietaire : ProprietaireId) (consentId : ConsentId)
    (status : ConsentStatus) : Tache ApiError ConsentCompletionDto := do
  let persistes ← lectureApi (BankAccountsAdapter.listerParConsent crypto proprietaire consentId)
  return ⟨consentId, status, persistes⟩

/-- `echec_consentement`: the error to answer once the consent is marked. -/
def echecConsentement (proprietaire : ProprietaireId) (consentId : ConsentId)
    (erreur : BankDataSourceError) : Tache ApiError ApiError := do
  match ← Task.attempt (ConsentsAdapter.marquerStatut proprietaire consentId .failed) with
  | .error ecriture => return .ofEcriture ecriture
  | .ok _ => return .ofBank erreur

/-- The refusal of an account that another user registered: the first loop of
`complete_consent`. -/
def refuserCompteConcurrent (proprietaire : ProprietaireId) (consentId : ConsentId)
    (compte : BankAccount) : Tache ApiError PUnit := do
  match ← ecritureApi
      (BankAccountsAdapter.proprietaireConcurrent crypto compte.externalAccountId proprietaire) with
  | none => return ()
  | some _ =>
      let _ ← ecritureApi (ConsentsAdapter.marquerStatut proprietaire consentId .failed)
      throw (ApiError.conflict ("ce compte bancaire est déjà rattaché à un autre utilisateur : " ++
        "rattachement annulé"))

/-- The second loop of `complete_consent`. -/
def enregistrerCompte (proprietaire : ProprietaireId) (consentId : ConsentId)
    (compte : BankAccount) : Tache ApiError PUnit := do
  let _ ← ecritureApi (BankAccountsAdapter.enregistrer crypto
    { proprietaire := proprietaire
      consent := consentId
      externalAccountId := compte.externalAccountId
      iban := compte.ibanMasked
      currency := compte.currency
      nextSyncAt := compte.nextSyncAt })
  return ()

/-- What `complete_consent` does once the code is exchanged. -/
def rattacherComptes (proprietaire : ProprietaireId) (consentId : ConsentId) (actif : Consent) :
    Tache ApiError ConsentCompletionDto := do
  let comptesBancaires ← banqueApi (.listerComptes actif)
  comptesBancaires.forM (refuserCompteConcurrent crypto proprietaire consentId)
  comptesBancaires.forM (enregistrerCompte crypto proprietaire consentId)
  let persistes ← lectureApi (BankAccountsAdapter.listerParConsent crypto proprietaire consentId)
  return ⟨consentId, .active, persistes⟩

/-- `complete_consent` on a consent that is pending. -/
def completerConsentEnAttente (proprietaire : ProprietaireId) (consentId : ConsentId)
    (payload : ConsentCallbackRequest) : Tache ApiError ConsentCompletionDto := do
  match ← Task.attempt (appelerBanque (.completerConsentement proprietaire
      { referenceAutorisation := payload.state, codeAutorisation := payload.code })) with
  | .error erreur =>
      let reponse ← echecConsentement proprietaire consentId erreur
      throw reponse
  | .ok actif =>
      let _ ← ecritureApi (ConsentsAdapter.mettreAJour crypto proprietaire consentId
        { status := .active, externalRef := actif.externalRef, expiresAt := actif.expiresAt })
      rattacherComptes crypto proprietaire consentId actif

/-- `complete_consent`: the checks and their order, the exchange of the code, the update, then
the accounts. -/
def completeConsent (proprietaire : ProprietaireId) (payload : ConsentCallbackRequest) :
    Tache ApiError ConsentCompletionDto := do
  let consentId ← Task.ofExcept (parseConsentId payload.state)
  let existant ← lectureApi (ConsentsAdapter.fetchPourProprietaire crypto proprietaire consentId)
  let consent ← ouErreur (ApiError.notFound "consentement introuvable") existant
  if consent.status ≠ .pending then
    completionExistante crypto proprietaire consentId consent.status
  else completerConsentEnAttente crypto proprietaire consentId payload

/-- `consent_renouvelable`. -/
def consentRenouvelable (proprietaire : ProprietaireId) (consentId : ConsentId) :
    Tache ApiError Consent := do
  let existant ← lectureApi (ConsentsAdapter.fetchPourProprietaire crypto proprietaire consentId)
  let consent ← ouErreur (ApiError.notFound "consentement introuvable") existant
  let maintenant ← Task.ofProg utcNow
  if !consent.estRenouvelable maintenant margeRenouvellementDefaut then
    throw (ApiError.conflict "consentement non éligible au renouvellement")
  return consent

/-- `renew_consent`: the bank is asked for the same establishment under the same consent. -/
def renewConsent (proprietaire : ProprietaireId) (bankCallbackUrl : String)
    (consentId : ConsentId) : Tache ApiError CreateConsentResponse := do
  let consent ← consentRenouvelable crypto proprietaire consentId
  let etablissement ← ouErreur
    (ApiError.conflict "établissement du consentement indéterminé") consent.etablissement
  let initie ← banqueApi (.initierConsentement
    { consentId := consentId
      proprietaire := proprietaire
      etablissement := etablissement
      urlRetour := bankCallbackUrl })
  let _ ← ecritureApi (ConsentsAdapter.mettreAJour crypto proprietaire consentId
    { status := .pending
      externalRef := initie.consent.externalRef
      expiresAt := initie.consent.expiresAt })
  return ⟨consentId, initie.urlAutorisation⟩

/-- The merge of `list_consents`: one consent for each bank, the latest updated. -/
def parEtablissement (consents : List Consent) : HashMap String Consent :=
  consents.foldl
    (fun m consent =>
      let cle := consent.etablissement.getD consent.id.toText
      match m.lookup cle with
      | some occupe => if occupe.updatedAt < consent.updatedAt then m.insert cle consent else m
      | none => m.insert cle consent)
    ∅

/-- `list_consents`: one line for each bank, that of its consent last updated. -/
def listConsents (proprietaire : ProprietaireId) : Tache ApiError (ListResponse ConsentDto) := do
  let consents ← lectureApi (ConsentsAdapter.listerParProprietaire crypto proprietaire)
  let fusionnes := Relational.sortBy (fun c => -c.updatedAt) (parEtablissement consents).valeurs
  let maintenant ← Task.ofProg utcNow
  return .nouveau (fusionnes.map fun consent =>
    ConsentDto.depuis consent maintenant margeRenouvellementDefaut)

end Handlers

end Budgy
