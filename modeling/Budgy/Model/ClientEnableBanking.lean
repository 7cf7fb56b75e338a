import Budgy.Interface.Program
import Budgy.Interface.Separators
import Budgy.Model.EnableBanking

/-!
# `ClientEnableBanking`

The client of the provider: how a consent is requested, how its session is opened and
how the accounts of a session are listed.  A call over HTTP carries a typed body and is
answered by the decoded reply or by the error that `appeler` and `deserialiser` make of
it.  The texts of dates and the identifiers derived with SHA-1 stay parameters.
-/

set_option autoImplicit false

namespace Budgy

open Effects

/-! ## `dto` -/

/-- A bank as the aggregator lists it. -/
structure AspspWire where
  name : String
  country : Option String
  deriving DecidableEq

/-- The bank that an authorisation is asked for. -/
structure AspspReference where
  name : String
  country : String
  deriving DecidableEq

/-- The body of `POST /auth`. -/
structure DemandeAuth where
  validUntil : String
  aspsp : AspspReference
  state : String
  redirectUrl : String
  psuType : String
  deriving DecidableEq

/-- The answer to `POST /auth`: where the user authorises the consent. -/
structure ReponseAuth where
  url : String
  authorizationId : String
  deriving DecidableEq

/-- The body of `POST /sessions`: the code of the callback. -/
structure DemandeSession where
  code : String
  deriving DecidableEq

/-- The identification of an account, its IBAN if any. -/
structure IdentifiantCompte where
  iban : Option String
  deriving DecidableEq

/-- An account as a session describes it. -/
structure CompteSession where
  uid : String
  accountId : Option IdentifiantCompte
  currency : Option String
  deriving DecidableEq

/-- An account of a session: an object, or its uid alone. -/
inductive CompteRef where
  | objet (compte : CompteSession)
  | uid (uid : String)
  deriving DecidableEq

/-- Until when a session gives access. -/
structure AccessSession where
  validUntil : Option String
  deriving DecidableEq

/-- A session: its accounts come as references or as descriptions, under either of two keys. -/
structure ReponseSession where
  sessionId : Option String
  status : Option String
  accounts : List CompteRef
  accountsData : List CompteSession
  access : Option AccessSession
  deriving DecidableEq

/-- The accounts of a session, whatever the form of the reply. -/
def ReponseSession.comptes (session : ReponseSession) : List CompteSession :=
  if session.accountsData ≠ [] then session.accountsData
  else session.accounts.map fun
    | .objet compte => compte
    | .uid uid => ⟨uid, none, none⟩

/-! ## The transport -/

/-- The calls of the client, with their bodies. -/
inductive AppelHttp where
  | getAspsps
  | postAuth (corps : DemandeAuth)
  | postSessions (corps : DemandeSession)
  | getSession (reference : String)

/-- What each call answers when its body can be read. -/
abbrev AppelHttp.Reponse : AppelHttp → Type
  | getAspsps => List AspspWire
  | postAuth _ => ReponseAuth
  | postSessions _ => ReponseSession
  | getSession _ => ReponseSession

/-- The requests of the client. -/
abbrev signatureHttp : Signature :=
  ⟨AppelHttp, fun a => Except BankDataSourceError a.Reponse⟩

/-- The provider answers as it likes. -/
abbrev fournisseur : Machine signatureHttp Unit :=
  ⟨fun a => Except BankDataSourceError a.Reponse, fun _ c s => (c, s)⟩

/-- A program of the client. -/
abbrev TacheHttp (α : Type) : Type := Task signatureHttp BankDataSourceError α

/-- The call is made; the failures of the transport are those of the source. -/
def appeler (a : AppelHttp) : TacheHttp a.Reponse :=
  Task.ofResult (Prog.perform (S := signatureHttp) a)

/-! ## `mapping` -/

/-- `vers_bank_account`: the identifier is derived from that of the bank. -/
def versBankAccount (uuidDepuis : String → Uuid) (compte : CompteSession) (consent : Consent)
    (horodatage : DateTime) : BankAccount :=
  let iban := (compte.accountId.bind (·.iban)).getD ""
  { id := uuidDepuis ("eb-account-" ++ compte.uid)
    proprietaire := consent.proprietaire
    consent := consent.id
    externalAccountId := compte.uid
    ibanMasked := masquerIban iban
    currency := compte.currency.getD ""
    nextSyncAt := none
    syncCountToday := 0
    createdAt := horodatage
    updatedAt := horodatage }

/-- `consent_id_depuis_reference`: the reference is the state that the program gave. -/
def consentIdDepuisReference (referenceAutorisation : String) : Option ConsentId :=
  Uuid.parseStr? referenceAutorisation

/-- `vers_etablissement`: the identifier joins the name and the country. -/
def versEtablissement (aspsp : AspspWire) : Etablissement :=
  let pays := aspsp.country.getD ""
  { id := aspsp.name ++ "|" ++ pays, nom := aspsp.name, pays := pays }

/-! ## The client -/

/-- `PSU_TYPE_PERSONNEL`. -/
def psuTypePersonnel : String := "personal"

/-- `VALIDITE_CONSENTEMENT_JOURS`. -/
def validiteConsentementJours : ℤ := 90

/-- `PAYS_DEFAUT`. -/
def paysDefaut : String := "FR"

/-- The statuses of a session that are refused. -/
def statutsSessionRejetes : List String := ["REJECTED", "REVOKED", "EXPIRED", "CANCELLED"]

/-- `statut_session_exploitable`: an absent status is accepted. -/
def statutSessionExploitable (statut : Option String) : Except BankDataSourceError Unit :=
  match statut with
  | some valeur =>
      if Text.toUppercase valeur ∈ statutsSessionRejetes then .error .consentementInvalide
      else .ok ()
  | none => .ok ()

/-- `ajouter_state`: the state is added unless the URL holds it already. -/
def ajouterState (url state : String) : String :=
  if Text.contains url ("state=" ++ state) then url
  else
    let separateur := if Text.contains url "?" then "&" else "?"
    url ++ separateur ++ "state=" ++ state

/-- `ClientEnableBanking`, with what it takes from other crates: the derived identifiers and the
instants as texts. -/
structure ClientEnableBanking where
  redirectUrl : String
  uuidDepuis : String → Uuid
  toRfc3339 : DateTime → String
  parseFromRfc3339 : String → Option DateTime

namespace ClientEnableBanking

variable (client : ClientEnableBanking)

/-- `url_retour`: a blank URL is replaced by that of the configuration. -/
def urlRetour (demande : DemandeConsentement) : String :=
  let demandee := Text.trim demande.urlRetour
  if demandee = "" then client.redirectUrl else demandee

/-- `lister_etablissements`: the banks of the two names that are offered. -/
def listerEtablissements : TacheHttp (List Etablissement) := do
  let aspsps ← appeler .getAspsps
  return (aspsps.filter fun a =>
    let nom := Text.toLowercase a.name
    Text.contains nom "agricole" || Text.contains nom "bourso").map versEtablissement

/-- The name and the country to request: what surrounds the last bar of the id. -/
def aspspDemande (etablissement : String) : AspspReference :=
  match Text.rsplitOnce '|' etablissement with
  | some (nom, pays) => if pays ≠ "" then ⟨nom, pays⟩ else ⟨etablissement, paysDefaut⟩
  | none => ⟨etablissement, paysDefaut⟩

/-- `initier_consentement`: the consent of the answer bears the reference of the authorisation. -/
def initierConsentement (demande : DemandeConsentement) (horodatage : DateTime) :
    TacheHttp ConsentementInitie := do
  let validUntil := client.toRfc3339 (horodatage + Duration.days validiteConsentementJours)
  let state := demande.consentId.toText
  let auth ← appeler (.postAuth
    { validUntil := validUntil
      aspsp := aspspDemande demande.etablissement
      state := state
      redirectUrl := client.urlRetour demande
      psuType := psuTypePersonnel })
  return {
    consent := {
      id := demande.consentId
      proprietaire := demande.proprietaire
      externalRef := auth.authorizationId
      etablissement := some demande.etablissement
      status := .pending
      expiresAt := some (horodatage + Duration.days validiteConsentementJours)
      createdAt := horodatage
      updatedAt := horodatage }
    urlAutorisation := ajouterState auth.url state }

/-- The reference kept of a session: its id, or the uids of its accounts. -/
def referenceSession (session : ReponseSession) : String :=
  match session.sessionId.filter fun s => Text.trim s ≠ "" with
  | some sid => sid
  | none => "uids:" ++ Text.join "," (session.comptes.map (·.uid))

/-- `completer_consentement`: the code is exchanged for a session, whose reference the consent
keeps. -/
def completerConsentement (proprietaire : ProprietaireId) (reponse : ReponseAutorisation)
    (horodatage : DateTime) : TacheHttp Consent := do
  let consentId ← Task.ofExcept (match consentIdDepuisReference reponse.referenceAutorisation with
    | some id => .ok id
    | none => .error BankDataSourceError.consentementInvalide)
  let session ← appeler (.postSessions ⟨reponse.codeAutorisation⟩)
  Task.ofExcept (statutSessionExploitable session.status)
  let expiresAt := ((session.access.bind (·.validUntil)).bind client.parseFromRfc3339).getD
    (horodatage + Duration.days validiteConsentementJours)
  return {
    id := consentId
    proprietaire := proprietaire
    externalRef := referenceSession session
    etablissement := none
    status := .active
    expiresAt := some expiresAt
    createdAt := horodatage
    updatedAt := horodatage }

/-- `lister_comptes`: the uids of the reference, or the session read again. -/
def listerComptes (consent : Consent) (horodatage : DateTime) : TacheHttp (List BankAccount) :=
  match Text.stripPrefix? "uids:" consent.externalRef with
  | some uids =>
      return ((Text.split ',' uids).filter fun u => Text.trim u ≠ "").map fun uid =>
        versBankAccount client.uuidDepuis ⟨uid, none, none⟩ consent horodatage
  | none => do
      let session ← appeler (.getSession consent.externalRef)
      return session.comptes.map fun compte =>
        versBankAccount client.uuidDepuis compte consent horodatage

end ClientEnableBanking

end Budgy
