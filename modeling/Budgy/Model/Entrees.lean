import Budgy.Interface.Separators
import Budgy.Model.Systeme

/-!
# The doors of the service

An operation is asked for by a request of the API, which carries the token of its user
(`extract.rs`, `services/jwt.rs`, `routes.rs`), or by a message of the broker (`relay/`).
The library that verifies tokens and the one that reads JSON are parameters.
-/

set_option autoImplicit false

namespace Budgy

open Effects

/-! ## Tokens -/

/-- `RolesFormat`: a map is listed in the order of its iteration. -/
inductive RolesFormat where
  | flat (roles : List String)
  | perPortalMany (portails : List (String × List String))
  | perPortalOne (portails : List (String × String))

/-- `deserialize_roles`: each role is kept where it is first met. -/
def deserializeRoles (format : RolesFormat) : List String :=
  let collected := match format with
    | .flat roles => roles
    | .perPortalMany portails => portails.flatMap Prod.snd
    | .perPortalOne portails => portails.map Prod.snd
  collected.eraseDups

/-- The claim `aud`: one value or several. -/
inductive AudienceFormat where
  | one (value : String)
  | many (values : List String)

/-- `deserialize_audience`: an absent audience is an empty list. -/
def deserializeAudience : Option AudienceFormat → List String
  | none => []
  | some (.one value) => [value]
  | some (.many values) => values

/-- `Claims`: what the token says of its bearer. -/
structure Claims where
  sub : String
  roles : List String
  iss : Option String
  aud : List String
  iat : ℕ
  exp : ℕ
  deriving DecidableEq

/-- `has_role`. -/
def Claims.hasRole (claims : Claims) (role : String) : Bool :=
  claims.roles.any fun owned => owned = role

/-- The payload of a token, before its fields are read. -/
structure ClaimsBruts where
  sub : String
  roles : Option RolesFormat
  iss : Option String
  aud : Option AudienceFormat
  iat : ℕ
  exp : ℕ

/-- `Deserialize` for `Claims`: roles and audience may be absent. -/
def ClaimsBruts.claims (bruts : ClaimsBruts) : Claims :=
  { sub := bruts.sub
    roles := (bruts.roles.map deserializeRoles).getD []
    iss := bruts.iss
    aud := deserializeAudience bruts.aud
    iat := bruts.iat
    exp := bruts.exp }

/-- A token is refused without a reason. -/
inductive JwtValidationError where
  | invalid
  deriving DecidableEq

/-- `JwtService`: `decode` verifies the signature, the expiry, the issuer and the audience. -/
structure JwtService where
  decode : String → Option ClaimsBruts

/-- `validate`: the token is decoded by the library, with its checks. -/
def JwtService.validate (jwt : JwtService) (token : String) : Except JwtValidationError Claims :=
  match jwt.decode token with
  | some bruts => .ok bruts.claims
  | none => .error .invalid

/-! ## Requests of the API -/

/-- `AppError`: what the common layer answers instead of a page. -/
inductive AppError where
  | validation (message : String)
  | invalidToken
  | forbidden (message : String)
  | conflict (message : String)
  | notFound (message : String)
  | internal
  deriving DecidableEq

/-- The `Display` of `AppError`. -/
def AppError.toText : AppError → String
  | .validation message => "requête invalide : " ++ message
  | .invalidToken => "token invalide ou expiré"
  | .forbidden message | .conflict message | .notFound message => message
  | .internal => "erreur interne"

/-- `From<AppError>`. -/
def ApiError.ofApp (error : AppError) : ApiError :=
  let code : ApiErrorCode := match error with
    | .validation _ => .badRequest
    | .invalidToken => .unauthorized
    | .forbidden _ => .forbidden
    | .conflict _ => .conflict
    | .notFound _ => .notFound
    | .internal => .internal
  ⟨code, error.toText⟩

/-- `ApiErrorCode::status`. -/
def ApiErrorCode.status : ApiErrorCode → ℕ
  | .badRequest => 400
  | .unauthorized => 401
  | .forbidden => 403
  | .notFound => 404
  | .conflict => 409
  | .consentRefused => 409
  | .bankUnavailable => 502
  | .internal => 500

/-- `MAX_TOKEN_BYTES`. -/
def maxTokenBytes : ℕ := 8 * 1024

/-- `REQUIRED_ROLE`. -/
def requiredRole : String := "budgy"

/-- `HeaderValue::to_str`: visible characters and tabs only. -/
def headerToStr (value : List UInt8) : Option String :=
  if value.all fun b => (32 ≤ b && b < 127) || b = 9 then Text.ofUtf8? value else none

/-- `bearer_token`: what follows `Bearer `, trimmed and not empty. -/
def bearerToken (authorization : Option (List UInt8)) : Option String := do
  let value ← authorization.bind headerToStr
  let token := Text.trim (← Text.stripPrefix? "Bearer " value)
  if token.isEmpty then none else some token

/-- The user of a request that was let in. -/
structure BudgyUser where
  claims : Claims
  deriving DecidableEq

/-- `owner_id`: the subject of the token. -/
def BudgyUser.ownerId (user : BudgyUser) : ProprietaireId := user.claims.sub

/-- `BudgyUser::from_request_parts`. -/
def BudgyUser.fromRequestParts (jwt : JwtService) (authorization : Option (List UInt8)) :
    Except AppError BudgyUser :=
  match bearerToken authorization with
  | none => .error .invalidToken
  | some token =>
      if maxTokenBytes < token.utf8ByteSize then .error .invalidToken
      else
        match jwt.validate token with
        | .error _ => .error .invalidToken
        | .ok claims =>
            if !claims.hasRole requiredRole then .error (.forbidden "rôle budgy requis")
            else .ok ⟨claims⟩

/-- The routes that ask for a user, with what their handlers read beside the token. -/
inductive Route where
  | me
  | listBanks
  | listConsents
  | page (lecture : Lecture)
  | createConsent (bankId : String)
  | completeConsent (payload : ConsentCallbackRequest)
  | renewConsent (consentId : ConsentId)
  | createRule (payload : CreateCategorizationRuleRequest)
  | createRuleFromTransaction (accountId transactionId : Uuid) (categoryId : CategoryId)
  | recategoriserCredits
  | categorizeTransaction (accountId transactionId : Uuid) (categoryId : CategoryId)
  | createCategory (payload : CategoryRequest)
  | updateCategory (categoryId : CategoryId) (payload : CategoryRequest)
  | deleteCategory (categoryId : CategoryId)
  | createEnveloppe (payload : EnveloppeRequest)
  | updateEnveloppe (enveloppeId : EnveloppeId) (payload : EnveloppeRequest)
  | deleteEnveloppe (enveloppeId : EnveloppeId)
  | affecterTransaction (transactionId : Uuid) (enveloppeId : Option EnveloppeId)
  | upsertBudget (payload : UpsertBudgetRequest)
  | updatePreferences (jourDebutMois : ℕ)

/-- The operation that a route asks for, unless it only reads. -/
def Route.operation (owner : ProprietaireId) : Route → Option Operation
  | .me | .listBanks | .listConsents | .page _ => none
  | .createConsent bankId => some (.createConsent owner bankId)
  | .completeConsent payload => some (.completeConsent owner payload)
  | .renewConsent id => some (.renewConsent owner id)
  | .createRule payload => some (.createRule owner payload)
  | .createRuleFromTransaction account transaction category =>
      some (.createRuleFromTransaction owner account transaction category)
  | .recategoriserCredits => some (.recategoriserCredits owner)
  | .categorizeTransaction account transaction category =>
      some (.categorizeTransaction owner account transaction category)
  | .createCategory payload => some (.createCategory owner payload)
  | .updateCategory id payload => some (.updateCategory owner id payload)
  | .deleteCategory id => some (.deleteCategory owner id)
  | .createEnveloppe payload => some (.createEnveloppe owner payload)
  | .updateEnveloppe id payload => some (.updateEnveloppe owner id payload)
  | .deleteEnveloppe id => some (.deleteEnveloppe owner id)
  | .affecterTransaction transaction enveloppe =>
      some (.affecterTransaction owner transaction enveloppe)
  | .upsertBudget payload => some (.upsertBudget owner payload)
  | .updatePreferences jour => some (.updatePreferences owner jour)

/-- What `me` answers. -/
structure MeResponse where
  ownerId : String
  roles : List String
  deriving DecidableEq

/-- What a handler answers. -/
inductive Retour where
  | me (reponse : MeResponse)
  | banques (reponse : Except ApiError (ListResponse Etablissement))
  | consents (reponse : Except ApiError (ListResponse ConsentDto))
  | page (lecture : Lecture) (reponse : lecture.Reponse)
  | operation (operation : Operation) (reponse : operation.Reponse)

/-- The handler of a route, for the user of the token. -/
def Route.servir (cfg : Configuration) (user : BudgyUser) (route : Route) : Programme Retour :=
  match route.operation user.ownerId with
  | some o => do return .operation o (← o.programme cfg)
  | none =>
      match route with
      | .listBanks => do return .banques (← Handlers.listBanks.run)
      | .listConsents => do
          return .consents (← (Handlers.listConsents cfg.crypto user.ownerId).run)
      | .page lecture => do
          return .page lecture (← lecture.programme cfg.crypto user.ownerId)
      | _ => return .me ⟨user.ownerId, user.claims.roles⟩

/-- A request of the interface: its header and its route. -/
structure RequeteApi where
  authorization : Option (List UInt8)
  route : Route

/-- The user is extracted first: a request without a user does not reach its handler. -/
def RequeteApi.traiter (jwt : JwtService) (cfg : Configuration) (requete : RequeteApi) :
    Programme (Except AppError Retour) :=
  match BudgyUser.fromRequestParts jwt requete.authorization with
  | .error erreur => return .error erreur
  | .ok user => do return .ok (← requete.route.servir cfg user)

/-! ## Messages of the broker -/

/-- `TYPE_USER_DELETED`. -/
def typeUserDeleted : String := "auth.user.deleted"

/-- The event of an erasure, once its payload is read. -/
structure UserDeletedPayload where
  eventType : String
  sub : String
  deriving DecidableEq

/-- Why an event is not handled. -/
inductive EvenementError where
  | payloadInvalide (cause : String)
  | typeInattendu (recu : String)
  | subManquant
  deriving DecidableEq

/-- The reader of JSON, `serde_json::from_slice`. -/
abbrev LecteurJson := List UInt8 → Except String UserDeletedPayload

/-- `parser_user_deleted`: the type, then the subject. -/
def parserUserDeleted (fromSlice : LecteurJson) (payload : List UInt8) :
    Except EvenementError ProprietaireId :=
  match fromSlice payload with
  | .error cause => .error (.payloadInvalide cause)
  | .ok brut =>
      if brut.eventType ≠ typeUserDeleted then .error (.typeInattendu brut.eventType)
      else
        let sub := Text.trim brut.sub
        if sub.isEmpty then .error .subManquant else .ok sub

/-- `UserDeletedHandler::appliquer`: what goes wrong is logged and dropped. -/
def UserDeletedHandler.appliquer (fromSlice : LecteurJson) (cfg : Configuration)
    (payload : List UInt8) : Programme Unit :=
  match parserUserDeleted fromSlice payload with
  | .error _ => return ()
  | .ok proprietaire => do
      let _ ← (Operation.effacerDonneesProprietaire proprietaire).programme cfg
      return ()

/-- What the event loop of the subscriber hears: a message, or anything else. -/
inductive Poll where
  | publication (payload : List UInt8)
  | autre
  | erreur (cause : String)

/-- The loop of `AbonneRelay`: a message is dealt with before the next one is heard. -/
def AbonneRelay.boucle (fromSlice : LecteurJson) (cfg : Configuration) :
    List Poll → Programme Unit
  | [] => return ()
  | .publication payload :: suite => do
      UserDeletedHandler.appliquer fromSlice cfg payload
      AbonneRelay.boucle fromSlice cfg suite
  | _ :: suite => AbonneRelay.boucle fromSlice cfg suite

/-! ## Doors -/

/-- What the outside world asks of the service. -/
inductive Entree where
  | http (requete : RequeteApi)
  | relais (evenement : Poll)

namespace Entree

/-- What an entry answers. -/
abbrev Reponse : Entree → Type
  | http _ => Except AppError Retour
  | relais _ => Unit

/-- What an entry runs: the route of a request, or the loop of the relay. -/
def programme (jwt : JwtService) (fromSlice : LecteurJson) (cfg : Configuration) :
    (e : Entree) → Programme e.Reponse
  | http requete => requete.traiter jwt cfg
  | relais evenement => AbonneRelay.boucle fromSlice cfg [evenement]

end Entree

/-- The service behind its doors. -/
abbrev portes (jwt : JwtService) (fromSlice : LecteurJson) (cfg : Configuration) :
    Service signature :=
  ⟨Entree, Entree.Reponse, Entree.programme jwt fromSlice cfg⟩

end Budgy
