import Budgy.Interface.Program
import Budgy.Model.EnableBanking

/-!
# `enable_banking/transport.rs` and `enable_banking/jwt.rs`

A call to the provider asks for a token, sends the request with it and looks at the status of
the answer.  The token is kept under a lock and used until a minute before its end; several
calls may be under way.  A lock that a failed thread has poisoned counts as an empty cache.
-/

set_option autoImplicit false

namespace Budgy

open Effects

namespace Http

/-- `MethodeHttp`. -/
inductive MethodeHttp where
  | get
  | post
  | delete
  deriving DecidableEq

/-- A request: its path, its token and its body. -/
structure RequeteHttp where
  methode : MethodeHttp
  chemin : String
  jeton : String
  corpsJson : Option String
  deriving DecidableEq

/-- A response: its status and its text. -/
structure ReponseHttp where
  statut : ℕ
  corps : String
  deriving DecidableEq

/-- `est_succes`: a status from 200 to 299. -/
def ReponseHttp.estSucces (reponse : ReponseHttp) : Bool :=
  200 ≤ reponse.statut && reponse.statut < 300

/-- The transport failed: there is no response. -/
inductive TransportError where
  | reseau (message : String)
  deriving DecidableEq

/-! ## Tokens -/

/-- `ISSUER`. -/
def issuer : String := "enablebanking.com"

/-- `AUDIENCE`. -/
def audience : String := "api.enablebanking.com"

/-- `TTL_SECONDES`. -/
def ttlSecondes : ℤ := 3600

/-- `MARGE_RENOUVELLEMENT_SECONDES`. -/
def margeRenouvellementSecondes : ℤ := 60

/-- Why no token could be made. -/
inductive JwtApplicatifError where
  | clePrivee
  | signature
  deriving DecidableEq

/-- The `Display` of these reasons. -/
def JwtApplicatifError.toText : JwtApplicatifError → String
  | .clePrivee => "clé privée RSA illisible"
  | .signature => "signature du jeton impossible"

/-- The claims of the token that authenticates the application. -/
structure ClaimsApplicatives where
  iss : String
  aud : String
  iat : ℤ
  exp : ℤ
  deriving DecidableEq

/-- The token in the cache, with the instant it ends. -/
structure JetonCache where
  valeur : String
  expireA : ℤ
  deriving DecidableEq

/-- The signature under the private key, RS256: the header names the application. -/
structure CleRsa where
  encode : (kid : String) → ClaimsApplicatives → Option String

/-! ## The requests -/

/-- What a call asks: the clock in seconds, the cache under its lock, the network. -/
inductive Demande where
  | timestamp
  | lireCache
  | ecrireCache (jeton : JetonCache)
  | envoyer (requete : RequeteHttp)

/-- The answer to a request. -/
abbrev Demande.Reply : Demande → Type
  | timestamp => ℤ
  | lireCache => Option (Option JetonCache)
  | ecrireCache _ => Unit
  | envoyer _ => Except TransportError ReponseHttp

/-- The requests of the transport: the clock, the cache and the network. -/
abbrev signature : Signature := ⟨Demande, Demande.Reply⟩

/-- The instant, whether the lock is good, the answer of the provider. -/
abbrev Demande.Choix : Demande → Type
  | timestamp => ℤ
  | lireCache => Bool
  | ecrireCache _ => Bool
  | envoyer _ => Except TransportError ReponseHttp

/-- The state is the content of the cache. -/
def repondre : (d : Demande) → d.Choix → Option JetonCache → d.Reply × Option JetonCache
  | .timestamp, instant, cache => (instant, cache)
  | .lireCache, sain, cache => (if sain then some cache else none, cache)
  | .ecrireCache jeton, sain, cache => ((), if sain then some jeton else cache)
  | .envoyer _, reponse, cache => (reponse, cache)

/-- The cache that the calls share, and the outside world. -/
abbrev machine : Machine signature (Option JetonCache) := ⟨Demande.Choix, repondre⟩

/-- A program of the transport. -/
abbrev Programme (α : Type) : Type := Prog signature α

/-- A program that may fail. -/
abbrev Tache (ε α : Type) : Type := Task signature ε α

/-- A request to the world. -/
def demander (d : Demande) : Programme d.Reply := Prog.perform (S := signature) d

/-! ## `SignataireJwt` -/

/-- `SignataireJwt`: the application and its key. -/
structure SignataireJwt where
  appId : String
  cle : CleRsa

namespace SignataireJwt

variable (signataire : SignataireJwt)

/-- `signer`: the claims are signed with the key of the application. -/
def signer (iat exp : ℤ) : Except JwtApplicatifError String :=
  match signataire.cle.encode signataire.appId ⟨issuer, audience, iat, exp⟩ with
  | some jeton => .ok jeton
  | none => .error .signature

/-- `jeton_en_cache`: a token that ends within the margin is not returned. -/
def jetonEnCache (maintenant : ℤ) : Programme (Option String) := do
  match ← demander .lireCache with
  | some (some jeton) =>
      return if jeton.expireA - margeRenouvellementSecondes > maintenant then some jeton.valeur
        else none
  | _ => return none

/-- `jeton`: the token of the cache, else a new one that replaces it. -/
def jeton : Tache JwtApplicatifError String := do
  let maintenant ← Task.ofProg (demander .timestamp)
  match ← Task.ofProg (jetonEnCache maintenant) with
  | some jeton => return jeton
  | none =>
      let expireA := maintenant + ttlSecondes
      let jeton ← Task.ofExcept (signataire.signer maintenant expireA)
      Task.ofProg (demander (.ecrireCache ⟨jeton, expireA⟩))
      return jeton

end SignataireJwt

/-! ## `ClientEnableBanking::appeler` -/

/-- `traduire_transport`. -/
def traduireTransport : TransportError → BankDataSourceError
  | .reseau message => .technique message

/-- `verifier_statut`: the statuses that are told apart. -/
def verifierStatut (reponse : ReponseHttp) : Except BankDataSourceError Unit :=
  if reponse.estSucces then .ok ()
  else
    match reponse.statut with
    | 401 | 403 => .error .consentementInvalide
    | 404 => .error .ressourceIntrouvable
    | 429 | 500 | 502 | 503 | 504 => .error .etablissementIndisponible
    | autre => .error (.technique ("statut HTTP inattendu : " ++ toString autre))

/-- `appeler`: a token, the request, then the check of its status. -/
def appeler (signataire : SignataireJwt) (methode : MethodeHttp) (chemin : String)
    (corpsJson : Option String) : Tache BankDataSourceError ReponseHttp := do
  let jeton ← signataire.jeton.mapError fun e => .technique e.toText
  let reponse ← (Task.ofResult (demander (.envoyer ⟨methode, chemin, jeton, corpsJson⟩)) :
    Tache TransportError ReponseHttp).mapError traduireTransport
  Task.ofExcept (verifierStatut reponse)
  return reponse

end Http

end Budgy
