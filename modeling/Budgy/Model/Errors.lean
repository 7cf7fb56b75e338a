import Mathlib.Tactic.Common

/-!
# Errors

The error types of the layers, from the database driver up to the answer of the
API, with the translations between them.  Texts are those of the source.
-/

set_option autoImplicit false

namespace Budgy

/-- `sqlx::Error`, as far as the program can tell the cases apart. -/
inductive SqlxError where
  | rowNotFound
  | contrainte (nom : String)
  | panne (message : String)
  deriving DecidableEq

/-- The `Display` of `sqlx::Error`, for the errors that are distinguished. -/
def SqlxError.toText : SqlxError → String
  | .rowNotFound => "no rows returned by a query that expected to return at least one row"
  | .contrainte nom => "error returned from database: " ++ nom
  | .panne message => message

/-- What the encryption layer refuses. -/
inductive CryptoError where
  | invalidKey
  | encryption
  | decryption
  | malformedBlob
  deriving DecidableEq

/-- The `Display` of `CryptoError`. -/
def CryptoError.toText : CryptoError → String
  | .invalidKey => "clé de chiffrement invalide"
  | .encryption => "chiffrement impossible"
  | .decryption => "déchiffrement impossible"
  | .malformedBlob => "blob chiffré tronqué"

/-- What the encrypted repositories fail with. -/
inductive ChiffrementError where
  | database (e : SqlxError)
  | crypto (e : CryptoError)
  | invalidUtf8
  | invalidAmount
  | unknownEnum (valeur : String)
  deriving DecidableEq

/-- The `Display` of `ChiffrementError`. -/
def ChiffrementError.toText : ChiffrementError → String
  | .database e => "erreur base de données : " ++ e.toText
  | .crypto e => "erreur cryptographique : " ++ e.toText
  | .invalidUtf8 => "champ déchiffré non valide en UTF-8"
  | .invalidAmount => "montant déchiffré illisible"
  | .unknownEnum v => "valeur de domaine inconnue : " ++ v

/-- The failure of a write, as the ports see it. -/
inductive EcritureError where
  | acces (message : String)
  | protection (message : String)
  deriving DecidableEq

/-- The failure of a read, as the ports see it. -/
inductive LectureError where
  | acces (message : String)
  deriving DecidableEq

/-- `vers_ecriture_error` of `repository/chiffrement.rs`. -/
def versEcritureError : ChiffrementError → EcritureError
  | .database e => .acces e.toText
  | .crypto e => .protection e.toText
  | .invalidUtf8 => .protection "champ déchiffré non valide en UTF-8"
  | .invalidAmount => .protection "montant déchiffré illisible"
  | .unknownEnum v => .acces ("valeur de domaine inconnue : " ++ v)

/-- The read adapters keep the text of the error only. -/
def versLectureError (e : ChiffrementError) : LectureError := .acces e.toText

/-- What the source of banking data answers instead of data. -/
inductive BankDataSourceError where
  | consentementInvalide
  | etablissementIndisponible
  | ressourceIntrouvable
  | sourceNonConfiguree
  | reponseInvalide (message : String)
  | technique (message : String)
  deriving DecidableEq

/-- What interrupts a cycle of synchronisation. -/
inductive SynchroError where
  | lecture (e : LectureError)
  | ecriture (e : EcritureError)
  deriving DecidableEq

/-- What interrupts the erasure of a user. -/
inductive EffacementError where
  | lecture (e : LectureError)
  | ecriture (e : EcritureError)
  deriving DecidableEq

/-! ## Answers of the API -/

/-- The codes that the interface returns, each with its status. -/
inductive ApiErrorCode where
  | badRequest
  | unauthorized
  | forbidden
  | notFound
  | conflict
  | consentRefused
  | bankUnavailable
  | internal
  deriving DecidableEq

/-- `ApiError`: a code and a text for the user. -/
structure ApiError where
  code : ApiErrorCode
  message : String
  deriving DecidableEq

namespace ApiError

/-- `ApiError::validation`. -/
def validation (message : String) : ApiError := ⟨.badRequest, message⟩
/-- `ApiError::not_found`. -/
def notFound (message : String) : ApiError := ⟨.notFound, message⟩
/-- `ApiError::conflict`. -/
def conflict (message : String) : ApiError := ⟨.conflict, message⟩
/-- `ApiError::consent_refused`. -/
def consentRefused (message : String) : ApiError := ⟨.consentRefused, message⟩
/-- `ApiError::bank_unavailable`. -/
def bankUnavailable (message : String) : ApiError := ⟨.bankUnavailable, message⟩
/-- `ApiError::internal`. -/
def internal (message : String) : ApiError := ⟨.internal, message⟩

/-- `From<LectureError>`. -/
def ofLecture : LectureError → ApiError
  | .acces _ => internal "erreur d'accès aux données"

/-- `From<EcritureError>`. -/
def ofEcriture : EcritureError → ApiError
  | .acces _ => internal "erreur d'écriture des données"
  | .protection _ => internal "protection des données impossible"

/-- `From<BankDataSourceError>`. -/
def ofBank : BankDataSourceError → ApiError
  | .consentementInvalide => consentRefused "consentement bancaire refusé ou expiré"
  | .etablissementIndisponible =>
      bankUnavailable "établissement bancaire momentanément indisponible"
  | .ressourceIntrouvable => notFound "ressource bancaire introuvable"
  | .sourceNonConfiguree => internal "source bancaire non configurée"
  | .reponseInvalide _ => bankUnavailable "réponse de l'établissement bancaire illisible"
  | .technique _ =>
      bankUnavailable "erreur de communication avec l'établissement bancaire"

end ApiError

end Budgy
