import Budgy.Interface.Program
import Budgy.Model.Crypto
import Budgy.Model.Sql.Consents
import Budgy.Model.Sql.Comptes
import Budgy.Model.Sql.Transactions
import Budgy.Model.Sql.Classement

/-!
# The machine the handlers run on

Every effect of the program is a request: a statement sent to the database, a call
to the bank, an event published, random bytes, a generated identifier, the clock.
A statement that fails leaves the database as it found it.  The answers of the
bank, of the clock and of the generators are arbitrary.
-/

set_option autoImplicit false

namespace Budgy

open Effects

/-- A statement, with the repository it comes from. -/
inductive Requete where
  | consent (r : RequeteConsent)
  | compte (r : RequeteCompte)
  | transaction (r : RequeteTransaction)
  | classement (r : RequeteClassement)

/-- What a statement returns when the database answers. -/
abbrev Requete.Reponse : Requete → Type
  | consent r => r.Reponse
  | compte r => r.Reponse
  | transaction r => r.Reponse
  | classement r => r.Reponse

/-- The effect of a statement that does not fail. -/
def Requete.effet (col : Collation) (x : ChoixSql) (s : Store) :
    (r : Requete) → Except SqlxError (r.Reponse × Store)
  | consent r => r.effet x s
  | compte r => r.effet x s
  | transaction r => r.effet x s
  | classement r => r.effet col x s

/-- The methods of `BankDataSource`. -/
inductive AppelBanque where
  | listerEtablissements
  | initierConsentement (demande : DemandeConsentement)
  | completerConsentement (proprietaire : ProprietaireId) (reponse : ReponseAutorisation)
  | listerComptes (consent : Consent)
  | solde (consent : Consent) (compte : BankAccount)
  | listerTransactions (consent : Consent) (compte : BankAccount) (depuis : NaiveDate)
  | revoquerConsentement (consent : Consent)

/-- What a call to the bank returns when it succeeds. -/
abbrev AppelBanque.Reponse : AppelBanque → Type
  | listerEtablissements => List Etablissement
  | initierConsentement _ => ConsentementInitie
  | completerConsentement _ _ => Consent
  | listerComptes _ => List BankAccount
  | solde _ _ => List Balance
  | listerTransactions _ _ _ => List TransactionBancaire
  | revoquerConsentement _ => Consent

/-- The requests that the program makes to the world: the database, the bank, the notification
service, the source of nonces and identifiers, the clock. -/
inductive Op where
  | sql (r : Requete)
  | banque (a : AppelBanque)
  | publier (e : EvenementSynchro)
  | nonce
  | uuidV4
  | maintenant

/-- The answer to a request. -/
abbrev Op.Reply : Op → Type
  | sql r => Except SqlxError r.Reponse
  | banque a => Except BankDataSourceError a.Reponse
  | publier _ => Unit
  | nonce => Nonce
  | uuidV4 => Uuid
  | maintenant => DateTime

/-- The requests of the program. -/
abbrev signature : Signature := ⟨Op, Op.Reply⟩

/-- What answers a request: the choices of the database for a statement, the reply
itself otherwise. -/
abbrev Op.Choix : Op → Type
  | sql _ => ChoixSql
  | banque a => Except BankDataSourceError a.Reponse
  | publier _ => Unit
  | nonce => Nonce
  | uuidV4 => Uuid
  | maintenant => DateTime

/-- A statement against the database. -/
def Requete.executer (col : Collation) (r : Requete) (x : ChoixSql) (s : Store) :
    Except SqlxError r.Reponse × Store :=
  match x.panne with
  | some message => (.error (.panne message), s)
  | none =>
      match r.effet col x s with
      | .ok (reponse, s') => (.ok reponse, s')
      | .error e => (.error e, s)

/-- One request against the database and the outside world. -/
def repondre (col : Collation) : (o : Op) → o.Choix → Store → o.Reply × Store
  | .sql r, x, s => r.executer col x s
  | .banque _, c, s => (c, s)
  | .publier _, _, s => ((), s)
  | .nonce, c, s => (c, s)
  | .uuidV4, c, s => (c, s)
  | .maintenant, c, s => (c, s)

/-- The database and the outside world, under a collation. -/
abbrev machine (col : Collation) : Machine signature Store := ⟨Op.Choix, repondre col⟩

/-- A program of the repository. -/
abbrev Programme (α : Type) : Type := Prog signature α

/-- A program that may fail. -/
abbrev Tache (ε α : Type) : Type := Task signature ε α

/-- The program made of one request. -/
def demander (o : Op) : Programme o.Reply := Prog.perform (S := signature) o

/-- A statement that may fail. -/
def interroger (r : Requete) : Tache SqlxError r.Reponse := Task.ofResult (demander (.sql r))

/-- A statement of the repositories that encrypt. -/
def interrogerChiffre (r : Requete) : Tache ChiffrementError r.Reponse :=
  (interroger r).mapError .database

/-- A call to the bank. -/
def appelerBanque (a : AppelBanque) : Tache BankDataSourceError a.Reponse :=
  Task.ofResult (demander (.banque a))

/-- `OsRng.fill_bytes` on a nonce. -/
def tirerNonce : Programme Nonce := demander .nonce

/-- `Uuid::new_v4`. -/
def newV4 : Programme Uuid := demander .uuidV4

/-- `Utc::now`. -/
def utcNow : Programme DateTime := demander .maintenant

/-- `publier_evenement`: a failure to publish is ignored. -/
def publierEvenement (e : EvenementSynchro) : Programme Unit := demander (.publier e)

section Chiffrement

variable (crypto : CryptoService)

/-- `chiffrer_texte` with a fresh nonce. -/
def chiffrerTexteFrais (ownerId table field plaintext : String) :
    Tache ChiffrementError (List UInt8) := do
  let nonce ← Task.ofProg tirerNonce
  Task.ofExcept (chiffrerTexte crypto nonce ownerId table field plaintext)

/-- `chiffrer_montant` with a fresh nonce. -/
def chiffrerMontantFrais (ownerId table field : String) (amountCents : ℤ) :
    Tache ChiffrementError (List UInt8) := do
  let nonce ← Task.ofProg tirerNonce
  Task.ofExcept (chiffrerMontant crypto nonce ownerId table field amountCents)

end Chiffrement

end Budgy
