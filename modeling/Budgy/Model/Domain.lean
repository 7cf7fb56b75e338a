import Budgy.Model.Basics
import Budgy.Model.Errors

/-!
# The domain

The records the program handles, with the constructors of the values that carry
an invariant.  A column that stores a code (`as_str`) is modelled by the type of
the code: no other text is ever written to it.
-/

set_option autoImplicit false

namespace Budgy

/-! ## Bounded texts and amounts -/

/-- A trimmed text, not empty and of at most `max` characters. -/
@[ext]
structure TexteBorne (max : ℕ) where
  asStr : String
  nonVide : asStr ≠ ""
  borne : asStr.length ≤ max
  deriving DecidableEq

/-- The parser the three bounded texts share. -/
def texteBorne {ε : Type} (max : ℕ) (vide tropLong : ε) (value : String) :
    Except ε (TexteBorne max) :=
  let trimmed := Text.trim value
  if h : trimmed = "" then .error vide
  else if h' : trimmed.length ≤ max then .ok ⟨trimmed, h, h'⟩
  else .error tropLong

/-- An amount that is not negative. -/
@[ext]
structure MontantPositif where
  cents : ℤ
  nonneg : 0 ≤ cents
  deriving DecidableEq

/-- The parser the two non-negative amounts share. -/
def montantPositif {ε : Type} (negatif : ε) (cents : ℤ) : Except ε MontantPositif :=
  if h : 0 ≤ cents then .ok ⟨cents, h⟩ else .error negatif

/-! ## Consents -/

/-- Where a consent stands: begun, usable, over, withdrawn or refused. -/
inductive ConsentStatus where
  | pending
  | active
  | expired
  | revoked
  | failed
  deriving DecidableEq

/-- What the user has to do about a consent. -/
inductive ConsentRenouvellement where
  | aJour
  | renouvellementRequis
  | expire
  deriving DecidableEq

/-- A consent as the repositories return it, its reference decrypted. -/
structure Consent where
  id : ConsentId
  proprietaire : ProprietaireId
  externalRef : String
  etablissement : Option String
  status : ConsentStatus
  expiresAt : Option DateTime
  createdAt : DateTime
  updatedAt : DateTime
  deriving DecidableEq

/-- `MARGE_RENOUVELLEMENT_JOURS_DEFAUT`. -/
def margeRenouvellementJoursDefaut : ℤ := 7

/-- `marge_renouvellement_defaut`, the margin as a duration. -/
def margeRenouvellementDefaut : Duration := Duration.days margeRenouvellementJoursDefaut

namespace Consent

/-- `Consent::renouvellement`: over, near its end by the margin, or up to date. -/
def renouvellement (c : Consent) (maintenant : DateTime) (marge : Duration) :
    ConsentRenouvellement :=
  if c.status = .expired ∨ c.status = .failed then .expire
  else match c.expiresAt with
    | none => .aJour
    | some expiration =>
        if expiration ≤ maintenant then .expire
        else if expiration ≤ maintenant + marge then .renouvellementRequis
        else .aJour

/-- `Consent::est_renouvelable`. -/
def estRenouvelable (c : Consent) (maintenant : DateTime) (marge : Duration) : Bool :=
  c.renouvellement maintenant marge ≠ .aJour

end Consent

/-- A consent that the bank has been asked for, to be inserted. -/
structure NouveauConsentInitie where
  id : ConsentId
  proprietaire : ProprietaireId
  externalRef : String
  etablissement : String
  status : ConsentStatus
  expiresAt : Option DateTime

/-- What a callback or a renewal writes over a consent. -/
structure MiseAJourConsent where
  status : ConsentStatus
  externalRef : String
  expiresAt : Option DateTime

/-! ## Accounts and balances -/

/-- A bank account as the repositories return it, its identifier decrypted. -/
structure BankAccount where
  id : BankAccountId
  proprietaire : ProprietaireId
  consent : ConsentId
  externalAccountId : String
  ibanMasked : String
  currency : String
  nextSyncAt : Option DateTime
  syncCountToday : ℤ
  createdAt : DateTime
  updatedAt : DateTime
  deriving DecidableEq

/-- An account that the bank lists, to be inserted under a consent. -/
structure NouveauBankAccount where
  proprietaire : ProprietaireId
  consent : ConsentId
  externalAccountId : String
  iban : String
  currency : String
  nextSyncAt : Option DateTime
  deriving DecidableEq

/-- The part of an account that a cycle of synchronisation works on. -/
structure CompteASynchroniser where
  id : BankAccountId
  proprietaire : ProprietaireId
  consent : ConsentId
  externalAccountId : String
  currency : String
  syncCountToday : ℤ
  lastSyncDay : Option NaiveDate
  deriving DecidableEq

/-- An account that is due, with the consent it is read under. -/
structure CompteEcheant where
  compte : CompteASynchroniser
  consent : Consent
  deriving DecidableEq

/-- What a cycle writes when it reserves a slot of an account. -/
structure PlanificationSynchro where
  nextSyncAt : DateTime
  lastSyncDay : NaiveDate
  lastSyncAt : DateTime
  deriving DecidableEq

/-- `masquer_iban`: the length test counts bytes, the suffix counts characters. -/
def masquerIban (iban : String) : String :=
  let compact := String.ofList (iban.toList.filter fun c => !Text.isWhitespace c)
  let conserves := 4
  if compact.utf8ByteSize ≤ conserves then String.ofList (List.replicate compact.utf8ByteSize '*')
  else
    let suffixe := compact.toList.drop (compact.utf8ByteSize - conserves)
    String.ofList (List.replicate (compact.utf8ByteSize - conserves) '*' ++ suffixe)

/-- The kinds of balance that are kept, those of the bank being mapped to them. -/
inductive BalanceType where
  | available
  | booked
  | expected
  deriving DecidableEq

/-- A balance as the bank gives it or the repositories return it. -/
structure Balance where
  id : BalanceId
  bankAccount : BankAccountId
  balanceType : BalanceType
  amountCents : ℤ
  currency : String
  referenceDate : DateTime
  createdAt : DateTime
  deriving DecidableEq

/-- A balance to be stored, which has no identifier yet. -/
structure NouvelleBalance where
  bankAccount : BankAccountId
  balanceType : BalanceType
  amountCents : ℤ
  currency : String
  referenceDate : DateTime
  deriving DecidableEq

/-- An account with its booked balance and the one to come. -/
structure CompteAvecSolde where
  compte : BankAccount
  solde : Option Balance
  soldeAVenir : Option Balance
  deriving DecidableEq

/-! ## Transactions -/

/-- Who gave a transaction its category. -/
inductive CategorizationSource where
  | manual
  | rule
  | none
  deriving DecidableEq

/-- Whether the bank has booked a transaction or only announces it. -/
inductive TransactionStatus where
  | booked
  | pending
  deriving DecidableEq

/-- How often a recurrence comes back: only monthly ones are detected. -/
inductive RecurrenceInterval where
  | mensuel
  deriving DecidableEq

/-- The direction of a transaction. -/
inductive SensTransaction where
  | entree
  | sortie
  deriving DecidableEq

/-- A transaction as the bank gives it or the repositories return it. -/
structure TransactionBancaire where
  id : TransactionBancaireId
  bankAccount : BankAccountId
  externalTransactionId : String
  status : TransactionStatus
  label : String
  amountCents : ℤ
  currency : String
  bookingDate : Option NaiveDate
  valueDate : Option NaiveDate
  category : Option CategoryId
  enveloppe : Option EnveloppeId
  categorizationSource : CategorizationSource
  ruleId : Option RegleCategorisationId
  isRecurrent : Bool
  recurrenceInterval : Option RecurrenceInterval
  createdAt : DateTime
  deriving DecidableEq

namespace TransactionBancaire

/-- `TransactionBancaire::sens`: an amount of zero comes in. -/
def sens (t : TransactionBancaire) : SensTransaction :=
  if t.amountCents < 0 then .sortie else .entree

/-- `TransactionBancaire::date_effective`: the booking date, else the value date. -/
def dateEffective (t : TransactionBancaire) : Option NaiveDate := t.bookingDate.or t.valueDate

end TransactionBancaire

/-- A transaction that a cycle observed, to be stored. -/
structure NouvelleTransactionBancaire where
  bankAccount : BankAccountId
  externalTransactionId : String
  status : TransactionStatus
  label : String
  amountCents : ℤ
  currency : String
  bookingDate : Option NaiveDate
  valueDate : Option NaiveDate
  deriving DecidableEq

/-- What an insertion with a key of deduplication did. -/
inductive ResultatInsertion (α : Type) where
  | inseree (id : α)
  | doublon
  deriving DecidableEq

/-- The three answers to a choice of category made by hand. -/
inductive CategorisationTransaction where
  | categorisee (t : TransactionBancaire)
  | transactionIntrouvable
  | categorieIntrouvable
  deriving DecidableEq

/-! ## Categories -/

/-- Whether a category is for income or for expenses. -/
inductive CategoryKind where
  | revenu
  | depense
  deriving DecidableEq

/-- `CategoryKind::parse`, on the two words of the interface. -/
def CategoryKind.parse? : String → Option CategoryKind
  | "revenu" => some .revenu
  | "depense" => some .depense
  | _ => none

/-- `CategoryKind::as_str`. -/
def CategoryKind.asStr : CategoryKind → String
  | .revenu => "revenu"
  | .depense => "depense"

/-- Why the name of a category is refused. -/
inductive CategoryValidationError where
  | nomVide
  | nomTropLong
  deriving DecidableEq

/-- The `Display` of these reasons, which the interface returns. -/
def CategoryValidationError.toText : CategoryValidationError → String
  | .nomVide => "le nom de la catégorie est obligatoire"
  | .nomTropLong => "le nom de la catégorie ne peut pas dépasser 30 caractères"

/-- `CATEGORY_NAME_MAX_LEN`. -/
def categoryNameMaxLen : ℕ := 30

/-- `CategoryName`: at most thirty characters. -/
abbrev CategoryName := TexteBorne categoryNameMaxLen

/-- `CategoryName::parse`. -/
def CategoryName.parse (value : String) : Except CategoryValidationError CategoryName :=
  texteBorne categoryNameMaxLen .nomVide .nomTropLong value

/-- A category, of the system when it has no owner. -/
structure Category where
  id : CategoryId
  ownerId : Option ProprietaireId
  name : String
  kind : CategoryKind
  color : String
  icon : String
  createdAt : DateTime
  deriving DecidableEq

/-- A category with the number of transactions that bear it. -/
structure CategorieAvecCompteur where
  category : Category
  transactionCount : ℕ
  deriving DecidableEq

/-- A category to be inserted, its texts validated. -/
structure NouvelleCategorie where
  proprietaire : ProprietaireId
  name : CategoryName
  kind : CategoryKind
  color : String
  icon : String

/-- The new texts of a category. -/
structure MiseAJourCategorie where
  name : CategoryName
  kind : CategoryKind
  color : String
  icon : String

/-- `valeur_non_vide_ou`. -/
def valeurNonVideOu (valeur : Option String) (defaut : String) : String :=
  ((valeur.map Text.trim).filter (· ≠ "")).getD defaut

/-- `couleur_ou_defaut`: a blank colour is replaced. -/
def couleurOuDefaut (color : Option String) : String := valeurNonVideOu color "#607D8B"

/-- `icone_ou_defaut`: a blank icon is replaced. -/
def iconeOuDefaut (icon : Option String) : String := valeurNonVideOu icon "tag"

/-- `CATEGORIE_VIREMENTS_INTERNES`, seeded by migration 0016. -/
def categorieVirementsInternes : CategoryId := Uuid.fromU128 0x00000000000040008000000000000001

/-! ## Rules -/

/-- Why the pattern of a rule is refused. -/
inductive RegleValidationError where
  | motifVide
  | motifTropLong
  deriving DecidableEq

/-- The `Display` of these reasons. -/
def RegleValidationError.toText : RegleValidationError → String
  | .motifVide => "le motif de libellé est obligatoire"
  | .motifTropLong => "le motif de libellé ne peut pas dépasser 140 caractères"

/-- `LABEL_PATTERN_MAX_LEN`. -/
def labelPatternMaxLen : ℕ := 140

/-- `LabelPattern`: at most 140 characters. -/
abbrev LabelPattern := TexteBorne labelPatternMaxLen

/-- `LabelPattern::parse`. -/
def LabelPattern.parse (value : String) : Except RegleValidationError LabelPattern :=
  texteBorne labelPatternMaxLen .motifVide .motifTropLong value

/-- A rule: the transactions whose label matches the pattern receive the category. -/
structure RegleCategorisation where
  id : RegleCategorisationId
  ownerId : ProprietaireId
  labelPattern : String
  categoryId : CategoryId
  priority : ℤ
  createdAt : DateTime
  deriving DecidableEq

/-- A rule to be inserted, its pattern validated. -/
structure NouvelleRegleCategorisation where
  proprietaire : ProprietaireId
  labelPattern : LabelPattern
  categoryId : CategoryId
  priority : ℤ

/-! ## Envelopes -/

/-- Why an envelope is refused. -/
inductive EnveloppeValidationError where
  | nomVide
  | nomTropLong
  | montantNegatif
  deriving DecidableEq

/-- The `Display` of these reasons. -/
def EnveloppeValidationError.toText : EnveloppeValidationError → String
  | .nomVide => "le nom du budget est obligatoire"
  | .nomTropLong => "le nom du budget ne peut pas dépasser 30 caractères"
  | .montantNegatif => "le montant du budget ne peut pas être négatif"

/-- `ENVELOPPE_NOM_MAX_LEN`. -/
def enveloppeNomMaxLen : ℕ := 30

/-- `EnveloppeNom`: at most thirty characters. -/
abbrev EnveloppeNom := TexteBorne enveloppeNomMaxLen

/-- `EnveloppeNom::parse`. -/
def EnveloppeNom.parse (valeur : String) : Except EnveloppeValidationError EnveloppeNom :=
  texteBorne enveloppeNomMaxLen .nomVide .nomTropLong valeur

/-- `MontantEnveloppe`: an amount of cents that is not negative. -/
abbrev MontantEnveloppe := MontantPositif

/-- `MontantEnveloppe::parse`. -/
def MontantEnveloppe.parse (cents : ℤ) : Except EnveloppeValidationError MontantEnveloppe :=
  montantPositif .montantNegatif cents

/-- An envelope, with what is planned for it each cycle. -/
structure Enveloppe where
  id : EnveloppeId
  proprietaire : ProprietaireId
  nom : String
  icon : String
  color : String
  montantCents : ℤ
  createdAt : DateTime
  deriving DecidableEq

/-- An envelope to be inserted, its texts and amount validated. -/
structure NouvelleEnveloppe where
  proprietaire : ProprietaireId
  nom : EnveloppeNom
  icon : String
  color : String
  montant : MontantEnveloppe

/-- The new texts and amount of an envelope. -/
structure MiseAJourEnveloppe where
  nom : EnveloppeNom
  icon : String
  color : String
  montant : MontantEnveloppe

/-- An envelope with what was spent from it in a cycle. -/
structure SuiviEnveloppe where
  enveloppe : Enveloppe
  depenseCents : ℤ
  nombreTransactions : ℤ
  deriving DecidableEq

/-! ## Monthly budgets -/

/-- Why a budget is refused. -/
inductive BudgetValidationError where
  | montantNegatif
  | moisInvalide
  deriving DecidableEq

/-- The `Display` of these reasons. -/
def BudgetValidationError.toText : BudgetValidationError → String
  | .montantNegatif => "le montant prévu ne peut pas être négatif"
  | .moisInvalide => "le mois doit être au format YYYY-MM"

/-- `MontantPrevu`: an amount of cents that is not negative. -/
abbrev MontantPrevu := MontantPositif

/-- `MontantPrevu::parse`. -/
def MontantPrevu.parse (centimes : ℤ) : Except BudgetValidationError MontantPrevu :=
  montantPositif .montantNegatif centimes

/-- `MoisBudget`: a date, the first day of the month when it comes from `parse`. -/
structure MoisBudget where
  premierJour : NaiveDate
  deriving DecidableEq

/-- What is planned for a category in a month. -/
structure Budget where
  id : BudgetId
  ownerId : ProprietaireId
  categoryId : CategoryId
  montantPrevuCents : ℤ
  mois : NaiveDate
  createdAt : DateTime
  updatedAt : DateTime
  deriving DecidableEq

/-- A budget to be inserted or updated, its amount and month validated. -/
structure NouveauBudget where
  proprietaire : ProprietaireId
  categoryId : CategoryId
  montantPrevu : MontantPrevu
  mois : MoisBudget

/-! ## The bank -/

/-- A bank that can be connected to; its identifier is made of the name and the country. -/
structure Etablissement where
  id : String
  nom : String
  pays : String
  deriving DecidableEq

/-- What the data source is asked to open a consent with. -/
structure DemandeConsentement where
  consentId : ConsentId
  proprietaire : ProprietaireId
  etablissement : String
  urlRetour : String
  deriving DecidableEq

/-- A consent that has been opened, and where the user authorises it. -/
structure ConsentementInitie where
  consent : Consent
  urlAutorisation : String
  deriving DecidableEq

/-- What the bank sends back once the user has answered. -/
structure ReponseAutorisation where
  referenceAutorisation : String
  codeAutorisation : String
  deriving DecidableEq

/-! ## Events of the synchronisation -/

/-- The kinds of event that a synchronisation publishes. -/
inductive TypeEvenementSynchro where
  | syncStarted
  | syncSucceeded
  | syncFailed
  | accountTransactions
  | balanceUpdated
  | consentRenewalRequired
  | consentExpired
  deriving DecidableEq

/-- An event published for the notification service. -/
structure EvenementSynchro where
  proprietaire : ProprietaireId
  typeEvenement : TypeEvenementSynchro
  compte : Option String
  count : Option ℕ
  instant : DateTime
  deriving DecidableEq

/-- A page of a listing. -/
structure Tranche where
  limit : ℕ
  offset : ℕ
  deriving DecidableEq

/-- A page of a listing, and the size of the whole listing. -/
structure LectureResultat (α : Type) where
  elements : List α
  total : ℕ
  deriving DecidableEq

end Budgy
