import Budgy.Model.Handlers.Banques
import Budgy.Model.Repository.Classement
import Budgy.Model.Repository.Transactions

/-!
# The handlers that classify

Rules, manual categorisation, reconciliation of the transactions, categories,
envelopes, budgets and preferences: everything a user can write outside the
attachment of a bank.
-/

set_option autoImplicit false

namespace Budgy

open Effects

/-- The body of a creation or an update of a category. -/
structure CategoryRequest where
  name : String
  kind : String
  color : Option String
  icon : Option String
  deriving DecidableEq

/-- The body of a creation of a rule. -/
structure CreateCategorizationRuleRequest where
  labelPattern : String
  categoryId : Uuid
  priority : Option ℤ
  deriving DecidableEq

/-- The body of a creation or an update of an envelope. -/
structure EnveloppeRequest where
  nom : String
  icon : Option String
  color : Option String
  montantCents : ℤ
  deriving DecidableEq

/-- The body of a budget: the category, the amount and the month. -/
structure UpsertBudgetRequest where
  categoryId : Uuid
  montantCents : ℤ
  mois : String
  deriving DecidableEq

/-- `DEFAULT_ENVELOPPE_COLOR`. -/
def defaultEnveloppeColor : String := "#5E35B1"

/-- `DEFAULT_ENVELOPPE_ICON`. -/
def defaultEnveloppeIcon : String := "wallet"

/-- `map_err(|e| ApiError::validation(e.to_string()))`. -/
def valider {ε α : Type} (texte : ε → String) (r : Except ε α) : Except ApiError α :=
  r.mapError fun e => ApiError.validation (texte e)

namespace Handlers

variable (crypto : CryptoService)

/-! ## Rules -/

/-- The common end of the two handlers that create a rule: the failure of the
retroactive batch is ignored. -/
def creerEtAppliquer (nouvelle : NouvelleRegleCategorisation) :
    Tache ApiError RegleCategorisation := do
  let creee ← ecritureApi (Regles.creer nouvelle)
  let regle ← ouErreur (ApiError.notFound "catégorie introuvable") creee
  let _ : Except EcritureError ℕ ← Task.attempt
    (BankTransactionsAdapter.appliquerRegleRetroactif crypto regle)
  return regle

/-- `create_rule`: the rule is created, then applied to the transactions that are stored. -/
def createRule (proprietaire : ProprietaireId) (payload : CreateCategorizationRuleRequest) :
    Tache ApiError RegleCategorisation := do
  let labelPattern ← Task.ofExcept
    (valider RegleValidationError.toText (LabelPattern.parse payload.labelPattern))
  creerEtAppliquer crypto
    { proprietaire := proprietaire
      labelPattern := labelPattern
      categoryId := payload.categoryId
      priority := payload.priority.getD 0 }

/-- `create_rule_from_transaction`: the pattern is taken from the label of the transaction. -/
def createRuleFromTransaction (proprietaire : ProprietaireId) (accountId transactionId : Uuid)
    (categoryId : CategoryId) : Tache ApiError RegleCategorisation := do
  let trouve ← ecritureApi
    (BankTransactionsAdapter.libelleTransaction crypto proprietaire accountId transactionId)
  let label ← ouErreur (ApiError.notFound "transaction introuvable") trouve
  let motif := extraireTiers label
  let labelPattern ← Task.ofExcept (valider RegleValidationError.toText (LabelPattern.parse motif))
  creerEtAppliquer crypto
    { proprietaire := proprietaire
      labelPattern := labelPattern
      categoryId := categoryId
      priority := 0 }

/-! ## Transactions -/

/-- `recategoriser_credits`: internal transfers first, then every rule, then the
remaining credits. -/
def recategoriserCredits (proprietaire : ProprietaireId) : Tache ApiError ℕ := do
  let _ ← ecritureApi
    (BankTransactionsAdapter.recalculerTransfertsInternes crypto proprietaire)
  let regles ← lectureApi (Regles.listerPourProprietaire proprietaire)
  let parRegles ← regles.foldlM
    (fun categorisees regle => do
      let n ← ecritureApi (BankTransactionsAdapter.appliquerRegleRetroactif crypto regle)
      return categorisees + n)
    0
  let parDefaut ← ecritureApi (BankTransactionsAdapter.recategoriserCredits crypto proprietaire)
  return parRegles + parDefaut

/-- `categorize_transaction`. -/
def categorizeTransaction (proprietaire : ProprietaireId) (accountId transactionId : Uuid)
    (categoryId : CategoryId) : Tache ApiError TransactionBancaire := do
  match ← ecritureApi (BankTransactionsAdapter.categoriser crypto proprietaire accountId
      transactionId categoryId) with
  | .categorisee transaction => return transaction
  | .transactionIntrouvable => throw (ApiError.notFound "transaction introuvable")
  | .categorieIntrouvable => throw (ApiError.notFound "catégorie introuvable")

/-! ## Categories -/

/-- `parse_name`. -/
def parseName (value : String) : Except ApiError CategoryName :=
  valider CategoryValidationError.toText (CategoryName.parse value)

/-- `parse_kind`. -/
def parseKind (value : String) : Except ApiError CategoryKind :=
  match CategoryKind.parse? (Text.trim value) with
  | some kind => .ok kind
  | none => .error (ApiError.validation
      "type de catégorie invalide (revenu ou depense attendu)")

/-- `create_category`: a new category has no transaction. -/
def createCategory (proprietaire : ProprietaireId) (payload : CategoryRequest) :
    Tache ApiError CategorieAvecCompteur := do
  let name ← Task.ofExcept (parseName payload.name)
  let kind ← Task.ofExcept (parseKind payload.kind)
  let categorie ← ecritureApi (Categories.creer
    { proprietaire := proprietaire
      name := name
      kind := kind
      color := couleurOuDefaut payload.color
      icon := iconeOuDefaut payload.icon })
  return ⟨categorie, 0⟩

/-- `update_category`. -/
def updateCategory (proprietaire : ProprietaireId) (categoryId : CategoryId)
    (payload : CategoryRequest) : Tache ApiError CategorieAvecCompteur := do
  let name ← Task.ofExcept (parseName payload.name)
  let kind ← Task.ofExcept (parseKind payload.kind)
  let trouvee ← ecritureApi (Categories.mettreAJour proprietaire categoryId
    { name := name
      kind := kind
      color := couleurOuDefaut payload.color
      icon := iconeOuDefaut payload.icon })
  let categorie ← ouErreur (ApiError.notFound "catégorie introuvable") trouvee
  return ⟨categorie, 0⟩

/-- `delete_category`: a category that is not the owner's is not found. -/
def deleteCategory (proprietaire : ProprietaireId) (categoryId : CategoryId) :
    Tache ApiError PUnit := do
  let supprimee ← ecritureApi (Categories.supprimer proprietaire categoryId)
  if !supprimee then throw (ApiError.notFound "catégorie introuvable")

/-! ## Envelopes -/

/-- The fields of a request that passed the checks of `parse_requete`. -/
def parseRequete (payload : EnveloppeRequest) : Except ApiError MiseAJourEnveloppe := do
  let nom ← valider EnveloppeValidationError.toText (EnveloppeNom.parse payload.nom)
  let montant ←
    valider EnveloppeValidationError.toText (MontantEnveloppe.parse payload.montantCents)
  return {
    nom := nom
    icon := valeurNonVideOu payload.icon defaultEnveloppeIcon
    color := valeurNonVideOu payload.color defaultEnveloppeColor
    montant := montant }

/-- `create_enveloppe`: a new envelope has spent nothing. -/
def createEnveloppe (proprietaire : ProprietaireId) (payload : EnveloppeRequest) :
    Tache ApiError SuiviEnveloppe := do
  let requete ← Task.ofExcept (parseRequete payload)
  let enveloppe ← ecritureApi (Enveloppes.creer
    { proprietaire := proprietaire
      nom := requete.nom
      icon := requete.icon
      color := requete.color
      montant := requete.montant })
  return ⟨enveloppe, 0, 0⟩

/-- `update_enveloppe`. -/
def updateEnveloppe (proprietaire : ProprietaireId) (enveloppeId : EnveloppeId)
    (payload : EnveloppeRequest) : Tache ApiError SuiviEnveloppe := do
  let requete ← Task.ofExcept (parseRequete payload)
  let trouvee ← ecritureApi (Enveloppes.modifier proprietaire enveloppeId requete)
  let enveloppe ← ouErreur (ApiError.notFound "budget introuvable") trouvee
  let suivis ← lectureApi (Enveloppes.lister crypto proprietaire)
  return (suivis.find? fun s => s.enveloppe.id = enveloppe.id).getD ⟨enveloppe, 0, 0⟩

/-- `delete_enveloppe`: an envelope that is not the owner's is not found. -/
def deleteEnveloppe (proprietaire : ProprietaireId) (enveloppeId : EnveloppeId) :
    Tache ApiError PUnit := do
  let supprimee ← ecritureApi (Enveloppes.supprimer proprietaire enveloppeId)
  if !supprimee then throw (ApiError.notFound "budget introuvable")

/-- `affecter_transaction`. -/
def affecterTransaction (proprietaire : ProprietaireId) (transactionId : Uuid)
    (enveloppeId : Option EnveloppeId) : Tache ApiError PUnit := do
  let affectee ← ecritureApi
    (Enveloppes.affecterTransaction proprietaire transactionId enveloppeId)
  if !affectee then throw (ApiError.notFound "transaction ou budget introuvable")

/-! ## Budgets and preferences -/

/-- `upsert_budget`: the amount, the month, then the category are checked. -/
def upsertBudget (proprietaire : ProprietaireId) (payload : UpsertBudgetRequest) :
    Tache ApiError Budget := do
  let montantPrevu ← Task.ofExcept
    (valider BudgetValidationError.toText (MontantPrevu.parse payload.montantCents))
  let mois ← Task.ofExcept (valider BudgetValidationError.toText (MoisBudget.parse payload.mois))
  let enregistre ← ecritureApi (Budgets.enregistrer
    { proprietaire := proprietaire
      categoryId := payload.categoryId
      montantPrevu := montantPrevu
      mois := mois })
  ouErreur (ApiError.notFound "catégorie introuvable") enregistre

/-- `update_preferences`: a day out of the range is refused. -/
def updatePreferences (proprietaire : ProprietaireId) (jourDebutMois : ℕ) :
    Tache ApiError JourDebutMois := do
  match JourDebutMois.nouveau? jourDebutMois with
  | some jour => ecritureApi (Preferences.definirJourDebutMois proprietaire jour)
  | none => throw (ApiError.validation
      "le jour de départ du mois doit être compris entre 1 et 31")

end Handlers

end Budgy
