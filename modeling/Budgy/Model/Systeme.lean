import Budgy.Interface.Execution
import Budgy.Model.Effacement
import Budgy.Model.EnableBanking
import Budgy.Model.Handlers.Lectures

/-!
# The service

Everything that may change the database: the requests of the users, the cycles of
the worker, an observation the worker stores, and the erasure of an owner.  `Lecture`
lists what a user may read.
-/

set_option autoImplicit false

namespace Budgy

open Effects

/-- What the service is configured with. -/
structure Configuration where
  crypto : CryptoService
  bankCallbackUrl : String
  parametres : ParametresSynchro

/-- The operations that write: the handlers, the cycle of the worker, the erasure. -/
inductive Operation where
  | createConsent (proprietaire : ProprietaireId) (bankId : String)
  | completeConsent (proprietaire : ProprietaireId) (payload : ConsentCallbackRequest)
  | renewConsent (proprietaire : ProprietaireId) (consentId : ConsentId)
  | synchroniser
  | enregistrer (nouvelle : NouvelleTransactionBancaire)
  | createRule (proprietaire : ProprietaireId) (payload : CreateCategorizationRuleRequest)
  | createRuleFromTransaction (proprietaire : ProprietaireId) (accountId transactionId : Uuid)
      (categoryId : CategoryId)
  | recategoriserCredits (proprietaire : ProprietaireId)
  | recalculerTransfertsInternes (proprietaire : ProprietaireId)
  | categorizeTransaction (proprietaire : ProprietaireId) (accountId transactionId : Uuid)
      (categoryId : CategoryId)
  | createCategory (proprietaire : ProprietaireId) (payload : CategoryRequest)
  | updateCategory (proprietaire : ProprietaireId) (categoryId : CategoryId)
      (payload : CategoryRequest)
  | deleteCategory (proprietaire : ProprietaireId) (categoryId : CategoryId)
  | createEnveloppe (proprietaire : ProprietaireId) (payload : EnveloppeRequest)
  | updateEnveloppe (proprietaire : ProprietaireId) (enveloppeId : EnveloppeId)
      (payload : EnveloppeRequest)
  | deleteEnveloppe (proprietaire : ProprietaireId) (enveloppeId : EnveloppeId)
  | affecterTransaction (proprietaire : ProprietaireId) (transactionId : Uuid)
      (enveloppeId : Option EnveloppeId)
  | upsertBudget (proprietaire : ProprietaireId) (payload : UpsertBudgetRequest)
  | updatePreferences (proprietaire : ProprietaireId) (jourDebutMois : ℕ)
  | effacerDonneesProprietaire (proprietaire : ProprietaireId)

namespace Operation

/-- What an operation answers. -/
abbrev Reponse : Operation → Type
  | createConsent .. => Except ApiError CreateConsentResponse
  | completeConsent .. => Except ApiError ConsentCompletionDto
  | renewConsent .. => Except ApiError CreateConsentResponse
  | synchroniser => Except SynchroError RapportSynchro
  | enregistrer _ => Except EcritureError (ResultatInsertion TransactionBancaireId)
  | createRule .. => Except ApiError RegleCategorisation
  | createRuleFromTransaction .. => Except ApiError RegleCategorisation
  | recategoriserCredits _ => Except ApiError ℕ
  | recalculerTransfertsInternes _ => Except EcritureError ℕ
  | categorizeTransaction .. => Except ApiError TransactionBancaire
  | createCategory .. => Except ApiError CategorieAvecCompteur
  | updateCategory .. => Except ApiError CategorieAvecCompteur
  | deleteCategory .. => Except ApiError PUnit
  | createEnveloppe .. => Except ApiError SuiviEnveloppe
  | updateEnveloppe .. => Except ApiError SuiviEnveloppe
  | deleteEnveloppe .. => Except ApiError PUnit
  | affecterTransaction .. => Except ApiError PUnit
  | upsertBudget .. => Except ApiError Budget
  | updatePreferences .. => Except ApiError JourDebutMois
  | effacerDonneesProprietaire _ => Except EffacementError RapportEffacement

/-- The program of an operation. -/
def programme (cfg : Configuration) : (o : Operation) → Programme o.Reponse
  | createConsent owner bankId =>
      (Handlers.createConsent cfg.crypto owner cfg.bankCallbackUrl bankId).run
  | completeConsent owner payload => (Handlers.completeConsent cfg.crypto owner payload).run
  | renewConsent owner id =>
      (Handlers.renewConsent cfg.crypto owner cfg.bankCallbackUrl id).run
  | synchroniser => (Synchro.executer cfg.crypto cfg.parametres).run
  | enregistrer nouvelle => (BankTransactionsAdapter.enregistrer cfg.crypto nouvelle).run
  | createRule owner payload => (Handlers.createRule cfg.crypto owner payload).run
  | createRuleFromTransaction owner account transaction category =>
      (Handlers.createRuleFromTransaction cfg.crypto owner account transaction category).run
  | recategoriserCredits owner => (Handlers.recategoriserCredits cfg.crypto owner).run
  | recalculerTransfertsInternes owner =>
      (BankTransactionsAdapter.recalculerTransfertsInternes cfg.crypto owner).run
  | categorizeTransaction owner account transaction category =>
      (Handlers.categorizeTransaction cfg.crypto owner account transaction category).run
  | createCategory owner payload => (Handlers.createCategory owner payload).run
  | updateCategory owner id payload => (Handlers.updateCategory owner id payload).run
  | deleteCategory owner id => (Handlers.deleteCategory owner id).run
  | createEnveloppe owner payload => (Handlers.createEnveloppe owner payload).run
  | updateEnveloppe owner id payload =>
      (Handlers.updateEnveloppe cfg.crypto owner id payload).run
  | deleteEnveloppe owner id => (Handlers.deleteEnveloppe owner id).run
  | affecterTransaction owner transaction enveloppe =>
      (Handlers.affecterTransaction owner transaction enveloppe).run
  | upsertBudget owner payload => (Handlers.upsertBudget owner payload).run
  | updatePreferences owner jour => (Handlers.updatePreferences owner jour).run
  | effacerDonneesProprietaire owner =>
      (Effacement.effacerDonneesProprietaire cfg.crypto owner).run

end Operation

/-- The service, under a configuration. -/
abbrev service (cfg : Configuration) : Service signature :=
  ⟨Operation, Operation.Reponse, Operation.programme cfg⟩

/-- A run of the service: operations one after the other. -/
abbrev Execution (col : Collation) (cfg : Configuration) :=
  Effects.Execution (service cfg) (machine col)

/-- One operation of a run. -/
abbrev Etape (col : Collation) (cfg : Configuration) :=
  Effects.Step (service cfg) (machine col)

/-- A request of a run. -/
abbrev Evenement (col : Collation) := Event (machine col)

/-! ## Reads -/

/-- The pages that only read. -/
inductive Lecture where
  | listAccounts (query : ListQuery)
  | getAccount (accountId : BankAccountId)
  | listAccountTransactions (accountId : BankAccountId) (query : ListQuery)
  | listTransactions (query : TransactionsQuery)
  | getConsolidatedBalance
  | listCategories
  | listEnveloppes
  | listBudgets (mois : String)
  | getPreferences
  | expensesByCategory (month : Option String)
  | remainingBudgets (month : Option String)
  | getForecast (month : Option String)

namespace Lecture

/-- What a page answers. -/
abbrev Reponse : Lecture → Type
  | listAccounts _ => Except ApiError (LectureResultat CompteAvecSolde)
  | getAccount _ => Except ApiError CompteAvecSolde
  | listAccountTransactions .. => Except ApiError (LectureResultat BankTransactionDto)
  | listTransactions _ => Except ApiError (LectureResultat BankTransactionDto)
  | getConsolidatedBalance => Except ApiError SoldeConsolide
  | listCategories => Except ApiError (ListResponse CategorieAvecCompteur)
  | listEnveloppes => Except ApiError (ListResponse SuiviEnveloppe)
  | listBudgets _ => Except ApiError (ListResponse Budget)
  | getPreferences => Except ApiError JourDebutMois
  | expensesByCategory _ => Except ApiError MonthlyExpensesDto
  | remainingBudgets _ => Except ApiError RemainingBudgetDto
  | getForecast _ => Except ApiError ForecastDto

/-- The handler of a page. -/
def programme (crypto : CryptoService) (owner : ProprietaireId) :
    (l : Lecture) → Programme l.Reponse
  | listAccounts query => (Handlers.listAccounts crypto owner query).run
  | getAccount id => (Handlers.getAccount crypto owner id).run
  | listAccountTransactions id query =>
      (Handlers.listAccountTransactions crypto owner id query).run
  | listTransactions query => (Handlers.listTransactions crypto owner query).run
  | getConsolidatedBalance => (Handlers.getConsolidatedBalance crypto owner).run
  | listCategories => (Handlers.listCategories owner).run
  | listEnveloppes => (Handlers.listEnveloppes crypto owner).run
  | listBudgets mois => (Handlers.listBudgets owner mois).run
  | getPreferences => (Handlers.getPreferences owner).run
  | expensesByCategory month => (Handlers.expensesByCategory crypto owner month).run
  | remainingBudgets month => (Handlers.remainingBudgets crypto owner month).run
  | getForecast month => (Handlers.getForecast crypto owner month).run

end Lecture

end Budgy
