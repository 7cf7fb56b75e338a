import Budgy.Model.Handlers.Classement

/-!
# The handlers that read

Accounts, transactions, categories, envelopes, budgets, expenses, what remains to
be spent, the forecast, the consolidated balance and the preferences of one user.
-/

set_option autoImplicit false

namespace Budgy

open Effects

/-! ## Query parameters -/

/-- `DEFAULT_LIMIT`. -/
def defaultLimit : ℕ := 50

/-- `MAX_LIMIT`. -/
def maxLimit : ℕ := 200

/-- `PaginationParams::resolve`. -/
def resoudrePagination (limit offset : Option ℕ) : Except ApiError Tranche :=
  match limit with
  | none => .ok ⟨defaultLimit, offset.getD 0⟩
  | some value =>
      if value = 0 then .error (ApiError.validation "limit doit être supérieur à 0")
      else if maxLimit < value then
        .error (ApiError.validation ("limit ne peut pas dépasser " ++ Text.decimal maxLimit))
      else .ok ⟨value, offset.getD 0⟩

/-- `DateRangeFilter::validate`. -/
def validerPeriode (debut fin : Option NaiveDate) :
    Except ApiError (Option NaiveDate × Option NaiveDate) :=
  match debut, fin with
  | some d, some f =>
      if f < d then .error (ApiError.validation "from doit être antérieur ou égal à to")
      else .ok (debut, fin)
  | _, _ => .ok (debut, fin)

/-- The parameters of a listing of accounts, or of the transactions of one. -/
structure ListQuery where
  limit : Option ℕ
  offset : Option ℕ
  uncategorized : Option Bool
  deriving DecidableEq

/-- `TransactionKindFilter`: the parameter `type`. -/
inductive TransactionKindFilter where
  | credit
  | debit
  deriving DecidableEq

/-- `TransactionSortField`: the parameter `sort`. -/
inductive TransactionSortField where
  | date
  | amount
  deriving DecidableEq

/-- `SortDirection`: the parameter `order`. -/
inductive SortDirection where
  | asc
  | desc
  deriving DecidableEq

/-- The parameters of the listing of all the transactions. -/
structure TransactionsQuery where
  limit : Option ℕ
  offset : Option ℕ
  accountId : Option Uuid
  categoryId : Option Uuid
  debut : Option NaiveDate
  fin : Option NaiveDate
  type : Option TransactionKindFilter
  sort : Option TransactionSortField
  order : Option SortDirection
  deriving DecidableEq

/-- `sens_filtre`. -/
def sensFiltre : Option TransactionKindFilter → Option SensTransaction :=
  Option.map fun
    | .credit => .entree
    | .debit => .sortie

/-- `tri`: by decreasing date unless told otherwise. -/
def tri (sort : Option TransactionSortField) (order : Option SortDirection) : TriTransactions :=
  { champ := match sort.getD .date with
      | .date => .date
      | .amount => .montant
    ordre := match order.getD .desc with
      | .asc => .ascendant
      | .desc => .descendant }

/-- `parse_month`. -/
def parseMonth (valeur : Option String) : Except ApiError Mois :=
  match (valeur.map Text.trim).filter (· ≠ "") with
  | none => .error (ApiError.validation
      "le paramètre month est obligatoire (format YYYY-MM)")
  | some v => valider MoisInvalide.toText (Mois.parse v)

/-! ## Answers -/

/-- A transaction as it is shown: an internal transfer stays listed, and says so. -/
structure BankTransactionDto where
  transaction : TransactionBancaire
  cleanLabel : String
  isInternalTransfer : Bool
  deriving DecidableEq

/-- The loop that marks the internal transfers of a page. -/
def marquerInternes (internes : List Uuid) (elements : List TransactionBancaire) :
    List BankTransactionDto :=
  elements.map fun t => ⟨t, extraireTiers t.label, internes.contains t.id⟩

/-- The breakdown of a month, as the interface returns it. -/
structure MonthlyExpensesDto where
  month : Mois
  repartition : RepartitionDepenses
  deriving DecidableEq

/-- What is left to spend in a month, line by line and in all. -/
structure RemainingBudgetDto where
  month : Mois
  lignes : List ResteCategorie
  montantPrevuCents : ℤ
  depenseCents : ℤ
  resteCents : ℤ
  deriving DecidableEq

/-- `RemainingBudgetDto::depuis`, with the totals of the displayed lines. -/
def RemainingBudgetDto.depuis (mois : Mois) (lignes : List ResteCategorie) :
    RemainingBudgetDto :=
  let totalPrevu := sommeI64 (lignes.map ResteCategorie.montantPrevuCents)
  let totalDepense := sommeI64 (lignes.map ResteCategorie.depenseCents)
  ⟨mois, lignes, totalPrevu, totalDepense, i64 (totalPrevu - totalDepense)⟩

/-- The forecast of a month, as the interface returns it. -/
structure ForecastDto where
  month : Mois
  previsionnel : Previsionnel
  deriving DecidableEq

namespace Handlers

variable (crypto : CryptoService)

/-! ## Accounts and transactions -/

/-- `list_accounts`. -/
def listAccounts (proprietaire : ProprietaireId) (query : ListQuery) :
    Tache ApiError (LectureResultat CompteAvecSolde) := do
  let pagination ← Task.ofExcept (resoudrePagination query.limit query.offset)
  lectureApi (BankAccountsAdapter.listerAvecSolde crypto proprietaire pagination)

/-- `get_account`: an account of somebody else is not found. -/
def getAccount (proprietaire : ProprietaireId) (accountId : BankAccountId) :
    Tache ApiError CompteAvecSolde := do
  let trouve ← lectureApi (BankAccountsAdapter.fetchAvecSolde crypto proprietaire accountId)
  ouErreur (ApiError.notFound "compte introuvable") trouve

/-- `list_account_transactions`: the account is checked before its transactions are listed. -/
def listAccountTransactions (proprietaire : ProprietaireId) (accountId : BankAccountId)
    (query : ListQuery) : Tache ApiError (LectureResultat BankTransactionDto) := do
  let pagination ← Task.ofExcept (resoudrePagination query.limit query.offset)
  let appartient ← lectureApi
    (BankAccountsAdapter.appartientAuProprietaire proprietaire accountId)
  if !appartient then throw (ApiError.notFound "compte introuvable")
  let resultat ← lectureApi (BankTransactionsAdapter.listerParCompte crypto proprietaire accountId
    ⟨query.uncategorized.getD false⟩ pagination)
  let internes ← ecritureApi (BankTransactionsAdapter.idsTransfertsInternes proprietaire)
  return ⟨marquerInternes internes resultat.elements, resultat.total⟩

/-- `list_transactions`. -/
def listTransactions (proprietaire : ProprietaireId) (query : TransactionsQuery) :
    Tache ApiError (LectureResultat BankTransactionDto) := do
  let pagination ← Task.ofExcept (resoudrePagination query.limit query.offset)
  let periode ← Task.ofExcept (validerPeriode query.debut query.fin)
  let resultat ← lectureApi (BankTransactionsAdapter.listerPourProprietaire crypto proprietaire
    { compte := query.accountId
      categorie := query.categoryId
      debut := periode.1
      fin := periode.2
      sens := sensFiltre query.type }
    (tri query.sort query.order) pagination)
  let internes ← ecritureApi (BankTransactionsAdapter.idsTransfertsInternes proprietaire)
  return ⟨marquerInternes internes resultat.elements, resultat.total⟩

/-- `get_consolidated_balance`. -/
def getConsolidatedBalance (proprietaire : ProprietaireId) : Tache ApiError SoldeConsolide := do
  let comptes ← lectureApi (BankAccountsAdapter.listerSoldes crypto proprietaire)
  return SoldeConsolide.consolider comptes

/-! ## Categories, envelopes, budgets, preferences -/

/-- `list_categories`. -/
def listCategories (proprietaire : ProprietaireId) :
    Tache ApiError (ListResponse CategorieAvecCompteur) := do
  let categories ← lectureApi (Categories.listerPourProprietaire proprietaire)
  return .nouveau categories

/-- `list_enveloppes`. -/
def listEnveloppes (proprietaire : ProprietaireId) :
    Tache ApiError (ListResponse SuiviEnveloppe) := do
  let enveloppes ← lectureApi (Enveloppes.lister crypto proprietaire)
  return .nouveau enveloppes

/-- `list_budgets`. -/
def listBudgets (proprietaire : ProprietaireId) (mois : String) :
    Tache ApiError (ListResponse Budget) := do
  let mois ← Task.ofExcept (valider BudgetValidationError.toText (MoisBudget.parse mois))
  let budgets ← lectureApi (Budgets.listerParMois proprietaire mois.premierJour)
  return .nouveau budgets

/-- `get_preferences`. -/
def getPreferences (proprietaire : ProprietaireId) : Tache ApiError JourDebutMois :=
  lectureApi (Preferences.jourDebutMois proprietaire)

/-! ## Cycles -/

/-- `cycle_du_mois`. -/
def cycleDuMois (proprietaire : ProprietaireId) (mois : Mois) : Tache ApiError CycleMensuel := do
  let jour ← lectureApi (Preferences.jourDebutMois proprietaire)
  return ⟨mois, jour⟩

/-- `categories_par_id` of `handlers/commun.rs`. -/
def categoriesParId (proprietaire : ProprietaireId) :
    Tache ApiError (HashMap Uuid Category) := do
  let categories ← lectureApi (Categories.listerPourProprietaire proprietaire)
  return .collect (categories.map fun item => (item.category.id, item.category))

/-- The `n` cycles before a cycle, the nearest first. -/
def cyclesPrecedents : ℕ → CycleMensuel → List CycleMensuel
  | 0, _ => []
  | n + 1, cycle => cycle.precedent :: cyclesPrecedents n cycle.precedent

/-- `expenses_by_category`. -/
def expensesByCategory (proprietaire : ProprietaireId) (month : Option String) :
    Tache ApiError MonthlyExpensesDto := do
  let mois ← Task.ofExcept (parseMonth month)
  let cycle ← cycleDuMois proprietaire mois
  let repartition ← lectureApi
    (Depenses.repartitionMensuelleParCategorie crypto proprietaire cycle)
  return ⟨mois, repartition⟩

/-- `remaining_budgets`: the budgets of the month, else the medians of the cycles before. -/
def remainingBudgets (proprietaire : ProprietaireId) (month : Option String) :
    Tache ApiError RemainingBudgetDto := do
  let mois ← Task.ofExcept (parseMonth month)
  let cycle ← cycleDuMois proprietaire mois
  let budgets ← lectureApi (Budgets.listerParMois proprietaire mois.premierJour)
  let depenses ← lectureApi
    (Depenses.repartitionMensuelleParCategorie crypto proprietaire cycle)
  let historique ← (cyclesPrecedents moisHistorique cycle).mapM fun precedent =>
    lectureApi (Depenses.repartitionMensuelleParCategorie crypto proprietaire precedent)
  let categories ← categoriesParId proprietaire
  let lignes :=
    if budgets = [] then calculerResteADepenserPredit historique depenses categories
    else calculerResteADepenser budgets depenses categories
  return RemainingBudgetDto.depuis mois lignes

/-- `get_forecast`: the balance, the medians of the cycles before and what is realised already. -/
def getForecast (proprietaire : ProprietaireId) (month : Option String) :
    Tache ApiError ForecastDto := do
  let mois ← Task.ofExcept (parseMonth month)
  let cycle ← cycleDuMois proprietaire mois
  let comptes ← lectureApi (BankAccountsAdapter.listerSoldes crypto proprietaire)
  let soldeActuelCents := (SoldeConsolide.consolider comptes).totalCents
  let depensesRealisees ← lectureApi
    (Depenses.repartitionMensuelleParCategorie crypto proprietaire cycle)
  let revenusRealises ← lectureApi
    (Depenses.repartitionMensuelleRevenusParCategorie crypto proprietaire cycle)
  let historique ← (cyclesPrecedents moisHistorique cycle).mapM fun precedent => do
    let depenses ← lectureApi
      (Depenses.repartitionMensuelleParCategorie crypto proprietaire precedent)
    let revenus ← lectureApi
      (Depenses.repartitionMensuelleRevenusParCategorie crypto proprietaire precedent)
    return (depenses, revenus)
  let categories ← categoriesParId proprietaire
  let estRevenu := estCategorieDeRevenu categories
  let depensesPrevues :=
    (medianesParCategorie (historique.map Prod.fst)).filtrer fun id => !estRevenu id
  let revenusPrevus := (medianesParCategorie (historique.map Prod.snd)).filtrer estRevenu
  return ⟨mois, calculerPrevisionnel soldeActuelCents depensesPrevues revenusPrevus
    depensesRealisees revenusRealises categories⟩

end Handlers

end Budgy
