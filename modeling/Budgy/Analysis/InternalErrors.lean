import Budgy.Analysis.PageRequests
import Budgy.Analysis.RepositoryOutcomes
import Budgy.Analysis.Scenarios

/-!
# Internal errors

No row that a run stored ever makes an operation or a page fail.  An internal error is the
failure of a statement, or of a call to the bank, of the very operation that answers it.
-/

set_option autoImplicit false

namespace Budgy

open Effects Relational

/-! ## Requests of the users -/

/-- The request is refused: the service did not fail. -/
def ApiError.Refus (e : ApiError) : Prop := e.code ≠ .internal

section Handlers

variable {col : Collation} {crypto : CryptoService} {owner : ProprietaireId}

/-- A read of the interface fails when its statement does. -/
theorem meets_lectureApi {α : Type} {Q : α → Prop} {x : Tache LectureError α}
    (h : ∀ AL : LectureError → Prop, Meets (contrat col crypto) AL Q x) :
    Meets (contrat col crypto) ApiError.Refus Q (lectureApi x) :=
  Meets.mapError (h _)

/-- A write of the interface fails when its statement does. -/
theorem meets_ecritureApi {α : Type} {Q : α → Prop} {x : Tache EcritureError α}
    (h : ∀ AE : EcritureError → Prop, Meets (contrat col crypto) AE Q x) :
    Meets (contrat col crypto) ApiError.Refus Q (ecritureApi x) :=
  Meets.mapError (h _)

/-- A statement of the tables of classification. -/
theorem meets_classement {r : RequeteClassement} :
    Meets (contrat col crypto) ApiError.Refus (fun _ => True)
      (ecritureApi ((interroger (.classement r)).mapError ecritureSql)) :=
  Meets.mapError (Meets.mapError (Meets.forget (meets_interroger trivial)))

/-- An invalid parameter is refused. -/
theorem refus_of_valider {α ε : Type} {texte : ε → String} {r : Except ε α} {e : ApiError}
    (h : valider texte r = .error e) : e.Refus := by
  cases r with
  | ok a => cases h
  | error cause =>
      obtain rfl : ApiError.validation (texte cause) = e := Except.error.inj h
      exact nofun

/-- So is it in a handler. -/
theorem meets_valider {α ε : Type} {texte : ε → String} {r : Except ε α} :
    Meets (contrat col crypto) ApiError.Refus (fun _ => True)
      (Task.ofExcept (valider texte r)) :=
  meets_ofExcept (fun _ _ => trivial) fun _ => refus_of_valider

/-- What is not found is refused. -/
theorem meets_introuvable {α : Type} {message : String} {v : Option α} :
    Meets (contrat col crypto) ApiError.Refus (fun _ => True)
      (ouErreur (ApiError.notFound message) v) :=
  Meets.forget (meets_ouErreur nofun)

/-- `create_consent` ends in an internal error only when a statement fails. -/
theorem meets_createConsent (hfiable : crypto.Fiable) {url bankId : String} :
    Meets (contrat col crypto) ApiError.Refus (fun _ => True)
      (Handlers.createConsent crypto owner url bankId) := by
  unfold Handlers.createConsent
  dsimp only
  split
  · exact meets_throw nofun
  · refine Meets.bind (meets_ofProg (uses_demander trivial)) ?_
    intro id _
    apply Meets.bind meets_banqueApi
    intro initie _
    apply Meets.bind (meets_ecritureApi fun _ => meets_enregistrerInitie hfiable)
    intro _ _
    exact meets_pure trivial

/-- So does `completion_existante`. -/
theorem meets_completionExistante (hfiable : crypto.Fiable) {id : ConsentId}
    {statut : ConsentStatus} :
    Meets (contrat col crypto) ApiError.Refus (fun _ => True)
      (Handlers.completionExistante crypto owner id statut) := by
  apply Meets.bind (meets_lectureApi fun _ => meets_listerParConsent hfiable)
  intro _ _
  exact meets_pure trivial

/-- So does attaching the accounts of the callback. -/
theorem meets_rattacherComptes (hfiable : crypto.Fiable) {id : ConsentId} {actif : Consent} :
    Meets (contrat col crypto) ApiError.Refus (fun _ => True)
      (Handlers.rattacherComptes crypto owner id actif) := by
  apply Meets.bind meets_banqueApi
  intro comptes _
  refine Meets.bind (Meets.forM fun compte _ => ?_) ?_
  · apply Meets.bind (meets_ecritureApi fun _ => meets_proprietaireConcurrent)
    rintro (_ | autre) _
    · exact meets_pure trivial
    · apply Meets.bind (meets_ecritureApi fun _ => meets_marquerStatut)
      intro _ _
      exact meets_throw nofun
  · intro _ _
    refine Meets.bind (Meets.forM fun compte _ => ?_) ?_
    · apply Meets.bind (meets_ecritureApi fun _ => meets_enregistrerCompteBancaire hfiable)
      intro _ _
      exact meets_pure trivial
    · intro _ _
      apply Meets.bind (meets_lectureApi fun _ => meets_listerParConsent hfiable)
      intro _ _
      exact meets_pure trivial

/-- The bank refuses the code: its failure explains the error of the answer. -/
theorem meets_completerConsentEnAttente (hfiable : crypto.Fiable) {id : ConsentId}
    {payload : ConsentCallbackRequest} :
    Meets (contrat col crypto) ApiError.Refus (fun _ => True)
      (Handlers.completerConsentEnAttente crypto owner id payload) := by
  apply Meets.attempt_bind meets_appelerBanque
  · intro actif _
    apply Meets.bind (meets_ecritureApi fun _ => meets_mettreAJour hfiable)
    intro _ _
    exact meets_rattacherComptes hfiable
  · intro erreur
    refine Meets.bind (Q := fun _ => True) ?_ fun _ _ => meets_throw trivial
    apply Meets.attempt_bind meets_marquerStatut
    · intro _ _
      exact meets_pure trivial
    · intro _
      exact meets_pure trivial

/-- So does `complete_consent`. -/
theorem meets_completeConsent (hfiable : crypto.Fiable) {payload : ConsentCallbackRequest} :
    Meets (contrat col crypto) ApiError.Refus (fun _ => True)
      (Handlers.completeConsent crypto owner payload) := by
  refine Meets.bind (Q := fun _ => True) ?_ ?_
  · unfold Handlers.parseConsentId
    split
    · exact meets_pure trivial
    · exact meets_throw nofun
  · intro id _
    apply Meets.bind (meets_lectureApi fun _ => meets_fetchPourProprietaire hfiable)
    intro existant _
    apply Meets.bind meets_introuvable
    intro consent _
    split
    · exact meets_completionExistante hfiable
    · exact meets_completerConsentEnAttente hfiable

/-- So does `renew_consent`. -/
theorem meets_renewConsent (hfiable : crypto.Fiable) {url : String} {id : ConsentId} :
    Meets (contrat col crypto) ApiError.Refus (fun _ => True)
      (Handlers.renewConsent crypto owner url id) := by
  refine Meets.bind (Q := fun _ => True) ?_ ?_
  · apply Meets.bind (meets_lectureApi fun _ => meets_fetchPourProprietaire hfiable)
    intro existant _
    apply Meets.bind meets_introuvable
    intro consent _
    refine Meets.bind (meets_ofProg (uses_demander trivial)) ?_
    intro maintenant _
    split
    · exact meets_throw nofun
    · exact meets_pure trivial
  · intro consent _
    refine Meets.bind (Meets.forget (meets_ouErreur nofun)) ?_
    intro etablissement _
    apply Meets.bind meets_banqueApi
    intro initie _
    apply Meets.bind (meets_ecritureApi fun _ => meets_mettreAJour hfiable)
    intro _ _
    exact meets_pure trivial

/-- The retroactive batch may fail: nothing of it is answered. -/
theorem meets_creerEtAppliquer (hfiable : crypto.Fiable) {nouvelle : NouvelleRegleCategorisation} :
    Meets (contrat col crypto) ApiError.Refus (fun _ => True)
      (Handlers.creerEtAppliquer crypto nouvelle) := by
  apply Meets.bind (meets_ecritureApi fun _ => meets_creerRegle)
  intro creee _
  apply Meets.bind meets_introuvable
  intro regle _
  apply Meets.attempt_bind (meets_appliquerRegleRetroactif hfiable)
  · intro _ _
    exact meets_pure trivial
  · intro _
    exact meets_pure trivial

/-- So does `create_rule`. -/
theorem meets_createRule (hfiable : crypto.Fiable) {payload : CreateCategorizationRuleRequest} :
    Meets (contrat col crypto) ApiError.Refus (fun _ => True)
      (Handlers.createRule crypto owner payload) := by
  apply Meets.bind meets_valider
  intro _ _
  exact meets_creerEtAppliquer hfiable

/-- So does `create_rule_from_transaction`. -/
theorem meets_createRuleFromTransaction (hfiable : crypto.Fiable) {compte transaction : Uuid}
    {category : CategoryId} :
    Meets (contrat col crypto) ApiError.Refus (fun _ => True)
      (Handlers.createRuleFromTransaction crypto owner compte transaction category) := by
  apply Meets.bind (meets_ecritureApi fun _ => meets_libelleTransaction hfiable)
  intro trouve _
  apply Meets.bind meets_introuvable
  intro label _
  apply Meets.bind meets_valider
  intro _ _
  exact meets_creerEtAppliquer hfiable

/-- So does `recategoriser_credits`. -/
theorem meets_recategoriserCredits (hfiable : crypto.Fiable) :
    Meets (contrat col crypto) ApiError.Refus (fun _ => True)
      (Handlers.recategoriserCredits crypto owner) := by
  apply Meets.bind (meets_ecritureApi fun _ => meets_recalculerTransfertsInternes hfiable)
  intro _ _
  apply Meets.bind (meets_lectureApi fun _ => meets_listerRegles)
  intro regles _
  refine Meets.bind (Meets.foldlM (Q := fun _ => True) trivial ?_) ?_
  · intro categorisees regle _ _
    apply Meets.bind (meets_ecritureApi fun _ => meets_appliquerRegleRetroactif hfiable)
    intro _ _
    exact meets_pure trivial
  · intro parRegles _
    apply Meets.bind (meets_ecritureApi fun _ => meets_recategoriserCreditsAdapter hfiable)
    intro _ _
    exact meets_pure trivial

/-- So does `categorize_transaction`. -/
theorem meets_categorizeTransaction (hfiable : crypto.Fiable) {compte transaction : Uuid}
    {category : CategoryId} :
    Meets (contrat col crypto) ApiError.Refus (fun _ => True)
      (Handlers.categorizeTransaction crypto owner compte transaction category) := by
  apply Meets.bind (meets_ecritureApi fun _ => meets_categoriser hfiable)
  rintro (t | _ | _) _
  · exact meets_pure trivial
  · exact meets_throw nofun
  · exact meets_throw nofun

/-- An unknown kind is refused. -/
theorem meets_parseKind {valeur : String} :
    Meets (contrat col crypto) ApiError.Refus (fun _ => True)
      (Task.ofExcept (Handlers.parseKind valeur)) := by
  unfold Handlers.parseKind
  split
  · exact meets_pure trivial
  · exact meets_throw nofun

/-- `create_category` ends in an internal error only when a statement fails. -/
theorem meets_createCategory {payload : CategoryRequest} :
    Meets (contrat col crypto) ApiError.Refus (fun _ => True)
      (Handlers.createCategory owner payload) := by
  apply Meets.bind meets_valider
  intro name _
  apply Meets.bind meets_parseKind
  intro kind _
  apply Meets.bind meets_classement
  intro _ _
  exact meets_pure trivial

/-- So does `update_category`. -/
theorem meets_updateCategory {id : CategoryId} {payload : CategoryRequest} :
    Meets (contrat col crypto) ApiError.Refus (fun _ => True)
      (Handlers.updateCategory owner id payload) := by
  apply Meets.bind meets_valider
  intro name _
  apply Meets.bind meets_parseKind
  intro kind _
  apply Meets.bind meets_classement
  intro trouvee _
  apply Meets.bind meets_introuvable
  intro _ _
  exact meets_pure trivial

/-- A deletion or an assignment that touches no row is refused. -/
theorem meets_touche {r : RequeteClassement} {f : r.Reponse → Bool} {message : String} :
    Meets (contrat col crypto) ApiError.Refus (fun _ => True)
      (do
        let touche ← ecritureApi (do
          let lignes ← (interroger (.classement r)).mapError ecritureSql
          return f lignes)
        if !touche then throw (ApiError.notFound message)) := by
  refine Meets.bind (Q := fun _ => True) (meets_ecritureApi fun _ => ?_) ?_
  · refine Meets.bind (Meets.mapError (meets_interroger trivial)) ?_
    intro _ _
    exact meets_pure trivial
  · intro touche _
    split
    · exact meets_throw nofun
    · exact meets_pure trivial

/-- An invalid envelope is refused. -/
theorem meets_parseRequete {payload : EnveloppeRequest} :
    Meets (contrat col crypto) ApiError.Refus (fun _ => True)
      (Task.ofExcept (Handlers.parseRequete payload)) := by
  refine meets_ofExcept (fun _ _ => trivial) ?_
  intro e he
  unfold Handlers.parseRequete at he
  cases hnom : valider EnveloppeValidationError.toText (EnveloppeNom.parse payload.nom) with
  | error e' =>
      rw [hnom] at he
      obtain rfl : e' = e := Except.error.inj he
      exact refus_of_valider hnom
  | ok nom =>
      rw [hnom] at he
      cases hmontant : valider EnveloppeValidationError.toText
          (MontantEnveloppe.parse payload.montantCents) with
      | error e' =>
          rw [hmontant] at he
          obtain rfl : e' = e := Except.error.inj he
          exact refus_of_valider hmontant
      | ok montant =>
          rw [hmontant] at he
          cases he

/-- `create_enveloppe` ends in an internal error only when a statement fails. -/
theorem meets_createEnveloppe {payload : EnveloppeRequest} :
    Meets (contrat col crypto) ApiError.Refus (fun _ => True)
      (Handlers.createEnveloppe owner payload) := by
  apply Meets.bind meets_parseRequete
  intro requete _
  apply Meets.bind meets_classement
  intro _ _
  exact meets_pure trivial

/-- So does `update_enveloppe`. -/
theorem meets_updateEnveloppe (hfiable : crypto.Fiable) {id : EnveloppeId}
    {payload : EnveloppeRequest} :
    Meets (contrat col crypto) ApiError.Refus (fun _ => True)
      (Handlers.updateEnveloppe crypto owner id payload) := by
  apply Meets.bind meets_parseRequete
  intro requete _
  apply Meets.bind meets_classement
  intro trouvee _
  apply Meets.bind meets_introuvable
  intro enveloppe _
  apply Meets.bind (meets_lectureApi fun _ => meets_listerEnveloppesSuivies hfiable)
  intro _ _
  exact meets_pure trivial

/-- So does `upsert_budget`. -/
theorem meets_upsertBudget {payload : UpsertBudgetRequest} :
    Meets (contrat col crypto) ApiError.Refus (fun _ => True)
      (Handlers.upsertBudget owner payload) := by
  apply Meets.bind meets_valider
  intro montant _
  apply Meets.bind meets_valider
  intro mois _
  apply Meets.bind meets_classement
  intro _ _
  exact meets_introuvable

/-- So does `update_preferences`. -/
theorem meets_updatePreferences {jour : ℕ} :
    Meets (contrat col crypto) ApiError.Refus (fun _ => True)
      (Handlers.updatePreferences owner jour) := by
  unfold Handlers.updatePreferences
  split
  · apply meets_ecritureApi
    intro _
    refine Meets.bind (Meets.mapError (meets_interroger trivial)) ?_
    intro _ _
    exact meets_pure trivial
  · exact meets_throw nofun

/-! ### Pages -/

/-- A page out of bounds is refused. -/
theorem meets_pagination {limit offset : Option ℕ} :
    Meets (contrat col crypto) ApiError.Refus (fun _ => True)
      (Task.ofExcept (resoudrePagination limit offset)) := by
  unfold resoudrePagination
  split
  · exact meets_pure trivial
  · split
    · exact meets_throw nofun
    · split
      · exact meets_throw nofun
      · exact meets_pure trivial

/-- A period that ends before it starts is refused. -/
theorem meets_periode {debut fin : Option NaiveDate} :
    Meets (contrat col crypto) ApiError.Refus (fun _ => True)
      (Task.ofExcept (validerPeriode debut fin)) := by
  unfold validerPeriode
  split
  · split
    · exact meets_throw nofun
    · exact meets_pure trivial
  · exact meets_pure trivial

/-- An invalid month is refused. -/
theorem meets_parseMonth {month : Option String} :
    Meets (contrat col crypto) ApiError.Refus (fun _ => True)
      (Task.ofExcept (parseMonth month)) := by
  unfold parseMonth
  split
  · exact meets_throw nofun
  · exact meets_valider

/-- The cycle of a month needs one statement. -/
theorem meets_cycleDuMois {mois : Mois} :
    Meets (contrat col crypto) ApiError.Refus (fun _ => True)
      (Handlers.cycleDuMois owner mois) := by
  apply Meets.bind (meets_lectureApi fun _ => meets_jourDebutMois)
  intro _ _
  exact meets_pure trivial

/-- The categories need one statement. -/
theorem meets_categoriesParId :
    Meets (contrat col crypto) ApiError.Refus (fun _ => True)
      (Handlers.categoriesParId owner) := by
  apply Meets.bind (meets_lectureApi fun _ => meets_listerCategories)
  intro _ _
  exact meets_pure trivial

/-- `list_account_transactions` ends in an internal error only when a statement fails. -/
theorem meets_listAccountTransactions (hfiable : crypto.Fiable) {compte : BankAccountId}
    {query : ListQuery} :
    Meets (contrat col crypto) ApiError.Refus (fun _ => True)
      (Handlers.listAccountTransactions crypto owner compte query) := by
  apply Meets.bind meets_pagination
  intro pagination _
  apply Meets.bind (meets_lectureApi fun _ => meets_appartientAuProprietaire)
  intro appartient _
  split
  · exact meets_throw nofun
  · apply Meets.bind (meets_lectureApi fun _ => meets_listerParCompte hfiable)
    intro resultat _
    apply Meets.bind (meets_ecritureApi fun _ => meets_idsTransfertsInternes)
    intro _ _
    exact meets_pure trivial

/-- So does `list_transactions`. -/
theorem meets_listTransactions (hfiable : crypto.Fiable) {query : TransactionsQuery} :
    Meets (contrat col crypto) ApiError.Refus (fun _ => True)
      (Handlers.listTransactions crypto owner query) := by
  apply Meets.bind meets_pagination
  intro pagination _
  apply Meets.bind meets_periode
  intro periode _
  apply Meets.bind (meets_lectureApi fun _ => meets_listerPourProprietaire hfiable)
  intro resultat _
  apply Meets.bind (meets_ecritureApi fun _ => meets_idsTransfertsInternes)
  intro _ _
  exact meets_pure trivial

/-- So does `remaining_budgets`. -/
theorem meets_remainingBudgets (hfiable : crypto.Fiable) {month : Option String} :
    Meets (contrat col crypto) ApiError.Refus (fun _ => True)
      (Handlers.remainingBudgets crypto owner month) := by
  apply Meets.bind meets_parseMonth
  intro mois _
  apply Meets.bind meets_cycleDuMois
  intro cycle _
  refine Meets.bind (Q := fun _ => True) (Meets.mapError (Meets.mapError
    (Meets.forget (meets_interroger trivial)))) ?_
  intro budgets _
  apply Meets.bind (meets_lectureApi fun _ => meets_repartition hfiable)
  intro depenses _
  apply Meets.bind (Meets.mapM fun precedent _ =>
    meets_lectureApi fun _ => meets_repartition hfiable)
  intro historique _
  apply Meets.bind meets_categoriesParId
  intro _ _
  exact meets_pure trivial

/-- So does `get_forecast`. -/
theorem meets_getForecast (hfiable : crypto.Fiable) {month : Option String} :
    Meets (contrat col crypto) ApiError.Refus (fun _ => True)
      (Handlers.getForecast crypto owner month) := by
  apply Meets.bind meets_parseMonth
  intro mois _
  apply Meets.bind meets_cycleDuMois
  intro cycle _
  apply Meets.bind (meets_lectureApi fun _ => meets_listerSoldes hfiable)
  intro comptes _
  apply Meets.bind (meets_lectureApi fun _ => meets_repartition hfiable)
  intro depenses _
  apply Meets.bind (meets_lectureApi fun _ => meets_repartition hfiable)
  intro revenus _
  refine Meets.bind (Meets.mapM fun precedent _ => ?_) ?_
  · apply Meets.bind (meets_lectureApi fun _ => meets_repartition hfiable)
    intro _ _
    apply Meets.bind (meets_lectureApi fun _ => meets_repartition hfiable)
    intro _ _
    exact meets_pure trivial
  · intro historique _
    apply Meets.bind meets_categoriesParId
    intro _ _
    exact meets_pure trivial

end Handlers

/-! ## The cycle and the erasure -/

section Cycle

variable {col : Collation} {crypto : CryptoService} {parametres : ParametresSynchro}
  {AS : SynchroError → Prop} {AF : EffacementError → Prop}

/-- Storing a balance whose amount is a machine integer keeps the database readable. -/
theorem keeps_enregistrerSolde (hfiable : crypto.Fiable) {acc : RapportSynchro × RemonteeCompte}
    {solde : Balance} (hsolde : EstI64 solde.amountCents) :
    Keeps (contrat col crypto) (fun _ => True) (Synchro.enregistrerSolde crypto acc solde) := by
  have hstored : EstI64 (versNouvelleBalance solde).amountCents := hsolde
  apply Keeps.bind (Meets.keeps (A := fun _ => True) (meets_enregistrerBalance hfiable hstored))
  rintro (e | id) _ <;> exact keeps_pure trivial

/-- So does storing a transaction. -/
theorem keeps_enregistrerTransaction (hfiable : crypto.Fiable) {compte : BankAccountId}
    {acc : RapportSynchro × RemonteeCompte} {transaction : TransactionBancaire}
    (htransaction : EstI64 transaction.amountCents) :
    Keeps (contrat col crypto) (fun _ => True)
      (Synchro.enregistrerTransaction crypto compte acc transaction) := by
  have hstored : EstI64 (versNouvelleTransaction compte transaction).amountCents := htransaction
  apply Keeps.bind (Meets.keeps (A := fun _ => True) (meets_enregistrer hfiable hstored))
  rintro (e | id | _) _ <;> exact keeps_pure trivial

/-- The amounts that are stored are those that the bank gave. -/
theorem keeps_remonterDonnees (hfiable : crypto.Fiable) {consent : Consent} {compte : BankAccount}
    {rapport : RapportSynchro} :
    Keeps (contrat col crypto) (fun _ => True)
      (Synchro.remonterDonnees crypto parametres consent compte rapport) := by
  apply Keeps.bind (meets_appelerBanque (A := fun _ => True)).keeps_ok
  rintro (e | soldes) hsoldes
  · exact keeps_pure trivial
  · refine Keeps.bind (Keeps.foldlM (Q := fun _ => True) trivial ?_) ?_
    · intro acc solde hsolde _
      exact keeps_enregistrerSolde hfiable (hsoldes soldes rfl solde hsolde)
    · intro acc _
      apply Keeps.bind (meets_appelerBanque (A := fun _ => True)).keeps_ok
      rintro (e | transactions) htransactions
      · exact keeps_pure trivial
      · refine Keeps.bind (Keeps.foldlM (Q := fun _ => True) trivial ?_) ?_
        · intro acc transaction htransaction _
          exact keeps_enregistrerTransaction hfiable
            (htransactions transactions rfl transaction htransaction)
        · intro _ _
          exact keeps_pure trivial

/-- So does the detection of recurrences, whatever comes of it. -/
theorem keeps_recalculerRecurrencesApresInsertion (hfiable : crypto.Fiable)
    {owner : ProprietaireId} {remontee : RemonteeCompte} :
    Keeps (contrat col crypto) (fun _ => True)
      (Synchro.recalculerRecurrencesApresInsertion crypto owner remontee) := by
  unfold Synchro.recalculerRecurrencesApresInsertion
  split
  · apply Keeps.bind (Meets.keeps (A := fun _ => True) (meets_recalculerRecurrences hfiable))
    intro _ _
    exact keeps_pure trivial
  · exact keeps_pure trivial

/-- So does the announcement of a success. -/
theorem keeps_publierSucces {owner : ProprietaireId} {reference : String}
    {remontee : RemonteeCompte} {maintenant : DateTime} :
    Keeps (contrat col crypto) (fun _ => True)
      (Synchro.publierSucces owner reference remontee maintenant) :=
  keeps_of_sansMontant (uses_publierSucces fun _ => trivial)

/-- The failure of the bank ends in a failure only when a statement fails. -/
theorem meets_traiterEchecSource {owner : ProprietaireId} {id : ConsentId}
    {erreur : BankDataSourceError} {maintenant : DateTime} {rapport : RapportSynchro} :
    Meets (contrat col crypto) AS (fun _ => True)
      (Synchro.traiterEchecSource owner id erreur maintenant rapport) := by
  unfold Synchro.traiterEchecSource
  split
  · apply Meets.bind (Meets.mapError meets_marquerStatutConsent)
    intro _ _
    refine Meets.bind (meets_ofProg (uses_demander trivial)) ?_
    intro _ _
    exact meets_pure trivial
  · exact meets_pure trivial

/-- So does the conclusion on an account. -/
theorem meets_conclure (hfiable : crypto.Fiable) {compte : CompteASynchroniser}
    {consent : Consent} {maintenant : DateTime} {rapport : RapportSynchro}
    {issue : Except BankDataSourceError RemonteeCompte} :
    Meets (contrat col crypto) AS (fun _ => True)
      (Synchro.conclure crypto compte consent maintenant rapport issue) := by
  cases issue with
  | error e =>
      refine Meets.bind (meets_ofProg (uses_demander trivial)) ?_
      intro _ _
      exact meets_traiterEchecSource
  | ok remontee =>
      apply Meets.bind (Keeps.ofProg (keeps_recalculerRecurrencesApresInsertion hfiable))
      intro _ _
      apply Meets.bind (Keeps.ofProg keeps_publierSucces)
      intro _ _
      exact meets_pure trivial

/-- So does the synchronisation of an account. -/
theorem meets_synchroniserCompte (hfiable : crypto.Fiable) {maintenant : DateTime}
    {rapport : RapportSynchro} {echeant : CompteEcheant} :
    Meets (contrat col crypto) AS (fun _ => True)
      (Synchro.synchroniserCompte crypto parametres maintenant rapport echeant) := by
  unfold Synchro.synchroniserCompte
  dsimp only
  split
  · apply Meets.bind (Meets.mapError meets_marquerStatutConsent)
    intro _ _
    refine Meets.bind (meets_ofProg (uses_demander trivial)) ?_
    intro _ _
    exact meets_pure trivial
  · apply Meets.bind (Meets.mapError meets_reserverCreneau)
    intro creneau _
    split
    · exact meets_pure trivial
    · refine Meets.bind (meets_ofProg (uses_demander trivial)) ?_
      intro _ _
      refine Meets.bind (Q := fun _ => True)
        (meets_ofProg (uses_publierRenouvellement fun _ => trivial)) ?_
      intro _ _
      apply Meets.bind (Keeps.ofProg (keeps_remonterDonnees hfiable))
      intro _ _
      exact meets_conclure hfiable

/-- So does the cycle. -/
theorem meets_executer (hfiable : crypto.Fiable) :
    Meets (contrat col crypto) AS (fun _ => True) (Synchro.executer crypto parametres) := by
  refine Meets.bind (meets_ofProg (uses_demander trivial)) ?_
  intro maintenant _
  apply Meets.bind (Meets.mapError (meets_listerComptesEcheants hfiable))
  intro echeants _
  refine Meets.foldlM (Q := fun _ => True) trivial ?_
  intro rapport echeant _ _
  exact meets_synchroniserCompte hfiable

/-- So does the erasure. -/
theorem meets_effacer (hfiable : crypto.Fiable) {owner : ProprietaireId} :
    Meets (contrat col crypto) AF (fun _ => True)
      (Effacement.effacerDonneesProprietaire crypto owner) := by
  apply Meets.bind (Meets.mapError (meets_listerActifs hfiable))
  intro actifs _
  refine Meets.bind (Meets.foldlM (Q := fun _ => True) trivial ?_) ?_
  · intro rapport consent _ _
    refine Meets.bind (Q := fun _ => True) (Keeps.ofProg ?_) ?_
    · exact (meets_appelerBanque (A := fun _ => True)).keeps
    · rintro (e | _) _ <;> exact meets_pure trivial
  · intro rapport _
    refine Meets.bind (Q := fun _ => True) (Meets.mapError (Meets.mapError
      (Meets.forget (meets_interrogerChiffre trivial)))) ?_
    intro comptes _
    refine Meets.bind (Q := fun _ => True) (Meets.mapError (Meets.mapError
      (Meets.forget (meets_interrogerChiffre trivial)))) ?_
    intro _ _
    exact meets_pure trivial

end Cycle

/-! ## Runs -/

/-- The answer is an internal error. -/
def Interne {α : Type} (r : Except ApiError α) : Prop := ∃ e, r = .error e ∧ e.code = .internal

/-- The operation neither answers nor refuses. -/
def Operation.Defaille : (o : Operation) → o.Reponse → Prop
  | .synchroniser, r => r.isOk = false
  | .enregistrer _, r => r.isOk = false
  | .recalculerTransfertsInternes _, r => r.isOk = false
  | .effacerDonneesProprietaire _, r => r.isOk = false
  | .createConsent .., r => Interne r
  | .completeConsent .., r => Interne r
  | .renewConsent .., r => Interne r
  | .createRule .., r => Interne r
  | .createRuleFromTransaction .., r => Interne r
  | .recategoriserCredits _, r => Interne r
  | .categorizeTransaction .., r => Interne r
  | .createCategory .., r => Interne r
  | .updateCategory .., r => Interne r
  | .deleteCategory .., r => Interne r
  | .createEnveloppe .., r => Interne r
  | .updateEnveloppe .., r => Interne r
  | .deleteEnveloppe .., r => Interne r
  | .affecterTransaction .., r => Interne r
  | .upsertBudget .., r => Interne r
  | .updatePreferences .., r => Interne r

/-- A page that ends in an internal error. -/
def Lecture.Defaille : (l : Lecture) → l.Reponse → Prop
  | .listAccounts _, r => Interne r
  | .getAccount _, r => Interne r
  | .listAccountTransactions .., r => Interne r
  | .listTransactions _, r => Interne r
  | .getConsolidatedBalance, r => Interne r
  | .listCategories, r => Interne r
  | .listEnveloppes, r => Interne r
  | .listBudgets _, r => Interne r
  | .getPreferences, r => Interne r
  | .expensesByCategory _, r => Interne r
  | .remainingBudgets _, r => Interne r
  | .getForecast _, r => Interne r

/-- The amount of an observation that is stored is a machine integer. -/
def Operation.MontantI64 : Operation → Prop
  | .enregistrer nouvelle => EstI64 nouvelle.amountCents
  | _ => True

section Runs

variable {col : Collation} {cfg : Configuration} {crypto : CryptoService} {s₀ s s' : Store}

/-- Under the contract, the outcome of a task is no internal error of its own. -/
theorem echec_of_interne {α : Type} {x : Tache ApiError α} {t : List (Evenement col)}
    {r : Except ApiError α} (hx : Meets (contrat col crypto) ApiError.Refus (fun _ => True) x)
    (hs : s.Relisible crypto) (hrun : Runs (machine col) x.run s t r s')
    (ht : ∀ e ∈ t, (contrat col crypto).assumes e) :
    s'.Relisible crypto ∧ (Interne r → Echec t) := by
  have hmet := hx s hs hrun ht
  refine ⟨hmet.1, ?_⟩
  rintro ⟨e, rfl, hinterne⟩
  exact hmet.2.resolve_right fun hrefus => hrefus hinterne

/-- An outcome that is not a value is explained by the failure of a statement. -/
theorem echec_of_isOk {ε α : Type} {x : Tache ε α} {t : List (Evenement col)}
    {r : Except ε α} (hx : Meets (contrat col crypto) (fun _ => False) (fun _ => True) x)
    (hs : s.Relisible crypto) (hrun : Runs (machine col) x.run s t r s')
    (ht : ∀ e ∈ t, (contrat col crypto).assumes e) :
    s'.Relisible crypto ∧ (r.isOk = false → Echec t) := by
  have hmet := hx s hs hrun ht
  refine ⟨hmet.1, ?_⟩
  intro hfailed
  cases r with
  | ok a => cases hfailed
  | error e => exact hmet.2.resolve_right id

/-- One operation leaves the database readable, and fails with one of its requests. -/
theorem Etape.relisible {c : Etape col cfg} (hfiable : cfg.crypto.Fiable) (hvalid : c.Valid)
    (hs : c.before.Relisible cfg.crypto) (hmontant : c.call.MontantI64)
    (ht : ∀ e ∈ c.trace, (contrat col cfg.crypto).assumes e) :
    c.after.Relisible cfg.crypto ∧ (c.call.Defaille c.answer → Echec c.trace) := by
  obtain ⟨o, before, t, r, after⟩ := c
  have hrun : Runs (machine col) (o.programme cfg) before t r after := hvalid
  cases o with
  | createConsent owner bankId => exact echec_of_interne (meets_createConsent hfiable) hs hrun ht
  | completeConsent owner payload =>
      exact echec_of_interne (meets_completeConsent hfiable) hs hrun ht
  | renewConsent owner id => exact echec_of_interne (meets_renewConsent hfiable) hs hrun ht
  | synchroniser => exact echec_of_isOk (meets_executer hfiable) hs hrun ht
  | enregistrer nouvelle => exact echec_of_isOk (meets_enregistrer hfiable hmontant) hs hrun ht
  | createRule owner payload => exact echec_of_interne (meets_createRule hfiable) hs hrun ht
  | createRuleFromTransaction owner compte transaction category =>
      exact echec_of_interne (meets_createRuleFromTransaction hfiable) hs hrun ht
  | recategoriserCredits owner =>
      exact echec_of_interne (meets_recategoriserCredits hfiable) hs hrun ht
  | recalculerTransfertsInternes owner =>
      exact echec_of_isOk (meets_recalculerTransfertsInternes hfiable) hs hrun ht
  | categorizeTransaction owner compte transaction category =>
      exact echec_of_interne (meets_categorizeTransaction hfiable) hs hrun ht
  | createCategory owner payload => exact echec_of_interne meets_createCategory hs hrun ht
  | updateCategory owner id payload => exact echec_of_interne meets_updateCategory hs hrun ht
  | deleteCategory owner id => exact echec_of_interne meets_touche hs hrun ht
  | createEnveloppe owner payload => exact echec_of_interne meets_createEnveloppe hs hrun ht
  | updateEnveloppe owner id payload =>
      exact echec_of_interne (meets_updateEnveloppe hfiable) hs hrun ht
  | deleteEnveloppe owner id => exact echec_of_interne meets_touche hs hrun ht
  | affecterTransaction owner transaction enveloppe =>
      exact echec_of_interne meets_touche hs hrun ht
  | upsertBudget owner payload => exact echec_of_interne meets_upsertBudget hs hrun ht
  | updatePreferences owner jour => exact echec_of_interne meets_updatePreferences hs hrun ht
  | effacerDonneesProprietaire owner => exact echec_of_isOk (meets_effacer hfiable) hs hrun ht

/-- So does a page. -/
theorem Lecture.echec {A : ProprietaireId} {l : Lecture} {t : List (Evenement col)}
    {r : l.Reponse} (hfiable : crypto.Fiable) (hs : s.Relisible crypto)
    (hrun : Runs (machine col) (l.programme crypto A) s t r s')
    (ht : ∀ e ∈ t, (contrat col crypto).assumes e) (h : l.Defaille r) : Echec t := by
  cases l with
  | listAccounts query =>
      refine (echec_of_interne ?_ hs hrun ht).2 h
      apply Meets.bind meets_pagination
      intro _ _
      exact meets_lectureApi fun _ => meets_listerAvecSolde hfiable
  | getAccount id =>
      refine (echec_of_interne ?_ hs hrun ht).2 h
      apply Meets.bind (meets_lectureApi fun _ => meets_fetchAvecSolde hfiable)
      intro _ _
      exact meets_introuvable
  | listAccountTransactions id query =>
      exact (echec_of_interne (meets_listAccountTransactions hfiable) hs hrun ht).2 h
  | listTransactions query =>
      exact (echec_of_interne (meets_listTransactions hfiable) hs hrun ht).2 h
  | getConsolidatedBalance =>
      refine (echec_of_interne ?_ hs hrun ht).2 h
      apply Meets.bind (meets_lectureApi fun _ => meets_listerSoldes hfiable)
      intro _ _
      exact meets_pure trivial
  | listCategories =>
      refine (echec_of_interne ?_ hs hrun ht).2 h
      apply Meets.bind (meets_lectureApi fun _ => meets_listerCategories)
      intro _ _
      exact meets_pure trivial
  | listEnveloppes =>
      refine (echec_of_interne ?_ hs hrun ht).2 h
      apply Meets.bind (meets_lectureApi fun _ => meets_listerEnveloppesSuivies hfiable)
      intro _ _
      exact meets_pure trivial
  | listBudgets mois =>
      refine (echec_of_interne ?_ hs hrun ht).2 h
      apply Meets.bind meets_valider
      intro mois _
      refine Meets.bind (Q := fun _ => True) (Meets.mapError (Meets.mapError
        (Meets.forget (meets_interroger trivial)))) ?_
      intro _ _
      exact meets_pure trivial
  | getPreferences =>
      exact (echec_of_interne (meets_lectureApi fun _ => meets_jourDebutMois) hs hrun ht).2 h
  | expensesByCategory month =>
      refine (echec_of_interne ?_ hs hrun ht).2 h
      apply Meets.bind meets_parseMonth
      intro mois _
      apply Meets.bind meets_cycleDuMois
      intro cycle _
      apply Meets.bind (meets_lectureApi fun _ => meets_repartition hfiable)
      intro _ _
      exact meets_pure trivial
  | remainingBudgets month =>
      exact (echec_of_interne (meets_remainingBudgets hfiable) hs hrun ht).2 h
  | getForecast month =>
      exact (echec_of_interne (meets_getForecast hfiable) hs hrun ht).2 h

/-- What the contract assumes of the requests holds in every run. -/
theorem execution_assumes {l : List (Etape col cfg)} (h₀ : s₀.Amorcee)
    (h : Execution col cfg s₀ l s)
    (hmontants : ∀ c ∈ l, ∀ e ∈ c.trace, MontantsI64 e.op e.reply) :
    ∀ c ∈ l, ∀ e ∈ c.trace, (contrat col cfg.crypto).assumes e := by
  have hvide : s₀.ComptesDuTitulaire := by
    intro a ha
    simpa [h₀.bankAccount] using Table.mem_rows.2 ha
  have hcomptes := (h.preserves_events (I := fun s => s.Integre ∧ s.ComptesDuTitulaire)
    ⟨h₀.integre, hvide⟩ ?_).2
  · intro c hc e he
    obtain ⟨hi, htitulaire⟩ := (hcomptes c hc e he).1
    exact ⟨hi, htitulaire, execution_pourUn h c hc e he, hmontants c hc e he⟩
  · rintro c hc e he ⟨hi, htitulaire⟩
    obtain ⟨A, hpour⟩ := execution_pourUn h c hc e he
    have hpour : Op.Pour cfg.crypto Set.univ A e.before e.op := hpour
    refine ⟨hi.after fun id f hop => ?_, ?_⟩
    · rw [hop] at hpour
      exact hpour
    · rcases after_cases e with hsame | ⟨r, x, v, hop, heffet⟩
      · rwa [hsame]
      · rw [hop] at hpour
        exact htitulaire.effet hi heffet hpour

/-- A request that stays inside brings no amount. -/
theorem montantsI64_of_interne {o : Op} (h : o.Interne) (r : o.Reply) : MontantsI64 o r := by
  cases o with
  | banque => exact h.elim
  | sql | publier | nonce | uuidV4 | maintenant => trivial

/-- What the contract assumes holds of a page on the database of a run. -/
theorem page_assumes {A : ProprietaireId} {page : Lecture} {t : List (Evenement col)}
    {r : page.Reponse} (hi : s.Integre) (htitulaire : s.ComptesDuTitulaire)
    (hrun : Runs (machine col) (page.programme crypto A) s t r s') :
    ∀ e ∈ t, (contrat col crypto).assumes e := by
  have hinterne : ∀ e ∈ t, e.op.Interne := hrun.uses (uses_page fun _ => id)
  have hsame := (hrun.preserves (I := fun m => m = s) rfl fun e he hbefore =>
    (after_lecture (hinterne e he).lecture).trans hbefore).2
  intro e he
  have hbefore : e.before = s := (hsame e he).1
  refine ⟨hbefore ▸ hi, hbefore ▸ htitulaire, ⟨A, ?_⟩, ?_⟩
  · exact pour_of_lecture (hinterne e he).lecture
  · exact montantsI64_of_interne (hinterne e he) e.reply

/-- The bank gives machine integers and the cipher opens what it sealed: an operation of a
run, or a page shown after it, only fails when one of its own requests to the database or to
the bank fails. -/
theorem defaillance_expliquee {l : List (Etape col cfg)} (h₀ : s₀.Amorcee)
    (h : Execution col cfg s₀ l s) (hfiable : cfg.crypto.Fiable)
    (hmontants : ∀ c ∈ l, c.call.MontantI64 ∧ ∀ e ∈ c.trace, MontantsI64 e.op e.reply) :
    (∀ c ∈ l, c.call.Defaille c.answer → Echec c.trace) ∧
    ∀ (A : ProprietaireId) (page : Lecture) (t : List (Evenement col)) (r : page.Reponse)
      (s' : Store), Runs (machine col) (page.programme cfg.crypto A) s t r s' →
      page.Defaille r → Echec t := by
  have hassumes := execution_assumes h₀ h fun c hc => (hmontants c hc).2
  have hrelisible := h.preserves (I := fun s => s.Relisible cfg.crypto) h₀.relisible
    fun c hc hvalid hs => (Etape.relisible hfiable hvalid hs (hmontants c hc).1 (hassumes c hc)).1
  constructor
  · intro c hc
    exact (Etape.relisible hfiable (h.valid c hc) (hrelisible.2 c hc).1 (hmontants c hc).1
      (hassumes c hc)).2
  · intro A page t r s' hrun
    exact Lecture.echec hfiable hrelisible.1 hrun
      (page_assumes (execution_integre h₀ h) (execution_comptesDuTitulaire h₀ h) hrun)

end Runs

/-- A bank with one account, one balance and one payment. -/
def unComptePaye : Scenario :=
  { Scenario.unCompte with
    soldes := fun _ => .ok [
      { id := Uuid.fromU128 0, bankAccount := Uuid.fromU128 1012, balanceType := .booked,
        amountCents := 125000, currency := "EUR", referenceDate := 0, createdAt := 0 }]
    transactions := fun _ => .ok [
      { id := Uuid.fromU128 0, bankAccount := Uuid.fromU128 1012, externalTransactionId := "t1",
        status := .booked, label := "CARTE LIDL", amountCents := -4200, currency := "EUR",
        bookingDate := some (Gregorian.Date.ofDays 20635), valueDate := none,
        category := none, enveloppe := none, categorizationSource := .none,
        ruleId := none, isRecurrent := false, recurrenceInterval := none, createdAt := 0 }] }

/-- The account is attached and synchronised. -/
def rattacheEtSynchronise : List Operation :=
  [.createConsent "alice" "banque", .completeConsent "alice" reponseBanque, .synchroniser]

/-- Every operation and every page of that run. -/
theorem defaillance_expliquee_unComptePaye :
    (∀ c ∈ unComptePaye.etapes rattacheEtSynchronise,
      c.call.Defaille c.answer → Echec c.trace) ∧
    ∀ (A : ProprietaireId) (page : Lecture) (t : List (Evenement Scenario.collation))
      (r : page.Reponse) (s' : Store),
      Runs (machine Scenario.collation) (page.programme enClair A)
        (unComptePaye.fin rattacheEtSynchronise) t r s' →
      page.Defaille r → Echec t := by
  refine defaillance_expliquee amorcee_amorcee (unComptePaye.execution _) fiable_enClair ?_
  intro c hc
  constructor
  · have hcall : c.call ∈ rattacheEtSynchronise := by
      rw [← unComptePaye.calls_etapes rattacheEtSynchronise]
      exact List.mem_map_of_mem hc
    simp only [rattacheEtSynchronise, List.mem_cons, List.not_mem_nil, or_false] at hcall
    rcases hcall with h | h | h <;> rw [h] <;> trivial
  · revert c
    decide +kernel

end Budgy
