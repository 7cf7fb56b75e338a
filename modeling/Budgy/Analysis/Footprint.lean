import Budgy.Analysis.Integrity
import Budgy.Analysis.Provenance

/-!
# What an operation may write

The requests of a program are known before it runs: whatever it is answered, an
operation writes by the statements that `Operation.Emet` lists, and by no other.
Nothing is assumed of the database here, so this holds of operations that run side
by side as well.
-/

set_option autoImplicit false

namespace Budgy

open Effects Prog

/-- The statements by which a cycle of the worker writes. -/
inductive EcritCycle (crypto : CryptoService) : Requete → Prop where
  | expirer (id : ConsentId) : EcritCycle crypto (.consent (.marquerStatutConsent id .expired))
  | reserver (compte : BankAccountId) (plan : PlanificationSynchro) (quota : ℤ) :
      EcritCycle crypto (.compte (.reserverCreneau compte plan quota))
  | solde (compte : BankAccountId) (type : BalanceType) (amount : List UInt8) (currency : String)
      (date : DateTime) : EcritCycle crypto (.compte (.insertBalance compte type amount currency date))
  | inserer (l : InsertionTransaction) (externe : String)
      (hdedup : l.dedupKey = dedupKeyTransaction crypto l.bankAccountId externe) :
      EcritCycle crypto (.transaction (.insert l))
  | regle (category regle transaction : Uuid) (owner : ProprietaireId) :
      EcritCycle crypto (.transaction (.appliquerRegle category regle transaction owner))
  | reinitialiserRecurrences (owner : ProprietaireId) :
      EcritCycle crypto (.transaction (.reinitialiserRecurrences owner))
  | marquerRecurrentes (owner : ProprietaireId) (interval : RecurrenceInterval) (ids : List Uuid) :
      EcritCycle crypto (.transaction (.marquerRecurrentes owner interval ids))

/-- The statements by which an operation writes. -/
inductive Operation.Emet (crypto : CryptoService) : Operation → Requete → Prop where
  | insererConsent (owner : ProprietaireId) (bankId : String) (id : Uuid) (blob : List UInt8)
      (etablissement : String) (expiresAt : Option DateTime)
      (hblob : Chiffre crypto owner "consent" "external_ref" blob) :
      Emet crypto (.createConsent owner bankId)
        (.consent (.insertInitie id owner blob etablissement .pending expiresAt))
  | activer (owner : ProprietaireId) (payload : ConsentCallbackRequest) (id : Uuid)
      (hid : Handlers.parseConsentId payload.state = .ok id) (blob : List UInt8)
      (expiresAt : Option DateTime) (hblob : Chiffre crypto owner "consent" "external_ref" blob) :
      Emet crypto (.completeConsent owner payload)
        (.consent (.mettreAJour .active blob expiresAt id owner))
  | echouer (owner : ProprietaireId) (payload : ConsentCallbackRequest) (id : Uuid)
      (hid : Handlers.parseConsentId payload.state = .ok id) :
      Emet crypto (.completeConsent owner payload)
        (.consent (.marquerStatutProprietaire .failed id owner))
  | attacher (owner : ProprietaireId) (payload : ConsentCallbackRequest) (l : InsertionCompte)
      (hid : Handlers.parseConsentId payload.state = .ok l.consentId) (howner : l.owner = owner)
      (hscelle : CompteScelle crypto l) :
      Emet crypto (.completeConsent owner payload) (.compte (.insert l))
  | renouveler (owner : ProprietaireId) (id : ConsentId) (blob : List UInt8)
      (expiresAt : Option DateTime) (hblob : Chiffre crypto owner "consent" "external_ref" blob) :
      Emet crypto (.renewConsent owner id)
        (.consent (.mettreAJour .pending blob expiresAt id owner))
  | cycle (r : Requete) (hr : EcritCycle crypto r) : Emet crypto .synchroniser r
  | inserer (nouvelle : NouvelleTransactionBancaire) (l : InsertionTransaction)
      (hcompte : l.bankAccountId = nouvelle.bankAccount)
      (hdedup : l.dedupKey =
        dedupKeyTransaction crypto nouvelle.bankAccount nouvelle.externalTransactionId) :
      Emet crypto (.enregistrer nouvelle) (.transaction (.insert l))
  | appliquer (nouvelle : NouvelleTransactionBancaire) (category regle transaction : Uuid)
      (owner : ProprietaireId) :
      Emet crypto (.enregistrer nouvelle)
        (.transaction (.appliquerRegle category regle transaction owner))
  | creerRegle (owner : ProprietaireId) (payload : CreateCategorizationRuleRequest)
      (pattern : String) (category : Uuid) (priority : ℤ) :
      Emet crypto (.createRule owner payload)
        (.classement (.creerRegle owner pattern category priority))
  | appliquerRetroactif (owner : ProprietaireId) (payload : CreateCategorizationRuleRequest)
      (category regle : Uuid) (ids : List Uuid) (owner' : ProprietaireId) :
      Emet crypto (.createRule owner payload)
        (.transaction (.appliquerRegleParLot category regle ids owner'))
  | creerRegleDepuis (owner : ProprietaireId) (compte transaction category : Uuid)
      (pattern : String) (priority : ℤ) :
      Emet crypto (.createRuleFromTransaction owner compte transaction category)
        (.classement (.creerRegle owner pattern category priority))
  | appliquerRetroactifDepuis (owner : ProprietaireId) (compte transaction category : Uuid)
      (category' regle : Uuid) (ids : List Uuid) (owner' : ProprietaireId) :
      Emet crypto (.createRuleFromTransaction owner compte transaction category)
        (.transaction (.appliquerRegleParLot category' regle ids owner'))
  | reinitialiserAvant (owner : ProprietaireId) :
      Emet crypto (.recategoriserCredits owner)
        (.transaction (.reinitialiserTransfertsInternes owner))
  | marquerAvant (owner : ProprietaireId) (ids : List Uuid) :
      Emet crypto (.recategoriserCredits owner)
        (.transaction (.marquerTransfertsInternes owner ids))
  | appliquerToutes (owner : ProprietaireId) (category regle : Uuid) (ids : List Uuid)
      (owner' : ProprietaireId) :
      Emet crypto (.recategoriserCredits owner)
        (.transaction (.appliquerRegleParLot category regle ids owner'))
  | appliquerDefaut (owner : ProprietaireId) (category : Uuid) (ids : List Uuid) :
      Emet crypto (.recategoriserCredits owner)
        (.transaction (.appliquerCategorieDefautParLot category ids owner))
  | reinitialiser (owner : ProprietaireId) :
      Emet crypto (.recalculerTransfertsInternes owner)
        (.transaction (.reinitialiserTransfertsInternes owner))
  | marquer (owner : ProprietaireId) (ids : List Uuid) :
      Emet crypto (.recalculerTransfertsInternes owner)
        (.transaction (.marquerTransfertsInternes owner ids))
  | categoriser (owner : ProprietaireId) (compte transaction category : Uuid) :
      Emet crypto (.categorizeTransaction owner compte transaction category)
        (.transaction (.categoriser category transaction compte owner))
  | creerCategorie (owner : ProprietaireId) (payload : CategoryRequest) (name : String)
      (kind : CategoryKind) (color icon : String) :
      Emet crypto (.createCategory owner payload)
        (.classement (.creerCategorie owner name kind color icon))
  | modifierCategorie (owner : ProprietaireId) (id : CategoryId) (payload : CategoryRequest)
      (name : String) (kind : CategoryKind) (color icon : String) :
      Emet crypto (.updateCategory owner id payload)
        (.classement (.mettreAJourCategorie name kind color icon id owner))
  | supprimerCategorie (owner : ProprietaireId) (id : CategoryId) :
      Emet crypto (.deleteCategory owner id) (.classement (.supprimerCategorie id owner))
  | creerEnveloppe (owner : ProprietaireId) (payload : EnveloppeRequest) (nom icon color : String)
      (montant : ℤ) :
      Emet crypto (.createEnveloppe owner payload)
        (.classement (.creerEnveloppe owner nom icon color montant))
  | modifierEnveloppe (owner : ProprietaireId) (id : EnveloppeId) (payload : EnveloppeRequest)
      (nom icon color : String) (montant : ℤ) :
      Emet crypto (.updateEnveloppe owner id payload)
        (.classement (.modifierEnveloppe id owner nom icon color montant))
  | supprimerEnveloppe (owner : ProprietaireId) (id : EnveloppeId) :
      Emet crypto (.deleteEnveloppe owner id) (.classement (.supprimerEnveloppe id owner))
  | affecter (owner : ProprietaireId) (transaction : Uuid) (enveloppe : Option EnveloppeId) :
      Emet crypto (.affecterTransaction owner transaction enveloppe)
        (.classement (.affecterTransaction transaction owner enveloppe))
  | enregistrerBudget (owner : ProprietaireId) (payload : UpsertBudgetRequest) (category : Uuid)
      (montant : ℤ) (mois : NaiveDate) :
      Emet crypto (.upsertBudget owner payload)
        (.classement (.enregistrerBudget owner category montant mois))
  | definirJour (owner : ProprietaireId) (jour : ℕ) (valeur : ℤ) :
      Emet crypto (.updatePreferences owner jour)
        (.classement (.definirJourDebutMois owner valeur))
  | supprimerComptes (owner : ProprietaireId) :
      Emet crypto (.effacerDonneesProprietaire owner) (.compte (.supprimerParProprietaire owner))
  | supprimerConsents (owner : ProprietaireId) :
      Emet crypto (.effacerDonneesProprietaire owner) (.consent (.supprimerParProprietaire owner))

/-! ## The cycle of the worker -/

section Cycle

variable {P : Op → Prop} {crypto : CryptoService} {parametres : ParametresSynchro}
  {maintenant : DateTime}

/-- `marquer_statut_consent` is one statement. -/
theorem uses_marquerStatutConsent {id : ConsentId} {statut : ConsentStatus}
    (h : P (.sql (.consent (.marquerStatutConsent id statut)))) :
    (ConsentsAdapter.marquerStatutConsent id statut).run.Uses P :=
  Uses.run_mapError (Uses.run_bind (uses_interrogerChiffre h) fun _ => uses_pure _)

/-- What is fetched from the bank is stored as balances and transactions. -/
theorem uses_remonterDonnees {consent : Consent} {compte : BankAccount} {rapport : RapportSynchro}
    (hl : ∀ o : Op, o.Interne → P o)
    (hecrit : ∀ r, EcritCycle crypto r → (∀ t ∈ r.ecrit, t = .balance ∨ t = .bankTransaction) →
      (∀ l, r = .transaction (.insert l) → l.bankAccountId = compte.id) → P (.sql r))
    (hsolde : P (.banque (.solde consent compte)))
    (hlister : P (.banque (.listerTransactions consent compte
      (Synchro.depuisPour parametres compte)))) :
    (Synchro.remonterDonnees crypto parametres consent compte rapport).Uses P := by
  refine Uses.bind (uses_appelerBanque hsolde) ?_
  rintro (erreur | soldes)
  · exact uses_pure _
  · refine Uses.bind (Uses.foldlM (fun acc solde _ => ?_) _) fun acc =>
      Uses.bind (uses_appelerBanque hlister) ?_
    · refine Uses.bind (uses_enregistrerBalance hl fun amount =>
        hecrit _ (.solde ..) (by simp) nofun) ?_
      rintro (_ | _) <;> exact uses_pure _
    · rintro (erreur | transactions)
      · exact uses_pure _
      · refine Uses.bind (Uses.foldlM (fun acc transaction _ => ?_) _) fun _ => uses_pure _
        refine Uses.bind (uses_enregistrer hl ?_ fun _ _ _ _ =>
          hecrit _ (.regle ..) (by simp) nofun) ?_
        · intro l hcompte hdedup
          refine hecrit _ (.inserer l transaction.externalTransactionId ?_) (by simp) ?_
          · rw [hcompte]
            exact hdedup
          · rintro l' ⟨⟩
            exact hcompte
        · rintro (_ | _ | _) <;> exact uses_pure _

/-- `recalculer_recurrences_apres_insertion` resets and marks. -/
theorem uses_recalculerRecurrencesApresInsertion {owner : ProprietaireId}
    {remontee : RemonteeCompte} (hl : ∀ o : Op, o.Interne → P o)
    (hr : P (.sql (.transaction (.reinitialiserRecurrences owner))))
    (hm : ∀ interval ids, P (.sql (.transaction (.marquerRecurrentes owner interval ids)))) :
    (Synchro.recalculerRecurrencesApresInsertion crypto owner remontee).Uses P := by
  unfold Synchro.recalculerRecurrencesApresInsertion
  split
  · exact Uses.bind (uses_recalculerRecurrences hl hr hm) fun _ => uses_pure _
  · exact uses_pure _

/-- `publier_succes` only publishes. -/
theorem uses_publierSucces {owner : ProprietaireId} {reference : String}
    {remontee : RemonteeCompte} (h : ∀ ev, P (.publier ev)) :
    (Synchro.publierSucces owner reference remontee maintenant).Uses P := by
  have hevenement : ∀ ev, (publierEvenement ev).Uses P := fun ev => uses_demander (h ev)
  unfold Synchro.publierSucces
  dsimp only
  split
  · exact Uses.bind (hevenement _) fun _ => Uses.bind (hevenement _) fun _ => hevenement _
  · exact Uses.bind (hevenement _) fun _ => hevenement _

/-- Announcing a renewal to come only publishes. -/
theorem uses_publierRenouvellement {owner : ProprietaireId} {consent : Consent}
    (h : ∀ ev, P (.publier ev)) :
    (Synchro.publierRenouvellement parametres owner consent maintenant).Uses P := by
  unfold Synchro.publierRenouvellement
  split
  · exact uses_demander (h _)
  · exact uses_pure _

/-- What ends an account: the status of its consent, and the recurrences of its owner. -/
theorem uses_conclure {compte : CompteASynchroniser} {consent : Consent}
    {rapport : RapportSynchro} {remontee : Except BankDataSourceError RemonteeCompte}
    (hl : ∀ o : Op, o.Interne → P o)
    (hecrit : ∀ r, EcritCycle crypto r → (∀ t ∈ r.ecrit, t = .consent ∨ t = .bankTransaction) →
      (∀ l, r ≠ .transaction (.insert l)) → P (.sql r))
    (hpublier : ∀ ev, P (.publier ev)) :
    (Synchro.conclure crypto compte consent maintenant rapport remontee).run.Uses P := by
  have hevenement : ∀ ev, (publierEvenement ev).Uses P := fun ev => uses_demander (hpublier ev)
  rcases remontee with erreur | remontee
  · refine Uses.run_bind (Uses.run_ofProg (hevenement _)) fun _ => ?_
    unfold Synchro.traiterEchecSource
    split
    · refine Uses.run_bind (Uses.run_mapError
        (uses_marquerStatutConsent (hecrit _ (.expirer _) (by simp) nofun))) fun _ => ?_
      exact Uses.run_bind (Uses.run_ofProg (hevenement _)) fun _ => uses_pure _
    · exact uses_pure _
  · refine Uses.run_bind (Uses.run_ofProg ?_) fun _ =>
      Uses.run_bind (Uses.run_ofProg ?_) fun _ => uses_pure _
    · exact uses_recalculerRecurrencesApresInsertion hl
        (hecrit _ (.reinitialiserRecurrences _) (by simp) nofun)
        fun _ _ => hecrit _ (.marquerRecurrentes ..) (by simp) nofun
    · exact uses_publierSucces hpublier

/-- One account of a cycle: the slot is reserved with the plan of the instant of the cycle,
and the bank is asked about the account as it is seen at that instant. -/
theorem uses_synchroniserCompte {rapport : RapportSynchro} {echeant : CompteEcheant}
    (hl : ∀ o : Op, o.Interne → P o)
    (hecrit : ∀ r, EcritCycle crypto r → .bankAccount ∉ r.ecrit → P (.sql r))
    (hreserver : P (.sql (.compte (.reserverCreneau echeant.compte.id
      (Synchro.planApresSynchro parametres maintenant) parametres.quotaJournalier))))
    (hpublier : ∀ ev, P (.publier ev))
    (hsolde : P (.banque (.solde echeant.consent (vueBankAccount echeant.compte maintenant))))
    (hlister : P (.banque (.listerTransactions echeant.consent
      (vueBankAccount echeant.compte maintenant)
      (Synchro.depuisPour parametres (vueBankAccount echeant.compte maintenant))))) :
    (Synchro.synchroniserCompte crypto parametres maintenant rapport echeant).run.Uses P := by
  have hevenement : ∀ ev, (publierEvenement ev).Uses P := fun ev => uses_demander (hpublier ev)
  unfold Synchro.synchroniserCompte
  dsimp only
  split
  · exact Uses.run_bind (Uses.run_mapError (uses_marquerStatutConsent
      (hecrit _ (.expirer _) (by simp))))
      fun _ => Uses.run_bind (Uses.run_ofProg (hevenement _)) fun _ => uses_pure _
  · refine Uses.run_bind (Uses.run_mapError (Uses.run_mapError (Uses.run_bind
      (uses_interrogerChiffre hreserver) fun _ => uses_pure _))) fun reserve => ?_
    split
    · exact uses_pure _
    · exact Uses.run_bind (Uses.run_ofProg (hevenement _)) fun _ =>
        Uses.run_bind (Uses.run_ofProg (uses_publierRenouvellement hpublier)) fun _ =>
          Uses.run_bind (Uses.run_ofProg (uses_remonterDonnees hl (fun r hr htables _ =>
              hecrit r hr fun h => by rcases htables _ h with h | h <;> cases h) hsolde
              hlister)) fun _ =>
            uses_conclure hl (fun r hr htables _ =>
              hecrit r hr fun h => by rcases htables _ h with h | h <;> cases h) hpublier

end Cycle

/-! ## The operations -/

section Operations

variable {P : Op → Prop} {cfg : Configuration} {crypto : CryptoService} {A : ProprietaireId}

/-- The steps of a reconciliation: the transfers, the batches and the default category. -/
private theorem uses_recategoriser (hl : ∀ o : Op, o.Interne → P o)
    (hr : P (.sql (.transaction (.reinitialiserTransfertsInternes A))))
    (hm : ∀ ids, P (.sql (.transaction (.marquerTransfertsInternes A ids))))
    (hlot : ∀ category regle ids owner,
      P (.sql (.transaction (.appliquerRegleParLot category regle ids owner))))
    (hdefaut : ∀ category ids,
      P (.sql (.transaction (.appliquerCategorieDefautParLot category ids A)))) :
    (Handlers.recategoriserCredits crypto A).run.Uses P := by
  refine Uses.run_bind (Uses.run_mapError (uses_recalculerTransfertsInternes hl hr hm)) fun _ => ?_
  refine Uses.run_bind (Uses.run_mapError (Uses.run_mapError (uses_interroger (hl _ rfl))))
    fun regles => ?_
  refine Uses.run_bind (Uses.run_foldlM (fun n regle _ => ?_) 0) fun n => ?_
  · exact Uses.run_bind (Uses.run_mapError (uses_appliquerRegleRetroactif hl fun _ => hlot ..))
      fun _ => uses_pure _
  · refine Uses.run_bind (Uses.run_mapError (Uses.run_bind (Uses.run_mapError
      (uses_interrogerChiffre (hl _ rfl))) ?_)) fun _ => uses_pure _
    rintro (_ | category)
    · exact uses_pure _
    · refine Uses.run_bind (Uses.run_mapError ?_) fun credits => Uses.run_mapError ?_
      · refine Uses.run_bind (uses_interrogerChiffre (hl _ rfl)) fun rows => ?_
        exact Uses.run_bind uses_ofExcept fun _ => uses_pure _
      · unfold BankTransactions.appliquerCategorieDefautParLot
        split
        · exact uses_pure _
        · exact uses_interrogerChiffre (hdefaut ..)

/-- `categorize_transaction` is a choice by hand and its reading. -/
private theorem uses_categorizeTransaction (hl : ∀ o : Op, o.Interne → P o)
    {compte transaction category : Uuid}
    (h : P (.sql (.transaction (.categoriser category transaction compte A)))) :
    (Handlers.categorizeTransaction crypto A compte transaction category).run.Uses P := by
  refine Uses.run_bind (Uses.run_mapError (Uses.run_mapError ?_)) ?_
  · refine Uses.run_bind (Uses.run_bind (uses_interrogerChiffre (hl _ rfl)) fun _ => uses_pure _) ?_
    rintro (_ | _)
    · exact uses_pure _
    · refine Uses.run_bind (uses_interrogerChiffre h) fun miseAJour => ?_
      split
      · exact uses_pure _
      · refine Uses.run_bind ?_ ?_
        · refine Uses.run_bind (uses_interrogerChiffre (hl _ rfl)) ?_
          rintro (_ | row)
          · exact uses_pure _
          · exact Uses.run_bind uses_ofExcept fun _ => uses_pure _
        · rintro (_ | t) <;> exact uses_pure _
  · rintro (t | _ | _) <;> exact uses_pure _

/-- A rule is created, then its batch is applied. -/
private theorem uses_creerEtAppliquer (hl : ∀ o : Op, o.Interne → P o)
    {nouvelle : NouvelleRegleCategorisation}
    (hcreer : P (.sql (.classement (.creerRegle nouvelle.proprietaire
      nouvelle.labelPattern.asStr nouvelle.categoryId nouvelle.priority))))
    (hlot : ∀ category regle ids owner,
      P (.sql (.transaction (.appliquerRegleParLot category regle ids owner)))) :
    (Handlers.creerEtAppliquer crypto nouvelle).run.Uses P := by
  refine Uses.run_bind (Uses.run_mapError (Uses.run_mapError (uses_interroger hcreer))) fun _ => ?_
  refine Uses.run_bind uses_ouErreur fun regle => ?_
  exact Uses.run_bind (Uses.run_attempt (uses_appliquerRegleRetroactif hl fun _ => hlot ..))
    fun _ => uses_pure _

/-- A write of the interface that is one statement. -/
private theorem uses_ecritureApi {r : Requete} {f : SqlxError → EcritureError} (h : P (.sql r)) :
    (ecritureApi ((interroger r).mapError f)).run.Uses P :=
  Uses.run_mapError (Uses.run_mapError (uses_interroger h))

/-- A deletion that answers whether it found something. -/
private theorem uses_supprimer {r : Requete} {f : SqlxError → EcritureError} {e : ApiError}
    {trouve : r.Reponse → Bool} (h : P (.sql r)) :
    (do
      let trouvee ← ecritureApi (do
        let reponse ← (interroger r).mapError f
        return trouve reponse)
      if !trouvee then throw e : Tache ApiError PUnit).run.Uses P := by
  refine Uses.run_bind (Uses.run_mapError (Uses.run_bind (Uses.run_mapError (uses_interroger h))
    fun _ => uses_pure _)) fun trouvee => ?_
  split <;> exact uses_pure _

/-- Whatever it is answered, an operation reads, talks to the outside world, and writes
by the statements it may emit. -/
theorem uses_programme {o : Operation} (hl : ∀ op : Op, op.ecrit = [] → P op)
    (h : ∀ r, o.Emet cfg.crypto r → P (.sql r)) : (o.programme cfg).Uses P := by
  have hi : ∀ op : Op, op.Interne → P op := fun op hop => hl op hop.lecture
  cases o with
  | createConsent owner bankId =>
      show (Handlers.createConsent cfg.crypto owner cfg.bankCallbackUrl bankId).run.Uses P
      unfold Handlers.createConsent
      dsimp only
      split
      · exact uses_pure _
      · refine Uses.run_bind (Uses.run_ofProg (uses_demander (hl _ rfl))) fun id => ?_
        refine Uses.run_bind (uses_banqueApi (hl _ rfl)) fun initie => ?_
        exact Uses.run_bind (Uses.run_mapError (uses_enregistrerInitie hi fun blob hblob =>
          h _ (.insererConsent _ _ _ _ _ _ hblob))) fun _ => uses_pure _
  | completeConsent owner payload =>
      refine uses_ofExcept_bind fun id hid => ?_
      refine Uses.run_bind (Uses.run_mapError (uses_fetchPourProprietaire hi)) fun existant =>
        Uses.run_bind uses_ouErreur fun consent => ?_
      split
      · exact Uses.run_bind (Uses.run_mapError (uses_listerParConsent hi)) fun _ => uses_pure _
      · refine uses_completerConsentEnAttente hl ?_ ?_ ?_
        · exact fun blob expiresAt hblob => h _ (.activer _ _ _ hid _ _ hblob)
        · exact h _ (.echouer _ _ _ hid)
        · intro l howner hconsent hscelle
          exact h _ (.attacher _ _ _ (hconsent ▸ hid) howner hscelle)
  | renewConsent owner id =>
      refine Uses.run_bind ?_ fun consent => Uses.run_bind uses_ouErreur fun etablissement => ?_
      · refine Uses.run_bind (Uses.run_mapError (uses_fetchPourProprietaire hi))
          fun trouve => Uses.run_bind uses_ouErreur fun consent => ?_
        refine Uses.run_bind (Uses.run_ofProg (uses_demander (hl _ rfl))) fun maintenant => ?_
        split <;> exact uses_pure _
      · refine Uses.run_bind (uses_banqueApi (hl _ rfl)) fun initie => ?_
        exact Uses.run_bind (Uses.run_mapError (uses_mettreAJourConsent hi fun blob hblob =>
          h _ (.renouveler _ _ _ _ hblob))) fun _ => uses_pure _
  | synchroniser =>
      refine Uses.run_bind (Uses.run_ofProg (uses_demander (hl _ rfl))) fun maintenant => ?_
      refine Uses.run_bind (Uses.run_mapError (uses_listerComptesEcheants hi)) fun echeants => ?_
      exact Uses.run_foldlM (fun _ _ _ => uses_synchroniserCompte hi
        (fun r hr _ => h r (.cycle r hr)) (h _ (.cycle _ (.reserver ..))) (fun _ => hl _ rfl)
        (hl _ rfl) (hl _ rfl)) _
  | enregistrer nouvelle =>
      exact uses_enregistrer hi (fun l hcompte hdedup => h _ (.inserer _ l hcompte hdedup))
        fun _ _ _ _ => h _ (.appliquer ..)
  | createRule owner payload =>
      refine Uses.run_bind uses_ofExcept fun pattern => ?_
      exact uses_creerEtAppliquer hi (h _ (.creerRegle ..)) fun _ _ _ _ =>
        h _ (.appliquerRetroactif ..)
  | createRuleFromTransaction owner compte transaction category =>
      refine Uses.run_bind (Uses.run_mapError (uses_libelleTransaction hi)) fun trouve =>
        Uses.run_bind uses_ouErreur fun label => Uses.run_bind uses_ofExcept fun pattern => ?_
      exact uses_creerEtAppliquer hi (h _ (.creerRegleDepuis ..)) fun _ _ _ _ =>
        h _ (.appliquerRetroactifDepuis ..)
  | recategoriserCredits owner =>
      exact uses_recategoriser hi (h _ (.reinitialiserAvant _)) (fun _ => h _ (.marquerAvant ..))
        (fun _ _ _ _ => h _ (.appliquerToutes ..)) fun _ _ => h _ (.appliquerDefaut ..)
  | recalculerTransfertsInternes owner =>
      exact uses_recalculerTransfertsInternes hi (h _ (.reinitialiser _)) fun _ => h _ (.marquer ..)
  | categorizeTransaction owner compte transaction category =>
      exact uses_categorizeTransaction hi (h _ (.categoriser ..))
  | createCategory owner payload =>
      refine Uses.run_bind uses_ofExcept fun name => Uses.run_bind uses_ofExcept fun kind => ?_
      exact Uses.run_bind (uses_ecritureApi (h _ (.creerCategorie ..))) fun _ => uses_pure _
  | updateCategory owner id payload =>
      refine Uses.run_bind uses_ofExcept fun name => Uses.run_bind uses_ofExcept fun kind => ?_
      exact Uses.run_bind (uses_ecritureApi (h _ (.modifierCategorie ..))) fun _ =>
        Uses.run_bind uses_ouErreur fun _ => uses_pure _
  | deleteCategory owner id => exact uses_supprimer (h _ (.supprimerCategorie ..))
  | createEnveloppe owner payload =>
      refine Uses.run_bind uses_ofExcept fun requete => ?_
      exact Uses.run_bind (uses_ecritureApi (h _ (.creerEnveloppe ..))) fun _ => uses_pure _
  | updateEnveloppe owner id payload =>
      refine Uses.run_bind uses_ofExcept fun requete => ?_
      refine Uses.run_bind (uses_ecritureApi (h _ (.modifierEnveloppe ..))) fun _ =>
        Uses.run_bind uses_ouErreur fun enveloppe =>
          Uses.run_bind (Uses.run_mapError ?_) fun _ => uses_pure _
      refine Uses.run_bind (Uses.run_mapError (uses_interroger (hl _ rfl))) fun rows =>
        Uses.run_bind ?_ fun _ => uses_pure _
      exact Uses.run_bind (Uses.run_mapError (uses_interroger (hl _ rfl))) fun rows =>
        Uses.run_bind uses_ofExcept fun _ => uses_pure _
  | deleteEnveloppe owner id => exact uses_supprimer (h _ (.supprimerEnveloppe ..))
  | affecterTransaction owner transaction enveloppe => exact uses_supprimer (h _ (.affecter ..))
  | upsertBudget owner payload =>
      refine Uses.run_bind uses_ofExcept fun montant => Uses.run_bind uses_ofExcept fun mois => ?_
      exact Uses.run_bind (uses_ecritureApi (h _ (.enregistrerBudget ..))) fun _ => uses_ouErreur
  | updatePreferences owner jour =>
      show (Handlers.updatePreferences owner jour).run.Uses P
      unfold Handlers.updatePreferences
      split
      · exact Uses.run_mapError (Uses.run_bind (Uses.run_mapError (uses_interroger
          (h _ (.definirJour ..)))) fun _ => uses_pure _)
      · exact uses_pure _
  | effacerDonneesProprietaire owner =>
      refine Uses.run_bind (Uses.run_mapError (uses_listerActifs hi)) fun actifs =>
        Uses.run_bind (Uses.run_foldlM (fun rapport consent _ => ?_) _) fun rapport => ?_
      · refine Uses.run_bind (Uses.run_attempt (uses_appelerBanque (hl _ rfl))) ?_
        rintro (_ | _) <;> exact uses_pure _
      · refine Uses.run_bind (Uses.run_mapError (Uses.run_mapError
          (uses_interrogerChiffre (h _ (.supprimerComptes _))))) fun _ => ?_
        exact Uses.run_bind (Uses.run_mapError (Uses.run_mapError
          (uses_interrogerChiffre (h _ (.supprimerConsents _))))) fun _ => uses_pure _

end Operations

/-- In a run, the statements that write are among those the operation may emit. -/
theorem Etape.emet {col : Collation} {cfg : Configuration} {c : Etape col cfg} (h : c.Valid)
    {e : Evenement col} (he : e ∈ c.trace) {r : Requete} (hop : e.op = .sql r)
    (hr : r.ecrit ≠ []) : Operation.Emet cfg.crypto c.call r := by
  have huses := Runs.uses h (uses_programme
    (P := fun o : Op => ∀ r, o = .sql r → r.ecrit ≠ [] → Operation.Emet cfg.crypto c.call r)
    ?_ ?_) e he
  · exact huses r hop hr
  · rintro _ hread r rfl hr
    exact absurd hread hr
  · rintro r hr _ ⟨⟩ -
    exact hr

/-- A consent is inserted pending, by a request of its owner. -/
theorem Operation.Emet.createConsent {crypto : CryptoService} {o : Operation} {id : Uuid}
    {owner : ProprietaireId} {blob : List UInt8} {etablissement : String} {status : ConsentStatus}
    {expiresAt : Option DateTime}
    (h : o.Emet crypto
      (.consent (.insertInitie id owner blob etablissement status expiresAt))) :
    (∃ bankId, o = .createConsent owner bankId) ∧ status = .pending := by
  cases h with
  | insererConsent owner bankId => exact ⟨⟨bankId, rfl⟩, rfl⟩
  | cycle r hr => cases hr

/-- The fingerprints that are missing are not the business of an operation. -/
theorem Operation.Emet.sans_poser {crypto : CryptoService} {o : Operation} {r : Requete}
    (h : o.Emet crypto r) (id : Uuid) (f : String) : r ≠ .compte (.poserEmpreinte id f) := by
  rintro rfl
  cases h with
  | cycle r hr => cases hr

/-- Only an erasure deletes accounts and consents. -/
theorem Operation.Emet.sans_suppression {crypto : CryptoService} {o : Operation} {r : Requete}
    (h : o.Emet crypto r) (ho : ∀ owner, o ≠ .effacerDonneesProprietaire owner)
    (owner : ProprietaireId) :
    r ≠ .compte (.supprimerParProprietaire owner) ∧
      r ≠ .consent (.supprimerParProprietaire owner) := by
  constructor
  · rintro rfl
    cases h with
    | cycle r hr => cases hr
    | supprimerComptes => exact ho owner rfl
  · rintro rfl
    cases h with
    | cycle r hr => cases hr
    | supprimerConsents => exact ho owner rfl

/-- In a run, an operation that is no erasure deletes no account and no consent. -/
theorem Etape.sans_suppression {col : Collation} {cfg : Configuration} {c : Etape col cfg}
    (h : c.Valid) (hc : ∀ owner, c.call ≠ .effacerDonneesProprietaire owner) {e : Evenement col}
    (he : e ∈ c.trace) (owner : ProprietaireId) :
    e.op ≠ .sql (.compte (.supprimerParProprietaire owner)) ∧
      e.op ≠ .sql (.consent (.supprimerParProprietaire owner)) := by
  constructor
  · intro hop
    exact ((Etape.emet h he hop (by simp)).sans_suppression hc owner).1 rfl
  · intro hop
    exact ((Etape.emet h he hop (by simp)).sans_suppression hc owner).2 rfl

/-- Every database of a run satisfies the constraints. -/
theorem execution_integre {col : Collation} {cfg : Configuration} {s₀ s : Store}
    {l : List (Etape col cfg)} (h₀ : s₀.Amorcee) (h : Execution col cfg s₀ l s) : s.Integre := by
  refine (h.preserves_events (I := Store.Integre) h₀.integre fun c hc e he hbefore => ?_).1
  refine hbefore.after fun id f hop => ?_
  exact (Etape.emet (h.valid c hc) he hop (by simp)).sans_poser id f rfl

/-- An account belongs to the owner of its consent. -/
def Store.ComptesDuTitulaire (s : Store) : Prop :=
  ∀ a ∈ s.bankAccount, ∀ c ∈ s.consent, c.id = a.consentId → c.ownerId = a.ownerId

/-- A statement made for some owner attaches no account to the consent of another. -/
theorem Store.ComptesDuTitulaire.effet {col : Collation} {crypto : CryptoService}
    {U : Set (List UInt8)} {A : ProprietaireId} {x : ChoixSql} {s s' : Store} {r : Requete}
    {v : r.Reponse} (h : s.ComptesDuTitulaire) (hi : s.Integre)
    (heffet : r.effet col x s = .ok (v, s')) (hpour : r.Pour crypto U A s) :
    s'.ComptesDuTitulaire := by
  intro a ha c hc hid
  have hr : ∀ id f, r ≠ .compte (.poserEmpreinte id f) := by
    rintro id f rfl
    exact hpour
  obtain ⟨c₀, hc₀, hid₀, howner₀⟩ : ∃ c₀ ∈ s.consent, c₀.id = a.consentId ∧
      c₀.ownerId = a.ownerId := by
    rcases compte_effet heffet hr ha with ⟨a₀, ha₀, hmeme⟩ | ⟨l, rfl, rfl, -⟩
    · obtain ⟨c₀, hc₀, hid₀⟩ := hi.compteConsent a₀ ha₀
      exact ⟨c₀, hc₀, hid₀.trans hmeme.consentId.symm,
        (h a₀ ha₀ c₀ hc₀ hid₀).trans hmeme.ownerId.symm⟩
    · obtain ⟨rfl, hconsent, -⟩ := hpour
      exact hconsent
  by_cases hdelete : r = .consent (.supprimerParProprietaire c₀.ownerId)
  · subst hdelete
    obtain ⟨-, rfl⟩ := by simpa [Requete.effet, RequeteConsent.effet] using heffet
    obtain ⟨hc, -⟩ := Relational.Table.mem_delete.1 hc
    rw [Relational.Table.eq_of_key_eq hc hc₀ (hid.trans hid₀.symm), howner₀]
  · obtain ⟨c₁, hc₁, hdevient⟩ := consent_effet_reste heffet hc₀ hdelete
    have hmeme := hdevient.meme
    rw [Relational.Table.eq_of_key_eq hc hc₁ (hid.trans (hid₀.symm.trans hmeme.id.symm)), hmeme.ownerId,
      howner₀]

/-- In every database of a run, an account belongs to the owner of its consent. -/
theorem execution_comptesDuTitulaire {col : Collation} {cfg : Configuration} {s₀ s : Store}
    {l : List (Etape col cfg)} (h₀ : s₀.Amorcee) (h : Execution col cfg s₀ l s) :
    s.ComptesDuTitulaire := by
  have hvide : s₀.ComptesDuTitulaire := fun a ha => by
    have ha : a ∈ s₀.bankAccount.rows := ha
    rw [h₀.bankAccount] at ha
    exact absurd ha List.not_mem_nil
  refine (h.preserves_events (I := fun s => s.Integre ∧ s.ComptesDuTitulaire)
    ⟨h₀.integre, hvide⟩ ?_).1.2
  rintro c hc e he ⟨hi, htitulaire⟩
  refine ⟨hi.after fun id f hop => ?_, ?_⟩
  · exact (Etape.emet (h.valid c hc) he hop (by simp)).sans_poser id f rfl
  · obtain ⟨A, hpour⟩ := execution_pourUn h c hc e he
    have hpour : Op.Pour cfg.crypto Set.univ A e.before e.op := hpour
    rcases after_cases e with hsame | ⟨r, x, v, hop, heffet⟩
    · rwa [hsame]
    · rw [hop] at hpour
      exact htitulaire.effet hi heffet hpour

end Budgy
