import Budgy.Analysis.ReadableAnswers

/-!
# The outcomes of the repositories

On a readable database a function of the repositories only fails with one of its statements:
sealing never fails, nor does the opening of the rows it reads.
-/

set_option autoImplicit false

namespace Budgy

open Effects Relational

section Repositories

variable {col : Collation} {crypto : CryptoService} {AC : ChiffrementError → Prop}
  {AL : LectureError → Prop} {AE : EcritureError → Prop}

/-- A balance is encrypted for the owner of its account. -/
theorem meets_enregistrerBalance (hfiable : crypto.Fiable) {n : NouvelleBalance}
    (hn : EstI64 n.amountCents) :
    Meets (contrat col crypto) AE (fun _ => True) (Balances.enregistrer crypto n) := by
  apply Meets.mapError
  intro s hs
  apply (meetsFrom_ownerDuCompte hs).bind
  intro owner s₁ hs₁ howner
  apply (meetsFrom_chiffrerTexteFrais hfiable hs₁).bind
  rintro blob s₂ hs₂ ⟨rfl, nonce, hblob⟩
  apply MeetsFrom.mapError
  apply meetsFrom_interroger hs₂
  rintro x v s' heffet ⟨hi, -⟩
  refine ⟨hs₂.effet hi heffet ?_, trivial⟩
  intro B hB
  obtain rfl : owner = B := Option.some.inj (howner.symm.trans hB)
  exact ⟨nonce, n.amountCents, hn, hblob⟩

/-- So are the columns of a transaction. -/
theorem meets_insertTransaction (hfiable : crypto.Fiable) {n : NouvelleTransactionBancaire}
    (hn : EstI64 n.amountCents) :
    Meets (contrat col crypto) AC (fun _ => True) (BankTransactions.insert crypto n) := by
  intro s hs
  apply (meetsFrom_ownerDuCompte hs).bind
  intro owner s₁ hs₁ howner
  apply (meetsFrom_chiffrerTexteFrais hfiable hs₁).bind
  rintro externe s₂ hs₂ ⟨rfl, nonce₁, hexterne⟩
  apply (meetsFrom_chiffrerTexteFrais hfiable hs₂).bind
  rintro label s₃ hs₃ ⟨rfl, nonce₂, hlabel⟩
  apply (meetsFrom_chiffrerTexteFrais hfiable hs₃).bind
  rintro montant s₄ hs₄ ⟨rfl, nonce₃, hmontant⟩
  apply MeetsFrom.bind (R := fun _ _ => True)
  · apply MeetsFrom.mapError
    apply meetsFrom_interroger hs₄
    rintro x v s' heffet ⟨hi, -⟩
    refine ⟨hs₄.effet hi heffet ?_, trivial⟩
    intro B hB
    obtain rfl : owner = B := Option.some.inj (howner.symm.trans hB)
    exact ⟨⟨nonce₁, _, hexterne⟩, ⟨nonce₂, _, hlabel⟩, nonce₃, _, hn, hmontant⟩
  · rintro (_ | ⟨id, _ | _⟩) s' hs' _ <;> exact meets_pure trivial s' hs'

/-! ### Consents -/

/-- Consents whose reference is encrypted for their owner are all read. -/
theorem meets_intoConsent (hfiable : crypto.Fiable) {rows : List ConsentRow}
    (h : ∀ c ∈ rows, Chiffre crypto c.ownerId "consent" "external_ref" c.externalRef) :
    Meets (contrat col crypto) AC (fun _ => True)
      (Task.ofExcept (rows.mapM (Consents.intoConsent crypto))) :=
  meets_traverse fun c hc => dechiffrable_intoConsent hfiable (h c hc)

/-- Fetching the consent of an owner fails with the database only. -/
theorem meets_fetchPourProprietaire (hfiable : crypto.Fiable) {owner : ProprietaireId}
    {id : ConsentId} :
    Meets (contrat col crypto) AL (fun _ => True)
      (ConsentsAdapter.fetchPourProprietaire crypto owner id) := by
  apply Meets.mapError
  refine Meets.bind (meets_interrogerChiffre trivial) ?_
  rintro (_ | c) hc
  · exact meets_pure trivial
  · obtain ⟨lu, hlu⟩ := dechiffrable_intoConsent hfiable (hc c rfl)
    simp only [hlu]
    exact meets_pure trivial

/-- So does the listing of the active consents. -/
theorem meets_listerActifs (hfiable : crypto.Fiable) {owner : ProprietaireId} :
    Meets (contrat col crypto) AL (fun _ => True)
      (ConsentsAdapter.listerActifsParProprietaire crypto owner) := by
  apply Meets.mapError
  refine Meets.bind (meets_interrogerChiffre trivial) ?_
  intro rows hrows
  exact meets_intoConsent hfiable hrows

/-- So does the insertion of a consent begun. -/
theorem meets_enregistrerInitie (hfiable : crypto.Fiable) {n : NouveauConsentInitie} :
    Meets (contrat col crypto) AE (fun _ => True) (ConsentsAdapter.enregistrerInitie crypto n) := by
  apply Meets.mapError
  apply Meets.bind (meets_chiffrerTexteFrais hfiable)
  intro blob _
  exact meets_interrogerChiffre trivial

/-- So does the update of a consent. -/
theorem meets_mettreAJour (hfiable : crypto.Fiable) {owner : ProprietaireId} {id : ConsentId}
    {maj : MiseAJourConsent} :
    Meets (contrat col crypto) AE (fun _ => True)
      (ConsentsAdapter.mettreAJour crypto owner id maj) := by
  apply Meets.mapError
  apply Meets.bind (meets_chiffrerTexteFrais hfiable)
  intro blob _
  refine Meets.bind (meets_interrogerChiffre trivial) ?_
  intro _ _
  exact meets_pure trivial

/-- So does marking the status of a consent of an owner. -/
theorem meets_marquerStatut {owner : ProprietaireId} {id : ConsentId} {statut : ConsentStatus} :
    Meets (contrat col crypto) AE (fun _ => True)
      (ConsentsAdapter.marquerStatut owner id statut) := by
  apply Meets.mapError
  refine Meets.bind (meets_interrogerChiffre trivial) ?_
  intro _ _
  exact meets_pure trivial

/-- So does marking the status of a consent found by a cycle. -/
theorem meets_marquerStatutConsent {id : ConsentId} {statut : ConsentStatus} :
    Meets (contrat col crypto) AE (fun _ => True)
      (ConsentsAdapter.marquerStatutConsent id statut) := by
  apply Meets.mapError
  refine Meets.bind (meets_interrogerChiffre trivial) ?_
  intro _ _
  exact meets_pure trivial

/-! ### Accounts -/

/-- Accounts whose identifier is encrypted for their owner are all read. -/
theorem meets_intoBankAccount (hfiable : crypto.Fiable) {rows : List BankAccountRow}
    (h : ∀ a ∈ rows,
      Chiffre crypto a.ownerId "bank_account" "external_account_id" a.externalAccountId) :
    Meets (contrat col crypto) AC (fun _ => True)
      (Task.ofExcept (rows.mapM (BankAccounts.intoBankAccount crypto))) :=
  meets_traverse fun a ha => dechiffrable_intoBankAccount hfiable (h a ha)

/-- Recording an account fails with the database only. -/
theorem meets_enregistrerCompteBancaire (hfiable : crypto.Fiable) {n : NouveauBankAccount} :
    Meets (contrat col crypto) AE (fun _ => True) (BankAccountsAdapter.enregistrer crypto n) := by
  apply Meets.mapError
  apply Meets.bind (meets_chiffrerTexteFrais hfiable)
  intro externe _
  apply Meets.bind (meets_chiffrerTexteFrais hfiable)
  intro iban _
  refine Meets.bind (meets_interrogerChiffre trivial) ?_
  rintro (_ | id) _
  · exact meets_interrogerChiffre trivial
  · exact meets_pure trivial

/-- So does the search for another owner of the account. -/
theorem meets_proprietaireConcurrent {externe : String} {demandeur : ProprietaireId} :
    Meets (contrat col crypto) AE (fun _ => True)
      (BankAccountsAdapter.proprietaireConcurrent crypto externe demandeur) :=
  Meets.mapError (Meets.forget (meets_interrogerChiffre trivial))

/-- So does the listing of the accounts of a consent. -/
theorem meets_listerParConsent (hfiable : crypto.Fiable) {owner : ProprietaireId}
    {id : ConsentId} :
    Meets (contrat col crypto) AL (fun _ => True)
      (BankAccountsAdapter.listerParConsent crypto owner id) := by
  apply Meets.mapError
  refine Meets.bind (meets_interrogerChiffre trivial) ?_
  intro rows hrows
  exact meets_intoBankAccount hfiable hrows

/-- The current balance of an account is read. -/
theorem meets_soldeCourant (hfiable : crypto.Fiable) {compte : BankAccountId} :
    Meets (contrat col crypto) AC (fun _ => True) (BankAccounts.soldeCourant crypto compte) := by
  refine Meets.bind (meets_interrogerChiffre trivial) ?_
  rintro (_ | b) hb
  · exact meets_pure trivial
  · obtain ⟨lu, hlu⟩ := dechiffrable_intoBalance hfiable (hb b rfl)
    simp only [hlu]
    exact meets_pure trivial

/-- So is the balance to come. -/
theorem meets_soldeAVenir (hfiable : crypto.Fiable) {compte : BankAccountId} :
    Meets (contrat col crypto) AC (fun _ => True) (BankAccounts.soldeAVenir crypto compte) := by
  refine Meets.bind (meets_interrogerChiffre trivial) ?_
  rintro (_ | b) hb
  · exact meets_pure trivial
  · obtain ⟨lu, hlu⟩ := dechiffrable_intoBalance hfiable (hb b rfl)
    simp only [hlu]
    exact meets_pure trivial

/-- So is an account with its balance. -/
theorem meets_avecSolde (hfiable : crypto.Fiable) {a : BankAccountRow}
    (ha : Chiffre crypto a.ownerId "bank_account" "external_account_id" a.externalAccountId) :
    Meets (contrat col crypto) AC (fun _ => True) (BankAccounts.avecSolde crypto a) := by
  obtain ⟨lu, hlu⟩ := dechiffrable_intoBankAccount hfiable ha
  unfold BankAccounts.avecSolde
  rw [hlu]
  apply Meets.bind (meets_pure trivial (Q := fun _ => True))
  intro compte _
  apply Meets.bind (meets_soldeCourant hfiable)
  intro _ _
  exact meets_pure trivial

/-- So is an account with its two balances. -/
theorem meets_avecSoldes (hfiable : crypto.Fiable) {a : BankAccountRow}
    (ha : Chiffre crypto a.ownerId "bank_account" "external_account_id" a.externalAccountId) :
    Meets (contrat col crypto) AC (fun _ => True) (BankAccounts.avecSoldes crypto a) := by
  obtain ⟨lu, hlu⟩ := dechiffrable_intoBankAccount hfiable ha
  unfold BankAccounts.avecSoldes
  rw [hlu]
  apply Meets.bind (meets_pure trivial (Q := fun _ => True))
  intro compte _
  apply Meets.bind (meets_soldeCourant hfiable)
  intro _ _
  apply Meets.bind (meets_soldeAVenir hfiable)
  intro _ _
  exact meets_pure trivial

/-- The listing of the accounts with their balances fails with the database only. -/
theorem meets_listerAvecSolde (hfiable : crypto.Fiable) {owner : ProprietaireId}
    {tranche : Tranche} :
    Meets (contrat col crypto) AL (fun _ => True)
      (BankAccountsAdapter.listerAvecSolde crypto owner tranche) := by
  apply Meets.mapError
  refine Meets.bind (meets_interrogerChiffre trivial) ?_
  intro total _
  refine Meets.bind (meets_interrogerChiffre trivial) ?_
  intro rows hrows
  apply Meets.bind (Meets.mapM fun a ha => meets_avecSolde hfiable (hrows a ha))
  intro _ _
  exact meets_pure trivial

/-- So does fetching one of them. -/
theorem meets_fetchAvecSolde (hfiable : crypto.Fiable) {owner : ProprietaireId}
    {compte : BankAccountId} :
    Meets (contrat col crypto) AL (fun _ => True)
      (BankAccountsAdapter.fetchAvecSolde crypto owner compte) := by
  apply Meets.mapError
  refine Meets.bind (meets_interrogerChiffre trivial) ?_
  rintro (_ | a) ha
  · exact meets_pure trivial
  · apply Meets.bind (meets_avecSolde hfiable (ha a rfl))
    intro _ _
    exact meets_pure trivial

/-- So does the listing of the balances. -/
theorem meets_listerSoldes (hfiable : crypto.Fiable) {owner : ProprietaireId} :
    Meets (contrat col crypto) AL (fun _ => True)
      (BankAccountsAdapter.listerSoldes crypto owner) := by
  apply Meets.mapError
  refine Meets.bind (meets_interrogerChiffre trivial) ?_
  intro rows hrows
  exact Meets.mapM fun a ha => meets_avecSoldes hfiable (hrows a ha)

/-- So does the check that an account belongs to an owner. -/
theorem meets_appartientAuProprietaire {owner : ProprietaireId} {compte : BankAccountId} :
    Meets (contrat col crypto) AL (fun _ => True)
      (BankAccountsAdapter.appartientAuProprietaire owner compte) := by
  apply Meets.mapError
  refine Meets.bind (meets_interrogerChiffre trivial) ?_
  intro _ _
  exact meets_pure trivial

/-- So does the listing of the due accounts. -/
theorem meets_listerComptesEcheants (hfiable : crypto.Fiable) {maintenant : DateTime} {quota : ℤ} :
    Meets (contrat col crypto) AL (fun _ => True)
      (BankAccountsAdapter.listerComptesEcheants crypto maintenant quota) := by
  apply Meets.mapError
  refine Meets.bind (meets_interrogerChiffre trivial) ?_
  intro rows hrows
  exact meets_traverse fun e he => dechiffrable_intoCompteEcheant hfiable (hrows e he)

/-- So does the reservation of a slot. -/
theorem meets_reserverCreneau {compte : BankAccountId} {plan : PlanificationSynchro} {quota : ℤ} :
    Meets (contrat col crypto) AE (fun _ => True)
      (BankAccountsAdapter.reserverCreneau compte plan quota) := by
  apply Meets.mapError
  refine Meets.bind (meets_interrogerChiffre trivial) ?_
  intro _ _
  exact meets_pure trivial

/-! ### Transactions -/

/-- Transactions whose columns are encrypted for their owner are all read. -/
theorem meets_intoTransaction (hfiable : crypto.Fiable) {rows : List TransactionAvecOwner}
    (h : ∀ t ∈ rows, t.transaction.Chiffree crypto t.ownerId) :
    Meets (contrat col crypto) AC (fun _ => True)
      (Task.ofExcept (rows.mapM (BankTransactions.intoTransaction crypto))) :=
  meets_traverse fun t ht => dechiffrable_intoTransaction hfiable (h t ht)

/-- The listing of the transactions of an account fails with the database only. -/
theorem meets_listerParCompte (hfiable : crypto.Fiable) {owner : ProprietaireId}
    {compte : BankAccountId} {filtre : FiltreTransactions} {tranche : Tranche} :
    Meets (contrat col crypto) AL (fun _ => True)
      (BankTransactionsAdapter.listerParCompte crypto owner compte filtre tranche) := by
  apply Meets.mapError
  refine Meets.bind (meets_interrogerChiffre trivial) ?_
  intro total _
  refine Meets.bind (meets_interrogerChiffre trivial) ?_
  intro rows hrows
  apply Meets.bind (meets_intoTransaction hfiable hrows)
  intro _ _
  exact meets_pure trivial

/-- So does the listing of the transactions of an owner. -/
theorem meets_listerPourProprietaire (hfiable : crypto.Fiable) {owner : ProprietaireId}
    {filtre : FiltreTransactionsProprietaire} {tri : TriTransactions} {tranche : Tranche} :
    Meets (contrat col crypto) AL (fun _ => True)
      (BankTransactionsAdapter.listerPourProprietaire crypto owner filtre tri tranche) := by
  apply Meets.mapError
  refine Meets.bind (meets_interrogerChiffre trivial) ?_
  intro rows hrows
  apply Meets.bind (meets_intoTransaction hfiable hrows)
  intro _ _
  exact meets_pure trivial

/-- So does the listing of the internal transfers. -/
theorem meets_idsTransfertsInternes {owner : ProprietaireId} :
    Meets (contrat col crypto) AE (fun _ => True)
      (BankTransactionsAdapter.idsTransfertsInternes owner) :=
  Meets.mapError (Meets.forget (meets_interrogerChiffre trivial))

/-- So does the categorisation of a transaction. -/
theorem meets_categoriser (hfiable : crypto.Fiable) {owner : ProprietaireId}
    {compte : BankAccountId} {transaction : TransactionBancaireId} {category : CategoryId} :
    Meets (contrat col crypto) AE (fun _ => True)
      (BankTransactionsAdapter.categoriser crypto owner compte transaction category) := by
  apply Meets.mapError
  unfold BankTransactions.categoriser
  refine Meets.bind (Q := fun _ => True) ?_ ?_
  · refine Meets.bind (meets_interrogerChiffre trivial) ?_
    intro _ _
    exact meets_pure trivial
  · intro accessible _
    split
    · exact meets_pure trivial
    · refine Meets.bind (meets_interrogerChiffre trivial) ?_
      intro miseAJour _
      split
      · exact meets_pure trivial
      · refine Meets.bind (Q := fun _ => True) ?_ ?_
        · refine Meets.bind (meets_interrogerChiffre trivial) ?_
          rintro (_ | t) ht
          · exact meets_pure trivial
          · obtain ⟨lu, hlu⟩ := dechiffrable_intoTransaction hfiable (ht t rfl)
            simp only [hlu]
            exact meets_pure trivial
        · rintro (_ | t) _ <;> exact meets_pure trivial

/-- So does applying a rule to the past. -/
theorem meets_appliquerRegleRetroactif (hfiable : crypto.Fiable) {regle : RegleCategorisation} :
    Meets (contrat col crypto) AE (fun _ => True)
      (BankTransactionsAdapter.appliquerRegleRetroactif crypto regle) := by
  refine Meets.bind (Q := fun _ => True) (Meets.mapError ?_) ?_
  · refine Meets.bind (meets_interrogerChiffre trivial) ?_
    intro rows hrows
    apply meets_traverse
    intro row hrow
    obtain ⟨label, hlabel⟩ := (hrows row hrow).dechiffrable hfiable
    simp only [hlabel]
    exact ⟨_, rfl⟩
  · intro candidats _
    dsimp only
    split
    · exact meets_pure trivial
    · exact Meets.mapError (Meets.forget (meets_interrogerChiffre trivial))

/-- So does the default categorisation of the credits. -/
theorem meets_recategoriserCreditsAdapter (hfiable : crypto.Fiable) {owner : ProprietaireId} :
    Meets (contrat col crypto) AE (fun _ => True)
      (BankTransactionsAdapter.recategoriserCredits crypto owner) := by
  refine Meets.bind (Q := fun _ => True)
    (Meets.mapError (Meets.forget (meets_interrogerChiffre trivial))) ?_
  rintro (_ | category) _
  · exact meets_pure trivial
  · refine Meets.bind (Q := fun _ => True) (Meets.mapError ?_) ?_
    · refine Meets.bind (meets_interrogerChiffre trivial) ?_
      intro rows hrows
      refine Meets.bind (Q := fun _ => True) ?_ fun _ _ => meets_pure trivial
      apply meets_traverse
      intro row hrow
      obtain ⟨montant, hmontant⟩ := (hrows row hrow).dechiffrable hfiable
      simp only [hmontant]
      exact ⟨_, rfl⟩
    · intro credits _
      apply Meets.mapError
      unfold BankTransactions.appliquerCategorieDefautParLot
      split
      · exact meets_pure trivial
      · exact Meets.forget (meets_interrogerChiffre trivial)

/-- So does the search for the label of a transaction. -/
theorem meets_libelleTransaction (hfiable : crypto.Fiable) {owner : ProprietaireId}
    {compte : BankAccountId} {transaction : TransactionBancaireId} :
    Meets (contrat col crypto) AE (fun _ => True)
      (BankTransactionsAdapter.libelleTransaction crypto owner compte transaction) := by
  apply Meets.mapError
  refine Meets.bind (meets_interrogerChiffre trivial) ?_
  rintro (_ | blob) hblob
  · exact meets_pure trivial
  · obtain ⟨label, hlabel⟩ := (hblob blob rfl).dechiffrable hfiable
    simp only [hlabel]
    exact meets_pure trivial

/-- So does the recalculation of the internal transfers. -/
theorem meets_recalculerTransfertsInternes (hfiable : crypto.Fiable) {owner : ProprietaireId} :
    Meets (contrat col crypto) AE (fun _ => True)
      (BankTransactionsAdapter.recalculerTransfertsInternes crypto owner) := by
  apply Meets.mapError
  refine Meets.bind (Q := fun _ => True) ?_ ?_
  · refine Meets.bind (meets_interrogerChiffre trivial) ?_
    intro rows hrows
    refine Meets.bind (Q := fun _ => True) ?_ fun _ _ => meets_pure trivial
    exact meets_traverse fun t ht => dechiffrable_mouvement hfiable (hrows t ht)
  · intro mouvements _
    dsimp only
    refine Meets.bind (Q := fun _ => True) ?_ ?_
    · refine Meets.bind (meets_interrogerChiffre trivial) fun _ _ => meets_pure trivial
    · intro _ _
      unfold BankTransactions.marquerTransfertsInternes
      split
      · exact meets_pure trivial
      · exact Meets.forget (meets_interrogerChiffre trivial)

/-- So does the recalculation of the recurrences. -/
theorem meets_recalculerRecurrences (hfiable : crypto.Fiable) {owner : ProprietaireId} :
    Meets (contrat col crypto) AE (fun _ => True)
      (BankTransactionsAdapter.recalculerRecurrences crypto owner) := by
  apply Meets.mapError
  refine Meets.bind (Q := fun _ => True) ?_ ?_
  · refine Meets.bind (meets_interrogerChiffre trivial) ?_
    intro rows hrows
    refine Meets.bind (Q := fun _ => True) ?_ fun _ _ => meets_pure trivial
    exact meets_traverse fun t ht => dechiffrable_occurrence hfiable (hrows t ht)
  · intro occurrences _
    dsimp only
    refine Meets.bind (Q := fun _ => True) ?_ ?_
    · refine Meets.bind (meets_interrogerChiffre trivial) fun _ _ => meets_pure trivial
    · intro _ _
      refine Meets.foldlM (Q := fun _ => True) trivial ?_
      intro marquees interval _ _
      refine Meets.bind (Q := fun _ => True) ?_ fun _ _ => meets_pure trivial
      unfold BankTransactions.marquerRecurrentes
      split
      · exact meets_pure trivial
      · exact Meets.forget (meets_interrogerChiffre trivial)

/-- So does the creation of a rule. -/
theorem meets_creerRegle {nouvelle : NouvelleRegleCategorisation} :
    Meets (contrat col crypto) AE (fun _ => True) (Regles.creer nouvelle) :=
  Meets.mapError (Meets.forget (meets_interroger trivial))

/-- So does the listing of the rules. -/
theorem meets_listerRegles {owner : ProprietaireId} :
    Meets (contrat col crypto) AL (fun _ => True) (Regles.listerPourProprietaire owner) :=
  Meets.mapError (Meets.forget (meets_interroger trivial))

/-- So does the categorisation of a transaction just inserted. -/
theorem meets_categoriserTransactionInseree {compte : BankAccountId}
    {transaction : TransactionBancaireId} {label : String} :
    Meets (contrat col crypto) AE (fun _ => True)
      (BankTransactionsAdapter.categoriserTransactionInseree compte transaction label) := by
  refine Meets.bind (Q := fun _ => True)
    (Meets.mapError (Meets.forget (meets_interrogerChiffre trivial))) ?_
  intro owner _
  apply Meets.bind (Meets.mapError meets_listerRegles)
  intro regles _
  split
  · apply Meets.mapError
    exact Meets.bind (meets_interrogerChiffre trivial) fun _ _ => meets_pure trivial
  · exact meets_pure trivial

/-- So does recording a transaction whose amount fits 64 bits. -/
theorem meets_enregistrer (hfiable : crypto.Fiable) {n : NouvelleTransactionBancaire}
    (hn : EstI64 n.amountCents) :
    Meets (contrat col crypto) AE (fun _ => True)
      (BankTransactionsAdapter.enregistrer crypto n) := by
  apply Meets.bind (Meets.mapError (meets_insertTransaction hfiable hn))
  rintro (id | _) _
  · apply Meets.attempt_bind meets_categoriserTransactionInseree
    · intro _ _
      exact meets_pure trivial
    · intro _
      exact meets_pure trivial
  · exact meets_pure trivial

/-! ### Classification -/

/-- So does the listing of the categories. -/
theorem meets_listerCategories {owner : ProprietaireId} :
    Meets (contrat col crypto) AL (fun _ => True) (Categories.listerPourProprietaire owner) := by
  refine Meets.bind (Meets.mapError (meets_interroger trivial)) ?_
  intro _ _
  exact meets_pure trivial

/-- So does reading the first day of the month. -/
theorem meets_jourDebutMois {owner : ProprietaireId} :
    Meets (contrat col crypto) AL (fun _ => True) (Preferences.jourDebutMois owner) := by
  refine Meets.bind (Meets.mapError (meets_interroger trivial)) ?_
  rintro (_ | jour) _ <;> exact meets_pure trivial

/-- So does the breakdown of a cycle. -/
theorem meets_repartition (hfiable : crypto.Fiable) {owner : ProprietaireId}
    {cycle : CycleMensuel} {sens : Depenses.Sens} :
    Meets (contrat col crypto) AL (fun _ => True)
      (Depenses.repartition crypto owner cycle sens) := by
  refine Meets.bind (Q := fun _ => True) ?_ ?_
  · refine Meets.bind (Meets.mapError (meets_interroger trivial)) ?_
    intro rows hrows
    refine Meets.bind (Q := fun _ => True) ?_ fun _ _ => meets_pure trivial
    apply meets_traverse
    intro row hrow
    obtain ⟨montant, hmontant⟩ := (hrows row hrow).dechiffrable hfiable
    simp only [hmontant]
    exact ⟨_, rfl⟩
  · intro totaux _
    split
    · exact meets_pure trivial
    · refine Meets.bind (Q := fun _ => True) ?_ fun _ _ => meets_pure trivial
      refine Meets.bind (Meets.mapError (meets_interroger trivial)) ?_
      intro _ _
      exact meets_pure trivial

/-- So does the listing of the tracked envelopes. -/
theorem meets_listerEnveloppesSuivies (hfiable : crypto.Fiable) {owner : ProprietaireId} :
    Meets (contrat col crypto) AL (fun _ => True) (Enveloppes.lister crypto owner) := by
  refine Meets.bind (Meets.mapError (meets_interroger trivial)) ?_
  intro enveloppes _
  refine Meets.bind (Q := fun _ => True) ?_ fun _ _ => meets_pure trivial
  refine Meets.bind (Meets.mapError (meets_interroger trivial)) ?_
  intro rows hrows
  refine Meets.bind (Q := fun _ => True) ?_ fun _ _ => meets_pure trivial
  apply meets_traverse
  intro row hrow
  obtain ⟨montant, hmontant⟩ := (hrows row hrow).dechiffrable hfiable
  simp only [hmontant]
  exact ⟨_, rfl⟩

end Repositories

end Budgy
