import Budgy.Analysis.Footprint
import Budgy.Interface.Interleaving
import Budgy.Interface.Traversal

/-!
# What a cycle does to one account

A cycle takes the due accounts one after the other.  `CompteTraite` says what it does to
one of them, from the requests it issues and their replies: whether its slot is taken,
whether the synchronisation succeeds, whether the cycle stops there, and what becomes of
the consents.
-/

set_option autoImplicit false

namespace Budgy

open Effects Prog

/-! ## The requests about an account -/

/-- The account a request is about: it reserves its slot, or asks the bank about it. -/
def Op.compteVise : Op → Option BankAccountId
  | .sql (.compte (.reserverCreneau compte _ _)) => some compte
  | .banque (.solde _ compte) => some compte.id
  | .banque (.listerTransactions _ compte _) => some compte.id
  | _ => none

/-- The operation is about this account. -/
def Op.DuCompte (id : BankAccountId) (o : Op) : Prop := o.compteVise = some id

instance (id : BankAccountId) (o : Op) : Decidable (o.DuCompte id) :=
  inferInstanceAs (Decidable (o.compteVise = some id))

/-- The request takes up the account: it asks for its slot. -/
def Op.Prend (id : BankAccountId) : Op → Prop
  | .sql (.compte (.reserverCreneau compte _ _)) => compte = id
  | _ => False

/-- The request writes the planning of the worker: a slot, or the status of a consent. -/
def Op.Planifie : Op → Prop
  | .sql (.compte (.reserverCreneau ..)) => True
  | .sql (.consent (.marquerStatutConsent ..)) => True
  | _ => False

/-- A request about the account is refused or fails. -/
def EchecCompte (id : BankAccountId) : Entry signature → Prop
  | ⟨.sql (.compte (.reserverCreneau compte _ _)), reponse⟩ => compte = id ∧ reponse ≠ .ok 1
  | ⟨.banque (.solde _ compte), reponse⟩ => compte.id = id ∧ reponse.isOk = false
  | ⟨.banque (.listerTransactions _ compte _), reponse⟩ => compte.id = id ∧ reponse.isOk = false
  | _ => False

/-- The slot of the account is taken. -/
def CreneauPris (id : BankAccountId) : Entry signature → Prop
  | ⟨.sql (.compte (.reserverCreneau compte _ _)), reponse⟩ => compte = id ∧ reponse = .ok 1
  | _ => False

/-- The failure of an account is about it. -/
theorem duCompte_of_echec {id : BankAccountId} {x : Entry signature} (h : EchecCompte id x) :
    x.1.DuCompte id := by
  unfold EchecCompte at h
  split at h
  · exact congrArg some h.1
  · exact congrArg some h.1
  · exact congrArg some h.1
  · exact h.elim

/-- A slot taken for an account is about it. -/
theorem duCompte_of_creneau {id : BankAccountId} {x : Entry signature} (h : CreneauPris id x) :
    x.1.DuCompte id := by
  unfold CreneauPris at h
  split at h
  · exact congrArg some h.1
  · exact h.elim

/-- Of the statements, only a reservation is about an account. -/
private theorem bankAccount_of_duCompte {id : BankAccountId} {r : Requete}
    (h : (Op.sql r).DuCompte id) : .bankAccount ∈ r.ecrit := by
  unfold Op.DuCompte Op.compteVise at h
  split at h
  case h_1 _ _ heq =>
    cases heq
    simp
  case h_2 heq | h_3 heq => cases heq
  case h_4 => cases h

/-- An operation outside the database and the bank is about no account. -/
private theorem not_duCompte_of_interne {id : BankAccountId} {o : Op} (ho : o.Interne) :
    ¬ o.DuCompte id := by
  intro hid
  cases o with
  | sql r =>
      have hlecture : r.ecrit = [] := ho
      exact absurd (bankAccount_of_duCompte hid) (hlecture ▸ List.not_mem_nil)
  | banque => exact ho.elim
  | publier | nonce | uuidV4 | maintenant => cases hid

/-- An operation that takes an account is about it. -/
theorem duCompte_of_prend {id : BankAccountId} {o : Op} (h : o.Prend id) : o.DuCompte id := by
  unfold Op.Prend at h
  split at h
  · exact congrArg some h
  · exact h.elim

section Account

variable {col : Collation} {crypto : CryptoService} {parametres : ParametresSynchro}
  {maintenant : DateTime} {s : Store}

/-- A consent was marked as expired, and its end announced to an owner. -/
def Annonce (id : ConsentId) (owner : ProprietaireId) (maintenant : DateTime) (s : Store)
    (t : List (Evenement col)) (s' : Store) : Prop :=
  (∃ instant, ∀ c', c' ∈ s'.consent ↔ ∃ c ∈ s.consent,
    c' = if c.id = id then { c with status := .expired, updatedAt := instant } else c) ∧
  ∃ e ∈ t, e.op = .publier (.consentExpired owner maintenant)

/-- The synchronisation of the account is announced as done. -/
def Synchronise (owner : ProprietaireId) (id : BankAccountId) (maintenant : DateTime)
    (t : List (Evenement col)) : Prop :=
  ∃ e ∈ t, ∃ n, e.op = .publier (.syncSucceeded owner id.toText n maintenant)

/-- What a cycle does to a due account whose consent it may use. -/
structure CompteTraite (echeant : CompteEcheant) (maintenant : DateTime) (s : Store)
    (t : List (Evenement col)) (r : Except SynchroError RapportSynchro) (s' : Store) : Prop where
  pris : ∃ e ∈ t, e.op.Prend echeant.compte.id
  propre : ∀ e ∈ t, ∀ id, e.op.DuCompte id → id = echeant.compte.id
  synchronise : (∀ e ∈ t, ¬ EchecCompte echeant.compte.id (Event.entry e)) →
    (∃ e ∈ t, CreneauPris echeant.compte.id (Event.entry e)) ∧
      Synchronise echeant.compte.proprietaire echeant.compte.id maintenant t
  arret : r.isOk = false → ∃ e ∈ t, e.op.Planifie ∧ ¬ Evenement.Reussi e
  consents : s'.consent = s.consent ∨
    Annonce echeant.consent.id echeant.compte.proprietaire maintenant s t s'

/-! ## The steps of an account -/

/-- The reservation of a slot is one statement. -/
private theorem spec_reserver {id : BankAccountId} {plan : PlanificationSynchro} {quota : ℤ} :
    Spec (machine col)
      ((BankAccountsAdapter.reserverCreneau id plan quota).mapError SynchroError.ecriture).run s
      fun t r s' => s'.consent = s.consent ∧
        (∃ e, t = [e] ∧ e.op = .sql (.compte (.reserverCreneau id plan quota))) ∧
        (r = .ok true → ∃ e ∈ t, CreneauPris id (Event.entry e)) ∧
        (r ≠ .ok true → ∃ e ∈ t, EchecCompte id (Event.entry e)) ∧
        (r.isOk = false → ∃ e ∈ t, e.op.Planifie ∧ ¬ Evenement.Reussi e) := by
  refine spec_run_mapError.2 (spec_run_mapError.2 (spec_run_bind.2 (spec_interrogerChiffre ?_ ?_)))
  · intro x e hreply
    refine ⟨rfl, ⟨_, rfl, rfl⟩, nofun, fun _ => ?_, fun _ => ?_⟩
    · refine ⟨_, List.mem_singleton_self _, rfl, ?_⟩
      show (Requete.executer col _ x s).1 ≠ .ok 1
      rw [hreply]
      exact nofun
    · refine ⟨_, List.mem_singleton_self _, trivial, ?_⟩
      show ¬ (Requete.executer col _ x s).1.isOk = true
      rw [hreply]
      exact Bool.false_ne_true
  · intro x n s' heffet hreply
    refine spec_run_pure.2
      ⟨pareil_effet (t := .consent) heffet (by simp), ⟨_, rfl, rfl⟩, ?_, ?_, nofun⟩
    · intro hpris
      obtain rfl : n = 1 := of_decide_eq_true (Except.ok.inj hpris)
      exact ⟨_, List.mem_singleton_self _, rfl, hreply⟩
    · intro hrefus
      refine ⟨_, List.mem_singleton_self _, rfl, ?_⟩
      show (Requete.executer col _ x s).1 ≠ .ok 1
      rw [hreply]
      intro hone
      obtain rfl : n = 1 := Except.ok.inj hone
      exact hrefus rfl

/-- The bank is asked about the account alone, and what it answers leaves the consents. -/
private theorem spec_remonterDonnees {consent : Consent} {compte : BankAccount}
    {rapport : RapportSynchro} :
    Spec (machine col) (Synchro.remonterDonnees crypto parametres consent compte rapport) s
      fun t r s' => s'.consent = s.consent ∧
        (∀ e ∈ t, ∀ id, e.op.DuCompte id → id = compte.id) ∧
        (∀ erreur, r.2 = .error erreur → ∃ e ∈ t, EchecCompte compte.id (Event.entry e)) := by
  refine Spec.and (spec_pareil (t := .consent) ?_) (Spec.and ?_ ?_)
  · refine uses_remonterDonnees (fun o ho => ?_) (fun r _ hr _ hconsent => ?_) (by simp) (by simp)
    · exact ho.lecture ▸ List.not_mem_nil
    · rcases hr _ hconsent with h | h <;> cases h
  · intro t r s' hrun
    refine hrun.uses (P := fun o : Op => ∀ id, o.DuCompte id → id = compte.id)
      (uses_remonterDonnees (fun o ho id hid => ?_) (fun r _ hr _ id hid => ?_)
        (fun id hid => (Option.some.inj hid).symm) fun id hid => (Option.some.inj hid).symm)
    · exact absurd hid (not_duCompte_of_interne ho)
    · rcases hr _ (bankAccount_of_duCompte hid) with h | h <;> cases h
  · refine spec_bind.2 (spec_perform.2 ?_)
    rintro (erreur | soldes)
    · exact spec_pure.2 fun _ _ => ⟨_, List.mem_cons_self, rfl, rfl⟩
    refine spec_bind.2 fun t₁ acc s₁ _ => spec_bind.2 (spec_perform.2 ?_)
    rintro (erreur | transactions)
    · refine spec_pure.2 fun _ _ => ?_
      exact ⟨_, List.mem_append_right _ (List.mem_append_right _ List.mem_cons_self), rfl, rfl⟩
    · exact spec_bind.2 fun _ _ _ _ => spec_pure.2 fun _ h => nomatch h

/-- Marking a consent as expired, then announcing it. -/
private theorem spec_expirer {id : ConsentId} {owner : ProprietaireId} {rapport : RapportSynchro} :
    Spec (machine col) (do
      (ConsentsAdapter.marquerStatutConsent id .expired).mapError SynchroError.ecriture
      Task.ofProg (publierEvenement (.consentExpired owner maintenant))
      return rapport : Tache SynchroError RapportSynchro).run s fun t r s' =>
        (r.isOk = false → ∃ e ∈ t, e.op.Planifie ∧ ¬ Evenement.Reussi e) ∧
          (s'.consent = s.consent ∨ Annonce id owner maintenant s t s') := by
  refine spec_run_bind.2 (spec_run_mapError.2 (spec_run_mapError.2 (spec_run_bind.2
    (spec_interrogerChiffre ?_ ?_))))
  · intro x e hreply
    refine ⟨fun _ => ⟨_, List.mem_singleton_self _, trivial, ?_⟩, .inl rfl⟩
    show ¬ (Requete.executer col _ x s).1.isOk = true
    rw [hreply]
    exact Bool.false_ne_true
  · intro x _ s' heffet _
    refine spec_run_pure.2 (spec_run_bind.2 (spec_run_ofProg.2 (spec_perform.2 fun _ =>
      spec_run_pure.2 ⟨nofun, .inr ⟨⟨x.maintenant, fun c' => ?_⟩, ?_⟩⟩)))
    · obtain ⟨-, rfl⟩ := by simpa [Requete.effet, RequeteConsent.effet] using heffet
      show c' ∈ (s.majConsent _ _ _).consent ↔ _
      simp
    · exact ⟨_, List.mem_append_right _ (List.mem_append_left _ (List.mem_singleton_self _)), rfl⟩

/-- What a success publishes. -/
private theorem spec_publierSucces {compte : CompteASynchroniser} {remontee : RemonteeCompte} :
    Spec (machine col)
      (Synchro.publierSucces compte.proprietaire compte.id.toText remontee maintenant) s
      fun t _ s' => s' = s ∧ Synchronise compte.proprietaire compte.id maintenant t := by
  unfold Synchro.publierSucces
  split
  · refine spec_bind.2 (spec_perform.2 fun _ => spec_bind.2 (spec_perform.2 fun _ =>
      spec_perform.2 fun _ => ⟨rfl, ?_⟩))
    exact ⟨_, List.mem_append_right _ (List.mem_append_right _ (List.mem_singleton_self _)), _, rfl⟩
  · refine spec_bind.2 (spec_perform.2 fun _ => spec_perform.2 fun _ => ⟨rfl, ?_⟩)
    exact ⟨_, List.mem_append_right _ (List.mem_singleton_self _), _, rfl⟩

/-- What a part of a run does to the consents, the whole does. -/
private theorem consents_mono {id : ConsentId} {owner : ProprietaireId} {s₀ s' : Store}
    {t t' : List (Evenement col)} (hs : s.consent = s₀.consent) (ht : ∀ e ∈ t, e ∈ t')
    (h : s'.consent = s.consent ∨ Annonce id owner maintenant s t s') :
    s'.consent = s₀.consent ∨ Annonce id owner maintenant s₀ t' s' := by
  rcases h with h | ⟨⟨instant, hmarque⟩, e, he, hop⟩
  · exact .inl (h.trans hs)
  · exact .inr ⟨⟨instant, fun c' => by rw [hmarque c', hs]⟩, e, ht e he, hop⟩

/-- The two ends of an account: its success is announced, or its failure. -/
private theorem spec_conclure {compte : CompteASynchroniser} {consent : Consent}
    {rapport : RapportSynchro} {remontee : Except BankDataSourceError RemonteeCompte} :
    Spec (machine col)
      (Synchro.conclure crypto compte consent maintenant rapport remontee).run s fun t r s' =>
        (r.isOk = false → ∃ e ∈ t, e.op.Planifie ∧ ¬ Evenement.Reussi e) ∧
          (s'.consent = s.consent ∨
            Annonce consent.id compte.proprietaire maintenant s t s') ∧
          (remontee.isOk = true → Synchronise compte.proprietaire compte.id maintenant t) := by
  rcases remontee with erreur | remontee
  · refine spec_run_bind.2 (spec_run_ofProg.2 (spec_perform.2 fun _ => ?_))
    show Spec (machine col) (Synchro.traiterEchecSource _ _ _ _ _).run s _
    unfold Synchro.traiterEchecSource
    split
    · refine Spec.mono spec_expirer ?_
      rintro t r s' ⟨harret, hconsents⟩
      refine ⟨fun hr => ?_, consents_mono rfl (fun e he => List.mem_append_right _ he) hconsents, nofun⟩
      obtain ⟨e, he, hechec⟩ := harret hr
      exact ⟨e, List.mem_append_right _ he, hechec⟩
    · exact spec_run_pure.2 ⟨nofun, .inl rfl, nofun⟩
  · have huses : (Synchro.recalculerRecurrencesApresInsertion crypto compte.proprietaire
        remontee).Uses fun o : Op => .consent ∉ o.ecrit := by
      unfold Synchro.recalculerRecurrencesApresInsertion
      split
      · exact Uses.bind (uses_recalculerRecurrences (fun o ho => ho.lecture ▸ List.not_mem_nil)
          (by simp) (by simp)) fun _ => uses_pure _
      · exact uses_pure _
    refine spec_run_bind.2 (spec_run_ofProg.2 (Spec.mono (spec_pareil huses) fun t₁ _ s₁ h₁ => ?_))
    refine spec_run_bind.2 (spec_run_ofProg.2 (Spec.mono spec_publierSucces ?_))
    rintro t₂ _ s₂ ⟨rfl, e, he, hsync⟩
    refine spec_run_pure.2 ⟨nofun, .inl h₁, fun _ => ⟨e, ?_, hsync⟩⟩
    exact List.mem_append_right _ (List.mem_append_left _ he)

/-! ## One account -/

/-- Once the slot is taken, the account is synchronised unless the bank fails. -/
private theorem spec_synchroniserCompteReserve {compte : CompteASynchroniser} {consent : Consent}
    {rapport : RapportSynchro} :
    Spec (machine col) (Synchro.synchroniserCompteReserve crypto parametres compte consent maintenant
      rapport).run s fun t r s' =>
        (∀ e ∈ t, ∀ id, e.op.DuCompte id → id = compte.id) ∧
          ((∀ e ∈ t, ¬ EchecCompte compte.id (Event.entry e)) → Synchronise compte.proprietaire compte.id maintenant t) ∧
          (r.isOk = false → ∃ e ∈ t, e.op.Planifie ∧ ¬ Evenement.Reussi e) ∧
          (s'.consent = s.consent ∨ Annonce consent.id compte.proprietaire maintenant s t s') := by
  have hrenouvellement : (Synchro.publierRenouvellement parametres compte.proprietaire consent
      maintenant).Uses fun o : Op => ∃ ev, o = .publier ev := by
    unfold Synchro.publierRenouvellement
    split
    · exact uses_demander ⟨_, rfl⟩
    · exact uses_pure _
  refine spec_run_bind.2 (spec_run_ofProg.2 (spec_perform.2 fun _ => ?_))
  refine spec_run_bind.2 (spec_run_ofProg.2 (Spec.mono (Spec.and (spec_lecture
    (hrenouvellement.mono fun o ho => by obtain ⟨ev, rfl⟩ := ho; rfl))
    (fun t a s' hrun => hrun.uses hrenouvellement)) ?_))
  rintro t₁ _ _ ⟨rfl, hpublie⟩
  refine spec_run_bind.2 (spec_run_ofProg.2 (Spec.mono spec_remonterDonnees ?_))
  rintro t₂ remontee s₂ ⟨hconsent, hpropre, hechec⟩
  refine Spec.mono (Spec.and spec_conclure fun t a s' hrun => hrun.uses
    (P := fun o : Op => ∀ id, ¬ o.DuCompte id) ?_) ?_
  · refine uses_conclure (fun o ho id => not_duCompte_of_interne ho) (fun r _ hr _ id hid => ?_)
      fun ev id hid => nomatch hid
    rcases hr _ (bankAccount_of_duCompte hid) with h | h <;> cases h
  · rintro t₃ r s₃ ⟨⟨harret, hconsents, hsync⟩, hmuet⟩
    refine ⟨?_, ?_, ?_, ?_⟩
    · intro e he id hid
      simp only [List.mem_append, List.mem_singleton] at he
      rcases he with rfl | he | he | he
      · cases hid
      · obtain ⟨ev, hev⟩ := hpublie e he
        rw [hev] at hid
        cases hid
      · exact hpropre e he id hid
      · exact absurd hid (hmuet e he id)
    · intro hsans
      have hremontee : remontee.2.isOk = true := by
        cases hr : remontee.2 with
        | ok _ => rfl
        | error erreur =>
            obtain ⟨e, he, hechoue⟩ := hechec erreur hr
            exact absurd hechoue (hsans e (by simp [he]))
      obtain ⟨e, he, hsucces⟩ := hsync hremontee
      exact ⟨e, by simp [he], hsucces⟩
    · intro hr
      obtain ⟨e, he, hechoue⟩ := harret hr
      exact ⟨e, by simp [he], hechoue⟩
    · exact consents_mono hconsent (fun e he => by simp [he]) hconsents

/-- An account whose slot is refused is left there. -/
private theorem compteTraite_refus {echeant : CompteEcheant} {plan : PlanificationSynchro}
    {quota : ℤ} {e : Evenement col} {r : Except SynchroError RapportSynchro} {s' : Store}
    (hop : e.op = .sql (.compte (.reserverCreneau echeant.compte.id plan quota)))
    (hconsent : s'.consent = s.consent)
    (hrefus : ∃ e' ∈ [e], EchecCompte echeant.compte.id (Event.entry e'))
    (harret : r.isOk = false → ∃ e' ∈ [e], e'.op.Planifie ∧ ¬ Evenement.Reussi e') :
    CompteTraite echeant maintenant s [e] r s' where
  pris := ⟨e, List.mem_singleton_self e, by rw [hop]; rfl⟩
  propre e' he' id hid := by
    obtain rfl := List.mem_singleton.1 he'
    rw [hop] at hid
    exact (Option.some.inj hid).symm
  synchronise h := by
    obtain ⟨e', he', hechec⟩ := hrefus
    exact absurd hechec (h e' he')
  arret := harret
  consents := .inl hconsent

/-- What a cycle does to an account whose consent was usable when it listed it. -/
theorem spec_synchroniserCompte {echeant : CompteEcheant} {rapport : RapportSynchro}
    (husable : consentementExpire echeant.consent maintenant = false) :
    Spec (machine col)
      (Synchro.synchroniserCompte crypto parametres maintenant rapport echeant).run s
      (CompteTraite echeant maintenant s) := by
  unfold Synchro.synchroniserCompte
  dsimp only
  rw [if_neg (by simp [husable])]
  refine spec_run_bind.2 (Spec.mono spec_reserver ?_)
  rintro t₁ (erreur | reserve) s₁ ⟨hconsent₁, ⟨e₀, rfl, hop⟩, hpris, hrefus, harret⟩
  · exact compteTraite_refus hop hconsent₁ (hrefus nofun) fun _ => harret rfl
  cases reserve with
  | false => exact spec_run_pure.2 (compteTraite_refus hop hconsent₁ (hrefus nofun) nofun)
  | true =>
      refine Spec.mono spec_synchroniserCompteReserve ?_
      rintro t₂ r s₂ ⟨hpropre, hsync, harret₂, hconsents⟩
      obtain ⟨e, he, hcreneau⟩ := hpris rfl
      constructor
      case pris => exact ⟨e₀, by simp, by rw [hop]; rfl⟩
      case propre =>
        intro e' he' id hid
        rcases List.mem_append.1 he' with he' | he'
        · obtain rfl := List.mem_singleton.1 he'
          rw [hop] at hid
          exact (Option.some.inj hid).symm
        · exact hpropre e' he' id hid
      case synchronise =>
        intro hsans
        obtain ⟨e', he', hsucces⟩ := hsync fun e' he' => hsans e' (List.mem_append_right _ he')
        exact ⟨⟨e, List.mem_append_left _ he, hcreneau⟩, e', List.mem_append_right _ he', hsucces⟩
      case arret =>
        intro hr
        obtain ⟨e', he', hechoue⟩ := harret₂ hr
        exact ⟨e', List.mem_append_right _ he', hechoue⟩
      case consents =>
        exact consents_mono hconsent₁ (fun e' he' => List.mem_append_right _ he') hconsents

/-! ## The list of the due accounts -/

/-- What a due account becomes once decrypted. -/
theorem intoCompteEcheant_eq_ok {row : CompteEcheantRow} {echeant : CompteEcheant}
    (h : BankAccounts.intoCompteEcheant crypto row = .ok echeant) :
    echeant.compte.id = row.compte.id ∧ echeant.compte.proprietaire = row.compte.ownerId ∧
      echeant.consent.id = row.compte.consentId ∧
      echeant.consent.proprietaire = row.compte.ownerId ∧
      dechiffrerTexte crypto row.compte.ownerId "consent" "external_ref" row.consent.externalRef =
        .ok echeant.consent.externalRef ∧
      echeant.consent.status = row.consent.status ∧
      echeant.consent.expiresAt = row.consent.expiresAt := by
  obtain ⟨externe, -, h⟩ := Traversal.bind_eq_ok.1 h
  obtain ⟨externalRef, href, h⟩ := Traversal.bind_eq_ok.1 h
  cases h
  exact ⟨rfl, rfl, rfl, rfl, href, rfl, rfl⟩

/-- The statement that lists the due accounts of an instant. -/
abbrev listeEcheants (parametres : ParametresSynchro) (maintenant : DateTime) : Requete :=
  .compte (.listerComptesEcheants maintenant maintenant.dateNaive parametres.quotaJournalier)

/-- An account that is due, with the consent it goes through. -/
def Store.Echeant (s : Store) (quota : ℤ) (maintenant : DateTime) (row : CompteEcheantRow) : Prop :=
  row.compte ∈ s.bankAccount ∧ row.consent ∈ s.consent ∧
    row.consent.id = row.compte.consentId ∧
    RequeteCompte.estEcheant maintenant maintenant.dateNaive quota row.compte row.consent = true

/-- The accounts listed in a cycle are the due ones. -/
theorem mem_listeEcheants {x : ChoixSql} {rows : List CompteEcheantRow}
    (h : ((listeEcheants parametres maintenant).executer col x s).1 = .ok rows)
    {row : CompteEcheantRow} :
    row ∈ rows ↔ s.Echeant parametres.quotaJournalier maintenant row := by
  obtain ⟨rfl, -⟩ := lire_eq_ok.1 (Requete.effet_of_executer h)
  simp only [List.mem_filterMap, Option.map_eq_some_iff, Option.filter_eq_some_iff,
    Relational.Table.find?_eq_some, Relational.mem_sortBy, Relational.mem_arrange]
  constructor
  · rintro ⟨a, ha, c, ⟨⟨hc, hid⟩, hdue⟩, rfl⟩
    exact ⟨ha, hc, hid, hdue⟩
  · rintro ⟨ha, hc, hid, hdue⟩
    exact ⟨row.compte, ha, row.consent, ⟨⟨hc, hid⟩, hdue⟩, rfl⟩

/-- An account is listed once. -/
theorem nodup_listeEcheants {x : ChoixSql} {rows : List CompteEcheantRow}
    (h : ((listeEcheants parametres maintenant).executer col x s).1 = .ok rows) :
    (rows.map fun row => row.compte.id).Nodup := by
  obtain ⟨rfl, -⟩ := lire_eq_ok.1 (Requete.effet_of_executer h)
  have hperm := (Relational.perm_sortBy RequeteCompte.ordreEcheance
    (Relational.arrange BankAccountRow.id x.rang s.bankAccount.rows)).trans
      (Relational.perm_arrange BankAccountRow.id x.rang s.bankAccount.rows)
  have hnodup := ((hperm.map BankAccountRow.id).nodup_iff).2 s.bankAccount.nodup
  refine List.pairwise_map.2 (List.Pairwise.filterMap _ ?_ (List.pairwise_map.1 hnodup))
  intro a a' hne row hrow row' hrow'
  obtain ⟨_, -, rfl⟩ := Option.map_eq_some_iff.1 hrow
  obtain ⟨_, -, rfl⟩ := Option.map_eq_some_iff.1 hrow'
  exact hne

/-- The consent of a listed account may be used. -/
theorem consentementExpire_of_echeant {row : CompteEcheantRow} {echeant : CompteEcheant}
    {quota : ℤ} (hdue : s.Echeant quota maintenant row)
    (h : BankAccounts.intoCompteEcheant crypto row = .ok echeant) :
    consentementExpire echeant.consent maintenant = false := by
  obtain ⟨-, -, -, -, -, hstatus, hexpires⟩ := intoCompteEcheant_eq_ok h
  obtain ⟨-, -, -, hdue⟩ := hdue
  simp only [RequeteCompte.estEcheant, Bool.and_eq_true, decide_eq_true_eq] at hdue
  obtain ⟨⟨⟨-, hactive⟩, hfutur⟩, -⟩ := hdue
  unfold consentementExpire
  rw [hstatus, hexpires, hactive]
  cases hfin : row.consent.expiresAt with
  | none => rfl
  | some fin =>
      rw [hfin] at hfutur
      have hlt : maintenant < fin := of_decide_eq_true hfutur
      simp [hlt]

/-! ## The whole cycle -/

/-- The accounts a cycle has gone through, from the first of them. -/
inductive Traites (maintenant : DateTime) (s : Store) :
    List CompteEcheant → List (Evenement col) → Store → Prop where
  | debut : Traites maintenant s [] [] s
  | suite {past : List CompteEcheant} {t : List (Evenement col)} {s₁ : Store}
      (hpast : Traites maintenant s past t s₁) {echeant : CompteEcheant}
      {t' : List (Evenement col)} {r : Except SynchroError RapportSynchro} {s₂ : Store}
      (hcompte : CompteTraite echeant maintenant s₁ t' r s₂) :
      Traites maintenant s (past ++ [echeant]) (t ++ t') s₂

/-- The ways a cycle may go: the due accounts are not listed, one of them cannot be
decrypted, or they are taken one after the other, up to a failure of the planning. -/
inductive Deroulement (crypto : CryptoService) (parametres : ParametresSynchro)
    (s : Store) : List (Evenement col) → Store → Prop where
  | sansListe (maintenant : DateTime) (x : ChoixSql) {e : SqlxError}
      (hliste : ((listeEcheants parametres maintenant).executer col x s).1 = .error e) :
      Deroulement crypto parametres s
        [⟨s, .maintenant, maintenant⟩, ⟨s, .sql (listeEcheants parametres maintenant), x⟩] s
  | illisible (maintenant : DateTime) (x : ChoixSql) {rows : List CompteEcheantRow}
      (hliste : ((listeEcheants parametres maintenant).executer col x s).1 = .ok rows)
      {e : ChiffrementError} (hillisible : rows.mapM (BankAccounts.intoCompteEcheant crypto) = .error e) :
      Deroulement crypto parametres s
        [⟨s, .maintenant, maintenant⟩, ⟨s, .sql (listeEcheants parametres maintenant), x⟩] s
  | parcouru (maintenant : DateTime) (x : ChoixSql) {rows : List CompteEcheantRow}
      (hliste : ((listeEcheants parametres maintenant).executer col x s).1 = .ok rows)
      {past rest : List CompteEcheant}
      (hlisible : rows.mapM (BankAccounts.intoCompteEcheant crypto) = .ok (past ++ rest))
      {t : List (Evenement col)} {s' : Store} (htraites : Traites maintenant s past t s')
      (harret : rest = [] ∨ ∃ e ∈ t, e.op.Planifie ∧ ¬ Evenement.Reussi e) :
      Deroulement crypto parametres s
        (⟨s, .maintenant, maintenant⟩ ::
          ⟨s, .sql (listeEcheants parametres maintenant), x⟩ :: t) s'

/-- A cycle unfolds as the specification says. -/
theorem spec_executer :
    Spec (machine col) (Synchro.executer crypto parametres).run s
      fun t _ s' => Deroulement crypto parametres s t s' := by
  refine spec_run_bind.2 (spec_run_ofProg.2 (spec_perform.2 fun maintenant => ?_))
  refine spec_run_bind.2 (spec_run_mapError.2 (spec_run_mapError.2 (spec_run_bind.2
    (spec_interrogerChiffre ?_ ?_))))
  · intro x e hliste
    exact .sansListe maintenant x hliste
  · intro x rows s₁ heffet hliste
    obtain ⟨-, rfl⟩ := lire_eq_ok.1 heffet
    show Spec (machine col) (Task.ofExcept _).run s₁ _
    cases hlisible : rows.mapM (BankAccounts.intoCompteEcheant crypto) with
    | error e => exact spec_pure.2 (.illisible maintenant x hliste hlisible)
    | ok echeants =>
        refine spec_pure.2 ?_
        refine Spec.mono (Spec.run_foldlM
          (I := fun past t s' => Traites maintenant s₁ past t s')
          (E := fun t => ∃ e ∈ t, e.op.Planifie ∧ ¬ Evenement.Reussi e) .debut ?_) ?_
        · intro past echeant rest rapport t s₂ hechus hpast
          obtain ⟨row, hrow, hinto⟩ :=
            Traversal.exists_of_mem hlisible (b := echeant) (by simp [hechus])
          have hdue := (mem_listeEcheants hliste).1 hrow
          refine Spec.mono (spec_synchroniserCompte (consentementExpire_of_echeant hdue hinto)) ?_
          intro t' r s₃ hcompte
          refine ⟨.suite hpast hcompte, fun hr => ?_⟩
          obtain ⟨e, he, hechec⟩ := hcompte.arret hr
          exact ⟨e, List.mem_append_right _ he, hechec⟩
        · rintro t r s' ⟨past, rest, rfl, htraites, harret⟩
          exact .parcouru maintenant x hliste hlisible htraites harret

end Account

end Budgy
