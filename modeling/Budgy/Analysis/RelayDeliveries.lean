import Budgy.Analysis.ConsentsPage
import Budgy.Analysis.Doors

/-!
# Deliveries of the broker

The broker delivers a message at least once, in any order, among messages that mean nothing.
What the loop of the subscriber leaves depends on the users that were named, and on nothing
else of the deliveries.
-/

set_option autoImplicit false

namespace Budgy

open Effects Prog Relational

/-- The request did not fail in the database; the bank may have failed. -/
def BaseReussie : (o : Op) → o.Reply → Prop
  | .sql _, r => r.isOk = true
  | _, _ => True

instance decidableBaseReussie : (o : Op) → (r : o.Reply) → Decidable (BaseReussie o r)
  | .sql _, r => inferInstanceAs (Decidable (r.isOk = true))
  | .banque _, _ | .publier _, _ | .nonce, _ | .uuidV4, _ | .maintenant, _ => .isTrue trivial

/-- The statement was answered without a failure of the database. -/
def Evenement.BaseReussie {col : Collation} (e : Evenement col) : Prop :=
  Budgy.BaseReussie e.op e.reply

instance {col : Collation} : DecidablePred (@Evenement.BaseReussie col) :=
  fun e => decidableBaseReussie e.op e.reply

/-- A message of the list says that `A` is gone. -/
def Parti (fromSlice : LecteurJson) (polls : List Poll) (A : ProprietaireId) : Prop :=
  ∃ poll ∈ polls, poll.Nomme fromSlice A

/-- An owner is named by a poll or by a later one. -/
theorem parti_cons {fromSlice : LecteurJson} {poll : Poll} {polls : List Poll}
    {A : ProprietaireId} :
    Parti fromSlice (poll :: polls) A ↔ poll.Nomme fromSlice A ∨ Parti fromSlice polls A := by
  simp [Parti]

/-! ## One erasure -/

section Erasure

variable {col : Collation} {crypto : CryptoService} {A B : ProprietaireId} {s s' : Store}
  {ligne : Ligne}

/-- A consent left after the erasure of an owner was there before. -/
private theorem mem_consent_sansBanque {c : ConsentRow} (h : c ∈ (s.sansBanque A).consent) :
    c ∈ s.consent :=
  (Relational.Table.mem_delete.1 h).1

/-- So was an account. -/
private theorem mem_compte_sansBanque {a : BankAccountRow}
    (h : a ∈ (s.sansBanque A).bankAccount) : a ∈ s.bankAccount :=
  (Relational.Table.mem_delete.1 (Relational.Table.mem_delete.1 h).1).1

/-- The erasure of an owner leaves the consents readable. -/
theorem Store.ConsentsLisibles.sansBanque (h : s.ConsentsLisibles crypto) :
    (s.sansBanque A).ConsentsLisibles crypto :=
  fun c hc => h c (mem_consent_sansBanque hc)

/-- It leaves each account with the owner of its consent. -/
theorem Store.ComptesDuTitulaire.sansBanque (h : s.ComptesDuTitulaire) :
    (s.sansBanque A).ComptesDuTitulaire :=
  fun a ha c hc => h a (mem_compte_sansBanque ha) c (mem_consent_sansBanque hc)

/-- The erasure of `A` takes the rows that `A` has in the tables of the bank. -/
theorem Store.ComptesDuTitulaire.mem_sansBanque (h : s.ComptesDuTitulaire) :
    ligne ∈ (s.sansBanque A).patrimoine B ↔
      ligne ∈ s.patrimoine B ∧ (A = B → ligne.table ∉ Store.tablesEffacees) := by
  by_cases hB : A = B
  · subst hB
    rw [Store.mem_patrimoine_sansBanque]
    constructor
    · rintro ⟨hl, hreste⟩
      exact ⟨hl, fun _ htable => hreste ((Store.efface_iff hl).2 htable)⟩
    · rintro ⟨hl, hreste⟩
      exact ⟨hl, fun hefface => hreste rfl ((Store.efface_iff hl).1 hefface)⟩
  · have hautres := Store.patrimoine_sansBanque_autres.2
      (fun a ha c hc hid howner => (h a ha c hc hid).symm.trans howner) B (Ne.symm hB)
    rw [hautres]
    exact ⟨fun hl => ⟨hl, fun heq => absurd heq hB⟩, And.left⟩

/-- Apart from the calls to the bank, a request that did not fail in the database succeeded. -/
private theorem under_base {α : Type} {p : Programme α} {Q : α → Store → Prop}
    (hp : p.Uses fun o : Op => ∀ a, o ≠ .banque a) (h : Under (machine col) Evenement.Reussi p s Q) :
    Under (machine col) Evenement.BaseReussie p s Q := by
  refine Under.of_uses hp ?_ h
  rintro ⟨before, o, x⟩ ho he
  cases o with
  | sql r => exact he
  | banque a => exact absurd rfl (ho a)
  | publier | nonce | uuidV4 | maintenant => trivial

/-- A statement answered without a failure of the database does what its effect says. -/
private theorem under_base_interroger {r : Requete} :
    Under (machine col) Evenement.BaseReussie (interrogerChiffre r).run s
      (Returns fun v s' => ∃ x, r.effet col x s = .ok (v, s')) :=
  under_base (uses_interrogerChiffre fun _ h => nomatch h) under_statement

/-- The bank may refuse a revocation: it is counted. -/
private theorem under_base_revoquer {rapport : RapportEffacement} {consent : Consent} :
    Under (machine col) Evenement.BaseReussie (Effacement.revoquer rapport consent).run s
      (Returns fun _ s' => s' = s) := by
  refine Under.ret_bind (R := fun _ s' => s' = s)
    (Under.run_ofProg (under_perform.2 fun c _ => rfl)) ?_
  rintro (e | consent) s₁ rfl <;> exact under_pure.2 rfl

/-- When the database does not fail, the erasure answers, whatever the bank says. -/
private theorem under_reponse_effacer (hfiable : crypto.Fiable) (hs : s.ConsentsLisibles crypto) :
    Under (machine col) Evenement.BaseReussie
      (Effacement.effacerDonneesProprietaire crypto A).run s
      (Returns fun _ _ => True) := by
  refine Under.ret_bind (R := fun _ _ => True) (Under.ret_mapError (Under.ret_mapError
    (Under.ret_bind under_base_interroger ?_))) ?_
  · rintro rows s₁ ⟨x, heffet⟩
    obtain ⟨hrows, -⟩ := lire_eq_ok.1 heffet
    have hlus : ∀ c ∈ rows, Dechiffrable (Consents.intoConsent crypto) c := by
      intro c hc
      rw [hrows] at hc
      exact dechiffrable_intoConsent hfiable (hs c (Table.mem_select.1 (mem_arrange.1 hc)).1).1
    obtain ⟨consents, hconsents⟩ := exists_mapM.2 hlus
    rw [hconsents]
    exact under_pure.2 trivial
  intro actifs s₁ _
  refine Under.ret_bind (R := fun _ _ => True) ?_ ?_
  · exact Under.ret_foldlM trivial fun _ _ _ s _ =>
      under_base_revoquer.ret_mono fun _ _ _ => trivial
  intro rapport s₂ _
  refine Under.ret_bind (R := fun _ _ => True) ?_ ?_
  · exact Under.ret_mapError (Under.ret_mapError
      (under_base_interroger.ret_mono fun _ _ _ => trivial))
  intro comptes s₃ _
  refine Under.ret_bind (R := fun _ _ => True) ?_ ?_
  · exact Under.ret_mapError (Under.ret_mapError
      (under_base_interroger.ret_mono fun _ _ _ => trivial))
  intro consents s₄ _
  exact under_pure.2 trivial

/-- When the database does not fail, the erasure is made. -/
theorem under_effacer (hfiable : crypto.Fiable) (hs : s.ConsentsLisibles crypto) :
    Under (machine col) Evenement.BaseReussie
      (Effacement.effacerDonneesProprietaire crypto A).run s fun _ s' => s' = s.sansBanque A := by
  rintro t (e | rapport) s' hrun hbase
  · exact (under_reponse_effacer hfiable hs hrun hbase).elim
  · exact effacer_ok hrun

end Erasure

/-! ## The loop -/

section Loop

variable {col : Collation} {fromSlice : LecteurJson} {cfg : Configuration} {s : Store}

/-- A message erases the user that it names. -/
theorem under_appliquer (hfiable : cfg.crypto.Fiable) (hs : s.ConsentsLisibles cfg.crypto)
    {payload : List UInt8} :
    Under (machine col) Evenement.BaseReussie
      (UserDeletedHandler.appliquer fromSlice cfg payload) s fun _ s' =>
        (∃ A, parserUserDeleted fromSlice payload = .ok A ∧ s' = s.sansBanque A) ∨
          (∃ erreur, parserUserDeleted fromSlice payload = .error erreur) ∧ s' = s := by
  unfold UserDeletedHandler.appliquer
  cases hparser : parserUserDeleted fromSlice payload with
  | error erreur => exact under_pure.2 (.inr ⟨⟨erreur, rfl⟩, rfl⟩)
  | ok A =>
      refine Under.bind (under_effacer (A := A) hfiable hs) ?_
      rintro _ s' rfl
      exact under_pure.2 (.inl ⟨A, rfl, rfl⟩)

/-- Without a failure of the database, the loop takes the rows of the users that are named in
the tables of the bank, and nothing else. -/
theorem under_boucle (hfiable : cfg.crypto.Fiable) (polls : List Poll)
    (hs : s.ConsentsLisibles cfg.crypto) (htitulaire : s.ComptesDuTitulaire) :
    Under (machine col) Evenement.BaseReussie (AbonneRelay.boucle fromSlice cfg polls) s
      fun _ s' => ∀ B ligne, ligne ∈ s'.patrimoine B ↔
        ligne ∈ s.patrimoine B ∧
          (Parti fromSlice polls B → ligne.table ∉ Store.tablesEffacees) := by
  induction polls generalizing s with
  | nil =>
      refine under_pure.2 fun B ligne => ⟨fun hl => ⟨hl, ?_⟩, And.left⟩
      rintro ⟨poll, hpoll, -⟩
      cases hpoll
  | cons poll polls ih =>
      cases poll with
      | publication payload =>
          refine Under.bind (under_appliquer hfiable hs) ?_
          rintro _ s₁ (⟨A, hA, rfl⟩ | ⟨⟨erreur, herreur⟩, rfl⟩)
          · refine (ih hs.sansBanque htitulaire.sansBanque).mono ?_
            intro _ s' hs' B ligne
            have hnomme : (Poll.publication payload).Nomme fromSlice B ↔ A = B := by
              rw [Poll.Nomme, hA, Except.ok.injEq]
            rw [hs', htitulaire.mem_sansBanque, parti_cons, hnomme, or_imp, and_assoc]
          · refine (ih hs htitulaire).mono ?_
            intro _ s' hs' B ligne
            have hnomme : ¬ (Poll.publication payload).Nomme fromSlice B := by
              rw [Poll.Nomme, herreur]
              simp
            rw [hs', parti_cons, or_iff_right hnomme]
      | autre | erreur =>
          refine (ih hs htitulaire).mono ?_
          intro _ s' hs' B ligne
          rw [hs', parti_cons, Poll.Nomme, false_or]

/-- After any run of the service, the deliveries of the broker take, from the tables of the
bank, the rows of the users they name, and they take nothing else: their order, their
repetitions and the messages that mean nothing do not matter, and neither do the failures of
the bank or those of earlier deliveries. -/
theorem livraisons_exactes {jwt : JwtService} {s₀ s' : Store} (h₀ : s₀.Amorcee)
    {l : List (Step (portes jwt fromSlice cfg) (machine col))}
    (h : Effects.Execution (portes jwt fromSlice cfg) (machine col) s₀ l s)
    (hfiable : cfg.crypto.Fiable) {polls : List Poll} {t : List (Evenement col)}
    (hrun : Runs (machine col) (AbonneRelay.boucle fromSlice cfg polls) s t () s')
    (hbase : ∀ e ∈ t, Evenement.BaseReussie e) :
    ∀ B ligne, ligne ∈ s'.patrimoine B ↔
      ligne ∈ s.patrimoine B ∧ (Parti fromSlice polls B → ligne.table ∉ Store.tablesEffacees) := by
  let demande : Entree → Option (service cfg).Call := Entree.operation jwt fromSlice
  obtain ⟨l', hl', -⟩ := h.through demande fun c hc => entree_passe (h.valid c hc)
  exact under_boucle hfiable polls (execution_consentsLisibles h₀.consentsLisibles hl')
    (execution_comptesDuTitulaire h₀ hl') hrun hbase

end Loop

/-! ## Deliveries at odds with one another -/

/-- Alice attaches an account, sets a category, and is deleted twice; a message is unreadable,
another one is about bob, who has nothing. -/
def comptesEtMessages : List Entree × List Poll :=
  ([.http ⟨some (Text.utf8 "Bearer alice"), .createConsent "banque"⟩,
    .http ⟨some (Text.utf8 "Bearer alice"), .completeConsent reponseBanque⟩,
    .http ⟨some (Text.utf8 "Bearer alice"), .createCategory ⟨"Jardin", "depense", none, none⟩⟩],
   [.publication (Text.utf8 "bob"), .publication [255], .publication (Text.utf8 "alice"),
    .erreur "coupure", .publication (Text.utf8 " alice")])

/-- What comes before the deliveries. -/
def etapesAvantMessages :
    List (Step (portes jetonAlice lecteurDirect Scenario.configuration)
      (machine Scenario.collation)) × Store :=
  runAll _ _ Scenario.unCompte.choix comptesEtMessages.1 0 amorcee

/-- The deliveries, one after the other. -/
def livraisons : Outcome (machine Scenario.collation) Unit :=
  run _ Scenario.unCompte.choix
    (AbonneRelay.boucle lecteurDirect Scenario.configuration comptesEtMessages.2) 500
    etapesAvantMessages.2

/-- Once the message that names `alice` is delivered, she has no account left and the others
have kept theirs. -/
theorem livraisons_exactes_alice :
    (∀ B ligne, ligne ∈ livraisons.state.patrimoine B ↔
      ligne ∈ etapesAvantMessages.2.patrimoine B ∧
        (Parti lecteurDirect comptesEtMessages.2 B → ligne.table ∉ Store.tablesEffacees)) ∧
    (etapesAvantMessages.2.bankAccount.rows.length, livraisons.state.bankAccount.rows.length) =
      (1, 0) := by
  have hexecution : Effects.Execution (portes jetonAlice lecteurDirect Scenario.configuration)
      (machine Scenario.collation) amorcee etapesAvantMessages.1 etapesAvantMessages.2 :=
    execution_runAll _ _ _ _
  have hrun : Runs (machine Scenario.collation)
      (AbonneRelay.boucle lecteurDirect Scenario.configuration comptesEtMessages.2)
      etapesAvantMessages.2 livraisons.trace livraisons.value livraisons.state :=
    runs_run _ _ _ _
  have hbase : ∀ e ∈ livraisons.trace, Evenement.BaseReussie e := by
    decide +kernel
  exact ⟨livraisons_exactes amorcee_amorcee hexecution fiable_enClair hrun hbase,
    by decide +kernel⟩

end Budgy
