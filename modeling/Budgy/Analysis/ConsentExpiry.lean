import Budgy.Analysis.StaleFailure
import Budgy.Analysis.WorkerCycle

/-!
# The end of a consent

A cycle marks a consent as expired and announces it, in a branch of the synchronisation
of an account.  The list of the due accounts leaves out those whose consent is over, so
that branch is never taken: a consent that reaches its end stays active.
`finConstatee_iff` says when no consent is left in that state.
-/

set_option autoImplicit false

namespace Budgy

open Effects Prog

/-- The consent is active past its end. -/
def ConsentRow.Perime (maintenant : DateTime) (c : ConsentRow) : Prop :=
  c.status = .active ∧ ∃ fin ∈ c.expiresAt, fin ≤ maintenant

/-- The consent carries an account whose synchronisation is due. -/
def Store.PorteEcheance (s : Store) (quota : ℤ) (maintenant : DateTime) (id : ConsentId) : Prop :=
  ∃ a ∈ s.bankAccount, a.consentId = id ∧ (∀ suivant ∈ a.nextSyncAt, suivant ≤ maintenant) ∧
    RequeteCompte.compteurDuJour a maintenant.dateNaive < quota

section

variable {col : Collation} (quota : ℤ) (maintenant : DateTime) (s : Store)
  (t : List (Evenement col)) (s' : Store)

/-- After a cycle, no consent with a due account is active past its end, and every consent
that the cycle made expired was announced to its owner. -/
def FinConstatee : Prop :=
  (∀ c ∈ s'.consent, s.PorteEcheance quota maintenant c.id → ¬ c.Perime maintenant) ∧
    ∀ c ∈ s.consent, c.status = .active → ∀ c' ∈ s'.consent, c'.id = c.id → c'.status = .expired →
      ∃ e ∈ t, e.op = .publier (.consentExpired c.ownerId maintenant)

/-- No consent with a due account is active past its end when the cycle starts. -/
def SansPerime : Prop :=
  ∀ c ∈ s.consent, s.PorteEcheance quota maintenant c.id → ¬ c.Perime maintenant

/-- What a consent may become in a cycle: it stays as it is or, in force until then, it is
marked as expired and announced. -/
def Suivi (c c' : ConsentRow) : Prop :=
  c' = c ∨ c'.id = c.id ∧ c'.status = .expired ∧ c.status = .active ∧ ¬ c.Perime maintenant ∧
    ∃ e ∈ t, e.op = .publier (.consentExpired c.ownerId maintenant)

/-- The consents after a part of a cycle are those of before, each followed. -/
def ConsentsSuivis : Prop :=
  ∃ f : ConsentRow → ConsentRow, (∀ c', c' ∈ s'.consent ↔ ∃ c ∈ s.consent, c' = f c) ∧
    ∀ c ∈ s.consent, Suivi maintenant t c (f c)

end

section Cycle

variable {col : Collation} {crypto : CryptoService} {parametres : ParametresSynchro}
  {maintenant : DateTime} {s s' : Store} {t : List (Evenement col)}

/-- A listed account goes through a consent in force. -/
private theorem Store.Echeant.enVigueur {quota : ℤ} {row : CompteEcheantRow}
    (h : s.Echeant quota maintenant row) :
    row.consent.status = .active ∧ ¬ row.consent.Perime maintenant := by
  obtain ⟨-, -, -, hdue⟩ := h
  simp only [RequeteCompte.estEcheant, Bool.and_eq_true, decide_eq_true_eq] at hdue
  obtain ⟨⟨⟨-, hactive⟩, hfutur⟩, -⟩ := hdue
  refine ⟨hactive, ?_⟩
  rintro ⟨-, fin, hfin, hpasse⟩
  rw [hfin] at hfutur
  exact not_lt.2 hpasse (of_decide_eq_true hfutur)

/-- The accounts a cycle goes through leave the consents followed. -/
private theorem Traites.suivis {past : List CompteEcheant} (h : Traites maintenant s past t s')
    (hpast : ∀ echeant ∈ past, ∃ c ∈ s.consent, c.id = echeant.consent.id ∧
      c.ownerId = echeant.compte.proprietaire ∧ c.status = .active ∧ ¬ c.Perime maintenant) :
    ConsentsSuivis maintenant s t s' := by
  induction h with
  | debut => exact ⟨id, fun c' => by simp, fun c _ => .inl rfl⟩
  | @suite past t s₁ _ echeant t' r s₂ hcompte ih =>
      obtain ⟨f, hmem, hsuivi⟩ := ih fun x hx => hpast x (List.mem_append_left _ hx)
      have hgarde : ∀ c ∈ s.consent, Suivi maintenant (t ++ t') c (f c) := by
        intro c hc
        rcases hsuivi c hc with hsame | ⟨hid, hstatus, hactive, hvalide, e, he, hop⟩
        · exact .inl hsame
        · exact .inr ⟨hid, hstatus, hactive, hvalide, e, List.mem_append_left _ he, hop⟩
      rcases hcompte.consents with hsame | ⟨⟨instant, hmarque⟩, e, he, hop⟩
      · exact ⟨f, fun c' => by rw [hsame, hmem], hgarde⟩
      · obtain ⟨c₀, hc₀, hid₀, howner₀, hactive₀, hvalide₀⟩ := hpast echeant (by simp)
        refine ⟨fun c => if (f c).id = echeant.consent.id then
          { f c with status := .expired, updatedAt := instant } else f c, fun c' => ?_, ?_⟩
        · rw [hmarque]
          constructor
          · rintro ⟨c₁, hc₁, rfl⟩
            obtain ⟨c, hc, rfl⟩ := (hmem c₁).1 hc₁
            exact ⟨c, hc, rfl⟩
          · rintro ⟨c, hc, rfl⟩
            exact ⟨f c, (hmem _).2 ⟨c, hc, rfl⟩, rfl⟩
        · intro c hc
          dsimp only
          split
          case isFalse => exact hgarde c hc
          case isTrue hid =>
            -- the consent that is marked is the one that was listed
            have hidf : (f c).id = c.id := by
              rcases hsuivi c hc with hsame | hmarque
              · rw [hsame]
              · exact hmarque.1
            obtain rfl := Relational.Table.eq_of_key_eq hc hc₀ (hidf.symm.trans (hid.trans hid₀.symm))
            refine .inr ⟨hidf, rfl, hactive₀, hvalide₀, e, List.mem_append_right _ he, ?_⟩
            rw [howner₀]
            exact hop

/-- A cycle marks no consent but those of the accounts it lists, which are in force. -/
private theorem Deroulement.suivis (htitulaire : s.ComptesDuTitulaire)
    (h : Deroulement crypto parametres s (⟨s, .maintenant, maintenant⟩ :: t) s') :
    ConsentsSuivis maintenant s (⟨s, .maintenant, maintenant⟩ :: t) s' := by
  have hintact : ConsentsSuivis maintenant s (⟨s, .maintenant, maintenant⟩ :: t) s :=
    ⟨id, fun c' => by simp, fun c _ => .inl rfl⟩
  cases h with
  | sansListe _ x hliste => exact hintact
  | illisible _ x hliste hillisible => exact hintact
  | @parcouru _ x rows hliste past rest hlisible t s' htraites harret =>
      have hpast : ∀ echeant ∈ past, ∃ c ∈ s.consent, c.id = echeant.consent.id ∧
          c.ownerId = echeant.compte.proprietaire ∧ c.status = .active ∧
          ¬ c.Perime maintenant := by
        intro echeant hechus
        obtain ⟨row, hrow, hinto⟩ :=
          Traversal.exists_of_mem hlisible (List.mem_append_left rest hechus)
        have hdue := (mem_listeEcheants hliste).1 hrow
        obtain ⟨-, howner, hconsent, -⟩ := intoCompteEcheant_eq_ok hinto
        refine ⟨row.consent, hdue.2.1, hdue.2.2.1.trans hconsent.symm, ?_, hdue.enVigueur⟩
        rw [howner]
        exact htitulaire _ hdue.1 _ hdue.2.1 hdue.2.2.1
      obtain ⟨f, hmem, hsuivi⟩ := htraites.suivis hpast
      refine ⟨f, hmem, fun c hc => ?_⟩
      rcases hsuivi c hc with hsame | ⟨hid, hstatus, hactive, hvalide, e, he, hop⟩
      · exact .inl hsame
      · exact .inr ⟨hid, hstatus, hactive, hvalide, e, by simp [he], hop⟩

/-- The end of the consents is recorded and announced exactly when no consent with a due
account was past its end before the cycle. -/
theorem finConstatee_iff {r : Except SynchroError RapportSynchro}
    (htitulaire : s.ComptesDuTitulaire)
    (hrun : Runs (machine col) (Synchro.executer crypto parametres).run s
      (⟨s, .maintenant, maintenant⟩ :: t) r s') :
    FinConstatee parametres.quotaJournalier maintenant s (⟨s, .maintenant, maintenant⟩ :: t) s' ↔
      SansPerime parametres.quotaJournalier maintenant s := by
  obtain ⟨f, hmem, hsuivi⟩ := (spec_executer hrun).suivis htitulaire
  constructor
  · rintro ⟨hfin, -⟩ c hc hporte hperime
    -- a consent past its end is left as it is
    rcases hsuivi c hc with hsame | ⟨-, -, -, hvalide, -⟩
    · exact hfin c ((hmem c).2 ⟨c, hc, hsame.symm⟩) hporte hperime
    · exact hvalide hperime
  · intro hsans
    refine ⟨?_, ?_⟩
    · intro c' hc' hporte hperime
      obtain ⟨c, hc, rfl⟩ := (hmem c').1 hc'
      rcases hsuivi c hc with hsame | ⟨-, hexpire, -⟩
      · rw [hsame] at hporte hperime
        exact hsans c hc hporte hperime
      · exact nomatch hperime.1.symm.trans hexpire
    · intro c hc hactive c' hc' hid hexpire
      obtain ⟨c₁, hc₁, rfl⟩ := (hmem c').1 hc'
      rcases hsuivi c₁ hc₁ with hsame | ⟨hid₁, -, -, -, hannonce⟩
      · rw [hsame] at hid hexpire
        obtain rfl := Relational.Table.eq_of_key_eq hc₁ hc hid
        exact nomatch hactive.symm.trans hexpire
      · obtain rfl := Relational.Table.eq_of_key_eq hc₁ hc (hid₁.symm.trans hid)
        exact hannonce

end Cycle

/-! ## A consent of three days -/

/-- A cycle, four days later. -/
def cycleTardif : Outcome (machine Scenario.collation) (Except SynchroError RapportSynchro) :=
  run (machine Scenario.collation)
    (Scenario.choix { Scenario.calme with horloge := fun _ => Duration.days 4 })
    (Synchro.executer enClair .defaut).run 0 consentBientotExpire

/-- The cycle is a run, of which the first request is known. -/
private theorem runs_cycleTardif :
    Runs (machine Scenario.collation) (Synchro.executer enClair .defaut).run consentBientotExpire
      (⟨consentBientotExpire, .maintenant, Duration.days 4⟩ :: cycleTardif.trace.tail)
      cycleTardif.value cycleTardif.state := by
  have htrace : cycleTardif.trace =
      ⟨consentBientotExpire, .maintenant, Duration.days 4⟩ :: cycleTardif.trace.tail := rfl
  rw [← htrace]
  exact runs_run _ _ _ _

/-- The account belongs to the holder of its consent. -/
private theorem titulaire_consentBientotExpire : consentBientotExpire.ComptesDuTitulaire :=
  execution_comptesDuTitulaire amorcee_amorcee (execution_runAll _ _ _ _)

/-- The consent is over since a day, and the cycle leaves it active. -/
private theorem perime_cycleTardif :
    ¬ FinConstatee quotaJournalierDefaut (Duration.days 4) consentBientotExpire
      (⟨consentBientotExpire, .maintenant, Duration.days 4⟩ :: cycleTardif.trace.tail)
      cycleTardif.state := by
  have hperime : ∃ c ∈ cycleTardif.state.consent.rows,
      (∃ a ∈ consentBientotExpire.bankAccount.rows, a.consentId = c.id ∧
        (∀ suivant ∈ a.nextSyncAt, suivant ≤ Duration.days 4) ∧
        RequeteCompte.compteurDuJour a (DateTime.dateNaive (Duration.days 4)) <
          quotaJournalierDefaut) ∧
      c.status = .active ∧ ∃ fin ∈ c.expiresAt, fin ≤ Duration.days 4 := by
    decide +kernel
  obtain ⟨c, hc, hporte, hperime⟩ := hperime
  exact fun hfin => hfin.1 c hc hporte hperime

/-- After the cycle, the consent is still active, and nothing was announced. -/
theorem not_finConstatee_cycleTardif :
    Runs (machine Scenario.collation) (Synchro.executer enClair .defaut).run consentBientotExpire
        (⟨consentBientotExpire, .maintenant, Duration.days 4⟩ :: cycleTardif.trace.tail)
        cycleTardif.value cycleTardif.state ∧
      (∀ e ∈ cycleTardif.trace, Evenement.Reussi e) ∧
      ¬ FinConstatee quotaJournalierDefaut (Duration.days 4) consentBientotExpire
        (⟨consentBientotExpire, .maintenant, Duration.days 4⟩ :: cycleTardif.trace.tail)
        cycleTardif.state :=
  ⟨runs_cycleTardif, by decide +kernel, perime_cycleTardif⟩

/-- Its end came before the cycle. -/
theorem not_sansPerime_consentBientotExpire :
    ¬ SansPerime quotaJournalierDefaut (Duration.days 4) consentBientotExpire :=
  fun hsans => perime_cycleTardif
    ((finConstatee_iff titulaire_consentBientotExpire runs_cycleTardif).2 hsans)

end Budgy
