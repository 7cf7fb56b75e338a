import Budgy.Analysis.Concurrency

/-!
# What a callback went through

Side by side, a callback is known by what it asked and was answered.  It writes only after
it read its consent pending (`Ecrit`), and it answers that the consent is active only after
it found it so or made it so (`conclu_completeConsent`).
-/

set_option autoImplicit false

namespace Budgy

open Effects Prog

/-- The answer to: which consent of `A` has this identifier? -/
abbrev lectureConsent (A : ProprietaireId) (id : ConsentId) (row : ConsentRow) : Entry signature :=
  ⟨.sql (.consent (.fetchPourProprietaire id A)), .ok (some row)⟩

/-- The callback of `A` reads the consent pending. -/
def LuEnAttente (A : ProprietaireId) (id : ConsentId) (x : Entry signature) : Prop :=
  ∃ row : ConsentRow, row.status = .pending ∧ x = lectureConsent A id row

/-- The callback of `A` finds the consent active, or makes it so. -/
inductive RenduActif (A : ProprietaireId) (id : ConsentId) : Entry signature → Prop where
  | trouve (row : ConsentRow) (hrow : row.status = .active) :
      RenduActif A id (lectureConsent A id row)
  | active (blob : List UInt8) (expiresAt : Option DateTime) (lignes : ℕ) :
      RenduActif A id ⟨.sql (.consent (.mettreAJour .active blob expiresAt id A)), .ok lignes⟩

/-- A callback writes only after it read the consent pending. -/
def Ecrit (A : ProprietaireId) (id : ConsentId) (e : Event (journal signature)) : Prop :=
  e.op.ecrit ≠ [] → ∃ x ∈ e.before, LuEnAttente A id x

/-- A callback that answers that its consent is active has found it so or made it so. -/
def Conclu (A : ProprietaireId) (id : ConsentId) (dto : ConsentCompletionDto)
    (h : List (Entry signature)) : Prop :=
  dto.status = .active → ∃ x ∈ h, RenduActif A id x

section Journal

variable {crypto : CryptoService} {A : ProprietaireId} {id : ConsentId}
  {h : List (Entry signature)} {α : Type}

/-- A request that stays inside writes nothing. -/
private theorem interne_lecture (o : Op) (ho : o.Interne) : o.ecrit = [] := ho.lecture

/-- Once the consent was read pending the callback may write; what it went through stays. -/
private theorem guarded_suite {p : Programme α} {P : Entry signature → Prop}
    (hp : p.Uses fun _ => True) (hlu : ∃ x ∈ h, LuEnAttente A id x) (hP : ∃ x ∈ h, P x) :
    Guarded (journal signature) (Ecrit A id) p h fun _ h' => ∃ x ∈ h', P x := by
  have hstep := Guarded.of_uses (M := journal signature) (G := Ecrit A id)
    (I := fun h => (∃ x ∈ h, LuEnAttente A id x) ∧ ∃ x ∈ h, P x) hp ⟨hlu, hP⟩ ?_
  · exact hstep.mono fun _ _ hend => hend.2
  · rintro ⟨h, o, r⟩ - ⟨⟨x, hx, hlu⟩, y, hy, hP⟩
    exact ⟨fun _ => ⟨x, hx, hlu⟩, ⟨x, List.mem_append_left _ hx, hlu⟩,
      y, List.mem_append_left _ hy, hP⟩

/-- The read of the consent shows the status of the row it was answered. -/
private theorem guarded_fetch :
    Guarded (journal signature) (Ecrit A id)
      (lectureApi (ConsentsAdapter.fetchPourProprietaire crypto A id)).run h
      (OnOk fun existant h' => ∀ consent, existant = some consent →
        ∃ row, row.status = consent.status ∧ lectureConsent A id row ∈ h') := by
  refine Guarded.ok_mapError (Guarded.ok_mapError (Guarded.ok_bind
    (R := fun existant h' => ∀ row, existant = some row → lectureConsent A id row ∈ h')
    (Guarded.ok_mapError (guarded_perform.2 ?_)) ?_))
  · rintro (e | existant)
    · exact ⟨fun hw => absurd rfl hw, trivial⟩
    · refine ⟨fun hw => absurd rfl hw, ?_⟩
      rintro row rfl
      exact List.mem_append_right _ (List.mem_singleton.2 rfl)
  · rintro (_ | row) h' hrow
    · exact guarded_run_pure.2 fun _ h => nomatch h
    · refine Guarded.ok_bind (R := fun consent h'' => row.status = consent.status ∧ h'' = h')
        (guarded_pure.2 ?_) ?_
      · cases hconsent : Consents.intoConsent crypto row with
        | error e => trivial
        | ok consent => exact ⟨(intoConsent_status hconsent).symm, rfl⟩
      · rintro consent _ ⟨hstatus, rfl⟩
        refine guarded_run_pure.2 ?_
        rintro _ ⟨⟩
        exact ⟨row, hstatus, hrow row rfl⟩

/-- The answer to a callback that is played again is that of an active consent. -/
private theorem guarded_completionExistante {status : ConsentStatus}
    (hh : status = .active → ∃ x ∈ h, RenduActif A id x) :
    Guarded (journal signature) (Ecrit A id)
      (Handlers.completionExistante crypto A id status).run h (OnOk (Conclu A id)) := by
  refine Guarded.ok_bind (R := fun _ h' => status = .active → ∃ x ∈ h', RenduActif A id x) ?_
    fun comptes h' hh' => guarded_run_pure.2 hh'
  refine (Guarded.of_uses (P := fun o : Op => o.ecrit = [])
    (I := fun h => status = .active → ∃ x ∈ h, RenduActif A id x) ?_ hh ?_).mono ?_
  · exact Uses.run_mapError (uses_listerParConsent interne_lecture)
  · rintro ⟨h, o, r⟩ ho hbefore
    refine ⟨fun hw => absurd ho hw, fun hactive => ?_⟩
    obtain ⟨x, hx, hrendu⟩ := hbefore hactive
    exact ⟨x, List.mem_append_left _ hx, hrendu⟩
  · rintro (_ | _) h' hh'
    · trivial
    · exact hh'

/-- The update that makes the consent active. -/
private theorem guarded_activer {maj : MiseAJourConsent} (hmaj : maj.status = .active)
    (hlu : ∃ x ∈ h, LuEnAttente A id x) :
    Guarded (journal signature) (Ecrit A id)
      (ecritureApi (ConsentsAdapter.mettreAJour crypto A id maj)).run h
      (OnOk fun _ h' => (∃ x ∈ h', LuEnAttente A id x) ∧ ∃ x ∈ h', RenduActif A id x) := by
  obtain ⟨y, hy, hlu⟩ := hlu
  have hecrit : ∀ e : Event (journal signature), y ∈ e.before → Ecrit A id e :=
    fun e hy _ => ⟨y, hy, hlu⟩
  refine Guarded.ok_mapError (Guarded.ok_mapError (Guarded.ok_bind (R := fun _ h' => y ∈ h') ?_ ?_))
  · refine (Guarded.of_uses (P := fun _ : Op => True) (I := fun h => y ∈ h)
      (uses_chiffrerTexteFrais trivial) hy ?_).mono ?_
    · exact fun e _ hy => ⟨hecrit e hy, List.mem_append_left _ hy⟩
    · rintro (_ | _) h' hh'
      · trivial
      · exact hh'
  · rintro blob h' hy
    refine Guarded.ok_bind (Guarded.ok_mapError (guarded_perform.2 ?_))
      fun _ h' hh' => guarded_run_pure.2 hh'
    rintro (e | lignes)
    · exact ⟨hecrit _ hy, trivial⟩
    · refine ⟨hecrit _ hy, ⟨y, List.mem_append_left _ hy, hlu⟩, ?_⟩
      refine ⟨_, List.mem_append_right _ (List.mem_singleton.2 rfl), ?_⟩
      rw [hmaj]
      exact .active blob maj.expiresAt lignes

/-- A callback writes only after it read its consent pending, and answers that the consent
is active only after it found it so or made it so. -/
theorem conclu_completeConsent {payload : ConsentCallbackRequest}
    (hid : Handlers.parseConsentId payload.state = .ok id) :
    Guarded (journal signature) (Ecrit A id) (Handlers.completeConsent crypto A payload).run h
      (OnOk (Conclu A id)) := by
  unfold Handlers.completeConsent
  rw [hid]
  refine Guarded.ok_bind (R := fun id' h' => id = id' ∧ h = h') (guarded_pure.2 ⟨rfl, rfl⟩) ?_
  rintro _ _ ⟨rfl, rfl⟩
  refine Guarded.ok_bind guarded_fetch fun existant h₁ hfetch => ?_
  refine Guarded.ok_bind (R := fun consent h' => existant = some consent ∧ h₁ = h') ?_ ?_
  · cases existant with
    | none => exact guarded_run_throw.2 trivial
    | some consent => exact guarded_run_pure.2 ⟨rfl, rfl⟩
  rintro consent _ ⟨hexistant, rfl⟩
  obtain ⟨row, hstatus, hrow⟩ := hfetch consent hexistant
  split
  · exact guarded_completionExistante fun hactive => ⟨_, hrow, .trouve row (hstatus.trans hactive)⟩
  rename_i hpending
  have hlu : ∃ x ∈ h₁, LuEnAttente A id x :=
    ⟨_, hrow, row, hstatus.trans (not_not.1 hpending), rfl⟩
  refine Guarded.run_bind (R := fun _ h' => ∃ x ∈ h', LuEnAttente A id x)
    (guarded_suite (uses_true _) hlu hlu) ?_ fun _ _ _ => trivial
  rintro (erreur | actif) h₂ hlu
  · refine Guarded.run_bind (guarded_suite (uses_true _) hlu hlu)
      (fun reponse h' _ => guarded_run_throw.2 trivial) fun _ _ _ => trivial
  · refine Guarded.ok_bind (guarded_activer rfl hlu) ?_
    rintro _ h₃ ⟨hlu, hrendu⟩
    refine (guarded_suite (uses_true _) hlu hrendu).mono ?_
    rintro (_ | dto) h' hh'
    · trivial
    · exact fun _ => hh'

end Journal

/-! ## Side by side -/

section Pool

variable {ι : Type} [DecidableEq ι] {col : Collation} {cfg : Configuration}
  {demandes : ι → Operation} {s s' : Store} {l l₁ l₂ : List (ι × Evenement col)}
  {pool' : ι → Programme Issue} {i : ι} {A : ProprietaireId} {payload : ConsentCallbackRequest}
  {id : ConsentId}

/-- A callback that succeeds has made the consent active, or found it so. -/
private theorem guarded_rappel {cfg : Configuration}
    (hid : Handlers.parseConsentId payload.state = .ok id) :
    Guarded (journal signature) (Ecrit A id) ((Operation.completeConsent A payload).tache cfg) []
      fun issue h => ∀ A' payload' dto, issue = ⟨.completeConsent A' payload', .ok dto⟩ →
        Conclu A id dto h := by
  refine guarded_tache ((conclu_completeConsent hid).mono ?_)
  rintro r h' hconclu A' payload' dto heq
  cases heq
  exact hconclu

/-- A callback that writes read its consent pending before. -/
theorem Entrelacement.lu (h : Entrelacement col cfg demandes s l pool' s')
    (hi : demandes i = .completeConsent A payload)
    (hid : Handlers.parseConsentId payload.state = .ok id) {e : Evenement col}
    (hl : l = l₁ ++ (i, e) :: l₂) (he : e.op.ecrit ≠ []) :
    ∃ v, (i, v) ∈ l₁ ∧ LuEnAttente A id (Event.entry v) := by
  have hguard : Guarded (journal signature) (Ecrit A id) ((demandes i).tache cfg) [] _ :=
    hi ▸ guarded_rappel hid
  obtain ⟨x, hx, hlu⟩ := h.guarded_at hguard hl he
  obtain ⟨v, hv, rfl⟩ := mem_history.1 hx
  exact ⟨v, hv, hlu⟩

/-- A callback that answers that its consent is active found it so or made it so. -/
theorem Entrelacement.rendu (h : Entrelacement col cfg demandes s l pool' s')
    (hi : demandes i = .completeConsent A payload)
    (hid : Handlers.parseConsentId payload.state = .ok id) {A' : ProprietaireId}
    {payload' : ConsentCallbackRequest} {dto : ConsentCompletionDto}
    (ha : pool' i = .pure ⟨.completeConsent A' payload', .ok dto⟩) (hactive : dto.status = .active) :
    ∃ w, (i, w) ∈ l ∧ RenduActif A id (Event.entry w) := by
  have hguard : Guarded (journal signature) (Ecrit A id) ((demandes i).tache cfg) [] _ :=
    hi ▸ guarded_rappel hid
  obtain ⟨x, hx, hrendu⟩ := h.answer_at hguard ha A' payload' dto rfl hactive
  obtain ⟨w, hw, rfl⟩ := mem_history.1 hx
  exact ⟨w, hw, hrendu⟩

end Pool

end Budgy
