import Budgy.Analysis.Callbacks
import Budgy.Analysis.Evolution

/-!
# A callback that is played twice

Played again after its end, a callback answers what the first one did.  Played twice at
once it may undo itself: the bank takes a code once, so the slower callback is refused, and
it marks the consent as failed without reading it again.  `rejeu_idempotent` says that
nothing else undoes a callback that has answered.
-/

set_option autoImplicit false

namespace Budgy

open Effects

/-- The request moves the consent to `Failed`. -/
def Evenement.Echoue {col : Collation} (id : ConsentId) (e : Evenement col) : Prop :=
  (∀ c ∈ e.before.consent, c.id = id → c.status ≠ .failed) ∧
    ∃ c ∈ e.after.consent, c.id = id ∧ c.status = .failed

/-- Nobody makes or finds the consent active between the moment a callback reads it
pending and the moment the same callback moves it to `Failed`. -/
def SansRetard {ι : Type} {col : Collation} (A : ProprietaireId) (id : ConsentId)
    (l : List (ι × Evenement col)) : Prop :=
  ∀ l₀ v l₁ e l₂ j, l = l₀ ++ (j, v) :: (l₁ ++ (j, e) :: l₂) →
    LuEnAttente A id (Event.entry v) → Evenement.Echoue id e →
      ∀ x ∈ l₁, x.1 ≠ j → ¬ RenduActif A id (Event.entry x.2)

/-- The status that a callback has answered without error. -/
def statutRepondu : Programme Issue → Option ConsentStatus
  | .pure ⟨.completeConsent _ _, .ok dto⟩ => some dto.status
  | _ => none

/-- A program that answered a status is a callback that succeeded. -/
theorem eq_of_statutRepondu {p : Programme Issue} {status : ConsentStatus}
    (h : statutRepondu p = some status) :
    ∃ A payload dto, p = .pure ⟨.completeConsent A payload, .ok dto⟩ ∧ dto.status = status := by
  unfold statutRepondu at h
  split at h
  · exact ⟨_, _, _, rfl, Option.some.inj h⟩
  · cases h

/-- The consent of `A` is no longer pending. -/
def Store.Traite (A : ProprietaireId) (id : ConsentId) (s : Store) : Prop :=
  ∀ c ∈ s.consent, c.id = id → c.ownerId = A → c.status ≠ .pending

section Events

variable {col : Collation} {A : ProprietaireId} {id : ConsentId} {e : Evenement col}

/-- A consent read pending is pending. -/
theorem not_traite_of_lu (h : LuEnAttente A id (Event.entry e)) : ¬ e.before.Traite A id := by
  obtain ⟨row, hrow, hentry⟩ := h
  obtain ⟨-, x, heffet⟩ := effet_of_entry hentry
  obtain ⟨hfind, -⟩ := lire_eq_ok.1 heffet
  obtain ⟨hfind, howner⟩ := Option.filter_eq_some_iff.1 hfind.symm
  obtain ⟨hmem, hid⟩ := Relational.Table.find?_eq_some.1 hfind
  exact fun htraite => htraite row hmem hid (by simpa using howner) hrow

/-- A consent found or made active is not pending. -/
theorem traite_of_rendu (h : RenduActif A id (Event.entry e)) : e.after.Traite A id := by
  intro c hc hid howner hpending
  generalize hentry : Event.entry e = y at h
  cases h with
  | trouve row hrow =>
      obtain ⟨-, x, heffet⟩ := effet_of_entry hentry
      obtain ⟨hfind, hafter⟩ := lire_eq_ok.1 heffet
      obtain ⟨hfind, -⟩ := Option.filter_eq_some_iff.1 hfind.symm
      obtain ⟨hmem, hid'⟩ := Relational.Table.find?_eq_some.1 hfind
      rw [hafter] at hc
      obtain rfl := Relational.Table.eq_of_key_eq hc hmem (hid.trans hid'.symm)
      exact nomatch hrow.symm.trans hpending
  | active blob expiresAt lignes =>
      obtain ⟨-, x, heffet⟩ := effet_of_entry hentry
      obtain ⟨-, hafter⟩ := Prod.mk.inj (Except.ok.inj heffet)
      rw [← hafter] at hc
      obtain ⟨c₀, -, rfl⟩ := Store.mem_majConsent.1 hc
      split at hpending
      · cases hpending
      · rename_i hautre
        rw [if_neg hautre] at hid howner
        exact hautre (by simp [hid, howner])

end Events

section Pool

variable {ι : Type} [DecidableEq ι] {col : Collation} {cfg : Configuration} {A : ProprietaireId}
  {payload : ConsentCallbackRequest} {id : ConsentId} {s s' : Store}
  {l : List (ι × Evenement col)} {pool' : ι → Programme Issue}

/-- What becomes of a consent while callbacks run: nothing, or it is made active or
failed. -/
private theorem consent_after_rappel
    (h : Entrelacement col cfg (fun _ => .completeConsent A payload) s l pool' s')
    {x : ι × Evenement col} (hx : x ∈ l) {c : ConsentRow} (hc : c ∈ (Event.after x.2).consent) :
    c ∈ x.2.before.consent ∨
      (c.status = .active ∨ c.status = .failed) ∧ x.2.op.ecrit ≠ [] := by
  rcases consent_after hc with hold | ⟨r, hop, ⟨c₀, hc₀, hdevient⟩ | ⟨_, _, rfl⟩⟩
  · exact .inl hold
  · cases hdevient with
    | intact => exact .inl hc₀
    | misAJour status blob expiresAt updatedAt =>
        cases h.emet hx hop (by simp)
        exact .inr ⟨.inl rfl, by rw [hop]; simp [Op.ecrit]⟩
    | marque status updatedAt =>
        cases h.emet hx hop (by simp)
        exact .inr ⟨.inr rfl, by rw [hop]; simp [Op.ecrit]⟩
    | marqueParCycle status updatedAt => cases h.emet hx hop (by simp)
  · cases h.emet hx hop (by simp)

/-- A consent that is no longer pending stays so. -/
private theorem traite_after
    (h : Entrelacement col cfg (fun _ => .completeConsent A payload) s l pool' s')
    {x : ι × Evenement col} (hx : x ∈ l) (hbefore : x.2.before.Traite A id) :
    (Event.after x.2).Traite A id := by
  intro c hc hid howner hpending
  rcases consent_after_rappel h hx hc with hold | ⟨hactive | hfailed, -⟩
  · exact hbefore c hold hid howner hpending
  · exact nomatch hactive.symm.trans hpending
  · exact nomatch hfailed.symm.trans hpending

/-- In callbacks played at once with one state, if no callback reads the consent pending
and fails after another one made or found it active, then the consent is never moved to
`Failed` by another callback once one has answered that it is active. -/
theorem rejeu_idempotent (hid : Handlers.parseConsentId payload.state = .ok id)
    (h : Entrelacement col cfg (fun _ : ι => .completeConsent A payload) s l pool' s')
    (hretard : SansRetard A id l) :
    ∀ l₀ l₁ pool₀ s₀ i, l = l₀ ++ l₁ →
      Entrelacement col cfg (fun _ : ι => .completeConsent A payload) s l₀ pool₀ s₀ →
      statutRepondu (pool₀ i) = some .active → ∀ x ∈ l₁, x.1 ≠ i → ¬ Evenement.Echoue id x.2 := by
  rintro l₀ l₁ pool₀ s₀ i rfl h₀ hstatut ⟨j, e⟩ hx hji hechoue
  obtain ⟨A', payload', dto, hanswer, hactive⟩ := eq_of_statutRepondu hstatut
  have hx' : (j, e) ∈ l₀ ++ l₁ := List.mem_append_right _ hx
  obtain ⟨m₁, m₂, rfl⟩ := List.append_of_mem hx
  -- the callback that answered made or found the consent active
  obtain ⟨w, hw, hrendu⟩ := h₀.rendu rfl hid hanswer hactive
  -- the one that fails it had read it pending
  have hecrit : e.op.ecrit ≠ [] := by
    obtain ⟨hbefore, c, hc, hcid, hfailed⟩ := hechoue
    rcases consent_after_rappel h hx' hc with hold | ⟨-, hecrit⟩
    · exact absurd hfailed (hbefore c hold hcid)
    · exact hecrit
  obtain ⟨v, hv, hlu⟩ := h.lu rfl hid (List.append_assoc _ _ _).symm hecrit
  obtain ⟨a, b, hab⟩ := List.append_of_mem hv
  have hl : l₀ ++ (m₁ ++ (j, e) :: m₂) = a ++ (j, v) :: (b ++ (j, e) :: m₂) := by
    rw [← List.append_assoc, hab, List.append_assoc, List.cons_append]
  have hwhere : (i, w) ∈ a ++ (j, v) :: b := hab ▸ List.mem_append_left _ hw
  rcases List.mem_append.1 hwhere with hwa | hwb
  · -- it was no longer pending when it was read
    obtain ⟨a₁, a₂, rfl⟩ := List.append_of_mem hwa
    rw [hl, List.append_assoc, List.cons_append] at h
    refine not_traite_of_lu hlu (h.preserves_between (I := Store.Traite A id)
      (traite_of_rendu hrendu) fun x hx => traite_after h (by simp [hx]))
  · rcases List.mem_cons.1 hwb with heq | hwb
    · exact hji (Prod.mk.inj heq).1.symm
    · exact hretard a v b e m₂ j hl hlu hechoue (i, w) hwb (Ne.symm hji) hrendu

end Pool

/-! ## Two callbacks at once -/

/-- The bank accepts the code of this request. -/
def Evenement.codeAccepte {col : Collation} (e : Evenement col) : Bool :=
  match Event.entry e with
  | ⟨.banque (.completerConsentement _ _), .ok _⟩ => true
  | _ => false

/-- A bank with one account, which takes a code in its first three requests. -/
def banqueCodeUnique (n : ℕ) : (o : Op) → o.Choix
  | .banque (.completerConsentement proprietaire _) =>
      if n ≤ 2 then .ok (consentBancaire (Uuid.fromU128 0) proprietaire)
      else .error .consentementInvalide
  | o => Scenario.unCompte.choix n o

/-- A user whose consent is pending. -/
def consentEnAttente : Store := Scenario.calme.fin [.createConsent "alice" "banque"]

/-- Two copies of the callback, in a given order. -/
def rappelsEnsemble (ordre : List Bool) :
    List (Bool × Evenement Scenario.collation) × (Bool → Programme Issue) × Store :=
  runPool _ banqueCodeUnique ordre 0
    (fun _ => (Operation.completeConsent "alice" reponseBanque).tache Scenario.configuration)
    consentEnAttente

/-- The two callbacks are an interleaving. -/
theorem entrelacement_rappelsEnsemble (ordre : List Bool) :
    Entrelacement Scenario.collation Scenario.configuration
      (fun _ => .completeConsent "alice" reponseBanque) consentEnAttente (rappelsEnsemble ordre).1
      (rappelsEnsemble ordre).2.1 (rappelsEnsemble ordre).2.2 :=
  interleaving_runPool _ _ _ _ _

/-- What is left of the callbacks goes on. -/
def rappelsSuite (ordre : List Bool)
    (avant : List (Bool × Evenement Scenario.collation) × (Bool → Programme Issue) × Store) :
    List (Bool × Evenement Scenario.collation) × (Bool → Programme Issue) × Store :=
  runPool _ banqueCodeUnique ordre avant.1.length avant.2.1 avant.2.2

/-- So is what follows. -/
theorem interleaving_rappelsSuite (ordre : List Bool)
    (avant : List (Bool × Evenement Scenario.collation) × (Bool → Programme Issue) × Store) :
    Interleaving (machine Scenario.collation) avant.2.1 avant.2.2 (rappelsSuite ordre avant).1
      (rappelsSuite ordre avant).2.1 (rappelsSuite ordre avant).2.2 :=
  interleaving_runPool _ _ _ _ _

/-- The first callback goes to its end, alone. -/
def premierSeul :
    List (Bool × Evenement Scenario.collation) × (Bool → Programme Issue) × Store :=
  rappelsEnsemble (List.replicate 10 false)

/-- Then the second one. -/
def secondEnsuite :
    List (Bool × Evenement Scenario.collation) × (Bool → Programme Issue) × Store :=
  rappelsSuite [true, true] premierSeul

/-- A callback that is played again once the first one is over does not fail the consent. -/
theorem rejeu_idempotent_secondEnsuite :
    secondEnsuite.1.Forall fun x =>
      x.1 ≠ false → ¬ Evenement.Echoue (Uuid.fromU128 1000) x.2 := by
  have h₀ := entrelacement_rappelsEnsemble (List.replicate 10 false)
  rw [← premierSeul] at h₀
  have h₁ := interleaving_rappelsSuite [true, true] premierSeul
  rw [← secondEnsuite] at h₁
  have h := Interleaving.append_iff.2 ⟨_, _, h₀, h₁⟩
  have hid : Handlers.parseConsentId reponseBanque.state = .ok (Uuid.fromU128 1000) := by
    decide
  have hstatut : statutRepondu (premierSeul.2.1 false) = some .active := by decide
  have hrate : ∀ x ∈ premierSeul.1 ++ secondEnsuite.1, ∀ c ∈ (Event.after x.2).consent.rows,
      c.status ≠ .failed := by
    decide
  refine List.forall_iff_forall_mem.2
    (rejeu_idempotent hid h ?_ _ _ _ _ false rfl h₀ hstatut)
  rintro l₀ v l₁ e l₂ j hl - ⟨-, c, hc, -, hfailed⟩
  exact absurd hfailed (hrate (j, e) (hl ▸ by simp) c hc)

/-- Both read the consent, then the first callback goes to its end. -/
def premierRepond :
    List (Bool × Evenement Scenario.collation) × (Bool → Programme Issue) × Store :=
  rappelsEnsemble (false :: true :: List.replicate 9 false)

/-- The bank refuses the code to the second one. -/
def secondRefuse :
    List (Bool × Evenement Scenario.collation) × (Bool → Programme Issue) × Store :=
  rappelsSuite [true, true] premierRepond

/-- The first callback answers that the consent is active, and the second moves it to
`Failed`. -/
theorem not_idempotent_secondRefuse :
    (∃ c ∈ consentEnAttente.consent, c.id = Uuid.fromU128 1000 ∧ c.ownerId = "alice" ∧
        c.status = .pending) ∧
      Entrelacement Scenario.collation Scenario.configuration
        (fun _ => .completeConsent "alice" reponseBanque) consentEnAttente premierRepond.1
        premierRepond.2.1 premierRepond.2.2 ∧
      Interleaving (machine Scenario.collation) premierRepond.2.1 premierRepond.2.2
        secondRefuse.1 secondRefuse.2.1 secondRefuse.2.2 ∧
      ((premierRepond.1 ++ secondRefuse.1).countP fun x => Evenement.codeAccepte x.2) = 1 ∧
      statutRepondu (premierRepond.2.1 false) = some .active ∧
      ∃ x ∈ secondRefuse.1, x.1 ≠ false ∧ Evenement.Echoue (Uuid.fromU128 1000) x.2 := by
  have hpending : ∃ c ∈ consentEnAttente.consent.rows, c.id = Uuid.fromU128 1000 ∧
      c.ownerId = "alice" ∧ c.status = .pending := by
    decide
  have hunique : ((premierRepond.1 ++ secondRefuse.1).countP
      fun x => Evenement.codeAccepte x.2) = 1 := by
    decide
  have hstatut : statutRepondu (premierRepond.2.1 false) = some .active := by decide
  have hechoue : ∃ x ∈ secondRefuse.1, x.1 ≠ false ∧
      (∀ c ∈ x.2.before.consent.rows, c.id = Uuid.fromU128 1000 → c.status ≠ .failed) ∧
        ∃ c ∈ (Event.after x.2).consent.rows, c.id = Uuid.fromU128 1000 ∧ c.status = .failed := by
    decide
  have h₀ := entrelacement_rappelsEnsemble (false :: true :: List.replicate 9 false)
  rw [← premierRepond] at h₀
  have h₁ := interleaving_rappelsSuite [true, true] premierRepond
  rw [← secondRefuse] at h₁
  exact ⟨hpending, h₀, h₁, hunique, hstatut, hechoue⟩

end Budgy
