import Budgy.Analysis.ConsentLife

/-!
# An authorisation that is never answered

The worker works on a consent that is active and not over; the API lets a user renew one
that is expired, failed, or close to its end.  A consent that waits for an authorisation is
neither, as long as the end that the bank announced is far: `sansImpasse_iff` says that
these are the only ones for which the user has to wait.
-/

set_option autoImplicit false

namespace Budgy

open Effects

/-- The consent of a row, given its reference at the bank. -/
def ConsentRow.vue (c : ConsentRow) (externalRef : String) : Consent :=
  { id := c.id
    proprietaire := c.ownerId
    externalRef := externalRef
    etablissement := c.etablissement
    status := c.status
    expiresAt := c.expiresAt
    createdAt := c.createdAt
    updatedAt := c.updatedAt }

/-- A row that is decrypted shows the consent it stores, under some reference. -/
theorem intoConsent_vue {crypto : CryptoService} {c : ConsentRow} {consent : Consent}
    (h : Consents.intoConsent crypto c = .ok consent) : ∃ ref, consent = c.vue ref := by
  unfold Consents.intoConsent at h
  cases href : dechiffrerTexte crypto c.ownerId "consent" "external_ref" c.externalRef with
  | error e => simp [href, bind, Except.bind] at h
  | ok ref =>
      simp only [href, bind, Except.bind, pure, Except.pure, Except.ok.injEq] at h
      exact ⟨ref, h.symm⟩

/-- At an instant, every consent that the worker does not use can be renewed. -/
def Store.SansImpasse (s : Store) (t : DateTime) : Prop :=
  ∀ c ∈ s.consent, ∀ ref, consentementExpire (c.vue ref) t = true →
    (c.vue ref).estRenouvelable t margeRenouvellementDefaut = true

/-- The end of a consent is unknown, or beyond the margin. -/
def Lointaine (expiresAt : Option DateTime) (t : DateTime) : Prop :=
  ∀ fin, expiresAt = some fin → t + margeRenouvellementDefaut < fin

/-- The consent of an owner waits for an authorisation, and its end is far. -/
def Store.Attend (id : ConsentId) (owner : ProprietaireId) (t : DateTime) (s : Store) : Prop :=
  ∃ etat ∈ s.etatConsent id owner, etat.status = .pending ∧ Lointaine etat.expiresAt t

/-- The request and its reply begin an authorisation that the bank lets last beyond the margin:
`create_consent` inserts the consent, or `renew_consent` updates it. -/
inductive Engage (id : ConsentId) (owner : ProprietaireId) (t : DateTime) :
    Entry signature → Prop where
  | creation (blob : List UInt8) (etablissement : String) (fin : Option DateTime)
      (hfin : Lointaine fin t) :
      Engage id owner t
        ⟨.sql (.consent (.insertInitie id owner blob etablissement .pending fin)), .ok id⟩
  | renouvellement (blob : List UInt8) (fin : Option DateTime) (lignes : ℕ) (hlignes : 0 < lignes)
      (hfin : Lointaine fin t) :
      Engage id owner t ⟨.sql (.consent (.mettreAJour .pending blob fin id owner)), .ok lignes⟩

/-- The request and its reply answer the authorisation, or take it away: the callback makes the
consent active, or marks it failed; a cycle marks it expired; a renewal gives it a nearer end;
the consents of the owner are deleted. -/
inductive Conclut (id : ConsentId) (owner : ProprietaireId) (t : DateTime) :
    Entry signature → Prop where
  | activation (blob : List UInt8) (fin : Option DateTime) (lignes : ℕ) :
      Conclut id owner t ⟨.sql (.consent (.mettreAJour .active blob fin id owner)), .ok lignes⟩
  | echec (lignes : ℕ) :
      Conclut id owner t ⟨.sql (.consent (.marquerStatutProprietaire .failed id owner)), .ok lignes⟩
  | expiration (lignes : ℕ) :
      Conclut id owner t ⟨.sql (.consent (.marquerStatutConsent id .expired)), .ok lignes⟩
  | rapprochement (blob : List UInt8) (fin : Option DateTime) (lignes : ℕ)
      (hfin : ¬ Lointaine fin t) :
      Conclut id owner t ⟨.sql (.consent (.mettreAJour .pending blob fin id owner)), .ok lignes⟩
  | effacement (lignes : ℕ) :
      Conclut id owner t ⟨.sql (.consent (.supprimerParProprietaire owner)), .ok lignes⟩

/-- Every authorisation begun with a far end is answered by a later request, or taken away. -/
def SansAbandon {ι : Type} {col : Collation} (t : DateTime) (l : List (ι × Evenement col)) :
    Prop :=
  ∀ l₁ x l₂ id owner, l = l₁ ++ x :: l₂ → Engage id owner t (Event.entry x.2) →
    ∃ y ∈ l₂, Conclut id owner t (Event.entry y.2)

/-! ## The two predicates on a consent -/

section Predicates

variable {c : ConsentRow} {t : DateTime} {ref : String}

/-- A consent can be renewed when it is expired or failed, or when its end is near. -/
theorem estRenouvelable_iff :
    (c.vue ref).estRenouvelable t margeRenouvellementDefaut = true ↔
      (c.status = .expired ∨ c.status = .failed) ∨ ¬ Lointaine c.expiresAt t := by
  have hmarge : (0 : ℤ) < margeRenouvellementDefaut := by decide
  have hvue : (c.vue ref).expiresAt = c.expiresAt := rfl
  unfold Consent.estRenouvelable Consent.renouvellement
  by_cases hfini : c.status = .expired ∨ c.status = .failed
  · have hexpire : (c.vue ref).status = .expired ∨ (c.vue ref).status = .failed := hfini
    rw [if_pos hexpire]
    simp [hfini]
  have hencore : ¬ ((c.vue ref).status = .expired ∨ (c.vue ref).status = .failed) := hfini
  rw [if_neg hencore, or_iff_right hfini, hvue]
  cases hfin : c.expiresAt with
  | none => simp [Lointaine]
  | some fin =>
      have hlointaine : Lointaine (some fin) t ↔ t + margeRenouvellementDefaut < fin := by
        simp [Lointaine]
      rw [hlointaine]
      by_cases hpasse : fin ≤ t
      · have hproche : fin ≤ t + margeRenouvellementDefaut :=
          hpasse.trans (le_add_of_nonneg_right hmarge.le)
        simp [hpasse, hproche]
      · by_cases hproche : fin ≤ t + margeRenouvellementDefaut
        · simp [hpasse, hproche]
        · simp [hpasse, hproche]

/-- The worker does not use a consent that is not active, or that is over. -/
theorem consentementExpire_iff :
    consentementExpire (c.vue ref) t = true ↔
      c.status ≠ .active ∨ ∃ fin, c.expiresAt = some fin ∧ fin ≤ t := by
  unfold consentementExpire
  rw [Bool.or_eq_true, decide_eq_true_eq, Option.any_eq_true]
  simp [ConsentRow.vue]

/-- A consent that is over is not far from its end. -/
theorem not_lointaine_of_le {expiresAt : Option DateTime} {fin : DateTime}
    (h : expiresAt = some fin) (hfin : fin ≤ t) : ¬ Lointaine expiresAt t := by
  have hmarge : (0 : ℤ) < margeRenouvellementDefaut := by decide
  intro hlointaine
  have hloin := hlointaine fin h
  exact absurd (hfin.trans (le_add_of_nonneg_right hmarge.le)) (not_le.2 hloin)

end Predicates

namespace Store

variable {s : Store} {t : DateTime}

/-- Only a consent that waits for an authorisation with a far end is stuck, when none is
revoked. -/
theorem sansImpasse_of_attend (hrevoque : ∀ c ∈ s.consent, c.status ≠ .revoked)
    (h : ∀ id owner, ¬ s.Attend id owner t) : s.SansImpasse t := by
  intro c hc ref hexpire
  rw [estRenouvelable_iff]
  by_cases hlointaine : Lointaine c.expiresAt t
  · left
    rcases consentementExpire_iff.1 hexpire with hstatus | ⟨fin, hfin, hpasse⟩
    · have hpending : c.status ≠ .pending :=
        fun hp => h c.id c.ownerId ⟨c.etat, etatConsent_of_mem hc, hp, hlointaine⟩
      have hrevoked := hrevoque c hc
      revert hstatus hpending hrevoked
      cases c.status <;> simp
    · exact absurd hlointaine (not_lointaine_of_le hfin hpasse)
  · exact .inr hlointaine

/-- Where no consent is stuck, none waits with a far end. -/
theorem SansImpasse.not_attend (h : s.SansImpasse t) (id : ConsentId) (owner : ProprietaireId) :
    ¬ s.Attend id owner t := by
  rintro ⟨etat, hetat, hpending, hlointaine⟩
  obtain ⟨c, hc, -, -, rfl⟩ := etatConsent_eq_some.1 hetat
  have hstatus : c.status = .pending := hpending
  have hexpire : consentementExpire (c.vue "") t = true :=
    consentementExpire_iff.2 (.inl (by simp [hstatus]))
  rcases estRenouvelable_iff.1 (h c hc "" hexpire) with (hfini | hfini) | hproche
  · exact nomatch hstatus.symm.trans hfini
  · exact nomatch hstatus.symm.trans hfini
  · exact hproche hlointaine

end Store

/-! ## Runs -/

section Pool

variable {ι : Type} [DecidableEq ι] {col : Collation} {cfg : Configuration}
  {demandes : ι → Operation} {s s' : Store} {l : List (ι × Evenement col)}
  {pool' : ι → Programme Issue} {x : ι × Evenement col} {id : ConsentId}
  {owner : ProprietaireId} {t : DateTime}

/-- No request revokes a consent. -/
theorem Entrelacement.jamais_revoque (h : Entrelacement col cfg demandes s l pool' s')
    (hs : ∀ c ∈ s.consent, c.status ≠ .revoked) : ∀ c ∈ s'.consent, c.status ≠ .revoked := by
  refine h.preserves (I := fun s => ∀ c ∈ s.consent, c.status ≠ .revoked) hs ?_
  intro x hx hbefore c hc hrevoque
  rcases consent_after hc with hold | ⟨r, hop, ⟨c₀, hc₀, hdevient⟩ | ⟨_, _, rfl⟩⟩
  · exact hbefore c hold hrevoque
  · have hemet := h.emet hx hop
    generalize demandes x.1 = o at hemet
    cases hdevient with
    | intact => exact hbefore c hc₀ hrevoque
    | misAJour status | marque status | marqueParCycle status =>
        obtain rfl : status = .revoked := hrevoque
        cases hemet (by simp) with
        | cycle r hr => cases hr
  · rw [(h.emet hx hop (by simp)).createConsent.2] at hrevoque
    cases hrevoque

/-- An authorisation that begins leaves the consent waiting. -/
theorem Engage.attend {e : Evenement col} (h : Engage id owner t (Event.entry e)) :
    e.after.Attend id owner t := by
  generalize hentry : Event.entry e = entree at h
  cases h with
  | creation blob etablissement fin hfin =>
      exact ⟨_, etatConsent_insere hentry, rfl, hfin⟩
  | renouvellement blob fin lignes hlignes hfin =>
      exact ⟨_, etatConsent_misAJour hentry hlignes, rfl, hfin⟩

/-- An authorisation that is answered does not wait any more. -/
theorem Conclut.not_attend (h : Entrelacement col cfg demandes s l pool' s') (hx : x ∈ l)
    (hconclut : Conclut id owner t (Event.entry x.2)) : ¬ (Event.after x.2).Attend id owner t := by
  rintro ⟨etat, hetat, hpending, hlointaine⟩
  have htransition := transition_after h hx id owner
  rw [Option.mem_def.1 hetat] at htransition
  generalize x.2.before.etatConsent id owner = etat₀ at htransition
  generalize Event.entry x.2 = entree at hconclut htransition
  cases hconclut with
  | activation =>
      cases htransition with
      | activation => cases hpending
      | reste _ _ hautre => exact hautre (.misAJour ..)
  | echec =>
      cases htransition with
      | echec => cases hpending
      | reste _ _ hautre => exact hautre (.marque ..)
  | expiration =>
      cases htransition with
      | expiration => cases hpending
      | reste _ _ hautre => exact hautre (.marqueParCycle ..)
  | rapprochement blob fin lignes hfin =>
      cases htransition with
      | renouvellement => exact hfin hlointaine
      | reste _ _ hautre => exact hautre (.misAJour ..)
  | effacement =>
      cases htransition with
      | reste _ _ hautre => exact hautre (.efface ..)

/-- A consent comes to wait because an authorisation begins. -/
theorem engage_of_change (h : Entrelacement col cfg demandes s l pool' s') (hx : x ∈ l)
    (hbefore : ¬ x.2.before.Attend id owner t) (hafter : (Event.after x.2).Attend id owner t) :
    Engage id owner t (Event.entry x.2) := by
  obtain ⟨etat, hetat, hpending, hlointaine⟩ := hafter
  have htransition := transition_after h hx id owner
  rw [Option.mem_def.1 hetat] at htransition
  generalize hetat₀ : x.2.before.etatConsent id owner = etat₀ at htransition
  generalize Event.entry x.2 = entree at htransition
  cases htransition with
  | creation blob etablissement fin => exact .creation blob etablissement fin hlointaine
  | renouvellement blob fin lignes hlignes => exact .renouvellement blob fin lignes hlignes hlointaine
  | activation | echec | expiration => cases hpending
  | reste => exact absurd ⟨etat, hetat₀, hpending, hlointaine⟩ hbefore

/-- A consent that waits goes on waiting until a request answers. -/
theorem attend_of_not_conclut (h : Entrelacement col cfg demandes s l pool' s') (hx : x ∈ l)
    (hconclut : ¬ Conclut id owner t (Event.entry x.2)) (hbefore : x.2.before.Attend id owner t) :
    (Event.after x.2).Attend id owner t := by
  obtain ⟨etat, hetat, hpending, hlointaine⟩ := hbefore
  have htransition := transition_after h hx id owner
  rw [Option.mem_def.1 hetat] at htransition
  generalize hetat' : (Event.after x.2).etatConsent id owner = etat' at htransition
  generalize Event.entry x.2 = entree at hconclut htransition
  cases htransition with
  | activation => exact absurd (.activation ..) hconclut
  | echec => exact absurd (.echec ..) hconclut
  | expiration => exact absurd (.expiration ..) hconclut
  | effacement => exact absurd (.effacement ..) hconclut
  | renouvellement blob fin lignes =>
      by_cases hfin : Lointaine fin t
      · exact ⟨_, hetat', rfl, hfin⟩
      · exact absurd (.rapprochement blob fin lignes hfin) hconclut
  | reste => exact ⟨etat, hetat', hpending, hlointaine⟩

/-- Where there was no consent, one waits exactly when an authorisation began for it that no
later request answered or took away. -/
theorem attend_iff (h : Entrelacement col cfg demandes s l pool' s')
    (hvide : ∀ c, c ∉ s.consent) :
    s'.Attend id owner t ↔ ∃ l₁ x l₂, l = l₁ ++ x :: l₂ ∧
      Engage id owner t (Event.entry x.2) ∧ ∀ y ∈ l₂, ¬ Conclut id owner t (Event.entry y.2) := by
  refine h.holds_iff ?_ (fun x _ hx => hx.attend) (fun x hx => engage_of_change h hx)
    (fun x hx hconclut => hconclut.not_attend h hx) fun x hx => attend_of_not_conclut h hx
  rintro ⟨etat, hetat, -⟩
  obtain ⟨c, hc, -⟩ := etatConsent_eq_some.1 hetat
  exact hvide c hc

/-- From the seeded database, every consent that the worker does not use at an instant can
be renewed if and only if every authorisation begun in the run, with an end that is far at
this instant, is answered later in the run or taken away. -/
theorem sansImpasse_iff (h₀ : s.Amorcee) (h : Entrelacement col cfg demandes s l pool' s')
    (t : DateTime) : s'.SansImpasse t ↔ SansAbandon t l := by
  have hvide : ∀ c, c ∉ s.consent := fun c hc => by
    have hc : c ∈ s.consent.rows := hc
    rw [h₀.consent] at hc
    exact List.not_mem_nil hc
  constructor
  · rintro hsans l₁ x l₂ id owner hl hengage
    by_contra hreste
    push Not at hreste
    exact hsans.not_attend id owner ((attend_iff h hvide).2 ⟨l₁, x, l₂, hl, hengage, hreste⟩)
  · intro habandon
    refine Store.sansImpasse_of_attend
      (h.jamais_revoque fun c hc => absurd hc (hvide c)) fun id owner hattend => ?_
    obtain ⟨l₁, x, l₂, hl, hengage, hreste⟩ := (attend_iff h hvide).1 hattend
    obtain ⟨y, hy, hconclut⟩ := habandon l₁ x l₂ id owner hl hengage
    exact hreste y hy hconclut

end Pool

/-! ## A renewal begun and never finished -/

/-- A bank whose authorisations last ninety days, but for the one it gave, which ends in
three. -/
def banqueQuatreVingtDixJours (n : ℕ) : (o : Op) → o.Choix
  | .banque (.initierConsentement demande) =>
      .ok ⟨{ consentBancaire demande.consentId demande.proprietaire with
        status := .pending
        expiresAt := some (Duration.days 90) }, "https://banque"⟩
  | .banque (.completerConsentement proprietaire _) =>
      .ok { consentBancaire (Uuid.fromU128 0) proprietaire with
        expiresAt := some (Duration.days 3) }
  | o => Scenario.unCompte.choix n o

/-- A user attaches a bank, begins to renew the consent, and leaves it there. -/
def renouvellementAbandonne : Fin 3 → Operation
  | 0 => .createConsent "alice" "banque"
  | 1 => .completeConsent "alice" reponseBanque
  | 2 => .renewConsent "alice" (Uuid.fromU128 1000)

/-- The three operations, one after the other. -/
def abandon : List (Fin 3 × Evenement Scenario.collation) × (Fin 3 → Programme Issue) × Store :=
  runPool _ banqueQuatreVingtDixJours
    (List.replicate 4 0 ++ List.replicate 15 1 ++ List.replicate 6 2) 0
    (fun i => (renouvellementAbandonne i).tache Scenario.configuration) amorcee

/-- The run is an interleaving of its operations. -/
theorem entrelacement_abandon :
    Entrelacement Scenario.collation Scenario.configuration renouvellementAbandonne amorcee
      abandon.1 abandon.2.1 abandon.2.2 :=
  interleaving_runPool _ _ _ _ _

/-- The consent is pending for ninety days, and nothing will answer it. -/
private theorem impasse_abandon : ¬ abandon.2.2.SansImpasse 0 := by
  have hbloque : ∃ c ∈ abandon.2.2.consent.rows, consentementExpire (c.vue "") 0 = true ∧
      (c.vue "").estRenouvelable 0 margeRenouvellementDefaut = false := by
    decide +kernel
  intro hsans
  obtain ⟨c, hc, hexpire, hrefus⟩ := hbloque
  exact Bool.noConfusion (hrefus.symm.trans (hsans c hc "" hexpire))

/-- The consent is left pending for ninety days: the worker does not use it, and the user
may not renew it. -/
theorem not_sansImpasse_abandon :
    amorcee.Amorcee ∧
      Entrelacement Scenario.collation Scenario.configuration renouvellementAbandonne amorcee
        abandon.1 abandon.2.1 abandon.2.2 ∧
      ¬ abandon.2.2.SansImpasse 0 :=
  ⟨amorcee_amorcee, entrelacement_abandon, impasse_abandon⟩

/-- The renewal of that run is left without an answer. -/
theorem not_sansAbandon_abandon : ¬ SansAbandon 0 abandon.1 := fun h =>
  impasse_abandon ((sansImpasse_iff amorcee_amorcee entrelacement_abandon 0).2 h)

end Budgy
