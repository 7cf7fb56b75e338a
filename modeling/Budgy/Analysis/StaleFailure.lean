import Budgy.Interface.Traversal
import Budgy.Analysis.ConsentLife
import Budgy.Analysis.WorkerCycle

/-!
# A failure that comes late

A cycle lists the consents it works on, then calls the bank, and marks a consent as
expired when the bank refuses the session it was listed with.  The mark names the consent
alone: it does not ask whether the session is still the one that was refused.
`sansDefaite_iff` says in which runs no renewal is undone.
-/

set_option autoImplicit false

namespace Budgy

open Effects Prog Relational

/-- The consent whose session the bank refuses. -/
def sessionRefusee : Entry signature → Option Consent
  | ⟨.banque (.solde consent _), .error .consentementInvalide⟩ => some consent
  | ⟨.banque (.listerTransactions consent _ _), .error .consentementInvalide⟩ => some consent
  | _ => none

/-- The list of the due accounts shows the consent. -/
def MontreConsent (crypto : CryptoService) (consent : Consent) (x : Entry signature) : Prop :=
  ∃ maintenant jour quota rows,
    x = ⟨.sql (.compte (.listerComptesEcheants maintenant jour quota)), .ok rows⟩ ∧
      ∃ row ∈ rows, ∃ echeant, BankAccounts.intoCompteEcheant crypto row = .ok echeant ∧
        echeant.consent = consent

/-- The blob does not hold the session that the consent was listed with. -/
def AutreSession (crypto : CryptoService) (consent : Consent) (blob : List UInt8) : Prop :=
  dechiffrerTexte crypto consent.proprietaire "consent" "external_ref" blob ≠
    .ok consent.externalRef

/-- The consent is active, with another session than the one it was listed with. -/
def Store.Renouvele (crypto : CryptoService) (consent : Consent) (s : Store) : Prop :=
  ∃ c ∈ s.consent, c.id = consent.id ∧ c.status = .active ∧
    AutreSession crypto consent c.externalRef

/-- The consent is expired. -/
def Store.Expire (id : ConsentId) (s : Store) : Prop :=
  ∃ c ∈ s.consent, c.id = id ∧ c.status = .expired

/-- The request and its reply are a callback of `owner` that makes the consent active, with
another session. -/
inductive Renouvelle (crypto : CryptoService) (consent : Consent) (owner : ProprietaireId) :
    Entry signature → Prop where
  | activation (blob : List UInt8) (fin : Option DateTime) (lignes : ℕ) (hlignes : 0 < lignes)
      (hautre : AutreSession crypto consent blob) :
      Renouvelle crypto consent owner
        ⟨.sql (.consent (.mettreAJour .active blob fin consent.id owner)), .ok lignes⟩

/-- The request and its reply take the renewal back: `owner` begins another one, a callback
brings the listed session back or marks the consent failed, a cycle marks it expired, the
consents of `owner` are deleted. -/
inductive Reprend (crypto : CryptoService) (consent : Consent) (owner : ProprietaireId) :
    Entry signature → Prop where
  | renouvellement (blob : List UInt8) (fin : Option DateTime) (lignes : ℕ) :
      Reprend crypto consent owner
        ⟨.sql (.consent (.mettreAJour .pending blob fin consent.id owner)), .ok lignes⟩
  | memeSession (blob : List UInt8) (fin : Option DateTime) (lignes : ℕ)
      (hmeme : ¬ AutreSession crypto consent blob) :
      Reprend crypto consent owner
        ⟨.sql (.consent (.mettreAJour .active blob fin consent.id owner)), .ok lignes⟩
  | echec (lignes : ℕ) :
      Reprend crypto consent owner
        ⟨.sql (.consent (.marquerStatutProprietaire .failed consent.id owner)), .ok lignes⟩
  | expiration (lignes : ℕ) :
      Reprend crypto consent owner
        ⟨.sql (.consent (.marquerStatutConsent consent.id .expired)), .ok lignes⟩
  | effacement (lignes : ℕ) :
      Reprend crypto consent owner
        ⟨.sql (.consent (.supprimerParProprietaire owner)), .ok lignes⟩

/-- The request and its reply mark the consent as expired. -/
def Marque (id : ConsentId) (x : Entry signature) : Prop :=
  ∃ lignes : ℕ, x = ⟨.sql (.consent (.marquerStatutConsent id .expired)), .ok lignes⟩

section

variable {ι : Type} {col : Collation} (crypto : CryptoService) (demandes : ι → Operation)
  (l : List (ι × Evenement col))

/-- A request of a cycle leaves expired a consent that is active with another session than
the one that the bank refused to this cycle. -/
def Defait (l₁ : List (ι × Evenement col)) (i : ι) (e : Evenement col) : Prop :=
  ∃ consent v, (i, v) ∈ l₁ ∧ sessionRefusee (Event.entry v) = some consent ∧
    e.before.Renouvele crypto consent ∧ e.after.Expire consent.id

/-- No cycle undoes a renewal. -/
def SansDefaite : Prop :=
  ∀ l₁ i e l₂, demandes i = .synchroniser → l = l₁ ++ (i, e) :: l₂ → ¬ Defait crypto l₁ i e

/-- Between the moment a cycle lists a consent and the moment it marks it as expired,
after the bank refused the session, no callback makes the consent active with another
session, unless a later request takes that back before the mark. -/
def SansRenouvellement : Prop :=
  ∀ l₀ i v l₁ e l₂ consent w, demandes i = .synchroniser →
    l = l₀ ++ (i, v) :: (l₁ ++ (i, e) :: l₂) → MontreConsent crypto consent (Event.entry v) →
    (i, w) ∈ l₁ → sessionRefusee (Event.entry w) = some consent →
    Marque consent.id (Event.entry e) →
    ∀ m₁ x m₂ owner, l₁ = m₁ ++ x :: m₂ → Renouvelle crypto consent owner (Event.entry x.2) →
      ∃ y ∈ m₂, Reprend crypto consent owner (Event.entry y.2)

end

/-! ## What a cycle asks the bank -/

/-- The request asks the bank about an account of the consent. -/
def Op.Interroge (consent : Consent) (o : Op) : Prop :=
  (∃ compte, o = .banque (.solde consent compte)) ∨
    ∃ compte depuis, o = .banque (.listerTransactions consent compte depuis)

/-- Only a call to the bank asks about a consent. -/
private theorem not_interroge {consent : Consent} {o : Op} (ho : ∀ a, o ≠ .banque a) :
    ¬ o.Interroge consent := by
  rintro (⟨_, rfl⟩ | ⟨_, _, rfl⟩) <;> exact ho _ rfl

/-- A refused session is a call about its consent. -/
theorem interroge_of_refusee {consent : Consent} {x : Entry signature}
    (h : sessionRefusee x = some consent) : x.1.Interroge consent := by
  unfold sessionRefusee at h
  split at h
  · cases h
    exact .inl ⟨_, rfl⟩
  · cases h
    exact .inr ⟨_, _, rfl⟩
  · cases h

section Journal

variable {crypto : CryptoService} {parametres : ParametresSynchro} {h : List (Entry signature)}

/-- The bank is asked about a consent that the cycle was shown. -/
def ApresListe (crypto : CryptoService) (e : Event (journal signature)) : Prop :=
  ∀ consent, e.op.Interroge consent → ∃ x ∈ e.before, MontreConsent crypto consent x

/-- The due accounts are shown with the consents of the listing. -/
private theorem guarded_listerComptesEcheants {maintenant : DateTime} {quota : ℤ} :
    Guarded (journal signature) (ApresListe crypto)
      (BankAccountsAdapter.listerComptesEcheants crypto maintenant quota).run h
      (OnOk fun echeants h' => ∀ echeant ∈ echeants,
        ∃ x ∈ h', MontreConsent crypto echeant.consent x) := by
  refine Guarded.ok_mapError (Guarded.ok_bind
    (R := fun rows h' => ∃ x ∈ h', x = ⟨.sql (.compte (.listerComptesEcheants maintenant
      maintenant.dateNaive quota)), .ok rows⟩) (Guarded.ok_mapError (guarded_perform.2 ?_)) ?_)
  · rintro (e | rows)
    · exact ⟨fun _ hask => absurd hask (not_interroge (by simp)), trivial⟩
    · refine ⟨fun _ hask => absurd hask (not_interroge (by simp)), ?_⟩
      exact ⟨_, List.mem_append_right _ (List.mem_singleton.2 rfl), rfl⟩
  · rintro rows h' ⟨x, hx, rfl⟩
    refine guarded_pure.2 ?_
    cases hechus : rows.mapM (BankAccounts.intoCompteEcheant crypto) with
    | error e => trivial
    | ok echeants =>
        intro echeant hmem
        obtain ⟨row, hrow, hinto⟩ := Traversal.exists_of_mem hechus hmem
        exact ⟨_, hx, _, _, _, rows, rfl, row, hrow, echeant, hinto, rfl⟩

/-- A cycle marks only consents it has listed before. -/
private theorem guarded_executer :
    Guarded (journal signature) (ApresListe crypto) (Synchro.executer crypto parametres).run h
      fun _ _ => True := by
  refine Guarded.run_bind (R := fun _ _ => True) (Guarded.run_ofProg (guarded_perform.2 ?_)) ?_
    fun _ _ _ => trivial
  · exact fun _ => ⟨fun consent hask => absurd hask (not_interroge (by simp)), trivial⟩
  intro maintenant h₁ _
  refine Guarded.run_bind (R := OnOk fun echeants h' => ∀ echeant ∈ echeants,
    ∃ x ∈ h', MontreConsent crypto echeant.consent x)
    (Guarded.ok_mapError guarded_listerComptesEcheants) ?_ fun _ _ _ => trivial
  intro echeants h₂ hmontre
  refine (Guarded.of_uses (P := fun o : Op => ∀ consent, o.Interroge consent →
      ∃ echeant ∈ echeants, echeant.consent = consent)
    (I := fun h => ∀ echeant ∈ echeants, ∃ x ∈ h, MontreConsent crypto echeant.consent x) ?_
    hmontre ?_).mono fun _ _ _ => trivial
  · refine Uses.run_foldlM (fun _ echeant hmem => uses_synchroniserCompte ?_ ?_ ?_ ?_ ?_ ?_) _
    · intro o ho consent hask
      cases o with
      | banque => exact ho.elim
      | _ => exact absurd hask (not_interroge (by simp))
    · exact fun r _ _ consent hask => absurd hask (not_interroge (by simp))
    · exact fun consent hask => absurd hask (not_interroge (by simp))
    · exact fun ev consent hask => absurd hask (not_interroge (by simp))
    · rintro consent (⟨_, h⟩ | ⟨_, _, h⟩) <;> cases h
      exact ⟨echeant, hmem, rfl⟩
    · rintro consent (⟨_, h⟩ | ⟨_, _, h⟩) <;> cases h
      exact ⟨echeant, hmem, rfl⟩
  · rintro ⟨h, o, r⟩ ho hbefore
    constructor
    · intro consent hask
      obtain ⟨echeant, hmem, rfl⟩ := ho consent hask
      exact hbefore echeant hmem
    · intro echeant hmem
      obtain ⟨x, hx, hmontre⟩ := hbefore echeant hmem
      exact ⟨x, List.mem_append_left _ hx, hmontre⟩

end Journal

/-! ## What the requests do to a renewed consent -/

/-- The consent belongs to `owner` and is active, with another session than the one it was
listed with. -/
def Store.RenouvelePour (crypto : CryptoService) (consent : Consent) (owner : ProprietaireId)
    (s : Store) : Prop :=
  ∃ etat ∈ s.etatConsent consent.id owner, etat.status = .active ∧
    AutreSession crypto consent etat.externalRef

/-- A renewed consent is so for its owner. -/
theorem renouvele_iff {crypto : CryptoService} {consent : Consent} {s : Store} :
    s.Renouvele crypto consent ↔ ∃ owner, s.RenouvelePour crypto consent owner := by
  constructor
  · rintro ⟨c, hc, hid, hactive, hautre⟩
    exact ⟨c.ownerId, c.etat, hid ▸ etatConsent_of_mem hc, hactive, hautre⟩
  · rintro ⟨owner, etat, hetat, hactive, hautre⟩
    obtain ⟨c, hc, hid, -, rfl⟩ := etatConsent_eq_some.1 hetat
    exact ⟨c, hc, hid, hactive, hautre⟩

section Events

variable {col : Collation} {crypto : CryptoService} {consent : Consent} {e : Evenement col}

/-- The list shows the session that the consent has. -/
theorem not_renouvele_of_montre (h : MontreConsent crypto consent (Event.entry e)) :
    ¬ e.after.Renouvele crypto consent := by
  obtain ⟨maintenant, jour, quota, rows, hentry, row, hrow, echeant, hinto, rfl⟩ := h
  obtain ⟨-, x, heffet⟩ := effet_of_entry hentry
  obtain ⟨rfl, hafter⟩ := lire_eq_ok.1 heffet
  obtain ⟨a, -, hrow⟩ := List.mem_filterMap.1 hrow
  obtain ⟨c, hc, rfl⟩ := Option.map_eq_some_iff.1 hrow
  obtain ⟨hfind, -⟩ := Option.filter_eq_some_iff.1 hc
  obtain ⟨hmem, hcid⟩ := Table.find?_eq_some.1 hfind
  rintro ⟨c', hc', hid', -, hautre⟩
  rw [hafter] at hc'
  obtain ⟨-, -, hid, hproprietaire, href, -⟩ := intoCompteEcheant_eq_ok hinto
  obtain rfl := Table.eq_of_key_eq hc' hmem (hid'.trans (hid.trans hcid.symm))
  exact hautre (hproprietaire ▸ href)

end Events

section Pool

variable {ι : Type} [DecidableEq ι] {col : Collation} {cfg : Configuration}
  {demandes : ι → Operation} {s s' : Store} {l : List (ι × Evenement col)}
  {pool' : ι → Programme Issue} {x : ι × Evenement col} {consent : Consent}
  {owner : ProprietaireId}

/-- A callback that makes the consent active with another session leaves it renewed. -/
theorem Renouvelle.renouvele {e : Evenement col}
    (h : Renouvelle cfg.crypto consent owner (Event.entry e)) :
    e.after.RenouvelePour cfg.crypto consent owner := by
  generalize hentry : Event.entry e = entree at h
  cases h with
  | activation blob fin lignes hlignes hautre =>
      exact ⟨_, etatConsent_misAJour hentry hlignes, rfl, hautre⟩

/-- A renewal that is taken back is over. -/
theorem Reprend.not_renouvele (h : Entrelacement col cfg demandes s l pool' s') (hx : x ∈ l)
    (hreprend : Reprend cfg.crypto consent owner (Event.entry x.2)) :
    ¬ (Event.after x.2).RenouvelePour cfg.crypto consent owner := by
  rintro ⟨etat, hetat, hactive, hautre⟩
  have htransition := transition_after h hx consent.id owner
  rw [Option.mem_def.1 hetat] at htransition
  generalize x.2.before.etatConsent consent.id owner = etat₀ at htransition
  generalize Event.entry x.2 = entree at hreprend htransition
  cases hreprend with
  | renouvellement =>
      cases htransition with
      | renouvellement => cases hactive
      | reste _ _ hreste => exact hreste (.misAJour ..)
  | memeSession blob fin lignes hmeme =>
      cases htransition with
      | activation => exact hmeme hautre
      | reste _ _ hreste => exact hreste (.misAJour ..)
  | echec =>
      cases htransition with
      | echec => cases hactive
      | reste _ _ hreste => exact hreste (.marque ..)
  | expiration =>
      cases htransition with
      | expiration => cases hactive
      | reste _ _ hreste => exact hreste (.marqueParCycle ..)
  | effacement =>
      cases htransition with
      | reste _ _ hreste => exact hreste (.efface ..)

/-- Only a callback renews a consent. -/
theorem renouvelle_of_change (h : Entrelacement col cfg demandes s l pool' s') (hx : x ∈ l)
    (hbefore : ¬ x.2.before.RenouvelePour cfg.crypto consent owner)
    (hafter : (Event.after x.2).RenouvelePour cfg.crypto consent owner) :
    Renouvelle cfg.crypto consent owner (Event.entry x.2) := by
  obtain ⟨etat, hetat, hactive, hautre⟩ := hafter
  have htransition := transition_after h hx consent.id owner
  rw [Option.mem_def.1 hetat] at htransition
  generalize hetat₀ : x.2.before.etatConsent consent.id owner = etat₀ at htransition
  generalize Event.entry x.2 = entree at htransition
  cases htransition with
  | activation blob fin lignes hlignes => exact .activation blob fin lignes hlignes hautre
  | creation | renouvellement | echec | expiration => cases hactive
  | reste => exact absurd ⟨etat, hetat₀, hactive, hautre⟩ hbefore

/-- A renewal holds until a request takes it back. -/
theorem renouvele_of_not_reprend (h : Entrelacement col cfg demandes s l pool' s') (hx : x ∈ l)
    (hreprend : ¬ Reprend cfg.crypto consent owner (Event.entry x.2))
    (hbefore : x.2.before.RenouvelePour cfg.crypto consent owner) :
    (Event.after x.2).RenouvelePour cfg.crypto consent owner := by
  obtain ⟨etat, hetat, hactive, hautre⟩ := hbefore
  have htransition := transition_after h hx consent.id owner
  rw [Option.mem_def.1 hetat] at htransition
  generalize hetat' : (Event.after x.2).etatConsent consent.id owner = etat' at htransition
  generalize Event.entry x.2 = entree at hreprend htransition
  cases htransition with
  | renouvellement => exact absurd (.renouvellement ..) hreprend
  | echec => exact absurd (.echec ..) hreprend
  | expiration => exact absurd (.expiration ..) hreprend
  | effacement => exact absurd (.effacement ..) hreprend
  | activation blob fin lignes =>
      by_cases hsession : AutreSession cfg.crypto consent blob
      · exact ⟨_, hetat', rfl, hsession⟩
      · exact absurd (.memeSession blob fin lignes hsession) hreprend
  | reste => exact ⟨etat, hetat', hactive, hautre⟩

/-- A request of a cycle that leaves expired a consent that was active marks it. -/
theorem marque_of_expire (h : Entrelacement col cfg demandes s l pool' s') (hx : x ∈ l)
    (hcycle : demandes x.1 = .synchroniser)
    (hbefore : x.2.before.RenouvelePour cfg.crypto consent owner)
    (hafter : (Event.after x.2).Expire consent.id) : Marque consent.id (Event.entry x.2) := by
  obtain ⟨etat, hetat, hactive, -⟩ := hbefore
  obtain ⟨c, hc, hid, hexpire⟩ := hafter
  have htransition := transition_after h hx consent.id owner
  rw [Option.mem_def.1 hetat] at htransition
  -- the row that ends expired is the one of the renewed consent
  have hexpire' : ∀ etat' ∈ (Event.after x.2).etatConsent consent.id owner,
      etat'.status = .expired := by
    intro etat' hetat'
    obtain ⟨c', hc', hid', -, rfl⟩ := etatConsent_eq_some.1 hetat'
    obtain rfl := Table.eq_of_key_eq hc' hc (hid'.trans hid.symm)
    exact hexpire
  generalize hentry : Event.entry x.2 = entree at htransition ⊢
  generalize (Event.after x.2).etatConsent consent.id owner = etat' at htransition hexpire'
  cases htransition with
  | expiration lignes => exact ⟨lignes, rfl⟩
  | activation | renouvellement | echec => cases hexpire' _ rfl
  | reste => exact nomatch hactive.symm.trans (hexpire' _ rfl)
  | effacement =>
      have hemet := h.emet hx (effet_of_entry hentry).1 (by simp)
      rw [hcycle] at hemet
      cases hemet with
      | cycle r hr => cases hr

/-- The mark of a renewed consent leaves it expired. -/
theorem Marque.expire (h : Entrelacement col cfg demandes s l pool' s') (hx : x ∈ l)
    (hmarque : Marque consent.id (Event.entry x.2))
    (hbefore : x.2.before.RenouvelePour cfg.crypto consent owner) :
    (Event.after x.2).Expire consent.id := by
  obtain ⟨lignes, hentry⟩ := hmarque
  obtain ⟨etat, hetat, -⟩ := hbefore
  have htransition := transition_after h hx consent.id owner
  rw [Option.mem_def.1 hetat, hentry] at htransition
  generalize hetat' : (Event.after x.2).etatConsent consent.id owner = etat' at htransition
  cases htransition with
  | expiration =>
      obtain ⟨c, hc, hid, -, hc'⟩ := etatConsent_eq_some.1 hetat'
      exact ⟨c, hc, hid, congrArg EtatConsent.status hc'⟩
  | reste _ _ hautre => exact absurd (.marqueParCycle ..) hautre

/-- A consent that a cycle has listed is renewed before a later request exactly when a callback
renewed it in between, and no request took that back. -/
theorem renouvele_iff_of_montre {v x : ι × Evenement col} {l₀ l₁ l₂ : List (ι × Evenement col)}
    (h : Entrelacement col cfg demandes s l pool' s') (hl : l = l₀ ++ v :: (l₁ ++ x :: l₂))
    (hmontre : MontreConsent cfg.crypto consent (Event.entry v.2)) :
    x.2.before.RenouvelePour cfg.crypto consent owner ↔ ∃ m₁ y m₂, l₁ = m₁ ++ y :: m₂ ∧
      Renouvelle cfg.crypto consent owner (Event.entry y.2) ∧
        ∀ z ∈ m₂, ¬ Reprend cfg.crypto consent owner (Event.entry z.2) := by
  have hmem : ∀ y ∈ l₁, y ∈ l := fun y hy => by simp [hl, hy]
  have hentre := hl ▸ h
  obtain ⟨pool₁, pool₂, hbetween⟩ := hentre.between
  exact hbetween.holds_iff
    (fun hfirst => not_renouvele_of_montre hmontre (renouvele_iff.2 ⟨owner, hfirst⟩))
    (fun y _ hy => hy.renouvele) (fun y hy => renouvelle_of_change h (hmem y hy))
    (fun y hy hreprend => hreprend.not_renouvele h (hmem y hy))
    fun y hy => renouvele_of_not_reprend h (hmem y hy)

/-- No cycle undoes a renewal exactly when no callback renews a consent between the moment
a cycle lists it and the moment it marks it as expired, or only to see that taken back. -/
theorem sansDefaite_iff (h : Entrelacement col cfg demandes s l pool' s') :
    SansDefaite cfg.crypto demandes l ↔ SansRenouvellement cfg.crypto demandes l := by
  constructor
  · rintro hsans l₀ i v l₁ e l₂ consent w hcycle hl hmontre hw hrefus hmarque m₁ x m₂ owner hm
      hrenouvelle
    by_contra hreste
    push Not at hreste
    have hrenouvele : e.before.RenouvelePour cfg.crypto consent owner :=
      (renouvele_iff_of_montre h hl hmontre).2 ⟨m₁, x, m₂, hm, hrenouvelle, hreste⟩
    have hrefuse : (i, w) ∈ l₀ ++ (i, v) :: l₁ :=
      List.mem_append_right l₀ (List.mem_cons_of_mem _ hw)
    exact hsans (l₀ ++ (i, v) :: l₁) i e l₂ hcycle (by simp [hl])
      ⟨consent, w, hrefuse, hrefus, renouvele_iff.2 ⟨owner, hrenouvele⟩,
        hmarque.expire h (x := (i, e)) (by simp [hl]) hrenouvele⟩
  · rintro hsans l₁ i e l₂ hcycle rfl ⟨consent, w, hw, hrefus, hrenouvele, hexpire⟩
    obtain ⟨owner, hpour⟩ := renouvele_iff.1 hrenouvele
    have hmarque := marque_of_expire h (x := (i, e)) (by simp) hcycle hpour hexpire
    -- the cycle was shown the consent before it asked the bank
    obtain ⟨a, b, rfl⟩ := List.append_of_mem hw
    have hguard : Guarded (journal signature) (ApresListe cfg.crypto) ((demandes i).tache cfg) []
        fun _ _ => True :=
      hcycle ▸ guarded_tache guarded_executer
    obtain ⟨y, hy, hmontre⟩ := h.guarded_at hguard
      (List.append_assoc a ((i, w) :: b) ((i, e) :: l₂)) consent (interroge_of_refusee hrefus)
    obtain ⟨v, hv, rfl⟩ := mem_history.1 hy
    obtain ⟨a₁, a₂, rfl⟩ := List.append_of_mem hv
    have hl : a₁ ++ (i, v) :: a₂ ++ (i, w) :: b ++ (i, e) :: l₂ =
        a₁ ++ (i, v) :: ((a₂ ++ (i, w) :: b) ++ (i, e) :: l₂) := by
      simp
    -- the consent was renewed since
    obtain ⟨m₁, x, m₂, hm, hrenouvelle, hreste⟩ :=
      (renouvele_iff_of_montre (x := (i, e)) h hl hmontre).1 hpour
    obtain ⟨y, hy, hreprend⟩ := hsans a₁ i v _ e l₂ consent w hcycle hl hmontre (by simp) hrefus
      hmarque m₁ x m₂ owner hm hrenouvelle
    exact hreste y hy hreprend

end Pool

/-! ## A renewal during a cycle -/

/-- A bank with one account and consents of three days, which no longer knows the session
it was asked for and gives another one. -/
def banqueSessionPerdue (n : ℕ) : (o : Op) → o.Choix
  | .banque (.completerConsentement proprietaire _) =>
      .ok { consentBancaire (Uuid.fromU128 0) proprietaire with
        externalRef := if n < 500 then "session 1" else "session 2"
        expiresAt := some (Duration.days 3) }
  | .banque (.solde _ _) => .error .consentementInvalide
  | o => Scenario.unCompte.choix n o

/-- A user whose consent is active, and soon over. -/
def consentBientotExpire : Store :=
  (runAll (service Scenario.configuration) (machine Scenario.collation) banqueSessionPerdue
    rattachement 0 amorcee).2

/-- The user renews the consent while a cycle runs. -/
def renouvellementEtCycle : Fin 3 → Operation
  | 0 => .synchroniser
  | 1 => .renewConsent "alice" (Uuid.fromU128 1000)
  | 2 => .completeConsent "alice" reponseBanque

/-- There are three tasks. -/
private theorem troisNonNul : NeZero 3 := ⟨by decide⟩

attribute [local instance] troisNonNul in
/-- The cycle lists the consent, the user renews it, and the bank refuses the session that
was listed. -/
def avantMarque :
    List (Fin 3 × Evenement Scenario.collation) × (Fin 3 → Programme Issue) × Store :=
  runPool _ banqueSessionPerdue
    ([0, 0] ++ List.replicate 5 1 ++ List.replicate 11 2 ++ List.replicate 5 0) 500
    (fun i => (renouvellementEtCycle i).tache Scenario.configuration) consentBientotExpire

attribute [local instance] troisNonNul in
/-- Then the cycle marks the consent. -/
def marqueTardive :
    List (Fin 3 × Evenement Scenario.collation) × (Fin 3 → Programme Issue) × Store :=
  runPool _ banqueSessionPerdue [0] 523 avantMarque.2.1 avantMarque.2.2

/-- Up to the mark, the scenario is an interleaving of the renewal, the callback and the cycle. -/
theorem entrelacement_avantMarque :
    Entrelacement Scenario.collation Scenario.configuration renouvellementEtCycle
      consentBientotExpire avantMarque.1 avantMarque.2.1 avantMarque.2.2 :=
  interleaving_runPool _ _ _ _ _

/-- The mark is one more step of the cycle. -/
theorem interleaving_marqueTardive :
    Interleaving (machine Scenario.collation) avantMarque.2.1 avantMarque.2.2 marqueTardive.1
      marqueTardive.2.1 marqueTardive.2.2 :=
  interleaving_runPool _ _ _ _ _

/-- That step undoes the renewal. -/
private theorem defait_marqueTardive :
    ∃ e, marqueTardive.1 = [(0, e)] ∧ Defait enClair avantMarque.1 0 e := by
  have hlength : marqueTardive.1.length = 1 := by decide +kernel
  have hdefait : ∃ x ∈ marqueTardive.1, x.1 = 0 ∧ ∃ y ∈ avantMarque.1, y.1 = 0 ∧
      ∃ consent ∈ sessionRefusee (Event.entry y.2),
        (∃ c ∈ x.2.before.consent.rows, c.id = consent.id ∧ c.status = .active ∧
          dechiffrerTexte enClair consent.proprietaire "consent" "external_ref" c.externalRef ≠
            .ok consent.externalRef) ∧
        ∃ c ∈ (Event.after x.2).consent.rows, c.id = consent.id ∧ c.status = .expired := by
    decide +kernel
  obtain ⟨⟨i, e⟩, hx, rfl, ⟨j, v⟩, hy, rfl, consent, hrefus, hrenouvele, hexpire⟩ := hdefait
  obtain ⟨x, hone⟩ := List.length_eq_one_iff.1 hlength
  obtain rfl := List.mem_singleton.1 (hone ▸ hx)
  exact ⟨e, hone, consent, v, hy, hrefus, hrenouvele, hexpire⟩

/-- The whole scenario is an interleaving. -/
private theorem entrelacement_marqueTardive :
    Entrelacement Scenario.collation Scenario.configuration renouvellementEtCycle
      consentBientotExpire (avantMarque.1 ++ marqueTardive.1) marqueTardive.2.1 marqueTardive.2.2 :=
  Interleaving.append_iff.2 ⟨_, _, entrelacement_avantMarque, interleaving_marqueTardive⟩

/-- The renewed consent ends expired. -/
theorem not_sansDefaite_marqueTardive :
    Entrelacement Scenario.collation Scenario.configuration renouvellementEtCycle
        consentBientotExpire (avantMarque.1 ++ marqueTardive.1) marqueTardive.2.1
        marqueTardive.2.2 ∧
      ¬ SansDefaite enClair renouvellementEtCycle (avantMarque.1 ++ marqueTardive.1) := by
  refine ⟨entrelacement_marqueTardive, fun hsans => ?_⟩
  obtain ⟨e, hone, hdefait⟩ := defait_marqueTardive
  exact hsans avantMarque.1 0 e [] rfl (by rw [hone]) hdefait

/-- The renewed consent is marked on a failure older than its renewal. -/
theorem not_sansRenouvellement_marqueTardive :
    ¬ SansRenouvellement enClair renouvellementEtCycle (avantMarque.1 ++ marqueTardive.1) := by
  intro hcondition
  obtain ⟨e, hone, hdefait⟩ := defait_marqueTardive
  exact (sansDefaite_iff entrelacement_marqueTardive).2 hcondition avantMarque.1 0 e [] rfl
    (by rw [hone]) hdefait

end Budgy
