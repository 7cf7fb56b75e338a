import Budgy.Analysis.BlockRefusal
import Budgy.Analysis.CallbackReplay

/-!
# A callback that fails half-way

`complete_consent` makes the consent active before it asks the bank for the accounts.  When
something fails from there on, the call answers an error and the consent stays active: played
again, the callback answers what it finds, and the accounts are lost until the consent ends.
`sansComptePerdu_iff` says that this is the only way to lose them.
-/

set_option autoImplicit false

namespace Budgy

open Effects Relational Prog

/-! ## What a failed callback must not leave -/

/-- The consent of `A` is active. -/
def Store.Actif (A : ProprietaireId) (id : ConsentId) (s : Store) : Prop :=
  ∃ c ∈ s.consent, c.id = id ∧ c.ownerId = A ∧ c.status = .active

/-- Each account of the list has its key under the consent of `A`. -/
def Store.Enregistres (crypto : CryptoService) (A : ProprietaireId) (id : ConsentId)
    (comptes : List BankAccount) (s : Store) : Prop :=
  ∀ compte ∈ comptes, ∃ a ∈ s.bankAccount, a.consentId = id ∧ a.ownerId = A ∧
    a.dedupKey = dedupKeyCompte crypto id compte.externalAccountId

/-- The request makes the consent of `A` active. -/
def Active (A : ProprietaireId) (id : ConsentId) (x : Entry signature) : Prop :=
  ∃ blob expiresAt lignes, x = ⟨.sql (.consent (.mettreAJour .active blob expiresAt id A)),
    .ok lignes⟩

/-- The bank lists these accounts. -/
def Obtient (comptes : List BankAccount) (x : Entry signature) : Prop :=
  ∃ consent, x = ⟨.banque (.listerComptes consent), .ok comptes⟩

/-- The operation neither erases the data of `A` nor begins the consent anew. -/
def Operation.Poursuit (A : ProprietaireId) (id : ConsentId) (o : Operation) : Prop :=
  o ≠ .effacerDonneesProprietaire A ∧ o ≠ .renewConsent A id

/-- What the callback answers, and leaves to the calls to come: an error does not leave the
consent active, and a later callback answers that it is active only once the accounts that
the bank listed are registered. -/
structure SansComptePerdu {col : Collation} (cfg : Configuration) (A : ProprietaireId)
    (id : ConsentId) (t : List (Evenement col)) (r : Except ApiError ConsentCompletionDto)
    (s' : Store) : Prop where
  jamaisActif : r.isOk = false → ¬ s'.Actif A id
  enregistres : ∀ comptes, (∃ e ∈ t, Obtient comptes (Event.entry e)) →
    ∀ (n : ℕ) (demandes : Fin n → Operation) (l : List (Fin n × Evenement col))
      (pool' : Fin n → Programme Issue) (s'' : Store),
      Entrelacement col cfg demandes s' l pool' s'' → (∀ i, (demandes i).Poursuit A id) →
      ∀ i payload dto, demandes i = .completeConsent A payload →
        Handlers.parseConsentId payload.state = .ok id →
        pool' i = .pure ⟨.completeConsent A payload, .ok dto⟩ → dto.status = .active →
        s''.Enregistres cfg.crypto A id comptes

/-- Nothing fails once the consent is active. -/
def SansPanne {col : Collation} (A : ProprietaireId) (id : ConsentId)
    (t : List (Evenement col)) : Prop :=
  t.Pairwise fun e f => Active A id (Event.entry e) → Evenement.Reussi f

/-! ## The later calls -/

section Later

variable {col : Collation} {cfg : Configuration} {A : ProprietaireId} {id : ConsentId}

/-- The consent of `A` is over: it is neither pending nor active. -/
def Store.Clos (A : ProprietaireId) (id : ConsentId) (s : Store) : Prop :=
  ∃ c ∈ s.consent, c.id = id ∧ c.ownerId = A ∧ c.status ≠ .pending ∧ c.status ≠ .active

/-- A closed consent has been handled. -/
theorem Store.Clos.traite {s : Store} (h : s.Clos A id) : s.Traite A id := by
  obtain ⟨c, hc, rfl, -, hpending, -⟩ := h
  intro c' hc' hid _
  rwa [Table.eq_of_key_eq hc' hc hid]

/-- A closed consent is not active. -/
theorem Store.Clos.not_actif {s : Store} (h : s.Clos A id) : ¬ s.Actif A id := by
  obtain ⟨c, hc, rfl, -, -, hactif⟩ := h
  rintro ⟨c', hc', hid, -, hstatus⟩
  rw [Table.eq_of_key_eq hc' hc hid] at hstatus
  exact hactif hstatus

/-- A consent found active is active. -/
theorem actif_of_trouve {e : Evenement col} {row : ConsentRow} (hrow : row.status = .active)
    (hentry : Event.entry e = lectureConsent A id row) : e.before.Actif A id := by
  obtain ⟨-, x, heffet⟩ := effet_of_entry hentry
  obtain ⟨hfind, -⟩ := lire_eq_ok.1 heffet
  obtain ⟨hfind, howner⟩ := Option.filter_eq_some_iff.1 hfind.symm
  obtain ⟨hmem, hid⟩ := Table.find?_eq_some.1 hfind
  exact ⟨row, hmem, hid, by simpa using howner, hrow⟩

variable {n : ℕ} {demandes : Fin n → Operation} {s s' : Store}
  {l : List (Fin n × Evenement col)} {pool' : Fin n → Programme Issue}

/-- The request of an operation that carries on keeps the consent over, if the callbacks
found it so. -/
private theorem clos_after (h : Entrelacement col cfg demandes s l pool' s')
    (hdemandes : ∀ i, (demandes i).Poursuit A id) {l₁ l₂ : List (Fin n × Evenement col)}
    {x : Fin n × Evenement col} (hl : l = l₁ ++ x :: l₂)
    (hpasse : ∀ y ∈ l₁, y.2.before.Clos A id) (hclos : x.2.before.Clos A id) :
    (Event.after x.2).Clos A id := by
  obtain ⟨i, e⟩ := x
  have hx : (i, e) ∈ l := by simp [hl]
  obtain ⟨c, hc, hid, howner, hpending, hactif⟩ := hclos
  rcases after_cases e with hsame | ⟨r, y, v, hop, heffet⟩
  · exact ⟨c, hsame ▸ hc, hid, howner, hpending, hactif⟩
  have hefface : r ≠ .consent (.supprimerParProprietaire c.ownerId) := by
    rintro rfl
    have hemet := h.emet hx hop (by simp)
    generalize hd : demandes i = o at hemet
    cases hemet with
    | cycle r hr => cases hr
    | supprimerConsents => exact (hdemandes i).1 (howner ▸ hd)
  obtain ⟨c', hc', hdevient⟩ := consent_effet_reste heffet hc hefface
  have hmeme := hdevient.meme
  refine ⟨c', hc', hmeme.id.trans hid, hmeme.ownerId.trans howner, ?_⟩
  cases hdevient with
  | intact => exact ⟨hpending, hactif⟩
  | misAJour status blob expiresAt updatedAt =>
      have hemet := h.emet hx hop (by simp)
      generalize hd : demandes i = o at hemet
      cases hemet with
      | cycle r hr => cases hr
      | renouveler => exact absurd (hd.trans (by rw [howner, hid])) (hdemandes i).2
      | activer owner payload id' hparse =>
          -- the callback read the consent pending, which it was not
          obtain ⟨w, hw, hlu⟩ := h.lu hd hparse hl (by rw [hop]; simp)
          rw [howner, hid] at hlu
          exact absurd (hpasse (i, w) hw).traite (not_traite_of_lu hlu)
  | marque status updatedAt =>
      have hemet := h.emet hx hop (by simp)
      generalize demandes i = o at hemet
      cases hemet with
      | cycle r hr => cases hr
      | echouer => exact ⟨nofun, nofun⟩
  | marqueParCycle status updatedAt =>
      have hemet := h.emet hx hop (by simp)
      generalize demandes i = o at hemet
      cases hemet with
      | cycle r hr =>
          cases hr
          exact ⟨nofun, nofun⟩

/-- Nobody answers that a consent which is over is active. -/
private theorem not_rendu_of_clos (h : Entrelacement col cfg demandes s l pool' s')
    (hdemandes : ∀ i, (demandes i).Poursuit A id) (hclos : s.Clos A id) {i : Fin n}
    {payload : ConsentCallbackRequest} {dto : ConsentCompletionDto}
    (hi : demandes i = .completeConsent A payload)
    (hid : Handlers.parseConsentId payload.state = .ok id)
    (ha : pool' i = .pure ⟨.completeConsent A payload, .ok dto⟩) : dto.status ≠ .active := by
  intro hactive
  have hpasse : ∀ y ∈ l, y.2.before.Clos A id := by
    have hfollows : s'.Clos A id ∧ ∀ y ∈ [] ++ l, y.2.before.Clos A id :=
      Interleaving.follows
        (R := fun past s => s.Clos A id ∧ ∀ y ∈ past, y.2.before.Clos A id) h
        ⟨hclos, by simp⟩ ?_
    · simpa using hfollows.2
    · rintro l₁ x l₂ hl ⟨hx, hpasse⟩
      refine ⟨clos_after h hdemandes hl (by simpa using hpasse) hx, ?_⟩
      intro y hy
      rcases List.mem_append.1 hy with hy | hy
      · exact hpasse y hy
      · obtain rfl := List.mem_singleton.1 hy
        exact hx
  obtain ⟨w, hw, hrendu⟩ := h.rendu hi hid ha hactive
  generalize hentry : Event.entry w = x at hrendu
  cases hrendu with
  | trouve row hrow => exact (hpasse (i, w) hw).not_actif (actif_of_trouve hrow hentry)
  | active blob expiresAt lignes =>
      obtain ⟨l₁, l₂, hl⟩ := List.append_of_mem hw
      have hop : w.op = .sql (.consent (.mettreAJour .active blob expiresAt id A)) :=
        congrArg Sigma.fst hentry
      obtain ⟨v, hv, hlu⟩ := h.lu hi hid hl (by rw [hop]; simp)
      have hv : (i, v) ∈ l := by simp [hl, hv]
      exact absurd (hpasse (i, v) hv).traite (not_traite_of_lu hlu)

/-- The accounts of `A` stay, until `A` asks for an erasure. -/
private theorem enregistres_after (h : Entrelacement col cfg demandes s l pool' s')
    (hdemandes : ∀ i, (demandes i).Poursuit A id) {comptes : List BankAccount}
    (hconsent : ∃ c ∈ s.consent, c.id = id ∧ c.ownerId = A)
    (hs : s.Enregistres cfg.crypto A id comptes) : s'.Enregistres cfg.crypto A id comptes := by
  refine (Interleaving.preserves (I := fun s => (∃ c ∈ s.consent, c.id = id ∧ c.ownerId = A) ∧
    s.Enregistres cfg.crypto A id comptes) h ⟨hconsent, hs⟩ ?_).2
  rintro ⟨i, e⟩ hx ⟨⟨c, hc, hcid, howner⟩, hcomptes⟩
  have hefface : e.op ≠ .sql (.compte (.supprimerParProprietaire A)) ∧
      e.op ≠ .sql (.consent (.supprimerParProprietaire A)) := by
    constructor
    · intro hop
      have hemet := h.emet hx hop (by simp)
      generalize hd : demandes i = o at hemet
      cases hemet with
      | cycle r hr => cases hr
      | supprimerComptes => exact (hdemandes i).1 hd
    · intro hop
      have hemet := h.emet hx hop (by simp)
      generalize hd : demandes i = o at hemet
      cases hemet with
      | cycle r hr => cases hr
      | supprimerConsents => exact (hdemandes i).1 hd
  obtain ⟨c', hc', hmeme⟩ := consent_reste hc (by rw [howner]; exact hefface.2)
  refine ⟨⟨c', hc', hmeme.id.trans hcid, hmeme.ownerId.trans howner⟩, fun compte hcompte => ?_⟩
  obtain ⟨a, ha, hconsent, hproprietaire, hcle⟩ := hcomptes compte hcompte
  have htitulaire : ∀ c ∈ e.before.consent, c.id = a.consentId →
      e.op ≠ .sql (.consent (.supprimerParProprietaire c.ownerId)) := by
    intro c₀ hc₀ hid₀
    rw [Table.eq_of_key_eq hc₀ hc (hid₀.trans (hconsent.trans hcid.symm)), howner]
    exact hefface.2
  obtain ⟨a', ha', hmeme'⟩ := compte_reste (h.sans_poser hx) ha
    (by rw [hproprietaire]; exact hefface.1) htitulaire
  exact ⟨a', ha', hmeme'.consentId.trans hconsent, hmeme'.ownerId.trans hproprietaire,
    hmeme'.dedupKey.trans hcle⟩

end Later

/-! ## The callback -/

section Callback

variable {col : Collation} {crypto : CryptoService} {A : ProprietaireId} {id : ConsentId}
  {s : Store}

/-- The request neither makes the consent active nor obtains the accounts. -/
def Avant (A : ProprietaireId) (id : ConsentId) (e : Evenement col) : Prop :=
  ¬ Active A id (Event.entry e) ∧ ∀ comptes, ¬ Obtient comptes (Event.entry e)

/-- A callback stops before the consent is active, or goes on with the accounts. -/
inductive DerouleRappel (crypto : CryptoService) (A : ProprietaireId) (id : ConsentId) (s : Store) :
    List (Evenement col) → Except ApiError ConsentCompletionDto → Store → Prop where
  | arrete {t : List (Evenement col)} {r : Except ApiError ConsentCompletionDto} {s' : Store}
      (ht : ∀ e ∈ t, Avant A id e) (hr : r.isOk = false) (hs' : ¬ s'.Actif A id) :
      DerouleRappel crypto A id s t r s'
  | poursuivi {t₁ t₂ : List (Evenement col)} {e : Evenement col} {s₁ s' : Store}
      {r : Except ApiError ConsentCompletionDto} (actif : Consent) (ht₁ : ∀ e ∈ t₁, Avant A id e)
      (he : Active A id (Event.entry e)) (hmarque : s.Marque A id .active s₁)
      (hrun : Runs (machine col) (Handlers.rattacherComptes crypto A id actif).run s₁ t₂ r s') :
      DerouleRappel crypto A id s (t₁ ++ e :: t₂) r s'

/-- What precedes the activation leaves the consent as it was. -/
private theorem spec_deroule_bind {α : Type} {x : Tache ApiError α}
    {f : α → Tache ApiError ConsentCompletionDto} {R : α → Prop} (hs : ¬ s.Actif A id)
    (hx : Guarded (machine col) (Avant A id) x.run s (Trouve s R))
    (hf : ∀ a, R a → Spec (machine col) (f a).run s (DerouleRappel crypto A id s)) :
    Spec (machine col) (x >>= f).run s (DerouleRappel crypto A id s) := by
  refine spec_run_bind.2 (Spec.mono hx ?_)
  rintro t₀ (e | a) _ ⟨ht₀, rfl, hR⟩
  · exact .arrete ht₀ rfl hs
  · refine Spec.mono (hf a (hR a rfl)) ?_
    intro t r s' hsuite
    have hdebut : ∀ {t₁ : List (Evenement col)}, (∀ e ∈ t₁, Avant A id e) →
        ∀ e ∈ t₀ ++ t₁, Avant A id e := by
      intro t₁ ht₁ e he
      rcases List.mem_append.1 he with he | he
      · exact ht₀ e he
      · exact ht₁ e he
    cases hsuite with
    | arrete ht hr hs' => exact .arrete (hdebut ht) hr hs'
    | poursuivi actif ht₁ he hmarque hrun =>
        rw [← List.append_assoc]
        exact .poursuivi actif (hdebut ht₁) he hmarque hrun

/-- A request that is neither an update of a consent nor a listing of accounts. -/
private theorem avant_of_op {e : Evenement col}
    (hmaj : ∀ blob expiresAt,
      e.op ≠ .sql (.consent (.mettreAJour .active blob expiresAt id A)))
    (hliste : ∀ consent, e.op ≠ .banque (.listerComptes consent)) : Avant A id e := by
  constructor
  · rintro ⟨blob, expiresAt, lignes, hentry⟩
    exact hmaj blob expiresAt (congrArg Sigma.fst hentry)
  · rintro comptes ⟨consent, hentry⟩
    exact hliste consent (congrArg Sigma.fst hentry)

/-- Nor are the reads of a repository. -/
private theorem avant_interne {e : Evenement col} (h : e.op.Interne) : Avant A id e := by
  refine avant_of_op (fun blob expiresAt hop => ?_) fun consent hop => ?_
  · rw [hop] at h
    cases h
  · rw [hop] at h
    exact h

/-- The read of a pending consent. -/
private theorem guarded_lu (h : s.Marque A id .pending s) :
    Guarded (machine col) (Avant A id)
      (lectureApi (ConsentsAdapter.fetchPourProprietaire crypto A id)).run s
      (Trouve s fun trouve => ∀ c, trouve = some c → c.status = .pending) := by
  intro t r s' hrun
  refine ⟨fun e he => avant_interne ?_, ?_⟩
  · exact hrun.uses (Uses.run_mapError (uses_fetchPourProprietaire fun o ho => ho)) e he
  · have htrouve : Guarded (machine col) (fun _ => True)
        (lectureApi (ConsentsAdapter.fetchPourProprietaire crypto A id)).run s
        (Trouve s fun trouve => ∀ c, trouve = some c →
          ∃ row ∈ s.consent, row.id = id ∧ row.ownerId = A ∧ c.status = row.status) :=
      Trouve.run_mapError (guarded_fetchPourProprietaire fun _ _ => trivial)
    obtain ⟨-, hs', hvu⟩ := htrouve hrun
    refine ⟨hs', fun trouve hr c hc => ?_⟩
    obtain ⟨row, hrow, hid, -, hstatus⟩ := hvu trouve hr c hc
    obtain ⟨c₀, hc₀, hid₀, -, hpending⟩ := h.consent
    rw [hstatus, Table.eq_of_key_eq hrow hc₀ (hid.trans hid₀.symm), hpending]

/-- A refused exchange: the call answers an error, and the consent is not active. -/
private theorem guarded_refuserDuRappel (h : s.Marque A id .pending s) {erreur : BankDataSourceError} :
    Guarded (machine col) (Avant A id)
      ((Handlers.echecConsentement A id erreur >>= fun reponse => throw reponse :
        Tache ApiError ConsentCompletionDto)).run s fun r s' =>
      r.isOk = false ∧ ¬ s'.Actif A id := by
  have hinactif : ∀ {status : ConsentStatus} {s' : Store}, s.Marque A id status s' →
      status ≠ .active → ¬ s'.Actif A id := by
    rintro status s' hmarque hstatus ⟨c, hc, hid, -, hactif⟩
    obtain ⟨c₀, hc₀, hid₀, -, hstatus₀⟩ := hmarque.consent
    rw [Table.eq_of_key_eq hc hc₀ (hid.trans hid₀.symm), hstatus₀] at hactif
    exact hstatus hactif
  have havant : ∀ x, Avant A id
      (⟨s, .sql (.consent (.marquerStatutProprietaire .failed id A)), x⟩ : Evenement col) :=
    fun x => avant_of_op (fun _ _ hop => by cases hop) fun _ hop => by cases hop
  refine Guarded.run_bind (R := fun _ s' => ¬ s'.Actif A id) (Guarded.run_bind
    (R := fun r s' => r.isOk = true ∧ ¬ s'.Actif A id) (Guarded.run_attempt (Guarded.run_mapError
      (Guarded.run_bind (R := fun _ s' => ¬ s'.Actif A id) (Guarded.run_mapError
        (guarded_interroger havant ?_ ?_)) ?_ ?_))) ?_ ?_) ?_ ?_
  · exact fun e => hinactif h nofun
  · intro x n s' heffet
    have hs' := (Prod.mk.inj (Except.ok.inj heffet)).2
    have hechoue : s.Marque A id .failed s' :=
      marque_maj h (by intro c; rfl) (by intro c; rfl) hs'.symm
    exact hinactif hechoue nofun
  · exact fun n s' hs' => guarded_pure.2 ⟨rfl, hs'⟩
  · exact fun e s' hs' => ⟨rfl, hs'⟩
  · rintro (e | b) s' ⟨-, hs'⟩
    · exact guarded_pure.2 hs'
    · exact guarded_pure.2 hs'
  · rintro e s' ⟨-, hs'⟩
    exact hs'
  · exact fun reponse s' hs' => guarded_pure.2 ⟨rfl, hs'⟩
  · exact fun e s' hs' => ⟨rfl, hs'⟩

/-- What a statement is answered is what its event shows. -/
private theorem entry_of_reply {r : Requete} {x : ChoixSql} {v : Except SqlxError r.Reponse}
    (h : (r.executer col x s).1 = v) :
    Event.entry (⟨s, .sql r, x⟩ : Evenement col) = ⟨.sql r, v⟩ := by
  rw [← h]
  rfl

/-- The update that makes the consent active: it is the last request, unless it fails. -/
private theorem spec_activer (h : s.Marque A id .pending s) {maj : MiseAJourConsent}
    (hmaj : maj.status = .active) :
    Spec (machine col) (ecritureApi (ConsentsAdapter.mettreAJour crypto A id maj)).run s
      fun t r s₁ => match r with
        | .ok _ => ∃ t₁ e, t = t₁ ++ [e] ∧ (∀ f ∈ t₁, Avant A id f) ∧ Active A id (Event.entry e) ∧
            s.Marque A id .active s₁
        | .error _ => (∀ f ∈ t, Avant A id f) ∧ s₁ = s := by
  refine spec_run_mapError.2 (spec_run_mapError.2 (spec_run_bind.2 ?_))
  have hchiffre : Guarded (machine col) (Avant A id)
      (chiffrerTexteFrais crypto A "consent" "external_ref" maj.externalRef).run s
      (Trouve s fun _ => True) := by
    refine Guarded.run_bind (R := fun _ s' => s' = s) (Guarded.run_ofProg (guarded_perform.2 ?_))
      ?_ ?_
    · exact fun nonce => ⟨avant_interne trivial, rfl⟩
    · rintro nonce _ rfl
      exact Trouve.run_ofExcept fun _ _ => trivial
    · rintro e _ rfl
      exact trouve_error
  refine Spec.mono hchiffre ?_
  rintro t₁ (e | blob) _ ⟨ht₁, rfl, -⟩
  · exact ⟨ht₁, rfl⟩
  refine spec_run_bind.2 (spec_interrogerChiffre ?_ ?_)
  · intro x e hreply
    refine ⟨fun f hf => ?_, rfl⟩
    rcases List.mem_append.1 hf with hf | hf
    · exact ht₁ f hf
    · obtain rfl := List.mem_singleton.1 hf
      refine ⟨?_, fun comptes hobtient => ?_⟩
      · rintro ⟨blob', expiresAt, lignes, hentry⟩
        rw [entry_of_reply hreply, hmaj] at hentry
        cases hentry
      · obtain ⟨consent, hentry⟩ := hobtient
        rw [entry_of_reply hreply] at hentry
        cases hentry
  · intro x n s₁ heffet hreply
    have hs₁ := (Prod.mk.inj (Except.ok.inj heffet)).2
    refine spec_run_pure.2 ⟨t₁, _, by rw [List.append_nil], ht₁, ⟨blob, maj.expiresAt, n, ?_⟩, ?_⟩
    · rw [entry_of_reply hreply, hmaj]
    · exact marque_maj h (by intro c; rfl) (by intro c; exact hmaj) hs₁.symm

/-- A callback on a pending consent stops before it is active, or goes on with its accounts. -/
private theorem spec_completeConsent (h : s.Marque A id .pending s)
    {payload : ConsentCallbackRequest}
    (hid : Handlers.parseConsentId payload.state = .ok id) :
    Spec (machine col) (Handlers.completeConsent crypto A payload).run s
      (DerouleRappel crypto A id s) := by
  have hs : ¬ s.Actif A id := by
    rintro ⟨c, hc, hid, -, hactif⟩
    obtain ⟨c₀, hc₀, hid₀, -, hpending⟩ := h.consent
    rw [Table.eq_of_key_eq hc hc₀ (hid.trans hid₀.symm), hpending] at hactif
    cases hactif
  refine spec_deroule_bind (R := fun id' => id' = id) hs (Trouve.run_ofExcept ?_) ?_
  · intro id' hid'
    exact (Except.ok.inj (hid.symm.trans hid')).symm
  rintro id rfl
  refine spec_deroule_bind hs (guarded_lu h) fun existant hexistant => ?_
  refine spec_deroule_bind (R := fun consent => existant = some consent) hs ?_ ?_
  · cases existant with
    | none => exact guarded_run_throw.2 trouve_error
    | some consent => exact guarded_run_pure.2 (trouve_ok rfl)
  rintro consent rfl
  rw [if_neg (by simp [hexistant consent rfl])]
  -- the exchange of the code
  refine spec_deroule_bind (R := fun _ => True) hs (Guarded.run_attempt (guarded_perform.2 ?_)) ?_
  · intro r
    exact ⟨avant_of_op (fun _ _ hop => by cases hop) (fun _ hop => by cases hop), rfl,
      fun _ _ => trivial⟩
  rintro (erreur | actif) -
  · intro t r s' hrun
    obtain ⟨ht, hr, hs'⟩ := guarded_refuserDuRappel h hrun
    exact .arrete ht hr hs'
  · refine spec_run_bind.2 (Spec.mono (spec_activer h rfl) ?_)
    rintro t₁ (e | b) s₁ hactiver
    · obtain ⟨ht₁, rfl⟩ := hactiver
      exact .arrete ht₁ rfl hs
    · obtain ⟨t₀, e, rfl, ht₀, he, hmarque⟩ := hactiver
      intro t₂ r s' hrun
      rw [List.append_assoc, List.singleton_append]
      exact .poursuivi actif ht₀ he hmarque hrun

/-! ### Once the consent is active -/

/-- A request of the two loops. -/
def Op.Boucle : Op → Prop
  | .banque _ | .sql (.consent (.mettreAJour ..)) => False
  | _ => True

/-- A request that stays inside is one that the loop may make. -/
theorem Op.Interne.boucle {o : Op} (h : o.Interne) : o.Boucle := by
  cases o with
  | sql r =>
      cases r with
      | consent r => cases r <;> trivial
      | _ => trivial
  | nonce => trivial
  | banque | publier | uuidV4 | maintenant => exact h.elim

/-- The call lists the accounts first, and goes through the two loops. -/
private theorem spec_listerDuRappel {s₁ : Store} {actif : Consent} :
    Spec (machine col) (Handlers.rattacherComptes crypto A id actif).run s₁ fun t _ _ =>
      ∃ e t₃, t = e :: t₃ ∧ e.op = .banque (.listerComptes actif) ∧ ∀ f ∈ t₃, f.op.Boucle := by
  refine spec_run_bind.2 (spec_run_mapError.2 (spec_perform.2 ?_))
  rintro (e | comptes)
  · exact ⟨_, [], rfl, rfl, by simp⟩
  · intro t₃ r s' hrun
    refine ⟨_, t₃, rfl, rfl, hrun.uses ?_⟩
    have hi : ∀ o : Op, o.Interne → o.Boucle := fun o ho => ho.boucle
    refine Uses.run_bind (Uses.run_forM fun compte _ => uses_refuserCompteConcurrent hi trivial)
      fun _ => Uses.run_bind (Uses.run_forM fun compte _ => uses_attacherCompte hi ?_)
        fun _ => ?_
    · exact fun l _ _ _ => trivial
    · exact Uses.run_bind (Uses.run_mapError (uses_listerParConsent hi)) fun _ => uses_pure _

/-- The activation lasts until the refusal of an account, or until the end of the call. -/
private theorem spec_rattacher {s₁ : Store} (h : s₁.Actif A id) {actif : Consent} :
    Spec (machine col) (Handlers.rattacherComptes crypto A id actif).run s₁ fun t =>
      Stops Evenement.Reussi (fun _ s' => s'.Actif A id) (fun s' => s'.Actif A id) t := by
  have hactif : ∀ {r : Requete} {x : ChoixSql} {v : r.Reponse} {s₂ s₃ : Store},
      r.effet col x s₂ = .ok (v, s₃) → NomTable.consent ∉ r.ecrit → s₂.Actif A id →
      s₃.Actif A id := by
    intro r x v s₂ s₃ heffet hecrit hs₂
    have hconsent : s₃.consent = s₂.consent := pareil_effet (t := .consent) heffet hecrit
    rwa [Store.Actif, hconsent]
  refine spec_stops_bind (R := fun _ s' => s'.Actif A id)
    (spec_stops_mapError (spec_perform.2 ?_)) fun comptes s₂ hs₂ => ?_
  · rintro (e | comptes)
    · exact .inr h
    · refine ⟨fun e he => ?_, h⟩
      obtain rfl := List.mem_singleton.1 he
      rfl
  refine spec_stops_bind (R := fun _ s' => s'.Actif A id)
    (spec_stops_forM hs₂ fun compte s₃ hs₃ => ?_) fun _ s₃ hs₃ => ?_
  · refine spec_stops_bind (R := fun _ s' => s'.Actif A id) (spec_stops_mapError
      (spec_stops_mapError (spec_stops_interrogerChiffre hs₃ ?_))) ?_
    · exact fun x v s' heffet => hactif heffet (by simp) hs₃
    · rintro (_ | autre) s₄ hs₄
      · exact spec_stops_pure hs₄
      · refine spec_stops_bind (R := fun _ _ => True) (spec_stops_mapError (spec_stops_mapError
          (spec_stops_bind (spec_stops_interrogerChiffre (Q := fun _ _ => True) hs₄ ?_) ?_))) ?_
        · exact fun _ _ _ _ => trivial
        · exact fun _ _ _ => spec_stops_pure trivial
        · exact fun _ _ _ => spec_stops_throw
  refine spec_stops_bind (R := fun _ s' => s'.Actif A id)
    (spec_stops_forM hs₃ fun compte s₄ hs₄ => ?_) fun _ s₄ hs₄ => ?_
  · refine spec_stops_bind (R := fun _ s' => s'.Actif A id) (spec_stops_mapError
      (spec_stops_mapError ?_)) fun _ _ hs' => spec_stops_pure hs'
    refine spec_stops_bind spec_stops_chiffrerTexteFrais ?_
    rintro externe _ rfl
    refine spec_stops_bind spec_stops_chiffrerTexteFrais ?_
    rintro iban _ rfl
    refine spec_stops_bind (R := fun _ s' => s'.Actif A id)
      (spec_stops_interrogerChiffre hs₄ ?_) ?_
    · exact fun x v s' heffet => hactif heffet (by simp) hs₄
    · rintro (_ | nouveau) s₅ hs₅
      · exact spec_stops_interrogerChiffre hs₅ fun x v s' heffet => hactif heffet (by simp) hs₅
      · exact spec_stops_pure hs₅
  refine spec_stops_bind (R := fun _ s' => s'.Actif A id) (spec_stops_mapError (spec_stops_mapError
    (spec_stops_bind (spec_stops_interrogerChiffre (Q := fun _ s' => s'.Actif A id) hs₄ ?_) ?_)))
    fun _ _ hs' => spec_stops_pure hs'
  · exact fun x v s' heffet => hactif heffet (by simp) hs₄
  · rintro rows s₅ hs₅
    cases hvus : rows.mapM (BankAccounts.intoBankAccount crypto) with
    | error e => exact spec_stops_throw
    | ok vus => exact spec_stops_pure hs₅

/-- A listing that succeeds is one of some accounts. -/
private theorem obtient_of_reussi {e : Evenement col} {actif : Consent}
    (hop : e.op = .banque (.listerComptes actif)) (h : Evenement.Reussi e) :
    ∃ comptes, Obtient comptes (Event.entry e) := by
  obtain ⟨s, o, r⟩ := e
  obtain rfl : o = .banque (.listerComptes actif) := hop
  cases r with
  | error e => cases h
  | ok comptes => exact ⟨comptes, actif, rfl⟩

/-- A request of the loops is neither of the two. -/
private theorem avant_of_boucle {e : Evenement col} (h : e.op.Boucle) : Avant A id e := by
  refine avant_of_op (fun blob expiresAt hop => ?_) fun consent hop => ?_
  · rw [hop] at h
    exact h
  · rw [hop] at h
    exact h

/-- Around one activation, the condition is about what follows it. -/
private theorem sansPanne_append_iff {t₁ t₂ : List (Evenement col)} {e : Evenement col}
    (ht₁ : ∀ f ∈ t₁, Avant A id f) (he : Active A id (Event.entry e))
    (ht₂ : ∀ f ∈ t₂, ¬ Active A id (Event.entry f)) :
    SansPanne A id (t₁ ++ e :: t₂) ↔ ∀ f ∈ t₂, Evenement.Reussi f := by
  unfold SansPanne
  rw [List.pairwise_append, List.pairwise_cons]
  constructor
  · intro h f hf
    exact h.2.1.1 f hf he
  · intro h
    refine ⟨?_, ⟨fun f hf _ => h f hf, ?_⟩, ?_⟩
    · exact List.pairwise_of_forall_mem_list fun f hf _ _ hactive => absurd hactive (ht₁ f hf).1
    · exact List.pairwise_of_forall_mem_list fun f hf _ _ hactive => absurd hactive (ht₂ f hf)
    · exact fun f hf _ _ hactive => absurd hactive (ht₁ f hf).1

/-- When nothing fails from there on, the accounts of the list are registered, or the
consent is over. -/
private theorem issue_sansPanne (hfiable : crypto.Fiable) (hs : s.ComptesLisibles crypto)
    (htitulaire : s.ComptesDuTitulaire) (hconsents : ∃ c ∈ s.consent, c.id = id ∧ c.ownerId = A)
    {s₁ s' : Store} {actif : Consent} {e : Evenement col} {t₃ : List (Evenement col)}
    {r : Except ApiError ConsentCompletionDto}
    {comptes : List BankAccount} (hmarque : s.Marque A id .active s₁)
    (hrun :
      Runs (machine col) (Handlers.rattacherComptes crypto A id actif).run s₁ (e :: t₃) r s')
    (he : Obtient comptes (Event.entry e)) (ht₃ : ∀ f ∈ t₃, f.op.Boucle)
    (hreussi : ∀ f ∈ t₃, Evenement.Reussi f) :
    (r.isOk = false ∧ s'.Clos A id) ∨ (r.isOk = true ∧
      (∃ c ∈ s'.consent, c.id = id ∧ c.ownerId = A) ∧ s'.Enregistres crypto A id comptes) := by
  have hactif : s₁.Actif A id := hmarque.consent
  have hliste : ∀ f ∈ e :: t₃, Liste comptes (Event.entry f) := by
    intro f hf
    rcases List.mem_cons.1 hf with rfl | hf
    · obtain ⟨consent, hentry⟩ := he
      rw [hentry]
      rfl
    · have hboucle := ht₃ f hf
      have hok := hreussi f hf
      obtain ⟨s₂, o, x⟩ := f
      cases o with
      | banque a => exact hboucle.elim
      | sql | publier | nonce | uuidV4 | maintenant => exact hok
  obtain ⟨hrefus, hreprise⟩ := under_rattacherComptes hfiable hs hmarque hrun hliste
  by_cases hpris : ∃ compte ∈ comptes, s.PrisAilleurs crypto A compte.externalAccountId
  · obtain ⟨⟨message, rfl⟩, hechoue⟩ := hrefus hpris
    obtain ⟨c, hc, hid, howner, hstatus⟩ := hechoue.consent
    exact .inl ⟨rfl, c, hc, hid, howner, by rw [hstatus]; exact ⟨nofun, nofun⟩⟩
  · obtain ⟨hok, havancement⟩ := hreprise (by simpa using hpris)
    -- nothing fails, and the consent is still active
    cases r with
    | error e => cases hok
    | ok dto =>
        obtain ⟨-, c, hc, hid, howner, -⟩ := spec_rattacher hactif hrun
        refine .inr ⟨rfl, ⟨c, hc, hid, howner⟩, fun compte hcompte => ?_⟩
        obtain ⟨a, ha, hconsent, hcle⟩ := havancement.poses compte hcompte
        refine ⟨a, ha, hconsent, ?_, hcle⟩
        rcases havancement.nouveaux a ha with hancien | ⟨-, hnouveau, -⟩
        · obtain ⟨c₀, hc₀, hid₀, howner₀⟩ := hconsents
          rw [← howner₀]
          exact (htitulaire a hancien c₀ hc₀ (hid₀.trans hconsent.symm)).symm
        · exact hnouveau

end Callback

/-- A callback on a pending consent loses no account exactly when nothing fails once the
consent is active. -/
theorem sansComptePerdu_iff {col : Collation} {cfg : Configuration} {A : ProprietaireId}
    {id : ConsentId} {payload : ConsentCallbackRequest} {s s' : Store}
    {t : List (Evenement col)} {r : Except ApiError ConsentCompletionDto}
    (hfiable : cfg.crypto.Fiable) (hs : s.ComptesLisibles cfg.crypto)
    (htitulaire : s.ComptesDuTitulaire)
    (hid : Handlers.parseConsentId payload.state = .ok id)
    (hattente : ∃ c ∈ s.consent, c.id = id ∧ c.ownerId = A ∧ c.status = .pending)
    (hrun : Runs (machine col) (Handlers.completeConsent cfg.crypto A payload).run s t r s') :
    SansComptePerdu cfg A id t r s' ↔ SansPanne A id t := by
  have hpending : s.Marque A id .pending s := ⟨rfl, hattente, fun _ _ => Iff.rfl⟩
  have hderoule := spec_completeConsent hpending hid hrun
  cases hderoule with
  | arrete ht hr hs' =>
      refine iff_of_true ⟨fun _ => hs', ?_⟩ ?_
      · rintro comptes ⟨e, he, hobtient⟩
        exact absurd hobtient ((ht e he).2 comptes)
      · exact List.pairwise_of_forall_mem_list fun e he _ _ hactive => absurd hactive (ht e he).1
  | @poursuivi t₁ t₂ e s₁ s' r actif ht₁ he hmarque hsuite =>
      obtain ⟨f, t₃, rfl, hf, ht₃⟩ := spec_listerDuRappel hsuite
      have hf' : ¬ Active A id (Event.entry f) := by
        rintro ⟨blob, expiresAt, lignes, hentry⟩
        have hop : f.op = .sql _ := congrArg Sigma.fst hentry
        rw [hf] at hop
        cases hop
      have ht₂ : ∀ g ∈ f :: t₃, ¬ Active A id (Event.entry g) := by
        intro g hg
        rcases List.mem_cons.1 hg with rfl | hg
        · exact hf'
        · exact (avant_of_boucle (ht₃ g hg)).1
      rw [sansPanne_append_iff ht₁ he ht₂]
      constructor
      · intro hperdu g hg
        by_contra hechec
        -- the call fails, and leaves the consent active
        have hactif : s₁.Actif A id := hmarque.consent
        have hstops := spec_rattacher hactif hsuite
        cases r with
        | ok dto => exact hechec (hstops.1 g hg)
        | error erreur =>
            rcases hstops with hreussi | hactif
            · exact hechec (hreussi g hg)
            · exact hperdu.jamaisActif rfl hactif
      · intro hreussi
        obtain ⟨comptes, hliste⟩ := obtient_of_reussi hf (hreussi f List.mem_cons_self)
        -- no other request lists accounts
        have hunique : ∀ comptes', (∃ g ∈ t₁ ++ e :: f :: t₃, Obtient comptes' (Event.entry g)) →
            comptes' = comptes := by
          rintro comptes' ⟨g, hg, hobtient⟩
          rcases List.mem_append.1 hg with hg | hg
          · exact absurd hobtient ((ht₁ g hg).2 comptes')
          rcases List.mem_cons.1 hg with rfl | hg
          · obtain ⟨blob, expiresAt, lignes, hentry⟩ := he
            obtain ⟨consent, hentry'⟩ := hobtient
            cases hentry.symm.trans hentry'
          rcases List.mem_cons.1 hg with rfl | hg
          · obtain ⟨consent, hentry⟩ := hliste
            obtain ⟨consent', hentry'⟩ := hobtient
            cases hentry.symm.trans hentry'
            rfl
          · have havant : Avant A id g := avant_of_boucle (ht₃ g hg)
            exact absurd hobtient (havant.2 comptes')
        obtain ⟨c, hc, hcid, howner, -⟩ := hattente
        rcases issue_sansPanne hfiable hs htitulaire ⟨c, hc, hcid, howner⟩ hmarque hsuite hliste ht₃
            fun g hg => hreussi g (List.mem_cons_of_mem f hg) with
          ⟨-, hclos⟩ | ⟨hok, hconsent, henregistres⟩
        · refine ⟨fun _ => hclos.not_actif, ?_⟩
          intro comptes' _ n demandes l pool' s'' h hdemandes i payload' dto hi hid' ha hactive
          exact absurd hactive (not_rendu_of_clos h hdemandes hclos hi hid' ha)
        · refine ⟨fun hechec => absurd (hok.symm.trans hechec) nofun, ?_⟩
          intro comptes' hobtient n demandes l pool' s'' h hdemandes i payload' dto hi hid' ha _
          rw [hunique comptes' hobtient]
          exact enregistres_after h hdemandes hconsent henregistres

/-! ## An insertion that fails -/

/-- The callback of a user whose consent is pending, at a bank with one account; the request of
some rank fails. -/
def rappelAvecPanne (panne : ℕ → Option String) :
    Outcome (machine Scenario.collation) (Except ApiError ConsentCompletionDto) :=
  run _ ({ Scenario.unCompte with panne } : Scenario).choix
    (Handlers.completeConsent enClair "alice" reponseBanque).run 500 consentEnAttente

/-- The consent of the user is pending. -/
private theorem attente_consentEnAttente : ∃ c ∈ consentEnAttente.consent,
    c.id = Uuid.fromU128 1000 ∧ c.ownerId = "alice" ∧ c.status = .pending := by
  have hpending : ∃ c ∈ consentEnAttente.consent.rows, c.id = Uuid.fromU128 1000 ∧
      c.ownerId = "alice" ∧ c.status = .pending := by
    decide
  exact hpending

/-- When nothing fails, no account is lost. -/
theorem sansComptePerdu_sansPanne :
    SansComptePerdu Scenario.configuration "alice" (Uuid.fromU128 1000)
      (rappelAvecPanne fun _ => none).trace (rappelAvecPanne fun _ => none).value
      (rappelAvecPanne fun _ => none).state := by
  have hvide : ∀ a ∈ consentEnAttente.bankAccount.rows, False := by decide
  have hreussi : ∀ e ∈ (rappelAvecPanne fun _ => none).trace, Evenement.Reussi e := by decide
  refine (sansComptePerdu_iff fiable_enClair (fun a ha => (hvide a ha).elim)
    (fun a ha => (hvide a ha).elim) (by decide) attente_consentEnAttente (runs_run _ _ _ _)).2 ?_
  exact List.pairwise_of_forall_mem_list fun e _ f hf _ => hreussi f hf

/-- The insertion of the account fails. -/
def insertionEnPanne : Outcome (machine Scenario.collation)
    (Except ApiError ConsentCompletionDto) :=
  rappelAvecPanne fun n => if n = 508 then some "panne" else none

/-- The callback, played again. -/
def rejeuApresPanne :
    List (Fin 1 × Evenement Scenario.collation) × (Fin 1 → Programme Issue) × Store :=
  Scenario.calme.cote (fun _ => .completeConsent "alice" reponseBanque) [0, 0]
    insertionEnPanne.state

/-- The bank lists an account, its insertion fails, and the callback played again answers that
the consent is active: the account is lost. -/
theorem not_sansComptePerdu_insertionEnPanne :
    ¬ SansComptePerdu Scenario.configuration "alice" (Uuid.fromU128 1000) insertionEnPanne.trace
      insertionEnPanne.value insertionEnPanne.state := by
  intro h
  have hliste : ∃ e ∈ insertionEnPanne.trace, Obtient [compteBancaire "FR1"] (Event.entry e) :=
    ⟨insertionEnPanne.trace.get ⟨4, by decide⟩, List.get_mem _ _,
      consentBancaire (Uuid.fromU128 0) "alice", rfl⟩
  have hrejeu : rejeuApresPanne.2.1 0 = .pure ⟨.completeConsent "alice" reponseBanque,
      .ok ⟨Uuid.fromU128 1000, .active, []⟩⟩ := by
    rfl
  have hvide : ∀ a ∈ rejeuApresPanne.2.2.bankAccount.rows, False := by decide
  have henregistres := h.enregistres _ hliste 1 _ _ _ _
    (Scenario.calme.entrelacement (fun _ => .completeConsent "alice" reponseBanque) [0, 0]
      insertionEnPanne.state) (fun _ => ⟨nofun, nofun⟩) 0 reponseBanque _ rfl (by decide) hrejeu rfl
  obtain ⟨a, ha, -⟩ := henregistres (compteBancaire "FR1") (by simp)
  exact hvide a ha

end Budgy
