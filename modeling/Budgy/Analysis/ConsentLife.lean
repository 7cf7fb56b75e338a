import Budgy.Analysis.Concurrency

/-!
# The life of a consent, request by request

Few requests decide what becomes of a consent: its insertion, the updates and the marks that
name it, and the deletion of the rows of its owner.  `transition_after` lists what a request of
a run can make of the columns that change, given the request and its reply, so that the state
of a consent can be told from the requests alone.
-/

set_option autoImplicit false

namespace Budgy

open Effects Relational

/-- The columns of a consent that requests rewrite. -/
structure EtatConsent where
  status : ConsentStatus
  externalRef : List UInt8
  expiresAt : Option DateTime

/-- The columns that requests rewrite, in a row. -/
def ConsentRow.etat (c : ConsentRow) : EtatConsent := ⟨c.status, c.externalRef, c.expiresAt⟩

/-- The consent `id`, as long as it belongs to `owner`. -/
def Store.etatConsent (s : Store) (id : ConsentId) (owner : ProprietaireId) : Option EtatConsent :=
  ((s.consent.find? id).filter fun c => c.ownerId = owner).map ConsentRow.etat

/-- The request names the consent, and was answered: an update, a mark, or the deletion of the
rows of its owner. -/
inductive Nomme (id : ConsentId) (owner : ProprietaireId) : Entry signature → Prop where
  | misAJour (status : ConsentStatus) (blob : List UInt8) (fin : Option DateTime) (lignes : ℕ) :
      Nomme id owner ⟨.sql (.consent (.mettreAJour status blob fin id owner)), .ok lignes⟩
  | marque (status : ConsentStatus) (lignes : ℕ) :
      Nomme id owner ⟨.sql (.consent (.marquerStatutProprietaire status id owner)), .ok lignes⟩
  | marqueParCycle (status : ConsentStatus) (lignes : ℕ) :
      Nomme id owner ⟨.sql (.consent (.marquerStatutConsent id status)), .ok lignes⟩
  | efface (lignes : ℕ) :
      Nomme id owner ⟨.sql (.consent (.supprimerParProprietaire owner)), .ok lignes⟩

/-- What a request of the service, with its reply, makes of a consent.  `create_consent` inserts
it, the callback makes it active or marks it failed, `renew_consent` makes it pending again, a
cycle marks it expired, an erasure deletes it; any other request leaves it. -/
inductive Transition (id : ConsentId) (owner : ProprietaireId) :
    Entry signature → Option EtatConsent → Option EtatConsent → Prop where
  | creation (blob : List UInt8) (etablissement : String) (fin : Option DateTime) :
      Transition id owner
        ⟨.sql (.consent (.insertInitie id owner blob etablissement .pending fin)), .ok id⟩
        none (some ⟨.pending, blob, fin⟩)
  | activation (blob : List UInt8) (fin : Option DateTime) (lignes : ℕ) (hlignes : 0 < lignes)
      (etat : EtatConsent) :
      Transition id owner ⟨.sql (.consent (.mettreAJour .active blob fin id owner)), .ok lignes⟩
        (some etat) (some ⟨.active, blob, fin⟩)
  | renouvellement (blob : List UInt8) (fin : Option DateTime) (lignes : ℕ) (hlignes : 0 < lignes)
      (etat : EtatConsent) :
      Transition id owner ⟨.sql (.consent (.mettreAJour .pending blob fin id owner)), .ok lignes⟩
        (some etat) (some ⟨.pending, blob, fin⟩)
  | echec (lignes : ℕ) (etat : EtatConsent) :
      Transition id owner
        ⟨.sql (.consent (.marquerStatutProprietaire .failed id owner)), .ok lignes⟩
        (some etat) (some { etat with status := .failed })
  | expiration (lignes : ℕ) (etat : EtatConsent) :
      Transition id owner ⟨.sql (.consent (.marquerStatutConsent id .expired)), .ok lignes⟩
        (some etat) (some { etat with status := .expired })
  | effacement (lignes : ℕ) (etat : EtatConsent) :
      Transition id owner ⟨.sql (.consent (.supprimerParProprietaire owner)), .ok lignes⟩
        (some etat) none
  | absent (entree : Entry signature) : Transition id owner entree none none
  | reste (entree : Entry signature) (etat : EtatConsent) (hautre : ¬ Nomme id owner entree) :
      Transition id owner entree (some etat) (some etat)

/-! ## The consent in the database -/

section Consent

variable {s : Store} {id : ConsentId} {owner : ProprietaireId} {etat : EtatConsent}

/-- The state of a consent is the one of its row. -/
theorem etatConsent_eq_some :
    s.etatConsent id owner = some etat ↔
      ∃ c ∈ s.consent, c.id = id ∧ c.ownerId = owner ∧ c.etat = etat := by
  unfold Store.etatConsent
  simp only [Option.map_eq_some_iff, Option.filter_eq_some_iff, Table.find?_eq_some,
    decide_eq_true_eq]
  constructor
  · rintro ⟨c, ⟨⟨hc, hid⟩, howner⟩, hetat⟩
    exact ⟨c, hc, hid, howner, hetat⟩
  · rintro ⟨c, hc, hid, howner, hetat⟩
    exact ⟨c, ⟨⟨hc, hid⟩, howner⟩, hetat⟩

/-- The row of a consent gives its state. -/
theorem etatConsent_of_mem {c : ConsentRow} (hc : c ∈ s.consent) :
    s.etatConsent c.id c.ownerId = some c.etat :=
  etatConsent_eq_some.2 ⟨c, hc, rfl, rfl, rfl⟩

/-- A consent that is absent has no row. -/
theorem etatConsent_eq_none :
    s.etatConsent id owner = none ↔ ∀ c ∈ s.consent, c.id = id → c.ownerId ≠ owner := by
  rw [Option.eq_none_iff_forall_ne_some]
  constructor
  · rintro h c hc rfl rfl
    exact h c.etat (etatConsent_of_mem hc)
  · intro h etat hetat
    obtain ⟨c, hc, hid, howner, -⟩ := etatConsent_eq_some.1 hetat
    exact h c hc hid howner

/-- An update that is about a consent writes its state. -/
theorem etatConsent_majConsent {p : ConsentRow → Bool} {f : ConsentRow → ConsentRow}
    {hf : ∀ c, (f c).id = c.id} {c : ConsentRow} (hc : c ∈ s.consent) (hp : p c = true)
    (howner : (f c).ownerId = c.ownerId) :
    (s.majConsent p f hf).etatConsent c.id c.ownerId = some (f c).etat := by
  refine etatConsent_eq_some.2 ⟨f c, Store.mem_majConsent.2 ⟨c, hc, ?_⟩, hf c, howner, rfl⟩
  rw [if_pos hp]

end Consent

/-! ## What one request does -/

section Events

variable {col : Collation} {e : Evenement col} {id : ConsentId} {owner : ProprietaireId}
  {blob : List UInt8} {etablissement : String} {status : ConsentStatus} {fin : Option DateTime}

/-- An insertion that is answered leaves the consent as it was given. -/
theorem etatConsent_insere {rendu : Uuid}
    (h : Event.entry e = ⟨.sql (.consent (.insertInitie id owner blob etablissement status fin)),
      .ok rendu⟩) :
    e.after.etatConsent id owner = some ⟨status, blob, fin⟩ := by
  obtain ⟨-, x, heffet⟩ := effet_of_entry h
  obtain ⟨table, htable, -, hafter⟩ := by simpa [Requete.effet, RequeteConsent.effet] using heffet
  rw [← hafter]
  exact etatConsent_eq_some.2 ⟨_, (Table.mem_of_insert htable).2 (.inr rfl), rfl, rfl, rfl⟩

/-- An update that reaches the consent leaves it as it was given. -/
theorem etatConsent_misAJour {lignes : ℕ}
    (h : Event.entry e = ⟨.sql (.consent (.mettreAJour status blob fin id owner)), .ok lignes⟩)
    (hlignes : 0 < lignes) : e.after.etatConsent id owner = some ⟨status, blob, fin⟩ := by
  obtain ⟨-, x, heffet⟩ := effet_of_entry h
  obtain ⟨rfl, hafter⟩ := by simpa [Requete.effet, RequeteConsent.effet] using heffet
  obtain ⟨c, hc, hvise⟩ := Table.count_pos.1 hlignes
  obtain ⟨rfl, rfl⟩ := by simpa using hvise
  rw [← hafter]
  exact etatConsent_majConsent hc hvise rfl

end Events

section Pool

variable {ι : Type} [DecidableEq ι] {col : Collation} {cfg : Configuration}
  {demandes : ι → Operation} {s s' : Store} {l : List (ι × Evenement col)}
  {pool' : ι → Programme Issue} {x : ι × Evenement col} {id : ConsentId}
  {owner : ProprietaireId}

/-- A consent that is absent stays so until it is inserted. -/
private theorem transition_absent (h : Entrelacement col cfg demandes s l pool' s') (hx : x ∈ l)
    (hbefore : x.2.before.etatConsent id owner = none) :
    Transition id owner (Event.entry x.2) none ((Event.after x.2).etatConsent id owner) := by
  cases hafter : (Event.after x.2).etatConsent id owner with
  | none => exact .absent _
  | some etat =>
      obtain ⟨c, hc, rfl, rfl, rfl⟩ := etatConsent_eq_some.1 hafter
      have hnew : ∀ c₀ ∈ x.2.before.consent, c₀.id = c.id → c₀.ownerId ≠ c.ownerId :=
        etatConsent_eq_none.1 hbefore
      rcases entry_cases x.2 with hsame | ⟨r, choix, v, hentry, heffet⟩
      · exact absurd rfl (hnew c (hsame ▸ hc) rfl)
      rcases consent_effet heffet hc with ⟨c₀, hc₀, hdevient⟩ | ⟨etablissement, fin, rfl⟩
      · exact absurd hdevient.meme.ownerId.symm (hnew c₀ hc₀ hdevient.meme.id.symm)
      · have hinsere := etatConsent_insere hentry
        rw [hafter, Option.some.injEq] at hinsere
        rw [hinsere, hentry, (h.emet hx (effet_of_entry hentry).1 (by simp)).createConsent.2]
        obtain ⟨-, -, rfl, -⟩ := by simpa [Requete.effet, RequeteConsent.effet] using heffet
        exact .creation c.externalRef etablissement fin

/-- A consent that no request names stays as it is. -/
private theorem etatConsent_reste {e : Evenement col} {c₀ : ConsentRow}
    (hc₀ : c₀ ∈ e.before.consent) (hautre : ¬ Nomme c₀.id c₀.ownerId (Event.entry e)) :
    e.after.etatConsent c₀.id c₀.ownerId = some c₀.etat := by
  rcases entry_cases e with hsame | ⟨r, choix, v, hentry, heffet⟩
  · rw [hsame]
    exact etatConsent_of_mem hc₀
  rw [hentry] at hautre
  have hdelete : r ≠ .consent (.supprimerParProprietaire c₀.ownerId) := by
    rintro rfl
    exact hautre (.efface v)
  obtain ⟨c, hc, hdevient⟩ := consent_effet_reste heffet hc₀ hdelete
  cases hdevient with
  | intact => exact etatConsent_of_mem hc
  | misAJour status blob fin => exact absurd (.misAJour status blob fin v) hautre
  | marque status => exact absurd (.marque status v) hautre
  | marqueParCycle status => exact absurd (.marqueParCycle status v) hautre

/-- A consent that is there becomes what the request that names it makes of it. -/
private theorem transition_nommee (h : Entrelacement col cfg demandes s l pool' s') (hx : x ∈ l)
    {c₀ : ConsentRow} (hc₀ : c₀ ∈ x.2.before.consent)
    (hnomme : Nomme c₀.id c₀.ownerId (Event.entry x.2)) :
    Transition c₀.id c₀.ownerId (Event.entry x.2) (some c₀.etat)
      ((Event.after x.2).etatConsent c₀.id c₀.ownerId) := by
  generalize hentry : Event.entry x.2 = entree at hnomme ⊢
  cases hnomme with
  | misAJour status blob fin lignes =>
      obtain ⟨hop, choix, heffet⟩ := effet_of_entry hentry
      obtain ⟨rfl, -⟩ := by simpa [Requete.effet, RequeteConsent.effet] using heffet
      have hlignes : 0 < x.2.before.consent.count fun c =>
          c.id = c₀.id && c.ownerId = c₀.ownerId := Table.count_pos.2 ⟨c₀, hc₀, by simp⟩
      rw [etatConsent_misAJour hentry hlignes]
      have hemet := h.emet hx hop (by simp)
      generalize demandes x.1 = o at hemet
      cases hemet with
      | activer => exact .activation blob fin _ hlignes c₀.etat
      | renouveler => exact .renouvellement blob fin _ hlignes c₀.etat
      | cycle r hr => cases hr
  | marque status lignes =>
      obtain ⟨hop, choix, heffet⟩ := effet_of_entry hentry
      obtain ⟨-, hafter⟩ := by simpa [Requete.effet, RequeteConsent.effet] using heffet
      have hemet := h.emet hx hop (by simp)
      generalize demandes x.1 = o at hemet
      cases hemet with
      | echouer =>
          rw [← hafter, etatConsent_majConsent hc₀ (by simp) rfl]
          exact .echec lignes c₀.etat
      | cycle r hr => cases hr
  | marqueParCycle status lignes =>
      obtain ⟨hop, choix, heffet⟩ := effet_of_entry hentry
      obtain ⟨-, hafter⟩ := by simpa [Requete.effet, RequeteConsent.effet] using heffet
      have hemet := h.emet hx hop (by simp)
      generalize demandes x.1 = o at hemet
      cases hemet with
      | cycle r hr =>
          cases hr with
          | expirer =>
              rw [← hafter, etatConsent_majConsent hc₀ (by simp) rfl]
              exact .expiration lignes c₀.etat
  | efface lignes =>
      obtain ⟨-, choix, heffet⟩ := effet_of_entry hentry
      obtain ⟨-, hafter⟩ := by simpa [Requete.effet, RequeteConsent.effet] using heffet
      have hparti : (Event.after x.2).etatConsent c₀.id c₀.ownerId = none := by
        rw [← hafter]
        refine etatConsent_eq_none.2 fun c hc _ => ?_
        simpa using (Table.mem_delete.1 hc).2
      rw [hparti]
      exact .effacement lignes c₀.etat

/-- What a request of a run makes of a consent. -/
theorem transition_after (h : Entrelacement col cfg demandes s l pool' s') (hx : x ∈ l)
    (id : ConsentId) (owner : ProprietaireId) :
    Transition id owner (Event.entry x.2) (x.2.before.etatConsent id owner)
      ((Event.after x.2).etatConsent id owner) := by
  cases hbefore : x.2.before.etatConsent id owner with
  | none => exact transition_absent h hx hbefore
  | some etat =>
      obtain ⟨c₀, hc₀, rfl, rfl, rfl⟩ := etatConsent_eq_some.1 hbefore
      by_cases hnomme : Nomme c₀.id c₀.ownerId (Event.entry x.2)
      · exact transition_nommee h hx hc₀ hnomme
      · rw [etatConsent_reste hc₀ hnomme]
        exact .reste _ _ hnomme

end Pool

end Budgy
