import Budgy.Analysis.AbandonedRenewal
import Budgy.Analysis.SingleCounting
import Budgy.Analysis.StoredCiphertexts
import Budgy.Interface.Latest

/-!
# The page of the consents

The page keeps one consent for each bank, the latest updated.  What it says of the renewal
is what the renewal does: an offer can be taken up for as long as nobody touches the consent,
which is then pending with what the bank gave, and a consent that is not offered is refused.
-/

set_option autoImplicit false

namespace Budgy

open Effects Relational

/-- The bank of a consent, or its identifier when the bank is unknown. -/
def ConsentRow.cle (c : ConsentRow) : String := c.etablissement.getD c.id.toText

/-- A consent as the page shows it. -/
def ConsentRow.dto (c : ConsentRow) (maintenant : DateTime) : ConsentDto :=
  ConsentDto.depuis (c.vue "") maintenant margeRenouvellementDefaut

/-- The instant that the request read. -/
def Evenement.heure {col : Collation} : Evenement col → Option DateTime
  | ⟨_, .maintenant, instant⟩ => some instant
  | _ => none

/-- The rows of a page of `A`: one consent for each of its banks, the latest updated, in
descending order. -/
structure Fusion (s : Store) (A : ProprietaireId) (lignes : List ConsentRow) : Prop where
  siennes : ∀ c ∈ lignes, c ∈ s.consent ∧ c.ownerId = A
  unique : (lignes.map ConsentRow.cle).Nodup
  complete : ∀ c ∈ s.consent, c.ownerId = A →
    ∃ c' ∈ lignes, c'.cle = c.cle ∧ c.updatedAt ≤ c'.updatedAt
  triee : lignes.Pairwise fun a b => b.updatedAt ≤ a.updatedAt

/-! ## The merge -/

/-- The merge keeps the latest consent of each bank. -/
theorem parEtablissement_kept (consents : List Consent) :
    Latest.Kept (fun c : Consent => c.etablissement.getD c.id.toText) Consent.updatedAt consents
      (Handlers.parEtablissement consents) := by
  have heq : Handlers.parEtablissement consents =
      Latest.keepAll (fun c : Consent => c.etablissement.getD c.id.toText) Consent.updatedAt
        consents := by
    unfold Handlers.parEtablissement Latest.keepAll
    congr 1
    funext m c
    unfold Latest.keep
    split <;> rename_i h <;> simp only [h]
  rw [heq]
  exact Latest.kept_keepAll consents

section Page

variable {col : Collation} {crypto : CryptoService} {A : ProprietaireId} {s s' : Store}

/-- The consents that are read are the views of the rows of `A`. -/
theorem guarded_listerConsents :
    Guarded (machine col) (fun _ => True) (ConsentsAdapter.listerParProprietaire crypto A).run s
      (Trouve s fun consents =>
        (∀ k ∈ consents, ∃ c ∈ s.consent, c.ownerId = A ∧ ∃ ref, k = c.vue ref) ∧
        ∀ c ∈ s.consent, c.ownerId = A → ∃ k ∈ consents, ∃ ref, k = c.vue ref) := by
  apply Trouve.run_mapError
  apply Trouve.run_bind (Trouve.run_mapError (guarded_lecture (fun _ _ => trivial) rfl))
  rintro rows ⟨x, heffet⟩
  obtain ⟨rfl, -⟩ := lire_eq_ok.1 heffet
  apply Trouve.run_ofExcept
  intro consents hconsents
  constructor
  · intro k hk
    obtain ⟨c, hc, hlu⟩ := Traversal.exists_of_mem hconsents hk
    simp only [mem_sortBy, mem_arrange, Table.mem_select, decide_eq_true_eq] at hc
    exact ⟨c, hc.1, hc.2, intoConsent_vue hlu⟩
  · intro c hc howner
    have hmem : c ∈ sortBy (fun c => -c.createdAt)
        (arrange ConsentRow.id x.rang (s.consent.select fun c => c.ownerId = A)) := by
      simp only [mem_sortBy, mem_arrange, Table.mem_select, decide_eq_true_eq]
      exact ⟨hc, howner⟩
    obtain ⟨k, hk, hlu⟩ := Traversal.exists_of_mem_left hconsents hmem
    exact ⟨k, hk, intoConsent_vue hlu⟩

/-- The consent is read from a row of `A`. -/
def LuDe (s : Store) (A : ProprietaireId) (c : ConsentRow) (k : Consent) : Prop :=
  (c ∈ s.consent ∧ c.ownerId = A) ∧ ∃ ref, k = c.vue ref

/-- Consents that are read from rows of `A` are read from a list of them. -/
private theorem exists_lignes {l : List Consent}
    (h : ∀ k ∈ l, ∃ c ∈ s.consent, c.ownerId = A ∧ ∃ ref, k = c.vue ref) :
    ∃ lignes, List.Forall₂ (LuDe s A) lignes l := by
  induction l with
  | nil => exact ⟨[], .nil⟩
  | cons k l ih =>
      obtain ⟨c, hc, howner, hvue⟩ := h k (by simp)
      obtain ⟨lignes, hlignes⟩ := ih fun k hk => h k (by simp [hk])
      exact ⟨c :: lignes, .cons ⟨⟨hc, howner⟩, hvue⟩ hlignes⟩

/-- What the consents show of their rows, the rows show. -/
private theorem map_lignes {β : Type} {f : ConsentRow → β} {g : Consent → β}
    (hfg : ∀ c ref, f c = g (c.vue ref)) {lignes : List ConsentRow} {l : List Consent}
    (h : List.Forall₂ (LuDe s A) lignes l) : lignes.map f = l.map g := by
  induction h with
  | nil => rfl
  | cons hlu _ ih =>
      obtain ⟨-, ref, rfl⟩ := hlu
      rw [List.map_cons, List.map_cons, ih, hfg _ ref]

/-- The merge of the consents that are read is a merge of their rows. -/
theorem fusion_parEtablissement {consents : List Consent} (maintenant : DateTime)
    (hsiennes : ∀ k ∈ consents, ∃ c ∈ s.consent, c.ownerId = A ∧ ∃ ref, k = c.vue ref)
    (htoutes : ∀ c ∈ s.consent, c.ownerId = A → ∃ k ∈ consents, ∃ ref, k = c.vue ref) :
    ∃ lignes, Fusion s A lignes ∧
      (sortBy (fun c => -c.updatedAt) (Handlers.parEtablissement consents).valeurs).map
        (fun consent => ConsentDto.depuis consent maintenant margeRenouvellementDefaut) =
        lignes.map fun c => c.dto maintenant := by
  have hkept := parEtablissement_kept consents
  have hperm := perm_sortBy (fun c : Consent => -c.updatedAt)
    (Handlers.parEtablissement consents).valeurs
  have hmem : ∀ k, k ∈ sortBy (fun c => -c.updatedAt)
      (Handlers.parEtablissement consents).valeurs ↔
        (Handlers.parEtablissement consents).lookup (k.etablissement.getD k.id.toText) =
          some k := by
    intro k
    rw [mem_sortBy]
    exact hkept.mem_values
  obtain ⟨lignes, hlignes⟩ := exists_lignes (s := s) (A := A) (l := sortBy
    (fun c => -c.updatedAt) (Handlers.parEtablissement consents).valeurs) fun k hk =>
      hsiennes k (hkept.sound _ _ ((hmem k).1 hk)).1
  refine ⟨lignes, ⟨?_, ?_, ?_, ?_⟩, ?_⟩
  · intro c hc
    obtain ⟨k, -, hlu⟩ := Traversal.exists_right_of_mem hlignes hc
    exact hlu.1
  · rw [map_lignes (g := fun k => k.etablissement.getD k.id.toText) (fun _ _ => rfl) hlignes]
    exact (hperm.map _).nodup_iff.2 hkept.nodup
  · intro c hc howner
    obtain ⟨k, hk, ref, rfl⟩ := htoutes c hc howner
    obtain ⟨k', hk', hle⟩ := hkept.complete _ hk
    have hcle : k'.etablissement.getD k'.id.toText = c.cle := (hkept.sound _ _ hk').2
    obtain ⟨c', hc', -, ref', rfl⟩ := Traversal.exists_left_of_mem hlignes
      ((hmem k').2 (hcle ▸ hk'))
    exact ⟨c', hc', hcle, hle⟩
  · have hsorted := pairwise_sortBy (fun c : Consent => -c.updatedAt)
      (Handlers.parEtablissement consents).valeurs
    have hdates : (lignes.map ConsentRow.updatedAt).Pairwise fun a b => b ≤ a := by
      rw [map_lignes (g := Consent.updatedAt) (fun _ _ => rfl) hlignes, List.pairwise_map]
      exact hsorted.imp fun hle => neg_le_neg_iff.1 hle
    exact List.pairwise_map.1 hdates
  · exact (map_lignes (fun _ _ => rfl) hlignes).symm

end Page

/-! ## What every database of a run keeps -/

/-- Every consent names its bank, and its reference was encrypted for it. -/
def Store.ConsentsLisibles (crypto : CryptoService) (s : Store) : Prop :=
  ∀ c ∈ s.consent, Chiffre crypto c.ownerId "consent" "external_ref" c.externalRef ∧
    ∃ banque, c.etablissement = some banque

section Runs

variable {col : Collation} {cfg : Configuration} {s₀ s : Store} {l : List (Etape col cfg)}

/-- A statement leaves the consents readable when what it writes is sealed. -/
theorem Store.ConsentsLisibles.effet {crypto : CryptoService} {s s' : Store} {r : Requete}
    {x : ChoixSql} {v : r.Reponse} {A : ProprietaireId} (hs : s.ConsentsLisibles crypto)
    (heffet : r.effet col x s = .ok (v, s')) (hr : r.Pour crypto Set.univ A s) :
    s'.ConsentsLisibles crypto := by
  by_cases hw : NomTable.consent ∈ r.ecrit
  swap
  · have hsame : s'.consent = s.consent := pareil_effet heffet hw
    intro c hc
    exact hs c (hsame ▸ hc)
  intro c hc
  rcases consent_effet heffet hc with ⟨c₀, hc₀, hdevient⟩ | ⟨banque, fin, rfl⟩
  · obtain ⟨hchiffre, hbanque⟩ := hs c₀ hc₀
    cases hdevient with
    | intact => exact ⟨hchiffre, hbanque⟩
    | misAJour => exact ⟨hr.1.symm ▸ hr.2, hbanque⟩
    | marque => exact ⟨hchiffre, hbanque⟩
    | marqueParCycle => exact ⟨hchiffre, hbanque⟩
  · refine ⟨hr.1.symm ▸ hr.2, ?_⟩
    obtain ⟨t, ht, -, rfl⟩ := by simpa [Requete.effet, RequeteConsent.effet] using heffet
    rcases (Table.mem_of_insert ht).1 hc with hc | hc
    · exact (hs c hc).2
    · exact ⟨banque, by rw [hc]⟩

/-- The seeded database has no consent. -/
theorem Store.Amorcee.consentsLisibles {crypto : CryptoService} (h : s.Amorcee) :
    s.ConsentsLisibles crypto := by
  intro c hc
  simpa [h.consent] using Table.mem_rows.2 hc

/-- The consents of any execution can be read. -/
theorem execution_consentsLisibles (h₀ : s₀.ConsentsLisibles cfg.crypto)
    (h : Execution col cfg s₀ l s) : s.ConsentsLisibles cfg.crypto := by
  refine (h.preserves_events (I := fun s => s.ConsentsLisibles cfg.crypto) h₀ ?_).1
  intro c hc e he hs
  obtain ⟨A, hpour⟩ := execution_pourUn h c hc e he
  have hpour : Op.Pour cfg.crypto Set.univ A e.before e.op := hpour
  rcases after_cases e with hsame | ⟨r, x, v, hop, heffet⟩
  · rwa [hsame]
  · rw [hop] at hpour
    exact hs.effet heffet hpour

end Runs

/-! ## Renewals -/

/-- An instant at which the renewal of the consent shown by `dto` at `m` is accepted. -/
def ConsentDto.Ouvert (dto : ConsentDto) (m m' : DateTime) : Prop :=
  dto.renewable = true ∧ m ≤ m' ∨ ¬ Lointaine dto.expiresAt m'

/-- What an accepted renewal does, the requests it made being `faits`: the bank of the consent
was asked for an authorisation; its answer gives the address to go to, and the row is pending with
the reference and the end that the bank gave.  Nothing else is written. -/
def ConsentDto.Renouvele (dto : ConsentDto) {col : Collation} (cfg : Configuration)
    (A : ProprietaireId) (faits : Evenement col → Prop) (s : Store)
    (reponse : CreateConsentResponse) (s' : Store) : Prop :=
  ∃ c ∈ s.consent, c.id = dto.consentId ∧ c.ownerId = A ∧ ∃ banque initie blob instant,
    c.etablissement = some banque ∧
    (∃ e, faits e ∧ Event.entry e =
      ⟨.banque (.initierConsentement
        { consentId := dto.consentId
          proprietaire := A
          etablissement := banque
          urlRetour := cfg.bankCallbackUrl }), .ok initie⟩) ∧
    reponse = ⟨dto.consentId, initie.urlAutorisation⟩ ∧
    dechiffrerTexte cfg.crypto A "consent" "external_ref" blob = .ok initie.consent.externalRef ∧
    s' = s.majConsent (fun c => c.id = dto.consentId && c.ownerId = A) fun c =>
      { c with
        status := .pending
        externalRef := blob
        expiresAt := initie.consent.expiresAt
        updatedAt := instant }

/-- What the page shown at `m` says of the renewals asked in `s`: when no request fails, they
are done at the instants that it announces, and refused before. -/
def ConsentDto.Promet (dto : ConsentDto) (col : Collation) (cfg : Configuration)
    (A : ProprietaireId) (m : DateTime) (s : Store) : Prop :=
  ∀ t r s', Runs (machine col)
      (Handlers.renewConsent cfg.crypto A cfg.bankCallbackUrl dto.consentId).run s t r s' →
    (∀ e ∈ t, Evenement.Reussi e) →
    ((∀ e ∈ t, ∀ m' ∈ Evenement.heure e, dto.Ouvert m m') →
      ∃ reponse, r = .ok reponse ∧ dto.Renouvele cfg A (· ∈ t) s reponse s') ∧
    ((∀ e ∈ t, ∀ m' ∈ Evenement.heure e, m ≤ m' ∧ ¬ dto.Ouvert m m') →
      r = .error (ApiError.conflict "consentement non éligible au renouvellement") ∧ s' = s)

section Renewals

variable {col : Collation} {cfg : Configuration} {A : ProprietaireId} {s : Store}
  {c : ConsentRow} {ref : String} {m m' : DateTime} {faits : Evenement col → Prop}

/-- A consent can be renewed when its entry announces it. -/
theorem estRenouvelable_of_ouvert (h : (c.dto m).Ouvert m m') :
    (c.vue ref).estRenouvelable m' margeRenouvellementDefaut = true := by
  apply estRenouvelable_iff.2
  rcases h with ⟨hrenewable, hm⟩ | hproche
  · have h : (c.vue "").estRenouvelable m margeRenouvellementDefaut = true := hrenewable
    apply (estRenouvelable_iff.1 h).imp_right
    intro hproche hloin
    apply hproche
    intro fin hfin
    exact (Int.add_le_add_right hm _).trans_lt (hloin fin hfin)
  · exact .inr hproche

/-- The consent can be renewed at the instants that its entry announces, and at no other. -/
theorem estRenouvelable_iff_ouvert (hm : m ≤ m') :
    (c.vue ref).estRenouvelable m' margeRenouvellementDefaut = true ↔
      (c.dto m).Ouvert m m' := by
  constructor
  · intro h
    rcases estRenouvelable_iff.1 h with hfini | hproche
    · exact .inl ⟨estRenouvelable_iff.2 (.inl hfini), hm⟩
    · exact .inr hproche
  · exact estRenouvelable_of_ouvert

/-- The request does not fail, and is one of `faits`. -/
def Sereine (faits : Evenement col → Prop) (e : Evenement col) : Prop :=
  Evenement.Reussi e ∧ faits e

/-- What holds when no request fails holds of the requests that are told. -/
private theorem under_sereine {α : Type} {p : Programme α} {Q : α → Store → Prop}
    (h : Under (machine col) Evenement.Reussi p s Q) :
    Under (machine col) (Sereine faits) p s Q :=
  fun _ _ _ hrun hE => h hrun fun e he => (hE e he).1

/-- The consent of the row is read. -/
private theorem under_fetchConsent (hfiable : cfg.crypto.Fiable) (hs : s.ConsentsLisibles cfg.crypto)
    (hc : c ∈ s.consent) :
    Under (machine col) Evenement.Reussi
      (ConsentsAdapter.fetchPourProprietaire cfg.crypto c.ownerId c.id).run s
      (Returns fun existant s' => s' = s ∧ ∃ ref, existant = some (c.vue ref)) := by
  refine Under.ret_mapError (Under.ret_bind under_statement ?_)
  rintro trouve s' ⟨x, heffet⟩
  obtain ⟨rfl, rfl⟩ := lire_eq_ok.1 heffet
  have htrouve : s'.consent.find? c.id = some c := Table.find?_eq_some.2 ⟨hc, rfl⟩
  rw [htrouve, Option.filter_some, if_pos (by simp)]
  obtain ⟨consent, hconsent⟩ := dechiffrable_intoConsent hfiable (hs c hc).1
  obtain ⟨ref, rfl⟩ := intoConsent_vue hconsent
  simp only [hconsent]
  exact under_pure.2 ⟨rfl, ref, rfl⟩

/-- The consent is read, and refused unless it can be renewed at the instant that is read. -/
private theorem under_consentRenouvelable (hfiable : cfg.crypto.Fiable)
    (hs : s.ConsentsLisibles cfg.crypto) (hc : c ∈ s.consent) :
    Under (machine col) (Sereine faits)
      (Handlers.consentRenouvelable cfg.crypto c.ownerId c.id).run s fun r s' =>
        s' = s ∧ ∃ e m' ref, faits e ∧ Evenement.heure e = some m' ∧
          ((c.vue ref).estRenouvelable m' margeRenouvellementDefaut = true →
            r = .ok (c.vue ref)) ∧
          ((c.vue ref).estRenouvelable m' margeRenouvellementDefaut = false →
            r = .error (ApiError.conflict "consentement non éligible au renouvellement")) := by
  refine Under.ret_bind (under_sereine (Under.ret_mapError (under_fetchConsent hfiable hs hc))) ?_
  rintro _ s' ⟨rfl, ref, rfl⟩
  refine Under.ret_bind (R := fun consent s₁ => consent = c.vue ref ∧ s₁ = s')
    (under_pure.2 ⟨rfl, rfl⟩) ?_
  rintro _ s ⟨rfl, rfl⟩
  refine Under.ret_bind (R := fun m s' => faits ⟨s, .maintenant, m⟩ ∧ s' = s)
    (Under.run_ofProg (under_perform.2 ?_)) ?_
  · intro m hm
    exact ⟨hm.2, rfl⟩
  · rintro m s' ⟨hm, rfl⟩
    by_cases hrenouvelable : (c.vue ref).estRenouvelable m margeRenouvellementDefaut = true
    · rw [hrenouvelable]
      exact under_pure.2 ⟨rfl, _, m, ref, hm, rfl, fun _ => rfl,
        fun h => by simp [hrenouvelable] at h⟩
    · rw [Bool.eq_false_iff.2 hrenouvelable]
      exact under_pure.2 ⟨rfl, _, m, ref, hm, rfl, fun h => absurd h hrenouvelable,
        fun _ => rfl⟩

/-- The update of a consent writes what it is given, its reference encrypted. -/
private theorem under_mettreAJour (hfiable : cfg.crypto.Fiable) {id : ConsentId}
    {maj : MiseAJourConsent} :
    Under (machine col) Evenement.Reussi
      (ecritureApi (ConsentsAdapter.mettreAJour cfg.crypto A id maj)).run s
      (Returns fun _ s' => ∃ blob instant,
        dechiffrerTexte cfg.crypto A "consent" "external_ref" blob = .ok maj.externalRef ∧
        s' = s.majConsent (fun c => c.id = id && c.ownerId = A) fun c =>
          { c with
            status := maj.status
            externalRef := blob
            expiresAt := maj.expiresAt
            updatedAt := instant }) := by
  refine Under.ret_mapError (Under.ret_mapError
    (Under.ret_bind (under_chiffrerTexteFrais hfiable) ?_))
  rintro blob s' ⟨rfl, nonce, hblob⟩
  refine Under.ret_bind under_statement ?_
  rintro lignes s₁ ⟨x, heffet⟩
  obtain ⟨-, rfl⟩ := by simpa [Requete.effet, RequeteConsent.effet] using heffet
  exact under_pure.2 ⟨blob, x.maintenant, dechiffrerTexte_chiffrerTexte hfiable hblob, rfl⟩

/-- Once the consent is accepted, the bank is called and the row is updated. -/
private theorem under_renewConsent (hfiable : cfg.crypto.Fiable)
    (hs : s.ConsentsLisibles cfg.crypto) (hc : c ∈ s.consent) :
    Under (machine col) (Sereine faits)
      (Handlers.renewConsent cfg.crypto c.ownerId cfg.bankCallbackUrl c.id).run s fun r s' =>
        ∃ e m' ref, faits e ∧ Evenement.heure e = some m' ∧
          ((c.vue ref).estRenouvelable m' margeRenouvellementDefaut = true →
            ∃ reponse, r = .ok reponse ∧
              (c.dto m).Renouvele cfg c.ownerId faits s reponse s') ∧
          ((c.vue ref).estRenouvelable m' margeRenouvellementDefaut = false →
            r = .error (ApiError.conflict "consentement non éligible au renouvellement") ∧
              s' = s) := by
  refine Under.run_bind (under_consentRenouvelable hfiable hs hc) ?_ ?_
  · rintro consent s' ⟨rfl, e, m', ref, he, hheure, hok, herror⟩
    have hrenouvelable : (c.vue ref).estRenouvelable m' margeRenouvellementDefaut = true := by
      by_contra h
      cases herror (Bool.eq_false_iff.2 h)
    obtain rfl := Except.ok.inj (hok hrenouvelable)
    obtain ⟨banque, hbanque⟩ := (hs c hc).2
    refine Under.mono (Q := Returns fun reponse s₁ =>
      (c.dto m).Renouvele cfg c.ownerId faits s' reponse s₁) ?_ ?_
    · have hvue : (c.vue ref).etablissement = some banque := hbanque
      rw [hvue]
      refine Under.ret_bind (R := fun etablissement s₁ => etablissement = banque ∧ s₁ = s')
        (under_pure.2 ⟨rfl, rfl⟩) ?_
      rintro _ s ⟨rfl, rfl⟩
      refine Under.ret_bind (R := fun initie s₁ => s₁ = s ∧
        ∃ e, faits e ∧ Event.entry e = ⟨.banque (.initierConsentement _), .ok initie⟩)
        (Under.ret_mapError (under_perform.2 ?_)) ?_
      · rintro (erreur | initie) ⟨hreussi, hfait⟩
        · cases (show false = true from hreussi)
        · exact ⟨rfl, _, hfait, rfl⟩
      rintro initie s' ⟨rfl, hdemande⟩
      refine Under.ret_bind (under_sereine (under_mettreAJour hfiable)) ?_
      rintro _ s₁ ⟨blob, instant, hblob, rfl⟩
      exact under_pure.2 ⟨c, hc, rfl, rfl, _, initie, blob, instant, hbanque, hdemande, rfl,
        hblob, rfl⟩
    · rintro (erreur | reponse) s₁ hreponse
      · exact hreponse.elim
      · exact ⟨e, m', ref, he, hheure, fun _ => ⟨reponse, rfl, hreponse⟩,
          fun h => by simp [hrenouvelable] at h⟩
  · rintro erreur s' ⟨rfl, e, m', ref, he, hheure, hok, herror⟩
    refine ⟨e, m', ref, he, hheure, fun h => ?_, fun h => ⟨?_, rfl⟩⟩
    · cases hok h
    · rw [Except.error.inj (herror h)]

/-- The renewals of the consent follow what its entry announces. -/
theorem promet_of_mem (hfiable : cfg.crypto.Fiable) (hs : s.ConsentsLisibles cfg.crypto)
    (hc : c ∈ s.consent) : (c.dto m).Promet col cfg c.ownerId m s := by
  intro t r s' hrun hreussi
  have hsereine : ∀ e ∈ t, Sereine (· ∈ t) e := fun e he => ⟨hreussi e he, he⟩
  obtain ⟨e, m', ref, he, hheure, hok, hrefus⟩ :=
    under_renewConsent (m := m) hfiable hs hc hrun hsereine
  constructor
  · intro houvert
    exact hok (estRenouvelable_of_ouvert (houvert e he m' hheure))
  · intro hferme
    obtain ⟨hm', hferme⟩ := hferme e he m' hheure
    apply hrefus
    rw [← Bool.not_eq_true, estRenouvelable_iff_ouvert hm']
    exact hferme

end Renewals

/-! ## The page -/

section Listing

variable {col : Collation} {cfg : Configuration} {A : ProprietaireId} {s₀ s s' : Store}
  {l : List (Etape col cfg)}

/-- The page is the merge of the consents, at the instant that it reads. -/
private theorem spec_listConsents :
    Spec (machine col) (Handlers.listConsents cfg.crypto A).run s fun t r s' =>
      ∀ page, r = .ok page → s' = s ∧ ∃ m, (∃ e ∈ t, Evenement.heure e = some m) ∧
        ∃ lignes, Fusion s A lignes ∧ page = .nouveau (lignes.map fun c => c.dto m) := by
  have hlus : Guarded (machine col) (fun _ => True)
      (lectureApi (ConsentsAdapter.listerParProprietaire cfg.crypto A)).run s (Trouve s _) :=
    Trouve.run_mapError guarded_listerConsents
  refine spec_run_bind.2 (Spec.mono hlus ?_)
  rintro t₁ (e | consents) s₁ ⟨-, rfl, hlus⟩
  · intro page hpage
    cases hpage
  obtain ⟨hsiennes, htoutes⟩ := hlus consents rfl
  refine spec_run_bind.2 (spec_run_ofProg.2 (spec_perform.2 ?_))
  intro m
  refine spec_run_pure.2 ?_
  intro page hpage
  obtain ⟨lignes, hfusion, hlignes⟩ := fusion_parEtablissement m hsiennes htoutes
  refine ⟨rfl, m, ⟨⟨s₁, .maintenant, m⟩, by simp, rfl⟩, lignes, hfusion, ?_⟩
  rw [← hlignes]
  exact (Except.ok.inj hpage).symm

/-- The page of the consents of `A`, in a database of a run, keeps the latest consent of each
bank.  What it says of their renewals is what the renewals do, now or later in the run, for as
long as nobody touches the row. -/
theorem offres_tenues (h₀ : s₀.Amorcee) (h : Execution col cfg s₀ l s)
    (hfiable : cfg.crypto.Fiable) {t : List (Evenement col)} {page : ListResponse ConsentDto}
    (hrun : Runs (machine col) (Handlers.listConsents cfg.crypto A).run s t (.ok page) s') :
    s' = s ∧ ∃ m, (∃ e ∈ t, Evenement.heure e = some m) ∧ ∃ lignes, Fusion s A lignes ∧
      page = .nouveau (lignes.map fun c => c.dto m) ∧
      ∀ c ∈ lignes, ∀ l₁ s₁, Execution col cfg s l₁ s₁ → c ∈ s₁.consent →
        (c.dto m).Promet col cfg A m s₁ := by
  obtain ⟨hsame, m, hheure, lignes, hfusion, hpage⟩ := spec_listConsents hrun page rfl
  refine ⟨hsame, m, hheure, lignes, hfusion, hpage, ?_⟩
  intro c hc l₁ s₁ h₁ hreste
  obtain ⟨-, rfl⟩ := hfusion.siennes c hc
  exact promet_of_mem hfiable
    (execution_consentsLisibles (execution_consentsLisibles h₀.consentsLisibles h) h₁) hreste

end Listing

/-! ## A consent that the bank refused -/

/-- The account FR1 is bob's, so that the consent of alice fails when she comes back. -/
def rappelRefuse : List Operation :=
  [.createConsent "bob" "banque", .completeConsent "bob" reponseBanque,
    .createConsent "alice" "banque",
    .completeConsent "alice" ⟨"code", (Uuid.fromU128 1014).toText⟩]

/-- The page that alice then asks for. -/
def pageAlice :
    Outcome (machine Scenario.collation) (Except ApiError (ListResponse ConsentDto)) :=
  run _ Scenario.unCompte.choix (Handlers.listConsents enClair "alice").run 900
    (Scenario.unCompte.fin rappelRefuse)

/-- The page offers the failed consent for renewal, and keeps its word. -/
theorem offres_tenues_refus :
    ∃ page, pageAlice.value = .ok page ∧
      page.data.map (fun dto => (dto.consentId, dto.renewable)) = [(Uuid.fromU128 1014, true)] ∧
      ∃ m lignes, Fusion (Scenario.unCompte.fin rappelRefuse) "alice" lignes ∧
        page = .nouveau (lignes.map fun c => c.dto m) ∧
        ∀ c ∈ lignes, (c.dto m).Promet Scenario.collation Scenario.configuration "alice" m
          (Scenario.unCompte.fin rappelRefuse) := by
  have hoffre : pageAlice.value.toOption.map (fun page =>
      page.data.map fun dto => (dto.consentId, dto.renewable)) =
        some [(Uuid.fromU128 1014, true)] := by
    decide +kernel
  cases hpage : pageAlice.value with
  | error e => simp [hpage, Except.toOption] at hoffre
  | ok page =>
      rw [hpage] at hoffre
      have hrun : Runs (machine Scenario.collation) (Handlers.listConsents enClair "alice").run
          (Scenario.unCompte.fin rappelRefuse) pageAlice.trace pageAlice.value pageAlice.state :=
        runs_run _ _ _ _
      rw [hpage] at hrun
      obtain ⟨-, m, -, lignes, hfusion, hpage, hpromet⟩ := offres_tenues amorcee_amorcee
        (Scenario.unCompte.execution rappelRefuse) fiable_enClair hrun
      exact ⟨page, rfl, Option.some.inj hoffre, m, lignes, hfusion, hpage, fun c hc =>
        hpromet c hc [] _ (.nil _) (hfusion.siennes c hc).1⟩

end Budgy
