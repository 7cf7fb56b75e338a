import Budgy.Analysis.Callbacks
import Budgy.Analysis.Integrity
import Budgy.Analysis.Erasure

/-!
# An erasure with work in flight

An erasure deletes the accounts of an owner, then the consents, in two statements; between
and after them the callbacks and the cycles that were under way still insert.  A callback
inserts under a consent that its owner had, so the second deletion takes what it inserted
after the first one, and the foreign key refuses what it inserts later
(`effacement_definitif`).
-/

set_option autoImplicit false

namespace Budgy

open Effects Relational

/-- Nothing of the owner is left in the tables of the bank. -/
structure Store.SansBanque (s : Store) (A : ProprietaireId) : Prop where
  consents : ∀ c ∈ s.consent, c.ownerId ≠ A
  comptes : ∀ a ∈ s.bankAccount, a.ownerId ≠ A
  soldes : ∀ b ∈ s.balance, ∃ a ∈ s.bankAccount, a.id = b.bankAccountId ∧ a.ownerId ≠ A
  transactions : ∀ t ∈ s.bankTransaction,
    ∃ a ∈ s.bankAccount, a.id = t.bankAccountId ∧ a.ownerId ≠ A

/-- The erasure has answered without error. -/
def effacementRepondu : Programme Issue → Bool
  | .pure ⟨.effacerDonneesProprietaire _, .ok _⟩ => true
  | _ => false

/-- The deletion of the accounts of `A`, which took effect. -/
abbrev comptesSupprimes (A : ProprietaireId) (n : ℕ) : Entry signature :=
  ⟨.sql (.compte (.supprimerParProprietaire A)), .ok n⟩

/-- The deletion of the consents of `A`, which took effect. -/
abbrev consentsSupprimes (A : ProprietaireId) (n : ℕ) : Entry signature :=
  ⟨.sql (.consent (.supprimerParProprietaire A)), .ok n⟩

/-! ## The order of the two deletions -/

section Journal

variable {crypto : CryptoService} {A : ProprietaireId} {h : List (Entry signature)}

/-- The consents are deleted after the accounts. -/
def ComptesDabord (A : ProprietaireId) (e : Event (journal signature)) : Prop :=
  e.op = .sql (.consent (.supprimerParProprietaire A)) → ∃ n, comptesSupprimes A n ∈ e.before

/-- A program that only reads. -/
private theorem guarded_autres {α : Type} {p : Programme α} (hp : p.Uses fun o : Op => o.ecrit = []) :
    Guarded (journal signature) (ComptesDabord A) p h fun _ _ => True := by
  refine Guarded.of_uses hp trivial fun e ho _ => ⟨fun hop => ?_, trivial⟩
  rw [hop] at ho
  cases ho

/-- An erasure that answers has deleted the accounts, then the consents. -/
theorem guarded_effacer :
    Guarded (journal signature) (ComptesDabord A)
      (Effacement.effacerDonneesProprietaire crypto A).run h
      (OnOk fun _ h' => ∃ n, consentsSupprimes A n ∈ h') := by
  have hinterne : ∀ o : Op, o.Interne → o.ecrit = [] := fun _ ho => ho.lecture
  refine Guarded.run_bind (guarded_autres (Prog.Uses.run_mapError (uses_listerActifs hinterne)))
    (fun actifs h₁ _ => ?_) fun _ _ _ => trivial
  refine Guarded.run_bind (guarded_autres (Prog.Uses.run_foldlM (fun rapport consent _ => ?_) _))
    (fun rapport h₂ _ => ?_) fun _ _ _ => trivial
  · refine Prog.Uses.run_bind (Prog.Uses.run_attempt (uses_appelerBanque rfl)) ?_
    rintro (_ | _) <;> exact Prog.uses_pure _
  refine Guarded.ok_bind (R := fun n h' => comptesSupprimes A n ∈ h')
    (Guarded.ok_mapError (Guarded.ok_mapError (Guarded.ok_mapError (guarded_perform.2 ?_)))) ?_
  · rintro (e | n)
    · exact ⟨fun hop => (nomatch hop), trivial⟩
    · exact ⟨fun hop => (nomatch hop), List.mem_append_right _ (List.mem_singleton.2 rfl)⟩
  rintro n h₃ hcomptes
  refine Guarded.ok_bind (R := fun n h' => consentsSupprimes A n ∈ h')
    (Guarded.ok_mapError (Guarded.ok_mapError (Guarded.ok_mapError (guarded_perform.2 ?_))))
    fun n h' hn => guarded_run_pure.2 ⟨n, hn⟩
  rintro (e | n')
  · exact ⟨fun _ => ⟨n, hcomptes⟩, trivial⟩
  · exact ⟨fun _ => ⟨n, hcomptes⟩, List.mem_append_right _ (List.mem_singleton.2 rfl)⟩

end Journal

/-! ## What the deletions leave -/

section Events

variable {col : Collation} {e : Evenement col} {A : ProprietaireId} {n : ℕ}

/-- Once the accounts are deleted, the owner has none. -/
private theorem comptes_of_supprimes (h : Event.entry e = comptesSupprimes A n) :
    ∀ a ∈ e.after.bankAccount, a.ownerId ≠ A := by
  obtain ⟨-, x, heffet⟩ := effet_of_entry h
  obtain ⟨-, hafter⟩ := Prod.mk.inj (Except.ok.inj heffet)
  intro a ha
  rw [← hafter] at ha
  simpa using (Table.mem_delete.1 ha).2

/-- The deletion of the consents takes the accounts that hang from them. -/
private theorem consents_of_supprimes (h : Event.entry e = consentsSupprimes A n) :
    (∀ c ∈ e.after.consent, c.ownerId ≠ A) ∧
      ∀ a ∈ e.after.bankAccount, a ∈ e.before.bankAccount ∧
        ∀ c ∈ e.before.consent, c.id = a.consentId → c.ownerId ≠ A := by
  obtain ⟨-, x, heffet⟩ := effet_of_entry h
  obtain ⟨-, hafter⟩ := Prod.mk.inj (Except.ok.inj heffet)
  rw [← hafter]
  refine ⟨fun c hc => by simpa using (Table.mem_delete.1 hc).2, fun a ha => ?_⟩
  obtain ⟨hmem, hfree⟩ := Table.mem_delete.1 ha
  refine ⟨hmem, fun c hc hid howner => ?_⟩
  have hnot := Table.any_eq_false.1 hfree c hc
  simp [hid, howner] at hnot

end Events

/-! ## Side by side -/

/-- The consents of a store were there in `s₀`. -/
def Store.Anciens (s₀ s : Store) : Prop := ∀ c ∈ s.consent, ∃ c₀ ∈ s₀.consent, c.Meme c₀

/-- The accounts of `A` hang from consents that `A` had in `s₀`. -/
def Store.Rattaches (s₀ : Store) (A : ProprietaireId) (s : Store) : Prop :=
  ∀ a ∈ s.bankAccount, a.ownerId = A → ∃ c₀ ∈ s₀.consent, c₀.id = a.consentId ∧ c₀.ownerId = A

/-- `A` has no consent and no account. -/
def Store.SansCompte (A : ProprietaireId) (s : Store) : Prop :=
  (∀ c ∈ s.consent, c.ownerId ≠ A) ∧ ∀ a ∈ s.bankAccount, a.ownerId ≠ A

section Pool

variable {ι : Type} [DecidableEq ι] {col : Collation} {cfg : Configuration}
  {demandes : ι → Operation} {s s' : Store} {l : List (ι × Evenement col)}
  {pool' : ι → Programme Issue} {A : ProprietaireId} {x : ι × Evenement col}

section Conservation

variable (h : Entrelacement col cfg demandes s l pool' s')
  (hdemandes : ∀ i owner bankId, demandes i ≠ .createConsent owner bankId)
include h hdemandes

/-- Without a new consent, a consent keeps its identifier and its owner. -/
private theorem consent_ancien (hx : x ∈ l) {c : ConsentRow} (hc : c ∈ (Event.after x.2).consent) :
    ∃ c₀ ∈ x.2.before.consent, c.Meme c₀ := by
  rcases consent_after hc with hold | ⟨r, hop, ⟨c₀, hc₀, hdevient⟩ | ⟨_, _, rfl⟩⟩
  · exact ⟨c, hold, .rfl⟩
  · exact ⟨c₀, hc₀, hdevient.meme⟩
  · obtain ⟨⟨bankId, ho⟩, -⟩ := (h.emet hx hop (by simp)).createConsent
    exact absurd ho (hdemandes _ _ _)

/-- Every event keeps the consents that were there. -/
private theorem anciens_events : ∀ x ∈ l, s.Anciens x.2.before := by
  have hstep : ∀ x ∈ l, s.Anciens x.2.before → s.Anciens (Event.after x.2) := by
    intro x hx hbefore c hc
    obtain ⟨c₁, hc₁, hmeme⟩ := consent_ancien h hdemandes hx hc
    obtain ⟨c₀, hc₀, hmeme₀⟩ := hbefore c₁ hc₁
    exact ⟨c₀, hc₀, hmeme.trans hmeme₀⟩
  exact fun x hx => (h.preserves_events (I := s.Anciens) (fun c hc => ⟨c, hc, .rfl⟩) hstep x hx).1

/-- A callback inserts under a consent that its owner had. -/
private theorem consent_insere (hx : x ∈ l) {ligne : InsertionCompte}
    (hop : x.2.op = .sql (.compte (.insert ligne))) :
    ∃ c₀ ∈ s.consent, c₀.id = ligne.consentId ∧ c₀.ownerId = ligne.owner := by
  have hemet := h.emet hx hop (by simp)
  generalize ho : demandes x.1 = demande at hemet
  cases hemet with
  | cycle r hr => cases hr
  | attacher owner payload _ hid howner =>
      obtain ⟨l₁, l₂, hl⟩ := List.append_of_mem hx
      obtain ⟨v, hv, row, -, hentry⟩ := h.lu ho hid hl (by rw [hop]; simp [Op.ecrit])
      obtain ⟨-, y, heffet⟩ := effet_of_entry hentry
      obtain ⟨hfind, -⟩ := lire_eq_ok.1 heffet
      obtain ⟨hfind, hrow⟩ := Option.filter_eq_some_iff.1 hfind.symm
      obtain ⟨hmem, hid⟩ := Table.find?_eq_some.1 hfind
      have hvl : (x.1, v) ∈ l := hl ▸ List.mem_append_left _ hv
      obtain ⟨c₀, hc₀, hmeme⟩ := anciens_events h hdemandes _ hvl row hmem
      refine ⟨c₀, hc₀, hmeme.id.symm.trans hid, hmeme.ownerId.symm.trans ?_⟩
      rw [howner]
      simpa using hrow

/-- Every event keeps the accounts under the consents that were there. -/
private theorem rattaches_after (hx : x ∈ l) (hbefore : s.Rattaches A x.2.before) :
    s.Rattaches A (Event.after x.2) := by
  intro a ha howner
  rcases compte_after (h.sans_poser hx) ha with ⟨a₀, ha₀, hmeme⟩ | ⟨ligne, y, hop, rfl, -⟩
  · obtain ⟨c₀, hc₀, hid, hA⟩ := hbefore a₀ ha₀ (hmeme.ownerId.symm.trans howner)
    exact ⟨c₀, hc₀, hid.trans hmeme.consentId.symm, hA⟩
  · obtain ⟨c₀, hc₀, hid, hA⟩ := consent_insere h hdemandes hx hop
    exact ⟨c₀, hc₀, hid, hA.trans howner⟩

/-- Every event keeps the owner without an account. -/
private theorem sansCompte_after (hx : x ∈ l) (hbefore : Store.SansCompte A x.2.before) :
    Store.SansCompte A (Event.after x.2) := by
  refine ⟨fun c hc howner => ?_, fun a ha howner => ?_⟩
  · obtain ⟨c₀, hc₀, hmeme⟩ := consent_ancien h hdemandes hx hc
    exact hbefore.1 c₀ hc₀ (hmeme.ownerId.symm.trans howner)
  · rcases compte_after (h.sans_poser hx) ha with ⟨a₀, ha₀, hmeme⟩ | ⟨ligne, y, hop, rfl, hl⟩
    · exact hbefore.2 a₀ ha₀ (hmeme.ownerId.symm.trans howner)
    · -- the foreign key asks for a consent, which would be the one that `A` had
      obtain ⟨c, hc, hid⟩ := hl.consent
      obtain ⟨c₀, hc₀, hmeme⟩ := anciens_events h hdemandes x hx c hc
      obtain ⟨c₁, hc₁, hid₁, hA⟩ := consent_insere h hdemandes hx hop
      obtain rfl := Table.eq_of_key_eq hc₀ hc₁
        (hmeme.id.symm.trans (hid.trans hid₁.symm))
      exact hbefore.1 c hc (hmeme.ownerId.trans (hA.trans howner))

end Conservation

/-- An erasure that has answered has deleted the accounts, then the consents. -/
private theorem exists_suppressions (h : Entrelacement col cfg demandes s l pool' s') {i : ι}
    (hi : demandes i = .effacerDonneesProprietaire A)
    (hreponse : effacementRepondu (pool' i) = true) :
    ∃ a₁ e₁ a₂ e₂ b n₁ n₂, l = a₁ ++ (i, e₁) :: (a₂ ++ (i, e₂) :: b) ∧
      Event.entry e₁ = comptesSupprimes A n₁ ∧ Event.entry e₂ = consentsSupprimes A n₂ := by
  have hguard : Guarded (journal signature) (ComptesDabord A) ((demandes i).tache cfg) []
      fun issue h => ∀ A' rapport, issue = ⟨.effacerDonneesProprietaire A', .ok rapport⟩ →
        ∃ n, consentsSupprimes A n ∈ h := by
    rw [hi]
    refine guarded_tache (guarded_effacer.mono ?_)
    rintro r h' hend A' rapport heq
    cases heq
    exact hend
  obtain ⟨A', rapport, ha⟩ : ∃ A' rapport,
      pool' i = .pure ⟨.effacerDonneesProprietaire A', .ok rapport⟩ := by
    unfold effacementRepondu at hreponse
    split at hreponse
    · exact ⟨_, _, by assumption⟩
    · cases hreponse
  obtain ⟨n₂, hn₂⟩ := h.answer_at hguard ha A' rapport rfl
  obtain ⟨e₂, he₂, hentry₂⟩ := mem_history.1 hn₂
  obtain ⟨a, b, rfl⟩ := List.append_of_mem he₂
  obtain ⟨n₁, hn₁⟩ := h.guarded_at hguard rfl (effet_of_entry hentry₂).1
  obtain ⟨e₁, he₁, hentry₁⟩ := mem_history.1 hn₁
  obtain ⟨a₁, a₂, rfl⟩ := List.append_of_mem he₁
  exact ⟨a₁, e₁, a₂, e₂, b, n₁, n₂, by simp, hentry₁, hentry₂⟩

/-- Once the erasure of an owner has answered, and whatever callbacks, renewals and cycles
were under way, nothing of the owner is left in the tables of the bank. -/
theorem effacement_definitif (hs : s.Integre)
    (h : Entrelacement col cfg demandes s l pool' s')
    (hdemandes : ∀ i owner bankId, demandes i ≠ .createConsent owner bankId) {i : ι}
    (hi : demandes i = .effacerDonneesProprietaire A)
    (hreponse : effacementRepondu (pool' i) = true) : s'.SansBanque A := by
  obtain ⟨a₁, e₁, a₂, e₂, b, n₁, n₂, rfl, hcomptes, hconsents⟩ :=
    exists_suppressions h hi hreponse
  obtain ⟨hfinal, hintegre⟩ := h.integre hs
  -- what was inserted between the two deletions hangs from a consent of the owner
  have hrattaches : s.Rattaches A e₂.before :=
    h.preserves_between (I := s.Rattaches A)
      (fun a ha howner => absurd howner (comptes_of_supprimes hcomptes a ha))
      fun x hx => rattaches_after h hdemandes (by simp [hx])
  have hsans : Store.SansCompte A e₂.after := by
    obtain ⟨hfree, hreste⟩ := consents_of_supprimes hconsents
    refine ⟨hfree, fun a ha howner => ?_⟩
    obtain ⟨ha, hnone⟩ := hreste a ha
    obtain ⟨c₁, hc₁, hid₁, hA⟩ := hrattaches a ha howner
    have he₂ : (i, e₂) ∈ a₁ ++ (i, e₁) :: (a₂ ++ (i, e₂) :: b) := by simp
    obtain ⟨c, hc, hid⟩ := (hintegre _ he₂).1.compteConsent a ha
    obtain ⟨c₀, hc₀, hmeme⟩ := anciens_events h hdemandes _ he₂ c hc
    obtain rfl := Table.eq_of_key_eq hc₀ hc₁ (hmeme.id.symm.trans (hid.trans hid₁.symm))
    exact hnone c hc hid (hmeme.ownerId.trans hA)
  -- then nothing is inserted under a consent that is gone
  have hend : Store.SansCompte A s' := by
    have hl : a₁ ++ (i, e₁) :: (a₂ ++ (i, e₂) :: b) = (a₁ ++ (i, e₁) :: a₂) ++ (i, e₂) :: b := by
      simp
    have hstep : ∀ z ∈ b, Store.SansCompte A z.2.before → Store.SansCompte A (Event.after z.2) :=
      fun z hz => sansCompte_after h hdemandes (by simp [hz])
    rw [hl] at h
    exact h.preserves_from (I := Store.SansCompte A) hsans hstep
  refine ⟨hend.1, hend.2, fun b hb => ?_, fun t ht => ?_⟩
  · obtain ⟨a, ha, hid⟩ := hfinal.balanceCompte b hb
    exact ⟨a, ha, hid, hend.2 a ha⟩
  · obtain ⟨a, ha, hid⟩ := hfinal.transactionCompte t ht
    exact ⟨a, ha, hid, hend.2 a ha⟩

end Pool

/-! ## A callback while its user is erased -/

/-- A user whose consent is pending. -/
def consentOuvert : Store := Scenario.calme.fin [.createConsent "alice" "banque"]

/-- The callback of the bank for this consent, and the erasure of the user. -/
def rappelEtEffacement : Bool → Operation
  | false => .completeConsent "alice" reponseBanque
  | true => .effacerDonneesProprietaire "alice"

/-- The callback is about to insert its account when the user is erased. -/
def effacePendantRappel :
    List (Bool × Evenement Scenario.collation) × (Bool → Programme Issue) × Store :=
  Scenario.unCompte.cote rappelEtEffacement
    (List.replicate 8 false ++ List.replicate 4 true ++ [false]) consentOuvert

/-- The insertion is the last request, and the foreign key refuses it. -/
example : effacePendantRappel.1.length = 13 := by decide +kernel

/-- The erasure during the callback leaves no account and no consent. -/
theorem effacement_definitif_effacePendantRappel :
    Store.SansBanque effacePendantRappel.2.2 "alice" := by
  have h := Scenario.unCompte.entrelacement rappelEtEffacement
    (List.replicate 8 false ++ List.replicate 4 true ++ [false]) consentOuvert
  rw [← effacePendantRappel] at h
  have hreponse : effacementRepondu (effacePendantRappel.2.1 true) = true := by decide +kernel
  refine effacement_definitif (Scenario.integre_fin _ _) h (fun i owner bankId => ?_) rfl hreponse
  cases i <;> exact Operation.noConfusion

end Budgy
