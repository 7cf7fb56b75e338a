import Budgy.Analysis.Concurrency
import Budgy.Analysis.Evolution
import Budgy.Analysis.Scenarios

/-!
# A category chosen by hand stays

Every automatic path lists the transactions it will classify before it updates them, so
its update may find a row that was classified by hand in between.  The four updates
guard against it in their own `WHERE` or `CASE`, and `Store.Choisie.after` goes through
them on the row they find, whatever was listed before.
-/

set_option autoImplicit false

namespace Budgy

open Effects

/-- The transaction is in the category by the choice of its owner. -/
def Store.Choisie (s : Store) (transaction category : Uuid) : Prop :=
  ∃ t ∈ s.bankTransaction, t.id = transaction ∧ t.categoryId = some category ∧
    t.categorizationSource = .manual

/-- The request is another choice of a category for the transaction, which took effect. -/
def Evenement.Choisit {col : Collation} (transaction : Uuid) (e : Evenement col) : Prop :=
  Evenement.Reussi e ∧ ∃ category compte owner,
    e.op = .sql (.transaction (.categoriser category transaction compte owner))

/-- The request deletes the category, and took effect. -/
def Evenement.Supprime {col : Collation} (category : Uuid) (e : Evenement col) : Prop :=
  Evenement.Reussi e ∧ ∃ owner, e.op = .sql (.classement (.supprimerCategorie category owner))

section Step

variable {col : Collation} {e : Evenement col} {transaction category : Uuid}

/-- No other statement undoes the choice. -/
theorem Store.Choisie.after (h : e.before.Choisie transaction category)
    (hcompte : ∀ owner, e.op ≠ .sql (.compte (.supprimerParProprietaire owner)))
    (hconsent : ∀ owner, e.op ≠ .sql (.consent (.supprimerParProprietaire owner)))
    (hchoix : ¬ Evenement.Choisit transaction e) (hsupprime : ¬ Evenement.Supprime category e) :
    e.after.Choisie transaction category := by
  by_cases hsame : e.after = e.before
  · rwa [hsame]
  have hreussi := reussi_of_after_ne hsame
  obtain ⟨t₀, ht₀, hid, hcategory, hsource⟩ := h
  rcases transaction_reste ht₀ hcompte hconsent with hstays | ⟨r, hop, t, ht, hdevient⟩
  · exact ⟨t₀, hstays, hid, hcategory, hsource⟩
  refine ⟨t, ht, hdevient.meme.id.trans hid, ?_⟩
  cases hdevient
  -- the two statements that may change the row are excluded
  case categorisee given transaction' compte owner _ hid' _ =>
    obtain rfl := hid.symm.trans hid'
    exact absurd ⟨hreussi, given, compte, owner, hop⟩ hchoix
  case sansCategorie id owner _ hcategory' =>
    obtain rfl : category = id := Option.some.inj (hcategory.symm.trans hcategory')
    exact absurd ⟨hreussi, owner, hop⟩ hsupprime
  -- the automatic ones do not reach a row whose source is manual
  case regle _ _ _ hautre _ => exact absurd hsource hautre
  case regleParLot _ _ _ _ _ hautre _ => exact nomatch hsource.symm.trans hautre
  case defaut _ _ _ hautre _ => exact nomatch hsource.symm.trans hautre
  case marquee _ _ _ _ hautre => exact absurd hsource hautre
  all_goals exact ⟨hcategory, hsource⟩

end Step

section Runs

variable {ι : Type} [DecidableEq ι] {col : Collation} {cfg : Configuration}
  {demandes : ι → Operation} {s m s' : Store} {l₁ l₂ : List (ι × Evenement col)}
  {pool pool' : ι → Programme Issue}

/-- Once a transaction is in a category by the choice of its owner, it stays there in
every interleaving of operations that erase nobody, until another choice for it or the
deletion of the category. -/
theorem choix_conserve (h₁ : Entrelacement col cfg demandes s l₁ pool m)
    (h₂ : Interleaving (machine col) pool m l₂ pool' s')
    (hdemandes : ∀ i owner, demandes i ≠ .effacerDonneesProprietaire owner)
    {transaction category : Uuid} (hm : m.Choisie transaction category)
    (hchoix : ∀ x ∈ l₂, ¬ Evenement.Choisit transaction x.2)
    (hsupprime : ∀ x ∈ l₂, ¬ Evenement.Supprime category x.2) :
    s'.Choisie transaction category ∧ ∀ x ∈ l₂, (Event.after x.2).Choisie transaction category := by
  have h : Entrelacement col cfg demandes s (l₁ ++ l₂) pool' s' :=
    Interleaving.append_iff.2 ⟨pool, m, h₁, h₂⟩
  have hstep : ∀ x ∈ l₂, x.2.before.Choisie transaction category →
      (Event.after x.2).Choisie transaction category := by
    rintro ⟨i, e⟩ hx hbefore
    have hmem : (i, e) ∈ l₁ ++ l₂ := List.mem_append_right _ hx
    exact hbefore.after (fun owner => (h.garde hdemandes hmem owner).1)
      (fun owner => (h.garde hdemandes hmem owner).2) (hchoix _ hx) (hsupprime _ hx)
  refine ⟨h₂.preserves (I := fun s => s.Choisie transaction category) hm hstep, fun x hx => ?_⟩
  exact (h₂.preserves_events (I := fun s => s.Choisie transaction category) hm hstep x hx).2

end Runs

/-! ## A choice made while a rule is applied -/

/-- The rent is stored, not classified yet. -/
def loyerSeul : Store :=
  Scenario.unCompte.fin
    [.createConsent "alice" "banque", .completeConsent "alice" reponseBanque,
      .createCategory "alice" ⟨"Sport", "depense", none, none⟩,
      mouvementDe "T1" "Loyer" (-70000) 20000]

/-- A rule for the rent, and a choice by hand. -/
def regleOuChoix : Bool → Operation
  | false => .createRule "alice" ⟨"loyer", Uuid.fromU128 1, none⟩
  | true =>
      .categorizeTransaction "alice" (Uuid.fromU128 1012) (Uuid.fromU128 1019) (Uuid.fromU128 1014)

/-- The rule has listed the rent when the choice is made. -/
def apresChoix : List (Bool × Evenement Scenario.collation) × (Bool → Programme Issue) × Store :=
  Scenario.unCompte.cote regleOuChoix [false, false, true, true, true] loyerSeul

/-- Then the rule is applied to what it listed. -/
def regleAppliquee :
    List (Bool × Evenement Scenario.collation) × (Bool → Programme Issue) × Store :=
  Scenario.unCompte.suite [false] apresChoix.2.1 apresChoix.2.2

/-- The category chosen by hand is still there once the rule has been applied. -/
theorem choix_conserve_regleOuChoix :
    regleAppliquee.2.2.Choisie (Uuid.fromU128 1019) (Uuid.fromU128 1014) := by
  have h₁ : Entrelacement Scenario.collation Scenario.configuration regleOuChoix loyerSeul
      apresChoix.1 apresChoix.2.1 apresChoix.2.2 := Scenario.unCompte.entrelacement _ _ _
  have h₂ := Scenario.unCompte.interleaving_suite [false] apresChoix.2.1 apresChoix.2.2
  rw [← regleAppliquee] at h₂
  have h : Entrelacement Scenario.collation Scenario.configuration regleOuChoix loyerSeul
      (apresChoix.1 ++ regleAppliquee.1) regleAppliquee.2.1 regleAppliquee.2.2 :=
    Interleaving.append_iff.2 ⟨apresChoix.2.1, apresChoix.2.2, h₁, h₂⟩
  have hchoisie : ∃ t ∈ apresChoix.2.2.bankTransaction.rows, t.id = Uuid.fromU128 1019 ∧
      t.categoryId = some (Uuid.fromU128 1014) ∧ t.categorizationSource = .manual := by
    decide +kernel
  -- what is left to do is the rule's
  have hregle : ∀ x ∈ regleAppliquee.1, x.1 = false := by decide +kernel
  have hemet : ∀ x ∈ regleAppliquee.1, ∀ r, Event.op x.2 = .sql r → r.ecrit ≠ [] →
      (regleOuChoix false).Emet enClair r := by
    intro x hx r hop hr
    have hemet := h.emet (List.mem_append_right _ hx) hop hr
    rwa [hregle x hx] at hemet
  refine (choix_conserve h₁ h₂ (fun i owner => ?_) hchoisie ?_ ?_).1
  · cases i <;> exact Operation.noConfusion
  · rintro x hx ⟨-, category, compte, owner, hop⟩
    cases hemet x hx _ hop (by simp)
  · rintro x hx ⟨-, owner, hop⟩
    cases hemet x hx _ hop (by simp)

end Budgy
