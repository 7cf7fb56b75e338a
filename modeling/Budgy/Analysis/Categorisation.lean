import Budgy.Analysis.Integrity
import Budgy.Analysis.Provenance
import Budgy.Analysis.Scenarios

/-!
# The columns of a classification agree

The category of a transaction, its source and its rule are three columns that no
constraint of the database ties together: the rule is not even a foreign key.
`Store.Coherent` ties them, and every statement of the service keeps it
(`Store.Coherent.effet`).  The deletion of a category needs the invariant itself: the
rules of the category go with it, and a transaction that names one of them is in that
category, so the trigger reaches it.
-/

set_option autoImplicit false

namespace Budgy

open Effects Relational

/-- The three columns of a classification, once the row of the rule is known. -/
structure BankTransactionRow.Coherente (s : Store) (t : BankTransactionRow) : Prop where
  source : t.categoryId = none ↔ t.categorizationSource = .none
  regle : ∀ regle, t.ruleId = some regle → t.categorizationSource = .rule ∧
    ∃ r ∈ s.reglesCategorisation, r.id = regle ∧
      s.proprietaireDuCompte t.bankAccountId = some r.ownerId ∧ t.categoryId = some r.categoryId
  manuelle : t.categorizationSource = .manual → t.ruleId = none

/-- The columns agree on every transaction. -/
def Store.Coherent (s : Store) : Prop := ∀ t ∈ s.bankTransaction, t.Coherente s

namespace BankTransactionRow.Coherente

variable {s s' : Store} {t t₀ : BankTransactionRow}

/-- A transaction without a category. -/
theorem vide (hcategory : t.categoryId = none) (hsource : t.categorizationSource = .none)
    (hregle : t.ruleId = none) : t.Coherente s where
  source := by simp [hcategory, hsource]
  regle regle h := nomatch hregle.symm.trans h
  manuelle _ := hregle

/-- A transaction whose category is given by hand, or by default. -/
theorem sansRegle {category : CategoryId} (hcategory : t.categoryId = some category)
    (hsource : t.categorizationSource ≠ .none) (hregle : t.ruleId = none) : t.Coherente s where
  source := by simp [hcategory, hsource]
  regle regle h := nomatch hregle.symm.trans h
  manuelle _ := hregle

/-- The columns are kept. -/
theorem garde (h : t₀.Coherente s) (hcategory : t.categoryId = t₀.categoryId)
    (hsource : t.categorizationSource = t₀.categorizationSource) (hregle : t.ruleId = t₀.ruleId)
    (hcompte : t.bankAccountId = t₀.bankAccountId) : t.Coherente s where
  source := by rw [hcategory, hsource]; exact h.source
  regle := by rw [hcategory, hsource, hregle, hcompte]; exact h.regle
  manuelle := by rw [hsource, hregle]; exact h.manuelle

end BankTransactionRow.Coherente

section Effects

variable {col : Collation} {crypto : CryptoService} {U : Set (List UInt8)} {A : ProprietaireId}
  {x : ChoixSql} {s s' : Store} {r : Requete} {v : r.Reponse}

/-- A rule that `A` has classifies a transaction of `A`. -/
private theorem coherente_of_regle {t t₀ : BankTransactionRow} {category : CategoryId}
    {regle : RegleCategorisationId} (hregle : s.RegleDe A regle category)
    (howner : s.txDe A t₀ = true) (hcompte : t.bankAccountId = t₀.bankAccountId)
    (hcategory : t.categoryId = some category) (hsource : t.categorizationSource = .rule)
    (hrule : t.ruleId = some regle) : t.Coherente s where
  source := by simp [hcategory, hsource]
  regle id hid := by
    obtain ⟨row, hrow, hrowId, rfl, rfl⟩ := hregle
    have hB : s.proprietaireDuCompte t₀.bankAccountId = some row.ownerId := by
      simpa [Store.txDe] using howner
    exact ⟨hsource, row, hrow, hrowId.trans (Option.some.inj (hrule.symm.trans hid)),
      hcompte ▸ hB, hcategory⟩
  manuelle hmanual := nomatch hsource.symm.trans hmanual

/-- What a statement makes of a coherent transaction is coherent, the rules being as the
statement found them. -/
private theorem coherente_of_devient (hpour : r.Pour crypto U A s) {t t₀ : BankTransactionRow}
    (h : t₀.Coherente s) (hdevient : BankTransactionRow.Devient s t₀ r t) : t.Coherente s := by
  cases hdevient
  case categorisee => exact .sansRegle rfl (by simp) rfl
  case regle category regle transaction owner howner _ _ _ =>
    obtain ⟨rfl, hregle⟩ := hpour
    exact coherente_of_regle hregle howner rfl rfl rfl rfl
  case regleParLot category regle ids owner howner _ _ _ =>
    obtain ⟨rfl, hregle⟩ := hpour
    exact coherente_of_regle hregle howner rfl rfl rfl rfl
  case defaut => exact .sansRegle rfl (by simp) rfl
  case marquee | sansCategorie => exact .vide rfl rfl rfl
  case intacte | observee | reinitialisee | marqueeManuelle | recurrente | sansEnveloppe |
    affectee => exact h.garde rfl rfl rfl rfl

/-- A statement made for some owner keeps the columns together. -/
theorem Store.Coherent.effet (h : s.Coherent) (hi : s.Integre) (hi' : s'.Integre)
    (heffet : r.effet col x s = .ok (v, s')) (hpour : r.Pour crypto U A s) : s'.Coherent := by
  intro t ht
  have hbefore : t.Coherente s ∧ ∀ B, s'.proprietaireDuCompte t.bankAccountId = some B →
      t.ruleId ≠ none → s.proprietaireDuCompte t.bankAccountId = some B := by
    rcases transaction_effet heffet ht with ⟨t₀, ht₀, hdevient⟩ | ⟨l, -, rfl, -⟩
    · refine ⟨coherente_of_devient hpour (h t₀ ht₀) hdevient, fun B hB _ => ?_⟩
      rw [hdevient.meme.bankAccountId]
      exact hi.proprietaire_effet heffet ht ht₀ hdevient.meme hB
    · exact ⟨.vide rfl rfl rfl, fun _ _ hregle => absurd rfl hregle⟩
  obtain ⟨hcoherente, hproprietaire⟩ := hbefore
  refine ⟨hcoherente.source, fun regle hregle => ?_, hcoherente.manuelle⟩
  obtain ⟨hsource, row, hrow, hid, hB, hcategory⟩ := hcoherente.regle regle hregle
  -- a rule goes with its category, and then the transaction has left it
  have hstays : row ∈ s'.reglesCategorisation := by
    rcases regle_effet_cases heffet hrow with hstays | hgone
    · exact hstays
    · exact absurd hcategory (hgone t ht)
  obtain ⟨a, ha, hida⟩ := hi'.transactionCompte t ht
  have hB' : s'.proprietaireDuCompte t.bankAccountId = some a.ownerId :=
    Store.proprietaireDuCompte_eq_some.2 ⟨a, ha, hida, rfl⟩
  have hsame := hproprietaire a.ownerId hB' (by simp [hregle])
  refine ⟨hsource, row, hstays, hid, ?_, hcategory⟩
  rw [hB', ← hsame, hB]

end Effects

section Runs

variable {col : Collation} {cfg : Configuration} {s₀ s : Store} {l : List (Etape col cfg)}

/-- A database without transactions is coherent. -/
theorem Store.Amorcee.coherent (h : s.Amorcee) : s.Coherent := fun t ht => by
  have ht : t ∈ s.bankTransaction.rows := ht
  rw [h.bankTransaction] at ht
  exact absurd ht List.not_mem_nil

/-- The category, the source and the rule of every transaction agree in every state of a
run from the seeded database. -/
theorem coherence (h₀ : s₀.Amorcee) (h : Execution col cfg s₀ l s) :
    s.Coherent ∧ ∀ c ∈ l, ∀ e ∈ c.trace, e.after.Coherent := by
  have hinv := h.preserves_events (I := fun s => s.Integre ∧ s.Coherent)
    ⟨h₀.integre, h₀.coherent⟩ ?_
  · exact ⟨hinv.1.2, fun c hc e he => (hinv.2 c hc e he).2.2⟩
  · rintro c hc e he ⟨hi, hcoherent⟩
    obtain ⟨A, hpour⟩ := execution_pourUn h c hc e he
    have hpour : Op.Pour cfg.crypto Set.univ A e.before e.op := hpour
    have hi' : e.after.Integre := hi.after fun id f hop => by
      rw [hop] at hpour
      exact hpour
    refine ⟨hi', ?_⟩
    rcases after_cases e with hsame | ⟨r, x, v, hop, heffet⟩
    · rwa [hsame]
    · rw [hop] at hpour
      exact hcoherent.effet hi hi' heffet hpour

end Runs

/-- A rule classifies the rent, then its category is deleted. -/
def regleSupprimee : List Operation :=
  [.createConsent "alice" "banque", .completeConsent "alice" reponseBanque,
    .createCategory "alice" ⟨"Sport", "depense", none, none⟩,
    .createRule "alice" ⟨"loyer", Uuid.fromU128 1014, none⟩,
    mouvementDe "T1" "Loyer" (-70000) 20000,
    .deleteCategory "alice" (Uuid.fromU128 1014)]

/-- The run keeps every category with its source. -/
theorem coherence_regleSupprimee :
    (Scenario.unCompte.etapes regleSupprimee).Forall fun c =>
      ∀ e ∈ c.trace, (Event.after e).Coherent :=
  List.forall_iff_forall_mem.2
    (coherence amorcee_amorcee (Scenario.unCompte.execution regleSupprimee)).2

end Budgy
