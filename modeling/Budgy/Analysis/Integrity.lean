import Budgy.Analysis.Evolution
import Budgy.Analysis.Ownership

/-!
# The constraints of the database hold

No statement leaves a database that violates a `UNIQUE` or a `FOREIGN KEY`
constraint: an insertion that would is refused, an update checks the key it writes,
and a deletion takes along, or empties, what refers to the deleted rows.
-/

set_option autoImplicit false

namespace Budgy

open Effects Relational

namespace Store.Integre

variable {col : Collation} {x : ChoixSql} {s s' : Store} {r : Requete} {v : r.Reponse}

/-! ## Unique keys -/

/-- A consent keeps one row for each account of the bank. -/
theorem compteUnique_effet (h : s.Integre) (heffet : r.effet col x s = .ok (v, s'))
    (hr : ∀ id f, r ≠ .compte (.poserEmpreinte id f)) :
    ∀ a ∈ s'.bankAccount, ∀ b ∈ s'.bankAccount,
      a.consentId = b.consentId → a.dedupKey = b.dedupKey → a = b := by
  intro a ha b hb hconsent hdedup
  rcases compte_effet heffet hr ha with ⟨a₀, ha₀, hma⟩ | ⟨l, rfl, rfl, hl⟩ <;>
    rcases compte_effet heffet hr hb with ⟨b₀, hb₀, hmb⟩ | ⟨l', heq, rfl, hl'⟩
  · have heq : a₀ = b₀ := h.compteUnique a₀ ha₀ b₀ hb₀
      (hma.consentId.symm.trans (hconsent.trans hmb.consentId))
      (hma.dedupKey.symm.trans (hdedup.trans hmb.dedupKey))
    exact Table.eq_of_key_eq ha hb (hma.id.trans (heq ▸ hmb.id.symm))
  · exact absurd (hma.dedupKey.symm.trans hdedup)
      (hl'.libre a₀ ha₀ (hma.consentId.symm.trans hconsent))
  · exact absurd (hmb.dedupKey.symm.trans hdedup.symm)
      (hl.libre b₀ hb₀ (hmb.consentId.symm.trans hconsent.symm))
  · cases heq
    rfl

/-- An account keeps one row for each transaction of the bank. -/
theorem transactionUnique_effet (h : s.Integre) (heffet : r.effet col x s = .ok (v, s')) :
    ∀ t ∈ s'.bankTransaction, ∀ u ∈ s'.bankTransaction, t.dedupKey = u.dedupKey → t = u := by
  intro t ht u hu hdedup
  rcases transaction_effet heffet ht with ⟨t₀, ht₀, hdt⟩ | ⟨l, rfl, rfl, hl⟩ <;>
    rcases transaction_effet heffet hu with ⟨u₀, hu₀, hdu⟩ | ⟨l', heq, rfl, hl'⟩
  · have heq : t₀ = u₀ := h.transactionUnique t₀ ht₀ u₀ hu₀
      (hdt.meme.dedupKey.symm.trans (hdedup.trans hdu.meme.dedupKey))
    exact Table.eq_of_key_eq ht hu (hdt.meme.id.trans (heq ▸ hdu.meme.id.symm))
  · exact absurd (hdt.meme.dedupKey.symm.trans hdedup) (hl'.libre t₀ ht₀)
  · exact absurd (hdu.meme.dedupKey.symm.trans hdedup.symm) (hl.libre u₀ hu₀)
  · cases heq
    rfl

/-- A category keeps one budget for a month. -/
theorem budgetUnique_effet (h : s.Integre) (heffet : r.effet col x s = .ok (v, s')) :
    ∀ b ∈ s'.budgets, ∀ b' ∈ s'.budgets,
      b.ownerId = b'.ownerId → b.categoryId = b'.categoryId → b.mois = b'.mois → b = b' := by
  by_cases hw : NomTable.budgets ∈ r.ecrit
  swap
  · have hsame : s'.budgets = s.budgets := pareil_effet heffet hw
    rw [hsame]
    exact h.budgetUnique
  rcases r with r | r | r | r <;> cases r <;> try simp at hw
  case classement.supprimerCategorie =>
    obtain ⟨-, rfl⟩ := by simpa [Requete.effet, RequeteClassement.effet] using heffet
    exact fun b hb b' hb' =>
      h.budgetUnique b (Table.mem_delete.1 hb).1 b' (Table.mem_delete.1 hb').1
  case classement.enregistrerBudget owner category montant mois =>
    simp only [Requete.effet, RequeteClassement.effet] at heffet
    split at heffet
    swap
    · obtain ⟨-, rfl⟩ := lire_eq_ok.1 heffet
      exact h.budgetUnique
    obtain ⟨-, heffet⟩ := exiger_eq_ok.1 heffet
    split at heffet
    · obtain ⟨-, rfl⟩ := by simpa using heffet
      intro b hb b' hb' howner hcategory hmois
      simp only [Table.mem_update] at hb hb'
      obtain ⟨b₀, hb₀, rfl⟩ := hb
      obtain ⟨b₁, hb₁, rfl⟩ := hb'
      -- the update touches none of the columns of the constraint
      have heq : b₀ = b₁ := by
        refine h.budgetUnique b₀ hb₀ b₁ hb₁ ?_ ?_ ?_
        · revert howner
          split <;> split <;> exact id
        · revert hcategory
          split <;> split <;> exact id
        · revert hmois
          split <;> split <;> exact id
      rw [heq]
    · rename_i hlibre
      obtain ⟨t, ht, -, rfl⟩ := by simpa using heffet
      have hfree : ∀ b ∈ s.budgets, b.ownerId = owner → b.categoryId = category →
          b.mois ≠ mois := by
        simpa using hlibre
      intro b hb b' hb' howner hcategory hmois
      rcases (Table.mem_of_insert ht).1 hb with hb | rfl <;>
        rcases (Table.mem_of_insert ht).1 hb' with hb' | rfl
      · exact h.budgetUnique b hb b' hb' howner hcategory hmois
      · exact absurd hmois (hfree b hb howner hcategory)
      · exact absurd hmois.symm (hfree b' hb' howner.symm hcategory.symm)
      · rfl

/-- An owner keeps one envelope of a name. -/
theorem enveloppeUnique_effet (h : s.Integre) (heffet : r.effet col x s = .ok (v, s')) :
    ∀ e ∈ s'.enveloppe, ∀ e' ∈ s'.enveloppe,
      e.proprietaire = e'.proprietaire → e.nom = e'.nom → e = e' := by
  by_cases hw : NomTable.enveloppe ∈ r.ecrit
  swap
  · have hsame : s'.enveloppe = s.enveloppe := pareil_effet heffet hw
    rw [hsame]
    exact h.enveloppeUnique
  rcases r with r | r | r | r <;> cases r <;> try simp at hw
  case classement.supprimerEnveloppe =>
    obtain ⟨-, rfl⟩ := by simpa [Requete.effet, RequeteClassement.effet] using heffet
    exact fun e he e' he' =>
      h.enveloppeUnique e (Table.mem_delete.1 he).1 e' (Table.mem_delete.1 he').1
  case classement.creerEnveloppe owner nom icon color montant =>
    obtain ⟨-, hnom, t, ht, -, rfl⟩ := by
      simpa [Requete.effet, RequeteClassement.effet] using heffet
    have hfree : ∀ e ∈ s.enveloppe, e.proprietaire = owner → e.nom ≠ nom := by
      simpa [RequeteClassement.nomLibre] using hnom
    intro e he e' he' howner hnom
    rcases (Table.mem_of_insert ht).1 he with he | rfl <;>
      rcases (Table.mem_of_insert ht).1 he' with he' | rfl
    · exact h.enveloppeUnique e he e' he' howner hnom
    · exact absurd hnom (hfree e he howner)
    · exact absurd hnom.symm (hfree e' he' howner.symm)
    · rfl
  case classement.modifierEnveloppe id owner nom icon color montant =>
    simp only [Requete.effet, RequeteClassement.effet] at heffet
    split at heffet
    swap
    · obtain ⟨-, rfl⟩ := lire_eq_ok.1 heffet
      exact h.enveloppeUnique
    obtain ⟨-, hnom, -, rfl⟩ := by simpa using heffet
    have hfree : ∀ e ∈ s.enveloppe, e.proprietaire = owner → e.nom = nom → e.id = id := by
      simpa [RequeteClassement.nomLibre] using hnom
    intro e he e' he' howner hnom
    simp only [Table.mem_update] at he he'
    obtain ⟨e₀, he₀, rfl⟩ := he
    obtain ⟨e₁, he₁, rfl⟩ := he'
    suffices heq : e₀ = e₁ by rw [heq]
    simp only [Bool.and_eq_true, decide_eq_true_eq] at howner hnom
    by_cases h₀ : e₀.id = id ∧ e₀.proprietaire = owner <;>
      by_cases h₁ : e₁.id = id ∧ e₁.proprietaire = owner
    · exact Table.eq_of_key_eq he₀ he₁ (h₀.1.trans h₁.1.symm)
    · -- the updated row takes a name that only it has
      rw [if_pos h₀, if_neg h₁] at howner hnom
      have howner₁ : e₁.proprietaire = owner := howner.symm.trans h₀.2
      exact absurd ⟨hfree e₁ he₁ howner₁ hnom.symm, howner₁⟩ h₁
    · rw [if_neg h₀, if_pos h₁] at howner hnom
      have howner₀ : e₀.proprietaire = owner := howner.trans h₁.2
      exact absurd ⟨hfree e₀ he₀ howner₀ hnom, howner₀⟩ h₀
    · rw [if_neg h₀, if_neg h₁] at howner hnom
      exact h.enveloppeUnique e₀ he₀ e₁ he₁ howner hnom

/-! ## Foreign keys -/

/-- Every account keeps its consent. -/
theorem compteConsent_effet (h : s.Integre) (heffet : r.effet col x s = .ok (v, s'))
    (hr : ∀ id f, r ≠ .compte (.poserEmpreinte id f)) :
    ∀ a ∈ s'.bankAccount, ∃ c ∈ s'.consent, c.id = a.consentId := by
  intro a ha
  have hfound : ∃ c₀ ∈ s.consent, c₀.id = a.consentId := by
    rcases compte_effet heffet hr ha with ⟨a₀, ha₀, hm⟩ | ⟨l, rfl, rfl, hl⟩
    · rw [hm.consentId]
      exact h.compteConsent a₀ ha₀
    · exact hl.consent
  obtain ⟨c₀, hc₀, hid⟩ := hfound
  by_cases hdelete : r = .consent (.supprimerParProprietaire c₀.ownerId)
  · subst hdelete
    obtain ⟨-, rfl⟩ := by simpa [Requete.effet, RequeteConsent.effet] using heffet
    -- the accounts of a deleted consent are deleted
    have hfree := Table.any_eq_false.1 (Table.mem_delete.1 ha).2 c₀ hc₀
    simp [hid] at hfree
  · obtain ⟨c, hc, hdevient⟩ := consent_effet_reste heffet hc₀ hdelete
    have hm := hdevient.meme
    exact ⟨c, hc, hm.id.trans hid⟩

/-- Every balance keeps its account. -/
theorem balanceCompte_effet (h : s.Integre) (heffet : r.effet col x s = .ok (v, s')) :
    ∀ b ∈ s'.balance, ∃ a ∈ s'.bankAccount, a.id = b.bankAccountId := by
  intro b hb
  obtain ⟨a₀, ha₀, hid⟩ : ∃ a₀ ∈ s.bankAccount, a₀.id = b.bankAccountId := by
    rcases balance_effet heffet hb with hold | hnew
    · exact h.balanceCompte b hold
    · exact hnew
  rcases compte_effet_cases heffet ha₀ with ⟨a, ha, heq, -⟩ | ⟨hgone, -⟩
  · exact ⟨a, ha, heq.trans hid⟩
  · exact absurd hid.symm (hgone b hb)

/-- Every transaction keeps its account. -/
theorem transactionCompte_effet (h : s.Integre) (heffet : r.effet col x s = .ok (v, s')) :
    ∀ t ∈ s'.bankTransaction, ∃ a ∈ s'.bankAccount, a.id = t.bankAccountId := by
  intro t ht
  obtain ⟨a₀, ha₀, hid⟩ : ∃ a₀ ∈ s.bankAccount, a₀.id = t.bankAccountId := by
    rcases transaction_effet heffet ht with ⟨t₀, ht₀, hdevient⟩ | ⟨l, rfl, rfl, hl⟩
    · rw [hdevient.meme.bankAccountId]
      exact h.transactionCompte t₀ ht₀
    · exact hl.compte
  rcases compte_effet_cases heffet ha₀ with ⟨a, ha, heq, -⟩ | ⟨-, hgone⟩
  · exact ⟨a, ha, heq.trans hid⟩
  · exact absurd hid.symm (hgone t ht)

/-- Every classified transaction keeps its category. -/
theorem transactionCategorie_effet (h : s.Integre) (heffet : r.effet col x s = .ok (v, s')) :
    ∀ t ∈ s'.bankTransaction, ∀ id, t.categoryId = some id → ∃ c ∈ s'.category, c.id = id := by
  intro t ht id hid
  obtain ⟨c₀, hc₀, rfl⟩ : ∃ c₀ ∈ s.category, c₀.id = id := by
    rcases transaction_effet heffet ht with ⟨t₀, ht₀, hdevient⟩ | ⟨l, rfl, rfl, -⟩
    · rcases hdevient.classee.categorie with ⟨hkept, -⟩ | ⟨hnone, -⟩ | ⟨_, category, _, -, -, hc, hgiven, -⟩
      · exact h.transactionCategorie t₀ ht₀ id (hkept.symm.trans hid)
      · exact nomatch hnone.symm.trans hid
      · cases hgiven.symm.trans hid
        exact hc
    · exact nomatch hid
  rcases categorie_effet_cases heffet hc₀ with ⟨c, hc, heq, -⟩ | ⟨hgone, -⟩
  · exact ⟨c, hc, heq⟩
  · exact absurd hid (hgone t ht)

/-- Every assigned transaction keeps its envelope. -/
theorem transactionEnveloppe_effet (h : s.Integre) (heffet : r.effet col x s = .ok (v, s')) :
    ∀ t ∈ s'.bankTransaction, ∀ id, t.enveloppeId = some id → ∃ e ∈ s'.enveloppe, e.id = id := by
  intro t ht id hid
  obtain ⟨e₀, he₀, rfl⟩ : ∃ e₀ ∈ s.enveloppe, e₀.id = id := by
    rcases transaction_effet heffet ht with ⟨t₀, ht₀, hdevient⟩ | ⟨l, rfl, rfl, -⟩
    · rcases hdevient.classee.enveloppe with hkept | hnone | ⟨_, _, e, -, -, ⟨env, henv, rfl, -⟩, hgiven⟩
      · exact h.transactionEnveloppe t₀ ht₀ id (hkept.symm.trans hid)
      · exact nomatch hnone.symm.trans hid
      · cases hgiven.symm.trans hid
        exact ⟨env, henv, rfl⟩
    · exact nomatch hid
  rcases enveloppe_effet_cases heffet he₀ with ⟨e, he, heq, -⟩ | hgone
  · exact ⟨e, he, heq⟩
  · exact absurd hid (hgone t ht)

/-- Every rule keeps its category. -/
theorem regleCategorie_effet (h : s.Integre) (heffet : r.effet col x s = .ok (v, s')) :
    ∀ regle ∈ s'.reglesCategorisation, ∃ c ∈ s'.category, c.id = regle.categoryId := by
  intro regle hregle
  obtain ⟨c₀, hc₀, hid⟩ : ∃ c₀ ∈ s.category, c₀.id = regle.categoryId := by
    rcases regle_effet heffet hregle with hold | ⟨-, c, hc, hid, -⟩
    · exact h.regleCategorie regle hold
    · exact ⟨c, hc, hid⟩
  rcases categorie_effet_cases heffet hc₀ with ⟨c, hc, heq, -⟩ | ⟨-, hgone, -⟩
  · exact ⟨c, hc, heq.trans hid⟩
  · exact absurd hid.symm (hgone regle hregle)

/-- Every budget keeps its category. -/
theorem budgetCategorie_effet (h : s.Integre) (heffet : r.effet col x s = .ok (v, s')) :
    ∀ b ∈ s'.budgets, ∃ c ∈ s'.category, c.id = b.categoryId := by
  intro b hb
  obtain ⟨c₀, hc₀, hid⟩ : ∃ c₀ ∈ s.category, c₀.id = b.categoryId := by
    rcases budget_effet heffet hb with ⟨b₀, hb₀, heq, -⟩ | ⟨c, hc, hid, -⟩
    · rw [heq]
      exact h.budgetCategorie b₀ hb₀
    · exact ⟨c, hc, hid⟩
  rcases categorie_effet_cases heffet hc₀ with ⟨c, hc, heq, -⟩ | ⟨-, -, hgone⟩
  · exact ⟨c, hc, heq.trans hid⟩
  · exact absurd hid.symm (hgone b hb)

/-- No request of the service breaks a constraint. -/
theorem after {e : Evenement col} (h : e.before.Integre)
    (he : ∀ id f, e.op ≠ .sql (.compte (.poserEmpreinte id f))) : e.after.Integre := by
  rcases after_cases e with hsame | ⟨r, x, v, hop, heffet⟩
  · rwa [hsame]
  · have hr : ∀ id f, r ≠ .compte (.poserEmpreinte id f) := fun id f hr => he id f (hr ▸ hop)
    exact
      { compteUnique := h.compteUnique_effet heffet hr
        transactionUnique := h.transactionUnique_effet heffet
        budgetUnique := h.budgetUnique_effet heffet
        enveloppeUnique := h.enveloppeUnique_effet heffet
        compteConsent := h.compteConsent_effet heffet hr
        balanceCompte := h.balanceCompte_effet heffet
        transactionCompte := h.transactionCompte_effet heffet
        transactionCategorie := h.transactionCategorie_effet heffet
        transactionEnveloppe := h.transactionEnveloppe_effet heffet
        regleCategorie := h.regleCategorie_effet heffet
        budgetCategorie := h.budgetCategorie_effet heffet }

/-! ## Owners -/

/-- A transaction that stays keeps its owner. -/
theorem proprietaire_effet (h : s.Integre) (heffet : r.effet col x s = .ok (v, s'))
    {t t₀ : BankTransactionRow} (ht : t ∈ s'.bankTransaction) (ht₀ : t₀ ∈ s.bankTransaction)
    (hmeme : t.Meme t₀) {B : ProprietaireId}
    (hB : s'.proprietaireDuCompte t.bankAccountId = some B) :
    s.proprietaireDuCompte t₀.bankAccountId = some B := by
  obtain ⟨a₀, ha₀, hid₀⟩ := h.transactionCompte t₀ ht₀
  obtain ⟨a, ha, hid, howner⟩ := Store.proprietaireDuCompte_eq_some.1 hB
  rcases compte_effet_cases heffet ha₀ with ⟨a₁, ha₁, hid₁, howner₁⟩ | ⟨-, hgone⟩
  · have heq : a = a₁ := Table.eq_of_key_eq ha ha₁
      (hid.trans (hmeme.bankAccountId.trans (hid₀.symm.trans hid₁.symm)))
    exact Store.proprietaireDuCompte_eq_some.2
      ⟨a₀, ha₀, hid₀, howner₁.symm.trans (heq ▸ howner)⟩
  · exact absurd (hmeme.bankAccountId.trans hid₀.symm) (hgone t ht)

end Store.Integre

/-- The seeded database satisfies the constraints: it has categories only. -/
theorem Store.Amorcee.integre {s : Store} (h : s.Amorcee) : s.Integre := by
  have hcompte : ∀ a, a ∉ s.bankAccount := fun a ha => by
    simpa [h.bankAccount] using Table.mem_rows.2 ha
  have hbalance : ∀ b, b ∉ s.balance := fun b hb => by
    simpa [h.balance] using Table.mem_rows.2 hb
  have htransaction : ∀ t, t ∉ s.bankTransaction := fun t ht => by
    simpa [h.bankTransaction] using Table.mem_rows.2 ht
  have hregle : ∀ r, r ∉ s.reglesCategorisation := fun r hr => by
    simpa [h.reglesCategorisation] using Table.mem_rows.2 hr
  have hbudget : ∀ b, b ∉ s.budgets := fun b hb => by
    simpa [h.budgets] using Table.mem_rows.2 hb
  have henveloppe : ∀ e, e ∉ s.enveloppe := fun e he => by
    simpa [h.enveloppe] using Table.mem_rows.2 he
  exact
    { compteUnique := fun a ha => absurd ha (hcompte a)
      transactionUnique := fun t ht => absurd ht (htransaction t)
      budgetUnique := fun b hb => absurd hb (hbudget b)
      enveloppeUnique := fun e he => absurd he (henveloppe e)
      compteConsent := fun a ha => absurd ha (hcompte a)
      balanceCompte := fun b hb => absurd hb (hbalance b)
      transactionCompte := fun t ht => absurd ht (htransaction t)
      transactionCategorie := fun t ht => absurd ht (htransaction t)
      transactionEnveloppe := fun t ht => absurd ht (htransaction t)
      regleCategorie := fun r hr => absurd hr (hregle r)
      budgetCategorie := fun b hb => absurd hb (hbudget b) }

end Budgy
