import Budgy.Analysis.Footprint
import Budgy.Analysis.Frame
import Budgy.Analysis.Scenarios

/-!
# The writes of one user stay with that user

`Store.Cloisonne` is the invariant: what a transaction, a rule, a budget or an account
refers to belongs to whom it belongs to, or to the system.  It is what confines the
cascades of the deletions to one owner, so `cloisonnement` says both that it holds
along every run and that an operation of one user leaves the rows of the others.
-/

set_option autoImplicit false

namespace Budgy

open Effects Relational

/-- What the rows of an owner refer to is theirs, or the system's. -/
structure Store.Cloisonne (crypto : CryptoService) (U : Set (List UInt8)) (s : Store) : Prop where
  compteNomme : ∀ a ∈ s.bankAccount, a.ownerId ≠ ""
  categorieNommee : ∀ c ∈ s.category, c.ownerId ≠ some ""
  compteConsent : ∀ a ∈ s.bankAccount, ∀ c ∈ s.consent, c.id = a.consentId → c.ownerId = a.ownerId
  transactionCategorie : ∀ t ∈ s.bankTransaction, ∀ B,
    s.proprietaireDuCompte t.bankAccountId = some B →
      ∀ category, t.categoryId = some category → s.CategorieAccessible B category
  transactionRegle : ∀ t ∈ s.bankTransaction, ∀ B,
    s.proprietaireDuCompte t.bankAccountId = some B →
      ∀ regle, t.ruleId = some regle →
        ∃ category, t.categoryId = some category ∧ s.RegleDe B regle category
  transactionEnveloppe : ∀ t ∈ s.bankTransaction, ∀ B,
    s.proprietaireDuCompte t.bankAccountId = some B →
      ∀ enveloppe, t.enveloppeId = some enveloppe →
        ∃ e ∈ s.enveloppe, e.id = enveloppe ∧ e.proprietaire = B
  regleCategorie : ∀ regle ∈ s.reglesCategorisation,
    s.CategorieAccessible regle.ownerId regle.categoryId
  budgetCategorie : ∀ b ∈ s.budgets, s.CategorieAccessible b.ownerId b.categoryId
  empreinte : ∀ t ∈ s.bankTransaction, ∃ externe,
    CryptoService.messageDedup t.bankAccountId.asBytes externe ∈ U ∧
      t.dedupKey = dedupKeyTransaction crypto t.bankAccountId externe

namespace Store.Cloisonne

section Effects

variable {col : Collation} {crypto : CryptoService} {U : Set (List UInt8)} {A B : ProprietaireId}
  {x : ChoixSql} {s s' : Store} {r : Requete} {v : r.Reponse}

/-- A category that is still referred to is still accessible. -/
private theorem accessible_of_effet {category : CategoryId}
    (h : s.CategorieAccessible B category)
    (hstays : ∀ c ∈ s.category, c.id = category →
      (∃ c' ∈ s'.category, c'.id = c.id ∧ c'.ownerId = c.ownerId)) :
    s'.CategorieAccessible B category := by
  obtain ⟨c, hc, hid, howner⟩ := h
  obtain ⟨c', hc', hid', howner'⟩ := hstays c hc hid
  exact ⟨c', hc', hid'.trans hid, howner' ▸ howner⟩

/-- What a statement made for `A` gives to a transaction is accessible to `A`. -/
private theorem accessible_of_attribue (h : s.Cloisonne crypto U) (hpour : r.Pour crypto U A s)
    (hA : A ≠ "") {owner : ProprietaireId} {category : CategoryId}
    {regle : Option RegleCategorisationId} (hr : r.attribue = some (owner, category, regle)) :
    owner = A ∧ s.CategorieAccessible A category ∧
      ∀ id, regle = some id → s.RegleDe A id category := by
  unfold Requete.attribue at hr
  split at hr
  · cases hr
    obtain ⟨rfl, hcategory⟩ := hpour
    exact ⟨rfl, hcategory, by simp⟩
  · cases hr
    obtain ⟨rfl, c, hc, hid, -, howner⟩ := hpour
    refine ⟨rfl, ⟨c, hc, hid, ?_⟩, by simp⟩
    -- a category without a name would count as the system's
    cases hown : c.ownerId with
    | none => exact .inl rfl
    | some B =>
        rw [hown] at howner
        rcases howner with rfl | hempty
        · exact .inr rfl
        · exact absurd (hown.trans (congrArg some hempty)) (h.categorieNommee c hc)
  · cases hr
    obtain ⟨rfl, hregle⟩ := hpour
    refine ⟨rfl, ?_, fun _ hid => Option.some.inj hid ▸ hregle⟩
    obtain ⟨row, hrow, -, rfl, rfl⟩ := hregle
    exact h.regleCategorie row hrow
  · cases hr
    obtain ⟨rfl, hregle⟩ := hpour
    refine ⟨rfl, ?_, fun _ hid => Option.some.inj hid ▸ hregle⟩
    obtain ⟨row, hrow, -, rfl, rfl⟩ := hregle
    exact h.regleCategorie row hrow
  · cases hr

/-- A transaction has one owner. -/
private theorem eq_of_txDe' {t : BankTransactionRow} {owner : ProprietaireId}
    (h : s.txDe owner t = true) (hB : s.proprietaireDuCompte t.bankAccountId = some B) :
    owner = B := by
  have howner : s.proprietaireDuCompte t.bankAccountId = some owner := by
    simpa [Store.txDe] using h
  exact Option.some.inj (howner.symm.trans hB)

variable (h : s.Cloisonne crypto U) (hi : s.Integre) (heffet : r.effet col x s = .ok (v, s'))
include h hi heffet

/-- A transaction is assigned to an envelope of its owner. -/
private theorem transactionEnveloppe_effet {t : BankTransactionRow} (ht : t ∈ s'.bankTransaction)
    (hB : s'.proprietaireDuCompte t.bankAccountId = some B) {enveloppe : EnveloppeId}
    (henveloppe : t.enveloppeId = some enveloppe) :
    ∃ e ∈ s'.enveloppe, e.id = enveloppe ∧ e.proprietaire = B := by
  have hbefore : ∃ e ∈ s.enveloppe, e.id = enveloppe ∧ e.proprietaire = B := by
    rcases transaction_effet heffet ht with ⟨t₀, ht₀, hdevient⟩ | ⟨l, -, rfl, -⟩
    · have hB₀ := hi.proprietaire_effet heffet ht ht₀ hdevient.meme hB
      rcases hdevient.classee.enveloppe with hkept | hnone | ⟨_, owner, e, -, howner, hexists, hgiven⟩
      · exact h.transactionEnveloppe t₀ ht₀ B hB₀ enveloppe (hkept ▸ henveloppe)
      · exact nomatch hnone.symm.trans henveloppe
      · obtain rfl := eq_of_txDe' howner hB₀
        cases hgiven.symm.trans henveloppe
        exact hexists
    · exact nomatch henveloppe
  obtain ⟨e, he, hid, howner⟩ := hbefore
  rcases enveloppe_effet_cases heffet he with ⟨e', he', hid', howner'⟩ | hgone
  · exact ⟨e', he', hid'.trans hid, howner'.trans howner⟩
  · exact absurd (hid ▸ henveloppe) (hgone t ht)

variable (hpour : r.Pour crypto U A s) (hA : A ≠ "")
include hpour hA

/-- A transaction is classified in a category that its owner may use. -/
private theorem transactionCategorie_effet {t : BankTransactionRow} (ht : t ∈ s'.bankTransaction)
    (hB : s'.proprietaireDuCompte t.bankAccountId = some B) {category : CategoryId}
    (hcategory : t.categoryId = some category) : s'.CategorieAccessible B category := by
  have hbefore : s.CategorieAccessible B category := by
    rcases transaction_effet heffet ht with ⟨t₀, ht₀, hdevient⟩ | ⟨l, -, rfl, -⟩
    · have hB₀ := hi.proprietaire_effet heffet ht ht₀ hdevient.meme hB
      rcases hdevient.classee.categorie with ⟨hkept, -⟩ | ⟨hnone, -⟩ |
        ⟨owner, given, regle, hr, howner, -, hgiven, -⟩
      · exact h.transactionCategorie t₀ ht₀ B hB₀ category (hkept ▸ hcategory)
      · exact nomatch hnone.symm.trans hcategory
      · obtain ⟨rfl, haccessible, -⟩ := accessible_of_attribue h hpour hA hr
        obtain rfl := eq_of_txDe' howner hB₀
        cases hgiven.symm.trans hcategory
        exact haccessible
    · exact nomatch hcategory
  refine accessible_of_effet hbefore fun c hc hid => ?_
  rcases categorie_effet_cases heffet hc with hstays | ⟨hgone, -⟩
  · exact hstays
  · exact absurd (hid ▸ hcategory) (hgone t ht)

/-- A transaction was classified by a rule of its owner. -/
private theorem transactionRegle_effet {t : BankTransactionRow} (ht : t ∈ s'.bankTransaction)
    (hB : s'.proprietaireDuCompte t.bankAccountId = some B) {regle : RegleCategorisationId}
    (hregle : t.ruleId = some regle) :
    ∃ category, t.categoryId = some category ∧ s'.RegleDe B regle category := by
  have hbefore : ∃ category, t.categoryId = some category ∧ s.RegleDe B regle category := by
    rcases transaction_effet heffet ht with ⟨t₀, ht₀, hdevient⟩ | ⟨l, -, rfl, -⟩
    · have hB₀ := hi.proprietaire_effet heffet ht ht₀ hdevient.meme hB
      rcases hdevient.classee.categorie with ⟨hkept, hkept'⟩ | ⟨-, hnone⟩ |
        ⟨owner, given, rule, hr, howner, -, hgiven, hgiven'⟩
      · rw [hkept]
        exact h.transactionRegle t₀ ht₀ B hB₀ regle (hkept' ▸ hregle)
      · exact nomatch hnone.symm.trans hregle
      · obtain ⟨rfl, -, hrule⟩ := accessible_of_attribue h hpour hA hr
        obtain rfl := eq_of_txDe' howner hB₀
        exact ⟨given, hgiven, hrule regle (hgiven'.symm.trans hregle)⟩
    · exact nomatch hregle
  obtain ⟨category, hcategory, row, hrow, hid, hrowCategory, howner⟩ := hbefore
  refine ⟨category, hcategory, row, ?_, hid, hrowCategory, howner⟩
  -- a rule goes with its category, and then the transaction has left it
  rcases regle_effet_cases heffet hrow with hstays | hgone
  · exact hstays
  · exact absurd (hrowCategory ▸ hcategory) (hgone t ht)

/-- A statement made for a named owner keeps the invariant. -/
theorem effet : s'.Cloisonne crypto U where
  compteNomme a ha := by
    have hr : ∀ id f, r ≠ .compte (.poserEmpreinte id f) := by
      rintro id f rfl
      exact hpour
    rcases compte_effet heffet hr ha with ⟨a₀, ha₀, hmeme⟩ | ⟨l, rfl, rfl, -⟩
    · rw [hmeme.ownerId]
      exact h.compteNomme a₀ ha₀
    · obtain ⟨rfl, -⟩ := hpour
      exact hA
  categorieNommee c hc := by
    rcases categorie_effet heffet hc with ⟨c₀, hc₀, -, howner⟩ | ⟨_, _, _, _, _, rfl, howner⟩
    · rw [howner]
      exact h.categorieNommee c₀ hc₀
    · obtain rfl := hpour
      rw [howner]
      exact fun hempty => hA (Option.some.inj hempty)
  compteConsent := Store.ComptesDuTitulaire.effet h.compteConsent hi heffet hpour
  transactionCategorie _ ht _ hB _ hcategory :=
    h.transactionCategorie_effet hi heffet hpour hA ht hB hcategory
  transactionRegle _ ht _ hB _ hregle := h.transactionRegle_effet hi heffet hpour hA ht hB hregle
  transactionEnveloppe _ ht _ hB _ henveloppe :=
    h.transactionEnveloppe_effet hi heffet ht hB henveloppe
  regleCategorie regle hregle := by
    have hbefore : s.CategorieAccessible regle.ownerId regle.categoryId := by
      rcases regle_effet heffet hregle with hold | ⟨-, c, hc, hid, howner⟩
      · exact h.regleCategorie regle hold
      · exact ⟨c, hc, hid, howner.symm⟩
    refine accessible_of_effet hbefore fun c hc hid => ?_
    rcases categorie_effet_cases heffet hc with hstays | ⟨-, hgone, -⟩
    · exact hstays
    · exact absurd hid.symm (hgone regle hregle)
  budgetCategorie b hb := by
    have hbefore : s.CategorieAccessible b.ownerId b.categoryId := by
      rcases budget_effet heffet hb with ⟨b₀, hb₀, hcategory, howner⟩ | ⟨c, hc, hid, howner⟩
      · rw [hcategory, howner]
        exact h.budgetCategorie b₀ hb₀
      · exact ⟨c, hc, hid, howner.symm⟩
    refine accessible_of_effet hbefore fun c hc hid => ?_
    rcases categorie_effet_cases heffet hc with hstays | ⟨-, -, hgone⟩
    · exact hstays
    · exact absurd hid.symm (hgone b hb)
  empreinte t ht := by
    rcases transaction_effet heffet ht with ⟨t₀, ht₀, hdevient⟩ | ⟨l, rfl, rfl, -⟩
    · rw [hdevient.meme.bankAccountId, hdevient.meme.dedupKey]
      exact h.empreinte t₀ ht₀
    · obtain ⟨-, _, externe, hmem, -, hkey⟩ := hpour
      exact ⟨externe, hmem, hkey⟩

end Effects

/-- The invariant confines a statement made for `A` to the rows of `A`. -/
theorem confinee {crypto : CryptoService} {U : Set (List UInt8)} {A : ProprietaireId} {s : Store}
    {r : Requete} (h : s.Cloisonne crypto U) (hU : crypto.SansCollision U)
    (hpour : r.Pour crypto U A s) : r.Confinee s A := by
  rcases r with r | r | r | r <;> cases r <;> try trivial
  case consent.supprimerParProprietaire =>
    obtain rfl := hpour
    intro a ha c hc hid howner
    rw [← h.compteConsent a ha c hc hid, howner]
  case transaction.insert l =>
    obtain ⟨-, _, externe, hmem, -, hkey⟩ := hpour
    intro t ht hdedup
    obtain ⟨externe', hmem', hkey'⟩ := h.empreinte t ht
    have hmessage := hU _ hmem' _ hmem (hkey'.symm.trans (hdedup.trans hkey))
    exact (CryptoService.messageDedup_uuid_inj hmessage).1
  case classement.supprimerCategorie id owner =>
    obtain rfl := hpour
    intro c hc hid howner
    -- whoever may use a category of the owner is the owner
    have heq : ∀ {B}, s.CategorieAccessible B id → B = owner := by
      rintro B ⟨c', hc', hid', hnone | hsome⟩ <;>
        obtain rfl := Table.eq_of_key_eq hc hc' (hid.trans hid'.symm)
      · exact nomatch howner.symm.trans hnone
      · exact Option.some.inj (hsome.symm.trans howner)
    refine ⟨fun t ht hcategory B hB => heq (h.transactionCategorie t ht B hB id hcategory),
      fun regle hregle hcategory => ?_, fun b hb hcategory => ?_⟩
    · exact heq (hcategory ▸ h.regleCategorie regle hregle)
    · exact heq (hcategory ▸ h.budgetCategorie b hb)
  case classement.supprimerEnveloppe id owner =>
    obtain rfl := hpour
    intro e he hid howner t ht henveloppe B hB
    obtain ⟨e', he', hid', howner'⟩ := h.transactionEnveloppe t ht B hB id henveloppe
    rw [Table.eq_of_key_eq he he' (hid.trans hid'.symm)] at howner
    exact howner'.symm.trans howner

end Store.Cloisonne

/-! ## Runs -/

section Runs

variable {col : Collation} {cfg : Configuration} {U : Set (List UInt8)} {A B : ProprietaireId}
  {s₀ s s' : Store} {l : List (Etape col cfg)} {e : Evenement col}

/-- The two invariants of a run. -/
private def Tenue (crypto : CryptoService) (U : Set (List UInt8)) (s : Store) : Prop :=
  s.Integre ∧ s.Cloisonne crypto U

/-- A request for one user keeps what is held of all of them. -/
private theorem Tenue.after {crypto : CryptoService} (h : Tenue crypto U e.before) (hA : A ≠ "")
    (he : e.Pour crypto U A) : Tenue crypto U e.after := by
  have hpour : Op.Pour crypto U A e.before e.op := he
  refine ⟨h.1.after ?_, ?_⟩
  · intro id f hop
    rw [hop] at hpour
    exact hpour
  · rcases after_cases e with hsame | ⟨r, x, v, hop, heffet⟩
    · rw [hsame]
      exact h.2
    · rw [hop] at hpour
      exact h.2.effet h.1 heffet hpour hA

/-- The seeded database holds nothing of anybody. -/
theorem Store.Amorcee.cloisonne {crypto : CryptoService} (h : s.Amorcee) :
    s.Cloisonne crypto U := by
  have hcompte : ∀ a, a ∉ s.bankAccount := fun a ha => by
    simpa [h.bankAccount] using Table.mem_rows.2 ha
  have htransaction : ∀ t, t ∉ s.bankTransaction := fun t ht => by
    simpa [h.bankTransaction] using Table.mem_rows.2 ht
  have hregle : ∀ r, r ∉ s.reglesCategorisation := fun r hr => by
    simpa [h.reglesCategorisation] using Table.mem_rows.2 hr
  have hbudget : ∀ b, b ∉ s.budgets := fun b hb => by
    simpa [h.budgets] using Table.mem_rows.2 hb
  exact
    { compteNomme := fun a ha => absurd ha (hcompte a)
      categorieNommee := fun c hc howner => nomatch (h.systeme c hc).symm.trans howner
      compteConsent := fun a ha => absurd ha (hcompte a)
      transactionCategorie := fun t ht => absurd ht (htransaction t)
      transactionRegle := fun t ht => absurd ht (htransaction t)
      transactionEnveloppe := fun t ht => absurd ht (htransaction t)
      regleCategorie := fun r hr => absurd hr (hregle r)
      budgetCategorie := fun b hb => absurd hb (hbudget b)
      empreinte := fun t ht => absurd ht (htransaction t) }

/-- A write made by a user who has a name, or the storage of an observation. -/
def Operation.DUtilisateur : Operation → Prop
  | createConsent owner _ | completeConsent owner _ | renewConsent owner _
  | createRule owner _ | createRuleFromTransaction owner _ _ _ | recategoriserCredits owner
  | recalculerTransfertsInternes owner | categorizeTransaction owner _ _ _
  | createCategory owner _ | updateCategory owner _ _ | deleteCategory owner _
  | createEnveloppe owner _ | updateEnveloppe owner _ _ | deleteEnveloppe owner _
  | affecterTransaction owner _ _ | upsertBudget owner _ | updatePreferences owner _
  | effacerDonneesProprietaire owner => owner ≠ ""
  | enregistrer _ => True
  | synchroniser => False

instance : DecidablePred Operation.DUtilisateur := fun o => by
  cases o <;> unfold Operation.DUtilisateur <;> infer_instance

/-- A write is made for somebody who has a name. -/
private theorem exists_sert_nomme {crypto : CryptoService} (hs : s.Cloisonne crypto U)
    {o : Operation} (ho : o.DUtilisateur) : ∃ A, A ≠ "" ∧ o.Sert A s := by
  cases o
  case synchroniser => exact ho.elim
  case enregistrer nouvelle =>
    cases hB : s.proprietaireDuCompte nouvelle.bankAccount with
    | none => exact ⟨"personne", by decide, fun B h => nomatch hB.symm.trans h⟩
    | some B =>
        obtain ⟨a, ha, -, rfl⟩ := Store.proprietaireDuCompte_eq_some.1 hB
        exact ⟨a.ownerId, hs.compteNomme a ha, fun C h => Option.some.inj (h.symm.trans hB)⟩
  all_goals exact ⟨_, ho, rfl⟩

/-- Each transaction is classified within what its owner has, or the system. -/
def Store.Isole (s : Store) : Prop :=
  ∀ t ∈ s.bankTransaction, ∃ B, s.proprietaireDuCompte t.bankAccountId = some B ∧
    (∀ category, t.categoryId = some category → s.CategorieAccessible B category) ∧
    (∀ enveloppe, t.enveloppeId = some enveloppe →
      ∃ e ∈ s.enveloppe, e.id = enveloppe ∧ e.proprietaire = B) ∧
    ∀ regle, t.ruleId = some regle → ∃ r ∈ s.reglesCategorisation, r.id = regle ∧ r.ownerId = B

/-- What is held of all of them is that nobody reaches another one. -/
private theorem Tenue.isole {crypto : CryptoService} (h : Tenue crypto U s) : s.Isole := by
  intro t ht
  obtain ⟨a, ha, hid⟩ := h.1.transactionCompte t ht
  have hB : s.proprietaireDuCompte t.bankAccountId = some a.ownerId :=
    Store.proprietaireDuCompte_eq_some.2 ⟨a, ha, hid, rfl⟩
  refine ⟨a.ownerId, hB, h.2.transactionCategorie t ht _ hB, h.2.transactionEnveloppe t ht _ hB, ?_⟩
  intro regle hregle
  obtain ⟨category, -, r, hr, hid, -, howner⟩ := h.2.transactionRegle t ht _ hB regle hregle
  exact ⟨r, hr, hid, howner⟩

/-- Along a run of writes of the users, from the seeded database, each transaction is
classified within what its owner has, and an operation made for `A` leaves the rows of
every other owner. -/
theorem cloisonnement (h₀ : s₀.Amorcee) (h : Execution col cfg s₀ l s')
    (hutilisateur : ∀ c ∈ l, Operation.DUtilisateur c.call)
    (hcollision : cfg.crypto.SansCollision {m | ∃ c ∈ l, m ∈ Operation.messages c.call}) :
    s'.Isole ∧ (∀ c ∈ l, ∀ e ∈ c.trace, e.after.Isole) ∧
      ∀ c ∈ l, ∀ A, Operation.Sert A c.before c.call →
        ∀ B, B ≠ A → c.after.patrimoine B = c.before.patrimoine B := by
  have hmessages : ∀ c ∈ l, Operation.messages c.call ⊆
      {m | ∃ c ∈ l, m ∈ Operation.messages c.call} := fun c hc m hm => ⟨c, hc, hm⟩
  generalize {m | ∃ c ∈ l, m ∈ Operation.messages c.call} = U at hcollision hmessages
  -- the invariants hold around every request of a call that starts with them
  have hcall : ∀ c ∈ l, Tenue cfg.crypto U c.before →
      Tenue cfg.crypto U c.after ∧ ∀ e ∈ c.trace, Tenue cfg.crypto U e.before ∧
        Tenue cfg.crypto U e.after := by
    intro c hc hbefore
    obtain ⟨A, hA, hsert⟩ := exists_sert_nomme hbefore.2 (hutilisateur c hc)
    have hpour := (programme_pour hsert (hmessages c hc) (h.valid c hc)).1
    exact Runs.preserves (h.valid c hc) hbefore fun e he hbefore =>
      hbefore.after hA (hpour e he)
  obtain ⟨hend, hall⟩ := h.preserves (I := Tenue cfg.crypto U) ⟨h₀.integre, h₀.cloisonne⟩
    fun c hc _ hbefore => (hcall c hc hbefore).1
  refine ⟨hend.isole, fun c hc e he => ((hcall c hc (hall c hc).1).2 e he).2.isole, ?_⟩
  intro c hc A hsert B hB
  have hpour := (programme_pour hsert (hmessages c hc) (h.valid c hc)).1
  refine Runs.related (R := fun s s' : Store => s'.patrimoine B = s.patrimoine B)
    (fun _ => rfl)
    (fun _ _ _ h₁ h₂ => h₂.trans h₁) (h.valid c hc) fun e he => ?_
  have hbefore := ((hcall c hc (hall c hc).1).2 e he).1
  refine patrimoine_after (hpour e he) (fun r hop => ?_) hB
  have hpour' : Op.Pour cfg.crypto U A e.before e.op := hpour e he
  rw [hop] at hpour'
  exact hbefore.2.confinee hcollision hpour'

end Runs

/-- Two users connect to the bank; one of them attaches an account, classifies a
transaction by a rule and deletes the category again. -/
def deuxUtilisateurs : List Operation :=
  [.createConsent "alice" "banque", .completeConsent "alice" reponseBanque,
    .createCategory "alice" ⟨"Sport", "depense", none, none⟩,
    mouvementDe "T1" "Loyer" (-70000) 20000,
    .createConsent "bob" "banque",
    .createRule "alice" ⟨"loyer", Uuid.fromU128 1014, none⟩,
    .deleteCategory "alice" (Uuid.fromU128 1014)]

/-- Neither user reaches the other one. -/
theorem cloisonnement_deuxUtilisateurs : (Scenario.unCompte.fin deuxUtilisateurs).Isole := by
  have hcalls : (Scenario.unCompte.etapes deuxUtilisateurs).map Step.call = deuxUtilisateurs :=
    Scenario.unCompte.calls_etapes deuxUtilisateurs
  have hutilisateur : ∀ o ∈ deuxUtilisateurs, Operation.DUtilisateur o := by decide
  refine (cloisonnement amorcee_amorcee (Scenario.unCompte.execution deuxUtilisateurs) ?_
    (sansCollision_enClair _)).1
  intro c hc
  exact hutilisateur c.call (hcalls ▸ List.mem_map_of_mem hc)

end Budgy
