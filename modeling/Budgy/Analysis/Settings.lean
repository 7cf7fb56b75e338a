import Budgy.Analysis.Integrity
import Budgy.Interface.Views

/-!
# The settings of a user

Categories, envelopes, budgets and the first day of the month: for one user they make a few
finite maps, that `Reglages` describes with no table and no row.  A statement of the user
acts on them as on maps, and the statements of the others do not reach them.
-/

set_option autoImplicit false

namespace Budgy

open Effects Relational

/-! ## The maps -/

/-- What a user chose of a category. -/
structure FicheCategorie where
  name : String
  kind : CategoryKind
  color : String
  icon : String

/-- What a user chose of an envelope. -/
structure FicheEnveloppe where
  nom : String
  icon : String
  color : String
  montantCents : ℤ

/-- What a user has set, beside the categories of the system. -/
@[ext]
structure Reglages where
  systeme : Set CategoryId
  categories : CategoryId → Option FicheCategorie
  enveloppes : EnveloppeId → Option FicheEnveloppe
  budgets : CategoryId × NaiveDate → Option ℤ
  jour : Option ℤ

namespace Reglages

variable (σ : Reglages)

/-- The settings once a category is there. -/
def poserCategorie (id : CategoryId) (fiche : FicheCategorie) : Reglages :=
  { σ with categories := Function.update σ.categories id (some fiche) }

/-- The budgets of a category go with it. -/
def retirerCategorie (id : CategoryId) : Reglages :=
  { σ with
    categories := fun i => if i = id then none else σ.categories i
    budgets := fun k => if k.1 = id then none else σ.budgets k }

/-- The settings once an envelope is there. -/
def poserEnveloppe (id : EnveloppeId) (fiche : FicheEnveloppe) : Reglages :=
  { σ with enveloppes := Function.update σ.enveloppes id (some fiche) }

/-- The settings once an envelope is gone. -/
def retirerEnveloppe (id : EnveloppeId) : Reglages :=
  { σ with enveloppes := fun i => if i = id then none else σ.enveloppes i }

/-- The settings once a budget is there. -/
def poserBudget (k : CategoryId × NaiveDate) (montant : ℤ) : Reglages :=
  { σ with budgets := Function.update σ.budgets k (some montant) }

/-- The settings once the first day of the month is chosen. -/
def poserJour (jour : ℤ) : Reglages := { σ with jour := some jour }

/-- Another envelope has the name. -/
def NomPris (nom : String) (id : EnveloppeId) : Prop :=
  ∃ i fiche, i ≠ id ∧ σ.enveloppes i = some fiche ∧ fiche.nom = nom

/-- A budget may be set on the categories of the system and on one's own. -/
def Accessible (id : CategoryId) : Prop := id ∈ σ.systeme ∨ σ.categories id ≠ none

end Reglages

/-! ## The maps in the database -/

/-- What the settings keep of a category. -/
def Category.fiche (c : Category) : FicheCategorie := ⟨c.name, c.kind, c.color, c.icon⟩

/-- What the settings keep of an envelope. -/
def Enveloppe.fiche (e : Enveloppe) : FicheEnveloppe := ⟨e.nom, e.icon, e.color, e.montantCents⟩

/-- The category was created by this owner. -/
def Category.De (A : ProprietaireId) (c : Category) : Bool := c.ownerId = some A

/-- The envelope is of this owner. -/
def Enveloppe.De (A : ProprietaireId) (e : Enveloppe) : Bool := e.proprietaire = A

/-- The budget is of this owner. -/
def Budget.De (A : ProprietaireId) (b : Budget) : Bool := b.ownerId = A

/-- What a budget is about. -/
def Budget.objet (b : Budget) : CategoryId × NaiveDate := (b.categoryId, b.mois)

/-- The settings of `A`. -/
def Store.reglages (s : Store) (A : ProprietaireId) : Reglages where
  systeme := {id | ∃ c ∈ s.category, c.id = id ∧ c.ownerId = none}
  categories := s.category.view (Category.De A) Category.id Category.fiche
  enveloppes := s.enveloppe.view (Enveloppe.De A) Enveloppe.id Enveloppe.fiche
  budgets := s.budgets.view (Budget.De A) Budget.objet Budget.montantPrevuCents
  jour := (s.preferencesUtilisateur.find? A).map PreferencesRow.jourDebutMois

/-- The budgets of a user are on the categories of the system and on one's own. -/
def Store.BudgetsAccessibles (s : Store) : Prop :=
  ∀ b ∈ s.budgets, ∀ c ∈ s.category, c.id = b.categoryId →
    c.ownerId = none ∨ c.ownerId = some b.ownerId

section Tables

variable {s : Store} {A : ProprietaireId}

/-- The budgets of an owner are indexed by their category and month. -/
theorem Store.Integre.indexedBudgets (h : s.Integre) (A : ProprietaireId) :
    s.budgets.IndexedBy (Budget.De A) Budget.objet := by
  intro b hb b' hb' hA hA' hobjet
  have howner : b.ownerId = b'.ownerId :=
    (of_decide_eq_true hA).trans (of_decide_eq_true hA').symm
  have hobjet : b.categoryId = b'.categoryId ∧ b.mois = b'.mois := Prod.mk.inj hobjet
  exact h.budgetUnique b hb b' hb' howner hobjet.1 hobjet.2

end Tables

section Effects

variable {col : Collation} {x : ChoixSql} {s s' : Store} {r : Requete} {v : r.Reponse}
  {A : ProprietaireId}

/-- A statement of a run keeps the constraints. -/
theorem Store.Integre.effet (h : s.Integre) (heffet : r.effet col x s = .ok (v, s'))
    (hr : ∀ id f, r ≠ .compte (.poserEmpreinte id f)) : s'.Integre where
  compteUnique := h.compteUnique_effet heffet hr
  transactionUnique := h.transactionUnique_effet heffet
  budgetUnique := h.budgetUnique_effet heffet
  enveloppeUnique := h.enveloppeUnique_effet heffet
  compteConsent := h.compteConsent_effet heffet hr
  balanceCompte := h.balanceCompte_effet heffet
  transactionCompte := h.transactionCompte_effet heffet
  transactionCategorie := h.transactionCategorie_effet heffet
  transactionEnveloppe := h.transactionEnveloppe_effet heffet
  regleCategorie := h.regleCategorie_effet heffet
  budgetCategorie := h.budgetCategorie_effet heffet

/-- A budget stays on a category that its owner may use. -/
theorem Store.BudgetsAccessibles.effet (h : s.BudgetsAccessibles) (hi : s.Integre)
    (heffet : r.effet col x s = .ok (v, s')) : s'.BudgetsAccessibles := by
  intro b hb c hc hid
  have hancienne : ∃ c₀ ∈ s.category, c₀.id = b.categoryId ∧
      (c₀.ownerId = none ∨ c₀.ownerId = some b.ownerId) := by
    rcases budget_effet heffet hb with ⟨b₀, hb₀, hcategory, howner⟩ | ⟨c₀, hc₀, hid₀, howner⟩
    · obtain ⟨c₀, hc₀, hid₀⟩ := hi.budgetCategorie b₀ hb₀
      refine ⟨c₀, hc₀, hid₀.trans hcategory.symm, ?_⟩
      rw [howner]
      exact h b₀ hb₀ c₀ hc₀ hid₀
    · exact ⟨c₀, hc₀, hid₀, howner.symm⟩
  obtain ⟨c₀, hc₀, hid₀, howner⟩ := hancienne
  rcases categorie_effet_cases heffet hc₀ with ⟨c₁, hc₁, hid₁, howner₁⟩ | ⟨-, -, hgone⟩
  · have heq : c = c₁ := Table.eq_of_key_eq hc hc₁ (hid.trans (hid₀.symm.trans hid₁.symm))
    rw [heq, howner₁]
    exact howner
  · exact absurd hid₀.symm (hgone b hb)

/-- The categories of the system stay as they are seeded. -/
theorem systeme_effet (heffet : r.effet col x s = .ok (v, s')) {c : Category}
    (hc : c.ownerId = none) : c ∈ s'.category ↔ c ∈ s.category := by
  by_cases hw : NomTable.category ∈ r.ecrit
  swap
  · exact (pareil_effet heffet hw : s'.category = s.category) ▸ Iff.rfl
  rcases r with r | r | r | r <;> cases r <;> try simp at hw
  case classement.creerCategorie owner name kind color icon =>
    obtain ⟨t, ht, -, rfl⟩ := by simpa [Requete.effet, RequeteClassement.effet] using heffet
    exact Table.mem_insert_outside (P := fun c => c.ownerId = none) ht
      (Option.some_ne_none owner) hc
  case classement.mettreAJourCategorie name kind color icon id owner =>
    obtain ⟨-, rfl⟩ := by simpa [Requete.effet, RequeteClassement.effet] using heffet
    refine Table.mem_update_outside (P := fun c => c.ownerId = none) rfl (fun c _ hp => ?_) hc
    have howner : c.ownerId = some owner := by simpa using (Bool.and_eq_true_iff.1 hp).2
    simp [howner]
  case classement.supprimerCategorie id owner =>
    obtain ⟨-, rfl⟩ := by simpa [Requete.effet, RequeteClassement.effet] using heffet
    refine Table.mem_delete_outside (P := fun c => c.ownerId = none) (fun c _ hp => ?_) hc
    have howner : c.ownerId = some owner := by simpa using (Bool.and_eq_true_iff.1 hp).2
    simp [howner]

/-! ## What a statement makes of the settings -/

/-- No statement changes the categories of the system. -/
theorem systeme_reglages (heffet : r.effet col x s = .ok (v, s')) (A : ProprietaireId) :
    (s'.reglages A).systeme = (s.reglages A).systeme := by
  apply Set.ext
  intro id
  constructor
  · rintro ⟨c, hc, hid, howner⟩
    exact ⟨c, (systeme_effet heffet howner).1 hc, hid, howner⟩
  · rintro ⟨c, hc, hid, howner⟩
    exact ⟨c, (systeme_effet heffet howner).2 hc, hid, howner⟩

/-- The settings are those of four tables. -/
theorem Store.reglages_congr (hcategory : s'.category = s.category)
    (henveloppe : s'.enveloppe = s.enveloppe) (hbudgets : s'.budgets = s.budgets)
    (hpreferences : s'.preferencesUtilisateur = s.preferencesUtilisateur) (A : ProprietaireId) :
    s'.reglages A = s.reglages A := by
  unfold Store.reglages
  rw [hcategory, henveloppe, hbudgets, hpreferences]

/-- A statement on other tables leaves the settings. -/
theorem reglages_pareil (heffet : r.effet col x s = .ok (v, s'))
    (hcategory : NomTable.category ∉ r.ecrit) (henveloppe : NomTable.enveloppe ∉ r.ecrit)
    (hbudgets : NomTable.budgets ∉ r.ecrit)
    (hpreferences : NomTable.preferencesUtilisateur ∉ r.ecrit) (A : ProprietaireId) :
    s'.reglages A = s.reglages A := by
  have h₁ : s'.category = s.category := pareil_effet heffet hcategory
  have h₂ : s'.enveloppe = s.enveloppe := pareil_effet heffet henveloppe
  have h₃ : s'.budgets = s.budgets := pareil_effet heffet hbudgets
  have h₄ : s'.preferencesUtilisateur = s.preferencesUtilisateur :=
    pareil_effet heffet hpreferences
  exact Store.reglages_congr h₁ h₂ h₃ h₄ A

/-- The settings of `A` become `σ`, and the others keep theirs. -/
def Store.Regle (s s' : Store) (A : ProprietaireId) (σ : Reglages) : Prop :=
  s'.reglages A = σ ∧ ∀ B, B ≠ A → s'.reglages B = s.reglages B

section OneTable

variable {A : ProprietaireId} (hsysteme : ∀ B, (s'.reglages B).systeme = (s.reglages B).systeme)
  (hpreferences : s'.preferencesUtilisateur = s.preferencesUtilisateur)

include hsysteme hpreferences

/-- Only the categories of `A` changed. -/
theorem Store.Regle.of_categories {m : CategoryId → Option FicheCategorie}
    (henveloppe : s'.enveloppe = s.enveloppe) (hbudgets : s'.budgets = s.budgets)
    (hposee : s'.category.view (Category.De A) Category.id Category.fiche = m)
    (hautres : ∀ B, B ≠ A → ∀ c, Category.De B c = true → (c ∈ s'.category ↔ c ∈ s.category)) :
    s.Regle s' A { s.reglages A with categories := m } := by
  have hrow : ∀ B, (s'.reglages B).enveloppes = (s.reglages B).enveloppes ∧
      (s'.reglages B).budgets = (s.reglages B).budgets ∧
        (s'.reglages B).jour = (s.reglages B).jour := by
    intro B
    unfold Store.reglages
    rw [henveloppe, hbudgets, hpreferences]
    exact ⟨rfl, rfl, rfl⟩
  constructor
  · exact Reglages.ext (hsysteme A) hposee (hrow A).1 (hrow A).2.1 (hrow A).2.2
  · intro B hB
    have hcategories : (s'.reglages B).categories = (s.reglages B).categories :=
      Table.view_congr (Table.indexedBy_key _ _) (Table.indexedBy_key _ _) (hautres B hB)
    exact Reglages.ext (hsysteme B) hcategories (hrow B).1 (hrow B).2.1 (hrow B).2.2

/-- Only the envelopes of `A` changed. -/
theorem Store.Regle.of_enveloppes {m : EnveloppeId → Option FicheEnveloppe}
    (hcategory : s'.category = s.category) (hbudgets : s'.budgets = s.budgets)
    (hposee : s'.enveloppe.view (Enveloppe.De A) Enveloppe.id Enveloppe.fiche = m)
    (hautres : ∀ B, B ≠ A → ∀ e, Enveloppe.De B e = true → (e ∈ s'.enveloppe ↔ e ∈ s.enveloppe)) :
    s.Regle s' A { s.reglages A with enveloppes := m } := by
  have hrow : ∀ B, (s'.reglages B).categories = (s.reglages B).categories ∧
      (s'.reglages B).budgets = (s.reglages B).budgets ∧
        (s'.reglages B).jour = (s.reglages B).jour := by
    intro B
    unfold Store.reglages
    rw [hcategory, hbudgets, hpreferences]
    exact ⟨rfl, rfl, rfl⟩
  constructor
  · exact Reglages.ext (hsysteme A) (hrow A).1 hposee (hrow A).2.1 (hrow A).2.2
  · intro B hB
    have henveloppes : (s'.reglages B).enveloppes = (s.reglages B).enveloppes :=
      Table.view_congr (Table.indexedBy_key _ _) (Table.indexedBy_key _ _) (hautres B hB)
    exact Reglages.ext (hsysteme B) (hrow B).1 henveloppes (hrow B).2.1 (hrow B).2.2

/-- Only the budgets of `A` changed. -/
theorem Store.Regle.of_budgets (hi : s.Integre) (hi' : s'.Integre)
    {m : CategoryId × NaiveDate → Option ℤ} (hcategory : s'.category = s.category)
    (henveloppe : s'.enveloppe = s.enveloppe)
    (hposee : s'.budgets.view (Budget.De A) Budget.objet Budget.montantPrevuCents = m)
    (hautres : ∀ B, B ≠ A → ∀ b, Budget.De B b = true → (b ∈ s'.budgets ↔ b ∈ s.budgets)) :
    s.Regle s' A { s.reglages A with budgets := m } := by
  have hrow : ∀ B, (s'.reglages B).categories = (s.reglages B).categories ∧
      (s'.reglages B).enveloppes = (s.reglages B).enveloppes ∧
        (s'.reglages B).jour = (s.reglages B).jour := by
    intro B
    unfold Store.reglages
    rw [hcategory, henveloppe, hpreferences]
    exact ⟨rfl, rfl, rfl⟩
  constructor
  · exact Reglages.ext (hsysteme A) (hrow A).1 (hrow A).2.1 hposee (hrow A).2.2
  · intro B hB
    have hbudgets : (s'.reglages B).budgets = (s.reglages B).budgets :=
      Table.view_congr (hi.indexedBudgets B) (hi'.indexedBudgets B) (hautres B hB)
    exact Reglages.ext (hsysteme B) (hrow B).1 (hrow B).2.1 hbudgets (hrow B).2.2

end OneTable

section Categories

variable {owner : ProprietaireId} {id : CategoryId} {name color icon : String}
  {kind : CategoryKind}

/-- An owner has no category under an identifier when no row of this owner has it. -/
theorem categories_eq_none :
    (s.reglages owner).categories id = none ↔
      ∀ c ∈ s.category, c.ownerId = some owner → c.id ≠ id := by
  show s.category.view _ _ _ id = none ↔ _
  rw [Table.view_eq_none]
  simp [Category.De]

/-- A category of a user that is updated or deleted does not concern the others. -/
theorem vise_autre {c : Category} (hvise : (c.id = id && c.ownerId = some owner : Bool) = true)
    (hA : A ≠ owner) : ¬ c.De A = true := by
  have howner : c.ownerId = some owner := by simpa using (Bool.and_eq_true_iff.1 hvise).2
  intro hDe
  exact hA (Option.some.inj ((of_decide_eq_true hDe).symm.trans howner))

/-- The creation of a category adds its record under a new identifier. -/
theorem reglages_creerCategorie {c : Category}
    (heffet : (Requete.classement (.creerCategorie owner name kind color icon)).effet col x s =
      .ok (c, s')) :
    c.fiche = ⟨name, kind, color, icon⟩ ∧ (∀ c' ∈ s.category, c'.id ≠ c.id) ∧
      s.Regle s' owner ((s.reglages owner).poserCategorie c.id c.fiche) := by
  have hsysteme := systeme_reglages heffet
  obtain ⟨t, ht, rfl, rfl⟩ := by simpa [Requete.effet, RequeteClassement.effet] using heffet
  refine ⟨rfl, (Table.insert_eq_some.1 ht).1, ?_⟩
  apply Store.Regle.of_categories hsysteme rfl rfl rfl
  · exact Table.view_insert (Table.indexedBy_key _ _) (Table.indexedBy_key _ _) ht
      (by simp [Category.De])
  · intro B hB c hc
    apply Table.mem_insert_outside (P := fun c => Category.De B c = true) ht _ hc
    simpa [Category.De] using hB.symm

/-- The settings of everybody stay. -/
theorem Store.Regle.of_eq (h : s' = s) : s.Regle s' owner (s.reglages owner) := by
  rw [h]
  exact ⟨rfl, fun _ _ => rfl⟩

/-- An update that finds no category of the owner changes nothing. -/
theorem reglages_mettreAJourCategorie_none
    (heffet : (Requete.classement (.mettreAJourCategorie name kind color icon id owner)).effet
      col x s = .ok (none, s')) :
    (s.reglages owner).categories id = none ∧ s.Regle s' owner (s.reglages owner) := by
  simp only [Requete.effet, RequeteClassement.effet, Except.ok.injEq, Prod.mk.injEq] at heffet
  obtain ⟨hnone, rfl⟩ := heffet
  rw [Table.filter_find?_update, Option.map_eq_none_iff, Table.filter_find?_eq_none] at hnone
  · refine ⟨categories_eq_none.2 fun c hc howner hid => ?_, Store.Regle.of_eq ?_⟩
    · have hvise := hnone c hc
      simp [hid, howner] at hvise
    · rw [Table.update_eq_self fun c hc hvise => absurd hvise (by simp [hnone c hc])]
  · simp +contextual
  · exact fun _ => rfl

/-- An update that finds a category of the owner replaces its record. -/
theorem reglages_mettreAJourCategorie_some {c : Category}
    (heffet : (Requete.classement (.mettreAJourCategorie name kind color icon id owner)).effet
      col x s = .ok (some c, s')) :
    c.id = id ∧ c.fiche = ⟨name, kind, color, icon⟩ ∧ (s.reglages owner).categories id ≠ none ∧
      s.Regle s' owner ((s.reglages owner).poserCategorie id c.fiche) := by
  have hsysteme := systeme_reglages heffet
  simp only [Requete.effet, RequeteClassement.effet, Except.ok.injEq, Prod.mk.injEq] at heffet
  obtain ⟨hsome, rfl⟩ := heffet
  rw [Table.filter_find?_update] at hsome
  swap
  · exact fun _ => rfl
  obtain ⟨c₀, hfound, rfl⟩ := Option.map_eq_some_iff.1 hsome
  obtain ⟨hfind, hvise⟩ := Option.filter_eq_some_iff.1 hfound
  obtain ⟨hc₀, hid⟩ := Table.find?_eq_some.1 hfind
  have howner : c₀.ownerId = some owner := by simpa using (Bool.and_eq_true_iff.1 hvise).2
  have hpresent : (s.reglages owner).categories id ≠ none :=
    Table.view_ne_none.2 ⟨c₀, hc₀, by simp [Category.De, howner], hid⟩
  refine ⟨hid, rfl, hpresent, ?_⟩
  apply Store.Regle.of_categories hsysteme rfl rfl rfl
  · apply Table.view_update_of_ne_none (Table.indexedBy_key _ _) hpresent
    · intro c _
      simp [Category.De, and_comm]
    · exact fun _ => ⟨rfl, rfl⟩
    · exact fun _ => rfl
    · exact fun _ => rfl
  · intro B hB c hc
    refine Table.mem_update_outside (P := fun c => Category.De B c = true) rfl ?_ hc
    intro c _ hvise
    exact ⟨vise_autre hvise hB, vise_autre hvise hB⟩

/-- A deletion that finds no category of the owner changes nothing. -/
theorem reglages_supprimerCategorie_absente
    (heffet : (Requete.classement (.supprimerCategorie id owner)).effet col x s = .ok (0, s')) :
    (s.reglages owner).categories id = none ∧ s.Regle s' owner (s.reglages owner) := by
  simp only [Requete.effet, RequeteClassement.effet, Except.ok.injEq, Prod.mk.injEq,
    Table.count_eq_zero] at heffet
  obtain ⟨habsente, rfl⟩ := heffet
  refine ⟨categories_eq_none.2 fun c hc howner hid => ?_, ?_⟩
  · have hvise := habsente c hc
    simp [hid, howner] at hvise
  · have hnulle : ∀ i, (s.category.any fun c =>
        c.id = i && (c.id = id && c.ownerId = some owner : Bool)) = false := by
      intro i
      apply Table.any_eq_false.2
      intro c hc
      rw [habsente c hc, Bool.and_false]
    have hregles : ∀ A, (s.supprimerCategories fun c =>
        c.id = id && c.ownerId = some owner).reglages A = s.reglages A := by
      intro A
      apply Store.reglages_congr
      · exact Table.delete_eq_self habsente
      · rfl
      · exact Table.delete_eq_self fun b _ => hnulle b.categoryId
      · rfl
    exact ⟨hregles owner, fun B _ => hregles B⟩

/-- A deletion that finds a category of the owner removes it with its budgets. -/
theorem reglages_supprimerCategorie (hacces : s.BudgetsAccessibles) {lignes : ℕ}
    (hi : s.Integre) (hlignes : 0 < lignes)
    (heffet : (Requete.classement (.supprimerCategorie id owner)).effet col x s =
      .ok (lignes, s')) :
    (s.reglages owner).categories id ≠ none ∧
      s.Regle s' owner ((s.reglages owner).retirerCategorie id) := by
  have hsysteme := systeme_reglages heffet
  simp only [Requete.effet, RequeteClassement.effet, Except.ok.injEq, Prod.mk.injEq] at heffet
  obtain ⟨rfl, rfl⟩ := heffet
  obtain ⟨c₀, hc₀, hvise⟩ := Table.count_pos.1 hlignes
  obtain ⟨hid, howner⟩ : c₀.id = id ∧ c₀.ownerId = some owner := by simpa using hvise
  have hsupprime : ∀ i, (s.category.any fun c =>
      c.id = i && (c.id = id && c.ownerId = some owner : Bool)) = true ↔ i = id := by
    intro i
    rw [Table.any_eq_true]
    constructor
    · rintro ⟨c, -, hc⟩
      simp only [Bool.and_eq_true, decide_eq_true_eq] at hc
      exact hc.1.symm.trans hc.2.1
    · rintro rfl
      exact ⟨c₀, hc₀, by simp [hid, howner]⟩
  refine ⟨Table.view_ne_none.2 ⟨c₀, hc₀, by simp [Category.De, howner], hid⟩, ?_, ?_⟩
  · apply Reglages.ext
    · exact hsysteme owner
    · apply Table.view_delete (Table.indexedBy_key _ _)
      intro c _ hDe
      have hDe : c.ownerId = some owner := of_decide_eq_true hDe
      simp [hDe]
    · rfl
    · apply Table.view_delete (P := fun k => k.1 = id) (hi.indexedBudgets owner)
      intro b _ _
      exact hsupprime b.categoryId
    · rfl
  · intro B hB
    apply Reglages.ext
    · exact hsysteme B
    · apply Table.view_congr (Table.indexedBy_key _ _) (Table.indexedBy_key _ _)
      intro c hc
      refine Table.mem_delete_outside (P := fun c => Category.De B c = true) ?_ hc
      intro c _ hvise
      exact vise_autre hvise hB
    · rfl
    · have hreste : ∀ b, Budget.De B b = true →
          (b ∈ s.budgets.delete (fun b => s.category.any fun c =>
            c.id = b.categoryId && (c.id = id && c.ownerId = some owner : Bool)) ↔
              b ∈ s.budgets) := by
        intro b hb
        refine Table.mem_delete_outside (P := fun b => Budget.De B b = true) ?_ hb
        intro b hb hvise hDe
        -- the category is of `owner`, so a budget of `B` cannot be on it
        rcases hacces b hb c₀ hc₀ (hid.trans ((hsupprime _).1 hvise).symm) with hnone | hsome
        · cases howner.symm.trans hnone
        · exact hB ((of_decide_eq_true hDe).symm.trans (Option.some.inj (hsome.symm.trans howner)))
      apply Table.view_congr (hi.indexedBudgets B) _ hreste
      intro b hb b' hb'
      exact hi.indexedBudgets B b (Table.mem_delete.1 hb).1 b' (Table.mem_delete.1 hb').1
    · rfl

end Categories

section Budgets

variable {owner : ProprietaireId} {category : CategoryId} {montant : ℤ} {mois : NaiveDate}

/-- The categories within reach in the settings are those within reach in the store. -/
theorem accessible_reglages :
    (s.reglages owner).Accessible category ↔
      ∃ c ∈ s.category, c.id = category ∧ (c.ownerId = some owner ∨ c.ownerId = none) := by
  unfold Reglages.Accessible
  constructor
  · rintro (⟨c, hc, hid, hnone⟩ | hpresent)
    · exact ⟨c, hc, hid, .inr hnone⟩
    · obtain ⟨c, hc, hDe, hid⟩ := Table.view_ne_none.1 hpresent
      exact ⟨c, hc, hid, .inl (of_decide_eq_true hDe)⟩
  · rintro ⟨c, hc, hid, howner | hnone⟩
    · exact .inr (Table.view_ne_none.2 ⟨c, hc, by simp [Category.De, howner], hid⟩)
    · exact .inl ⟨c, hc, hid, hnone⟩

/-- A budget on a category out of reach is refused and changes nothing. -/
theorem reglages_enregistrerBudget_none
    (heffet : (Requete.classement (.enregistrerBudget owner category montant mois)).effet col x s =
      .ok (none, s')) :
    ¬ (s.reglages owner).Accessible category ∧ s.Regle s' owner (s.reglages owner) := by
  simp only [Requete.effet, RequeteClassement.effet] at heffet
  split at heffet
  · obtain ⟨-, heffet⟩ := exiger_eq_ok.1 heffet
    split at heffet
    · rename_i hvise
      simp only [Except.ok.injEq, Prod.mk.injEq] at heffet
      obtain ⟨b, hb, hcond⟩ := Table.any_eq_true.1 hvise
      have hmem := List.eq_nil_iff_forall_not_mem.1 (List.head?_eq_none_iff.1 heffet.1)
        { b with montantPrevuCents := montant, updatedAt := x.maintenant }
      rw [Table.mem_select, Table.mem_update] at hmem
      exact absurd ⟨⟨b, hb, (if_pos hcond).symm⟩, hcond⟩ hmem
    · obtain ⟨t, -, heffet⟩ := cleLibre_eq_ok.1 heffet
      simp at heffet
  · rename_i habsente
    obtain ⟨-, rfl⟩ := lire_eq_ok.1 heffet
    refine ⟨?_, Store.Regle.of_eq rfl⟩
    rw [accessible_reglages]
    rintro ⟨c, hc, hid, howner⟩
    apply habsente
    exact Table.any_eq_true.2 ⟨c, hc, by simpa [hid] using howner⟩

/-- A budget on a category within reach is kept, the amount replacing an earlier one. -/
theorem reglages_enregistrerBudget_some (hi : s.Integre) (hi' : s'.Integre) {b : Budget}
    (heffet : (Requete.classement (.enregistrerBudget owner category montant mois)).effet col x s =
      .ok (some b, s')) :
    (s.reglages owner).Accessible category ∧ b.ownerId = owner ∧ b.objet = (category, mois) ∧
      b.montantPrevuCents = montant ∧
      s.Regle s' owner ((s.reglages owner).poserBudget (category, mois) montant) := by
  have hsysteme := systeme_reglages heffet
  simp only [Requete.effet, RequeteClassement.effet] at heffet
  split at heffet
  swap
  · cases (lire_eq_ok.1 heffet).1
  rename_i hcategory
  have hacces : (s.reglages owner).Accessible category := by
    obtain ⟨c, hc, hcond⟩ := Table.any_eq_true.1 hcategory
    refine accessible_reglages.2 ⟨c, hc, ?_⟩
    simpa using hcond
  obtain ⟨-, heffet⟩ := exiger_eq_ok.1 heffet
  refine ⟨hacces, ?_⟩
  split at heffet
  · rename_i hvise
    simp only [Except.ok.injEq, Prod.mk.injEq] at heffet
    obtain ⟨hhead, rfl⟩ := heffet
    obtain ⟨hb, hcond⟩ := Table.mem_select.1 (List.mem_of_mem_head? hhead)
    obtain ⟨b₀, hb₀, hrow⟩ := Table.mem_update.1 hb
    -- the row is one that the update touched, since it still satisfies the condition
    have hcond₀ : (b₀.ownerId = owner && b₀.categoryId = category && b₀.mois = mois : Bool) =
        true := by
      by_contra hnot
      rw [if_neg hnot] at hrow
      rw [hrow] at hcond
      exact hnot hcond
    rw [if_pos hcond₀] at hrow
    obtain ⟨⟨rfl, rfl⟩, rfl⟩ : (b₀.ownerId = owner ∧ b₀.categoryId = category) ∧
        b₀.mois = mois := by simpa using hcond₀
    refine ⟨by rw [hrow], by rw [hrow]; rfl, by rw [hrow], ?_⟩
    apply Store.Regle.of_budgets hsysteme rfl hi hi' rfl rfl
    · have hpresent : (s.reglages b₀.ownerId).budgets b₀.objet ≠ none :=
        Table.view_ne_none.2 ⟨b₀, hb₀, by simp [Budget.De], rfl⟩
      apply Table.view_update_of_ne_none (hi.indexedBudgets b₀.ownerId) hpresent
      · intro b _
        simp [Budget.De, Budget.objet, and_assoc]
      · exact fun _ => ⟨rfl, rfl⟩
      · exact fun _ => rfl
      · exact fun _ => rfl
    · intro B hB b hb
      refine Table.mem_update_outside (P := fun b => Budget.De B b = true) rfl ?_ hb
      intro b _ hvise
      simp only [Bool.and_eq_true, decide_eq_true_eq] at hvise
      have hautre : ¬ b.ownerId = B := fun h => hB (h.symm.trans hvise.1.1)
      exact ⟨by simpa [Budget.De] using hautre, by simpa [Budget.De] using hautre⟩
  · rename_i hvise
    obtain ⟨t, ht, heffet⟩ := cleLibre_eq_ok.1 heffet
    simp only [Except.ok.injEq, Prod.mk.injEq, Option.some.injEq] at heffet
    obtain ⟨rfl, rfl⟩ := heffet
    refine ⟨rfl, rfl, rfl, ?_⟩
    apply Store.Regle.of_budgets hsysteme rfl hi hi' rfl rfl
    · exact Table.view_insert (hi.indexedBudgets owner) (hi'.indexedBudgets owner) ht
        (by simp [Budget.De])
    · intro B hB b hb
      apply Table.mem_insert_outside (P := fun b => Budget.De B b = true) ht _ hb
      simpa [Budget.De] using hB.symm

end Budgets

section Enveloppes

variable {owner : ProprietaireId} {id : EnveloppeId} {nom icon color : String} {montant : ℤ}

/-- An owner has no envelope under an identifier when no row of this owner has it. -/
theorem enveloppes_eq_none :
    (s.reglages owner).enveloppes id = none ↔
      ∀ e ∈ s.enveloppe, e.proprietaire = owner → e.id ≠ id := by
  show s.enveloppe.view _ _ _ id = none ↔ _
  rw [Table.view_eq_none]
  simp [Enveloppe.De]

/-- A name free in the store is free in the settings. -/
theorem not_nomPris {sauf : EnveloppeId → Bool} (hsauf : ∀ i, sauf i = true → i = id)
    (hlibre : RequeteClassement.nomLibre s owner nom sauf = true) :
    ¬ (s.reglages owner).NomPris nom id := by
  rintro ⟨i, fiche, hne, hfiche, rfl⟩
  obtain ⟨e, he, hDe, rfl, rfl⟩ := (Table.view_eq_some (Table.indexedBy_key _ _)).1 hfiche
  unfold RequeteClassement.nomLibre at hlibre
  rw [Bool.not_eq_true', Table.any_eq_false] at hlibre
  have hrow := hlibre e he
  have howner : e.proprietaire = owner := of_decide_eq_true hDe
  have hautre : sauf e.id = false := by
    by_contra h
    exact hne (hsauf e.id (by simpa using h))
  simp [howner, hautre, Enveloppe.fiche] at hrow

/-- An envelope of a user that is updated or deleted does not concern the others. -/
theorem vise_enveloppe_autre {e : Enveloppe}
    (hvise : (e.id = id && e.proprietaire = owner : Bool) = true) (hA : A ≠ owner) :
    ¬ e.De A = true := by
  have howner : e.proprietaire = owner := by simpa using (Bool.and_eq_true_iff.1 hvise).2
  intro hDe
  exact hA ((of_decide_eq_true hDe).symm.trans howner)

/-- The creation of an envelope adds its record under a new identifier. -/
theorem reglages_creerEnveloppe {e : Enveloppe}
    (heffet : (Requete.classement (.creerEnveloppe owner nom icon color montant)).effet col x s =
      .ok (e, s')) :
    e.fiche = ⟨nom, icon, color, montant⟩ ∧ (s.reglages owner).enveloppes e.id = none ∧
      ¬ (s.reglages owner).NomPris nom e.id ∧
      s.Regle s' owner ((s.reglages owner).poserEnveloppe e.id e.fiche) := by
  have hsysteme := systeme_reglages heffet
  simp only [Requete.effet, RequeteClassement.effet] at heffet
  obtain ⟨-, heffet⟩ := exiger_eq_ok.1 heffet
  obtain ⟨hlibre, heffet⟩ := exiger_eq_ok.1 heffet
  obtain ⟨t, ht, heffet⟩ := cleLibre_eq_ok.1 heffet
  simp only [Except.ok.injEq, Prod.mk.injEq] at heffet
  obtain ⟨rfl, rfl⟩ := heffet
  refine ⟨rfl, ?_, not_nomPris (by simp) hlibre, ?_⟩
  · apply enveloppes_eq_none.2
    intro e he _
    exact (Table.insert_eq_some.1 ht).1 e he
  · apply Store.Regle.of_enveloppes hsysteme rfl rfl rfl
    · exact Table.view_insert (Table.indexedBy_key _ _) (Table.indexedBy_key _ _) ht
        (by simp [Enveloppe.De])
    · intro B hB e he
      apply Table.mem_insert_outside (P := fun e => Enveloppe.De B e = true) ht _ he
      simpa [Enveloppe.De] using hB.symm

/-- An update that finds no envelope of the owner changes nothing. -/
theorem reglages_modifierEnveloppe_none
    (heffet : (Requete.classement (.modifierEnveloppe id owner nom icon color montant)).effet
      col x s = .ok (none, s')) :
    (s.reglages owner).enveloppes id = none ∧ s.Regle s' owner (s.reglages owner) := by
  simp only [Requete.effet, RequeteClassement.effet] at heffet
  split at heffet
  · rename_i hvise
    obtain ⟨-, heffet⟩ := exiger_eq_ok.1 heffet
    obtain ⟨-, heffet⟩ := exiger_eq_ok.1 heffet
    simp only [Except.ok.injEq, Prod.mk.injEq] at heffet
    have hnone := heffet.1
    rw [Table.filter_find?_update, Option.map_eq_none_iff, Table.filter_find?_eq_none] at hnone
    · obtain ⟨e, he, hcond⟩ := Table.any_eq_true.1 hvise
      rw [hnone e he] at hcond
      cases hcond
    · simp +contextual
    · exact fun _ => rfl
  · rename_i habsente
    obtain ⟨-, rfl⟩ := lire_eq_ok.1 heffet
    refine ⟨enveloppes_eq_none.2 fun e he howner hid => habsente ?_, Store.Regle.of_eq rfl⟩
    exact Table.any_eq_true.2 ⟨e, he, by simp [hid, howner]⟩

/-- An update that finds an envelope of the owner replaces its record. -/
theorem reglages_modifierEnveloppe_some {e : Enveloppe}
    (heffet : (Requete.classement (.modifierEnveloppe id owner nom icon color montant)).effet
      col x s = .ok (some e, s')) :
    e.id = id ∧ e.fiche = ⟨nom, icon, color, montant⟩ ∧
      (s.reglages owner).enveloppes id ≠ none ∧ ¬ (s.reglages owner).NomPris nom id ∧
      s.Regle s' owner ((s.reglages owner).poserEnveloppe id e.fiche) := by
  have hsysteme := systeme_reglages heffet
  simp only [Requete.effet, RequeteClassement.effet] at heffet
  split at heffet
  swap
  · cases (lire_eq_ok.1 heffet).1
  obtain ⟨-, heffet⟩ := exiger_eq_ok.1 heffet
  obtain ⟨hlibre, heffet⟩ := exiger_eq_ok.1 heffet
  simp only [Except.ok.injEq, Prod.mk.injEq] at heffet
  obtain ⟨hsome, rfl⟩ := heffet
  rw [Table.filter_find?_update] at hsome
  swap
  · exact fun _ => rfl
  obtain ⟨e₀, hfound, rfl⟩ := Option.map_eq_some_iff.1 hsome
  obtain ⟨hfind, hvise⟩ := Option.filter_eq_some_iff.1 hfound
  obtain ⟨he₀, hid⟩ := Table.find?_eq_some.1 hfind
  have howner : e₀.proprietaire = owner := by simpa using (Bool.and_eq_true_iff.1 hvise).2
  have hpresent : (s.reglages owner).enveloppes id ≠ none :=
    Table.view_ne_none.2 ⟨e₀, he₀, by simp [Enveloppe.De, howner], hid⟩
  refine ⟨hid, rfl, hpresent, not_nomPris (fun i hi => by simpa using hi) hlibre, ?_⟩
  apply Store.Regle.of_enveloppes hsysteme rfl rfl rfl
  · apply Table.view_update_of_ne_none (Table.indexedBy_key _ _) hpresent
    · intro e _
      simp [Enveloppe.De, and_comm]
    · exact fun _ => ⟨rfl, rfl⟩
    · exact fun _ => rfl
    · exact fun _ => rfl
  · intro B hB e he
    refine Table.mem_update_outside (P := fun e => Enveloppe.De B e = true) rfl ?_ he
    intro e _ hvise
    exact ⟨vise_enveloppe_autre hvise hB, vise_enveloppe_autre hvise hB⟩

/-- A deletion that finds no envelope of the owner changes nothing. -/
theorem reglages_supprimerEnveloppe_absente
    (heffet : (Requete.classement (.supprimerEnveloppe id owner)).effet col x s = .ok (0, s')) :
    (s.reglages owner).enveloppes id = none ∧ s.Regle s' owner (s.reglages owner) := by
  simp only [Requete.effet, RequeteClassement.effet, Except.ok.injEq, Prod.mk.injEq,
    Table.count_eq_zero] at heffet
  obtain ⟨habsente, rfl⟩ := heffet
  refine ⟨enveloppes_eq_none.2 fun e he howner hid => ?_, ?_⟩
  · have hvise := habsente e he
    simp [hid, howner] at hvise
  · have hregles : ∀ A, (s.supprimerEnveloppes fun e =>
        e.id = id && e.proprietaire = owner).reglages A = s.reglages A := by
      intro A
      apply Store.reglages_congr
      · rfl
      · exact Table.delete_eq_self habsente
      · rfl
      · rfl
    exact ⟨hregles owner, fun B _ => hregles B⟩

/-- A deletion that finds an envelope of the owner removes it. -/
theorem reglages_supprimerEnveloppe {lignes : ℕ} (hlignes : 0 < lignes)
    (heffet : (Requete.classement (.supprimerEnveloppe id owner)).effet col x s =
      .ok (lignes, s')) :
    (s.reglages owner).enveloppes id ≠ none ∧
      s.Regle s' owner ((s.reglages owner).retirerEnveloppe id) := by
  have hsysteme := systeme_reglages heffet
  simp only [Requete.effet, RequeteClassement.effet, Except.ok.injEq, Prod.mk.injEq] at heffet
  obtain ⟨rfl, rfl⟩ := heffet
  obtain ⟨e₀, he₀, hvise⟩ := Table.count_pos.1 hlignes
  obtain ⟨hid, howner⟩ : e₀.id = id ∧ e₀.proprietaire = owner := by simpa using hvise
  refine ⟨Table.view_ne_none.2 ⟨e₀, he₀, by simp [Enveloppe.De, howner], hid⟩, ?_⟩
  apply Store.Regle.of_enveloppes hsysteme rfl rfl rfl
  · apply Table.view_delete (Table.indexedBy_key _ _)
    intro e _ hDe
    have hDe : e.proprietaire = owner := of_decide_eq_true hDe
    simp [hDe]
  · intro B hB e he
    refine Table.mem_delete_outside (P := fun e => Enveloppe.De B e = true) ?_ he
    intro e _ hvise
    exact vise_enveloppe_autre hvise hB

end Enveloppes

/-- The first day chosen is kept. -/
theorem reglages_definirJourDebutMois {owner : ProprietaireId} {jour : ℤ} {u : Unit}
    (heffet : (Requete.classement (.definirJourDebutMois owner jour)).effet col x s =
      .ok (u, s')) :
    s.Regle s' owner ((s.reglages owner).poserJour jour) := by
  have hsysteme := systeme_reglages heffet
  simp only [Requete.effet, RequeteClassement.effet] at heffet
  obtain ⟨-, heffet⟩ := exiger_eq_ok.1 heffet
  split at heffet
  · rename_i t ht
    simp only [Except.ok.injEq, Prod.mk.injEq] at heffet
    obtain ⟨-, rfl⟩ := heffet
    have hlibre : s.preferencesUtilisateur.find? owner = none :=
      Table.find?_eq_none.2 (Table.insert_eq_some.1 ht).1
    have hfind : ∀ A, t.find? A =
        (s.preferencesUtilisateur.find? A).or (if owner = A then some ⟨owner, jour⟩ else none) :=
      fun A => Table.find?_of_insert ht A
    constructor
    · apply Reglages.ext
      · exact hsysteme owner
      · rfl
      · rfl
      · rfl
      · show (t.find? owner).map _ = some jour
        rw [hfind, hlibre, if_pos rfl]
        rfl
    · intro B hB
      apply Reglages.ext
      · exact hsysteme B
      · rfl
      · rfl
      · rfl
      · show (t.find? B).map _ = (s.preferencesUtilisateur.find? B).map _
        rw [hfind, if_neg hB.symm, Option.or_none]
  · rename_i hpris
    simp only [Except.ok.injEq, Prod.mk.injEq] at heffet
    obtain ⟨-, rfl⟩ := heffet
    obtain ⟨p, hp⟩ := Table.find?_of_insert_eq_none hpris
    have hfind : ∀ A, (s.preferencesUtilisateur.update (fun p => p.ownerId = owner)
        (fun p => { p with jourDebutMois := jour }) fun _ => rfl).find? A =
          (s.preferencesUtilisateur.find? A).map fun p =>
            if p.ownerId = owner then { p with jourDebutMois := jour } else p := by
      intro A
      rw [Table.find?_update]
      simp only [decide_eq_true_eq]
    constructor
    · apply Reglages.ext
      · exact hsysteme owner
      · rfl
      · rfl
      · rfl
      · apply (congrArg (Option.map PreferencesRow.jourDebutMois) (hfind owner)).trans
        rw [hp]
        have howner : p.ownerId = owner := (Table.find?_eq_some.1 hp).2
        simp [howner, Reglages.poserJour]
    · intro B hB
      apply Reglages.ext
      · exact hsysteme B
      · rfl
      · rfl
      · rfl
      · apply (congrArg (Option.map PreferencesRow.jourDebutMois) (hfind B)).trans
        rw [Option.map_map]
        apply Option.map_congr
        intro p hp
        have howner : p.ownerId = B := (Table.find?_eq_some.1 hp).2
        simp [howner, hB]

end Effects

end Budgy
