import Budgy.Analysis.CycleAmounts
import Budgy.Analysis.Footprint

/-!
# What remains to be spent

`remaining_budgets` makes its lines from the budgets of the month, or from the medians of the
past ones when there are none.  In both cases each planned amount has its line, the lines are
about distinct categories and are read against one breakdown, so that they add up, and to no
more than it.
-/

set_option autoImplicit false

namespace Budgy

open Effects Grouping Relational

/-! ## What the answer should be -/

section Expected

variable (crypto : CryptoService) (owner : ProprietaireId)

/-- The start day that the preferences of a user give. -/
def Store.jourDebut (s : Store) : JourDebutMois :=
  match (s.preferencesUtilisateur.find? owner).map PreferencesRow.jourDebutMois with
  | none => JourDebutMois.premier
  | some jour => (JourDebutMois.nouveau? (jour % 2 ^ 32).toNat).getD JourDebutMois.premier

/-- What was spent in a category that the user sees. -/
def Store.depenseDe (s : Store) (c : CycleMensuel) (categorie : Uuid) : ℤ :=
  s.montantDuCycle crypto owner c .debit categorie

/-- What was spent in all the categories. -/
def Store.depensesCategorisees (s : Store) (c : CycleMensuel) : ℤ :=
  (((s.retenues crypto owner c .debit).filter fun t => t.categoryId.isSome).map fun t =>
    |t.montant crypto owner|).sum

/-- The budgets that a user set for a month. -/
def Store.budgetsDuMois (s : Store) (mois : Mois) : List Budget :=
  s.budgets.select fun b => b.ownerId = owner && b.mois = mois.premierJour

/-- What was spent in a category in each of the cycles before. -/
def Store.depensesPassees (s : Store) (c : CycleMensuel) (categorie : Uuid) : List ℤ :=
  s.montantsPasses crypto owner c .debit categorie

/-- The answer has a line for a category and a planned amount. -/
def RemainingBudgetDto.Prevoit (dto : RemainingBudgetDto) (categorie : Uuid) (montant : ℤ) : Prop :=
  ∃ l ∈ dto.lignes, l.categoryId = categorie ∧ l.montantPrevuCents = montant

/-- The four amounts of a line agree. -/
structure ResteCategorie.Coherent (l : ResteCategorie) : Prop where
  reste : l.resteCents = l.montantPrevuCents - l.depenseCents
  depassement : l.depassementCents = max 0 (-l.resteCents)
  depasse : l.depasse = true ↔ 0 < l.depassementCents
  deficit : 0 < l.depassementCents ↔ l.resteCents < 0

/-- The answer adds up, has a line for each planned amount, and agrees with the movements of the
cycle. -/
structure RemainingBudgetDto.Exact (s : Store) (dto : RemainingBudgetDto) : Prop where
  /-- The lines are those of the budgets of the month. -/
  budgets : s.budgetsDuMois owner dto.month ≠ [] → ∀ categorie montant,
    dto.Prevoit categorie montant ↔
      ∃ b ∈ s.budgetsDuMois owner dto.month, b.categoryId = categorie ∧
        b.montantPrevuCents = montant
  /-- Without budgets they are those of the medians of the past cycles, when positive. -/
  medianes : s.budgetsDuMois owner dto.month = [] →
    (∀ passe ∈ cyclesPasses ⟨dto.month, s.jourDebut owner⟩,
      s.totalAttendu crypto owner passe .debit ≤ i64Max) → ∀ categorie montant,
    dto.Prevoit categorie montant ↔ 0 < montant ∧
      EstMediane (s.depensesPassees crypto owner ⟨dto.month, s.jourDebut owner⟩ categorie) montant
  categories : (dto.lignes.map ResteCategorie.categoryId).Nodup
  lignes : ∀ l ∈ dto.lignes, l.Coherent
  depenses : ∀ l ∈ dto.lignes,
    l.depenseCents = s.depenseDe crypto owner ⟨dto.month, s.jourDebut owner⟩ l.categoryId
  totalPrevu : dto.montantPrevuCents = (dto.lignes.map ResteCategorie.montantPrevuCents).sum
  totalDepense : dto.depenseCents = (dto.lignes.map ResteCategorie.depenseCents).sum
  totalReste : dto.resteCents = (dto.lignes.map ResteCategorie.resteCents).sum
  borne : dto.depenseCents ≤
    s.depensesCategorisees crypto owner ⟨dto.month, s.jourDebut owner⟩

end Expected

/-! ## The lines -/

section Lines

variable {categories : HashMap Uuid Category} {depenses : HashMap Uuid ℤ} {c : CategoryId}
  {prevu : ℤ}

/-- The line of a category is coherent when what is planned and what is spent are amounts. -/
theorem coherent_resteCategorie (hprevu : 0 ≤ prevu) (hmax : prevu ≤ i64Max)
    (hdepense : 0 ≤ (depenses.lookup c).getD 0) (hborne : (depenses.lookup c).getD 0 ≤ i64Max) :
    (resteCategorie categories depenses c prevu).Coherent := by
  have hreste : EstI64 (prevu - (depenses.lookup c).getD 0) :=
    ⟨by unfold i64Min; unfold i64Max at hborne; omega, by omega⟩
  have hexces : EstI64 ((depenses.lookup c).getD 0 - prevu) :=
    ⟨by unfold i64Min; unfold i64Max at hmax; omega, by omega⟩
  have hr : (resteCategorie categories depenses c prevu).resteCents =
      prevu - (depenses.lookup c).getD 0 := i64_of_estI64 hreste
  have hd : (resteCategorie categories depenses c prevu).depassementCents =
      max ((depenses.lookup c).getD 0 - prevu) 0 := congrArg (max · 0) (i64_of_estI64 hexces)
  have hdepasse : (resteCategorie categories depenses c prevu).depasse = true ↔
      prevu < (depenses.lookup c).getD 0 := decide_eq_true_iff
  refine ⟨hr, ?_, ?_, ?_⟩
  · rw [hr, hd]
    omega
  · rw [hdepasse, hd]
    omega
  · rw [hr, hd]
    omega

variable (categories depenses) in
/-- The lines of an answer are those of planned amounts, none negative, for distinct
categories. -/
structure ProvientDe (prevus : List (CategoryId × ℤ)) (lignes : List ResteCategorie) : Prop where
  distinctes : (prevus.map Prod.fst).Nodup
  positifs : ∀ e ∈ prevus, 0 ≤ e.2
  lignes : lignes.Perm (prevus.map fun e => resteCategorie categories depenses e.1 e.2)

/-- A planned amount has its line, and every line is the one of a planned amount. -/
theorem ProvientDe.prevoit_iff {prevus : List (CategoryId × ℤ)} {lignes : List ResteCategorie}
    (h : ProvientDe categories depenses prevus lignes) {mois : Mois} {categorie : Uuid}
    {montant : ℤ} :
    (RemainingBudgetDto.depuis mois lignes).Prevoit categorie montant ↔
      (categorie, montant) ∈ prevus := by
  constructor
  · rintro ⟨l, hl, rfl, rfl⟩
    obtain ⟨e, he, rfl⟩ := List.mem_map.1 (h.lignes.mem_iff.1 hl)
    exact he
  · intro hmem
    exact ⟨_, h.lignes.mem_iff.2 (List.mem_map_of_mem hmem), rfl, rfl⟩

/-- The lines of the defined budgets come from the budgets. -/
theorem provientDe_budgets (categories : HashMap Uuid Category) (r : RepartitionDepenses)
    {budgets : List Budget}
    (hdistinctes : (budgets.map Budget.categoryId).Nodup)
    (hpositifs : ∀ b ∈ budgets, 0 ≤ b.montantPrevuCents) :
    ProvientDe categories (indexerParCategorie r)
      (budgets.map fun b => (b.categoryId, b.montantPrevuCents))
      (calculerResteADepenser budgets r categories) where
  distinctes := by rwa [List.map_map]
  positifs := List.forall_mem_map.2 hpositifs
  lignes := by
    rw [List.map_map]
    exact perm_sortBy _ _

/-- A median is kept when it is positive. -/
theorem medianesParCategorie_pos {historique : List RepartitionDepenses} {e : CategoryId × ℤ}
    (he : e ∈ (medianesParCategorie historique).liaisons) : 0 < e.2 := by
  obtain ⟨e', -, hmediane⟩ := List.mem_filterMap.1 (mem_of_lookup_collect (mem_liaisons.1 he))
  dsimp only at hmediane
  split_ifs at hmediane with hpositive
  have hvaleur := (Prod.mk.inj (Option.some.inj hmediane)).2
  exact hvaleur ▸ hpositive

/-- The predicted lines come from the medians of the past cycles. -/
theorem provientDe_medianes (categories : HashMap Uuid Category) (r : RepartitionDepenses)
    (historique : List RepartitionDepenses) :
    ProvientDe categories (indexerParCategorie r) (medianesParCategorie historique).liaisons
      (calculerResteADepenserPredit historique r categories) where
  distinctes := nodup_cles _
  positifs _ he := (medianesParCategorie_pos he).le
  lignes := perm_sortBy _ _

end Lines

/-! ## What was spent -/

section Spent

variable {crypto : CryptoService} {owner : ProprietaireId} {s : Store} {c : CycleMensuel}

/-- What was spent in distinct categories is within what was spent in all of them. -/
theorem sum_depenseDe_le {categories : List Uuid} (h : categories.Nodup) :
    (categories.map (s.depenseDe crypto owner c)).sum ≤ s.depensesCategorisees crypto owner c := by
  have hgroupes : (categories.map (s.depenseDe crypto owner c)).sum ≤
      ((categories.map some).map (sumAt BankTransactionRow.categoryId
        (fun t => |t.montant crypto owner|) (s.retenues crypto owner c .debit))).sum := by
    rw [List.map_map]
    exact List.sum_le_sum fun categorie _ => montantDuCycle_le categorie
  refine hgroupes.trans (sum_sumAt_le (h.map (Option.some_injective _)) ?_ fun _ _ => abs_nonneg _)
  intro k hk
  obtain ⟨categorie, -, rfl⟩ := List.mem_map.1 hk
  rfl

/-- What was spent in the categories is within the total of the cycle. -/
theorem depensesCategorisees_le_total :
    s.depensesCategorisees crypto owner c ≤ s.totalAttendu crypto owner c .debit := by
  refine (List.filter_sublist.map _).sum_le_sum fun n hn => ?_
  obtain ⟨t, -, rfl⟩ := List.mem_map.1 hn
  exact abs_nonneg _

end Spent

/-! ## The answer -/

section Answer

variable {crypto : CryptoService} {owner : ProprietaireId} {s : Store} {mois : Mois}
  {r : RepartitionDepenses} {categories : HashMap Uuid Category} {prevus : List (CategoryId × ℤ)}
  {lignes : List ResteCategorie}

/-- The remainders of coherent lines add up to what is planned less what is spent. -/
theorem sum_restes (h : ∀ l ∈ lignes, l.Coherent) :
    (lignes.map ResteCategorie.resteCents).sum =
      (lignes.map ResteCategorie.montantPrevuCents).sum -
        (lignes.map ResteCategorie.depenseCents).sum := by
  induction lignes with
  | nil => rfl
  | cons l lignes ih =>
      have hl := (h l List.mem_cons_self).reste
      have hsuite := ih fun l' hl' => h l' (List.mem_cons_of_mem l hl')
      simp only [List.map_cons, List.sum_cons]
      omega

/-- Lines about distinct categories, read against the breakdown of the cycle, make an exact
answer. -/
theorem exact_of_provientDe
    (hr : r.lignes.Perm (s.lignesAttendues crypto owner ⟨mois, s.jourDebut owner⟩ .debit))
    (hmax : s.totalAttendu crypto owner ⟨mois, s.jourDebut owner⟩ .debit ≤ i64Max)
    (h : ProvientDe categories (indexerParCategorie r) prevus lignes)
    (hprevu : (lignes.map ResteCategorie.montantPrevuCents).sum ≤ i64Max)
    (hbudgets : s.budgetsDuMois owner mois ≠ [] → ∀ categorie montant,
      (categorie, montant) ∈ prevus ↔ ∃ b ∈ s.budgetsDuMois owner mois,
        b.categoryId = categorie ∧ b.montantPrevuCents = montant)
    (hmedianes : s.budgetsDuMois owner mois = [] →
      (∀ passe ∈ cyclesPasses ⟨mois, s.jourDebut owner⟩,
        s.totalAttendu crypto owner passe .debit ≤ i64Max) → ∀ categorie montant,
      (categorie, montant) ∈ prevus ↔ 0 < montant ∧
        EstMediane (s.depensesPassees crypto owner ⟨mois, s.jourDebut owner⟩ categorie) montant) :
    (RemainingBudgetDto.depuis mois lignes).Exact crypto owner s := by
  have hreel : ∀ k, ((indexerParCategorie r).lookup k).getD 0 =
      s.depenseDe crypto owner ⟨mois, s.jourDebut owner⟩ k := by
    intro k
    rw [RepartitionDepenses.getD_lookup_indexer (sansDoublon_of_lignesAttendues hr),
      montantDe_of_lignesAttendues hr]
    rfl
  have hligne : ∀ l ∈ lignes, ∃ e ∈ prevus,
      l = resteCategorie categories (indexerParCategorie r) e.1 e.2 := by
    intro l hl
    obtain ⟨e, he, rfl⟩ := List.mem_map.1 (h.lignes.mem_iff.1 hl)
    exact ⟨e, he, rfl⟩
  have hcategories : (lignes.map ResteCategorie.categoryId).Nodup := by
    refine ((h.lignes.map _).nodup_iff).2 ?_
    rw [List.map_map]
    exact h.distinctes
  have hdepenses : ∀ l ∈ lignes, l.depenseCents =
      s.depenseDe crypto owner ⟨mois, s.jourDebut owner⟩ l.categoryId := by
    intro l hl
    obtain ⟨e, -, rfl⟩ := hligne l hl
    exact hreel e.1
  have hpositifs : ∀ n ∈ lignes.map ResteCategorie.montantPrevuCents, 0 ≤ n := by
    intro n hn
    obtain ⟨l, hl, rfl⟩ := List.mem_map.1 hn
    obtain ⟨e, he, rfl⟩ := hligne l hl
    exact h.positifs e he
  have hcoherent : ∀ l ∈ lignes, l.Coherent := by
    intro l hl
    have hpositif := hpositifs _ (List.mem_map_of_mem hl)
    have hmajore := (List.single_le_sum hpositifs _ (List.mem_map_of_mem hl)).trans hprevu
    obtain ⟨e, he, rfl⟩ := hligne l hl
    refine coherent_resteCategorie hpositif hmajore ?_ ?_
    · rw [hreel]
      exact montantDuCycle_nonneg e.1
    · rw [hreel]
      exact (montantDuCycle_le_total e.1).trans hmax
  have hborne : (lignes.map ResteCategorie.depenseCents).sum ≤
      s.depensesCategorisees crypto owner ⟨mois, s.jourDebut owner⟩ := by
    have hsomme : lignes.map ResteCategorie.depenseCents =
        (lignes.map ResteCategorie.categoryId).map
          (s.depenseDe crypto owner ⟨mois, s.jourDebut owner⟩) := by
      rw [List.map_map]
      exact List.map_congr_left hdepenses
    rw [hsomme]
    exact sum_depenseDe_le hcategories
  have hnegatifs : ∀ n ∈ lignes.map ResteCategorie.depenseCents, 0 ≤ n := by
    intro n hn
    obtain ⟨l, hl, rfl⟩ := List.mem_map.1 hn
    rw [hdepenses l hl]
    exact montantDuCycle_nonneg _
  have hdepenseMax := (hborne.trans depensesCategorisees_le_total).trans hmax
  have hprevus := sommeI64_eq hpositifs hprevu
  have hdepense := sommeI64_eq hnegatifs hdepenseMax
  refine ⟨?_, ?_, hcategories, hcoherent, hdepenses, hprevus, hdepense, ?_,
    hdepense.trans_le hborne⟩
  · exact fun hne categorie montant => h.prevoit_iff.trans (hbudgets hne categorie montant)
  · exact fun hvide hpasses categorie montant =>
      h.prevoit_iff.trans (hmedianes hvide hpasses categorie montant)
  show i64 (sommeI64 _ - sommeI64 _) = (lignes.map ResteCategorie.resteCents).sum
  have hreste := sum_restes hcoherent
  have hp := List.sum_nonneg hpositifs
  have hd := List.sum_nonneg hnegatifs
  rw [hprevus, hdepense, hreste]
  exact i64_of_estI64 ⟨by unfold i64Min; unfold i64Max at hdepenseMax; omega, by omega⟩

end Answer

/-! ## The budgets -/

section Budgets

variable {col : Collation} {cfg : Configuration} {s₀ s s' : Store}

/-- No planned amount is negative. -/
def Store.BudgetsPositifs (s : Store) : Prop := ∀ b ∈ s.budgets, 0 ≤ b.montantPrevuCents

/-- No statement stores a negative budget. -/
theorem Store.BudgetsPositifs.effet {r : Requete} {x : ChoixSql} {v : r.Reponse}
    (h : s.BudgetsPositifs) (heffet : r.effet col x s = .ok (v, s')) : s'.BudgetsPositifs := by
  by_cases hw : NomTable.budgets ∈ r.ecrit
  swap
  · have hsame : s'.budgets = s.budgets := pareil_effet heffet hw
    unfold Store.BudgetsPositifs
    rwa [hsame]
  intro b hb
  rcases r with r | r | r | r <;> cases r <;> try simp at hw
  case classement.supprimerCategorie =>
    obtain ⟨-, rfl⟩ := by simpa [Requete.effet, RequeteClassement.effet] using heffet
    exact h b (Table.mem_delete.1 hb).1
  case classement.enregistrerBudget owner category montant mois =>
    simp only [Requete.effet, RequeteClassement.effet] at heffet
    split at heffet
    swap
    · obtain ⟨-, rfl⟩ := lire_eq_ok.1 heffet
      exact h b hb
    obtain ⟨hmontant, heffet⟩ := exiger_eq_ok.1 heffet
    have hmontant : 0 ≤ montant := of_decide_eq_true hmontant
    split at heffet
    · obtain ⟨-, rfl⟩ := by simpa using heffet
      simp only [Table.mem_update] at hb
      obtain ⟨b₀, hb₀, rfl⟩ := hb
      split
      · exact hmontant
      · exact h b₀ hb₀
    · obtain ⟨t, ht, -, rfl⟩ := by simpa using heffet
      rcases (Table.mem_of_insert ht).1 hb with hb | rfl
      · exact h b hb
      · exact hmontant

/-- The budgets of every reachable store are amounts. -/
theorem execution_budgetsPositifs {l : List (Etape col cfg)} (h₀ : s₀.Amorcee)
    (h : Execution col cfg s₀ l s) : s.BudgetsPositifs := by
  have hvide : s₀.BudgetsPositifs := fun b hb => by
    have hb : b ∈ s₀.budgets.rows := hb
    rw [h₀.budgets] at hb
    exact absurd hb List.not_mem_nil
  refine (h.preserves_events (I := Store.BudgetsPositifs) hvide fun c hc e he hbefore => ?_).1
  rcases after_cases e with hsame | ⟨r, x, v, hop, heffet⟩
  · rwa [hsame]
  · exact hbefore.effet heffet

end Budgets

/-! ## The request -/

section Request

variable {col : Collation} {cfg : Configuration} {crypto : CryptoService}
  {owner : ProprietaireId} {s₀ s s' : Store}

/-- The first day read for an owner is the one of the preferences, or the default. -/
theorem answers_jourDebutMois {jour : JourDebutMois}
    (h : Answers (machine col) (Preferences.jourDebutMois owner) s jour s') :
    jour = s.jourDebut owner ∧ s' = s := by
  obtain ⟨v, s₁, hv, hjour⟩ := answers_bind.1 h
  obtain ⟨x, -, heffet⟩ := answers_interroger.1 (answers_mapError.1 hv)
  obtain ⟨rfl, rfl⟩ := lire_eq_ok.1 heffet
  unfold Store.jourDebut
  cases hpreference : (s₁.preferencesUtilisateur.find? owner).map PreferencesRow.jourDebutMois with
  | none =>
      rw [hpreference] at hjour
      exact answers_pure.1 hjour
  | some v =>
      rw [hpreference] at hjour
      exact answers_pure.1 hjour

/-- The budgets listed are about distinct categories, and none is negative. -/
theorem answers_listerParMois (hi : s.Integre) (hpositifs : s.BudgetsPositifs) {mois : Mois}
    {budgets : List Budget}
    (h : Answers (machine col) (Budgets.listerParMois owner mois.premierJour) s budgets s') :
    budgets.Perm (s.budgetsDuMois owner mois) ∧ (budgets.map Budget.categoryId).Nodup ∧
      (∀ b ∈ budgets, 0 ≤ b.montantPrevuCents) ∧ s' = s := by
  obtain ⟨x, -, heffet⟩ := answers_interroger.1 (answers_mapError.1 h)
  obtain ⟨rfl, rfl⟩ := lire_eq_ok.1 heffet
  have hperm := (perm_sortBy (fun b : Budget => toLex (b.createdAt, b.id)) _).trans
    (perm_arrange Budget.id x.rang (s'.budgetsDuMois owner mois))
  have hmem : ∀ b ∈ sortBy (fun b : Budget => toLex (b.createdAt, b.id))
      (arrange Budget.id x.rang (s'.budgetsDuMois owner mois)),
      b ∈ s'.budgets ∧ b.ownerId = owner ∧ b.mois = mois.premierJour := by
    intro b hb
    simpa [Store.budgetsDuMois] using hb
  refine ⟨hperm, ?_, fun b hb => hpositifs b (hmem b hb).1, rfl⟩
  have hnodup : (s'.budgetsDuMois owner mois).Nodup := (s'.budgets.nodup.of_map _).filter _
  refine (hperm.nodup_iff.2 hnodup).map_on fun b hb b' hb' hcategorie => ?_
  obtain ⟨hbudget, howner, hmois⟩ := hmem b hb
  obtain ⟨hbudget', howner', hmois'⟩ := hmem b' hb'
  exact hi.budgetUnique b hbudget b' hbudget' (howner.trans howner'.symm) hcategorie
    (hmois.trans hmois'.symm)

/-- What remains to be spent adds up: in every database that a run reaches, for every month and
whatever the start day, as long as the amounts of the answer stay within the machine
integers. -/
theorem remainingBudgets_exact {l : List (Etape col cfg)} (h₀ : s₀.Amorcee)
    (h : Execution col cfg s₀ l s) {month : Option String} {dto : RemainingBudgetDto}
    (hdto : Answers (machine col) (Handlers.remainingBudgets crypto owner month) s dto s')
    (hdepenses : s.totalAttendu crypto owner ⟨dto.month, s.jourDebut owner⟩ .debit ≤ i64Max)
    (hprevus : (dto.lignes.map ResteCategorie.montantPrevuCents).sum ≤ i64Max) :
    dto.Exact crypto owner s := by
  have hi := execution_integre h₀ h
  have hbudgetsPositifs := execution_budgetsPositifs h₀ h
  obtain ⟨mois, s₁, hmois, hsuite⟩ := answers_bind.1 hdto
  obtain ⟨-, rfl⟩ := answers_ofExcept.1 hmois
  obtain ⟨cycle, s₂, hcycle, hbudgets⟩ := answers_bind.1 hsuite
  obtain ⟨jour, s₃, hjour, hfin⟩ := answers_bind.1 hcycle
  obtain ⟨rfl, rfl⟩ := answers_jourDebutMois (answers_mapError.1 hjour)
  obtain ⟨rfl, rfl⟩ := answers_pure.1 hfin
  obtain ⟨budgets, s₄, hliste, hrepartition⟩ := answers_bind.1 hbudgets
  obtain ⟨hperm, hdistinctes, hpositifs, rfl⟩ :=
    answers_listerParMois hi hbudgetsPositifs (answers_mapError.1 hliste)
  obtain ⟨r, s₅, hr, hhistorique⟩ := answers_bind.1 hrepartition
  obtain ⟨historique, s₆, hlus, hcategories⟩ := answers_bind.1 hhistorique
  obtain ⟨categories, s₇, -, hreponse⟩ := answers_bind.1 hcategories
  obtain ⟨rfl, -⟩ := answers_pure.1 hreponse
  obtain ⟨t, rfl, hlignes⟩ := (spec_repartition hdepenses).answers (answers_mapError.1 hr)
  obtain ⟨hattendues, -⟩ := hlignes r rfl
  by_cases hvide : budgets = []
  · rw [if_pos hvide] at hprevus ⊢
    have haucun : s₅.budgetsDuMois owner mois = [] := by
      rw [hvide] at hperm
      exact hperm.nil_eq.symm
    exact exact_of_provientDe hattendues hdepenses (provientDe_medianes categories r historique)
      hprevus (fun hne => absurd haucun hne) fun _ hpasses =>
        (answers_historique hlus).medianes hpasses
  · rw [if_neg hvide] at hprevus ⊢
    have hdefinis : s₅.budgetsDuMois owner mois ≠ [] := by
      intro haucun
      rw [haucun] at hperm
      exact hvide hperm.eq_nil
    refine exact_of_provientDe hattendues hdepenses
      (provientDe_budgets categories r hdistinctes hpositifs) hprevus ?_
      fun haucun => absurd haucun hdefinis
    intro _ categorie montant
    simp [List.mem_map, hperm.mem_iff]

end Request

/-! ## A budget for groceries -/

/-- An expense of the first account, by card. -/
def achatCourses (externe : String) (montant jour : ℤ) : Operation :=
  mouvementDe externe "CARTE COURSES" montant jour

/-- Three hundred euros are planned for the groceries of October, fifty of which are spent;
seventy were spent in September. -/
def operationsCourses : List Operation :=
  [.createConsent "alice" "banque", .completeConsent "alice" reponseBanque,
    achatCourses "T1" (-5000) 20000,
    .categorizeTransaction "alice" (Uuid.fromU128 1012) (Uuid.fromU128 1018) (Uuid.fromU128 3),
    .upsertBudget "alice" ⟨Uuid.fromU128 3, 30000, "2024-10"⟩,
    achatCourses "T2" (-7000) 19970,
    .categorizeTransaction "alice" (Uuid.fromU128 1012) (Uuid.fromU128 1029) (Uuid.fromU128 3)]

/-- What is answered for a month. -/
def resteDuMois (mois : String) :
    Outcome (machine Scenario.collation) (Except ApiError RemainingBudgetDto) :=
  run _ Scenario.calme.choix (Handlers.remainingBudgets enClair "alice" (some mois)).run 500
    (Scenario.unCompte.fin operationsCourses)

/-- The line of the groceries. -/
def ligneCourses (prevu depense reste : ℤ) : ResteCategorie :=
  { categoryId := Uuid.fromU128 3
    category := some
      { id := Uuid.fromU128 3, ownerId := none, name := "Courses", kind := .depense,
        color := "#EF6C00", icon := "shopping-cart", createdAt := 0 }
    montantPrevuCents := prevu
    depenseCents := depense
    resteCents := reste
    depassementCents := 0
    depasse := false }

/-- October, which has a budget. -/
def resteOctobre : RemainingBudgetDto :=
  { month := Scenario.octobre
    lignes := [ligneCourses 30000 5000 25000]
    montantPrevuCents := 30000
    depenseCents := 5000
    resteCents := 25000 }

/-- November, which has none: the median of the three months before is planned. -/
def resteNovembre : RemainingBudgetDto :=
  { month := Scenario.novembre
    lignes := [ligneCourses 5000 0 5000]
    montantPrevuCents := 5000
    depenseCents := 0
    resteCents := 5000 }

/-- The page of the scenario, as an answer. -/
private theorem answers_resteDuMois {mois : String} {dto : RemainingBudgetDto}
    (h : (resteDuMois mois).value = .ok dto) :
    Answers (machine Scenario.collation) (Handlers.remainingBudgets enClair "alice" (some mois))
      (Scenario.unCompte.fin operationsCourses) dto (resteDuMois mois).state := by
  have hrun := runs_run (M := machine Scenario.collation) Scenario.calme.choix
    (Handlers.remainingBudgets enClair "alice" (some mois)).run 500
    (Scenario.unCompte.fin operationsCourses)
  rw [← resteDuMois, h] at hrun
  exact ⟨_, hrun⟩

/-- Both pages of the scenario are exact: with defined budgets in October, with medians in
November. -/
theorem remainingBudgets_courses :
    resteOctobre.Exact enClair "alice" (Scenario.unCompte.fin operationsCourses) ∧
      resteNovembre.Exact enClair "alice" (Scenario.unCompte.fin operationsCourses) := by
  have hexecution := Scenario.unCompte.execution operationsCourses
  constructor
  · have hvaleur : (resteDuMois "2024-10").value = .ok resteOctobre := by decide +kernel
    exact remainingBudgets_exact amorcee_amorcee hexecution (answers_resteDuMois hvaleur)
      (by decide +kernel) (by decide +kernel)
  · have hvaleur : (resteDuMois "2024-11").value = .ok resteNovembre := by decide +kernel
    exact remainingBudgets_exact amorcee_amorcee hexecution (answers_resteDuMois hvaleur)
      (by decide +kernel) (by decide +kernel)

end Budgy
