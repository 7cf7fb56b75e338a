import Budgy.Analysis.Medians
import Budgy.Analysis.MonthlyTotals
import Budgy.Analysis.PageRequests
import Budgy.Analysis.Replies

/-!
# The amounts of the categories in the cycles

What the movements of a cycle give to a category, in one direction, and what the cycles before
give to it.  A breakdown that is returned shows these amounts, and so do the medians made from
the breakdowns of the past cycles, as long as the totals stay within the machine integers.
-/

set_option autoImplicit false

namespace Budgy

open Effects Grouping Relational

/-! ## The amounts -/

section Amounts

variable (crypto : CryptoService) (owner : ProprietaireId)

/-- What the movements of a cycle give, in a direction, to a category that the user sees. -/
def Store.montantDuCycle (s : Store) (c : CycleMensuel) (sens : Depenses.Sens)
    (categorie : Uuid) : ℤ :=
  if (s.categorieDe owner categorie).isSome then
    sumAt BankTransactionRow.categoryId (fun t => |t.montant crypto owner|)
      (s.retenues crypto owner c sens) (some categorie)
  else 0

/-- The cycles that a month is predicted from. -/
def cyclesPasses (c : CycleMensuel) : List CycleMensuel :=
  Handlers.cyclesPrecedents moisHistorique c

/-- The amounts of a category in each of them. -/
def Store.montantsPasses (s : Store) (c : CycleMensuel) (sens : Depenses.Sens)
    (categorie : Uuid) : List ℤ :=
  (cyclesPasses c).map fun passe => s.montantDuCycle crypto owner passe sens categorie

end Amounts

/-! ## One breakdown -/

section Breakdown

variable {crypto : CryptoService} {owner : ProprietaireId} {s : Store} {c : CycleMensuel}
  {sens : Depenses.Sens} {r : RepartitionDepenses}

/-- The category shown under a key has that key. -/
theorem id_categorieDe {id : Uuid} {categorie : Category}
    (h : s.categorieDe owner id = some categorie) : categorie.id = id :=
  (Table.find?_eq_some.1 (Option.filter_eq_some_iff.1 h).1).2

/-- A line shows a category when it is the one of its movements. -/
theorem cle_ligneAttendue {k : Option Uuid} {montant : ℤ} {categorie : Uuid} :
    (⟨k.bind (s.categorieDe owner), montant⟩ : LigneDepenseCategorie).cle = some categorie ↔
      k = some categorie ∧ (s.categorieDe owner categorie).isSome = true := by
  unfold LigneDepenseCategorie.cle
  cases k with
  | none => simp
  | some id =>
      rw [Option.bind_some, Option.some_inj]
      constructor
      · intro h
        obtain ⟨visible, hvisible, hid⟩ := Option.map_eq_some_iff.1 h
        obtain rfl : id = categorie := (id_categorieDe hvisible).symm.trans hid
        exact ⟨rfl, Option.isSome_of_mem hvisible⟩
      · rintro ⟨rfl, hvisible⟩
        obtain ⟨visible, hvisible⟩ := Option.isSome_iff_exists.1 hvisible
        rw [hvisible, Option.map_some, id_categorieDe hvisible]

/-- Each category that the user sees has one line. -/
theorem sansDoublon_of_lignesAttendues
    (h : r.lignes.Perm (s.lignesAttendues crypto owner c sens)) : r.SansDoublon := by
  have hattendues : ((s.lignesAttendues crypto owner c sens).filterMap
      LigneDepenseCategorie.cle).Nodup := by
    unfold Store.lignesAttendues
    rw [List.filterMap_map]
    refine (List.nodup_dedup _).filterMap fun k k' categorie hk hk' => ?_
    rw [(cle_ligneAttendue.1 hk).1, (cle_ligneAttendue.1 hk').1]
  exact (h.filterMap _).nodup_iff.2 hattendues

/-- The amount that a breakdown gives to a category is the one of its movements. -/
theorem montantDe_of_lignesAttendues
    (h : r.lignes.Perm (s.lignesAttendues crypto owner c sens)) (categorie : Uuid) :
    r.montantDe categorie = s.montantDuCycle crypto owner c sens categorie := by
  have hsomme : r.montantDe categorie = sumAt LigneDepenseCategorie.cle
      LigneDepenseCategorie.montantCents (s.lignesAttendues crypto owner c sens)
      (some categorie) := sumAt_perm h
  rw [hsomme, Store.lignesAttendues, sumAt_map, Store.montantDuCycle]
  by_cases hvisible : (s.categorieDe owner categorie).isSome = true
  · rw [if_pos hvisible]
    generalize hcles : ((s.retenues crypto owner c sens).map
      BankTransactionRow.categoryId).dedup = cles
    have hcle : ∀ k ∈ cles, decide ((⟨k.bind (s.categorieDe owner),
        sumAt BankTransactionRow.categoryId (fun t => |t.montant crypto owner|)
          (s.retenues crypto owner c sens) k⟩ : LigneDepenseCategorie).cle = some categorie) =
        decide (id k = some categorie) := by
      intro k _
      exact decide_eq_decide.2 (cle_ligneAttendue.trans (and_iff_left hvisible))
    rw [sumAt, List.filter_congr hcle]
    by_cases hmem : some categorie ∈ cles
    · have hnodup : (cles.map id).Nodup := by
        rw [List.map_id, ← hcles]
        exact List.nodup_dedup _
      show sumAt id _ cles (id (some categorie)) = _
      exact sumAt_of_nodup hnodup hmem
    · have habsent : some categorie ∉ cles.map id := by rwa [List.map_id]
      rw [← hcles, List.mem_dedup] at hmem
      rw [sumAt_eq_zero hmem]
      show sumAt id _ cles (some categorie) = 0
      exact sumAt_eq_zero habsent
  · rw [if_neg hvisible]
    refine sumAt_eq_zero fun hmem => ?_
    obtain ⟨k, -, hk⟩ := List.mem_map.1 hmem
    exact hvisible (cle_ligneAttendue.1 hk).2

/-- The lines of a breakdown are not negative. -/
theorem lignes_nonneg (h : r.lignes.Perm (s.lignesAttendues crypto owner c sens)) :
    ∀ ligne ∈ r.lignes, 0 ≤ ligne.montantCents := by
  intro ligne hligne
  obtain ⟨k, -, rfl⟩ := List.mem_map.1 (h.mem_iff.1 hligne)
  exact sumAt_nonneg fun _ _ => abs_nonneg _

/-- The amount of a category is a sum of magnitudes. -/
theorem montantDuCycle_nonneg (categorie : Uuid) :
    0 ≤ s.montantDuCycle crypto owner c sens categorie := by
  unfold Store.montantDuCycle
  split
  · exact sumAt_nonneg fun _ _ => abs_nonneg _
  · exact le_rfl

/-- It is at most what the movements of the category add up to, seen or not. -/
theorem montantDuCycle_le (categorie : Uuid) : s.montantDuCycle crypto owner c sens categorie ≤
    sumAt BankTransactionRow.categoryId (fun t => |t.montant crypto owner|)
      (s.retenues crypto owner c sens) (some categorie) := by
  unfold Store.montantDuCycle
  split
  · exact le_rfl
  · exact sumAt_nonneg fun _ _ => abs_nonneg _

/-- It is within the total of the cycle. -/
theorem montantDuCycle_le_total (categorie : Uuid) :
    s.montantDuCycle crypto owner c sens categorie ≤ s.totalAttendu crypto owner c sens :=
  (montantDuCycle_le categorie).trans (sumAt_le fun _ _ => abs_nonneg _)

end Breakdown

/-! ## The breakdowns of some cycles -/

section Past

variable {col : Collation} {crypto : CryptoService} {owner : ProprietaireId} {s s' : Store}
  {c : CycleMensuel} {sens : Depenses.Sens} {cycles : List CycleMensuel}
  {historique : List RepartitionDepenses}

variable (col crypto owner s) in
/-- The breakdowns of some cycles in a direction. -/
def Store.LusPour (sens : Depenses.Sens) (cycles : List CycleMensuel)
    (historique : List RepartitionDepenses) : Prop :=
  List.Forall₂ (fun cycle mois =>
    Answers (machine col) (Depenses.repartition crypto owner cycle sens) s mois s) cycles historique

/-- What the breakdowns of some cycles give to a category is what was spent there in each. -/
theorem Store.LusPour.montants (h : s.LusPour col crypto owner sens cycles historique)
    (hmax : ∀ cycle ∈ cycles, s.totalAttendu crypto owner cycle sens ≤ i64Max) :
    (∀ mois ∈ historique, mois.SansDoublon ∧ ∀ ligne ∈ mois.lignes, 0 ≤ ligne.montantCents) ∧
      ∀ categorie, montantsMensuels historique categorie =
        cycles.map fun cycle => s.montantDuCycle crypto owner cycle sens categorie := by
  induction h with
  | nil => exact ⟨fun _ hmem => absurd hmem List.not_mem_nil, fun _ => rfl⟩
  | @cons cycle mois cycles historique hmois _ ih =>
      obtain ⟨hsains, hmontants⟩ := ih fun c hc => hmax c (List.mem_cons_of_mem _ hc)
      obtain ⟨t, -, hlignes⟩ := (spec_repartition (hmax cycle List.mem_cons_self)).answers hmois
      obtain ⟨hattendues, -⟩ := hlignes mois rfl
      refine ⟨?_, fun categorie => ?_⟩
      · refine List.forall_mem_cons.2 ⟨⟨?_, lignes_nonneg hattendues⟩, hsains⟩
        exact sansDoublon_of_lignesAttendues hattendues
      · rw [montantsMensuels, List.map_cons, List.map_cons,
          montantDe_of_lignesAttendues hattendues, ← hmontants]
        rfl

/-- The past amounts of a category are not negative. -/
theorem montantsPasses_nonneg {categorie : Uuid} :
    ∀ n ∈ s.montantsPasses crypto owner c sens categorie, 0 ≤ n := by
  intro n hn
  obtain ⟨passe, -, rfl⟩ := List.mem_map.1 hn
  exact montantDuCycle_nonneg categorie

/-- A category that the user does not see has no past amount. -/
theorem mediane_montantsPasses_of_invisible {categorie : Uuid}
    (h : s.categorieDe owner categorie = none) :
    mediane (s.montantsPasses crypto owner c sens categorie) = 0 := by
  have hzero : s.montantsPasses crypto owner c sens categorie =
      (cyclesPasses c).map fun _ => 0 := by
    refine List.map_congr_left fun passe _ => ?_
    simp [Store.montantDuCycle, h]
  rw [hzero, List.map_const']
  exact mediane_replicate_zero _

/-- Three months have one central amount. -/
theorem centralesBornees_montantsPasses (categorie : Uuid) :
    CentralesBornees (s.montantsPasses crypto owner c sens categorie) := by
  intro hpair
  rw [Store.montantsPasses, List.length_map] at hpair
  exact absurd hpair (by simp [cyclesPasses, Handlers.cyclesPrecedents, moisHistorique])

/-- A category is predicted when the median of its past amounts is positive. -/
theorem Store.LusPour.lookup_medianes
    (h : s.LusPour col crypto owner sens (cyclesPasses c) historique)
    (hmax : ∀ passe ∈ cyclesPasses c, s.totalAttendu crypto owner passe sens ≤ i64Max)
    {categorie : Uuid} {montant : ℤ} :
    (medianesParCategorie historique).lookup categorie = some montant ↔
      0 < montant ∧ mediane (s.montantsPasses crypto owner c sens categorie) = montant := by
  obtain ⟨hsains, hmontants⟩ := h.montants hmax
  rw [lookup_medianesParCategorie fun mois hmem => (hsains mois hmem).1, hmontants]
  rfl

/-- The median computed is the median of the past amounts. -/
theorem estMediane_montantsPasses (categorie : Uuid) :
    EstMediane (s.montantsPasses crypto owner c sens categorie)
      (mediane (s.montantsPasses crypto owner c sens categorie)) := by
  refine estMediane_mediane ?_ montantsPasses_nonneg (centralesBornees_montantsPasses categorie)
  simp [Store.montantsPasses, cyclesPasses, Handlers.cyclesPrecedents, moisHistorique]

/-- The medians of the past cycles are those of the amounts of their movements. -/
theorem Store.LusPour.medianes (h : s.LusPour col crypto owner sens (cyclesPasses c) historique)
    (hmax : ∀ passe ∈ cyclesPasses c, s.totalAttendu crypto owner passe sens ≤ i64Max)
    (categorie : Uuid) (montant : ℤ) :
    (categorie, montant) ∈ (medianesParCategorie historique).liaisons ↔
      0 < montant ∧ EstMediane (s.montantsPasses crypto owner c sens categorie) montant := by
  have hmediane : EstMediane (s.montantsPasses crypto owner c sens categorie)
      (mediane (s.montantsPasses crypto owner c sens categorie)) :=
    estMediane_montantsPasses categorie
  rw [mem_liaisons, Option.mem_def, h.lookup_medianes hmax]
  refine and_congr_right fun _ => ?_
  constructor
  · rintro rfl
    exact hmediane
  · exact fun hmontant => hmediane.unique hmontant

/-- A breakdown only reads. -/
theorem answers_repartition_same {r : RepartitionDepenses}
    (h : Answers (machine col) (Depenses.repartition crypto owner c sens) s r s') : s' = s := by
  have huses : (Depenses.repartition crypto owner c sens).run.Uses fun o : Op => o.ecrit = [] :=
    uses_repartition fun _ => Op.Interne.lecture
  obtain ⟨-, hsame⟩ := (spec_lecture huses).answers h
  exact hsame

/-- The breakdowns of the past cycles are read from one database. -/
theorem answers_historique
    (h : Answers (machine col) (cycles.mapM fun cycle =>
      lectureApi (Depenses.repartition crypto owner cycle sens)) s historique s') :
    s.LusPour col crypto owner sens cycles historique := by
  have hlecture : ∀ cycle mois s', Answers (machine col) (lectureApi
      (Depenses.repartition crypto owner cycle sens)) s mois s' → s' = s := fun _ _ _ hmois =>
    answers_repartition_same (answers_mapError.1 hmois)
  refine ((answers_mapM hlecture).1 h).2.imp ?_
  intro cycle mois hmois
  exact answers_mapError.1 hmois

end Past

end Budgy
