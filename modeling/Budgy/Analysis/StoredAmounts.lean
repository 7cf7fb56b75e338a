import Budgy.Analysis.CycleAmounts
import Budgy.Analysis.Overflow

/-!
# Overflows on the stored amounts

What the readings of a store give to the computations of `Budgy.Analysis.Overflow`, in any order
the database chooses, and the sums of stored amounts that leave room for them.
-/

set_option autoImplicit false

namespace Budgy

open Effects Folds Relational

/-- A decrypted amount is a machine integer. -/
theorem estI64_dechiffrerMontant {crypto : CryptoService} {owner table field : String}
    {blob : List UInt8} {n : ℤ} (h : dechiffrerMontant crypto owner table field blob = .ok n) :
    EstI64 n := by
  unfold dechiffrerMontant at h
  split at h
  · cases h
  · split at h
    · rename_i m hm
      obtain rfl := Except.ok.inj h
      exact Text.parseInt?_bounds hm
    · cases h

/-! ## What the readings give -/

section Readings

variable (col : Collation) (crypto : CryptoService) (owner : ProprietaireId) (s : Store)

/-- The decrypted lines of a cycle. -/
def LignesDuCycle (cycle : CycleMensuel) (lignes : List (Option Uuid × ℤ)) : Prop :=
  ∃ rows, Answers (machine col) (interroger (.classement (.montantsParCategorie owner cycle.debut
      cycle.finExclue))) s rows s ∧
    Depenses.montantsDechiffres crypto owner rows = .ok lignes

/-- The decryption of `consommations`. -/
def montantsAffectes (rows : List (Uuid × List UInt8)) : Except LectureError (List (Uuid × ℤ)) :=
  rows.mapM fun row => do
    let montant ← (dechiffrerMontant crypto owner "bank_transaction" "amount_cents" row.2).mapError
      versLectureError
    return (row.1, montant)

/-- The decrypted lines of the envelopes. -/
def LignesAffectees (lignes : List (Uuid × ℤ)) : Prop :=
  ∃ rows, Answers (machine col) (interroger (.classement (.consommations owner))) s rows s ∧
    montantsAffectes crypto owner rows = .ok lignes

/-- What `get_forecast` reads. -/
structure EntreesPrevision where
  comptes : List CompteAvecSolde
  depensesRealisees : RepartitionDepenses
  revenusRealises : RepartitionDepenses
  historique : List (RepartitionDepenses × RepartitionDepenses)
  categories : HashMap Uuid Category

namespace EntreesPrevision

variable (e : EntreesPrevision)

/-- The balance of today: the consolidation of the accounts listed. -/
def soldeActuelCents : ℤ := (SoldeConsolide.consolider e.comptes).totalCents

/-- The expenses planned by category: the medians of the past cycles, incomes left out. -/
def depensesPrevues : HashMap Uuid ℤ :=
  (medianesParCategorie (e.historique.map Prod.fst)).filtrer fun id =>
    !estCategorieDeRevenu e.categories id

/-- The incomes planned by category: the medians of the past cycles, expenses left out. -/
def revenusPrevus : HashMap Uuid ℤ :=
  (medianesParCategorie (e.historique.map Prod.snd)).filtrer (estCategorieDeRevenu e.categories)

/-- The readings of a cycle and of the ones before it. -/
structure LuesPour (cycle : CycleMensuel) (e : EntreesPrevision) : Prop where
  comptes : Answers (machine col) (BankAccountsAdapter.listerSoldes crypto owner) s e.comptes s
  depenses : Answers (machine col) (Depenses.repartitionMensuelleParCategorie crypto owner cycle) s
    e.depensesRealisees s
  revenus : Answers (machine col)
    (Depenses.repartitionMensuelleRevenusParCategorie crypto owner cycle) s e.revenusRealises s
  historique : List.Forall₂ (fun precedent mois =>
      Answers (machine col) (Depenses.repartitionMensuelleParCategorie crypto owner precedent) s
        mois.1 s ∧
      Answers (machine col)
        (Depenses.repartitionMensuelleRevenusParCategorie crypto owner precedent) s mois.2 s)
    (Handlers.cyclesPrecedents moisHistorique cycle) e.historique
  categories : Answers (machine col) (Handlers.categoriesParId owner) s e.categories s

end EntreesPrevision

open EntreesPrevision

/-- No operation on the amounts of a user overflows, in the recalculations and the readings. -/
structure Store.SansDebordement : Prop where
  recurrences : ∀ occurrences, Answers (machine col)
    (BankTransactions.listerOccurrencesPourDetection crypto owner) s occurrences s →
      RecurrencesSansDebordement occurrences
  transferts : ∀ mouvements, Answers (machine col)
    (BankTransactions.listerMouvementsPourAppariement crypto owner) s mouvements s →
      TransfertsSansDebordement mouvements
  totaux : ∀ cycle sens lignes, LignesDuCycle col crypto owner s cycle lignes →
    TotauxSansDebordement sens lignes
  consommations : ∀ lignes, LignesAffectees col crypto owner s lignes →
    ConsommationsSansDebordement lignes
  medianes : ∀ cycle e, LuesPour col crypto owner s cycle e →
    MedianesSansDebordement (e.historique.map Prod.fst) ∧
      MedianesSansDebordement (e.historique.map Prod.snd)
  previsionnel : ∀ cycle e, LuesPour col crypto owner s cycle e →
    PrevisionSansDebordement e.soldeActuelCents e.depensesPrevues e.revenusPrevus
      e.depensesRealisees e.revenusRealises e.categories

/-- The categories whose movements are predicted in a direction: the income is received, the
rest is spent. -/
def Store.categoriesPrevues (sens : Depenses.Sens) : List Category :=
  s.category.select fun c => Store.categorieVisible owner c &&
    decide (c.kind = .revenu) == decide (sens = .credit)

/-- What a category still promises: the median of the past cycles, less what is realised. -/
def Store.resteDe (cycle : CycleMensuel) (sens : Depenses.Sens) (categorie : Uuid) : ℤ :=
  max (mediane (s.montantsPasses crypto owner cycle sens categorie) -
    s.montantDuCycle crypto owner cycle sens categorie) 0

/-- What the categories of a direction still promise, in all. -/
def Store.resteAVenir (cycle : CycleMensuel) (sens : Depenses.Sens) : ℤ :=
  ((s.categoriesPrevues owner sens).map fun c => s.resteDe crypto owner cycle sens c.id).sum

/-- In every cycle that is read, the amounts of each direction add up within the bound. -/
def Store.TotauxContenus : Prop :=
  ∀ cycle (sens : Depenses.Sens) lignes, LignesDuCycle col crypto owner s cycle lignes →
    ((lignes.filter fun l => sens.retient l.2).map fun l => |l.2|).sum ≤ i64Max

/-- The amounts of a user leave room for these operations. -/
structure Store.MontantsContenus : Prop where
  ecarts : ∀ occurrences, Answers (machine col)
    (BankTransactions.listerOccurrencesPourDetection crypto owner) s occurrences s →
      EcartsContenus occurrences
  minimum : ∀ mouvements, Answers (machine col)
    (BankTransactions.listerMouvementsPourAppariement crypto owner) s mouvements s →
      MinimumIsole mouvements
  totaux : s.TotauxContenus col crypto owner
  enveloppes : ∀ lignes, LignesAffectees col crypto owner s lignes →
    ∀ enveloppe, EnveloppeContenue lignes enveloppe
  previsions : ∀ cycle e, LuesPour col crypto owner s cycle e →
    PrevisionContenue e.soldeActuelCents (s.resteAVenir crypto owner cycle .debit)
      (s.resteAVenir crypto owner cycle .credit)

end Readings

section Proofs

open EntreesPrevision

variable {col : Collation} {crypto : CryptoService} {owner : ProprietaireId} {s : Store}

/-- The movements that are read have machine integers as amounts. -/
theorem estI64_mouvements {mouvements : List MouvementCandidat}
    (h : Answers (machine col) (BankTransactions.listerMouvementsPourAppariement crypto owner) s
      mouvements s) : ∀ m ∈ mouvements, EstI64 m.amountCents := by
  intro m hm
  obtain ⟨rows, s₁, -, hsuite⟩ := answers_bind.1 h
  obtain ⟨lus, s₂, hlus, hfin⟩ := answers_bind.1 hsuite
  obtain ⟨rfl, -⟩ := answers_pure.1 hfin
  obtain ⟨lecture, hlecture, hsome⟩ := List.mem_filterMap.1 hm
  obtain ⟨row, -, hrow⟩ := Traversal.exists_of_mem (answers_ofExcept.1 hlus).1 hlecture
  obtain rfl : lecture = some m := hsome
  unfold BankTransactions.mouvement? at hrow
  split at hrow
  · cases hrow
  · obtain ⟨montant, hmontant, hrow⟩ := Traversal.bind_eq_ok.1 hrow
    obtain ⟨libelle, -, hrow⟩ := Traversal.bind_eq_ok.1 hrow
    obtain rfl := Option.some.inj (Except.ok.inj hrow)
    exact estI64_dechiffrerMontant hmontant

/-- A transaction of an envelope and its decrypted line. -/
def Affectee (crypto : CryptoService) (owner : ProprietaireId) (ligne : Uuid × ℤ)
    (t : BankTransactionRow) : Prop :=
  t.enveloppeId = some ligne.1 ∧
    dechiffrerMontant crypto owner "bank_transaction" "amount_cents" t.amountCents = .ok ligne.2

/-- The envelope and the amount read for a row are those of the row. -/
theorem montantAffecte_eq_ok {row : Uuid × List UInt8} {ligne : Uuid × ℤ} :
    ((do
      let montant ←
        (dechiffrerMontant crypto owner "bank_transaction" "amount_cents" row.2).mapError
          versLectureError
      return (row.1, montant) : Except LectureError (Uuid × ℤ)) = .ok ligne) ↔
      row.1 = ligne.1 ∧
        dechiffrerMontant crypto owner "bank_transaction" "amount_cents" row.2 = .ok ligne.2 := by
  cases dechiffrerMontant crypto owner "bank_transaction" "amount_cents" row.2 with
  | error e =>
      constructor
      · intro h
        cases h
      · rintro ⟨-, h⟩
        cases h
  | ok montant =>
      constructor
      · intro h
        obtain rfl := Except.ok.inj h
        exact ⟨rfl, rfl⟩
      · rintro ⟨hcle, hmontant⟩
        obtain rfl := Except.ok.inj hmontant
        rw [show row.1 = ligne.1 from hcle]
        rfl

/-- The envelopes and the amounts read are those of the assigned rows, in their order. -/
theorem forall₂_affectee {rows : List BankTransactionRow} {lignes : List (Uuid × ℤ)}
    (hrows : ∀ t ∈ rows, t.enveloppeId.isSome = true) :
    montantsAffectes crypto owner (rows.filterMap fun t =>
        t.enveloppeId.map fun e => (e, t.amountCents)) = .ok lignes ↔
      List.Forall₂ (Affectee crypto owner) lignes rows := by
  unfold montantsAffectes
  rw [Traversal.mapM_eq_ok]
  induction rows generalizing lignes with
  | nil => simp
  | cons t rows ih =>
      obtain ⟨e, he⟩ := Option.isSome_iff_exists.1 (hrows t List.mem_cons_self)
      have hreste := fun lignes => @ih lignes fun t' ht' => hrows t' (List.mem_cons_of_mem t ht')
      rw [List.filterMap_cons, he]
      cases lignes with
      | nil => simp
      | cons ligne lignes =>
          show List.Forall₂ _ ((e, t.amountCents) :: _) _ ↔ _
          rw [List.forall₂_cons, List.forall₂_cons, hreste, montantAffecte_eq_ok, Affectee, he,
            Option.some.injEq]

/-- The lines of the envelopes are those of the assigned transactions, in any order. -/
theorem lignesAffectees_iff {lignes : List (Uuid × ℤ)} :
    LignesAffectees col crypto owner s lignes ↔
      ∃ rows : List BankTransactionRow,
        rows.Perm (s.bankTransaction.select fun t => s.txDe owner t && t.enveloppeId.isSome) ∧
          List.Forall₂ (Affectee crypto owner) lignes rows := by
  have haffectees : ∀ rows : List BankTransactionRow,
      rows.Perm (s.bankTransaction.select fun t => s.txDe owner t && t.enveloppeId.isSome) →
        ∀ t ∈ rows, t.enveloppeId.isSome = true := by
    intro rows hperm t ht
    have hselect := (Table.mem_select.1 (hperm.mem_iff.1 ht)).2
    rw [Bool.and_eq_true] at hselect
    exact hselect.2
  constructor
  · rintro ⟨rows, hrows, hlignes⟩
    obtain ⟨x, -, heffet⟩ := answers_interroger.1 hrows
    obtain ⟨rfl, -⟩ := lire_eq_ok.1 heffet
    have hperm := perm_arrange BankTransactionRow.id x.rang
      (s.bankTransaction.select fun t => s.txDe owner t && t.enveloppeId.isSome)
    exact ⟨_, hperm, (forall₂_affectee (haffectees _ hperm)).1 hlignes⟩
  · rintro ⟨rows, hperm, hlignes⟩
    have hcles : (rows.map BankTransactionRow.id).Nodup :=
      (hperm.map _).nodup_iff.2 ((List.filter_sublist.map _).nodup s.bankTransaction.nodup)
    obtain ⟨rang, hrang⟩ := exists_arrange hperm hcles
    refine ⟨_, answers_interroger.2 ⟨⟨none, rang, ⟨0⟩, 0⟩, rfl, rfl⟩, ?_⟩
    show montantsAffectes crypto owner ((arrange BankTransactionRow.id rang _).filterMap _) = _
    rw [hrang]
    exact (forall₂_affectee (haffectees rows hperm)).2 hlignes

/-- The lines may be read in another order. -/
theorem LignesAffectees.perm {lignes lignes' : List (Uuid × ℤ)}
    (h : LignesAffectees col crypto owner s lignes) (hperm : lignes'.Perm lignes) :
    LignesAffectees col crypto owner s lignes' := by
  obtain ⟨rows, hrows, hlignes⟩ := lignesAffectees_iff.1 h
  obtain ⟨rows', hlignes', hrows'⟩ := List.perm_comp_forall₂ hperm hlignes
  exact lignesAffectees_iff.2 ⟨rows', hrows'.trans hrows, hlignes'⟩

/-- The history holds an odd number of months. -/
theorem EntreesPrevision.LuesPour.length {cycle : CycleMensuel} {e : EntreesPrevision}
    (h : LuesPour col crypto owner s cycle e) : e.historique.length = moisHistorique := by
  rw [← h.historique.length_eq]
  rfl

/-- A breakdown that answers was made from the lines of its cycle. -/
theorem exists_lignesDuCycle {cycle : CycleMensuel} {sens : Depenses.Sens}
    {r : RepartitionDepenses}
    (h : Answers (machine col) (Depenses.repartition crypto owner cycle sens) s r s) :
    ∃ lignes, LignesDuCycle col crypto owner s cycle lignes ∧
      ((lignes.filter fun l => sens.retient l.2).map fun l => |l.2|).sum =
        s.totalAttendu crypto owner cycle sens := by
  obtain ⟨totaux, s₁, htotaux, -⟩ := answers_bind.1 h
  obtain ⟨rows, s₂, hrows, hsuite⟩ := answers_bind.1 htotaux
  obtain ⟨lignes, s₃, hlignes, -⟩ := answers_bind.1 hsuite
  obtain ⟨hdechiffres, -⟩ := answers_ofExcept.1 hlignes
  have hreponse := answers_interroger.1 (answers_mapError.1 hrows)
  obtain ⟨x, hpanne, heffet⟩ := hreponse
  obtain ⟨rfl, rfl⟩ := lire_eq_ok.1 heffet
  refine ⟨lignes, ⟨_, answers_interroger.2 ⟨x, hpanne, heffet⟩, hdechiffres⟩, ?_⟩
  have hperm : (lignes.filter fun l => sens.retient l.2).Perm
      ((s₂.retenues crypto owner cycle sens).map fun t =>
        (t.categoryId, t.montant crypto owner)) := perm_retenues hdechiffres
  rw [(hperm.map fun l => |l.2|).sum_eq, List.map_map]
  rfl

/-- What a breakdown shows is then the exact sums. -/
theorem Store.TotauxContenus.total (h : s.TotauxContenus col crypto owner) {cycle : CycleMensuel}
    {sens : Depenses.Sens} {r : RepartitionDepenses}
    (hr : Answers (machine col) (Depenses.repartition crypto owner cycle sens) s r s) :
    s.totalAttendu crypto owner cycle sens ≤ i64Max := by
  obtain ⟨lignes, hlignes, htotal⟩ := exists_lignesDuCycle hr
  rw [← htotal]
  exact h cycle sens lignes hlignes

/-- What is realised for a category in a cycle is the sum of the stored amounts. -/
theorem Store.TotauxContenus.realise (h : s.TotauxContenus col crypto owner)
    {cycle : CycleMensuel} {sens : Depenses.Sens} {r : RepartitionDepenses}
    (hr : Answers (machine col) (Depenses.repartition crypto owner cycle sens) s r s) (id : Uuid) :
    ((indexerParCategorie r).lookup id).getD 0 = s.montantDuCycle crypto owner cycle sens id := by
  obtain ⟨t, -, hlignes⟩ := (spec_repartition (h.total hr)).answers hr
  obtain ⟨hattendues, -⟩ := hlignes r rfl
  rw [RepartitionDepenses.getD_lookup_indexer (sansDoublon_of_lignesAttendues hattendues),
    montantDe_of_lignesAttendues hattendues]

/-- A median of past amounts is within the bound of their totals. -/
theorem mediane_montantsPasses_le {cycle : CycleMensuel} {sens : Depenses.Sens}
    (hmax : ∀ passe ∈ cyclesPasses cycle, s.totalAttendu crypto owner passe sens ≤ i64Max)
    (id : Uuid) : mediane (s.montantsPasses crypto owner cycle sens id) ≤ i64Max := by
  obtain ⟨a, b, ha, hb, hmediane⟩ : EstMediane (s.montantsPasses crypto owner cycle sens id)
      (mediane (s.montantsPasses crypto owner cycle sens id)) := estMediane_montantsPasses id
  have hborne : ∀ n ∈ s.montantsPasses crypto owner cycle sens id, n ≤ i64Max := by
    intro n hn
    obtain ⟨passe, hpasse, rfl⟩ := List.mem_map.1 hn
    exact (montantDuCycle_le_total id).trans (hmax passe hpasse)
  have hamax := hborne a ha.mem
  have hbmax := hborne b hb.mem
  omega

/-! ### One side of a forecast -/

/-- What the medians predict in a direction, among the categories that a test keeps. -/
structure CotePrevu (col : Collation) (crypto : CryptoService) (owner : ProprietaireId) (s : Store)
    (cycle : CycleMensuel) (sens : Depenses.Sens) (garde : Uuid → Bool)
    (historique : List RepartitionDepenses) (realise : RepartitionDepenses) : Prop where
  historique : s.LusPour col crypto owner sens (cyclesPasses cycle) historique
  realise : Answers (machine col) (Depenses.repartition crypto owner cycle sens) s realise s
  garde : ∀ c ∈ s.category, Store.categorieVisible owner c = true →
    garde c.id = (decide (c.kind = .revenu) == decide (sens = .credit))

section Cote

variable {cycle : CycleMensuel} {sens : Depenses.Sens} {garde : Uuid → Bool}
  {historique : List RepartitionDepenses} {realise : RepartitionDepenses}

/-- Contained totals bound those of the past cycles of a side. -/
theorem CotePrevu.totaux (h : CotePrevu col crypto owner s cycle sens garde historique realise)
    (htotaux : s.TotauxContenus col crypto owner) :
    ∀ passe ∈ cyclesPasses cycle, s.totalAttendu crypto owner passe sens ≤ i64Max := by
  intro passe hpasse
  obtain ⟨mois, -, hmois⟩ := Traversal.exists_right_of_mem h.historique hpasse
  exact htotaux.total hmois

/-- The predicted amounts are the positive medians of the categories of the direction. -/
theorem CotePrevu.mem_liaisons
    (h : CotePrevu col crypto owner s cycle sens garde historique realise)
    (htotaux : s.TotauxContenus col crypto owner) {id : Uuid} {montant : ℤ} :
    (id, montant) ∈ ((medianesParCategorie historique).filtrer garde).liaisons ↔
      (∃ c ∈ s.categoriesPrevues owner sens, c.id = id) ∧ 0 < montant ∧
        mediane (s.montantsPasses crypto owner cycle sens id) = montant := by
  rw [mem_liaisons_filtrer, Option.mem_def, h.historique.lookup_medianes (h.totaux htotaux)]
  refine and_congr_left fun ⟨hpositif, hmediane⟩ => ?_
  constructor
  · intro hgarde
    cases hcategorie : s.categorieDe owner id with
    | none =>
        have hzero : mediane (s.montantsPasses crypto owner cycle sens id) = 0 :=
          mediane_montantsPasses_of_invisible hcategorie
        omega
    | some c =>
        obtain ⟨hc, hvisible⟩ := Option.filter_eq_some_iff.1 hcategorie
        obtain ⟨hmem, rfl⟩ := Table.find?_eq_some.1 hc
        rw [h.garde c hmem hvisible] at hgarde
        refine ⟨c, Table.mem_select.2 ⟨hmem, ?_⟩, rfl⟩
        rw [hvisible, hgarde]
        rfl
  · rintro ⟨c, hc, rfl⟩
    obtain ⟨hmem, hvisible⟩ := Table.mem_select.1 hc
    rw [Bool.and_eq_true] at hvisible
    rw [h.garde c hmem hvisible.1]
    exact hvisible.2

/-- They are magnitudes, and so is what is realised. -/
theorem CotePrevu.borne (h : CotePrevu col crypto owner s cycle sens garde historique realise)
    (htotaux : s.TotauxContenus col crypto owner) :
    CoteMagnitudes ((medianesParCategorie historique).filtrer garde) (indexerParCategorie realise) := by
  rintro ⟨id, montant⟩ he
  obtain ⟨-, hpositif, hmediane⟩ := (h.mem_liaisons htotaux).1 he
  have hmax := mediane_montantsPasses_le (h.totaux htotaux) id
  dsimp only
  rw [htotaux.realise h.realise]
  refine ⟨⟨hpositif.le, hmediane ▸ hmax⟩, montantDuCycle_nonneg id, ?_⟩
  exact (montantDuCycle_le_total id).trans (htotaux.total h.realise)

/-- What the side still promises is a sum over the categories of the store. -/
theorem CotePrevu.aVenir (h : CotePrevu col crypto owner s cycle sens garde historique realise)
    (htotaux : s.TotauxContenus col crypto owner) :
    aVenir ((medianesParCategorie historique).filtrer garde) (indexerParCategorie realise) =
      s.resteAVenir crypto owner cycle sens := by
  let prevue (c : Category) : Prop := 0 < mediane (s.montantsPasses crypto owner cycle sens c.id)
  let ligne (c : Category) : Uuid × ℤ :=
    (c.id, mediane (s.montantsPasses crypto owner cycle sens c.id))
  have hcles : ((s.categoriesPrevues owner sens).map Category.id).Nodup :=
    s.category.nodup.sublist (List.filter_sublist.map _)
  have hperm : ((medianesParCategorie historique).filtrer garde).liaisons.Perm
      (((s.categoriesPrevues owner sens).filter fun c => prevue c).map ligne) := by
    have hlignes : (((s.categoriesPrevues owner sens).filter fun c => prevue c).map ligne).Nodup :=
      ((hcles.of_map _).filter _).map_on fun c hc c' hc' heq =>
        List.inj_on_of_nodup_map hcles (List.mem_of_mem_filter hc) (List.mem_of_mem_filter hc')
          (congrArg Prod.fst heq)
    refine (List.perm_ext_iff_of_nodup (nodup_liaisons _) hlignes).2 ?_
    rintro ⟨id, montant⟩
    rw [h.mem_liaisons htotaux]
    simp only [List.mem_map, List.mem_filter, decide_eq_true_eq, prevue, ligne, Prod.mk.injEq]
    constructor
    · rintro ⟨⟨c, hc, rfl⟩, hpositif, hmediane⟩
      exact ⟨c, ⟨hc, hmediane ▸ hpositif⟩, rfl, hmediane⟩
    · rintro ⟨c, ⟨hc, hpositif⟩, rfl, rfl⟩
      exact ⟨⟨c, hc, rfl⟩, hpositif, rfl⟩
  have hreste : ∀ c, max ((ligne c).2 -
      ((indexerParCategorie realise).lookup (ligne c).1).getD 0) 0 =
        s.resteDe crypto owner cycle sens c.id := by
    intro c
    rw [htotaux.realise h.realise]
    rfl
  -- A category without a positive median promises nothing.
  have hnuls : (((s.categoriesPrevues owner sens).filter fun c => ¬ prevue c).map fun c =>
      s.resteDe crypto owner cycle sens c.id).sum = 0 := by
    refine List.sum_eq_zero fun n hn => ?_
    obtain ⟨c, hc, rfl⟩ := List.mem_map.1 hn
    have hnul : ¬ prevue c := of_decide_eq_true (List.mem_filter.1 hc).2
    have hrealise : 0 ≤ s.montantDuCycle crypto owner cycle sens c.id :=
      montantDuCycle_nonneg c.id
    exact max_eq_right (by omega)
  have hsomme := List.sum_map_filter_add_sum_map_filter_not prevue
    (fun c => s.resteDe crypto owner cycle sens c.id) (s.categoriesPrevues owner sens)
  unfold Budgy.aVenir
  rw [(hperm.map _).sum_eq, List.map_map, Function.comp_def]
  simp only [hreste]
  rw [Store.resteAVenir, ← hsomme, hnuls, add_zero]

end Cote

/-- The categories of a page are those that the user sees. -/
theorem answers_categoriesParId {categories : HashMap Uuid Category} {s' : Store}
    (h : Answers (machine col) (Handlers.categoriesParId owner) s categories s') (id : Uuid) :
    categories.lookup id = s.categorieDe owner id := by
  obtain ⟨items, s₁, hitems, hfin⟩ := answers_bind.1 h
  obtain ⟨rfl, -⟩ := answers_pure.1 hfin
  obtain ⟨rows, s₂, hrows, hlus⟩ := answers_bind.1 (answers_mapError.1 hitems)
  obtain ⟨rfl, -⟩ := answers_pure.1 hlus
  obtain ⟨x, -, heffet⟩ := answers_interroger.1 (answers_mapError.1 hrows)
  obtain ⟨rfl, -⟩ := lire_eq_ok.1 heffet
  rw [List.map_map, List.map_map]
  exact lookup_collect_categories ((perm_sortBy _ _).trans (perm_arrange _ _ _)) id

/-- A page reads both sides of its forecast. -/
theorem EntreesPrevision.LuesPour.cotes {cycle : CycleMensuel} {e : EntreesPrevision}
    (h : LuesPour col crypto owner s cycle e) :
    CotePrevu col crypto owner s cycle .debit (fun id => !estCategorieDeRevenu e.categories id)
        (e.historique.map Prod.fst) e.depensesRealisees ∧
      CotePrevu col crypto owner s cycle .credit (estCategorieDeRevenu e.categories)
        (e.historique.map Prod.snd) e.revenusRealises := by
  have hrevenu : ∀ c ∈ s.category, Store.categorieVisible owner c = true →
      estCategorieDeRevenu e.categories c.id = decide (c.kind = .revenu) := by
    intro c hc hvisible
    have hlookup : e.categories.lookup c.id = some c := by
      rw [answers_categoriesParId h.categories, Store.categorieDe, Option.filter_eq_some_iff]
      exact ⟨Table.find?_eq_some.2 ⟨hc, rfl⟩, hvisible⟩
    rw [estCategorieDeRevenu, hlookup]
  constructor
  · refine ⟨?_, h.depenses, fun c hc hvisible => ?_⟩
    · exact List.forall₂_map_right_iff.2 (h.historique.imp fun _ _ hmois => hmois.1)
    · rw [hrevenu c hc hvisible]
      cases c.kind <;> rfl
  · refine ⟨?_, h.revenus, fun c hc hvisible => ?_⟩
    · exact List.forall₂_map_right_iff.2 (h.historique.imp fun _ _ hmois => hmois.2)
    · rw [hrevenu c hc hvisible]
      cases c.kind <;> rfl

/-- With totals within the bound, a forecast overflows exactly when what is to come, by the
stored amounts, does not fit. -/
theorem EntreesPrevision.LuesPour.prevision_iff {cycle : CycleMensuel} {e : EntreesPrevision}
    (h : LuesPour col crypto owner s cycle e) (htotaux : s.TotauxContenus col crypto owner) :
    PrevisionSansDebordement e.soldeActuelCents e.depensesPrevues e.revenusPrevus
        e.depensesRealisees e.revenusRealises e.categories ↔
      PrevisionContenue e.soldeActuelCents (s.resteAVenir crypto owner cycle .debit)
        (s.resteAVenir crypto owner cycle .credit) := by
  obtain ⟨hdepenses, hrevenus⟩ := h.cotes
  rw [← hdepenses.aVenir htotaux, ← hrevenus.aVenir htotaux]
  exact previsionSansDebordement_iff (hdepenses.borne htotaux) (hrevenus.borne htotaux)

/-- No operation overflows exactly when the amounts leave room for them. -/
theorem sansDebordement_iff (col : Collation) (crypto : CryptoService) (owner : ProprietaireId)
    (s : Store) : s.SansDebordement col crypto owner ↔ s.MontantsContenus col crypto owner := by
  constructor
  · intro h
    have htotaux : s.TotauxContenus col crypto owner := fun cycle sens lignes hlues =>
      totauxSansDebordement_iff.1 (h.totaux cycle sens lignes hlues)
    refine
      { ecarts := fun occurrences hlues =>
          recurrencesSansDebordement_iff.1 (h.recurrences occurrences hlues)
        minimum := fun mouvements hlus =>
          (transfertsSansDebordement_iff (estI64_mouvements hlus)).1 (h.transferts mouvements hlus)
        totaux := htotaux
        enveloppes := ?_
        previsions := fun cycle e hlues =>
          (hlues.prevision_iff htotaux).1 (h.previsionnel cycle e hlues) }
    intro lignes hlues
    exact consommationsSansDebordement_iff.1 fun lignes' hperm =>
      h.consommations lignes' (hlues.perm hperm)
  · intro h
    refine
      { recurrences := fun occurrences hlues =>
          recurrencesSansDebordement_iff.2 (h.ecarts occurrences hlues)
        transferts := fun mouvements hlus =>
          (transfertsSansDebordement_iff (estI64_mouvements hlus)).2 (h.minimum mouvements hlus)
        totaux := fun cycle sens lignes hlues =>
          totauxSansDebordement_iff.2 (h.totaux cycle sens lignes hlues)
        consommations := fun lignes hlues =>
          consommationsSansDebordement_iff.2 (h.enveloppes lignes hlues) lignes (List.Perm.refl _)
        medianes := ?_
        previsionnel := fun cycle e hlues =>
          (hlues.prevision_iff h.totaux).2 (h.previsions cycle e hlues) }
    intro cycle e hlues
    have hlength := hlues.length
    constructor
    · refine medianesSansDebordement ?_
      rw [List.length_map, hlength]
      rfl
    · refine medianesSansDebordement ?_
      rw [List.length_map, hlength]
      rfl

end Proofs

/-! ## The least amount -/

/-- A user with one debit of the least amount. -/
def debitMinimal : Store :=
  Scenario.unCompte.fin
    [.createConsent "alice" "banque", .completeConsent "alice" reponseBanque,
      mouvementDe "T1" "Loyer" i64Min 20000]

/-- Its absolute value is not a machine integer. -/
theorem not_sansDebordement_debitMinimal :
    ¬ debitMinimal.SansDebordement Scenario.collation enClair "alice" := by
  intro h
  let cycle : CycleMensuel := ⟨Scenario.octobre, JourDebutMois.premier⟩
  have hlignes : LignesDuCycle Scenario.collation enClair "alice" debitMinimal cycle
      [(none, i64Min)] := by
    refine ⟨_, answers_interroger.2 ⟨⟨none, fun _ => 0, ⟨0⟩, 0⟩, rfl, rfl⟩, ?_⟩
    decide +kernel
  have hturn := (h.totaux cycle .debit _ hlignes).1.1.1
  revert hturn
  decide

end Budgy
