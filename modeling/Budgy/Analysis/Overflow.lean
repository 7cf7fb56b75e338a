import Mathlib.Logic.Relation
import Budgy.Analysis.Aggregates
import Budgy.Analysis.RecurrenceDetection
import Budgy.Interface.Folds
import Budgy.Model.Repository.Classement

/-!
# Arithmetic on the amounts

The amounts are machine integers that nothing bounds, and the program adds, subtracts and negates
them unchecked.  Each section says that no operation of one computation leaves the machine
integers, following its turns, and for which amounts this holds.
-/

set_option autoImplicit false

namespace Budgy

open Relational Folds Grouping

/-- Zero is a machine integer. -/
theorem estI64_zero : EstI64 0 := by decide

/-! ## Recurrences -/

section Recurrences

variable {montants l : List ℤ} {h b : ℤ}

/-- The comparison of a turn of `regrouper_par_montant`, with the first amount of the last
group. -/
def ComparaisonBornee (grappes : List (List OccurrenceTransaction)) (o : OccurrenceTransaction) :
    Prop :=
  ∀ premier suite, grappes.getLast? = some (premier :: suite) →
    EstI64 (premier.amountCents - o.amountCents) ∧ EstI64 |premier.amountCents - o.amountCents|

/-- No comparison of `detecter_recurrences` overflows. -/
def RecurrencesSansDebordement (occurrences : List OccurrenceTransaction) : Prop :=
  ∀ groupe ∈ parMarchand occurrences,
    EachTurn ajouterAuGroupe ComparaisonBornee [] (sortBy OccurrenceTransaction.amountCents groupe)

/-- The least amount beyond the tolerance. -/
def Suivante (montants : List ℤ) (h b : ℤ) : Prop :=
  b ∈ montants ∧ h + toleranceMontantCents < b ∧
    ∀ x ∈ montants, h + toleranceMontantCents < x → b ≤ x

/-- The least amount and, from each one to the next, the least beyond the tolerance. -/
def Tete (montants : List ℤ) (h : ℤ) : Prop :=
  ∃ m ∈ montants, (∀ x ∈ montants, m ≤ x) ∧ Relation.ReflTransGen (Suivante montants) m h

/-- In the amounts of one merchant, no gap above a head leaves the machine integers. -/
def EcartsContenus (occurrences : List OccurrenceTransaction) : Prop :=
  ∀ groupe ∈ parMarchand occurrences, ∀ h b,
    Tete (groupe.map OccurrenceTransaction.amountCents) h →
      Suivante (groupe.map OccurrenceTransaction.amountCents) h b → b - h ≤ i64Max

/-- There is one next amount at most. -/
theorem Suivante.unique {b' : ℤ} (hb : Suivante montants h b) (hb' : Suivante montants h b') :
    b = b' := le_antisymm (hb.2.2 b' hb'.1 hb'.2.1) (hb'.2.2 b hb.1 hb.2.1)

/-- The loop on the amounts alone: the head of the last group. -/
def tourTete (tete : Option ℤ) (b : ℤ) : Option ℤ :=
  match tete with
  | none => some b
  | some h => if |h - b| ≤ toleranceMontantCents then some h else some b

/-- The first element of a group changes when the amount is too far. -/
theorem tourTete_some :
    tourTete (some h) b = if |h - b| ≤ toleranceMontantCents then some h else some b := rfl

/-- The difference of two amounts and its absolute value are machine integers. -/
def TourBorne (tete : Option ℤ) (b : ℤ) : Prop :=
  ∀ h ∈ tete, EstI64 (h - b) ∧ EstI64 |h - b|

/-- An amount above the head is compared without overflow when the gap fits. -/
theorem tourBorne_iff (hle : h ≤ b) : TourBorne (some h) b ↔ b - h ≤ i64Max := by
  have habs : |h - b| = b - h := by
    rw [abs_sub_comm]
    exact abs_of_nonneg (by omega)
  constructor
  · intro hturn
    have hbounds := (hturn h rfl).2
    rw [habs] at hbounds
    exact hbounds.2
  · intro hmax h' hh'
    obtain rfl := Option.some.inj hh'
    rw [habs]
    unfold EstI64 i64Min
    unfold i64Max at hmax ⊢
    omega

/-- From a head, the turns that remain are bounded when the gaps above the heads that remain
are. -/
theorem tours_iff (hsorted : l.Pairwise (· ≤ ·)) (hle : ∀ x ∈ l, h ≤ x)
    (hsub : ∀ x ∈ l, x ∈ montants)
    (hreste : ∀ x ∈ montants, h + toleranceMontantCents < x → x ∈ l) :
    EachTurn tourTete TourBorne (some h) l ↔
      ∀ h' b, Relation.ReflTransGen (Suivante montants) h h' → Suivante montants h' b →
        b - h' ≤ i64Max := by
  have htol : toleranceMontantCents = 100 := rfl
  induction l generalizing h with
  | nil =>
      have hfin : ∀ b, ¬ Suivante montants h b := by
        intro b hb
        cases hreste b hb.1 hb.2.1
      constructor
      · intro _ h' b hpath hb
        rcases Relation.ReflTransGen.cases_head hpath with rfl | ⟨c, hc, -⟩
        · exact absurd hb (hfin b)
        · exact absurd hc (hfin c)
      · intro _
        trivial
  | cons b l ih =>
      have hhb : h ≤ b := hle b List.mem_cons_self
      have htail := (List.pairwise_cons.1 hsorted)
      have habs : |h - b| = b - h := by
        rw [abs_sub_comm]
        exact abs_of_nonneg (by omega)
      rw [EachTurn, tourBorne_iff hhb]
      by_cases hproche : b - h ≤ toleranceMontantCents
      · have hstep : tourTete (some h) b = some h := by
          rw [tourTete_some, habs]
          exact if_pos hproche
        have hmax : b - h ≤ i64Max := by
          unfold i64Max
          omega
        have hloins : ∀ x ∈ montants, h + toleranceMontantCents < x → x ∈ l := by
          intro x hx hloin
          rcases List.mem_cons.1 (hreste x hx hloin) with rfl | hmem
          · omega
          · exact hmem
        have hrest := ih htail.2 (fun x hx => hle x (List.mem_cons_of_mem b hx))
          (fun x hx => hsub x (List.mem_cons_of_mem b hx)) hloins
        rw [hstep]
        exact (and_iff_right hmax).trans hrest
      · have hstep : tourTete (some h) b = some b := by
          rw [tourTete_some, habs]
          exact if_neg hproche
        have hb : Suivante montants h b := by
          refine ⟨hsub b List.mem_cons_self, by omega, fun x hx hloin => ?_⟩
          rcases List.mem_cons.1 (hreste x hx hloin) with rfl | hmem
          · exact le_rfl
          · exact htail.1 x hmem
        have hloins : ∀ x ∈ montants, b + toleranceMontantCents < x → x ∈ l := by
          intro x hx hloin
          rcases List.mem_cons.1 (hreste x hx (by omega)) with rfl | hmem
          · omega
          · exact hmem
        have hrest := ih htail.2 htail.1 (fun x hx => hsub x (List.mem_cons_of_mem b hx)) hloins
        rw [hstep]
        refine (and_congr_right fun _ => hrest).trans ?_
        constructor
        · rintro ⟨hmax, hall⟩ h' b' hpath hb'
          rcases Relation.ReflTransGen.cases_head hpath with rfl | ⟨c, hc, hcpath⟩
          · rw [hb'.unique hb]
            exact hmax
          · rw [hc.unique hb] at hcpath
            exact hall h' b' hcpath hb'
        · intro hall
          refine ⟨hall h b .refl hb, fun h' b' hpath hb' => ?_⟩
          exact hall h' b' (.head hb hpath) hb'

/-- All the turns of a sorted list. -/
theorem tours_sorted_iff (hsorted : l.Pairwise (· ≤ ·)) (hmem : ∀ x, x ∈ l ↔ x ∈ montants) :
    EachTurn tourTete TourBorne none l ↔
      ∀ h b, Tete montants h → Suivante montants h b → b - h ≤ i64Max := by
  have htol : toleranceMontantCents = 100 := rfl
  cases l with
  | nil =>
      constructor
      · rintro _ h b ⟨m, hm, -⟩
        cases (hmem m).2 hm
      · intro _
        trivial
  | cons m l =>
      obtain ⟨hmin, hl⟩ := List.pairwise_cons.1 hsorted
      have hpremier : TourBorne none m := fun h hh => nomatch hh
      have hleast : ∀ x ∈ montants, m ≤ x := by
        intro x hx
        rcases List.mem_cons.1 ((hmem x).2 hx) with rfl | hx
        · exact le_rfl
        · exact hmin x hx
      have hm : m ∈ montants := (hmem m).1 List.mem_cons_self
      rw [EachTurn, and_iff_right hpremier]
      show EachTurn tourTete TourBorne (some m) l ↔ _
      have hloins : ∀ x ∈ montants, m + toleranceMontantCents < x → x ∈ l := by
        intro x hx hloin
        rcases List.mem_cons.1 ((hmem x).2 hx) with rfl | hx
        · omega
        · exact hx
      have hrest := tours_iff hl hmin (fun x hx => (hmem x).1 (List.mem_cons_of_mem m hx)) hloins
      rw [hrest]
      constructor
      · rintro hall h b ⟨m', hm', hleast', hpath⟩ hb
        obtain rfl := le_antisymm (hleast m' hm') (hleast' m hm)
        exact hall h b hpath hb
      · intro hall h b hpath hb
        exact hall h b ⟨m, hm, hleast, hpath⟩ hb

/-- The head of the last group. -/
def teteDesGrappes (grappes : List (List OccurrenceTransaction)) : Option ℤ :=
  (grappes.getLast?.bind List.head?).map OccurrenceTransaction.amountCents

/-- The comparisons of occurrences are those of their amounts. -/
theorem tours_occurrences_iff (occurrences : List OccurrenceTransaction) :
    EachTurn ajouterAuGroupe ComparaisonBornee [] occurrences ↔
      EachTurn tourTete TourBorne none (occurrences.map OccurrenceTransaction.amountCents) := by
  rw [eachTurn_map]
  refine eachTurn_iff (fun grappes tete => tete = teteDesGrappes grappes) ?_ ?_ rfl
  · rintro grappes tete o rfl
    constructor
    · intro hturn h hh
      obtain ⟨premier, hpremier, rfl⟩ := Option.map_eq_some_iff.1 hh
      obtain ⟨grappe, hgrappe, hhead⟩ := Option.bind_eq_some_iff.1 hpremier
      obtain ⟨suite, rfl⟩ := List.head?_eq_some_iff.1 hhead
      exact hturn premier suite hgrappe
    · intro hturn premier suite hlast
      refine hturn premier.amountCents ?_
      unfold teteDesGrappes
      rw [hlast]
      rfl
  · rintro grappes tete o rfl hturn
    unfold ajouterAuGroupe
    split
    · rename_i premier suite hlast
      have htete : teteDesGrappes grappes = some premier.amountCents := by
        unfold teteDesGrappes
        rw [hlast]
        rfl
      obtain ⟨hdiff, habs⟩ := hturn premier suite hlast
      have hproches : montantsProches premier.amountCents o.amountCents = true ↔
          |premier.amountCents - o.amountCents| ≤ toleranceMontantCents := by
        unfold montantsProches
        rw [i64_of_estI64 hdiff, i64_of_estI64 habs, decide_eq_true_iff]
      rw [htete, tourTete_some, if_congr hproches.symm rfl rfl]
      unfold teteDesGrappes
      split
      · simp
      · simp
    · rename_i hautre
      have htete : teteDesGrappes grappes = none := by
        unfold teteDesGrappes
        rw [Option.map_eq_none_iff, Option.bind_eq_none_iff]
        intro grappe hgrappe
        cases grappe with
        | nil => rfl
        | cons premier suite => exact absurd hgrappe (hautre premier suite)
      rw [htete]
      unfold tourTete teteDesGrappes
      simp

/-- The comparisons stay within the machine integers exactly when the gaps above the heads
do. -/
theorem recurrencesSansDebordement_iff {occurrences : List OccurrenceTransaction} :
    RecurrencesSansDebordement occurrences ↔ EcartsContenus occurrences := by
  refine forall₂_congr fun groupe _ => ?_
  have hsorted : ((sortBy OccurrenceTransaction.amountCents groupe).map
      OccurrenceTransaction.amountCents).Pairwise (· ≤ ·) :=
    List.pairwise_map.2 (pairwise_sortBy _ _)
  rw [tours_occurrences_iff, tours_sorted_iff hsorted fun x => ?_]
  exact ((perm_sortBy _ _).map _).mem_iff

end Recurrences

/-! ## Internal transfers -/

/-- No negation of `sont_les_deux_faces` overflows: the debit is negated once the accounts
differ. -/
def TransfertsSansDebordement (mouvements : List MouvementCandidat) : Prop :=
  ∀ debit ∈ mouvements, debit.amountCents < 0 → ∀ credit ∈ mouvements, 0 < credit.amountCents →
    credit.compte ≠ debit.compte → EstI64 (-debit.amountCents)

/-- A debit of the least amount meets no credit of another account. -/
def MinimumIsole (mouvements : List MouvementCandidat) : Prop :=
  ∀ debit ∈ mouvements, debit.amountCents = i64Min → ∀ credit ∈ mouvements,
    0 < credit.amountCents → credit.compte = debit.compte

/-- The detection of transfers does not overflow when the least amount is alone in its kind. -/
theorem transfertsSansDebordement_iff {mouvements : List MouvementCandidat}
    (hmontants : ∀ m ∈ mouvements, EstI64 m.amountCents) :
    TransfertsSansDebordement mouvements ↔ MinimumIsole mouvements := by
  constructor
  · intro h debit hdebit hmin credit hcredit hpos
    by_contra hcompte
    have hneg : debit.amountCents < 0 := by
      rw [hmin]
      decide
    have hbounds := (h debit hdebit hneg credit hcredit hpos hcompte).2
    rw [hmin] at hbounds
    exact absurd hbounds (by decide)
  · intro h debit hdebit hneg credit hcredit hpos hcompte
    have hbounds := hmontants debit hdebit
    have hne : debit.amountCents ≠ i64Min := fun hmin =>
      hcompte (h debit hdebit hmin credit hcredit hpos)
    unfold EstI64 i64Min i64Max at *
    omega

/-! ## Totals of a cycle -/

/-- `Iterator::sum`: no partial sum overflows. -/
def SommeSansDebordement (l : List ℤ) : Prop :=
  EachTurn (fun acc n => i64 (acc + n)) (fun acc n => EstI64 (acc + n)) 0 l

/-- A sum of amounts that are not negative does not overflow when it fits. -/
theorem sommeSansDebordement_iff {l : List ℤ} (hl : ∀ n ∈ l, 0 ≤ n) :
    SommeSansDebordement l ↔ l.sum ≤ i64Max := by
  have hexact : SommeSansDebordement l ↔
      EachTurn (fun acc n => acc + n) (fun acc n => EstI64 (acc + n)) (0 : ℤ) l := by
    refine eachTurn_iff (fun acc exact => acc = exact) ?_ ?_ rfl
    · rintro acc _ n rfl
      exact Iff.rfl
    · rintro acc _ n rfl hturn
      exact i64_of_estI64 hturn
  rw [hexact]
  refine (eachTurn_sum_iff hl estI64_zero).trans ?_
  rw [zero_add]

section Totaux

variable {sens : Depenses.Sens} {lignes l : List (Option Uuid × ℤ)}

/-- One turn of the loop of `montants_par_categorie`. -/
def cumulerTotal (totaux : HashMap (Option Uuid) ℤ) (e : Option Uuid × ℤ) :
    HashMap (Option Uuid) ℤ :=
  totaux.modifier e.1 0 fun n => i64 (n + i64 |e.2|)

/-- The absolute value of an amount, and its addition to the total of its category. -/
def CumulBorne (totaux : HashMap (Option Uuid) ℤ) (e : Option Uuid × ℤ) : Prop :=
  EstI64 |e.2| ∧ EstI64 ((totaux.lookup e.1).getD 0 + i64 |e.2|)

/-- The totals by category are a fold over the amounts that the direction keeps. -/
theorem totauxParCategorie_eq : Depenses.totauxParCategorie sens lignes =
    (lignes.filter fun l => sens.retient l.2).foldl cumulerTotal ∅ := rfl

/-- No operation of `montants_par_categorie` overflows, nor the total of `repartition`. -/
def TotauxSansDebordement (sens : Depenses.Sens) (lignes : List (Option Uuid × ℤ)) : Prop :=
  EachTurn cumulerTotal CumulBorne ∅ (lignes.filter fun l => sens.retient l.2) ∧
    SommeSansDebordement (Depenses.totauxParCategorie sens lignes).valeurs

/-- The totals hold the sums of the groups. -/
def TientSommes (totaux : HashMap (Option Uuid) ℤ) (f : Option Uuid → ℤ) : Prop :=
  ∀ k, (totaux.lookup k).getD 0 = f k

/-- A turn that does not overflow keeps the sums. -/
theorem TientSommes.cumulerTotal {totaux : HashMap (Option Uuid) ℤ} {f : Option Uuid → ℤ}
    {e : Option Uuid × ℤ} (h : TientSommes totaux f) (hturn : CumulBorne totaux e) :
    TientSommes (cumulerTotal totaux e) (addAt Prod.fst (fun e => |e.2|) f e) := by
  intro k
  unfold Budgy.cumulerTotal HashMap.modifier addAt
  by_cases hk : k = e.1
  · subst hk
    rw [AList.lookup_insert, Function.update_self, Option.getD_some]
    beta_reduce
    rw [i64_of_estI64 hturn.2, i64_of_estI64 hturn.1, h]
  · rw [AList.lookup_insert_ne hk, Function.update_of_ne hk, h]

/-- No amount, no sum. -/
theorem tientSommes_vide : TientSommes ∅ fun _ => 0 := fun _ => rfl

/-- The running sums of the categories. -/
theorem tours_cumulerTotal_iff :
    EachTurn cumulerTotal CumulBorne ∅ l ↔
      EachTurn (addAt Prod.fst fun e : Option Uuid × ℤ => |e.2|)
        (fun f e => EstI64 |e.2| ∧ EstI64 (f e.1 + |e.2|)) (fun _ => 0) l := by
  refine eachTurn_iff TientSommes ?_ (fun totaux f e h => h.cumulerTotal) tientSommes_vide
  intro totaux f e h
  refine and_congr_right fun habs => ?_
  rw [h, i64_of_estI64 habs]

/-- The categories of the totals are those of the lines. -/
theorem mem_foldl_cumulerTotal {k : Option Uuid} :
    k ∈ l.foldl cumulerTotal ∅ ↔ k ∈ l.map Prod.fst := by
  induction l using List.reverseRecOn with
  | nil => simp
  | append_singleton l e ih =>
      rw [List.foldl_append, List.foldl_cons, List.foldl_nil, cumulerTotal, HashMap.modifier,
        AList.mem_insert, ih, List.map_append, List.mem_append, List.map_singleton,
        List.mem_singleton, or_comm]

/-- Within the bounds, the totals are the sums of the groups. -/
theorem lookup_foldl_cumulerTotal (hturns : EachTurn cumulerTotal CumulBorne ∅ l)
    (k : Option Uuid) (v : ℤ) :
    (l.foldl cumulerTotal ∅).lookup k = some v ↔
      k ∈ l.map Prod.fst ∧ sumAt Prod.fst (fun e => |e.2|) l k = v := by
  have hsomme : ((l.foldl cumulerTotal ∅).lookup k).getD 0 = sumAt Prod.fst (fun e => |e.2|) l k := by
    have h := related_foldl (P := CumulBorne) TientSommes (fun totaux f e h => h.cumulerTotal)
      tientSommes_vide hturns k
    rw [h, foldl_addAt, zero_add]
  rw [← mem_foldl_cumulerTotal, ← hsomme, ← AList.lookup_isSome]
  cases (l.foldl cumulerTotal ∅).lookup k with
  | none => simp
  | some n => simp

/-- They add up to the magnitudes of the lines. -/
theorem valeurs_foldl_cumulerTotal (hturns : EachTurn cumulerTotal CumulBorne ∅ l) :
    (∀ n ∈ (l.foldl cumulerTotal ∅).valeurs, 0 ≤ n) ∧
      (l.foldl cumulerTotal ∅).valeurs.sum = (l.map fun e => |e.2|).sum := by
  have hvaleurs : (l.foldl cumulerTotal ∅).valeurs.Perm ((l.map Prod.fst).dedup.map
      (sumAt Prod.fst (fun e => |e.2|) l)) := by
    have h := (liaisons_of_lookup (lookup_foldl_cumulerTotal hturns)).map Prod.snd
    rw [List.map_map] at h
    rw [HashMap.valeurs]
    simpa [HashMap.liaisons, Function.comp_def] using h
  constructor
  · intro n hn
    obtain ⟨k, -, rfl⟩ := List.mem_map.1 (hvaleurs.mem_iff.1 hn)
    exact sumAt_nonneg fun e _ => abs_nonneg e.2
  · rw [hvaleurs.sum_eq, sum_sumAt]

/-- The running sums fit when the whole does. -/
theorem tours_cumulerTotal_of_sum (hmax : (l.map fun e => |e.2|).sum ≤ i64Max) :
    EachTurn cumulerTotal CumulBorne ∅ l := by
  refine tours_cumulerTotal_iff.2 (eachTurn_iff_forall.2 fun p e q hl => ?_)
  have hpart : sumAt Prod.fst (fun e => |e.2|) (p ++ [e]) e.1 ≤
      ((p ++ [e]).map fun e => |e.2|).sum := sumAt_le fun i _ => abs_nonneg i.2
  have hgroupe : 0 ≤ sumAt Prod.fst (fun e => |e.2|) p e.1 :=
    sumAt_nonneg fun i _ => abs_nonneg i.2
  have hreste : 0 ≤ (q.map fun e : Option Uuid × ℤ => |e.2|).sum := by
    refine List.sum_nonneg fun n hn => ?_
    obtain ⟨i, -, rfl⟩ := List.mem_map.1 hn
    exact abs_nonneg i.2
  have habs : 0 ≤ |e.2| := abs_nonneg e.2
  rw [sumAt_append, sumAt_singleton, if_pos rfl] at hpart
  rw [hl] at hmax
  simp only [List.map_append, List.map_cons, List.map_nil, List.sum_append, List.sum_cons,
    List.sum_nil] at hmax hpart
  rw [foldl_addAt, zero_add]
  unfold EstI64 i64Min
  omega

/-- The totals stay within the machine integers exactly when the magnitudes of the retained
amounts add up to at most the greatest one. -/
theorem totauxSansDebordement_iff :
    TotauxSansDebordement sens lignes ↔
      ((lignes.filter fun l => sens.retient l.2).map fun l => |l.2|).sum ≤ i64Max := by
  unfold TotauxSansDebordement
  rw [totauxParCategorie_eq]
  constructor
  · rintro ⟨hturns, htotal⟩
    obtain ⟨hpos, hsum⟩ := valeurs_foldl_cumulerTotal hturns
    rw [← hsum]
    exact (sommeSansDebordement_iff hpos).1 htotal
  · intro hmax
    have hturns := tours_cumulerTotal_of_sum hmax
    obtain ⟨hpos, hsum⟩ := valeurs_foldl_cumulerTotal hturns
    refine ⟨hturns, (sommeSansDebordement_iff hpos).2 ?_⟩
    rw [hsum]
    exact hmax

end Totaux

/-! ## Envelopes -/

section Enveloppes

open Enveloppes (Consommation totaliser)

variable {lignes : List (Uuid × ℤ)}

/-- One turn of the loop of `consommations`. -/
def consommer (totaux : HashMap Uuid Consommation) (e : Uuid × ℤ) : HashMap Uuid Consommation :=
  totaux.modifier e.1 ⟨0, 0⟩ fun c => ⟨i64 (c.depenseCents + i64 (-e.2)), i64 (c.nombre + 1)⟩

/-- The opposite of an amount, its addition to its envelope, and the number of operations. -/
def ConsommationBornee (totaux : HashMap Uuid Consommation) (e : Uuid × ℤ) : Prop :=
  EstI64 (-e.2) ∧ EstI64 (((totaux.lookup e.1).getD ⟨0, 0⟩).depenseCents + i64 (-e.2)) ∧
    EstI64 (((totaux.lookup e.1).getD ⟨0, 0⟩).nombre + 1)

/-- No operation of `consommations` overflows. -/
def ConsommationsSansDebordement (lignes : List (Uuid × ℤ)) : Prop :=
  EachTurn consommer ConsommationBornee ∅ lignes

/-- The totals hold the net sums and the numbers of the envelopes. -/
def TientConsommations (totaux : HashMap Uuid Consommation) (f : (Uuid → ℤ) × (Uuid → ℤ)) : Prop :=
  ∀ k, (totaux.lookup k).getD ⟨0, 0⟩ = ⟨f.1 k, f.2 k⟩

/-- The net sums and the numbers, without bounds. -/
def consommerExact (f : (Uuid → ℤ) × (Uuid → ℤ)) (e : Uuid × ℤ) : (Uuid → ℤ) × (Uuid → ℤ) :=
  (addAt Prod.fst (fun e => -e.2) f.1 e, addAt Prod.fst (fun _ => 1) f.2 e)

/-- A turn that does not overflow keeps the spending. -/
theorem TientConsommations.consommer {totaux : HashMap Uuid Consommation}
    {f : (Uuid → ℤ) × (Uuid → ℤ)} {e : Uuid × ℤ} (h : TientConsommations totaux f)
    (hturn : ConsommationBornee totaux e) :
    TientConsommations (consommer totaux e) (consommerExact f e) := by
  intro k
  obtain ⟨hneg, hsum, hnombre⟩ := hturn
  rw [h, i64_of_estI64 hneg] at hsum
  rw [h] at hnombre
  unfold Budgy.consommer HashMap.modifier consommerExact addAt
  by_cases hk : k = e.1
  · subst hk
    rw [AList.lookup_insert, Option.getD_some, h, i64_of_estI64 hneg]
    simp [i64_of_estI64 hsum, i64_of_estI64 hnombre]
  · rw [AList.lookup_insert_ne hk, h]
    simp [Function.update_of_ne hk]

/-- No transaction, no spending. -/
theorem tientConsommations_vide : TientConsommations ∅ (fun _ => 0, fun _ => 0) := fun _ => rfl

/-- The exact spending adds up the amounts and the transactions of each envelope. -/
theorem foldl_consommerExact (l : List (Uuid × ℤ)) (f : (Uuid → ℤ) × (Uuid → ℤ)) :
    l.foldl consommerExact f =
      (l.foldl (addAt Prod.fst fun e => -e.2) f.1, l.foldl (addAt Prod.fst fun _ => 1) f.2) := by
  induction l generalizing f with
  | nil => rfl
  | cons e l ih => exact ih (consommerExact f e)

/-- The turns of the loop, by what was read before each of them. -/
theorem consommationsSansDebordement_iff_forall :
    ConsommationsSansDebordement lignes ↔ ∀ p e q, lignes = p ++ e :: q →
      EstI64 (-e.2) ∧ EstI64 (sumAt Prod.fst (fun e => -e.2) (p ++ [e]) e.1) ∧
        EstI64 (sumAt Prod.fst (fun _ => 1) (p ++ [e]) e.1) := by
  have hexact : ConsommationsSansDebordement lignes ↔
      EachTurn consommerExact (fun f e => EstI64 (-e.2) ∧ EstI64 (f.1 e.1 + -e.2) ∧
        EstI64 (f.2 e.1 + 1)) (fun _ => 0, fun _ => 0) lignes := by
    refine eachTurn_iff TientConsommations ?_ (fun totaux f e h => h.consommer)
      tientConsommations_vide
    intro totaux f e h
    unfold ConsommationBornee
    rw [h]
    refine and_congr_right fun hneg => ?_
    rw [i64_of_estI64 hneg]
  have hsums : ∀ (p : List (Uuid × ℤ)) (e : Uuid × ℤ) (value : Uuid × ℤ → ℤ),
      sumAt Prod.fst value (p ++ [e]) e.1 =
        p.foldl (addAt Prod.fst value) (fun _ => 0) e.1 + value e := by
    intro p e value
    rw [foldl_addAt, zero_add, sumAt_append, sumAt_singleton, if_pos rfl]
  rw [hexact, eachTurn_iff_forall]
  refine forall_congr' fun p => forall_congr' fun e => forall_congr' fun q => ?_
  rw [foldl_consommerExact, hsums, hsums]

/-- The debits of an envelope, its credits and the number of its operations fit. -/
def EnveloppeContenue (lignes : List (Uuid × ℤ)) (enveloppe : Uuid) : Prop :=
  gains Prod.fst (fun e => -e.2) lignes enveloppe ≤ i64Max ∧
    i64Min ≤ losses Prod.fst (fun e => -e.2) lignes enveloppe ∧
    (lignes.countP fun e => e.1 = enveloppe) ≤ i64Max

/-- Counting gains one each time, and loses nothing. -/
theorem gains_un (k : Uuid) :
    gains Prod.fst (fun _ : Uuid × ℤ => 1) lignes k = (lignes.countP fun e => e.1 = k : ℕ) ∧
      losses Prod.fst (fun _ : Uuid × ℤ => 1) lignes k = 0 := by
  unfold gains losses sumAt
  simp [List.countP_eq_length_filter]

/-- In every order of the lines, the operations stay within the machine integers exactly when the
debits, the credits and the number of operations of each envelope do. -/
theorem consommationsSansDebordement_iff :
    (∀ lignes', lignes'.Perm lignes → ConsommationsSansDebordement lignes') ↔
      ∀ enveloppe, EnveloppeContenue lignes enveloppe := by
  have hzero : i64Min ≤ 0 ∧ (0 : ℤ) ≤ i64Max := estI64_zero
  have hbornes := fun value : Uuid × ℤ → ℤ =>
    @forall_perm_turns_iff i64Min i64Max _ _ _ Prod.fst value lignes hzero
  have hmontants := hbornes fun e => -e.2
  have hnombres := hbornes fun _ => 1
  constructor
  · intro h enveloppe
    have hm := hmontants.1 (fun l' hperm p e q hl =>
      (consommationsSansDebordement_iff_forall.1 (h l' hperm) p e q hl).2.1) enveloppe
    have hn := hnombres.1 (fun l' hperm p e q hl =>
      (consommationsSansDebordement_iff_forall.1 (h l' hperm) p e q hl).2.2) enveloppe
    rw [(gains_un enveloppe).1] at hn
    exact ⟨hm.2, hm.1, hn.2⟩
  · intro h l' hperm
    have hm := hmontants.2 fun k => ⟨(h k).2.1, (h k).1⟩
    have hn := hnombres.2 fun k => by
      rw [(gains_un k).1, (gains_un k).2]
      exact ⟨hzero.1, (h k).2.2⟩
    refine consommationsSansDebordement_iff_forall.2 fun p e q hl => ⟨?_, hm l' hperm p e q hl,
      hn l' hperm p e q hl⟩
    -- read first, a line is its own sum
    have hpremier : (e :: (p ++ q)).Perm lignes := by
      rw [hl] at hperm
      exact List.perm_middle.symm.trans hperm
    have hseul := hm _ hpremier [] e (p ++ q) rfl
    rw [List.nil_append, sumAt_singleton, if_pos rfl] at hseul
    exact hseul

end Enveloppes

/-! ## Medians -/

/-- The two middle values of `mediane` are added without overflow. -/
def MedianeSansDebordement (valeurs : List ℤ) : Prop :=
  let triees := sortBy id valeurs
  let milieu := triees.length / 2
  valeurs ≠ [] → triees.length % 2 = 0 →
    EstI64 (triees.getD (milieu - 1) 0 + triees.getD milieu 0)

/-- No median of the history overflows. -/
def MedianesSansDebordement (historique : List RepartitionDepenses) : Prop :=
  ∀ e ∈ (mediansParCategorieMontants historique).liaisons,
    MedianeSansDebordement (completer historique.length e.2)

/-- A completed list has the length asked for. -/
theorem length_completer (n : ℕ) (l : List ℤ) : (completer n l).length = n := by
  unfold completer
  rw [List.length_append, List.length_take, List.length_replicate]
  omega

/-- The median of an odd number of values adds nothing. -/
theorem medianesSansDebordement {historique : List RepartitionDepenses}
    (h : historique.length % 2 = 1) : MedianesSansDebordement historique := by
  intro e he
  show _ → (sortBy id (completer historique.length e.2)).length % 2 = 0 → _
  rw [length_sortBy, length_completer]
  intro _ hpair
  omega

/-! ## Forecast -/

section Previsionnel

variable {prevues reelles : HashMap Uuid ℤ} {categories : HashMap Uuid Category}

/-- The differences of one side of the forecast, and the sum of what remains. -/
def CoteSansDebordement (categories : HashMap Uuid Category) (prevues reelles : HashMap Uuid ℤ) :
    Prop :=
  (∀ e ∈ prevues.liaisons, EstI64 (e.2 - (reelles.lookup e.1).getD 0)) ∧
    SommeSansDebordement ((lignesPrevision categories prevues reelles).map (·.restantCents))

/-- What the predicted categories still promise, in all. -/
def aVenir (prevues reelles : HashMap Uuid ℤ) : ℤ :=
  (prevues.liaisons.map fun e => max (e.2 - (reelles.lookup e.1).getD 0) 0).sum

/-- Magnitudes that are machine integers on both sides: the differences are too. -/
def CoteMagnitudes (prevues reelles : HashMap Uuid ℤ) : Prop :=
  ∀ e ∈ prevues.liaisons, (0 ≤ e.2 ∧ e.2 ≤ i64Max) ∧
    0 ≤ (reelles.lookup e.1).getD 0 ∧ (reelles.lookup e.1).getD 0 ≤ i64Max

/-- The difference of two magnitudes is a machine integer. -/
theorem CoteMagnitudes.ecarts (h : CoteMagnitudes prevues reelles) :
    ∀ e ∈ prevues.liaisons, EstI64 (e.2 - (reelles.lookup e.1).getD 0) := by
  intro e he
  obtain ⟨⟨hprevu, hmax⟩, hreel, hreelMax⟩ := h e he
  exact ⟨by unfold i64Min; unfold i64Max at hreelMax; omega, by omega⟩

/-- The lines show what remains of each predicted amount. -/
theorem restants_eq (h : CoteMagnitudes prevues reelles) :
    (lignesPrevision categories prevues reelles).map (·.restantCents) =
      prevues.liaisons.map fun e => max (e.2 - (reelles.lookup e.1).getD 0) 0 := by
  unfold lignesPrevision
  rw [List.map_map]
  refine List.map_congr_left fun e he => ?_
  show max (i64 (e.2 - (reelles.lookup e.1).getD 0)) 0 = _
  rw [i64_of_estI64 (h.ecarts e he)]

/-- Nothing that remains is negative. -/
theorem restants_nonneg :
    ∀ n ∈ prevues.liaisons.map fun e => max (e.2 - (reelles.lookup e.1).getD 0) 0, 0 ≤ n := by
  intro n hn
  obtain ⟨e, -, rfl⟩ := List.mem_map.1 hn
  exact le_max_right _ _

/-- Between magnitudes, only the sum of what remains can overflow. -/
theorem coteSansDebordement_iff (h : CoteMagnitudes prevues reelles) :
    CoteSansDebordement categories prevues reelles ↔ aVenir prevues reelles ≤ i64Max := by
  rw [CoteSansDebordement, and_iff_right h.ecarts, restants_eq h]
  exact sommeSansDebordement_iff restants_nonneg

/-- Within the bounds, the sum of what remains is exact. -/
theorem somme_restants (h : CoteMagnitudes prevues reelles) (hmax : aVenir prevues reelles ≤ i64Max) :
    sommeI64 ((lignesPrevision categories prevues reelles).map (·.restantCents)) =
      aVenir prevues reelles := by
  rw [restants_eq h]
  exact sommeI64_eq restants_nonneg hmax

/-- No operation of `calculer_previsionnel` overflows: the two sides, what is to be received and
what is to be spent. -/
structure PrevisionSansDebordement (solde : ℤ) (depensesPrevues revenusPrevus : HashMap Uuid ℤ)
    (depensesRealisees revenusRealises : RepartitionDepenses)
    (categories : HashMap Uuid Category) : Prop where
  depenses : CoteSansDebordement categories depensesPrevues (indexerParCategorie depensesRealisees)
  revenus : CoteSansDebordement categories revenusPrevus (indexerParCategorie revenusRealises)
  encaisse : EstI64 (solde + sommeI64 ((lignesPrevision categories revenusPrevus
    (indexerParCategorie revenusRealises)).map (·.restantCents)))
  projete : EstI64 (i64 (solde + sommeI64 ((lignesPrevision categories revenusPrevus
      (indexerParCategorie revenusRealises)).map (·.restantCents))) -
    sommeI64 ((lignesPrevision categories depensesPrevues
      (indexerParCategorie depensesRealisees)).map (·.restantCents)))

/-- A forecast fits: what each side still promises, and the balance with it. -/
structure PrevisionContenue (solde depensesAVenir revenusAVenir : ℤ) : Prop where
  depenses : depensesAVenir ≤ i64Max
  revenus : revenusAVenir ≤ i64Max
  encaisse : EstI64 (solde + revenusAVenir)
  projete : EstI64 (solde + revenusAVenir - depensesAVenir)

/-- Between magnitudes, no operation overflows exactly when the forecast fits. -/
theorem previsionSansDebordement_iff {solde : ℤ} {depensesPrevues revenusPrevus : HashMap Uuid ℤ}
    {depensesRealisees revenusRealises : RepartitionDepenses}
    (hdepenses : CoteMagnitudes depensesPrevues (indexerParCategorie depensesRealisees))
    (hrevenus : CoteMagnitudes revenusPrevus (indexerParCategorie revenusRealises)) :
    PrevisionSansDebordement solde depensesPrevues revenusPrevus depensesRealisees revenusRealises
        categories ↔
      PrevisionContenue solde (aVenir depensesPrevues (indexerParCategorie depensesRealisees))
        (aVenir revenusPrevus (indexerParCategorie revenusRealises)) := by
  constructor
  · rintro ⟨hcoteDepenses, hcoteRevenus, hencaisse, hprojete⟩
    have hd := (coteSansDebordement_iff hdepenses).1 hcoteDepenses
    have hr := (coteSansDebordement_iff hrevenus).1 hcoteRevenus
    rw [somme_restants hrevenus hr] at hencaisse hprojete
    rw [i64_of_estI64 hencaisse, somme_restants hdepenses hd] at hprojete
    exact ⟨hd, hr, hencaisse, hprojete⟩
  · rintro ⟨hd, hr, hencaisse, hprojete⟩
    refine ⟨(coteSansDebordement_iff hdepenses).2 hd, (coteSansDebordement_iff hrevenus).2 hr,
      ?_, ?_⟩
    · rw [somme_restants hrevenus hr]
      exact hencaisse
    · rw [somme_restants hrevenus hr, somme_restants hdepenses hd, i64_of_estI64 hencaisse]
      exact hprojete

end Previsionnel

end Budgy
