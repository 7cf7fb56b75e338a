import Budgy.Analysis.Aggregates
import Budgy.Interface.Ranks
import Mathlib.Data.List.GetD

/-!
# Medians by category

`medianes_par_categorie` keeps, for each category, the amounts of the months it appears in,
and completes them with zeros.  Up to their order these are the amounts of all the months,
whose median is told by ranks.
-/

set_option autoImplicit false

namespace Budgy

open Ranks

/-- The mean, rounded down, of the elements of the two central ranks, which are one rank when
the number of elements is odd. -/
def EstMediane (l : List ℤ) (m : ℤ) : Prop :=
  ∃ a b, HasRank l ((l.length - 1) / 2) a ∧ HasRank l (l.length / 2) b ∧ m = (a + b) / 2

/-- When there are two central elements, their sum is a machine integer. -/
def CentralesBornees (l : List ℤ) : Prop :=
  l.length % 2 = 0 → ∀ a b, HasRank l ((l.length - 1) / 2) a → HasRank l (l.length / 2) b →
    a + b ≤ i64Max

/-- The amounts of a category, month after month, zero where it is absent. -/
def montantsMensuels (historique : List RepartitionDepenses) (c : Uuid) : List ℤ :=
  historique.map fun mois => mois.montantDe c

/-- The same months with their lines in other orders, themselves in another order. -/
def Rearrange (historique historique' : List RepartitionDepenses) : Prop :=
  ∃ h, List.Forall₂ (fun mois mois' : RepartitionDepenses => mois.lignes.Perm mois'.lignes)
    historique h ∧ h.Perm historique'

/-! ## One list -/

section One

variable {l l' : List ℤ} {m m' : ℤ}

/-- There is one median at most. -/
theorem EstMediane.unique (h : EstMediane l m) (h' : EstMediane l m') : m = m' := by
  obtain ⟨a, b, ha, hb, rfl⟩ := h
  obtain ⟨a', b', ha', hb', rfl⟩ := h'
  rw [ha.unique ha', hb.unique hb']

/-- `mediane` sorts the list in place: the order does not matter. -/
theorem mediane_perm (h : l.Perm l') : mediane l = mediane l' := by
  have htriees : Relational.sortBy id l = Relational.sortBy id l' :=
    Relational.sortBy_congr h fun _ _ _ _ hab => hab
  have hvide : l = [] ↔ l' = [] := by
    rw [← List.length_eq_zero_iff, h.length_eq, List.length_eq_zero_iff]
  unfold mediane
  rw [htriees]
  exact if_congr hvide rfl rfl

/-- The element that sorting puts at an index has that rank. -/
theorem hasRank_sortBy {k : ℕ} (hk : k < l.length) :
    HasRank l k ((Relational.sortBy id l).getD k 0) := by
  have hlength : k < (Relational.sortBy id l).length := by rwa [Relational.length_sortBy]
  have hrank := hasRank_getElem (Relational.pairwise_sortBy id l) hlength
  rw [List.getD_eq_getElem _ _ hlength]
  exact (hasRank_perm (Relational.perm_sortBy id l)).1 hrank

/-- `mediane` computes it for amounts whose middle values are small enough. -/
theorem estMediane_mediane (hne : l ≠ []) (hpos : ∀ n ∈ l, 0 ≤ n) (hmax : CentralesBornees l) :
    EstMediane l (mediane l) := by
  have hlength := List.length_pos_iff.2 hne
  have hcentre := hasRank_sortBy (l := l) (k := l.length / 2) (by omega)
  have hautre := hasRank_sortBy (l := l) (k := (l.length - 1) / 2) (by omega)
  refine ⟨_, _, hautre, hcentre, ?_⟩
  unfold mediane
  rw [if_neg hne]
  dsimp only
  rw [Relational.length_sortBy]
  split_ifs with hpair
  · have hrang : l.length / 2 - 1 = (l.length - 1) / 2 := by omega
    have ha := hpos _ hautre.mem
    have hb := hpos _ hcentre.mem
    have hsomme : EstI64 ((Relational.sortBy id l).getD ((l.length - 1) / 2) 0 +
        (Relational.sortBy id l).getD (l.length / 2) 0) :=
      ⟨by unfold i64Min; omega, hmax hpair _ _ hautre hcentre⟩
    rw [hrang, i64_of_estI64 hsomme, Int.tdiv_eq_ediv_of_nonneg (by omega)]
  · have hrang : (l.length - 1) / 2 = l.length / 2 := by omega
    rw [hrang]
    omega

end One

/-! ## The amounts kept for a category -/

section History

variable {historique historique' : List RepartitionDepenses} {c : Uuid}

/-- The amounts of the months a category appears in. -/
def montantsPresents (historique : List RepartitionDepenses) (c : Uuid) : List ℤ :=
  historique.filterMap fun mois => (indexerParCategorie mois).lookup c

/-- One more cycle adds its amount, when the category has a line in it. -/
theorem montantsPresents_cons (mois : RepartitionDepenses) :
    montantsPresents (mois :: historique) c =
      ((indexerParCategorie mois).lookup c).toList ++ montantsPresents historique c := by
  unfold montantsPresents
  rw [List.filterMap_cons]
  cases (indexerParCategorie mois).lookup c <;> rfl

/-- There are no more amounts than cycles. -/
theorem length_montantsPresents : (montantsPresents historique c).length ≤ historique.length :=
  List.length_filterMap_le _ _

/-- One month adds its amount to each of its categories. -/
theorem lookup_ajouterMois {l : List (Uuid × ℤ)} (hl : (l.map Prod.fst).Nodup)
    (m : HashMap Uuid (List ℤ)) (c : Uuid) :
    ((l.foldl (fun m e => m.modifier e.1 [] fun l => l ++ [e.2]) m).lookup c).getD [] =
      (m.lookup c).getD [] ++ (l.filter fun e => e.1 = c).map Prod.snd := by
  induction l generalizing m with
  | nil => exact (List.append_nil _).symm
  | cons e l ih =>
      rw [List.map_cons, List.nodup_cons] at hl
      rw [List.foldl_cons, ih hl.2, List.filter_cons]
      unfold HashMap.modifier
      by_cases hc : e.1 = c
      · subst hc
        rw [AList.lookup_insert, if_pos (by simp), List.map_cons, Option.getD_some,
          List.append_assoc, List.singleton_append]
      · rw [AList.lookup_insert_ne (Ne.symm hc), if_neg (by simpa using hc)]

/-- The bindings of a key in a map. -/
theorem liaisons_filter (m : HashMap Uuid ℤ) (c : Uuid) :
    (m.liaisons.filter fun e => e.1 = c).map Prod.snd = (m.lookup c).toList := by
  cases hlookup : m.lookup c with
  | none =>
      have hnone : (m.liaisons.filter fun e => e.1 = c) = [] := by
        refine List.filter_eq_nil_iff.2 fun e he heq => ?_
        have hc : e.1 = c := by simpa using heq
        have hfound : (e.1, e.2) ∈ m.liaisons := he
        rw [mem_liaisons, hc, hlookup] at hfound
        cases hfound
      rw [hnone]
      rfl
  | some v =>
      have hmem : (c, v) ∈ m.liaisons := mem_liaisons.2 hlookup
      rw [Grouping.filter_of_nodup (nodup_cles m) hmem]
      rfl

/-- The amounts gathered for a category are those of the cycles in which it has a line. -/
theorem lookup_mediansParCategorieMontants (historique : List RepartitionDepenses) (c : Uuid) :
    ((mediansParCategorieMontants historique).lookup c).getD [] = montantsPresents historique c := by
  induction historique using List.reverseRecOn with
  | nil => rfl
  | append_singleton historique mois ih =>
      have hajout := lookup_ajouterMois (nodup_cles (indexerParCategorie mois))
        (mediansParCategorieMontants historique) c
      rw [ih, liaisons_filter] at hajout
      rw [mediansParCategorieMontants, List.foldl_append, List.foldl_cons, List.foldl_nil]
      rw [mediansParCategorieMontants] at hajout
      rw [hajout, montantsPresents, montantsPresents, List.filterMap_append, List.filterMap_cons]
      cases (indexerParCategorie mois).lookup c <;> rfl

/-- Completed with zeros, the amounts kept are those of all the months. -/
theorem completer_montantsPresents (h : ∀ mois ∈ historique, mois.SansDoublon) (c : Uuid) :
    (completer historique.length (montantsPresents historique c)).Perm
      (montantsMensuels historique c) := by
  rw [completer, List.take_of_length_le length_montantsPresents]
  induction historique with
  | nil => exact .nil
  | cons mois historique ih =>
      have hmois := RepartitionDepenses.getD_lookup_indexer (h mois List.mem_cons_self) c
      have hperm := ih fun m hm => h m (List.mem_cons_of_mem mois hm)
      have hcourt : (montantsPresents historique c).length ≤ historique.length :=
        length_montantsPresents
      rw [montantsPresents_cons, montantsMensuels, List.map_cons, List.length_cons, ← hmois]
      cases (indexerParCategorie mois).lookup c with
      | none =>
          rw [Option.toList_none, List.nil_append, Option.getD_none, Nat.succ_sub hcourt,
            List.replicate_succ]
          exact List.perm_middle.trans (hperm.cons 0)
      | some v =>
          rw [Option.toList_some, List.singleton_append, Option.getD_some, List.length_cons,
            Nat.add_sub_add_right, List.cons_append]
          exact hperm.cons v

/-! ## The medians -/

/-- The months where nothing is spent have no median above zero. -/
theorem mediane_replicate_zero (n : ℕ) : mediane (List.replicate n 0) = 0 := by
  by_cases hn : n = 0
  · subst hn
    rfl
  · have hne : List.replicate n (0 : ℤ) ≠ [] := by simpa using hn
    have hbornees : CentralesBornees (List.replicate n 0) := by
      intro _ a b ha hb
      rw [List.eq_of_mem_replicate ha.mem, List.eq_of_mem_replicate hb.mem]
      decide
    obtain ⟨a, b, ha, hb, hmediane⟩ := estMediane_mediane hne
      (fun m hm => (List.eq_of_mem_replicate hm).ge) hbornees
    rw [hmediane, List.eq_of_mem_replicate ha.mem, List.eq_of_mem_replicate hb.mem]
    rfl

/-- A part of the bindings, with other values, has a part of the keys. -/
theorem cles_filterMap_sublist {ν ν' : Type} (f : ν → Option ν') (l : List (Uuid × ν)) :
    ((l.filterMap fun e => (f e.2).map fun v => (e.1, v)).map Prod.fst).Sublist
      (l.map Prod.fst) := by
  induction l with
  | nil => exact .slnil
  | cons e l ih =>
      rw [List.filterMap_cons, List.map_cons]
      cases f e.2 with
      | none => exact ih.cons e.1
      | some v => exact ih.cons_cons e.1

/-- A category has the median of its amounts when that one is positive. -/
theorem lookup_medianesParCategorie (h : ∀ mois ∈ historique, mois.SansDoublon) {m : ℤ} :
    (medianesParCategorie historique).lookup c = some m ↔
      0 < m ∧ mediane (montantsMensuels historique c) = m := by
  let mediane? (l : List ℤ) : Option ℤ :=
    if 0 < mediane (completer historique.length l) then
      some (mediane (completer historique.length l)) else none
  have hmedianes : medianesParCategorie historique = HashMap.collect
      ((mediansParCategorieMontants historique).liaisons.filterMap fun e =>
        (mediane? e.2).map fun m => (e.1, m)) := by
    unfold medianesParCategorie
    congr 1
    refine List.filterMap_congr fun e _ => ?_
    dsimp only [mediane?]
    split_ifs <;> rfl
  have hcles := (cles_filterMap_sublist mediane?
    (mediansParCategorieMontants historique).liaisons).nodup (nodup_cles _)
  have hpresents := lookup_mediansParCategorieMontants historique c
  have hperm := mediane_perm (completer_montantsPresents h c)
  rw [hmedianes, ← Option.mem_def, mem_lookup_collect hcles, List.mem_filterMap, ← hperm,
    ← hpresents]
  constructor
  · rintro ⟨⟨c', l⟩, hmem, hmediane⟩
    obtain ⟨m', hm', heq⟩ := Option.map_eq_some_iff.1 hmediane
    obtain ⟨rfl, rfl⟩ := Prod.mk.inj heq
    dsimp only [mediane?] at hm'
    split_ifs at hm' with hpositive
    rw [mem_liaisons.1 hmem, Option.getD_some]
    have hvaleur := Option.some.inj hm'
    exact ⟨hvaleur ▸ hpositive, hvaleur⟩
  · rintro ⟨hpositive, hmediane⟩
    cases hlookup : (mediansParCategorieMontants historique).lookup c with
    | none =>
        have hzero := mediane_replicate_zero historique.length
        rw [hlookup, Option.getD_none] at hmediane
        have hvide : completer historique.length [] = List.replicate historique.length 0 := by
          simp [completer]
        rw [hvide, hzero] at hmediane
        omega
    | some l =>
        rw [hlookup, Option.getD_some] at hmediane
        refine ⟨(c, l), mem_liaisons.2 hlookup, ?_⟩
        dsimp only [mediane?]
        rw [hmediane, if_pos hpositive]
        rfl

/-- Amounts that are not negative make monthly amounts that are not. -/
theorem montantsMensuels_nonneg
    (hpos : ∀ mois ∈ historique, ∀ ligne ∈ mois.lignes, 0 ≤ ligne.montantCents) :
    ∀ n ∈ montantsMensuels historique c, 0 ≤ n := by
  intro n hn
  obtain ⟨mois, hmois, rfl⟩ := List.mem_map.1 hn
  exact Grouping.sumAt_nonneg fun ligne hligne => hpos mois hmois ligne hligne

/-- The order of the lines of a month does not matter. -/
theorem montantDe_perm {mois mois' : RepartitionDepenses} (h : mois.lignes.Perm mois'.lignes) :
    mois.montantDe c = mois'.montantDe c := Grouping.sumAt_perm h

/-- Whether a breakdown names a category twice does not depend on its order. -/
theorem sansDoublon_perm {mois mois' : RepartitionDepenses} (h : mois.lignes.Perm mois'.lignes) :
    mois.SansDoublon ↔ mois'.SansDoublon := (h.filterMap _).nodup_iff

/-- The monthly amounts, in another order. -/
theorem Rearrange.perm_montantsMensuels (h : Rearrange historique historique') (c : Uuid) :
    (montantsMensuels historique' c).Perm (montantsMensuels historique c) := by
  obtain ⟨memes, hlignes, hmois⟩ := h
  have heq : montantsMensuels historique c = montantsMensuels memes c := by
    clear hmois
    unfold montantsMensuels
    induction hlignes with
    | nil => rfl
    | cons hperm _ ih => rw [List.map_cons, List.map_cons, montantDe_perm hperm, ih]
  rw [heq]
  exact (hmois.map _).symm

/-- Nor does a rearranged history. -/
theorem Rearrange.sansDoublon (h : Rearrange historique historique')
    (hdoublon : ∀ mois ∈ historique, mois.SansDoublon) : ∀ mois ∈ historique', mois.SansDoublon := by
  obtain ⟨memes, hlignes, hmois⟩ := h
  have hmemes : ∀ mois ∈ memes, mois.SansDoublon := by
    clear hmois
    induction hlignes with
    | nil => exact fun _ hmem => nomatch hmem
    | cons hperm _ ih =>
        intro mois hmem
        rcases List.mem_cons.1 hmem with rfl | hmem
        · exact (sansDoublon_perm hperm).1 (hdoublon _ List.mem_cons_self)
        · exact ih (fun m hm => hdoublon m (List.mem_cons_of_mem _ hm)) mois hmem
  exact fun mois hmem => hmemes mois (hmois.mem_iff.2 hmem)

/-- The medians returned are those of the monthly amounts, when they are positive; they do not
depend on the order of the months nor on that of the lines of a month. -/
theorem medianesParCategorie_spec (hdoublon : ∀ mois ∈ historique, mois.SansDoublon)
    (hpos : ∀ mois ∈ historique, ∀ ligne ∈ mois.lignes, 0 ≤ ligne.montantCents) :
    (∀ c, CentralesBornees (montantsMensuels historique c) → ∀ m,
      (medianesParCategorie historique).lookup c = some m ↔
        EstMediane (montantsMensuels historique c) m ∧ 0 < m) ∧
    (∀ historique', Rearrange historique historique' → ∀ c,
      (medianesParCategorie historique').lookup c = (medianesParCategorie historique).lookup c) := by
  constructor
  · intro c hbornees m
    rw [lookup_medianesParCategorie hdoublon, and_comm]
    refine and_congr_left fun hpositive => ?_
    by_cases hvide : montantsMensuels historique c = []
    · rw [hvide]
      constructor
      · intro h
        exact absurd hpositive (h ▸ lt_irrefl 0)
      · rintro ⟨a, b, ha, -, -⟩
        exact absurd ha.mem List.not_mem_nil
    · have hmediane := estMediane_mediane hvide (montantsMensuels_nonneg hpos) hbornees
      exact ⟨fun h => h ▸ hmediane, fun h => hmediane.unique h⟩
  · intro historique' h c
    refine Option.ext fun m => ?_
    rw [lookup_medianesParCategorie hdoublon, lookup_medianesParCategorie (h.sansDoublon hdoublon),
      mediane_perm (h.perm_montantsMensuels c)]

end History

/-- A category seen two months out of three. -/
def categorieCourses : Category :=
  { id := Uuid.fromU128 1, ownerId := none, name := "Courses", kind := .depense,
    color := "#607D8B", icon := "tag", createdAt := 0 }

/-- The breakdown of a month with one expense. -/
def moisDeCourses (montant : ℤ) : RepartitionDepenses :=
  ⟨montant, [⟨some categorieCourses, montant⟩]⟩

/-- The month without expenses counts for zero. -/
theorem mediane_courses : EstMediane
    (montantsMensuels [moisDeCourses 10000, ⟨0, []⟩, moisDeCourses 12000] categorieCourses.id)
      10000 := by
  have hdoublon : ∀ mois ∈ [moisDeCourses 10000, ⟨0, []⟩, moisDeCourses 12000],
      mois.SansDoublon := by
    unfold RepartitionDepenses.SansDoublon
    decide
  have hpos : ∀ mois ∈ [moisDeCourses 10000, ⟨0, []⟩, moisDeCourses 12000],
      ∀ ligne ∈ mois.lignes, 0 ≤ ligne.montantCents := by
    decide
  have hbornees : CentralesBornees (montantsMensuels
      [moisDeCourses 10000, ⟨0, []⟩, moisDeCourses 12000] categorieCourses.id) :=
    fun hpair => absurd hpair (by decide)
  have hlookup : (medianesParCategorie [moisDeCourses 10000, ⟨0, []⟩, moisDeCourses 12000]).lookup
      categorieCourses.id = some 10000 := by
    decide
  exact (((medianesParCategorie_spec hdoublon hpos).1 _ hbornees 10000).1 hlookup).1

end Budgy
