import Budgy.Interface.Grouping
import Budgy.Model.Agregation

/-!
# Maps and sums

What the maps of `domain/agregation.rs` and the sums of machine integers are, apart from the
order in which they are built: the bindings of a map, the amount that a breakdown gives to a
category, a sum that stays within the bounds.
-/

set_option autoImplicit false

namespace Budgy

open Grouping

/-! ## Maps -/

section Maps

variable {κ ν : Type} [DecidableEq κ]

/-- Bindings with distinct keys are found again. -/
theorem mem_lookup_collect {l : List (κ × ν)} (h : (l.map Prod.fst).Nodup) {k : κ} {v : ν} :
    v ∈ (HashMap.collect l).lookup k ↔ (k, v) ∈ l := by
  induction l using List.reverseRecOn with
  | nil => simp [HashMap.collect]
  | append_singleton l e ih =>
      rw [List.map_append, List.nodup_append] at h
      obtain ⟨hl, -, hdisjoint⟩ := h
      have hcollect : HashMap.collect (l ++ [e]) = (HashMap.collect l).insert e.1 e.2 := by
        simp [HashMap.collect]
      rw [hcollect]
      by_cases hk : k = e.1
      · subst hk
        rw [AList.lookup_insert]
        constructor
        · intro hv
          obtain rfl : e.2 = v := Option.some.inj hv
          simp
        · intro hmem
          rcases List.mem_append.1 hmem with hmem | hmem
          · exact absurd rfl (hdisjoint e.1 (List.mem_map.2 ⟨_, hmem, rfl⟩) e.1 (by simp))
          · rw [← List.mem_singleton.1 hmem]
            rfl
      · rw [AList.lookup_insert_ne hk, ih hl]
        constructor
        · exact fun hmem => List.mem_append_left _ hmem
        · intro hmem
          rcases List.mem_append.1 hmem with hmem | hmem
          · exact hmem
          · exact absurd (congrArg Prod.fst (List.mem_singleton.1 hmem)) hk

/-- What is found was bound. -/
theorem mem_of_lookup_collect {l : List (κ × ν)} {k : κ} {v : ν}
    (h : v ∈ (HashMap.collect l).lookup k) : (k, v) ∈ l := by
  induction l using List.reverseRecOn with
  | nil => cases h
  | append_singleton l e ih =>
      have hcollect : HashMap.collect (l ++ [e]) = (HashMap.collect l).insert e.1 e.2 := by
        simp [HashMap.collect]
      rw [hcollect] at h
      by_cases hk : k = e.1
      · subst hk
        rw [AList.lookup_insert] at h
        obtain rfl : e.2 = v := Option.some.inj h
        exact List.mem_append_right _ (List.mem_singleton_self e)
      · rw [AList.lookup_insert_ne hk] at h
        exact List.mem_append_left _ (ih h)

/-- A binding is listed when its key is looked up to its value. -/
theorem mem_liaisons {m : HashMap κ ν} {k : κ} {v : ν} :
    (k, v) ∈ m.liaisons ↔ v ∈ m.lookup k := by
  rw [AList.mem_lookup_iff]
  simp only [HashMap.liaisons, List.mem_map]
  constructor
  · rintro ⟨e, he, heq⟩
    obtain ⟨rfl, rfl⟩ := Prod.mk.inj heq
    exact he
  · exact fun h => ⟨⟨k, v⟩, h, rfl⟩

omit [DecidableEq κ] in
/-- A key is listed once. -/
theorem nodup_cles (m : HashMap κ ν) : (m.liaisons.map Prod.fst).Nodup := by
  have h : m.entries.NodupKeys := m.nodupKeys
  unfold List.NodupKeys List.keys at h
  simpa [HashMap.liaisons, Function.comp_def] using h

omit [DecidableEq κ] in
/-- A binding is listed once. -/
theorem nodup_liaisons (m : HashMap κ ν) : m.liaisons.Nodup := (nodup_cles m).of_map _

/-- The bindings kept are those of the keys chosen. -/
theorem mem_liaisons_filtrer {m : HashMap κ ν} {p : κ → Bool} {k : κ} {v : ν} :
    (k, v) ∈ (m.filtrer p).liaisons ↔ p k = true ∧ v ∈ m.lookup k := by
  have hcles : ((m.liaisons.filter fun e => p e.1).map Prod.fst).Nodup :=
    (List.filter_sublist.map _).nodup (nodup_cles m)
  rw [HashMap.filtrer, mem_liaisons, mem_lookup_collect hcles, List.mem_filter, mem_liaisons,
    and_comm]

/-- The bindings of a map whose keys and values are known. -/
theorem liaisons_of_lookup {m : HashMap κ ν} {cles : List κ} {f : κ → ν}
    (h : ∀ k v, m.lookup k = some v ↔ k ∈ cles ∧ f k = v) :
    m.liaisons.Perm (cles.dedup.map fun k => (k, f k)) := by
  have hnodup : (cles.dedup.map fun k => (k, f k)).Nodup :=
    (List.nodup_dedup _).map fun k k' heq => congrArg Prod.fst heq
  refine (List.perm_ext_iff_of_nodup (nodup_liaisons _) hnodup).2 ?_
  rintro ⟨k, v⟩
  rw [mem_liaisons, Option.mem_def, h]
  simp only [List.mem_map, List.mem_dedup, Prod.mk.injEq]
  constructor
  · rintro ⟨hk, rfl⟩
    exact ⟨k, hk, rfl, rfl⟩
  · rintro ⟨k', hk, rfl, rfl⟩
    exact ⟨hk, rfl⟩

/-- The value of a key, zero when it has none, is the sum of its bindings. -/
theorem getD_lookup_collect {l : List (κ × ℤ)} (h : (l.map Prod.fst).Nodup) (k : κ) :
    ((HashMap.collect l).lookup k).getD 0 = sumAt Prod.fst Prod.snd l k := by
  cases hlookup : (HashMap.collect l).lookup k with
  | none =>
      have habsent : k ∉ l.map Prod.fst := by
        intro hk
        obtain ⟨⟨k', v⟩, hmem, rfl⟩ := List.mem_map.1 hk
        have hfound := (mem_lookup_collect h).2 hmem
        rw [hlookup] at hfound
        cases hfound
      exact (sumAt_eq_zero habsent).symm
  | some v =>
      have hmem := (mem_lookup_collect h).1 hlookup
      have hsum : sumAt Prod.fst Prod.snd l k = v := sumAt_of_nodup h hmem
      exact hsum.symm

end Maps

/-! ## Breakdowns -/

/-- The category of a line. -/
def LigneDepenseCategorie.cle (ligne : LigneDepenseCategorie) : Option Uuid :=
  ligne.category.map Category.id

namespace RepartitionDepenses

variable (r : RepartitionDepenses)

/-- The categories a breakdown has lines for. -/
def categories : List Uuid := r.lignes.filterMap LigneDepenseCategorie.cle

/-- Each category has one line at most. -/
def SansDoublon : Prop := r.categories.Nodup

/-- The amount of a category: the sum of its lines. -/
def montantDe (c : Uuid) : ℤ :=
  sumAt LigneDepenseCategorie.cle LigneDepenseCategorie.montantCents r.lignes (some c)

variable {r}

/-- The bindings that `indexer_par_categorie` collects. -/
private theorem liaisons_indexees (lignes : List LigneDepenseCategorie) :
    let l := lignes.filterMap fun ligne =>
      ligne.category.map fun category => (category.id, ligne.montantCents)
    l.map Prod.fst = lignes.filterMap LigneDepenseCategorie.cle ∧
      ∀ c, sumAt Prod.fst Prod.snd l c =
        sumAt LigneDepenseCategorie.cle LigneDepenseCategorie.montantCents lignes (some c) := by
  induction lignes with
  | nil => exact ⟨rfl, fun _ => rfl⟩
  | cons ligne lignes ih =>
      obtain ⟨hcles, hsommes⟩ := ih
      dsimp only at hcles hsommes ⊢
      have hcons : ∀ c, sumAt LigneDepenseCategorie.cle LigneDepenseCategorie.montantCents
          (ligne :: lignes) (some c) = (if ligne.cle = some c then ligne.montantCents else 0) +
            sumAt LigneDepenseCategorie.cle LigneDepenseCategorie.montantCents lignes (some c) := by
        intro c
        rw [← sumAt_singleton, ← sumAt_append]
        rfl
      cases hcategorie : ligne.category with
      | none =>
          have hcle : ligne.cle = none := by rw [LigneDepenseCategorie.cle, hcategorie]; rfl
          have hne : ∀ c, ¬ ligne.cle = some c := fun c h => by rw [hcle] at h; cases h
          rw [List.filterMap_cons_none (by rw [hcategorie]; rfl), List.filterMap_cons_none hcle]
          exact ⟨hcles, fun c => by rw [hcons, if_neg (hne c), zero_add, hsommes]⟩
      | some category =>
          have hcle : ligne.cle = some category.id := by
            rw [LigneDepenseCategorie.cle, hcategorie]; rfl
          rw [List.filterMap_cons_some (by rw [hcategorie]; rfl), List.filterMap_cons_some hcle,
            List.map_cons, hcles]
          refine ⟨rfl, fun c => ?_⟩
          rw [hcons, hcle, ← hsommes, ← List.singleton_append, sumAt_append, sumAt_singleton]
          simp only [Option.some_inj]

/-- Indexed, a breakdown gives each category its amount. -/
theorem getD_lookup_indexer (h : r.SansDoublon) (c : Uuid) :
    ((indexerParCategorie r).lookup c).getD 0 = r.montantDe c := by
  obtain ⟨hcles, hsommes⟩ := liaisons_indexees r.lignes
  rw [indexerParCategorie, getD_lookup_collect (by rw [hcles]; exact h), hsommes]
  rfl

end RepartitionDepenses

/-! ## Sums within the machine integers -/

/-- A sum of magnitudes that stays below the bound is the exact sum. -/
theorem sommeI64_eq {l : List ℤ} (hpos : ∀ n ∈ l, 0 ≤ n) (hmax : l.sum ≤ i64Max) :
    sommeI64 l = l.sum := by
  induction l using List.reverseRecOn with
  | nil => rfl
  | append_singleton l n ih =>
      have hn : 0 ≤ n := hpos n (by simp)
      have hl : 0 ≤ l.sum := List.sum_nonneg fun m hm => hpos m (by simp [hm])
      rw [List.sum_append, List.sum_singleton] at hmax ⊢
      have hfold : sommeI64 (l ++ [n]) = i64 (sommeI64 l + n) := by simp [sommeI64]
      rw [hfold, ih (fun m hm => hpos m (by simp [hm])) (by omega)]
      exact i64_of_estI64 ⟨by unfold i64Min; omega, hmax⟩

end Budgy
