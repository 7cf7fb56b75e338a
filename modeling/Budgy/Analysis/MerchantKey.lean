import Mathlib.Data.List.Find
import Budgy.Analysis.DerivedRules

/-!
# The merchant key and the volatile words

Dates, months, card masks and references are meant not to separate two labels of one
merchant.  They are dropped last: a volatile word in front of an operation prefix keeps the
prefix, one inside a civility keeps the civility.  When no label hides a prefix or cuts a
civility in that way, the text extracted is that of the stable words alone; when two labels
have their volatile words at the same places, they hide and cut the same.
-/

set_option autoImplicit false

namespace Budgy

open Text

variable {mots : List String}

/-- The words that are not volatile. -/
def stables (mots : List String) : List String := mots.filter fun mot => !estTokenVolatile mot

/-- What the removal of the operation prefix takes from the stable words starts the label. -/
def PrefixeEntier (mots : List String) : Prop :=
  ∃ tete, stables mots = tete ++ sansPrefixe (stables mots) ∧ tete <+: mots

/-- As they are removed one after the other, no civility is cut by volatile words: dropping
them brings no occurrence of it together. -/
def CivilitesEntieres : List String → List String → Prop
  | [], _ => True
  | civilite :: suite, mots =>
      let reste := Excision.excise (splitWhitespace civilite) mots
      ¬ splitWhitespace civilite <:+: stables reste ∧ CivilitesEntieres suite reste

instance decidableCivilitesEntieres :
    ∀ l mots : List String, Decidable (CivilitesEntieres l mots)
  | [], _ => .isTrue trivial
  | civilite :: suite, mots =>
      have := decidableCivilitesEntieres suite (Excision.excise (splitWhitespace civilite) mots)
      inferInstanceAs (Decidable (_ ∧ _))

/-- No volatile word hides an operation prefix or cuts a civility. -/
structure SansSeparation (mots : List String) : Prop where
  prefixe : PrefixeEntier mots
  civilites : CivilitesEntieres civilites (sansPrefixe mots)

/-- A label with its volatile words made alike. -/
def masquer (mot : String) : String := if estTokenVolatile mot then "0" else mot

/-- The volatile words are at the same places, between the same stable words. -/
def MemesPlaces (mots mots' : List String) : Prop := mots.map masquer = mots'.map masquer

/-- Two labels with the same stable words, of which something survives, have one key. -/
def ClefStable (label label' : String) : Prop :=
  stables (motsDe label) = stables (motsDe label') →
    survivants (motsDe label) ≠ [] → survivants (motsDe label') ≠ [] →
      extraireTiers label = extraireTiers label'

/-! ## The words of the tables are stable -/

/-- No word of the tables is volatile. -/
private theorem stable_of_table {motif : List String}
    (h : motif ∈ motsDesPrefixes ++ motsDesCivilites) {mot : String} (hmot : mot ∈ motif) :
    estTokenVolatile mot = false := by
  have hall : ((motsDesPrefixes ++ motsDesCivilites).all fun motif =>
      motif.all fun mot => !estTokenVolatile mot) = true := by
    decide +kernel
  simpa using List.all_eq_true.1 (List.all_eq_true.1 hall motif h) mot hmot

/-- No word of a prefix is. -/
theorem stable_of_prefixe {p mot : String} (hp : p ∈ prefixes) (hmot : mot ∈ splitWhitespace p) :
    estTokenVolatile mot = false := by
  have htable : splitWhitespace p ∈ motsDesPrefixes := by
    rw [← motsDesPrefixes_eq]
    exact List.mem_map_of_mem hp
  exact stable_of_table (List.mem_append_left _ htable) hmot

/-- No word of a title is. -/
theorem stable_of_civilite {c mot : String} (hc : c ∈ civilites)
    (hmot : mot ∈ splitWhitespace c) : estTokenVolatile mot = false := by
  have htable : splitWhitespace c ∈ motsDesCivilites := by
    rw [← motsDesCivilites_eq]
    exact List.mem_map_of_mem hc
  exact stable_of_table (List.mem_append_right _ htable) hmot

/-- Words that are not volatile are all kept. -/
theorem stables_eq_self {motif : List String} (h : ∀ mot ∈ motif, estTokenVolatile mot = false) :
    stables motif = motif := by
  unfold stables
  rw [List.filter_eq_self]
  intro mot hmot
  rw [h mot hmot]
  rfl

/-- The words kept of two lists. -/
theorem stables_append (l l' : List String) : stables (l ++ l') = stables l ++ stables l' :=
  List.filter_append ..

/-- A word that is not volatile is kept. -/
theorem stables_cons_of_stable {mot : String} (h : estTokenVolatile mot = false) :
    stables (mot :: mots) = mot :: stables mots := by
  unfold stables
  rw [List.filter_cons_of_pos]
  rw [h]
  rfl

/-! ## The operation prefix -/

/-- The first prefix that starts the words is removed. -/
theorem sansPrefixe_eq_find (mots : List String) :
    sansPrefixe mots =
      ((prefixes.find? fun p => splitWhitespace p <+: mots).map fun p =>
        sansDe (mots.drop (splitWhitespace p).length)).getD mots := by
  have hfind : ∀ l : List String, l.findSome? (apresOperation? mots) =
      (l.find? fun p => splitWhitespace p <+: mots).map fun p =>
        sansDe (mots.drop (splitWhitespace p).length) := by
    intro l
    induction l with
    | nil => rfl
    | cons p l ih =>
        rw [List.findSome?_cons, List.find?_cons, ih]
        by_cases htete : splitWhitespace p <+: mots
        · simp [apresOperation?, htete]
        · simp [apresOperation?, htete]
  rw [sansPrefixe, hfind]

/-- A residual « DE » is dropped from the stable words as from the label, when it follows the
prefix there and something is left after it. -/
theorem stables_sansDe {suite : List String} (hreste : stables (sansDe suite) ≠ [])
    (htete : ∃ tete, stables suite = tete ++ sansDe (stables suite) ∧ tete <+: suite) :
    stables (sansDe suite) = sansDe (stables suite) := by
  have hde : estTokenVolatile "DE" = false := by decide
  obtain ⟨tete, hstables, hprefixe⟩ := htete
  by_cases hresiduel : ∃ mot mots', stables suite = "DE" :: mot :: mots'
  · -- the « DE » of the stable words is the one of the label
    obtain ⟨mot, mots', hsuite⟩ := hresiduel
    rw [hsuite] at hstables ⊢
    have htete : tete = ["DE"] := by
      rw [sansDe] at hstables
      exact List.append_cancel_right (hstables.symm.trans List.singleton_append.symm)
    obtain ⟨suite', rfl⟩ := hprefixe
    rw [htete, List.singleton_append, stables_cons_of_stable hde] at hsuite
    have hsuite' := (List.cons.inj hsuite).2
    cases suite' with
    | nil => cases hsuite'
    | cons premier suite' =>
        rw [htete]
        exact hsuite'
  · have hintacte : sansDe (stables suite) = stables suite := by
      rw [sansDe]
      rintro mot mots' h
      exact hresiduel ⟨mot, mots', h⟩
    rw [hintacte]
    by_cases hlabel : ∃ mot mots', suite = "DE" :: mot :: mots'
    · -- only volatile words follow this « DE »: nothing would be left
      obtain ⟨mot, mots', rfl⟩ := hlabel
      exfalso
      rw [stables_cons_of_stable hde] at hresiduel
      cases hfin : stables (mot :: mots') with
      | nil => exact hreste hfin
      | cons mot' mots'' => exact hresiduel ⟨mot', mots'', by rw [hfin]⟩
    · have hlabelIntacte : sansDe suite = suite := by
        rw [sansDe]
        rintro mot mots' h
        exact hlabel ⟨mot, mots', h⟩
      rw [hlabelIntacte]

/-- A prefix whole in the label is removed from the stable words as from the label. -/
theorem stables_sansPrefixe (hprefixe : PrefixeEntier mots)
    (hreste : stables (sansPrefixe mots) ≠ []) :
    stables (sansPrefixe mots) = sansPrefixe (stables mots) := by
  have hstable : ∀ p ∈ prefixes, splitWhitespace p <+: mots →
      splitWhitespace p <+: stables mots := by
    intro p hp htete
    rw [← stables_eq_self fun _ hmot => stable_of_prefixe hp hmot]
    exact htete.filter _
  obtain ⟨tete, hstables, htete⟩ := hprefixe
  rw [sansPrefixe_eq_find (stables mots)] at hstables ⊢
  cases hfind : prefixes.find? (fun p => splitWhitespace p <+: stables mots) with
  | none =>
      have hnone : prefixes.find? (fun p => splitWhitespace p <+: mots) = none := by
        rw [List.find?_eq_none] at hfind ⊢
        intro p hp htete
        exact hfind p hp (by simpa using hstable p hp (by simpa using htete))
      rw [sansPrefixe_eq_find mots, hnone]
      rfl
  | some p =>
      rw [hfind] at hstables
      obtain ⟨hp, avant, apres, hprefixes, havant⟩ := List.find?_eq_some_iff_append.1 hfind
      have hmem : p ∈ prefixes := by
        rw [hprefixes]
        simp
      obtain ⟨suite', hsuite'⟩ : splitWhitespace p <+: stables mots := by simpa using hp
      have hdrop : (stables mots).drop (splitWhitespace p).length = suite' := by
        rw [← hsuite', List.drop_left]
      change stables mots = tete ++ sansDe ((stables mots).drop _) at hstables
      rw [hdrop] at hstables
      -- the prefix is in what the removal takes
      obtain ⟨de, hde⟩ := @sansDe_suffix suite'
      have htete' : tete = splitWhitespace p ++ de := by
        have htout : tete ++ sansDe suite' = splitWhitespace p ++ de ++ sansDe suite' := by
          rw [← hstables, List.append_assoc, hde, hsuite']
        exact List.append_cancel_right htout
      obtain ⟨suite, rfl⟩ : splitWhitespace p <+: mots :=
        (htete' ▸ List.prefix_append _ _ : splitWhitespace p <+: tete).trans htete
      have hsuite : suite' = stables suite := by
        rw [stables_append, stables_eq_self fun _ hmot => stable_of_prefixe hmem hmot] at hsuite'
        exact List.append_cancel_left hsuite'
      have hsome : prefixes.find? (fun q => splitWhitespace q <+: splitWhitespace p ++ suite) =
          some p := by
        refine List.find?_eq_some_iff_append.2 ⟨by simp, avant, apres, hprefixes, ?_⟩
        intro q hq
        have hq' := havant q hq
        simp only [Bool.not_eq_true', decide_eq_false_iff_not] at hq' ⊢
        exact fun h => hq' (hstable q (by rw [hprefixes]; exact List.mem_append_left _ hq) h)
      rw [sansPrefixe_eq_find (splitWhitespace p ++ suite), hsome] at hreste ⊢
      simp only [Option.map_some, Option.getD_some, List.drop_left] at hreste ⊢
      rw [hdrop, hsuite]
      apply stables_sansDe hreste
      refine ⟨de, ?_, ?_⟩
      · rw [← hsuite, hde]
      · rw [htete'] at htete
        exact (List.prefix_append_right_inj _).1 htete

/-! ## The civilities -/

/-- The words of a title do not overlap themselves. -/
theorem unbordered_of_civilite {c : String} (hc : c ∈ civilites) :
    splitWhitespace c ≠ [] ∧ Excision.Unbordered (splitWhitespace c) := by
  have htable : splitWhitespace c ∈ motsDesCivilites := by
    rw [← motsDesCivilites_eq]
    exact List.mem_map_of_mem hc
  have hall : ∀ motif ∈ motsDesCivilites, ∃ mot ∈ motif.head?, mot ∉ motif.tail := by decide
  obtain ⟨mot, hmot, hnot⟩ := hall _ htable
  have hmotif : splitWhitespace c = mot :: (splitWhitespace c).tail := by
    rw [List.cons_head?_tail hmot]
  rw [hmotif]
  exact ⟨List.cons_ne_nil _ _, Excision.unbordered_of_notMem hnot⟩

/-- Civilities whole in the label are removed from the stable words as from the label. -/
theorem stables_sansMotifs {l : List String} (hl : ∀ c ∈ l, c ∈ civilites)
    (h : CivilitesEntieres l mots) : stables (sansMotifs l mots) = sansMotifs l (stables mots) := by
  induction l generalizing mots with
  | nil => rfl
  | cons c l ih =>
      have hc := hl c List.mem_cons_self
      obtain ⟨hne, hunbordered⟩ := unbordered_of_civilite hc
      obtain ⟨hici, hsuite⟩ := h
      have hmot : ∀ mot ∈ splitWhitespace c, (!estTokenVolatile mot) = true := by
        intro mot hmot
        rw [stable_of_civilite hc hmot]
        rfl
      have hreste : stables (Excision.excise (splitWhitespace c) mots) =
          Excision.excise (splitWhitespace c) (stables mots) :=
        Excision.filter_excise hne hunbordered hmot hici
      have hrec := ih (fun b hb => hl b (List.mem_cons_of_mem c hb)) hsuite
      rw [hreste] at hrec
      exact hrec

/-! ## Volatile words made alike -/

/-- Only the word itself is masked as a word that is not volatile. -/
theorem masquer_eq_iff {mot : String} (h : estTokenVolatile mot = false) (autre : String) :
    masquer autre = mot ↔ autre = mot := by
  unfold masquer
  split_ifs with hvolatile
  · have hzero : estTokenVolatile "0" = true := by decide
    constructor
    · intro heq
      rw [← heq, hzero] at h
      cases h
    · intro heq
      rw [← heq, hvolatile] at h
      cases h
  · exact Iff.rfl

/-- The volatile words are masked, and none is kept. -/
theorem stables_map_masquer (mots : List String) : stables (mots.map masquer) = stables mots := by
  have hzero : estTokenVolatile "0" = true := by decide
  induction mots with
  | nil => rfl
  | cons mot mots ih =>
      unfold stables at ih ⊢
      rw [List.map_cons, List.filter_cons, List.filter_cons, ih, masquer]
      by_cases hmot : estTokenVolatile mot = true
      · simp [hmot, hzero]
      · simp [hmot]

/-- `DE` is looked for in masked words as in the words. -/
theorem sansDe_map_masquer (mots : List String) :
    sansDe (mots.map masquer) = (sansDe mots).map masquer := by
  have hde : estTokenVolatile "DE" = false := by decide
  by_cases hlabel : ∃ mot mots', mots = "DE" :: mot :: mots'
  · obtain ⟨mot, mots', rfl⟩ := hlabel
    rw [List.map_cons, List.map_cons, (masquer_eq_iff hde "DE").2 rfl]
    rfl
  · have hlabelIntacte : sansDe mots = mots := by
      rw [sansDe]
      rintro mot mots' h
      exact hlabel ⟨mot, mots', h⟩
    rw [hlabelIntacte, sansDe]
    rintro mot mots' h
    obtain ⟨premier, suite, rfl, hpremier, hsuite⟩ := List.map_eq_cons_iff.1 h
    obtain ⟨second, reste, rfl, -, -⟩ := List.map_eq_cons_iff.1 hsuite
    obtain rfl := (masquer_eq_iff hde premier).1 hpremier
    exact hlabel ⟨second, reste, rfl⟩

/-- The prefix is looked for in masked words as in the words. -/
theorem sansPrefixe_map_masquer (mots : List String) :
    sansPrefixe (mots.map masquer) = (sansPrefixe mots).map masquer := by
  have htete : ∀ p ∈ prefixes,
      (splitWhitespace p <+: mots.map masquer ↔ splitWhitespace p <+: mots) := fun p hp =>
    Excision.prefix_map_iff fun _ hmot => masquer_eq_iff (stable_of_prefixe hp hmot)
  have hfind : prefixes.find? (fun p => splitWhitespace p <+: mots.map masquer) =
      prefixes.find? fun p => splitWhitespace p <+: mots := by
    apply List.find?_congr
    intro p hp
    rw [decide_eq_decide]
    exact htete p hp
  rw [sansPrefixe_eq_find, sansPrefixe_eq_find, hfind]
  cases prefixes.find? fun p => splitWhitespace p <+: mots with
  | none => rfl
  | some p =>
      simp only [Option.map_some, Option.getD_some]
      rw [← List.map_drop, sansDe_map_masquer]

/-- So are the titles. -/
theorem sansMotifs_map_masquer {l : List String} (hl : ∀ c ∈ l, c ∈ civilites)
    (mots : List String) : sansMotifs l (mots.map masquer) = (sansMotifs l mots).map masquer := by
  induction l generalizing mots with
  | nil => rfl
  | cons c l ih =>
      have hc := hl c List.mem_cons_self
      have hrec := ih (fun b hb => hl b (List.mem_cons_of_mem c hb))
        (Excision.excise (splitWhitespace c) mots)
      rw [← Excision.excise_map fun _ hmot => masquer_eq_iff (stable_of_civilite hc hmot)] at hrec
      exact hrec

/-- What survives does not depend on what the volatile words are. -/
theorem survivants_map_masquer (mots : List String) :
    survivants (mots.map masquer) = survivants mots := by
  have hreste : sansCivilites (sansPrefixe (mots.map masquer)) =
      (sansCivilites (sansPrefixe mots)).map masquer := by
    rw [sansPrefixe_map_masquer, sansCivilites, sansMotifs_map_masquer fun c hc => hc]
    rfl
  change stables (sansCivilites (sansPrefixe (mots.map masquer))) =
    stables (sansCivilites (sansPrefixe mots))
  rw [hreste, stables_map_masquer]

/-! ## The key -/

/-- Without a separation, the words extracted are those of the stable words. -/
theorem survivants_of_sansSeparation (h : SansSeparation mots) (hsurvit : survivants mots ≠ []) :
    survivants mots = sansCivilites (sansPrefixe (stables mots)) := by
  have hciv : survivants mots = sansCivilites (stables (sansPrefixe mots)) :=
    stables_sansMotifs (fun c hc => hc) h.civilites
  have hreste : stables (sansPrefixe mots) ≠ [] := by
    intro hvide
    rw [hvide] at hciv
    exact hsurvit (hciv.trans (List.sublist_nil.1 sansMotifs_sublist))
  rw [hciv, stables_sansPrefixe h.prefixe hreste]

/-- Volatile words at the same places, or that hide no prefix and cut no civility, do not
separate two labels of one merchant. -/
theorem clefStable_of_sansSeparation (label label' : String)
    (h : MemesPlaces (motsDe label) (motsDe label') ∨
      SansSeparation (motsDe label) ∧ SansSeparation (motsDe label')) :
    ClefStable label label' := by
  intro hstables hsurvit hsurvit'
  have hsurvivants : survivants (motsDe label) = survivants (motsDe label') := by
    rcases h with hplaces | ⟨hsans, hsans'⟩
    · rw [← survivants_map_masquer (motsDe label), ← survivants_map_masquer (motsDe label'),
        hplaces]
    · rw [survivants_of_sansSeparation hsans hsurvit, survivants_of_sansSeparation hsans' hsurvit',
        hstables]
  rw [extraireTiers_eq, extraireTiers_eq, motsDuTiers_of_survivants hsurvit,
    motsDuTiers_of_survivants hsurvit', retenus, retenus, hsurvivants]

/-- The words of three words joined. -/
private theorem motsDe_trois (premier second troisieme : String)
    (h : capitales [premier, second, troisieme] = true) :
    motsDe (join " " [premier, second, troisieme]) = [premier, second, troisieme] :=
  motsDe_join h

/-- A date in front of the prefix. -/
private theorem motsDe_carteDatee : motsDe "12 CB CARREFOUR" = ["12", "CB", "CARREFOUR"] :=
  motsDe_trois "12" "CB" "CARREFOUR" (by decide)

/-- A date behind the prefix. -/
private theorem motsDe_carte : motsDe "CB 12 CARREFOUR" = ["CB", "12", "CARREFOUR"] :=
  motsDe_trois "CB" "12" "CARREFOUR" (by decide)

/-- A month at the end. -/
private theorem motsDe_carteDeMars : motsDe "CB CARREFOUR MARS" = ["CB", "CARREFOUR", "MARS"] :=
  motsDe_trois "CB" "CARREFOUR" "MARS" (by decide)

/-- The prefix is not first, so it survives. -/
private theorem survivants_carteDatee :
    survivants ["12", "CB", "CARREFOUR"] = ["CB", "CARREFOUR"] := by
  rw [survivants, sansPrefixe_eq, sansCivilites_eq]
  decide

/-- The prefix is first, and the date is dropped. -/
private theorem survivants_carte : survivants ["CB", "12", "CARREFOUR"] = ["CARREFOUR"] := by
  rw [survivants, sansPrefixe_eq, sansCivilites_eq]
  decide

/-- The month is dropped. -/
private theorem survivants_carteDeMars :
    survivants ["CB", "CARREFOUR", "MARS"] = ["CARREFOUR"] := by
  rw [survivants, sansPrefixe_eq, sansCivilites_eq]
  decide

/-- The date parts neither a prefix nor a title. -/
private theorem sansSeparation_carte : SansSeparation ["CB", "12", "CARREFOUR"] := by
  constructor
  · refine ⟨["CB"], ?_, by decide⟩
    rw [sansPrefixe_eq]
    decide
  · rw [sansPrefixe_eq]
    decide

/-- Nor does the month. -/
private theorem sansSeparation_carteDeMars : SansSeparation ["CB", "CARREFOUR", "MARS"] := by
  constructor
  · refine ⟨["CB"], ?_, by decide⟩
    rw [sansPrefixe_eq]
    decide
  · rw [sansPrefixe_eq]
    decide

/-- A number after the prefix and a month at the end leave one key. -/
theorem extraireTiers_carteDeMars :
    extraireTiers "CB 12 CARREFOUR" = extraireTiers "CB CARREFOUR MARS" := by
  have hsurvit : survivants (motsDe "CB 12 CARREFOUR") ≠ [] := by
    rw [motsDe_carte, survivants_carte]
    exact List.cons_ne_nil _ _
  have hsurvit' : survivants (motsDe "CB CARREFOUR MARS") ≠ [] := by
    rw [motsDe_carteDeMars, survivants_carteDeMars]
    exact List.cons_ne_nil _ _
  apply clefStable_of_sansSeparation _ _ (.inr ⟨_, _⟩) _ hsurvit hsurvit'
  · rw [motsDe_carte]
    exact sansSeparation_carte
  · rw [motsDe_carteDeMars]
    exact sansSeparation_carteDeMars
  · rw [motsDe_carte, motsDe_carteDeMars]
    decide

/-- A number in front of the prefix keeps it in the key. -/
theorem not_clefStable_carteDatee : ¬ ClefStable "12 CB CARREFOUR" "CB 12 CARREFOUR" := by
  intro h
  have hsurvit : survivants (motsDe "12 CB CARREFOUR") ≠ [] := by
    rw [motsDe_carteDatee, survivants_carteDatee]
    exact List.cons_ne_nil _ _
  have hsurvit' : survivants (motsDe "CB 12 CARREFOUR") ≠ [] := by
    rw [motsDe_carte, survivants_carte]
    exact List.cons_ne_nil _ _
  have hstables : stables (motsDe "12 CB CARREFOUR") = stables (motsDe "CB 12 CARREFOUR") := by
    rw [motsDe_carteDatee, motsDe_carte]
    decide
  have hclef := h hstables hsurvit hsurvit'
  rw [extraireTiers_eq, extraireTiers_eq, motsDuTiers_of_survivants hsurvit,
    motsDuTiers_of_survivants hsurvit', motsDe_carteDatee, motsDe_carte, retenus, retenus,
    survivants_carteDatee, survivants_carte] at hclef
  revert hclef
  decide

end Budgy
