import Budgy.Analysis.LabelWords
import Budgy.Interface.WordSearch

/-!
# Patterns reduced to an operation prefix

Nothing survives the extraction of a bare operation prefix, so a rule whose pattern is one
compares it as it stands.  It is searched as a text in the tiers of the label, where the
same words may remain after the first ones, or be part of a longer word:
`correspond_prefixe_iff` says where.
-/

set_option autoImplicit false

namespace Budgy

open Text

/-- A rule compares the words of its tiers with those of the label, without regard to
case. -/
theorem correspond_iff (regle : RegleCategorisation) (label : String) :
    regle.correspond label = true ↔
      contains (join " " ((motsDuTiers (motsDe label)).map toLowercase))
        (join " " ((motsDuTiers (motsDe regle.labelPattern)).map toLowercase)) = true := by
  unfold RegleCategorisation.correspond
  rw [extraireTiers_eq, extraireTiers_eq, toLowercase_join, toLowercase_join]

/-- The words of an operation prefix do not survive its own extraction. -/
theorem sansPrefixe_prefixe {p : String} (hp : p ∈ prefixes) :
    sansPrefixe (splitWhitespace p) = [] := by
  have hall : ∀ candidat ∈ motsDesPrefixes, sansPrefixe candidat = [] := by
    simp only [sansPrefixe_eq]
    decide
  apply hall
  rw [← motsDesPrefixes_eq]
  exact List.mem_map_of_mem hp

/-- The words of a prefix are kept when nothing comes behind them. -/
theorem motsDuTiers_prefixe {p : String} (hp : p ∈ prefixes) :
    motsDuTiers (motsDe p) = splitWhitespace p := by
  have hlength : ∀ candidat ∈ motsDesPrefixes, candidat.length ≤ maxTokens := by decide
  have hcourt : (splitWhitespace p).length ≤ maxTokens := by
    apply hlength
    rw [← motsDesPrefixes_eq]
    exact List.mem_map_of_mem hp
  have hrien : survivants (splitWhitespace p) = [] := by
    unfold survivants sansCivilites
    rw [sansPrefixe_prefixe hp, List.sublist_nil.1 sansMotifs_sublist, List.filter_nil]
  rw [motsDe_prefixe hp, motsDuTiers_of_repli hrien, List.take_of_length_le hcourt]

/-- The lower case of a word has a character, and no space. -/
theorem toLowercase_word {mot : String} (h : Word mot) :
    (toLowercase mot).toList ≠ [] ∧ ' ' ∉ (toLowercase mot).toList := by
  rw [toLowercase, String.toList_ofList]
  exact ⟨lowerFrom_ne_nil h.1, space_notMem_lowerFrom h.space_notMem⟩

/-- So have the lower cases of several words. -/
theorem lower_words {mots : List String} (h : ∀ mot ∈ mots, Word mot) {w : String}
    (hw : w ∈ mots.map toLowercase) :
    w.toList ≠ [] ∧ ' ' ∉ w.toList := by
  obtain ⟨mot, hmot, rfl⟩ := List.mem_map.1 hw
  exact toLowercase_word (h mot hmot)

/-- When something survives of the label, a rule reduced to an operation prefix leaves it
alone exactly when the prefix is not found in the first names of the label: the words that
follow its own prefix, are in no civility of two persons, and are neither titles nor
volatile. -/
theorem correspond_prefixe_iff {p : String} (hp : p ∈ prefixes) {regle : RegleCategorisation}
    (hregle : regle.labelPattern = p) {label : String} (hlabel : survivants (motsDe label) ≠ []) :
    regle.correspond label = false ↔
      ¬ Occurs ((splitWhitespace p).map toLowercase)
        ((((sansCouples (sansPrefixe (motsDe label))).filter estNom).take maxTokens).map
          toLowercase) := by
  rw [← retenus_eq]
  have hprefixe : ∀ w ∈ splitWhitespace p, Word w := fun _ hw => word_of_mem_splitWhitespace hw
  have hretenus : ∀ w ∈ retenus (motsDe label), Word w := word_retenus fun _ h => word_motsDe h
  rw [← Bool.not_eq_true, correspond_iff, hregle, motsDuTiers_prefixe hp,
    motsDuTiers_of_survivants hlabel, occurs_iff (fun _ hw => lower_words hprefixe hw)
      fun _ hw => (lower_words hretenus hw).2]

/-- The rule reduced to a card payment. -/
def regleCb : RegleCategorisation :=
  { id := Uuid.fromU128 0, ownerId := "alice", labelPattern := "CB", categoryId := Uuid.fromU128 0,
    priority := 0, createdAt := 0 }

/-- The prefix of a shop is left out. -/
private theorem retenus_carrefour : retenus (motsDe "CB CARREFOUR") = ["CARREFOUR"] := by
  have hmots : motsDe "CB CARREFOUR" = ["CB", "CARREFOUR"] := by
    rw [show "CB CARREFOUR" = join " " ["CB", "CARREFOUR"] from rfl]
    exact motsDe_join (by decide)
  rw [hmots, retenus, survivants, sansPrefixe_eq, sansCivilites_eq]
  decide

/-- A label without a prefix is kept whole. -/
private theorem retenus_macbook : retenus (motsDe "FNAC MACBOOK") = ["FNAC", "MACBOOK"] := by
  have hmots : motsDe "FNAC MACBOOK" = ["FNAC", "MACBOOK"] := by
    rw [show "FNAC MACBOOK" = join " " ["FNAC", "MACBOOK"] from rfl]
    exact motsDe_join (by decide)
  rw [hmots, retenus, survivants, sansPrefixe_eq, sansCivilites_eq]
  decide

/-- A prefix in front of the name of a merchant is not found in it. -/
theorem correspond_carrefour : regleCb.correspond "CB CARREFOUR" = false := by
  have hsurvivants : survivants (motsDe "CB CARREFOUR") ≠ [] := by
    rw [Ne, ← retenus_eq_nil_iff, retenus_carrefour]
    exact List.cons_ne_nil _ _
  refine (correspond_prefixe_iff (p := "CB") (by decide) rfl hsurvivants).2 ?_
  rw [← retenus_eq, retenus_carrefour]
  have hcb : (splitWhitespace "CB").map toLowercase = ["cb"] := by decide
  have hmot : ["CARREFOUR"].map toLowercase = ["carrefour"] := by decide
  rw [hcb, hmot]
  rintro ⟨mot, hmem, hinfixe⟩
  obtain rfl := List.mem_singleton.1 hmem
  have hnot : ¬ "cb".toList <:+: "carrefour".toList := by decide
  exact hnot hinfixe

/-- The letters of a prefix in the middle of a name are found. -/
theorem prefixe_correspond :
    ¬ ∀ p ∈ prefixes, ∀ (regle : RegleCategorisation) (label : String), regle.labelPattern = p →
      survivants (motsDe label) ≠ [] → regle.correspond label = false := by
  intro h
  have hsurvivants : survivants (motsDe "FNAC MACBOOK") ≠ [] := by
    rw [Ne, ← retenus_eq_nil_iff, retenus_macbook]
    exact List.cons_ne_nil _ _
  have hfaux := h "CB" (by decide) regleCb "FNAC MACBOOK" rfl hsurvivants
  have hvrai : regleCb.correspond "FNAC MACBOOK" = true := by
    rw [correspond_iff, motsDuTiers_of_survivants hsurvivants, retenus_macbook,
      show regleCb.labelPattern = "CB" from rfl, motsDuTiers_prefixe (by decide)]
    decide
  rw [hvrai] at hfaux
  cases hfaux

end Budgy
