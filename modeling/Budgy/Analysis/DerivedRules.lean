import Budgy.Analysis.ExtractionTwice

/-!
# Rules derived from a transaction

The rule created from a transaction stores the text extracted from its label, and each
comparison extracts that text again.  As long as a word of the label survives, the second
extraction finds a part of the first one, so the rule matches the label it comes from.  When
none survives, the first five words are stored as they stand; the words that survive among
them, if there are any, are not always side by side.
-/

set_option autoImplicit false

namespace Budgy

open Text

variable {mots : List String} {label : String}

/-- The validation of a pattern does not change the text extracted. -/
theorem asStr_of_parse {motif : LabelPattern}
    (h : LabelPattern.parse (extraireTiers label) = .ok motif) :
    motif.asStr = extraireTiers label := by
  have htrim : trim (extraireTiers label) = extraireTiers label := by
    rw [extraireTiers_eq]
    exact trim_join fun _ hmot => word_motsDuTiers hmot
  unfold LabelPattern.parse texteBorne at h
  dsimp only at h
  split_ifs at h with hvide hlong
  have hmotif := Except.ok.inj h
  rw [← hmotif]
  exact htrim

/-- The text stored is compared with the one extracted from the label. -/
theorem correspond_derivee {regle : RegleCategorisation}
    (h : regle.labelPattern = extraireTiers label) :
    regle.correspond label = true ↔
      contains (join " " ((motsDuTiers (motsDe label)).map toLowercase))
        (join " " ((motsDuTiers (motsDuTiers (motsDe label))).map toLowercase)) = true := by
  rw [correspond_iff, h, motsDe_extraireTiers]

/-- Of words retained, the second extraction leaves the last ones. -/
theorem motsDuTiers_retenus_suffix (mots : List String) :
    motsDuTiers (retenus mots) <:+ retenus mots := by
  rw [motsDuTiers_of_court length_retenus, survivants_retenus]
  split_ifs
  · exact List.suffix_rfl
  · exact sansPrefixe_suffix

/-- The rule derived from a transaction matches its label exactly when a word that follows the
prefix is neither volatile nor in a civility, when the removal of the civilities leaves the
conjunction of one, or when the words that survive among the first five are found in these. -/
theorem correspond_derivee_iff {motif : LabelPattern}
    (hmotif : LabelPattern.parse (extraireTiers label) = .ok motif) {regle : RegleCategorisation}
    (hregle : regle.labelPattern = motif.asStr) :
    regle.correspond label = true ↔
      ((∃ mot ∈ sansPrefixe (motsDe label),
          mot ∉ motsDesCivilites.flatten ∧ estTokenVolatile mot = false) ∨
        ∃ mot ∈ sansCouples (sansPrefixe (motsDe label)), mot = "OU" ∨ mot = "M.OU") ∨
        Occurs ((survivants ((motsDe label).take maxTokens)).map toLowercase)
          (((motsDe label).take maxTokens).map toLowercase) := by
  have htexte : regle.labelPattern = extraireTiers label := hregle.trans (asStr_of_parse hmotif)
  rw [correspond_derivee htexte, ← survivants_ne_nil_iff]
  by_cases hrien : survivants (motsDe label) = []
  · have hcourt := List.length_take_le maxTokens (motsDe label)
    have hpremiers : ∀ mot ∈ (motsDe label).take maxTokens, Word mot := fun mot hmot =>
      word_motsDe (List.mem_of_mem_take hmot)
    have hsuite : ∀ mot ∈ survivants ((motsDe label).take maxTokens), Word mot := fun mot hmot =>
      hpremiers mot (survivants_sublist.subset hmot)
    rw [motsDuTiers_of_repli hrien, motsDuTiers_of_court hcourt, or_iff_right fun h => h hrien]
    split_ifs with hvide
    · rw [hvide]
      exact iff_of_true (contains_join List.infix_rfl) trivial
    · exact (occurs_iff (fun _ hw => lower_words hsuite hw) fun _ hw =>
        (lower_words hpremiers hw).2).symm
  · have hsuffix := (motsDuTiers_retenus_suffix (motsDe label)).map toLowercase
    have htrouve := contains_join hsuffix.isInfix
    rw [motsDuTiers_of_survivants hrien]
    exact iff_of_true htrouve (Or.inl hrien)

/-- The words of the label that the extraction keeps. -/
private theorem survivants_intermarche :
    survivants (motsDe "CARTE 07/07/26 INTERMARCHE CB*7513") = ["CARTE", "INTERMARCHE"] := by
  have hmots : motsDe "CARTE 07/07/26 INTERMARCHE CB*7513" =
      ["CARTE", "07/07/26", "INTERMARCHE", "CB*7513"] := by
    rw [show "CARTE 07/07/26 INTERMARCHE CB*7513" =
      join " " ["CARTE", "07/07/26", "INTERMARCHE", "CB*7513"] from rfl]
    exact motsDe_join (by decide)
  rw [hmots, survivants, sansPrefixe_eq, sansCivilites_eq]
  decide

/-- There are some. -/
private theorem survit_intermarche :
    survivants (motsDe "CARTE 07/07/26 INTERMARCHE CB*7513") ≠ [] := by
  rw [survivants_intermarche]
  exact List.cons_ne_nil _ _

/-- The rule derived from that label. -/
def regleIntermarche : RegleCategorisation :=
  { id := Uuid.fromU128 0, ownerId := "alice", labelPattern := "CARTE INTERMARCHE",
    categoryId := Uuid.fromU128 0, priority := 0, createdAt := 0 }

/-- The date and the number of the card do not keep the rule from its label. -/
theorem correspond_intermarche :
    regleIntermarche.correspond "CARTE 07/07/26 INTERMARCHE CB*7513" = true := by
  have hparse : LabelPattern.parse (extraireTiers "CARTE 07/07/26 INTERMARCHE CB*7513") =
      .ok ⟨"CARTE INTERMARCHE", by decide, by decide⟩ := by
    rw [extraireTiers_eq, motsDuTiers_of_survivants survit_intermarche, retenus,
      survivants_intermarche]
    decide
  exact (correspond_derivee_iff hparse rfl).2
    (.inl ((survivants_ne_nil_iff _).1 survit_intermarche))

/-- A label of which the titles meet. -/
private theorem motsDuTiers_deuxCivilites :
    motsDuTiers (motsDe "12 M. OU M. OU MME MME") = ["12", "M.", "OU", "M.", "OU"] := by
  have hmots : motsDe "12 M. OU M. OU MME MME" =
      ["12", "M.", "OU", "M.", "OU", "MME", "MME"] := by
    rw [show "12 M. OU M. OU MME MME" =
      join " " ["12", "M.", "OU", "M.", "OU", "MME", "MME"] from rfl]
    exact motsDe_join (by decide)
  rw [hmots, motsDuTiers, retenus, survivants, sansPrefixe_eq, sansCivilites_eq]
  decide

/-- The words of its extraction, which are cut again. -/
private theorem motsDuTiers_civilitesCoupees :
    motsDuTiers ["12", "M.", "OU", "M.", "OU"] = ["OU", "OU"] := by
  rw [motsDuTiers, retenus, survivants, sansPrefixe_eq, sansCivilites_eq]
  decide

/-- The rule derived from that label. -/
def regleCivilites : RegleCategorisation :=
  { id := Uuid.fromU128 0, ownerId := "alice", labelPattern := "12 M. OU M. OU",
    categoryId := Uuid.fromU128 0, priority := 0, createdAt := 0 }

/-- A civility inside another one is cut at five words: what the second extraction leaves of
it is not in the label. -/
theorem derivee_correspond :
    ¬ ∀ (label : String) (motif : LabelPattern) (regle : RegleCategorisation),
      LabelPattern.parse (extraireTiers label) = .ok motif → regle.labelPattern = motif.asStr →
        regle.correspond label = true := by
  intro h
  have hextrait : extraireTiers "12 M. OU M. OU MME MME" = "12 M. OU M. OU" := by
    rw [extraireTiers_eq, motsDuTiers_deuxCivilites]
    decide
  have hparse : LabelPattern.parse (extraireTiers "12 M. OU M. OU MME MME") =
      .ok ⟨"12 M. OU M. OU", by decide, by decide⟩ := by
    rw [hextrait]
    decide
  have hvrai := h _ _ regleCivilites hparse rfl
  rw [correspond_derivee hextrait.symm, motsDuTiers_deuxCivilites,
    motsDuTiers_civilitesCoupees] at hvrai
  revert hvrai
  decide

end Budgy
