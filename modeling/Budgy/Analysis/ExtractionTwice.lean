import Budgy.Analysis.BarePrefix

/-!
# Extracting twice

A rule derived from a transaction stores the text extracted from its label, and extracts
it again at each comparison.  The second extraction finds the words of the first one, in
capitals: no civility is left among them and none is volatile, so it can only drop an
operation prefix.  When nothing survived of the label, its first five words are extracted
instead, of which the second extraction may keep some.
-/

set_option autoImplicit false

namespace Budgy

open Text

/-- No operation prefix starts the words. -/
def SansOperation (mots : List String) : Prop := ∀ p ∈ prefixes, ¬ splitWhitespace p <+: mots

/-- The words are an operation prefix. -/
def EstOperation (mots : List String) : Prop := ∃ p ∈ prefixes, mots = splitWhitespace p

/-- The second extraction has nothing to drop, or drops everything. -/
def ExtractionStable (mots : List String) : Prop :=
  (survivants mots ≠ [] → SansOperation (retenus mots) ∨ EstOperation (retenus mots)) ∧
    (survivants mots = [] → survivants (mots.take maxTokens) = [] ∨
      survivants (mots.take maxTokens) = mots.take maxTokens)

variable {mots : List String}

/-! ## The words of the text extracted -/

/-- The words that are kept are words of the label, in their order. -/
theorem motsDuTiers_sublist : (motsDuTiers mots).Sublist mots := by
  unfold motsDuTiers
  split_ifs
  · exact List.take_sublist maxTokens mots
  · exact retenus_sublist

/-- There are five of them at most. -/
theorem length_motsDuTiers : (motsDuTiers mots).length ≤ maxTokens := by
  unfold motsDuTiers
  split_ifs
  · exact List.length_take_le maxTokens mots
  · exact List.length_take_le maxTokens (survivants mots)

/-- The words that are kept are words. -/
theorem word_motsDuTiers {label mot : String} (h : mot ∈ motsDuTiers (motsDe label)) : Word mot :=
  word_motsDe (motsDuTiers_sublist.subset h)

/-- The characters of the words of a label are in capitals. -/
theorem upperChar_motsDe {label mot : String} (h : mot ∈ motsDe label) {c : Char}
    (hc : c ∈ mot.toList) : upperChar c = [c] := by
  have htexte := mem_toList_of_mem_splitWhitespace h hc
  rw [toUppercase, String.toList_ofList] at htexte
  obtain ⟨d, -, hd⟩ := List.mem_flatMap.1 htexte
  exact upperChar_of_mem hd

/-- The words of the text extracted are those it was made of. -/
theorem motsDe_extraireTiers (label : String) :
    motsDe (extraireTiers label) = motsDuTiers (motsDe label) := by
  have hupper : ∀ c ∈ (join " " (motsDuTiers (motsDe label))).toList, upperChar c = [c] := by
    intro c hc
    rcases mem_toList_join hc with rfl | ⟨mot, hmot, hmem⟩
    · decide
    · exact upperChar_motsDe (motsDuTiers_sublist.subset hmot) hmem
  rw [extraireTiers_eq, motsDe, toUppercase_of_upper hupper,
    splitWhitespace_join fun _ h => word_motsDuTiers h]

/-! ## The operation prefix -/

/-- Either no prefix starts the words, or one does and what follows it is left. -/
theorem sansPrefixe_cases (mots : List String) :
    SansOperation mots ∧ sansPrefixe mots = mots ∨
      ∃ p ∈ prefixes, ∃ suite, mots = splitWhitespace p ++ suite ∧
        sansPrefixe mots = sansDe suite := by
  unfold sansPrefixe
  cases hfind : prefixes.findSome? (apresOperation? mots) with
  | none =>
      refine .inl ⟨fun p hp htete => ?_, rfl⟩
      have hnone := List.findSome?_eq_none_iff.1 hfind p hp
      rw [apresOperation?, if_pos htete] at hnone
      cases hnone
  | some reste =>
      obtain ⟨p, hp, hreste⟩ := List.exists_of_findSome?_eq_some hfind
      unfold apresOperation? at hreste
      split_ifs at hreste with htete
      obtain ⟨suite, rfl⟩ := htete
      rw [List.drop_left] at hreste
      exact .inr ⟨p, hp, suite, rfl, (Option.some.inj hreste).symm⟩

/-- The prefix stays when no operation starts the words. -/
theorem sansPrefixe_eq_self_iff : sansPrefixe mots = mots ↔ SansOperation mots := by
  rcases sansPrefixe_cases mots with ⟨hsans, heq⟩ | ⟨p, hp, suite, rfl, heq⟩
  · exact iff_of_true heq hsans
  · refine iff_of_false (fun hself => ?_) fun hsans => hsans p hp (List.prefix_append _ _)
    have hlength := congrArg List.length (heq.symm.trans hself)
    have hle := (@sansDe_suffix suite).length_le
    have hpos := List.length_pos_iff.2 (word_of_prefixe hp).1
    rw [List.length_append] at hlength
    omega

/-- Nothing is left behind `DE` when there was nothing. -/
theorem sansDe_eq_nil_iff : sansDe mots = [] ↔ mots = [] := by
  unfold sansDe
  split <;> simp

/-- Nothing is left behind the prefix when the words are an operation. -/
theorem sansPrefixe_eq_nil_iff (hne : mots ≠ []) : sansPrefixe mots = [] ↔ EstOperation mots := by
  constructor
  · intro hvide
    rcases sansPrefixe_cases mots with ⟨-, heq⟩ | ⟨p, hp, suite, rfl, heq⟩
    · exact absurd (heq.symm.trans hvide) hne
    · obtain rfl := sansDe_eq_nil_iff.1 (heq.symm.trans hvide)
      exact ⟨p, hp, List.append_nil _⟩
  · rintro ⟨p, hp, rfl⟩
    exact sansPrefixe_prefixe hp

/-! ## The civilities -/

/-- A civility of one word is in no word left. -/
theorem notMem_sansMotifs {motifs : List String} {motif mot : String} (hmotif : motif ∈ motifs)
    (hmot : splitWhitespace motif = [mot]) : mot ∉ sansMotifs motifs mots := by
  induction motifs generalizing mots with
  | nil => cases hmotif
  | cons premier suite ih =>
      rw [sansMotifs, List.foldl_cons]
      rcases List.mem_cons.1 hmotif with rfl | hsuite
      · intro hreste
        have hici := sansMotifs_sublist.subset hreste
        rw [hmot] at hici
        exact Excision.not_infix_excise (List.cons_ne_nil mot [])
          ((List.singleton_infix_iff mot _).2 hici)
      · exact ih hsuite

/-- Among words left by the removal of the civilities, there is none to remove. -/
theorem sansCivilites_eq_self {reste : List String} (h : ∀ mot ∈ reste, mot ∈ sansCivilites mots) :
    sansCivilites reste = reste := by
  have hseuls : ∀ c ∈ civilites, ∃ motif ∈ civilites, ∃ mot ∈ splitWhitespace c,
      splitWhitespace motif = [mot] := by
    have htable : ∀ mots ∈ motsDesCivilites, ∃ motif ∈ motsDesCivilites, ∃ mot ∈ mots,
        motif = [mot] := by
      decide
    rw [← motsDesCivilites_eq] at htable
    intro c hc
    obtain ⟨_, hmotif, mot, hmot, rfl⟩ := htable _ (List.mem_map_of_mem hc)
    obtain ⟨motif, hmem, hseul⟩ := List.mem_map.1 hmotif
    exact ⟨motif, hmem, mot, hmot, hseul⟩
  have hfold : ∀ l : List String, (∀ c ∈ l, c ∈ civilites) → sansMotifs l reste = reste := by
    intro l hl
    induction l with
    | nil => rfl
    | cons c l ih =>
        obtain ⟨motif, hmotif, mot, hmot, hseul⟩ := hseuls c (hl c List.mem_cons_self)
        have hnot : ¬ splitWhitespace c <:+: reste := fun hinfixe =>
          notMem_sansMotifs hmotif hseul (h mot (hinfixe.subset hmot))
        rw [sansMotifs, List.foldl_cons, Excision.excise_of_absent hnot]
        exact ih fun b hb => hl b (List.mem_cons_of_mem c hb)
  exact hfold civilites fun c hc => hc

/-! ## The second extraction -/

/-- Of the words retained, the second extraction drops the operation prefix only. -/
theorem survivants_retenus (mots : List String) :
    survivants (retenus mots) = sansPrefixe (retenus mots) := by
  have hreste : ∀ mot ∈ sansPrefixe (retenus mots), mot ∈ survivants mots := fun mot hmot =>
    (List.take_sublist maxTokens _).subset (sansPrefixe_suffix.subset hmot)
  have hcivilites : sansCivilites (sansPrefixe (retenus mots)) = sansPrefixe (retenus mots) :=
    sansCivilites_eq_self fun mot hmot => (mem_survivants.1 (hreste mot hmot)).1
  rw [survivants, hcivilites, List.filter_eq_self]
  intro mot hmot
  rw [(mem_survivants.1 (hreste mot hmot)).2]
  rfl

/-- A short list of words is cut nowhere. -/
theorem retenus_of_court (h : mots.length ≤ maxTokens) : retenus mots = survivants mots :=
  List.take_of_length_le (survivants_sublist.length_le.trans h)

/-- Extracted again, a text of at most five words is made of those that survive, or of all
of them. -/
theorem motsDuTiers_of_court (h : mots.length ≤ maxTokens) :
    motsDuTiers mots = if survivants mots = [] then mots else survivants mots := by
  rw [motsDuTiers, retenus_of_court h, List.take_of_length_le h]

/-- A short list is kept whole when nothing survives or everything does. -/
theorem motsDuTiers_eq_self_iff (h : mots.length ≤ maxTokens) :
    motsDuTiers mots = mots ↔ survivants mots = [] ∨ survivants mots = mots := by
  rw [motsDuTiers_of_court h]
  split_ifs with hvide
  · exact iff_of_true rfl (.inl hvide)
  · exact (or_iff_right hvide).symm

/-- Five words are retained at most. -/
theorem length_retenus : (retenus mots).length ≤ maxTokens := List.length_take_le _ _

/-- The words extracted twice are those extracted once exactly when the extraction is
stable. -/
theorem motsDuTiers_motsDuTiers_iff :
    motsDuTiers (motsDuTiers mots) = motsDuTiers mots ↔ ExtractionStable mots := by
  by_cases hrien : survivants mots = []
  · have hcourt := List.length_take_le maxTokens mots
    rw [motsDuTiers_of_repli hrien, motsDuTiers_eq_self_iff hcourt]
    exact ⟨fun h => ⟨fun hne => absurd hrien hne, fun _ => h⟩, fun h => h.2 hrien⟩
  · have hne : retenus mots ≠ [] := fun h => hrien (retenus_eq_nil_iff.1 h)
    rw [motsDuTiers_of_survivants hrien, motsDuTiers_eq_self_iff length_retenus,
      survivants_retenus, sansPrefixe_eq_nil_iff hne, sansPrefixe_eq_self_iff, or_comm]
    exact ⟨fun h => ⟨fun _ => h, fun hvide => absurd hvide hrien⟩, fun h => h.1 hrien⟩

/-- The text extracted from the text extracted is the same one exactly when the words
retained do not start with a second operation prefix, unless they are one, and, when nothing
survives, when the first five words survive all or none. -/
theorem extraireTiers_extraireTiers_iff (label : String) :
    extraireTiers (extraireTiers label) = extraireTiers label ↔
      ExtractionStable (motsDe label) := by
  rw [← motsDuTiers_motsDuTiers_iff, extraireTiers_eq (extraireTiers label),
    motsDe_extraireTiers, extraireTiers_eq label]
  constructor
  · intro h
    have hsplit := congrArg splitWhitespace h
    rwa [splitWhitespace_join fun _ hmot => word_motsDuTiers (motsDuTiers_sublist.subset hmot),
      splitWhitespace_join fun _ hmot => word_motsDuTiers hmot] at hsplit
  · intro h
    rw [h]

/-- The first of two prefixes is removed. -/
private theorem motsDuTiers_deuxPrefixes :
    motsDuTiers (motsDe "VIREMENT VIREMENT DUPONT") = ["VIREMENT", "DUPONT"] := by
  have hmots : motsDe "VIREMENT VIREMENT DUPONT" = ["VIREMENT", "VIREMENT", "DUPONT"] := by
    rw [show "VIREMENT VIREMENT DUPONT" = join " " ["VIREMENT", "VIREMENT", "DUPONT"] from rfl]
    exact motsDe_join (by decide)
  rw [hmots, motsDuTiers, retenus, survivants, sansPrefixe_eq, sansCivilites_eq]
  decide

/-- The second one is removed by a second extraction. -/
private theorem motsDuTiers_unPrefixe : motsDuTiers ["VIREMENT", "DUPONT"] = ["DUPONT"] := by
  rw [motsDuTiers, retenus, survivants, sansPrefixe_eq, sansCivilites_eq]
  decide

/-- Of two prefixes, each extraction drops one. -/
theorem extraireTiers_deuxFois :
    ¬ ∀ label : String, extraireTiers (extraireTiers label) = extraireTiers label := by
  intro h
  have hmots := congrArg motsDe (h "VIREMENT VIREMENT DUPONT")
  rw [motsDe_extraireTiers, motsDe_extraireTiers, motsDuTiers_deuxPrefixes,
    motsDuTiers_unPrefixe] at hmots
  exact absurd hmots (by decide)

end Budgy
