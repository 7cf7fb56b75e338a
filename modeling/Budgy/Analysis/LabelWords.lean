import Budgy.Interface.Excision
import Budgy.Interface.CaseMapping
import Budgy.Interface.Words
import Budgy.Model.Libelle

/-!
# Labels as sequences of words

`extraire_tiers` works on texts: a prefix is stripped, civilities are searched between
spaces, the rest is split.  Over the words of the label it is a head that is dropped,
patterns that are removed, words that are filtered; `extraireTiers_eq` shows that the text
extracted is the join of the words so obtained.
-/

set_option autoImplicit false

namespace Budgy

open Text

/-- The words of a label, in capitals. -/
def motsDe (label : String) : List String := splitWhitespace (toUppercase label)

/-- A residual « DE » is dropped when a word follows it. -/
def sansDe : List String → List String
  | "DE" :: mot :: mots => mot :: mots
  | mots => mots

/-- What follows an operation prefix. -/
def apresOperation? (mots : List String) (candidat : String) : Option (List String) :=
  if splitWhitespace candidat <+: mots then
    some (sansDe (mots.drop (splitWhitespace candidat).length))
  else none

/-- What follows the prefix of an operation, `DE` aside. -/
def sansPrefixe (mots : List String) : List String :=
  (prefixes.findSome? (apresOperation? mots)).getD mots

/-- The civilities are removed one after the other. -/
def sansMotifs (motifs : List String) (mots : List String) : List String :=
  motifs.foldl (fun mots motif => Excision.excise (splitWhitespace motif) mots) mots

/-- What is left of the words once the titles are removed. -/
def sansCivilites (mots : List String) : List String := sansMotifs civilites mots

/-- The words that no stage of the extraction drops. -/
def survivants (mots : List String) : List String :=
  (sansCivilites (sansPrefixe mots)).filter fun mot => !estTokenVolatile mot

/-- The words that the extraction keeps, without its fallback. -/
def retenus (mots : List String) : List String := (survivants mots).take maxTokens

/-- The words of the text extracted. -/
def motsDuTiers (mots : List String) : List String :=
  if retenus mots = [] then mots.take maxTokens else retenus mots

/-! ## The words of the tables -/

/-- The operation prefixes, cut in words. -/
def motsDesPrefixes : List (List String) := [
  ["VIREMENT", "INSTANTANE", "RECU", "DE"], ["VIREMENT", "SEPA", "RECU", "DE"],
  ["VIREMENT", "EN", "VOTRE", "FAVEUR", "DE"], ["VIREMENT", "EN", "VOTRE", "FAVEUR"],
  ["VIREMENT", "INSTANTANE", "RECU"], ["VIREMENT", "INSTANTANE"], ["VIREMENT", "SEPA", "EMIS"],
  ["VIREMENT", "SEPA", "RECU"], ["VIREMENT", "SEPA"], ["VIREMENT", "RECU", "DE"],
  ["VIREMENT", "RECU"], ["VIREMENT", "EMIS"], ["VIREMENT"], ["PAIEMENT", "PAR", "CARTE"],
  ["PAIEMENT", "CARTE"], ["PAIEMENT"], ["PRELEVEMENT", "SEPA", "DE"], ["PRELEVEMENT", "SEPA"],
  ["PRELEVEMENT"], ["PRLV", "SEPA"], ["PRLV"], ["ACHAT", "CB"], ["ACHAT"], ["RETRAIT", "CB"],
  ["RETRAIT", "DAB"], ["RETRAIT"], ["REMISE", "CHEQUE"], ["REMISE"], ["COTISATION"], ["FRAIS"],
  ["CB"]]

/-- The civilities, cut in words. -/
def motsDesCivilites : List (List String) := [
  ["M.OU", "MME"], ["M.", "OU", "MME"], ["MR", "OU", "MME"], ["MME", "OU", "MR"], ["MLLE"], ["MME"],
  ["MR"], ["M."]]

/-- The civilities of one word. -/
def titres : List String := ["MLLE", "MME", "MR", "M."]

/-- The civilities of two persons, cut in words. -/
def motsDesCouples : List (List String) := [
  ["M.OU", "MME"], ["M.", "OU", "MME"], ["MR", "OU", "MME"], ["MME", "OU", "MR"]]

/-- The words left by the civilities of two persons. -/
def sansCouples (mots : List String) : List String :=
  motsDesCouples.foldl (fun mots motif => Excision.excise motif mots) mots

/-- A word that names a merchant: neither a title nor volatile. -/
def estNom (mot : String) : Bool := !titres.contains mot && !estTokenVolatile mot

/-- Words without a small letter or a white space, which are those of their join. -/
def capitales (mots : List String) : Bool :=
  mots.all fun mot =>
    !mot.toList.isEmpty && mot.toList.all fun c => !isWhitespace c && c.toNat < 97

/-- Words in capitals are words, of characters below the small letters. -/
theorem capitales_iff {mots : List String} :
    capitales mots = true ↔ ∀ mot ∈ mots, Word mot ∧ ∀ c ∈ mot.toList, c.toNat < 97 := by
  simp [capitales, Word, forall_and, and_assoc]

/-- Words in capitals are found again in their join. -/
theorem splitWhitespace_capitales {mots : List String} (h : capitales mots = true) :
    splitWhitespace (join " " mots) = mots :=
  splitWhitespace_join fun mot hmot => (capitales_iff.1 h mot hmot).1

/-- A label in capitals is its words. -/
theorem motsDe_join {mots : List String} (h : capitales mots = true) :
    motsDe (join " " mots) = mots := by
  have hupper : toUppercase (join " " mots) = join " " mots := by
    apply toUppercase_of_upper
    intro c hc
    apply upperChar_of_lt
    obtain rfl | ⟨mot, hmot, hlettre⟩ := mem_toList_join hc
    · decide
    · exact (capitales_iff.1 h mot hmot).2 c hlettre
  rw [motsDe, hupper, splitWhitespace_capitales h]

/-- The prefixes, from their words. -/
private theorem join_motsDesPrefixes : motsDesPrefixes.map (join " ") = prefixes := rfl

/-- The titles, from their words. -/
private theorem join_motsDesCivilites : motsDesCivilites.map (join " ") = civilites := rfl

/-- The words of both tables are in capitals. -/
private theorem capitales_of_table {mots : List String}
    (h : mots ∈ motsDesPrefixes ++ motsDesCivilites) : mots ≠ [] ∧ capitales mots = true := by
  have hall : ∀ mots ∈ motsDesPrefixes ++ motsDesCivilites,
      mots ≠ [] ∧ capitales mots = true := by
    decide +kernel
  exact hall mots h

/-- The words of the prefixes. -/
theorem motsDesPrefixes_eq : prefixes.map splitWhitespace = motsDesPrefixes := by
  have hsplit : ∀ mots ∈ motsDesPrefixes, (splitWhitespace ∘ join " ") mots = id mots :=
    fun mots hmots => splitWhitespace_capitales (capitales_of_table (List.mem_append_left _ hmots)).2
  rw [← join_motsDesPrefixes, List.map_map, List.map_congr_left hsplit, List.map_id]

/-- The words of the titles. -/
theorem motsDesCivilites_eq : civilites.map splitWhitespace = motsDesCivilites := by
  have hsplit : ∀ mots ∈ motsDesCivilites, (splitWhitespace ∘ join " ") mots = id mots :=
    fun mots hmots => splitWhitespace_capitales (capitales_of_table (List.mem_append_right _ hmots)).2
  rw [← join_motsDesCivilites, List.map_map, List.map_congr_left hsplit, List.map_id]

/-- A prefix is its words, and has some. -/
theorem word_of_prefixe {p : String} (hp : p ∈ prefixes) :
    splitWhitespace p ≠ [] ∧ join " " (splitWhitespace p) = p := by
  rw [← join_motsDesPrefixes] at hp
  obtain ⟨mots, hmots, rfl⟩ := List.mem_map.1 hp
  obtain ⟨hne, hmot⟩ := capitales_of_table (List.mem_append_left _ hmots)
  rw [splitWhitespace_capitales hmot]
  exact ⟨hne, rfl⟩

/-- An operation prefix is in capitals. -/
theorem motsDe_prefixe {p : String} (hp : p ∈ prefixes) : motsDe p = splitWhitespace p := by
  rw [← join_motsDesPrefixes] at hp
  obtain ⟨mots, hmots, rfl⟩ := List.mem_map.1 hp
  have hmot := (capitales_of_table (List.mem_append_left _ hmots)).2
  rw [motsDe_join hmot, splitWhitespace_capitales hmot]

/-- The prefixes are compared as sequences of words. -/
theorem sansPrefixe_eq (mots : List String) :
    sansPrefixe mots = (motsDesPrefixes.findSome? fun candidat =>
      if candidat <+: mots then some (sansDe (mots.drop candidat.length)) else none).getD mots := by
  rw [← motsDesPrefixes_eq, List.findSome?_map]
  rfl

/-- The civilities are removed as sequences of words. -/
theorem sansCivilites_eq (mots : List String) :
    sansCivilites mots =
      motsDesCivilites.foldl (fun mots motif => Excision.excise motif mots) mots := by
  rw [← motsDesCivilites_eq, List.foldl_map]
  rfl

/-- The civilities of one word are dropped wherever they are. -/
theorem sansCivilites_eq_filter (mots : List String) :
    sansCivilites mots = (sansCouples mots).filter fun mot => !titres.contains mot := by
  have htable : motsDesCivilites = motsDesCouples ++ titres.map fun titre => [titre] := rfl
  rw [sansCivilites_eq, htable, List.foldl_append, ← sansCouples, titres]
  simp only [List.map_cons, List.map_nil, List.foldl_cons, List.foldl_nil,
    Excision.excise_singleton, List.filter_filter]
  refine List.filter_congr fun mot _ => ?_
  simp only [List.contains_cons, List.contains_nil, Bool.or_false, Bool.not_or, decide_not,
    ne_eq, ← beq_eq_decide]
  ac_rfl

/-- A word of no civility is left where it is. -/
theorem mem_sansCouples_of_notMem {mots : List String} {mot : String}
    (h : ∀ couple ∈ motsDesCouples, mot ∉ couple) : mot ∈ sansCouples mots ↔ mot ∈ mots := by
  have hfold : ∀ couples : List (List String), (∀ couple ∈ couples, mot ∉ couple) →
      ∀ mots, mot ∈ couples.foldl (fun mots motif => Excision.excise motif mots) mots ↔
        mot ∈ mots := by
    intro couples
    induction couples with
    | nil => exact fun _ _ => Iff.rfl
    | cons couple couples ih =>
        intro hcouples mots
        rw [List.foldl_cons, ih fun c hc => hcouples c (List.mem_cons_of_mem couple hc)]
        exact Excision.mem_excise_of_notMem (hcouples couple List.mem_cons_self)
  exact hfold motsDesCouples h mots

/-- A title between spaces is its words between spaces. -/
theorem framed_of_civilite {c : String} (hc : c ∈ civilites) :
    splitWhitespace c ≠ [] ∧ framed (splitWhitespace c) = (" " ++ c ++ " ").toList := by
  rw [← join_motsDesCivilites] at hc
  obtain ⟨mots, hmots, rfl⟩ := List.mem_map.1 hc
  obtain ⟨hne, hmot⟩ := capitales_of_table (List.mem_append_right _ hmots)
  rw [splitWhitespace_capitales hmot]
  refine ⟨hne, ?_⟩
  rw [framed, ← space_cons_toList_join hne, String.toList_append, String.toList_append]
  rfl

/-- The words of a label are words. -/
theorem word_motsDe {label mot : String} (h : mot ∈ motsDe label) : Word mot :=
  word_of_mem_splitWhitespace h

section Words

variable {mots : List String} (hmots : ∀ mot ∈ mots, Word mot)
include hmots

/-! ## The operation prefix -/

/-- The second `strip_prefix` of `retirer_prefixe`. -/
theorem stripDe_join :
    trimStart ((stripPrefix? "DE " (join " " mots)).getD (join " " mots)) =
      join " " (sansDe mots) := by
  have hmatch : ∀ mot mots', mots = "DE" :: mot :: mots' →
      stripPrefix? "DE " (join " " mots) = some (join " " (mot :: mots')) := by
    rintro mot mots' rfl
    refine stripPrefix?_eq_some_iff.2 (String.toList_inj.1 ?_)
    rw [String.toList_append, toList_join_cons, toList_join_cons, spaced_cons]
    rfl
  cases hstrip : stripPrefix? "DE " (join " " mots) with
  | none =>
      have hsans : sansDe mots = mots := by
        unfold sansDe
        split
        · rename_i mot mots'
          rw [hmatch mot mots' rfl] at hstrip
          cases hstrip
        · rfl
      rw [hsans]
      exact trimStart_join hmots
  | some reste =>
      have htext := congrArg String.toList (stripPrefix?_eq_some_iff.1 hstrip)
      rw [String.toList_append] at htext
      have hde : "DE ".toList = ['D', 'E'] ++ [' '] := rfl
      rw [hde, List.append_assoc, List.singleton_append] at htext
      rcases mots with _ | ⟨premier, _ | ⟨mot, mots'⟩⟩
      · simp at htext
      · have hspace : ' ' ∈ premier.toList := by
          rw [toList_join_cons, spaced_nil, List.append_nil] at htext
          simp [htext]
        exact absurd hspace (hmots premier List.mem_cons_self).space_notMem
      · rw [toList_join_cons, spaced_cons, List.cons_append, Separators.append_cons_inj
          (hmots premier List.mem_cons_self).space_notMem (by decide)] at htext
        obtain rfl : premier = "DE" := String.toList_inj.1 htext.1
        rw [hmatch mot mots' rfl] at hstrip
        obtain rfl := Option.some.inj hstrip
        exact trimStart_join fun w hw => hmots w (List.mem_cons_of_mem _ hw)

/-- The prefix of a label is the prefix of its words. -/
theorem apresPrefixe?_join {p : String} (hp : p ∈ prefixes) :
    apresPrefixe? (join " " mots) p = (apresOperation? mots p).map (join " ") := by
  obtain ⟨hne, hjoin⟩ := word_of_prefixe hp
  have hwords : ∀ w ∈ splitWhitespace p, Word w := fun w hw => word_of_mem_splitWhitespace hw
  unfold apresOperation? apresPrefixe?
  split_ifs with htete
  · obtain ⟨reste, rfl⟩ := htete
    have hreste : ∀ mot ∈ reste, Word mot := fun mot hmot =>
      hmots mot (List.mem_append_right _ hmot)
    have hstrip : stripPrefix? p (join " " (splitWhitespace p ++ reste)) =
        some (String.ofList (spaced reste)) := by
      refine stripPrefix?_eq_some_iff.2 (String.toList_inj.1 ?_)
      rw [toList_join_append hne, hjoin, String.toList_append, String.toList_ofList]
    have hbord : String.ofList (spaced reste) = "" ∨
        (String.ofList (spaced reste)).toList.head? = some ' ' := by
      cases reste with
      | nil => exact .inl rfl
      | cons mot reste => exact .inr (by simp)
    rw [hstrip, List.drop_left, Option.map_some, ← stripDe_join hreste, ← trimStart_spaced hreste]
    exact if_pos hbord
  · cases hstrip : stripPrefix? p (join " " mots) with
    | none => rfl
    | some reste =>
        refine if_neg fun hbord => htete ((framed_prefix_iff hwords hmots).1 ?_)
        have htext := congrArg String.toList (stripPrefix?_eq_some_iff.1 hstrip)
        rw [String.toList_append] at htext
        have hmots' : mots ≠ [] := by
          rintro rfl
          rw [toList_join_nil] at htext
          have hempty : join " " (splitWhitespace p) = "" := by
            rw [hjoin]
            exact String.toList_inj.1 (List.append_eq_nil_iff.1 htext.symm).1
          exact hne ((join_eq_empty_iff hwords).1 hempty)
        rw [framed_eq hne, framed_eq hmots', hjoin, htext]
        rcases hbord with rfl | hespace
        · exact ⟨[], by simp⟩
        · obtain ⟨suite, hsuite⟩ := List.head?_eq_some_iff.1 hespace
          exact ⟨suite ++ [' '], by simp [hsuite]⟩

/-- `retirer_prefixe`, on the words. -/
theorem retirerPrefixe_join :
    retirerPrefixe (join " " mots) = join " " (sansPrefixe mots) := by
  have hfind : ∀ l : List String, (∀ p ∈ l, p ∈ prefixes) →
      l.findSome? (apresPrefixe? (join " " mots)) =
        (l.findSome? (apresOperation? mots)).map (join " ") := by
    intro l hl
    induction l with
    | nil => rfl
    | cons p l ih =>
        have hp := apresPrefixe?_join hmots (hl p List.mem_cons_self)
        have hrest := ih fun q hq => hl q (List.mem_cons_of_mem p hq)
        rw [List.findSome?_cons, List.findSome?_cons, hp]
        cases apresOperation? mots p with
        | none => exact hrest
        | some reste => rfl
  unfold retirerPrefixe sansPrefixe
  rw [hfind prefixes fun p hp => hp]
  cases prefixes.findSome? (apresOperation? mots) <;> rfl

omit hmots in
/-- What follows `DE` ends the words. -/
theorem sansDe_suffix : sansDe mots <:+ mots := by
  unfold sansDe
  split
  · exact List.suffix_cons _ _
  · exact List.suffix_rfl

omit hmots in
/-- What follows the prefix ends the words. -/
theorem sansPrefixe_suffix : sansPrefixe mots <:+ mots := by
  unfold sansPrefixe
  cases hfind : prefixes.findSome? (apresOperation? mots) with
  | none => exact List.suffix_rfl
  | some reste =>
      obtain ⟨p, -, hreste⟩ := List.exists_of_findSome?_eq_some hfind
      unfold apresOperation? at hreste
      split_ifs at hreste
      obtain rfl := Option.some.inj hreste
      exact sansDe_suffix.trans (List.drop_suffix _ _)

end Words

/-! ## The civilities -/

/-- Past a word, a pattern that starts with a space is searched in what follows. -/
theorem autourDe?_append {motif mot suite : List Char} (hmot : ' ' ∉ mot)
    (hmotif : motif = ' ' :: motif.tail) :
    autourDe? motif (mot ++ suite) =
      (autourDe? motif suite).map fun (avant, apres) => (mot ++ avant, apres) := by
  induction mot with
  | nil =>
      rw [List.nil_append]
      exact Option.map_id'.symm
  | cons c mot ih =>
      have hc : c ≠ ' ' := fun h => hmot (h ▸ List.mem_cons_self)
      have hrest := ih fun h => hmot (List.mem_cons_of_mem c h)
      have hnot : ¬ motif.isPrefixOf (c :: (mot ++ suite)) = true := by
        rw [List.isPrefixOf_iff_prefix, hmotif, List.cons_prefix_cons]
        exact fun h => hc h.1.symm
      rw [List.cons_append, autourDe?, if_neg hnot, hrest, Option.map_map]
      rfl

variable {mots motif : List String}

/-- An occurrence between spaces is an occurrence of the words. -/
theorem autourDe?_framed (hmotif : ∀ w ∈ motif, Word w) (hne : motif ≠ [])
    (hmots : ∀ w ∈ mots, Word w) :
    autourDe? (framed motif) (framed mots) =
      (Excision.around? motif mots).map fun (avant, apres) =>
        (spaced avant, (framed apres).tail) := by
  induction mots with
  | nil =>
      have hnot : ¬ (framed motif).isPrefixOf [' '] = true := by
        rw [List.isPrefixOf_iff_prefix, ← framed_nil, framed_prefix_iff hmotif (by simp),
          List.prefix_nil]
        exact hne
      have hend : framed motif ≠ [] := by
        rw [framed_eq_cons]
        exact List.cons_ne_nil _ _
      rw [framed_nil, autourDe?, if_neg hnot, autourDe?, if_neg hend, Excision.around?, if_neg hne]
      rfl
  | cons mot mots ih =>
      have hmot := hmots mot List.mem_cons_self
      have hrest := ih fun w hw => hmots w (List.mem_cons_of_mem mot hw)
      have htete := framed_prefix_iff hmotif hmots
      rw [framed_cons, List.cons_append] at htete ⊢
      rw [autourDe?, Excision.around?]
      by_cases hstart : motif <+: mot :: mots
      · rw [if_pos (List.isPrefixOf_iff_prefix.2 (htete.2 hstart)), if_pos hstart]
        obtain ⟨apres, hapres⟩ := hstart
        have hdrop : ' ' :: (mot.toList ++ framed mots) =
            framed motif ++ (framed apres).tail := by
          rw [← List.cons_append, ← framed_cons, ← hapres, framed_append_tail]
        rw [hdrop, List.drop_left, ← hapres, List.drop_left]
        rfl
      · rw [if_neg fun h => hstart (htete.1 (List.isPrefixOf_iff_prefix.1 h)), if_neg hstart,
          autourDe?_append hmot.space_notMem framed_eq_cons, hrest, Option.map_map, Option.map_map,
          Option.map_map]
        rfl

/-- A pattern between spaces is removed word by word. -/
theorem remplacerMotif_framed (hmotif : ∀ w ∈ motif, Word w) (hne : motif ≠ []) {n : ℕ}
    (hmots : ∀ w ∈ mots, Word w) :
    remplacerMotif (framed motif) n (framed mots) = framed (Excision.remove motif n mots) := by
  induction n generalizing mots with
  | zero => rfl
  | succ n ih =>
      have haround := autourDe?_framed hmotif hne hmots
      rw [remplacerMotif, Excision.remove, haround]
      cases hmatch : Excision.around? motif mots with
      | none => rfl
      | some p =>
          obtain ⟨avant, apres⟩ := p
          have hsplit := Excision.around?_eq_some hmatch
          have hreste : ∀ w ∈ avant ++ apres, Word w := by
            intro w hw
            refine hmots w ?_
            rw [hsplit]
            simp only [List.mem_append] at hw ⊢
            tauto
          have htexte : spaced avant ++ ' ' :: (framed apres).tail = framed (avant ++ apres) := by
            rw [← framed_eq_cons, ← framed_append]
          show remplacerMotif _ n (spaced avant ++ ' ' :: (framed apres).tail) = _
          rw [htexte, ih hreste]

/-- What is left of the words is a part of them. -/
theorem sansMotifs_sublist {motifs : List String} : (sansMotifs motifs mots).Sublist mots := by
  unfold sansMotifs
  induction motifs generalizing mots with
  | nil => exact List.Sublist.refl mots
  | cons motif motifs ih =>
      rw [List.foldl_cons]
      exact ih.trans Excision.excise_sublist

/-- `retirer_civilites`, on the words. -/
theorem retirerCivilites_join (hmots : ∀ w ∈ mots, Word w) :
    retirerCivilites (join " " mots) = join " " (sansCivilites mots) := by
  by_cases hvide : mots = []
  · subst hvide
    have hnil : sansCivilites [] = [] := List.sublist_nil.1 sansMotifs_sublist
    rw [hnil]
    decide
  have hfold : ∀ (l : List String) (mots : List String), (∀ c ∈ l, c ∈ civilites) →
      (∀ w ∈ mots, Word w) →
      l.foldl (fun out civilite => remplacerMotif (" " ++ civilite ++ " ").toList out.length out)
        (framed mots) = framed (sansMotifs l mots) := by
    intro l
    induction l with
    | nil => exact fun _ _ _ => rfl
    | cons c l ih =>
        intro mots hl hmots
        obtain ⟨hne, hframed⟩ := framed_of_civilite (hl c List.mem_cons_self)
        have hmotif : ∀ w ∈ splitWhitespace c, Word w := fun w hw => word_of_mem_splitWhitespace hw
        have hlength : mots.length ≤ (framed mots).length := length_le_framed
        have hreste : ∀ w ∈ Excision.excise (splitWhitespace c) mots, Word w := fun w hw =>
          hmots w (Excision.excise_sublist.subset hw)
        rw [List.foldl_cons, ← hframed, remplacerMotif_framed hmotif hne hmots,
          Excision.remove_eq_excise hne hlength]
        exact ih _ (fun b hb => hl b (List.mem_cons_of_mem c hb)) hreste
  have hreste : ∀ w ∈ sansMotifs civilites mots, Word w := fun w hw =>
    hmots w (sansMotifs_sublist.subset hw)
  have htexte : (" " ++ join " " mots ++ " ").toList = framed mots := by
    rw [framed_eq hvide, String.toList_append, String.toList_append]
    rfl
  unfold retirerCivilites
  rw [htexte]
  show join " " (splitWhitespace (String.ofList (civilites.foldl _ (framed mots)))) = _
  rw [hfold civilites mots (fun c hc => hc) hmots, framed, splitWhitespace_spaced hreste,
    sansCivilites]

/-! ## The whole extraction -/

/-- `filtrer_tokens`, on the words. -/
theorem filtrerTokens_join (hmots : ∀ w ∈ mots, Word w) :
    filtrerTokens (join " " mots) =
      join " " ((mots.filter fun mot => !estTokenVolatile mot).take maxTokens) := by
  rw [filtrerTokens, splitWhitespace_join hmots]

/-- `premiers_mots`, on the words. -/
theorem premiersMots_join (hmots : ∀ w ∈ mots, Word w) (n : ℕ) :
    premiersMots (join " " mots) n = join " " (mots.take n) := by
  rw [premiersMots, splitWhitespace_join hmots]

/-- `normaliser`, on the words. -/
theorem normaliser_eq (label : String) : normaliser label = join " " (motsDe label) := by
  rw [normaliser, motsDe]

/-- The words that survive are words of the label, in their order. -/
theorem survivants_sublist : (survivants mots).Sublist mots := by
  unfold survivants sansCivilites
  exact List.filter_sublist.trans (sansMotifs_sublist.trans sansPrefixe_suffix.sublist)

/-- A word survives when it is in no title and is not volatile. -/
theorem mem_survivants {mot : String} :
    mot ∈ survivants mots ↔
      mot ∈ sansCivilites (sansPrefixe mots) ∧ estTokenVolatile mot = false := by
  unfold survivants
  rw [List.mem_filter, Bool.not_eq_true']

/-- The survivors are the names that follow the prefix, out of the civilities of two persons. -/
theorem survivants_eq (mots : List String) :
    survivants mots = (sansCouples (sansPrefixe mots)).filter estNom := by
  rw [survivants, sansCivilites_eq_filter, List.filter_filter]
  exact List.filter_congr fun mot _ => Bool.and_comm _ _

/-- A name of no civility survives as soon as it follows the prefix; the other survivors are
what the removal of the civilities leaves of one. -/
theorem survivants_ne_nil_iff (mots : List String) :
    survivants mots ≠ [] ↔
      (∃ mot ∈ sansPrefixe mots, mot ∉ motsDesCivilites.flatten ∧ estTokenVolatile mot = false) ∨
        ∃ mot ∈ sansCouples (sansPrefixe mots), mot = "OU" ∨ mot = "M.OU" := by
  have htable : ∀ mot ∈ motsDesCivilites.flatten, mot ∉ titres → mot = "OU" ∨ mot = "M.OU" := by
    decide
  have hcouples : ∀ couple ∈ motsDesCouples, ∀ mot ∈ couple, mot ∈ motsDesCivilites.flatten := by
    decide
  have htitres : ∀ mot ∈ titres, mot ∈ motsDesCivilites.flatten := by decide
  rw [survivants_eq, Ne, List.filter_eq_nil_iff]
  simp only [estNom, Bool.and_eq_true, Bool.not_eq_true', not_forall, not_not, exists_prop]
  constructor
  · rintro ⟨mot, hmot, htitre, hstable⟩
    have hnom : mot ∉ titres := by simpa using htitre
    by_cases hcivilite : mot ∈ motsDesCivilites.flatten
    · exact .inr ⟨mot, hmot, htable mot hcivilite hnom⟩
    · refine .inl ⟨mot, (mem_sansCouples_of_notMem ?_).1 hmot, hcivilite, hstable⟩
      exact fun couple hcouple hmem => hcivilite (hcouples couple hcouple mot hmem)
  · rintro (⟨mot, hmot, hcivilite, hstable⟩ | ⟨mot, hmot, hou⟩)
    · refine ⟨mot, (mem_sansCouples_of_notMem ?_).2 hmot, ?_, hstable⟩
      · exact fun couple hcouple hmem => hcivilite (hcouples couple hcouple mot hmem)
      · simpa using fun htitre => hcivilite (htitres mot htitre)
    · refine ⟨mot, hmot, ?_⟩
      rcases hou with rfl | rfl <;> decide

/-- The words that are retained are words of the label, in their order. -/
theorem retenus_sublist : (retenus mots).Sublist mots := by
  unfold retenus
  exact (List.take_sublist maxTokens (survivants mots)).trans survivants_sublist

/-- The words retained are the first names that follow the prefix, out of the civilities of two
persons. -/
theorem retenus_eq (mots : List String) :
    retenus mots = ((sansCouples (sansPrefixe mots)).filter estNom).take maxTokens := by
  rw [retenus, survivants_eq]

/-- Nothing is retained when nothing survives. -/
theorem retenus_eq_nil_iff : retenus mots = [] ↔ survivants mots = [] := by
  unfold retenus
  rw [List.take_eq_nil_iff]
  exact or_iff_right (by decide)

/-- When a word survives, the text extracted is made of the survivors. -/
theorem motsDuTiers_of_survivants (h : survivants mots ≠ []) : motsDuTiers mots = retenus mots :=
  if_neg fun hvide => h (retenus_eq_nil_iff.1 hvide)

/-- When none does, it is made of the first words. -/
theorem motsDuTiers_of_repli (h : survivants mots = []) : motsDuTiers mots = mots.take maxTokens :=
  if_pos (retenus_eq_nil_iff.2 h)

/-- The words that are retained are words. -/
theorem word_retenus (hmots : ∀ w ∈ mots, Word w) : ∀ w ∈ retenus mots, Word w :=
  fun w hw => hmots w (retenus_sublist.subset hw)

/-- The text extracted from a label is made of words of the label. -/
theorem extraireTiers_eq (label : String) :
    extraireTiers label = join " " (motsDuTiers (motsDe label)) := by
  have hmots : ∀ w ∈ motsDe label, Word w := fun w hw => word_motsDe hw
  have hsuite : ∀ w ∈ sansPrefixe (motsDe label), Word w := fun w hw =>
    hmots w (sansPrefixe_suffix.subset hw)
  have hcivilites : ∀ w ∈ sansCivilites (sansPrefixe (motsDe label)), Word w := fun w hw =>
    hsuite w (sansMotifs_sublist.subset hw)
  unfold extraireTiers motsDuTiers
  simp only [normaliser_eq, retirerPrefixe_join hmots, retirerCivilites_join hsuite,
    filtrerTokens_join hcivilites, premiersMots_join hmots]
  have hvide := trim_join_eq_empty_iff (word_retenus hmots)
  rw [retenus, survivants] at hvide ⊢
  split_ifs with htexte hrien hrien
  · rfl
  · exact absurd (hvide.1 htexte) hrien
  · exact absurd (hvide.2 hrien) htexte
  · rfl

end Budgy
