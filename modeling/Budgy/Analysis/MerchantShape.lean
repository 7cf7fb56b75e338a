import Budgy.Analysis.DerivedRules

/-!
# The shape of an extracted text

The loops of `retirer_civilites` rewrite the text they search.  Each turn shortens it, so
they leave it at a text without an occurrence, whichever civilities earlier removals brought
together.  The words extracted are words of the label, at most five, and none is missing
from a label that has one: a stored pattern is never compared as the empty text, which every
label would hold.
-/

set_option autoImplicit false

namespace Budgy

open Text

/-! ## The loop of the civilities -/

/-- The text searched for a civility: the civility between two spaces. -/
def motifCivilite (civilite : String) : List Char := (" " ++ civilite ++ " ").toList

/-- One turn of the `while` loop of `retirer_civilites`. -/
def Tour (motif out suivant : List Char) : Prop :=
  ∃ avant apres, autourDe? motif out = some (avant, apres) ∧ suivant = avant ++ ' ' :: apres

/-- The loop goes from a text to another, and leaves there. -/
def Boucle (motif out fin : List Char) : Prop :=
  Relation.ReflTransGen (Tour motif) out fin ∧ ∀ suivant, ¬ Tour motif fin suivant

/-- The loops of the civilities, one after the other. -/
def Boucles : List String → List Char → List Char → Prop
  | [], out, fin => fin = out
  | civilite :: suite, out, fin =>
      ∃ milieu, Boucle (motifCivilite civilite) out milieu ∧ Boucles suite milieu fin

variable {motif out suivant : List Char}

/-- The characters around a pattern, with the pattern, make the text. -/
theorem autourDe?_eq_some {avant apres : List Char} (h : autourDe? motif out = some (avant, apres)) :
    out = avant ++ motif ++ apres := by
  induction out generalizing avant with
  | nil =>
      unfold autourDe? at h
      split_ifs at h with hmotif
      obtain ⟨rfl, rfl⟩ := Prod.mk.inj (Option.some.inj h)
      simp [hmotif]
  | cons c cs ih =>
      unfold autourDe? at h
      split_ifs at h with hmotif
      · obtain ⟨rfl, rfl⟩ := Prod.mk.inj (Option.some.inj h)
        obtain ⟨reste, hreste⟩ := List.isPrefixOf_iff_prefix.1 hmotif
        rw [← hreste, List.drop_left, List.nil_append]
      · obtain ⟨⟨avant', apres'⟩, hautour, heq⟩ := Option.map_eq_some_iff.1 h
        obtain ⟨rfl, rfl⟩ := Prod.mk.inj heq
        rw [ih hautour]
        rfl

/-- A turn puts one space in the place of a longer text. -/
theorem Tour.length_lt (hmotif : 2 ≤ motif.length) (h : Tour motif out suivant) :
    suivant.length < out.length := by
  obtain ⟨avant, apres, hautour, rfl⟩ := h
  have hout := congrArg List.length (autourDe?_eq_some hautour)
  simp only [List.length_append, List.length_cons] at hout ⊢
  omega

/-- No run of the loop is infinite. -/
theorem wellFounded_tour (hmotif : 2 ≤ motif.length) :
    WellFounded fun suivant out => Tour motif out suivant := by
  apply Subrelation.wf (r := InvImage (· < ·) List.length)
  · intro suivant out h
    exact h.length_lt hmotif
  · exact InvImage.wf List.length Nat.lt_wfRel.wf

/-- The length of the text is enough turns. -/
theorem boucle_remplacerMotif (hmotif : 2 ≤ motif.length) {n : ℕ} (hn : out.length ≤ n) :
    Boucle motif out (remplacerMotif motif n out) := by
  induction n generalizing out with
  | zero =>
      refine ⟨.refl, fun suivant h => ?_⟩
      have hlt := h.length_lt hmotif
      rw [remplacerMotif] at hlt
      omega
  | succ n ih =>
      rw [remplacerMotif]
      cases hautour : autourDe? motif out with
      | none =>
          refine ⟨.refl, ?_⟩
          rintro suivant ⟨avant, apres, hsome, -⟩
          rw [hautour] at hsome
          cases hsome
      | some p =>
          obtain ⟨avant, apres⟩ := p
          have htour : Tour motif out (avant ++ ' ' :: apres) := ⟨avant, apres, hautour, rfl⟩
          have hlt := htour.length_lt hmotif
          obtain ⟨hsuite, hfin⟩ := @ih (avant ++ ' ' :: apres) (by omega)
          exact ⟨.head htour hsuite, hfin⟩

/-- A pattern has its two spaces. -/
theorem two_le_motifCivilite (civilite : String) : 2 ≤ (motifCivilite civilite).length := by
  unfold motifCivilite
  rw [String.toList_append, String.toList_append, List.length_append, List.length_append]
  have hespace : (" ".toList).length = 1 := rfl
  omega

/-- The folds of `retirerCivilites` are the loops, run to their ends. -/
theorem boucles_foldl (l : List String) (out : List Char) :
    Boucles l out (l.foldl
      (fun out civilite => remplacerMotif (" " ++ civilite ++ " ").toList out.length out) out) := by
  induction l generalizing out with
  | nil => rfl
  | cons civilite suite ih =>
      rw [List.foldl_cons]
      have hboucle := boucle_remplacerMotif (two_le_motifCivilite civilite) (le_refl out.length)
      exact ⟨_, hboucle, ih _⟩

/-! ## The words of the text extracted -/

variable {mots : List String}

/-- No word is extracted when there is none. -/
theorem motsDuTiers_eq_nil_iff : motsDuTiers mots = [] ↔ mots = [] := by
  by_cases h : survivants mots = []
  · rw [motsDuTiers_of_repli h, List.take_eq_nil_iff]
    exact or_iff_right (by decide)
  · have hmots : mots ≠ [] := by
      rintro rfl
      exact h (List.sublist_nil.1 survivants_sublist)
    rw [motsDuTiers_of_survivants h, retenus_eq_nil_iff]
    exact iff_of_false h hmots

/-- A blank label has no word. -/
theorem motsDe_eq_nil_iff {label : String} :
    motsDe label = [] ↔ ∀ c ∈ label.toList, isWhitespace c = true := by
  rw [motsDe, splitWhitespace_eq_nil_iff, toUppercase, String.toList_ofList]
  constructor
  · intro h c hc
    obtain ⟨d, hd⟩ := List.exists_mem_of_ne_nil _ (upperChar_ne_nil c)
    rw [← isWhitespace_of_mem_upperChar hd]
    exact h d (List.mem_flatMap.2 ⟨c, hc, hd⟩)
  · intro h d hd
    obtain ⟨c, hc, hd⟩ := List.mem_flatMap.1 hd
    rw [isWhitespace_of_mem_upperChar hd]
    exact h c hc

/-- Nothing is extracted from a blank label only. -/
theorem extraireTiers_eq_empty_iff {label : String} :
    extraireTiers label = "" ↔ ∀ c ∈ label.toList, isWhitespace c = true := by
  rw [extraireTiers_eq, join_eq_empty_iff fun _ hmot => word_motsDuTiers hmot,
    motsDuTiers_eq_nil_iff, motsDe_eq_nil_iff]

/-- The words of the extraction are those that it kept. -/
theorem splitWhitespace_extraireTiers (label : String) :
    splitWhitespace (extraireTiers label) = motsDuTiers (motsDe label) := by
  rw [extraireTiers_eq, splitWhitespace_join fun _ hmot => word_motsDuTiers hmot]

/-- The words left when the prefix and the civilities are removed. -/
theorem splitWhitespace_sansCivilites (label : String) :
    splitWhitespace (retirerCivilites (retirerPrefixe (normaliser label))) =
      sansCivilites (sansPrefixe (motsDe label)) := by
  have hmots : ∀ w ∈ motsDe label, Word w := fun _ hw => word_motsDe hw
  have hsuite : ∀ w ∈ sansPrefixe (motsDe label), Word w := fun w hw =>
    hmots w (sansPrefixe_suffix.subset hw)
  rw [normaliser_eq, retirerPrefixe_join hmots, retirerCivilites_join hsuite]
  exact splitWhitespace_join fun w hw => hsuite w (sansMotifs_sublist.subset hw)

/-- A word that survives is neither volatile nor a civility. -/
theorem of_mem_survivants {mot : String} (hword : Word mot) (h : mot ∈ survivants mots) :
    estTokenVolatile mot = false ∧ mot ∉ civilites := by
  obtain ⟨hreste, hstable⟩ := mem_survivants.1 h
  refine ⟨hstable, fun hcivilite => ?_⟩
  have hseul : splitWhitespace mot = [mot] := by
    have hjoin : join " " [mot] = mot := String.intercalate_singleton
    have hsplit := @splitWhitespace_join [mot] fun w hw => List.mem_singleton.1 hw ▸ hword
    rwa [hjoin] at hsplit
  exact notMem_sansMotifs hcivilite hseul hreste

/-! ## The shape -/

/-- What is known of the text extracted from a label. -/
structure FormeDuTiers (label : String) : Prop where
  /-- No loop of `retirer_civilites` runs for ever. -/
  termine : ∀ civilite ∈ civilites,
    WellFounded fun suivant out => Tour (motifCivilite civilite) out suivant
  /-- What the stage of the civilities returns is read where its loops end. -/
  boucles : ∃ fin,
    Boucles civilites (" " ++ retirerPrefixe (normaliser label) ++ " ").toList fin ∧
      retirerCivilites (retirerPrefixe (normaliser label)) =
        join " " (splitWhitespace (String.ofList fin))
  vide : extraireTiers label = "" ↔ ∀ c ∈ label.toList, isWhitespace c = true
  cinq : (splitWhitespace (extraireTiers label)).length ≤ 5
  espaces : join " " (splitWhitespace (extraireTiers label)) = extraireTiers label
  retenus : (∃ mot ∈ splitWhitespace (retirerCivilites (retirerPrefixe (normaliser label))),
      estTokenVolatile mot = false) →
    ∀ mot ∈ splitWhitespace (extraireTiers label), estTokenVolatile mot = false ∧ mot ∉ civilites

/-- The shape of what is extracted from any label. -/
theorem formeDuTiers (label : String) : FormeDuTiers label where
  termine civilite _ := wellFounded_tour (two_le_motifCivilite civilite)
  boucles := ⟨_, boucles_foldl civilites _, rfl⟩
  vide := extraireTiers_eq_empty_iff
  cinq := by
    rw [splitWhitespace_extraireTiers]
    exact length_motsDuTiers
  espaces := by rw [splitWhitespace_extraireTiers, ← extraireTiers_eq]
  retenus := by
    rintro ⟨mot, hmot, hstable⟩ tiers htiers
    rw [splitWhitespace_sansCivilites] at hmot
    have hsurvivants : survivants (motsDe label) ≠ [] :=
      List.ne_nil_of_mem (mem_survivants.2 ⟨hmot, hstable⟩)
    rw [splitWhitespace_extraireTiers] at htiers
    have hword := word_motsDuTiers htiers
    rw [motsDuTiers_of_survivants hsurvivants] at htiers
    exact of_mem_survivants hword (List.mem_of_mem_take htiers)

/-- A pattern accepted holds a character that is not white space. -/
theorem exists_of_parse {value : String} {motif : LabelPattern}
    (h : LabelPattern.parse value = .ok motif) :
    ∃ c ∈ motif.asStr.toList, isWhitespace c = false := by
  unfold LabelPattern.parse texteBorne at h
  dsimp only at h
  split_ifs at h with hvide hlong
  have hmotif := Except.ok.inj h
  rw [← hmotif]
  exact exists_not_blank_trim hvide

/-- Whatever the label, the text extracted has its shape; no pattern accepted is compared as
the empty text, which every label matches. -/
theorem extraireTiers_forme :
    (∀ label, FormeDuTiers label) ∧
      (∀ (value : String) (motif : LabelPattern) (regle : RegleCategorisation),
        LabelPattern.parse value = .ok motif → regle.labelPattern = motif.asStr →
          toLowercase (extraireTiers regle.labelPattern) ≠ "") ∧
      ∀ regle : RegleCategorisation, toLowercase (extraireTiers regle.labelPattern) = "" →
        ∀ label, regle.correspond label = true := by
  refine ⟨formeDuTiers, ?_, ?_⟩
  · intro value motif regle hparse hregle hvide
    obtain ⟨c, hc, hlettre⟩ := exists_of_parse hparse
    rw [hregle] at hvide
    have htexte : extraireTiers motif.asStr ≠ "" := by
      intro htiers
      have hblanc := extraireTiers_eq_empty_iff.1 htiers c hc
      rw [hblanc] at hlettre
      cases hlettre
    have hlist := congrArg String.toList hvide
    rw [toLowercase, String.toList_ofList] at hlist
    exact lowerFrom_ne_nil (fun hnil => htexte (String.toList_inj.1 hnil)) hlist
  · intro regle hvide label
    rw [RegleCategorisation.correspond, hvide]
    exact contains_iff.2 List.nil_infix

/-- The rule on card payments is compared as « cb »; a rule without a text, which no
validation accepts, would match. -/
theorem forme_carrefour :
    FormeDuTiers "CB CARREFOUR" ∧ toLowercase (extraireTiers regleCb.labelPattern) ≠ "" ∧
      { regleCb with labelPattern := "" }.correspond "CB CARREFOUR" = true := by
  have hparse : LabelPattern.parse "CB" = .ok ⟨"CB", by decide, by decide⟩ := by decide
  have hvide : extraireTiers "" = "" := extraireTiers_eq_empty_iff.2 (by simp)
  have hbas : toLowercase (extraireTiers "") = "" := by
    rw [hvide]
    rfl
  obtain ⟨hforme, hmotif, hrien⟩ := extraireTiers_forme
  exact ⟨hforme "CB CARREFOUR", hmotif "CB" _ regleCb hparse rfl,
    hrien { regleCb with labelPattern := "" } hbas "CB CARREFOUR"⟩

end Budgy
