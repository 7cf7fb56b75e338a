import Mathlib.Data.List.Infix
import Mathlib.Tactic.Common
import Budgy.Interface.Separators

/-!
# Texts as sequences of words

A text whose words are separated by single spaces is the join of its words.  On such
texts, splitting, stripping a head, lower-casing and searching are the corresponding
operations on the sequence of the words.
-/

set_option autoImplicit false

namespace Text

/-- A word: it is not empty, and holds no white space. -/
def Word (w : String) : Prop := w.toList ≠ [] ∧ ∀ c ∈ w.toList, isWhitespace c = false

instance (w : String) : Decidable (Word w) :=
  inferInstanceAs (Decidable (w.toList ≠ [] ∧ ∀ c ∈ w.toList, isWhitespace c = false))

/-- The words, each after a space. -/
def spaced (ws : List String) : List Char := ws.flatMap fun w => ' ' :: w.toList

variable {w : String} {ws : List String} {word cs : List Char}

/-- A word has no space. -/
theorem Word.space_notMem (h : Word w) : ' ' ∉ w.toList := by
  intro hmem
  have hspace := h.2 ' ' hmem
  revert hspace
  decide

/-- No word. -/
@[simp]
theorem spaced_nil : spaced [] = [] := rfl

/-- One more word in front. -/
@[simp]
theorem spaced_cons : spaced (w :: ws) = ' ' :: w.toList ++ spaced ws := rfl

/-- Two lists of words. -/
theorem spaced_append {ws' : List String} : spaced (ws ++ ws') = spaced ws ++ spaced ws' :=
  List.flatMap_append

/-- One word. -/
theorem spaced_singleton : spaced [w] = ' ' :: w.toList := by simp

/-- The join of no word is empty. -/
@[simp]
theorem toList_join_nil : (join " " []).toList = [] := by simp [join]

/-- The join starts with the first word. -/
theorem toList_join_cons : (join " " (w :: ws)).toList = w.toList ++ spaced ws := by
  unfold join
  induction ws generalizing w with
  | nil => simp
  | cons v ws ih =>
      rw [String.intercalate_cons_cons, String.toList_append, String.toList_append, ih]
      simp

/-- Before its first word, a text is given the space that the others have. -/
theorem space_cons_toList_join (hne : ws ≠ []) : ' ' :: (join " " ws).toList = spaced ws := by
  cases ws with
  | nil => exact absurd rfl hne
  | cons w ws => rw [toList_join_cons, spaced_cons, List.cons_append]

/-- The characters of a text are those of its words and the spaces between them. -/
theorem mem_toList_join {c : Char} (hc : c ∈ (join " " ws).toList) :
    c = ' ' ∨ ∃ w ∈ ws, c ∈ w.toList := by
  have hspaced : c ∈ spaced ws := by
    cases ws with
    | nil => simp at hc
    | cons w ws =>
        rw [← space_cons_toList_join (List.cons_ne_nil w ws)]
        exact List.mem_cons_of_mem _ hc
  obtain ⟨w, hw, hmem⟩ := List.mem_flatMap.1 hspaced
  exact (List.mem_cons.1 hmem).imp_right fun h => ⟨w, hw, h⟩

/-- Only the join of no word is empty. -/
theorem join_eq_empty_iff (h : ∀ w ∈ ws, Word w) : join " " ws = "" ↔ ws = [] := by
  constructor
  · intro hempty
    cases ws with
    | nil => rfl
    | cons w ws =>
        have hlist := congrArg String.toList hempty
        rw [toList_join_cons] at hlist
        exact absurd (List.append_eq_nil_iff.1 hlist).1 (h w List.mem_cons_self).1
  · rintro rfl
    rfl

/-- The join of two lists of words. -/
theorem toList_join_append {ps : List String} (hne : ps ≠ []) :
    (join " " (ps ++ ws)).toList = (join " " ps).toList ++ spaced ws := by
  cases ps with
  | nil => exact absurd rfl hne
  | cons p ps =>
      rw [List.cons_append, toList_join_cons, toList_join_cons, spaced_append, List.append_assoc]

/-- A prefix, and what it leaves. -/
theorem stripPrefix?_eq_some_iff {head s rest : String} :
    stripPrefix? head s = some rest ↔ s = head ++ rest := by
  constructor
  · intro h
    unfold stripPrefix? at h
    split_ifs at h with htete
    obtain ⟨z, hz⟩ := List.isPrefixOf_iff_prefix.1 htete
    obtain rfl := Option.some.inj h
    apply String.toList_inj.1
    rw [String.toList_append, String.toList_ofList, ← hz, List.drop_left]
  · rintro rfl
    exact stripPrefix?_append head rest

/-- A text made of words starts with one. -/
theorem trimStart_join (h : ∀ w ∈ ws, Word w) : trimStart (join " " ws) = join " " ws := by
  have hdrop : (join " " ws).toList.dropWhile isWhitespace = (join " " ws).toList := by
    cases ws with
    | nil => rw [toList_join_nil, List.dropWhile_nil]
    | cons w ws =>
        have hw := h w List.mem_cons_self
        obtain ⟨c, cs, hcs⟩ := List.exists_cons_of_ne_nil hw.1
        have hc : isWhitespace c = false := hw.2 c (hcs ▸ List.mem_cons_self)
        rw [toList_join_cons, hcs, List.cons_append, List.dropWhile_cons_of_neg (by simp [hc])]
  rw [trimStart, hdrop, String.ofList_toList]

/-- The space before the first word is trimmed. -/
theorem trimStart_spaced (h : ∀ w ∈ ws, Word w) :
    trimStart (String.ofList (spaced ws)) = join " " ws := by
  by_cases hne : ws = []
  · subst hne
    rfl
  · have hspace : isWhitespace ' ' = true := by decide
    have htrim := trimStart_join h
    rw [← space_cons_toList_join hne, trimStart, String.toList_ofList,
      List.dropWhile_cons_of_pos hspace]
    exact htrim

/-- It ends with its last word. -/
theorem exists_toList_join_concat (ws : List String) (w : String) :
    ∃ s, (join " " (ws ++ [w])).toList = s ++ w.toList := by
  by_cases hne : ws = []
  · subst hne
    exact ⟨[], by rw [List.nil_append, toList_join_cons, spaced_nil, List.append_nil,
      List.nil_append]⟩
  · exact ⟨(join " " ws).toList ++ [' '], by rw [toList_join_append hne, spaced_singleton,
      List.append_assoc, List.singleton_append]⟩

/-- There is nothing to trim around a text made of words. -/
theorem trim_join (h : ∀ w ∈ ws, Word w) : trim (join " " ws) = join " " ws := by
  rcases List.eq_nil_or_concat' ws with rfl | ⟨init, w, rfl⟩
  · rfl
  · have hw := h w List.mem_concat_self
    obtain ⟨cs, c, hcs⟩ := (List.eq_nil_or_concat' w.toList).resolve_left hw.1
    have hc : isWhitespace c = false := hw.2 c (hcs ▸ List.mem_concat_self)
    obtain ⟨s, hs⟩ := exists_toList_join_concat init w
    have hdrop : (join " " (init ++ [w])).toList.reverse.dropWhile isWhitespace =
        (join " " (init ++ [w])).toList.reverse := by
      rw [hs, hcs, ← List.append_assoc, List.reverse_append, List.reverse_singleton,
        List.singleton_append, List.dropWhile_cons_of_neg (by simp [hc])]
    rw [trim, trimStart_join h, trimEnd, hdrop, List.reverse_reverse, String.ofList_toList]

/-- Only the join of no word is blank. -/
theorem trim_join_eq_empty_iff (h : ∀ w ∈ ws, Word w) : trim (join " " ws) = "" ↔ ws = [] := by
  rw [trim_join h]
  exact join_eq_empty_iff h

/-! ## Splitting -/

/-- The characters of a word are gathered. -/
theorem wordsFrom_append {w : List Char} (hw : ∀ c ∈ w, isWhitespace c = false) :
    wordsFrom word (w ++ cs) = wordsFrom (word ++ w) cs := by
  induction w generalizing word with
  | nil => simp
  | cons c w ih =>
      have hc : isWhitespace c = false := hw c List.mem_cons_self
      have hrest := @ih (word ++ [c]) fun b hb => hw b (List.mem_cons_of_mem c hb)
      rw [List.cons_append, wordsFrom, if_neg (by simp [hc]), hrest, List.append_assoc,
        List.singleton_append]

/-- A space ends a word. -/
theorem wordsFrom_space (hne : word ≠ []) :
    wordsFrom word (' ' :: cs) = word :: wordsFrom [] cs := by
  have hspace : isWhitespace ' ' = true := by decide
  rw [wordsFrom, if_pos hspace, if_neg hne]

/-- The words are read one after the other. -/
theorem wordsFrom_spaced (hne : word ≠ []) (h : ∀ w ∈ ws, Word w) :
    wordsFrom word (spaced ws) = word :: ws.map String.toList := by
  induction ws generalizing word with
  | nil => rw [spaced_nil, wordsFrom, if_neg hne, List.map_nil]
  | cons w ws ih =>
      have hw := h w List.mem_cons_self
      have hrest := @ih w.toList hw.1 fun v hv => h v (List.mem_cons_of_mem w hv)
      rw [spaced_cons, List.cons_append, wordsFrom_space hne, wordsFrom_append hw.2,
        List.nil_append, hrest, List.map_cons]

/-- A text made of words gives its words back. -/
theorem splitWhitespace_join (h : ∀ w ∈ ws, Word w) : splitWhitespace (join " " ws) = ws := by
  have hread : wordsFrom [] (join " " ws).toList = ws.map String.toList := by
    cases ws with
    | nil =>
        rw [toList_join_nil]
        rfl
    | cons w ws =>
        have hw := h w List.mem_cons_self
        have hrest := wordsFrom_spaced hw.1 fun v hv => h v (List.mem_cons_of_mem w hv)
        rw [toList_join_cons, wordsFrom_append hw.2, List.nil_append, hrest, List.map_cons]
  rw [splitWhitespace, hread, List.map_map]
  simp

/-- So does a text with a space before each word and one at the end. -/
theorem splitWhitespace_spaced (h : ∀ w ∈ ws, Word w) :
    splitWhitespace (String.ofList (spaced ws ++ [' '])) = ws := by
  have hlast : ∀ (ws : List String) (word : List Char), word ≠ [] → (∀ w ∈ ws, Word w) →
      wordsFrom word (spaced ws ++ [' ']) = word :: ws.map String.toList := by
    intro ws
    induction ws with
    | nil =>
        intro word hne _
        rw [spaced_nil, List.nil_append, wordsFrom_space hne]
        rfl
    | cons w ws ih =>
        intro word hne h
        have hw := h w List.mem_cons_self
        have hrest := ih w.toList hw.1 fun v hv => h v (List.mem_cons_of_mem w hv)
        rw [spaced_cons, List.cons_append, List.cons_append, wordsFrom_space hne,
          List.append_assoc, wordsFrom_append hw.2, List.nil_append, hrest, List.map_cons]
  have hread : wordsFrom [] (spaced ws ++ [' ']) = ws.map String.toList := by
    cases ws with
    | nil => rfl
    | cons w ws =>
        have hw := h w List.mem_cons_self
        have hrest := hlast ws w.toList hw.1 fun v hv => h v (List.mem_cons_of_mem w hv)
        have hspace : wordsFrom [] (' ' :: (w.toList ++ (spaced ws ++ [' ']))) =
            wordsFrom [] (w.toList ++ (spaced ws ++ [' '])) := rfl
        rw [spaced_cons, List.cons_append, List.cons_append, List.append_assoc, hspace,
          wordsFrom_append hw.2, List.nil_append, hrest, List.map_cons]
  rw [splitWhitespace, String.toList_ofList, hread, List.map_map]
  simp

/-- What is split holds words, made of the characters of the text. -/
theorem of_mem_wordsFrom (hword : ∀ c ∈ word, isWhitespace c = false) {x : List Char}
    (hx : x ∈ wordsFrom word cs) :
    x ≠ [] ∧ (∀ c ∈ x, isWhitespace c = false) ∧ ∀ c ∈ x, c ∈ word ∨ c ∈ cs := by
  induction cs generalizing word with
  | nil =>
      unfold wordsFrom at hx
      split_ifs at hx with hne
      · cases hx
      · obtain rfl := List.mem_singleton.1 hx
        exact ⟨hne, hword, fun c hc => .inl hc⟩
  | cons c cs ih =>
      unfold wordsFrom at hx
      split_ifs at hx with hspace hempty
      · obtain ⟨hne, hall, hmem⟩ := ih (fun c hc => absurd hc List.not_mem_nil) hx
        refine ⟨hne, hall, fun b hb => .inr ?_⟩
        exact List.mem_cons_of_mem c ((hmem b hb).resolve_left List.not_mem_nil)
      · rcases List.mem_cons.1 hx with rfl | hx
        · exact ⟨hempty, hword, fun b hb => .inl hb⟩
        · obtain ⟨hne, hall, hmem⟩ := ih (fun c hc => absurd hc List.not_mem_nil) hx
          refine ⟨hne, hall, fun b hb => .inr ?_⟩
          exact List.mem_cons_of_mem c ((hmem b hb).resolve_left List.not_mem_nil)
      · have hlonger : ∀ b ∈ word ++ [c], isWhitespace b = false := by
          intro b hb
          rcases List.mem_append.1 hb with hb | hb
          · exact hword b hb
          · rw [List.mem_singleton.1 hb]
            simpa using hspace
        obtain ⟨hne, hall, hmem⟩ := ih hlonger hx
        refine ⟨hne, hall, fun b hb => ?_⟩
        rcases hmem b hb with hb | hb
        · rcases List.mem_append.1 hb with hb | hb
          · exact .inl hb
          · exact .inr (List.mem_cons.2 (.inl (List.mem_singleton.1 hb)))
        · exact .inr (List.mem_cons_of_mem c hb)

/-- The pieces of a text are words. -/
theorem word_of_mem_splitWhitespace {s : String} (h : w ∈ splitWhitespace s) : Word w := by
  obtain ⟨x, hx, rfl⟩ := List.mem_map.1 h
  obtain ⟨hne, hall, -⟩ := of_mem_wordsFrom (fun c hc => absurd hc List.not_mem_nil) hx
  rw [Word, String.toList_ofList]
  exact ⟨hne, hall⟩

/-- The characters of a piece are those of the text. -/
theorem mem_toList_of_mem_splitWhitespace {s : String} (h : w ∈ splitWhitespace s) {c : Char}
    (hc : c ∈ w.toList) : c ∈ s.toList := by
  obtain ⟨x, hx, rfl⟩ := List.mem_map.1 h
  obtain ⟨-, -, hmem⟩ := of_mem_wordsFrom (fun c hc => absurd hc List.not_mem_nil) hx
  rw [String.toList_ofList] at hc
  exact (hmem c hc).resolve_left List.not_mem_nil

/-- A text without a word is blank. -/
theorem wordsFrom_eq_nil_iff :
    wordsFrom word cs = [] ↔ word = [] ∧ ∀ c ∈ cs, isWhitespace c = true := by
  induction cs generalizing word with
  | nil => simp [wordsFrom]
  | cons c cs ih =>
      rw [wordsFrom]
      by_cases hspace : isWhitespace c = true
      · rw [if_pos hspace]
        by_cases hword : word = []
        · simp [hword, ih, hspace]
        · simp [hword]
      · have hletter : word ++ [c] ≠ [] := by simp
        rw [if_neg hspace, ih]
        simp [hspace]

/-- A text without a word is made of white space. -/
theorem splitWhitespace_eq_nil_iff {s : String} :
    splitWhitespace s = [] ↔ ∀ c ∈ s.toList, isWhitespace c = true := by
  rw [splitWhitespace, List.map_eq_nil_iff, wordsFrom_eq_nil_iff]
  exact and_iff_right rfl

/-- What is left of a trimmed text starts with a character that is not white space. -/
theorem exists_not_blank_trim {s : String} (h : trim s ≠ "") :
    ∃ c ∈ (trim s).toList, isWhitespace c = false := by
  have hlist : (trim s).toList = ((trimStart s).toList.reverse.dropWhile isWhitespace).reverse := by
    rw [trim, trimEnd, String.toList_ofList]
  have hne : (trimStart s).toList.reverse.dropWhile isWhitespace ≠ [] := by
    intro hnil
    rw [hnil] at hlist
    exact h (String.toList_inj.1 hlist)
  refine ⟨_, ?_, List.head_dropWhile_not isWhitespace hne⟩
  rw [hlist, List.mem_reverse]
  exact List.head_mem hne

/-! ## Searching -/

/-- The words between spaces. -/
def framed (ws : List String) : List Char := spaced ws ++ [' ']

/-- No word, framed by spaces. -/
@[simp]
theorem framed_nil : framed [] = [' '] := rfl

/-- One more word in front, framed by spaces. -/
@[simp]
theorem framed_cons : framed (w :: ws) = ' ' :: w.toList ++ framed ws := by simp [framed]

/-- A framed text has more characters than words. -/
theorem length_le_framed : ws.length ≤ (framed ws).length := by
  induction ws with
  | nil => exact Nat.zero_le _
  | cons w ws ih =>
      rw [framed_cons]
      simp only [List.length_cons, List.cons_append, List.length_append]
      omega

/-- Whatever the words, a space comes first. -/
theorem framed_eq_cons : framed ws = ' ' :: (framed ws).tail := by
  cases ws with
  | nil => rfl
  | cons w ws =>
      rw [framed_cons]
      rfl

/-- A text, with a space at both ends. -/
theorem framed_eq (hne : ws ≠ []) : framed ws = ' ' :: (join " " ws).toList ++ [' '] := by
  rw [space_cons_toList_join hne, framed]

/-- Two lists of words, framed by spaces. -/
theorem framed_append {ws' : List String} : framed (ws ++ ws') = spaced ws ++ framed ws' := by
  rw [framed, framed, spaced_append, List.append_assoc]

/-- The space between two sequences belongs to both. -/
theorem framed_append_tail {ws' : List String} :
    framed (ws ++ ws') = framed ws ++ (framed ws').tail := by
  have hspace : framed ws' = ' ' :: (framed ws').tail := framed_eq_cons
  have hleft : framed ws = spaced ws ++ [' '] := rfl
  rw [framed_append, hleft, List.append_assoc, List.singleton_append, ← hspace]

/-- Words between spaces start others exactly as sequences. -/
theorem framed_prefix_iff {ps : List String} (hps : ∀ p ∈ ps, Word p) (hws : ∀ w ∈ ws, Word w) :
    framed ps <+: framed ws ↔ ps <+: ws := by
  induction ps generalizing ws with
  | nil =>
      refine ⟨fun _ => List.nil_prefix, fun _ => ?_⟩
      rw [framed_nil, framed_eq_cons]
      exact ⟨(framed ws).tail, rfl⟩
  | cons p ps ih =>
      have hp := hps p List.mem_cons_self
      cases ws with
      | nil =>
          refine ⟨fun h => ?_, fun h => absurd (List.prefix_nil.1 h) (List.cons_ne_nil p ps)⟩
          have hle := h.length_le
          have hpos := List.length_pos_iff.2 hp.1
          simp only [framed_cons, framed_nil, List.cons_append, List.length_cons,
            List.length_append, List.length_nil] at hle
          omega
      | cons w ws =>
          have hw := hws w List.mem_cons_self
          have htail := ih (fun v hv => hps v (List.mem_cons_of_mem p hv))
            fun v hv => hws v (List.mem_cons_of_mem w hv)
          rw [List.cons_prefix_cons, ← htail, framed_cons, framed_cons, List.cons_append,
            List.cons_append, List.cons_prefix_cons]
          constructor
          · rintro ⟨-, rest, hrest⟩
            -- the first space after the head is the end of both words
            rw [@framed_eq_cons ps, @framed_eq_cons ws, List.append_assoc, List.cons_append,
              Separators.append_cons_inj hp.space_notMem hw.space_notMem] at hrest
            obtain ⟨hsame, hrest⟩ := hrest
            refine ⟨String.toList_inj.1 hsame, rest, ?_⟩
            rw [@framed_eq_cons ps, @framed_eq_cons ws, List.cons_append, hrest]
          · rintro ⟨rfl, htete⟩
            exact ⟨rfl, (List.prefix_append_right_inj _).2 htete⟩

/-- A text contains another when its characters occur in a row. -/
theorem contains_iff {s sub : String} : contains s sub = true ↔ sub.toList <:+: s.toList := by
  unfold contains
  rw [List.any_eq_true, List.infix_iff_prefix_suffix]
  simp only [List.mem_tails, List.isPrefixOf_iff_prefix]
  exact ⟨fun ⟨t, ht, h⟩ => ⟨t, h, ht⟩, fun ⟨t, h, ht⟩ => ⟨t, ht, h⟩⟩

/-- A sequence of words is found in the sequences that hold it. -/
theorem contains_join {ps : List String} (h : ps <:+: ws) :
    contains (join " " ws) (join " " ps) = true := by
  refine contains_iff.2 ?_
  obtain ⟨before, after, rfl⟩ := h
  cases ps with
  | nil =>
      rw [toList_join_nil]
      exact List.nil_infix
  | cons p ps =>
      cases before with
      | nil =>
          refine ⟨[], spaced after, ?_⟩
          rw [List.nil_append, List.nil_append, List.cons_append, toList_join_cons,
            toList_join_cons, spaced_append, List.append_assoc]
      | cons w before =>
          refine ⟨w.toList ++ spaced before ++ [' '], spaced after, ?_⟩
          rw [List.cons_append, List.cons_append, toList_join_cons, toList_join_cons,
            spaced_append, spaced_append, spaced_cons]
          simp

/-! ## Lower-casing -/

/-- A space is not cased. -/
private theorem isCased_space : isCased ' ' = false := by decide

/-- A space is not ignored by the case mappings. -/
private theorem isCaseIgnorable_space : isCaseIgnorable ' ' = false := by decide

/-- The context of a character stops at a space. -/
theorem casedAhead_space {x : List Char} : casedAhead (cs ++ ' ' :: x) = casedAhead cs := by
  unfold casedAhead
  induction cs with
  | nil =>
      rw [List.nil_append, List.dropWhile_cons_of_neg (by simp [isCaseIgnorable_space])]
      exact isCased_space
  | cons c cs ih =>
      cases hc : isCaseIgnorable c with
      | true => rw [List.cons_append, List.dropWhile_cons_of_pos hc, List.dropWhile_cons_of_pos hc, ih]
      | false =>
          rw [List.cons_append, List.dropWhile_cons_of_neg (by simp [hc]),
            List.dropWhile_cons_of_neg (by simp [hc])]

/-- The lower case of a word does not look beyond the space before it. -/
theorem lowerFrom_space_left {before x : List Char} :
    lowerFrom (before ++ ' ' :: x) cs = lowerFrom before cs := by
  induction cs generalizing before with
  | nil => rfl
  | cons c cs ih =>
      have hrest := @ih (c :: before)
      rw [List.cons_append] at hrest
      simp only [lowerFrom, casedAhead_space, hrest]

/-- The lower case of a text is that of its parts around a space. -/
theorem lowerFrom_space_right {before x : List Char} :
    lowerFrom before (cs ++ ' ' :: x) = lowerFrom before cs ++ ' ' :: lowerFrom [] x := by
  induction cs generalizing before with
  | nil =>
      have hspace : lowerChar ' ' = [' '] := by decide
      have hleft := @lowerFrom_space_left x [] before
      have hstep : lowerFrom before (' ' :: x) = lowerChar ' ' ++ lowerFrom (' ' :: before) x := by
        rw [lowerFrom, if_neg (by decide)]
      rw [List.nil_append] at hleft
      rw [List.nil_append, hstep, hspace, hleft]
      rfl
  | cons c cs ih =>
      rw [List.cons_append]
      simp only [lowerFrom, casedAhead_space, ih, List.append_assoc]

/-- The words of a text are lower-cased one by one. -/
theorem toLowercase_join : toLowercase (join " " ws) = join " " (ws.map toLowercase) := by
  have hspaced : ∀ (ws : List String) (cs : List Char), lowerFrom [] (cs ++ spaced ws) =
      lowerFrom [] cs ++ spaced (ws.map toLowercase) := by
    intro ws
    induction ws with
    | nil => simp
    | cons w ws ih =>
        intro cs
        rw [spaced_cons, List.cons_append, lowerFrom_space_right, ih, List.map_cons, spaced_cons,
          toLowercase, String.toList_ofList]
        rfl
  apply String.toList_inj.1
  rw [toLowercase, String.toList_ofList]
  cases ws with
  | nil => rw [toList_join_nil, List.map_nil, toList_join_nil]; rfl
  | cons w ws =>
      rw [toList_join_cons, hspaced, List.map_cons, toList_join_cons, toLowercase,
        String.toList_ofList]

end Text
