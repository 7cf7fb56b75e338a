import Mathlib.Data.List.Basic
import Mathlib.Data.Nat.Bitwise
import Budgy.Interface.Text

/-!
# What the case mappings give

The upper-case image of a character is made of characters that are their own upper-case
image.  Over the tables this says that no image of a row is the source of another; the two
sets of code points are compared as two masks, whose bits are their members.  The lower-case
image of a character holds a space only when the character is one.
-/

set_option autoImplicit false

namespace Unicode

/-! ## Sets of code points as masks -/

/-- The mask whose bits are the members of a list. -/
def mask (l : List ℕ) : ℕ := l.foldr (fun n acc => 1 <<< n ||| acc) 0

/-- The bits of a mask are the members of the list. -/
theorem testBit_mask {l : List ℕ} {n : ℕ} : (mask l).testBit n = true ↔ n ∈ l := by
  induction l with
  | nil => simp [mask]
  | cons m l ih =>
      have hsplit : mask (m :: l) = 1 <<< m ||| mask l := rfl
      have hone : (1 <<< m).testBit n = decide (m = n) := by
        rw [Nat.one_shiftLeft, Nat.testBit_two_pow]
      rw [hsplit, Nat.testBit_or, hone, Bool.or_eq_true, ih, List.mem_cons, decide_eq_true_iff,
        eq_comm]

/-- Two lists whose masks share no bit share no member. -/
theorem disjoint_of_mask {l l' : List ℕ} (h : mask l &&& mask l' = 0) {n : ℕ} (hn : n ∈ l) :
    n ∉ l' := by
  intro hn'
  have hbit := congrArg (fun m => Nat.testBit m n) h
  simp only [Nat.testBit_and, testBit_mask.2 hn, testBit_mask.2 hn', Nat.zero_testBit] at hbit
  cases hbit

/-! ## The rows of the tables -/

/-- The code points of the rows, each with the distance to its image. -/
def points (ranges : List (ℕ × ℕ × ℕ × ℤ)) : List (ℕ × ℤ) :=
  ranges.flatMap fun (lo, hi, step, d) =>
    (List.range ((hi - lo) / step + 1)).map fun k => (lo + k * step, d)

/-- A code point of a row is listed with the distance of the row. -/
theorem mem_points {ranges : List (ℕ × ℕ × ℕ × ℤ)} {lo hi step n : ℕ} {d : ℤ}
    (h : (lo, hi, step, d) ∈ ranges) (hlo : lo ≤ n) (hhi : n ≤ hi) (hstep : (n - lo) % step = 0) :
    (n, d) ∈ points ranges := by
  refine List.mem_flatMap.2 ⟨_, h, List.mem_map.2 ⟨(n - lo) / step, ?_, ?_⟩⟩
  · have hle : (n - lo) / step ≤ (hi - lo) / step := Nat.div_le_div_right (by omega)
    exact List.mem_range.2 (by omega)
  · have hmul : (n - lo) / step * step = n - lo := Nat.div_mul_cancel (Nat.dvd_of_mod_eq_zero hstep)
    rw [hmul]
    exact Prod.ext (by simp; omega) rfl

/-- The image of a code point is that of a row, unless no row holds the code point. -/
theorem mapRange_cases (ranges : List (ℕ × ℕ × ℕ × ℤ)) (n : ℕ) :
    (∃ d, (n, d) ∈ points ranges ∧ mapRange ranges n = ((n : ℤ) + d).toNat) ∨
      mapRange ranges n = n := by
  unfold mapRange
  split
  · rename_i lo hi step d hrow
    have hmem := List.mem_of_find?_eq_some hrow
    have hholds := List.find?_some hrow
    simp only [Bool.and_eq_true, decide_eq_true_iff] at hholds
    obtain ⟨⟨hlo, hhi⟩, hstep⟩ := hholds
    exact .inl ⟨d, mem_points hmem hlo hhi hstep, rfl⟩
  · exact .inr rfl

/-- The code points that have an upper-case image of their own. -/
def upperSources : List ℕ :=
  (List.range 26).map (97 + ·) ++ upperSpecial.map Prod.fst ++ (points upperRanges).map Prod.fst

/-- The code points of the images of two tables. -/
def images (special : List (ℕ × List ℕ)) (ranges : List (ℕ × ℕ × ℕ × ℤ)) : List ℕ :=
  special.flatMap Prod.snd ++ (points ranges).map fun p => ((p.1 : ℤ) + p.2).toNat

/-- An image is a code point of the images, or the code point itself. -/
theorem mem_mapCase {special : List (ℕ × List ℕ)} {ranges : List (ℕ × ℕ × ℕ × ℤ)} {n m : ℕ}
    (h : m ∈ mapCase special ranges n) :
    m ∈ images special ranges ∨ mapCase special ranges n = [n] := by
  unfold mapCase at h ⊢
  cases hspecial : special.lookup n with
  | some image =>
      rw [hspecial] at h
      obtain ⟨l₁, l₂, hl, -⟩ := List.lookup_eq_some_iff.1 hspecial
      have hmem : (n, image) ∈ special := by simp [hl]
      exact .inl (List.mem_append_left _ (List.mem_flatMap.2 ⟨_, hmem, h⟩))
  | none =>
      rw [hspecial] at h
      obtain rfl := List.mem_singleton.1 h
      obtain ⟨d, hd, himage⟩ | hsame := mapRange_cases ranges n
      · exact .inl (List.mem_append_right _ (List.mem_map.2 ⟨_, hd, himage.symm⟩))
      · exact .inr (congrArg (fun m => [m]) hsame)

/-- No upper-case image has an upper-case image of its own. -/
theorem upperImages_notMem {n : ℕ} (h : n ∈ images upperSpecial upperRanges) :
    n ∉ upperSources := by
  have hmask : mask (images upperSpecial upperRanges) &&& mask upperSources = 0 := by
    decide +kernel
  exact disjoint_of_mask hmask h

/-- A code point out of the tables is its own image. -/
theorem mapCase_of_notMem {n : ℕ} (h : n ∉ upperSources) :
    mapCase upperSpecial upperRanges n = [n] := by
  have hspecial : upperSpecial.lookup n = none := by
    refine List.lookup_eq_none_iff.2 fun p hp => ?_
    rw [bne_iff_ne]
    rintro rfl
    exact h (List.mem_append_left _ (List.mem_append_right _ (List.mem_map_of_mem hp)))
  unfold mapCase
  rw [hspecial]
  obtain ⟨d, hd, -⟩ | hsame := mapRange_cases upperRanges n
  · exact absurd (List.mem_append_right _ (List.mem_map_of_mem hd)) h
  · exact congrArg (fun m => [m]) hsame

/-! ## Mapping out of some ranges -/

/-- No code point from `lo` to `hi` lies in one of the ranges. -/
def apart (ranges : List (ℕ × ℕ)) (lo hi : ℕ) : Bool :=
  ranges.all fun r => Nat.blt hi r.1 || Nat.blt r.2 lo

/-- A row that is apart from the ranges has no code point in them. -/
theorem inRanges_of_apart {ranges : List (ℕ × ℕ)} {lo hi n : ℕ} (h : apart ranges lo hi = true)
    (hlo : lo ≤ n) (hhi : n ≤ hi) : inRanges ranges n = false := by
  rw [inRanges, List.any_eq_false]
  intro r hr hin
  have hout := List.all_eq_true.1 h r hr
  simp only [Nat.blt_eq, Bool.or_eq_true, Bool.and_eq_true, decide_eq_true_iff] at hout hin
  omega

/-- Rows and images that are apart from some ranges leave their code points in place, and
bring no other there. -/
theorem inRanges_mapRange {ranges : List (ℕ × ℕ)} {rows : List (ℕ × ℕ × ℕ × ℤ)}
    (h : (rows.all fun (lo, hi, _, d) =>
      apart ranges lo hi && apart ranges (lo + d).toNat (hi + d).toNat) = true) (n : ℕ) :
    inRanges ranges (mapRange rows n) = inRanges ranges n := by
  unfold mapRange
  split
  · rename_i lo hi step d hrow
    have hholds := List.find?_some hrow
    simp only [Bool.and_eq_true, decide_eq_true_iff] at hholds
    obtain ⟨⟨hlo, hhi⟩, -⟩ := hholds
    have hapart := List.all_eq_true.1 h _ (List.mem_of_find?_eq_some hrow)
    rw [Bool.and_eq_true] at hapart
    rw [inRanges_of_apart hapart.1 hlo hhi,
      inRanges_of_apart hapart.2 (Int.toNat_le_toNat (by omega)) (Int.toNat_le_toNat (by omega))]
  · rfl

/-- A mapping whose rows are apart from a set of ranges keeps out of them, or in them. -/
theorem inRanges_mapCase {ranges : List (ℕ × ℕ)} {special : List (ℕ × List ℕ)}
    {rows : List (ℕ × ℕ × ℕ × ℤ)}
    (hspecial : (special.all fun (n, image) => (n :: image).all fun m => apart ranges m m) = true)
    (hrows : (rows.all fun (lo, hi, _, d) =>
      apart ranges lo hi && apart ranges (lo + d).toNat (hi + d).toNat) = true)
    {n m : ℕ} (hm : m ∈ mapCase special rows n) : inRanges ranges m = inRanges ranges n := by
  unfold mapCase at hm
  split at hm
  · rename_i image hlookup
    obtain ⟨l₁, l₂, hl, -⟩ := List.lookup_eq_some_iff.1 hlookup
    have hmem : (n, image) ∈ special := by simp [hl]
    have hapart := List.all_eq_true.1 (List.all_eq_true.1 hspecial _ hmem)
    rw [inRanges_of_apart (hapart n List.mem_cons_self) le_rfl le_rfl,
      inRanges_of_apart (hapart m (List.mem_cons_of_mem n hm)) le_rfl le_rfl]
  · rw [List.mem_singleton.1 hm, inRanges_mapRange hrows]

/-- An upper-case image is blank when its source is. -/
theorem blank_mapCase {n m : ℕ} (h : m ∈ mapCase upperSpecial upperRanges n) :
    inRanges whiteSpaceRanges m = inRanges whiteSpaceRanges n :=
  inRanges_mapCase (by decide +kernel) (by decide +kernel) h

end Unicode

namespace Text

open Unicode

/-- The code point of a number is the number, unless it is not that of a character. -/
theorem toNat_ofNat_cases (m : ℕ) : (Char.ofNat m).toNat = m ∨ Char.ofNat m = Char.ofNat 0 := by
  by_cases hvalid : m.isValidChar
  · rw [Char.ofNat, dif_pos hvalid]
    exact .inl rfl
  · rw [Char.ofNat, dif_neg hvalid]
    exact .inr rfl

/-- Before the small letters of ASCII, a character is its own image. -/
theorem upperChar_of_lt {d : Char} (h : d.toNat < 97) : upperChar d = [d] := by
  have hupper : d.toUpper = d := by
    unfold Char.toUpper
    rw [dif_neg]
    rintro ⟨hlow, -⟩
    have hcode : 97 ≤ d.toNat := UInt32.le_iff_toNat_le.1 hlow
    omega
  rw [upperChar, if_pos (by omega), hupper]

/-- Out of the tables, and of the small letters of ASCII, a character is its own image. -/
theorem upperChar_of_notMem {d : Char} (h : d.toNat ∉ upperSources) : upperChar d = [d] := by
  unfold upperChar
  split
  · have hsmall : ¬ (97 ≤ d.toNat ∧ d.toNat ≤ 122) := by
      rintro ⟨hlow, hhigh⟩
      refine h (List.mem_append_left _ (List.mem_append_left _ (List.mem_map.2
        ⟨d.toNat - 97, List.mem_range.2 (by omega), by omega⟩)))
    have hupper : d.toUpper = d := by
      unfold Char.toUpper
      rw [dif_neg]
      simpa [UInt32.le_iff_toNat_le] using hsmall
    rw [hupper]
  · rw [mapCase_of_notMem h, List.map_singleton, Char.ofNat_toNat]

/-- In ASCII, the upper case stays in ASCII and is its own upper case. -/
private theorem toUpper_ascii {c : Char} (h : c.toNat < 128) :
    c.toUpper.toNat < 128 ∧ c.toUpper.toUpper = c.toUpper := by
  have hall : ∀ n < 128, (Char.ofNat n).toUpper.toNat < 128 ∧
      (Char.ofNat n).toUpper.toUpper = (Char.ofNat n).toUpper := by decide
  have hc := hall c.toNat h
  rwa [Char.ofNat_toNat] at hc

/-- The characters of an upper-case image are their own. -/
theorem upperChar_of_mem {c d : Char} (h : d ∈ upperChar c) : upperChar d = [d] := by
  unfold upperChar at h
  split at h
  · rename_i hascii
    obtain rfl := List.mem_singleton.1 h
    obtain ⟨hlow, hupper⟩ := toUpper_ascii hascii
    rw [upperChar, if_pos hlow, hupper]
  · rename_i hwide
    obtain ⟨m, hm, rfl⟩ := List.mem_map.1 h
    obtain himage | hsame := mem_mapCase hm
    · obtain hcode | hzero := toNat_ofNat_cases m
      · exact upperChar_of_notMem (hcode.symm ▸ upperImages_notMem himage)
      · rw [hzero]
        decide
    · rw [hsame] at hm
      obtain rfl := List.mem_singleton.1 hm
      rw [Char.ofNat_toNat, upperChar, if_neg hwide, hsame, List.map_singleton, Char.ofNat_toNat]

/-- No character is lost by upper-casing. -/
theorem upperChar_ne_nil (c : Char) : upperChar c ≠ [] := by
  unfold upperChar
  split
  · exact List.cons_ne_nil _ _
  · unfold mapCase
    split
    · rename_i image hspecial
      obtain ⟨l₁, l₂, hl, -⟩ := List.lookup_eq_some_iff.1 hspecial
      have hall : ∀ r ∈ upperSpecial, r.2 ≠ [] := by decide
      have himage : image ≠ [] := hall (c.toNat, image) (by simp [hl])
      simpa using himage
    · exact List.cons_ne_nil _ _

/-- A number that is not that of a character is not that of a white space. -/
theorem isWhitespace_ofNat (m : ℕ) :
    isWhitespace (Char.ofNat m) = inRanges whiteSpaceRanges m := by
  by_cases hvalid : m.isValidChar
  · rw [Char.ofNat, dif_pos hvalid]
    rfl
  · have hlarge : 12288 < m := by
      by_contra hsmall
      exact hvalid (.inl (by omega))
    have hout : inRanges whiteSpaceRanges m = false := by
      simp [inRanges, whiteSpaceRanges]
      omega
    rw [Char.ofNat, dif_neg hvalid, hout]
    decide

/-- Upper-casing neither brings white space nor takes it away. -/
theorem isWhitespace_of_mem_upperChar {c d : Char} (h : d ∈ upperChar c) :
    isWhitespace d = isWhitespace c := by
  by_cases hascii : c.toNat < 128
  · have hall : ∀ n < 128,
        isWhitespace (Char.ofNat n).toUpper = isWhitespace (Char.ofNat n) := by decide
    have hcode := hall c.toNat hascii
    rw [Char.ofNat_toNat] at hcode
    rw [upperChar, if_pos hascii, List.mem_singleton] at h
    rw [h, hcode]
  · rw [upperChar, if_neg hascii] at h
    obtain ⟨m, hm, rfl⟩ := List.mem_map.1 h
    rw [isWhitespace_ofNat, blank_mapCase hm, isWhitespace]

/-- Upper-casing twice is upper-casing once. -/
theorem toUppercase_of_upper {s : String} (h : ∀ c ∈ s.toList, upperChar c = [c]) :
    toUppercase s = s := by
  have hflat : ∀ cs : List Char, (∀ c ∈ cs, upperChar c = [c]) → cs.flatMap upperChar = cs := by
    intro cs hcs
    induction cs with
    | nil => rfl
    | cons c cs ih =>
        have hrest := ih fun b hb => hcs b (List.mem_cons_of_mem c hb)
        rw [List.flatMap_cons, hcs c List.mem_cons_self, hrest, List.singleton_append]
  rw [toUppercase, hflat s.toList h, String.ofList_toList]

/-- Lower-casing brings no space. -/
theorem space_notMem_lowerChar {c : Char} (hc : c ≠ ' ') : ' ' ∉ lowerChar c := by
  unfold lowerChar
  split
  · rename_i hascii
    have hall : ∀ n < 128, Char.ofNat n ≠ ' ' → ' ' ∉ [(Char.ofNat n).toLower] := by decide
    have hn := hall c.toNat hascii
    rw [Char.ofNat_toNat] at hn
    exact hn hc
  · rename_i hwide
    intro hmem
    obtain ⟨m, hm, hspace⟩ := List.mem_map.1 hmem
    have hsmall : m = 32 := by
      obtain hcode | hzero := toNat_ofNat_cases m
      · rw [← hcode, hspace]
        rfl
      · rw [hzero] at hspace
        cases hspace
    obtain himage | hsame := mem_mapCase hm
    · have hnot : 32 ∉ images lowerSpecial lowerRanges := by decide +kernel
      exact hnot (hsmall ▸ himage)
    · rw [hsame] at hm
      have hsource := List.mem_singleton.1 hm
      omega

/-- The lower case of a text without a space has none. -/
theorem space_notMem_lowerFrom {before cs : List Char} (h : ' ' ∉ cs) :
    ' ' ∉ lowerFrom before cs := by
  induction cs generalizing before with
  | nil => exact List.not_mem_nil
  | cons c cs ih =>
      have hc : c ≠ ' ' := fun hspace => h (hspace ▸ List.mem_cons_self)
      have hrest := @ih (c :: before) fun hmem => h (List.mem_cons_of_mem c hmem)
      rw [lowerFrom, List.mem_append, not_or]
      refine ⟨?_, hrest⟩
      split_ifs
      · decide
      · decide
      · exact space_notMem_lowerChar hc

/-- No character is lost by lower-casing. -/
theorem lowerChar_ne_nil (c : Char) : lowerChar c ≠ [] := by
  unfold lowerChar
  split
  · exact List.cons_ne_nil _ _
  · unfold mapCase
    split
    · rename_i image hspecial
      obtain ⟨l₁, l₂, hl, -⟩ := List.lookup_eq_some_iff.1 hspecial
      have hall : ∀ r ∈ lowerSpecial, r.2 ≠ [] := by decide
      have himage : image ≠ [] := hall (c.toNat, image) (by simp [hl])
      simpa using himage
    · exact List.cons_ne_nil _ _

/-- The lower case of a text is not empty. -/
theorem lowerFrom_ne_nil {before cs : List Char} (h : cs ≠ []) : lowerFrom before cs ≠ [] := by
  cases cs with
  | nil => exact absurd rfl h
  | cons c cs =>
      intro hempty
      rw [lowerFrom, List.append_eq_nil_iff] at hempty
      have hfirst := hempty.1
      split_ifs at hfirst
      exact lowerChar_ne_nil c hfirst

end Text
