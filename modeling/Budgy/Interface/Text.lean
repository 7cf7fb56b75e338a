import Mathlib.Algebra.Group.Nat.Defs
import Mathlib.Data.Nat.Notation
import Mathlib.Data.Int.Notation
import Mathlib.Data.List.Basic
import Mathlib.Tactic.Common
import Budgy.Interface.Unicode

/-!
# Texts as sequences of characters

The string operations of the standard library that the program relies on, over
the list of the characters of a string: white space, case, splitting, prefixes
and decimal integers.  ASCII characters take the short way; the others go through
the tables of `Budgy.Interface.Unicode`.
-/

set_option autoImplicit false

namespace Text

/-- Unicode white space. -/
def isWhitespace (c : Char) : Bool := Unicode.inRanges Unicode.whiteSpaceRanges c.toNat

/-- The upper-case image of a character, possibly several characters. -/
def upperChar (c : Char) : List Char :=
  if c.toNat < 128 then [c.toUpper]
  else (Unicode.mapCase Unicode.upperSpecial Unicode.upperRanges c.toNat).map Char.ofNat

/-- The lower-case image of a character out of context. -/
def lowerChar (c : Char) : List Char :=
  if c.toNat < 128 then [c.toLower]
  else (Unicode.mapCase Unicode.lowerSpecial Unicode.lowerRanges c.toNat).map Char.ofNat

/-- A cased letter that is not case-ignorable. -/
def isCased (c : Char) : Bool :=
  if c.toNat < 128 then c.isAlpha else Unicode.inRanges Unicode.casedRanges c.toNat

/-- A character that the final sigma rule looks through. -/
def isCaseIgnorable (c : Char) : Bool :=
  if c.toNat < 128 then ['\'', '.', ':', '^', Char.ofNat 96].contains c
  else Unicode.inRanges Unicode.caseIgnorableRanges c.toNat

/-- Does a cased letter come next, past the case-ignorable characters? -/
def casedAhead (cs : List Char) : Bool :=
  match cs.dropWhile isCaseIgnorable with
  | [] => false
  | c :: _ => isCased c

/-- Lower-casing in context: a capital sigma that ends a word becomes a final
sigma.  `before` holds the characters already read, the last one first. -/
def lowerFrom (before : List Char) : List Char → List Char
  | [] => []
  | c :: cs =>
      let image :=
        if c = 'Σ' then (if casedAhead before && !casedAhead cs then ['ς'] else ['σ'])
        else lowerChar c
      image ++ lowerFrom (c :: before) cs

/-- `str::to_uppercase`. -/
def toUppercase (s : String) : String := String.ofList (s.toList.flatMap upperChar)

/-- `str::to_lowercase`. -/
def toLowercase (s : String) : String := String.ofList (lowerFrom [] s.toList)

/-- `str::trim_start`. -/
def trimStart (s : String) : String := String.ofList (s.toList.dropWhile isWhitespace)

/-- `str::trim_end`. -/
def trimEnd (s : String) : String :=
  String.ofList (s.toList.reverse.dropWhile isWhitespace).reverse

/-- `str::trim`. -/
def trim (s : String) : String := trimEnd (trimStart s)

/-- The maximal runs of characters that are not white space; `word` is the run
being read. -/
def wordsFrom (word : List Char) : List Char → List (List Char)
  | [] => if word = [] then [] else [word]
  | c :: cs =>
      if isWhitespace c then
        if word = [] then wordsFrom [] cs else word :: wordsFrom [] cs
      else wordsFrom (word ++ [c]) cs

/-- `str::split_whitespace`. -/
def splitWhitespace (s : String) : List String := (wordsFrom [] s.toList).map String.ofList

/-- `slice::join` with a separator. -/
def join (sep : String) (parts : List String) : String := sep.intercalate parts

/-- `str::strip_prefix`. -/
def stripPrefix? (head s : String) : Option String :=
  if head.toList.isPrefixOf s.toList then
    some (String.ofList (s.toList.drop head.toList.length))
  else none

/-- `str::contains`. -/
def contains (s sub : String) : Bool :=
  s.toList.tails.any fun t => sub.toList.isPrefixOf t

/-- `str::split_once` at a character. -/
def splitOnce (c : Char) (s : String) : Option (String × String) :=
  let head := s.toList.takeWhile (· ≠ c)
  match s.toList.dropWhile (· ≠ c) with
  | [] => none
  | _ :: tail => some (String.ofList head, String.ofList tail)

/-- The value of a sequence of ASCII digits. -/
def digitsValue? (cs : List Char) : Option ℕ :=
  if cs ≠ [] ∧ cs.all Char.isDigit then
    some (cs.foldl (fun n c => 10 * n + (c.toNat - 48)) 0)
  else none

/-- `str::parse` for a signed integer type whose values lie between two bounds. -/
def parseInt? (low high : ℤ) (s : String) : Option ℤ :=
  let value := match s.toList with
    | '-' :: cs => (digitsValue? cs).map fun n => -(n : ℤ)
    | '+' :: cs => (digitsValue? cs).map fun n => (n : ℤ)
    | cs => (digitsValue? cs).map fun n => (n : ℤ)
  value.filter fun n => low ≤ n && n ≤ high

/-- `str::parse::<u32>`: a leading `+` is accepted. -/
def parseU32? (s : String) : Option ℕ :=
  let value := match s.toList with
    | '+' :: cs => digitsValue? cs
    | cs => digitsValue? cs
  value.filter (· < 2 ^ 32)

/-- The decimal digits of a number, most significant first. -/
def decimal (n : ℤ) : String :=
  if n < 0 then "-" ++ (toString n.natAbs) else toString n.natAbs

/-- The bytes of the UTF-8 encoding of a string. -/
def utf8 (s : String) : List UInt8 := s.toByteArray.data.toList

/-- The string encoded by a sequence of bytes, when it is valid UTF-8. -/
def ofUtf8? (bytes : List UInt8) : Option String := String.fromUTF8? ⟨bytes.toArray⟩

/-- Two texts of the same bytes are the same. -/
theorem utf8_injective : Function.Injective utf8 := by
  intro s s' h
  apply String.toByteArray_inj.1
  have hdata : s.toByteArray.data = s'.toByteArray.data := Array.toList_inj.1 h
  exact ByteArray.ext hdata

/-- A text is read back from its bytes. -/
@[simp]
theorem ofUtf8?_utf8 (s : String) : ofUtf8? (utf8 s) = some s := by
  have hbytes : (⟨(utf8 s).toArray⟩ : ByteArray) = s.toUTF8 := by
    apply ByteArray.ext
    simp [utf8]
  rw [ofUtf8?, hbytes, String.fromUTF8?, String.toUTF8_eq_toByteArray, dif_pos s.isValidUTF8]
  rfl

/-- The bytes of two texts joined. -/
theorem utf8_append (s t : String) : utf8 (s ++ t) = utf8 s ++ utf8 t := by
  unfold utf8
  rw [String.toByteArray_append]
  simp

/-- An ASCII character is one byte. -/
theorem utf8_of_ascii {s : String} (h : ∀ c ∈ s.toList, c.toNat < 128) :
    utf8 s = s.toList.map Char.toUInt8 := by
  have hchar : ∀ c : Char, c.toNat < 128 → String.utf8EncodeChar c = [c.toUInt8] := by
    intro c hc
    have hsize : c.utf8Size = 1 := Char.utf8Size_eq_one_iff.2
      (UInt32.le_iff_toNat_le.2 (by simpa using Nat.le_of_lt_succ hc))
    rw [String.utf8EncodeChar_eq_singleton hsize]
    rfl
  have hencode : ∀ cs : List Char, (∀ c ∈ cs, c.toNat < 128) →
      cs.flatMap String.utf8EncodeChar = cs.map Char.toUInt8 := by
    intro cs hcs
    induction cs with
    | nil => rfl
    | cons c cs ih =>
        have hrest := ih fun b hb => hcs b (List.mem_cons_of_mem c hb)
        rw [List.flatMap_cons, hchar c (hcs c List.mem_cons_self), hrest]
        rfl
  have hbytes : utf8 s = s.toList.flatMap String.utf8EncodeChar := by
    unfold utf8
    rw [← String.ofList_toList (s := s), String.toByteArray_ofList, String.toList_ofList]
    unfold List.utf8Encode
    simp
  rw [hbytes, hencode s.toList h]

/-- An ASCII text has one byte a character. -/
theorem utf8ByteSize_of_ascii {s : String} (h : ∀ c ∈ s.toList, c.toNat < 128) :
    s.utf8ByteSize = s.toList.length := by
  have hlength := congrArg List.length (utf8_of_ascii h)
  rw [List.length_map] at hlength
  rw [← hlength]
  rfl

/-- A text without white space is not trimmed. -/
theorem trim_eq_self {s : String} (h : ∀ c ∈ s.toList, isWhitespace c = false) : trim s = s := by
  have hdrop : ∀ cs : List Char, (∀ c ∈ cs, isWhitespace c = false) →
      cs.dropWhile isWhitespace = cs := by
    intro cs hcs
    cases cs with
    | nil => rfl
    | cons c cs => simp [hcs c List.mem_cons_self]
  have hstart : trimStart s = s := by
    rw [trimStart, hdrop _ h, String.ofList_toList]
  rw [trim, hstart, trimEnd, hdrop _ fun c hc => h c (List.mem_reverse.1 hc), List.reverse_reverse,
    String.ofList_toList]

/-! ## Sizes -/

/-- A text has no more characters than bytes. -/
private theorem length_le_size (cs : List Char) : cs.length ≤ cs.utf8Encode.size := by
  induction cs with
  | nil => simp
  | cons c cs ih =>
      have hc := c.utf8Size_pos
      rw [List.utf8Encode_cons, ByteArray.size_append, List.utf8Encode_singleton]
      simp
      omega

/-- The same, on its size. -/
theorem length_le_utf8ByteSize (s : String) : s.toList.length ≤ s.utf8ByteSize := by
  have h := length_le_size s.toList
  simpa using h

/-- The code points of the digits. -/
theorem digit_bounds {c : Char} (h : c.isDigit = true) : 48 ≤ c.toNat ∧ c.toNat ≤ 57 := by
  simp [Char.isDigit, UInt32.le_iff_toNat_le] at h
  exact h

/-- The value of a digit is below ten. -/
private theorem digit_lt {c : Char} (h : c.isDigit = true) : c.toNat - 48 < 10 := by
  have hbounds := digit_bounds h
  omega

/-- A digit is not blank. -/
theorem isWhitespace_of_isDigit {c : Char} (h : c.isDigit = true) : isWhitespace c = false := by
  have hbounds := digit_bounds h
  simp [isWhitespace, Unicode.inRanges, Unicode.whiteSpaceRanges]
  omega

/-- The value of digits is below the power of their number. -/
theorem digitsValue?_lt {cs : List Char} {n : ℕ} (h : digitsValue? cs = some n) :
    n < 10 ^ cs.length := by
  -- `a` is the value of the digits already read
  have hfold : ∀ (cs : List Char) (a : ℕ), cs.all Char.isDigit = true →
      cs.foldl (fun n c => 10 * n + (c.toNat - 48)) a < (a + 1) * 10 ^ cs.length := by
    intro cs
    induction cs with
    | nil => simp
    | cons c cs ih =>
        intro a hall
        obtain ⟨hc, hcs⟩ := by simpa using hall
        have hdigit := digit_lt hc
        calc (c :: cs).foldl (fun n c => 10 * n + (c.toNat - 48)) a
            < (10 * a + (c.toNat - 48) + 1) * 10 ^ cs.length := ih _ (by simpa using hcs)
          _ ≤ (10 * (a + 1)) * 10 ^ cs.length := Nat.mul_le_mul_right _ (by omega)
          _ = (a + 1) * 10 ^ (c :: cs).length := by rw [List.length_cons, Nat.pow_succ]; ac_rfl
  unfold digitsValue? at h
  split at h
  · rename_i hcs
    obtain rfl := Option.some.inj h
    simpa using hfold cs 0 hcs.2
  · cases h

/-- A number lies between its bounds. -/
theorem parseInt?_bounds {low high n : ℤ} {s : String} (h : parseInt? low high s = some n) :
    low ≤ n ∧ n ≤ high := by
  obtain ⟨-, hbounds⟩ := Option.filter_eq_some_iff.1 h
  simpa using hbounds

/-- A number is smaller than its number of characters allows. -/
theorem parseInt?_natAbs_lt {low high n : ℤ} {s : String} (h : parseInt? low high s = some n) :
    n.natAbs < 10 ^ s.toList.length := by
  obtain ⟨hvalue, -⟩ := Option.filter_eq_some_iff.1 h
  split at hvalue
  · rename_i cs hs
    obtain ⟨k, hk, rfl⟩ := by simpa [Option.bind_eq_some_iff] using hvalue
    have hlt := digitsValue?_lt hk
    rw [hs, List.length_cons, Nat.pow_succ]
    omega
  · rename_i cs hs
    obtain ⟨k, hk, rfl⟩ := by simpa [Option.bind_eq_some_iff] using hvalue
    have hlt := digitsValue?_lt hk
    rw [hs, List.length_cons, Nat.pow_succ]
    omega
  · obtain ⟨k, hk, rfl⟩ := by simpa [Option.bind_eq_some_iff] using hvalue
    exact digitsValue?_lt hk

/-- It is negative only after a minus sign. -/
theorem parseInt?_nonneg {low high n : ℤ} {s : String} (h : parseInt? low high s = some n)
    (hs : s.toList.head? ≠ some '-') : 0 ≤ n := by
  obtain ⟨hvalue, -⟩ := Option.filter_eq_some_iff.1 h
  split at hvalue
  · rename_i heq
    simp [heq] at hs
  all_goals
    obtain ⟨k, -, rfl⟩ := by simpa [Option.bind_eq_some_iff] using hvalue
    exact Int.natCast_nonneg k

/-! ## Decimal numbers -/

/-- Digits have a value when there is one at least. -/
theorem digitsValue?_eq_some {cs : List Char} {n : ℕ} :
    digitsValue? cs = some n ↔
      cs ≠ [] ∧ cs.all Char.isDigit = true ∧ Nat.ofDigitChars 10 cs 0 = n := by
  unfold digitsValue?
  rw [Nat.ofDigitChars_eq_foldl]
  split
  · rename_i h
    simp only [Option.some.injEq, h.1, h.2, ne_eq, not_false_eq_true, true_and]
    rfl
  · rename_i h
    simp only [reduceCtorEq, false_iff]
    rintro ⟨hne, hall, -⟩
    exact h ⟨hne, hall⟩

/-- The decimal digits of a number have its value. -/
@[simp]
theorem digitsValue?_toDigits (n : ℕ) : digitsValue? (Nat.toDigits 10 n) = some n := by
  refine digitsValue?_eq_some.2 ⟨Nat.toDigits_ne_nil, ?_, Nat.ofDigitChars_ten_toDigits⟩
  refine List.all_eq_true.2 fun c hc => ?_
  exact Nat.isDigit_of_mem_toDigits (by omega) (Nat.le_refl 10) hc

/-- Two sequences of digits of one length and of one value are equal. -/
theorem eq_of_ofDigitChars_eq {cs cs' : List Char} {a a' : ℕ} (hlength : cs.length = cs'.length)
    (h : ∀ c ∈ cs, c.isDigit = true) (h' : ∀ c ∈ cs', c.isDigit = true)
    (hvalue : Nat.ofDigitChars 10 cs a = Nat.ofDigitChars 10 cs' a') : a = a' ∧ cs = cs' := by
  induction cs generalizing cs' a a' with
  | nil =>
      obtain rfl := List.length_eq_zero_iff.1 hlength.symm
      exact ⟨hvalue, rfl⟩
  | cons c cs ih =>
      obtain ⟨c', suite, rfl⟩ := List.exists_cons_of_length_eq_add_one hlength.symm
      rw [Nat.ofDigitChars_cons, Nat.ofDigitChars_cons] at hvalue
      have hsuite : cs.length = suite.length := by simpa using hlength
      obtain ⟨hacc, rfl⟩ := ih hsuite (fun b hb => h b (List.mem_cons_of_mem c hb))
        (fun b hb => h' b (List.mem_cons_of_mem c' hb)) hvalue
      have hc := digit_bounds (h c List.mem_cons_self)
      have hc' := digit_bounds (h' c' List.mem_cons_self)
      have hzero : '0'.toNat = 48 := rfl
      rw [hzero] at hacc
      have hchar : c = c' := Char.toNat_inj.1 (by omega)
      exact ⟨by omega, by rw [hchar]⟩

/-- A number is written back as its digits, with the zeros in front. -/
theorem leftpad_toDigits {cs : List Char} {n : ℕ} (h : digitsValue? cs = some n) :
    (Nat.toDigits 10 n).leftpad cs.length '0' = cs := by
  obtain ⟨hne, hall, hvalue⟩ := digitsValue?_eq_some.1 h
  have hpos : 0 < cs.length := List.length_pos_iff.2 hne
  have hlength : (Nat.toDigits 10 n).length ≤ cs.length :=
    (Nat.length_toDigits_le_iff (by decide) hpos).2 (digitsValue?_lt h)
  have hdigits : ∀ c ∈ (Nat.toDigits 10 n).leftpad cs.length '0', c.isDigit = true := by
    intro c hc
    rcases List.mem_append.1 hc with hzero | hdigit
    · rw [List.eq_of_mem_replicate hzero]
      rfl
    · exact Nat.isDigit_of_mem_toDigits (by decide) (by decide) hdigit
  have hsame : Nat.ofDigitChars 10 ((Nat.toDigits 10 n).leftpad cs.length '0') 0 =
      Nat.ofDigitChars 10 cs 0 := by
    unfold List.leftpad
    rw [Nat.ofDigitChars_append, Nat.ofDigitChars_replicate_zero, Nat.mul_zero,
      Nat.ofDigitChars_ten_toDigits, hvalue]
  refine (eq_of_ofDigitChars_eq ?_ hdigits (List.all_eq_true.1 hall) hsame).2
  rw [List.length_leftpad]
  omega

/-- A number without a sign is read as its digits. -/
theorem parseInt?_of_digits {low high : ℤ} {s : String} {n : ℕ}
    (h : digitsValue? s.toList = some n) :
    parseInt? low high s = (some (n : ℤ)).filter fun n => low ≤ n && n ≤ high := by
  obtain ⟨-, hall, -⟩ := digitsValue?_eq_some.1 h
  unfold parseInt?
  simp only
  split
  · rename_i cs hs
    rw [hs] at hall
    simp at hall
  · rename_i cs hs
    rw [hs] at hall
    simp at hall
  · rw [h]
    rfl

/-- A number between the bounds is read back from its digits. -/
theorem parseInt?_decimal {low high n : ℤ} (hlow : low ≤ n) (hhigh : n ≤ high) :
    parseInt? low high (decimal n) = some n := by
  have hfilter : ∀ m : ℤ, m = n → (some m).filter (fun n => low ≤ n && n ≤ high) = some n := by
    rintro m rfl
    simp [Option.filter, hlow, hhigh]
  have hdigits : (toString n.natAbs).toList = Nat.toDigits 10 n.natAbs := by
    rw [Nat.toString_eq_ofList_toDigits, String.toList_ofList]
  unfold decimal
  split
  · rename_i hneg
    unfold parseInt?
    have hlist : ("-" ++ toString n.natAbs).toList = '-' :: Nat.toDigits 10 n.natAbs := by
      rw [String.toList_append, hdigits]
      rfl
    simp only [hlist, digitsValue?_toDigits]
    have hvalue : -(n.natAbs : ℤ) = n := by omega
    exact hfilter _ hvalue
  · rename_i hnonneg
    rw [parseInt?_of_digits (hdigits ▸ digitsValue?_toDigits n.natAbs)]
    exact hfilter _ (by omega)

/-- What comes before the character does not start with it. -/
theorem splitOnce_head? {c : Char} {s a b : String} (h : splitOnce c s = some (a, b)) :
    a.toList.head? ≠ some c := by
  unfold splitOnce at h
  simp only at h
  split at h
  · cases h
  · obtain ⟨rfl, -⟩ := by simpa using h
    rw [String.toList_ofList, List.head?_takeWhile]
    intro hhead
    simpa using (Option.filter_eq_some_iff.1 hhead).2

example : toUppercase "straße Été" = "STRASSE ÉTÉ" := by decide

example : toLowercase "ΜΑΡΚΟΣ ΣΑ" = "μαρκος σα" := by decide +kernel

end Text
