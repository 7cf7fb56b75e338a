import Mathlib.Data.List.Basic
import Mathlib.Data.List.TakeWhile
import Mathlib.Data.UInt
import Mathlib.Tactic.Common

/-!
# Form parameters

The parameters that a server reads in the query of a request: the query stands between the
first question mark and the first hash, its fields between the ampersands, and the value of a
field behind its first equals sign.  A plus is a blank and a percent sign with two hexadecimal
digits is a byte.  `parameters_pair_iff` says which values come back as they were written.
-/

set_option autoImplicit false

namespace Forms

/-- The bytes of a text are separated and escaped by some of its ASCII characters. -/
abbrev hash : UInt8 := '#'.toUInt8
/-- The byte that starts an escape. -/
abbrev percent : UInt8 := '%'.toUInt8
/-- The byte between two parameters. -/
abbrev ampersand : UInt8 := '&'.toUInt8
/-- The byte that stands for a space. -/
abbrev plus : UInt8 := '+'.toUInt8
/-- The byte between a name and its value. -/
abbrev equals : UInt8 := '='.toUInt8
/-- The byte in front of a query. -/
abbrev mark : UInt8 := '?'.toUInt8

/-- The value of a hexadecimal digit. -/
def hexValue? (b : UInt8) : Option UInt8 :=
  if '0'.toUInt8 ≤ b ∧ b ≤ '9'.toUInt8 then some (b - '0'.toUInt8)
  else if 'a'.toUInt8 ≤ b ∧ b ≤ 'f'.toUInt8 then some (b - 'a'.toUInt8 + 10)
  else if 'A'.toUInt8 ≤ b ∧ b ≤ 'F'.toUInt8 then some (b - 'A'.toUInt8 + 10)
  else none

/-- The byte that an escape stands for. -/
def escape? (b high low : UInt8) : Option UInt8 :=
  if b = percent then
    match hexValue? high, hexValue? low with
    | some h, some l => some (16 * h + l)
    | _, _ => none
  else none

/-- The escapes of two hexadecimal digits are replaced; a byte that starts none stays. -/
def percentDecode : List UInt8 → List UInt8
  | b :: high :: low :: rest =>
      match escape? b high low with
      | some c => c :: percentDecode rest
      | none => b :: percentDecode (high :: low :: rest)
  | b :: rest => b :: percentDecode rest
  | [] => []

/-- A plus is a blank. -/
def blank (b : UInt8) : UInt8 := if b = plus then ' '.toUInt8 else b

/-- A value is read with its spaces, then with its escapes. -/
def decode (bytes : List UInt8) : List UInt8 := percentDecode (bytes.map blank)

/-- The name and the value of a field. -/
def field (bytes : List UInt8) : List UInt8 × List UInt8 :=
  (decode (bytes.takeWhile (· ≠ equals)), decode ((bytes.dropWhile (· ≠ equals)).drop 1))

/-- The parameters of a query. -/
def parameters (query : List UInt8) : List (List UInt8 × List UInt8) :=
  ((query.splitOn ampersand).filter (· ≠ [])).map field

/-- The query of a request. -/
def query (target : List UInt8) : List UInt8 :=
  ((target.takeWhile (· ≠ hash)).dropWhile (· ≠ mark)).drop 1

/-! ## Escapes -/

/-- A percent sign and two hexadecimal digits. -/
def HasEscape (bytes : List UInt8) : Prop :=
  ∃ before b high low after, bytes = before ++ b :: high :: low :: after ∧
    (escape? b high low).isSome

variable {l l' : List UInt8} {b : UInt8}

/-- A decoded text is not longer than its source. -/
theorem length_percentDecode_le (l : List UInt8) : (percentDecode l).length ≤ l.length := by
  fun_induction percentDecode l with
  | case1 b high low rest c _ ih =>
      simp only [List.length_cons]
      omega
  | case2 b high low rest _ ih =>
      simp only [List.length_cons] at ih ⊢
      omega
  | case3 b rest _ ih =>
      simp only [List.length_cons]
      omega
  | case4 => exact le_rfl

/-- Without an escape nothing is decoded. -/
theorem percentDecode_eq_self (h : ¬ HasEscape l) : percentDecode l = l := by
  fun_induction percentDecode l with
  | case1 b high low rest c hc ih =>
      exact absurd ⟨[], b, high, low, rest, rfl, by rw [hc]; rfl⟩ h
  | case2 b high low rest _ ih =>
      rw [ih]
      rintro ⟨before, b', high', low', after, heq, hescape⟩
      exact h ⟨b :: before, b', high', low', after, by rw [heq]; rfl, hescape⟩
  | case3 b rest _ ih =>
      rw [ih]
      rintro ⟨before, b', high', low', after, heq, hescape⟩
      exact h ⟨b :: before, b', high', low', after, by rw [heq]; rfl, hescape⟩
  | case4 => rfl

/-- An escape is three bytes for one. -/
theorem length_percentDecode_lt (h : HasEscape l) : (percentDecode l).length < l.length := by
  fun_induction percentDecode l with
  | case1 b high low rest c _ ih =>
      have hle := length_percentDecode_le rest
      simp only [List.length_cons]
      omega
  | case2 b high low rest hnone ih =>
      obtain ⟨before, b', high', low', after, heq, hescape⟩ := h
      cases before with
      | nil =>
          obtain ⟨rfl, rfl, rfl, rfl⟩ := by simpa using heq
          rw [hnone] at hescape
          cases hescape
      | cons b'' before =>
          have hrest := ih ⟨before, b', high', low', after, (List.cons.inj heq).2, hescape⟩
          simp only [List.length_cons] at hrest ⊢
          omega
  | case3 b rest hshort ih =>
      obtain ⟨before, b', high', low', after, heq, hescape⟩ := h
      cases before with
      | nil =>
          obtain ⟨-, rfl⟩ := by simpa using heq
          exact absurd rfl (hshort high' low' after)
      | cons b'' before =>
          have hrest := ih ⟨before, b', high', low', after, (List.cons.inj heq).2, hescape⟩
          simp only [List.length_cons]
          omega
  | case4 =>
      obtain ⟨before, b', high', low', after, heq, -⟩ := h
      simp at heq

/-! ## What is decoded as it was written -/

/-- A plus is not a hexadecimal digit, nor is a space. -/
theorem hexValue?_blank (b : UInt8) : hexValue? (blank b) = hexValue? b := by
  unfold blank
  split_ifs with h
  · subst h
    decide
  · rfl

/-- An escape is the same once the pluses are spaces. -/
theorem escape?_blank (b high low : UInt8) :
    escape? (blank b) (blank high) (blank low) = escape? b high low := by
  unfold escape?
  rw [hexValue?_blank, hexValue?_blank]
  by_cases hplus : b = plus
  · subst hplus
    rw [if_neg (by decide), if_neg (by decide)]
  · rw [show blank b = b from if_neg hplus]

/-- A blank hides no escape and makes none. -/
theorem hasEscape_map_blank : HasEscape (l.map blank) ↔ HasEscape l := by
  constructor
  · rintro ⟨before, b, high, low, after, heq, hescape⟩
    obtain ⟨before', _, rfl, -, hb⟩ := List.map_eq_append_iff.1 heq
    obtain ⟨b', _, rfl, rfl, hhigh⟩ := List.map_eq_cons_iff.1 hb
    obtain ⟨high', _, rfl, rfl, hlow⟩ := List.map_eq_cons_iff.1 hhigh
    obtain ⟨low', after', rfl, rfl, -⟩ := List.map_eq_cons_iff.1 hlow
    rw [escape?_blank] at hescape
    exact ⟨before', b', high', low', after', rfl, hescape⟩
  · rintro ⟨before, b, high, low, after, rfl, hescape⟩
    exact ⟨before.map blank, blank b, blank high, blank low, after.map blank, by simp,
      by rwa [escape?_blank]⟩

/-- Only a text without a plus is kept by the reading of spaces. -/
theorem map_blank_eq_self_iff : l.map blank = l ↔ plus ∉ l := by
  constructor
  · intro h hmem
    rw [← h] at hmem
    obtain ⟨b, -, hb⟩ := List.mem_map.1 hmem
    unfold blank at hb
    split_ifs at hb with hplus
    · exact absurd hb (by decide)
    · exact hplus hb
  · intro h
    refine (List.map_congr_left fun b hb => ?_).trans (List.map_id l)
    have hne : b ≠ plus := fun heq => h (heq ▸ hb)
    exact if_neg hne

/-- A value that is read is not longer than its source. -/
theorem length_decode_le (l : List UInt8) : (decode l).length ≤ l.length := by
  have hle := length_percentDecode_le (l.map blank)
  rwa [List.length_map] at hle

/-- What has neither a plus nor an escape is decoded as it was written. -/
theorem decode_eq_self_iff : decode l = l ↔ plus ∉ l ∧ ¬ HasEscape l := by
  unfold decode
  constructor
  · intro h
    have hescape : ¬ HasEscape l := by
      intro hescape
      have hlt := length_percentDecode_lt (hasEscape_map_blank.2 hescape)
      rw [h, List.length_map] at hlt
      exact absurd hlt (lt_irrefl _)
    rw [percentDecode_eq_self fun hmap => hescape (hasEscape_map_blank.1 hmap),
      map_blank_eq_self_iff] at h
    exact ⟨h, hescape⟩
  · rintro ⟨hplus, hescape⟩
    rw [map_blank_eq_self_iff.2 hplus, percentDecode_eq_self hescape]

/-- An escape starts with a percent sign. -/
theorem not_hasEscape (h : percent ∉ l) : ¬ HasEscape l := by
  rintro ⟨before, b, high, low, after, rfl, hescape⟩
  unfold escape? at hescape
  split_ifs at hescape with hb
  · exact h (by simp [hb])
  · cases hescape

/-- The query of a request whose path has no mark and no hash. -/
theorem query_append {path : List UInt8} (hmark : mark ∉ path) (hhash : hash ∉ path)
    (rest : List UInt8) : query (path ++ mark :: rest) = rest.takeWhile (· ≠ hash) := by
  have hnoMark : ∀ b ∈ path, decide (b ≠ mark) = true :=
    fun b hb => decide_eq_true fun heq => hmark (heq ▸ hb)
  have hnoHash : ∀ b ∈ path, decide (b ≠ hash) = true :=
    fun b hb => decide_eq_true fun heq => hhash (heq ▸ hb)
  have hfirst : (mark :: rest).takeWhile (fun b => decide (b ≠ hash)) =
      mark :: rest.takeWhile fun b => decide (b ≠ hash) :=
    List.takeWhile_cons_of_pos (by decide)
  unfold query
  rw [List.takeWhile_append_of_pos hnoHash, hfirst, List.dropWhile_append_of_pos hnoMark]
  simp

/-! ## Two parameters -/

/-- A name and its value. -/
theorem field_append {name value : List UInt8} (hname : equals ∉ name) :
    field (name ++ equals :: value) = (decode name, decode value) := by
  have hne : ∀ b ∈ name, decide (b ≠ equals) = true := by
    intro b hb
    exact decide_eq_true fun heq => hname (heq ▸ hb)
  unfold field
  rw [List.takeWhile_append_of_pos hne, List.dropWhile_append_of_pos hne]
  simp

/-- The first field stops at the first ampersand. -/
theorem splitOn_field {name : List UInt8} (hamp : ampersand ∉ name) (value : List UInt8) :
    ∃ read fields, (name ++ equals :: value).splitOn ampersand = (name ++ equals :: read) :: fields ∧
      ampersand ∉ read ∧ read <+: value ∧ (ampersand ∉ value → read = value ∧ fields = []) := by
  have hfree : ∀ read : List UInt8, ampersand ∉ read → ampersand ∉ name ++ equals :: read := by
    intro read hread hmem
    rcases List.mem_append.1 hmem with hmem | hmem
    · exact hamp hmem
    · rcases List.mem_cons.1 hmem with heq | hmem
      · exact absurd heq (by decide)
      · exact hread hmem
  by_cases hvalue : ampersand ∈ value
  · obtain ⟨read, rest, rfl, hread⟩ := List.eq_append_cons_of_mem hvalue
    refine ⟨read, rest.splitOn ampersand, ?_, hread, List.prefix_append _ _,
      fun hnot => absurd hvalue hnot⟩
    have hassoc : name ++ equals :: (read ++ ampersand :: rest) =
        name ++ equals :: read ++ ampersand :: rest := by simp
    rw [hassoc, List.splitOn_append_cons_self_of_not_mem (hfree read hread)]
  · exact ⟨value, [], List.splitOn_eq_singleton (hfree value hvalue), hvalue, List.prefix_rfl,
      fun _ => ⟨rfl, rfl⟩⟩

/-- Two parameters written one after the other come back as they were written when the second
value has no hash, no ampersand, no plus and no escape, and only then. -/
theorem parameters_pair_iff {name₁ value₁ name₂ value : List UInt8}
    (hequals₁ : equals ∉ name₁) (hequals₂ : equals ∉ name₂)
    (hname₁ : decode name₁ = name₁) (hname₂ : decode name₂ = name₂)
    (hamp₁ : ampersand ∉ name₁ ++ equals :: value₁) (hamp₂ : ampersand ∉ name₂)
    (hhash : hash ∉ name₁ ++ equals :: value₁ ++ ampersand :: (name₂ ++ [equals])) :
    parameters ((name₁ ++ equals :: value₁ ++ ampersand :: (name₂ ++ equals :: value)).takeWhile
        (· ≠ hash)) = [(name₁, value₁), (name₂, value)] ↔
      decode value₁ = value₁ ∧ hash ∉ value ∧ ampersand ∉ value ∧ plus ∉ value ∧
        ¬ HasEscape value := by
  have hne : ∀ b ∈ name₁ ++ equals :: value₁ ++ ampersand :: (name₂ ++ [equals]),
      decide (b ≠ hash) = true := by
    intro b hb
    exact decide_eq_true fun heq => hhash (heq ▸ hb)
  have hassoc : ∀ rest : List UInt8,
      name₁ ++ equals :: value₁ ++ ampersand :: (name₂ ++ equals :: rest) =
        name₁ ++ equals :: value₁ ++ ampersand :: (name₂ ++ [equals]) ++ rest := by simp
  -- the value is read up to a hash or an ampersand
  obtain ⟨read, fields, hfields, hread, htete, hwhole⟩ :=
    splitOn_field hamp₂ (value.takeWhile fun b => decide (b ≠ hash))
  have hparameters : parameters ((name₁ ++ equals :: value₁ ++
      ampersand :: (name₂ ++ equals :: value)).takeWhile (· ≠ hash)) =
        (name₁, decode value₁) :: (name₂, decode read) :: (fields.filter (· ≠ [])).map field := by
    rw [hassoc, List.takeWhile_append_of_pos hne, ← hassoc]
    unfold parameters
    rw [List.splitOn_append_cons_self_of_not_mem hamp₁, hfields, List.filter_cons_of_pos (by simp),
      List.filter_cons_of_pos (by simp), List.map_cons, List.map_cons, field_append hequals₁,
      field_append hequals₂, hname₁, hname₂]
  rw [hparameters]
  constructor
  · intro h
    obtain ⟨hfirst, hsecond⟩ := List.cons.inj h
    have hdecode : decode read = value := (Prod.mk.inj (List.cons.inj hsecond).1).2
    -- what is read is no longer than the value, and decoding makes nothing longer
    have hlength := length_decode_le read
    rw [hdecode] at hlength
    have htake : (value.takeWhile fun b => decide (b ≠ hash)) <+: value := List.takeWhile_prefix _
    obtain rfl : read = value := (htete.trans htake).eq_of_length_le hlength
    have hsharp : hash ∉ read := by
      intro hmem
      have hall := htake.sublist.antisymm htete.sublist
      rw [← hall] at hmem
      simpa using List.mem_takeWhile_imp hmem
    exact ⟨(Prod.mk.inj hfirst).2, hsharp, hread, decode_eq_self_iff.1 hdecode⟩
  · rintro ⟨hdecode, hsharp, hamp, hplain⟩
    have htake : (value.takeWhile fun b => decide (b ≠ hash)) = value := by
      refine List.takeWhile_eq_self_iff.2 fun b hb => ?_
      exact decide_eq_true fun heq => hsharp (heq ▸ hb)
    rw [htake] at hwhole
    obtain ⟨rfl, rfl⟩ := hwhole hamp
    rw [hdecode, decode_eq_self_iff.2 hplain]
    rfl

end Forms
