import Mathlib.Data.List.Basic
import Mathlib.Data.List.DropRight
import Mathlib.Data.List.TakeWhile
import Mathlib.Tactic.Common
import Budgy.Interface.Text

/-!
# Parts joined by a separator

Two texts joined by a separator can be told apart when the separator is absent from the
parts on one side of it.  The readers of such texts are the splits of the standard
library: at the first separator, at the last one, at all of them.
-/

set_option autoImplicit false

namespace Separators

variable {α : Type} {a : α} {x x' z z' : List α}

/-- The parts around the first separator. -/
theorem append_cons_inj (hx : a ∉ x) (hx' : a ∉ x') :
    x ++ a :: z = x' ++ a :: z' ↔ x = x' ∧ z = z' := by
  constructor
  · intro h
    induction x generalizing x' with
    | nil =>
        cases x' with
        | nil => exact ⟨rfl, (List.cons.inj h).2⟩
        | cons b x' =>
            have hb : a = b := (List.cons.inj h).1
            exact absurd (hb ▸ List.mem_cons_self) hx'
    | cons c x ih =>
        cases x' with
        | nil =>
            have hc : c = a := (List.cons.inj h).1
            exact absurd (hc ▸ List.mem_cons_self) hx
        | cons b x' =>
            obtain ⟨rfl, htail⟩ := List.cons.inj h
            have hnot : a ∉ x := fun hmem => hx (List.mem_cons_of_mem c hmem)
            have hnot' : a ∉ x' := fun hmem => hx' (List.mem_cons_of_mem c hmem)
            obtain ⟨rfl, hz⟩ := ih hnot hnot' htail
            exact ⟨rfl, hz⟩
  · rintro ⟨rfl, rfl⟩
    rfl

/-- The parts around the last separator. -/
theorem append_cons_inj_last (hz : a ∉ z) (hz' : a ∉ z') :
    x ++ a :: z = x' ++ a :: z' ↔ x = x' ∧ z = z' := by
  have hreverse : ∀ y w : List α, (y ++ a :: w).reverse = w.reverse ++ a :: y.reverse := by
    intro y w
    simp
  rw [← List.reverse_inj, hreverse, hreverse,
    append_cons_inj (by simpa using hz) (by simpa using hz'), List.reverse_inj, List.reverse_inj,
    and_comm]

end Separators

namespace Text

/-- `str::rsplit_once` at a character. -/
def rsplitOnce (c : Char) (s : String) : Option (String × String) :=
  let tail := s.toList.reverse.takeWhile (· ≠ c)
  match s.toList.reverse.dropWhile (· ≠ c) with
  | [] => none
  | _ :: head => some (String.ofList head.reverse, String.ofList tail.reverse)

/-- `str::split` at a character. -/
def split (c : Char) (s : String) : List String := (s.toList.splitOn c).map String.ofList

variable {c : Char}

/-- The elements of a text without the separator differ from it. -/
private theorem ne_of_notMem {cs : List Char} (h : c ∉ cs) :
    ∀ b ∈ cs, decide (b ≠ c) = true := by
  intro b hb
  have hne : b ≠ c := fun heq => h (heq ▸ hb)
  simpa using hne

/-- The first separator, when the part before it has none. -/
theorem splitOnce_append {x z : List Char} (h : c ∉ x) :
    splitOnce c (String.ofList (x ++ c :: z)) = some (String.ofList x, String.ofList z) := by
  have hx := ne_of_notMem h
  unfold splitOnce
  simp only [String.toList_ofList]
  rw [List.takeWhile_append_of_pos hx, List.dropWhile_append_of_pos hx]
  simp

/-- The last separator, when the part behind it has none. -/
theorem rsplitOnce_append {x z : List Char} (h : c ∉ z) :
    rsplitOnce c (String.ofList (x ++ c :: z)) = some (String.ofList x, String.ofList z) := by
  have hz : ∀ b ∈ z.reverse, decide (b ≠ c) = true :=
    ne_of_notMem fun hmem => h (List.mem_reverse.1 hmem)
  unfold rsplitOnce
  simp only [String.toList_ofList, List.reverse_append, List.reverse_cons, List.append_assoc,
    List.singleton_append]
  rw [List.takeWhile_append_of_pos hz, List.dropWhile_append_of_pos hz]
  simp

/-- What comes before the first separator is free of it. -/
theorem notMem_of_splitOnce {s a b : String} (h : splitOnce c s = some (a, b)) :
    c ∉ a.toList := by
  unfold splitOnce at h
  simp only at h
  split at h
  · cases h
  · obtain ⟨rfl, -⟩ := by simpa using h
    intro hmem
    have hne := List.mem_takeWhile_imp (by simpa using hmem)
    simp at hne

/-- The two parts are around the separator. -/
theorem toList_of_splitOnce {s a b : String} (h : splitOnce c s = some (a, b)) :
    s.toList = a.toList ++ c :: b.toList := by
  unfold splitOnce at h
  simp only at h
  split at h
  · cases h
  · rename_i d tail hdrop
    obtain ⟨rfl, rfl⟩ := by simpa using h
    have hd : d = c := by
      have hhead := List.head?_dropWhile_not (fun b => decide (b ≠ c)) s.toList
      rw [hdrop] at hhead
      simpa using hhead
    have happend := List.takeWhile_append_dropWhile
      (p := fun b => decide (b ≠ c)) (l := s.toList)
    rw [hdrop, hd] at happend
    rw [String.toList_ofList, String.toList_ofList]
    simpa using happend.symm

/-- A text that is not split has no separator. -/
theorem notMem_of_splitOnce_eq_none {s : String} (h : splitOnce c s = none) : c ∉ s.toList := by
  unfold splitOnce at h
  simp only at h
  split at h
  · rename_i hdrop
    intro hmem
    simpa using List.dropWhile_eq_nil_iff.1 hdrop c hmem
  · cases h

/-- What comes after the last separator is free of it. -/
theorem notMem_of_rsplitOnce {s a b : String} (h : rsplitOnce c s = some (a, b)) :
    c ∉ b.toList ∧ s.toList = a.toList ++ c :: b.toList := by
  unfold rsplitOnce at h
  simp only at h
  split at h
  · cases h
  · rename_i d head hdrop
    obtain ⟨rfl, rfl⟩ := by simpa using h
    have hd : d = c := by
      have hhead := List.head?_dropWhile_not (fun b => decide (b ≠ c)) s.toList.reverse
      rw [hdrop] at hhead
      simpa using hhead
    have happend := List.takeWhile_append_dropWhile
      (p := fun b => decide (b ≠ c)) (l := s.toList.reverse)
    rw [hdrop, hd] at happend
    constructor
    · intro hmem
      have hne := List.mem_takeWhile_imp (List.mem_reverse.1 (by simpa using hmem))
      simp at hne
    · have hrev := congrArg List.reverse happend
      simpa using hrev.symm

/-- The prefix of one character. -/
theorem stripPrefix?_singleton (a : Char) (cs : List Char) :
    Text.stripPrefix? (String.ofList [a]) (String.ofList cs) =
      if cs.head? = some a then some (String.ofList cs.tail) else none := by
  unfold Text.stripPrefix?
  cases cs with
  | nil => simp
  | cons c cs =>
      by_cases h : a = c
      · simp [h]
      · have h' : ¬ c = a := fun heq => h heq.symm
        simp [h, h']

/-- A text behind its prefix. -/
theorem stripPrefix?_append (head s : String) : stripPrefix? head (head ++ s) = some s := by
  have htete : head.toList.isPrefixOf (head ++ s).toList = true := by
    simp [String.toList_append]
  rw [stripPrefix?, if_pos htete, String.toList_append, List.drop_left, String.ofList_toList]

/-- Texts without the separator are read back from their join, unless there are none. -/
theorem split_join {ws : List String} (hne : ws ≠ []) (h : ∀ w ∈ ws, c ∉ w.toList) :
    split c (join (String.singleton c) ws) = ws := by
  have htexts : (join (String.singleton c) ws).toList =
      [c].intercalate (ws.map String.toList) := by
    simp [join, String.toList_intercalate]
  unfold split
  rw [htexts, List.splitOn_intercalate c]
  · simp
  · simpa using h
  · simpa using hne

/-! ## Trimming -/

/-- The blanks in front of a character that is not blank are those of the part before it. -/
private theorem dropWhile_append_cons {x z : List Char} (hc : isWhitespace c = false) :
    (x ++ c :: z).dropWhile isWhitespace = x.dropWhile isWhitespace ++ c :: z := by
  rw [List.dropWhile_append]
  split
  · rename_i hempty
    have hx : x.dropWhile isWhitespace = [] := by simpa using hempty
    rw [hx, List.nil_append, List.dropWhile_cons_of_neg (by simp [hc])]
  · rfl

/-- The same, for a text. -/
theorem trimStart_append_cons (hc : isWhitespace c = false) (n p : String) :
    trimStart (n ++ String.singleton c ++ p) = trimStart n ++ String.singleton c ++ p := by
  have hlist : (n ++ String.singleton c ++ p).toList = n.toList ++ c :: p.toList := by simp
  unfold trimStart
  rw [hlist, dropWhile_append_cons hc]
  apply String.toList_inj.1
  simp

/-- Around a separator that is not white space, each part is trimmed on its own side. -/
theorem trim_append_cons (hc : isWhitespace c = false) (n p : String) :
    trim (n ++ String.singleton c ++ p) =
      trimStart n ++ String.singleton c ++ trimEnd p := by
  have hlist : (trimStart n ++ String.singleton c ++ p).toList.reverse =
      p.toList.reverse ++ c :: (trimStart n).toList.reverse := by simp
  rw [trim, trimStart_append_cons hc]
  unfold trimEnd
  rw [hlist, dropWhile_append_cons hc]
  apply String.toList_inj.1
  simp

/-- Trimming twice is trimming once. -/
theorem trimStart_trimStart (s : String) : trimStart (trimStart s) = trimStart s := by
  unfold trimStart
  rw [String.toList_ofList, List.dropWhile_idempotent]

/-- A trimmed text has only characters of the text. -/
theorem mem_of_mem_trimEnd {s : String} {b : Char} (h : b ∈ (trimEnd s).toList) :
    b ∈ s.toList := by
  unfold trimEnd at h
  rw [String.toList_ofList, List.mem_reverse] at h
  exact List.mem_reverse.1 ((List.dropWhile_sublist _).mem h)

/-- So has a text trimmed on both sides. -/
theorem mem_of_mem_trim {s : String} {b : Char} (h : b ∈ (trim s).toList) : b ∈ s.toList := by
  have hstart := mem_of_mem_trimEnd h
  unfold trimStart at hstart
  rw [String.toList_ofList] at hstart
  exact (List.dropWhile_sublist _).mem hstart

/-- What is not trimmed is not trimmed at its start. -/
theorem trimStart_of_trim {s : String} (h : trim s = s) : trimStart s = s := by
  have hlength : s.toList.length ≤ (trimStart s).toList.length := by
    have hsub : (trim s).toList.length ≤ (trimStart s).toList.length := by
      unfold trim trimEnd
      rw [String.toList_ofList, List.length_reverse]
      have hdrop := (List.dropWhile_sublist isWhitespace
        (l := (trimStart s).toList.reverse)).length_le
      rwa [List.length_reverse] at hdrop
    rwa [h] at hsub
  unfold trimStart at hlength ⊢
  rw [String.toList_ofList] at hlength
  rw [(List.dropWhile_sublist isWhitespace).eq_of_length_le hlength, String.ofList_toList]

end Text
