import Budgy.Model.Domain
import Mathlib.Algebra.BigOperators.Group.List.Basic

/-!
# Masked account numbers

`masquer_iban` measures the account number in bytes and cuts it in characters.  The two
agree on ASCII texts; elsewhere the mask may be longer than the number, or show a character
of a short one.  `bienMasque_iff` gives the texts that are masked as intended, and on which
masking twice is masking once.
-/

set_option autoImplicit false

namespace Budgy

/-- The characters of an account number, without the blanks. -/
def lettres (iban : String) : List Char := iban.toList.filter fun c => !Text.isWhitespace c

/-- As many stars as characters, except for the last four at most; only stars when there are
four characters or fewer; the same text when it is masked again. -/
structure BienMasque (iban : String) : Prop where
  longueur : (masquerIban iban).toList.length = (lettres iban).length
  derniers : ∃ k ≤ 4, (masquerIban iban).toList =
    List.replicate ((lettres iban).length - k) '*' ++
      (lettres iban).drop ((lettres iban).length - k)
  courts : (lettres iban).length ≤ 4 →
    (masquerIban iban).toList = List.replicate (lettres iban).length '*'
  stable : masquerIban (masquerIban iban) = masquerIban iban

/-- The number of bytes of some characters. -/
def octets (cs : List Char) : ℕ := (cs.map Char.utf8Size).sum

/-- There are at most four bytes more than characters; of four characters or fewer, either
each has one byte or those that the mask would show are stars. -/
def OctetsProches (cs : List Char) : Prop :=
  octets cs ≤ cs.length + 4 ∧
    (cs.length ≤ 4 → octets cs = cs.length ∨
      4 < octets cs ∧ ∀ c ∈ cs.drop (octets cs - 4), c = '*')

/-! ## Bytes -/

/-- The bytes of two texts. -/
theorem octets_append (cs cs' : List Char) : octets (cs ++ cs') = octets cs + octets cs' := by
  rw [octets, List.map_append, List.sum_append]
  rfl

/-- A text has no more characters than bytes. -/
theorem length_le_octets (cs : List Char) : cs.length ≤ octets cs := by
  induction cs with
  | nil => exact le_rfl
  | cons c cs ih =>
      have hc := c.utf8Size_pos
      show cs.length + 1 ≤ c.utf8Size + octets cs
      omega

/-- An asterisk is one byte. -/
theorem octets_replicate (n : ℕ) : octets (List.replicate n '*') = n := by
  have hstar : Char.utf8Size '*' = 1 := by decide
  rw [octets, List.map_replicate, List.sum_replicate, hstar]
  exact nsmul_one n

/-- The size of a text is the number of its bytes. -/
theorem utf8ByteSize_ofList (cs : List Char) : (String.ofList cs).utf8ByteSize = octets cs := by
  show cs.utf8Encode.size = octets cs
  induction cs with
  | nil => rfl
  | cons c cs ih =>
      rw [List.utf8Encode_cons, ByteArray.size_append, ih, List.utf8Encode_singleton]
      simp [octets]

/-- Past as many characters as there are bytes less four, four bytes are left at most. -/
theorem octets_drop_le (cs : List Char) : octets (cs.drop (octets cs - 4)) ≤ 4 := by
  by_cases hlong : octets cs - 4 ≤ cs.length
  · have hsplit := octets_append (cs.take (octets cs - 4)) (cs.drop (octets cs - 4))
    have htake := length_le_octets (cs.take (octets cs - 4))
    rw [List.take_append_drop] at hsplit
    rw [List.length_take, min_eq_left hlong] at htake
    omega
  · rw [List.drop_of_length_le (by omega)]
    exact Nat.zero_le 4

/-! ## The mask -/

/-- `masquer_iban`, over the characters of the compact text. -/
def masque (cs : List Char) : List Char :=
  if octets cs ≤ 4 then List.replicate (octets cs) '*'
  else List.replicate (octets cs - 4) '*' ++ cs.drop (octets cs - 4)

/-- The masked text, as a list of characters. -/
theorem toList_masquerIban (iban : String) :
    (masquerIban iban).toList = masque (lettres iban) := by
  unfold masquerIban masque lettres
  simp only [utf8ByteSize_ofList, String.toList_ofList]
  split_ifs
  · rw [String.toList_ofList]
  · rw [String.toList_ofList]

/-- The mask has no blank. -/
theorem lettres_masquerIban (iban : String) :
    lettres (masquerIban iban) = masque (lettres iban) := by
  have hstar : Text.isWhitespace '*' = false := by decide
  rw [lettres, toList_masquerIban, List.filter_eq_self]
  intro c hc
  unfold masque at hc
  split_ifs at hc
  · rw [List.eq_of_mem_replicate hc, hstar]
    rfl
  · rcases List.mem_append.1 hc with hmasque | hsuffixe
    · rw [List.eq_of_mem_replicate hmasque, hstar]
      rfl
    · exact (List.mem_filter.1 (List.mem_of_mem_drop hsuffixe)).2

/-- Asterisks are masked to as many asterisks. -/
theorem masque_replicate (n : ℕ) :
    masque (List.replicate n '*') = List.replicate n '*' := by
  unfold masque
  rw [octets_replicate]
  split_ifs
  · rfl
  · rw [List.drop_replicate, List.replicate_append_replicate]
    congr 1
    omega

variable {cs : List Char}

/-- A short number that is masked as intended is all stars. -/
theorem masque_of_court (h : OctetsProches cs) (hcourt : cs.length ≤ 4) :
    masque cs = List.replicate cs.length '*' := by
  have hle := length_le_octets cs
  unfold masque
  split_ifs with hpetit
  · rcases h.2 hcourt with heq | ⟨hgrand, -⟩
    · rw [heq]
    · omega
  · rcases h.2 hcourt with heq | ⟨-, hstars⟩
    · omega
    · rw [List.eq_replicate_of_mem hstars, List.replicate_append_replicate, List.length_drop]
      congr 1
      have hborne := h.1
      omega

/-- A text of more than four bytes is masked but for its end. -/
theorem masque_of_long (h : 4 < octets cs) :
    masque cs = List.replicate (octets cs - 4) '*' ++ cs.drop (octets cs - 4) :=
  if_neg (not_le.2 h)

/-- Masking what was masked as intended does not change it. -/
theorem masque_masque (h : OctetsProches cs) : masque (masque cs) = masque cs := by
  by_cases hcourt : cs.length ≤ 4
  · rw [masque_of_court h hcourt, masque_replicate]
  · have hle := length_le_octets cs
    have hborne := h.1
    have hreste := octets_drop_le cs
    have hlength := length_le_octets (cs.drop (octets cs - 4))
    rw [List.length_drop] at hlength
    have hlong : 4 < octets cs := by omega
    have hoctets : octets (masque cs) = octets cs - 4 + octets (cs.drop (octets cs - 4)) := by
      rw [masque_of_long hlong, octets_append, octets_replicate]
    -- the second mask hides no more than the first one
    have hdrop : octets (masque cs) - 4 ≤ octets cs - 4 := by omega
    have hstars : octets (masque cs) - 4 + (octets cs - 4 - (octets (masque cs) - 4)) =
        octets cs - 4 := by omega
    have hencore : 4 < octets (masque cs) := by omega
    rw [masque_of_long hencore]
    generalize octets (masque cs) - 4 = n at hdrop hstars ⊢
    rw [masque_of_long hlong, List.drop_append_of_le_length (by simpa using hdrop),
      List.drop_replicate, ← List.append_assoc, List.replicate_append_replicate, hstars]

/-- An account number is masked as intended exactly when it has hardly more bytes than
characters. -/
theorem bienMasque_iff (iban : String) : BienMasque iban ↔ OctetsProches (lettres iban) := by
  have hle := length_le_octets (lettres iban)
  constructor
  · intro h
    have hlongueur := h.longueur
    have hcourts := h.courts
    rw [toList_masquerIban] at hlongueur hcourts
    by_cases hpetit : octets (lettres iban) ≤ 4
    · have hmasque : masque (lettres iban) = _ := if_pos hpetit
      rw [hmasque, List.length_replicate] at hlongueur
      exact ⟨by omega, fun _ => .inl hlongueur⟩
    · have hmasque := masque_of_long (not_le.1 hpetit)
      have hsuite : octets (lettres iban) ≤ (lettres iban).length + 4 := by
        rw [hmasque, List.length_append, List.length_replicate, List.length_drop] at hlongueur
        omega
      refine ⟨hsuite, fun hcourt => .inr ⟨not_le.1 hpetit, fun c hc => ?_⟩⟩
      have hmem : c ∈ masque (lettres iban) := by
        rw [hmasque]
        exact List.mem_append_right _ hc
      rw [hcourts hcourt] at hmem
      exact List.eq_of_mem_replicate hmem
  · intro h
    have hcourts : (lettres iban).length ≤ 4 →
        (masquerIban iban).toList = List.replicate (lettres iban).length '*' := by
      intro hcourt
      rw [toList_masquerIban, masque_of_court h hcourt]
    have hderniers : ∃ k ≤ 4, (masquerIban iban).toList =
        List.replicate ((lettres iban).length - k) '*' ++
          (lettres iban).drop ((lettres iban).length - k) := by
      by_cases hcourt : (lettres iban).length ≤ 4
      · exact ⟨0, Nat.zero_le 4, by rw [hcourts hcourt, Nat.sub_zero, List.drop_length,
          List.append_nil]⟩
      · have hborne := h.1
        have hk : (lettres iban).length - ((lettres iban).length + 4 - octets (lettres iban)) =
            octets (lettres iban) - 4 := by omega
        refine ⟨(lettres iban).length + 4 - octets (lettres iban), by omega, ?_⟩
        rw [toList_masquerIban, masque_of_long (by omega), hk]
    refine ⟨?_, hderniers, hcourts, ?_⟩
    · obtain ⟨k, hk, hmasque⟩ := hderniers
      rw [hmasque, List.length_append, List.length_replicate, List.length_drop]
      omega
    · apply String.toList_inj.1
      rw [toList_masquerIban, lettres_masquerIban, masque_masque h, toList_masquerIban]

/-- A number that the bank has masked with dots counts more stars than characters. -/
theorem masquerIban_points : ¬ ∀ iban : String, BienMasque iban := by
  intro h
  have hlongueur := (h "••••1234").longueur
  revert hlongueur
  decide

end Budgy
