import Budgy.Interface.Separators
import Budgy.Model.Cycle

/-!
# Two readers of a month

`Mois::parse` and `MoisBudget::parse` announce the same format `YYYY-MM`.  The first one relies
on the integers of the standard library, which accept a plus sign, the second one on the dates
of `chrono`, which accept signed years, shorter numbers and blanks.
-/

set_option autoImplicit false

namespace Budgy

open Gregorian (Date)
open Text (digitsValue?)

variable {cs reste : List Char} {v : String} {m : Mois}

/-! ## Numbers -/

/-- The characters that have a value are digits. -/
theorem isDigit_of_digitsValue? {n : ℕ} (h : digitsValue? cs = some n) :
    ∀ c ∈ cs, c.isDigit = true :=
  List.all_eq_true.1 (Text.digitsValue?_eq_some.1 h).2.1

/-- The digits at the front are read, up to the width. -/
theorem lireNombre_append {max n : ℕ} (h : digitsValue? cs = some n) (hmax : cs.length ≤ max)
    (hreste : cs.length = max ∨ ∀ c ∈ reste.head?, c.isDigit = false) :
    lireNombre max (cs ++ reste) = some ((n : ℤ), reste) := by
  have hdigits := isDigit_of_digitsValue? h
  have hchiffres : ((cs ++ reste).take max).takeWhile Char.isDigit = cs := by
    rw [List.take_append, List.take_of_length_le hmax, List.takeWhile_append_of_pos hdigits]
    rcases hreste with hplein | hfin
    · rw [hplein, Nat.sub_self, List.take_zero, List.takeWhile_nil, List.append_nil]
    · cases reste with
      | nil => simp
      | cons c reste =>
          have hc := hfin c rfl
          cases max - cs.length with
          | zero => simp
          | succ k => simp [hc]
  unfold lireNombre
  rw [hchiffres]
  simp [h]

/-- A number that is read is made of digits, as many as allowed. -/
theorem lireNombre_eq_some {max : ℕ} {n : ℤ} (h : lireNombre max cs = some (n, reste)) :
    ∃ chiffres k, cs = chiffres ++ reste ∧ chiffres.length ≤ max ∧
      digitsValue? chiffres = some k ∧ n = k := by
  obtain ⟨k, hk, rfl, rfl⟩ : ∃ k : ℕ,
      digitsValue? ((cs.take max).takeWhile Char.isDigit) = some k ∧ (k : ℤ) = n ∧
        cs.drop ((cs.take max).takeWhile Char.isDigit).length = reste := by
    simpa [lireNombre, Option.bind_eq_some_iff] using h
  have htete : ((cs.take max).takeWhile Char.isDigit) <+: cs :=
    (List.takeWhile_prefix _).trans (List.take_prefix _ _)
  refine ⟨(cs.take max).takeWhile Char.isDigit, k, ?_, ?_, hk, rfl⟩
  · exact (List.prefix_iff_eq_append.1 htete).symm
  · exact (List.takeWhile_prefix _).length_le.trans (List.length_take_le _ _)

/-! ## What `chrono` reads as a month -/

/-- The sign of a year. -/
inductive SigneAnnee where
  | aucun
  | plus
  | moins
  deriving DecidableEq

namespace SigneAnnee

/-- The sign as it is written. -/
def texte : SigneAnnee → List Char
  | aucun => []
  | plus => ['+']
  | moins => ['-']

/-- The year under the sign. -/
def applique : SigneAnnee → ℕ → ℤ
  | aucun, n | plus, n => n
  | moins, n => -n

end SigneAnnee

/-- A year, a dash, blanks and a month. -/
structure EcritureBudget where
  signe : SigneAnnee
  annee : List Char
  blancs : List Char
  mois : List Char

namespace EcritureBudget

/-- The text of a writing. -/
def texte (e : EcritureBudget) : List Char :=
  e.signe.texte ++ e.annee ++ '-' :: (e.blancs ++ e.mois)

/-- The parts denote a month: a year of four digits at most, or signed, and a month of one or
two digits. -/
structure Denote (e : EcritureBudget) (m : Mois) : Prop where
  annee : ∃ n, digitsValue? e.annee = some n ∧ m.annee = e.signe.applique n
  mois : digitsValue? e.mois = some m.mois
  blancs : ∀ c ∈ e.blancs, Text.isWhitespace c = true
  large : e.signe = .aucun → e.annee.length ≤ 4
  court : e.mois.length ≤ 2
  borne : -262143 ≤ m.annee ∧ m.annee ≤ 262142

end EcritureBudget

/-- A number starts with a digit. -/
theorem exists_cons_of_digitsValue? {n : ℕ} (h : digitsValue? cs = some n) :
    ∃ c suite, cs = c :: suite ∧ c.isDigit = true := by
  have hne := (Text.digitsValue?_eq_some.1 h).1
  obtain ⟨c, suite, rfl⟩ := List.exists_cons_of_ne_nil hne
  exact ⟨c, suite, rfl, isDigit_of_digitsValue? h c List.mem_cons_self⟩

/-- Without a sign, a year is a number of four digits at most. -/
theorem lireAnnee_of_isDigit {c : Char} (hc : c.isDigit = true) :
    lireAnnee (c :: reste) = lireNombre 4 (c :: reste) := by
  have hblanc := Text.isWhitespace_of_isDigit hc
  unfold lireAnnee
  rw [List.dropWhile_cons_of_neg (by simp [hblanc])]
  split
  · rename_i heq
    obtain ⟨rfl, -⟩ := List.cons.inj heq
    cases hc
  · rename_i heq
    obtain ⟨rfl, -⟩ := List.cons.inj heq
    cases hc
  · rfl

/-- A year is read up to the dash. -/
theorem lireAnnee_append {signe : SigneAnnee} {n : ℕ} (h : digitsValue? cs = some n)
    (hlarge : signe = .aucun → cs.length ≤ 4) :
    lireAnnee (signe.texte ++ cs ++ '-' :: reste) = some (signe.applique n, '-' :: reste) := by
  have hdash : ∀ c ∈ ('-' :: reste).head?, c.isDigit = false := by
    intro c hc
    cases hc
    rfl
  have hlength : cs.length ≤ (cs ++ '-' :: reste).length := by simp
  cases signe with
  | aucun =>
      have hnombre := lireNombre_append h (hlarge rfl) (.inr hdash)
      obtain ⟨c, suite, rfl, hc⟩ := exists_cons_of_digitsValue? h
      show lireAnnee (c :: (suite ++ '-' :: reste)) = _
      rw [lireAnnee_of_isDigit hc]
      exact hnombre
  | plus =>
      have hblanc : Text.isWhitespace '+' = false := by decide
      have hnombre := lireNombre_append h hlength (.inr hdash)
      show lireAnnee ('+' :: (cs ++ '-' :: reste)) = _
      unfold lireAnnee
      rw [List.dropWhile_cons_of_neg (by simp [hblanc])]
      exact hnombre
  | moins =>
      have hblanc : Text.isWhitespace '-' = false := by decide
      have hnombre := lireNombre_append h hlength (.inr hdash)
      show lireAnnee ('-' :: (cs ++ '-' :: reste)) = _
      unfold lireAnnee
      rw [List.dropWhile_cons_of_neg (by simp [hblanc])]
      show (lireNombre _ (cs ++ '-' :: reste)).map _ = _
      rw [hnombre]
      rfl

/-- A year that is read is a sign and digits. -/
theorem lireAnnee_eq_some {a : ℤ} (hcs : ∀ c ∈ cs.head?, Text.isWhitespace c = false)
    (h : lireAnnee cs = some (a, reste)) :
    ∃ (signe : SigneAnnee) (chiffres : List Char) (n : ℕ), cs = signe.texte ++ chiffres ++ reste ∧
      digitsValue? chiffres = some n ∧ a = signe.applique n ∧
      (signe = .aucun → chiffres.length ≤ 4) := by
  have hdrop : cs.dropWhile Text.isWhitespace = cs := by
    cases cs with
    | nil => rfl
    | cons c cs => exact List.dropWhile_cons_of_neg (by simp [hcs c rfl])
  unfold lireAnnee at h
  rw [hdrop] at h
  split at h
  · rename_i suite
    obtain ⟨n, hn, rfl⟩ := by simpa using h
    obtain ⟨chiffres, k, rfl, -, hk, rfl⟩ := lireNombre_eq_some hn
    exact ⟨.moins, chiffres, k, rfl, hk, rfl, by simp⟩
  · rename_i suite
    obtain ⟨chiffres, k, rfl, -, hk, rfl⟩ := lireNombre_eq_some h
    exact ⟨.plus, chiffres, k, rfl, hk, rfl, by simp⟩
  · obtain ⟨chiffres, k, rfl, hlength, hk, rfl⟩ := lireNombre_eq_some h
    exact ⟨.aucun, chiffres, k, rfl, hk, rfl, fun _ => hlength⟩

/-- Two digits at most are read after blanks. -/
theorem lireDeuxChiffres_append {blancs : List Char} {n : ℕ}
    (hblancs : ∀ c ∈ blancs, Text.isWhitespace c = true) (h : digitsValue? cs = some n)
    (hcourt : cs.length ≤ 2) (hreste : ∀ c ∈ reste.head?, c.isDigit = false) :
    lireDeuxChiffres (blancs ++ cs ++ reste) = some ((n : ℤ), reste) := by
  obtain ⟨c, suite, hc, hdigit⟩ := exists_cons_of_digitsValue? h
  have hdrop : (blancs ++ cs ++ reste).dropWhile Text.isWhitespace = cs ++ reste := by
    rw [List.append_assoc, List.dropWhile_append_of_pos hblancs, hc, List.cons_append]
    exact List.dropWhile_cons_of_neg (by simp [Text.isWhitespace_of_isDigit hdigit])
  unfold lireDeuxChiffres
  rw [hdrop]
  exact lireNombre_append h hcourt (.inr hreste)

/-- Two digits are read behind blanks. -/
theorem lireDeuxChiffres_eq_some {n : ℤ} (h : lireDeuxChiffres cs = some (n, reste)) :
    ∃ blancs chiffres k, cs = blancs ++ chiffres ++ reste ∧
      (∀ c ∈ blancs, Text.isWhitespace c = true) ∧ chiffres.length ≤ 2 ∧
      digitsValue? chiffres = some k ∧ n = k := by
  obtain ⟨chiffres, k, hsuite, hlength, hk, rfl⟩ := lireNombre_eq_some h
  refine ⟨cs.takeWhile Text.isWhitespace, chiffres, k, ?_, ?_, hlength, hk, rfl⟩
  · rw [List.append_assoc, ← hsuite, List.takeWhile_append_dropWhile]
  · intro c hc
    exact List.mem_takeWhile_imp hc

/-- A character that is not a digit is not among digits. -/
theorem notMem_of_digitsValue? {n : ℕ} {c : Char} (h : digitsValue? cs = some n)
    (hc : c.isDigit = false) : c ∉ cs := by
  intro hmem
  have hdigit := isDigit_of_digitsValue? h c hmem
  rw [hc] at hdigit
  cases hdigit

/-- The hyphen is not among blanks and digits. -/
theorem dash_notMem_append {blancs : List Char} {n : ℕ}
    (hblancs : ∀ c ∈ blancs, Text.isWhitespace c = true) (h : digitsValue? cs = some n) :
    '-' ∉ blancs ++ cs := by
  intro hmem
  rcases List.mem_append.1 hmem with hmem | hmem
  · have hblanc := hblancs '-' hmem
    revert hblanc
    decide
  · exact notMem_of_digitsValue? h rfl hmem

/-- A trimmed text does not start with a blank. -/
theorem head?_trim {c : Char} (h : c ∈ (Text.trim v).toList.head?) :
    Text.isWhitespace c = false := by
  have htete : (Text.trim v).toList <+: (Text.trimStart v).toList := by
    have hsuffix := List.dropWhile_suffix Text.isWhitespace
      (l := (Text.trimStart v).toList.reverse)
    have hreverse := List.reverse_prefix.2 hsuffix
    rw [List.reverse_reverse] at hreverse
    unfold Text.trim Text.trimEnd
    rw [String.toList_ofList]
    exact hreverse
  have hhead : c ∈ (Text.trimStart v).toList.head? := by
    obtain ⟨suite, hsuite⟩ := htete
    rw [← hsuite, List.head?_append]
    simp [Option.mem_def.1 h]
  unfold Text.trimStart at hhead
  rw [String.toList_ofList] at hhead
  have hnot := List.head?_dropWhile_not Text.isWhitespace v.toList
  rw [Option.mem_def.1 hhead] at hnot
  simpa using hnot

/-- The hyphen is read as itself. -/
theorem lireTiret_eq_some : lireTiret cs = some reste ↔ cs = '-' :: reste := by
  constructor
  · intro h
    unfold lireTiret at h
    split at h
    · cases h
      rfl
    · cases h
  · rintro rfl
    rfl

/-- The first day of a month exists when the month does. -/
theorem exists_of_ofYmd? {a : ℤ} {k : ℕ} {d : NaiveDate} (h : Date.ofYmd? a k 1 = some d) :
    ∃ (h₁ : 1 ≤ k) (h₂ : k ≤ 12), d = Mois.premierJour ⟨a, k, h₁, h₂⟩ := by
  unfold Date.ofYmd? at h
  split at h
  · rename_i hvalide
    exact ⟨hvalide.1, hvalide.2.1, (Option.some.inj h).symm⟩
  · cases h

/-- The texts that `chrono` reads as the first day of a month. -/
theorem parseYmd?_eq_some {t : String} {d : NaiveDate}
    (hblanc : ∀ c ∈ t.toList.head?, Text.isWhitespace c = false) :
    parseYmd? (t ++ "-01") = some d ↔
      ∃ (e : EcritureBudget) (m : Mois), t.toList = e.texte ∧ e.Denote m ∧ d = m.premierJour := by
  have htexte : (t ++ "-01").toList = t.toList ++ '-' :: ['0', '1'] := by
    rw [String.toList_append]
    rfl
  constructor
  · intro h
    have hhead : ∀ c ∈ (t ++ "-01").toList.head?, Text.isWhitespace c = false := by
      intro c hc
      rw [htexte, List.head?_append] at hc
      cases hlist : t.toList with
      | nil =>
          rw [hlist] at hc
          cases hc
          decide
      | cons a suite =>
          rw [hlist] at hc
          cases hc
          exact hblanc _ (by rw [hlist]; rfl)
    unfold parseYmd? at h
    obtain ⟨⟨annee, reste₁⟩, hannee, h⟩ := Option.bind_eq_some_iff.1 h
    obtain ⟨reste₂, htiret, h⟩ := Option.bind_eq_some_iff.1 h
    obtain ⟨⟨mois, reste₃⟩, hmois, h⟩ := Option.bind_eq_some_iff.1 h
    obtain ⟨reste₄, htiret', h⟩ := Option.bind_eq_some_iff.1 h
    obtain ⟨⟨jour, reste₅⟩, hjour, hdate⟩ := Option.bind_eq_some_iff.1 h
    simp only at hannee htiret hmois htiret' hjour hdate
    obtain ⟨signe, chiffres, n, hcs, hn, rfl, hlarge⟩ := lireAnnee_eq_some hhead hannee
    obtain rfl := lireTiret_eq_some.1 htiret
    obtain ⟨blancs, deux, k, rfl, hblancs, hcourt, hk, rfl⟩ := lireDeuxChiffres_eq_some hmois
    obtain rfl := lireTiret_eq_some.1 htiret'
    obtain ⟨blancs', deux', k', rfl, hblancs', -, hk', rfl⟩ := lireDeuxChiffres_eq_some hjour
    split at hdate
    · rename_i hborne
      obtain ⟨rfl, hbas, hhaut⟩ := hborne
      -- the last dash ends the text of the month
      have hfin : '-' ∉ blancs' ++ deux' := dash_notMem_append hblancs' hk'
      have hun : '-' ∉ ['0', '1'] := by decide
      have hparts : t.toList ++ '-' :: ['0', '1'] =
          (signe.texte ++ chiffres ++ '-' :: (blancs ++ deux)) ++ '-' :: (blancs' ++ deux') := by
        rw [← htexte, hcs]
        simp
      obtain ⟨ht, hdeux⟩ := (Separators.append_cons_inj_last hun hfin).1 hparts
      have hjour : k' = 1 := by
        have hnil : blancs' = [] := by
          cases blancs' with
          | nil => rfl
          | cons c suite =>
              have hc := hblancs' c List.mem_cons_self
              have hzero : Text.isWhitespace '0' = false := by decide
              rw [← (List.cons.inj hdeux).1, hzero] at hc
              cases hc
        rw [hnil, List.nil_append] at hdeux
        rw [← hdeux] at hk'
        exact (Option.some.inj hk').symm
      subst hjour
      obtain ⟨hmin, hmax, rfl⟩ := exists_of_ofYmd? hdate
      let e : EcritureBudget := ⟨signe, chiffres, blancs, deux⟩
      refine ⟨e, ⟨signe.applique n, k, hmin, hmax⟩, ht, ?_, rfl⟩
      exact
        { annee := ⟨n, hn, rfl⟩
          mois := hk
          blancs := hblancs
          large := hlarge
          court := hcourt
          borne := ⟨hbas, hhaut⟩ }
    · cases hdate
  · rintro ⟨e, m, ht, he, rfl⟩
    obtain ⟨n, hn, hannee⟩ := he.annee
    have hlu : lireAnnee (t ++ "-01").toList =
        some (m.annee, '-' :: (e.blancs ++ e.mois ++ ['-', '0', '1'])) := by
      have htout : (t ++ "-01").toList =
          e.signe.texte ++ e.annee ++ '-' :: (e.blancs ++ e.mois ++ ['-', '0', '1']) := by
        rw [htexte, ht]
        unfold EcritureBudget.texte
        simp
      rw [htout, lireAnnee_append hn he.large, hannee]
    have hmois : lireDeuxChiffres (e.blancs ++ e.mois ++ ['-', '0', '1']) =
        some ((m.mois : ℤ), ['-', '0', '1']) := by
      apply lireDeuxChiffres_append he.blancs he.mois he.court
      intro c hc
      cases hc
      rfl
    have hjour : lireDeuxChiffres ['0', '1'] = some (1, []) := by decide
    have hdate : Date.ofYmd? m.annee m.mois 1 = some m.premierJour := by
      unfold Date.ofYmd?
      rw [dif_pos ⟨m.un_le_mois, m.mois_le, le_rfl,
        Mois.one_le_monthLength _ m.un_le_mois m.mois_le⟩]
      rfl
    unfold parseYmd?
    simp only [hlu, Option.bind_eq_bind, Option.bind_some, lireTiret, hmois, hjour, Int.toNat_natCast]
    rw [if_pos ⟨trivial, he.borne.1, he.borne.2⟩]
    exact hdate

/-- The texts that `MoisBudget::parse` accepts, and what it makes of them. -/
theorem MoisBudget.parse_eq_ok {b : MoisBudget} :
    MoisBudget.parse v = .ok b ↔ ∃ (e : EcritureBudget) (m : Mois),
      (Text.trim v).toList = e.texte ∧ e.Denote m ∧ b = ⟨m.premierJour⟩ := by
  have hiff := fun d => parseYmd?_eq_some (t := Text.trim v) (d := d) fun c hc => head?_trim hc
  unfold MoisBudget.parse
  split
  · rename_i d hd
    obtain ⟨e, m, ht, he, rfl⟩ := (hiff d).1 hd
    constructor
    · intro h
      cases h
      exact ⟨e, m, ht, he, rfl⟩
    · rintro ⟨e', m', ht', he', rfl⟩
      have hd' := (hiff m'.premierJour).2 ⟨e', m', ht', he', rfl⟩
      rw [hd] at hd'
      rw [Option.some.inj hd']
  · rename_i hd
    constructor
    · intro h
      cases h
    · rintro ⟨e', m', ht', he', rfl⟩
      have hd' := (hiff m'.premierJour).2 ⟨e', m', ht', he', rfl⟩
      rw [hd] at hd'
      cases hd'

/-! ## What the standard library reads as a month -/

/-- The digits of a number that may start with a plus. -/
def sansPlus : List Char → List Char
  | '+' :: cs => cs
  | cs => cs

/-- The two parts of a text of four characters, a dash and two characters that `Mois::parse`
reads as a month: either number may start with a plus. -/
structure EcritMois (annee mois : List Char) (m : Mois) : Prop where
  quatre : annee.length = 4
  deux : mois.length = 2
  annee : ∃ n, digitsValue? (sansPlus annee) = some n ∧ m.annee = n
  mois : digitsValue? (sansPlus mois) = some m.mois

/-- A text without its plus ends the text. -/
theorem sansPlus_suffix (cs : List Char) : sansPlus cs <:+ cs := by
  unfold sansPlus
  split
  · exact List.suffix_cons _ _
  · exact List.suffix_rfl

/-- The characters of a number are digits and, at the front, a plus. -/
theorem eq_plus_or_isDigit {n : ℕ} {c : Char} (h : digitsValue? (sansPlus cs) = some n)
    (hc : c ∈ cs) : c = '+' ∨ c.isDigit = true := by
  have hdigits := isDigit_of_digitsValue? h
  unfold sansPlus at hdigits
  split at hdigits
  · rcases List.mem_cons.1 hc with rfl | hc
    · exact .inl rfl
    · exact .inr (hdigits c hc)
  · exact .inr (hdigits c hc)

/-- Digits behind a plus are in ASCII. -/
theorem ascii_of_sansPlus {n : ℕ} (h : digitsValue? (sansPlus cs) = some n) :
    ∀ c ∈ cs, c.toNat < 128 := by
  intro c hc
  rcases eq_plus_or_isDigit h hc with rfl | hdigit
  · decide
  · simp [Char.isDigit, UInt32.le_iff_toNat_le] at hdigit
    omega

/-- The hyphen is not among digits behind a plus. -/
theorem dash_notMem_of_sansPlus {n : ℕ} (h : digitsValue? (sansPlus cs) = some n) : '-' ∉ cs := by
  intro hmem
  rcases eq_plus_or_isDigit h hmem with heq | hdigit
  · exact absurd heq (by decide)
  · exact absurd hdigit (by decide)

/-- `str::parse::<u32>`. -/
theorem parseU32?_eq (t : String) :
    Text.parseU32? t = (digitsValue? (sansPlus t.toList)).filter (· < 2 ^ 32) := by
  unfold Text.parseU32?
  simp only
  split
  · rename_i suite hsuite
    rw [hsuite]
    rfl
  · rename_i hplus
    have hsans : sansPlus t.toList = t.toList := by
      unfold sansPlus
      split
      · rename_i suite hsuite
        exact absurd hsuite (hplus suite)
      · rfl
    rw [hsans]

/-- `str::parse::<i32>`, when there is no minus sign. -/
theorem parseInt?_eq {low high : ℤ} {t : String} (h : t.toList.head? ≠ some '-') :
    Text.parseInt? low high t =
      ((digitsValue? (sansPlus t.toList)).map fun n => (n : ℤ)).filter
        fun n => low ≤ n && n ≤ high := by
  unfold Text.parseInt?
  simp only
  split
  · rename_i suite hsuite
    rw [hsuite] at h
    exact absurd rfl h
  · rename_i suite hsuite
    rw [hsuite]
    rfl
  · rename_i hmoins hplus
    have hsans : sansPlus t.toList = t.toList := by
      unfold sansPlus
      split
      · rename_i suite hsuite
        exact absurd hsuite (hplus suite)
      · rfl
    rw [hsans]

/-- The texts that `Mois::parse` accepts, and what it makes of them. -/
theorem Mois.parse_eq_ok : Mois.parse v = .ok m ↔
    ∃ a b, v.toList = a ++ '-' :: b ∧ EcritMois a b m := by
  constructor
  · intro h
    unfold Mois.parse at h
    split at h
    · cases h
    rename_i annee mois hsplit
    split at h
    · cases h
    rename_i htailles
    split at h
    · rename_i a k ha hk
      split at h
      · rename_i hplage
        have hmoins := Text.splitOnce_head? hsplit
        rw [parseInt?_eq hmoins] at ha
        obtain ⟨n, hn, rfl⟩ : ∃ n : ℕ, digitsValue? (sansPlus annee.toList) = some n ∧ (n : ℤ) = a := by
          simpa [Option.bind_eq_some_iff] using (Option.filter_eq_some_iff.1 ha).1
        rw [parseU32?_eq] at hk
        have hmois := (Option.filter_eq_some_iff.1 hk).1
        rw [Text.utf8ByteSize_of_ascii (ascii_of_sansPlus hn),
          Text.utf8ByteSize_of_ascii (ascii_of_sansPlus hmois)] at htailles
        cases h
        exact ⟨annee.toList, mois.toList, Text.toList_of_splitOnce hsplit,
          { quatre := by omega
            deux := by omega
            annee := ⟨n, hn, rfl⟩
            mois := hmois }⟩
      · cases h
    · cases h
  · rintro ⟨a, b, hv, h⟩
    obtain ⟨n, hn, hannee⟩ := h.annee
    have hsplit : Text.splitOnce '-' v = some (String.ofList a, String.ofList b) := by
      rw [← String.ofList_toList (s := v), hv]
      exact Text.splitOnce_append (dash_notMem_of_sansPlus hn)
    have hquatre : (String.ofList a).utf8ByteSize = 4 := by
      rw [Text.utf8ByteSize_of_ascii (by simpa using ascii_of_sansPlus hn), String.toList_ofList]
      exact h.quatre
    have hdeux : (String.ofList b).utf8ByteSize = 2 := by
      rw [Text.utf8ByteSize_of_ascii (by simpa using ascii_of_sansPlus h.mois),
        String.toList_ofList]
      exact h.deux
    have hborne : n < 10 ^ 4 := by
      have hlt := Text.digitsValue?_lt hn
      have hle : (sansPlus a).length ≤ 4 := h.quatre ▸ (sansPlus_suffix a).length_le
      exact hlt.trans_le (Nat.pow_le_pow_right (by decide) hle)
    have hmoins : (String.ofList a).toList.head? ≠ some '-' := by
      rw [String.toList_ofList]
      intro hhead
      exact dash_notMem_of_sansPlus hn (List.mem_of_mem_head? hhead)
    have hlu : Text.parseInt? (-2 ^ 31) (2 ^ 31 - 1) (String.ofList a) = some m.annee := by
      rw [parseInt?_eq hmoins, String.toList_ofList, hn, hannee]
      refine Option.filter_eq_some_iff.2 ⟨rfl, ?_⟩
      simp
      omega
    have hmois : Text.parseU32? (String.ofList b) = some m.mois := by
      have hle := m.mois_le
      rw [parseU32?_eq, String.toList_ofList, h.mois]
      refine Option.filter_eq_some_iff.2 ⟨rfl, ?_⟩
      simp
      omega
    unfold Mois.parse
    simp only [hsplit, hquatre, hdeux, ne_eq, not_true_eq_false, or_self, if_false, hlu, hmois]
    rw [dif_pos ⟨m.un_le_mois, m.mois_le⟩]

/-! ## The texts both readers accept -/

variable {a b : List Char}

/-- A text without a plus is whole. -/
theorem sansPlus_of_notMem (h : '+' ∉ cs) : sansPlus cs = cs := by
  unfold sansPlus
  split
  · exact absurd List.mem_cons_self h
  · rfl

/-- The parts of a month are found again around the first dash. -/
theorem EcritMois.parts_inj {a' b' : List Char} {m' : Mois} (h : EcritMois a b m)
    (h' : EcritMois a' b' m') (heq : a ++ '-' :: b = a' ++ '-' :: b') : a = a' ∧ b = b' := by
  obtain ⟨n, hn, -⟩ := h.annee
  obtain ⟨n', hn', -⟩ := h'.annee
  exact (Separators.append_cons_inj (dash_notMem_of_sansPlus hn)
    (dash_notMem_of_sansPlus hn')).1 heq

/-- A budget month that is not one of a year of four characters and a month of two digits. -/
def EcritureBudget.HorsFormat (e : EcritureBudget) : Prop :=
  e.signe = .moins ∨ (e.signe.texte ++ e.annee).length ≠ 4 ∨ e.blancs ≠ [] ∨ e.mois.length ≠ 2

/-- The library reads a month whose own number has no plus. -/
theorem EcritMois.exists_ecritureBudget (h : EcritMois a b m) (hplus : '+' ∉ b) :
    ∃ e : EcritureBudget, a ++ '-' :: b = e.texte ∧ e.Denote m := by
  obtain ⟨n, hn, hannee⟩ := h.annee
  have hmois := h.mois
  rw [sansPlus_of_notMem hplus] at hmois
  have hlt := Text.digitsValue?_lt hn
  have hle : (sansPlus a).length ≤ 4 := h.quatre ▸ (sansPlus_suffix a).length_le
  have hpow : 10 ^ (sansPlus a).length ≤ 10 ^ 4 := Nat.pow_le_pow_right (by decide) hle
  have hborne : -262143 ≤ m.annee ∧ m.annee ≤ 262142 := by omega
  have hcourt : b.length ≤ 2 := h.deux.le
  unfold sansPlus at hn
  split at hn
  · rename_i suite
    refine ⟨⟨.plus, suite, [], b⟩, rfl, ?_⟩
    exact
      { annee := ⟨n, hn, hannee⟩
        mois := hmois
        blancs := by simp
        large := by simp
        court := hcourt
        borne := hborne }
  · refine ⟨⟨.aucun, a, [], b⟩, rfl, ?_⟩
    exact
      { annee := ⟨n, hn, hannee⟩
        mois := hmois
        blancs := by simp
        large := fun _ => h.quatre.le
        court := hcourt
        borne := hborne }

/-- Conversely, in the format. -/
theorem EcritureBudget.Denote.exists_ecritMois {e : EcritureBudget} (h : e.Denote m)
    (hformat : ¬ e.HorsFormat) : ∃ a b, e.texte = a ++ '-' :: b ∧ EcritMois a b m := by
  obtain ⟨hsigne, hquatre, hblancs, hdeux⟩ :
      e.signe ≠ .moins ∧ (e.signe.texte ++ e.annee).length = 4 ∧ e.blancs = [] ∧
        e.mois.length = 2 := by
    unfold EcritureBudget.HorsFormat at hformat
    simpa only [not_or, not_not] using hformat
  obtain ⟨n, hn, hannee⟩ := h.annee
  have hsans : sansPlus (e.signe.texte ++ e.annee) = e.annee ∧ e.signe.applique n = n := by
    cases hs : e.signe with
    | aucun => exact ⟨sansPlus_of_notMem (notMem_of_digitsValue? hn rfl), rfl⟩
    | plus => exact ⟨rfl, rfl⟩
    | moins => exact absurd hs hsigne
  refine ⟨e.signe.texte ++ e.annee, e.mois, ?_, ?_⟩
  · unfold EcritureBudget.texte
    rw [hblancs, List.nil_append]
  · exact
      { quatre := hquatre
        deux := hdeux
        annee := ⟨n, by rw [hsans.1, hn], by rw [hannee, hsans.2]⟩
        mois := by
          rw [sansPlus_of_notMem (notMem_of_digitsValue? h.mois rfl)]
          exact h.mois }

/-- A text that both readers accept is in the format, and denotes one month. -/
theorem EcritMois.inj_denote {e : EcritureBudget} {m' : Mois} (h : EcritMois a b m)
    (he : e.Denote m') (heq : a ++ '-' :: b = e.texte) :
    ¬ e.HorsFormat ∧ '+' ∉ b ∧ m = m' := by
  obtain ⟨n, hn, hannee⟩ := h.annee
  obtain ⟨k, hk, hannee'⟩ := he.annee
  have hdash := dash_notMem_of_sansPlus hn
  have hchiffres : ∀ c ∈ e.annee, c.isDigit = true := isDigit_of_digitsValue? hk
  have hsigne : e.signe ≠ .moins := by
    intro hmoins
    have hvide : a ++ '-' :: b = [] ++ '-' :: (e.annee ++ '-' :: (e.blancs ++ e.mois)) := by
      rw [heq]
      unfold EcritureBudget.texte
      rw [hmoins]
      rfl
    obtain ⟨rfl, -⟩ := (Separators.append_cons_inj hdash (by simp)).1 hvide
    have hquatre := h.quatre
    cases hquatre
  have hdash' : '-' ∉ e.signe.texte ++ e.annee := by
    intro hmem
    rcases List.mem_append.1 hmem with hmem | hmem
    · cases hs : e.signe with
      | aucun =>
          rw [hs] at hmem
          cases hmem
      | plus =>
          rw [hs] at hmem
          exact absurd hmem (by decide)
      | moins => exact hsigne hs
    · exact notMem_of_digitsValue? hk rfl hmem
  obtain ⟨rfl, rfl⟩ := (Separators.append_cons_inj hdash hdash').1 heq
  have hblancs : e.blancs = [] := by
    cases hs : e.blancs with
    | nil => rfl
    | cons c suite =>
        have hblanc := he.blancs c (by simp [hs])
        rcases eq_plus_or_isDigit h.mois (c := c) (by simp [hs]) with rfl | hdigit
        · exact absurd hblanc (by decide)
        · rw [Text.isWhitespace_of_isDigit hdigit] at hblanc
          cases hblanc
  have hplus : '+' ∉ e.blancs ++ e.mois := by
    rw [hblancs, List.nil_append]
    exact notMem_of_digitsValue? he.mois rfl
  have hdeux := h.deux
  have hmois := h.mois
  rw [sansPlus_of_notMem hplus, hblancs, List.nil_append, he.mois] at hmois
  rw [hblancs, List.nil_append] at hdeux
  have hvaleur : m.annee = m'.annee := by
    rw [hannee, hannee']
    cases hs : e.signe with
    | aucun =>
        rw [hs, SigneAnnee.texte, List.nil_append,
          sansPlus_of_notMem (notMem_of_digitsValue? hk rfl), hk] at hn
        rw [Option.some.inj hn]
        rfl
    | plus =>
        rw [hs] at hn
        have hmeme : digitsValue? e.annee = some n := hn
        rw [hk] at hmeme
        rw [Option.some.inj hmeme]
        rfl
    | moins => exact absurd hs hsigne
  refine ⟨?_, hplus, Mois.ext hvaleur (Option.some.inj hmois).symm⟩
  rintro (hmoins | hquatre | hnon | hlong)
  · exact hsigne hmoins
  · exact hquatre h.quatre
  · exact hnon hblancs
  · exact hlong hdeux

/-! ## One format -/

/-- Four digits, a dash and two digits, from 01 to 12. -/
def Canonique (t : String) : Prop :=
  ∃ a b k, t.toList = a ++ '-' :: b ∧ a.length = 4 ∧ (∀ c ∈ a, c.isDigit = true) ∧
    b.length = 2 ∧ digitsValue? b = some k ∧ 1 ≤ k ∧ k ≤ 12

/-- A month of four and two characters, one of which is a plus. -/
def AvecPlus (t : String) : Prop :=
  ∃ a b m, t.toList = a ++ '-' :: b ∧ EcritMois a b m ∧ '+' ∈ a ++ b

/-- The plus is in the number of the month. -/
def MoisAvecPlus (t : String) : Prop :=
  ∃ a b m, t.toList = a ++ '-' :: b ∧ EcritMois a b m ∧ '+' ∈ b

/-- A month that `chrono` reads in another width, signed with a minus or after blanks. -/
def HorsFormat (t : String) : Prop :=
  ∃ (e : EcritureBudget) (m : Mois), t.toList = e.texte ∧ e.Denote m ∧ e.HorsFormat

/-- The two readers agree on a text, in the format `YYYY-MM`. -/
structure MemeFormat (v : String) : Prop where
  accepte : (∃ m, Mois.parse v = .ok m) ↔ Canonique v
  affiche : ∀ m, Mois.parse v = .ok m → m.toText = v
  budget : (∃ b, MoisBudget.parse v = .ok b) ↔ ∃ m, Mois.parse (Text.trim v) = .ok m
  jour : ∀ b m, MoisBudget.parse v = .ok b → Mois.parse (Text.trim v) = .ok m →
    b.premierJour = m.premierJour

/-- A canonical text is written without a plus. -/
theorem Canonique.exists_ecritMois {t : String} (h : Canonique t) :
    ∃ a b m, t.toList = a ++ '-' :: b ∧ EcritMois a b m ∧ '+' ∉ a ++ b := by
  obtain ⟨a, b, k, ht, hquatre, hchiffres, hdeux, hk, hmin, hmax⟩ := h
  have hne : a ≠ [] := by
    intro hvide
    rw [hvide] at hquatre
    cases hquatre
  have hn := Text.digitsValue?_eq_some.2 ⟨hne, List.all_eq_true.2 hchiffres, rfl⟩
  have hannee : '+' ∉ a := notMem_of_digitsValue? hn rfl
  have hmois : '+' ∉ b := notMem_of_digitsValue? hk rfl
  let annee : ℤ := Nat.ofDigitChars 10 a 0
  refine ⟨a, b, ⟨annee, k, hmin, hmax⟩, ht, ?_, by simp [hannee, hmois]⟩
  exact
    { quatre := hquatre
      deux := hdeux
      annee := ⟨_, by rw [sansPlus_of_notMem hannee]; exact hn, rfl⟩
      mois := by rw [sansPlus_of_notMem hmois, hk] }

/-- A text written without a plus is canonical. -/
theorem EcritMois.canonique {t : String} (h : EcritMois a b m) (ht : t.toList = a ++ '-' :: b)
    (hplus : '+' ∉ a ++ b) : Canonique t := by
  rw [List.mem_append, not_or] at hplus
  obtain ⟨n, hn, -⟩ := h.annee
  have hmois := h.mois
  rw [sansPlus_of_notMem hplus.1] at hn
  rw [sansPlus_of_notMem hplus.2] at hmois
  exact ⟨a, b, m.mois, ht, h.quatre, isDigit_of_digitsValue? hn, h.deux, hmois, m.un_le_mois,
    m.mois_le⟩

/-- A month in the format is displayed as its text. -/
theorem EcritMois.toText_eq {t : String} (h : EcritMois a b m) (ht : t.toList = a ++ '-' :: b)
    (hplus : '+' ∉ a ++ b) : m.toText = t := by
  rw [List.mem_append, not_or] at hplus
  obtain ⟨n, hn, hannee⟩ := h.annee
  have hmois := h.mois
  rw [sansPlus_of_notMem hplus.1] at hn
  rw [sansPlus_of_notMem hplus.2] at hmois
  have ha := Text.leftpad_toDigits hn
  have hb := Text.leftpad_toDigits hmois
  rw [h.quatre] at ha
  rw [h.deux] at hb
  have hzeros : Mois.zerosDevant 4 (n : ℤ) = String.ofList a := by
    unfold Mois.zerosDevant
    rw [if_neg (by omega), Int.natAbs_natCast, ha]
  have hzeros' : Mois.zerosDevant 2 (m.mois : ℤ) = String.ofList b := by
    unfold Mois.zerosDevant
    rw [if_neg (by omega), Int.natAbs_natCast, hb]
  unfold Mois.toText
  rw [hannee, hzeros, hzeros']
  apply String.toList_inj.1
  rw [ht]
  simp

/-- `Mois::parse` accepts the canonical texts, but for those with a plus. -/
theorem accepte_iff : ((∃ m, Mois.parse v = .ok m) ↔ Canonique v) ↔ ¬ AvecPlus v := by
  constructor
  · rintro haccepte ⟨a, b, m, ht, h, hplus⟩
    have hcanonique := haccepte.1 ⟨m, Mois.parse_eq_ok.2 ⟨a, b, ht, h⟩⟩
    obtain ⟨a', b', m', ht', h', hsans⟩ := hcanonique.exists_ecritMois
    obtain ⟨rfl, rfl⟩ := h.parts_inj h' (ht.symm.trans ht')
    exact hsans hplus
  · intro hplus
    constructor
    · rintro ⟨m, hm⟩
      obtain ⟨a, b, ht, h⟩ := Mois.parse_eq_ok.1 hm
      exact h.canonique ht fun hmem => hplus ⟨a, b, m, ht, h, hmem⟩
    · intro hcanonique
      obtain ⟨a, b, m, ht, h, -⟩ := hcanonique.exists_ecritMois
      exact ⟨m, Mois.parse_eq_ok.2 ⟨a, b, ht, h⟩⟩

/-- The two parsers accept the same texts, but for a plus in the month and for what has not the
format. -/
theorem budget_iff :
    ((∃ b, MoisBudget.parse v = .ok b) ↔ ∃ m, Mois.parse (Text.trim v) = .ok m) ↔
      ¬ MoisAvecPlus (Text.trim v) ∧ ¬ HorsFormat (Text.trim v) := by
  constructor
  · intro hbudget
    constructor
    · rintro ⟨a, b, m, ht, h, hplus⟩
      obtain ⟨d, hd⟩ := hbudget.2 ⟨m, Mois.parse_eq_ok.2 ⟨a, b, ht, h⟩⟩
      obtain ⟨e, m', ht', he, -⟩ := MoisBudget.parse_eq_ok.1 hd
      exact (h.inj_denote he (ht.symm.trans ht')).2.1 hplus
    · rintro ⟨e, m, ht, he, hhors⟩
      obtain ⟨m', hm'⟩ := hbudget.1 ⟨_, MoisBudget.parse_eq_ok.2 ⟨e, m, ht, he, rfl⟩⟩
      obtain ⟨a, b, ht', h⟩ := Mois.parse_eq_ok.1 hm'
      exact (h.inj_denote he (ht'.symm.trans ht)).1 hhors
  · rintro ⟨hplus, hhors⟩
    constructor
    · rintro ⟨d, hd⟩
      obtain ⟨e, m, ht, he, -⟩ := MoisBudget.parse_eq_ok.1 hd
      obtain ⟨a, b, ht', h⟩ := he.exists_ecritMois fun hors => hhors ⟨e, m, ht, he, hors⟩
      exact ⟨m, Mois.parse_eq_ok.2 ⟨a, b, ht.trans ht', h⟩⟩
    · rintro ⟨m, hm⟩
      obtain ⟨a, b, ht, h⟩ := Mois.parse_eq_ok.1 hm
      obtain ⟨e, he, hdenote⟩ :=
        h.exists_ecritureBudget fun hmem => hplus ⟨a, b, m, ht, h, hmem⟩
      exact ⟨_, MoisBudget.parse_eq_ok.2 ⟨e, m, ht.trans he, hdenote, rfl⟩⟩

/-- They give the same first day. -/
theorem premierJour_eq {d : MoisBudget} (hd : MoisBudget.parse v = .ok d)
    (hm : Mois.parse (Text.trim v) = .ok m) : d.premierJour = m.premierJour := by
  obtain ⟨e, m', ht, he, rfl⟩ := MoisBudget.parse_eq_ok.1 hd
  obtain ⟨a, b, ht', h⟩ := Mois.parse_eq_ok.1 hm
  rw [(h.inj_denote he (ht'.symm.trans ht)).2.2]

/-- The readers agree on a text exactly when it is not a month with a plus, nor, once trimmed, a
month whose number has a plus or that only `chrono` reads. -/
theorem memeFormat_iff (v : String) :
    MemeFormat v ↔
      ¬ AvecPlus v ∧ ¬ MoisAvecPlus (Text.trim v) ∧ ¬ HorsFormat (Text.trim v) := by
  constructor
  · intro h
    exact ⟨accepte_iff.1 h.accepte, budget_iff.1 h.budget⟩
  · rintro ⟨hplus, hbudget⟩
    refine
      { accepte := accepte_iff.2 hplus
        affiche := ?_
        budget := budget_iff.2 hbudget
        jour := fun d m hd hm => premierJour_eq hd hm }
    intro m hm
    obtain ⟨a, b, ht, h⟩ := Mois.parse_eq_ok.1 hm
    exact h.toText_eq ht fun hmem => hplus ⟨a, b, m, ht, h, hmem⟩

/-- A budget is saved for a month that cannot be read back, and a year with a plus is read as
another text. -/
theorem not_memeFormat : ¬ MemeFormat "2024-1" ∧ ¬ MemeFormat "+123-01" := by
  constructor
  · intro h
    have hbudget : (MoisBudget.parse "2024-1").isOk = true := by decide
    have hrefuse : (Mois.parse (Text.trim "2024-1")).isOk = false := by decide
    cases hd : MoisBudget.parse "2024-1" with
    | error e =>
        rw [hd] at hbudget
        cases hbudget
    | ok d =>
        obtain ⟨m, hm⟩ := h.budget.1 ⟨d, hd⟩
        rw [hm] at hrefuse
        cases hrefuse
  · intro h
    have hlu : (Mois.parse "+123-01").map Mois.toText = .ok "0123-01" := by decide
    cases hm : Mois.parse "+123-01" with
    | error e =>
        rw [hm] at hlu
        cases hlu
    | ok m =>
        have htexte := h.affiche m hm
        rw [hm, Except.map, htexte] at hlu
        exact absurd (Except.ok.inj hlu) (by decide)

end Budgy
