import Mathlib.Data.List.TakeWhile
import Budgy.Interface.Decimals
import Budgy.Interface.Separators
import Budgy.Model.EnableBanking

/-!
# The amounts the bank writes

`montant_en_centimes` against the exact value of the decimal text.  The text is
read exactly, but the integer part is multiplied by one hundred without a check:
between the largest amount and the largest integer part that can be read, the
computation wraps.
-/

set_option autoImplicit false

namespace Budgy

open EnableBanking

/-- The sign of a decimal text, which may be left out. -/
inductive Signe
  | aucun
  | plus
  | moins
  deriving DecidableEq

/-- A well-formed decimal text: a sign, digits, perhaps a point and digits. -/
structure TexteDecimal where
  signe : Signe
  entiers : List Char
  decimales : Option (List Char)
  chiffres : (entiers ++ decimales.getD []).all Char.isDigit = true
  nonVide : entiers ++ decimales.getD [] ≠ []

namespace TexteDecimal

variable (t : TexteDecimal)

/-- The sign as it is written. -/
def caracteresSigne : List Char :=
  match t.signe with
  | .aucun => []
  | .plus => ['+']
  | .moins => ['-']

/-- The text behind the sign. -/
def caracteresChiffres : List Char :=
  match t.decimales with
  | none => t.entiers
  | some ds => t.entiers ++ '.' :: ds

/-- The text of a decimal number. -/
def texte : String := String.ofList (t.caracteresSigne ++ t.caracteresChiffres)

/-- The number in front of the point. -/
def partieEntiere : ℕ := Nat.ofDigitChars 10 t.entiers 0

/-- The exact value of the text. -/
def valeur : ℚ :=
  let absolue : ℚ := t.partieEntiere + Decimals.fraction (t.decimales.getD [])
  if t.signe = .moins then -absolue else absolue

/-- The exact amount in cents, rounded half away from zero. -/
def centimes : ℤ := Decimals.roundAway (100 * t.valeur)

/-- The same digits under the other sign. -/
def Oppose (t' : TexteDecimal) : Prop :=
  t'.entiers = t.entiers ∧ t'.decimales = t.decimales ∧ (t'.signe = .moins ↔ t.signe ≠ .moins)

end TexteDecimal

/-! ## The operands of the computation -/

/-- What `montant_en_centimes` reads before it computes: the sign, the integer part and
the rounded decimals. -/
def operandes (montant : MontantWire) : Except BankDataSourceError (ℤ × ℤ × ℤ) := do
  let texte := Text.trim montant.amount
  let (signe, chiffres) : ℤ × String := match Text.stripPrefix? "-" texte with
    | some reste => (-1, reste)
    | none => (1, (Text.stripPrefix? "+" texte).getD texte)
  let (entiers, decimales) := (Text.splitOnce '.' chiffres).getD (chiffres, "")
  let centimesDecimaux ← centimesArrondis decimales
  let entiers ← if entiers = "" then pure 0 else parserEntier entiers
  return (signe, entiers, centimesDecimaux)

/-- The text without its first sign. -/
def sansSigne (texte : String) : String :=
  match Text.stripPrefix? "-" texte with
  | some reste => reste
  | none => (Text.stripPrefix? "+" texte).getD texte

/-- The factor that the first sign stands for. -/
def facteurLu (texte : String) : ℤ := if (Text.stripPrefix? "-" texte).isSome then -1 else 1

/-- What is read once the sign is taken off: the integer part and the rounded decimals. -/
def lireChiffres (chiffres : String) : Except BankDataSourceError (ℤ × ℤ) := do
  let (entiers, decimales) := (Text.splitOnce '.' chiffres).getD (chiffres, "")
  let centimesDecimaux ← centimesArrondis decimales
  let entiers ← if entiers = "" then pure 0 else parserEntier entiers
  return (entiers, centimesDecimaux)

/-- What is computed from the integer part and the decimals is computed once they are read. -/
private theorem map_lecture {α : Type} (f : ℤ → ℤ → α) (entiers decimales : String) :
    (do
      let centimes ← centimesArrondis decimales
      let n ← if entiers = "" then pure 0 else parserEntier entiers
      return f n centimes) =
    (do
      let centimes ← centimesArrondis decimales
      let n ← if entiers = "" then pure 0 else parserEntier entiers
      return (n, centimes) : Except BankDataSourceError (ℤ × ℤ)).map fun lu => f lu.1 lu.2 := by
  cases centimesArrondis decimales with
  | error e => rfl
  | ok c =>
      by_cases hvide : entiers = ""
      · simp [hvide, bind, Except.bind, pure, Except.pure, Except.map]
      · cases parserEntier entiers with
        | error e => simp [hvide, bind, Except.bind, Except.map]
        | ok n => simp [hvide, bind, Except.bind, pure, Except.pure, Except.map]

/-- The operands are the factor of the sign and what is read behind it. -/
theorem operandes_lire (montant : MontantWire) :
    operandes montant = (lireChiffres (sansSigne (Text.trim montant.amount))).map fun lu =>
      (facteurLu (Text.trim montant.amount), lu.1, lu.2) := by
  unfold operandes sansSigne facteurLu lireChiffres
  simp only
  cases Text.stripPrefix? "-" (Text.trim montant.amount) with
  | none =>
      simp only [Option.isSome_none, Bool.false_eq_true, if_false]
      exact map_lecture (fun n c => ((1 : ℤ), n, c)) _ _
  | some reste =>
      simp only [Option.isSome_some, if_true]
      exact map_lecture (fun n c => ((-1 : ℤ), n, c)) _ _

/-- So is the amount, but for what it makes of them. -/
theorem montantEnCentimes_lire (montant : MontantWire) :
    montantEnCentimes montant =
      (lireChiffres (sansSigne (Text.trim montant.amount))).map fun lu =>
        i64 (facteurLu (Text.trim montant.amount) * i64 (i64 (lu.1 * 100) + lu.2)) := by
  unfold montantEnCentimes sansSigne facteurLu lireChiffres
  simp only
  cases Text.stripPrefix? "-" (Text.trim montant.amount) with
  | none =>
      simp only [Option.isSome_none, Bool.false_eq_true, if_false]
      exact map_lecture (fun n c => i64 (1 * i64 (i64 (n * 100) + c))) _ _
  | some reste =>
      simp only [Option.isSome_some, if_true]
      exact map_lecture (fun n c => i64 (-1 * i64 (i64 (n * 100) + c))) _ _

/-- The amount is computed from its operands. -/
theorem montantEnCentimes_eq (montant : MontantWire) :
    montantEnCentimes montant = (operandes montant).map fun o =>
      i64 (o.1 * i64 (i64 (o.2.1 * 100) + o.2.2)) := by
  rw [montantEnCentimes_lire, operandes_lire]
  cases lireChiffres (sansSigne (Text.trim montant.amount)) with
  | error e => rfl
  | ok lu => simp only [Except.map]

/-- No step of the computation leaves the range of the integers. -/
def SansRepli (montant : MontantWire) : Prop :=
  ∀ signe entiers centimes : ℤ, operandes montant = .ok (signe, entiers, centimes) →
    EstI64 (entiers * 100) ∧ EstI64 (entiers * 100 + centimes) ∧
      EstI64 (signe * (entiers * 100 + centimes))

/-! ## Reading the text -/

/-- Behind a sign, what is read is the rest. -/
theorem sansSigne_cons {c : Char} {cs : List Char} (hc : c = '+' ∨ c = '-') :
    sansSigne (String.ofList (c :: cs)) = String.ofList cs := by
  have htiret := Text.stripPrefix?_singleton '-' (c :: cs)
  have hcroix := Text.stripPrefix?_singleton '+' (c :: cs)
  unfold sansSigne
  rcases hc with rfl | rfl
  · rw [show Text.stripPrefix? "-" (String.ofList ('+' :: cs)) = none from htiret,
      show Text.stripPrefix? "+" (String.ofList ('+' :: cs)) = some (String.ofList cs) from hcroix]
    rfl
  · rw [show Text.stripPrefix? "-" (String.ofList ('-' :: cs)) = some (String.ofList cs) from htiret]

/-- Without a sign, it is the whole text. -/
theorem sansSigne_of_head? {cs : List Char} (hplus : cs.head? ≠ some '+')
    (hmoins : cs.head? ≠ some '-') : sansSigne (String.ofList cs) = String.ofList cs := by
  have htiret : Text.stripPrefix? "-" (String.ofList cs) = none :=
    (Text.stripPrefix?_singleton '-' cs).trans (if_neg hmoins)
  have hcroix : Text.stripPrefix? "+" (String.ofList cs) = none :=
    (Text.stripPrefix?_singleton '+' cs).trans (if_neg hplus)
  unfold sansSigne
  rw [htiret, hcroix]
  rfl

/-- The point and the decimals, when there are any. -/
def pointe : Option (List Char) → List Char
  | none => []
  | some ds => '.' :: ds

/-- The parts around the point. -/
theorem splitOnce_pointe {a : List Char} (ha : '.' ∉ a) (ds : Option (List Char)) :
    (Text.splitOnce '.' (String.ofList (a ++ pointe ds))).getD
      (String.ofList (a ++ pointe ds), "") =
        (String.ofList a, String.ofList (ds.getD [])) := by
  cases ds with
  | some ds =>
      unfold pointe
      simp only
      rw [Text.splitOnce_append ha]
      rfl
  | none =>
      have hnone : Text.splitOnce '.' (String.ofList a) = none := by
        have hdrop : a.dropWhile (fun c => decide (c ≠ '.')) = [] := by
          refine List.dropWhile_eq_nil_iff.2 fun c hc => ?_
          have hne : c ≠ '.' := fun heq => ha (heq ▸ hc)
          simpa using hne
        unfold Text.splitOnce
        simp only [String.toList_ofList, hdrop]
      unfold pointe
      rw [List.append_nil, hnone]
      rfl

namespace TexteDecimal

variable (t : TexteDecimal)

/-- The integer part is made of digits. -/
theorem entiers_isDigit : t.entiers.all Char.isDigit = true := by
  have h := t.chiffres
  rw [List.all_append, Bool.and_eq_true] at h
  exact h.1

/-- So are the decimals. -/
theorem decimales_isDigit : (t.decimales.getD []).all Char.isDigit = true := by
  have h := t.chiffres
  rw [List.all_append, Bool.and_eq_true] at h
  exact h.2

/-- The point is not in the integer part. -/
theorem point_notMem_entiers : '.' ∉ t.entiers :=
  fun h => absurd (List.all_eq_true.1 t.entiers_isDigit '.' h) (by decide)

/-- The digits, with their point. -/
theorem caracteresChiffres_eq : t.caracteresChiffres = t.entiers ++ pointe t.decimales := by
  unfold caracteresChiffres pointe
  cases t.decimales with
  | none => rw [List.append_nil]
  | some ds => rfl

/-- The sign as a factor. -/
def facteur : ℤ := if t.signe = .moins then -1 else 1

/-- The cents behind the point, rounded by the third decimal. -/
def centimesDecimaux : ℕ :=
  let ds := t.decimales.getD []
  10 * Decimals.digitAt ds 0 + Decimals.digitAt ds 1 + if 5 ≤ Decimals.digitAt ds 2 then 1 else 0

/-- The exact amount, from the parts that are read. -/
theorem centimes_eq : t.centimes = t.facteur * (t.partieEntiere * 100 + t.centimesDecimaux) := by
  have habs := Decimals.round_hundredths t.partieEntiere t.decimales_isDigit
  have hnonneg : (0 : ℚ) ≤ 100 * (t.partieEntiere + Decimals.fraction (t.decimales.getD [])) := by
    have hp : (0 : ℚ) ≤ (t.partieEntiere : ℚ) := Nat.cast_nonneg _
    have hf := Decimals.fraction_nonneg (t.decimales.getD [])
    linarith
  have haway := Decimals.roundAway_of_nonneg hnonneg
  have hcents : round (100 * ((t.partieEntiere : ℚ) + Decimals.fraction (t.decimales.getD []))) =
      (t.partieEntiere : ℤ) * 100 + t.centimesDecimaux := by
    rw [habs]
    unfold centimesDecimaux
    push_cast
    ring
  unfold centimes valeur facteur
  simp only
  split
  · rw [mul_neg, Decimals.roundAway_neg, haway, hcents]
    ring
  · rw [haway, hcents]
    ring

/-- There is nothing to trim. -/
theorem trim_texte : Text.trim t.texte = t.texte := by
  apply Text.trim_eq_self
  intro c hc
  have hmem : c ∈ t.caracteresSigne ∨ c ∈ t.caracteresChiffres := by
    simpa [texte] using hc
  rcases hmem with h | h
  · have hsigne : c = '+' ∨ c = '-' := by
      unfold caracteresSigne at h
      cases hs : t.signe <;> simp [hs] at h <;> simp [h]
    rcases hsigne with rfl | rfl <;> decide
  · have hchiffre : c = '.' ∨ c ∈ t.entiers ++ t.decimales.getD [] := by
      unfold caracteresChiffres at h
      cases hd : t.decimales with
      | none =>
          rw [hd] at h
          exact .inr (List.mem_append_left _ h)
      | some ds =>
          rw [hd] at h
          simp only [List.mem_append, List.mem_cons] at h
          rcases h with h | rfl | h
          · exact .inr (List.mem_append_left _ h)
          · exact .inl rfl
          · exact .inr (List.mem_append_right _ h)
    rcases hchiffre with rfl | h
    · decide
    · exact Text.isWhitespace_of_isDigit (List.all_eq_true.1 t.chiffres c h)

/-- The digits do not start with a sign. -/
theorem head?_caracteresChiffres {a : Char} (hdigit : a.isDigit = false) (hpoint : a ≠ '.') :
    t.caracteresChiffres.head? ≠ some a := by
  intro h
  have hmem : ∀ ds : List Char, t.entiers ++ ds = a :: (t.entiers ++ ds).tail →
      ds.head? ≠ some a → False := by
    intro ds heq hds
    cases hent : t.entiers with
    | nil =>
        rw [hent, List.nil_append] at heq
        exact hds (by rw [heq]; rfl)
    | cons e es =>
        rw [hent, List.cons_append, List.cons.injEq] at heq
        have he := List.all_eq_true.1 t.entiers_isDigit e (by simp [hent])
        rw [heq.1, hdigit] at he
        exact absurd he (by simp)
  unfold caracteresChiffres at h
  cases hd : t.decimales with
  | none =>
      simp only [hd] at h
      apply hmem [] _ (by simp)
      rw [List.append_nil]
      exact (List.eq_cons_of_mem_head? h)
  | some ds =>
      simp only [hd] at h
      apply hmem ('.' :: ds) (List.eq_cons_of_mem_head? h)
      simpa using Ne.symm hpoint

/-- The decimals of the text are rounded to cents. -/
private theorem centimesArrondis_decimales :
    centimesArrondis (String.ofList (t.decimales.getD [])) = .ok t.centimesDecimaux := by
  have hdigits := t.decimales_isDigit
  generalize hds : t.decimales.getD [] = ds at hdigits
  have hchiffre : ∀ i : ℕ, ((ds[i]?).map fun c => (c.toNat : ℤ) - 48).getD 0 =
      (Decimals.digitAt ds i : ℤ) := by
    intro i
    unfold Decimals.digitAt
    cases hi : ds[i]? with
    | none => rfl
    | some c =>
        have hc := List.all_eq_true.1 hdigits c (List.mem_of_getElem? hi)
        simp [Char.isDigit, UInt32.le_iff_toNat_le] at hc
        simp
        omega
  have hall : ¬ (ds.any fun c => !c.isDigit) = true := by
    simpa using hdigits
  unfold centimesArrondis centimesDecimaux
  simp only [hds, String.toList_ofList, hall, hchiffre, if_false, Bool.false_eq_true]
  apply congrArg Except.ok
  by_cases h5 : 5 ≤ Decimals.digitAt ds 2
  · simp [h5, mul_comm]
  · simp [h5, mul_comm]

/-- The integer part of the text is read when it is in range. -/
private theorem parserEntier_entiers (h : t.entiers ≠ []) :
    parserEntier (String.ofList t.entiers) =
      if (t.partieEntiere : ℤ) ≤ i64Max then .ok (t.partieEntiere : ℤ)
      else .error (.reponseInvalide ("montant illisible : " ++ String.ofList t.entiers)) := by
  have hvalue : Text.digitsValue? (String.ofList t.entiers).toList = some t.partieEntiere := by
    rw [String.toList_ofList]
    exact Text.digitsValue?_eq_some.2 ⟨h, t.entiers_isDigit, rfl⟩
  have hmin : i64Min ≤ (t.partieEntiere : ℤ) := by
    unfold i64Min
    omega
  unfold parserEntier
  rw [Text.parseInt?_of_digits hvalue]
  by_cases hmax : (t.partieEntiere : ℤ) ≤ i64Max
  · simp [Option.filter, hmin, hmax]
  · simp [Option.filter, hmin, hmax]

/-- What is read of the digits: their parts, unless the integer part is out of range. -/
theorem lireChiffres_caracteresChiffres :
    lireChiffres (String.ofList t.caracteresChiffres) =
      if (t.partieEntiere : ℤ) ≤ i64Max then .ok (t.partieEntiere, t.centimesDecimaux)
      else .error (.reponseInvalide ("montant illisible : " ++ String.ofList t.entiers)) := by
  unfold lireChiffres
  rw [t.caracteresChiffres_eq, splitOnce_pointe t.point_notMem_entiers]
  simp only [t.centimesArrondis_decimales]
  by_cases hvide : t.entiers = []
  · have hzero : t.partieEntiere = 0 := by simp [partieEntiere, hvide]
    simp [hvide, hzero, i64Max, bind, Except.bind, pure, Except.pure]
  · have hne : String.ofList t.entiers ≠ "" := fun h => hvide (by simpa using h)
    by_cases hmax : (t.partieEntiere : ℤ) ≤ i64Max
    · simp [hne, t.parserEntier_entiers hvide, hmax, bind, Except.bind, pure, Except.pure]
    · simp [hne, t.parserEntier_entiers hvide, hmax, bind, Except.bind]

/-- Behind its sign, a decimal text is its digits. -/
theorem sansSigne_texte : sansSigne t.texte = String.ofList t.caracteresChiffres := by
  unfold texte caracteresSigne
  cases t.signe with
  | aucun =>
      exact sansSigne_of_head? (t.head?_caracteresChiffres rfl (by decide))
        (t.head?_caracteresChiffres rfl (by decide))
  | plus => exact sansSigne_cons (.inl rfl)
  | moins => exact sansSigne_cons (.inr rfl)

/-- The factor is that of its sign. -/
theorem facteurLu_texte : facteurLu t.texte = t.facteur := by
  have htiret := Text.stripPrefix?_singleton '-' (t.caracteresSigne ++ t.caracteresChiffres)
  have hmoins := t.head?_caracteresChiffres (a := '-') rfl (by decide)
  unfold facteurLu facteur
  rw [texte, show Text.stripPrefix? "-" _ = _ from htiret]
  unfold caracteresSigne
  cases t.signe with
  | aucun => simp [hmoins]
  | plus => simp
  | moins => simp

/-- What is read of a text: its parts, unless the integer part is out of range. -/
theorem operandes_texte (currency : String) :
    operandes ⟨t.texte, currency⟩ =
      if (t.partieEntiere : ℤ) ≤ i64Max then
        .ok (t.facteur, t.partieEntiere, t.centimesDecimaux)
      else .error (.reponseInvalide ("montant illisible : " ++ String.ofList t.entiers)) := by
  rw [operandes_lire, t.trim_texte, t.sansSigne_texte, t.facteurLu_texte,
    t.lireChiffres_caracteresChiffres]
  split
  · rfl
  · rfl

end TexteDecimal

/-! ## The conversion -/

section Conversion

variable (t : TexteDecimal) (currency : String)

/-- The factor is one or its opposite. -/
theorem TexteDecimal.facteur_cases : t.facteur = 1 ∨ t.facteur = -1 := by
  unfold TexteDecimal.facteur
  split
  · exact .inr rfl
  · exact .inl rfl

/-- The absolute value of the amount. -/
theorem TexteDecimal.natAbs_centimes :
    t.centimes.natAbs = t.partieEntiere * 100 + t.centimesDecimaux := by
  rw [t.centimes_eq]
  rcases t.facteur_cases with h | h <;> rw [h] <;> omega

variable {t} in
/-- The opposite text has the opposite amount. -/
theorem TexteDecimal.Oppose.centimes_eq {t' : TexteDecimal} (h : t.Oppose t') :
    t'.centimes = -t.centimes := by
  obtain ⟨hentiers, hdecimales, hsigne⟩ := h
  have hp : t'.partieEntiere = t.partieEntiere := by
    simp [TexteDecimal.partieEntiere, hentiers]
  have hc : t'.centimesDecimaux = t.centimesDecimaux := by
    simp [TexteDecimal.centimesDecimaux, hdecimales]
  have hf : t'.facteur = -t.facteur := by
    unfold TexteDecimal.facteur
    by_cases hm : t.signe = .moins
    · rw [if_pos hm, if_neg fun h => hsigne.1 h hm, neg_neg]
    · rw [if_neg hm, if_pos (hsigne.2 hm)]
  rw [t'.centimes_eq, t.centimes_eq, hp, hc, hf, neg_mul]

/-- The integer part is out of range: the text is refused. -/
theorem montantEnCentimes_horsLimites (h : i64Max < (t.partieEntiere : ℤ)) :
    montantEnCentimes ⟨t.texte, currency⟩ =
      .error (.reponseInvalide ("montant illisible : " ++ String.ofList t.entiers)) := by
  rw [montantEnCentimes_eq, t.operandes_texte, if_neg (by omega)]
  rfl

/-- The cents are in range: they are the result. -/
theorem montantEnCentimes_dansLimites (h : (t.centimes.natAbs : ℤ) ≤ i64Max) :
    montantEnCentimes ⟨t.texte, currency⟩ = .ok t.centimes := by
  rw [t.natAbs_centimes] at h
  push_cast at h
  have hmax : i64Max = 2 ^ 63 - 1 := rfl
  have hmin : i64Min = -2 ^ 63 := rfl
  have hproduit : EstI64 ((t.partieEntiere : ℤ) * 100) := by
    constructor <;> omega
  have hsomme : EstI64 ((t.partieEntiere : ℤ) * 100 + t.centimesDecimaux) := by
    constructor <;> omega
  have hresultat : EstI64 (t.facteur * ((t.partieEntiere : ℤ) * 100 + t.centimesDecimaux)) := by
    rcases t.facteur_cases with hf | hf <;> rw [hf] <;> constructor <;> omega
  rw [montantEnCentimes_eq, t.operandes_texte, if_pos (by omega), t.centimes_eq]
  simp only [Except.map, i64_of_estI64 hproduit, i64_of_estI64 hsomme, i64_of_estI64 hresultat]

end Conversion

/-- The text is converted exactly: the rounded value when it fits, the opposite for the
opposite text, an error otherwise, and no step wraps. -/
structure TexteDecimal.Exact (t : TexteDecimal) (currency : String) : Prop where
  valeur : EstI64 t.centimes → montantEnCentimes ⟨t.texte, currency⟩ = .ok t.centimes
  erreur : ¬ EstI64 t.centimes → ∃ e, montantEnCentimes ⟨t.texte, currency⟩ = .error e
  oppose : ∀ t' n, t.Oppose t' → EstI64 (-n) →
    montantEnCentimes ⟨t.texte, currency⟩ = .ok n →
      montantEnCentimes ⟨t'.texte, currency⟩ = .ok (-n)
  sansRepli : SansRepli ⟨t.texte, currency⟩

/-- The conversion is exact unless the integer part can be read and the cents exceed the
largest amount. -/
theorem montantEnCentimes_exact_iff (t : TexteDecimal) (currency : String) :
    t.Exact currency ↔
      i64Max < (t.partieEntiere : ℤ) ∨ (t.centimes.natAbs : ℤ) ≤ i64Max := by
  have hmax : i64Max = 2 ^ 63 - 1 := rfl
  have hmin : i64Min = -2 ^ 63 := rfl
  have habs := t.natAbs_centimes
  constructor
  · intro h
    by_contra hnot
    obtain ⟨hlu, hgrand⟩ := not_or.1 hnot
    have hoperandes := t.operandes_texte currency
    rw [if_pos (by omega)] at hoperandes
    have hsomme := (h.sansRepli _ _ _ hoperandes).2.1.2
    omega
  · rintro (hgrand | hpetit)
    · have herreur := montantEnCentimes_horsLimites t currency hgrand
      have hhors : ¬ EstI64 t.centimes := by
        rintro ⟨hlow, hhigh⟩
        omega
      refine ⟨fun h => absurd h hhors, fun _ => ⟨_, herreur⟩, ?_, ?_⟩
      · intro t' n _ _ hn
        rw [herreur] at hn
        cases hn
      · intro signe entiers centimes hoperandes
        rw [t.operandes_texte, if_neg (by omega)] at hoperandes
        cases hoperandes
    · have hvaleur := montantEnCentimes_dansLimites t currency hpetit
      have hdans : EstI64 t.centimes := by
        constructor <;> omega
      refine ⟨fun _ => hvaleur, fun h => absurd hdans h, ?_, ?_⟩
      · intro t' n ht' _ hn
        obtain rfl : t.centimes = n := Except.ok.inj (hvaleur.symm.trans hn)
        rw [← ht'.centimes_eq]
        exact montantEnCentimes_dansLimites t' currency (by rw [ht'.centimes_eq]; omega)
      · intro signe entiers centimes hoperandes
        rw [t.operandes_texte, if_pos (by omega)] at hoperandes
        obtain ⟨rfl, rfl, rfl⟩ := by simpa using hoperandes
        refine ⟨?_, ?_, ?_⟩
        · constructor <;> omega
        · constructor <;> omega
        · rw [← t.centimes_eq]
          exact hdans

/-- The integer part can be read, and the cents exceed the largest amount. -/
private def enTrop : TexteDecimal where
  signe := .aucun
  entiers := "92233720368547758".toList
  decimales := some "08".toList
  chiffres := by decide
  nonVide := by decide

/-- One cent above the largest amount is read as the smallest amount. -/
theorem not_montantEnCentimes_exact :
    ¬ ∀ (t : TexteDecimal) (currency : String), t.Exact currency := by
  intro h
  have habs := enTrop.natAbs_centimes
  have hentier : enTrop.partieEntiere = 92233720368547758 := by decide
  have hdecimales : enTrop.centimesDecimaux = 8 := by decide
  have hhors : ¬ EstI64 enTrop.centimes := by
    rintro ⟨hlow, hhigh⟩
    have hpositif : enTrop.centimes = 1 * (92233720368547758 * 100 + 8) := by
      rw [enTrop.centimes_eq, hentier, hdecimales]
      rfl
    have hmax : i64Max = 2 ^ 63 - 1 := rfl
    omega
  have hrepli : montantEnCentimes ⟨enTrop.texte, "EUR"⟩ = .ok i64Min := by
    rw [montantEnCentimes_eq, enTrop.operandes_texte, hentier, hdecimales]
    rfl
  obtain ⟨e, he⟩ := (h enTrop "EUR").erreur hhors
  rw [hrepli] at he
  cases he

end Budgy
