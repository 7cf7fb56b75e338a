import Budgy.Analysis.DecimalAmounts
import Budgy.Interface.Separators

/-!
# The texts that are read as amounts

`montant_en_centimes` takes the sign off, splits the rest at the first point and leaves the
integer part to `str::parse`, which reads a sign of its own.  `lisible_iff` says which texts it
reads; they are the decimal texts, the six texts of a sign and a point without any digit, and
decimal texts behind a second sign (`montantEnCentimes_grammaire_iff`).
-/

set_option autoImplicit false

namespace Budgy

open EnableBanking

/-! ## Behind the sign -/

/-- The text behind the sign is read. -/
def Lisible (chiffres : String) : Prop := ∃ lu, lireChiffres chiffres = .ok lu

/-- What cannot be read is an invalid answer. -/
theorem lireChiffres_error {chiffres : String} {e : BankDataSourceError}
    (h : lireChiffres chiffres = .error e) : ∃ message, e = .reponseInvalide message := by
  have hcentimes : ∀ s e, centimesArrondis s = .error e → ∃ message, e = .reponseInvalide message := by
    intro s e h
    unfold centimesArrondis at h
    split at h
    · exact ⟨_, (Except.error.inj h).symm⟩
    · cases h
  have hentier : ∀ s e, parserEntier s = .error e → ∃ message, e = .reponseInvalide message := by
    intro s e h
    unfold parserEntier at h
    split at h
    · cases h
    · exact ⟨_, (Except.error.inj h).symm⟩
  unfold lireChiffres at h
  simp only at h
  cases hc : centimesArrondis ((Text.splitOnce '.' chiffres).getD (chiffres, "")).2 with
  | error e' =>
      rw [hc] at h
      obtain rfl := Except.error.inj h
      exact hcentimes _ _ hc
  | ok c =>
      rw [hc] at h
      by_cases hvide : ((Text.splitOnce '.' chiffres).getD (chiffres, "")).1 = ""
      · simp [hvide, bind, Except.bind, pure, Except.pure] at h
      · cases hn : parserEntier ((Text.splitOnce '.' chiffres).getD (chiffres, "")).1 with
        | error e' =>
            simp only [hvide, hn, if_false, bind, Except.bind, Except.error.injEq] at h
            exact h ▸ hentier _ _ hn
        | ok n => simp [hvide, hn, bind, Except.bind, pure, Except.pure] at h

/-! ## At the point -/

/-- Any text is split at its first point, when it has one. -/
theorem exists_pointe (cs : List Char) : ∃ a ds, cs = a ++ pointe ds ∧ '.' ∉ a := by
  induction cs with
  | nil => exact ⟨[], none, rfl, List.not_mem_nil⟩
  | cons c cs ih =>
      by_cases hc : c = '.'
      · exact ⟨[], some cs, by rw [hc]; rfl, List.not_mem_nil⟩
      · obtain ⟨a, ds, rfl, ha⟩ := ih
        refine ⟨c :: a, ds, rfl, ?_⟩
        intro hmem
        rcases List.mem_cons.1 hmem with heq | hmem
        · exact hc heq.symm
        · exact ha hmem

/-- The decimals are digits, and the integer part is empty or read. -/
theorem lisible_pointe {a : List Char} (ha : '.' ∉ a) (ds : Option (List Char)) :
    Lisible (String.ofList (a ++ pointe ds)) ↔
      (ds.getD []).all Char.isDigit = true ∧
        (a = [] ∨ ∃ n, parserEntier (String.ofList a) = .ok n) := by
  have hcentimes : (∃ c, centimesArrondis (String.ofList (ds.getD [])) = .ok c) ↔
      (ds.getD []).all Char.isDigit = true := by
    unfold centimesArrondis
    rw [String.toList_ofList]
    by_cases hall : ((ds.getD []).any fun c => !c.isDigit) = true
    · rw [if_pos hall]
      constructor
      · rintro ⟨c, hc⟩
        cases hc
      · intro hdigits
        simp only [List.all_eq_true] at hdigits
        simp only [List.any_eq_true, Bool.not_eq_true'] at hall
        obtain ⟨c, hc, hnot⟩ := hall
        rw [hdigits c hc] at hnot
        cases hnot
    · rw [if_neg hall]
      refine ⟨fun _ => ?_, fun _ => ⟨_, rfl⟩⟩
      simpa using hall
  have hvide : String.ofList a = "" ↔ a = [] := by simp
  unfold Lisible lireChiffres
  rw [splitOnce_pointe ha, ← hcentimes]
  simp only [hvide]
  cases centimesArrondis (String.ofList (ds.getD [])) with
  | error e => simp [bind, Except.bind]
  | ok c =>
      by_cases hnil : a = []
      · simp [hnil, bind, Except.bind, pure, Except.pure]
      · cases parserEntier (String.ofList a) with
        | error e => simp [hnil, bind, Except.bind]
        | ok n => simp [hnil, bind, Except.bind, pure, Except.pure]

/-! ## The integer part -/

/-- An integer part that is read: a sign of its own, perhaps, and digits in range. -/
theorem parserEntier_ok_iff {a : List Char} :
    (∃ n, parserEntier (String.ofList a) = .ok n) ↔
      ∃ t : TexteDecimal, t.decimales = none ∧ t.caracteresSigne ++ t.entiers = a ∧
        EstI64 (t.facteur * t.partieEntiere) := by
  have hparse : (∃ n, parserEntier (String.ofList a) = .ok n) ↔
      ∃ n, Text.parseInt? i64Min i64Max (String.ofList a) = some n := by
    unfold parserEntier
    cases Text.parseInt? i64Min i64Max (String.ofList a) <;> simp
  have hfilter : ∀ (cs : List Char) (f : ℤ → ℤ) (n : ℤ),
      (((Text.digitsValue? cs).bind fun m => some (m : ℤ)).map f).filter
          (fun n => i64Min ≤ n && n ≤ i64Max) = some n →
        cs ≠ [] ∧ cs.all Char.isDigit = true ∧ EstI64 (f (Nat.ofDigitChars 10 cs 0)) := by
    intro cs f n h
    obtain ⟨hvalue, hrange⟩ := Option.filter_eq_some_iff.1 h
    obtain ⟨k, hk, rfl⟩ := Option.map_eq_some_iff.1 hvalue
    obtain ⟨m, hm, hmk⟩ := Option.bind_eq_some_iff.1 hk
    obtain rfl := Option.some.inj hmk
    obtain ⟨hne, hall, rfl⟩ := Text.digitsValue?_eq_some.1 hm
    exact ⟨hne, hall, by simpa [EstI64] using hrange⟩
  rw [hparse]
  constructor
  · rintro ⟨n, hn⟩
    unfold Text.parseInt? at hn
    rw [String.toList_ofList] at hn
    simp only at hn
    split at hn
    · rename_i cs
      obtain ⟨hne, hall, hrange⟩ := hfilter cs (fun n => -n) n hn
      refine ⟨⟨.moins, cs, none, by simpa using hall, by simpa using hne⟩, rfl, rfl, ?_⟩
      simpa [TexteDecimal.facteur, TexteDecimal.partieEntiere] using hrange
    · rename_i cs
      obtain ⟨hne, hall, hrange⟩ := hfilter cs (fun n => n) n hn
      refine ⟨⟨.plus, cs, none, by simpa using hall, by simpa using hne⟩, rfl, rfl, ?_⟩
      simpa [TexteDecimal.facteur, TexteDecimal.partieEntiere] using hrange
    · obtain ⟨hne, hall, hrange⟩ := hfilter a (fun n => n) n hn
      refine ⟨⟨.aucun, a, none, by simpa using hall, by simpa using hne⟩, rfl, rfl, ?_⟩
      simpa [TexteDecimal.facteur, TexteDecimal.partieEntiere] using hrange
  · rintro ⟨t, hdecimales, rfl, hrange⟩
    have hvalue : Text.digitsValue? t.entiers = some t.partieEntiere :=
      Text.digitsValue?_eq_some.2
        ⟨by simpa [hdecimales] using t.nonVide, t.entiers_isDigit, rfl⟩
    refine ⟨t.facteur * t.partieEntiere, ?_⟩
    unfold EstI64 at hrange
    cases hs : t.signe with
    | aucun =>
        have hf : t.facteur = 1 := by simp [TexteDecimal.facteur, hs]
        have hliste : t.caracteresSigne ++ t.entiers = t.entiers := by
          simp [TexteDecimal.caracteresSigne, hs]
        rw [hf, one_mul] at hrange
        rw [hliste, hf, one_mul, Text.parseInt?_of_digits (by rwa [String.toList_ofList])]
        simpa [Option.filter] using hrange
    | plus =>
        have hf : t.facteur = 1 := by simp [TexteDecimal.facteur, hs]
        have hliste : t.caracteresSigne ++ t.entiers = '+' :: t.entiers := by
          simp [TexteDecimal.caracteresSigne, hs]
        rw [hf, one_mul] at hrange
        rw [hliste, hf, one_mul]
        unfold Text.parseInt?
        simp only [String.toList_ofList, hvalue]
        simpa [Option.filter] using hrange
    | moins =>
        have hf : t.facteur = -1 := by simp [TexteDecimal.facteur, hs]
        have hliste : t.caracteresSigne ++ t.entiers = '-' :: t.entiers := by
          simp [TexteDecimal.caracteresSigne, hs]
        rw [hf, neg_one_mul] at hrange
        rw [hliste, hf, neg_one_mul]
        unfold Text.parseInt?
        simp only [String.toList_ofList, hvalue]
        simpa [Option.filter] using hrange

/-! ## The texts that are read -/

/-- A decimal text, with its point. -/
theorem TexteDecimal.texte_eq (t : TexteDecimal) :
    t.texte = String.ofList (t.caracteresSigne ++ t.entiers ++ pointe t.decimales) := by
  rw [TexteDecimal.texte, t.caracteresChiffres_eq, List.append_assoc]

/-- The sign and the digits in front of the point. -/
theorem TexteDecimal.notMem_point (t : TexteDecimal) : '.' ∉ t.caracteresSigne ++ t.entiers := by
  intro hmem
  rcases List.mem_append.1 hmem with h | h
  · unfold TexteDecimal.caracteresSigne at h
    cases hs : t.signe <;> simp [hs] at h
  · exact t.point_notMem_entiers h

/-- The integer part may have a sign of its own, and there may be no digit at all. -/
theorem lisible_iff {cs : List Char} :
    Lisible (String.ofList cs) ↔ cs = [] ∨ cs = ['.'] ∨ ∃ t : TexteDecimal,
      t.texte = String.ofList cs ∧ (t.entiers = [] → t.signe = .aucun) ∧
        EstI64 (t.facteur * t.partieEntiere) := by
  constructor
  · intro h
    obtain ⟨a, ds, rfl, ha⟩ := exists_pointe cs
    obtain ⟨hdigits, hentier⟩ := (lisible_pointe ha ds).1 h
    rcases hentier with rfl | hentier
    · -- no integer part: decimals, or none
      cases ds with
      | none => exact Or.inl rfl
      | some ds =>
          by_cases hds : ds = []
          · exact Or.inr (Or.inl (by rw [hds]; rfl))
          · refine Or.inr (Or.inr ⟨⟨.aucun, [], some ds, by simpa using hdigits, by simpa using hds⟩,
              ?_, fun _ => rfl, ?_⟩)
            · rw [TexteDecimal.texte_eq]
              rfl
            · simp [TexteDecimal.partieEntiere, EstI64, i64Min, i64Max]
    · obtain ⟨t, hnone, rfl, hrange⟩ := parserEntier_ok_iff.1 hentier
      have hne : t.entiers ≠ [] := by simpa [hnone] using t.nonVide
      refine Or.inr (Or.inr ⟨⟨t.signe, t.entiers, ds, ?_, ?_⟩, ?_, fun h => absurd h hne, hrange⟩)
      · rw [List.all_append, t.entiers_isDigit, hdigits]
        rfl
      · simp [hne]
      · rw [TexteDecimal.texte_eq]
        rfl
  · rintro (rfl | rfl | ⟨t, htexte, hsigne, hrange⟩)
    · exact (lisible_pointe (a := []) List.not_mem_nil none).2 ⟨rfl, Or.inl rfl⟩
    · exact (lisible_pointe (a := []) List.not_mem_nil (some [])).2 ⟨rfl, Or.inl rfl⟩
    · rw [← htexte, t.texte_eq, lisible_pointe t.notMem_point]
      refine ⟨t.decimales_isDigit, ?_⟩
      by_cases hvide : t.entiers = []
      · left
        simp [TexteDecimal.caracteresSigne, hsigne hvide, hvide]
      · right
        exact parserEntier_ok_iff.2
          ⟨⟨t.signe, t.entiers, none, by simpa using t.entiers_isDigit, by simpa using hvide⟩,
            rfl, rfl, hrange⟩

/-! ## The grammar -/

/-- A sign and a point, and no digit. -/
def SansChiffre (texte : String) : Prop := texte ∈ ["", "+", "-", ".", "+.", "-."]

instance (texte : String) : Decidable (SansChiffre texte) :=
  inferInstanceAs (Decidable (texte ∈ _))

/-- A sign in front of a decimal text that has a sign and an integer part in range. -/
def DeuxSignes (texte : String) : Prop :=
  ∃ t : TexteDecimal, t.signe ≠ .aucun ∧ t.entiers ≠ [] ∧ EstI64 (t.facteur * t.partieEntiere) ∧
    (texte = "+" ++ t.texte ∨ texte = "-" ++ t.texte)

/-- An amount is read only from a decimal text, and every other text is an invalid answer. -/
def GrammaireRespectee (montant : MontantWire) : Prop :=
  (∃ t : TexteDecimal, Text.trim montant.amount = t.texte) ∨
    ∃ message, montantEnCentimes montant = .error (.reponseInvalide message)

/-- The first character of a text, and the rest. -/
private theorem ofList_cons_eq (c : Char) (cs : List Char) :
    String.ofList (c :: cs) = String.ofList [c] ++ String.ofList cs := by
  rw [← String.ofList_append]
  rfl

/-- The same text under another sign. -/
def TexteDecimal.avecSigne (t : TexteDecimal) (signe : Signe) : TexteDecimal :=
  ⟨signe, t.entiers, t.decimales, t.chiffres, t.nonVide⟩

/-- What is read and is not a decimal text has no digit or two signs. -/
theorem texteDecimal_of_lisible {cs : List Char}
    (h : Lisible (sansSigne (String.ofList cs))) :
    SansChiffre (String.ofList cs) ∨ DeuxSignes (String.ofList cs) ∨
      ∃ t : TexteDecimal, String.ofList cs = t.texte := by
  by_cases hsigne : cs.head? = some '+' ∨ cs.head? = some '-'
  · obtain ⟨c, reste, rfl, hc⟩ : ∃ c reste, cs = c :: reste ∧ (c = '+' ∨ c = '-') := by
      cases cs with
      | nil => simp at hsigne
      | cons c reste => exact ⟨c, reste, rfl, by simpa using hsigne⟩
    rw [sansSigne_cons hc, lisible_iff] at h
    rcases h with rfl | rfl | ⟨t, htexte, hvide, hrange⟩
    · left
      rcases hc with rfl | rfl <;> decide
    · left
      rcases hc with rfl | rfl <;> decide
    · right
      by_cases hs : t.signe = .aucun
      · right
        have hsans : t.texte = String.ofList t.caracteresChiffres := by
          simp [TexteDecimal.texte, TexteDecimal.caracteresSigne, hs]
        have hreste : t.caracteresChiffres = reste := by
          exact String.ofList_injective (hsans.symm.trans htexte)
        rcases hc with rfl | rfl
        · exact ⟨t.avecSigne .plus, by rw [← hreste]; rfl⟩
        · exact ⟨t.avecSigne .moins, by rw [← hreste]; rfl⟩
      · left
        refine ⟨t, hs, fun hnil => hs (hvide hnil), hrange, ?_⟩
        rw [htexte]
        rcases hc with rfl | rfl
        · exact Or.inl (ofList_cons_eq '+' reste)
        · exact Or.inr (ofList_cons_eq '-' reste)
  · obtain ⟨hplus, hmoins⟩ := not_or.1 hsigne
    rw [sansSigne_of_head? hplus hmoins, lisible_iff] at h
    rcases h with rfl | rfl | ⟨t, htexte, -, -⟩
    · left
      decide
    · left
      decide
    · exact Or.inr (Or.inr ⟨t, htexte.symm⟩)

/-- The six texts without digit are read, and a decimal text with its sign in range is read
behind another sign. -/
theorem lisible_of_sansChiffre {texte : String} (h : SansChiffre texte ∨ DeuxSignes texte) :
    Lisible (sansSigne texte) := by
  rcases h with h | ⟨t, -, hentiers, hrange, htexte⟩
  · have hsix : texte = "" ∨ texte = "+" ∨ texte = "-" ∨ texte = "." ∨ texte = "+." ∨
        texte = "-." := by simpa [SansChiffre] using h
    have hvide : Lisible (String.ofList []) := lisible_iff.2 (Or.inl rfl)
    have hpoint : Lisible (String.ofList ['.']) := lisible_iff.2 (Or.inr (Or.inl rfl))
    rcases hsix with rfl | rfl | rfl | rfl | rfl | rfl
    · exact hvide
    · exact hvide
    · exact hvide
    · exact hpoint
    · exact hpoint
    · exact hpoint
  · have hlisible : Lisible t.texte := by
      rw [t.texte_eq, lisible_iff, ← t.texte_eq]
      exact Or.inr (Or.inr ⟨t, rfl, fun hnil => absurd hnil hentiers, hrange⟩)
    have hliste : t.texte = String.ofList t.texte.toList := by simp
    rcases htexte with rfl | rfl
    · rw [hliste, show "+" = String.ofList ['+'] from rfl, ← ofList_cons_eq,
        sansSigne_cons (Or.inl rfl), ← hliste]
      exact hlisible
    · rw [hliste, show "-" = String.ofList ['-'] from rfl, ← ofList_cons_eq,
        sansSigne_cons (Or.inr rfl), ← hliste]
      exact hlisible

/-- A decimal text has a digit, and one sign at most. -/
theorem not_texteDecimal {texte : String} (h : SansChiffre texte ∨ DeuxSignes texte)
    (t : TexteDecimal) : texte ≠ t.texte := by
  rintro rfl
  rcases h with h | ⟨t', hsigne, -, -, htexte⟩
  · have hchiffre : ∃ c ∈ t.texte.toList, c.isDigit = true := by
      obtain ⟨c, hc⟩ := List.exists_mem_of_ne_nil _ t.nonVide
      refine ⟨c, ?_, List.all_eq_true.1 t.chiffres c hc⟩
      rw [t.texte_eq, String.toList_ofList]
      rcases List.mem_append.1 hc with hc | hc
      · exact List.mem_append_left _ (List.mem_append_right _ hc)
      · refine List.mem_append_right _ ?_
        cases hd : t.decimales with
        | none => simp [hd] at hc
        | some ds => exact List.mem_cons_of_mem _ (by simpa [hd] using hc)
    have hsans : ∀ texte ∈ ["", "+", "-", ".", "+.", "-."], ¬ ∃ c ∈ texte.toList,
        c.isDigit = true := by simp
    exact hsans _ h hchiffre
  · -- the digits of a decimal text do not start with a sign, whether it has one or not
    have hcaracteres : ∃ c c' cs, (c = '+' ∨ c = '-') ∧ (c' = '+' ∨ c' = '-') ∧
        t.caracteresSigne ++ t.caracteresChiffres = c :: c' :: cs := by
      obtain ⟨c', hc', hliste⟩ : ∃ c', (c' = '+' ∨ c' = '-') ∧
          t'.texte.toList = c' :: t'.caracteresChiffres := by
        unfold TexteDecimal.texte TexteDecimal.caracteresSigne
        cases hs : t'.signe with
        | aucun => exact absurd hs hsigne
        | plus => exact ⟨'+', Or.inl rfl, by simp⟩
        | moins => exact ⟨'-', Or.inr rfl, by simp⟩
      have htoList : t.texte.toList = t.caracteresSigne ++ t.caracteresChiffres := by
        simp [TexteDecimal.texte]
      rw [← htoList]
      rcases htexte with htexte | htexte
      · exact ⟨'+', c', _, Or.inl rfl, hc', by rw [htexte, String.toList_append, hliste]; rfl⟩
      · exact ⟨'-', c', _, Or.inr rfl, hc', by rw [htexte, String.toList_append, hliste]; rfl⟩
    have htete : ∀ c, c = '+' ∨ c = '-' → t.caracteresChiffres.head? ≠ some c := by
      rintro c (rfl | rfl)
      · exact t.head?_caracteresChiffres rfl (by decide)
      · exact t.head?_caracteresChiffres rfl (by decide)
    obtain ⟨c, c', cs, hc, hc', heq⟩ := hcaracteres
    unfold TexteDecimal.caracteresSigne at heq
    cases hs : t.signe with
    | aucun =>
        rw [hs] at heq
        have hreste : t.caracteresChiffres = c :: c' :: cs := heq
        exact htete c hc (by rw [hreste]; rfl)
    | plus =>
        rw [hs] at heq
        have hreste : t.caracteresChiffres = c' :: cs := (List.cons.inj heq).2
        exact htete c' hc' (by rw [hreste]; rfl)
    | moins =>
        rw [hs] at heq
        have hreste : t.caracteresChiffres = c' :: cs := (List.cons.inj heq).2
        exact htete c' hc' (by rw [hreste]; rfl)

/-- The grammar of the amounts is respected but for the texts without digit and those of two
signs. -/
theorem montantEnCentimes_grammaire_iff (montant : MontantWire) :
    GrammaireRespectee montant ↔
      ¬ (SansChiffre (Text.trim montant.amount) ∨ DeuxSignes (Text.trim montant.amount)) := by
  unfold GrammaireRespectee
  rw [montantEnCentimes_lire]
  constructor
  · rintro (⟨t, ht⟩ | ⟨message, herreur⟩) hexception
    · exact not_texteDecimal hexception t ht
    · obtain ⟨lu, hlu⟩ := lisible_of_sansChiffre hexception
      rw [hlu] at herreur
      cases herreur
  · intro hnot
    cases hlu : lireChiffres (sansSigne (Text.trim montant.amount)) with
    | error e =>
        obtain ⟨message, rfl⟩ := lireChiffres_error hlu
        exact Or.inr ⟨message, rfl⟩
    | ok lu =>
        left
        have hliste : Text.trim montant.amount =
            String.ofList (Text.trim montant.amount).toList := by simp
        rw [hliste] at hlu hnot ⊢
        rcases texteDecimal_of_lisible ⟨lu, hlu⟩ with h | h | h
        · exact absurd (Or.inl h) hnot
        · exact absurd (Or.inr h) hnot
        · exact h

/-- An empty text is read as zero, and a text with two signs as the opposite of the amount
that its first sign announces. -/
theorem not_grammaireRespectee :
    ¬ GrammaireRespectee ⟨"", "EUR"⟩ ∧ montantEnCentimes ⟨"", "EUR"⟩ = .ok 0 ∧
      ¬ GrammaireRespectee ⟨"--5", "EUR"⟩ ∧ montantEnCentimes ⟨"--5", "EUR"⟩ = .ok 500 := by
  have hvide : montantEnCentimes ⟨"", "EUR"⟩ = .ok 0 := by decide
  have hdeux : montantEnCentimes ⟨"--5", "EUR"⟩ = .ok 500 := by decide
  have htrim : Text.trim "" = "" := by decide
  have htrim' : Text.trim "--5" = "--5" := by decide
  have hcinq : DeuxSignes "--5" :=
    ⟨⟨.moins, ['5'], none, by decide, by decide⟩, by decide, by decide, by decide, Or.inr (by decide)⟩
  refine ⟨?_, hvide, ?_, hdeux⟩
  · rintro (⟨t, ht⟩ | ⟨message, herreur⟩)
    · exact not_texteDecimal (Or.inl (by decide)) t (htrim.symm.trans ht)
    · rw [hvide] at herreur
      cases herreur
  · rintro (⟨t, ht⟩ | ⟨message, herreur⟩)
    · exact not_texteDecimal (Or.inr hcinq) t (htrim'.symm.trans ht)
    · rw [hdeux] at herreur
      cases herreur

end Budgy
