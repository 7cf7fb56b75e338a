import Budgy.Model.Domain
import Mathlib.Data.Prod.Lex

/-!
# Bank labels and the rules that match them

`domain/libelle.rs` extracts the counterparty (*tiers*) of a bank label;
`domain/regle_categorisation.rs` compares the extracted texts and selects, among
the rules that match a label, the one that applies.
-/

set_option autoImplicit false

namespace Budgy

/-- `PREFIXES`, the operation prefixes, tried in this order. -/
def prefixes : List String := [
  "VIREMENT INSTANTANE RECU DE", "VIREMENT SEPA RECU DE", "VIREMENT EN VOTRE FAVEUR DE",
  "VIREMENT EN VOTRE FAVEUR", "VIREMENT INSTANTANE RECU", "VIREMENT INSTANTANE",
  "VIREMENT SEPA EMIS", "VIREMENT SEPA RECU", "VIREMENT SEPA", "VIREMENT RECU DE",
  "VIREMENT RECU", "VIREMENT EMIS", "VIREMENT", "PAIEMENT PAR CARTE", "PAIEMENT CARTE",
  "PAIEMENT", "PRELEVEMENT SEPA DE", "PRELEVEMENT SEPA", "PRELEVEMENT", "PRLV SEPA", "PRLV",
  "ACHAT CB", "ACHAT", "RETRAIT CB", "RETRAIT DAB", "RETRAIT", "REMISE CHEQUE", "REMISE",
  "COTISATION", "FRAIS", "CB"]

/-- `CIVILITES`. -/
def civilites : List String :=
  ["M.OU MME", "M. OU MME", "MR OU MME", "MME OU MR", "MLLE", "MME", "MR", "M."]

/-- `MOIS`. -/
def nomsDeMois : List String := [
  "JANVIER", "FEVRIER", "MARS", "AVRIL", "MAI", "JUIN", "JUILLET", "AOUT", "SEPTEMBRE",
  "OCTOBRE", "NOVEMBRE", "DECEMBRE"]

/-- `BRUIT`. -/
def bruit : List String :=
  ["REF", "REFERENCE", "MANDAT", "MDT", "RUM", "ECH", "NUM", "NUMERO", "MOTIF", "ID"]

/-- `MAX_TOKENS`. -/
def maxTokens : ℕ := 5

/-- `normaliser`: upper case, and one space between the words. -/
def normaliser (label : String) : String :=
  Text.join " " (Text.splitWhitespace (Text.toUppercase label))

/-- One turn of the loop of `retirer_prefixe`: the rest of the text when the
prefix applies. -/
def apresPrefixe? (s candidat : String) : Option String := do
  let reste ← Text.stripPrefix? candidat s
  if reste = "" ∨ reste.toList.head? = some ' ' then
    let reste := Text.trimStart reste
    -- a residual « DE » is removed too
    some (Text.trimStart ((Text.stripPrefix? "DE " reste).getD reste))
  else none

/-- `retirer_prefixe`: the first prefix that the label starts with. -/
def retirerPrefixe (s : String) : String := (prefixes.findSome? (apresPrefixe? s)).getD s

/-- The text around the first occurrence of `motif`. -/
def autourDe? (motif : List Char) : List Char → Option (List Char × List Char)
  | [] => if motif = [] then some ([], []) else none
  | c :: cs =>
      if motif.isPrefixOf (c :: cs) then some ([], (c :: cs).drop motif.length)
      else (autourDe? motif cs).map fun (avant, apres) => (c :: avant, apres)

/-- The `while` loop of `retirer_civilites`: every turn shortens the text, so its
length bounds the number of turns. -/
def remplacerMotif (motif : List Char) : ℕ → List Char → List Char
  | 0, out => out
  | n + 1, out =>
      match autourDe? motif out with
      | some (avant, apres) => remplacerMotif motif n (avant ++ ' ' :: apres)
      | none => out

/-- `retirer_civilites`: each title is removed in turn, in the order of the table. -/
def retirerCivilites (s : String) : String :=
  let out := civilites.foldl
    (fun out civilite => remplacerMotif (" " ++ civilite ++ " ").toList out.length out)
    (" " ++ s ++ " ").toList
  Text.join " " (Text.splitWhitespace (String.ofList out))

/-- Dates, references, amounts, card numbers and masks, months, noise. -/
def estTokenVolatile (token : String) : Bool :=
  token.toList.any Char.isDigit ||
  (token ≠ "" && token.toList.all fun c => c = 'X' || c = '*') ||
  nomsDeMois.contains token || bruit.contains token

/-- `filtrer_tokens`: the first words that are not volatile. -/
def filtrerTokens (s : String) : String :=
  Text.join " " (((Text.splitWhitespace s).filter fun token => !estTokenVolatile token).take
    maxTokens)

/-- `premiers_mots`. -/
def premiersMots (s : String) (n : ℕ) : String :=
  Text.join " " ((Text.splitWhitespace s).take n)

/-- `extraire_tiers`: the first words of the whole label when no word is left. -/
def extraireTiers (label : String) : String :=
  let normalise := normaliser label
  let sansPrefixe := retirerPrefixe normalise
  let sansCivilite := retirerCivilites sansPrefixe
  let tiers := filtrerTokens sansCivilite
  if Text.trim tiers = "" then premiersMots normalise maxTokens else tiers

/-- `RegleCategorisation::correspond`. -/
def RegleCategorisation.correspond (regle : RegleCategorisation) (label : String) : Bool :=
  Text.contains (Text.toLowercase (extraireTiers label))
    (Text.toLowercase (extraireTiers regle.labelPattern))

/-- The key `selectionner_regle` maximises. -/
def RegleCategorisation.rang (regle : RegleCategorisation) : ℤ ×ₗ (ℤ ×ₗ Uuid) :=
  toLex (regle.priority, toLex (regle.createdAt, regle.id))

/-- One step of `max_by_key`: of two equal keys, the later element wins. -/
def retenir (choisie : Option RegleCategorisation) (regle : RegleCategorisation) :
    Option RegleCategorisation :=
  match choisie with
  | none => some regle
  | some r => if r.rang ≤ regle.rang then some regle else some r

/-- `selectionner_regle`: the rule of the highest rank among those that match. -/
def selectionnerRegle (label : String) (regles : List RegleCategorisation) :
    Option RegleCategorisation :=
  (regles.filter fun regle => regle.correspond label).foldl retenir none

/-- The rule retained is one of those that were examined. -/
theorem foldl_retenir_mem {regles : List RegleCategorisation} {choisie : Option RegleCategorisation}
    {r : RegleCategorisation} (h : regles.foldl retenir choisie = some r) :
    r ∈ regles ∨ choisie = some r := by
  induction regles generalizing choisie with
  | nil => exact .inr h
  | cons regle regles ih =>
      rw [List.foldl_cons] at h
      rcases ih h with hr | hr
      · exact .inl (List.mem_cons_of_mem _ hr)
      · unfold retenir at hr
        split at hr
        · exact .inl (by simp [Option.some.inj hr])
        · split at hr
          · exact .inl (by simp [Option.some.inj hr])
          · exact .inr hr

/-- What is kept bears the highest rank, and something is kept as soon as there is a rule. -/
theorem foldl_retenir_max {regles : List RegleCategorisation} {choisie : Option RegleCategorisation}
    {r : RegleCategorisation} (h : r ∈ regles ∨ choisie = some r) :
    ∃ r', regles.foldl retenir choisie = some r' ∧ r.rang ≤ r'.rang := by
  induction regles generalizing choisie r with
  | nil =>
      rcases h with h | h
      · cases h
      · exact ⟨r, h, le_refl _⟩
  | cons regle regles ih =>
      rw [List.foldl_cons]
      have hkept : ∀ r, r = regle ∨ choisie = some r →
          ∃ r₁, retenir choisie regle = some r₁ ∧ r.rang ≤ r₁.rang := by
        intro r hr
        unfold retenir
        cases choisie with
        | none =>
            obtain rfl | hr := hr
            · exact ⟨r, rfl, le_refl _⟩
            · cases hr
        | some c =>
            rcases le_or_gt c.rang regle.rang with hle | hlt
            · refine ⟨regle, if_pos hle, ?_⟩
              obtain rfl | hr := hr
              · exact le_refl _
              · exact Option.some.inj hr ▸ hle
            · refine ⟨c, if_neg (not_le.2 hlt), ?_⟩
              obtain rfl | hr := hr
              · exact hlt.le
              · exact Option.some.inj hr ▸ le_refl _
      rcases h with h | h
      · rcases List.mem_cons.1 h with rfl | h
        · obtain ⟨r₁, hr₁, hle⟩ := hkept r (.inl rfl)
          obtain ⟨r', hr', hle'⟩ := ih (.inr hr₁)
          exact ⟨r', hr', hle.trans hle'⟩
        · exact ih (.inl h)
      · obtain ⟨r₁, hr₁, hle⟩ := hkept r (.inr h)
        obtain ⟨r', hr', hle'⟩ := ih (.inr hr₁)
        exact ⟨r', hr', hle.trans hle'⟩

/-- The selected rule is one of the rules, and it matches the label. -/
theorem selectionnerRegle_mem {label : String} {regles : List RegleCategorisation}
    {regle : RegleCategorisation} (h : selectionnerRegle label regles = some regle) :
    regle ∈ regles ∧ regle.correspond label = true := by
  unfold selectionnerRegle at h
  rcases foldl_retenir_mem h with hr | hr
  · rw [List.mem_filter] at hr
    exact hr
  · exact absurd hr (by simp)

/-- Among the rules that match the label, the selected one bears the highest rank. -/
theorem selectionnerRegle_max {label : String} {regles : List RegleCategorisation}
    {r : RegleCategorisation} (hr : r ∈ regles) (hcorrespond : r.correspond label = true) :
    ∃ regle, selectionnerRegle label regles = some regle ∧ r.rang ≤ regle.rang :=
  foldl_retenir_max (.inl (List.mem_filter.2 ⟨hr, hcorrespond⟩))

/-- The rank ends with the identifier. -/
theorem RegleCategorisation.id_eq_of_rang_eq {r r' : RegleCategorisation} (h : r.rang = r'.rang) :
    r.id = r'.id :=
  (Prod.mk.inj (Prod.mk.inj h).2).2

/-- The selection does not depend on the order of the rules. -/
theorem selectionnerRegle_perm {label : String} {regles regles' : List RegleCategorisation}
    (hnodup : (regles.map RegleCategorisation.id).Nodup) (h : regles.Perm regles') :
    selectionnerRegle label regles = selectionnerRegle label regles' := by
  cases hr : selectionnerRegle label regles with
  | none =>
      cases hr' : selectionnerRegle label regles' with
      | none => rfl
      | some r' =>
          obtain ⟨hmem, hcorrespond⟩ := selectionnerRegle_mem hr'
          obtain ⟨r, hsome, -⟩ := selectionnerRegle_max (h.mem_iff.2 hmem) hcorrespond
          exact nomatch hr.symm.trans hsome
  | some r =>
      obtain ⟨hmem, hcorrespond⟩ := selectionnerRegle_mem hr
      obtain ⟨r', hr', hle⟩ := selectionnerRegle_max (h.mem_iff.1 hmem) hcorrespond
      obtain ⟨hmem', hcorrespond'⟩ := selectionnerRegle_mem hr'
      obtain ⟨r'', hr'', hle'⟩ := selectionnerRegle_max (h.mem_iff.2 hmem') hcorrespond'
      obtain rfl : r = r'' := Option.some.inj (hr.symm.trans hr'')
      have hid : r.id = r'.id := RegleCategorisation.id_eq_of_rang_eq (le_antisymm hle hle')
      rw [hr', List.inj_on_of_nodup_map hnodup hmem (h.mem_iff.2 hmem') hid]

end Budgy
