import Budgy.Model.Domain
import Budgy.Interface.Table
import Mathlib.Data.List.AList
import Mathlib.Data.List.Lex
import Mathlib.Algebra.BigOperators.Group.List.Basic
import Mathlib.Algebra.Order.Ring.Int

/-!
# Aggregates over a cycle

The pure part of the budget screens: monthly breakdowns, medians of past cycles,
what remains to be spent, the forecast and the consolidated balance.  A hash map
is an association list without repeated keys; the order in which it is traversed
is one of those the source may use.
-/

set_option autoImplicit false

namespace Budgy

/-- `HashMap`. -/
abbrev HashMap (κ ν : Type) := AList fun _ : κ => ν

namespace HashMap

variable {κ ν : Type} [DecidableEq κ]

/-- The bindings of a map. -/
def liaisons (m : HashMap κ ν) : List (κ × ν) := m.entries.map fun e => (e.1, e.2)

/-- `HashMap::values`. -/
def valeurs (m : HashMap κ ν) : List ν := m.entries.map fun e => e.2

/-- `collect`: a later binding replaces an earlier one. -/
def collect (l : List (κ × ν)) : HashMap κ ν := l.foldl (fun m e => m.insert e.1 e.2) ∅

/-- `entry(k).or_insert(v)`, then an update of the value. -/
def modifier (m : HashMap κ ν) (k : κ) (defaut : ν) (f : ν → ν) : HashMap κ ν :=
  m.insert k (f ((m.lookup k).getD defaut))

/-- `HashMap::retain` on the keys. -/
def filtrer (m : HashMap κ ν) (p : κ → Bool) : HashMap κ ν :=
  collect (m.liaisons.filter fun e => p e.1)

end HashMap

/-! ## Breakdowns -/

/-- A line of a breakdown; the line without category holds what is not classified. -/
structure LigneDepenseCategorie where
  category : Option Category
  montantCents : ℤ
  deriving DecidableEq

/-- The breakdown of a cycle in a direction. -/
structure RepartitionDepenses where
  totalCents : ℤ
  lignes : List LigneDepenseCategorie
  deriving DecidableEq

/-- The sum of machine integers. -/
def sommeI64 (l : List ℤ) : ℤ := l.foldl (fun acc n => i64 (acc + n)) 0

/-- Texts are compared by their code points. -/
def cleTexte (s : String) : List ℕ := s.toList.map Char.toNat

/-- `ordre_categorie`: named categories first. -/
def ordreCategorie : Option Category → ℕ ×ₗ List ℕ
  | some c => toLex (0, cleTexte c.name)
  | none => toLex (1, [])

/-- `trier_par_montant_decroissant`. -/
def trierParMontantDecroissant (lignes : List LigneDepenseCategorie) :
    List LigneDepenseCategorie :=
  Relational.sortBy
    (fun l => toLex (-l.montantCents, ordreCategorie l.category)) lignes

/-! ## Medians -/

/-- `MOIS_HISTORIQUE`. -/
def moisHistorique : ℕ := 3

/-- `indexer_par_categorie`: the lines that have a category. -/
def indexerParCategorie (repartition : RepartitionDepenses) : HashMap Uuid ℤ :=
  .collect (repartition.lignes.filterMap fun ligne =>
    ligne.category.map fun category => (category.id, ligne.montantCents))

/-- `mediane`: the mean of the two middle values when their number is even, rounded towards
zero. -/
def mediane (valeurs : List ℤ) : ℤ :=
  if valeurs = [] then 0
  else
    let triees := Relational.sortBy id valeurs
    let milieu := triees.length / 2
    if triees.length % 2 = 0 then
      (i64 (triees.getD (milieu - 1) 0 + triees.getD milieu 0)).tdiv 2
    else triees.getD milieu 0

/-- `Vec::resize` with zeros. -/
def completer (n : ℕ) (l : List ℤ) : List ℤ := l.take n ++ List.replicate (n - l.length) 0

/-- The amounts of each category, one for each cycle in which it has a line. -/
def mediansParCategorieMontants (historique : List RepartitionDepenses) :
    HashMap Uuid (List ℤ) :=
  historique.foldl
    (fun m mois => (indexerParCategorie mois).liaisons.foldl
      (fun m e => m.modifier e.1 [] fun l => l ++ [e.2]) m)
    ∅

/-- `medianes_par_categorie`: a cycle without a line counts as zero, and only positive medians
stay. -/
def medianesParCategorie (historique : List RepartitionDepenses) : HashMap Uuid ℤ :=
  .collect ((mediansParCategorieMontants historique).liaisons.filterMap fun e =>
    let m := mediane (completer historique.length e.2)
    if 0 < m then some (e.1, m) else none)

/-! ## What remains to be spent -/

/-- What is left of a category in a month. -/
structure ResteCategorie where
  categoryId : CategoryId
  category : Option Category
  montantPrevuCents : ℤ
  depenseCents : ℤ
  resteCents : ℤ
  depassementCents : ℤ
  depasse : Bool
  deriving DecidableEq

/-- The line of a category, from its planned amount and what was spent. -/
def resteCategorie (categories : HashMap Uuid Category) (depenses : HashMap Uuid ℤ)
    (categoryId : CategoryId) (montantPrevuCents : ℤ) : ResteCategorie :=
  let depenseCents := (depenses.lookup categoryId).getD 0
  { categoryId := categoryId
    category := categories.lookup categoryId
    montantPrevuCents := montantPrevuCents
    depenseCents := depenseCents
    resteCents := i64 (montantPrevuCents - depenseCents)
    depassementCents := max (i64 (depenseCents - montantPrevuCents)) 0
    depasse := montantPrevuCents < depenseCents }

/-- `trier_par_reste_croissant`. -/
def trierParResteCroissant (lignes : List ResteCategorie) : List ResteCategorie :=
  Relational.sortBy
    (fun l => toLex (l.resteCents, cleTexte ((l.category.map Category.name).getD ""))) lignes

/-- `calculer_reste_a_depenser`: one line for each budget. -/
def calculerResteADepenser (budgets : List Budget) (depenses : RepartitionDepenses)
    (categories : HashMap Uuid Category) : List ResteCategorie :=
  let depensesParCategorie := indexerParCategorie depenses
  trierParResteCroissant (budgets.map fun budget =>
    resteCategorie categories depensesParCategorie budget.categoryId budget.montantPrevuCents)

/-- `calculer_reste_a_depenser_predit`: one line for each positive median. -/
def calculerResteADepenserPredit (historique : List RepartitionDepenses)
    (depensesCourant : RepartitionDepenses) (categories : HashMap Uuid Category) :
    List ResteCategorie :=
  let reel := indexerParCategorie depensesCourant
  trierParResteCroissant ((medianesParCategorie historique).liaisons.map fun e =>
    resteCategorie categories reel e.1 e.2)

/-! ## Forecast -/

/-- A line of the forecast: planned, realised, and still to come. -/
structure LignePrevisionCategorie where
  categoryId : Option CategoryId
  category : Option Category
  prevuCents : ℤ
  realiseCents : ℤ
  restantCents : ℤ
  deriving DecidableEq

/-- The forecast: the balance with what is still expected, and its lines. -/
structure Previsionnel where
  soldePrevisionnelCents : ℤ
  soldeActuelCents : ℤ
  revenusRestantsCents : ℤ
  depensesRestantesCents : ℤ
  lignes : List LignePrevisionCategorie
  donneesSuffisantes : Bool
  deriving DecidableEq

/-- One side of the forecast: the line of every predicted category. -/
def lignesPrevision (categories : HashMap Uuid Category) (prevues reelles : HashMap Uuid ℤ) :
    List LignePrevisionCategorie :=
  prevues.liaisons.map fun e =>
    let realiseCents := (reelles.lookup e.1).getD 0
    { categoryId := some e.1
      category := categories.lookup e.1
      prevuCents := e.2
      realiseCents := realiseCents
      restantCents := max (i64 (e.2 - realiseCents)) 0 }

/-- `trier_lignes`: what remains to come first, then the name. -/
def trierLignes (lignes : List LignePrevisionCategorie) : List LignePrevisionCategorie :=
  Relational.sortBy
    (fun l => toLex (-l.restantCents, cleTexte ((l.category.map Category.name).getD ""))) lignes

/-- `calculer_previsionnel`: the income and the expenses still expected are added to the
balance. -/
def calculerPrevisionnel (soldeActuelCents : ℤ) (depensesPrevues revenusPrevus : HashMap Uuid ℤ)
    (depensesRealisees revenusRealises : RepartitionDepenses)
    (categories : HashMap Uuid Category) : Previsionnel :=
  let lignesDepenses :=
    lignesPrevision categories depensesPrevues (indexerParCategorie depensesRealisees)
  let lignesRevenus :=
    lignesPrevision categories revenusPrevus (indexerParCategorie revenusRealises)
  let depensesRestantesCents := sommeI64 (lignesDepenses.map (·.restantCents))
  let revenusRestantsCents := sommeI64 (lignesRevenus.map (·.restantCents))
  { soldePrevisionnelCents :=
      i64 (i64 (soldeActuelCents + revenusRestantsCents) - depensesRestantesCents)
    soldeActuelCents := soldeActuelCents
    revenusRestantsCents := revenusRestantsCents
    depensesRestantesCents := depensesRestantesCents
    lignes := trierLignes (lignesDepenses ++ lignesRevenus)
    donneesSuffisantes := !depensesPrevues.entries.isEmpty || !revenusPrevus.entries.isEmpty }

/-- `categories_de_revenu`, as a membership test. -/
def estCategorieDeRevenu (categories : HashMap Uuid Category) (id : Uuid) : Bool :=
  match categories.lookup id with
  | some category => category.kind = .revenu
  | none => false

/-! ## Consolidated balance -/

/-- The balance of all the accounts of a user. -/
structure SoldeConsolide where
  totalCents : ℤ
  totalAVenirCents : Option ℤ
  comptes : List CompteAvecSolde
  deriving DecidableEq

/-- `SoldeConsolide::consolider`: both sums saturate, and no balance to come gives none. -/
def SoldeConsolide.consolider (comptes : List CompteAvecSolde) : SoldeConsolide :=
  let totalCents := (comptes.filterMap CompteAvecSolde.solde).foldl
    (fun acc solde => saturatingAdd acc solde.amountCents) 0
  let totalAVenirCents :=
    if comptes.any fun c => c.soldeAVenir.isSome then
      some (comptes.foldl (fun acc compte =>
        saturatingAdd acc (((compte.soldeAVenir.or compte.solde).map Balance.amountCents).getD 0)) 0)
    else none
  ⟨totalCents, totalAVenirCents, comptes⟩

end Budgy
