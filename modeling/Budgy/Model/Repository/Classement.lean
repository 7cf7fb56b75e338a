import Budgy.Model.Cycle
import Budgy.Model.Machine

/-!
# Categories, budgets, envelopes, preferences and expenses

The repositories that classify the transactions and those that sum them.  Amounts
are encrypted, so every sum is made here, after decryption.
-/

set_option autoImplicit false

namespace Budgy

open Effects

/-- The read error of the repositories without encryption. -/
def lectureSql (e : SqlxError) : LectureError := .acces e.toText

/-- Their write error. -/
def ecritureSql (e : SqlxError) : EcritureError := .acces e.toText

namespace Categories

/-- The categories of the system and of the owner, each with the number of its transactions. -/
def listerPourProprietaire (proprietaire : ProprietaireId) :
    Tache LectureError (List CategorieAvecCompteur) := do
  let rows ← (interroger (.classement (.listerCategories proprietaire))).mapError lectureSql
  return rows.map fun row => ⟨row.1, row.2⟩

/-- `SqlxCategoriesRepository::creer`. -/
def creer (nouvelle : NouvelleCategorie) : Tache EcritureError Category :=
  (interroger (.classement (.creerCategorie nouvelle.proprietaire nouvelle.name.asStr
    nouvelle.kind nouvelle.color nouvelle.icon))).mapError ecritureSql

/-- `SqlxCategoriesRepository::mettre_a_jour`: nothing for a category that is not the owner's. -/
def mettreAJour (proprietaire : ProprietaireId) (id : CategoryId) (maj : MiseAJourCategorie) :
    Tache EcritureError (Option Category) :=
  (interroger (.classement (.mettreAJourCategorie maj.name.asStr maj.kind maj.color maj.icon id
    proprietaire))).mapError ecritureSql

/-- `SqlxCategoriesRepository::supprimer`: did the owner have such a category? -/
def supprimer (proprietaire : ProprietaireId) (id : CategoryId) : Tache EcritureError Bool := do
  let lignes ← (interroger (.classement (.supprimerCategorie id proprietaire))).mapError
    ecritureSql
  return 0 < lignes

end Categories

namespace Budgets

/-- `SqlxBudgetsRepository::enregistrer`: nothing when the category is not the owner's to use. -/
def enregistrer (nouveau : NouveauBudget) : Tache EcritureError (Option Budget) :=
  (interroger (.classement (.enregistrerBudget nouveau.proprietaire nouveau.categoryId
    nouveau.montantPrevu.cents nouveau.mois.premierJour))).mapError ecritureSql

/-- `SqlxBudgetsRepository::lister_par_mois`. -/
def listerParMois (proprietaire : ProprietaireId) (mois : NaiveDate) :
    Tache LectureError (List Budget) :=
  (interroger (.classement (.listerBudgetsParMois proprietaire mois))).mapError lectureSql

end Budgets

namespace Preferences

/-- `jour_debut_mois`: without a row, or with an absurd value, the first. -/
def jourDebutMois (proprietaire : ProprietaireId) : Tache LectureError JourDebutMois := do
  match ← (interroger (.classement (.jourDebutMois proprietaire))).mapError lectureSql with
  | none => return JourDebutMois.premier
  | some jour => return (JourDebutMois.nouveau? (jour % 2 ^ 32).toNat).getD JourDebutMois.premier

/-- `definir_jour_debut_mois`. -/
def definirJourDebutMois (proprietaire : ProprietaireId) (jour : JourDebutMois) :
    Tache EcritureError JourDebutMois := do
  (interroger (.classement (.definirJourDebutMois proprietaire jour.valeur))).mapError
    ecritureSql
  return jour

end Preferences

namespace Depenses

/-- The direction of the movements an aggregate retains. -/
inductive Sens where
  | debit
  | credit
  deriving DecidableEq

/-- `Sens::retient`: an amount of zero is of neither direction. -/
def Sens.retient : Sens → ℤ → Bool
  | .debit, montant => montant < 0
  | .credit, montant => 0 < montant

variable (crypto : CryptoService)

/-- The decrypted lines of a cycle. -/
def montantsDechiffres (owner : ProprietaireId) (rows : List (Option Uuid × List UInt8)) :
    Except LectureError (List (Option Uuid × ℤ)) :=
  rows.mapM fun row => do
    let montant ← (dechiffrerMontant crypto owner "bank_transaction" "amount_cents" row.2).mapError
      versLectureError
    return (row.1, montant)

/-- The sums by category of the amounts in one direction. -/
def totauxParCategorie (sens : Sens) (lignes : List (Option Uuid × ℤ)) :
    HashMap (Option Uuid) ℤ :=
  (lignes.filter fun l => sens.retient l.2).foldl
    (fun totaux l => totaux.modifier l.1 0 fun n => i64 (n + i64 |l.2|)) ∅

/-- `montants_par_categorie`: the amounts of the cycle that the direction keeps, summed by
category. -/
def montantsParCategorie (proprietaire : ProprietaireId) (cycle : CycleMensuel) (sens : Sens) :
    Tache LectureError (HashMap (Option Uuid) ℤ) := do
  let rows ← (interroger (.classement (.montantsParCategorie proprietaire cycle.debut
    cycle.finExclue))).mapError lectureSql
  let lignes ← Task.ofExcept (montantsDechiffres crypto proprietaire rows)
  return totauxParCategorie sens lignes

/-- `categories_par_id`: the categories of the system and of the owner. -/
def categoriesParId (proprietaire : ProprietaireId) :
    Tache LectureError (HashMap Uuid Category) := do
  let rows ← (interroger (.classement (.categoriesParId proprietaire))).mapError lectureSql
  return .collect (rows.map fun c => (c.id, c))

/-- The lines of a breakdown: a category that is not visible has no name. -/
def lignesRepartition (categories : HashMap Uuid Category) (totaux : HashMap (Option Uuid) ℤ) :
    List LigneDepenseCategorie :=
  totaux.liaisons.map fun e => ⟨e.1.bind fun id => categories.lookup id, e.2⟩

/-- `repartition`: the names are not read when there is no amount. -/
def repartition (proprietaire : ProprietaireId) (cycle : CycleMensuel) (sens : Sens) :
    Tache LectureError RepartitionDepenses := do
  let totaux ← montantsParCategorie crypto proprietaire cycle sens
  if totaux.entries.isEmpty then
    return ⟨0, []⟩
  else
    let categories ← categoriesParId proprietaire
    return ⟨sommeI64 totaux.valeurs,
      trierParMontantDecroissant (lignesRepartition categories totaux)⟩

/-- `repartition_mensuelle_par_categorie`: the expenses. -/
def repartitionMensuelleParCategorie (proprietaire : ProprietaireId) (cycle : CycleMensuel) :
    Tache LectureError RepartitionDepenses :=
  repartition crypto proprietaire cycle .debit

/-- `repartition_mensuelle_revenus_par_categorie`: the income. -/
def repartitionMensuelleRevenusParCategorie (proprietaire : ProprietaireId)
    (cycle : CycleMensuel) : Tache LectureError RepartitionDepenses :=
  repartition crypto proprietaire cycle .credit

end Depenses

namespace Enveloppes

/-- What was spent in an envelope. -/
structure Consommation where
  depenseCents : ℤ
  nombre : ℤ
  deriving DecidableEq

variable (crypto : CryptoService)

/-- Net sums: a refund gives back to the envelope. -/
def totaliser (lignes : List (Uuid × ℤ)) : HashMap Uuid Consommation :=
  lignes.foldl
    (fun totaux l => totaux.modifier l.1 ⟨0, 0⟩ fun c =>
      ⟨i64 (c.depenseCents + i64 (-l.2)), i64 (c.nombre + 1)⟩)
    ∅

/-- `consommations`: what was spent from each envelope, and in how many transactions. -/
def consommations (proprietaire : ProprietaireId) :
    Tache LectureError (HashMap Uuid Consommation) := do
  let rows ← (interroger (.classement (.consommations proprietaire))).mapError lectureSql
  let lignes ← Task.ofExcept (rows.mapM fun row => do
    let montant ←
      (dechiffrerMontant crypto proprietaire "bank_transaction" "amount_cents" row.2).mapError
        versLectureError
    return (row.1, montant))
  return totaliser lignes

/-- `SqlxEnveloppesRepository::lister`: an envelope without transactions has spent nothing. -/
def lister (proprietaire : ProprietaireId) : Tache LectureError (List SuiviEnveloppe) := do
  let rows ← (interroger (.classement (.listerEnveloppes proprietaire))).mapError lectureSql
  let totaux ← consommations crypto proprietaire
  return rows.map fun enveloppe =>
    let consommation := (totaux.lookup enveloppe.id).getD ⟨0, 0⟩
    ⟨enveloppe, consommation.depenseCents, consommation.nombre⟩

/-- `SqlxEnveloppesRepository::creer`. -/
def creer (nouvelle : NouvelleEnveloppe) : Tache EcritureError Enveloppe :=
  (interroger (.classement (.creerEnveloppe nouvelle.proprietaire nouvelle.nom.asStr
    nouvelle.icon nouvelle.color nouvelle.montant.cents))).mapError ecritureSql

/-- `SqlxEnveloppesRepository::modifier`: nothing for an envelope that is not the owner's. -/
def modifier (proprietaire : ProprietaireId) (id : EnveloppeId) (maj : MiseAJourEnveloppe) :
    Tache EcritureError (Option Enveloppe) :=
  (interroger (.classement (.modifierEnveloppe id proprietaire maj.nom.asStr maj.icon maj.color
    maj.montant.cents))).mapError ecritureSql

/-- `SqlxEnveloppesRepository::supprimer`: did the owner have such an envelope? -/
def supprimer (proprietaire : ProprietaireId) (id : EnveloppeId) : Tache EcritureError Bool := do
  let lignes ← (interroger (.classement (.supprimerEnveloppe id proprietaire))).mapError
    ecritureSql
  return 0 < lignes

/-- `affecter_transaction`: was a transaction of the owner updated? -/
def affecterTransaction (proprietaire : ProprietaireId) (transaction : Uuid)
    (enveloppe : Option EnveloppeId) : Tache EcritureError Bool := do
  let lignes ← (interroger (.classement (.affecterTransaction transaction proprietaire
    enveloppe))).mapError ecritureSql
  return 0 < lignes

end Enveloppes

end Budgy
