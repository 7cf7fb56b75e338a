import Budgy.Model.Libelle
import Budgy.Interface.Table
import Mathlib.Data.Rat.Defs
import Mathlib.Algebra.Order.Ring.Unbundled.Rat

/-!
# Internal transfers and recurrences

`domain/transfert_interne.rs` pairs the two faces of a transfer between two
accounts of one owner, the most alike labels first.  `domain/recurrence.rs` marks
the occurrences of a merchant that come back every month with close amounts.
-/

set_option autoImplicit false

namespace Budgy

/-! ## Internal transfers -/

/-- A dated movement, with what the matching looks at. -/
structure MouvementCandidat where
  id : TransactionBancaireId
  compte : BankAccountId
  amountCents : ℤ
  date : NaiveDate
  libelle : String
  rangeALaMain : Bool
  deriving DecidableEq

/-- `TOLERANCE_JOURS`. -/
def toleranceJours : ℤ := 4

/-- `RESSEMBLANCE_MINIMALE`. -/
def ressemblanceMinimale : ℚ := 1 / 4

/-- `sont_les_deux_faces`: two accounts, opposite amounts, and dates within the tolerance. -/
def sontLesDeuxFaces (debit credit : MouvementCandidat) : Bool :=
  credit.compte ≠ debit.compte &&
  credit.amountCents = i64 (-debit.amountCents) &&
  |credit.date.toDays - debit.date.toDays| ≤ toleranceJours

/-- The distinct words of a label, in upper case. -/
def mots (texte : String) : List String :=
  ((Text.splitWhitespace texte).map Text.toUppercase).dedup

/-- `ressemblance`: the Jaccard index, an exact quotient of two counts. -/
def ressemblance (a b : String) : ℚ :=
  let communs := ((mots a).filter fun mot => (mots b).contains mot).length
  let union := (mots a).length + (mots b).length - communs
  if union = 0 then 0 else (communs : ℚ) / union

/-- A debit and a credit that may be the two faces of one transfer. -/
structure Couple where
  score : ℚ
  debit : MouvementCandidat
  credit : MouvementCandidat

/-- Every possible pair, debit by debit. -/
def couplesPossibles (mouvements : List MouvementCandidat) : List Couple :=
  let debits := mouvements.filter fun m => m.amountCents < 0
  let credits := mouvements.filter fun m => 0 < m.amountCents
  debits.flatMap fun debit =>
    (credits.filter fun credit => sontLesDeuxFaces debit credit).map fun credit =>
      ⟨ressemblance debit.libelle credit.libelle, debit, credit⟩

/-- The order of `couples.sort_by`: best score first, then date and identifiers. -/
def Couple.ordre (c : Couple) : ℚ ×ₗ (NaiveDate ×ₗ (Uuid ×ₗ Uuid)) :=
  toLex (-c.score, toLex (c.debit.date, toLex (c.debit.id, c.credit.id)))

/-- The pairs that a debit is part of. -/
def partenairesDuDebit (couples : List Couple) (id : Uuid) : ℕ :=
  couples.countP fun c => c.debit.id = id

/-- The pairs that a credit is part of. -/
def partenairesDuCredit (couples : List Couple) (id : Uuid) : ℕ :=
  couples.countP fun c => c.credit.id = id

/-- `appariement_sans_doute`: each is the only partner of the other, and neither was classified
by hand. -/
def appariementSansDoute (couples : List Couple) (debit credit : MouvementCandidat) : Bool :=
  partenairesDuDebit couples debit.id = 1 && partenairesDuCredit couples credit.id = 1 &&
  !debit.rangeALaMain && !credit.rangeALaMain

/-- The sets of movements already taken and the pairs retained so far. -/
structure Appariement where
  debitsPris : List Uuid
  creditsPris : List Uuid
  apparies : List TransactionBancaireId

/-- One turn of the greedy loop. -/
def examinerCouple (couples : List Couple) (etat : Appariement) (c : Couple) : Appariement :=
  if etat.debitsPris.contains c.debit.id || etat.creditsPris.contains c.credit.id then etat
  else if c.score < ressemblanceMinimale && !appariementSansDoute couples c.debit c.credit then
    etat
  else
    { debitsPris := c.debit.id :: etat.debitsPris
      creditsPris := c.credit.id :: etat.creditsPris
      apparies := etat.apparies ++ [c.debit.id, c.credit.id] }

/-- `detecter_transferts_internes`: the pairs are examined in order, and each side is taken
once. -/
def detecterTransfertsInternes (mouvements : List MouvementCandidat) :
    List TransactionBancaireId :=
  let couples := couplesPossibles mouvements
  ((Relational.sortBy Couple.ordre couples).foldl (examinerCouple couples) ⟨[], [], []⟩).apparies

/-! ## Recurrences -/

/-- An occurrence of a transaction, with what the detection looks at. -/
structure OccurrenceTransaction where
  id : TransactionBancaireId
  label : String
  amountCents : ℤ
  date : NaiveDate
  deriving DecidableEq

/-- A transaction found to be recurrent. -/
structure TransactionRecurrente where
  id : TransactionBancaireId
  interval : RecurrenceInterval
  deriving DecidableEq

/-- `OCCURRENCES_MINIMALES`. -/
def occurrencesMinimales : ℕ := 3

/-- `INTERVALLE_MENSUEL_MIN_JOURS`, `INTERVALLE_MENSUEL_MAX_JOURS`. -/
def intervalleMensuelMinJours : ℤ := 26
/-- `INTERVALLE_MENSUEL_MAX_JOURS`. -/
def intervalleMensuelMaxJours : ℤ := 35

/-- `TOLERANCE_MONTANT_CENTS`. -/
def toleranceMontantCents : ℤ := 100

/-- `normaliser_marchand`: the key of the merchant is the extracted third party. -/
def normaliserMarchand (label : String) : String := extraireTiers label

/-- `montants_proches`: within the tolerance, in machine arithmetic. -/
def montantsProches (a b : ℤ) : Bool := i64 |i64 (a - b)| ≤ toleranceMontantCents

/-- One turn of the loop of `regrouper_par_montant`: the last group takes the
occurrence when its first amount is close. -/
def ajouterAuGroupe (grappes : List (List OccurrenceTransaction)) (o : OccurrenceTransaction) :
    List (List OccurrenceTransaction) :=
  match grappes.getLast? with
  | some (premier :: suite) =>
      if montantsProches premier.amountCents o.amountCents then
        grappes.dropLast ++ [premier :: suite ++ [o]]
      else grappes ++ [[o]]
  | _ => grappes ++ [[o]]

/-- `regrouper_par_montant`: the sorted occurrences, each joined to the group before it when it
is near. -/
def regrouperParMontant (occurrences : List OccurrenceTransaction) :
    List (List OccurrenceTransaction) :=
  (Relational.sortBy OccurrenceTransaction.amountCents occurrences).foldl ajouterAuGroupe []

/-- `grappe_est_mensuelle`: enough occurrences, and every gap between their dates is monthly. -/
def grappeEstMensuelle (grappe : List OccurrenceTransaction) : Bool :=
  if grappe.length < occurrencesMinimales then false
  else
    let dates := Relational.sortBy id (grappe.map OccurrenceTransaction.date)
    let intervallesMensuels := (dates.zip dates.tail).countP fun paire =>
      let jours := paire.2.toDays - paire.1.toDays
      intervalleMensuelMinJours ≤ jours && jours ≤ intervalleMensuelMaxJours
    intervallesMensuels ≥ occurrencesMinimales - 1

/-- The groups of occurrences of one merchant, in some order: the source visits them
in the order of a hash map. -/
def parMarchand (occurrences : List OccurrenceTransaction) : List (List OccurrenceTransaction) :=
  (occurrences.map fun o => normaliserMarchand o.label).dedup.map fun marchand =>
    occurrences.filter fun o => normaliserMarchand o.label = marchand

/-- `detecter_recurrences`: the monthly groups of each merchant. -/
def detecterRecurrences (occurrences : List OccurrenceTransaction) :
    List TransactionRecurrente :=
  (parMarchand occurrences).flatMap fun groupe =>
    ((regrouperParMontant groupe).filter fun grappe => grappeEstMensuelle grappe).flatMap
      fun grappe => grappe.map fun o => ⟨o.id, .mensuel⟩

end Budgy
