import Budgy.Model.Detection
import Budgy.Model.Machine

/-!
# `repository/bank_transactions.rs`

Insertion of an observation, categorisation by hand, by rule and by default,
pairing of internal transfers, detection of recurrences and listings.
-/

set_option autoImplicit false

namespace Budgy

open Effects

/-- `dedup_key_transaction`: an account stores one row per identifier of the bank. -/
def dedupKeyTransaction (crypto : CryptoService) (bankAccount : BankAccountId)
    (externalTransactionId : String) : String :=
  crypto.dedupKey bankAccount.asBytes externalTransactionId

/-- `LIMITE_RETROACTIF`. -/
def limiteRetroactif : ℕ := 5000

/-- `ChampTriTransaction`: the date or the amount. -/
inductive ChampTriTransaction where
  | date
  | montant
  deriving DecidableEq

/-- `OrdreTri`. -/
inductive OrdreTri where
  | ascendant
  | descendant
  deriving DecidableEq

/-- `TriTransactions`: the field that sorts a listing, and the way it goes. -/
structure TriTransactions where
  champ : ChampTriTransaction
  ordre : OrdreTri
  deriving DecidableEq

/-- `FiltreTransactions`: whether the listing of an account keeps the uncategorised only. -/
structure FiltreTransactions where
  nonCategorisees : Bool
  deriving DecidableEq

/-- `FiltreTransactionsProprietaire`: an absent criterion keeps everything. -/
structure FiltreTransactionsProprietaire where
  compte : Option BankAccountId
  categorie : Option CategoryId
  debut : Option NaiveDate
  fin : Option NaiveDate
  sens : Option SensTransaction
  deriving DecidableEq

/-- The key of `trier`: the field, then the creation instant and the identifier. -/
def cleTri (champ : ChampTriTransaction) (t : TransactionBancaire) :
    (ℕ ×ₗ ℤ) ×ₗ (ℤ ×ₗ Uuid) :=
  let base : ℕ ×ₗ ℤ := match champ with
    | .montant => toLex (0, t.amountCents)
    | .date => match t.dateEffective with
        | none => toLex (0, 0)
        | some d => toLex (1, d.toDays)
  toLex (base, toLex (t.createdAt, t.id))

/-- `trier`: both orders compare the same key. -/
def trier (transactions : List TransactionBancaire) (tri : TriTransactions) :
    List TransactionBancaire :=
  match tri.ordre with
  | .ascendant => Relational.sortBy (cleTri tri.champ) transactions
  | .descendant => Relational.sortBy (fun t => OrderDual.toDual (cleTri tri.champ t)) transactions

/-- `filtrer_trier_paginer`: the total counts what the direction keeps, before the page is cut. -/
def filtrerTrierPaginer (transactions : List TransactionBancaire) (sens : Option SensTransaction)
    (tri : TriTransactions) (tranche : Tranche) : LectureResultat TransactionBancaire :=
  let filtrees := match sens with
    | some sens => transactions.filter fun t => t.sens = sens
    | none => transactions
  let triees := trier filtrees tri
  ⟨(triees.drop tranche.offset).take tranche.limit, triees.length⟩

namespace BankTransactions

variable (crypto : CryptoService)

/-- `into_transaction`: the first field that cannot be decrypted fails the row. -/
def intoTransaction (row : TransactionAvecOwner) :
    Except ChiffrementError TransactionBancaire := do
  let t := row.transaction
  let externalTransactionId ← dechiffrerTexte crypto row.ownerId "bank_transaction"
    "external_transaction_id" t.externalTransactionId
  let label ← dechiffrerTexte crypto row.ownerId "bank_transaction" "label" t.label
  let amountCents ←
    dechiffrerMontant crypto row.ownerId "bank_transaction" "amount_cents" t.amountCents
  return {
    id := t.id
    bankAccount := t.bankAccountId
    externalTransactionId := externalTransactionId
    status := t.status
    label := label
    amountCents := amountCents
    currency := t.currency
    bookingDate := t.bookingDate
    valueDate := t.valueDate
    category := t.categoryId
    enveloppe := t.enveloppeId
    categorizationSource := t.categorizationSource
    ruleId := t.ruleId
    isRecurrent := t.isRecurrent
    recurrenceInterval := t.recurrenceInterval
    createdAt := t.createdAt }

/-- `owner_du_compte`. -/
def ownerDuCompte (bankAccount : BankAccountId) : Tache ChiffrementError ProprietaireId :=
  interrogerChiffre (.compte (.ownerDuCompte bankAccount))

/-- `insert`: the key of deduplication decides between an insertion and an update. -/
def insert (nouvelle : NouvelleTransactionBancaire) :
    Tache ChiffrementError (ResultatInsertion TransactionBancaireId) := do
  let owner ← ownerDuCompte nouvelle.bankAccount
  let externalTransactionId ← chiffrerTexteFrais crypto owner "bank_transaction"
    "external_transaction_id" nouvelle.externalTransactionId
  let label ← chiffrerTexteFrais crypto owner "bank_transaction" "label" nouvelle.label
  let amount ←
    chiffrerMontantFrais crypto owner "bank_transaction" "amount_cents" nouvelle.amountCents
  let dedup :=
    dedupKeyTransaction crypto nouvelle.bankAccount nouvelle.externalTransactionId
  let resultat ← interrogerChiffre (.transaction (.insert
    { bankAccountId := nouvelle.bankAccount
      externalTransactionId := externalTransactionId
      dedupKey := dedup
      status := nouvelle.status
      label := label
      amountCents := amount
      currency := nouvelle.currency
      bookingDate := nouvelle.bookingDate
      valueDate := nouvelle.valueDate }))
  match resultat with
  | some (id, true) => return .inseree id
  | _ => return .doublon

/-- `fetch`. -/
def fetch (id : TransactionBancaireId) : Tache ChiffrementError (Option TransactionBancaire) := do
  match ← interrogerChiffre (.transaction (.fetch id)) with
  | none => return none
  | some row =>
      let transaction ← Task.ofExcept (intoTransaction crypto row)
      return some transaction

/-- `lister_par_compte`: the count and the page are two statements. -/
def listerParCompte (proprietaire : ProprietaireId) (compte : BankAccountId)
    (filtre : FiltreTransactions) (tranche : Tranche) :
    Tache ChiffrementError (LectureResultat TransactionBancaire) := do
  let total ← interrogerChiffre
    (.transaction (.compterParCompte compte proprietaire filtre.nonCategorisees))
  let rows ← interrogerChiffre (.transaction (.listerParCompte compte proprietaire
    filtre.nonCategorisees tranche.limit tranche.offset))
  let elements ← Task.ofExcept (rows.mapM (intoTransaction crypto))
  return ⟨elements, total⟩

/-- `lister_pour_proprietaire`: every row is decrypted, then the page is sorted and cut in
memory. -/
def listerPourProprietaire (proprietaire : ProprietaireId)
    (filtre : FiltreTransactionsProprietaire) (tri : TriTransactions) (tranche : Tranche) :
    Tache ChiffrementError (LectureResultat TransactionBancaire) := do
  let rows ← interrogerChiffre (.transaction (.listerPourProprietaire proprietaire
    ⟨filtre.compte, filtre.categorie, filtre.debut, filtre.fin⟩))
  let transactions ← Task.ofExcept (rows.mapM (intoTransaction crypto))
  return filtrerTrierPaginer transactions filtre.sens tri tranche

/-- `categorie_accessible`: the category is of the system or of the owner. -/
def categorieAccessible (proprietaire : ProprietaireId) (category : CategoryId) :
    Tache ChiffrementError Bool := do
  let existe ← interrogerChiffre (.transaction (.categorieAccessible category proprietaire))
  return existe.isSome

/-- `categoriser`: a choice by hand, refused when the category is not the owner's to use. -/
def categoriser (proprietaire : ProprietaireId) (compte : BankAccountId)
    (transaction : TransactionBancaireId) (category : CategoryId) :
    Tache ChiffrementError CategorisationTransaction := do
  if !(← categorieAccessible proprietaire category) then
    return .categorieIntrouvable
  let miseAJour ← interrogerChiffre
    (.transaction (.categoriser category transaction compte proprietaire))
  if miseAJour.isNone then
    return .transactionIntrouvable
  match ← fetch crypto transaction with
  | some transaction => return .categorisee transaction
  | none => return .transactionIntrouvable

/-- `appliquer_regle`: a transaction that was just inserted receives the category of a rule. -/
def appliquerRegle (proprietaire : ProprietaireId) (transaction : TransactionBancaireId)
    (regle : RegleCategorisation) : Tache ChiffrementError Unit := do
  let _ ← interrogerChiffre
    (.transaction (.appliquerRegle regle.categoryId regle.id transaction proprietaire))
  return ()

/-- `lister_non_categorisees_pour_proprietaire`: an unreadable label fails the batch. -/
def listerNonCategoriseesPourProprietaire (proprietaire : ProprietaireId) :
    Tache ChiffrementError (List (TransactionBancaireId × String)) := do
  let rows ← interrogerChiffre
    (.transaction (.listerNonCategorisees proprietaire limiteRetroactif))
  Task.ofExcept (rows.mapM fun row => do
    let label ← dechiffrerTexte crypto proprietaire "bank_transaction" "label" row.2
    return (row.1, label))

/-- `appliquer_regle_par_lot`: one statement for all the transactions of a rule. -/
def appliquerRegleParLot (regle : RegleCategorisation) (transactions : List Uuid) :
    Tache ChiffrementError ℕ :=
  interrogerChiffre
    (.transaction (.appliquerRegleParLot regle.categoryId regle.id transactions regle.ownerId))

/-- `categorie_credit_par_defaut`: the category that is named `Salaire`. -/
def categorieCreditParDefaut (owner : ProprietaireId) : Tache ChiffrementError (Option Uuid) :=
  interrogerChiffre (.transaction (.categorieCreditParDefaut owner))

/-- `lister_credits_non_categorises`: the credits among the rows that are listed. -/
def listerCreditsNonCategorises (owner : ProprietaireId) :
    Tache ChiffrementError (List Uuid) := do
  let rows ← interrogerChiffre
    (.transaction (.listerCreditsNonCategorises owner limiteRetroactif))
  let montants ← Task.ofExcept (rows.mapM fun row => do
    let amount ← dechiffrerMontant crypto owner "bank_transaction" "amount_cents" row.2
    return (row.1, amount))
  return (montants.filter fun m => 0 ≤ m.2).map Prod.fst

/-- `appliquer_categorie_defaut_par_lot`: no statement for an empty batch. -/
def appliquerCategorieDefautParLot (owner : ProprietaireId) (category : Uuid)
    (ids : List Uuid) : Tache ChiffrementError ℕ :=
  if ids = [] then return 0
  else interrogerChiffre (.transaction (.appliquerCategorieDefautParLot category ids owner))

/-- `libelle_transaction`. -/
def libelleTransaction (owner : ProprietaireId) (account : BankAccountId)
    (transaction : TransactionBancaireId) : Tache ChiffrementError (Option String) := do
  match ← interrogerChiffre (.transaction (.libelleTransaction transaction account owner)) with
  | some labelBlob =>
      let label ← Task.ofExcept (dechiffrerTexte crypto owner "bank_transaction" "label" labelBlob)
      return some label
  | none => return none

/-! ### Recurrences -/

/-- The occurrence of a row, when it has a date. -/
def occurrence? (owner : ProprietaireId) (t : BankTransactionRow) :
    Except ChiffrementError (Option OccurrenceTransaction) :=
  match t.date with
  | none => .ok none
  | some date => do
      let label ← dechiffrerTexte crypto owner "bank_transaction" "label" t.label
      let amountCents ←
        dechiffrerMontant crypto owner "bank_transaction" "amount_cents" t.amountCents
      return some ⟨t.id, label, amountCents, date⟩

/-- `lister_occurrences_pour_detection`. -/
def listerOccurrencesPourDetection (proprietaire : ProprietaireId) :
    Tache ChiffrementError (List OccurrenceTransaction) := do
  let rows ← interrogerChiffre (.transaction (.listerOccurrences proprietaire))
  let occurrences ← Task.ofExcept (rows.mapM (occurrence? crypto proprietaire))
  return occurrences.filterMap id

/-- `reinitialiser_recurrences`. -/
def reinitialiserRecurrences (proprietaire : ProprietaireId) : Tache ChiffrementError Unit := do
  let _ ← interrogerChiffre (.transaction (.reinitialiserRecurrences proprietaire))
  return ()

/-- `marquer_recurrentes`: no statement for an empty batch. -/
def marquerRecurrentes (proprietaire : ProprietaireId) (interval : RecurrenceInterval)
    (ids : List Uuid) : Tache ChiffrementError ℕ :=
  if ids = [] then return 0
  else interrogerChiffre (.transaction (.marquerRecurrentes proprietaire interval ids))

/-- `recalculer_recurrences`: the flags are reset, then set again by another statement. -/
def recalculerRecurrences (proprietaire : ProprietaireId) : Tache ChiffrementError ℕ := do
  let occurrences ← listerOccurrencesPourDetection crypto proprietaire
  let recurrentes := detecterRecurrences occurrences
  reinitialiserRecurrences proprietaire
  (recurrentes.map TransactionRecurrente.interval).dedup.foldlM
    (fun marquees interval => do
      let ids := (recurrentes.filter fun r => r.interval = interval).map TransactionRecurrente.id
      let n ← marquerRecurrentes proprietaire interval ids
      return marquees + n)
    0

/-! ### Internal transfers -/

/-- The movement of a row, when it has a date. -/
def mouvement? (owner : ProprietaireId) (t : BankTransactionRow) :
    Except ChiffrementError (Option MouvementCandidat) :=
  match t.date with
  | none => .ok none
  | some date => do
      let amountCents ←
        dechiffrerMontant crypto owner "bank_transaction" "amount_cents" t.amountCents
      let libelleBrut ← dechiffrerTexte crypto owner "bank_transaction" "label" t.label
      let rangeALaMain := t.categorizationSource = .manual &&
        t.categoryId.any fun id => id ≠ categorieVirementsInternes
      return some ⟨t.id, t.bankAccountId, amountCents, date, extraireTiers libelleBrut,
        rangeALaMain⟩

/-- `lister_mouvements_pour_appariement`. -/
def listerMouvementsPourAppariement (proprietaire : ProprietaireId) :
    Tache ChiffrementError (List MouvementCandidat) := do
  let rows ← interrogerChiffre (.transaction (.listerMouvements proprietaire))
  let mouvements ← Task.ofExcept (rows.mapM (mouvement? crypto proprietaire))
  return mouvements.filterMap id

/-- `ids_transferts_internes`. -/
def idsTransfertsInternes (proprietaire : ProprietaireId) : Tache ChiffrementError (List Uuid) :=
  interrogerChiffre (.transaction (.idsTransfertsInternes proprietaire))

/-- `reinitialiser_transferts_internes`. -/
def reinitialiserTransfertsInternes (proprietaire : ProprietaireId) :
    Tache ChiffrementError Unit := do
  let _ ← interrogerChiffre (.transaction (.reinitialiserTransfertsInternes proprietaire))
  return ()

/-- `marquer_transferts_internes`: no statement for an empty batch. -/
def marquerTransfertsInternes (proprietaire : ProprietaireId) (ids : List Uuid) :
    Tache ChiffrementError ℕ :=
  if ids = [] then return 0
  else interrogerChiffre (.transaction (.marquerTransfertsInternes proprietaire ids))

/-- `recalculer_transferts_internes`: the flags are reset, then set again by another statement. -/
def recalculerTransfertsInternes (proprietaire : ProprietaireId) : Tache ChiffrementError ℕ := do
  let mouvements ← listerMouvementsPourAppariement crypto proprietaire
  let apparies := detecterTransfertsInternes mouvements
  reinitialiserTransfertsInternes proprietaire
  marquerTransfertsInternes proprietaire apparies

end BankTransactions

/-! ## `SqlxReglesCategorisationRepository` -/

namespace Regles

/-- `SqlxReglesCategorisationRepository::creer`: no rule when the category is not the owner's to
use. -/
def creer (nouvelle : NouvelleRegleCategorisation) :
    Tache EcritureError (Option RegleCategorisation) :=
  (interroger (.classement (.creerRegle nouvelle.proprietaire nouvelle.labelPattern.asStr
    nouvelle.categoryId nouvelle.priority))).mapError fun e => .acces e.toText

/-- `SqlxReglesCategorisationRepository::lister_pour_proprietaire`. -/
def listerPourProprietaire (proprietaire : ProprietaireId) :
    Tache LectureError (List RegleCategorisation) :=
  (interroger (.classement (.listerRegles proprietaire))).mapError fun e => .acces e.toText

end Regles

/-! ## `SqlxBankTransactionsWriteAdapter` -/

namespace BankTransactionsAdapter

variable (crypto : CryptoService)

/-- `ids_transferts_internes`, behind its port. -/
def idsTransfertsInternes (proprietaire : ProprietaireId) : Tache EcritureError (List Uuid) :=
  (BankTransactions.idsTransfertsInternes proprietaire).mapError versEcritureError

/-- `categoriser`, behind its port. -/
def categoriser (proprietaire : ProprietaireId) (compte : BankAccountId)
    (transaction : TransactionBancaireId) (category : CategoryId) :
    Tache EcritureError CategorisationTransaction :=
  (BankTransactions.categoriser crypto proprietaire compte transaction category).mapError
    versEcritureError

/-- `appliquer_regle_retroactif`: the candidates whose label matches, in one batch. -/
def appliquerRegleRetroactif (regle : RegleCategorisation) : Tache EcritureError ℕ := do
  let candidats ←
    (BankTransactions.listerNonCategoriseesPourProprietaire crypto regle.ownerId).mapError
      versEcritureError
  let cibles := (candidats.filter fun c => regle.correspond c.2).map Prod.fst
  if cibles = [] then return 0
  else (BankTransactions.appliquerRegleParLot regle cibles).mapError versEcritureError

/-- `recalculer_transferts_internes`, behind its port. -/
def recalculerTransfertsInternes (proprietaire : ProprietaireId) : Tache EcritureError ℕ :=
  (BankTransactions.recalculerTransfertsInternes crypto proprietaire).mapError versEcritureError

/-- `recategoriser_credits`: nothing is done without a default category. -/
def recategoriserCredits (proprietaire : ProprietaireId) : Tache EcritureError ℕ := do
  match ← (BankTransactions.categorieCreditParDefaut proprietaire).mapError versEcritureError with
  | none => return 0
  | some category =>
      let credits ←
        (BankTransactions.listerCreditsNonCategorises crypto proprietaire).mapError
          versEcritureError
      (BankTransactions.appliquerCategorieDefautParLot proprietaire category credits).mapError
        versEcritureError

/-- `libelle_transaction`, behind its port. -/
def libelleTransaction (proprietaire : ProprietaireId) (compte : BankAccountId)
    (transaction : TransactionBancaireId) : Tache EcritureError (Option String) :=
  (BankTransactions.libelleTransaction crypto proprietaire compte transaction).mapError
    versEcritureError

/-- `categoriser_transaction_inseree`: the rule that `selectionner_regle` chooses. -/
def categoriserTransactionInseree (bankAccount : BankAccountId)
    (transaction : TransactionBancaireId) (label : String) : Tache EcritureError Unit := do
  let proprietaire ← (BankTransactions.ownerDuCompte bankAccount).mapError versEcritureError
  let regles ← (Regles.listerPourProprietaire proprietaire).mapError fun
    | .acces message => .acces ("erreur d'accès aux données : " ++ message)
  match selectionnerRegle label regles with
  | some regle =>
      (BankTransactions.appliquerRegle proprietaire transaction regle).mapError versEcritureError
  | none => return ()

/-- `enregistrer`: the rules apply to a row that was inserted; their failure is
ignored. -/
def enregistrer (nouvelle : NouvelleTransactionBancaire) :
    Tache EcritureError (ResultatInsertion TransactionBancaireId) := do
  let resultat ← (BankTransactions.insert crypto nouvelle).mapError versEcritureError
  match resultat with
  | .inseree id =>
      let _ : Except EcritureError Unit ← Task.attempt
        (categoriserTransactionInseree nouvelle.bankAccount id nouvelle.label)
      return resultat
  | .doublon => return resultat

/-- `recalculer_recurrences`, behind its port. -/
def recalculerRecurrences (proprietaire : ProprietaireId) : Tache EcritureError ℕ :=
  (BankTransactions.recalculerRecurrences crypto proprietaire).mapError versEcritureError

/-- `lister_par_compte`, behind its port. -/
def listerParCompte (proprietaire : ProprietaireId) (compte : BankAccountId)
    (filtre : FiltreTransactions) (tranche : Tranche) :
    Tache LectureError (LectureResultat TransactionBancaire) :=
  (BankTransactions.listerParCompte crypto proprietaire compte filtre tranche).mapError
    versLectureError

/-- `lister_pour_proprietaire`, behind its port. -/
def listerPourProprietaire (proprietaire : ProprietaireId)
    (filtre : FiltreTransactionsProprietaire) (tri : TriTransactions) (tranche : Tranche) :
    Tache LectureError (LectureResultat TransactionBancaire) :=
  (BankTransactions.listerPourProprietaire crypto proprietaire filtre tri tranche).mapError
    versLectureError

end BankTransactionsAdapter

end Budgy
