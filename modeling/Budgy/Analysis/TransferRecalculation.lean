import Budgy.Analysis.TransferDetection
import Budgy.Analysis.TransfersAndRules
import Budgy.Interface.Traversal

/-!
# What a recalculation of the transfers does

`recalculer_transferts_internes` lists the movements of an owner, pairs them, takes the
flags back and flags what it paired.  `recalculer_eq` says that these four steps are one
function on the rows (`Store.recalcule`), applied to what is detected in the movements of
the store: the order in which the database lists them does not matter.  The properties of
the recalculation (`recalcul_exact`) are those of this function.
-/

set_option autoImplicit false

namespace Budgy

open Effects Relational RequeteTransaction

/-! ## The movements of a store -/

section Movements

variable (crypto : CryptoService) (owner : ProprietaireId)

/-- The movement of a row, when it has a date and decrypts. -/
def BankTransactionRow.mouvement (t : BankTransactionRow) : Option MouvementCandidat :=
  (BankTransactions.mouvement? crypto owner t).toOption.join

/-- The dated movements of an owner. -/
def Store.mouvements (s : Store) : List MouvementCandidat :=
  (s.bankTransaction.select (s.txDe owner)).filterMap
    (BankTransactionRow.mouvement crypto owner)

/-- The amounts of an owner are above the least value of an `i64`. -/
def Store.AuDessusDuMinimum (s : Store) : Prop :=
  ∀ t ∈ s.bankTransaction, s.txDe owner t = true → ∀ n,
    dechiffrerMontant crypto owner "bank_transaction" "amount_cents" t.amountCents = .ok n →
      i64Min < n

/-- Every dated transaction of the owner decrypts. -/
def Store.MouvementsLisibles (s : Store) : Prop :=
  ∀ t ∈ s.bankTransaction, s.txDe owner t = true →
    (BankTransactions.mouvement? crypto owner t).isOk = true

variable {crypto owner} {s : Store} {t : BankTransactionRow} {m : MouvementCandidat}

/-- The columns of a row that its movement shows. -/
theorem BankTransactionRow.mouvement_eq_some (h : t.mouvement crypto owner = some m) :
    m.id = t.id ∧
      dechiffrerMontant crypto owner "bank_transaction" "amount_cents" t.amountCents =
        .ok m.amountCents := by
  unfold mouvement BankTransactions.mouvement? at h
  split at h
  · cases h
  · cases hmontant : dechiffrerMontant crypto owner "bank_transaction" "amount_cents"
        t.amountCents with
    | error e => simp [hmontant, bind, Except.bind, Except.toOption] at h
    | ok n =>
        cases hlibelle : dechiffrerTexte crypto owner "bank_transaction" "label" t.label with
        | error e => simp [hmontant, hlibelle, bind, Except.bind, Except.toOption] at h
        | ok libelle =>
            simp only [hmontant, hlibelle, bind, Except.bind, Except.toOption, pure, Except.pure,
              Option.join_some, Option.some.injEq] at h
            subst h
            exact ⟨rfl, rfl⟩

/-- Stored amounts above the minimum can be opposed. -/
theorem Store.opposables_mouvements (h : s.AuDessusDuMinimum crypto owner) :
    Opposables (s.mouvements crypto owner) := by
  intro m hm
  obtain ⟨t, ht, hmouvement⟩ := List.mem_filterMap.1 hm
  obtain ⟨ht, howner⟩ := Table.mem_select.1 ht
  obtain ⟨-, hmontant⟩ := BankTransactionRow.mouvement_eq_some hmouvement
  refine ⟨h t ht howner _ hmontant, ?_⟩
  unfold dechiffrerMontant at hmontant
  split at hmontant
  · cases hmontant
  · split at hmontant
    · rename_i hparse
      obtain rfl := Except.ok.inj hmontant
      exact (Text.parseInt?_bounds hparse).2
    · cases hmontant

/-- A row gives one movement at most, which bears its identifier. -/
theorem Store.nodup_mouvements :
    ((s.mouvements crypto owner).map MouvementCandidat.id).Nodup := by
  have hrows : ((s.bankTransaction.select (s.txDe owner)).map BankTransactionRow.id).Nodup :=
    (List.filter_sublist.map _).nodup s.bankTransaction.nodup
  rw [List.Nodup, List.pairwise_map] at hrows ⊢
  unfold Store.mouvements
  rw [List.pairwise_filterMap]
  refine hrows.imp ?_
  intro t t' hne m hm m' hm'
  rw [(BankTransactionRow.mouvement_eq_some hm).1, (BankTransactionRow.mouvement_eq_some hm').1]
  exact hne

/-- What is detected in the movements of an owner does not depend on their order. -/
theorem Store.detectes_perm (h : s.AuDessusDuMinimum crypto owner)
    {lus : List MouvementCandidat} (hperm : (s.mouvements crypto owner).Perm lus) :
    detecterTransfertsInternes lus = detecterTransfertsInternes (s.mouvements crypto owner) := by
  have htri := sortBy_couplesPossibles_perm (Store.opposables_mouvements h) Store.nodup_mouvements
    hperm
  unfold detecterTransfertsInternes
  simp only [htri, examinerCouple_perm (couplesPossibles_perm hperm)]

/-- What is detected is a transaction of the owner. -/
theorem Store.transaction_of_detectee (h : s.AuDessusDuMinimum crypto owner) {id : Uuid}
    (hid : id ∈ detecterTransfertsInternes (s.mouvements crypto owner)) :
    ∃ t ∈ s.bankTransaction, t.id = id ∧ s.txDe owner t = true := by
  obtain ⟨m, hm, rfl⟩ := mem_of_mem_detecter (Store.opposables_mouvements h) hid
  obtain ⟨t, ht, hmouvement⟩ := List.mem_filterMap.1 hm
  obtain ⟨ht, howner⟩ := Table.mem_select.1 ht
  exact ⟨t, ht, (BankTransactionRow.mouvement_eq_some hmouvement).1.symm, howner⟩

end Movements

/-! ## The recalculation as a function of the rows -/

/-- What the recalculation makes of a transaction of the owner. -/
def BankTransactionRow.recalculee (detectes : List TransactionBancaireId)
    (t : BankTransactionRow) : BankTransactionRow :=
  if t.isInternalTransfer = true ∧ t.categoryId = some categorieVirementsInternes then t
  else if t.id ∈ detectes then
    if t.categorizationSource = .manual then { t with isInternalTransfer := true }
    else
      { t with isInternalTransfer := true, categoryId := none, ruleId := none,
               categorizationSource := .none }
  else { t with isInternalTransfer := false }

namespace BankTransactionRow

variable (detectes : List TransactionBancaireId) (t : BankTransactionRow)

/-- The recalculation keeps the identifier of a row. -/
@[simp]
theorem id_recalculee : (t.recalculee detectes).id = t.id := by
  unfold recalculee
  split_ifs <;> rfl

/-- It keeps its account. -/
@[simp]
theorem bankAccountId_recalculee : (t.recalculee detectes).bankAccountId = t.bankAccountId := by
  unfold recalculee
  split_ifs <;> rfl

/-- It keeps its amount. -/
@[simp]
theorem amountCents_recalculee : (t.recalculee detectes).amountCents = t.amountCents := by
  unfold recalculee
  split_ifs <;> rfl

/-- A transaction is flagged after the recalculation when it is detected, or was filed
among the transfers and flagged. -/
theorem isInternalTransfer_recalculee :
    (t.recalculee detectes).isInternalTransfer = true ↔
      t.id ∈ detectes ∨
        t.isInternalTransfer = true ∧ t.categoryId = some categorieVirementsInternes := by
  unfold recalculee
  split_ifs with hrangee hdetectee hmanuelle
  · simp [hrangee]
  · simp [hdetectee]
  · simp [hdetectee]
  · simp [hrangee, hdetectee]

/-- A recalculation of what was recalculated changes nothing. -/
@[simp]
theorem recalculee_recalculee :
    (t.recalculee detectes).recalculee detectes = t.recalculee detectes := by
  unfold recalculee
  split_ifs <;> simp_all

/-- The movement of a transaction does not depend on what the recalculation rewrites. -/
@[simp]
theorem mouvement?_recalculee (crypto : CryptoService) (owner : ProprietaireId) :
    BankTransactions.mouvement? crypto owner (t.recalculee detectes) =
      BankTransactions.mouvement? crypto owner t := by
  unfold recalculee
  split_ifs with hrangee hdetectee hmanuelle
  · rfl
  · rfl
  · simp [BankTransactions.mouvement?, BankTransactionRow.date, hmanuelle]
  · rfl

/-- It keeps the movement read from it. -/
@[simp]
theorem mouvement_recalculee (crypto : CryptoService) (owner : ProprietaireId) :
    (t.recalculee detectes).mouvement crypto owner = t.mouvement crypto owner := by
  simp only [mouvement, mouvement?_recalculee]

end BankTransactionRow

/-- The recalculation for an owner, given what is detected. -/
def Store.recalcule (s : Store) (owner : ProprietaireId)
    (detectes : List TransactionBancaireId) : Store :=
  s.majTransaction (s.txDe owner) (BankTransactionRow.recalculee detectes)
    (BankTransactionRow.id_recalculee detectes)

namespace Store

variable {s : Store} {owner : ProprietaireId} {detectes : List TransactionBancaireId}

/-- A recalculation marks the rows in place. -/
theorem length_recalcule :
    (s.recalcule owner detectes).bankTransaction.rows.length = s.bankTransaction.rows.length :=
  List.length_map _

/-- The transactions of the store once recalculated. -/
theorem mem_recalcule {t : BankTransactionRow} :
    t ∈ (s.recalcule owner detectes).bankTransaction ↔
      ∃ t₀ ∈ s.bankTransaction, t = if s.txDe owner t₀ then t₀.recalculee detectes else t₀ :=
  mem_majTransaction

/-- The recalculation changes the owner of no transaction. -/
@[simp]
theorem txDe_recalcule (owner' : ProprietaireId) :
    (s.recalcule owner detectes).txDe owner' = s.txDe owner' := rfl

/-- The transactions of the owner are those of before, each recalculated. -/
theorem select_recalcule :
    (s.recalcule owner detectes).bankTransaction.select (s.txDe owner) =
      (s.bankTransaction.select (s.txDe owner)).map (BankTransactionRow.recalculee detectes) := by
  show (s.bankTransaction.rows.map _).filter _ = (s.bankTransaction.rows.filter _).map _
  induction s.bankTransaction.rows with
  | nil => rfl
  | cons t l ih =>
      have howner : s.txDe owner (t.recalculee detectes) = s.txDe owner t := by simp [txDe]
      by_cases h : s.txDe owner t <;> simp [h, howner, ih]

/-- The owner has as many transactions as before. -/
theorem count_recalcule :
    (s.recalcule owner detectes).bankTransaction.count ((s.recalcule owner detectes).txDe owner) =
      s.bankTransaction.count (s.txDe owner) := by
  have hlength := congrArg List.length (@select_recalcule s owner detectes)
  rw [List.length_map] at hlength
  rw [txDe_recalcule]
  simpa only [Table.count, Table.select, List.countP_eq_length_filter] using hlength

/-- It leaves the amounts above the minimum. -/
theorem AuDessusDuMinimum.recalcule {crypto : CryptoService}
    (h : s.AuDessusDuMinimum crypto owner) :
    (s.recalcule owner detectes).AuDessusDuMinimum crypto owner := by
  intro t ht howner n hmontant
  obtain ⟨t₀, ht₀, rfl⟩ := mem_recalcule.1 ht
  split_ifs at howner hmontant with hde
  · exact h t₀ ht₀ hde n (by simpa using hmontant)
  · exact h t₀ ht₀ howner n hmontant

/-- It leaves the movements as they were. -/
theorem mouvements_recalcule (crypto : CryptoService) :
    (s.recalcule owner detectes).mouvements crypto owner = s.mouvements crypto owner := by
  unfold mouvements
  rw [txDe_recalcule, select_recalcule, List.filterMap_map]
  refine congrArg (fun f => List.filterMap f _) (funext fun t => ?_)
  exact t.mouvement_recalculee detectes crypto owner

/-- What the recalculation left of a transaction of the owner, it leaves again. -/
theorem recalculee_of_mem {t : BankTransactionRow}
    (ht : t ∈ (s.recalcule owner detectes).bankTransaction) (howner : s.txDe owner t = true) :
    t.recalculee detectes = t := by
  obtain ⟨t₀, -, rfl⟩ := mem_recalcule.1 ht
  split_ifs at howner ⊢ with h
  · exact t₀.recalculee_recalculee detectes
  · exact absurd howner h

/-- Doing it twice is doing it once. -/
theorem recalcule_recalcule :
    (s.recalcule owner detectes).recalcule owner detectes = s.recalcule owner detectes := by
  have htable : (s.recalcule owner detectes).bankTransaction.update (s.txDe owner)
      (BankTransactionRow.recalculee detectes) (BankTransactionRow.id_recalculee detectes) =
      (s.recalcule owner detectes).bankTransaction := by
    exact Table.update_eq_self fun t ht howner => recalculee_of_mem ht howner
  exact Store.ext rfl rfl rfl htable rfl rfl rfl rfl rfl

end Store

/-! ## The program -/

section Programme

variable {col : Collation} {crypto : CryptoService} {owner : ProprietaireId} {s s' : Store}

/-- The rows that the reset reaches. -/
private abbrev aReinitialiser (t : BankTransactionRow) : Bool :=
  t.isInternalTransfer && t.categoryId ≠ some categorieVirementsInternes

/-- What the reset leaves of a row. -/
private abbrev reinitialisee (t : BankTransactionRow) : BankTransactionRow :=
  { t with isInternalTransfer := false }

/-- The rows that the marking reaches. -/
private abbrev aMarquer (detectes : List Uuid) (t : BankTransactionRow) : Bool :=
  detectes.contains t.id && !t.isInternalTransfer

/-- What the marking writes in a row. -/
private abbrev marquee (t : BankTransactionRow) : BankTransactionRow :=
  { t with
    isInternalTransfer := true
    categoryId := if t.categorizationSource = .manual then t.categoryId else none
    ruleId := if t.categorizationSource = .manual then t.ruleId else none
    categorizationSource :=
      if t.categorizationSource = .manual then t.categorizationSource else .none }

/-- The marking of a row that is not flagged. -/
private theorem marquer_eq {detectes : List Uuid} {t : BankTransactionRow}
    (hflag : t.isInternalTransfer = false) :
    (if aMarquer detectes t then marquee t else t) = t.recalculee detectes := by
  by_cases hdetectee : t.id ∈ detectes
  · by_cases hmanuelle : t.categorizationSource = .manual
    · simp [BankTransactionRow.recalculee, hflag, hdetectee, hmanuelle]
    · simp [BankTransactionRow.recalculee, hflag, hdetectee, hmanuelle]
  · have : { t with isInternalTransfer := false } = t := hflag ▸ rfl
    simp [BankTransactionRow.recalculee, hflag, hdetectee, this]

/-- The reset of a row, then its marking. -/
private theorem marquer_reinitialiser (detectes : List Uuid) (t : BankTransactionRow) :
    (if aMarquer detectes (if aReinitialiser t then reinitialisee t else t) then
      marquee (if aReinitialiser t then reinitialisee t else t)
    else if aReinitialiser t then reinitialisee t else t) = t.recalculee detectes := by
  by_cases hflag : t.isInternalTransfer = true
  · by_cases hcategorie : t.categoryId = some categorieVirementsInternes
    · have hreste : aReinitialiser t = false := by simp [hcategorie]
      simp [hreste, BankTransactionRow.recalculee, hflag, hcategorie]
    · have hpris : aReinitialiser t = true := by simp [hflag, hcategorie]
      rw [if_pos hpris, marquer_eq rfl]
      simp [BankTransactionRow.recalculee, hcategorie]
  · have hreste : aReinitialiser t = false := by simp [hflag]
    rw [hreste, if_neg Bool.false_ne_true, marquer_eq (by simpa using hflag)]

/-- The listing returns the movements of the store, in some order. -/
private theorem spec_lister :
    Spec (machine col) (BankTransactions.listerMouvementsPourAppariement crypto owner).run s
      fun t => Ends (fun mouvements s' => s' = s ∧ s.MouvementsLisibles crypto owner ∧
        (s.mouvements crypto owner).Perm mouvements)
        (¬ s.MouvementsLisibles crypto owner ∨ Echec t) := by
  refine spec_ends_bind (R := fun _ rows s' => s' = s ∧
    (s.bankTransaction.select (s.txDe owner)).Perm rows)
    (spec_ends_of (spec_ends_interrogerChiffre ?_) fun _ => .inr) ?_
  · intro x rows s' heffet _
    obtain ⟨rfl, rfl⟩ := lire_eq_ok.1 heffet
    refine ⟨rfl, ?_⟩
    simpa [transactionsDe] using
      (perm_arrange BankTransactionRow.id x.rang (s'.bankTransaction.select (s'.txDe owner))).symm
  · rintro t rows _ ⟨rfl, hrows⟩
    cases hmapM : rows.mapM (BankTransactions.mouvement? crypto owner) with
    | error e =>
        refine spec_pure.2 (.inl fun hlisibles => ?_)
        obtain ⟨row, hrow, herror⟩ := Traversal.exists_error hmapM
        obtain ⟨hrow, howner⟩ := Table.mem_select.1 (hrows.mem_iff.2 hrow)
        have hok := hlisibles row hrow howner
        rw [herror] at hok
        exact Bool.false_ne_true hok
    | ok r =>
        refine spec_pure.2 ⟨rfl, fun row hrow howner => ?_, ?_⟩
        · obtain ⟨m, -, hm⟩ := Traversal.exists_of_mem_left hmapM
            (hrows.mem_iff.1 (Table.mem_select.2 ⟨hrow, howner⟩))
          rw [hm]
          rfl
        · rw [Traversal.filterMap_of_mapM hmapM]
          exact hrows.filterMap _

/-- The store after the reset. -/
private abbrev apresReset (owner : ProprietaireId) (s : Store) : Store :=
  s.majTransaction (fun t => s.txDe owner t && aReinitialiser t) reinitialisee

/-- The store after the marking. -/
private abbrev apresMarquage (owner : ProprietaireId) (detectes : List Uuid) (s : Store) : Store :=
  s.majTransaction (fun t => s.txDe owner t && aMarquer detectes t) marquee

/-- The reset leaves the marks erased, unless it fails. -/
private theorem spec_remiseAZero :
    Spec (machine col) (BankTransactions.reinitialiserTransfertsInternes owner).run s
      fun t => Ends (fun _ s' => s' = apresReset owner s) (Echec t) := by
  refine spec_ends_bind (R := fun _ _ s' => s' = apresReset owner s)
    (spec_ends_interrogerChiffre ?_) fun _ _ s' hs' => spec_run_pure.2 hs'
  intro x v s' heffet _
  exact (Prod.mk.inj (Except.ok.inj heffet)).2.symm

/-- The marking leaves the two faces of the pairs marked, unless it fails. -/
private theorem spec_marquage {detectes : List Uuid} :
    Spec (machine col) (BankTransactions.marquerTransfertsInternes owner detectes).run s
      fun t => Ends (fun _ s' => s' = apresMarquage owner detectes s) (Echec t) := by
  unfold BankTransactions.marquerTransfertsInternes
  split_ifs with hvide
  · -- without movements to mark the statement is not sent, and would change nothing
    subst hvide
    have htable : (apresMarquage owner [] s).bankTransaction = s.bankTransaction := by
      refine @Table.update_eq_self _ _ _ s.bankTransaction _ marquee (fun _ => rfl) fun t _ h => ?_
      simp at h
    exact spec_run_pure.2 (Store.ext rfl rfl rfl htable.symm rfl rfl rfl rfl rfl)
  · refine spec_ends_interrogerChiffre ?_
    intro x v s' heffet _
    exact (Prod.mk.inj (Except.ok.inj heffet)).2.symm

/-- The reset of every row, then the marking of every row. -/
private theorem apresMarquage_apresReset (detectes : List Uuid) :
    apresMarquage owner detectes (apresReset owner s) = s.recalcule owner detectes := by
  refine Store.ext rfl rfl rfl (Table.ext ?_) rfl rfl rfl rfl rfl
  show (s.bankTransaction.rows.map _).map _ = s.bankTransaction.rows.map _
  rw [List.map_map]
  refine List.map_congr_left fun t _ => ?_
  have hjoin : ∀ u : BankTransactionRow, (apresReset owner s).txDe owner u = s.txDe owner u :=
    fun _ => rfl
  cases howner : s.txDe owner t with
  | false => simp [hjoin, howner]
  | true =>
      rw [if_pos rfl, ← marquer_reinitialiser]
      have hautre : s.txDe owner (if aReinitialiser t then reinitialisee t else t) = true := by
        split_ifs <;> exact howner
      simp only [Function.comp_apply, hjoin, howner, Bool.true_and, hautre]

/-- A recalculation lists the movements of the owner in some order, and recalculates every
transaction from what it detects in that list; it stops only on a movement that does not
decrypt, or on a failure of the database. -/
theorem spec_recalculer :
    Spec (machine col) (BankTransactions.recalculerTransfertsInternes crypto owner).run s
      fun t => Ends (fun _ s' => s.MouvementsLisibles crypto owner ∧
        ∃ mouvements, (s.mouvements crypto owner).Perm mouvements ∧
          s' = s.recalcule owner (detecterTransfertsInternes mouvements))
        (¬ s.MouvementsLisibles crypto owner ∨ Echec t) := by
  refine spec_ends_bind spec_lister ?_
  rintro t₁ mouvements s ⟨rfl, hlisibles, hperm⟩
  refine spec_ends_bind (R := fun _ _ s' => s' = apresReset owner s)
    (spec_ends_of spec_remiseAZero fun _ h => .inr h.right) ?_
  rintro t₂ _ s₁ rfl
  refine Spec.mono spec_marquage fun t r s' h => h.mono ?_ fun h => .inr h.right.right
  rintro _ rfl
  exact ⟨hlisibles, mouvements, hperm, apresMarquage_apresReset _⟩

/-- A recalculation that answers without error has recalculated every transaction of the
owner, from what is detected in its movements. -/
theorem recalculer_eq {t : List (Evenement col)} {n : ℕ} (h : s.AuDessusDuMinimum crypto owner)
    (hrun : Runs (machine col) (BankTransactions.recalculerTransfertsInternes crypto owner).run s
      t (.ok n) s') :
    s' = s.recalcule owner (detecterTransfertsInternes (s.mouvements crypto owner)) := by
  obtain ⟨-, mouvements, hperm, rfl⟩ := spec_recalculer hrun
  rw [Store.detectes_perm h hperm]

end Programme

/-! ## What is left -/

/-- The columns that say how a transaction is filed. -/
def BankTransactionRow.classement (t : BankTransactionRow) :
    Option CategoryId × Option RegleCategorisationId × CategorizationSource :=
  (t.categoryId, t.ruleId, t.categorizationSource)

/-- The transaction is flagged, and filed among the internal transfers. -/
def BankTransactionRow.VirementRange (t : BankTransactionRow) : Prop :=
  t.isInternalTransfer = true ∧ t.categoryId = some categorieVirementsInternes

/-- The identifiers of the transactions of an owner that satisfy a condition. -/
def Store.idsDe (s : Store) (owner : ProprietaireId) (P : BankTransactionRow → Prop) : Set Uuid :=
  {id | ∃ t ∈ s.bankTransaction, t.id = id ∧ s.txDe owner t = true ∧ P t}

/-- What a recalculation for an owner has to do, between two stores. -/
structure Store.Recalcul (crypto : CryptoService) (owner : ProprietaireId)
    (detectes : List TransactionBancaireId) (s s' : Store) : Prop where
  marquees : s'.idsDe owner (fun t => t.isInternalTransfer = true) =
    {id | id ∈ detectes} ∪ s.idsDe owner BankTransactionRow.VirementRange
  somme : (((s.mouvements crypto owner).filter fun m => m.id ∈ detectes).map
    MouvementCandidat.amountCents).sum = 0
  classements : ∀ t ∈ s.bankTransaction, ∃ t' ∈ s'.bankTransaction, t'.id = t.id ∧
    (t.id ∈ detectes → ¬ t.VirementRange → t.categorizationSource ≠ .manual →
      t'.classement = (none, none, .none)) ∧
    (t.id ∉ detectes ∨ t.VirementRange ∨ t.categorizationSource = .manual →
      t'.classement = t.classement)

section Result

variable {col : Collation} {crypto : CryptoService} {owner : ProprietaireId} {s s' : Store}
  {t : List (Evenement col)} {n : ℕ}

/-- The flags that a recalculation leaves. -/
private theorem marquees_recalcule {detectes : List TransactionBancaireId}
    (h : ∀ id ∈ detectes, ∃ t ∈ s.bankTransaction, t.id = id ∧ s.txDe owner t = true) :
    (s.recalcule owner detectes).idsDe owner (fun t => t.isInternalTransfer = true) =
      {id | id ∈ detectes} ∪ s.idsDe owner BankTransactionRow.VirementRange := by
  ext id
  constructor
  · rintro ⟨t, ht, rfl, howner, hflag⟩
    obtain ⟨t₀, ht₀, rfl⟩ := Store.mem_recalcule.1 ht
    split_ifs at howner hflag ⊢ with hde
    · rcases (t₀.isInternalTransfer_recalculee detectes).1 hflag with hid | hrange
      · exact .inl (by simpa using hid)
      · exact .inr ⟨t₀, ht₀, by simp, hde, hrange⟩
    · exact absurd howner hde
  · have hmarquee : ∀ t ∈ s.bankTransaction, s.txDe owner t = true →
        (t.recalculee detectes).isInternalTransfer = true →
        t.id ∈ (s.recalcule owner detectes).idsDe owner fun t => t.isInternalTransfer = true := by
      intro t ht howner hflag
      refine ⟨t.recalculee detectes, Store.mem_recalcule.2 ⟨t, ht, by rw [if_pos howner]⟩,
        by simp, ?_, hflag⟩
      rw [Store.txDe_recalcule]
      simpa [Store.txDe] using howner
    rintro (hid | ⟨t, ht, rfl, howner, hrange⟩)
    · obtain ⟨t, ht, rfl, howner⟩ := h id hid
      exact hmarquee t ht howner ((t.isInternalTransfer_recalculee detectes).2 (.inl hid))
    · exact hmarquee t ht howner ((t.isInternalTransfer_recalculee detectes).2 (.inr hrange))

/-- How a recalculation files a transaction of the owner. -/
private theorem classement_recalculee (detectes : List TransactionBancaireId)
    (t : BankTransactionRow) :
    (t.id ∈ detectes → ¬ t.VirementRange → t.categorizationSource ≠ .manual →
      (t.recalculee detectes).classement = (none, none, .none)) ∧
    (t.id ∉ detectes ∨ t.VirementRange ∨ t.categorizationSource = .manual →
      (t.recalculee detectes).classement = t.classement) := by
  unfold BankTransactionRow.recalculee BankTransactionRow.VirementRange
  split_ifs with hrange hdetectee hmanuelle
  · exact ⟨fun _ h => absurd hrange h, fun _ => rfl⟩
  · exact ⟨fun _ _ h => absurd hmanuelle h, fun _ => rfl⟩
  · exact ⟨fun _ _ _ => rfl, fun h => by tauto⟩
  · exact ⟨fun h => absurd h hdetectee, fun _ => rfl⟩

/-- The recalculation flags what is detected and what was filed among the transfers, and
what it detects cancels out; it takes away automatic categories only; made a second time
it changes nothing. -/
theorem recalcul_exact (h : s.AuDessusDuMinimum crypto owner)
    (hrun : Runs (machine col) (BankTransactions.recalculerTransfertsInternes crypto owner).run s
      t (.ok n) s') :
    Store.Recalcul crypto owner (detecterTransfertsInternes (s.mouvements crypto owner)) s s' ∧
      ∀ (t₂ : List (Evenement col)) (n₂ : ℕ) (s'' : Store),
        Runs (machine col) (BankTransactions.recalculerTransfertsInternes crypto owner).run s'
          t₂ (.ok n₂) s'' → s'' = s' := by
  obtain rfl := recalculer_eq h hrun
  refine ⟨⟨?_, ?_, ?_⟩, ?_⟩
  · exact marquees_recalcule fun id hid => Store.transaction_of_detectee h hid
  · exact somme_detectes (Store.opposables_mouvements h) Store.nodup_mouvements
  · intro t ht
    refine ⟨_, Store.mem_recalcule.2 ⟨t, ht, rfl⟩, ?_⟩
    split_ifs with howner
    · exact ⟨BankTransactionRow.id_recalculee _ t, classement_recalculee _ t⟩
    · -- what is detected is the owner's
      refine ⟨rfl, fun hid => ?_, fun _ => rfl⟩
      obtain ⟨t', ht', heq, howner'⟩ := Store.transaction_of_detectee h hid
      obtain rfl := Table.eq_of_key_eq ht' ht heq
      exact absurd howner' howner
  · intro t₂ n₂ s'' hrun₂
    rw [recalculer_eq h.recalcule hrun₂, Store.mouvements_recalcule, Store.recalcule_recalcule]

end Result

/-- The recalculation for the user who has the two sides of a transfer. -/
def recalculAlice : Outcome (machine Scenario.collation) (Except ChiffrementError ℕ) :=
  run _ Scenario.calme.choix (BankTransactions.recalculerTransfertsInternes enClair "alice").run 0
    deuxFaces

/-- Two faces are marked, and a second recalculation leaves the store as the first one did. -/
theorem recalcul_exact_deuxFaces :
    Store.Recalcul enClair "alice" (detecterTransfertsInternes (deuxFaces.mouvements enClair "alice"))
        deuxFaces recalculAlice.state ∧
      ∀ (t₂ : List (Evenement Scenario.collation)) (n₂ : ℕ) (s'' : Store),
        Runs (machine Scenario.collation)
          (BankTransactions.recalculerTransfertsInternes enClair "alice").run recalculAlice.state
          t₂ (.ok n₂) s'' → s'' = recalculAlice.state := by
  have hmontants : ∀ t ∈ deuxFaces.bankTransaction.rows,
      dechiffrerMontant enClair "alice" "bank_transaction" "amount_cents" t.amountCents =
        .ok (-5000) ∨
      dechiffrerMontant enClair "alice" "bank_transaction" "amount_cents" t.amountCents =
        .ok 5000 := by
    decide +kernel
  have hminimum : deuxFaces.AuDessusDuMinimum enClair "alice" := by
    intro t ht _ n hn
    rcases hmontants t ht with h | h <;>
    · obtain rfl := Except.ok.inj (h.symm.trans hn)
      decide
  have hvalue : recalculAlice.value = .ok 2 := by decide +kernel
  have hrun := runs_run (M := machine Scenario.collation) Scenario.calme.choix
    (BankTransactions.recalculerTransfertsInternes enClair "alice").run 0 deuxFaces
  rw [← recalculAlice, hvalue] at hrun
  exact recalcul_exact hminimum hrun

end Budgy
