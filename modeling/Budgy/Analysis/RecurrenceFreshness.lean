import Budgy.Analysis.RecurrenceDetection
import Budgy.Analysis.InterruptedRecalculation
import Budgy.Analysis.TransactionLife
import Budgy.Analysis.Scenarios
import Budgy.Interface.Assumptions

/-!
# The recurrences after a synchronisation

A synchronisation recalculates the recurrences of the owner when it has inserted a
transaction, and only then.  But the detection reads the dates, and an observation that
books a pending row rewrites them without inserting anything.
`recurrencesFraiches_iff` says when the marks agree with the detection afterwards: a
transaction was new, or the dates rewritten do not change what is detected.
-/

set_option autoImplicit false

namespace Budgy

open Effects Relational RequeteTransaction

/-! ## The occurrences of a store -/

section Occurrences

variable (crypto : CryptoService) (owner : ProprietaireId)

/-- The occurrence of a row, when it has a date and decrypts. -/
def BankTransactionRow.occurrence (t : BankTransactionRow) : Option OccurrenceTransaction :=
  (BankTransactions.occurrence? crypto owner t).toOption.join

/-- The rows that the detection reads. -/
def Store.aDetecter (s : Store) (t : BankTransactionRow) : Bool :=
  s.txDe owner t && !t.isInternalTransfer

/-- The dated transactions of an owner that are not internal transfers. -/
def Store.occurrences (s : Store) : List OccurrenceTransaction :=
  (s.bankTransaction.select (s.aDetecter owner)).filterMap
    (BankTransactionRow.occurrence crypto owner)

/-- The transactions marked as recurrent. -/
def Store.recurrentes (s : Store) : Set Uuid := s.idsDe owner fun t => t.isRecurrent = true

/-- What the detection reports on the transactions of an owner. -/
def Store.detectees (s : Store) : Set Uuid :=
  {id | ∃ r ∈ detecterRecurrences (s.occurrences crypto owner), r.id = id}

/-- The marks are those that the detection would set. -/
def Store.RecurrencesFraiches (s : Store) : Prop :=
  s.recurrentes owner = s.detectees crypto owner

/-- The row decrypts. -/
structure BankTransactionRow.Dechiffrable (t : BankTransactionRow) : Prop where
  label : ∃ label, dechiffrerTexte crypto owner "bank_transaction" "label" t.label = .ok label
  montant : ∃ n, dechiffrerMontant crypto owner "bank_transaction" "amount_cents" t.amountCents =
    .ok n

/-- Every transaction of the owner decrypts. -/
def Store.Dechiffrable (s : Store) : Prop :=
  ∀ t ∈ s.bankTransaction, s.txDe owner t = true → t.Dechiffrable crypto owner

variable {crypto owner} {s : Store} {t : BankTransactionRow} {o : OccurrenceTransaction}

/-- The occurrence of a transaction carries its identifier. -/
theorem BankTransactionRow.id_of_occurrence (h : t.occurrence crypto owner = some o) :
    o.id = t.id := by
  unfold occurrence BankTransactions.occurrence? at h
  split at h
  · cases h
  · cases hlabel : dechiffrerTexte crypto owner "bank_transaction" "label" t.label with
    | error e => simp [hlabel, bind, Except.bind, Except.toOption] at h
    | ok label =>
        cases hmontant : dechiffrerMontant crypto owner "bank_transaction" "amount_cents"
            t.amountCents with
        | error e => simp [hlabel, hmontant, bind, Except.bind, Except.toOption] at h
        | ok n =>
            simp only [hlabel, hmontant, bind, Except.bind, Except.toOption, pure, Except.pure,
              Option.join_some, Option.some.injEq] at h
            subst h
            rfl

/-- A row that decrypts can be read, dated or not. -/
theorem BankTransactionRow.Dechiffrable.occurrence? (h : t.Dechiffrable crypto owner) :
    (BankTransactions.occurrence? crypto owner t).isOk = true := by
  obtain ⟨label, hlabel⟩ := h.label
  obtain ⟨n, hmontant⟩ := h.montant
  unfold BankTransactions.occurrence?
  split
  · rfl
  · simp [hlabel, hmontant, bind, Except.bind, pure, Except.pure, Except.isOk, Except.toBool]

/-- What is detected is a transaction of the owner. -/
theorem Store.transaction_of_detecter {r : TransactionRecurrente}
    (h : r ∈ detecterRecurrences (s.occurrences crypto owner)) :
    ∃ t ∈ s.bankTransaction, t.id = r.id ∧ s.txDe owner t = true := by
  obtain ⟨o, ho, -, rfl⟩ := mem_detecterRecurrences.1 h
  obtain ⟨t, ht, hoccurrence⟩ := List.mem_filterMap.1 ho
  obtain ⟨ht, hlue⟩ := Table.mem_select.1 ht
  exact ⟨t, ht, (BankTransactionRow.id_of_occurrence hoccurrence).symm,
    (Bool.and_eq_true _ _ ▸ hlue).1⟩

/-- An update that shows the detection the same rows. -/
theorem Store.occurrences_majTransaction {p : BankTransactionRow → Bool}
    {f : BankTransactionRow → BankTransactionRow} {hf : ∀ t, (f t).id = t.id}
    (hcompte : ∀ t, (f t).bankAccountId = t.bankAccountId)
    (hflag : ∀ t, (f t).isInternalTransfer = t.isInternalTransfer)
    (hoccurrence : ∀ t, (f t).occurrence crypto owner = t.occurrence crypto owner) :
    (s.majTransaction p f hf).occurrences crypto owner = s.occurrences crypto owner := by
  have hlues : ∀ t, s.aDetecter owner (if p t then f t else t) = s.aDetecter owner t := by
    intro t
    split_ifs
    · simp [Store.aDetecter, Store.txDe, hcompte, hflag]
    · rfl
  have hmemes : ∀ t, BankTransactionRow.occurrence crypto owner (if p t then f t else t) =
      t.occurrence crypto owner := by
    intro t
    split_ifs
    · exact hoccurrence t
    · rfl
  show ((s.bankTransaction.rows.map fun t => if p t then f t else t).filter
    (s.aDetecter owner)).filterMap _ = (s.bankTransaction.rows.filter _).filterMap _
  rw [List.filter_map, List.filterMap_map]
  simp only [Function.comp_def, hlues, hmemes]

/-- The marks after an update. -/
theorem Store.mem_recurrentes_majTransaction {p : BankTransactionRow → Bool}
    {f : BankTransactionRow → BankTransactionRow} {hf : ∀ t, (f t).id = t.id}
    (hcompte : ∀ t, (f t).bankAccountId = t.bankAccountId) {id : Uuid} :
    id ∈ (s.majTransaction p f hf).recurrentes owner ↔
      ∃ t ∈ s.bankTransaction, t.id = id ∧ s.txDe owner t = true ∧
        (if p t then f t else t).isRecurrent = true := by
  have hde : ∀ t, (s.majTransaction p f hf).txDe owner (if p t then f t else t) =
      s.txDe owner t := by
    intro t
    split_ifs
    · exact congrArg (fun compte => decide (s.proprietaireDuCompte compte = some owner)) (hcompte t)
    · rfl
  have hid : ∀ t, (if p t then f t else t).id = t.id := by
    intro t
    split_ifs
    · exact hf t
    · rfl
  constructor
  · rintro ⟨t, ht, rfl, howner, hmarquee⟩
    obtain ⟨t₀, ht₀, rfl⟩ := mem_majTransaction.1 ht
    rw [hde] at howner
    exact ⟨t₀, ht₀, (hid t₀).symm, howner, hmarquee⟩
  · rintro ⟨t, ht, rfl, howner, hmarquee⟩
    exact ⟨_, mem_majTransaction.2 ⟨t, ht, rfl⟩, hid t, (hde t).trans howner, hmarquee⟩

end Occurrences

/-! ## What a recalculation leaves -/

section Recalculation

variable {col : Collation} {crypto : CryptoService} {owner : ProprietaireId} {s : Store}

/-- The listing returns the occurrences of the store, in some order. -/
private theorem under_occurrences (h : s.Dechiffrable crypto owner) :
    Under (machine col) Evenement.Reussi
      (BankTransactions.listerOccurrencesPourDetection crypto owner).run s
      (Returns fun occurrences s' => s' = s ∧
        (s.occurrences crypto owner).Perm occurrences) := by
  refine Under.ret_bind under_statement ?_
  rintro rows s' ⟨x, heffet⟩
  obtain ⟨rfl, rfl⟩ := lire_eq_ok.1 heffet
  have hrows : (s'.bankTransaction.select (s'.aDetecter owner)).Perm
      (transactionsDe x s' owner fun t => !t.isInternalTransfer) :=
    (perm_arrange BankTransactionRow.id x.rang _).symm
  show Under (machine col) _ (Task.ofExcept (((transactionsDe x s' owner
    fun t => !t.isInternalTransfer).mapM _)) >>= _).run s' _
  cases hmapM : (transactionsDe x s' owner fun t => !t.isInternalTransfer).mapM
      (BankTransactions.occurrence? crypto owner) with
  | error e =>
      obtain ⟨t, ht, herror⟩ := Traversal.exists_error hmapM
      obtain ⟨ht, hlue⟩ := Table.mem_select.1 (hrows.mem_iff.2 ht)
      have hok := (h t ht (Bool.and_eq_true _ _ ▸ hlue).1).occurrence?
      rw [herror] at hok
      exact absurd hok Bool.false_ne_true
  | ok lues =>
      refine under_pure.2 ⟨rfl, ?_⟩
      rw [Traversal.filterMap_of_mapM hmapM]
      exact hrows.filterMap _

/-- The database once some transactions of the owner are marked. -/
private abbrev marquerTout (owner : ProprietaireId) (ids : List Uuid) (s : Store) : Store :=
  s.majTransaction (fun t => s.txDe owner t && ids.contains t.id) fun t =>
    { t with isRecurrent := true, recurrenceInterval := some .mensuel }

/-- The marks taken back. -/
private theorem recurrentes_sansRecurrences : (s.sansRecurrences owner).recurrentes owner = ∅ := by
  ext id
  refine ⟨fun hid => ?_, fun hid => hid.elim⟩
  obtain ⟨t, -, -, howner, hmarquee⟩ := (Store.mem_recurrentes_majTransaction (by intro t; rfl)).1 hid
  cases hflag : t.isRecurrent with
  | false => simp [hflag] at hmarquee
  | true => simp [howner, hflag] at hmarquee

/-- The marks set on transactions of the owner. -/
private theorem recurrentes_marquerTout {ids : List Uuid} (hsans : s.recurrentes owner = ∅)
    (h : ∀ id ∈ ids, ∃ t ∈ s.bankTransaction, t.id = id ∧ s.txDe owner t = true) :
    (marquerTout owner ids s).recurrentes owner = {id | id ∈ ids} := by
  ext id
  refine (Store.mem_recurrentes_majTransaction (by intro t; rfl)).trans ?_
  constructor
  · rintro ⟨t, ht, rfl, howner, hmarquee⟩
    by_contra hid
    have hid : t.id ∉ ids := hid
    have hancienne : t.id ∈ s.recurrentes owner := ⟨t, ht, rfl, howner, by simpa [hid] using hmarquee⟩
    rw [hsans] at hancienne
    exact hancienne
  · intro hid
    have hid : id ∈ ids := hid
    obtain ⟨t, ht, rfl, howner⟩ := h id hid
    exact ⟨t, ht, rfl, howner, by simp [howner, hid]⟩

/-- The marking of what was detected, on transactions of the owner that bear no mark. -/
private theorem under_marquageRecurrences {recurrentes : List TransactionRecurrente}
    (hsans : s.recurrentes owner = ∅)
    (h : ∀ r ∈ recurrentes, ∃ t ∈ s.bankTransaction, t.id = r.id ∧ s.txDe owner t = true) :
    Under (machine col) Evenement.Reussi
      ((recurrentes.map TransactionRecurrente.interval).dedup.foldlM
        (fun marquees interval => do
          let ids := (recurrentes.filter fun r => r.interval = interval).map TransactionRecurrente.id
          let n ← BankTransactions.marquerRecurrentes owner interval ids
          return marquees + n : ℕ → RecurrenceInterval → Tache ChiffrementError ℕ) 0).run s
      (Returns fun _ s' => s'.recurrentes owner = {id | ∃ r ∈ recurrentes, r.id = id} ∧
        s'.occurrences crypto owner = s.occurrences crypto owner) := by
  rcases intervalles_dedup (recurrentes.map TransactionRecurrente.interval) with hvide | hmensuel
  · -- nothing is detected, and nothing is marked
    obtain rfl : recurrentes = [] := List.map_eq_nil_iff.1 ((List.dedup_eq_nil _).1 hvide)
    refine under_pure.2 ⟨?_, rfl⟩
    rw [hsans]
    ext id
    simp
  · have htous : (recurrentes.filter fun r => r.interval = .mensuel) = recurrentes :=
      List.filter_eq_self.2 fun r _ => by cases r.interval; rfl
    have hids : ∀ id ∈ recurrentes.map TransactionRecurrente.id,
        ∃ t ∈ s.bankTransaction, t.id = id ∧ s.txDe owner t = true := by
      intro id hid
      obtain ⟨r, hr, rfl⟩ := List.mem_map.1 hid
      exact h r hr
    have hne : recurrentes.map TransactionRecurrente.id ≠ [] := by
      intro hnil
      rw [List.map_eq_nil_iff.1 hnil] at hmensuel
      cases hmensuel
    rw [hmensuel, List.foldlM_cons]
    dsimp only
    rw [htous]
    refine Under.ret_bind (R := fun _ s' => s' = marquerTout owner
      (recurrentes.map TransactionRecurrente.id) s) (Under.ret_bind
        (R := fun _ s' => s' = marquerTout owner (recurrentes.map TransactionRecurrente.id) s) ?_
        fun _ _ hs' => under_pure.2 hs') ?_
    · unfold BankTransactions.marquerRecurrentes
      rw [if_neg hne]
      refine under_statement.ret_mono ?_
      rintro n s' ⟨x, heffet⟩
      exact (Prod.mk.inj (Except.ok.inj heffet)).2.symm
    · rintro n _ rfl
      refine under_pure.2 ⟨?_, ?_⟩
      · rw [recurrentes_marquerTout hsans hids]
        ext id
        simp
      · exact Store.occurrences_majTransaction (by intro t; rfl) (by intro t; rfl) (by intro t; rfl)

/-- A recalculation sets the marks that the detection reports. -/
theorem under_recalculerRecurrences (h : s.Dechiffrable crypto owner) :
    Under (machine col) Evenement.Reussi (BankTransactions.recalculerRecurrences crypto owner).run s
      (Returns fun _ s' => s'.RecurrencesFraiches crypto owner) := by
  refine Under.ret_bind (under_occurrences h) ?_
  rintro occurrences s ⟨rfl, hperm⟩
  refine Under.ret_bind (R := fun _ s' => s' = s.sansRecurrences owner) ?_ ?_
  · refine Under.ret_bind under_statement ?_
    rintro n s' ⟨x, heffet⟩
    exact under_pure.2 (Prod.mk.inj (Except.ok.inj heffet)).2.symm
  rintro _ _ rfl
  have hlues : (s.sansRecurrences owner).occurrences crypto owner = s.occurrences crypto owner :=
    Store.occurrences_majTransaction (by intro t; rfl) (by intro t; rfl) (by intro t; rfl)
  have hdetecter : ∀ r, r ∈ detecterRecurrences (s.occurrences crypto owner) ↔
      r ∈ detecterRecurrences occurrences := fun r => mem_detecter_congr hperm
  have hvisees : ∀ r ∈ detecterRecurrences occurrences,
      ∃ t ∈ (s.sansRecurrences owner).bankTransaction, t.id = r.id ∧
        (s.sansRecurrences owner).txDe owner t = true := by
    intro r hr
    rw [← hdetecter, ← hlues] at hr
    exact Store.transaction_of_detecter hr
  have hmarquage := @under_marquageRecurrences col crypto owner _ _ recurrentes_sansRecurrences
    hvisees
  refine hmarquage.ret_mono ?_
  · rintro n s' ⟨hmarques, hs'⟩
    show s'.recurrentes owner = s'.detectees crypto owner
    rw [hmarques]
    ext id
    simp only [Store.detectees, hs', hlues, hdetecter]

end Recalculation

/-! ## What the observations rewrite -/

section Observations

variable (crypto : CryptoService) (compte : BankAccountId)

/-- What an observation of the account makes of a row: a pending row is booked, and takes
its dates. -/
def BankTransactionRow.observee (t : BankTransactionRow) (o : TransactionBancaire) :
    BankTransactionRow :=
  if t.dedupKey = dedupKeyTransaction crypto compte o.externalTransactionId ∧
      t.status = .pending ∧ o.status = .booked then
    { t with status := .booked, bookingDate := o.bookingDate, valueDate := o.valueDate }
  else t

/-- What a list of observations makes of a row. -/
def BankTransactionRow.redatee (l : List TransactionBancaire) (t : BankTransactionRow) :
    BankTransactionRow :=
  l.foldl (BankTransactionRow.observee crypto compte) t

/-- The columns of a row that an observation leaves. -/
structure BankTransactionRow.Garde (t t₀ : BankTransactionRow) : Prop where
  id : t.id = t₀.id
  bankAccountId : t.bankAccountId = t₀.bankAccountId
  dedupKey : t.dedupKey = t₀.dedupKey
  label : t.label = t₀.label
  amountCents : t.amountCents = t₀.amountCents
  isInternalTransfer : t.isInternalTransfer = t₀.isInternalTransfer
  isRecurrent : t.isRecurrent = t₀.isRecurrent

/-- An observation keeps what the detection reads of a row it does not insert. -/
theorem BankTransactionRow.garde_observee (t : BankTransactionRow) (o : TransactionBancaire) :
    (t.observee crypto compte o).Garde t := by
  unfold observee
  split_ifs <;> exact ⟨rfl, rfl, rfl, rfl, rfl, rfl, rfl⟩

/-- So does the update of the dates of a whole list. -/
theorem BankTransactionRow.garde_redatee (l : List TransactionBancaire) (t : BankTransactionRow) :
    (t.redatee crypto compte l).Garde t := by
  induction l generalizing t with
  | nil => exact ⟨rfl, rfl, rfl, rfl, rfl, rfl, rfl⟩
  | cons o l ih =>
      have hfirst := t.garde_observee crypto compte o
      have hrest := ih (t.observee crypto compte o)
      exact
        { id := hrest.id.trans hfirst.id
          bankAccountId := hrest.bankAccountId.trans hfirst.bankAccountId
          dedupKey := hrest.dedupKey.trans hfirst.dedupKey
          label := hrest.label.trans hfirst.label
          amountCents := hrest.amountCents.trans hfirst.amountCents
          isInternalTransfer := hrest.isInternalTransfer.trans hfirst.isInternalTransfer
          isRecurrent := hrest.isRecurrent.trans hfirst.isRecurrent }

/-- The database once the observations have rewritten the rows they find. -/
def Store.redate (s : Store) (l : List TransactionBancaire) : Store :=
  s.majTransaction (fun _ => true) (BankTransactionRow.redatee crypto compte l)
    fun t => (t.garde_redatee crypto compte l).id

/-- The observation is that of no row. -/
def Store.Nouvelle (s : Store) (o : TransactionBancaire) : Prop :=
  ∀ t ∈ s.bankTransaction, t.dedupKey ≠ dedupKeyTransaction crypto compte o.externalTransactionId

/-- The marks are those that the detection would set once the observations have rewritten
the dates. -/
def Store.MarquesAJour (owner : ProprietaireId) (l : List TransactionBancaire) (s : Store) : Prop :=
  s.recurrentes owner = (s.redate crypto compte l).detectees crypto owner

variable {crypto compte} {s s' : Store} {l : List TransactionBancaire} {o : TransactionBancaire}
  {owner : ProprietaireId}

/-- The transactions of a store whose dates were updated. -/
theorem Store.mem_redate {t : BankTransactionRow} :
    t ∈ (s.redate crypto compte l).bankTransaction ↔
      ∃ t₀ ∈ s.bankTransaction, t = t₀.redatee crypto compte l := by
  refine Store.mem_majTransaction.trans ?_
  simp

/-- An empty list updates no date. -/
theorem Store.redate_nil : s.redate crypto compte [] = s := by
  refine Store.ext rfl rfl rfl (Table.ext ?_) rfl rfl rfl rfl rfl
  show s.bankTransaction.rows.map _ = s.bankTransaction.rows
  simp [BankTransactionRow.redatee]

/-- One observation more. -/
theorem Store.redate_concat :
    (s.redate crypto compte l).redate crypto compte [o] = s.redate crypto compte (l ++ [o]) := by
  refine Store.ext rfl rfl rfl (Table.ext ?_) rfl rfl rfl rfl rfl
  show (s.bankTransaction.rows.map _).map _ = s.bankTransaction.rows.map _
  rw [List.map_map]
  refine List.map_congr_left fun t _ => ?_
  simp [BankTransactionRow.redatee]

/-- The keys are those of before. -/
theorem Store.nouvelle_redate :
    (s.redate crypto compte l).Nouvelle crypto compte o ↔ s.Nouvelle crypto compte o := by
  constructor
  · intro h t ht
    rw [← (t.garde_redatee crypto compte l).dedupKey]
    exact h _ (Store.mem_redate.2 ⟨t, ht, rfl⟩)
  · intro h t ht
    obtain ⟨t₀, ht₀, rfl⟩ := Store.mem_redate.1 ht
    rw [(t₀.garde_redatee crypto compte l).dedupKey]
    exact h t₀ ht₀

/-- Updating dates changes no recurrence mark. -/
theorem Store.recurrentes_redate :
    (s.redate crypto compte l).recurrentes owner = s.recurrentes owner := by
  ext id
  refine (Store.mem_recurrentes_majTransaction fun t =>
    (t.garde_redatee crypto compte l).bankAccountId).trans ?_
  refine exists_congr fun t => and_congr_right fun _ => and_congr_right fun _ =>
    and_congr_right fun _ => ?_
  rw [if_pos rfl, (t.garde_redatee crypto compte l).isRecurrent]

/-- No two rows have the key of an observation. -/
def Store.ClesUniques (s : Store) : Prop :=
  ∀ t ∈ s.bankTransaction, ∀ u ∈ s.bankTransaction, t.dedupKey = u.dedupKey → t = u

/-- Updating dates keeps the keys unique. -/
theorem Store.ClesUniques.redate (h : s.ClesUniques) :
    (s.redate crypto compte l).ClesUniques := by
  intro t ht u hu hkey
  obtain ⟨t₀, ht₀, rfl⟩ := Store.mem_redate.1 ht
  obtain ⟨u₀, hu₀, rfl⟩ := Store.mem_redate.1 hu
  rw [(t₀.garde_redatee crypto compte l).dedupKey,
    (u₀.garde_redatee crypto compte l).dedupKey] at hkey
  rw [h t₀ ht₀ u₀ hu₀ hkey]

end Observations

/-! ## One observation -/

section Storage

variable {col : Collation} {crypto : CryptoService} {compte : BankAccountId}
  {owner : ProprietaireId} {s m s' : Store} {o : TransactionBancaire}

/-- A row is inserted for an observation that is that of no row. -/
theorem nouvelle_of_inseree {id : TransactionBancaireId}
    (h : Depose crypto (versNouvelleTransaction compte o) s
      (.ok (.inseree id) : Except EcritureError _) m) : s.Nouvelle crypto compte o := by
  obtain ⟨A, l, x, v, -, hl, heffet, hresultat⟩ := h
  obtain ⟨hlibre, -⟩ | ⟨t, -, -, hcas⟩ := insert_cases heffet
  · intro t ht
    have hkey := hlibre t ht
    rwa [hl.dedup] at hkey
  · obtain ⟨-, -, rfl, -⟩ | ⟨-, rfl, -⟩ := hcas <;> cases hresultat

/-- An observation of a row rewrites that row. -/
theorem redate_of_doublon (hcles : s.ClesUniques)
    (h : Depose crypto (versNouvelleTransaction compte o) s
      (.ok .doublon : Except EcritureError _) m) :
    ¬ s.Nouvelle crypto compte o ∧ m = s.redate crypto compte [o] := by
  obtain ⟨A, l, x, v, -, hl, heffet, hresultat⟩ := h
  obtain ⟨-, rfl, -⟩ | ⟨t, ht, hkey, hcas⟩ := insert_cases heffet
  · cases hresultat
  have hkey : t.dedupKey = dedupKeyTransaction crypto compte o.externalTransactionId :=
    hkey.trans hl.dedup
  refine ⟨fun hnouvelle => hnouvelle t ht hkey, ?_⟩
  -- the row of the key is the only one that the observation rewrites
  have hseule : ∀ u ∈ s.bankTransaction,
      u.dedupKey = dedupKeyTransaction crypto compte o.externalTransactionId ↔ u.id = t.id := by
    intro u hu
    refine ⟨fun hu' => congrArg _ (hcles u hu t ht (hu'.trans hkey.symm)), fun hid => ?_⟩
    rw [Table.eq_of_key_eq hu ht hid]
    exact hkey
  obtain ⟨hpending, hbooked, -, rfl⟩ | ⟨hstatus, -, rfl⟩ := hcas
  · refine Store.ext rfl rfl rfl (Table.ext ?_) rfl rfl rfl rfl rfl
    show s.bankTransaction.rows.map _ = s.bankTransaction.rows.map _
    refine List.map_congr_left fun u hu => ?_
    by_cases hid : u.id = t.id
    · obtain rfl := Table.eq_of_key_eq hu ht hid
      have hbooked' : o.status = .booked := hl.status.symm.trans hbooked
      simp [BankTransactionRow.redatee, BankTransactionRow.observee, hkey, hpending, hbooked',
        hl.status, hl.bookingDate, hl.valueDate, versNouvelleTransaction]
    · have hautre : ¬ u.dedupKey = dedupKeyTransaction crypto compte o.externalTransactionId :=
        fun hu' => hid ((hseule u hu).1 hu')
      simp [BankTransactionRow.redatee, BankTransactionRow.observee, hid, hautre]
  · have htable : (m.redate crypto compte [o]).bankTransaction = m.bankTransaction := by
      refine @Table.update_eq_self _ _ _ m.bankTransaction _ _
        (fun u => (u.garde_redatee crypto compte [o]).id) fun u hu _ => ?_
      by_cases hid : u.id = t.id
      · obtain rfl := Table.eq_of_key_eq hu ht hid
        have hreste : ¬ (u.status = .pending ∧ o.status = .booked) := by
          rintro ⟨hpending, hbooked⟩
          exact hstatus ⟨hpending, hl.status.trans hbooked⟩
        simp [BankTransactionRow.redatee, BankTransactionRow.observee, hreste]
      · have hautre : ¬ u.dedupKey = dedupKeyTransaction crypto compte o.externalTransactionId :=
          fun hu' => hid ((hseule u hu).1 hu')
        simp [BankTransactionRow.redatee, BankTransactionRow.observee, hautre]
    exact Store.ext rfl rfl rfl htable.symm rfl rfl rfl rfl rfl

/-- No statement rewrites what a row encrypts. -/
theorem BankTransactionRow.Devient.dechiffrable {r : Requete} {t₀ t : BankTransactionRow}
    (h : BankTransactionRow.Devient s t₀ r t) (ht : t₀.Dechiffrable crypto owner) :
    t.Dechiffrable crypto owner := by
  cases h <;> exact ⟨ht.label, ht.montant⟩

/-- The rows still decrypt after a statement, when the one it inserts does. -/
theorem Store.Dechiffrable.effet {r : Requete} {x : ChoixSql} {v : r.Reponse}
    (hs : s.Dechiffrable crypto owner) (heffet : r.effet col x s = .ok (v, s'))
    (hcomptes : NomTable.bankAccount ∉ r.ecrit)
    (hinsere : ∀ l, r = .transaction (.insert l) → s.txDe owner (ligneTransaction x l) = true →
      (ligneTransaction x l).Dechiffrable crypto owner) : s'.Dechiffrable crypto owner := by
  intro t ht howner
  have hjoint : s'.bankAccount = s.bankAccount := pareil_effet heffet hcomptes
  have howner : s.txDe owner t = true := by
    simpa [Store.txDe, Store.proprietaireDuCompte, hjoint] using howner
  obtain ⟨t₀, ht₀, hdevient⟩ | ⟨l, rfl, rfl, -⟩ := transaction_effet heffet ht
  · refine hdevient.dechiffrable (hs t₀ ht₀ ?_)
    simpa [Store.txDe, hdevient.meme.bankAccountId] using howner
  · exact hinsere l rfl howner

/-- The rules rewrite nothing that is encrypted. -/
private theorem dechiffrable_of_regle {e : Evenement col} (he : e.op.Regle)
    (h : e.before.Dechiffrable crypto owner) : e.after.Dechiffrable crypto owner := by
  obtain hsame | ⟨r, x, v, hop, heffet⟩ := after_cases e
  · rwa [hsame]
  rw [hop] at he
  refine h.effet heffet ?_ ?_
  · obtain hlecture | ⟨_, _, _, _, hr⟩ := he
    · rw [show r.ecrit = [] from hlecture]
      exact List.not_mem_nil
    · obtain rfl := Op.sql.inj hr
      simp
  · rintro l rfl
    obtain hlecture | ⟨_, _, _, _, hr⟩ := he
    · cases hlecture
    · cases hr

/-- The rows still decrypt once an observation is stored. -/
theorem Store.Dechiffrable.enregistre (hfiable : crypto.Fiable) (hmontant : EstI64 o.amountCents)
    {resultat : ResultatInsertion TransactionBancaireId} (hs : s.Dechiffrable crypto owner)
    (h : Enregistre col crypto (versNouvelleTransaction compte o) s (.ok resultat) s') :
    s'.Dechiffrable crypto owner := by
  obtain ⟨m, ⟨A, l, x, v, hA, hl, heffet, -⟩, hregles, -⟩ := h
  refine hregles (Store.Dechiffrable crypto owner) (fun e he => dechiffrable_of_regle he) ?_
  have heffet' : (Requete.transaction (.insert l)).effet col x s = .ok (v, m) := heffet
  refine hs.effet heffet' (by simp) ?_
  rintro l' hl' howner
  obtain rfl := RequeteTransaction.insert.inj (Requete.transaction.inj hl')
  -- the owner the row is encrypted for is the one who has its account
  obtain rfl : A = owner := by
    have hcompte : (ligneTransaction x l).bankAccountId = compte := hl.compte
    simp only [Store.txDe, hcompte, decide_eq_true_eq] at howner
    exact Option.some.inj (hA.symm.trans howner)
  obtain ⟨nonce, hlabel⟩ := hl.label
  obtain ⟨nonce', hchiffre⟩ := hl.montant
  exact ⟨⟨_, dechiffrerTexte_chiffrerTexte hfiable hlabel⟩,
    ⟨_, dechiffrerMontant_chiffrerMontant hfiable hmontant hchiffre⟩⟩

/-- `enregistrer` stores an observation, when nothing fails. -/
private theorem under_enregistrer (hfiable : crypto.Fiable) {n : NouvelleTransactionBancaire} :
    Under (machine col) Evenement.Reussi (BankTransactionsAdapter.enregistrer crypto n).run s
      (Returns fun resultat s' => Enregistre col crypto n s (.ok resultat) s') := by
  have htexte : ∀ {owner table field texte : String} {s : Store}, Under (machine col)
      Evenement.Reussi (chiffrerTexteFrais crypto owner table field texte).run s
        (Returns fun _ _ => True) := fun {_ _ _ _ _} =>
    Under.ret_mono (under_chiffrerTexteFrais hfiable) fun _ _ _ => trivial
  have hreturns : Under (machine col) Evenement.Reussi
      (BankTransactionsAdapter.enregistrer crypto n).run s (Returns fun _ _ => True) := by
    refine Under.ret_bind (R := fun _ _ => True) (Under.ret_mapError ?_) fun resultat _ _ => ?_
    · refine Under.ret_bind under_statement fun A _ _ => ?_
      refine Under.ret_bind htexte fun _ _ _ => Under.ret_bind htexte fun _ _ _ => ?_
      refine Under.ret_bind htexte fun _ _ _ => Under.ret_bind under_statement fun v _ _ => ?_
      rcases v with _ | ⟨id, _ | _⟩ <;> exact under_pure.2 trivial
    · cases resultat with
      | inseree id =>
          refine Under.ret_bind (R := fun _ _ => True) (Under.run_ofProg ?_) fun _ _ _ =>
            under_pure.2 trivial
          exact fun _ _ _ _ _ => trivial
      | doublon => exact under_pure.2 trivial
  rintro t (e | resultat) s' hrun hreussi
  · exact (hreturns hrun hreussi).elim
  · exact (guarded_enregistrer hrun).2

end Storage

/-! ## The synchronisation of an account -/

/-- Nothing fails, and the bank lists these transactions. -/
def Repond (l : List TransactionBancaire) : Entry signature → Prop
  | ⟨.banque (.listerTransactions _ _ _), r⟩ => r = .ok l
  | ⟨o, r⟩ => Reussi o r

instance decidableRepond (l : List TransactionBancaire) :
    (x : Entry signature) → Decidable (Repond l x)
  | ⟨.banque (.listerTransactions _ _ _), r⟩ => inferInstanceAs (Decidable (r = .ok l))
  | ⟨.banque .listerEtablissements, r⟩ => decidableReussi (.banque .listerEtablissements) r
  | ⟨.banque (.initierConsentement d), r⟩ => decidableReussi (.banque (.initierConsentement d)) r
  | ⟨.banque (.completerConsentement p a), r⟩ =>
      decidableReussi (.banque (.completerConsentement p a)) r
  | ⟨.banque (.listerComptes c), r⟩ => decidableReussi (.banque (.listerComptes c)) r
  | ⟨.banque (.solde c b), r⟩ => decidableReussi (.banque (.solde c b)) r
  | ⟨.banque (.revoquerConsentement c), r⟩ => decidableReussi (.banque (.revoquerConsentement c)) r
  | ⟨.sql q, r⟩ => decidableReussi (.sql q) r
  | ⟨.publier _, _⟩ | ⟨.nonce, _⟩ | ⟨.uuidV4, _⟩ | ⟨.maintenant, _⟩ => .isTrue trivial

/-- Two databases with the same transactions, of the same owner. -/
structure Store.MemesTransactions (owner : ProprietaireId) (s s' : Store) : Prop where
  rows : s'.bankTransaction = s.bankTransaction
  joint : s'.txDe owner = s.txDe owner

namespace Store.MemesTransactions

variable {crypto : CryptoService} {compte : BankAccountId} {owner : ProprietaireId}
  {s s₁ s' : Store} {l : List TransactionBancaire}

/-- A store with the same transactions is as readable. -/
theorem dechiffrable (h : s.MemesTransactions owner s') (hs : s.Dechiffrable crypto owner) :
    s'.Dechiffrable crypto owner := by
  unfold Store.Dechiffrable
  rw [h.rows, h.joint]
  exact hs

/-- A transaction is as new to a store with the same transactions. -/
theorem nouvelle (h : s.MemesTransactions owner s') {o : TransactionBancaire} :
    s'.Nouvelle crypto compte o ↔ s.Nouvelle crypto compte o := by
  unfold Store.Nouvelle
  rw [h.rows]

/-- The same observations make the same transactions of them. -/
theorem redate (h : s.MemesTransactions owner s') :
    (s.redate crypto compte l).MemesTransactions owner (s'.redate crypto compte l) where
  rows := by
    refine Table.ext ?_
    show s'.bankTransaction.rows.map _ = s.bankTransaction.rows.map _
    rw [h.rows]
  joint := h.joint

/-- A store with the same transactions has the same marks. -/
theorem recurrentes (h : s.MemesTransactions owner s') :
    s'.recurrentes owner = s.recurrentes owner := by
  unfold Store.recurrentes Store.idsDe
  rw [h.rows, h.joint]

/-- The detection finds the same in a store with the same transactions. -/
theorem detectees (h : s.MemesTransactions owner s') :
    s'.detectees crypto owner = s.detectees crypto owner := by
  have hlues : s'.aDetecter owner = s.aDetecter owner := by
    funext t
    simp only [Store.aDetecter, h.joint]
  unfold Store.detectees Store.occurrences
  rw [h.rows, hlues]

/-- The marks are as fresh in a store with the same transactions. -/
theorem marquesAJour (h : s.MemesTransactions owner s') :
    s'.MarquesAJour crypto compte owner l ↔ s.MarquesAJour crypto compte owner l := by
  unfold Store.MarquesAJour
  rw [h.recurrentes, h.redate.detectees]

end Store.MemesTransactions

/-- What the observations of a synchronisation have made of the database: `n` of them were
inserted. -/
structure Avancee (crypto : CryptoService) (compte : BankAccountId) (owner : ProprietaireId)
    (s : Store) (past : List TransactionBancaire) (n : ℕ) (s' : Store) : Prop where
  dechiffrable : s'.Dechiffrable crypto owner
  doublons : n = 0 → s' = s.redate crypto compte past ∧
    ∀ o ∈ past, ¬ s.Nouvelle crypto compte o
  nouvelle : n ≠ 0 → ∃ o ∈ past, s.Nouvelle crypto compte o

section Synchronisation

variable {col : Collation} {crypto : CryptoService} {parametres : ParametresSynchro}
  {compte : BankAccountId} {owner : ProprietaireId} {s s' : Store} {l : List TransactionBancaire}

/-- An answer of the bank and the database working makes a successful statement. -/
theorem reussi_of_repond {x : Entry signature} (h : Repond l x) : Reussi x.1 x.2 := by
  unfold Repond at h
  split at h
  · subst h
    rfl
  · exact h

/-- What holds of every successful run holds of those where the bank answers a given list. -/
private theorem under_repond {α : Type} {p : Programme α} {Q : α → Store → Prop}
    (h : Under (machine col) Evenement.Reussi p s Q) :
    Under (machine col) (fun e => Repond l (Event.entry e)) p s Q :=
  fun _ _ _ hrun hrepond => h hrun fun e he => reussi_of_repond (hrepond e he)

/-- A program that only reads leaves the database. -/
private theorem under_lecture {α : Type} {p : Programme α}
    (hp : p.Uses fun o : Op => o.ecrit = []) :
    Under (machine col) (fun e => Repond l (Event.entry e)) p s fun _ s' => s' = s :=
  fun _ _ _ hrun _ => spec_lecture hp hrun

/-- One observation more. -/
theorem Avancee.suite (hfiable : crypto.Fiable) (hcles : s.ClesUniques)
    {past : List TransactionBancaire} {n : ℕ} (h : Avancee crypto compte owner s past n s')
    {o : TransactionBancaire} (hmontant : EstI64 o.amountCents)
    {resultat : ResultatInsertion TransactionBancaireId} {s'' : Store}
    (hstocke : Enregistre col crypto (versNouvelleTransaction compte o) s' (.ok resultat) s'') :
    Avancee crypto compte owner s (past ++ [o]) (n + resultat.ids.length) s'' where
  dechiffrable := h.dechiffrable.enregistre hfiable hmontant hstocke
  doublons hn := by
    obtain ⟨m, hdepose, -, hm⟩ := hstocke
    cases resultat with
    | inseree id => simp [ResultatInsertion.ids] at hn
    | doublon =>
        obtain ⟨rfl, hpast⟩ := h.doublons (by simpa [ResultatInsertion.ids] using hn)
        obtain rfl := hm rfl
        obtain ⟨hancienne, rfl⟩ := redate_of_doublon hcles.redate hdepose
        refine ⟨Store.redate_concat, ?_⟩
        intro o' ho'
        obtain ho' | ho' := List.mem_append.1 ho'
        · exact hpast o' ho'
        · obtain rfl := List.mem_singleton.1 ho'
          exact fun hnouvelle => hancienne (Store.nouvelle_redate.2 hnouvelle)
  nouvelle hn := by
    obtain ⟨m, hdepose, -, -⟩ := hstocke
    by_cases hzero : n = 0
    · cases resultat with
      | doublon => simp [ResultatInsertion.ids, hzero] at hn
      | inseree id =>
          obtain ⟨rfl, -⟩ := h.doublons hzero
          exact ⟨o, by simp, Store.nouvelle_redate.1 (nouvelle_of_inseree hdepose)⟩
    · obtain ⟨o', ho', hnouvelle⟩ := h.nouvelle hzero
      exact ⟨o', by simp [ho'], hnouvelle⟩

/-- The observations are stored one after the other. -/
private theorem under_observations (hfiable : crypto.Fiable) (hcles : s.ClesUniques)
    (hs : s.Dechiffrable crypto owner) (hmontants : ∀ o ∈ l, EstI64 o.amountCents)
    {acc : RapportSynchro × RemonteeCompte} (hacc : acc.2.transactionsInserees = 0) :
    Under (machine col) Evenement.Reussi
      (l.foldlM (Synchro.enregistrerTransaction crypto compte) acc) s
      fun acc' s' => Avancee crypto compte owner s l acc'.2.transactionsInserees s' := by
  refine Under.foldlM (I := fun past (acc' : RapportSynchro × RemonteeCompte) s' =>
    Avancee crypto compte owner s past acc'.2.transactionsInserees s') ?_ ?_
  · exact ⟨hs, fun _ => ⟨Store.redate_nil.symm, by simp⟩, fun hn => absurd hacc hn⟩
  · intro past o rest acc' s' hl havancee
    refine Under.bind (under_enregistrer hfiable) ?_
    rintro (e | resultat) s'' hstocke
    · exact hstocke.elim
    · have hsuite := havancee.suite hfiable hcles (hmontants o (by simp [hl])) hstocke
      cases resultat with
      | inseree id => exact under_pure.2 hsuite
      | doublon => exact under_pure.2 hsuite

/-- The balances are no concern of the transactions. -/
private theorem under_soldes {soldes : List Balance} {acc : RapportSynchro × RemonteeCompte} :
    Under (machine col) Evenement.Reussi (soldes.foldlM (Synchro.enregistrerSolde crypto) acc) s
      fun acc' s' => acc'.2.transactionsInserees = acc.2.transactionsInserees ∧
        s.MemesTransactions owner s' := by
  have huses : (soldes.foldlM (Synchro.enregistrerSolde crypto) acc).Uses fun o : Op =>
      NomTable.bankTransaction ∉ o.ecrit ∧ NomTable.bankAccount ∉ o.ecrit := by
    refine Prog.Uses.foldlM (fun acc solde _ => Prog.Uses.bind (uses_enregistrerBalance
      (fun o ho => by
        rw [ho.lecture]
        exact ⟨List.not_mem_nil, List.not_mem_nil⟩) fun amount => by simp) ?_) _
    rintro (_ | _) <;> exact Prog.uses_pure _
  have htables : Spec (machine col) (soldes.foldlM (Synchro.enregistrerSolde crypto) acc) s
      fun _ _ s' => s.MemesTransactions owner s' := by
    intro t a s' hrun
    have hrows : s'.bankTransaction = s.bankTransaction :=
      spec_pareil (t := .bankTransaction) (huses.mono fun _ ho => ho.1) hrun
    have hcomptes : s'.bankAccount = s.bankAccount :=
      spec_pareil (t := .bankAccount) (huses.mono fun _ ho => ho.2) hrun
    exact ⟨hrows, by funext u; simp [Store.txDe, Store.proprietaireDuCompte, hcomptes]⟩
  have hcompte : Spec (machine col) (soldes.foldlM (Synchro.enregistrerSolde crypto) acc) s
      fun _ acc' _ => acc'.2.transactionsInserees = acc.2.transactionsInserees := by
    refine Spec.foldlM (I := fun _ (acc' : RapportSynchro × RemonteeCompte) _ _ =>
      acc'.2.transactionsInserees = acc.2.transactionsInserees) rfl ?_
    rintro past solde rest acc' t s₁ - hacc
    refine spec_bind.2 fun t₁ r s₂ _ => ?_
    cases r with
    | error e => exact spec_pure.2 hacc
    | ok id => exact spec_pure.2 hacc
  exact fun _ _ _ hrun _ => ⟨hcompte hrun, htables hrun⟩

/-- What is fetched of an account is stored. -/
private theorem under_remonterDonnees (hfiable : crypto.Fiable) (hcles : s.ClesUniques)
    (hs : s.Dechiffrable crypto owner) (hmontants : ∀ o ∈ l, EstI64 o.amountCents)
    {consent : Consent} {vue : BankAccount} {rapport : RapportSynchro} :
    Under (machine col) (fun e => Repond l (Event.entry e))
      (Synchro.remonterDonnees crypto parametres consent vue rapport) s
      fun r s' => ∃ remontee s₀, r.2 = .ok remontee ∧ s.MemesTransactions owner s₀ ∧
        Avancee crypto vue.id owner s₀ l remontee.transactionsInserees s' := by
  refine Under.bind (R := fun r s' => (∃ soldes, r = .ok soldes) ∧ s' = s) ?_ ?_
  · refine under_perform.2 fun c hreponse => ⟨?_, rfl⟩
    have hok : ((machine col).step (.banque (.solde consent vue)) c s).1.isOk = true := hreponse
    cases h : ((machine col).step (.banque (.solde consent vue)) c s).1 with
    | error e =>
        rw [h] at hok
        exact absurd hok Bool.false_ne_true
    | ok soldes => exact ⟨soldes, rfl⟩
  rintro _ s ⟨⟨soldes, rfl⟩, rfl⟩
  refine Under.bind (R := fun acc s' => acc.2.transactionsInserees = 0 ∧
    s.MemesTransactions owner s') (under_repond under_soldes) ?_
  rintro acc s₀ ⟨hacc, hmemes⟩
  refine Under.bind (R := fun r s' => r = .ok l ∧ s' = s₀) ?_ ?_
  · exact under_perform.2 fun c hreponse => ⟨hreponse, rfl⟩
  rintro _ s₀ ⟨rfl, rfl⟩
  have hcles₀ : s₀.ClesUniques := by
    unfold Store.ClesUniques
    rw [hmemes.rows]
    exact hcles
  have hlisible : s₀.Dechiffrable crypto owner := hmemes.dechiffrable hs
  refine Under.bind (under_repond (under_observations hfiable hcles₀ hlisible hmontants hacc)) ?_
  intro acc' s' havancee
  exact under_pure.2 ⟨acc'.2, s₀, rfl, hmemes, havancee⟩

/-- The end of a synchronisation that fetched the observations. -/
private theorem under_conclure {compte : CompteASynchroniser} {consent : Consent}
    {maintenant : DateTime} {rapport : RapportSynchro} {remontee : RemonteeCompte} {s₀ : Store}
    (havancee : Avancee crypto compte.id compte.proprietaire s₀ l remontee.transactionsInserees s) :
    Under (machine col) (fun e => Repond l (Event.entry e))
      (Synchro.conclure crypto compte consent maintenant rapport (.ok remontee)).run s
      fun _ s' => s'.RecurrencesFraiches crypto compte.proprietaire ↔
        (∃ o ∈ l, s₀.Nouvelle crypto compte.id o) ∨
          s₀.MarquesAJour crypto compte.id compte.proprietaire l := by
  have hpublie : ∀ s₁, Under (machine col) (fun e => Repond l (Event.entry e)) (do
      Task.ofProg (Synchro.publierSucces compte.proprietaire compte.id.toText remontee maintenant)
      return { rapport with comptesSynchronises := rapport.comptesSynchronises + 1 } :
        Tache SynchroError RapportSynchro).run s₁ fun _ s' => s' = s₁ := by
    intro s₁
    refine under_lecture (Prog.Uses.run_bind (Prog.Uses.run_ofProg ?_) fun _ => Prog.uses_pure _)
    unfold Synchro.publierSucces
    split
    · exact Prog.Uses.bind (uses_demander rfl) fun _ => Prog.Uses.bind (uses_demander rfl) fun _ =>
        uses_demander rfl
    · exact Prog.Uses.bind (uses_demander rfl) fun _ => uses_demander rfl
  refine Under.run_bind (R := fun _ s' => s'.RecurrencesFraiches crypto compte.proprietaire ↔
    (∃ o ∈ l, s₀.Nouvelle crypto compte.id o) ∨
      s₀.MarquesAJour crypto compte.id compte.proprietaire l) (Under.run_ofProg ?_) ?_ ?_
  · unfold Synchro.recalculerRecurrencesApresInsertion
    by_cases hn : remontee.transactionsInserees = 0
    · -- nothing was inserted, and the marks are those of before
      rw [if_neg (by simp [hn])]
      refine under_pure.2 ?_
      obtain ⟨rfl, hanciennes⟩ := havancee.doublons hn
      unfold Store.RecurrencesFraiches Store.MarquesAJour
      rw [Store.recurrentes_redate]
      refine ⟨fun h => .inr h, fun h => h.resolve_left ?_⟩
      rintro ⟨o, ho, hnouvelle⟩
      exact hanciennes o ho hnouvelle
    · rw [if_pos hn]
      refine Under.bind (under_repond (Under.ret_mapError
        (under_recalculerRecurrences havancee.dechiffrable))) ?_
      rintro (e | n) s' hfraiches
      · exact hfraiches.elim
      · exact under_pure.2 ⟨fun _ => .inl (havancee.nouvelle hn), fun _ => hfraiches⟩
  · intro _ s₁ h
    exact (hpublie s₁).mono fun _ s' hs' => hs' ▸ h
  · exact fun _ _ h => h

/-- An update of the accounts that leaves their owners. -/
theorem Store.txDe_majCompte {p : BankAccountRow → Bool} {f : BankAccountRow → BankAccountRow}
    {hf : ∀ a, (f a).id = a.id} (howner : ∀ a, (f a).ownerId = a.ownerId) :
    (s.majCompte p f hf).txDe owner = s.txDe owner := by
  funext t
  have hmeme : ∀ a : BankAccountRow, (if p a then f a else a).id = a.id ∧
      (if p a then f a else a).ownerId = a.ownerId := by
    intro a
    split_ifs
    · exact ⟨hf a, howner a⟩
    · exact ⟨rfl, rfl⟩
  have hiff : (s.majCompte p f hf).proprietaireDuCompte t.bankAccountId = some owner ↔
      s.proprietaireDuCompte t.bankAccountId = some owner := by
    simp only [Store.proprietaireDuCompte_eq_some, Store.mem_majCompte]
    constructor
    · rintro ⟨_, ⟨a, ha, rfl⟩, hid, hde⟩
      exact ⟨a, ha, (hmeme a).1.symm.trans hid, (hmeme a).2.symm.trans hde⟩
    · rintro ⟨a, ha, hid, hde⟩
      exact ⟨_, ⟨a, ha, rfl⟩, (hmeme a).1.trans hid, (hmeme a).2.trans hde⟩
  simp only [Store.txDe, hiff]

/-- The reservation of a slot is no concern of the transactions. -/
private theorem under_reserver {id : BankAccountId} {plan : PlanificationSynchro} {quota : ℤ} :
    Under (machine col) Evenement.Reussi
      ((BankAccountsAdapter.reserverCreneau id plan quota).mapError SynchroError.ecriture).run s
      (Returns fun _ s' => s.MemesTransactions owner s') := by
  refine Under.ret_mapError (Under.ret_mapError (Under.ret_bind
    (R := fun _ s' => s.MemesTransactions owner s') (Under.ret_mapError ?_) fun _ _ h =>
      under_pure.2 h))
  refine Under.ret_mono (under_of_ends (spec_ends_interroger (Q := fun _ _ s' =>
    s.MemesTransactions owner s') ?_)) fun _ _ h => h
  intro x v s' heffet _
  obtain ⟨-, rfl⟩ := Prod.mk.inj (Except.ok.inj heffet)
  exact ⟨rfl, Store.txDe_majCompte (by intro a; rfl)⟩

/-- The synchronisation of an account whose slot is reserved. -/
private theorem under_synchroniserCompteReserve {compte : CompteASynchroniser}
    (hfiable : crypto.Fiable) (hcles : s.ClesUniques)
    (hs : s.Dechiffrable crypto compte.proprietaire) (hmontants : ∀ o ∈ l, EstI64 o.amountCents)
    {consent : Consent} {maintenant : DateTime} {rapport : RapportSynchro} :
    Under (machine col) (fun e => Repond l (Event.entry e))
      (Synchro.synchroniserCompteReserve crypto parametres compte consent maintenant rapport).run s
      fun _ s' => s'.RecurrencesFraiches crypto compte.proprietaire ↔
        (∃ o ∈ l, s.Nouvelle crypto compte.id o) ∨
          s.MarquesAJour crypto compte.id compte.proprietaire l := by
  refine Under.run_bind (R := fun r s' => r.isOk = true ∧ s' = s) ?_ ?_ ?_
  · exact Under.run_ofProg ((under_lecture (uses_demander rfl)).mono fun _ _ h => ⟨rfl, h⟩)
  · rintro _ s ⟨-, rfl⟩
    refine Under.run_bind (R := fun r s' => r.isOk = true ∧ s' = s) ?_ ?_ ?_
    · refine Under.run_ofProg (Under.mono (under_lecture ?_) fun _ _ h => ⟨rfl, h⟩)
      unfold Synchro.publierRenouvellement
      split
      · exact uses_demander rfl
      · exact Prog.uses_pure _
    · rintro _ s ⟨-, rfl⟩
      refine Under.run_bind (R := fun r s' => ∃ paire remontee s₀, r = .ok paire ∧
        paire.2 = .ok remontee ∧ s.MemesTransactions compte.proprietaire s₀ ∧
          Avancee crypto compte.id compte.proprietaire s₀ l remontee.transactionsInserees s')
        (Under.run_ofProg ((under_remonterDonnees hfiable hcles hs hmontants).mono ?_)) ?_ ?_
      · rintro paire s' ⟨remontee, s₀, hpaire, hmemes, havancee⟩
        exact ⟨paire, remontee, s₀, rfl, hpaire, hmemes, havancee⟩
      · rintro paire s' ⟨paire', remontee, s₀, hok, hpaire, hmemes, havancee⟩
        obtain rfl := Except.ok.inj hok
        rw [hpaire]
        refine (under_conclure havancee).mono fun _ s'' h => ?_
        simpa only [hmemes.nouvelle, hmemes.marquesAJour] using h
      · rintro e s' ⟨_, _, _, hok, -⟩
        cases hok
    · rintro e s' ⟨hok, -⟩
      cases hok
  · rintro e s' ⟨hok, -⟩
    cases hok

end Synchronisation

section Result

variable {col : Collation} {crypto : CryptoService} {parametres : ParametresSynchro}
  {maintenant : DateTime} {echeant : CompteEcheant} {rapport rapport' : RapportSynchro}
  {l : List TransactionBancaire} {s s' : Store} {t : List (Evenement col)}

/-- After a synchronisation that succeeds, the recurrences of the owner are those that the
detection reports, exactly when one of the transactions listed was that of no row, or the
dates rewritten change nothing to what is detected. -/
theorem recurrencesFraiches_iff (hfiable : crypto.Fiable) (hcles : s.ClesUniques)
    (hs : s.Dechiffrable crypto echeant.compte.proprietaire)
    (hmontants : ∀ o ∈ l, EstI64 o.amountCents)
    (hrun : Runs (machine col)
      (Synchro.synchroniserCompte crypto parametres maintenant rapport echeant).run s t
      (.ok rapport') s')
    (hrepond : ∀ e ∈ t, Repond l (Event.entry e))
    (hsucces : rapport'.comptesSynchronises = rapport.comptesSynchronises + 1) :
    s'.RecurrencesFraiches crypto echeant.compte.proprietaire ↔
      (∃ o ∈ l, s.Nouvelle crypto echeant.compte.id o) ∨
        s.MarquesAJour crypto echeant.compte.id echeant.compte.proprietaire l := by
  have hunder : Under (machine col) (fun e => Repond l (Event.entry e))
      (Synchro.synchroniserCompte crypto parametres maintenant rapport echeant).run s
      fun r s' => ∀ rapport', r = .ok rapport' →
        rapport'.comptesSynchronises = rapport.comptesSynchronises + 1 →
        (s'.RecurrencesFraiches crypto echeant.compte.proprietaire ↔
          (∃ o ∈ l, s.Nouvelle crypto echeant.compte.id o) ∨
            s.MarquesAJour crypto echeant.compte.id echeant.compte.proprietaire l) := by
    have hnon : ∀ (rapport' : RapportSynchro) {rapport'' : RapportSynchro},
        (.ok rapport'' : Except SynchroError RapportSynchro) = .ok rapport' →
        rapport''.comptesSynchronises = rapport.comptesSynchronises →
        rapport'.comptesSynchronises = rapport.comptesSynchronises + 1 → False := by
      intro rapport' rapport'' h hsame hsucces
      obtain rfl := Except.ok.inj h
      omega
    unfold Synchro.synchroniserCompte
    dsimp only
    split
    · -- the account is left there, and is not counted
      refine Under.run_bind (R := fun _ _ => True) (fun _ _ _ _ _ => trivial) ?_ ?_
      · intro _ s₁ _
        refine Under.run_bind (R := fun _ _ => True) (fun _ _ _ _ _ => trivial) ?_ ?_
        · intro _ s₂ _
          exact under_pure.2 fun rapport' h hsucces => (hnon rapport' h rfl hsucces).elim
        · exact fun e _ _ rapport' h => nomatch h
      · exact fun e _ _ rapport' h => nomatch h
    · refine Under.run_bind (R := fun r s₁ => Returns (fun _ s₁ =>
        s.MemesTransactions echeant.compte.proprietaire s₁) r s₁) (under_repond under_reserver) ?_
        fun e _ h => h.elim
      intro pris s₁ hmemes
      have hmemes : s.MemesTransactions echeant.compte.proprietaire s₁ := hmemes
      split
      · exact under_pure.2 fun rapport' h hsucces => (hnon rapport' h rfl hsucces).elim
      · have hcles₁ : s₁.ClesUniques := by
          unfold Store.ClesUniques
          rw [hmemes.rows]
          exact hcles
        refine (under_synchroniserCompteReserve hfiable hcles₁ (hmemes.dechiffrable hs)
          hmontants).mono ?_
        rintro r s' h rapport' - -
        simpa only [hmemes.nouvelle, hmemes.marquesAJour] using h
  exact hunder hrun hrepond rapport' rfl hsucces

end Result

/-! ## A rent on hold -/

/-- A rent as the bank lists it. -/
def loyer (externe : String) (status : TransactionStatus) (jour : Option NaiveDate) :
    TransactionBancaire :=
  { id := Uuid.fromU128 0, bankAccount := Uuid.fromU128 1012, externalTransactionId := externe,
    status, label := "PRLV LOYER", amountCents := -80000, currency := "EUR", bookingDate := jour,
    valueDate := jour, category := none, enveloppe := none, categorizationSource := .none,
    ruleId := none, isRecurrent := false, recurrenceInterval := none, createdAt := 0 }

/-- Two rents a month apart, and the next one on hold. -/
def troisLoyers : List TransactionBancaire :=
  [loyer "L1" .booked (some (Gregorian.Date.ofDays 20000)),
    loyer "L2" .booked (some (Gregorian.Date.ofDays 20030)), loyer "L3" .pending none]

/-- The user whose account has these rents. -/
def loyerEnAttente : Store :=
  Scenario.unCompte.fin (rattachement ++
    troisLoyers.map fun o => .enregistrer (versNouvelleTransaction (Uuid.fromU128 1012) o))

/-- The rent on hold is booked. -/
def loyerComptabilise : TransactionBancaire :=
  loyer "L3" .booked (some (Gregorian.Date.ofDays 20060))

/-- The account of the user, which is due. -/
def compteAlice : CompteEcheant :=
  { compte :=
      { id := Uuid.fromU128 1012, proprietaire := "alice", consent := Uuid.fromU128 1000,
        externalAccountId := "FR1", currency := "EUR", syncCountToday := 0, lastSyncDay := none }
    consent := consentBancaire (Uuid.fromU128 1000) "alice" }

/-- A synchronisation of the account in which the bank lists some transactions. -/
def synchroAlice (l : List TransactionBancaire) :
    Outcome (machine Scenario.collation) (Except SynchroError RapportSynchro) :=
  run _ ({ Scenario.unCompte with transactions := fun _ => .ok l } : Scenario).choix
    (Synchro.synchroniserCompte enClair .defaut 0 .vide compteAlice).run 500 loyerEnAttente

/-- The runs of the synchronisation in which the bank lists some transactions. -/
private theorem runs_synchroAlice {l : List TransactionBancaire} {r : RapportSynchro}
    (h : (synchroAlice l).value = .ok r) :
    Runs (machine Scenario.collation)
      (Synchro.synchroniserCompte enClair .defaut 0 .vide compteAlice).run loyerEnAttente
      (synchroAlice l).trace (.ok r) (synchroAlice l).state := by
  have hrun := runs_run (M := machine Scenario.collation)
    ({ Scenario.unCompte with transactions := fun _ => .ok l } : Scenario).choix
    (Synchro.synchroniserCompte enClair .defaut 0 .vide compteAlice).run 500 loyerEnAttente
  rwa [← synchroAlice, h] at hrun

/-- The rent is booked, the detection now reports the three rents, and none is marked. -/
theorem not_recurrencesFraiches_loyerComptabilise :
    ¬ ∀ (rapport' : RapportSynchro) (t : List (Evenement Scenario.collation)) (s' : Store),
      Runs (machine Scenario.collation)
        (Synchro.synchroniserCompte enClair .defaut 0 .vide compteAlice).run loyerEnAttente t
        (.ok rapport') s' →
      (∀ e ∈ t, Repond [loyerComptabilise] (Event.entry e)) →
      rapport'.comptesSynchronises = RapportSynchro.vide.comptesSynchronises + 1 →
      (∃ row ∈ loyerEnAttente.bankTransaction, ∃ row' ∈ s'.bankTransaction, row'.id = row.id ∧
        row.status = .pending ∧ row'.status = .booked) →
      s'.RecurrencesFraiches enClair "alice" := by
  have hvalue : (synchroAlice [loyerComptabilise]).value = .ok ⟨1, 1, 0, 0, 0, 1, 0⟩ := by
    decide
  have hrepond : ∀ e ∈ (synchroAlice [loyerComptabilise]).trace,
      Repond [loyerComptabilise] (Event.entry e) := by
    decide
  have hchange : ∃ row ∈ loyerEnAttente.bankTransaction.rows,
      ∃ row' ∈ (synchroAlice [loyerComptabilise]).state.bankTransaction.rows, row'.id = row.id ∧
        row.status = .pending ∧ row'.status = .booked := by
    decide
  have hmarques : ∀ row ∈ (synchroAlice [loyerComptabilise]).state.bankTransaction.rows,
      row.isRecurrent = false := by
    decide
  have hdetectees : detecterRecurrences
      ((synchroAlice [loyerComptabilise]).state.occurrences enClair "alice") ≠ [] := by
    decide +kernel
  intro h
  have hfraiches := h _ _ _ (runs_synchroAlice hvalue) hrepond rfl hchange
  obtain ⟨r, rest, hr⟩ := List.exists_cons_of_ne_nil hdetectees
  have hid : r.id ∈ (synchroAlice [loyerComptabilise]).state.detectees enClair "alice" :=
    ⟨r, by simp [hr], rfl⟩
  rw [← hfraiches] at hid
  obtain ⟨row, hrow, -, -, hmarquee⟩ := hid
  exact Bool.noConfusion ((hmarques row hrow).symm.trans hmarquee)

/-- Listed with a transaction that is new, the rents are marked. -/
theorem recurrencesFraiches_avecNouvelle :
    (synchroAlice [loyerComptabilise, loyer "L4" .pending none]).state.RecurrencesFraiches
      enClair "alice" := by
  obtain ⟨hvalue, hrepond⟩ :
      (synchroAlice [loyerComptabilise, loyer "L4" .pending none]).value =
        .ok ⟨1, 1, 0, 0, 1, 1, 0⟩ ∧
      ∀ e ∈ (synchroAlice [loyerComptabilise, loyer "L4" .pending none]).trace,
        Repond [loyerComptabilise, loyer "L4" .pending none] (Event.entry e) := by
    decide +kernel
  have hcles : ∀ t ∈ loyerEnAttente.bankTransaction.rows,
      ∀ u ∈ loyerEnAttente.bankTransaction.rows, t.dedupKey = u.dedupKey → t = u := by
    decide
  have hclairs : ∀ t ∈ loyerEnAttente.bankTransaction.rows,
      dechiffrerTexte enClair "alice" "bank_transaction" "label" t.label = .ok "PRLV LOYER" ∧
        dechiffrerMontant enClair "alice" "bank_transaction" "amount_cents" t.amountCents =
          .ok (-80000) := by
    decide
  have hnouvelle : ∀ t ∈ loyerEnAttente.bankTransaction.rows,
      t.dedupKey ≠ dedupKeyTransaction enClair (Uuid.fromU128 1012) "L4" := by
    decide
  refine (recurrencesFraiches_iff fiable_enClair hcles ?_ ?_ (runs_synchroAlice hvalue) hrepond
    rfl).2 (.inl ⟨loyer "L4" .pending none, by simp, hnouvelle⟩)
  · exact fun t ht _ => ⟨⟨_, (hclairs t ht).1⟩, ⟨_, (hclairs t ht).2⟩⟩
  · decide

end Budgy
