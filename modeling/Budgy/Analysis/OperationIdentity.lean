import Budgy.Analysis.TransactionLife
import Budgy.Model.EnableBanking

/-!
# One row for one operation of the bank

The bank shows an operation several times, always under one `transaction_id`; its
`entry_reference` may be missing, empty, or come late.  The row is found by the first of the
two that is there, in `referenceExterne`.  `uneLigneParOperation_iff` says when every
operation of an account has a row of its own, and one only: when the text that is there first
tells the operations apart as their `transaction_id` does.
-/

set_option autoImplicit false

namespace Budgy

open Effects Relational

/-! ## The pages of an account, and the rows they leave -/

/-- What an operation of a run does for the pages of an account: it stores a transaction of a
page, or has nothing to do with them. -/
inductive Operation.Releve (uuidDepuis : String → Uuid) (compte : BankAccountId) (o : Operation) :
    Option TransactionWire → Prop
  | page {lu : BankAccount} {horodatage : DateTime} {wire : TransactionWire}
      {transaction : TransactionBancaire} (hid : wire.transactionId ≠ none)
      (hvide : wire.transactionId ≠ some "")
      (hlue : EnableBanking.versTransaction uuidDepuis lu horodatage wire = .ok transaction)
      (hstocke : o = .enregistrer (versNouvelleTransaction compte transaction)) :
      Releve uuidDepuis compte o (some wire)
  | autre (hconserve : o.Conserve)
      (hcompte : ∀ n, o = .enregistrer n → n.bankAccount ≠ compte) :
      Releve uuidDepuis compte o none

/-- An operation of a run over pages erases nobody, and stores nothing by itself. -/
private theorem Operation.Releve.conserve {uuidDepuis : String → Uuid} {compte : BankAccountId}
    {o : Operation} {label : Option TransactionWire} (h : o.Releve uuidDepuis compte label) :
    o.Conserve := by
  cases h with
  | page hid hvide hlue hstocke =>
      rw [hstocke]
      exact ⟨nofun, nofun⟩
  | autre hconserve hcompte => exact hconserve

section

variable {col : Collation} {cfg : Configuration}

/-- The step has stored the observation, or found it stored already. -/
def Etape.Observe (c : Etape col cfg) (n : NouvelleTransactionBancaire) : Prop :=
  c.call.observation? n.bankAccount n.externalTransactionId c.answer = some n

/-- The transaction of a page was stored as `n`. -/
def Stockee (l : List (Etape col cfg × Option TransactionWire)) (wire : TransactionWire)
    (n : NouvelleTransactionBancaire) : Prop :=
  ∃ c, (c, some wire) ∈ l ∧ c.Observe n

/-- The row is that of the observation. -/
def BankTransactionRow.De (crypto : CryptoService) (n : NouvelleTransactionBancaire)
    (t : BankTransactionRow) : Prop :=
  t.DeLaPaire crypto n.bankAccount n.externalTransactionId

/-- The row is that of an observation of the operation of this `transaction_id`. -/
def BankTransactionRow.Represente (t : BankTransactionRow)
    (l : List (Etape col cfg × Option TransactionWire)) (operation : Option String) : Prop :=
  ∃ wire n, Stockee l wire n ∧ wire.transactionId = operation ∧ t.De cfg.crypto n

/-- Every operation of the account has one row, and every row of the account is that of one
operation. -/
structure UneLigneParOperation (compte : BankAccountId)
    (l : List (Etape col cfg × Option TransactionWire)) (s : Store) : Prop where
  unique : ∀ wire n, Stockee l wire n →
    ∃! t, t ∈ s.bankTransaction ∧ t.Represente l wire.transactionId
  seule : ∀ t ∈ s.bankTransaction, t.bankAccountId = compte → ∃! operation, t.Represente l operation

end

/-! ## Where a row comes from -/

section Origin

variable {col : Collation} {cfg : Configuration} {s₀ s : Store} {l : List (Etape col cfg)}

/-- An observation that is not stored leaves the database. -/
private theorem after_of_not_observe {c : Etape col cfg} (hvalid : c.Valid)
    {n : NouvelleTransactionBancaire} (hcall : c.call = .enregistrer n) (hn : ¬ c.Observe n) :
    c.after = c.before := by
  obtain ⟨call, s, trace, answer, s'⟩ := c
  obtain rfl : call = .enregistrer n := hcall
  have hspec : Enregistre col cfg.crypto n s answer s' := (guarded_enregistrer hvalid).2
  rcases answer with erreur | resultat
  · exact hspec
  · simp [Etape.Observe, Operation.observation?, NouvelleTransactionBancaire.de] at hn

/-- The rows that an operation leaves are those of the observations there were before, and of
those that it has stored. -/
private theorem etape_origine {c : Etape col cfg} (hvalid : c.Valid)
    (hc : Operation.Conserve c.call) {P : NouvelleTransactionBancaire → Prop}
    (hP : ∀ n, c.Observe n → P n)
    (hbefore : ∀ t ∈ c.before.bankTransaction, ∃ n, P n ∧ t.De cfg.crypto n) :
    ∀ t ∈ c.after.bankTransaction, ∃ n, P n ∧ t.De cfg.crypto n := by
  by_cases hstocke : ∀ n, c.call = .enregistrer n → c.Observe n
  · refine (Runs.preserves (I := fun s => ∀ t ∈ s.bankTransaction, ∃ n, P n ∧ t.De cfg.crypto n)
      hvalid hbefore ?_).1
    intro e he hprevious t ht
    rcases transaction_after ht with ⟨t₀, ht₀, hmeme⟩ | ⟨l, x, hop, rfl, -⟩
    · obtain ⟨n, hn, hde⟩ := hprevious t₀ ht₀
      exact ⟨n, hn, hmeme.bankAccountId.trans hde.1, hmeme.dedupKey.trans hde.2⟩
    · have hemet := Etape.emet hvalid he hop (by simp)
      obtain ⟨hcycle, -⟩ := hc
      generalize c.call = o at hemet hcycle hstocke
      cases hemet with
      | cycle r hr => exact absurd rfl hcycle
      | inserer n _ hcompte hdedup => exact ⟨n, hP n (hstocke n rfl), hcompte, hdedup⟩
  · push Not at hstocke
    obtain ⟨n, hcall, hn⟩ := hstocke
    rw [after_of_not_observe hvalid hcall hn]
    exact hbefore

/-- Every row that a run leaves is that of an observation that the run has stored. -/
private theorem execution_origine (h₀ : s₀.Amorcee) (h : Execution col cfg s₀ l s)
    (hconserve : ∀ c ∈ l, Operation.Conserve c.call) :
    ∀ t ∈ s.bankTransaction, ∃ n, (∃ c ∈ l, c.Observe n) ∧ t.De cfg.crypto n := by
  refine h.follows (J := fun (past : List (Etape col cfg)) (s : Store) =>
    ∀ t ∈ s.bankTransaction, ∃ n, (∃ c ∈ past, c.Observe n) ∧ t.De cfg.crypto n) ?_ ?_
  · intro t ht
    have ht : t ∈ s₀.bankTransaction.rows := ht
    rw [h₀.bankTransaction] at ht
    exact absurd ht List.not_mem_nil
  · intro past c hc hvalid hpast
    refine etape_origine hvalid (hconserve c hc) ?_ ?_
    · intro n hn
      exact ⟨c, List.mem_append_right _ List.mem_cons_self, hn⟩
    · intro t ht
      obtain ⟨n, ⟨d, hd, hn⟩, hde⟩ := hpast t ht
      exact ⟨n, ⟨d, List.mem_append_left _ hd, hn⟩, hde⟩

/-- An observation that a run has stored has one row. -/
private theorem existsUnique_de (h₀ : s₀.Amorcee) (h : Execution col cfg s₀ l s)
    (hconserve : ∀ c ∈ l, Operation.Conserve c.call)
    (hcollision : cfg.crypto.SansCollision {m | ∃ c ∈ l, m ∈ Operation.messages c.call})
    {c : Etape col cfg} (hc : c ∈ l) {n : NouvelleTransactionBancaire} (hn : c.Observe n) :
    ∃! t, t ∈ s.bankTransaction ∧ t.De cfg.crypto n := by
  have hcall := Operation.call_of_observation? hn
  have hmessage : CryptoService.messageDedup n.bankAccount.asBytes n.externalTransactionId ∈
      {m | ∃ c ∈ l, m ∈ Operation.messages c.call} := ⟨c, hc, by rw [hcall]; rfl⟩
  obtain ⟨hi, hvie⟩ := execution_vie h₀ h hconserve
    (by rwa [Set.insert_eq_of_mem hmessage])
  have hmem : n ∈ observations n.bankAccount n.externalTransactionId l :=
    List.mem_filterMap.2 ⟨c, hc, hn⟩
  exact (retient_of_vie (fun n hn => (de_of_mem_observations hn).1) hvie hi).unique
    (List.ne_nil_of_mem hmem)

/-- Two observations that a run has stored have their row in common when they are of the same
pair, and only then. -/
private theorem de_iff (hcollision : cfg.crypto.SansCollision
      {m | ∃ c ∈ l, m ∈ Operation.messages c.call})
    {c c' : Etape col cfg} (hc : c ∈ l) (hc' : c' ∈ l) {n n' : NouvelleTransactionBancaire}
    (hn : c.Observe n) (hn' : c'.Observe n') {t : BankTransactionRow} (ht : t.De cfg.crypto n) :
    t.De cfg.crypto n' ↔
      n.bankAccount = n'.bankAccount ∧ n.externalTransactionId = n'.externalTransactionId := by
  have hcall := Operation.call_of_observation? hn
  have hcall' := Operation.call_of_observation? hn'
  constructor
  · intro ht'
    have hkey : dedupKeyTransaction cfg.crypto n.bankAccount n.externalTransactionId =
        dedupKeyTransaction cfg.crypto n'.bankAccount n'.externalTransactionId :=
      ht.2.symm.trans ht'.2
    exact CryptoService.messageDedup_uuid_inj
      (hcollision _ ⟨c, hc, by rw [hcall]; rfl⟩ _ ⟨c', hc', by rw [hcall']; rfl⟩ hkey)
  · rintro ⟨hcompte, hexterne⟩
    exact ⟨ht.1.trans hcompte, ht.2.trans (by rw [hcompte, hexterne])⟩

end Origin

/-! ## The reference of an operation -/

/-- A transaction that is read has the reference that is there first. -/
theorem versTransaction_reference {uuidDepuis : String → Uuid} {lu : BankAccount}
    {horodatage : DateTime} {wire : TransactionWire} {transaction : TransactionBancaire}
    (h : EnableBanking.versTransaction uuidDepuis lu horodatage wire = .ok transaction) :
    wire.entryReference.or wire.transactionId = some transaction.externalTransactionId := by
  unfold EnableBanking.versTransaction EnableBanking.referenceExterne at h
  cases hreference : wire.entryReference.or wire.transactionId with
  | none =>
      rw [hreference] at h
      cases h
  | some reference =>
      rw [hreference] at h
      cases hmontant : EnableBanking.montantEnCentimes wire.transactionAmount with
      | error e =>
          rw [hmontant] at h
          cases h
      | ok amountCents =>
          rw [hmontant] at h
          cases h
          rfl

section Result

variable {col : Collation} {cfg : Configuration} {s₀ s : Store}
  {l : List (Etape col cfg × Option TransactionWire)} {uuidDepuis : String → Uuid}
  {compte : BankAccountId}

/-- What a page says of an observation that was stored. -/
private theorem stockee_reference
    (hreleve : ∀ p ∈ l, p.1.call.Releve uuidDepuis compte p.2) {wire : TransactionWire}
    {n : NouvelleTransactionBancaire} (h : Stockee l wire n) :
    n.bankAccount = compte ∧
      wire.entryReference.or wire.transactionId = some n.externalTransactionId := by
  obtain ⟨c, hc, hn⟩ := h
  have hcall := Operation.call_of_observation? hn
  generalize hwire : some wire = label at hc
  have hlabel := hreleve _ hc
  cases hlabel with
  | page hid hvide hlue hstocke =>
      obtain rfl := Option.some.inj hwire
      obtain rfl := Operation.enregistrer.inj (hcall.symm.trans hstocke)
      exact ⟨rfl, versTransaction_reference hlue⟩
  | autre hconserve hcompte => cases hwire

/-- The observation of a row of the account comes from a page. -/
private theorem exists_stockee (hreleve : ∀ p ∈ l, p.1.call.Releve uuidDepuis compte p.2)
    {c : Etape col cfg} (hc : c ∈ l.map Prod.fst) {n : NouvelleTransactionBancaire}
    (hn : c.Observe n) (hcompte : n.bankAccount = compte) : ∃ wire, Stockee l wire n := by
  obtain ⟨⟨c, label⟩, hp, rfl⟩ := List.mem_map.1 hc
  have hcall := Operation.call_of_observation? hn
  cases hreleve _ hp with
  | page hid hvide hlue hstocke => exact ⟨_, c, hp, hn⟩
  | autre hconserve hautre => exact absurd hcompte (hautre n hcall)

/-- The row of an observation is that of another one when their references are the same. -/
private theorem de_iff_reference (hreleve : ∀ p ∈ l, p.1.call.Releve uuidDepuis compte p.2)
    (hcollision : cfg.crypto.SansCollision
      {m | ∃ c ∈ l.map Prod.fst, m ∈ Operation.messages c.call})
    {wire wire' : TransactionWire} {n n' : NouvelleTransactionBancaire} {t : BankTransactionRow}
    (h : Stockee l wire n) (h' : Stockee l wire' n') (ht : t.De cfg.crypto n) :
    t.De cfg.crypto n' ↔
      wire.entryReference.or wire.transactionId =
        wire'.entryReference.or wire'.transactionId := by
  obtain ⟨hcompte, href⟩ := stockee_reference hreleve h
  obtain ⟨hcompte', href'⟩ := stockee_reference hreleve h'
  obtain ⟨c, hc, hn⟩ := h
  obtain ⟨c', hc', hn'⟩ := h'
  rw [de_iff hcollision (List.mem_map_of_mem hc) (List.mem_map_of_mem hc') hn hn' ht, href,
    href', Option.some.injEq, hcompte, hcompte']
  exact and_iff_right rfl

/-- A run over pages erases nobody. -/
private theorem conserve_of_releve (hreleve : ∀ p ∈ l, p.1.call.Releve uuidDepuis compte p.2) :
    ∀ c ∈ l.map Prod.fst, Operation.Conserve c.call := by
  intro c hc
  obtain ⟨p, hp, rfl⟩ := List.mem_map.1 hc
  exact (hreleve p hp).conserve

/-- A transaction of a page that was stored has one row. -/
private theorem existsUnique_stockee (h₀ : s₀.Amorcee)
    (h : Execution col cfg s₀ (l.map Prod.fst) s)
    (hreleve : ∀ p ∈ l, p.1.call.Releve uuidDepuis compte p.2)
    (hcollision : cfg.crypto.SansCollision
      {m | ∃ c ∈ l.map Prod.fst, m ∈ Operation.messages c.call})
    {wire : TransactionWire} {n : NouvelleTransactionBancaire} (hwire : Stockee l wire n) :
    ∃! t, t ∈ s.bankTransaction ∧ t.De cfg.crypto n := by
  obtain ⟨c, hc, hn⟩ := hwire
  exact existsUnique_de h₀ h (conserve_of_releve hreleve) hcollision (List.mem_map_of_mem hc) hn

/-- When every operation has a row of its own, the references tell the operations apart. -/
private theorem reference_iff_of_uneLigne (h₀ : s₀.Amorcee)
    (h : Execution col cfg s₀ (l.map Prod.fst) s)
    (hreleve : ∀ p ∈ l, p.1.call.Releve uuidDepuis compte p.2)
    (hcollision : cfg.crypto.SansCollision
      {m | ∃ c ∈ l.map Prod.fst, m ∈ Operation.messages c.call})
    (hune : UneLigneParOperation compte l s) {wire wire' : TransactionWire}
    {n n' : NouvelleTransactionBancaire} (hwire : Stockee l wire n)
    (hwire' : Stockee l wire' n') :
    wire.entryReference.or wire.transactionId = wire'.entryReference.or wire'.transactionId ↔
      wire.transactionId = wire'.transactionId := by
  obtain ⟨t, ⟨ht, hde⟩, -⟩ := existsUnique_stockee h₀ h hreleve hcollision hwire
  have hrepresente : t.Represente l wire.transactionId := ⟨wire, n, hwire, rfl, hde⟩
  constructor
  · intro href
    have hde' := (de_iff_reference hreleve hcollision hwire hwire' hde).2 href
    have hcompte : t.bankAccountId = compte := hde.1.trans (stockee_reference hreleve hwire).1
    exact (hune.seule t ht hcompte).unique hrepresente ⟨wire', n', hwire', rfl, hde'⟩
  · intro hid
    obtain ⟨t', ⟨ht', hde'⟩, -⟩ := existsUnique_stockee h₀ h hreleve hcollision hwire'
    have hrepresente' : t'.Represente l wire.transactionId := ⟨wire', n', hwire', hid.symm, hde'⟩
    obtain rfl : t = t' :=
      (hune.unique wire n hwire).unique ⟨ht, hrepresente⟩ ⟨ht', hrepresente'⟩
    exact (de_iff_reference hreleve hcollision hwire hwire' hde).1 hde'

/-- Every operation of the bank has a row of its own, and one only, exactly when the first
reference that is there tells the operations apart as their `transaction_id` does. -/
theorem uneLigneParOperation_iff (h₀ : s₀.Amorcee)
    (h : Execution col cfg s₀ (l.map Prod.fst) s)
    (hreleve : ∀ p ∈ l, p.1.call.Releve uuidDepuis compte p.2)
    (hcollision : cfg.crypto.SansCollision
      {m | ∃ c ∈ l.map Prod.fst, m ∈ Operation.messages c.call}) :
    UneLigneParOperation compte l s ↔
      ∀ wire n, Stockee l wire n → ∀ wire' n', Stockee l wire' n' →
        (wire.entryReference.or wire.transactionId =
            wire'.entryReference.or wire'.transactionId ↔
          wire.transactionId = wire'.transactionId) := by
  constructor
  · intro hune wire n hwire wire' n' hwire'
    exact reference_iff_of_uneLigne h₀ h hreleve hcollision hune hwire hwire'
  · intro hreference
    constructor
    · intro wire n hwire
      obtain ⟨t, ⟨ht, hde⟩, huniq⟩ := existsUnique_stockee h₀ h hreleve hcollision hwire
      refine ⟨t, ⟨ht, wire, n, hwire, rfl, hde⟩, ?_⟩
      rintro t' ⟨ht', wire', n', hwire', hid, hde'⟩
      have href := (hreference wire' n' hwire' wire n hwire).2 hid
      exact huniq t' ⟨ht', (de_iff_reference hreleve hcollision hwire' hwire hde').2 href⟩
    · intro t ht hcompte
      obtain ⟨n, ⟨c, hc, hn⟩, hde⟩ := execution_origine h₀ h (conserve_of_releve hreleve) t ht
      obtain ⟨wire, hwire⟩ := exists_stockee hreleve hc hn (hde.1.symm.trans hcompte)
      refine ⟨wire.transactionId, ⟨wire, n, hwire, rfl, hde⟩, ?_⟩
      rintro operation ⟨wire', n', hwire', rfl, hde'⟩
      have href := (de_iff_reference hreleve hcollision hwire hwire' hde).1 hde'
      exact ((hreference wire n hwire wire' n' hwire').1 href).symm

end Result

/-! ## A purchase that gets its reference when it is booked -/

/-- A purchase as a page shows it. -/
def achatMontre (entryReference : Option String) (transactionId status : String) :
    TransactionWire :=
  { entryReference, transactionId := some transactionId,
    transactionAmount := ⟨"12.00", "EUR"⟩, creditDebitIndicator := some "DBIT", status,
    bookingDate := none, valueDate := none, remittanceInformation := ["CARTE"] }

/-- What is stored of it, under its reference. -/
def achatStocke (reference : String) (status : TransactionStatus) : NouvelleTransactionBancaire :=
  { bankAccount := Uuid.fromU128 1012, externalTransactionId := reference, status,
    label := "CARTE", amountCents := -1200, currency := "EUR", bookingDate := none,
    valueDate := none }

/-- The account is attached, then its pages are read: what each operation stores, and the
transaction it was shown. -/
def parcours (vues : List (NouvelleTransactionBancaire × TransactionWire)) :
    List (Operation × Option TransactionWire) :=
  [(.createConsent "alice" "banque", none), (.completeConsent "alice" reponseBanque, none)] ++
    vues.map fun v => (.enregistrer v.1, some v.2)

/-- The steps of the walk, with the transactions shown. -/
def etapesDuParcours (vues : List (NouvelleTransactionBancaire × TransactionWire)) :
    List (Etape Scenario.collation Scenario.configuration × Option TransactionWire) :=
  (Scenario.unCompte.etapes ((parcours vues).map Prod.fst)).zip ((parcours vues).map Prod.snd)

/-- The steps of the journey are those of the run. -/
private theorem map_fst_etapesDuParcours
    (vues : List (NouvelleTransactionBancaire × TransactionWire)) :
    (etapesDuParcours vues).map Prod.fst =
      Scenario.unCompte.etapes ((parcours vues).map Prod.fst) := by
  have hlength := congrArg List.length
    (Scenario.unCompte.calls_etapes ((parcours vues).map Prod.fst))
  refine List.map_fst_zip ?_
  simpa using hlength.le

/-- The transaction is stored as it is read. -/
def stockeCommeLue (v : NouvelleTransactionBancaire × TransactionWire) : Prop :=
  (EnableBanking.versTransaction (fun _ => Uuid.fromU128 0) (compteBancaire "FR1") 0
    v.2).map (versNouvelleTransaction (Uuid.fromU128 1012)) = .ok v.1

instance (v : NouvelleTransactionBancaire × TransactionWire) : Decidable (stockeCommeLue v) :=
  inferInstanceAs (Decidable (_ = _))

/-- Every step stores what the bank gave at that point. -/
private theorem releve_vues {vues : List (NouvelleTransactionBancaire × TransactionWire)}
    (hvues : ∀ v ∈ vues, v.2.transactionId ≠ none ∧ v.2.transactionId ≠ some "" ∧
      stockeCommeLue v) :
    ∀ p ∈ etapesDuParcours vues,
      p.1.call.Releve (fun _ => Uuid.fromU128 0) (Uuid.fromU128 1012) p.2 := by
  intro p hp
  have hmem : (p.1.call, p.2) ∈ parcours vues := by
    have hzip : (etapesDuParcours vues).map (Prod.map Step.call id) = parcours vues := by
      rw [etapesDuParcours, ← List.zip_map, Scenario.calls_etapes, List.map_id]
      rw [← List.unzip_fst, ← List.unzip_snd, List.zip_unzip]
    rw [← hzip]
    exact List.mem_map_of_mem hp
  generalize p.1.call = o at hmem
  generalize p.2 = label at hmem
  simp only [parcours, List.cons_append, List.nil_append, List.mem_cons, List.mem_map,
    Prod.mk.injEq] at hmem
  obtain ⟨rfl, rfl⟩ | ⟨rfl, rfl⟩ | ⟨v, hv, rfl, rfl⟩ := hmem
  · exact .autre ⟨nofun, nofun⟩ nofun
  · exact .autre ⟨nofun, nofun⟩ nofun
  · obtain ⟨hid, hvide, hlue⟩ := hvues v hv
    unfold stockeCommeLue at hlue
    cases htransaction : EnableBanking.versTransaction (fun _ => Uuid.fromU128 0)
        (compteBancaire "FR1") 0 v.2 with
    | error e =>
        rw [htransaction] at hlue
        cases hlue
    | ok transaction =>
        rw [htransaction] at hlue
        exact .page hid hvide htransaction (congrArg _ (Except.ok.inj hlue).symm)

/-- The references of these pages tell the purchases apart. -/
def vuesStables : List (NouvelleTransactionBancaire × TransactionWire) :=
  [(achatStocke "T1" .pending, achatMontre none "T1" "PDNG"),
    (achatStocke "T1" .booked, achatMontre none "T1" "BOOK"),
    (achatStocke "E2" .booked, achatMontre (some "E2") "T2" "BOOK")]

/-- The purchase gets a reference when it is booked. -/
def vuesTardives : List (NouvelleTransactionBancaire × TransactionWire) :=
  [(achatStocke "T1" .pending, achatMontre none "T1" "PDNG"),
    (achatStocke "E1" .booked, achatMontre (some "E1") "T1" "BOOK")]

/-- The journey is an execution. -/
private theorem execution_parcours (vues : List (NouvelleTransactionBancaire × TransactionWire)) :
    Execution Scenario.collation Scenario.configuration amorcee
      ((etapesDuParcours vues).map Prod.fst)
      (Scenario.unCompte.fin ((parcours vues).map Prod.fst)) := by
  rw [map_fst_etapesDuParcours]
  exact Scenario.unCompte.execution _

/-- Each of the two purchases has its row. -/
theorem uneLigneParOperation_vuesStables :
    UneLigneParOperation (Uuid.fromU128 1012) (etapesDuParcours vuesStables)
      (Scenario.unCompte.fin ((parcours vuesStables).map Prod.fst)) := by
  have hvues : ∀ wire ∈ vuesStables.map Prod.snd, ∀ wire' ∈ vuesStables.map Prod.snd,
      (wire.entryReference.or wire.transactionId = wire'.entryReference.or wire'.transactionId ↔
        wire.transactionId = wire'.transactionId) := by decide
  have hmem : ∀ {wire n}, Stockee (etapesDuParcours vuesStables) wire n →
      wire ∈ vuesStables.map Prod.snd := by
    rintro wire n ⟨c, hc, -⟩
    have hlabel := (List.of_mem_zip hc).2
    simpa [parcours] using hlabel
  refine (uneLigneParOperation_iff amorcee_amorcee (execution_parcours vuesStables)
    (releve_vues (by decide)) (sansCollision_enClair _)).2 ?_
  intro wire n hwire wire' n' hwire'
  exact hvues wire (hmem hwire) wire' (hmem hwire')

/-- The purchase has two rows. -/
theorem not_uneLigneParOperation_vuesTardives :
    ¬ UneLigneParOperation (Uuid.fromU128 1012) (etapesDuParcours vuesTardives)
      (Scenario.unCompte.fin ((parcours vuesTardives).map Prod.fst)) := by
  intro hune
  have hpending : Stockee (etapesDuParcours vuesTardives) (achatMontre none "T1" "PDNG")
      (achatStocke "T1" .pending) :=
    ⟨_, List.get_mem (etapesDuParcours vuesTardives) ⟨2, by decide⟩, by rfl⟩
  have hbooked : Stockee (etapesDuParcours vuesTardives) (achatMontre (some "E1") "T1" "BOOK")
      (achatStocke "E1" .booked) :=
    ⟨_, List.get_mem (etapesDuParcours vuesTardives) ⟨3, by decide⟩, by rfl⟩
  have hreference := reference_iff_of_uneLigne amorcee_amorcee
    (execution_parcours vuesTardives) (releve_vues (by decide)) (sansCollision_enClair _)
    hune hpending hbooked
  exact absurd (hreference.2 rfl) (by decide)

end Budgy
