import Budgy.Interface.Pages
import Budgy.Model.Repository.Transactions

/-!
# Pages of the owner's transactions

`filtrer_trier_paginer` sorts the whole selection at each request, on a key that ends with
the identifier: no two transactions tie, so every request sorts them in the same order,
whatever the order in which the database gave them.
-/

set_option autoImplicit false

namespace Budgy

open Pages

variable {transactions transactions' : List TransactionBancaire} {sens : Option SensTransaction}
  {champ : ChampTriTransaction}

/-- The transactions that pass the direction filter. -/
def retenuesSens (transactions : List TransactionBancaire) (sens : Option SensTransaction) :
    List TransactionBancaire :=
  transactions.filter fun t => sens.all fun sens => t.sens = sens

/-- The first `n` pages, at the offsets `0`, `limit`, `2 * limit` and so on. -/
def pagesLues (transactions : List TransactionBancaire) (sens : Option SensTransaction)
    (tri : TriTransactions) (limit n : ℕ) : List TransactionBancaire :=
  (List.range n).flatMap fun k =>
    (filtrerTrierPaginer transactions sens tri ⟨limit, k * limit⟩).elements

/-- The first transaction does not come after the second one: the amount is not greater, the
date is not later, and no date comes before all dates. -/
def Precede (champ : ChampTriTransaction) (t t' : TransactionBancaire) : Prop :=
  match champ with
  | .montant => t.amountCents ≤ t'.amountCents
  | .date => ∀ d ∈ t.dateEffective, ∃ d' ∈ t'.dateEffective, d ≤ d'

/-- The order of the rows that the sort asks for. -/
def RespecteTri (tri : TriTransactions) (l : List TransactionBancaire) : Prop :=
  match tri.ordre with
  | .ascendant => l.Pairwise (Precede tri.champ)
  | .descendant => l.Pairwise fun t t' => Precede tri.champ t' t

/-- A sort key in order puts the fields in order. -/
theorem precede_of_cleTri {t t' : TransactionBancaire} (h : cleTri champ t ≤ cleTri champ t') :
    Precede champ t t' := by
  have hbase := Prod.Lex.monotone_fst _ _ h
  cases champ with
  | montant =>
      rcases Prod.Lex.toLex_le_toLex.1 hbase with hlt | ⟨-, hle⟩
      · exact absurd hlt (lt_irrefl 0)
      · exact hle
  | date =>
      intro d hd
      dsimp only [cleTri] at hbase
      rw [Option.mem_def.1 hd] at hbase
      cases hd' : t'.dateEffective with
      | none =>
          rw [hd'] at hbase
          rcases Prod.Lex.toLex_le_toLex.1 hbase with hlt | ⟨heq, -⟩
          · exact absurd hlt (Nat.not_lt_zero 1)
          · exact absurd heq Nat.one_ne_zero
      | some d' =>
          rw [hd'] at hbase
          refine ⟨d', rfl, ?_⟩
          rcases Prod.Lex.toLex_le_toLex.1 hbase with hlt | ⟨-, hle⟩
          · exact absurd hlt (lt_irrefl 1)
          · exact hle

/-- The sort key ends with the identifier. -/
theorem cleTri_injective (champ : ChampTriTransaction)
    (hids : (transactions.map TransactionBancaire.id).Nodup) :
    ∀ t ∈ transactions, ∀ t' ∈ transactions, cleTri champ t = cleTri champ t' → t = t' := by
  intro t ht t' ht' heq
  have hid : t.id = t'.id := congrArg (fun k => (ofLex (ofLex k).2).2) heq
  exact List.inj_on_of_nodup_map hids ht ht' hid

/-- Sorting permutes the transactions. -/
theorem perm_trier (l : List TransactionBancaire) (tri : TriTransactions) :
    (trier l tri).Perm l := by
  unfold trier
  cases tri.ordre with
  | ascendant => exact Relational.perm_sortBy _ _
  | descendant => exact Relational.perm_sortBy _ _

/-- In the ascending order, the keys go up. -/
theorem pairwise_ascendant (l : List TransactionBancaire) :
    (trier l ⟨champ, .ascendant⟩).Pairwise fun t t' => cleTri champ t ≤ cleTri champ t' :=
  Relational.pairwise_sortBy (cleTri champ) l

/-- In the descending order, the keys go down. -/
theorem pairwise_descendant (l : List TransactionBancaire) :
    (trier l ⟨champ, .descendant⟩).Pairwise fun t t' => cleTri champ t' ≤ cleTri champ t :=
  Relational.pairwise_sortBy (fun t => OrderDual.toDual (cleTri champ t)) l

/-- The sorted transactions are in the order that was asked for. -/
theorem respecteTri_trier (l : List TransactionBancaire) (tri : TriTransactions) :
    RespecteTri tri (trier l tri) := by
  obtain ⟨champ, ordre⟩ := tri
  cases ordre with
  | ascendant => exact (pairwise_ascendant l).imp precede_of_cleTri
  | descendant => exact (pairwise_descendant l).imp precede_of_cleTri

/-- Without ties, the order in which the rows are given does not matter. -/
theorem trier_congr {l l' : List TransactionBancaire} (h : l.Perm l')
    (hids : (l.map TransactionBancaire.id).Nodup) (tri : TriTransactions) :
    trier l tri = trier l' tri := by
  have hinj := cleTri_injective tri.champ hids
  unfold trier
  cases tri.ordre with
  | ascendant => exact Relational.sortBy_congr h hinj
  | descendant =>
      exact Relational.sortBy_congr h fun t ht t' ht' heq =>
        hinj t ht t' ht' (OrderDual.toDual.injective heq)

/-- One order is the reverse of the other. -/
theorem trier_descendant {l : List TransactionBancaire}
    (hids : (l.map TransactionBancaire.id).Nodup) :
    trier l ⟨champ, .descendant⟩ = (trier l ⟨champ, .ascendant⟩).reverse := by
  have hascendant := perm_trier l ⟨champ, .ascendant⟩
  have hdescendant := perm_trier l ⟨champ, .descendant⟩
  have hperm := hdescendant.trans (hascendant.symm.trans (List.reverse_perm _).symm)
  refine hperm.eq_of_pairwise ?_ (pairwise_descendant l)
    (List.pairwise_reverse.2 (pairwise_ascendant l))
  intro t t' ht ht' hle hge
  have hmem : t' ∈ l := hascendant.mem_iff.1 (List.mem_reverse.1 ht')
  exact cleTri_injective champ hids t (hdescendant.mem_iff.1 ht) t' hmem (le_antisymm hge hle)

/-- A page is a page of the sorted selection, which it counts. -/
theorem filtrerTrierPaginer_eq (tri : TriTransactions) (tranche : Tranche) :
    filtrerTrierPaginer transactions sens tri tranche =
      ⟨((trier (retenuesSens transactions sens) tri).drop tranche.offset).take tranche.limit,
        (retenuesSens transactions sens).length⟩ := by
  have hlength := (perm_trier (retenuesSens transactions sens) tri).length_eq
  cases sens with
  | none =>
      have hretenues : retenuesSens transactions none = transactions := by simp [retenuesSens]
      rw [← hlength, hretenues]
      rfl
  | some sens =>
      rw [← hlength]
      rfl

/-- Enough pages make up the sorted transactions that the direction keeps. -/
theorem pagesLues_eq {tri : TriTransactions} {limit n : ℕ}
    (hn : (retenuesSens transactions sens).length ≤ n * limit) :
    pagesLues transactions sens tri limit n = trier (retenuesSens transactions sens) tri := by
  unfold pagesLues
  simp only [filtrerTrierPaginer_eq]
  refine concat_of_le (l := trier (retenuesSens transactions sens) tri) ?_
  rw [(perm_trier _ tri).length_eq]
  exact hn

/-- The pages give every transaction that passes the filter once, in the order asked for,
which the order of the input does not change; the count is the same on every page; one order
is the reverse of the other. -/
theorem pagesLues_spec (hids : (transactions.map TransactionBancaire.id).Nodup)
    (sens : Option SensTransaction) (tri : TriTransactions) (limit : ℕ) :
    (∀ n, (retenuesSens transactions sens).length ≤ n * limit →
      (pagesLues transactions sens tri limit n).Perm (retenuesSens transactions sens) ∧
        RespecteTri tri (pagesLues transactions sens tri limit n) ∧
        (∀ transactions' : List TransactionBancaire, transactions'.Perm transactions →
          pagesLues transactions' sens tri limit n = pagesLues transactions sens tri limit n) ∧
        pagesLues transactions sens ⟨tri.champ, .descendant⟩ limit n =
          (pagesLues transactions sens ⟨tri.champ, .ascendant⟩ limit n).reverse) ∧
    ∀ tranche, (filtrerTrierPaginer transactions sens tri tranche).total =
      (retenuesSens transactions sens).length := by
  have hretenues : ((retenuesSens transactions sens).map TransactionBancaire.id).Nodup :=
    (List.filter_sublist.map _).nodup hids
  refine ⟨fun n hn => ?_, fun tranche => by rw [filtrerTrierPaginer_eq]⟩
  rw [pagesLues_eq hn]
  refine ⟨perm_trier _ tri, respecteTri_trier _ tri, ?_, ?_⟩
  · intro transactions' hperm
    have hmemes : (retenuesSens transactions' sens).Perm (retenuesSens transactions sens) :=
      hperm.filter _
    rw [pagesLues_eq (hmemes.length_eq.trans_le hn), trier_congr hmemes.symm hretenues]
  · rw [pagesLues_eq hn, pagesLues_eq hn, trier_descendant hretenues]

/-- A transaction without a date, recorded at the epoch. -/
def transactionSansDate (n : ℕ) (montant : ℤ) : TransactionBancaire :=
  { id := Uuid.fromU128 n, bankAccount := Uuid.fromU128 0, externalTransactionId := "",
    status := .pending, label := "", amountCents := montant, currency := "EUR",
    bookingDate := none, valueDate := none, category := none, enveloppe := none,
    categorizationSource := .none, ruleId := none, isRecurrent := false,
    recurrenceInterval := none, createdAt := 0 }

/-- Two transactions that only the identifier tells apart, one on each page. -/
theorem pagesLues_jumelles : (pagesLues [transactionSansDate 1 500, transactionSansDate 2 500]
    (some .entree) ⟨.date, .descendant⟩ 1 2).Perm
      (retenuesSens [transactionSansDate 1 500, transactionSansDate 2 500] (some .entree)) := by
  have hids : ([transactionSansDate 1 500, transactionSansDate 2 500].map
      TransactionBancaire.id).Nodup := by decide
  exact ((pagesLues_spec hids (some .entree) ⟨.date, .descendant⟩ 1).1 2 (by decide)).1

end Budgy
