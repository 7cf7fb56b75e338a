import Budgy.Interface.Saturation
import Budgy.Model.Agregation

/-!
# The consolidated balance

`SoldeConsolide::consolider` adds the balances of the accounts with saturation at each step.
A partial sum that reaches a bound of the machine integers and comes back has lost what it
had in excess, so the totals depend on the order of the accounts, unless the balances fit.
-/

set_option autoImplicit false

namespace Budgy

open Saturation

/-- The current balance of an account. -/
def montantCourant (compte : CompteAvecSolde) : Option ℤ := compte.solde.map Balance.amountCents

/-- Its expected balance, or else its current one. -/
def montantAVenir (compte : CompteAvecSolde) : Option ℤ :=
  (compte.soldeAVenir.or compte.solde).map Balance.amountCents

variable {comptes : List CompteAvecSolde}

/-- A machine integer is not clamped. -/
theorem clamp_of_i64 {n : ℤ} (h : EstI64 n) : clamp i64Min i64Max n = n := by
  unfold clamp
  rw [min_eq_right h.2, max_eq_right h.1]

/-- Saturated, a sum is a machine integer. -/
theorem estI64_clamp (n : ℤ) : EstI64 (clamp i64Min i64Max n) := clamp_mem (by decide) n

/-- So is a sum of balances. -/
theorem estI64_total (l : List ℤ) : EstI64 (total i64Min i64Max l) :=
  total_mem (by decide) (by decide) l

/-- An account without a balance adds nothing. -/
theorem foldl_montants (comptes : List CompteAvecSolde) (f : CompteAvecSolde → Option ℤ) {acc : ℤ}
    (hacc : EstI64 acc) :
    comptes.foldl (fun acc compte => saturatingAdd acc ((f compte).getD 0)) acc =
      (comptes.filterMap f).foldl (fun acc n => clamp i64Min i64Max (acc + n)) acc := by
  induction comptes generalizing acc with
  | nil => rfl
  | cons compte comptes ih =>
      rw [List.foldl_cons]
      cases hf : f compte with
      | none =>
          have hzero : saturatingAdd acc 0 = acc := by
            show clamp i64Min i64Max (acc + 0) = acc
            rw [add_zero, clamp_of_i64 hacc]
          rw [List.filterMap_cons_none hf, Option.getD_none, hzero]
          exact ih hacc
      | some n =>
          rw [List.filterMap_cons_some hf, List.foldl_cons]
          exact ih (estI64_clamp (acc + n))

/-- The total is the saturating sum of the current balances. -/
theorem totalCents_consolider (comptes : List CompteAvecSolde) :
    (SoldeConsolide.consolider comptes).totalCents =
      total i64Min i64Max (comptes.filterMap montantCourant) := by
  have hmontants : comptes.filterMap montantCourant =
      (comptes.filterMap CompteAvecSolde.solde).map Balance.amountCents := by
    rw [List.map_filterMap]
    rfl
  rw [hmontants, total, List.foldl_map]
  rfl

/-- The total to come is the saturating sum of the balances to come, when there are any. -/
theorem totalAVenirCents_consolider (comptes : List CompteAvecSolde) :
    (SoldeConsolide.consolider comptes).totalAVenirCents =
      if comptes.any fun c => c.soldeAVenir.isSome then
        some (total i64Min i64Max (comptes.filterMap montantAVenir))
      else none := by
  have hzero : EstI64 0 := by decide
  have hfold := foldl_montants comptes montantAVenir hzero
  rw [total, ← hfold]
  rfl

/-- The expected total of the exact sum. -/
def totalAVenirExact (comptes : List CompteAvecSolde) : Option ℤ :=
  if comptes.any fun c => c.soldeAVenir.isSome then
    some (clamp i64Min i64Max (comptes.filterMap montantAVenir).sum)
  else none

/-- Whether there are any does not depend on the order. -/
theorem any_soldeAVenir_perm {comptes' : List CompteAvecSolde} (h : comptes'.Perm comptes) :
    (comptes'.any fun c => c.soldeAVenir.isSome) = comptes.any fun c => c.soldeAVenir.isSome := by
  rw [Bool.eq_iff_iff, List.any_eq_true, List.any_eq_true]
  exact exists_congr fun compte => and_congr_left fun _ => h.mem_iff

/-- The totals are machine integers.  In every order of the accounts, the current one is the
clamped sum of the balances exactly when these fit; the expected one, which exists when some
account has an expected balance, is it exactly when it does not exist or the balances it adds
fit. -/
theorem consolider_perm_iff (comptes : List CompteAvecSolde) :
    (EstI64 (SoldeConsolide.consolider comptes).totalCents ∧
      ∀ n ∈ (SoldeConsolide.consolider comptes).totalAVenirCents, EstI64 n) ∧
    ((∀ comptes' : List CompteAvecSolde, comptes'.Perm comptes →
        (SoldeConsolide.consolider comptes').totalCents =
          clamp i64Min i64Max (comptes.filterMap montantCourant).sum) ↔
      Fits i64Min i64Max (comptes.filterMap montantCourant)) ∧
    ((SoldeConsolide.consolider comptes).totalAVenirCents.isSome = true ↔
      ∃ compte ∈ comptes, compte.soldeAVenir.isSome = true) ∧
    ((∀ comptes' : List CompteAvecSolde, comptes'.Perm comptes →
        (SoldeConsolide.consolider comptes').totalAVenirCents = totalAVenirExact comptes) ↔
      (∀ compte ∈ comptes, compte.soldeAVenir.isSome = false) ∨
        Fits i64Min i64Max (comptes.filterMap montantAVenir)) := by
  have hlo : i64Min ≤ 0 := by decide
  have hhi : 0 < i64Max := by decide
  have hcourant := total_perm_iff montantCourant hlo hhi comptes
  have hvenir := total_perm_iff montantAVenir hlo hhi comptes
  refine ⟨⟨?_, ?_⟩, ?_, ?_, ?_⟩
  · rw [totalCents_consolider]
    exact estI64_total _
  · intro n hn
    rw [totalAVenirCents_consolider] at hn
    split_ifs at hn with hany
    · rw [← Option.some.inj hn]
      exact estI64_total _
    · cases hn
  · simpa only [totalCents_consolider] using hcourant
  · rw [totalAVenirCents_consolider, ← List.any_eq_true]
    split_ifs with hany
    · exact iff_of_true rfl hany
    · exact iff_of_false (by simp) hany
  · have habsent : (∀ compte ∈ comptes, compte.soldeAVenir.isSome = false) ↔
        (comptes.any fun c => c.soldeAVenir.isSome) = false := by
      simp only [List.any_eq_false, Bool.not_eq_true]
    rw [← hvenir, habsent]
    unfold totalAVenirExact
    cases hany : comptes.any fun c => c.soldeAVenir.isSome with
    | false =>
        refine iff_of_true (fun comptes' hperm => ?_) (.inl rfl)
        rw [totalAVenirCents_consolider, any_soldeAVenir_perm hperm, hany]
        rfl
    | true =>
        have hexact : ∀ comptes' : List CompteAvecSolde, comptes'.Perm comptes →
            (SoldeConsolide.consolider comptes').totalAVenirCents =
              some (total i64Min i64Max (comptes'.filterMap montantAVenir)) := by
          intro comptes' hperm
          rw [totalAVenirCents_consolider, any_soldeAVenir_perm hperm, hany]
          rfl
        rw [or_iff_right (by decide), if_pos rfl]
        refine forall_congr' fun comptes' => forall_congr' fun hperm => ?_
        rw [hexact comptes' hperm, Option.some_inj]

/-- An account whose only balance is the current one. -/
def compteAvecSolde (montant : ℤ) : CompteAvecSolde :=
  { compte :=
      { id := Uuid.fromU128 1, proprietaire := "alice", consent := Uuid.fromU128 2,
        externalAccountId := "FR1", ibanMasked := "", currency := "EUR", nextSyncAt := none,
        syncCountToday := 0, createdAt := 0, updatedAt := 0 }
    solde := some
      { id := Uuid.fromU128 3, bankAccount := Uuid.fromU128 1, balanceType := .booked,
        amountCents := montant, currency := "EUR", referenceDate := 0, createdAt := 0 }
    soldeAVenir := none }

/-- What exceeds the bound is lost before it is compensated. -/
theorem consolider_saturation :
    ¬ ∀ comptes : List CompteAvecSolde, (SoldeConsolide.consolider comptes).totalCents =
      clamp i64Min i64Max (comptes.filterMap montantCourant).sum := by
  intro h
  have hfaux := h [compteAvecSolde i64Max, compteAvecSolde 1, compteAvecSolde (-1)]
  revert hfaux
  decide

end Budgy
