import Mathlib.Data.List.Chain
import Budgy.Analysis.Footprint
import Budgy.Analysis.Scenarios

/-!
# The days a synchronisation asks for

A cycle reads the clock once and asks the bank for the transactions of a window
that ends at that instant, whatever was asked before.  Two consecutive
synchronisations of an account leave no day between them exactly when the second
comes before the window has moved past the day of the first
(`sans_trou_iff`).
-/

set_option autoImplicit false

namespace Budgy

open Effects Prog

/-! ## The requests of a cycle -/

/-- If the request asks the bank for transactions, it is from the start of the
window that ends at `maintenant`. -/
def Op.DansFenetre (fenetre : Duration) (maintenant : DateTime) (o : Op) : Prop :=
  ∀ consent compte depuis, o = .banque (.listerTransactions consent compte depuis) →
    depuis = DateTime.dateNaive (maintenant - fenetre)

section Cycle

variable {crypto : CryptoService} {parametres : ParametresSynchro}

/-- A statement asks the bank for nothing. -/
private theorem dansFenetre_sql {fenetre : Duration} {maintenant : DateTime} (r : Requete) :
    Op.DansFenetre fenetre maintenant (.sql r) :=
  fun _ _ _ h => nomatch h

/-- Nor does an operation outside the database and the bank. -/
private theorem dansFenetre_interne {fenetre : Duration} {maintenant : DateTime} (o : Op)
    (h : o.Interne) : o.DansFenetre fenetre maintenant := by
  cases o with
  | sql r => exact dansFenetre_sql r
  | nonce => exact fun _ _ _ h => nomatch h
  | banque | publier | uuidV4 | maintenant => exact h.elim

/-- The account handed to the bank was made at the instant of the cycle, so the window
ends there. -/
private theorem dansFenetre_synchroniserCompte {maintenant : DateTime} {echeant : CompteEcheant}
    {rapport : RapportSynchro} :
    (Synchro.synchroniserCompte crypto parametres maintenant rapport echeant).run.Uses
      (Op.DansFenetre parametres.fenetreTransactions maintenant) := by
  refine uses_synchroniserCompte dansFenetre_interne (fun r _ _ => dansFenetre_sql r)
    (dansFenetre_sql _)
    (fun _ _ _ _ h => nomatch h) (fun _ _ _ h => nomatch h) ?_
  rintro _ _ _ ⟨⟩
  rfl

/-- A cycle reads the clock first, then asks for the window that ends there. -/
theorem executer_dansFenetre {col : Collation} {s s' : Store} {t : List (Evenement col)}
    {r : Except SynchroError RapportSynchro}
    (h : Runs (machine col) (Synchro.executer crypto parametres).run s t r s') :
    ∃ maintenant t', t = ⟨s, .maintenant, maintenant⟩ :: t' ∧
      ∀ e ∈ t', e.op.DansFenetre parametres.fenetreTransactions maintenant := by
  obtain ⟨maintenant, t', rfl, hrest⟩ := runs_op.1 h
  refine ⟨maintenant, t', rfl, hrest.uses ?_⟩
  refine Uses.run_bind (Uses.run_mapError (uses_listerComptesEcheants dansFenetre_interne))
    fun echeants => ?_
  exact Uses.run_foldlM (fun _ _ _ => dansFenetre_synchroniserCompte) _

end Cycle

/-! ## The synchronisations of an account -/

section Runs

variable {col : Collation} {cfg : Configuration}

/-- The instant a cycle read on the clock. -/
def instantDuCycle (c : Etape col cfg) : Option DateTime :=
  match c.call, c.trace with
  | .synchroniser, ⟨_, .maintenant, instant⟩ :: _ => some instant
  | _, _ => none

/-- The first day asked of the bank by a request of an account, when the bank answered. -/
def jourDemande (compte : BankAccountId) : Evenement col → Option NaiveDate
  | ⟨_, .banque (.listerTransactions _ demande depuis), .ok _⟩ =>
      if demande.id = compte then some depuis else none
  | _ => none

/-- A synchronisation that succeeded: its instant and the first day it asked for. -/
structure Synchronisation where
  instant : DateTime
  depuis : NaiveDate

/-- The successful synchronisations of an account during a run, in order. -/
def synchronisations (compte : BankAccountId) (l : List (Etape col cfg)) : List Synchronisation :=
  l.flatMap fun c =>
    match instantDuCycle c with
    | some instant => (c.trace.filterMap (jourDemande compte)).map fun depuis => ⟨instant, depuis⟩
    | none => []

/-- Between two consecutive synchronisations no day is left out. -/
def SansTrou (l : List Synchronisation) : Prop :=
  l.IsChain fun a b => b.depuis ≤ a.instant.dateNaive

/-- The first instant of the day after. -/
def lendemain (t : DateTime) : DateTime := Duration.days (t.dayNumber + 1)

/-- A day asked for an account is the one of the call. -/
private theorem dansFenetre_of_jourDemande {e : Evenement col} {compte : BankAccountId}
    {depuis : NaiveDate} (h : jourDemande compte e = some depuis) :
    ∃ consent demande, e.op = .banque (.listerTransactions consent demande depuis) := by
  unfold jourDemande at h
  split at h
  · split at h
    · cases h
      exact ⟨_, _, rfl⟩
    · cases h
  · cases h

/-- Every synchronisation asks for the window that ends at its instant. -/
theorem depuis_eq {s s' : Store} {l : List (Etape col cfg)} (h : Execution col cfg s l s')
    {compte : BankAccountId} {sy : Synchronisation} (hsy : sy ∈ synchronisations compte l) :
    sy.depuis = DateTime.dateNaive (sy.instant - cfg.parametres.fenetreTransactions) := by
  obtain ⟨c, hc, hmem⟩ := List.mem_flatMap.1 hsy
  obtain ⟨call, before, trace, answer, after⟩ := c
  cases call with
  | synchroniser =>
      have hrun : Runs (machine col) (Synchro.executer cfg.crypto cfg.parametres).run before trace
          answer after := h.valid _ hc
      obtain ⟨maintenant, t', rfl, hall⟩ := executer_dansFenetre hrun
      obtain ⟨depuis, hdepuis, rfl⟩ := List.mem_map.1 hmem
      obtain ⟨e, he, hjour⟩ := List.mem_filterMap.1 hdepuis
      obtain ⟨consent, demande, hop⟩ := dansFenetre_of_jourDemande hjour
      rcases List.mem_cons.1 he with rfl | he
      · cases hop
      · exact hall e he consent demande depuis hop
  | _ => exact absurd hmem List.not_mem_nil

/-- Comparing the day of an instant moved back by the window is comparing the instant with the
following midnight. -/
theorem dateNaive_le_iff {t t' : DateTime} {fenetre : Duration} :
    DateTime.dateNaive (t' - fenetre) ≤ t.dateNaive ↔ t' < lendemain t + fenetre := by
  rw [DateTime.dateNaive_le_dateNaive]
  have hday : ∀ x y f : ℤ, (y - f) / 86400000000 ≤ x / 86400000000 ↔
      y < (x / 86400000000 + 1) * 86400000000 + f := by omega
  exact hday t t' fenetre

/-- The synchronisations of an account leave no day between them if and only if each
comes before the window has moved past the day of the one before it. -/
theorem sans_trou_iff {s s' : Store} {l : List (Etape col cfg)} (h : Execution col cfg s l s')
    (compte : BankAccountId) :
    SansTrou (synchronisations compte l) ↔
      ((synchronisations compte l).map Synchronisation.instant).IsChain fun t t' =>
        t' < lendemain t + cfg.parametres.fenetreTransactions := by
  rw [List.isChain_map]
  refine List.IsChain.iff_of_mem_imp fun a b _ hb => ?_
  rw [depuis_eq h hb, dateNaive_le_iff]

end Runs

/-! ## A gap of two months -/

/-- A worker that stops for two months: the clock of its second cycle is sixty days
after that of the first. -/
def ouvrierArrete : Scenario :=
  { Scenario.unCompte with horloge := fun n => if n < 22 then 0 else Duration.days 60 }

/-- An account is attached, then the worker runs two cycles. -/
def deuxCycles : List Operation :=
  [.createConsent "alice" "banque", .completeConsent "alice" reponseBanque, .synchroniser, .synchroniser]

/-- The account they synchronise. -/
def compteSynchronise : BankAccountId := Uuid.fromU128 1012

/-- The second cycle asks for the thirty days before it: thirty are never asked for. -/
theorem not_sans_trou_ouvrierArrete :
    Execution Scenario.collation Scenario.configuration amorcee
        (ouvrierArrete.etapes deuxCycles) (ouvrierArrete.fin deuxCycles) ∧
      ¬ SansTrou (synchronisations compteSynchronise (ouvrierArrete.etapes deuxCycles)) := by
  refine ⟨ouvrierArrete.execution _, ?_⟩
  rw [show SansTrou _ = List.IsChain _ _ from rfl]
  decide +kernel

/-- A worker whose second cycle comes the day after. -/
def ouvrierQuotidien : Scenario :=
  { ouvrierArrete with horloge := fun n => if n < 22 then 0 else Duration.days 1 }

/-- A daily worker synchronises the account twice, without a gap. -/
theorem sans_trou_ouvrierQuotidien :
    (synchronisations compteSynchronise (ouvrierQuotidien.etapes deuxCycles)).length = 2 ∧
      SansTrou (synchronisations compteSynchronise (ouvrierQuotidien.etapes deuxCycles)) := by
  refine ⟨by decide +kernel, ?_⟩
  refine (sans_trou_iff (ouvrierQuotidien.execution deuxCycles) compteSynchronise).2 ?_
  decide +kernel

end Budgy
