import Budgy.Analysis.Requests
import Budgy.Model.Systeme

/-!
# The requests of the pages

A page only issues statements that read: it writes no table, and it calls neither the bank
nor a generator.
-/

set_option autoImplicit false

namespace Budgy

open Effects Prog

section Pages

variable {P : Op → Prop} {crypto : CryptoService} {owner : ProprietaireId}
  (hl : ∀ o : Op, o.Interne → P o)
include hl

/-- A read of encrypted rows writes nothing. -/
theorem uses_lectureChiffree {α : Type} {r : Requete} {f : r.Reponse → Tache ChiffrementError α}
    (hr : r.ecrit = []) (hf : ∀ v, (f v).run.Uses P) :
    (interrogerChiffre r >>= f).run.Uses P :=
  Uses.run_bind (uses_interrogerChiffre (hl _ hr)) hf

/-- `solde_courant` only reads. -/
theorem uses_soldeCourant {compte : BankAccountId} :
    (BankAccounts.soldeCourant crypto compte).run.Uses P := by
  apply uses_lectureChiffree hl rfl
  rintro (_ | b)
  · exact uses_pure _
  · exact Uses.run_bind uses_ofExcept fun _ => uses_pure _

/-- `solde_a_venir` only reads. -/
theorem uses_soldeAVenir {compte : BankAccountId} :
    (BankAccounts.soldeAVenir crypto compte).run.Uses P := by
  apply uses_lectureChiffree hl rfl
  rintro (_ | b)
  · exact uses_pure _
  · exact Uses.run_bind uses_ofExcept fun _ => uses_pure _

/-- The balances of an account are only read. -/
theorem uses_avecSolde {a : BankAccountRow} : (BankAccounts.avecSolde crypto a).run.Uses P := by
  apply Uses.run_bind uses_ofExcept
  intro _
  exact Uses.run_bind (uses_soldeCourant hl) fun _ => uses_pure _

/-- `lister_soldes` only reads. -/
theorem uses_listerSoldes :
    (BankAccountsAdapter.listerSoldes crypto owner).run.Uses P := by
  apply Uses.run_mapError
  apply uses_lectureChiffree hl rfl
  intro rows
  apply Uses.run_mapM
  intro a _
  apply Uses.run_bind uses_ofExcept
  intro _
  apply Uses.run_bind (uses_soldeCourant hl)
  intro _
  exact Uses.run_bind (uses_soldeAVenir hl) fun _ => uses_pure _

/-- `jour_debut_mois` only reads. -/
theorem uses_jourDebutMois : (Preferences.jourDebutMois owner).run.Uses P := by
  refine Uses.run_bind (Uses.run_mapError (uses_interroger (hl _ rfl))) ?_
  rintro (_ | jour) <;> exact uses_pure _

/-- Listing the categories only reads. -/
theorem uses_listerCategories : (Categories.listerPourProprietaire owner).run.Uses P :=
  Uses.run_bind (Uses.run_mapError (uses_interroger (hl _ rfl))) fun _ => uses_pure _

/-- `repartition` only reads. -/
theorem uses_repartition {cycle : CycleMensuel} {sens : Depenses.Sens} :
    (Depenses.repartition crypto owner cycle sens).run.Uses P := by
  apply Uses.run_bind
  · refine Uses.run_bind (Uses.run_mapError (uses_interroger (hl _ rfl))) ?_
    intro _
    exact Uses.run_bind uses_ofExcept fun _ => uses_pure _
  · intro totaux
    split
    · exact uses_pure _
    · apply Uses.run_bind
      · exact Uses.run_bind (Uses.run_mapError (uses_interroger (hl _ rfl))) fun _ => uses_pure _
      · exact fun _ => uses_pure _

/-- The cycle of a month is only read. -/
theorem uses_cycleDuMois {mois : Mois} : (Handlers.cycleDuMois owner mois).run.Uses P :=
  Uses.run_bind (Uses.run_mapError (uses_jourDebutMois hl)) fun _ => uses_pure _

/-- `categories_par_id` only reads. -/
theorem uses_categoriesParId : (Handlers.categoriesParId owner).run.Uses P :=
  Uses.run_bind (Uses.run_mapError (uses_listerCategories hl)) fun _ => uses_pure _

/-- `ids_transferts_internes` only reads. -/
theorem uses_idsTransfertsInternes :
    (BankTransactionsAdapter.idsTransfertsInternes owner).run.Uses P :=
  Uses.run_mapError (uses_interrogerChiffre (hl _ rfl))

/-- `list_account_transactions` only reads. -/
theorem uses_listAccountTransactions {id : BankAccountId} {query : ListQuery} :
    (Handlers.listAccountTransactions crypto owner id query).run.Uses P := by
  apply Uses.run_bind uses_ofExcept
  intro pagination
  apply Uses.run_bind (Uses.run_mapError (Uses.run_mapError (uses_lectureChiffree hl rfl
    fun _ => uses_pure _)))
  intro appartient
  split
  · exact uses_pure _
  · apply Uses.run_bind
    · apply Uses.run_mapError (Uses.run_mapError _)
      apply uses_lectureChiffree hl rfl
      intro total
      apply uses_lectureChiffree hl rfl
      intro rows
      exact Uses.run_bind uses_ofExcept fun _ => uses_pure _
    · intro resultat
      exact Uses.run_bind (Uses.run_mapError (uses_idsTransfertsInternes hl)) fun _ => uses_pure _

/-- `list_transactions` only reads. -/
theorem uses_listTransactions {query : TransactionsQuery} :
    (Handlers.listTransactions crypto owner query).run.Uses P := by
  apply Uses.run_bind uses_ofExcept
  intro pagination
  apply Uses.run_bind uses_ofExcept
  intro periode
  apply Uses.run_bind
  · apply Uses.run_mapError (Uses.run_mapError _)
    apply uses_lectureChiffree hl rfl
    intro rows
    exact Uses.run_bind uses_ofExcept fun _ => uses_pure _
  · intro resultat
    exact Uses.run_bind (Uses.run_mapError (uses_idsTransfertsInternes hl)) fun _ => uses_pure _

/-- The list of the envelopes is only read. -/
theorem uses_listerEnveloppes : (Enveloppes.lister crypto owner).run.Uses P := by
  refine Uses.run_bind (Uses.run_mapError (uses_interroger (hl _ rfl))) ?_
  intro enveloppes
  apply Uses.run_bind
  · refine Uses.run_bind (Uses.run_mapError (uses_interroger (hl _ rfl))) ?_
    intro rows
    exact Uses.run_bind uses_ofExcept fun _ => uses_pure _
  · exact fun _ => uses_pure _

/-- `remaining_budgets` only reads. -/
theorem uses_remainingBudgets {month : Option String} :
    (Handlers.remainingBudgets crypto owner month).run.Uses P := by
  apply Uses.run_bind uses_ofExcept
  intro mois
  apply Uses.run_bind (uses_cycleDuMois hl)
  intro cycle
  refine Uses.run_bind (Uses.run_mapError (Uses.run_mapError (uses_interroger (hl _ rfl)))) ?_
  intro budgets
  apply Uses.run_bind (Uses.run_mapError (uses_repartition hl))
  intro depenses
  apply Uses.run_bind (Uses.run_mapM fun precedent _ => Uses.run_mapError (uses_repartition hl))
  intro historique
  exact Uses.run_bind (uses_categoriesParId hl) fun _ => uses_pure _

/-- `get_forecast` only reads. -/
theorem uses_getForecast {month : Option String} :
    (Handlers.getForecast crypto owner month).run.Uses P := by
  apply Uses.run_bind uses_ofExcept
  intro mois
  apply Uses.run_bind (uses_cycleDuMois hl)
  intro cycle
  apply Uses.run_bind (Uses.run_mapError (uses_listerSoldes hl))
  intro comptes
  apply Uses.run_bind (Uses.run_mapError (uses_repartition hl))
  intro depenses
  apply Uses.run_bind (Uses.run_mapError (uses_repartition hl))
  intro revenus
  apply Uses.run_bind (Uses.run_mapM fun precedent _ => _)
  · intro historique
    exact Uses.run_bind (uses_categoriesParId hl) fun _ => uses_pure _
  · intro precedent _
    apply Uses.run_bind (Uses.run_mapError (uses_repartition hl))
    intro _
    exact Uses.run_bind (Uses.run_mapError (uses_repartition hl)) fun _ => uses_pure _

/-- A page only reads. -/
theorem uses_page {l : Lecture} : (l.programme crypto owner).Uses P := by
  cases l with
  | listAccounts query =>
      apply Uses.run_bind uses_ofExcept
      intro pagination
      apply Uses.run_mapError (Uses.run_mapError _)
      apply uses_lectureChiffree hl rfl
      intro total
      apply uses_lectureChiffree hl rfl
      intro rows
      exact Uses.run_bind (Uses.run_mapM fun a _ => uses_avecSolde hl) fun _ => uses_pure _
  | getAccount id =>
      apply Uses.run_bind (Uses.run_mapError (Uses.run_mapError _))
      · exact fun _ => uses_ouErreur
      · apply uses_lectureChiffree hl rfl
        rintro (_ | a)
        · exact uses_pure _
        · exact Uses.run_bind (uses_avecSolde hl) fun _ => uses_pure _
  | listAccountTransactions id query => exact uses_listAccountTransactions hl
  | listTransactions query => exact uses_listTransactions hl
  | getConsolidatedBalance =>
      exact Uses.run_bind (Uses.run_mapError (uses_listerSoldes hl)) fun _ => uses_pure _
  | listCategories =>
      exact Uses.run_bind (Uses.run_mapError (uses_listerCategories hl)) fun _ => uses_pure _
  | listEnveloppes =>
      exact Uses.run_bind (Uses.run_mapError (uses_listerEnveloppes hl)) fun _ => uses_pure _
  | listBudgets mois =>
      apply Uses.run_bind uses_ofExcept
      intro mois
      exact Uses.run_bind (Uses.run_mapError (Uses.run_mapError (uses_interroger (hl _ rfl))))
        fun _ => uses_pure _
  | getPreferences => exact Uses.run_mapError (uses_jourDebutMois hl)
  | expensesByCategory month =>
      apply Uses.run_bind uses_ofExcept
      intro mois
      apply Uses.run_bind (uses_cycleDuMois hl)
      intro cycle
      exact Uses.run_bind (Uses.run_mapError (uses_repartition hl)) fun _ => uses_pure _
  | remainingBudgets month => exact uses_remainingBudgets hl
  | getForecast month => exact uses_getForecast hl

end Pages

end Budgy
