import Budgy.Interface.TwoRuns
import Budgy.Analysis.AccountPages
import Budgy.Analysis.Ownership
import Budgy.Analysis.Scenarios

/-!
# What a user reads does not depend on the others

Two databases with the same rows of a user, and of the system, answer every page that the
user opens alike, but for one number: the count of the transactions of a category, which the
list of categories takes over all the users.  `memesLectures_iff` says that there is no other.
-/

set_option autoImplicit false

namespace Budgy

open Effects Relational

/-- The two databases have the same rows of `A`, and the same rows of the system. -/
structure Store.Accorde (A : ProprietaireId) (s s' : Store) : Prop where
  siennes : s.patrimoine A = s'.patrimoine A
  systeme : ∀ c, c.ownerId = none → (c ∈ s.category ↔ c ∈ s'.category)

/-- The transactions of the others that are in a category. -/
def Store.comptageAutres (A : ProprietaireId) (s : Store) (category : Uuid) : ℕ :=
  s.bankTransaction.count fun t => t.categoryId = some category && !s.txDe A t

/-- The pages that a user reads. -/
inductive Consultation where
  | listConsents
  | listAccounts (query : ListQuery)
  | getAccount (accountId : BankAccountId)
  | listAccountTransactions (accountId : BankAccountId) (query : ListQuery)
  | listTransactions (query : TransactionsQuery)
  | getConsolidatedBalance
  | listCategories
  | listEnveloppes
  | listBudgets (mois : String)
  | getPreferences
  | expensesByCategory (month : Option String)
  | remainingBudgets (month : Option String)
  | getForecast (month : Option String)

namespace Consultation

/-- What each page answers. -/
@[reducible]
def Reponse : Consultation → Type
  | listConsents => ListResponse ConsentDto
  | listAccounts _ => LectureResultat CompteAvecSolde
  | getAccount _ => CompteAvecSolde
  | listAccountTransactions _ _ => LectureResultat BankTransactionDto
  | listTransactions _ => LectureResultat BankTransactionDto
  | getConsolidatedBalance => SoldeConsolide
  | listCategories => ListResponse CategorieAvecCompteur
  | listEnveloppes => ListResponse SuiviEnveloppe
  | listBudgets _ => ListResponse Budget
  | getPreferences => JourDebutMois
  | expensesByCategory _ => MonthlyExpensesDto
  | remainingBudgets _ => RemainingBudgetDto
  | getForecast _ => ForecastDto

/-- The handler of the page. -/
def tache (crypto : CryptoService) (A : ProprietaireId) :
    (q : Consultation) → Tache ApiError q.Reponse
  | listConsents => Handlers.listConsents crypto A
  | listAccounts query => Handlers.listAccounts crypto A query
  | getAccount accountId => Handlers.getAccount crypto A accountId
  | listAccountTransactions accountId query =>
      Handlers.listAccountTransactions crypto A accountId query
  | listTransactions query => Handlers.listTransactions crypto A query
  | getConsolidatedBalance => Handlers.getConsolidatedBalance crypto A
  | listCategories => Handlers.listCategories A
  | listEnveloppes => Handlers.listEnveloppes crypto A
  | listBudgets mois => Handlers.listBudgets A mois
  | getPreferences => Handlers.getPreferences A
  | expensesByCategory month => Handlers.expensesByCategory crypto A month
  | remainingBudgets month => Handlers.remainingBudgets crypto A month
  | getForecast month => Handlers.getForecast crypto A month

end Consultation

/-- Against the same choices, every page of `A` is the same. -/
def MemesLectures (col : Collation) (crypto : CryptoService) (A : ProprietaireId)
    (s s' : Store) : Prop :=
  ∀ (q : Consultation) (ω : ℕ → (o : Op) → o.Choix) (n : ℕ),
    (run (machine col) ω (q.tache crypto A).run n s).value =
      (run (machine col) ω (q.tache crypto A).run n s').value

/-! ## The rows of the user -/

namespace Store.Accorde

variable {A : ProprietaireId} {s s' : Store} (h : s.Accorde A s')
include h

/-- Two stores that agree for an owner hold the same rows of this owner. -/
theorem ligne (l : Ligne) :
    (s.Contient l ∧ s.proprietaireDe l = some A) ↔
      (s'.Contient l ∧ s'.proprietaireDe l = some A) :=
  Set.ext_iff.1 h.siennes l

/-- They hold the same accounts of this owner. -/
theorem compte (a : BankAccountRow) :
    (a ∈ s.bankAccount ∧ a.ownerId = A) ↔ (a ∈ s'.bankAccount ∧ a.ownerId = A) := by
  have hligne := h.ligne (.compte a)
  simpa only [Store.Contient, Store.proprietaireDe, Option.some.injEq] using hligne

/-- They hold the same transactions of this owner. -/
theorem transaction (t : BankTransactionRow) :
    (t ∈ s.bankTransaction ∧ s.txDe A t = true) ↔
      (t ∈ s'.bankTransaction ∧ s'.txDe A t = true) := by
  have hligne := h.ligne (.transaction t)
  simpa only [Store.Contient, Store.proprietaireDe, Store.txDe, decide_eq_true_eq] using hligne

/-- They hold the same categories visible to this owner. -/
theorem categorie (c : Category) :
    (c ∈ s.category ∧ Store.categorieVisible A c = true) ↔
      (c ∈ s'.category ∧ Store.categorieVisible A c = true) := by
  refine and_congr_left fun hvisible => ?_
  have hcas : c.ownerId = none ∨ c.ownerId = some A := by
    simpa [Store.categorieVisible] using hvisible
  rcases hcas with hnone | hsome
  · exact h.systeme c hnone
  · have hligne := h.ligne (.category c)
    simpa only [Store.Contient, Store.proprietaireDe, hsome, and_true] using hligne

/-- A query over the transactions of the user. -/
theorem transactions (p : BankTransactionRow → Bool) (t : BankTransactionRow) :
    (t ∈ s.bankTransaction ∧ (s.txDe A t && p t) = true) ↔
      (t ∈ s'.bankTransaction ∧ (s'.txDe A t && p t) = true) := by
  simp only [Bool.and_eq_true, ← and_assoc]
  exact and_congr_left fun _ => h.transaction t

/-- The accounts of the user have the same owner in both. -/
theorem proprietaireDuCompte {compte : Uuid} (hA : s.proprietaireDuCompte compte = some A) :
    s'.proprietaireDuCompte compte = some A := by
  obtain ⟨a, ha, hid, howner⟩ := Store.proprietaireDuCompte_eq_some.1 hA
  exact Store.proprietaireDuCompte_eq_some.2 ⟨a, ((h.compte a).1 ⟨ha, howner⟩).1, hid, howner⟩

/-- The balances of an account of the user. -/
theorem soldes {compte : Uuid} (hA : s.proprietaireDuCompte compte = some A)
    (p : BalanceRow → Bool) (b : BalanceRow) :
    (b ∈ s.balance ∧ (decide (b.bankAccountId = compte) && p b) = true) ↔
      (b ∈ s'.balance ∧ (decide (b.bankAccountId = compte) && p b) = true) := by
  refine and_congr_left fun hb => ?_
  obtain ⟨rfl, -⟩ := by simpa using hb
  have hligne := h.ligne (.balance b)
  simpa only [Store.Contient, Store.proprietaireDe, hA, h.proprietaireDuCompte hA, and_true]
    using hligne

/-- The account that an identifier names, when it is the user's. -/
theorem fetch (id : Uuid) :
    ((s.bankAccount.find? id).filter fun a => a.ownerId = A) =
      (s'.bankAccount.find? id).filter fun a => a.ownerId = A := by
  ext a
  simp only [Option.filter_eq_some_iff, Table.find?_eq_some, decide_eq_true_eq]
  have hcompte := h.compte a
  tauto

end Store.Accorde

/-! ## The statements -/

section Reads

variable {col : Collation} {crypto : CryptoService} {A : ProprietaireId} {s s' : Store}

/-- A statement that only reads, and finds the same in both databases. -/
private theorem alike_interroger {r : Requete} {f : ChoixSql → Store → r.Reponse}
    {Q : r.Reponse → Prop} (hf : ∀ x s, r.effet col x s = lire s (f x s))
    (h : ∀ x, f x s = f x s') (hQ : ∀ x, Q (f x s)) :
    Alike (machine col) s s' (interroger r).run (IfOk Q) := by
  refine alike_perform.2 fun x => ?_
  show ∃ reponse, r.executer col x s = (reponse, s) ∧ r.executer col x s' = (reponse, s') ∧
    IfOk Q reponse
  unfold Requete.executer
  cases x.panne with
  | some message => exact ⟨_, rfl, rfl, ifOk_error⟩
  | none =>
      refine ⟨.ok (f x s), ?_, ?_, ifOk_ok (hQ x)⟩
      · rw [hf]
        rfl
      · rw [hf, h]
        rfl

/-- The same statement, when nothing is asked of its answer. -/
private theorem alike_lu {r : Requete} {f : ChoixSql → Store → r.Reponse}
    (hf : ∀ x s, r.effet col x s = lire s (f x s)) (h : ∀ x, f x s = f x s') :
    Alike (machine col) s s' (interroger r).run (IfOk fun _ => True) :=
  alike_interroger hf h fun _ => trivial

/-- What is decrypted, or computed, of the same rows is the same. -/
private theorem alike_ofExcept {ε α : Type} {r : Except ε α} :
    Alike (machine col) s s' (Task.ofExcept r : Tache ε α).run (IfOk fun _ => True) :=
  alike_run_ofExcept fun _ _ => trivial

/-- A missing value is the same in both stores. -/
private theorem alike_ouErreur {α : Type} {e : ApiError} {v : Option α} :
    Alike (machine col) s s' (ouErreur e v).run (IfOk fun _ => True) := by
  cases v with
  | none => exact alike_run_throw
  | some a => exact alike_run_pure trivial

/-- A category counts the transactions of the user, and those of the others. -/
private theorem transactionCount_eq (category : Uuid) :
    RequeteClassement.transactionCount s category =
      (s.bankTransaction.count fun t => s.txDe A t && t.categoryId = some category) +
        s.comptageAutres A category := by
  unfold RequeteClassement.transactionCount Store.comptageAutres Table.count
  rw [List.countP_eq_countP_filter_add _ _ (s.txDe A), List.countP_filter, List.countP_filter]
  simp only [Bool.and_comm]

variable (h : s.Accorde A s')
include h

/-! ### Accounts and balances -/

/-- The first of some balances of an account, with the owner of the account. -/
private theorem bind_avecOwner {compte : Uuid} (hA : s.proprietaireDuCompte compte = some A)
    {l : List BalanceRow} (hl : ∀ b ∈ l, b.bankAccountId = compte) :
    l.head?.bind (RequeteCompte.avecOwner s) = l.head?.bind (RequeteCompte.avecOwner s') := by
  cases l with
  | nil => rfl
  | cons b l =>
      have hb := hl b List.mem_cons_self
      simp only [List.head?_cons, Option.bind_some, RequeteCompte.avecOwner, hb, hA,
        h.proprietaireDuCompte hA]

/-- The current balance of an account of the owner is read alike. -/
private theorem alike_soldeCourant {compte : Uuid} (hA : s.proprietaireDuCompte compte = some A) :
    Alike (machine col) s s' (BankAccounts.soldeCourant crypto compte).run
      (IfOk fun _ => True) := by
  refine Alike.run_bind (Alike.run_mapError (alike_lu (fun _ _ => rfl) fun x => ?_)) ?_
  · have hsoldes : RequeteCompte.soldesClasses x s compte =
        RequeteCompte.soldesClasses x s' compte := by
      unfold RequeteCompte.soldesClasses
      have hmembres : ∀ b, (b ∈ s.balance ∧ decide (b.bankAccountId = compte) = true) ↔
          (b ∈ s'.balance ∧ decide (b.bankAccountId = compte) = true) := by
        intro b
        simpa only [Bool.and_true] using h.soldes hA (fun _ => true) b
      rw [arrange_select hmembres]
    rw [← hsoldes]
    refine bind_avecOwner h hA fun b hb => ?_
    simpa using (Table.mem_select.1 (mem_arrange.1 (mem_sortBy.1 hb))).2
  · rintro (_ | row) -
    · exact alike_run_pure trivial
    · exact Alike.run_bind alike_ofExcept fun _ _ => alike_run_pure trivial

/-- So is the balance to come. -/
private theorem alike_soldeAVenir {compte : Uuid} (hA : s.proprietaireDuCompte compte = some A) :
    Alike (machine col) s s' (BankAccounts.soldeAVenir crypto compte).run (IfOk fun _ => True) := by
  refine Alike.run_bind (Alike.run_mapError (alike_lu (fun _ _ => rfl) fun x => ?_)) ?_
  · have hsoldes : RequeteCompte.soldesAVenirClasses x s compte =
        RequeteCompte.soldesAVenirClasses x s' compte := by
      unfold RequeteCompte.soldesAVenirClasses
      rw [arrange_select fun b => h.soldes hA (fun b => b.balanceType = .expected) b]
    rw [← hsoldes]
    refine bind_avecOwner h hA fun b hb => ?_
    have hretenu := (Table.mem_select.1 (mem_arrange.1 (mem_sortBy.1 hb))).2
    rw [Bool.and_eq_true, decide_eq_true_eq] at hretenu
    exact hretenu.1
  · rintro (_ | row) -
    · exact alike_run_pure trivial
    · exact Alike.run_bind alike_ofExcept fun _ _ => alike_run_pure trivial

/-- An account of the user, with its current balance. -/
private theorem alike_avecSolde {row : BankAccountRow}
    (hA : s.proprietaireDuCompte row.id = some A) :
    Alike (machine col) s s' (BankAccounts.avecSolde crypto row).run (IfOk fun _ => True) := by
  refine Alike.run_bind (R := fun compte => compte.id = row.id)
    (alike_run_ofExcept fun compte hcompte => id_intoBankAccount hcompte) fun compte hid => ?_
  refine Alike.run_bind (alike_soldeCourant h ?_) fun _ _ => alike_run_pure trivial
  rw [hid, hA]

/-- An account of the user, with its two balances. -/
private theorem alike_avecSoldes {row : BankAccountRow}
    (hA : s.proprietaireDuCompte row.id = some A) :
    Alike (machine col) s s' (BankAccounts.avecSoldes crypto row).run (IfOk fun _ => True) := by
  refine Alike.run_bind (R := fun compte => compte.id = row.id)
    (alike_run_ofExcept fun compte hcompte => id_intoBankAccount hcompte) fun compte hid => ?_
  have hcompte : s.proprietaireDuCompte compte.id = some A := by rw [hid, hA]
  refine Alike.run_bind (alike_soldeCourant h hcompte) fun _ _ => ?_
  exact Alike.run_bind (alike_soldeAVenir h hcompte) fun _ _ => alike_run_pure trivial

/-- The accounts of the user are listed alike, and are the user's. -/
private theorem comptes_accorde (x : ChoixSql) :
    arrange BankAccountRow.id x.rang (s.bankAccount.select fun a => a.ownerId = A) =
        arrange BankAccountRow.id x.rang (s'.bankAccount.select fun a => a.ownerId = A) ∧
      ∀ a ∈ arrange BankAccountRow.id x.rang (s.bankAccount.select fun a => a.ownerId = A),
        s.proprietaireDuCompte a.id = some A := by
  constructor
  · exact arrange_select fun a => by simpa using h.compte a
  · intro a ha
    obtain ⟨hmem, howner⟩ := Table.mem_select.1 (mem_arrange.1 ha)
    exact Store.proprietaireDuCompte_eq_some.2 ⟨a, hmem, rfl, by simpa using howner⟩

/-- So are the accounts with their balances. -/
private theorem alike_listerAvecSolde {tranche : Tranche} :
    Alike (machine col) s s' (BankAccountsAdapter.listerAvecSolde crypto A tranche).run
      (IfOk fun _ => True) := by
  refine Alike.run_mapError (Alike.run_bind
    (Alike.run_mapError (alike_lu (fun _ _ => rfl) fun _ => ?_)) fun total _ => ?_)
  · exact Table.count_congr fun a => by simpa using h.compte a
  refine Alike.run_bind (R := fun rows => ∀ row ∈ rows, s.proprietaireDuCompte row.id = some A)
    (Alike.run_mapError (alike_interroger (fun _ _ => rfl) (fun x => ?_) fun x => ?_))
    fun rows hrows => ?_
  · rw [(comptes_accorde h x).1]
  · intro a ha
    exact (comptes_accorde h x).2 a (mem_sortBy.1 (List.mem_of_mem_drop (List.mem_of_mem_take ha)))
  · exact Alike.run_bind (Alike.run_mapM hrows fun row hA => alike_avecSolde h hA)
      fun _ _ => alike_run_pure trivial

/-- So is one of them. -/
private theorem alike_fetchAvecSolde {id : BankAccountId} :
    Alike (machine col) s s' (BankAccountsAdapter.fetchAvecSolde crypto A id).run
      (IfOk fun _ => True) := by
  refine Alike.run_mapError (Alike.run_bind
    (R := fun trouve => ∀ row, trouve = some row → s.proprietaireDuCompte row.id = some A)
    (Alike.run_mapError (alike_interroger (fun _ _ => rfl) (fun _ => h.fetch id) fun _ => ?_)) ?_)
  · intro row hrow
    obtain ⟨hfind, howner⟩ := Option.filter_eq_some_iff.1 hrow
    obtain ⟨hmem, -⟩ := Table.find?_eq_some.1 hfind
    exact Store.proprietaireDuCompte_eq_some.2 ⟨row, hmem, rfl, by simpa using howner⟩
  · rintro (_ | row) hrow
    · exact alike_run_pure trivial
    · exact Alike.run_bind (alike_avecSolde h (hrow row rfl)) fun _ _ => alike_run_pure trivial

/-- So are the balances. -/
private theorem alike_listerSoldes :
    Alike (machine col) s s' (BankAccountsAdapter.listerSoldes crypto A).run
      (IfOk fun _ => True) := by
  refine Alike.run_mapError (Alike.run_bind
    (R := fun rows => ∀ row ∈ rows, s.proprietaireDuCompte row.id = some A)
    (Alike.run_mapError (alike_interroger (fun _ _ => rfl) (fun x => ?_) fun x => ?_))
    fun rows hrows => ?_)
  · rw [(comptes_accorde h x).1]
  · intro a ha
    exact (comptes_accorde h x).2 a (mem_sortBy.1 ha)
  · exact Alike.run_mapM hrows fun row hA => alike_avecSoldes h hA

/-! ### Transactions -/

/-- A query over the transactions of the user returns the same rows. -/
private theorem transactionsDe_accorde (x : ChoixSql) (p : BankTransactionRow → Bool) :
    RequeteTransaction.transactionsDe x s A p = RequeteTransaction.transactionsDe x s' A p :=
  arrange_select (h.transactions p)

/-- So are the transactions of an account. -/
private theorem alike_listerParCompte {compte : BankAccountId} {filtre : FiltreTransactions}
    {tranche : Tranche} :
    Alike (machine col) s s'
      (BankTransactionsAdapter.listerParCompte crypto A compte filtre tranche).run
      (IfOk fun _ => True) := by
  refine Alike.run_mapError (Alike.run_bind
    (Alike.run_mapError (alike_lu (fun _ _ => rfl) fun _ => ?_)) fun total _ => ?_)
  · exact Table.count_congr (h.transactions _)
  refine Alike.run_bind (Alike.run_mapError (alike_lu (fun _ _ => rfl) fun x => ?_))
    fun rows _ => ?_
  · rw [transactionsDe_accorde h]
  · exact Alike.run_bind alike_ofExcept fun _ _ => alike_run_pure trivial

/-- So are the transactions of the owner. -/
private theorem alike_listerPourProprietaire {filtre : FiltreTransactionsProprietaire}
    {tri : TriTransactions} {tranche : Tranche} :
    Alike (machine col) s s'
      (BankTransactionsAdapter.listerPourProprietaire crypto A filtre tri tranche).run
      (IfOk fun _ => True) := by
  refine Alike.run_mapError (Alike.run_bind
    (Alike.run_mapError (alike_lu (fun _ _ => rfl) fun x => ?_)) fun rows _ => ?_)
  · rw [transactionsDe_accorde h]
  · exact Alike.run_bind alike_ofExcept fun _ _ => alike_run_pure trivial

/-- So are the internal transfers. -/
private theorem alike_idsTransfertsInternes :
    Alike (machine col) s s' (BankTransactionsAdapter.idsTransfertsInternes A).run
      (IfOk fun _ => True) := by
  refine Alike.run_mapError (Alike.run_mapError (alike_lu (fun _ _ => rfl) fun x => ?_))
  rw [transactionsDe_accorde h]

/-! ### Categories, envelopes, budgets, preferences -/

/-- The two counts differ by the transactions of the others alone. -/
private theorem transactionCount_accorde_iff (category : Uuid) :
    RequeteClassement.transactionCount s category = RequeteClassement.transactionCount s' category ↔
      s.comptageAutres A category = s'.comptageAutres A category := by
  rw [transactionCount_eq (A := A), transactionCount_eq (A := A),
    Table.count_congr (h.transactions _)]
  exact Nat.add_left_cancel_iff

/-- The categories visible to the owner are listed in the same order. -/
private theorem categories_accorde (x : ChoixSql) :
    arrange Category.id x.rang (s.category.select fun c => Store.categorieVisible A c) =
      arrange Category.id x.rang (s'.category.select fun c => Store.categorieVisible A c) :=
  arrange_select h.categorie

/-- The categories are listed alike when the others have as many transactions in them. -/
private theorem alike_listerCategories
    (hautres : ∀ c ∈ s.category, Store.categorieVisible A c = true →
      s.comptageAutres A c.id = s'.comptageAutres A c.id) :
    Alike (machine col) s s' (Categories.listerPourProprietaire A).run (IfOk fun _ => True) := by
  refine Alike.run_bind (Alike.run_mapError (alike_lu (fun _ _ => rfl) fun x => ?_))
    fun _ _ => alike_run_pure trivial
  rw [← categories_accorde h x]
  refine List.map_congr_left fun c hc => ?_
  obtain ⟨hmem, hvisible⟩ := Table.mem_select.1 (mem_arrange.1 (mem_sortBy.1 hc))
  rw [(transactionCount_accorde_iff h c.id).2 (hautres c hmem hvisible)]

/-- So is the first day of the month. -/
private theorem alike_jourDebutMois :
    Alike (machine col) s s' (Preferences.jourDebutMois A).run (IfOk fun _ => True) := by
  refine Alike.run_bind (Alike.run_mapError (alike_lu (fun _ _ => rfl) fun _ => ?_)) ?_
  · have hfind : s.preferencesUtilisateur.find? A = s'.preferencesUtilisateur.find? A := by
      ext p
      rw [Table.find?_eq_some, Table.find?_eq_some]
      have hligne := h.ligne (.preferences p)
      simpa only [Store.Contient, Store.proprietaireDe, Option.some.injEq] using hligne
    rw [hfind]
  · rintro (_ | jour) -
    · exact alike_run_pure trivial
    · exact alike_run_pure trivial

/-- So are the budgets of a month. -/
private theorem alike_listerParMois {mois : NaiveDate} :
    Alike (machine col) s s' (Budgets.listerParMois A mois).run (IfOk fun _ => True) := by
  refine Alike.run_mapError (alike_lu (fun _ _ => rfl) fun x => ?_)
  have hbudgets : ∀ b, (b ∈ s.budgets ∧ (decide (b.ownerId = A) && decide (b.mois = mois)) = true) ↔
      (b ∈ s'.budgets ∧ (decide (b.ownerId = A) && decide (b.mois = mois)) = true) := by
    intro b
    have hligne := h.ligne (.budget b)
    simp only [Store.Contient, Store.proprietaireDe, Option.some.injEq] at hligne
    simp only [Bool.and_eq_true, decide_eq_true_eq, ← and_assoc]
    exact and_congr_left fun _ => hligne
  rw [arrange_select hbudgets]

/-- So are the envelopes. -/
private theorem alike_listerEnveloppes :
    Alike (machine col) s s' (Enveloppes.lister crypto A).run (IfOk fun _ => True) := by
  refine Alike.run_bind (Alike.run_mapError (alike_lu (fun _ _ => rfl) fun x => ?_))
    fun rows _ => ?_
  · have henveloppes : ∀ e, (e ∈ s.enveloppe ∧ decide (e.proprietaire = A) = true) ↔
        (e ∈ s'.enveloppe ∧ decide (e.proprietaire = A) = true) := by
      intro e
      have hligne := h.ligne (.enveloppe e)
      simpa only [Store.Contient, Store.proprietaireDe, Option.some.injEq, decide_eq_true_eq]
        using hligne
    rw [arrange_select henveloppes]
  · refine Alike.run_bind (R := fun _ => True) (Alike.run_bind
      (Alike.run_mapError (alike_lu (fun _ _ => rfl) fun x => ?_)) fun rows _ =>
        Alike.run_bind alike_ofExcept fun _ _ => alike_run_pure trivial)
      fun _ _ => alike_run_pure trivial
    rw [arrange_select (h.transactions _)]

/-- The breakdown of a cycle. -/
private theorem alike_repartition {cycle : CycleMensuel} {sens : Depenses.Sens} :
    Alike (machine col) s s' (Depenses.repartition crypto A cycle sens).run
      (IfOk fun _ => True) := by
  refine Alike.run_bind (R := fun _ => True) (Alike.run_bind (Alike.run_mapError
    (alike_lu (fun _ _ => rfl) fun x => ?_)) fun rows _ =>
      Alike.run_bind alike_ofExcept fun _ _ => alike_run_pure trivial) fun totaux _ => ?_
  · have hcomptees : ∀ t, (t ∈ s.bankTransaction ∧
        RequeteClassement.compteeDansCycle s A cycle.debut cycle.finExclue t = true) ↔
          (t ∈ s'.bankTransaction ∧
            RequeteClassement.compteeDansCycle s' A cycle.debut cycle.finExclue t = true) := by
      intro t
      unfold RequeteClassement.compteeDansCycle
      simp only [Bool.and_assoc]
      exact h.transactions (fun t => !t.isInternalTransfer &&
        (t.date.any (cycle.debut ≤ ·) && t.date.any (· < cycle.finExclue))) t
    rw [arrange_select hcomptees]
  · split
    · exact alike_run_pure trivial
    · refine Alike.run_bind (R := fun _ => True) (Alike.run_bind (Alike.run_mapError
        (alike_lu (fun _ _ => rfl) fun x => ?_)) fun _ _ => alike_run_pure trivial)
        fun _ _ => alike_run_pure trivial
      exact categories_accorde h x

/-- So are the consents. -/
private theorem alike_listerConsents :
    Alike (machine col) s s' (ConsentsAdapter.listerParProprietaire crypto A).run
      (IfOk fun _ => True) := by
  refine Alike.run_mapError (Alike.run_bind (Alike.run_mapError
    (alike_lu (fun _ _ => rfl) fun x => ?_)) fun rows _ => alike_ofExcept)
  have hconsents : ∀ c, (c ∈ s.consent ∧ decide (c.ownerId = A) = true) ↔
      (c ∈ s'.consent ∧ decide (c.ownerId = A) = true) := by
    intro c
    have hligne := h.ligne (.consent c)
    simpa only [Store.Contient, Store.proprietaireDe, Option.some.injEq, decide_eq_true_eq]
      using hligne
  rw [arrange_select hconsents]

/-! ### The pages -/

variable (hautres : ∀ c ∈ s.category, Store.categorieVisible A c = true →
  s.comptageAutres A c.id = s'.comptageAutres A c.id)
include hautres

/-- So are the categories by identifier. -/
private theorem alike_categoriesParId :
    Alike (machine col) s s' (Handlers.categoriesParId A).run (IfOk fun _ => True) :=
  Alike.run_bind (Alike.run_mapError (alike_listerCategories h hautres))
    fun _ _ => alike_run_pure trivial

omit hautres in
/-- So is the cycle of a month. -/
private theorem alike_cycleDuMois (mois : Mois) :
    Alike (machine col) s s' (Handlers.cycleDuMois A mois).run (IfOk fun _ => True) :=
  Alike.run_bind (Alike.run_mapError (alike_jourDebutMois h)) fun _ _ => alike_run_pure trivial

omit hautres in
/-- `list_account_transactions` answers alike. -/
private theorem alike_listAccountTransactions {accountId : BankAccountId} {query : ListQuery} :
    Alike (machine col) s s' (Handlers.listAccountTransactions crypto A accountId query).run
      (IfOk fun _ => True) := by
  unfold Handlers.listAccountTransactions
  refine Alike.run_bind alike_ofExcept fun pagination _ => ?_
  refine Alike.run_bind (R := fun _ => True) (Alike.run_mapError (Alike.run_mapError
    (Alike.run_bind (Alike.run_mapError (alike_lu (fun _ _ => rfl) fun _ => ?_)) fun _ _ =>
      alike_run_pure trivial))) fun appartient _ => ?_
  · rw [h.fetch]
  have hsuite : Alike (machine col) s s' (do
      let resultat ← lectureApi (BankTransactionsAdapter.listerParCompte crypto A accountId
        ⟨query.uncategorized.getD false⟩ pagination)
      let internes ← ecritureApi (BankTransactionsAdapter.idsTransfertsInternes A)
      return ⟨marquerInternes internes resultat.elements, resultat.total⟩ :
        Tache ApiError (LectureResultat BankTransactionDto)).run (IfOk fun _ => True) := by
    refine Alike.run_bind (Alike.run_mapError (alike_listerParCompte h)) fun resultat _ => ?_
    exact Alike.run_bind (Alike.run_mapError (alike_idsTransfertsInternes h))
      fun _ _ => alike_run_pure trivial
  cases appartient with
  | false => exact alike_run_throw
  | true => exact hsuite

/-- So does `remaining_budgets`. -/
private theorem alike_remainingBudgets {month : Option String} :
    Alike (machine col) s s' (Handlers.remainingBudgets crypto A month).run
      (IfOk fun _ => True) := by
  unfold Handlers.remainingBudgets
  refine Alike.run_bind alike_ofExcept fun mois _ => ?_
  refine Alike.run_bind (alike_cycleDuMois h mois) fun cycle _ => ?_
  refine Alike.run_bind (Alike.run_mapError (alike_listerParMois h)) fun budgets _ => ?_
  refine Alike.run_bind (Alike.run_mapError (alike_repartition h)) fun depenses _ => ?_
  refine Alike.run_bind (Alike.run_mapM (P := fun _ => True) (fun _ _ => trivial)
    fun precedent _ => Alike.run_mapError (alike_repartition h)) fun historique _ => ?_
  exact Alike.run_bind (alike_categoriesParId h hautres) fun _ _ => alike_run_pure trivial

/-- So does `get_forecast`. -/
private theorem alike_getForecast {month : Option String} :
    Alike (machine col) s s' (Handlers.getForecast crypto A month).run (IfOk fun _ => True) := by
  unfold Handlers.getForecast
  refine Alike.run_bind alike_ofExcept fun mois _ => ?_
  refine Alike.run_bind (alike_cycleDuMois h mois) fun cycle _ => ?_
  refine Alike.run_bind (Alike.run_mapError (alike_listerSoldes h)) fun comptes _ => ?_
  refine Alike.run_bind (Alike.run_mapError (alike_repartition h)) fun depenses _ => ?_
  refine Alike.run_bind (Alike.run_mapError (alike_repartition h)) fun revenus _ => ?_
  refine Alike.run_bind (Alike.run_mapM (P := fun _ => True) (fun _ _ => trivial)
    fun precedent _ => ?_) fun historique _ => ?_
  · refine Alike.run_bind (Alike.run_mapError (alike_repartition h)) fun depenses _ => ?_
    exact Alike.run_bind (Alike.run_mapError (alike_repartition h)) fun _ _ =>
      alike_run_pure trivial
  · exact Alike.run_bind (alike_categoriesParId h hautres) fun _ _ => alike_run_pure trivial

/-- Every page is read alike, when the counts of the others are the same. -/
private theorem alike_tache (q : Consultation) :
    Alike (machine col) s s' (q.tache crypto A).run (IfOk fun _ => True) := by
  cases q with
  | listConsents =>
      refine Alike.run_bind (Alike.run_mapError (alike_listerConsents h)) fun consents _ => ?_
      refine Alike.run_bind (R := fun _ => True) ?_ fun _ _ => alike_run_pure trivial
      exact Alike.run_ofProg (alike_perform.2 fun instant => ⟨instant, rfl, rfl, trivial⟩)
  | listAccounts query =>
      exact Alike.run_bind alike_ofExcept fun pagination _ =>
        Alike.run_mapError (alike_listerAvecSolde h)
  | getAccount accountId =>
      exact Alike.run_bind (Alike.run_mapError (alike_fetchAvecSolde h)) fun trouve _ =>
        alike_ouErreur
  | listAccountTransactions accountId query => exact alike_listAccountTransactions h
  | listTransactions query =>
      refine Alike.run_bind alike_ofExcept fun pagination _ => ?_
      refine Alike.run_bind alike_ofExcept fun periode _ => ?_
      refine Alike.run_bind (Alike.run_mapError (alike_listerPourProprietaire h))
        fun resultat _ => ?_
      exact Alike.run_bind (Alike.run_mapError (alike_idsTransfertsInternes h))
        fun _ _ => alike_run_pure trivial
  | getConsolidatedBalance =>
      exact Alike.run_bind (Alike.run_mapError (alike_listerSoldes h)) fun _ _ =>
        alike_run_pure trivial
  | listCategories =>
      exact Alike.run_bind (Alike.run_mapError (alike_listerCategories h hautres)) fun _ _ =>
        alike_run_pure trivial
  | listEnveloppes =>
      exact Alike.run_bind (Alike.run_mapError (alike_listerEnveloppes h)) fun _ _ =>
        alike_run_pure trivial
  | listBudgets mois =>
      show Alike _ s s' (Handlers.listBudgets A mois).run _
      unfold Handlers.listBudgets
      refine Alike.run_bind alike_ofExcept fun mois _ => ?_
      exact Alike.run_bind (Alike.run_mapError (alike_listerParMois h)) fun _ _ =>
        alike_run_pure trivial
  | getPreferences => exact Alike.run_mapError (alike_jourDebutMois h)
  | expensesByCategory month =>
      show Alike _ s s' (Handlers.expensesByCategory crypto A month).run _
      unfold Handlers.expensesByCategory
      refine Alike.run_bind alike_ofExcept fun mois _ => ?_
      refine Alike.run_bind (alike_cycleDuMois h mois) fun cycle _ => ?_
      exact Alike.run_bind (Alike.run_mapError (alike_repartition h)) fun _ _ =>
        alike_run_pure trivial
  | remainingBudgets month => exact alike_remainingBudgets h hautres
  | getForecast month => exact alike_getForecast h hautres

end Reads

/-! ## The result -/

/-- The page of the categories, when nothing fails. -/
private def pageDesCategories (col : Collation) (A : ProprietaireId) (s : Store) :
    List CategorieAvecCompteur :=
  ((sortBy (fun c => toLex (col.cle c.kind.asStr, col.cle c.name))
    (arrange Category.id (fun _ => 0) (s.category.select fun c =>
      Store.categorieVisible A c))).map fun c =>
        (c, RequeteClassement.transactionCount s c.id)).map fun row => ⟨row.1, row.2⟩

/-- The categories of the page: those visible to the owner, with all the transactions in them. -/
private theorem mem_pageDesCategories {col : Collation} {A : ProprietaireId} {s : Store}
    {l : CategorieAvecCompteur} :
    l ∈ pageDesCategories col A s ↔
      (l.category ∈ s.category ∧ Store.categorieVisible A l.category = true) ∧
        l.transactionCount = RequeteClassement.transactionCount s l.category.id := by
  obtain ⟨c, n⟩ := l
  simp only [pageDesCategories, List.map_map, List.mem_map, mem_sortBy, mem_arrange,
    Table.mem_select, Function.comp_apply, CategorieAvecCompteur.mk.injEq]
  constructor
  · rintro ⟨c, hc, rfl, rfl⟩
    exact ⟨hc, rfl⟩
  · rintro ⟨hc, rfl⟩
    exact ⟨c, hc, rfl, rfl⟩

/-- The list of categories shows the counts. -/
private theorem comptages_of_memesLectures {col : Collation} {crypto : CryptoService}
    {A : ProprietaireId} {s s' : Store} (h : s.Accorde A s')
    (hlectures : MemesLectures col crypto A s s') {c : Category} (hc : c ∈ s.category)
    (hvisible : Store.categorieVisible A c = true) :
    s.comptageAutres A c.id = s'.comptageAutres A c.id := by
  have hpage : ∀ s, (run (machine col) Scenario.calme.choix (Handlers.listCategories A).run 0
      s).value = .ok (.nouveau (pageDesCategories col A s)) := fun s => rfl
  have hpages : (Except.ok (ListResponse.nouveau (pageDesCategories col A s)) : Except ApiError _) =
      .ok (ListResponse.nouveau (pageDesCategories col A s')) := by
    have hlecture := hlectures .listCategories Scenario.calme.choix 0
    exact (hpage s).symm.trans (hlecture.trans (hpage s'))
  have hlists : pageDesCategories col A s = pageDesCategories col A s' :=
    congrArg ListResponse.data (Except.ok.inj hpages)
  -- the line of the category in the one page is in the other
  have hligne : (⟨c, RequeteClassement.transactionCount s c.id⟩ : CategorieAvecCompteur) ∈
      pageDesCategories col A s' := by
    rw [← hlists]
    exact mem_pageDesCategories.2 ⟨⟨hc, hvisible⟩, rfl⟩
  exact (transactionCount_accorde_iff h c.id).1 (mem_pageDesCategories.1 hligne).2

/-- Two databases with the same rows of a user and of the system open every page of this user
alike exactly when the others have as many transactions in each category the user sees. -/
theorem memesLectures_iff {col : Collation} {crypto : CryptoService} {A : ProprietaireId}
    {s s' : Store} (h : s.Accorde A s') :
    MemesLectures col crypto A s s' ↔
      ∀ c ∈ s.category, Store.categorieVisible A c = true →
        s.comptageAutres A c.id = s'.comptageAutres A c.id := by
  constructor
  · exact fun hlectures c hc hvisible => comptages_of_memesLectures h hlectures hc hvisible
  · exact fun hautres q ω n => ((alike_tache h hautres q).run ω n).1

/-! ## A purchase of somebody else -/

/-- No row names `A`. -/
private structure SansLigne (A : ProprietaireId) (s : Store) : Prop where
  consent : ∀ r ∈ s.consent.rows, r.ownerId ≠ A
  compte : ∀ r ∈ s.bankAccount.rows, r.ownerId ≠ A
  category : ∀ r ∈ s.category.rows, r.ownerId ≠ some A
  regle : ∀ r ∈ s.reglesCategorisation.rows, r.ownerId ≠ A
  budget : ∀ r ∈ s.budgets.rows, r.ownerId ≠ A
  preferences : ∀ r ∈ s.preferencesUtilisateur.rows, r.ownerId ≠ A
  enveloppe : ∀ r ∈ s.enveloppe.rows, r.proprietaire ≠ A

/-- An owner without a row has no assets. -/
private theorem patrimoine_vide {A : ProprietaireId} {s : Store} (h : SansLigne A s) :
    s.patrimoine A = ∅ := by
  have hcompte : ∀ compte, s.proprietaireDuCompte compte ≠ some A := by
    intro compte hA
    obtain ⟨a, ha, -, howner⟩ := Store.proprietaireDuCompte_eq_some.1 hA
    exact h.compte a ha howner
  refine Set.eq_empty_iff_forall_notMem.2 ?_
  rintro l ⟨hl, hA⟩
  cases l with
  | consent r => exact h.consent r hl (Option.some.inj hA)
  | compte r => exact h.compte r hl (Option.some.inj hA)
  | balance r => exact hcompte r.bankAccountId hA
  | transaction r => exact hcompte r.bankAccountId hA
  | category r => exact h.category r hl hA
  | regle r => exact h.regle r hl (Option.some.inj hA)
  | budget r => exact h.budget r hl (Option.some.inj hA)
  | preferences r => exact h.preferences r hl (Option.some.inj hA)
  | enveloppe r => exact h.enveloppe r hl (Option.some.inj hA)

/-- Two stores without a row of the owner agree for this owner when they have the same
categories. -/
private theorem accorde_of_sansLigne {A : ProprietaireId} {s s' : Store} (h : SansLigne A s)
    (h' : SansLigne A s') (hcategory : s.category = s'.category) : s.Accorde A s' where
  siennes := by rw [patrimoine_vide h, patrimoine_vide h']
  systeme c _ := by rw [hcategory]

/-- A purchase on the account of `bob`. -/
def achatDeBob : List Operation :=
  [.createConsent "bob" "banque",
    .completeConsent "bob" reponseBanque,
    .enregistrer
      { bankAccount := Uuid.fromU128 1012, externalTransactionId := "T1", status := .booked,
        label := "CARTE", amountCents := -5000, currency := "EUR", bookingDate := none,
        valueDate := none }]

/-- He puts it in a category of the system. -/
def achatDeBobClasse : List Operation :=
  achatDeBob ++ [.categorizeTransaction "bob" (Uuid.fromU128 1012) (Uuid.fromU128 1018)
    (Uuid.fromU128 3)]

/-- The seeded store has no row of `alice`. -/
private theorem sansLigne_amorcee : SansLigne "alice" amorcee := by
  constructor <;> decide

/-- Nor has the store where only `bob` buys. -/
private theorem sansLigne_achatDeBob :
    SansLigne "alice" (Scenario.unCompte.fin achatDeBob) := by
  constructor <;> decide

/-- Nor has the store where only `bob` buys and categorises. -/
private theorem sansLigne_achatDeBobClasse :
    SansLigne "alice" (Scenario.unCompte.fin achatDeBobClasse) := by
  constructor <;> decide

/-- What `bob` buys is not seen by `alice`. -/
theorem memesLectures_achatDeBob :
    MemesLectures Scenario.collation enClair "alice" amorcee
      (Scenario.unCompte.fin achatDeBob) :=
  (memesLectures_iff (accorde_of_sansLigne sansLigne_amorcee sansLigne_achatDeBob rfl)).2
    (show ∀ c ∈ amorcee.category.rows, _ by decide)

/-- Once he has put it in a category, `alice` sees that the category has a transaction. -/
theorem not_memesLectures_achatDeBobClasse :
    (Scenario.unCompte.fin achatDeBob).Accorde "alice" (Scenario.unCompte.fin achatDeBobClasse) ∧
      ¬ MemesLectures Scenario.collation enClair "alice" (Scenario.unCompte.fin achatDeBob)
        (Scenario.unCompte.fin achatDeBobClasse) := by
  have haccorde := accorde_of_sansLigne sansLigne_achatDeBob sansLigne_achatDeBobClasse rfl
  refine ⟨haccorde, fun hlectures => ?_⟩
  have hautres := comptages_of_memesLectures haccorde hlectures
    (List.get_mem (Scenario.unCompte.fin achatDeBob).category.rows ⟨2, by decide⟩) (by decide)
  revert hautres
  decide

end Budgy
