import Budgy.Analysis.Replies
import Budgy.Analysis.Scenarios
import Budgy.Interface.Pages
import Budgy.Model.Repository.Transactions

/-!
# Pages cut by the database

`lister_par_compte` and `lister_avec_solde` let the database sort and cut their rows.  It sorts
them again at each request, and nothing orders two rows that the `ORDER BY` does not tell
apart: when they are on both sides of a boundary, one may be shown twice and the other never.
-/

set_option autoImplicit false

namespace Budgy

open Effects Pages Relational RequeteTransaction

variable {col : Collation} {crypto : CryptoService} {s s' : Store} {α ε : Type}

/-! ## The pages shown -/

variable (col s) in
/-- The identifiers that an answer to the request of a page may show. -/
def Montre (liste : Tranche → Tache ε (LectureResultat α)) (id : α → Uuid) (tranche : Tranche)
    (ids : List Uuid) : Prop :=
  ∃ page s', Answers (machine col) (liste tranche) s page s' ∧ ids = page.elements.map id

variable (col s) in
/-- Whatever the order that the database chooses at each request, the first `n` pages are
answered and together show each of the expected rows once. -/
structure PagesExactes (liste : Tranche → Tache ε (LectureResultat α)) (id : α → Uuid)
    (attendus : List Uuid) (limit n : ℕ) : Prop where
  repond : ∀ k, ∃ ids, Montre col s liste id ⟨limit, k * limit⟩ ids
  exactes : ∀ ids : ℕ → List Uuid, (∀ k, Montre col s liste id ⟨limit, k * limit⟩ (ids k)) →
    ((List.range n).flatMap ids).Perm attendus

/-- The rows that the `ORDER BY` does not tell apart are on one page. -/
theorem pagesExactes_iff {ρ κ : Type} [LinearOrder κ] {key : ρ → κ} {cle : ρ → Uuid}
    {Lisible : ρ → Prop} {rows : List ρ} {liste : Tranche → Tache ε (LectureResultat α)}
    {id : α → Uuid} {limit n : ℕ}
    (hmontre : ∀ tranche ids, Montre col s liste id tranche ids ↔ ∃ rang,
      (∀ row ∈ ((sortBy key (arrange cle rang rows)).drop tranche.offset).take tranche.limit,
        Lisible row) ∧
      ids = (((sortBy key (arrange cle rang rows)).drop tranche.offset).take tranche.limit).map cle)
    (hcles : (rows.map cle).Nodup) (hlimit : 0 < limit) (hn : rows.length ≤ n * limit) :
    PagesExactes col s liste id (rows.map cle) limit n ↔
      (∀ row ∈ rows, Lisible row) ∧ Together limit (rows.map key) := by
  have hanswer : ∀ k ids, Montre col s liste id ⟨limit, k * limit⟩ ids ↔ ∃ l,
      IsOrder key rows l ∧ (∀ row ∈ page limit k l, Lisible row) ∧
        ids = (page limit k l).map cle := by
    intro k ids
    rw [hmontre]
    constructor
    · rintro ⟨rang, hlisible, hids⟩
      exact ⟨_, (isOrder_iff hcles).2 ⟨rang, rfl⟩, hlisible, hids⟩
    · rintro ⟨l, horder, hlisible, hids⟩
      obtain ⟨rang, rfl⟩ := (isOrder_iff hcles).1 horder
      exact ⟨rang, hlisible, hids⟩
  rw [← pages_iff hanswer hcles hlimit hn]
  exact ⟨fun h => ⟨h.repond, h.exactes⟩, fun h => ⟨h.1, h.2⟩⟩

/-! ## The transactions of an account -/

variable (s) in
/-- The rows that `lister_par_compte` looks for. -/
def transactionsDuCompte (owner : ProprietaireId) (compte : BankAccountId)
    (filtre : FiltreTransactions) : List BankTransactionRow :=
  s.bankTransaction.select fun t => s.txDe owner t && duCompte compte filtre.nonCategorisees t

/-- A transaction that is decrypted keeps its identifier. -/
theorem id_intoTransaction {row : TransactionAvecOwner} {lue : TransactionBancaire}
    (h : BankTransactions.intoTransaction crypto row = .ok lue) : lue.id = row.transaction.id := by
  obtain ⟨_, -, hlabel⟩ := Traversal.bind_eq_ok.1 h
  obtain ⟨_, -, hmontant⟩ := Traversal.bind_eq_ok.1 hlabel
  obtain ⟨_, -, hlue⟩ := Traversal.bind_eq_ok.1 hmontant
  rw [← Except.ok.inj hlue]

/-- What the listing of an account may answer: a page of some order of its rows. -/
theorem montre_listerParCompte {owner : ProprietaireId} {compte : BankAccountId}
    {filtre : FiltreTransactions} (tranche : Tranche) (ids : List Uuid) :
    Montre col s (BankTransactions.listerParCompte crypto owner compte filtre)
        TransactionBancaire.id tranche ids ↔ ∃ rang,
      (∀ t ∈ ((sortBy ordreParCompte (arrange BankTransactionRow.id rang
          (transactionsDuCompte s owner compte filtre))).drop tranche.offset).take tranche.limit,
        Dechiffrable (BankTransactions.intoTransaction crypto) ⟨t, owner⟩) ∧
      ids = (((sortBy ordreParCompte (arrange BankTransactionRow.id rang
        (transactionsDuCompte s owner compte filtre))).drop tranche.offset).take
          tranche.limit).map BankTransactionRow.id := by
  constructor
  · rintro ⟨page, s', hpage, rfl⟩
    obtain ⟨total, s₁, htotal, hsuite⟩ := answers_bind.1 hpage
    obtain ⟨x, -, hcompte⟩ := answers_interrogerChiffre.1 htotal
    obtain ⟨-, rfl⟩ := lire_eq_ok.1 hcompte
    obtain ⟨rows, s₂, hrows, hlecture⟩ := answers_bind.1 hsuite
    obtain ⟨y, -, hlignes⟩ := answers_interrogerChiffre.1 hrows
    obtain ⟨rfl, rfl⟩ := lire_eq_ok.1 hlignes
    obtain ⟨lues, s₃, hdechiffre, hreponse⟩ := answers_bind.1 hlecture
    obtain ⟨hlues, rfl⟩ := answers_ofExcept.1 hdechiffre
    obtain ⟨rfl, rfl⟩ := answers_pure.1 hreponse
    refine ⟨y.rang, fun t ht => ?_, ?_⟩
    · exact exists_mapM.1 ⟨lues, hlues⟩ _ (List.mem_map_of_mem ht)
    · have hids := Traversal.map_eq_map hlues fun _ _ h => id_intoTransaction h
      rw [List.map_map] at hids
      exact hids
  · rintro ⟨rang, hlisible, rfl⟩
    let x : ChoixSql := ⟨none, rang, ⟨0⟩, 0⟩
    obtain ⟨lues, hlues⟩ := exists_mapM.2 (List.forall_mem_map.2 hlisible)
    have hids := Traversal.map_eq_map hlues fun _ _ h => id_intoTransaction h
    rw [List.map_map] at hids
    refine ⟨⟨lues, s.bankTransaction.count fun t => s.txDe owner t &&
      duCompte compte filtre.nonCategorisees t⟩, s, ?_, hids.symm⟩
    refine answers_bind.2 ⟨_, s, answers_interrogerChiffre.2 ⟨x, rfl, rfl⟩, ?_⟩
    refine answers_bind.2 ⟨_, s, answers_interrogerChiffre.2 ⟨x, rfl, rfl⟩, ?_⟩
    exact answers_bind.2 ⟨lues, s, answers_ofExcept.2 ⟨hlues, rfl⟩, answers_pure.2 ⟨rfl, rfl⟩⟩

/-! ## The accounts of an owner -/

variable (s) in
/-- The rows that `lister_avec_solde` looks for. -/
def comptesDuProprietaire (owner : ProprietaireId) : List BankAccountRow :=
  s.bankAccount.select fun a => a.ownerId = owner

variable (crypto s) in
/-- The account can be decrypted, and one of the balances that can come first too. -/
structure CompteLisible (a : BankAccountRow) : Prop where
  compte : Dechiffrable (BankAccounts.intoBankAccount crypto) a
  solde : ∃ x, ∀ row ∈ (RequeteCompte.soldesClasses x s a.id).head?.bind (RequeteCompte.avecOwner s),
    Dechiffrable (Balances.intoBalance crypto) row

/-- An account that is decrypted keeps its identifier. -/
theorem id_intoBankAccount {row : BankAccountRow} {compte : BankAccount}
    (h : BankAccounts.intoBankAccount crypto row = .ok compte) : compte.id = row.id := by
  obtain ⟨_, -, hcompte⟩ := Traversal.bind_eq_ok.1 h
  rw [← Except.ok.inj hcompte]

/-- The balance that comes first has been decrypted, and nothing is written. -/
theorem solde_of_answers {compte : BankAccountId} {solde : Option Balance}
    (h : Answers (machine col) (BankAccounts.soldeCourant crypto compte) s solde s') :
    s' = s ∧ ∃ x, ∀ row ∈
      (RequeteCompte.soldesClasses x s compte).head?.bind (RequeteCompte.avecOwner s),
      Dechiffrable (Balances.intoBalance crypto) row := by
  obtain ⟨ligne, s₁, hligne, hsuite⟩ := answers_bind.1 h
  obtain ⟨x, -, heffet⟩ := answers_interrogerChiffre.1 hligne
  obtain ⟨rfl, rfl⟩ := lire_eq_ok.1 heffet
  cases hpremier : (RequeteCompte.soldesClasses x s₁ compte).head?.bind
      (RequeteCompte.avecOwner s₁) with
  | none =>
      rw [hpremier] at hsuite
      refine ⟨(answers_pure.1 hsuite).2, x, fun row hrow => ?_⟩
      rw [hpremier] at hrow
      cases hrow
  | some row =>
      rw [hpremier] at hsuite
      obtain ⟨lu, s₂, hlecture, hfin⟩ := answers_bind.1 hsuite
      obtain ⟨hlu, rfl⟩ := answers_ofExcept.1 hlecture
      refine ⟨(answers_pure.1 hfin).2, x, fun row' hrow => ?_⟩
      rw [hpremier] at hrow
      exact ⟨lu, Option.some.inj hrow ▸ hlu⟩

/-- The balance of an account is answered when its amount can be decrypted. -/
theorem exists_answers_solde {compte : BankAccountId} {x : ChoixSql}
    (h : ∀ row ∈ (RequeteCompte.soldesClasses x s compte).head?.bind (RequeteCompte.avecOwner s),
      Dechiffrable (Balances.intoBalance crypto) row) :
    ∃ solde, Answers (machine col) (BankAccounts.soldeCourant crypto compte) s solde s := by
  have hligne : Answers (machine col) (interrogerChiffre (.compte (.soldeCourant compte))) s
      ((RequeteCompte.soldesClasses x s compte).head?.bind (RequeteCompte.avecOwner s)) s :=
    answers_interrogerChiffre.2 ⟨{ x with panne := none }, rfl, rfl⟩
  cases hpremier : (RequeteCompte.soldesClasses x s compte).head?.bind
      (RequeteCompte.avecOwner s) with
  | none =>
      rw [hpremier] at hligne
      exact ⟨none, answers_bind.2 ⟨_, s, hligne, answers_pure.2 ⟨rfl, rfl⟩⟩⟩
  | some row =>
      rw [hpremier] at hligne
      obtain ⟨lu, hlu⟩ := h row hpremier
      refine ⟨some lu, answers_bind.2 ⟨_, s, hligne, ?_⟩⟩
      exact answers_bind.2 ⟨lu, s, answers_ofExcept.2 ⟨hlu, rfl⟩, answers_pure.2 ⟨rfl, rfl⟩⟩

/-- An account that is given is readable, and nothing is written. -/
theorem lisible_of_answers {a : BankAccountRow} {compte : CompteAvecSolde}
    (h : Answers (machine col) (BankAccounts.avecSolde crypto a) s compte s') :
    s' = s ∧ compte.compte.id = a.id ∧ CompteLisible crypto s a := by
  obtain ⟨lu, s₁, hlecture, hsuite⟩ := answers_bind.1 h
  obtain ⟨hlu, rfl⟩ := answers_ofExcept.1 hlecture
  obtain ⟨solde, s₂, hsolde, hfin⟩ := answers_bind.1 hsuite
  obtain ⟨rfl, hlisible⟩ := solde_of_answers hsolde
  obtain ⟨rfl, rfl⟩ := answers_pure.1 hfin
  have hid := id_intoBankAccount hlu
  exact ⟨rfl, hid, ⟨lu, hlu⟩, hid ▸ hlisible⟩

/-- An account is answered with its balances when all of it can be decrypted. -/
theorem exists_answers_compte {a : BankAccountRow} (h : CompteLisible crypto s a) :
    ∃ compte, Answers (machine col) (BankAccounts.avecSolde crypto a) s compte s := by
  obtain ⟨⟨lu, hlu⟩, x, hx⟩ := h
  rw [← id_intoBankAccount hlu] at hx
  obtain ⟨solde, hsolde⟩ := exists_answers_solde hx
  refine ⟨⟨lu, solde, none⟩, answers_bind.2 ⟨lu, s, answers_ofExcept.2 ⟨hlu, rfl⟩, ?_⟩⟩
  exact answers_bind.2 ⟨solde, s, hsolde, answers_pure.2 ⟨rfl, rfl⟩⟩

/-- A page of accounts is a page of readable rows. -/
theorem comptes_of_answers {rows : List BankAccountRow} {lus : List CompteAvecSolde}
    (h : List.Forall₂ (fun a compte => Answers (machine col) (BankAccounts.avecSolde crypto a) s
      compte s) rows lus) :
    (∀ a ∈ rows, CompteLisible crypto s a) ∧
      lus.map (fun compte => compte.compte.id) = rows.map BankAccountRow.id := by
  induction h with
  | nil => exact ⟨List.forall_mem_nil _, rfl⟩
  | cons hpremier _ ih =>
      obtain ⟨-, hid, hlisible⟩ := lisible_of_answers hpremier
      refine ⟨List.forall_mem_cons.2 ⟨hlisible, ih.1⟩, ?_⟩
      rw [List.map_cons, List.map_cons, hid, ih.2]

/-- What the listing of the accounts may answer: a page of some order of its rows. -/
theorem montre_listerAvecSolde {owner : ProprietaireId} (tranche : Tranche) (ids : List Uuid) :
    Montre col s (BankAccounts.listerAvecSolde crypto owner) (fun compte => compte.compte.id)
        tranche ids ↔ ∃ rang,
      (∀ a ∈ ((sortBy BankAccountRow.createdAt (arrange BankAccountRow.id rang
          (comptesDuProprietaire s owner))).drop tranche.offset).take tranche.limit,
        CompteLisible crypto s a) ∧
      ids = (((sortBy BankAccountRow.createdAt (arrange BankAccountRow.id rang
        (comptesDuProprietaire s owner))).drop tranche.offset).take
          tranche.limit).map BankAccountRow.id := by
  have hlit : ∀ (a : BankAccountRow) compte s', Answers (machine col)
      (BankAccounts.avecSolde crypto a) s compte s' → s' = s :=
    fun a compte s' h => (lisible_of_answers h).1
  constructor
  · rintro ⟨page, s', hpage, rfl⟩
    obtain ⟨total, s₁, htotal, hsuite⟩ := answers_bind.1 hpage
    obtain ⟨x, -, hcompte⟩ := answers_interrogerChiffre.1 htotal
    obtain ⟨-, rfl⟩ := lire_eq_ok.1 hcompte
    obtain ⟨rows, s₂, hrows, hlecture⟩ := answers_bind.1 hsuite
    obtain ⟨y, -, hlignes⟩ := answers_interrogerChiffre.1 hrows
    obtain ⟨rfl, rfl⟩ := lire_eq_ok.1 hlignes
    obtain ⟨lus, s₃, hlus, hreponse⟩ := answers_bind.1 hlecture
    obtain ⟨rfl, htous⟩ := (answers_mapM hlit).1 hlus
    obtain ⟨rfl, rfl⟩ := answers_pure.1 hreponse
    obtain ⟨hlisible, hids⟩ := comptes_of_answers htous
    exact ⟨y.rang, hlisible, hids⟩
  · rintro ⟨rang, hlisible, rfl⟩
    let x : ChoixSql := ⟨none, rang, ⟨0⟩, 0⟩
    obtain ⟨lus, hlus⟩ := exists_answers_mapM (M := machine col) fun a ha =>
      exists_answers_compte (hlisible a ha)
    obtain ⟨-, hids⟩ := comptes_of_answers ((answers_mapM hlit).1 hlus).2
    refine ⟨⟨lus, s.bankAccount.count fun a => a.ownerId = owner⟩, s, ?_, hids.symm⟩
    refine answers_bind.2 ⟨_, s, answers_interrogerChiffre.2 ⟨x, rfl, rfl⟩, ?_⟩
    refine answers_bind.2 ⟨_, s, answers_interrogerChiffre.2 ⟨x, rfl, rfl⟩, ?_⟩
    exact answers_bind.2 ⟨lus, s, hlus, answers_pure.2 ⟨rfl, rfl⟩⟩

/-! ## Both listings -/

/-- The pages of the transactions of an account are exact when the order leaves no tie. -/
theorem pagesExactes_listerParCompte {owner : ProprietaireId} {compte : BankAccountId}
    {filtre : FiltreTransactions} {limit n : ℕ} (hlimit : 0 < limit)
    (hn : (transactionsDuCompte s owner compte filtre).length ≤ n * limit) :
    PagesExactes col s (BankTransactions.listerParCompte crypto owner compte filtre)
        TransactionBancaire.id
        ((transactionsDuCompte s owner compte filtre).map BankTransactionRow.id) limit n ↔
      (∀ t ∈ transactionsDuCompte s owner compte filtre,
        Dechiffrable (BankTransactions.intoTransaction crypto) ⟨t, owner⟩) ∧
      Together limit ((transactionsDuCompte s owner compte filtre).map ordreParCompte) := by
  have hcles : ((transactionsDuCompte s owner compte filtre).map BankTransactionRow.id).Nodup :=
    (List.filter_sublist.map _).nodup s.bankTransaction.nodup
  exact pagesExactes_iff montre_listerParCompte hcles hlimit hn

/-- So are the pages of the accounts of an owner. -/
theorem pagesExactes_listerAvecSolde {owner : ProprietaireId} {limit n : ℕ} (hlimit : 0 < limit)
    (hn : (comptesDuProprietaire s owner).length ≤ n * limit) :
    PagesExactes col s (BankAccounts.listerAvecSolde crypto owner)
        (fun compte => compte.compte.id)
        ((comptesDuProprietaire s owner).map BankAccountRow.id) limit n ↔
      (∀ a ∈ comptesDuProprietaire s owner, CompteLisible crypto s a) ∧
      Together limit ((comptesDuProprietaire s owner).map BankAccountRow.createdAt) := by
  have hcles : ((comptesDuProprietaire s owner).map BankAccountRow.id).Nodup :=
    (List.filter_sublist.map _).nodup s.bankAccount.nodup
  exact pagesExactes_iff montre_listerAvecSolde hcles hlimit hn

variable (col crypto s) in
/-- The pages of the transactions of an account and those of the accounts of its owner. -/
structure ListagesExacts (owner : ProprietaireId) (compte : BankAccountId)
    (filtre : FiltreTransactions) (limit n : ℕ) : Prop where
  transactions : PagesExactes col s (BankTransactions.listerParCompte crypto owner compte filtre)
    TransactionBancaire.id
    ((transactionsDuCompte s owner compte filtre).map BankTransactionRow.id) limit n
  comptes : PagesExactes col s (BankAccounts.listerAvecSolde crypto owner)
    (fun compte => compte.compte.id)
    ((comptesDuProprietaire s owner).map BankAccountRow.id) limit n

variable (crypto s) in
/-- Every row can be decrypted, and no page boundary separates two rows that the `ORDER BY`
does not tell apart. -/
structure SansCoupure (owner : ProprietaireId) (compte : BankAccountId)
    (filtre : FiltreTransactions) (limit : ℕ) : Prop where
  transactionsLisibles : ∀ t ∈ transactionsDuCompte s owner compte filtre,
    Dechiffrable (BankTransactions.intoTransaction crypto) ⟨t, owner⟩
  transactions : Together limit ((transactionsDuCompte s owner compte filtre).map ordreParCompte)
  comptesLisibles : ∀ a ∈ comptesDuProprietaire s owner, CompteLisible crypto s a
  comptes : Together limit ((comptesDuProprietaire s owner).map BankAccountRow.createdAt)

/-- The pages are exact, whatever the database chooses, exactly when no tie is cut. -/
theorem listagesExacts_iff {owner : ProprietaireId} {compte : BankAccountId}
    {filtre : FiltreTransactions} {limit n : ℕ} (hlimit : 0 < limit)
    (htransactions : (transactionsDuCompte s owner compte filtre).length ≤ n * limit)
    (hcomptes : (comptesDuProprietaire s owner).length ≤ n * limit) :
    ListagesExacts col crypto s owner compte filtre limit n ↔
      SansCoupure crypto s owner compte filtre limit := by
  constructor
  · intro h
    obtain ⟨hlues, htx⟩ := (pagesExactes_listerParCompte hlimit htransactions).1 h.transactions
    obtain ⟨hlus, hco⟩ := (pagesExactes_listerAvecSolde hlimit hcomptes).1 h.comptes
    exact ⟨hlues, htx, hlus, hco⟩
  · intro h
    constructor
    · exact (pagesExactes_listerParCompte hlimit htransactions).2
        ⟨h.transactionsLisibles, h.transactions⟩
    · exact (pagesExactes_listerAvecSolde hlimit hcomptes).2 ⟨h.comptesLisibles, h.comptes⟩

/-! ## Two purchases on hold, without dates -/

/-- They are recorded at the same instant. -/
def deuxAchats : Store :=
  Scenario.unCompte.fin
    [.createConsent "alice" "banque", .completeConsent "alice" reponseBanque,
      .enregistrer
        { bankAccount := Uuid.fromU128 1012, externalTransactionId := "T1", status := .pending,
          label := "CARTE ACHAT", amountCents := -5000, currency := "EUR", bookingDate := none,
          valueDate := none },
      .enregistrer
        { bankAccount := Uuid.fromU128 1012, externalTransactionId := "T2", status := .pending,
          label := "CARTE ACHAT", amountCents := -1200, currency := "EUR", bookingDate := none,
          valueDate := none }]

/-- Both purchases can be decrypted. -/
private theorem lisibles_deuxAchats :
    ∀ t ∈ transactionsDuCompte deuxAchats "alice" (Uuid.fromU128 1012) ⟨false⟩,
      Dechiffrable (BankTransactions.intoTransaction enClair) ⟨t, "alice"⟩ := by
  have hall : ∀ t ∈ transactionsDuCompte deuxAchats "alice" (Uuid.fromU128 1012) ⟨false⟩,
      (BankTransactions.intoTransaction enClair ⟨t, "alice"⟩).isOk = true := by decide +kernel
  exact fun t ht => dechiffrable_of_isOk (hall t ht)

/-- Both purchases have the same place in the order. -/
private theorem cles_deuxAchats :
    (transactionsDuCompte deuxAchats "alice" (Uuid.fromU128 1012) ⟨false⟩).map ordreParCompte =
      List.replicate 2 (toLex (toLex (0, 0), toLex (toLex (1, 0), 0))) := by
  decide +kernel

/-- The account can be decrypted, with its balances. -/
private theorem compteLisible_deuxAchats :
    ∀ a ∈ comptesDuProprietaire deuxAchats "alice", CompteLisible enClair deuxAchats a := by
  have hcompte : ∀ a ∈ comptesDuProprietaire deuxAchats "alice",
      (BankAccounts.intoBankAccount enClair a).isOk = true ∧
        (RequeteCompte.soldesClasses ⟨none, fun _ => 0, ⟨0⟩, 0⟩ deuxAchats a.id).head? = none := by
    decide +kernel
  intro a ha
  obtain ⟨hok, hsolde⟩ := hcompte a ha
  refine ⟨dechiffrable_of_isOk hok, ⟨none, fun _ => 0, ⟨0⟩, 0⟩, fun row hrow => ?_⟩
  rw [hsolde] at hrow
  cases hrow

/-- On one page, the two purchases are shown once each. -/
theorem listagesExacts_deuxAchats :
    ListagesExacts Scenario.collation enClair deuxAchats "alice" (Uuid.fromU128 1012) ⟨false⟩ 2 1 := by
  refine (listagesExacts_iff (by decide) (by decide +kernel) (by decide +kernel)).2
    ⟨lisibles_deuxAchats, ?_, compteLisible_deuxAchats, by decide +kernel⟩
  rw [cles_deuxAchats]
  decide

/-- One to a page, they can be decrypted, and yet the two pages can show the same one. -/
theorem pages_deuxAchats :
    (∀ t ∈ transactionsDuCompte deuxAchats "alice" (Uuid.fromU128 1012) ⟨false⟩,
      Dechiffrable (BankTransactions.intoTransaction enClair) ⟨t, "alice"⟩) ∧
    ¬ PagesExactes Scenario.collation deuxAchats
      (BankTransactions.listerParCompte enClair "alice" (Uuid.fromU128 1012) ⟨false⟩)
      TransactionBancaire.id
      ((transactionsDuCompte deuxAchats "alice" (Uuid.fromU128 1012) ⟨false⟩).map
        BankTransactionRow.id) 1 2 := by
  refine ⟨lisibles_deuxAchats, fun hexactes => ?_⟩
  have hensemble := ((pagesExactes_listerParCompte (by decide) (by decide +kernel)).1 hexactes).2
  rw [cles_deuxAchats] at hensemble
  exact absurd hensemble (by decide)

end Budgy
