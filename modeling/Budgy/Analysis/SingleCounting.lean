import Budgy.Analysis.AccountPages
import Budgy.Analysis.BlockRefusal
import Budgy.Analysis.ConsolidatedBalance
import Budgy.Analysis.MonthlyTotals

/-!
# Each account and each transaction counts once

The consolidated balance adds one balance for each account row, and the monthly totals one
amount for each transaction row.  A row is found by the key of a consent and an identifier of
the bank, so the same account has one row under a consent, and another one under each consent
that it is attached to again.  `comptage_unique` says that nothing counts twice under one
consent, whatever the run, and that nothing counts twice at all for a user whose accounts are
attached once.
-/

set_option autoImplicit false

namespace Budgy

open Effects Relational

/-! ## Rows have the key of the identifier they encrypt -/

/-- The transaction of an external identifier, with the key that an insertion gives it. -/
structure BankTransactionRow.Scellee (crypto : CryptoService) (A : ProprietaireId)
    (externe : String) (t : BankTransactionRow) : Prop where
  clair : dechiffrerTexte crypto A "bank_transaction" "external_transaction_id"
    t.externalTransactionId = .ok externe
  cle : t.dedupKey = dedupKeyTransaction crypto t.bankAccountId externe

/-- Every transaction has the key of the identifier it encrypts. -/
def Store.TransactionsScellees (crypto : CryptoService) (s : Store) : Prop :=
  ∀ t ∈ s.bankTransaction, ∃ A externe,
    s.proprietaireDuCompte t.bankAccountId = some A ∧ t.Scellee crypto A externe

section Effects

variable {col : Collation} {crypto : CryptoService} {U : Set (List UInt8)} {A : ProprietaireId}
  {x : ChoixSql} {s s' : Store} {r : Requete} {v : r.Reponse}

/-- The accounts remain sealed under a statement about their owner. -/
theorem Store.ComptesScelles.effet (h : s.ComptesScelles crypto) (hfiable : crypto.Fiable)
    (heffet : r.effet col x s = .ok (v, s')) (hpour : r.Pour crypto U A s) :
    s'.ComptesScelles crypto := by
  intro a ha
  have hr : ∀ id f, r ≠ .compte (.poserEmpreinte id f) := by
    rintro id f rfl
    exact hpour
  rcases compte_effet heffet hr ha with ⟨a₀, ha₀, hmeme⟩ | ⟨l, rfl, rfl, -⟩
  · obtain ⟨externe, hscelle⟩ := h a₀ ha₀
    refine ⟨externe, ?_, ?_, hmeme.empreinteCompte.trans hscelle.empreinte⟩
    · rw [hmeme.ownerId, hmeme.externalAccountId]
      exact hscelle.clair
    · rw [hmeme.dedupKey, hmeme.consentId]
      exact hscelle.cle
  · obtain ⟨-, -, nonce, externe, hblob, hkey, hempreinte⟩ := hpour
    exact ⟨externe, dechiffrerTexte_chiffrerTexte hfiable hblob, hkey, congrArg some hempreinte⟩

/-- The transactions remain sealed under a statement about their owner. -/
theorem Store.TransactionsScellees.effet (h : s.TransactionsScellees crypto) (hi : s.Integre)
    (hi' : s'.Integre) (hfiable : crypto.Fiable) (heffet : r.effet col x s = .ok (v, s'))
    (hpour : r.Pour crypto U A s) : s'.TransactionsScellees crypto := by
  intro t ht
  obtain ⟨a, ha, hid⟩ := hi'.transactionCompte t ht
  have hB : s'.proprietaireDuCompte t.bankAccountId = some a.ownerId :=
    Store.proprietaireDuCompte_eq_some.2 ⟨a, ha, hid, rfl⟩
  rcases transaction_effet heffet ht with ⟨t₀, ht₀, hdevient⟩ | ⟨l, rfl, rfl, -⟩
  · have hmeme := hdevient.meme
    obtain ⟨B, externe, hB₀, hscellee⟩ := h t₀ ht₀
    have hproprietaire := hi.proprietaire_effet heffet ht ht₀ hmeme hB
    obtain rfl : B = a.ownerId := Option.some.inj (hB₀.symm.trans hproprietaire)
    refine ⟨a.ownerId, externe, hB, ?_, ?_⟩
    · rw [hmeme.externalTransactionId]
      exact hscellee.clair
    · rw [hmeme.dedupKey, hmeme.bankAccountId]
      exact hscellee.cle
  · obtain ⟨hA, nonce, externe, -, hblob, hkey⟩ := hpour
    have hpareil : s.Pareil s' .bankAccount := pareil_effet heffet (by simp)
    have hsame : s'.bankAccount = s.bankAccount := hpareil
    refine ⟨A, externe, ?_, dechiffrerTexte_chiffrerTexte hfiable hblob, hkey⟩
    unfold Store.proprietaireDuCompte
    rw [hsame]
    exact hA

end Effects

/-! ## Runs -/

section Runs

variable {col : Collation} {cfg : Configuration} {s₀ s : Store} {l : List (Etape col cfg)}

/-- In every database of a run, the rows have the keys of the identifiers they encrypt. -/
theorem execution_scelles (h₀ : s₀.Amorcee) (h : Execution col cfg s₀ l s)
    (hfiable : cfg.crypto.Fiable) :
    s.Integre ∧ s.ComptesScelles cfg.crypto ∧ s.TransactionsScellees cfg.crypto := by
  have hcomptes : s₀.ComptesScelles cfg.crypto := by
    intro a ha
    have ha : a ∈ s₀.bankAccount.rows := ha
    rw [h₀.bankAccount] at ha
    exact absurd ha List.not_mem_nil
  have htransactions : s₀.TransactionsScellees cfg.crypto := by
    intro t ht
    have ht : t ∈ s₀.bankTransaction.rows := ht
    rw [h₀.bankTransaction] at ht
    exact absurd ht List.not_mem_nil
  refine (h.preserves_events (I := fun s => s.Integre ∧ s.ComptesScelles cfg.crypto ∧
    s.TransactionsScellees cfg.crypto) ⟨h₀.integre, hcomptes, htransactions⟩ ?_).1
  rintro c hc e he ⟨hi, hcomptes, htransactions⟩
  have hi' : e.after.Integre := by
    refine hi.after fun id f hop => ?_
    exact (Etape.emet (h.valid c hc) he hop (by simp)).sans_poser id f rfl
  obtain ⟨A, hpour⟩ := execution_pourUn h c hc e he
  have hpour : Op.Pour cfg.crypto Set.univ A e.before e.op := hpour
  rcases after_cases e with hsame | ⟨r, x, v, hop, heffet⟩
  · rw [hsame]
    exact ⟨hi, hcomptes, htransactions⟩
  · rw [hop] at hpour
    exact ⟨hi', hcomptes.effet hfiable heffet hpour,
      htransactions.effet hi hi' hfiable heffet hpour⟩

end Runs

/-! ## What tells the rows apart -/

/-- What the bank calls the account of a row. -/
def BankAccountRow.externe (crypto : CryptoService) (a : BankAccountRow) : Option String :=
  (dechiffrerTexte crypto a.ownerId "bank_account" "external_account_id"
    a.externalAccountId).toOption

/-- What the bank calls the account and the transaction of a row, with the consent that the
account is attached by. -/
def Store.identite (crypto : CryptoService) (s : Store) (t : BankTransactionRow) :
    Option (ConsentId × String × String) := do
  let a ← s.bankAccount.find? t.bankAccountId
  let compte ← a.externe crypto
  let transaction ← (dechiffrerTexte crypto a.ownerId "bank_transaction"
    "external_transaction_id" t.externalTransactionId).toOption
  return (a.consentId, compte, transaction)

/-- The user has each account under one consent. -/
def Store.AttacheUneFois (crypto : CryptoService) (A : ProprietaireId) (s : Store) : Prop :=
  ∀ a ∈ s.bankAccount, ∀ b ∈ s.bankAccount, a.ownerId = A → b.ownerId = A →
    a.externe crypto = b.externe crypto → a.consentId = b.consentId

section Identities

variable {crypto : CryptoService} {s : Store} {A : ProprietaireId}

/-- Under one consent, an account has one row. -/
theorem Store.ComptesScelles.eq_of_externe (h : s.ComptesScelles crypto) (hi : s.Integre)
    {a b : BankAccountRow} (ha : a ∈ s.bankAccount) (hb : b ∈ s.bankAccount)
    (hconsent : a.consentId = b.consentId) (hexterne : a.externe crypto = b.externe crypto) :
    a = b := by
  obtain ⟨externe, hscelle⟩ := h a ha
  obtain ⟨externe', hscelle'⟩ := h b hb
  have hsame : externe = externe' := by
    unfold BankAccountRow.externe at hexterne
    rw [hscelle.clair, hscelle'.clair] at hexterne
    exact Option.some.inj hexterne
  refine hi.compteUnique a ha b hb hconsent ?_
  rw [hscelle.cle, hscelle'.cle, hconsent, hsame]

/-- Sealed accounts with the same external identifier are the same account of the bank. -/
theorem Store.ComptesScelles.externe_inj (h : s.ComptesScelles crypto) {a b : BankAccountRow}
    (ha : a ∈ s.bankAccount) (hb : b ∈ s.bankAccount)
    (heq : (a.externe crypto).getD "" = (b.externe crypto).getD "") :
    a.externe crypto = b.externe crypto := by
  obtain ⟨externe, hscelle⟩ := h a ha
  obtain ⟨externe', hscelle'⟩ := h b hb
  unfold BankAccountRow.externe at heq ⊢
  rw [hscelle.clair, hscelle'.clair] at heq ⊢
  exact congrArg some heq

/-- The account of a transaction of the user is the user's. -/
private theorem proprietaire_of_txDe {t : BankTransactionRow} {a : BankAccountRow}
    (ha : a ∈ s.bankAccount) (hid : a.id = t.bankAccountId) (hA : s.txDe A t = true) :
    a.ownerId = A := by
  have hproprietaire : s.proprietaireDuCompte t.bankAccountId = some A := by
    simpa [Store.txDe] using hA
  have ha' : s.proprietaireDuCompte t.bankAccountId = some a.ownerId :=
    Store.proprietaireDuCompte_eq_some.2 ⟨a, ha, hid, rfl⟩
  exact Option.some.inj (ha'.symm.trans hproprietaire)

/-- What tells a transaction apart is read of its row. -/
theorem Store.TransactionsScellees.identite_eq (h : s.TransactionsScellees crypto)
    (hcomptes : s.ComptesScelles crypto) {t : BankTransactionRow} (ht : t ∈ s.bankTransaction) :
    ∃ a ∈ s.bankAccount, a.id = t.bankAccountId ∧ ∃ compte transaction,
      a.externe crypto = some compte ∧
        t.dedupKey = dedupKeyTransaction crypto t.bankAccountId transaction ∧
          s.identite crypto t = some (a.consentId, compte, transaction) := by
  obtain ⟨A, transaction, hA, hscellee⟩ := h t ht
  obtain ⟨a, ha, hid, rfl⟩ := Store.proprietaireDuCompte_eq_some.1 hA
  obtain ⟨compte, hscelle⟩ := hcomptes a ha
  have hcompte : a.externe crypto = some compte := by
    unfold BankAccountRow.externe
    rw [hscelle.clair]
    rfl
  refine ⟨a, ha, hid, compte, transaction, hcompte, hscellee.cle, ?_⟩
  have hfind : s.bankAccount.find? t.bankAccountId = some a :=
    hid ▸ Table.find?_key ha
  unfold Store.identite
  rw [hfind, Option.bind_eq_bind, Option.bind_some, hcompte, Option.bind_eq_bind,
    Option.bind_some, hscellee.clair]
  rfl

/-- Under one consent, a transaction of an account has one row. -/
theorem Store.TransactionsScellees.eq_of_identite (h : s.TransactionsScellees crypto)
    (hcomptes : s.ComptesScelles crypto) (hi : s.Integre) {t u : BankTransactionRow}
    (ht : t ∈ s.bankTransaction) (hu : u ∈ s.bankTransaction)
    (hidentite : s.identite crypto t = s.identite crypto u) : t = u := by
  obtain ⟨a, ha, hid, compte, transaction, hcompte, hkey, hlue⟩ := h.identite_eq hcomptes ht
  obtain ⟨b, hb, hid', compte', transaction', hcompte', hkey', hlue'⟩ :=
    h.identite_eq hcomptes hu
  have heq := Option.some.inj (hlue.symm.trans (hidentite.trans hlue'))
  simp only [Prod.mk.injEq] at heq
  obtain ⟨hconsent, rfl, rfl⟩ := heq
  obtain rfl := hcomptes.eq_of_externe hi ha hb hconsent (hcompte.trans hcompte'.symm)
  refine hi.transactionUnique t ht u hu ?_
  rw [hkey, hkey', ← hid, ← hid']

/-- For a user who has each account under one consent, the bank tells the transactions apart
without it. -/
theorem Store.TransactionsScellees.identite_eq_of_snd (h : s.TransactionsScellees crypto)
    (hcomptes : s.ComptesScelles crypto) (hune : s.AttacheUneFois crypto A)
    {t u : BankTransactionRow} (ht : t ∈ s.bankTransaction) (hu : u ∈ s.bankTransaction)
    (hA : s.txDe A t = true) (hB : s.txDe A u = true)
    (heq : (s.identite crypto t).map Prod.snd = (s.identite crypto u).map Prod.snd) :
    s.identite crypto t = s.identite crypto u := by
  obtain ⟨a, ha, hid, compte, transaction, hcompte, -, hlue⟩ := h.identite_eq hcomptes ht
  obtain ⟨b, hb, hid', compte', transaction', hcompte', -, hlue'⟩ := h.identite_eq hcomptes hu
  have howner : a.ownerId = A := proprietaire_of_txDe ha hid hA
  have howner' : b.ownerId = A := proprietaire_of_txDe hb hid' hB
  rw [hlue, hlue'] at heq ⊢
  obtain ⟨rfl, rfl⟩ := Prod.mk.inj (Option.some.inj heq)
  rw [hune a ha b hb howner howner' (hcompte.trans hcompte'.symm)]

end Identities

/-! ## What the pages count -/

section Pages

variable (col : Collation) (crypto : CryptoService) (A : ProprietaireId) {κ : Type} (s : Store)

/-- The consolidated balance adds one balance at most for the accounts that `cle` does not
tell apart. -/
def SoldeSansDoublon (cle : BankAccount → κ) : Prop :=
  ∀ solde s', Answers (machine col) (Handlers.getConsolidatedBalance crypto A) s solde s' →
    solde.totalCents =
        Saturation.total i64Min i64Max (solde.comptes.filterMap montantCourant) ∧
      ((solde.comptes.filter fun c => c.solde.isSome).map fun c => cle c.compte).Nodup

/-- The totals of a cycle add one amount at most for the movements that `cle` does not tell
apart, in each direction. -/
def TotauxSansDoublon (cle : BankTransactionRow → κ) : Prop :=
  ∀ (c : CycleMensuel) (sens : Depenses.Sens),
    ((s.retenues crypto A c sens).map cle).Nodup ∧
      ∀ totaux s', Answers (machine col) (Depenses.montantsParCategorie crypto A c sens) s totaux
          s' →
        ∃ lignes, totaux = Depenses.totauxParCategorie sens lignes ∧
          lignes.Perm ((s.retenues crypto A c sens).map fun t =>
            (t.categoryId, t.montant crypto A))

end Pages

section Pages

variable {col : Collation} {crypto : CryptoService} {A : ProprietaireId} {κ : Type}
  {s s' : Store}

/-- A decrypted account carries the consent and the external identifier of its row. -/
theorem externe_intoBankAccount {a : BankAccountRow} {compte : BankAccount}
    (h : BankAccounts.intoBankAccount crypto a = .ok compte) :
    compte.consent = a.consentId ∧ a.externe crypto = some compte.externalAccountId := by
  obtain ⟨externe, hclair, hcompte⟩ := Traversal.bind_eq_ok.1 h
  obtain rfl := Except.ok.inj hcompte
  unfold BankAccountRow.externe
  rw [hclair]
  exact ⟨rfl, rfl⟩

/-- The balances of a row are read for the account it decrypts to. -/
private theorem compte_of_avecSoldes {a : BankAccountRow} {compte : CompteAvecSolde}
    (h : Answers (machine col) (BankAccounts.avecSoldes crypto a) s compte s') :
    s' = s ∧ BankAccounts.intoBankAccount crypto a = .ok compte.compte := by
  obtain ⟨lu, s₁, hlecture, hsuite⟩ := answers_bind.1 h
  obtain ⟨hlu, rfl⟩ := answers_ofExcept.1 hlecture
  obtain ⟨solde, s₂, hsolde, hreste⟩ := answers_bind.1 hsuite
  obtain ⟨rfl, -⟩ := solde_of_answers hsolde
  obtain ⟨aVenir, s₃, haVenir, hfin⟩ := answers_bind.1 hreste
  obtain ⟨ligne, s₄, hligne, hlue⟩ := answers_bind.1 haVenir
  obtain ⟨x, -, heffet⟩ := answers_interrogerChiffre.1 hligne
  obtain ⟨rfl, rfl⟩ := lire_eq_ok.1 heffet
  have hs₃ : s₃ = s₄ := by
    split at hlue
    · obtain ⟨balance, s₅, hbalance, hpure⟩ := answers_bind.1 hlue
      obtain ⟨-, rfl⟩ := answers_ofExcept.1 hbalance
      exact (answers_pure.1 hpure).2
    · exact (answers_pure.1 hlue).2
  obtain ⟨rfl, rfl⟩ := answers_pure.1 hfin
  exact ⟨hs₃, hlu⟩

/-- The accounts of a consolidated balance are the rows of the user, each decrypted. -/
private theorem comptes_of_getConsolidatedBalance {solde : SoldeConsolide}
    (h : Answers (machine col) (Handlers.getConsolidatedBalance crypto A) s solde s') :
    ∃ (rows : List BankAccountRow) (comptes : List CompteAvecSolde),
      rows.Perm (s.bankAccount.select fun a => a.ownerId = A) ∧
      solde = SoldeConsolide.consolider comptes ∧
      List.Forall₂ (fun a compte => BankAccounts.intoBankAccount crypto a =
        .ok (CompteAvecSolde.compte compte)) rows comptes := by
  obtain ⟨comptes, s₁, hcomptes, hfin⟩ := answers_bind.1 h
  obtain ⟨rfl, rfl⟩ := answers_pure.1 hfin
  obtain ⟨rows, s₂, hrows, hlus⟩ :=
    answers_bind.1 (answers_mapError.1 (answers_mapError.1 hcomptes))
  obtain ⟨x, -, heffet⟩ := answers_interrogerChiffre.1 hrows
  obtain ⟨rfl, rfl⟩ := lire_eq_ok.1 heffet
  have hlit : ∀ (a : BankAccountRow) compte s', Answers (machine col)
      (BankAccounts.avecSoldes crypto a) s₂ compte s' → s' = s₂ :=
    fun a compte s' h => (compte_of_avecSoldes h).1
  obtain ⟨-, htous⟩ := (answers_mapM hlit).1 hlus
  refine ⟨sortBy BankAccountRow.createdAt (arrange BankAccountRow.id x.rang
    (s₂.bankAccount.select fun a => a.ownerId = A)), comptes, ?_, rfl, ?_⟩
  · exact (perm_sortBy _ _).trans (perm_arrange _ _ _)
  · exact htous.imp fun a compte h => (compte_of_avecSoldes h).2

/-- A key that tells the rows of the user apart counts each account once. -/
private theorem soldeSansDoublon_of {cle : BankAccount → κ} {k : BankAccountRow → κ}
    (hcle : ∀ a ∈ s.bankAccount, ∀ compte, BankAccounts.intoBankAccount crypto a = .ok compte →
      cle compte = k a)
    (hinj : ∀ a ∈ s.bankAccount, ∀ b ∈ s.bankAccount, a.ownerId = A → b.ownerId = A →
      k a = k b → a = b) : SoldeSansDoublon col crypto A s cle := by
  intro solde s' hsolde
  obtain ⟨rows, comptes, hrows, rfl, hlus⟩ := comptes_of_getConsolidatedBalance hsolde
  refine ⟨totalCents_consolider comptes, ?_⟩
  have hmem : ∀ a ∈ rows, a ∈ s.bankAccount ∧ a.ownerId = A := by
    intro a ha
    have hselect := Table.mem_select.1 (hrows.mem_iff.1 ha)
    exact ⟨hselect.1, by simpa using hselect.2⟩
  have hcles : comptes.map (fun c => cle c.compte) = rows.map k := by
    have hall : ∀ a ∈ rows, a ∈ s.bankAccount := fun a ha => (hmem a ha).1
    clear hrows hsolde hmem
    induction hlus with
    | nil => rfl
    | cons hlu _ ih =>
        rw [List.map_cons, List.map_cons, hcle _ (hall _ List.mem_cons_self) _ hlu,
          ih fun a ha => hall a (List.mem_cons_of_mem _ ha)]
  have hnodup : (comptes.map fun c => cle c.compte).Nodup := by
    rw [hcles]
    refine List.Nodup.map_on ?_ ?_
    · intro a ha b hb heq
      exact hinj a (hmem a ha).1 b (hmem b hb).1 (hmem a ha).2 (hmem b hb).2 heq
    · exact hrows.nodup_iff.2 (s.bankAccount.nodup.of_map.sublist List.filter_sublist)
  exact hnodup.sublist (List.filter_sublist.map _)

/-- A key that tells the rows apart counts each movement once. -/
private theorem totauxSansDoublon_of {cle : BankTransactionRow → κ}
    (hinj : ∀ t ∈ s.bankTransaction, ∀ u ∈ s.bankTransaction, s.txDe A t = true →
      s.txDe A u = true → cle t = cle u → t = u) : TotauxSansDoublon col crypto A s cle := by
  intro c sens
  have hmem : ∀ t ∈ s.retenues crypto A c sens,
      t ∈ s.bankTransaction ∧ s.Retenue crypto A c sens t := by
    intro t ht
    have hselect := Table.mem_select.1 ht
    exact ⟨hselect.1, by simpa using hselect.2⟩
  constructor
  · refine List.Nodup.map_on ?_ ?_
    · intro t ht u hu heq
      exact hinj t (hmem t ht).1 u (hmem u hu).1 (hmem t ht).2.1 (hmem u hu).2.1 heq
    · exact s.bankTransaction.nodup.of_map.sublist List.filter_sublist
  · intro totaux s' htotaux
    obtain ⟨-, -, hspec⟩ := spec_montantsParCategorie.answers htotaux
    obtain ⟨lignes, rfl, hperm⟩ := hspec totaux rfl
    refine ⟨lignes, ?_, hperm⟩
    have hretenues : lignes.filter (fun l => sens.retient l.2) = lignes := by
      refine List.filter_eq_self.2 fun ligne hligne => ?_
      obtain ⟨t, ht, rfl⟩ := List.mem_map.1 (hperm.mem_iff.1 hligne)
      exact (retenue_iff.1 (hmem t ht).2).2
    unfold Depenses.totauxParCategorie
    rw [hretenues]

end Pages

section Result

variable {col : Collation} {cfg : Configuration} {s₀ s : Store} {l : List (Etape col cfg)}

/-- In every database of a run, each account of a consent is in the consolidated balance once
at most, and each transaction of an account of a consent once at most in the totals of a cycle;
for a user who has each account under one consent, this says of each account of the bank and of
each of its transactions that it counts once. -/
theorem comptage_unique (h₀ : s₀.Amorcee) (h : Execution col cfg s₀ l s)
    (hfiable : cfg.crypto.Fiable) (A : ProprietaireId) :
    SoldeSansDoublon col cfg.crypto A s (fun c => (c.consent, c.externalAccountId)) ∧
      TotauxSansDoublon col cfg.crypto A s (s.identite cfg.crypto) ∧
      (s.AttacheUneFois cfg.crypto A →
        SoldeSansDoublon col cfg.crypto A s BankAccount.externalAccountId ∧
          TotauxSansDoublon col cfg.crypto A s fun t =>
            (s.identite cfg.crypto t).map Prod.snd) := by
  obtain ⟨hi, hcomptes, htransactions⟩ := execution_scelles h₀ h hfiable
  refine ⟨?_, ?_, fun hune => ⟨?_, ?_⟩⟩
  · refine soldeSansDoublon_of
      (k := fun a => (a.consentId, (a.externe cfg.crypto).getD "")) ?_ ?_
    · intro a _ compte hlu
      obtain ⟨hconsent, hexterne⟩ := externe_intoBankAccount hlu
      rw [hconsent, hexterne]
      rfl
    · intro a ha b hb _ _ heq
      obtain ⟨hconsent, hexterne⟩ := Prod.mk.inj heq
      exact hcomptes.eq_of_externe hi ha hb hconsent (hcomptes.externe_inj ha hb hexterne)
  · exact totauxSansDoublon_of fun t ht u hu _ _ heq =>
      htransactions.eq_of_identite hcomptes hi ht hu heq
  · refine soldeSansDoublon_of (k := fun a => (a.externe cfg.crypto).getD "") ?_ ?_
    · intro a _ compte hlu
      rw [(externe_intoBankAccount hlu).2]
      rfl
    · intro a ha b hb hA hB heq
      have hexterne := hcomptes.externe_inj ha hb heq
      exact hcomptes.eq_of_externe hi ha hb (hune a ha b hb hA hB hexterne) hexterne
  · refine totauxSansDoublon_of fun t ht u hu hA hB heq => ?_
    exact htransactions.eq_of_identite hcomptes hi ht hu
      (htransactions.identite_eq_of_snd hcomptes hune ht hu hA hB heq)

end Result

/-! ## One account attached twice -/

/-- A movement of the day the clock stands still on. -/
def mouvementDuJour : TransactionBancaire :=
  { id := Uuid.fromU128 0, bankAccount := Uuid.fromU128 0, externalTransactionId := "T1",
    status := .booked, label := "CARTE", amountCents := -500, currency := "EUR",
    bookingDate := some (DateTime.dateNaive 0), valueDate := none, category := none,
    enveloppe := none, categorizationSource := .none, ruleId := none, isRecurrent := false,
    recurrenceInterval := none, createdAt := 0 }

/-- A bank with one account, which has one movement. -/
def unMouvement : Scenario :=
  { Scenario.unCompte with transactions := fun _ => .ok [mouvementDuJour] }

/-- The user attaches the account, then attaches it again under another consent. -/
def deuxRattachements : List Operation :=
  [.createConsent "alice" "banque", .completeConsent "alice" reponseBanque,
   .createConsent "alice" "banque",
   .completeConsent "alice" ⟨"code", (Uuid.fromU128 1014).toText⟩, .synchroniser]

/-- A bank with two accounts, which have one movement each. -/
def deuxMouvements : Scenario :=
  { Scenario.deuxComptes with transactions := fun _ => .ok [mouvementDuJour] }

/-- The user attaches them under one consent. -/
def unRattachement : List Operation :=
  [.createConsent "alice" "banque", .completeConsent "alice" reponseBanque, .synchroniser]

/-- The account has two rows, and so has its movement: each counts once under its consent.  Two
accounts attached once count once, whatever the consent. -/
theorem comptage_unique_rattachements :
    ((unMouvement.fin deuxRattachements).bankAccount.rows.map BankAccountRow.consentId =
        [Uuid.fromU128 1000, Uuid.fromU128 1014] ∧
      (unMouvement.fin deuxRattachements).bankTransaction.rows.length = 2 ∧
      SoldeSansDoublon Scenario.collation enClair "alice" (unMouvement.fin deuxRattachements)
        (fun c => (c.consent, c.externalAccountId)) ∧
      TotauxSansDoublon Scenario.collation enClair "alice" (unMouvement.fin deuxRattachements)
        ((unMouvement.fin deuxRattachements).identite enClair)) ∧
    ((deuxMouvements.fin unRattachement).bankAccount.rows.map BankAccountRow.consentId =
        [Uuid.fromU128 1000, Uuid.fromU128 1000] ∧
      (deuxMouvements.fin unRattachement).bankTransaction.rows.length = 2 ∧
      SoldeSansDoublon Scenario.collation enClair "alice" (deuxMouvements.fin unRattachement)
        BankAccount.externalAccountId ∧
      TotauxSansDoublon Scenario.collation enClair "alice" (deuxMouvements.fin unRattachement)
        fun t => ((deuxMouvements.fin unRattachement).identite enClair t).map Prod.snd) := by
  constructor
  · obtain ⟨hsolde, htotaux, -⟩ := comptage_unique amorcee_amorcee
      (unMouvement.execution deuxRattachements) fiable_enClair "alice"
    obtain ⟨hcomptes, hmouvements⟩ :
        (unMouvement.fin deuxRattachements).bankAccount.rows.map BankAccountRow.consentId =
          [Uuid.fromU128 1000, Uuid.fromU128 1014] ∧
        (unMouvement.fin deuxRattachements).bankTransaction.rows.length = 2 := by
      decide +kernel
    exact ⟨hcomptes, hmouvements, hsolde, htotaux⟩
  · obtain ⟨hcomptes, hmouvements, hconsent⟩ :
        (deuxMouvements.fin unRattachement).bankAccount.rows.map BankAccountRow.consentId =
          [Uuid.fromU128 1000, Uuid.fromU128 1000] ∧
        (deuxMouvements.fin unRattachement).bankTransaction.rows.length = 2 ∧
        ∀ a ∈ (deuxMouvements.fin unRattachement).bankAccount.rows,
          a.consentId = Uuid.fromU128 1000 := by
      decide +kernel
    have hune : (deuxMouvements.fin unRattachement).AttacheUneFois enClair "alice" := by
      intro a ha b hb _ _ _
      exact (hconsent a ha).trans (hconsent b hb).symm
    obtain ⟨-, -, hrattache⟩ := comptage_unique amorcee_amorcee
      (deuxMouvements.execution unRattachement) fiable_enClair "alice"
    exact ⟨hcomptes, hmouvements, hrattache hune⟩

end Budgy
