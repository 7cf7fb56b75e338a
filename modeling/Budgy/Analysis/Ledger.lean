import Budgy.Analysis.RepositoryOutcomes
import Budgy.Analysis.Settings
import Budgy.Analysis.SingleCounting
import Budgy.Analysis.TransactionLife
import Budgy.Interface.Ledger

/-!
# The ledger of the transactions

What the table of the transactions says is a ledger: under an account and an identifier of
the bank, one entry.  The first observation opens it, and the first booked one dates it; the
other columns are about classification.  One statement acts on the ledger as one observation,
the deletion of accounts closes their entries, and the other statements leave it.
-/

set_option autoImplicit false

namespace Budgy

open Effects Relational

/-! ## Entries -/

/-- What the ledger says of a transaction. -/
structure Ecriture where
  status : TransactionStatus
  label : String
  amountCents : ℤ
  currency : String
  bookingDate : Option NaiveDate
  valueDate : Option NaiveDate

/-- What tells a transaction of the bank apart: its account and its identifier. -/
def NouvelleTransactionBancaire.identite (n : NouvelleTransactionBancaire) :
    BankAccountId × String := (n.bankAccount, n.externalTransactionId)

/-- What is written of it. -/
def NouvelleTransactionBancaire.ecriture (n : NouvelleTransactionBancaire) : Ecriture :=
  ⟨n.status, n.label, n.amountCents, n.currency, n.bookingDate, n.valueDate⟩

/-- A booked observation dates a pending entry. -/
def Ecriture.reviser (e : Ecriture) (n : NouvelleTransactionBancaire) : Ecriture :=
  if e.status = .pending ∧ n.status = .booked then
    { e with status := n.status, bookingDate := n.bookingDate, valueDate := n.valueDate }
  else e

/-- How the observations of the bank make the ledger. -/
def releves : Ledger.Rule (BankAccountId × String) NouvelleTransactionBancaire Ecriture :=
  ⟨NouvelleTransactionBancaire.identite, NouvelleTransactionBancaire.ecriture, Ecriture.reviser⟩

/-- An observation is of its identity. -/
@[simp]
theorem key_releves (n : NouvelleTransactionBancaire) : releves.key n = n.identite := rfl

/-- The first observation of a transaction is written as it is. -/
@[simp]
theorem entry_releves_none (n : NouvelleTransactionBancaire) :
    releves.entry none n = n.ecriture := rfl

/-- A later observation revises what is written. -/
@[simp]
theorem entry_releves_some (e : Ecriture) (n : NouvelleTransactionBancaire) :
    releves.entry (some e) n = e.reviser n := rfl

/-- Only the booking of a pending transaction revises it. -/
theorem Ecriture.reviser_eq_self {e : Ecriture} {n : NouvelleTransactionBancaire}
    (h : ¬ (e.status = .pending ∧ n.status = .booked)) : e.reviser n = e := if_neg h

/-- What stays pending was pending, and was not booked. -/
theorem Ecriture.status_reviser {e : Ecriture} {n : NouvelleTransactionBancaire}
    (h : (e.reviser n).status = .pending) : e.status = .pending ∧ n.status ≠ .booked := by
  unfold Ecriture.reviser at h
  split at h
  · rename_i hdate
    exact absurd (hdate.2.symm.trans h) (by simp)
  · rename_i hgarde
    exact ⟨h, fun hbooked => hgarde ⟨h, hbooked⟩⟩

/-- What is written does not change once every observation of it has been made. -/
theorem releves_settles : releves.Settles where
  opened n := by
    apply Ecriture.reviser_eq_self
    rintro ⟨hpending, hbooked⟩
    exact nomatch hpending.symm.trans hbooked
  revised e n := by
    apply Ecriture.reviser_eq_self
    rintro ⟨hpending, hbooked⟩
    exact (Ecriture.status_reviser hpending).2 hbooked
  stays e n n' h := by
    apply Ecriture.reviser_eq_self
    rintro ⟨hpending, hbooked⟩
    have hstatus : (e.reviser n).status = n.status := by
      exact congrArg Ecriture.status (if_pos ⟨(Ecriture.status_reviser hpending).1, hbooked⟩)
    have hsame : e.status = n.status := (congrArg Ecriture.status h).symm.trans hstatus
    exact nomatch ((Ecriture.status_reviser hpending).1.symm.trans hsame).trans hbooked

/-! ## The ledger of a database -/

/-- What a row says, once read: an identity and an entry. -/
def BankTransactionRow.inscription (crypto : CryptoService) (owner : ProprietaireId)
    (t : BankTransactionRow) : Option ((BankAccountId × String) × Ecriture) :=
  (BankTransactions.intoTransaction crypto ⟨t, owner⟩).toOption.map fun lue =>
    ((lue.bankAccount, lue.externalTransactionId),
      ⟨lue.status, lue.label, lue.amountCents, lue.currency, lue.bookingDate, lue.valueDate⟩)

/-- What a row says of a transaction of the bank. -/
def Store.inscription (crypto : CryptoService) (s : Store) (t : BankTransactionRow) :
    Option ((BankAccountId × String) × Ecriture) :=
  (s.proprietaireDuCompte t.bankAccountId).bind fun owner => t.inscription crypto owner

/-- The ledger, as the rows are read. -/
def Store.grandLivre (crypto : CryptoService) (s : Store) (k : BankAccountId × String) :
    Option Ecriture :=
  ((s.bankTransaction.rows.filterMap (s.inscription crypto)).find? fun i => i.1 = k).map Prod.snd

/-- The accounts that a database has. -/
def Store.aCompte (s : Store) (compte : BankAccountId) : Bool :=
  (s.proprietaireDuCompte compte).isSome

/-- The entries of the accounts that a database still has. -/
def Store.gardees (s : Store) (g : BankAccountId × String → Option Ecriture)
    (k : BankAccountId × String) : Option Ecriture :=
  if s.aCompte k.1 then g k else none

/-- The keys of the rows are those of messages of `U`. -/
structure Store.Tenu (crypto : CryptoService) (U : Set (List UInt8)) (s : Store) : Prop where
  integre : s.Integre
  scellees : ∀ t ∈ s.bankTransaction, ∃ A externe,
    s.proprietaireDuCompte t.bankAccountId = some A ∧ t.Scellee crypto A externe ∧
      CryptoService.messageDedup t.bankAccountId.asBytes externe ∈ U

section Rows

variable {crypto : CryptoService} {U : Set (List UInt8)} {s s' : Store} {A : ProprietaireId}
  {t u : BankTransactionRow} {k : BankAccountId × String} {e : Ecriture}

/-- The three encrypted columns of a row, read for `A`. -/
structure BankTransactionRow.Clair (crypto : CryptoService) (A : ProprietaireId)
    (t : BankTransactionRow) (externe label : String) (montant : ℤ) : Prop where
  externe : dechiffrerTexte crypto A "bank_transaction" "external_transaction_id"
    t.externalTransactionId = .ok externe
  label : dechiffrerTexte crypto A "bank_transaction" "label" t.label = .ok label
  montant : dechiffrerMontant crypto A "bank_transaction" "amount_cents" t.amountCents =
    .ok montant

/-- A row that can be read says what it holds. -/
theorem BankTransactionRow.Clair.inscription {externe label : String} {montant : ℤ}
    (h : t.Clair crypto A externe label montant) :
    t.inscription crypto A = some ((t.bankAccountId, externe),
      ⟨t.status, label, montant, t.currency, t.bookingDate, t.valueDate⟩) := by
  unfold BankTransactionRow.inscription BankTransactions.intoTransaction
  simp only [h.externe, h.label, h.montant]
  rfl

/-- A row that says something can be read. -/
theorem exists_clair (h : t.inscription crypto A = some (k, e)) :
    ∃ externe label montant, t.Clair crypto A externe label montant := by
  unfold BankTransactionRow.inscription BankTransactions.intoTransaction at h
  cases hexterne : dechiffrerTexte crypto A "bank_transaction" "external_transaction_id"
      t.externalTransactionId with
  | error _ =>
      simp only [hexterne] at h
      cases h
  | ok externe =>
      cases hlabel : dechiffrerTexte crypto A "bank_transaction" "label" t.label with
      | error _ =>
          simp only [hexterne, hlabel] at h
          cases h
      | ok label =>
          cases hmontant : dechiffrerMontant crypto A "bank_transaction" "amount_cents"
              t.amountCents with
          | error _ =>
              simp only [hexterne, hlabel, hmontant] at h
              cases h
          | ok montant => exact ⟨externe, label, montant, hexterne, hlabel, hmontant⟩

/-- A row is entered under its account, which has an owner, and under the identifier that its
key was made from. -/
theorem Store.Tenu.cle_inscription (h : s.Tenu crypto U) (ht : t ∈ s.bankTransaction)
    (hdit : s.inscription crypto t = some (k, e)) :
    k.1 = t.bankAccountId ∧ t.dedupKey = dedupKeyTransaction crypto k.1 k.2 ∧
      CryptoService.messageDedup k.1.asBytes k.2 ∈ U ∧
      ∃ A, s.proprietaireDuCompte k.1 = some A := by
  obtain ⟨A, externe, hA, hscellee, hU⟩ := h.scellees t ht
  rw [Store.inscription, hA, Option.bind_some] at hdit
  obtain ⟨externe', label, montant, hclair⟩ := exists_clair hdit
  obtain rfl : externe' = externe := Except.ok.inj (hclair.externe.symm.trans hscellee.clair)
  obtain rfl : k = (t.bankAccountId, externe') :=
    congrArg Prod.fst (Option.some.inj (hdit.symm.trans hclair.inscription))
  exact ⟨rfl, hscellee.cle, hU, A, hA⟩

/-- It says the status that it has. -/
theorem status_of_inscription (hdit : s.inscription crypto t = some (k, e)) :
    e.status = t.status := by
  obtain ⟨A, hA, hrow⟩ := Option.bind_eq_some_iff.1 hdit
  obtain ⟨externe, label, montant, hclair⟩ := exists_clair hrow
  obtain ⟨rfl, rfl⟩ := Prod.mk.inj (Option.some.inj (hrow.symm.trans hclair.inscription))
  rfl

/-- In a database that can be read, every row says something. -/
theorem Store.Tenu.exists_inscription (h : s.Tenu crypto U) (hs : s.Relisible crypto)
    (hfiable : crypto.Fiable) (ht : t ∈ s.bankTransaction) :
    ∃ k e, s.inscription crypto t = some (k, e) := by
  obtain ⟨A, externe, hA, hscellee, -⟩ := h.scellees t ht
  have hchiffree := hs.transactions t ht A hA
  obtain ⟨label, hlabel⟩ := hchiffree.label.dechiffrable hfiable
  obtain ⟨montant, hmontant⟩ := hchiffree.montant.dechiffrable hfiable
  have hclair : t.Clair crypto A externe label montant := ⟨hscellee.clair, hlabel, hmontant⟩
  have hdit : s.inscription crypto t = some ((t.bankAccountId, externe),
      ⟨t.status, label, montant, t.currency, t.bookingDate, t.valueDate⟩) := by
    rw [Store.inscription, hA, Option.bind_some, hclair.inscription]
  exact ⟨_, _, hdit⟩

/-- Two rows that say the same identity are one. -/
theorem Store.Tenu.row_unique (h : s.Tenu crypto U) (ht : t ∈ s.bankTransaction)
    (hu : u ∈ s.bankTransaction) {e' : Ecriture} (hk : s.inscription crypto t = some (k, e))
    (hk' : s.inscription crypto u = some (k, e')) : t = u := by
  apply h.integre.transactionUnique t ht u hu
  rw [(h.cle_inscription ht hk).2.1, (h.cle_inscription hu hk').2.1]

/-- The ledger of the database is what its rows say. -/
theorem Store.Tenu.grandLivre_eq_some (h : s.Tenu crypto U) :
    s.grandLivre crypto k = some e ↔
      ∃ t ∈ s.bankTransaction, s.inscription crypto t = some (k, e) := by
  unfold Store.grandLivre
  rw [Option.map_eq_some_iff]
  constructor
  · rintro ⟨⟨k', e'⟩, hfind, rfl⟩
    obtain rfl : k' = k := by simpa using List.find?_some hfind
    obtain ⟨t, ht, hdit⟩ := List.mem_filterMap.1 (List.mem_of_find?_eq_some hfind)
    exact ⟨t, ht, hdit⟩
  · rintro ⟨t, ht, hdit⟩
    have hmem : (k, e) ∈ s.bankTransaction.rows.filterMap (s.inscription crypto) :=
      List.mem_filterMap.2 ⟨t, ht, hdit⟩
    cases hfind : (s.bankTransaction.rows.filterMap (s.inscription crypto)).find?
        fun i => i.1 = k with
    | none => exact absurd (List.find?_eq_none.1 hfind _ hmem) (by simp)
    | some i =>
        obtain ⟨k', e'⟩ := i
        obtain rfl : k' = k := by simpa using List.find?_some hfind
        obtain ⟨u, hu, hdit'⟩ := List.mem_filterMap.1 (List.mem_of_find?_eq_some hfind)
        obtain rfl := h.row_unique ht hu hdit hdit'
        have heq : e = e' := congrArg Prod.snd (Option.some.inj (hdit.symm.trans hdit'))
        exact ⟨_, rfl, heq.symm⟩

/-- Two ledgers that say the same entries are equal. -/
theorem ledger_ext {g g' : BankAccountId × String → Option Ecriture}
    (h : ∀ k e, g k = some e ↔ g' k = some e) : g = g' :=
  funext fun k => Option.ext fun e => h k e

/-- The entries that are kept are those of the accounts that are left. -/
theorem gardees_eq_some {g : BankAccountId × String → Option Ecriture} :
    s.gardees g k = some e ↔ (∃ A, s.proprietaireDuCompte k.1 = some A) ∧ g k = some e := by
  rw [← Option.isSome_iff_exists]
  unfold Store.gardees Store.aCompte
  split
  · rename_i hcompte
    exact ⟨fun h => ⟨hcompte, h⟩, And.right⟩
  · rename_i hcompte
    exact ⟨nofun, fun h => absurd h.1 hcompte⟩

/-- A database that says one entry more, or another one, and the same others. -/
theorem Store.Tenu.grandLivre_update (h : s.Tenu crypto U) (h' : s'.Tenu crypto U)
    (ht : t ∈ s'.bankTransaction) (hdit : s'.inscription crypto t = some (k, e))
    (hautres : ∀ k' e', k' ≠ k →
      ((∃ u ∈ s'.bankTransaction, s'.inscription crypto u = some (k', e')) ↔
        ∃ u ∈ s.bankTransaction, s.inscription crypto u = some (k', e'))) :
    s'.grandLivre crypto = Function.update (s.grandLivre crypto) k (some e) := by
  apply ledger_ext
  intro k' e'
  by_cases hk : k' = k
  · subst hk
    rw [Function.update_self, h'.grandLivre_eq_some.2 ⟨t, ht, hdit⟩]
  · rw [Function.update_of_ne hk, h'.grandLivre_eq_some, h.grandLivre_eq_some]
    exact hautres k' e' hk

/-- The account of an entry exists. -/
theorem Store.Tenu.gardees_eq (h : s.Tenu crypto U) :
    s.gardees (s.grandLivre crypto) = s.grandLivre crypto := by
  apply ledger_ext
  intro k e
  rw [gardees_eq_some]
  constructor
  · exact And.right
  · intro hk
    refine ⟨?_, hk⟩
    obtain ⟨t, ht, hdit⟩ := h.grandLivre_eq_some.1 hk
    exact (h.cle_inscription ht hdit).2.2.2

end Rows

/-! ## What a statement makes of the ledger -/

section Statements

variable {col : Collation} {crypto : CryptoService} {U : Set (List UInt8)} {x : ChoixSql}
  {s s' : Store} {r : Requete} {v : r.Reponse} {A : ProprietaireId}
  {t t₀ : BankTransactionRow}

/-- The columns that the ledger reads. -/
theorem inscription_congr (hcompte : t.bankAccountId = t₀.bankAccountId)
    (hexterne : t.externalTransactionId = t₀.externalTransactionId) (hlabel : t.label = t₀.label)
    (hmontant : t.amountCents = t₀.amountCents) (hstatus : t.status = t₀.status)
    (hcurrency : t.currency = t₀.currency) (hbooking : t.bookingDate = t₀.bookingDate)
    (hvalue : t.valueDate = t₀.valueDate) :
    t.inscription crypto A = t₀.inscription crypto A := by
  unfold BankTransactionRow.inscription BankTransactions.intoTransaction
  simp only [hexterne, hlabel, hmontant]
  cases dechiffrerTexte crypto A "bank_transaction" "external_transaction_id"
      t₀.externalTransactionId with
  | error e => rfl
  | ok externe =>
      cases dechiffrerTexte crypto A "bank_transaction" "label" t₀.label with
      | error e => rfl
      | ok label =>
          cases dechiffrerMontant crypto A "bank_transaction" "amount_cents" t₀.amountCents with
          | error e => rfl
          | ok montant =>
              show some _ = some _
              rw [hcompte, hstatus, hcurrency, hbooking, hvalue]

/-- A statement that observes nothing changes nothing that the ledger reads of a row. -/
theorem BankTransactionRow.Devient.inscription (h : BankTransactionRow.Devient s t₀ r t)
    (hr : ∀ l, r ≠ .transaction (.insert l)) :
    t.inscription crypto A = t₀.inscription crypto A := by
  cases h
  case observee l _ _ _ => exact absurd rfl (hr l)
  all_goals exact inscription_congr rfl rfl rfl rfl rfl rfl rfl rfl

/-- The account is there. -/
theorem aCompte_eq_true {compte : BankAccountId} :
    s.aCompte compte = true ↔ ∃ a ∈ s.bankAccount, a.id = compte := by
  simp only [Store.aCompte, Option.isSome_iff_exists, Store.proprietaireDuCompte_eq_some]
  constructor
  · rintro ⟨A, a, ha, hid, -⟩
    exact ⟨a, ha, hid⟩
  · rintro ⟨a, ha, hid⟩
    exact ⟨a.ownerId, a, ha, hid, rfl⟩

/-- What a row becomes says the same. -/
theorem inscription_devient (heffet : r.effet col x s = .ok (v, s')) (hi : s.Integre)
    (hi' : s'.Integre) (hr : ∀ l, r ≠ .transaction (.insert l)) (ht : t ∈ s'.bankTransaction)
    (ht₀ : t₀ ∈ s.bankTransaction) (hdevient : BankTransactionRow.Devient s t₀ r t) :
    s'.inscription crypto t = s.inscription crypto t₀ := by
  obtain ⟨a, ha, hid⟩ := hi'.transactionCompte t ht
  have hA : s'.proprietaireDuCompte t.bankAccountId = some a.ownerId :=
    Store.proprietaireDuCompte_eq_some.2 ⟨a, ha, hid, rfl⟩
  have hA₀ := hi.proprietaire_effet heffet ht ht₀ hdevient.meme hA
  rw [Store.inscription, Store.inscription, hA, hA₀, Option.bind_some, Option.bind_some]
  exact hdevient.inscription hr

/-- The deletion of some accounts leaves the transactions of the others. -/
theorem mem_supprimerComptes {p : BankAccountRow → Bool} (ht : t ∈ s.bankTransaction)
    (hcompte : ∃ a ∈ (s.supprimerComptes p).bankAccount, a.id = t.bankAccountId) :
    t ∈ (s.supprimerComptes p).bankTransaction := by
  obtain ⟨a, ha, hid⟩ := hcompte
  obtain ⟨ha, hp⟩ := Table.mem_delete.1 ha
  refine Table.mem_delete.2 ⟨ht, ?_⟩
  apply Table.any_eq_false.2
  intro b hb
  by_cases hb' : b.id = t.bankAccountId
  · have heq : b = a := Table.eq_of_key_eq hb ha (hb'.trans hid.symm)
    simp [heq, hp]
  · simp [hb']

/-- A row whose account stays is still there. -/
theorem transaction_gardee (heffet : r.effet col x s = .ok (v, s'))
    (ht : t₀ ∈ s.bankTransaction) (hcompte : s'.aCompte t₀.bankAccountId = true) :
    ∃ t ∈ s'.bankTransaction, BankTransactionRow.Devient s t₀ r t := by
  have hcompte := aCompte_eq_true.1 hcompte
  by_cases hcomptes : ∃ owner, r = .compte (.supprimerParProprietaire owner)
  · obtain ⟨owner, rfl⟩ := hcomptes
    obtain ⟨-, rfl⟩ := by simpa [Requete.effet, RequeteCompte.effet] using heffet
    exact ⟨t₀, mem_supprimerComptes ht hcompte, .intacte _⟩
  by_cases hconsents : ∃ owner, r = .consent (.supprimerParProprietaire owner)
  · obtain ⟨owner, rfl⟩ := hconsents
    obtain ⟨-, rfl⟩ := by simpa [Requete.effet, RequeteConsent.effet] using heffet
    exact ⟨t₀, mem_supprimerComptes ht hcompte, .intacte _⟩
  · push Not at hcomptes hconsents
    exact transaction_effet_reste heffet ht hcomptes hconsents

/-- A statement that observes nothing keeps the entries of the accounts that stay. -/
theorem grandLivre_effet (heffet : r.effet col x s = .ok (v, s')) (h : s.Tenu crypto U)
    (h' : s'.Tenu crypto U) (hr : ∀ l, r ≠ .transaction (.insert l)) :
    s'.grandLivre crypto = s'.gardees (s.grandLivre crypto) := by
  apply ledger_ext
  intro k e
  rw [gardees_eq_some, h'.grandLivre_eq_some, h.grandLivre_eq_some]
  constructor
  · rintro ⟨t, ht, hdit⟩
    refine ⟨(h'.cle_inscription ht hdit).2.2.2, ?_⟩
    rcases transaction_effet heffet ht with ⟨t₀, ht₀, hdevient⟩ | ⟨l, hl, -⟩
    · have hsame : s'.inscription crypto t = s.inscription crypto t₀ :=
        inscription_devient heffet h.integre h'.integre hr ht ht₀ hdevient
      exact ⟨t₀, ht₀, hsame.symm.trans hdit⟩
    · exact absurd hl (hr l)
  · rintro ⟨⟨A, hA⟩, t₀, ht₀, hdit₀⟩
    have hcompte : s'.aCompte t₀.bankAccountId = true := by
      rw [← (h.cle_inscription ht₀ hdit₀).1, Store.aCompte, hA]
      rfl
    obtain ⟨t, ht, hdevient⟩ := transaction_gardee heffet ht₀ hcompte
    exact ⟨t, ht, (inscription_devient heffet h.integre h'.integre hr ht ht₀ hdevient).trans
      hdit₀⟩

/-- A statement that observes nothing keeps the keys. -/
theorem Store.Tenu.effet (h : s.Tenu crypto U) (hi' : s'.Integre)
    (heffet : r.effet col x s = .ok (v, s')) (hr : ∀ l, r ≠ .transaction (.insert l)) :
    s'.Tenu crypto U := by
  refine ⟨hi', ?_⟩
  intro t ht
  obtain ⟨a, ha, hid⟩ := hi'.transactionCompte t ht
  have hA : s'.proprietaireDuCompte t.bankAccountId = some a.ownerId :=
    Store.proprietaireDuCompte_eq_some.2 ⟨a, ha, hid, rfl⟩
  rcases transaction_effet heffet ht with ⟨t₀, ht₀, hdevient⟩ | ⟨l, hl, -⟩
  · have hmeme := hdevient.meme
    obtain ⟨B, externe, hB, hscellee, hU⟩ := h.scellees t₀ ht₀
    have hA₀ := h.integre.proprietaire_effet heffet ht ht₀ hmeme hA
    obtain rfl : B = a.ownerId := Option.some.inj (hB.symm.trans hA₀)
    refine ⟨a.ownerId, externe, hA, ⟨?_, ?_⟩, ?_⟩
    · rw [hmeme.externalTransactionId]
      exact hscellee.clair
    · rw [hmeme.dedupKey, hmeme.bankAccountId]
      exact hscellee.cle
    · rw [hmeme.bankAccountId]
      exact hU
  · exact absurd hl (hr l)

end Statements

/-! ## What an observation makes of the ledger -/

section Observation

variable {col : Collation} {crypto : CryptoService} {U : Set (List UInt8)} {x : ChoixSql}
  {s s' : Store} {l : InsertionTransaction} {v : Option (Uuid × Bool)} {A : ProprietaireId}
  {n : NouvelleTransactionBancaire}

/-- The row that an observation inserts says the observation. -/
theorem inscription_ligne (hfiable : crypto.Fiable) (hl : l.Releve crypto A n)
    (hmontant : EstI64 n.amountCents) :
    (RequeteTransaction.ligneTransaction x l).inscription crypto A =
      some (n.identite, n.ecriture) := by
  obtain ⟨nonce₁, hexterne⟩ := hl.externe
  obtain ⟨nonce₂, hlabel⟩ := hl.label
  obtain ⟨nonce₃, hamount⟩ := hl.montant
  have hclair : (RequeteTransaction.ligneTransaction x l).Clair crypto A
      n.externalTransactionId n.label n.amountCents :=
    ⟨dechiffrerTexte_chiffrerTexte hfiable hexterne,
      dechiffrerTexte_chiffrerTexte hfiable hlabel,
      dechiffrerMontant_chiffrerMontant hfiable hmontant hamount⟩
  rw [hclair.inscription]
  simp only [RequeteTransaction.ligneTransaction, NouvelleTransactionBancaire.identite,
    NouvelleTransactionBancaire.ecriture, hl.compte, hl.status, hl.currency, hl.bookingDate,
    hl.valueDate]

/-- An observation of a free key enters a row. -/
private theorem grandLivre_entree (h : s.Tenu crypto U)
    (hA : s.proprietaireDuCompte n.bankAccount = some A) (hl : l.Releve crypto A n)
    (hfiable : crypto.Fiable) (hmontant : EstI64 n.amountCents)
    (hlibre : ∀ t ∈ s.bankTransaction, t.dedupKey ≠ l.dedupKey)
    {rows : Table BankTransactionRow.id}
    (hrows : s.bankTransaction.insert (RequeteTransaction.ligneTransaction x l) = some rows)
    (h' : ({ s with bankTransaction := rows } : Store).Tenu crypto U) :
    s.grandLivre crypto n.identite = none ∧
      ({ s with bankTransaction := rows } : Store).grandLivre crypto =
        releves.observe (s.grandLivre crypto) n := by
  have habsente : s.grandLivre crypto n.identite = none := by
    apply Option.eq_none_iff_forall_ne_some.2
    intro e he
    obtain ⟨t, ht, hdit⟩ := h.grandLivre_eq_some.1 he
    exact hlibre t ht ((h.cle_inscription ht hdit).2.1.trans hl.dedup.symm)
  have hdit : s.inscription crypto (RequeteTransaction.ligneTransaction x l) =
      some (n.identite, n.ecriture) := by
    have hcompte : (RequeteTransaction.ligneTransaction x l).bankAccountId = n.bankAccount :=
      hl.compte
    rw [Store.inscription, hcompte, hA, Option.bind_some]
    exact inscription_ligne hfiable hl hmontant
  refine ⟨habsente, ?_⟩
  rw [Ledger.Rule.observe, key_releves, habsente, entry_releves_none]
  refine h.grandLivre_update h' ((Table.mem_of_insert hrows).2 (.inr rfl)) hdit fun k e hk => ?_
  constructor
  · rintro ⟨t, ht, hdit'⟩
    have hdit' : s.inscription crypto t = some (k, e) := hdit'
    rcases (Table.mem_of_insert hrows).1 ht with ht | rfl
    · exact ⟨t, ht, hdit'⟩
    · rw [hdit] at hdit'
      exact absurd (congrArg Prod.fst (Option.some.inj hdit')).symm hk
  · rintro ⟨t, ht, hdit'⟩
    exact ⟨t, (Table.mem_of_insert hrows).2 (.inl ht), hdit'⟩

/-- A row that is dated anew says so. -/
theorem inscription_datee {t : BankTransactionRow} {k : BankAccountId × String} {e : Ecriture}
    (hdit : s.inscription crypto t = some (k, e)) (status : TransactionStatus)
    (bookingDate valueDate : Option NaiveDate) :
    s.inscription crypto
        { t with status := status, bookingDate := bookingDate, valueDate := valueDate } =
      some (k, { e with
        status := status, bookingDate := bookingDate, valueDate := valueDate }) := by
  obtain ⟨B, hB, hrow⟩ := Option.bind_eq_some_iff.1 hdit
  obtain ⟨externe, label, montant, hclair⟩ := exists_clair hrow
  have hdatee : BankTransactionRow.Clair crypto B
      { t with status := status, bookingDate := bookingDate, valueDate := valueDate }
      externe label montant := ⟨hclair.externe, hclair.label, hclair.montant⟩
  obtain ⟨rfl, rfl⟩ := Prod.mk.inj (Option.some.inj (hrow.symm.trans hclair.inscription))
  rw [Store.inscription, hB, Option.bind_some, hdatee.inscription]

/-- A booked observation of a pending row dates it. -/
private theorem grandLivre_datee (h : s.Tenu crypto U) (hl : l.Releve crypto A n)
    {t : BankTransactionRow} (ht : t ∈ s.bankTransaction) {e : Ecriture}
    (hdit : s.inscription crypto t = some (n.identite, e)) (hpending : t.status = .pending)
    (hbooked : l.status = .booked)
    (h' : (s.majTransaction (fun u => u.id = t.id) fun u =>
      { u with status := l.status, bookingDate := l.bookingDate,
               valueDate := l.valueDate }).Tenu crypto U) :
    (s.majTransaction (fun u => u.id = t.id) fun u =>
      { u with status := l.status, bookingDate := l.bookingDate,
               valueDate := l.valueDate }).grandLivre crypto =
      releves.observe (s.grandLivre crypto) n := by
  have hentree : s.grandLivre crypto n.identite = some e := h.grandLivre_eq_some.2 ⟨t, ht, hdit⟩
  have hdatee := inscription_datee hdit l.status l.bookingDate l.valueDate
  have hrevise : e.reviser n =
      { e with status := l.status, bookingDate := l.bookingDate, valueDate := l.valueDate } := by
    have hstatus : e.status = .pending := (status_of_inscription hdit).trans hpending
    rw [hl.status, hl.bookingDate, hl.valueDate]
    exact if_pos ⟨hstatus, hl.status.symm.trans hbooked⟩
  rw [Ledger.Rule.observe, key_releves, hentree, entry_releves_some, hrevise]
  refine h.grandLivre_update h' (Store.mem_majTransaction.2 ⟨t, ht, (if_pos (by simp)).symm⟩)
    hdatee fun k e' hk => ?_
  constructor
  · rintro ⟨u', hu', hdit'⟩
    obtain ⟨u, hu, rfl⟩ := Store.mem_majTransaction.1 hu'
    split at hdit'
    · rename_i hid
      obtain rfl : u = t := Table.eq_of_key_eq hu ht (of_decide_eq_true hid)
      exact absurd (congrArg Prod.fst (Option.some.inj (hdit'.symm.trans hdatee))) hk
    · exact ⟨u, hu, hdit'⟩
  · rintro ⟨u, hu, hdit'⟩
    have hid : ¬ u.id = t.id := by
      intro hid
      obtain rfl : u = t := Table.eq_of_key_eq hu ht hid
      exact hk (congrArg Prod.fst (Option.some.inj (hdit'.symm.trans hdit)))
    exact ⟨u, Store.mem_majTransaction.2 ⟨u, hu, (if_neg (by simpa using hid)).symm⟩, hdit'⟩

/-- The row that has the key of an observation is entered under its identity. -/
private theorem identite_of_cle (h : s.Tenu crypto U) (hcollision : crypto.SansCollision U)
    (hU : CryptoService.messageDedup n.bankAccount.asBytes n.externalTransactionId ∈ U)
    {t : BankTransactionRow} (ht : t ∈ s.bankTransaction) {k : BankAccountId × String}
    {e : Ecriture} (hdit : s.inscription crypto t = some (k, e))
    (hkey : t.dedupKey = dedupKeyTransaction crypto n.bankAccount n.externalTransactionId) :
    k = n.identite := by
  obtain ⟨-, hcle, hk, -⟩ := h.cle_inscription ht hdit
  have hmessage := hcollision _ hk _ hU (hcle.symm.trans hkey)
  obtain ⟨hcompte, hexterne⟩ := CryptoService.messageDedup_uuid_inj hmessage
  exact Prod.ext hcompte hexterne

/-- The key of the row that an observation inserts is that of its message. -/
theorem Store.Tenu.insertion (h : s.Tenu crypto U)
    (heffet : (Requete.transaction (.insert l)).effet col x s = .ok (v, s'))
    (hfiable : crypto.Fiable)
    (hU : CryptoService.messageDedup n.bankAccount.asBytes n.externalTransactionId ∈ U)
    (hA : s.proprietaireDuCompte n.bankAccount = some A) (hl : l.Releve crypto A n) :
    s'.Tenu crypto U := by
  have hi' : s'.Integre := h.integre.effet heffet nofun
  have hcomptes : s'.bankAccount = s.bankAccount :=
    pareil_effet (t := .bankAccount) heffet (by simp)
  have hproprietaire : s'.proprietaireDuCompte = s.proprietaireDuCompte := by
    unfold Store.proprietaireDuCompte
    rw [hcomptes]
  refine ⟨hi', ?_⟩
  intro t ht
  rw [hproprietaire]
  rcases transaction_effet heffet ht with ⟨t₀, ht₀, hdevient⟩ | ⟨l', hl', rfl, -⟩
  · have hmeme := hdevient.meme
    obtain ⟨B, externe, hB, hscellee, hU'⟩ := h.scellees t₀ ht₀
    refine ⟨B, externe, hmeme.bankAccountId ▸ hB, ⟨?_, ?_⟩, hmeme.bankAccountId ▸ hU'⟩
    · rw [hmeme.externalTransactionId]
      exact hscellee.clair
    · rw [hmeme.dedupKey, hmeme.bankAccountId]
      exact hscellee.cle
  · obtain rfl : l = l' := by simpa using hl'
    obtain ⟨nonce, hexterne⟩ := hl.externe
    have hcompte : (RequeteTransaction.ligneTransaction x l).bankAccountId = n.bankAccount :=
      hl.compte
    refine ⟨A, n.externalTransactionId, hcompte ▸ hA, ⟨?_, ?_⟩, hcompte ▸ hU⟩
    · exact dechiffrerTexte_chiffrerTexte hfiable hexterne
    · rw [hcompte]
      exact hl.dedup

/-- The statement of an observation is one step of the ledger, and answers that it has
inserted a row when it opens an entry. -/
theorem grandLivre_observe (h : s.Tenu crypto U) (hs : s.Relisible crypto)
    (hfiable : crypto.Fiable) (hcollision : crypto.SansCollision U)
    (hU : CryptoService.messageDedup n.bankAccount.asBytes n.externalTransactionId ∈ U)
    (hmontant : EstI64 n.amountCents) (hA : s.proprietaireDuCompte n.bankAccount = some A)
    (hl : l.Releve crypto A n)
    (heffet : (Requete.transaction (.insert l)).effet col x s = .ok (v, s')) :
    s'.Tenu crypto U ∧ s'.grandLivre crypto = releves.observe (s.grandLivre crypto) n ∧
      (resultatInsertion v = .doublon ↔ s.grandLivre crypto n.identite ≠ none) := by
  have h' : s'.Tenu crypto U := h.insertion heffet hfiable hU hA hl
  have hcas : (RequeteTransaction.insert l).effet x s = .ok (v, s') := heffet
  refine ⟨h', ?_⟩
  rcases insert_cases hcas with ⟨hlibre, rfl, rows, hrows, rfl⟩ | ⟨t, ht, hkey, hcas⟩
  · obtain ⟨habsente, hobserve⟩ := grandLivre_entree h hA hl hfiable hmontant hlibre hrows h'
    exact ⟨hobserve, by simp [resultatInsertion, habsente]⟩
  · obtain ⟨k, e, hdit⟩ := h.exists_inscription hs hfiable ht
    obtain rfl := identite_of_cle h hcollision hU ht hdit (hkey.trans hl.dedup)
    have hentree : s.grandLivre crypto n.identite = some e :=
      h.grandLivre_eq_some.2 ⟨t, ht, hdit⟩
    rcases hcas with ⟨hpending, hbooked, rfl, rfl⟩ | ⟨hgarde, rfl, hsame⟩
    · refine ⟨grandLivre_datee h hl ht hdit hpending hbooked h', ?_⟩
      simp [resultatInsertion, hentree]
    · have habsorbe : releves.Absorbs (s.grandLivre crypto) n := by
        refine ⟨e, hentree, Ecriture.reviser_eq_self ?_⟩
        rw [status_of_inscription hdit, ← hl.status]
        exact hgarde
      rw [habsorbe.observe_eq, hsame]
      simp [resultatInsertion, hentree]

end Observation

end Budgy
