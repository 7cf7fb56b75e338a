import Budgy.Analysis.Footprint
import Budgy.Analysis.Replies

/-!
# What is stored can be read again

The encrypted columns of the database, each with the place its ciphertext is bound to: the
owner of the row, or of the account it hangs from.  A statement that stores ciphertexts made
for their place keeps `Store.Relisible`, and under it every row that a statement returns is
decrypted.
-/

set_option autoImplicit false

namespace Budgy

open Effects Relational

/-- A machine integer was encrypted for this place. -/
def MontantChiffre (crypto : CryptoService) (owner table field : String) (blob : List UInt8) :
    Prop :=
  ∃ nonce n, EstI64 n ∧ chiffrerMontant crypto nonce owner table field n = .ok blob

/-- The encrypted columns of a transaction were made for `A`. -/
structure BankTransactionRow.Chiffree (crypto : CryptoService) (A : ProprietaireId)
    (t : BankTransactionRow) : Prop where
  externe : Chiffre crypto A "bank_transaction" "external_transaction_id"
    t.externalTransactionId
  label : Chiffre crypto A "bank_transaction" "label" t.label
  montant : MontantChiffre crypto A "bank_transaction" "amount_cents" t.amountCents

/-- Every encrypted column was made for its place. -/
structure Store.Relisible (crypto : CryptoService) (s : Store) : Prop where
  consents : ∀ c ∈ s.consent, Chiffre crypto c.ownerId "consent" "external_ref" c.externalRef
  comptes : ∀ a ∈ s.bankAccount,
    Chiffre crypto a.ownerId "bank_account" "external_account_id" a.externalAccountId
  soldes : ∀ b ∈ s.balance, ∀ A, s.proprietaireDuCompte b.bankAccountId = some A →
    MontantChiffre crypto A "balance" "amount_cents" b.amountCents
  transactions : ∀ t ∈ s.bankTransaction, ∀ A, s.proprietaireDuCompte t.bankAccountId = some A →
    t.Chiffree crypto A

/-- What the statement stores was encrypted for its place. -/
def Requete.Scellee (crypto : CryptoService) (s : Store) : Requete → Prop
  | .consent (.insertInitie _ owner blob _ _ _) =>
      Chiffre crypto owner "consent" "external_ref" blob
  | .consent (.mettreAJour _ blob _ _ owner) =>
      Chiffre crypto owner "consent" "external_ref" blob
  | .compte (.insert l) =>
      Chiffre crypto l.owner "bank_account" "external_account_id" l.externalAccountId
  | .compte (.insertBalance id _ amount _ _) =>
      ∀ A, s.proprietaireDuCompte id = some A →
        MontantChiffre crypto A "balance" "amount_cents" amount
  | .transaction (.insert l) => ∀ A, s.proprietaireDuCompte l.bankAccountId = some A →
      Chiffre crypto A "bank_transaction" "external_transaction_id" l.externalTransactionId ∧
      Chiffre crypto A "bank_transaction" "label" l.label ∧
      MontantChiffre crypto A "bank_transaction" "amount_cents" l.amountCents
  | _ => True

section Effects

variable {col : Collation} {crypto : CryptoService} {x : ChoixSql} {s s' : Store} {r : Requete}
  {v : r.Reponse} {A : ProprietaireId}

/-- No statement rewrites an encrypted column of a transaction. -/
theorem BankTransactionRow.Devient.chiffree {t t₀ : BankTransactionRow}
    (h : BankTransactionRow.Devient s t₀ r t) (ht : t₀.Chiffree crypto A) :
    t.Chiffree crypto A := by
  cases h <;> exact ⟨ht.externe, ht.label, ht.montant⟩

/-- A balance was there, or the statement stores it. -/
theorem balance_effet_montant (heffet : r.effet col x s = .ok (v, s')) {b : BalanceRow}
    (hb : b ∈ s'.balance) :
    b ∈ s.balance ∨ r = .compte (.insertBalance b.bankAccountId b.balanceType b.amountCents
      b.currency b.referenceDate) := by
  by_cases hw : NomTable.balance ∈ r.ecrit
  swap
  · have hsame : s'.balance = s.balance := pareil_effet heffet hw
    exact .inl (hsame ▸ hb)
  rcases r with r | r | r | r <;> cases r <;> try simp at hw
  case consent.supprimerParProprietaire =>
    obtain ⟨-, rfl⟩ := by simpa [Requete.effet, RequeteConsent.effet] using heffet
    exact .inl (Table.mem_delete.1 hb).1
  case compte.supprimerParProprietaire =>
    obtain ⟨-, rfl⟩ := by simpa [Requete.effet, RequeteCompte.effet] using heffet
    exact .inl (Table.mem_delete.1 hb).1
  case compte.insertBalance =>
    obtain ⟨-, t, ht, -, rfl⟩ := by simpa [Requete.effet, RequeteCompte.effet] using heffet
    rcases (Table.mem_of_insert ht).1 hb with hb | rfl
    · exact .inl hb
    · exact .inr rfl

/-- An account was there, under the same identifier at the bank, or the statement inserts it. -/
theorem compte_effet_externe (heffet : r.effet col x s = .ok (v, s')) {a : BankAccountRow}
    (ha : a ∈ s'.bankAccount) :
    (∃ a₀ ∈ s.bankAccount, a.ownerId = a₀.ownerId ∧
      a.externalAccountId = a₀.externalAccountId) ∨
      ∃ l, r = .compte (.insert l) ∧ a = RequeteCompte.ligneCompte x l := by
  by_cases hposer : ∃ id f, r = .compte (.poserEmpreinte id f)
  · obtain ⟨id, f, rfl⟩ := hposer
    obtain ⟨-, rfl⟩ := by simpa [Requete.effet, RequeteCompte.effet] using heffet
    obtain ⟨a₀, ha₀, rfl⟩ := Store.mem_majCompte.1 ha
    refine .inl ⟨a₀, ha₀, ?_⟩
    split <;> exact ⟨rfl, rfl⟩
  · push Not at hposer
    rcases compte_effet heffet hposer ha with ⟨a₀, ha₀, hmeme⟩ | ⟨l, hl, hligne, -⟩
    · exact .inl ⟨a₀, ha₀, hmeme.ownerId, hmeme.externalAccountId⟩
    · exact .inr ⟨l, hl, hligne⟩

/-- The account of a balance that stays keeps its owner. -/
theorem Store.Integre.proprietaire_solde (h : s.Integre) (heffet : r.effet col x s = .ok (v, s'))
    {b : BalanceRow} (hb : b ∈ s'.balance) (hb₀ : b ∈ s.balance)
    (hA : s'.proprietaireDuCompte b.bankAccountId = some A) :
    s.proprietaireDuCompte b.bankAccountId = some A := by
  obtain ⟨a₀, ha₀, hid₀⟩ := h.balanceCompte b hb₀
  obtain ⟨a, ha, hid, howner⟩ := Store.proprietaireDuCompte_eq_some.1 hA
  rcases compte_effet_cases heffet ha₀ with ⟨a₁, ha₁, hid₁, howner₁⟩ | ⟨hgone, -⟩
  · have heq : a = a₁ :=
      Table.eq_of_key_eq ha ha₁ (hid.trans (hid₀.symm.trans hid₁.symm))
    apply Store.proprietaireDuCompte_eq_some.2
    exact ⟨a₀, ha₀, hid₀, howner₁.symm.trans (heq ▸ howner)⟩
  · exact absurd hid₀.symm (hgone b hb)

/-- A statement that stores what was encrypted for its place keeps the database readable. -/
theorem Store.Relisible.effet (h : s.Relisible crypto) (hi : s.Integre)
    (heffet : r.effet col x s = .ok (v, s')) (hr : r.Scellee crypto s) :
    s'.Relisible crypto where
  consents c hc := by
    rcases consent_effet heffet hc with ⟨c₀, hc₀, hdevient⟩ | ⟨_, _, rfl⟩
    · have hchiffre := h.consents c₀ hc₀
      cases hdevient with
      | intact => exact hchiffre
      | misAJour => exact hr
      | marque => exact hchiffre
      | marqueParCycle => exact hchiffre
    · exact hr
  comptes a ha := by
    rcases compte_effet_externe heffet ha with ⟨a₀, ha₀, howner, hexterne⟩ | ⟨l, rfl, rfl⟩
    · rw [howner, hexterne]
      exact h.comptes a₀ ha₀
    · exact hr
  soldes b hb A hA := by
    rcases balance_effet_montant heffet hb with hb₀ | rfl
    · exact h.soldes b hb₀ A (hi.proprietaire_solde heffet hb hb₀ hA)
    · have hsame : s'.bankAccount = s.bankAccount := by
        have hpareil : s.Pareil s' .bankAccount := pareil_effet heffet (by simp)
        exact hpareil
      apply hr A
      unfold Store.proprietaireDuCompte at hA ⊢
      rwa [hsame] at hA
  transactions t ht A hA := by
    rcases transaction_effet heffet ht with ⟨t₀, ht₀, hdevient⟩ | ⟨l, rfl, rfl, -⟩
    · apply hdevient.chiffree
      exact h.transactions t₀ ht₀ A
        (hi.proprietaire_effet heffet ht ht₀ hdevient.meme hA)
    · have hsame : s'.bankAccount = s.bankAccount := by
        have hpareil : s.Pareil s' .bankAccount := pareil_effet heffet (by simp)
        exact hpareil
      have hscellee := hr A (by
        unfold Store.proprietaireDuCompte at hA ⊢
        rwa [hsame] at hA)
      exact ⟨hscellee.1, hscellee.2.1, hscellee.2.2⟩

/-- A seeded store can be read back. -/
theorem Store.Amorcee.relisible (h : s.Amorcee) : s.Relisible crypto where
  consents c hc := by simpa [h.consent] using Table.mem_rows.2 hc
  comptes a ha := by simpa [h.bankAccount] using Table.mem_rows.2 ha
  soldes b hb := by simpa [h.balance] using Table.mem_rows.2 hb
  transactions t ht := by simpa [h.bankTransaction] using Table.mem_rows.2 ht

end Effects

/-! ## Reading -/

section Reads

variable {crypto : CryptoService} {s : Store} {A : ProprietaireId}

/-- A text encrypted for its owner can be decrypted. -/
theorem Chiffre.dechiffrable (hfiable : crypto.Fiable) {table field : String}
    {blob : List UInt8} (h : Chiffre crypto A table field blob) :
    ∃ texte, dechiffrerTexte crypto A table field blob = .ok texte := by
  obtain ⟨nonce, texte, hblob⟩ := h
  exact ⟨texte, dechiffrerTexte_chiffrerTexte hfiable hblob⟩

/-- So can an amount. -/
theorem MontantChiffre.dechiffrable (hfiable : crypto.Fiable) {table field : String}
    {blob : List UInt8} (h : MontantChiffre crypto A table field blob) :
    ∃ n, dechiffrerMontant crypto A table field blob = .ok n := by
  obtain ⟨nonce, n, hn, hblob⟩ := h
  exact ⟨n, dechiffrerMontant_chiffrerMontant hfiable hn hblob⟩

/-- So can a consent. -/
theorem dechiffrable_intoConsent (hfiable : crypto.Fiable) {c : ConsentRow}
    (h : Chiffre crypto c.ownerId "consent" "external_ref" c.externalRef) :
    Dechiffrable (Consents.intoConsent crypto) c := by
  obtain ⟨texte, hclair⟩ := h.dechiffrable hfiable
  apply dechiffrable_of_isOk
  simp only [Consents.intoConsent, hclair]
  rfl

/-- So can an account. -/
theorem dechiffrable_intoBankAccount (hfiable : crypto.Fiable) {a : BankAccountRow}
    (h : Chiffre crypto a.ownerId "bank_account" "external_account_id" a.externalAccountId) :
    Dechiffrable (BankAccounts.intoBankAccount crypto) a := by
  obtain ⟨texte, hclair⟩ := h.dechiffrable hfiable
  apply dechiffrable_of_isOk
  simp only [BankAccounts.intoBankAccount, hclair]
  rfl

/-- So can a balance. -/
theorem dechiffrable_intoBalance (hfiable : crypto.Fiable) {b : BalanceAvecOwner}
    (h : MontantChiffre crypto b.ownerId "balance" "amount_cents" b.balance.amountCents) :
    Dechiffrable (Balances.intoBalance crypto) b := by
  obtain ⟨n, hclair⟩ := h.dechiffrable hfiable
  apply dechiffrable_of_isOk
  simp only [Balances.intoBalance, hclair]
  rfl

/-- So can a transaction. -/
theorem dechiffrable_intoTransaction (hfiable : crypto.Fiable) {t : TransactionAvecOwner}
    (h : t.transaction.Chiffree crypto t.ownerId) :
    Dechiffrable (BankTransactions.intoTransaction crypto) t := by
  obtain ⟨externe, hexterne⟩ := h.externe.dechiffrable hfiable
  obtain ⟨label, hlabel⟩ := h.label.dechiffrable hfiable
  obtain ⟨n, hmontant⟩ := h.montant.dechiffrable hfiable
  apply dechiffrable_of_isOk
  simp only [BankTransactions.intoTransaction, hexterne, hlabel, hmontant]
  rfl

/-- So can an occurrence for the detection of the recurrences. -/
theorem dechiffrable_occurrence (hfiable : crypto.Fiable) {t : BankTransactionRow}
    (h : t.Chiffree crypto A) : Dechiffrable (BankTransactions.occurrence? crypto A) t := by
  obtain ⟨label, hlabel⟩ := h.label.dechiffrable hfiable
  obtain ⟨n, hmontant⟩ := h.montant.dechiffrable hfiable
  apply dechiffrable_of_isOk
  unfold BankTransactions.occurrence?
  cases t.date with
  | none => rfl
  | some date =>
      simp only [hlabel, hmontant]
      rfl

/-- So can a movement for the detection of the transfers. -/
theorem dechiffrable_mouvement (hfiable : crypto.Fiable) {t : BankTransactionRow}
    (h : t.Chiffree crypto A) : Dechiffrable (BankTransactions.mouvement? crypto A) t := by
  obtain ⟨label, hlabel⟩ := h.label.dechiffrable hfiable
  obtain ⟨n, hmontant⟩ := h.montant.dechiffrable hfiable
  apply dechiffrable_of_isOk
  unfold BankTransactions.mouvement?
  cases t.date with
  | none => rfl
  | some date =>
      simp only [hlabel, hmontant]
      rfl

/-- A transaction of an owner was encrypted for this owner. -/
theorem Store.Relisible.chiffree (h : s.Relisible crypto) {t : BankTransactionRow}
    (ht : t ∈ s.bankTransaction) (hA : s.txDe A t = true) : t.Chiffree crypto A :=
  h.transactions t ht A (of_decide_eq_true hA)

end Reads

end Budgy
