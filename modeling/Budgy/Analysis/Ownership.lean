import Budgy.Analysis.Statements

/-!
# What an owner has

A row belongs to the owner it names; a balance and a transaction belong to the
owner of their account.  `Store.patrimoine s A` is the set of the rows of `A`, in
whatever table they are.
-/

set_option autoImplicit false

namespace Budgy

open Relational

/-- A row of one of the tables. -/
inductive Ligne where
  | consent (r : ConsentRow)
  | compte (r : BankAccountRow)
  | balance (r : BalanceRow)
  | transaction (r : BankTransactionRow)
  | category (r : Category)
  | regle (r : RegleCategorisation)
  | budget (r : Budget)
  | preferences (r : PreferencesRow)
  | enveloppe (r : Enveloppe)

/-- The table a row is in. -/
def Ligne.table : Ligne → NomTable
  | consent _ => .consent
  | compte _ => .bankAccount
  | balance _ => .balance
  | transaction _ => .bankTransaction
  | category _ => .category
  | regle _ => .reglesCategorisation
  | budget _ => .budgets
  | preferences _ => .preferencesUtilisateur
  | enveloppe _ => .enveloppe

namespace Store

/-- The row is in the database. -/
def Contient (s : Store) : Ligne → Prop
  | .consent r => r ∈ s.consent
  | .compte r => r ∈ s.bankAccount
  | .balance r => r ∈ s.balance
  | .transaction r => r ∈ s.bankTransaction
  | .category r => r ∈ s.category
  | .regle r => r ∈ s.reglesCategorisation
  | .budget r => r ∈ s.budgets
  | .preferences r => r ∈ s.preferencesUtilisateur
  | .enveloppe r => r ∈ s.enveloppe

/-- Whose row it is: a balance and a transaction hang from their account. -/
def proprietaireDe (s : Store) : Ligne → Option ProprietaireId
  | .consent r => some r.ownerId
  | .compte r => some r.ownerId
  | .balance r => s.proprietaireDuCompte r.bankAccountId
  | .transaction r => s.proprietaireDuCompte r.bankAccountId
  | .category r => r.ownerId
  | .regle r => some r.ownerId
  | .budget r => some r.ownerId
  | .preferences r => some r.ownerId
  | .enveloppe r => some r.proprietaire

/-- The rows of `A`. -/
def patrimoine (s : Store) (A : ProprietaireId) : Set Ligne :=
  {l | s.Contient l ∧ s.proprietaireDe l = some A}

variable {s s' : Store} {A B : ProprietaireId} {l : Ligne}

/-- What belongs to an owner. -/
theorem mem_patrimoine : l ∈ s.patrimoine A ↔ s.Contient l ∧ s.proprietaireDe l = some A := Iff.rfl

/-- The owner of an account is that of its row. -/
theorem proprietaireDuCompte_eq_some {compte : Uuid} :
    s.proprietaireDuCompte compte = some A ↔
      ∃ a ∈ s.bankAccount, a.id = compte ∧ a.ownerId = A := by
  simp only [proprietaireDuCompte, Option.map_eq_some_iff, Table.find?_eq_some, and_assoc]

/-! ## Deletions -/

/-- The deletion of the accounts that satisfy `p` reaches the row. -/
def AtteintParComptes (s : Store) (p : BankAccountRow → Bool) : Ligne → Prop
  | .compte a => p a = true
  | .balance b => ∃ a ∈ s.bankAccount, a.id = b.bankAccountId ∧ p a = true
  | .transaction t => ∃ a ∈ s.bankAccount, a.id = t.bankAccountId ∧ p a = true
  | _ => False

/-- The owner of an account, after a deletion of accounts. -/
private theorem proprietaireDuCompte_delete {p : BankAccountRow → Bool} {compte : Uuid} :
    (s.supprimerComptes p).proprietaireDuCompte compte = some A ↔
      s.proprietaireDuCompte compte = some A ∧
        ¬ ∃ a ∈ s.bankAccount, a.id = compte ∧ p a = true := by
  simp only [proprietaireDuCompte_eq_some, supprimerComptes, Table.mem_delete]
  constructor
  · rintro ⟨a, ⟨ha, hp⟩, hid, howner⟩
    refine ⟨⟨a, ha, hid, howner⟩, ?_⟩
    rintro ⟨a', ha', hid', hp'⟩
    rw [Table.eq_of_key_eq ha' ha (hid'.trans hid.symm), hp] at hp'
    cases hp'
  · rintro ⟨⟨a, ha, hid, howner⟩, hfree⟩
    refine ⟨a, ⟨ha, ?_⟩, hid, howner⟩
    simpa using fun hp => hfree ⟨a, ha, hid, hp⟩

/-- A row that hangs from an account goes with it. -/
private theorem supprime_eq_false {p : BankAccountRow → Bool} {compte : Uuid} :
    (s.bankAccount.any fun a => a.id = compte && p a) = false ↔
      ¬ ∃ a ∈ s.bankAccount, a.id = compte ∧ p a = true := by
  rw [← Bool.not_eq_true, Table.any_eq_true]
  simp

/-- A deletion of accounts takes the rows it reaches, and leaves the others to
whom they belong. -/
theorem mem_patrimoine_supprimerComptes {p : BankAccountRow → Bool} :
    l ∈ (s.supprimerComptes p).patrimoine A ↔ l ∈ s.patrimoine A ∧ ¬ s.AtteintParComptes p l := by
  cases l with
  | compte a =>
      simp [mem_patrimoine, Contient, proprietaireDe, AtteintParComptes, supprimerComptes,
        and_right_comm]
  | balance b =>
      simp only [mem_patrimoine, Contient, proprietaireDe, AtteintParComptes,
        proprietaireDuCompte_delete]
      have hmem : b ∈ (s.supprimerComptes p).balance ↔
          b ∈ s.balance ∧ ¬ ∃ a ∈ s.bankAccount, a.id = b.bankAccountId ∧ p a = true :=
        Table.mem_delete.trans (and_congr_right fun _ => supprime_eq_false)
      rw [hmem]
      tauto
  | transaction t =>
      simp only [mem_patrimoine, Contient, proprietaireDe, AtteintParComptes,
        proprietaireDuCompte_delete]
      have hmem : t ∈ (s.supprimerComptes p).bankTransaction ↔
          t ∈ s.bankTransaction ∧ ¬ ∃ a ∈ s.bankAccount, a.id = t.bankAccountId ∧ p a = true :=
        Table.mem_delete.trans (and_congr_right fun _ => supprime_eq_false)
      rw [hmem]
      tauto
  | consent | category | regle | budget | preferences | enveloppe =>
      simp [mem_patrimoine, Contient, proprietaireDe, AtteintParComptes, supprimerComptes]

/-- The deletion of the consents that satisfy `p` reaches the row, directly or
through an account. -/
def AtteintParConsents (s : Store) (p : ConsentRow → Bool) : Ligne → Prop
  | .consent c => p c = true
  | l => s.AtteintParComptes (fun a => s.consent.any fun c => c.id = a.consentId && p c) l

/-- What belongs to an owner, after a deletion of consents. -/
theorem mem_patrimoine_supprimerConsents {p : ConsentRow → Bool} :
    l ∈ (s.supprimerConsents p).patrimoine A ↔ l ∈ s.patrimoine A ∧ ¬ s.AtteintParConsents p l := by
  have hcomptes := @mem_patrimoine_supprimerComptes s A l
    (fun a => s.consent.any fun c => c.id = a.consentId && p c)
  cases l with
  | consent c =>
      simp [mem_patrimoine, Contient, proprietaireDe, AtteintParConsents, supprimerConsents,
        and_right_comm]
  | compte | balance | transaction | category | regle | budget | preferences | enveloppe =>
      exact hcomptes

end Store

end Budgy
