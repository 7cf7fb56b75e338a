import Budgy.Analysis.Evolution
import Budgy.Analysis.Ownership
import Budgy.Analysis.Provenance

/-!
# What a statement leaves to the other owners

A statement made for `A` names `A` in its condition; what it reaches beyond that
condition (the cascades of a deletion, the row an upsert conflicts with) has to
belong to `A` for the statement to stay among the rows of `A`.  `Requete.Confinee`
says so, and `patrimoine_after` that the other owners then keep all they have.
-/

set_option autoImplicit false

namespace Budgy

open Effects Relational

/-- What the statement reaches without naming its owner belongs to `A`. -/
def Requete.Confinee (s : Store) (A : ProprietaireId) : Requete → Prop
  | .consent (.supprimerParProprietaire owner) =>
      ∀ a ∈ s.bankAccount, ∀ c ∈ s.consent, c.id = a.consentId → c.ownerId = owner → a.ownerId = A
  | .transaction (.insert l) =>
      ∀ t ∈ s.bankTransaction, t.dedupKey = l.dedupKey → t.bankAccountId = l.bankAccountId
  | .classement (.supprimerCategorie id owner) =>
      ∀ c ∈ s.category, c.id = id → c.ownerId = some owner →
        (∀ t ∈ s.bankTransaction, t.categoryId = some id →
          ∀ B, s.proprietaireDuCompte t.bankAccountId = some B → B = A) ∧
        (∀ regle ∈ s.reglesCategorisation, regle.categoryId = id → regle.ownerId = A) ∧
        ∀ b ∈ s.budgets, b.categoryId = id → b.ownerId = A
  | .classement (.supprimerEnveloppe id owner) =>
      ∀ e ∈ s.enveloppe, e.id = id → e.proprietaire = owner →
        ∀ t ∈ s.bankTransaction, t.enveloppeId = some id →
          ∀ B, s.proprietaireDuCompte t.bankAccountId = some B → B = A
  | _ => True

section Effects

variable {col : Collation} {crypto : CryptoService} {U : Set (List UInt8)} {A B : ProprietaireId}
  {x : ChoixSql} {s s' : Store} {r : Requete} {v : r.Reponse}

/-- An update of the transactions of `A` leaves those of `B`. -/
private theorem mem_majTransaction_autre {p : BankTransactionRow → Bool}
    {f : BankTransactionRow → BankTransactionRow} {hf : ∀ t, (f t).id = t.id}
    (hp : ∀ t ∈ s.bankTransaction, p t = true →
      ∀ B, s.proprietaireDuCompte t.bankAccountId = some B → B = A)
    (hB : B ≠ A) {t : BankTransactionRow}
    (ht : s.proprietaireDuCompte t.bankAccountId = some B)
    (hmeme : ∀ t, (f t).bankAccountId = t.bankAccountId) :
    t ∈ (s.majTransaction p f hf).bankTransaction ↔ t ∈ s.bankTransaction := by
  refine Table.mem_update_outside
    (P := fun t => s.proprietaireDuCompte t.bankAccountId = some B) rfl (fun t ht hpt => ?_) ht
  have hne : ¬ s.proprietaireDuCompte t.bankAccountId = some B := fun h => hB (hp t ht hpt B h)
  exact ⟨hne, by rwa [hmeme]⟩

/-- A transaction of an owner is of no other one. -/
private theorem eq_of_txDe {t : BankTransactionRow} (h : s.txDe A t = true) :
    ∀ B, s.proprietaireDuCompte t.bankAccountId = some B → B = A := by
  intro B hB
  have hA : s.proprietaireDuCompte t.bankAccountId = some A := by simpa [Store.txDe] using h
  exact Option.some.inj (hB.symm.trans hA)

/-- A statement for an owner leaves the consents of the others. -/
private theorem contient_consent (heffet : r.effet col x s = .ok (v, s'))
    (hpour : r.Pour crypto U A s) (hB : B ≠ A) {c : ConsentRow} (hc : c.ownerId = B) :
    c ∈ s'.consent ↔ c ∈ s.consent := by
  by_cases hw : NomTable.consent ∈ r.ecrit
  swap
  · exact (pareil_effet heffet hw : s'.consent = s.consent) ▸ Iff.rfl
  rcases r with r | r | r | r <;> cases r <;> try simp at hw
  case consent.insertInitie =>
    obtain ⟨rfl, -⟩ := hpour
    obtain ⟨t, ht, -, rfl⟩ := by simpa [Requete.effet, RequeteConsent.effet] using heffet
    exact Table.mem_insert_outside (P := fun c => c.ownerId = B) ht hB.symm hc
  case consent.mettreAJour | consent.marquerStatutProprietaire =>
    obtain rfl : _ = A := by first | exact hpour.1 | exact hpour
    obtain ⟨-, rfl⟩ := by simpa [Requete.effet, RequeteConsent.effet] using heffet
    refine Table.mem_update_outside (P := fun c => c.ownerId = B) rfl (fun c _ hp => ?_) hc
    obtain ⟨-, rfl⟩ := by simpa using hp
    exact ⟨hB.symm, hB.symm⟩
  case consent.marquerStatutConsent =>
    obtain ⟨-, rfl⟩ := by simpa [Requete.effet, RequeteConsent.effet] using heffet
    refine Table.mem_update_outside (P := fun c => c.ownerId = B) rfl (fun c hc hp => ?_) hc
    obtain rfl := hpour c hc (by simpa using hp)
    exact ⟨hB.symm, hB.symm⟩
  case consent.supprimerParProprietaire =>
    obtain rfl := hpour
    obtain ⟨-, rfl⟩ := by simpa [Requete.effet, RequeteConsent.effet] using heffet
    refine Table.mem_delete_outside (P := fun c => c.ownerId = B) (fun c _ hp => ?_) hc
    obtain rfl := by simpa using hp
    exact hB.symm

/-- A statement for an owner leaves the accounts of the others. -/
private theorem contient_compte (heffet : r.effet col x s = .ok (v, s'))
    (hpour : r.Pour crypto U A s) (hconfinee : r.Confinee s A) (hB : B ≠ A) {a : BankAccountRow}
    (ha : a.ownerId = B) : a ∈ s'.bankAccount ↔ a ∈ s.bankAccount := by
  by_cases hw : NomTable.bankAccount ∈ r.ecrit
  swap
  · exact (pareil_effet heffet hw : s'.bankAccount = s.bankAccount) ▸ Iff.rfl
  rcases r with r | r | r | r <;> cases r <;> try simp at hw
  case consent.supprimerParProprietaire =>
    obtain ⟨-, rfl⟩ := by simpa [Requete.effet, RequeteConsent.effet] using heffet
    refine Table.mem_delete_outside (P := fun a => a.ownerId = B) (fun a ha hp => ?_) ha
    obtain ⟨c, hc, hmatch⟩ := Table.any_eq_true.1 hp
    obtain ⟨hid, howner⟩ := by simpa using hmatch
    rw [hconfinee a ha c hc hid howner]
    exact hB.symm
  case compte.insert l =>
    obtain ⟨howner, -, -⟩ := hpour
    simp only [Requete.effet, RequeteCompte.effet] at heffet
    split at heffet
    · rw [(lire_eq_ok.1 heffet).2]
    · obtain ⟨-, t, ht, -, rfl⟩ := by simpa using heffet
      refine Table.mem_insert_outside (P := fun a => a.ownerId = B) ht ?_ ha
      rintro rfl
      exact hB howner
  case compte.poserEmpreinte => exact hpour.elim
  case compte.supprimerParProprietaire =>
    obtain rfl := hpour
    obtain ⟨-, rfl⟩ := by simpa [Requete.effet, RequeteCompte.effet] using heffet
    refine Table.mem_delete_outside (P := fun a => a.ownerId = B) (fun a _ hp => ?_) ha
    obtain rfl := by simpa using hp
    exact hB.symm
  case compte.reserverCreneau compte plan quota =>
    obtain ⟨-, rfl⟩ := by simpa [Requete.effet, RequeteCompte.effet] using heffet
    refine Table.mem_update_outside (P := fun a => a.ownerId = B) rfl (fun a ha hp => ?_) ha
    obtain ⟨hid, -⟩ := by simpa using hp
    obtain rfl := hpour a.ownerId (Store.proprietaireDuCompte_eq_some.2 ⟨a, ha, hid, rfl⟩)
    exact ⟨hB.symm, hB.symm⟩

/-- A statement for an owner leaves the balances of the others. -/
private theorem contient_balance (heffet : r.effet col x s = .ok (v, s'))
    (hpour : r.Pour crypto U A s) (hconfinee : r.Confinee s A) (hB : B ≠ A) {b : BalanceRow}
    (hb : s.proprietaireDuCompte b.bankAccountId = some B) : b ∈ s'.balance ↔ b ∈ s.balance := by
  obtain ⟨a₀, ha₀, hid₀, howner₀⟩ := Store.proprietaireDuCompte_eq_some.1 hb
  by_cases hw : NomTable.balance ∈ r.ecrit
  swap
  · exact (pareil_effet heffet hw : s'.balance = s.balance) ▸ Iff.rfl
  rcases r with r | r | r | r <;> cases r <;> try simp at hw
  case consent.supprimerParProprietaire =>
    obtain ⟨-, rfl⟩ := by simpa [Requete.effet, RequeteConsent.effet] using heffet
    refine Table.mem_delete_outside (P := fun b' => b' = b) ?_ rfl
    rintro _ - hp rfl
    obtain ⟨a, ha, hmatch⟩ := Table.any_eq_true.1 hp
    obtain ⟨hid, c, hc, hid', howner⟩ := by simpa using hmatch
    obtain rfl := Table.eq_of_key_eq ha ha₀ (hid.trans hid₀.symm)
    exact hB (howner₀.symm.trans (hconfinee a ha c hc hid' howner))
  case compte.supprimerParProprietaire =>
    obtain rfl := hpour
    obtain ⟨-, rfl⟩ := by simpa [Requete.effet, RequeteCompte.effet] using heffet
    refine Table.mem_delete_outside (P := fun b' => b' = b) ?_ rfl
    rintro _ - hp rfl
    obtain ⟨a, ha, hmatch⟩ := Table.any_eq_true.1 hp
    obtain ⟨hid, howner⟩ := by simpa using hmatch
    obtain rfl := Table.eq_of_key_eq ha ha₀ (hid.trans hid₀.symm)
    exact hB (howner₀.symm.trans howner)
  case compte.insertBalance =>
    obtain ⟨-, t, ht, -, rfl⟩ := by simpa [Requete.effet, RequeteCompte.effet] using heffet
    refine Table.mem_insert_outside (P := fun b' => b' = b) ht ?_ rfl
    rintro rfl
    exact hB (hpour B hb)

/-- A statement for an owner leaves the transactions of the others. -/
private theorem contient_transaction (heffet : r.effet col x s = .ok (v, s'))
    (hpour : r.Pour crypto U A s) (hconfinee : r.Confinee s A) (hB : B ≠ A)
    {t : BankTransactionRow} (ht : s.proprietaireDuCompte t.bankAccountId = some B) :
    t ∈ s'.bankTransaction ↔ t ∈ s.bankTransaction := by
  obtain ⟨a₀, ha₀, hid₀, howner₀⟩ := Store.proprietaireDuCompte_eq_some.1 ht
  by_cases hw : NomTable.bankTransaction ∈ r.ecrit
  swap
  · exact (pareil_effet heffet hw : s'.bankTransaction = s.bankTransaction) ▸ Iff.rfl
  rcases r with r | r | r | r <;> cases r <;> try simp at hw
  case consent.supprimerParProprietaire =>
    obtain ⟨-, rfl⟩ := by simpa [Requete.effet, RequeteConsent.effet] using heffet
    refine Table.mem_delete_outside (P := fun t' => t' = t) ?_ rfl
    rintro _ - hp rfl
    obtain ⟨a, ha, hmatch⟩ := Table.any_eq_true.1 hp
    obtain ⟨hid, c, hc, hid', howner⟩ := by simpa using hmatch
    obtain rfl := Table.eq_of_key_eq ha ha₀ (hid.trans hid₀.symm)
    exact hB (howner₀.symm.trans (hconfinee a ha c hc hid' howner))
  case compte.supprimerParProprietaire =>
    obtain rfl := hpour
    obtain ⟨-, rfl⟩ := by simpa [Requete.effet, RequeteCompte.effet] using heffet
    refine Table.mem_delete_outside (P := fun t' => t' = t) ?_ rfl
    rintro _ - hp rfl
    obtain ⟨a, ha, hmatch⟩ := Table.any_eq_true.1 hp
    obtain ⟨hid, howner⟩ := by simpa using hmatch
    obtain rfl := Table.eq_of_key_eq ha ha₀ (hid.trans hid₀.symm)
    exact hB (howner₀.symm.trans howner)
  case transaction.insert l =>
    obtain ⟨howner, -⟩ := hpour
    simp only [Requete.effet, RequeteTransaction.effet] at heffet
    split at heffet
    · rename_i u hu
      split at heffet
      · obtain ⟨-, rfl⟩ := by simpa using heffet
        refine mem_majTransaction_autre (fun t ht hp C hC => ?_) hB ht fun _ => rfl
        -- the row in conflict is on the account of the insertion
        obtain ⟨hu, hkey⟩ := by simpa using List.mem_of_mem_head? hu
        obtain rfl := Table.eq_of_key_eq ht hu (by simpa using hp)
        rw [hconfinee t ht hkey, howner] at hC
        exact (Option.some.inj hC).symm
      · rw [(lire_eq_ok.1 heffet).2]
    · obtain ⟨-, table, htable, -, rfl⟩ := by simpa using heffet
      refine Table.mem_insert_outside (P := fun t' => t' = t) htable ?_ rfl
      rintro rfl
      exact hB (Option.some.inj (ht.symm.trans howner))
  case transaction.categoriser | transaction.appliquerRegle | transaction.appliquerRegleParLot
      | transaction.appliquerCategorieDefautParLot =>
    obtain ⟨rfl, -⟩ := hpour
    obtain ⟨-, -, rfl⟩ := by
      simpa [Requete.effet, RequeteTransaction.effet, RequeteTransaction.exigerCategorie,
        RequeteTransaction.majDe] using heffet
    exact mem_majTransaction_autre
      (fun t _ hp => eq_of_txDe (Bool.and_eq_true _ _ ▸ hp).1) hB ht fun _ => rfl
  case transaction.reinitialiserTransfertsInternes | transaction.marquerTransfertsInternes
      | transaction.reinitialiserRecurrences | transaction.marquerRecurrentes =>
    obtain rfl := hpour
    obtain ⟨-, rfl⟩ := by
      simpa [Requete.effet, RequeteTransaction.effet, RequeteTransaction.majDe] using heffet
    exact mem_majTransaction_autre
      (fun t _ hp => eq_of_txDe (Bool.and_eq_true _ _ ▸ hp).1) hB ht fun _ => rfl
  case classement.supprimerCategorie id owner =>
    obtain ⟨-, rfl⟩ := by simpa [Requete.effet, RequeteClassement.effet] using heffet
    refine mem_majTransaction_autre (f := fun t => { t with
      categorizationSource := .none, ruleId := none, categoryId := none })
        (fun t ht hp => ?_) hB ht fun _ => rfl
    obtain ⟨category, hcategory, hany⟩ := (Option.any_eq_true _ _).1 hp
    obtain ⟨c, hc, hmatch⟩ := Table.any_eq_true.1 hany
    obtain ⟨rfl, rfl, howner⟩ := by simpa using hmatch
    exact (hconfinee c hc rfl howner).1 t ht hcategory
  case classement.supprimerEnveloppe id owner =>
    obtain ⟨-, rfl⟩ := by simpa [Requete.effet, RequeteClassement.effet] using heffet
    refine mem_majTransaction_autre (f := fun t => { t with enveloppeId := none })
      (fun t ht hp => ?_) hB ht fun _ => rfl
    obtain ⟨enveloppe, henveloppe, hany⟩ := (Option.any_eq_true _ _).1 hp
    obtain ⟨e, he, hmatch⟩ := Table.any_eq_true.1 hany
    obtain ⟨rfl, rfl, howner⟩ := by simpa using hmatch
    exact hconfinee e he rfl howner t ht henveloppe
  case classement.affecterTransaction =>
    obtain rfl := hpour
    obtain ⟨-, rfl⟩ := by simpa [Requete.effet, RequeteClassement.effet] using heffet
    refine mem_majTransaction_autre (fun t _ hp => ?_) hB ht fun _ => rfl
    rw [Bool.and_eq_true, Bool.and_eq_true] at hp
    exact eq_of_txDe hp.1.2

/-- A statement for an owner leaves the categories of the others. -/
private theorem contient_category (heffet : r.effet col x s = .ok (v, s'))
    (hpour : r.Pour crypto U A s) (hB : B ≠ A) {c : Category} (hc : c.ownerId = some B) :
    c ∈ s'.category ↔ c ∈ s.category := by
  have hne : some A ≠ some B := fun h => hB (Option.some.inj h).symm
  by_cases hw : NomTable.category ∈ r.ecrit
  swap
  · exact (pareil_effet heffet hw : s'.category = s.category) ▸ Iff.rfl
  rcases r with r | r | r | r <;> cases r <;> try simp at hw
  case classement.creerCategorie =>
    obtain rfl := hpour
    obtain ⟨t, ht, -, rfl⟩ := by simpa [Requete.effet, RequeteClassement.effet] using heffet
    exact Table.mem_insert_outside (P := fun c => c.ownerId = some B) ht hne hc
  case classement.mettreAJourCategorie =>
    obtain rfl := hpour
    obtain ⟨-, rfl⟩ := by simpa [Requete.effet, RequeteClassement.effet] using heffet
    refine Table.mem_update_outside (P := fun c => c.ownerId = some B) rfl (fun c _ hp => ?_) hc
    obtain ⟨-, howner⟩ := by simpa using hp
    rw [howner]
    exact ⟨hne, hne⟩
  case classement.supprimerCategorie =>
    obtain rfl := hpour
    obtain ⟨-, rfl⟩ := by simpa [Requete.effet, RequeteClassement.effet] using heffet
    refine Table.mem_delete_outside (P := fun c => c.ownerId = some B) (fun c _ hp => ?_) hc
    obtain ⟨-, howner⟩ := by simpa using hp
    rw [howner]
    exact hne

/-- A statement for an owner leaves the rules of the others. -/
private theorem contient_regle (heffet : r.effet col x s = .ok (v, s'))
    (hpour : r.Pour crypto U A s) (hconfinee : r.Confinee s A) (hB : B ≠ A)
    {regle : RegleCategorisation} (hregle : regle.ownerId = B) :
    regle ∈ s'.reglesCategorisation ↔ regle ∈ s.reglesCategorisation := by
  by_cases hw : NomTable.reglesCategorisation ∈ r.ecrit
  swap
  · exact (pareil_effet heffet hw : s'.reglesCategorisation = s.reglesCategorisation) ▸ Iff.rfl
  rcases r with r | r | r | r <;> cases r <;> try simp at hw
  case classement.creerRegle =>
    obtain rfl := hpour
    simp only [Requete.effet, RequeteClassement.effet] at heffet
    split at heffet
    · obtain ⟨t, ht, -, rfl⟩ := by simpa using heffet
      exact Table.mem_insert_outside (P := fun regle => regle.ownerId = B) ht hB.symm hregle
    · rw [(lire_eq_ok.1 heffet).2]
  case classement.supprimerCategorie =>
    obtain ⟨-, rfl⟩ := by simpa [Requete.effet, RequeteClassement.effet] using heffet
    refine Table.mem_delete_outside (P := fun regle => regle.ownerId = B)
      (fun regle hmem hp => ?_) hregle
    obtain ⟨c, hc, hmatch⟩ := Table.any_eq_true.1 hp
    obtain ⟨hid, hid', howner⟩ := by simpa using hmatch
    rw [(hconfinee c hc hid' howner).2.1 regle hmem (hid.symm.trans hid')]
    exact hB.symm

/-- A statement for an owner leaves the budgets of the others. -/
private theorem contient_budget (heffet : r.effet col x s = .ok (v, s'))
    (hpour : r.Pour crypto U A s) (hconfinee : r.Confinee s A) (hB : B ≠ A) {b : Budget}
    (hb : b.ownerId = B) : b ∈ s'.budgets ↔ b ∈ s.budgets := by
  by_cases hw : NomTable.budgets ∈ r.ecrit
  swap
  · exact (pareil_effet heffet hw : s'.budgets = s.budgets) ▸ Iff.rfl
  rcases r with r | r | r | r <;> cases r <;> try simp at hw
  case classement.supprimerCategorie =>
    obtain ⟨-, rfl⟩ := by simpa [Requete.effet, RequeteClassement.effet] using heffet
    refine Table.mem_delete_outside (P := fun b => b.ownerId = B) (fun b hmem hp => ?_) hb
    obtain ⟨c, hc, hmatch⟩ := Table.any_eq_true.1 hp
    obtain ⟨hid, hid', howner⟩ := by simpa using hmatch
    rw [(hconfinee c hc hid' howner).2.2 b hmem (hid.symm.trans hid')]
    exact hB.symm
  case classement.enregistrerBudget =>
    obtain rfl := hpour
    simp only [Requete.effet, RequeteClassement.effet] at heffet
    split at heffet
    swap
    · rw [(lire_eq_ok.1 heffet).2]
    obtain ⟨-, heffet⟩ := exiger_eq_ok.1 heffet
    split at heffet
    · obtain ⟨-, rfl⟩ := by simpa using heffet
      refine Table.mem_update_outside (P := fun b => b.ownerId = B) rfl (fun b _ hp => ?_) hb
      obtain ⟨⟨rfl, -⟩, -⟩ := by simpa [and_assoc] using hp
      exact ⟨hB.symm, hB.symm⟩
    · obtain ⟨t, ht, -, rfl⟩ := by simpa using heffet
      exact Table.mem_insert_outside (P := fun b => b.ownerId = B) ht hB.symm hb

/-- A statement for an owner leaves the preferences of the others. -/
private theorem contient_preferences (heffet : r.effet col x s = .ok (v, s'))
    (hpour : r.Pour crypto U A s) (hB : B ≠ A) {p : PreferencesRow} (hp : p.ownerId = B) :
    p ∈ s'.preferencesUtilisateur ↔ p ∈ s.preferencesUtilisateur := by
  by_cases hw : NomTable.preferencesUtilisateur ∈ r.ecrit
  swap
  · exact (pareil_effet heffet hw :
      s'.preferencesUtilisateur = s.preferencesUtilisateur) ▸ Iff.rfl
  rcases r with r | r | r | r <;> cases r <;> try simp at hw
  case classement.definirJourDebutMois =>
    obtain rfl := hpour
    simp only [Requete.effet, RequeteClassement.effet] at heffet
    obtain ⟨-, heffet⟩ := exiger_eq_ok.1 heffet
    split at heffet
    · rename_i t ht
      obtain ⟨-, rfl⟩ := by simpa using heffet
      exact Table.mem_insert_outside (P := fun p => p.ownerId = B) ht hB.symm hp
    · obtain ⟨-, rfl⟩ := by simpa using heffet
      refine Table.mem_update_outside (P := fun p => p.ownerId = B) rfl (fun p _ hp => ?_) hp
      obtain rfl := by simpa using hp
      exact ⟨hB.symm, hB.symm⟩

/-- A statement for an owner leaves the envelopes of the others. -/
private theorem contient_enveloppe (heffet : r.effet col x s = .ok (v, s'))
    (hpour : r.Pour crypto U A s) (hB : B ≠ A) {e : Enveloppe} (he : e.proprietaire = B) :
    e ∈ s'.enveloppe ↔ e ∈ s.enveloppe := by
  by_cases hw : NomTable.enveloppe ∈ r.ecrit
  swap
  · exact (pareil_effet heffet hw : s'.enveloppe = s.enveloppe) ▸ Iff.rfl
  rcases r with r | r | r | r <;> cases r <;> try simp at hw
  case classement.creerEnveloppe =>
    obtain rfl := hpour
    obtain ⟨-, -, t, ht, -, rfl⟩ := by
      simpa [Requete.effet, RequeteClassement.effet] using heffet
    exact Table.mem_insert_outside (P := fun e => e.proprietaire = B) ht hB.symm he
  case classement.modifierEnveloppe =>
    obtain rfl := hpour
    simp only [Requete.effet, RequeteClassement.effet] at heffet
    split at heffet
    · obtain ⟨-, -, -, rfl⟩ := by simpa using heffet
      refine Table.mem_update_outside (P := fun e => e.proprietaire = B) rfl (fun e _ hp => ?_) he
      obtain ⟨-, rfl⟩ := by simpa using hp
      exact ⟨hB.symm, hB.symm⟩
    · rw [(lire_eq_ok.1 heffet).2]
  case classement.supprimerEnveloppe =>
    obtain rfl := hpour
    obtain ⟨-, rfl⟩ := by simpa [Requete.effet, RequeteClassement.effet] using heffet
    refine Table.mem_delete_outside (P := fun e => e.proprietaire = B) (fun e _ hp => ?_) he
    obtain ⟨-, rfl⟩ := by simpa using hp
    exact hB.symm

/-- A statement made for `A`, and confined to `A`, leaves the rows of `B`. -/
theorem patrimoine_effet (heffet : r.effet col x s = .ok (v, s')) (hpour : r.Pour crypto U A s)
    (hconfinee : r.Confinee s A) (hB : B ≠ A) : s'.patrimoine B = s.patrimoine B := by
  have hcompte : ∀ a : BankAccountRow, a.ownerId = B → (a ∈ s'.bankAccount ↔ a ∈ s.bankAccount) :=
    fun a ha => contient_compte heffet hpour hconfinee hB ha
  -- the accounts of `B` are the same, so `B` has the same balances and transactions
  have howner : ∀ compte,
      s'.proprietaireDuCompte compte = some B ↔ s.proprietaireDuCompte compte = some B := by
    intro compte
    rw [Store.proprietaireDuCompte_eq_some, Store.proprietaireDuCompte_eq_some]
    constructor <;>
    · rintro ⟨a, ha, hid, hB⟩
      first
        | exact ⟨a, (hcompte a hB).1 ha, hid, hB⟩
        | exact ⟨a, (hcompte a hB).2 ha, hid, hB⟩
  ext l
  cases l with
  | consent c => exact and_congr_left fun h =>
      contient_consent heffet hpour hB (Option.some.inj h)
  | compte a => exact and_congr_left fun h => hcompte a (Option.some.inj h)
  | balance b =>
      simp only [Store.mem_patrimoine, Store.Contient, Store.proprietaireDe, howner]
      exact and_congr_left fun h => contient_balance heffet hpour hconfinee hB h
  | transaction t =>
      simp only [Store.mem_patrimoine, Store.Contient, Store.proprietaireDe, howner]
      exact and_congr_left fun h => contient_transaction heffet hpour hconfinee hB h
  | category c => exact and_congr_left fun h => contient_category heffet hpour hB h
  | regle regle => exact and_congr_left fun h =>
      contient_regle heffet hpour hconfinee hB (Option.some.inj h)
  | budget b => exact and_congr_left fun h =>
      contient_budget heffet hpour hconfinee hB (Option.some.inj h)
  | preferences p => exact and_congr_left fun h =>
      contient_preferences heffet hpour hB (Option.some.inj h)
  | enveloppe e => exact and_congr_left fun h =>
      contient_enveloppe heffet hpour hB (Option.some.inj h)

end Effects

/-- A request made for `A`, and confined to `A`, leaves the rows of `B`. -/
theorem patrimoine_after {col : Collation} {crypto : CryptoService} {U : Set (List UInt8)}
    {A B : ProprietaireId} {e : Evenement col} (h : e.Pour crypto U A)
    (hconfinee : ∀ r, e.op = .sql r → r.Confinee e.before A) (hB : B ≠ A) :
    e.after.patrimoine B = e.before.patrimoine B := by
  rcases after_cases e with hsame | ⟨r, x, v, hop, heffet⟩
  · rw [hsame]
  · have hpour : Op.Pour crypto U A e.before e.op := h
    rw [hop] at hpour
    exact patrimoine_effet heffet hpour (hconfinee r hop) hB

end Budgy
