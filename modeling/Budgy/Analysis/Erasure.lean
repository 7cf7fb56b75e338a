import Budgy.Analysis.Ownership
import Budgy.Analysis.Scenarios

/-!
# What the erasure of an owner leaves

The erasure deletes the accounts, then the consents, and what hangs from them.
`effacer_ok` gives the database it ends with; `effacement_complet_iff` says when
this is the whole of what the owner had, and nothing else.
-/

set_option autoImplicit false

namespace Budgy

open Effects Relational

namespace Store

variable {s : Store} {A B : ProprietaireId} {l : Ligne}

/-- An account is erased with its owner, or with the consent it hangs from. -/
def CompteEfface (s : Store) (A : ProprietaireId) (a : BankAccountRow) : Prop :=
  a.ownerId = A ∨ ∃ c ∈ s.consent, c.id = a.consentId ∧ c.ownerId = A

/-- The database without the accounts and the consents of `A`. -/
def sansBanque (s : Store) (A : ProprietaireId) : Store :=
  (s.supprimerComptes fun a => a.ownerId = A).supprimerConsents fun c => c.ownerId = A

/-- The rows the erasure of `A` takes. -/
def Efface (s : Store) (A : ProprietaireId) : Ligne → Prop
  | .consent c => c.ownerId = A
  | .compte a => s.CompteEfface A a
  | .balance b => ∃ a ∈ s.bankAccount, a.id = b.bankAccountId ∧ s.CompteEfface A a
  | .transaction t => ∃ a ∈ s.bankAccount, a.id = t.bankAccountId ∧ s.CompteEfface A a
  | _ => False

section SansBanque

/-- The accounts that the erasure deleted first are those of the owner. -/
private theorem atteint_consent (a : BankAccountRow) :
    ((s.supprimerComptes fun a => a.ownerId = A).consent.any fun c =>
      c.id = a.consentId && c.ownerId = A) = true ↔
      ∃ c ∈ s.consent, c.id = a.consentId ∧ c.ownerId = A := by
  rw [Table.any_eq_true]
  simp [supprimerComptes]

/-- What hangs from an account goes at the first deletion or at the second. -/
private theorem atteint_compte {compte : Uuid} :
    ((∃ a ∈ s.bankAccount, a.id = compte ∧ decide (a.ownerId = A) = true) ∨
      ∃ a ∈ (s.supprimerComptes fun a => a.ownerId = A).bankAccount, a.id = compte ∧
        ((s.supprimerComptes fun a => a.ownerId = A).consent.any fun c =>
          c.id = a.consentId && c.ownerId = A) = true) ↔
      ∃ a ∈ s.bankAccount, a.id = compte ∧ s.CompteEfface A a := by
  simp only [atteint_consent, decide_eq_true_eq, CompteEfface]
  constructor
  · rintro (⟨a, ha, hid, howner⟩ | ⟨a, ha, hid, hconsent⟩)
    · exact ⟨a, ha, hid, .inl howner⟩
    · exact ⟨a, (Table.mem_delete.1 ha).1, hid, .inr hconsent⟩
  · rintro ⟨a, ha, hid, howner | hconsent⟩
    · exact .inl ⟨a, ha, hid, howner⟩
    · by_cases howner : a.ownerId = A
      · exact .inl ⟨a, ha, hid, howner⟩
      · exact .inr ⟨a, Table.mem_delete.2 ⟨ha, by simpa using howner⟩, hid, hconsent⟩

/-- What the erasure leaves to an owner. -/
theorem mem_patrimoine_sansBanque :
    l ∈ (s.sansBanque A).patrimoine B ↔ l ∈ s.patrimoine B ∧ ¬ s.Efface A l := by
  rw [sansBanque, mem_patrimoine_supprimerConsents, mem_patrimoine_supprimerComptes, and_assoc]
  refine and_congr_right fun _ => ?_
  rw [← not_or]
  refine not_congr ?_
  cases l with
  | compte a =>
      simp only [AtteintParComptes, AtteintParConsents, Efface, CompteEfface, atteint_consent,
        decide_eq_true_eq]
  | balance b => exact atteint_compte
  | transaction t => exact atteint_compte
  | consent | category | regle | budget | preferences | enveloppe =>
      simp [AtteintParComptes, AtteintParConsents, Efface]

end SansBanque

/-- The tables the erasure empties of an owner. -/
def tablesEffacees : List NomTable := [.consent, .bankAccount, .balance, .bankTransaction]

/-- What the erasure reaches is what its tables hold. -/
theorem efface_iff (hl : l ∈ s.patrimoine A) : s.Efface A l ↔ l.table ∈ tablesEffacees := by
  obtain ⟨-, howner⟩ := hl
  cases l with
  | consent c => simpa [Efface, Ligne.table, tablesEffacees] using Option.some.inj howner
  | compte a =>
      simpa [Efface, CompteEfface, Ligne.table, tablesEffacees] using .inl (Option.some.inj howner)
  | balance b =>
      obtain ⟨a, ha, hid, howner⟩ := proprietaireDuCompte_eq_some.1 howner
      exact iff_of_true ⟨a, ha, hid, .inl howner⟩ (by simp [Ligne.table, tablesEffacees])
  | transaction t =>
      obtain ⟨a, ha, hid, howner⟩ := proprietaireDuCompte_eq_some.1 howner
      exact iff_of_true ⟨a, ha, hid, .inl howner⟩ (by simp [Ligne.table, tablesEffacees])
  | category | regle | budget | preferences | enveloppe =>
      simp [Efface, Ligne.table, tablesEffacees]

/-- What the erasure forgets, table by table. -/
theorem tablesEffacees_iff :
    (∀ l ∈ s.patrimoine A, l.table ∈ tablesEffacees) ↔
      (∀ c ∈ s.category, c.ownerId ≠ some A) ∧ (∀ r ∈ s.reglesCategorisation, r.ownerId ≠ A) ∧
        (∀ b ∈ s.budgets, b.ownerId ≠ A) ∧ (∀ p ∈ s.preferencesUtilisateur, p.ownerId ≠ A) ∧
          ∀ e ∈ s.enveloppe, e.proprietaire ≠ A := by
  constructor
  · intro h
    refine ⟨?_, ?_, ?_, ?_, ?_⟩
    · intro c hc howner
      exact absurd (h (.category c) ⟨hc, howner⟩) (by simp [Ligne.table, tablesEffacees])
    · rintro r hr rfl
      exact absurd (h (.regle r) ⟨hr, rfl⟩) (by simp [Ligne.table, tablesEffacees])
    · rintro b hb rfl
      exact absurd (h (.budget b) ⟨hb, rfl⟩) (by simp [Ligne.table, tablesEffacees])
    · rintro p hp rfl
      exact absurd (h (.preferences p) ⟨hp, rfl⟩) (by simp [Ligne.table, tablesEffacees])
    · rintro e he rfl
      exact absurd (h (.enveloppe e) ⟨he, rfl⟩) (by simp [Ligne.table, tablesEffacees])
  · rintro ⟨hcategory, hregle, hbudget, hpreferences, henveloppe⟩ l ⟨hl, howner⟩
    cases l with
    | category c => exact absurd howner (hcategory c hl)
    | regle r => exact absurd (Option.some.inj howner) (hregle r hl)
    | budget b => exact absurd (Option.some.inj howner) (hbudget b hl)
    | preferences p => exact absurd (Option.some.inj howner) (hpreferences p hl)
    | enveloppe e => exact absurd (Option.some.inj howner) (henveloppe e hl)
    | consent | compte | balance | transaction => simp [Ligne.table, tablesEffacees]

/-- Nothing of `A` is left exactly when it was all in the tables of the bank. -/
theorem patrimoine_sansBanque_eq_empty :
    (s.sansBanque A).patrimoine A = ∅ ↔ ∀ l ∈ s.patrimoine A, l.table ∈ tablesEffacees := by
  rw [Set.eq_empty_iff_forall_notMem]
  refine forall_congr' fun l => ?_
  rw [mem_patrimoine_sansBanque]
  constructor
  · exact fun h hl => (efface_iff hl).1 (by_contra fun hkept => h ⟨hl, hkept⟩)
  · exact fun h hl => hl.2 ((efface_iff hl.1).2 (h hl.1))

/-- The others keep everything exactly when none of their accounts hangs from a
consent of `A`. -/
theorem patrimoine_sansBanque_autres :
    (∀ B, B ≠ A → (s.sansBanque A).patrimoine B = s.patrimoine B) ↔
      ∀ a ∈ s.bankAccount, ∀ c ∈ s.consent, c.id = a.consentId → c.ownerId = A →
        a.ownerId = A := by
  constructor
  · intro h a ha c hc hid howner
    by_contra hB
    have hmem : Ligne.compte a ∈ (s.sansBanque A).patrimoine a.ownerId := by
      rw [h _ hB]
      exact ⟨ha, rfl⟩
    exact (mem_patrimoine_sansBanque.1 hmem).2 (.inr ⟨c, hc, hid, howner⟩)
  · intro h B hB
    have hcompte : ∀ a ∈ s.bankAccount, a.ownerId = B → ¬ s.CompteEfface A a := by
      rintro a ha rfl (howner | ⟨c, hc, hid, howner⟩)
      · exact hB howner
      · exact hB (h a ha c hc hid howner)
    ext l
    rw [mem_patrimoine_sansBanque]
    refine ⟨And.left, fun hl => ⟨hl, ?_⟩⟩
    obtain ⟨hl, howner⟩ := hl
    cases l with
    | consent c =>
        rintro rfl
        exact hB (Option.some.inj howner).symm
    | compte a => exact hcompte a hl (Option.some.inj howner)
    | balance b =>
        rintro ⟨a, ha, hid, hefface⟩
        obtain ⟨a', ha', hid', howner'⟩ := proprietaireDuCompte_eq_some.1 howner
        obtain rfl := Table.eq_of_key_eq ha ha' (hid.trans hid'.symm)
        exact hcompte a ha howner' hefface
    | transaction t =>
        rintro ⟨a, ha, hid, hefface⟩
        obtain ⟨a', ha', hid', howner'⟩ := proprietaireDuCompte_eq_some.1 howner
        obtain rfl := Table.eq_of_key_eq ha ha' (hid.trans hid'.symm)
        exact hcompte a ha howner' hefface
    | category | regle | budget | preferences | enveloppe => exact id

end Store

/-! ## The program -/

section Programme

variable {col : Collation} {crypto : CryptoService} {A : ProprietaireId} {s s' : Store}

/-- The calls to the bank leave the database as it is. -/
private theorem guarded_revoquer {rapport : RapportEffacement} {consent : Consent} :
    Guarded (machine col) (fun _ => True) (Effacement.revoquer rapport consent).run s
      fun _ s' => s' = s := by
  refine Guarded.run_bind (R := fun _ s' => s' = s) (Guarded.run_attempt ?_) ?_ fun _ _ h => h
  · exact guarded_perform.2 fun _ => ⟨trivial, rfl⟩
  · rintro (_ | _) s' rfl <;> exact guarded_run_pure.2 rfl

/-- Listing the active consents changes nothing. -/
private theorem guarded_actifs :
    Guarded (machine col) (fun _ => True)
      (ConsentsAdapter.listerActifsParProprietaire crypto A).run s (OnOk fun _ s' => s' = s) := by
  refine Guarded.ok_mapError (Guarded.ok_bind (Guarded.ok_mapError
    (guarded_interroger_ok (Q := fun _ s' => s' = s) (fun _ => trivial) ?_)) ?_)
  · intro x v s' heffet
    exact (lire_eq_ok.1 heffet).2
  · rintro rows _ rfl
    refine guarded_pure.2 ?_
    cases rows.mapM (Consents.intoConsent crypto) with
    | error e => trivial
    | ok consents => exact rfl

/-- The accounts of the owner are deleted. -/
private theorem guarded_supprimerComptes :
    Guarded (machine col) (fun _ => True) (BankAccountsAdapter.supprimerParProprietaire A).run s
      (OnOk fun _ s' => s' = s.supprimerComptes fun a => a.ownerId = A) := by
  refine Guarded.ok_mapError (Guarded.ok_mapError (guarded_interroger_ok (fun _ => trivial) ?_))
  intro x v s' heffet
  obtain ⟨-, rfl⟩ := by simpa [Requete.effet, RequeteCompte.effet] using heffet
  rfl

/-- The consents of the owner are deleted. -/
private theorem guarded_supprimerConsents :
    Guarded (machine col) (fun _ => True) (ConsentsAdapter.supprimerParProprietaire A).run s
      (OnOk fun _ s' => s' = s.supprimerConsents fun c => c.ownerId = A) := by
  refine Guarded.ok_mapError (Guarded.ok_mapError (guarded_interroger_ok (fun _ => trivial) ?_))
  intro x v s' heffet
  obtain ⟨-, rfl⟩ := by simpa [Requete.effet, RequeteConsent.effet] using heffet
  rfl

/-- The erasure that answers without error has made its two deletions. -/
theorem effacer_ok {rapport : RapportEffacement} {t : List (Evenement col)}
    (h : Runs (machine col) (Effacement.effacerDonneesProprietaire crypto A).run s t
      (.ok rapport) s') : s' = s.sansBanque A := by
  suffices hspec : Guarded (machine col) (fun _ => True)
      (Effacement.effacerDonneesProprietaire crypto A).run s
      (OnOk fun _ s' => s' = s.sansBanque A) from (hspec h).2
  refine Guarded.ok_bind (Guarded.ok_mapError guarded_actifs) ?_
  rintro actifs s₁ rfl
  refine Guarded.ok_bind (R := fun _ s' => s' = s₁) (Guarded.onOk ?_) ?_
  · refine (Guarded.run_foldlM (I := (· = s₁)) rfl ?_).mono fun _ _ hs' _ _ => hs'
    rintro rapport consent - s rfl
    exact guarded_revoquer
  rintro rapport s₂ rfl
  refine Guarded.ok_bind (Guarded.ok_mapError guarded_supprimerComptes) ?_
  rintro comptes s₃ rfl
  refine Guarded.ok_bind (Guarded.ok_mapError guarded_supprimerConsents) ?_
  rintro consents s₄ rfl
  exact guarded_run_pure.2 rfl

/-- The erasure of `A` takes all that `A` has and nothing else if and only if `A` has
nothing outside the tables of the bank and no account of another owner hangs from a
consent of `A`. -/
theorem effacement_complet_iff {rapport : RapportEffacement} {t : List (Evenement col)}
    (h : Runs (machine col) (Effacement.effacerDonneesProprietaire crypto A).run s t
      (.ok rapport) s') :
    (s'.patrimoine A = ∅ ∧ ∀ B, B ≠ A → s'.patrimoine B = s.patrimoine B) ↔
      (∀ l ∈ s.patrimoine A, l.table ∈ Store.tablesEffacees) ∧
        ∀ a ∈ s.bankAccount, ∀ c ∈ s.consent, c.id = a.consentId → c.ownerId = A →
          a.ownerId = A := by
  rw [effacer_ok h, Store.patrimoine_sansBanque_eq_empty, Store.patrimoine_sansBanque_autres]

/-- A user who only created a category. -/
def avecCategorie : Store :=
  Scenario.calme.fin [.createCategory "alice" ⟨"Sport", "depense", none, none⟩]

/-- The erasure of the user, from a given database. -/
def effacementAlice (s : Store) : Outcome (machine Scenario.collation)
    (Except EffacementError RapportEffacement) :=
  run _ Scenario.calme.choix (Effacement.effacerDonneesProprietaire enClair "alice").run 0 s

/-- Nothing is left of a user who only attached an account. -/
theorem effacement_avecCompte :
    (effacementAlice avecCompte).state.patrimoine "alice" = ∅ ∧
      ∀ B, B ≠ "alice" →
        (effacementAlice avecCompte).state.patrimoine B = avecCompte.patrimoine B := by
  have hvalue : (effacementAlice avecCompte).value = .ok ⟨1, 1, 1, 0⟩ := by decide +kernel
  have hrun := runs_run (M := machine Scenario.collation) Scenario.calme.choix
    (Effacement.effacerDonneesProprietaire enClair "alice").run 0 avecCompte
  refine (effacement_complet_iff (hvalue ▸ hrun)).2 ⟨Store.tablesEffacees_iff.2 ?_, ?_⟩
  · have hrows : (∀ c ∈ avecCompte.category.rows, c.ownerId ≠ some "alice") ∧
        (∀ r ∈ avecCompte.reglesCategorisation.rows, r.ownerId ≠ "alice") ∧
        (∀ b ∈ avecCompte.budgets.rows, b.ownerId ≠ "alice") ∧
        (∀ p ∈ avecCompte.preferencesUtilisateur.rows, p.ownerId ≠ "alice") ∧
        ∀ e ∈ avecCompte.enveloppe.rows, e.proprietaire ≠ "alice" := by
      decide +kernel
    exact hrows
  · have hrows : ∀ a ∈ avecCompte.bankAccount.rows, a.ownerId = "alice" := by decide +kernel
    exact fun a ha _ _ _ _ => hrows a ha

/-- Her category survives the erasure. -/
theorem not_effacement_avecCategorie :
    Runs (machine Scenario.collation) (Effacement.effacerDonneesProprietaire enClair "alice").run
        avecCategorie (effacementAlice avecCategorie).trace (.ok ⟨0, 0, 0, 0⟩)
        (effacementAlice avecCategorie).state ∧
      (effacementAlice avecCategorie).state.patrimoine "alice" ≠ ∅ := by
  have hvalue : (effacementAlice avecCategorie).value = .ok ⟨0, 0, 0, 0⟩ := by decide +kernel
  have hrun := runs_run (M := machine Scenario.collation) Scenario.calme.choix
    (Effacement.effacerDonneesProprietaire enClair "alice").run 0 avecCategorie
  refine ⟨hvalue ▸ hrun, ?_⟩
  have hrow : ∃ c ∈ (effacementAlice avecCategorie).state.category.rows,
      c.ownerId = some "alice" := by
    decide +kernel
  obtain ⟨c, hc, howner⟩ := hrow
  exact Set.Nonempty.ne_empty ⟨.category c, hc, howner⟩

end Programme

end Budgy
