import Budgy.Analysis.Concurrency
import Budgy.Analysis.Evolution

/-!
# Internal transfers and automatic categories

The automatic paths leave flagged transactions out of what they list, but their updates
test the source of a row and not its flag.  So a transaction that is flagged between the
listing and the update ends up both flagged and classified by a rule, and
`separe_iff_horsVirements` says that this is the only way.
-/

set_option autoImplicit false

namespace Budgy

open Effects RequeteTransaction

/-- No transaction is both an internal transfer and classified automatically. -/
def Store.Separe (s : Store) : Prop :=
  ∀ t ∈ s.bankTransaction, ¬ (t.isInternalTransfer = true ∧ t.categorizationSource = .rule)

/-- The statement classifies the transaction automatically. -/
def Requete.Classe (s : Store) (t : BankTransactionRow) : Requete → Prop
  | .transaction (.appliquerRegle _ _ cible owner) =>
      s.txDe owner t = true ∧ t.id = cible ∧ t.categorizationSource ≠ .manual
  | .transaction (.appliquerRegleParLot _ _ ids owner)
  | .transaction (.appliquerCategorieDefautParLot _ ids owner) =>
      s.txDe owner t = true ∧ t.id ∈ ids ∧ t.categorizationSource = .none
  | _ => False

/-- If the request classifies transactions automatically and takes effect, none of them
is an internal transfer at that instant. -/
def Evenement.HorsVirements {col : Collation} (e : Evenement col) : Prop :=
  ∀ r, e.op = .sql r → Evenement.Reussi e → ∀ t ∈ e.before.bankTransaction,
    r.Classe e.before t → t.isInternalTransfer = false

section Effects

variable {col : Collation} {x : ChoixSql} {s s' : Store} {r : Requete} {v : r.Reponse}

/-- What is classified automatically keeps its flag. -/
private theorem exists_of_classe (heffet : r.effet col x s = .ok (v, s')) {t : BankTransactionRow}
    (ht : t ∈ s.bankTransaction) (hr : r.Classe s t) :
    ∃ t' ∈ s'.bankTransaction, t'.isInternalTransfer = t.isInternalTransfer ∧
      t'.categorizationSource = .rule := by
  rcases r with r | r | r | r <;> cases r <;> try exact hr.elim
  case transaction.appliquerRegle | transaction.appliquerRegleParLot |
    transaction.appliquerCategorieDefautParLot =>
    obtain ⟨howner, hid, hsource⟩ := hr
    simp only [Requete.effet, RequeteTransaction.effet, exigerCategorie, majDe, exiger_eq_ok,
      Except.ok.injEq, Prod.mk.injEq] at heffet
    obtain ⟨-, -, rfl⟩ := heffet
    refine ⟨_, Store.mem_majTransaction.2 ⟨t, ht, rfl⟩, ?_⟩
    simp [howner, hid, hsource]

/-- The flags stay apart from the rules unless a flagged transaction is classified. -/
private theorem separe_effet (h : s.Separe) (heffet : r.effet col x s = .ok (v, s'))
    (hr : ∀ t ∈ s.bankTransaction, r.Classe s t → t.isInternalTransfer = false) : s'.Separe := by
  intro t ht hboth
  rcases transaction_effet heffet ht with ⟨t₀, ht₀, hdevient⟩ | ⟨l, -, rfl, -⟩
  swap
  · exact nomatch hboth.1
  have hold := h t₀ ht₀
  cases hdevient
  case categorisee | marquee | sansCategorie => exact nomatch hboth.2
  case regle category regle transaction owner howner hid hsource _ =>
    exact nomatch (hr t₀ ht₀ ⟨howner, hid, hsource⟩).symm.trans hboth.1
  case regleParLot category regle ids owner howner hid hsource _ =>
    exact nomatch (hr t₀ ht₀ ⟨howner, hid, hsource⟩).symm.trans hboth.1
  case defaut category ids owner howner hid hsource _ =>
    exact nomatch (hr t₀ ht₀ ⟨howner, hid, hsource⟩).symm.trans hboth.1
  case reinitialisee => exact nomatch hboth.1
  case marqueeManuelle hsource => exact nomatch hsource.symm.trans hboth.2
  case intacte | observee | recurrente | sansEnveloppe | affectee => exact hold hboth

end Effects

section Events

variable {col : Collation} {e : Evenement col}

/-- A statement that spares the transfers keeps them apart from the categories. -/
theorem Store.Separe.after (h : e.before.Separe) (he : Evenement.HorsVirements e) :
    e.after.Separe := by
  by_cases hsame : e.after = e.before
  · rwa [hsame]
  rcases after_cases e with hafter | ⟨r, x, v, hop, heffet⟩
  · exact absurd hafter hsame
  · exact separe_effet h heffet (he r hop (reussi_of_after_ne hsame))

/-- In a store where they are apart, the statement before has spared the transfers. -/
theorem Store.Separe.horsVirements (h : e.after.Separe) : Evenement.HorsVirements e := by
  obtain ⟨s, o, x⟩ := e
  rintro r hop hreussi t ht hr
  obtain rfl : o = .sql r := hop
  obtain ⟨v, s', heffet, hafter⟩ := effet_of_reussi hreussi
  rw [hafter] at h
  obtain ⟨t', ht', hflag, hsource⟩ := exists_of_classe heffet ht hr
  rw [← Bool.not_eq_true, ← hflag]
  exact fun htrue => h t' ht' ⟨htrue, hsource⟩

end Events

section Runs

variable {ι : Type} [DecidableEq ι] {col : Collation} {cfg : Configuration}
  {demandes : ι → Operation} {s s' : Store} {l : List (ι × Evenement col)}
  {pool' : ι → Programme Issue}

/-- In an interleaving of any operations, no transaction is ever both an internal transfer
and classified automatically if and only if no automatic update finds a transaction that
was flagged since it was listed. -/
theorem separe_iff_horsVirements (hs : s.Separe)
    (h : Entrelacement col cfg demandes s l pool' s') :
    (∀ x ∈ l, (Event.after x.2).Separe) ↔ ∀ x ∈ l, Evenement.HorsVirements x.2 := by
  refine ⟨fun hall x hx => (hall x hx).horsVirements, fun hall x hx => ?_⟩
  exact (h.preserves_events (I := Store.Separe) hs (fun y hy hbefore => hbefore.after (hall y hy))
    x hx).2

end Runs

/-! ## A transfer recognised while a rule is applied -/

/-- The observation of one side of a transfer. -/
def faceDuVirement (compte : Uuid) (externe : String) (montant : ℤ) :
    NouvelleTransactionBancaire :=
  observationDe compte externe "Epargne" montant 20000

/-- The two sides of a transfer are stored, not recognised yet. -/
def deuxFaces : Store :=
  Scenario.deuxComptes.fin
    [.createConsent "alice" "banque", .completeConsent "alice" reponseBanque,
      .enregistrer (faceDuVirement (Uuid.fromU128 1013) "T1" (-5000)),
      .enregistrer (faceDuVirement (Uuid.fromU128 1016) "T2" 5000)]

/-- The scenario begins with transfers apart from the categories. -/
theorem separe_deuxFaces : deuxFaces.Separe := by
  have hsource : ∀ t ∈ deuxFaces.bankTransaction.rows, t.categorizationSource = .none := by
    decide +kernel
  intro t ht hboth
  exact nomatch (hsource t ht).symm.trans hboth.2

/-- A rule for the label of the transfer, and the recognition of transfers. -/
def regleEtVirements : Bool → Operation
  | false => .createRule "alice" ⟨"epargne", Uuid.fromU128 1, none⟩
  | true => .recalculerTransfertsInternes "alice"

/-- The rule lists the two sides, they are recognised, then the rule is applied. -/
def virementClasse :
    List (Bool × Evenement Scenario.collation) × (Bool → Programme Issue) × Store :=
  Scenario.deuxComptes.cote regleEtVirements [false, false, true, true, true, false] deuxFaces

/-- The two sides end up flagged and classified by the rule. -/
theorem not_separe_virementClasse :
    deuxFaces.Separe ∧
      Entrelacement Scenario.collation Scenario.configuration regleEtVirements deuxFaces
        virementClasse.1 virementClasse.2.1 virementClasse.2.2 ∧
      ¬ virementClasse.2.2.Separe := by
  refine ⟨separe_deuxFaces, Scenario.deuxComptes.entrelacement _ _ _, ?_⟩
  have hbad : ∃ t ∈ virementClasse.2.2.bankTransaction.rows,
      t.isInternalTransfer = true ∧ t.categorizationSource = .rule := by
    decide +kernel
  obtain ⟨t, ht, hboth⟩ := hbad
  exact fun h => h t ht hboth

/-- Some automatic update of that interleaving found a flagged transaction. -/
theorem not_horsVirements_virementClasse :
    ¬ ∀ x ∈ virementClasse.1, Evenement.HorsVirements x.2 := by
  have hbad : ∃ x ∈ virementClasse.1, ∃ t ∈ (Event.after x.2).bankTransaction.rows,
      t.isInternalTransfer = true ∧ t.categorizationSource = .rule := by
    decide +kernel
  intro hall
  obtain ⟨x, hx, t, ht, hboth⟩ := hbad
  have h := Scenario.deuxComptes.entrelacement regleEtVirements
    [false, false, true, true, true, false] deuxFaces
  rw [← virementClasse] at h
  exact (separe_iff_horsVirements separe_deuxFaces h).2 hall x hx t ht hboth

end Budgy
