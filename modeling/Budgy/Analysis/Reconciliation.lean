import Budgy.Analysis.Footprint
import Budgy.Analysis.MonthlyTotals
import Budgy.Analysis.TransferRecalculation

/-!
# What a reconciliation does

A reconciliation recalculates the transfers, then runs one batch for each rule, then one
for the credits that are left.  A batch lists candidates under a limit, chooses among them
once they are decrypted, and classifies those it chose if they still have no category:
`Store.Lot` says so of every batch, and `spec_recategoriserCredits` strings the batches
together.
-/

set_option autoImplicit false

namespace Budgy

open Effects Relational RequeteTransaction

/-! ## What a row shows -/

section Rows

variable (crypto : CryptoService) (owner : ProprietaireId) (t : BankTransactionRow)

/-- The label of a row, when it can be decrypted. -/
def BankTransactionRow.libelleClair : Option String :=
  (dechiffrerTexte crypto owner "bank_transaction" "label" t.label).toOption

/-- A candidate for the rules: neither classified nor internal. -/
def BankTransactionRow.aClasser : Bool := t.categoryId = none && !t.isInternalTransfer

/-- A candidate for the default category. -/
def BankTransactionRow.aCrediter : Bool :=
  t.categorizationSource = .none && !t.isInternalTransfer

/-- The row is a credit. -/
def BankTransactionRow.credit : Bool := (t.montantClair crypto owner).any fun m => 0 ≤ m

/-- The rule matches the label of the row. -/
def RegleCategorisation.vise (regle : RegleCategorisation) : Bool :=
  (t.libelleClair crypto owner).any regle.correspond

end Rows

/-- What a batch writes in a row. -/
def BankTransactionRow.classee (category : CategoryId) (regle? : Option RegleCategorisationId)
    (t : BankTransactionRow) : BankTransactionRow :=
  { t with categoryId := some category, categorizationSource := .rule, ruleId := regle? }

/-- The row is among those listed, chosen, and still without a source. -/
def BankTransactionRow.touchee (vus : List BankTransactionRow) (choisie : BankTransactionRow → Bool)
    (t : BankTransactionRow) : Bool :=
  vus.contains t && (choisie t && t.categorizationSource = .none)

/-- A batch touches the rows it has seen and chosen that are still uncategorised. -/
theorem BankTransactionRow.touchee_eq_true {vus : List BankTransactionRow}
    {choisie : BankTransactionRow → Bool} {t : BankTransactionRow} :
    t.touchee vus choisie = true ↔
      t ∈ vus ∧ choisie t = true ∧ t.categorizationSource = .none := by
  simp [touchee]

/-- A row that some batch may classify. -/
def BankTransactionRow.enSuspens (t : BankTransactionRow) : Bool := t.aClasser || t.aCrediter

section Classee

variable (category : CategoryId) (regle? : Option RegleCategorisationId) (t : BankTransactionRow)

/-- A categorised row is no longer one to categorise by a rule. -/
@[simp]
theorem BankTransactionRow.aClasser_classee : (t.classee category regle?).aClasser = false := by
  simp [aClasser, classee]

/-- A categorised row is no longer a credit to categorise by default. -/
@[simp]
theorem BankTransactionRow.aCrediter_classee : (t.classee category regle?).aCrediter = false := by
  simp [aCrediter, classee]

/-- A categorised row is no longer in suspense. -/
@[simp]
theorem BankTransactionRow.enSuspens_classee : (t.classee category regle?).enSuspens = false := by
  simp [enSuspens]

end Classee

/-! ## Batches -/

/-- What a listing under the limit shows: transactions of the owner that satisfy the
condition, and all of them when they are not too many. -/
structure Store.Liste (s : Store) (owner : ProprietaireId) (candidat : BankTransactionRow → Bool)
    (vus : List BankTransactionRow) : Prop where
  candidats : ∀ t ∈ vus, t ∈ s.bankTransaction ∧ s.txDe owner t = true ∧ candidat t = true
  coupee : vus.length ≤ limiteRetroactif
  entiere : (s.bankTransaction.count fun t => s.txDe owner t && candidat t) ≤ limiteRetroactif →
    ∀ t ∈ s.bankTransaction, s.txDe owner t = true → candidat t = true → t ∈ vus

/-- A batch: what it listed, and the rows it chose in it and classified. -/
structure Store.Lot (s : Store) (owner : ProprietaireId) (candidat choisie : BankTransactionRow → Bool)
    (category : CategoryId) (regle? : Option RegleCategorisationId) (vus : List BankTransactionRow)
    (n : ℕ) (s' : Store) : Prop where
  liste : s.Liste owner candidat vus
  ecrit : s' = s.majTransaction (BankTransactionRow.touchee vus choisie)
    (BankTransactionRow.classee category regle?)
  compte : n = s.bankTransaction.count (BankTransactionRow.touchee vus choisie)

namespace Store

variable {s s' : Store} {owner : ProprietaireId} {candidat choisie : BankTransactionRow → Bool}
  {category : CategoryId} {regle? : Option RegleCategorisationId} {vus : List BankTransactionRow}
  {n : ℕ} {x : ChoixSql}

/-- The rows of an owner under a condition, cut at the limit. -/
theorem liste_take :
    s.Liste owner candidat ((transactionsDe x s owner candidat).take limiteRetroactif) where
  candidats t ht := by
    have hmem := List.mem_of_mem_take ht
    rw [transactionsDe, mem_arrange, Table.mem_select] at hmem
    simpa using hmem
  coupee := List.length_take_le _ _
  entiere hcount t ht howner hcandidat := by
    have hlength : (transactionsDe x s owner candidat).length ≤ limiteRetroactif := by
      rw [transactionsDe, length_arrange, Table.select, ← List.countP_eq_length_filter]
      exact hcount
    rw [List.take_of_length_le hlength, transactionsDe, mem_arrange, Table.mem_select]
    exact ⟨ht, by simp [howner, hcandidat]⟩

/-- A statement on the identifiers of what was chosen reaches the rows that were listed,
chosen, and have no source. -/
private theorem vise_eq_touchee (choisie : BankTransactionRow → Bool)
    (hliste : s.Liste owner candidat vus) {t : BankTransactionRow} (ht : t ∈ s.bankTransaction) :
    (s.txDe owner t && (((vus.filter choisie).map BankTransactionRow.id).contains t.id &&
      decide (t.categorizationSource = .none))) = t.touchee vus choisie := by
  rw [Bool.eq_iff_iff, BankTransactionRow.touchee_eq_true]
  simp only [Bool.and_eq_true, List.contains_iff_mem, List.mem_map, List.mem_filter,
    decide_eq_true_eq]
  constructor
  · rintro ⟨-, ⟨u, ⟨hu, hchoisie⟩, hid⟩, hsource⟩
    obtain rfl := Table.eq_of_key_eq (hliste.candidats u hu).1 ht hid
    exact ⟨hu, hchoisie, hsource⟩
  · rintro ⟨hvue, hchoisie, hsource⟩
    exact ⟨(hliste.candidats t hvue).2.1, ⟨t, ⟨hvue, hchoisie⟩, rfl⟩, hsource⟩

/-- The update that a batch sends. -/
private theorem lot_of_majDe (hliste : s.Liste owner candidat vus)
    (h : majDe s owner (fun t => ((vus.filter choisie).map BankTransactionRow.id).contains t.id &&
      decide (t.categorizationSource = .none)) (BankTransactionRow.classee category regle?) =
        .ok (n, s')) : s.Lot owner candidat choisie category regle? vus n s' := by
  obtain ⟨rfl, rfl⟩ := Prod.mk.inj (Except.ok.inj h)
  refine ⟨hliste, Store.ext rfl rfl rfl (Table.ext ?_) rfl rfl rfl rfl rfl, ?_⟩
  · exact List.map_congr_left fun t ht => by simp only [vise_eq_touchee choisie hliste ht]
  · exact List.countP_congr fun t ht => by simp only [vise_eq_touchee choisie hliste ht]

/-- A batch that chose nothing sends no update. -/
private theorem lot_vide (hliste : s.Liste owner candidat vus)
    (h : (vus.filter choisie).map BankTransactionRow.id = []) :
    s.Lot owner candidat choisie category regle? vus 0 s := by
  have hrien : ∀ t ∈ s.bankTransaction, t.touchee vus choisie = false := by
    intro t _
    rw [← Bool.not_eq_true, BankTransactionRow.touchee_eq_true]
    rintro ⟨hvue, hchoisie, -⟩
    have hnone := List.filter_eq_nil_iff.1 (List.map_eq_nil_iff.1 h) t hvue
    exact hnone hchoisie
  refine ⟨hliste, Store.ext rfl rfl rfl ?_ rfl rfl rfl rfl rfl, ?_⟩
  · refine (@Table.update_eq_self _ _ _ s.bankTransaction _
      (BankTransactionRow.classee category regle?) (fun _ => rfl) fun t ht htouchee => ?_).symm
    exact nomatch (hrien t ht).symm.trans htouchee
  · exact (Table.count_eq_zero.2 hrien).symm

namespace Lot

variable (h : s.Lot owner candidat choisie category regle? vus n s')
include h

/-- A batch writes the transactions only. -/
theorem pareil {t : NomTable} (ht : t ≠ .bankTransaction) : s.Pareil s' t := by
  rw [h.ecrit]
  cases t <;> first | rfl | exact absurd rfl ht

/-- A batch changes the owner of no transaction. -/
theorem txDe_eq (owner' : ProprietaireId) : s'.txDe owner' = s.txDe owner' := by
  rw [h.ecrit]
  rfl

/-- The rows after a batch. -/
theorem mem {t' : BankTransactionRow} : t' ∈ s'.bankTransaction ↔ ∃ t ∈ s.bankTransaction,
    t' = if t.touchee vus choisie then t.classee category regle? else t := by
  rw [h.ecrit]
  exact mem_majTransaction

/-- A transaction is shown when its identifier is. -/
theorem mem_vus {t : BankTransactionRow} (ht : t ∈ s.bankTransaction) :
    t.id ∈ vus.map BankTransactionRow.id ↔ t ∈ vus := by
  constructor
  · intro hid
    obtain ⟨u, hu, heq⟩ := List.mem_map.1 hid
    obtain rfl := Table.eq_of_key_eq (h.liste.candidats u hu).1 ht heq
    exact hu
  · exact List.mem_map_of_mem

variable {p : BankTransactionRow → Bool} (hp : ∀ t : BankTransactionRow, p (t.classee category regle?) = false)
include hp

/-- What a batch leaves unclassified was there before it, and the batch did not reach it. -/
theorem of_mem {t : BankTransactionRow} (ht : t ∈ s'.bankTransaction) (hreste : p t = true) :
    t ∈ s.bankTransaction ∧ t.touchee vus choisie = false := by
  obtain ⟨t₀, ht₀, rfl⟩ := h.mem.1 ht
  split_ifs at hreste ⊢ with htouchee
  · exact nomatch (hp t₀).symm.trans hreste
  · exact ⟨ht₀, by simpa using htouchee⟩

/-- A batch leaves no more to classify than it found. -/
theorem count_le :
    (s'.bankTransaction.count fun t => s'.txDe owner t && p t) ≤
      s.bankTransaction.count fun t => s.txDe owner t && p t := by
  rw [h.txDe_eq, h.ecrit]
  show (s.bankTransaction.rows.map _).countP _ ≤ s.bankTransaction.rows.countP _
  rw [List.countP_map]
  refine List.countP_mono_left fun t _ hcandidat => ?_
  simp only [Function.comp_apply, Bool.and_eq_true] at hcandidat ⊢
  split_ifs at hcandidat with htouchee
  · exact nomatch (hp t).symm.trans hcandidat.2
  · exact hcandidat

end Lot

end Store

/-- The transactions of an owner under a condition can all be decrypted. -/
def Store.Lisibles {β : Type} (s : Store) (owner : ProprietaireId)
    (candidat : BankTransactionRow → Bool) (clair : BankTransactionRow → Option β) : Prop :=
  ∀ t ∈ s.bankTransaction, s.txDe owner t = true → candidat t = true → (clair t).isSome = true

/-- What a listing of candidates for the rules shows. -/
def vues : Entry signature → Option (List TransactionBancaireId)
  | ⟨.sql (.transaction (.listerNonCategorisees ..)), .ok rows⟩ => some (rows.map Prod.fst)
  | _ => none

/-- What the listings of a run show, one after the other. -/
def listages {col : Collation} (t : List (Evenement col)) : List (List TransactionBancaireId) :=
  t.filterMap fun e => vues (Event.entry e)

/-! ### Decrypting what is listed -/

section Dechiffrer

variable {β : Type} {vus : List BankTransactionRow} {colonne : BankTransactionRow → List UInt8}
  {dechiffrer : List UInt8 → Except ChiffrementError β} {clairs : List (TransactionBancaireId × β)}

/-- The decryption of a column of the rows listed. -/
abbrev dechiffrerTous (vus : List BankTransactionRow)
    (colonne : BankTransactionRow → List UInt8) (dechiffrer : List UInt8 → Except ChiffrementError β) :
    Except ChiffrementError (List (TransactionBancaireId × β)) :=
  (vus.map fun u => (u.id, colonne u)).mapM fun row => do
    let clair ← dechiffrer row.2
    return (row.1, clair)

/-- When the decryption of a list fails, one of its rows cannot be read. -/
theorem illisible_of_error {e : ChiffrementError}
    (h : dechiffrerTous vus colonne dechiffrer = .error e) :
    ∃ u ∈ vus, (dechiffrer (colonne u)).toOption = none := by
  obtain ⟨_, hrow, herror⟩ := Traversal.exists_error h
  obtain ⟨u, hu, rfl⟩ := List.mem_map.1 hrow
  refine ⟨u, hu, ?_⟩
  cases hclair : dechiffrer (colonne u) with
  | error _ => rfl
  | ok clair => simp [hclair, bind, Except.bind, pure, Except.pure] at herror

/-- When the decryption of a list succeeds, each of its rows can be read. -/
private theorem lisibles_of_ok (h : dechiffrerTous vus colonne dechiffrer = .ok clairs) :
    ∀ u ∈ vus, (dechiffrer (colonne u)).toOption.isSome = true := by
  intro u hu
  obtain ⟨_, -, hdechiffre⟩ := Traversal.exists_of_mem_left h (List.mem_map.2 ⟨u, hu, rfl⟩)
  obtain ⟨clair, hclair, -⟩ := Traversal.bind_eq_ok.1 hdechiffre
  simp [hclair, Except.toOption]

/-- What is chosen among the decrypted rows is what the choice keeps of the readable ones. -/
private theorem choisies_of_ok (h : dechiffrerTous vus colonne dechiffrer = .ok clairs)
    (choisi : β → Bool) : (clairs.filter fun c => choisi c.2).map Prod.fst =
      (vus.filter fun u => (dechiffrer (colonne u)).toOption.any choisi).map
        BankTransactionRow.id := by
  rw [Traversal.map_filter_eq h (k := Prod.fst)
    (q := fun row => (dechiffrer row.2).toOption.any choisi), List.filter_map, List.map_map]
  · rfl
  · intro row c hdechiffre
    obtain ⟨clair, hclair, hc⟩ := Traversal.bind_eq_ok.1 hdechiffre
    obtain rfl := Except.ok.inj hc
    exact ⟨rfl, by simp [hclair, Except.toOption]⟩

end Dechiffrer

section Lots

variable {col : Collation} {crypto : CryptoService} {s : Store}

/-- The listings of two runs, one after the other, are put end to end. -/
theorem listages_append (t t' : List (Evenement col)) :
    listages (t ++ t') = listages t ++ listages t' :=
  List.filterMap_append

/-- The listing of a single event. -/
theorem listages_singleton {e : Evenement col} {ids : List TransactionBancaireId}
    (h : vues (Event.entry e) = some ids) : listages [e] = [ids] := by
  simp [listages, h]

/-- An answered listing shows the identifiers of its rows. -/
private theorem vues_of_executer {owner : ProprietaireId} {limite : ℕ} {x : ChoixSql}
    {rows : List (Uuid × List UInt8)}
    (h : (Requete.executer col (.transaction (.listerNonCategorisees owner limite)) x s).1 =
      .ok rows) :
    vues (Event.entry (M := machine col)
      ⟨s, .sql (.transaction (.listerNonCategorisees owner limite)), x⟩) =
        some (rows.map Prod.fst) := by
  show vues ⟨.sql (.transaction (.listerNonCategorisees owner limite)),
    (Requete.executer col (.transaction (.listerNonCategorisees owner limite)) x s).1⟩ = _
  rw [h]
  rfl

/-- The batch of a rule. -/
theorem spec_appliquerRegleRetroactif {regle : RegleCategorisation} :
    Spec (machine col) (BankTransactionsAdapter.appliquerRegleRetroactif crypto regle).run s
      fun t => Ends (fun n s' => ∃ vus, listages t = [vus.map BankTransactionRow.id] ∧
        (∀ u ∈ vus, (u.libelleClair crypto regle.ownerId).isSome = true) ∧
        s.Lot regle.ownerId BankTransactionRow.aClasser (regle.vise crypto regle.ownerId)
          regle.categoryId (some regle.id) vus n s')
        (¬ s.Lisibles regle.ownerId BankTransactionRow.aClasser
          (BankTransactionRow.libelleClair crypto regle.ownerId) ∨ Echec t) := by
  refine spec_ends_bind (R := fun t candidats s' => s' = s ∧ ∃ vus,
    listages t = [vus.map BankTransactionRow.id] ∧
    (∀ u ∈ vus, (u.libelleClair crypto regle.ownerId).isSome = true) ∧
    s.Liste regle.ownerId BankTransactionRow.aClasser vus ∧
    (candidats.filter fun c => regle.correspond c.2).map Prod.fst =
      (vus.filter (regle.vise crypto regle.ownerId)).map BankTransactionRow.id)
    (spec_ends_mapError ?_) ?_
  · refine spec_ends_bind (R := fun t rows s' => s' = s ∧ ∃ vus : List BankTransactionRow,
      listages t = [vus.map BankTransactionRow.id] ∧
      s.Liste regle.ownerId BankTransactionRow.aClasser vus ∧
      rows = vus.map fun u => (u.id, u.label))
      (spec_ends_of (spec_ends_interrogerChiffre ?_) fun _ => .inr) ?_
    · intro x rows s' heffet hreply
      obtain ⟨rfl, rfl⟩ := lire_eq_ok.1 heffet
      refine ⟨rfl, _, ?_, Store.liste_take, rfl⟩
      refine listages_singleton ((vues_of_executer hreply).trans (congrArg some ?_))
      rw [List.map_map]
      rfl
    · rintro t rows _ ⟨rfl, vus, hlistage, hliste, rfl⟩
      show Spec (machine col) (Prog.pure (dechiffrerTous vus BankTransactionRow.label
        (dechiffrerTexte crypto regle.ownerId "bank_transaction" "label"))) _ _
      cases hclairs : dechiffrerTous vus BankTransactionRow.label
          (dechiffrerTexte crypto regle.ownerId "bank_transaction" "label") with
      | error e =>
          refine spec_pure.2 (.inl fun hlisibles => ?_)
          obtain ⟨u, hu, hnone⟩ := illisible_of_error hclairs
          obtain ⟨hmem, howner, hcandidat⟩ := hliste.candidats u hu
          exact absurd (hlisibles u hmem howner hcandidat) (by simp [BankTransactionRow.libelleClair, hnone])
      | ok candidats =>
          exact spec_pure.2 ⟨rfl, vus, by simpa using hlistage, lisibles_of_ok hclairs, hliste,
            choisies_of_ok hclairs regle.correspond⟩
  · rintro t₁ candidats _ ⟨rfl, vus, hlistage, hlisibles, hliste, hcibles⟩
    dsimp only
    rw [hcibles]
    split_ifs with hvide
    · refine spec_run_pure.2 ⟨vus, ?_, hlisibles, Store.lot_vide hliste hvide⟩
      simpa using hlistage
    · refine spec_ends_mapError (spec_ends_of (spec_ends_interrogerChiffre ?_)
        fun _ h => .inr h.right)
      intro x n s' heffet _
      refine ⟨vus, ?_, hlisibles, ?_⟩
      · rw [listages_append, hlistage]
        rfl
      · simp only [Requete.effet, RequeteTransaction.effet, exigerCategorie, exiger_eq_ok] at heffet
        exact Store.lot_of_majDe hliste heffet.2

end Lots

/-- A category of default credits exists for the owner. -/
def Store.SalairePour (s : Store) (owner : ProprietaireId) : Prop :=
  ∃ c ∈ s.category, c.name = "Salaire" ∧ c.kind = .revenu ∧
    (c.ownerId.getD "" = owner ∨ c.ownerId.getD "" = "")

/-- The batches of a list of rules: the rule and what it was shown, for each. -/
inductive Store.Lots (crypto : CryptoService) (owner : ProprietaireId) :
    List (RegleCategorisation × List BankTransactionRow) → ℕ → Store → Store → Prop where
  | aucun (s : Store) : Lots crypto owner [] 0 s s
  | suite {lots : List (RegleCategorisation × List BankTransactionRow)} {n m : ℕ}
      {s s₁ s₂ : Store} {regle : RegleCategorisation} {vus : List BankTransactionRow}
      (avant : Lots crypto owner lots n s s₁)
      (lisibles : ∀ u ∈ vus, (u.libelleClair crypto owner).isSome = true)
      (lot : s₁.Lot owner BankTransactionRow.aClasser (regle.vise crypto owner) regle.categoryId
        (some regle.id) vus m s₂) :
      Lots crypto owner (lots ++ [(regle, vus)]) (n + m) s s₂

/-- The transactions of an owner that some batch may classify fit in one listing. -/
def Store.Listable (s : Store) (owner : ProprietaireId) : Prop :=
  (s.bankTransaction.count fun t => s.txDe owner t && t.enSuspens) ≤ limiteRetroactif

/-- An owner with few enough rows in suspense has few enough rows of any kind in suspense. -/
theorem Store.Listable.count_le {s : Store} {owner : ProprietaireId} (h : s.Listable owner)
    {p : BankTransactionRow → Bool} (hp : ∀ t, p t = true → t.enSuspens = true) :
    (s.bankTransaction.count fun t => s.txDe owner t && p t) ≤ limiteRetroactif := by
  refine le_trans (List.countP_mono_left fun t _ ht => ?_) h
  simp only [Bool.and_eq_true] at ht ⊢
  exact ⟨ht.1, hp t ht.2⟩

namespace Store.Lots

variable {crypto : CryptoService} {owner : ProprietaireId} {s s' : Store} {n : ℕ}
  {lots : List (RegleCategorisation × List BankTransactionRow)}

/-- No batch leaves the store as it was. -/
theorem eq_of_nil (h : Store.Lots crypto owner lots n s s') (hlots : lots = []) : s' = s := by
  cases h with
  | aucun => rfl
  | suite => simp at hlots

/-- The batches write the transactions only. -/
theorem pareil (h : Store.Lots crypto owner lots n s s') {t : NomTable} (ht : t ≠ .bankTransaction) :
    s.Pareil s' t := by
  induction h with
  | aucun s => exact .rfl
  | suite _ _ lot ih => exact ih.trans (lot.pareil ht)

/-- The batches change the owner of no transaction. -/
theorem txDe_eq (h : Store.Lots crypto owner lots n s s') : s'.txDe owner = s.txDe owner := by
  induction h with
  | aucun s => rfl
  | suite _ _ lot ih => exact (lot.txDe_eq owner).trans ih

/-- The batches bring no row into suspense. -/
theorem listable (h : Store.Lots crypto owner lots n s s') (hs : s.Listable owner) :
    s'.Listable owner := by
  induction h with
  | aucun s => exact hs
  | suite _ _ lot ih => exact (lot.count_le fun t => t.enSuspens_classee _ _).trans (ih hs)

/-- What the batches leave to the rules, they were all shown, and none of their rules matches
it as long as it has no source. -/
theorem reste (h : Store.Lots crypto owner lots n s s') (hs : s.Listable owner)
    {t : BankTransactionRow} (ht : t ∈ s'.bankTransaction) (hde : s'.txDe owner t = true)
    (hreste : t.aClasser = true) :
    t ∈ s.bankTransaction ∧ ∀ lot ∈ lots, (t.libelleClair crypto owner).isSome = true ∧
      (t.categorizationSource = .none → lot.1.vise crypto owner t = false) := by
  induction h with
  | aucun s => exact ⟨ht, nofun⟩
  | @suite lots n m s s₁ s₂ regle vus avant lisibles lot ih =>
      obtain ⟨ht₁, htouchee⟩ := lot.of_mem (fun t => t.aClasser_classee _ _) ht hreste
      have hde₁ : s₁.txDe owner t = true := by rwa [← lot.txDe_eq]
      obtain ⟨ht₀, hlots⟩ := ih hs ht₁ hde₁
      have hvue : t ∈ vus := lot.liste.entiere
        ((avant.listable hs).count_le fun t ht => by simp [BankTransactionRow.enSuspens, ht])
        t ht₁ hde₁ hreste
      refine ⟨ht₀, fun lot' hlot' => ?_⟩
      rcases List.mem_append.1 hlot' with hlot' | hlot'
      · exact hlots lot' hlot'
      · obtain rfl := List.mem_singleton.1 hlot'
        refine ⟨lisibles t hvue, fun hsource => ?_⟩
        rw [← Bool.not_eq_true]
        intro hvise
        exact nomatch htouchee.symm.trans
          (BankTransactionRow.touchee_eq_true.2 ⟨hvue, hvise, hsource⟩)

end Store.Lots

/-- What becomes of the credits that no rule classified. -/
inductive Store.Defaut (crypto : CryptoService) (owner : ProprietaireId) (s : Store) :
    ℕ → Store → Prop where
  | sansSalaire (absent : ¬ s.SalairePour owner) : Defaut crypto owner s 0 s
  | credits (present : s.SalairePour owner) {category : CategoryId} {vus : List BankTransactionRow}
      {n : ℕ} {s' : Store} (lisibles : ∀ u ∈ vus, (u.montantClair crypto owner).isSome = true)
      (lot : s.Lot owner BankTransactionRow.aCrediter (BankTransactionRow.credit crypto owner) category
        none vus n s') :
      Defaut crypto owner s n s'

namespace Store.Defaut

variable {crypto : CryptoService} {owner : ProprietaireId} {s s' : Store} {n : ℕ}

/-- The default categorisation changes no other table. -/
theorem pareil (h : s.Defaut crypto owner n s') {t : NomTable} (ht : t ≠ .bankTransaction) :
    s.Pareil s' t := by
  cases h with
  | sansSalaire => exact .rfl
  | credits _ _ lot => exact lot.pareil ht

/-- It changes the owner of no transaction. -/
theorem txDe_eq (h : s.Defaut crypto owner n s') : s'.txDe owner = s.txDe owner := by
  cases h with
  | sansSalaire => rfl
  | credits _ _ lot => exact lot.txDe_eq owner

/-- What is left unclassified was there before the default category. -/
theorem of_mem (h : s.Defaut crypto owner n s') {t : BankTransactionRow}
    (ht : t ∈ s'.bankTransaction) (hreste : t.enSuspens = true) : t ∈ s.bankTransaction := by
  cases h with
  | sansSalaire => exact ht
  | credits _ _ lot => exact (lot.of_mem (fun t => t.enSuspens_classee _ _) ht hreste).1

/-- Once the default category is given, what is left to it is a debit. -/
theorem reste (h : s.Defaut crypto owner n s') (hs : s.Listable owner)
    (hsalaire : s.SalairePour owner) {t : BankTransactionRow} (ht : t ∈ s'.bankTransaction)
    (hde : s'.txDe owner t = true) (hreste : t.aCrediter = true) :
    ∃ m, t.montantClair crypto owner = some m ∧ m < 0 := by
  have hde₀ : s.txDe owner t = true := by rwa [← h.txDe_eq]
  cases h with
  | sansSalaire habsent => exact absurd hsalaire habsent
  | @credits _ category vus _ _ lisibles lot =>
      obtain ⟨ht₀, htouchee⟩ := lot.of_mem (fun t => t.aCrediter_classee _ _) ht hreste
      have hvue : t ∈ vus := lot.liste.entiere
        (hs.count_le fun t ht => by simp [BankTransactionRow.enSuspens, ht]) t ht₀ hde₀ hreste
      obtain ⟨m, hm⟩ := Option.isSome_iff_exists.1 (lisibles t hvue)
      refine ⟨m, hm, not_le.1 fun hcredit => ?_⟩
      have hsource : t.categorizationSource = .none := by
        simp only [BankTransactionRow.aCrediter, Bool.and_eq_true, decide_eq_true_eq] at hreste
        exact hreste.1
      have hchoisie : t.credit crypto owner = true := by
        simp [BankTransactionRow.credit, hm, hcredit]
      exact nomatch htouchee.symm.trans
        (BankTransactionRow.touchee_eq_true.2 ⟨hvue, hchoisie, hsource⟩)

end Store.Defaut

section Defaut

variable {col : Collation} {crypto : CryptoService} {owner : ProprietaireId} {s : Store}

/-- The salary categories of an owner, as rows of the store. -/
theorem mem_categoriesSalaire {x : ChoixSql} {c : Category} :
    c ∈ categoriesSalaire x s owner ↔ c ∈ s.category ∧ c.name = "Salaire" ∧ c.kind = .revenu ∧
      (c.ownerId.getD "" = owner ∨ c.ownerId.getD "" = "") := by
  rw [categoriesSalaire, mem_sortBy, mem_arrange, Table.mem_select]
  simp [and_assoc]

/-- No salary category is found exactly when the owner has none within reach. -/
private theorem head?_categoriesSalaire {x : ChoixSql} :
    (categoriesSalaire x s owner).head?.map Category.id = none ↔ ¬ s.SalairePour owner := by
  rw [Option.map_eq_none_iff, List.head?_eq_none_iff, List.eq_nil_iff_forall_not_mem]
  constructor
  · rintro hnone ⟨c, hc⟩
    exact hnone c (mem_categoriesSalaire.2 hc)
  · intro habsent c hc
    exact habsent ⟨c, mem_categoriesSalaire.1 hc⟩

/-- The batch of the remaining credits. -/
theorem spec_parDefaut :
    Spec (machine col) (BankTransactionsAdapter.recategoriserCredits crypto owner).run s
      fun t => Ends (fun n s' => s.Defaut crypto owner n s')
        (s.SalairePour owner ∧ ¬ s.Lisibles owner BankTransactionRow.aCrediter
          (BankTransactionRow.montantClair crypto owner) ∨ Echec t) := by
  refine spec_ends_bind (R := fun _ category s' => s' = s ∧
    (category = none ↔ ¬ s.SalairePour owner))
    (spec_ends_of (spec_ends_mapError (spec_ends_interrogerChiffre ?_)) fun _ => .inr) ?_
  · intro x category s' heffet _
    obtain ⟨rfl, rfl⟩ := lire_eq_ok.1 heffet
    exact ⟨rfl, head?_categoriesSalaire⟩
  rintro t₁ (_ | category) s ⟨rfl, hcategory⟩
  · exact spec_run_pure.2 (.sansSalaire (hcategory.1 rfl))
  have hpresent : s.SalairePour owner := by
    by_contra habsent
    exact nomatch hcategory.2 habsent
  refine spec_ends_bind (R := fun _ credits s' => s' = s ∧ ∃ vus,
    (∀ u ∈ vus, (u.montantClair crypto owner).isSome = true) ∧
    s.Liste owner BankTransactionRow.aCrediter vus ∧
    credits = (vus.filter (BankTransactionRow.credit crypto owner)).map BankTransactionRow.id)
    (spec_ends_mapError ?_) ?_
  · refine spec_ends_bind (R := fun _ rows s' => s' = s ∧ ∃ vus : List BankTransactionRow,
      s.Liste owner BankTransactionRow.aCrediter vus ∧ rows = vus.map fun u => (u.id, u.amountCents))
      (spec_ends_of (spec_ends_interrogerChiffre ?_) fun _ h => .inr h.right) ?_
    · intro x rows s' heffet _
      obtain ⟨rfl, rfl⟩ := lire_eq_ok.1 heffet
      exact ⟨rfl, _, Store.liste_take, rfl⟩
    · rintro t rows s ⟨rfl, vus, hliste, rfl⟩
      show Spec (machine col) (Task.ofExcept (dechiffrerTous vus BankTransactionRow.amountCents
        (dechiffrerMontant crypto owner "bank_transaction" "amount_cents")) >>= _).run _ _
      cases hclairs : dechiffrerTous vus BankTransactionRow.amountCents
          (dechiffrerMontant crypto owner "bank_transaction" "amount_cents") with
      | error e =>
          refine spec_pure.2 (.inl ⟨hpresent, fun hlisibles => ?_⟩)
          obtain ⟨u, hu, hnone⟩ := illisible_of_error hclairs
          obtain ⟨hmem, howner, hcandidat⟩ := hliste.candidats u hu
          exact absurd (hlisibles u hmem howner hcandidat) (by simp [BankTransactionRow.montantClair, hnone])
      | ok montants =>
          exact spec_pure.2 ⟨rfl, vus, lisibles_of_ok hclairs, hliste,
            choisies_of_ok hclairs fun m => 0 ≤ m⟩
  · rintro t₂ credits s ⟨rfl, vus, hlisibles, hliste, rfl⟩
    refine spec_ends_mapError ?_
    unfold BankTransactions.appliquerCategorieDefautParLot
    split_ifs with hvide
    · have hlot : s.Lot owner _ _ category none vus 0 s := Store.lot_vide hliste hvide
      exact spec_run_pure.2 (.credits hpresent hlisibles hlot)
    · refine spec_ends_of (spec_ends_interrogerChiffre ?_) fun _ h => .inr h.right.right
      intro x n s' heffet _
      simp only [Requete.effet, RequeteTransaction.effet, exigerCategorie, exiger_eq_ok] at heffet
      exact .credits hpresent hlisibles (Store.lot_of_majDe hliste heffet.2)

end Defaut

/-! ## The whole reconciliation -/

/-- Whether an owner has a salary category only depends on the categories. -/
theorem Store.salairePour_congr {s s' : Store} {owner : ProprietaireId}
    (h : s'.category = s.category) : s'.SalairePour owner ↔ s.SalairePour owner := by
  rw [SalairePour, SalairePour, h]

/-- The statement that lists the rules of an owner. -/
abbrev listeRegles (owner : ProprietaireId) : Requete := .classement (.listerRegles owner)

/-- The rules of an owner. -/
def Store.reglesDe (s : Store) (owner : ProprietaireId) : List RegleCategorisation :=
  s.reglesCategorisation.select fun r => r.ownerId = owner

section Rules

variable {col : Collation} {owner : ProprietaireId} {s : Store}

/-- The rules of an owner have distinct identifiers. -/
theorem Store.nodup_reglesDe : ((s.reglesDe owner).map RegleCategorisation.id).Nodup :=
  (List.filter_sublist.map _).nodup s.reglesCategorisation.nodup

/-- The rules are listed in some order. -/
theorem perm_of_listeRegles {x : ChoixSql} {regles : List RegleCategorisation}
    (h : ((listeRegles owner).executer col x s).1 = .ok regles) :
    (s.reglesDe owner).Perm regles := by
  obtain ⟨rfl, -⟩ := lire_eq_ok.1 (Requete.effet_of_executer h)
  exact ((perm_sortBy _ _).trans (perm_arrange _ _ _)).symm

end Rules

/-- A reconciliation that answers, step by step. -/
structure Reconciliation {col : Collation} (crypto : CryptoService) (owner : ProprietaireId)
    (s : Store) (t : List (Evenement col)) (n : ℕ) (s' : Store) where
  mouvements : List MouvementCandidat
  apresRecalcul : Store
  choix : ChoixSql
  regles : List RegleCategorisation
  lots : List (RegleCategorisation × List BankTransactionRow)
  parRegles : ℕ
  apresRegles : Store
  parDefaut : ℕ
  mouvementsLisibles : s.MouvementsLisibles crypto owner
  perm : (s.mouvements crypto owner).Perm mouvements
  recalcul : apresRecalcul = s.recalcule owner (detecterTransfertsInternes mouvements)
  liste : ((listeRegles owner).executer col choix apresRecalcul).1 = .ok regles
  listee : ⟨apresRecalcul, .sql (listeRegles owner), choix⟩ ∈ t
  seule : ∀ e ∈ t, e.op = .sql (listeRegles owner) →
    e = ⟨apresRecalcul, .sql (listeRegles owner), choix⟩
  parLots : Store.Lots crypto owner lots parRegles apresRecalcul apresRegles
  chaque : lots.map Prod.fst = regles
  montrees : listages t = lots.map fun lot => lot.2.map BankTransactionRow.id
  defaut : apresRegles.Defaut crypto owner parDefaut s'
  total : n = parRegles + parDefaut

section Handler

open Prog

variable {col : Collation} {crypto : CryptoService} {owner : ProprietaireId} {s : Store}

/-- The request lists neither the rules of the owner nor the candidates for a rule. -/
private abbrev Ailleurs (owner : ProprietaireId) (o : Op) : Prop :=
  o ≠ .sql (listeRegles owner) ∧ ∀ r, vues ⟨o, r⟩ = none

/-- The recalculation of the internal transfers lists neither the rules nor their candidates. -/
private theorem ailleurs_recalculer :
    (BankTransactions.recalculerTransfertsInternes crypto owner).run.Uses (Ailleurs owner) := by
  refine Uses.run_bind ?_ fun mouvements => Uses.run_bind ?_ fun _ => ?_
  · refine Uses.run_bind (uses_interrogerChiffre ⟨by simp, fun _ => rfl⟩) fun rows => ?_
    exact Uses.run_bind uses_ofExcept fun _ => uses_pure _
  · exact Uses.run_bind (uses_interrogerChiffre ⟨by simp, fun _ => rfl⟩) fun _ => uses_pure _
  · unfold BankTransactions.marquerTransfertsInternes
    split
    · exact uses_pure _
    · exact uses_interrogerChiffre ⟨by simp, fun _ => rfl⟩

/-- Nor does the default categorisation. -/
private theorem ailleurs_parDefaut :
    (BankTransactionsAdapter.recategoriserCredits crypto owner).run.Uses (Ailleurs owner) := by
  refine Uses.run_bind (Uses.run_mapError (uses_interrogerChiffre ⟨by simp, fun _ => rfl⟩)) ?_
  rintro (_ | category)
  · exact uses_pure _
  · refine Uses.run_bind (Uses.run_mapError ?_) fun credits => Uses.run_mapError ?_
    · refine Uses.run_bind (uses_interrogerChiffre ⟨by simp, fun _ => rfl⟩) fun rows => ?_
      exact Uses.run_bind uses_ofExcept fun _ => uses_pure _
    · unfold BankTransactions.appliquerCategorieDefautParLot
      split
      · exact uses_pure _
      · exact uses_interrogerChiffre ⟨by simp, fun _ => rfl⟩

/-- Applying a rule does not list the rules again. -/
private theorem uses_appliquerRegle {regle : RegleCategorisation} :
    (BankTransactionsAdapter.appliquerRegleRetroactif crypto regle).run.Uses
      fun o : Op => o ≠ .sql (listeRegles owner) := by
  refine Uses.run_bind (Uses.run_mapError ?_) fun candidats => ?_
  · exact Uses.run_bind (uses_interrogerChiffre (by simp)) fun _ => uses_ofExcept
  · dsimp only
    split
    · exact uses_pure _
    · exact Uses.run_mapError (uses_interrogerChiffre (by simp))

/-- Nor does applying all of them. -/
private theorem uses_lots (owner : ProprietaireId) {regles : List RegleCategorisation} :
    (regles.foldlM (fun categorisees regle => do
      let n ← ecritureApi (BankTransactionsAdapter.appliquerRegleRetroactif crypto regle)
      return categorisees + n) 0 : Tache ApiError ℕ).run.Uses
      fun o : Op => o ≠ .sql (listeRegles owner) :=
  Uses.run_foldlM (fun _ _ _ => Uses.run_bind (Uses.run_mapError uses_appliquerRegle)
    fun _ => uses_pure _) 0

/-- A run of such requests has no listing. -/
private theorem listages_ailleurs {t : List (Evenement col)} (h : ∀ e ∈ t, Ailleurs owner e.op) :
    listages t = [] := by
  rw [listages, List.filterMap_eq_nil_iff]
  exact fun e he => (h e he).2 e.reply

/-- The rules of an owner are listed without touching the database. -/
theorem spec_listerRegles :
    Spec (machine col) (Regles.listerPourProprietaire owner).run s
      fun t => Ends (fun regles s' => s' = s ∧ (∀ regle ∈ regles, regle.ownerId = owner) ∧
        ∃ x, ((listeRegles owner).executer col x s).1 = .ok regles ∧
          t = [⟨s, .sql (listeRegles owner), x⟩]) (Echec t) := by
  refine spec_ends_mapError (spec_ends_interroger ?_)
  intro x regles s' heffet hreply
  obtain ⟨rfl, rfl⟩ := lire_eq_ok.1 heffet
  refine ⟨rfl, fun regle hregle => ?_, x, hreply, rfl⟩
  rw [mem_sortBy, mem_arrange, Table.mem_select] at hregle
  simpa using hregle.2

/-- The batches of the rules that were listed. -/
private theorem spec_lots {regles : List RegleCategorisation}
    (howner : ∀ regle ∈ regles, regle.ownerId = owner) :
    Spec (machine col) (regles.foldlM (fun categorisees regle => do
      let n ← ecritureApi (BankTransactionsAdapter.appliquerRegleRetroactif crypto regle)
      return categorisees + n) 0 : Tache ApiError ℕ).run s
      fun t => Ends (fun n s' => ∃ lots, Store.Lots crypto owner lots n s s' ∧
        lots.map Prod.fst = regles ∧
        listages t = lots.map fun lot => lot.2.map BankTransactionRow.id) True := by
  refine spec_ends_foldlM (I := fun past t n s' => ∃ lots, Store.Lots crypto owner lots n s s' ∧
    lots.map Prod.fst = past ∧ listages t = lots.map fun lot => lot.2.map BankTransactionRow.id)
    ⟨[], .aucun s, rfl, rfl⟩ ?_
  rintro past regle rest t n s₁ rfl ⟨lots, hlots, rfl, hlistages⟩
  obtain rfl : regle.ownerId = owner := howner regle (by simp)
  refine spec_ends_bind (spec_ends_mapError (spec_ends_of spec_appliquerRegleRetroactif
    fun _ _ => trivial)) ?_
  rintro t' m s₂ ⟨vus, hlistage, hlisibles, hlot⟩
  refine spec_run_pure.2 ⟨_, hlots.suite hlisibles hlot, by simp, ?_⟩
  simp [listages_append, hlistages, hlistage]

/-- What a reconciliation that answers has done. -/
theorem spec_recategoriserCredits :
    Spec (machine col) (Handlers.recategoriserCredits crypto owner).run s
      fun t => Ends (fun n s' => Nonempty (Reconciliation crypto owner s t n s')) True := by
  refine spec_ends_bind (spec_ends_mapError (spec_ends_mapError (spec_ends_of
    (spec_ends_uses spec_recalculer ailleurs_recalculer) fun _ _ => trivial))) ?_
  rintro t₁ _ s₁ ⟨hailleurs₁, hlisibles, mouvements, hperm, hs₁⟩
  refine spec_ends_bind (spec_ends_mapError (spec_ends_of spec_listerRegles fun _ _ => trivial)) ?_
  rintro t₂ regles s₁ ⟨rfl, howner, x, hliste, rfl⟩
  refine spec_ends_bind (spec_ends_uses (spec_lots howner) (uses_lots owner)) ?_
  rintro t₃ n₁ s₂ ⟨hregles₃, lots, hlots, rfl, hlistages⟩
  refine spec_ends_bind (spec_ends_mapError (spec_ends_of
    (spec_ends_uses spec_parDefaut ailleurs_parDefaut) fun _ _ => trivial)) ?_
  rintro t₄ n₂ s₃ ⟨hailleurs₄, hdefaut⟩
  refine spec_run_pure.2 ⟨{
    mouvements := mouvements
    apresRecalcul := s₁
    choix := x
    regles := lots.map Prod.fst
    lots := lots
    parRegles := n₁
    apresRegles := s₂
    parDefaut := n₂
    mouvementsLisibles := hlisibles
    perm := hperm
    recalcul := hs₁
    liste := hliste
    listee := by simp
    seule := ?_
    parLots := hlots
    chaque := rfl
    montrees := ?_
    defaut := hdefaut
    total := rfl }⟩
  · intro e he hop
    simp only [List.append_nil, List.mem_append, List.mem_singleton] at he
    rcases he with he | rfl | he | he
    · exact absurd hop (hailleurs₁ e he).1
    · rfl
    · exact absurd hop (hregles₃ e he)
    · exact absurd hop (hailleurs₄ e he).1
  · rw [listages_append, listages_append, listages_append, listages_append,
      listages_ailleurs hailleurs₁, listages_ailleurs hailleurs₄, hlistages]
    simp [listages, vues, Event.entry]

end Handler

namespace Reconciliation

variable {col : Collation} {crypto : CryptoService} {owner : ProprietaireId} {s s' : Store}
  {t : List (Evenement col)} {n : ℕ} (h : Reconciliation crypto owner s t n s')
include h

/-- The rules leave the categories as the recalculation left them. -/
theorem category_eq : h.apresRegles.category = h.apresRecalcul.category :=
  h.parLots.pareil (t := .category) (by simp)

/-- The default categorisation leaves the rules as the recalculation left them. -/
theorem reglesDe_eq : s'.reglesDe owner = h.apresRecalcul.reglesDe owner := by
  have hregles : s'.reglesCategorisation = h.apresRecalcul.reglesCategorisation :=
    (h.parLots.pareil (t := .reglesCategorisation) (by simp)).trans (h.defaut.pareil (by simp))
  rw [Store.reglesDe, hregles, Store.reglesDe]

/-- The owner of a transaction is the one of the recalculation to the end. -/
theorem txDe_eq : s'.txDe owner = h.apresRecalcul.txDe owner :=
  h.defaut.txDe_eq.trans h.parLots.txDe_eq

/-- Every rule of the owner has had its batch. -/
theorem exists_lot {regle : RegleCategorisation} (hregle : regle ∈ s'.reglesDe owner) :
    ∃ lot ∈ h.lots, lot.1 = regle := by
  have hlistee := (perm_of_listeRegles h.liste).mem_iff.1 (h.reglesDe_eq ▸ hregle)
  rw [← h.chaque] at hlistee
  exact List.mem_map.1 hlistee

/-- What is left to the rules when they fit in one listing: every batch could read it, and no
rule matches it as long as it has no source. -/
theorem reste (hlistable : h.apresRecalcul.Listable owner) {tx : BankTransactionRow}
    (htx : tx ∈ s'.bankTransaction) (hde : s'.txDe owner tx = true) (hreste : tx.aClasser = true) :
    ∀ regle ∈ s'.reglesDe owner, (tx.libelleClair crypto owner).isSome = true ∧
      (tx.categorizationSource = .none → regle.vise crypto owner tx = false) := by
  intro regle hregle
  obtain ⟨lot, hlot, rfl⟩ := h.exists_lot hregle
  have hde₂ : h.apresRegles.txDe owner tx = true := by rwa [← h.defaut.txDe_eq]
  have htx₂ := h.defaut.of_mem htx (by simp [BankTransactionRow.enSuspens, hreste])
  exact (h.parLots.reste hlistable htx₂ hde₂ hreste).2 lot hlot

end Reconciliation

end Budgy
