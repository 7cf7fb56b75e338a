import Budgy.Analysis.RuleChoice

/-!
# A reconciliation made twice

What the batches write, a category and a source, is not read by the detection of the
transfers except through the manual choices, which they leave alone.  So after a
reconciliation the store is `Reconcilie`: its transfers are the ones that are flagged, and no
batch has anything left to classify.  A reconciliation of such a store changes nothing.
-/

set_option autoImplicit false

namespace Budgy

open Effects Relational

/-! ## What the batches make of the rows -/

/-- What the batches may make of a transaction. -/
inductive BankTransactionRow.Reclasse (t : BankTransactionRow) : BankTransactionRow → Prop where
  | intacte : Reclasse t t
  | classee (hexterne : t.isInternalTransfer = false) (hsource : t.categorizationSource = .none)
      (category : CategoryId) (regle? : Option RegleCategorisationId) :
      Reclasse t (t.classee category regle?)

/-- The transactions of the second store are those of the first, each as the batches may have
made it. -/
def Store.Reclasse (s s' : Store) : Prop :=
  ∃ f, s'.bankTransaction.rows = s.bankTransaction.rows.map f ∧
    ∀ t ∈ s.bankTransaction, t.Reclasse (f t)

section Reclasse

variable {crypto : CryptoService} {owner : ProprietaireId} {s s' s'' : Store} {t t' t'' : BankTransactionRow}
  {n : ℕ}

/-- A row categorised again and again has only been categorised. -/
theorem BankTransactionRow.Reclasse.trans (h : t.Reclasse t') (h' : t'.Reclasse t'') :
    t.Reclasse t'' := by
  cases h with
  | intacte => exact h'
  | classee hexterne hsource category regle? =>
      cases h' with
      | intacte => exact .classee hexterne hsource category regle?
      | classee _ hsource' _ _ => exact nomatch hsource'

/-- A store has only been categorised when nothing happened to it. -/
theorem Store.Reclasse.refl : s.Reclasse s :=
  ⟨id, (List.map_id _).symm, fun _ _ => .intacte⟩

/-- A store categorised again and again has only been categorised. -/
theorem Store.Reclasse.trans (h : s.Reclasse s') (h' : s'.Reclasse s'') : s.Reclasse s'' := by
  obtain ⟨f, hrows, hf⟩ := h
  obtain ⟨g, hrows', hg⟩ := h'
  refine ⟨g ∘ f, by rw [hrows', hrows, List.map_map], fun t ht => ?_⟩
  have hft : f t ∈ s'.bankTransaction := by
    rw [← Table.mem_rows, hrows]
    exact List.mem_map_of_mem ht
  exact (hf t ht).trans (hg (f t) hft)

/-- A transaction of the second store comes from one of the first. -/
theorem Store.Reclasse.exists_of_mem (h : s.Reclasse s') (ht : t' ∈ s'.bankTransaction) :
    ∃ t ∈ s.bankTransaction, t.Reclasse t' := by
  obtain ⟨f, hrows, hf⟩ := h
  rw [← Table.mem_rows, hrows] at ht
  obtain ⟨t₀, ht₀, rfl⟩ := List.mem_map.1 ht
  exact ⟨t₀, ht₀, hf t₀ ht₀⟩

/-- A batch that lists no internal transfer. -/
theorem Store.Lot.reclasse {candidat choisie : BankTransactionRow → Bool} {category : CategoryId}
    {regle? : Option RegleCategorisationId} {vus : List BankTransactionRow}
    (h : s.Lot owner candidat choisie category regle? vus n s')
    (hexterne : ∀ t, candidat t = true → t.isInternalTransfer = false) : s.Reclasse s' := by
  refine ⟨_, by rw [h.ecrit]; rfl, fun t _ => ?_⟩
  split_ifs with htouchee
  · obtain ⟨hvue, -, hsource⟩ := BankTransactionRow.touchee_eq_true.1 htouchee
    exact .classee (hexterne t (h.liste.candidats t hvue).2.2) hsource _ _
  · exact .intacte

/-- The batches of the rules only categorise. -/
theorem Store.Lots.reclasse {lots : List (RegleCategorisation × List BankTransactionRow)}
    (h : Store.Lots crypto owner lots n s s') : s.Reclasse s' := by
  induction h with
  | aucun s => exact .refl
  | suite _ _ lot ih =>
      exact ih.trans (lot.reclasse fun t ht => by simpa using (Bool.and_eq_true_iff.1 ht).2)

/-- The default categorisation only categorises. -/
theorem Store.Defaut.reclasse (h : s.Defaut crypto owner n s') : s.Reclasse s' := by
  cases h with
  | sansSalaire => exact .refl
  | credits _ _ lot =>
      exact lot.reclasse fun t ht => by simpa using (Bool.and_eq_true_iff.1 ht).2

/-! ## What the detection reads -/

/-- A batch does not change the movement of a transaction, nor whether it can be read. -/
theorem BankTransactionRow.Reclasse.mouvement?_eq (h : t.Reclasse t') :
    BankTransactions.mouvement? crypto owner t' = BankTransactions.mouvement? crypto owner t := by
  cases h with
  | intacte => rfl
  | classee _ hsource category regle? =>
      simp [BankTransactions.mouvement?, BankTransactionRow.date, BankTransactionRow.classee, hsource]

/-- Categorising a row leaves it on its account. -/
theorem BankTransactionRow.Reclasse.bankAccountId_eq (h : t.Reclasse t') :
    t'.bankAccountId = t.bankAccountId := by
  cases h <;> rfl

/-- The detection sees the same movements after the batches. -/
theorem Store.Reclasse.mouvements_eq (h : s.Reclasse s') (hjoin : s'.txDe owner = s.txDe owner) :
    s'.mouvements crypto owner = s.mouvements crypto owner := by
  obtain ⟨f, hrows, hf⟩ := h
  have hde : ∀ t ∈ s.bankTransaction.rows, (s.txDe owner ∘ f) t = s.txDe owner t := by
    intro t ht
    simp only [Function.comp_apply, txDe, (hf t ht).bankAccountId_eq]
  rw [mouvements, mouvements, hjoin, Table.select, Table.select, hrows, List.filter_map,
    List.filterMap_map, List.filter_congr hde]
  refine List.filterMap_congr fun t ht => ?_
  have hmem := List.mem_of_mem_filter ht
  simp only [Function.comp_apply, BankTransactionRow.mouvement, (hf t hmem).mouvement?_eq]

/-- A transaction that the recalculation leaves is left again once a batch has classified it. -/
theorem BankTransactionRow.Reclasse.recalculee_eq {detectes : List TransactionBancaireId}
    (h : t.Reclasse t') (hstable : t.recalculee detectes = t) : t'.recalculee detectes = t' := by
  cases h with
  | intacte => exact hstable
  | classee hexterne hsource category regle? =>
      have hlibre : t.id ∉ detectes := by
        intro hdetectee
        have hflag := (t.isInternalTransfer_recalculee detectes).2 (.inl hdetectee)
        rw [hstable, hexterne] at hflag
        exact Bool.false_ne_true hflag
      have hid : (t.classee category regle?).id = t.id := rfl
      have hflag : (t.classee category regle?).isInternalTransfer = false := hexterne
      rw [recalculee, if_neg (by simp [hflag]), if_neg (by rwa [hid])]
      rw [← hflag]

end Reclasse

/-! ## Reconciled stores -/

/-- Nothing is left to do for an owner: the flags are those of the detection, and every batch
can be read and has nothing to classify. -/
structure Store.Reconcilie (crypto : CryptoService) (owner : ProprietaireId) (s : Store) : Prop where
  mouvementsLisibles : s.MouvementsLisibles crypto owner
  recalcul : ∀ mouvements, (s.mouvements crypto owner).Perm mouvements →
    s.recalcule owner (detecterTransfertsInternes mouvements) = s
  libelles : s.reglesDe owner ≠ [] →
    s.Lisibles owner BankTransactionRow.aClasser (BankTransactionRow.libelleClair crypto owner)
  regles : ∀ regle ∈ s.reglesDe owner, ∀ t ∈ s.bankTransaction, s.txDe owner t = true →
    t.aClasser = true → t.categorizationSource = .none → regle.vise crypto owner t = false
  montants : s.SalairePour owner →
    s.Lisibles owner BankTransactionRow.aCrediter (BankTransactionRow.montantClair crypto owner)
  credits : s.SalairePour owner → ∀ t ∈ s.bankTransaction, s.txDe owner t = true →
    t.aCrediter = true → t.credit crypto owner = false

section Again

variable {col : Collation} {crypto : CryptoService} {owner : ProprietaireId} {s s' : Store} {n : ℕ}

/-- A batch that finds nothing to classify changes nothing. -/
private theorem lot_eq_self {candidat choisie : BankTransactionRow → Bool} {category : CategoryId}
    {regle? : Option RegleCategorisationId} {vus : List BankTransactionRow}
    (h : s.Lot owner candidat choisie category regle? vus n s')
    (hrien : ∀ t ∈ s.bankTransaction, s.txDe owner t = true → candidat t = true →
      t.categorizationSource = .none → choisie t = false) : n = 0 ∧ s' = s := by
  have hintacte : ∀ t ∈ s.bankTransaction, t.touchee vus choisie = false := by
    intro t ht
    rw [← Bool.not_eq_true, BankTransactionRow.touchee_eq_true]
    rintro ⟨hvue, hchoisie, hsource⟩
    obtain ⟨-, hde, hcandidat⟩ := h.liste.candidats t hvue
    exact nomatch (hrien t ht hde hcandidat hsource).symm.trans hchoisie
  refine ⟨h.compte.trans (Table.count_eq_zero.2 hintacte), h.ecrit.trans ?_⟩
  refine Store.ext rfl rfl rfl ?_ rfl rfl rfl rfl rfl
  refine @Table.update_eq_self _ _ _ s.bankTransaction _
    (BankTransactionRow.classee category regle?) (fun _ => rfl) fun t ht htouchee => ?_
  exact nomatch (hintacte t ht).symm.trans htouchee

/-- A reconciliation of a reconciled store classifies nothing, and stops only on a failure of
the database. -/
theorem Store.Reconcilie.spec (h : s.Reconcilie crypto owner) :
    Spec (machine col) (Handlers.recategoriserCredits crypto owner).run s
      fun t => Ends (fun n s' => n = 0 ∧ s' = s) (Echec t) := by
  refine spec_ends_bind (R := fun _ _ s' => s' = s) (spec_ends_mapError (spec_ends_mapError
    (Spec.mono spec_recalculer fun t r s' hends => hends.mono ?_ ?_))) ?_
  · rintro _ ⟨-, mouvements, hperm, rfl⟩
    exact h.recalcul mouvements hperm
  · rintro (hillisible | hechec)
    · exact absurd h.mouvementsLisibles hillisible
    · exact hechec
  rintro t₁ _ s rfl
  refine spec_ends_bind (R := fun _ regles s' => s' = s ∧ (s.reglesDe owner).Perm regles)
    (spec_ends_mapError (Spec.mono spec_listerRegles fun t r s' hends => hends.mono ?_ Echec.right)) ?_
  · rintro regles ⟨rfl, -, x, hreponse, -⟩
    exact ⟨rfl, perm_of_listeRegles hreponse⟩
  rintro t₂ regles s ⟨rfl, hperm⟩
  refine spec_ends_bind (R := fun _ n s' => n = 0 ∧ s' = s) (spec_ends_foldlM
    (I := fun _ _ n s' => n = 0 ∧ s' = s) ⟨rfl, rfl⟩ ?_) ?_
  · rintro past regle rest t n s hregles ⟨rfl, rfl⟩
    have hregle : regle ∈ s.reglesDe owner := hperm.mem_iff.2 (by simp [hregles])
    obtain rfl : regle.ownerId = owner := by
      simpa using (List.mem_filter.1 hregle).2
    refine spec_ends_bind (R := fun _ n s' => n = 0 ∧ s' = s) (spec_ends_mapError
      (Spec.mono spec_appliquerRegleRetroactif fun t r s' hends => hends.mono ?_ ?_)) ?_
    · rintro m ⟨vus, -, -, lot⟩
      exact lot_eq_self lot (h.regles regle hregle)
    · rintro (hillisible | hechec)
      · exact absurd (h.libelles (List.ne_nil_of_mem hregle)) hillisible
      · exact hechec.right.right.right
    · rintro t' m s ⟨rfl, rfl⟩
      exact spec_run_pure.2 ⟨rfl, rfl⟩
  rintro t₃ n s ⟨rfl, rfl⟩
  refine spec_ends_bind (R := fun _ n s' => n = 0 ∧ s' = s) (spec_ends_mapError
    (Spec.mono spec_parDefaut fun t r s' hends => hends.mono ?_ ?_)) ?_
  · rintro m hdefaut
    cases hdefaut with
    | sansSalaire => exact ⟨rfl, rfl⟩
    | credits hsalaire _ lot =>
        exact lot_eq_self lot fun t ht hde hcandidat _ => h.credits hsalaire t ht hde hcandidat
  · rintro (⟨hsalaire, hillisible⟩ | hechec)
    · exact absurd (h.montants hsalaire) hillisible
    · exact hechec.right.right.right
  · rintro t₄ m s ⟨rfl, rfl⟩
    exact spec_run_pure.2 ⟨rfl, rfl⟩

/-- A reconciliation that answers, when the transactions to classify fit in one listing, leaves
a reconciled store. -/
private theorem reconcilie_of_reconciliation {t : List (Evenement col)}
    (hminimum : s.AuDessusDuMinimum crypto owner) (h : Reconciliation crypto owner s t n s')
    (hlistable : h.apresRecalcul.Listable owner) : s'.Reconcilie crypto owner := by
  have hrecalcul := h.recalcul
  rw [Store.detectes_perm hminimum h.perm] at hrecalcul
  have hreclasse : h.apresRecalcul.Reclasse s' := h.parLots.reclasse.trans h.defaut.reclasse
  have hmouvements : s'.mouvements crypto owner = s.mouvements crypto owner := by
    rw [hreclasse.mouvements_eq h.txDe_eq, h.recalcul, Store.mouvements_recalcule]
  have hde₁ {tx tx₁ : BankTransactionRow} (hrc : tx₁.Reclasse tx) (hde : s'.txDe owner tx = true) :
      s.txDe owner tx₁ = true := by
    rw [h.txDe_eq, h.recalcul, Store.txDe_recalcule] at hde
    simpa only [Store.txDe, hrc.bankAccountId_eq] using hde
  have hreste {tx : BankTransactionRow} (hsalaire : s'.SalairePour owner)
      (htx : tx ∈ s'.bankTransaction) (hde : s'.txDe owner tx = true)
      (hcandidat : tx.aCrediter = true) : ∃ m, tx.montantClair crypto owner = some m ∧ m < 0 := by
    refine h.defaut.reste (h.parLots.listable hlistable) ?_ htx hde hcandidat
    exact (Store.salairePour_congr (h.defaut.pareil (t := .category) (by simp))).1 hsalaire
  constructor
  case mouvementsLisibles =>
    intro tx htx hde
    obtain ⟨tx₁, htx₁, hrc⟩ := hreclasse.exists_of_mem htx
    obtain ⟨tx₀, htx₀, rfl⟩ := Store.mem_recalcule.1 (hrecalcul ▸ htx₁)
    have hde₀ : s.txDe owner tx₀ = true := by
      by_contra hautre
      exact hautre (by simpa only [if_neg hautre] using hde₁ hrc hde)
    rw [hrc.mouvement?_eq, if_pos hde₀, BankTransactionRow.mouvement?_recalculee]
    exact h.mouvementsLisibles tx₀ htx₀ hde₀
  case recalcul =>
    intro mouvements hperm
    rw [hmouvements] at hperm
    rw [Store.detectes_perm hminimum hperm]
    refine Store.ext rfl rfl rfl ?_ rfl rfl rfl rfl rfl
    refine @Table.update_eq_self _ _ _ s'.bankTransaction _ _
      (BankTransactionRow.id_recalculee _) fun tx htx hde => ?_
    obtain ⟨tx₁, htx₁, hrc⟩ := hreclasse.exists_of_mem htx
    refine hrc.recalculee_eq (Store.recalculee_of_mem (hrecalcul ▸ htx₁) ?_)
    exact hde₁ hrc hde
  case libelles =>
    intro hregles tx htx hde hcandidat
    obtain ⟨regle, hregle⟩ := List.exists_mem_of_ne_nil _ hregles
    exact (h.reste hlistable htx hde hcandidat regle hregle).1
  case regles =>
    intro regle hregle tx htx hde hcandidat hsource
    exact (h.reste hlistable htx hde hcandidat regle hregle).2 hsource
  case montants =>
    intro hsalaire tx htx hde hcandidat
    obtain ⟨m, hm, -⟩ := hreste hsalaire htx hde hcandidat
    rw [hm]
    rfl
  case credits =>
    intro hsalaire tx htx hde hcandidat
    obtain ⟨m, hm, hneg⟩ := hreste hsalaire htx hde hcandidat
    simp [BankTransactionRow.credit, hm, hneg]

end Again

/-! ## The second reconciliation -/

section Main

variable {col : Collation} {crypto : CryptoService} {owner : ProprietaireId} {s s' s'' : Store}
  {t t' : List (Evenement col)} {n : ℕ}

/-- Of two reconciliations in a row of an owner with fewer transactions than a listing shows,
the first of which answers, the second changes nothing: it answers that it classified nothing
unless the database fails. -/
theorem reconciliation_idempotente (hminimum : s.AuDessusDuMinimum crypto owner)
    (hcount : s.bankTransaction.count (s.txDe owner) < limiteRetroactif)
    (hrun : Runs (machine col) (Handlers.recategoriserCredits crypto owner).run s t (.ok n) s')
    {r : Except ApiError ℕ}
    (hrun' : Runs (machine col) (Handlers.recategoriserCredits crypto owner).run s' t' r s'') :
    (∀ m, r = .ok m → m = 0 ∧ s'' = s') ∧
      ((∀ e ∈ t', Evenement.Reussi e) → r = .ok 0 ∧ s'' = s') := by
  obtain ⟨h⟩ := spec_recategoriserCredits hrun
  have hlistable : h.apresRecalcul.Listable owner := by
    have htotal : h.apresRecalcul.bankTransaction.count (h.apresRecalcul.txDe owner) =
        s.bankTransaction.count (s.txDe owner) := by
      rw [h.recalcul, Store.count_recalcule]
    refine le_trans (List.countP_mono_left fun tx _ htx => ?_) (htotal.trans_lt hcount).le
    exact (Bool.and_eq_true_iff.1 htx).1
  have hseconde := (reconcilie_of_reconciliation hminimum h hlistable).spec hrun'
  refine ⟨?_, fun hreussi => ?_⟩
  · rintro m rfl
    exact hseconde
  · cases r with
    | ok m =>
        obtain ⟨rfl, hs⟩ := hseconde
        exact ⟨rfl, hs⟩
    | error e =>
        obtain ⟨e', he', hechec⟩ := hseconde
        exact absurd (hreussi e' he') hechec

end Main

/-- The same user reconciles again. -/
def reconciliationSuivante : Outcome (machine Scenario.collation) (Except ApiError ℕ) :=
  run _ Scenario.calme.choix (Handlers.recategoriserCredits enClair "alice").run 0
    reconciliationAlice.state

/-- The first reconciliation classified one transaction, and the second none. -/
theorem reconciliation_idempotente_deuxRegles :
    reconciliationSuivante.value = .ok 0 ∧
      reconciliationSuivante.state = reconciliationAlice.state := by
  have hmontants : ∀ t ∈ deuxRegles.bankTransaction.rows,
      dechiffrerMontant enClair "alice" "bank_transaction" "amount_cents" t.amountCents =
        .ok (-5000) := by
    decide +kernel
  have hminimum : deuxRegles.AuDessusDuMinimum enClair "alice" := by
    intro t ht _ n hn
    obtain rfl := Except.ok.inj ((hmontants t ht).symm.trans hn)
    decide
  have hcount : deuxRegles.bankTransaction.count (deuxRegles.txDe "alice") < limiteRetroactif := by
    decide +kernel
  have hvalue : reconciliationSuivante.value = .ok 0 := by decide +kernel
  have hrun := runs_run (M := machine Scenario.collation) Scenario.calme.choix
    (Handlers.recategoriserCredits enClair "alice").run 0 reconciliationAlice.state
  rw [← reconciliationSuivante] at hrun
  exact ⟨hvalue, ((reconciliation_idempotente hminimum hcount runs_reconciliationAlice hrun).1 0
    hvalue).2⟩

end Budgy
