import Budgy.Analysis.TransferRecalculation

/-!
# A recalculation that stops halfway

A recalculation takes the marks of an owner back with one statement and sets the new ones
with the next; no transaction of the database holds them together.  When it stops with an
error the database is as it was, unless it is the marking that failed: then the marks are
gone, and nothing else is (`recalculs_interrompus`).
-/

set_option autoImplicit false

namespace Budgy

open Effects Prog Relational

/-! ## What the resets leave -/

/-- The flag of a transfer is no part of the identifier. -/
theorem id_sansTransfert (t : BankTransactionRow) :
    { t with isInternalTransfer := false }.id = t.id := rfl

/-- The flag of a recurrence is no part of the identifier. -/
theorem id_sansRecurrence (t : BankTransactionRow) :
    { t with isRecurrent := false, recurrenceInterval := none }.id = t.id := rfl

/-- The database without the transfer flags that a recalculation takes back. -/
def Store.sansTransferts (s : Store) (owner : ProprietaireId) : Store :=
  s.majTransaction
    (fun t => s.txDe owner t && (t.isInternalTransfer &&
      t.categoryId ≠ some categorieVirementsInternes))
    (fun t => { t with isInternalTransfer := false }) id_sansTransfert

/-- The database without the recurrences of an owner. -/
def Store.sansRecurrences (s : Store) (owner : ProprietaireId) : Store :=
  s.majTransaction (fun t => s.txDe owner t && t.isRecurrent)
    (fun t => { t with isRecurrent := false, recurrenceInterval := none }) id_sansRecurrence

/-- The statements that mark internal transfers, or recurrences. -/
inductive Requete.Marque (owner : ProprietaireId) : Requete → Prop where
  | transferts (ids : List Uuid) : Marque owner (.transaction (.marquerTransfertsInternes owner ids))
  | recurrences (interval : RecurrenceInterval) (ids : List Uuid) :
      Marque owner (.transaction (.marquerRecurrentes owner interval ids))

/-- A marking of the run failed. -/
def MarquageEchoue {col : Collation} (owner : ProprietaireId) (t : List (Evenement col)) : Prop :=
  ∃ e ∈ t, (∃ r, e.op = .sql r ∧ r.Marque owner) ∧ ¬ Evenement.Reussi e

section Programmes

variable {col : Collation} {crypto : CryptoService} {owner : ProprietaireId} {s sans : Store}

/-- What a recalculation that stops with an error leaves: the database as it found it, or
without the marks when a marking failed. -/
def Interrompu {α : Type} (owner : ProprietaireId) (s sans : Store) (t : List (Evenement col))
    (reponse : Except ChiffrementError α) (s' : Store) : Prop :=
  ∀ e, reponse = .error e → s' = s ∨ MarquageEchoue owner t ∧ s' = sans

/-- A statement takes its effect, or leaves the database and shows as a failure. -/
private theorem spec_statement {r : Requete} :
    Spec (machine col) (interrogerChiffre r).run s fun t reponse s' =>
      match reponse with
      | .ok v => ∃ x, r.effet col x s = .ok (v, s')
      | .error _ => s' = s ∧ ∃ e ∈ t, e.op = .sql r ∧ ¬ Evenement.Reussi e := by
  refine spec_interrogerChiffre ?_ fun x v s' heffet _ => ⟨x, heffet⟩
  intro x e hreply
  refine ⟨rfl, _, List.mem_singleton_self _, rfl, ?_⟩
  show ¬ (r.executer col x s).1.isOk = true
  rw [hreply]
  exact Bool.false_ne_true

/-- A reset, from what its statement does. -/
private theorem spec_reset {r : Requete}
    (hr : ∀ x v s', r.effet col x s = .ok (v, s') → s' = sans) :
    Spec (machine col) (do let _ ← interrogerChiffre r; return () : Tache ChiffrementError PUnit).run
      s fun _ reponse s' =>
        match reponse with
        | .ok _ => s' = sans
        | .error _ => s' = s := by
  refine spec_run_bind.2 (Spec.mono spec_statement ?_)
  rintro t (e | v) s' h
  · exact h.1
  · obtain ⟨x, heffet⟩ := h
    exact spec_run_pure.2 (hr x v s' heffet)

/-- What the marking leaves when it fails: the database without the marks. -/
private def MarquageRate {α : Type} (owner : ProprietaireId) (sans : Store)
    (t : List (Evenement col)) (reponse : Except ChiffrementError α) (s' : Store) : Prop :=
  ∀ e, reponse = .error e → MarquageEchoue owner t ∧ s' = sans

/-- A marking is one statement. -/
private theorem spec_marquer {r : Requete} (hr : r.Marque owner) :
    Spec (machine col) (interrogerChiffre r).run sans (MarquageRate owner sans) := by
  refine Spec.mono spec_statement ?_
  rintro t (e | v) s' h
  · obtain ⟨hsame, ev, hev, hop, hechec⟩ := h
    exact fun _ _ => ⟨⟨ev, hev, ⟨r, hop, hr⟩, hechec⟩, hsame⟩
  · exact fun _ herror => nomatch herror

/-- Without anything to mark, no statement is sent. -/
private theorem marquageRate_pure {n : ℕ} :
    Spec (machine col) (pure n : Tache ChiffrementError ℕ).run sans (MarquageRate owner sans) :=
  spec_run_pure.2 fun _ herror => nomatch herror

/-- A recalculation reads, takes the marks back, then sets the new ones. -/
private theorem spec_recalcul {α : Type} {lister : Tache ChiffrementError α}
    {reset : Tache ChiffrementError PUnit} (marquer : α → Tache ChiffrementError ℕ)
    (hlister : lister.run.Uses fun o : Op => o.ecrit = [])
    (hreset : Spec (machine col) reset.run s fun _ reponse s' =>
      match reponse with
      | .ok _ => s' = sans
      | .error _ => s' = s)
    (hmarquer : ∀ a, Spec (machine col) (marquer a).run sans (MarquageRate owner sans)) :
    Spec (machine col) (do let a ← lister; reset; marquer a : Tache ChiffrementError ℕ).run s
      (Interrompu owner s sans) := by
  refine spec_run_bind.2 (Spec.mono (spec_lecture hlister) ?_)
  rintro t₁ (e | a) s₁ rfl
  · exact fun _ _ => .inl rfl
  refine spec_run_bind.2 (Spec.mono hreset ?_)
  rintro t₂ (e | _) s₂ h
  · exact fun _ _ => .inl h
  subst h
  refine Spec.mono (hmarquer a) ?_
  rintro t₃ reponse s₃ h e herror
  obtain ⟨⟨ev, hev, hmarque⟩, hsans⟩ := h e herror
  exact .inr ⟨⟨ev, by simp [hev], hmarque⟩, hsans⟩

/-- An interrupted recalculation of the transfers leaves the flags as they were, or reset. -/
theorem spec_recalculerTransfertsInternes :
    Spec (machine col) (BankTransactions.recalculerTransfertsInternes crypto owner).run s
      (Interrompu owner s (s.sansTransferts owner)) := by
  refine spec_recalcul
    (fun mouvements => BankTransactions.marquerTransfertsInternes owner
      (detecterTransfertsInternes mouvements)) ?_ (spec_reset ?_) ?_
  · refine Uses.run_bind (uses_interrogerChiffre rfl) fun rows => ?_
    exact Uses.run_bind uses_ofExcept fun _ => uses_pure _
  · intro x v s' heffet
    exact (Prod.mk.inj (Except.ok.inj heffet)).2.symm
  · intro mouvements
    unfold BankTransactions.marquerTransfertsInternes
    split
    · exact marquageRate_pure
    · exact spec_marquer (.transferts _)

/-- There is one interval of recurrence, so one marking at most. -/
theorem intervalles_dedup (l : List RecurrenceInterval) :
    l.dedup = [] ∨ l.dedup = [.mensuel] := by
  have hnodup := l.nodup_dedup
  have hmensuel : ∀ interval ∈ l.dedup, interval = RecurrenceInterval.mensuel :=
    fun interval _ => by cases interval; rfl
  cases h : l.dedup with
  | nil => exact .inl rfl
  | cons interval rest =>
      rw [h] at hnodup hmensuel
      obtain rfl : interval = .mensuel := hmensuel _ (by simp)
      cases rest with
      | nil => exact .inr rfl
      | cons interval rest =>
          obtain rfl : interval = .mensuel := hmensuel _ (by simp)
          simp at hnodup

/-- Counting what was marked cannot fail. -/
private theorem marquageRate_map {x : Tache ChiffrementError ℕ} (f : ℕ → ℕ)
    (h : Spec (machine col) x.run sans (MarquageRate owner sans)) :
    Spec (machine col) (do let n ← x; return f n : Tache ChiffrementError ℕ).run sans
      (MarquageRate owner sans) := by
  refine spec_run_bind.2 (Spec.mono h ?_)
  rintro t (e | n) s' hrate
  · exact fun _ _ => hrate e rfl
  · exact spec_run_pure.2 fun _ herror => nomatch herror

/-- So does an interrupted detection of the recurrences. -/
theorem spec_recalculerRecurrences :
    Spec (machine col) (BankTransactions.recalculerRecurrences crypto owner).run s
      (Interrompu owner s (s.sansRecurrences owner)) := by
  refine spec_recalcul _ ?_ (spec_reset ?_) ?_
  · refine Uses.run_bind (uses_interrogerChiffre rfl) fun rows => ?_
    exact Uses.run_bind uses_ofExcept fun _ => uses_pure _
  · intro x v s' heffet
    exact (Prod.mk.inj (Except.ok.inj heffet)).2.symm
  · intro occurrences
    rcases intervalles_dedup ((detecterRecurrences occurrences).map TransactionRecurrente.interval)
      with h | h
    · rw [h]
      exact marquageRate_pure
    · rw [h, List.foldlM_cons]
      refine marquageRate_map (fun n => n) (marquageRate_map (fun n => 0 + n) ?_)
      unfold BankTransactions.marquerRecurrentes
      split
      · exact marquageRate_pure
      · exact spec_marquer (.recurrences ..)

end Programmes

section Result

variable {col : Collation}

/-- A recalculation that answers an error has left every transaction as it was, unless it
is its marking that failed: then the flags that the reset takes back are gone, or the
recurrences of the owner, and no other column has changed. -/
theorem recalculs_interrompus (crypto : CryptoService) (owner : ProprietaireId) (s : Store) :
    (∀ (t : List (Evenement col)) (e : ChiffrementError) (s' : Store),
      Runs (machine col) (BankTransactions.recalculerTransfertsInternes crypto owner).run s t
        (.error e) s' →
      s' = s ∨ MarquageEchoue owner t ∧ s' = s.sansTransferts owner) ∧
    (∀ (t : List (Evenement col)) (e : ChiffrementError) (s' : Store),
      Runs (machine col) (BankTransactions.recalculerRecurrences crypto owner).run s t
        (.error e) s' →
      s' = s ∨ MarquageEchoue owner t ∧ s' = s.sansRecurrences owner) := by
  constructor
  · intro t e s' hrun
    exact spec_recalculerTransfertsInternes hrun e rfl
  · intro t e s' hrun
    exact spec_recalculerRecurrences hrun e rfl

end Result

/-! ## A marking that fails -/

/-- The two sides of the transfer, recognised. -/
def deuxFacesReconnues : Store :=
  deuxFaces.majTransaction (fun _ => true) fun t => { t with isInternalTransfer := true }

/-- A database that refuses the third statement. -/
def troisiemePanne : Scenario :=
  { Scenario.calme with panne := fun n => if n = 2 then some "connexion perdue" else none }

/-- The transfers are recalculated, and the marking fails. -/
def recalculCoupe : Outcome (machine Scenario.collation) (Except ChiffrementError ℕ) :=
  run _ troisiemePanne.choix (BankTransactions.recalculerTransfertsInternes enClair "alice").run 0
    deuxFacesReconnues

/-- The marking fails. -/
theorem value_recalculCoupe :
    recalculCoupe.value = .error (.database (.panne "connexion perdue")) := by
  decide +kernel

/-- The recalculation that is cut is a run. -/
theorem runs_recalculCoupe :
    Runs (machine Scenario.collation)
      (BankTransactions.recalculerTransfertsInternes enClair "alice").run deuxFacesReconnues
      recalculCoupe.trace (.error (.database (.panne "connexion perdue"))) recalculCoupe.state := by
  have h := runs_run (M := machine Scenario.collation) troisiemePanne.choix
    (BankTransactions.recalculerTransfertsInternes enClair "alice").run 0 deuxFacesReconnues
  rwa [← recalculCoupe, value_recalculCoupe] at h

/-- The two sides were flagged, and the recalculation that fails leaves them unflagged. -/
theorem not_atomique_recalculCoupe :
    ¬ ∀ (t : List (Evenement Scenario.collation)) (e : ChiffrementError) (s' : Store),
      Runs (machine Scenario.collation)
        (BankTransactions.recalculerTransfertsInternes enClair "alice").run deuxFacesReconnues t
        (.error e) s' →
      ∀ row ∈ deuxFacesReconnues.bankTransaction, ∃ row' ∈ s'.bankTransaction, row'.id = row.id ∧
        row'.isInternalTransfer = row.isInternalTransfer ∧ row'.classement = row.classement := by
  have hmarquee : ∃ row ∈ deuxFacesReconnues.bankTransaction.rows,
      row.isInternalTransfer = true := by
    decide +kernel
  have hperdue : ∀ row ∈ recalculCoupe.state.bankTransaction.rows,
      row.isInternalTransfer = false := by
    decide +kernel
  intro h
  obtain ⟨row, hrow, hflag⟩ := hmarquee
  obtain ⟨row', hrow', -, hsame, -⟩ := h _ _ _ runs_recalculCoupe row hrow
  exact Bool.noConfusion ((hperdue row' hrow').symm.trans (hsame.trans hflag))

/-- The marks are all that this run has lost. -/
theorem recalculs_interrompus_recalculCoupe :
    recalculCoupe.state = deuxFacesReconnues ∨
      MarquageEchoue "alice" recalculCoupe.trace ∧
        recalculCoupe.state = deuxFacesReconnues.sansTransferts "alice" :=
  (recalculs_interrompus enClair "alice" deuxFacesReconnues).1 _ _ _ runs_recalculCoupe

end Budgy
