import Budgy.Analysis.StaleFailure

/-!
# Accounts that fail in a cycle

The accounts of a cycle are meant to fail apart from one another.  Two things tie them
together: the list is decrypted as a whole, and a statement of the planning that fails ends
the cycle.  `comptesIsoles_iff` says in which cycles an account suffers from another.
-/

set_option autoImplicit false

namespace Budgy

open Effects Prog

section

variable {col : Collation} (crypto : CryptoService) (quota : ℤ) (maintenant : DateTime) (s : Store)
  (t : List (Evenement col))

/-- The due account can be decrypted. -/
def CompteEcheantRow.Lisible (row : CompteEcheantRow) : Prop :=
  (BankAccounts.intoCompteEcheant crypto row).isOk = true

/-- The account fails in the cycle: it cannot be decrypted, or a request about it is refused
or fails. -/
def CompteEcheantRow.EnEchec (row : CompteEcheantRow) : Prop :=
  ¬ row.Lisible crypto ∨ ∃ e ∈ t, EchecCompte row.compte.id (Event.entry e)

/-- The slot of the account is taken, and its synchronisation succeeds. -/
def CompteEcheantRow.Servi (row : CompteEcheantRow) : Prop :=
  (∃ e ∈ t, CreneauPris row.compte.id (Event.entry e)) ∧
    Synchronise row.compte.ownerId row.compte.id maintenant t

/-- Every due account that does not fail is reserved and synchronised. -/
def ComptesIsoles : Prop :=
  ∀ row, s.Echeant quota maintenant row → ¬ row.EnEchec crypto t → row.Servi maintenant t

/-- The due accounts can all be decrypted, or none can; and if a statement of the planning
fails, every due account had its turn. -/
def SansContagion : Prop :=
  ((∀ row, s.Echeant quota maintenant row → row.Lisible crypto) ∨
      ∀ row, s.Echeant quota maintenant row → ¬ row.Lisible crypto) ∧
    ((∃ e ∈ t, e.op.Planifie ∧ ¬ Evenement.Reussi e) →
      ∀ row, s.Echeant quota maintenant row → ∃ e ∈ t, e.op.Prend row.compte.id)

end

section Cycle

variable {col : Collation} {crypto : CryptoService} {parametres : ParametresSynchro}
  {maintenant : DateTime} {s s' : Store} {t : List (Evenement col)}

/-- An account the cycle went through had its turn, and was served unless it failed. -/
private theorem Traites.servi {past : List CompteEcheant} (h : Traites maintenant s past t s')
    {echeant : CompteEcheant} (hechus : echeant ∈ past) :
    (∃ e ∈ t, e.op.Prend echeant.compte.id) ∧
      ((∀ e ∈ t, ¬ EchecCompte echeant.compte.id (Event.entry e)) →
        (∃ e ∈ t, CreneauPris echeant.compte.id (Event.entry e)) ∧
          Synchronise echeant.compte.proprietaire echeant.compte.id maintenant t) := by
  induction h with
  | debut => cases hechus
  | @suite past t s₁ _ dernier t' r s₂ hcompte ih =>
      rcases List.mem_append.1 hechus with hechus | hechus
      · obtain ⟨⟨e, he, hpris⟩, hservi⟩ := ih hechus
        refine ⟨⟨e, List.mem_append_left _ he, hpris⟩, fun hsans => ?_⟩
        obtain ⟨⟨e₁, he₁, hcreneau⟩, e₂, he₂, hsucces⟩ :=
          hservi fun e he => hsans e (List.mem_append_left _ he)
        exact ⟨⟨e₁, List.mem_append_left _ he₁, hcreneau⟩, e₂, List.mem_append_left _ he₂, hsucces⟩
      · obtain rfl := List.mem_singleton.1 hechus
        obtain ⟨e, he, hpris⟩ := hcompte.pris
        refine ⟨⟨e, List.mem_append_right _ he, hpris⟩, fun hsans => ?_⟩
        obtain ⟨⟨e₁, he₁, hcreneau⟩, e₂, he₂, hsucces⟩ :=
          hcompte.synchronise fun e he => hsans e (List.mem_append_right _ he)
        exact ⟨⟨e₁, List.mem_append_right _ he₁, hcreneau⟩, e₂, List.mem_append_right _ he₂, hsucces⟩

/-- The requests of a cycle are about the accounts it went through. -/
private theorem Traites.propre {past : List CompteEcheant} (h : Traites maintenant s past t s')
    {e : Evenement col} (he : e ∈ t) {id : BankAccountId} (hid : e.op.DuCompte id) :
    ∃ echeant ∈ past, echeant.compte.id = id := by
  induction h with
  | debut => cases he
  | suite hpast hcompte ih =>
      rcases List.mem_append.1 he with he | he
      · obtain ⟨echeant, hechus, heq⟩ := ih he
        exact ⟨echeant, List.mem_append_left _ hechus, heq⟩
      · exact ⟨_, List.mem_append_right _ (List.mem_singleton_self _), (hcompte.propre e he id hid).symm⟩

/-- When the accounts cannot all be decrypted, none has its turn. -/
private theorem comptesIsoles_illisible {quota : ℤ} {row : CompteEcheantRow}
    (hdue : s.Echeant quota maintenant row) (hrow : ¬ row.Lisible crypto) :
    ComptesIsoles crypto quota maintenant s ([] : List (Evenement col)) ↔
      SansContagion crypto quota maintenant s ([] : List (Evenement col)) := by
  constructor
  · intro hisoles
    refine ⟨.inr fun row' hdue' hlisible => ?_, fun ⟨_, he, _⟩ => absurd he List.not_mem_nil⟩
    have hservi := hisoles row' hdue' (by simp [CompteEcheantRow.EnEchec, hlisible])
    obtain ⟨e, he, -⟩ := hservi.1
    exact absurd he List.not_mem_nil
  · rintro ⟨htous | haucun, -⟩ row' hdue' hsain
    · exact absurd (htous row hdue) hrow
    · exact absurd (.inl (haucun row' hdue')) hsain

/-- When they can, those that the cycle did not reach are those that suffer. -/
private theorem comptesIsoles_parcouru {quota : ℤ} {past rest : List CompteEcheant}
    (htraites : Traites maintenant s past t s')
    (harret : rest = [] ∨ ∃ e ∈ t, e.op.Planifie ∧ ¬ Evenement.Reussi e)
    (hechus : ∀ row, s.Echeant quota maintenant row →
      ∃ echeant ∈ past ++ rest, BankAccounts.intoCompteEcheant crypto row = .ok echeant)
    (hids : ((past ++ rest).map fun echeant => echeant.compte.id).Nodup) :
    ComptesIsoles crypto quota maintenant s t ↔ SansContagion crypto quota maintenant s t := by
  have hjamais : ∀ echeant ∈ rest, ∀ e ∈ t, ¬ e.op.DuCompte echeant.compte.id := by
    intro echeant hreste e he hid
    obtain ⟨echeant', hpasse, heq⟩ := htraites.propre he hid
    rw [List.map_append, List.nodup_append] at hids
    exact hids.2.2 _ (List.mem_map_of_mem hpasse) _ (List.mem_map_of_mem hreste) heq
  have hlisibles : ∀ row, s.Echeant quota maintenant row → row.Lisible crypto := by
    intro row hdue
    obtain ⟨echeant, -, hinto⟩ := hechus row hdue
    rw [CompteEcheantRow.Lisible, hinto]
    rfl
  constructor
  · intro hisoles
    refine ⟨.inl hlisibles, fun _ row hdue => ?_⟩
    obtain ⟨echeant, hmem, hinto⟩ := hechus row hdue
    obtain ⟨hid, -⟩ := intoCompteEcheant_eq_ok hinto
    rcases List.mem_append.1 hmem with hpasse | hreste
    · exact hid ▸ (htraites.servi hpasse).1
    · -- an account without a turn does not fail, and is not served
      have hsain : ¬ row.EnEchec crypto t := by
        rintro (hillisible | ⟨e, he, hechec⟩)
        · exact hillisible (hlisibles row hdue)
        · exact hjamais echeant hreste e he (hid ▸ duCompte_of_echec hechec)
      obtain ⟨e, he, hcreneau⟩ := (hisoles row hdue hsain).1
      exact absurd (hid ▸ duCompte_of_creneau hcreneau) (hjamais echeant hreste e he)
  · rintro ⟨-, htour⟩ row hdue hsain
    obtain ⟨echeant, hmem, hinto⟩ := hechus row hdue
    obtain ⟨hid, howner, -⟩ := intoCompteEcheant_eq_ok hinto
    have hsain : ∀ e ∈ t, ¬ EchecCompte row.compte.id (Event.entry e) :=
      fun e he hechec => hsain (.inr ⟨e, he, hechec⟩)
    rcases List.mem_append.1 hmem with hpasse | hreste
    · have hservi := (htraites.servi hpasse).2
      rw [hid, howner] at hservi
      exact hservi hsain
    · rcases harret with rfl | hplan
      · exact absurd hreste List.not_mem_nil
      · obtain ⟨e, he, hpris⟩ := htour hplan row hdue
        exact absurd (hid ▸ duCompte_of_prend hpris) (hjamais echeant hreste e he)

/-- No due account suffers from another exactly when they can all be decrypted, or none,
and the planning fails in the turn of the last of them only. -/
theorem comptesIsoles_iff {x : ChoixSql} {r : Except SynchroError RapportSynchro}
    (hliste : ((listeEcheants parametres maintenant).executer col x s).1.isOk = true)
    (hrun : Runs (machine col) (Synchro.executer crypto parametres).run s
      (⟨s, .maintenant, maintenant⟩ ::
        ⟨s, .sql (listeEcheants parametres maintenant), x⟩ :: t) r s') :
    ComptesIsoles crypto parametres.quotaJournalier maintenant s t ↔
      SansContagion crypto parametres.quotaJournalier maintenant s t := by
  have hderoulement := spec_executer hrun
  cases hderoulement with
  | sansListe _ x hechec =>
      rw [hechec] at hliste
      cases hliste
  | illisible _ x hrows hillisible =>
      obtain ⟨row, hrow, herror⟩ := Traversal.exists_error hillisible
      refine comptesIsoles_illisible ((mem_listeEcheants hrows).1 hrow) ?_
      rw [CompteEcheantRow.Lisible, herror]
      exact Bool.false_ne_true
  | @parcouru _ x rows hrows past rest hlisible t s' htraites harret =>
      refine comptesIsoles_parcouru htraites harret (fun row hdue => ?_) ?_
      · exact Traversal.exists_of_mem_left hlisible ((mem_listeEcheants hrows).2 hdue)
      · rw [Traversal.map_eq_map hlisible fun _ _ h => (intoCompteEcheant_eq_ok h).1]
        exact nodup_listeEcheants hrows

end Cycle

/-! ## A reservation that fails -/

/-- The choices of a database that fails on the reservation of the first account. -/
def panneReservation (n : ℕ) (o : Op) : o.Choix :=
  Scenario.choix { Scenario.calme with panne := fun n => if n = 2 then some "panne" else none } n o

/-- The cycle that fails on the reservation of the first account. -/
def cycleCoupe : Outcome (machine Scenario.collation) (Except SynchroError RapportSynchro) :=
  run (machine Scenario.collation) panneReservation (Synchro.executer enClair .defaut).run 0
    avecDeuxComptes

/-- The database lists the two accounts. -/
def listeDeuxComptes : Evenement Scenario.collation :=
  ⟨avecDeuxComptes, .sql (listeEcheants .defaut 0), panneReservation 1 (.sql (listeEcheants .defaut 0))⟩

/-- The cycle is a run, of which the first two requests are known. -/
private theorem runs_cycleCoupe :
    Runs (machine Scenario.collation) (Synchro.executer enClair .defaut).run avecDeuxComptes
      (⟨avecDeuxComptes, .maintenant, (0 : DateTime)⟩ :: listeDeuxComptes :: cycleCoupe.trace.tail.tail)
      cycleCoupe.value cycleCoupe.state := by
  have htrace : cycleCoupe.trace =
      ⟨avecDeuxComptes, .maintenant, (0 : DateTime)⟩ :: listeDeuxComptes ::
        cycleCoupe.trace.tail.tail := rfl
  rw [← htrace]
  exact runs_run _ _ _ _

/-- The second account is due, does not fail, and is not synchronised. -/
private theorem contagion_cycleCoupe :
    ¬ ComptesIsoles enClair quotaJournalierDefaut 0 avecDeuxComptes cycleCoupe.trace.tail.tail := by
  have houblie : ∃ a ∈ avecDeuxComptes.bankAccount.rows, ∃ c ∈ avecDeuxComptes.consent.rows,
      c.id = a.consentId ∧
      RequeteCompte.estEcheant 0 (DateTime.dateNaive 0) quotaJournalierDefaut a c = true ∧
      (BankAccounts.intoCompteEcheant enClair ⟨a, c⟩).isOk = true ∧
      ∀ e ∈ cycleCoupe.trace.tail.tail, ¬ e.op.DuCompte a.id := by
    decide +kernel
  obtain ⟨a, ha, c, hc, hid, hdue, hlisible, hmuet⟩ := houblie
  intro hisoles
  have hsain : ¬ CompteEcheantRow.EnEchec enClair cycleCoupe.trace.tail.tail ⟨a, c⟩ := by
    rintro (hillisible | ⟨e, he, hechec⟩)
    · exact hillisible hlisible
    · exact hmuet e he (duCompte_of_echec hechec)
  obtain ⟨⟨e, he, hcreneau⟩, -⟩ := hisoles ⟨a, c⟩ ⟨ha, hc, hid, hdue⟩ hsain
  exact hmuet e he (duCompte_of_creneau hcreneau)

/-- The second account does not fail, and it is not synchronised. -/
theorem not_comptesIsoles_cycleCoupe :
    Runs (machine Scenario.collation) (Synchro.executer enClair .defaut).run avecDeuxComptes
        (⟨avecDeuxComptes, .maintenant, (0 : DateTime)⟩ :: listeDeuxComptes ::
          cycleCoupe.trace.tail.tail)
        cycleCoupe.value cycleCoupe.state ∧
      ¬ ComptesIsoles enClair quotaJournalierDefaut 0 avecDeuxComptes cycleCoupe.trace.tail.tail :=
  ⟨runs_cycleCoupe, contagion_cycleCoupe⟩

/-- Some account of that cycle failed for another one. -/
theorem not_sansContagion_cycleCoupe :
    ¬ SansContagion enClair quotaJournalierDefaut 0 avecDeuxComptes cycleCoupe.trace.tail.tail :=
  fun hsans => contagion_cycleCoupe
    ((comptesIsoles_iff (by decide +kernel) runs_cycleCoupe).2 hsans)

end Budgy
