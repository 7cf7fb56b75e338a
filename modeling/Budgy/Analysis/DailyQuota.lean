import Budgy.Analysis.Reservations

/-!
# The quota of a day

The counter of an account is the pair of a day and a number, and a reservation for
another day starts it again from one.  Cycles of one day therefore never pass the quota,
while cycles whose days alternate may: `quotaRespecte_of_sansReprise` bounds the
reservations of a day as long as none of them starts again the counter of a day that
was already counted.
-/

set_option autoImplicit false

namespace Budgy

open Effects

section Count

variable {ι : Type} {col : Collation} {compte : BankAccountId} {jour : NaiveDate}

/-- The entry is a successful reservation of the account, with a plan of the day. -/
def estReservation (compte : BankAccountId) (jour : NaiveDate) (x : Entry signature) : Bool :=
  (creneau x).any fun prise => prise.1 = compte && prise.2.lastSyncDay = jour

/-- The successful reservations of an account for a day. -/
def reservations (compte : BankAccountId) (jour : NaiveDate) (l : List (ι × Evenement col)) : ℕ :=
  l.countP fun x => estReservation compte jour (Event.entry x.2)

/-- No account is reserved for a day more often than the quota.  A quota below zero lets
none through. -/
def QuotaRespecte (quota : ℤ) (l : List (ι × Evenement col)) : Prop :=
  ∀ compte jour, (reservations compte jour l : ℤ) ≤ max quota 0

/-- No reservation starts again the counter of a day that the run has already counted:
if the account was reserved for the day of its plan before, the row still stands at that
day. -/
def SansReprise (l : List (ι × Evenement col)) : Prop :=
  ∀ l₁ x l₂ compte plan, l = l₁ ++ x :: l₂ →
    creneau (Event.entry x.2) = some (compte, plan) →
      0 < reservations compte plan.lastSyncDay l₁ →
        ∀ a ∈ x.2.before.bankAccount, a.id = compte → a.lastSyncDay = some plan.lastSyncDay

/-- No event, no reservation. -/
theorem reservations_nil : reservations compte jour ([] : List (ι × Evenement col)) = 0 := rfl

/-- One more event. -/
theorem reservations_concat {l : List (ι × Evenement col)} {x : ι × Evenement col} :
    reservations compte jour (l ++ [x]) =
      reservations compte jour l + if estReservation compte jour (Event.entry x.2) then 1 else 0 := by
  unfold reservations
  rw [List.countP_append, List.countP_singleton]

/-- A reservation, read on the entry. -/
theorem estReservation_iff {x : Entry signature} :
    estReservation compte jour x = true ↔
      ∃ plan, creneau x = some (compte, plan) ∧ plan.lastSyncDay = jour := by
  unfold estReservation
  cases h : creneau x with
  | none => simp
  | some prise =>
      obtain ⟨id, plan⟩ := prise
      simp only [Option.any_some, Bool.and_eq_true, decide_eq_true_eq, Option.some.injEq,
        Prod.mk.injEq]
      constructor
      · rintro ⟨rfl, hjour⟩
        exact ⟨plan, ⟨rfl, rfl⟩, hjour⟩
      · rintro ⟨_, ⟨rfl, rfl⟩, hjour⟩
        exact ⟨rfl, hjour⟩

end Count

/-! ## The counters -/

/-- The counters of the accounts are not negative. -/
def Store.CompteursPositifs (s : Store) : Prop := ∀ a ∈ s.bankAccount, 0 ≤ a.syncCountToday

/-- The counter of a day is not negative. -/
theorem compteurDuJour_nonneg {a : BankAccountRow} (ha : 0 ≤ a.syncCountToday)
    (jour : NaiveDate) : 0 ≤ RequeteCompte.compteurDuJour a jour := by
  unfold RequeteCompte.compteurDuJour
  split
  · exact ha
  · exact le_rfl

section Events

variable {col : Collation} {e : Evenement col}

/-- Every request keeps the counters from going below zero. -/
theorem Store.CompteursPositifs.after (h : e.before.CompteursPositifs) :
    e.after.CompteursPositifs := by
  intro a ha
  rcases planning_after ha with ⟨a₀, ha₀, hmeme⟩ | ⟨plan, quota, -, a₀, ha₀, hreserve⟩ | ⟨l, x, rfl, -⟩
  · have hpos := h a₀ ha₀
    rwa [hmeme.syncCountToday]
  · have hpos := compteurDuJour_nonneg (h a₀ ha₀) plan.lastSyncDay
    have hcompteur := hreserve.syncCountToday
    omega
  · exact le_rfl

/-- The counters of any execution are positive. -/
theorem compteursPositifs_execution {cfg : Configuration} {s₀ s : Store}
    {l : List (Etape col cfg)} (h₀ : s₀.Amorcee) (h : Execution col cfg s₀ l s) :
    s.CompteursPositifs := by
  refine (h.preserves (I := Store.CompteursPositifs) ?_ fun c _ hvalid hbefore => ?_).1
  · intro a ha
    have ha : a ∈ s₀.bankAccount.rows := ha
    rw [h₀.bankAccount] at ha
    exact absurd ha List.not_mem_nil
  · exact (Runs.preserves hvalid hbefore fun e _ he => he.after).1

end Events

/-! ## The bound -/

section Step

variable {ι : Type} {col : Collation} {s : Store} {past : List (ι × Evenement col)} {quota : ℤ}

/-- What the rows of an account keep of the reservations made so far: those of the day
they stand at are counted. -/
structure Store.Compte (quota : ℤ) (past : List (ι × Evenement col)) (s : Store) : Prop where
  positifs : s.CompteursPositifs
  quota : QuotaRespecte quota past
  compte : ∀ jour, ∀ a ∈ s.bankAccount, a.lastSyncDay = some jour →
    (reservations a.id jour past : ℤ) ≤ a.syncCountToday

/-- The reservations of a day are at most what the counter of the day says, unless the
counter was started again. -/
private theorem reservations_le_compteur (h : s.Compte quota past) {a : BankAccountRow} (ha : a ∈ s.bankAccount) {jour : NaiveDate}
    (hreprise : 0 < reservations a.id jour past → a.lastSyncDay = some jour) :
    (reservations a.id jour past : ℤ) ≤ RequeteCompte.compteurDuJour a jour := by
  rcases Nat.eq_zero_or_pos (reservations a.id jour past) with hzero | hpos
  · rw [hzero]
    exact compteurDuJour_nonneg (h.positifs a ha) jour
  · have hjour := hreprise hpos
    have hcompteur : RequeteCompte.compteurDuJour a jour = a.syncCountToday := if_pos hjour
    rw [hcompteur]
    exact h.compte jour a ha hjour

/-- One request keeps the reservations counted. -/
private theorem Store.Compte.after {x : ι × Evenement col} (h : x.2.before.Compte quota past)
    (hquota : ∀ compte plan q, Event.entry x.2 =
      ⟨.sql (.compte (.reserverCreneau compte plan q)), .ok 1⟩ → q = quota)
    (hreprise : ∀ compte plan, creneau (Event.entry x.2) = some (compte, plan) →
      0 < reservations compte plan.lastSyncDay past →
        ∀ a ∈ x.2.before.bankAccount, a.id = compte → a.lastSyncDay = some plan.lastSyncDay) :
    (Event.after x.2).Compte quota (past ++ [x]) := by
  -- a slot taken for an account and a day
  have hpris : ∀ compte plan q, Event.entry x.2 =
      ⟨.sql (.compte (.reserverCreneau compte plan q)), .ok 1⟩ → ∀ a₀ ∈ x.2.before.bankAccount,
        a₀.id = compte → (reservations compte plan.lastSyncDay past : ℤ) ≤
          RequeteCompte.compteurDuJour a₀ plan.lastSyncDay := by
    rintro compte plan q hentry a₀ ha₀ rfl
    refine reservations_le_compteur h ha₀ fun hpos => ?_
    exact hreprise a₀.id plan (creneau_eq_some.2 ⟨q, hentry⟩) hpos a₀ ha₀ rfl
  refine ⟨h.positifs.after, fun compte jour => ?_, fun jour a ha hjour => ?_⟩
  · rw [reservations_concat]
    split
    · rename_i hres
      obtain ⟨plan, hcreneau, rfl⟩ := estReservation_iff.1 hres
      obtain ⟨q, hentry⟩ := creneau_eq_some.1 hcreneau
      obtain ⟨a₀, ha₀, hid, a, -, hreserve⟩ := reserve_of_creneau hentry
      have hle := hpris compte plan q hentry a₀ ha₀ hid
      have hlibre := hreserve.libre
      rw [hquota compte plan q hentry] at hlibre
      push_cast
      omega
    · simpa using h.quota compte jour
  · rw [reservations_concat]
    split
    · -- the row is the one whose slot was just taken
      rename_i hres
      obtain ⟨plan, hcreneau, rfl⟩ := estReservation_iff.1 hres
      obtain ⟨q, hentry⟩ := creneau_eq_some.1 hcreneau
      obtain ⟨a₀, ha₀, hid, a', ha', hreserve⟩ := reserve_of_creneau hentry
      obtain rfl := Relational.Table.eq_of_key_eq ha ha' (hid.symm.trans hreserve.id.symm)
      have hle := hpris a.id plan q hentry a₀ ha₀ hid
      have hcompteur := hreserve.syncCountToday
      push_cast
      omega
    · rename_i hres
      rcases planning_after ha with ⟨a₀, ha₀, hmeme⟩ | ⟨plan, q, hentry, a₀, -, hreserve⟩ |
        ⟨l, y, rfl, -⟩
      · have hle := h.compte jour a₀ ha₀ (hmeme.lastSyncDay ▸ hjour)
        rw [hmeme.id, hmeme.syncCountToday]
        simpa using hle
      · have hjour' : plan.lastSyncDay = jour := by
          rw [hreserve.lastSyncDay] at hjour
          exact Option.some.inj hjour
        exact absurd (estReservation_iff.2 ⟨plan, creneau_eq_some.2 ⟨q, hentry⟩, hjour'⟩) hres
      · cases hjour

end Step

/-- In every interleaving of cycles, and of any other operations, no account is reserved for
a day more often than the quota, as long as no reservation starts again the counter of a
day that was counted. -/
theorem quotaRespecte_of_sansReprise {ι : Type} [DecidableEq ι] {col : Collation}
    {cfg : Configuration} {demandes : ι → Operation} {s s' : Store}
    {l : List (ι × Evenement col)} {pool' : ι → Programme Issue}
    (h : Entrelacement col cfg demandes s l pool' s') (hs : s.CompteursPositifs)
    (hreprise : SansReprise l) : QuotaRespecte cfg.parametres.quotaJournalier l := by
  have hdebut : s.Compte cfg.parametres.quotaJournalier ([] : List (ι × Evenement col)) := by
    refine ⟨hs, fun compte jour => ?_, fun jour a ha _ => ?_⟩
    · simp [reservations_nil]
    · simpa [reservations_nil] using hs a ha
  have hfin : s'.Compte cfg.parametres.quotaJournalier ([] ++ l) := by
    refine Interleaving.follows (R := fun past s => s.Compte cfg.parametres.quotaJournalier past)
      h hdebut ?_
    rintro l₁ ⟨i, e⟩ l₂ hl hbefore
    refine hbefore.after ?_ fun compte plan hcreneau => ?_
    · intro compte plan q hentry
      exact (h.reservation hl (effet_of_entry hentry).1).2.1
    · exact hreprise l₁ (i, e) l₂ compte plan hl hcreneau
  exact hfin.quota

/-! ## Two days that alternate -/

/-- A clock that passes midnight while the cycles start. -/
def passageMinuit : Scenario :=
  { Scenario.unCompte with horloge := fun n => if n < 510 then 0 else Duration.days 1 }

/-- A user with one account. -/
def compteAttache : Store := passageMinuit.fin rattachement

/-- Six cycles, of which the last one starts after midnight. -/
def sixCycles : Fin 6 → Operation := fun _ => .synchroniser

/-- All list the account.  Four of the first five reserve it, then the one of the next day,
then the one that is left. -/
def jourAlterne : List (Fin 6 × Evenement Scenario.collation) × (Fin 6 → Programme Issue) × Store :=
  passageMinuit.cote sixCycles [0, 0, 1, 1, 2, 2, 3, 3, 4, 4, 5, 5, 0, 1, 2, 3, 5, 4] compteAttache

/-- The cycles are an interleaving. -/
theorem entrelacement_jourAlterne :
    Entrelacement Scenario.collation Scenario.configuration sixCycles compteAttache jourAlterne.1
      jourAlterne.2.1 jourAlterne.2.2 :=
  passageMinuit.entrelacement _ _ _

/-- The counters are positive at the start. -/
theorem compteursPositifs_compteAttache : compteAttache.CompteursPositifs :=
  compteursPositifs_execution amorcee_amorcee (passageMinuit.execution _)

/-- The account is reserved five times for the first day. -/
theorem not_quotaRespecte_jourAlterne :
    Entrelacement Scenario.collation Scenario.configuration sixCycles compteAttache jourAlterne.1
        jourAlterne.2.1 jourAlterne.2.2 ∧
      compteAttache.CompteursPositifs ∧
        Scenario.configuration.parametres.quotaJournalier = 4 ∧
          reservations (Uuid.fromU128 1012) (DateTime.dateNaive 0) jourAlterne.1 = 5 ∧
            ¬ QuotaRespecte Scenario.configuration.parametres.quotaJournalier jourAlterne.1 := by
  have hcinq : reservations (Uuid.fromU128 1012) (DateTime.dateNaive 0) jourAlterne.1 = 5 := by decide +kernel
  refine ⟨entrelacement_jourAlterne, compteursPositifs_compteAttache, rfl, hcinq, fun hquota => ?_⟩
  have hle := hquota (Uuid.fromU128 1012) (DateTime.dateNaive 0)
  rw [hcinq] at hle
  exact absurd hle (by decide)

/-- A worker that starts again six hours later. -/
def sixHeuresPlusTard : Scenario :=
  { Scenario.unCompte with horloge := fun n => if n < 500 then 0 else Duration.hours 6 }

/-- The account was synchronised once. -/
def compteSynchroniseUneFois : Store :=
  sixHeuresPlusTard.fin
    [.createConsent "alice" "banque", .completeConsent "alice" reponseBanque, .synchroniser]

/-- Four cycles list it the same day, then each asks for its slot. -/
def memeJour : List (Fin 4 × Evenement Scenario.collation) × (Fin 4 → Programme Issue) × Store :=
  sixHeuresPlusTard.cote (fun _ => .synchroniser) [0, 0, 1, 1, 2, 2, 3, 3, 0, 1, 2, 3]
    compteSynchroniseUneFois

/-- Two reservations of one day do not restart the counter. -/
private theorem sansReprise_memeJour : SansReprise memeJour.1 := by
  have hjour : ∀ x ∈ memeJour.1, ∀ prise ∈ creneau (Event.entry x.2),
      ∀ a ∈ x.2.before.bankAccount.rows, a.id = prise.1 →
        a.lastSyncDay = some prise.2.lastSyncDay := by
    decide +kernel
  intro l₁ x l₂ compte plan hl hcreneau _ a ha hid
  exact hjour x (by simp [hl]) (compte, plan) hcreneau a ha hid

/-- Three of them get it: the fourth finds the quota reached. -/
theorem quotaRespecte_memeJour :
    reservations (Uuid.fromU128 1012) (DateTime.dateNaive 0) memeJour.1 = 3 ∧
      QuotaRespecte Scenario.configuration.parametres.quotaJournalier memeJour.1 := by
  refine ⟨by decide +kernel, ?_⟩
  exact quotaRespecte_of_sansReprise (sixHeuresPlusTard.entrelacement _ _ _)
    (compteursPositifs_execution amorcee_amorcee (sixHeuresPlusTard.execution _))
    sansReprise_memeJour

end Budgy
