import Budgy.Analysis.Reservations
import Budgy.Analysis.SyncWindow

/-!
# The ticks of the worker

The worker starts its cycles on the ticks of a period, and a cycle puts the next slot of
an account one period after the instant it read itself.  An account reserved by a cycle
is due again at the next one exactly when that cycle starts a whole period later
(`sansTickManque_iff`): a cycle that starts with less delay than the one before finds
nothing due.
-/

set_option autoImplicit false

namespace Budgy

open Effects Prog

section Definitions

variable {col : Collation} {cfg : Configuration}

/-- The account may be synchronised at the instant, were its slot due: its consent is
active and not over, and the quota of the day is not reached. -/
def Store.Utilisable (s : Store) (quota : ℤ) (maintenant : DateTime) (compte : BankAccountId) :
    Prop :=
  ∃ a ∈ s.bankAccount, a.id = compte ∧
    (∃ c ∈ s.consent, c.id = a.consentId ∧ c.status = .active ∧
      ∀ fin, c.expiresAt = some fin → maintenant < fin) ∧
    RequeteCompte.compteurDuJour a maintenant.dateNaive < quota

/-- The account is listed among the due ones. -/
def Store.Selectionne (s : Store) (quota : ℤ) (maintenant : DateTime) (compte : BankAccountId) : Prop :=
  ∃ row, s.Echeant quota maintenant row ∧ row.compte.id = compte

/-- The operations between two cycles of a worker: none is a cycle, none erases a user. -/
def EntreDeuxCycles (l : List (Etape col cfg)) : Prop :=
  ∀ d ∈ l, d.call ≠ .synchroniser ∧ ∀ owner, d.call ≠ .effacerDonneesProprietaire owner

/-- A cycle started at `m` reserved the account, which may be synchronised when the next
cycle starts, at `m'`. -/
structure Attendu (c c' : Etape col cfg) (m m' : DateTime) (compte : BankAccountId) : Prop where
  instant : instantDuCycle c = some m
  reserve : ∃ e ∈ c.trace, CreneauPris compte (Event.entry e)
  instant' : instantDuCycle c' = some m'
  utilisable : c'.before.Utilisable cfg.parametres.quotaJournalier m' compte

/-- An account reserved by a cycle, and usable at the next one, is due again there. -/
def SansTickManque (l : List (Etape col cfg)) : Prop :=
  ∀ l₁ c l₂ c' l₃ m m' compte, l = l₁ ++ c :: (l₂ ++ c' :: l₃) → EntreDeuxCycles l₂ →
    Attendu c c' m m' compte → c'.before.Selectionne cfg.parametres.quotaJournalier m' compte

/-- Whenever that is asked, the second cycle starts at least one interval after the first:
on the ticks of that period, its delay is not smaller. -/
def Cadence (l : List (Etape col cfg)) : Prop :=
  ∀ l₁ c l₂ c' l₃ m m' compte, l = l₁ ++ c :: (l₂ ++ c' :: l₃) → EntreDeuxCycles l₂ →
    Attendu c c' m m' compte → m + cfg.parametres.intervalle ≤ m'

/-- The cycles start each in its own period, with any delay. -/
def Ticks (intervalle : Duration) (instants : List DateTime) : Prop :=
  ∀ (k : ℕ) (m : DateTime), instants[k]? = some m →
    (k : ℤ) * intervalle ≤ m ∧ m < ((k : ℤ) + 1) * intervalle

end Definitions

/-! ## The slot a cycle leaves -/

section Cycle

variable {col : Collation} {crypto : CryptoService} {parametres : ParametresSynchro}

/-- If the request reserves a slot, it is with the plan of the instant. -/
def Op.ReserveA (parametres : ParametresSynchro) (maintenant : DateTime) (o : Op) : Prop :=
  ∀ compte plan quota, o = .sql (.compte (.reserverCreneau compte plan quota)) →
    plan = Synchro.planApresSynchro parametres maintenant

/-- A cycle reads the clock first, then reserves with the plan of that instant. -/
theorem executer_reserveA {s s' : Store} {t : List (Evenement col)}
    {r : Except SynchroError RapportSynchro}
    (h : Runs (machine col) (Synchro.executer crypto parametres).run s t r s') :
    ∃ maintenant t', t = ⟨s, .maintenant, maintenant⟩ :: t' ∧
      ∀ e ∈ t', e.op.ReserveA parametres maintenant := by
  obtain ⟨maintenant, t', rfl, hrest⟩ := runs_op.1 h
  have hinterne : ∀ o : Op, o.Interne → o.ReserveA parametres maintenant := by
    rintro o ho compte plan quota rfl
    exact absurd ho.lecture (by simp [Op.ecrit])
  refine ⟨maintenant, t', rfl, hrest.uses ?_⟩
  refine Uses.run_bind (Uses.run_mapError (uses_listerComptesEcheants hinterne)) fun echeants => ?_
  refine Uses.run_foldlM (fun _ echeant _ => uses_synchroniserCompte hinterne ?_ ?_ ?_ ?_ ?_) _
  · rintro r - hr compte plan quota hop
    cases hop
    exact absurd hr (by simp)
  · rintro compte plan quota hop
    cases hop
    rfl
  · exact fun ev compte plan quota hop => nomatch hop
  · exact fun compte plan quota hop => nomatch hop
  · exact fun compte plan quota hop => nomatch hop

/-- The next slot of the account. -/
def Store.Prochain (compte : BankAccountId) (t : DateTime) (s : Store) : Prop :=
  ∃ a ∈ s.bankAccount, a.id = compte ∧ a.nextSyncAt = some t

/-- A request keeps the next slot of an account, unless it erases it or reserves it with
another plan. -/
theorem Store.Prochain.after {e : Evenement col} {compte : BankAccountId} {t : DateTime}
    (h : e.before.Prochain compte t)
    (hp : ∀ id f, e.op ≠ .sql (.compte (.poserEmpreinte id f)))
    (hcompte : ∀ owner, e.op ≠ .sql (.compte (.supprimerParProprietaire owner)))
    (hconsent : ∀ owner, e.op ≠ .sql (.consent (.supprimerParProprietaire owner)))
    (hplan : ∀ plan quota, e.op = .sql (.compte (.reserverCreneau compte plan quota)) →
      plan.nextSyncAt = t) : e.after.Prochain compte t := by
  obtain ⟨a₀, ha₀, rfl, hnext⟩ := h
  obtain ⟨a, ha, hid, hmeme | ⟨plan, quota, hentry, hreserve⟩⟩ :=
    planning_reste hp ha₀ hcompte hconsent
  · exact ⟨a, ha, hid, hmeme.nextSyncAt.trans hnext⟩
  · have hop := (effet_of_entry hentry).1
    exact ⟨a, ha, hid, hreserve.nextSyncAt.trans (congrArg some (hplan plan quota hop))⟩

end Cycle

section Runs

variable {col : Collation} {cfg : Configuration} {s s' : Store} {l : List (Etape col cfg)}

/-- Only a cycle reserves slots. -/
private theorem synchroniser_of_reserve {c : Etape col cfg} (hc : c.Valid) {e : Evenement col}
    (he : e ∈ c.trace) {compte : BankAccountId} {plan : PlanificationSynchro} {quota : ℤ}
    (hop : e.op = .sql (.compte (.reserverCreneau compte plan quota))) :
    c.call = .synchroniser := by
  have hemet := Etape.emet hc he hop (by simp)
  generalize c.call = o at hemet
  cases hemet with
  | cycle => rfl

/-- A step that reserves at an instant is a cycle, all of whose reservations are at this
instant. -/
private theorem reserveA_of_instant {c : Etape col cfg} (hc : c.Valid) {m : DateTime}
    (hinstant : instantDuCycle c = some m) :
    c.call = .synchroniser ∧ ∀ e ∈ c.trace, e.op.ReserveA cfg.parametres m := by
  obtain ⟨call, before, trace, answer, after⟩ := c
  cases call with
  | synchroniser =>
      have hrun : Runs (machine col) (Synchro.executer cfg.crypto cfg.parametres).run before trace
          answer after := hc
      obtain ⟨maintenant, t', rfl, hall⟩ := executer_reserveA hrun
      obtain rfl : maintenant = m := Option.some.inj hinstant
      refine ⟨rfl, fun e he => ?_⟩
      rcases List.mem_cons.1 he with rfl | he
      · exact fun compte plan quota hop => nomatch hop
      · exact hall e he
  | _ => cases hinstant

/-- When the next cycle starts, the slot of an account is the one that the last cycle gave
it. -/
private theorem prochain_of_reserve {l₁ l₂ l₃ : List (Etape col cfg)} {c c' : Etape col cfg}
    (h : Execution col cfg s (l₁ ++ c :: (l₂ ++ c' :: l₃)) s') (hentre : EntreDeuxCycles l₂)
    {m : DateTime} (hinstant : instantDuCycle c = some m) {compte : BankAccountId}
    (hreserve : ∃ e ∈ c.trace, CreneauPris compte (Event.entry e)) :
    c'.before.Prochain compte (m + cfg.parametres.intervalle) := by
  have hvalid := h.valid
  -- the plans of the cycle are those of its instant
  obtain ⟨hcycle, hplans⟩ := reserveA_of_instant (hvalid c (by simp)) hinstant
  have hreste : ∀ d ∈ l₁ ++ c :: (l₂ ++ c' :: l₃),
      (∀ owner, d.call ≠ .effacerDonneesProprietaire owner) → ∀ f ∈ d.trace,
        f.before.Prochain compte (m + cfg.parametres.intervalle) →
          (∀ plan quota, f.op = .sql (.compte (.reserverCreneau compte plan quota)) →
            plan.nextSyncAt = m + cfg.parametres.intervalle) →
            (Event.after f).Prochain compte (m + cfg.parametres.intervalle) := by
    intro d hd hcall f hf hbefore hplan
    have hd := hvalid d hd
    refine hbefore.after ?_ (fun owner => (Etape.sans_suppression hd hcall hf owner).1)
      (fun owner => (Etape.sans_suppression hd hcall hf owner).2) hplan
    exact fun id g hop => (Etape.emet hd hf hop (by simp)).sans_poser id g rfl
  have hapres : c.after.Prochain compte (m + cfg.parametres.intervalle) := by
    obtain ⟨e, he, hpris⟩ := hreserve
    obtain ⟨plan, hpris⟩ := creneauPris_iff.1 hpris
    obtain ⟨quota, hentry⟩ := creneau_eq_some.1 hpris
    obtain ⟨a₀, -, hid, a, ha, hreserve⟩ := reserve_of_creneau hentry
    have hplan := hplans e he compte plan quota (effet_of_entry hentry).1
    obtain ⟨t₁, t₂, htrace⟩ := List.append_of_mem he
    have hrun : Runs (machine col) ((service cfg).program c.call) c.before (t₁ ++ e :: t₂) c.answer
        c.after := htrace ▸ hvalid c (by simp)
    refine hrun.preserves_from (I := Store.Prochain compte _) ?_ fun f hf hbefore => ?_
    · refine ⟨a, ha, hreserve.id.trans hid, hreserve.nextSyncAt.trans ?_⟩
      rw [hplan]
      rfl
    · have hf : f ∈ c.trace := by simp [htrace, hf]
      refine (hreste c (by simp) (by simp [hcycle]) f hf hbefore) fun plan quota hop => ?_
      rw [hplans f hf compte plan quota hop]
      rfl
  obtain ⟨s₁, -, hnext⟩ := Effects.Execution.append_iff.1 h
  cases hnext with
  | cons _ run rest =>
      obtain ⟨s₂, hbetween, hlast⟩ := Effects.Execution.append_iff.1 rest
      have hsame : c'.before = s₂ := by
        cases hlast
        rfl
      rw [hsame]
      refine (hbetween.preserves_events (I := Store.Prochain compte _) hapres ?_).1
      intro d hd f hf hbefore
      refine hreste d (by simp [hd]) (hentre d hd).2 f hf hbefore fun plan quota hop => ?_
      exact absurd (synchroniser_of_reserve (hvalid d (by simp [hd])) hf hop) (hentre d hd).1

/-- An account that may be synchronised is listed exactly when its slot is due. -/
private theorem selectionne_iff {quota : ℤ} {maintenant t : DateTime} {compte : BankAccountId}
    (hprochain : s.Prochain compte t) (hutilisable : s.Utilisable quota maintenant compte) :
    s.Selectionne quota maintenant compte ↔ t ≤ maintenant := by
  obtain ⟨a, ha, hid, hnext⟩ := hprochain
  constructor
  · rintro ⟨row, ⟨hrow, -, -, hdue⟩, hid'⟩
    obtain rfl := Relational.Table.eq_of_key_eq ha hrow (hid.trans hid'.symm)
    simp only [RequeteCompte.estEcheant, hnext, Bool.and_eq_true, decide_eq_true_eq] at hdue
    exact hdue.1.1.1
  · intro hle
    obtain ⟨a', ha', hid', ⟨c, hc, hconsent, hactive, hfin⟩, hquota⟩ := hutilisable
    obtain rfl := Relational.Table.eq_of_key_eq ha ha' (hid.trans hid'.symm)
    refine ⟨⟨a, c⟩, ⟨ha, hc, hconsent, ?_⟩, hid⟩
    simp only [RequeteCompte.estEcheant, hnext, Bool.and_eq_true, decide_eq_true_eq]
    refine ⟨⟨⟨hle, hactive⟩, ?_⟩, hquota⟩
    cases hexpires : c.expiresAt with
    | none => rfl
    | some fin => exact decide_eq_true (hfin fin hexpires)

/-- No tick is missed exactly when, wherever an account reserved by a cycle may be
synchronised at the next one, this one starts a whole interval later. -/
theorem sansTickManque_iff (h : Execution col cfg s l s') : SansTickManque l ↔ Cadence l := by
  have hiff : ∀ l₁ c l₂ c' l₃ m m' compte, l = l₁ ++ c :: (l₂ ++ c' :: l₃) → EntreDeuxCycles l₂ →
      Attendu c c' m m' compte →
        (c'.before.Selectionne cfg.parametres.quotaJournalier m' compte ↔
          m + cfg.parametres.intervalle ≤ m') := by
    intro l₁ c l₂ c' l₃ m m' compte hl hentre hattendu
    rw [hl] at h
    have hprochain := prochain_of_reserve h hentre hattendu.instant hattendu.reserve
    exact selectionne_iff hprochain hattendu.utilisable
  constructor
  · intro hsans l₁ c l₂ c' l₃ m m' compte hl hentre hattendu
    exact (hiff l₁ c l₂ c' l₃ m m' compte hl hentre hattendu).1
      (hsans l₁ c l₂ c' l₃ m m' compte hl hentre hattendu)
  · intro hcadence l₁ c l₂ c' l₃ m m' compte hl hentre hattendu
    exact (hiff l₁ c l₂ c' l₃ m m' compte hl hentre hattendu).2
      (hcadence l₁ c l₂ c' l₃ m m' compte hl hentre hattendu)

/-- A worker each of whose cycles starts an interval after the ones before misses none. -/
theorem cadence_of_pairwise (hl : (l.filterMap instantDuCycle).Pairwise fun m m' =>
    m + cfg.parametres.intervalle ≤ m') : Cadence l := by
  rintro l₁ c l₂ c' l₃ m m' compte rfl - hattendu
  have hsub : [c, c'].Sublist (l₁ ++ c :: (l₂ ++ c' :: l₃)) := by
    refine List.sublist_append_of_sublist_right (List.Sublist.cons_cons c ?_)
    exact List.sublist_append_of_sublist_right (List.Sublist.cons_cons c' (List.nil_sublist l₃))
  have hinstants : [c, c'].filterMap instantDuCycle = [m, m'] := by
    simp [hattendu.instant, hattendu.instant']
  have hpair := hl.sublist (hsub.filterMap instantDuCycle)
  rw [hinstants] at hpair
  exact List.rel_of_pairwise_cons hpair (List.mem_singleton_self m')

end Runs

/-! ## A first cycle that starts late -/

/-- A worker whose first cycle starts one hour late, and the second one in time. -/
def premierCycleEnRetard : Scenario :=
  { Scenario.unCompte with
    horloge := fun n => if n < 22 then Duration.hours 1 else Duration.hours 6 }

/-- A list of four elements. -/
private theorem exists_of_length_four {α : Type} {l : List α} (h : l.length = 4) :
    ∃ a b c d, l = [a, b, c, d] := by
  match l, h with
  | [a, b, c, d], _ => exact ⟨a, b, c, d, rfl⟩

/-- The second cycle finds nothing due. -/
theorem not_sansTickManque_premierCycleEnRetard :
    Execution Scenario.collation Scenario.configuration amorcee
        (premierCycleEnRetard.etapes deuxCycles) (premierCycleEnRetard.fin deuxCycles) ∧
      Ticks Scenario.configuration.parametres.intervalle
          ((premierCycleEnRetard.etapes deuxCycles).filterMap instantDuCycle) ∧
        ¬ SansTickManque (premierCycleEnRetard.etapes deuxCycles) := by
  have hinstants : (premierCycleEnRetard.etapes deuxCycles).filterMap instantDuCycle =
      [Duration.hours 1, Duration.hours 6] := by
    decide +kernel
  have hpremier : ∀ c ∈ (premierCycleEnRetard.etapes deuxCycles)[2]?,
      instantDuCycle c = some (Duration.hours 1) ∧
        ∃ e ∈ c.trace, (creneau (Event.entry e)).any fun prise => prise.1 = compteSynchronise := by
    decide +kernel
  have hsecond : ∀ c ∈ (premierCycleEnRetard.etapes deuxCycles)[3]?,
      instantDuCycle c = some (Duration.hours 6) ∧
        ∃ a ∈ c.before.bankAccount.rows, a.id = compteSynchronise ∧
          a.nextSyncAt = some (Duration.hours 7) ∧
            (∃ k ∈ c.before.consent.rows, k.id = a.consentId ∧ k.status = .active ∧
              k.expiresAt = none) ∧
              RequeteCompte.compteurDuJour a (DateTime.dateNaive (Duration.hours 6)) < 4 := by
    decide +kernel
  have hlength : (premierCycleEnRetard.etapes deuxCycles).length = 4 := by
    rw [← List.length_map, premierCycleEnRetard.calls_etapes]
    rfl
  refine ⟨premierCycleEnRetard.execution _, ?_, fun hsans => ?_⟩
  · rw [hinstants]
    intro k m hk
    match k with
    | 0 | 1 =>
        obtain rfl := Option.some.inj hk
        exact ⟨by decide, by decide⟩
    | k + 2 => cases hk
  · obtain ⟨c₀, c₁, c, c', hl⟩ := exists_of_length_four hlength
    rw [hl] at hpremier hsecond hsans
    obtain ⟨hinstant, e, he, hpris⟩ := hpremier c rfl
    obtain ⟨hinstant', a, ha, hid, hnext, ⟨k, hk, hconsent, hactive, hfin⟩, hquota⟩ :=
      hsecond c' rfl
    have hutilisable : c'.before.Utilisable 4 (Duration.hours 6) compteSynchronise :=
      ⟨a, ha, hid, ⟨k, hk, hconsent, hactive, fun fin hsome => nomatch hfin.symm.trans hsome⟩,
        hquota⟩
    have hattendu : Attendu c c' (Duration.hours 1) (Duration.hours 6) compteSynchronise :=
      ⟨hinstant, ⟨e, he, creneauPris_iff_any.2 hpris⟩, hinstant', hutilisable⟩
    have hlist : [c₀, c₁, c, c'] = [c₀, c₁] ++ c :: ([] ++ c' :: []) := rfl
    have hselectionne := hsans _ c _ c' _ _ _ _ hlist (fun d hd => absurd hd List.not_mem_nil)
      hattendu
    have hle := (selectionne_iff ⟨a, ha, hid, hnext⟩ hutilisable).1 hselectionne
    exact absurd hle (by decide)

/-- A worker whose two cycles start one hour late. -/
def deuxCyclesEnRetard : Scenario :=
  { Scenario.unCompte with
    horloge := fun n => if n < 22 then Duration.hours 1 else Duration.hours 7 }

/-- The account is reserved twice. -/
theorem sansTickManque_deuxCyclesEnRetard :
    ((deuxCyclesEnRetard.etapes deuxCycles).filter fun c => c.trace.any fun e =>
        (creneau (Event.entry e)).any fun prise => prise.1 = compteSynchronise).length = 2 ∧
      SansTickManque (deuxCyclesEnRetard.etapes deuxCycles) := by
  refine ⟨by decide +kernel, ?_⟩
  refine (sansTickManque_iff (deuxCyclesEnRetard.execution deuxCycles)).2 ?_
  exact cadence_of_pairwise (by decide +kernel)

end Budgy
