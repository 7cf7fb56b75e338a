import Budgy.Interface.Traversal
import Budgy.Analysis.Concurrency
import Budgy.Analysis.WorkerCycle

/-!
# The reservations of slots

Between two cycles the planning of an account is three columns: the next slot, the day
of the last synchronisation and the counter of that day.  Only a reservation writes
them (`planning_after`), and a cycle reserves with the instant it read first, for an
account it was shown (`guarded_reservations`).
-/

set_option autoImplicit false

namespace Budgy

open Effects Prog Relational

/-! ## What a reservation writes -/

/-- The slot that a request takes: the account and the plan of its next synchronisation. -/
def creneau : Entry signature → Option (BankAccountId × PlanificationSynchro)
  | ⟨.sql (.compte (.reserverCreneau compte plan _)), .ok 1⟩ => some (compte, plan)
  | _ => none

/-- The slot an entry has taken, read back as the statement and its answer. -/
theorem creneau_eq_some {x : Entry signature} {compte : BankAccountId}
    {plan : PlanificationSynchro} :
    creneau x = some (compte, plan) ↔
      ∃ quota, x = ⟨.sql (.compte (.reserverCreneau compte plan quota)), .ok 1⟩ := by
  constructor
  · intro h
    unfold creneau at h
    split at h
    · obtain ⟨rfl, rfl⟩ := Prod.mk.inj (Option.some.inj h)
      exact ⟨_, rfl⟩
    · cases h
  · rintro ⟨quota, rfl⟩
    rfl

/-- A slot is taken when the entry has one for the account. -/
theorem creneauPris_iff {x : Entry signature} {compte : BankAccountId} :
    CreneauPris compte x ↔ ∃ plan, creneau x = some (compte, plan) := by
  constructor
  · intro h
    unfold CreneauPris at h
    split at h
    · obtain ⟨rfl, rfl⟩ := h
      exact ⟨_, rfl⟩
    · exact h.elim
  · rintro ⟨plan, h⟩
    obtain ⟨quota, rfl⟩ := creneau_eq_some.1 h
    exact ⟨rfl, rfl⟩

/-- The same, as a test. -/
theorem creneauPris_iff_any {x : Entry signature} {compte : BankAccountId} :
    CreneauPris compte x ↔ (creneau x).any (fun prise => prise.1 = compte) = true := by
  rw [creneauPris_iff]
  cases creneau x with
  | none => simp
  | some prise =>
      simp only [Option.any_some, decide_eq_true_eq, Option.some.injEq]
      exact ⟨fun ⟨_, h⟩ => congrArg Prod.fst h, fun h => ⟨prise.2, Prod.ext h rfl⟩⟩

/-- The columns of the planning are left as they are. -/
structure BankAccountRow.MemePlan (a a₀ : BankAccountRow) : Prop where
  id : a.id = a₀.id
  nextSyncAt : a.nextSyncAt = a₀.nextSyncAt
  syncCountToday : a.syncCountToday = a₀.syncCountToday
  lastSyncDay : a.lastSyncDay = a₀.lastSyncDay

/-- A row has its own planning. -/
theorem BankAccountRow.MemePlan.rfl {a : BankAccountRow} : a.MemePlan a :=
  ⟨Eq.refl _, Eq.refl _, Eq.refl _, Eq.refl _⟩

/-- The row of an account before its slot is taken, and after. -/
structure BankAccountRow.Reserve (a₀ : BankAccountRow) (plan : PlanificationSynchro) (quota : ℤ)
    (a : BankAccountRow) : Prop where
  id : a.id = a₀.id
  libre : RequeteCompte.compteurDuJour a₀ plan.lastSyncDay < quota
  nextSyncAt : a.nextSyncAt = some plan.nextSyncAt
  syncCountToday : a.syncCountToday = RequeteCompte.compteurDuJour a₀ plan.lastSyncDay + 1
  lastSyncDay : a.lastSyncDay = some plan.lastSyncDay

section Effects

variable {col : Collation} {e : Evenement col}

/-- Where the planning of an account comes from: it is unchanged, its slot was just taken,
or the account was just inserted. -/
theorem planning_after {a : BankAccountRow} (ha : a ∈ e.after.bankAccount) :
    (∃ a₀ ∈ e.before.bankAccount, a.MemePlan a₀) ∨
      (∃ plan quota, Event.entry e = ⟨.sql (.compte (.reserverCreneau a.id plan quota)), .ok 1⟩ ∧
        ∃ a₀ ∈ e.before.bankAccount, a₀.Reserve plan quota a) ∨
      ∃ l x, a = RequeteCompte.ligneCompte x l ∧ ∀ a₀ ∈ e.before.bankAccount, a₀.id ≠ a.id := by
  rcases entry_cases e with hsame | ⟨r, x, v, hentry, heffet⟩
  · exact .inl ⟨a, hsame ▸ ha, .rfl⟩
  by_cases hw : NomTable.bankAccount ∈ r.ecrit
  swap
  · have hsame : e.after.bankAccount = e.before.bankAccount := pareil_effet heffet hw
    exact .inl ⟨a, hsame ▸ ha, .rfl⟩
  generalize e.after = s' at ha heffet
  rcases r with r | r | r | r <;> cases r <;> try simp at hw
  case consent.supprimerParProprietaire =>
    obtain ⟨-, rfl⟩ := by simpa [Requete.effet, RequeteConsent.effet] using heffet
    exact .inl ⟨a, (Table.mem_delete.1 ha).1, .rfl⟩
  case compte.insert l =>
    simp only [Requete.effet, RequeteCompte.effet] at heffet
    split at heffet
    · obtain ⟨-, rfl⟩ := lire_eq_ok.1 heffet
      exact .inl ⟨a, ha, .rfl⟩
    · obtain ⟨-, t, ht, -, rfl⟩ := by simpa using heffet
      rcases (Table.mem_of_insert ht).1 ha with ha | rfl
      · exact .inl ⟨a, ha, .rfl⟩
      · exact .inr (.inr ⟨l, x, rfl, (Table.insert_eq_some.1 ht).1⟩)
  case compte.poserEmpreinte =>
    obtain ⟨-, rfl⟩ := by simpa [Requete.effet, RequeteCompte.effet] using heffet
    obtain ⟨a₀, ha₀, rfl⟩ := Store.mem_majCompte.1 ha
    refine .inl ⟨a₀, ha₀, ?_⟩
    split <;> exact ⟨rfl, rfl, rfl, rfl⟩
  case compte.supprimerParProprietaire =>
    obtain ⟨-, rfl⟩ := by simpa [Requete.effet, RequeteCompte.effet] using heffet
    exact .inl ⟨a, (Table.mem_delete.1 ha).1, .rfl⟩
  case compte.reserverCreneau compte plan quota =>
    obtain ⟨hv, rfl⟩ := by simpa [Requete.effet, RequeteCompte.effet] using heffet
    obtain ⟨a₀, ha₀, hmaj⟩ := Store.mem_majCompte.1 ha
    split at hmaj
    · rename_i hvise
      subst hmaj
      obtain ⟨rfl, hlibre⟩ := by simpa using hvise
      have hone : v = 1 := by
        rw [← hv]
        refine Table.count_eq_one ha₀ (by simpa using hlibre) ?_
        simp +contextual
      exact .inr (.inl ⟨plan, quota, hone ▸ hentry, a₀, ha₀, rfl, hlibre, rfl, rfl, rfl⟩)
    · exact .inl ⟨a₀, ha₀, hmaj ▸ .rfl⟩

/-- A slot that is taken was free, and is written. -/
theorem reserve_of_creneau {compte : BankAccountId} {plan : PlanificationSynchro} {quota : ℤ}
    (h : Event.entry e = ⟨.sql (.compte (.reserverCreneau compte plan quota)), .ok 1⟩) :
    ∃ a₀ ∈ e.before.bankAccount, a₀.id = compte ∧
      ∃ a ∈ e.after.bankAccount, a₀.Reserve plan quota a := by
  obtain ⟨-, x, heffet⟩ := effet_of_entry h
  generalize e.after = s' at heffet
  obtain ⟨hv, rfl⟩ := by simpa [Requete.effet, RequeteCompte.effet] using heffet
  obtain ⟨a₀, ha₀, hvise⟩ := Table.count_pos.1 (hv ▸ Nat.one_pos)
  obtain ⟨rfl, hlibre⟩ := by simpa using hvise
  refine ⟨a₀, ha₀, rfl, _, Store.mem_majCompte.2 ⟨a₀, ha₀, (if_pos hvise).symm⟩, ?_⟩
  exact ⟨rfl, hlibre, rfl, rfl, rfl⟩

/-- An account that is not deleted keeps its planning, or its slot is taken. -/
theorem planning_reste (hp : ∀ id f, e.op ≠ .sql (.compte (.poserEmpreinte id f)))
    {a₀ : BankAccountRow} (ha₀ : a₀ ∈ e.before.bankAccount)
    (hcompte : ∀ owner, e.op ≠ .sql (.compte (.supprimerParProprietaire owner)))
    (hconsent : ∀ owner, e.op ≠ .sql (.consent (.supprimerParProprietaire owner))) :
    ∃ a ∈ e.after.bankAccount, a.id = a₀.id ∧
      (a.MemePlan a₀ ∨ ∃ plan quota,
        Event.entry e = ⟨.sql (.compte (.reserverCreneau a₀.id plan quota)), .ok 1⟩ ∧
          a₀.Reserve plan quota a) := by
  obtain ⟨a, ha, hmeme⟩ := compte_reste hp ha₀ (hcompte _) fun c _ _ => hconsent _
  refine ⟨a, ha, hmeme.id, ?_⟩
  -- the row was there, under the same key
  have hsame : ∀ a₁ ∈ e.before.bankAccount, a.id = a₁.id → a₁ = a₀ := by
    intro a₁ ha₁ hid
    exact Table.eq_of_key_eq ha₁ ha₀ (hid.symm.trans hmeme.id)
  rcases planning_after ha with ⟨a₁, ha₁, hplan⟩ | ⟨plan, quota, hentry, a₁, ha₁, hreserve⟩ |
    ⟨l, x, -, hlibre⟩
  · exact .inl (hsame a₁ ha₁ hplan.id ▸ hplan)
  · obtain rfl := hsame a₁ ha₁ hreserve.id
    exact .inr ⟨plan, quota, hreserve.id ▸ hentry, hreserve⟩
  · exact absurd hmeme.id.symm (hlibre a₀ ha₀)

end Effects

/-! ## What a cycle reserves -/

/-- The list of the accounts due at an instant shows the account. -/
def MontreCompte (parametres : ParametresSynchro) (maintenant : DateTime) (compte : BankAccountId)
    (x : Entry signature) : Prop :=
  ∃ rows : List CompteEcheantRow, x = ⟨.sql (listeEcheants parametres maintenant), .ok rows⟩ ∧
    ∃ row ∈ rows, row.compte.id = compte

/-- What is shown is due. -/
theorem echeant_of_montre {col : Collation} {parametres : ParametresSynchro}
    {maintenant : DateTime} {compte : BankAccountId} {v : Evenement col}
    (h : MontreCompte parametres maintenant compte (Event.entry v)) :
    v.after = v.before ∧ ∃ row, v.before.Echeant parametres.quotaJournalier maintenant row ∧
      row.compte.id = compte := by
  obtain ⟨rows, hentry, row, hrow, hid⟩ := h
  obtain ⟨s, o, x⟩ := v
  obtain ⟨rfl, hreply⟩ := Sigma.mk.inj_iff.1 hentry
  have hliste : ((listeEcheants parametres maintenant).executer col x s).1 = .ok rows :=
    eq_of_heq hreply
  exact ⟨after_lecture rfl, row, (mem_listeEcheants hliste).1 hrow, hid⟩

section Journal

variable {crypto : CryptoService} {parametres : ParametresSynchro}

/-- A slot is asked for with the instant read first, for an account shown as due at that
instant. -/
def ReserveMontre (parametres : ParametresSynchro) (e : Event (journal signature)) : Prop :=
  ∀ compte plan quota, e.op = .sql (.compte (.reserverCreneau compte plan quota)) →
    ∃ maintenant, e.before.head? = some ⟨.maintenant, maintenant⟩ ∧
      plan = Synchro.planApresSynchro parametres maintenant ∧
        quota = parametres.quotaJournalier ∧
          ∃ x ∈ e.before, MontreCompte parametres maintenant compte x

/-- A request of another kind meets the guard. -/
private theorem reserveMontre_of_ne {h : List (Entry signature)} {o : Op} {r : signature.Reply o}
    (ho : ∀ compte plan quota, o ≠ .sql (.compte (.reserverCreneau compte plan quota))) :
    ReserveMontre parametres ⟨h, o, r⟩ :=
  fun _ _ _ hop => absurd hop (ho _ _ _)

/-- The due accounts listed in a cycle are those of the statement it sends at its instant. -/
private theorem guarded_listerEcheants {maintenant : DateTime} :
    Guarded (journal signature) (ReserveMontre parametres)
      (BankAccountsAdapter.listerComptesEcheants crypto maintenant parametres.quotaJournalier).run
      [⟨.maintenant, maintenant⟩] (OnOk fun echeants h => h.head? = some ⟨.maintenant, maintenant⟩ ∧
        ∀ echeant ∈ echeants,
          ∃ x ∈ h, MontreCompte parametres maintenant echeant.compte.id x) := by
  refine Guarded.ok_mapError (Guarded.ok_bind
    (R := fun rows h => h = [⟨.maintenant, maintenant⟩,
      ⟨.sql (listeEcheants parametres maintenant), .ok rows⟩])
    (Guarded.ok_mapError (guarded_perform.2 ?_)) ?_)
  · rintro (e | rows)
    · exact ⟨reserveMontre_of_ne (by simp), trivial⟩
    · exact ⟨reserveMontre_of_ne (by simp), rfl⟩
  · rintro rows h' rfl
    refine guarded_pure.2 ?_
    cases hechus : rows.mapM (BankAccounts.intoCompteEcheant crypto) with
    | error e => trivial
    | ok echeants =>
        refine ⟨rfl, fun echeant hmem => ?_⟩
        obtain ⟨row, hrow, hinto⟩ := Traversal.exists_of_mem hechus hmem
        obtain ⟨hid, -⟩ := intoCompteEcheant_eq_ok hinto
        exact ⟨_, List.mem_cons_of_mem _ (List.mem_singleton_self _), rows, rfl, row, hrow,
          hid.symm⟩

/-- A cycle reserves only slots of accounts it was shown, at its instant. -/
theorem guarded_reservations :
    Guarded (journal signature) (ReserveMontre parametres)
      (Synchro.executer crypto parametres).run [] fun _ _ => True := by
  refine Guarded.run_bind (R := OnOk fun maintenant h => h = [⟨.maintenant, maintenant⟩])
    (Guarded.run_ofProg (guarded_perform.2 ?_)) ?_ fun _ _ _ => trivial
  · exact fun maintenant => ⟨reserveMontre_of_ne (by simp), rfl⟩
  rintro maintenant _ ⟨⟩
  refine Guarded.run_bind (Guarded.ok_mapError guarded_listerEcheants) ?_ fun _ _ _ => trivial
  rintro echeants h ⟨hhead, hmontre⟩
  refine (Guarded.of_uses
    (P := fun o : Op => ∀ compte plan quota,
      o = .sql (.compte (.reserverCreneau compte plan quota)) →
        plan = Synchro.planApresSynchro parametres maintenant ∧
          quota = parametres.quotaJournalier ∧ ∃ echeant ∈ echeants, echeant.compte.id = compte)
    (I := fun h => h.head? = some ⟨.maintenant, maintenant⟩ ∧ ∀ echeant ∈ echeants,
      ∃ x ∈ h, MontreCompte parametres maintenant echeant.compte.id x) ?_
    ⟨hhead, hmontre⟩ ?_).mono fun _ _ _ => trivial
  · refine Uses.run_foldlM (fun _ echeant hmem => uses_synchroniserCompte ?_ ?_ ?_ ?_ ?_ ?_) _
    · rintro o ho compte plan quota rfl
      exact absurd ho.lecture (by simp [Op.ecrit])
    · rintro r - hr compte plan quota hop
      cases hop
      exact absurd hr (by simp)
    · rintro compte plan quota hop
      cases hop
      exact ⟨rfl, rfl, echeant, hmem, rfl⟩
    · exact fun ev compte plan quota hop => nomatch hop
    · exact fun compte plan quota hop => nomatch hop
    · exact fun compte plan quota hop => nomatch hop
  · rintro ⟨h, o, r⟩ ho ⟨hhead, hmontre⟩
    refine ⟨fun compte plan quota hop => ?_, ?_, fun echeant hmem => ?_⟩
    · obtain ⟨hplan, hquota, echeant, hmem, rfl⟩ := ho compte plan quota hop
      exact ⟨maintenant, hhead, hplan, hquota, hmontre echeant hmem⟩
    · obtain ⟨y, ys, rfl⟩ : ∃ y ys, h = y :: ys := by
        cases h with
        | nil => cases hhead
        | cons y ys => exact ⟨y, ys, rfl⟩
      exact hhead
    · obtain ⟨x, hx, hshown⟩ := hmontre echeant hmem
      exact ⟨x, List.mem_append_left _ hx, hshown⟩

end Journal

section Pool

variable {ι : Type} [DecidableEq ι] {col : Collation} {cfg : Configuration}
  {demandes : ι → Operation} {s s' : Store} {l l₁ l₂ : List (ι × Evenement col)}
  {pool' : ι → Programme Issue}

/-- In an interleaving, a slot is asked for by a cycle, with the instant that it read first,
for an account that it was shown as due at that instant. -/
theorem Entrelacement.reservation (h : Entrelacement col cfg demandes s l pool' s') {i : ι}
    {e : Evenement col} (hl : l = l₁ ++ (i, e) :: l₂) {compte : BankAccountId}
    {plan : PlanificationSynchro} {quota : ℤ}
    (hop : e.op = .sql (.compte (.reserverCreneau compte plan quota))) :
    demandes i = .synchroniser ∧ quota = cfg.parametres.quotaJournalier ∧
      ∃ maintenant, plan = Synchro.planApresSynchro cfg.parametres maintenant ∧
        (history i l₁).head? = some ⟨.maintenant, maintenant⟩ ∧
          ∃ v, (i, v) ∈ l₁ ∧ MontreCompte cfg.parametres maintenant compte (Event.entry v) := by
  have hcycle : demandes i = .synchroniser := by
    have hemet := h.emet (i := i) (by simp [hl]) hop (by simp)
    generalize demandes i = o at hemet
    cases hemet with
    | cycle => rfl
  have hguard : Guarded (journal signature) (ReserveMontre cfg.parametres)
      ((demandes i).tache cfg) [] fun _ _ => True :=
    hcycle ▸ guarded_tache guarded_reservations
  obtain ⟨maintenant, hhead, hplan, hquota, x, hx, hmontre⟩ :=
    h.guarded_at hguard hl compte plan quota hop
  obtain ⟨v, hv, rfl⟩ := mem_history.1 hx
  exact ⟨hcycle, hquota, maintenant, hplan, hhead, v, hv, hmontre⟩

end Pool

end Budgy
