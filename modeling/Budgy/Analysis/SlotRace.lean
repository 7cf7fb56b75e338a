import Budgy.Analysis.Reservations

/-!
# Two cycles and one slot

A cycle lists the due accounts in one statement and reserves each of them in another,
whose guard only looks at the quota.  Two cycles that list an account before either
reserves it both take its slot.  `creneauxDistincts_of_sansDepassement` says that this is the
only way: a reservation that no other one separates from the listing of its own cycle
takes a slot that nobody took.
-/

set_option autoImplicit false

namespace Budgy

open Effects

/-- A slot that was taken: the instant of the cycle and the slot it found. -/
structure Prise where
  instant : DateTime
  slot : Option DateTime

/-- What the request takes, if it reserves the account. -/
def prise? {col : Collation} (compte : BankAccountId) (e : Evenement col) : Option Prise :=
  match creneau (Event.entry e) with
  | some (id, plan) =>
      if id = compte then
        some ⟨plan.lastSyncAt, (e.before.bankAccount.find? compte).bind BankAccountRow.nextSyncAt⟩
      else none
  | none => none

section

variable {ι : Type} {col : Collation} (parametres : ParametresSynchro) (compte : BankAccountId)
  (l : List (ι × Evenement col))

/-- The successful reservations of the account, in order. -/
def prises : List Prise := l.filterMap fun x => prise? compte x.2

/-- The slots of the account are taken once: two successful reservations are made at
instants at least the interval apart, and do not find the same slot. -/
structure CreneauxDistincts : Prop where
  ecart : (prises compte l).Pairwise fun p p' =>
    p.instant + parametres.intervalle ≤ p'.instant ∨ p'.instant + parametres.intervalle ≤ p.instant
  slot : (0 : ℤ) < parametres.intervalle →
    (prises compte l).Pairwise fun p p' => p.slot ≠ p'.slot

/-- Between the moment a cycle lists the account and the moment it reserves its slot, no
other reservation of the account succeeds. -/
def SansDepassement : Prop :=
  ∀ l₀ i v l₁ e l₂ maintenant, l = l₀ ++ (i, v) :: (l₁ ++ (i, e) :: l₂) →
    MontreCompte parametres maintenant compte (Event.entry v) →
      CreneauPris compte (Event.entry e) → ∀ x ∈ l₁, ¬ CreneauPris compte (Event.entry x.2)

end

/-- A taking of the account is a reservation at its instant, in the slot of its row. -/
theorem prise?_eq_some {col : Collation} {compte : BankAccountId} {e : Evenement col} {p : Prise}
    (h : prise? compte e = some p) :
    (∃ plan, creneau (Event.entry e) = some (compte, plan) ∧ p.instant = plan.lastSyncAt) ∧
      ∀ a ∈ e.before.bankAccount, a.id = compte → p.slot = a.nextSyncAt := by
  unfold prise? at h
  split at h
  · rename_i id plan hcreneau
    split at h
    · rename_i hid
      obtain rfl := Option.some.inj h
      refine ⟨⟨plan, hid ▸ hcreneau, rfl⟩, ?_⟩
      rintro a ha rfl
      show (e.before.bankAccount.find? a.id).bind BankAccountRow.nextSyncAt = a.nextSyncAt
      rw [Relational.Table.find?_key ha]
      rfl
    · cases h
  · cases h

/-- What relates two reservations, one after the other, relates all of them. -/
theorem pairwise_prises {ι : Type} {col : Collation} {compte : BankAccountId}
    {l : List (ι × Evenement col)} {R : Prise → Prise → Prop}
    (h : ∀ l₁ x l₂ y l₃ p p', l = l₁ ++ x :: (l₂ ++ y :: l₃) → prise? compte x.2 = some p →
      prise? compte y.2 = some p' → R p p') : (prises compte l).Pairwise R := by
  refine List.pairwise_filterMap.2 (List.pairwise_iff_forall_sublist.2 ?_)
  intro x y hsub p hp p' hp'
  obtain ⟨r₁, r₂, rfl, hx, htail⟩ := List.cons_sublist_iff.1 hsub
  obtain ⟨l₁, l₂, rfl⟩ := List.append_of_mem hx
  obtain ⟨l₃, l₄, rfl⟩ := List.append_of_mem (List.singleton_sublist.1 htail)
  exact h l₁ x (l₂ ++ l₃) y l₄ p p' (by simp) hp hp'

/-! ## What the reservations leave -/

/-- The account is due at the instant. -/
def Store.Du (compte : BankAccountId) (maintenant : DateTime) (s : Store) : Prop :=
  ∃ a ∈ s.bankAccount, a.id = compte ∧ ∀ n, a.nextSyncAt = some n → n ≤ maintenant

/-- The account is not due before the end of the interval that starts at the instant. -/
def Store.Repousse (parametres : ParametresSynchro) (compte : BankAccountId)
    (instant : DateTime) (s : Store) : Prop :=
  ∃ a ∈ s.bankAccount, a.id = compte ∧
    ∃ n, a.nextSyncAt = some n ∧ instant + parametres.intervalle ≤ n

/-- An account that is due and put off is due after the interval. -/
theorem Store.Repousse.le {parametres : ParametresSynchro} {compte : BankAccountId}
    {instant maintenant : DateTime} {s : Store} (h : s.Repousse parametres compte instant)
    (hdu : s.Du compte maintenant) : instant + parametres.intervalle ≤ maintenant := by
  obtain ⟨a, ha, hid, n, hn, hle⟩ := h
  obtain ⟨a', ha', hid', hdu⟩ := hdu
  obtain rfl := Relational.Table.eq_of_key_eq ha ha' (hid.trans hid'.symm)
  exact le_trans hle (hdu n hn)

section Pool

variable {ι : Type} [DecidableEq ι] {col : Collation} {cfg : Configuration}
  {demandes : ι → Operation} {s s' : Store} {l l₁ l₂ : List (ι × Evenement col)}
  {pool' : ι → Programme Issue} {compte : BankAccountId}

/-- A request of an interleaving without erasures keeps the planning of an account, or
takes its slot. -/
private theorem planning_pool (h : Entrelacement col cfg demandes s l pool' s')
    (hdemandes : ∀ i owner, demandes i ≠ .effacerDonneesProprietaire owner)
    {x : ι × Evenement col} (hx : x ∈ l) {a₀ : BankAccountRow}
    (ha₀ : a₀ ∈ x.2.before.bankAccount) :
    ∃ a ∈ (Event.after x.2).bankAccount, a.id = a₀.id ∧
      (a.MemePlan a₀ ∨ ∃ plan quota,
        Event.entry x.2 = ⟨.sql (.compte (.reserverCreneau a₀.id plan quota)), .ok 1⟩ ∧
          a₀.Reserve plan quota a) :=
  planning_reste (h.sans_poser hx) ha₀ (fun owner => (h.garde hdemandes hx owner).1)
    fun owner => (h.garde hdemandes hx owner).2

/-- A reservation takes a slot that is still due at its instant. -/
private theorem du_of_reservation (h : Entrelacement col cfg demandes s l pool' s')
    (hdemandes : ∀ i owner, demandes i ≠ .effacerDonneesProprietaire owner)
    (hcourse : SansDepassement cfg.parametres compte l) {x : ι × Evenement col}
    (hl : l = l₁ ++ x :: l₂) {plan : PlanificationSynchro}
    (hx : creneau (Event.entry x.2) = some (compte, plan)) :
    plan = Synchro.planApresSynchro cfg.parametres plan.lastSyncAt ∧
      x.2.before.Du compte plan.lastSyncAt := by
  obtain ⟨i, e⟩ := x
  obtain ⟨quota, hentry⟩ := creneau_eq_some.1 hx
  obtain ⟨-, -, maintenant, rfl, -, v, hv, hmontre⟩ :=
    h.reservation hl (effet_of_entry hentry).1
  refine ⟨rfl, ?_⟩
  obtain ⟨m₁, m₂, rfl⟩ := List.append_of_mem hv
  have hl' : l = m₁ ++ (i, v) :: (m₂ ++ (i, e) :: l₂) := by rw [hl, List.append_assoc]; rfl
  have hlibre := hcourse m₁ i v m₂ e l₂ maintenant hl' hmontre (creneauPris_iff.2 ⟨_, hx⟩)
  -- the account was due when the cycle was shown it
  have hdu : (Event.after v).Du compte maintenant := by
    obtain ⟨hafter, row, ⟨ha, -, -, hdue⟩, hid⟩ := echeant_of_montre hmontre
    rw [hafter]
    refine ⟨row.compte, ha, hid, fun n hn => ?_⟩
    simp only [RequeteCompte.estEcheant, hn, Bool.and_eq_true, decide_eq_true_eq] at hdue
    exact hdue.1.1.1
  rw [hl'] at h
  refine h.preserves_between (I := Store.Du compte maintenant) hdu fun z hz hbefore => ?_
  obtain ⟨a₀, ha₀, hid, hdue⟩ := hbefore
  obtain ⟨a, ha, hida, hplan | ⟨plan, quota, hpris, -⟩⟩ :=
    planning_pool h hdemandes (x := z) (by simp [hz]) ha₀
  · exact ⟨a, ha, hida.trans hid, fun n hn => hdue n (hplan.nextSyncAt ▸ hn)⟩
  · refine absurd (creneauPris_iff.2 ⟨plan, creneau_eq_some.2 ⟨quota, ?_⟩⟩) (hlibre z hz)
    exact hid ▸ hpris

/-- Every reservation made so far puts the account off. -/
def Store.Repousses (parametres : ParametresSynchro) (compte : BankAccountId)
    (past : List (ι × Evenement col)) (s : Store) : Prop :=
  ∀ z ∈ past, ∀ plan, creneau (Event.entry z.2) = some (compte, plan) →
    s.Repousse parametres compte plan.lastSyncAt

/-- Before each event of the interleaving, the account is pushed back past every slot taken so
far. -/
private theorem repousses_before (h : Entrelacement col cfg demandes s l pool' s')
    (hdemandes : ∀ i owner, demandes i ≠ .effacerDonneesProprietaire owner)
    (hdepassement : SansDepassement cfg.parametres compte l)
    (hintervalle : (0 : ℤ) ≤ cfg.parametres.intervalle) {x : ι × Evenement col}
    (hl : l = l₁ ++ x :: l₂) : x.2.before.Repousses cfg.parametres compte l₁ := by
  -- a slot that is taken again starts later
  have hsuite : ∀ l₁ y l₂, l = l₁ ++ y :: l₂ → ∀ instant plan,
      y.2.before.Repousse cfg.parametres compte instant →
        creneau (Event.entry y.2) = some (compte, plan) →
          instant + cfg.parametres.intervalle ≤ plan.nextSyncAt := by
    intro l₁ y l₂ hy instant plan hrepousse hpris
    obtain ⟨hplan, hdu⟩ := du_of_reservation h hdemandes hdepassement hy hpris
    have hle := hrepousse.le hdu
    rw [hplan]
    show instant + cfg.parametres.intervalle ≤ plan.lastSyncAt + cfg.parametres.intervalle
    have hlt : ∀ a b I : ℤ, 0 ≤ I → a + I ≤ b → a + I ≤ b + I := by omega
    exact hlt _ _ _ hintervalle hle
  have hdebut : s.Repousses cfg.parametres compte ([] : List (ι × Evenement col)) :=
    fun z hz => absurd hz List.not_mem_nil
  subst hl
  obtain ⟨pool₁, s₁, hfirst, hlast⟩ := Interleaving.append_iff.1 h
  rw [hlast.cons_inv.1]
  refine Interleaving.follows (R := Store.Repousses cfg.parametres compte) hfirst hdebut ?_
  intro m₁ y m₂ hm hbefore z hz plan hpris
  have hy : l₁ ++ x :: l₂ = m₁ ++ y :: (m₂ ++ x :: l₂) := by simp [hm]
  rcases List.mem_append.1 hz with hz | hz
  · obtain ⟨a₀, ha₀, hid, n, hn, hle⟩ := hbefore z hz plan hpris
    obtain ⟨a, ha, hida, hplan | ⟨plan', quota, hentry, hreserve⟩⟩ :=
      planning_pool h hdemandes (x := y) (by simp [hy]) ha₀
    · exact ⟨a, ha, hida.trans hid, n, hplan.nextSyncAt.trans hn, hle⟩
    · refine ⟨a, ha, hida.trans hid, _, hreserve.nextSyncAt, ?_⟩
      refine hsuite m₁ y _ hy plan.lastSyncAt plan' ⟨a₀, ha₀, hid, n, hn, hle⟩ ?_
      exact creneau_eq_some.2 ⟨quota, hid ▸ hentry⟩
  · obtain rfl := List.mem_singleton.1 hz
    obtain ⟨quota, hentry⟩ := creneau_eq_some.1 hpris
    obtain ⟨a₀, -, hid, a, ha, hreserve⟩ := reserve_of_creneau hentry
    refine ⟨a, ha, hreserve.id.trans hid, _, hreserve.nextSyncAt, ?_⟩
    obtain ⟨hplan, -⟩ := du_of_reservation h hdemandes hdepassement hy hpris
    rw [hplan]
    exact le_rfl

/-- In every interleaving of cycles, and of any operations that do not erase a user, the
slots of an account are taken once as long as no reservation overtakes another: between
the listing of a cycle and its own reservation, no other one succeeds. -/
theorem creneauxDistincts_of_sansDepassement (h : Entrelacement col cfg demandes s l pool' s')
    (hdemandes : ∀ i owner, demandes i ≠ .effacerDonneesProprietaire owner)
    (hdepassement : SansDepassement cfg.parametres compte l) :
    CreneauxDistincts cfg.parametres compte l := by
  -- the second of two reservations finds a slot that the first one put off
  have hecart : (0 : ℤ) ≤ cfg.parametres.intervalle → ∀ l₁ x l₂ y l₃ plan plan',
      l = l₁ ++ x :: (l₂ ++ y :: l₃) → creneau (Event.entry x.2) = some (compte, plan) →
        creneau (Event.entry y.2) = some (compte, plan') →
          y.2.before.Repousse cfg.parametres compte plan.lastSyncAt ∧
            y.2.before.Du compte plan'.lastSyncAt := by
    intro hintervalle l₁ x l₂ y l₃ plan plan' hl hx hy
    have hl' : l = (l₁ ++ x :: l₂) ++ y :: l₃ := by simp [hl]
    exact ⟨repousses_before h hdemandes hdepassement hintervalle hl' x (by simp) plan hx,
      (du_of_reservation h hdemandes hdepassement hl' hy).2⟩
  constructor
  · refine pairwise_prises fun l₁ x l₂ y l₃ p p' hl hp hp' => ?_
    obtain ⟨⟨plan, hx, hinstant⟩, -⟩ := prise?_eq_some hp
    obtain ⟨⟨plan', hy, hinstant'⟩, -⟩ := prise?_eq_some hp'
    rw [hinstant, hinstant']
    rcases le_or_gt (0 : ℤ) cfg.parametres.intervalle with hpos | hneg
    · obtain ⟨hrepousse, hdu⟩ := hecart hpos l₁ x l₂ y l₃ plan plan' hl hx hy
      exact .inl (hrepousse.le hdu)
    · have htotal : ∀ a b I : ℤ, I < 0 → a + I ≤ b ∨ b + I ≤ a := by omega
      exact htotal _ _ _ hneg
  · refine fun hpos => pairwise_prises fun l₁ x l₂ y l₃ p p' hl hp hp' hslot => ?_
    obtain ⟨⟨plan, hx, -⟩, hfind⟩ := prise?_eq_some hp
    obtain ⟨⟨plan', hy, -⟩, hfind'⟩ := prise?_eq_some hp'
    obtain ⟨⟨a', ha', hid', n, hn, hle⟩, -⟩ :=
      hecart (le_of_lt hpos) l₁ x l₂ y l₃ plan plan' hl hx hy
    obtain ⟨-, a, ha, hid, hdu⟩ := du_of_reservation h hdemandes hdepassement hl hx
    -- the first one found a slot that was due, the second one finds a slot that was not yet
    have hsame : a.nextSyncAt = some n :=
      calc a.nextSyncAt = p.slot := (hfind a ha hid).symm
        _ = p'.slot := hslot
        _ = a'.nextSyncAt := hfind' a' ha' hid'
        _ = some n := hn
    have hlt : ∀ m I n : ℤ, 0 < I → m + I ≤ n → ¬ n ≤ m := by omega
    exact hlt _ _ _ hpos hle (hdu n hsame)

end Pool

/-! ## Two cycles at once -/

/-- Two cycles. -/
def deuxOuvriers : Fin 2 → Operation := fun _ => .synchroniser

/-- Both list the account, then both reserve it. -/
def coursePourUnCreneau :
    List (Fin 2 × Evenement Scenario.collation) × (Fin 2 → Programme Issue) × Store :=
  Scenario.unCompte.cote deuxOuvriers [0, 0, 1, 1, 0, 1] avecCompte

/-- The slot is taken twice, at the same instant. -/
theorem not_creneauxDistincts_coursePourUnCreneau :
    Entrelacement Scenario.collation Scenario.configuration deuxOuvriers avecCompte
        coursePourUnCreneau.1 coursePourUnCreneau.2.1 coursePourUnCreneau.2.2 ∧
      ¬ CreneauxDistincts Scenario.configuration.parametres (Uuid.fromU128 1012)
          coursePourUnCreneau.1 := by
  refine ⟨Scenario.unCompte.entrelacement _ _ _, fun hdistincts => ?_⟩
  have hproches : ¬ (prises (Uuid.fromU128 1012) coursePourUnCreneau.1).Pairwise fun p p' =>
      p.instant + Scenario.configuration.parametres.intervalle ≤ p'.instant ∨
        p'.instant + Scenario.configuration.parametres.intervalle ≤ p.instant := by
    decide +kernel
  exact hproches hdistincts.ecart

/-- A worker whose second cycle starts six hours after the first. -/
def ouvrierRegulier : Scenario :=
  { Scenario.unCompte with horloge := fun n => if n < 505 then 0 else Duration.hours 6 }

/-- One cycle after the other. -/
def lUnApresLAutre :
    List (Fin 2 × Evenement Scenario.collation) × (Fin 2 → Programme Issue) × Store :=
  ouvrierRegulier.cote deuxOuvriers (List.replicate 12 0 ++ List.replicate 12 1) avecCompte

/-- The second of two reservations is overtaken by no other one as soon as its cycle has not
asked anything before the first. -/
private theorem sansDepassement_of_deux {ι : Type} [DecidableEq ι] {col : Collation}
    {parametres : ParametresSynchro} {compte : BankAccountId} {l : List (ι × Evenement col)}
    {p : ι × Evenement col → Bool} (hp : ∀ x, p x = true ↔ CreneauPris compte (Event.entry x.2))
    {x y : ι × Evenement col} (hdeux : l.filter p = [x, y])
    (hapres : ∀ z ∈ l.takeWhile fun x => !p x, z.1 ≠ y.1) :
    SansDepassement parametres compte l := by
  intro l₀ i v l₁ e l₂ maintenant hl _ he z hz hpris
  obtain ⟨m₁, m₂, rfl⟩ := List.append_of_mem hz
  obtain ⟨n₁, hv, hl'⟩ : ∃ n₁, (i, v) ∈ n₁ ∧ l = n₁ ++ z :: (m₂ ++ (i, e) :: l₂) :=
    ⟨l₀ ++ (i, v) :: m₁, by simp, by simp [hl]⟩
  rw [hl', List.filter_append, List.filter_cons_of_pos ((hp z).2 hpris), List.filter_append,
    List.filter_cons_of_pos ((hp (i, e)).2 he)] at hdeux
  have hlength := congrArg List.length hdeux
  simp only [List.length_append, List.length_cons, List.length_nil] at hlength
  have hvide : n₁.filter p = [] := List.length_eq_zero_iff.1 (by omega)
  have hvide' : m₂.filter p = [] := List.length_eq_zero_iff.1 (by omega)
  rw [hvide, hvide', List.nil_append, List.nil_append] at hdeux
  have hy : (i, e) = y := (List.cons.inj (List.cons.inj hdeux).2).1
  have hi : i = y.1 := congrArg Prod.fst hy
  refine hapres (i, v) ?_ hi
  rw [hl', List.takeWhile_append_of_pos]
  · exact List.mem_append_left _ hv
  · intro w hw
    have hnot := List.filter_eq_nil_iff.1 hvide w hw
    simpa using hnot

/-- The second cycle takes the slot that the first one left. -/
theorem creneauxDistincts_lUnApresLAutre :
    (prises (Uuid.fromU128 1012) lUnApresLAutre.1).length = 2 ∧
      CreneauxDistincts Scenario.configuration.parametres (Uuid.fromU128 1012)
        lUnApresLAutre.1 := by
  refine ⟨by decide +kernel, ?_⟩
  refine creneauxDistincts_of_sansDepassement (ouvrierRegulier.entrelacement _ _ _) ?_ ?_
  · intro i owner
    simp [deuxOuvriers]
  let p (x : Fin 2 × Evenement Scenario.collation) : Bool :=
    (creneau (Event.entry x.2)).any fun prise => prise.1 = Uuid.fromU128 1012
  have hdeux : (lUnApresLAutre.1.filter p).map Prod.fst = [0, 1] := by decide +kernel
  have havant : ∀ z ∈ lUnApresLAutre.1.takeWhile fun x => !p x, z.1 ≠ 1 := by decide +kernel
  obtain ⟨x, rest, hrest, -, hdeux⟩ := List.map_eq_cons_iff.1 hdeux
  obtain ⟨y, rest, rfl, hy, hdeux⟩ := List.map_eq_cons_iff.1 hdeux
  obtain rfl := List.map_eq_nil_iff.1 hdeux
  exact sansDepassement_of_deux (fun _ => creneauPris_iff_any.symm) hrest (hy ▸ havant)

end Budgy
