import Budgy.Analysis.Evolution
import Budgy.Analysis.Provenance
import Budgy.Analysis.Scenarios

/-!
# Internal transfers stay out of the totals

A transaction in the category of internal transfers must carry the flag that keeps
it out of the breakdowns and of the recurrences.  Five writers set the category
and two set the flag; `Store.Signale.after` goes through all of them.  All but the two
that apply a rule keep the property; those two keep it exactly when they touch
flagged transactions only (`RegleSansVirement`).
-/

set_option autoImplicit false

namespace Budgy

open Effects Relational RequeteTransaction

/-- Every transaction in the category of internal transfers is flagged. -/
def Store.Signale (s : Store) : Prop :=
  ∀ t ∈ s.bankTransaction, t.categoryId = some categorieVirementsInternes →
    t.isInternalTransfer = true

/-- Every transaction in the category of internal transfers is flagged, and counted
neither in the breakdowns nor in the detection of recurrences. -/
def Store.Exclusion (s : Store) : Prop :=
  ∀ t ∈ s.bankTransaction, t.categoryId = some categorieVirementsInternes →
    t.isInternalTransfer = true ∧
      ∀ owner,
        (∀ debut finExclue, RequeteClassement.compteeDansCycle s owner debut finExclue t = false) ∧
        ∀ x, t ∉ transactionsDe x s owner fun t => !t.isInternalTransfer

/-- The flag is what the two readings test. -/
theorem exclusion_iff_signale {s : Store} : s.Exclusion ↔ s.Signale := by
  refine ⟨fun h t ht hc => (h t ht hc).1, fun h t ht hc => ⟨h t ht hc, fun owner => ⟨?_, ?_⟩⟩⟩
  · intro debut finExclue
    simp [RequeteClassement.compteeDansCycle, h t ht hc]
  · intro x hmem
    simp [transactionsDe, h t ht hc] at hmem

/-! ## The category of internal transfers is nobody's -/

/-- The category of internal transfers is a system one, and not that of salaries. -/
def Store.VirementsSemes (s : Store) : Prop :=
  ∃ c ∈ s.category, c.id = categorieVirementsInternes ∧ c.ownerId = none ∧ c.name ≠ "Salaire"

/-- The seeded database has the category of the transfers. -/
theorem Store.Amorcee.virementsSemes {s : Store} (h : s.Amorcee) : s.VirementsSemes := by
  have hname : ("Virements internes", CategoryKind.depense, "#546E7A", "exchange") ∈
      s.category.rows.map fun c => (c.name, c.kind, c.color, c.icon) := by
    rw [h.category]
    decide
  obtain ⟨c, hc, heq⟩ := List.mem_map.1 hname
  have hc : c ∈ s.category := hc
  have hname : c.name = "Virements internes" := congrArg Prod.fst heq
  refine ⟨c, hc, (h.virementsInternes c hc).2 hname, h.systeme c hc, ?_⟩
  rw [hname]
  decide

/-- The seeded database has no transaction to flag. -/
theorem Store.Amorcee.signale {s : Store} (h : s.Amorcee) : s.Signale := by
  intro t ht
  have ht : t ∈ s.bankTransaction.rows := ht
  rw [h.bankTransaction] at ht
  exact absurd ht List.not_mem_nil

section Steps

variable {col : Collation} {e : Evenement col}

/-- A system category is never written. -/
theorem Store.VirementsSemes.after (h : e.before.VirementsSemes) : e.after.VirementsSemes := by
  by_cases hw : NomTable.category ∈ e.op.ecrit
  · obtain ⟨s, o, x⟩ := e
    cases o with
    | sql r =>
        refine Requete.executer_preserves (I := Store.VirementsSemes) h ?_
        intro reponse s' heffet
        obtain ⟨c, hc, hid, howner, hname⟩ := h
        rcases r with r | r | r | r <;> cases r <;> try simp at hw
        case classement.creerCategorie =>
          obtain ⟨t, ht, -, rfl⟩ := by
            simpa [Requete.effet, RequeteClassement.effet] using heffet
          exact ⟨c, (Table.mem_of_insert ht).2 (.inl hc), hid, howner, hname⟩
        case classement.mettreAJourCategorie =>
          obtain ⟨-, rfl⟩ := by simpa [Requete.effet, RequeteClassement.effet] using heffet
          refine ⟨c, ?_, hid, howner, hname⟩
          rw [Table.mem_update]
          exact ⟨c, hc, by simp [howner]⟩
        case classement.supprimerCategorie =>
          obtain ⟨-, rfl⟩ := by simpa [Requete.effet, RequeteClassement.effet] using heffet
          exact ⟨c, Table.mem_delete.2 ⟨hc, by simp [howner]⟩, hid, howner, hname⟩
    | banque | publier | nonce | uuidV4 | maintenant => exact absurd hw (by simp)
  · obtain ⟨c, hc, hfound⟩ := h
    have hsame : e.after.category = e.before.category := pareil_event hw
    exact ⟨c, hsame ▸ hc, hfound⟩

end Steps

/-! ## What the writers of the category do -/

/-- The application of a rule of the category of internal transfers touches flagged
transactions only. -/
def RegleSansVirement (s : Store) : Requete → Prop
  | .transaction (.appliquerRegle category _ transaction owner) =>
      category = categorieVirementsInternes → ∀ t ∈ s.bankTransaction, s.txDe owner t = true →
        t.id = transaction → t.categorizationSource ≠ .manual → t.isInternalTransfer = true
  | .transaction (.appliquerRegleParLot category _ ids owner) =>
      category = categorieVirementsInternes → ∀ t ∈ s.bankTransaction, s.txDe owner t = true →
        t.id ∈ ids → t.categorizationSource = .none → t.isInternalTransfer = true
  | _ => True

/-- The same, for a request of a run that took effect. -/
def Evenement.SansVirement {col : Collation} (e : Evenement col) : Prop :=
  ∀ r, e.op = .sql r → Evenement.Reussi e → RegleSansVirement e.before r

section Events

variable {col : Collation} {crypto : CryptoService} {e : Evenement col}

/-- The category of the salaries is another one. -/
theorem ne_of_categorieSalaire {s : Store} {A : ProprietaireId} {category : CategoryId}
    (hv : s.VirementsSemes) (h : s.CategorieSalaire A category) :
    category ≠ categorieVirementsInternes := by
  obtain ⟨c, hc, hid, -, hname⟩ := hv
  obtain ⟨c', hc', hid', hname', -⟩ := h
  rintro rfl
  rw [Table.eq_of_key_eq hc hc' (hid.trans hid'.symm)] at hname
  exact hname hname'

/-- The effect of a statement, on the flags. -/
private theorem signale_effet {r : Requete} {x : ChoixSql} {s s' : Store} {reponse : r.Reponse}
    (heffet : r.effet col x s = .ok (reponse, s')) (h : s.Signale) (hv : s.VirementsSemes)
    (hp : ∃ A, r.Pour crypto Set.univ A s) (hr : RegleSansVirement s r) : s'.Signale := by
  intro t ht hcategory
  rcases transaction_effet heffet ht with ⟨t₀, ht₀, hdevient⟩ | ⟨l, -, rfl, -⟩
  swap
  · exact nomatch hcategory
  have hflag := h t₀ ht₀
  cases hdevient
  case categorisee => simpa using hcategory
  case regle howner hid hsource _ =>
    exact hr (Option.some.inj hcategory) t₀ ht₀ howner hid hsource
  case regleParLot howner hid hsource _ =>
    exact hr (Option.some.inj hcategory) t₀ ht₀ howner hid hsource
  case defaut =>
    obtain ⟨A, -, hsalaire⟩ := hp
    exact absurd (Option.some.inj hcategory) (ne_of_categorieSalaire hv hsalaire)
  case reinitialisee _ _ hne => exact absurd hcategory hne
  case marqueeManuelle => rfl
  case marquee | sansCategorie => exact nomatch hcategory
  case intacte | observee | recurrente | sansEnveloppe | affectee => exact hflag hcategory

/-- Every request but the application of a rule keeps the flags; that one does when
it touches flagged transactions only. -/
theorem Store.Signale.after (h : e.before.Signale) (hv : e.before.VirementsSemes)
    (hp : e.PourUn crypto) (hc : e.SansVirement) : e.after.Signale := by
  by_cases hsame : e.after = e.before
  · rwa [hsame]
  obtain ⟨A, hpour⟩ := hp
  have hpour : Op.Pour crypto Set.univ A e.before e.op := hpour
  rcases after_cases e with hafter | ⟨r, x, v, hop, heffet⟩
  · exact absurd hafter hsame
  · rw [hop] at hpour
    exact signale_effet heffet h hv ⟨A, hpour⟩ (hc r hop (reussi_of_after_ne hsame))

/-- A rule that puts an unflagged transaction in the category breaks the flags. -/
theorem sansVirement_of_signale (h : e.after.Signale) : e.SansVirement := by
  obtain ⟨s, o, x⟩ := e
  rintro r hop hok
  obtain rfl : o = .sql r := hop
  obtain ⟨reponse, s', heffet, hafter⟩ := effet_of_reussi hok
  rw [hafter] at h
  rcases r with r | r | r | r <;> cases r <;> try trivial
  case transaction.appliquerRegle category regle transaction owner =>
    obtain ⟨-, -, rfl⟩ := by
      simpa [Requete.effet, RequeteTransaction.effet, exigerCategorie, majDe] using heffet
    rintro rfl t ht htx hid hsource
    simpa [htx, hid, hsource] using h _ (Store.mem_majTransaction.2 ⟨t, ht, rfl⟩)
  case transaction.appliquerRegleParLot category regle ids owner =>
    obtain ⟨-, -, rfl⟩ := by
      simpa [Requete.effet, RequeteTransaction.effet, exigerCategorie, majDe] using heffet
    rintro rfl t ht htx hid hsource
    simpa [htx, hid, hsource] using h _ (Store.mem_majTransaction.2 ⟨t, ht, rfl⟩)

end Events

/-! ## Runs -/

section Runs

variable {col : Collation} {cfg : Configuration} {s₀ s : Store} {l : List (Etape col cfg)}

/-- From the seeded database, transactions in the category of internal transfers
are excluded in every state of a run if and only if no application of a rule of
that category took effect on an unflagged transaction. -/
theorem exclusion_run_iff (h₀ : s₀.Amorcee) (h : Execution col cfg s₀ l s) :
    (∀ c ∈ l, ∀ e ∈ c.trace, e.after.Exclusion) ↔
      ∀ c ∈ l, ∀ e ∈ c.trace, Evenement.SansVirement e := by
  simp only [exclusion_iff_signale]
  constructor
  · exact fun hall c hc e he => sansVirement_of_signale (hall c hc e he)
  · intro hall
    have hinv := (h.preserves_events (I := fun s => s.Signale ∧ s.VirementsSemes)
      ⟨h₀.signale, h₀.virementsSemes⟩ ?_).2
    · exact fun c hc e he => (hinv c hc e he).2.1
    · intro c hc e he hbefore
      exact ⟨hbefore.1.after hbefore.2 (execution_pourUn h c hc e he) (hall c hc e he),
        hbefore.2.after⟩

end Runs

/-- A user gives the rent to the category of internal transfers, by a rule. -/
def regleVirements : List Operation :=
  [.createConsent "alice" "banque", .completeConsent "alice" reponseBanque,
    mouvementDe "T1" "Loyer" (-70000) 20000,
    .createRule "alice" ⟨"loyer", categorieVirementsInternes, none⟩]

/-- The rule leaves the rent unflagged. -/
theorem not_exclusion_regleVirements :
    amorcee.Amorcee ∧
      Execution Scenario.collation Scenario.configuration amorcee
        (Scenario.unCompte.etapes regleVirements) (Scenario.unCompte.fin regleVirements) ∧
      ¬ (Scenario.unCompte.fin regleVirements).Exclusion := by
  refine ⟨amorcee_amorcee, Scenario.unCompte.execution _, ?_⟩
  have hbad : ∃ t ∈ (Scenario.unCompte.fin regleVirements).bankTransaction.rows,
      t.categoryId = some categorieVirementsInternes ∧ t.isInternalTransfer = false := by
    decide +kernel
  rintro h
  obtain ⟨t, ht, hcategory, hflag⟩ := hbad
  exact Bool.noConfusion (hflag.symm.trans (h t ht hcategory).1)

/-- Some rule of that run touched an unflagged transaction. -/
theorem exists_virement_regleVirements :
    ¬ ∀ c ∈ Scenario.unCompte.etapes regleVirements, ∀ e ∈ c.trace, Evenement.SansVirement e := by
  have hbad : ∃ c ∈ Scenario.unCompte.etapes regleVirements, ∃ e ∈ c.trace,
      ∃ t ∈ (Event.after e).bankTransaction.rows,
        t.categoryId = some categorieVirementsInternes ∧ t.isInternalTransfer = false := by
    decide +kernel
  intro hall
  obtain ⟨c, hc, e, he, t, ht, hcategory, hflag⟩ := hbad
  have hexclusion := (exclusion_run_iff amorcee_amorcee (Scenario.unCompte.execution _)).2 hall c hc e he
  exact Bool.noConfusion (hflag.symm.trans (hexclusion t ht hcategory).1)

end Budgy
