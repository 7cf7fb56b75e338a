import Budgy.Interface.Interleaving
import Budgy.Analysis.Footprint
import Budgy.Analysis.Scenarios

/-!
# Operations side by side

The service answers its requests side by side, and only the statements of the database
are atomic.  `Entrelacement` is the interleaving of any number of operations, request
by request; what an operation may write does not depend on the others
(`Entrelacement.emet`).
-/

set_option autoImplicit false

namespace Budgy

open Effects

instance : ∀ o : signature.Op, Nonempty (signature.Reply o)
  | .sql _ => ⟨.error .rowNotFound⟩
  | .banque _ => ⟨.error .consentementInvalide⟩
  | .publier _ => ⟨()⟩
  | .nonce => ⟨⟨List.replicate nonceBytes 0, rfl⟩⟩
  | .uuidV4 => ⟨Uuid.fromU128 0⟩
  | .maintenant => ⟨(0 : ℤ)⟩

section Entries

variable {col : Collation} {e : Evenement col}

/-- The statement of an entry that took effect. -/
theorem effet_of_entry {r : Requete} {v : r.Reponse}
    (h : Event.entry e = ⟨.sql r, .ok v⟩) :
    e.op = .sql r ∧ ∃ x, r.effet col x e.before = .ok (v, e.after) := by
  obtain ⟨s, o, x⟩ := e
  obtain ⟨rfl, hreply⟩ := Sigma.mk.inj_iff.1 h
  exact ⟨rfl, x, Requete.effet_of_executer (eq_of_heq hreply)⟩

/-- A request leaves the database, or is a statement that answers and takes effect. -/
theorem entry_cases (e : Evenement col) :
    e.after = e.before ∨
      ∃ (r : Requete) (x : ChoixSql) (v : r.Reponse), Event.entry e = ⟨.sql r, .ok v⟩ ∧
        r.effet col x e.before = .ok (v, e.after) := by
  obtain ⟨s, o, x⟩ := e
  cases o with
  | sql r =>
      rcases Requete.executer_cases col r x s with ⟨err, he⟩ | ⟨v, s', -, heffet, heq⟩
      · exact .inl (congrArg Prod.snd he)
      · have hafter : (⟨s, .sql r, x⟩ : Evenement col).after = s' := congrArg Prod.snd heq
        have hreply : (r.executer col x s).1 = .ok v := congrArg Prod.fst heq
        exact .inr ⟨r, x, v, congrArg (Sigma.mk (Op.sql r)) hreply, hafter ▸ heffet⟩
  | banque | publier | nonce | uuidV4 | maintenant => exact .inl rfl

end Entries

/-- An operation with its answer. -/
abbrev Issue : Type := Σ o : Operation, o.Reponse

/-- The program of an operation, whose answer says which operation it answers. -/
def Operation.tache (cfg : Configuration) (o : Operation) : Programme Issue := do
  let reponse ← o.programme cfg
  pure ⟨o, reponse⟩

/-- What the program of an operation guards and returns, its task does too. -/
theorem guarded_tache {cfg : Configuration} {o : Operation} {G : Event (journal signature) → Prop}
    {Q : Issue → List (Entry signature) → Prop} {h : List (Entry signature)}
    (hp : Guarded (journal signature) G (o.programme cfg) h fun r h' => Q ⟨o, r⟩ h') :
    Guarded (journal signature) G (o.tache cfg) h Q :=
  Guarded.bind hp fun _ _ hQ => guarded_pure.2 hQ

/-- From `s` the operations of a family issue the requests `l`, in any order. -/
abbrev Entrelacement {ι : Type} [DecidableEq ι] (col : Collation) (cfg : Configuration)
    (demandes : ι → Operation) (s : Store) (l : List (ι × Evenement col))
    (pool' : ι → Programme Issue) (s' : Store) : Prop :=
  Interleaving (machine col) (fun i => (demandes i).tache cfg) s l pool' s'

section

variable {ι : Type} [DecidableEq ι] {col : Collation} {cfg : Configuration}
  {demandes : ι → Operation} {s s' : Store} {l : List (ι × Evenement col)}
  {pool' : ι → Programme Issue}

/-- In an interleaving, the statements that write are among those their operation may
emit. -/
theorem Entrelacement.emet (h : Entrelacement col cfg demandes s l pool' s') {i : ι}
    {e : Evenement col} (hx : (i, e) ∈ l) {r : Requete} (hop : e.op = .sql r)
    (hr : r.ecrit ≠ []) : (demandes i).Emet cfg.crypto r := by
  have huses := Interleaving.uses (P := fun i (o : Op) => ∀ r, o = .sql r → r.ecrit ≠ [] →
    (demandes i).Emet cfg.crypto r) h (fun i => ?_) (i, e) hx
  · exact huses r hop hr
  · refine Prog.Uses.bind (uses_programme ?_ ?_) fun _ => Prog.uses_pure _
    · rintro _ hread r rfl hr
      exact absurd hread hr
    · rintro r hr _ ⟨⟩ -
      exact hr

/-- No operation sets a fingerprint. -/
theorem Entrelacement.sans_poser (h : Entrelacement col cfg demandes s l pool' s')
    {x : ι × Evenement col} (hx : x ∈ l) (id : Uuid) (f : String) :
    x.2.op ≠ .sql (.compte (.poserEmpreinte id f)) :=
  fun hop => (h.emet hx hop (by simp)).sans_poser id f rfl

/-- An interleaving keeps the constraints of the database. -/
theorem Entrelacement.integre (h : Entrelacement col cfg demandes s l pool' s') (hs : s.Integre) :
    s'.Integre ∧ ∀ x ∈ l, x.2.before.Integre ∧ (Event.after x.2).Integre := by
  have hstep : ∀ x ∈ l, x.2.before.Integre → (Event.after x.2).Integre :=
    fun x hx hbefore => hbefore.after (h.sans_poser hx)
  exact ⟨Interleaving.preserves (I := Store.Integre) h hs hstep,
    Interleaving.preserves_events (I := Store.Integre) h hs hstep⟩

/-- Only an erasure deletes accounts and consents. -/
theorem Entrelacement.garde (h : Entrelacement col cfg demandes s l pool' s')
    (hdemandes : ∀ i owner, demandes i ≠ .effacerDonneesProprietaire owner)
    {x : ι × Evenement col} (hx : x ∈ l) (owner : ProprietaireId) :
    x.2.op ≠ .sql (.compte (.supprimerParProprietaire owner)) ∧
      x.2.op ≠ .sql (.consent (.supprimerParProprietaire owner)) := by
  constructor
  · intro hop
    exact ((h.emet hx hop (by simp)).sans_suppression (hdemandes x.1) owner).1 rfl
  · intro hop
    exact ((h.emet hx hop (by simp)).sans_suppression (hdemandes x.1) owner).2 rfl

end

/-! ## Interleavings against a scenario -/

/-- The database that a run ends with is whole. -/
theorem Scenario.integre_fin (sc : Scenario) (operations : List Operation) :
    (sc.fin operations).Integre :=
  execution_integre amorcee_amorcee (sc.execution operations)

/-- The operations issue their requests in the order of a schedule.  The ranks of the
requests follow those of the runs that made the database. -/
def Scenario.cote {ι : Type} [DecidableEq ι] (sc : Scenario) (demandes : ι → Operation)
    (ordre : List ι) (s : Store) :
    List (ι × Evenement Scenario.collation) × (ι → Programme Issue) × Store :=
  runPool _ sc.choix ordre 500 (fun i => (demandes i).tache Scenario.configuration) s

/-- What is computed in an order is an interleaving. -/
theorem Scenario.entrelacement {ι : Type} [DecidableEq ι] (sc : Scenario)
    (demandes : ι → Operation) (ordre : List ι) (s : Store) :
    Entrelacement Scenario.collation Scenario.configuration demandes s
      (sc.cote demandes ordre s).1 (sc.cote demandes ordre s).2.1 (sc.cote demandes ordre s).2.2 :=
  interleaving_runPool _ _ _ _ _

/-- What is left of the operations goes on. -/
def Scenario.suite {ι : Type} [DecidableEq ι] (sc : Scenario) (ordre : List ι)
    (pool : ι → Programme Issue) (s : Store) :
    List (ι × Evenement Scenario.collation) × (ι → Programme Issue) × Store :=
  runPool _ sc.choix ordre 600 pool s

/-- So is what is computed from there. -/
theorem Scenario.interleaving_suite {ι : Type} [DecidableEq ι] (sc : Scenario) (ordre : List ι)
    (pool : ι → Programme Issue) (s : Store) :
    Interleaving (machine Scenario.collation) pool s (sc.suite ordre pool s).1
      (sc.suite ordre pool s).2.1 (sc.suite ordre pool s).2.2 :=
  interleaving_runPool _ _ _ _ _

end Budgy
