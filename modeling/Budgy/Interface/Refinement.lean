import Budgy.Interface.Execution

/-!
# Refinement of a service

A path goes from state to state by labelled steps.  The calls of a service refine such a
system when an abstraction of its states turns every call into a step; its executions are
then paths, and what the steps preserve holds of the abstraction of every state.
-/

set_option autoImplicit false

namespace Effects

variable {τ ℓ : Type}

/-- `Path R a ls b`: the labels lead from `a` to `b`. -/
inductive Path (R : τ → ℓ → τ → Prop) : τ → List ℓ → τ → Prop where
  | nil (a : τ) : Path R a [] a
  | cons {a b c : τ} {l : ℓ} {ls : List ℓ} (step : R a l b) (rest : Path R b ls c) :
      Path R a (l :: ls) c

namespace Path

variable {R : τ → ℓ → τ → Prop} {a b c : τ} {l : ℓ} {ls ms : List ℓ}

/-- A path followed by another. -/
theorem append (h : Path R a ls b) (h' : Path R b ms c) : Path R a (ls ++ ms) c := by
  induction h with
  | nil a => exact h'
  | cons step rest ih => exact .cons step (ih h')

/-- A path of one step. -/
theorem single (h : R a l b) : Path R a [l] b := .cons h (.nil b)

/-- What every step preserves holds at the end of the path. -/
theorem preserves {I : τ → Prop} (h : Path R a ls b) (ha : I a)
    (hstep : ∀ a l b, R a l b → I a → I b) : I b := by
  induction h with
  | nil a => exact ha
  | cons step rest ih => exact ih (hstep _ _ _ step ha)

end Path

variable {S : Signature} {σ : Type} {sv : Service S} {M : Machine S σ} {s s' : σ}
  {l : List (Step sv M)}

/-- The calls are steps of the abstract system, so an execution is a path. -/
theorem Execution.refines {R : τ → ℓ → τ → Prop} {f : σ → τ} {g : Step sv M → ℓ}
    (h : Execution sv M s l s')
    (hstep : ∀ c ∈ l, R (f c.before) (g c) (f c.after)) :
    Path R (f s) (l.map g) (f s') := by
  apply h.follows (J := fun past t => Path R (f s) (past.map g) (f t)) (.nil (f s))
  intro past c hc _ hpast
  rw [List.map_append]
  exact hpast.append (.single (hstep c hc))

/-! ## A service in front of another -/

/-- What a call of a service does in terms of the calls of another service: nothing to the
state, or the run of one call. -/
def Step.Passes (sv' : Service S) (c : Step sv M) : Option sv'.Call → Prop
  | none => c.after = c.before
  | some d => ∃ a, Runs M (sv'.program d) c.before c.trace a c.after

/-- The calls that pass through the front service are an execution of the other one, and each
of them is the same run. -/
theorem Execution.through {sv' : Service S} (g : sv.Call → Option sv'.Call)
    (h : Execution sv M s l s') (hstep : ∀ c ∈ l, c.Passes sv' (g c.call)) :
    ∃ l' : List (Step sv' M), Execution sv' M s l' s' ∧
      (∀ c ∈ l, ∀ d, g c.call = some d → ∃ c' ∈ l', c'.call = d ∧ c'.before = c.before ∧
        c'.after = c.after) ∧
      ∀ c' ∈ l', ∃ c ∈ l, g c.call = some c'.call := by
  induction h with
  | nil s => exact ⟨[], .nil s, by simp, by simp⟩
  | cons c run rest ih =>
      obtain ⟨l', hl', hforth, hback⟩ := ih fun c hc => hstep c (List.mem_cons_of_mem _ hc)
      have hfirst := hstep c (by simp)
      cases hd : g c.call with
      | none =>
          rw [hd] at hfirst
          have hsame : c.after = c.before := hfirst
          refine ⟨l', hsame ▸ hl', ?_, ?_⟩
          · intro c₁ hc₁ d hd₁
            rcases List.mem_cons.1 hc₁ with rfl | hc₁
            · cases hd.symm.trans hd₁
            · exact hforth c₁ hc₁ d hd₁
          · intro c' hc'
            obtain ⟨c₁, hc₁, hg⟩ := hback c' hc'
            exact ⟨c₁, List.mem_cons_of_mem _ hc₁, hg⟩
      | some d =>
          rw [hd] at hfirst
          obtain ⟨a, hrun⟩ := hfirst
          have hvalid : Step.Valid (⟨d, c.before, c.trace, a, c.after⟩ : Step sv' M) := hrun
          refine ⟨⟨d, c.before, c.trace, a, c.after⟩ :: l', .cons _ hvalid hl', ?_, ?_⟩
          · intro c₁ hc₁ d₁ hd₁
            rcases List.mem_cons.1 hc₁ with rfl | hc₁
            · obtain rfl := Option.some.inj (hd.symm.trans hd₁)
              exact ⟨⟨d, _, _, a, _⟩, List.mem_cons_self, rfl, rfl, rfl⟩
            · obtain ⟨c', hc', hcall⟩ := hforth c₁ hc₁ d₁ hd₁
              exact ⟨c', List.mem_cons_of_mem _ hc', hcall⟩
          · intro c' hc'
            rcases List.mem_cons.1 hc' with rfl | hc'
            · exact ⟨c, by simp, hd⟩
            · obtain ⟨c₁, hc₁, hg⟩ := hback c' hc'
              exact ⟨c₁, List.mem_cons_of_mem _ hc₁, hg⟩

end Effects
