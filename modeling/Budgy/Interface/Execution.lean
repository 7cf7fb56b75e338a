import Budgy.Interface.Program

/-!
# Services and their executions

A service answers calls one after the other; each call runs a program to its end.
An execution is the list of the calls it answered, each with the requests it
issued.  What one call preserves, an execution preserves.
-/

set_option autoImplicit false

namespace Effects

variable {S : Signature} {σ : Type}

/-- The calls a service answers, each with its program. -/
structure Service (S : Signature) where
  Call : Type
  Answer : Call → Type
  program : (c : Call) → Prog S (Answer c)

/-- One call of an execution. -/
structure Step (sv : Service S) (M : Machine S σ) where
  call : sv.Call
  before : σ
  trace : List (Event M)
  answer : sv.Answer call
  after : σ

variable {sv : Service S} {M : Machine S σ}

/-- The run of a call, as a proposition. -/
def Step.Valid (c : Step sv M) : Prop :=
  Runs M (sv.program c.call) c.before c.trace c.answer c.after

/-- `Execution s l s'`: from `s` the service can answer the calls `l`, in this
order, and end in `s'`. -/
inductive Execution (sv : Service S) (M : Machine S σ) : σ → List (Step sv M) → σ → Prop where
  | nil (s : σ) : Execution sv M s [] s
  | cons (c : Step sv M) {l : List (Step sv M)} {s' : σ} (run : c.Valid)
      (rest : Execution sv M c.after l s') : Execution sv M c.before (c :: l) s'

namespace Execution

variable {s s' : σ} {l l₁ l₂ : List (Step sv M)}

/-- Every step of an execution is a run of its program. -/
theorem valid (h : Execution sv M s l s') : ∀ c ∈ l, c.Valid := by
  induction h with
  | nil s => simp
  | cons c run rest ih =>
      intro c' hc'
      rcases List.mem_cons.1 hc' with rfl | hc'
      · exact run
      · exact ih c' hc'

/-- An execution splits at any point of its list of calls. -/
theorem append_iff :
    Execution sv M s (l₁ ++ l₂) s' ↔
      ∃ m, Execution sv M s l₁ m ∧ Execution sv M m l₂ s' := by
  constructor
  · intro h
    induction l₁ generalizing s with
    | nil => exact ⟨s, .nil s, h⟩
    | cons c l₁ ih =>
        cases h with
        | cons _ run rest =>
            obtain ⟨m, h₁, h₂⟩ := ih rest
            exact ⟨m, .cons c run h₁, h₂⟩
  · rintro ⟨m, h₁, h₂⟩
    induction h₁ with
    | nil s => exact h₂
    | cons c run rest ih => exact .cons c run (ih h₂)

/-- A property that every call preserves holds around every call. -/
theorem preserves {I : σ → Prop} (h : Execution sv M s l s') (hs : I s)
    (hstep : ∀ c ∈ l, c.Valid → I c.before → I c.after) :
    I s' ∧ ∀ c ∈ l, I c.before ∧ I c.after := by
  induction h with
  | nil s => exact ⟨hs, by simp⟩
  | cons c run rest ih =>
      have hnext : I c.after := hstep c (by simp) run hs
      obtain ⟨hend, hall⟩ := ih hnext fun d hd => hstep d (by simp [hd])
      refine ⟨hend, ?_⟩
      intro d hd
      rcases List.mem_cons.1 hd with rfl | hd
      · exact ⟨hs, hnext⟩
      · exact hall d hd

/-- A relation between the calls answered so far and the state, which every call
extends, holds at the end. -/
theorem follows {J : List (Step sv M) → σ → Prop} (h : Execution sv M s l s') (hs : J [] s)
    (hstep : ∀ past, ∀ c ∈ l, c.Valid → J past c.before → J (past ++ [c]) c.after) : J l s' := by
  have hpast : ∀ past, J past s → J (past ++ l) s' := by
    clear hs
    induction h with
    | nil s =>
        intro past hJ
        rwa [List.append_nil]
    | cons c run rest ih =>
        intro past hJ
        have hnext : J (past ++ [c]) c.after := hstep past c (by simp) run hJ
        have hend := ih (fun past d hd => hstep past d (by simp [hd])) (past ++ [c]) hnext
        rwa [List.append_assoc, List.singleton_append] at hend
  exact hpast [] hs

/-- A property that every request preserves holds around every request. -/
theorem preserves_events {I : σ → Prop} (h : Execution sv M s l s') (hs : I s)
    (hstep : ∀ c ∈ l, ∀ e ∈ c.trace, I e.before → I e.after) :
    I s' ∧ ∀ c ∈ l, ∀ e ∈ c.trace, I e.before ∧ I e.after := by
  induction h with
  | nil s => exact ⟨hs, by simp⟩
  | cons c run rest ih =>
      obtain ⟨hnext, hfirst⟩ := Runs.preserves run hs (hstep c (by simp))
      obtain ⟨hend, hall⟩ := ih hnext fun d hd => hstep d (by simp [hd])
      refine ⟨hend, ?_⟩
      intro d hd
      rcases List.mem_cons.1 hd with rfl | hd
      · exact hfirst
      · exact hall d hd

end Execution

/-! ## Executions against given choices -/

/-- The execution of a list of calls, each request being answered by the next
choice. -/
def runAll (sv : Service S) (M : Machine S σ) (ω : ℕ → (o : S.Op) → M.Choice o) :
    List sv.Call → ℕ → σ → List (Step sv M) × σ
  | [], _, s => ([], s)
  | c :: cs, n, s =>
      let first := run M ω (sv.program c) n s
      let rest := runAll sv M ω cs first.next first.state
      (⟨c, s, first.trace, first.value, first.state⟩ :: rest.1, rest.2)

/-- What `runAll` computes is an execution. -/
theorem execution_runAll (ω : ℕ → (o : S.Op) → M.Choice o) (cs : List sv.Call) (n : ℕ) (s : σ) :
    Execution sv M s (runAll sv M ω cs n s).1 (runAll sv M ω cs n s).2 := by
  induction cs generalizing n s with
  | nil => exact .nil s
  | cons c cs ih =>
      exact .cons ⟨c, s, _, _, _⟩ (runs_run ω (sv.program c) n s) (ih _ _)

/-- The steps that are computed are those of the calls. -/
theorem calls_runAll (ω : ℕ → (o : S.Op) → M.Choice o) (cs : List sv.Call) (n : ℕ) (s : σ) :
    (runAll sv M ω cs n s).1.map Step.call = cs := by
  induction cs generalizing n s with
  | nil => rfl
  | cons c cs ih => exact congrArg (c :: ·) (ih _ _)

end Effects
