import Budgy.Interface.Program
import Mathlib.Data.List.Forall2

/-!
# What a task can return

`Spec` speaks of every run of a task.  `Answers M x s a s'` says that one of its runs returns
`a` and leaves `s'`; the rules below follow the constructors of a task, in both directions.
-/

set_option autoImplicit false

namespace Effects

variable {S : Signature} {σ α β ε ε' : Type} {M : Machine S σ}

/-- One of the runs of the task returns the value, in that state. -/
def Answers (M : Machine S σ) (x : Task S ε α) (s : σ) (a : α) (s' : σ) : Prop :=
  ∃ t, Runs M x.run s t (.ok a) s'

/-- What is specified of every run holds of a run that answers. -/
theorem Spec.answers {x : Task S ε α} {s s' : σ} {a : α} {Q : List (Event M) → Except ε α → σ → Prop}
    (h : Spec M x.run s Q) (hrun : Answers M x s a s') : ∃ t, Q t (.ok a) s' := by
  obtain ⟨t, ht⟩ := hrun
  exact ⟨t, h ht⟩

/-- A task that returns at once answers its value. -/
@[simp]
theorem answers_pure {a b : α} {s s' : σ} :
    Answers M (pure a : Task S ε α) s b s' ↔ b = a ∧ s' = s := by
  constructor
  · rintro ⟨t, ht⟩
    obtain ⟨-, hb, hs⟩ := runs_pure.1 ht
    exact ⟨Except.ok.inj hb, hs⟩
  · rintro ⟨rfl, rfl⟩
    exact ⟨[], .pure _ _⟩

/-- A computed outcome answers when it is a value. -/
@[simp]
theorem answers_ofExcept {r : Except ε α} {s s' : σ} {a : α} :
    Answers M (Task.ofExcept r : Task S ε α) s a s' ↔ r = .ok a ∧ s' = s := by
  constructor
  · rintro ⟨t, ht⟩
    obtain ⟨-, ha, hs⟩ := runs_pure.1 ht
    exact ⟨ha.symm, hs⟩
  · rintro ⟨rfl, rfl⟩
    exact ⟨[], .pure _ _⟩

/-- A sequence returns what its second task returns after the first one returned. -/
theorem answers_bind {x : Task S ε α} {f : α → Task S ε β} {s s' : σ} {b : β} :
    Answers M (x >>= f) s b s' ↔ ∃ a s₁, Answers M x s a s₁ ∧ Answers M (f a) s₁ b s' := by
  constructor
  · rintro ⟨t, ht⟩
    rw [ExceptT.run_bind] at ht
    obtain ⟨t₁, r, s₁, t₂, -, hx, hf⟩ := runs_bind.1 ht
    cases r with
    | error e => cases (runs_pure.1 hf).2.1
    | ok a => exact ⟨a, s₁, ⟨t₁, hx⟩, ⟨t₂, hf⟩⟩
  · rintro ⟨a, s₁, ⟨t₁, hx⟩, ⟨t₂, hf⟩⟩
    refine ⟨t₁ ++ t₂, ?_⟩
    rw [ExceptT.run_bind]
    exact runs_bind.2 ⟨t₁, .ok a, s₁, t₂, rfl, hx, hf⟩

/-- A translation of the errors does not change what is returned. -/
@[simp]
theorem answers_mapError {f : ε → ε'} {x : Task S ε α} {s s' : σ} {a : α} :
    Answers M (x.mapError f) s a s' ↔ Answers M x s a s' := by
  constructor
  · rintro ⟨t, ht⟩
    obtain ⟨t₁, r, s₁, t₂, -, hx, hpure⟩ := runs_bind.1 ht
    obtain ⟨-, hr, rfl⟩ := runs_pure.1 hpure
    cases r with
    | error e => cases hr
    | ok b => exact ⟨t₁, by rwa [Except.ok.inj hr]⟩
  · rintro ⟨t, ht⟩
    exact ⟨t ++ [], runs_bind.2 ⟨t, .ok a, s', [], rfl, ht, .pure _ _⟩⟩

/-- A loop whose body leaves the state returns one value for each element. -/
theorem answers_mapM {f : α → Task S ε β} {s : σ}
    (hf : ∀ a b s', Answers M (f a) s b s' → s' = s) {l : List α} {r : List β} {s' : σ} :
    Answers M (l.mapM f) s r s' ↔
      s' = s ∧ List.Forall₂ (fun a b => Answers M (f a) s b s) l r := by
  induction l generalizing r s' with
  | nil =>
      rw [List.mapM_nil, answers_pure, List.forall₂_nil_left_iff, and_comm]
  | cons a l ih =>
      rw [List.mapM_cons, answers_bind]
      constructor
      · rintro ⟨b, s₁, hb, hrest⟩
        obtain rfl := hf a b s₁ hb
        obtain ⟨bs, s₂, hbs, hpure⟩ := answers_bind.1 hrest
        obtain ⟨rfl, hall⟩ := ih.1 hbs
        obtain ⟨rfl, rfl⟩ := answers_pure.1 hpure
        exact ⟨rfl, .cons hb hall⟩
      · rintro ⟨rfl, hall⟩
        cases hall with
        | cons hb hbs =>
            refine ⟨_, s', hb, answers_bind.2 ⟨_, s', ih.2 ⟨rfl, hbs⟩, ?_⟩⟩
            exact answers_pure.2 ⟨rfl, rfl⟩

/-- A loop returns as soon as its body does for each element. -/
theorem exists_answers_mapM {f : α → Task S ε β} {s : σ} {l : List α}
    (h : ∀ a ∈ l, ∃ b, Answers M (f a) s b s) : ∃ r, Answers M (l.mapM f) s r s := by
  induction l with
  | nil => exact ⟨[], answers_pure.2 ⟨rfl, rfl⟩⟩
  | cons a l ih =>
      obtain ⟨b, hb⟩ := h a List.mem_cons_self
      obtain ⟨r, hr⟩ := ih fun a' ha' => h a' (List.mem_cons_of_mem a ha')
      refine ⟨b :: r, ?_⟩
      rw [List.mapM_cons]
      exact answers_bind.2 ⟨b, s, hb, answers_bind.2 ⟨r, s, hr, answers_pure.2 ⟨rfl, rfl⟩⟩⟩

end Effects
