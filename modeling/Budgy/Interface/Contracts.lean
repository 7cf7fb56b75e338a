import Budgy.Interface.Program
import Budgy.Interface.Traversal

/-!
# Contracts

A contract says what the requests of a run are assumed to be, which invariant of the state
is kept under this assumption, and which requests may be blamed for an error.  `Keeps` is the
contract of a program, `Meets` that of a task: an error it stops with is blamed on one of its
requests, or is one of those it may raise by itself.
-/

set_option autoImplicit false

namespace Effects

variable {S : Signature} {σ α β ε ε' : Type} {M : Machine S σ}

/-- What the requests of a machine are assumed to do, which of them explain an error, and what
they keep. -/
structure Contract (M : Machine S σ) where
  /-- What every request turns out to satisfy. -/
  assumes : Event M → Prop
  /-- The requests that explain an error. -/
  blames : Event M → Prop
  /-- What holds before and after. -/
  keeps : σ → Prop

variable {C : Contract M} {s s' : σ} {t : List (Event M)}

/-- The program keeps the invariant, and what it returns satisfies `Q`. -/
def Keeps (C : Contract M) (Q : α → Prop) (p : Prog S α) : Prop :=
  ∀ s, C.keeps s → Spec M p s fun t a s' =>
    (∀ e ∈ t, C.assumes e) → C.keeps s' ∧ Q a

/-- The outcome of a task: a value that satisfies `Q`, or an error that a request explains
or that `A` allows. -/
def Explained (C : Contract M) (A : ε → Prop) (Q : α → Prop) (t : List (Event M)) :
    Except ε α → Prop
  | .ok a => Q a
  | .error e => (∃ ev ∈ t, C.blames ev) ∨ A e

/-- From this state, the task keeps the invariant and its outcome is explained. -/
def MeetsFrom (C : Contract M) (A : ε → Prop) (R : α → σ → Prop) (x : Task S ε α) (s : σ) :
    Prop :=
  Spec M x.run s fun t r s' =>
    (∀ e ∈ t, C.assumes e) → C.keeps s' ∧ Explained C A (R · s') t r

/-- The task keeps the invariant, and its outcome is explained. -/
def Meets (C : Contract M) (A : ε → Prop) (Q : α → Prop) (x : Task S ε α) : Prop :=
  ∀ s, C.keeps s → MeetsFrom C A (fun a _ => Q a) x s

/-! ## Programs -/

/-- A program that returns keeps everything. -/
theorem keeps_pure {Q : α → Prop} {a : α} (h : Q a) : Keeps C Q (.pure a) := by
  intro s hs
  refine spec_pure.2 ?_
  intro _
  exact ⟨hs, h⟩

/-- Two programs in sequence keep what each keeps. -/
theorem Keeps.bind {Q : β → Prop} {R : α → Prop} {p : Prog S α} {f : α → Prog S β}
    (hp : Keeps C R p) (hf : ∀ a, R a → Keeps C Q (f a)) : Keeps C Q (p >>= f) := by
  intro s hs
  refine spec_bind.2 ?_
  intro t₁ a s₁ hrun₁ t₂ b s₂ hrun₂ hassumes
  have hfirst := hp s hs hrun₁ fun e he => hassumes e (by simp [he])
  exact hf a hfirst.2 s₁ hfirst.1 hrun₂ fun e he => hassumes e (by simp [he])

/-- A program whose requests all belong to a class that keeps the invariant. -/
theorem Keeps.of_uses {P : S.Op → Prop} {p : Prog S α} (hp : p.Uses P)
    (h : ∀ e : Event M, P e.op → C.assumes e → C.keeps e.before → C.keeps e.after) :
    Keeps C (fun _ => True) p := by
  intro s hs t a s' hrun hassumes
  have hkept := hrun.preserves hs fun e he hbefore =>
    h e (hrun.uses hp e he) (hassumes e he) hbefore
  exact ⟨hkept.1, trivial⟩

/-- A loop keeps what each of its turns keeps. -/
theorem Keeps.foldlM {f : α → β → Prog S α} {xs : List β} {a : α} {Q : α → Prop} (ha : Q a)
    (hf : ∀ a, ∀ x ∈ xs, Q a → Keeps C Q (f a x)) : Keeps C Q (xs.foldlM f a) := by
  induction xs generalizing a with
  | nil => exact keeps_pure ha
  | cons x xs ih =>
      rw [List.foldlM_cons]
      apply Keeps.bind (hf a x (by simp) ha)
      intro b hb
      exact ih hb fun c y hy => hf c y (by simp [hy])

/-! ## Tasks -/

section Tasks

variable {A : ε → Prop} {Q : α → Prop}

/-- Weaker conclusions on the value and on the errors. -/
theorem Explained.mono {A' : ε → Prop} {Q' : α → Prop} {r : Except ε α}
    (h : Explained C A Q t r) (hA : ∀ e, A e → A' e) (hQ : ∀ a, Q a → Q' a) :
    Explained C A' Q' t r := by
  cases r with
  | ok a => exact hQ a h
  | error e => exact h.imp id (hA e)

/-- A task that meets a contract meets a weaker one. -/
theorem Meets.mono {A' : ε → Prop} {Q' : α → Prop} {x : Task S ε α} (h : Meets C A Q x)
    (hA : ∀ e, A e → A' e) (hQ : ∀ a, Q a → Q' a) : Meets C A' Q' x := by
  intro s hs t r s' hrun hassumes
  have hmet := h s hs hrun hassumes
  exact ⟨hmet.1, hmet.2.mono hA hQ⟩

/-- Nothing is said of the value. -/
theorem Meets.forget {x : Task S ε α} (h : Meets C A Q x) : Meets C A (fun _ => True) x :=
  h.mono (fun _ => id) fun _ _ => trivial

/-- The same, for a conclusion on the state. -/
theorem MeetsFrom.mono {R R' : α → σ → Prop} {x : Task S ε α} (h : MeetsFrom C A R x s)
    (hR : ∀ a s', R a s' → R' a s') : MeetsFrom C A R' x s := by
  intro t r s' hrun hassumes
  have hmet := h hrun hassumes
  exact ⟨hmet.1, hmet.2.mono (fun _ => id) fun a => hR a s'⟩

/-- A task that returns at once meets the contract. -/
theorem meets_pure {a : α} (h : Q a) : Meets C A Q (pure a : Task S ε α) := by
  intro s hs
  refine spec_run_pure.2 ?_
  intro _
  exact ⟨hs, h⟩

/-- A task that fails at once meets the contract when its error is admitted. -/
theorem meets_throw {e : ε} (h : A e) : Meets C A Q (throw e : Task S ε α) := by
  intro s hs
  refine spec_run_throw.2 ?_
  intro _
  exact ⟨hs, .inr h⟩

/-- A computed outcome meets the contract when its value and its error do. -/
theorem meets_ofExcept {r : Except ε α} (hok : ∀ a, r = .ok a → Q a)
    (herror : ∀ e, r = .error e → A e) : Meets C A Q (Task.ofExcept r) := by
  cases r with
  | ok a => exact meets_pure (hok a rfl)
  | error e => exact meets_throw (herror e rfl)

/-- The blame of the first task is still a blame after the second. -/
theorem MeetsFrom.bind {R : α → σ → Prop} {R' : β → σ → Prop} {x : Task S ε α}
    {f : α → Task S ε β} (hx : MeetsFrom C A R x s)
    (hf : ∀ a s₁, C.keeps s₁ → R a s₁ → MeetsFrom C A R' (f a) s₁) :
    MeetsFrom C A R' (x >>= f) s := by
  refine spec_run_bind.2 ?_
  intro t₁ r s₁ hrun₁
  cases r with
  | error e => exact fun hassumes => hx hrun₁ hassumes
  | ok a =>
      intro t₂ b s₂ hrun₂ hassumes
      have hfirst := hx hrun₁ fun e he => hassumes e (by simp [he])
      have hlast := hf a s₁ hfirst.1 hfirst.2 hrun₂ fun e he => hassumes e (by simp [he])
      refine ⟨hlast.1, ?_⟩
      cases b with
      | ok b => exact hlast.2
      | error e =>
          apply hlast.2.imp _ id
          rintro ⟨ev, hev, hblamed⟩
          exact ⟨ev, by simp [hev], hblamed⟩

/-- Two tasks in sequence meet the contract that each meets. -/
theorem Meets.bind {Q' : β → Prop} {x : Task S ε α} {f : α → Task S ε β} (hx : Meets C A Q x)
    (hf : ∀ a, Q a → Meets C A Q' (f a)) : Meets C A Q' (x >>= f) := by
  intro s hs
  apply (hx s hs).bind
  intro a s₁ hs₁ ha
  exact hf a ha s₁ hs₁

/-- The errors that are admitted are read through their translation. -/
theorem MeetsFrom.mapError {R : α → σ → Prop} {f : ε → ε'} {A : ε' → Prop} {x : Task S ε α}
    (h : MeetsFrom C (fun e => A (f e)) R x s) : MeetsFrom C A R (x.mapError f) s := by
  refine spec_run_mapError.2 ?_
  intro t r s' hrun hassumes
  have hmet := h hrun hassumes
  cases r with
  | ok a => exact hmet
  | error e => exact hmet

/-- The same, without a condition on the state. -/
theorem Meets.mapError {f : ε → ε'} {A : ε' → Prop} {x : Task S ε α}
    (h : Meets C (fun e => A (f e)) Q x) : Meets C A Q (x.mapError f) :=
  fun s hs => (h s hs).mapError

/-- A program without errors meets the contract that it keeps. -/
theorem Keeps.ofProg {p : Prog S α} (h : Keeps C Q p) : Meets C A Q (Task.ofProg p) := by
  intro s hs
  refine spec_run_ofProg.2 ?_
  intro t a s' hrun hassumes
  exact h s hs hrun hassumes

/-- A task whose errors are ignored, or handled, keeps the invariant. -/
theorem Meets.keeps {x : Task S ε α} (h : Meets C A Q x) : Keeps C (fun _ => True) x.run := by
  intro s hs t r s' hrun hassumes
  exact ⟨(h s hs hrun hassumes).1, trivial⟩

/-- The value of a task, when its error is handled. -/
theorem Meets.keeps_ok {x : Task S ε α} (h : Meets C A Q x) :
    Keeps C (fun r => ∀ a, r = .ok a → Q a) x.run := by
  intro s hs t r s' hrun hassumes
  have hmet := h s hs hrun hassumes
  refine ⟨hmet.1, ?_⟩
  rintro a rfl
  exact hmet.2

/-- What follows a handled failure: the failure explains every later error. -/
theorem Meets.attempt_bind {R : β → Prop} {x : Task S ε α} {f : Except ε α → Task S ε' β}
    {A : ε' → Prop} (hx : Meets C (fun _ => False) Q x)
    (hok : ∀ a, Q a → Meets C A R (f (.ok a)))
    (herror : ∀ e, Meets C (fun _ => True) R (f (.error e))) :
    Meets C A R (Task.attempt x >>= f) := by
  intro s hs
  refine spec_run_bind.2 (spec_run_attempt.2 ?_)
  intro t₁ r s₁ hrun₁ t₂ b s₂ hrun₂ hassumes
  have hfirst := hx s hs hrun₁ fun e he => hassumes e (by simp [he])
  cases r with
  | ok a =>
      have hlast := hok a hfirst.2 s₁ hfirst.1 hrun₂ fun e he => hassumes e (by simp [he])
      refine ⟨hlast.1, ?_⟩
      cases b with
      | ok b => exact hlast.2
      | error e =>
          apply hlast.2.imp _ id
          rintro ⟨ev, hev, hblamed⟩
          exact ⟨ev, by simp [hev], hblamed⟩
  | error e =>
      have hlast := herror e s₁ hfirst.1 hrun₂ fun e he => hassumes e (by simp [he])
      refine ⟨hlast.1, ?_⟩
      cases b with
      | ok b => exact hlast.2
      | error e' =>
          obtain ⟨ev, hev, hblamed⟩ := hfirst.2.resolve_right id
          exact .inl ⟨ev, by simp [hev], hblamed⟩

/-- A traversal none of whose steps fails. -/
theorem meets_traverse {f : β → Except ε α} {xs : List β} (h : ∀ x ∈ xs, ∃ a, f x = .ok a) :
    Meets C A (fun _ => True) (Task.ofExcept (xs.mapM f)) := by
  apply meets_ofExcept
  · intro _ _
    trivial
  · intro e herror
    obtain ⟨x, hx, hfailed⟩ := Traversal.exists_error herror
    obtain ⟨a, ha⟩ := h x hx
    cases ha.symm.trans hfailed

/-- A loop meets the contract when each of its turns does. -/
theorem Meets.foldlM {f : β → α → Task S ε β} {xs : List α} {b : β} {Q : β → Prop} (hb : Q b)
    (hf : ∀ b, ∀ x ∈ xs, Q b → Meets C A Q (f b x)) : Meets C A Q (xs.foldlM f b) := by
  induction xs generalizing b with
  | nil => exact meets_pure hb
  | cons x xs ih =>
      rw [List.foldlM_cons]
      apply Meets.bind (hf b x (by simp) hb)
      intro c hc
      exact ih hc fun d y hy => hf d y (by simp [hy])

/-- A traversal without a result meets the contract when each of its turns does. -/
theorem Meets.forM {f : α → Task S ε PUnit} {xs : List α}
    (hf : ∀ x ∈ xs, Meets C A (fun _ => True) (f x)) :
    Meets C A (fun _ => True) (xs.forM f) := by
  induction xs with
  | nil => exact meets_pure trivial
  | cons x xs ih =>
      apply Meets.bind (hf x (by simp))
      intro _ _
      exact ih fun y hy => hf y (by simp [hy])

/-- A traversal meets the contract when each of its turns does. -/
theorem Meets.mapM {f : α → Task S ε β} {xs : List α}
    (hf : ∀ x ∈ xs, Meets C A (fun _ => True) (f x)) :
    Meets C A (fun _ => True) (xs.mapM f) := by
  induction xs with
  | nil => exact meets_pure trivial
  | cons x xs ih =>
      rw [List.mapM_cons]
      apply Meets.bind (hf x (by simp))
      intro _ _
      apply Meets.bind (ih fun y hy => hf y (by simp [hy]))
      intro _ _
      exact meets_pure trivial

end Tasks

end Effects
