import Mathlib.Data.List.Basic
import Mathlib.Tactic.Common

/-!
# Programs that talk to a machine

A program is a tree: it either returns a value or issues one request and carries
on with the reply.  A machine answers a request from its state and from a
*choice* that the program does not control (a generated key, the order of the
rows, a failure).  The two notions used everywhere below are

* `Runs M p s t a s'`: from `s` the program can return `a` in state `s'`, and `t`
  lists the requests it issued on the way, each with the state it found;
* `Spec M p s Q`: every such run satisfies `Q`.

`run` executes a program against a fixed list of choices; `runs_run` says that
what it computes is one of the runs.
-/

set_option autoImplicit false

namespace Effects

/-- The requests of a family of programs, each with the type of its reply. -/
structure Signature where
  Op : Type
  Reply : Op → Type

/-- A program over a signature, as the tree of its requests. -/
inductive Prog (S : Signature) (α : Type) : Type where
  | pure (a : α) : Prog S α
  | op (o : S.Op) (k : S.Reply o → Prog S α) : Prog S α

variable {S : Signature} {σ α β ε ε' : Type}

namespace Prog

/-- Sequencing: the continuation is grafted at the leaves. -/
def bind (p : Prog S α) (f : α → Prog S β) : Prog S β :=
  match p with
  | .pure a => f a
  | .op o k => .op o fun r => (k r).bind f

instance : Monad (Prog S) where
  pure := .pure
  bind := Prog.bind

/-- The `pure` of the monad is the leaf. -/
@[simp]
theorem pure_def (a : α) : (Pure.pure a : Prog S α) = .pure a := rfl

/-- A leaf in front of a continuation is its value. -/
@[simp]
theorem pure_bind' (a : α) (f : α → Prog S β) : (Prog.pure a >>= f) = f a := rfl

/-- A request in front of a continuation is issued first. -/
@[simp]
theorem op_bind (o : S.Op) (k : S.Reply o → Prog S α) (f : α → Prog S β) :
    (Prog.op o k >>= f) = .op o fun r => k r >>= f := rfl

/-- Sequencing with the leaf changes nothing. -/
private theorem bind_pure' (p : Prog S α) : (p >>= fun a => Prog.pure a) = p := by
  induction p with
  | pure a => rfl
  | op o k ih =>
      rw [op_bind]
      congr 1
      funext r
      exact ih r

/-- Sequencing is associative. -/
private theorem bind_assoc' {γ : Type} (p : Prog S α) (f : α → Prog S β) (g : β → Prog S γ) :
    ((p >>= f) >>= g) = p >>= fun a => f a >>= g := by
  induction p with
  | pure a => rfl
  | op o k ih =>
      simp only [op_bind]
      congr 1
      funext r
      exact ih r

instance : LawfulMonad (Prog S) :=
  LawfulMonad.mk' (Prog S) (fun p => bind_pure' p) (fun _ _ => rfl)
    (fun p f g => bind_assoc' p f g)

/-- The program that issues one request and returns its reply. -/
def perform (o : S.Op) : Prog S (S.Reply o) :=
  .op o .pure

end Prog

/-- A task is a program that may stop with an error. -/
abbrev Task (S : Signature) (ε α : Type) : Type := ExceptT ε (Prog S) α

namespace Task

/-- A task that cannot fail. -/
def ofProg (p : Prog S α) : Task S ε α := ExceptT.lift p

/-- A task given by a program that returns either an error or a value. -/
def ofResult (p : Prog S (Except ε α)) : Task S ε α := ExceptT.mk p

/-- A value computed without any request. -/
def ofExcept (r : Except ε α) : Task S ε α := ExceptT.mk (Prog.pure r)

/-- The same task with its errors translated. -/
def mapError (f : ε → ε') (x : Task S ε α) : Task S ε' α :=
  ExceptT.mk (x.run >>= fun r => Prog.pure (r.mapError f))

/-- The outcome of a task as a value: the caller decides what to do of the error. -/
def attempt (x : Task S ε α) : Task S ε' (Except ε α) := ofProg x.run

/-- The outcome of a program without errors. -/
@[simp]
theorem run_ofProg (p : Prog S α) :
    (ofProg p : Task S ε α).run = p >>= fun a => Prog.pure (.ok a) := by
  simp [ofProg, ← bind_pure_comp]

/-- The outcome of a program that returns outcomes. -/
@[simp]
theorem run_ofResult (p : Prog S (Except ε α)) : (ofResult p : Task S ε α).run = p := rfl

/-- The outcome of a computed outcome. -/
@[simp]
theorem run_ofExcept (r : Except ε α) : (ofExcept r : Task S ε α).run = Prog.pure r := rfl

/-- The outcome of a task whose errors are translated. -/
@[simp]
theorem run_mapError (f : ε → ε') (x : Task S ε α) :
    (x.mapError f).run = x.run >>= fun r => Prog.pure (r.mapError f) := rfl

end Task

/-- A machine answers each request from its state and from a choice made
outside the program. -/
structure Machine (S : Signature) (σ : Type) where
  Choice : S.Op → Type
  step : (o : S.Op) → Choice o → σ → S.Reply o × σ

/-- One request of a run: the state it found and the choice that answered it. -/
structure Event (M : Machine S σ) where
  before : σ
  op : S.Op
  choice : M.Choice op

variable {M : Machine S σ}

/-- The reply the program received. -/
def Event.reply (e : Event M) : S.Reply e.op := (M.step e.op e.choice e.before).1

/-- The state the request left. -/
def Event.after (e : Event M) : σ := (M.step e.op e.choice e.before).2

/-- The reply of an event is that of the machine. -/
@[simp]
theorem Event.reply_mk (s : σ) (o : S.Op) (c : M.Choice o) :
    (⟨s, o, c⟩ : Event M).reply = (M.step o c s).1 := rfl

/-- The state after an event is that of the machine. -/
@[simp]
theorem Event.after_mk (s : σ) (o : S.Op) (c : M.Choice o) :
    (⟨s, o, c⟩ : Event M).after = (M.step o c s).2 := rfl

/-- `Runs M p s t a s'`: started in `s`, the program `p` can return `a` in state
`s'` after the requests `t`. -/
inductive Runs (M : Machine S σ) : Prog S α → σ → List (Event M) → α → σ → Prop where
  | pure (a : α) (s : σ) : Runs M (.pure a) s [] a s
  | op (o : S.Op) (k : S.Reply o → Prog S α) (c : M.Choice o) (s : σ) {t : List (Event M)}
      {a : α} {s' : σ} (rest : Runs M (k (M.step o c s).1) (M.step o c s).2 t a s') :
      Runs M (.op o k) s (⟨s, o, c⟩ :: t) a s'

/-- Every run of `p` from `s` satisfies `Q`. -/
def Spec (M : Machine S σ) (p : Prog S α) (s : σ) (Q : List (Event M) → α → σ → Prop) : Prop :=
  ∀ ⦃t a s'⦄, Runs M p s t a s' → Q t a s'

/-! ## Runs of the program constructors -/

/-- A leaf runs without a request. -/
@[simp]
theorem runs_pure {a b : α} {s s' : σ} {t : List (Event M)} :
    Runs M (.pure a) s t b s' ↔ t = [] ∧ b = a ∧ s' = s := by
  constructor
  · rintro ⟨⟩
    exact ⟨rfl, rfl, rfl⟩
  · rintro ⟨rfl, rfl, rfl⟩
    exact .pure _ _

/-- A request runs for each choice that answers it. -/
theorem runs_op {o : S.Op} {k : S.Reply o → Prog S α} {s s' : σ} {t : List (Event M)} {a : α} :
    Runs M (.op o k) s t a s' ↔
      ∃ c t', t = ⟨s, o, c⟩ :: t' ∧ Runs M (k (M.step o c s).1) (M.step o c s).2 t' a s' := by
  constructor
  · intro h
    cases h with
    | op _ _ c _ rest => exact ⟨c, _, rfl, rest⟩
  · rintro ⟨c, t', rfl, rest⟩
    exact .op o k c s rest

/-- A run of a sequence splits at the point where the first program returns. -/
theorem runs_bind {p : Prog S α} {f : α → Prog S β} {s s' : σ} {t : List (Event M)} {b : β} :
    Runs M (p >>= f) s t b s' ↔
      ∃ t₁ a s₁ t₂, t = t₁ ++ t₂ ∧ Runs M p s t₁ a s₁ ∧ Runs M (f a) s₁ t₂ b s' := by
  induction p generalizing s t with
  | pure a =>
      constructor
      · intro h
        exact ⟨[], a, s, t, rfl, .pure a s, h⟩
      · rintro ⟨t₁, a', s₁, t₂, rfl, h₁, h₂⟩
        obtain ⟨rfl, rfl, rfl⟩ := runs_pure.1 h₁
        exact h₂
  | op o k ih =>
      rw [Prog.op_bind, runs_op]
      constructor
      · rintro ⟨c, t', rfl, h⟩
        obtain ⟨t₁, a, s₁, t₂, rfl, h₁, h₂⟩ := (ih _).1 h
        exact ⟨_, a, s₁, t₂, rfl, .op o k c s h₁, h₂⟩
      · rintro ⟨t₁, a, s₁, t₂, rfl, h₁, h₂⟩
        obtain ⟨c, t', rfl, hk⟩ := runs_op.1 h₁
        exact ⟨c, t' ++ t₂, rfl, (ih _).2 ⟨t', a, s₁, t₂, rfl, hk, h₂⟩⟩

/-- The runs of a single request. -/
theorem runs_perform {o : S.Op} {s s' : σ} {t : List (Event M)} {r : S.Reply o} :
    Runs M (Prog.perform o) s t r s' ↔
      ∃ c, t = [⟨s, o, c⟩] ∧ r = (M.step o c s).1 ∧ s' = (M.step o c s).2 := by
  simp only [Prog.perform, runs_op, runs_pure]
  constructor
  · rintro ⟨c, t', rfl, rfl, rfl, rfl⟩
    exact ⟨c, rfl, rfl, rfl⟩
  · rintro ⟨c, rfl, rfl, rfl⟩
    exact ⟨c, [], rfl, rfl, rfl, rfl⟩

/-! ## Rules for specifications -/

/-- A weaker conclusion. -/
theorem Spec.mono {p : Prog S α} {s : σ} {Q R : List (Event M) → α → σ → Prop}
    (h : Spec M p s Q) (hQR : ∀ t a s', Q t a s' → R t a s') : Spec M p s R :=
  fun _ _ _ hr => hQR _ _ _ (h hr)

/-- Two conclusions on the same runs. -/
theorem Spec.and {p : Prog S α} {s : σ} {Q R : List (Event M) → α → σ → Prop}
    (hQ : Spec M p s Q) (hR : Spec M p s R) : Spec M p s fun t a s' => Q t a s' ∧ R t a s' :=
  fun _ _ _ hr => ⟨hQ hr, hR hr⟩

/-- A leaf is specified by its value. -/
@[simp]
theorem spec_pure {a : α} {s : σ} {Q : List (Event M) → α → σ → Prop} :
    Spec M (.pure a) s Q ↔ Q [] a s := by
  constructor
  · intro h
    exact h (.pure a s)
  · intro h t b s' hr
    obtain ⟨rfl, rfl, rfl⟩ := runs_pure.1 hr
    exact h

/-- The specification of the first program leads to that of the second. -/
theorem spec_bind {p : Prog S α} {f : α → Prog S β} {s : σ} {Q : List (Event M) → β → σ → Prop} :
    Spec M (p >>= f) s Q ↔
      Spec M p s fun t₁ a s₁ => Spec M (f a) s₁ fun t₂ b s₂ => Q (t₁ ++ t₂) b s₂ := by
  constructor
  · intro h t₁ a s₁ h₁ t₂ b s₂ h₂
    exact h (runs_bind.2 ⟨t₁, a, s₁, t₂, rfl, h₁, h₂⟩)
  · intro h t b s' hr
    obtain ⟨t₁, a, s₁, t₂, rfl, h₁, h₂⟩ := runs_bind.1 hr
    exact h h₁ h₂

/-- A request is specified for each choice that answers it. -/
theorem spec_op {o : S.Op} {k : S.Reply o → Prog S α} {s : σ}
    {Q : List (Event M) → α → σ → Prop} :
    Spec M (.op o k) s Q ↔
      ∀ c, Spec M (k (M.step o c s).1) (M.step o c s).2 fun t a s' => Q (⟨s, o, c⟩ :: t) a s' := by
  constructor
  · intro h c t a s' hr
    exact h (.op o k c s hr)
  · intro h t a s' hr
    obtain ⟨c, t', rfl, hk⟩ := runs_op.1 hr
    exact h c hk

/-- A single request is specified for each choice that answers it. -/
theorem spec_perform {o : S.Op} {s : σ} {Q : List (Event M) → S.Reply o → σ → Prop} :
    Spec M (Prog.perform o) s Q ↔ ∀ c, Q [⟨s, o, c⟩] (M.step o c s).1 (M.step o c s).2 := by
  simp [Prog.perform, spec_op]

/-- Sequencing of tasks: an error stops the run where it occurs. -/
theorem spec_run_bind {x : Task S ε α} {f : α → Task S ε β} {s : σ}
    {Q : List (Event M) → Except ε β → σ → Prop} :
    Spec M (x >>= f).run s Q ↔
      Spec M x.run s fun t₁ r s₁ =>
        match r with
        | .ok a => Spec M (f a).run s₁ fun t₂ b s₂ => Q (t₁ ++ t₂) b s₂
        | .error e => Q t₁ (.error e) s₁ := by
  rw [ExceptT.run_bind, spec_bind]
  constructor <;>
  · intro h t a s' hr
    have := h hr
    cases a <;> simpa using this

/-- A task that returns at once. -/
@[simp]
theorem spec_run_pure {a : α} {s : σ} {Q : List (Event M) → Except ε α → σ → Prop} :
    Spec M (pure a : Task S ε α).run s Q ↔ Q [] (.ok a) s := by
  simp

/-- A task that fails at once. -/
@[simp]
theorem spec_run_throw {e : ε} {s : σ} {Q : List (Event M) → Except ε α → σ → Prop} :
    Spec M (throw e : Task S ε α).run s Q ↔ Q [] (.error e) s := by
  simp

/-- Translating the errors of a task translates those of its runs. -/
theorem spec_run_mapError {f : ε → ε'} {x : Task S ε α} {s : σ}
    {Q : List (Event M) → Except ε' α → σ → Prop} :
    Spec M (x.mapError f).run s Q ↔ Spec M x.run s fun t r s' => Q t (r.mapError f) s' := by
  simp [spec_bind]

/-- A program without errors, as a task. -/
theorem spec_run_ofProg {p : Prog S α} {s : σ} {Q : List (Event M) → Except ε α → σ → Prop} :
    Spec M (Task.ofProg p : Task S ε α).run s Q ↔ Spec M p s fun t a s' => Q t (.ok a) s' := by
  simp [spec_bind]

/-- A task whose outcome is looked at. -/
theorem spec_run_attempt {x : Task S ε α} {s : σ}
    {Q : List (Event M) → Except ε' (Except ε α) → σ → Prop} :
    Spec M (x.attempt : Task S ε' (Except ε α)).run s Q ↔
      Spec M x.run s fun t r s' => Q t (.ok r) s' :=
  spec_run_ofProg

/-- A loop that may stop on the way: the invariant holds of what it went through, and
what it leaves out it leaves out for a reason. -/
theorem Spec.run_foldlM {f : α → β → Task S ε α} {xs : List β} {a : α} {s : σ}
    {I : List β → List (Event M) → σ → Prop} {E : List (Event M) → Prop} (hs : I [] [] s)
    (hf : ∀ past x rest a t s, xs = past ++ x :: rest → I past t s →
      Spec M (f a x).run s fun t' r s' =>
        I (past ++ [x]) (t ++ t') s' ∧ (r.isOk = false → E (t ++ t'))) :
    Spec M (xs.foldlM f a).run s fun t _ s' =>
      ∃ past rest, xs = past ++ rest ∧ I past t s' ∧ (rest = [] ∨ E t) := by
  suffices h : ∀ (rest past : List β) (a : α) (t : List (Event M)) (s : σ), xs = past ++ rest →
      I past t s → Spec M (rest.foldlM f a).run s fun t' _ s' =>
        ∃ past rest, xs = past ++ rest ∧ I past (t ++ t') s' ∧ (rest = [] ∨ E (t ++ t'))
    from h xs [] a [] s rfl hs
  intro rest
  induction rest with
  | nil =>
      intro past a t s hxs hs
      exact spec_run_pure.2 ⟨past, [], hxs, by rwa [List.append_nil], .inl rfl⟩
  | cons x rest ih =>
      intro past a t s hxs hs
      rw [List.foldlM_cons]
      refine spec_run_bind.2 (Spec.mono (hf past x rest a t s hxs hs) ?_)
      rintro t₁ (e | b) s₁ ⟨hs₁, hstop⟩
      · exact ⟨past ++ [x], rest, by simp [hxs], hs₁, .inr (hstop rfl)⟩
      · have hrest := ih (past ++ [x]) b (t ++ t₁) s₁ (by simp [hxs]) hs₁
        exact Spec.mono hrest fun t₂ r s₂ h => by rwa [List.append_assoc] at h

/-- A loop over a list keeps an invariant of what it went through and of what it computed. -/
theorem Spec.foldlM {f : α → β → Prog S α} {xs : List β} {a : α} {s : σ}
    {I : List β → α → List (Event M) → σ → Prop} (hs : I [] a [] s)
    (hf : ∀ past x rest a t s, xs = past ++ x :: rest → I past a t s →
      Spec M (f a x) s fun t' a' s' => I (past ++ [x]) a' (t ++ t') s') :
    Spec M (xs.foldlM f a) s fun t a' s' => I xs a' t s' := by
  suffices h : ∀ (rest past : List β) (a : α) (t : List (Event M)) (s : σ), xs = past ++ rest →
      I past a t s → Spec M (rest.foldlM f a) s fun t' a' s' => I xs a' (t ++ t') s'
    from h xs [] a [] s rfl hs
  intro rest
  induction rest with
  | nil =>
      intro past a t s hxs hs
      rw [List.foldlM_nil]
      refine spec_pure.2 ?_
      rw [List.append_nil] at hxs
      rwa [List.append_nil, hxs]
  | cons x rest ih =>
      intro past a t s hxs hs
      rw [List.foldlM_cons]
      refine spec_bind.2 (Spec.mono (hf past x rest a t s hxs hs) ?_)
      intro t₁ a₁ s₁ hs₁
      have hrest := ih (past ++ [x]) a₁ (t ++ t₁) s₁ (by simp [hxs]) hs₁
      exact Spec.mono hrest fun t₂ a₂ s₂ h => by rwa [List.append_assoc] at h

/-! ## The states along a run -/

/-- A property that every request of a run preserves holds wherever the run goes. -/
theorem Runs.preserves {I : σ → Prop} {p : Prog S α} {s s' : σ} {t : List (Event M)} {a : α}
    (h : Runs M p s t a s') (hs : I s) (hstep : ∀ e ∈ t, I e.before → I e.after) :
    I s' ∧ ∀ e ∈ t, I e.before ∧ I e.after := by
  induction h with
  | pure a s => exact ⟨hs, by simp⟩
  | op o k c s rest ih =>
      have hnext : I (M.step o c s).2 := hstep ⟨s, o, c⟩ (by simp) hs
      obtain ⟨hend, hall⟩ := ih hnext fun e he => hstep e (by simp [he])
      refine ⟨hend, ?_⟩
      intro e he
      rcases List.mem_cons.1 he with rfl | he
      · exact ⟨hs, hnext⟩
      · exact hall e he

/-- What holds after a request and is preserved from there holds at the end. -/
theorem Runs.preserves_from {I : σ → Prop} {p : Prog S α} {s s' : σ} {t₁ t₂ : List (Event M)}
    {e : Event M} {a : α} (h : Runs M p s (t₁ ++ e :: t₂) a s') (he : I e.after)
    (hstep : ∀ e ∈ t₂, I e.before → I e.after) : I s' := by
  induction t₁ generalizing p s with
  | nil =>
      cases h with
      | op o k c s rest => exact (rest.preserves he hstep).1
  | cons x t₁ ih =>
      cases h with
      | op o k c s rest => exact ih rest

/-- A relation that every request of a run establishes between the states around
it, when it is reflexive and transitive, relates the two ends of the run. -/
theorem Runs.related {R : σ → σ → Prop} (hrefl : ∀ s, R s s)
    (htrans : ∀ s₁ s₂ s₃, R s₁ s₂ → R s₂ s₃ → R s₁ s₃) {p : Prog S α} {s s' : σ}
    {t : List (Event M)} {a : α} (h : Runs M p s t a s')
    (hstep : ∀ e ∈ t, R e.before e.after) : R s s' := by
  induction h with
  | pure a s => exact hrefl s
  | op o k c s rest ih =>
      have hfirst : R s (M.step o c s).2 := hstep ⟨s, o, c⟩ (by simp)
      exact htrans _ _ _ hfirst (ih fun e he => hstep e (by simp [he]))

/-- The requests of a program all satisfy `P`, whatever the replies. -/
def Prog.Uses (P : S.Op → Prop) : Prog S α → Prop
  | .pure _ => True
  | .op o k => P o ∧ ∀ r, (k r).Uses P

namespace Prog

variable {P P' : S.Op → Prop}

/-- A leaf issues no request. -/
@[simp]
theorem uses_pure (a : α) : (Prog.pure a : Prog S α).Uses P := trivial

/-- A request, and those of every continuation. -/
theorem uses_op {o : S.Op} {k : S.Reply o → Prog S α} :
    (Prog.op o k).Uses P ↔ P o ∧ ∀ r, (k r).Uses P := Iff.rfl

/-- A single request. -/
theorem uses_perform {o : S.Op} (h : P o) : (perform o).Uses P :=
  ⟨h, fun _ => trivial⟩

/-- Every program issues requests. -/
theorem uses_true (p : Prog S α) : p.Uses fun _ => True := by
  induction p with
  | pure a => trivial
  | op o k ih => exact ⟨trivial, ih⟩

/-- The requests of two programs in sequence. -/
theorem Uses.bind {p : Prog S α} {f : α → Prog S β} (hp : p.Uses P) (hf : ∀ a, (f a).Uses P) :
    (p >>= f).Uses P := by
  induction p with
  | pure a => exact hf a
  | op o k ih => exact ⟨hp.1, fun r => ih r (hp.2 r)⟩

/-- A weaker condition on the requests. -/
theorem Uses.mono {p : Prog S α} (hp : p.Uses P) (h : ∀ o, P o → P' o) : p.Uses P' := by
  induction p with
  | pure a => trivial
  | op o k ih => exact ⟨h o hp.1, fun r => ih r (hp.2 r)⟩

/-- The requests of two tasks in sequence. -/
theorem Uses.run_bind {x : Task S ε α} {f : α → Task S ε β} (hx : x.run.Uses P)
    (hf : ∀ a, (f a).run.Uses P) : (x >>= f).run.Uses P := by
  rw [ExceptT.run_bind]
  refine hx.bind ?_
  rintro (e | a)
  · exact uses_pure _
  · exact hf a

/-- The translation of the errors issues nothing. -/
theorem Uses.run_mapError {f : ε → ε'} {x : Task S ε α} (hx : x.run.Uses P) :
    (x.mapError f).run.Uses P :=
  hx.bind fun _ => uses_pure _

/-- The requests of a program without errors, as a task. -/
theorem Uses.run_ofProg {p : Prog S α} (hp : p.Uses P) :
    (Task.ofProg p : Task S ε α).run.Uses P := by
  rw [Task.run_ofProg]
  exact hp.bind fun _ => uses_pure _

/-- Looking at an outcome issues nothing. -/
theorem Uses.run_attempt {x : Task S ε α} (hx : x.run.Uses P) :
    (x.attempt : Task S ε' (Except ε α)).run.Uses P :=
  Uses.run_ofProg hx

/-- The requests of a traversal. -/
theorem Uses.run_mapM {f : β → Task S ε α} {xs : List β}
    (hf : ∀ x ∈ xs, (f x).run.Uses P) : (xs.mapM f).run.Uses P := by
  induction xs with
  | nil => exact uses_pure _
  | cons x xs ih =>
      rw [List.mapM_cons]
      refine Uses.run_bind (hf x (by simp)) fun _ => ?_
      exact Uses.run_bind (ih fun y hy => hf y (by simp [hy])) fun _ => uses_pure _

/-- The requests of a traversal without a result. -/
theorem Uses.run_forM {f : β → Task S ε PUnit} {xs : List β}
    (hf : ∀ x ∈ xs, (f x).run.Uses P) : (xs.forM f).run.Uses P := by
  induction xs with
  | nil => exact uses_pure _
  | cons x xs ih =>
      exact Uses.run_bind (hf x (by simp)) fun _ => ih fun y hy => hf y (by simp [hy])

/-- The requests of a loop of tasks. -/
theorem Uses.run_foldlM {f : α → β → Task S ε α} {xs : List β}
    (hf : ∀ a, ∀ x ∈ xs, (f a x).run.Uses P) (a : α) : (xs.foldlM f a).run.Uses P := by
  induction xs generalizing a with
  | nil => exact uses_pure _
  | cons x xs ih =>
      rw [List.foldlM_cons]
      exact Uses.run_bind (hf a x (by simp)) fun b => ih (fun c y hy => hf c y (by simp [hy])) b

/-- The requests of a loop of programs. -/
theorem Uses.foldlM {f : α → β → Prog S α} {xs : List β} (hf : ∀ a, ∀ x ∈ xs, (f a x).Uses P)
    (a : α) : (xs.foldlM f a).Uses P := by
  induction xs generalizing a with
  | nil => exact uses_pure _
  | cons x xs ih =>
      rw [List.foldlM_cons]
      exact (hf a x (by simp)).bind fun b => ih (fun c y hy => hf c y (by simp [hy])) b

end Prog

/-- Every event of a run is one of the requests of the program. -/
theorem Runs.uses {P : S.Op → Prop} {p : Prog S α} {s s' : σ} {t : List (Event M)} {a : α}
    (h : Runs M p s t a s') (hp : p.Uses P) : ∀ e ∈ t, P e.op := by
  induction h with
  | pure a s => simp
  | op o k c s rest ih =>
      intro e he
      rcases List.mem_cons.1 he with rfl | he
      · exact hp.1
      · exact ih (hp.2 _) e he

/-! ## Guarded runs -/

/-- From `s`, every request that `p` issues satisfies `G`, and what it returns
satisfies `Q`. -/
def Guarded (M : Machine S σ) (G : Event M → Prop) (p : Prog S α) (s : σ)
    (Q : α → σ → Prop) : Prop :=
  Spec M p s fun t a s' => (∀ e ∈ t, G e) ∧ Q a s'

section Guarded

variable {G G' : Event M → Prop} {s : σ}

/-- A weaker conclusion. -/
theorem Guarded.mono {p : Prog S α} {Q Q' : α → σ → Prop} (h : Guarded M G p s Q)
    (hQ : ∀ a s', Q a s' → Q' a s') : Guarded M G p s Q' :=
  Spec.mono h fun _ _ _ ht => ⟨ht.1, hQ _ _ ht.2⟩

/-- A weaker condition on the events. -/
theorem Guarded.weaken {p : Prog S α} {Q : α → σ → Prop} (h : Guarded M G p s Q)
    (hG : ∀ e, G e → G' e) : Guarded M G' p s Q :=
  Spec.mono h fun _ _ _ ht => ⟨fun e he => hG e (ht.1 e he), ht.2⟩

/-- A leaf is guarded by its conclusion. -/
@[simp]
theorem guarded_pure {a : α} {Q : α → σ → Prop} : Guarded M G (.pure a) s Q ↔ Q a s := by
  simp [Guarded]

/-- A single request is guarded for each choice that answers it. -/
theorem guarded_perform {o : S.Op} {Q : S.Reply o → σ → Prop} :
    Guarded M G (Prog.perform o) s Q ↔
      ∀ c, G ⟨s, o, c⟩ ∧ Q (M.step o c s).1 (M.step o c s).2 := by
  simp [Guarded, spec_perform]

/-- The conclusion on the first program is what the second one starts from. -/
theorem Guarded.bind {p : Prog S α} {f : α → Prog S β} {R : α → σ → Prop} {Q : β → σ → Prop}
    (hp : Guarded M G p s R) (hf : ∀ a s', R a s' → Guarded M G (f a) s' Q) :
    Guarded M G (p >>= f) s Q := by
  refine spec_bind.2 (Spec.mono hp ?_)
  rintro t₁ a s₁ ⟨ht₁, hR⟩ t₂ b s₂ hrun
  obtain ⟨ht₂, hQ⟩ := hf a s₁ hR hrun
  refine ⟨?_, hQ⟩
  intro e he
  rcases List.mem_append.1 he with he | he
  · exact ht₁ e he
  · exact ht₂ e he

/-- Sequencing of guarded tasks: an error stops the run where it occurs. -/
theorem Guarded.run_bind {x : Task S ε α} {f : α → Task S ε β} {R : Except ε α → σ → Prop}
    {Q : Except ε β → σ → Prop} (hx : Guarded M G x.run s R)
    (hok : ∀ a s', R (.ok a) s' → Guarded M G (f a).run s' Q)
    (herror : ∀ e s', R (.error e) s' → Q (.error e) s') :
    Guarded M G (x >>= f).run s Q := by
  rw [ExceptT.run_bind]
  refine Guarded.bind hx ?_
  rintro (e | a) s' hR
  · exact guarded_pure.2 (herror e s' hR)
  · exact hok a s' hR

/-- A task that returns at once. -/
@[simp]
theorem guarded_run_pure {a : α} {Q : Except ε α → σ → Prop} :
    Guarded M G (pure a : Task S ε α).run s Q ↔ Q (.ok a) s := by
  simp

/-- A task that fails at once. -/
@[simp]
theorem guarded_run_throw {e : ε} {Q : Except ε α → σ → Prop} :
    Guarded M G (throw e : Task S ε α).run s Q ↔ Q (.error e) s := by
  simp

/-- The conclusion is read through the translation of the errors. -/
theorem Guarded.run_mapError {f : ε → ε'} {x : Task S ε α} {Q : Except ε' α → σ → Prop}
    (hx : Guarded M G x.run s fun r s' => Q (r.mapError f) s') :
    Guarded M G (x.mapError f).run s Q :=
  hx.bind fun _ _ h => guarded_pure.2 h

/-- A program without errors, as a task. -/
theorem Guarded.run_ofProg {p : Prog S α} {Q : Except ε α → σ → Prop}
    (hp : Guarded M G p s fun a s' => Q (.ok a) s') :
    Guarded M G (Task.ofProg p : Task S ε α).run s Q := by
  rw [Task.run_ofProg]
  exact hp.bind fun _ _ h => guarded_pure.2 h

/-- A task whose outcome is looked at. -/
theorem Guarded.run_attempt {x : Task S ε α} {Q : Except ε' (Except ε α) → σ → Prop}
    (hx : Guarded M G x.run s fun r s' => Q (.ok r) s') :
    Guarded M G (x.attempt : Task S ε' (Except ε α)).run s Q :=
  Guarded.run_ofProg hx

/-- A loop keeps an invariant that each of its turns keeps. -/
theorem Guarded.run_foldlM {f : α → β → Task S ε α} {xs : List β} {I : σ → Prop} {a : α}
    (hs : I s)
    (hf : ∀ a, ∀ x ∈ xs, ∀ s, I s → Guarded M G (f a x).run s fun _ s' => I s') :
    Guarded M G (xs.foldlM f a).run s fun _ s' => I s' := by
  induction xs generalizing a s with
  | nil => simpa using hs
  | cons x xs ih =>
      rw [List.foldlM_cons]
      refine Guarded.run_bind (hf a x (by simp) s hs) (fun b s' hs' => ?_) fun _ _ h => h
      exact ih hs' fun c y hy => hf c y (by simp [hy])

/-- A traversal keeps the invariant that each of its turns keeps. -/
theorem Guarded.run_forM {f : β → Task S ε PUnit} {xs : List β} {I : σ → Prop} (hs : I s)
    (hf : ∀ x ∈ xs, ∀ s, I s → Guarded M G (f x).run s fun _ s' => I s') :
    Guarded M G (xs.forM f).run s fun _ s' => I s' := by
  induction xs generalizing s with
  | nil => simpa using hs
  | cons x xs ih =>
      refine Guarded.run_bind (hf x (by simp) s hs) (fun b s' hs' => ?_) fun _ _ h => h
      exact ih hs' fun y hy => hf y (by simp [hy])

/-- The same, for a loop that cannot fail. -/
theorem Guarded.foldlM {f : α → β → Prog S α} {xs : List β} {I : σ → Prop} {a : α} (hs : I s)
    (hf : ∀ a, ∀ x ∈ xs, ∀ s, I s → Guarded M G (f a x) s fun _ s' => I s') :
    Guarded M G (xs.foldlM f a) s fun _ s' => I s' := by
  induction xs generalizing a s with
  | nil => simpa using hs
  | cons x xs ih =>
      rw [List.foldlM_cons]
      refine Guarded.bind (hf a x (by simp) s hs) fun b s' hs' => ?_
      exact ih hs' fun c y hy => hf c y (by simp [hy])

/-- A program whose requests all belong to a class that keeps an invariant and is
guarded under it. -/
theorem Guarded.of_uses {P : S.Op → Prop} {p : Prog S α} {I : σ → Prop} (hp : p.Uses P)
    (hs : I s) (hstep : ∀ e : Event M, P e.op → I e.before → G e ∧ I e.after) :
    Guarded M G p s fun _ s' => I s' := by
  induction p generalizing s with
  | pure a => simpa using hs
  | op o k ih =>
      refine Guarded.bind (p := .perform o) (R := fun _ s' => I s') ?_ ?_
      · exact guarded_perform.2 fun c => hstep ⟨s, o, c⟩ hp.1 hs
      · exact fun r s' hs' => ih r (hp.2 r) hs'

/-! ### Tasks that return a value -/

/-- What holds of the value of a task, when it returns one. -/
def OnOk (Q : α → σ → Prop) : Except ε α → σ → Prop
  | .ok a, s => Q a s
  | .error _, _ => True

/-- A value is concluded upon. -/
@[simp]
theorem onOk_ok {Q : α → σ → Prop} {a : α} : OnOk Q (.ok a : Except ε α) s ↔ Q a s := Iff.rfl

/-- Nothing is concluded of an error. -/
@[simp]
theorem onOk_error {Q : α → σ → Prop} {e : ε} : OnOk Q (.error e) s ↔ True := Iff.rfl

/-- A weaker conclusion on the value. -/
theorem Guarded.ok_mono {x : Task S ε α} {Q Q' : α → σ → Prop}
    (h : Guarded M G x.run s (OnOk Q)) (hQ : ∀ a s', Q a s' → Q' a s') :
    Guarded M G x.run s (OnOk Q') := by
  refine h.mono ?_
  rintro (e | a) s' ha
  · trivial
  · exact hQ a s' ha

/-- A conclusion on every value that is returned. -/
theorem Guarded.onOk {x : Task S ε α} {Q : α → σ → Prop}
    (h : Guarded M G x.run s fun r s' => ∀ a, r = .ok a → Q a s') :
    Guarded M G x.run s (OnOk Q) := by
  refine h.mono ?_
  rintro (e | a) s' ha
  · trivial
  · exact ha a rfl

/-- A task goes on only with a value, of which the conclusion holds. -/
theorem Guarded.ok_bind {x : Task S ε α} {f : α → Task S ε β} {R : α → σ → Prop}
    {Q : β → σ → Prop} (hx : Guarded M G x.run s (OnOk R))
    (hf : ∀ a s', R a s' → Guarded M G (f a).run s' (OnOk Q)) :
    Guarded M G (x >>= f).run s (OnOk Q) :=
  Guarded.run_bind hx hf fun _ _ _ => trivial

/-- The translation of the errors does not change the value. -/
theorem Guarded.ok_mapError {f : ε → ε'} {x : Task S ε α} {Q : α → σ → Prop}
    (hx : Guarded M G x.run s (OnOk Q)) : Guarded M G (x.mapError f).run s (OnOk Q) := by
  refine Guarded.run_mapError (hx.mono ?_)
  rintro (e | a) s' ha
  · trivial
  · exact ha

/-- A loop that establishes a property of each of its elements and keeps those of
the others. -/
theorem Guarded.ok_forM {f : β → Task S ε PUnit} {xs : List β} {P : β → σ → Prop}
    (hf : ∀ x ∈ xs, ∀ s, Guarded M G (f x).run s
      (OnOk fun _ s' => P x s' ∧ ∀ y, P y s → P y s')) :
    Guarded M G (xs.forM f).run s
      (OnOk fun _ s' => (∀ x ∈ xs, P x s') ∧ ∀ y, P y s → P y s') := by
  induction xs generalizing s with
  | nil => exact guarded_pure.2 ⟨by simp, fun _ h => h⟩
  | cons x xs ih =>
      refine Guarded.ok_bind (hf x (by simp) s) ?_
      rintro _ s₁ ⟨hx, hkeep⟩
      refine (ih fun y hy => hf y (by simp [hy])).ok_mono ?_
      rintro _ s₂ ⟨hxs, hkeep'⟩
      refine ⟨?_, fun y hy => hkeep' y (hkeep y hy)⟩
      intro y hy
      rcases List.mem_cons.1 hy with rfl | hy
      · exact hkeep' y hx
      · exact hxs y hy

end Guarded

/-! ## Tasks and the reasons they stop -/

/-- A task returns a value that satisfies `Q`, or it stops and `E` explains it. -/
def Ends (Q : α → σ → Prop) (E : Prop) : Except ε α → σ → Prop
  | .ok a, s => Q a s
  | .error _, _ => E

section Ends

variable {s : σ} {Q : α → σ → Prop} {E : Prop}

/-- A task that ends with a value. -/
@[simp]
theorem ends_ok {a : α} : Ends Q E (.ok a : Except ε α) s ↔ Q a s := Iff.rfl

/-- A task that ends with an error. -/
@[simp]
theorem ends_error {e : ε} : Ends Q E (.error e : Except ε α) s ↔ E := Iff.rfl

/-- Weaker conclusions on both ends. -/
theorem Ends.mono {Q' : α → σ → Prop} {E' : Prop} {r : Except ε α} (h : Ends Q E r s)
    (hQ : ∀ a, Q a s → Q' a s) (hE : E → E') : Ends Q' E' r s := by
  cases r with
  | ok a => exact hQ a h
  | error e => exact hE h

/-- A weaker reason to stop. -/
theorem spec_ends_of {x : Task S ε α} {Q : List (Event M) → α → σ → Prop}
    {E E' : List (Event M) → Prop} (h : Spec M x.run s fun t => Ends (Q t) (E t))
    (hE : ∀ t, E t → E' t) : Spec M x.run s fun t => Ends (Q t) (E' t) :=
  Spec.mono h fun t _ _ ht => ht.mono (fun _ ha => ha) (hE t)

/-- What a task returns, with the class of its requests. -/
theorem spec_ends_uses {x : Task S ε α} {Q : List (Event M) → α → σ → Prop}
    {E : List (Event M) → Prop} {P : S.Op → Prop} (h : Spec M x.run s fun t => Ends (Q t) (E t))
    (hx : x.run.Uses P) :
    Spec M x.run s fun t => Ends (fun a s' => (∀ e ∈ t, P e.op) ∧ Q t a s') (E t) :=
  fun _ _ _ hrun => (h hrun).mono (fun _ ha => ⟨hrun.uses hx, ha⟩) fun he => he

/-- Translating the errors of a task changes neither what it returns nor why it stops. -/
theorem spec_ends_mapError {f : ε → ε'} {x : Task S ε α} {Q : List (Event M) → α → σ → Prop}
    {E : List (Event M) → Prop} (h : Spec M x.run s fun t => Ends (Q t) (E t)) :
    Spec M (x.mapError f).run s fun t => Ends (Q t) (E t) := by
  refine spec_run_mapError.2 (Spec.mono h ?_)
  rintro t (e | a) s' ha
  · exact ha
  · exact ha

/-- Sequencing: the first task explains its own stop, and carries its trace into what
follows. -/
theorem spec_ends_bind {x : Task S ε α} {f : α → Task S ε β} {R : List (Event M) → α → σ → Prop}
    {Q : List (Event M) → β → σ → Prop} {E : List (Event M) → Prop}
    (hx : Spec M x.run s fun t => Ends (R t) (E t))
    (hf : ∀ t a s', R t a s' →
      Spec M (f a).run s' fun t' => Ends (Q (t ++ t')) (E (t ++ t'))) :
    Spec M (x >>= f).run s fun t => Ends (Q t) (E t) := by
  refine spec_run_bind.2 (Spec.mono hx ?_)
  rintro t (e | a) s' ha
  · exact ha
  · exact hf t a s' ha

/-- A loop that keeps an invariant of what it has gone through. -/
theorem spec_ends_foldlM {f : α → β → Task S ε α} {xs : List β} {a : α}
    {I : List β → List (Event M) → α → σ → Prop} {E : List (Event M) → Prop} (hs : I [] [] a s)
    (hf : ∀ past x rest t a s, xs = past ++ x :: rest → I past t a s →
      Spec M (f a x).run s fun t' => Ends (I (past ++ [x]) (t ++ t')) (E (t ++ t'))) :
    Spec M (xs.foldlM f a).run s fun t => Ends (I xs t) (E t) := by
  suffices h : ∀ (rest past : List β) (t : List (Event M)) (a : α) (s : σ), xs = past ++ rest →
      I past t a s → Spec M (rest.foldlM f a).run s fun t' => Ends (I xs (t ++ t')) (E (t ++ t'))
    from h xs [] [] a s rfl hs
  intro rest
  induction rest with
  | nil =>
      intro past t a s hxs hs
      have hall : I xs t a s := by rwa [hxs, List.append_nil]
      exact spec_run_pure.2 (by rwa [List.append_nil])
  | cons x rest ih =>
      intro past t a s hxs hs
      rw [List.foldlM_cons]
      refine spec_run_bind.2 (Spec.mono (hf past x rest t a s hxs hs) ?_)
      rintro t₁ (e | b) s₁ hturn
      · exact hturn
      · have hrest := ih (past ++ [x]) (t ++ t₁) b s₁ (by simp [hxs]) hturn
        exact Spec.mono hrest fun t₂ r s₂ h => by rwa [List.append_assoc] at h

end Ends

-- a goal about the requests of a program is reasoned on, not evaluated
attribute [irreducible] Prog.Uses

/-! ## Execution against given choices -/

/-- What an execution returns: the value, the final state, the requests made and
the index of the first choice not consumed. -/
structure Outcome (M : Machine S σ) (α : Type) where
  value : α
  state : σ
  trace : List (Event M)
  next : ℕ

/-- Execution of a program, the `n`-th request being answered by the `n`-th choice. -/
def run (M : Machine S σ) (ω : ℕ → (o : S.Op) → M.Choice o) : Prog S α → ℕ → σ → Outcome M α
  | .pure a, n, s => ⟨a, s, [], n⟩
  | .op o k, n, s =>
      let answer := M.step o (ω n o) s
      let rest := run M ω (k answer.1) (n + 1) answer.2
      ⟨rest.value, rest.state, ⟨s, o, ω n o⟩ :: rest.trace, rest.next⟩

variable {ω : ℕ → (o : S.Op) → M.Choice o}

/-- What `run` computes is a run. -/
theorem runs_run (ω : ℕ → (o : S.Op) → M.Choice o) (p : Prog S α) (n : ℕ) (s : σ) :
    Runs M p s (run M ω p n s).trace (run M ω p n s).value (run M ω p n s).state := by
  induction p generalizing n s with
  | pure a => exact .pure a s
  | op o k ih => exact .op o k (ω n o) s (ih _ _ _)

end Effects
