import Budgy.Interface.Program

/-!
# Runs under an assumption on their requests

`Under M E p s Q` says what `p` returns from `s` when every request it issues turns
out to satisfy `E`: that none fails, that the outside world answers in a given way.
`Returns` is the post-condition of a task that does not stop with an error.
-/

set_option autoImplicit false

namespace Effects

variable {S : Signature} {σ α β ε ε' : Type} {M : Machine S σ} {E : Event M → Prop} {s : σ}

/-- In the runs of `p` from `s` whose requests all satisfy `E`, what it returns
satisfies `Q`. -/
def Under (M : Machine S σ) (E : Event M → Prop) (p : Prog S α) (s : σ) (Q : α → σ → Prop) :
    Prop :=
  Spec M p s fun t a s' => (∀ e ∈ t, E e) → Q a s'

/-- A weaker conclusion holds under the same assumption. -/
theorem Under.mono {p : Prog S α} {Q Q' : α → σ → Prop} (h : Under M E p s Q)
    (hQ : ∀ a s', Q a s' → Q' a s') : Under M E p s Q' :=
  Spec.mono h fun _ _ _ hQ' hE => hQ _ _ (hQ' hE)

/-- When every request can be answered under the assumption, so can a program, to its end. -/
theorem exists_runs_under (hE : ∀ (s : σ) (o : S.Op), ∃ c, E ⟨s, o, c⟩) (p : Prog S α) (s : σ) :
    ∃ t a s', Runs M p s t a s' ∧ ∀ e ∈ t, E e := by
  induction p generalizing s with
  | pure a => exact ⟨[], a, s, .pure a s, by simp⟩
  | op o k ih =>
      obtain ⟨c, hc⟩ := hE s o
      obtain ⟨t, a, s', hrun, ht⟩ := ih (M.step o c s).1 (M.step o c s).2
      refine ⟨_, a, s', .op o k c s hrun, fun e he => ?_⟩
      rcases List.mem_cons.1 he with rfl | he
      · exact hc
      · exact ht e he

/-- A program whose requests all belong to a class that the assumption decides. -/
theorem Under.of_uses {P : S.Op → Prop} {p : Prog S α} {Q : α → σ → Prop} {G : Event M → Prop}
    (hp : p.Uses P) (hG : ∀ e : Event M, P e.op → E e → G e) (h : Under M G p s Q) :
    Under M E p s Q :=
  fun _ _ _ hrun hE => h hrun fun e he => hG e (hrun.uses hp e he) (hE e he)

/-- A program that returns makes no request to assume anything of. -/
@[simp]
theorem under_pure {a : α} {Q : α → σ → Prop} : Under M E (.pure a) s Q ↔ Q a s := by
  simp [Under]

/-- A request, under the assumption on its event. -/
theorem under_perform {o : S.Op} {Q : S.Reply o → σ → Prop} :
    Under M E (Prog.perform o) s Q ↔
      ∀ c, E ⟨s, o, c⟩ → Q (M.step o c s).1 (M.step o c s).2 := by
  simp [Under, spec_perform]

/-- The conclusion on the first program is the assumption on the state of the second. -/
theorem Under.bind {p : Prog S α} {f : α → Prog S β} {R : α → σ → Prop} {Q : β → σ → Prop}
    (hp : Under M E p s R) (hf : ∀ a s', R a s' → Under M E (f a) s' Q) :
    Under M E (p >>= f) s Q := by
  refine spec_bind.2 (Spec.mono hp ?_)
  intro t₁ a s₁ hR t₂ b s₂ hrun hE
  exact hf a s₁ (hR fun e he => hE e (List.mem_append_left _ he)) hrun
    fun e he => hE e (List.mem_append_right _ he)

/-- A loop that keeps an invariant of what it has gone through and of what it computes. -/
theorem Under.foldlM {f : α → β → Prog S α} {xs : List β} {a : α} {I : List β → α → σ → Prop}
    (hs : I [] a s)
    (hf : ∀ past x rest a s, xs = past ++ x :: rest → I past a s →
      Under M E (f a x) s fun a' s' => I (past ++ [x]) a' s') :
    Under M E (xs.foldlM f a) s fun a' s' => I xs a' s' := by
  suffices h : ∀ (rest past : List β) (a : α) (s : σ), xs = past ++ rest → I past a s →
      Under M E (rest.foldlM f a) s fun a' s' => I xs a' s' from h xs [] a s rfl hs
  intro rest
  induction rest with
  | nil =>
      intro past a s hxs hs
      refine under_pure.2 ?_
      rwa [hxs, List.append_nil]
  | cons x rest ih =>
      intro past a s hxs hs
      rw [List.foldlM_cons]
      refine Under.bind (hf past x rest a s hxs hs) fun a' s' hs' => ?_
      exact ih (past ++ [x]) a' s' (by simp [hxs]) hs'

/-- A task goes on only with a value; an error ends it. -/
theorem Under.run_bind {x : Task S ε α} {f : α → Task S ε β} {R : Except ε α → σ → Prop}
    {Q : Except ε β → σ → Prop} (hx : Under M E x.run s R)
    (hok : ∀ a s', R (.ok a) s' → Under M E (f a).run s' Q)
    (herror : ∀ e s', R (.error e) s' → Q (.error e) s') : Under M E (x >>= f).run s Q := by
  rw [ExceptT.run_bind]
  refine Under.bind hx ?_
  rintro (e | a) s' hR
  · exact under_pure.2 (herror e s' hR)
  · exact hok a s' hR

/-- The conclusion is read through the translation of the errors. -/
theorem Under.run_mapError {f : ε → ε'} {x : Task S ε α} {Q : Except ε' α → σ → Prop}
    (hx : Under M E x.run s fun r s' => Q (r.mapError f) s') : Under M E (x.mapError f).run s Q :=
  hx.bind fun _ _ h => under_pure.2 h

/-- A program without errors, as a task. -/
theorem Under.run_ofProg {p : Prog S α} {Q : Except ε α → σ → Prop}
    (hp : Under M E p s fun a s' => Q (.ok a) s') :
    Under M E (Task.ofProg p : Task S ε α).run s Q := by
  rw [Task.run_ofProg]
  exact hp.bind fun _ _ h => under_pure.2 h

/-! ## Tasks that do not stop -/

/-- The task returns a value, and it satisfies `Q`. -/
def Returns (Q : α → σ → Prop) : Except ε α → σ → Prop
  | .ok a, s => Q a s
  | .error _, _ => False

/-- A value is returned when the conclusion holds of it. -/
@[simp]
theorem returns_ok {Q : α → σ → Prop} {a : α} : Returns Q (.ok a : Except ε α) s ↔ Q a s := Iff.rfl

/-- An error is never returned. -/
@[simp]
theorem returns_error {Q : α → σ → Prop} {e : ε} : Returns Q (.error e) s ↔ False := Iff.rfl

/-- A weaker conclusion on the value that is returned. -/
theorem Under.ret_mono {x : Task S ε α} {Q Q' : α → σ → Prop} (h : Under M E x.run s (Returns Q))
    (hQ : ∀ a s', Q a s' → Q' a s') : Under M E x.run s (Returns Q') := by
  refine h.mono ?_
  rintro (e | a) s' ha
  · exact ha
  · exact hQ a s' ha

/-- What follows a task that returns decides. -/
theorem Under.ret_bind {x : Task S ε α} {f : α → Task S ε β} {R : α → σ → Prop}
    {Q : Except ε β → σ → Prop} (hx : Under M E x.run s (Returns R))
    (hf : ∀ a s', R a s' → Under M E (f a).run s' Q) : Under M E (x >>= f).run s Q :=
  Under.run_bind hx hf fun _ _ h => h.elim

/-- A task that always returns does so whatever its errors would become. -/
theorem Under.ret_mapError {f : ε → ε'} {x : Task S ε α} {Q : α → σ → Prop}
    (hx : Under M E x.run s (Returns Q)) : Under M E (x.mapError f).run s (Returns Q) := by
  refine Under.run_mapError (hx.mono ?_)
  rintro (e | a) s' ha
  · exact ha
  · exact ha

/-- A task that always returns answers a value when its outcome is looked at. -/
theorem Under.ret_attempt {x : Task S ε α} {Q : α → σ → Prop}
    (hx : Under M E x.run s (Returns Q)) :
    Under M E (x.attempt : Task S ε' (Except ε α)).run s
      (Returns fun r s' => ∃ a, r = .ok a ∧ Q a s') := by
  refine Under.run_ofProg (hx.mono ?_)
  rintro (e | a) s' ha
  · exact ha.elim
  · exact ⟨a, rfl, ha⟩

/-- A loop that keeps an invariant of what it has gone through. -/
theorem Under.ret_forM {f : β → Task S ε PUnit} {xs : List β} {I : List β → σ → Prop}
    (hs : I [] s)
    (hf : ∀ past x rest s, xs = past ++ x :: rest → I past s →
      Under M E (f x).run s (Returns fun _ s' => I (past ++ [x]) s')) :
    Under M E (xs.forM f).run s (Returns fun _ s' => I xs s') := by
  suffices h : ∀ (rest past : List β) (s : σ), xs = past ++ rest → I past s →
      Under M E (rest.forM f).run s (Returns fun _ s' => I xs s') from h xs [] s rfl hs
  intro rest
  induction rest with
  | nil =>
      intro past s hxs hs
      refine under_pure.2 ?_
      rw [hxs, List.append_nil]
      exact hs
  | cons x rest ih =>
      intro past s hxs hs
      refine Under.ret_bind (hf past x rest s hxs hs) fun _ s' hs' => ?_
      exact ih (past ++ [x]) s' (by simp [hxs]) hs'

/-- A loop that computes, and keeps an invariant at each of its turns. -/
theorem Under.ret_foldlM {f : α → β → Task S ε α} {xs : List β} {a : α} {I : σ → Prop}
    (hs : I s)
    (hf : ∀ a, ∀ x ∈ xs, ∀ s, I s → Under M E (f a x).run s (Returns fun _ s' => I s')) :
    Under M E (xs.foldlM f a).run s (Returns fun _ s' => I s') := by
  induction xs generalizing a s with
  | nil => exact under_pure.2 hs
  | cons x xs ih =>
      refine Under.ret_bind (hf a x (by simp) s hs) ?_
      intro a' s' hs'
      exact ih hs' fun a y hy => hf a y (List.mem_cons_of_mem _ hy)

/-! ## Tasks that stop at their first failure -/

/-- A task returns when every request satisfied `E`; once one did not, it stops and leaves `I`. -/
def Stops (E : Event M → Prop) (Q : α → σ → Prop) (I : σ → Prop) (t : List (Event M)) :
    Except ε α → σ → Prop
  | .ok a, s => (∀ e ∈ t, E e) ∧ Q a s
  | .error _, s => (∀ e ∈ t, E e) ∨ I s

section Stops

variable {Q Q' : α → σ → Prop} {I : σ → Prop}

/-- A task that returns at once stops where the conclusion holds. -/
theorem spec_stops_pure {a : α} (h : Q a s) :
    Spec M (pure a : Task S ε α).run s fun t => Stops E Q I t :=
  spec_run_pure.2 ⟨by simp, h⟩

/-- An error stops the task without a condition. -/
theorem spec_stops_throw {e : ε} : Spec M (throw e : Task S ε α).run s fun t => Stops E Q I t :=
  spec_run_throw.2 (.inl (by simp))

/-- The translation of the errors does not change where the task stops. -/
theorem spec_stops_mapError {f : ε → ε'} {x : Task S ε α}
    (h : Spec M x.run s fun t => Stops E Q I t) :
    Spec M (x.mapError f).run s fun t => Stops E Q I t := by
  refine spec_run_mapError.2 (Spec.mono h ?_)
  rintro t (e | a) s' ha
  · exact ha
  · exact ha

/-- What follows runs only when nothing failed before. -/
theorem spec_stops_bind {x : Task S ε α} {f : α → Task S ε β} {R : α → σ → Prop}
    {Q : β → σ → Prop} (hx : Spec M x.run s fun t => Stops E R I t)
    (hf : ∀ a s', R a s' → Spec M (f a).run s' fun t => Stops E Q I t) :
    Spec M (x >>= f).run s fun t => Stops E Q I t := by
  refine spec_run_bind.2 (Spec.mono hx ?_)
  rintro t (e | a) s' ha
  · exact ha
  · obtain ⟨hfirst, hR⟩ := ha
    refine Spec.mono (hf a s' hR) ?_
    have hall : ∀ {t' : List (Event M)}, (∀ e ∈ t', E e) → ∀ e ∈ t ++ t', E e := by
      intro t' hnext e he
      rcases List.mem_append.1 he with he | he
      · exact hfirst e he
      · exact hnext e he
    rintro t' (e | b) s'' hb
    · exact hb.imp_left hall
    · exact ⟨hall hb.1, hb.2⟩

/-- A loop that keeps an invariant as long as nothing fails. -/
theorem spec_stops_forM {f : β → Task S ε PUnit} {xs : List β} {J : σ → Prop} (hs : J s)
    (hf : ∀ x s, J s → Spec M (f x).run s fun t => Stops E (fun _ s' => J s') I t) :
    Spec M (xs.forM f).run s fun t => Stops E (fun _ s' => J s') I t := by
  induction xs generalizing s with
  | nil => exact spec_stops_pure hs
  | cons x xs ih => exact spec_stops_bind (hf x s hs) fun _ s' hs' => ih hs'

end Stops

end Effects
