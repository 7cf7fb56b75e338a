import Budgy.Interface.Program

/-!
# A program that reads, run in two states

A program that only reads is compared with itself: against the same choices, two states
that answer its requests alike make it return the same value.  The rules are those of the
language; what the answers have in common is carried from one request to the next.
-/

set_option autoImplicit false

namespace Effects

variable {S : Signature} {σ α β ε ε' : Type} {M : Machine S σ} {s s' : σ}

/-- Against the same choices, the requests of the program are answered alike in `s` and in
`s'`, which they leave, and what it returns satisfies `Q`. -/
def Alike (M : Machine S σ) (s s' : σ) : Prog S α → (α → Prop) → Prop
  | .pure a, Q => Q a
  | .op o k, Q => ∀ c, ∃ r, M.step o c s = (r, s) ∧ M.step o c s' = (r, s') ∧
      Alike M s s' (k r) Q

/-- A leaf gives the same value twice. -/
@[simp]
theorem alike_pure {a : α} {Q : α → Prop} : Alike M s s' (.pure a) Q ↔ Q a := Iff.rfl

/-- A request that both states answer alike, and that changes neither. -/
theorem alike_perform {o : S.Op} {Q : S.Reply o → Prop} :
    Alike M s s' (Prog.perform o) Q ↔
      ∀ c, ∃ r, M.step o c s = (r, s) ∧ M.step o c s' = (r, s') ∧ Q r := Iff.rfl

/-- The two runs end alike. -/
theorem Alike.run {p : Prog S α} {Q : α → Prop} (h : Alike M s s' p Q)
    (ω : ℕ → (o : S.Op) → M.Choice o) (n : ℕ) :
    (run M ω p n s).value = (run M ω p n s').value ∧ Q (run M ω p n s).value := by
  induction p generalizing n with
  | pure a => exact ⟨rfl, h⟩
  | op o k ih =>
      obtain ⟨r, hs, hs', hk⟩ := h (ω n o)
      have hnext := ih r hk (n + 1)
      simpa only [Effects.run, hs, hs'] using hnext

/-- Two programs in sequence are alike when each is. -/
theorem Alike.bind {p : Prog S α} {f : α → Prog S β} {R : α → Prop} {Q : β → Prop}
    (hp : Alike M s s' p R) (hf : ∀ a, R a → Alike M s s' (f a) Q) :
    Alike M s s' (p >>= f) Q := by
  induction p with
  | pure a => exact hf a hp
  | op o k ih =>
      intro c
      obtain ⟨r, hs, hs', hk⟩ := hp c
      exact ⟨r, hs, hs', ih r hk⟩

/-! ## Tasks -/

/-- What the task returns, when it does. -/
def IfOk (Q : α → Prop) (r : Except ε α) : Prop := ∀ a, r = .ok a → Q a

/-- The conclusion on a value. -/
theorem ifOk_ok {Q : α → Prop} {a : α} (h : Q a) : IfOk Q (.ok a : Except ε α) :=
  fun _ ha => Except.ok.inj ha ▸ h

/-- Nothing is concluded of an error. -/
theorem ifOk_error {Q : α → Prop} {e : ε} : IfOk Q (.error e : Except ε α) := nofun

/-- A task goes on only with a value. -/
theorem Alike.run_bind {x : Task S ε α} {f : α → Task S ε β} {R : α → Prop} {Q : β → Prop}
    (hx : Alike M s s' x.run (IfOk R)) (hf : ∀ a, R a → Alike M s s' (f a).run (IfOk Q)) :
    Alike M s s' (x >>= f).run (IfOk Q) := by
  rw [ExceptT.run_bind]
  refine hx.bind ?_
  rintro (e | a) ha
  · exact ifOk_error
  · exact hf a (ha a rfl)

/-- A task that returns at once. -/
theorem alike_run_pure {a : α} {Q : α → Prop} (h : Q a) :
    Alike M s s' (pure a : Task S ε α).run (IfOk Q) := ifOk_ok h

/-- A task that fails at once. -/
theorem alike_run_throw {e : ε} {Q : α → Prop} :
    Alike M s s' (throw e : Task S ε α).run (IfOk Q) := ifOk_error

/-- A computed outcome. -/
theorem alike_run_ofExcept {r : Except ε α} {Q : α → Prop} (h : ∀ a, r = .ok a → Q a) :
    Alike M s s' (Task.ofExcept r : Task S ε α).run (IfOk Q) := h

/-- The translation of the errors does not tell the states apart. -/
theorem Alike.run_mapError {f : ε → ε'} {x : Task S ε α} {Q : α → Prop}
    (hx : Alike M s s' x.run (IfOk Q)) : Alike M s s' (x.mapError f).run (IfOk Q) := by
  rw [Task.run_mapError]
  refine hx.bind ?_
  rintro (e | a) ha
  · exact ifOk_error
  · exact ifOk_ok (ha a rfl)

/-- A loop over a list, whose elements are known to satisfy `P`. -/
theorem Alike.run_mapM {f : α → Task S ε β} {P : α → Prop} {xs : List α}
    (hxs : ∀ x ∈ xs, P x) (hf : ∀ x, P x → Alike M s s' (f x).run (IfOk fun _ => True)) :
    Alike M s s' (xs.mapM f).run (IfOk fun _ => True) := by
  induction xs with
  | nil => exact alike_run_pure trivial
  | cons x xs ih =>
      rw [List.mapM_cons]
      refine Alike.run_bind (hf x (hxs x List.mem_cons_self)) fun b _ => ?_
      refine Alike.run_bind (ih fun y hy => hxs y (List.mem_cons_of_mem x hy)) fun bs _ => ?_
      exact alike_run_pure trivial

/-- A program without errors, as a task. -/
theorem Alike.run_ofProg {p : Prog S α} {Q : α → Prop} (hp : Alike M s s' p Q) :
    Alike M s s' (Task.ofProg p : Task S ε α).run (IfOk Q) := by
  rw [Task.run_ofProg]
  exact hp.bind fun _ ha => ifOk_ok ha

-- a goal about two runs is reasoned on, not evaluated
attribute [irreducible] Alike

end Effects
