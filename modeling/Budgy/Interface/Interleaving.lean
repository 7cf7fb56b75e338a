import Mathlib.Logic.Function.Basic
import Budgy.Interface.Program

/-!
# Programs that run side by side

A pool is a family of programs that share one state.  An interleaving issues, one
after the other, requests of programs of the pool, in any order and to any point.

What a program does between two of its requests depends on its own replies alone.
So a property of each of its requests, given the requests it made before, is
established once, on the machine that answers anything and remembers everything
(`journal`), with the rules for sequential programs; `Interleaving.guarded` carries
it to every interleaving.
-/

set_option autoImplicit false

namespace Effects

variable {S : Signature} {σ α : Type} {M : Machine S σ}

/-! ## The machine that remembers -/

/-- A request with its reply. -/
abbrev Entry (S : Signature) : Type := Σ o : S.Op, S.Reply o

/-- Any reply may come; the state is the list of what was asked and answered. -/
def journal (S : Signature) : Machine S (List (Entry S)) where
  Choice := S.Reply
  step o r h := (r, h ++ [⟨o, r⟩])

/-- A request and its reply, without the state. -/
def Event.entry (e : Event M) : Entry S := ⟨e.op, e.reply⟩

/-- From any state a program can be answered to its end. -/
theorem exists_runs [∀ o, Nonempty (M.Choice o)] (p : Prog S α) (s : σ) :
    ∃ t a s', Runs M p s t a s' := by
  induction p generalizing s with
  | pure a => exact ⟨[], a, s, .pure a s⟩
  | op o k ih =>
      obtain ⟨c⟩ : Nonempty (M.Choice o) := inferInstance
      obtain ⟨t, a, s', h⟩ := ih (M.step o c s).1 (M.step o c s).2
      exact ⟨_, a, s', .op o k c s h⟩

/-- A guarded program issues its first request under its guard, and goes on guarded. -/
theorem guarded_op [∀ o, Nonempty (M.Choice o)] {G : Event M → Prop} {o : S.Op}
    {k : S.Reply o → Prog S α} {s : σ} {Q : α → σ → Prop} :
    Guarded M G (.op o k) s Q ↔
      ∀ c, G ⟨s, o, c⟩ ∧ Guarded M G (k (M.step o c s).1) (M.step o c s).2 Q := by
  constructor
  · intro h c
    refine ⟨?_, fun t a s' hr => ?_⟩
    · obtain ⟨t, a, s', hr⟩ := exists_runs (M := M) (k (M.step o c s).1) (M.step o c s).2
      exact (h (.op o k c s hr)).1 _ (by simp)
    · obtain ⟨hG, hQ⟩ := h (.op o k c s hr)
      exact ⟨fun e he => hG e (by simp [he]), hQ⟩
  · intro h t a s' hr
    obtain ⟨c, t', rfl, hk⟩ := runs_op.1 hr
    obtain ⟨hG, hQ⟩ := (h c).2 hk
    refine ⟨?_, hQ⟩
    intro e he
    rcases List.mem_cons.1 he with rfl | he
    · exact (h c).1
    · exact hG e he

/-! ## Interleavings -/

variable {ι : Type} [DecidableEq ι]

/-- `Interleaving M pool s l pool' s'`: from `s`, the programs of the pool issue the
requests `l`, each under the index of its program; `pool'` is what is left of them. -/
inductive Interleaving (M : Machine S σ) :
    (ι → Prog S α) → σ → List (ι × Event M) → (ι → Prog S α) → σ → Prop where
  | nil (pool : ι → Prog S α) (s : σ) : Interleaving M pool s [] pool s
  | cons (pool : ι → Prog S α) (s : σ) (i : ι) {o : S.Op} {k : S.Reply o → Prog S α}
      (hi : pool i = .op o k) (c : M.Choice o) {l : List (ι × Event M)} {pool' : ι → Prog S α}
      {s' : σ}
      (rest : Interleaving M (Function.update pool i (k (M.step o c s).1)) (M.step o c s).2 l
        pool' s') :
      Interleaving M pool s ((i, ⟨s, o, c⟩) :: l) pool' s'

/-- What one program of the pool asked and was answered. -/
def history (i : ι) (l : List (ι × Event M)) : List (Entry S) :=
  (l.filter fun x => x.1 = i).map fun x => x.2.entry

/-- The history of a program is made of its own events. -/
@[simp]
theorem mem_history {i : ι} {l : List (ι × Event M)} {x : Entry S} :
    x ∈ history i l ↔ ∃ e, (i, e) ∈ l ∧ e.entry = x := by
  simp only [history, List.mem_map, List.mem_filter, decide_eq_true_eq]
  constructor
  · rintro ⟨⟨j, e⟩, ⟨he, rfl⟩, rfl⟩
    exact ⟨e, he, rfl⟩
  · rintro ⟨e, he, rfl⟩
    exact ⟨(i, e), ⟨he, rfl⟩, rfl⟩

namespace Interleaving

variable {pool pool' : ι → Prog S α} {s s' : σ} {l l₁ l₂ : List (ι × Event M)}

/-- An interleaving splits at any of its requests. -/
theorem append_iff :
    Interleaving M pool s (l₁ ++ l₂) pool' s' ↔
      ∃ pool₁ s₁, Interleaving M pool s l₁ pool₁ s₁ ∧ Interleaving M pool₁ s₁ l₂ pool' s' := by
  constructor
  · intro h
    induction l₁ generalizing pool s with
    | nil => exact ⟨pool, s, .nil pool s, h⟩
    | cons x l₁ ih =>
        cases h with
        | cons _ _ i hi c rest =>
            obtain ⟨pool₁, s₁, h₁, h₂⟩ := ih rest
            exact ⟨pool₁, s₁, .cons pool s i hi c h₁, h₂⟩
  · rintro ⟨pool₁, s₁, h₁, h₂⟩
    induction h₁ with
    | nil pool s => exact h₂
    | cons pool s i hi c rest ih => exact .cons pool s i hi c (ih h₂)

/-- The state a request finds is the one that the requests before it left. -/
theorem cons_inv {x : ι × Event M} (h : Interleaving M pool s (x :: l) pool' s') :
    x.2.before = s ∧ ∃ pool₁, Interleaving M pool₁ x.2.after l pool' s' := by
  cases h with
  | cons _ _ i hi c rest => exact ⟨rfl, _, rest⟩

/-- A property that every request preserves holds wherever the interleaving goes. -/
theorem preserves {I : σ → Prop} (h : Interleaving M pool s l pool' s') (hs : I s)
    (hstep : ∀ x ∈ l, I x.2.before → I x.2.after) : I s' := by
  induction h with
  | nil pool s => exact hs
  | cons pool s i hi c rest ih =>
      exact ih (hstep (i, ⟨s, _, c⟩) (by simp) hs) fun x hx => hstep x (by simp [hx])

/-- It holds around every request as well. -/
theorem preserves_events {I : σ → Prop} (h : Interleaving M pool s l pool' s') (hs : I s)
    (hstep : ∀ x ∈ l, I x.2.before → I x.2.after) :
    ∀ x ∈ l, I x.2.before ∧ I x.2.after := by
  induction h with
  | nil pool s => simp
  | cons pool s i hi c rest ih =>
      have hnext := hstep (i, ⟨s, _, c⟩) (by simp) hs
      intro x hx
      rcases List.mem_cons.1 hx with rfl | hx
      · exact ⟨hs, hnext⟩
      · exact ih hnext (fun x hx => hstep x (by simp [hx])) x hx

/-- A relation between the requests made so far and the state they left, which every
request preserves, holds at the end. -/
theorem follows {R : List (ι × Event M) → σ → Prop} (h : Interleaving M pool s l pool' s')
    {past : List (ι × Event M)} (hs : R past s)
    (hstep : ∀ l₁ x l₂, l = l₁ ++ x :: l₂ → R (past ++ l₁) x.2.before →
      R (past ++ l₁ ++ [x]) x.2.after) : R (past ++ l) s' := by
  induction h generalizing past with
  | nil pool s => simpa using hs
  | cons pool s i hi c rest ih =>
      have hfirst := hstep [] _ _ rfl (by simpa using hs)
      have hlast := @ih (past ++ [(i, ⟨s, _, c⟩)]) (by simpa using hfirst) ?_
      · simpa using hlast
      · intro l₁ x l₂ hl hx
        simpa using hstep ((i, ⟨s, _, c⟩) :: l₁) x l₂ (by rw [hl]; rfl) (by simpa using hx)

/-- A request of an interleaving is one that its program may issue. -/
theorem uses {P : ι → S.Op → Prop} (h : Interleaving M pool s l pool' s')
    (hP : ∀ i, (pool i).Uses (P i)) : ∀ x ∈ l, P x.1 x.2.op := by
  induction h with
  | nil pool s => simp
  | cons pool s i hi c rest ih =>
      obtain ⟨hfirst, hnext⟩ := Prog.uses_op.1 (hi ▸ hP i)
      intro x hx
      rcases List.mem_cons.1 hx with rfl | hx
      · exact hfirst
      · refine ih (fun j => ?_) x hx
        by_cases hij : j = i
        · subst hij
          rw [Function.update_self]
          exact hnext _
        · rw [Function.update_of_ne hij]
          exact hP j

/-- What lies between two requests of an interleaving is an interleaving. -/
theorem between {x y : ι × Event M} {l₃ : List (ι × Event M)}
    (h : Interleaving M pool s (l₁ ++ x :: (l₂ ++ y :: l₃)) pool' s') :
    ∃ pool₁ pool₂ : ι → Prog S α, Interleaving M pool₁ x.2.after l₂ pool₂ y.2.before := by
  obtain ⟨pool₀, s₀, -, hnext⟩ := append_iff.1 h
  obtain ⟨-, pool₁, hnext⟩ := hnext.cons_inv
  obtain ⟨pool₂, s₂, hbetween, hlast⟩ := append_iff.1 hnext
  rw [hlast.cons_inv.1]
  exact ⟨pool₁, pool₂, hbetween⟩

/-- What holds after a request and is preserved from there holds before a later one. -/
theorem preserves_between {I : σ → Prop} {x y : ι × Event M} {l₃ : List (ι × Event M)}
    (h : Interleaving M pool s (l₁ ++ x :: (l₂ ++ y :: l₃)) pool' s') (hx : I x.2.after)
    (hstep : ∀ z ∈ l₂, I z.2.before → I z.2.after) : I y.2.before := by
  obtain ⟨pool₁, pool₂, hbetween⟩ := h.between
  exact hbetween.preserves hx hstep

/-- What holds at the end has held since the start, or since a request that brought it
about. -/
theorem last_change {I : σ → Prop} (h : Interleaving M pool s l pool' s') (hend : I s') :
    (I s ∧ ∀ x ∈ l, I x.2.after) ∨
      ∃ l₁ x l₂, l = l₁ ++ x :: l₂ ∧ ¬ I x.2.before ∧ I x.2.after ∧ ∀ y ∈ l₂, I y.2.after := by
  induction h with
  | nil pool s => exact .inl ⟨hend, by simp⟩
  | cons pool s i hi c rest ih =>
      rename_i o k l pool' s'
      rcases ih hend with ⟨hfirst, hrest⟩ | ⟨l₁, x, l₂, rfl, hx⟩
      · by_cases hs : I s
        · exact .inl ⟨hs, List.forall_mem_cons.2 ⟨hfirst, hrest⟩⟩
        · exact .inr ⟨[], (i, ⟨s, o, c⟩), l, rfl, hs, hfirst, hrest⟩
      · exact .inr ⟨(i, ⟨s, o, c⟩) :: l₁, x, l₂, rfl, hx⟩

/-- What holds after a request and is preserved from there holds at the end. -/
theorem preserves_from {I : σ → Prop} {x : ι × Event M}
    (h : Interleaving M pool s (l₁ ++ x :: l₂) pool' s') (hx : I x.2.after)
    (hstep : ∀ z ∈ l₂, I z.2.before → I z.2.after) : I s' := by
  obtain ⟨pool₀, s₀, -, hnext⟩ := append_iff.1 h
  obtain ⟨-, pool₁, hnext⟩ := hnext.cons_inv
  exact hnext.preserves hx hstep

/-- When some requests bring a property about and others put an end to it, it holds at the end
exactly when a request brought it about and none put an end to it since. -/
theorem holds_iff {I : σ → Prop} {begins ends : ι × Event M → Prop}
    (h : Interleaving M pool s l pool' s') (hs : ¬ I s)
    (hbegins : ∀ x ∈ l, begins x → I x.2.after)
    (hchange : ∀ x ∈ l, ¬ I x.2.before → I x.2.after → begins x)
    (hends : ∀ x ∈ l, ends x → ¬ I x.2.after)
    (hkeeps : ∀ x ∈ l, ¬ ends x → I x.2.before → I x.2.after) :
    I s' ↔ ∃ l₁ x l₂, l = l₁ ++ x :: l₂ ∧ begins x ∧ ∀ y ∈ l₂, ¬ ends y := by
  constructor
  · intro hlast
    rcases h.last_change hlast with ⟨hfirst, -⟩ | ⟨l₁, x, l₂, rfl, hbefore, hafter, hsince⟩
    · exact absurd hfirst hs
    · exact ⟨l₁, x, l₂, rfl, hchange x (by simp) hbefore hafter,
        fun y hy hend => hends y (by simp [hy]) hend (hsince y hy)⟩
  · rintro ⟨l₁, x, l₂, rfl, hx, hsince⟩
    exact h.preserves_from (hbegins x (by simp) hx) fun y hy =>
      hkeeps y (by simp [hy]) (hsince y hy)

/-- What an interleaving leaves of a guarded program is guarded, given what the
program asked and was answered. -/
theorem rest [∀ o, Nonempty (S.Reply o)] {G : ι → Event (journal S) → Prop}
    {Q : ι → α → List (Entry S) → Prop} (h : Interleaving M pool s l pool' s')
    {past : ι → List (Entry S)} (hG : ∀ i, Guarded (journal S) (G i) (pool i) (past i) (Q i))
    (i : ι) : Guarded (journal S) (G i) (pool' i) (past i ++ history i l) (Q i) := by
  have : ∀ o, Nonempty ((journal S).Choice o) := fun o => inferInstanceAs (Nonempty (S.Reply o))
  induction h generalizing past with
  | nil pool s => simpa [history] using hG i
  | cons pool s j hj c rest ih =>
      rename_i o k l pool' s'
      have hguard := hG j
      rw [hj, guarded_op] at hguard
      have hnext := @ih (Function.update past j (past j ++ [⟨o, (M.step o c s).1⟩])) ?_
      · by_cases hij : i = j
        · subst hij
          simpa [history, Event.entry] using hnext
        · simpa [history, hij, Ne.symm hij] using hnext
      · intro i'
        by_cases hij : i' = j
        · subst hij
          rw [Function.update_self, Function.update_self]
          exact (hguard (M.step o c s).1).2
        · simpa [hij] using hG i'

/-- Every request of an interleaving satisfies the guard of its program, given what
the program asked and was answered before. -/
theorem guarded [∀ o, Nonempty (S.Reply o)] {G : ι → Event (journal S) → Prop}
    (h : Interleaving M pool s l pool' s')
    (hG : ∀ i, Guarded (journal S) (G i) (pool i) [] fun _ _ => True) {i : ι} {e : Event M}
    (hl : l = l₁ ++ (i, e) :: l₂) : G i ⟨history i l₁, e.op, e.reply⟩ := by
  have : ∀ o, Nonempty ((journal S).Choice o) := fun o => inferInstanceAs (Nonempty (S.Reply o))
  subst hl
  obtain ⟨pool₁, s₁, h₁, h₂⟩ := append_iff.1 h
  have hguard := h₁.rest hG i
  cases h₂ with
  | cons _ _ _ hi c rest =>
      rw [hi, guarded_op] at hguard
      exact (hguard (M.step _ c s₁).1).1

/-- What a program answers satisfies its post-condition, given what it asked and was
answered. -/
theorem answer [∀ o, Nonempty (S.Reply o)] {G : ι → Event (journal S) → Prop}
    {Q : ι → α → List (Entry S) → Prop} (h : Interleaving M pool s l pool' s')
    (hG : ∀ i, Guarded (journal S) (G i) (pool i) [] (Q i)) {i : ι} {a : α}
    (ha : pool' i = .pure a) : Q i a (history i l) := by
  have hguard := h.rest hG i
  rw [ha] at hguard
  simpa using guarded_pure.1 hguard

section One

variable {i : ι} {G : Event (journal S) → Prop} {Q : α → List (Entry S) → Prop}

/-- Nothing is asked of the other programs. -/
private theorem guarded_one (hG : Guarded (journal S) G (pool i) [] Q) (k : ι) :
    Guarded (journal S) (fun e => k = i → G e) (pool k) [] fun a h => k = i → Q a h := by
  by_cases hk : k = i
  · subst hk
    exact (hG.weaken fun _ he _ => he).mono fun _ _ hQ _ => hQ
  · refine (Guarded.of_uses (I := fun _ => True) (Prog.uses_true (pool k)) trivial ?_).mono ?_
    · exact fun _ _ _ => ⟨fun heq => absurd heq hk, trivial⟩
    · exact fun _ _ _ heq => absurd heq hk

/-- The guard of one program of the pool. -/
theorem guarded_at [∀ o, Nonempty (S.Reply o)] (h : Interleaving M pool s l pool' s')
    (hG : Guarded (journal S) G (pool i) [] Q) {e : Event M} (hl : l = l₁ ++ (i, e) :: l₂) :
    G ⟨history i l₁, e.op, e.reply⟩ :=
  h.guarded (fun k => (guarded_one hG k).mono fun _ _ _ => trivial) hl rfl

/-- The post-condition of one program of the pool. -/
theorem answer_at [∀ o, Nonempty (S.Reply o)] (h : Interleaving M pool s l pool' s')
    (hG : Guarded (journal S) G (pool i) [] Q) {a : α} (ha : pool' i = .pure a) :
    Q a (history i l) :=
  h.answer (guarded_one hG) ha rfl

end One

end Interleaving

/-! ## Interleavings against given choices -/

/-- The interleaving of a schedule: the program named next issues its next request,
if it has one. -/
def runPool (M : Machine S σ) (ω : ℕ → (o : S.Op) → M.Choice o) :
    List ι → ℕ → (ι → Prog S α) → σ → List (ι × Event M) × (ι → Prog S α) × σ
  | [], _, pool, s => ([], pool, s)
  | i :: is, n, pool, s =>
      match pool i with
      | .pure _ => runPool M ω is n pool s
      | .op o k =>
          let answer := M.step o (ω n o) s
          let rest := runPool M ω is (n + 1) (Function.update pool i (k answer.1)) answer.2
          ((i, ⟨s, o, ω n o⟩) :: rest.1, rest.2)

/-- What `runPool` computes is an interleaving. -/
theorem interleaving_runPool (ω : ℕ → (o : S.Op) → M.Choice o) (is : List ι) (n : ℕ)
    (pool : ι → Prog S α) (s : σ) :
    Interleaving M pool s (runPool M ω is n pool s).1 (runPool M ω is n pool s).2.1
      (runPool M ω is n pool s).2.2 := by
  induction is generalizing n pool s with
  | nil => exact .nil pool s
  | cons i is ih =>
      unfold runPool
      split
      · exact ih _ _ _
      · rename_i o k hi
        exact .cons pool s i hi (ω n o) (ih _ _ _)

end Effects
