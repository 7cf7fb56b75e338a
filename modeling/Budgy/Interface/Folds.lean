import Budgy.Interface.Grouping

/-!
# Loops whose turns are guarded

`EachTurn step P s l` says that every turn of the fold of `step` over `l` satisfies `P`, a
condition on the state before the turn and on its element.  Two loops that correspond turn by
turn as long as the guard holds are guarded together (`eachTurn_iff`).  The rest is about running
sums: those of a list of magnitudes stay below a bound when the whole sum does, those of signed
values stay within two bounds, in every order, when the sums of each sign do.
-/

set_option autoImplicit false

namespace Folds

open Grouping

variable {σ τ α : Type} {step : σ → α → σ} {step' : τ → α → τ} {P : σ → α → Prop}
  {Q : τ → α → Prop} {s : σ} {t : τ} {l l' : List α}

/-- A condition that holds at each turn of a fold, on the state that the turn finds. -/
def EachTurn (step : σ → α → σ) (P : σ → α → Prop) : σ → List α → Prop
  | _, [] => True
  | s, a :: l => P s a ∧ EachTurn step P (step s a) l

/-- The turns of a list are those of its parts. -/
theorem eachTurn_append :
    EachTurn step P s (l ++ l') ↔
      EachTurn step P s l ∧ EachTurn step P (l.foldl step s) l' := by
  induction l generalizing s with
  | nil => simp [EachTurn]
  | cons a l ih =>
      rw [List.cons_append, EachTurn, EachTurn, ih, List.foldl_cons, and_assoc]

/-- The turns of a loop, by what was read before each of them. -/
theorem eachTurn_iff_forall :
    EachTurn step P s l ↔ ∀ p a q, l = p ++ a :: q → P (p.foldl step s) a := by
  constructor
  · rintro h p a q rfl
    exact (eachTurn_append.1 h).2.1
  · intro h
    induction l generalizing s with
    | nil => trivial
    | cons a l ih =>
        refine ⟨h [] a l rfl, ih fun p b q hl => ?_⟩
        have hb := h (a :: p) b q (by rw [hl, List.cons_append])
        exact hb

/-- As long as the guard holds, the states of two loops correspond. -/
theorem related_foldl (R : σ → τ → Prop)
    (hstep : ∀ s t a, R s t → P s a → R (step s a) (step' t a)) (hst : R s t)
    (h : EachTurn step P s l) : R (l.foldl step s) (l.foldl step' t) := by
  induction l generalizing s t with
  | nil => exact hst
  | cons a l ih => exact ih (hstep s t a hst h.1) h.2

/-- Two loops that correspond as long as the guard holds are guarded together. -/
theorem eachTurn_iff (R : σ → τ → Prop) (hP : ∀ s t a, R s t → (P s a ↔ Q t a))
    (hstep : ∀ s t a, R s t → P s a → R (step s a) (step' t a)) (hst : R s t) :
    EachTurn step P s l ↔ EachTurn step' Q t l := by
  induction l generalizing s t with
  | nil => exact Iff.rfl
  | cons a l ih =>
      constructor
      · rintro ⟨ha, hl⟩
        exact ⟨(hP s t a hst).1 ha, (ih (hstep s t a hst ha)).1 hl⟩
      · rintro ⟨ha, hl⟩
        have ha' := (hP s t a hst).2 ha
        exact ⟨ha', (ih (hstep s t a hst ha')).2 hl⟩

/-- The turns of a mapped list. -/
theorem eachTurn_map {β : Type} {g : β → α} {l : List β} :
    EachTurn step P s (l.map g) ↔
      EachTurn (fun s b => step s (g b)) (fun s b => P s (g b)) s l := by
  induction l generalizing s with
  | nil => exact Iff.rfl
  | cons b l ih => exact and_congr_right fun _ => ih

/-! ## Running sums -/

variable {lo hi : ℤ}

/-- The running sums of magnitudes stay within the bounds when the last one does. -/
theorem eachTurn_sum_iff {l : List ℤ} {a : ℤ} (hl : ∀ n ∈ l, 0 ≤ n) (ha : lo ≤ a ∧ a ≤ hi) :
    EachTurn (fun acc n => acc + n) (fun acc n => lo ≤ acc + n ∧ acc + n ≤ hi) a l ↔
      a + l.sum ≤ hi := by
  induction l generalizing a with
  | nil => simp [EachTurn, ha.2]
  | cons n l ih =>
      have hn : 0 ≤ n := hl n List.mem_cons_self
      have hrest : ∀ m ∈ l, 0 ≤ m := fun m hm => hl m (List.mem_cons_of_mem n hm)
      have hsum : 0 ≤ l.sum := List.sum_nonneg hrest
      rw [List.sum_cons, EachTurn]
      constructor
      · rintro ⟨hbounds, hturns⟩
        have h := (ih hrest hbounds).1 hturns
        omega
      · intro h
        have hbounds : lo ≤ a + n ∧ a + n ≤ hi := by omega
        refine ⟨hbounds, (ih hrest hbounds).2 ?_⟩
        omega

variable {ι κ : Type} [DecidableEq κ] {key : ι → κ} {value : ι → ℤ} {f : κ → ℤ} {k : κ}

/-- A value is added to the sum of its key. -/
def addAt (key : ι → κ) (value : ι → ℤ) (f : κ → ℤ) (i : ι) : κ → ℤ :=
  Function.update f (key i) (f (key i) + value i)

/-- A fold of additions at keys adds up the values of each key. -/
theorem foldl_addAt {l : List ι} : l.foldl (addAt key value) f k = f k + sumAt key value l k := by
  induction l using List.reverseRecOn with
  | nil => simp
  | append_singleton l i ih =>
      rw [List.foldl_append, List.foldl_cons, List.foldl_nil, sumAt_append, sumAt_singleton]
      by_cases hk : key i = k
      · subst hk
        rw [addAt, Function.update_self, ih, if_pos rfl, add_assoc]
      · rw [addAt, Function.update_of_ne (Ne.symm hk), ih, if_neg hk, add_zero]

/-- What is credited to a key. -/
def gains (key : ι → κ) (value : ι → ℤ) (l : List ι) (k : κ) : ℤ :=
  sumAt key (fun i => max (value i) 0) l k

/-- What is taken from a key, as a negative number. -/
def losses (key : ι → κ) (value : ι → ℤ) (l : List ι) (k : κ) : ℤ :=
  sumAt key (fun i => min (value i) 0) l k

/-- The sums follow the values. -/
theorem sumAt_mono {value' : ι → ℤ} {l : List ι} (h : ∀ i ∈ l, value i ≤ value' i) :
    sumAt key value l k ≤ sumAt key value' l k := by
  refine List.sum_le_sum fun i hi => ?_
  exact h i (List.mem_of_mem_filter hi)

/-- A part of the values makes at most the gains. -/
theorem sumAt_le_gains {p l : List ι} (h : p <+: l) : sumAt key value p k ≤ gains key value l k := by
  obtain ⟨q, rfl⟩ := h
  have hp : sumAt key value p k ≤ gains key value p k :=
    sumAt_mono fun i _ => le_max_left _ _
  have hq : 0 ≤ gains key value q k := sumAt_nonneg fun i _ => le_max_right _ _
  unfold gains at hp hq ⊢
  rw [sumAt_append]
  omega

/-- A prefix sums to no less than the losses. -/
theorem losses_le_sumAt {p l : List ι} (h : p <+: l) :
    losses key value l k ≤ sumAt key value p k := by
  obtain ⟨q, rfl⟩ := h
  have hp : losses key value p k ≤ sumAt key value p k :=
    sumAt_mono fun i _ => min_le_left _ _
  have hq : losses key value q k ≤ 0 := by
    have hzero : sumAt key (fun _ => (0 : ℤ)) q k = 0 := by simp [sumAt]
    rw [← hzero]
    exact sumAt_mono fun i _ => min_le_right _ _
  unfold losses at hp hq ⊢
  rw [sumAt_append]
  omega

/-- The positive values make the gains, the others the losses. -/
theorem sumAt_filter_pos {l : List ι} :
    sumAt key value (l.filter fun i => 0 < value i) k = gains key value l k := by
  induction l with
  | nil => rfl
  | cons i l ih =>
      have hcons : gains key value (i :: l) k = gains key value [i] k + gains key value l k :=
        sumAt_append (l := [i])
      rw [List.filter_cons, hcons, ← ih]
      split
      · rename_i hpos
        have hi : gains key value [i] k = sumAt key value [i] k := by
          unfold gains
          rw [sumAt_singleton, sumAt_singleton, max_eq_left (le_of_lt (by simpa using hpos))]
        rw [hi, ← sumAt_append]
        rfl
      · rename_i hneg
        have hi : gains key value [i] k = 0 := by
          unfold gains
          rw [sumAt_singleton, max_eq_right (by simpa using hneg), ite_self]
        rw [hi, zero_add]

/-- The losses are the gains of the opposite values, but for the sign. -/
theorem losses_eq_neg_gains {l : List ι} :
    losses key value l k = - gains key (fun i => -value i) l k := by
  induction l with
  | nil => rfl
  | cons i l ih =>
      have hgains : gains key (fun i => -value i) (i :: l) k =
          gains key (fun i => -value i) [i] k + gains key (fun i => -value i) l k :=
        sumAt_append (l := [i])
      have hlosses : losses key value (i :: l) k = losses key value [i] k + losses key value l k :=
        sumAt_append (l := [i])
      have hi : losses key value [i] k = -gains key (fun i => -value i) [i] k := by
        unfold losses gains
        rw [sumAt_singleton, sumAt_singleton]
        beta_reduce
        split
        · omega
        · rfl
      rw [hgains, hlosses, ih, hi]
      omega

/-- The sum of the negative values is the losses. -/
theorem sumAt_filter_neg {l : List ι} :
    sumAt key value (l.filter fun i => value i < 0) k = losses key value l k := by
  have hpos : sumAt key (fun i => -value i) (l.filter fun i => 0 < -value i) k =
      gains key (fun i => -value i) l k := sumAt_filter_pos
  have hneg : ∀ p : List ι, sumAt key (fun i => -value i) p k = -sumAt key value p k := by
    intro p
    induction p with
    | nil => rfl
    | cons i p ih =>
        have hcons : ∀ v : ι → ℤ, sumAt key v (i :: p) k = sumAt key v [i] k + sumAt key v p k :=
          fun v => sumAt_append (l := [i])
        rw [hcons, hcons, ih, sumAt_singleton, sumAt_singleton]
        split
        · omega
        · omega
  simp only [Left.neg_pos_iff] at hpos
  rw [hneg] at hpos
  rw [losses_eq_neg_gains, ← hpos, neg_neg]

/-- In every order, the running sums of a key stay within the bounds exactly when its gains and
its losses do. -/
theorem forall_perm_iff {l : List ι} :
    (∀ l', l'.Perm l → ∀ p, p <+: l' → lo ≤ sumAt key value p k ∧ sumAt key value p k ≤ hi) ↔
      lo ≤ losses key value l k ∧ gains key value l k ≤ hi := by
  constructor
  · intro h
    constructor
    · have hfirst := h _ (List.filter_append_perm (fun i => value i < 0) l) _
        (List.prefix_append _ _)
      rw [sumAt_filter_neg] at hfirst
      exact hfirst.1
    · have hfirst := h _ (List.filter_append_perm (fun i => 0 < value i) l) _
        (List.prefix_append _ _)
      rw [sumAt_filter_pos] at hfirst
      exact hfirst.2
  · rintro ⟨hlosses, hgains⟩ l' hperm p hp
    have hle : sumAt key value p k ≤ gains key value l' k := sumAt_le_gains hp
    have hge : losses key value l' k ≤ sumAt key value p k := losses_le_sumAt hp
    unfold gains at hle hgains
    unfold losses at hge hlosses
    rw [sumAt_perm hperm] at hle hge
    omega

/-- The sum of a key changes when one of its values is read. -/
private theorem bounds_of_turns {l : List ι} (hzero : lo ≤ 0 ∧ 0 ≤ hi)
    (h : ∀ p i q, l = p ++ i :: q →
      lo ≤ sumAt key value (p ++ [i]) (key i) ∧ sumAt key value (p ++ [i]) (key i) ≤ hi) :
    ∀ p, p <+: l → lo ≤ sumAt key value p k ∧ sumAt key value p k ≤ hi := by
  intro p
  induction p using List.reverseRecOn with
  | nil => exact fun _ => hzero
  | append_singleton p i ih =>
      rintro ⟨q, hq⟩
      have hl : l = p ++ i :: q := by rw [← hq, List.append_assoc, List.singleton_append]
      by_cases hk : key i = k
      · subst hk
        exact h p i q hl
      · rw [sumAt_append, sumAt_singleton, if_neg hk, add_zero]
        exact ih ⟨i :: q, hl.symm⟩

/-- The running sums of all the keys, in every order. -/
theorem forall_perm_turns_iff {l : List ι} (hzero : lo ≤ 0 ∧ 0 ≤ hi) :
    (∀ l', l'.Perm l → ∀ p i q, l' = p ++ i :: q →
      lo ≤ sumAt key value (p ++ [i]) (key i) ∧ sumAt key value (p ++ [i]) (key i) ≤ hi) ↔
      ∀ k, lo ≤ losses key value l k ∧ gains key value l k ≤ hi := by
  constructor
  · intro h k
    exact forall_perm_iff.1 fun l' hperm => bounds_of_turns hzero (h l' hperm)
  · rintro h l' hperm p i q rfl
    refine forall_perm_iff.2 (h (key i)) _ hperm _ ⟨q, ?_⟩
    rw [List.append_assoc, List.singleton_append]

end Folds
