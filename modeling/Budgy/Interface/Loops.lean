import Mathlib.Algebra.BigOperators.Group.Finset.Basic
import Mathlib.Algebra.Order.BigOperators.Group.Finset
import Mathlib.Logic.Relation

/-!
# Loops

A loop takes turns until one of them ends it.  `run` allows a number of turns, and `trail` lists
the states that these turns lead to.  When each state shows a label out of a finite set,
`ends_iff_of_labels` says that a loop ends when it does not show any label without end, and
`exists_run_of_count_le` in how many turns.
-/

set_option autoImplicit false

namespace Loops

variable {σ ρ : Type} (step : σ → ρ ⊕ σ)

/-- The result of the loop, when it ends within `n` turns. -/
def run : ℕ → σ → Option ρ
  | 0, _ => none
  | n + 1, s => match step s with
    | .inl r => some r
    | .inr s' => run n s'

/-- The loop ends. -/
def Ends (s : σ) : Prop := ∃ n r, run step n s = some r

/-- The states that the first `n` turns lead to, up to the one that ends the loop. -/
def trail : ℕ → σ → List σ
  | 0, _ => []
  | n + 1, s => match step s with
    | .inl _ => []
    | .inr s' => s' :: trail n s'

/-- A turn that does not end the loop. -/
def Turn (s s' : σ) : Prop := step s = .inr s'

/-- The states that the loop goes through. -/
def Reaches : σ → σ → Prop := Relation.ReflTransGen (Turn step)

variable {step} {s s' : σ} {r : ρ} {n : ℕ}

/-- A turn that ends the loop gives its result. -/
theorem run_succ_of_inl (h : step s = .inl r) : run step (n + 1) s = some r := by
  simp only [run, h]

/-- Any other turn leaves one turn less. -/
theorem run_succ_of_inr (h : step s = .inr s') : run step (n + 1) s = run step n s' := by
  simp only [run, h]

/-- What a loop returns ends one of its states. -/
theorem exists_reaches_of_run (h : run step n s = some r) :
    ∃ s', Reaches step s s' ∧ step s' = .inl r := by
  induction n generalizing s with
  | zero => cases h
  | succ n ih =>
      cases hs : step s with
      | inl r' =>
          rw [run_succ_of_inl hs] at h
          obtain rfl := Option.some.inj h
          exact ⟨s, .refl, hs⟩
      | inr s₁ =>
          rw [run_succ_of_inr hs] at h
          obtain ⟨s', hreach, hend⟩ := ih h
          exact ⟨s', hreach.head hs, hend⟩

/-- A state that ends the loop gives its result. -/
theorem exists_run_of_reaches (h : Reaches step s s') (hend : step s' = .inl r) :
    ∃ n, run step n s = some r := by
  induction h using Relation.ReflTransGen.head_induction_on with
  | refl => exact ⟨1, run_succ_of_inl hend⟩
  | head hs _ ih =>
      obtain ⟨n, hn⟩ := ih
      exact ⟨n + 1, (run_succ_of_inr hs).trans hn⟩

/-- A loop ends when a state it reaches ends it. -/
theorem ends_iff : Ends step s ↔ ∃ s', Reaches step s s' ∧ ∃ r, step s' = .inl r := by
  constructor
  · rintro ⟨n, r, h⟩
    obtain ⟨s', hreach, hend⟩ := exists_reaches_of_run h
    exact ⟨s', hreach, r, hend⟩
  · rintro ⟨s', hreach, r, hend⟩
    obtain ⟨n, hn⟩ := exists_run_of_reaches hreach hend
    exact ⟨n, r, hn⟩

/-- A loop that never leaves states which do not end it goes on for ever. -/
theorem not_ends_of_invariant (inv : σ → Prop) (hinv : ∀ s, inv s → ∃ s', step s = .inr s' ∧ inv s')
    (hs : inv s) : ¬ Ends step s := by
  have hreaches : ∀ s', Reaches step s s' → inv s' := by
    intro s' hreach
    induction hreach with
    | refl => exact hs
    | tail _ hstep ih =>
        obtain ⟨s₁, hs₁, hinv₁⟩ := hinv _ ih
        rw [Turn, hs₁] at hstep
        exact Sum.inr.inj hstep ▸ hinv₁
  rw [ends_iff]
  rintro ⟨s', hreach, r, hend⟩
  obtain ⟨s₁, hs₁, -⟩ := hinv s' (hreaches s' hreach)
  rw [hend] at hs₁
  cases hs₁

/-- A loop that comes back to a state goes on for ever. -/
theorem not_ends_of_cycle (hreach : Reaches step s s')
    (hcycle : Relation.TransGen (Turn step) s' s') : ¬ Ends step s := by
  refine not_ends_of_invariant (fun t => Reaches step t s') ?_ hreach
  intro t ht
  rcases Relation.ReflTransGen.cases_head ht with rfl | ⟨u, hu, hus⟩
  · obtain ⟨u, hu, hus⟩ := Relation.TransGen.head'_iff.1 hcycle
    exact ⟨u, hu, hus⟩
  · exact ⟨u, hu, hus⟩

/-- A loop and its image end together. -/
theorem ends_iff_of_map {τ ρ' : Type} {step' : τ → ρ' ⊕ τ} (π : σ → τ)
    (hinl : ∀ s r, step s = .inl r → ∃ r', step' (π s) = .inl r')
    (hinr : ∀ s t, step s = .inr t → step' (π s) = .inr (π t)) :
    Ends step s ↔ Ends step' (π s) := by
  constructor
  · rintro ⟨n, r, h⟩
    induction n generalizing s with
    | zero => cases h
    | succ n ih =>
        cases hs : step s with
        | inl r =>
            obtain ⟨r', hr'⟩ := hinl s r hs
            exact ⟨1, r', run_succ_of_inl hr'⟩
        | inr t =>
            rw [run_succ_of_inr hs] at h
            obtain ⟨m, r', h'⟩ := ih h
            exact ⟨m + 1, r', (run_succ_of_inr (hinr s t hs)).trans h'⟩
  · rintro ⟨n, r', h⟩
    induction n generalizing s with
    | zero => cases h
    | succ n ih =>
        cases hs : step s with
        | inl r => exact ⟨1, r, run_succ_of_inl hs⟩
        | inr t =>
            rw [run_succ_of_inr (hinr s t hs)] at h
            obtain ⟨m, r, h'⟩ := ih h
            exact ⟨m + 1, r, (run_succ_of_inr hs).trans h'⟩

/-! ## The states of a loop -/

/-- The states of the first turns are reached. -/
theorem transGen_of_mem_trail {t : σ} (h : t ∈ trail step n s) :
    Relation.TransGen (Turn step) s t := by
  induction n generalizing s with
  | zero => cases h
  | succ n ih =>
      unfold trail at h
      cases hs : step s with
      | inl r =>
          rw [hs] at h
          cases h
      | inr s' =>
          rw [hs] at h
          rcases List.mem_cons.1 h with rfl | h
          · exact .single hs
          · exact .head hs (ih h)

/-- Each state of the first turns leads to those behind it. -/
theorem pairwise_trail (n : ℕ) (s : σ) :
    (trail step n s).Pairwise (Relation.TransGen (Turn step)) := by
  induction n generalizing s with
  | zero => exact List.Pairwise.nil
  | succ n ih =>
      unfold trail
      cases step s with
      | inl r => exact List.Pairwise.nil
      | inr s' => exact List.pairwise_cons.2 ⟨fun t ht => transGen_of_mem_trail ht, ih s'⟩

/-- A loop that does not end within `n` turns takes them all. -/
theorem run_eq_none_iff : run step n s = none ↔ (trail step n s).length = n := by
  induction n generalizing s with
  | zero => simp [run, trail]
  | succ n ih =>
      unfold run trail
      cases step s with
      | inl r => simp
      | inr s' => simp [ih]

/-- A loop that ends within `n` turns takes fewer that do not end it. -/
theorem length_trail_lt (h : run step n s = some r) (k : ℕ) : (trail step k s).length < n := by
  induction n generalizing s k with
  | zero => cases h
  | succ n ih =>
      cases k with
      | zero => exact Nat.succ_pos n
      | succ k =>
          cases hs : step s with
          | inl r' => simp [trail, hs]
          | inr s' =>
              rw [run_succ_of_inr hs] at h
              simpa [trail, hs] using ih h k

/-! ## The labels that a loop shows -/

section Labels

variable {κ : Type} {label : σ → κ} {K : Finset κ} {m : ℕ}

/-- A list over `K` in which nothing is more than `m` times. -/
private theorem length_le_of_count_le [inst : BEq κ] [LawfulBEq κ] {l : List κ} (hK : ∀ k ∈ l, k ∈ K)
    (hm : ∀ k, l.count k ≤ m) : l.length ≤ m * K.card := by
  classical
  obtain rfl : inst = instBEqOfDecidableEq := lawful_beq_subsingleton _ _
  have hsub : l.toFinset ⊆ K := fun k hk => hK k (List.mem_toFinset.1 hk)
  calc l.length = ∑ k ∈ l.toFinset, l.count k := (List.sum_toFinset_count_eq_length l).symm
    _ ≤ ∑ _k ∈ l.toFinset, m := Finset.sum_le_sum fun k _ => hm k
    _ = m * l.toFinset.card := by
        rw [Finset.sum_const_nat fun _ _ => rfl, Nat.mul_comm]
    _ ≤ m * K.card := Nat.mul_le_mul_left m (Finset.card_le_card hsub)

/-- A loop that shows each of finitely many labels at most `m` times ends, at the latest one turn
after it showed them all. -/
theorem exists_run_of_count_le [BEq κ] [LawfulBEq κ]
    (hK : ∀ n, ∀ t ∈ trail step n s, label t ∈ K)
    (hm : ∀ n k, ((trail step n s).map label).count k ≤ m) :
    ∃ r, run step (m * K.card + 1) s = some r := by
  cases hrun : run step (m * K.card + 1) s with
  | some r => exact ⟨r, rfl⟩
  | none =>
      have hall := run_eq_none_iff.1 hrun
      have hlength := length_le_of_count_le (l := (trail step (m * K.card + 1) s).map label)
        (by simpa using hK (m * K.card + 1)) (hm _)
      rw [List.length_map] at hlength
      omega

/-- Over finitely many labels, a loop ends when it shows none of them without end. -/
theorem ends_iff_of_labels [BEq κ] [LawfulBEq κ]
    (hK : ∀ n, ∀ t ∈ trail step n s, label t ∈ K) :
    Ends step s ↔ ∃ m, ∀ n k, ((trail step n s).map label).count k ≤ m := by
  constructor
  · rintro ⟨n, r, h⟩
    refine ⟨n, fun k a => List.count_le_length.trans ?_⟩
    rw [List.length_map]
    exact (length_trail_lt h k).le
  · rintro ⟨m, hm⟩
    obtain ⟨r, h⟩ := exists_run_of_count_le hK hm
    exact ⟨_, r, h⟩

/-- When the label alone tells how the loop goes on, a loop that ends shows no label twice. -/
theorem nodup_of_ends {ρ' : Type} (step' : κ → ρ' ⊕ κ)
    (hinl : ∀ s r, step s = .inl r → ∃ r', step' (label s) = .inl r')
    (hinr : ∀ s t, step s = .inr t → step' (label s) = .inr (label t)) (h : Ends step s) (n : ℕ) :
    ((trail step n s).map label).Nodup := by
  have hlift : ∀ t u, Relation.TransGen (Turn step) t u →
      Relation.TransGen (Turn step') (label t) (label u) :=
    fun t u htu => Relation.TransGen.lift label hinr t u htu
  rw [List.Nodup, List.pairwise_map]
  refine (pairwise_trail n s).imp_of_mem fun {t u} ht _ htu heq => ?_
  -- a label that comes back keeps the loop of the labels going
  have hcycle : Relation.TransGen (Turn step') (label t) (label t) := by
    simpa only [← heq] using hlift t u htu
  have hreach := (hlift s t (transGen_of_mem_trail ht)).to_reflTransGen
  exact not_ends_of_cycle hreach hcycle ((ends_iff_of_map label hinl hinr).1 h)

end Labels

end Loops
