import Mathlib.Logic.Function.Basic
import Mathlib.Order.Lattice

/-!
# Ledgers

A ledger has one entry for each key.  The first observation of a key opens its entry, a later
one revises it.  When the revisions settle, what was observed once may be observed again
without any effect.
-/

set_option autoImplicit false

namespace Ledger

/-- How observations make entries. -/
structure Rule (κ ω ε : Type) where
  key : ω → κ
  opens : ω → ε
  revise : ε → ω → ε

namespace Rule

variable {κ ω ε : Type} (R : Rule κ ω ε)

/-- The entry of a key after an observation. -/
def entry : Option ε → ω → ε
  | none, o => R.opens o
  | some e, o => R.revise e o

/-- Nothing that an observation did to an entry is done again, or undone by others. -/
structure Settles : Prop where
  opened : ∀ o, R.revise (R.opens o) o = R.opens o
  revised : ∀ e o, R.revise (R.revise e o) o = R.revise e o
  stays : ∀ e o o', R.revise e o = e → R.revise (R.revise e o') o = R.revise e o'

variable [DecidableEq κ]

/-- An observation sets the entry of its key. -/
def observe (m : κ → Option ε) (o : ω) : κ → Option ε :=
  Function.update m (R.key o) (some (R.entry (m (R.key o)) o))

/-- The observations of a list, one after the other. -/
def observeAll (m : κ → Option ε) (os : List ω) : κ → Option ε := os.foldl R.observe m

/-- The number of observations that open an entry. -/
def opened (m : κ → Option ε) : List ω → ℕ
  | [] => 0
  | o :: os => (if m (R.key o) = none then 1 else 0) + opened (R.observe m o) os

variable {R} {m : κ → Option ε} {o : ω} {os os' : List ω} {k : κ}

/-- No observation changes nothing. -/
@[simp]
theorem observeAll_nil : R.observeAll m [] = m := rfl

/-- The first observation, then the others. -/
@[simp]
theorem observeAll_cons : R.observeAll m (o :: os) = R.observeAll (R.observe m o) os := rfl

/-- Two lists of observations, one after the other. -/
theorem observeAll_append :
    R.observeAll m (os ++ os') = R.observeAll (R.observeAll m os) os' := List.foldl_append

/-- No observation opens nothing. -/
@[simp]
theorem opened_nil : R.opened m [] = 0 := rfl

/-- What two lists open, the second after the first. -/
theorem opened_append :
    R.opened m (os ++ os') = R.opened m os + R.opened (R.observeAll m os) os' := by
  induction os generalizing m with
  | nil => simp
  | cons o os ih =>
      simp only [List.cons_append, opened, observeAll_cons, ih]
      omega

/-- An observation that opens no entry and changes none. -/
def Absorbs (R : Rule κ ω ε) (m : κ → Option ε) (o : ω) : Prop :=
  ∃ e, m (R.key o) = some e ∧ R.revise e o = e

/-- An observation that is absorbed leaves the ledger. -/
theorem Absorbs.observe_eq (h : R.Absorbs m o) : R.observe m o = m := by
  obtain ⟨e, hentry, hrevise⟩ := h
  rw [observe, hentry, entry, hrevise, ← hentry, Function.update_eq_self]

/-- A list of absorbed observations leaves the ledger and opens nothing. -/
theorem observeAll_of_absorbs (h : ∀ o ∈ os, R.Absorbs m o) :
    R.observeAll m os = m ∧ R.opened m os = 0 := by
  induction os with
  | nil => simp
  | cons o os ih =>
      have hfirst := h o (by simp)
      obtain ⟨hall, hopened⟩ := ih fun o' ho' => h o' (by simp [ho'])
      obtain ⟨e, hentry, -⟩ := id hfirst
      simp [opened, hfirst.observe_eq, hall, hopened, hentry]

/-- When the rule settles, an observation is absorbed once it has been made. -/
theorem Settles.absorbs_observe (hR : R.Settles) : R.Absorbs (R.observe m o) o := by
  refine ⟨R.entry (m (R.key o)) o, Function.update_self .., ?_⟩
  cases m (R.key o) with
  | none => exact hR.opened o
  | some e => exact hR.revised e o

/-- It stays so after any other observation. -/
theorem Settles.absorbs_after (hR : R.Settles) (h : R.Absorbs m o) (o' : ω) :
    R.Absorbs (R.observe m o') o := by
  obtain ⟨e, hentry, hrevise⟩ := h
  by_cases hkey : R.key o = R.key o'
  · refine ⟨R.revise e o', ?_, hR.stays e o o' hrevise⟩
    rw [observe, hkey, Function.update_self, ← hkey, hentry]
    rfl
  · exact ⟨e, by rw [observe, Function.update_of_ne hkey, hentry], hrevise⟩

/-- It stays so after any list of observations. -/
theorem Settles.absorbs_afterAll (hR : R.Settles) (h : R.Absorbs m o) (os : List ω) :
    R.Absorbs (R.observeAll m os) o := by
  induction os generalizing m with
  | nil => exact h
  | cons o' os ih => exact ih (hR.absorbs_after h o')

/-- What was observed has no effect any more. -/
theorem Settles.absorbs_observeAll (hR : R.Settles) (ho : o ∈ os) :
    R.Absorbs (R.observeAll m os) o := by
  induction os generalizing m with
  | nil => cases ho
  | cons o' os ih =>
      rcases List.mem_cons.1 ho with rfl | ho
      · exact hR.absorbs_afterAll hR.absorbs_observe os
      · exact ih ho

/-! ## Counters -/

/-- The observations lead from a ledger to another.  The first counter counts the entries
that they open, the second one the observations of an entry that was open. -/
structure Leads (R : Rule κ ω ε) (m : κ → Option ε) (k : ℕ × ℕ) (os : List ω)
    (m' : κ → Option ε) (k' : ℕ × ℕ) : Prop where
  ledger : R.observeAll m os = m'
  opened : k'.1 = k.1 + R.opened m os
  total : k'.1 + k'.2 = k.1 + k.2 + os.length

/-- No observation leads from a ledger to itself. -/
theorem Leads.nil {c : ℕ × ℕ} : R.Leads m c [] m c := ⟨rfl, rfl, rfl⟩

/-- What leads from one ledger to another, then to a third. -/
theorem Leads.append {m' m'' : κ → Option ε} {c c' c'' : ℕ × ℕ} (h : R.Leads m c os m' c')
    (h' : R.Leads m' c' os' m'' c'') : R.Leads m c (os ++ os') m'' c'' where
  ledger := by rw [observeAll_append, h.ledger, h'.ledger]
  opened := by
    rw [opened_append, h.ledger, h'.opened, h.opened]
    omega
  total := by
    rw [List.length_append, h'.total, h.total]
    omega

/-- The observation of a new key opens an entry. -/
theorem Leads.opens {c : ℕ × ℕ} (h : m (R.key o) = none) :
    R.Leads m c [o] (R.observe m o) (c.1 + 1, c.2) where
  ledger := rfl
  opened := by simp [Rule.opened, h]
  total := by
    simp only [List.length_singleton]
    omega

/-- The observation of a known key meets its entry. -/
theorem Leads.meets {c : ℕ × ℕ} (h : m (R.key o) ≠ none) :
    R.Leads m c [o] (R.observe m o) (c.1, c.2 + 1) where
  ledger := rfl
  opened := by simp [Rule.opened, h]
  total := rfl

end Rule

end Ledger
