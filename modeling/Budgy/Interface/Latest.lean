import Mathlib.Data.List.AList
import Mathlib.Data.List.Induction
import Mathlib.Order.Lattice

/-!
# The latest entry of each key

One pass over a list keeps, for each key, an entry that no other entry of the key is later
than.  Ties keep the first one met.
-/

set_option autoImplicit false

namespace Latest

variable {α κ τ : Type} [DecidableEq κ] [LinearOrder τ] (key : α → κ) (time : α → τ)

/-- Keep an entry, unless one that is as late is kept under its key. -/
def keep (m : AList fun _ : κ => α) (a : α) : AList fun _ : κ => α :=
  match m.lookup (key a) with
  | some b => if time b < time a then m.insert (key a) a else m
  | none => m.insert (key a) a

/-- The latest element of each key, read from left to right. -/
def keepAll (l : List α) : AList fun _ : κ => α := l.foldl (keep key time) ∅

/-- What is kept of a list: entries of the list under their key, and for each entry one that
is as late. -/
structure Kept (l : List α) (m : AList fun _ : κ => α) : Prop where
  sound : ∀ k a, m.lookup k = some a → a ∈ l ∧ key a = k
  complete : ∀ a ∈ l, ∃ b, m.lookup (key a) = some b ∧ time a ≤ time b

variable {key time} {l : List α} {m : AList fun _ : κ => α}

/-- What is looked up after an insertion was inserted, or there before. -/
theorem lookup_insert_cases {a b : α} {k k' : κ} (h : (m.insert k a).lookup k' = some b) :
    k' = k ∧ b = a ∨ m.lookup k' = some b := by
  by_cases hk : k' = k
  · subst hk
    rw [AList.lookup_insert] at h
    exact .inl ⟨rfl, (Option.some.inj h).symm⟩
  · rw [AList.lookup_insert_ne hk] at h
    exact .inr h

/-- An entry that is kept replaces one that is not later. -/
theorem Kept.insert (h : Kept key time l m) {a : α}
    (hlater : ∀ b, m.lookup (key a) = some b → time b ≤ time a) :
    Kept key time (l ++ [a]) (m.insert (key a) a) where
  sound := by
    intro k b hb
    rcases lookup_insert_cases hb with ⟨rfl, rfl⟩ | hold
    · exact ⟨by simp, rfl⟩
    · obtain ⟨hmem, hk⟩ := h.sound k b hold
      exact ⟨List.mem_append_left _ hmem, hk⟩
  complete := by
    intro b hb
    by_cases hk : key b = key a
    · refine ⟨a, by rw [hk, AList.lookup_insert], ?_⟩
      rcases List.mem_append.1 hb with hb | hb
      · obtain ⟨b', hb', hle⟩ := h.complete b hb
        exact hle.trans (hlater b' (hk ▸ hb'))
      · rw [List.mem_singleton.1 hb]
    · rcases List.mem_append.1 hb with hb | hb
      · obtain ⟨b', hb', hle⟩ := h.complete b hb
        exact ⟨b', by rwa [AList.lookup_insert_ne hk], hle⟩
      · exact absurd (congrArg key (List.mem_singleton.1 hb)) hk

/-- One more element keeps the invariant. -/
theorem Kept.keep (h : Kept key time l m) (a : α) :
    Kept key time (l ++ [a]) (keep key time m a) := by
  unfold Latest.keep
  split
  · rename_i b hb
    split
    · rename_i hlt
      apply h.insert
      intro b' hb'
      obtain rfl := Option.some.inj (hb.symm.trans hb')
      exact hlt.le
    · rename_i hle
      refine ⟨fun k b' hb' => ?_, fun a' ha' => ?_⟩
      · obtain ⟨hmem, hk⟩ := h.sound k b' hb'
        exact ⟨List.mem_append_left _ hmem, hk⟩
      · rcases List.mem_append.1 ha' with ha' | ha'
        · exact h.complete a' ha'
        · rw [List.mem_singleton.1 ha']
          exact ⟨b, hb, not_lt.1 hle⟩
  · rename_i hnone
    apply h.insert
    intro b hb
    cases hnone.symm.trans hb

/-- The invariant holds of the whole list. -/
theorem kept_keepAll (l : List α) : Kept key time l (keepAll key time l) := by
  induction l using List.reverseRecOn with
  | nil => exact ⟨fun _ _ h => by simp [keepAll] at h, by simp⟩
  | append_singleton l a ih =>
      unfold keepAll
      rw [List.foldl_append]
      exact ih.keep a

/-- The entries that are kept have distinct keys, since each is under its own. -/
theorem Kept.nodup (h : Kept key time l m) :
    ((m.entries.map fun e => e.2).map key).Nodup := by
  have hkeys : (m.entries.map fun e => e.2).map key = m.keys := by
    rw [List.map_map]
    apply List.map_congr_left
    intro e he
    exact (h.sound e.1 e.2 (AList.mem_lookup_iff.2 he)).2
  rw [hkeys]
  exact m.nodupKeys

/-- The values of the table are the elements found at their own keys. -/
theorem Kept.mem_values (h : Kept key time l m) {a : α} :
    a ∈ (m.entries.map fun e => e.2) ↔ m.lookup (key a) = some a := by
  rw [List.mem_map]
  constructor
  · rintro ⟨⟨k, b⟩, he, rfl⟩
    have hlookup : m.lookup k = some b := AList.mem_lookup_iff.2 he
    rwa [(h.sound k b hlookup).2]
  · intro ha
    exact ⟨⟨key a, a⟩, AList.mem_lookup_iff.1 ha, rfl⟩

end Latest
