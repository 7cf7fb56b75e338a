import Mathlib.Data.List.Forall2
import Mathlib.Tactic.Common

/-!
# Traversals that may stop

A sequence of `Except` stops at the first error, and so does `mapM`.  When it ends, its
values are those of the elements, one by one.
-/

set_option autoImplicit false

namespace Traversal

variable {α β ε : Type} {f : α → Except ε β} {l : List α} {r : List β}

/-- A sequence ends with a value when both of its parts do. -/
theorem bind_eq_ok {x : Except ε α} {b : β} :
    (x >>= f) = .ok b ↔ ∃ a, x = .ok a ∧ f a = .ok b := by
  cases x with
  | error e => simp [bind, Except.bind]
  | ok a => simp [bind, Except.bind]

/-- A traversal ends with the values of the elements, in order. -/
theorem mapM_eq_ok : l.mapM f = .ok r ↔ List.Forall₂ (fun a b => f a = .ok b) l r := by
  induction l generalizing r with
  | nil =>
      rw [List.mapM_nil, List.forall₂_nil_left_iff]
      constructor
      · intro h
        exact (Except.ok.inj h).symm
      · rintro rfl
        rfl
  | cons a l ih =>
      rw [List.mapM_cons, List.forall₂_cons_left_iff]
      cases ha : f a with
      | error e => simp [bind, Except.bind]
      | ok b =>
          have hrest := @ih
          cases hl : l.mapM f with
          | error e =>
              simp only [hl, reduceCtorEq, false_iff] at hrest
              simp [bind, Except.bind, hrest]
          | ok r' =>
              simp only [hl, Except.ok.injEq] at hrest
              simp only [bind, Except.bind, pure, Except.pure, Except.ok.injEq]
              constructor
              · rintro rfl
                exact ⟨b, r', rfl, hrest.1 rfl, rfl⟩
              · rintro ⟨_, r'', rfl, hr'', rfl⟩
                rw [hrest.2 hr'']

/-- An element of the second list is the partner of one of the first. -/
theorem exists_left_of_mem {R : α → β → Prop} (h : List.Forall₂ R l r) {b : β} (hb : b ∈ r) :
    ∃ a ∈ l, R a b := by
  induction h with
  | nil => cases hb
  | cons hfirst _ ih =>
      rcases List.mem_cons.1 hb with rfl | hb
      · exact ⟨_, by simp, hfirst⟩
      · obtain ⟨a, ha, hab⟩ := ih hb
        exact ⟨a, by simp [ha], hab⟩

/-- An element of the first list is the partner of one of the second. -/
theorem exists_right_of_mem {R : α → β → Prop} (h : List.Forall₂ R l r) {a : α} (ha : a ∈ l) :
    ∃ b ∈ r, R a b :=
  exists_left_of_mem h.flip ha

/-- A value of a traversal is that of an element. -/
theorem exists_of_mem (h : l.mapM f = .ok r) {b : β} (hb : b ∈ r) : ∃ a ∈ l, f a = .ok b :=
  exists_left_of_mem (mapM_eq_ok.1 h) hb

/-- Every element of a traversal that ends has a value in it. -/
theorem exists_of_mem_left (h : l.mapM f = .ok r) {a : α} (ha : a ∈ l) : ∃ b ∈ r, f a = .ok b :=
  exists_right_of_mem (mapM_eq_ok.1 h) ha

/-- A traversal that stops does so on the error of an element. -/
theorem exists_error {e : ε} (h : l.mapM f = .error e) : ∃ a ∈ l, f a = .error e := by
  induction l with
  | nil => cases h
  | cons a l ih =>
      rw [List.mapM_cons] at h
      cases ha : f a with
      | error e' =>
          rw [ha] at h
          obtain rfl : e' = e := Except.error.inj h
          exact ⟨a, by simp, ha⟩
      | ok b =>
          rw [ha] at h
          cases hl : l.mapM f with
          | ok r => simp [hl, bind, Except.bind, pure, Except.pure] at h
          | error e' =>
              obtain rfl : e' = e := by simpa [hl, bind, Except.bind] using h
              obtain ⟨a', ha', herror⟩ := ih hl
              exact ⟨a', by simp [ha'], herror⟩

/-- What the values of a traversal keep of the elements, they keep in order. -/
theorem map_eq_map {γ : Type} {g : β → γ} {k : α → γ} (h : l.mapM f = .ok r)
    (hk : ∀ a b, f a = .ok b → g b = k a) : r.map g = l.map k := by
  have hall := mapM_eq_ok.1 h
  clear h
  induction hall with
  | nil => rfl
  | cons hfirst _ ih => rw [List.map_cons, List.map_cons, hk _ _ hfirst, ih]

/-- A traversal that ends gives the optional value of each element. -/
theorem filterMap_of_mapM {f : α → Except ε (Option β)} {l : List α} {r : List (Option β)}
    (h : l.mapM f = .ok r) : r.filterMap id = l.filterMap fun a => (f a).toOption.join := by
  have hall := mapM_eq_ok.1 h
  clear h
  induction hall with
  | nil => rfl
  | cons hfirst _ ih =>
      rw [List.filterMap_cons, List.filterMap_cons, ih, hfirst]
      rfl

/-- What is chosen among the values of a traversal is chosen among the elements. -/
theorem map_filter_eq {γ : Type} {g : β → γ} {k : α → γ} {p : β → Bool} {q : α → Bool}
    (h : l.mapM f = .ok r) (hk : ∀ a b, f a = .ok b → g b = k a ∧ p b = q a) :
    (r.filter p).map g = (l.filter q).map k := by
  have hall := mapM_eq_ok.1 h
  clear h
  induction hall with
  | nil => rfl
  | @cons a b _ _ hfirst _ ih =>
      obtain ⟨hg, hp⟩ := hk _ _ hfirst
      cases hq : q a with
      | true => rw [List.filter_cons_of_pos (hp.trans hq), List.filter_cons_of_pos hq, List.map_cons,
          List.map_cons, hg, ih]
      | false => rw [List.filter_cons_of_neg (by simp [hp, hq]), List.filter_cons_of_neg (by simp [hq]),
          ih]

/-! ## The element that decides

Of the elements seen so far, the first that satisfies a condition decides, and before
there is one, the first of all.  Whoever keeps the element that decides need not keep
the others.
-/

section Decisive

variable {p : α → Bool} {a : α}

/-- The first element that satisfies `p`, or else the first element. -/
def decisive (p : α → Bool) (l : List α) : Option α := (l.find? p).or l.head?

/-- Nothing is decisive in an empty list. -/
@[simp]
theorem decisive_nil : decisive p [] = none := rfl

/-- A list that is not empty has a decisive element. -/
theorem decisive_eq_none : decisive p l = none ↔ l = [] := by
  cases l with
  | nil => simp
  | cons a l => simp [decisive]

/-- Some element decides as soon as there is one. -/
theorem exists_decisive (h : l ≠ []) : ∃ a b, l.head? = some a ∧ decisive p l = some b := by
  obtain ⟨a, rest, rfl⟩ := List.exists_cons_of_ne_nil h
  obtain ⟨b, hb⟩ := Option.ne_none_iff_exists'.1 fun hnone => h (decisive_eq_none.1 hnone)
  exact ⟨a, b, rfl, hb⟩

/-- The decisive element is in the list. -/
theorem mem_of_decisive (h : decisive p l = some a) : a ∈ l := by
  rcases Option.or_eq_some_iff.1 h with hfind | ⟨-, hhead⟩
  · exact List.mem_of_find?_eq_some hfind
  · exact List.mem_of_head? hhead

/-- The element that decides satisfies `p` as soon as some element does. -/
theorem decisive_iff (h : decisive p l = some a) : p a = true ↔ ∃ b ∈ l, p b = true := by
  constructor
  · intro hp
    exact ⟨a, mem_of_decisive h, hp⟩
  · rintro ⟨b, hb, hp⟩
    rcases Option.or_eq_some_iff.1 h with hfind | ⟨hnone, -⟩
    · exact List.find?_some hfind
    · exact absurd hp (List.find?_eq_none.1 hnone b hb)

/-- One more element decides when it is the first one, or the first that satisfies `p`. -/
theorem decisive_append (l : List α) (a : α) :
    decisive p (l ++ [a]) =
      some (match decisive p l with
        | none => a
        | some b => if p b = false ∧ p a = true then a else b) := by
  cases l with
  | nil => cases hp : p a <;> simp [decisive, hp]
  | cons b l =>
      unfold decisive
      rw [List.find?_append]
      cases hfind : (b :: l).find? p with
      | some c =>
          have hc : p c = true := List.find?_some hfind
          simp [hc]
      | none =>
          have hb : p b = false := by simpa using List.find?_eq_none.1 hfind b (by simp)
          cases hp : p a <;> simp [hb, hp]

end Decisive

end Traversal
