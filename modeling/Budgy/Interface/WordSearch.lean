import Budgy.Interface.Words

/-!
# Searching words in a sequence of words

A text made of words, searched in another one, is found where its first word ends a word,
its last word starts one, and those in between are whole; a single word may be found
anywhere in a word.
-/

set_option autoImplicit false

namespace Text

/-- The words start with those of `ps`, of which the last may be cut short. -/
def Heads : List String → List String → Prop
  | [], _ => True
  | _ :: _, [] => False
  | [p], w :: _ => p.toList <+: w.toList
  | p :: q :: ps, w :: ws => p = w ∧ Heads (q :: ps) ws

/-- The words of `ps` are found in those of `ws`. -/
def Occurs : List String → List String → Prop
  | [], _ => True
  | [p], ws => ∃ w ∈ ws, p.toList <:+: w.toList
  | p :: q :: ps, ws => ∃ before w after, ws = before ++ w :: after ∧ p.toList <:+ w.toList ∧
      Heads (q :: ps) after

variable {ps ws : List String} {p : String}

/-- A head without a space lies in what comes before the first space. -/
private theorem prefix_of_space_notMem {x y z : List Char} (hx : ' ' ∉ x)
    (h : x <+: y ++ ' ' :: z) : x <+: y := by
  obtain ⟨u, hu⟩ := h
  obtain ⟨v, rfl, -⟩ | ⟨v, rfl, hv⟩ := List.append_eq_append_iff.1 hu
  · exact List.prefix_append x v
  · cases v with
    | nil => simp
    | cons c v =>
        obtain rfl := (List.cons.inj hv).1
        simp at hx

/-- The words start a list of words when their join starts that of the list. -/
theorem heads_iff (hps : ∀ p ∈ ps, p.toList ≠ [] ∧ ' ' ∉ p.toList)
    (hws : ∀ w ∈ ws, ' ' ∉ w.toList) :
    Heads ps ws ↔ (join " " ps).toList <+: (join " " ws).toList := by
  induction ps generalizing ws with
  | nil => simp [Heads]
  | cons p ps ih =>
      obtain ⟨hne, hp⟩ := hps p List.mem_cons_self
      cases ws with
      | nil =>
          rw [toList_join_nil, List.prefix_nil, toList_join_cons, List.append_eq_nil_iff]
          exact ⟨False.elim, fun h => hne h.1⟩
      | cons w ws =>
          have hw := hws w List.mem_cons_self
          cases ps with
          | nil =>
              rw [Heads, toList_join_cons, toList_join_cons, spaced_nil, List.append_nil]
              constructor
              · exact fun h => h.trans (List.prefix_append _ _)
              · intro h
                cases ws with
                | nil => simpa using h
                | cons v ws => exact prefix_of_space_notMem hp h
          | cons q ps =>
              have hrest := @ih ws (fun r hr => hps r (List.mem_cons_of_mem p hr))
                fun v hv => hws v (List.mem_cons_of_mem w hv)
              rw [Heads, hrest, @toList_join_cons p, @toList_join_cons w,
                ← space_cons_toList_join (List.cons_ne_nil q ps)]
              by_cases hend : ws = []
              · subst hend
                rw [toList_join_nil, spaced_nil, List.append_nil, List.prefix_nil,
                  toList_join_cons, List.append_eq_nil_iff]
                constructor
                · rintro ⟨-, hq, -⟩
                  exact absurd hq (hps q (by simp)).1
                · rintro ⟨u, hu⟩
                  exact absurd (by simp [← hu]) hw
              rw [← space_cons_toList_join hend]
              constructor
              · rintro ⟨rfl, u, hu⟩
                exact ⟨u, by rw [← hu]; simp⟩
              · rintro ⟨u, hu⟩
                rw [List.append_assoc, List.cons_append,
                  Separators.append_cons_inj hp hw] at hu
                exact ⟨String.toList_inj.1 hu.1, u, hu.2⟩

/-- What does not start with a space is found after a space, or not at all. -/
private theorem infix_spaced_iff {x : List Char} (hx : x ≠ []) (hhead : x.head? ≠ some ' ') :
    x <:+: spaced ws ↔ x <:+: (join " " ws).toList := by
  by_cases hend : ws = []
  · subst hend
    rw [spaced_nil, toList_join_nil]
  rw [← space_cons_toList_join hend, List.infix_cons_iff]
  refine ⟨fun h => h.resolve_left ?_, .inr⟩
  cases x with
  | nil => exact absurd rfl hx
  | cons c x =>
      rw [List.cons_prefix_cons]
      rintro ⟨rfl, -⟩
      exact hhead rfl

/-- What starts the words after a space is empty, or starts with the space. -/
private theorem prefix_spaced {x : List Char} (h : x <+: spaced ws) :
    x = [] ∨ ∃ y, x = ' ' :: y ∧ y <+: (join " " ws).toList := by
  by_cases hend : ws = []
  · subst hend
    exact .inl (List.prefix_nil.1 h)
  rw [← space_cons_toList_join hend] at h
  cases x with
  | nil => exact .inl rfl
  | cons c x =>
      obtain ⟨rfl, hx⟩ := List.cons_prefix_cons.1 h
      exact .inr ⟨x, rfl, hx⟩

/-- The first character of a text without a space is not one. -/
private theorem head?_ne_space {x : List Char} (hx : ' ' ∉ x) : x.head? ≠ some ' ' :=
  fun h => hx (List.mem_of_head? h)

/-- One word is found in a word. -/
theorem word_infix_iff (hne : p.toList ≠ []) (hp : ' ' ∉ p.toList)
    (hws : ∀ w ∈ ws, ' ' ∉ w.toList) :
    p.toList <:+: (join " " ws).toList ↔ ∃ w ∈ ws, p.toList <:+: w.toList := by
  induction ws with
  | nil => simp [hne]
  | cons w ws ih =>
      have hrest := ih fun v hv => hws v (List.mem_cons_of_mem w hv)
      rw [toList_join_cons, List.infix_append_iff, infix_spaced_iff hne (head?_ne_space hp), hrest,
        List.exists_mem_cons_iff]
      constructor
      · rintro (h | h | ⟨x, y, hxy, hx, hy⟩)
        · exact .inl h
        · exact .inr h
        · obtain rfl | ⟨y, rfl, -⟩ := prefix_spaced hy
          · rw [hxy, List.append_nil]
            exact .inl hx.isInfix
          · exact absurd (by simp [hxy]) hp
      · rintro (h | h)
        · exact .inl h
        · exact .inr (.inl h)

/-- A word and what follows its space are found at the end of a word. -/
theorem words_infix_iff {x : List Char} (hne : p.toList ≠ []) (hp : ' ' ∉ p.toList) (hx : x ≠ [])
    (hws : ∀ w ∈ ws, ' ' ∉ w.toList) :
    p.toList ++ ' ' :: x <:+: (join " " ws).toList ↔ ∃ before w after, ws = before ++ w :: after ∧
      p.toList <:+ w.toList ∧ x <+: (join " " after).toList := by
  induction ws with
  | nil => simp
  | cons w ws ih =>
      have hw := hws w List.mem_cons_self
      have hrest := ih fun v hv => hws v (List.mem_cons_of_mem w hv)
      have hhead : (p.toList ++ ' ' :: x).head? ≠ some ' ' := by
        rw [List.head?_append_of_ne_nil _ hne]
        exact head?_ne_space hp
      rw [toList_join_cons, List.infix_append_iff, infix_spaced_iff (by simp) hhead, hrest]
      constructor
      · rintro (h | ⟨before, v, after, rfl, hv, hafter⟩ | ⟨y, z, hyz, hy, hz⟩)
        · exact absurd (h.subset (by simp)) hw
        · exact ⟨w :: before, v, after, rfl, hv, hafter⟩
        · have hspace : ' ' ∉ y := fun hmem => hw (hy.subset hmem)
          obtain rfl | ⟨u, rfl, hu⟩ := prefix_spaced hz
          · rw [List.append_nil] at hyz
            exact absurd (by simp [← hyz]) hspace
          · obtain ⟨rfl, rfl⟩ := (Separators.append_cons_inj hp hspace).1 hyz
            exact ⟨[], w, ws, rfl, hy, hu⟩
      · rintro ⟨before, v, after, hsplit, hv, hafter⟩
        cases before with
        | nil =>
            obtain ⟨rfl, rfl⟩ := List.cons.inj hsplit
            refine .inr (.inr ⟨p.toList, ' ' :: x, rfl, hv, ?_⟩)
            have hend : ws ≠ [] := by
              rintro rfl
              rw [toList_join_nil, List.prefix_nil] at hafter
              exact hx hafter
            rw [← space_cons_toList_join hend, List.cons_prefix_cons]
            exact ⟨rfl, hafter⟩
        | cons u before =>
            obtain ⟨rfl, rfl⟩ := List.cons.inj hsplit
            exact .inr (.inl ⟨before, v, after, rfl, hv, hafter⟩)

/-- Where words are found in a text made of words. -/
theorem occurs_iff (hps : ∀ p ∈ ps, p.toList ≠ [] ∧ ' ' ∉ p.toList)
    (hws : ∀ w ∈ ws, ' ' ∉ w.toList) :
    Occurs ps ws ↔ contains (join " " ws) (join " " ps) = true := by
  rw [contains_iff]
  rcases ps with _ | ⟨p, _ | ⟨q, ps⟩⟩
  · simp [Occurs]
  · obtain ⟨hne, hp⟩ := hps p List.mem_cons_self
    rw [Occurs, toList_join_cons, spaced_nil, List.append_nil, word_infix_iff hne hp hws]
  · obtain ⟨hne, hp⟩ := hps p List.mem_cons_self
    have hrest : ∀ r ∈ q :: ps, r.toList ≠ [] ∧ ' ' ∉ r.toList := fun r hr =>
      hps r (List.mem_cons_of_mem p hr)
    have hjoin : (join " " (q :: ps)).toList ≠ [] := by
      rw [toList_join_cons]
      exact fun h => (hrest q List.mem_cons_self).1 (List.append_eq_nil_iff.1 h).1
    rw [Occurs, toList_join_cons, ← space_cons_toList_join (List.cons_ne_nil q ps),
      words_infix_iff hne hp hjoin hws]
    constructor
    · rintro ⟨before, w, after, rfl, hw, hafter⟩
      refine ⟨before, w, after, rfl, hw, (heads_iff hrest fun v hv => hws v ?_).1 hafter⟩
      exact List.mem_append_right _ (List.mem_cons_of_mem w hv)
    · rintro ⟨before, w, after, rfl, hw, hafter⟩
      refine ⟨before, w, after, rfl, hw, (heads_iff hrest fun v hv => hws v ?_).2 hafter⟩
      exact List.mem_append_right _ (List.mem_cons_of_mem w hv)

end Text
