import Budgy.Analysis.Statements
import Budgy.Interface.Answers
import Budgy.Interface.Traversal

/-!
# What the statements can answer

A statement of a task is answered as soon as it can take its effect, whatever the database
chooses; the rows it gives are decrypted one by one, and the first that cannot be stops the
reading.
-/

set_option autoImplicit false

namespace Budgy

open Effects

variable {col : Collation} {s s' : Store}

/-- A statement answers when no failure occurs and its effect succeeds. -/
theorem answers_interroger {r : Requete} {v : r.Reponse} :
    Answers (machine col) (interroger r) s v s' ↔
      ∃ x : ChoixSql, x.panne = none ∧ r.effet col x s = .ok (v, s') := by
  have hrun : Answers (machine col) (interroger r) s v s' ↔
      ∃ x, r.executer col x s = (.ok v, s') := by
    constructor
    · rintro ⟨t, ht⟩
      obtain ⟨x, -, hv, hs⟩ := runs_perform.1 ht
      exact ⟨x, (Prod.ext hv hs).symm⟩
    · rintro ⟨x, hx⟩
      exact ⟨_, runs_perform.2 ⟨x, rfl, (congrArg Prod.fst hx).symm, (congrArg Prod.snd hx).symm⟩⟩
  rw [hrun]
  refine exists_congr fun x => ?_
  constructor
  · intro hx
    rcases Requete.executer_cases col r x s with ⟨e, he⟩ | ⟨v', s₁, hpanne, heffet, heq⟩
    · rw [he] at hx
      cases (Prod.mk.inj hx).1
    · rw [heq] at hx
      obtain ⟨hv, rfl⟩ := Prod.mk.inj hx
      exact ⟨hpanne, by rw [heffet, Except.ok.inj hv]⟩
  · rintro ⟨hpanne, heffet⟩
    rw [Requete.executer, hpanne, heffet]

/-- So does a statement on encrypted rows. -/
theorem answers_interrogerChiffre {r : Requete} {v : r.Reponse} :
    Answers (machine col) (interrogerChiffre r) s v s' ↔
      ∃ x : ChoixSql, x.panne = none ∧ r.effet col x s = .ok (v, s') :=
  answers_mapError.trans answers_interroger

/-- A row that can be decrypted. -/
def Dechiffrable {ρ β : Type} (into : ρ → Except ChiffrementError β) (row : ρ) : Prop :=
  ∃ lu, into row = .ok lu

/-- A row whose decryption succeeds can be decrypted. -/
theorem dechiffrable_of_isOk {ρ β : Type} {into : ρ → Except ChiffrementError β} {row : ρ}
    (h : (into row).isOk = true) : Dechiffrable into row := by
  cases hlu : into row with
  | ok lu => exact ⟨lu, hlu⟩
  | error e =>
      rw [hlu] at h
      cases h

/-- The rows are all decrypted, or none is given. -/
theorem exists_mapM {ρ β : Type} {into : ρ → Except ChiffrementError β} {rows : List ρ} :
    (∃ lus, rows.mapM into = .ok lus) ↔ ∀ row ∈ rows, Dechiffrable into row := by
  constructor
  · rintro ⟨lus, hlus⟩ row hrow
    obtain ⟨lu, -, hlu⟩ := Traversal.exists_of_mem_left hlus hrow
    exact ⟨lu, hlu⟩
  · intro h
    cases hlus : rows.mapM into with
    | ok lus => exact ⟨lus, rfl⟩
    | error e =>
        obtain ⟨row, hrow, herror⟩ := Traversal.exists_error hlus
        obtain ⟨lu, hlu⟩ := h row hrow
        cases herror.symm.trans hlu

end Budgy
