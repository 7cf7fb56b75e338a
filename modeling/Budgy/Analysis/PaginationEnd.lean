import Budgy.Analysis.Scenarios
import Budgy.Model.Pagination

/-!
# When the pages end

The loop of `lister_transactions` asks for a page as long as the bank gives a key for one, and
keeps no memory of the keys.  A bank with finitely many keys therefore ends it exactly when it
does not give any of them without end (`listerTransactions_termine`): a bank that answers again
with the key it was given keeps it asking (`listerTransactions_sansFin`).
-/

set_option autoImplicit false

namespace Budgy

open ClientEnableBanking

/-! ## The keys of a list -/

section Liste

variable {σ : Type} (uuidDepuis : String → Uuid) (banque : Banque σ) (compte : BankAccount)
  (depuis : NaiveDate) (horodatage : DateTime)

/-- The keys that the bank gives in its first `n` answers to a list. -/
def clesDonnees (n : ℕ) (s₀ : σ) : List String :=
  (Loops.trail (tourDeListe uuidDepuis banque compte depuis horodatage) n
    ⟨s₀, none, []⟩).filterMap EtatListe.continuation

/-- The bank answers from the request alone. -/
def SansMemoire (banque : Banque σ) : Prop :=
  ∀ chemin s s', (banque chemin s).1 = (banque chemin s').1

variable {uuidDepuis banque compte depuis horodatage}

/-- A turn that does not end the list brings a key. -/
theorem exists_cle_of_tour {etat etat' : EtatListe σ}
    (h : tourDeListe uuidDepuis banque compte depuis horodatage etat = .inr etat') :
    ∃ cle, etat'.continuation = some cle := by
  unfold tourDeListe at h
  rcases hreponse : banque (cheminTransactions compte depuis etat.continuation) etat.banque with
    ⟨_ | page, banque'⟩
  · rw [hreponse] at h
    cases h
  · rw [hreponse] at h
    cases hlues : lirePage uuidDepuis compte horodatage page with
    | error e => simp [hlues] at h
    | ok lues =>
        cases hcle : page.cle with
        | none => simp [hlues, hcle] at h
        | some cle =>
            simp only [hlues, hcle, Sum.inr.injEq] at h
            exact ⟨cle, h ▸ rfl⟩

/-- The states of the list show the keys that were given. -/
theorem map_continuation_trail (n : ℕ) (s₀ : σ) :
    (Loops.trail (tourDeListe uuidDepuis banque compte depuis horodatage) n ⟨s₀, none, []⟩).map
        EtatListe.continuation =
      (clesDonnees uuidDepuis banque compte depuis horodatage n s₀).map some := by
  unfold clesDonnees
  rw [List.map_filterMap_some_eq_filter_map_isSome, eq_comm, List.filter_eq_self]
  intro continuation hmem
  obtain ⟨etat, hetat, rfl⟩ := List.mem_map.1 hmem
  obtain ⟨etat₀, -, htour⟩ := Relation.TransGen.tail'_iff.1 (Loops.transGen_of_mem_trail hetat)
  obtain ⟨cle, hcle⟩ := exists_cle_of_tour htour
  rw [hcle]
  rfl

/-- The states show no continuation key more often than the bank gave it. -/
theorem count_continuation_le_iff {m : ℕ} {s₀ : σ} :
    (∀ n k, ((Loops.trail (tourDeListe uuidDepuis banque compte depuis horodatage) n
      ⟨s₀, none, []⟩).map EtatListe.continuation).count k ≤ m) ↔
      ∀ n cle, (clesDonnees uuidDepuis banque compte depuis horodatage n s₀).count cle ≤ m := by
  simp only [map_continuation_trail]
  constructor
  · intro h n cle
    rw [← List.count_map_of_injective _ some (Option.some_injective String)]
    exact h n (some cle)
  · intro h n k
    cases k with
    | none => simp [List.count_eq_zero_of_not_mem]
    | some cle =>
        rw [List.count_map_of_injective _ some (Option.some_injective String)]
        exact h n cle

/-! ## A bank without memory -/

variable (uuidDepuis banque compte depuis horodatage) in
/-- The key that follows a key, for a bank that answers from the request alone. -/
def cleApres (s₀ : σ) (continuation : Option String) : Unit ⊕ Option String :=
  match (banque (cheminTransactions compte depuis continuation) s₀).1 with
  | .error _ => .inl ()
  | .ok page =>
      match lirePage uuidDepuis compte horodatage page, page.cle with
      | .ok _, some cle => .inr (some cle)
      | _, _ => .inl ()

/-- The key of a turn is the key that follows. -/
theorem cleApres_of_tour (hbanque : SansMemoire banque) (s₀ : σ) (etat : EtatListe σ) :
    cleApres uuidDepuis banque compte depuis horodatage s₀ etat.continuation =
      (tourDeListe uuidDepuis banque compte depuis horodatage etat).map (fun _ => ())
        EtatListe.continuation := by
  unfold cleApres tourDeListe
  rw [hbanque _ s₀ etat.banque]
  rcases banque (cheminTransactions compte depuis etat.continuation) etat.banque with
    ⟨_ | page, banque'⟩
  · rfl
  · cases hlues : lirePage uuidDepuis compte horodatage page with
    | error e => simp [hlues]
    | ok lues => cases hcle : page.cle <;> simp [hlues, hcle]

/-- A bank without memory that ends the list gives no key twice. -/
theorem nodup_clesDonnees (hbanque : SansMemoire banque) {s₀ : σ}
    (h : Loops.Ends (tourDeListe uuidDepuis banque compte depuis horodatage) ⟨s₀, none, []⟩)
    (n : ℕ) : (clesDonnees uuidDepuis banque compte depuis horodatage n s₀).Nodup := by
  refine List.Nodup.of_map some ?_
  rw [← map_continuation_trail]
  refine Loops.nodup_of_ends (cleApres uuidDepuis banque compte depuis horodatage s₀) ?_ ?_ h n
  · intro etat r htour
    exact ⟨(), by rw [cleApres_of_tour hbanque, htour]; rfl⟩
  · intro etat etat' htour
    rw [cleApres_of_tour hbanque, htour]
    rfl

end Liste

/-! ## The end of a list -/

/-- A bank that gives keys out of a finite set ends the list exactly when it gives none of them
without end; when it gives each at most `m` times, the list takes one request more than the keys
can fill; and when it has no memory, the list ends exactly when no key is given twice. -/
theorem listerTransactions_termine {σ : Type} (uuidDepuis : String → Uuid) (banque : Banque σ)
    (compte : BankAccount) (depuis : NaiveDate) (horodatage : DateTime) (s₀ : σ)
    (cles : Finset String)
    (hcles : ∀ n, ∀ cle ∈ clesDonnees uuidDepuis banque compte depuis horodatage n s₀,
      cle ∈ cles) :
    ((∃ n r, listerTransactions uuidDepuis banque compte depuis horodatage n s₀ = some r) ↔
      ∃ m, ∀ n cle,
        (clesDonnees uuidDepuis banque compte depuis horodatage n s₀).count cle ≤ m) ∧
    (∀ m, (∀ n cle,
        (clesDonnees uuidDepuis banque compte depuis horodatage n s₀).count cle ≤ m) →
      ∃ r, listerTransactions uuidDepuis banque compte depuis horodatage (m * cles.card + 1) s₀ =
        some r) ∧
    (SansMemoire banque →
      ((∃ n r, listerTransactions uuidDepuis banque compte depuis horodatage n s₀ = some r) ↔
        ∀ n, (clesDonnees uuidDepuis banque compte depuis horodatage n s₀).Nodup)) := by
  -- the label of a state is the key that it was reached with
  have hlabels : ∀ n, ∀ etat ∈ Loops.trail
      (tourDeListe uuidDepuis banque compte depuis horodatage) n ⟨s₀, none, []⟩,
      etat.continuation ∈ cles.map .some := by
    intro n etat hetat
    have hmem : etat.continuation ∈
        (clesDonnees uuidDepuis banque compte depuis horodatage n s₀).map some :=
      map_continuation_trail n s₀ ▸ List.mem_map_of_mem hetat
    obtain ⟨cle, hcle, heq⟩ := List.mem_map.1 hmem
    exact Finset.mem_map.2 ⟨cle, hcles n cle hcle, heq⟩
  have hborne : ∀ m, (∀ n cle,
      (clesDonnees uuidDepuis banque compte depuis horodatage n s₀).count cle ≤ m) →
      ∃ r, listerTransactions uuidDepuis banque compte depuis horodatage (m * cles.card + 1) s₀ =
        some r := by
    intro m hm
    rw [← Finset.card_map (s := cles) .some]
    exact Loops.exists_run_of_count_le hlabels (count_continuation_le_iff.2 hm)
  refine ⟨?_, hborne, fun hbanque => ⟨fun hends => nodup_clesDonnees hbanque hends, ?_⟩⟩
  · refine (Loops.ends_iff_of_labels hlabels).trans ?_
    simp only [count_continuation_le_iff]
  · intro hnodup
    exact ⟨_, hborne 1 fun n => List.nodup_iff_count_le_one.1 (hnodup n)⟩

/-- A bank with two pages, which knows whether it gave the first one. -/
def banqueDeuxPages : Banque Bool := fun _ donnee =>
  (.ok ⟨[], if donnee then none else some "page 2"⟩, true)

/-- The keys of the two pages. -/
private theorem clesDonnees_deuxPages (n : ℕ) :
    clesDonnees (fun _ => Uuid.fromU128 0) banqueDeuxPages (compteBancaire "acc-1")
      (Gregorian.Date.ofDays 0) 0 (n + 1) false = ["page 2"] := by
  cases n <;> rfl

/-- The two pages are read in two requests, the number of keys and one more. -/
theorem listerTransactions_deuxPages :
    ∃ r, listerTransactions (fun _ => Uuid.fromU128 0) banqueDeuxPages (compteBancaire "acc-1")
      (Gregorian.Date.ofDays 0) 0 (1 * ({"page 2"} : Finset String).card + 1) false = some r := by
  refine (listerTransactions_termine (fun _ => Uuid.fromU128 0) banqueDeuxPages
    (compteBancaire "acc-1") (Gregorian.Date.ofDays 0) 0 false {"page 2"} ?_).2.1 1 ?_
  · rintro (_ | n) cle hcle
    · cases hcle
    · rw [clesDonnees_deuxPages] at hcle
      simpa using hcle
  · rintro (_ | n) cle
    · exact Nat.zero_le 1
    · rw [clesDonnees_deuxPages]
      exact List.count_le_length

/-- A bank that knows one key and answers every request with it. -/
def banqueMemeCle : Banque Unit := fun _ s => (.ok ⟨[], some "page 2"⟩, s)

/-- A bank that gives the same key again is asked for ever. -/
theorem listerTransactions_sansFin :
    (∀ n, ∀ cle ∈ clesDonnees (fun _ => Uuid.fromU128 0) banqueMemeCle (compteBancaire "acc-1")
        (Gregorian.Date.ofDays 0) 0 n (), cle ∈ ({"page 2"} : Finset String)) ∧
      ¬ ∃ n r, listerTransactions (fun _ => Uuid.fromU128 0) banqueMemeCle
        (compteBancaire "acc-1") (Gregorian.Date.ofDays 0) 0 n () = some r := by
  constructor
  · intro n cle hcle
    obtain ⟨etat, hetat, hcle⟩ := List.mem_filterMap.1 hcle
    obtain ⟨etat₀, -, htour⟩ := Relation.TransGen.tail'_iff.1 (Loops.transGen_of_mem_trail hetat)
    have hetat : etat.continuation = some "page 2" :=
      (congrArg EtatListe.continuation (Sum.inr.inj htour)).symm
    rw [hetat] at hcle
    simpa using hcle.symm
  · refine Loops.not_ends_of_invariant (fun _ => True) ?_ trivial
    intro etat _
    exact ⟨⟨(), some "page 2", etat.transactions ++ []⟩, rfl, trivial⟩

end Budgy
