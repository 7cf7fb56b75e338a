import Budgy.Analysis.RecurrenceDetection
import Mathlib.Data.Finset.Max

/-!
# What the detection of recurrences misses

A group is monthly when two of the gaps between its consecutive dates are of a month, and
the groups of close amounts are taken from the lowest amount up.  Three monthly payments are
reported when no other amount of the merchant separates them and none falls between them
(`detecterRecurrences_complete`).  Another purchase at the same merchant can hide them
(`mensualites_manquees`).
-/

set_option autoImplicit false

namespace Budgy

open Relational

variable {occurrences : List OccurrenceTransaction} {o₁ o₂ o₃ : OccurrenceTransaction}

/-- A gap of a month. -/
def EcartMensuel (o o' : OccurrenceTransaction) : Prop :=
  26 ≤ o'.date.toDays - o.date.toDays ∧ o'.date.toDays - o.date.toDays ≤ 35

instance (o o' : OccurrenceTransaction) : Decidable (EcartMensuel o o') :=
  inferInstanceAs (Decidable (_ ∧ _))

/-- Three payments of about the same amount to one merchant, a month apart. -/
structure TroisMensualites (occurrences : List OccurrenceTransaction)
    (o₁ o₂ o₃ : OccurrenceTransaction) : Prop where
  membres : ∀ o ∈ [o₁, o₂, o₃], o ∈ occurrences
  marchand : ∀ o ∈ [o₁, o₂, o₃], extraireTiers o.label = extraireTiers o₁.label
  montants : ∀ o ∈ [o₁, o₂, o₃], ∀ o' ∈ [o₁, o₂, o₃], |o.amountCents - o'.amountCents| ≤ 100
  ecarts : EcartMensuel o₁ o₂ ∧ EcartMensuel o₂ o₃

/-- The occurrences of the merchant of `o`. -/
def duMarchand (occurrences : List OccurrenceTransaction) (o : OccurrenceTransaction) :
    List OccurrenceTransaction :=
  occurrences.filter fun o' => normaliserMarchand o'.label = normaliserMarchand o.label

/-- No other occurrence of the merchant comes between the three. -/
structure SansInterference (occurrences : List OccurrenceTransaction)
    (o₁ o₂ o₃ : OccurrenceTransaction) : Prop where
  /-- The distances between the amounts are computed without overflow. -/
  distances : ∀ o ∈ duMarchand occurrences o₁, ∀ o' ∈ duMarchand occurrences o₁,
    EstI64 (o.amountCents - o'.amountCents)
  /-- An amount below the three that is close to one of them is close to all of them. -/
  montants : ∀ o ∈ duMarchand occurrences o₁,
    (∀ p ∈ [o₁, o₂, o₃], o.amountCents ≤ p.amountCents) →
      (∃ p ∈ [o₁, o₂, o₃], p.amountCents - o.amountCents ≤ 100) →
        ∀ p ∈ [o₁, o₂, o₃], p.amountCents - o.amountCents ≤ 100
  /-- An occurrence whose amount is close to the three does not fall between their dates. -/
  dates : ∀ o ∈ duMarchand occurrences o₁,
    (∀ p ∈ [o₁, o₂, o₃], |o.amountCents - p.amountCents| ≤ 100) →
      ¬ (o₁.date < o.date ∧ o.date < o₂.date) ∧ ¬ (o₂.date < o.date ∧ o.date < o₃.date)

/-! ## Consecutive dates -/

/-- Two elements of a sorted list are consecutive when none stands between them. -/
theorem mem_zip_tail_of_sorted {α : Type} [LinearOrder α] {l : List α} {x y : α}
    (hl : l.Pairwise (· ≤ ·)) (hx : x ∈ l) (hy : y ∈ l) (hxy : x < y)
    (hnone : ∀ z ∈ l, ¬ (x < z ∧ z < y)) : (x, y) ∈ l.zip l.tail := by
  induction l with
  | nil => exact absurd hx List.not_mem_nil
  | cons a l ih =>
      obtain ⟨hfirst, hrest⟩ := List.pairwise_cons.1 hl
      have hyl : y ∈ l := by
        rcases List.mem_cons.1 hy with rfl | hy
        · -- nothing of the list is below its first element
          rcases List.mem_cons.1 hx with rfl | hx
          · exact absurd hxy (lt_irrefl _)
          · exact absurd (hfirst x hx) (not_le.2 hxy)
        · exact hy
      cases l with
      | nil => exact absurd hyl List.not_mem_nil
      | cons b l =>
          rw [List.tail_cons, List.zip_cons_cons, List.mem_cons]
          by_cases hxl : x ∈ b :: l
          · exact Or.inr (ih hrest hxl hyl fun z hz => hnone z (List.mem_cons_of_mem a hz))
          · -- the first element is the lower one, and the next cannot stand between
            obtain rfl : x = a := by simpa [hxl] using hx
            have hxb : x < b := by
              refine lt_of_le_of_ne (hfirst b List.mem_cons_self) fun heq => hxl ?_
              rw [heq]
              exact List.mem_cons_self
            have hby : b ≤ y := by
              rcases List.mem_cons.1 hyl with rfl | hyl
              · exact le_rfl
              · exact (List.pairwise_cons.1 hrest).1 y hyl
            have hyb : ¬ b < y := fun hlt => hnone b (by simp) ⟨hxb, hlt⟩
            exact Or.inl (by rw [le_antisymm hby (not_lt.1 hyb)])

/-- A monthly gap leads to a later day. -/
theorem EcartMensuel.lt {o o' : OccurrenceTransaction} (h : EcartMensuel o o') :
    o.date < o'.date := by
  obtain ⟨h, -⟩ := h
  rw [Gregorian.Date.lt_iff_toDays]
  omega

/-- A group that holds the three, and no date between theirs, is monthly. -/
theorem grappeEstMensuelle_of_mem {grappe : List OccurrenceTransaction}
    (hmem : ∀ o ∈ [o₁, o₂, o₃], o ∈ grappe) (h₁₂ : EcartMensuel o₁ o₂) (h₂₃ : EcartMensuel o₂ o₃)
    (hnone : ∀ o ∈ grappe, ¬ (o₁.date < o.date ∧ o.date < o₂.date) ∧
      ¬ (o₂.date < o.date ∧ o.date < o₃.date)) :
    grappeEstMensuelle grappe = true := by
  have hdates : ∀ o ∈ grappe, o.date ∈ sortBy id (grappe.map OccurrenceTransaction.date) :=
    fun o ho => mem_sortBy.2 (List.mem_map.2 ⟨o, ho, rfl⟩)
  have hsorted : (sortBy id (grappe.map OccurrenceTransaction.date)).Pairwise (· ≤ ·) :=
    pairwise_sortBy id _
  have hentre : ∀ d ∈ sortBy id (grappe.map OccurrenceTransaction.date),
      ¬ (o₁.date < d ∧ d < o₂.date) ∧ ¬ (o₂.date < d ∧ d < o₃.date) := by
    intro d hd
    obtain ⟨o, ho, rfl⟩ := List.mem_map.1 (mem_sortBy.1 hd)
    exact hnone o ho
  have ho₁ := hmem o₁ (by simp)
  have ho₂ := hmem o₂ (by simp)
  have ho₃ := hmem o₃ (by simp)
  have hpaire := mem_zip_tail_of_sorted hsorted (hdates _ ho₁) (hdates _ ho₂) h₁₂.lt
    fun d hd => (hentre d hd).1
  have hpaire' := mem_zip_tail_of_sorted hsorted (hdates _ ho₂) (hdates _ ho₃) h₂₃.lt
    fun d hd => (hentre d hd).2
  refine grappeEstMensuelle_iff.2 ⟨?_, ?_⟩
  · have hdistinctes : ([o₁, o₂, o₃].map OccurrenceTransaction.date).Nodup := by
      have h₁₃ := h₁₂.lt.trans h₂₃.lt
      simp [h₁₂.lt.ne, h₂₃.lt.ne, h₁₃.ne]
    exact (List.subperm_of_subset hdistinctes.of_map hmem).length_le
  · unfold ecartsMensuels
    have hpaires : [(o₁.date, o₂.date), (o₂.date, o₃.date)].Nodup := by
      simp [h₁₂.lt.ne]
    rw [List.countP_eq_length_filter]
    refine (List.subperm_of_subset hpaires ?_).length_le
    intro paire hp
    rcases List.mem_cons.1 hp with rfl | hp
    · exact List.mem_filter.2 ⟨hpaire, decide_eq_true h₁₂⟩
    · obtain rfl := List.mem_singleton.1 hp
      exact List.mem_filter.2 ⟨hpaire', decide_eq_true h₂₃⟩

/-! ## The group of the three -/

/-- The three are in one group of close amounts. -/
theorem exists_grappe_of_trois (h : TroisMensualites occurrences o₁ o₂ o₃)
    (hsans : SansInterference occurrences o₁ o₂ o₃) :
    ∃ grappe ∈ regrouperParMontant (duMarchand occurrences o₁),
      ∀ o ∈ [o₁, o₂, o₃], o ∈ grappe := by
  have hmem : ∀ o ∈ [o₁, o₂, o₃], o ∈ duMarchand occurrences o₁ := by
    intro o ho
    exact List.mem_filter.2 ⟨h.membres o ho, decide_eq_true (h.marchand o ho)⟩
  obtain ⟨bas, hbas, hmin⟩ := Finset.exists_min_image [o₁, o₂, o₃].toFinset
    OccurrenceTransaction.amountCents ⟨o₁, by simp⟩
  obtain ⟨haut, hhaut, hmax⟩ := Finset.exists_max_image [o₁, o₂, o₃].toFinset
    OccurrenceTransaction.amountCents ⟨o₁, by simp⟩
  rw [List.mem_toFinset] at hbas hhaut
  have hmin : ∀ o ∈ [o₁, o₂, o₃], bas.amountCents ≤ o.amountCents :=
    fun o ho => hmin o (List.mem_toFinset.2 ho)
  have hmax : ∀ o ∈ [o₁, o₂, o₃], o.amountCents ≤ haut.amountCents :=
    fun o ho => hmax o (List.mem_toFinset.2 ho)
  -- what takes the lowest amount takes the highest one, and those between
  have hproches : ∀ o ∈ duMarchand occurrences o₁, o.amountCents ≤ bas.amountCents →
      montantsProches o.amountCents bas.amountCents = true →
        ∀ o' ∈ duMarchand occurrences o₁, bas.amountCents ≤ o'.amountCents →
          o'.amountCents ≤ haut.amountCents →
            montantsProches o.amountCents o'.amountCents = true := by
    intro o ho hle hproche o' ho' hle' hle''
    rw [montantsProches_iff (hsans.distances o ho bas (hmem bas hbas))
      (hsans.distances bas (hmem bas hbas) o ho), toleranceMontantCents, abs_le] at hproche
    have hpres := hsans.montants o ho (fun p hp => le_trans hle (hmin p hp))
      ⟨bas, hbas, by omega⟩ haut hhaut
    rw [montantsProches_iff (hsans.distances o ho o' ho') (hsans.distances o' ho' o ho),
      toleranceMontantCents, abs_le]
    omega
  obtain ⟨grappe, hgrappe, hdans⟩ := Clusters.exists_cluster_of_between montantsProches_self
    (hmin haut hhaut) ⟨bas, hmem bas hbas, rfl⟩ hproches
  refine ⟨grappe, ?_, fun o ho => hdans o (hmem o ho) (hmin o ho) (hmax o ho)⟩
  rw [regrouperParMontant_eq]
  exact hgrappe

/-- Three monthly payments to one merchant are reported, when no other of its occurrences
comes between them. -/
theorem detecterRecurrences_complete (occurrences : List OccurrenceTransaction)
    (o₁ o₂ o₃ : OccurrenceTransaction) (h : TroisMensualites occurrences o₁ o₂ o₃)
    (hsans : SansInterference occurrences o₁ o₂ o₃) :
    ∀ o ∈ [o₁, o₂, o₃], ⟨o.id, .mensuel⟩ ∈ detecterRecurrences occurrences := by
  obtain ⟨grappe, hgrappe, hdans⟩ := exists_grappe_of_trois h hsans
  have hmontants := montants_of_mem_regrouper hsans.distances hgrappe
  have hmarchand : ∀ o ∈ grappe, o ∈ duMarchand occurrences o₁ := by
    intro o ho
    rw [regrouperParMontant_eq] at hgrappe
    exact Clusters.mem_of_mem_clusters hgrappe ho
  have hmensuelle : grappeEstMensuelle grappe = true :=
    grappeEstMensuelle_of_mem hdans h.ecarts.1 h.ecarts.2 fun o ho =>
      hsans.dates o (hmarchand o ho) fun p hp => hmontants o ho p (hdans p hp)
  intro o ho
  have hcle : normaliserMarchand o.label = normaliserMarchand o₁.label := h.marchand o ho
  refine mem_detecterRecurrences.2 ⟨o, h.membres o ho, ⟨grappe, ?_, hmensuelle, hdans o ho⟩, rfl⟩
  rw [hcle]
  exact hgrappe

/-- Occurrences of one label are the group of one merchant. -/
theorem parMarchand_of_label (label : String) (hne : occurrences ≠ [])
    (h : ∀ o ∈ occurrences, o.label = label) : parMarchand occurrences = [occurrences] := by
  have hmarchands : (occurrences.map fun o => normaliserMarchand o.label) =
      List.replicate occurrences.length (normaliserMarchand label) := by
    refine List.eq_replicate_iff.2 ⟨by simp, fun marchand hmem => ?_⟩
    obtain ⟨o, ho, rfl⟩ := List.mem_map.1 hmem
    rw [h o ho]
  have hdu : occurrences.filter (fun o => normaliserMarchand o.label = normaliserMarchand label) =
      occurrences := List.filter_eq_self.2 fun o ho => by simp [h o ho]
  unfold parMarchand
  rw [hmarchands, List.replicate_dedup (List.length_pos_iff.2 hne).ne', List.map_singleton, hdu]

/-- Occurrences of one label are all of one merchant. -/
theorem duMarchand_of_label (label : String) (h : ∀ o ∈ occurrences, o.label = label)
    (ho₁ : o₁.label = label) : duMarchand occurrences o₁ = occurrences :=
  List.filter_eq_self.2 fun o ho => by simp [h o ho, ho₁]

/-- Nothing is detected among occurrences of one label when no cluster of their amounts is
monthly. -/
private theorem detecter_of_label (label : String) (hne : occurrences ≠ [])
    (h : ∀ o ∈ occurrences, o.label = label)
    (hvide : (regrouperParMontant occurrences).all fun grappe => !grappeEstMensuelle grappe) :
    detecterRecurrences occurrences = [] := by
  unfold detecterRecurrences
  have hfilter : (regrouperParMontant occurrences).filter (fun grappe => grappeEstMensuelle grappe)
      = [] := by
    simpa [List.filter_eq_nil_iff] using hvide
  rw [parMarchand_of_label label hne h, List.flatMap_singleton, hfilter, List.flatMap_nil]

/-- Three monthly occurrences of the same label, with amounts within a euro of each other. -/
private theorem trois_of_label (label : String) (h : ∀ o ∈ [o₁, o₂, o₃], o.label = label)
    (hmem : ∀ o ∈ [o₁, o₂, o₃], o ∈ occurrences)
    (hmontants : ∀ o ∈ [o₁, o₂, o₃], ∀ o' ∈ [o₁, o₂, o₃], |o.amountCents - o'.amountCents| ≤ 100)
    (hecarts : EcartMensuel o₁ o₂ ∧ EcartMensuel o₂ o₃) :
    TroisMensualites occurrences o₁ o₂ o₃ := by
  refine ⟨hmem, fun o ho => ?_, hmontants, hecarts⟩
  rw [h o ho, h o₁ (by simp)]

/-- A payment to one merchant. -/
def netflix (n : ℕ) (montant jour : ℤ) : OccurrenceTransaction :=
  ⟨Uuid.fromU128 n, "CB NETFLIX", montant, Gregorian.Date.ofDays jour⟩

/-- The three payments of a subscription. -/
def mensualites : List OccurrenceTransaction :=
  [netflix 1 (-1599) 20468, netflix 2 (-1599) 20498, netflix 3 (-1549) 20528]

/-- Neither another amount nor a later payment interferes with the three payments. -/
private theorem sans_interference :
    SansInterference (mensualites ++ [netflix 4 (-4000) 20480, netflix 5 (-1599) 20540])
      (netflix 1 (-1599) 20468) (netflix 2 (-1599) 20498) (netflix 3 (-1549) 20528) := by
  have hdu : duMarchand (mensualites ++ [netflix 4 (-4000) 20480, netflix 5 (-1599) 20540])
      (netflix 1 (-1599) 20468) =
        mensualites ++ [netflix 4 (-4000) 20480, netflix 5 (-1599) 20540] :=
    duMarchand_of_label "CB NETFLIX" (by decide) rfl
  constructor
  all_goals rw [hdu]
  all_goals decide

/-- A dearer purchase at the same merchant leaves them reported, and so does one of the same
price after them. -/
theorem detecterRecurrences_mensualites :
    (⟨Uuid.fromU128 1, .mensuel⟩ ∈ detecterRecurrences
        (mensualites ++ [netflix 4 (-4000) 20480, netflix 5 (-1599) 20540])) ∧
      (⟨Uuid.fromU128 2, .mensuel⟩ ∈ detecterRecurrences
        (mensualites ++ [netflix 4 (-4000) 20480, netflix 5 (-1599) 20540])) ∧
      ⟨Uuid.fromU128 3, .mensuel⟩ ∈ detecterRecurrences
        (mensualites ++ [netflix 4 (-4000) 20480, netflix 5 (-1599) 20540]) := by
  have htrois := detecterRecurrences_complete
    (mensualites ++ [netflix 4 (-4000) 20480, netflix 5 (-1599) 20540])
    (netflix 1 (-1599) 20468) (netflix 2 (-1599) 20498) (netflix 3 (-1549) 20528)
    (trois_of_label "CB NETFLIX" (by decide) (by decide) (by decide) (by decide))
    sans_interference
  exact ⟨htrois (netflix 1 (-1599) 20468) (by simp), htrois (netflix 2 (-1599) 20498) (by simp),
    htrois (netflix 3 (-1549) 20528) (by simp)⟩

/-- A purchase of a close amount between two of the dates hides the three payments, one whose
amount takes the lowest of theirs and not the highest does, and so does one whose distance to
theirs overflows. -/
theorem mensualites_manquees :
    (TroisMensualites (mensualites ++ [netflix 4 (-1599) 20480])
        (netflix 1 (-1599) 20468) (netflix 2 (-1599) 20498) (netflix 3 (-1549) 20528) ∧
      detecterRecurrences (mensualites ++ [netflix 4 (-1599) 20480]) = []) ∧
    (TroisMensualites (mensualites ++ [netflix 4 (-1650) 20400])
        (netflix 1 (-1599) 20468) (netflix 2 (-1599) 20498) (netflix 3 (-1549) 20528) ∧
      detecterRecurrences (mensualites ++ [netflix 4 (-1650) 20400]) = []) ∧
    TroisMensualites
        [netflix 1 (2 ^ 63 - 1) 20468, netflix 2 (2 ^ 63 - 1) 20498, netflix 3 (2 ^ 63 - 1) 20528,
          netflix 4 (-2 ^ 63) 20480]
        (netflix 1 (2 ^ 63 - 1) 20468) (netflix 2 (2 ^ 63 - 1) 20498)
        (netflix 3 (2 ^ 63 - 1) 20528) ∧
      detecterRecurrences
        [netflix 1 (2 ^ 63 - 1) 20468, netflix 2 (2 ^ 63 - 1) 20498, netflix 3 (2 ^ 63 - 1) 20528,
          netflix 4 (-2 ^ 63) 20480] = [] := by
  refine ⟨⟨trois_of_label "CB NETFLIX" ?_ ?_ ?_ ?_, detecter_of_label "CB NETFLIX" ?_ ?_ ?_⟩,
    ⟨trois_of_label "CB NETFLIX" ?_ ?_ ?_ ?_, detecter_of_label "CB NETFLIX" ?_ ?_ ?_⟩,
    trois_of_label "CB NETFLIX" ?_ ?_ ?_ ?_, detecter_of_label "CB NETFLIX" ?_ ?_ ?_⟩
  all_goals decide

end Budgy
