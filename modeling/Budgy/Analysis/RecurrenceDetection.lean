import Budgy.Model.Detection
import Budgy.Interface.Clusters

/-!
# What the detection of recurrences reports

`detecter_recurrences` groups the occurrences by merchant, then by amounts close to each
other, and reports the groups that come back every month.  `mem_detecterRecurrences` says when
an occurrence is reported, and `mem_detecter_congr` that the order in which the occurrences
are listed does not matter.
-/

set_option autoImplicit false

namespace Budgy

open Relational

variable {occurrences occurrences' grappe grappe' : List OccurrenceTransaction}
  {r : TransactionRecurrente}

/-- An amount is close to itself. -/
@[simp]
theorem montantsProches_self (a : ℤ) : montantsProches a a = true := by
  unfold montantsProches
  rw [sub_self]
  decide

/-- The grouping of the detection is the clustering by amount. -/
theorem ajouterAuGroupe_eq (grappes : List (List OccurrenceTransaction))
    (o : OccurrenceTransaction) :
    ajouterAuGroupe grappes o =
      Clusters.add OccurrenceTransaction.amountCents montantsProches grappes o := by
  unfold ajouterAuGroupe Clusters.add
  rcases grappes.getLast? with _ | _ | ⟨premier, suite⟩ <;> rfl

/-- The groups of one merchant are clusters of close amounts. -/
theorem regrouperParMontant_eq :
    regrouperParMontant occurrences =
      Clusters.clusters OccurrenceTransaction.amountCents montantsProches occurrences := by
  unfold regrouperParMontant Clusters.clusters
  rw [show ajouterAuGroupe = Clusters.add OccurrenceTransaction.amountCents montantsProches from
    funext fun grappes => funext (ajouterAuGroupe_eq grappes)]

/-- The dates of a group decide, in any order. -/
theorem grappeEstMensuelle_congr (h : grappe.Perm grappe') :
    grappeEstMensuelle grappe = grappeEstMensuelle grappe' := by
  have hdates : sortBy id (grappe.map OccurrenceTransaction.date) =
      sortBy id (grappe'.map OccurrenceTransaction.date) :=
    sortBy_congr (h.map _) fun _ _ _ _ heq => heq
  unfold grappeEstMensuelle
  rw [h.length_eq, hdates]

/-- Distances between amounts that the program computes without overflow. -/
theorem montantsProches_iff {a b : ℤ} (h : EstI64 (a - b)) (h' : EstI64 (b - a)) :
    montantsProches a b = true ↔ |a - b| ≤ toleranceMontantCents := by
  have habs : EstI64 |a - b| := by
    rcases abs_choice (a - b) with heq | heq
    · rwa [heq]
    · rw [heq]
      simpa using h'
  simp [montantsProches, i64_of_estI64 h, i64_of_estI64 habs]

/-- The occurrence is in a monthly group of its merchant. -/
def Mensuelle (occurrences : List OccurrenceTransaction) (o : OccurrenceTransaction) : Prop :=
  ∃ grappe ∈ regrouperParMontant (occurrences.filter fun o' =>
    normaliserMarchand o'.label = normaliserMarchand o.label),
      grappeEstMensuelle grappe = true ∧ o ∈ grappe

/-- What is reported is the occurrences of the monthly groups. -/
theorem mem_detecterRecurrences :
    r ∈ detecterRecurrences occurrences ↔
      ∃ o ∈ occurrences, Mensuelle occurrences o ∧ r = ⟨o.id, .mensuel⟩ := by
  constructor
  · intro h
    obtain ⟨groupe, hgroupe, hr⟩ := List.mem_flatMap.1 h
    obtain ⟨marchand, -, rfl⟩ := List.mem_map.1 hgroupe
    obtain ⟨grappe, hgrappe, hr⟩ := List.mem_flatMap.1 hr
    obtain ⟨o, ho, rfl⟩ := List.mem_map.1 hr
    obtain ⟨hgrappe, hmensuelle⟩ := List.mem_filter.1 hgrappe
    rw [regrouperParMontant_eq] at hgrappe
    obtain ⟨hmem, hmarchand⟩ := List.mem_filter.1 (Clusters.mem_of_mem_clusters hgrappe ho)
    obtain rfl : normaliserMarchand o.label = marchand := by simpa using hmarchand
    exact ⟨o, hmem, ⟨grappe, regrouperParMontant_eq ▸ hgrappe, hmensuelle, ho⟩, rfl⟩
  · rintro ⟨o, ho, ⟨grappe, hgrappe, hmensuelle, hmem⟩, rfl⟩
    refine List.mem_flatMap.2 ⟨_, List.mem_map.2 ⟨normaliserMarchand o.label, ?_, rfl⟩, ?_⟩
    · exact List.mem_dedup.2 (List.mem_map.2 ⟨o, ho, rfl⟩)
    · exact List.mem_flatMap.2
        ⟨grappe, List.mem_filter.2 ⟨hgrappe, hmensuelle⟩, List.mem_map.2 ⟨o, hmem, rfl⟩⟩

/-- The groups of an occurrence do not depend on the order of the others. -/
theorem Mensuelle.congr {o : OccurrenceTransaction} (h : occurrences.Perm occurrences')
    (ho : Mensuelle occurrences o) : Mensuelle occurrences' o := by
  obtain ⟨grappe, hgrappe, hmensuelle, hmem⟩ := ho
  have hmarchand := h.filter fun o' => normaliserMarchand o'.label = normaliserMarchand o.label
  rw [regrouperParMontant_eq] at hgrappe
  obtain ⟨grappe', hgrappe', hperm⟩ :=
    (Clusters.similar_clusters montantsProches_self hmarchand).exists_perm hgrappe
  rw [← regrouperParMontant_eq] at hgrappe'
  exact ⟨grappe', hgrappe', grappeEstMensuelle_congr hperm ▸ hmensuelle, hperm.mem_iff.1 hmem⟩

/-- Two readings of the same occurrences, in any order, report the same transactions. -/
theorem mem_detecter_congr (h : occurrences.Perm occurrences') :
    r ∈ detecterRecurrences occurrences ↔ r ∈ detecterRecurrences occurrences' := by
  simp only [mem_detecterRecurrences]
  constructor
  · rintro ⟨o, ho, hmensuelle, rfl⟩
    exact ⟨o, h.mem_iff.1 ho, hmensuelle.congr h, rfl⟩
  · rintro ⟨o, ho, hmensuelle, rfl⟩
    exact ⟨o, h.mem_iff.2 ho, hmensuelle.congr h.symm, rfl⟩

/-! ## What is reported is sound -/

/-- The gaps of a month between consecutive dates. -/
def ecartsMensuels (dates : List NaiveDate) : ℕ :=
  (dates.zip dates.tail).countP fun paire =>
    intervalleMensuelMinJours ≤ paire.2.toDays - paire.1.toDays ∧
      paire.2.toDays - paire.1.toDays ≤ intervalleMensuelMaxJours

/-- Reported occurrences of one merchant that come back every month for about the same
amount. -/
structure GroupeMensuel (occurrences groupe : List OccurrenceTransaction) : Prop where
  reportees : ∀ o ∈ groupe, o ∈ occurrences ∧ ⟨o.id, .mensuel⟩ ∈ detecterRecurrences occurrences
  distinctes : (groupe.map OccurrenceTransaction.id).Nodup
  marchand : ∀ o ∈ groupe, ∀ o' ∈ groupe, extraireTiers o.label = extraireTiers o'.label
  taille : 3 ≤ groupe.length
  montants : ∀ o ∈ groupe, ∀ o' ∈ groupe, |o.amountCents - o'.amountCents| ≤ 100
  ecarts : ∃ chronologie, groupe.Perm chronologie ∧
    (chronologie.Pairwise fun o o' => o.date ≤ o'.date) ∧
      2 ≤ ecartsMensuels (chronologie.map OccurrenceTransaction.date)

/-- A monthly group has three members and two gaps of a month. -/
theorem grappeEstMensuelle_iff :
    grappeEstMensuelle grappe = true ↔ 3 ≤ grappe.length ∧
      2 ≤ ecartsMensuels (sortBy id (grappe.map OccurrenceTransaction.date)) := by
  unfold grappeEstMensuelle ecartsMensuels
  by_cases htaille : grappe.length < occurrencesMinimales
  · have hnot : ¬ 3 ≤ grappe.length := not_le.2 htaille
    simp [htaille, hnot]
  · have htaille' : 3 ≤ grappe.length := not_lt.1 htaille
    simp [htaille', occurrencesMinimales]

/-- Sorting the dates is sorting by date. -/
theorem sortBy_map_date :
    sortBy id (grappe.map OccurrenceTransaction.date) =
      (sortBy OccurrenceTransaction.date grappe).map OccurrenceTransaction.date := by
  have hperm : (sortBy id (grappe.map OccurrenceTransaction.date)).Perm
      ((sortBy OccurrenceTransaction.date grappe).map OccurrenceTransaction.date) :=
    (perm_sortBy id _).trans ((perm_sortBy OccurrenceTransaction.date grappe).symm.map _)
  refine hperm.eq_of_pairwise (fun a b _ _ hab hba => le_antisymm hab hba) (pairwise_sortBy id _) ?_
  exact List.pairwise_map.2 (pairwise_sortBy OccurrenceTransaction.date grappe)

/-- The amounts of a cluster are close to each other, when their differences are computed
without overflow. -/
theorem montants_of_mem_regrouper
    (hmontants : ∀ o ∈ occurrences, ∀ o' ∈ occurrences, EstI64 (o.amountCents - o'.amountCents))
    (hgrappe : grappe ∈ regrouperParMontant occurrences) :
    ∀ o ∈ grappe, ∀ o' ∈ grappe, |o.amountCents - o'.amountCents| ≤ 100 := by
  rw [regrouperParMontant_eq] at hgrappe
  have hmem : ∀ o ∈ grappe, o ∈ occurrences := fun o ho => Clusters.mem_of_mem_clusters hgrappe ho
  obtain ⟨premier, suite, rfl, hproches⟩ := Clusters.around_of_mem_clusters hgrappe
  -- every amount is at most the tolerance above the first
  have hborne : ∀ o ∈ premier :: suite,
      premier.amountCents ≤ o.amountCents ∧ o.amountCents - premier.amountCents ≤ 100 := by
    intro o ho
    have hpremier := hmem premier List.mem_cons_self
    rcases List.mem_cons.1 ho with rfl | ho'
    · omega
    · obtain ⟨hle, hproche⟩ := hproches o ho'
      rw [montantsProches_iff (hmontants _ hpremier _ (hmem o ho))
        (hmontants _ (hmem o ho) _ hpremier), abs_sub_comm] at hproche
      exact ⟨hle, le_trans (le_abs_self _) hproche⟩
  intro o ho o' ho'
  have ho := hborne o ho
  have ho' := hborne o' ho'
  rw [abs_le]
  omega

/-- The group that reports an occurrence. -/
theorem Mensuelle.groupe (hid : (occurrences.map OccurrenceTransaction.id).Nodup)
    (hmontants : ∀ o ∈ occurrences, ∀ o' ∈ occurrences, EstI64 (o.amountCents - o'.amountCents))
    {o : OccurrenceTransaction} (ho : Mensuelle occurrences o) :
    ∃ groupe, GroupeMensuel occurrences groupe ∧ o ∈ groupe := by
  obtain ⟨grappe, hgrappe, hmensuelle, hmem⟩ := ho
  have hdu : ∀ o' ∈ grappe, o' ∈ occurrences ∧
      normaliserMarchand o'.label = normaliserMarchand o.label := by
    intro o' ho'
    have hmem' := hgrappe
    rw [regrouperParMontant_eq] at hmem'
    simpa using Clusters.mem_of_mem_clusters hmem' ho'
  obtain ⟨htaille, hecarts⟩ := grappeEstMensuelle_iff.1 hmensuelle
  refine ⟨grappe, ?_, hmem⟩
  constructor
  case reportees =>
    intro o' ho'
    obtain ⟨hocc, hmarchand⟩ := hdu o' ho'
    refine ⟨hocc, mem_detecterRecurrences.2 ⟨o', hocc, ⟨grappe, ?_, hmensuelle, ho'⟩, rfl⟩⟩
    rwa [hmarchand]
  case distinctes =>
    have hsorted := (List.filter_sublist (p := fun o' : OccurrenceTransaction =>
      normaliserMarchand o'.label = normaliserMarchand o.label) (l := occurrences)).map
        OccurrenceTransaction.id
    rw [regrouperParMontant_eq] at hgrappe
    have hsub := (Clusters.sublist_of_mem_clusters hgrappe).map OccurrenceTransaction.id
    refine hsub.nodup (((perm_sortBy _ _).map _).nodup_iff.2 (hsorted.nodup hid))
  case marchand =>
    intro o' ho' o'' ho''
    exact (hdu o' ho').2.trans (hdu o'' ho'').2.symm
  case taille => exact htaille
  case montants =>
    refine montants_of_mem_regrouper ?_ hgrappe
    intro o' ho' o'' ho''
    exact hmontants o' (List.mem_filter.1 ho').1 o'' (List.mem_filter.1 ho'').1
  case ecarts =>
    rw [sortBy_map_date] at hecarts
    exact ⟨_, (perm_sortBy OccurrenceTransaction.date grappe).symm,
      pairwise_sortBy OccurrenceTransaction.date grappe, hecarts⟩

/-! ## What is reported once -/

/-- The identifiers that the groups of one merchant report. -/
def idsDuGroupe (groupe : List OccurrenceTransaction) : List TransactionBancaireId :=
  ((regrouperParMontant groupe).filter fun grappe => grappeEstMensuelle grappe).flatten.map
    OccurrenceTransaction.id

/-- The identifiers detected are those of the groups of each merchant. -/
theorem map_id_detecter :
    (detecterRecurrences occurrences).map TransactionRecurrente.id =
      (parMarchand occurrences).flatMap idsDuGroupe := by
  have hgroupe : ∀ groupe : List OccurrenceTransaction,
      (((regrouperParMontant groupe).filter fun grappe => grappeEstMensuelle grappe).flatMap
        fun grappe => grappe.map fun o =>
          (⟨o.id, .mensuel⟩ : TransactionRecurrente)).map TransactionRecurrente.id =
      idsDuGroupe groupe := by
    intro groupe
    unfold idsDuGroupe
    rw [List.map_flatMap, List.map_flatten, List.flatMap_def]
    simp [Function.comp_def]
  unfold detecterRecurrences
  rw [List.map_flatMap]
  exact List.flatMap_congr fun groupe _ => hgroupe groupe

/-- The clusters of a merchant report its occurrences, each of them once. -/
theorem idsDuGroupe_sublist (groupe : List OccurrenceTransaction) :
    (idsDuGroupe groupe).Sublist
      ((sortBy OccurrenceTransaction.amountCents groupe).map OccurrenceTransaction.id) := by
  have hflatten : ((regrouperParMontant groupe).filter fun grappe =>
      grappeEstMensuelle grappe).flatten.Sublist (regrouperParMontant groupe).flatten :=
    List.filter_sublist.flatten
  rw [regrouperParMontant_eq, Clusters.flatten_clusters, ← regrouperParMontant_eq] at hflatten
  exact hflatten.map OccurrenceTransaction.id

/-- An identifier is reported once: the merchants share the occurrences out, and so do the
groups of one merchant. -/
theorem nodup_detecter (hid : (occurrences.map OccurrenceTransaction.id).Nodup) :
    ((detecterRecurrences occurrences).map TransactionRecurrente.id).Nodup := by
  have hmem : ∀ groupe : List OccurrenceTransaction, ∀ id ∈ idsDuGroupe groupe,
      ∃ o ∈ groupe, o.id = id := by
    intro groupe id hid
    obtain ⟨o, ho, rfl⟩ := List.mem_map.1 ((idsDuGroupe_sublist groupe).subset hid)
    exact ⟨o, mem_sortBy.1 ho, rfl⟩
  rw [map_id_detecter, List.nodup_flatMap]
  constructor
  · intro groupe hgroupe
    obtain ⟨marchand, -, rfl⟩ := List.mem_map.1 hgroupe
    have hsub : (occurrences.filter fun o => normaliserMarchand o.label = marchand).Sublist
        occurrences := List.filter_sublist
    have hgroupe := (hsub.map OccurrenceTransaction.id).nodup hid
    exact (idsDuGroupe_sublist _).nodup (((perm_sortBy _ _).map _).nodup_iff.2 hgroupe)
  · -- two merchants have no occurrence in common
    refine List.pairwise_map.2 ((List.nodup_dedup _).imp ?_)
    intro marchand marchand' hne id hmarchand hmarchand'
    obtain ⟨o, ho, rfl⟩ := hmem _ id hmarchand
    obtain ⟨o', ho', heq⟩ := hmem _ _ hmarchand'
    obtain ⟨hocc, hlabel⟩ := List.mem_filter.1 ho
    obtain ⟨hocc', hlabel'⟩ := List.mem_filter.1 ho'
    obtain rfl := List.inj_on_of_nodup_map hid hocc' hocc heq
    have hlabel : normaliserMarchand o'.label = marchand := by simpa using hlabel
    have hlabel' : normaliserMarchand o'.label = marchand' := by simpa using hlabel'
    exact hne (hlabel.symm.trans hlabel')

/-- The detection reports an occurrence once, with a group that comes back every month for
about the same amount, and it does not depend on the order of the occurrences. -/
theorem detecterRecurrences_sound (occurrences : List OccurrenceTransaction)
    (hid : (occurrences.map OccurrenceTransaction.id).Nodup)
    (hmontants : ∀ o ∈ occurrences, ∀ o' ∈ occurrences,
      EstI64 (o.amountCents - o'.amountCents)) :
    ((detecterRecurrences occurrences).map TransactionRecurrente.id).Nodup ∧
    (∀ r ∈ detecterRecurrences occurrences, ∃ groupe, GroupeMensuel occurrences groupe ∧
      ∃ o ∈ groupe, o.id = r.id) ∧
    ∀ occurrences', occurrences.Perm occurrences' → ∀ id : TransactionBancaireId,
      id ∈ (detecterRecurrences occurrences).map TransactionRecurrente.id ↔
        id ∈ (detecterRecurrences occurrences').map TransactionRecurrente.id := by
  refine ⟨nodup_detecter hid, ?_, ?_⟩
  · intro r hr
    obtain ⟨o, -, hmensuelle, rfl⟩ := mem_detecterRecurrences.1 hr
    obtain ⟨groupe, hgroupe, ho⟩ := hmensuelle.groupe hid hmontants
    exact ⟨groupe, hgroupe, o, ho, rfl⟩
  · intro occurrences' h id
    have hmem := fun r : TransactionRecurrente => mem_detecter_congr (r := r) h
    simp only [List.mem_map, hmem]

/-- Three monthly payments of one subscription, and a purchase at the same merchant. -/
def abonnement : List OccurrenceTransaction :=
  [⟨Uuid.fromU128 1, "CB NETFLIX", -1599, Gregorian.Date.ofDays 20458⟩,
   ⟨Uuid.fromU128 2, "CB NETFLIX", -1599, Gregorian.Date.ofDays 20489⟩,
   ⟨Uuid.fromU128 3, "CB NETFLIX", -4000, Gregorian.Date.ofDays 20493⟩,
   ⟨Uuid.fromU128 4, "CB NETFLIX", -1649, Gregorian.Date.ofDays 20517⟩]

/-- The three payments of the subscription are detected, and the purchase is not. -/
theorem detecterRecurrences_abonnement :
    (∀ r ∈ detecterRecurrences abonnement, ∃ groupe, GroupeMensuel abonnement groupe ∧
      ∃ o ∈ groupe, o.id = r.id) ∧
    (detecterRecurrences abonnement).map TransactionRecurrente.id =
      [Uuid.fromU128 4, Uuid.fromU128 1, Uuid.fromU128 2] :=
  ⟨(detecterRecurrences_sound abonnement (by decide) (by decide +kernel)).2.1,
    by decide +kernel⟩

end Budgy
