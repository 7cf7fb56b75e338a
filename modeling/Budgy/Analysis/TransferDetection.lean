import Budgy.Interface.Greedy
import Budgy.Model.Detection

/-!
# The detection of transfers is a stable matching

The loop of `detecter_transferts_internes` is a greedy selection of couples
(`detecter_eq_retenus`): two couples conflict when they share a movement, and a couple of
unlike labels is admissible only when it is without doubt.  So the couples retained are
disjoint, and an admissible couple that is left out meets a better one
(`detection_stable`).
-/

set_option autoImplicit false

namespace Budgy

open Relational Gregorian

/-- A debit and a credit that may be the two faces of one transfer. -/
structure MouvementCandidat.Face (debit credit : MouvementCandidat) : Prop where
  negatif : debit.amountCents < 0
  positif : 0 < credit.amountCents
  oppose : credit.amountCents = -debit.amountCents
  comptes : credit.compte ≠ debit.compte
  jours : |credit.date.toDays - debit.date.toDays| ≤ toleranceJours

/-- The couple of a debit and a credit. -/
def Couple.de (debit credit : MouvementCandidat) : Couple :=
  ⟨ressemblance debit.libelle credit.libelle, debit, credit⟩

/-- The identifiers of the two faces. -/
def Couple.faces (c : Couple) : List TransactionBancaireId := [c.debit.id, c.credit.id]

/-- The amounts of a list of movements are those of an `i64`, above the least. -/
def Opposables (mouvements : List MouvementCandidat) : Prop :=
  ∀ m ∈ mouvements, i64Min < m.amountCents ∧ m.amountCents ≤ i64Max

section Couples

variable {mouvements : List MouvementCandidat}

/-- The couples the loop goes through are those of the opposite movements. -/
theorem mem_couplesPossibles (hm : Opposables mouvements) {c : Couple} :
    c ∈ couplesPossibles mouvements ↔
      ∃ debit ∈ mouvements, ∃ credit ∈ mouvements, debit.Face credit ∧ c = Couple.de debit credit := by
  have hface : ∀ debit ∈ mouvements, ∀ credit : MouvementCandidat,
      debit.amountCents < 0 → (sontLesDeuxFaces debit credit = true ↔
        credit.amountCents = -debit.amountCents ∧ credit.compte ≠ debit.compte ∧
          |credit.date.toDays - debit.date.toDays| ≤ toleranceJours) := by
    intro debit hdebit credit hneg
    have hopp : i64 (-debit.amountCents) = -debit.amountCents := by
      obtain ⟨hmin, hmax⟩ := hm debit hdebit
      refine i64_of_estI64 ⟨?_, ?_⟩
      · unfold i64Min
        omega
      · unfold i64Min at hmin
        unfold i64Max
        omega
    rw [sontLesDeuxFaces, hopp]
    simp only [Bool.and_eq_true, decide_eq_true_eq, ne_eq]
    constructor
    · rintro ⟨⟨h₁, h₂⟩, h₃⟩
      exact ⟨h₂, h₁, h₃⟩
    · rintro ⟨h₁, h₂, h₃⟩
      exact ⟨⟨h₂, h₁⟩, h₃⟩
  simp only [couplesPossibles, List.mem_flatMap, List.mem_filter, List.mem_map, decide_eq_true_eq]
  constructor
  · rintro ⟨debit, ⟨hdebit, hneg⟩, credit, ⟨⟨hcredit, hpos⟩, hdeux⟩, rfl⟩
    obtain ⟨h₁, h₂, h₃⟩ := (hface debit hdebit credit hneg).1 hdeux
    exact ⟨debit, hdebit, credit, hcredit, ⟨hneg, hpos, h₁, h₂, h₃⟩, rfl⟩
  · rintro ⟨debit, hdebit, credit, hcredit, h, rfl⟩
    exact ⟨debit, ⟨hdebit, h.negatif⟩, credit, ⟨⟨hcredit, h.positif⟩,
      (hface debit hdebit credit h.negatif).2 ⟨h.oppose, h.comptes, h.jours⟩⟩, rfl⟩

/-- When one element only satisfies a condition, it is that one. -/
private theorem eq_of_countP_eq_one {α : Type} {p : α → Bool} {l : List α} (h : l.countP p = 1)
    {a b : α} (ha : a ∈ l) (hb : b ∈ l) (hpa : p a = true) (hpb : p b = true) : a = b := by
  rw [List.countP_eq_length_filter] at h
  obtain ⟨c, hc⟩ := List.length_eq_one_iff.1 h
  have hmem : ∀ x ∈ l, p x = true → x = c := fun x hx hpx =>
    List.mem_singleton.1 (hc ▸ List.mem_filter.2 ⟨hx, hpx⟩)
  rw [hmem a ha hpa, hmem b hb hpb]

/-- A couple without doubt is the only one of its debit and of its credit. -/
theorem eq_of_sansDoute {couples : List Couple} {c c' : Couple} (hc : c ∈ couples)
    (hc' : c' ∈ couples) (h : appariementSansDoute couples c.debit c.credit = true)
    (hshare : c'.debit.id = c.debit.id ∨ c'.credit.id = c.credit.id) : c' = c := by
  obtain ⟨⟨⟨hdebit, hcredit⟩, -⟩, -⟩ := by simpa [appariementSansDoute] using h
  rcases hshare with hid | hid
  · exact eq_of_countP_eq_one hdebit hc' hc (by simpa using hid) (by simp)
  · exact eq_of_countP_eq_one hcredit hc' hc (by simpa using hid) (by simp)

end Couples

/-! ## The loop is a greedy selection -/

section Selection

variable (couples : List Couple)

/-- A couple the loop may retain. -/
def Couple.admissible (c : Couple) : Bool :=
  !(c.score < ressemblanceMinimale && !appariementSansDoute couples c.debit c.credit)

/-- Two couples that share a movement. -/
def Couple.conflit (c c' : Couple) : Bool :=
  c.debit.id = c'.debit.id || c.credit.id = c'.credit.id

/-- The couples retained among those of a list, in their order. -/
def couplesRetenus : List Couple :=
  Greedy.select (Couple.admissible couples) Couple.conflit (sortBy Couple.ordre couples)

/-- The state of the loop that has retained these couples. -/
structure Appariement.Represente (etat : Appariement) (retenus : List Couple) : Prop where
  debitsPris : ∀ id, id ∈ etat.debitsPris ↔ ∃ c ∈ retenus, c.debit.id = id
  creditsPris : ∀ id, id ∈ etat.creditsPris ↔ ∃ c ∈ retenus, c.credit.id = id
  apparies : etat.apparies = retenus.flatMap Couple.faces

variable {couples}

/-- What the sets of taken movements say of a couple. -/
private theorem pris_iff {etat : Appariement} {retenus : List Couple}
    (h : etat.Represente retenus) (c : Couple) :
    (etat.debitsPris.contains c.debit.id || etat.creditsPris.contains c.credit.id) =
      retenus.any fun c' => c'.conflit c := by
  rw [Bool.eq_iff_iff, Bool.or_eq_true, List.contains_iff_mem, List.contains_iff_mem,
    h.debitsPris, h.creditsPris]
  simp only [List.any_eq_true, Couple.conflit, Bool.or_eq_true, decide_eq_true_eq]
  constructor
  · rintro (⟨c', hc', hid⟩ | ⟨c', hc', hid⟩)
    · exact ⟨c', hc', .inl hid⟩
    · exact ⟨c', hc', .inr hid⟩
  · rintro ⟨c', hc', hid | hid⟩
    · exact .inl ⟨c', hc', hid⟩
    · exact .inr ⟨c', hc', hid⟩

/-- One more couple. -/
private theorem represente_append {etat : Appariement} {retenus : List Couple}
    (h : etat.Represente retenus) (c : Couple) :
    Appariement.Represente ⟨c.debit.id :: etat.debitsPris, c.credit.id :: etat.creditsPris,
      etat.apparies ++ [c.debit.id, c.credit.id]⟩ (retenus ++ [c]) where
  debitsPris id := by
    rw [List.mem_cons, h.debitsPris]
    simp [or_and_right, exists_or, or_comm, eq_comm]
  creditsPris id := by
    rw [List.mem_cons, h.creditsPris]
    simp [or_and_right, exists_or, or_comm, eq_comm]
  apparies := by
    simp only [h.apparies, List.flatMap_append]
    simp [Couple.faces]

/-- One turn of the loop is one turn of the selection. -/
theorem Appariement.Represente.examiner {etat : Appariement} {retenus : List Couple}
    (h : etat.Represente retenus) (c : Couple) :
    (examinerCouple couples etat c).Represente
      (Greedy.step (Couple.admissible couples) Couple.conflit retenus c) := by
  unfold examinerCouple Greedy.step
  rw [pris_iff h]
  cases hpris : retenus.any fun c' => c'.conflit c with
  | true => exact h
  | false =>
      cases hdoute : c.score < ressemblanceMinimale &&
          !appariementSansDoute couples c.debit c.credit with
      | true =>
          simp only [Couple.admissible, hdoute]
          exact h
      | false =>
          simp only [Couple.admissible, hdoute]
          exact represente_append h c

/-- The loop returns the faces of the couples that the selection retains. -/
theorem detecter_eq_retenus (mouvements : List MouvementCandidat) :
    detecterTransfertsInternes mouvements =
      (couplesRetenus (couplesPossibles mouvements)).flatMap Couple.faces := by
  have hloop : ∀ (l : List Couple) (etat : Appariement) (retenus : List Couple),
      etat.Represente retenus →
      (l.foldl (examinerCouple (couplesPossibles mouvements)) etat).Represente
        (l.foldl (Greedy.step (Couple.admissible (couplesPossibles mouvements)) Couple.conflit)
          retenus) := by
    intro l
    induction l with
    | nil => exact fun etat retenus h => h
    | cons c l ih => exact fun etat retenus h => ih _ _ (h.examiner c)
  exact (hloop _ ⟨[], [], []⟩ [] ⟨by simp, by simp, rfl⟩).apparies

end Selection

/-! ## The matching -/

/-- The couples retained form a matching that no couple of like labels improves on. -/
structure AppariementStable (mouvements : List MouvementCandidat) (retenus : List Couple) :
    Prop where
  possibles : ∀ c ∈ retenus, c.debit ∈ mouvements ∧ c.credit ∈ mouvements ∧
    c.debit.Face c.credit ∧ c = Couple.de c.debit c.credit
  disjoints : (retenus.flatMap Couple.faces).Nodup
  stable : ∀ debit ∈ mouvements, ∀ credit ∈ mouvements, debit.Face credit →
    ressemblanceMinimale ≤ ressemblance debit.libelle credit.libelle →
      Couple.de debit credit ∈ retenus ∨ ∃ c ∈ retenus,
        (c.debit = debit ∨ c.credit = credit) ∧ c.ordre ≤ (Couple.de debit credit).ordre
  sansDoute : ∀ c ∈ retenus, c.score < ressemblanceMinimale →
    (∀ credit ∈ mouvements, c.debit.Face credit → credit = c.credit) ∧
    (∀ debit ∈ mouvements, debit.Face c.credit → debit = c.debit) ∧
    c.debit.rangeALaMain = false ∧ c.credit.rangeALaMain = false

section Matching

variable {mouvements : List MouvementCandidat}

/-- Movements are known by their identifiers. -/
private theorem eq_of_id (hid : (mouvements.map MouvementCandidat.id).Nodup)
    {m m' : MouvementCandidat} (hm : m ∈ mouvements) (hm' : m' ∈ mouvements) (h : m.id = m'.id) :
    m = m' :=
  List.inj_on_of_nodup_map hid hm hm' h

/-- The faces of couples free of conflicts are all different: a debit is not a credit. -/
private theorem nodup_faces (hid : (mouvements.map MouvementCandidat.id).Nodup)
    {retenus : List Couple} (hpossibles : ∀ c ∈ retenus, c.debit ∈ mouvements ∧
      c.credit ∈ mouvements ∧ c.debit.Face c.credit)
    (hdisjoints : retenus.Pairwise fun c c' => c.conflit c' = false) :
    (retenus.flatMap Couple.faces).Nodup := by
  have hautre : ∀ c ∈ retenus, ∀ c' ∈ retenus, c.debit.id ≠ c'.credit.id := by
    intro c hc c' hc' heq
    obtain ⟨hdebit, -, hface⟩ := hpossibles c hc
    obtain ⟨-, hcredit, hface'⟩ := hpossibles c' hc'
    have hneg := hface.negatif
    have hpos := hface'.positif
    rw [eq_of_id hid hdebit hcredit heq] at hneg
    omega
  rw [List.nodup_flatMap]
  constructor
  · intro c hc
    simpa [Couple.faces] using hautre c hc c hc
  · refine hdisjoints.imp_of_mem ?_
    intro c c' hc hc' hconflit
    obtain ⟨hdebit, hcredit⟩ := by simpa [Couple.conflit] using hconflit
    have hdebit : c'.debit.id ≠ c.debit.id := Ne.symm hdebit
    have hcredit : c'.credit.id ≠ c.credit.id := Ne.symm hcredit
    simp [Function.onFun, Couple.faces, hdebit, hcredit, hautre c' hc' c hc,
      (hautre c hc c' hc').symm]

/-- The couples retained are possible, and may be retained. -/
private theorem mem_retenus {c : Couple} (hc : c ∈ couplesRetenus (couplesPossibles mouvements)) :
    c ∈ couplesPossibles mouvements ∧ c.admissible (couplesPossibles mouvements) = true := by
  obtain ⟨hc, hadmissible⟩ := Greedy.mem_of_mem_select hc
  exact ⟨mem_sortBy.1 hc, hadmissible⟩

/-- The couples retained are made of opposite movements. -/
theorem retenus_possibles (hm : Opposables mouvements) :
    ∀ c ∈ couplesRetenus (couplesPossibles mouvements),
      c.debit ∈ mouvements ∧ c.credit ∈ mouvements ∧ c.debit.Face c.credit ∧
        c = Couple.de c.debit c.credit := by
  intro c hc
  obtain ⟨debit, hdebit, credit, hcredit, hface, rfl⟩ :=
    (mem_couplesPossibles hm).1 (mem_retenus hc).1
  exact ⟨hdebit, hcredit, hface, rfl⟩

/-- No movement is in two couples. -/
theorem retenus_disjoints (hm : Opposables mouvements)
    (hid : (mouvements.map MouvementCandidat.id).Nodup) :
    ((couplesRetenus (couplesPossibles mouvements)).flatMap Couple.faces).Nodup := by
  refine nodup_faces hid (fun c hc => ?_) Greedy.pairwise_select
  obtain ⟨h₁, h₂, h₃, -⟩ := retenus_possibles hm c hc
  exact ⟨h₁, h₂, h₃⟩

/-- The result of the detection lists the faces of a stable matching. -/
theorem detection_stable (hm : Opposables mouvements)
    (hid : (mouvements.map MouvementCandidat.id).Nodup) :
    ∃ retenus, detecterTransfertsInternes mouvements = retenus.flatMap Couple.faces ∧
      AppariementStable mouvements retenus := by
  refine ⟨couplesRetenus (couplesPossibles mouvements), detecter_eq_retenus mouvements, ?_⟩
  refine
    { possibles := retenus_possibles hm
      disjoints := retenus_disjoints hm hid
      stable := fun debit hdebit credit hcredit hface hscore => ?_
      sansDoute := fun c hc hscore => ?_ }
  · have hcouple : Couple.de debit credit ∈ sortBy Couple.ordre (couplesPossibles mouvements) :=
      mem_sortBy.2 ((mem_couplesPossibles hm).2 ⟨debit, hdebit, credit, hcredit, hface, rfl⟩)
    have hadmissible : (Couple.de debit credit).admissible (couplesPossibles mouvements) = true := by
      have hnot : ¬ (Couple.de debit credit).score < ressemblanceMinimale := not_lt.2 hscore
      simp [Couple.admissible, hnot]
    rcases Greedy.mem_select_or (pairwise_sortBy Couple.ordre _) hcouple hadmissible with
      hretenu | ⟨c, hc, hconflit, hordre⟩
    · exact .inl hretenu
    · refine .inr ⟨c, hc, ?_, hordre⟩
      obtain ⟨hdebit', hcredit', -⟩ := retenus_possibles hm c hc
      simp only [Couple.conflit, Bool.or_eq_true, decide_eq_true_eq] at hconflit
      rcases hconflit with heq | heq
      · exact .inl (eq_of_id hid hdebit' hdebit heq)
      · exact .inr (eq_of_id hid hcredit' hcredit heq)
  · obtain ⟨hpossible, hadmissible⟩ := mem_retenus hc
    obtain ⟨hdebit, hcredit, hface, hde⟩ := retenus_possibles hm c hc
    have hdoute : appariementSansDoute (couplesPossibles mouvements) c.debit c.credit = true := by
      simpa [Couple.admissible, hscore] using hadmissible
    obtain ⟨⟨-, hmain⟩, hmain'⟩ := by simpa [appariementSansDoute] using hdoute
    refine ⟨fun credit hcredit' hface' => ?_, fun debit hdebit' hface' => ?_, hmain, hmain'⟩
    · have heq := eq_of_sansDoute hpossible
        ((mem_couplesPossibles hm).2 ⟨c.debit, hdebit, credit, hcredit', hface', rfl⟩) hdoute (.inl rfl)
      exact congrArg Couple.credit heq
    · have heq := eq_of_sansDoute hpossible
        ((mem_couplesPossibles hm).2 ⟨debit, hdebit', c.credit, hcredit, hface', rfl⟩) hdoute (.inr rfl)
      exact congrArg Couple.debit heq

/-- What is detected is among the movements. -/
theorem mem_of_mem_detecter (hm : Opposables mouvements) {id : TransactionBancaireId}
    (h : id ∈ detecterTransfertsInternes mouvements) : ∃ m ∈ mouvements, m.id = id := by
  rw [detecter_eq_retenus, List.mem_flatMap] at h
  obtain ⟨c, hc, hid⟩ := h
  obtain ⟨hdebit, hcredit, -⟩ := retenus_possibles hm c hc
  rcases List.mem_pair.1 hid with rfl | rfl
  · exact ⟨c.debit, hdebit, rfl⟩
  · exact ⟨c.credit, hcredit, rfl⟩

/-- The movements detected are the two faces of the couples retained. -/
private theorem detectes_perm (hm : Opposables mouvements)
    (hid : (mouvements.map MouvementCandidat.id).Nodup) :
    (mouvements.filter fun m => m.id ∈ detecterTransfertsInternes mouvements).Perm
      ((couplesRetenus (couplesPossibles mouvements)).flatMap fun c => [c.debit, c.credit]) := by
  have hfaces : ((couplesRetenus (couplesPossibles mouvements)).flatMap
      fun c => [c.debit, c.credit]).map MouvementCandidat.id =
      detecterTransfertsInternes mouvements := by
    rw [detecter_eq_retenus, List.map_flatMap]
    rfl
  refine (List.perm_ext_iff_of_nodup ?_ ?_).2 fun m => ?_
  · exact (List.Nodup.of_map _ hid).filter _
  · refine List.Nodup.of_map MouvementCandidat.id ?_
    rw [hfaces, detecter_eq_retenus]
    exact retenus_disjoints hm hid
  · have hsub : ∀ m ∈ (couplesRetenus (couplesPossibles mouvements)).flatMap
        fun c => [c.debit, c.credit], m ∈ mouvements := by
      intro m hmem
      obtain ⟨c, hc, hface⟩ := List.mem_flatMap.1 hmem
      obtain ⟨hdebit, hcredit, -⟩ := retenus_possibles hm c hc
      rcases List.mem_pair.1 hface with rfl | rfl <;> assumption
    rw [List.mem_filter, decide_eq_true_eq, ← hfaces, List.mem_map]
    constructor
    · rintro ⟨hmem, m', hm', heq⟩
      exact eq_of_id hid (hsub m' hm') hmem heq ▸ hm'
    · exact fun hmem => ⟨hsub m hmem, m, hmem, rfl⟩

/-- The amounts of what is detected cancel out. -/
theorem somme_detectes (hm : Opposables mouvements)
    (hid : (mouvements.map MouvementCandidat.id).Nodup) :
    ((mouvements.filter fun m => m.id ∈ detecterTransfertsInternes mouvements).map
      MouvementCandidat.amountCents).sum = 0 := by
  rw [((detectes_perm hm hid).map MouvementCandidat.amountCents).sum_eq, List.map_flatMap,
    List.flatMap_def, List.sum_flatten, List.map_map]
  refine List.sum_eq_zero fun n hn => ?_
  obtain ⟨c, hc, rfl⟩ := List.mem_map.1 hn
  obtain ⟨-, -, hface, -⟩ := retenus_possibles hm c hc
  simp [hface.oppose]

/-! ## The order of the movements -/

/-- The possible pairs do not depend on the order of the movements, but for their own. -/
theorem couplesPossibles_perm {mouvements' : List MouvementCandidat}
    (h : mouvements.Perm mouvements') :
    (couplesPossibles mouvements).Perm (couplesPossibles mouvements') := by
  refine List.Perm.flatMap (h.filter _) fun debit _ => ?_
  exact ((h.filter _).filter _).map _

/-- The turns of the loop look at the couples through the numbers of partners only. -/
theorem examinerCouple_perm {couples couples' : List Couple} (h : couples.Perm couples') :
    examinerCouple couples = examinerCouple couples' := by
  have hdebits : partenairesDuDebit couples = partenairesDuDebit couples' :=
    funext fun _ => h.countP_eq _
  have hcredits : partenairesDuCredit couples = partenairesDuCredit couples' :=
    funext fun _ => h.countP_eq _
  funext etat c
  unfold examinerCouple appariementSansDoute
  rw [hdebits, hcredits]

/-- The order of the couples is total: it ends with the two identifiers, and they
determine the couple. -/
theorem couple_eq_of_ordre (hm : Opposables mouvements)
    (hid : (mouvements.map MouvementCandidat.id).Nodup) {a b : Couple}
    (ha : a ∈ couplesPossibles mouvements) (hb : b ∈ couplesPossibles mouvements)
    (h : a.ordre = b.ordre) : a = b := by
  obtain ⟨debit, hdebit, credit, hcredit, -, rfl⟩ := (mem_couplesPossibles hm).1 ha
  obtain ⟨debit', hdebit', credit', hcredit', -, rfl⟩ := (mem_couplesPossibles hm).1 hb
  have hids := congrArg (fun x => (ofLex (ofLex (ofLex x).2).2)) h
  obtain ⟨hd, hc⟩ : debit.id = debit'.id ∧ credit.id = credit'.id := by
    simpa [Couple.ordre, Couple.de] using hids
  rw [eq_of_id hid hdebit hdebit' hd, eq_of_id hid hcredit hcredit' hc]

/-- The couples are examined in one order. -/
theorem sortBy_couplesPossibles_perm {mouvements' : List MouvementCandidat}
    (hm : Opposables mouvements) (hid : (mouvements.map MouvementCandidat.id).Nodup)
    (h : mouvements.Perm mouvements') :
    sortBy Couple.ordre (couplesPossibles mouvements) =
      sortBy Couple.ordre (couplesPossibles mouvements') :=
  sortBy_congr (couplesPossibles_perm h) fun _ ha _ hb => couple_eq_of_ordre hm hid ha hb

/-- Two readings of the same movements, in any order, detect the same transfers in the same
order. -/
theorem detection_sans_ordre (mouvements mouvements' : List MouvementCandidat)
    (hm : Opposables mouvements) (hid : (mouvements.map MouvementCandidat.id).Nodup)
    (h : mouvements.Perm mouvements') :
    detecterTransfertsInternes mouvements = detecterTransfertsInternes mouvements' := by
  have hexamen := examinerCouple_perm (couplesPossibles_perm h)
  have htri := sortBy_couplesPossibles_perm hm hid h
  unfold detecterTransfertsInternes
  simp only [hexamen, htri]

end Matching

/-- A debit and two credits of its amount: one has its label, the other was filed by
hand. -/
def mouvementsDuMois : List MouvementCandidat :=
  [{ id := Uuid.fromU128 1, compte := Uuid.fromU128 1, amountCents := -5000,
     date := Date.ofDays 20000, libelle := "VIR EPARGNE", rangeALaMain := false },
   { id := Uuid.fromU128 2, compte := Uuid.fromU128 2, amountCents := 5000,
     date := Date.ofDays 20002, libelle := "VIR EPARGNE ALICE", rangeALaMain := false },
   { id := Uuid.fromU128 3, compte := Uuid.fromU128 2, amountCents := 5000,
     date := Date.ofDays 20001, libelle := "REMBOURSEMENT", rangeALaMain := true }]

example : detecterTransfertsInternes mouvementsDuMois = [Uuid.fromU128 1, Uuid.fromU128 2] := by
  decide +kernel

/-- The amounts of the month are opposable. -/
private theorem opposables_mouvementsDuMois : Opposables mouvementsDuMois := by
  unfold Opposables
  decide

/-- The pairs of the month are a stable matching. -/
theorem detection_stable_mouvementsDuMois :
    ∃ retenus, detecterTransfertsInternes mouvementsDuMois = retenus.flatMap Couple.faces ∧
      AppariementStable mouvementsDuMois retenus :=
  detection_stable opposables_mouvementsDuMois (by decide)

/-- The movements of the month, in one order and in the other. -/
theorem detection_sans_ordre_mouvementsDuMois :
    detecterTransfertsInternes mouvementsDuMois =
      detecterTransfertsInternes mouvementsDuMois.reverse :=
  detection_sans_ordre _ _ opposables_mouvementsDuMois (by decide)
    (List.reverse_perm mouvementsDuMois).symm

end Budgy
