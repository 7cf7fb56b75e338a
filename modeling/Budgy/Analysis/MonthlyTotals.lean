import Budgy.Analysis.Aggregates
import Budgy.Analysis.Cycles
import Budgy.Analysis.Scenarios
import Budgy.Analysis.Statements
import Budgy.Interface.Traversal

/-!
# The monthly breakdowns

Every dated movement of a user that is not an internal transfer counts once over all the
cycles of a start day: in one cycle, in one direction, in the line of its category.  `repartitionsConservees` says
so of what the breakdowns return, and that they do return as long as no statement fails on a
cycle whose amounts can be decrypted.
-/

set_option autoImplicit false

namespace Budgy

open Effects Grouping Prog

/-! ## The movements a breakdown retains -/

section Retained

variable (crypto : CryptoService) (owner : ProprietaireId)

/-- The amount of a row, when it can be decrypted. -/
def BankTransactionRow.montantClair (t : BankTransactionRow) : Option ℤ :=
  (dechiffrerMontant crypto owner "bank_transaction" "amount_cents" t.amountCents).toOption

/-- The amount of a row, zero when it cannot be decrypted. -/
def BankTransactionRow.montant (t : BankTransactionRow) : ℤ := (t.montantClair crypto owner).getD 0

/-- A movement of the user that the totals are about: dated, not internal, and not zero. -/
def Store.Comptable (s : Store) (t : BankTransactionRow) : Prop :=
  s.txDe owner t = true ∧ t.isInternalTransfer = false ∧ t.date.isSome = true ∧
    ∃ m ∈ t.montantClair crypto owner, m ≠ 0

/-- A movement of the user in a cycle and a direction. -/
def Store.Retenue (s : Store) (c : CycleMensuel) (sens : Depenses.Sens) (t : BankTransactionRow) :
    Prop :=
  s.txDe owner t = true ∧ t.isInternalTransfer = false ∧ (∃ d ∈ t.date, c.debut ≤ d ∧ d < c.finExclue) ∧
    ∃ m ∈ t.montantClair crypto owner, sens.retient m = true

instance (s : Store) (c : CycleMensuel) (sens : Depenses.Sens) (t : BankTransactionRow) :
    Decidable (s.Retenue crypto owner c sens t) :=
  inferInstanceAs (Decidable (_ ∧ _ ∧ _ ∧ _))

/-- The amounts that a cycle counts can be decrypted. -/
def Store.CycleLisible (s : Store) (c : CycleMensuel) : Prop :=
  ∀ t ∈ s.bankTransaction, s.txDe owner t = true → t.isInternalTransfer = false →
    (∃ d ∈ t.date, c.debut ≤ d ∧ d < c.finExclue) → (t.montantClair crypto owner).isSome = true

/-- The movements of a cycle in a direction. -/
def Store.retenues (s : Store) (c : CycleMensuel) (sens : Depenses.Sens) : List BankTransactionRow :=
  s.bankTransaction.select fun t => s.Retenue crypto owner c sens t

/-- The category a line shows. -/
def Store.categorieDe (s : Store) (id : Uuid) : Option Category :=
  (s.category.find? id).filter fun c => Store.categorieVisible owner c

/-- One line for each category of the movements, with the sum of their magnitudes. -/
def Store.lignesAttendues (s : Store) (c : CycleMensuel) (sens : Depenses.Sens) :
    List LigneDepenseCategorie :=
  ((s.retenues crypto owner c sens).map BankTransactionRow.categoryId).dedup.map fun k =>
    ⟨k.bind (s.categorieDe owner),
      sumAt BankTransactionRow.categoryId (fun t => |t.montant crypto owner|)
        (s.retenues crypto owner c sens) k⟩

/-- The signed sum of the movements dated in a cycle. -/
def Store.soldeAttendu (s : Store) (c : CycleMensuel) : ℤ :=
  ((s.bankTransaction.select fun t => s.txDe owner t && !t.isInternalTransfer &&
    t.date.any fun d => c.debut ≤ d && d < c.finExclue).map fun t => t.montant crypto owner).sum

/-- What the movements of a cycle in a direction add up to. -/
def Store.totalAttendu (s : Store) (c : CycleMensuel) (sens : Depenses.Sens) : ℤ :=
  ((s.retenues crypto owner c sens).map fun t => |t.montant crypto owner|).sum

end Retained

/-! ## Sums by category -/

section Totals

variable {sens : Depenses.Sens} {lignes : List (Option Uuid × ℤ)}

/-- The accumulated totals of a list of lines. -/
private abbrev cumuler (l : List (Option Uuid × ℤ)) : HashMap (Option Uuid) ℤ :=
  l.foldl (fun totaux e => totaux.modifier e.1 0 fun n => i64 (n + i64 |e.2|)) ∅

/-- Below the bound, the totals are the sums of the groups. -/
private theorem lookup_cumuler {l : List (Option Uuid × ℤ)}
    (hmax : (l.map fun e => |e.2|).sum ≤ i64Max) : ∀ k, (cumuler l).lookup k =
      if k ∈ l.map Prod.fst then some (sumAt Prod.fst (fun e => |e.2|) l k) else none := by
  induction l using List.reverseRecOn with
  | nil => exact fun k => rfl
  | append_singleton l e ih =>
      intro k
      have hpos : ∀ e ∈ l, 0 ≤ |e.2| := fun e _ => abs_nonneg e.2
      have hmagnitude : 0 ≤ |e.2| := abs_nonneg e.2
      have hsum : (l.map fun e => |e.2|).sum + |e.2| ≤ i64Max := by simpa using hmax
      have hgroupe : 0 ≤ sumAt Prod.fst (fun e => |e.2|) l e.1 := sumAt_nonneg hpos
      have hpart : sumAt Prod.fst (fun e => |e.2|) l e.1 ≤ (l.map fun e => |e.2|).sum :=
        sumAt_le hpos
      have hancien := ih (by omega)
      have hold : ((cumuler l).lookup e.1).getD 0 = sumAt Prod.fst (fun e => |e.2|) l e.1 := by
        rw [hancien]
        split
        case isTrue => rfl
        case isFalse h => exact (sumAt_eq_zero h).symm
      have hnew : i64 (((cumuler l).lookup e.1).getD 0 + i64 |e.2|) =
          sumAt Prod.fst (fun e => |e.2|) l e.1 + |e.2| := by
        have hexact : i64 |e.2| = |e.2| :=
          i64_of_estI64 ⟨by unfold i64Min; omega, by omega⟩
        rw [hold, hexact]
        exact i64_of_estI64 ⟨by unfold i64Min; omega, by omega⟩
      have hstep : cumuler (l ++ [e]) =
          (cumuler l).insert e.1 (i64 (((cumuler l).lookup e.1).getD 0 + i64 |e.2|)) := by
        rw [cumuler, List.foldl_append]
        rfl
      rw [hstep, hnew, sumAt_append, sumAt_singleton]
      by_cases hk : k = e.1
      · subst hk
        rw [AList.lookup_insert, if_pos rfl, if_pos (by simp)]
      · have hmem : k ∈ (l ++ [e]).map Prod.fst ↔ k ∈ l.map Prod.fst := by
          rw [List.map_append, List.mem_append, List.map_singleton, List.mem_singleton]
          exact or_iff_left hk
        rw [AList.lookup_insert_ne hk, hancien, if_neg (Ne.symm hk), add_zero]
        exact if_congr hmem.symm rfl rfl

/-- The bindings of the totals: one for each key, with the sum of its group. -/
private theorem liaisons_cumuler {l : List (Option Uuid × ℤ)}
    (hmax : (l.map fun e => |e.2|).sum ≤ i64Max) :
    (cumuler l).liaisons.Perm ((l.map Prod.fst).dedup.map fun k =>
      (k, sumAt Prod.fst (fun e => |e.2|) l k)) := by
  refine liaisons_of_lookup fun k v => ?_
  rw [lookup_cumuler hmax]
  split
  case isTrue hk => simp [hk]
  case isFalse hk => simp [hk]

end Totals

/-! ## What the requests return -/

section Requests

variable {col : Collation} {crypto : CryptoService} {owner : ProprietaireId} {c : CycleMensuel}
  {sens : Depenses.Sens} {s : Store}

/-- The movements in a direction are those the statement selects whose amount is retained. -/
theorem retenue_iff {t : BankTransactionRow} :
    s.Retenue crypto owner c sens t ↔
      RequeteClassement.compteeDansCycle s owner c.debut c.finExclue t = true ∧
        sens.retient (t.montant crypto owner) = true := by
  have hzero : sens.retient 0 = false := by cases sens <;> decide
  simp only [Store.Retenue, RequeteClassement.compteeDansCycle, BankTransactionRow.montant,
    Bool.and_eq_true, Bool.not_eq_true']
  cases hdate : t.date with
  | none => simp
  | some d =>
      cases hmontant : t.montantClair crypto owner with
      | none => simp [hzero]
      | some m => simp [and_assoc]

/-- What the lines of a cycle are once decrypted. -/
theorem montantsDechiffres_eq {l : List BankTransactionRow} {lignes : List (Option Uuid × ℤ)}
    (h : Depenses.montantsDechiffres crypto owner (l.map fun t => (t.categoryId, t.amountCents)) =
      .ok lignes) :
    lignes = l.map fun t => (t.categoryId, t.montant crypto owner) := by
  have hligne : ∀ (row : Option Uuid × List UInt8) ligne, (do
      let montant ← (dechiffrerMontant crypto owner "bank_transaction" "amount_cents" row.2).mapError
        versLectureError
      return (row.1, montant) : Except LectureError (Option Uuid × ℤ)) = .ok ligne →
      id ligne = (row.1, (dechiffrerMontant crypto owner "bank_transaction" "amount_cents"
        row.2).toOption.getD 0) := by
    intro row ligne h
    cases hclair : dechiffrerMontant crypto owner "bank_transaction" "amount_cents" row.2 with
    | error e =>
        rw [hclair] at h
        cases h
    | ok montant =>
        rw [hclair] at h
        exact (Except.ok.inj h).symm
  have hmap := Traversal.map_eq_map h hligne
  rw [List.map_id, List.map_map] at hmap
  exact hmap

/-- The lines retained are those of the movements, however the database orders them. -/
theorem perm_retenues {rang : Uuid → ℕ} {lignes : List (Option Uuid × ℤ)}
    (h : Depenses.montantsDechiffres crypto owner
      ((Relational.arrange BankTransactionRow.id rang (s.bankTransaction.select
        (RequeteClassement.compteeDansCycle s owner c.debut c.finExclue))).map fun t =>
          (t.categoryId, t.amountCents)) = .ok lignes) :
    (lignes.filter fun l => sens.retient l.2).Perm
      ((s.retenues crypto owner c sens).map fun t => (t.categoryId, t.montant crypto owner)) := by
  rw [montantsDechiffres_eq h, List.filter_map]
  refine List.Perm.map _ (((Relational.perm_arrange _ _ _).filter _).trans ?_)
  rw [Store.retenues, Relational.Table.select, Relational.Table.select, List.filter_filter]
  refine .of_eq (List.filter_congr fun t _ => ?_)
  rw [Bool.eq_iff_iff, Bool.and_eq_true, decide_eq_true_eq, retenue_iff, and_comm]
  rfl

/-- The totals of a cycle are made from its movements. -/
theorem spec_montantsParCategorie :
    Spec (machine col) (Depenses.montantsParCategorie crypto owner c sens).run s fun _ r s' =>
      s' = s ∧ ∀ totaux, r = .ok totaux → ∃ l : List (Option Uuid × ℤ), totaux = cumuler l ∧
        l.Perm ((s.retenues crypto owner c sens).map fun t =>
          (t.categoryId, t.montant crypto owner)) := by
  refine spec_run_bind.2 (spec_run_mapError.2 (spec_interroger ?_ ?_))
  · exact fun x e _ => ⟨rfl, fun _ h => nomatch h⟩
  · intro x rows s' heffet _
    obtain ⟨rfl, rfl⟩ := lire_eq_ok.1 heffet
    refine spec_run_bind.2 ?_
    show Spec (machine col) (Prog.pure (Depenses.montantsDechiffres crypto owner _)) _ _
    refine spec_pure.2 ?_
    cases hlignes : Depenses.montantsDechiffres crypto owner _ with
    | error e => exact ⟨rfl, fun _ h => nomatch h⟩
    | ok lignes =>
        refine spec_run_pure.2 ⟨rfl, ?_⟩
        rintro totaux htotaux
        exact ⟨lignes.filter fun l => sens.retient l.2, (Except.ok.inj htotaux).symm,
          perm_retenues hlignes⟩

/-- The categories that a user sees, collected by their keys. -/
theorem lookup_collect_categories {rows : List Category}
    (h : rows.Perm (s.category.select fun c => Store.categorieVisible owner c)) (id : Uuid) :
    (HashMap.collect (rows.map fun c => (c.id, c))).lookup id = s.categorieDe owner id := by
  have hids : ((rows.map fun c => (c.id, c)).map Prod.fst).Nodup := by
    rw [List.map_map]
    refine ((h.map _).nodup_iff).2 ?_
    exact s.category.nodup.sublist (List.filter_sublist.map _)
  refine Option.ext fun c => ?_
  rw [← Option.mem_def, mem_lookup_collect hids, Store.categorieDe, Option.filter_eq_some_iff,
    Relational.Table.find?_eq_some]
  simp only [List.mem_map, h.mem_iff, Relational.Table.mem_select, Prod.mk.injEq]
  constructor
  · rintro ⟨c', ⟨hc, hvisible⟩, rfl, rfl⟩
    exact ⟨⟨hc, rfl⟩, hvisible⟩
  · rintro ⟨⟨hc, hid⟩, hvisible⟩
    exact ⟨c, ⟨hc, hvisible⟩, hid, rfl⟩

/-- The categories a user sees, by their keys. -/
private theorem spec_categoriesParId :
    Spec (machine col) (Depenses.categoriesParId owner).run s fun _ r s' =>
      s' = s ∧ ∀ categories, r = .ok categories → ∀ id, categories.lookup id = s.categorieDe owner id := by
  refine spec_run_bind.2 (spec_run_mapError.2 (spec_interroger ?_ ?_))
  · exact fun x e _ => ⟨rfl, fun _ h => nomatch h⟩
  · intro x rows s' heffet _
    obtain ⟨rfl, rfl⟩ := lire_eq_ok.1 heffet
    refine spec_run_pure.2 ⟨rfl, ?_⟩
    rintro categories hcategories id
    obtain rfl := Except.ok.inj hcategories
    exact lookup_collect_categories (Relational.perm_arrange _ _ _) id

/-- The bindings of the totals, as lines, and what they add up to. -/
private theorem lignes_cumuler {l : List (Option Uuid × ℤ)}
    (hperm : l.Perm ((s.retenues crypto owner c sens).map fun t =>
      (t.categoryId, t.montant crypto owner)))
    (hmax : s.totalAttendu crypto owner c sens ≤ i64Max) :
    ((cumuler l).liaisons.map fun e =>
        (⟨e.1.bind (s.categorieDe owner), e.2⟩ : LigneDepenseCategorie)).Perm
          (s.lignesAttendues crypto owner c sens) ∧
      sommeI64 (cumuler l).valeurs = s.totalAttendu crypto owner c sens ∧
      (cumuler l).valeurs.sum = s.totalAttendu crypto owner c sens := by
  have htotal : (l.map fun e => |e.2|).sum = s.totalAttendu crypto owner c sens := by
    rw [(hperm.map fun e => |e.2|).sum_eq, List.map_map]
    rfl
  have hliaisons := liaisons_cumuler (htotal.trans_le hmax)
  have hvaleurs : (cumuler l).valeurs.Perm ((l.map Prod.fst).dedup.map
      (sumAt Prod.fst (fun e => |e.2|) l)) := by
    have h := hliaisons.map Prod.snd
    rw [List.map_map] at h
    rw [HashMap.valeurs]
    simpa [HashMap.liaisons, Function.comp_def] using h
  have hsomme : (cumuler l).valeurs.sum = s.totalAttendu crypto owner c sens := by
    rw [hvaleurs.sum_eq, sum_sumAt, htotal]
  refine ⟨?_, ?_, hsomme⟩
  · refine (hliaisons.map _).trans ?_
    rw [List.map_map]
    have hkeys := (hperm.map Prod.fst).dedup
    rw [List.map_map] at hkeys
    refine (hkeys.map _).trans (.of_eq (List.map_congr_left fun k _ => ?_))
    show LigneDepenseCategorie.mk _ (sumAt Prod.fst (fun e => |e.2|) l k) = _
    rw [sumAt_perm hperm, sumAt_map]
  · rw [sommeI64_eq ?_ (hsomme.trans_le hmax), hsomme]
    intro n hn
    obtain ⟨k, -, rfl⟩ := List.mem_map.1 (hvaleurs.mem_iff.1 hn)
    exact sumAt_nonneg fun e _ => abs_nonneg e.2

/-- A breakdown has the lines of its movements, and the sum of its lines as total. -/
theorem spec_repartition (hmax : s.totalAttendu crypto owner c sens ≤ i64Max) :
    Spec (machine col) (Depenses.repartition crypto owner c sens).run s fun _ r s' =>
      s' = s ∧ ∀ repartition, r = .ok repartition →
        repartition.lignes.Perm (s.lignesAttendues crypto owner c sens) ∧
          repartition.totalCents = (repartition.lignes.map LigneDepenseCategorie.montantCents).sum ∧
          repartition.totalCents = s.totalAttendu crypto owner c sens := by
  refine spec_run_bind.2 (Spec.mono spec_montantsParCategorie ?_)
  rintro t (e | totaux) s' ⟨rfl, htotaux⟩
  · exact ⟨rfl, fun _ h => nomatch h⟩
  obtain ⟨l, rfl, hperm⟩ := htotaux totaux rfl
  obtain ⟨hlignes, htotal, hsomme⟩ := lignes_cumuler hperm hmax
  dsimp only
  split
  case isTrue hvide =>
    have hentries : (cumuler l).entries = [] := List.isEmpty_iff.1 hvide
    rw [HashMap.liaisons, hentries] at hlignes
    rw [HashMap.valeurs, hentries] at hsomme
    refine spec_run_pure.2 ⟨rfl, ?_⟩
    rintro repartition hrepartition
    obtain rfl := Except.ok.inj hrepartition
    exact ⟨hlignes, rfl, hsomme⟩
  case isFalse =>
    refine spec_run_bind.2 (Spec.mono spec_categoriesParId ?_)
    rintro t' (e | categories) s'' ⟨rfl, hcategories⟩
    · exact ⟨rfl, fun _ h => nomatch h⟩
    refine spec_run_pure.2 ⟨rfl, ?_⟩
    rintro repartition hrepartition
    obtain rfl := Except.ok.inj hrepartition
    have hlookup : (fun id => categories.lookup id) = s''.categorieDe owner :=
      funext (hcategories categories rfl)
    have htrie : (trierParMontantDecroissant
        (Depenses.lignesRepartition categories (cumuler l))).Perm
          ((cumuler l).liaisons.map fun e => ⟨e.1.bind (s''.categorieDe owner), e.2⟩) := by
      rw [← hlookup]
      exact Relational.perm_sortBy _ _
    refine ⟨htrie.trans hlignes, ?_, htotal⟩
    rw [(htrie.map _).sum_eq, List.map_map, htotal, ← hsomme]
    simp [HashMap.valeurs, HashMap.liaisons, Function.comp_def]

/-- The amounts of a cycle that can be decrypted are decrypted. -/
private theorem montantsDechiffres_ok {l : List BankTransactionRow}
    (h : ∀ t ∈ l, (t.montantClair crypto owner).isSome = true) :
    ∃ lignes, Depenses.montantsDechiffres crypto owner
      (l.map fun t => (t.categoryId, t.amountCents)) = .ok lignes := by
  cases hlignes : Depenses.montantsDechiffres crypto owner
      (l.map fun t => (t.categoryId, t.amountCents)) with
  | ok lignes => exact ⟨lignes, rfl⟩
  | error e =>
      obtain ⟨row, hrow, herreur⟩ := Traversal.exists_error hlignes
      obtain ⟨t, ht, rfl⟩ := List.mem_map.1 hrow
      have hclair := h t ht
      cases hmontant : dechiffrerMontant crypto owner "bank_transaction" "amount_cents"
          t.amountCents with
      | ok montant =>
          rw [hmontant] at herreur
          cases herreur
      | error e' =>
          rw [BankTransactionRow.montantClair, hmontant] at hclair
          cases hclair

/-- The totals of a cycle are computed when the statement succeeds and its rows decrypt. -/
private theorem under_montantsParCategorie (h : s.CycleLisible crypto owner c) :
    Under (machine col) Evenement.Reussi
      (Depenses.montantsParCategorie crypto owner c sens).run s (Returns fun _ s' => s' = s) := by
  refine Under.ret_bind (R := fun rows s' => s' = s ∧ ∃ l : List BankTransactionRow,
    (∀ t ∈ l, (t.montantClair crypto owner).isSome = true) ∧
      rows = l.map fun t => (t.categoryId, t.amountCents))
    (Under.ret_mapError (under_of_ends (spec_ends_interroger ?_))) ?_
  · intro x rows s' heffet _
    obtain ⟨rfl, rfl⟩ := lire_eq_ok.1 heffet
    refine ⟨rfl, _, ?_, rfl⟩
    intro t ht
    obtain ⟨hmem, hcomptee⟩ := Relational.Table.mem_select.1 (Relational.mem_arrange.1 ht)
    simp only [RequeteClassement.compteeDansCycle, Bool.and_eq_true, Bool.not_eq_true'] at hcomptee
    cases hdate : t.date with
    | none => simp [hdate] at hcomptee
    | some d =>
        simp only [hdate, Option.any_some, decide_eq_true_eq] at hcomptee
        obtain ⟨⟨⟨htx, hinterne⟩, hdebut⟩, hfin⟩ := hcomptee
        exact h t hmem htx hinterne ⟨d, hdate, hdebut, hfin⟩
  · rintro rows _ ⟨rfl, l, hl, rfl⟩
    obtain ⟨lignes, hlignes⟩ := montantsDechiffres_ok hl
    rw [hlignes]
    exact under_pure.2 rfl

/-- The categories are read when the statement succeeds. -/
private theorem under_categoriesParId :
    Under (machine col) Evenement.Reussi (Depenses.categoriesParId owner).run s
      (Returns fun _ s' => s' = s) := by
  refine Under.ret_bind (R := fun _ s' => s' = s)
    (Under.ret_mapError (under_of_ends (spec_ends_interroger ?_))) ?_
  · intro x rows s' heffet _
    exact (lire_eq_ok.1 heffet).2
  · rintro rows _ rfl
    exact under_pure.2 rfl

/-- A breakdown answers when its statements succeed and the amounts of its cycle decrypt. -/
theorem under_repartition (h : s.CycleLisible crypto owner c) :
    Under (machine col) Evenement.Reussi (Depenses.repartition crypto owner c sens).run s
      (Returns fun _ s' => s' = s) := by
  refine Under.ret_bind (under_montantsParCategorie h) ?_
  rintro totaux _ rfl
  split
  case isTrue => exact under_pure.2 rfl
  case isFalse =>
    refine Under.ret_bind under_categoriesParId ?_
    rintro categories _ rfl
    exact under_pure.2 rfl

/-- The income less the expenses is the signed sum. -/
private theorem totalAttendu_sub :
    s.totalAttendu crypto owner c .credit - s.totalAttendu crypto owner c .debit =
      s.soldeAttendu crypto owner c := by
  have hretenues : ∀ sens : Depenses.Sens, s.retenues crypto owner c sens =
      (s.bankTransaction.select fun t => s.txDe owner t && !t.isInternalTransfer &&
        t.date.any fun d => c.debut ≤ d && d < c.finExclue).filter fun t =>
          sens.retient (t.montant crypto owner) := by
    intro sens
    rw [Store.retenues, Relational.Table.select, Relational.Table.select, List.filter_filter]
    refine List.filter_congr fun t _ => ?_
    have hdate : RequeteClassement.compteeDansCycle s owner c.debut c.finExclue t =
        (s.txDe owner t && !t.isInternalTransfer &&
          t.date.any fun d => c.debut ≤ d && d < c.finExclue) := by
      unfold RequeteClassement.compteeDansCycle
      cases t.date with
      | none => simp
      | some d => simp [Bool.and_assoc]
    rw [Bool.eq_iff_iff, Bool.and_eq_true, decide_eq_true_eq, retenue_iff, and_comm, hdate]
  rw [Store.totalAttendu, Store.totalAttendu, hretenues, hretenues]
  exact sum_pos_sub_neg _ _

/-- A movement is retained in one month and one direction. -/
private theorem existsUnique_retenue {jour : JourDebutMois} {t : BankTransactionRow}
    (h : s.Comptable crypto owner t) :
    ∃! p : Mois × Depenses.Sens, s.Retenue crypto owner ⟨p.1, jour⟩ p.2 t := by
  obtain ⟨htx, hinterne, hdate, m, hm, hne⟩ := h
  obtain ⟨d, hd⟩ := Option.isSome_iff_exists.1 hdate
  obtain ⟨mois, hmois⟩ : ∃ mois : Mois, CycleMensuel.Couvre ⟨mois, jour⟩ d := by
    rcases CycleMensuel.couvre_moisDe_or jour d with h | h
    · exact ⟨_, h⟩
    · exact ⟨_, h⟩
  obtain ⟨sens, hsens⟩ : ∃ sens : Depenses.Sens, sens.retient m = true := by
    rcases lt_or_gt_of_ne hne with h | h
    · exact ⟨.debit, decide_eq_true h⟩
    · exact ⟨.credit, decide_eq_true h⟩
  refine ⟨⟨mois, sens⟩, ⟨htx, hinterne, ⟨d, hd, hmois⟩, m, hm, hsens⟩, ?_⟩
  rintro ⟨mois', sens'⟩ ⟨-, -, ⟨d', hd', hmois'⟩, m', hm', hsens'⟩
  obtain rfl : d = d' := Option.some.inj (hd.symm.trans hd')
  obtain rfl : m = m' := Option.some.inj (hm.symm.trans hm')
  have hsame : sens' = sens := by
    cases sens <;> cases sens' <;> simp [Depenses.Sens.retient] at hsens hsens' ⊢ <;> omega
  have hmois'' : mois' = mois := CycleMensuel.couvre_unique hmois' hmois
  rw [hmois'', hsame]

end Requests

/-! ## Conservation -/

section Conservation

variable (col : Collation) (crypto : CryptoService) (owner : ProprietaireId) (jour : JourDebutMois)
  (s : Store)

/-- The breakdowns of the cycles of a start day account for every movement once. -/
structure RepartitionsConservees : Prop where
  /-- A movement is in one cycle and one direction. -/
  unique : ∀ t ∈ s.bankTransaction, s.Comptable crypto owner t →
    ∃! p : Mois × Depenses.Sens, t ∈ s.retenues crypto owner ⟨p.1, jour⟩ p.2
  /-- The dates of that cycle exist, for a date well inside the bounds of the library. -/
  sansPanique : ∀ m sens, ∀ t ∈ s.retenues crypto owner ⟨m, jour⟩ sens, ∀ d ∈ t.date,
    anneeMin < d.year → d.year < anneeMax → CycleMensuel.SansPanique ⟨m, jour⟩
  /-- A breakdown has one line for each category of its movements, with what they amount to. -/
  lignes : ∀ m sens, Spec (machine col) (Depenses.repartition crypto owner ⟨m, jour⟩ sens).run s
    fun _ r _ => ∀ repartition, r = .ok repartition →
      repartition.lignes.Perm (s.lignesAttendues crypto owner ⟨m, jour⟩ sens)
  /-- The total of a breakdown is the sum of its lines. -/
  total : ∀ m sens, Spec (machine col) (Depenses.repartition crypto owner ⟨m, jour⟩ sens).run s
    fun _ r _ => ∀ repartition, r = .ok repartition →
      repartition.totalCents = (repartition.lignes.map LigneDepenseCategorie.montantCents).sum
  /-- The income less the expenses of a cycle is the signed sum of its movements. -/
  solde : ∀ m t t' depenses revenus s₁ s₂,
    Runs (machine col) (Depenses.repartitionMensuelleParCategorie crypto owner ⟨m, jour⟩).run s t
      (.ok depenses) s₁ →
    Runs (machine col) (Depenses.repartitionMensuelleRevenusParCategorie crypto owner
      ⟨m, jour⟩).run s t' (.ok revenus) s₂ →
    revenus.totalCents - depenses.totalCents = s.soldeAttendu crypto owner ⟨m, jour⟩
  /-- A breakdown answers when no statement fails and the amounts of its cycle decrypt. -/
  repond : ∀ m sens, s.CycleLisible crypto owner ⟨m, jour⟩ → Under (machine col) Evenement.Reussi
    (Depenses.repartition crypto owner ⟨m, jour⟩ sens).run s (Returns fun _ s' => s' = s)

/-- As long as the totals stay within the machine integers, the breakdowns account for every
movement once. -/
theorem repartitionsConservees
    (hmax : ∀ m sens, s.totalAttendu crypto owner ⟨m, jour⟩ sens ≤ i64Max) :
    RepartitionsConservees col crypto owner jour s where
  unique t ht hcomptable := by
    have hmem : ∀ m sens, t ∈ s.retenues crypto owner ⟨m, jour⟩ sens ↔
        s.Retenue crypto owner ⟨m, jour⟩ sens t := by
      intro m sens
      rw [Store.retenues, Relational.Table.mem_select, decide_eq_true_eq]
      exact and_iff_right ht
    simpa only [hmem] using existsUnique_retenue hcomptable
  sansPanique m sens t ht d hd hmin hmax := by
    obtain ⟨-, hretenue⟩ := Relational.Table.mem_select.1 ht
    obtain ⟨-, -, ⟨d', hd', hcouvre⟩, -⟩ := of_decide_eq_true hretenue
    obtain rfl : d = d' := Option.some.inj (hd.symm.trans hd')
    have hcouvre : CycleMensuel.Couvre ⟨m, jour⟩ d := hcouvre
    exact (hcouvre.dansCalendrier hmin hmax).sansPanique
  lignes m sens := Spec.mono (spec_repartition (hmax m sens)) fun _ _ _ h r hr => (h.2 r hr).1
  total m sens := Spec.mono (spec_repartition (hmax m sens)) fun _ _ _ h r hr => (h.2 r hr).2.1
  solde m t t' depenses revenus s₁ s₂ hdepenses hrevenus := by
    obtain ⟨-, -, hd⟩ := (spec_repartition (hmax m .debit) hdepenses).2 depenses rfl
    obtain ⟨-, -, hr⟩ := (spec_repartition (hmax m .credit) hrevenus).2 revenus rfl
    rw [hd, hr, totalAttendu_sub]
  repond m sens hlisible := under_repartition hlisible

end Conservation

/-! ## A rent and a salary -/

/-- A user with a rent and a salary of the same month. -/
def loyerEtSalaire : Store :=
  Scenario.unCompte.fin
    [.createConsent "alice" "banque", .completeConsent "alice" reponseBanque,
      mouvementDe "T1" "Loyer" (-70000) 20000, mouvementDe "T2" "Salaire" 200000 20003]

/-- The cycle of October, which goes from the 28th of September to the 27th of October. -/
def cycleDuLoyer : CycleMensuel :=
  ⟨Scenario.octobre, ⟨28, by decide, by decide⟩⟩

/-- The breakdown of this cycle in a direction. -/
def repartitionDuLoyer (sens : Depenses.Sens) :
    Outcome (machine Scenario.collation) (Except LectureError RepartitionDepenses) :=
  run _ Scenario.calme.choix (Depenses.repartition enClair "alice" cycleDuLoyer sens).run 500
    loyerEtSalaire

/-- The totals of a store with few movements. -/
private theorem totalAttendu_le {crypto : CryptoService} {owner : ProprietaireId}
    {c : CycleMensuel} {sens : Depenses.Sens} {s : Store} :
    s.totalAttendu crypto owner c sens ≤
      (s.bankTransaction.rows.map fun t => |t.montant crypto owner|).sum := by
  refine List.Sublist.sum_le_sum (List.filter_sublist.map _) fun n hn => ?_
  obtain ⟨t, -, rfl⟩ := List.mem_map.1 hn
  exact abs_nonneg _

/-- The rent and the salary of the user, in a breakdown each. -/
theorem repartitionsConservees_loyerEtSalaire :
    RepartitionsConservees Scenario.collation enClair "alice" cycleDuLoyer.jourDebut
        loyerEtSalaire ∧
      (repartitionDuLoyer .debit).value.toOption.map RepartitionDepenses.totalCents =
        some 70000 ∧
      (repartitionDuLoyer .credit).value.toOption.map RepartitionDepenses.totalCents =
        some 200000 := by
  have hsomme : (loyerEtSalaire.bankTransaction.rows.map fun t =>
      |t.montant enClair "alice"|).sum = 270000 := by
    decide +kernel
  refine ⟨?_, by decide +kernel, by decide +kernel⟩
  refine repartitionsConservees _ _ _ _ _ fun m sens => totalAttendu_le.trans ?_
  rw [hsomme]
  decide

end Budgy
