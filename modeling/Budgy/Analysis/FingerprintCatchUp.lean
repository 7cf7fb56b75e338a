import Budgy.Analysis.Replies
import Budgy.Analysis.Scenarios
import Budgy.Model.Repository.Comptes

/-!
# The fingerprints of the accounts stored before

`reprendre_empreintes` takes the accounts without a fingerprint in the order of the database
and stops at the first one that cannot be decrypted: those that come after it stay without
protection, until a call that reads them first.
-/

set_option autoImplicit false

namespace Budgy

open Effects Relational RequeteCompte

variable {col : Collation} {crypto : CryptoService} {s s' : Store} {ids : List Uuid}
  {a b : BankAccountRow}

/-! ## What is asked of a call -/

variable (crypto) in
/-- The identifier of an account at its bank. -/
def externeDe (a : BankAccountRow) : Except ChiffrementError String :=
  dechiffrerTexte crypto a.ownerId "bank_account" "external_account_id" a.externalAccountId

variable (s) in
/-- The accounts without a fingerprint. -/
def comptesSansEmpreinte : List BankAccountRow :=
  s.bankAccount.select fun a => a.empreinteCompte = none

variable (crypto s s') in
/-- Every account without a fingerprint that can be decrypted has got its own, and nothing else
changes in it; those that had one are left as they are. -/
structure Protege : Prop where
  protegees : ∀ a ∈ comptesSansEmpreinte s, ∀ externe, externeDe crypto a = .ok externe →
    { a with empreinteCompte := some (empreinteCompte crypto externe) } ∈ s'.bankAccount
  inchangees : ∀ a ∈ s.bankAccount, a.empreinteCompte ≠ none → a ∈ s'.bankAccount

variable (col crypto s) in
/-- Whatever the order in which the rows are read, a call without a failure of the database
protects the accounts, and a second one changes nothing more. -/
def RepriseComplete : Prop :=
  ∀ t r s', Runs (machine col) (BankAccounts.reprendreEmpreintes crypto).run s t r s' →
    ¬ Echec t → Protege crypto s s' ∧
      ∀ t' r' s'', Runs (machine col) (BankAccounts.reprendreEmpreintes crypto).run s' t' r' s'' →
        ¬ Echec t' → s'' = s'

/-! ## What a call does -/

variable (crypto) in
/-- The row with the fingerprint of its account, if its identifier can be decrypted. -/
def avecEmpreinte (a : BankAccountRow) : BankAccountRow :=
  match externeDe crypto a with
  | .ok externe => { a with empreinteCompte := some (empreinteCompte crypto externe) }
  | .error _ => a

/-- The fingerprint is written on the account itself. -/
theorem id_avecEmpreinte (a : BankAccountRow) : (avecEmpreinte crypto a).id = a.id := by
  unfold avecEmpreinte
  cases externeDe crypto a <;> rfl

variable (crypto s) in
/-- The database once the accounts have been dealt with. -/
def Store.reprendre (ids : List Uuid) : Store :=
  s.majCompte (fun a => a.id ∈ ids) (avecEmpreinte crypto) id_avecEmpreinte

/-- A catch-up of no account changes nothing. -/
theorem reprendre_nil : s.reprendre crypto [] = s := by
  have hrien : s.bankAccount.update (fun a => a.id ∈ ([] : List Uuid)) (avecEmpreinte crypto)
      id_avecEmpreinte = s.bankAccount := by
    refine Table.update_eq_self fun r _ hr => ?_
    exact absurd (of_decide_eq_true hr) List.not_mem_nil
  unfold Store.reprendre Store.majCompte
  rw [hrien]

/-- An account after the catch-up of some of them. -/
theorem mem_reprendre (crypto : CryptoService) (ids : List Uuid) (ha : a ∈ s.bankAccount) :
    (if a.id ∈ ids then avecEmpreinte crypto a else a) ∈ (s.reprendre crypto ids).bankAccount := by
  refine Store.mem_majCompte.2 ⟨a, ha, ?_⟩
  simp

/-- An account whose identifier is read receives the fingerprint of this identifier. -/
theorem avecEmpreinte_of_ok {externe : String} (h : externeDe crypto a = .ok externe) :
    avecEmpreinte crypto a =
      { a with empreinteCompte := some (empreinteCompte crypto externe) } := by
  rw [avecEmpreinte, h]

/-- An account whose identifier is not read is left as it was. -/
theorem avecEmpreinte_of_error {e : ChiffrementError} (h : externeDe crypto a = .error e) :
    avecEmpreinte crypto a = a := by
  rw [avecEmpreinte, h]

/-- One more account. -/
theorem reprendre_concat (hb : b ∈ s.bankAccount) {externe : String}
    (hexterne : externeDe crypto b = .ok externe) :
    (s.reprendre crypto ids).majCompte (fun a => a.id = b.id)
        (fun a => { a with empreinteCompte := some (empreinteCompte crypto externe) }) =
      s.reprendre crypto (ids ++ [b.id]) := by
  unfold Store.reprendre Store.majCompte
  congr 1
  ext1
  show (s.bankAccount.rows.map _).map _ = s.bankAccount.rows.map _
  rw [List.map_map]
  refine List.map_congr_left fun r hr => ?_
  by_cases hid : r.id = b.id
  · obtain rfl := Table.eq_of_key_eq hr hb hid
    have hdonne := avecEmpreinte_of_ok hexterne
    by_cases hdeja : r.id ∈ ids
    · simp [hdeja, hdonne]
    · simp [hdeja, hdonne]
  · have hautre : (avecEmpreinte crypto r).id ≠ b.id := by rwa [id_avecEmpreinte]
    by_cases hdeja : r.id ∈ ids
    · simp [hdeja, hautre]
    · simp [hdeja, hid]

/-- An account that cannot be decrypted is left as it is. -/
theorem reprendre_concat_of_error (hb : b ∈ s.bankAccount) {e : ChiffrementError}
    (herreur : externeDe crypto b = .error e) :
    s.reprendre crypto (ids ++ [b.id]) = s.reprendre crypto ids := by
  unfold Store.reprendre Store.majCompte
  congr 1
  ext1
  refine List.map_congr_left fun r hr => ?_
  by_cases hid : r.id = b.id
  · obtain rfl := Table.eq_of_key_eq hr hb hid
    have hlaisse := avecEmpreinte_of_error herreur
    simp [hlaisse]
  · simp [hid]

/-- A statement that fails is a failure of the run. -/
theorem echec_of_error {r : Requete} {x : ChoixSql} {e : SqlxError}
    (h : (r.executer col x s).1 = .error e) :
    Echec ([⟨s, .sql r, x⟩] : List (Evenement col)) := by
  refine ⟨_, List.mem_singleton_self _, ?_⟩
  show ¬ (r.executer col x s).1.isOk = true
  rw [h]
  exact Bool.false_ne_true

variable (crypto) in
/-- The body of the loop of `reprendre_empreintes`, on the row itself. -/
def reprendreCompte (reprises : ℕ) (a : BankAccountRow) : Tache ChiffrementError ℕ := do
  let externe ← Task.ofExcept (externeDe crypto a)
  let _ ← interrogerChiffre (.compte (.poserEmpreinte a.id (empreinteCompte crypto externe)))
  return reprises + 1

/-- One account is caught up, unless a statement fails or its identifier is not read. -/
theorem spec_reprendreCompte (hb : b ∈ s.bankAccount) (reprises : ℕ) :
    Spec (machine col) (reprendreCompte crypto reprises b).run (s.reprendre crypto ids)
      fun t r s' => Echec t ∨ s' = s.reprendre crypto (ids ++ [b.id]) ∧
        (r.isOk = false → ¬ Dechiffrable (externeDe crypto) b) := by
  refine spec_run_bind.2 (spec_pure.2 ?_)
  cases hexterne : externeDe crypto b with
  | error e =>
      refine .inr ⟨(reprendre_concat_of_error hb hexterne).symm, fun _ hlu => ?_⟩
      obtain ⟨lu, hlu⟩ := hlu
      cases hexterne.symm.trans hlu
  | ok externe =>
      refine spec_run_bind.2 (spec_interrogerChiffre ?_ ?_)
      · intro x e hreponse
        exact .inl (echec_of_error hreponse)
      · intro x n s₁ heffet _
        have hs₁ := (Prod.mk.inj (Except.ok.inj heffet)).2
        refine spec_pure.2 (.inr ⟨?_, fun hr => absurd hr Bool.noConfusion⟩)
        rw [← hs₁]
        exact reprendre_concat hb hexterne

/-- The loop over the accounts without a fingerprint leaves some out only if one of them cannot
be decrypted. -/
theorem spec_foldlM_reprendreCompte {rows : List BankAccountRow}
    (hrows : rows.Perm (comptesSansEmpreinte s)) :
    Spec (machine col) (rows.foldlM (reprendreCompte crypto) 0).run s fun t _ s' => Echec t ∨
      ∃ faits restants, (faits ++ restants).Perm (comptesSansEmpreinte s) ∧
        s' = s.reprendre crypto (faits.map BankAccountRow.id) ∧
        (restants = [] ∨
          ∃ a ∈ comptesSansEmpreinte s, ¬ Dechiffrable (externeDe crypto) a) := by
  refine Spec.mono (Spec.run_foldlM
    (I := fun faits t s' => Echec t ∨ s' = s.reprendre crypto (faits.map BankAccountRow.id))
    (E := fun t => Echec t ∨ ∃ a ∈ comptesSansEmpreinte s, ¬ Dechiffrable (externeDe crypto) a)
    (.inr reprendre_nil.symm) ?_) ?_
  · intro faits b suite reprises t s' heq hfaits
    rcases hfaits with hechec | rfl
    · exact fun t' r s'' _ => ⟨.inl hechec.left, fun _ => .inl hechec.left⟩
    · have hb : b ∈ comptesSansEmpreinte s := hrows.mem_iff.1 (by rw [heq]; simp)
      refine Spec.mono (spec_reprendreCompte (Table.mem_select.1 hb).1 reprises) ?_
      rintro t' r s'' (hechec | ⟨rfl, hr⟩)
      · exact ⟨.inl hechec.right, fun _ => .inl hechec.right⟩
      · refine ⟨.inr ?_, fun herreur => .inr ⟨b, hb, hr herreur⟩⟩
        rw [List.map_append, List.map_singleton]
  · rintro t r s' ⟨faits, restants, heq, hechec | hs', hfin⟩
    · exact .inl hechec
    · rw [heq] at hrows
      rcases hfin with hvide | hechec | hillisible
      · exact .inr ⟨faits, restants, hrows, hs', .inl hvide⟩
      · exact .inl hechec
      · exact .inr ⟨faits, restants, hrows, hs', .inr hillisible⟩

/-- The catch-up is a loop over the accounts that lack a fingerprint. -/
theorem reprendreEmpreintes_eq : BankAccounts.reprendreEmpreintes crypto =
    interrogerChiffre (.compte .listerSansEmpreinte) >>= fun lignes => lignes.foldlM
      (fun reprises ligne => do
        let externe ← Task.ofExcept
          (dechiffrerTexte crypto ligne.2.1 "bank_account" "external_account_id" ligne.2.2)
        let _ ← interrogerChiffre
          (.compte (.poserEmpreinte ligne.1 (empreinteCompte crypto externe)))
        return reprises + 1) 0 := rfl

/-- The catch-up goes as far as the first account whose identifier is not read. -/
theorem spec_reprendreEmpreintes :
    Spec (machine col) (BankAccounts.reprendreEmpreintes crypto).run s fun t _ s' => Echec t ∨
      ∃ faits restants, (faits ++ restants).Perm (comptesSansEmpreinte s) ∧
        s' = s.reprendre crypto (faits.map BankAccountRow.id) ∧
        (restants = [] ∨
          ∃ a ∈ comptesSansEmpreinte s, ¬ Dechiffrable (externeDe crypto) a) := by
  rw [reprendreEmpreintes_eq]
  refine spec_run_bind.2 (spec_interrogerChiffre ?_ ?_)
  · intro x e hreponse
    exact .inl (echec_of_error hreponse)
  · intro x lignes s₁ heffet hreponse
    obtain ⟨rfl, rfl⟩ := lire_eq_ok.1 heffet
    have hperm := perm_arrange BankAccountRow.id x.rang (comptesSansEmpreinte s₁)
    dsimp only
    rw [List.foldlM_map]
    refine Spec.mono (spec_foldlM_reprendreCompte hperm) ?_
    rintro t r s' (hechec | hfaits)
    · exact .inl hechec.right
    · exact .inr hfaits

/-! ## When the accounts are protected -/

/-- Dealing with accounts that cannot be decrypted changes nothing. -/
theorem reprendre_eq_self
    (h : ∀ a ∈ s.bankAccount, a.id ∈ ids → ¬ Dechiffrable (externeDe crypto) a) :
    s.reprendre crypto ids = s := by
  have hrien : s.bankAccount.update (fun a => a.id ∈ ids) (avecEmpreinte crypto)
      id_avecEmpreinte = s.bankAccount := by
    refine Table.update_eq_self fun a ha hid => ?_
    cases hexterne : externeDe crypto a with
    | ok externe => exact absurd ⟨externe, hexterne⟩ (h a ha (of_decide_eq_true hid))
    | error e => exact avecEmpreinte_of_error hexterne
  unfold Store.reprendre Store.majCompte
  rw [hrien]

/-- The accounts dealt with are accounts without a fingerprint. -/
theorem mem_comptesSansEmpreinte {faits restants : List BankAccountRow}
    (hperm : (faits ++ restants).Perm (comptesSansEmpreinte s)) (ha : a ∈ s.bankAccount)
    (hid : a.id ∈ faits.map BankAccountRow.id) : a ∈ comptesSansEmpreinte s := by
  obtain ⟨b, hb, hba⟩ := List.mem_map.1 hid
  have hmem : b ∈ comptesSansEmpreinte s := hperm.mem_iff.1 (List.mem_append_left _ hb)
  rwa [← Table.eq_of_key_eq (Table.mem_select.1 hmem).1 ha hba]

/-- Once all the accounts without a fingerprint are dealt with, they have one. -/
theorem protege_reprendre (hlisibles : ∀ a ∈ comptesSansEmpreinte s,
      Dechiffrable (externeDe crypto) a) {faits : List BankAccountRow}
    (hperm : faits.Perm (comptesSansEmpreinte s)) :
    Protege crypto s (s.reprendre crypto (faits.map BankAccountRow.id)) ∧
      comptesSansEmpreinte (s.reprendre crypto (faits.map BankAccountRow.id)) = [] := by
  have hfaits : ∀ a ∈ s.bankAccount,
      a.id ∈ faits.map BankAccountRow.id ↔ a.empreinteCompte = none := by
    intro a ha
    constructor
    · intro hid
      have hperm' : (faits ++ []).Perm (comptesSansEmpreinte s) := by rwa [List.append_nil]
      simpa using (Table.mem_select.1 (mem_comptesSansEmpreinte hperm' ha hid)).2
    · intro hsans
      exact List.mem_map_of_mem (hperm.mem_iff.2 (Table.mem_select.2 ⟨ha, by simpa using hsans⟩))
  refine ⟨⟨?_, ?_⟩, ?_⟩
  · intro a ha externe hexterne
    obtain ⟨hmem, hsans⟩ := Table.mem_select.1 ha
    have hreprise := mem_reprendre crypto (faits.map BankAccountRow.id) hmem
    rw [if_pos ((hfaits a hmem).2 (of_decide_eq_true hsans)), avecEmpreinte_of_ok hexterne]
      at hreprise
    exact hreprise
  · intro a ha havec
    have hreprise := mem_reprendre crypto (faits.map BankAccountRow.id) ha
    rwa [if_neg fun hid => havec ((hfaits a ha).1 hid)] at hreprise
  · refine List.filter_eq_nil_iff.2 fun a' ha' hsans => ?_
    obtain ⟨a, ha, rfl⟩ := Store.mem_majCompte.1 ha'
    by_cases hid : a.id ∈ faits.map BankAccountRow.id
    · have hmem : a ∈ comptesSansEmpreinte s :=
        Table.mem_select.2 ⟨ha, by simpa using (hfaits a ha).1 hid⟩
      obtain ⟨externe, hexterne⟩ := hlisibles a hmem
      rw [if_pos (decide_eq_true hid), avecEmpreinte_of_ok hexterne] at hsans
      cases of_decide_eq_true hsans
    · rw [if_neg (by simpa using hid)] at hsans
      exact hid ((hfaits a ha).2 (of_decide_eq_true hsans))

/-- An account that cannot be decrypted, read first, stops the call. -/
theorem runs_reprendreEmpreintes_illisible (ha : a ∈ comptesSansEmpreinte s)
    (hillisible : ¬ Dechiffrable (externeDe crypto) a) :
    ∃ t r, Runs (machine col) (BankAccounts.reprendreEmpreintes crypto).run s t r s ∧
      ¬ Echec t := by
  obtain ⟨avant, apres, hrows⟩ := List.append_of_mem ha
  have hperm : (a :: (avant ++ apres)).Perm (comptesSansEmpreinte s) := by
    rw [hrows]
    exact List.perm_middle.symm
  have hcles : ((comptesSansEmpreinte s).map BankAccountRow.id).Nodup :=
    (List.filter_sublist.map _).nodup s.bankAccount.nodup
  obtain ⟨rang, hrang⟩ := exists_arrange hperm ((hperm.map BankAccountRow.id).nodup_iff.2 hcles)
  let lignes := (arrange BankAccountRow.id rang (comptesSansEmpreinte s)).map fun a =>
    (a.id, a.ownerId, a.externalAccountId)
  let e : Evenement col := ⟨s, .sql (.compte .listerSansEmpreinte), ⟨none, rang, ⟨0⟩, 0⟩⟩
  have hlecture : Runs (machine col) (interrogerChiffre (.compte .listerSansEmpreinte)).run s [e]
      (.ok lignes) s :=
    runs_bind.2 ⟨[e], .ok lignes, s, [], rfl, runs_perform.2 ⟨_, rfl, rfl, rfl⟩, .pure _ _⟩
  cases hexterne : externeDe crypto a with
  | ok externe => exact absurd ⟨externe, hexterne⟩ hillisible
  | error erreur =>
      refine ⟨[e], .error erreur, ?_, ?_⟩
      · rw [reprendreEmpreintes_eq, ExceptT.run_bind]
        refine runs_bind.2 ⟨[e], .ok lignes, s, [], rfl, hlecture, ?_⟩
        show Runs (machine col) (List.foldlM _ 0 lignes : Tache ChiffrementError ℕ).run s [] _ s
        rw [show lignes = _ from congrArg _ hrang, List.map_cons, List.foldlM_cons]
        have hdechiffre : dechiffrerTexte crypto a.ownerId "bank_account" "external_account_id"
          a.externalAccountId = .error erreur := hexterne
        rw [hdechiffre]
        exact .pure _ _
      · rintro ⟨e', he', hechec⟩
        obtain rfl := List.mem_singleton.1 he'
        exact hechec rfl

/-- An account that can be decrypted, after one that cannot, is not protected. -/
theorem not_repriseComplete (ha : a ∈ comptesSansEmpreinte s)
    (hillisible : ¬ Dechiffrable (externeDe crypto) a) (hb : b ∈ comptesSansEmpreinte s)
    (hlisible : Dechiffrable (externeDe crypto) b) : ¬ RepriseComplete col crypto s := by
  intro h
  obtain ⟨externe, hexterne⟩ := hlisible
  obtain ⟨t, r, hrun, hreussi⟩ := runs_reprendreEmpreintes_illisible ha hillisible
  have hprotege := (h t r s hrun hreussi).1.protegees b hb externe hexterne
  obtain ⟨hmem, hsans⟩ := Table.mem_select.1 hb
  have hmeme := Table.eq_of_key_eq hprotege hmem rfl
  rw [← hmeme] at hsans
  cases of_decide_eq_true hsans

/-- A call protects the accounts in all cases exactly when it can decrypt either all those
without a fingerprint, or none. -/
theorem repriseComplete_iff : RepriseComplete col crypto s ↔
    (∀ a ∈ comptesSansEmpreinte s, Dechiffrable (externeDe crypto) a) ∨
      ∀ a ∈ comptesSansEmpreinte s, ¬ Dechiffrable (externeDe crypto) a := by
  constructor
  · intro h
    by_contra hmelange
    push Not at hmelange
    obtain ⟨⟨a, ha, hillisible⟩, b, hb, hlisible⟩ := hmelange
    exact not_repriseComplete ha hillisible hb hlisible h
  · rintro (hlisibles | hillisibles) t r s' hrun hreussi
    · obtain ⟨faits, restants, hperm, rfl, hfin⟩ :=
        (spec_reprendreEmpreintes hrun).resolve_left hreussi
      have hvide : restants = [] := by
        refine hfin.resolve_right ?_
        rintro ⟨a, ha, hillisible⟩
        exact hillisible (hlisibles a ha)
      rw [hvide, List.append_nil] at hperm
      obtain ⟨hprotege, hplus⟩ := protege_reprendre hlisibles hperm
      refine ⟨hprotege, fun t' r' s'' hrun' hreussi' => ?_⟩
      obtain ⟨faits', restants', hperm', rfl, -⟩ :=
        (spec_reprendreEmpreintes hrun').resolve_left hreussi'
      rw [hplus] at hperm'
      rw [(List.append_eq_nil_iff.1 (List.perm_nil.1 hperm')).1]
      exact reprendre_nil
    · have hinchange : ∀ t r s', Runs (machine col)
          (BankAccounts.reprendreEmpreintes crypto).run s t r s' → ¬ Echec t → s' = s := by
        intro t r s' hrun hreussi
        obtain ⟨faits, restants, hperm, rfl, -⟩ :=
          (spec_reprendreEmpreintes hrun).resolve_left hreussi
        exact reprendre_eq_self fun a ha hid =>
          hillisibles a (mem_comptesSansEmpreinte hperm ha hid)
      obtain rfl := hinchange t r s' hrun hreussi
      refine ⟨⟨fun a ha externe hexterne => ?_, fun a ha _ => ha⟩, hinchange⟩
      exact absurd ⟨externe, hexterne⟩ (hillisibles a ha)

/-! ## An account whose identifier is lost -/

/-- Two accounts stored before the column, the identifier of the first one being damaged. -/
def anciensComptes : Store :=
  (Scenario.deuxComptes.fin rattachement).majCompte
      (fun _ => true) fun a =>
        { a with
          empreinteCompte := none
          externalAccountId := if a.id = Uuid.fromU128 1013 then [] else a.externalAccountId }

/-- The second account may stay without a fingerprint. -/
theorem not_repriseComplete_anciensComptes :
    ¬ RepriseComplete Scenario.collation enClair anciensComptes := by
  have hillisible : ∃ a ∈ comptesSansEmpreinte anciensComptes,
      (externeDe enClair a).isOk = false := by decide +kernel
  have hlisible : ∃ a ∈ comptesSansEmpreinte anciensComptes,
      (externeDe enClair a).isOk = true := by decide +kernel
  obtain ⟨a, ha, herreur⟩ := hillisible
  obtain ⟨b, hb, hok⟩ := hlisible
  refine not_repriseComplete ha ?_ hb (dechiffrable_of_isOk hok)
  rintro ⟨externe, hexterne⟩
  rw [hexterne] at herreur
  cases herreur

end Budgy
