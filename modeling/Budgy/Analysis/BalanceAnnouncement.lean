import Budgy.Analysis.CycleTrace
import Mathlib.Data.Set.Insert
import Mathlib.Order.CompletePartialOrder

/-!
# The announcement of the balances

A balance stored in a cycle is announced by an event about its account, and no event
announces a balance that was not stored.  The event is published at the end of an account
that succeeds: when the bank lists no transactions after the balances were stored, the
account fails and they are not announced.  `executer_annonce_iff` shows that nothing else
separates the balances stored from those announced.
-/

set_option autoImplicit false

namespace Budgy

open Effects Prog

/-! ## The marks of a cycle -/

/-- The account of a balance that is stored. -/
def soldeStocke : Entry signature → Option BankAccountId
  | ⟨.sql (.compte (.insertBalance compte _ _ _ _)), .ok _⟩ => some compte
  | _ => none

/-- The account whose balances are announced as updated. -/
def soldeAnnonce : Entry signature → Option String
  | ⟨.publier ev, _⟩ => if ev.typeEvenement = .balanceUpdated then ev.compte else none
  | _ => none

/-- The account whose transactions the bank does not list. -/
def listeEchouee : Entry signature → Option BankAccountId
  | ⟨.banque (.listerTransactions _ compte _), .error _⟩ => some compte.id
  | _ => none

/-- The balances that the bank gives, with the account it was asked about. -/
def soldesRendus : Entry signature → List (BankAccount × Balance)
  | ⟨.banque (.solde _ compte), .ok soldes⟩ => soldes.map fun solde => (compte, solde)
  | _ => []

/-- The entry stores a balance of the account. -/
def SoldeStocke (id : BankAccountId) (z : Entry signature) : Prop := soldeStocke z = some id

/-- The entry announces a balance of the account. -/
def SoldeAnnonce (id : BankAccountId) (z : Entry signature) : Prop :=
  soldeAnnonce z = some id.toText

/-- The entry is a listing of the transactions of the account that failed. -/
def ListeEchouee (id : BankAccountId) (z : Entry signature) : Prop := listeEchouee z = some id

/-- The balances that the bank gives of an account are of this account. -/
def SoldesDuCompte (z : Entry signature) : Prop :=
  ∀ p ∈ soldesRendus z, p.2.bankAccount = p.1.id

/-- The accounts that the entries mark. -/
def marques (P : BankAccountId → Entry signature → Prop) (x : List (Entry signature)) :
    Set BankAccountId :=
  {id | ∃ y ∈ x, P id y}

/-- The accounts of which a balance was stored. -/
def soldesStockes (x : List (Entry signature)) : Set BankAccountId := marques SoldeStocke x

/-- The accounts of which a balance was announced. -/
def soldesAnnonces (x : List (Entry signature)) : Set BankAccountId := marques SoldeAnnonce x

/-- The accounts whose transactions the bank did not list. -/
def listesEchouees (x : List (Entry signature)) : Set BankAccountId := marques ListeEchouee x

section Marques

variable {P : BankAccountId → Entry signature → Prop} {x y : List (Entry signature)}

/-- The accounts that two traces mark. -/
theorem marques_append : marques P (x ++ y) = marques P x ∪ marques P y := by
  ext id
  constructor
  · rintro ⟨z, hz, hP⟩
    cases List.mem_append.1 hz with
    | inl hz => exact .inl ⟨z, hz, hP⟩
    | inr hz => exact .inr ⟨z, hz, hP⟩
  · rintro (⟨z, hz, hP⟩ | ⟨z, hz, hP⟩)
    · exact ⟨z, List.mem_append_left _ hz, hP⟩
    · exact ⟨z, List.mem_append_right _ hz, hP⟩

/-- The account that one entry marks. -/
theorem marques_singleton {z : Entry signature} : marques P [z] = {id | P id z} := by
  ext id
  simp [marques]

/-- A trace without a mark. -/
theorem marques_eq_empty (h : ∀ z ∈ x, ∀ id, ¬ P id z) : marques P x = ∅ := by
  apply Set.eq_empty_of_forall_notMem
  rintro id ⟨z, hz, hP⟩
  exact h z hz id hP

end Marques

/-- Among the accounts `ids`, those whose balance is announced are those of which a balance
was stored and whose transactions were listed. -/
structure Releve (ids : Set BankAccountId) (x : List (Entry signature)) : Prop where
  annonces : soldesAnnonces x = soldesStockes x \ listesEchouees x
  stockes : soldesStockes x ⊆ ids
  echecs : listesEchouees x ⊆ ids

/-- The request bears on no balance: it neither stores one, nor announces one, nor has the
transactions listed. -/
structure Op.SansSolde (o : Op) : Prop where
  stocke : ∀ r, soldeStocke ⟨o, r⟩ = none
  annonce : ∀ r, soldeAnnonce ⟨o, r⟩ = none
  liste : ∀ r, listeEchouee ⟨o, r⟩ = none

/-- A statement that does not write a balance. -/
theorem sansSolde_sql {r : Requete} (h : .balance ∉ r.ecrit) : (Op.sql r).SansSolde where
  stocke reponse := by
    unfold soldeStocke
    split
    · rename_i heq
      obtain rfl := Op.sql.inj (congrArg Sigma.fst heq)
      simp at h
    · rfl
  annonce _ := rfl
  liste _ := rfl

/-- An event that does not announce one. -/
theorem sansSolde_publier {ev : EvenementSynchro} (h : ev.typeEvenement ≠ .balanceUpdated) :
    (Op.publier ev).SansSolde :=
  ⟨fun _ => rfl, fun _ => if_neg h, fun _ => rfl⟩

/-- Nor does a request that stays inside. -/
theorem sansSolde_interne {o : Op} (ho : o.Interne) : o.SansSolde := by
  cases o with
  | sql r =>
      have hlecture : r.ecrit = [] := ho
      exact sansSolde_sql (hlecture ▸ List.not_mem_nil)
  | nonce => exact ⟨fun _ => rfl, fun _ => rfl, fun _ => rfl⟩
  | banque | publier | uuidV4 | maintenant => exact ho.elim

/-- Nor does the bank, when it is asked for one. -/
theorem sansSolde_solde {consent : Consent} {compte : BankAccount} :
    (Op.banque (.solde consent compte)).SansSolde :=
  ⟨fun _ => rfl, fun _ => rfl, fun _ => rfl⟩

/-! ## What a stretch of a cycle does to the balances -/

section Machine

variable {σ : Type} {M : Machine signature σ} {s : σ} {crypto : CryptoService}
  {parametres : ParametresSynchro} {maintenant : DateTime} {t t' : List (Event M)}

/-- A stretch that bears on no balance marks no account. -/
theorem releve_of_sansSolde (h : ∀ e ∈ t, e.op.SansSolde) :
    soldesStockes (entrees t) = ∅ ∧ soldesAnnonces (entrees t) = ∅ ∧
      listesEchouees (entrees t) = ∅ := by
  have hop : ∀ z ∈ entrees t, z.1.SansSolde := by
    intro z hz
    obtain ⟨e, he, rfl⟩ := mem_entrees.1 hz
    exact h e he
  refine ⟨?_, ?_, ?_⟩
  · exact marques_eq_empty fun z hz id h => nomatch ((hop z hz).stocke z.2).symm.trans h
  · exact marques_eq_empty fun z hz id h => nomatch ((hop z hz).annonce z.2).symm.trans h
  · exact marques_eq_empty fun z hz id h => nomatch ((hop z hz).liste z.2).symm.trans h

/-- The balances stored in two parts of a trace. -/
theorem soldesStockes_entrees_append :
    soldesStockes (entrees (t ++ t')) = soldesStockes (entrees t) ∪ soldesStockes (entrees t') := by
  rw [entrees_append]
  exact marques_append

/-- The balances announced in two parts of a trace. -/
theorem soldesAnnonces_entrees_append :
    soldesAnnonces (entrees (t ++ t')) =
      soldesAnnonces (entrees t) ∪ soldesAnnonces (entrees t') := by
  rw [entrees_append]
  exact marques_append

/-- The listings that failed in two parts of a trace. -/
theorem listesEchouees_entrees_append :
    listesEchouees (entrees (t ++ t')) =
      listesEchouees (entrees t) ∪ listesEchouees (entrees t') := by
  rw [entrees_append]
  exact marques_append

/-- Two stretches about different accounts. -/
theorem Releve.append {ids ids' : Set BankAccountId} (h : Releve ids (entrees t))
    (h' : Releve ids' (entrees t')) (hdisjoint : Disjoint ids ids') :
    Releve (ids ∪ ids') (entrees (t ++ t')) := by
  have hleft : soldesStockes (entrees t) \ listesEchouees (entrees t') =
      soldesStockes (entrees t) :=
    (hdisjoint.mono h.stockes h'.echecs).sdiff_eq_left
  have hright : soldesStockes (entrees t') \ listesEchouees (entrees t) =
      soldesStockes (entrees t') :=
    (hdisjoint.symm.mono h'.stockes h.echecs).sdiff_eq_left
  constructor
  case annonces =>
    rw [soldesAnnonces_entrees_append, soldesStockes_entrees_append,
      listesEchouees_entrees_append, h.annonces, h'.annonces, Set.union_sdiff_distrib]
    congr 1
    · rw [Set.union_comm (listesEchouees (entrees t)), ← Set.sdiff_sdiff, hleft]
    · rw [← Set.sdiff_sdiff, hright]
  case stockes =>
    rw [soldesStockes_entrees_append]
    exact Set.union_subset_union h.stockes h'.stockes
  case echecs =>
    rw [listesEchouees_entrees_append]
    exact Set.union_subset_union h.echecs h'.echecs

/-- A stretch that bears on no balance. -/
theorem Releve.sansSolde (h : ∀ e ∈ t, e.op.SansSolde) : Releve ∅ (entrees t) := by
  obtain ⟨hstockes, hannonces, hechecs⟩ := releve_of_sansSolde h
  constructor
  case annonces => rw [hannonces, hstockes, Set.empty_sdiff]
  case stockes => rw [hstockes]
  case echecs => rw [hechecs]

/-- A statement on more accounts. -/
theorem Releve.mono {ids ids' : Set BankAccountId} {x : List (Entry signature)}
    (h : Releve ids x) (hsub : ids ⊆ ids') : Releve ids' x :=
  ⟨h.annonces, h.stockes.trans hsub, h.echecs.trans hsub⟩

/-- What is asked before an insertion stores nothing, whether it succeeds or not. -/
private theorem spec_prepare {ε α : Type} {x : Tache ε α} (h : x.run.Uses Op.SansSolde) :
    Spec M x.run s fun t => Ends (fun _ _ => soldesStockes (entrees t) = ∅)
      (soldesStockes (entrees t) = ∅) := by
  intro t r s' hrun
  have hstockes := (releve_of_sansSolde (hrun.uses h)).1
  cases r <;> exact hstockes

/-- One balance: its account is marked as soon as the insertion is accepted. -/
private theorem spec_enregistrerBalance {n : NouvelleBalance} :
    Spec M (Balances.enregistrer crypto n).run s fun t => Ends
      (fun _ _ => soldesStockes (entrees t) = {n.bankAccount})
      (soldesStockes (entrees t) = ∅) := by
  have howner : (interrogerChiffre (.compte (.ownerDuCompte n.bankAccount))).run.Uses
      Op.SansSolde := uses_interrogerChiffre (sansSolde_interne rfl)
  refine spec_ends_mapError (spec_ends_bind (spec_prepare howner) ?_)
  intro t₁ owner s₁ h₁
  have hmontant : (chiffrerMontantFrais crypto owner "balance" "amount_cents"
      n.amountCents).run.Uses Op.SansSolde := uses_chiffrerMontantFrais (sansSolde_interne trivial)
  refine spec_ends_bind (Q := fun t₂ _ _ => soldesStockes (entrees (t₁ ++ t₂)) = {n.bankAccount})
    (E := fun t₂ => soldesStockes (entrees (t₁ ++ t₂)) = ∅)
    (R := fun t₂ _ _ => soldesStockes (entrees t₂) = ∅)
    (spec_ends_of (spec_prepare hmontant) fun t₂ h₂ => ?_) ?_
  · rw [soldesStockes_entrees_append, h₁, h₂, Set.union_empty]
  intro t₂ amount s₂ h₂
  refine spec_ends_mapError (spec_perform.2 fun c => ?_)
  simp only [soldesStockes_entrees_append, h₁, h₂, Set.empty_union]
  show Ends _ _ (M.step _ c s₂).1 _
  have hmarque : soldesStockes (entrees [(⟨s₂, _, c⟩ : Event M)]) =
      {id | soldeStocke ⟨_, (M.step (.sql (.compte (.insertBalance n.bankAccount
        n.balanceType amount n.currency n.referenceDate))) c s₂).1⟩ = some id} :=
    marques_singleton
  rw [hmarque]
  cases (M.step (.sql (.compte (.insertBalance n.bankAccount n.balanceType amount n.currency
      n.referenceDate))) c s₂).1 with
  | error e =>
      apply Set.eq_empty_of_forall_notMem
      intro id h
      cases h
  | ok b =>
      ext id
      exact ⟨fun h => (Option.some.inj h).symm, fun h => congrArg some (Eq.symm h)⟩

/-- The request announces no balance and does not have the transactions listed. -/
structure Op.SansAnnonce (o : Op) : Prop where
  annonce : ∀ r, soldeAnnonce ⟨o, r⟩ = none
  liste : ∀ r, listeEchouee ⟨o, r⟩ = none

/-- A request without balances announces none. -/
theorem Op.SansSolde.sansAnnonce {o : Op} (h : o.SansSolde) : o.SansAnnonce :=
  ⟨h.annonce, h.liste⟩

/-- A statement announces none. -/
theorem sansAnnonce_sql {r : Requete} : (Op.sql r).SansAnnonce :=
  ⟨fun _ => rfl, fun _ => rfl⟩

/-- The first loop of `remonter_donnees`: the flag tells whether the account is marked. -/
private theorem spec_soldesStockes {id : BankAccountId} {soldes : List Balance}
    {rapport : RapportSynchro} (hcompte : ∀ solde ∈ soldes, solde.bankAccount = id) :
    Spec M (soldes.foldlM (Synchro.enregistrerSolde crypto) (rapport, ⟨0, false⟩)) s
      fun t acc _ => (∀ e ∈ t, e.op.SansAnnonce) ∧
        soldesStockes (entrees t) = {x | x = id ∧ acc.2.soldeMisAJour = true} := by
  have huses : (soldes.foldlM (Synchro.enregistrerSolde crypto)
      ((rapport, ⟨0, false⟩) : RapportSynchro × RemonteeCompte)).Uses Op.SansAnnonce := by
    refine Uses.foldlM (fun acc solde _ => Uses.bind (uses_enregistrerBalance
      (fun o ho => (sansSolde_interne ho).sansAnnonce) fun amount => sansAnnonce_sql) ?_) _
    rintro (_ | _) <;> exact uses_pure _
  refine Spec.and (fun t a s' hrun => hrun.uses huses) (Spec.foldlM
    (I := fun _ (acc : RapportSynchro × RemonteeCompte) t _ =>
      soldesStockes (entrees t) = {x | x = id ∧ acc.2.soldeMisAJour = true}) ?_ ?_)
  · have hempty : soldesStockes (entrees ([] : List (Event M))) = ∅ :=
      marques_eq_empty fun z hz => absurd hz List.not_mem_nil
    rw [hempty]
    simp
  intro past solde rest acc t s₁ hsoldes hstockes
  have hid : solde.bankAccount = id := hcompte solde (by simp [hsoldes])
  refine spec_bind.2 (Spec.mono spec_enregistrerBalance ?_)
  intro t₁ r s₂ hbalance
  cases r with
  | error e =>
      refine spec_pure.2 ?_
      have hbalance : soldesStockes (entrees t₁) = ∅ := hbalance
      rw [List.append_nil, soldesStockes_entrees_append, hstockes, hbalance, Set.union_empty]
  | ok b =>
      refine spec_pure.2 ?_
      have hbalance : soldesStockes (entrees t₁) = {solde.bankAccount} := hbalance
      rw [List.append_nil, soldesStockes_entrees_append, hstockes, hbalance, hid]
      ext x
      simp only [Set.mem_union, Set.mem_ofPred_eq, Set.mem_singleton_iff, and_true]
      exact ⟨fun h => h.elim And.left fun h => h, .inr⟩

/-- The second loop of `remonter_donnees` bears on no balance, and keeps the flag. -/
private theorem spec_transactionsRemontees {transactions : List TransactionBancaire}
    {compte : BankAccountId} {acc : RapportSynchro × RemonteeCompte} :
    Spec M (transactions.foldlM (Synchro.enregistrerTransaction crypto compte) acc) s
      fun t acc' _ => (∀ e ∈ t, e.op.SansSolde) ∧
        acc'.2.soldeMisAJour = acc.2.soldeMisAJour := by
  have huses : (transactions.foldlM (Synchro.enregistrerTransaction crypto compte) acc).Uses
      Op.SansSolde := by
    refine Uses.foldlM (fun acc transaction _ => Uses.bind (uses_enregistrer
      (fun o ho => sansSolde_interne ho) (fun l _ _ => sansSolde_sql (by simp))
        fun _ _ _ _ => sansSolde_sql (by simp)) ?_) _
    rintro (_ | _ | _) <;> exact uses_pure _
  refine Spec.and (fun t a s' hrun => hrun.uses huses) (Spec.foldlM
    (I := fun _ (acc' : RapportSynchro × RemonteeCompte) _ _ =>
      acc'.2.soldeMisAJour = acc.2.soldeMisAJour) rfl ?_)
  intro past transaction rest acc' t s₁ _ hflag
  refine spec_bind.2 fun t₁ r s₂ _ => ?_
  rcases r with e | id | _ <;> exact spec_pure.2 hflag

/-- The second half of `remonter_donnees`: the account is marked when the bank fails. -/
private theorem spec_listeTransactions {consent : Consent} {compte : BankAccount}
    {depuis : NaiveDate} {acc : RapportSynchro × RemonteeCompte} :
    Spec M (do
      match ← (appelerBanque (.listerTransactions consent compte depuis)).run with
      | .error erreur => return (acc.1, .error erreur)
      | .ok transactions =>
          let acc ← transactions.foldlM (Synchro.enregistrerTransaction crypto compte.id) acc
          return (acc.1, .ok acc.2) :
        Programme (RapportSynchro × Except BankDataSourceError RemonteeCompte)) s fun t r _ =>
      soldesStockes (entrees t) = ∅ ∧ soldesAnnonces (entrees t) = ∅ ∧
        listesEchouees (entrees t) = {x | compte.id = x ∧ r.2.isOk = false} ∧
          ∀ remontee, r.2 = .ok remontee → remontee.soldeMisAJour = acc.2.soldeMisAJour := by
  refine spec_bind.2 (spec_perform.2 fun c => ?_)
  have hstockes : soldesStockes (entrees [(⟨s, .banque (.listerTransactions consent compte depuis),
      c⟩ : Event M)]) = ∅ := by
    refine marques_eq_empty fun z hz id h => ?_
    obtain rfl := List.mem_singleton.1 hz
    cases h
  have hannonces : soldesAnnonces (entrees [(⟨s, .banque (.listerTransactions consent compte
      depuis), c⟩ : Event M)]) = ∅ := by
    refine marques_eq_empty fun z hz id h => ?_
    obtain rfl := List.mem_singleton.1 hz
    cases h
  have hliste : listesEchouees (entrees [(⟨s, .banque (.listerTransactions consent compte depuis),
      c⟩ : Event M)]) = {x | listeEchouee ⟨_, (M.step (.banque (.listerTransactions consent
        compte depuis)) c s).1⟩ = some x} :=
    marques_singleton
  cases hreponse : (M.step (.banque (.listerTransactions consent compte depuis)) c s).1 with
  | error erreur =>
      refine spec_pure.2 ?_
      rw [List.append_nil, hstockes, hannonces, hliste, hreponse]
      refine ⟨rfl, rfl, ?_, fun _ h => nomatch h⟩
      ext x
      exact ⟨fun h => ⟨Option.some.inj h, rfl⟩, fun h => congrArg some h.1⟩
  | ok transactions =>
      refine spec_bind.2 (Spec.mono spec_transactionsRemontees ?_)
      rintro t₁ acc' s₁ ⟨hneutres, hflag⟩
      refine spec_pure.2 ?_
      obtain ⟨hstockes₁, hannonces₁, hechecs₁⟩ := releve_of_sansSolde hneutres
      simp only [List.append_nil, soldesStockes_entrees_append, soldesAnnonces_entrees_append,
        listesEchouees_entrees_append, hstockes, hannonces, hliste, hstockes₁, hannonces₁,
        hechecs₁, Set.union_empty, hreponse]
      refine ⟨trivial, trivial, ?_, ?_⟩
      · ext x
        constructor
        · intro h
          cases h
        · rintro ⟨-, h⟩
          cases h
      · rintro _ ⟨⟩
        exact hflag

/-- What is fetched of an account: the flag of a success tells whether a balance was stored;
a failure after a balance was stored marks the account. -/
private theorem spec_soldesRemontes {consent : Consent} {compte : BankAccount}
    {rapport : RapportSynchro} :
    Spec M (Synchro.remonterDonnees crypto parametres consent compte rapport) s fun t r _ =>
      (∀ z ∈ entrees t, SoldesDuCompte z) →
        soldesAnnonces (entrees t) = ∅ ∧ soldesStockes (entrees t) ⊆ {compte.id} ∧
          listesEchouees (entrees t) ⊆ {compte.id} ∧
            soldesStockes (entrees t) \ listesEchouees (entrees t) =
              {x | x = compte.id ∧ r.2.toOption.any RemonteeCompte.soldeMisAJour = true} := by
  refine spec_bind.2 (spec_perform.2 fun c => ?_)
  have hsolde : ∀ e ∈ [(⟨s, .banque (.solde consent compte), c⟩ : Event M)], e.op.SansSolde := by
    intro e he
    obtain rfl := List.mem_singleton.1 he
    exact sansSolde_solde
  obtain ⟨hstockes, hannonces, hechecs⟩ := releve_of_sansSolde hsolde
  cases hreponse : (M.step (.banque (.solde consent compte)) c s).1 with
  | error erreur =>
      refine spec_pure.2 fun _ => ?_
      rw [List.append_nil, hstockes, hannonces, hechecs]
      simp [Except.toOption]
  | ok soldes =>
      by_cases hcompte : ∀ solde ∈ soldes, solde.bankAccount = compte.id
      swap
      · intro t r s' _ hfidele
        refine absurd ?_ hcompte
        have hfirst := hfidele ⟨_, (M.step (.banque (.solde consent compte)) c s).1⟩
          List.mem_cons_self
        rw [hreponse] at hfirst
        intro solde hsolde
        exact hfirst (compte, solde) (List.mem_map_of_mem hsolde)
      refine spec_bind.2 (Spec.mono (spec_soldesStockes hcompte) ?_)
      rintro t₁ acc s₁ ⟨hsilence, hmarque⟩
      have hannonces₁ : soldesAnnonces (entrees t₁) = ∅ := by
        refine marques_eq_empty fun z hz id h => ?_
        obtain ⟨e, he, rfl⟩ := mem_entrees.1 hz
        exact nomatch ((hsilence e he).annonce _).symm.trans h
      have hechecs₁ : listesEchouees (entrees t₁) = ∅ := by
        refine marques_eq_empty fun z hz id h => ?_
        obtain ⟨e, he, rfl⟩ := mem_entrees.1 hz
        exact nomatch ((hsilence e he).liste _).symm.trans h
      refine Spec.mono spec_listeTransactions ?_
      rintro t₂ r s₂ ⟨hstockes₂, hannonces₂, hechecs₂, hflag⟩ -
      simp only [soldesStockes_entrees_append, soldesAnnonces_entrees_append,
        listesEchouees_entrees_append, hstockes, hannonces, hechecs, hannonces₁, hechecs₁,
        hmarque, hstockes₂, hannonces₂, hechecs₂, Set.empty_union, Set.union_empty]
      refine ⟨trivial, fun x hx => hx.1, fun x hx => hx.1.symm, ?_⟩
      ext x
      cases hr : r.2 with
      | error erreur =>
          constructor
          · rintro ⟨⟨hx, -⟩, hsans⟩
            exact absurd ⟨hx.symm, rfl⟩ hsans
          · rintro ⟨-, hnone⟩
            cases hnone
      | ok remontee =>
          have hsame := hflag remontee hr
          constructor
          · rintro ⟨⟨hx, hvrai⟩, -⟩
            exact ⟨hx, hsame.trans hvrai⟩
          · rintro ⟨hx, hvrai⟩
            refine ⟨⟨hx, hsame.symm.trans hvrai⟩, ?_⟩
            rintro ⟨-, hfaux⟩
            cases hfaux

/-- A success announces the balances when its flag is set. -/
private theorem spec_succesAnnonce {compte : CompteASynchroniser} {remontee : RemonteeCompte} :
    Spec M (Synchro.publierSucces compte.proprietaire compte.id.toText remontee maintenant) s
      fun t _ _ => soldesAnnonces (entrees t) =
        {x | x = compte.id ∧ remontee.soldeMisAJour = true} := by
  unfold Synchro.publierSucces
  split
  · rename_i hvrai
    refine spec_bind.2 (spec_perform.2 fun _ => spec_bind.2 (spec_perform.2 fun _ =>
      spec_perform.2 fun _ => ?_))
    ext x
    constructor
    · rintro ⟨z, hz, hannonce⟩
      rcases hz with _ | ⟨_, _ | ⟨_, _ | ⟨_, hz⟩⟩⟩
      · have htexte : some compte.id.toText = some x.toText := hannonce
        exact ⟨(Uuid.toText_injective (Option.some.inj htexte)).symm, hvrai⟩
      · cases hannonce
      · cases hannonce
      · cases hz
    · rintro ⟨rfl, -⟩
      exact ⟨_, List.mem_cons_self, rfl⟩
  · rename_i hfaux
    refine spec_bind.2 (spec_perform.2 fun _ => spec_perform.2 fun _ => ?_)
    ext x
    constructor
    · rintro ⟨z, hz, hannonce⟩
      rcases hz with _ | ⟨_, _ | ⟨_, hz⟩⟩
      · cases hannonce
      · cases hannonce
      · cases hz
    · rintro ⟨-, hvrai⟩
      exact absurd hvrai hfaux

/-- The end of an account announces its balances when the flag of a success says so. -/
private theorem spec_annonce {compte : CompteASynchroniser} {consent : Consent}
    {rapport : RapportSynchro} {remontee : Except BankDataSourceError RemonteeCompte} :
    Spec M (Synchro.conclure crypto compte consent maintenant rapport remontee).run s fun t _ _ =>
      soldesStockes (entrees t) = ∅ ∧ listesEchouees (entrees t) = ∅ ∧
        soldesAnnonces (entrees t) = {x | x = compte.id ∧
          remontee.toOption.any RemonteeCompte.soldeMisAJour = true} := by
  have huses : (Synchro.conclure crypto compte consent maintenant rapport remontee).run.Uses
      fun o : Op => (∀ r, soldeStocke ⟨o, r⟩ = none) ∧ ∀ r, listeEchouee ⟨o, r⟩ = none := by
    refine uses_conclure (fun o ho => ?_) (fun r _ htables _ => ?_) fun ev => ?_
    · exact ⟨(sansSolde_interne ho).stocke, (sansSolde_interne ho).liste⟩
    · have hsans : (Op.sql r).SansSolde := sansSolde_sql fun hsolde => by
        rcases htables _ hsolde with h | h <;> cases h
      exact ⟨hsans.stocke, hsans.liste⟩
    · exact ⟨fun _ => rfl, fun _ => rfl⟩
  refine Spec.mono (Spec.and (fun t a s' hrun => hrun.uses huses) (R := fun t _ _ =>
    soldesAnnonces (entrees t) = {x | x = compte.id ∧
      remontee.toOption.any RemonteeCompte.soldeMisAJour = true}) ?_) ?_
  swap
  · rintro t r s' ⟨hmuet, hannonces⟩
    refine ⟨marques_eq_empty fun z hz id h => ?_, marques_eq_empty fun z hz id h => ?_,
      hannonces⟩
    · obtain ⟨e, he, rfl⟩ := mem_entrees.1 hz
      exact nomatch ((hmuet e he).1 _).symm.trans h
    · obtain ⟨e, he, rfl⟩ := mem_entrees.1 hz
      exact nomatch ((hmuet e he).2 _).symm.trans h
  rcases remontee with erreur | remontee
  · have hechec : (Synchro.traiterEchecSource compte.proprietaire consent.id erreur maintenant
        rapport).run.Uses Op.SansSolde := by
      unfold Synchro.traiterEchecSource
      split
      · refine Uses.run_bind (Uses.run_mapError (uses_marquerStatutConsent (sansSolde_sql ?_)))
          fun _ => Uses.run_bind (Uses.run_ofProg (uses_demander (sansSolde_publier ?_)))
            fun _ => uses_pure _
        · simp
        · exact fun h => nomatch h
      · exact uses_pure _
    refine spec_run_bind.2 (spec_run_ofProg.2 (spec_perform.2 fun c => ?_))
    intro t r s' hrun
    have hfailed : ∀ e ∈ [(⟨s, .publier (.syncFailed compte.proprietaire compte.id.toText
        maintenant), c⟩ : Event M)], e.op.SansSolde := by
      intro e he
      obtain rfl := List.mem_singleton.1 he
      exact sansSolde_publier fun h => nomatch h
    rw [soldesAnnonces_entrees_append, (releve_of_sansSolde hfailed).2.1,
      (releve_of_sansSolde (hrun.uses hechec)).2.1]
    simp [Except.toOption]
  · have hrecalcul : (Synchro.recalculerRecurrencesApresInsertion crypto compte.proprietaire
        remontee).Uses Op.SansSolde := by
      unfold Synchro.recalculerRecurrencesApresInsertion
      split
      · exact Uses.bind (uses_recalculerRecurrences (fun o ho => sansSolde_interne ho)
          (sansSolde_sql (by simp)) fun _ _ => sansSolde_sql (by simp)) fun _ => uses_pure _
      · exact uses_pure _
    refine spec_run_bind.2 (spec_run_ofProg.2 fun t₁ _ s₁ hrun => ?_)
    have hsilence := (releve_of_sansSolde (hrun.uses hrecalcul)).2.1
    refine spec_run_bind.2 (spec_run_ofProg.2 (Spec.mono spec_succesAnnonce ?_))
    intro t₂ _ s₂ hsucces
    refine spec_run_pure.2 ?_
    rw [List.append_nil, soldesAnnonces_entrees_append, hsilence, hsucces, Set.empty_union]
    rfl

/-! ## One account -/

/-- Once its slot is taken, the balances of an account are announced unless the bank fails
after they were stored. -/
private theorem releve_reserve {compte : CompteASynchroniser} {consent : Consent}
    {rapport : RapportSynchro} :
    Spec M (Synchro.synchroniserCompteReserve crypto parametres compte consent maintenant
      rapport).run s fun t _ _ =>
        (∀ z ∈ entrees t, SoldesDuCompte z) → Releve {compte.id} (entrees t) := by
  have hrenouvellement : (Synchro.publierRenouvellement parametres compte.proprietaire consent
      maintenant).Uses Op.SansSolde := by
    unfold Synchro.publierRenouvellement
    split
    · exact uses_demander (sansSolde_publier fun h => nomatch h)
    · exact uses_pure _
  refine spec_run_bind.2 (spec_run_ofProg.2 (spec_perform.2 fun c => ?_))
  have hdebut : ∀ e ∈ [(⟨s, .publier (.syncStarted compte.proprietaire compte.id.toText
      maintenant), c⟩ : Event M)], e.op.SansSolde := by
    intro e he
    obtain rfl := List.mem_singleton.1 he
    exact sansSolde_publier fun h => nomatch h
  refine spec_run_bind.2 (spec_run_ofProg.2 fun t₁ _ s₁ hrun => ?_)
  refine spec_run_bind.2 (spec_run_ofProg.2 (Spec.mono spec_soldesRemontes ?_))
  intro t₂ r₂ s₂ hremonte
  refine Spec.mono spec_annonce ?_
  rintro t₃ r₃ s₃ ⟨hstockes₃, hechecs₃, hannonces₃⟩ hfidele
  obtain ⟨hstockes₀, hannonces₀, hechecs₀⟩ := releve_of_sansSolde hdebut
  obtain ⟨hstockes₁, hannonces₁, hechecs₁⟩ := releve_of_sansSolde (hrun.uses hrenouvellement)
  obtain ⟨hannonces₂, hstockes₂, hechecs₂, hflag⟩ := hremonte fun z hz => hfidele z (by
    simp only [entrees_append, List.mem_append]
    exact .inr (.inr (.inl hz)))
  constructor
  case annonces =>
    simp only [soldesStockes_entrees_append, soldesAnnonces_entrees_append,
      listesEchouees_entrees_append, hstockes₀, hannonces₀, hechecs₀, hstockes₁, hannonces₁,
      hechecs₁, hannonces₂, hstockes₃, hechecs₃, hannonces₃, Set.empty_union, Set.union_empty]
    exact hflag.symm
  case stockes =>
    simp only [soldesStockes_entrees_append, hstockes₀, hstockes₁, hstockes₃, Set.empty_union,
      Set.union_empty]
    exact hstockes₂
  case echecs =>
    simp only [listesEchouees_entrees_append, hechecs₀, hechecs₁, hechecs₃, Set.empty_union,
      Set.union_empty]
    exact hechecs₂

/-- An account leaves the balances of the others as they were announced. -/
private theorem releve_compte {echeant : CompteEcheant} {rapport : RapportSynchro} :
    Spec M (Synchro.synchroniserCompte crypto parametres maintenant rapport echeant).run s
      fun t _ _ => (∀ z ∈ entrees t, SoldesDuCompte z) →
        Releve {echeant.compte.id} (entrees t) := by
  unfold Synchro.synchroniserCompte
  dsimp only
  split
  · have hexpire : (do
        (ConsentsAdapter.marquerStatutConsent echeant.consent.id .expired).mapError
          SynchroError.ecriture
        Task.ofProg (publierEvenement (.consentExpired echeant.compte.proprietaire maintenant))
        return { rapport with
          comptesEvalues := rapport.comptesEvalues + 1
          consentementsExpires := rapport.consentementsExpires + 1 } :
          Tache SynchroError RapportSynchro).run.Uses Op.SansSolde := by
      refine Uses.run_bind (Uses.run_mapError (uses_marquerStatutConsent (sansSolde_sql ?_)))
        fun _ => Uses.run_bind (Uses.run_ofProg (uses_demander (sansSolde_publier ?_)))
          fun _ => uses_pure _
      · simp
      · exact fun h => nomatch h
    intro t r s' hrun _
    exact (Releve.sansSolde (hrun.uses hexpire)).mono (Set.empty_subset _)
  · have hreserve : ((BankAccountsAdapter.reserverCreneau echeant.compte.id
        (Synchro.planApresSynchro parametres maintenant) parametres.quotaJournalier).mapError
          SynchroError.ecriture).run.Uses Op.SansSolde := by
      refine Uses.run_mapError (Uses.run_mapError (Uses.run_bind (uses_interrogerChiffre
        (sansSolde_sql ?_)) fun _ => uses_pure _))
      simp
    refine spec_run_bind.2 fun t₁ r₁ s₁ hrun => ?_
    have hsans := hrun.uses hreserve
    cases r₁ with
    | error e => exact fun _ => (Releve.sansSolde hsans).mono (Set.empty_subset _)
    | ok pris =>
        show Spec M (ExceptT.run (ite _ _ _)) s₁ _
        split
        · refine spec_run_pure.2 fun _ => ?_
          rw [List.append_nil]
          exact (Releve.sansSolde hsans).mono (Set.empty_subset _)
        · refine Spec.mono releve_reserve ?_
          intro t₂ r₂ s₂ hreleve hfidele
          have hsuite := hreleve fun z hz => hfidele z (by
            rw [entrees_append]
            exact List.mem_append_right _ hz)
          have hjoint := (Releve.sansSolde hsans).append hsuite (Set.empty_disjoint _)
          rwa [Set.empty_union] at hjoint

/-! ## The whole cycle -/

/-- The accounts of a list, as a set of identifiers. -/
def identifiants (echeants : List CompteEcheant) : Set BankAccountId :=
  {id | ∃ echeant ∈ echeants, echeant.compte.id = id}

/-- The accounts are gone through one after the other, none twice. -/
private theorem releve_parcours {echeants : List CompteEcheant}
    (hnodup : (echeants.map fun echeant => echeant.compte.id).Nodup) :
    Spec M (echeants.foldlM (Synchro.synchroniserCompte crypto parametres maintenant) .vide).run s
      fun t _ _ => (∀ z ∈ entrees t, SoldesDuCompte z) →
        Releve (identifiants echeants) (entrees t) := by
  have hspec : Spec M (echeants.foldlM (Synchro.synchroniserCompte crypto parametres maintenant)
      .vide).run s fun t => Ends
        (fun _ _ => (∀ z ∈ entrees t, SoldesDuCompte z) →
          Releve (identifiants echeants) (entrees t))
        ((∀ z ∈ entrees t, SoldesDuCompte z) → Releve (identifiants echeants) (entrees t)) := by
    refine spec_ends_foldlM (I := fun past t _ _ => (∀ z ∈ entrees t, SoldesDuCompte z) →
      Releve (identifiants past) (entrees t)) ?_ ?_
    · intro _
      exact (Releve.sansSolde fun e he => absurd he List.not_mem_nil).mono (Set.empty_subset _)
    intro past echeant rest t rapport s₁ hechean hpast
    -- the account is none of those already gone through
    have hneuf : Disjoint (identifiants past) {echeant.compte.id} := by
      rw [Set.disjoint_singleton_right]
      rintro ⟨passe, hpasse, hid⟩
      rw [hechean, List.map_append, List.map_cons] at hnodup
      exact (List.nodup_append.1 hnodup).2.2 _ (List.mem_map_of_mem hpasse) _
        List.mem_cons_self hid
    refine Spec.mono releve_compte ?_
    intro t₁ r₁ s₂ hreleve
    have hjoint : (∀ z ∈ entrees (t ++ t₁), SoldesDuCompte z) →
        Releve (identifiants past ∪ {echeant.compte.id}) (entrees (t ++ t₁)) := by
      intro hfidele
      rw [entrees_append] at hfidele
      exact (hpast fun z hz => hfidele z (List.mem_append_left _ hz)).append
        (hreleve fun z hz => hfidele z (List.mem_append_right _ hz)) hneuf
    have hsuite : identifiants past ∪ {echeant.compte.id} ⊆ identifiants (past ++ [echeant]) := by
      rintro id (⟨passe, hpasse, hid⟩ | rfl)
      · exact ⟨passe, List.mem_append_left _ hpasse, hid⟩
      · exact ⟨echeant, by simp, rfl⟩
    have htous : identifiants (past ++ [echeant]) ⊆ identifiants echeants := by
      rintro id ⟨passe, hpasse, hid⟩
      refine ⟨passe, ?_, hid⟩
      rw [hechean]
      rcases List.mem_append.1 hpasse with hpasse | hpasse
      · exact List.mem_append_left _ hpasse
      · exact List.mem_append_right _ (List.mem_cons.2 (.inl (List.mem_singleton.1 hpasse)))
    cases r₁ with
    | error e => exact fun hfidele => (hjoint hfidele).mono (hsuite.trans htous)
    | ok rapport' => exact fun hfidele => (hjoint hfidele).mono hsuite
  refine Spec.mono hspec ?_
  rintro t (e | rapport) s' h
  · exact h
  · exact h

end Machine

section Cycle

variable {col : Collation} {s s' : Store} {t : List (Evenement col)} {crypto : CryptoService}
  {parametres : ParametresSynchro} {r : Except SynchroError RapportSynchro}

/-- The list of the due accounts names each of them once. -/
private theorem spec_echeants {maintenant : DateTime} :
    Spec (machine col) ((BankAccountsAdapter.listerComptesEcheants crypto maintenant
      parametres.quotaJournalier).mapError SynchroError.lecture).run s fun t r _ =>
        (∀ e ∈ t, e.op.SansSolde) ∧ ∀ echeants, r = .ok echeants →
          (echeants.map fun echeant => echeant.compte.id).Nodup := by
  have huses : ((BankAccountsAdapter.listerComptesEcheants crypto maintenant
      parametres.quotaJournalier).mapError SynchroError.lecture).run.Uses Op.SansSolde :=
    Uses.run_mapError (uses_listerComptesEcheants fun o ho => sansSolde_interne ho)
  refine Spec.and (fun t r s' hrun => hrun.uses huses) (spec_run_mapError.2 (spec_run_mapError.2
    (spec_run_bind.2 (spec_interrogerChiffre ?_ ?_))))
  · exact fun x e _ _ h => nomatch h
  · intro x rows s₁ _ hreply
    show Spec (machine col) (Task.ofExcept _).run _ _
    cases hlisible : rows.mapM (BankAccounts.intoCompteEcheant crypto) with
    | error e => exact spec_pure.2 fun _ h => nomatch h
    | ok lus =>
        refine spec_pure.2 ?_
        rintro _ ⟨⟩
        rw [Traversal.map_eq_map hlisible fun _ _ h => (intoCompteEcheant_eq_ok h).1]
        have hrows : ((listeEcheants parametres maintenant).executer col x s).1 = .ok rows :=
          hreply
        exact nodup_listeEcheants hrows

/-- In every cycle, the balances announced are those stored, less those of the accounts
whose transactions the bank did not list. -/
theorem soldesAnnonces_eq
    (h : Runs (machine col) (Synchro.executer crypto parametres).run s t r s')
    (hsoldes : ∀ z ∈ entrees t, SoldesDuCompte z) :
    soldesAnnonces (entrees t) = soldesStockes (entrees t) \ listesEchouees (entrees t) := by
  have hspec : Spec (machine col) (Synchro.executer crypto parametres).run s fun t _ _ =>
      (∀ z ∈ entrees t, SoldesDuCompte z) → ∃ ids, Releve ids (entrees t) := by
    refine spec_run_bind.2 (spec_run_ofProg.2 (spec_perform.2 fun c => ?_))
    have hhorloge : ∀ e ∈ [(⟨s, .maintenant, c⟩ : Evenement col)], e.op.SansSolde := by
      intro e he
      obtain rfl := List.mem_singleton.1 he
      exact ⟨fun _ => rfl, fun _ => rfl, fun _ => rfl⟩
    refine spec_run_bind.2 (Spec.mono spec_echeants ?_)
    rintro t₁ (e | echeants) s₁ ⟨hsans, hnodup⟩
    · intro _
      exact ⟨_, (Releve.sansSolde hhorloge).append (Releve.sansSolde hsans)
        (Set.empty_disjoint _)⟩
    · refine Spec.mono (releve_parcours (hnodup echeants rfl)) ?_
      intro t₂ r₂ s₂ hreleve hfidele
      have hsuite := hreleve fun z hz => hfidele z (by
        simp only [entrees_append, List.mem_append]
        exact .inr (.inr hz))
      exact ⟨_, (Releve.sansSolde hhorloge).append
        ((Releve.sansSolde hsans).append hsuite (Set.empty_disjoint _)) (Set.empty_disjoint _)⟩
  obtain ⟨ids, hreleve⟩ := hspec h hsoldes
  exact hreleve.annonces

/-- An event announces the balances of an account exactly when one of them was stored. -/
def BalancesAnnoncees (x : List (Entry signature)) : Prop :=
  ∀ compte, compte ∈ soldesAnnonces x ↔ compte ∈ soldesStockes x

/-- An account is announced exactly as its balances are stored unless, after a balance of
it was stored, the bank does not list its transactions. -/
theorem executer_annonce_iff
    (h : Runs (machine col) (Synchro.executer crypto parametres).run s t r s')
    (hsoldes : ∀ z ∈ entrees t, SoldesDuCompte z) (compte : BankAccountId) :
    (compte ∈ soldesAnnonces (entrees t) ↔ compte ∈ soldesStockes (entrees t)) ↔
      ¬ (compte ∈ soldesStockes (entrees t) ∧ compte ∈ listesEchouees (entrees t)) := by
  rw [soldesAnnonces_eq h hsoldes, Set.mem_sdiff]
  tauto

end Cycle

/-! ## A balance stored and not announced -/

/-- The balance that the bank gives of the first account. -/
def soldeDuPremier : Balance :=
  { id := Uuid.fromU128 0, bankAccount := Uuid.fromU128 1012, balanceType := .booked,
    amountCents := 12345, currency := "EUR", referenceDate := 0, createdAt := 0 }

/-- A bank with one account and its balance. -/
def avecSolde : Scenario := { Scenario.unCompte with soldes := fun _ => .ok [soldeDuPremier] }

/-- The same bank, which does not list the transactions. -/
def sansListe : Scenario :=
  { avecSolde with transactions := fun _ => .error .etablissementIndisponible }

/-- The user has the account. -/
def compteDu : Store := avecSolde.fin rattachement

/-- The cycle of the worker against a bank. -/
def cycleDu (sc : Scenario) :
    Outcome (machine Scenario.collation) (Except SynchroError RapportSynchro) :=
  run _ sc.choix (Synchro.executer enClair .defaut).run 500 compteDu

/-- The cycle of a scenario is a run. -/
theorem runs_cycleDu (sc : Scenario) :
    Runs (machine Scenario.collation) (Synchro.executer enClair .defaut).run compteDu
      (cycleDu sc).trace (cycleDu sc).value (cycleDu sc).state :=
  runs_run (M := machine Scenario.collation) sc.choix (Synchro.executer enClair .defaut).run 500
    compteDu

instance (z : Entry signature) : Decidable (SoldesDuCompte z) :=
  inferInstanceAs (Decidable (∀ p ∈ soldesRendus z, p.2.bankAccount = p.1.id))

/-- What both cycles store and announce is of the one account. -/
private theorem soldesDuCompte_cycleDu :
    (∀ z ∈ entrees (cycleDu avecSolde).trace, SoldesDuCompte z) ∧
      ∀ z ∈ entrees (cycleDu sansListe).trace, SoldesDuCompte z := by
  decide +kernel

/-- Both cycles store a balance of the account. -/
private theorem soldeStocke_cycleDu :
    some (Uuid.fromU128 1012) ∈ (entrees (cycleDu avecSolde).trace).map soldeStocke ∧
      some (Uuid.fromU128 1012) ∈ (entrees (cycleDu sansListe).trace).map soldeStocke := by
  decide +kernel

/-- An account whose balance is stored somewhere in a trace is marked. -/
private theorem mem_soldesStockes {id : BankAccountId} {x : List (Entry signature)}
    (h : some id ∈ x.map soldeStocke) : id ∈ soldesStockes x := by
  obtain ⟨z, hz, hstocke⟩ := List.mem_map.1 h
  exact ⟨z, hz, hstocke⟩

/-- The balance stored is announced. -/
theorem annonce_avecSolde :
    Uuid.fromU128 1012 ∈ soldesStockes (entrees (cycleDu avecSolde).trace) ∧
      Uuid.fromU128 1012 ∈ soldesAnnonces (entrees (cycleDu avecSolde).trace) := by
  have hstocke := mem_soldesStockes soldeStocke_cycleDu.1
  have hlistees : ∀ z ∈ entrees (cycleDu avecSolde).trace, listeEchouee z = none := by
    decide +kernel
  refine ⟨hstocke, ((executer_annonce_iff (runs_cycleDu avecSolde) soldesDuCompte_cycleDu.1
    (Uuid.fromU128 1012)).2 ?_).2 hstocke⟩
  rintro ⟨-, z, hz, hechouee⟩
  exact nomatch (hlistees z hz).symm.trans hechouee

/-- The bank does not list the transactions after the balance was stored: nothing announces
the balance. -/
theorem not_balancesAnnoncees :
    Runs (machine Scenario.collation) (Synchro.executer enClair .defaut).run compteDu
        (cycleDu sansListe).trace (cycleDu sansListe).value (cycleDu sansListe).state ∧
      (∀ z ∈ entrees (cycleDu sansListe).trace, SoldesDuCompte z) ∧
        ¬ BalancesAnnoncees (entrees (cycleDu sansListe).trace) := by
  refine ⟨runs_cycleDu sansListe, soldesDuCompte_cycleDu.2, fun h => ?_⟩
  have hmuet : ∀ z ∈ entrees (cycleDu sansListe).trace, soldeAnnonce z = none := by
    decide +kernel
  obtain ⟨z, hz, hannonce⟩ :=
    (h (Uuid.fromU128 1012)).2 (mem_soldesStockes soldeStocke_cycleDu.2)
  exact nomatch (hmuet z hz).symm.trans hannonce

end Budgy
