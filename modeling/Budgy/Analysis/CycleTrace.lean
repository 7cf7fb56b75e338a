import Budgy.Analysis.WorkerCycle
import Budgy.Analysis.Scenarios

/-!
# The trace of a cycle

A cycle leaves each account by one of four exits: its consent is over, its slot is
refused, the bank fails, or it is synchronised.  `Passage.Conforme` says what the cycle
asked and announced on the way to each of them, and `executer_trace` that a cycle is
the succession of these passages, with a report that counts them.

Nothing is assumed of the answers: the machine is any one.  The list of the due accounts,
the answers of the bank and the failures of the database are all of its choosing.
-/

set_option autoImplicit false

namespace Budgy

open Effects Prog

/-- The exits of `synchroniser_compte`. -/
inductive Sortie where
  | expire
  | ignore
  | echoue
  | synchronise (transactions : ℕ)
  deriving DecidableEq

namespace Sortie

/-- The account went past the reservation of its slot. -/
def Reservee (x : Sortie) : Prop := x = .echoue ∨ ∃ n, x = .synchronise n

/-- The transactions an exit counts. -/
def transactions : Sortie → ℕ
  | .synchronise n => n
  | _ => 0

/-- The successes an exit counts. -/
def synchronises : Sortie → ℕ
  | .synchronise _ => 1
  | _ => 0

/-- The refusals an exit counts. -/
def ignores : Sortie → ℕ
  | .ignore => 1
  | _ => 0

/-- What is announced of an account that leaves by the exit. -/
def publications (compte : CompteASynchroniser) (maintenant : DateTime) :
    Sortie → List EvenementSynchro
  | .expire | .ignore => []
  | .echoue =>
      [.syncStarted compte.proprietaire compte.id.toText maintenant,
        .syncFailed compte.proprietaire compte.id.toText maintenant]
  | .synchronise n =>
      [.syncStarted compte.proprietaire compte.id.toText maintenant,
        .syncSucceeded compte.proprietaire compte.id.toText n maintenant]

/-- What an exit adds to the report, once the account is counted. -/
structure Compte (x : Sortie) (rapport rapport' : RapportSynchro) : Prop where
  evalues : rapport'.comptesEvalues = rapport.comptesEvalues
  synchronises : rapport'.comptesSynchronises = rapport.comptesSynchronises + x.synchronises
  ignores : rapport'.comptesIgnoresQuota = rapport.comptesIgnoresQuota + x.ignores
  inserees : rapport'.transactionsInserees = rapport.transactionsInserees + x.transactions

end Sortie

/-- The events that tell the start and the end of a synchronisation. -/
def annonceSync : Entry signature → Option EvenementSynchro
  | ⟨.publier ev, _⟩ =>
      if ev.typeEvenement = .syncStarted ∨ ev.typeEvenement = .syncSucceeded ∨
        ev.typeEvenement = .syncFailed then some ev else none
  | _ => none

/-- What a list of requests announces of the synchronisations. -/
def annonces (x : List (Entry signature)) : List EvenementSynchro := x.filterMap annonceSync

/-- The counts that the announced successes carry, added up. -/
def transactionsAnnoncees (l : List EvenementSynchro) : ℕ :=
  (l.filterMap fun ev => if ev.typeEvenement = .syncSucceeded then ev.count else none).sum

/-- The announced failures. -/
def echecsAnnonces (l : List EvenementSynchro) : ℕ :=
  l.countP fun ev => ev.typeEvenement = .syncFailed

/-- The request stores a transaction of the account. -/
def Op.Stocke (compte : BankAccountId) (o : Op) : Prop :=
  ∃ l : InsertionTransaction, o = .sql (.transaction (.insert l)) ∧ l.bankAccountId = compte

/-- What a cycle asked for an account, and the exit it took. -/
structure Passage where
  echeant : CompteEcheant
  sortie : Sortie
  requetes : List (Entry signature)

namespace Passage

/-- The account of a passage. -/
def compte (p : Passage) : BankAccountId := p.echeant.compte.id

/-- What the requests of a passage have to do with its exit. -/
structure Conforme (maintenant : DateTime) (p : Passage) : Prop where
  expire : p.sortie = .expire ↔ consentementExpire p.echeant.consent maintenant = true
  reserve : (∃ x ∈ p.requetes, CreneauPris p.compte x) ↔ p.sortie.Reservee
  banque : ∀ l₁ x l₂ a, p.requetes = l₁ ++ x :: l₂ → x.1 = .banque a →
    x.1.DuCompte p.compte ∧ ∃ y ∈ l₁, CreneauPris p.compte y
  annonces : annonces p.requetes = p.sortie.publications p.echeant.compte maintenant
  stocke : ∀ x ∈ p.requetes, ∀ id, x.1.Stocke id → id = p.compte ∧ p.sortie ≠ .echoue

end Passage

/-- A cycle that went through the accounts `echeants`: its requests and its report. -/
structure TraceDuCycle (maintenant : DateTime) (echeants : List CompteEcheant)
    (passages : List Passage) (x : List (Entry signature)) (rapport : RapportSynchro) : Prop where
  comptes : passages.map Passage.echeant = echeants
  trace : x = passages.flatMap Passage.requetes
  conformes : ∀ p ∈ passages, p.Conforme maintenant
  transactions : transactionsAnnoncees (annonces x) = rapport.transactionsInserees
  echecs : (echeants.map fun echeant => echeant.compte.id).Nodup → ∀ p ∈ passages,
    p.sortie = .echoue → ∀ y ∈ x, ¬ y.1.Stocke p.compte
  evalues : rapport.comptesEvalues = echeants.length
  bilan : rapport.comptesEvalues = rapport.comptesSynchronises + rapport.comptesIgnoresQuota +
    (echeants.countP fun echeant => consentementExpire echeant.consent maintenant) +
      echecsAnnonces (annonces x)

/-! ## The stretches of a passage -/

/-- The request announces no synchronisation. -/
def Op.Silencieuse (o : Op) : Prop := ∀ r, annonceSync ⟨o, r⟩ = none

/-- The request may follow the reservation of the account: it is not another reservation,
the bank is asked about the account, the transactions stored are its own. -/
structure Op.DuPassage (compte : BankAccountId) (o : Op) : Prop where
  banque : ∀ a, o = .banque a → o.DuCompte compte
  reserve : ∀ id plan quota, o ≠ .sql (.compte (.reserverCreneau id plan quota))
  stocke : ∀ id, o.Stocke id → id = compte

/-- The request neither announces a synchronisation, nor reserves, nor calls the bank, nor
stores a transaction. -/
structure Op.Neutre (o : Op) : Prop where
  silencieuse : o.Silencieuse
  banque : ∀ a, o ≠ .banque a
  reserve : ∀ id plan quota, o ≠ .sql (.compte (.reserverCreneau id plan quota))
  stocke : ∀ id, ¬ o.Stocke id

/-- A neutral request is part of the passage of any account. -/
theorem Op.Neutre.duPassage {o : Op} (h : o.Neutre) (compte : BankAccountId) :
    o.DuPassage compte :=
  ⟨fun a ha => absurd ha (h.banque a), h.reserve, fun id hid => absurd hid (h.stocke id)⟩

/-- A statement that reserves nothing and stores for the account alone. -/
theorem duPassage_sql {compte : BankAccountId} {r : Requete}
    (hreserve : ∀ id plan quota, r ≠ .compte (.reserverCreneau id plan quota))
    (hstocke : ∀ l, r = .transaction (.insert l) → l.bankAccountId = compte) :
    (Op.sql r).DuPassage compte where
  banque _ h := nomatch h
  reserve _ _ _ h := hreserve _ _ _ (Op.sql.inj h)
  stocke := by
    rintro id ⟨l, h, rfl⟩
    exact hstocke l (Op.sql.inj h)

/-- A call to the bank for the account. -/
theorem duPassage_banque {compte : BankAccountId} {a : AppelBanque}
    (h : (Op.banque a).DuCompte compte) : (Op.banque a).DuPassage compte where
  banque _ _ := h
  reserve _ _ _ h := nomatch h
  stocke _ := fun ⟨_, h, _⟩ => nomatch h

/-- An event stores nothing. -/
theorem not_stocke_publier {ev : EvenementSynchro} {id : BankAccountId} :
    ¬ (Op.publier ev).Stocke id :=
  fun ⟨_, h, _⟩ => nomatch h

/-- An event is part of the passage of any account. -/
theorem duPassage_publier {compte : BankAccountId} {ev : EvenementSynchro} :
    (Op.publier ev).DuPassage compte where
  banque _ h := nomatch h
  reserve _ _ _ h := nomatch h
  stocke _ h := absurd h not_stocke_publier

/-- A statement that neither reserves nor stores a transaction is neutral. -/
theorem neutre_sql {r : Requete}
    (hreserve : ∀ compte plan quota, r ≠ .compte (.reserverCreneau compte plan quota))
    (hstocke : ∀ l, r ≠ .transaction (.insert l)) : (Op.sql r).Neutre where
  silencieuse _ := rfl
  banque _ h := nomatch h
  reserve _ _ _ h := hreserve _ _ _ (Op.sql.inj h)
  stocke := by
    rintro id ⟨l, h, -⟩
    exact hstocke l (Op.sql.inj h)

/-- A silent event is neutral. -/
theorem neutre_publier {ev : EvenementSynchro} (h : (Op.publier ev).Silencieuse) :
    (Op.publier ev).Neutre where
  silencieuse := h
  banque _ h := nomatch h
  reserve _ _ _ h := nomatch h
  stocke _ := not_stocke_publier

/-- A request that stays inside is neutral. -/
theorem neutre_interne {o : Op} (ho : o.Interne) : o.Neutre := by
  cases o with
  | sql r =>
      have hlecture : r.ecrit = [] := ho
      refine neutre_sql ?_ ?_
      · rintro compte plan quota rfl
        cases hlecture
      · rintro l rfl
        cases hlecture
  | nonce =>
      constructor
      case silencieuse => exact fun _ => rfl
      case banque => exact fun _ h => nomatch h
      case reserve => exact fun _ _ _ h => nomatch h
      case stocke => exact fun _ ⟨_, h, _⟩ => nomatch h
  | banque | publier | uuidV4 | maintenant => exact ho.elim

/-- The events of two parts of a trace. -/
theorem annonces_append {x y : List (Entry signature)} :
    annonces (x ++ y) = annonces x ++ annonces y :=
  List.filterMap_append

/-- A stretch that announces nothing. -/
theorem annonces_eq_nil {x : List (Entry signature)} (h : ∀ y ∈ x, y.1.Silencieuse) :
    annonces x = [] :=
  List.filterMap_eq_nil_iff.2 fun y hy => h y hy y.2

section Machine

variable {σ : Type} {M : Machine signature σ} {s : σ} {crypto : CryptoService}
  {parametres : ParametresSynchro} {maintenant : DateTime}

/-- What was asked and answered. -/
def entrees (t : List (Event M)) : List (Entry signature) := t.map Event.entry

/-- The entries of two parts of a trace. -/
theorem entrees_append {t t' : List (Event M)} : entrees (t ++ t') = entrees t ++ entrees t' :=
  List.map_append

/-- An entry is that of an event. -/
theorem mem_entrees {t : List (Event M)} {x : Entry signature} :
    x ∈ entrees t ↔ ∃ e ∈ t, Event.entry e = x :=
  List.mem_map

/-- A reservation or the update of a consent fails. -/
def PlanificationEchoue (t : List (Event M)) : Prop :=
  ∃ e ∈ t, e.op.Planifie ∧ ¬ Reussi e.op e.reply

/-- A planning that fails in the second part fails. -/
theorem PlanificationEchoue.right {t t' : List (Event M)} (h : PlanificationEchoue t') :
    PlanificationEchoue (t ++ t') := by
  obtain ⟨e, he, hechec⟩ := h
  exact ⟨e, List.mem_append_right _ he, hechec⟩

/-- A reservation is one request, which answers whether the slot was taken. -/
private theorem spec_reserve {id : BankAccountId} {plan : PlanificationSynchro} {quota : ℤ} :
    Spec M ((BankAccountsAdapter.reserverCreneau id plan quota).mapError SynchroError.ecriture).run
      s fun t => Ends (fun pris _ => ∃ n : ℕ, pris = decide (n = 1) ∧
        entrees t = [⟨.sql (.compte (.reserverCreneau id plan quota)), .ok n⟩])
          (PlanificationEchoue t) := by
  refine spec_ends_mapError (spec_ends_mapError (spec_ends_bind (R := fun t n _ =>
    entrees t = [⟨.sql (.compte (.reserverCreneau id plan quota)), .ok n⟩])
      (spec_ends_mapError (spec_perform.2 fun c => ?_)) ?_))
  · cases hreponse : (M.step (.sql (.compte (.reserverCreneau id plan quota))) c s).1 with
    | error e =>
        refine ⟨_, List.mem_singleton_self _, trivial, ?_⟩
        show ¬ (M.step (.sql (.compte (.reserverCreneau id plan quota))) c s).1.isOk = true
        rw [hreponse]
        exact Bool.false_ne_true
    | ok n =>
        show [(⟨_, (M.step (.sql (.compte (.reserverCreneau id plan quota))) c s).1⟩ :
          Entry signature)] = _
        rw [hreponse]
  · rintro t n s' ht
    refine spec_run_pure.2 ⟨n, rfl, ?_⟩
    rw [List.append_nil, ht]

/-- Marking a consent as expired, then announcing it. -/
private theorem spec_expire {id : ConsentId} {owner : ProprietaireId} {rapport : RapportSynchro} :
    Spec M (do
      (ConsentsAdapter.marquerStatutConsent id .expired).mapError SynchroError.ecriture
      Task.ofProg (publierEvenement (.consentExpired owner maintenant))
      return rapport : Tache SynchroError RapportSynchro).run s fun t =>
        Ends (fun rapport' _ => (∀ e ∈ t, e.op.Neutre) ∧ rapport' = rapport)
          (PlanificationEchoue t) := by
  refine spec_ends_uses (spec_ends_bind (R := fun _ _ _ => True) (spec_ends_mapError
    (spec_ends_mapError (spec_ends_bind (R := fun _ _ _ => True) (spec_ends_mapError
      (spec_perform.2 fun c => ?_)) fun _ _ _ _ => spec_run_pure.2 trivial))) ?_) ?_
  · cases hreponse : (M.step (.sql (.consent (.marquerStatutConsent id .expired))) c s).1 with
    | error e =>
        refine ⟨_, List.mem_singleton_self _, trivial, ?_⟩
        show ¬ (M.step (.sql (.consent (.marquerStatutConsent id .expired))) c s).1.isOk = true
        rw [hreponse]
        exact Bool.false_ne_true
    | ok n => trivial
  · intro _ _ _ _
    exact spec_run_bind.2 (spec_run_ofProg.2 (spec_perform.2 fun _ => spec_run_pure.2 rfl))
  · refine Uses.run_bind (Uses.run_mapError (uses_marquerStatutConsent (neutre_sql ?_ ?_))) fun _ =>
      Uses.run_bind (Uses.run_ofProg (uses_demander (neutre_publier fun _ => rfl))) fun _ =>
        uses_pure _
    · exact fun _ _ _ h => nomatch h
    · exact fun _ h => nomatch h

/-- Two reports that count the same accounts. -/
structure RapportSynchro.MemesComptes (r r₀ : RapportSynchro) : Prop where
  evalues : r.comptesEvalues = r₀.comptesEvalues
  synchronises : r.comptesSynchronises = r₀.comptesSynchronises
  ignores : r.comptesIgnoresQuota = r₀.comptesIgnoresQuota

/-- The transactions that a fetch of an account counts. -/
def transactionsRemontees : Except BankDataSourceError RemonteeCompte → ℕ
  | .ok remontee => remontee.transactionsInserees
  | .error _ => 0

/-- The fetch of an account has counted `n` transactions, in the report and in its answer. -/
structure Decompte (rapport : RapportSynchro) (n : ℕ) (acc : RapportSynchro × RemonteeCompte) :
    Prop where
  memes : acc.1.MemesComptes rapport
  rapport : acc.1.transactionsInserees = rapport.transactionsInserees + n
  remontee : acc.2.transactionsInserees = n

/-- The balances count no transaction and store none. -/
private theorem spec_soldes {soldes : List Balance} {rapport : RapportSynchro} :
    Spec M (soldes.foldlM (Synchro.enregistrerSolde crypto) (rapport, ⟨0, false⟩)) s
      fun t acc _ => (∀ e ∈ t, e.op.Neutre) ∧ Decompte rapport 0 acc := by
  have huses : (soldes.foldlM (Synchro.enregistrerSolde crypto)
      ((rapport, ⟨0, false⟩) : RapportSynchro × RemonteeCompte)).Uses Op.Neutre := by
    refine Uses.foldlM (fun acc solde _ => Uses.bind (uses_enregistrerBalance
      (fun o ho => neutre_interne ho) fun amount => neutre_sql ?_ ?_) ?_) _
    · exact fun _ _ _ h => nomatch h
    · exact fun _ h => nomatch h
    · rintro (_ | _) <;> exact uses_pure _
  refine Spec.and (fun t a s' hrun => hrun.uses huses) (Spec.foldlM
    (I := fun _ acc _ _ => Decompte rapport 0 acc) ⟨⟨rfl, rfl, rfl⟩, rfl, rfl⟩ ?_)
  rintro past solde rest acc t s₁ - ⟨⟨hevalues, hsynchronises, hignores⟩, hrapport, hremontee⟩
  refine spec_bind.2 fun t₁ r s₂ _ => ?_
  cases r with
  | error e => exact spec_pure.2 ⟨⟨hevalues, hsynchronises, hignores⟩, hrapport, hremontee⟩
  | ok id => exact spec_pure.2 ⟨⟨hevalues, hsynchronises, hignores⟩, hrapport, hremontee⟩

/-- The transactions are counted in the report and in the answer alike. -/
private theorem spec_transactions {transactions : List TransactionBancaire}
    {compte : BankAccountId} {rapport : RapportSynchro} {n : ℕ}
    {acc : RapportSynchro × RemonteeCompte} (hacc : Decompte rapport n acc) :
    Spec M (transactions.foldlM (Synchro.enregistrerTransaction crypto compte) acc) s
      fun _ acc _ => ∃ n, Decompte rapport n acc := by
  refine Spec.foldlM (I := fun _ acc _ _ => ∃ n, Decompte rapport n acc) ⟨n, hacc⟩ ?_
  rintro past transaction rest acc t s₁ - ⟨n, ⟨hevalues, hsynchronises, hignores⟩, hrapport, hremontee⟩
  refine spec_bind.2 fun t₁ r s₂ _ => ?_
  rcases r with e | id | _
  · exact spec_pure.2 ⟨n, ⟨hevalues, hsynchronises, hignores⟩, hrapport, hremontee⟩
  · refine spec_pure.2 ⟨n + 1, ⟨hevalues, hsynchronises, hignores⟩, ?_, ?_⟩
    · exact congrArg (· + 1) hrapport
    · exact congrArg (· + 1) hremontee
  · exact spec_pure.2 ⟨n, ⟨hevalues, hsynchronises, hignores⟩, hrapport, hremontee⟩

/-- What is fetched is counted twice, in the report and in the answer; nothing is stored
when the bank fails. -/
private theorem spec_remonte {consent : Consent} {compte : BankAccount}
    {rapport : RapportSynchro} :
    Spec M (Synchro.remonterDonnees crypto parametres consent compte rapport) s fun t r _ =>
      (∀ e ∈ t, e.op.Silencieuse ∧ e.op.DuPassage compte.id) ∧ r.1.MemesComptes rapport ∧
        r.1.transactionsInserees = rapport.transactionsInserees + transactionsRemontees r.2 ∧
          ∀ erreur, r.2 = .error erreur → ∀ e ∈ t, ∀ id, ¬ e.op.Stocke id := by
  have huses : (Synchro.remonterDonnees crypto parametres consent compte rapport).Uses
      (fun o : Op => o.Silencieuse ∧ o.DuPassage compte.id) := by
    refine uses_remonterDonnees ?_ ?_ ?_ ?_
    · exact fun o ho => ⟨(neutre_interne ho).silencieuse, (neutre_interne ho).duPassage _⟩
    · refine fun r _ htables hinsere => ⟨fun _ => rfl, duPassage_sql ?_ hinsere⟩
      rintro id plan quota rfl
      rcases htables .bankAccount (by simp) with h | h <;> cases h
    · exact ⟨fun _ => rfl, duPassage_banque rfl⟩
    · exact ⟨fun _ => rfl, duPassage_banque rfl⟩
  refine Spec.and (fun t a s' hrun => hrun.uses huses) ?_
  refine spec_bind.2 (spec_perform.2 fun c => ?_)
  cases (M.step (.banque (.solde consent compte)) c s).1 with
  | error erreur =>
      refine spec_pure.2 ⟨⟨rfl, rfl, rfl⟩, rfl, ?_⟩
      rintro _ - e he id ⟨l, hop, -⟩
      obtain rfl := List.mem_singleton.1 he
      cases hop
  | ok soldes =>
      refine spec_bind.2 (Spec.mono spec_soldes ?_)
      rintro t₁ acc s₁ ⟨hneutres, hdecompte⟩
      refine spec_bind.2 (spec_perform.2 fun c₂ => ?_)
      cases (M.step (.banque (.listerTransactions consent compte
        (Synchro.depuisPour parametres compte))) c₂ s₁).1 with
      | error erreur =>
          refine spec_pure.2 ⟨hdecompte.memes, hdecompte.rapport, ?_⟩
          rintro _ - e he id hstocke
          simp only [List.mem_append, List.mem_singleton, List.append_nil] at he
          rcases he with rfl | he | rfl
          · obtain ⟨l, hop, -⟩ := hstocke
            cases hop
          · exact (hneutres e he).stocke id hstocke
          · obtain ⟨l, hop, -⟩ := hstocke
            cases hop
      | ok transactions =>
          refine spec_bind.2 (Spec.mono (spec_transactions hdecompte) ?_)
          rintro t₂ acc₂ s₂ ⟨n, hmemes, hrapport, hremontee⟩
          refine spec_pure.2 ⟨hmemes, ?_, fun _ h => nomatch h⟩
          exact hrapport.trans (congrArg _ hremontee.symm)

/-- A stretch of a run that announces nothing. -/
theorem annonces_entrees_eq_nil {t : List (Event M)} (h : ∀ e ∈ t, e.op.Silencieuse) :
    annonces (entrees t) = [] := by
  refine annonces_eq_nil fun y hy => ?_
  obtain ⟨e, he, rfl⟩ := mem_entrees.1 hy
  exact h e he

/-- What a success announces. -/
private theorem spec_succes {compte : CompteASynchroniser} {remontee : RemonteeCompte} :
    Spec M (Synchro.publierSucces compte.proprietaire compte.id.toText remontee maintenant) s
      fun t _ _ => annonces (entrees t) = [.syncSucceeded compte.proprietaire compte.id.toText
        remontee.transactionsInserees maintenant] := by
  unfold Synchro.publierSucces
  split
  · exact spec_bind.2 (spec_perform.2 fun _ => spec_bind.2 (spec_perform.2 fun _ =>
      spec_perform.2 fun _ => rfl))
  · exact spec_bind.2 (spec_perform.2 fun _ => spec_perform.2 fun _ => rfl)

/-- The exit that follows the fetch of an account. -/
def Sortie.apres : Except BankDataSourceError RemonteeCompte → Sortie
  | .ok remontee => .synchronise remontee.transactionsInserees
  | .error _ => .echoue

/-- The end of an account is announced, and counted. -/
private theorem spec_conclu {compte : CompteASynchroniser} {consent : Consent}
    {rapport : RapportSynchro} {remontee : Except BankDataSourceError RemonteeCompte} :
    Spec M (Synchro.conclure crypto compte consent maintenant rapport remontee).run s fun t =>
      Ends (fun rapport' _ =>
        (∀ e ∈ t, e.op.DuPassage compte.id ∧ ∀ id, ¬ e.op.Stocke id) ∧
        .syncStarted compte.proprietaire compte.id.toText maintenant :: annonces (entrees t) =
          (Sortie.apres remontee).publications compte maintenant ∧
        rapport'.comptesEvalues = rapport.comptesEvalues ∧
        rapport'.comptesSynchronises =
          rapport.comptesSynchronises + (Sortie.apres remontee).synchronises ∧
        rapport'.comptesIgnoresQuota = rapport.comptesIgnoresQuota ∧
        rapport'.transactionsInserees = rapport.transactionsInserees)
      (PlanificationEchoue t) := by
  have huses : (Synchro.conclure crypto compte consent maintenant rapport remontee).run.Uses
      fun o : Op => o.DuPassage compte.id ∧ ∀ id, ¬ o.Stocke id := by
    refine uses_conclure ?_ ?_ fun ev => ⟨duPassage_publier, fun _ => not_stocke_publier⟩
    · exact fun o ho => ⟨(neutre_interne ho).duPassage _, (neutre_interne ho).stocke⟩
    · intro r _ htables hinsere
      have hneutre : (Op.sql r).Neutre := by
        refine neutre_sql ?_ hinsere
        rintro id plan quota rfl
        rcases htables .bankAccount (by simp) with h | h <;> cases h
      exact ⟨hneutre.duPassage _, hneutre.stocke⟩
  refine spec_ends_uses ?_ huses
  rcases remontee with erreur | remontee
  · refine spec_run_bind.2 (spec_run_ofProg.2 (spec_perform.2 fun _ => ?_))
    show Spec M (Synchro.traiterEchecSource _ _ _ _ _).run _ _
    unfold Synchro.traiterEchecSource
    split
    · refine Spec.mono spec_expire ?_
      rintro t (e | rapport') s' h
      · exact h.right
      · obtain ⟨hneutres, rfl⟩ := h
        refine ⟨?_, rfl, rfl, rfl, rfl⟩
        rw [entrees_append, annonces_append,
          annonces_entrees_eq_nil fun e he => (hneutres e he).silencieuse]
        rfl
    · exact spec_run_pure.2 ⟨rfl, rfl, rfl, rfl, rfl⟩
  · have hrecalcul : (Synchro.recalculerRecurrencesApresInsertion crypto compte.proprietaire
        remontee).Uses Op.Silencieuse := by
      unfold Synchro.recalculerRecurrencesApresInsertion
      split
      · exact Uses.bind (uses_recalculerRecurrences (fun o ho => (neutre_interne ho).silencieuse)
          (fun _ => rfl) fun _ _ _ => rfl) fun _ => uses_pure _
      · exact uses_pure _
    refine spec_run_bind.2 (spec_run_ofProg.2 fun t₁ _ s₁ hrun => ?_)
    have hsilence := annonces_entrees_eq_nil (hrun.uses hrecalcul)
    refine spec_run_bind.2 (spec_run_ofProg.2 (Spec.mono spec_succes ?_))
    intro t₂ _ s₂ hsucces
    refine spec_run_pure.2 ⟨?_, rfl, rfl, rfl, rfl⟩
    rw [entrees_append, entrees_append, annonces_append, annonces_append, hsilence, hsucces]
    rfl

/-- Once its slot is taken, an account fails or is synchronised. -/
private theorem spec_reservee {compte : CompteASynchroniser} {consent : Consent}
    {rapport : RapportSynchro} :
    Spec M (Synchro.synchroniserCompteReserve crypto parametres compte consent maintenant
      rapport).run s fun t => Ends (fun rapport' _ => ∃ sortie : Sortie, sortie.Reservee ∧
        annonces (entrees t) = sortie.publications compte maintenant ∧
        (∀ e ∈ t, e.op.DuPassage compte.id) ∧
        (sortie = .echoue → ∀ e ∈ t, ∀ id, ¬ e.op.Stocke id) ∧
        sortie.Compte rapport rapport') (PlanificationEchoue t) := by
  have hrenouvellement : (Synchro.publierRenouvellement parametres compte.proprietaire consent
      maintenant).Uses Op.Neutre := by
    unfold Synchro.publierRenouvellement
    split
    · exact uses_demander (neutre_publier fun _ => rfl)
    · exact uses_pure _
  refine spec_run_bind.2 (spec_run_ofProg.2 (spec_perform.2 fun c => ?_))
  refine spec_run_bind.2 (spec_run_ofProg.2 fun t₁ _ s₁ hrun => ?_)
  have hneutres := hrun.uses hrenouvellement
  refine spec_run_bind.2 (spec_run_ofProg.2 (Spec.mono spec_remonte ?_))
  rintro t₂ ⟨rapport₂, remontee⟩ s₂ ⟨hpassage, hmemes, hinserees, hrien⟩
  refine Spec.mono spec_conclu ?_
  rintro t₃ (e | rapport') s₃ h
  · exact h.right.right.right
  obtain ⟨hfin, hannonces, hevalues, hsynchronises, hignores, hinserees'⟩ := h
  refine ⟨Sortie.apres remontee, ?_, ?_, ?_, ?_, ?_, ?_, ?_, ?_⟩
  · cases remontee with
    | error => exact .inl rfl
    | ok remontee => exact .inr ⟨_, rfl⟩
  · rw [entrees_append, entrees_append, entrees_append, annonces_append, annonces_append,
      annonces_append, annonces_entrees_eq_nil fun e he => (hneutres e he).silencieuse,
      annonces_entrees_eq_nil fun e he => (hpassage e he).1, ← hannonces]
    rfl
  · intro e he
    simp only [List.mem_append, List.mem_singleton] at he
    rcases he with rfl | he | he | he
    · exact duPassage_publier
    · exact (hneutres e he).duPassage _
    · exact (hpassage e he).2
    · exact (hfin e he).1
  · intro hechoue e he
    simp only [List.mem_append, List.mem_singleton] at he
    rcases he with rfl | he | he | he
    · exact fun _ => not_stocke_publier
    · exact (hneutres e he).stocke
    · cases remontee with
      | error erreur => exact hrien erreur rfl e he
      | ok remontee => cases hechoue
    · exact (hfin e he).2
  · exact hevalues.trans hmemes.evalues
  · rw [hsynchronises, hmemes.synchronises]
  · have hzero : (Sortie.apres remontee).ignores = 0 := by cases remontee <;> rfl
    rw [hignores, hmemes.ignores, hzero, Nat.add_zero]
  · have hsame : (Sortie.apres remontee).transactions = transactionsRemontees remontee := by
      cases remontee <;> rfl
    rw [hinserees', hinserees, hsame]

/-- A slot is taken by a reservation. -/
private theorem op_of_creneauPris {id : BankAccountId} {x : Entry signature}
    (h : CreneauPris id x) : ∃ plan quota, x.1 = .sql (.compte (.reserverCreneau id plan quota)) := by
  unfold CreneauPris at h
  split at h
  · obtain ⟨rfl, -⟩ := h
    exact ⟨_, _, rfl⟩
  · exact h.elim

variable {echeant : CompteEcheant} {t : List (Event M)} {plan : PlanificationSynchro} {quota : ℤ}

/-- An account whose consent is over is left before its reservation. -/
private theorem conforme_expire (hexpire : consentementExpire echeant.consent maintenant = true)
    (hneutres : ∀ e ∈ t, e.op.Neutre) :
    Passage.Conforme maintenant ⟨echeant, .expire, entrees t⟩ := by
  have hneutre : ∀ x ∈ entrees t, x.1.Neutre := by
    intro x hx
    obtain ⟨e, he, rfl⟩ := mem_entrees.1 hx
    exact hneutres e he
  constructor
  case expire => exact ⟨fun _ => hexpire, fun _ => rfl⟩
  case reserve =>
    constructor
    · rintro ⟨x, hx, hpris⟩
      obtain ⟨plan, quota, hop⟩ := op_of_creneauPris hpris
      exact absurd hop ((hneutre x hx).reserve _ _ _)
    · rintro (h | ⟨_, h⟩) <;> cases h
  case banque =>
    intro l₁ x l₂ a hl hop
    have hl : entrees t = l₁ ++ x :: l₂ := hl
    exact absurd hop ((hneutre x (by simp [hl])).banque a)
  case annonces => exact annonces_entrees_eq_nil fun e he => (hneutres e he).silencieuse
  case stocke => exact fun x hx id hid => absurd hid ((hneutre x hx).stocke id)

/-- An account whose slot is refused is left there. -/
private theorem conforme_ignore (hexpire : consentementExpire echeant.consent maintenant ≠ true)
    {n : ℕ} (hn : n ≠ 1)
    (ht : entrees t = [⟨.sql (.compte (.reserverCreneau echeant.compte.id plan quota)), .ok n⟩]) :
    Passage.Conforme maintenant ⟨echeant, .ignore, entrees t⟩ := by
  rw [ht]
  constructor
  case expire =>
    refine ⟨fun h => ?_, fun h => absurd h hexpire⟩
    cases h
  case reserve =>
    constructor
    · rintro ⟨x, hx, hpris⟩
      obtain rfl := List.mem_singleton.1 hx
      exact absurd (Except.ok.inj hpris.2) hn
    · rintro (h | ⟨_, h⟩) <;> cases h
  case banque =>
    intro l₁ x l₂ a hl hop
    have hx : x ∈ [(⟨.sql (.compte (.reserverCreneau echeant.compte.id plan quota)), .ok n⟩ :
        Entry signature)] := by
      rw [show [_] = l₁ ++ x :: l₂ from hl]
      simp
    obtain rfl := List.mem_singleton.1 hx
    cases hop
  case annonces => rfl
  case stocke =>
    intro x hx id hid
    obtain rfl := List.mem_singleton.1 hx
    obtain ⟨l, h, -⟩ := hid
    cases h

/-- An account whose slot is taken goes on. -/
private theorem conforme_reserve (hexpire : consentementExpire echeant.consent maintenant ≠ true)
    {t' : List (Event M)} {sortie : Sortie} (hreservee : sortie.Reservee)
    (ht : entrees t = [⟨.sql (.compte (.reserverCreneau echeant.compte.id plan quota)), .ok 1⟩])
    (hannonces : annonces (entrees t') = sortie.publications echeant.compte maintenant)
    (hpassage : ∀ e ∈ t', e.op.DuPassage echeant.compte.id)
    (hechoue : sortie = .echoue → ∀ e ∈ t', ∀ id, ¬ e.op.Stocke id) :
    Passage.Conforme maintenant ⟨echeant, sortie, entrees (t ++ t')⟩ := by
  rw [entrees_append, ht]
  constructor
  case expire =>
    refine ⟨fun h => ?_, fun h => absurd h hexpire⟩
    rcases hreservee with hsortie | ⟨_, hsortie⟩ <;> exact nomatch hsortie.symm.trans h
  case reserve => exact ⟨fun _ => hreservee, fun _ => ⟨_, List.mem_cons_self, rfl, rfl⟩⟩
  case banque =>
    intro l₁ x l₂ a hl hop
    cases l₁ with
    | nil =>
        obtain ⟨rfl, -⟩ := List.cons.inj hl
        cases hop
    | cons y l₁ =>
        obtain ⟨rfl, hrest⟩ := List.cons.inj hl
        have hrest : entrees t' = l₁ ++ x :: l₂ := hrest
        have hx : x ∈ entrees t' := by simp [hrest]
        obtain ⟨e, he, rfl⟩ := mem_entrees.1 hx
        exact ⟨(hpassage e he).banque a hop, _, List.mem_cons_self, rfl, rfl⟩
  case annonces => exact hannonces
  case stocke =>
    intro x hx id hid
    rcases List.mem_cons.1 hx with rfl | hx
    · obtain ⟨l, h, -⟩ := hid
      cases h
    · obtain ⟨e, he, rfl⟩ := mem_entrees.1 hx
      exact ⟨(hpassage e he).stocke id hid, fun h => hechoue h e he id hid⟩

/-- An account goes through the cycle by a passage that conforms, unless the planning
fails. -/
private theorem spec_passage {echeant : CompteEcheant} {rapport : RapportSynchro} :
    Spec M (Synchro.synchroniserCompte crypto parametres maintenant rapport echeant).run s fun t =>
      Ends (fun rapport' _ => ∃ sortie : Sortie,
        Passage.Conforme maintenant ⟨echeant, sortie, entrees t⟩ ∧
        sortie.Compte { rapport with comptesEvalues := rapport.comptesEvalues + 1 } rapport')
      (PlanificationEchoue t) := by
  unfold Synchro.synchroniserCompte
  dsimp only
  split
  · rename_i hexpire
    refine Spec.mono spec_expire ?_
    rintro t (e | rapport') s' h
    · exact h
    · obtain ⟨hneutres, rfl⟩ := h
      exact ⟨.expire, conforme_expire hexpire hneutres, rfl, rfl, rfl, rfl⟩
  · rename_i hexpire
    refine spec_ends_bind spec_reserve ?_
    rintro t pris s₁ ⟨n, rfl, ht⟩
    by_cases hn : n = 1
    · subst hn
      refine Spec.mono spec_reservee ?_
      rintro t' (e | rapport') s₂ h
      · exact h.right
      obtain ⟨sortie, hreservee, hannonces, hpassage, hechoue, hcompte⟩ := h
      exact ⟨sortie, conforme_reserve hexpire hreservee ht hannonces hpassage hechoue, hcompte⟩
    · rw [if_pos (by simp [hn])]
      refine spec_run_pure.2 ?_
      rw [List.append_nil]
      exact ⟨.ignore, conforme_ignore hexpire hn ht, rfl, rfl, rfl, rfl⟩

/-! ## The whole cycle -/

/-- The cycle has gone through the accounts `past`, by passages that conform and that its
report counts. -/
structure Parcours (maintenant : DateTime) (past : List CompteEcheant) (passages : List Passage)
    (x : List (Entry signature)) (rapport : RapportSynchro) : Prop where
  comptes : passages.map Passage.echeant = past
  trace : x = passages.flatMap Passage.requetes
  conformes : ∀ p ∈ passages, p.Conforme maintenant
  evalues : rapport.comptesEvalues = passages.length
  synchronises : rapport.comptesSynchronises =
    (passages.map fun p => p.sortie.synchronises).sum
  ignores : rapport.comptesIgnoresQuota = (passages.map fun p => p.sortie.ignores).sum
  inserees : rapport.transactionsInserees = (passages.map fun p => p.sortie.transactions).sum

/-- A cycle that has examined no account. -/
theorem Parcours.debut : Parcours maintenant [] [] [] .vide :=
  ⟨rfl, rfl, fun _ hp => absurd hp List.not_mem_nil, rfl, rfl, rfl, rfl⟩

/-- A cycle that has examined one more account. -/
theorem Parcours.suite {past : List CompteEcheant} {passages : List Passage}
    {x y : List (Entry signature)} {rapport rapport' : RapportSynchro}
    (h : Parcours maintenant past passages x rapport) {sortie : Sortie}
    (hconforme : Passage.Conforme maintenant ⟨echeant, sortie, y⟩)
    (hcompte : sortie.Compte { rapport with comptesEvalues := rapport.comptesEvalues + 1 }
      rapport') :
    Parcours maintenant (past ++ [echeant]) (passages ++ [⟨echeant, sortie, y⟩]) (x ++ y)
      rapport' where
  comptes := by rw [List.map_append, h.comptes]; rfl
  trace := by rw [List.flatMap_append, ← h.trace, List.flatMap_singleton]
  conformes p hp := by
    rcases List.mem_append.1 hp with hp | hp
    · exact h.conformes p hp
    · rwa [List.mem_singleton.1 hp]
  evalues := by rw [hcompte.evalues, List.length_append, ← h.evalues]; rfl
  synchronises := by
    rw [hcompte.synchronises, List.map_append, List.sum_append, ← h.synchronises]
    simp
  ignores := by
    rw [hcompte.ignores, List.map_append, List.sum_append, ← h.ignores]
    simp
  inserees := by
    rw [hcompte.inserees, List.map_append, List.sum_append, ← h.inserees]
    simp

/-- What the passages announce, one after the other. -/
def Passage.annoncees (maintenant : DateTime) (passages : List Passage) : List EvenementSynchro :=
  passages.flatMap fun p => p.sortie.publications p.echeant.compte maintenant

/-- The events of the passages, one after the other. -/
theorem annonces_flatMap {passages : List Passage}
    (h : ∀ p ∈ passages, p.Conforme maintenant) :
    annonces (passages.flatMap Passage.requetes) = Passage.annoncees maintenant passages := by
  induction passages with
  | nil => rfl
  | cons p passages ih =>
      have hp := (h p List.mem_cons_self).annonces
      have hrest := ih fun q hq => h q (List.mem_cons_of_mem p hq)
      rw [List.flatMap_cons, annonces_append, hp, hrest]
      rfl

/-- The announced counts are those of the exits. -/
theorem transactionsAnnoncees_annoncees {passages : List Passage} :
    transactionsAnnoncees (Passage.annoncees maintenant passages) =
      (passages.map fun p => p.sortie.transactions).sum := by
  induction passages with
  | nil => rfl
  | cons p passages ih =>
      have hsplit : transactionsAnnoncees (Passage.annoncees maintenant (p :: passages)) =
          transactionsAnnoncees (p.sortie.publications p.echeant.compte maintenant) +
            transactionsAnnoncees (Passage.annoncees maintenant passages) := by
        simp only [transactionsAnnoncees, Passage.annoncees, List.flatMap_cons,
          List.filterMap_append, List.sum_append]
      have hfirst : transactionsAnnoncees (p.sortie.publications p.echeant.compte maintenant) =
          p.sortie.transactions := by
        cases p.sortie <;> simp [transactionsAnnoncees, Sortie.publications, Sortie.transactions,
          EvenementSynchro.syncStarted, EvenementSynchro.syncSucceeded, EvenementSynchro.syncFailed]
      rw [hsplit, hfirst, ih, List.map_cons, List.sum_cons]

/-- Every account is counted once, by its exit. -/
theorem length_eq_sorties {passages : List Passage} (h : ∀ p ∈ passages, p.Conforme maintenant) :
    passages.length = (passages.map fun p => p.sortie.synchronises).sum +
      (passages.map fun p => p.sortie.ignores).sum +
        ((passages.map Passage.echeant).countP fun echeant =>
          consentementExpire echeant.consent maintenant) +
          echecsAnnonces (Passage.annoncees maintenant passages) := by
  induction passages with
  | nil => rfl
  | cons p passages ih =>
      have hp := (h p List.mem_cons_self).expire
      have hrest := ih fun q hq => h q (List.mem_cons_of_mem p hq)
      have hsplit : echecsAnnonces (Passage.annoncees maintenant (p :: passages)) =
          echecsAnnonces (p.sortie.publications p.echeant.compte maintenant) +
            echecsAnnonces (Passage.annoncees maintenant passages) := by
        simp only [echecsAnnonces, Passage.annoncees, List.flatMap_cons, List.countP_append]
      have hfirst : 1 = p.sortie.synchronises + p.sortie.ignores +
          (if consentementExpire p.echeant.consent maintenant = true then 1 else 0) +
            echecsAnnonces (p.sortie.publications p.echeant.compte maintenant) := by
        by_cases hexpire : consentementExpire p.echeant.consent maintenant = true
        · rw [if_pos hexpire, hp.2 hexpire]
          rfl
        · rw [if_neg hexpire]
          cases hsortie : p.sortie with
          | expire => exact absurd (hp.1 hsortie) hexpire
          | ignore | echoue | synchronise => rfl
      rw [hsplit, List.length_cons, List.map_cons, List.map_cons, List.map_cons, List.sum_cons,
        List.sum_cons, List.countP_cons]
      omega

/-- The passages of a cycle make its trace. -/
theorem Parcours.traceDuCycle {echeants : List CompteEcheant} {passages : List Passage}
    {x : List (Entry signature)} {rapport : RapportSynchro}
    (h : Parcours maintenant echeants passages x rapport) :
    TraceDuCycle maintenant echeants passages x rapport := by
  obtain ⟨rfl, rfl, hconformes, hevalues, hsynchronises, hignores, hinserees⟩ := h
  have hannonces := annonces_flatMap hconformes
  constructor
  case comptes => rfl
  case trace => rfl
  case conformes => exact hconformes
  case transactions => rw [hannonces, transactionsAnnoncees_annoncees, hinserees]
  case echecs =>
    intro hnodup p hp hechoue y hy hstocke
    obtain ⟨q, hq, hyq⟩ := List.mem_flatMap.1 hy
    obtain ⟨hcompte, hsortie⟩ := (hconformes q hq).stocke y hyq _ hstocke
    rw [List.map_map] at hnodup
    obtain rfl := List.inj_on_of_nodup_map hnodup hp hq hcompte
    exact hsortie hechoue
  case evalues => rw [hevalues, List.length_map]
  case bilan =>
    rw [hannonces, hevalues, hsynchronises, hignores]
    exact length_eq_sorties hconformes

/-- The accounts are gone through one after the other. -/
private theorem spec_parcours {echeants : List CompteEcheant} :
    Spec M (echeants.foldlM (Synchro.synchroniserCompte crypto parametres maintenant) .vide).run s
      fun t => Ends (fun rapport _ =>
        ∃ passages, Parcours maintenant echeants passages (entrees t) rapport)
          (PlanificationEchoue t) := by
  refine spec_ends_foldlM (I := fun past t rapport _ =>
    ∃ passages, Parcours maintenant past passages (entrees t) rapport) ⟨[], .debut⟩ ?_
  rintro past echeant rest t rapport s₁ - ⟨passages, hparcours⟩
  refine Spec.mono spec_passage ?_
  rintro t' (e | rapport') s₂ h
  · exact h.right
  · obtain ⟨sortie, hconforme, hcompte⟩ := h
    refine ⟨passages ++ [⟨echeant, sortie, entrees t'⟩], ?_⟩
    rw [entrees_append]
    exact hparcours.suite hconforme hcompte

/-- The list of the due accounts is one request, or an error of reading. -/
private theorem spec_liste :
    Spec M ((BankAccountsAdapter.listerComptesEcheants crypto maintenant
      parametres.quotaJournalier).mapError SynchroError.lecture).run s fun t r _ =>
        match r with
        | .ok echeants => ∃ rows : List CompteEcheantRow,
            rows.mapM (BankAccounts.intoCompteEcheant crypto) = .ok echeants ∧
              entrees t = [⟨.sql (listeEcheants parametres maintenant), .ok rows⟩]
        | .error erreur => ∃ e, erreur = .lecture e := by
  refine spec_run_mapError.2 (spec_run_mapError.2 (spec_run_bind.2
    (spec_run_mapError.2 (spec_perform.2 fun c => ?_))))
  cases hliste : (M.step (.sql (listeEcheants parametres maintenant)) c s).1 with
  | error e => exact ⟨_, rfl⟩
  | ok rows =>
      show Spec M (Task.ofExcept _).run _ _
      cases hlisible : rows.mapM (BankAccounts.intoCompteEcheant crypto) with
      | error e => exact spec_pure.2 ⟨_, rfl⟩
      | ok echeants =>
          refine spec_pure.2 ⟨rows, hlisible, ?_⟩
          show [(⟨_, (M.step (.sql (listeEcheants parametres maintenant)) c s).1⟩ :
            Entry signature)] = _
          rw [hliste]

/-- The cycle read the clock, listed the due accounts and went through them. -/
def CycleComplet (crypto : CryptoService) (parametres : ParametresSynchro)
    (x : List (Entry signature)) (r : Except SynchroError RapportSynchro) : Prop :=
  ∃ (maintenant : DateTime) (rows : List CompteEcheantRow) (echeants : List CompteEcheant)
    (passages : List Passage) (y : List (Entry signature)) (rapport : RapportSynchro),
    r = .ok rapport ∧ rows.mapM (BankAccounts.intoCompteEcheant crypto) = .ok echeants ∧
    x = ⟨.maintenant, maintenant⟩ ::
      ⟨.sql (listeEcheants parametres maintenant), .ok rows⟩ :: y ∧
    TraceDuCycle maintenant echeants passages y rapport

/-- Whatever is answered, a cycle whose planning does not fail either finds no list, or goes
through the accounts listed. -/
theorem executer_trace {s' : σ} {r : Except SynchroError RapportSynchro}
    (h : Runs M (Synchro.executer crypto parametres).run s t r s')
    (hplanification : ∀ e ∈ t, e.op.Planifie → Reussi e.op e.reply) :
    (∃ e, r = .error (.lecture e)) ∨ CycleComplet crypto parametres (entrees t) r := by
  have hspec : Spec M (Synchro.executer crypto parametres).run s fun t r _ =>
      (∀ e ∈ t, e.op.Planifie → Reussi e.op e.reply) →
        (∃ e, r = .error (.lecture e)) ∨ CycleComplet crypto parametres (entrees t) r := by
    refine spec_run_bind.2 (spec_run_ofProg.2 (spec_perform.2 fun c => ?_))
    refine spec_run_bind.2 (Spec.mono spec_liste ?_)
    rintro t₁ (erreur | echeants) s₁ hliste
    · obtain ⟨e, rfl⟩ := hliste
      exact fun _ => .inl ⟨e, rfl⟩
    obtain ⟨rows, hlisible, ht₁⟩ := hliste
    refine Spec.mono spec_parcours ?_
    rintro t₂ (erreur | rapport) s₂ hparcours hplan
    · obtain ⟨e, he, hplanifie, hechec⟩ := hparcours
      exact absurd (hplan e (by simp [he]) hplanifie) hechec
    · obtain ⟨passages, hparcours⟩ := hparcours
      refine .inr ⟨_, rows, echeants, passages, entrees t₂, rapport, rfl, hlisible, ?_,
        hparcours.traceDuCycle⟩
      rw [entrees_append, entrees_append, ht₁]
      rfl
  exact hspec h hplanification

end Machine

/-! ## One success, one failure -/

/-- A bank with two accounts, whose second balance is not available. -/
def secondEnPanne : Scenario :=
  { Scenario.deuxComptes with
    soldes := fun n => if n < 510 then .ok [] else .error .etablissementIndisponible }

/-- The user has both accounts. -/
def deuxComptesDus : Store := secondEnPanne.fin rattachement

/-- The cycle that synchronises the first account and fails on the second. -/
def cyclePartage : Outcome (machine Scenario.collation) (Except SynchroError RapportSynchro) :=
  run _ secondEnPanne.choix (Synchro.executer enClair .defaut).run 500 deuxComptesDus

/-- Is the request a statement? -/
private def estSql : Op → Bool
  | .sql _ => true
  | _ => false

/-- The planning of the cycle does not fail. -/
private theorem planifie_cyclePartage :
    ∀ e ∈ cyclePartage.trace, e.op.Planifie → Reussi e.op e.reply := by
  have hall : ∀ e ∈ cyclePartage.trace, estSql e.op = true → Reussi e.op e.reply := by
    decide +kernel
  rintro ⟨s, o, c⟩ he hplanifie
  cases o with
  | sql r => exact hall _ he rfl
  | banque | publier | nonce | uuidV4 | maintenant => exact hplanifie.elim

/-- Both accounts are counted, and one of them as synchronised. -/
theorem executer_trace_cyclePartage :
    cyclePartage.value = .ok ⟨2, 1, 0, 0, 0, 0, 0⟩ ∧
      CycleComplet enClair .defaut (entrees cyclePartage.trace) cyclePartage.value := by
  have hvalue : cyclePartage.value = .ok ⟨2, 1, 0, 0, 0, 0, 0⟩ := by decide +kernel
  have hrun := runs_run (M := machine Scenario.collation) secondEnPanne.choix
    (Synchro.executer enClair .defaut).run 500 deuxComptesDus
  rw [← cyclePartage] at hrun
  obtain ⟨e, herreur⟩ | hcomplet := executer_trace hrun planifie_cyclePartage
  · rw [hvalue] at herreur
    cases herreur
  · exact ⟨hvalue, hcomplet⟩

end Budgy
