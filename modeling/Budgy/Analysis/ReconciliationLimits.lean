import Budgy.Analysis.Reconciliation
import Budgy.Interface.Assumptions

/-!
# What a reconciliation leaves

Every batch lists its candidates under a limit.  As long as the candidates fit in one
listing, what a reconciliation leaves unclassified is a debit that no rule matches
(`reconciliation_complete`); beyond the limit a credit may be left, whatever the order of the
database (`not_complet_grandLivre`).
-/

set_option autoImplicit false

namespace Budgy

open Effects Relational

/-- The transaction has no category, by its column and by its source, and is not internal. -/
def BankTransactionRow.nonCategorisee (t : BankTransactionRow) : Bool := t.aClasser && t.aCrediter

/-- A debit whose label no rule of the owner matches. -/
structure Store.SansRegle (crypto : CryptoService) (owner : ProprietaireId) (s : Store)
    (t : BankTransactionRow) : Prop where
  debit : ∃ m, dechiffrerMontant crypto owner "bank_transaction" "amount_cents" t.amountCents =
    .ok m ∧ m < 0
  libelle : ∀ regle ∈ s.reglesCategorisation, regle.ownerId = owner →
    ∃ label, dechiffrerTexte crypto owner "bank_transaction" "label" t.label = .ok label ∧
      regle.correspond label = false

/-- What is left unclassified is a debit that no rule matches. -/
def Store.Complet (crypto : CryptoService) (owner : ProprietaireId) (s : Store) : Prop :=
  ∀ t ∈ s.bankTransaction, s.txDe owner t = true → t.nonCategorisee = true →
    s.SansRegle crypto owner t

/-- The value of an answer is there exactly when the answer is a success. -/
private theorem toOption_eq_some {ε α : Type} {x : Except ε α} {a : α} :
    x.toOption = some a ↔ x = .ok a := by
  cases x <;> simp [Except.toOption]

section Main

variable {col : Collation} {crypto : CryptoService} {owner : ProprietaireId} {s s' : Store}
  {t : List (Evenement col)} {n : ℕ}

/-- When the transactions to classify fit in one listing and the category of default credits
exists, a reconciliation that answers leaves only debits that no rule matches. -/
theorem reconciliation_complete
    (hrun : Runs (machine col) (Handlers.recategoriserCredits crypto owner).run s t (.ok n) s')
    (hsalaire : s.SalairePour owner) {e : Evenement col} (he : e ∈ t)
    (hop : e.op = .sql (listeRegles owner)) (hlistable : e.before.Listable owner) :
    s'.Complet crypto owner := by
  obtain ⟨h⟩ := spec_recategoriserCredits hrun
  obtain rfl := h.seule e he hop
  have hsalaire₂ : h.apresRegles.SalairePour owner := by
    refine (Store.salairePour_congr h.category_eq).2 ?_
    rw [h.recalcul]
    exact hsalaire
  intro tx htx hde hnon
  obtain ⟨hclasser, hcrediter⟩ := Bool.and_eq_true_iff.1 hnon
  have hsource : tx.categorizationSource = .none := by
    simpa using (Bool.and_eq_true_iff.1 hcrediter).1
  constructor
  case debit =>
    obtain ⟨m, hm, hneg⟩ :=
      h.defaut.reste (h.parLots.listable hlistable) hsalaire₂ htx hde hcrediter
    exact ⟨m, toOption_eq_some.1 hm, hneg⟩
  case libelle =>
    intro regle hregle howner
    obtain ⟨hlisible, hvise⟩ := h.reste hlistable htx hde hclasser regle
      (List.mem_filter.2 ⟨hregle, by simpa using howner⟩)
    obtain ⟨label, hlabel⟩ := Option.isSome_iff_exists.1 hlisible
    have hnon := hvise hsource
    rw [RegleCategorisation.vise, hlabel, Option.any_some] at hnon
    exact ⟨label, toOption_eq_some.1 hlabel, hnon⟩

end Main

/-- A transaction of the first of two accounts. -/
def operationBancaire (externe label : String) (montant : ℤ) : Operation :=
  .enregistrer (observationDe (Uuid.fromU128 1013) externe label montant 20000)

/-- A rent that its rule missed, the rules being unreadable when it was stored, a withdrawal that
no rule matches and a pay. -/
def troisAClasser : Store :=
  { Scenario.deuxComptes with panne := fun n => if n = 26 then some "indisponible" else none }.fin
    [.createConsent "alice" "banque", .completeConsent "alice" reponseBanque,
      .createRule "alice" ⟨"Loyer", Uuid.fromU128 2, none⟩,
      operationBancaire "T1" "Loyer" (-70000),
      operationBancaire "T2" "Retrait" (-5000),
      operationBancaire "T3" "Paie" 200000]

/-- Its reconciliation. -/
def reconciliationDesTrois : Outcome (machine Scenario.collation) (Except ApiError ℕ) :=
  run _ Scenario.calme.choix (Handlers.recategoriserCredits enClair "alice").run 0 troisAClasser

/-- The rent and the pay are classified, the withdrawal is left. -/
theorem reconciliation_complete_troisAClasser :
    troisAClasser.bankTransaction.rows.countP BankTransactionRow.nonCategorisee = 3 ∧
      reconciliationDesTrois.state.bankTransaction.rows.countP
        BankTransactionRow.nonCategorisee = 1 ∧
      reconciliationDesTrois.state.Complet enClair "alice" := by
  -- one evaluation of the reconciliation gives them all
  obtain ⟨htrois, hune, hvalue, hsalaire, hlength⟩ :
      troisAClasser.bankTransaction.rows.countP BankTransactionRow.nonCategorisee = 3 ∧
        reconciliationDesTrois.state.bankTransaction.rows.countP
          BankTransactionRow.nonCategorisee = 1 ∧
        reconciliationDesTrois.value = .ok 2 ∧
        (∃ c ∈ troisAClasser.category.rows, c.name = "Salaire" ∧ c.kind = .revenu ∧
          (c.ownerId.getD "" = "alice" ∨ c.ownerId.getD "" = "")) ∧
        troisAClasser.bankTransaction.rows.length ≤ limiteRetroactif := by
    decide +kernel
  refine ⟨htrois, hune, ?_⟩
  have hrun := runs_run (M := machine Scenario.collation) Scenario.calme.choix
    (Handlers.recategoriserCredits enClair "alice").run 0 troisAClasser
  rw [← reconciliationDesTrois, hvalue] at hrun
  obtain ⟨h⟩ := spec_recategoriserCredits hrun
  refine reconciliation_complete hrun hsalaire h.listee rfl ?_
  have hrows : h.apresRecalcul.bankTransaction.rows.length ≤ limiteRetroactif := by
    rwa [h.recalcul, Store.length_recalcule]
  exact List.countP_le_length.trans hrows

/-! ## A ledger longer than a listing -/

/-- The database answers. -/
def Evenement.SansPanne {col : Collation} : Evenement col → Prop
  | ⟨_, .sql _, x⟩ => x.panne = none
  | _ => True

/-- A statement that takes effect on every database. -/
def Op.Totale : Op → Prop
  | .sql r => ∀ col x s, ∃ p, r.effet col x s = .ok p
  | _ => False

section Answers

open Prog

variable {col : Collation} {crypto : CryptoService} {owner : ProprietaireId} {s : Store}

/-- A statement that meets no failure does what its effect says. -/
private theorem executer_sansPanne {r : Requete} {x : ChoixSql} {v : r.Reponse} {s' : Store}
    (hx : x.panne = none) (heffet : r.effet col x s = .ok (v, s')) :
    r.executer col x s = (.ok v, s') := by
  simp [Requete.executer, hx, heffet]

/-- A statement whose effect always succeeds returns it, as long as no failure occurs. -/
private theorem under_interroger {r : Requete} {Q : r.Reponse → Store → Prop}
    (h : ∀ x, ∃ v s', r.effet col x s = .ok (v, s') ∧ Q v s') :
    Under (machine col) Evenement.SansPanne (interroger r).run s (Returns Q) := by
  refine under_perform.2 fun x hx => ?_
  obtain ⟨v, s', heffet, hQ⟩ := h x
  show Returns Q (r.executer col x s).1 (r.executer col x s).2
  rw [executer_sansPanne hx heffet]
  exact hQ

/-- A statement that cannot refuse succeeds when no failure occurs. -/
private theorem reussi_of_totale {e : Evenement col} (hop : e.op.Totale) (he : e.SansPanne) :
    Evenement.Reussi e := by
  obtain ⟨s, o, x⟩ := e
  cases o with
  | sql r =>
      obtain ⟨⟨v, s'⟩, heffet⟩ := hop col x s
      show (r.executer col x s).1.isOk = true
      rw [executer_sansPanne he heffet]
      rfl
  | banque | publier | nonce | uuidV4 | maintenant => exact hop.elim

/-- A recalculation answers when the movements decrypt. -/
private theorem under_recalculer (h : s.MouvementsLisibles crypto owner) :
    Under (machine col) Evenement.SansPanne
      (BankTransactions.recalculerTransfertsInternes crypto owner).run s
      (Returns fun _ s' => ∃ mouvements, (s.mouvements crypto owner).Perm mouvements ∧
        s' = s.recalcule owner (detecterTransfertsInternes mouvements)) := by
  have huses : (BankTransactions.recalculerTransfertsInternes crypto owner).run.Uses Op.Totale := by
    refine Uses.run_bind ?_ fun mouvements => Uses.run_bind ?_ fun _ => ?_
    · refine Uses.run_bind (uses_interrogerChiffre fun _ _ _ => ⟨_, rfl⟩) fun rows => ?_
      exact Uses.run_bind uses_ofExcept fun _ => uses_pure _
    · exact Uses.run_bind (uses_interrogerChiffre fun _ _ _ => ⟨_, rfl⟩) fun _ => uses_pure _
    · unfold BankTransactions.marquerTransfertsInternes
      split
      · exact uses_pure _
      · exact uses_interrogerChiffre fun _ _ _ => ⟨_, rfl⟩
  refine Under.of_uses huses (fun e => reussi_of_totale) ?_
  rintro t (e | n) s' hrun hreussi
  · rcases spec_recalculer hrun with hillisible | ⟨e, he, hechec⟩
    · exact hillisible h
    · exact hechec (hreussi e he)
  · exact (spec_recalculer hrun).2

/-- The default category is given when it exists and the credits decrypt. -/
private theorem under_parDefaut (hsalaire : s.SalairePour owner)
    (hlisibles : s.Lisibles owner BankTransactionRow.aCrediter
      (BankTransactionRow.montantClair crypto owner)) :
    Under (machine col) Evenement.SansPanne
      (BankTransactionsAdapter.recategoriserCredits crypto owner).run s (Returns fun _ _ => True) := by
  refine Under.ret_bind (R := fun category s' => s' = s ∧
    ∃ c ∈ s.category, category = some c.id) (Under.ret_mapError (Under.ret_mapError
      (under_interroger fun x => ⟨_, s, rfl, rfl, ?_⟩))) ?_
  · obtain ⟨c, hc⟩ := hsalaire
    have hmem : c ∈ RequeteTransaction.categoriesSalaire x s owner := mem_categoriesSalaire.2 hc
    obtain ⟨c', l, hl⟩ := List.exists_cons_of_ne_nil (List.ne_nil_of_mem hmem)
    have hc' : c' ∈ RequeteTransaction.categoriesSalaire x s owner := by simp [hl]
    exact ⟨c', (mem_categoriesSalaire.1 hc').1, by rw [hl]; rfl⟩
  rintro _ s ⟨rfl, c, hc, rfl⟩
  refine Under.ret_bind (R := fun _ s' => s' = s) (Under.ret_mapError (Under.ret_bind
    (R := fun rows s' => s' = s ∧ ∃ vus, s.Liste owner BankTransactionRow.aCrediter vus ∧
      rows = vus.map fun u => (u.id, u.amountCents)) (Under.ret_mapError
        (under_interroger fun x => ⟨_, s, rfl, rfl, _, Store.liste_take, rfl⟩)) ?_)) ?_
  · rintro rows s ⟨rfl, vus, hliste, rfl⟩
    show Under (machine col) _ (Task.ofExcept (dechiffrerTous vus BankTransactionRow.amountCents
      (dechiffrerMontant crypto owner "bank_transaction" "amount_cents")) >>= _).run _ _
    cases hclairs : dechiffrerTous vus BankTransactionRow.amountCents
        (dechiffrerMontant crypto owner "bank_transaction" "amount_cents") with
    | error e =>
        obtain ⟨u, hu, hnone⟩ := illisible_of_error hclairs
        obtain ⟨hmem, howner, hcandidat⟩ := hliste.candidats u hu
        exact absurd (hlisibles u hmem howner hcandidat)
          (by simp [BankTransactionRow.montantClair, hnone])
    | ok montants => exact under_pure.2 rfl
  rintro credits s rfl
  refine Under.ret_mapError ?_
  unfold BankTransactions.appliquerCategorieDefautParLot
  split_ifs with hvide
  · exact under_pure.2 trivial
  · refine Under.ret_mapError (under_interroger fun x => ?_)
    have hexiste : s.category.any (fun c' => c'.id = c.id) = true :=
      Table.any_eq_true.2 ⟨c, hc, by simp⟩
    exact ⟨_, _, exiger_eq_ok.2 ⟨by simp [hexiste], rfl⟩, trivial⟩

end Answers

/-- The nonce made of zeros has the right length. -/
theorem length_nonceNul : (List.replicate nonceBytes (0 : UInt8)).length = nonceBytes := rfl

/-- A text encrypted for its owner. -/
def chiffreAlice (champ texte : String) : List UInt8 :=
  ((chiffrerTexte enClair ⟨List.replicate nonceBytes 0, length_nonceNul⟩ "alice" "bank_transaction" champ
    texte).toOption).getD []

/-- A credit of ten euros without date. -/
def creditSansDate (n : ℕ) : BankTransactionRow :=
  { id := Uuid.fromU128 n
    bankAccountId := Uuid.fromU128 1013
    externalTransactionId := chiffreAlice "external_transaction_id" (Text.decimal n)
    dedupKey := Text.decimal n
    status := .booked
    label := chiffreAlice "label" "Prime"
    amountCents := chiffreAlice "amount_cents" "1000"
    currency := "EUR"
    bookingDate := none
    valueDate := none
    categoryId := none
    enveloppeId := none
    categorizationSource := .none
    ruleId := none
    isRecurrent := false
    recurrenceInterval := none
    isInternalTransfer := false
    createdAt := 0 }

/-- The credits of the scenario have distinct identifiers. -/
private theorem nodup_credits {n : ℕ} (hn : n < 2 ^ 128) :
    (((List.range n).map creditSansDate).map BankTransactionRow.id).Nodup := by
  rw [List.map_map]
  refine List.Nodup.map_on ?_ List.nodup_range
  intro i hi j hj heq
  rw [List.mem_range] at hi hj
  have hval : i % 2 ^ 128 = j % 2 ^ 128 := congrArg (fun u : Uuid => u.asU128.val) heq
  rwa [Nat.mod_eq_of_lt (hi.trans hn), Nat.mod_eq_of_lt (hj.trans hn)] at hval

/-- The accounts of an owner, with `n` credits to classify. -/
def livreDeCredits (n : ℕ) (hn : n < 2 ^ 128) : Store :=
  { avecDeuxComptes with bankTransaction := ⟨(List.range n).map creditSansDate, nodup_credits hn⟩ }

section Ledger

variable {n : ℕ} {hn : n < 2 ^ 128}

/-- The owner of the scenario has a salary category. -/
private theorem salaire_livre : (livreDeCredits n hn).SalairePour "alice" := by
  have h : ∃ c ∈ avecDeuxComptes.category.rows, c.name = "Salaire" ∧ c.kind = .revenu ∧
      (c.ownerId.getD "" = "alice" ∨ c.ownerId.getD "" = "") := by
    decide +kernel
  exact h

/-- The transactions of the scenario are its credits. -/
private theorem mem_livre {t : BankTransactionRow} :
    t ∈ (livreDeCredits n hn).bankTransaction ↔ ∃ i < n, creditSansDate i = t := by
  show t ∈ (List.range n).map creditSansDate ↔ _
  simp

/-- They all belong to the owner of the scenario. -/
private theorem txDe_credit (i : ℕ) :
    (livreDeCredits n hn).txDe "alice" (creditSansDate i) = true := by
  have h : avecDeuxComptes.proprietaireDuCompte (Uuid.fromU128 1013) = some "alice" := by
    decide +kernel
  exact decide_eq_true h

/-- They are all of ten euros. -/
private theorem montantClair_credit (i : ℕ) :
    (creditSansDate i).montantClair enClair "alice" = some 1000 := by
  have h : (dechiffrerMontant enClair "alice" "bank_transaction" "amount_cents"
      (chiffreAlice "amount_cents" "1000")).toOption = some 1000 := by
    decide +kernel
  exact h

/-- They have no date, so the recalculation considers none of them. -/
private theorem mouvements_livre : (livreDeCredits n hn).mouvements enClair "alice" = [] := by
  refine List.filterMap_eq_nil_iff.2 fun t ht => ?_
  obtain ⟨i, -, rfl⟩ := mem_livre.1 (Table.mem_select.1 ht).1
  rfl

/-- No movement of the scenario is unreadable, as there is none. -/
private theorem lisibles_livre : (livreDeCredits n hn).MouvementsLisibles enClair "alice" := by
  intro t ht _
  obtain ⟨i, -, rfl⟩ := mem_livre.1 ht
  rfl

/-- Nothing is paired, and nothing was flagged. -/
private theorem recalcule_livre {mouvements : List MouvementCandidat}
    (h : ((livreDeCredits n hn).mouvements enClair "alice").Perm mouvements) :
    (livreDeCredits n hn).recalcule "alice" (detecterTransfertsInternes mouvements) =
      livreDeCredits n hn := by
  rw [mouvements_livre] at h
  obtain rfl := h.nil_eq
  have hvide : detecterTransfertsInternes [] = [] := by decide +kernel
  rw [hvide]
  refine Store.ext rfl rfl rfl ?_ rfl rfl rfl rfl rfl
  refine @Table.update_eq_self _ _ _ (livreDeCredits n hn).bankTransaction _ _
    (BankTransactionRow.id_recalculee []) fun t ht _ => ?_
  obtain ⟨i, -, rfl⟩ := mem_livre.1 ht
  rfl

/-- The owner of the scenario has no rule. -/
private theorem reglesDe_livre : (livreDeCredits n hn).reglesDe "alice" = [] := by
  have h : avecDeuxComptes.reglesCategorisation.rows = [] := by decide +kernel
  have hrows : (livreDeCredits n hn).reglesCategorisation.rows = [] := h
  rw [Store.reglesDe, Table.select, hrows]
  rfl

/-- The reconciliation of such a ledger answers. -/
private theorem under_livre :
    Under (machine Scenario.collation) Evenement.SansPanne
      (Handlers.recategoriserCredits enClair "alice").run (livreDeCredits n hn)
      (Returns fun _ _ => True) := by
  refine Under.ret_bind (R := fun _ s' => s' = livreDeCredits n hn) (Under.ret_mapError
    (Under.ret_mapError ((under_recalculer lisibles_livre).ret_mono ?_))) ?_
  · rintro _ s' ⟨mouvements, hperm, rfl⟩
    exact recalcule_livre hperm
  rintro _ s rfl
  refine Under.ret_bind (R := fun regles s' => s' = livreDeCredits n hn ∧ regles = [])
    (Under.ret_mapError (Under.ret_mapError (under_interroger fun x => ⟨_, _, rfl, rfl, ?_⟩))) ?_
  · have hperm := (perm_sortBy (fun r : RegleCategorisation => toLex (-r.priority, -r.createdAt))
      (arrange RegleCategorisation.id x.rang ((livreDeCredits n hn).reglesDe "alice"))).trans
        (perm_arrange _ _ _)
    rw [reglesDe_livre] at hperm
    exact hperm.eq_nil
  rintro _ s ⟨rfl, rfl⟩
  refine Under.ret_bind (R := fun _ s' => s' = livreDeCredits n hn) (under_pure.2 rfl) ?_
  rintro _ s rfl
  refine Under.ret_bind (Under.ret_mapError (under_parDefaut salaire_livre ?_)) fun _ _ _ =>
    under_pure.2 trivial
  intro t ht _ _
  obtain ⟨i, -, rfl⟩ := mem_livre.1 ht
  rw [montantClair_credit]
  rfl

/-- Whatever the order of the database, some credit is left out of the listing. -/
private theorem not_complet_livre {s' : Store} {t : List (Evenement Scenario.collation)} {m : ℕ}
    (hlong : limiteRetroactif < n)
    (hrun : Runs (machine Scenario.collation) (Handlers.recategoriserCredits enClair "alice").run
      (livreDeCredits n hn) t (.ok m) s') : ¬ s'.Complet enClair "alice" := by
  obtain ⟨h⟩ := spec_recategoriserCredits hrun
  have hrecalcul : h.apresRecalcul = livreDeCredits n hn :=
    h.recalcul.trans (recalcule_livre h.perm)
  have hregles : h.regles = [] := by
    have hperm := perm_of_listeRegles h.liste
    rw [hrecalcul, reglesDe_livre] at hperm
    exact hperm.nil_eq.symm
  have hlots : h.lots = [] := List.map_eq_nil_iff.1 (h.chaque.trans hregles)
  have hdefaut := h.defaut
  rw [h.parLots.eq_of_nil hlots, hrecalcul] at hdefaut
  generalize h.parDefaut = m₂ at hdefaut
  cases hdefaut with
  | sansSalaire habsent => exact absurd salaire_livre habsent
  | @credits _ category vus _ _ _ lot =>
      obtain ⟨i, hi, hcachee⟩ : ∃ i < n, creditSansDate i ∉ vus := by
        by_contra hall
        push Not at hall
        have hsub : (List.range n).map creditSansDate ⊆ vus := by
          intro t ht
          obtain ⟨i, hi, rfl⟩ := List.mem_map.1 ht
          exact hall i (List.mem_range.1 hi)
        have hlength := ((List.Nodup.of_map _ (nodup_credits hn)).subperm hsub).length_le
        rw [List.length_map, List.length_range] at hlength
        have hcoupee := lot.liste.coupee
        omega
      have hreste : creditSansDate i ∈ s'.bankTransaction := by
        refine lot.mem.2 ⟨_, mem_livre.2 ⟨i, hi, rfl⟩, ?_⟩
        rw [if_neg fun htouchee => hcachee (BankTransactionRow.touchee_eq_true.1 htouchee).1]
      intro hcomplet
      obtain ⟨m, hm, hneg⟩ :=
        (hcomplet _ hreste (by rw [lot.txDe_eq]; exact txDe_credit i) rfl).debit
      have hmille := montantClair_credit i
      rw [BankTransactionRow.montantClair, toOption_eq_some.2 hm] at hmille
      obtain rfl := Option.some.inj hmille
      exact absurd hneg (by decide)

end Ledger

/-- A reconciliation of one credit more than a listing shows answers, and leaves a credit
unclassified whatever the order of the database. -/
theorem not_complet_grandLivre :
    (livreDeCredits (limiteRetroactif + 1) (by decide)).SalairePour "alice" ∧
      (∃ t n s', Runs (machine Scenario.collation) (Handlers.recategoriserCredits enClair "alice").run
        (livreDeCredits (limiteRetroactif + 1) (by decide)) t (.ok n) s') ∧
      ∀ (t : List (Evenement Scenario.collation)) (n : ℕ) (s' : Store),
        Runs (machine Scenario.collation) (Handlers.recategoriserCredits enClair "alice").run
          (livreDeCredits (limiteRetroactif + 1) (by decide)) t (.ok n) s' →
        ¬ s'.Complet enClair "alice" := by
  refine ⟨salaire_livre, ?_, fun t n s' hrun => not_complet_livre (Nat.lt_succ_self _) hrun⟩
  obtain ⟨t, r, s', hrun, hpannes⟩ := exists_runs_under (M := machine Scenario.collation)
    (E := Evenement.SansPanne) (fun s o => ⟨Scenario.calme.choix 0 o, by cases o <;> trivial⟩)
    (Handlers.recategoriserCredits enClair "alice").run
    (livreDeCredits (limiteRetroactif + 1) (by decide))
  have hreponse := under_livre hrun hpannes
  cases r with
  | error e => exact hreponse.elim
  | ok n => exact ⟨t, n, s', hrun⟩

end Budgy
