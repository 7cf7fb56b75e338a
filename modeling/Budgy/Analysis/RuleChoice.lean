import Budgy.Analysis.Reconciliation

/-!
# The rule a batch assigns

A transaction that is inserted receives the rule that `selectionner_regle` chooses, by
priority, then date of creation, then identifier.  A reconciliation runs the batches of
the rules one after the other, in the order of the database: a transaction receives the
rule of the first batch that lists it and matches its label.  `regleAttribuee_iff` says
when the two rules are the same.
-/

set_option autoImplicit false

namespace Budgy

open Effects Relational

/-- The rule that classified a transaction, if any. -/
def Store.regleAttribuee (s : Store) (id : TransactionBancaireId) : Option RegleCategorisationId :=
  (s.bankTransaction.find? id).bind BankTransactionRow.ruleId

/-- The rule attributed to a transaction of the store is the one of its row. -/
theorem Store.regleAttribuee_of_mem {s : Store} {t : BankTransactionRow}
    (ht : t ∈ s.bankTransaction) : s.regleAttribuee t.id = t.ruleId := by
  rw [regleAttribuee, Table.find?_key ht, Option.bind_some]

/-- A transaction of the owner that waits for a rule, and its label. -/
structure Store.EnAttente (crypto : CryptoService) (owner : ProprietaireId) (s : Store)
    (t : BankTransactionRow) (label : String) : Prop where
  mem : t ∈ s.bankTransaction
  sienne : s.txDe owner t = true
  classement : t.classement = (none, none, .none)
  externe : t.isInternalTransfer = false
  libelle : dechiffrerTexte crypto owner "bank_transaction" "label" t.label = .ok label

/-- The batch of the chosen rule shows the transaction, and before it no batch of a rule
that matches the label does.  A batch is a rule with the transactions it is shown. -/
def LotFidele (label : String) (lots : List (RegleCategorisation × List TransactionBancaireId))
    (choisie : Option RegleCategorisation) (id : TransactionBancaireId) : Prop :=
  ∀ regle ∈ choisie, ∃ avant vus apres, lots = avant ++ (regle, vus) :: apres ∧ id ∈ vus ∧
    ∀ lot ∈ avant, lot.1.correspond label = true → id ∉ lot.2

/-! ## The batch that classifies a transaction -/

/-- The batch shows the transaction, and its rule matches the label. -/
def retient (label : String) (id : TransactionBancaireId)
    (lot : RegleCategorisation × List TransactionBancaireId) : Bool :=
  lot.1.correspond label && lot.2.contains id

section Tracking

variable {crypto : CryptoService} {owner : ProprietaireId} {s s' : Store} {n : ℕ}
  {lots : List (RegleCategorisation × List BankTransactionRow)} {t : BankTransactionRow}
  {label : String}

/-- What the batches show, by identifiers. -/
def lotsMontres (lots : List (RegleCategorisation × List BankTransactionRow)) :
    List (RegleCategorisation × List TransactionBancaireId) :=
  lots.map fun lot => (lot.1, lot.2.map BankTransactionRow.id)

/-- A batch classifies a transaction that waits when it retains it. -/
private theorem touchee_iff {regle : RegleCategorisation} {vus : List BankTransactionRow}
    (ht : s.EnAttente crypto owner t label)
    (hlot : s.Lot owner BankTransactionRow.aClasser (regle.vise crypto owner) regle.categoryId
      (some regle.id) vus n s') :
    t.touchee vus (regle.vise crypto owner) =
      retient label t.id (regle, vus.map BankTransactionRow.id) := by
  have hsource : t.categorizationSource = .none := congrArg (fun c => c.2.2) ht.classement
  have hvise : regle.vise crypto owner t = regle.correspond label := by
    simp [RegleCategorisation.vise, BankTransactionRow.libelleClair, ht.libelle, Except.toOption]
  rw [Bool.eq_iff_iff, BankTransactionRow.touchee_eq_true, retient, Bool.and_eq_true,
    List.contains_iff_mem, hlot.mem_vus ht.mem, hvise]
  simp only [hsource, and_true]
  exact and_comm

/-- What the batches leave of a transaction that waits. -/
private theorem suivi (ht : s.EnAttente crypto owner t label)
    (h : Store.Lots crypto owner lots n s s') :
    match (lotsMontres lots).find? (retient label t.id) with
    | none => s'.EnAttente crypto owner t label
    | some lot => t.classee lot.1.categoryId (some lot.1.id) ∈ s'.bankTransaction := by
  induction h with
  | aucun s => exact ht
  | @suite lots n m s s₁ s₂ regle vus avant lisibles lot ih =>
      have hpast := ih ht
      rw [lotsMontres, List.map_append, List.find?_append, ← lotsMontres]
      cases hfind : (lotsMontres lots).find? (retient label t.id) with
      | some lot' =>
          -- what is classified is left as it is
          rw [hfind] at hpast
          refine lot.mem.2 ⟨_, hpast, ?_⟩
          simp [BankTransactionRow.touchee, BankTransactionRow.classee]
      | none =>
          rw [hfind] at hpast
          have htouchee := touchee_iff hpast lot
          cases hretenu : retient label t.id (regle, vus.map BankTransactionRow.id) with
          | true =>
              simp only [List.map_cons, List.map_nil, List.find?_cons, hretenu, Option.none_or]
              refine lot.mem.2 ⟨t, hpast.mem, ?_⟩
              rw [if_pos (htouchee.trans hretenu)]
          | false =>
              simp only [List.map_cons, List.map_nil, List.find?_cons, hretenu, Option.none_or,
                List.find?_nil]
              have hreste : t ∈ s₂.bankTransaction :=
                lot.mem.2 ⟨t, hpast.mem, by rw [htouchee, hretenu, if_neg Bool.false_ne_true]⟩
              exact ⟨hreste, lot.txDe_eq owner ▸ hpast.sienne, hpast.classement, hpast.externe,
                hpast.libelle⟩

/-- As long as the candidates fit in a listing, every batch shows the transactions that wait. -/
private theorem montree (ht : s.EnAttente crypto owner t label)
    (hcount : (s.bankTransaction.count fun t => s.txDe owner t && t.aClasser) ≤ limiteRetroactif)
    (h : Store.Lots crypto owner lots n s s') :
    (s'.bankTransaction.count fun t => s'.txDe owner t && t.aClasser) ≤ limiteRetroactif ∧
      ∀ avant lot apres, lotsMontres lots = avant ++ lot :: apres →
        (∀ lot' ∈ avant, retient label t.id lot' = false) → t.id ∈ lot.2 := by
  induction h with
  | aucun s => exact ⟨hcount, fun avant lot apres hlots => absurd hlots (by simp [lotsMontres])⟩
  | @suite lots n m s s₁ s₂ regle vus avant lisibles hlot ih =>
      obtain ⟨hcount₁, hpast⟩ := ih ht hcount
      refine ⟨(hlot.count_le fun t => t.aClasser_classee _ _).trans hcount₁, fun avant' lot apres hlots hnon => ?_⟩
      have hsplit : lotsMontres lots ++ [(regle, vus.map BankTransactionRow.id)] =
          avant' ++ lot :: apres := by
        rw [← hlots]
        simp [lotsMontres]
      rcases List.eq_nil_or_concat apres with rfl | ⟨apres', dernier, rfl⟩
      · -- the last batch: the transaction still waits
        obtain ⟨rfl, hlast⟩ := List.append_inj' hsplit rfl
        obtain rfl := (List.cons.inj hlast).1
        have hsuivi := suivi ht avant
        rw [List.find?_eq_none.2 fun lot' hlot' => by simp [hnon lot' hlot']] at hsuivi
        refine List.mem_map_of_mem (hlot.liste.entiere hcount₁ t hsuivi.mem hsuivi.sienne ?_)
        have hcategorie : t.categoryId = none := congrArg Prod.fst ht.classement
        simp [BankTransactionRow.aClasser, hcategorie, ht.externe]
      · rw [List.concat_eq_append, ← List.cons_append, ← List.append_assoc] at hsplit
        exact hpast avant' lot apres' (List.append_inj' hsplit rfl).1 hnon

/-- The default category assigns no rule, and leaves what a rule classified. -/
private theorem regle_defaut (h : s.Defaut crypto owner n s') (ht : t ∈ s.bankTransaction)
    (hregle : t.categorizationSource = .none → t.ruleId = none) :
    s'.regleAttribuee t.id = t.ruleId := by
  cases h with
  | sansSalaire => exact Store.regleAttribuee_of_mem ht
  | @credits _ category vus _ _ _ lot =>
      have himage := lot.mem.2 ⟨t, ht, rfl⟩
      split_ifs at himage with htouchee
      · have hnone := hregle (BankTransactionRow.touchee_eq_true.1 htouchee).2.2
        exact (Store.regleAttribuee_of_mem himage).trans hnone.symm
      · exact Store.regleAttribuee_of_mem himage

/-- The rule that a reconciliation assigns: that of the first batch that retains the
transaction. -/
private theorem regleAttribuee_eq {col : Collation} {trace : List (Evenement col)}
    (h : Reconciliation crypto owner s trace n s')
    (ht : h.apresRecalcul.EnAttente crypto owner t label) :
    s'.regleAttribuee t.id = ((lotsMontres h.lots).find? (retient label t.id)).map
      fun lot => lot.1.id := by
  have hsuivi := suivi ht h.parLots
  cases hfind : (lotsMontres h.lots).find? (retient label t.id) with
  | none =>
      rw [hfind] at hsuivi
      have hregle : t.ruleId = none := congrArg (fun c => c.2.1) ht.classement
      exact (regle_defaut h.defaut hsuivi.mem fun _ => hregle).trans hregle
  | some lot =>
      rw [hfind] at hsuivi
      exact regle_defaut h.defaut hsuivi nofun

end Tracking

/-! ## The first batch and the chosen rule -/

section Choice

variable {label : String} {id : TransactionBancaireId} {regles : List RegleCategorisation}
  {lots : List (RegleCategorisation × List TransactionBancaireId)}

/-- The first batch that retains the transaction is that of the chosen rule when the batches
are faithful, and only then. -/
private theorem premier_iff (hregles : lots.map Prod.fst = regles)
    (hnodup : (regles.map RegleCategorisation.id).Nodup) :
    (lots.find? (retient label id)).map (fun lot => lot.1.id) =
        (selectionnerRegle label regles).map RegleCategorisation.id ↔
      LotFidele label lots (selectionnerRegle label regles) id := by
  have hmem : ∀ lot ∈ lots, lot.1 ∈ regles := fun lot hlot =>
    hregles ▸ List.mem_map_of_mem hlot
  cases hchoisie : selectionnerRegle label regles with
  | none =>
      have hnone : lots.find? (retient label id) = none := by
        refine List.find?_eq_none.2 fun lot hlot hretient => ?_
        have hcorrespond : lot.1.correspond label = true := (Bool.and_eq_true_iff.1 hretient).1
        obtain ⟨regle, hregle, -⟩ := selectionnerRegle_max (hmem lot hlot) hcorrespond
        exact nomatch hchoisie.symm.trans hregle
      rw [hnone]
      exact ⟨fun _ _ h => (nomatch h), fun _ => rfl⟩
  | some regle =>
      obtain ⟨hregle, hcorrespond⟩ := selectionnerRegle_mem hchoisie
      constructor
      · intro heq regle' hregle'
        obtain rfl := Option.some.inj hregle'
        obtain ⟨lot, hfind, hid⟩ := Option.map_eq_some_iff.1 heq
        obtain ⟨hretient, avant, apres, hlots, havant⟩ := List.find?_eq_some_iff_append.1 hfind
        have hlot : lot.1 = regle := by
          refine List.inj_on_of_nodup_map hnodup (hmem lot ?_) hregle hid
          exact List.mem_of_find?_eq_some hfind
        refine ⟨avant, lot.2, apres, by rw [hlots, ← hlot], ?_, ?_⟩
        · exact List.contains_iff_mem.1 (Bool.and_eq_true_iff.1 hretient).2
        · intro lot' hlot' hcorrespond' hid'
          have hsaute := havant lot' hlot'
          simp [retient, hcorrespond', hid'] at hsaute
      · intro hfidele
        obtain ⟨avant, vus, apres, hlots, hid, havant⟩ := hfidele regle rfl
        have hfind : lots.find? (retient label id) = some (regle, vus) := by
          refine List.find?_eq_some_iff_append.2 ⟨?_, avant, apres, hlots, ?_⟩
          · simp [retient, hcorrespond, hid]
          · intro lot hlot
            cases hc : lot.1.correspond label with
            | false => simp [retient, hc]
            | true => simp [retient, havant lot hlot hc]
        rw [hfind]
        rfl

end Choice

/-! ## The rule of an insertion -/

section Insertion

variable {col : Collation} {crypto : CryptoService} {owner : ProprietaireId} {s s' : Store}
  {t : BankTransactionRow} {label : String}

/-- The rules are listed by decreasing priority, then from the latest to the oldest. -/
private theorem pairwise_listeRegles {x : ChoixSql} {regles : List RegleCategorisation}
    (h : ((listeRegles owner).executer col x s).1 = .ok regles) :
    regles.Pairwise fun r r' =>
      toLex (-r.priority, -r.createdAt) ≤ toLex (-r'.priority, -r'.createdAt) := by
  obtain ⟨rfl, -⟩ := lire_eq_ok.1 (Requete.effet_of_executer h)
  exact pairwise_sortBy _ _

/-- A transaction that is inserted receives the chosen rule. -/
private theorem spec_inseree (ht : s.EnAttente crypto owner t label) :
    Spec (machine col) (BankTransactionsAdapter.categoriserTransactionInseree t.bankAccountId t.id
      label).run s fun _ => Ends (fun _ s' => s'.regleAttribuee t.id =
        (selectionnerRegle label (s.reglesDe owner)).map RegleCategorisation.id) True := by
  refine spec_ends_bind (R := fun _ owner' s' => s' = s ∧ owner' = owner)
    (spec_ends_mapError (spec_ends_of (spec_ends_interrogerChiffre ?_) fun _ _ => trivial)) ?_
  · intro x owner' s' heffet _
    have hcompte : s.proprietaireDuCompte t.bankAccountId = some owner := by
      simpa [Store.txDe] using ht.sienne
    simp only [Requete.effet, RequeteCompte.effet, hcompte] at heffet
    obtain ⟨rfl, rfl⟩ := lire_eq_ok.1 heffet
    exact ⟨rfl, rfl⟩
  rintro t₁ owner s ⟨rfl, rfl⟩
  refine spec_ends_bind (R := fun _ regles s' => s' = s ∧ (s.reglesDe owner).Perm regles)
    (spec_ends_mapError (spec_ends_mapError (spec_ends_of (spec_ends_interroger ?_)
      fun _ _ => trivial))) ?_
  · intro x regles s' heffet hreply
    obtain ⟨-, rfl⟩ := lire_eq_ok.1 heffet
    exact ⟨rfl, perm_of_listeRegles hreply⟩
  rintro t₂ regles s ⟨rfl, hperm⟩
  rw [selectionnerRegle_perm Store.nodup_reglesDe hperm]
  have hsource : t.categorizationSource = .none := congrArg (fun c => c.2.2) ht.classement
  cases hchoisie : selectionnerRegle label regles with
  | none =>
      refine spec_run_pure.2 ((Store.regleAttribuee_of_mem ht.mem).trans ?_)
      exact congrArg (fun c => c.2.1) ht.classement
  | some regle =>
      refine spec_ends_mapError (spec_ends_bind (R := fun _ _ s' =>
        s'.regleAttribuee t.id = some regle.id) (spec_ends_of (spec_ends_interrogerChiffre ?_)
          fun _ _ => trivial) ?_)
      · intro x n s' heffet _
        simp only [Requete.effet, RequeteTransaction.effet, RequeteTransaction.exigerCategorie,
          RequeteTransaction.majDe, exiger_eq_ok, Except.ok.injEq, Prod.mk.injEq] at heffet
        obtain ⟨-, -, rfl⟩ := heffet
        refine Store.regleAttribuee_of_mem (t := t.classee regle.categoryId (some regle.id))
          (Store.mem_majTransaction.2 ⟨t, ht.mem, ?_⟩)
        rw [if_pos (by simp [ht.sienne, hsource])]
        rfl
      · intro t₃ _ s' hregle
        exact spec_run_pure.2 hregle

end Insertion

/-! ## The two rules -/

section Main

variable {col : Collation} {crypto : CryptoService} {owner : ProprietaireId} {s s' : Store}
  {t : List (Evenement col)} {n : ℕ}

/-- The reconciliation of a run, seen from the listing of the rules. -/
private theorem exists_reconciliation
    (hrun : Runs (machine col) (Handlers.recategoriserCredits crypto owner).run s t (.ok n) s')
    {e : Evenement col} (he : e ∈ t) {regles : List RegleCategorisation}
    (hliste : Event.entry e = ⟨.sql (listeRegles owner), .ok regles⟩) :
    ∃ h : Reconciliation crypto owner s t n s', e.before = h.apresRecalcul ∧
      ((listeRegles owner).executer col h.choix h.apresRecalcul).1 = .ok regles ∧
      (lotsMontres h.lots).map Prod.fst = regles ∧
      lotsMontres h.lots = regles.zip (listages t) := by
  obtain ⟨h⟩ := spec_recategoriserCredits hrun
  have hop : e.op = .sql (listeRegles owner) := congrArg Sigma.fst hliste
  obtain rfl := h.seule e he hop
  have hreponse : ((listeRegles owner).executer col h.choix h.apresRecalcul).1 = .ok regles :=
    eq_of_heq (Sigma.mk.inj hliste).2
  obtain rfl : h.regles = regles := Except.ok.inj (h.liste.symm.trans hreponse)
  refine ⟨h, rfl, h.liste, ?_, ?_⟩
  · rw [lotsMontres, List.map_map]
    exact h.chaque
  · rw [h.montrees, ← h.chaque, lotsMontres, List.zip_map']

/-- A transaction that waits when the rules are listed receives from the reconciliation the
rule it would have received on insertion if and only if the batch of that rule shows it, and
no batch of another rule that matches its label showed it before. -/
theorem regleAttribuee_iff
    (hrun : Runs (machine col) (Handlers.recategoriserCredits crypto owner).run s t (.ok n) s')
    {e : Evenement col} (he : e ∈ t) {regles : List RegleCategorisation}
    (hliste : Event.entry e = ⟨.sql (listeRegles owner), .ok regles⟩) {tx : BankTransactionRow}
    {label : String} (htx : e.before.EnAttente crypto owner tx label) :
    (s'.regleAttribuee tx.id = (selectionnerRegle label regles).map RegleCategorisation.id ↔
        LotFidele label (regles.zip (listages t)) (selectionnerRegle label regles) tx.id) ∧
      ∀ (t₁ : List (Evenement col)) (s₁ : Store),
        Runs (machine col) (BankTransactionsAdapter.categoriserTransactionInseree tx.bankAccountId
          tx.id label).run e.before t₁ (.ok ()) s₁ →
        s₁.regleAttribuee tx.id =
          (selectionnerRegle label regles).map RegleCategorisation.id := by
  obtain ⟨h, hbefore, hreponse, hregles, hlots⟩ := exists_reconciliation hrun he hliste
  have hperm := perm_of_listeRegles hreponse
  refine ⟨?_, fun t₁ s₁ hrun₁ => ?_⟩
  · rw [← hlots, regleAttribuee_eq h (hbefore ▸ htx)]
    exact premier_iff hregles ((hperm.map RegleCategorisation.id).nodup_iff.1 Store.nodup_reglesDe)
  · have hinseree := spec_inseree htx hrun₁
    rw [hbefore, selectionnerRegle_perm Store.nodup_reglesDe hperm] at hinseree
    exact hinseree

/-- No other rule that matches the label has the priority and the date of the chosen one. -/
def SansEgalite (label : String) (regles : List RegleCategorisation) : Prop :=
  ∀ choisie ∈ selectionnerRegle label regles, ∀ regle ∈ regles, regle.correspond label = true →
    regle.priority = choisie.priority → regle.createdAt = choisie.createdAt → regle = choisie

/-- Of two rules, the one listed first bears the higher rank unless the order of the listing
does not tell them apart. -/
private theorem egales_of_rang {r choisie : RegleCategorisation}
    (hordre : toLex (-r.priority, -r.createdAt) ≤ toLex (-choisie.priority, -choisie.createdAt))
    (hrang : r.rang ≤ choisie.rang) :
    r.priority = choisie.priority ∧ r.createdAt = choisie.createdAt := by
  rw [Prod.Lex.toLex_le_toLex] at hordre
  rw [RegleCategorisation.rang, RegleCategorisation.rang, Prod.Lex.toLex_le_toLex] at hrang
  have hpriority : r.priority = choisie.priority := by omega
  refine ⟨hpriority, ?_⟩
  have hcree : -r.createdAt ≤ -choisie.createdAt := by
    rcases hordre with h | h
    · omega
    · exact h.2
  have hcree' : toLex (r.createdAt, r.id) ≤ toLex (choisie.createdAt, choisie.id) := by
    rcases hrang with h | h
    · omega
    · exact h.2
  rw [Prod.Lex.toLex_le_toLex] at hcree'
  rcases hcree' with h | h
  · exact absurd h (not_lt.2 (neg_le_neg_iff.1 hcree))
  · exact h.1

/-- Without such a rule, and as long as the candidates fit in a listing, the batches are
faithful. -/
theorem lotFidele_of_sansEgalite
    (hrun : Runs (machine col) (Handlers.recategoriserCredits crypto owner).run s t (.ok n) s')
    {e : Evenement col} (he : e ∈ t) {regles : List RegleCategorisation}
    (hliste : Event.entry e = ⟨.sql (listeRegles owner), .ok regles⟩) {tx : BankTransactionRow}
    {label : String} (htx : e.before.EnAttente crypto owner tx label)
    (hcount : (e.before.bankTransaction.count fun t => e.before.txDe owner t && t.aClasser) ≤
      limiteRetroactif) (hegalite : SansEgalite label regles) :
    LotFidele label (regles.zip (listages t)) (selectionnerRegle label regles) tx.id := by
  obtain ⟨h, hbefore, hreponse, hregles, hlots⟩ := exists_reconciliation hrun he hliste
  have hperm := perm_of_listeRegles hreponse
  have hnodup : (regles.map RegleCategorisation.id).Nodup :=
    (hperm.map RegleCategorisation.id).nodup_iff.1 Store.nodup_reglesDe
  obtain ⟨-, hmontree⟩ := montree (hbefore ▸ htx) (hbefore ▸ hcount) h.parLots
  intro choisie hchoisie
  obtain ⟨hmem, -⟩ := selectionnerRegle_mem hchoisie
  obtain ⟨⟨regle, vus⟩, hlot, rfl⟩ := List.mem_map.1 (hregles ▸ hmem)
  obtain ⟨avant, apres, hsplit⟩ := List.append_of_mem hlot
  -- a rule that matches and comes first ties with the chosen one
  have hordre : ∀ lot ∈ avant, lot.1.correspond label = false := by
    intro lot hlot'
    by_contra hcorrespond
    rw [Bool.not_eq_false] at hcorrespond
    have hsuite : regles = avant.map Prod.fst ++ regle :: apres.map Prod.fst := by
      rw [← hregles, hsplit, List.map_append, List.map_cons]
    have hlotMem : lot.1 ∈ regles := by
      rw [hsuite]
      exact List.mem_append_left _ (List.mem_map_of_mem hlot')
    obtain ⟨choisie, hchoisie', hrang⟩ := selectionnerRegle_max hlotMem hcorrespond
    obtain rfl : regle = choisie := Option.some.inj (hchoisie.symm.trans hchoisie')
    have htri := pairwise_listeRegles hreponse
    rw [hsuite, List.pairwise_append] at htri
    obtain ⟨hpriority, hcree⟩ :=
      egales_of_rang (htri.2.2 lot.1 (List.mem_map_of_mem hlot') regle (by simp)) hrang
    have heq := hegalite regle hchoisie lot.1 hlotMem hcorrespond hpriority hcree
    rw [hsuite, List.map_append, List.nodup_append] at hnodup
    exact hnodup.2.2 lot.1.id (List.mem_map_of_mem (List.mem_map_of_mem hlot')) regle.id (by simp)
      (congrArg _ heq)
  rw [← hlots]
  refine ⟨avant, vus, apres, hsplit, ?_, ?_⟩
  · exact hmontree avant _ apres hsplit fun lot hlot => by simp [retient, hordre lot hlot]
  · intro lot hlot hcorrespond
    exact nomatch (hordre lot hlot).symm.trans hcorrespond

end Main

/-! ## Two rules of the same instant -/

/-- Two rules of one instant match a transaction that was inserted while the rules could not
be read. -/
def deuxRegles : Store :=
  { Scenario.deuxComptes with panne := fun n => if n = 28 then some "panne" else none }.fin
    [.createConsent "alice" "banque", .completeConsent "alice" reponseBanque,
      .createRule "alice" ⟨"epargne", Uuid.fromU128 1, none⟩,
      .createRule "alice" ⟨"epar", Uuid.fromU128 2, none⟩,
      .enregistrer (faceDuVirement (Uuid.fromU128 1013) "T1" (-5000))]

/-- The reconciliation of their owner. -/
def reconciliationAlice : Outcome (machine Scenario.collation) (Except ApiError ℕ) :=
  run _ Scenario.calme.choix (Handlers.recategoriserCredits enClair "alice").run 0 deuxRegles

/-- The reconciliation of the scenario, as a run. -/
theorem runs_reconciliationAlice :
    Runs (machine Scenario.collation) (Handlers.recategoriserCredits enClair "alice").run deuxRegles
      reconciliationAlice.trace (.ok 1) reconciliationAlice.state := by
  have hvalue : reconciliationAlice.value = .ok 1 := by decide +kernel
  rw [← hvalue]
  exact runs_run _ _ _ _

/-- The transaction waits when the two rules are listed. -/
private theorem attente_deuxRegles :
    ∃ e ∈ reconciliationAlice.trace, ∃ regles, (deuxRegles.reglesDe "alice").Perm regles ∧
      Event.entry e = ⟨.sql (listeRegles "alice"), .ok regles⟩ ∧
      ∃ tx, e.before.EnAttente enClair "alice" tx "Epargne" ∧
        reconciliationAlice.state.regleAttribuee tx.id ≠
          (selectionnerRegle "Epargne" regles).map RegleCategorisation.id := by
  obtain ⟨h⟩ := spec_recategoriserCredits runs_reconciliationAlice
  -- one movement alone is not paired: the recalculation changes nothing
  have hlength : (deuxRegles.mouvements enClair "alice").length = 1 := by decide +kernel
  have hdetecte : detecterTransfertsInternes (deuxRegles.mouvements enClair "alice") = [] := by
    decide +kernel
  have hmouvements : h.mouvements = deuxRegles.mouvements enClair "alice" := by
    have hperm := h.perm
    obtain ⟨m, hm⟩ := List.length_eq_one_iff.1 hlength
    rw [hm] at hperm ⊢
    exact List.perm_singleton.1 hperm.symm
  have hrecalcul : h.apresRecalcul = deuxRegles.recalcule "alice" [] := by
    rw [h.recalcul, hmouvements, hdetecte]
  have hperm : (deuxRegles.reglesDe "alice").Perm h.regles := by
    have hregles := perm_of_listeRegles h.liste
    rw [hrecalcul] at hregles
    exact hregles
  refine ⟨_, h.listee, h.regles, hperm, congrArg (Sigma.mk _) h.liste, ?_⟩
  rw [← selectionnerRegle_perm Store.nodup_reglesDe hperm]
  show ∃ tx, h.apresRecalcul.EnAttente enClair "alice" tx "Epargne" ∧ _
  rw [hrecalcul]
  have hfaits : ∃ tx ∈ (deuxRegles.recalcule "alice" []).bankTransaction.rows,
      (deuxRegles.recalcule "alice" []).txDe "alice" tx = true ∧
      tx.classement = (none, none, .none) ∧ tx.isInternalTransfer = false ∧
      dechiffrerTexte enClair "alice" "bank_transaction" "label" tx.label = .ok "Epargne" ∧
      reconciliationAlice.state.regleAttribuee tx.id ≠
        (selectionnerRegle "Epargne" (deuxRegles.reglesDe "alice")).map RegleCategorisation.id := by
    decide +kernel
  obtain ⟨tx, htx, hsienne, hclassement, hexterne, hlibelle, hregle⟩ := hfaits
  exact ⟨tx, ⟨htx, hsienne, hclassement, hexterne, hlibelle⟩, hregle⟩

/-- The reconciliation assigns one rule, and `selectionner_regle` chooses the other. -/
theorem not_regleAttribuee_reconciliationAlice :
    Runs (machine Scenario.collation) (Handlers.recategoriserCredits enClair "alice").run deuxRegles
      reconciliationAlice.trace (.ok 1) reconciliationAlice.state ∧
    ∃ e ∈ reconciliationAlice.trace, ∃ regles, (deuxRegles.reglesDe "alice").Perm regles ∧
      Event.entry e = ⟨.sql (listeRegles "alice"), .ok regles⟩ ∧
      ∃ tx, e.before.EnAttente enClair "alice" tx "Epargne" ∧
        reconciliationAlice.state.regleAttribuee tx.id ≠
          (selectionnerRegle "Epargne" regles).map RegleCategorisation.id :=
  ⟨runs_reconciliationAlice, attente_deuxRegles⟩

/-- The batch of the other rule comes first. -/
theorem not_lotFidele_reconciliationAlice :
    ∃ e ∈ reconciliationAlice.trace, ∃ regles,
      Event.entry e = ⟨.sql (listeRegles "alice"), .ok regles⟩ ∧
      ∃ tx, e.before.EnAttente enClair "alice" tx "Epargne" ∧
        ¬ LotFidele "Epargne" (regles.zip (listages reconciliationAlice.trace))
          (selectionnerRegle "Epargne" regles) tx.id := by
  obtain ⟨e, he, regles, -, hliste, tx, htx, hregle⟩ := attente_deuxRegles
  refine ⟨e, he, regles, hliste, tx, htx, fun hfidele => hregle ?_⟩
  exact (regleAttribuee_iff runs_reconciliationAlice he hliste htx).1.2 hfidele

end Budgy
