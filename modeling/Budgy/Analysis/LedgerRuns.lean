import Budgy.Analysis.InternalErrors
import Budgy.Analysis.Ledger
import Budgy.Interface.Refinement

/-!
# The ledger along a run

The bank shows its movements to a cycle, and each of them is an observation.  A cycle enters
them one after the other and counts; what it skips, a failed request explains.  `Suit` says so
of a program, with the counters it starts from, and composes like the programs do.  The
operations of a run then refine the ledger: the settled rule `releves` and the closing of the
accounts that are erased.
-/

set_option autoImplicit false

namespace Budgy

open Effects Relational

/-! ## What the bank shows -/

/-- The observations that an answer shows. -/
def Op.montrees : (o : Op) → o.Reply → List NouvelleTransactionBancaire
  | .banque (.listerTransactions _ compte _), .ok transactions =>
      transactions.map (versNouvelleTransaction compte.id)
  | _, _ => []

/-- The message that makes the key of the row. -/
def NouvelleTransactionBancaire.message (n : NouvelleTransactionBancaire) : List UInt8 :=
  CryptoService.messageDedup n.bankAccount.asBytes n.externalTransactionId

/-- The observations that an answer has counted, inserted and met again. -/
def Operation.comptees : (o : Operation) → o.Reponse → Option (ℕ × ℕ)
  | .synchroniser, .ok rapport =>
      some (rapport.transactionsInserees, rapport.transactionsDoublons)
  | .enregistrer _, .ok (.inseree _) => some (1, 0)
  | .enregistrer _, .ok .doublon => some (0, 1)
  | _, _ => none

section Shown

variable {col : Collation} {cfg : Configuration}

/-- The transactions that the bank showed during a trace. -/
def montreesDe (t : List (Evenement col)) : List NouvelleTransactionBancaire :=
  t.flatMap fun e => e.op.montrees e.reply

/-- An empty trace shows nothing. -/
@[simp]
theorem montreesDe_nil : montreesDe ([] : List (Evenement col)) = [] := rfl

/-- What two parts of a trace show. -/
theorem montreesDe_append (t t' : List (Evenement col)) :
    montreesDe (t ++ t') = montreesDe t ++ montreesDe t' := List.flatMap_append

/-- What an operation is shown: the observation that it is given, or the movements that the
bank answers to a cycle. -/
def Operation.montrees : Operation → List (Evenement col) → List NouvelleTransactionBancaire
  | .enregistrer n, _ => [n]
  | .synchroniser, t => montreesDe t
  | _, _ => []

/-- What the bank showed during a step. -/
def Etape.montrees (c : Etape col cfg) : List NouvelleTransactionBancaire :=
  c.call.montrees c.trace

/-- The operation erases a user. -/
def Operation.Efface (o : Operation) : Prop := ∃ owner, o = .effacerDonneesProprietaire owner

/-- The step of an operation on the ledger: some of what it was shown is entered, all of it
unless a request failed; its answer counts that; an erasure closes the accounts it deletes. -/
def Etape.Reporte (c : Etape col cfg) (g g' : BankAccountId × String → Option Ecriture) : Prop :=
  ∃ retenues g₁ k, retenues.Sublist c.montrees ∧ (¬ Echec c.trace → retenues = c.montrees) ∧
    releves.Leads g (0, 0) retenues g₁ k ∧
    (∀ k', c.call.comptees c.answer = some k' → k' = k) ∧
    (c.call.Efface → g' = c.after.gardees g₁) ∧ (¬ c.call.Efface → g' = g₁)

end Shown

/-! ## Requests that leave the ledger -/

/-- The request observes nothing, deletes no account, and shows no movement. -/
structure Op.Discret (o : Op) : Prop where
  laisse : ∀ cle, o.Laisse cle
  muette : ∀ r, o.montrees r = []

/-- A request that stays inside leaves every entry of the ledger. -/
theorem Op.Interne.discret {o : Op} (h : o.Interne) : o.Discret where
  laisse := Op.Regle.laisse (.inl h.lecture)
  muette r := by
    cases o with
    | banque => exact h.elim
    | sql | publier | nonce | uuidV4 | maintenant => rfl

section Leaves

variable {col : Collation} {crypto : CryptoService} {U : Set (List UInt8)} {s s' : Store}
  {e : Evenement col}

/-- Entries of accounts that stay are kept. -/
theorem gardees_stays (h : s.Tenu crypto U)
    (hcomptes : ∀ compte A, s.proprietaireDuCompte compte = some A →
      s'.proprietaireDuCompte compte = some A) :
    s'.gardees (s.grandLivre crypto) = s.grandLivre crypto := by
  apply ledger_ext
  intro k e
  rw [gardees_eq_some]
  refine ⟨And.right, fun hk => ⟨?_, hk⟩⟩
  obtain ⟨t, ht, hdit⟩ := h.grandLivre_eq_some.1 hk
  obtain ⟨A, hA⟩ := (h.cle_inscription ht hdit).2.2.2
  exact ⟨A, hcomptes k.1 A hA⟩

/-- A request that observes nothing keeps the entries of the accounts that stay. -/
theorem Store.Tenu.after (h : e.before.Tenu crypto U)
    (hsans : ∀ l, e.op ≠ .sql (.transaction (.insert l)))
    (hposer : ∀ id f, e.op ≠ .sql (.compte (.poserEmpreinte id f))) :
    e.after.Tenu crypto U ∧
      e.after.grandLivre crypto = e.after.gardees (e.before.grandLivre crypto) := by
  rcases after_cases e with hsame | ⟨r, x, v, hop, heffet⟩
  · rw [hsame, h.gardees_eq]
    exact ⟨h, rfl⟩
  · have hi' : e.after.Integre := h.integre.effet heffet fun id f hr => hposer id f (hr ▸ hop)
    have hr : ∀ l, r ≠ .transaction (.insert l) := fun l hr => hsans l (hr ▸ hop)
    have h' : e.after.Tenu crypto U := h.effet hi' heffet hr
    exact ⟨h', grandLivre_effet heffet h h' hr⟩

/-- A request that leaves every entry leaves the ledger. -/
theorem Store.Tenu.after_discret (h : e.before.Tenu crypto U)
    (he : ∀ cle, e.op.Laisse cle) :
    e.after.Tenu crypto U ∧ e.after.grandLivre crypto = e.before.grandLivre crypto := by
  have hsans : ∀ l, e.op ≠ .sql (.transaction (.insert l)) :=
    fun l hop => (he l.dedupKey).insertion l hop rfl
  obtain ⟨h', hsame⟩ := h.after hsans (he "").empreinte
  exact ⟨h', hsame.trans (gardees_stays h fun compte A hA => proprietaire_after (he "") hA)⟩

end Leaves

/-! ## Reports -/

section Reports

variable {col : Collation} {crypto : CryptoService} {U : Set (List UInt8)} {s s₁ s₂ : Store}
  {k k₁ k₂ : ℕ × ℕ} {vues vues' : List NouvelleTransactionBancaire} {t t' : List (Evenement col)}

/-- From `s`, the observations `vues` were shown and the requests `t` issued: what is entered
of them leads to the ledger of `s'` and to the counters `k'`. -/
structure Reporte (crypto : CryptoService) (U : Set (List UInt8)) (s : Store) (k : ℕ × ℕ)
    (vues : List NouvelleTransactionBancaire) (t : List (Evenement col)) (k' : ℕ × ℕ)
    (s' : Store) : Prop where
  tenu : s'.Tenu crypto U
  relisible : s'.Relisible crypto
  retenues : ∃ retenues, retenues.Sublist vues ∧ (¬ Echec t → retenues = vues) ∧
    releves.Leads (s.grandLivre crypto) k retenues (s'.grandLivre crypto) k'

/-- Nothing was shown, and the ledger is the same. -/
theorem Reporte.rien (h : s₁.Tenu crypto U) (hlu : s₁.Relisible crypto)
    (hsame : s₁.grandLivre crypto = s.grandLivre crypto) : Reporte crypto U s k [] t k s₁ :=
  ⟨h, hlu, [], .slnil, fun _ => rfl, hsame ▸ .nil⟩

/-- What was shown is missed by a run in which a statement failed. -/
theorem Reporte.manquee (h : s.Tenu crypto U) (hlu : s.Relisible crypto) (ht : Echec t) :
    Reporte crypto U s k vues t k s :=
  ⟨h, hlu, [], List.nil_sublist _, fun hnot => absurd ht hnot, .nil⟩

/-- Requests that show nothing may come first. -/
theorem Reporte.apres (h : Reporte crypto U s k vues t k₁ s₁) (t' : List (Evenement col)) :
    Reporte crypto U s k vues (t' ++ t) k₁ s₁ := by
  obtain ⟨retenues, hsub, hall, hleads⟩ := h.retenues
  exact ⟨h.tenu, h.relisible, retenues, hsub, fun hechec => hall fun h => hechec h.right, hleads⟩

/-- What was shown in two parts, carried over one after the other. -/
theorem Reporte.append (h : Reporte crypto U s k vues t k₁ s₁)
    (h' : Reporte crypto U s₁ k₁ vues' t' k₂ s₂) :
    Reporte crypto U s k (vues ++ vues') (t ++ t') k₂ s₂ := by
  obtain ⟨retenues, hsub, hall, hleads⟩ := h.retenues
  obtain ⟨retenues', hsub', hall', hleads'⟩ := h'.retenues
  refine ⟨h'.tenu, h'.relisible, retenues ++ retenues', hsub.append hsub', ?_,
    hleads.append hleads'⟩
  intro hechec
  rw [hall fun h => hechec h.left, hall' fun h => hechec h.right]

end Reports

/-! ## Programs that report -/

/-- What the requests of a run turn out to satisfy. -/
def Vu {col : Collation} (crypto : CryptoService) (U : Set (List UInt8)) (e : Evenement col) :
    Prop :=
  (contrat col crypto).assumes e ∧ ∀ n ∈ e.op.montrees e.reply, n.message ∈ U

/-- From the counters `k`, the program enters `vues` and what it is shown; what it returns
and the counters satisfy `Q`. -/
def Suit {α : Type} (col : Collation) (crypto : CryptoService) (U : Set (List UInt8)) (k : ℕ × ℕ)
    (vues : List NouvelleTransactionBancaire) (p : Programme α) (Q : α → ℕ × ℕ → Prop) : Prop :=
  ∀ s : Store, s.Tenu crypto U → s.Relisible crypto → Spec (machine col) p s fun t a s' =>
    (∀ e ∈ t, Vu crypto U e) → ∃ k', Q a k' ∧ Reporte crypto U s k (vues ++ montreesDe t) t k' s'

section Rules

variable {α β ε : Type} {col : Collation} {crypto : CryptoService} {U : Set (List UInt8)}
  {k : ℕ × ℕ} {vues : List NouvelleTransactionBancaire}

/-- A weaker conclusion. -/
theorem Suit.mono {p : Programme α} {Q Q' : α → ℕ × ℕ → Prop}
    (h : Suit col crypto U k vues p Q) (hQ : ∀ a k', Q a k' → Q' a k') :
    Suit col crypto U k vues p Q' := by
  intro s hs hlu t a s' hrun hvu
  obtain ⟨k', ha, hreporte⟩ := h s hs hlu hrun hvu
  exact ⟨k', hQ a k' ha, hreporte⟩

/-- A program that returns shows nothing. -/
theorem suit_pure {a : α} {Q : α → ℕ × ℕ → Prop} (h : Q a k) :
    Suit col crypto U k [] (.pure a) Q := by
  intro s hs hlu
  refine spec_pure.2 fun _ => ⟨k, h, ?_⟩
  exact .rien hs hlu rfl

/-- The first program carries over what was shown, and the second what it is shown. -/
theorem Suit.bind {p : Programme α} {f : α → Programme β} {R : α → ℕ × ℕ → Prop}
    {Q : β → ℕ × ℕ → Prop} (hp : Suit col crypto U k vues p R)
    (hf : ∀ a k', R a k' → Suit col crypto U k' [] (f a) Q) :
    Suit col crypto U k vues (p >>= f) Q := by
  intro s hs hlu
  refine spec_bind.2 (Spec.mono (hp s hs hlu) ?_)
  intro t₁ a s₁ h₁ t₂ b s₂ hrun hvu
  obtain ⟨k₁, hR, hreporte⟩ := h₁ fun e he => hvu e (List.mem_append_left _ he)
  obtain ⟨k₂, hQ, hreporte'⟩ := hf a k₁ hR s₁ hreporte.tenu hreporte.relisible hrun
    fun e he => hvu e (List.mem_append_right _ he)
  refine ⟨k₂, hQ, ?_⟩
  rw [montreesDe_append, ← List.append_assoc]
  exact hreporte.append hreporte'

/-- A task goes on only with a value. -/
theorem Suit.run_bind {x : Tache ε α} {f : α → Tache ε β} {R : Except ε α → ℕ × ℕ → Prop}
    {Q : Except ε β → ℕ × ℕ → Prop} (hx : Suit col crypto U k [] x.run R)
    (hok : ∀ a k', R (.ok a) k' → Suit col crypto U k' [] (f a).run Q)
    (herror : ∀ e k', R (.error e) k' → Q (.error e) k') :
    Suit col crypto U k [] (x >>= f).run Q := by
  rw [ExceptT.run_bind]
  refine Suit.bind hx ?_
  rintro (e | a) k' hR
  · exact suit_pure (herror e k' hR)
  · exact hok a k' hR

/-- A program without errors, as a task. -/
theorem Suit.run_ofProg {p : Programme α} {Q : Except ε α → ℕ × ℕ → Prop}
    (hp : Suit col crypto U k [] p fun a k' => Q (.ok a) k') :
    Suit col crypto U k [] (Task.ofProg p : Tache ε α).run Q := by
  rw [Task.run_ofProg]
  exact hp.bind fun a k' ha => suit_pure ha

/-- A loop keeps what relates the value to the counters. -/
theorem Suit.foldlM {f : α → β → Programme α} {xs : List β} {a : α} {I : α → ℕ × ℕ → Prop}
    (ha : I a k) (hf : ∀ a k, ∀ x ∈ xs, I a k → Suit col crypto U k [] (f a x) I) :
    Suit col crypto U k [] (xs.foldlM f a) I := by
  induction xs generalizing a k with
  | nil => exact suit_pure ha
  | cons x xs ih =>
      rw [List.foldlM_cons]
      refine Suit.bind (hf a k x (by simp) ha) fun b k' hb => ?_
      exact ih hb fun c k'' y hy => hf c k'' y (by simp [hy])

/-- A loop that an error stops. -/
theorem Suit.run_foldlM {f : α → β → Tache ε α} {xs : List β} {a : α} {I : α → ℕ × ℕ → Prop}
    (ha : I a k)
    (hf : ∀ a k, ∀ x ∈ xs, I a k →
      Suit col crypto U k [] (f a x).run fun r k' => ∀ b, r = .ok b → I b k') :
    Suit col crypto U k [] (xs.foldlM f a).run fun r k' => ∀ b, r = .ok b → I b k' := by
  induction xs generalizing a k with
  | nil =>
      refine suit_pure ?_
      rintro b ⟨⟩
      exact ha
  | cons x xs ih =>
      rw [List.foldlM_cons]
      refine Suit.run_bind (hf a k x (by simp) ha) (fun b k' hb => ?_) ?_
      · exact ih (hb b rfl) fun c k'' y hy => hf c k'' y (by simp [hy])
      · rintro e k' - b ⟨⟩

/-- A program that leaves the ledger. -/
theorem suit_of_keeps {p : Programme α} {Q : α → Prop} (hp : p.Uses Op.Discret)
    (hk : Keeps (contrat col crypto) Q p) :
    Suit col crypto U k [] p fun a k' => k' = k ∧ Q a := by
  intro s hs hlu t a s' hrun hvu
  have hdiscret : ∀ e ∈ t, e.op.Discret := hrun.uses hp
  obtain ⟨hlu', hQ⟩ := hk s hlu hrun fun e he => (hvu e he).1
  have hsame := (hrun.preserves
    (I := fun m => m.Tenu crypto U ∧ m.grandLivre crypto = s.grandLivre crypto) ⟨hs, rfl⟩ ?_).1
  · have hvide : montreesDe t = [] :=
      List.flatMap_eq_nil_iff.2 fun e he => (hdiscret e he).muette _
    rw [hvide]
    exact ⟨k, ⟨rfl, hQ⟩, .rien hsame.1 hlu' hsame.2⟩
  · rintro e he ⟨hbefore, hledger⟩
    obtain ⟨hafter, hsame⟩ := hbefore.after_discret (hdiscret e he).laisse
    exact ⟨hafter, hsame.trans hledger⟩

/-- A task that leaves every entry carries nothing over. -/
theorem suit_of_meets {A : ε → Prop} {Q : α → Prop} {x : Tache ε α} (hp : x.run.Uses Op.Discret)
    (hx : Meets (contrat col crypto) A Q x) :
    Suit col crypto U k [] x.run fun r k' => k' = k ∧ ∀ a, r = .ok a → Q a :=
  suit_of_keeps hp hx.keeps_ok

/-- The movements that the bank answers are left to be entered. -/
theorem suit_lister {consent : Consent} {compte : BankAccount} {depuis : NaiveDate}
    {f : Except BankDataSourceError (List TransactionBancaire) → Programme β}
    {Q : β → ℕ × ℕ → Prop} (herror : ∀ e, Suit col crypto U k [] (f (.error e)) Q)
    (hok : ∀ transactions,
      (∀ t ∈ transactions, (versNouvelleTransaction compte.id t).message ∈ U ∧
        EstI64 t.amountCents) →
      Suit col crypto U k (transactions.map (versNouvelleTransaction compte.id))
        (f (.ok transactions)) Q) :
    Suit col crypto U k [] ((appelerBanque (.listerTransactions consent compte depuis)).run >>= f)
      Q := by
  intro s hs hlu
  refine spec_bind.2 (spec_perform.2 ?_)
  rintro (erreur | transactions) t r s' hrun hvu
  · obtain ⟨k', hQ, hreporte⟩ := herror erreur s hs hlu hrun
      fun e he => hvu e (List.mem_append_right _ he)
    exact ⟨k', hQ, hreporte.apres [_]⟩
  · have hlist := hvu _ (List.mem_append_left _ (List.mem_singleton_self _))
    have hvues : ∀ t ∈ transactions, (versNouvelleTransaction compte.id t).message ∈ U ∧
        EstI64 t.amountCents := by
      intro t ht
      exact ⟨hlist.2 _ (List.mem_map_of_mem ht), hlist.1.2.2.2 t ht⟩
    obtain ⟨k', hQ, hreporte⟩ := hok transactions hvues s hs hlu hrun
      fun e he => hvu e (List.mem_append_right _ he)
    exact ⟨k', hQ, hreporte.apres [_]⟩

end Rules

/-! ## The observations of a cycle -/

section Cycle

variable {col : Collation} {crypto : CryptoService} {U : Set (List UInt8)} {k : ℕ × ℕ}
  {parametres : ParametresSynchro} {s : Store}

/-- The counters of a report. -/
def RapportSynchro.comptees (rapport : RapportSynchro) : ℕ × ℕ :=
  (rapport.transactionsInserees, rapport.transactionsDoublons)

/-- What the answer of `enregistrer` adds to the counters. -/
def compter (k : ℕ × ℕ) : Except EcritureError (ResultatInsertion TransactionBancaireId) → ℕ × ℕ
  | .ok (.inseree _) => (k.1 + 1, k.2)
  | .ok .doublon => (k.1, k.2 + 1)
  | .error _ => k

/-- One observation is entered, or a request fails. -/
theorem reporte_enregistrer (hfiable : crypto.Fiable) (hcollision : crypto.SansCollision U)
    {n : NouvelleTransactionBancaire} (hU : n.message ∈ U) (hmontant : EstI64 n.amountCents)
    (hs : s.Tenu crypto U) (hlu : s.Relisible crypto) :
    Spec (machine col) (BankTransactionsAdapter.enregistrer crypto n).run s fun t r s' =>
      (∀ e ∈ t, (contrat col crypto).assumes e) →
        Reporte crypto U s k [n] t (compter k r) s' := by
  intro t r s' hrun hassumes
  have hmeets : Meets (contrat col crypto) (fun _ => False) (fun _ => True)
      (BankTransactionsAdapter.enregistrer crypto n) := meets_enregistrer hfiable hmontant
  have hmet := hmeets s hlu hrun hassumes
  have hspec : Enregistre col crypto n s r s' := (guarded_enregistrer hrun).2
  rcases r with erreur | resultat
  · obtain rfl : s' = s := hspec
    exact .manquee hs hlu (hmet.2.resolve_right id)
  · obtain ⟨m, ⟨A, l, x, v, hA, hl, heffet, rfl⟩, hregles, -⟩ := hspec
    have hcas : (Requete.transaction (.insert l)).effet col x s = .ok (v, m) := heffet
    obtain ⟨hm, hledger, hdoublon⟩ :=
      grandLivre_observe hs hlu hfiable hcollision hU hmontant hA hl hcas
    obtain ⟨htenu, hsame⟩ := hregles
      (fun m' => m'.Tenu crypto U ∧ m'.grandLivre crypto = m.grandLivre crypto)
      (fun e he h => by
        obtain ⟨hafter, hstep⟩ := h.1.after_discret he.laisse
        exact ⟨hafter, hstep.trans h.2⟩) ⟨hm, rfl⟩
    refine ⟨htenu, hmet.1, [n], List.Sublist.refl _, fun _ => rfl, ?_⟩
    rw [hsame, hledger]
    cases hresultat : resultatInsertion v with
    | inseree id =>
        rw [hresultat] at hdoublon
        exact .opens (not_not.1 fun hne => nomatch hdoublon.2 hne)
    | doublon => exact .meets (hdoublon.1 hresultat)

/-- The movements that the bank shows are entered one after the other. -/
theorem reporte_enregistrerTransactions (hfiable : crypto.Fiable)
    (hcollision : crypto.SansCollision U) {compte : BankAccountId}
    {transactions : List TransactionBancaire} {acc : RapportSynchro × RemonteeCompte}
    (hvues : ∀ t ∈ transactions, (versNouvelleTransaction compte t).message ∈ U ∧
      EstI64 t.amountCents) (hs : s.Tenu crypto U) (hlu : s.Relisible crypto) :
    Spec (machine col) (transactions.foldlM (Synchro.enregistrerTransaction crypto compte) acc) s
      fun t acc' s' => (∀ e ∈ t, (contrat col crypto).assumes e) →
        Reporte crypto U s acc.1.comptees (transactions.map (versNouvelleTransaction compte)) t
          acc'.1.comptees s' := by
  induction transactions generalizing acc s with
  | nil => exact spec_pure.2 fun _ => .rien hs hlu rfl
  | cons transaction transactions ih =>
      obtain ⟨hU, hmontant⟩ := hvues transaction (by simp)
      have hfirst : Spec (machine col)
          (Synchro.enregistrerTransaction crypto compte acc transaction) s fun t acc' s' =>
            (∀ e ∈ t, (contrat col crypto).assumes e) →
              Reporte crypto U s acc.1.comptees [versNouvelleTransaction compte transaction] t
                acc'.1.comptees s' := by
        refine spec_bind.2 (Spec.mono (reporte_enregistrer (k := acc.1.comptees) hfiable hcollision
          hU hmontant hs hlu) ?_)
        rintro t (e | id | _) s' hreporte <;>
        · refine spec_pure.2 ?_
          rw [List.append_nil]
          exact hreporte
      rw [List.foldlM_cons]
      refine spec_bind.2 (Spec.mono hfirst ?_)
      intro t₁ acc₁ s₁ h₁ t₂ acc₂ s₂ hrun hassumes
      have hreporte := h₁ fun e he => hassumes e (List.mem_append_left _ he)
      have hrest := ih (fun t ht => hvues t (List.mem_cons_of_mem _ ht))
        hreporte.tenu hreporte.relisible hrun
        fun e he => hassumes e (List.mem_append_right _ he)
      exact hreporte.append hrest

/-- What the bank has shown is entered. -/
theorem suit_enregistrerTransactions (hfiable : crypto.Fiable)
    (hcollision : crypto.SansCollision U) {compte : BankAccountId}
    {transactions : List TransactionBancaire} {acc : RapportSynchro × RemonteeCompte}
    (hvues : ∀ t ∈ transactions, (versNouvelleTransaction compte t).message ∈ U ∧
      EstI64 t.amountCents) (hacc : acc.1.comptees = k) :
    Suit col crypto U k (transactions.map (versNouvelleTransaction compte))
      (transactions.foldlM (Synchro.enregistrerTransaction crypto compte) acc)
      fun acc' k' => acc'.1.comptees = k' := by
  subst hacc
  intro s hs hlu t acc' s' hrun hvu
  have hmuette : ∀ e ∈ t, e.op.montrees e.reply = [] := by
    intro e he
    refine (hrun.uses (P := fun o : Op => ∀ r, o.montrees r = []) ?_ e he) _
    refine Prog.Uses.foldlM (fun acc transaction _ => ?_) _
    refine Prog.Uses.bind (uses_enregistrer (fun (o : Op) ho => ho.discret.muette)
      (fun _ _ _ _ => rfl) fun _ _ _ _ _ => rfl) ?_
    rintro (_ | _ | _) <;> exact Prog.uses_pure _
  have hvide : montreesDe t = [] := List.flatMap_eq_nil_iff.2 hmuette
  refine ⟨acc'.1.comptees, rfl, ?_⟩
  rw [hvide, List.append_nil]
  exact reporte_enregistrerTransactions hfiable hcollision hvues hs hlu hrun
    fun e he => (hvu e he).1

end Cycle

section Accounts

variable {col : Collation} {crypto : CryptoService} {U : Set (List UInt8)} {k : ℕ × ℕ}
  {parametres : ParametresSynchro} {rapport : RapportSynchro}

/-- A statement that leaves every entry is discreet. -/
theorem discret_sql {r : Requete} (h : ∀ cle, (Op.sql r).Laisse cle) : (Op.sql r).Discret :=
  ⟨h, fun _ => rfl⟩

/-- An event is discreet. -/
theorem discret_publier (ev : EvenementSynchro) : (Op.publier ev).Discret :=
  ⟨Op.Regle.laisse (.inl rfl), fun _ => rfl⟩

/-- The counters are those of the report that a task returns. -/
def Rendu {ε : Type} (r : Except ε RapportSynchro) (k : ℕ × ℕ) : Prop :=
  ∀ rapport, r = .ok rapport → rapport.comptees = k

/-- A report whose counters are those of the ledger. -/
theorem suit_rendu {ε : Type} (h : rapport.comptees = k) :
    Suit col crypto U k [] (pure rapport : Tache ε RapportSynchro).run Rendu := by
  refine suit_pure ?_
  rintro _ ⟨⟩
  exact h

/-- What leaves the ledger may come first. -/
theorem Suit.after_discret {α ε : Type} {Q : α → Prop} {x : Tache ε α}
    {f : α → Tache ε RapportSynchro} {A : ε → Prop} (hp : x.run.Uses Op.Discret)
    (hx : Meets (contrat col crypto) A Q x)
    (hf : ∀ a, Q a → Suit col crypto U k [] (f a).run Rendu) :
    Suit col crypto U k [] (x >>= f).run Rendu := by
  refine Suit.run_bind (suit_of_meets hp hx) ?_ ?_
  · rintro a k' ⟨rfl, ha⟩
    exact hf a (ha a rfl)
  · rintro e k' - rapport ⟨⟩

/-- Storing a balance leaves the ledger and the counters. -/
theorem suit_enregistrerSolde (hfiable : crypto.Fiable) {acc : RapportSynchro × RemonteeCompte}
    {solde : Balance} (hsolde : EstI64 solde.amountCents) (hacc : acc.1.comptees = k) :
    Suit col crypto U k [] (Synchro.enregistrerSolde crypto acc solde) fun acc' k' =>
      acc'.1.comptees = k' := by
  have hstored : EstI64 (versNouvelleBalance solde).amountCents := hsolde
  refine Suit.bind (suit_of_meets (A := fun _ => False) ?_
    (meets_enregistrerBalance hfiable hstored)) ?_
  · refine uses_enregistrerBalance (fun o ho => ho.discret) fun amount => ?_
    exact discret_sql fun _ => ⟨nofun, nofun, nofun, nofun⟩
  · rintro (e | id) k' ⟨rfl, -⟩ <;> exact suit_pure hacc

/-- What is fetched for an account is entered and counted. -/
theorem suit_remonterDonnees (hfiable : crypto.Fiable) (hcollision : crypto.SansCollision U)
    {consent : Consent} {compte : BankAccount} (hrapport : rapport.comptees = k) :
    Suit col crypto U k [] (Synchro.remonterDonnees crypto parametres consent compte rapport)
      fun r k' => r.1.comptees = k' := by
  have hbanque : (Op.banque (.solde consent compte)).Discret :=
    ⟨Op.Regle.laisse (.inl rfl), fun _ => rfl⟩
  refine Suit.bind (suit_of_meets (A := fun _ => False) (uses_appelerBanque hbanque)
    meets_appelerBanque) ?_
  rintro (erreur | soldes) k' ⟨rfl, hsoldes⟩
  · exact suit_pure hrapport
  refine Suit.bind (Suit.foldlM (I := fun acc k' => acc.1.comptees = k') hrapport ?_) ?_
  · intro acc k' solde hsolde hacc
    exact suit_enregistrerSolde hfiable (hsoldes soldes rfl solde hsolde) hacc
  · intro acc k' hacc
    refine suit_lister (fun erreur => suit_pure hacc) fun transactions hvues => ?_
    exact Suit.bind (suit_enregistrerTransactions hfiable hcollision hvues hacc)
      fun acc' k'' hacc' => suit_pure hacc'

/-- A statement of a cycle that is no observation. -/
theorem discret_ecritCycle (crypto : CryptoService) {r : Requete} (h : EcritCycle crypto r)
    (hsans : ∀ l, r ≠ .transaction (.insert l)) : (Op.sql r).Discret := by
  cases h with
  | inserer l => exact absurd rfl (hsans l)
  | expirer | reserver | solde | regle | reinitialiserRecurrences | marquerRecurrentes =>
      exact discret_sql fun _ => ⟨nofun, nofun, nofun, nofun⟩

/-- An event is published between two tasks. -/
theorem suit_publier {ε : Type} {ev : EvenementSynchro} {f : Unit → Tache ε RapportSynchro}
    (hf : Suit col crypto U k [] (f ()).run Rendu) :
    Suit col crypto U k [] (Task.ofProg (publierEvenement ev) >>= f).run Rendu :=
  Suit.after_discret (A := fun _ => False)
    (Prog.Uses.run_ofProg (uses_demander (discret_publier ev)))
    (meets_ofProg (uses_demander trivial)) fun _ _ => hf

/-- What ends an account is not counted. -/
theorem suit_conclure (hfiable : crypto.Fiable) {compte : CompteASynchroniser} {consent : Consent}
    {maintenant : DateTime} {issue : Except BankDataSourceError RemonteeCompte}
    (hrapport : rapport.comptees = k) :
    Suit col crypto U k []
      (Synchro.conclure crypto compte consent maintenant rapport issue).run Rendu := by
  cases issue with
  | error erreur =>
      refine suit_publier ?_
      unfold Synchro.traiterEchecSource
      split
      · refine Suit.after_discret (A := fun _ => False) ?_
          (Meets.mapError (meets_marquerStatutConsent)) fun _ _ => ?_
        · exact Prog.Uses.run_mapError
            (uses_marquerStatutConsent (discret_ecritCycle crypto (.expirer _) nofun))
        · exact suit_publier (suit_rendu hrapport)
      · exact suit_rendu hrapport
  | ok remontee =>
      refine Suit.after_discret (A := fun _ => False) (Q := fun _ => True) ?_ (Keeps.ofProg ?_)
        fun _ _ => ?_
      · exact Prog.Uses.run_ofProg (uses_recalculerRecurrencesApresInsertion
          (fun o ho => ho.discret) (discret_ecritCycle crypto (.reinitialiserRecurrences _) nofun)
          fun _ _ => discret_ecritCycle crypto (.marquerRecurrentes ..) nofun)
      · exact keeps_recalculerRecurrencesApresInsertion hfiable
      · exact Suit.after_discret (A := fun _ => False) (Q := fun _ => True)
          (Prog.Uses.run_ofProg (uses_publierSucces discret_publier))
          (Keeps.ofProg keeps_publierSucces) fun _ _ => suit_rendu hrapport

/-- One account of a cycle. -/
theorem suit_synchroniserCompte (hfiable : crypto.Fiable) (hcollision : crypto.SansCollision U)
    {maintenant : DateTime} {echeant : CompteEcheant} (hrapport : rapport.comptees = k) :
    Suit col crypto U k []
      (Synchro.synchroniserCompte crypto parametres maintenant rapport echeant).run Rendu := by
  unfold Synchro.synchroniserCompte
  dsimp only
  split
  · refine Suit.after_discret (A := fun _ => False) ?_
      (Meets.mapError (meets_marquerStatutConsent)) fun _ _ => ?_
    · exact Prog.Uses.run_mapError
        (uses_marquerStatutConsent (discret_ecritCycle crypto (.expirer _) nofun))
    · exact suit_publier (suit_rendu hrapport)
  · refine Suit.after_discret (A := fun _ => False) ?_
      (Meets.mapError (meets_reserverCreneau)) fun creneau _ => ?_
    · refine Prog.Uses.run_mapError (Prog.Uses.run_mapError (Prog.Uses.run_bind
        (uses_interrogerChiffre ?_) fun _ => Prog.uses_pure _))
      exact discret_ecritCycle crypto (.reserver ..) nofun
    · split
      · exact suit_rendu hrapport
      · refine suit_publier (Suit.after_discret (A := fun _ => False) (Q := fun _ => True)
          (Prog.Uses.run_ofProg (uses_publierRenouvellement discret_publier))
          (meets_ofProg (uses_publierRenouvellement fun _ => trivial)) fun _ _ => ?_)
        refine Suit.run_bind (Suit.run_ofProg
          (Q := fun r k' => ∀ a, r = .ok a → a.1.comptees = k') ?_) ?_ ?_
        · refine Suit.mono (suit_remonterDonnees hfiable hcollision ?_) ?_
          · exact hrapport
          · rintro a k' ha _ ⟨⟩
            exact ha
        · intro a k' ha
          exact suit_conclure hfiable (ha a rfl)
        · rintro e k' - rapport ⟨⟩

/-- A cycle carries over what the bank shows, and counts it. -/
theorem suit_executer (hfiable : crypto.Fiable) (hcollision : crypto.SansCollision U) :
    Suit col crypto U (0, 0) [] (Synchro.executer crypto parametres).run Rendu := by
  have hmaintenant : Op.maintenant.Discret := ⟨Op.Regle.laisse (.inl rfl), fun _ => rfl⟩
  refine Suit.after_discret (A := fun _ => False) (Prog.Uses.run_ofProg (uses_demander hmaintenant))
    (meets_ofProg (uses_demander trivial)) fun maintenant _ => ?_
  refine Suit.after_discret (A := fun _ => False)
    (Prog.Uses.run_mapError (uses_listerComptesEcheants fun o ho => ho.discret))
    (Meets.mapError (meets_listerComptesEcheants hfiable))
    fun echeants _ => ?_
  refine Suit.run_foldlM (I := fun (rapport : RapportSynchro) k' => rapport.comptees = k') rfl
    ?_
  intro rapport k' echeant _ hrapport
  exact suit_synchroniserCompte hfiable hcollision hrapport

end Accounts

/-! ## The operations -/

section Operations

variable {col : Collation} {cfg : Configuration} {U : Set (List UInt8)} {c : Etape col cfg}
  {s s' : Store}

/-- What is kept of what was kept, on fewer accounts. -/
theorem gardees_gardees {g : BankAccountId × String → Option Ecriture}
    (h : ∀ compte, s'.aCompte compte = true → s.aCompte compte = true) :
    s'.gardees (s.gardees g) = s'.gardees g := by
  funext k
  unfold Store.gardees
  split
  · rename_i hcompte
    exact if_pos (h k.1 hcompte)
  · rfl

/-- A request that inserts no account opens none. -/
theorem aCompte_after {e : Evenement col}
    (hposer : ∀ id f, e.op ≠ .sql (.compte (.poserEmpreinte id f)))
    (hinserer : ∀ l, e.op ≠ .sql (.compte (.insert l))) {compte : BankAccountId}
    (h : e.after.aCompte compte = true) : e.before.aCompte compte = true := by
  rcases after_cases e with hsame | ⟨r, x, v, hop, heffet⟩
  · rwa [hsame] at h
  · obtain ⟨a, ha, hid⟩ := aCompte_eq_true.1 h
    rcases compte_effet heffet (fun id f hr => hposer id f (hr ▸ hop)) ha with
      ⟨a₀, ha₀, hmeme⟩ | ⟨l, hr, -⟩
    · exact aCompte_eq_true.2 ⟨a₀, ha₀, hmeme.id.symm.trans hid⟩
    · exact absurd (hr ▸ hop) (hinserer l)

/-- An erasure closes the entries of the accounts that it deletes. -/
theorem reporte_effacer {owner : ProprietaireId} (hvalid : c.Valid)
    (hcall : c.call = .effacerDonneesProprietaire owner) (hs : c.before.Tenu cfg.crypto U) :
    c.after.Tenu cfg.crypto U ∧
      c.after.grandLivre cfg.crypto = c.after.gardees (c.before.grandLivre cfg.crypto) := by
  refine (hvalid.preserves (I := fun m => m.Tenu cfg.crypto U ∧
    m.grandLivre cfg.crypto = m.gardees (c.before.grandLivre cfg.crypto)) ⟨hs, hs.gardees_eq.symm⟩
    ?_).1
  rintro e he ⟨hbefore, hledger⟩
  have hemet : ∀ r, e.op = .sql r → r.ecrit ≠ [] → r = .compte (.supprimerParProprietaire owner) ∨
      r = .consent (.supprimerParProprietaire owner) := by
    intro r hop hr
    have h := Etape.emet hvalid he hop hr
    rw [hcall] at h
    cases h with
    | supprimerComptes => exact .inl rfl
    | supprimerConsents => exact .inr rfl
  have hsans : ∀ l, e.op ≠ .sql (.transaction (.insert l)) := fun l hop => by
    rcases hemet _ hop (by simp) with h | h <;> cases h
  have hposer : ∀ id f, e.op ≠ .sql (.compte (.poserEmpreinte id f)) := fun id f hop => by
    rcases hemet _ hop (by simp) with h | h <;> cases h
  have hinserer : ∀ l, e.op ≠ .sql (.compte (.insert l)) := fun l hop => by
    rcases hemet _ hop (by simp) with h | h <;> cases h
  obtain ⟨hafter, hstep⟩ := hbefore.after hsans hposer
  refine ⟨hafter, ?_⟩
  rw [hstep, hledger, gardees_gardees fun compte h => aCompte_after hposer hinserer h]

/-- An operation that observes nothing and erases nobody leaves the ledger. -/
theorem reporte_autre (hvalid : c.Valid) (hobserve : ∀ n, c.call ≠ .enregistrer n)
    (hcycle : c.call ≠ .synchroniser)
    (hefface : ∀ owner, c.call ≠ .effacerDonneesProprietaire owner)
    (hs : c.before.Tenu cfg.crypto U) :
    c.after.Tenu cfg.crypto U ∧ c.after.grandLivre cfg.crypto = c.before.grandLivre cfg.crypto := by
  refine (hvalid.preserves (I := fun m => m.Tenu cfg.crypto U ∧
    m.grandLivre cfg.crypto = c.before.grandLivre cfg.crypto) ⟨hs, rfl⟩ ?_).1
  rintro e he ⟨hbefore, hledger⟩
  obtain ⟨hafter, hstep⟩ := hbefore.after_discret fun cle =>
    Etape.laisse hvalid ⟨hcycle, hefface⟩ (fun n hcall => absurd hcall (hobserve n)) he
  exact ⟨hafter, hstep.trans hledger⟩

/-- One operation is a step of the ledger. -/
theorem etape_reporte (hfiable : cfg.crypto.Fiable) (hcollision : cfg.crypto.SansCollision U)
    (hvalid : c.Valid) (hassumes : ∀ e ∈ c.trace, (contrat col cfg.crypto).assumes e)
    (hmontant : c.call.MontantI64) (hU : ∀ n ∈ c.montrees, n.message ∈ U)
    (hs : c.before.Tenu cfg.crypto U) (hlu : c.before.Relisible cfg.crypto) :
    c.after.Tenu cfg.crypto U ∧
      c.Reporte (c.before.grandLivre cfg.crypto) (c.after.grandLivre cfg.crypto) := by
  obtain ⟨call, s, t, r, s'⟩ := c
  by_cases hcycle : call = .synchroniser
  · subst hcycle
    have hvu : ∀ e ∈ t, Vu cfg.crypto U e := fun e he =>
      ⟨hassumes e he, fun n hn => hU n (List.mem_flatMap.2 ⟨e, he, hn⟩)⟩
    obtain ⟨k, hrendu, hreporte⟩ := suit_executer hfiable hcollision s hs hlu hvalid hvu
    obtain ⟨retenues, hsub, hall, hleads⟩ := hreporte.retenues
    refine ⟨hreporte.tenu, retenues, _, k, hsub, hall, hleads, ?_, ?_, fun _ => rfl⟩
    · intro k' hk'
      have hk' : Operation.comptees .synchroniser r = some k' := hk'
      rcases r with erreur | rapport
      · cases hk'
      · exact (Option.some.inj hk').symm.trans (hrendu rapport rfl)
    · rintro ⟨owner, hcall⟩
      cases hcall
  by_cases hobserve : ∃ n, call = .enregistrer n
  · obtain ⟨n, rfl⟩ := hobserve
    have hreporte := reporte_enregistrer (k := (0, 0)) hfiable hcollision
      (hU n (List.mem_singleton_self n)) hmontant hs hlu hvalid hassumes
    obtain ⟨retenues, hsub, hall, hleads⟩ := hreporte.retenues
    refine ⟨hreporte.tenu, retenues, _, compter (0, 0) r, hsub, hall, hleads, ?_, ?_,
      fun _ => rfl⟩
    · intro k' hk'
      have hk' : Operation.comptees (.enregistrer n) r = some k' := hk'
      rcases r with erreur | id | _
      · cases hk'
      · exact (Option.some.inj hk').symm
      · exact (Option.some.inj hk').symm
    · rintro ⟨owner, hcall⟩
      cases hcall
  have hmontrees : Etape.montrees ⟨call, s, t, r, s'⟩ = [] := by
    cases call with
    | synchroniser => exact absurd rfl hcycle
    | enregistrer n => exact absurd ⟨n, rfl⟩ hobserve
    | _ => rfl
  have hcomptees : Operation.comptees call r = none := by
    cases call with
    | synchroniser => exact absurd rfl hcycle
    | enregistrer n => exact absurd ⟨n, rfl⟩ hobserve
    | _ => rfl
  have hrien : ∀ k', Operation.comptees call r = some k' → k' = (0, 0) :=
    fun k' hk' => absurd (hcomptees.symm.trans hk') (by simp)
  by_cases hefface : call.Efface
  · obtain ⟨owner, hcall⟩ := id hefface
    obtain ⟨htenu, hledger⟩ := reporte_effacer hvalid hcall hs
    exact ⟨htenu, [], _, (0, 0), List.nil_sublist _, fun _ => hmontrees.symm, .nil, hrien,
      fun _ => hledger, absurd hefface⟩
  · obtain ⟨htenu, hsame⟩ := reporte_autre hvalid (fun n hcall => hobserve ⟨n, hcall⟩) hcycle
      (fun owner hcall => hefface ⟨owner, hcall⟩) hs
    exact ⟨htenu, [], _, (0, 0), List.nil_sublist _, fun _ => hmontrees.symm, .nil, hrien,
      fun h => absurd h hefface, fun _ => hsame⟩

end Operations

/-! ## Runs -/

section Runs

variable {col : Collation} {cfg : Configuration} {U : Set (List UInt8)} {s₀ s : Store}
  {l passe : List (Etape col cfg)} {c : Etape col cfg}
  {g g' : BankAccountId × String → Option Ecriture}

/-- The seeded database is well kept. -/
theorem Store.Amorcee.tenu {crypto : CryptoService} (h : s.Amorcee) : s.Tenu crypto U where
  integre := h.integre
  scellees t ht := by
    have ht : t ∈ s.bankTransaction.rows := ht
    rw [h.bankTransaction] at ht
    exact absurd ht List.not_mem_nil

/-- The ledger of the seeded database is empty. -/
theorem Store.Amorcee.grandLivre {crypto : CryptoService} (h : s.Amorcee) :
    s.grandLivre crypto = fun _ => none := by
  funext k
  rw [Store.grandLivre, h.bankTransaction]
  rfl

/-- What the operations of a run were shown has no collision. -/
abbrev messagesMontres (l : List (Etape col cfg)) : Set (List UInt8) :=
  {m | ∃ c ∈ l, ∃ n ∈ c.montrees, n.message = m}

/-- Every operation of a run is a step of the ledger. -/
theorem execution_reporte (h₀ : s₀.Amorcee) (h : Execution col cfg s₀ l s)
    (hfiable : cfg.crypto.Fiable)
    (hmontants : ∀ c ∈ l, c.call.MontantI64 ∧ ∀ e ∈ c.trace, MontantsI64 e.op e.reply)
    (hcollision : cfg.crypto.SansCollision (messagesMontres l)) :
    ∀ c ∈ l, c.Reporte (c.before.grandLivre cfg.crypto) (c.after.grandLivre cfg.crypto) := by
  have hassumes := execution_assumes h₀ h fun c hc => (hmontants c hc).2
  have hstep : ∀ c ∈ l, c.Valid → c.before.Tenu cfg.crypto (messagesMontres l) ∧
      c.before.Relisible cfg.crypto → (c.after.Tenu cfg.crypto (messagesMontres l) ∧
        c.after.Relisible cfg.crypto) ∧
      c.Reporte (c.before.grandLivre cfg.crypto) (c.after.grandLivre cfg.crypto) := by
    rintro c hc hvalid ⟨hs, hlu⟩
    obtain ⟨htenu, hreporte⟩ := etape_reporte hfiable hcollision hvalid (hassumes c hc)
      (hmontants c hc).1 (fun n hn => ⟨c, hc, n, hn, rfl⟩) hs hlu
    have hlu' := (Etape.relisible hfiable hvalid hlu (hmontants c hc).1 (hassumes c hc)).1
    exact ⟨⟨htenu, hlu'⟩, hreporte⟩
  have hbefore := (h.preserves (I := fun s => s.Tenu cfg.crypto (messagesMontres l) ∧
    s.Relisible cfg.crypto) ⟨h₀.tenu, h₀.relisible⟩
    fun c hc hvalid hs => (hstep c hc hvalid hs).1).2
  intro c hc
  exact (hstep c hc (h.valid c hc) (hbefore c hc).1).2

/-- The table of the transactions is a ledger: from the seeded database, a run leads from the
empty ledger to the one of its database by the steps of its operations. -/
theorem grandLivre_raffine (h₀ : s₀.Amorcee) (h : Execution col cfg s₀ l s)
    (hfiable : cfg.crypto.Fiable)
    (hmontants : ∀ c ∈ l, c.call.MontantI64 ∧ ∀ e ∈ c.trace, MontantsI64 e.op e.reply)
    (hcollision : cfg.crypto.SansCollision (messagesMontres l)) :
    Path (fun g (c : Etape col cfg) g' => c.Reporte g g') (fun _ => none) l
      (s.grandLivre cfg.crypto) := by
  have hpath := h.refines (R := fun g (c : Etape col cfg) g' => c.Reporte g g')
    (f := fun s : Store => s.grandLivre cfg.crypto) (g := id)
    (execution_reporte h₀ h hfiable hmontants hcollision)
  rwa [List.map_id, h₀.grandLivre] at hpath

/-- What was absorbed stays absorbed, and what is shown without a failure is absorbed. -/
theorem Etape.Reporte.absorbs (h : c.Reporte g g') (hc : ¬ c.call.Efface) :
    (∀ n, releves.Absorbs g n → releves.Absorbs g' n) ∧
      (¬ Echec c.trace → ∀ n ∈ c.montrees, releves.Absorbs g' n) := by
  obtain ⟨retenues, g₁, k, -, hall, hleads, -, -, hsame⟩ := h
  rw [hsame hc, ← hleads.ledger]
  constructor
  · intro n hn
    exact releves_settles.absorbs_afterAll hn retenues
  · intro hechec n hn
    rw [← hall hechec] at hn
    exact releves_settles.absorbs_observeAll hn

/-- What is absorbed already has no effect and is not counted as inserted. -/
theorem Etape.Reporte.rejeu (h : c.Reporte g g') (hc : ¬ c.call.Efface)
    (hvues : ∀ n ∈ c.montrees, releves.Absorbs g n) :
    g' = g ∧ ∀ k, c.call.comptees c.answer = some k → k.1 = 0 := by
  obtain ⟨retenues, g₁, k, hsub, -, hleads, hcomptees, -, hsame⟩ := h
  obtain ⟨hledger, hopened⟩ := Ledger.Rule.observeAll_of_absorbs (R := releves) (m := g)
    fun n hn => hvues n (hsub.subset hn)
  refine ⟨(hsame hc).trans (hleads.ledger.symm.trans hledger), ?_⟩
  intro k' hk'
  rw [hcomptees k' hk', hleads.opened, hopened]

/-- A synchronisation may be repeated: when every movement that an operation is shown was
shown before to an operation without a failed request, and nobody was erased, the ledger stays
as it was and nothing is inserted. -/
theorem rejeu_sans_effet (h₀ : s₀.Amorcee) (h : Execution col cfg s₀ l s)
    (hfiable : cfg.crypto.Fiable)
    (hmontants : ∀ c ∈ l, c.call.MontantI64 ∧ ∀ e ∈ c.trace, MontantsI64 e.op e.reply)
    (hcollision : cfg.crypto.SansCollision (messagesMontres l)) (hl : l = passe ++ [c])
    (hefface : ∀ d ∈ l, ¬ d.call.Efface)
    (hvues : ∀ n ∈ c.montrees, ∃ d ∈ passe, n ∈ d.montrees ∧ ¬ Echec d.trace) :
    s.grandLivre cfg.crypto = c.before.grandLivre cfg.crypto ∧
      ∀ k, c.call.comptees c.answer = some k → k.1 = 0 := by
  have hreporte := execution_reporte h₀ h hfiable hmontants hcollision
  subst hl
  obtain ⟨t, hpasse, hlast⟩ := Execution.append_iff.1 h
  have habsorbe := hpasse.follows
    (J := fun (past : List (Etape col cfg)) (t : Store) => ∀ n,
    (∃ d ∈ past, n ∈ d.montrees ∧ ¬ Echec d.trace) →
      releves.Absorbs (t.grandLivre cfg.crypto) n) (by simp) ?_
  · cases hlast with
    | cons c run rest =>
        generalize hafter : c.after = fin at rest
        cases rest
        subst hafter
        have hc := hreporte c (by simp)
        exact hc.rejeu (hefface c (by simp)) fun n hn => habsorbe n (hvues n hn)
  · rintro past d hd - hpast n ⟨d', hd', hn, hechec⟩
    have hd : d ∈ passe ++ [c] := List.mem_append_left _ hd
    have hstep := (hreporte d hd).absorbs (hefface d hd)
    rcases List.mem_append.1 hd' with hd' | hd'
    · exact hstep.1 n (hpast n ⟨d', hd', hn, hechec⟩)
    · obtain rfl := List.mem_singleton.1 hd'
      exact hstep.2 hechec n hn

end Runs

/-- Two cycles, the second one six hours later, see the same payment. -/
def paiementRevu : Scenario :=
  { unComptePaye with horloge := fun n => if n < 35 then 0 else Duration.hours 6 }

/-- The account is attached, and synchronised twice. -/
def rattacheEtSynchroniseDeuxFois : List Operation := rattacheEtSynchronise ++ [.synchroniser]

/-- The run of the two cycles. -/
def etapesRevues : List (Etape Scenario.collation Scenario.configuration) :=
  paiementRevu.etapes rattacheEtSynchroniseDeuxFois

/-- The steps of that run are those of its operations. -/
private theorem call_etapesRevues {c : Etape Scenario.collation Scenario.configuration}
    (hc : c ∈ etapesRevues) : c.call ∈ rattacheEtSynchroniseDeuxFois := by
  rw [← paiementRevu.calls_etapes rattacheEtSynchroniseDeuxFois]
  exact List.mem_map_of_mem hc

/-- Every amount of that run is a machine integer. -/
private theorem montants_etapesRevues : ∀ c ∈ etapesRevues, c.call.MontantI64 ∧
    ∀ e ∈ c.trace, MontantsI64 e.op e.reply := by
  intro c hc
  constructor
  · have hcall := call_etapesRevues hc
    simp only [rattacheEtSynchroniseDeuxFois, rattacheEtSynchronise, List.cons_append,
      List.nil_append, List.mem_cons, List.not_mem_nil, or_false] at hcall
    rcases hcall with h | h | h | h <;> rw [h] <;> trivial
  · revert c
    decide +kernel

/-- The ledger at the end has the payment. -/
theorem grandLivre_raffine_paiementRevu :
    Path (fun g (c : Etape Scenario.collation Scenario.configuration) g' => c.Reporte g g')
      (fun _ => none) etapesRevues
      ((paiementRevu.fin rattacheEtSynchroniseDeuxFois).grandLivre enClair) ∧
    ((paiementRevu.fin rattacheEtSynchroniseDeuxFois).grandLivre enClair
      (Uuid.fromU128 1012, "t1")).map Ecriture.amountCents = some (-4200) :=
  ⟨grandLivre_raffine amorcee_amorcee (paiementRevu.execution _) fiable_enClair
    montants_etapesRevues (sansCollision_enClair _), by decide +kernel⟩

/-- That run has steps. -/
private theorem etapesRevues_ne_nil : etapesRevues ≠ [] := by
  intro hnil
  have hcalls := paiementRevu.calls_etapes rattacheEtSynchroniseDeuxFois
  rw [show paiementRevu.etapes rattacheEtSynchroniseDeuxFois = [] from hnil] at hcalls
  cases hcalls

/-- The second cycle sees the payment again, and writes nothing. -/
theorem rejeu_sans_effet_paiementRevu :
    ∃ passe c, etapesRevues = passe ++ [c] ∧ c.montrees ≠ [] ∧
      (paiementRevu.fin rattacheEtSynchroniseDeuxFois).grandLivre enClair =
        c.before.grandLivre enClair ∧
      ∀ k, c.call.comptees c.answer = some k → k.1 = 0 := by
  have hrun : Execution Scenario.collation Scenario.configuration amorcee etapesRevues
      (paiementRevu.fin rattacheEtSynchroniseDeuxFois) := paiementRevu.execution _
  have hsplit := (List.dropLast_append_getLast etapesRevues_ne_nil).symm
  have hefface : ∀ d ∈ etapesRevues, ¬ d.call.Efface := by
    rintro d hd ⟨owner, howner⟩
    have hcall := call_etapesRevues hd
    rw [howner] at hcall
    simp [rattacheEtSynchroniseDeuxFois, rattacheEtSynchronise] at hcall
  obtain ⟨hmontree, hvues⟩ : (etapesRevues.getLast etapesRevues_ne_nil).montrees ≠ [] ∧
      ∀ n ∈ (etapesRevues.getLast etapesRevues_ne_nil).montrees, ∃ d ∈ etapesRevues.dropLast,
        n ∈ d.montrees ∧ ¬ ∃ e ∈ d.trace, ¬ Evenement.Reussi e := by
    decide +kernel
  have hrejeu := rejeu_sans_effet amorcee_amorcee hrun fiable_enClair montants_etapesRevues
    (sansCollision_enClair _) hsplit hefface hvues
  exact ⟨_, _, hsplit, hmontree, hrejeu⟩

end Budgy
