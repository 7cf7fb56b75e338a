import Budgy.Interface.Traversal
import Budgy.Analysis.Footprint
import Budgy.Analysis.Scenarios

/-!
# The life of a stored transaction

The bank shows a transaction again and again, pending at first, then booked.  The row is
found by the key of the pair (account, external identifier): the first observation
inserts it, and one conditional upsert decides what the others change.  `Vie` says what
the observations of a pair leave in the database; one call extends it (`Vie.etape`), so a
run does (`execution_vie`).
-/

set_option autoImplicit false

namespace Budgy

open Effects Relational

/-! ## Observations -/

/-- The bank says that the transaction is booked. -/
def NouvelleTransactionBancaire.comptabilisee (n : NouvelleTransactionBancaire) : Bool :=
  n.status = .booked

/-- The observation is one of the pair. -/
def NouvelleTransactionBancaire.de (n : NouvelleTransactionBancaire) (compte : BankAccountId)
    (externe : String) : Bool :=
  n.bankAccount = compte && n.externalTransactionId = externe

/-- The observation of the pair that an operation has stored, or found stored already: an
operation that fails leaves no observation. -/
def Operation.observation? (compte : BankAccountId) (externe : String) :
    (o : Operation) → o.Reponse → Option NouvelleTransactionBancaire
  | .enregistrer n, .ok _ => if n.de compte externe then some n else none
  | _, _ => none

/-- The row that an operation says it has inserted for the pair. -/
def Operation.inseree? (compte : BankAccountId) (externe : String) :
    (o : Operation) → o.Reponse → Option TransactionBancaireId
  | .enregistrer n, .ok (.inseree id) => if n.de compte externe then some id else none
  | _, _ => none

section

variable {col : Collation} {cfg : Configuration}

/-- The observations of a pair in a run, in order. -/
def observations (compte : BankAccountId) (externe : String) (l : List (Etape col cfg)) :
    List NouvelleTransactionBancaire :=
  l.filterMap fun c => Operation.observation? compte externe c.call c.answer

/-- The rows that the answers of a run say were inserted for a pair. -/
def insertions (compte : BankAccountId) (externe : String) (l : List (Etape col cfg)) :
    List TransactionBancaireId :=
  l.filterMap fun c => Operation.inseree? compte externe c.call c.answer

end

/-- The operation stores no observation by itself, and erases nobody. -/
def Operation.Conserve (o : Operation) : Prop :=
  o ≠ .synchroniser ∧ ∀ owner, o ≠ .effacerDonneesProprietaire owner

/-! ## What a row keeps of the observations -/

/-- The row that stores the pair. -/
def BankTransactionRow.DeLaPaire (crypto : CryptoService) (compte : BankAccountId)
    (externe : String) (t : BankTransactionRow) : Prop :=
  t.bankAccountId = compte ∧ t.dedupKey = dedupKeyTransaction crypto compte externe

/-- What a row binds of the observation that inserted it: the ciphertexts are made for
`A`. -/
structure BankTransactionRow.Provient (crypto : CryptoService) (A : ProprietaireId)
    (n : NouvelleTransactionBancaire) (t : BankTransactionRow) : Prop where
  compte : t.bankAccountId = n.bankAccount
  dedup : t.dedupKey = dedupKeyTransaction crypto n.bankAccount n.externalTransactionId
  currency : t.currency = n.currency
  externe : ∃ nonce, chiffrerTexte crypto nonce A "bank_transaction" "external_transaction_id"
    n.externalTransactionId = .ok t.externalTransactionId
  label : ∃ nonce, chiffrerTexte crypto nonce A "bank_transaction" "label" n.label = .ok t.label
  montant : ∃ nonce, chiffrerMontant crypto nonce A "bank_transaction" "amount_cents"
    n.amountCents = .ok t.amountCents

/-- The columns that a later observation may rewrite are those of this one. -/
structure BankTransactionRow.Datee (n : NouvelleTransactionBancaire) (t : BankTransactionRow) :
    Prop where
  status : t.status = n.status
  bookingDate : t.bookingDate = n.bookingDate
  valueDate : t.valueDate = n.valueDate

/-- What the observations of a pair have left in the database, and which rows were said to
be inserted for it. -/
structure Store.Vie (crypto : CryptoService) (compte : BankAccountId) (externe : String)
    (obs : List NouvelleTransactionBancaire) (ids : List TransactionBancaireId) (s : Store) :
    Prop where
  absente : obs = [] → ids = [] ∧
    ∀ t ∈ s.bankTransaction, t.dedupKey ≠ dedupKeyTransaction crypto compte externe
  presente : ∀ premiere, obs.head? = some premiere → ∀ retenue,
    Traversal.decisive NouvelleTransactionBancaire.comptabilisee obs = some retenue →
      ∃ t ∈ s.bankTransaction, ids = [t.id] ∧
        t.dedupKey = dedupKeyTransaction crypto compte externe ∧ t.Datee retenue ∧
        ∃ A, s.proprietaireDuCompte compte = some A ∧ t.Provient crypto A premiere

/-! ## The statement of an observation -/

section Insertion

variable {crypto : CryptoService} {x : ChoixSql} {s s' : Store} {l : InsertionTransaction}
  {v : Option (Uuid × Bool)}

/-- What the upsert of an observation does: it inserts the row of a free key, rewrites a
pending row when the observation is booked, and leaves the row otherwise. -/
theorem insert_cases (h : (RequeteTransaction.insert l).effet x s = .ok (v, s')) :
    ((∀ t ∈ s.bankTransaction, t.dedupKey ≠ l.dedupKey) ∧ v = some (x.uuid, true) ∧
      ∃ rows, s.bankTransaction.insert (RequeteTransaction.ligneTransaction x l) = some rows ∧
        s' = { s with bankTransaction := rows }) ∨
    ∃ t ∈ s.bankTransaction, t.dedupKey = l.dedupKey ∧
      ((t.status = .pending ∧ l.status = .booked ∧ v = some (t.id, false) ∧
          s' = s.majTransaction (fun u => u.id = t.id) fun u =>
            { u with status := l.status, bookingDate := l.bookingDate,
                     valueDate := l.valueDate }) ∨
        (¬ (t.status = .pending ∧ l.status = .booked) ∧ v = none ∧ s' = s)) := by
  simp only [RequeteTransaction.effet] at h
  split at h
  · rename_i t hhead
    have hmem : t ∈ s.bankTransaction.select fun t => t.dedupKey = l.dedupKey :=
      List.mem_of_head? hhead
    obtain ⟨ht, hkey⟩ := Table.mem_select.1 hmem
    have hkey : t.dedupKey = l.dedupKey := by simpa using hkey
    refine .inr ⟨t, ht, hkey, ?_⟩
    split at h
    · rename_i hstatus
      obtain ⟨rfl, rfl⟩ := Prod.mk.inj (Except.ok.inj h)
      exact .inl ⟨hstatus.1, hstatus.2, rfl, rfl⟩
    · rename_i hstatus
      obtain ⟨rfl, rfl⟩ := lire_eq_ok.1 h
      exact .inr ⟨hstatus, rfl, rfl⟩
  · rename_i hhead
    obtain ⟨-, rows, hrows, rfl, rfl⟩ := by simpa using h
    refine .inl ⟨?_, rfl, rows, hrows, rfl⟩
    intro t ht hkey
    have hmem : t ∈ s.bankTransaction.select fun t => t.dedupKey = l.dedupKey :=
      Table.mem_select.2 ⟨ht, by simpa using hkey⟩
    rw [List.head?_eq_none_iff.1 hhead] at hmem
    exact List.not_mem_nil hmem

end Insertion

/-- The statement binds the observation `n`, encrypted for `A`. -/
structure InsertionTransaction.Releve (crypto : CryptoService) (A : ProprietaireId)
    (n : NouvelleTransactionBancaire) (l : InsertionTransaction) : Prop where
  compte : l.bankAccountId = n.bankAccount
  dedup : l.dedupKey = dedupKeyTransaction crypto n.bankAccount n.externalTransactionId
  status : l.status = n.status
  currency : l.currency = n.currency
  bookingDate : l.bookingDate = n.bookingDate
  valueDate : l.valueDate = n.valueDate
  externe : ∃ nonce, chiffrerTexte crypto nonce A "bank_transaction" "external_transaction_id"
    n.externalTransactionId = .ok l.externalTransactionId
  label : ∃ nonce, chiffrerTexte crypto nonce A "bank_transaction" "label" n.label = .ok l.label
  montant : ∃ nonce, chiffrerMontant crypto nonce A "bank_transaction" "amount_cents"
    n.amountCents = .ok l.amountCents

/-- What `insert` answers from the returned row. -/
def resultatInsertion : Option (Uuid × Bool) → ResultatInsertion TransactionBancaireId
  | some (id, true) => .inseree id
  | _ => .doublon

/-- The row an answer says was inserted. -/
def ResultatInsertion.ids : ResultatInsertion TransactionBancaireId → List TransactionBancaireId
  | .inseree id => [id]
  | .doublon => []

section Insertion

variable {crypto : CryptoService} {compte : BankAccountId} {externe : String}
  {obs : List NouvelleTransactionBancaire} {ids : List TransactionBancaireId}
  {n : NouvelleTransactionBancaire} {A : ProprietaireId} {x : ChoixSql} {s s' : Store}
  {l : InsertionTransaction} {v : Option (Uuid × Bool)}

/-- The row of the first observation. -/
private theorem vie_premiere (hobs : obs = []) (hids : ids = [])
    (hn : n.bankAccount = compte ∧ n.externalTransactionId = externe) (hl : l.Releve crypto A n)
    (hA : s.proprietaireDuCompte n.bankAccount = some A) {rows : Table BankTransactionRow.id}
    (hrows : s.bankTransaction.insert (RequeteTransaction.ligneTransaction x l) = some rows) :
    ({ s with bankTransaction := rows } : Store).Vie crypto compte externe (obs ++ [n])
      (ids ++ [x.uuid]) where
  absente h := absurd h (by simp)
  presente premiere hpremiere retenue hretenue := by
    subst hobs hids
    obtain rfl : n = premiere := by simpa using hpremiere
    obtain rfl : n = retenue :=
      Option.some.inj ((Traversal.decisive_append [] n).symm.trans hretenue)
    obtain ⟨rfl, rfl⟩ := hn
    have hmem : RequeteTransaction.ligneTransaction x l ∈ rows :=
      (Table.mem_of_insert hrows).2 (.inr rfl)
    exact ⟨_, hmem, rfl, hl.dedup, ⟨hl.status, hl.bookingDate, hl.valueDate⟩, A, hA,
      ⟨hl.compte, hl.dedup, hl.currency, hl.externe, hl.label, hl.montant⟩⟩

/-- One more observation of a pair that has a row: the row is kept, and is dated anew when
it was pending and the observation is booked. -/
private theorem vie_suivante (h : s.Vie crypto compte externe obs ids) (hi : s.Integre)
    {t : BankTransactionRow} (ht : t ∈ s.bankTransaction)
    (hkey : t.dedupKey = dedupKeyTransaction crypto compte externe) (hl : l.Releve crypto A n)
    (hcas : (t.status = .pending ∧ l.status = .booked ∧
        s' = s.majTransaction (fun u => u.id = t.id) fun u =>
          { u with status := l.status, bookingDate := l.bookingDate, valueDate := l.valueDate }) ∨
      (¬ (t.status = .pending ∧ l.status = .booked) ∧ s' = s)) :
    s'.Vie crypto compte externe (obs ++ [n]) ids where
  absente hnil := absurd hnil (by simp)
  presente premiere hpremiere retenue hretenue := by
    have hobs : obs ≠ [] := fun hnil => (h.absente hnil).2 t ht hkey
    obtain ⟨o, ancienne, ho, hancienne⟩ :=
      Traversal.exists_decisive (p := NouvelleTransactionBancaire.comptabilisee) hobs
    obtain rfl : o = premiere := by simpa [List.head?_append, ho] using hpremiere
    obtain ⟨u, hu, hids, hkey', hdatee, B, hB, hprovient⟩ := h.presente o ho ancienne hancienne
    obtain rfl := hi.transactionUnique u hu t ht (hkey'.trans hkey.symm)
    rw [Traversal.decisive_append, hancienne] at hretenue
    have hretenue := Option.some.inj hretenue
    simp only [NouvelleTransactionBancaire.comptabilisee, ← hdatee.status, ← hl.status,
      decide_eq_false_iff_not, decide_eq_true_eq] at hretenue
    rcases hcas with ⟨hpending, hbooked, rfl⟩ | ⟨hstatus, rfl⟩
    · rw [if_pos ⟨by simp [hpending], hbooked⟩] at hretenue
      subst hretenue
      refine ⟨_, Store.mem_majTransaction.2 ⟨u, hu, (if_pos (by simp)).symm⟩, hids, hkey', ?_, B, hB,
        ?_⟩
      · exact ⟨hl.status, hl.bookingDate, hl.valueDate⟩
      · exact ⟨hprovient.compte, hprovient.dedup, hprovient.currency, hprovient.externe,
          hprovient.label, hprovient.montant⟩
    · have hgarde : ¬ (¬ u.status = .booked ∧ l.status = .booked) := by
        rintro ⟨hnot, hbooked⟩
        cases hu : u.status with
        | pending => exact hstatus ⟨hu, hbooked⟩
        | booked => exact hnot hu
      rw [if_neg hgarde] at hretenue
      subst hretenue
      exact ⟨u, hu, hids, hkey', hdatee, B, hB, hprovient⟩

/-- One more observation of the pair. -/
theorem Store.Vie.insert (h : s.Vie crypto compte externe obs ids) (hi : s.Integre)
    (hn : n.bankAccount = compte ∧ n.externalTransactionId = externe) (hl : l.Releve crypto A n)
    (hA : s.proprietaireDuCompte n.bankAccount = some A)
    (heffet : (RequeteTransaction.insert l).effet x s = .ok (v, s')) :
    s'.Vie crypto compte externe (obs ++ [n]) (ids ++ (resultatInsertion v).ids) := by
  have hcle : l.dedupKey = dedupKeyTransaction crypto compte externe := by
    rw [hl.dedup, hn.1, hn.2]
  rcases insert_cases heffet with ⟨hlibre, rfl, rows, hrows, rfl⟩ | ⟨t, ht, hkey, hcas⟩
  · have hobs : obs = [] := by
      by_contra hne
      obtain ⟨o, ancienne, ho, hancienne⟩ :=
        Traversal.exists_decisive (p := NouvelleTransactionBancaire.comptabilisee) hne
      obtain ⟨u, hu, -, hkey, -⟩ := h.presente o ho ancienne hancienne
      exact hlibre u hu (hkey.trans hcle.symm)
    exact vie_premiere hobs (h.absente hobs).1 hn hl hA hrows
  · have hids : (resultatInsertion v).ids = [] := by
      rcases hcas with ⟨-, -, rfl, -⟩ | ⟨-, rfl, -⟩ <;> rfl
    rw [hids, List.append_nil]
    refine vie_suivante h hi ht (hkey.trans hcle) hl ?_
    rcases hcas with ⟨hpending, hbooked, -, rfl⟩ | ⟨hstatus, -, rfl⟩
    · exact .inl ⟨hpending, hbooked, rfl⟩
    · exact .inr ⟨hstatus, rfl⟩

end Insertion

/-! ## What the other requests leave -/

/-- The request neither deletes accounts, nor stores an observation under this key. -/
structure Op.Laisse (cle : String) (o : Op) : Prop where
  empreinte : ∀ id f, o ≠ .sql (.compte (.poserEmpreinte id f))
  comptes : ∀ owner, o ≠ .sql (.compte (.supprimerParProprietaire owner))
  consents : ∀ owner, o ≠ .sql (.consent (.supprimerParProprietaire owner))
  insertion : ∀ l, o = .sql (.transaction (.insert l)) → l.dedupKey ≠ cle

/-- What a row keeps of the observations, only an observation of its pair rewrites. -/
theorem BankTransactionRow.Devient.garde {s : Store} {r : Requete} {t₀ t : BankTransactionRow}
    (h : BankTransactionRow.Devient s t₀ r t)
    (hr : ∀ l, r = .transaction (.insert l) → l.dedupKey ≠ t₀.dedupKey) :
    (∀ n, t₀.Datee n → t.Datee n) ∧
      ∀ crypto A n, t₀.Provient crypto A n → t.Provient crypto A n := by
  cases h
  case observee l hdedup _ _ => exact absurd hdedup.symm (hr l rfl)
  all_goals
    exact ⟨fun n hn => ⟨hn.status, hn.bookingDate, hn.valueDate⟩,
      fun crypto A n hn => ⟨hn.compte, hn.dedup, hn.currency, hn.externe, hn.label, hn.montant⟩⟩

section Events

variable {col : Collation} {crypto : CryptoService} {compte : BankAccountId} {externe : String}
  {obs : List NouvelleTransactionBancaire} {ids : List TransactionBancaireId} {e : Evenement col}

/-- Who has an account does not change while no account is deleted. -/
theorem proprietaire_after {cle : String} (he : e.op.Laisse cle) {A : ProprietaireId}
    (hA : e.before.proprietaireDuCompte compte = some A) :
    e.after.proprietaireDuCompte compte = some A := by
  obtain ⟨a₀, ha₀, hid, howner⟩ := Store.proprietaireDuCompte_eq_some.1 hA
  obtain ⟨a, ha, hmeme⟩ := compte_reste he.empreinte ha₀ (he.comptes _) fun c _ _ => he.consents _
  exact Store.proprietaireDuCompte_eq_some.2
    ⟨a, ha, hmeme.id.trans hid, hmeme.ownerId.trans howner⟩

/-- A request that leaves the key leaves what the observations of the pair have left. -/
theorem Store.Vie.after (h : e.before.Vie crypto compte externe obs ids)
    (he : e.op.Laisse (dedupKeyTransaction crypto compte externe)) :
    e.after.Vie crypto compte externe obs ids where
  absente hobs := by
    obtain ⟨hids, hvide⟩ := h.absente hobs
    refine ⟨hids, ?_⟩
    intro t ht
    rcases transaction_after ht with ⟨t₀, ht₀, hmeme⟩ | ⟨l, x, hop, rfl, -⟩
    · rw [hmeme.dedupKey]
      exact hvide t₀ ht₀
    · exact he.insertion l hop
  presente premiere hpremiere retenue hretenue := by
    obtain ⟨t₀, ht₀, hids, hkey, hdatee, A, hA, hprovient⟩ :=
      h.presente premiere hpremiere retenue hretenue
    have hA' := proprietaire_after he hA
    rcases transaction_reste ht₀ he.comptes he.consents with hstays | ⟨r, hop, t, ht, hdevient⟩
    · exact ⟨t₀, hstays, hids, hkey, hdatee, A, hA', hprovient⟩
    · obtain ⟨hdatees, hproviennent⟩ := hdevient.garde fun l hr => by
        rw [hkey]
        exact he.insertion l (hr ▸ hop)
      exact ⟨t, ht, hdevient.meme.id ▸ hids, hdevient.meme.dedupKey.trans hkey,
        hdatees retenue hdatee, A, hA', hproviennent crypto A premiere hprovient⟩

end Events

/-! ## The storage of an observation -/

/-- What `insert` leaves: nothing when it fails, and the effect of one statement, which
binds the observation, when it answers. -/
def Depose {ε : Type} (crypto : CryptoService) (n : NouvelleTransactionBancaire) (s : Store) :
    Except ε (ResultatInsertion TransactionBancaireId) → Store → Prop
  | .error _, s' => s' = s
  | .ok resultat, s' => ∃ A l x v, s.proprietaireDuCompte n.bankAccount = some A ∧
      InsertionTransaction.Releve crypto A n l ∧
      (RequeteTransaction.insert l).effet x s = .ok (v, s') ∧ resultat = resultatInsertion v

/-- A request of the rules that follow an insertion: a read, or the rule applied. -/
def Op.Regle (o : Op) : Prop :=
  o.ecrit = [] ∨ ∃ category regle transaction owner,
    o = .sql (.transaction (.appliquerRegle category regle transaction owner))

/-- What every request of the rules keeps of `m`, `s` has. -/
def Reclassement (col : Collation) (m s : Store) : Prop :=
  ∀ I : Store → Prop, (∀ e : Evenement col, e.op.Regle → I e.before → I e.after) → I m → I s

/-- What `enregistrer` leaves: the rules follow the insertion of a row. -/
def Enregistre (col : Collation) (crypto : CryptoService) (n : NouvelleTransactionBancaire)
    (s : Store) :
    Except EcritureError (ResultatInsertion TransactionBancaireId) → Store → Prop
  | .error _, s' => s' = s
  | .ok resultat, s' => ∃ m, Depose crypto n s (.ok resultat : Except EcritureError _) m ∧
      Reclassement col m s' ∧ (resultat = .doublon → s' = m)

section Storage

variable {col : Collation} {crypto : CryptoService} {n : NouvelleTransactionBancaire} {s : Store}

/-- An encrypted text is the encryption of this text, under some nonce. -/
private theorem guarded_chiffrerTexteFrais {owner table field texte : String} :
    Guarded (machine col) (fun _ => True) (chiffrerTexteFrais crypto owner table field texte).run s
      (Trouve s fun blob => ∃ nonce, chiffrerTexte crypto nonce owner table field texte = .ok blob) := by
  refine Guarded.run_bind (R := fun _ s' => s' = s) (Guarded.run_ofProg ?_) ?_ ?_
  · exact guarded_perform.2 fun nonce => ⟨trivial, rfl⟩
  · rintro nonce s' rfl
    exact Trouve.run_ofExcept fun blob hblob => ⟨nonce, hblob⟩
  · rintro e s' rfl
    exact trouve_error

/-- An encrypted amount is the encryption of this amount, under some nonce. -/
private theorem guarded_chiffrerMontantFrais {owner table field : String} {montant : ℤ} :
    Guarded (machine col) (fun _ => True)
      (chiffrerMontantFrais crypto owner table field montant).run s
      (Trouve s fun blob =>
        ∃ nonce, chiffrerMontant crypto nonce owner table field montant = .ok blob) := by
  refine Guarded.run_bind (R := fun _ s' => s' = s) (Guarded.run_ofProg ?_) ?_ ?_
  · exact guarded_perform.2 fun nonce => ⟨trivial, rfl⟩
  · rintro nonce s' rfl
    exact Trouve.run_ofExcept fun blob hblob => ⟨nonce, hblob⟩
  · rintro e s' rfl
    exact trouve_error

/-- `insert` reads the owner, encrypts three columns and issues one statement. -/
theorem guarded_insert :
    Guarded (machine col) (fun _ => True) (BankTransactions.insert crypto n).run s
      (Depose crypto n s) := by
  refine Guarded.run_bind (guarded_ownerDuCompte fun _ _ => trivial) ?_ fun _ _ h => h.1
  rintro A s₁ ⟨rfl, hA⟩
  have hA := hA A rfl
  refine Guarded.run_bind guarded_chiffrerTexteFrais ?_ fun _ _ h => h.1
  rintro externe s₂ ⟨rfl, hexterne⟩
  refine Guarded.run_bind guarded_chiffrerTexteFrais ?_ fun _ _ h => h.1
  rintro label s₃ ⟨rfl, hlabel⟩
  refine Guarded.run_bind guarded_chiffrerMontantFrais ?_ fun _ _ h => h.1
  rintro montant s₄ ⟨rfl, hmontant⟩
  refine Guarded.run_bind (R := fun r s' => match r with
    | .error _ => s' = s₄
    | .ok v => Depose crypto n s₄ (.ok (resultatInsertion v) : Except ChiffrementError _) s')
    (Guarded.run_mapError (guarded_interroger (fun _ => trivial) (fun _ => rfl) ?_)) ?_
    fun _ _ h => h
  · intro x v s' heffet
    refine ⟨A, _, x, v, hA, ?_, heffet, rfl⟩
    exact ⟨rfl, rfl, rfl, rfl, rfl, rfl, hexterne externe rfl, hlabel label rfl,
      hmontant montant rfl⟩
  · rintro v s' hv
    rcases v with _ | ⟨id, _ | _⟩ <;> exact guarded_run_pure.2 hv

/-- The rules of the owner only classify. -/
private theorem guarded_regles {compte transaction : Uuid} {label : String} {m : Store} :
    Guarded (machine col) (fun _ => True)
      (BankTransactionsAdapter.categoriserTransactionInseree compte transaction label).run m
      fun _ s' => Reclassement col m s' := by
  have huses : (BankTransactionsAdapter.categoriserTransactionInseree compte transaction
      label).run.Uses Op.Regle :=
    uses_categoriserTransactionInseree (fun o ho => .inl ho.lecture)
      fun category regle owner => .inr ⟨category, regle, transaction, owner, rfl⟩
  intro t r s' hrun
  refine ⟨fun _ _ => trivial, ?_⟩
  intro I hI hm
  exact (Runs.preserves hrun hm fun e he => hI e (hrun.uses huses e he)).1

/-- Recording a transaction ends as the specification of the record says. -/
theorem guarded_enregistrer :
    Guarded (machine col) (fun _ => True) (BankTransactionsAdapter.enregistrer crypto n).run s
      (Enregistre col crypto n s) := by
  refine Guarded.run_bind (R := Depose crypto n s) (Guarded.run_mapError ?_) ?_ ?_
  · refine guarded_insert.mono ?_
    rintro (e | resultat) s' hdepose
    · exact hdepose
    · exact hdepose
  · rintro (id | _) m hdepose
    · refine Guarded.run_bind (R := fun r s' => Reclassement col m s' ∧ r.isOk = true)
        (Guarded.run_attempt (guarded_regles.mono fun _ _ h => ⟨h, rfl⟩)) ?_ ?_
      · rintro _ s' ⟨hregles, -⟩
        exact guarded_run_pure.2 ⟨m, hdepose, hregles, nofun⟩
      · rintro e s' ⟨-, hok⟩
        exact absurd hok (by simp [Except.isOk, Except.toBool])
    · exact guarded_run_pure.2 ⟨m, hdepose, fun I _ hm => hm, fun _ => rfl⟩
  · exact fun _ _ h => h

end Storage

/-! ## One operation -/

/-- Applying a rule leaves the booked data of every transaction. -/
theorem Op.Regle.laisse {o : Op} (h : o.Regle) (cle : String) : o.Laisse cle := by
  rcases h with hread | ⟨category, regle, transaction, owner, rfl⟩
  · constructor
    · rintro id f rfl
      simp at hread
    · rintro owner rfl
      simp at hread
    · rintro owner rfl
      simp at hread
    · rintro l rfl
      simp at hread
  · exact ⟨nofun, nofun, nofun, nofun⟩

section Calls

variable {col : Collation} {cfg : Configuration} {c : Etape col cfg} {compte : BankAccountId}
  {externe : String} {obs : List NouvelleTransactionBancaire} {ids : List TransactionBancaireId}
  {e : Evenement col}

/-- An operation that does not observe the pair leaves its key. -/
theorem Etape.laisse (hvalid : c.Valid) (hc : Operation.Conserve c.call) {cle : String}
    (hcle : ∀ n, c.call = .enregistrer n →
      dedupKeyTransaction cfg.crypto n.bankAccount n.externalTransactionId ≠ cle)
    (he : e ∈ c.trace) : e.op.Laisse cle where
  empreinte id f hop := (Etape.emet hvalid he hop (by simp)).sans_poser id f rfl
  comptes owner := (Etape.sans_suppression hvalid hc.2 he owner).1
  consents owner := (Etape.sans_suppression hvalid hc.2 he owner).2
  insertion l hop := by
    have hemet := Etape.emet hvalid he hop (by simp)
    obtain ⟨hcycle, -⟩ := hc
    generalize c.call = o at hemet hcycle hcle
    cases hemet with
    | cycle r hr => exact absurd rfl hcycle
    | inserer n _ hcompte hdedup => exact hdedup ▸ hcle n rfl

/-- An observation is a record of a transaction. -/
theorem Operation.call_of_observation? {o : Operation} {r : o.Reponse}
    {n : NouvelleTransactionBancaire} (h : o.observation? compte externe r = some n) :
    o = .enregistrer n := by
  cases o with
  | enregistrer n' =>
      rcases r with erreur | resultat
      · cases h
      · obtain ⟨-, rfl⟩ := by simpa [Operation.observation?] using h
        rfl
  | _ => cases h

/-- An observation of a pair is one of the pair. -/
private theorem Operation.de_of_observation? {o : Operation} {r : o.Reponse}
    {n : NouvelleTransactionBancaire} (h : o.observation? compte externe r = some n) :
    n.de compte externe = true := by
  cases o with
  | enregistrer n' =>
      rcases r with erreur | resultat
      · cases h
      · obtain ⟨hde, rfl⟩ := by simpa [Operation.observation?] using h
        exact hde
  | _ => cases h

/-- An operation on other transactions observes and inserts nothing of this one. -/
private theorem Operation.observation?_autre {o : Operation} {r : o.Reponse}
    (h : ∀ n, o = .enregistrer n → n.de compte externe = false) :
    o.observation? compte externe r = none ∧ o.inseree? compte externe r = none := by
  cases o with
  | enregistrer n =>
      have hn : n.de compte externe = false := h n rfl
      rcases r with _ | _ | _ <;> simp [Operation.observation?, Operation.inseree?, hn]
  | _ => exact ⟨rfl, rfl⟩

/-- One operation extends what the observations of a pair have left. -/
theorem Store.Vie.etape (h : Store.Vie cfg.crypto compte externe obs ids c.before)
    (hi : c.before.Integre) (hvalid : c.Valid) (hc : Operation.Conserve c.call)
    (hcollision : ∀ n, c.call = .enregistrer n → n.de compte externe = false →
      dedupKeyTransaction cfg.crypto n.bankAccount n.externalTransactionId ≠
        dedupKeyTransaction cfg.crypto compte externe) :
    Store.Vie cfg.crypto compte externe
      (obs ++ (Operation.observation? compte externe c.call c.answer).toList)
      (ids ++ (Operation.inseree? compte externe c.call c.answer).toList) c.after := by
  by_cases hpaire : ∃ n, c.call = .enregistrer n ∧ n.de compte externe = true
  · obtain ⟨n, hcall, hn⟩ := hpaire
    obtain ⟨call, s, trace, answer, s'⟩ := c
    obtain rfl : call = .enregistrer n := hcall
    have hspec : Enregistre col cfg.crypto n s answer s' := (guarded_enregistrer hvalid).2
    have hde : n.bankAccount = compte ∧ n.externalTransactionId = externe := by
      simpa [NouvelleTransactionBancaire.de] using hn
    rcases answer with erreur | resultat
    · obtain rfl : s' = s := hspec
      simpa [Operation.observation?, Operation.inseree?] using h
    · obtain ⟨m, ⟨A, l, x, v, hA, hl, heffet, rfl⟩, hregles, -⟩ := hspec
      have hm := h.insert hi hde hl hA heffet
      have hids : (Operation.inseree? compte externe (.enregistrer n)
          (.ok (resultatInsertion v))).toList = (resultatInsertion v).ids := by
        cases resultatInsertion v <;> simp [Operation.inseree?, hn, ResultatInsertion.ids]
      have hobs : (Operation.observation? compte externe (.enregistrer n)
          (.ok (resultatInsertion v))).toList = [n] := by
        simp [Operation.observation?, hn]
      show s'.Vie cfg.crypto compte externe _ _
      rw [hids, hobs]
      exact hregles _ (fun e he hbefore => hbefore.after (he.laisse _)) hm
  · have hautre : ∀ n, c.call = .enregistrer n → n.de compte externe = false := by
      intro n hcall
      by_contra hn
      exact hpaire ⟨n, hcall, by simpa using hn⟩
    obtain ⟨hobs, hids⟩ := Operation.observation?_autre (r := c.answer) hautre
    rw [hobs, hids]
    simp only [Option.toList_none, List.append_nil]
    refine (Runs.preserves (I := Store.Vie cfg.crypto compte externe obs ids) hvalid h ?_).1
    intro e he hbefore
    exact hbefore.after
      (Etape.laisse hvalid hc (fun n hcall => hcollision n hcall (hautre n hcall)) he)

end Calls

/-! ## Runs -/

section Runs

variable {col : Collation} {cfg : Configuration} {s₀ s : Store} {l : List (Etape col cfg)}
  {compte : BankAccountId} {externe : String}

/-- A fingerprint that tells the observations of a run apart from the pair tells their keys
apart. -/
private theorem cle_ne {n : NouvelleTransactionBancaire}
    (hcollision : cfg.crypto.SansCollision
      (insert (CryptoService.messageDedup compte.asBytes externe)
        {m | ∃ c ∈ l, m ∈ Operation.messages c.call}))
    {c : Etape col cfg} (hc : c ∈ l) (hcall : c.call = .enregistrer n)
    (hn : n.de compte externe = false) :
    dedupKeyTransaction cfg.crypto n.bankAccount n.externalTransactionId ≠
      dedupKeyTransaction cfg.crypto compte externe := by
  intro heq
  have hmessage : CryptoService.messageDedup n.bankAccount.asBytes n.externalTransactionId =
      CryptoService.messageDedup compte.asBytes externe :=
    hcollision _ (.inr ⟨c, hc, by rw [hcall]; rfl⟩) _ (.inl rfl) heq
  obtain ⟨hcompte, hexterne⟩ := CryptoService.messageDedup_uuid_inj hmessage
  simp [NouvelleTransactionBancaire.de, hcompte, hexterne] at hn

/-- What a list maps to, with one more element. -/
private theorem filterMap_concat {α β : Type} {f : α → Option β} {l : List α} {a : α} :
    (l ++ [a]).filterMap f = l.filterMap f ++ (f a).toList := by
  rw [List.filterMap_append]
  cases h : f a <;> simp [h]

/-- What the observations of a pair leave in the database, a run leaves. -/
theorem execution_vie (h₀ : s₀.Amorcee) (h : Execution col cfg s₀ l s)
    (hconserve : ∀ c ∈ l, Operation.Conserve c.call)
    (hcollision : cfg.crypto.SansCollision
      (insert (CryptoService.messageDedup compte.asBytes externe)
        {m | ∃ c ∈ l, m ∈ Operation.messages c.call})) :
    s.Integre ∧ s.Vie cfg.crypto compte externe (observations compte externe l)
      (insertions compte externe l) := by
  refine h.follows (J := fun past s => s.Integre ∧ s.Vie cfg.crypto compte externe
    (observations compte externe past) (insertions compte externe past)) ⟨h₀.integre, ?_⟩ ?_
  · refine ⟨fun _ => ⟨rfl, ?_⟩, nofun⟩
    intro t ht
    have ht : t ∈ s₀.bankTransaction.rows := ht
    rw [h₀.bankTransaction] at ht
    exact absurd ht List.not_mem_nil
  · rintro past c hc hvalid ⟨hi, hvie⟩
    refine ⟨(Runs.preserves hvalid hi fun e he hbefore => hbefore.after fun id f hop => ?_).1, ?_⟩
    · exact (Etape.emet hvalid he hop (by simp)).sans_poser id f rfl
    · have hnext := hvie.etape hi hvalid (hconserve c hc) fun n hcall hn =>
        cle_ne hcollision hc hcall hn
      rwa [observations, insertions, filterMap_concat, filterMap_concat]

/-- The observations of a transaction are about it. -/
theorem de_of_mem_observations {n : NouvelleTransactionBancaire}
    (hn : n ∈ observations compte externe l) :
    n.bankAccount = compte ∧ n.externalTransactionId = externe := by
  obtain ⟨c, -, hc⟩ := List.mem_filterMap.1 hn
  simpa [NouvelleTransactionBancaire.de] using Operation.de_of_observation? hc

/-- What is asked of the row of a pair, after the observations `obs` of the pair. -/
structure Store.Retient (crypto : CryptoService) (compte : BankAccountId) (externe : String)
    (obs : List NouvelleTransactionBancaire) (ids : List TransactionBancaireId) (s : Store) :
    Prop where
  absente : obs = [] → ∀ t ∈ s.bankTransaction, ¬ t.DeLaPaire crypto compte externe
  unique : obs ≠ [] → ∃! t, t ∈ s.bankTransaction ∧ t.DeLaPaire crypto compte externe
  status : ∀ t ∈ s.bankTransaction, t.DeLaPaire crypto compte externe →
    (t.status = .booked ↔ ∃ n ∈ obs, n.status = .booked)
  dates : ∀ t ∈ s.bankTransaction, t.DeLaPaire crypto compte externe → ∀ n,
    (obs.find? fun n => n.status = .booked).or obs.head? = some n →
      t.bookingDate = n.bookingDate ∧ t.valueDate = n.valueDate
  inseree : ∀ t ∈ s.bankTransaction, t.DeLaPaire crypto compte externe → ids = [t.id]

/-- The row of the pair is the one that `Vie` describes. -/
private theorem Store.Vie.ligne {crypto : CryptoService} {obs : List NouvelleTransactionBancaire}
    {ids : List TransactionBancaireId} (h : s.Vie crypto compte externe obs ids) (hi : s.Integre)
    {t : BankTransactionRow} (ht : t ∈ s.bankTransaction) (hde : t.DeLaPaire crypto compte externe)
    {premiere retenue : NouvelleTransactionBancaire} (hpremiere : obs.head? = some premiere)
    (hretenue : Traversal.decisive NouvelleTransactionBancaire.comptabilisee obs = some retenue) :
    ids = [t.id] ∧ t.Datee retenue ∧
      ∃ A, s.proprietaireDuCompte compte = some A ∧ t.Provient crypto A premiere := by
  obtain ⟨u, hu, hids, hkey, hdatee, hA⟩ := h.presente premiere hpremiere retenue hretenue
  obtain rfl := hi.transactionUnique u hu t ht (hkey.trans hde.2.symm)
  exact ⟨hids, hdatee, hA⟩

/-- What is asked of the row of a pair follows from what its observations have left. -/
theorem retient_of_vie {crypto : CryptoService} {obs : List NouvelleTransactionBancaire}
    {ids : List TransactionBancaireId} (hobs : ∀ n ∈ obs, n.bankAccount = compte)
    (h : s.Vie crypto compte externe obs ids) (hi : s.Integre) :
    s.Retient crypto compte externe obs ids := by
  by_cases hnil : obs = []
  · obtain ⟨hids, hvide⟩ := h.absente hnil
    have hnone : ∀ t ∈ s.bankTransaction, ¬ t.DeLaPaire crypto compte externe :=
      fun t ht hde => hvide t ht hde.2
    exact
      { absente := fun _ => hnone
        unique := fun hne => absurd hnil hne
        status := fun t ht hde => absurd hde (hnone t ht)
        dates := fun t ht hde => absurd hde (hnone t ht)
        inseree := fun t ht hde => absurd hde (hnone t ht) }
  · obtain ⟨premiere, retenue, hpremiere, hretenue⟩ :=
      Traversal.exists_decisive (p := NouvelleTransactionBancaire.comptabilisee) hnil
    have hligne := fun t ht hde => h.ligne hi (t := t) ht hde hpremiere hretenue
    obtain ⟨u, hu, -, hkey, -, A, -, hprovient⟩ := h.presente premiere hpremiere retenue hretenue
    have hcompte : u.bankAccountId = compte :=
      hprovient.compte.trans (hobs premiere (List.mem_of_head? hpremiere))
    refine
      { absente := fun heq => absurd heq hnil
        unique := fun _ => ⟨u, ⟨hu, hcompte, hkey⟩, ?_⟩
        status := fun t ht hde => ?_
        dates := fun t ht hde n hn => ?_
        inseree := fun t ht hde => (hligne t ht hde).1 }
    · rintro t ⟨ht, hde⟩
      exact hi.transactionUnique t ht u hu (hde.2.trans hkey.symm)
    · obtain ⟨-, hdatee, -⟩ := hligne t ht hde
      rw [hdatee.status]
      simpa [NouvelleTransactionBancaire.comptabilisee] using Traversal.decisive_iff hretenue
    · obtain ⟨-, hdatee, -⟩ := hligne t ht hde
      obtain rfl : retenue = n := Option.some.inj (hretenue.symm.trans hn)
      exact ⟨hdatee.bookingDate, hdatee.valueDate⟩

/-- An observation of a pair that has a row rewrites its status and dates at most. -/
private theorem reobservee {c : Etape col cfg} (hvalid : c.Valid) (hi : c.before.Integre)
    {n : NouvelleTransactionBancaire} (hcall : c.call = .enregistrer n)
    (hn : n.de compte externe = true) {t : BankTransactionRow} (ht : t ∈ c.before.bankTransaction)
    (hde : t.DeLaPaire cfg.crypto compte externe) :
    ∃ t' ∈ c.after.bankTransaction, t' = { t with
      status := t'.status, bookingDate := t'.bookingDate, valueDate := t'.valueDate } := by
  obtain ⟨call, s, trace, answer, s'⟩ := c
  obtain rfl : call = .enregistrer n := hcall
  have hspec : Enregistre col cfg.crypto n s answer s' := (guarded_enregistrer hvalid).2
  obtain ⟨rfl, rfl⟩ : n.bankAccount = compte ∧ n.externalTransactionId = externe := by
    simpa [NouvelleTransactionBancaire.de] using hn
  rcases answer with erreur | resultat
  · obtain rfl : s' = s := hspec
    exact ⟨t, ht, rfl⟩
  · obtain ⟨m, ⟨A, l, x, v, -, hl, heffet, rfl⟩, -, hdoublon⟩ := hspec
    have hkey : t.dedupKey = l.dedupKey := hde.2.trans hl.dedup.symm
    rcases insert_cases heffet with ⟨hlibre, -⟩ | ⟨u, hu, hkey', hcas⟩
    · exact absurd hkey (hlibre t ht)
    obtain rfl := hi.transactionUnique u hu t ht (hkey'.trans hkey.symm)
    rcases hcas with ⟨-, -, rfl, rfl⟩ | ⟨-, rfl, rfl⟩
    · obtain rfl := hdoublon rfl
      refine ⟨_, Store.mem_majTransaction.2 ⟨u, hu, (if_pos (by simp)).symm⟩, rfl⟩
    · obtain rfl := hdoublon rfl
      exact ⟨u, hu, rfl⟩

/-- A transaction that is booked stays booked. -/
private theorem booked_after {e : Evenement col} {t : BankTransactionRow}
    (he : ∀ owner, e.op ≠ .sql (.compte (.supprimerParProprietaire owner)) ∧
      e.op ≠ .sql (.consent (.supprimerParProprietaire owner)))
    (ht : t ∈ e.before.bankTransaction) (hbooked : t.status = .booked) :
    ∃ t' ∈ e.after.bankTransaction, t'.id = t.id ∧ t'.status = .booked := by
  rcases transaction_reste ht (fun owner => (he owner).1) (fun owner => (he owner).2) with
    hstays | ⟨r, -, t', ht', hdevient⟩
  · exact ⟨t, hstays, rfl, hbooked⟩
  · refine ⟨t', ht', hdevient.meme.id, ?_⟩
    cases hdevient
    case observee l _ hpending _ => exact nomatch hpending.symm.trans hbooked
    all_goals exact hbooked

/-- The life of a stored transaction.  Whatever the observations of a pair, in whatever
order and among whatever other operations, there is one row as soon as there is one
observation; it is booked exactly when one of them is, and dated by the first that is, or
by the first of all; its insertion is answered once.  No request makes a booked row
pending again, and an observation of a pair that has a row leaves its other columns. -/
theorem vie_transaction (h₀ : s₀.Amorcee) (h : Execution col cfg s₀ l s)
    (hconserve : ∀ c ∈ l, Operation.Conserve c.call) (compte : BankAccountId) (externe : String)
    (hcollision : cfg.crypto.SansCollision
      (insert (CryptoService.messageDedup compte.asBytes externe)
        {m | ∃ c ∈ l, m ∈ Operation.messages c.call})) :
    s.Retient cfg.crypto compte externe (observations compte externe l)
        (insertions compte externe l) ∧
      (∀ c ∈ l, ∀ e ∈ c.trace, ∀ t ∈ e.before.bankTransaction, t.status = .booked →
        ∃ t' ∈ e.after.bankTransaction, t'.id = t.id ∧ t'.status = .booked) ∧
      ∀ c ∈ l, ∀ n, c.call = .enregistrer n → n.de compte externe = true →
        ∀ t ∈ c.before.bankTransaction, t.DeLaPaire cfg.crypto compte externe →
          ∃ t' ∈ c.after.bankTransaction, t' = { t with
            status := t'.status, bookingDate := t'.bookingDate, valueDate := t'.valueDate } := by
  obtain ⟨hi, hvie⟩ := execution_vie h₀ h hconserve hcollision
  refine ⟨retient_of_vie (fun n hn => (de_of_mem_observations hn).1) hvie hi, ?_, ?_⟩
  · intro c hc e he t ht hbooked
    exact booked_after (Etape.sans_suppression (h.valid c hc) (hconserve c hc).2 he) ht hbooked
  · intro c hc n hcall hn t ht hde
    have hintegre := (h.preserves (I := Store.Integre) h₀.integre fun c hc hvalid hbefore =>
      (Runs.preserves hvalid hbefore fun e he hbefore => hbefore.after fun id f hop =>
        (Etape.emet hvalid he hop (by simp)).sans_poser id f rfl).1).2
    exact reobservee (h.valid c hc) (hintegre c hc).1 hcall hn ht hde

/-! ## What is read of the row -/

/-- The transaction of the pair is read with the label, the amount and the currency of the
observation. -/
def Store.Montre (crypto : CryptoService) (compte : BankAccountId) (externe : String)
    (n : NouvelleTransactionBancaire) (s : Store) : Prop :=
  ∃ t ∈ s.bankTransaction, t.DeLaPaire crypto compte externe ∧
    ∃ A lue, s.proprietaireDuCompte compte = some A ∧
      BankTransactions.intoTransaction crypto ⟨t, A⟩ = .ok lue ∧ lue.label = n.label ∧
      lue.amountCents = n.amountCents ∧ lue.currency = n.currency

/-- A row is read with what it binds of the observation that inserted it. -/
theorem intoTransaction_provient {crypto : CryptoService} (hfiable : crypto.Fiable)
    {A : ProprietaireId} {n : NouvelleTransactionBancaire} {t : BankTransactionRow}
    (h : t.Provient crypto A n) (hmontant : EstI64 n.amountCents) :
    ∃ lue, BankTransactions.intoTransaction crypto ⟨t, A⟩ = .ok lue ∧
      lue.externalTransactionId = n.externalTransactionId ∧ lue.label = n.label ∧
      lue.amountCents = n.amountCents ∧ lue.currency = n.currency := by
  obtain ⟨nonce₁, hexterne⟩ := h.externe
  obtain ⟨nonce₂, hlabel⟩ := h.label
  obtain ⟨nonce₃, hamount⟩ := h.montant
  unfold BankTransactions.intoTransaction
  simp only [dechiffrerTexte_chiffrerTexte hfiable hexterne,
    dechiffrerTexte_chiffrerTexte hfiable hlabel,
    dechiffrerMontant_chiffrerMontant hfiable hmontant hamount]
  exact ⟨_, rfl, rfl, rfl, rfl, h.currency⟩

/-- The transaction of a pair is read with the label, the amount and the currency of its
first observation. -/
private theorem montre_iff {crypto : CryptoService} (hfiable : crypto.Fiable)
    {obs : List NouvelleTransactionBancaire} {ids : List TransactionBancaireId}
    (h : s.Vie crypto compte externe obs ids) (hi : s.Integre)
    (hobs : ∀ n ∈ obs, n.bankAccount = compte ∧ EstI64 n.amountCents)
    {premiere n : NouvelleTransactionBancaire} (hpremiere : obs.head? = some premiere) :
    s.Montre crypto compte externe n ↔
      premiere.label = n.label ∧ premiere.amountCents = n.amountCents ∧
        premiere.currency = n.currency := by
  have hnil : obs ≠ [] := by
    rintro rfl
    cases hpremiere
  obtain ⟨_, retenue, -, hretenue⟩ :=
    Traversal.exists_decisive (p := NouvelleTransactionBancaire.comptabilisee) hnil
  obtain ⟨hcompte, hmontant⟩ := hobs premiere (List.mem_of_head? hpremiere)
  obtain ⟨u, hu, -, hkey, -, A, hA, hprovient⟩ := h.presente premiere hpremiere retenue hretenue
  obtain ⟨lue, hlue, -, hlabel, hamount, hcurrency⟩ :=
    intoTransaction_provient hfiable hprovient hmontant
  constructor
  · rintro ⟨t, ht, hde, B, lue', hB, hlue', hlabel', hamount', hcurrency'⟩
    obtain rfl := hi.transactionUnique t ht u hu (hde.2.trans hkey.symm)
    obtain rfl : A = B := Option.some.inj (hA.symm.trans hB)
    obtain rfl : lue = lue' := Except.ok.inj (hlue.symm.trans hlue')
    exact ⟨hlabel.symm.trans hlabel', hamount.symm.trans hamount', hcurrency.symm.trans hcurrency'⟩
  · rintro ⟨hl, ha, hc⟩
    exact ⟨u, hu, ⟨hprovient.compte.trans hcompte, hkey⟩, A, lue, hA, hlue, hlabel.trans hl,
      hamount.trans ha, hcurrency.trans hc⟩

/-- The observations of a run are within the amounts it was given. -/
private theorem observations_i64
    (hmontants : ∀ c ∈ l, ∀ n, c.call = .enregistrer n → EstI64 n.amountCents) :
    ∀ n ∈ observations compte externe l, n.bankAccount = compte ∧ EstI64 n.amountCents := by
  intro n hn
  refine ⟨(de_of_mem_observations hn).1, ?_⟩
  obtain ⟨c, hc, hobs⟩ := List.mem_filterMap.1 hn
  exact hmontants c hc n (Operation.call_of_observation? hobs)

/-- The upsert of an observation rewrites the status and the dates of a pending row, not
its label, amount and currency: a transaction that became booked is read with those of its
booked observation exactly when the first observation had them already. -/
theorem montre_comptabilisee_iff (h₀ : s₀.Amorcee) (h : Execution col cfg s₀ l s)
    (hconserve : ∀ c ∈ l, Operation.Conserve c.call) (hfiable : cfg.crypto.Fiable)
    (hmontants : ∀ c ∈ l, ∀ n, c.call = .enregistrer n → EstI64 n.amountCents)
    (compte : BankAccountId) (externe : String)
    (hcollision : cfg.crypto.SansCollision
      (insert (CryptoService.messageDedup compte.asBytes externe)
        {m | ∃ c ∈ l, m ∈ Operation.messages c.call}))
    (premiere comptabilisee : NouvelleTransactionBancaire)
    (hpremiere : (observations compte externe l).head? = some premiere)
    (_hcomptabilisee : (observations compte externe l).find? (fun n => n.status = .booked) =
      some comptabilisee) :
    s.Montre cfg.crypto compte externe comptabilisee ↔
      premiere.label = comptabilisee.label ∧ premiere.amountCents = comptabilisee.amountCents ∧
        premiere.currency = comptabilisee.currency := by
  obtain ⟨hi, hvie⟩ := execution_vie h₀ h hconserve hcollision
  exact montre_iff hfiable hvie hi (observations_i64 hmontants) hpremiere

end Runs

/-! ## A purchase on hold, then booked -/

/-- A purchase as the bank shows it: for the amount on hold, then for the amount charged. -/
def achat (status : TransactionStatus) (montant : ℤ) (jour : Option NaiveDate) :
    NouvelleTransactionBancaire :=
  { bankAccount := Uuid.fromU128 1012, externalTransactionId := "T1", status, label := "CARTE ACHAT",
    amountCents := montant, currency := "EUR", bookingDate := jour, valueDate := jour }

/-- The purchase is on hold, classified by hand, and booked for another amount; it is seen on
hold once more, and another one comes in between. -/
def achatEnAttente : List Operation :=
  [.createConsent "alice" "banque", .completeConsent "alice" reponseBanque,
    .createCategory "alice" ⟨"Sport", "depense", none, none⟩,
    .enregistrer (achat .pending (-5000) none),
    .categorizeTransaction "alice" (Uuid.fromU128 1012) (Uuid.fromU128 1019) (Uuid.fromU128 1014),
    .enregistrer (achat .booked (-4590) (some (Gregorian.Date.ofDays 20000))),
    .enregistrer { achat .booked (-1200) none with externalTransactionId := "T2" },
    .enregistrer (achat .pending (-5000) none)]

/-- No operation of the scenario erases anything. -/
private theorem conserve_achatEnAttente :
    ∀ c ∈ Scenario.unCompte.etapes achatEnAttente, Operation.Conserve c.call := by
  have hall : ∀ o ∈ achatEnAttente, Operation.Conserve o := by
    simp [achatEnAttente, Operation.Conserve]
  intro c hc
  exact hall c.call (Scenario.unCompte.calls_etapes achatEnAttente ▸ List.mem_map_of_mem hc)

/-- The observations of the scenario: pending, booked with another amount, pending again. -/
private theorem observations_achatEnAttente :
    observations (Uuid.fromU128 1012) "T1" (Scenario.unCompte.etapes achatEnAttente) =
      [achat .pending (-5000) none,
        achat .booked (-4590) (some (Gregorian.Date.ofDays 20000)),
        achat .pending (-5000) none] := by
  decide +kernel

/-- The row retains the booked amount and date of the second observation. -/
theorem vie_transaction_achatEnAttente :
    (Scenario.unCompte.fin achatEnAttente).Retient enClair (Uuid.fromU128 1012) "T1"
      [achat .pending (-5000) none, achat .booked (-4590) (some (Gregorian.Date.ofDays 20000)),
        achat .pending (-5000) none]
      (insertions (Uuid.fromU128 1012) "T1" (Scenario.unCompte.etapes achatEnAttente)) := by
  rw [← observations_achatEnAttente]
  exact (vie_transaction amorcee_amorcee (Scenario.unCompte.execution achatEnAttente)
    conserve_achatEnAttente _ _ (sansCollision_enClair _)).1

/-- The amounts of the scenario fit 64 bits. -/
private theorem montants_achatEnAttente :
    ∀ c ∈ Scenario.unCompte.etapes achatEnAttente, ∀ n, c.call = .enregistrer n →
      EstI64 n.amountCents := by
  have hall : ∀ o ∈ achatEnAttente, ∀ n, o = .enregistrer n → EstI64 n.amountCents := by
    simp [achatEnAttente, achat, EstI64, i64Min, i64Max]
  intro c hc n hcall
  exact hall c.call (Scenario.unCompte.calls_etapes achatEnAttente ▸ List.mem_map_of_mem hc) n hcall

/-- The amount on hold is what is read of the purchase once it is booked. -/
theorem montre_comptabilisee_achatEnAttente :
    (Scenario.unCompte.fin achatEnAttente).Montre enClair (Uuid.fromU128 1012) "T1"
        (achat .booked (-4590) (some (Gregorian.Date.ofDays 20000))) ↔
      "CARTE ACHAT" = "CARTE ACHAT" ∧ (-5000 : ℤ) = -4590 ∧ "EUR" = "EUR" :=
  montre_comptabilisee_iff amorcee_amorcee (Scenario.unCompte.execution achatEnAttente)
    conserve_achatEnAttente fiable_enClair montants_achatEnAttente _ _ (sansCollision_enClair _)
    (achat .pending (-5000) none) (achat .booked (-4590) (some (Gregorian.Date.ofDays 20000)))
    (by rw [observations_achatEnAttente]; rfl) (by rw [observations_achatEnAttente]; rfl)

/-- The row is booked, but not with the amount that was charged. -/
theorem not_montre_achatEnAttente :
    (observations (Uuid.fromU128 1012) "T1" (Scenario.unCompte.etapes achatEnAttente)).find?
        (fun n => n.status = .booked) =
      some (achat .booked (-4590) (some (Gregorian.Date.ofDays 20000))) ∧
    ¬ (Scenario.unCompte.fin achatEnAttente).Montre enClair (Uuid.fromU128 1012) "T1"
        (achat .booked (-4590) (some (Gregorian.Date.ofDays 20000))) := by
  have hexecution := Scenario.unCompte.execution achatEnAttente
  obtain ⟨hi, hvie⟩ := @execution_vie _ _ _ _ _ (Uuid.fromU128 1012) "T1"
    amorcee_amorcee hexecution conserve_achatEnAttente (sansCollision_enClair _)
  refine ⟨by rw [observations_achatEnAttente]; rfl, ?_⟩
  have hpremiere : (observations (Uuid.fromU128 1012) "T1"
      (Scenario.unCompte.etapes achatEnAttente)).head? = some (achat .pending (-5000) none) := by
    rw [observations_achatEnAttente]
    rfl
  rw [montre_iff fiable_enClair hvie hi (observations_i64 montants_achatEnAttente) hpremiere]
  rintro ⟨-, hmontant, -⟩
  exact absurd hmontant (by decide)

end Budgy
