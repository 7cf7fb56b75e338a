import Budgy.Analysis.Statements

/-!
# How rows evolve

A request that changes the database is a statement that took effect (`after_cases`).
For the tables that identify something outside the program, one lemma says where the
rows come from: a row was there before, under the same identity, or was just inserted.
A second one says which deletions take a row away.
-/

set_option autoImplicit false

namespace Budgy

open Effects Relational

/-- The columns of a consent that no statement rewrites. -/
structure ConsentRow.Meme (c c₀ : ConsentRow) : Prop where
  id : c.id = c₀.id
  ownerId : c.ownerId = c₀.ownerId

/-- The columns of an account that the service never rewrites. -/
structure BankAccountRow.Meme (a a₀ : BankAccountRow) : Prop where
  id : a.id = a₀.id
  ownerId : a.ownerId = a₀.ownerId
  consentId : a.consentId = a₀.consentId
  externalAccountId : a.externalAccountId = a₀.externalAccountId
  dedupKey : a.dedupKey = a₀.dedupKey
  empreinteCompte : a.empreinteCompte = a₀.empreinteCompte

/-- The columns of a transaction that no statement rewrites. -/
structure BankTransactionRow.Meme (t t₀ : BankTransactionRow) : Prop where
  id : t.id = t₀.id
  bankAccountId : t.bankAccountId = t₀.bankAccountId
  externalTransactionId : t.externalTransactionId = t₀.externalTransactionId
  dedupKey : t.dedupKey = t₀.dedupKey

/-- A consent row is itself. -/
theorem ConsentRow.Meme.rfl {c : ConsentRow} : c.Meme c := ⟨Eq.refl _, Eq.refl _⟩

/-- A consent row that is another, which is a third. -/
theorem ConsentRow.Meme.trans {c c₁ c₀ : ConsentRow} (h : c.Meme c₁) (h' : c₁.Meme c₀) :
    c.Meme c₀ :=
  ⟨h.id.trans h'.id, h.ownerId.trans h'.ownerId⟩

/-- An account row is itself. -/
theorem BankAccountRow.Meme.rfl {a : BankAccountRow} : a.Meme a :=
  ⟨Eq.refl _, Eq.refl _, Eq.refl _, Eq.refl _, Eq.refl _, Eq.refl _⟩

/-- A transaction row is itself. -/
theorem BankTransactionRow.Meme.rfl {t : BankTransactionRow} : t.Meme t :=
  ⟨Eq.refl _, Eq.refl _, Eq.refl _, Eq.refl _⟩

/-- What a statement makes of a consent that it does not delete. -/
inductive ConsentRow.Devient (c : ConsentRow) : Requete → ConsentRow → Prop where
  | intact (r : Requete) : Devient c r c
  | misAJour (status : ConsentStatus) (blob : List UInt8) (expiresAt : Option DateTime)
      (updatedAt : DateTime) :
      Devient c (.consent (.mettreAJour status blob expiresAt c.id c.ownerId))
        { c with status, externalRef := blob, expiresAt, updatedAt }
  | marque (status : ConsentStatus) (updatedAt : DateTime) :
      Devient c (.consent (.marquerStatutProprietaire status c.id c.ownerId))
        { c with status, updatedAt }
  | marqueParCycle (status : ConsentStatus) (updatedAt : DateTime) :
      Devient c (.consent (.marquerStatutConsent c.id status)) { c with status, updatedAt }

/-- What a consent row becomes is the same consent. -/
theorem ConsentRow.Devient.meme {c₀ c : ConsentRow} {r : Requete} (h : c₀.Devient r c) :
    c.Meme c₀ := by
  cases h <;> exact ⟨rfl, rfl⟩

/-- The consent that a statement inserts. -/
def ConsentRow.Inseree (c : ConsentRow) (r : Requete) : Prop :=
  ∃ etablissement expiresAt,
    r = .consent (.insertInitie c.id c.ownerId c.externalRef etablissement c.status expiresAt)

/-- What an insertion of an account requires: its key is free within its consent,
which exists. -/
structure InsertionCompte.Admissible (l : InsertionCompte) (s : Store) : Prop where
  libre : ∀ a ∈ s.bankAccount, a.consentId = l.consentId → a.dedupKey ≠ l.dedupKey
  consent : ∃ c ∈ s.consent, c.id = l.consentId

/-- What an insertion of a transaction requires: its key is free, its account exists. -/
structure InsertionTransaction.Admissible (l : InsertionTransaction) (s : Store) : Prop where
  libre : ∀ t ∈ s.bankTransaction, t.dedupKey ≠ l.dedupKey
  compte : ∃ a ∈ s.bankAccount, a.id = l.bankAccountId

/-- What a statement gives to the transactions of an owner it reaches: a category, and
the rule that put them there. -/
def Requete.attribue :
    Requete → Option (ProprietaireId × CategoryId × Option RegleCategorisationId)
  | .transaction (.categoriser category _ _ owner)
  | .transaction (.appliquerCategorieDefautParLot category _ owner) =>
      some (owner, category, none)
  | .transaction (.appliquerRegle category regle _ owner)
  | .transaction (.appliquerRegleParLot category regle _ owner) =>
      some (owner, category, some regle)
  | _ => none

/-- The classification of a transaction that a statement found as `t₀` in `s`: it is
kept, emptied, or given by the statement to an owner of the transaction. -/
structure BankTransactionRow.Classee (s : Store) (r : Requete) (t₀ t : BankTransactionRow) :
    Prop where
  categorie : t.categoryId = t₀.categoryId ∧ t.ruleId = t₀.ruleId ∨
    t.categoryId = none ∧ t.ruleId = none ∨
    ∃ owner category regle, r.attribue = some (owner, category, regle) ∧
      s.txDe owner t₀ = true ∧ (∃ c ∈ s.category, c.id = category) ∧
      t.categoryId = some category ∧ t.ruleId = regle
  enveloppe : t.enveloppeId = t₀.enveloppeId ∨ t.enveloppeId = none ∨
    ∃ transaction owner e, r = .classement (.affecterTransaction transaction owner (some e)) ∧
      s.txDe owner t₀ = true ∧ (∃ env ∈ s.enveloppe, env.id = e ∧ env.proprietaire = owner) ∧
      t.enveloppeId = some e

/-- What a statement makes of a transaction that it does not delete. -/
inductive BankTransactionRow.Devient (s : Store) (t : BankTransactionRow) :
    Requete → BankTransactionRow → Prop where
  | intacte (r : Requete) : Devient s t r t
  | observee (l : InsertionTransaction) (hdedup : t.dedupKey = l.dedupKey)
      (hpending : t.status = .pending) (hbooked : l.status = .booked) :
      Devient s t (.transaction (.insert l))
        { t with status := l.status, bookingDate := l.bookingDate, valueDate := l.valueDate }
  | categorisee (category transaction compte : Uuid) (owner : ProprietaireId)
      (howner : s.txDe owner t = true) (hid : t.id = transaction)
      (hcategory : ∃ c ∈ s.category, c.id = category) :
      Devient s t (.transaction (.categoriser category transaction compte owner))
        { t with categoryId := some category, categorizationSource := .manual, ruleId := none,
                 isInternalTransfer := category = categorieVirementsInternes }
  | regle (category regle transaction : Uuid) (owner : ProprietaireId)
      (howner : s.txDe owner t = true) (hid : t.id = transaction)
      (hsource : t.categorizationSource ≠ .manual)
      (hcategory : ∃ c ∈ s.category, c.id = category) :
      Devient s t (.transaction (.appliquerRegle category regle transaction owner))
        { t with categoryId := some category, categorizationSource := .rule, ruleId := some regle }
  | regleParLot (category regle : Uuid) (ids : List Uuid) (owner : ProprietaireId)
      (howner : s.txDe owner t = true) (hid : t.id ∈ ids)
      (hsource : t.categorizationSource = .none)
      (hcategory : ∃ c ∈ s.category, c.id = category) :
      Devient s t (.transaction (.appliquerRegleParLot category regle ids owner))
        { t with categoryId := some category, categorizationSource := .rule, ruleId := some regle }
  | defaut (category : Uuid) (ids : List Uuid) (owner : ProprietaireId)
      (howner : s.txDe owner t = true) (hid : t.id ∈ ids)
      (hsource : t.categorizationSource = .none)
      (hcategory : ∃ c ∈ s.category, c.id = category) :
      Devient s t (.transaction (.appliquerCategorieDefautParLot category ids owner))
        { t with categoryId := some category, categorizationSource := .rule, ruleId := none }
  | reinitialisee (owner : ProprietaireId) (howner : s.txDe owner t = true)
      (hflag : t.isInternalTransfer = true)
      (hcategory : t.categoryId ≠ some categorieVirementsInternes) :
      Devient s t (.transaction (.reinitialiserTransfertsInternes owner))
        { t with isInternalTransfer := false }
  | marqueeManuelle (owner : ProprietaireId) (ids : List Uuid) (howner : s.txDe owner t = true)
      (hid : t.id ∈ ids) (hflag : t.isInternalTransfer = false)
      (hsource : t.categorizationSource = .manual) :
      Devient s t (.transaction (.marquerTransfertsInternes owner ids))
        { t with isInternalTransfer := true }
  | marquee (owner : ProprietaireId) (ids : List Uuid) (howner : s.txDe owner t = true)
      (hid : t.id ∈ ids) (hflag : t.isInternalTransfer = false)
      (hsource : t.categorizationSource ≠ .manual) :
      Devient s t (.transaction (.marquerTransfertsInternes owner ids))
        { t with isInternalTransfer := true, categoryId := none, ruleId := none,
                 categorizationSource := .none }
  | recurrente (r : RequeteTransaction) (recurrent : Bool)
      (interval : Option RecurrenceInterval) :
      Devient s t (.transaction r)
        { t with isRecurrent := recurrent, recurrenceInterval := interval }
  | sansCategorie (id : Uuid) (owner : ProprietaireId)
      (hdelete : ∃ c ∈ s.category, c.id = id ∧ c.ownerId = some owner)
      (hcategory : t.categoryId = some id) :
      Devient s t (.classement (.supprimerCategorie id owner))
        { t with categorizationSource := .none, ruleId := none, categoryId := none }
  | sansEnveloppe (r : RequeteClassement) : Devient s t (.classement r) { t with enveloppeId := none }
  | affectee (transaction : Uuid) (owner : ProprietaireId) (enveloppe : Uuid)
      (howner : s.txDe owner t = true) (hid : t.id = transaction)
      (henveloppe : ∃ e ∈ s.enveloppe, e.id = enveloppe ∧ e.proprietaire = owner) :
      Devient s t (.classement (.affecterTransaction transaction owner (some enveloppe)))
        { t with enveloppeId := some enveloppe }

namespace BankTransactionRow.Devient

variable {s : Store} {r : Requete} {t₀ t : BankTransactionRow}

/-- What a transaction row becomes is the same transaction. -/
theorem meme (h : BankTransactionRow.Devient s t₀ r t) : t.Meme t₀ := by
  cases h <;> exact ⟨rfl, rfl, rfl, rfl⟩

/-- What a transaction row becomes is classified as the statement says. -/
theorem classee (h : BankTransactionRow.Devient s t₀ r t) :
    BankTransactionRow.Classee s r t₀ t := by
  cases h
  case categorisee category _ _ owner howner _ hcategory =>
    exact ⟨.inr (.inr ⟨owner, category, none, rfl, howner, hcategory, rfl, rfl⟩), .inl rfl⟩
  case regle category regle _ owner howner _ _ hcategory =>
    exact ⟨.inr (.inr ⟨owner, category, some regle, rfl, howner, hcategory, rfl, rfl⟩), .inl rfl⟩
  case regleParLot category regle _ owner howner _ _ hcategory =>
    exact ⟨.inr (.inr ⟨owner, category, some regle, rfl, howner, hcategory, rfl, rfl⟩), .inl rfl⟩
  case defaut category _ owner howner _ _ hcategory =>
    exact ⟨.inr (.inr ⟨owner, category, none, rfl, howner, hcategory, rfl, rfl⟩), .inl rfl⟩
  case marquee | sansCategorie => exact ⟨.inr (.inl ⟨rfl, rfl⟩), .inl rfl⟩
  case sansEnveloppe => exact ⟨.inl ⟨rfl, rfl⟩, .inr (.inl rfl)⟩
  case affectee transaction owner enveloppe howner _ henveloppe =>
    exact ⟨.inl ⟨rfl, rfl⟩,
      .inr (.inr ⟨transaction, owner, enveloppe, rfl, howner, henveloppe, rfl⟩)⟩
  case intacte | observee | reinitialisee | marqueeManuelle | recurrente =>
    exact ⟨.inl ⟨rfl, rfl⟩, .inl rfl⟩

end BankTransactionRow.Devient

/-! ## The effect of a statement -/

section Effects

variable {col : Collation} {x : ChoixSql} {s s' : Store} {r : Requete} {v : r.Reponse}

/-- What an update of the consents makes of one. -/
private theorem consent_of_maj {p : ConsentRow → Bool} {f : ConsentRow → ConsentRow}
    {hid : ∀ c, (f c).id = c.id} {c : ConsentRow} (hc : c ∈ (s.majConsent p f hid).consent)
    (hf : ∀ c, p c = true → c.Devient r (f c)) : ∃ c₀ ∈ s.consent, c₀.Devient r c := by
  obtain ⟨c₀, hc₀, rfl⟩ := Store.mem_majConsent.1 hc
  refine ⟨c₀, hc₀, ?_⟩
  split
  · rename_i hp
    exact hf c₀ hp
  · exact .intact r

/-- Where the consents of a statement come from. -/
theorem consent_effet (heffet : r.effet col x s = .ok (v, s')) {c : ConsentRow}
    (hc : c ∈ s'.consent) :
    (∃ c₀ ∈ s.consent, c₀.Devient r c) ∨ c.Inseree r := by
  by_cases hw : NomTable.consent ∈ r.ecrit
  swap
  · have hsame : s'.consent = s.consent := pareil_effet heffet hw
    exact .inl ⟨c, hsame ▸ hc, .intact r⟩
  rcases r with r | r | r | r <;> cases r <;> try simp at hw
  case consent.insertInitie =>
    obtain ⟨t, ht, -, rfl⟩ := by simpa [Requete.effet, RequeteConsent.effet] using heffet
    rcases (Table.mem_of_insert ht).1 hc with hc | rfl
    · exact .inl ⟨c, hc, .intact _⟩
    · exact .inr ⟨_, _, rfl⟩
  case consent.mettreAJour status blob expiresAt id owner =>
    obtain ⟨-, rfl⟩ := by simpa [Requete.effet, RequeteConsent.effet] using heffet
    refine .inl (consent_of_maj hc fun c hp => ?_)
    obtain ⟨rfl, rfl⟩ := by simpa using hp
    exact .misAJour status blob expiresAt x.maintenant
  case consent.marquerStatutProprietaire status id owner =>
    obtain ⟨-, rfl⟩ := by simpa [Requete.effet, RequeteConsent.effet] using heffet
    refine .inl (consent_of_maj hc fun c hp => ?_)
    obtain ⟨rfl, rfl⟩ := by simpa using hp
    exact .marque status x.maintenant
  case consent.marquerStatutConsent id status =>
    obtain ⟨-, rfl⟩ := by simpa [Requete.effet, RequeteConsent.effet] using heffet
    refine .inl (consent_of_maj hc fun c hp => ?_)
    obtain rfl := by simpa using hp
    exact .marqueParCycle status x.maintenant
  case consent.supprimerParProprietaire =>
    obtain ⟨-, rfl⟩ := by simpa [Requete.effet, RequeteConsent.effet] using heffet
    exact .inl ⟨c, (Table.mem_delete.1 hc).1, .intact _⟩

/-- Where the accounts of a statement come from. -/
theorem compte_effet (heffet : r.effet col x s = .ok (v, s'))
    (hr : ∀ id f, r ≠ .compte (.poserEmpreinte id f)) {a : BankAccountRow}
    (ha : a ∈ s'.bankAccount) :
    (∃ a₀ ∈ s.bankAccount, a.Meme a₀) ∨
      ∃ l, r = .compte (.insert l) ∧ a = RequeteCompte.ligneCompte x l ∧ l.Admissible s := by
  by_cases hw : NomTable.bankAccount ∈ r.ecrit
  swap
  · have hsame : s'.bankAccount = s.bankAccount := pareil_effet heffet hw
    exact .inl ⟨a, hsame ▸ ha, .rfl⟩
  rcases r with r | r | r | r <;> cases r <;> try simp at hw
  case consent.supprimerParProprietaire =>
    obtain ⟨-, rfl⟩ := by simpa [Requete.effet, RequeteConsent.effet] using heffet
    exact .inl ⟨a, (Table.mem_delete.1 ha).1, .rfl⟩
  case compte.insert l =>
    simp only [Requete.effet, RequeteCompte.effet] at heffet
    split at heffet
    · obtain ⟨-, rfl⟩ := lire_eq_ok.1 heffet
      exact .inl ⟨a, ha, .rfl⟩
    · rename_i hlibre
      obtain ⟨hconsent, t, ht, -, rfl⟩ := by simpa using heffet
      rcases (Table.mem_of_insert ht).1 ha with ha | rfl
      · exact .inl ⟨a, ha, .rfl⟩
      · refine .inr ⟨l, rfl, rfl, ?_, hconsent⟩
        simpa using hlibre
  case compte.poserEmpreinte id f => exact absurd rfl (hr id f)
  case compte.supprimerParProprietaire =>
    obtain ⟨-, rfl⟩ := by simpa [Requete.effet, RequeteCompte.effet] using heffet
    exact .inl ⟨a, (Table.mem_delete.1 ha).1, .rfl⟩
  case compte.reserverCreneau =>
    obtain ⟨-, rfl⟩ := by simpa [Requete.effet, RequeteCompte.effet] using heffet
    obtain ⟨a₀, ha₀, rfl⟩ := Store.mem_majCompte.1 ha
    refine .inl ⟨a₀, ha₀, ?_⟩
    split <;> exact ⟨rfl, rfl, rfl, rfl, rfl, rfl⟩

/-- What an update of the transactions makes of one. -/
private theorem devient_of_maj {p : BankTransactionRow → Bool}
    {f : BankTransactionRow → BankTransactionRow} {hid : ∀ t, (f t).id = t.id}
    {t : BankTransactionRow} (ht : t ∈ (s.majTransaction p f hid).bankTransaction)
    (hf : ∀ t ∈ s.bankTransaction, p t = true → BankTransactionRow.Devient s t r (f t)) :
    ∃ t₀ ∈ s.bankTransaction, BankTransactionRow.Devient s t₀ r t := by
  obtain ⟨t₀, ht₀, rfl⟩ := Store.mem_majTransaction.1 ht
  refine ⟨t₀, ht₀, ?_⟩
  split
  · rename_i hp
    exact hf t₀ ht₀ hp
  · exact .intacte r

/-- The category a statement gives exists as soon as the statement reaches a row. -/
private theorem exists_of_exiger {category : Uuid} {p : BankTransactionRow → Bool}
    (h : (!(s.bankTransaction.any p) || s.category.any fun c => c.id = category) = true)
    {t : BankTransactionRow} (ht : t ∈ s.bankTransaction) (hp : p t = true) :
    ∃ c ∈ s.category, c.id = category := by
  rw [Bool.or_eq_true, Bool.not_eq_true', Table.any_eq_false, Table.any_eq_true] at h
  rcases h with hnone | ⟨c, hc, hid⟩
  · exact absurd hp (by simp [hnone t ht])
  · exact ⟨c, hc, by simpa using hid⟩

/-- Where the transactions of a statement come from. -/
theorem transaction_effet (heffet : r.effet col x s = .ok (v, s')) {t : BankTransactionRow}
    (ht : t ∈ s'.bankTransaction) :
    (∃ t₀ ∈ s.bankTransaction, BankTransactionRow.Devient s t₀ r t) ∨
      ∃ l, r = .transaction (.insert l) ∧ t = RequeteTransaction.ligneTransaction x l ∧
        l.Admissible s := by
  by_cases hw : NomTable.bankTransaction ∈ r.ecrit
  swap
  · have hsame : s'.bankTransaction = s.bankTransaction := pareil_effet heffet hw
    exact .inl ⟨t, hsame ▸ ht, .intacte r⟩
  rcases r with r | r | r | r <;> cases r <;> try simp at hw
  case consent.supprimerParProprietaire =>
    obtain ⟨-, rfl⟩ := by simpa [Requete.effet, RequeteConsent.effet] using heffet
    exact .inl ⟨t, (Table.mem_delete.1 ht).1, .intacte _⟩
  case compte.supprimerParProprietaire =>
    obtain ⟨-, rfl⟩ := by simpa [Requete.effet, RequeteCompte.effet] using heffet
    exact .inl ⟨t, (Table.mem_delete.1 ht).1, .intacte _⟩
  case transaction.insert l =>
    simp only [Requete.effet, RequeteTransaction.effet] at heffet
    split at heffet
    · rename_i u hu
      split at heffet
      · rename_i hstatus
        obtain ⟨-, rfl⟩ := by simpa using heffet
        obtain ⟨hu, hdedup⟩ := by simpa using List.mem_of_mem_head? hu
        refine .inl (devient_of_maj ht fun t ht hp => ?_)
        obtain rfl := Table.eq_of_key_eq ht hu (by simpa using hp)
        exact .observee l hdedup hstatus.1 hstatus.2
      · obtain ⟨-, rfl⟩ := lire_eq_ok.1 heffet
        exact .inl ⟨t, ht, .intacte _⟩
    · rename_i hlibre
      obtain ⟨hcompte, u, hu, -, rfl⟩ := by simpa using heffet
      rcases (Table.mem_of_insert hu).1 ht with ht | rfl
      · exact .inl ⟨t, ht, .intacte _⟩
      · refine .inr ⟨l, rfl, rfl, fun t ht hkey => ?_, hcompte⟩
        have hmem : t ∈ s.bankTransaction.select fun t => t.dedupKey = l.dedupKey :=
          Table.mem_select.2 ⟨ht, by simpa using hkey⟩
        rw [List.head?_eq_none_iff.1 hlibre] at hmem
        cases hmem
  case transaction.categoriser category transaction compte owner =>
    simp only [Requete.effet, RequeteTransaction.effet, RequeteTransaction.exigerCategorie,
      exiger_eq_ok, Except.ok.injEq, Prod.mk.injEq] at heffet
    obtain ⟨hcategory, -, rfl⟩ := heffet
    refine .inl (devient_of_maj ht fun t ht hp => ?_)
    obtain ⟨howner, hid, -⟩ := by simpa using hp
    exact .categorisee category transaction compte owner howner hid
      (exists_of_exiger hcategory ht hp)
  case transaction.appliquerRegle category regle transaction owner =>
    simp only [Requete.effet, RequeteTransaction.effet, RequeteTransaction.exigerCategorie,
      RequeteTransaction.majDe, exiger_eq_ok, Except.ok.injEq, Prod.mk.injEq] at heffet
    obtain ⟨hcategory, -, rfl⟩ := heffet
    refine .inl (devient_of_maj ht fun t ht hp => ?_)
    obtain ⟨howner, hid, hsource⟩ := by simpa using hp
    exact .regle category regle transaction owner howner hid hsource
      (exists_of_exiger hcategory ht hp)
  case transaction.appliquerRegleParLot category regle ids owner =>
    simp only [Requete.effet, RequeteTransaction.effet, RequeteTransaction.exigerCategorie,
      RequeteTransaction.majDe, exiger_eq_ok, Except.ok.injEq, Prod.mk.injEq] at heffet
    obtain ⟨hcategory, -, rfl⟩ := heffet
    refine .inl (devient_of_maj ht fun t ht hp => ?_)
    obtain ⟨howner, hid, hsource⟩ := by simpa using hp
    exact .regleParLot category regle ids owner howner hid hsource
      (exists_of_exiger hcategory ht hp)
  case transaction.appliquerCategorieDefautParLot category ids owner =>
    simp only [Requete.effet, RequeteTransaction.effet, RequeteTransaction.exigerCategorie,
      RequeteTransaction.majDe, exiger_eq_ok, Except.ok.injEq, Prod.mk.injEq] at heffet
    obtain ⟨hcategory, -, rfl⟩ := heffet
    refine .inl (devient_of_maj ht fun t ht hp => ?_)
    obtain ⟨howner, hid, hsource⟩ := by simpa using hp
    exact .defaut category ids owner howner hid hsource (exists_of_exiger hcategory ht hp)
  case transaction.reinitialiserTransfertsInternes owner =>
    obtain ⟨-, rfl⟩ := by
      simpa [Requete.effet, RequeteTransaction.effet, RequeteTransaction.majDe] using heffet
    refine .inl (devient_of_maj ht fun t _ hp => ?_)
    obtain ⟨howner, hflag, hcategory⟩ := by simpa using hp
    exact .reinitialisee owner howner hflag hcategory
  case transaction.marquerTransfertsInternes owner ids =>
    obtain ⟨-, rfl⟩ := by
      simpa [Requete.effet, RequeteTransaction.effet, RequeteTransaction.majDe] using heffet
    refine .inl (devient_of_maj ht fun t _ hp => ?_)
    obtain ⟨howner, hid, hflag⟩ := by simpa using hp
    by_cases hmanual : t.categorizationSource = .manual
    · have hdevient := BankTransactionRow.Devient.marqueeManuelle owner ids howner hid hflag hmanual
      simpa [hmanual] using hdevient
    · have hdevient := BankTransactionRow.Devient.marquee owner ids howner hid hflag hmanual
      simpa [hmanual] using hdevient
  case transaction.reinitialiserRecurrences | transaction.marquerRecurrentes =>
    obtain ⟨-, rfl⟩ := by
      simpa [Requete.effet, RequeteTransaction.effet, RequeteTransaction.majDe] using heffet
    exact .inl (devient_of_maj ht fun t _ _ => .recurrente _ _ _)
  case classement.supprimerCategorie id owner =>
    obtain ⟨-, rfl⟩ := by simpa [Requete.effet, RequeteClassement.effet] using heffet
    refine .inl (devient_of_maj (f := fun t => { t with
      categorizationSource := .none, ruleId := none, categoryId := none }) ht fun t _ hp => ?_)
    obtain ⟨category, hcategory, hany⟩ := (Option.any_eq_true _ _).1 hp
    obtain ⟨c, hc, hmatch⟩ := Table.any_eq_true.1 hany
    obtain ⟨rfl, hid, howner⟩ := by simpa using hmatch
    exact .sansCategorie id owner ⟨c, hc, hid, howner⟩ (hid ▸ hcategory)
  case classement.supprimerEnveloppe =>
    obtain ⟨-, rfl⟩ := by simpa [Requete.effet, RequeteClassement.effet] using heffet
    exact .inl (devient_of_maj (f := fun t => { t with enveloppeId := none }) ht
      fun t _ _ => .sansEnveloppe _)
  case classement.affecterTransaction transaction owner enveloppe =>
    obtain ⟨-, rfl⟩ := by simpa [Requete.effet, RequeteClassement.effet] using heffet
    refine .inl (devient_of_maj ht fun t _ hp => ?_)
    obtain ⟨⟨hid, howner⟩, henveloppe⟩ := by simpa using hp
    cases enveloppe with
    | none => exact .sansEnveloppe _
    | some e =>
        exact .affectee transaction owner e howner hid
          (by simpa [RequeteClassement.enveloppeDe] using henveloppe)

/-- An update of the transactions keeps what identifies them. -/
private theorem exists_of_maj {p : BankTransactionRow → Bool}
    {f : BankTransactionRow → BankTransactionRow} {hid : ∀ t, (f t).id = t.id}
    (hf : ∀ t, (f t).Meme t) {t₀ : BankTransactionRow} (ht : t₀ ∈ s.bankTransaction) :
    ∃ t ∈ (s.majTransaction p f hid).bankTransaction, t.Meme t₀ := by
  refine ⟨_, Store.mem_majTransaction.2 ⟨t₀, ht, rfl⟩, ?_⟩
  split
  · exact hf t₀
  · exact .rfl

/-- Only a deletion of accounts, or of consents, takes a transaction. -/
theorem transaction_effet_reste (heffet : r.effet col x s = .ok (v, s'))
    {t₀ : BankTransactionRow} (ht : t₀ ∈ s.bankTransaction)
    (hr : ∀ owner, r ≠ .compte (.supprimerParProprietaire owner))
    (hr' : ∀ owner, r ≠ .consent (.supprimerParProprietaire owner)) :
    ∃ t ∈ s'.bankTransaction, BankTransactionRow.Devient s t₀ r t := by
  by_cases hw : NomTable.bankTransaction ∈ r.ecrit
  swap
  · have hsame : s'.bankTransaction = s.bankTransaction := pareil_effet heffet hw
    exact ⟨t₀, hsame ▸ ht, .intacte r⟩
  have hstays : ∃ t ∈ s'.bankTransaction, t.Meme t₀ := by
    rcases r with r | r | r | r <;> cases r <;> try simp at hw
    case consent.supprimerParProprietaire owner => exact absurd rfl (hr' owner)
    case compte.supprimerParProprietaire owner => exact absurd rfl (hr owner)
    case transaction.insert l =>
      simp only [Requete.effet, RequeteTransaction.effet] at heffet
      split at heffet
      · split at heffet
        · obtain ⟨-, rfl⟩ := by simpa using heffet
          refine exists_of_maj ?_ ht
          exact fun _ => ⟨rfl, rfl, rfl, rfl⟩
        · obtain ⟨-, rfl⟩ := lire_eq_ok.1 heffet
          exact ⟨t₀, ht, .rfl⟩
      · obtain ⟨-, u, hu, -, rfl⟩ := by simpa using heffet
        exact ⟨t₀, (Table.mem_of_insert hu).2 (.inl ht), .rfl⟩
    case transaction.categoriser | transaction.appliquerRegle | transaction.appliquerRegleParLot |
      transaction.appliquerCategorieDefautParLot =>
      simp only [Requete.effet, RequeteTransaction.effet, RequeteTransaction.exigerCategorie,
        RequeteTransaction.majDe, exiger_eq_ok, Except.ok.injEq, Prod.mk.injEq] at heffet
      obtain ⟨-, -, rfl⟩ := heffet
      refine exists_of_maj ?_ ht
      exact fun _ => ⟨rfl, rfl, rfl, rfl⟩
    case transaction.reinitialiserTransfertsInternes | transaction.marquerTransfertsInternes |
      transaction.reinitialiserRecurrences | transaction.marquerRecurrentes =>
      obtain ⟨-, rfl⟩ := by
        simpa [Requete.effet, RequeteTransaction.effet, RequeteTransaction.majDe] using heffet
      refine exists_of_maj ?_ ht
      exact fun _ => ⟨rfl, rfl, rfl, rfl⟩
    case classement.supprimerCategorie | classement.supprimerEnveloppe |
      classement.affecterTransaction =>
      obtain ⟨-, rfl⟩ := by simpa [Requete.effet, RequeteClassement.effet] using heffet
      refine exists_of_maj ?_ ht
      exact fun _ => ⟨rfl, rfl, rfl, rfl⟩
  obtain ⟨t, ht', hmeme⟩ := hstays
  rcases transaction_effet heffet ht' with ⟨t₁, ht₁, hdevient⟩ | ⟨l, -, rfl, hl⟩
  · obtain rfl : t₁ = t₀ := Table.eq_of_key_eq ht₁ ht (hdevient.meme.id.symm.trans hmeme.id)
    exact ⟨t, ht', hdevient⟩
  · exact absurd hmeme.dedupKey.symm (hl.libre t₀ ht)

/-- Only the deletion of its owner takes a consent. -/
theorem consent_effet_reste (heffet : r.effet col x s = .ok (v, s')) {c₀ : ConsentRow}
    (hc : c₀ ∈ s.consent) (hr : r ≠ .consent (.supprimerParProprietaire c₀.ownerId)) :
    ∃ c ∈ s'.consent, c₀.Devient r c := by
  by_cases hw : NomTable.consent ∈ r.ecrit
  swap
  · have hsame : s'.consent = s.consent := pareil_effet heffet hw
    exact ⟨c₀, hsame ▸ hc, .intact r⟩
  have hstays : ∃ c ∈ s'.consent, c.id = c₀.id := by
    rcases r with r | r | r | r <;> cases r <;> try simp at hw
    case consent.insertInitie =>
      obtain ⟨t, ht, -, rfl⟩ := by simpa [Requete.effet, RequeteConsent.effet] using heffet
      exact ⟨c₀, (Table.mem_of_insert ht).2 (.inl hc), rfl⟩
    case consent.mettreAJour | consent.marquerStatutProprietaire | consent.marquerStatutConsent =>
      obtain ⟨-, rfl⟩ := by simpa [Requete.effet, RequeteConsent.effet] using heffet
      refine ⟨_, Store.mem_majConsent.2 ⟨c₀, hc, rfl⟩, ?_⟩
      split <;> rfl
    case consent.supprimerParProprietaire owner =>
      obtain ⟨-, rfl⟩ := by simpa [Requete.effet, RequeteConsent.effet] using heffet
      refine ⟨c₀, Table.mem_delete.2 ⟨hc, ?_⟩, rfl⟩
      simpa using fun howner : c₀.ownerId = owner => hr (howner ▸ rfl)
  obtain ⟨c, hmem, hid⟩ := hstays
  rcases consent_effet heffet hmem with ⟨c₁, hc₁, hdevient⟩ | ⟨_, _, rfl⟩
  · obtain rfl := Table.eq_of_key_eq hc₁ hc (hdevient.meme.id.symm.trans hid)
    exact ⟨c, hmem, hdevient⟩
  · obtain ⟨t, ht, -, rfl⟩ := by simpa [Requete.effet, RequeteConsent.effet] using heffet
    exact ⟨c₀, (Table.mem_of_insert ht).2 (.inl hc), .intact _⟩

/-- Where the balances of a statement come from. -/
theorem balance_effet (heffet : r.effet col x s = .ok (v, s')) {b : BalanceRow}
    (hb : b ∈ s'.balance) :
    b ∈ s.balance ∨ ∃ a ∈ s.bankAccount, a.id = b.bankAccountId := by
  by_cases hw : NomTable.balance ∈ r.ecrit
  swap
  · have hsame : s'.balance = s.balance := pareil_effet heffet hw
    exact .inl (hsame ▸ hb)
  rcases r with r | r | r | r <;> cases r <;> try simp at hw
  case consent.supprimerParProprietaire =>
    obtain ⟨-, rfl⟩ := by simpa [Requete.effet, RequeteConsent.effet] using heffet
    exact .inl (Table.mem_delete.1 hb).1
  case compte.supprimerParProprietaire =>
    obtain ⟨-, rfl⟩ := by simpa [Requete.effet, RequeteCompte.effet] using heffet
    exact .inl (Table.mem_delete.1 hb).1
  case compte.insertBalance =>
    obtain ⟨hcompte, t, ht, -, rfl⟩ := by simpa [Requete.effet, RequeteCompte.effet] using heffet
    rcases (Table.mem_of_insert ht).1 hb with hb | rfl
    · exact .inl hb
    · exact .inr hcompte

/-- Where the rules of a statement come from. -/
theorem regle_effet (heffet : r.effet col x s = .ok (v, s')) {regle : RegleCategorisation}
    (hregle : regle ∈ s'.reglesCategorisation) :
    regle ∈ s.reglesCategorisation ∨
      (∃ owner pattern category priority,
        r = .classement (.creerRegle owner pattern category priority) ∧ regle.ownerId = owner) ∧
      ∃ c ∈ s.category, c.id = regle.categoryId ∧
        (c.ownerId = some regle.ownerId ∨ c.ownerId = none) := by
  by_cases hw : NomTable.reglesCategorisation ∈ r.ecrit
  swap
  · have hsame : s'.reglesCategorisation = s.reglesCategorisation := pareil_effet heffet hw
    exact .inl (hsame ▸ hregle)
  rcases r with r | r | r | r <;> cases r <;> try simp at hw
  case classement.supprimerCategorie =>
    obtain ⟨-, rfl⟩ := by simpa [Requete.effet, RequeteClassement.effet] using heffet
    exact .inl (Table.mem_delete.1 hregle).1
  case classement.creerRegle owner pattern category priority =>
    simp only [Requete.effet, RequeteClassement.effet] at heffet
    split at heffet
    · rename_i hcategory
      obtain ⟨t, ht, -, rfl⟩ := by simpa using heffet
      rcases (Table.mem_of_insert ht).1 hregle with hregle | rfl
      · exact .inl hregle
      · exact .inr ⟨⟨_, _, _, _, rfl, rfl⟩, by simpa using hcategory⟩
    · obtain ⟨-, rfl⟩ := lire_eq_ok.1 heffet
      exact .inl hregle

/-- Where the budgets of a statement come from. -/
theorem budget_effet (heffet : r.effet col x s = .ok (v, s')) {b : Budget} (hb : b ∈ s'.budgets) :
    (∃ b₀ ∈ s.budgets, b.categoryId = b₀.categoryId ∧ b.ownerId = b₀.ownerId) ∨
      ∃ c ∈ s.category, c.id = b.categoryId ∧
        (c.ownerId = some b.ownerId ∨ c.ownerId = none) := by
  by_cases hw : NomTable.budgets ∈ r.ecrit
  swap
  · have hsame : s'.budgets = s.budgets := pareil_effet heffet hw
    exact .inl ⟨b, hsame ▸ hb, rfl, rfl⟩
  rcases r with r | r | r | r <;> cases r <;> try simp at hw
  case classement.supprimerCategorie =>
    obtain ⟨-, rfl⟩ := by simpa [Requete.effet, RequeteClassement.effet] using heffet
    exact .inl ⟨b, (Table.mem_delete.1 hb).1, rfl, rfl⟩
  case classement.enregistrerBudget owner category montant mois =>
    simp only [Requete.effet, RequeteClassement.effet] at heffet
    split at heffet
    swap
    · obtain ⟨-, rfl⟩ := lire_eq_ok.1 heffet
      exact .inl ⟨b, hb, rfl, rfl⟩
    rename_i hcategory
    obtain ⟨-, heffet⟩ := exiger_eq_ok.1 heffet
    split at heffet
    · obtain ⟨-, rfl⟩ := by simpa using heffet
      simp only [Table.mem_update] at hb
      obtain ⟨b₀, hb₀, rfl⟩ := hb
      refine .inl ⟨b₀, hb₀, ?_⟩
      split <;> exact ⟨rfl, rfl⟩
    · obtain ⟨t, ht, -, rfl⟩ := by simpa using heffet
      rcases (Table.mem_of_insert ht).1 hb with hb | rfl
      · exact .inl ⟨b, hb, rfl, rfl⟩
      · exact .inr (by simpa using hcategory)

/-- Where the categories of a statement come from. -/
theorem categorie_effet (heffet : r.effet col x s = .ok (v, s')) {c : Category}
    (hc : c ∈ s'.category) :
    (∃ c₀ ∈ s.category, c.id = c₀.id ∧ c.ownerId = c₀.ownerId) ∨
      ∃ owner name kind color icon,
        r = .classement (.creerCategorie owner name kind color icon) ∧ c.ownerId = some owner := by
  by_cases hw : NomTable.category ∈ r.ecrit
  swap
  · have hsame : s'.category = s.category := pareil_effet heffet hw
    exact .inl ⟨c, hsame ▸ hc, rfl, rfl⟩
  rcases r with r | r | r | r <;> cases r <;> try simp at hw
  case classement.creerCategorie =>
    obtain ⟨t, ht, -, rfl⟩ := by simpa [Requete.effet, RequeteClassement.effet] using heffet
    rcases (Table.mem_of_insert ht).1 hc with hc | rfl
    · exact .inl ⟨c, hc, rfl, rfl⟩
    · exact .inr ⟨_, _, _, _, _, rfl, rfl⟩
  case classement.mettreAJourCategorie =>
    obtain ⟨-, rfl⟩ := by simpa [Requete.effet, RequeteClassement.effet] using heffet
    simp only [Table.mem_update] at hc
    obtain ⟨c₀, hc₀, rfl⟩ := hc
    refine .inl ⟨c₀, hc₀, ?_⟩
    split <;> exact ⟨rfl, rfl⟩
  case classement.supprimerCategorie =>
    obtain ⟨-, rfl⟩ := by simpa [Requete.effet, RequeteClassement.effet] using heffet
    exact .inl ⟨c, (Table.mem_delete.1 hc).1, rfl, rfl⟩

/-! ### What stays, and what a deletion takes along -/

/-- Only the deletion of its owner, or of the owner of its consent, takes an account. -/
theorem compte_effet_reste (heffet : r.effet col x s = .ok (v, s'))
    (hp : ∀ id f, r ≠ .compte (.poserEmpreinte id f)) {a₀ : BankAccountRow}
    (ha : a₀ ∈ s.bankAccount) (hr : r ≠ .compte (.supprimerParProprietaire a₀.ownerId))
    (hr' : ∀ c ∈ s.consent, c.id = a₀.consentId →
      r ≠ .consent (.supprimerParProprietaire c.ownerId)) :
    ∃ a ∈ s'.bankAccount, a.Meme a₀ := by
  by_cases hw : NomTable.bankAccount ∈ r.ecrit
  swap
  · have hsame : s'.bankAccount = s.bankAccount := pareil_effet heffet hw
    exact ⟨a₀, hsame ▸ ha, .rfl⟩
  rcases r with r | r | r | r <;> cases r <;> try simp at hw
  case consent.supprimerParProprietaire owner =>
    obtain ⟨-, rfl⟩ := by simpa [Requete.effet, RequeteConsent.effet] using heffet
    refine ⟨a₀, Table.mem_delete.2 ⟨ha, ?_⟩, .rfl⟩
    rw [← Bool.not_eq_true, Table.any_eq_true]
    rintro ⟨c, hc, hmatch⟩
    obtain ⟨hid, howner⟩ := by simpa using hmatch
    exact hr' c hc hid (howner ▸ rfl)
  case compte.insert l =>
    simp only [Requete.effet, RequeteCompte.effet] at heffet
    split at heffet
    · rw [(lire_eq_ok.1 heffet).2]
      exact ⟨a₀, ha, .rfl⟩
    · obtain ⟨-, t, ht, -, rfl⟩ := by simpa using heffet
      exact ⟨a₀, (Table.mem_of_insert ht).2 (.inl ha), .rfl⟩
  case compte.poserEmpreinte id f => exact absurd rfl (hp id f)
  case compte.supprimerParProprietaire owner =>
    obtain ⟨-, rfl⟩ := by simpa [Requete.effet, RequeteCompte.effet] using heffet
    refine ⟨a₀, Table.mem_delete.2 ⟨ha, ?_⟩, .rfl⟩
    simpa using fun howner : a₀.ownerId = owner => hr (howner ▸ rfl)
  case compte.reserverCreneau =>
    obtain ⟨-, rfl⟩ := by simpa [Requete.effet, RequeteCompte.effet] using heffet
    refine ⟨_, Store.mem_majCompte.2 ⟨a₀, ha, rfl⟩, ?_⟩
    split <;> exact ⟨rfl, rfl, rfl, rfl, rfl, rfl⟩

/-- An account stays, or what hangs from it goes along. -/
theorem compte_effet_cases (heffet : r.effet col x s = .ok (v, s')) {a₀ : BankAccountRow}
    (ha : a₀ ∈ s.bankAccount) :
    (∃ a ∈ s'.bankAccount, a.id = a₀.id ∧ a.ownerId = a₀.ownerId) ∨
      (∀ b ∈ s'.balance, b.bankAccountId ≠ a₀.id) ∧
        ∀ t ∈ s'.bankTransaction, t.bankAccountId ≠ a₀.id := by
  -- the deletion of the accounts that satisfy `p`
  have hsupprime : ∀ p : BankAccountRow → Bool, p a₀ = true →
      (s'.balance = (s.supprimerComptes p).balance) →
      (s'.bankTransaction = (s.supprimerComptes p).bankTransaction) →
      (∀ b ∈ s'.balance, b.bankAccountId ≠ a₀.id) ∧
        ∀ t ∈ s'.bankTransaction, t.bankAccountId ≠ a₀.id := by
    intro p hp hbalance htransaction
    rw [hbalance, htransaction]
    refine ⟨fun b hb hid => ?_, fun t ht hid => ?_⟩
    · have hfree := Table.any_eq_false.1 (Table.mem_delete.1 hb).2 a₀ ha
      simp [hid, hp] at hfree
    · have hfree := Table.any_eq_false.1 (Table.mem_delete.1 ht).2 a₀ ha
      simp [hid, hp] at hfree
  by_cases hw : NomTable.bankAccount ∈ r.ecrit
  swap
  · have hsame : s'.bankAccount = s.bankAccount := pareil_effet heffet hw
    exact .inl ⟨a₀, hsame ▸ ha, rfl, rfl⟩
  rcases r with r | r | r | r <;> cases r <;> try simp at hw
  case consent.supprimerParProprietaire owner =>
    obtain ⟨-, rfl⟩ := by simpa [Requete.effet, RequeteConsent.effet] using heffet
    by_cases hp : (s.consent.any fun c => c.id = a₀.consentId && c.ownerId = owner) = true
    · exact .inr (hsupprime (fun a => s.consent.any fun c =>
        c.id = a.consentId && c.ownerId = owner) hp rfl rfl)
    · exact .inl ⟨a₀, Table.mem_delete.2 ⟨ha, by simpa using hp⟩, rfl, rfl⟩
  case compte.supprimerParProprietaire owner =>
    obtain ⟨-, rfl⟩ := by simpa [Requete.effet, RequeteCompte.effet] using heffet
    by_cases hp : decide (a₀.ownerId = owner) = true
    · exact .inr (hsupprime (fun a => a.ownerId = owner) hp rfl rfl)
    · exact .inl ⟨a₀, Table.mem_delete.2 ⟨ha, by simpa using hp⟩, rfl, rfl⟩
  case compte.insert l =>
    simp only [Requete.effet, RequeteCompte.effet] at heffet
    split at heffet
    · rw [(lire_eq_ok.1 heffet).2]
      exact .inl ⟨a₀, ha, rfl, rfl⟩
    · obtain ⟨-, t, ht, -, rfl⟩ := by simpa using heffet
      exact .inl ⟨a₀, (Table.mem_of_insert ht).2 (.inl ha), rfl, rfl⟩
  case compte.poserEmpreinte | compte.reserverCreneau =>
    obtain ⟨-, rfl⟩ := by simpa [Requete.effet, RequeteCompte.effet] using heffet
    refine .inl ⟨_, Store.mem_majCompte.2 ⟨a₀, ha, rfl⟩, ?_⟩
    split <;> exact ⟨rfl, rfl⟩

/-- A category stays, or what refers to it goes along. -/
theorem categorie_effet_cases (heffet : r.effet col x s = .ok (v, s')) {c₀ : Category}
    (hc : c₀ ∈ s.category) :
    (∃ c ∈ s'.category, c.id = c₀.id ∧ c.ownerId = c₀.ownerId) ∨
      (∀ t ∈ s'.bankTransaction, t.categoryId ≠ some c₀.id) ∧
        (∀ regle ∈ s'.reglesCategorisation, regle.categoryId ≠ c₀.id) ∧
          ∀ b ∈ s'.budgets, b.categoryId ≠ c₀.id := by
  by_cases hw : NomTable.category ∈ r.ecrit
  swap
  · have hsame : s'.category = s.category := pareil_effet heffet hw
    exact .inl ⟨c₀, hsame ▸ hc, rfl, rfl⟩
  rcases r with r | r | r | r <;> cases r <;> try simp at hw
  case classement.creerCategorie =>
    obtain ⟨t, ht, -, rfl⟩ := by simpa [Requete.effet, RequeteClassement.effet] using heffet
    exact .inl ⟨c₀, (Table.mem_of_insert ht).2 (.inl hc), rfl, rfl⟩
  case classement.mettreAJourCategorie name kind color icon _ _ =>
    obtain ⟨-, rfl⟩ := by simpa [Requete.effet, RequeteClassement.effet] using heffet
    have hid (c : Category) : ({ c with name, kind, color, icon } : Category).id = c.id := rfl
    refine .inl ⟨_, Table.mem_update_of_mem hid hc, ?_⟩
    split <;> exact ⟨rfl, rfl⟩
  case classement.supprimerCategorie id owner =>
    obtain ⟨-, rfl⟩ := by simpa [Requete.effet, RequeteClassement.effet] using heffet
    by_cases hp : (decide (c₀.id = id) && decide (c₀.ownerId = some owner)) = true
    swap
    · exact .inl ⟨c₀, Table.mem_delete.2 ⟨hc, by simpa using hp⟩, rfl, rfl⟩
    have hsupprime : (s.category.any fun c =>
        decide (c.id = c₀.id) && (decide (c.id = id) && decide (c.ownerId = some owner))) = true :=
      Table.any_eq_true.2 ⟨c₀, hc, by simpa using hp⟩
    refine .inr ⟨fun t ht hid => ?_, fun regle hregle hid => ?_, fun b hb hid => ?_⟩
    · obtain ⟨t₀, -, rfl⟩ := Store.mem_majTransaction.1 ht
      split at hid
      · cases hid
      · rename_i hnot
        exact hnot (by rw [hid]; exact hsupprime)
    · have hfree := (Table.mem_delete.1 hregle).2
      rw [hid] at hfree
      exact Bool.noConfusion (hfree.symm.trans hsupprime)
    · have hfree := (Table.mem_delete.1 hb).2
      rw [hid] at hfree
      exact Bool.noConfusion (hfree.symm.trans hsupprime)

/-- A rule stays, or no transaction is left in its category. -/
theorem regle_effet_cases (heffet : r.effet col x s = .ok (v, s')) {regle : RegleCategorisation}
    (hregle : regle ∈ s.reglesCategorisation) :
    regle ∈ s'.reglesCategorisation ∨
      ∀ t ∈ s'.bankTransaction, t.categoryId ≠ some regle.categoryId := by
  by_cases hw : NomTable.reglesCategorisation ∈ r.ecrit
  swap
  · have hsame : s'.reglesCategorisation = s.reglesCategorisation := pareil_effet heffet hw
    exact .inl (hsame ▸ hregle)
  rcases r with r | r | r | r <;> cases r <;> try simp at hw
  case classement.creerRegle =>
    simp only [Requete.effet, RequeteClassement.effet] at heffet
    split at heffet
    · obtain ⟨t, ht, -, rfl⟩ := by simpa using heffet
      exact .inl ((Table.mem_of_insert ht).2 (.inl hregle))
    · obtain ⟨-, rfl⟩ := lire_eq_ok.1 heffet
      exact .inl hregle
  case classement.supprimerCategorie id owner =>
    obtain ⟨-, rfl⟩ := by simpa [Requete.effet, RequeteClassement.effet] using heffet
    by_cases hp : (s.category.any fun c =>
      c.id = regle.categoryId && (c.id = id && c.ownerId = some owner)) = true
    swap
    · exact .inl (Table.mem_delete.2 ⟨hregle, by simpa using hp⟩)
    refine .inr fun t ht hid => ?_
    obtain ⟨t₀, -, rfl⟩ := Store.mem_majTransaction.1 ht
    split at hid
    · cases hid
    · rename_i hnot
      exact hnot (by rw [hid]; exact hp)

/-- An envelope stays, or is released. -/
theorem enveloppe_effet_cases (heffet : r.effet col x s = .ok (v, s')) {e₀ : Enveloppe}
    (he : e₀ ∈ s.enveloppe) :
    (∃ e ∈ s'.enveloppe, e.id = e₀.id ∧ e.proprietaire = e₀.proprietaire) ∨
      ∀ t ∈ s'.bankTransaction, t.enveloppeId ≠ some e₀.id := by
  by_cases hw : NomTable.enveloppe ∈ r.ecrit
  swap
  · have hsame : s'.enveloppe = s.enveloppe := pareil_effet heffet hw
    exact .inl ⟨e₀, hsame ▸ he, rfl, rfl⟩
  rcases r with r | r | r | r <;> cases r <;> try simp at hw
  case classement.creerEnveloppe =>
    obtain ⟨-, -, t, ht, -, rfl⟩ := by
      simpa [Requete.effet, RequeteClassement.effet] using heffet
    exact .inl ⟨e₀, (Table.mem_of_insert ht).2 (.inl he), rfl, rfl⟩
  case classement.modifierEnveloppe _ _ nom icon color montant =>
    simp only [Requete.effet, RequeteClassement.effet] at heffet
    split at heffet
    · obtain ⟨-, -, -, rfl⟩ := by simpa using heffet
      have hid (e : Enveloppe) :
          ({ e with nom, icon, color, montantCents := montant } : Enveloppe).id = e.id := rfl
      refine .inl ⟨_, Table.mem_update_of_mem hid he, ?_⟩
      split <;> exact ⟨rfl, rfl⟩
    · obtain ⟨-, rfl⟩ := lire_eq_ok.1 heffet
      exact .inl ⟨e₀, he, rfl, rfl⟩
  case classement.supprimerEnveloppe id owner =>
    obtain ⟨-, rfl⟩ := by simpa [Requete.effet, RequeteClassement.effet] using heffet
    by_cases hp : (decide (e₀.id = id) && decide (e₀.proprietaire = owner)) = true
    swap
    · exact .inl ⟨e₀, Table.mem_delete.2 ⟨he, by simpa using hp⟩, rfl, rfl⟩
    refine .inr fun t ht hid => ?_
    obtain ⟨t₀, -, rfl⟩ := Store.mem_majTransaction.1 ht
    split at hid
    · cases hid
    · rename_i hnot
      exact hnot (by rw [hid]; exact Table.any_eq_true.2 ⟨e₀, he, by simpa using hp⟩)

end Effects

/-! ## The effect of a request -/

section Events

variable {col : Collation}

/-- A request leaves the database, or is a statement that took effect. -/
theorem after_cases (e : Evenement col) :
    e.after = e.before ∨
      ∃ (r : Requete) (x : ChoixSql) (v : r.Reponse), e.op = .sql r ∧
        r.effet col x e.before = .ok (v, e.after) := by
  obtain ⟨s, o, x⟩ := e
  cases o with
  | sql r =>
      rcases Requete.executer_cases col r x s with ⟨err, he⟩ | ⟨v, s', -, heffet, heq⟩
      · exact .inl (congrArg Prod.snd he)
      · have hafter : (⟨s, .sql r, x⟩ : Evenement col).after = s' := congrArg Prod.snd heq
        exact .inr ⟨r, x, v, rfl, hafter ▸ heffet⟩
  | banque | publier | nonce | uuidV4 | maintenant => exact .inl rfl

variable {e : Evenement col}

/-- A statement that takes effect leaves the database in the state of its effect. -/
theorem effet_of_reussi {s : Store} {r : Requete} {x : ChoixSql}
    (h : Evenement.Reussi (⟨s, .sql r, x⟩ : Evenement col)) :
    ∃ reponse s', r.effet col x s = .ok (reponse, s') ∧
      (⟨s, .sql r, x⟩ : Evenement col).after = s' := by
  rcases Requete.executer_cases col r x s with ⟨e, he⟩ | ⟨reponse, s', -, heffet, heq⟩
  · have herror : (r.executer col x s).1.isOk = true := h
    rw [he] at herror
    cases herror
  · exact ⟨reponse, s', heffet, congrArg Prod.snd heq⟩

/-- A request that changes the database succeeded. -/
theorem reussi_of_after_ne (h : e.after ≠ e.before) : Evenement.Reussi e := by
  obtain ⟨s, o, x⟩ := e
  cases o with
  | sql r =>
      rcases Requete.executer_cases col r x s with ⟨err, he⟩ | ⟨v, s', -, heffet, heq⟩
      · exact absurd (congrArg Prod.snd he) h
      · have hreply : (⟨s, .sql r, x⟩ : Evenement col).reply = .ok v := congrArg Prod.fst heq
        rw [Evenement.Reussi, hreply]
        rfl
  | banque | publier | nonce | uuidV4 | maintenant => exact absurd rfl h

/-- Where the consents of a request come from. -/
theorem consent_after {c : ConsentRow} (hc : c ∈ e.after.consent) :
    c ∈ e.before.consent ∨
      ∃ r, e.op = .sql r ∧ ((∃ c₀ ∈ e.before.consent, c₀.Devient r c) ∨ c.Inseree r) := by
  rcases after_cases e with hsame | ⟨r, x, v, hop, heffet⟩
  · exact .inl (hsame ▸ hc)
  · exact .inr ⟨r, hop, consent_effet heffet hc⟩

/-- Where the accounts of a request come from. -/
theorem compte_after (he : ∀ id f, e.op ≠ .sql (.compte (.poserEmpreinte id f)))
    {a : BankAccountRow} (ha : a ∈ e.after.bankAccount) :
    (∃ a₀ ∈ e.before.bankAccount, a.Meme a₀) ∨
      ∃ l x, e.op = .sql (.compte (.insert l)) ∧ a = RequeteCompte.ligneCompte x l ∧
        l.Admissible e.before := by
  rcases after_cases e with hsame | ⟨r, x, v, hop, heffet⟩
  · exact .inl ⟨a, hsame ▸ ha, .rfl⟩
  · rcases compte_effet heffet (fun id f hr => he id f (hr ▸ hop)) ha with
      hold | ⟨l, rfl, rfl, hl⟩
    · exact .inl hold
    · exact .inr ⟨l, x, hop, rfl, hl⟩

/-- Where the transactions of a request come from. -/
theorem transaction_after {t : BankTransactionRow} (ht : t ∈ e.after.bankTransaction) :
    (∃ t₀ ∈ e.before.bankTransaction, t.Meme t₀) ∨
      ∃ l x, e.op = .sql (.transaction (.insert l)) ∧
        t = RequeteTransaction.ligneTransaction x l ∧ l.Admissible e.before := by
  rcases after_cases e with hsame | ⟨r, x, v, hop, heffet⟩
  · exact .inl ⟨t, hsame ▸ ht, .rfl⟩
  · rcases transaction_effet heffet ht with ⟨t₀, ht₀, hdevient⟩ | ⟨l, rfl, rfl, hl⟩
    · exact .inl ⟨t₀, ht₀, hdevient.meme⟩
    · exact .inr ⟨l, x, hop, rfl, hl⟩

/-- A transaction is still there after a request, unless the request erases. -/
theorem transaction_reste {t₀ : BankTransactionRow} (ht : t₀ ∈ e.before.bankTransaction)
    (he : ∀ owner, e.op ≠ .sql (.compte (.supprimerParProprietaire owner)))
    (he' : ∀ owner, e.op ≠ .sql (.consent (.supprimerParProprietaire owner))) :
    t₀ ∈ e.after.bankTransaction ∨ ∃ r, e.op = .sql r ∧
      ∃ t ∈ e.after.bankTransaction, BankTransactionRow.Devient e.before t₀ r t := by
  rcases after_cases e with hsame | ⟨r, x, v, hop, heffet⟩
  · exact .inl (hsame ▸ ht)
  · exact .inr ⟨r, hop, transaction_effet_reste heffet ht (fun owner hr => he owner (hr ▸ hop))
      fun owner hr => he' owner (hr ▸ hop)⟩

/-- A consent is still there after a request, unless its owner is erased. -/
theorem consent_reste {c₀ : ConsentRow} (hc : c₀ ∈ e.before.consent)
    (he : e.op ≠ .sql (.consent (.supprimerParProprietaire c₀.ownerId))) :
    ∃ c ∈ e.after.consent, c.Meme c₀ := by
  rcases after_cases e with hsame | ⟨r, x, v, hop, heffet⟩
  · exact ⟨c₀, hsame ▸ hc, .rfl⟩
  · obtain ⟨c, hmem, hdevient⟩ := consent_effet_reste heffet hc fun hr => he (hr ▸ hop)
    exact ⟨c, hmem, hdevient.meme⟩

/-- An account is still there after a request, unless its owner or that of its consent is
erased. -/
theorem compte_reste (hp : ∀ id f, e.op ≠ .sql (.compte (.poserEmpreinte id f)))
    {a₀ : BankAccountRow} (ha : a₀ ∈ e.before.bankAccount)
    (he : e.op ≠ .sql (.compte (.supprimerParProprietaire a₀.ownerId)))
    (he' : ∀ c ∈ e.before.consent, c.id = a₀.consentId →
      e.op ≠ .sql (.consent (.supprimerParProprietaire c.ownerId))) :
    ∃ a ∈ e.after.bankAccount, a.Meme a₀ := by
  rcases after_cases e with hsame | ⟨r, x, v, hop, heffet⟩
  · exact ⟨a₀, hsame ▸ ha, .rfl⟩
  · exact compte_effet_reste heffet (fun id f hr => hp id f (hr ▸ hop)) ha
      (fun hr => he (hr ▸ hop)) fun c hc hid hr => he' c hc hid (hr ▸ hop)

end Events

end Budgy
