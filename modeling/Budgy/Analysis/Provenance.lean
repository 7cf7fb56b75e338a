import Budgy.Analysis.Requests

/-!
# Whom a write is made for

A handler serves one owner.  `Requete.Pour A s r` says what the statements it issues
have in common: a write names the owner `A`, and the rule, the category or the
consent it refers to was found among those `A` may use.  The programs of the
service are gone through once, here: `programme_pour` says that every request of an
operation made for `A` is of this kind, in the state it meets.
-/

set_option autoImplicit false

namespace Budgy

open Effects Relational

/-! ## The rows a write refers to -/

/-- `A` has this consent. -/
def Store.ConsentDe (s : Store) (A : ProprietaireId) (id : ConsentId) : Prop :=
  ∃ c ∈ s.consent, c.id = id ∧ c.ownerId = A

/-- `A` may put a transaction in this category. -/
def Store.CategorieAccessible (s : Store) (A : ProprietaireId) (id : CategoryId) : Prop :=
  ∃ c ∈ s.category, c.id = id ∧ (c.ownerId = none ∨ c.ownerId = some A)

/-- The category of the default credits of `A`: an empty owner counts as none. -/
def Store.CategorieSalaire (s : Store) (A : ProprietaireId) (id : CategoryId) : Prop :=
  ∃ c ∈ s.category, c.id = id ∧ c.name = "Salaire" ∧ (c.ownerId.getD "" = A ∨ c.ownerId.getD "" = "")

/-- `A` has this rule, for this category. -/
def Store.RegleDe (s : Store) (A : ProprietaireId) (regle : RegleCategorisationId)
    (category : CategoryId) : Prop :=
  ∃ r ∈ s.reglesCategorisation, r.id = regle ∧ r.categoryId = category ∧ r.ownerId = A

/-- The keys and the ciphertext of an inserted account come from one identifier. -/
def CompteScelle (crypto : CryptoService) (l : InsertionCompte) : Prop :=
  ∃ (nonce : Nonce) (externe : String),
    chiffrerTexte crypto nonce l.owner "bank_account" "external_account_id" externe =
      .ok l.externalAccountId ∧
    l.dedupKey = dedupKeyCompte crypto l.consentId externe ∧
    l.empreinte = empreinteCompte crypto externe

/-- The key and the ciphertext of an inserted transaction come from one
identifier, whose fingerprinted message is one of `U`. -/
def TransactionScellee (crypto : CryptoService) (U : Set (List UInt8)) (A : ProprietaireId)
    (l : InsertionTransaction) : Prop :=
  ∃ (nonce : Nonce) (externe : String),
    CryptoService.messageDedup l.bankAccountId.asBytes externe ∈ U ∧
    chiffrerTexte crypto nonce A "bank_transaction" "external_transaction_id" externe =
      .ok l.externalTransactionId ∧
    l.dedupKey = dedupKeyTransaction crypto l.bankAccountId externe

section Pour

variable (crypto : CryptoService) (U : Set (List UInt8)) (A : ProprietaireId) (s : Store)

/-- The statements on consents that are about rows of one owner only, the reference they write
being encrypted for them. -/
def RequeteConsent.Pour : RequeteConsent → Prop
  | insertInitie _ owner blob _ _ _ | mettreAJour _ blob _ _ owner =>
      owner = A ∧ Chiffre crypto A "consent" "external_ref" blob
  | marquerStatutProprietaire _ _ owner | supprimerParProprietaire owner => owner = A
  | marquerStatutConsent id _ => ∀ c ∈ s.consent, c.id = id → c.ownerId = A
  | fetchPourProprietaire .. | listerParProprietaire .. | listerActifsParProprietaire .. => True

/-- The statements on accounts that are about rows of one owner only. -/
def RequeteCompte.Pour : RequeteCompte → Prop
  | insert l => l.owner = A ∧ s.ConsentDe A l.consentId ∧ CompteScelle crypto l
  | poserEmpreinte .. => False
  | supprimerParProprietaire owner => owner = A
  | reserverCreneau compte _ _ | insertBalance compte _ _ _ _ =>
      ∀ B, s.proprietaireDuCompte compte = some B → B = A
  | _ => True

/-- The statements on transactions that are about rows of one owner only, what they write being
encrypted for them. -/
def RequeteTransaction.Pour : RequeteTransaction → Prop
  | insert l =>
      s.proprietaireDuCompte l.bankAccountId = some A ∧ TransactionScellee crypto U A l
  | categoriser category _ _ owner => owner = A ∧ s.CategorieAccessible A category
  | appliquerRegle category regle _ owner | appliquerRegleParLot category regle _ owner =>
      owner = A ∧ s.RegleDe A regle category
  | appliquerCategorieDefautParLot category _ owner => owner = A ∧ s.CategorieSalaire A category
  | reinitialiserTransfertsInternes owner | marquerTransfertsInternes owner _
  | reinitialiserRecurrences owner | marquerRecurrentes owner _ _ => owner = A
  | _ => True

/-- The statements on categories, rules, budgets, preferences and envelopes that are about rows
of one owner only. -/
def RequeteClassement.Pour : RequeteClassement → Prop
  | creerCategorie owner _ _ _ _ | mettreAJourCategorie _ _ _ _ _ owner
  | supprimerCategorie _ owner | creerRegle owner _ _ _ | enregistrerBudget owner _ _ _
  | creerEnveloppe owner _ _ _ _ | modifierEnveloppe _ owner _ _ _ _
  | supprimerEnveloppe _ owner | affecterTransaction _ owner _
  | definirJourDebutMois owner _ => owner = A
  | _ => True

/-- A statement that a program serving `A` may issue on the database `s`. -/
def Requete.Pour : Requete → Prop
  | consent r => r.Pour crypto A s
  | compte r => r.Pour crypto A s
  | transaction r => r.Pour crypto U A s
  | classement r => r.Pour A

/-- A request that a program serving `A` may issue on the database `s`. -/
def Op.Pour : Op → Prop
  | .sql r => r.Pour crypto U A s
  | _ => True

end Pour

/-- A request of a run that serves `A`. -/
def Evenement.Pour {col : Collation} (crypto : CryptoService) (U : Set (List UInt8))
    (A : ProprietaireId) (e : Evenement col) : Prop :=
  e.op.Pour crypto U A e.before

section Reads

variable {crypto : CryptoService} {U : Set (List UInt8)} {A : ProprietaireId} {s : Store}

/-- A read serves anyone. -/
theorem pour_of_lecture {o : Op} (h : o.ecrit = []) : o.Pour crypto U A s := by
  cases o with
  | sql r =>
      -- a write names a table, so `h` is absurd there; elsewhere there is nothing to serve
      rcases r with r | r | r | r <;> cases r <;> trivial
  | banque | publier | nonce | uuidV4 | maintenant => trivial

end Reads

/-! ## Requests that fixed tables allow -/

/-- The tables `T` are those of `s₀`. -/
def Fixe (T : List NomTable) (s₀ s : Store) : Prop := ∀ t ∈ T, s₀.Pareil s t

/-- The request serves `A` wherever the tables `T` are those of `s₀`, and does not
write them. -/
def Admise (crypto : CryptoService) (U : Set (List UInt8)) (A : ProprietaireId)
    (T : List NomTable) (s₀ : Store) (o : Op) : Prop :=
  (∀ t ∈ T, t ∉ o.ecrit) ∧ ∀ s, Fixe T s₀ s → o.Pour crypto U A s

section Fixe

variable {col : Collation} {crypto : CryptoService} {U : Set (List UInt8)} {A : ProprietaireId}
  {T : List NomTable} {s₀ s : Store} {α : Type}

/-- A store agrees with itself on every table. -/
theorem Fixe.refl : Fixe T s s := fun _ _ => .rfl

/-- A read may be sent by anyone. -/
theorem admise_of_lecture {o : Op} (h : o.ecrit = []) : Admise crypto U A T s₀ o :=
  ⟨fun _ _ => h ▸ List.not_mem_nil, fun _ _ => pour_of_lecture h⟩

/-- A statement that writes none of the tables leaves them as they were. -/
theorem Fixe.after {e : Evenement col} (h : Fixe T s₀ e.before) (he : ∀ t ∈ T, t ∉ e.op.ecrit) :
    Fixe T s₀ e.after :=
  fun t ht => (h t ht).trans (pareil_event (he t ht))

/-- A program whose requests are all allowed serves `A` and keeps the tables. -/
theorem guarded_of_admise {p : Programme α} (hp : p.Uses (Admise crypto U A T s₀))
    (hs : Fixe T s₀ s) :
    Guarded (machine col) (Evenement.Pour crypto U A) p s fun _ s' => Fixe T s₀ s' :=
  Guarded.of_uses hp hs fun _ ho hbefore => ⟨ho.2 _ hbefore, hbefore.after ho.1⟩

end Fixe

/-! ## What the reads find -/

/-- A consent is read with the status of its row. -/
theorem intoConsent_status {crypto : CryptoService} {row : ConsentRow} {c : Consent}
    (h : Consents.intoConsent crypto row = .ok c) : c.status = row.status := by
  unfold Consents.intoConsent at h
  cases hd : dechiffrerTexte crypto row.ownerId "consent" "external_ref" row.externalRef with
  | error e => rw [hd] at h; cases h
  | ok v =>
      rw [hd] at h
      cases h
      rfl

/-- A read: it leaves the database, and what it returns satisfies `F`. -/
def Trouve {ε α : Type} (s : Store) (F : α → Prop) (reponse : Except ε α) (s' : Store) : Prop :=
  s' = s ∧ ∀ v, reponse = .ok v → F v

section Found

variable {col : Collation} {s : Store} {A : ProprietaireId} {G : Evenement col → Prop}
  {ε ε' α β : Type} {F : α → Prop} {F' : β → Prop}

/-- A read that fails has found nothing. -/
theorem trouve_error {e : ε} : Trouve s F (.error e) s :=
  ⟨rfl, fun _ h => nomatch h⟩

/-- A read that returns a value with the property has found it. -/
theorem trouve_ok {v : α} (h : F v) : Trouve s F (.ok v : Except ε α) s :=
  ⟨rfl, fun _ hv => Except.ok.inj hv ▸ h⟩

/-- Renaming the error of a task does not change what it finds. -/
theorem Trouve.run_mapError {f : ε → ε'} {x : Tache ε α}
    (hx : Guarded (machine col) G x.run s (Trouve s F)) :
    Guarded (machine col) G (x.mapError f).run s (Trouve s F) := by
  refine Guarded.run_mapError (hx.mono ?_)
  rintro (e | v) s' ⟨rfl, hv⟩
  · exact trouve_error
  · exact trouve_ok (hv v rfl)

/-- A task that goes on with what another one found finds what its second half finds. -/
theorem Trouve.run_bind {x : Tache ε α} {f : α → Tache ε β}
    (hx : Guarded (machine col) G x.run s (Trouve s F))
    (hf : ∀ a, F a → Guarded (machine col) G (f a).run s (Trouve s F')) :
    Guarded (machine col) G (x >>= f).run s (Trouve s F') := by
  refine Guarded.run_bind hx ?_ ?_
  · rintro a s' ⟨rfl, ha⟩
    exact hf a (ha a rfl)
  · rintro e s' ⟨rfl, -⟩
    exact trouve_error

/-- A task that only returns a value finds it. -/
theorem Trouve.run_pure {v : α} (h : F v) :
    Guarded (machine col) G (pure v : Tache ε α).run s (Trouve s F) :=
  guarded_run_pure.2 (trouve_ok h)

/-- A value already computed is found as it is. -/
theorem Trouve.run_ofExcept {r : Except ε α} (h : ∀ v, r = .ok v → F v) :
    Guarded (machine col) G (Task.ofExcept r : Tache ε α).run s (Trouve s F) :=
  guarded_pure.2 ⟨rfl, h⟩

variable (hG : ∀ e : Evenement col, e.op.ecrit = [] → G e)
include hG

/-- A statement that only reads leaves the database and answers from it. -/
theorem guarded_lecture {r : Requete} (hr : r.ecrit = []) :
    Guarded (machine col) G (interroger r).run s
      (Trouve s fun v => ∃ x, r.effet col x s = .ok (v, s)) := by
  refine guarded_perform.2 fun x => ⟨hG _ hr, executer_lecture hr, ?_⟩
  intro v hv
  rcases Requete.executer_cases col r x s with ⟨e, he⟩ | ⟨reponse, s', -, he, heq⟩
  · rw [show (machine col).step (.sql r) x s = (.error e, s) from he] at hv
    cases hv
  · have hs' : s' = s := by
      have hsame : (r.executer col x s).2 = s := executer_lecture hr
      rwa [heq] at hsame
    rw [show (machine col).step (.sql r) x s = (.ok reponse, s') from heq] at hv
    obtain rfl : reponse = v := Except.ok.inj hv
    exact ⟨x, hs' ▸ he⟩

/-- The rules listed for an owner are rows of this owner. -/
theorem guarded_listerRegles :
    Guarded (machine col) G (Regles.listerPourProprietaire A).run s
      (Trouve s fun regles => ∀ r ∈ regles, r ∈ s.reglesCategorisation ∧ r.ownerId = A) := by
  refine Trouve.run_mapError ((guarded_lecture hG rfl).mono ?_)
  rintro reponse s' ⟨rfl, hrows⟩
  refine ⟨rfl, fun regles h r hr => ?_⟩
  obtain ⟨x, hx⟩ := hrows regles h
  obtain ⟨rfl, -⟩ := lire_eq_ok.1 hx
  simpa using hr

/-- The owner read for an account is the owner of its row. -/
theorem guarded_ownerDuCompte {compte : BankAccountId} :
    Guarded (machine col) G (BankTransactions.ownerDuCompte compte).run s
      (Trouve s fun B => s.proprietaireDuCompte compte = some B) := by
  refine Trouve.run_mapError ((guarded_lecture hG rfl).mono ?_)
  rintro reponse s' ⟨rfl, howner⟩
  refine ⟨rfl, fun B h => ?_⟩
  obtain ⟨x, hx⟩ := howner B h
  simp only [Requete.effet, RequeteCompte.effet] at hx
  split at hx
  · obtain ⟨rfl, -⟩ := lire_eq_ok.1 hx
    assumption
  · cases hx

/-- A category said to be within reach of an owner is a row this owner may use. -/
theorem guarded_categorieAccessible {category : CategoryId} :
    Guarded (machine col) G (BankTransactions.categorieAccessible A category).run s
      (Trouve s fun existe => existe = true → s.CategorieAccessible A category) := by
  refine Trouve.run_bind (Trouve.run_mapError (guarded_lecture hG rfl)) fun trouve htrouve => ?_
  refine Trouve.run_pure fun hsome => ?_
  obtain ⟨x, hx⟩ := htrouve
  obtain ⟨rfl, -⟩ := lire_eq_ok.1 hx
  cases hc : s.category.find? category with
  | none => simp [hc] at hsome
  | some c =>
      obtain ⟨hmem, hid⟩ := Table.find?_eq_some.1 hc
      refine ⟨c, hmem, hid, ?_⟩
      simpa [hc, Store.categorieVisible] using hsome

/-- The salary category read for an owner is one of the rows called so that this owner may use. -/
theorem guarded_categorieCreditParDefaut :
    Guarded (machine col) G (BankTransactions.categorieCreditParDefaut A).run s
      (Trouve s fun trouvee => ∀ c, trouvee = some c → s.CategorieSalaire A c) := by
  refine Trouve.run_mapError ((guarded_lecture hG rfl).mono ?_)
  rintro reponse s' ⟨rfl, hrows⟩
  refine ⟨rfl, fun trouvee h c hc => ?_⟩
  obtain ⟨x, hx⟩ := hrows trouvee h
  obtain ⟨rfl, -⟩ := lire_eq_ok.1 hx
  obtain ⟨row, hrow, rfl⟩ := Option.map_eq_some_iff.1 hc
  have hmem := List.mem_of_head? hrow
  simp only [RequeteTransaction.categoriesSalaire, mem_sortBy, mem_arrange, Table.mem_select,
    Bool.and_eq_true, decide_eq_true_eq, Bool.or_eq_true] at hmem
  exact ⟨row, hmem.1, rfl, hmem.2.1.1, hmem.2.2⟩

/-- The consent fetched for an owner is a row of this owner, with its status. -/
theorem guarded_fetchPourProprietaire {crypto : CryptoService} {id : ConsentId} :
    Guarded (machine col) G (ConsentsAdapter.fetchPourProprietaire crypto A id).run s
      (Trouve s fun trouve => ∀ c, trouve = some c →
        ∃ row ∈ s.consent, row.id = id ∧ row.ownerId = A ∧ c.status = row.status) := by
  refine Trouve.run_mapError (Trouve.run_bind (Trouve.run_mapError (guarded_lecture hG rfl)) ?_)
  rintro trouve ⟨x, hx⟩
  obtain ⟨rfl, -⟩ := lire_eq_ok.1 hx
  split
  · exact Trouve.run_pure fun c hc => nomatch hc
  · rename_i row hrow
    refine Trouve.run_bind (F := fun c => c.status = row.status) (Trouve.run_ofExcept ?_) ?_
    · exact fun c hc => intoConsent_status hc
    · intro c hc
      refine Trouve.run_pure ?_
      rintro _ ⟨⟩
      obtain ⟨hfind, howner⟩ := Option.filter_eq_some_iff.1 hrow
      obtain ⟨hmem, hid⟩ := Table.find?_eq_some.1 hfind
      exact ⟨row, hmem, hid, by simpa using howner, hc⟩

end Found

/-! ## Consents stay with their owner -/

/-- A request that does not delete consents. -/
def Op.GardeConsents (o : Op) : Prop :=
  ∀ owner, o ≠ .sql (.consent (.supprimerParProprietaire owner))

/-- A read says nothing about consents. -/
theorem gardeConsents_of_lecture {o : Op} (h : o.ecrit = []) : o.GardeConsents := by
  rintro owner rfl
  simp at h

/-- Who has a consent never changes; only a deletion takes it away. -/
theorem Store.ConsentDe.after {col : Collation} {A : ProprietaireId} {e : Evenement col}
    {id : ConsentId} (h : e.before.ConsentDe A id) (he : e.op.GardeConsents) :
    e.after.ConsentDe A id := by
  by_cases hw : NomTable.consent ∈ e.op.ecrit
  · obtain ⟨s, o, x⟩ := e
    cases o with
    | sql r =>
        refine Requete.executer_preserves (I := fun s' => s'.ConsentDe A id) h ?_
        intro reponse s' heffet
        obtain ⟨c, hc, hid, howner⟩ := h
        rcases r with r | r | r | r <;> cases r <;> try simp at hw
        case consent.insertInitie =>
          obtain ⟨t, ht, -, rfl⟩ := by
            simpa [Requete.effet, RequeteConsent.effet] using heffet
          exact ⟨c, (Table.mem_of_insert ht).2 (.inl hc), hid, howner⟩
        case consent.mettreAJour | consent.marquerStatutProprietaire
            | consent.marquerStatutConsent =>
          obtain ⟨-, rfl⟩ := by simpa [Requete.effet, RequeteConsent.effet] using heffet
          refine ⟨_, Store.mem_majConsent.2 ⟨c, hc, rfl⟩, ?_, ?_⟩ <;> split <;> assumption
        case consent.supprimerParProprietaire owner => exact absurd rfl (he owner)
    | banque | publier | nonce | uuidV4 | maintenant => exact absurd hw (by simp)
  · obtain ⟨c, hc, hid, howner⟩ := h
    have hsame : e.after.consent = e.before.consent := pareil_event hw
    exact ⟨c, hsame ▸ hc, hid, howner⟩

/-! ## The operations -/

section Operations

open Prog

variable {col : Collation} {crypto : CryptoService} {U : Set (List UInt8)} {A : ProprietaireId}
  {s₀ s : Store}

/-- A read is about the rows of anyone. -/
private theorem pour_lecture (e : Evenement col) (h : e.op.ecrit = []) : e.Pour crypto U A :=
  pour_of_lecture h

/-- A read may be sent while some tables are held fixed. -/
private theorem admise_lecture {T : List NomTable} (o : Op) (h : o.ecrit = []) :
    Admise crypto U A T s₀ o :=
  admise_of_lecture h

/-- An operation outside the database and the bank may be sent while some tables are held fixed. -/
private theorem admise_interne {T : List NomTable} (o : Op) (h : o.Interne) :
    Admise crypto U A T s₀ o :=
  admise_lecture o h.lecture

/-- A program whose writes name `A` in every state serves `A`. -/
private theorem pour_of_uses {α : Type} {p : Programme α}
    (hp : p.Uses (Admise crypto U A [] s)) :
    Guarded (machine col) (Evenement.Pour crypto U A) p s fun _ _ => True :=
  (guarded_of_admise hp .refl).mono fun _ _ _ => trivial

/-- The same, for a write that serves `A` in every state. -/
private theorem admise_nil {o : Op} (h : ∀ s, o.Pour crypto U A s) :
    Admise crypto U A [] s₀ o :=
  ⟨by simp, fun s _ => h s⟩

/-! ### Consents -/

/-- `create_consent` sends statements about its owner only. -/
theorem pour_createConsent {url bankId : String} :
    Guarded (machine col) (Evenement.Pour crypto U A)
      (Handlers.createConsent crypto A url bankId).run s fun _ _ => True := by
  refine pour_of_uses ?_
  unfold Handlers.createConsent
  dsimp only
  by_cases h : Text.trim bankId = ""
  · rw [if_pos h]
    exact uses_pure _
  · rw [if_neg h]
    refine Uses.run_bind (Uses.run_ofProg (uses_demander (admise_lecture _ rfl))) fun id => ?_
    refine Uses.run_bind (uses_banqueApi (admise_lecture _ rfl)) fun initie => ?_
    refine Uses.run_bind (Uses.run_mapError (uses_enregistrerInitie admise_interne ?_)) fun _ =>
      uses_pure _
    exact fun blob hblob => admise_nil fun _ => ⟨rfl, hblob⟩

/-- So does `renew_consent`. -/
theorem pour_renewConsent {url : String} {id : ConsentId} :
    Guarded (machine col) (Evenement.Pour crypto U A)
      (Handlers.renewConsent crypto A url id).run s fun _ _ => True := by
  refine pour_of_uses ?_
  refine Uses.run_bind ?_ fun consent => Uses.run_bind uses_ouErreur fun etablissement => ?_
  · refine Uses.run_bind (Uses.run_mapError (uses_fetchPourProprietaire admise_interne))
      fun trouve => Uses.run_bind uses_ouErreur fun consent => ?_
    refine Uses.run_bind (Uses.run_ofProg (uses_demander (admise_lecture _ rfl)))
      fun maintenant => ?_
    split
    · exact uses_pure _
    · exact uses_pure _
  · refine Uses.run_bind (uses_banqueApi (admise_lecture _ rfl)) fun initie => ?_
    refine Uses.run_bind (Uses.run_mapError (uses_mettreAJourConsent admise_interne ?_)) fun _ =>
      uses_pure _
    exact fun blob hblob => admise_nil fun _ => ⟨rfl, hblob⟩

/-- The requests of the refusal of an account. -/
theorem uses_refuserCompteConcurrent {P : Op → Prop} {id : ConsentId} {compte : BankAccount}
    (hi : ∀ o : Op, o.Interne → P o)
    (hmarquer : P (.sql (.consent (.marquerStatutProprietaire .failed id A)))) :
    (Handlers.refuserCompteConcurrent crypto A id compte).run.Uses P := by
  refine Uses.run_bind (Uses.run_mapError (uses_proprietaireConcurrent hi)) ?_
  rintro (_ | autre)
  · exact uses_pure _
  · exact Uses.run_bind (Uses.run_mapError (Uses.run_mapError (Uses.run_bind
      (uses_interrogerChiffre hmarquer) fun _ => uses_pure _))) fun _ => uses_pure _

/-- The requests of the registration of an account. -/
theorem uses_attacherCompte {P : Op → Prop} {id : ConsentId} {compte : BankAccount}
    (hi : ∀ o : Op, o.Interne → P o)
    (hinsert : ∀ l : InsertionCompte, l.owner = A → l.consentId = id → CompteScelle crypto l →
      P (.sql (.compte (.insert l)))) :
    (Handlers.enregistrerCompte crypto A id compte).run.Uses P := by
  refine Uses.run_bind (Uses.run_mapError (uses_enregistrerCompte hi ?_)) fun _ => uses_pure _
  rintro l nonce howner hconsent hexterne hdedup hempreinte
  refine hinsert l howner hconsent ⟨nonce, compte.externalAccountId, ?_, ?_, hempreinte⟩
  · rw [howner]
    exact hexterne
  · rw [hconsent]
    exact hdedup

/-- The requests of a callback, once its consent is found. -/
theorem uses_completerConsentEnAttente {P : Op → Prop} {id : ConsentId}
    {payload : ConsentCallbackRequest} (hl : ∀ o : Op, o.ecrit = [] → P o)
    (hmaj : ∀ blob expiresAt, Chiffre crypto A "consent" "external_ref" blob →
      P (.sql (.consent (.mettreAJour .active blob expiresAt id A))))
    (hmarquer : P (.sql (.consent (.marquerStatutProprietaire .failed id A))))
    (hinsert : ∀ l : InsertionCompte, l.owner = A → l.consentId = id → CompteScelle crypto l →
      P (.sql (.compte (.insert l)))) :
    (Handlers.completerConsentEnAttente crypto A id payload).run.Uses P := by
  have hi : ∀ o : Op, o.Interne → P o := fun o h => hl o h.lecture
  have hstatut : (ConsentsAdapter.marquerStatut A id .failed).run.Uses P :=
    Uses.run_mapError (Uses.run_bind (uses_interrogerChiffre hmarquer) fun _ => uses_pure _)
  refine Uses.run_bind (Uses.run_attempt (uses_appelerBanque (hl _ rfl))) ?_
  rintro (erreur | actif)
  · refine Uses.run_bind (Uses.run_bind (Uses.run_attempt hstatut) ?_) fun _ => uses_pure _
    rintro (_ | _) <;> exact uses_pure _
  · refine Uses.run_bind (Uses.run_mapError (uses_mettreAJourConsent hi fun blob hblob =>
      hmaj _ _ hblob)) fun _ => ?_
    refine Uses.run_bind (uses_banqueApi (hl _ rfl)) fun comptes => ?_
    refine Uses.run_bind (Uses.run_forM fun compte _ => uses_refuserCompteConcurrent hi hmarquer)
      fun _ => Uses.run_bind (Uses.run_forM fun compte _ => uses_attacherCompte hi hinsert)
        fun _ => ?_
    exact Uses.run_bind (Uses.run_mapError (uses_listerParConsent hi)) fun _ => uses_pure _

/-- So does `complete_consent`. -/
theorem pour_completeConsent {payload : ConsentCallbackRequest} :
    Guarded (machine col) (Evenement.Pour crypto U A)
      (Handlers.completeConsent crypto A payload).run s fun _ _ => True := by
  refine Guarded.run_bind (Trouve.run_ofExcept (F := fun _ => True) fun _ _ => trivial) ?_
    fun _ _ _ => trivial
  rintro id s' ⟨rfl, -⟩
  refine Guarded.run_bind (Trouve.run_mapError (guarded_fetchPourProprietaire pour_lecture)) ?_
    fun _ _ _ => trivial
  rintro (_ | consent) s'' ⟨rfl, htrouve⟩
  · exact guarded_pure.2 trivial
  · obtain ⟨row, hrow, hid, howner, -⟩ := htrouve _ rfl consent rfl
    -- what follows may rely on the consent, which no request takes away from `A`
    refine (Guarded.of_uses (I := fun s => s.ConsentDe A id)
      (P := fun o : Op => o.GardeConsents ∧ ∀ s : Store, s.ConsentDe A id → o.Pour crypto U A s) ?_
      ⟨row, hrow, hid, howner⟩ fun e he h => ⟨he.2 _ h, h.after he.1⟩).mono fun _ _ _ => trivial
    have hl : ∀ o : Op, o.ecrit = [] →
        o.GardeConsents ∧ ∀ s : Store, s.ConsentDe A id → o.Pour crypto U A s := fun o h =>
      ⟨gardeConsents_of_lecture h, fun _ _ => pour_of_lecture h⟩
    refine Uses.run_bind uses_ouErreur fun consent => ?_
    split
    · exact Uses.run_bind (Uses.run_mapError (uses_listerParConsent fun o h => hl o h.lecture))
        fun _ => uses_pure _
    · refine uses_completerConsentEnAttente hl ?_ ?_ ?_
      · exact fun _ _ hblob => ⟨fun _ h => (nomatch h), fun _ _ => ⟨rfl, hblob⟩⟩
      · exact ⟨fun _ h => (nomatch h), fun _ _ => rfl⟩
      · intro l howner hconsent hscelle
        refine ⟨fun _ h => (nomatch h), fun s hs => ⟨howner, ?_, hscelle⟩⟩
        rw [hconsent]
        exact hs

/-! ### Transactions and rules -/

/-- The tables the application of a rule relies on. -/
private def tablesRegles : List NomTable := [.reglesCategorisation, .category, .bankAccount]

/-- The batch of a rule of the owner is about the owner's transactions. -/
private theorem admise_regleParLot {regle : RegleCategorisation} {ids : List Uuid}
    (hr : regle ∈ s₀.reglesCategorisation) (howner : regle.ownerId = A) :
    Admise crypto U A tablesRegles s₀ (.sql (.transaction
      (.appliquerRegleParLot regle.categoryId regle.id ids regle.ownerId))) := by
  refine ⟨by simp [tablesRegles], fun s hs => ⟨howner, regle, ?_, rfl, rfl, howner⟩⟩
  have hsame : s.reglesCategorisation = s₀.reglesCategorisation :=
    hs .reglesCategorisation (by simp [tablesRegles])
  exact hsame ▸ hr

/-- A statement on transactions may be sent when it is about the owner in every store that
agrees on the tables held fixed. -/
private theorem admise_transaction {T : List NomTable} {r : RequeteTransaction}
    (hT : .bankTransaction ∉ T) (hr : r.ecrit = [.bankTransaction])
    (h : ∀ s, Fixe T s₀ s → r.Pour crypto U A s) :
    Admise crypto U A T s₀ (.sql (.transaction r)) := by
  refine ⟨fun t ht hmem => ?_, fun s hs => h s hs⟩
  have hmem : t ∈ r.ecrit := hmem
  rw [hr, List.mem_singleton] at hmem
  exact hT (hmem ▸ ht)

/-- The tables a rule reads decide the owner of an account. -/
private theorem proprietaire_fixe {s' : Store} (h : Fixe tablesRegles s s')
    (compte : BankAccountId) : s'.proprietaireDuCompte compte = s.proprietaireDuCompte compte := by
  have hsame : s'.bankAccount = s.bankAccount := h .bankAccount (by simp [tablesRegles])
  unfold Store.proprietaireDuCompte
  rw [hsame]

/-- The insertion of an observation, on an account of `A`. -/
private theorem pour_insert {nouvelle : NouvelleTransactionBancaire}
    (hU : CryptoService.messageDedup nouvelle.bankAccount.asBytes
      nouvelle.externalTransactionId ∈ U)
    (hA : ∀ B, s.proprietaireDuCompte nouvelle.bankAccount = some B → B = A) :
    Guarded (machine col) (Evenement.Pour crypto U A)
      (BankTransactions.insert crypto nouvelle).run s fun _ s' => Fixe tablesRegles s s' := by
  refine Guarded.run_bind (guarded_ownerDuCompte pour_lecture) ?_ fun _ _ h => h.1 ▸ .refl
  rintro owner s' ⟨rfl, howner⟩
  obtain rfl := hA owner (howner owner rfl)
  refine guarded_of_admise ?_ .refl
  refine uses_chiffrerTexteFrais_bind (admise_lecture _ rfl) fun nonce externe hexterne => ?_
  refine Uses.run_bind (uses_chiffrerTexteFrais (admise_lecture _ rfl)) fun label => ?_
  refine Uses.run_bind (uses_chiffrerMontantFrais (admise_lecture _ rfl)) fun amount => ?_
  refine Uses.run_bind (uses_interrogerChiffre (admise_transaction (by simp [tablesRegles]) rfl
    fun s hs => ⟨?_, nonce, nouvelle.externalTransactionId, hU, hexterne, rfl⟩)) ?_
  · rw [proprietaire_fixe hs]
    exact howner owner rfl
  · intro resultat
    split <;> exact uses_pure _

/-- The rules applied to an inserted transaction are those of the owner of its account. -/
private theorem pour_categoriserTransactionInseree {compte : BankAccountId}
    {transaction : TransactionBancaireId} {label : String}
    (hA : ∀ B, s.proprietaireDuCompte compte = some B → B = A) :
    Guarded (machine col) (Evenement.Pour crypto U A)
      (BankTransactionsAdapter.categoriserTransactionInseree compte transaction label).run s
        fun _ s' => Fixe tablesRegles s s' := by
  refine Guarded.run_bind (Trouve.run_mapError (guarded_ownerDuCompte pour_lecture)) ?_
    fun _ _ h => h.1 ▸ .refl
  rintro owner s' ⟨rfl, howner⟩
  obtain rfl := hA owner (howner owner rfl)
  refine Guarded.run_bind (Trouve.run_mapError (guarded_listerRegles pour_lecture)) ?_
    fun _ _ h => h.1 ▸ .refl
  rintro regles s'' ⟨rfl, hregles⟩
  split
  · rename_i regle hregle
    obtain ⟨hmem, howner⟩ := hregles regles rfl regle (selectionnerRegle_mem hregle).1
    refine guarded_of_admise (Uses.run_mapError (Uses.run_bind (uses_interrogerChiffre
      (admise_transaction (by simp [tablesRegles]) rfl fun s hs => ?_)) fun _ => uses_pure _)) .refl
    have hsame : s.reglesCategorisation = s''.reglesCategorisation :=
      hs .reglesCategorisation (by simp [tablesRegles])
    exact ⟨rfl, regle, hsame ▸ hmem, rfl, rfl, howner⟩
  · exact guarded_pure.2 .refl

/-- One observation: the insertion, then the rules of the owner of the account. -/
theorem pour_enregistrer {nouvelle : NouvelleTransactionBancaire}
    (hU : CryptoService.messageDedup nouvelle.bankAccount.asBytes
      nouvelle.externalTransactionId ∈ U)
    (hA : ∀ B, s.proprietaireDuCompte nouvelle.bankAccount = some B → B = A) :
    Guarded (machine col) (Evenement.Pour crypto U A)
      (BankTransactionsAdapter.enregistrer crypto nouvelle).run s
        fun _ s' => Fixe tablesRegles s s' := by
  refine Guarded.run_bind (R := fun _ s' => Fixe tablesRegles s s')
    (Guarded.run_mapError (pour_insert hU hA)) ?_ fun _ _ h => h
  rintro (id | _) s' hs'
  · refine Guarded.run_bind (R := fun _ s'' => Fixe tablesRegles s' s'')
      (Guarded.run_attempt (pour_categoriserTransactionInseree ?_)) ?_ ?_
    · intro B hB
      rw [proprietaire_fixe hs'] at hB
      exact hA B hB
    · exact fun _ s'' hs'' => guarded_run_pure.2 fun t ht => (hs' t ht).trans (hs'' t ht)
    · exact fun _ s'' hs'' t ht => (hs' t ht).trans (hs'' t ht)
  · exact guarded_run_pure.2 hs'

/-- The recalculation of the internal transfers sends statements about its owner only, and
touches no table a rule reads. -/
theorem pour_recalculerTransfertsInternes :
    Guarded (machine col) (Evenement.Pour crypto U A)
      (BankTransactionsAdapter.recalculerTransfertsInternes crypto A).run s
        fun _ s' => Fixe tablesRegles s s' := by
  refine guarded_of_admise (uses_recalculerTransfertsInternes admise_interne ?_ ?_) .refl
  · exact admise_transaction (by simp [tablesRegles]) rfl fun _ _ => rfl
  · exact fun ids => admise_transaction (by simp [tablesRegles]) rfl fun _ _ => rfl

/-- The retroactive batch of a rule of `A`. -/
private theorem uses_appliquer {regle : RegleCategorisation}
    (hr : regle ∈ s₀.reglesCategorisation) (howner : regle.ownerId = A) :
    (BankTransactionsAdapter.appliquerRegleRetroactif crypto regle).run.Uses
      (Admise crypto U A tablesRegles s₀) :=
  uses_appliquerRegleRetroactif admise_interne fun _ => admise_regleParLot hr howner

/-- The default credits go to the category found for `A`. -/
private theorem pour_creditsParDefaut :
    Guarded (machine col) (Evenement.Pour crypto U A)
      (BankTransactionsAdapter.recategoriserCredits crypto A).run s fun _ _ => True := by
  refine Guarded.run_bind (Trouve.run_mapError (guarded_categorieCreditParDefaut pour_lecture)) ?_
    fun _ _ _ => trivial
  rintro (_ | category) s' ⟨rfl, hcategory⟩
  · exact guarded_pure.2 trivial
  · refine (guarded_of_admise (T := tablesRegles) ?_ (.refl : Fixe _ s' s')).mono
      fun _ _ _ => trivial
    refine Uses.run_bind (Uses.run_mapError ?_) fun credits => Uses.run_mapError ?_
    · refine Uses.run_bind (uses_interrogerChiffre (admise_lecture _ rfl)) fun rows => ?_
      exact Uses.run_bind uses_ofExcept fun _ => uses_pure _
    · unfold BankTransactions.appliquerCategorieDefautParLot
      split
      · exact uses_pure _
      · refine uses_interrogerChiffre (admise_transaction (by simp [tablesRegles]) rfl ?_)
        intro s hs
        have hsame : s.category = s'.category := hs .category (by simp [tablesRegles])
        obtain ⟨c, hc, hfound⟩ := hcategory _ rfl category rfl
        exact ⟨rfl, c, hsame ▸ hc, hfound⟩

/-- `recategoriser_credits` sends statements about its owner only. -/
theorem pour_recategoriserCredits :
    Guarded (machine col) (Evenement.Pour crypto U A)
      (Handlers.recategoriserCredits crypto A).run s fun _ _ => True := by
  refine Guarded.run_bind (R := fun _ s' => Fixe tablesRegles s s')
    (Guarded.run_mapError pour_recalculerTransfertsInternes) ?_ fun _ _ _ => trivial
  intro _ s₁ _
  refine Guarded.run_bind (Trouve.run_mapError (guarded_listerRegles pour_lecture)) ?_
    fun _ _ _ => trivial
  rintro regles s₂ ⟨rfl, hregles⟩
  refine Guarded.run_bind (R := fun _ s' => Fixe tablesRegles s₂ s')
    (guarded_of_admise (Uses.run_foldlM (fun n regle hregle => ?_) 0) .refl) ?_
    fun _ _ _ => trivial
  · obtain ⟨hmem, howner⟩ := hregles regles rfl regle hregle
    exact Uses.run_bind (Uses.run_mapError (uses_appliquer hmem howner)) fun _ => uses_pure _
  · intro n s₃ _
    refine Guarded.run_bind (R := fun _ _ => True) (Guarded.run_mapError pour_creditsParDefaut) ?_
      fun _ _ _ => trivial
    exact fun _ _ _ => guarded_run_pure.2 trivial

/-- So does `categorize_transaction`. -/
theorem pour_categorizeTransaction {compte transaction : Uuid} {category : CategoryId} :
    Guarded (machine col) (Evenement.Pour crypto U A)
      (Handlers.categorizeTransaction crypto A compte transaction category).run s
        fun _ _ => True := by
  refine Guarded.run_bind (R := fun _ _ => True) (Guarded.run_mapError (Guarded.run_mapError ?_))
    ?_ fun _ _ _ => trivial
  · refine Guarded.run_bind (guarded_categorieAccessible pour_lecture) ?_ fun _ _ _ => trivial
    rintro (_ | _) s' ⟨rfl, hacces⟩
    · exact guarded_pure.2 trivial
    · refine (guarded_of_admise (T := tablesRegles) ?_ (.refl : Fixe _ s' s')).mono
        fun _ _ _ => trivial
      refine Uses.run_bind (uses_interrogerChiffre
        (admise_transaction (by simp [tablesRegles]) rfl ?_)) fun miseAJour => ?_
      · intro s hs
        have hsame : s.category = s'.category := hs .category (by simp [tablesRegles])
        obtain ⟨c, hc, hfound⟩ := hacces _ rfl rfl
        exact ⟨rfl, c, hsame ▸ hc, hfound⟩
      · split
        · exact uses_pure _
        · refine Uses.run_bind ?_ ?_
          · refine Uses.run_bind (uses_interrogerChiffre (admise_lecture _ rfl)) ?_
            rintro (_ | row)
            · exact uses_pure _
            · exact Uses.run_bind uses_ofExcept fun _ => uses_pure _
          · rintro (_ | t) <;> exact uses_pure _
  · rintro (t | _ | _) s' _ <;> exact guarded_pure.2 trivial

/-- What `creer` returns is a rule of the store, for the owner it was asked for. -/
private theorem pour_creerRegle {nouvelle : NouvelleRegleCategorisation}
    (hA : nouvelle.proprietaire = A) :
    Guarded (machine col) (Evenement.Pour crypto U A) (Regles.creer nouvelle).run s
      fun r s' => ∀ regle, r = .ok (some regle) →
        regle ∈ s'.reglesCategorisation ∧ regle.ownerId = A := by
  refine Guarded.run_mapError (guarded_perform.2 fun x => ⟨hA, fun regle hregle => ?_⟩)
  obtain ⟨e, he⟩ | ⟨trouvee, s', -, heffet, heq⟩ := Requete.executer_cases col
    (.classement (.creerRegle nouvelle.proprietaire nouvelle.labelPattern.asStr
      nouvelle.categoryId nouvelle.priority)) x s
  · rw [show (machine col).step _ x s = _ from he] at hregle
    cases hregle
  · rw [show (machine col).step _ x s = _ from heq] at hregle ⊢
    obtain rfl : trouvee = some regle := Except.ok.inj hregle
    simp only [Requete.effet, RequeteClassement.effet] at heffet
    split at heffet
    · obtain ⟨t, ht, hligne, rfl⟩ := by simpa using heffet
      exact ⟨(Table.mem_of_insert ht).2 (.inr hligne.symm), hligne ▸ hA⟩
    · exact absurd (lire_eq_ok.1 heffet).1 (by simp)

/-- So does the creation of a rule, which applies it at once. -/
private theorem pour_creerEtAppliquer {nouvelle : NouvelleRegleCategorisation}
    (hA : nouvelle.proprietaire = A) :
    Guarded (machine col) (Evenement.Pour crypto U A)
      (Handlers.creerEtAppliquer crypto nouvelle).run s fun _ _ => True := by
  refine Guarded.run_bind (R := fun r s' => ∀ regle, r = .ok (some regle) →
    regle ∈ s'.reglesCategorisation ∧ regle.ownerId = A) ?_ ?_ fun _ _ _ => trivial
  · refine Guarded.run_mapError ((pour_creerRegle hA).mono ?_)
    rintro (e | trouvee) s' h regle hregle
    · cases hregle
    · exact h regle (congrArg _ (Except.ok.inj hregle))
  · rintro (_ | regle) s' hcreee
    · exact guarded_pure.2 trivial
    · obtain ⟨hmem, howner⟩ := hcreee regle rfl
      refine Guarded.run_bind (R := fun r s'' => r = .ok regle ∧ s'' = s')
        (guarded_pure.2 ⟨rfl, rfl⟩) ?_ fun _ _ _ => trivial
      rintro _ _ ⟨⟨⟩, rfl⟩
      refine (guarded_of_admise (T := tablesRegles) ?_ .refl).mono fun _ _ _ => trivial
      exact Uses.run_bind (Uses.run_attempt (uses_appliquer hmem howner)) fun _ => uses_pure _

/-- So does `create_rule`. -/
theorem pour_createRule {payload : CreateCategorizationRuleRequest} :
    Guarded (machine col) (Evenement.Pour crypto U A)
      (Handlers.createRule crypto A payload).run s fun _ _ => True := by
  refine Guarded.run_bind (Trouve.run_ofExcept (F := fun _ => True) fun _ _ => trivial) ?_
    fun _ _ _ => trivial
  exact fun _ _ _ => pour_creerEtAppliquer rfl

/-- So does `create_rule_from_transaction`. -/
theorem pour_createRuleFromTransaction {compte transaction : Uuid} {category : CategoryId} :
    Guarded (machine col) (Evenement.Pour crypto U A)
      (Handlers.createRuleFromTransaction crypto A compte transaction category).run s
        fun _ _ => True := by
  refine Guarded.run_bind (R := fun _ _ => True) (pour_of_uses (Uses.run_mapError
    (uses_libelleTransaction admise_interne))) (fun trouve s' _ => ?_) fun _ _ _ => trivial
  refine Guarded.run_bind (R := fun _ _ => True) (pour_of_uses uses_ouErreur) (fun label s' _ => ?_)
    fun _ _ _ => trivial
  refine Guarded.run_bind (R := fun _ _ => True) (pour_of_uses uses_ofExcept) (fun motif s' _ => ?_)
    fun _ _ _ => trivial
  exact pour_creerEtAppliquer rfl

/-! ### Categories, envelopes, budgets, preferences, erasure -/

/-- One statement whose owner is `A`. -/
private theorem uses_ecriture {r : Requete} {f : SqlxError → EcritureError}
    (h : ∀ s, r.Pour crypto U A s) :
    (ecritureApi ((interroger r).mapError f)).run.Uses (Admise crypto U A [] s₀) :=
  Uses.run_mapError (Uses.run_mapError (uses_interroger (admise_nil h)))

/-- So does `create_category`. -/
theorem pour_createCategory {payload : CategoryRequest} :
    Guarded (machine col) (Evenement.Pour crypto U A)
      (Handlers.createCategory A payload).run s fun _ _ => True := by
  refine pour_of_uses (Uses.run_bind uses_ofExcept fun name => Uses.run_bind uses_ofExcept
    fun kind => ?_)
  exact Uses.run_bind (uses_ecriture fun _ => rfl) fun _ => uses_pure _

/-- So does `update_category`. -/
theorem pour_updateCategory {id : CategoryId} {payload : CategoryRequest} :
    Guarded (machine col) (Evenement.Pour crypto U A)
      (Handlers.updateCategory A id payload).run s fun _ _ => True := by
  refine pour_of_uses (Uses.run_bind uses_ofExcept fun name => Uses.run_bind uses_ofExcept
    fun kind => ?_)
  exact Uses.run_bind (uses_ecriture fun _ => rfl) fun _ => Uses.run_bind uses_ouErreur
    fun _ => uses_pure _

/-- A deletion that answers whether it found something. -/
private theorem uses_suppression {r : Requete} {f : SqlxError → EcritureError} {e : ApiError}
    {trouve : r.Reponse → Bool} (h : ∀ s, r.Pour crypto U A s) :
    (do
      let trouvee ← ecritureApi (do
        let reponse ← (interroger r).mapError f
        return trouve reponse)
      if !trouvee then throw e : Tache ApiError PUnit).run.Uses (Admise crypto U A [] s₀) := by
  refine Uses.run_bind (Uses.run_mapError (Uses.run_bind (Uses.run_mapError
    (uses_interroger (admise_nil h))) fun _ => uses_pure _)) fun trouvee => ?_
  split <;> exact uses_pure _

/-- So does `delete_category`. -/
theorem pour_deleteCategory {id : CategoryId} :
    Guarded (machine col) (Evenement.Pour crypto U A)
      (Handlers.deleteCategory A id).run s fun _ _ => True :=
  pour_of_uses (uses_suppression fun _ => rfl)

/-- So does `delete_enveloppe`. -/
theorem pour_deleteEnveloppe {id : EnveloppeId} :
    Guarded (machine col) (Evenement.Pour crypto U A)
      (Handlers.deleteEnveloppe A id).run s fun _ _ => True :=
  pour_of_uses (uses_suppression fun _ => rfl)

/-- So does `affecter_transaction`. -/
theorem pour_affecterTransaction {transaction : Uuid} {enveloppe : Option EnveloppeId} :
    Guarded (machine col) (Evenement.Pour crypto U A)
      (Handlers.affecterTransaction A transaction enveloppe).run s fun _ _ => True :=
  pour_of_uses (uses_suppression fun _ => rfl)

/-- So does `create_enveloppe`. -/
theorem pour_createEnveloppe {payload : EnveloppeRequest} :
    Guarded (machine col) (Evenement.Pour crypto U A)
      (Handlers.createEnveloppe A payload).run s fun _ _ => True := by
  refine pour_of_uses (Uses.run_bind uses_ofExcept fun requete => ?_)
  exact Uses.run_bind (uses_ecriture fun _ => rfl) fun _ => uses_pure _

/-- So does `update_enveloppe`. -/
theorem pour_updateEnveloppe {id : EnveloppeId} {payload : EnveloppeRequest} :
    Guarded (machine col) (Evenement.Pour crypto U A)
      (Handlers.updateEnveloppe crypto A id payload).run s fun _ _ => True := by
  refine pour_of_uses (Uses.run_bind uses_ofExcept fun requete => ?_)
  refine Uses.run_bind (uses_ecriture fun _ => rfl) fun _ => Uses.run_bind uses_ouErreur
    fun enveloppe => Uses.run_bind (Uses.run_mapError ?_) fun _ => uses_pure _
  refine Uses.run_bind (Uses.run_mapError (uses_interroger (admise_lecture _ rfl))) fun rows =>
    Uses.run_bind ?_ fun _ => uses_pure _
  exact Uses.run_bind (Uses.run_mapError (uses_interroger (admise_lecture _ rfl))) fun rows =>
    Uses.run_bind uses_ofExcept fun _ => uses_pure _

/-- So does `upsert_budget`. -/
theorem pour_upsertBudget {payload : UpsertBudgetRequest} :
    Guarded (machine col) (Evenement.Pour crypto U A)
      (Handlers.upsertBudget A payload).run s fun _ _ => True := by
  refine pour_of_uses (Uses.run_bind uses_ofExcept fun montant => Uses.run_bind uses_ofExcept
    fun mois => ?_)
  exact Uses.run_bind (uses_ecriture fun _ => rfl) fun _ => uses_ouErreur

/-- So does `update_preferences`. -/
theorem pour_updatePreferences {jour : ℕ} :
    Guarded (machine col) (Evenement.Pour crypto U A)
      (Handlers.updatePreferences A jour).run s fun _ _ => True := by
  refine pour_of_uses ?_
  unfold Handlers.updatePreferences
  split
  · refine Uses.run_mapError (Uses.run_bind (Uses.run_mapError (uses_interroger
      (admise_nil fun _ => rfl))) fun _ => uses_pure _)
  · exact uses_pure _

/-- So does the erasure of the data of an owner. -/
theorem pour_effacer :
    Guarded (machine col) (Evenement.Pour crypto U A)
      (Effacement.effacerDonneesProprietaire crypto A).run s fun _ _ => True := by
  refine pour_of_uses (Uses.run_bind (Uses.run_mapError (uses_listerActifs admise_interne))
    fun actifs => Uses.run_bind (Uses.run_foldlM (fun rapport consent _ => ?_) _) fun rapport => ?_)
  · refine Uses.run_bind (Uses.run_attempt (uses_appelerBanque (admise_lecture _ rfl))) ?_
    rintro (_ | _) <;> exact uses_pure _
  · refine Uses.run_bind (Uses.run_mapError (Uses.run_mapError
      (uses_interrogerChiffre (admise_nil fun _ => rfl)))) fun _ => ?_
    refine Uses.run_bind (Uses.run_mapError (Uses.run_mapError
      (uses_interrogerChiffre (admise_nil fun _ => rfl)))) fun _ => uses_pure _

/-! ### The cycle of the worker -/

/-- A request of a run that serves some owner. -/
def Evenement.PourUn (crypto : CryptoService) (e : Evenement col) : Prop :=
  ∃ B, e.Pour crypto Set.univ B

/-- The requests that serve some owner in every state. -/
private def PourUn (crypto : CryptoService) (o : Op) : Prop :=
  ∀ s, ∃ B, o.Pour crypto Set.univ B s

/-- A read is about a single owner. -/
private theorem pourUn_lecture (o : Op) (h : o.ecrit = []) : PourUn crypto o :=
  fun _ => ⟨"", pour_of_lecture h⟩

/-- So is an operation outside the database and the bank. -/
private theorem pourUn_interne (o : Op) (h : o.Interne) : PourUn crypto o :=
  pourUn_lecture o h.lecture

/-- A consent has one owner at most. -/
private theorem pourUn_statut {id : ConsentId} {statut : ConsentStatus} :
    PourUn crypto (.sql (.consent (.marquerStatutConsent id statut))) := by
  intro s
  cases h : s.consent.find? id with
  | none => exact ⟨"", fun c hc hid => absurd hid (Table.find?_eq_none.1 h c hc)⟩
  | some row =>
      obtain ⟨hrow, hid⟩ := Table.find?_eq_some.1 h
      exact ⟨row.ownerId, fun c hc hc' => congrArg _ (Table.eq_of_key_eq hc hrow (hc'.trans hid.symm))⟩

/-- An account has one owner at most. -/
private theorem exists_proprietaire (s : Store) (compte : BankAccountId) :
    ∃ A, ∀ B, s.proprietaireDuCompte compte = some B → B = A :=
  ⟨(s.proprietaireDuCompte compte).getD "", fun B h => by simp [h]⟩

/-- A program whose operations are each about a single owner sends only such statements. -/
private theorem guarded_pourUn {α : Type} {p : Programme α} (hp : p.Uses (PourUn crypto)) :
    Guarded (machine col) (Evenement.PourUn crypto) p s fun _ _ => True :=
  Guarded.of_uses hp trivial fun _ ho _ => ⟨ho _, trivial⟩

/-- Marking the status of a consent is about the owner of its row. -/
private theorem pourUn_marquerStatut {id : ConsentId} {statut : ConsentStatus} :
    (ConsentsAdapter.marquerStatutConsent id statut).run.Uses (PourUn crypto) :=
  Uses.run_mapError (Uses.run_bind (uses_interrogerChiffre pourUn_statut) fun _ => uses_pure _)

/-- Publishing an event is about a single owner. -/
private theorem pourUn_publier {ev : EvenementSynchro} :
    (Task.ofProg (publierEvenement ev) : Tache SynchroError Unit).run.Uses (PourUn crypto) :=
  Uses.run_ofProg (uses_demander (pourUn_lecture _ rfl))

/-- Bringing up the data of an account sends statements about a single owner each. -/
private theorem pourUn_remonterDonnees {parametres : ParametresSynchro} {consent : Consent}
    {compte : BankAccount} {rapport : RapportSynchro} :
    Guarded (machine col) (Evenement.PourUn crypto)
      (Synchro.remonterDonnees crypto parametres consent compte rapport) s fun _ _ => True := by
  unfold Synchro.remonterDonnees
  dsimp only
  refine Guarded.bind (guarded_pourUn (uses_appelerBanque (pourUn_lecture _ rfl))) ?_
  rintro (erreur | soldes) s₁ -
  · exact guarded_pure.2 trivial
  · refine Guarded.bind (Guarded.foldlM (I := fun _ => True) trivial ?_) ?_
    · intro acc solde _ s _
      refine guarded_pourUn (Uses.bind (uses_enregistrerBalance pourUn_interne fun amount s => ?_) ?_)
      · exact exists_proprietaire s _
      · rintro (_ | _) <;> exact uses_pure _
    · intro acc s₂ _
      refine Guarded.bind (guarded_pourUn (uses_appelerBanque (pourUn_lecture _ rfl))) ?_
      rintro (erreur | transactions) s₃ -
      · exact guarded_pure.2 trivial
      · refine Guarded.bind (Guarded.foldlM (I := fun _ => True) trivial ?_) fun _ _ _ =>
          guarded_pure.2 trivial
        intro acc transaction _ s _
        obtain ⟨A, hA⟩ := exists_proprietaire s compte.id
        refine Guarded.bind ((pour_enregistrer (Set.mem_univ _) hA).weaken fun _ he => ⟨A, he⟩) ?_
        rintro (_ | _ | _) s' - <;> exact guarded_pure.2 trivial

/-- So does the synchronisation of an account whose slot is taken. -/
private theorem pourUn_synchroniserCompteReserve {parametres : ParametresSynchro}
    {compte : CompteASynchroniser} {consent : Consent} {maintenant : DateTime}
    {rapport : RapportSynchro} :
    Guarded (machine col) (Evenement.PourUn crypto)
      (Synchro.synchroniserCompteReserve crypto parametres compte consent maintenant rapport).run s
        fun _ _ => True := by
  refine Guarded.run_bind (guarded_pourUn pourUn_publier) (fun _ s₁ _ => ?_) fun _ _ _ => trivial
  refine Guarded.run_bind (guarded_pourUn (Uses.run_ofProg ?_)) (fun _ s₂ _ => ?_)
    fun _ _ _ => trivial
  · unfold Synchro.publierRenouvellement
    split
    · exact uses_demander (pourUn_lecture _ rfl)
    · exact uses_pure _
  refine Guarded.run_bind (R := fun _ _ => True) (Guarded.run_ofProg pourUn_remonterDonnees) ?_
    fun _ _ _ => trivial
  rintro ⟨rapport, erreur | remontee⟩ s₃ -
  · refine guarded_pourUn (Uses.run_bind pourUn_publier fun _ => ?_)
    unfold Synchro.traiterEchecSource
    split
    · exact Uses.run_bind (Uses.run_mapError pourUn_marquerStatut) fun _ =>
        Uses.run_bind pourUn_publier fun _ => uses_pure _
    · exact uses_pure _
  · refine guarded_pourUn (Uses.run_bind (Uses.run_ofProg ?_) fun _ =>
      Uses.run_bind (Uses.run_ofProg ?_) fun _ => uses_pure _)
    · unfold Synchro.recalculerRecurrencesApresInsertion
      split
      · refine Uses.bind (uses_recalculerRecurrences pourUn_interne ?_ ?_) fun _ => uses_pure _
        · exact fun _ => ⟨_, rfl⟩
        · exact fun _ _ _ => ⟨_, rfl⟩
      · exact uses_pure _
    · unfold Synchro.publierSucces
      have hpublier : ∀ ev, (publierEvenement ev).Uses (PourUn crypto) := fun ev =>
        uses_demander (pourUn_lecture _ rfl)
      split
      · exact Uses.bind (hpublier _) fun _ => Uses.bind (hpublier _) fun _ => hpublier _
      · exact Uses.bind (hpublier _) fun _ => hpublier _

/-- So does a cycle of the worker. -/
theorem pourUn_executer {parametres : ParametresSynchro} :
    Guarded (machine col) (Evenement.PourUn crypto) (Synchro.executer crypto parametres).run s
      fun _ _ => True := by
  refine Guarded.run_bind (guarded_pourUn (Uses.run_ofProg
    (uses_demander (pourUn_lecture _ rfl)))) (fun maintenant s₁ _ => ?_) fun _ _ _ => trivial
  refine Guarded.run_bind (guarded_pourUn (Uses.run_mapError
    (uses_listerComptesEcheants pourUn_interne))) (fun echeants s₂ _ => ?_) fun _ _ _ => trivial
  refine Guarded.run_foldlM (I := fun _ => True) trivial fun rapport echeant _ s _ => ?_
  unfold Synchro.synchroniserCompte
  dsimp only
  split
  · refine guarded_pourUn (Uses.run_bind (Uses.run_mapError pourUn_marquerStatut) fun _ =>
      Uses.run_bind pourUn_publier fun _ => uses_pure _)
  · refine Guarded.run_bind (guarded_pourUn (Uses.run_mapError (Uses.run_mapError (Uses.run_bind
      (uses_interrogerChiffre fun s => exists_proprietaire s _) fun _ => uses_pure _))))
      (fun reserve s₃ _ => ?_) fun _ _ _ => trivial
    split
    · exact guarded_pure.2 trivial
    · exact pourUn_synchroniserCompteReserve

end Operations

/-! ## The service -/

/-- The operation is made for `A`: it names `A`, or stores an observation of an
account of `A`. -/
def Operation.Sert (A : ProprietaireId) (s : Store) : Operation → Prop
  | createConsent owner _ | completeConsent owner _ | renewConsent owner _
  | createRule owner _ | createRuleFromTransaction owner _ _ _ | recategoriserCredits owner
  | recalculerTransfertsInternes owner | categorizeTransaction owner _ _ _
  | createCategory owner _ | updateCategory owner _ _ | deleteCategory owner _
  | createEnveloppe owner _ | updateEnveloppe owner _ _ | deleteEnveloppe owner _
  | affecterTransaction owner _ _ | upsertBudget owner _ | updatePreferences owner _
  | effacerDonneesProprietaire owner => owner = A
  | enregistrer nouvelle => ∀ B, s.proprietaireDuCompte nouvelle.bankAccount = some B → B = A
  | synchroniser => False

/-- The messages an operation takes the fingerprint of as keys of transactions. -/
def Operation.messages : Operation → Set (List UInt8)
  | enregistrer nouvelle =>
      {CryptoService.messageDedup nouvelle.bankAccount.asBytes nouvelle.externalTransactionId}
  | _ => ∅

section Service

variable {col : Collation} {cfg : Configuration} {U : Set (List UInt8)} {A : ProprietaireId}
  {s s' : Store}

/-- Every request of an operation made for `A` serves `A`. -/
theorem programme_pour {o : Operation} (hA : o.Sert A s) (hU : o.messages ⊆ U) :
    Guarded (machine col) (Evenement.Pour cfg.crypto U A) (o.programme cfg) s
      fun _ _ => True := by
  cases o with
  | createConsent => exact hA ▸ pour_createConsent
  | completeConsent => exact hA ▸ pour_completeConsent
  | renewConsent => exact hA ▸ pour_renewConsent
  | synchroniser => exact hA.elim
  | enregistrer nouvelle =>
      exact (pour_enregistrer (hU rfl) hA).mono fun _ _ _ => trivial
  | createRule => exact hA ▸ pour_createRule
  | createRuleFromTransaction => exact hA ▸ pour_createRuleFromTransaction
  | recategoriserCredits => exact hA ▸ pour_recategoriserCredits
  | recalculerTransfertsInternes =>
      exact hA ▸ pour_recalculerTransfertsInternes.mono fun _ _ _ => trivial
  | categorizeTransaction => exact hA ▸ pour_categorizeTransaction
  | createCategory => exact hA ▸ pour_createCategory
  | updateCategory => exact hA ▸ pour_updateCategory
  | deleteCategory => exact hA ▸ pour_deleteCategory
  | createEnveloppe => exact hA ▸ pour_createEnveloppe
  | updateEnveloppe => exact hA ▸ pour_updateEnveloppe
  | deleteEnveloppe => exact hA ▸ pour_deleteEnveloppe
  | affecterTransaction => exact hA ▸ pour_affecterTransaction
  | upsertBudget => exact hA ▸ pour_upsertBudget
  | updatePreferences => exact hA ▸ pour_updatePreferences
  | effacerDonneesProprietaire => exact hA ▸ pour_effacer

/-- Every operation but the cycle of the worker is made for one owner. -/
theorem exists_sert (s : Store) {o : Operation} (h : o ≠ .synchroniser) : ∃ A, o.Sert A s := by
  cases o
  case synchroniser => exact absurd rfl h
  case enregistrer => exact exists_proprietaire s _
  all_goals exact ⟨_, rfl⟩

/-- Every request of the service serves some owner. -/
theorem programme_pourUn {o : Operation} :
    Guarded (machine col) (Evenement.PourUn cfg.crypto) (o.programme cfg) s fun _ _ => True := by
  by_cases h : o = .synchroniser
  · subst h
    exact pourUn_executer
  · obtain ⟨A, hA⟩ := exists_sert s h
    exact (programme_pour hA (Set.subset_univ _)).weaken fun _ he => ⟨A, he⟩

/-- Every statement of a run is about a single owner. -/
theorem execution_pourUn {l : List (Etape col cfg)} (h : Execution col cfg s l s') :
    ∀ c ∈ l, ∀ e ∈ c.trace, Evenement.PourUn cfg.crypto e :=
  fun c hc => (programme_pourUn (h.valid c hc)).1

end Service

end Budgy
