import Budgy.Analysis.Footprint
import Budgy.Analysis.Concurrency
import Budgy.Analysis.Replies
import Budgy.Analysis.Scenarios

/-!
# Refusal in one block

`complete_consent` goes through the list of the bank twice: it looks for an account that
another user registered, then it registers them all.  On its own, when nothing fails, it
registers either none of the accounts, and the consent has failed, or each of them once: an
account already registered under the consent keeps its row, and a repeated one gets one.
-/

set_option autoImplicit false

namespace Budgy

open Effects Relational

/-! ## The accounts and their identifiers -/

/-- The account of an external identifier, with the keys that an insertion gives it. -/
structure BankAccountRow.Scelle (crypto : CryptoService) (externe : String) (a : BankAccountRow) :
    Prop where
  clair : dechiffrerTexte crypto a.ownerId "bank_account" "external_account_id"
    a.externalAccountId = .ok externe
  cle : a.dedupKey = dedupKeyCompte crypto a.consentId externe
  empreinte : a.empreinteCompte = some (Budgy.empreinteCompte crypto externe)

/-- Every account has the fingerprint, and the key, of the identifier it encrypts. -/
def Store.ComptesScelles (crypto : CryptoService) (s : Store) : Prop :=
  ∀ a ∈ s.bankAccount, ∃ externe, a.Scelle crypto externe

/-- The identifier of every account decrypts. -/
def Store.ComptesLisibles (crypto : CryptoService) (s : Store) : Prop :=
  ∀ a ∈ s.bankAccount, ∃ externe, dechiffrerTexte crypto a.ownerId "bank_account"
    "external_account_id" a.externalAccountId = .ok externe

/-- Accounts that are sealed can be read. -/
theorem Store.ComptesScelles.lisibles {crypto : CryptoService} {s : Store}
    (h : s.ComptesScelles crypto) : s.ComptesLisibles crypto := by
  intro a ha
  obtain ⟨externe, hscelle⟩ := h a ha
  exact ⟨externe, hscelle.clair⟩

/-- The fingerprint of the identifier is registered by another owner. -/
def Store.PrisAilleurs (crypto : CryptoService) (A : ProprietaireId) (s : Store)
    (externe : String) : Prop :=
  ∃ a ∈ s.bankAccount, a.ownerId ≠ A ∧ a.empreinteCompte = some (empreinteCompte crypto externe)

/-- The consent of `A` waits for the callback of the bank, and its reference decrypts. -/
def Store.ConsentEnAttente (crypto : CryptoService) (A : ProprietaireId) (id : ConsentId)
    (s : Store) : Prop :=
  ∃ c ∈ s.consent, c.id = id ∧ c.ownerId = A ∧ c.status = .pending ∧
    ∃ ref, dechiffrerTexte crypto A "consent" "external_ref" c.externalRef = .ok ref

/-- The messages whose fingerprints are the keys of the accounts, registered and listed. -/
def messagesComptes (crypto : CryptoService) (id : ConsentId) (s : Store)
    (comptes : List BankAccount) : Set (List UInt8) :=
  {m | (∃ a ∈ s.bankAccount, ∃ externe, a.Scelle crypto externe ∧
      m = CryptoService.messageDedup a.consentId.asBytes externe) ∨
    ∃ compte ∈ comptes, m = CryptoService.messageDedup id.asBytes compte.externalAccountId}

/-- Nothing fails, and the bank lists these accounts. -/
def Liste (comptes : List BankAccount) : Entry signature → Prop
  | ⟨.banque (.listerComptes _), r⟩ => r = .ok comptes
  | ⟨o, r⟩ => Reussi o r

instance decidableListe (comptes : List BankAccount) :
    (x : Entry signature) → Decidable (Liste comptes x)
  | ⟨.banque (.listerComptes _), r⟩ => inferInstanceAs (Decidable (r = .ok comptes))
  | ⟨.banque .listerEtablissements, r⟩ => decidableReussi (.banque .listerEtablissements) r
  | ⟨.banque (.initierConsentement d), r⟩ => decidableReussi (.banque (.initierConsentement d)) r
  | ⟨.banque (.completerConsentement p a), r⟩ =>
      decidableReussi (.banque (.completerConsentement p a)) r
  | ⟨.banque (.listerTransactions c b d), r⟩ =>
      decidableReussi (.banque (.listerTransactions c b d)) r
  | ⟨.banque (.solde c b), r⟩ => decidableReussi (.banque (.solde c b)) r
  | ⟨.banque (.revoquerConsentement c), r⟩ => decidableReussi (.banque (.revoquerConsentement c)) r
  | ⟨.sql q, r⟩ => decidableReussi (.sql q) r
  | ⟨.publier _, _⟩ | ⟨.nonce, _⟩ | ⟨.uuidV4, _⟩ | ⟨.maintenant, _⟩ => .isTrue trivial

/-- A listing that answers is a request that succeeds. -/
theorem reussi_of_liste {comptes : List BankAccount} {x : Entry signature} (h : Liste comptes x) :
    Reussi x.1 x.2 := by
  unfold Liste at h
  split at h
  · subst h
    rfl
  · exact h

/-! ## The two outcomes -/

/-- The consent of `A` has a status, and nothing else has changed since `s`: no table but the
consents is written, the accounts in particular, and no other consent. -/
structure Store.Marque (A : ProprietaireId) (id : ConsentId) (status : ConsentStatus)
    (s s' : Store) : Prop where
  tables : s' = { s with consent := s'.consent }
  consent : ∃ c ∈ s'.consent, c.id = id ∧ c.ownerId = A ∧ c.status = status
  autres : ∀ c, c.id ≠ id → (c ∈ s'.consent ↔ c ∈ s.consent)

/-- The callback is refused as a whole. -/
structure RefuseEnBloc (A : ProprietaireId) (id : ConsentId) (s : Store)
    (r : Except ApiError ConsentCompletionDto) (s' : Store) : Prop where
  conflit : ∃ message, r = .error (ApiError.conflict message)
  echoue : s.Marque A id .failed s'

/-- The accounts of the list are registered under the consent, each of them once. -/
structure RattacheTout (crypto : CryptoService) (A : ProprietaireId) (id : ConsentId)
    (comptes : List BankAccount) (s : Store) (r : Except ApiError ConsentCompletionDto)
    (s' : Store) : Prop where
  succes : r.isOk = true
  unique : ∀ compte ∈ comptes, ∃! a, a ∈ s'.bankAccount ∧ a.consentId = id ∧
    a.Scelle crypto compte.externalAccountId
  /-- The accounts that were registered stay as they are, the ones of the consent included. -/
  reprise : ∀ a ∈ s.bankAccount, a ∈ s'.bankAccount
  nouveaux : ∀ a ∈ s'.bankAccount, a ∈ s.bankAccount ∨ a.consentId = id ∧ a.ownerId = A ∧
    ∃ compte ∈ comptes, a.Scelle crypto compte.externalAccountId

section Callback

variable {col : Collation} {crypto : CryptoService} {A : ProprietaireId} {id : ConsentId}
  {comptes : List BankAccount} {s : Store}

/-- What holds when every request succeeds, for a given answer of the bank. -/
private theorem under_liste {α : Type} {p : Programme α} {Q : α → Store → Prop}
    (h : Under (machine col) Evenement.Reussi p s Q) :
    Under (machine col) (fun e => Liste comptes (Event.entry e)) p s Q :=
  fun _ _ _ hrun hliste => h hrun fun e he => reussi_of_liste (hliste e he)

/-! ## The first loop -/

/-- An update of the consent of `A` that sets its status. -/
theorem marque_maj {status statut : ConsentStatus} {s₁ s' : Store}
    (h : s.Marque A id statut s₁) {f : ConsentRow → ConsentRow} {hf : ∀ c, (f c).id = c.id}
    (howner : ∀ c, (f c).ownerId = c.ownerId) (hstatus : ∀ c, (f c).status = status)
    (hs' : s' = s₁.majConsent (fun c => c.id = id && c.ownerId = A) f hf) :
    s.Marque A id status s' where
  tables := by
    rw [hs', h.tables]
    rfl
  consent := by
    obtain ⟨c, hc, rfl, rfl, -⟩ := h.consent
    refine ⟨f c, ?_, hf c, howner c, hstatus c⟩
    rw [hs', Store.mem_majConsent]
    exact ⟨c, hc, by simp⟩
  autres c hne := by
    rw [hs', Store.mem_majConsent, ← h.autres c hne]
    constructor
    · rintro ⟨c₀, hc₀, rfl⟩
      split_ifs with hvise
      · rw [if_pos hvise, hf] at hne
        exact absurd (by simpa using hvise : c₀.id = id ∧ c₀.ownerId = A).1 hne
      · exact hc₀
    · intro hc
      exact ⟨c, hc, by simp [hne]⟩

/-- What a turn of the first loop does: it refuses an account of another owner, and marks the
consent. -/
private theorem under_refuser {s₁ : Store} (h : s.Marque A id .active s₁)
    {compte : BankAccount} :
    Under (machine col) Evenement.Reussi
      (Handlers.refuserCompteConcurrent crypto A id compte).run s₁ fun r s' =>
        (¬ s₁.PrisAilleurs crypto A compte.externalAccountId → r = .ok () ∧ s' = s₁) ∧
        (s₁.PrisAilleurs crypto A compte.externalAccountId →
          (∃ message, r = .error (ApiError.conflict message)) ∧ s.Marque A id .failed s') := by
  refine Under.ret_bind (R := fun trouve s' => s' = s₁ ∧
    (trouve.isSome = true ↔ s₁.PrisAilleurs crypto A compte.externalAccountId))
    (Under.ret_mapError (Under.ret_mapError (under_statement.ret_mono ?_))) ?_
  · rintro trouve s' ⟨x, heffet⟩
    obtain ⟨rfl, rfl⟩ := lire_eq_ok.1 heffet
    refine ⟨rfl, ?_⟩
    rw [Option.isSome_map, List.isSome_head?]
    constructor
    · intro hne
      obtain ⟨a, ha⟩ := List.exists_mem_of_ne_nil _ hne
      obtain ⟨ha, hvise⟩ := Table.mem_select.1 (mem_arrange.1 ha)
      obtain ⟨hempreinte, howner⟩ := by simpa using hvise
      exact ⟨a, ha, howner, hempreinte⟩
    · rintro ⟨a, ha, howner, hempreinte⟩
      exact List.ne_nil_of_mem (mem_arrange.2
        (Table.mem_select.2 ⟨ha, by simp [howner, hempreinte]⟩))
  · rintro (_ | autre) _ ⟨rfl, htrouve⟩
    · have hlibre := htrouve.not.1 (by simp)
      exact under_pure.2 ⟨fun _ => ⟨rfl, rfl⟩, fun hpris => absurd hpris hlibre⟩
    · have hpris := htrouve.1 rfl
      refine Under.ret_bind (R := fun _ s' => s.Marque A id .failed s')
        (Under.ret_mapError (Under.ret_mapError (Under.ret_bind under_statement ?_))) ?_
      · rintro n s' ⟨x, heffet⟩
        have hs' := (Prod.mk.inj (Except.ok.inj heffet)).2
        exact under_pure.2 (marque_maj h (by intro c; rfl) (by intro c; rfl) hs'.symm)
      · rintro _ s' hrefus
        exact under_pure.2 ⟨fun hlibre => absurd hpris hlibre, fun _ => ⟨⟨_, rfl⟩, hrefus⟩⟩

/-- The first loop refuses as soon as one account is another owner's. -/
private theorem under_refuserTous {s₁ : Store} (h : s.Marque A id .active s₁)
    (l : List BankAccount) :
    Under (machine col) Evenement.Reussi
      (l.forM (Handlers.refuserCompteConcurrent crypto A id)).run s₁ fun r s' =>
        ((∀ compte ∈ l, ¬ s₁.PrisAilleurs crypto A compte.externalAccountId) →
          r = .ok () ∧ s' = s₁) ∧
        ((∃ compte ∈ l, s₁.PrisAilleurs crypto A compte.externalAccountId) →
          (∃ message, r = .error (ApiError.conflict message)) ∧ s.Marque A id .failed s') := by
  induction l with
  | nil => exact under_pure.2 ⟨fun _ => ⟨rfl, rfl⟩, by simp⟩
  | cons compte l ih =>
      refine Under.run_bind (under_refuser h) ?_ ?_
      · rintro _ s' ⟨hlibre, hpris⟩
        by_cases hici : s₁.PrisAilleurs crypto A compte.externalAccountId
        · obtain ⟨⟨message, herreur⟩, -⟩ := hpris hici
          cases herreur
        · obtain ⟨-, rfl⟩ := hlibre hici
          refine ih.mono ?_
          rintro r s' ⟨htous, hun⟩
          refine ⟨fun hl => htous fun b hb => hl b (List.mem_cons_of_mem compte hb), ?_⟩
          rintro ⟨b, hb, hprisB⟩
          obtain rfl | hb := List.mem_cons.1 hb
          · exact absurd hprisB hici
          · exact hun ⟨b, hb, hprisB⟩
      · rintro e s' ⟨hlibre, hpris⟩
        by_cases hici : s₁.PrisAilleurs crypto A compte.externalAccountId
        · refine ⟨fun hl => absurd hici (hl compte List.mem_cons_self), fun _ => ?_⟩
          obtain ⟨⟨message, herreur⟩, hreste⟩ := hpris hici
          cases herreur
          exact ⟨⟨message, rfl⟩, hreste⟩
        · obtain ⟨herreur, -⟩ := hlibre hici
          cases herreur

/-! ## The second loop -/

/-- What an insertion of an account does: nothing when its key is taken, one row otherwise. -/
private theorem insert_effet {ligne : InsertionCompte} {x : ChoixSql} {v : Option Uuid}
    {s₁ s' : Store}
    (heffet : (Requete.compte (.insert ligne)).effet col x s₁ = .ok (v, s')) :
    (s' = s₁ ∧ ∃ a ∈ s₁.bankAccount, a.consentId = ligne.consentId ∧ a.dedupKey = ligne.dedupKey) ∨
      ∀ a, a ∈ s'.bankAccount ↔ a ∈ s₁.bankAccount ∨ a = RequeteCompte.ligneCompte x ligne := by
  change (if _ then _ else _) = _ at heffet
  split_ifs at heffet with hprise
  · obtain ⟨-, rfl⟩ := lire_eq_ok.1 heffet
    obtain ⟨a, ha, hcles⟩ := Table.any_eq_true.1 hprise
    obtain ⟨hconsent, hcle⟩ := by simpa using hcles
    exact .inl ⟨rfl, a, ha, hconsent, hcle⟩
  · obtain ⟨-, hinsert⟩ := exiger_eq_ok.1 heffet
    obtain ⟨t, ht, hsuite⟩ := cleLibre_eq_ok.1 hinsert
    obtain ⟨-, rfl⟩ := Prod.mk.inj (Except.ok.inj hsuite)
    exact .inr fun a => Table.mem_of_insert ht

/-- The accounts once those of `past` are registered, from the state `s`. -/
structure Avancement (crypto : CryptoService) (A : ProprietaireId) (id : ConsentId) (s : Store)
    (past : List BankAccount) (s' : Store) : Prop where
  reprise : ∀ a ∈ s.bankAccount, a ∈ s'.bankAccount
  nouveaux : ∀ a ∈ s'.bankAccount, a ∈ s.bankAccount ∨ a.consentId = id ∧ a.ownerId = A ∧
    ∃ compte ∈ past, a.Scelle crypto compte.externalAccountId
  poses : ∀ compte ∈ past, ∃ a ∈ s'.bankAccount, a.consentId = id ∧
    a.dedupKey = dedupKeyCompte crypto id compte.externalAccountId

/-- One account more: its key was there, or it has a row of its own. -/
private theorem Avancement.suite {past : List BankAccount} {s₁ s' : Store}
    (h : Avancement crypto A id s past s₁) {compte : BankAccount}
    (hgarde : ∀ a ∈ s₁.bankAccount, a ∈ s'.bankAccount)
    (hligne : ∃ a ∈ s'.bankAccount, a.consentId = id ∧
      a.dedupKey = dedupKeyCompte crypto id compte.externalAccountId)
    (hnouveaux : ∀ a ∈ s'.bankAccount, a ∈ s₁.bankAccount ∨ a.consentId = id ∧ a.ownerId = A ∧
      a.Scelle crypto compte.externalAccountId) :
    Avancement crypto A id s (past ++ [compte]) s' where
  reprise a ha := hgarde a (h.reprise a ha)
  nouveaux a ha := by
    rcases hnouveaux a ha with hancien | ⟨hconsent, howner, hscelle⟩
    · refine (h.nouveaux a hancien).imp_right ?_
      rintro ⟨hconsent, howner, b, hb, hscelle⟩
      exact ⟨hconsent, howner, b, List.mem_append_left _ hb, hscelle⟩
    · exact .inr ⟨hconsent, howner, compte, by simp, hscelle⟩
  poses b hb := by
    rcases List.mem_append.1 hb with hb | hb
    · obtain ⟨a, ha, hcles⟩ := h.poses b hb
      exact ⟨a, hgarde a ha, hcles⟩
    · obtain rfl := List.mem_singleton.1 hb
      exact hligne

/-- A turn of the second loop registers its account, unless its key is there. -/
private theorem under_enregistrerCompte (hfiable : crypto.Fiable) {past : List BankAccount}
    {s₁ : Store} (h : Avancement crypto A id s past s₁) {compte : BankAccount} :
    Under (machine col) Evenement.Reussi
      (Handlers.enregistrerCompte crypto A id compte).run s₁
      (Returns fun _ s' => Avancement crypto A id s (past ++ [compte]) s') := by
  refine Under.ret_bind (R := fun _ s' => Avancement crypto A id s (past ++ [compte]) s')
    (Under.ret_mapError (Under.ret_mapError ?_)) fun _ _ hs' => under_pure.2 hs'
  refine Under.ret_bind (under_chiffrerTexteFrais hfiable) ?_
  rintro externe _ ⟨rfl, nonce, hexterne⟩
  refine Under.ret_bind (under_chiffrerTexteFrais hfiable) ?_
  rintro iban _ ⟨rfl, -, -⟩
  refine Under.ret_bind (R := fun _ s' => Avancement crypto A id s (past ++ [compte]) s')
    (under_statement.ret_mono ?_) ?_
  · rintro v s' ⟨x, heffet⟩
    rcases insert_effet heffet with ⟨rfl, hprise⟩ | hlignes
    · exact h.suite (fun a ha => ha) hprise fun a ha => .inl ha
    · have hligne := (hlignes _).2 (.inr rfl)
      refine h.suite (fun a ha => (hlignes a).2 (.inl ha)) ⟨_, hligne, rfl, rfl⟩ fun a ha => ?_
      refine ((hlignes a).1 ha).imp_right ?_
      rintro rfl
      exact ⟨rfl, rfl, dechiffrerTexte_chiffrerTexte hfiable hexterne, rfl, rfl⟩
  · rintro (_ | nouveau) s' hs'
    · refine under_statement.ret_mono ?_
      rintro _ _ ⟨x, heffet⟩
      simp only [Requete.effet, RequeteCompte.effet] at heffet
      split at heffet
      · obtain ⟨-, rfl⟩ := lire_eq_ok.1 heffet
        exact hs'
      · cases heffet
    · exact under_pure.2 hs'

/-- The loops keep the accounts sealed. -/
private theorem Avancement.scelles (hs : s.ComptesScelles crypto) {past : List BankAccount}
    {s' : Store} (h : Avancement crypto A id s past s') : s'.ComptesScelles crypto := by
  intro a ha
  rcases h.nouveaux a ha with hancien | ⟨-, -, compte, -, hscelle⟩
  · exact hs a hancien
  · exact ⟨compte.externalAccountId, hscelle⟩

/-- The accounts can still be decrypted. -/
private theorem Avancement.lisibles (hs : s.ComptesLisibles crypto) {past : List BankAccount}
    {s' : Store} (h : Avancement crypto A id s past s') : s'.ComptesLisibles crypto := by
  intro a ha
  rcases h.nouveaux a ha with hancien | ⟨-, -, compte, -, hscelle⟩
  · exact hs a hancien
  · exact ⟨compte.externalAccountId, hscelle.clair⟩

/-- Once every account of the list is registered, each has one row. -/
private theorem Avancement.unique (hs : s.ComptesScelles crypto)
    (hcollision : crypto.SansCollision (messagesComptes crypto id s comptes)) {s' : Store}
    (hi : s'.Integre) (h : Avancement crypto A id s comptes s') {compte : BankAccount}
    (hcompte : compte ∈ comptes) :
    ∃! a, a ∈ s'.bankAccount ∧ a.consentId = id ∧ a.Scelle crypto compte.externalAccountId := by
  obtain ⟨a, ha, hconsent, hcle⟩ := h.poses compte hcompte
  obtain ⟨externe, hscelle⟩ := h.scelles hs a ha
  -- the message of the row found is one of those compared
  have hmessage : CryptoService.messageDedup id.asBytes externe ∈
      messagesComptes crypto id s comptes := by
    rcases h.nouveaux a ha with hancien | ⟨-, -, autre, hautre, hscelle'⟩
    · exact .inl ⟨a, hancien, externe, hscelle, by rw [hconsent]⟩
    · have hmeme := Except.ok.inj (hscelle.clair.symm.trans hscelle'.clair)
      exact .inr ⟨autre, hautre, by rw [hmeme]⟩
  have hmac : crypto.mac (CryptoService.messageDedup id.asBytes externe) =
      crypto.mac (CryptoService.messageDedup id.asBytes compte.externalAccountId) := by
    have hcle' := hscelle.cle
    rw [hconsent, hcle] at hcle'
    exact hcle'.symm
  obtain ⟨-, rfl⟩ := CryptoService.messageDedup_uuid_inj
    (hcollision _ hmessage _ (.inr ⟨compte, hcompte, rfl⟩) hmac)
  refine ⟨a, ⟨ha, hconsent, hscelle⟩, ?_⟩
  rintro b ⟨hb, hconsent', hscelle'⟩
  refine hi.compteUnique b hb a ha (hconsent'.trans hconsent.symm) ?_
  rw [hscelle'.cle, hscelle.cle, hconsent, hconsent']

/-! ## The callback -/

/-- An account can be decrypted as soon as its identifier can. -/
private theorem dechiffrable_compte {a : BankAccountRow} {externe : String}
    (h : dechiffrerTexte crypto a.ownerId "bank_account" "external_account_id"
      a.externalAccountId = .ok externe) :
    Dechiffrable (BankAccounts.intoBankAccount crypto) a := by
  unfold Dechiffrable BankAccounts.intoBankAccount
  rw [h]
  exact ⟨_, rfl⟩

/-- The listing of the accounts of the consent decrypts them. -/
private theorem under_lister {s₁ : Store} (h : s₁.ComptesLisibles crypto) :
    Under (machine col) Evenement.Reussi
      (BankAccountsAdapter.listerParConsent crypto A id).run s₁ (Returns fun _ s' => s' = s₁) := by
  refine Under.ret_mapError (Under.ret_bind under_statement ?_)
  rintro rows s' ⟨x, heffet⟩
  obtain ⟨rfl, rfl⟩ := lire_eq_ok.1 heffet
  have hvus : ∃ vus, (sortBy BankAccountRow.createdAt (arrange BankAccountRow.id x.rang
      (s'.bankAccount.select fun a => a.ownerId = A && a.consentId = id))).mapM
        (BankAccounts.intoBankAccount crypto) = .ok vus := by
    refine exists_mapM.2 fun a ha => ?_
    obtain ⟨externe, hclair⟩ := h a (Table.mem_select.1 (mem_arrange.1 (mem_sortBy.1 ha))).1
    exact dechiffrable_compte hclair
  obtain ⟨vus, hvus⟩ := hvus
  rw [hvus]
  exact under_pure.2 rfl

/-- What the two loops answer and leave. -/
def DeuxBoucles (crypto : CryptoService) (A : ProprietaireId) (id : ConsentId)
    (comptes : List BankAccount) (s : Store) (r : Except ApiError ConsentCompletionDto)
    (s' : Store) : Prop :=
  ((∃ compte ∈ comptes, s.PrisAilleurs crypto A compte.externalAccountId) →
    RefuseEnBloc A id s r s') ∧
  ((∀ compte ∈ comptes, ¬ s.PrisAilleurs crypto A compte.externalAccountId) →
    r.isOk = true ∧ Avancement crypto A id s comptes s')

/-- The two loops, on a consent that was just activated. -/
theorem under_rattacherComptes (hfiable : crypto.Fiable) (hs : s.ComptesLisibles crypto)
    {s₁ : Store} (hactif : s.Marque A id .active s₁) {actif : Consent} :
    Under (machine col) (fun e => Liste comptes (Event.entry e))
      (Handlers.rattacherComptes crypto A id actif).run s₁
      (DeuxBoucles crypto A id comptes s) := by
  have hcomptes : s₁.bankAccount = s.bankAccount := by rw [hactif.tables]
  have hpris : ∀ externe, s₁.PrisAilleurs crypto A externe ↔ s.PrisAilleurs crypto A externe := by
    intro externe
    unfold Store.PrisAilleurs
    rw [hcomptes]
  have hdepart : Avancement crypto A id s [] s₁ :=
    ⟨fun a ha => by rwa [hcomptes], fun a ha => .inl (by rwa [hcomptes] at ha), by simp⟩
  refine Under.ret_bind (R := fun l s' => l = comptes ∧ s' = s₁)
    (Under.ret_mapError (under_perform.2 ?_)) ?_
  · rintro r hr
    have hr : r = .ok comptes := hr
    subst hr
    exact ⟨rfl, rfl⟩
  rintro l s' ⟨hl, rfl⟩
  rw [hl]
  refine under_liste (Under.run_bind (under_refuserTous hactif comptes) ?_ ?_)
  · rintro _ s₂ ⟨hlibres, hun⟩
    by_cases hrefus : ∃ compte ∈ comptes, s.PrisAilleurs crypto A compte.externalAccountId
    · obtain ⟨⟨message, herreur⟩, -⟩ := hun (by simpa only [hpris] using hrefus)
      cases herreur
    · have hlibre : ∀ compte ∈ comptes, ¬ s.PrisAilleurs crypto A compte.externalAccountId :=
        fun compte hcompte hprise => hrefus ⟨compte, hcompte, hprise⟩
      obtain ⟨-, rfl⟩ := hlibres (by simpa only [hpris] using hlibre)
      refine Under.ret_bind (Under.ret_forM hdepart fun past compte rest s₃ _ hs₃ =>
        under_enregistrerCompte hfiable hs₃) fun _ s₃ hs₃ => ?_
      refine Under.ret_bind (Under.ret_mapError (under_lister (hs₃.lisibles hs))) ?_
      rintro persistes _ rfl
      exact under_pure.2 ⟨fun h => absurd h hrefus, fun _ => ⟨rfl, hs₃⟩⟩
  · rintro e s₂ ⟨hlibres, hun⟩
    by_cases hrefus : ∃ compte ∈ comptes, s.PrisAilleurs crypto A compte.externalAccountId
    · obtain ⟨⟨message, herreur⟩, hechoue⟩ := hun (by simpa only [hpris] using hrefus)
      cases herreur
      exact ⟨fun _ => ⟨⟨message, rfl⟩, hechoue⟩,
        fun hlibre => absurd hrefus (by simpa using hlibre)⟩
    · have hlibre : ∀ compte ∈ comptes, ¬ s.PrisAilleurs crypto A compte.externalAccountId :=
        fun compte hcompte hprise => hrefus ⟨compte, hcompte, hprise⟩
      obtain ⟨herreur, -⟩ := hlibres (by simpa only [hpris] using hlibre)
      cases herreur

/-- The exchange succeeds and the consent is activated, then come the two loops. -/
private theorem under_completerConsentEnAttente (hfiable : crypto.Fiable)
    (hs : s.ComptesScelles crypto) (hattente : s.ConsentEnAttente crypto A id)
    {payload : ConsentCallbackRequest} :
    Under (machine col) (fun e => Liste comptes (Event.entry e))
      (Handlers.completerConsentEnAttente crypto A id payload).run s
      (DeuxBoucles crypto A id comptes s) := by
  have hpending : s.Marque A id .pending s := by
    obtain ⟨c, hc, hid, howner, hstatus, -⟩ := hattente
    exact ⟨rfl, ⟨c, hc, hid, howner, hstatus⟩, fun _ _ => Iff.rfl⟩
  refine Under.ret_bind (R := fun r s' => s' = s ∧ ∃ actif, r = .ok actif) ?_ ?_
  · refine Under.ret_mono (Under.ret_attempt (Q := fun _ s' => s' = s) (under_perform.2 ?_)) ?_
    · rintro (e | actif) hr
      · have hreussi : Reussi _ _ := reussi_of_liste hr
        cases hreussi
      · rfl
    · rintro r s' ⟨actif, rfl, rfl⟩
      exact ⟨rfl, actif, rfl⟩
  rintro _ s' ⟨rfl, actif, rfl⟩
  refine Under.ret_bind (R := fun _ s₁ => s'.Marque A id .active s₁)
    (under_liste (Under.ret_mapError (Under.ret_mapError ?_))) fun _ s₁ hactif =>
      under_rattacherComptes hfiable hs.lisibles hactif
  refine Under.ret_bind (under_chiffrerTexteFrais hfiable) ?_
  rintro blob _ ⟨rfl, -, -⟩
  refine Under.ret_bind under_statement ?_
  rintro n s₁ ⟨x, heffet⟩
  have hs₁ := (Prod.mk.inj (Except.ok.inj heffet)).2
  exact under_pure.2 (marque_maj hpending (by intro c; rfl) (by intro c; rfl) hs₁.symm)

/-- The pending consent is read, then the callback goes on. -/
private theorem under_completeConsent (hfiable : crypto.Fiable) (hs : s.ComptesScelles crypto)
    (hattente : s.ConsentEnAttente crypto A id) {payload : ConsentCallbackRequest}
    (hid : Handlers.parseConsentId payload.state = .ok id) :
    Under (machine col) (fun e => Liste comptes (Event.entry e))
      (Handlers.completeConsent crypto A payload).run s
      (DeuxBoucles crypto A id comptes s) := by
  have hpending := hattente
  obtain ⟨c, hc, hcid, howner, hstatus, ref, href⟩ := hpending
  refine Under.ret_bind (R := fun id' s' => id' = id ∧ s' = s) ?_ ?_
  · rw [Task.run_ofExcept, hid]
    exact under_pure.2 ⟨rfl, rfl⟩
  rintro id s ⟨rfl, rfl⟩
  refine Under.ret_bind (R := fun existant s' => s' = s ∧
      ∃ consent, existant = some consent ∧ consent.status = .pending)
    (under_liste (Under.ret_mapError (Under.ret_mapError (Under.ret_bind under_statement ?_)))) ?_
  · rintro trouve s' ⟨x, heffet⟩
    obtain ⟨rfl, rfl⟩ := lire_eq_ok.1 heffet
    have htrouve : s'.consent.find? c.id = some c := Table.find?_eq_some.2 ⟨hc, rfl⟩
    have hconsent : Consents.intoConsent crypto c = .ok
        { id := c.id, proprietaire := c.ownerId, externalRef := ref
          etablissement := c.etablissement, status := c.status, expiresAt := c.expiresAt
          createdAt := c.createdAt, updatedAt := c.updatedAt } := by
      unfold Consents.intoConsent
      rw [howner, href]
      rfl
    rw [← hcid, htrouve, Option.filter_some, if_pos (by simpa using howner)]
    refine Under.ret_bind (R := fun consent s₁ => s₁ = s' ∧ consent.status = .pending) ?_ ?_
    · rw [Task.run_ofExcept, hconsent]
      exact under_pure.2 ⟨rfl, hstatus⟩
    · rintro consent _ ⟨rfl, hpending⟩
      exact under_pure.2 ⟨rfl, consent, rfl, hpending⟩
  rintro _ s ⟨rfl, consent, rfl, hpending⟩
  refine Under.ret_bind (R := fun consent' s' => consent' = consent ∧ s' = s)
    (under_pure.2 ⟨rfl, rfl⟩) ?_
  rintro consent s ⟨rfl, rfl⟩
  rw [if_neg (by simp [hpending])]
  exact under_completerConsentEnAttente hfiable hs hattente

end Callback

/-! ## The refusal -/

/-- What the call answers and leaves, for the list that the bank returns. -/
def IssueDuRappel (crypto : CryptoService) (A : ProprietaireId) (id : ConsentId)
    (comptes : List BankAccount) (s : Store) (r : Except ApiError ConsentCompletionDto)
    (s' : Store) : Prop :=
  ((∃ compte ∈ comptes, s.PrisAilleurs crypto A compte.externalAccountId) →
    RefuseEnBloc A id s r s') ∧
  ((∀ compte ∈ comptes, ¬ s.PrisAilleurs crypto A compte.externalAccountId) →
    RattacheTout crypto A id comptes s r s')

/-- A callback keeps the constraints of the database. -/
private theorem integre_completeConsent {col : Collation} {crypto : CryptoService}
    {A : ProprietaireId} {payload : ConsentCallbackRequest} {s s' : Store}
    {t : List (Evenement col)} {r : Except ApiError ConsentCompletionDto} (hi : s.Integre)
    (hrun : Runs (machine col) (Handlers.completeConsent crypto A payload).run s t r s') :
    s'.Integre := by
  let c : Etape col ⟨crypto, "", .defaut⟩ := ⟨.completeConsent A payload, s, t, r, s'⟩
  have hvalid : c.Valid := hrun
  refine (hrun.preserves hi fun e he hbefore => hbefore.after fun id f hop => ?_).1
  exact (Etape.emet hvalid he hop (by simp)).sans_poser id f rfl

/-- Either an account is another owner's and nothing is registered, or the accounts all are. -/
theorem refus_en_bloc {col : Collation} {crypto : CryptoService} {A : ProprietaireId}
    {id : ConsentId} {comptes : List BankAccount} {payload : ConsentCallbackRequest}
    {s s' : Store} {t : List (Evenement col)} {r : Except ApiError ConsentCompletionDto}
    (hfiable : crypto.Fiable) (hi : s.Integre) (hs : s.ComptesScelles crypto)
    (hcollision : crypto.SansCollision (messagesComptes crypto id s comptes))
    (hid : Handlers.parseConsentId payload.state = .ok id)
    (hattente : s.ConsentEnAttente crypto A id)
    (hrun : Runs (machine col) (Handlers.completeConsent crypto A payload).run s t r s')
    (hliste : ∀ e ∈ t, Liste comptes (Event.entry e)) :
    IssueDuRappel crypto A id comptes s r s' := by
  obtain ⟨hrefus, hreprise⟩ := under_completeConsent hfiable hs hattente hid hrun hliste
  refine ⟨hrefus, fun hlibre => ?_⟩
  obtain ⟨hsucces, havancement⟩ := hreprise hlibre
  have hi' := integre_completeConsent hi hrun
  exact ⟨hsucces, fun compte hcompte => havancement.unique hs hcollision hi' hcompte,
    havancement.reprise, havancement.nouveaux⟩

/-! ## Two users at one bank -/

/-- The account FR1 is registered by bob, and alice comes back from the bank. -/
def retourDuBanquier : List Operation :=
  [.createConsent "bob" "banque", .completeConsent "bob" reponseBanque,
    .createConsent "alice" "banque"]

/-- The callback of alice, in which the bank lists some accounts. -/
def rappelAlice (comptes : List BankAccount) :
    Outcome (machine Scenario.collation) (Except ApiError ConsentCompletionDto) :=
  run _ ({ Scenario.calme with comptes := fun _ => .ok comptes } : Scenario).choix
    (Handlers.completeConsent enClair "alice" ⟨"code", (Uuid.fromU128 1014).toText⟩).run 500
    (Scenario.unCompte.fin retourDuBanquier)

/-- An account of bob in the list refuses it whole; without it, a repeated account has one row. -/
theorem refus_et_rattachement :
    RefuseEnBloc "alice" (Uuid.fromU128 1014) (Scenario.unCompte.fin retourDuBanquier)
        (rappelAlice [compteBancaire "FR2", compteBancaire "FR1"]).value
        (rappelAlice [compteBancaire "FR2", compteBancaire "FR1"]).state ∧
      RattacheTout enClair "alice" (Uuid.fromU128 1014)
        [compteBancaire "FR2", compteBancaire "FR2"] (Scenario.unCompte.fin retourDuBanquier)
        (rappelAlice [compteBancaire "FR2", compteBancaire "FR2"]).value
        (rappelAlice [compteBancaire "FR2", compteBancaire "FR2"]).state := by
  have hi : (Scenario.unCompte.fin retourDuBanquier).Integre :=
    execution_integre amorcee_amorcee (Scenario.unCompte.execution retourDuBanquier)
  have hcomptes : ∀ a ∈ (Scenario.unCompte.fin retourDuBanquier).bankAccount.rows,
      dechiffrerTexte enClair a.ownerId "bank_account" "external_account_id"
          a.externalAccountId = .ok "FR1" ∧
        a.dedupKey = dedupKeyCompte enClair a.consentId "FR1" ∧
        a.empreinteCompte = some (empreinteCompte enClair "FR1") ∧ a.ownerId = "bob" := by
    decide
  have hs : (Scenario.unCompte.fin retourDuBanquier).ComptesScelles enClair := by
    intro a ha
    obtain ⟨hclair, hcle, hempreinte, -⟩ := hcomptes a ha
    exact ⟨"FR1", hclair, hcle, hempreinte⟩
  have hattente : (Scenario.unCompte.fin retourDuBanquier).ConsentEnAttente enClair "alice"
      (Uuid.fromU128 1014) := by
    have hconsent : ∃ c ∈ (Scenario.unCompte.fin retourDuBanquier).consent.rows,
        c.id = Uuid.fromU128 1014 ∧ c.ownerId = "alice" ∧ c.status = .pending ∧
          dechiffrerTexte enClair "alice" "consent" "external_ref" c.externalRef = .ok "ref" := by
      decide
    obtain ⟨c, hc, hid, howner, hstatus, href⟩ := hconsent
    exact ⟨c, hc, hid, howner, hstatus, "ref", href⟩
  have hissue : ∀ comptes : List BankAccount,
      (∀ e ∈ (rappelAlice comptes).trace, Liste comptes (Event.entry e)) →
      IssueDuRappel enClair "alice" (Uuid.fromU128 1014) comptes
        (Scenario.unCompte.fin retourDuBanquier) (rappelAlice comptes).value
        (rappelAlice comptes).state :=
    fun comptes hliste => refus_en_bloc fiable_enClair hi hs (sansCollision_enClair _) (by decide)
      hattente (runs_run _ _ _ _) hliste
  have hrefus : ∀ e ∈ (rappelAlice [compteBancaire "FR2", compteBancaire "FR1"]).trace,
      Liste [compteBancaire "FR2", compteBancaire "FR1"] (Event.entry e) := by
    decide
  have hreprise : ∀ e ∈ (rappelAlice [compteBancaire "FR2", compteBancaire "FR2"]).trace,
      Liste [compteBancaire "FR2", compteBancaire "FR2"] (Event.entry e) := by
    decide
  have hautre : ∃ a ∈ (Scenario.unCompte.fin retourDuBanquier).bankAccount.rows,
      a.ownerId ≠ "alice" ∧ a.empreinteCompte = some (empreinteCompte enClair "FR1") := by
    decide
  have hlibre : ∀ a ∈ (Scenario.unCompte.fin retourDuBanquier).bankAccount.rows,
      a.empreinteCompte ≠ some (empreinteCompte enClair "FR2") := by
    decide
  refine ⟨(hissue _ hrefus).1 ⟨compteBancaire "FR1", by simp, hautre⟩,
    (hissue _ hreprise).2 ?_⟩
  rintro compte hcompte ⟨a, ha, -, hempreinte⟩
  obtain rfl : compte = compteBancaire "FR2" := by simpa using hcompte
  exact hlibre a ha hempreinte

end Budgy
