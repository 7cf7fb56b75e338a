import Budgy.Analysis.Provenance
import Budgy.Analysis.StoredCiphertexts
import Budgy.Interface.Contracts

/-!
# Answers that can be read

The contract of the service: on a readable database, a request of a run keeps it so, and
what a statement returns is decrypted.  The amounts that the bank gives are machine
integers, and the cipher opens what it sealed.
-/

set_option autoImplicit false

namespace Budgy

open Effects Relational

/-- The amounts of an answer of the bank are machine integers. -/
def MontantsI64 : (o : Op) → o.Reply → Prop
  | .banque (.solde ..), .ok soldes => ∀ b ∈ soldes, EstI64 b.amountCents
  | .banque (.listerTransactions ..), .ok transactions =>
      ∀ t ∈ transactions, EstI64 t.amountCents
  | _, _ => True

instance decidableMontantsI64 : (o : Op) → (r : o.Reply) → Decidable (MontantsI64 o r)
  | .banque (.solde ..), .ok soldes =>
      inferInstanceAs (Decidable (∀ b ∈ soldes, EstI64 b.amountCents))
  | .banque (.listerTransactions ..), .ok transactions =>
      inferInstanceAs (Decidable (∀ t ∈ transactions, EstI64 t.amountCents))
  | .banque (.solde ..), .error _ | .banque (.listerTransactions ..), .error _ => .isTrue trivial
  | .banque .listerEtablissements, _ | .banque (.initierConsentement _), _
  | .banque (.completerConsentement ..), _ | .banque (.listerComptes _), _
  | .banque (.revoquerConsentement _), _ => .isTrue trivial
  | .sql _, _ | .publier _, _ | .nonce, _ | .uuidV4, _ | .maintenant, _ => .isTrue trivial

/-- The request stores no amount. -/
def Op.SansMontant : Op → Prop
  | .sql (.compte (.insertBalance ..)) => False
  | .sql (.transaction (.insert _)) => False
  | _ => True

/-- The requests are those of a run; the database stays readable; an error is the failure of
a request. -/
def contrat (col : Collation) (crypto : CryptoService) : Contract (machine col) where
  assumes e := e.before.Integre ∧ e.before.ComptesDuTitulaire ∧ Evenement.PourUn crypto e ∧
    MontantsI64 e.op e.reply
  blames e := ¬ Evenement.Reussi e
  keeps s := s.Relisible crypto

/-- What is decrypted in the answer of a statement was encrypted for this place. -/
def Requete.Ouvrable (crypto : CryptoService) : (r : Requete) → r.Reponse → Prop
  | .consent (.fetchPourProprietaire ..), row =>
      ∀ c ∈ row, Chiffre crypto c.ownerId "consent" "external_ref" c.externalRef
  | .consent (.listerParProprietaire _), rows =>
      ∀ c ∈ rows, Chiffre crypto c.ownerId "consent" "external_ref" c.externalRef
  | .consent (.listerActifsParProprietaire _), rows =>
      ∀ c ∈ rows, Chiffre crypto c.ownerId "consent" "external_ref" c.externalRef
  | .compte (.listerParConsent ..), rows =>
      ∀ a ∈ rows, Chiffre crypto a.ownerId "bank_account" "external_account_id" a.externalAccountId
  | .compte (.listerAvecSolde ..), rows =>
      ∀ a ∈ rows, Chiffre crypto a.ownerId "bank_account" "external_account_id" a.externalAccountId
  | .compte (.fetchAvecSolde ..), row =>
      ∀ a ∈ row, Chiffre crypto a.ownerId "bank_account" "external_account_id" a.externalAccountId
  | .compte (.listerSoldes _), rows =>
      ∀ a ∈ rows, Chiffre crypto a.ownerId "bank_account" "external_account_id" a.externalAccountId
  | .compte (.soldeCourant _), row =>
      ∀ b ∈ row, MontantChiffre crypto b.ownerId "balance" "amount_cents" b.balance.amountCents
  | .compte (.soldeAVenir _), row =>
      ∀ b ∈ row, MontantChiffre crypto b.ownerId "balance" "amount_cents" b.balance.amountCents
  | .compte (.listerComptesEcheants ..), rows => ∀ e ∈ rows,
      Chiffre crypto e.compte.ownerId "bank_account" "external_account_id"
        e.compte.externalAccountId ∧
      Chiffre crypto e.compte.ownerId "consent" "external_ref" e.consent.externalRef
  | .transaction (.fetch _), row => ∀ t ∈ row, t.transaction.Chiffree crypto t.ownerId
  | .transaction (.listerParCompte ..), rows =>
      ∀ t ∈ rows, t.transaction.Chiffree crypto t.ownerId
  | .transaction (.listerPourProprietaire ..), rows =>
      ∀ t ∈ rows, t.transaction.Chiffree crypto t.ownerId
  | .transaction (.listerNonCategorisees owner _), rows =>
      ∀ l ∈ rows, Chiffre crypto owner "bank_transaction" "label" l.2
  | .transaction (.listerCreditsNonCategorises owner _), rows =>
      ∀ l ∈ rows, MontantChiffre crypto owner "bank_transaction" "amount_cents" l.2
  | .transaction (.libelleTransaction _ _ owner), row =>
      ∀ blob ∈ row, Chiffre crypto owner "bank_transaction" "label" blob
  | .transaction (.listerMouvements owner), rows => ∀ t ∈ rows, t.Chiffree crypto owner
  | .transaction (.listerOccurrences owner), rows => ∀ t ∈ rows, t.Chiffree crypto owner
  | .classement (.montantsParCategorie owner _ _), rows =>
      ∀ l ∈ rows, MontantChiffre crypto owner "bank_transaction" "amount_cents" l.2
  | .classement (.consommations owner), rows =>
      ∀ l ∈ rows, MontantChiffre crypto owner "bank_transaction" "amount_cents" l.2
  | _, _ => True

section Statements

variable {col : Collation} {crypto : CryptoService} {x : ChoixSql} {s s' : Store} {r : Requete}
  {v : r.Reponse} {A : ProprietaireId}

/-- A statement that serves somebody stores what was encrypted for its place. -/
theorem Requete.Pour.scellee {U : Set (List UInt8)} (h : r.Pour crypto U A s)
    (hsans : (Op.sql r).SansMontant) : r.Scellee crypto s := by
  rcases r with r | r | r | r <;> cases r <;> try trivial
  case consent.insertInitie => exact h.1 ▸ h.2
  case consent.mettreAJour => exact h.1 ▸ h.2
  case compte.insert =>
    obtain ⟨-, -, nonce, externe, hblob, -⟩ := h
    exact ⟨nonce, externe, hblob⟩

/-- A row selected for an owner is a transaction of this owner. -/
theorem mem_transactionsDe {owner : ProprietaireId} {p : BankTransactionRow → Bool}
    {t : BankTransactionRow} (h : t ∈ RequeteTransaction.transactionsDe x s owner p) :
    t ∈ s.bankTransaction ∧ s.txDe owner t = true := by
  unfold RequeteTransaction.transactionsDe at h
  simp only [mem_arrange, Table.mem_select, Bool.and_eq_true] at h
  exact ⟨h.1, h.2.1⟩

/-- A readable database gives answers that can be decrypted. -/
theorem Store.Relisible.ouvrable (h : s.Relisible crypto) (htitulaire : s.ComptesDuTitulaire)
    (heffet : r.effet col x s = .ok (v, s')) : r.Ouvrable crypto v := by
  have htransactions : ∀ {owner : ProprietaireId} {p : BankTransactionRow → Bool},
      ∀ t ∈ RequeteTransaction.transactionsDe x s owner p, t.Chiffree crypto owner := by
    intro owner p t ht
    obtain ⟨hmem, howner⟩ := mem_transactionsDe ht
    exact h.chiffree hmem howner
  have hsolde : ∀ {rows : List BalanceRow} {b : BalanceAvecOwner},
      (∀ row ∈ rows, row ∈ s.balance) → rows.head?.bind (RequeteCompte.avecOwner s) = some b →
      MontantChiffre crypto b.ownerId "balance" "amount_cents" b.balance.amountCents := by
    intro rows b hrows hb
    obtain ⟨row, hrow, hb⟩ := Option.bind_eq_some_iff.1 hb
    obtain ⟨owner, howner, rfl⟩ := Option.map_eq_some_iff.1 hb
    exact h.soldes row (hrows row (List.mem_of_mem_head? hrow)) owner howner
  rcases r with r | r | r | r <;> cases r <;> try trivial
  case consent.fetchPourProprietaire =>
    obtain ⟨rfl, -⟩ := lire_eq_ok.1 heffet
    intro c hc
    obtain ⟨hfind, -⟩ := Option.filter_eq_some_iff.1 hc
    exact h.consents c (Table.find?_eq_some.1 hfind).1
  case consent.listerParProprietaire =>
    obtain ⟨rfl, -⟩ := lire_eq_ok.1 heffet
    intro c hc
    simp only [mem_sortBy, mem_arrange, Table.mem_select] at hc
    exact h.consents c hc.1
  case consent.listerActifsParProprietaire =>
    obtain ⟨rfl, -⟩ := lire_eq_ok.1 heffet
    intro c hc
    simp only [mem_arrange, Table.mem_select] at hc
    exact h.consents c hc.1
  case compte.listerParConsent =>
    obtain ⟨rfl, -⟩ := lire_eq_ok.1 heffet
    intro a ha
    simp only [mem_sortBy, mem_arrange, Table.mem_select] at ha
    exact h.comptes a ha.1
  case compte.listerAvecSolde =>
    obtain ⟨rfl, -⟩ := lire_eq_ok.1 heffet
    intro a ha
    have ha := List.mem_of_mem_drop (List.mem_of_mem_take ha)
    simp only [mem_sortBy, mem_arrange, Table.mem_select] at ha
    exact h.comptes a ha.1
  case compte.fetchAvecSolde =>
    obtain ⟨rfl, -⟩ := lire_eq_ok.1 heffet
    intro a ha
    obtain ⟨hfind, -⟩ := Option.filter_eq_some_iff.1 ha
    exact h.comptes a (Table.find?_eq_some.1 hfind).1
  case compte.listerSoldes =>
    obtain ⟨rfl, -⟩ := lire_eq_ok.1 heffet
    intro a ha
    simp only [mem_sortBy, mem_arrange, Table.mem_select] at ha
    exact h.comptes a ha.1
  case compte.soldeCourant =>
    obtain ⟨rfl, -⟩ := lire_eq_ok.1 heffet
    intro b hb
    refine hsolde ?_ hb
    intro row hrow
    simp only [RequeteCompte.soldesClasses, mem_sortBy, mem_arrange, Table.mem_select] at hrow
    exact hrow.1
  case compte.soldeAVenir =>
    obtain ⟨rfl, -⟩ := lire_eq_ok.1 heffet
    intro b hb
    refine hsolde ?_ hb
    intro row hrow
    simp only [RequeteCompte.soldesAVenirClasses, mem_sortBy, mem_arrange, Table.mem_select] at hrow
    exact hrow.1
  case compte.listerComptesEcheants =>
    obtain ⟨rfl, -⟩ := lire_eq_ok.1 heffet
    intro e he
    obtain ⟨a, ha, hechu⟩ := List.mem_filterMap.1 he
    simp only [mem_sortBy, mem_arrange] at ha
    obtain ⟨c, hc, rfl⟩ := Option.map_eq_some_iff.1 hechu
    obtain ⟨hfind, -⟩ := Option.filter_eq_some_iff.1 hc
    obtain ⟨hc, hid⟩ := Table.find?_eq_some.1 hfind
    have hchiffre := h.consents c hc
    rw [htitulaire a ha c hc hid] at hchiffre
    exact ⟨h.comptes a ha, hchiffre⟩
  case transaction.fetch =>
    obtain ⟨rfl, -⟩ := lire_eq_ok.1 heffet
    intro t ht
    obtain ⟨row, hfind, ht⟩ := Option.bind_eq_some_iff.1 ht
    obtain ⟨owner, howner, rfl⟩ := Option.map_eq_some_iff.1 ht
    exact h.transactions row (Table.find?_eq_some.1 hfind).1 owner howner
  case transaction.listerParCompte =>
    obtain ⟨rfl, -⟩ := lire_eq_ok.1 heffet
    intro t ht
    obtain ⟨row, hrow, rfl⟩ := List.mem_map.1 ht
    exact htransactions row (mem_sortBy.1 (List.mem_of_mem_drop (List.mem_of_mem_take hrow)))
  case transaction.listerPourProprietaire =>
    obtain ⟨rfl, -⟩ := lire_eq_ok.1 heffet
    intro t ht
    obtain ⟨row, hrow, rfl⟩ := List.mem_map.1 ht
    exact htransactions row hrow
  case transaction.listerNonCategorisees =>
    obtain ⟨rfl, -⟩ := lire_eq_ok.1 heffet
    intro l hl
    obtain ⟨row, hrow, rfl⟩ := List.mem_map.1 hl
    exact (htransactions row (List.mem_of_mem_take hrow)).label
  case transaction.listerCreditsNonCategorises =>
    obtain ⟨rfl, -⟩ := lire_eq_ok.1 heffet
    intro l hl
    obtain ⟨row, hrow, rfl⟩ := List.mem_map.1 hl
    exact (htransactions row (List.mem_of_mem_take hrow)).montant
  case transaction.libelleTransaction =>
    obtain ⟨rfl, -⟩ := lire_eq_ok.1 heffet
    intro blob hblob
    obtain ⟨row, hrow, rfl⟩ := Option.map_eq_some_iff.1 hblob
    obtain ⟨hfind, hcond⟩ := Option.filter_eq_some_iff.1 hrow
    simp only [Bool.and_eq_true] at hcond
    exact (h.chiffree (Table.find?_eq_some.1 hfind).1 hcond.1).label
  case transaction.listerMouvements =>
    obtain ⟨rfl, -⟩ := lire_eq_ok.1 heffet
    exact htransactions
  case transaction.listerOccurrences =>
    obtain ⟨rfl, -⟩ := lire_eq_ok.1 heffet
    exact htransactions
  case classement.montantsParCategorie =>
    obtain ⟨rfl, -⟩ := lire_eq_ok.1 heffet
    intro l hl
    obtain ⟨row, hrow, rfl⟩ := List.mem_map.1 hl
    simp only [mem_arrange, Table.mem_select, RequeteClassement.compteeDansCycle,
      Bool.and_eq_true] at hrow
    exact (h.chiffree hrow.1 hrow.2.1.1.1).montant
  case classement.consommations =>
    obtain ⟨rfl, -⟩ := lire_eq_ok.1 heffet
    intro l hl
    obtain ⟨row, hrow, hl⟩ := List.mem_filterMap.1 hl
    obtain ⟨e, -, rfl⟩ := Option.map_eq_some_iff.1 hl
    simp only [mem_arrange, Table.mem_select, Bool.and_eq_true] at hrow
    exact (h.chiffree hrow.1 hrow.2.1).montant

/-- A due account whose identifier and consent reference are encrypted for its owner can be
decrypted. -/
theorem dechiffrable_intoCompteEcheant (hfiable : crypto.Fiable) {e : CompteEcheantRow}
    (h : Chiffre crypto e.compte.ownerId "bank_account" "external_account_id"
        e.compte.externalAccountId ∧
      Chiffre crypto e.compte.ownerId "consent" "external_ref" e.consent.externalRef) :
    Dechiffrable (BankAccounts.intoCompteEcheant crypto) e := by
  obtain ⟨compte, hcompte⟩ := h.1.dechiffrable hfiable
  obtain ⟨reference, hreference⟩ := h.2.dechiffrable hfiable
  apply dechiffrable_of_isOk
  simp only [BankAccounts.intoCompteEcheant, hcompte, hreference]
  rfl

end Statements

/-! ## Requests -/

section Rules

variable {col : Collation} {crypto : CryptoService} {ε α : Type}

/-- A request that stores no amount keeps the database readable. -/
theorem Evenement.relisible_after {e : Evenement col} (h : e.before.Relisible crypto)
    (hi : e.before.Integre) (hpour : Evenement.PourUn crypto e) (hsans : e.op.SansMontant) :
    e.after.Relisible crypto := by
  obtain ⟨A, hpour⟩ := hpour
  have hpour : Op.Pour crypto Set.univ A e.before e.op := hpour
  rcases after_cases e with hsame | ⟨r, x, v, hop, heffet⟩
  · rwa [hsame]
  · rw [hop] at hpour hsans
    exact h.effet hi heffet (Requete.Pour.scellee hpour hsans)

/-- A program that writes no amount keeps the stored amounts readable. -/
theorem keeps_of_sansMontant {p : Programme α} (hp : p.Uses Op.SansMontant) :
    Keeps (contrat col crypto) (fun _ => True) p := by
  apply Keeps.of_uses hp
  rintro e hsans ⟨hi, -, hpour, -⟩ h
  exact Evenement.relisible_after h hi hpour hsans

/-- A statement fails, or takes its effect. -/
theorem meetsFrom_interroger {A : SqlxError → Prop} {r : Requete} {s : Store}
    {R : r.Reponse → Store → Prop} (hs : s.Relisible crypto)
    (hok : ∀ x v s', r.effet col x s = .ok (v, s') →
      (contrat col crypto).assumes ⟨s, .sql r, x⟩ → s'.Relisible crypto ∧ R v s') :
    MeetsFrom (contrat col crypto) A R (interroger r) s := by
  refine spec_interroger ?_ ?_
  · intro x e hreply _
    refine ⟨hs, .inl ⟨_, List.mem_singleton_self _, ?_⟩⟩
    show ¬ (r.executer col x s).1.isOk = true
    rw [hreply]
    exact Bool.false_ne_true
  · intro x v s' heffet _ hassumes
    exact hok x v s' heffet (hassumes _ (List.mem_singleton_self _))

/-- Its answer can be decrypted. -/
theorem meets_interroger {A : SqlxError → Prop} {r : Requete} (hr : (Op.sql r).SansMontant) :
    Meets (contrat col crypto) A (r.Ouvrable crypto) (interroger r) := by
  intro s hs
  apply meetsFrom_interroger hs
  rintro x v s' heffet ⟨hi, htitulaire, ⟨B, hpour⟩, -⟩
  exact ⟨hs.effet hi heffet (Requete.Pour.scellee hpour hr), hs.ouvrable htitulaire heffet⟩

/-- A statement that writes no amount is answered with rows that can be opened. -/
theorem meets_interrogerChiffre {A : ChiffrementError → Prop} {r : Requete}
    (hr : (Op.sql r).SansMontant) :
    Meets (contrat col crypto) A (r.Ouvrable crypto) (interrogerChiffre r) :=
  Meets.mapError (meets_interroger hr)

/-- A call to the bank fails, or gives amounts that are machine integers. -/
theorem meets_appelerBanque {A : BankDataSourceError → Prop} {a : AppelBanque} :
    Meets (contrat col crypto) A (fun v => MontantsI64 (.banque a) (.ok v)) (appelerBanque a) := by
  intro s hs
  refine spec_perform.2 ?_
  intro c hassumes
  have hmontants := (hassumes _ (List.mem_singleton_self _)).2.2.2
  refine ⟨hs, ?_⟩
  cases c with
  | ok v => exact hmontants
  | error e =>
      refine .inl ⟨_, List.mem_singleton_self _, ?_⟩
      exact Bool.false_ne_true

/-- The bank answers amounts that fit 64 bits. -/
theorem meets_banqueApi {A : ApiError → Prop} {a : AppelBanque} :
    Meets (contrat col crypto) A (fun v => MontantsI64 (.banque a) (.ok v)) (banqueApi a) :=
  Meets.mapError meets_appelerBanque

/-- A program that only asks for a nonce, an identifier or the time. -/
theorem meets_ofProg {A : ε → Prop} {p : Programme α} (hp : p.Uses Op.SansMontant) :
    Meets (contrat col crypto) A (fun _ => True) (Task.ofProg p) :=
  Keeps.ofProg (keeps_of_sansMontant hp)

/-- The owner of an account is read where the account is. -/
theorem meetsFrom_ownerDuCompte {A : ChiffrementError → Prop} {compte : Uuid} {s : Store}
    (hs : s.Relisible crypto) :
    MeetsFrom (contrat col crypto) A
      (fun owner s' => s'.proprietaireDuCompte compte = some owner)
      (interrogerChiffre (.compte (.ownerDuCompte compte))) s := by
  apply MeetsFrom.mapError
  apply meetsFrom_interroger hs
  intro x owner s' heffet _
  simp only [Requete.effet, RequeteCompte.effet] at heffet
  split at heffet
  · rename_i howner
    obtain ⟨rfl, rfl⟩ := lire_eq_ok.1 heffet
    exact ⟨hs, howner⟩
  · cases heffet

/-- Sealing never fails. -/
theorem meetsFrom_chiffrerTexteFrais (hfiable : crypto.Fiable) {A : ChiffrementError → Prop}
    {owner table field texte : String} {s : Store} (hs : s.Relisible crypto) :
    MeetsFrom (contrat col crypto) A
      (fun blob s' => s' = s ∧
        ∃ nonce, chiffrerTexte crypto nonce owner table field texte = .ok blob)
      (chiffrerTexteFrais crypto owner table field texte) s := by
  refine spec_run_bind.2 (spec_run_ofProg.2 (spec_perform.2 ?_))
  intro nonce
  obtain ⟨blob, hblob⟩ := chiffrerTexte_ok hfiable nonce owner table field texte
  show Spec (machine col) (Task.ofExcept (chiffrerTexte crypto nonce owner table field texte) :
    Tache ChiffrementError (List UInt8)).run s _
  rw [hblob]
  refine spec_pure.2 ?_
  intro _
  exact ⟨hs, rfl, nonce, hblob⟩

/-- Encrypting a text writes no amount. -/
theorem meets_chiffrerTexteFrais (hfiable : crypto.Fiable) {A : ChiffrementError → Prop}
    {owner table field texte : String} :
    Meets (contrat col crypto) A (fun _ => True)
      (chiffrerTexteFrais crypto owner table field texte) := by
  intro s hs
  exact (meetsFrom_chiffrerTexteFrais hfiable hs).mono fun _ _ _ => trivial

/-- A missing value is reported by the error given for it. -/
theorem meets_ouErreur {A : ApiError → Prop} {e : ApiError} (he : A e) {v : Option α} :
    Meets (contrat col crypto) A (fun a => v = some a) (ouErreur e v) := by
  cases v with
  | none => exact meets_throw he
  | some a => exact meets_pure rfl

end Rules

end Budgy
