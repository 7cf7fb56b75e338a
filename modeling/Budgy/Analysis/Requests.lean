import Budgy.Analysis.Statements

/-!
# The requests of the repository functions

For each function that writes, a class `P` of requests contains all of its own as
soon as it contains the reads and the writes of the function.
-/

set_option autoImplicit false

namespace Budgy

open Effects Prog

variable {ε α β : Type} {P : Op → Prop} {crypto : CryptoService}

/-! ## Building blocks -/

/-- A single operation uses itself. -/
theorem uses_demander {o : Op} (h : P o) : (demander o).Uses P := uses_perform h

/-- A statement uses itself. -/
theorem uses_interroger {r : Requete} (h : P (.sql r)) : (interroger r).run.Uses P :=
  uses_demander h

/-- So does a statement on encrypted rows. -/
theorem uses_interrogerChiffre {r : Requete} (h : P (.sql r)) :
    (interrogerChiffre r).run.Uses P :=
  Uses.run_mapError (uses_interroger h)

/-- A call to the bank uses itself. -/
theorem uses_appelerBanque {a : AppelBanque} (h : P (.banque a)) :
    (appelerBanque a).run.Uses P :=
  uses_demander h

/-- So does a call to the bank made by a page. -/
theorem uses_banqueApi {a : AppelBanque} (h : P (.banque a)) : (banqueApi a).run.Uses P :=
  Uses.run_mapError (uses_appelerBanque h)

/-- A value already computed uses no operation. -/
theorem uses_ofExcept {r : Except ε α} : (Task.ofExcept r : Tache ε α).run.Uses P :=
  uses_pure _

/-- Nor does a missing value. -/
theorem uses_ouErreur {e : ApiError} {v : Option α} : (ouErreur e v).run.Uses P := by
  cases v <;> exact uses_pure _

/-- What follows a computation may rely on its result. -/
theorem uses_ofExcept_bind {r : Except ε α} {f : α → Tache ε β}
    (hf : ∀ a, r = .ok a → (f a).run.Uses P) : (Task.ofExcept r >>= f).run.Uses P := by
  rw [ExceptT.run_bind]
  cases r with
  | error e => exact uses_pure _
  | ok a => exact hf a rfl

/-- What follows an encryption may rely on the ciphertext being one. -/
theorem uses_chiffrerTexteFrais_bind {owner table field texte : String}
    {f : List UInt8 → Tache ChiffrementError β} (hn : P .nonce)
    (hf : ∀ nonce blob, chiffrerTexte crypto nonce owner table field texte = .ok blob →
      (f blob).run.Uses P) :
    (chiffrerTexteFrais crypto owner table field texte >>= f).run.Uses P := by
  unfold chiffrerTexteFrais
  rw [bind_assoc]
  refine Uses.run_bind (Uses.run_ofProg (uses_demander hn)) fun nonce => ?_
  exact uses_ofExcept_bind fun blob h => hf nonce blob h

/-- Encrypting a text draws a nonce. -/
theorem uses_chiffrerTexteFrais {owner table field texte : String} (hn : P .nonce) :
    (chiffrerTexteFrais crypto owner table field texte).run.Uses P :=
  Uses.run_bind (Uses.run_ofProg (uses_demander hn)) fun _ => uses_ofExcept

/-- Encrypting an amount draws a nonce. -/
theorem uses_chiffrerMontantFrais {owner table field : String} {n : ℤ} (hn : P .nonce) :
    (chiffrerMontantFrais crypto owner table field n).run.Uses P :=
  Uses.run_bind (Uses.run_ofProg (uses_demander hn)) fun _ => uses_ofExcept

/-- The ciphertext was made for this place. -/
def Chiffre (crypto : CryptoService) (owner table field : String) (blob : List UInt8) : Prop :=
  ∃ nonce texte, chiffrerTexte crypto nonce owner table field texte = .ok blob

/-! ## Repositories -/

/-- A request a repository makes beside its writes: a read, or the drawing of a
nonce. -/
def Op.Interne : Op → Prop
  | .sql r => r.ecrit = []
  | .nonce => True
  | _ => False

/-- An operation outside the database and the bank writes no table. -/
theorem Op.Interne.lecture {o : Op} (h : o.Interne) : o.ecrit = [] := by
  cases o with
  | sql r => exact h
  | nonce => rfl
  | banque | publier | uuidV4 | maintenant => exact h.elim

section Repositories

variable (hl : ∀ o : Op, o.Interne → P o)
include hl

/-- Recording a consent begun inserts it, its reference being encrypted for its owner. -/
theorem uses_enregistrerInitie {n : NouveauConsentInitie}
    (h : ∀ blob, Chiffre crypto n.proprietaire "consent" "external_ref" blob →
      P (.sql (.consent (.insertInitie n.id n.proprietaire blob n.etablissement n.status
        n.expiresAt)))) :
    (ConsentsAdapter.enregistrerInitie crypto n).run.Uses P := by
  refine Uses.run_mapError (uses_chiffrerTexteFrais_bind (hl _ trivial) fun nonce blob hblob => ?_)
  exact uses_interrogerChiffre (h blob ⟨nonce, _, hblob⟩)

/-- Updating a consent writes its reference encrypted for its owner. -/
theorem uses_mettreAJourConsent {owner : ProprietaireId} {id : ConsentId}
    {maj : MiseAJourConsent}
    (h : ∀ blob, Chiffre crypto owner "consent" "external_ref" blob →
      P (.sql (.consent (.mettreAJour maj.status blob maj.expiresAt id owner)))) :
    (ConsentsAdapter.mettreAJour crypto owner id maj).run.Uses P := by
  refine Uses.run_mapError (uses_chiffrerTexteFrais_bind (hl _ trivial) fun nonce blob hblob => ?_)
  exact Uses.run_bind (uses_interrogerChiffre (h blob ⟨nonce, _, hblob⟩)) fun _ => uses_pure _

/-- Fetching a consent of an owner only reads. -/
theorem uses_fetchPourProprietaire {owner : ProprietaireId} {id : ConsentId} :
    (ConsentsAdapter.fetchPourProprietaire crypto owner id).run.Uses P := by
  refine Uses.run_mapError (Uses.run_bind (uses_interrogerChiffre (hl _ rfl)) ?_)
  rintro (_ | row)
  · exact uses_pure _
  · exact Uses.run_bind uses_ofExcept fun _ => uses_pure _

/-- So does the listing of the active consents. -/
theorem uses_listerActifs {owner : ProprietaireId} :
    (ConsentsAdapter.listerActifsParProprietaire crypto owner).run.Uses P :=
  Uses.run_mapError (Uses.run_bind (uses_interrogerChiffre (hl _ rfl)) fun _ => uses_ofExcept)

/-- So does the search for another owner of an account. -/
theorem uses_proprietaireConcurrent {externe : String} {owner : ProprietaireId} :
    (BankAccountsAdapter.proprietaireConcurrent crypto externe owner).run.Uses P :=
  Uses.run_mapError (uses_interrogerChiffre (hl _ rfl))

/-- So does the listing of the accounts of a consent. -/
theorem uses_listerParConsent {owner : ProprietaireId} {id : ConsentId} :
    (BankAccountsAdapter.listerParConsent crypto owner id).run.Uses P :=
  Uses.run_mapError (Uses.run_bind (uses_interrogerChiffre (hl _ rfl)) fun _ => uses_ofExcept)

/-- So does the listing of the due accounts. -/
theorem uses_listerComptesEcheants {maintenant : DateTime} {quota : ℤ} :
    (BankAccountsAdapter.listerComptesEcheants crypto maintenant quota).run.Uses P :=
  Uses.run_mapError (Uses.run_bind (uses_interrogerChiffre (hl _ rfl)) fun _ => uses_ofExcept)

/-- Recording a balance inserts it. -/
theorem uses_enregistrerBalance {n : NouvelleBalance}
    (h : ∀ amount, P (.sql (.compte (.insertBalance n.bankAccount n.balanceType amount
      n.currency n.referenceDate)))) :
    (Balances.enregistrer crypto n).run.Uses P := by
  refine Uses.run_mapError (Uses.run_bind (uses_interrogerChiffre (hl _ rfl)) fun owner => ?_)
  refine Uses.run_bind (uses_chiffrerMontantFrais (hl _ trivial)) fun amount => ?_
  exact uses_interrogerChiffre (h amount)

/-- Searching the label of a transaction only reads. -/
theorem uses_libelleTransaction {owner : ProprietaireId} {compte transaction : Uuid} :
    (BankTransactionsAdapter.libelleTransaction crypto owner compte transaction).run.Uses P := by
  refine Uses.run_mapError (Uses.run_bind (uses_interrogerChiffre (hl _ rfl)) ?_)
  rintro (_ | blob)
  · exact uses_pure _
  · exact Uses.run_bind uses_ofExcept fun _ => uses_pure _

/-- Applying a rule to the past writes its batches. -/
theorem uses_appliquerRegleRetroactif {regle : RegleCategorisation}
    (h : ∀ ids, P (.sql (.transaction
      (.appliquerRegleParLot regle.categoryId regle.id ids regle.ownerId)))) :
    (BankTransactionsAdapter.appliquerRegleRetroactif crypto regle).run.Uses P := by
  refine Uses.run_bind (Uses.run_mapError ?_) fun candidats => ?_
  · exact Uses.run_bind (uses_interrogerChiffre (hl _ rfl)) fun _ => uses_ofExcept
  · dsimp only
    split
    · exact uses_pure _
    · exact Uses.run_mapError (uses_interrogerChiffre (h _))

/-- The recalculation of the internal transfers resets the marks and writes them again. -/
theorem uses_recalculerTransfertsInternes {owner : ProprietaireId}
    (hr : P (.sql (.transaction (.reinitialiserTransfertsInternes owner))))
    (hm : ∀ ids, P (.sql (.transaction (.marquerTransfertsInternes owner ids)))) :
    (BankTransactionsAdapter.recalculerTransfertsInternes crypto owner).run.Uses P := by
  refine Uses.run_mapError (Uses.run_bind ?_ fun mouvements => ?_)
  · refine Uses.run_bind (uses_interrogerChiffre (hl _ rfl)) fun rows => ?_
    exact Uses.run_bind uses_ofExcept fun _ => uses_pure _
  · refine Uses.run_bind ?_ fun _ => ?_
    · exact Uses.run_bind (uses_interrogerChiffre hr) fun _ => uses_pure _
    · unfold BankTransactions.marquerTransfertsInternes
      split
      · exact uses_pure _
      · exact uses_interrogerChiffre (hm _)

/-- The recalculation of the recurrences resets the marks and writes them again. -/
theorem uses_recalculerRecurrences {owner : ProprietaireId}
    (hr : P (.sql (.transaction (.reinitialiserRecurrences owner))))
    (hm : ∀ interval ids, P (.sql (.transaction (.marquerRecurrentes owner interval ids)))) :
    (BankTransactionsAdapter.recalculerRecurrences crypto owner).run.Uses P := by
  refine Uses.run_mapError (Uses.run_bind ?_ fun occurrences => ?_)
  · refine Uses.run_bind (uses_interrogerChiffre (hl _ rfl)) fun rows => ?_
    exact Uses.run_bind uses_ofExcept fun _ => uses_pure _
  · refine Uses.run_bind ?_ fun _ => ?_
    · exact Uses.run_bind (uses_interrogerChiffre hr) fun _ => uses_pure _
    · refine Uses.run_foldlM (fun n interval _ => ?_) 0
      refine Uses.run_bind ?_ fun _ => uses_pure _
      unfold BankTransactions.marquerRecurrentes
      split
      · exact uses_pure _
      · exact uses_interrogerChiffre (hm _ _)

/-- The insertion of an account: its keys and its ciphertext come from the
identifier it is given. -/
theorem uses_enregistrerCompte {n : NouveauBankAccount}
    (h : ∀ l : InsertionCompte, ∀ nonce : Nonce, l.owner = n.proprietaire →
      l.consentId = n.consent →
      chiffrerTexte crypto nonce n.proprietaire "bank_account" "external_account_id"
        n.externalAccountId = .ok l.externalAccountId →
      l.dedupKey = dedupKeyCompte crypto n.consent n.externalAccountId →
      l.empreinte = empreinteCompte crypto n.externalAccountId → P (.sql (.compte (.insert l)))) :
    (BankAccountsAdapter.enregistrer crypto n).run.Uses P := by
  refine Uses.run_mapError ?_
  unfold BankAccounts.insert
  refine uses_chiffrerTexteFrais_bind (hl _ trivial) fun nonce externe hexterne => ?_
  refine Uses.run_bind (uses_chiffrerTexteFrais (hl _ trivial)) fun iban => ?_
  refine Uses.run_bind (uses_interrogerChiffre (h _ nonce rfl rfl hexterne rfl rfl)) ?_
  rintro (_ | id)
  · exact uses_interrogerChiffre (hl _ rfl)
  · exact uses_pure _

/-- The rules of the owner of an inserted row. -/
theorem uses_categoriserTransactionInseree {compte transaction : Uuid} {label : String}
    (hregle : ∀ category regle owner,
      P (.sql (.transaction (.appliquerRegle category regle transaction owner)))) :
    (BankTransactionsAdapter.categoriserTransactionInseree compte transaction label).run.Uses P := by
  refine Uses.run_bind (Uses.run_mapError (uses_interrogerChiffre (hl _ rfl))) fun owner => ?_
  refine Uses.run_bind (Uses.run_mapError (Uses.run_mapError (uses_interroger (hl _ rfl))))
    fun regles => ?_
  split
  · exact Uses.run_mapError (Uses.run_bind (uses_interrogerChiffre (hregle ..)) fun _ =>
      uses_pure _)
  · exact uses_pure _

/-- The storage of an observation: the key of the row comes from the account and the
identifier it is given. -/
theorem uses_enregistrer {n : NouvelleTransactionBancaire}
    (hinsert : ∀ l : InsertionTransaction, l.bankAccountId = n.bankAccount →
      l.dedupKey = dedupKeyTransaction crypto n.bankAccount n.externalTransactionId →
      P (.sql (.transaction (.insert l))))
    (hregle : ∀ category regle transaction owner,
      P (.sql (.transaction (.appliquerRegle category regle transaction owner)))) :
    (BankTransactionsAdapter.enregistrer crypto n).run.Uses P := by
  refine Uses.run_bind (Uses.run_mapError ?_) ?_
  · refine Uses.run_bind (uses_interrogerChiffre (hl _ rfl)) fun owner => ?_
    refine Uses.run_bind (uses_chiffrerTexteFrais (hl _ trivial)) fun externe => ?_
    refine Uses.run_bind (uses_chiffrerTexteFrais (hl _ trivial)) fun label => ?_
    refine Uses.run_bind (uses_chiffrerMontantFrais (hl _ trivial)) fun amount => ?_
    refine Uses.run_bind (uses_interrogerChiffre (hinsert _ rfl rfl)) fun resultat => ?_
    split <;> exact uses_pure _
  · rintro (id | _)
    · refine Uses.run_bind (Uses.run_attempt ?_) fun _ => uses_pure _
      exact uses_categoriserTransactionInseree hl fun _ _ _ => hregle ..
    · exact uses_pure _

end Repositories

end Budgy
