import Budgy.Interface.Assumptions
import Budgy.Model.Systeme

/-!
# What a statement can do

A statement either fails and leaves the database as it found it, or takes its
effect.  `Requete.ecrit` names the tables a statement may write, with the tables its
foreign keys and triggers reach; `pareil_executer` says that it leaves the others
as they are.
-/

set_option autoImplicit false

namespace Budgy

open Effects Relational

/-! ## The combinators the statements are written with -/

section Combinators

variable {ρ β : Type} {s s' : Store} {valeur r : β}

/-- A read answers its value and leaves the store as it was. -/
@[simp]
theorem lire_eq_ok : lire s valeur = .ok (r, s') ↔ r = valeur ∧ s' = s := by
  simp [lire, eq_comm]

/-- A constraint that is met lets the statement go on. -/
@[simp]
theorem exiger_eq_ok {nom : String} {condition : Bool} {suite : Except SqlxError (β × Store)}
    {p : β × Store} : exiger nom condition suite = .ok p ↔ condition = true ∧ suite = .ok p := by
  cases condition <;> simp [exiger]

/-- An insertion goes on when its key is free. -/
@[simp]
theorem cleLibre_eq_ok {key : ρ → Uuid} {t : Table key} {ligne : ρ}
    {suite : Table key → Except SqlxError (β × Store)} {p : β × Store} :
    cleLibre t ligne suite = .ok p ↔ ∃ t', t.insert ligne = some t' ∧ suite t' = .ok p := by
  unfold cleLibre
  cases t.insert ligne <;> simp

end Combinators

namespace Requete

variable {col : Collation} {x : ChoixSql} {s s' : Store} {r : Requete}

/-- A statement fails without effect, or takes effect. -/
theorem executer_cases (col : Collation) (r : Requete) (x : ChoixSql) (s : Store) :
    (∃ e, r.executer col x s = (.error e, s)) ∨
      ∃ reponse s', x.panne = none ∧ r.effet col x s = .ok (reponse, s') ∧
        r.executer col x s = (.ok reponse, s') := by
  unfold executer
  cases hp : x.panne with
  | some message => exact .inl ⟨_, rfl⟩
  | none =>
      cases he : r.effet col x s with
      | error e => exact .inl ⟨e, rfl⟩
      | ok p => exact .inr ⟨p.1, p.2, rfl, rfl, rfl⟩

/-- A statement that answers takes its effect. -/
theorem effet_of_executer {v : r.Reponse} (h : (r.executer col x s).1 = .ok v) :
    r.effet col x s = .ok (v, (r.executer col x s).2) := by
  rcases executer_cases col r x s with ⟨e, he⟩ | ⟨v', s', -, heffet, heq⟩
  · rw [he] at h
    cases h
  · rw [heq] at h ⊢
    cases h
    exact heffet

/-- A property of the database survives a statement as soon as its effect keeps it. -/
theorem executer_preserves {I : Store → Prop} (hs : I s)
    (h : ∀ reponse s', r.effet col x s = .ok (reponse, s') → I s') :
    I (r.executer col x s).2 := by
  rcases executer_cases col r x s with ⟨e, he⟩ | ⟨reponse, s', -, he, heq⟩
  · rwa [he]
  · rw [heq]
    exact h _ _ he

end Requete

/-- The rule of a statement: it fails and leaves the database, or takes its effect. -/
theorem guarded_interroger {col : Collation} {G : Evenement col → Prop} {s : Store} {r : Requete}
    {Q : Except SqlxError r.Reponse → Store → Prop} (hG : ∀ x, G ⟨s, .sql r, x⟩)
    (herror : ∀ e, Q (.error e) s)
    (hok : ∀ x v s', r.effet col x s = .ok (v, s') → Q (.ok v) s') :
    Guarded (machine col) G (interroger r).run s Q := by
  refine guarded_perform.2 fun x => ⟨hG x, ?_⟩
  show Q (r.executer col x s).1 (r.executer col x s).2
  rcases Requete.executer_cases col r x s with ⟨e, he⟩ | ⟨v, s', -, heffet, heq⟩
  · rw [he]
    exact herror e
  · rw [heq]
    exact hok x v s' heffet

/-- The same rule, for what holds when the statement takes effect. -/
theorem guarded_interroger_ok {col : Collation} {G : Evenement col → Prop} {s : Store}
    {r : Requete} {Q : r.Reponse → Store → Prop} (hG : ∀ x, G ⟨s, .sql r, x⟩)
    (hok : ∀ x v s', r.effet col x s = .ok (v, s') → Q v s') :
    Guarded (machine col) G (interroger r).run s (OnOk Q) :=
  guarded_interroger hG (fun _ => trivial) hok

/-- The rule of one statement, for the run it makes: a failure leaves the database, a
success takes its effect. -/
theorem spec_interroger {col : Collation} {s : Store} {r : Requete}
    {Q : List (Evenement col) → Except SqlxError r.Reponse → Store → Prop}
    (herror : ∀ (x : ChoixSql) e, (r.executer col x s).1 = .error e →
      Q [⟨s, .sql r, x⟩] (.error e) s)
    (hok : ∀ (x : ChoixSql) v s', r.effet col x s = .ok (v, s') → (r.executer col x s).1 = .ok v →
      Q [⟨s, .sql r, x⟩] (.ok v) s') :
    Spec (machine col) (interroger r).run s Q := by
  refine spec_perform.2 fun x => ?_
  have hcases := Requete.executer_cases col r x s
  generalize hreply : (machine col).step (.sql r) x s = reply
  have hreply' : r.executer col x s = reply := hreply
  rw [hreply'] at hcases
  rcases hcases with ⟨e, rfl⟩ | ⟨v, s', -, heffet, rfl⟩
  · exact herror x e (by rw [hreply'])
  · exact hok x v s' heffet (by rw [hreply'])

/-- The same rule, in the repositories that encrypt. -/
theorem spec_interrogerChiffre {col : Collation} {s : Store} {r : Requete}
    {Q : List (Evenement col) → Except ChiffrementError r.Reponse → Store → Prop}
    (herror : ∀ (x : ChoixSql) e, (r.executer col x s).1 = .error e →
      Q [⟨s, .sql r, x⟩] (.error (.database e)) s)
    (hok : ∀ (x : ChoixSql) v s', r.effet col x s = .ok (v, s') → (r.executer col x s).1 = .ok v →
      Q [⟨s, .sql r, x⟩] (.ok v) s') :
    Spec (machine col) (interrogerChiffre r).run s Q :=
  spec_run_mapError.2 (spec_interroger herror hok)

/-! ## The tables a statement writes -/

/-- The tables of the database. -/
inductive NomTable where
  | consent
  | bankAccount
  | balance
  | bankTransaction
  | category
  | reglesCategorisation
  | budgets
  | preferencesUtilisateur
  | enveloppe
  deriving DecidableEq

/-- Two databases with the same rows in one table. -/
def Store.Pareil (s s' : Store) : NomTable → Prop
  | .consent => s'.consent = s.consent
  | .bankAccount => s'.bankAccount = s.bankAccount
  | .balance => s'.balance = s.balance
  | .bankTransaction => s'.bankTransaction = s.bankTransaction
  | .category => s'.category = s.category
  | .reglesCategorisation => s'.reglesCategorisation = s.reglesCategorisation
  | .budgets => s'.budgets = s.budgets
  | .preferencesUtilisateur => s'.preferencesUtilisateur = s.preferencesUtilisateur
  | .enveloppe => s'.enveloppe = s.enveloppe

/-- A store agrees with itself on every table. -/
theorem Store.Pareil.rfl {s : Store} : ∀ {t : NomTable}, s.Pareil s t
  | .consent | .bankAccount | .balance | .bankTransaction | .category
  | .reglesCategorisation | .budgets | .preferencesUtilisateur | .enveloppe => Eq.refl _

/-- Agreement on a table is transitive. -/
theorem Store.Pareil.trans {s₁ s₂ s₃ : Store} :
    ∀ {t : NomTable}, s₁.Pareil s₂ t → s₂.Pareil s₃ t → s₁.Pareil s₃ t
  | .consent, h, h' | .bankAccount, h, h' | .balance, h, h' | .bankTransaction, h, h'
  | .category, h, h' | .reglesCategorisation, h, h' | .budgets, h, h'
  | .preferencesUtilisateur, h, h' | .enveloppe, h, h' => Eq.trans h' h

/-- Two databases with the same rows in every table are the same. -/
theorem Store.eq_of_pareil {s s' : Store} (h : ∀ t, s.Pareil s' t) : s' = s :=
  Store.ext (h .consent) (h .bankAccount) (h .balance) (h .bankTransaction) (h .category)
    (h .reglesCategorisation) (h .budgets) (h .preferencesUtilisateur) (h .enveloppe)

/-- The tables a statement on consents writes, with those its deletions cascade to. -/
@[simp]
def RequeteConsent.ecrit : RequeteConsent → List NomTable
  | insertInitie .. | mettreAJour .. | marquerStatutProprietaire ..
  | marquerStatutConsent .. => [.consent]
  | supprimerParProprietaire .. => [.consent, .bankAccount, .balance, .bankTransaction]
  | fetchPourProprietaire .. | listerParProprietaire ..
  | listerActifsParProprietaire .. => []

/-- The tables a statement on accounts writes, with those its deletions cascade to. -/
@[simp]
def RequeteCompte.ecrit : RequeteCompte → List NomTable
  | insert .. | poserEmpreinte .. | reserverCreneau .. => [.bankAccount]
  | supprimerParProprietaire .. => [.bankAccount, .balance, .bankTransaction]
  | insertBalance .. => [.balance]
  | proprietaireConcurrent .. | listerSansEmpreinte | fetchIdParDedup .. | listerParConsent ..
  | compter .. | listerAvecSolde .. | fetchAvecSolde .. | listerSoldes ..
  | appartientAuProprietaire .. | soldeCourant .. | soldeAVenir .. | listerComptesEcheants ..
  | ownerDuCompte .. => []

/-- The tables a statement on transactions writes. -/
@[simp]
def RequeteTransaction.ecrit : RequeteTransaction → List NomTable
  | insert .. | categoriser .. | appliquerRegle .. | appliquerRegleParLot ..
  | appliquerCategorieDefautParLot .. | reinitialiserTransfertsInternes ..
  | marquerTransfertsInternes .. | reinitialiserRecurrences ..
  | marquerRecurrentes .. => [.bankTransaction]
  | fetch .. | compterParCompte .. | listerParCompte .. | listerPourProprietaire ..
  | listerNonCategorisees .. | categorieAccessible .. | categorieCreditParDefaut ..
  | listerCreditsNonCategorises .. | libelleTransaction .. | listerMouvements ..
  | idsTransfertsInternes .. | listerOccurrences .. => []

/-- The tables a statement on categories, rules, budgets, preferences and envelopes writes, with
those its deletions reach. -/
@[simp]
def RequeteClassement.ecrit : RequeteClassement → List NomTable
  | creerCategorie .. | mettreAJourCategorie .. => [.category]
  | supprimerCategorie .. => [.category, .bankTransaction, .reglesCategorisation, .budgets]
  | creerRegle .. => [.reglesCategorisation]
  | enregistrerBudget .. => [.budgets]
  | creerEnveloppe .. | modifierEnveloppe .. => [.enveloppe]
  | supprimerEnveloppe .. => [.enveloppe, .bankTransaction]
  | affecterTransaction .. => [.bankTransaction]
  | definirJourDebutMois .. => [.preferencesUtilisateur]
  | listerCategories .. | listerRegles .. | listerBudgetsParMois .. | montantsParCategorie ..
  | categoriesParId .. | consommations .. | listerEnveloppes .. | jourDebutMois .. => []

/-- The tables a statement may write. -/
@[simp]
def Requete.ecrit : Requete → List NomTable
  | consent r => r.ecrit
  | compte r => r.ecrit
  | transaction r => r.ecrit
  | classement r => r.ecrit

section Frame

variable {col : Collation} {x : ChoixSql} {s s' : Store} {t : NomTable}

/-- A table outside a list is one of the others: what is left is a reflexivity. -/
private theorem pareil_consent {r : RequeteConsent} {reponse : r.Reponse}
    (h : r.effet x s = .ok (reponse, s')) (ht : t ∉ r.ecrit) : s.Pareil s' t := by
  cases r <;> simp [RequeteConsent.effet] at h
  case insertInitie =>
    obtain ⟨_, -, -, rfl⟩ := h
    cases t <;> first | rfl | exact absurd (by simp) ht
  case mettreAJour | marquerStatutProprietaire | marquerStatutConsent
      | supprimerParProprietaire =>
    obtain ⟨-, rfl⟩ := h
    cases t <;> first | rfl | exact absurd (by simp) ht
  all_goals
    obtain ⟨-, rfl⟩ := h
    exact .rfl

/-- A statement on accounts leaves the tables it does not write as they were. -/
private theorem pareil_compte {r : RequeteCompte} {reponse : r.Reponse}
    (h : r.effet x s = .ok (reponse, s')) (ht : t ∉ r.ecrit) : s.Pareil s' t := by
  cases r <;> simp [RequeteCompte.effet] at h
  case insert l =>
    split at h
    · obtain ⟨-, rfl⟩ := lire_eq_ok.1 h
      exact .rfl
    · obtain ⟨-, _, -, h⟩ := by simpa using h
      obtain ⟨-, rfl⟩ := h
      cases t <;> first | rfl | exact absurd (by simp) ht
  case poserEmpreinte | reserverCreneau | supprimerParProprietaire =>
    obtain ⟨-, rfl⟩ := h
    cases t <;> first | rfl | exact absurd (by simp) ht
  case insertBalance =>
    obtain ⟨-, _, -, -, rfl⟩ := h
    cases t <;> first | rfl | exact absurd (by simp) ht
  case fetchIdParDedup | ownerDuCompte =>
    split at h
    · obtain ⟨-, rfl⟩ := lire_eq_ok.1 h
      exact .rfl
    · cases h
  all_goals
    obtain ⟨-, rfl⟩ := h
    exact .rfl

/-- So does a statement on transactions. -/
private theorem pareil_transaction {r : RequeteTransaction} {reponse : r.Reponse}
    (h : r.effet x s = .ok (reponse, s')) (ht : t ∉ r.ecrit) : s.Pareil s' t := by
  cases r <;> simp [RequeteTransaction.effet, RequeteTransaction.exigerCategorie, RequeteTransaction.majDe] at h
  case insert l =>
    split at h
    · split at h
      · obtain ⟨-, rfl⟩ := by simpa using h
        cases t <;> first | rfl | exact absurd (by simp) ht
      · obtain ⟨-, rfl⟩ := lire_eq_ok.1 h
        exact .rfl
    · obtain ⟨-, _, -, -, rfl⟩ := by simpa using h
      cases t <;> first | rfl | exact absurd (by simp) ht
  case categoriser | appliquerRegle | appliquerRegleParLot | appliquerCategorieDefautParLot =>
    obtain ⟨-, -, rfl⟩ := h
    cases t <;> first | rfl | exact absurd (by simp) ht
  case reinitialiserTransfertsInternes | marquerTransfertsInternes | reinitialiserRecurrences
      | marquerRecurrentes =>
    obtain ⟨-, rfl⟩ := h
    cases t <;> first | rfl | exact absurd (by simp) ht
  all_goals
    obtain ⟨-, rfl⟩ := h
    exact .rfl

/-- So does a statement on categories, rules, budgets, preferences and envelopes. -/
private theorem pareil_classement {r : RequeteClassement} {reponse : r.Reponse}
    (h : r.effet col x s = .ok (reponse, s')) (ht : t ∉ r.ecrit) : s.Pareil s' t := by
  cases r <;> simp [RequeteClassement.effet] at h
  case creerCategorie =>
    obtain ⟨_, -, -, rfl⟩ := h
    cases t <;> first | rfl | exact absurd (by simp) ht
  case mettreAJourCategorie | supprimerCategorie | supprimerEnveloppe | affecterTransaction =>
    obtain ⟨-, rfl⟩ := h
    cases t <;> first | rfl | exact absurd (by simp) ht
  case creerRegle =>
    split at h
    · obtain ⟨_, -, -, rfl⟩ := by simpa using h
      cases t <;> first | rfl | exact absurd (by simp) ht
    · obtain ⟨-, rfl⟩ := lire_eq_ok.1 h
      exact .rfl
  case enregistrerBudget =>
    split at h
    · simp only [exiger_eq_ok] at h
      obtain ⟨-, h⟩ := h
      split at h
      · obtain ⟨-, rfl⟩ := by simpa using h
        cases t <;> first | rfl | exact absurd (by simp) ht
      · obtain ⟨_, -, -, rfl⟩ := by simpa using h
        cases t <;> first | rfl | exact absurd (by simp) ht
    · obtain ⟨-, rfl⟩ := lire_eq_ok.1 h
      exact .rfl
  case creerEnveloppe =>
    obtain ⟨-, -, _, -, -, rfl⟩ := h
    cases t <;> first | rfl | exact absurd (by simp) ht
  case modifierEnveloppe =>
    split at h
    · obtain ⟨-, -, -, rfl⟩ := by simpa using h
      cases t <;> first | rfl | exact absurd (by simp) ht
    · obtain ⟨-, rfl⟩ := lire_eq_ok.1 h
      exact .rfl
  case definirJourDebutMois =>
    obtain ⟨-, h⟩ := h
    split at h
    all_goals
      obtain ⟨-, rfl⟩ := by simpa using h
      cases t <;> first | rfl | exact absurd (by simp) ht
  all_goals
    obtain ⟨-, rfl⟩ := h
    exact .rfl

/-- A statement leaves every table it does not name as it was. -/
theorem pareil_effet {r : Requete} {reponse : r.Reponse}
    (h : r.effet col x s = .ok (reponse, s')) (ht : t ∉ r.ecrit) : s.Pareil s' t := by
  cases r with
  | consent r => exact pareil_consent h ht
  | compte r => exact pareil_compte h ht
  | transaction r => exact pareil_transaction h ht
  | classement r => exact pareil_classement h ht

/-- So does every statement, when it fails as when it succeeds. -/
theorem pareil_executer {r : Requete} (ht : t ∉ r.ecrit) :
    s.Pareil (r.executer col x s).2 t :=
  Requete.executer_preserves (I := fun s' => s.Pareil s' t) .rfl fun _ _ h => pareil_effet h ht

/-- A statement that writes no table leaves the database as it was. -/
theorem executer_lecture {r : Requete} (h : r.ecrit = []) : (r.executer col x s).2 = s :=
  Store.eq_of_pareil fun _ => pareil_executer (h ▸ List.not_mem_nil)

end Frame

/-! ## The tables a request writes -/

/-- Only statements write. -/
@[simp]
def Op.ecrit : Op → List NomTable
  | .sql r => r.ecrit
  | _ => []

section Events

variable {col : Collation} {e : Evenement col} {t : NomTable}

/-- So does every event. -/
theorem pareil_event (ht : t ∉ e.op.ecrit) : e.before.Pareil e.after t := by
  obtain ⟨s, o, c⟩ := e
  cases o with
  | sql r => exact pareil_executer ht
  | banque | publier | nonce | uuidV4 | maintenant => exact .rfl

/-- An event that writes no table leaves the store as it was. -/
theorem after_lecture (h : e.op.ecrit = []) : e.after = e.before :=
  Store.eq_of_pareil fun _ => pareil_event (h ▸ List.not_mem_nil)

/-- A program leaves a table that none of its requests writes. -/
theorem spec_pareil {α : Type} {p : Programme α} {s : Store}
    (hp : p.Uses fun o : Op => t ∉ o.ecrit) :
    Spec (machine col) p s fun _ _ s' => s.Pareil s' t := by
  intro l a s' hrun
  refine hrun.related (R := fun s s' => s.Pareil s' t) (fun _ => .rfl)
    (fun _ _ _ h h' => h.trans h') ?_
  intro e he
  exact pareil_event (hrun.uses hp e he)

/-- A program that only reads leaves the database. -/
theorem spec_lecture {α : Type} {p : Programme α} {s : Store}
    (hp : p.Uses fun o : Op => o.ecrit = []) :
    Spec (machine col) p s fun _ _ s' => s' = s := by
  intro l a s' hrun
  refine hrun.related (R := fun s s' => s' = s) (fun _ => rfl) (fun _ _ _ h h' => h'.trans h) ?_
  intro e he
  exact after_lecture (hrun.uses hp e he)

/-- Did the request succeed?  Only the bank and the database can fail. -/
def Reussi : (o : Op) → o.Reply → Prop
  | .sql _, r => r.isOk = true
  | .banque _, r => r.isOk = true
  | _, _ => True

instance decidableReussi : (o : Op) → (r : o.Reply) → Decidable (Reussi o r)
  | .sql _, r => inferInstanceAs (Decidable (r.isOk = true))
  | .banque _, r => inferInstanceAs (Decidable (r.isOk = true))
  | .publier _, _ | .nonce, _ | .uuidV4, _ | .maintenant, _ => .isTrue trivial

/-- The outcome of a request of a run. -/
def Evenement.Reussi (e : Evenement col) : Prop := Budgy.Reussi e.op e.reply

instance : Decidable (Evenement.Reussi e) := decidableReussi e.op e.reply

/-- One of the requests of a run fails. -/
def Echec (t : List (Evenement col)) : Prop := ∃ e ∈ t, ¬ Evenement.Reussi e

/-- A failure of the beginning is a failure of the whole. -/
theorem Echec.left {t₁ t₂ : List (Evenement col)} (h : Echec t₁) : Echec (t₁ ++ t₂) := by
  obtain ⟨e, he, hechec⟩ := h
  exact ⟨e, List.mem_append_left _ he, hechec⟩

/-- So is a failure of the end. -/
theorem Echec.right {t₁ t₂ : List (Evenement col)} (h : Echec t₂) : Echec (t₁ ++ t₂) := by
  obtain ⟨e, he, hechec⟩ := h
  exact ⟨e, List.mem_append_right _ he, hechec⟩

/-- A statement takes its effect, or its failure is what stops the task. -/
theorem spec_ends_interroger {s : Store} {r : Requete}
    {Q : List (Evenement col) → r.Reponse → Store → Prop}
    (hok : ∀ (x : ChoixSql) v s', r.effet col x s = .ok (v, s') → (r.executer col x s).1 = .ok v →
      Q [⟨s, .sql r, x⟩] v s') :
    Spec (machine col) (interroger r).run s fun t => Ends (Q t) (Echec t) := by
  refine spec_interroger ?_ hok
  intro x e hreply
  refine ⟨_, List.mem_singleton_self _, ?_⟩
  show ¬ (r.executer col x s).1.isOk = true
  rw [hreply]
  exact Bool.false_ne_true

/-- The same rule, in the repositories that encrypt. -/
theorem spec_ends_interrogerChiffre {s : Store} {r : Requete}
    {Q : List (Evenement col) → r.Reponse → Store → Prop}
    (hok : ∀ (x : ChoixSql) v s', r.effet col x s = .ok (v, s') → (r.executer col x s).1 = .ok v →
      Q [⟨s, .sql r, x⟩] v s') :
    Spec (machine col) (interrogerChiffre r).run s fun t => Ends (Q t) (Echec t) :=
  spec_ends_mapError (spec_ends_interroger hok)

/-! ### When nothing fails -/

/-- A task whose failures show in its trace returns, when nothing fails. -/
theorem under_of_ends {ε α : Type} {s : Store} {x : Tache ε α} {Q : α → Store → Prop}
    (h : Spec (machine col) x.run s fun t => Ends (fun a s' => Q a s') (Echec t)) :
    Under (machine col) Evenement.Reussi x.run s (Returns Q) := by
  rintro t (e | a) s' hrun hreussi
  · obtain ⟨e, he, hechec⟩ := h hrun
    exact absurd (hreussi e he) hechec
  · exact h hrun

/-- A successful statement does what its effect says. -/
theorem under_statement {s : Store} {r : Requete} :
    Under (machine col) Evenement.Reussi (interrogerChiffre r).run s
      (Returns fun v s' => ∃ x, r.effet col x s = .ok (v, s')) :=
  under_of_ends (spec_ends_interrogerChiffre fun x _ _ heffet _ => ⟨x, heffet⟩)

/-- A reliable cipher seals every text. -/
theorem under_chiffrerTexteFrais {crypto : CryptoService} (hfiable : crypto.Fiable) {s : Store}
    {owner table field texte : String} :
    Under (machine col) Evenement.Reussi (chiffrerTexteFrais crypto owner table field texte).run s
      (Returns fun blob s' => s' = s ∧
        ∃ nonce, chiffrerTexte crypto nonce owner table field texte = .ok blob) := by
  refine Under.ret_bind (R := fun _ s' => s' = s) (Under.run_ofProg (under_perform.2 fun _ _ =>
    rfl)) ?_
  rintro nonce _ rfl
  obtain ⟨blob, hblob⟩ := chiffrerTexte_ok hfiable nonce owner table field texte
  rw [hblob]
  exact under_pure.2 ⟨rfl, nonce, hblob⟩

/-! ### When a statement fails -/

/-- A statement takes its effect, or the task stops there with the database as it was. -/
theorem spec_stops_interrogerChiffre {s : Store} {r : Requete} {Q : r.Reponse → Store → Prop}
    {I : Store → Prop} (hs : I s) (hok : ∀ x v s', r.effet col x s = .ok (v, s') → Q v s') :
    Spec (machine col) (interrogerChiffre r).run s fun t => Stops Evenement.Reussi Q I t := by
  refine spec_interrogerChiffre (fun x e hreply => .inr hs) fun x v s' heffet hreply => ⟨?_, ?_⟩
  · intro e he
    obtain rfl := List.mem_singleton.1 he
    show (r.executer col x s).1.isOk = true
    rw [hreply]
    rfl
  · exact hok x v s' heffet

/-- Sealing a text asks for a nonce, which cannot fail. -/
theorem spec_stops_chiffrerTexteFrais {crypto : CryptoService} {s : Store}
    {owner table field texte : String} {I : Store → Prop} :
    Spec (machine col) (chiffrerTexteFrais crypto owner table field texte).run s fun t =>
      Stops Evenement.Reussi (fun _ s' => s' = s) I t := by
  refine spec_stops_bind (R := fun _ s' => s' = s) (spec_run_ofProg.2 (spec_perform.2 ?_)) ?_
  · intro nonce
    refine ⟨?_, rfl⟩
    intro e he
    obtain rfl := List.mem_singleton.1 he
    trivial
  · rintro nonce _ rfl
    cases chiffrerTexte crypto nonce owner table field texte with
    | error e => exact spec_stops_throw
    | ok blob => exact spec_stops_pure rfl

end Events

end Budgy
