import Budgy.Model.Store
import Budgy.Model.Agregation

/-!
# The statements on categories, rules, budgets, envelopes, expenses and preferences

Texts are ordered by the collation of the database, given by the sort key it
computes for a text.
-/

set_option autoImplicit false

namespace Budgy

open Relational (arrange sortBy)

/-- The collation of the database: texts are compared by their sort keys. -/
structure Collation where
  cle : String → List ℕ

/-- The statements on categories, rules, budgets, envelopes and preferences, with their
parameters. -/
inductive RequeteClassement where
  | listerCategories (owner : ProprietaireId)
  | creerCategorie (owner : ProprietaireId) (name : String) (kind : CategoryKind)
      (color icon : String)
  | mettreAJourCategorie (name : String) (kind : CategoryKind) (color icon : String)
      (id : Uuid) (owner : ProprietaireId)
  | supprimerCategorie (id : Uuid) (owner : ProprietaireId)
  | creerRegle (owner : ProprietaireId) (labelPattern : String) (category : Uuid) (priority : ℤ)
  | listerRegles (owner : ProprietaireId)
  | enregistrerBudget (owner : ProprietaireId) (category : Uuid) (montant : ℤ)
      (mois : NaiveDate)
  | listerBudgetsParMois (owner : ProprietaireId) (mois : NaiveDate)
  | montantsParCategorie (owner : ProprietaireId) (debut finExclue : NaiveDate)
  | categoriesParId (owner : ProprietaireId)
  | consommations (owner : ProprietaireId)
  | listerEnveloppes (owner : ProprietaireId)
  | creerEnveloppe (owner : ProprietaireId) (nom icon color : String) (montant : ℤ)
  | modifierEnveloppe (id : Uuid) (owner : ProprietaireId) (nom icon color : String)
      (montant : ℤ)
  | supprimerEnveloppe (id : Uuid) (owner : ProprietaireId)
  | affecterTransaction (transaction : Uuid) (owner : ProprietaireId) (enveloppe : Option Uuid)
  | jourDebutMois (owner : ProprietaireId)
  | definirJourDebutMois (owner : ProprietaireId) (jour : ℤ)

namespace RequeteClassement

/-- What each statement returns. -/
abbrev Reponse : RequeteClassement → Type
  | listerCategories .. => List (Category × ℕ)
  | creerCategorie .. => Category
  | mettreAJourCategorie .. => Option Category
  | supprimerCategorie .. => ℕ
  | creerRegle .. => Option RegleCategorisation
  | listerRegles .. => List RegleCategorisation
  | enregistrerBudget .. => Option Budget
  | listerBudgetsParMois .. => List Budget
  | montantsParCategorie .. => List (Option Uuid × List UInt8)
  | categoriesParId .. => List Category
  | consommations .. => List (Uuid × List UInt8)
  | listerEnveloppes .. => List Enveloppe
  | creerEnveloppe .. => Enveloppe
  | modifierEnveloppe .. => Option Enveloppe
  | supprimerEnveloppe .. => ℕ
  | affecterTransaction .. => ℕ
  | jourDebutMois .. => Option ℤ
  | definirJourDebutMois .. => Unit

/-- The sub-query of `lister_pour_proprietaire`: every transaction of the category. -/
def transactionCount (s : Store) (category : Uuid) : ℕ :=
  s.bankTransaction.count fun t => t.categoryId = some category

/-- The transactions of the owner that the monthly totals count. -/
def compteeDansCycle (s : Store) (owner : ProprietaireId) (debut finExclue : NaiveDate)
    (t : BankTransactionRow) : Bool :=
  s.txDe owner t && !t.isInternalTransfer && t.date.any (debut ≤ ·) &&
  t.date.any (· < finExclue)

/-- `EXISTS (SELECT 1 FROM budgy.enveloppe …)`. -/
def enveloppeDe (s : Store) (owner : ProprietaireId) (enveloppe : Uuid) : Bool :=
  s.enveloppe.any fun e => e.id = enveloppe && e.proprietaire = owner

/-- `UNIQUE (owner_id, nom)`. -/
def nomLibre (s : Store) (owner : ProprietaireId) (nom : String) (sauf : Uuid → Bool) : Bool :=
  !(s.enveloppe.any fun e => e.proprietaire = owner && e.nom = nom && !sauf e.id)

/-- What each statement does to the database. -/
def effet (col : Collation) (x : ChoixSql) (s : Store) :
    (r : RequeteClassement) → Except SqlxError (r.Reponse × Store)
  | listerCategories owner =>
      lire s ((sortBy (fun c => toLex (col.cle c.kind.asStr, col.cle c.name))
        (arrange Category.id x.rang (s.category.select fun c =>
          Store.categorieVisible owner c))).map fun c => (c, transactionCount s c.id))
  | creerCategorie owner name kind color icon =>
      let ligne : Category :=
        { id := x.uuid, ownerId := some owner, name, kind, color, icon, createdAt := x.maintenant }
      cleLibre s.category ligne fun t => .ok (ligne, { s with category := t })
  | mettreAJourCategorie name kind color icon id owner =>
      let vise (c : Category) : Bool := c.id = id && c.ownerId = some owner
      let t := s.category.update vise (fun c => { c with name, kind, color, icon }) fun _ => rfl
      .ok ((t.find? id).filter vise, { s with category := t })
  | supprimerCategorie id owner =>
      let vise (c : Category) : Bool := c.id = id && c.ownerId = some owner
      .ok (s.category.count vise, s.supprimerCategories vise)
  | creerRegle owner labelPattern category priority =>
      if s.category.any fun c =>
          c.id = category && (c.ownerId = some owner || c.ownerId = none) then
        let ligne : RegleCategorisation :=
          { id := x.uuid, ownerId := owner, labelPattern, categoryId := category, priority,
            createdAt := x.maintenant }
        cleLibre s.reglesCategorisation ligne fun t =>
          .ok (some ligne, { s with reglesCategorisation := t })
      else lire s none
  | listerRegles owner =>
      lire s (sortBy (fun r => toLex (-r.priority, -r.createdAt))
        (arrange RegleCategorisation.id x.rang
          (s.reglesCategorisation.select fun r => r.ownerId = owner)))
  | enregistrerBudget owner category montant mois =>
      if s.category.any fun c =>
          c.id = category && (c.ownerId = some owner || c.ownerId = none) then
        let vise (b : Budget) : Bool :=
          b.ownerId = owner && b.categoryId = category && b.mois = mois
        exiger "budgets_montant_prevu_cents_check" (0 ≤ montant) <|
          if s.budgets.any vise then
            let t := s.budgets.update vise
              (fun b => { b with montantPrevuCents := montant, updatedAt := x.maintenant })
              fun _ => rfl
            .ok ((t.select vise).head?, { s with budgets := t })
          else
            let ligne : Budget :=
              { id := x.uuid, ownerId := owner, categoryId := category,
                montantPrevuCents := montant, mois, createdAt := x.maintenant,
                updatedAt := x.maintenant }
            cleLibre s.budgets ligne fun t => .ok (some ligne, { s with budgets := t })
      else lire s none
  | listerBudgetsParMois owner mois =>
      lire s (sortBy (fun b => toLex (b.createdAt, b.id))
        (arrange Budget.id x.rang (s.budgets.select fun b => b.ownerId = owner && b.mois = mois)))
  | montantsParCategorie owner debut finExclue =>
      lire s ((arrange BankTransactionRow.id x.rang (s.bankTransaction.select
        (compteeDansCycle s owner debut finExclue))).map fun t => (t.categoryId, t.amountCents))
  | categoriesParId owner =>
      lire s (arrange Category.id x.rang (s.category.select fun c =>
        Store.categorieVisible owner c))
  | consommations owner =>
      lire s ((arrange BankTransactionRow.id x.rang (s.bankTransaction.select fun t =>
        s.txDe owner t && t.enveloppeId.isSome)).filterMap fun t =>
          t.enveloppeId.map fun e => (e, t.amountCents))
  | listerEnveloppes owner =>
      lire s (sortBy (fun e => col.cle e.nom)
        (arrange Enveloppe.id x.rang (s.enveloppe.select fun e => e.proprietaire = owner)))
  | creerEnveloppe owner nom icon color montant =>
      let ligne : Enveloppe :=
        { id := x.uuid, proprietaire := owner, nom, icon, color, montantCents := montant,
          createdAt := x.maintenant }
      exiger "enveloppe_montant_cents_check" (0 ≤ montant) <|
        exiger "enveloppe_owner_nom_unique" (nomLibre s owner nom fun _ => false) <|
          cleLibre s.enveloppe ligne fun t => .ok (ligne, { s with enveloppe := t })
  | modifierEnveloppe id owner nom icon color montant =>
      let vise (e : Enveloppe) : Bool := e.id = id && e.proprietaire = owner
      if s.enveloppe.any vise then
        exiger "enveloppe_montant_cents_check" (0 ≤ montant) <|
          exiger "enveloppe_owner_nom_unique" (nomLibre s owner nom fun e => e = id) <|
            let t := s.enveloppe.update vise
              (fun e => { e with nom, icon, color, montantCents := montant }) fun _ => rfl
            .ok ((t.find? id).filter vise, { s with enveloppe := t })
      else lire s none
  | supprimerEnveloppe id owner =>
      let vise (e : Enveloppe) : Bool := e.id = id && e.proprietaire = owner
      .ok (s.enveloppe.count vise, s.supprimerEnveloppes vise)
  | affecterTransaction transaction owner enveloppe =>
      let vise (t : BankTransactionRow) : Bool :=
        t.id = transaction && s.txDe owner t && enveloppe.all fun e => enveloppeDe s owner e
      .ok (s.bankTransaction.count vise,
        s.majTransaction vise fun t => { t with enveloppeId := enveloppe })
  | jourDebutMois owner =>
      lire s ((s.preferencesUtilisateur.find? owner).map PreferencesRow.jourDebutMois)
  | definirJourDebutMois owner jour =>
      exiger "preferences_utilisateur_jour_debut_mois_check" (1 ≤ jour && jour ≤ 31) <|
        match s.preferencesUtilisateur.insert ⟨owner, jour⟩ with
        | some t => .ok ((), { s with preferencesUtilisateur := t })
        | none =>
            .ok ((), { s with
              preferencesUtilisateur := s.preferencesUtilisateur.update
                (fun p => p.ownerId = owner) (fun p => { p with jourDebutMois := jour })
                fun _ => rfl })

end RequeteClassement

end Budgy
