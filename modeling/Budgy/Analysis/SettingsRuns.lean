import Budgy.Analysis.Footprint
import Budgy.Analysis.Scenarios
import Budgy.Analysis.Settings
import Budgy.Interface.Refinement

/-!
# The settings along a run

What each operation answers decides what it made of the settings of its user: `Avance` says
so on the maps alone, with the four outcomes of a request in `Issue`.  The service refines
it, so a run moves the settings of a user as its answers say, and the pages show them.
-/

set_option autoImplicit false

namespace Budgy

open Effects Relational

/-! ## What the forms ask -/

/-- The record a category request asks for, or the error it is refused with. -/
def CategoryRequest.fiche (p : CategoryRequest) : Except ApiError FicheCategorie := do
  let name ← Handlers.parseName p.name
  let kind ← Handlers.parseKind p.kind
  return ⟨name.asStr, kind, couleurOuDefaut p.color, iconeOuDefaut p.icon⟩

/-- The record an envelope request asks for, or the error it is refused with. -/
def EnveloppeRequest.fiche (p : EnveloppeRequest) : Except ApiError FicheEnveloppe := do
  let requete ← Handlers.parseRequete p
  return ⟨requete.nom.asStr, requete.icon, requete.color, requete.montant.cents⟩

/-- The month and the amount of a budget. -/
def UpsertBudgetRequest.prevision (p : UpsertBudgetRequest) :
    Except ApiError (NaiveDate × ℤ) := do
  let montantPrevu ← valider BudgetValidationError.toText (MontantPrevu.parse p.montantCents)
  let mois ← valider BudgetValidationError.toText (MoisBudget.parse p.mois)
  return (mois.premierJour, montantPrevu.cents)

/-- The first day of the month that is asked. -/
def jourSouhaite (jour : ℕ) : Except ApiError JourDebutMois :=
  match JourDebutMois.nouveau? jour with
  | some jour => .ok jour
  | none => .error (ApiError.validation
      "le jour de départ du mois doit être compris entre 1 et 31")

/-! ## The steps -/

namespace Reglages

/-- The four outcomes of a request: the form is refused, the service fails, what the request
names is missing, or the request is accepted.  The settings only move in the last one. -/
inductive Issue {φ α : Type} (σ : Reglages) (demande : Except ApiError φ) (manque : Prop)
    (accepte : φ → α → Reglages → Prop) : Except ApiError α → Reglages → Prop where
  | refusee {e : ApiError} (h : demande = .error e) : Issue σ demande manque accepte (.error e) σ
  | panne {e : ApiError} {f : φ} (h : demande = .ok f) (he : e.code = .internal) :
      Issue σ demande manque accepte (.error e) σ
  | introuvable {e : ApiError} {f : φ} (h : demande = .ok f) (hmanque : manque)
      (he : e.code = .notFound) : Issue σ demande manque accepte (.error e) σ
  | acceptee {a : α} {f : φ} {σ' : Reglages} (h : demande = .ok f) (hmanque : ¬ manque)
      (ha : accepte f a σ') : Issue σ demande manque accepte (.ok a) σ'

/-- An outcome keeps what the accepted request keeps. -/
theorem Issue.keeps {φ α : Type} {σ σ' : Reglages} {demande : Except ApiError φ} {manque : Prop}
    {accepte : φ → α → Reglages → Prop} {r : Except ApiError α} {I : Reglages → Prop}
    (h : σ.Issue demande manque accepte r σ') (hσ : I σ)
    (haccepte : ∀ f a σ', accepte f a σ' → I σ') : I σ' := by
  cases h with
  | refusee => exact hσ
  | panne => exact hσ
  | introuvable => exact hσ
  | acceptee _ _ ha => exact haccepte _ _ _ ha

/-- The step of an operation of the user, that answers `r`. -/
def Pas (σ σ' : Reglages) : (o : Operation) → o.Reponse → Prop
  | .createCategory _ p, r =>
      σ.Issue p.fiche False (fun f c σ' => σ.categories c.category.id = none ∧
        c.category.id ∉ σ.systeme ∧ c.category.fiche = f ∧
        σ' = σ.poserCategorie c.category.id f) r σ'
  | .updateCategory _ id p, r =>
      σ.Issue p.fiche (σ.categories id = none) (fun f c σ' => c.category.id = id ∧
        c.category.fiche = f ∧ σ' = σ.poserCategorie id f) r σ'
  | .deleteCategory _ id, r =>
      σ.Issue (.ok ()) (σ.categories id = none) (fun _ _ σ' => σ' = σ.retirerCategorie id) r σ'
  | .createEnveloppe _ p, r =>
      σ.Issue p.fiche False (fun f e σ' => σ.enveloppes e.enveloppe.id = none ∧
        ¬ σ.NomPris f.nom e.enveloppe.id ∧ e.enveloppe.fiche = f ∧
        σ' = σ.poserEnveloppe e.enveloppe.id f) r σ'
  | .updateEnveloppe _ id p, r =>
      σ.Issue p.fiche (σ.enveloppes id = none) (fun f e σ' => ¬ σ.NomPris f.nom id ∧
        e.enveloppe.id = id ∧ e.enveloppe.fiche = f ∧ σ' = σ.poserEnveloppe id f) r σ' ∨
      -- the envelope is written, and the page of the answer could not be read
      ∃ f e, p.fiche = .ok f ∧ σ.enveloppes id ≠ none ∧ ¬ σ.NomPris f.nom id ∧
        σ' = σ.poserEnveloppe id f ∧ r = .error e ∧ e.code = .internal
  | .deleteEnveloppe _ id, r =>
      σ.Issue (.ok ()) (σ.enveloppes id = none) (fun _ _ σ' => σ' = σ.retirerEnveloppe id) r σ'
  | .upsertBudget _ p, r =>
      σ.Issue p.prevision (¬ σ.Accessible p.categoryId) (fun f b σ' =>
        b.objet = (p.categoryId, f.1) ∧ b.montantPrevuCents = f.2 ∧
        σ' = σ.poserBudget (p.categoryId, f.1) f.2) r σ'
  | .updatePreferences _ jour, r =>
      σ.Issue (jourSouhaite jour) False (fun j j' σ' => j' = j ∧ σ' = σ.poserJour j.valeur) r σ'
  | _, _ => σ' = σ

end Reglages

/-- The user whose settings the operation is about. -/
def Operation.regleur : Operation → Option ProprietaireId
  | .createCategory owner _ => some owner
  | .updateCategory owner _ _ => some owner
  | .deleteCategory owner _ => some owner
  | .createEnveloppe owner _ => some owner
  | .updateEnveloppe owner _ _ => some owner
  | .deleteEnveloppe owner _ => some owner
  | .upsertBudget owner _ => some owner
  | .updatePreferences owner _ => some owner
  | _ => none

/-- An operation with its answer. -/
abbrev Operation.Repondue : Type := Σ o : Operation, o.Reponse

/-- A step of a run as an answered operation. -/
def Etape.repondue {col : Collation} {cfg : Configuration} (c : Etape col cfg) :
    Operation.Repondue := ⟨c.call, c.answer⟩

/-- The settings of `A` move by the operations of `A`, as their answers say. -/
def Reglages.Avance (A : ProprietaireId) (σ : Reglages) (x : Operation.Repondue)
    (σ' : Reglages) : Prop :=
  (x.1.regleur = some A → σ.Pas σ' x.1 x.2) ∧ (x.1.regleur ≠ some A → σ' = σ)

/-! ## The operations -/

section Operations

variable {col : Collation} {owner : ProprietaireId} {s : Store}

/-- The operation is a step of the settings of its user, and leaves those of the others. -/
def Store.Pas (s : Store) (owner : ProprietaireId) (o : Operation) (r : o.Reponse)
    (s' : Store) : Prop :=
  (s.reglages owner).Pas (s'.reglages owner) o r ∧ ∀ B, B ≠ owner → s'.reglages B = s.reglages B

/-- A form that is refused ends the request. -/
theorem guarded_formulaire {φ α : Type} {form : Except ApiError φ} {k : φ → Tache ApiError α}
    {Q : Except ApiError α → Store → Prop} (herror : ∀ e, form = .error e → Q (.error e) s)
    (hok : ∀ f, form = .ok f → Guarded (machine col) (fun _ => True) (k f).run s Q) :
    Guarded (machine col) (fun _ => True) (Task.ofExcept form >>= k).run s Q := by
  cases form with
  | error e => exact guarded_pure.2 (herror e rfl)
  | ok f => exact hok f rfl

/-- A statement fails, and nothing has changed, or it takes effect. -/
def Store.Ecrit (col : Collation) (s : Store) (r : RequeteClassement) :
    Except ApiError r.Reponse → Store → Prop
  | .ok v, s' => ∃ x, (Requete.classement r).effet col x s = .ok (v, s')
  | .error e, s' => e.code = .internal ∧ s' = s

/-- A statement on the settings ends as its effect says, or leaves the store as it was. -/
theorem guarded_ecrit {r : RequeteClassement} :
    Guarded (machine col) (fun _ => True) ((interroger (.classement r)).mapError ecritureSql).run s
      fun t s' => s.Ecrit col r (t.mapError ApiError.ofEcriture) s' := by
  apply Guarded.run_mapError
  apply guarded_interroger
  · exact fun _ => trivial
  · exact fun e => ⟨rfl, rfl⟩
  · exact fun x v s' heffet => ⟨x, heffet⟩

/-- A page that ends with one statement is judged on its effect, and on the store unchanged when
it fails. -/
theorem guarded_ecriture {α : Type} {r : RequeteClassement} {k : r.Reponse → Tache ApiError α}
    {Q : Except ApiError α → Store → Prop}
    (herror : ∀ e : ApiError, e.code = .internal → Q (.error e) s)
    (hok : ∀ x v s', (Requete.classement r).effet col x s = .ok (v, s') →
      Guarded (machine col) (fun _ => True) (k v).run s' Q) :
    Guarded (machine col) (fun _ => True)
      (ecritureApi ((interroger (.classement r)).mapError ecritureSql) >>= k).run s Q := by
  apply Guarded.run_bind (R := s.Ecrit col r)
  · exact Guarded.run_mapError guarded_ecrit
  · rintro v s' ⟨x, heffet⟩
    exact hok x v s' heffet
  · rintro e s' ⟨he, rfl⟩
    exact herror e he

/-- A deletion says whether there was a row to delete. -/
theorem guarded_touche {r : RequeteClassement} {f : r.Reponse → Bool} {message : String}
    {Q : Except ApiError PUnit → Store → Prop}
    (herror : ∀ e : ApiError, e.code = .internal → Q (.error e) s)
    (hok : ∀ x v s', (Requete.classement r).effet col x s = .ok (v, s') → f v = true →
      Q (.ok ⟨⟩) s')
    (habsent : ∀ x v s', (Requete.classement r).effet col x s = .ok (v, s') → f v = false →
      Q (.error (ApiError.notFound message)) s') :
    Guarded (machine col) (fun _ => True)
      (do
        let touche ← ecritureApi (do
          let lignes ← (interroger (.classement r)).mapError ecritureSql
          return f lignes)
        if !touche then throw (ApiError.notFound message) : Tache ApiError PUnit).run s Q := by
  have hstatement : Guarded (machine col) (fun _ => True)
      (ecritureApi (do
        let lignes ← (interroger (.classement r)).mapError ecritureSql
        return f lignes)).run s fun t s' => ∃ t', s.Ecrit col r t' s' ∧ t = t'.map f := by
    apply Guarded.run_mapError
    apply Guarded.run_bind guarded_ecrit
    · intro v s' hv
      exact guarded_run_pure.2 ⟨.ok v, hv, rfl⟩
    · intro e s' he
      exact ⟨.error _, he, rfl⟩
  apply Guarded.run_bind hstatement
  · rintro touche s' ⟨t', ht', htouche⟩
    cases t' with
    | error e => cases htouche
    | ok v =>
        obtain ⟨x, heffet⟩ := ht'
        obtain rfl : touche = f v := Except.ok.inj htouche
        cases hv : f v with
        | true => exact guarded_run_pure.2 (hok x v s' heffet hv)
        | false => exact guarded_run_throw.2 (habsent x v s' heffet hv)
  · rintro e s' ⟨t', ht', herreur⟩
    cases t' with
    | ok v => cases herreur
    | error e' =>
        obtain ⟨hcode, rfl⟩ := ht'
        obtain rfl : e = e' := Except.error.inj herreur
        exact herror e hcode

/-- `create_category` moves the settings as the specification says. -/
theorem guarded_createCategory {payload : CategoryRequest} :
    Guarded (machine col) (fun _ => True) (Handlers.createCategory owner payload).run s
      (s.Pas owner (.createCategory owner payload)) := by
  unfold Handlers.createCategory
  apply guarded_formulaire
  · intro e he
    exact ⟨.refusee (by simp [CategoryRequest.fiche, he]; rfl), fun _ _ => rfl⟩
  intro name hname
  apply guarded_formulaire
  · intro e he
    exact ⟨.refusee (by simp [CategoryRequest.fiche, hname, he]; rfl), fun _ _ => rfl⟩
  intro kind hkind
  have hfiche : payload.fiche = .ok ⟨name.asStr, kind, couleurOuDefaut payload.color,
      iconeOuDefaut payload.icon⟩ := by
    simp [CategoryRequest.fiche, hname, hkind]
    rfl
  apply guarded_ecriture
  · intro e he
    exact ⟨.panne hfiche he, fun _ _ => rfl⟩
  intro x c s' heffet
  obtain ⟨hc, hfresh, hregle, hautres⟩ := reglages_creerCategorie heffet
  refine guarded_run_pure.2 ⟨.acceptee hfiche nofun ⟨?_, ?_, hc, ?_⟩, hautres⟩
  · exact categories_eq_none.2 fun c' hc' _ => hfresh c' hc'
  · rintro ⟨c', hc', hid, -⟩
    exact hfresh c' hc' hid
  · rw [hregle, hc]

/-- So does `update_category`. -/
theorem guarded_updateCategory {id : CategoryId} {payload : CategoryRequest} :
    Guarded (machine col) (fun _ => True) (Handlers.updateCategory owner id payload).run s
      (s.Pas owner (.updateCategory owner id payload)) := by
  unfold Handlers.updateCategory
  apply guarded_formulaire
  · intro e he
    exact ⟨.refusee (by simp [CategoryRequest.fiche, he]; rfl), fun _ _ => rfl⟩
  intro name hname
  apply guarded_formulaire
  · intro e he
    exact ⟨.refusee (by simp [CategoryRequest.fiche, hname, he]; rfl), fun _ _ => rfl⟩
  intro kind hkind
  have hfiche : payload.fiche = .ok ⟨name.asStr, kind, couleurOuDefaut payload.color,
      iconeOuDefaut payload.icon⟩ := by
    simp [CategoryRequest.fiche, hname, hkind]
    rfl
  apply guarded_ecriture
  · intro e he
    exact ⟨.panne hfiche he, fun _ _ => rfl⟩
  rintro x (_ | c) s' heffet
  · obtain ⟨habsente, hregle, hautres⟩ := reglages_mettreAJourCategorie_none heffet
    refine guarded_run_throw.2 ⟨?_, hautres⟩
    rw [hregle]
    exact .introuvable hfiche habsente rfl
  · obtain ⟨hid, hc, hpresente, hregle, hautres⟩ := reglages_mettreAJourCategorie_some heffet
    refine guarded_run_pure.2 ⟨.acceptee hfiche hpresente ⟨hid, hc, ?_⟩, hautres⟩
    rw [hregle, hc]

/-- So does `delete_category`. -/
theorem guarded_deleteCategory (hi : s.Integre) (hacces : s.BudgetsAccessibles)
    {id : CategoryId} :
    Guarded (machine col) (fun _ => True) (Handlers.deleteCategory owner id).run s
      (s.Pas owner (.deleteCategory owner id)) := by
  apply guarded_touche
  · intro e he
    exact ⟨.panne rfl he, fun _ _ => rfl⟩
  · intro x lignes s' heffet hlignes
    obtain ⟨hpresente, hregle, hautres⟩ :=
      reglages_supprimerCategorie hacces hi (of_decide_eq_true hlignes) heffet
    exact ⟨.acceptee rfl hpresente hregle, hautres⟩
  · intro x lignes s' heffet hlignes
    obtain rfl : lignes = 0 := by simpa using hlignes
    obtain ⟨habsente, hregle, hautres⟩ := reglages_supprimerCategorie_absente heffet
    refine ⟨?_, hautres⟩
    rw [hregle]
    exact .introuvable rfl habsente rfl

/-- So does `create_enveloppe`. -/
theorem guarded_createEnveloppe {payload : EnveloppeRequest} :
    Guarded (machine col) (fun _ => True) (Handlers.createEnveloppe owner payload).run s
      (s.Pas owner (.createEnveloppe owner payload)) := by
  unfold Handlers.createEnveloppe
  apply guarded_formulaire
  · intro e he
    exact ⟨.refusee (by simp [EnveloppeRequest.fiche, he]), fun _ _ => rfl⟩
  intro requete hrequete
  have hfiche : payload.fiche =
      .ok ⟨requete.nom.asStr, requete.icon, requete.color, requete.montant.cents⟩ := by
    simp [EnveloppeRequest.fiche, hrequete]
  apply guarded_ecriture
  · intro e he
    exact ⟨.panne hfiche he, fun _ _ => rfl⟩
  intro x e s' heffet
  obtain ⟨he, hfresh, hlibre, hregle, hautres⟩ := reglages_creerEnveloppe heffet
  refine guarded_run_pure.2 ⟨.acceptee hfiche nofun ⟨hfresh, hlibre, he, ?_⟩, hautres⟩
  rw [hregle, he]

/-- The consumptions of the envelopes are only read. -/
theorem guarded_consommations {crypto : CryptoService} :
    Guarded (machine col) (fun _ => True) (Enveloppes.consommations crypto owner).run s
      (Trouve s fun _ => True) := by
  apply Trouve.run_bind (Trouve.run_mapError (guarded_lecture (fun _ _ => trivial) rfl))
  intro rows _
  apply Trouve.run_bind (Trouve.run_ofExcept fun _ _ => trivial)
  intro lignes _
  exact Trouve.run_pure trivial

/-- The envelopes that are listed are those of the user. -/
theorem guarded_listerEnveloppes {crypto : CryptoService} :
    Guarded (machine col) (fun _ => True) (Enveloppes.lister crypto owner).run s
      (Trouve s fun suivis => (suivis.map SuiviEnveloppe.enveloppe).Perm
        (s.enveloppe.select fun e => e.proprietaire = owner)) := by
  apply Trouve.run_bind (Trouve.run_mapError (guarded_lecture (fun _ _ => trivial) rfl))
  rintro rows ⟨x, heffet⟩
  obtain ⟨rfl, -⟩ := lire_eq_ok.1 heffet
  apply Trouve.run_bind guarded_consommations
  intro totaux _
  apply Trouve.run_pure
  rw [List.map_map]
  simpa [Function.comp_def] using (perm_sortBy _ _).trans (perm_arrange _ _ _)

/-- A read fails, or gives what it read. -/
theorem guarded_lectureApi {α β : Type} {y : Tache LectureError β} {k : β → Tache ApiError α}
    {P : β → Prop} {Q : Except ApiError α → Store → Prop}
    (hy : Guarded (machine col) (fun _ => True) y.run s (Trouve s P))
    (herror : ∀ e : ApiError, e.code = .internal → Q (.error e) s)
    (hok : ∀ v, P v → Guarded (machine col) (fun _ => True) (k v).run s Q) :
    Guarded (machine col) (fun _ => True) (lectureApi y >>= k).run s Q := by
  apply Guarded.run_bind (R := fun t s' => s' = s ∧ (∀ v, t = .ok v → P v) ∧
    ∀ e, t = .error e → e.code = .internal)
  · apply Guarded.run_mapError
    apply hy.mono
    rintro (e | v) s ⟨rfl, hP⟩
    · refine ⟨rfl, nofun, ?_⟩
      rintro _ ⟨⟩
      cases e
      rfl
    · refine ⟨rfl, ?_, nofun⟩
      rintro _ ⟨⟩
      exact hP v rfl
  · rintro v s ⟨rfl, hP, -⟩
    exact hok v (hP v rfl)
  · rintro e s ⟨rfl, -, he⟩
    exact herror e (he e rfl)

/-- The listed envelope with the identifier of one that is set shows what was set. -/
theorem suivi_modifie {e : Enveloppe} {suivis : List SuiviEnveloppe}
    (hsuivis : (suivis.map SuiviEnveloppe.enveloppe).Perm
      (s.enveloppe.select fun e => e.proprietaire = owner))
    (hposee : (s.reglages owner).enveloppes e.id = some e.fiche) :
    ((suivis.find? fun x => x.enveloppe.id = e.id).getD ⟨e, 0, 0⟩).enveloppe.id = e.id ∧
      ((suivis.find? fun x => x.enveloppe.id = e.id).getD ⟨e, 0, 0⟩).enveloppe.fiche = e.fiche := by
  cases hfind : suivis.find? fun x => x.enveloppe.id = e.id with
  | none => exact ⟨rfl, rfl⟩
  | some suivi =>
      have hid : suivi.enveloppe.id = e.id := by simpa using List.find?_some hfind
      have hmem : suivi.enveloppe ∈ s.enveloppe.select fun e => e.proprietaire = owner :=
        hsuivis.mem_iff.1 (List.mem_map_of_mem (List.mem_of_find?_eq_some hfind))
      obtain ⟨e', he', -, hid', hfiche'⟩ := (Table.view_eq_some (Table.indexedBy_key _ _)).1 hposee
      have heq := Table.eq_of_key_eq (Table.mem_select.1 hmem).1 he' (hid.trans hid'.symm)
      exact ⟨hid, (congrArg Enveloppe.fiche heq).trans hfiche'⟩

/-- The envelope is written first, and its page read again: the second step may fail alone. -/
theorem guarded_updateEnveloppe {crypto : CryptoService} {id : EnveloppeId}
    {payload : EnveloppeRequest} :
    Guarded (machine col) (fun _ => True) (Handlers.updateEnveloppe crypto owner id payload).run s
      (s.Pas owner (.updateEnveloppe owner id payload)) := by
  unfold Handlers.updateEnveloppe
  apply guarded_formulaire
  · intro e he
    exact ⟨.inl (.refusee (by simp [EnveloppeRequest.fiche, he])), fun _ _ => rfl⟩
  intro requete hrequete
  have hfiche : payload.fiche =
      .ok ⟨requete.nom.asStr, requete.icon, requete.color, requete.montant.cents⟩ := by
    simp [EnveloppeRequest.fiche, hrequete]
  apply guarded_ecriture
  · intro e he
    exact ⟨.inl (.panne hfiche he), fun _ _ => rfl⟩
  rintro x (_ | e) s' heffet
  · obtain ⟨habsente, hregle, hautres⟩ := reglages_modifierEnveloppe_none heffet
    refine guarded_run_throw.2 ⟨.inl ?_, hautres⟩
    rw [hregle]
    exact .introuvable hfiche habsente rfl
  · obtain ⟨hid, he, hpresente, hlibre, hregle, hautres⟩ := reglages_modifierEnveloppe_some heffet
    rw [he] at hregle
    apply guarded_lectureApi guarded_listerEnveloppes
    · intro erreur herreur
      exact ⟨.inr ⟨_, erreur, hfiche, hpresente, hlibre, hregle, rfl, herreur⟩, hautres⟩
    · intro suivis hsuivis
      refine guarded_run_pure.2 ⟨.inl ?_, hautres⟩
      have hposee : (s'.reglages owner).enveloppes e.id = some e.fiche := by
        rw [hregle, hid, he]
        exact Function.update_self _ _ _
      obtain ⟨hid', hfiche'⟩ := suivi_modifie hsuivis hposee
      exact .acceptee hfiche hpresente ⟨hlibre, hid'.trans hid, hfiche'.trans he, hregle⟩

/-- `delete_enveloppe` moves the settings as the specification says. -/
theorem guarded_deleteEnveloppe {id : EnveloppeId} :
    Guarded (machine col) (fun _ => True) (Handlers.deleteEnveloppe owner id).run s
      (s.Pas owner (.deleteEnveloppe owner id)) := by
  apply guarded_touche
  · intro e he
    exact ⟨.panne rfl he, fun _ _ => rfl⟩
  · intro x lignes s' heffet hlignes
    obtain ⟨hpresente, hregle, hautres⟩ :=
      reglages_supprimerEnveloppe (of_decide_eq_true hlignes) heffet
    exact ⟨.acceptee rfl hpresente hregle, hautres⟩
  · intro x lignes s' heffet hlignes
    obtain rfl : lignes = 0 := by simpa using hlignes
    obtain ⟨habsente, hregle, hautres⟩ := reglages_supprimerEnveloppe_absente heffet
    refine ⟨?_, hautres⟩
    rw [hregle]
    exact .introuvable rfl habsente rfl

/-- The budget of a month is inserted or replaced. -/
theorem guarded_upsertBudget (hi : s.Integre) {payload : UpsertBudgetRequest} :
    Guarded (machine col) (fun _ => True) (Handlers.upsertBudget owner payload).run s
      (s.Pas owner (.upsertBudget owner payload)) := by
  unfold Handlers.upsertBudget
  apply guarded_formulaire
  · intro e he
    exact ⟨.refusee (by simp [UpsertBudgetRequest.prevision, he]; rfl), fun _ _ => rfl⟩
  intro montant hmontant
  apply guarded_formulaire
  · intro e he
    exact ⟨.refusee (by simp [UpsertBudgetRequest.prevision, hmontant, he]; rfl), fun _ _ => rfl⟩
  intro mois hmois
  have hprevision : payload.prevision = .ok (mois.premierJour, montant.cents) := by
    simp [UpsertBudgetRequest.prevision, hmontant, hmois]
    rfl
  apply guarded_ecriture
  · intro e he
    exact ⟨.panne hprevision he, fun _ _ => rfl⟩
  rintro x (_ | b) s' heffet
  · obtain ⟨hmanque, hregle, hautres⟩ := reglages_enregistrerBudget_none heffet
    refine guarded_run_throw.2 ⟨?_, hautres⟩
    rw [hregle]
    exact .introuvable hprevision hmanque rfl
  · have hi' := hi.effet heffet nofun
    obtain ⟨hacces, -, hobjet, hcents, hregle, hautres⟩ :=
      reglages_enregistrerBudget_some hi hi' heffet
    exact guarded_run_pure.2
      ⟨.acceptee hprevision (not_not_intro hacces) ⟨hobjet, hcents, hregle⟩, hautres⟩

/-- So does `update_preferences`. -/
theorem guarded_updatePreferences {jour : ℕ} :
    Guarded (machine col) (fun _ => True) (Handlers.updatePreferences owner jour).run s
      (s.Pas owner (.updatePreferences owner jour)) := by
  unfold Handlers.updatePreferences
  cases hjour : JourDebutMois.nouveau? jour with
  | none => exact guarded_run_throw.2 ⟨.refusee (by simp [jourSouhaite, hjour]), fun _ _ => rfl⟩
  | some j =>
      have hvoulu : jourSouhaite jour = .ok j := by simp [jourSouhaite, hjour]
      apply Guarded.run_mapError
      unfold Preferences.definirJourDebutMois
      apply Guarded.run_bind guarded_ecrit
      · rintro u s' ⟨x, heffet⟩
        obtain ⟨hregle, hautres⟩ := reglages_definirJourDebutMois heffet
        exact guarded_run_pure.2 ⟨.acceptee hvoulu nofun ⟨rfl, hregle⟩, hautres⟩
      · rintro e s' ⟨he, rfl⟩
        exact ⟨.panne hvoulu he, fun _ _ => rfl⟩

end Operations

/-! ## The runs -/

/-- The other operations write no table of the settings. -/
theorem Operation.Emet.sans_reglage {crypto : CryptoService} {o : Operation} {r : Requete}
    (h : o.Emet crypto r) (ho : o.regleur = none) :
    NomTable.category ∉ r.ecrit ∧ NomTable.enveloppe ∉ r.ecrit ∧ NomTable.budgets ∉ r.ecrit ∧
      NomTable.preferencesUtilisateur ∉ r.ecrit := by
  cases h with
  | cycle r hr => cases hr <;> simp
  | creerCategorie | modifierCategorie | supprimerCategorie | creerEnveloppe
  | modifierEnveloppe | supprimerEnveloppe | enregistrerBudget | definirJour => cases ho
  | _ => simp

section Runs

variable {col : Collation} {cfg : Configuration} {s₀ s : Store} {l : List (Etape col cfg)}

/-- An operation without settings leaves those of everybody. -/
theorem etape_sans_reglage {c : Etape col cfg} (h : c.Valid) (hc : c.call.regleur = none)
    (A : ProprietaireId) : c.after.reglages A = c.before.reglages A := by
  refine (Runs.preserves (I := fun t => t.reglages A = c.before.reglages A) h rfl ?_).1
  intro e he hbefore
  rcases after_cases e with hsame | ⟨r, x, v, hop, heffet⟩
  · rwa [hsame]
  · by_cases hecrit : r.ecrit = []
    · have hrien : ∀ t, t ∉ r.ecrit := by
        intro t
        rw [hecrit]
        exact List.not_mem_nil
      rw [reglages_pareil heffet (hrien _) (hrien _) (hrien _) (hrien _), hbefore]
    · obtain ⟨h₁, h₂, h₃, h₄⟩ := (Etape.emet h he hop hecrit).sans_reglage hc
      rw [reglages_pareil heffet h₁ h₂ h₃ h₄, hbefore]

/-- What the statements on the settings rely on. -/
structure Store.Reglable (s : Store) : Prop where
  integre : s.Integre
  budgets : s.BudgetsAccessibles

/-- A seeded store is one whose settings can be followed. -/
theorem Store.Amorcee.reglable (h : s.Amorcee) : s.Reglable where
  integre := h.integre
  budgets := by
    intro b hb
    have hb : b ∈ s.budgets.rows := hb
    rw [h.budgets] at hb
    exact absurd hb List.not_mem_nil

/-- So is the store after a valid step. -/
theorem etape_reglable {c : Etape col cfg} (h : c.Valid) (hs : c.before.Reglable) :
    c.after.Reglable := by
  refine (Runs.preserves (I := Store.Reglable) h hs ?_).1
  rintro e he ⟨hi, hacces⟩
  have hi' : e.after.Integre := by
    apply hi.after
    intro id f hop
    exact (Etape.emet h he hop (by simp)).sans_poser id f rfl
  refine ⟨hi', ?_⟩
  rcases after_cases e with hsame | ⟨r, x, v, -, heffet⟩
  · rwa [hsame]
  · exact hacces.effet hi heffet

/-- A valid step moves the settings of every owner as the specification says. -/
theorem etape_avance {c : Etape col cfg} (h : c.Valid) (hs : c.before.Reglable)
    (A : ProprietaireId) :
    Reglages.Avance A (c.before.reglages A) c.repondue (c.after.reglages A) := by
  have hpas : ∀ owner, c.call.regleur = some owner →
      c.before.Pas owner c.call c.answer c.after := by
    obtain ⟨o, s, t, r, s'⟩ := c
    intro owner howner
    cases o with
    | createCategory owner' => cases howner; exact (guarded_createCategory h).2
    | updateCategory owner' => cases howner; exact (guarded_updateCategory h).2
    | deleteCategory owner' =>
        cases howner
        exact (guarded_deleteCategory hs.integre hs.budgets h).2
    | createEnveloppe owner' => cases howner; exact (guarded_createEnveloppe h).2
    | updateEnveloppe owner' => cases howner; exact (guarded_updateEnveloppe h).2
    | deleteEnveloppe owner' => cases howner; exact (guarded_deleteEnveloppe h).2
    | upsertBudget owner' => cases howner; exact (guarded_upsertBudget hs.integre h).2
    | updatePreferences owner' => cases howner; exact (guarded_updatePreferences h).2
    | _ => cases howner
  constructor
  · exact fun hA => (hpas A hA).1
  · intro hA
    cases hregleur : c.call.regleur with
    | none => exact etape_sans_reglage h hregleur A
    | some owner =>
        apply (hpas owner hregleur).2
        rintro rfl
        exact hA hregleur

/-- Every store of a run is one whose settings can be followed. -/
theorem execution_reglable (h₀ : s₀.Reglable) (h : Execution col cfg s₀ l s) :
    s.Reglable ∧ ∀ c ∈ l, c.before.Reglable := by
  have hrun := h.preserves (I := Store.Reglable) h₀ fun c _ hc => etape_reglable hc
  exact ⟨hrun.1, fun c hc => (hrun.2 c hc).1⟩

/-- The service refines the maps: its runs are paths of `Avance`. -/
theorem execution_avance (h₀ : s₀.Reglable) (h : Execution col cfg s₀ l s) (A : ProprietaireId) :
    Path (Reglages.Avance A) (s₀.reglages A) (l.map Etape.repondue) (s.reglages A) := by
  apply h.refines (f := fun t => t.reglages A)
  intro c hc
  exact etape_avance (h.valid c hc) ((execution_reglable h₀ h).2 c hc) A

end Runs

/-! ## The pages -/

/-- What a page that was answered shows. -/
def Reglages.Montre (σ : Reglages) (A : ProprietaireId) : (l : Lecture) → l.Reponse → Prop
  | .listCategories, .ok page =>
      Table.Shows (page.data.filter fun c => c.category.De A) (fun c => c.category.id)
        (fun c => c.category.fiche) σ.categories ∧
      (∀ id, id ∈ σ.systeme ↔
        ∃ c ∈ page.data, c.category.id = id ∧ c.category.ownerId = none) ∧
      ∀ c ∈ page.data, c.category.ownerId = none ∨ c.category.ownerId = some A
  | .listEnveloppes, .ok page =>
      Table.Shows page.data (fun e => e.enveloppe.id) (fun e => e.enveloppe.fiche) σ.enveloppes
  | .listBudgets mois, .ok page => ∃ m, MoisBudget.parse mois = .ok m ∧
      Table.Shows page.data Budget.categoryId Budget.montantPrevuCents
        (fun c => σ.budgets (c, m.premierJour))
  | .getPreferences, .ok jour => jour.valeur = σ.jour.getD 1
  | _, _ => True

/-- The first day of the month is one of the first thirty-one. -/
def Reglages.JourValide (σ : Reglages) : Prop := ∀ jour ∈ σ.jour, 1 ≤ jour ∧ jour ≤ 31

/-- Every step keeps the day valid: the form is checked, and the other operations leave it. -/
theorem Reglages.Avance.jourValide {A : ProprietaireId} {σ σ' : Reglages}
    {x : Operation.Repondue} (h : Reglages.Avance A σ x σ') (hσ : σ.JourValide) :
    σ'.JourValide := by
  obtain ⟨o, r⟩ := x
  by_cases hA : o.regleur = some A
  swap
  · rw [h.2 hA]
    exact hσ
  have hpas := h.1 hA
  cases o with
  | createCategory owner p => exact hpas.keeps hσ fun f c σ' ⟨_, _, _, h⟩ => h ▸ hσ
  | updateCategory owner id p => exact hpas.keeps hσ fun f c σ' ⟨_, _, h⟩ => h ▸ hσ
  | deleteCategory owner id => exact hpas.keeps hσ fun _ _ σ' h => h ▸ hσ
  | createEnveloppe owner p => exact hpas.keeps hσ fun f e σ' ⟨_, _, _, h⟩ => h ▸ hσ
  | updateEnveloppe owner id p =>
      rcases hpas with hissue | ⟨f, e, -, -, -, h, -⟩
      · exact hissue.keeps hσ fun f e σ' ⟨_, _, _, h⟩ => h ▸ hσ
      · exact h ▸ hσ
  | deleteEnveloppe owner id => exact hpas.keeps hσ fun _ _ σ' h => h ▸ hσ
  | upsertBudget owner p => exact hpas.keeps hσ fun f b σ' ⟨_, _, h⟩ => h ▸ hσ
  | updatePreferences owner jour =>
      apply hpas.keeps hσ
      rintro j _ _ ⟨-, rfl⟩
      rintro _ ⟨⟩
      exact ⟨by exact_mod_cast j.un_le, by exact_mod_cast j.le_trente_et_un⟩
  | _ => exact hpas ▸ hσ

section Pages

variable {col : Collation} {crypto : CryptoService} {A : ProprietaireId} {s s' : Store}

/-- The categories that are listed are those of the system and those of the user. -/
theorem guarded_listerCategories :
    Guarded (machine col) (fun _ => True) (Categories.listerPourProprietaire A).run s
      (Trouve s fun items => (items.map CategorieAvecCompteur.category).Perm
        (s.category.select (Store.categorieVisible A))) := by
  apply Trouve.run_bind (Trouve.run_mapError (guarded_lecture (fun _ _ => trivial) rfl))
  rintro rows ⟨x, heffet⟩
  obtain ⟨rfl, -⟩ := lire_eq_ok.1 heffet
  apply Trouve.run_pure
  rw [List.map_map, List.map_map]
  simpa [Function.comp_def] using (perm_sortBy _ _).trans (perm_arrange _ _ _)

/-- `list_categories` shows the settings. -/
theorem guarded_listCategories :
    Guarded (machine col) (fun _ => True) (Handlers.listCategories A).run s
      (Trouve s fun page => (s.reglages A).Montre A .listCategories (.ok page)) := by
  apply Trouve.run_bind (Trouve.run_mapError guarded_listerCategories)
  intro items hitems
  have hmem : ∀ c, (∃ item ∈ items, item.category = c) ↔
      c ∈ s.category ∧ (c.ownerId = none ∨ c.ownerId = some A) := by
    intro c
    rw [← List.mem_map, hitems.mem_iff, Table.mem_select]
    simp [Store.categorieVisible]
  apply Trouve.run_pure
  refine ⟨?_, ?_, ?_⟩
  · apply (Table.shows_map (g := CategorieAvecCompteur.category)).1
    apply Table.shows_view (Table.indexedBy_key _ _)
    have hsiennes : ((items.map CategorieAvecCompteur.category).filter (Category.De A)).Perm
        (s.category.select (Category.De A)) := by
      apply (hitems.filter (Category.De A)).trans
      rw [Table.select, Table.select, List.filter_filter]
      apply List.Perm.of_eq
      apply List.filter_congr
      intro c _
      by_cases hA : c.ownerId = some A <;> simp [Category.De, Store.categorieVisible, hA]
    rwa [List.filter_map] at hsiennes
  · intro id
    constructor
    · rintro ⟨c, hc, hid, howner⟩
      obtain ⟨item, hitem, rfl⟩ := (hmem c).2 ⟨hc, .inl howner⟩
      exact ⟨item, hitem, hid, howner⟩
    · rintro ⟨item, hitem, hid, howner⟩
      exact ⟨item.category, ((hmem _).1 ⟨item, hitem, rfl⟩).1, hid, howner⟩
  · intro item hitem
    exact ((hmem _).1 ⟨item, hitem, rfl⟩).2

/-- So does `list_enveloppes`. -/
theorem guarded_listEnveloppes :
    Guarded (machine col) (fun _ => True) (Handlers.listEnveloppes crypto A).run s
      (Trouve s fun page => (s.reglages A).Montre A .listEnveloppes (.ok page)) := by
  apply Trouve.run_bind (Trouve.run_mapError guarded_listerEnveloppes)
  intro suivis hsuivis
  apply Trouve.run_pure
  exact Table.shows_map.1 (Table.shows_view (Table.indexedBy_key _ _) hsuivis)

/-- So does `list_budgets`. -/
theorem guarded_listBudgets (hi : s.Integre) {mois : String} :
    Guarded (machine col) (fun _ => True) (Handlers.listBudgets A mois).run s
      (Trouve s fun page => (s.reglages A).Montre A (.listBudgets mois) (.ok page)) := by
  apply Trouve.run_bind (Trouve.run_ofExcept (F := fun m => MoisBudget.parse mois = .ok m) _)
  · intro m hm
    apply Trouve.run_bind (Trouve.run_mapError (Trouve.run_mapError
      (guarded_lecture (fun _ _ => trivial) rfl)))
    rintro budgets ⟨x, heffet⟩
    obtain ⟨rfl, -⟩ := lire_eq_ok.1 heffet
    refine Trouve.run_pure ⟨m, hm, ?_⟩
    have hindex : s.budgets.IndexedBy (fun b => b.ownerId = A && b.mois = m.premierJour)
        Budget.categoryId := by
      intro b hb b' hb' hcond hcond' hcategory
      simp only [Bool.and_eq_true, decide_eq_true_eq] at hcond hcond'
      exact hi.budgetUnique b hb b' hb' (hcond.1.trans hcond'.1.symm) hcategory
        (hcond.2.trans hcond'.2.symm)
    have hvue : (fun c => (s.reglages A).budgets (c, m.premierJour)) =
        s.budgets.view (fun b => b.ownerId = A && b.mois = m.premierJour) Budget.categoryId
          Budget.montantPrevuCents := by
      funext c
      apply Option.ext
      intro montant
      rw [Table.view_eq_some hindex]
      show s.budgets.view _ _ _ _ = _ ↔ _
      rw [Table.view_eq_some (hi.indexedBudgets A)]
      simp [Budget.De, Budget.objet, and_assoc, and_comm, and_left_comm]
    show Table.Shows _ _ _ (fun c => (s.reglages A).budgets (c, m.premierJour))
    rw [hvue]
    exact Table.shows_view hindex ((perm_sortBy _ _).trans (perm_arrange _ _ _))
  · intro m hm
    cases hparse : MoisBudget.parse mois with
    | error e =>
        rw [hparse] at hm
        cases hm
    | ok m' =>
        rw [hparse] at hm
        exact congrArg Except.ok (Except.ok.inj hm)

/-- So does `get_preferences`. -/
theorem guarded_getPreferences (hjour : (s.reglages A).JourValide) :
    Guarded (machine col) (fun _ => True) (Handlers.getPreferences A).run s
      (Trouve s fun jour => (s.reglages A).Montre A .getPreferences (.ok jour)) := by
  apply Trouve.run_mapError
  apply Trouve.run_bind (Trouve.run_mapError (guarded_lecture (fun _ _ => trivial) rfl))
  rintro trouve ⟨x, heffet⟩
  obtain ⟨htrouve, -⟩ := lire_eq_ok.1 heffet
  have htrouve : trouve = (s.reglages A).jour := htrouve
  cases hjourA : (s.reglages A).jour with
  | none =>
      rw [htrouve, hjourA]
      apply Trouve.run_pure
      show _ = (s.reglages A).jour.getD 1
      rw [hjourA]
      rfl
  | some jour =>
      rw [htrouve, hjourA]
      apply Trouve.run_pure
      show _ = (s.reglages A).jour.getD 1
      rw [hjourA]
      obtain ⟨hun, hfin⟩ := hjour jour hjourA
      have hreste : (jour % 2 ^ 32).toNat = jour.toNat := by omega
      have hvalide : JourDebutMois.nouveau? jour.toNat =
          some ⟨jour.toNat, by omega, by omega⟩ := dif_pos ⟨by omega, by omega⟩
      rw [hreste, hvalide]
      show (jour.toNat : ℤ) = jour
      omega

/-- A page that is answered shows the settings. -/
theorem page_montre (hs : s.Reglable) (hjour : (s.reglages A).JourValide) {l : Lecture}
    {t : List (Evenement col)} {r : l.Reponse}
    (h : Runs (machine col) (l.programme crypto A) s t r s') : (s.reglages A).Montre A l r := by
  cases l with
  | listCategories =>
      cases r with
      | error e => trivial
      | ok page => exact (guarded_listCategories h).2.2 page rfl
  | listEnveloppes =>
      cases r with
      | error e => trivial
      | ok page => exact (guarded_listEnveloppes h).2.2 page rfl
  | listBudgets mois =>
      cases r with
      | error e => trivial
      | ok page => exact (guarded_listBudgets hs.integre h).2.2 page rfl
  | getPreferences =>
      cases r with
      | error e => trivial
      | ok jour => exact (guarded_getPreferences hjour h).2.2 jour rfl
  | _ => trivial

end Pages

/-! ## The refinement -/

/-- Nothing is set yet. -/
def Reglages.vierge (systeme : Set CategoryId) : Reglages :=
  ⟨systeme, fun _ => none, fun _ => none, fun _ => none, none⟩

/-- In a seeded store, every owner has the settings of the beginning. -/
theorem Store.Amorcee.reglages {s : Store} (h : s.Amorcee) (A : ProprietaireId) :
    s.reglages A = .vierge {id | ∃ c ∈ s.category, c.id = id} := by
  have hvide : ∀ {ρ ι φ : Type} {key : ρ → Uuid} [DecidableEq ι] (t : Table key) (p : ρ → Bool)
      (index : ρ → ι) (f : ρ → φ), t.rows = [] → t.view p index f = fun _ => none := by
    intro ρ ι φ key _ t p index f ht
    funext i
    unfold Table.view
    rw [ht]
    rfl
  apply Reglages.ext
  · apply Set.ext
    intro id
    constructor
    · rintro ⟨c, hc, hid, -⟩
      exact ⟨c, hc, hid⟩
    · rintro ⟨c, hc, hid⟩
      exact ⟨c, hc, hid, h.systeme c hc⟩
  · funext id
    apply categories_eq_none.2
    intro c hc howner
    cases (h.systeme c hc).symm.trans howner
  · exact hvide _ _ _ _ h.enveloppe
  · exact hvide _ _ _ _ h.budgets
  · show (s.preferencesUtilisateur.find? A).map _ = none
    unfold Table.find?
    rw [h.preferencesUtilisateur]
    rfl

section Refinement

variable {col : Collation} {cfg : Configuration} {s₀ s : Store} {l : List (Etape col cfg)}

/-- From the seeded database, the settings of a user are what the answers to the operations
made of them, and a page shows them. -/
theorem reglages_raffines (h₀ : s₀.Amorcee) (h : Execution col cfg s₀ l s) (A : ProprietaireId) :
    Path (Reglages.Avance A) (.vierge {id | ∃ c ∈ s₀.category, c.id = id})
      (l.map Etape.repondue) (s.reglages A) ∧
    ∀ (page : Lecture) (t : List (Evenement col)) (r : page.Reponse) (s' : Store),
      Runs (machine col) (page.programme cfg.crypto A) s t r s' →
        (s.reglages A).Montre A page r := by
  have hpath := execution_avance h₀.reglable h A
  rw [h₀.reglages A] at hpath
  have hjour : (s.reglages A).JourValide :=
    hpath.preserves (I := Reglages.JourValide) nofun fun _ _ _ hstep hσ => hstep.jourValide hσ
  refine ⟨hpath, ?_⟩
  intro page t r s' hrun
  exact page_montre (execution_reglable h₀.reglable h).1 hjour hrun

end Refinement

/-- A user sets a category with a budget, an envelope and a day; another one sets a day. -/
def foyer : List Operation :=
  [.createCategory "alice" ⟨"Jardin", "depense", none, none⟩,
    .upsertBudget "alice" ⟨Uuid.fromU128 1000, 5000, "2026-01"⟩,
    .createEnveloppe "alice" ⟨"Vacances", none, none, 20000⟩,
    .updatePreferences "alice" 5, .updatePreferences "bob" 9,
    .updatePreferences "alice" 32, .deleteCategory "bob" (Uuid.fromU128 1000)]

/-- A household sets its categories, budgets, envelopes and first day, and its pages show the
settings of the end. -/
theorem reglages_raffines_foyer :
    (Path (Reglages.Avance "alice") (.vierge {id | ∃ c ∈ amorcee.category, c.id = id})
      ((Scenario.calme.etapes foyer).map Etape.repondue)
      ((Scenario.calme.fin foyer).reglages "alice") ∧
    ∀ (page : Lecture) (t : List (Evenement Scenario.collation)) (r : page.Reponse) (s' : Store),
      Runs (machine Scenario.collation) (page.programme enClair "alice")
        (Scenario.calme.fin foyer) t r s' →
          ((Scenario.calme.fin foyer).reglages "alice").Montre "alice" page r) ∧
    ((Scenario.calme.fin foyer).reglages "alice").jour = some 5 :=
  ⟨reglages_raffines amorcee_amorcee (Scenario.calme.execution foyer) "alice", by decide +kernel⟩

end Budgy
