import Budgy.Analysis.Concurrency
import Budgy.Analysis.Scenarios

/-!
# One owner for each bank account

A callback checks that no other user has the accounts of the bank before it
registers them, in separate statements.  When callbacks run side by side, another
insertion may come between the check and the insertion; `exclusif_iff_sansCourse`
says that this is the only way in which two owners come to share an account.
-/

set_option autoImplicit false

namespace Budgy

open Effects Relational

/-- Two accounts with one fingerprint have one owner. -/
def Store.Exclusif (s : Store) : Prop :=
  ∀ a ∈ s.bankAccount, ∀ b ∈ s.bankAccount, ∀ f,
    a.empreinteCompte = some f → b.empreinteCompte = some f → a.ownerId = b.ownerId

/-- The check of a fingerprint for `A`, answered by: nobody else has it. -/
def controle (A : ProprietaireId) (f : String) : Entry signature :=
  ⟨.sql (.compte (.proprietaireConcurrent f A)), .ok none⟩

/-- The insertion of an account of `A` with this fingerprint, which took effect. -/
def Insere (A : ProprietaireId) (f : String) (x : Entry signature) : Prop :=
  ∃ ligne id, x = ⟨.sql (.compte (.insert ligne)), .ok (some id)⟩ ∧ ligne.owner = A ∧
    ligne.empreinte = f

/-- An entry inserts for one owner and one fingerprint. -/
theorem Insere.unique {A B : ProprietaireId} {f g : String} {x : Entry signature}
    (h : Insere A f x) (h' : Insere B g x) : A = B ∧ f = g := by
  obtain ⟨ligne, id, rfl, rfl, rfl⟩ := h
  obtain ⟨ligne', id', heq, rfl, rfl⟩ := h'
  cases heq
  exact ⟨rfl, rfl⟩

/-! ## A callback checks what it inserts -/

/-- The only accounts written are insertions for `A`, of a fingerprint that was
checked before. -/
def Controlee (A : ProprietaireId) (e : Event (journal signature)) : Prop :=
  NomTable.bankAccount ∈ e.op.ecrit →
    ∃ ligne, e.op = .sql (.compte (.insert ligne)) ∧ ligne.owner = A ∧
      controle A ligne.empreinte ∈ e.before

section Callback

open Prog

variable {crypto : CryptoService} {A : ProprietaireId} {id : ConsentId}
  {h : List (Entry signature)}

/-- The request writes no account. -/
def Op.SansCompte (o : Op) : Prop := NomTable.bankAccount ∉ o.ecrit

/-- A request that stays inside inserts no account. -/
private theorem sansCompte_interne (o : Op) (ho : o.Interne) : o.SansCompte := by
  unfold Op.SansCompte
  rw [ho.lecture]
  exact List.not_mem_nil

/-- A program that inserts no account needs no check before it. -/
private theorem guarded_sansCompte {α : Type} {p : Programme α} (hp : p.Uses Op.SansCompte) :
    Guarded (journal signature) (Controlee A) p h fun _ _ => True :=
  Guarded.of_uses hp trivial fun _ ho _ => ⟨fun hw => absurd hw ho, trivial⟩

/-- Marking a consent inserts no account. -/
private theorem sansCompte_marquerStatut {status : ConsentStatus} :
    (ConsentsAdapter.marquerStatut A id status).run.Uses Op.SansCompte :=
  Uses.run_mapError (Uses.run_bind (uses_interrogerChiffre (by simp [Op.SansCompte])) fun _ =>
    uses_pure _)

/-- The fingerprint of an account was checked. -/
private def Verifie (crypto : CryptoService) (A : ProprietaireId) (compte : BankAccount)
    (h : List (Entry signature)) : Prop :=
  controle A (empreinteCompte crypto compte.externalAccountId) ∈ h

/-- A turn of the first loop that does not refuse has checked its account. -/
private theorem guarded_refuser {compte : BankAccount} :
    Guarded (journal signature) (Controlee A)
      (Handlers.refuserCompteConcurrent crypto A id compte).run h
      (OnOk fun _ h' => Verifie crypto A compte h' ∧
        ∀ autre, Verifie crypto A autre h → Verifie crypto A autre h') := by
  refine Guarded.ok_bind (R := fun trouve h' => h' = h ++ [⟨.sql (.compte (.proprietaireConcurrent
    (empreinteCompte crypto compte.externalAccountId) A)), .ok trouve⟩])
    (Guarded.ok_mapError (Guarded.ok_mapError (Guarded.ok_mapError (guarded_perform.2 ?_)))) ?_
  · rintro (e | trouve)
    · exact ⟨fun hw => absurd hw (by simp), trivial⟩
    · exact ⟨fun hw => absurd hw (by simp), rfl⟩
  · rintro (_ | autre) _ rfl
    · refine guarded_run_pure.2 ⟨by simp [Verifie, controle], fun autre hautre => ?_⟩
      exact List.mem_append_left _ hautre
    · exact Guarded.run_bind (guarded_sansCompte (Uses.run_mapError sansCompte_marquerStatut))
        (fun _ _ _ => guarded_run_throw.2 trivial) fun _ _ _ => trivial

/-- The second loop registers accounts that were checked. -/
private theorem guarded_insertion {compte : BankAccount} {P : List (Entry signature) → Prop}
    (hP : ∀ x h, P h → P (h ++ [x])) (hverifie : ∀ h, P h → Verifie crypto A compte h)
    (hh : P h) :
    Guarded (journal signature) (Controlee A)
      (Handlers.enregistrerCompte crypto A id compte).run h fun _ h' => P h' := by
  refine Guarded.of_uses (P := fun o : Op => NomTable.bankAccount ∈ o.ecrit → ∃ ligne,
    o = .sql (.compte (.insert ligne)) ∧ ligne.owner = A ∧
      ligne.empreinte = empreinteCompte crypto compte.externalAccountId) ?_ hh ?_
  · refine Uses.run_bind (Uses.run_mapError (uses_enregistrerCompte ?_ ?_)) fun _ => uses_pure _
    · exact fun o ho hw => absurd hw (sansCompte_interne o ho)
    · exact fun ligne _ howner _ _ _ hempreinte _ => ⟨ligne, rfl, howner, hempreinte⟩
  · rintro ⟨h, o, r⟩ ho hbefore
    refine ⟨fun hw => ?_, hP _ _ hbefore⟩
    obtain ⟨ligne, rfl, howner, hempreinte⟩ := ho hw
    exact ⟨ligne, rfl, howner, hempreinte ▸ hverifie h hbefore⟩

/-- Attaching the accounts checks each fingerprint before it is inserted. -/
private theorem guarded_rattacher {actif : Consent} :
    Guarded (journal signature) (Controlee A) (Handlers.rattacherComptes crypto A id actif).run h
      fun _ _ => True := by
  refine Guarded.run_bind (guarded_sansCompte (uses_banqueApi (by simp [Op.SansCompte])))
    (fun comptes h₁ _ => ?_) fun _ _ _ => trivial
  refine Guarded.run_bind (Guarded.ok_forM fun compte _ h => guarded_refuser) ?_
    fun _ _ _ => trivial
  rintro _ h₂ ⟨hverifies, -⟩
  refine Guarded.run_bind (R := fun _ _ => True)
    (Guarded.mono (Guarded.run_forM (I := fun h => ∀ compte ∈ comptes, Verifie crypto A compte h)
      hverifies fun compte hcompte h hh => guarded_insertion ?_ ?_ hh) fun _ _ _ => trivial)
    (fun _ h₃ _ => ?_) fun _ _ _ => trivial
  · exact fun x h hh compte hcompte => List.mem_append_left _ (hh compte hcompte)
  · exact fun h hh => hh compte hcompte
  · exact guarded_sansCompte (Uses.run_bind (Uses.run_mapError
      (uses_listerParConsent sansCompte_interne)) fun _ => uses_pure _)

/-- A callback inserts nothing that it has not checked. -/
theorem controlee_completeConsent {payload : ConsentCallbackRequest} :
    Guarded (journal signature) (Controlee A) (Handlers.completeConsent crypto A payload).run h
      fun _ _ => True := by
  refine Guarded.run_bind (guarded_sansCompte uses_ofExcept) (fun id h₁ _ => ?_)
    fun _ _ _ => trivial
  refine Guarded.run_bind (guarded_sansCompte (Uses.run_mapError
    (uses_fetchPourProprietaire sansCompte_interne))) (fun existant h₂ _ => ?_) fun _ _ _ => trivial
  refine Guarded.run_bind (guarded_sansCompte uses_ouErreur) (fun consent h₃ _ => ?_)
    fun _ _ _ => trivial
  split
  · exact guarded_sansCompte (Uses.run_bind (Uses.run_mapError
      (uses_listerParConsent sansCompte_interne)) fun _ => uses_pure _)
  refine Guarded.run_bind (R := fun _ _ => True) (guarded_sansCompte (Uses.run_attempt
    (uses_appelerBanque (by simp [Op.SansCompte])))) ?_ fun _ _ _ => trivial
  rintro (erreur | actif) h₄ -
  · refine guarded_sansCompte (Uses.run_bind (Uses.run_bind (Uses.run_attempt
      sansCompte_marquerStatut) ?_) fun _ => uses_pure _)
    rintro (_ | _) <;> exact uses_pure _
  · refine Guarded.run_bind (guarded_sansCompte (Uses.run_mapError (uses_mettreAJourConsent
      sansCompte_interne fun _ _ => by simp [Op.SansCompte])))
      (fun _ h₅ _ => guarded_rattacher) fun _ _ _ => trivial

end Callback

/-! ## What the requests do to the accounts -/

section Steps

variable {col : Collation} {e : Evenement col} {A : ProprietaireId} {f : String}

/-- A check that found nobody. -/
theorem eq_of_controle (h : Event.entry e = controle A f) :
    e.after = e.before ∧
      ∀ a ∈ e.before.bankAccount, a.empreinteCompte = some f → a.ownerId = A := by
  obtain ⟨-, x, heffet⟩ := effet_of_entry h
  obtain ⟨hnone, hafter⟩ := lire_eq_ok.1 heffet
  refine ⟨hafter, fun a ha hf => by_contra fun howner => ?_⟩
  have hempty := List.head?_eq_none_iff.1 (Option.map_eq_none_iff.1 hnone.symm)
  have hmem : a ∈ arrange BankAccountRow.id x.rang (e.before.bankAccount.select fun a =>
      a.empreinteCompte = some f && a.ownerId ≠ A) :=
    mem_arrange.2 (Table.mem_select.2 ⟨ha, by simp [hf, howner]⟩)
  rw [hempty] at hmem
  cases hmem

/-- The accounts after an insertion that took effect. -/
private theorem comptes_of_insere (h : Insere A f (Event.entry e)) :
    ∃ a, a.ownerId = A ∧ a.empreinteCompte = some f ∧
      ∀ b, b ∈ e.after.bankAccount ↔ b ∈ e.before.bankAccount ∨ b = a := by
  obtain ⟨ligne, id, hentry, rfl, rfl⟩ := h
  obtain ⟨-, x, heffet⟩ := effet_of_entry hentry
  simp only [Requete.effet, RequeteCompte.effet] at heffet
  split at heffet
  · exact absurd (lire_eq_ok.1 heffet).1 (by simp)
  · obtain ⟨-, t, ht, -, hafter⟩ := by simpa using heffet
    refine ⟨RequeteCompte.ligneCompte x ligne, rfl, rfl, fun b => ?_⟩
    rw [← hafter]
    exact Table.mem_of_insert ht

/-- An account that is inserted is there after the request. -/
theorem exists_of_insere (h : Insere A f (Event.entry e)) :
    ∃ a ∈ e.after.bankAccount, a.ownerId = A ∧ a.empreinteCompte = some f := by
  obtain ⟨a, howner, hf, hmem⟩ := comptes_of_insere h
  exact ⟨a, (hmem a).2 (.inr rfl), howner, hf⟩

/-- An insertion without effect leaves the accounts. -/
private theorem comptes_of_not_insere {ligne : InsertionCompte}
    (hop : e.op = .sql (.compte (.insert ligne))) (h : ∀ A f, ¬ Insere A f (Event.entry e)) :
    e.after.bankAccount = e.before.bankAccount := by
  obtain ⟨s, o, x⟩ := e
  obtain rfl : o = _ := hop
  rcases Requete.executer_cases col (.compte (.insert ligne)) x s with
    ⟨err, he⟩ | ⟨v, s', -, heffet, heq⟩
  · rw [show (⟨s, .sql (.compte (.insert ligne)), x⟩ : Evenement col).after = s from
      congrArg Prod.snd he]
  · have hafter : (⟨s, .sql (.compte (.insert ligne)), x⟩ : Evenement col).after = s' :=
      congrArg Prod.snd heq
    rw [hafter]
    simp only [Requete.effet, RequeteCompte.effet] at heffet
    split at heffet
    · rw [(lire_eq_ok.1 heffet).2]
    · obtain ⟨-, t, -, rfl, -⟩ := by simpa using heffet
      exact absurd ⟨ligne, x.uuid, Sigma.ext rfl (heq_of_eq (congrArg Prod.fst heq)), rfl, rfl⟩
        (h ligne.owner ligne.empreinte)

/-- The accounts after a request that can only insert. -/
theorem comptes_after (h : NomTable.bankAccount ∈ e.op.ecrit →
      ∃ ligne, e.op = .sql (.compte (.insert ligne))) :
    (∀ a ∈ e.before.bankAccount, a ∈ e.after.bankAccount) ∧
      ∀ a ∈ e.after.bankAccount, a ∈ e.before.bankAccount ∨
        ∃ f, a.empreinteCompte = some f ∧ Insere a.ownerId f (Event.entry e) := by
  by_cases hinsere : ∃ A f, Insere A f (Event.entry e)
  · obtain ⟨A, f, hinsere⟩ := hinsere
    obtain ⟨a, rfl, hf, hmem⟩ := comptes_of_insere hinsere
    refine ⟨fun b hb => (hmem b).2 (.inl hb), fun b hb => ?_⟩
    rcases (hmem b).1 hb with hb | rfl
    · exact .inl hb
    · exact .inr ⟨f, hf, hinsere⟩
  · have hsame : e.after.bankAccount = e.before.bankAccount := by
      by_cases hw : NomTable.bankAccount ∈ e.op.ecrit
      · obtain ⟨ligne, hop⟩ := h hw
        exact comptes_of_not_insere hop fun A f hA => hinsere ⟨A, f, hA⟩
      · exact pareil_event hw
    rw [hsame]
    exact ⟨fun _ ha => ha, fun _ ha => .inl ha⟩

end Steps

/-! ## Callbacks side by side -/

section Pool

variable {col : Collation} {crypto : CryptoService} {ι : Type} [DecidableEq ι]

/-- Between a check that found nobody and the insertion that follows it in the same
callback, nobody else inserts the fingerprint. -/
def SansCourse (l : List (ι × Evenement col)) : Prop :=
  ∀ l₀ l₁ l₂ i v e A f, l = l₀ ++ (i, v) :: (l₁ ++ (i, e) :: l₂) →
    Event.entry v = controle A f → Insere A f (Event.entry e) →
      ∀ x ∈ l₁, ∀ B, Insere B f (Event.entry x.2) → B = A

/-- The callbacks of some users, about to start. -/
def rappels (crypto : CryptoService) (demandes : ι → ProprietaireId × ConsentCallbackRequest)
    (i : ι) : Programme (Except ApiError ConsentCompletionDto) :=
  (Handlers.completeConsent crypto (demandes i).1 (demandes i).2).run

variable {demandes : ι → ProprietaireId × ConsentCallbackRequest}
  {pool' : ι → Programme (Except ApiError ConsentCompletionDto)} {s s' : Store}
  {l l₁ l₂ : List (ι × Evenement col)}

/-- In an interleaving of callbacks, what is inserted was checked before in the same
callback. -/
private theorem exists_controle
    (h : Interleaving (machine col) (rappels crypto demandes) s l pool' s') {i : ι}
    {e : Evenement col} (hl : l = l₁ ++ (i, e) :: l₂)
    (hw : NomTable.bankAccount ∈ e.op.ecrit) :
    ∃ ligne, e.op = .sql (.compte (.insert ligne)) ∧ ligne.owner = (demandes i).1 ∧
      ∃ v, (i, v) ∈ l₁ ∧ Event.entry v = controle (demandes i).1 ligne.empreinte := by
  obtain ⟨ligne, hop, howner, hmem⟩ := h.guarded (G := fun i => Controlee (demandes i).1)
    (fun i => controlee_completeConsent) hl hw
  exact ⟨ligne, hop, howner, mem_history.1 hmem⟩

/-- Only an insertion writes the accounts. -/
private theorem insere_of_mem
    (h : Interleaving (machine col) (rappels crypto demandes) s l pool' s') {x : ι × Evenement col}
    (hx : x ∈ l) (hw : NomTable.bankAccount ∈ x.2.op.ecrit) :
    ∃ ligne, x.2.op = .sql (.compte (.insert ligne)) := by
  obtain ⟨l₁, l₂, hl⟩ := List.append_of_mem hx
  obtain ⟨ligne, hop, -⟩ := exists_controle h hl hw
  exact ⟨ligne, hop⟩

/-- At an insertion without race, whoever has the fingerprint is its owner. -/
private theorem proprietaire_of_insere {i : ι} {e : Evenement col}
    (h : Interleaving (machine col) (rappels crypto demandes) s (l ++ [(i, e)]) pool' s')
    (hcourse : SansCourse (l ++ [(i, e)])) {A : ProprietaireId} {f : String}
    (hinsere : Insere A f (Event.entry e)) :
    ∀ a ∈ e.before.bankAccount, a.empreinteCompte = some f → a.ownerId = A := by
  have hcontrole : ∃ v, (i, v) ∈ l ∧ Event.entry v = controle A f := by
    obtain ⟨ligne, id, hentry, rfl, rfl⟩ := hinsere
    have hop : e.op = .sql (.compte (.insert ligne)) := congrArg Sigma.fst hentry
    obtain ⟨ligne', hop', howner, v, hv, hcontrole⟩ :=
      exists_controle h rfl (hop ▸ by simp)
    obtain rfl : ligne = ligne' := by
      rw [hop] at hop'
      cases hop'
      rfl
    exact ⟨v, hv, howner ▸ hcontrole⟩
  obtain ⟨v, hv, hcontrole⟩ := hcontrole
  obtain ⟨l₀, l₁, rfl⟩ := List.append_of_mem hv
  rw [List.append_assoc, List.cons_append] at h hcourse
  obtain ⟨hsame, hlibre⟩ := eq_of_controle hcontrole
  -- from the check to the insertion, nobody else inserts
  refine h.preserves_between (I := fun s => ∀ a ∈ s.bankAccount, a.empreinteCompte = some f →
    a.ownerId = A) ?_ ?_
  · rwa [hsame]
  · intro x hx hlibre a ha hf
    have hmem : x ∈ l₀ ++ (i, v) :: (l₁ ++ [(i, e)]) := by simp [hx]
    rcases (comptes_after (insere_of_mem h hmem)).2 a ha with ha | ⟨f', hf', hautre⟩
    · exact hlibre a ha hf
    · obtain rfl : f' = f := Option.some.inj (hf'.symm.trans hf)
      exact hcourse l₀ l₁ [] i v e A f' rfl hcontrole hinsere x hx a.ownerId hautre

/-- Without a race between two callbacks, no account has two owners. -/
private theorem exclusif_of_sansCourse (hs : s.Exclusif)
    (h : Interleaving (machine col) (rappels crypto demandes) s l pool' s')
    (hcourse : SansCourse l) : ∀ x ∈ l, (Event.after x.2).Exclusif := by
  induction l using List.reverseRecOn generalizing pool' s' with
  | nil => simp
  | append_singleton l x ih =>
      obtain ⟨pool₁, s₁, h₁, h₂⟩ := Interleaving.append_iff.1 h
      have hpasse := ih h₁ fun l₀ l₁ l₂ i v e A f hl => hcourse l₀ l₁ (l₂ ++ [x]) i v e A f
        (by simp [hl])
      intro y hy
      rcases List.mem_append.1 hy with hy | hy
      · exact hpasse y hy
      obtain rfl := List.mem_singleton.1 hy
      have hmem : y ∈ l ++ [y] := by simp
      have hbefore : (Event.before y.2).Exclusif := by
        rw [show Event.before y.2 = s₁ from h₂.cons_inv.1]
        exact h₁.preserves hs fun x hx _ => hpasse x hx
      obtain ⟨-, hnew⟩ := comptes_after (insere_of_mem h hmem)
      -- a new account has the owner of those that were there
      have hmixte : ∀ a ∈ (Event.before y.2).bankAccount, ∀ B f, a.empreinteCompte = some f →
          Insere B f (Event.entry y.2) → a.ownerId = B := fun a ha B f hf hB =>
        proprietaire_of_insere h hcourse hB a ha hf
      intro a ha b hb f hfa hfb
      rcases hnew a ha with ha | ⟨fa, hfa', hA⟩ <;> rcases hnew b hb with hb | ⟨fb, hfb', hB⟩
      · exact hbefore a ha b hb f hfa hfb
      · exact hmixte a ha _ fb (hfa.trans (hfb.symm.trans hfb')) hB
      · exact (hmixte b hb _ fa (hfb.trans (hfa.symm.trans hfa')) hA).symm
      · exact (hA.unique hB).1

/-- From a database where each fingerprint has one owner, this stays so through an
interleaving of callbacks if and only if no insertion comes between the check and the
insertion of another user. -/
theorem exclusif_iff_sansCourse (hs : s.Exclusif)
    (h : Interleaving (machine col) (rappels crypto demandes) s l pool' s') :
    (∀ x ∈ l, (Event.after x.2).Exclusif) ↔ SansCourse l := by
  refine ⟨?_, exclusif_of_sansCourse hs h⟩
  rintro hall l₀ l₁ l₂ i v e A f rfl - hinsere x hx B hB
  obtain ⟨m₁, m₂, rfl⟩ := List.append_of_mem hx
  obtain ⟨a, ha, howner, hfa⟩ := exists_of_insere hinsere
  have hl : l₀ ++ (i, v) :: (m₁ ++ x :: m₂ ++ (i, e) :: l₂) =
      (l₀ ++ (i, v) :: m₁) ++ x :: (m₂ ++ (i, e) :: l₂) := by simp
  rw [hl] at h hall
  -- the account of the other user is still there
  have hreste : ∀ y ∈ m₂ ++ [(i, e)], ∀ b ∈ (Event.before y.2).bankAccount,
      b ∈ (Event.after y.2).bankAccount := by
    intro y hy
    have hmem : y ∈ m₂ ++ (i, e) :: l₂ := by
      rw [← List.singleton_append, ← List.append_assoc]
      exact List.mem_append_left _ hy
    exact (comptes_after (insere_of_mem h (List.mem_append_right _
      (List.mem_cons_of_mem _ hmem)))).1
  obtain ⟨b, hb, hownerB, hfb⟩ := h.preserves_between (I := fun s => ∃ b ∈ s.bankAccount,
    b.ownerId = B ∧ b.empreinteCompte = some f) (exists_of_insere hB) fun y hy hex => by
      obtain ⟨b, hb, hfound⟩ := hex
      exact ⟨b, hreste y (by simp [hy]) b hb, hfound⟩
  rw [← howner, ← hownerB]
  exact hall (i, e) (by simp) b (hreste (i, e) (by simp) b hb) a ha f hfb hfa

end Pool

/-! ## Two users attach one account -/

/-- Two users are about to attach the account that the bank lists to both. -/
def deuxDemandes : Store :=
  Scenario.calme.fin [.createConsent "alice" "banque", .createConsent "bob" "banque"]

/-- Two users with a callback each, for the same account of the bank. -/
def demandesConcurrentes : Bool → ProprietaireId × ConsentCallbackRequest
  | false => ("alice", reponseBanque)
  | true => ("bob", ⟨"code", (Uuid.fromU128 1004).toText⟩)

/-- Both check before either inserts. -/
def ordreConcurrent : List Bool :=
  List.replicate 6 false ++ List.replicate 6 true ++ List.replicate 4 false ++
    List.replicate 4 true

/-- The run in which both checks come before both insertions. -/
def course : List (Bool × Evenement Scenario.collation) ×
    (Bool → Programme (Except ApiError ConsentCompletionDto)) × Store :=
  runPool _ Scenario.unCompte.choix
    ordreConcurrent 0 (rappels enClair demandesConcurrentes) deuxDemandes

/-- No account is attached yet. -/
theorem exclusif_deuxDemandes : deuxDemandes.Exclusif := by
  have hrows : deuxDemandes.bankAccount.rows = [] := by decide +kernel
  intro a ha
  have ha : a ∈ deuxDemandes.bankAccount.rows := ha
  rw [hrows] at ha
  cases ha

/-- The two callbacks both register the account. -/
theorem not_exclusif_course :
    deuxDemandes.Exclusif ∧
      Interleaving (machine Scenario.collation) (rappels enClair demandesConcurrentes) deuxDemandes
        course.1 course.2.1 course.2.2 ∧
      ¬ course.2.2.Exclusif := by
  refine ⟨exclusif_deuxDemandes, interleaving_runPool _ _ _ _ _, ?_⟩
  have hdeux : ∃ a ∈ course.2.2.bankAccount.rows, ∃ b ∈ course.2.2.bankAccount.rows,
      a.empreinteCompte = some (empreinteCompte enClair "FR1") ∧
        b.empreinteCompte = some (empreinteCompte enClair "FR1") ∧ a.ownerId ≠ b.ownerId := by
    decide +kernel
  obtain ⟨a, ha, b, hb, hfa, hfb, howner⟩ := hdeux
  exact fun h => howner (h a ha b hb _ hfa hfb)

/-- The second check comes before the first insertion. -/
theorem not_sansCourse_course : ¬ SansCourse course.1 := by
  intro hcourse
  have hall := (exclusif_iff_sansCourse exclusif_deuxDemandes
    (interleaving_runPool _ _ _ _ _ : Interleaving (machine Scenario.collation)
      (rappels enClair demandesConcurrentes) deuxDemandes course.1 course.2.1 course.2.2)).2 hcourse
  have hdeux : ∃ x ∈ course.1, ∃ a ∈ (Event.after x.2).bankAccount.rows,
      ∃ b ∈ (Event.after x.2).bankAccount.rows,
        a.empreinteCompte = some (empreinteCompte enClair "FR1") ∧
          b.empreinteCompte = some (empreinteCompte enClair "FR1") ∧ a.ownerId ≠ b.ownerId := by
    decide +kernel
  obtain ⟨x, hx, a, ha, b, hb, hfa, hfb, howner⟩ := hdeux
  exact howner (hall x hx a ha b hb _ hfa hfb)

end Budgy
