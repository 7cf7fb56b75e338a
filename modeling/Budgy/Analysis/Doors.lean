import Budgy.Analysis.Erasure
import Budgy.Analysis.Isolation
import Budgy.Analysis.PageRequests
import Budgy.Interface.Refinement
import Budgy.Model.Entrees

/-!
# What comes through the doors

A request without the token of a user of the application asks for nothing.  The others, and
the messages of the broker, are operations for the user they name, so that the rows of a user
only move with a token or a message that names the user.
-/

set_option autoImplicit false

namespace Budgy

open Effects Prog

/-! ## Who is named -/

/-- The request carries a verified token of `A`, who has the role. -/
def RequeteApi.Nomme (jwt : JwtService) (A : ProprietaireId) (requete : RequeteApi) : Prop :=
  ∃ token bruts, bearerToken requete.authorization = some token ∧
    token.utf8ByteSize ≤ maxTokenBytes ∧ jwt.decode token = some bruts ∧
    requiredRole ∈ bruts.claims.roles ∧ bruts.sub = A

/-- What is heard is the message that `A` is gone. -/
def Poll.Nomme (fromSlice : LecteurJson) (A : ProprietaireId) : Poll → Prop
  | .publication payload => parserUserDeleted fromSlice payload = .ok A
  | .autre | .erreur _ => False

/-- The entry comes from `A`, or says that `A` is gone. -/
def Entree.Nomme (jwt : JwtService) (fromSlice : LecteurJson) (A : ProprietaireId) :
    Entree → Prop
  | .http requete => requete.Nomme jwt A
  | .relais evenement => evenement.Nomme fromSlice A

/-- The operation that an entry asks for. -/
def Entree.operation (jwt : JwtService) (fromSlice : LecteurJson) : Entree → Option Operation
  | .http requete =>
      (BudgyUser.fromRequestParts jwt requete.authorization).toOption.bind fun user =>
        requete.route.operation user.ownerId
  | .relais (.publication payload) =>
      (parserUserDeleted fromSlice payload).toOption.map .effacerDonneesProprietaire
  | .relais _ => none

/-- An operation that `A` asks for. -/
structure Operation.DemandeePar (A : ProprietaireId) (o : Operation) : Prop where
  sert : ∀ s, o.Sert A s
  utilisateur : A ≠ "" → o.DUtilisateur
  messages : o.messages = ∅

section Users

variable {jwt : JwtService} {fromSlice : LecteurJson} {A : ProprietaireId}

/-- A user is extracted from a token that is verified and has the role. -/
theorem nomme_of_fromRequestParts {requete : RequeteApi} {user : BudgyUser}
    (h : BudgyUser.fromRequestParts jwt requete.authorization = .ok user) :
    requete.Nomme jwt user.ownerId := by
  unfold BudgyUser.fromRequestParts at h
  split at h
  · cases h
  · rename_i token htoken
    split at h
    · cases h
    · rename_i hsize
      unfold JwtService.validate at h
      cases hdecode : jwt.decode token with
      | none => simp [hdecode] at h
      | some bruts =>
          by_cases hrole : bruts.claims.hasRole requiredRole = true
          · simp only [hdecode, hrole, Bool.not_true, Bool.false_eq_true, ↓reduceIte,
              Except.ok.injEq] at h
            obtain rfl := h
            refine ⟨token, bruts, htoken, not_lt.1 hsize, hdecode, ?_, rfl⟩
            simpa [Claims.hasRole] using hrole
          · simp [hdecode, hrole] at h

/-- A message names somebody. -/
theorem parserUserDeleted_ne_empty {payload : List UInt8}
    (h : parserUserDeleted fromSlice payload = .ok A) : A ≠ "" := by
  unfold parserUserDeleted at h
  split at h
  · cases h
  · split at h
    · cases h
    · simp only at h
      split at h
      · cases h
      · rename_i hvide
        obtain rfl := Except.ok.inj h
        intro hnom
        rw [hnom] at hvide
        exact hvide rfl

/-- A handler works for the user of the token. -/
theorem demandeePar_of_route {route : Route} {o : Operation} (h : route.operation A = some o) :
    o.DemandeePar A := by
  cases route with
  | me | listBanks | listConsents | page => cases h
  | createConsent | completeConsent | renewConsent | createRule | createRuleFromTransaction
  | recategoriserCredits | categorizeTransaction | createCategory | updateCategory
  | deleteCategory | createEnveloppe | updateEnveloppe | deleteEnveloppe | affecterTransaction
  | upsertBudget | updatePreferences =>
      obtain rfl := Option.some.inj h
      exact ⟨fun _ => rfl, id, rfl⟩

/-- What an entry asks for is asked by the user that it names. -/
theorem demandeePar_of_operation {e : Entree} {o : Operation}
    (h : e.operation jwt fromSlice = some o) :
    ∃ A, e.Nomme jwt fromSlice A ∧ o.DemandeePar A := by
  cases e with
  | http requete =>
      obtain ⟨user, huser, hroute⟩ := Option.bind_eq_some_iff.1 h
      refine ⟨user.ownerId, nomme_of_fromRequestParts ?_, demandeePar_of_route hroute⟩
      cases hparts : BudgyUser.fromRequestParts jwt requete.authorization with
      | error erreur => simp [hparts, Except.toOption] at huser
      | ok user' => simpa [hparts, Except.toOption] using huser
  | relais evenement =>
      cases evenement with
      | publication payload =>
          obtain ⟨A, hA, rfl⟩ := Option.map_eq_some_iff.1 h
          refine ⟨A, ?_, fun _ => rfl, id, rfl⟩
          cases hparser : parserUserDeleted fromSlice payload with
          | error erreur => simp [hparser, Except.toOption] at hA
          | ok A' => simpa [hparser, Except.toOption, Entree.Nomme, Poll.Nomme] using hA
      | autre | erreur => cases h

end Users

section Runs

variable {col : Collation} {jwt : JwtService} {fromSlice : LecteurJson} {cfg : Configuration}
  {A B : ProprietaireId} {s s' : Store}

/-- A program that only reads leaves the database. -/
private theorem runs_lecture {α : Type} {p : Programme α} {t : List (Evenement col)} {a : α}
    (hp : p.Uses fun o : Op => o.ecrit = []) (h : Runs (machine col) p s t a s') : s' = s :=
  (h.preserves (I := fun m => m = s) rfl fun e he hbefore =>
    (after_lecture (h.uses hp e he)).trans hbefore).1

/-- A route that asks for no operation only reads. -/
private theorem uses_servir {route : Route} {user : BudgyUser}
    (h : route.operation user.ownerId = none) :
    (route.servir cfg user).Uses fun o : Op => o.ecrit = [] := by
  unfold Route.servir
  rw [h]
  cases route with
  | me => exact uses_pure _
  | listBanks =>
      have hbanque : Handlers.listBanks.run.Uses fun o : Op => o.ecrit = [] :=
        Uses.run_bind (uses_banqueApi rfl) fun _ => uses_pure _
      exact hbanque.bind fun _ => uses_pure _
  | listConsents =>
      have hconsents : (Handlers.listConsents cfg.crypto user.ownerId).run.Uses
          fun o : Op => o.ecrit = [] := by
        apply Uses.run_bind
        · apply Uses.run_mapError (Uses.run_mapError _)
          exact uses_lectureChiffree (fun _ h => h.lecture) rfl fun _ => uses_ofExcept
        · intro consents
          exact Uses.run_bind (Uses.run_ofProg (uses_perform rfl)) fun _ => uses_pure _
      exact hconsents.bind fun _ => uses_pure _
  | page lecture =>
      have hpage : (lecture.programme cfg.crypto user.ownerId).Uses fun o : Op => o.ecrit = [] :=
        uses_page fun _ h => h.lecture
      exact hpage.bind fun _ => uses_pure _
  | createConsent | completeConsent | renewConsent | createRule | createRuleFromTransaction
  | recategoriserCredits | categorizeTransaction | createCategory | updateCategory
  | deleteCategory | createEnveloppe | updateEnveloppe | deleteEnveloppe | affecterTransaction
  | upsertBudget | updatePreferences => cases h

/-- A run of a program followed by a pure function is a run of the program. -/
private theorem runs_of_map {α β : Type} {p : Programme α} {f : α → β}
    {t : List (Evenement col)} {b : β} (h : Runs (machine col) (p >>= fun a => .pure (f a)) s t b s') :
    ∃ a, Runs (machine col) p s t a s' := by
  obtain ⟨t₁, a, s₁, t₂, rfl, hp, hrest⟩ := runs_bind.1 h
  obtain ⟨rfl, -, rfl⟩ := runs_pure.1 hrest
  exact ⟨a, by simpa using hp⟩

/-- An entry is one operation, or leaves the database. -/
theorem entree_passe {c : Step (portes jwt fromSlice cfg) (machine col)} (h : c.Valid) :
    c.Passes (service cfg) (c.call.operation jwt fromSlice) := by
  obtain ⟨call, before, trace, answer, after⟩ := c
  cases call with
  | http requete =>
      have hrun : Runs (machine col) (requete.traiter jwt cfg) before trace answer after := h
      unfold RequeteApi.traiter at hrun
      cases hparts : BudgyUser.fromRequestParts jwt requete.authorization with
      | error erreur =>
          have hnone : Entree.operation jwt fromSlice (.http requete) = none := by
            simp [Entree.operation, hparts, Except.toOption]
          rw [hparts] at hrun
          rw [hnone]
          exact (runs_pure.1 hrun).2.2
      | ok user =>
          have hroute : Entree.operation jwt fromSlice (.http requete) =
              requete.route.operation user.ownerId := by
            simp [Entree.operation, hparts, Except.toOption]
          rw [hparts] at hrun
          obtain ⟨retour, hrun⟩ := runs_of_map hrun
          rw [hroute]
          cases hoperation : requete.route.operation user.ownerId with
          | none => exact runs_lecture (uses_servir hoperation) hrun
          | some o =>
              unfold Route.servir at hrun
              rw [hoperation] at hrun
              exact runs_of_map hrun
  | relais evenement =>
      have hrun : Runs (machine col) (AbonneRelay.boucle fromSlice cfg [evenement]) before trace
        answer after := h
      cases evenement with
      | publication payload =>
          obtain ⟨_, hrun⟩ := runs_of_map hrun
          unfold UserDeletedHandler.appliquer at hrun
          cases hparser : parserUserDeleted fromSlice payload with
          | error erreur =>
              have hnone : Entree.operation jwt fromSlice (.relais (.publication payload)) =
                  none := by
                simp [Entree.operation, hparser, Except.toOption]
              rw [hparser] at hrun
              rw [hnone]
              exact (runs_pure.1 hrun).2.2
          | ok A =>
              have hsome : Entree.operation jwt fromSlice (.relais (.publication payload)) =
                  some (.effacerDonneesProprietaire A) := by
                simp [Entree.operation, hparser, Except.toOption]
              rw [hparser] at hrun
              rw [hsome]
              exact runs_of_map hrun
      | autre => exact (runs_pure.1 hrun).2.2
      | erreur cause => exact (runs_pure.1 hrun).2.2

/-- Tokens are made for somebody. -/
def JwtService.Nominatif (jwt : JwtService) : Prop :=
  ∀ token bruts, jwt.decode token = some bruts → bruts.sub ≠ ""

/-- A user who is named has a name. -/
theorem Entree.Nomme.ne_empty (hjwt : jwt.Nominatif) {e : Entree}
    (h : e.Nomme jwt fromSlice A) : A ≠ "" := by
  cases e with
  | http requete =>
      obtain ⟨token, bruts, -, -, hdecode, -, rfl⟩ := h
      exact hjwt token bruts hdecode
  | relais evenement =>
      cases evenement with
      | publication payload => exact parserUserDeleted_ne_empty h
      | autre | erreur => exact h.elim

variable {s₀ : Store} {l : List (Step (portes jwt fromSlice cfg) (machine col))}

/-- Along any run of requests of the API and of messages of the broker, whatever the tokens,
each transaction is classified within what its owner has, and the rows of a user only move at
a request that carries a verified token of this user, or at the message that the user is gone. -/
theorem portes_cloisonnees (h₀ : s₀.Amorcee)
    (h : Effects.Execution (portes jwt fromSlice cfg) (machine col) s₀ l s)
    (hjwt : jwt.Nominatif) :
    s.Isole ∧ ∀ c ∈ l, ∀ B, c.after.patrimoine B ≠ c.before.patrimoine B →
      c.call.Nomme jwt fromSlice B := by
  let demande : Entree → Option (service cfg).Call := Entree.operation jwt fromSlice
  obtain ⟨l', hl', hforth, hback⟩ := h.through demande fun c hc => entree_passe (h.valid c hc)
  -- what passes is asked by somebody who has a name
  have hdemande : ∀ c' ∈ l', Operation.DUtilisateur c'.call ∧
      Operation.messages c'.call = ∅ := by
    intro c' hc'
    obtain ⟨c, -, hcall⟩ := hback c' hc'
    obtain ⟨A, hnomme, hA⟩ := demandeePar_of_operation hcall
    exact ⟨hA.utilisateur (hnomme.ne_empty hjwt), hA.messages⟩
  have hcollision : cfg.crypto.SansCollision
      {m | ∃ c' ∈ l', m ∈ Operation.messages (Step.call c')} := by
    rintro m ⟨c', hc', hm⟩
    rw [(hdemande c' hc').2] at hm
    exact hm.elim
  obtain ⟨hisole, -, hautres⟩ :=
    cloisonnement h₀ hl' (fun c' hc' => (hdemande c' hc').1) hcollision
  refine ⟨hisole, ?_⟩
  intro c hc B hchange
  have hpasse := entree_passe (h.valid c hc)
  cases hoperation : c.call.operation jwt fromSlice with
  | none =>
      rw [hoperation] at hpasse
      have hsame : c.after = c.before := hpasse
      rw [hsame] at hchange
      exact absurd rfl hchange
  | some o =>
      obtain ⟨A, hnomme, hA⟩ := demandeePar_of_operation hoperation
      obtain ⟨c', hc', rfl, hbefore, hafter⟩ := hforth c hc o hoperation
      by_cases hB : B = A
      · rw [hB]
        exact hnomme
      · have hsame := hautres c' hc' A (hA.sert _) B hB
        rw [hbefore, hafter] at hsame
        exact absurd hsame hchange

end Runs

/-! ## A day at the doors -/

/-- One token is good, that of alice. -/
def jetonAlice : JwtService where
  decode token := if token = "alice" then some ⟨"alice", some (.flat ["budgy"]), none, none, 0, 0⟩
    else none

/-- A reader of the messages that say whom they are about. -/
def lecteurDirect : LecteurJson := fun payload =>
  match Text.ofUtf8? payload with
  | some sub => .ok ⟨typeUserDeleted, sub⟩
  | none => .error "texte"

/-- Alice creates a category, somebody without a token tries to, and bob is deleted. -/
def journeeAuxPortes : List Entree :=
  [.http ⟨some (Text.utf8 "Bearer alice"), .createCategory ⟨"Jardin", "depense", none, none⟩⟩,
    .http ⟨some (Text.utf8 "Bearer bob"), .createCategory ⟨"Piscine", "depense", none, none⟩⟩,
    .http ⟨none, .deleteCategory (Uuid.fromU128 1000)⟩,
    .relais (.publication (Text.utf8 " bob ")), .relais .autre]

/-- The requests and the messages of a day, from the seeded database. -/
def etapesAuxPortes :
    List (Step (portes jetonAlice lecteurDirect Scenario.configuration)
      (machine Scenario.collation)) × Store :=
  runAll _ _ Scenario.calme.choix journeeAuxPortes 0 amorcee

/-- What they write is of the users they name, and one category remains. -/
theorem portes_cloisonnees_journee :
    etapesAuxPortes.2.Isole ∧
      (∀ c ∈ etapesAuxPortes.1, ∀ B, c.after.patrimoine B ≠ c.before.patrimoine B →
        c.call.Nomme jetonAlice lecteurDirect B) ∧
      (etapesAuxPortes.2.category.rows.filter fun c => c.ownerId.isSome).map Category.ownerId =
        [some "alice"] := by
  have hjwt : jetonAlice.Nominatif := by
    intro token bruts hdecode
    by_cases htoken : token = "alice"
    · simp only [jetonAlice, htoken, ↓reduceIte, Option.some.injEq] at hdecode
      rw [← hdecode]
      decide
    · simp [jetonAlice, htoken] at hdecode
  obtain ⟨hisole, hnomme⟩ := portes_cloisonnees amorcee_amorcee
    (execution_runAll Scenario.calme.choix journeeAuxPortes 0 amorcee) hjwt
  exact ⟨hisole, hnomme, by decide +kernel⟩

end Budgy
