import Budgy.Interface.Interleaving
import Budgy.Model.Transport

/-!
# The tokens of the calls to the bank

Calls share a cached token, and several may be under way: one may read what another has
written, or write over a later token.  Whatever the order of their steps, the token that a call
sends was signed by one of them, and ends more than a minute after the instant that the call
read.  A call sends one request at most, and its answer is that of the provider, sorted by
status.
-/

set_option autoImplicit false

namespace Budgy

namespace Http

open Effects

/-! ## Calls -/

/-- The token was signed for the application at `iat`, for an hour. -/
def SignataireJwt.ASigne (signataire : SignataireJwt) (iat : ℤ) (jeton : JetonCache) : Prop :=
  signataire.signer iat (iat + ttlSecondes) = .ok jeton.valeur ∧
    jeton.expireA = iat + ttlSecondes

/-- A call to the provider. -/
structure Appel where
  methode : MethodeHttp
  chemin : String
  corpsJson : Option String

/-- What a call runs. -/
def Appel.programme (signataire : SignataireJwt) (appel : Appel) :
    Programme (Except BankDataSourceError ReponseHttp) :=
  (appeler signataire appel.methode appel.chemin appel.corpsJson).run

/-- The instant was read. -/
def Lu (h : List (Entry signature)) (instant : ℤ) : Prop :=
  (⟨.timestamp, instant⟩ : Entry signature) ∈ h

/-- The token was found in the cache. -/
def JetonTrouve (h : List (Entry signature)) (jeton : JetonCache) : Prop :=
  (⟨.lireCache, some (some jeton)⟩ : Entry signature) ∈ h

/-- The request was sent, and answered. -/
def Envoyee (h : List (Entry signature)) (requete : RequeteHttp)
    (reponse : Except TransportError ReponseHttp) : Prop :=
  (⟨.envoyer requete, reponse⟩ : Entry signature) ∈ h

/-- What becomes of the answer of the provider. -/
def conclure : Except TransportError ReponseHttp → Except BankDataSourceError ReponseHttp
  | .error e => .error (traduireTransport e)
  | .ok reponse => (verifierStatut reponse).map fun _ => reponse

/-- The outcome of a call, given what it asked: the answer to its request, or the refusal of a
signature, without any request. -/
def Conclusion (signataire : SignataireJwt) (h : List (Entry signature))
    (r : Except BankDataSourceError ReponseHttp) : Prop :=
  (∃ requete reponse, Envoyee h requete reponse ∧ r = conclure reponse) ∨
    (∀ requete reponse, ¬ Envoyee h requete reponse) ∧
      ∃ m e, Lu h m ∧ signataire.signer m (m + ttlSecondes) = .error e ∧
        r = .error (.technique e.toText)

/-- A request is that of its call and the first that it sends, and its token was signed at an
instant that was read, and is good at the one that the call read. -/
structure Authentifiee (signataire : SignataireJwt) (appel : Appel)
    (siens tous : List (Entry signature)) (requete : RequeteHttp) : Prop where
  methode : requete.methode = appel.methode
  chemin : requete.chemin = appel.chemin
  corpsJson : requete.corpsJson = appel.corpsJson
  premiere : ∀ autre reponse, ¬ Envoyee siens autre reponse
  jeton : ∃ iat maintenant, Lu tous iat ∧ Lu siens maintenant ∧
    signataire.signer iat (iat + ttlSecondes) = .ok requete.jeton ∧
    maintenant + margeRenouvellementSecondes < iat + ttlSecondes

/-! ## One call -/

/-- The call has a token that it signed or found, good at the instant that it read; it has sent
nothing. -/
def Dispose (signataire : SignataireJwt) (h : List (Entry signature)) (valeur : String) : Prop :=
  (∀ requete reponse, ¬ Envoyee h requete reponse) ∧
    ∃ m jeton, Lu h m ∧ jeton.valeur = valeur ∧
      m + margeRenouvellementSecondes < jeton.expireA ∧
      (signataire.ASigne m jeton ∨ JetonTrouve h jeton)

/-- What a request of a call supposes of the requests that the call made before: a token that
is kept was just signed, and one that is sent is at hand. -/
def Conforme (signataire : SignataireJwt) (appel : Appel) (e : Event (journal signature)) : Prop :=
  (∀ jeton, e.op = .ecrireCache jeton → ∃ m, Lu e.before m ∧ signataire.ASigne m jeton) ∧
  ∀ requete, e.op = .envoyer requete →
    requete.methode = appel.methode ∧ requete.chemin = appel.chemin ∧
      requete.corpsJson = appel.corpsJson ∧ Dispose signataire e.before requete.jeton

/-- What a call knows once it has asked the cache, at the instant that it read. -/
def Cherche (signataire : SignataireJwt) (m : ℤ) (r : Option String)
    (h : List (Entry signature)) : Prop :=
  (∀ requete reponse, ¬ Envoyee h requete reponse) ∧ Lu h m ∧
    ∀ valeur, r = some valeur → Dispose signataire h valeur

/-- What a call has of its token. -/
def Obtient (signataire : SignataireJwt) (r : Except JwtApplicatifError String)
    (h : List (Entry signature)) : Prop :=
  (∀ valeur, r = .ok valeur → Dispose signataire h valeur) ∧
    ∀ e, r = .error e → (∀ requete reponse, ¬ Envoyee h requete reponse) ∧
      ∃ m, Lu h m ∧ signataire.signer m (m + ttlSecondes) = .error e

section Calls

variable {signataire : SignataireJwt} {appel : Appel}

/-- A request adds itself and its answer to what is remembered. -/
private theorem guarded_demander {G : Event (journal signature) → Prop} {d : Demande}
    {h : List (Entry signature)} (hG : ∀ r, G ⟨h, d, r⟩) :
    Guarded (journal signature) G (demander d) h fun r h' => h' = h ++ [⟨d, r⟩] :=
  guarded_perform.2 fun r => ⟨hG r, rfl⟩

/-- Reading the clock or the cache supposes nothing. -/
private theorem conforme_lecture {h : List (Entry signature)} {d : Demande} {r : d.Reply}
    (hecrit : ∀ jeton, d ≠ .ecrireCache jeton) (henvoi : ∀ requete, d ≠ .envoyer requete) :
    Conforme signataire appel ⟨h, d, r⟩ :=
  ⟨fun jeton hd => absurd hd (hecrit jeton), fun requete hd => absurd hd (henvoi requete)⟩

/-- The cache, asked at an instant that was just read. -/
private theorem guarded_jetonEnCache (m : ℤ) :
    Guarded (journal signature) (Conforme signataire appel) (SignataireJwt.jetonEnCache m)
      [⟨.timestamp, m⟩] (Cherche signataire m) := by
  unfold SignataireJwt.jetonEnCache
  refine Guarded.bind (guarded_demander fun _ => conforme_lecture (by simp) (by simp)) ?_
  intro reponse h hh
  subst hh
  have hrien : ∀ requete reponse', ¬ Envoyee
      ([⟨.timestamp, m⟩] ++ [⟨.lireCache, reponse⟩] : List (Entry signature)) requete reponse' := by
    simp [Envoyee]
  have hlu : Lu ([⟨.timestamp, m⟩] ++ [⟨.lireCache, reponse⟩] : List (Entry signature)) m := by
    simp [Lu]
  split
  · rename_i jeton
    refine guarded_pure.2 ⟨hrien, hlu, ?_⟩
    intro valeur hvaleur
    split at hvaleur
    · rename_i hbon
      refine ⟨hrien, m, jeton, hlu, by simpa using hvaleur, by omega, .inr ?_⟩
      simp [JetonTrouve]
    · cases hvaleur
  · refine guarded_pure.2 ⟨hrien, hlu, ?_⟩
    intro valeur hvaleur
    cases hvaleur

/-- A token just signed is kept, and used. -/
private theorem guarded_garder {h : List (Entry signature)} {m : ℤ} {jeton : String}
    (hrien : ∀ requete reponse, ¬ Envoyee h requete reponse) (hlu : Lu h m)
    (hsigne : signataire.signer m (m + ttlSecondes) = .ok jeton) :
    Guarded (journal signature) (Conforme signataire appel)
      (do
        Task.ofProg (demander (.ecrireCache ⟨jeton, m + ttlSecondes⟩))
        return jeton : Tache JwtApplicatifError String).run h (Obtient signataire) := by
  have hsigne' : signataire.ASigne m ⟨jeton, m + ttlSecondes⟩ := ⟨hsigne, rfl⟩
  have hconforme : ∀ r, Conforme signataire appel
      ⟨h, .ecrireCache ⟨jeton, m + ttlSecondes⟩, r⟩ := by
    intro r
    refine ⟨?_, by simp⟩
    rintro _ ⟨⟩
    exact ⟨m, hlu, hsigne'⟩
  refine Guarded.run_bind (R := fun r h' => ∃ reponse, r = .ok () ∧
    h' = h ++ [⟨.ecrireCache ⟨jeton, m + ttlSecondes⟩, reponse⟩])
    (Guarded.run_ofProg ((guarded_demander hconforme).mono ?_)) ?_ (by simp)
  · intro reponse h' hh'
    exact ⟨reponse, rfl, hh'⟩
  · rintro _ _ ⟨reponse, -, rfl⟩
    refine guarded_run_pure.2 ⟨?_, by simp⟩
    rintro _ ⟨⟩
    refine ⟨?_, m, ⟨jeton, m + ttlSecondes⟩, ?_, rfl, ?_, .inl hsigne'⟩
    · simpa [Envoyee] using hrien
    · exact List.mem_append_left _ hlu
    · simp [margeRenouvellementSecondes, ttlSecondes]

/-- The token that a call obtains. -/
private theorem guarded_jeton :
    Guarded (journal signature) (Conforme signataire appel) signataire.jeton.run []
      (Obtient signataire) := by
  unfold SignataireJwt.jeton
  refine Guarded.run_bind (R := fun r h => ∃ m, r = .ok m ∧ h = [⟨.timestamp, m⟩])
    (Guarded.run_ofProg ((guarded_demander fun _ => conforme_lecture (by simp) (by simp)).mono ?_))
    ?_ (by simp)
  · intro m h hh
    exact ⟨m, rfl, hh⟩
  · rintro m _ ⟨_, ⟨⟩, rfl⟩
    refine Guarded.run_bind (R := fun r h => ∃ v, r = .ok v ∧ Cherche signataire m v h)
      (Guarded.run_ofProg ((guarded_jetonEnCache m).mono fun v h hv => ⟨v, rfl, hv⟩)) ?_ (by simp)
    rintro trouve h ⟨_, ⟨⟩, hrien, hlu, htrouve⟩
    rcases trouve with _ | valeur
    · refine Guarded.run_bind (R := fun r h' => h' = h ∧ r = signataire.signer m (m + ttlSecondes))
        (guarded_pure.2 ⟨rfl, rfl⟩) ?_ ?_
      · rintro jeton _ ⟨rfl, hsigne⟩
        exact guarded_garder hrien hlu hsigne.symm
      · rintro e _ ⟨rfl, hsigne⟩
        refine ⟨by simp, ?_⟩
        rintro _ ⟨⟩
        exact ⟨hrien, m, hlu, hsigne.symm⟩
    · refine guarded_run_pure.2 ⟨?_, by simp⟩
      rintro _ ⟨⟩
      exact htrouve valeur rfl

/-- A call, from its token to its outcome. -/
private theorem guarded_appel :
    Guarded (journal signature) (Conforme signataire appel) (appel.programme signataire) []
      fun r h => Conclusion signataire h r := by
  unfold Appel.programme appeler
  refine Guarded.run_bind (R := fun r h =>
    ∃ v : Except JwtApplicatifError String, r = v.mapError (fun e => .technique e.toText) ∧
      Obtient signataire v h)
    (Guarded.run_mapError (guarded_jeton.mono fun v h hv => ⟨v, rfl, hv⟩)) ?_ ?_
  · rintro jeton h ⟨v | v, hv, hobtient⟩
    · cases hv
    · cases hv
      have hconforme : ∀ r, Conforme signataire appel
          ⟨h, .envoyer ⟨appel.methode, appel.chemin, jeton, appel.corpsJson⟩, r⟩ := by
        intro r
        refine ⟨by simp, ?_⟩
        rintro _ ⟨⟩
        exact ⟨rfl, rfl, rfl, hobtient.1 jeton rfl⟩
      refine Guarded.run_bind (R := fun r h' => ∃ requete reponse, Envoyee h' requete reponse ∧
        r = reponse.mapError traduireTransport)
        (Guarded.run_mapError ((guarded_demander hconforme).mono ?_)) ?_ ?_
      · rintro reponse _ rfl
        exact ⟨_, reponse, List.mem_append_right _ (List.mem_singleton_self _), rfl⟩
      · rintro reponse h' ⟨requete, echec | _, henvoyee, ⟨⟩⟩
        have hconclu := fun r (hr : r = conclure (.ok reponse)) =>
          (.inl ⟨requete, .ok reponse, henvoyee, hr⟩ : Conclusion signataire h' r)
        refine Guarded.run_bind (R := fun r h'' => h'' = h' ∧ r = verifierStatut reponse)
          (guarded_pure.2 ⟨rfl, rfl⟩) ?_ ?_
        · rintro _ _ ⟨rfl, hstatut⟩
          refine guarded_run_pure.2 (hconclu _ ?_)
          rw [conclure, ← hstatut]
          rfl
        · rintro e _ ⟨rfl, hstatut⟩
          apply hconclu
          rw [conclure, ← hstatut]
          rfl
      · rintro _ h' ⟨requete, echec | reponse, henvoyee, ⟨⟩⟩
        exact .inl ⟨requete, .error echec, henvoyee, rfl⟩
  · rintro e h ⟨v | v, hv, hobtient⟩
    · cases hv
      obtain ⟨hrien, m, hlu, hsigne⟩ := hobtient.2 v rfl
      exact .inr ⟨hrien, m, v, hlu, hsigne, rfl⟩
    · cases hv

end Calls

/-! ## Calls side by side -/

section Pool

variable {ι : Type} [DecidableEq ι] {signataire : SignataireJwt} {appels : ι → Appel}
  {l : List (ι × Event machine)} {pool' : ι → Programme (Except BankDataSourceError ReponseHttp)}
  {cache cache' : Option JetonCache}

/-- What the requests of an interleaving asked, and were answered. -/
def entrees (l : List (ι × Event machine)) : List (Entry signature) := l.map fun x => x.2.entry

/-- What one caller did is part of what all did. -/
theorem mem_entrees_of_history {i : ι} {x : Entry signature} (h : x ∈ history i l) :
    x ∈ entrees l := by
  obtain ⟨e, he, rfl⟩ := mem_history.1 h
  exact List.mem_map.2 ⟨(i, e), he, rfl⟩

/-- A request changes the cache when it writes a token. -/
theorem after_cache (e : Event machine) :
    e.after = e.before ∨ ∃ jeton, e.op = .ecrireCache jeton ∧ e.after = some jeton := by
  obtain ⟨cache, d, choix⟩ := e
  cases d with
  | timestamp => exact .inl rfl
  | lireCache => exact .inl rfl
  | ecrireCache jeton =>
      cases choix with
      | false => exact .inl rfl
      | true => exact .inr ⟨jeton, rfl, rfl⟩
  | envoyer requete => exact .inl rfl

/-- A token that was found is the one that the cache held. -/
theorem cache_of_trouve {e : Event machine} {jeton : JetonCache}
    (h : e.entry = ⟨.lireCache, some (some jeton)⟩) : e.before = some jeton := by
  obtain ⟨cache, d, choix⟩ := e
  cases d with
  | lireCache =>
      cases choix with
      | false => simp [Event.entry, Event.reply, machine, repondre] at h
      | true => simpa [Event.entry, Event.reply, machine, repondre] using h
  | timestamp => simp [Event.entry] at h
  | ecrireCache ecrit => simp [Event.entry] at h
  | envoyer requete => simp [Event.entry] at h

instance (d : Demande) : Nonempty (signature.Reply d) := by
  cases d with
  | timestamp => exact ⟨(0 : ℤ)⟩
  | lireCache => exact ⟨(none : Option (Option JetonCache))⟩
  | ecrireCache jeton => exact ⟨()⟩
  | envoyer requete => exact ⟨(.error (.reseau "") : Except TransportError ReponseHttp)⟩

/-- The token in the cache was signed at an instant that was read. -/
def CacheSigne (signataire : SignataireJwt) (past : List (ι × Event machine))
    (cache : Option JetonCache) : Prop :=
  ∀ jeton, cache = some jeton → ∃ iat, Lu (entrees past) iat ∧ signataire.ASigne iat jeton

/-- The cache holds only tokens that were signed during the run. -/
theorem cache_signe
    (h : Interleaving machine (fun i => (appels i).programme signataire) none l pool' cache') :
    CacheSigne signataire l cache' := by
  have hvide : CacheSigne signataire ([] : List (ι × Event machine)) none := by
    simp [CacheSigne]
  refine h.follows (R := CacheSigne signataire) hvide ?_
  rintro l₁ ⟨i, e⟩ l₂ hl hbefore jeton hjeton
  have hpast : ∀ iat, Lu (entrees l₁) iat → Lu (entrees ([] ++ l₁ ++ [(i, e)])) iat := by
    intro iat hiat
    simp only [entrees, List.nil_append, List.map_append]
    exact List.mem_append_left _ hiat
  rcases after_cache e with hsame | ⟨ecrit, hop, hafter⟩
  · obtain ⟨iat, hiat, hsigne⟩ := hbefore jeton (hsame ▸ hjeton)
    exact ⟨iat, hpast iat hiat, hsigne⟩
  · obtain ⟨iat, hiat, hsigne⟩ := (h.guarded_at guarded_appel hl).1 ecrit hop
    have heq : ecrit = jeton := by simpa [hafter] using hjeton
    exact ⟨iat, hpast iat (mem_entrees_of_history hiat), heq ▸ hsigne⟩

/-- A token that a call found was signed at an instant that was read before. -/
theorem trouve_signe
    (h : Interleaving machine (fun i => (appels i).programme signataire) none l pool' cache')
    {i : ι} {jeton : JetonCache} (htrouve : JetonTrouve (history i l) jeton) :
    ∃ iat, Lu (entrees l) iat ∧ signataire.ASigne iat jeton := by
  obtain ⟨e, he, hentry⟩ := mem_history.1 htrouve
  obtain ⟨l₁, l₂, rfl⟩ := List.append_of_mem he
  obtain ⟨pool₁, cache₁, h₁, h₂⟩ := Interleaving.append_iff.1 h
  have hcache : cache₁ = some jeton := by
    rw [← h₂.cons_inv.1]
    exact cache_of_trouve hentry
  obtain ⟨iat, hiat, hsigne⟩ := cache_signe h₁ jeton hcache
  refine ⟨iat, ?_, hsigne⟩
  simp only [entrees, List.map_append]
  exact List.mem_append_left _ hiat

/-- Whatever the order of the steps of the calls, each of them sends one request at most, its
own, with a token that one of them signed at an instant that it had read and that ends more
than a minute after the instant that the sender read.  Its outcome is the answer to that
request, sorted by status, or the refusal of a signature. -/
theorem appels_authentifies
    (h : Interleaving machine (fun i => (appels i).programme signataire) none l pool' cache') :
    (∀ l₁ i e l₂ requete, l = l₁ ++ (i, e) :: l₂ → e.op = .envoyer requete →
      Authentifiee signataire (appels i) (history i l₁) (entrees l₁) requete) ∧
    ∀ i r, pool' i = .pure r → Conclusion signataire (history i l) r := by
  constructor
  · intro l₁ i e l₂ requete hl hop
    obtain ⟨hmethode, hchemin, hcorps, hpremiere, m, jeton, hm, hvaleur, hbon, hjeton⟩ :=
      (h.guarded_at guarded_appel hl).2 requete hop
    obtain ⟨pool₁, cache₁, h₁, -⟩ := Interleaving.append_iff.1 (hl ▸ h)
    have hsigne : ∃ iat, Lu (entrees l₁) iat ∧ signataire.ASigne iat jeton := by
      rcases hjeton with hsigne | htrouve
      · exact ⟨m, mem_entrees_of_history hm, hsigne⟩
      · exact trouve_signe h₁ htrouve
    obtain ⟨iat, hiat, hsigne, hexpire⟩ := hsigne
    refine ⟨hmethode, hchemin, hcorps, hpremiere, iat, m, hiat, hm, hvaleur ▸ hsigne, ?_⟩
    rwa [← hexpire]
  · intro i r hr
    exact h.answer_at guarded_appel hr

end Pool

/-! ### Two calls -/

namespace DeuxAppels

/-- A signature that shows who signed and when. -/
def signataire : SignataireJwt :=
  ⟨"budgy", ⟨fun kid claims => some (kid ++ "." ++ toString claims.iat)⟩⟩

/-- The accounts of a session, and the end of another one. -/
def appels : Bool → Appel
  | false => ⟨.get, "/sessions/1", none⟩
  | true => ⟨.delete, "/sessions/2", none⟩

/-- The clock goes on by a second at each request, and the provider answers. -/
def choix (n : ℕ) : (d : Demande) → d.Choix
  | .timestamp => 1000 + n
  | .lireCache => true
  | .ecrireCache _ => true
  | .envoyer _ => .ok ⟨200, ""⟩

/-- The second call starts while the first has a token and has not sent its request. -/
def ordre : List Bool := [false, false, false, true, true, true, false]

/-- The two calls, each asking for a token before the other stores its own. -/
def deroulement : List (Bool × Event machine) ×
    (Bool → Programme (Except BankDataSourceError ReponseHttp)) × Option JetonCache :=
  runPool machine choix ordre 0 (fun i => (appels i).programme signataire) none

end DeuxAppels

open DeuxAppels in
/-- The second call sends the token of the first. -/
theorem appels_authentifies_deuxAppels :
    (∀ l₁ i e l₂ requete, deroulement.1 = l₁ ++ (i, e) :: l₂ → e.op = .envoyer requete →
      Authentifiee signataire (appels i) (history i l₁) (entrees l₁) requete) ∧
    (∀ i r, deroulement.2.1 i = .pure r → Conclusion signataire (history i deroulement.1) r) ∧
    (⟨.envoyer ⟨.delete, "/sessions/2", "budgy.1000", none⟩, .ok ⟨200, ""⟩⟩ : Entry signature) ∈
      history true deroulement.1 := by
  have h : Interleaving machine (fun i => (appels i).programme signataire) none deroulement.1
      deroulement.2.1 deroulement.2.2 := interleaving_runPool _ _ _ _ _
  obtain ⟨hrequetes, hissues⟩ := appels_authentifies h
  refine ⟨hrequetes, hissues, ?_⟩
  exact List.mem_of_getElem? (i := 2) rfl

end Http

end Budgy
