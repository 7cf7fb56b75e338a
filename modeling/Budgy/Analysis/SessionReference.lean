import Budgy.Model.ClientEnableBanking

/-!
# A session without an id

The provider may leave the id of a session out.  The client then keeps the uids of the
accounts as the reference of the consent, and lists them again from that reference.
What it lists agrees with the session on the uids (`listerComptes_uids`), and knows
neither currency nor IBAN.
-/

set_option autoImplicit false

namespace Budgy

open Effects ClientEnableBanking

/-- What the list of accounts shows of an account. -/
def BankAccount.vue (compte : BankAccount) : String × String × String :=
  (compte.externalAccountId, compte.currency, compte.ibanMasked)

/-- The session carries no id. -/
def ReponseSession.SansId (session : ReponseSession) : Prop :=
  session.sessionId.filter (fun s => Text.trim s ≠ "") = none

/-- The consent that the client makes of a session. -/
def Complete (client : ClientEnableBanking) (session : ReponseSession) (consent : Consent) :
    Prop :=
  ∃ proprietaire reponse horodatage,
    Runs fournisseur (client.completerConsentement proprietaire reponse horodatage).run ()
      [⟨(), .postSessions ⟨reponse.codeAutorisation⟩, .ok session⟩] (.ok consent) ()

/-- The accounts listed for a consent whose session is read again. -/
def ListeDirecte (client : ClientEnableBanking) (session : ReponseSession)
    (comptes : List BankAccount) : Prop :=
  ∃ consent horodatage,
    Runs fournisseur (client.listerComptes consent horodatage).run ()
      [⟨(), .getSession consent.externalRef, .ok session⟩] (.ok comptes) ()

/-- A uid that can stand among others in a reference. -/
def UidLisible (uid : String) : Prop := Text.trim uid ≠ "" ∧ ',' ∉ uid.toList

section Sessions

variable {client : ClientEnableBanking} {session : ReponseSession}

/-- The reference of the consent is made of the session. -/
theorem Complete.externalRef {consent : Consent} (h : Complete client session consent) :
    consent.externalRef = referenceSession session := by
  obtain ⟨proprietaire, reponse, horodatage, hrun⟩ := h
  have hspec : Spec fournisseur
      (client.completerConsentement proprietaire reponse horodatage).run ()
      fun t r _ => ∀ (lue : ReponseSession) (c : Consent),
        t = [⟨(), .postSessions ⟨reponse.codeAutorisation⟩, .ok lue⟩] → r = .ok c →
          c.externalRef = referenceSession lue := by
    unfold completerConsentement
    refine spec_run_bind.2 (spec_pure.2 ?_)
    cases consentIdDepuisReference reponse.referenceAutorisation with
    | none =>
        intro lue c _ hr
        cases hr
    | some id =>
        refine spec_run_bind.2 (spec_perform.2 fun reply => ?_)
        cases reply with
        | error e =>
            intro lue c _ hr
            cases hr
        | ok lue' =>
            refine spec_run_bind.2 (spec_pure.2 ?_)
            cases statutSessionExploitable lue'.status with
            | error e =>
                intro lue c _ hr
                cases hr
            | ok u =>
                refine spec_run_pure.2 ?_
                intro lue c ht hr
                obtain rfl : lue' = lue := by simpa using ht
                obtain rfl := Except.ok.inj hr
                rfl
  exact hspec hrun session consent rfl rfl

/-- The uids are read back from the reference. -/
theorem uids_relus {uids : List String} (h : ∀ uid ∈ uids, UidLisible uid) :
    ((Text.split ',' (Text.join "," uids)).filter fun u => Text.trim u ≠ "") = uids := by
  by_cases hvide : uids = []
  · subst hvide
    decide
  · have hsplit : Text.split ',' (Text.join "," uids) = uids :=
      Text.split_join hvide fun uid huid => (h uid huid).2
    rw [hsplit, List.filter_eq_self]
    intro uid huid
    simpa using (h uid huid).1

/-- The reading of a reference made of uids takes no call and does not fail. -/
theorem listerComptes_reference {consent : Consent} {uids : String}
    (h : consent.externalRef = "uids:" ++ uids) (horodatage : DateTime) :
    Spec fournisseur (client.listerComptes consent horodatage).run () fun t r _ =>
      t = [] ∧ r = .ok (((Text.split ',' uids).filter fun u => Text.trim u ≠ "").map fun uid =>
        versBankAccount client.uuidDepuis ⟨uid, none, none⟩ consent horodatage) := by
  unfold listerComptes
  rw [h, Text.stripPrefix?_append]
  exact spec_run_pure.2 ⟨rfl, rfl⟩

/-- The accounts of a session that is read again are those of the session. -/
theorem ListeDirecte.eq {comptes : List BankAccount} (h : ListeDirecte client session comptes) :
    ∃ consent horodatage, comptes = session.comptes.map fun compte =>
      versBankAccount client.uuidDepuis compte consent horodatage := by
  obtain ⟨consent, horodatage, hrun⟩ := h
  refine ⟨consent, horodatage, ?_⟩
  have hspec : Spec fournisseur (client.listerComptes consent horodatage).run ()
      fun t r _ => ∀ lue, t = [⟨(), .getSession consent.externalRef, .ok lue⟩] → r = .ok comptes →
        comptes = lue.comptes.map fun compte =>
          versBankAccount client.uuidDepuis compte consent horodatage := by
    unfold listerComptes
    cases Text.stripPrefix? "uids:" consent.externalRef with
    | some uids =>
        refine spec_run_pure.2 ?_
        intro lue ht
        cases ht
    | none =>
        refine spec_run_bind.2 (spec_perform.2 fun reply => ?_)
        cases reply with
        | error e =>
            intro lue _ hr
            cases hr
        | ok lue' =>
            refine spec_run_pure.2 ?_
            intro lue ht hr
            obtain rfl : lue' = lue := by simpa using ht
            exact (Except.ok.inj hr).symm
  exact hspec hrun session rfl rfl

/-- The session without an id is listed from the uids of its accounts: one account for
each, in the same order and under the same external id, without currency or IBAN.  The
list is the one of the session when the session knows neither. -/
theorem listerComptes_uids {consent : Consent} {directs : List BankAccount}
    (hsans : session.SansId) (huids : ∀ compte ∈ session.comptes, UidLisible compte.uid)
    (hcomplete : Complete client session consent) (hdirecte : ListeDirecte client session directs)
    (horodatage : DateTime) :
    Spec fournisseur (client.listerComptes consent horodatage).run () fun t r _ =>
      t = [] ∧ ∃ comptes, r = .ok comptes ∧
        comptes.map (·.externalAccountId) = directs.map (·.externalAccountId) ∧
        (∀ compte ∈ comptes, compte.currency = "" ∧ compte.ibanMasked = "") ∧
        (comptes.map BankAccount.vue = directs.map BankAccount.vue ↔
          ∀ compte ∈ directs, compte.currency = "" ∧ compte.ibanMasked = "") := by
  have href : consent.externalRef =
      "uids:" ++ Text.join "," (session.comptes.map (·.uid)) := by
    rw [hcomplete.externalRef, referenceSession, hsans]
  refine (listerComptes_reference href horodatage).mono ?_
  rintro t r _ ⟨ht, hr⟩
  have hlisibles : ∀ uid ∈ session.comptes.map (·.uid), UidLisible uid := by
    intro uid huid
    obtain ⟨compte, hcompte, rfl⟩ := List.mem_map.1 huid
    exact huids compte hcompte
  rw [uids_relus hlisibles] at hr
  obtain ⟨autre, horodatage', rfl⟩ := hdirecte.eq
  refine ⟨ht, _, hr, ?_, ?_, ?_⟩
  · simp [versBankAccount]
  · intro compte hcompte
    simp only [List.map_map, List.mem_map] at hcompte
    obtain ⟨c, -, rfl⟩ := hcompte
    exact ⟨rfl, rfl⟩
  · rw [List.map_map, List.map_map, List.map_map, List.map_inj_left]
    simp only [List.forall_mem_map]
    constructor
    · intro h compte hcompte
      have hvue := h compte hcompte
      simp only [Function.comp_apply, BankAccount.vue, versBankAccount, Prod.mk.injEq,
        true_and] at hvue
      exact ⟨hvue.1.symm, hvue.2.symm⟩
    · intro h compte hcompte
      obtain ⟨hcurrency, hiban⟩ := h compte hcompte
      simp only [versBankAccount] at hcurrency hiban
      simp only [Function.comp_apply, BankAccount.vue, versBankAccount, hcurrency, hiban]
      rfl

end Sessions

/-! ## A session with a currency -/

/-- A client that deserialises nothing and names every account alike. -/
private def clientTest : ClientEnableBanking :=
  ⟨"https://retour", fun _ => Uuid.fromU128 0, fun _ => "", fun _ => none⟩

/-- A session without an identifier, with two accounts and one currency between them. -/
private def sessionEnEuros : ReponseSession :=
  { sessionId := none, status := none, accounts := [],
    accountsData := [⟨"u1", none, some "EUR"⟩, ⟨"u2", none, none⟩], access := none }

/-- The consent obtained in that session. -/
private def consentObtenu : Consent :=
  { id := Uuid.fromU128 0, proprietaire := "alice", externalRef := "uids:u1,u2",
    etablissement := none, status := .active,
    expiresAt := some (0 + Duration.days validiteConsentementJours), createdAt := 0,
    updatedAt := 0 }

/-- The same consent once the bank has named a session. -/
private def consentRelu : Consent := { consentObtenu with externalRef := "session" }

/-- The session has no identifier. -/
private theorem sansId_enEuros : sessionEnEuros.SansId := by
  unfold ReponseSession.SansId
  rfl

/-- The consent obtained is the one the session completes. -/
private theorem complete_enEuros : Complete clientTest sessionEnEuros consentObtenu := by
  refine ⟨"alice", ⟨(Uuid.fromU128 0).toText, "code"⟩, 0, ?_⟩
  have hid : consentIdDepuisReference (Uuid.fromU128 0).toText = some (Uuid.fromU128 0) := by
    decide
  have href : referenceSession sessionEnEuros = "uids:u1,u2" := by decide
  unfold completerConsentement
  simp only [hid]
  have hconsent : consentObtenu =
      { consentObtenu with externalRef := referenceSession sessionEnEuros } := by
    rw [href]
    rfl
  rw [hconsent]
  exact Runs.op (S := signatureHttp) (M := fournisseur) (AppelHttp.postSessions ⟨"code"⟩) _
    (Except.ok sessionEnEuros) () (.pure _ ())

/-- The accounts of the session are those a direct listing gives. -/
private theorem directe_enEuros : ListeDirecte clientTest sessionEnEuros
    (sessionEnEuros.comptes.map fun compte =>
      versBankAccount clientTest.uuidDepuis compte consentRelu 0) := by
  refine ⟨consentRelu, 0, ?_⟩
  have href : Text.stripPrefix? "uids:" consentRelu.externalRef = none := by decide
  unfold listerComptes
  rw [href]
  exact Runs.op (S := signatureHttp) (M := fournisseur)
    (AppelHttp.getSession consentRelu.externalRef) _ (Except.ok sessionEnEuros) () (.pure _ ())

/-- The accounts are listed again under their uids. -/
theorem listerComptes_uids_enEuros :
    Spec fournisseur (clientTest.listerComptes consentObtenu 0).run () fun _ r _ =>
      ∃ comptes, r = .ok comptes ∧ comptes.map (·.externalAccountId) = ["u1", "u2"] := by
  have huids : ∀ compte ∈ sessionEnEuros.comptes, UidLisible compte.uid := by
    unfold UidLisible
    decide
  refine (listerComptes_uids sansId_enEuros huids complete_enEuros directe_enEuros 0).mono ?_
  rintro t r _ ⟨-, comptes, hr, huid, -⟩
  exact ⟨comptes, hr, huid⟩

/-- The currency of an account is lost with the session. -/
theorem not_listerComptes_session :
    ¬ ∀ (client : ClientEnableBanking) (session : ReponseSession) (consent : Consent)
      (directs : List BankAccount) (horodatage : DateTime), session.SansId →
        Complete client session consent → ListeDirecte client session directs →
        Spec fournisseur (client.listerComptes consent horodatage).run () fun _ r _ =>
          ∃ comptes, r = .ok comptes ∧
            comptes.map BankAccount.vue = directs.map BankAccount.vue := by
  intro h
  have hspec := h clientTest sessionEnEuros consentObtenu _ 0 sansId_enEuros complete_enEuros
    directe_enEuros
  have href : consentObtenu.externalRef = "uids:" ++ "u1,u2" := rfl
  have hrun := runs_run (M := fournisseur)
    (fun _ (a : AppelHttp) => (.error .consentementInvalide : Except BankDataSourceError a.Reponse))
    (clientTest.listerComptes consentObtenu 0).run 0 ()
  obtain ⟨comptes, hr, hvue⟩ := hspec hrun
  obtain ⟨-, hlus⟩ := listerComptes_reference href 0 hrun
  obtain rfl := Except.ok.inj (hlus.symm.trans hr)
  revert hvue
  decide

end Budgy
