import Budgy.Model.ClientEnableBanking
import Budgy.Analysis.AbandonedRenewal

/-!
# The id of an establishment

The id of a bank is its name and its country around a bar.  `create_consent` trims it,
`initier_consentement` splits it at the last bar unless the country is empty, and
`ConsentDto` shows what comes before the first bar.  `restitue_iff` says for which banks
the three find again what was encoded.
-/

set_option autoImplicit false

namespace Budgy

open Effects Relational ClientEnableBanking

/-- The country to request for a bank: its own, or the default one. -/
def paysAttendu (aspsp : AspspWire) : String := (aspsp.country.filter (· ≠ "")).getD paysDefaut

/-- Whatever becomes of the request, it asks the provider for this bank. -/
def Demande (aspsp : AspspWire) (demande : DemandeConsentement) : Prop :=
  ∀ (client : ClientEnableBanking) (horodatage : DateTime),
    Spec fournisseur (client.initierConsentement demande horodatage).run () fun t _ _ =>
      ∃ corps reponse, t = [⟨(), .postAuth corps, reponse⟩] ∧
        corps.aspsp = ⟨aspsp.name, paysAttendu aspsp⟩

/-- The name that `ConsentDto` shows for an establishment. -/
def nomAffiche (etablissement : String) : String :=
  Text.trim (match Text.splitOnce '|' etablissement with
    | some (nom, _) => nom
    | none => etablissement)

/-- The consent is shown under the name of the bank. -/
def ConsentRow.Affiche (row : ConsentRow) (nom : String) : Prop :=
  ∀ reference maintenant marge,
    (ConsentDto.depuis (row.vue reference) maintenant marge).bank = some nom

/-- The id of the bank, sent back through `create_consent`, requests and shows the bank. -/
def Restitue (aspsp : AspspWire) : Prop :=
  ∀ (col : Collation) (crypto : CryptoService) (owner : ProprietaireId) (url : String) (s : Store),
    Spec (machine col) (Handlers.createConsent crypto owner url (versEtablissement aspsp).id).run s
      fun t r s' =>
        (∀ e ∈ t, ∀ demande, e.op = .banque (.initierConsentement demande) →
          Demande aspsp demande) ∧
        ∀ reponse, r = .ok reponse →
          ∃ row ∈ s'.consent, row.id = reponse.consentId ∧ row.Affiche aspsp.name

/-! ## The three readers -/

/-- The name and the country can be read back from the id. -/
def AspspWire.Lisible (aspsp : AspspWire) : Prop :=
  '|' ∉ aspsp.name.toList ∧ Text.trim aspsp.name = aspsp.name ∧
    ∃ pays, aspsp.country = some pays ∧ pays ≠ "" ∧ '|' ∉ pays.toList ∧ Text.trimEnd pays = pays

section Readers

variable {aspsp : AspspWire}

/-- What the handler keeps of the id. -/
private theorem trim_id (aspsp : AspspWire) :
    Text.trim (versEtablissement aspsp).id =
      Text.trimStart aspsp.name ++ String.singleton '|' ++
        Text.trimEnd (aspsp.country.getD "") := by
  have hbarre : "|" = String.singleton '|' := by decide
  unfold versEtablissement
  simp only [hbarre]
  exact Text.trim_append_cons (by decide) _ _

/-- The bar stays. -/
private theorem id_ne_name (aspsp : AspspWire) :
    Text.trim (versEtablissement aspsp).id ≠ aspsp.name := by
  intro h
  have hstart := congrArg Text.trimStart h
  rw [trim_id, Text.trimStart_append_cons (by decide), Text.trimStart_trimStart] at hstart
  have hlength := congrArg (fun s => s.toList.length) hstart
  simp at hlength

/-- The name that is shown has no bar. -/
private theorem bar_notMem_nomAffiche (etablissement : String) :
    '|' ∉ (nomAffiche etablissement).toList := by
  intro h
  unfold nomAffiche at h
  have hmem := Text.mem_of_mem_trim h
  split at hmem
  · rename_i nom suite hsplit
    exact Text.notMem_of_splitOnce hsplit hmem
  · rename_i hsplit
    exact Text.notMem_of_splitOnce_eq_none hsplit hmem

/-- The request and the display both find the bank again when the id is readable. -/
theorem readers_iff :
    (aspspDemande (Text.trim (versEtablissement aspsp).id) = ⟨aspsp.name, paysAttendu aspsp⟩ ∧
      nomAffiche (Text.trim (versEtablissement aspsp).id) = aspsp.name) ↔ aspsp.Lisible := by
  constructor
  · rintro ⟨hdemande, haffiche⟩
    have hid := trim_id aspsp
    -- the last bar splits the id into the name and the country requested
    obtain ⟨nom, pays, hsplit, hne⟩ : ∃ nom pays,
        Text.rsplitOnce '|' (Text.trim (versEtablissement aspsp).id) = some (nom, pays) ∧
          pays ≠ "" := by
      unfold aspspDemande at hdemande
      split at hdemande
      · rename_i nom pays hsplit
        by_cases hvide : pays = ""
        · rw [if_neg (by simpa using hvide)] at hdemande
          exact absurd (congrArg AspspReference.name hdemande) (id_ne_name aspsp)
        · exact ⟨nom, pays, hsplit, hvide⟩
      · exact absurd (congrArg AspspReference.name hdemande) (id_ne_name aspsp)
    have hlu : (⟨nom, pays⟩ : AspspReference) = ⟨aspsp.name, paysAttendu aspsp⟩ := by
      rw [← hdemande, aspspDemande, hsplit]
      simp [hne]
    obtain ⟨rfl, hpays⟩ := AspspReference.mk.inj hlu
    obtain ⟨hbarre, htexte⟩ := Text.notMem_of_rsplitOnce hsplit
    have hliste : (Text.trimStart aspsp.name).toList ++
        '|' :: (Text.trimEnd (aspsp.country.getD "")).toList =
          aspsp.name.toList ++ '|' :: pays.toList := by
      rw [← htexte, hid]
      simp
    have hdonne : aspsp.country.getD "" ≠ "" := by
      intro hvide
      rw [hvide] at hliste
      have hrien := ((Separators.append_cons_inj_last (by decide) hbarre).1 hliste).2
      exact hne (String.toList_inj.1 hrien.symm)
    have hpays' : aspsp.country = some pays := by
      cases hc : aspsp.country with
      | none => exact absurd (by rw [hc]; rfl) hdonne
      | some p =>
          rw [hc, Option.getD_some] at hdonne
          rw [hpays, paysAttendu, hc]
          simp [Option.filter, hdonne]
    have hfin : '|' ∉ (Text.trimEnd pays).toList := fun h => hbarre (Text.mem_of_mem_trimEnd h)
    rw [hpays', Option.getD_some] at hliste hid
    obtain ⟨hdebut, hfin⟩ := (Separators.append_cons_inj_last hfin hbarre).1 hliste
    have hnom : '|' ∉ aspsp.name.toList := haffiche ▸ bar_notMem_nomAffiche _
    have htexte' : Text.trim (versEtablissement aspsp).id =
        String.ofList (aspsp.name.toList ++ '|' :: pays.toList) := by
      rw [← htexte, String.ofList_toList]
    rw [htexte', nomAffiche, Text.splitOnce_append hnom] at haffiche
    refine ⟨hnom, by simpa using haffiche, pays, hpays', hne, hbarre, String.toList_inj.1 hfin⟩
  · rintro ⟨hbarre, htrim, pays, hpays, hne, hbarre', htrim'⟩
    have hid : Text.trim (versEtablissement aspsp).id =
        String.ofList (aspsp.name.toList ++ '|' :: pays.toList) := by
      rw [trim_id, hpays, Option.getD_some, htrim', Text.trimStart_of_trim htrim]
      apply String.toList_inj.1
      simp
    rw [hid]
    constructor
    · unfold aspspDemande paysAttendu
      rw [Text.rsplitOnce_append hbarre', hpays]
      simp [hne, Option.filter]
    · unfold nomAffiche
      rw [Text.splitOnce_append hbarre]
      simpa using htrim

end Readers

/-! ## What is sent back -/

/-- The request of a consent asks for what surrounds the last bar. -/
theorem spec_initierConsentement (client : ClientEnableBanking) (demande : DemandeConsentement)
    (horodatage : DateTime) :
    Spec fournisseur (client.initierConsentement demande horodatage).run () fun t _ _ =>
      ∃ corps reponse, t = [⟨(), .postAuth corps, reponse⟩] ∧
        corps.aspsp = aspspDemande demande.etablissement := by
  unfold initierConsentement
  refine spec_run_bind.2 (spec_perform.2 fun reply => ?_)
  cases reply with
  | error e => exact ⟨_, _, rfl, rfl⟩
  | ok auth => exact spec_run_pure.2 ⟨_, _, rfl, rfl⟩

/-- The consent is stored under the trimmed id. -/
private theorem spec_enregistrerInitie (col : Collation) (crypto : CryptoService)
    (nouveau : NouveauConsentInitie) (s : Store) :
    Spec (machine col) (ConsentsAdapter.enregistrerInitie crypto nouveau).run s fun _ r s' =>
      ∀ id, r = .ok id →
        ∃ row ∈ s'.consent, row.id = nouveau.id ∧ row.etablissement = some nouveau.etablissement := by
  refine spec_run_mapError.2 (spec_run_bind.2 ?_)
  intro t₁ r₁ s₁ _
  cases r₁ with
  | error e =>
      intro id hr
      cases hr
  | ok blob =>
      refine spec_interrogerChiffre (fun x e _ id hr => by cases hr) ?_
      intro x v s' heffet _ id _
      obtain ⟨t', hinsert, hs'⟩ := cleLibre_eq_ok.1 heffet
      obtain ⟨-, rfl⟩ := by simpa using hs'
      refine ⟨_, (Table.mem_of_insert hinsert).2 (.inr rfl), rfl, rfl⟩

/-- A row shows the name of its establishment. -/
private theorem affiche_iff {row : ConsentRow} {etablissement : String}
    (h : row.etablissement = some etablissement) (nom : String) :
    row.Affiche nom ↔ nomAffiche etablissement = nom := by
  have hbank : ∀ reference maintenant marge,
      (ConsentDto.depuis (row.vue reference) maintenant marge).bank =
        some (nomAffiche etablissement) := by
    intro reference maintenant marge
    simp only [ConsentDto.depuis, ConsentRow.vue, h, Option.map_some]
    rfl
  constructor
  · intro haffiche
    exact Option.some.inj ((hbank "" 0 0).symm.trans (haffiche "" 0 0))
  · rintro rfl
    exact hbank

/-- The consent that is stored bears the identifier that was asked for. -/
private theorem spec_createConsent (col : Collation) (crypto : CryptoService)
    (owner : ProprietaireId) (url : String) (s : Store) {bankId : String}
    (h : Text.trim bankId ≠ "") :
    Spec (machine col) (Handlers.createConsent crypto owner url bankId).run s fun t r s' =>
      (∀ e ∈ t, ∀ demande, e.op = .banque (.initierConsentement demande) →
        demande.etablissement = Text.trim bankId) ∧
      ∀ reponse, r = .ok reponse →
        ∃ row ∈ s'.consent, row.id = reponse.consentId ∧
          row.etablissement = some (Text.trim bankId) := by
  have huses : (Handlers.createConsent crypto owner url bankId).run.Uses fun o : Op =>
      ∀ demande, o = .banque (.initierConsentement demande) →
        demande.etablissement = Text.trim bankId := by
    unfold Handlers.createConsent
    simp only [if_neg h]
    refine Prog.Uses.run_bind (Prog.Uses.run_ofProg (uses_demander ?_)) fun id => ?_
    · intro demande hop
      cases hop
    refine Prog.Uses.run_bind (uses_banqueApi ?_) fun initie => ?_
    · intro demande hop
      cases hop
      rfl
    refine Prog.Uses.run_bind (Prog.Uses.run_mapError (uses_enregistrerInitie ?_ ?_))
      fun _ => Prog.uses_pure _
    · intro o ho demande hop
      subst hop
      cases ho
    · intro blob _ demande hop
      cases hop
  have hspec : Spec (machine col) (Handlers.createConsent crypto owner url bankId).run s
      fun _ r s' => ∀ reponse, r = .ok reponse →
        ∃ row ∈ s'.consent, row.id = reponse.consentId ∧
          row.etablissement = some (Text.trim bankId) := by
    unfold Handlers.createConsent
    simp only [if_neg h]
    refine spec_run_bind.2 (spec_run_ofProg.2 (spec_perform.2 fun id => ?_))
    refine spec_run_bind.2 (spec_run_mapError.2 (spec_perform.2 fun reply => ?_))
    cases reply with
    | error e =>
        intro reponse hr
        cases hr
    | ok initie =>
        refine spec_run_bind.2 (spec_run_mapError.2 ((spec_enregistrerInitie _ _ _ _).mono ?_))
        intro t r s' hr
        cases r with
        | error e =>
            intro reponse hreponse
            cases hreponse
        | ok id' =>
            refine spec_run_pure.2 ?_
            intro reponse hreponse
            obtain rfl := Except.ok.inj hreponse
            exact hr id' rfl
  intro t r s' hrun
  exact ⟨fun e he => hrun.uses huses e he, hspec hrun⟩

/-- Sending an id that is not blank can succeed. -/
private theorem exists_run_createConsent {bankId : String} (h : Text.trim bankId ≠ "") :
    ∃ t r s', Runs (machine Scenario.collation)
      (Handlers.createConsent enClair "alice" "https://budgy" bankId).run amorcee t (.ok r) s' ∧
        ∃ e ∈ t, ∃ demande, e.op = .banque (.initierConsentement demande) := by
  have hrun := runs_run (M := machine Scenario.collation) Scenario.calme.choix
    (Handlers.createConsent enClair "alice" "https://budgy" bankId).run 0 amorcee
  have hvalue : (run (machine Scenario.collation) Scenario.calme.choix
      (Handlers.createConsent enClair "alice" "https://budgy" bankId).run 0 amorcee).value =
        .ok ⟨Uuid.fromU128 1000, "https://banque"⟩ := by
    unfold Handlers.createConsent
    simp only [if_neg h]
    rfl
  have htrace : ((run (machine Scenario.collation) Scenario.calme.choix
      (Handlers.createConsent enClair "alice" "https://budgy" bankId).run 0 amorcee).trace[1]?).map
        Event.op = some (Op.banque (.initierConsentement
          ⟨Uuid.fromU128 1000, "alice", Text.trim bankId, "https://budgy"⟩)) := by
    unfold Handlers.createConsent
    simp only [if_neg h]
    rfl
  rw [hvalue] at hrun
  obtain ⟨e, he, hop⟩ := Option.map_eq_some_iff.1 htrace
  exact ⟨_, _, _, hrun, e, List.mem_of_getElem? he, _, hop⟩

/-- The identifier of a bank is not blank. -/
private theorem id_nonvide (aspsp : AspspWire) : Text.trim (versEtablissement aspsp).id ≠ "" := by
  rw [trim_id]
  intro h
  have hlength := congrArg (fun s => s.toList.length) h
  simp at hlength

/-- A bank that is found again is shown under its name. -/
private theorem lisible_of_restitue {aspsp : AspspWire} (h : Restitue aspsp) :
    aspsp.Lisible := by
  have hnonvide := id_nonvide aspsp
  obtain ⟨t, r, s', hrun, e, he, demande, hop⟩ := exists_run_createConsent hnonvide
  obtain ⟨hdemande, haffiche⟩ := h _ _ _ _ _ hrun
  obtain ⟨hrequete, hstocke⟩ := spec_createConsent _ _ _ _ _ hnonvide hrun
  refine readers_iff.1 ⟨?_, ?_⟩
  · have hauth := runs_run (M := fournisseur)
      (fun _ (a : AppelHttp) =>
        (.error .consentementInvalide : Except BankDataSourceError a.Reponse))
      (initierConsentement ⟨"", fun _ => Uuid.fromU128 0, fun _ => "", fun _ => none⟩ demande 0).run
      0 ()
    obtain ⟨corps, reponse, ht, hcorps⟩ := hdemande e he demande hop _ _ hauth
    obtain ⟨corps', reponse', ht', hcorps'⟩ := spec_initierConsentement _ _ _ hauth
    obtain ⟨rfl, -⟩ := by simpa using ht.symm.trans ht'
    rw [← hrequete e he demande hop, ← hcorps', hcorps]
  · obtain ⟨row, hrow, hid, hnom⟩ := haffiche r rfl
    obtain ⟨row', hrow', hid', hetablissement⟩ := hstocke r rfl
    obtain rfl : row = row' := Table.eq_of_key_eq hrow hrow' (hid.trans hid'.symm)
    exact (affiche_iff hetablissement _).1 hnom

/-- The id of a bank is read back everywhere when its name has no bar and nothing to trim,
and its country is given, has no bar and no white space at its end. -/
theorem restitue_iff (aspsp : AspspWire) : Restitue aspsp ↔ aspsp.Lisible := by
  constructor
  · exact lisible_of_restitue
  · intro h col crypto owner url s
    obtain ⟨hdemande, haffiche⟩ := readers_iff.2 h
    refine (spec_createConsent col crypto owner url s (id_nonvide aspsp)).mono ?_
    rintro t r s' ⟨hrequete, hstocke⟩
    refine ⟨?_, ?_⟩
    · intro e he demande hop client horodatage
      refine (spec_initierConsentement client demande horodatage).mono ?_
      rintro t' _ _ ⟨corps, reponse, ht', hcorps⟩
      refine ⟨corps, reponse, ht', ?_⟩
      rw [hcorps, hrequete e he demande hop, hdemande]
    · intro reponse hr
      obtain ⟨row, hrow, hid, hetablissement⟩ := hstocke reponse hr
      exact ⟨row, hrow, hid, (affiche_iff hetablissement _).2 haffiche⟩

/-- A bank that gives no country is requested under a name that ends with the bar. -/
theorem not_restitue : ¬ ∀ aspsp : AspspWire, Restitue aspsp := by
  intro h
  obtain ⟨-, -, pays, hpays, -⟩ := lisible_of_restitue (h ⟨"Boursorama", none⟩)
  cases hpays

end Budgy
