import Budgy.Interface.Separators
import Budgy.Model.Repository.Comptes
import Budgy.Analysis.Scenarios

/-!
# A ciphertext belongs to its place

What is stored encrypted is bound to an owner, a table and a column by the associated
data `aad`, and rows are found by the fingerprint of a context and an identifier.  Both
are texts joined by colons, and a colon may occur in an owner, in an identifier and in
the bytes of a key.  `aad_inj` and `messageDedup_contexte_inj` say that the parts can
still be read back.
-/

set_option autoImplicit false

namespace Budgy

/-- A place where the repositories store a ciphertext. -/
structure Emplacement where
  owner : String
  table : String
  field : String
  deriving DecidableEq

/-- The columns that are stored encrypted, with their tables. -/
def champsChiffres : List (String × String) :=
  [("bank_account", "external_account_id"), ("bank_account", "iban"),
    ("bank_transaction", "external_transaction_id"), ("bank_transaction", "label"),
    ("bank_transaction", "amount_cents"), ("balance", "amount_cents"),
    ("consent", "external_ref")]

/-- The place is one of those the repositories use. -/
def Emplacement.Utilise (p : Emplacement) : Prop := (p.table, p.field) ∈ champsChiffres

instance (p : Emplacement) : Decidable p.Utilise :=
  inferInstanceAs (Decidable ((p.table, p.field) ∈ champsChiffres))

/-- The associated data of a place. -/
def Emplacement.associees (p : Emplacement) : List UInt8 := Text.utf8 (aad p.owner p.table p.field)

/-- A context of the fingerprints: the bytes of a key, or the context of the accounts. -/
def ContexteDedup (contexte : List UInt8) : Prop :=
  contexte.length = 16 ∨ contexte = contexteEmpreinteCompte

/-- Among the associated data of a set, a ciphertext opens with those it was sealed with
only. -/
def CryptoService.Authentifie (crypto : CryptoService) (U : Set (List UInt8)) : Prop :=
  ∀ a ∈ U, ∀ a' ∈ U, a' ≠ a → ∀ (nonce : Nonce) (message chiffre : List UInt8),
    crypto.sceller nonce message a = some chiffre → crypto.ouvrir nonce chiffre a' = none

/-! ## The texts joined by colons -/

/-- An owner may contain colons, a table and a column may not. -/
theorem aad_inj {owner owner' table table' field field' : String}
    (htable : ':' ∉ table.toList) (htable' : ':' ∉ table'.toList) (hfield : ':' ∉ field.toList)
    (hfield' : ':' ∉ field'.toList) (h : aad owner table field = aad owner' table' field') :
    owner = owner' ∧ table = table' ∧ field = field' := by
  have hlist : ∀ o t f : String, (aad o t f).toList =
      (("budgy:v1:".toList ++ o.toList) ++ ':' :: t.toList) ++ ':' :: f.toList := by
    intro o t f
    simp [aad, String.toList_append]
  have heq := congrArg String.toList h
  rw [hlist, hlist] at heq
  obtain ⟨hleft, hfields⟩ := (Separators.append_cons_inj_last hfield hfield').1 heq
  obtain ⟨howners, htables⟩ := (Separators.append_cons_inj_last htable htable').1 hleft
  exact ⟨String.toList_inj.1 (List.append_cancel_left howners), String.toList_inj.1 htables,
    String.toList_inj.1 hfields⟩

/-- The columns that are stored encrypted are named without colons. -/
private theorem sans_deuxPoints {table field : String} (h : (table, field) ∈ champsChiffres) :
    ':' ∉ table.toList ∧ ':' ∉ field.toList := by
  have hall : ∀ c ∈ champsChiffres, ':' ∉ c.1.toList ∧ ':' ∉ c.2.toList := by decide
  exact hall _ h

/-- Two places have the same associated data when they are the same. -/
theorem Emplacement.associees_inj {p p' : Emplacement} (hp : p.Utilise) (hp' : p'.Utilise)
    (h : p.associees = p'.associees) : p = p' := by
  obtain ⟨htable, hfield⟩ := sans_deuxPoints hp
  obtain ⟨htable', hfield'⟩ := sans_deuxPoints hp'
  obtain ⟨ho, ht, hf⟩ := aad_inj htable htable' hfield hfield' (Text.utf8_injective h)
  cases p
  cases p'
  simp_all

/-- The sixteenth byte after a key is the colon; in the context of the accounts it is not. -/
private theorem messageDedup_ne {contexte : List UInt8} (hlen : contexte.length = 16)
    (e e' : String) :
    CryptoService.messageDedup contexte e ≠
      CryptoService.messageDedup contexteEmpreinteCompte e' := by
  intro h
  have hleft : (CryptoService.messageDedup contexte e)[16]? = some 58 := by
    unfold CryptoService.messageDedup
    rw [List.append_assoc, List.getElem?_append_right (by omega), hlen]
    rfl
  have hright : (CryptoService.messageDedup contexteEmpreinteCompte e')[16]? = some 98 := by
    unfold CryptoService.messageDedup
    rw [List.append_assoc, List.getElem?_append_left (by decide)]
    decide
  rw [h, hright] at hleft
  exact absurd hleft (by decide)

/-- The context and the identifier can be read back from what is fingerprinted. -/
theorem messageDedup_contexte_inj {c c' : List UInt8} (hc : ContexteDedup c)
    (hc' : ContexteDedup c') {e e' : String}
    (h : CryptoService.messageDedup c e = CryptoService.messageDedup c' e') : c = c' ∧ e = e' := by
  rcases hc with hlen | rfl <;> rcases hc' with hlen' | rfl
  · exact CryptoService.messageDedup_inj (hlen.trans hlen'.symm) h
  · exact absurd h (messageDedup_ne hlen e e')
  · exact absurd h.symm (messageDedup_ne hlen' e' e)
  · exact CryptoService.messageDedup_inj rfl h

/-! ## The ciphertexts -/

section Storage

variable {crypto : CryptoService} {U V : Set (List UInt8)} {p p' : Emplacement}

/-- What was encrypted for a place is refused at any other. -/
theorem dechiffrerTexte_ailleurs (hfiable : crypto.Fiable) (hauth : crypto.Authentifie U)
    (hp : p.associees ∈ U) (hp' : p'.associees ∈ U) (hne : p'.associees ≠ p.associees)
    {nonce : Nonce} {texte : String} {blob : List UInt8}
    (hblob : chiffrerTexte crypto nonce p.owner p.table p.field texte = .ok blob) :
    dechiffrerTexte crypto p'.owner p'.table p'.field blob = .error (.crypto .decryption) := by
  obtain ⟨chiffre, hscelle, hlen, -⟩ := hfiable nonce (Text.utf8 texte) p.associees
  have hferme : crypto.ouvrir nonce chiffre p'.associees = none :=
    hauth _ hp _ hp' hne nonce _ _ hscelle
  have hb : blob = nonce.val ++ chiffre := by
    have hscelle' : crypto.sceller nonce (Text.utf8 texte)
        (Text.utf8 (aad p.owner p.table p.field)) = some chiffre := hscelle
    simp only [chiffrerTexte, CryptoService.encrypt, hscelle', Except.mapError] at hblob
    exact (Except.ok.inj hblob).symm
  have hn : nonce.val.length = nonceBytes := nonce.property
  have htake : blob.take nonceBytes = nonce.val := by
    rw [hb, List.take_left' hn]
  have hdrop : blob.drop nonceBytes = chiffre := by
    rw [hb, List.drop_left' hn]
  have hsize : ¬ blob.length < nonceBytes + tagBytes := by
    rw [hb, List.length_append, hn, hlen]
    omega
  have hferme' : crypto.ouvrir nonce chiffre
      (Text.utf8 (aad p'.owner p'.table p'.field)) = none := hferme
  simp [dechiffrerTexte, CryptoService.decrypt, hsize, htake, hdrop, hferme']

/-- The storage is bound to its places.  A text or an amount decrypts where it was
encrypted and nowhere else, and two fingerprints agree when they are taken of the same
context and identifier. -/
theorem stockage_lie (hfiable : crypto.Fiable) (hauth : crypto.Authentifie U)
    (hmac : crypto.SansCollision V) :
    (∀ p p' : Emplacement, p.Utilise → p'.Utilise → p.associees ∈ U → p'.associees ∈ U →
      ∀ nonce : Nonce,
        (∀ texte, ∃ blob, chiffrerTexte crypto nonce p.owner p.table p.field texte = .ok blob ∧
          dechiffrerTexte crypto p.owner p.table p.field blob = .ok texte ∧
          (p' ≠ p → ∃ e, dechiffrerTexte crypto p'.owner p'.table p'.field blob = .error e)) ∧
        ∀ montant, EstI64 montant →
          ∃ blob, chiffrerMontant crypto nonce p.owner p.table p.field montant = .ok blob ∧
            dechiffrerMontant crypto p.owner p.table p.field blob = .ok montant ∧
            (p' ≠ p → ∃ e, dechiffrerMontant crypto p'.owner p'.table p'.field blob = .error e)) ∧
    ∀ c c', ContexteDedup c → ContexteDedup c' → ∀ e e',
      CryptoService.messageDedup c e ∈ V → CryptoService.messageDedup c' e' ∈ V →
        (crypto.dedupKey c e = crypto.dedupKey c' e' ↔ c = c' ∧ e = e') := by
  refine ⟨?_, ?_⟩
  · intro p p' hp hp' hU hU' nonce
    have hne : p' ≠ p → p'.associees ≠ p.associees :=
      fun hneq heq => hneq (Emplacement.associees_inj hp' hp heq)
    constructor
    · intro texte
      obtain ⟨blob, hblob⟩ := chiffrerTexte_ok hfiable nonce p.owner p.table p.field texte
      refine ⟨blob, hblob, dechiffrerTexte_chiffrerTexte hfiable hblob, ?_⟩
      intro hneq
      exact ⟨_, dechiffrerTexte_ailleurs hfiable hauth hU hU' (hne hneq) hblob⟩
    · intro montant hmontant
      obtain ⟨blob, hblob⟩ :=
        chiffrerTexte_ok hfiable nonce p.owner p.table p.field (Text.decimal montant)
      refine ⟨blob, hblob, dechiffrerMontant_chiffrerMontant hfiable hmontant hblob, ?_⟩
      intro hneq
      unfold dechiffrerMontant
      rw [dechiffrerTexte_ailleurs hfiable hauth hU hU' (hne hneq) hblob]
      exact ⟨_, rfl⟩
  · intro c c' hc hc' e e' hV hV'
    constructor
    · intro h
      exact messageDedup_contexte_inj hc hc' (hmac _ hV _ hV' h)
    · rintro ⟨rfl, rfl⟩
      rfl

end Storage

/-! ## A cipher that checks a tag -/

/-- A tag of sixteen bytes, computed from the associated data. -/
def etiquette (aad : List UInt8) : List UInt8 :=
  let valeur := aad.foldl (fun n b => (257 * n + b.toNat) % 2 ^ 128) 0
  (List.range tagBytes).map fun i => UInt8.ofNat (valeur / 256 ^ i)

/-- The cipher that appends the tag of the associated data, and checks it. -/
def parEtiquette : CryptoService where
  sceller _ message aad := some (message ++ etiquette aad)
  ouvrir _ chiffre aad :=
    if chiffre.drop (chiffre.length - tagBytes) = etiquette aad then
      some (chiffre.take (chiffre.length - tagBytes))
    else none
  mac message := String.ofList (message.map Char.ofUInt8)

/-- A tag has the length of a tag. -/
private theorem length_etiquette (aad : List UInt8) : (etiquette aad).length = tagBytes := by
  simp [etiquette]

/-- Such a service can be relied on. -/
theorem fiable_parEtiquette : parEtiquette.Fiable := by
  intro nonce message aad
  refine ⟨message ++ etiquette aad, rfl, by simp [length_etiquette], ?_⟩
  have hlen : (message ++ etiquette aad).length - tagBytes = message.length := by
    simp [length_etiquette]
  simp only [parEtiquette]
  rw [hlen, List.drop_left, if_pos rfl, List.take_left]

/-- It tells apart the associated data whose tags differ. -/
theorem authentifie_parEtiquette {U : Set (List UInt8)}
    (hU : ∀ a ∈ U, ∀ a' ∈ U, a' ≠ a → etiquette a' ≠ etiquette a) :
    parEtiquette.Authentifie U := by
  intro a ha a' ha' hne nonce message chiffre hscelle
  obtain rfl : message ++ etiquette a = chiffre := Option.some.inj hscelle
  have hlen : (message ++ etiquette a).length - tagBytes = message.length := by
    simp [length_etiquette]
  simp only [parEtiquette]
  rw [hlen, List.drop_left, if_neg (hU a ha a' ha' hne).symm]

/-- The label of a user whose name has a colon. -/
private def libelleDeAB : Emplacement := ⟨"a:b", "bank_transaction", "label"⟩

/-- A place that differs from it by the owner alone. -/
private def libelleDeA : Emplacement := ⟨"a", "bank_transaction", "label"⟩

/-- The two places have different tags. -/
private theorem etiquettes_differentes :
    etiquette libelleDeAB.associees ≠ etiquette libelleDeA.associees := by decide

/-- Each ciphertext opens at its own place only. -/
private theorem authentifie_deux :
    parEtiquette.Authentifie {libelleDeAB.associees, libelleDeA.associees} := by
  apply authentifie_parEtiquette
  rintro a (rfl | rfl) a' (rfl | rfl) hne
  · exact absurd rfl hne
  · exact etiquettes_differentes.symm
  · exact etiquettes_differentes
  · exact absurd rfl hne

/-- The label of an owner with a colon is not one of the owner before the colon, and a key
of sixteen bytes does not pass for the context of the accounts. -/
theorem stockage_lie_deuxProprietaires :
    (∃ blob, chiffrerTexte parEtiquette ⟨List.replicate nonceBytes 0, by decide⟩
        "a:b" "bank_transaction" "label" "Loyer" = .ok blob ∧
      dechiffrerTexte parEtiquette "a:b" "bank_transaction" "label" blob = .ok "Loyer" ∧
      ∃ e, dechiffrerTexte parEtiquette "a" "bank_transaction" "label" blob = .error e) ∧
    parEtiquette.dedupKey (List.replicate 16 0) "FR1" ≠
      parEtiquette.dedupKey contexteEmpreinteCompte "FR1" := by
  have hmac : parEtiquette.SansCollision Set.univ := fun _ _ _ _ h => mac_enClair_injective h
  have h := stockage_lie fiable_parEtiquette authentifie_deux hmac
  constructor
  · obtain ⟨blob, hblob, hici, hailleurs⟩ :=
      (h.1 libelleDeAB libelleDeA (by decide) (by decide) (.inl rfl) (.inr rfl)
        ⟨List.replicate nonceBytes 0, by decide⟩).1 "Loyer"
    exact ⟨blob, hblob, hici, hailleurs (by decide)⟩
  · intro hkey
    have hsame := (h.2 _ _ (.inl (by decide)) (.inr rfl) "FR1" "FR1" trivial trivial).1 hkey
    exact absurd hsame.1 (by decide)

end Budgy
