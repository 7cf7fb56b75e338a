import Budgy.Model.Basics
import Budgy.Model.Errors

/-!
# Encryption at rest and keyed fingerprints

`crypto.rs` rests on XChaCha20-Poly1305 and HMAC-SHA256, which are not part of
the repository: they are the fields of `CryptoService`.  What the program relies
on is stated by two predicates, `Fiable` (the cipher opens what it sealed) and
`SansCollision` (the fingerprint tells two messages apart), and used as a
hypothesis where a result needs it.
-/

set_option autoImplicit false

namespace Budgy

/-- `NONCE_BYTES`. -/
def nonceBytes : ℕ := 24

/-- `TAG_BYTES`. -/
def tagBytes : ℕ := 16

/-- The twenty-four random bytes of one encryption. -/
abbrev Nonce := { octets : List UInt8 // octets.length = nonceBytes }

/-- The ciphers under the key of the service: `sceller` and `ouvrir` are the AEAD,
`mac` is the HMAC under the deduplication sub-key, in URL-safe base64. -/
structure CryptoService where
  sceller : (nonce message aad : List UInt8) → Option (List UInt8)
  ouvrir : (nonce chiffre aad : List UInt8) → Option (List UInt8)
  mac : List UInt8 → String

namespace CryptoService

/-- The AEAD seals every message, adds its tag, and opens what it sealed. -/
def Fiable (crypto : CryptoService) : Prop :=
  ∀ (nonce : Nonce) (message aad : List UInt8), ∃ chiffre,
    crypto.sceller nonce message aad = some chiffre ∧
      chiffre.length = message.length + tagBytes ∧
      crypto.ouvrir nonce chiffre aad = some message

/-- No two messages of a set share their fingerprint. -/
def SansCollision (crypto : CryptoService) (messages : Set (List UInt8)) : Prop :=
  ∀ m ∈ messages, ∀ m' ∈ messages, crypto.mac m = crypto.mac m' → m = m'

variable (crypto : CryptoService)

/-- The message `dedup_key` authenticates. -/
def messageDedup (contexte : List UInt8) (identifiantExterne : String) : List UInt8 :=
  contexte ++ Text.utf8 ":" ++ Text.utf8 identifiantExterne

/-- `dedup_key`: the code of the context and the identifier, under the key of the service. -/
def dedupKey (contexte : List UInt8) (identifiantExterne : String) : String :=
  crypto.mac (messageDedup contexte identifiantExterne)

/-- `encrypt`: the nonce, then the ciphertext and its tag. -/
def encrypt (nonce : Nonce) (plaintext : List UInt8) (aad : String) :
    Except CryptoError (List UInt8) :=
  match crypto.sceller nonce plaintext (Text.utf8 aad) with
  | some ciphertext => .ok (nonce.val ++ ciphertext)
  | none => .error .encryption

/-- `decrypt`: a blob too short for a nonce and a tag is malformed. -/
def decrypt (blob : List UInt8) (aad : String) : Except CryptoError (List UInt8) :=
  if blob.length < nonceBytes + tagBytes then .error .malformedBlob
  else match crypto.ouvrir (blob.take nonceBytes) (blob.drop nonceBytes) (Text.utf8 aad) with
    | some plaintext => .ok plaintext
    | none => .error .decryption

end CryptoService

/-- `aad`: the place a ciphertext is bound to. -/
def aad (ownerId table field : String) : String :=
  "budgy:v1:" ++ ownerId ++ ":" ++ table ++ ":" ++ field

section Chiffrement

variable (crypto : CryptoService)

/-- `chiffrer_texte`: the data that is authenticated names the owner, the table and the field. -/
def chiffrerTexte (nonce : Nonce) (ownerId table field plaintext : String) :
    Except ChiffrementError (List UInt8) :=
  (crypto.encrypt nonce (Text.utf8 plaintext) (aad ownerId table field)).mapError .crypto

/-- `dechiffrer_texte`. -/
def dechiffrerTexte (ownerId table field : String) (blob : List UInt8) :
    Except ChiffrementError String :=
  match crypto.decrypt blob (aad ownerId table field) with
  | .error e => .error (.crypto e)
  | .ok bytes =>
      match Text.ofUtf8? bytes with
      | some texte => .ok texte
      | none => .error .invalidUtf8

/-- `chiffrer_montant`: an amount is encrypted as its decimal text. -/
def chiffrerMontant (nonce : Nonce) (ownerId table field : String) (amountCents : ℤ) :
    Except ChiffrementError (List UInt8) :=
  chiffrerTexte crypto nonce ownerId table field (Text.decimal amountCents)

/-- `dechiffrer_montant`. -/
def dechiffrerMontant (ownerId table field : String) (blob : List UInt8) :
    Except ChiffrementError ℤ :=
  match dechiffrerTexte crypto ownerId table field blob with
  | .error e => .error e
  | .ok texte =>
      match Text.parseInt? i64Min i64Max texte with
      | some n => .ok n
      | none => .error .invalidAmount

end Chiffrement

/-! ## What the ciphers guarantee -/

namespace CryptoService

variable {crypto : CryptoService}

/-- The context and the identifier can be read back from the message: contexts of
one length are never confused. -/
theorem messageDedup_inj {c c' : List UInt8} {e e' : String} (hlen : c.length = c'.length)
    (h : messageDedup c e = messageDedup c' e') : c = c' ∧ e = e' := by
  unfold messageDedup at h
  rw [List.append_assoc, List.append_assoc] at h
  obtain ⟨hc, hrest⟩ := List.append_inj h hlen
  exact ⟨hc, Text.utf8_injective (List.append_cancel_left hrest)⟩

/-- The context of an account and an external identifier can be told apart in a message. -/
theorem messageDedup_uuid_inj {id id' : Uuid} {e e' : String}
    (h : messageDedup id.asBytes e = messageDedup id'.asBytes e') : id = id' ∧ e = e' := by
  obtain ⟨hid, he⟩ := messageDedup_inj (by simp) h
  exact ⟨Uuid.asBytes_injective hid, he⟩

end CryptoService

variable {crypto : CryptoService}

/-- What was encrypted for a place decrypts there. -/
theorem dechiffrerTexte_chiffrerTexte (h : crypto.Fiable) {nonce : Nonce}
    {owner table field texte : String} {blob : List UInt8}
    (hblob : chiffrerTexte crypto nonce owner table field texte = .ok blob) :
    dechiffrerTexte crypto owner table field blob = .ok texte := by
  obtain ⟨chiffre, hscelle, hlen, houvre⟩ := h nonce (Text.utf8 texte) (Text.utf8 (aad owner table field))
  have hb : blob = nonce.val ++ chiffre := by
    simp only [chiffrerTexte, CryptoService.encrypt, hscelle, Except.mapError] at hblob
    exact (Except.ok.inj hblob).symm
  have hn : nonce.val.length = nonceBytes := nonce.property
  have htake : blob.take nonceBytes = nonce.val := by
    rw [hb, List.take_left' hn]
  have hdrop : blob.drop nonceBytes = chiffre := by
    rw [hb, List.drop_left' hn]
  have hsize : ¬ blob.length < nonceBytes + tagBytes := by
    rw [hb, List.length_append, hn, hlen]
    omega
  simp [dechiffrerTexte, CryptoService.decrypt, hsize, htake, hdrop, houvre]

/-- So does an amount of the program. -/
theorem dechiffrerMontant_chiffrerMontant (h : crypto.Fiable) {nonce : Nonce}
    {owner table field : String} {montant : ℤ} {blob : List UInt8} (hmontant : EstI64 montant)
    (hblob : chiffrerMontant crypto nonce owner table field montant = .ok blob) :
    dechiffrerMontant crypto owner table field blob = .ok montant := by
  unfold dechiffrerMontant
  rw [dechiffrerTexte_chiffrerTexte h hblob]
  simp only
  rw [Text.parseInt?_decimal hmontant.1 hmontant.2]

/-- Encryption never fails with a reliable cipher. -/
theorem chiffrerTexte_ok (h : crypto.Fiable) (nonce : Nonce) (owner table field texte : String) :
    ∃ blob, chiffrerTexte crypto nonce owner table field texte = .ok blob := by
  obtain ⟨chiffre, hscelle, -, -⟩ := h nonce (Text.utf8 texte) (Text.utf8 (aad owner table field))
  exact ⟨nonce.val ++ chiffre, by
    simp [chiffrerTexte, CryptoService.encrypt, hscelle, Except.mapError]⟩

end Budgy
