import LanternRuntime.Host.Types
import LanternRuntime.ProgLib.Fields
/-!
# What the codecs promise

`FaithfulWire` is what the mapping relies on of `lantern_crypto::wire`: each
decoder inverts its encoder, and an encoder succeeds on every buffer of at least
the exact size, which it then writes. `lengthPrefixed` is a codec that keeps it,
with the layout the buffer sizes of `IpcKeystore` are made for.
-/
open ProgLib

namespace LanternRuntime.Host

/-- The exact sizes of the encodings that are written into a buffer. -/
def encryptRequestLen (aad plaintext : Bytes) : Nat := 4 + NONCE_LEN + 4 + aad.length + plaintext.length
def encryptReplyLen (ciphertext : Bytes) : Nat := 4 + TAG_LEN + ciphertext.length
def decryptRequestLen (aad ciphertext : Bytes) : Nat := 4 + NONCE_LEN + 4 + aad.length + 4 + TAG_LEN + ciphertext.length

structure FaithfulWire [Crates] : Prop where
  encrypt_request : ∀ (nonce : Nonce) (aad plaintext out : Bytes), aad.length < 2 ^ 32 →
    encryptRequestLen aad plaintext ≤ out.length →
    (Crates.encode_encrypt_request nonce aad plaintext out).2 = some (encryptRequestLen aad plaintext) ∧
    Crates.decode_encrypt_request ((Crates.encode_encrypt_request nonce aad plaintext out).1.val.take
      (encryptRequestLen aad plaintext)) = some (nonce, aad, plaintext)
  encrypt_reply : ∀ (tag : Tag) (ciphertext out : Bytes), encryptReplyLen ciphertext ≤ out.length →
    (Crates.encode_encrypt_reply tag ciphertext out).2 = some (encryptReplyLen ciphertext) ∧
    Crates.decode_encrypt_reply ((Crates.encode_encrypt_reply tag ciphertext out).1.val.take
      (encryptReplyLen ciphertext)) = some (tag, ciphertext)
  decrypt_request : ∀ (nonce : Nonce) (aad : Bytes) (tag : Tag) (ciphertext out : Bytes), aad.length < 2 ^ 32 →
    decryptRequestLen aad ciphertext ≤ out.length →
    (Crates.encode_decrypt_request nonce aad tag ciphertext out).2 = some (decryptRequestLen aad ciphertext) ∧
    Crates.decode_decrypt_request ((Crates.encode_decrypt_request nonce aad tag ciphertext out).1.val.take
      (decryptRequestLen aad ciphertext)) = some (nonce, aad, tag, ciphertext)
  decrypt_reply : ∀ plaintext, Crates.decode_decrypt_reply (Crates.encode_decrypt_reply plaintext) = plaintext
  decrypt_reply_len : ∀ plaintext, (Crates.encode_decrypt_reply plaintext).length = plaintext.length
  sign_request : ∀ message, Crates.decode_sign_request (Crates.encode_sign_request message) = message
  sign_reply : ∀ signature, Crates.decode_sign_reply (Crates.encode_sign_reply signature) = signature
  sign_reply_len : ∀ signature, (Crates.encode_sign_reply signature).length = signature.length

/-- A field that must have `n` bytes. -/
def getBuf (n : Nat) (b : Bytes) : Option (Buf n × Bytes) :=
  (getField b).bind fun (x, rest) => if h : x.length = n then some (⟨x, h⟩, rest) else none

theorem getBuf_putField {n : Nat} (x : Buf n) (hn : n < 2 ^ 32) (rest : Bytes) :
    getBuf n (putField x.val ++ rest) = some (x, rest) := by
  unfold getBuf
  rw [getField_putField (by rw [x.property]; exact hn)]
  simp [x.property]

/-- Nonce, aad and tag carry their lengths; the text is the rest. -/
@[reducible] def lengthPrefixed : Crates where
  crypto_OK := 0
  crypto_ACCESS := 1
  fs_OK := 0
  fs_ACCESS := 1
  OP_ENCRYPT := 1
  OP_DECRYPT := 2
  OP_SIGN := 3
  OP_READ := 1
  OP_WRITE := 2
  encode_encrypt_request nonce aad plaintext out := writeFront (putField nonce.val ++ (putField aad ++ plaintext)) out
  decode_encrypt_request b := do
    let (nonce, b) ← getBuf NONCE_LEN b
    let (aad, b) ← getField b
    return (nonce, aad, b)
  encode_encrypt_reply tag ciphertext out := writeFront (putField tag.val ++ ciphertext) out
  decode_encrypt_reply b := getBuf TAG_LEN b
  encode_decrypt_request nonce aad tag ciphertext out :=
    writeFront (putField nonce.val ++ (putField aad ++ (putField tag.val ++ ciphertext))) out
  decode_decrypt_request b := do
    let (nonce, b) ← getBuf NONCE_LEN b
    let (aad, b) ← getField b
    let (tag, b) ← getBuf TAG_LEN b
    return (nonce, aad, tag, b)
  encode_decrypt_reply b := b
  decode_decrypt_reply b := b
  encode_sign_request b := b
  decode_sign_request b := b
  encode_sign_reply b := b
  decode_sign_reply b := b

theorem nonce_len_fits : NONCE_LEN < 2 ^ 32 := by decide
theorem tag_len_fits : TAG_LEN < 2 ^ 32 := by decide

theorem lengthPrefixed_faithful : @FaithfulWire lengthPrefixed := by
  apply @FaithfulWire.mk lengthPrefixed
  case encrypt_request =>
    intro nonce aad plaintext out haad hout
    have hlen : (putField nonce.val ++ (putField aad ++ plaintext)).length = encryptRequestLen aad plaintext := by
      simp [encryptRequestLen, nonce.property]; omega
    obtain ⟨hw, ht⟩ := writeFront_fits hlen hout
    refine ⟨hw, ?_⟩
    change (getBuf NONCE_LEN ((writeFront _ out).1.val.take _)).bind _ = _
    rw [ht, getBuf_putField nonce nonce_len_fits]
    change (getField _).bind _ = _
    rw [getField_putField haad]
    rfl
  case encrypt_reply =>
    intro tag ciphertext out hout
    have hlen : (putField tag.val ++ ciphertext).length = encryptReplyLen ciphertext := by
      simp [encryptReplyLen, tag.property]
    obtain ⟨hw, ht⟩ := writeFront_fits hlen hout
    refine ⟨hw, ?_⟩
    change getBuf TAG_LEN ((writeFront _ out).1.val.take _) = _
    rw [ht, getBuf_putField tag tag_len_fits]
  case decrypt_request =>
    intro nonce aad tag ciphertext out haad hout
    have hlen : (putField nonce.val ++ (putField aad ++ (putField tag.val ++ ciphertext))).length =
        decryptRequestLen aad ciphertext := by
      simp [decryptRequestLen, nonce.property, tag.property]; omega
    obtain ⟨hw, ht⟩ := writeFront_fits hlen hout
    refine ⟨hw, ?_⟩
    change (getBuf NONCE_LEN ((writeFront _ out).1.val.take _)).bind _ = _
    rw [ht, getBuf_putField nonce nonce_len_fits]
    change (getField _).bind _ = _
    rw [getField_putField haad]
    change (getBuf TAG_LEN _).bind _ = _
    rw [getBuf_putField tag tag_len_fits]
    rfl
  all_goals intro b; rfl

end LanternRuntime.Host
