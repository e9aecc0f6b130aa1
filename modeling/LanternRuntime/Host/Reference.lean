import Mathlib.Logic.Function.Basic
import LanternRuntime.Host.Types
import LanternRuntime.ProgLib.Fields
/-!
# Reference services

A keystore and a store that behave as the mapping's users expect of the real
ones: badges decide what is permitted, a cipher authenticates what it decrypts,
a file is a register. The cipher is one in form only.
-/
open ProgLib

namespace LanternRuntime.Host

/-- What a file can hold. -/
abbrev Content := { b : Bytes // b.length ≤ MAX_BLOCK_LEN }

abbrev Files := FileId → Option Content

/-- Badge 7 may do everything, badge 8 may read and decrypt. -/
def mayWrite (badge : UInt64) : Bool := badge = 7
def mayRead (badge : UInt64) : Bool := badge = 7 ∨ badge = 8

/-- A tag that depends on every byte it authenticates. -/
def mac (key : KeyId) (nonce : Nonce) (aad text : Bytes) : Tag :=
  ⟨(UInt8.ofNat key.raw + (nonce.val ++ putField aad ++ text).foldl (fun acc b => 3 * acc + b) 0) ::
    List.replicate (TAG_LEN - 1) 0, by simp [TAG_LEN]⟩

/-- Copy a content into a buffer, if there is one and it fits. -/
def readContent (content : Option Content) (buffer : Bytes) : Buf buffer.length × Except StoreError Nat :=
  match content with
  | none => (.same buffer, .error .FileEmpty)
  | some content =>
    match writeFront content buffer with
    | (out, some n) => (out, .ok n)
    | (out, none) => (out, .error (.Other 0))

theorem readContent_ok {content : Option Content} {buffer : Bytes} {out : Buf buffer.length} {n : Nat}
    (h : readContent content buffer = (out, .ok n)) : content.map Subtype.val = some (out.val.take n) := by
  cases content with
  | none => cases h
  | some content =>
    by_cases hl : content.val.length ≤ buffer.length
    · obtain ⟨h₁, h₂⟩ := writeFront_fits rfl hl
      simp only [readContent] at h
      split at h
      · next hw =>
        rw [hw] at h₁ h₂
        obtain rfl := Option.some.inj h₁
        cases h
        exact congrArg some h₂.symm
      · cases h
    · simp [readContent, writeFront, hl] at h

theorem readContent_empty {content : Option Content} {buffer : Bytes} {out : Buf buffer.length}
    (h : readContent content buffer = (out, .error .FileEmpty)) : content = none := by
  cases content with
  | none => rfl
  | some content =>
    simp only [readContent] at h
    split at h <;> cases h

def reference : Handler Services Files
  | .encrypt badge key nonce aad buffer, s =>
    (if mayWrite badge then (.same buffer, .ok (mac key nonce aad buffer))
      else (.same buffer, .error .OpNotGranted), s)
  | .decrypt badge key nonce aad buffer tag, s =>
    (if !mayRead badge then (.same buffer, .error .OpNotGranted)
      else if tag = mac key nonce aad buffer then (.same buffer, .ok ())
      else (.same buffer, .error .CryptoFailure), s)
  | .sign badge _ _, s => (if mayWrite badge then .ok (zeros SIGNATURE_LEN).val else .error .OpNotGranted, s)
  | .read badge file buffer, s =>
    (if !mayRead badge then (.same buffer, .error .OpNotGranted)
      else readContent (s file) buffer, s)
  | .write badge file data, s =>
    if h : mayWrite badge = true ∧ data.length ≤ MAX_BLOCK_LEN then
      (.ok (), Function.update s file (some ⟨data, h.2⟩))
    else (.error .OpNotGranted, s)
  | .now_ns _, s => ((0 : UInt64), s)

end LanternRuntime.Host
