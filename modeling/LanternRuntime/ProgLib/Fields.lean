import Mathlib.Algebra.Group.Nat.Defs
import Mathlib.Data.List.Basic
/-!
# Length-prefixed fields

Byte strings framed by a 32-bit little-endian length, and an output buffer that
is written from its start.
-/

namespace ProgLib

/-- Split off `n` bytes, if there are that many. -/
def splitFirst (n : Nat) (b : List UInt8) : Option (List UInt8 × List UInt8) :=
  if n ≤ b.length then some (b.take n, b.drop n) else none

theorem splitFirst_append (a b : List UInt8) : splitFirst a.length (a ++ b) = some (a, b) := by
  simp [splitFirst]

def putLen (n : Nat) : List UInt8 :=
  [UInt8.ofNat n, UInt8.ofNat (n / 256), UInt8.ofNat (n / 65536), UInt8.ofNat (n / 16777216)]

def getLen : List UInt8 → Option (Nat × List UInt8)
  | a :: b :: c :: d :: rest => some (a.toNat + 256 * b.toNat + 65536 * c.toNat + 16777216 * d.toNat, rest)
  | _ => none

theorem getLen_putLen {n : Nat} (h : n < 2 ^ 32) (rest : List UInt8) : getLen (putLen n ++ rest) = some (n, rest) := by
  have hn : n % 256 + 256 * (n / 256 % 256) + 65536 * (n / 65536 % 256) + 16777216 * (n / 16777216 % 256) = n := by
    omega
  simp [putLen, getLen, hn]

def putField (b : List UInt8) : List UInt8 := putLen b.length ++ b

def getField (b : List UInt8) : Option (List UInt8 × List UInt8) :=
  (getLen b).bind fun (n, rest) => splitFirst n rest

@[simp] theorem length_putField (b : List UInt8) : (putField b).length = 4 + b.length := by
  simp [putField, putLen]; omega

theorem getField_putField {b : List UInt8} (h : b.length < 2 ^ 32) (rest : List UInt8) :
    getField (putField b ++ rest) = some (b, rest) := by
  unfold getField putField
  rw [List.append_assoc, getLen_putLen h]
  exact splitFirst_append b rest

/-- Overwrite the front of `out` with `b`, and say how much was written. Nothing
happens when it does not fit. -/
def writeFront (b out : List UInt8) : { o : List UInt8 // o.length = out.length } × Option Nat :=
  if h : b.length ≤ out.length then (⟨b ++ out.drop b.length, by simp; omega⟩, some b.length) else (⟨out, rfl⟩, none)

theorem writeFront_fits {b out : List UInt8} {n : Nat} (hn : b.length = n) (h : n ≤ out.length) :
    (writeFront b out).2 = some n ∧ (writeFront b out).1.val.take n = b := by
  subst hn
  simp [writeFront, h]

end ProgLib
