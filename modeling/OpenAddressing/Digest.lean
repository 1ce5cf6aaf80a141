/-!
# Digests of byte strings

Two digests that are independent enough to serve as the first position and the
stride of a probe.  The first folds the bytes with a multiplication by 31, the
second mixes every byte into every bit of a 32-bit state.
-/

namespace OpenAddressing
namespace Digest

/-- One round of the multiplicative digest. -/
def multiplicativeRound (state : UInt64) (byte : UInt8) : UInt64 :=
  state * 31 + byte.toUInt64

/-- Horner's rule at 31, modulo the word size. -/
def multiplicative (bytes : List UInt8) : UInt64 :=
  bytes.foldl multiplicativeRound 0

/-- One round of the avalanche digest. -/
def avalancheRound (state : UInt32) (byte : UInt8) : UInt32 :=
  let added := state + byte.toUInt32
  let spread := added + added <<< 10
  spread ^^^ spread >>> 6

/-- The last mixing of the avalanche digest. -/
def avalancheFinish (state : UInt32) : UInt32 :=
  let spread := state + state <<< 3
  let folded := spread ^^^ spread >>> 11
  folded + folded <<< 15

/-- Every bit of the bytes may change every bit of the result. -/
def avalanche (bytes : List UInt8) : UInt64 :=
  (avalancheFinish (bytes.foldl avalancheRound 0)).toUInt64

@[simp] theorem multiplicative_nil : multiplicative [] = 0 := rfl

theorem multiplicative_append (front back : List UInt8) :
    multiplicative (front ++ back) = back.foldl multiplicativeRound (multiplicative front) := by
  simp [multiplicative]

/-- The bytes that stand for a text. -/
def bytesOf (text : String) : List UInt8 :=
  text.toUTF8.toList

end Digest
end OpenAddressing
