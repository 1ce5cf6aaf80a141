import OpenAddressing.Behaviour.Basic
import OpenAddressing.Digest

/-!
# Texts as items

Texts are hashed by their bytes with the two digests.  They are compared as
texts, and the copy that a table keeps is the text itself, so nothing can fail
but an array allocation.
-/

namespace OpenAddressing
namespace Behaviour

/-- The behaviour of texts on a host with the given memory. -/
def text {σ : Type} (reserve : Nat → σ → Bool × σ) : Behaviour σ String String where
  key := id
  hash item := pure (Digest.multiplicative (Digest.bytesOf item))
  rehash item := pure (Digest.avalanche (Digest.bytesOf item))
  compare stored item := pure (Ord.compare stored item)
  duplicate item := pure (some item)
  release _ := pure ()
  heapBytes stored := pure stored.utf8ByteSize
  slotBytes := 24
  reserve

end Behaviour
end OpenAddressing
