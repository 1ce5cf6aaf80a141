import OpenAddressing.Slot
import OpenAddressing.Thread

/-!
# The behaviour of items

A table knows nothing of its items.  A behaviour says how an item is hashed, how
two items are compared, how the copy that a table keeps is made and disposed of,
and whether there is memory for an array.  Each of these functions is foreign
code.  Items are of one type and stored copies of another; every stored copy has
an item as its key.
-/

namespace OpenAddressing

/-- How a table treats its items. -/
structure Behaviour (σ ι α : Type) where
  /-- The item that a stored copy stands for. -/
  key : α → ι
  /-- The primary hash, which picks the first slot of a path. -/
  hash : ι → Call σ UInt64
  /-- The secondary hash, which picks the stride of a path. -/
  rehash : ι → Call σ UInt64
  /-- Compares a stored item with another one.  Only equality matters. -/
  compare : ι → ι → Call σ Ordering
  /-- Makes the copy that the table keeps, unless there is no memory for it. -/
  duplicate : ι → Call σ (Option α)
  /-- Disposes of a copy that the table no longer needs. -/
  release : α → Call σ Unit
  /-- The memory that a copy holds beside its slot. -/
  heapBytes : α → Call σ Nat
  /-- The size of a slot. -/
  slotBytes : Nat
  /-- A slot tells three states apart, so it takes at least a byte. -/
  slotBytes_pos : 0 < slotBytes := by decide
  /-- Whether the host grants an array of the given number of bytes. -/
  reserve : Nat → σ → Bool × σ

namespace Behaviour

variable {σ ι α : Type}

/-- Asks for an array of empty slots.  The host is not asked for an array that
could not be addressed. -/
def slots (behaviour : Behaviour σ ι α) (count : Nat) (host : σ) :
    Option (Array (Slot α)) × σ :=
  if Slot.addressable behaviour.slotBytes count then
    let (granted, host) := behaviour.reserve (count * behaviour.slotBytes) host
    (if granted then some (Slot.row α count) else none, host)
  else
    (none, host)

/-- Asks for a list of pairs of slot numbers.  An empty list needs no memory. -/
def moveLog (behaviour : Behaviour σ ι α) (count : Nat) (host : σ) : Bool × σ :=
  if count = 0 then
    (true, host)
  else if Slot.addressable 16 count then
    behaviour.reserve (count * 16) host
  else
    (false, host)

end Behaviour
end OpenAddressing
