import OpenAddressing.Probe.Search
import OpenAddressing.Table.Action

/-!
# Locating items

An item is located by a search along its path.  The hash of the item is asked
for first; stored copies are compared with the item through their keys.
-/

namespace OpenAddressing
namespace Table

variable {σ ι α : Type}

/-- The slots as a search for an item sees them. -/
def terrain (behaviour : Behaviour σ ι α) (item : ι) (slots : Array (Slot α)) :
    Probe.Terrain (Thread σ) where
  capacity := slots.size
  rehash := behaviour.rehash item
  visit := fun index =>
    match slots[index]? with
    | some slot => slot.sight fun stored => behaviour.compare (behaviour.key stored) item
    | none => throw (.fault .slotOutOfRange)

/-- The item stored in a slot, which has to hold one. -/
def storedAt (index : Nat) : Action σ α α := do
  let slots ← Action.inspect slots
  match slots[index]? with
  | none => throw (.fault .slotOutOfRange)
  | some slot =>
    match slot.item? with
    | none => throw (.fault .slotVacated)
    | some item => pure item

/-- Finds the slot of an item, or a slot for it. -/
def locate (behaviour : Behaviour σ ι α) (purpose : Probe.Purpose) (item : ι) :
    Action σ α Probe.Outcome := do
  let hash ← Action.call (behaviour.hash item)
  Action.searching fun slots => (terrain behaviour item slots).search purpose hash

end Table
end OpenAddressing
