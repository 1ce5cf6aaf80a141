/-!
# Slots

A slot array has three kinds of cell.  An empty slot ends a probe, a tombstone
lets the probe pass but may take a new item, and an occupied slot is compared
with the item looked for.  The module also says when an array of slots is small
enough to be addressed at all.
-/

namespace OpenAddressing

/-- One cell of a slot array. -/
inductive Slot (α : Type) where
  /-- Nothing has been stored here since the array was built. -/
  | empty
  /-- The item stored here has been removed. -/
  | tombstone
  /-- A stored item. -/
  | occupied (item : α)

/-- What a probe learns about one slot. -/
inductive Sighting where
  /-- The slot is empty. -/
  | empty
  /-- The slot is a tombstone. -/
  | tombstone
  /-- The slot holds an item equal to the one looked for. -/
  | equal
  /-- The slot holds some other item. -/
  | different
deriving DecidableEq

namespace Sighting

/-- The word for a sighting in reports. -/
def name : Sighting → String
  | empty => "Empty"
  | tombstone => "Tombstone"
  | equal => "Equal"
  | different => "Different"

/-- Sees equality exactly where the comparison says so. -/
def ofOrdering : Ordering → Sighting
  | .eq => equal
  | .lt | .gt => different

end Sighting

namespace Slot

variable {α : Type} {m : Type → Type}

/-- The stored item, if there is one. -/
def item? : Slot α → Option α
  | empty => none
  | tombstone => none
  | occupied item => some item

@[simp] theorem item?_empty : (empty : Slot α).item? = none := rfl

@[simp] theorem item?_tombstone : (tombstone : Slot α).item? = none := rfl

@[simp] theorem item?_occupied (item : α) : (occupied item).item? = some item := rfl

/-- Whether nothing has been stored here since the array was built. -/
def isEmpty : Slot α → Bool
  | empty => true
  | tombstone => false
  | occupied _ => false

/-- Whether the slot is left over from a removed item. -/
def isTombstone : Slot α → Bool
  | empty => false
  | tombstone => true
  | occupied _ => false

/-- Whether the slot holds an item. -/
def isOccupied : Slot α → Bool
  | empty => false
  | tombstone => false
  | occupied _ => true

@[simp] theorem isSome_item? (slot : Slot α) : slot.item?.isSome = slot.isOccupied := by
  cases slot <;> rfl

/-- Classifies the slot for a probe.  Only a stored item is compared. -/
def sight [Monad m] (compare : α → m Ordering) : Slot α → m Sighting
  | empty => pure .empty
  | tombstone => pure .tombstone
  | occupied item => Sighting.ofOrdering <$> compare item

@[simp] theorem sight_empty [Monad m] (compare : α → m Ordering) :
    sight compare empty = pure .empty := rfl

@[simp] theorem sight_tombstone [Monad m] (compare : α → m Ordering) :
    sight compare tombstone = pure .tombstone := rfl

@[simp] theorem sight_occupied [Monad m] (compare : α → m Ordering) (item : α) :
    sight compare (occupied item) = Sighting.ofOrdering <$> compare item := rfl

/-- The text of a slot whose item has the given text. -/
def describe : Slot String → String
  | empty => "Empty"
  | tombstone => "Tombstone"
  | occupied text => "Occupied(" ++ text ++ ")"

/-- The same slot with its item replaced by a function of it. -/
def map {β : Type} (f : α → β) : Slot α → Slot β
  | empty => empty
  | tombstone => tombstone
  | occupied item => occupied (f item)

end Slot

namespace Slot

/-- The most bytes that one array may span. -/
def largestArrayBytes : Nat := UInt64.size / 2 - 1

/-- Whether an array of slots spans few enough bytes to be addressed. -/
def addressable (slotBytes count : Nat) : Bool :=
  count * slotBytes ≤ largestArrayBytes

/-- An array of empty slots. -/
def row (α : Type) (count : Nat) : Array (Slot α) :=
  Array.replicate count .empty

@[simp] theorem size_row (α : Type) (count : Nat) : (row α count).size = count := by
  simp [row]

end Slot
end OpenAddressing
