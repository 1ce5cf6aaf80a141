import OpenAddressing.Table.Locate

/-!
# Removal

A removed item leaves a tombstone, so that the paths through its slot stay
whole.  The counts are brought up to date before the copy is released, since the
release is foreign code that may be cut short.  A teardown releases every copy.
-/

namespace OpenAddressing
namespace Table

variable {σ ι α : Type}

/-- Turns a slot into a tombstone and counts it. -/
def bury (index : Nat) : Action σ α Unit :=
  Action.alter fun table => { table with
    slots := table.slots.setIfInBounds index .tombstone
    tombstones := table.tombstones + 1 }

/-- Makes a slot empty. -/
def clear (index : Nat) : Action σ α Unit :=
  Action.alter fun table => { table with
    slots := table.slots.setIfInBounds index .empty }

/-- Removes the stored item that equals the given one and releases the copy.  The
answer is the item of the caller. -/
def remove (behaviour : Behaviour σ ι α) (item : ι) : Action σ α (Option ι) :=
  Action.guarded do
    match ← locate behaviour .lookup item with
    | .vacant _ => pure none
    | .missing => pure none
    | .found index =>
      let stored ← storedAt index
      bury index
      Action.trace fun table => .removed index table.tombstones
      Action.call (behaviour.release stored)
      pure (some item)

/-- Removes the item of a slot if it is not to be kept.  The answer is the number
of items removed. -/
def retainAt (behaviour : Behaviour σ ι α) (keep : α → Call σ Bool) (index : Nat) :
    Action σ α Nat := do
  let slots ← Action.inspect slots
  match slots[index]? with
  | none => throw (.fault .slotOutOfRange)
  | some slot =>
    match slot.item? with
    | none => pure 0
    | some stored =>
      if ← Action.call (keep stored) then
        pure 0
      else
        bury index
        Action.call (behaviour.release stored)
        pure 1

/-- Removes the items that are not to be kept, in the order of their slots, and
counts them. -/
def retain (behaviour : Behaviour σ ι α) (keep : α → Call σ Bool) : Action σ α Nat :=
  Action.guarded do
    let capacity ← Action.inspect capacity
    (List.range capacity).foldlM (fun removed index => do
      let more ← retainAt behaviour keep index
      pure (removed + more)) 0

/-- Empties a slot and releases its copy.  The answer is the number of copies
released. -/
def discardAt (behaviour : Behaviour σ ι α) (index : Nat) : Action σ α Nat := do
  let slots ← Action.inspect slots
  match slots[index]? with
  | none => throw (.fault .slotOutOfRange)
  | some slot =>
    match slot.item? with
    | none =>
      clear index
      pure 0
    | some stored =>
      clear index
      Action.call (behaviour.release stored)
      pure 1

/-- Releases every copy at the end of a table.  The table is no longer in
anyone's hands, so the roster is not asked. -/
def tearDown (behaviour : Behaviour σ ι α) : Action σ α Unit := do
  let capacity ← Action.inspect capacity
  let released ← (List.range capacity).foldlM (fun released index => do
    let more ← discardAt behaviour index
    pure (released + more)) 0
  Action.trace fun _ => .tornDown released

end Table
end OpenAddressing
