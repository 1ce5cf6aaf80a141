import OpenAddressing.Table.Reorganize

/-!
# Insertion

An insertion first makes room if the table is crowded, then looks for an equal
item.  If there is none, it stores a copy at the first slot on the path that
holds no item.  A path without such a slot forces the table to grow.  The caller
is lent the stored item, and the table stays on the roster until the loan ends.
-/

namespace OpenAddressing

/-- A stored item on loan.  Its table is on the roster until the loan ends. -/
structure Loan (α : Type) where
  /-- The table that the item is stored in. -/
  identity : Nat
  /-- The slot of the item. -/
  index : Nat
  /-- The stored item. -/
  item : α

namespace Loan

variable {σ α : Type}

/-- Ends the loan: the table leaves the roster. -/
def finish (loan : Loan α) : Call σ Unit := fun thread =>
  .ok () { thread with roster := thread.roster.leave loan.identity }

end Loan

namespace Table

variable {σ ι α : Type}

/-- Lends the item of a slot. -/
def lend (index : Nat) : Action σ α (Loan α) := do
  let item ← storedAt index
  let identity ← Action.inspect identity
  pure { identity, index, item }

/-- Reorganizes, and raises the flags of a failure. -/
def makeRoom (behaviour : Behaviour σ ι α) (grow : Bool) :
    Action σ α (Except Failure Unit) := do
  match ← reorganize behaviour grow with
  | .ok () => pure (.ok ())
  | .error failure =>
    Action.flag (failure.flags ∪ Failure.tableFull.flags)
    pure (.error failure)

/-- Makes room if the table is crowded. -/
def relieve (behaviour : Behaviour σ ι α) : Action σ α (Except Failure Unit) := do
  if ← Action.inspect isCrowded then
    makeRoom behaviour false
  else
    pure (.ok ())

/-- Finds the item or a slot for it, if need be after growing once. -/
def seek (behaviour : Behaviour σ ι α) (item : ι) :
    Action σ α (Except Failure Probe.Outcome) := do
  match ← locate behaviour .insert item with
  | .found index => pure (.ok (.found index))
  | .vacant index => pure (.ok (.vacant index))
  | .missing =>
    match ← makeRoom behaviour true with
    | .error failure => pure (.error failure)
    | .ok () => .ok <$> locate behaviour .insert item

/-- Puts a copy into a slot that holds no item, and keeps the counts. -/
def occupy (index : Nat) (copy : α) : Action σ α Unit := do
  let table ← Action.inspect id
  match table.slots[index]? with
  | none => throw (.fault .slotOutOfRange)
  | some slot =>
    if slot.isTombstone then
      if table.tombstones = 0 then
        throw (.fault .countUnderflow)
      else
        Action.alter fun table => { table with tombstones := table.tombstones - 1 }
    else
      Action.alter fun table => { table with entries := table.entries + 1 }
    Action.alter fun table =>
      { table with slots := table.slots.setIfInBounds index (.occupied copy) }
    Action.trace fun table => .inserted index table.entries

/-- Stores a copy of an item in a slot that holds none. -/
def store (behaviour : Behaviour σ ι α) (item : ι) (index : Nat) :
    Action σ α (Except Failure (Loan α)) := do
  match ← Action.call (behaviour.duplicate item) with
  | none =>
    Action.flag Failure.outOfMemory.flags
    pure (.error .outOfMemory)
  | some copy =>
    occupy index copy
    .ok <$> lend index

/-- Stores a copy of an item unless an equal one is stored, and lends the stored
one. -/
def insert (behaviour : Behaviour σ ι α) (item : ι) : Action σ α (Except Failure (Loan α)) :=
  Action.entered Except.isOk do
    match ← relieve behaviour with
    | .error failure => pure (.error failure)
    | .ok () =>
      match ← seek behaviour item with
      | .error failure => pure (.error failure)
      | .ok (.found index) => .ok <$> lend index
      | .ok (.vacant index) => store behaviour item index
      | .ok .missing =>
        Action.flag Failure.tableFull.flags
        pure (.error .tableFull)

end Table
end OpenAddressing
