import OpenAddressing.Table.Action

/-!
# Statistics

The counts of a table, read at one moment, and the other questions that a table
answers about itself.
-/

namespace OpenAddressing

/-- The counts of a table at one moment. -/
structure Statistics where
  /-- The slots looked at by searches. -/
  probes : UInt64 := 0
  /-- The strides taken by searches. -/
  misses : UInt64 := 0
  /-- The slots that are not empty. -/
  entries : Nat := 0
  /-- The stored items. -/
  liveEntries : Nat := 0
  /-- The tombstones. -/
  tombstones : Nat := 0
  /-- The slots. -/
  capacity : Nat := 0
  /-- The failures met. -/
  flags : Flags := .none
  /-- The version of this record. -/
  version : Nat := 0
deriving DecidableEq

namespace Statistics

/-- The version that tables write into their statistics. -/
def currentVersion : Nat := 1

end Statistics

namespace Table

variable {σ ι α : Type}

/-- The counts at this moment. -/
def statistics : Action σ α Statistics :=
  Action.guarded do
    let table ← Action.inspect id
    let live ← Action.live
    pure {
      probes := table.tally.probes
      misses := table.tally.misses
      entries := table.entries
      liveEntries := live
      tombstones := table.tombstones
      capacity := table.capacity
      flags := table.flags
      version := Statistics.currentVersion }

/-- The number of stored items. -/
def length : Action σ α Nat :=
  Action.guarded Action.live

/-- Whether no item is stored. -/
def isEmpty : Action σ α Bool := do
  let length ← length
  pure (length == 0)

/-- The number of slots. -/
def slotCount : Action σ α Nat :=
  Action.guarded (Action.inspect capacity)

/-- The failures met since the flags were last cleared; the flags are cleared. -/
def clearFlags : Action σ α Flags :=
  Action.guarded do
    let table ← Action.inspect id
    Action.alter fun table => { table with flags := .none }
    pure table.flags

/-- The sum of the memory that items hold beside their slots. -/
def heapBytes (behaviour : Behaviour σ ι α) (items : List α) : Call σ Nat :=
  items.foldlM (fun total item => do
    let bytes ← behaviour.heapBytes item
    pure (total + bytes)) 0

/-- The memory used by the slots and the items. -/
def footprint (behaviour : Behaviour σ ι α) : Action σ α Nat :=
  Action.guarded do
    let table ← Action.inspect id
    let held ← Action.call (heapBytes behaviour table.items)
    pure (table.capacity * behaviour.slotBytes + held)

end Table
end OpenAddressing
