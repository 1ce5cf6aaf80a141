/-!
# Events

A table reports what it does as events.  Reorganizations are always reported;
single operations and the teardown only if the settings ask for it.
-/

namespace OpenAddressing

/-- Something that a table reports. -/
inductive Event where
  /-- An item was stored, which leaves a number of slots in use. -/
  | inserted (slot entries : Nat)
  /-- An item was removed, which leaves a number of tombstones. -/
  | removed (slot tombstones : Nat)
  /-- The table was torn down and its items were released. -/
  | tornDown (released : Nat)
  /-- The items were moved to a new array. -/
  | reorganized (oldCapacity capacity moved : Nat) (reclaim : Bool)
  /-- No larger capacity is allowed. -/
  | ladderExhausted (capacity : Nat)
  /-- There is no memory for an array of the wanted capacity. -/
  | allocationFailed (capacity : Nat)
  /-- Fewer items were moved than expected, and all were moved back. -/
  | rolledBack (capacity expected moved : Nat)
deriving DecidableEq

namespace Event

/-- The weight of an event. -/
inductive Level where
  /-- Single operations. -/
  | trace
  /-- Reorganizations. -/
  | debug
  /-- Reorganizations that failed. -/
  | warning
deriving DecidableEq

/-- The word for a weight. -/
def Level.name : Level → String
  | trace => "TRACE"
  | debug => "DEBUG"
  | warning => "WARN"

/-- The weight of an event. -/
def level : Event → Level
  | inserted _ _ => .trace
  | removed _ _ => .trace
  | tornDown _ => .trace
  | reorganized _ _ _ _ => .debug
  | ladderExhausted _ => .warning
  | allocationFailed _ => .warning
  | rolledBack _ _ _ => .warning

/-- The message of an event. -/
def message : Event → String
  | inserted _ _ => "insert"
  | removed _ _ => "remove"
  | tornDown _ => "teardown"
  | reorganized _ _ _ _ => "reorganized"
  | ladderExhausted _ => "capacity ladder exhausted"
  | allocationFailed _ => "slot array allocation failed"
  | rolledBack _ _ _ => "reorganization failed consistency check; rolled back"

/-- One particular of an event. -/
inductive Detail where
  /-- A count or a slot number. -/
  | number (value : Nat)
  /-- A yes or a no. -/
  | truth (value : Bool)
deriving DecidableEq

/-- The particulars of an event with their names. -/
def details : Event → List (String × Detail)
  | inserted slot entries => [("slot", .number slot), ("entries", .number entries)]
  | removed slot tombstones => [("slot", .number slot), ("tombstones", .number tombstones)]
  | tornDown released => [("released", .number released)]
  | reorganized oldCapacity capacity moved reclaim =>
    [("old_capacity", .number oldCapacity), ("capacity", .number capacity),
      ("moved", .number moved), ("reclaim", .truth reclaim)]
  | ladderExhausted capacity => [("capacity", .number capacity)]
  | allocationFailed capacity => [("capacity", .number capacity)]
  | rolledBack capacity expected moved =>
    [("capacity", .number capacity), ("expected", .number expected), ("moved", .number moved)]

end Event
end OpenAddressing
