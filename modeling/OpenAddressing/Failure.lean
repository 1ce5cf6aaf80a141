import OpenAddressing.Flags
import OpenAddressing.Ladder

/-!
# Failures of an operation

An operation that cannot do its work says why.  The table is left valid, and
the flag that belongs to the failure stays set until it is cleared.
-/

namespace OpenAddressing

/-- Why an operation could not do its work. -/
inductive Failure where
  /-- A copy of the item or an array could not be allocated. -/
  | outOfMemory
  /-- No room could be made for the item. -/
  | tableFull
  /-- A reorganization lost sight of an item and was undone. -/
  | interrupted
  /-- A table was requested with too small a first array. -/
  | invalidCapacity (capacity : Nat)
deriving DecidableEq

namespace Failure

/-- The sentence that tells a caller about the failure. -/
def message : Failure → String
  | outOfMemory => "out of memory"
  | tableFull => "table full"
  | interrupted => "reorganization interrupted; table restored to its previous state"
  | invalidCapacity capacity =>
    s!"initial capacity {capacity} is below the minimum of {Ladder.minimumCapacity}"

/-- The word for the kind of failure. -/
def kind : Failure → String
  | outOfMemory => "OutOfMemory"
  | tableFull => "TableFull"
  | interrupted => "Interrupted"
  | invalidCapacity _ => "InvalidCapacity"

/-- The kind of failure together with its particulars. -/
def describe : Failure → String
  | invalidCapacity capacity => s!"InvalidCapacity({capacity})"
  | failure => failure.kind

/-- The flag that the failure leaves behind.  A table that was never made has
none. -/
def flags : Failure → Flags
  | outOfMemory => { outOfMemory := true }
  | tableFull => { tableFull := true }
  | interrupted => { interrupted := true }
  | invalidCapacity _ => .none

end Failure
end OpenAddressing
