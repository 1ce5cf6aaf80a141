import OpenAddressing.Behaviour.Basic
import OpenAddressing.Probe.Tally
import OpenAddressing.Settings

/-!
# Tables

A table is an array of slots with counts that agree with it, a set of failure
flags, and a tally of its searches.  It is made without items.
-/

namespace OpenAddressing

/-- An open-addressing hash table. -/
structure Table (α : Type) where
  /-- The name under which the table appears on a roster. -/
  identity : Nat
  /-- The choices made when the table was created. -/
  settings : Settings
  /-- The slots. -/
  slots : Array (Slot α)
  /-- The slots that are not empty, tombstones included. -/
  entries : Nat := 0
  /-- The tombstones. -/
  tombstones : Nat := 0
  /-- The failures met since the flags were last cleared. -/
  flags : Flags := .none
  /-- The probes and misses since the table was created. -/
  tally : Probe.Tally := {}

namespace Table

variable {σ ι α : Type}

/-- The number of slots. -/
def capacity (table : Table α) : Nat :=
  table.slots.size

/-- The stored items in the order of their slots. -/
def items (table : Table α) : List α :=
  table.slots.toList.filterMap Slot.item?

/-- Whether room has to be made before the next item is stored. -/
def isCrowded (table : Table α) : Bool :=
  Ladder.threshold table.capacity ≤ table.entries

/-- Makes a table without items.  The settings are checked before memory is
asked for. -/
def create (behaviour : Behaviour σ ι α) (settings : Settings) (identity : Nat)
    (host : σ) : Except Failure (Table α) × σ :=
  match settings.validate with
  | .error failure => (.error failure, host)
  | .ok () =>
    match behaviour.slots settings.initialCapacity host with
    | (none, host) => (.error .outOfMemory, host)
    | (some slots, host) => (.ok { identity, settings, slots }, host)

end Table

end OpenAddressing
