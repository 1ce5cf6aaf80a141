import OpenAddressing.Table.Relocation

/-!
# Reorganization

A table makes room by moving its items to a new array, which drops the
tombstones.  The new array has the old capacity when the tombstones outnumber a
quarter of the items, and the next larger one otherwise.  A reorganization that
fails or is cut short leaves the slots and the counts as they were.
-/

namespace OpenAddressing
namespace Table

variable {σ ι α : Type}

/-- Puts the outcome of a relocation into the table.  Unless all of the items
were moved, they are moved back. -/
def conclude (table : Table α) (live : Nat) (reclaim : Bool) (relocation : Relocation σ α)
    (journal : List Event) : EStateM.Result Abort (Session σ α) (Except Failure Unit) :=
  let moved := relocation.moves.length
  if moved = live then
    let event : Event := .reorganized table.capacity relocation.target.size moved reclaim
    .ok (.ok ()) {
      table := { table with
        slots := relocation.target
        entries := moved
        tombstones := 0
        tally := relocation.tally }
      thread := relocation.thread
      journal := event :: journal }
  else
    let event : Event := .rolledBack table.capacity live moved
    .ok (.error .interrupted) {
      table := { table with
        slots := relocation.rollBack.source
        tally := relocation.tally }
      thread := relocation.thread
      journal := event :: journal }

/-- Moves the items to a new array, or leaves them all where they are. -/
def relocate (behaviour : Behaviour σ ι α) (target : Array (Slot α)) (live : Nat)
    (reclaim : Bool) : Action σ α (Except Failure Unit) := fun ⟨table, thread, journal⟩ =>
  let relocation : Relocation σ α := {
    source := table.slots
    target
    room := live
    tally := table.tally
    thread }
  match Relocation.placeAll behaviour relocation with
  | .ok () relocation => conclude table live reclaim relocation journal
  | .error abort relocation =>
    .error abort {
      table := { table with
        slots := relocation.rollBack.source
        tally := relocation.tally }
      thread := relocation.thread
      journal }

/-- Whether the tombstones are worth an array of the same capacity. -/
def reclaims (table : Table α) (live : Nat) (grow : Bool) : Bool :=
  !grow && live / 4 < table.tombstones

/-- The capacity of the new array, if one is allowed. -/
def target? (table : Table α) (reclaim : Bool) : Option Nat :=
  if reclaim then
    some table.capacity
  else
    Ladder.nextWithin? table.settings.maxCapacity table.capacity

/-- Moves the items to a new array.  Growth can be forced. -/
def reorganize (behaviour : Behaviour σ ι α) (grow : Bool) :
    Action σ α (Except Failure Unit) := do
  let table ← Action.inspect id
  let live ← Action.live
  let reclaim := table.reclaims live grow
  match table.target? reclaim with
  | none =>
    Action.report (.ladderExhausted table.capacity)
    pure (.error .tableFull)
  | some capacity =>
    match ← Action.onHost (behaviour.slots capacity) with
    | none =>
      Action.report (.allocationFailed capacity)
      pure (.error .outOfMemory)
    | some target =>
      if ← Action.onHost (behaviour.moveLog live) then
        relocate behaviour target live reclaim
      else
        pure (.error .outOfMemory)

end Table
end OpenAddressing
