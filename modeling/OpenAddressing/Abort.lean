/-!
# Aborted operations

An operation that calls foreign code may be cut short.  The foreign code itself
may raise an abort, a nested call on a table that is already being worked on is
refused, and an internal fault would end the operation as well.
-/

namespace OpenAddressing

/-- A broken internal promise. -/
inductive Fault where
  /-- A slot number lies outside its array. -/
  | slotOutOfRange
  /-- The slot of an item just found or stored holds no item. -/
  | slotVacated
  /-- More tombstones are counted than slots in use, or one too few. -/
  | countUnderflow
  /-- The sum of a position and a stride leaves the machine word. -/
  | positionOverflow
  /-- More items are moved than were counted. -/
  | moveLogOverflow
deriving DecidableEq

namespace Fault

/-- The sentence that reports the fault. -/
def message : Fault → String
  | slotOutOfRange => "slot number out of range"
  | slotVacated => "slot vacated while in use"
  | countUnderflow => "count of slots below zero"
  | positionOverflow => "probe position out of range"
  | moveLogOverflow => "more items moved than counted"

end Fault

/-- Why an operation was cut short. -/
inductive Abort where
  /-- Foreign code raised an abort with a text. -/
  | raised (text : String)
  /-- A table was called while the thread was working on it. -/
  | reentered
  /-- A broken internal promise. -/
  | fault (fault : Fault)
deriving DecidableEq

namespace Abort

/-- The text under which the abort is reported. -/
def message : Abort → String
  | raised text => text
  | reentered =>
    "reentrancy detected: table operation called from inside its own callback"
  | fault broken => broken.message

end Abort
end OpenAddressing
