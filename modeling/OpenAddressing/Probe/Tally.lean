import OpenAddressing.Abort

/-!
# Tallies

A tally counts the slots that searches look at and the strides they take, in
machine words that wrap around.  It keeps its count when a search is cut short.
-/

namespace OpenAddressing
namespace Probe

/-- How often slots were looked at and strides were taken, in machine words. -/
@[ext] structure Tally where
  /-- The slots looked at. -/
  probes : UInt64 := 0
  /-- The strides taken from one slot to the next. -/
  misses : UInt64 := 0
deriving DecidableEq

namespace Tally

/-- Counts one more slot. -/
def probe (tally : Tally) : Tally :=
  { tally with probes := tally.probes + 1 }

/-- Counts one more stride. -/
def miss (tally : Tally) : Tally :=
  { tally with misses := tally.misses + 1 }

end Tally

/-- A computation that may be cut short, beside a tally. -/
abbrev Counting (τ β : Type) := EStateM Abort (Tally × τ) β

namespace Counting

variable {τ β : Type}

/-- Runs a computation that leaves the tally alone. -/
def lift (computation : EStateM Abort τ β) : Counting τ β := fun (tally, rest) =>
  match computation rest with
  | .ok value rest => .ok value (tally, rest)
  | .error abort rest => .error abort (tally, rest)

/-- Changes the tally alone. -/
def count (change : Tally → Tally) : Counting τ Unit := fun (tally, rest) =>
  .ok () (change tally, rest)

end Counting

end Probe
end OpenAddressing
