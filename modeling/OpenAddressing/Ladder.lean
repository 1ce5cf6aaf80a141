/-!
# The capacity ladder

A table grows through a fixed list of prime capacities, the rungs.  A prime
capacity lets every probe stride reach every slot.  The load threshold is seven
eighths of the capacity, rounded up.
-/

namespace OpenAddressing
namespace Ladder

/-- The capacities that growth may reach, in increasing order. -/
def rungs : List Nat :=
  [251, 509, 1021, 2039, 4093, 8191, 16381, 32749, 65521, 131071, 262139, 524287,
    1048573, 2097143, 4194301, 8388593, 16777213, 33554393, 67108859, 134217689,
    268435399, 536870909, 1073741789, 2147483647]

/-- The capacity of a table made with the default settings. -/
def initialCapacity : Nat := 17

/-- The least capacity that a table may start with. -/
def minimumCapacity : Nat := 8

/-- The first rung above a capacity. -/
def next? (capacity : Nat) : Option Nat :=
  rungs.find? fun rung => capacity < rung

/-- The first rung above a capacity, if it stays within a bound. -/
def nextWithin? (bound capacity : Nat) : Option Nat :=
  (next? capacity).filter fun rung => rung ≤ bound

/-- The number of slots in use at which a table makes room before it inserts. -/
def threshold (capacity : Nat) : Nat :=
  capacity - capacity / 8

theorem lt_of_next? {capacity rung : Nat} (found : next? capacity = some rung) :
    capacity < rung := by
  simpa using List.find?_some found

theorem mem_rungs_of_next? {capacity rung : Nat} (found : next? capacity = some rung) :
    rung ∈ rungs :=
  List.mem_of_find?_eq_some found

theorem threshold_le (capacity : Nat) : threshold capacity ≤ capacity :=
  Nat.sub_le _ _

end Ladder
end OpenAddressing
