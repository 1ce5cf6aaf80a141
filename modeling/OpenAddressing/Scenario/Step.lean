import OpenAddressing.Scenario.Host

/-!
# Steps of a scenario

A step is one operation on the table, a change of the script, or an operation
repeated over a range of items.  Some steps hold further steps, which are made
while an item is on loan or in the hands of a visitor.
-/

namespace OpenAddressing
namespace Scenario

/-- A condition on items. -/
inductive Predicate (ι : Type) where
  /-- Holds of all items or of none. -/
  | always (value : Bool)
  /-- The size leaves a remainder when it is divided. -/
  | residue (divisor remainder : Nat)
  /-- The size is below a bound. -/
  | below (bound : Nat)
  /-- The key is that of one of the items. -/
  | among (items : List ι)

/-- A range of numbers from which items are made. -/
structure Range where
  /-- The first number. -/
  first : Nat
  /-- The number before which the range ends. -/
  past : Nat
  /-- The distance between numbers. -/
  stride : Nat := 1
  /-- The beginning of the keys, if they are texts. -/
  stem : Option String := none
  /-- Whether items carry their number as their value. -/
  valued : Bool := false

/-- The numbers of a range. -/
def Range.numbers (range : Range) : List Nat :=
  let stride := max range.stride 1
  (List.range ((range.past - range.first + stride - 1) / stride)).map fun count =>
    range.first + count * stride

/-- One step of a scenario. -/
inductive Step (ι : Type) where
  /-- Inserts an item, while one of the array allocations may be doomed. -/
  | insert (item : ι) (doomed : Option Nat) (inside : Option (List (Step ι)))
  /-- Finds an item and borrows it. -/
  | find (item : ι) (inside : Option (List (Step ι)))
  /-- Finds an item and hands it to a closure, which may raise an abort. -/
  | findWith (item : ι) (raises : Bool) (inside : Option (List (Step ι)))
  /-- Finds an item and writes it out. -/
  | findOutline (item : ι)
  /-- Asks whether an item is stored. -/
  | contains (item : ι)
  /-- Removes an item. -/
  | remove (item : ι)
  /-- Asks for the number of items. -/
  | length
  /-- Asks whether there are no items. -/
  | isEmpty
  /-- Asks for the number of slots. -/
  | capacity
  /-- Takes and clears the failure flags. -/
  | clearFlags
  /-- Asks for the memory used. -/
  | footprint
  /-- Asks for the settings. -/
  | settings
  /-- Writes the table out, on one line or as a page. -/
  | outline (page : Bool)
  /-- Changes the script. -/
  | adjust (adjustment : Adjustment ι)
  /-- Keeps the items of which a predicate holds.  The predicate may raise an
  abort at an item, counted from one. -/
  | retain (keep : Predicate ι) (raisesAt : Option Nat) (inside : Option (List (Step ι)))
  /-- Visits the items up to one of which a predicate holds.  The visitor may
  raise an abort at an item, counted from one. -/
  | walk (stop : Option (Predicate ι)) (raisesAt : Option Nat)
      (inside : Option (List (Step ι)))
  /-- Inserts the items of a range up to the first failure. -/
  | fill (range : Range)
  /-- Removes the items of a range. -/
  | drain (range : Range)
  /-- Counts the items of a range that are stored. -/
  | count (range : Range)

end Scenario
end OpenAddressing
