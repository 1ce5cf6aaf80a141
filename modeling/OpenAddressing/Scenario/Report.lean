import OpenAddressing.Table.Statistics

/-!
# Reports of a scenario

Every step of a scenario is reported: its result or the abort that cut it short,
the statistics of the table afterwards, and what happened on the way.
-/

namespace OpenAddressing
namespace Scenario

/-- The foreign functions that describe items. -/
inductive Callback where
  /-- The primary hash. -/
  | hash
  /-- The secondary hash. -/
  | rehash
  /-- The comparison. -/
  | compare
  /-- The copy. -/
  | duplicate
  /-- The disposal. -/
  | release
  /-- The memory beside the slot. -/
  | heapSize
deriving DecidableEq

/-- The word for a foreign function. -/
def Callback.name : Callback → String
  | hash => "hash"
  | rehash => "rehash"
  | compare => "compare"
  | duplicate => "duplicate"
  | release => "release"
  | heapSize => "heap_size"

/-- One call of a foreign function. -/
structure CallRecord (ι : Type) where
  /-- The function. -/
  callback : Callback
  /-- Its items. -/
  items : List ι

/-- The result of a step. -/
inductive Result (ι ρ : Type) where
  /-- There is nothing to tell. -/
  | nothing
  /-- An item. -/
  | item (item : ι)
  /-- An item, and the reports of the steps made while it was on loan. -/
  | lent (item : ι) (inside : List ρ)
  /-- The operation could not do its work. -/
  | failed (failure : Failure)
  /-- A yes or a no. -/
  | truth (value : Bool)
  /-- A number. -/
  | number (value : Nat)
  /-- A text. -/
  | text (value : String)
  /-- Failure flags. -/
  | flags (value : Flags)
  /-- Settings. -/
  | settings (value : Settings)
  /-- How many items a retention removed, which items it saw, and the reports of
  the steps made on its first item. -/
  | retained (removed : Nat) (seen : List ι) (inside : Option (List ρ))
  /-- Which items a walk saw, where it stopped, and the reports of the steps made
  on its first item. -/
  | walked (seen : List ι) (stopped : Option ι) (inside : Option (List ρ))
  /-- How many items of a range were stored, and the first failure with the
  number at which it happened. -/
  | filled (stored : Nat) (failure : Option (Nat × Failure))

/-- What is told of one step. -/
structure Report (ι : Type) where
  /-- The result, or the text of the abort that cut the step short. -/
  ending : Except String (Result ι (Report ι))
  /-- The statistics after the step, unless the table refused to tell them. -/
  statistics : Option Statistics
  /-- The events during the step. -/
  events : List Event
  /-- The calls of foreign functions during the step, if they are recorded. -/
  calls : List (CallRecord ι)
  /-- The items released during the step, if they are recorded. -/
  released : List ι

/-- What is told of the teardown of the table. -/
structure Closing (ι : Type) where
  /-- The text of the abort that cut the teardown short. -/
  abort : Option String
  /-- The events of the teardown. -/
  events : List Event
  /-- The calls of foreign functions, if they are recorded. -/
  calls : List (CallRecord ι)
  /-- The items released, if they are recorded. -/
  released : List ι

end Scenario
end OpenAddressing
