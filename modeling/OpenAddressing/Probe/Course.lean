import OpenAddressing.Slot

/-!
# Courses

A course is the place that a search has reached on its path, together with what
it remembers: the stride, and the first tombstone that could take a new item.
-/

namespace OpenAddressing
namespace Probe

/-- What a search is for. -/
inductive Purpose where
  /-- To find an equal item. -/
  | lookup
  /-- To find an equal item or, failing that, a slot for a new one. -/
  | insert
deriving DecidableEq

/-- How a search ends. -/
inductive Outcome where
  /-- An equal item is stored at the slot. -/
  | found (index : Nat)
  /-- No equal item is stored, and a new one belongs at the slot. -/
  | vacant (index : Nat)
  /-- No equal item is stored, and there is no slot for a new one. -/
  | missing
deriving DecidableEq

namespace Outcome

/-- The text of an outcome. -/
def describe : Outcome → String
  | found index => s!"Found({index})"
  | vacant index => s!"Vacant({index})"
  | missing => "Missing"

end Outcome

/-- Where a search stands. -/
structure Course where
  /-- The slot to look at next. -/
  index : Nat
  /-- The stride, once the secondary hash is known. -/
  stride : Option Nat := none
  /-- The first tombstone passed, in a search for the purpose of inserting. -/
  reusable : Option Nat := none

namespace Course

/-- Remembers the slot just seen if a new item could go there. -/
def note (course : Course) (purpose : Purpose) (sighting : Sighting) : Course :=
  match purpose, sighting with
  | .insert, .tombstone =>
    { course with reusable := course.reusable <|> some course.index }
  | _, _ => course

/-- The end of a search at an empty slot. -/
def settle (course : Course) : Purpose → Outcome
  | .lookup => .missing
  | .insert => .vacant (course.reusable.getD course.index)

/-- The end of a search that has run out of slots. -/
def exhaust (course : Course) : Outcome :=
  match course.reusable with
  | some index => .vacant index
  | none => .missing

end Course

end Probe
end OpenAddressing
