import OpenAddressing.Probe.Course
import OpenAddressing.Probe.Path
import OpenAddressing.Probe.Tally

/-!
# Searching along a path

A search looks at the slots of a path until it meets an empty slot or an equal
item, and at most as often as there are slots.  The secondary hash is asked for
once, at the first collision.
-/

namespace OpenAddressing
namespace Probe

/-- What a search needs to know of the item and the array. -/
structure Terrain (τ : Type) where
  /-- The number of slots. -/
  capacity : Nat
  /-- The secondary hash of the item. -/
  rehash : EStateM Abort τ UInt64
  /-- Classifies the slot with the given number. -/
  visit : Nat → EStateM Abort τ Sighting

namespace Terrain

variable {τ : Type}

/-- The stride of a course, which is worked out at the first collision. -/
def strideOf (terrain : Terrain τ) (course : Course) : Counting τ Nat :=
  match course.stride with
  | some stride => pure stride
  | none => do
    let rehash ← Counting.lift terrain.rehash
    pure (Probe.stride terrain.capacity rehash)

/-- Moves on by one stride. -/
def advance (terrain : Terrain τ) (course : Course) : Counting τ Course := do
  let stride ← terrain.strideOf course
  Counting.count .miss
  if course.index + stride < UInt64.size then
    pure { course with
      index := next terrain.capacity stride course.index
      stride := some stride }
  else
    throw (.fault .positionOverflow)

/-- Looks at the slot under the course. -/
def look (terrain : Terrain τ) (course : Course) : Counting τ Sighting := do
  Counting.count .probe
  Counting.lift (terrain.visit course.index)

/-- Follows a course while slots remain to be looked at. -/
def follow (terrain : Terrain τ) (purpose : Purpose) :
    (remaining : Nat) → Course → Counting τ Outcome
  | 0, course => pure course.exhaust
  | remaining + 1, course => do
    match ← terrain.look course with
    | .empty => pure (course.settle purpose)
    | .equal => pure (.found course.index)
    | sighting =>
      let course := course.note purpose sighting
      if remaining = 0 then
        pure course.exhaust
      else
        let course ← terrain.advance course
        terrain.follow purpose remaining course

/-- Searches from the slot of a primary hash.  Without slots there is nothing to
find and nothing to count. -/
def search (terrain : Terrain τ) (purpose : Purpose) (hash : UInt64) : Counting τ Outcome :=
  terrain.follow purpose terrain.capacity { index := home terrain.capacity hash }

end Terrain

end Probe
end OpenAddressing
