import OpenAddressing.Probe.Search

/-!
# Trails

A trail is the record of one search among slots whose sightings are known
beforehand.
-/

namespace OpenAddressing
namespace Probe

/-- The slots visited by a search, the latest first, and how often the secondary
hash was asked for. -/
structure Trail where
  /-- The slots in the order of the visits, the latest first. -/
  visited : List Nat := []
  /-- The number of times the secondary hash was computed. -/
  rehashed : Nat := 0

namespace Trail

/-- A terrain with fixed sightings that records its use. -/
def terrain (sightings : Array Sighting) (rehash : UInt64) : Terrain Trail where
  capacity := sightings.size
  rehash := fun trail => .ok rehash { trail with rehashed := trail.rehashed + 1 }
  visit := fun index trail =>
    match sightings[index]? with
    | some sighting => .ok sighting { trail with visited := index :: trail.visited }
    | none => .error (.fault .slotOutOfRange) trail

/-- Searches among fixed sightings and reports the outcome with the tally and
the trail of the search. -/
def survey (sightings : Array Sighting) (purpose : Purpose) (hash rehash : UInt64) :
    Except Abort (Outcome × Tally × Trail) :=
  match (terrain sightings rehash).search purpose hash ({}, {}) with
  | .ok outcome (tally, trail) =>
    .ok (outcome, tally, { trail with visited := trail.visited.reverse })
  | .error abort _ => .error abort

end Trail

end Probe
end OpenAddressing
