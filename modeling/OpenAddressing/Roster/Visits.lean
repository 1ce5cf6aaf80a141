import OpenAddressing.Abort
import OpenAddressing.Roster

/-!
# Entering and leaving by hand

Visitors enter tables and keep a pass for each until they give it back, in any
order.  A table admits a visitor only while no pass for it is out.
-/

namespace OpenAddressing

/-- The roster beside the passes that are out. -/
structure Visits where
  /-- The roster. -/
  roster : Roster := {}
  /-- The tables for which a pass is out, the latest first. -/
  passes : List Nat := []

namespace Visits

/-- Something that a visitor does. -/
inductive Move where
  /-- Enters a table and takes a pass. -/
  | enter (identity : Nat)
  /-- Gives back the pass of a table. -/
  | exit (identity : Nat)

/-- How a move turns out. -/
inductive Reply where
  /-- The pass was handed out. -/
  | entered
  /-- The pass was given back. -/
  | left
  /-- There was no pass to give back. -/
  | notHeld
  /-- The visitor was refused. -/
  | refused (abort : Abort)
deriving DecidableEq

/-- Makes a move. -/
def step (visits : Visits) : Move → Reply × Visits
  | .enter identity =>
    match visits.roster.enter? identity with
    | none => (.refused .reentered, visits)
    | some roster => (.entered, { roster, passes := identity :: visits.passes })
  | .exit identity =>
    if identity ∈ visits.passes then
      (.left, {
        roster := visits.roster.leave identity
        passes := visits.passes.erase identity })
    else
      (.notHeld, visits)

/-- The replies to a list of moves, and where they lead. -/
def run (visits : Visits) : List Move → List Reply × Visits
  | [] => ([], visits)
  | move :: rest =>
    let (reply, visits) := visits.step move
    let (replies, visits) := visits.run rest
    (reply :: replies, visits)

end Visits
end OpenAddressing
