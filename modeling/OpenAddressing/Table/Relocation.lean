import OpenAddressing.Table.Locate

/-!
# Relocation

The items of one array are moved to the places that they find in another.  Every
move is written down, so that all of them can be undone, the latest first.  The
foreign code that is asked for hashes and comparisons may cut a relocation short
at any item; what was moved until then is still written down.
-/

namespace OpenAddressing

/-- Items on their way from one array to another. -/
structure Relocation (σ α : Type) where
  /-- The array that the items come from. -/
  source : Array (Slot α)
  /-- The array that the items go to. -/
  target : Array (Slot α)
  /-- The slots that items left and took, the latest move first. -/
  moves : List (Nat × Nat) := []
  /-- How many more moves can be written down. -/
  room : Nat
  /-- The tally of the table. -/
  tally : Probe.Tally
  /-- The thread that runs the foreign code. -/
  thread : Thread σ

namespace Relocation

variable {σ ι α β : Type}

/-- A step of a relocation. -/
abbrev Step (σ α β : Type) := EStateM Abort (Relocation σ α) β

/-- Runs foreign code. -/
def call (foreign : Call σ β) : Step σ α β := fun relocation =>
  match foreign relocation.thread with
  | .ok value thread => .ok value { relocation with thread }
  | .error abort thread => .error abort { relocation with thread }

/-- Runs a search on the array that the items go to, and counts it. -/
def searching (search : Array (Slot α) → Probe.Counting (Thread σ) β) : Step σ α β :=
  fun relocation =>
    match search relocation.target (relocation.tally, relocation.thread) with
    | .ok value (tally, thread) => .ok value { relocation with tally, thread }
    | .error abort (tally, thread) => .error abort { relocation with tally, thread }

/-- Moves an item and writes the move down. -/
def move (item : α) (origin destination : Nat) : Step σ α Unit := fun relocation =>
  if relocation.target.size ≤ destination then
    .error (.fault .slotOutOfRange) relocation
  else
    match relocation.room with
    | 0 => .error (.fault .moveLogOverflow) relocation
    | room + 1 =>
      .ok () { relocation with
        source := relocation.source.setIfInBounds origin .empty
        target := relocation.target.setIfInBounds destination (.occupied item)
        moves := (origin, destination) :: relocation.moves
        room }

/-- The slot with the given number; beyond the array there is nothing. -/
def slotAt (slots : Array (Slot α)) (index : Nat) : Slot α :=
  slots[index]?.getD .empty

/-- Undoes one move. -/
def undo (relocation : Relocation σ α) (origin destination : Nat) : Relocation σ α :=
  { relocation with
    source := relocation.source.setIfInBounds origin (slotAt relocation.target destination)
    target := relocation.target.setIfInBounds destination .empty }

/-- Undoes all moves, the latest first. -/
def rollBack (relocation : Relocation σ α) : Relocation σ α :=
  relocation.moves.foldl (fun relocation (origin, destination) =>
    relocation.undo origin destination) relocation

/-- Moves the item of one slot, if there is one, to the place that it finds.  It
stays if it finds no place. -/
def place (behaviour : Behaviour σ ι α) (origin : Nat) : Step σ α Unit := do
  let relocation ← get
  match slotAt relocation.source origin with
  | .empty => pure ()
  | .tombstone => pure ()
  | .occupied item =>
    let hash ← call (behaviour.hash (behaviour.key item))
    let outcome ← searching fun slots =>
      (Table.terrain behaviour (behaviour.key item) slots).search .insert hash
    match outcome with
    | .found _ => pure ()
    | .missing => pure ()
    | .vacant destination => move item origin destination

/-- Moves every item, in the order of the slots. -/
def placeAll (behaviour : Behaviour σ ι α) : Step σ α Unit := do
  let relocation ← get
  (List.range relocation.source.size).forM (place behaviour)

end Relocation
end OpenAddressing
