import OpenAddressing.Proofs.Requests

/-!
# Operations by other means

The operations of a table come down to a few things that they do over and over: an item
is located, room is made by moving the items to a new array, and copies are handled by
foreign code.  This module has the operations with these things as parameters.  With the
means of a behaviour itself they are the operations of a table.  With other means, which
take notes of what is done, they tell about the operations what a table does not keep.
-/

namespace OpenAddressing

open Relocation (Step slotAt)
open Probe (Outcome Purpose Terrain)

variable {σ ι α β : Type}

namespace Table

/-- The foreign code of a table, with the slots as searches for items see them. -/
structure Survey (σ ι α : Type) where
  /-- The foreign code. -/
  behaviour : Behaviour σ ι α
  /-- The slots as a search for an item sees them. -/
  terrain : ι → Array (Slot α) → Terrain (Thread σ)

/-- The foreign code of a table, with the two things that its operations are made of. -/
structure Means (σ ι α : Type) where
  /-- The foreign code. -/
  behaviour : Behaviour σ ι α
  /-- Finds the slot of an item, or a slot for it. -/
  locate : Purpose → ι → Action σ α Outcome
  /-- Moves the items to a new array.  Growth can be forced. -/
  reorganize : Bool → Action σ α (Except Failure Unit)

/-! ## Locating and reorganizing in a survey -/

namespace Survey

variable (survey : Survey σ ι α)

/-- Finds the slot of an item, or a slot for it. -/
def locate (purpose : Purpose) (item : ι) : Action σ α Outcome := do
  let hash ← Action.call (survey.behaviour.hash item)
  Action.searching fun slots => (survey.terrain item slots).search purpose hash

/-- Moves the item of one slot, if there is one, to the place that it finds. -/
def place (origin : Nat) : Step σ α Unit := do
  let relocation ← get
  match slotAt relocation.source origin with
  | .empty => pure ()
  | .tombstone => pure ()
  | .occupied item =>
    let hash ← Relocation.call (survey.behaviour.hash (survey.behaviour.key item))
    let outcome ← Relocation.searching fun slots =>
      (survey.terrain (survey.behaviour.key item) slots).search .insert hash
    match outcome with
    | .found _ => pure ()
    | .missing => pure ()
    | .vacant destination => Relocation.move item origin destination

/-- Moves every item, in the order of the slots. -/
def placeAll : Step σ α Unit := do
  let relocation ← get
  (List.range relocation.source.size).forM survey.place

/-- Moves the items to a new array, or leaves them all where they are. -/
def relocate (target : Array (Slot α)) (live : Nat) (reclaim : Bool) :
    Action σ α (Except Failure Unit) := fun ⟨table, thread, journal⟩ =>
  let relocation : Relocation σ α := {
    source := table.slots
    target
    room := live
    tally := table.tally
    thread }
  match survey.placeAll relocation with
  | .ok () relocation => conclude table live reclaim relocation journal
  | .error abort relocation =>
    .error abort {
      table := { table with
        slots := relocation.rollBack.source
        tally := relocation.tally }
      thread := relocation.thread
      journal }

/-- Moves the items to a new array.  Growth can be forced. -/
def reorganize (grow : Bool) : Action σ α (Except Failure Unit) := do
  let table ← Action.inspect id
  let live ← Action.live
  let reclaim := table.reclaims live grow
  match table.target? reclaim with
  | none =>
    Action.report (.ladderExhausted table.capacity)
    pure (.error .tableFull)
  | some capacity =>
    match ← Action.onHost (survey.behaviour.slots capacity) with
    | none =>
      Action.report (.allocationFailed capacity)
      pure (.error .outOfMemory)
    | some target =>
      if ← Action.onHost (survey.behaviour.moveLog live) then
        survey.relocate target live reclaim
      else
        pure (.error .outOfMemory)

/-- The means that a survey gives. -/
def means : Means σ ι α where
  behaviour := survey.behaviour
  locate := survey.locate
  reorganize := survey.reorganize

end Survey

/-! ## Operations by given means -/

namespace Means

variable (means : Means σ ι α)

/-- Reorganizes, and raises the flags of a failure. -/
def makeRoom (grow : Bool) : Action σ α (Except Failure Unit) := do
  match ← means.reorganize grow with
  | .ok () => pure (.ok ())
  | .error failure =>
    Action.flag (failure.flags ∪ Failure.tableFull.flags)
    pure (.error failure)

/-- Makes room if the table is crowded. -/
def relieve : Action σ α (Except Failure Unit) := do
  if ← Action.inspect isCrowded then
    means.makeRoom false
  else
    pure (.ok ())

/-- Finds the item or a slot for it, if need be after growing once. -/
def seek (item : ι) : Action σ α (Except Failure Outcome) := do
  match ← means.locate .insert item with
  | .found index => pure (.ok (.found index))
  | .vacant index => pure (.ok (.vacant index))
  | .missing =>
    match ← means.makeRoom true with
    | .error failure => pure (.error failure)
    | .ok () => .ok <$> means.locate .insert item

/-- Stores a copy of an item unless an equal one is stored, and lends the stored one. -/
def insert (item : ι) : Action σ α (Except Failure (Loan α)) :=
  Action.entered Except.isOk do
    match ← means.relieve with
    | .error failure => pure (.error failure)
    | .ok () =>
      match ← means.seek item with
      | .error failure => pure (.error failure)
      | .ok (.found index) => .ok <$> lend index
      | .ok (.vacant index) => store means.behaviour item index
      | .ok .missing =>
        Action.flag Failure.tableFull.flags
        pure (.error .tableFull)

/-- Lends the stored item that equals the given one. -/
def find? (item : ι) : Action σ α (Option (Loan α)) :=
  Action.entered Option.isSome do
    match ← means.locate .lookup item with
    | .found index => some <$> lend index
    | .vacant _ => pure none
    | .missing => pure none

/-- Hands the stored item that equals the given one to foreign code. -/
def findWith (item : ι) (use : α → Call σ β) : Action σ α (Option β) :=
  Action.guarded do
    match ← means.locate .lookup item with
    | .found index =>
      let stored ← storedAt index
      some <$> Action.call (use stored)
    | .vacant _ => pure none
    | .missing => pure none

/-- Whether an equal item is stored. -/
def contains (item : ι) : Action σ α Bool :=
  Option.isSome <$> means.findWith item fun _ => pure ()

/-- Removes the stored item that equals the given one and releases the copy. -/
def remove (item : ι) : Action σ α (Option ι) :=
  Action.guarded do
    match ← means.locate .lookup item with
    | .vacant _ => pure none
    | .missing => pure none
    | .found index =>
      let stored ← storedAt index
      bury index
      Action.trace fun table => .removed index table.tombstones
      Action.call (means.behaviour.release stored)
      pure (some item)

/-- Performs a request. -/
def perform : Request σ ι α β → Action σ α (Answer ι α β)
  | .insert item => do
    match ← means.insert item with
    | .error failure => pure (.inserted (.error failure))
    | .ok loan => (fun copy => .inserted (.ok copy)) <$> loan.takeItem
  | .find item => do
    match ← means.find? item with
    | none => pure (.found none)
    | some loan => (fun copy => .found (some copy)) <$> loan.takeItem
  | .findWith item use => .used <$> means.findWith item use
  | .contains item => .truth <$> means.contains item
  | .remove item => .removed <$> means.remove item
  | request => request.perform means.behaviour

/-- A request to a table that is on the roster is refused and changes nothing. -/
theorem perform_of_mem
    {before : Session σ α}
    (busy : before.table.identity ∈ before.thread.roster)
    (request : Request σ ι α β) :
    means.perform request before = .error .reentered before := by
  have refused : ∀ {γ : Type} (keeps : γ → Bool) (action : Action σ α γ),
      Action.entered keeps action before = .error .reentered before := fun keeps action =>
    Action.entered_of_mem keeps action busy
  cases request <;>
    simp [perform, insert, find?, findWith, contains, remove, Request.perform_of_mem busy,
      Action.guarded, refused, bind, EStateM.bind, Functor.map, EStateM.map]

end Means
end Table

/-! ## The means of a behaviour -/

namespace Behaviour

/-- The foreign code of a behaviour, and the slots as they are. -/
def survey (behaviour : Behaviour σ ι α) : Table.Survey σ ι α where
  behaviour
  terrain := Table.terrain behaviour

/-- The means of a behaviour itself. -/
def means (behaviour : Behaviour σ ι α) : Table.Means σ ι α where
  behaviour
  locate := Table.locate behaviour
  reorganize := Table.reorganize behaviour

variable (behaviour : Behaviour σ ι α)

/-- The slots as they are give the means of the behaviour. -/
theorem means_survey : behaviour.survey.means = behaviour.means := rfl

/-- By the means of the behaviour, a request is performed as by a table. -/
theorem perform_means (request : Request σ ι α β) :
    behaviour.means.perform request = request.perform behaviour := by
  cases request <;> rfl

end Behaviour
end OpenAddressing
