import OpenAddressing.Table.Insert

/-!
# Looking up and visiting

A stored item is found by an equal item.  It is lent out, or handed to foreign
code for the time of the call.  All items can be visited in the order of their
slots until the visitor is content.
-/

namespace OpenAddressing
namespace Table

variable {σ ι α β : Type}

/-- Lends the stored item that equals the given one. -/
def find? (behaviour : Behaviour σ ι α) (item : ι) : Action σ α (Option (Loan α)) :=
  Action.entered Option.isSome do
    match ← locate behaviour .lookup item with
    | .found index => some <$> lend index
    | .vacant _ => pure none
    | .missing => pure none

/-- Hands the stored item that equals the given one to foreign code. -/
def findWith (behaviour : Behaviour σ ι α) (item : ι) (use : α → Call σ β) :
    Action σ α (Option β) :=
  Action.guarded do
    match ← locate behaviour .lookup item with
    | .found index =>
      let stored ← storedAt index
      some <$> Action.call (use stored)
    | .vacant _ => pure none
    | .missing => pure none

/-- Whether an equal item is stored. -/
def contains (behaviour : Behaviour σ ι α) (item : ι) : Action σ α Bool :=
  Option.isSome <$> findWith behaviour item fun _ => pure ()

/-- Visits items in their order until the visitor answers. -/
def visit (visitor : α → Call σ (Option β)) : List α → Call σ (Option β)
  | [] => pure none
  | item :: rest => do
    match ← visitor item with
    | some answer => pure (some answer)
    | none => visit visitor rest

/-- Visits the stored items in the order of their slots until the visitor
answers. -/
def walk (visitor : α → Call σ (Option β)) : Action σ α (Option β) :=
  Action.guarded do
    let items ← Action.inspect items
    Action.call (visit visitor items)

end Table
end OpenAddressing
