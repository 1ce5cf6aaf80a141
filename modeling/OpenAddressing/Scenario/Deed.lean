import OpenAddressing.Scenario.Step
import OpenAddressing.Scenario.Subject
import OpenAddressing.Table.Find
import OpenAddressing.Table.Remove
import OpenAddressing.Text.Account

/-!
# Deeds

A deed is what one step of a scenario does.  Further steps, taken while an item
is on loan or in the hands of a visitor, are given to a deed as a function of the
session.  An abort ends the deed in which it is raised and is reported there.
-/

namespace OpenAddressing
namespace Scenario

variable {ι β : Type}

/-- A step under way, or a part of it. -/
abbrev Deed (ι β : Type) := Action (Host ι) ι β

/-- Further steps, as a function of the session in which they are made. -/
abbrev Aside (ι : Type) := Session (Host ι) ι → List (Report ι) × Session (Host ι) ι

namespace Deed

/-- Reads something off the host. -/
def host (view : Host ι → β) : Deed ι β := fun session =>
  .ok (view session.thread.host) session

/-- Changes the host. -/
def alterHost (change : Host ι → Host ι) : Deed ι Unit :=
  Action.call (Call.onHost fun host => ((), change host))

/-- Does something while an array allocation is doomed. -/
def dooming (doomed : Option Nat) (deed : Deed ι β) : Deed ι β := do
  alterHost fun host => { host with doomed }
  try
    deed
  finally
    alterHost fun host => { host with doomed := none }

/-- Takes further steps in the same session. -/
def stepAside (aside : Aside ι) : Deed ι (List (Report ι)) := fun session =>
  let (reports, session) := aside session
  .ok reports session

/-- Takes further steps while an item is on loan, and ends the loan. -/
def borrow (loan : Loan ι) (aside : Option (Aside ι)) : Deed ι (Result ι (Report ι)) := do
  match aside with
  | none =>
    Action.call loan.finish
    pure (.item loan.item)
  | some aside =>
    let reports ← stepAside aside
    Action.call loan.finish
    pure (.lent loan.item reports)

end Deed

/-- Takes further steps from within foreign code, on a table as it was when the
foreign code was called. -/
def asideCall (table : Table ι) (aside : Aside ι) : Call (Host ι) (List (Report ι)) :=
  fun thread =>
    let (reports, session) := aside { table, thread }
    .ok reports session.thread

/-- Judges an item. -/
def Predicate.holds (subject : Subject ι) (predicate : Predicate ι) (item : ι) :
    Call (Host ι) Bool :=
  match predicate with
  | .always value => pure value
  | .residue divisor remainder =>
    if divisor = 0 then
      Call.raise "attempt to calculate the remainder with a divisor of zero"
    else
      pure (subject.size item % divisor == remainder)
  | .below bound => pure (decide (subject.size item < bound))
  | .among items => pure (items.any (subject.matched item))

/-- Notes the next item of a round.  An abort may be raised at it, and further
steps are taken at the first one. -/
def meet (table : Table ι) (raisesAt : Option Nat) (text : String) (aside : Option (Aside ι))
    (item : ι) : Call (Host ι) Unit := do
  let count ← Call.onHost fun host =>
    let round := { host.round with
      seen := item :: host.round.seen
      count := host.round.count + 1 }
    (round.count, { host with round })
  if raisesAt = some count then
    Call.raise text
  match aside with
  | none => pure ()
  | some aside =>
    if count = 1 then
      let reports ← asideCall table aside
      Call.onHost fun host =>
        ((), { host with round := { host.round with inside := some reports } })

/-- Makes a report of a step, with a log and a round of its own. -/
def report (deed : Deed ι (Result ι (Report ι))) (session : Session (Host ι) ι) :
    Report ι × Session (Host ι) ι :=
  let outer := session.thread.host
  let started : Session (Host ι) ι := {
    table := session.table
    thread := { session.thread with host := { outer with log := {}, round := {} } } }
  let (ending, reached) : Except String (Result ι (Report ι)) × Session (Host ι) ι :=
    match deed started with
    | .ok result reached => (.ok result, reached)
    | .error abort reached => (.error abort.message, reached)
  let (statistics, reached) : Option Statistics × Session (Host ι) ι :=
    match Table.statistics reached with
    | .ok statistics reached => (some statistics, reached)
    | .error _ reached => (none, reached)
  let log := reached.thread.host.log
  let told : Report ι := {
    ending
    statistics
    events := reached.journal.reverse
    calls := log.calls.reverse
    released := log.released.reverse }
  (told, {
    table := reached.table
    thread := { reached.thread with
      host := { reached.thread.host with log := outer.log, round := outer.round } }
    journal := session.journal })

/-- Inserts the items for the given numbers up to the first failure. -/
def fill (subject : Subject ι) (range : Range) :
    (numbers : List Nat) → (stored : Nat) → Deed ι (Result ι (Report ι))
  | [], stored => pure (.filled stored none)
  | number :: rest, stored => do
    let item := subject.numbered range.stem range.valued number
    match ← Table.insert subject.behaviour item with
    | .error failure => pure (.filled stored (some (number, failure)))
    | .ok loan =>
      Action.call loan.finish
      fill subject range rest (stored + 1)

/-- Counts the items of a range for which an action answers yes. -/
def countRange (subject : Subject ι) (range : Range) (judge : ι → Deed ι Bool) :
    Deed ι (Result ι (Report ι)) := do
  let total ← range.numbers.foldlM (fun total number => do
    let passed ← judge (subject.numbered range.stem range.valued number)
    pure (if passed then total + 1 else total)) 0
  pure (.number total)

/-- The result for an item that may be absent. -/
def Result.ofItem? : Option ι → Result ι (Report ι)
  | none => .nothing
  | some present => .item present

namespace Deed

/-- Finds an item and hands it to a closure, which may raise an abort or take
further steps. -/
def findWith (subject : Subject ι) (item : ι) (raises : Bool) (aside : Option (Aside ι)) :
    Deed ι (Result ι (Report ι)) := do
  let table ← Action.inspect id
  let found ← Table.findWith subject.behaviour item fun stored => do
    if raises then
      Call.raise "closure failed"
    match aside with
    | none => pure (Result.item stored)
    | some aside => Result.lent stored <$> asideCall table aside
  pure (found.getD .nothing)

/-- Keeps the items of which a predicate holds. -/
def retain (subject : Subject ι) (keep : Predicate ι) (raisesAt : Option Nat)
    (aside : Option (Aside ι)) : Deed ι (Result ι (Report ι)) := do
  let table ← Action.inspect id
  let removed ← Table.retain subject.behaviour fun item => do
    meet table raisesAt "predicate failed" aside item
    keep.holds subject item
  let round ← Deed.host Host.round
  pure (.retained removed round.seen.reverse round.inside)

/-- Visits the items up to one of which a predicate holds. -/
def walk (subject : Subject ι) (stop : Option (Predicate ι)) (raisesAt : Option Nat)
    (aside : Option (Aside ι)) : Deed ι (Result ι (Report ι)) := do
  let table ← Action.inspect id
  let stopped ← Table.walk fun item => do
    meet table raisesAt "visitor failed" aside item
    match stop with
    | none => pure none
    | some stop =>
      let stops ← stop.holds subject item
      pure (if stops then some item else none)
  let round ← Deed.host Host.round
  pure (.walked round.seen.reverse stopped round.inside)

end Deed
end Scenario
end OpenAddressing
