import OpenAddressing.Scenario.Deed

/-!
# Running a scenario

A scenario makes a table, takes its steps one after another, and tears the table
down.  A step that is cut short leaves the table to the next one as the abort
left it.
-/

namespace OpenAddressing
namespace Scenario

variable {ι : Type}

namespace Step

mutual

/-- Takes a step. -/
def perform (subject : Subject ι) : Step ι → Deed ι (Result ι (Report ι))
  | insert item doomed inside => do
    match ← Deed.dooming doomed (Table.insert subject.behaviour item) with
    | .error failure => pure (.failed failure)
    | .ok loan => Deed.borrow loan (aside? subject inside)
  | find item inside => do
    match ← Table.find? subject.behaviour item with
    | none => pure .nothing
    | some loan => Deed.borrow loan (aside? subject inside)
  | findWith item raises inside => Deed.findWith subject item raises (aside? subject inside)
  | findOutline item => do
    match ← Table.find? subject.behaviour item with
    | none => pure (.text (Outline.optional none).line)
    | some loan =>
      Action.call loan.finish
      pure (.text (Outline.optional (some (subject.outline loan.item))).line)
  | contains item => Result.truth <$> Table.contains subject.behaviour item
  | remove item => Result.ofItem? <$> Table.remove subject.behaviour item
  | length => Result.number <$> Table.length
  | isEmpty => Result.truth <$> Table.isEmpty
  | capacity => Result.number <$> Table.slotCount
  | clearFlags => Result.flags <$> Table.clearFlags
  | footprint => Result.number <$> Table.footprint subject.behaviour
  | settings => Result.settings <$> Action.inspect Table.settings
  | outline page => do
    let outline ← Table.outline
    pure (.text (if page then outline.page else outline.line))
  | adjust adjustment => do
    Deed.alterHost fun host => { host with script := host.script.adjust adjustment }
    pure .nothing
  | retain keep raisesAt inside => Deed.retain subject keep raisesAt (aside? subject inside)
  | walk stop raisesAt inside => Deed.walk subject stop raisesAt (aside? subject inside)
  | fill range => Scenario.fill subject range range.numbers 0
  | drain range => countRange subject range fun item =>
    Option.isSome <$> Table.remove subject.behaviour item
  | count range => countRange subject range (Table.contains subject.behaviour)

/-- Further steps, if there are any to be taken. -/
def aside? (subject : Subject ι) : Option (List (Step ι)) → Option (Aside ι)
  | none => none
  | some steps => some (performAll subject steps)

/-- Takes steps one after another and reports each. -/
def performAll (subject : Subject ι) : List (Step ι) → Aside ι
  | [] => fun session => ([], session)
  | step :: rest => fun session =>
    let (first, session) := report (perform subject step) session
    let (others, session) := performAll subject rest session
    (first :: others, session)

end

end Step

/-- Tears the table down.  A trap can no longer call it. -/
def close (subject : Subject ι) (session : Session (Host ι) ι) : Closing ι :=
  let started : Session (Host ι) ι := {
    table := session.table
    thread := { session.thread with
      host := { session.thread.host with table := none, log := {} } } }
  let (abort, reached) : Option String × Session (Host ι) ι :=
    match Table.tearDown subject.behaviour started with
    | .ok () reached => (none, reached)
    | .error abort reached => (some abort.message, reached)
  {
    abort
    events := reached.journal.reverse
    calls := reached.thread.host.log.calls.reverse
    released := reached.thread.host.log.released.reverse }

/-- A scenario: a table and what is done with it. -/
structure Plan (ι : Type) where
  /-- The settings of the table. -/
  settings : Settings := {}
  /-- How foreign functions behave at first. -/
  script : Script ι := {}
  /-- Whether all calls of foreign functions are recorded. -/
  logging : Bool := false
  /-- The steps. -/
  steps : List (Step ι)

/-- Runs a scenario and reports its steps and the teardown, or why there is no
table. -/
def Plan.run (subject : Subject ι) (plan : Plan ι) :
    Except Failure (List (Report ι) × Closing ι) :=
  let identity := 0
  let host : Host ι := {
    script := plan.script
    logging := plan.logging
    table := some identity }
  match Table.create subject.behaviour plan.settings identity host with
  | (.error failure, _) => .error failure
  | (.ok table, host) =>
    let (reports, session) :=
      Step.performAll subject plan.steps { table, thread := { host } }
    .ok (reports, close subject session)

end Scenario
end OpenAddressing
