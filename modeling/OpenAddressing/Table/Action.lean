import OpenAddressing.Table.Basic
import OpenAddressing.Table.Event

/-!
# Actions

The operations of a table are actions on a session: the table, the thread that
runs the foreign code, and a journal of events.  An action that is cut short
keeps the session it had reached, so a table can always be used again.  While an
action is under way its table is on the roster of the thread.
-/

namespace OpenAddressing

/-- A table in use. -/
structure Session (σ α : Type) where
  /-- The table. -/
  table : Table α
  /-- The thread that uses it. -/
  thread : Thread σ
  /-- The events reported so far, the latest first. -/
  journal : List Event := []

namespace Session

variable {σ α : Type}

/-- The session after the table has left the roster. -/
def leave (session : Session σ α) : Session σ α :=
  { session with
    thread := { session.thread with
      roster := session.thread.roster.leave session.table.identity } }

/-- The session with the table on the roster, unless it is there already. -/
def enter? (session : Session σ α) : Option (Session σ α) :=
  (session.thread.roster.enter? session.table.identity).map fun roster =>
    { session with thread := { session.thread with roster } }

end Session

/-- Something done with a table. -/
abbrev Action (σ α β : Type) := EStateM Abort (Session σ α) β

namespace Action

variable {σ α β : Type}

/-- Asks the host. -/
def onHost (change : σ → β × σ) : Action σ α β := fun ⟨table, thread, journal⟩ =>
  let (value, host) := change thread.host
  .ok value ⟨table, { thread with host }, journal⟩

/-- Runs foreign code. -/
def call (foreign : Call σ β) : Action σ α β := fun ⟨table, thread, journal⟩ =>
  match foreign thread with
  | .ok value thread => .ok value ⟨table, thread, journal⟩
  | .error abort thread => .error abort ⟨table, thread, journal⟩

/-- Runs a search on the slots and counts it. -/
def searching (search : Array (Slot α) → Probe.Counting (Thread σ) β) : Action σ α β :=
  fun ⟨table, thread, journal⟩ =>
    match search table.slots (table.tally, thread) with
    | .ok value (tally, thread) => .ok value ⟨{ table with tally }, thread, journal⟩
    | .error abort (tally, thread) => .error abort ⟨{ table with tally }, thread, journal⟩

/-- Reads something off the table. -/
def inspect (view : Table α → β) : Action σ α β := fun session =>
  .ok (view session.table) session

/-- Changes the table. -/
def alter (change : Table α → Table α) : Action σ α Unit :=
  fun ⟨table, thread, journal⟩ => .ok () ⟨change table, thread, journal⟩

/-- Reports an event. -/
def report (event : Event) : Action σ α Unit := fun ⟨table, thread, journal⟩ =>
  .ok () ⟨table, thread, event :: journal⟩

/-- Reports an event if the settings ask for single operations. -/
def trace (event : Table α → Event) : Action σ α Unit := do
  let table ← inspect id
  if table.settings.debug then
    report (event table)

/-- Raises failure flags. -/
def flag (flags : Flags) : Action σ α Unit :=
  alter fun table => { table with flags := table.flags ∪ flags }

/-- The number of stored items, by the counts. -/
def live : Action σ α Nat := fun session =>
  if session.table.tombstones ≤ session.table.entries then
    .ok (session.table.entries - session.table.tombstones) session
  else
    .error (.fault .countUnderflow) session

/-- Does something while the table is on the roster.  A table that is there
already is refused before anything is done.  Afterwards the table leaves the
roster, also if the action was cut short, unless the result still needs it. -/
def entered (keeps : β → Bool) (action : Action σ α β) : Action σ α β := fun session =>
  match session.enter? with
  | none => .error .reentered session
  | some session =>
    match action session with
    | .ok value session => .ok value (if keeps value then session else session.leave)
    | .error abort session => .error abort session.leave

/-- Does something while the table is on the roster, and not longer. -/
def guarded (action : Action σ α β) : Action σ α β :=
  entered (fun _ => false) action

/-- A refused action changes nothing. -/
theorem entered_of_mem {session : Session σ α} (keeps : β → Bool) (action : Action σ α β)
    (busy : session.table.identity ∈ session.thread.roster) :
    entered keeps action session = .error .reentered session := by
  simp [entered, Session.enter?, Roster.enter?, busy]

end Action

end OpenAddressing
