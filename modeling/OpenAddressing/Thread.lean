import OpenAddressing.Abort
import OpenAddressing.Roster

/-!
# Foreign code

A table calls foreign code: the functions that describe its items, and the
functions that visit them.  Foreign code runs on a thread, whose roster tells
which tables are in use, may change a state of its own, the host, and may be cut
short.  Whatever it changed before it was cut short stays changed.
-/

namespace OpenAddressing

/-- The thread on which foreign code runs. -/
structure Thread (σ : Type) where
  /-- The tables that the thread is working on. -/
  roster : Roster := {}
  /-- The state that belongs to the foreign code. -/
  host : σ

/-- A call of foreign code. -/
abbrev Call (σ β : Type) := EStateM Abort (Thread σ) β

namespace Call

variable {σ β : Type}

/-- A call that only looks at and changes the host. -/
def onHost (change : σ → β × σ) : Call σ β := fun thread =>
  let (value, host) := change thread.host
  .ok value { thread with host }

/-- A call that raises an abort with a text. -/
def raise (text : String) : Call σ β :=
  throw (.raised text)

/-- A call that enters a table and leaves it again at once.  It is refused while
the thread is working on the table. -/
def touch (identity : Nat) : Call σ Unit := fun thread =>
  match thread.roster.enter? identity with
  | none => .error .reentered thread
  | some _ => .ok () thread

end Call
end OpenAddressing
