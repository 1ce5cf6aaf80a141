import OpenAddressing.Scenario.Mode
import OpenAddressing.Scenario.Report

/-!
# The host of a scenario

The host is the state of the foreign code that a scenario runs.  Its script says
how hashes and comparisons are bent, when foreign functions are to be cut short,
and which array allocation is to fail.  Its log keeps the calls of foreign
functions.  Its round keeps what the current visitor of items has seen.
-/

namespace OpenAddressing
namespace Scenario

/-- How items are compared. -/
inductive Comparison where
  /-- By their keys. -/
  | normal
  /-- All items are equal. -/
  | equal
  /-- No items are equal. -/
  | never
  /-- Numbers by what a mode makes of them, and other keys by themselves. -/
  | through (mode : Mode)
deriving DecidableEq

/-- What a sprung trap does. -/
inductive Snap where
  /-- It raises an abort. -/
  | raise
  /-- It calls the table that is being worked on. -/
  | reenter
deriving DecidableEq

/-- A trap in a foreign function. -/
structure Trap (ι : Type) where
  /-- The function. -/
  callback : Callback
  /-- What the trap does. -/
  snap : Snap
  /-- The first item of the calls that count; without it, every call counts. -/
  item : Option ι := none
  /-- How many calls that count pass before the trap springs. -/
  skip : Nat := 0

/-- How foreign functions behave. -/
structure Script (ι : Type) where
  /-- Bends the primary hash. -/
  hashing : Mode := .same
  /-- Bends the secondary hash. -/
  rehashing : Mode := .same
  /-- How items are compared. -/
  comparing : Comparison := .normal
  /-- Whether copies cannot be made. -/
  copiesFail : Bool := false
  /-- The trap that is armed. -/
  trap : Option (Trap ι) := none
  /-- How many calls have passed the trap. -/
  passed : Nat := 0

/-- A change of a script.  What is absent stays as it is. -/
structure Adjustment (ι : Type) where
  /-- Bends the primary hash. -/
  hashing : Option Mode := none
  /-- Bends the secondary hash. -/
  rehashing : Option Mode := none
  /-- How items are compared. -/
  comparing : Option Comparison := none
  /-- Whether copies cannot be made. -/
  copiesFail : Option Bool := none
  /-- The trap to be armed, or its removal. -/
  trap : Option (Option (Trap ι)) := none

/-- The script after a change.  A new trap starts to count afresh. -/
def Script.adjust {ι : Type} (script : Script ι) (adjustment : Adjustment ι) : Script ι where
  hashing := adjustment.hashing.getD script.hashing
  rehashing := adjustment.rehashing.getD script.rehashing
  comparing := adjustment.comparing.getD script.comparing
  copiesFail := adjustment.copiesFail.getD script.copiesFail
  trap := adjustment.trap.getD script.trap
  passed := if adjustment.trap.isSome then 0 else script.passed

/-- The calls of foreign functions during a step, the latest first. -/
structure Log (ι : Type) where
  /-- The calls, if they are recorded. -/
  calls : List (CallRecord ι) := []
  /-- The items released. -/
  released : List ι := []

/-- What a visitor of items has seen. -/
structure Round (ι : Type) where
  /-- The items, the latest first. -/
  seen : List ι := []
  /-- How many items there were. -/
  count : Nat := 0
  /-- The reports of the steps made on the first item. -/
  inside : Option (List (Report ι)) := none

/-- The state of the foreign code of a scenario. -/
structure Host (ι : Type) where
  /-- How foreign functions behave. -/
  script : Script ι := {}
  /-- Whether all calls are recorded. -/
  logging : Bool := false
  /-- Which of the coming array allocations fails, counted from one. -/
  doomed : Option Nat := none
  /-- The table that a trap can call, while it is in use. -/
  table : Option Nat := none
  /-- The calls during the current step. -/
  log : Log ι := {}
  /-- What the visitor of the current step has seen. -/
  round : Round ι := {}

namespace Host

variable {ι : Type}

/-- The bytes of memory that the host can grant, which are 64 gibibytes. -/
def memory : Nat := 0x1000000000

/-- Grants an array that fits into memory, unless this allocation is doomed. -/
def reserve (bytes : Nat) (host : Host ι) : Bool × Host ι :=
  if memory < bytes then
    (false, host)
  else
    match host.doomed with
    | some 1 => (false, { host with doomed := none })
    | some count => (true, { host with doomed := some (count - 1) })
    | none => (true, host)

/-- Records a call. -/
def record (callback : Callback) (items : List ι) (host : Host ι) : Host ι :=
  if host.logging then
    { host with log := { host.log with calls := ⟨callback, items⟩ :: host.log.calls } }
  else
    host

/-- Records the release of an item. -/
def recordRelease (item : ι) (host : Host ι) : Host ι :=
  { host with log := { host.log with released := item :: host.log.released } }

/-- Lets a call pass the trap, or tells what the trap does. -/
def pass (matched : ι → ι → Bool) (callback : Callback) (item : ι) (host : Host ι) :
    Option Snap × Host ι :=
  match host.script.trap with
  | none => (none, host)
  | some trap =>
    if trap.callback = callback ∧ trap.item.all (matched · item) then
      if host.script.passed < trap.skip then
        (none, { host with script := { host.script with passed := host.script.passed + 1 } })
      else
        (some trap.snap, host)
    else
      (none, host)

/-- Runs into the trap of a function, if one is armed for it. -/
def meetTrap (matched : ι → ι → Bool) (callback : Callback) (item : ι) :
    Call (Host ι) Unit := do
  match ← Call.onHost (pass matched callback item) with
  | none => pure ()
  | some .raise => Call.raise ("trap in " ++ callback.name)
  | some .reenter =>
    let thread ← get
    match thread.host.table with
    | none => pure ()
    | some identity => Call.touch identity

end Host
end Scenario
end OpenAddressing
