import OpenAddressing.Failure

/-!
# Settings

Settings are fixed when a table is made: whether it reports single operations,
how many slots its first array has, and how far it may grow.
-/

namespace OpenAddressing

/-- The choices made when a table is created. -/
structure Settings where
  /-- Whether single operations are reported as events. -/
  debug : Bool := false
  /-- The number of slots of the first array. -/
  initialCapacity : Nat := Ladder.initialCapacity
  /-- The largest capacity that growth may reach. -/
  maxCapacity : Nat := UInt64.size - 1
deriving DecidableEq

namespace Settings

/-- Settings are usable from the least capacity on. -/
def validate (settings : Settings) : Except Failure Unit :=
  if settings.initialCapacity < Ladder.minimumCapacity then
    .error (.invalidCapacity settings.initialCapacity)
  else
    .ok ()

theorem validate_eq_ok_iff (settings : Settings) :
    settings.validate = .ok () ↔ Ladder.minimumCapacity ≤ settings.initialCapacity := by
  unfold validate
  split <;> simp_all

/-- One change of the default settings. -/
inductive Choice where
  /-- Turns the reports of single operations on or off. -/
  | debug (on : Bool)
  /-- Sets the number of slots of the first array. -/
  | initialCapacity (count : Nat)
  /-- Sets the largest capacity. -/
  | maxCapacity (count : Nat)

/-- Settings after one more choice. -/
def choose (settings : Settings) : Choice → Settings
  | .debug on => { settings with debug := on }
  | .initialCapacity count => { settings with initialCapacity := count }
  | .maxCapacity count => { settings with maxCapacity := count }

/-- The default settings changed by the choices in their order. -/
def ofChoices (choices : List Choice) : Settings :=
  choices.foldl choose {}

end Settings
end OpenAddressing
