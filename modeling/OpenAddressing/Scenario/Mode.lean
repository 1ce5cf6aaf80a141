import OpenAddressing.Thread

/-!
# Modes

A mode bends a hash, so that collisions can be arranged.
-/

namespace OpenAddressing
namespace Scenario

/-- A function of machine words. -/
inductive Mode where
  /-- Leaves the word as it is. -/
  | same
  /-- Gives one word for all. -/
  | constant (word : UInt64)
  /-- Multiplies. -/
  | times (word : UInt64)
  /-- Adds. -/
  | plus (word : UInt64)
  /-- Divides and rounds down. -/
  | dividedBy (word : UInt64)
  /-- Gives the remainder. -/
  | modulo (word : UInt64)
  /-- Flips the bits that are set in a word. -/
  | flip (word : UInt64)
deriving DecidableEq

namespace Mode

/-- Applies a mode.  Division by zero is cut short. -/
def apply : Mode → UInt64 → Except String UInt64
  | same, word => .ok word
  | constant other, _ => .ok other
  | times factor, word => .ok (word * factor)
  | plus summand, word => .ok (word + summand)
  | dividedBy divisor, word =>
    if divisor = 0 then .error "attempt to divide by zero" else .ok (word / divisor)
  | modulo divisor, word =>
    if divisor = 0 then .error "attempt to calculate the remainder with a divisor of zero"
    else .ok (word % divisor)
  | flip mask, word => .ok (word ^^^ mask)

/-- Applies a mode as foreign code. -/
def call {σ : Type} (mode : Mode) (word : UInt64) : Call σ UInt64 :=
  match mode.apply word with
  | .ok result => pure result
  | .error text => Call.raise text

end Mode
end Scenario
end OpenAddressing
