import OpenAddressing.Text.Quoted

/-!
# Items of a scenario

An item of a scenario is a key with a value.  Keys are numbers or texts, and
only keys are hashed and compared.
-/

namespace OpenAddressing
namespace Scenario

/-- What an item is known by. -/
inductive Key where
  /-- A machine word. -/
  | number (value : UInt64)
  /-- A text. -/
  | text (value : String)
deriving DecidableEq

/-- A key with a value. -/
structure Item where
  /-- What the item is known by. -/
  key : Key
  /-- What the item carries. -/
  value : Int64 := 0
deriving DecidableEq

/-- The outline of a key. -/
def Key.outline : Key → Outline
  | number value => .wrapped "N" (.atom (toString value))
  | text value => .wrapped "S" (.quoted value)

/-- The outline of an item. -/
def Item.outline (item : Item) : Outline :=
  .record "It"
    (.field "key" item.key.outline
      (.field "value" (.atom (toString item.value)) .done))

/-- The number of a key, or the length of its text in bytes. -/
def Key.size : Key → Nat
  | number value => value.toNat
  | text value => value.utf8ByteSize

end Scenario
end OpenAddressing
