import OpenAddressing.Behaviour.Text
import OpenAddressing.Scenario.Host
import OpenAddressing.Scenario.Item

/-!
# Subjects of a scenario

A subject says what the items of a scenario are: how a table treats them, how
predicates measure them, how ranges of them are made, and how they are written.
One subject has keyed items with scripted behaviour, the other has plain texts.
-/

namespace OpenAddressing
namespace Scenario

/-- What the items of a scenario are. -/
structure Subject (ι : Type) where
  /-- How a table treats the items. -/
  behaviour : Behaviour (Host ι) ι ι
  /-- The number by which predicates judge an item. -/
  size : ι → Nat
  /-- Whether two items have the same key. -/
  matched : ι → ι → Bool
  /-- The item for a number, with a stem for its key if it is a text, and with
  the number as its value if wanted. -/
  numbered : Option String → Bool → Nat → ι
  /-- The outline of an item. -/
  outline : ι → Outline

namespace Keyed

/-- Whether two items have the same key. -/
def matched (first second : Item) : Bool :=
  first.key = second.key

/-- Records a call and runs into the trap of the function. -/
def enter (callback : Callback) (item : Item) (others : List Item) :
    Call (Host Item) Unit := do
  Call.onHost fun host => ((), host.record callback (item :: others))
  Host.meetTrap matched callback item

/-- The primary hash before the script bends it. -/
def baseHash : Key → UInt64
  | .number value => value
  | .text value => Digest.multiplicative (Digest.bytesOf value)

/-- The secondary hash before the script bends it. -/
def baseRehash : Key → UInt64
  | .number value => value
  | .text value => Digest.avalanche (Digest.bytesOf value)

/-- The memory that an item holds beside its slot. -/
def heapBytes : Key → Nat
  | .number _ => 8
  | .text value => value.utf8ByteSize

/-- Equal where a condition holds. -/
def equalIf (condition : Bool) : Ordering :=
  if condition then .eq else .lt

/-- Compares two keys as the script wants it. -/
def compare (comparison : Comparison) (stored item : Key) : Call (Host Item) Ordering :=
  match comparison with
  | .normal => pure (equalIf (stored = item))
  | .equal => pure .eq
  | .never => pure .lt
  | .through mode =>
    match stored, item with
    | .number first, .number second => do
      let first ← mode.call first
      let second ← mode.call second
      pure (equalIf (first = second))
    | _, _ => pure (equalIf (stored = item))

/-- The script in force. -/
def script : Call (Host Item) (Script Item) := do
  let thread ← get
  pure thread.host.script

/-- Keyed items, whose foreign functions follow the script. -/
def behaviour : Behaviour (Host Item) Item Item where
  key := id
  hash item := do
    enter .hash item []
    (← script).hashing.call (baseHash item.key)
  rehash item := do
    enter .rehash item []
    (← script).rehashing.call (baseRehash item.key)
  compare stored item := do
    enter .compare stored [item]
    compare (← script).comparing stored.key item.key
  duplicate item := do
    enter .duplicate item []
    pure (if (← script).copiesFail then none else some item)
  release item := do
    Call.onHost fun host => ((), host.record .release [item])
    Call.onHost fun host => ((), host.recordRelease item)
    Host.meetTrap matched .release item
  heapBytes item := do
    enter .heapSize item []
    pure (heapBytes item.key)
  slotBytes := 16
  reserve := Host.reserve

/-- The item for a number. -/
def numbered (stem : Option String) (valued : Bool) (number : Nat) : Item where
  key :=
    match stem with
    | none => .number number.toUInt64
    | some stem => .text (stem ++ toString number)
  value := if valued then Int64.ofNat number else 0

end Keyed

namespace Subject

/-- Keyed items with scripted behaviour. -/
def keyed : Subject Item where
  behaviour := Keyed.behaviour
  size item := item.key.size
  matched := Keyed.matched
  numbered := Keyed.numbered
  outline := Item.outline

/-- Plain texts. -/
def text : Subject String where
  behaviour := Behaviour.text Host.reserve
  size item := item.utf8ByteSize
  matched first second := first == second
  numbered stem _ number := stem.getD "" ++ toString number
  outline := Outline.quoted

end Subject
end Scenario
end OpenAddressing
