/-!
# Failure flags

A table remembers which kinds of failure it has met until it is told to forget
them.  A set of flags has a numeric form, one bit a flag, and a text.
-/

namespace OpenAddressing

/-- The kinds of failure met so far. -/
@[ext] structure Flags where
  /-- A copy or an array could not be allocated. -/
  outOfMemory : Bool := false
  /-- No room could be made for an item. -/
  tableFull : Bool := false
  /-- A reorganization was undone. -/
  interrupted : Bool := false
deriving DecidableEq

namespace Flags

/-- No failure. -/
def none : Flags := {}

/-- The failures of either set. -/
def union (first second : Flags) : Flags where
  outOfMemory := first.outOfMemory || second.outOfMemory
  tableFull := first.tableFull || second.tableFull
  interrupted := first.interrupted || second.interrupted

instance : Union Flags := ⟨union⟩

@[simp] theorem union_none (flags : Flags) : flags ∪ none = flags := by
  cases flags
  simp [Union.union, union, none]

@[simp] theorem none_union (flags : Flags) : none ∪ flags = flags := by
  cases flags
  simp [Union.union, union, none]

/-- The numeric form: one for memory, two for room, four for interruption. -/
def bits (flags : Flags) : Nat :=
  flags.outOfMemory.toNat + 2 * flags.tableFull.toNat + 4 * flags.interrupted.toNat

/-- The names of the flags that are set, in the order of their bits. -/
def names (flags : Flags) : List String :=
  (if flags.outOfMemory then ["OUT_OF_MEMORY"] else []) ++
    (if flags.tableFull then ["TABLE_FULL"] else []) ++
    (if flags.interrupted then ["INTERRUPTED"] else [])

/-- The names joined by bars, or a zero when no flag is set. -/
def summary (flags : Flags) : String :=
  match flags.names with
  | [] => "0x0"
  | names => String.intercalate " | " names

/-- The one-line text of a set of flags. -/
def describe (flags : Flags) : String :=
  "ErrorFlags(" ++ flags.summary ++ ")"

end Flags
end OpenAddressing
