import OpenAddressing.Proofs.Inserting

/-!
# Filling slots

No item is ever written over another one.  An insertion fills slots that hold no
item: of the old array, or of a new one that reorganizations have filled from
the empty array in the same way and with the same items.
-/

namespace OpenAddressing

open Relocation (slotAt)

variable {σ ι α : Type} {behaviour : Behaviour σ ι α}

namespace Slot

/-- One array becomes another by writing items to slots that hold none. -/
inductive Fills (first : Array (Slot α)) : Array (Slot α) → Prop
  | refl : Fills first first
  | fill {slots : Array (Slot α)} {index : Nat}
      (fills : Fills first slots)
      (within : index < slots.size)
      (vacant : (slotAt slots index).item? = none)
      (item : α) :
      Fills first (slots.setIfInBounds index (.occupied item))

namespace Fills

variable {first second third : Array (Slot α)}

theorem trans
    (earlier : Fills first second)
    (later : Fills second third) :
    Fills first third := by
  induction later with
  | refl => exact earlier
  | fill _ within vacant item inductionHypothesis =>
      exact .fill inductionHypothesis within vacant item

end Fills
end Slot

open Slot (Fills)

/-- An array is refilled by filling it. -/
theorem Behaviour.Refills.fills
    {capacity : Nat} {items : List α} {target : Array (Slot α)}
    (refills : behaviour.Refills capacity items target) :
    Fills (Slot.row α capacity) target := by
  induction refills with
  | start => exact .refl
  | @moved _ target item destination _ vacant inductionHypothesis =>
      obtain ⟨_, within, free⟩ := vacant.free_of_vacant
      exact .fill inductionHypothesis within free item
  | left _ _ _ inductionHypothesis => exact inductionHypothesis

namespace Table

/-- One table becomes another without an item being written over: slots without
items were filled, after all items had moved to a new array or not. -/
inductive Spares (before after : Table α) : Prop
  /-- The array is the old one. -/
  | kept (fills : Fills before.slots after.slots)
  /-- The array is new, and was filled with all items first. -/
  | rebuilt {capacity : Nat} {slots : Array (Slot α)}
      (filled : Fills (Slot.row α capacity) slots)
      (whole : (Slot.contents slots).Perm before.items)
      (fills : Fills slots after.slots)

namespace Spares

variable {first second third : Table α}

theorem of_slots_eq (slots : second.slots = first.slots) : first.Spares second := by
  apply kept
  rw [slots]
  exact .refl

/-- Nothing is written over in two steps if the first one adds no item. -/
theorem trans
    (earlier : first.Spares second)
    (same : second.items.Perm first.items)
    (later : second.Spares third) :
    first.Spares third := by
  cases later with
  | rebuilt filled whole fills => exact .rebuilt filled (whole.trans same) fills
  | kept fills =>
      cases earlier with
      | kept fills' => exact .kept (fills'.trans fills)
      | rebuilt filled whole fills' => exact .rebuilt filled whole (fills'.trans fills)

end Spares

variable {before mid after : Session σ α} {item : ι}

theorem spares_of_searched (searched : before.Searched behaviour after) :
    before.table.Spares after.table :=
  .of_slots_eq searched.slots

/-- A reorganization writes over nothing. -/
theorem Reorganized.spares
    {grow : Bool} {result : Except Failure Unit}
    (reorganized : Reorganized behaviour grow before result after) :
    before.table.Spares after.table := by
  cases reorganized with
  | refused => exact .of_slots_eq rfl
  | interrupted => exact .of_slots_eq rfl
  | committed _ _ refills whole _ => exact .rebuilt refills.fills whole .refl

theorem MadeRoom.spares
    {grow : Bool} {result : Except Failure Unit}
    (madeRoom : MadeRoom behaviour grow before result after) :
    before.table.Spares after.table := by
  cases madeRoom with
  | made reorganized => exact reorganized.spares
  | failed reorganized =>
      exact reorganized.spares.trans reorganized.preserves.items (.of_slots_eq rfl)

theorem Relieved.spares
    {result : Except Failure Unit}
    (relieved : Relieved behaviour before result after) :
    before.table.Spares after.table := by
  cases relieved with
  | calm => exact .of_slots_eq rfl
  | crowded _ madeRoom => exact madeRoom.spares

/-- A search that follows upon making room after a first search writes over
nothing. -/
theorem spares_of_grown
    {exhausted grown : Session σ α}
    (searched : before.Searched behaviour exhausted)
    (madeRoom : MadeRoom behaviour true exhausted (.ok ()) grown)
    (again : grown.Searched behaviour after) :
    before.table.Spares after.table := by
  have earlier := searched.preserves.items
  have first := (spares_of_searched searched).trans earlier madeRoom.spares
  exact first.trans (madeRoom.preserves.items.trans earlier) (spares_of_searched again)

theorem Sought.spares
    {result : Except Failure Probe.Outcome}
    (sought : Sought behaviour item before result after) :
    before.table.Spares after.table := by
  cases sought with
  | located searched => exact spares_of_searched searched
  | grown searched _ madeRoom again => exact spares_of_grown searched madeRoom again
  | failed searched _ madeRoom =>
      exact (spares_of_searched searched).trans searched.preserves.items madeRoom.spares

theorem SoughtUntil.spares (sought : SoughtUntil behaviour item before after) :
    before.table.Spares after.table := by
  cases sought with
  | first searched => exact spares_of_searched searched
  | again searched _ madeRoom again => exact spares_of_grown searched madeRoom again

theorem Prepared.spares
    {result : Except Failure Probe.Outcome}
    (prepared : Prepared behaviour item before result after) :
    before.table.Spares after.table := by
  cases prepared with
  | cramped relieved => exact relieved.spares
  | sought relieved sought =>
      exact relieved.spares.trans relieved.preserves.items sought.spares

theorem PreparedUntil.spares (prepared : PreparedUntil behaviour item before after) :
    before.table.Spares after.table := by
  cases prepared with
  | relieving searched => exact spares_of_searched searched
  | seeking relieved sought =>
      exact relieved.spares.trans relieved.preserves.items sought.spares

/-- An insertion writes over nothing: the copy goes to a slot without an item. -/
theorem Inserted.spares
    {result : Except Failure (Loan α)}
    (inserted : Inserted behaviour item before result after) :
    before.table.Spares after.table := by
  cases inserted with
  | failed prepared => exact prepared.spares
  | full prepared => exact prepared.spares.trans prepared.preserves.items (.of_slots_eq rfl)
  | present prepared => exact prepared.spares
  | uncopied prepared =>
      exact prepared.spares.trans prepared.preserves.items (.of_slots_eq rfl)
  | @stored index copy ready thread prepared _ =>
      obtain ⟨_, within, vacant⟩ := prepared.locates.free_of_vacant
      rw [Session.traced_table]
      apply prepared.spares.trans prepared.preserves.items
      exact .kept (.fill .refl within vacant copy)

theorem InsertedUntil.spares (inserted : InsertedUntil behaviour item before after) :
    before.table.Spares after.table := by
  cases inserted with
  | preparing prepared => exact prepared.spares
  | duplicating prepared => exact prepared.spares

/-- However an insertion into a sound table ends, it writes over nothing. -/
theorem spares_of_passes_insert
    (sound : before.table.Sound)
    (run : Passes (insert behaviour item) before after) :
    before.table.Spares after.table := by
  rcases inserted_of_passes sound run with rfl | ⟨done, isDone, ended⟩
  · exact .of_slots_eq rfl
  · have spares : before.table.Spares done.table := by
      rcases ended with ⟨_, inserted⟩ | inserted
      · exact inserted.spares
      · exact inserted.spares
    rcases isDone with rfl | rfl <;> exact spares

/-- However a reorganization of a sound table ends, it writes over nothing. -/
theorem spares_of_passes_reorganize
    {grow : Bool}
    (sound : before.table.Sound)
    (run : Passes (reorganize behaviour grow) before after) :
    before.table.Spares after.table := by
  have leads : Leads (reorganize behaviour grow) before _ _ := reorganize_leads sound grow
  rcases run with ⟨result, run⟩ | ⟨abort, run⟩
  · exact (leads.of_ok run).spares
  · exact spares_of_searched (leads.of_error run).2

end Table
end OpenAddressing
