import Mathlib.Data.List.Basic
import OpenAddressing.Table.Relocation

/-!
# The contents of slot arrays

A table changes its array one slot at a time.  What such a change does to the
items of the array, in whatever order, and to the number of its tombstones is
read off the split of the array at that slot.
-/

namespace OpenAddressing
namespace Slot

open Relocation (slotAt)

variable {α : Type} {slots : Array (Slot α)} {index other : Nat} {slot : Slot α} {item : α}

/-- The items of an array in the order of its slots. -/
def contents (slots : Array (Slot α)) : List α :=
  slots.toList.filterMap item?

/-- The number of tombstones of an array. -/
def graves (slots : Array (Slot α)) : Nat :=
  slots.toList.countP isTombstone

/-! ## Single slots -/

theorem slotAt_eq_empty (outside : slots.size ≤ index) : slotAt slots index = .empty := by
  simp [slotAt, outside]

theorem getElem?_eq_some_slotAt (within : index < slots.size) :
    slots[index]? = some (slotAt slots index) := by
  simp [slotAt, within]

/-- Every member of an array is in one of its slots. -/
theorem exists_slotAt (member : slot ∈ slots.toList) :
    ∃ index < slots.size, slotAt slots index = slot := by
  obtain ⟨index, within, rfl⟩ := List.getElem_of_mem member
  rw [Array.length_toList] at within
  exact ⟨index, within, by simp [slotAt, within]⟩

theorem lt_size_of_slotAt (here : slotAt slots index = slot) (notEmpty : slot ≠ .empty) :
    index < slots.size := by
  by_contra outside
  exact notEmpty (here ▸ slotAt_eq_empty (Nat.le_of_not_lt outside))

/-- A slot that has an item is occupied by it. -/
theorem slotAt_eq_occupied_iff :
    slotAt slots index = .occupied item ↔ (slotAt slots index).item? = some item := by
  cases slotAt slots index <;> simp

@[simp] theorem slotAt_row (count index : Nat) : slotAt (row α count) index = .empty := by
  unfold slotAt row
  rw [Array.getElem?_replicate]
  split <;> rfl

@[simp] theorem slotAt_set_self (within : index < slots.size) (slot : Slot α) :
    slotAt (slots.setIfInBounds index slot) index = slot := by
  simp [slotAt, within]

@[simp] theorem slotAt_set_of_ne (different : index ≠ other) (slot : Slot α) :
    slotAt (slots.setIfInBounds index slot) other = slotAt slots other := by
  simp [slotAt, different]

/-- A write makes no slot empty, or a tombstone, or whatever else it does not write. -/
theorem slotAt_set_ne
    {absent : Slot α}
    (written : slot ≠ absent)
    (held : slotAt slots other ≠ absent) :
    slotAt (slots.setIfInBounds index slot) other ≠ absent := by
  by_cases same : index = other
  · subst same
    by_cases within : index < slots.size
    · rwa [slotAt_set_self within]
    · rwa [Array.setIfInBounds_eq_of_size_le (Nat.le_of_not_lt within)]
  · rwa [slotAt_set_of_ne same]

/-- After a write, an item is stored where it was written, or elsewhere where it
was before. -/
theorem slotAt_set_eq_occupied_iff (within : index < slots.size) :
    slotAt (slots.setIfInBounds index slot) other = .occupied item ↔
      (index = other ∧ slot = .occupied item) ∨
        (index ≠ other ∧ slotAt slots other = .occupied item) := by
  by_cases same : index = other
  · subst same
    simp [within]
  · simp [same]

/-- Arrays of one size are told apart by their slots. -/
theorem ext_slotAt
    {first second : Array (Slot α)}
    (size : first.size = second.size)
    (same : ∀ index, slotAt first index = slotAt second index) :
    first = second := by
  refine Array.ext_getElem? fun index => ?_
  by_cases within : index < first.size
  · rw [getElem?_eq_some_slotAt within, getElem?_eq_some_slotAt (size ▸ within), same]
  · rw [Array.getElem?_eq_none (by omega), Array.getElem?_eq_none (by omega)]

/-- An array lists what its slots hold. -/
theorem toList_eq_map (slots : Array (Slot α)) :
    slots.toList = (List.range slots.size).map (slotAt slots) := by
  refine List.ext_getElem (by simp) fun index within _ => ?_
  rw [Array.length_toList] at within
  simp [slotAt, within]

/-- Writing what is there changes nothing. -/
theorem set_slotAt (slots : Array (Slot α)) (index : Nat) :
    slots.setIfInBounds index (slotAt slots index) = slots := by
  refine ext_slotAt (by simp) fun other => ?_
  by_cases same : index = other
  · subst same
    by_cases within : index < slots.size
    · rw [slotAt_set_self within]
    · rw [slotAt_eq_empty (by simpa using within), slotAt_eq_empty (by omega)]
  · rw [slotAt_set_of_ne same]

/-! ## One changed slot -/

/-- An array falls into the slots before a slot, the slot itself, and the slots
after it, and a change of the slot leaves the others alone. -/
theorem exists_split (within : index < slots.size) :
    ∃ front back, slots.toList = front ++ slotAt slots index :: back ∧
      ∀ slot, (slots.setIfInBounds index slot).toList = front ++ slot :: back := by
  have inList : index < slots.toList.length := within
  have here : slotAt slots index = slots.toList[index] := by simp [slotAt, within]
  refine ⟨slots.toList.take index, slots.toList.drop (index + 1), ?_, fun slot => ?_⟩
  · rw [here, List.getElem_cons_drop, List.take_append_drop]
  · rw [Array.toList_setIfInBounds, List.set_eq_take_append_cons_drop, if_pos inList]

/-- A stored item joins the contents. -/
theorem contents_set_occupied
    (within : index < slots.size)
    (vacant : (slotAt slots index).item? = none)
    (item : α) :
    (contents (slots.setIfInBounds index (.occupied item))).Perm (item :: contents slots) := by
  obtain ⟨front, back, split, change⟩ := exists_split within
  unfold contents
  rw [split, change]
  simp only [List.filterMap_append, List.filterMap_cons, vacant, item?_occupied]
  exact List.perm_middle

/-- An item that is taken away leaves the contents. -/
theorem contents_set_vacated
    (stored : slotAt slots index = .occupied item)
    (vacant : slot.item? = none) :
    (contents slots).Perm (item :: contents (slots.setIfInBounds index slot)) := by
  have within := lt_size_of_slotAt stored (by simp)
  obtain ⟨front, back, split, change⟩ := exists_split within
  unfold contents
  rw [split, change, stored]
  simp only [List.filterMap_append, List.filterMap_cons, vacant, item?_occupied]
  exact List.perm_middle

/-- The number of tombstones changes as the slot does. -/
theorem graves_set (within : index < slots.size) (slot : Slot α) :
    graves (slots.setIfInBounds index slot) + (slotAt slots index).isTombstone.toNat =
      graves slots + slot.isTombstone.toNat := by
  obtain ⟨front, back, split, change⟩ := exists_split within
  unfold graves
  rw [split, change]
  simp only [List.countP_append, List.countP_cons]
  cases (slotAt slots index).isTombstone <;> cases slot.isTombstone <;> simp <;> omega

/-! ## Contents and slots -/

theorem mem_contents_iff : item ∈ contents slots ↔
    ∃ index, slotAt slots index = .occupied item := by
  unfold contents
  rw [List.mem_filterMap]
  constructor
  · rintro ⟨slot, member, holds⟩
    obtain ⟨index, _, here⟩ := exists_slotAt member
    refine ⟨index, here.trans ?_⟩
    cases slot <;> simp_all
  · rintro ⟨index, stored⟩
    have within := lt_size_of_slotAt stored (by simp)
    refine ⟨.occupied item, ?_, rfl⟩
    rw [← stored, Array.mem_toList_iff]
    exact Array.mem_of_getElem? (getElem?_eq_some_slotAt within)

@[simp] theorem contents_row (count : Nat) : contents (row α count) = [] := by
  refine List.eq_nil_iff_forall_not_mem.mpr fun item member => ?_
  obtain ⟨index, stored⟩ := mem_contents_iff.mp member
  simp at stored

@[simp] theorem graves_row (count : Nat) : graves (row α count) = 0 := by
  unfold graves row
  simp [List.countP_replicate, isTombstone]

/-- An array without tombstones has no graves. -/
theorem graves_eq_zero (none : ∀ index, slotAt slots index ≠ .tombstone) :
    graves slots = 0 := by
  unfold graves
  rw [List.countP_eq_zero]
  intro slot member tombstone
  obtain ⟨index, _, here⟩ := exists_slotAt member
  refine none index (here.trans ?_)
  cases slot <;> simp_all [isTombstone]

theorem length_contents_le (slots : Array (Slot α)) : (contents slots).length ≤ slots.size := by
  unfold contents
  exact Nat.le_trans (List.length_filterMap_le ..) (Nat.le_of_eq Array.length_toList)

/-- An array that is occupied throughout has as many items as slots. -/
theorem length_contents_of_full
    (full : ∀ index < slots.size, (slotAt slots index).isOccupied = true) :
    (contents slots).length = slots.size := by
  unfold contents
  rw [List.length_filterMap_eq_countP, ← Array.length_toList, List.countP_eq_length]
  intro slot member
  obtain ⟨index, within, here⟩ := exists_slotAt member
  rw [isSome_item?, ← here]
  exact full index within

/-- The items of one more slot. -/
theorem filterMap_take_succ (slots : Array (Slot α)) (count : Nat) :
    (slots.toList.take (count + 1)).filterMap item? =
      (slots.toList.take count).filterMap item? ++ (slotAt slots count).item?.toList := by
  rw [List.take_add_one, List.filterMap_append]
  congr 1
  by_cases within : count < slots.size
  · simp [slotAt, within]
    cases slots[count] <;> rfl
  · simp [slotAt, within]

/-- A slot further on does not matter to the items before it. -/
theorem filterMap_take_set (slots : Array (Slot α)) (count : Nat) (slot : Slot α) :
    ((slots.setIfInBounds count slot).toList.take count).filterMap item? =
      (slots.toList.take count).filterMap item? := by
  rw [Array.toList_setIfInBounds, List.take_set_of_le (Nat.le_refl count)]

/-- The items of an array are those before a slot, that of the slot, and those
after it. -/
theorem contents_eq_append (slots : Array (Slot α)) (index : Nat) :
    contents slots =
      (slots.toList.take index).filterMap item? ++ (slotAt slots index).item?.toList ++
        (slots.toList.drop (index + 1)).filterMap item? := by
  rw [← filterMap_take_succ, ← List.filterMap_append, List.take_append_drop]
  rfl

theorem contents_eq_append_cons (stored : slotAt slots index = .occupied item) :
    contents slots =
      (slots.toList.take index).filterMap item? ++
        item :: (slots.toList.drop (index + 1)).filterMap item? := by
  rw [contents_eq_append slots index, stored, item?_occupied, Option.toList_some,
    List.append_assoc, List.singleton_append]

/-- Without the item of a slot, those before it and those after it are left. -/
theorem contents_set_eq_append
    (within : index < slots.size)
    (vacant : slot.item? = none) :
    contents (slots.setIfInBounds index slot) =
      (slots.toList.take index).filterMap item? ++
        (slots.toList.drop (index + 1)).filterMap item? := by
  rw [contents_eq_append _ index, slotAt_set_self within, vacant, filterMap_take_set,
    Array.toList_setIfInBounds, List.drop_set_of_lt (Nat.lt_succ_self index),
    Option.toList_none, List.append_nil]

theorem filterMap_take_size (slots : Array (Slot α)) :
    (slots.toList.take slots.size).filterMap item? = contents slots := by
  rw [← Array.length_toList, List.take_length]
  rfl

end Slot
end OpenAddressing
