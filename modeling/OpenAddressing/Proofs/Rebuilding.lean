import Mathlib.Data.List.Induction
import Mathlib.Data.List.Perm.Subperm
import OpenAddressing.Proofs.Arrangement
import OpenAddressing.Proofs.Probe.Coverage

/-!
# Rebuilt arrays

Items that are placed one after another in an empty array may leave one of them
stranded: every slot on its path is taken by the items placed before it.  If no
item is stranded, the rebuilt array holds all of them.  At a prime capacity no
item is ever stranded, since every path comes by every slot; at other capacities
a path may come by a few slots only.
-/

namespace OpenAddressing

open Relocation (slotAt)
open Probe

variable {ι α : Type} {laws : Laws ι} {key : α → ι} {slots : Array (Slot α)} {copy : α}
variable {copies : List α} {capacity : Nat}

namespace Laws

/-- One of the items finds its whole path taken by the items placed before it. -/
def Strands (laws : Laws ι) (key : α → ι) (capacity : Nat) (copies : List α) : Prop :=
  ∃ front copy back, copies = front ++ copy :: back ∧
    ∀ step < capacity,
      (slotAt (laws.rebuild key capacity front)
        (laws.path capacity (key copy) step)).isOccupied = true

/-- No two of the items are equal. -/
def Distinct (laws : Laws ι) (key : α → ι) (copies : List α) : Prop :=
  copies.Pairwise fun copy twin => laws.equal (key copy) (key twin) = false

/-- The items of an arranged array are distinct. -/
theorem Arranged.distinct_contents (arranged : laws.Arranged key slots) :
    laws.Distinct key (Slot.contents slots) := by
  unfold Distinct Slot.contents
  rw [List.pairwise_filterMap, List.pairwise_iff_getElem]
  intro first second inFirst inSecond before copy isCopy twin isTwin
  have here : slotAt slots first = .occupied copy := by
    rw [Array.length_toList] at inFirst
    cases slot : slots[first] <;> simp_all [slotAt, Slot.item?]
  have there : slotAt slots second = .occupied twin := by
    rw [Array.length_toList] at inSecond
    cases slot : slots[second] <;> simp_all [slotAt, Slot.item?]
  by_contra equal
  have same := arranged.distinct here there (by simpa using equal)
  omega

/-! ## One more item -/

@[simp] theorem size_settle (laws : Laws ι) (key : α → ι) (slots : Array (Slot α)) (copy : α) :
    (laws.settle key slots copy).size = slots.size := by
  unfold settle
  split <;> simp

theorem rebuild_append_singleton (copies : List α) (copy : α) :
    laws.rebuild key capacity (copies ++ [copy]) =
      laws.settle key (laws.rebuild key capacity copies) copy := by
  unfold rebuild
  rw [List.foldl_append]
  rfl

@[simp] theorem size_rebuild (laws : Laws ι) (key : α → ι) (capacity : Nat) (copies : List α) :
    (laws.rebuild key capacity copies).size = capacity := by
  induction copies using List.reverseRecOn with
  | nil => exact Slot.size_row α capacity
  | append_singleton copies copy inductionHypothesis =>
      rw [rebuild_append_singleton, size_settle, inductionHypothesis]

/-- Settling items leaves no tombstone behind. -/
theorem noTombstone_rebuild
    (laws : Laws ι) (key : α → ι) (capacity : Nat) (copies : List α) (index : Nat) :
    slotAt (laws.rebuild key capacity copies) index ≠ .tombstone := by
  induction copies using List.reverseRecOn with
  | nil => simp [rebuild]
  | append_singleton copies copy inductionHypothesis =>
      rw [rebuild_append_singleton]
      unfold settle
      split
      · exact Slot.slotAt_set_ne (by simp) inductionHypothesis
      · exact inductionHypothesis
      · exact inductionHypothesis

/-- An item that finds a vacancy joins the contents. -/
theorem contents_settle
    {index : Nat}
    (vacant : laws.locate key slots .insert (key copy) = .vacant index) :
    (Slot.contents (laws.settle key slots copy)).Perm (copy :: Slot.contents slots) := by
  obtain ⟨_, _, _, free, _⟩ := first_of_locate_vacant vacant
  unfold settle
  rw [vacant]
  exact Slot.contents_set_occupied (index_lt_of_vacant vacant) free copy

/-- Settling an item brings at most that item to the contents. -/
theorem contents_settle_subperm
    (laws : Laws ι) (key : α → ι) (slots : Array (Slot α)) (copy : α) :
    (Slot.contents (laws.settle key slots copy)).Subperm (copy :: Slot.contents slots) := by
  cases located : laws.locate key slots .insert (key copy) with
  | vacant index => exact (contents_settle located).subperm
  | found index =>
      unfold settle
      rw [located]
      exact (List.sublist_cons_self ..).subperm
  | missing =>
      unfold settle
      rw [located]
      exact (List.sublist_cons_self ..).subperm

/-- A rebuilt array holds none but the items it was rebuilt from. -/
theorem contents_rebuild_subperm
    (laws : Laws ι) (key : α → ι) (capacity : Nat) (copies : List α) :
    (Slot.contents (laws.rebuild key capacity copies)).Subperm copies := by
  induction copies using List.reverseRecOn with
  | nil => exact (List.Perm.of_eq (Slot.contents_row capacity)).subperm
  | append_singleton copies copy inductionHypothesis =>
      rw [rebuild_append_singleton]
      refine (contents_settle_subperm ..).trans ?_
      exact ((List.subperm_cons copy).mpr inductionHypothesis).trans
        (List.perm_append_singleton copy copies).symm.subperm

/-! ## Stranded items -/

/-- Among distinct items of which none is stranded, each finds a vacancy in the array that
is rebuilt from those before it. -/
theorem exists_vacant
    {back : List α}
    (distinct : laws.Distinct key (copies ++ copy :: back))
    (none : ¬ laws.Strands key capacity (copies ++ copy :: back)) :
    ∃ index,
      laws.locate key (laws.rebuild key capacity copies) .insert (key copy) = .vacant index := by
  cases located : laws.locate key (laws.rebuild key capacity copies) .insert (key copy) with
  | vacant index => exact ⟨index, rfl⟩
  | found index =>
      obtain ⟨twin, stored, equal⟩ := stored_of_found located
      have member : twin ∈ copies := (contents_rebuild_subperm laws key capacity copies).subset
        (Slot.mem_contents_iff.mpr ⟨index, stored⟩)
      obtain ⟨_, _, apart⟩ := List.pairwise_append.mp distinct
      have different := apart twin member copy List.mem_cons_self
      rw [equal] at different
      cases different
  | missing =>
      refine absurd ⟨copies, copy, back, rfl, fun step within => ?_⟩ none
      obtain ⟨twin, stored, _⟩ := taken_of_missing located step (by simpa using within)
      rw [size_rebuild] at stored
      rw [stored]
      rfl

/-- Without stranded items, a rebuilt array holds all items. -/
theorem contents_rebuild
    (distinct : laws.Distinct key copies)
    (none : ¬ laws.Strands key capacity copies) :
    (Slot.contents (laws.rebuild key capacity copies)).Perm copies := by
  induction copies using List.reverseRecOn with
  | nil => exact List.Perm.of_eq (Slot.contents_row capacity)
  | append_singleton copies copy inductionHypothesis =>
      obtain ⟨distinct', _, _⟩ := List.pairwise_append.mp distinct
      have placed := inductionHypothesis distinct' fun ⟨front, stranded, back, split, taken⟩ =>
        none ⟨front, stranded, back ++ [copy], by rw [split]; simp, taken⟩
      obtain ⟨index, vacant⟩ := exists_vacant distinct none
      rw [rebuild_append_singleton]
      exact (contents_settle vacant).trans
        ((placed.cons copy).trans (List.perm_append_singleton copy copies).symm)

/-- A stranded item is not in the rebuilt array. -/
theorem length_contents_rebuild_lt (strands : laws.Strands key capacity copies) :
    (Slot.contents (laws.rebuild key capacity copies)).length < copies.length := by
  obtain ⟨front, copy, back, rfl, taken⟩ := strands
  induction back using List.reverseRecOn with
  | nil =>
      have stays : laws.settle key (laws.rebuild key capacity front) copy =
          laws.rebuild key capacity front := by
        unfold settle
        split
        · rename_i index vacant
          obtain ⟨step, within, place, free, _⟩ := first_of_locate_vacant vacant
          rw [size_rebuild] at within place
          have occupied := taken step within
          rw [← place, ← Slot.isSome_item?, free] at occupied
          cases occupied
        · rfl
        · rfl
      rw [rebuild_append_singleton, stays, List.length_append]
      exact Nat.lt_succ_of_le (contents_rebuild_subperm laws key capacity front).length_le
  | append_singleton back last inductionHypothesis =>
      rw [show front ++ copy :: (back ++ [last]) = front ++ copy :: back ++ [last] by simp,
        rebuild_append_singleton, List.length_append]
      have more := (contents_settle_subperm laws key
        (laws.rebuild key capacity (front ++ copy :: back)) last).length_le
      exact Nat.lt_of_le_of_lt more (Nat.succ_lt_succ inductionHypothesis)

/-- At a prime capacity that is large enough for the items, none is stranded. -/
theorem not_strands_of_prime
    (prime : capacity.Prime)
    (enough : copies.length ≤ capacity) :
    ¬ laws.Strands key capacity copies := by
  rintro ⟨front, copy, back, rfl, taken⟩
  have full : ∀ index < (laws.rebuild key capacity front).size,
      (slotAt (laws.rebuild key capacity front) index).isOccupied = true := by
    intro index within
    rw [size_rebuild] at within
    obtain ⟨step, early, rfl⟩ := exists_position_eq (laws.hash (key copy))
      (coprime_stride_of_prime prime (laws.rehash (key copy))) within
    exact taken step early
  have slots := Slot.length_contents_of_full full
  have held := (contents_rebuild_subperm laws key capacity front).length_le
  rw [size_rebuild] at slots
  rw [List.length_append, List.length_cons] at enough
  omega

end Laws
end OpenAddressing
