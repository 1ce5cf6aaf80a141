import Mathlib.Data.Nat.Find
import OpenAddressing.Proofs.Foreign
import OpenAddressing.Proofs.Probe.Verdict
import OpenAddressing.Proofs.Slots

/-!
# Arranged arrays

An array is arranged under the laws of its items if every stored copy can be
reached along the path of its key, over slots that are not empty, and if no two
copies have equal keys.  In an arranged array a search finds an equal item if
there is one, and the vacancy that it tells otherwise may be filled.  Filling
all vacancies in turn rebuilds an array from a list of items.
-/

namespace OpenAddressing

open Relocation (slotAt)
open Probe

variable {ι α : Type}

namespace Laws

variable (laws : Laws ι) (key : α → ι)

/-- The slot that the path of an item reaches after a number of strides. -/
def path (capacity : Nat) (item : ι) (count : Nat) : Nat :=
  position capacity (laws.hash item) (laws.rehash item) count

/-- What a search for an item sees at a slot. -/
def sighting (item : ι) : Slot α → Sighting
  | .empty => .empty
  | .tombstone => .tombstone
  | .occupied copy => if laws.equal (key copy) item then .equal else .different

/-- What a search for an item sees at the steps of its path. -/
def sightings (slots : Array (Slot α)) (item : ι) (step : Nat) : Sighting :=
  laws.sighting key item (slotAt slots (laws.path slots.size item step))

/-- The outcome of a search for an item, as far as the laws are concerned. -/
def locate (slots : Array (Slot α)) (purpose : Purpose) (item : ι) : Outcome :=
  verdict purpose (laws.path slots.size item) slots.size (laws.sightings key slots item)

/-- Every stored copy can be reached, and no two copies are equal. -/
structure Arranged (slots : Array (Slot α)) : Prop where
  /-- A copy lies on the path of its key, and no slot before it is empty. -/
  onPath : ∀ {index copy}, slotAt slots index = .occupied copy →
    ∃ step < slots.size, index = laws.path slots.size (key copy) step ∧
      ∀ earlier < step, slotAt slots (laws.path slots.size (key copy) earlier) ≠ .empty
  /-- Equal copies are in the same slot. -/
  distinct : ∀ {index other copy twin}, slotAt slots index = .occupied copy →
    slotAt slots other = .occupied twin → laws.equal (key copy) (key twin) = true →
      index = other

/-- Stores an item at the vacancy on its path, if there is one. -/
def settle (slots : Array (Slot α)) (copy : α) : Array (Slot α) :=
  match laws.locate key slots .insert (key copy) with
  | .vacant index => slots.setIfInBounds index (.occupied copy)
  | .found _ => slots
  | .missing => slots

/-- Stores items one after another in an empty array. -/
def rebuild (capacity : Nat) (copies : List α) : Array (Slot α) :=
  copies.foldl (laws.settle key) (Slot.row α capacity)

variable {laws : Laws ι} {key : α → ι} {slots : Array (Slot α)} {purpose : Purpose}
variable {item : ι} {copy : α} {index : Nat}

/-- Equal items have the same path. -/
theorem path_congr
    {first second : ι}
    (equal : laws.equal first second = true)
    (capacity : Nat) :
    laws.path capacity first = laws.path capacity second := by
  funext count
  unfold path
  rw [laws.hash_eq equal, laws.rehash_eq equal]

theorem path_lt
    {capacity : Nat}
    (positive : 0 < capacity)
    (laws : Laws ι) (item : ι) (count : Nat) :
    laws.path capacity item count < capacity :=
  Nat.mod_lt _ positive

theorem sighting_eq_equal_iff {slot : Slot α} :
    laws.sighting key item slot = .equal ↔
      ∃ copy, slot = .occupied copy ∧ laws.equal (key copy) item = true := by
  cases slot with
  | empty => simp [sighting]
  | tombstone => simp [sighting]
  | occupied copy => by_cases equal : laws.equal (key copy) item <;> simp [sighting, equal]

theorem sighting_eq_different_iff {slot : Slot α} :
    laws.sighting key item slot = .different ↔
      ∃ copy, slot = .occupied copy ∧ laws.equal (key copy) item = false := by
  cases slot with
  | empty => simp [sighting]
  | tombstone => simp [sighting]
  | occupied copy => by_cases equal : laws.equal (key copy) item <;> simp [sighting, equal]

theorem item?_of_sighting {slot : Slot α}
    (vacant : laws.sighting key item slot = .empty ∨ laws.sighting key item slot = .tombstone) :
    slot.item? = none := by
  cases slot with
  | empty => rfl
  | tombstone => rfl
  | occupied copy =>
      by_cases equal : laws.equal (key copy) item <;> simp [sighting, equal] at vacant

theorem sighting_ne_empty_iff (laws : Laws ι) (key : α → ι) (item : ι) {slot : Slot α} :
    laws.sighting key item slot ≠ .empty ↔ slot ≠ .empty := by
  cases slot with
  | empty => simp [sighting]
  | tombstone => simp [sighting]
  | occupied copy => by_cases equal : laws.equal (key copy) item <;> simp [sighting, equal]

/-! ## What a search comes to -/

/-- What is found is equal to the item looked for. -/
theorem stored_of_found (found : laws.locate key slots purpose item = .found index) :
    ∃ copy, slotAt slots index = .occupied copy ∧ laws.equal (key copy) item = true := by
  obtain ⟨last, _, rfl, equal⟩ := equal_of_found found
  exact sighting_eq_equal_iff.mp equal

/-- A vacancy is on the path of the item, behind slots with other items. -/
theorem first_of_locate_vacant
    (vacant : laws.locate key slots purpose item = .vacant index) :
    ∃ step < slots.size, index = laws.path slots.size item step ∧
      (slotAt slots index).item? = none ∧
      ∀ earlier < step, slotAt slots (laws.path slots.size item earlier) ≠ .empty := by
  obtain ⟨_, step, taken, rfl, free, others⟩ := first_of_vacant vacant
  refine ⟨step, Nat.lt_of_lt_of_le taken examined_le, rfl, item?_of_sighting free,
    fun earlier before => ?_⟩
  have other := others earlier before
  rw [← sighting_ne_empty_iff laws key item]
  intro empty
  have impossible : Sighting.empty = .different := empty.symm.trans other
  cases impossible

theorem index_lt_of_vacant
    (vacant : laws.locate key slots purpose item = .vacant index) :
    index < slots.size := by
  obtain ⟨step, within, rfl, _⟩ := first_of_locate_vacant vacant
  exact path_lt (by omega) laws item step

/-- Without a vacancy, the whole path is taken by other items. -/
theorem taken_of_missing (missing : laws.locate key slots .insert item = .missing) :
    ∀ step < slots.size, ∃ copy,
      slotAt slots (laws.path slots.size item step) = .occupied copy ∧
        laws.equal (key copy) item = false := by
  intro step within
  exact sighting_eq_different_iff.mp ((different_of_missing missing).2 step within)

namespace Arranged

/-- In an arranged array, every search for a stored item finds it.  The first
step that reaches its slot is the one to look at, since a path may come back to
a slot. -/
theorem locate_stored
    (arranged : laws.Arranged key slots)
    (stored : slotAt slots index = .occupied copy)
    (equal : laws.equal (key copy) item = true)
    (purpose : Purpose) :
    laws.locate key slots purpose item = .found index := by
  obtain ⟨step, within, place, notEmpty⟩ := arranged.onPath stored
  rw [path_congr equal] at place notEmpty
  have reached : ∃ step, laws.path slots.size item step = index := ⟨step, place.symm⟩
  classical
  obtain ⟨first, reaches, least⟩ : ∃ first, laws.path slots.size item first = index ∧
      ∀ earlier < first, laws.path slots.size item earlier ≠ index :=
    ⟨Nat.find reached, Nat.find_spec reached, fun _ => Nat.find_min reached⟩
  have notLater : first ≤ step := by
    by_contra later
    exact least step (by omega) place.symm
  have sees : laws.sightings key slots item first = .equal := by
    unfold sightings
    rw [reaches, stored, sighting_eq_equal_iff]
    exact ⟨copy, rfl, equal⟩
  have going : ∀ earlier < first, (laws.sightings key slots item earlier).stops = false := by
    intro earlier before
    have notEmpty' := (sighting_ne_empty_iff laws key item).mpr (notEmpty earlier (by omega))
    have notEqual : laws.sightings key slots item earlier ≠ .equal := by
      intro same
      obtain ⟨twin, here, equal'⟩ := sighting_eq_equal_iff.mp same
      refine least earlier before (arranged.distinct here stored ?_)
      exact laws.equal_trans equal' (by rw [laws.equal_comm]; exact equal)
    unfold sightings at notEqual ⊢
    cases seen : laws.sighting key item (slotAt slots (laws.path slots.size item earlier)) with
    | empty => exact absurd seen notEmpty'
    | tombstone => rfl
    | equal => exact absurd seen notEqual
    | different => rfl
  rw [← reaches]
  exact verdict_eq_found (by omega) sees going

/-- An array without items is arranged. -/
theorem row (laws : Laws ι) (key : α → ι) (capacity : Nat) :
    laws.Arranged key (Slot.row α capacity) where
  onPath := by
    intro index copy stored
    simp at stored
  distinct := by
    intro index other copy twin stored
    simp at stored

/-- No stored copy equals an item for which a vacancy is told. -/
theorem unequal_of_vacant
    (arranged : laws.Arranged key slots)
    (vacant : laws.locate key slots .insert item = .vacant index)
    {other : Nat} {twin : α}
    (stored : slotAt slots other = .occupied twin) :
    laws.equal (key twin) item = false := by
  by_contra same
  rw [Bool.not_eq_false] at same
  have found := arranged.locate_stored stored same .insert
  rw [vacant] at found
  cases found

/-- A copy may be stored at the vacancy on the path of its item. -/
theorem occupy
    (arranged : laws.Arranged key slots)
    (vacant : laws.locate key slots .insert item = .vacant index)
    (equal : laws.equal (key copy) item = true) :
    laws.Arranged key (slots.setIfInBounds index (.occupied copy)) := by
  have within := index_lt_of_vacant vacant
  -- No other copy is equal to the new one, or the search would have found it.
  have alone : ∀ {other twin}, slotAt slots other = .occupied twin →
      laws.equal (key twin) (key copy) ≠ true := by
    intro other twin stored same
    have unequal := arranged.unequal_of_vacant vacant stored
    rw [laws.equal_trans same equal] at unequal
    cases unequal
  constructor
  · intro other stored here
    rw [Array.size_setIfInBounds]
    rcases (Slot.slotAt_set_eq_occupied_iff within).mp here with ⟨rfl, isCopy⟩ | ⟨_, old⟩
    · obtain rfl := Slot.occupied.inj isCopy
      obtain ⟨step, inSteps, place, _, notEmpty⟩ := first_of_locate_vacant vacant
      rw [path_congr equal]
      exact ⟨step, inSteps, place, fun earlier before =>
        Slot.slotAt_set_ne (by simp) (notEmpty earlier before)⟩
    · obtain ⟨step, inSteps, place, notEmpty⟩ := arranged.onPath old
      exact ⟨step, inSteps, place, fun earlier before =>
        Slot.slotAt_set_ne (by simp) (notEmpty earlier before)⟩
  · intro first second former latter here there same
    rcases (Slot.slotAt_set_eq_occupied_iff within).mp here with ⟨rfl, isCopy⟩ | ⟨_, old⟩ <;>
      rcases (Slot.slotAt_set_eq_occupied_iff within).mp there with
        ⟨rfl, isCopy'⟩ | ⟨_, old'⟩
    · rfl
    · obtain rfl := Slot.occupied.inj isCopy
      rw [laws.equal_comm] at same
      exact absurd same (alone old')
    · obtain rfl := Slot.occupied.inj isCopy'
      exact absurd same (alone old)
    · exact arranged.distinct old old' same

/-- A copy may be taken away if a tombstone is left in its place. -/
theorem bury
    (arranged : laws.Arranged key slots)
    (stored : slotAt slots index = .occupied copy) :
    laws.Arranged key (slots.setIfInBounds index .tombstone) := by
  have within := Slot.lt_size_of_slotAt stored (by simp)
  have before : ∀ {other copy'},
      slotAt (slots.setIfInBounds index .tombstone) other = .occupied copy' →
        slotAt slots other = .occupied copy' := by
    intro other copy' here
    rcases (Slot.slotAt_set_eq_occupied_iff within).mp here with ⟨_, impossible⟩ | ⟨_, old⟩
    · cases impossible
    · exact old
  constructor
  · intro other copy' here
    obtain ⟨step, inSteps, place, notEmpty⟩ := arranged.onPath (before here)
    rw [Array.size_setIfInBounds]
    exact ⟨step, inSteps, place, fun earlier early =>
      Slot.slotAt_set_ne (by simp) (notEmpty earlier early)⟩
  · intro first second copy' twin here there equal
    exact arranged.distinct (before here) (before there) equal

/-- No two items of an arranged array are equal. -/
theorem unequal (arranged : laws.Arranged key slots) :
    (Slot.contents slots).Pairwise fun first second =>
      laws.equal (key first) (key second) = false := by
  unfold Slot.contents
  rw [List.pairwise_filterMap, List.pairwise_iff_getElem]
  intro index other within within' earlier copy isCopy twin isTwin
  have stored : ∀ {index item} (within : index < slots.toList.length),
      slots.toList[index].item? = some item → slotAt slots index = .occupied item := by
    intro index item within isItem
    rw [Slot.slotAt_eq_occupied_iff, ← isItem]
    simp [slotAt, show index < slots.size from within]
  rw [← Bool.not_eq_true]
  intro equal
  have same := arranged.distinct (stored within isCopy) (stored within' isTwin) equal
  omega

/-- Settling an item keeps an array arranged. -/
theorem settle (arranged : laws.Arranged key slots) (copy : α) :
    laws.Arranged key (laws.settle key slots copy) := by
  unfold Laws.settle
  split
  · rename_i index vacant
    exact arranged.occupy vacant (laws.equal_refl _)
  · exact arranged
  · exact arranged

/-- A rebuilt array is arranged. -/
theorem rebuild (laws : Laws ι) (key : α → ι) (capacity : Nat) (copies : List α) :
    laws.Arranged key (laws.rebuild key capacity copies) :=
  List.foldlRecOn copies (laws.settle key) (row laws key capacity)
    fun _ arranged copy _ => arranged.settle copy

end Arranged

end Laws
end OpenAddressing
