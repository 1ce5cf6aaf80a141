import Mathlib.Logic.Function.Basic
import OpenAddressing.Proofs.Probe.Verdict

/-!
# Surveys

A search runs foreign code at every step, which may answer as it pleases and may
cut the search short.  What can be said of its outcome is that it is the verdict
on the sightings it was given along the path of the secondary hash it was told.
The secondary hash matters from the second step on.
-/

namespace OpenAddressing
namespace Probe

/-- A search may come to an outcome if slots may be seen in the given way and
the secondary hash may be as given. -/
def Surveyed
    (capacity : Nat)
    (hash : UInt64)
    (sees : Nat → Sighting → Prop)
    (rehashes : UInt64 → Prop)
    (purpose : Purpose)
    (outcome : Outcome) : Prop :=
  ∃ rehash steps,
    (rehashes rehash ∨ examined capacity steps ≤ 1) ∧
    (∀ step < examined capacity steps,
      sees (position capacity hash rehash step) (steps step)) ∧
    outcome = verdict purpose (position capacity hash rehash) capacity steps

/-- The slot that a search remembers after a number of steps.  Only a search that
wants to insert remembers one. -/
def recalled
    (purpose : Purpose)
    (place : Nat → Nat)
    (count : Nat)
    (steps : Nat → Sighting) : Option Nat :=
  match purpose with
  | .lookup => none
  | .insert => (reusable? count steps).map place

/-- A course that has taken a number of steps without coming to an end.  The
stride is known once the first one was taken. -/
structure Course.OnPath
    (course : Course)
    (purpose : Purpose)
    (capacity : Nat)
    (hash rehash : UInt64)
    (count : Nat)
    (steps : Nat → Sighting) : Prop where
  /-- The course stands at the next slot of the path. -/
  index : course.index = position capacity hash rehash count
  /-- The stride is that of the path. -/
  stride : course.stride = if 0 < count then some (Probe.stride capacity rehash) else none
  /-- The first tombstone is remembered by a search that wants to insert. -/
  reusable : course.reusable = recalled purpose (position capacity hash rehash) count steps
  /-- Nothing that was seen has ended the search. -/
  going : ∀ step < count, (steps step).stops = false

theorem position_lt {capacity : Nat} (positive : 0 < capacity)
    (hash rehash : UInt64) (count : Nat) :
    position capacity hash rehash count < capacity :=
  Nat.mod_lt _ positive

@[simp] theorem Course.note_index (course : Course) (purpose : Purpose) (sighting : Sighting) :
    (course.note purpose sighting).index = course.index := by
  cases purpose <;> cases sighting <;> rfl

@[simp] theorem Course.note_stride (course : Course) (purpose : Purpose) (sighting : Sighting) :
    (course.note purpose sighting).stride = course.stride := by
  cases purpose <;> cases sighting <;> rfl

namespace Course.OnPath

variable {course : Course} {purpose : Purpose} {capacity count : Nat}
variable {hash rehash : UInt64} {steps : Nat → Sighting}
variable {sighting : Sighting}

/-- What was seen on the way stays, and the next sighting is added. -/
theorem update_of_lt {step : Nat} (before : step < count) :
    Function.update steps count sighting step = steps step :=
  Function.update_of_ne (Nat.ne_of_lt before) _ _

/-- A course stands at a slot of the array. -/
theorem index_lt
    (onPath : course.OnPath purpose capacity hash rehash count steps)
    (within : count < capacity) :
    course.index < capacity := by
  rw [onPath.index]
  exact position_lt (by omega) hash rehash count

/-- At an empty slot or an equal item, the search stops. -/
theorem stop?_update
    (onPath : course.OnPath purpose capacity hash rehash count steps)
    (within : count < capacity)
    (stops : sighting.stops = true) :
    stop? capacity (Function.update steps count sighting) = some count := by
  refine stop?_eq_some_iff.mpr ⟨within, ?_, fun step before => ?_⟩
  · rw [Function.update_self]
    exact stops
  · rw [update_of_lt before]
    exact onPath.going step before

/-- That step is then the last one. -/
theorem examined_of_stops
    (onPath : course.OnPath purpose capacity hash rehash count steps)
    (within : count < capacity)
    (stops : sighting.stops = true) :
    examined capacity (Function.update steps count sighting) = count + 1 := by
  unfold examined
  rw [onPath.stop?_update within stops]

/-- At an empty slot, the course settles on the verdict. -/
theorem settle_eq_verdict
    (onPath : course.OnPath purpose capacity hash rehash count steps)
    (within : count < capacity) :
    course.settle purpose =
      verdict purpose (position capacity hash rehash) capacity
        (Function.update steps count .empty) := by
  have stopped := onPath.stop?_update within Sighting.stops_empty
  have remembered : reusable? count (Function.update steps count .empty) =
      reusable? count steps := reusable?_congr fun step before => update_of_lt before
  have standing := onPath.reusable
  unfold verdict
  rw [stopped]
  cases purpose with
  | lookup => simp [settle]
  | insert =>
      simp only [recalled] at standing
      simp only [Function.update_self, reduceCtorEq, if_false, remembered, settle,
        onPath.index, standing]
      cases reusable? count steps <;> rfl

/-- At an equal item, the verdict is that it is found. -/
theorem found_eq_verdict
    (onPath : course.OnPath purpose capacity hash rehash count steps)
    (within : count < capacity) :
    .found course.index =
      verdict purpose (position capacity hash rehash) capacity
        (Function.update steps count .equal) := by
  rw [onPath.index]
  refine (verdict_eq_found within (Function.update_self ..) fun step before => ?_).symm
  rw [update_of_lt before]
  exact onPath.going step before

/-- Past any other slot, the search remembers the first tombstone. -/
theorem note
    (onPath : course.OnPath purpose capacity hash rehash count steps)
    (sighting : Sighting) :
    (course.note purpose sighting).reusable =
      recalled purpose (position capacity hash rehash) (count + 1)
        (Function.update steps count sighting) := by
  have remembered : reusable? count (Function.update steps count sighting) =
      reusable? count steps := reusable?_congr fun step before => update_of_lt before
  have standing := onPath.reusable
  cases purpose with
  | lookup => cases sighting <;> exact standing
  | insert =>
      simp only [recalled, reusable?_succ, Function.update_self, remembered] at standing ⊢
      cases sighting <;> simp only [Course.note, standing, onPath.index] <;>
        cases reusable? count steps <;> simp

/-- A sighting that does not end the search leaves it going. -/
theorem going_update
    (onPath : course.OnPath purpose capacity hash rehash count steps)
    (goes : sighting.stops = false)
    {step : Nat}
    (before : step < count + 1) :
    (Function.update steps count sighting step).stops = false := by
  rcases Nat.lt_or_eq_of_le (Nat.lt_succ_iff.mp before) with earlier | same
  · rw [update_of_lt earlier]
    exact onPath.going step earlier
  · rw [same, Function.update_self]
    exact goes

/-- Past the last slot, nothing has ended the search. -/
theorem stop?_of_exhaust
    (onPath : course.OnPath purpose capacity hash rehash count steps)
    (last : count + 1 = capacity)
    (goes : sighting.stops = false) :
    stop? capacity (Function.update steps count sighting) = none :=
  stop?_eq_none_iff.mpr fun _ within => onPath.going_update goes (last ▸ within)

/-- A search that runs out of slots has looked at all places. -/
theorem examined_of_exhaust
    (onPath : course.OnPath purpose capacity hash rehash count steps)
    (last : count + 1 = capacity)
    (goes : sighting.stops = false) :
    examined capacity (Function.update steps count sighting) = count + 1 := by
  unfold examined
  rw [onPath.stop?_of_exhaust last goes]
  exact last.symm

/-- A course that runs out of slots comes to the verdict. -/
theorem exhaust_eq_verdict
    (onPath : course.OnPath purpose capacity hash rehash count steps)
    (last : count + 1 = capacity)
    (goes : sighting.stops = false) :
    (course.note purpose sighting).exhaust =
      verdict purpose (position capacity hash rehash) capacity
        (Function.update steps count sighting) := by
  have stopped := onPath.stop?_of_exhaust last goes
  have standing := onPath.note sighting
  rw [last] at standing
  unfold verdict exhaust
  rw [stopped, standing]
  cases purpose with
  | lookup => rfl
  | insert =>
      simp only [recalled]
      cases reusable? capacity (Function.update steps count sighting) <;> rfl

/-- A secondary hash that is new was not used by the steps before. -/
theorem position_congr
    {rehash' : UInt64}
    (told : 0 < count → rehash' = rehash)
    {step : Nat}
    (before : step ≤ count) :
    position capacity hash rehash step = position capacity hash rehash' step := by
  rcases Nat.eq_zero_or_pos count with start | taken
  · have zero : step = 0 := by omega
    rw [zero, position_zero, position_zero]
  · rw [told taken]

/-- The next stride keeps the course on its path. -/
theorem advance
    (onPath : course.OnPath purpose capacity hash rehash count steps)
    (goes : sighting.stops = false)
    {rehash' : UInt64}
    (told : 0 < count → rehash' = rehash) :
    OnPath
      { course.note purpose sighting with
        index := next capacity (Probe.stride capacity rehash') course.index
        stride := some (Probe.stride capacity rehash') }
      purpose capacity hash rehash' (count + 1)
      (Function.update steps count sighting) := by
  refine ⟨?_, (if_pos (Nat.succ_pos count)).symm, ?_,
    fun step before => onPath.going_update goes before⟩
  · rw [position_succ, onPath.index, position_congr told (Nat.le_refl count)]
  · rw [onPath.note]
    cases purpose with
    | lookup => rfl
    | insert =>
        simp only [recalled]
        cases remembered : reusable? (count + 1) (Function.update steps count sighting) with
        | none => rfl
        | some first =>
            have within := (reusable?_eq_some_iff.mp remembered).1
            rw [Option.map_some, Option.map_some, position_congr told (by omega)]

end Course.OnPath

/-- A course on its path that has seen what may be seen there.  Its secondary hash
is one that may be told, once it was asked for. -/
structure Course.Surveying
    (course : Course)
    (purpose : Purpose)
    (capacity : Nat)
    (hash : UInt64)
    (sees : Nat → Sighting → Prop)
    (rehashes : UInt64 → Prop)
    (rehash : UInt64)
    (count : Nat)
    (steps : Nat → Sighting) : Prop where
  /-- The course is on its path. -/
  onPath : course.OnPath purpose capacity hash rehash count steps
  /-- The secondary hash was told. -/
  told : 0 < count → rehashes rehash
  /-- Each step saw what may be seen at its place. -/
  seen : ∀ step < count, sees (position capacity hash rehash step) (steps step)

/-- The sightings of a search that came to an end: each is one that may be had at its
place, and so is the secondary hash if the search went on from its first slot. -/
structure Sighted
    (capacity : Nat)
    (hash : UInt64)
    (sees : Nat → Sighting → Prop)
    (rehashes : UInt64 → Prop)
    (rehash : UInt64)
    (steps : Nat → Sighting) : Prop where
  /-- The secondary hash was told, unless the search ended at its first slot. -/
  told : rehashes rehash ∨ examined capacity steps ≤ 1
  /-- Each step saw what may be seen at its place. -/
  seen : ∀ step < examined capacity steps,
    sees (position capacity hash rehash step) (steps step)

namespace Course.Surveying

variable {course : Course} {purpose : Purpose} {capacity count : Nat}
variable {hash rehash : UInt64} {steps : Nat → Sighting}
variable {sighting : Sighting} {sees : Nat → Sighting → Prop} {rehashes : UInt64 → Prop}

/-- A search begins at the home of its hash, and nothing is seen yet. -/
theorem begin
    (purpose : Purpose)
    (capacity : Nat)
    (hash : UInt64)
    (sees : Nat → Sighting → Prop)
    (rehashes : UInt64 → Prop) :
    Course.Surveying { index := home capacity hash } purpose capacity hash sees rehashes
      0 0 (fun _ => .empty) where
  onPath :=
    { index := (position_zero ..).symm
      stride := rfl
      reusable := by cases purpose <;> rfl
      going := fun step before => absurd before (Nat.not_lt_zero step) }
  told := fun impossible => absurd impossible (Nat.lt_irrefl 0)
  seen := fun step before => absurd before (Nat.not_lt_zero step)

/-- What is seen next is added to what was seen. -/
theorem seen_update
    (surveying : course.Surveying purpose capacity hash sees rehashes rehash count steps)
    (looks : sees course.index sighting)
    {step : Nat}
    (before : step < count + 1) :
    sees (position capacity hash rehash step)
      (Function.update steps count sighting step) := by
  rcases Nat.lt_or_eq_of_le (Nat.lt_succ_iff.mp before) with earlier | same
  · rw [OnPath.update_of_lt earlier]
    exact surveying.seen step earlier
  · rw [same, Function.update_self, ← surveying.onPath.index]
    exact looks

/-- The secondary hash was told, unless no more than the first step was taken. -/
theorem told_or_le_one
    (surveying : course.Surveying purpose capacity hash sees rehashes rehash count steps) :
    rehashes rehash ∨ count + 1 ≤ 1 := by
  rcases Nat.eq_zero_or_pos count with start | taken
  · exact Or.inr (by omega)
  · exact Or.inl (surveying.told taken)

/-- A search that ends at a step has sighted its path so far. -/
theorem sighted
    (surveying : course.Surveying purpose capacity hash sees rehashes rehash count steps)
    (looks : sees course.index sighting)
    (taken : examined capacity (Function.update steps count sighting) = count + 1) :
    Sighted capacity hash sees rehashes rehash (Function.update steps count sighting) where
  told := by
    rw [taken]
    exact surveying.told_or_le_one
  seen := by
    intro step before
    rw [taken] at before
    exact surveying.seen_update looks before

/-- After the next stride, the survey goes on. -/
theorem advance
    (surveying : course.Surveying purpose capacity hash sees rehashes rehash count steps)
    (looks : sees course.index sighting)
    (goes : sighting.stops = false)
    {rehash' : UInt64}
    (tells : rehashes rehash')
    (same : 0 < count → rehash' = rehash) :
    Course.Surveying
      { course.note purpose sighting with
        index := next capacity (Probe.stride capacity rehash') course.index
        stride := some (Probe.stride capacity rehash') }
      purpose capacity hash sees rehashes rehash' (count + 1)
      (Function.update steps count sighting) where
  onPath := surveying.onPath.advance goes same
  told := fun _ => tells
  seen := by
    intro step before
    rw [← OnPath.position_congr same (Nat.lt_succ_iff.mp before)]
    exact surveying.seen_update looks before

end Course.Surveying

end Probe
end OpenAddressing
