import OpenAddressing.Probe.Trail
import OpenAddressing.Proofs.Probe.Survey

/-!
# Walks

A search is followed together with its trail.  The foreign code that runs between the
steps may do as it pleases with a state of its own; what is known of that state may
depend on the slots looked at so far and on whether the secondary hash was asked for.
A search that comes to an end has looked at the slots of its path in order, up to the
one that ends it, and has counted them.  A search that is cut short has done so up to
the slot where that happened.
-/

namespace OpenAddressing
namespace Probe

/-! ## Trails and tallies of a path -/

/-- The tally after a number of slots was looked at and a number of strides was taken. -/
def Tally.add (tally : Tally) (probes misses : Nat) : Tally where
  probes := tally.probes + .ofNat probes
  misses := tally.misses + .ofNat misses

namespace Tally

variable (tally : Tally) (probes misses : Nat)

@[simp] theorem add_zero : tally.add 0 0 = tally := by
  ext <;> simp [add]

theorem probe_add : (tally.add probes misses).probe = tally.add (probes + 1) misses := by
  ext <;> simp [add, probe, UInt64.ofNat_add, UInt64.add_assoc]

theorem miss_add : (tally.add probes misses).miss = tally.add probes (misses + 1) := by
  ext <;> simp [add, miss, UInt64.ofNat_add, UInt64.add_assoc]

end Tally

namespace Trail

/-- The trail after one more slot was looked at. -/
def visit (trail : Trail) (index : Nat) : Trail :=
  { trail with visited := index :: trail.visited }

/-- The trail after the secondary hash was asked for once more. -/
def ask (trail : Trail) : Trail :=
  { trail with rehashed := trail.rehashed + 1 }

/-- The trail of a search that has looked at the first slots of a path, in order. -/
def along (place : Nat → Nat) (count asks : Nat) : Trail where
  visited := ((List.range count).map place).reverse
  rehashed := asks

variable {place place' : Nat → Nat} {count : Nat}

@[simp] theorem along_visited (place : Nat → Nat) (count asks : Nat) :
    (along place count asks).visited = ((List.range count).map place).reverse := rfl

@[simp] theorem along_zero (place : Nat → Nat) : along place 0 0 = {} := rfl

theorem visit_along (place : Nat → Nat) (count asks : Nat) :
    (along place count asks).visit (place count) = along place (count + 1) asks := by
  simp [along, visit, List.range_succ]

theorem ask_along (place : Nat → Nat) (count asks : Nat) :
    (along place count asks).ask = along place count (asks + 1) := rfl

theorem along_congr
    (same : ∀ step < count, place step = place' step)
    (asks : Nat) :
    along place count asks = along place' count asks := by
  have slots : (List.range count).map place = (List.range count).map place' :=
    List.map_congr_left fun step taken => same step (List.mem_range.mp taken)
  rw [along, slots, along]

end Trail

/-! ## Ends of searches -/

section Ends

variable {τ : Type} (capacity : Nat) (hash : UInt64) (holds : Trail → τ → Prop)
variable (sees : Nat → Sighting → Prop) (rehashes : UInt64 → Prop) (fails : Abort → Prop)

/-- A search has come to the verdict on what it saw.  It has asked for the secondary
hash once if it looked at more than one slot. -/
def Concluded
    (purpose : Purpose)
    (tally : Tally)
    (outcome : Outcome)
    (after : Tally × τ) : Prop :=
  ∃ rehash steps, Sighted capacity hash sees rehashes rehash steps ∧
    outcome = verdict purpose (position capacity hash rehash) capacity steps ∧
    after.1 = tally.add (examined capacity steps) (examined capacity steps - 1) ∧
    holds (Trail.along (position capacity hash rehash) (examined capacity steps)
      (min 1 (examined capacity steps - 1))) after.2

/-- A search was cut short after a number of slots.  None of those before the last one
has ended it. -/
def Halted
    (tally : Tally)
    (abort : Abort)
    (after : Tally × τ) : Prop :=
  ∃ (rehash : UInt64) (steps : Nat → Sighting) (count misses asks : Nat),
    (0 < count ∧ count ≤ capacity ∧ asks ≤ 1) ∧
    (∀ step, step + 1 < count →
      sees (position capacity hash rehash step) (steps step) ∧ (steps step).stops = false) ∧
    fails abort ∧
    (2 * capacity ≤ UInt64.size → misses = count - 1) ∧
    after.1 = tally.add count misses ∧
    holds (Trail.along (position capacity hash rehash) count asks) after.2

end Ends

namespace Course.Surveying

variable {τ : Type} {course : Course} {purpose : Purpose} {capacity count : Nat}
variable {hash rehash : UInt64} {steps : Nat → Sighting} {sighting : Sighting}
variable {holds : Trail → τ → Prop} {sees : Nat → Sighting → Prop}
variable {rehashes : UInt64 → Prop} {fails : Abort → Prop} {state : τ}

/-- A search that ends at a slot has looked at one slot more than those on the way. -/
theorem concluded
    (surveying : course.Surveying purpose capacity hash sees rehashes rehash count steps)
    (looks : sees course.index sighting)
    (taken : examined capacity (Function.update steps count sighting) = count + 1)
    {outcome : Outcome}
    (settled : outcome = verdict purpose (position capacity hash rehash) capacity
      (Function.update steps count sighting))
    (kept : holds (Trail.along (position capacity hash rehash) (count + 1) (min 1 count)) state)
    (tally : Tally) :
    Concluded capacity hash holds sees rehashes purpose tally outcome
      (tally.add (count + 1) count, state) := by
  refine ⟨rehash, _, surveying.sighted looks taken, settled, ?_, ?_⟩ <;>
    rw [taken, Nat.add_sub_cancel]
  exact kept

/-- A search may be cut short once it has looked at a slot, be it the next one or one on
the way. -/
theorem halted
    (surveying : course.Surveying purpose capacity hash sees rehashes rehash count steps)
    {slots misses asks : Nat}
    (bounds : 0 < slots ∧ slots ≤ capacity ∧ slots ≤ count + 1 ∧ asks ≤ 1)
    (fewer : 2 * capacity ≤ UInt64.size → misses = slots - 1)
    {abort : Abort}
    (cut : fails abort)
    (kept : holds (Trail.along (position capacity hash rehash) slots asks) state)
    (tally : Tally) :
    Halted capacity hash holds sees fails tally abort (tally.add slots misses, state) :=
  ⟨rehash, steps, slots, misses, asks, ⟨bounds.1, bounds.2.1, bounds.2.2.2⟩,
    fun step before => ⟨surveying.seen step (by omega), surveying.onPath.going step (by omega)⟩,
    cut, fewer, rfl, kept⟩

end Course.Surveying

/-! ## Searches that are followed -/

namespace Terrain

variable {β τ : Type} {returned : β → Tally × τ → Prop} {aborted : Abort → Tally × τ → Prop}
variable {tally : Tally} {state : τ}

@[simp] theorem leads_lift (computation : EStateM Abort τ β) :
    Leads (Counting.lift computation) (tally, state) returned aborted ↔
      Leads computation state
        (fun value after => returned value (tally, after))
        (fun abort after => aborted abort (tally, after)) := by
  unfold Leads Counting.lift
  cases run : computation state <;> simp only [run]

@[simp] theorem leads_count
    (change : Tally → Tally)
    {returned : Unit → Tally × τ → Prop} :
    Leads (Counting.count change : Counting τ Unit) (tally, state) returned aborted ↔
      returned () (change tally, state) :=
  Iff.rfl

/-- What is known of the foreign code that a search runs: what holds of its state in
view of the trail, what slots may look like, what the secondary hash may be, and which
aborts may be raised.  Address arithmetic fails in arrays that are too large only. -/
structure Watched
    (terrain : Terrain τ)
    (holds : Trail → τ → Prop)
    (sees : Nat → Sighting → Prop)
    (rehashes : UInt64 → Prop)
    (fails : Abort → Prop) : Prop where
  /-- Every slot is seen in a way that it may be seen. -/
  visit : ∀ index < terrain.capacity, ∀ trail state, holds trail state →
    Leads (terrain.visit index) state
      (fun sighting after => sees index sighting ∧ holds (trail.visit index) after)
      (fun abort after => fails abort ∧ holds (trail.visit index) after)
  /-- The secondary hash is one that may be told. -/
  rehash : ∀ trail state, holds trail state →
    Leads terrain.rehash state
      (fun rehash after => rehashes rehash ∧ holds trail.ask after)
      (fun abort after => fails abort ∧ holds trail.ask after)
  /-- Sums of slot numbers may be too large for a machine word. -/
  overflow : UInt64.size < 2 * terrain.capacity → fails (.fault .positionOverflow)

namespace Watched

variable {terrain : Terrain τ} {holds : Trail → τ → Prop} {sees : Nat → Sighting → Prop}
variable {rehashes : UInt64 → Prop} {fails : Abort → Prop}
variable {purpose : Purpose} {hash rehash : UInt64} {count : Nat}
variable {steps : Nat → Sighting} {sighting : Sighting} {course : Course}

/-- The stride of a course is that of a secondary hash that may be told.  It is asked
for before the first stride only. -/
theorem strideOf_leads
    (watched : terrain.Watched holds sees rehashes fails)
    (surveying : course.Surveying purpose terrain.capacity hash sees rehashes
      rehash count steps)
    (sighting : Sighting)
    (tally : Tally)
    (start : holds (Trail.along (position terrain.capacity hash rehash) (count + 1)
      (min 1 count)) state) :
    Leads (terrain.strideOf (course.note purpose sighting)) (tally, state)
      (fun stride after => after.1 = tally ∧ ∃ rehash', rehashes rehash' ∧
        (0 < count → rehash' = rehash) ∧
        stride = Probe.stride terrain.capacity rehash' ∧
        holds (Trail.along (position terrain.capacity hash rehash') (count + 1) 1) after.2)
      (fun abort after => fails abort ∧ after.1 = tally ∧
        holds (Trail.along (position terrain.capacity hash rehash) (count + 1) 1)
          after.2) := by
  unfold strideOf
  rw [Course.note_stride, surveying.onPath.stride]
  rcases Nat.eq_zero_or_pos count with rfl | taken
  · simp only [Nat.lt_irrefl, if_false, leads_bind, leads_lift, leads_pure, true_and]
    refine (watched.rehash _ state start).mono ?_ fun abort after cut => cut
    rintro rehash' after ⟨tells, kept⟩
    refine ⟨rehash', tells, fun impossible => impossible.elim, rfl, ?_⟩
    rw [Trail.ask_along] at kept
    rwa [← Trail.along_congr (fun step before => Course.OnPath.position_congr
      (fun impossible => absurd impossible (Nat.lt_irrefl 0)) (Nat.lt_succ_iff.mp before))]
  · rw [Nat.min_eq_left taken] at start
    simp only [taken, if_true, leads_pure, true_and]
    exact ⟨rehash, surveying.told taken, fun _ => rfl, rfl, start⟩

/-- From a slot that does not end the search, the course moves on by one stride. -/
theorem advance_leads
    (watched : terrain.Watched holds sees rehashes fails)
    (surveying : course.Surveying purpose terrain.capacity hash sees rehashes
      rehash count steps)
    (within : count < terrain.capacity)
    (looks : sees course.index sighting)
    (goes : sighting.stops = false)
    (tally : Tally)
    (start : holds (Trail.along (position terrain.capacity hash rehash) (count + 1)
      (min 1 count)) state) :
    Leads (terrain.advance (course.note purpose sighting)) (tally.add (count + 1) count, state)
      (fun further after => after.1 = tally.add (count + 1) (count + 1) ∧ ∃ rehash',
        further.Surveying purpose terrain.capacity hash sees rehashes rehash' (count + 1)
          (Function.update steps count sighting) ∧
        holds (Trail.along (position terrain.capacity hash rehash') (count + 1) 1) after.2)
      (Halted terrain.capacity hash holds sees fails tally) := by
  have inRange := surveying.onPath.index_lt within
  unfold advance
  rw [leads_bind, Course.note_index]
  refine (watched.strideOf_leads surveying sighting _ start).mono ?_ ?_
  · rintro _ ⟨_, state⟩ ⟨rfl, rehash', tells, same, rfl, kept⟩
    simp only [leads_bind, leads_count, Tally.miss_add]
    have advanced := surveying.advance looks goes tells same
    split
    · exact ⟨rfl, rehash', advanced, kept⟩
    · have bounded := stride_le terrain.capacity rehash'
      exact advanced.halted (by omega) (fun small => by omega) (watched.overflow (by omega))
        kept tally
  · rintro abort ⟨_, state⟩ ⟨cut, rfl, kept⟩
    exact surveying.halted (by omega) (fun _ => rfl) cut kept tally

/-- A search that goes on along its path comes to the verdict on all that was seen, or
is cut short.  The induction is on the number of slots that may still be looked at. -/
theorem follow_leads
    (watched : terrain.Watched holds sees rehashes fails)
    (tally : Tally)
    (remaining : Nat)
    (slots : count + (remaining + 1) = terrain.capacity)
    (surveying : course.Surveying purpose terrain.capacity hash sees rehashes
      rehash count steps)
    (start : holds (Trail.along (position terrain.capacity hash rehash) count
      (min 1 count)) state) :
    Leads (terrain.follow purpose (remaining + 1) course) (tally.add count count, state)
      (Concluded terrain.capacity hash holds sees rehashes purpose tally)
      (Halted terrain.capacity hash holds sees fails tally) := by
  induction remaining using Nat.strongRecOn generalizing count course rehash steps state with
  | ind remaining inductionHypothesis =>
  have onPath := surveying.onPath
  have within : count < terrain.capacity := by omega
  rw [follow]
  simp only [look, leads_bind, leads_count, leads_lift, Tally.probe_add]
  refine (watched.visit course.index (onPath.index_lt within) _ state start).mono ?_ ?_
  · rintro sighting after ⟨looks, kept⟩
    rw [onPath.index, Trail.visit_along] at kept
    have passed : sighting.stops = false →
        Leads
          (if remaining = 0 then pure (course.note purpose sighting).exhaust
          else do
            let course ← terrain.advance (course.note purpose sighting)
            terrain.follow purpose remaining course) (tally.add (count + 1) count, after)
          (Concluded terrain.capacity hash holds sees rehashes purpose tally)
          (Halted terrain.capacity hash holds sees fails tally) := by
      intro goes
      cases remaining with
      | zero =>
          exact surveying.concluded looks (onPath.examined_of_exhaust slots goes)
            (onPath.exhaust_eq_verdict slots goes) kept tally
      | succ remaining =>
          simp only [Nat.add_eq_zero_iff, Nat.one_ne_zero, and_false, if_false, leads_bind]
          refine (watched.advance_leads surveying within looks goes tally kept).mono ?_
            fun abort after cut => cut
          rintro further ⟨_, state⟩ ⟨rfl, rehash', surveying', kept⟩
          refine inductionHypothesis remaining (Nat.lt_succ_self remaining) (by omega)
            surveying' ?_
          rwa [Nat.min_eq_left (Nat.succ_pos count)]
    cases sighting with
    | empty =>
        exact surveying.concluded looks (onPath.examined_of_stops within rfl)
          (onPath.settle_eq_verdict within) kept tally
    | equal =>
        exact surveying.concluded looks (onPath.examined_of_stops within rfl)
          (onPath.found_eq_verdict within) kept tally
    | tombstone => exact passed rfl
    | different => exact passed rfl
  · rintro abort after ⟨cut, kept⟩
    rw [onPath.index, Trail.visit_along] at kept
    exact surveying.halted (by omega) (fun _ => rfl) cut kept tally

/-- A search comes to the verdict on what it saw, or is cut short. -/
theorem search_leads
    (watched : terrain.Watched holds sees rehashes fails)
    (purpose : Purpose)
    (hash : UInt64)
    (tally : Tally)
    (start : holds {} state) :
    Leads (terrain.search purpose hash) (tally, state)
      (Concluded terrain.capacity hash holds sees rehashes purpose tally)
      (Halted terrain.capacity hash holds sees fails tally) := by
  unfold search
  cases size : terrain.capacity with
  | zero =>
      rw [follow]
      refine ⟨0, fun _ => .empty, ⟨Or.inr (Nat.zero_le 1), ?_⟩, ?_, ?_, start⟩
      · intro step taken
        exact absurd taken (Nat.not_lt_zero step)
      · cases purpose <;> rfl
      · exact tally.add_zero.symm
  | succ remaining =>
      rw [← size]
      have leads := watched.follow_leads tally remaining (by omega)
        (.begin purpose terrain.capacity hash sees rehashes) start
      rwa [← size, tally.add_zero] at leads

end Watched

/-! ## Searches whose trail does not matter -/

/-- What is known of the foreign code that a search runs, whatever it has looked at:
a property of its state that it keeps, what slots may look like, what the secondary
hash may be, and which aborts may be raised. -/
structure Charted
    (terrain : Terrain τ)
    (holds : τ → Prop)
    (sees : Nat → Sighting → Prop)
    (rehashes : UInt64 → Prop)
    (fails : Abort → Prop) : Prop where
  /-- Every slot is seen in a way that it may be seen. -/
  visit : ∀ index < terrain.capacity, ∀ state, holds state →
    Leads (terrain.visit index) state
      (fun sighting after => sees index sighting ∧ holds after)
      (fun abort after => fails abort ∧ holds after)
  /-- The secondary hash is one that may be told. -/
  rehash : ∀ state, holds state →
    Leads terrain.rehash state
      (fun rehash after => rehashes rehash ∧ holds after)
      (fun abort after => fails abort ∧ holds after)

namespace Charted

variable {terrain : Terrain τ} {holds : τ → Prop} {sees : Nat → Sighting → Prop}
variable {rehashes : UInt64 → Prop} {fails : Abort → Prop}

/-- A search comes to the verdict on what it saw.  Array sizes leave room for the sums
of slot numbers and strides. -/
theorem search_leads
    (charted : terrain.Charted holds sees rehashes fails)
    (small : 2 * terrain.capacity ≤ UInt64.size)
    (purpose : Purpose)
    (hash : UInt64)
    (tally : Tally)
    (start : holds state) :
    Leads (terrain.search purpose hash) (tally, state)
      (fun outcome after => holds after.2 ∧
        Surveyed terrain.capacity hash sees rehashes purpose outcome)
      (fun abort after => fails abort ∧ holds after.2) := by
  have watched : terrain.Watched (fun _ => holds) sees rehashes fails :=
    { visit := fun index within _ => charted.visit index within
      rehash := fun _ => charted.rehash
      overflow := fun large => absurd small (Nat.not_le.mpr large) }
  refine (watched.search_leads purpose hash tally start).mono ?_ ?_
  · rintro outcome after ⟨rehash, steps, sighted, verdict, _, kept⟩
    exact ⟨kept, rehash, steps, sighted.told, sighted.seen, verdict⟩
  · rintro abort after ⟨_, _, _, _, _, _, _, cut, _, _, kept⟩
    exact ⟨cut, kept⟩

end Charted
end Terrain

end Probe
end OpenAddressing
