import OpenAddressing.Proofs.Mirroring
import OpenAddressing.Proofs.Probe.Walking

/-!
# Recorded searches

Any search can be run with a record of its trail beside the state of its foreign code.
The record changes nothing else, so what is known of the trails of recorded searches
tells about the searches themselves, however they end.
-/

namespace OpenAddressing
namespace Probe

variable {τ β : Type}

namespace Trail

/-- Runs a program and changes the trail beside its state, however the program ends. -/
def record (change : Trail → Trail) (program : EStateM Abort τ β) :
    EStateM Abort (Trail × τ) β := fun (trail, state) =>
  match program state with
  | .ok value after => .ok value (change trail, after)
  | .error abort after => .error abort (change trail, after)

theorem mirrors_record (change : Trail → Trail) (program : EStateM Abort τ β) :
    Mirrors Prod.snd id (record change program) program := by
  rintro ⟨trail, state⟩
  unfold record
  cases run : program state <;> simp [run, mapResult]

theorem leads_record
    (change : Trail → Trail)
    (program : EStateM Abort τ β)
    {trail : Trail} {state : τ}
    {returned : β → Trail × τ → Prop} {aborted : Abort → Trail × τ → Prop} :
    Leads (record change program) (trail, state) returned aborted ↔
      Leads program state
        (fun value after => returned value (change trail, after))
        (fun abort after => aborted abort (change trail, after)) := by
  unfold Leads record
  cases run : program state <;> simp only [run]

end Trail

namespace Terrain

/-- A terrain that records its use. -/
def recorded (terrain : Terrain τ) : Terrain (Trail × τ) where
  capacity := terrain.capacity
  rehash := Trail.record Trail.ask terrain.rehash
  visit := fun index => Trail.record (·.visit index) (terrain.visit index)

theorem mirrored_recorded (terrain : Terrain τ) :
    terrain.recorded.Mirrored Prod.snd terrain where
  capacity := rfl
  rehash := Trail.mirrors_record _ _
  visit index := Trail.mirrors_record (·.visit index) (terrain.visit index)

variable {terrain : Terrain τ} {purpose : Purpose} {hash : UInt64}
variable {tally : Tally} {trail : Trail} {state : τ}

/-- A search ends as it does when it is recorded. -/
theorem leads_of_recorded
    {returned : Outcome → Tally × Trail × τ → Prop}
    {aborted : Abort → Tally × Trail × τ → Prop}
    (leads : Leads (terrain.recorded.search purpose hash) (tally, trail, state)
      returned aborted) :
    Leads (terrain.search purpose hash) (tally, state)
      (fun outcome after => ∃ trail',
        terrain.recorded.search purpose hash (tally, trail, state) =
          .ok outcome (after.1, trail', after.2) ∧
        returned outcome (after.1, trail', after.2))
      (fun abort after => ∃ trail',
        terrain.recorded.search purpose hash (tally, trail, state) =
          .error abort (after.1, trail', after.2) ∧
        aborted abort (after.1, trail', after.2)) := by
  have same : terrain.search purpose hash (tally, state) =
      mapResult id (Prod.map id Prod.snd)
        (terrain.recorded.search purpose hash (tally, trail, state)) :=
    terrain.mirrored_recorded.search purpose hash (tally, trail, state)
  unfold Leads at leads ⊢
  rw [same]
  cases run : terrain.recorded.search purpose hash (tally, trail, state) with
  | ok outcome after =>
      rw [run] at leads
      exact ⟨after.2.1, rfl, leads⟩
  | error abort after =>
      rw [run] at leads
      exact ⟨after.2.1, rfl, leads⟩

/-- A recorded search leaves the trail of its path. -/
theorem Charted.recorded_leads
    {holds : τ → Prop} {sees : Nat → Sighting → Prop} {rehashes : UInt64 → Prop}
    {fails : Abort → Prop}
    (charted : terrain.Charted holds sees rehashes fails)
    (small : 2 * terrain.capacity ≤ UInt64.size)
    (purpose : Purpose)
    (hash : UInt64)
    (tally : Tally)
    (start : holds state) :
    Leads (terrain.recorded.search purpose hash) (tally, {}, state)
      (Concluded terrain.capacity hash (fun trail after => after.1 = trail ∧ holds after.2)
        sees rehashes purpose tally)
      (Halted terrain.capacity hash (fun trail after => after.1 = trail ∧ holds after.2)
        sees fails tally) := by
  have watched : terrain.recorded.Watched
      (fun trail after => after.1 = trail ∧ holds after.2) sees rehashes fails :=
    { visit := by
        rintro index within _ ⟨trail, state⟩ ⟨rfl, kept⟩
        refine (Trail.leads_record (·.visit index) (terrain.visit index)).mpr
          ((charted.visit index within state kept).mono ?_ ?_)
        · rintro sighting after ⟨looks, kept⟩
          exact ⟨looks, rfl, kept⟩
        · rintro abort after ⟨cut, kept⟩
          exact ⟨cut, rfl, kept⟩
      rehash := by
        rintro _ ⟨trail, state⟩ ⟨rfl, kept⟩
        refine (Trail.leads_record Trail.ask terrain.rehash).mpr
          ((charted.rehash state kept).mono ?_ ?_)
        · rintro rehash after ⟨tells, kept⟩
          exact ⟨tells, rfl, kept⟩
        · rintro abort after ⟨cut, kept⟩
          exact ⟨cut, rfl, kept⟩
      overflow := fun large => absurd small (Nat.not_le.mpr large) }
  exact watched.search_leads purpose hash tally ⟨rfl, start⟩

end Terrain
end Probe
end OpenAddressing
