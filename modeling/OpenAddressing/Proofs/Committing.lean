import OpenAddressing.Proofs.Enduring

/-!
# Reorganizations commit or leave no trace

A reorganization moves the items one by one while foreign code is asked for
hashes and comparisons.  Whatever that code answers, and wherever it is cut
short, a reorganization either commits to a new array with the same items or
leaves the table as it was but for the tally.  Copies are neither made nor
released in between.
-/

namespace OpenAddressing

open Relocation (slotAt)

variable {σ ι α : Type} {behaviour : Behaviour σ ι α}

/-! ## The tables that are reorganized -/

/-- The tables that a reorganization may meet: those that requests reach, and what
searches and other reorganizations make of them in the course of a request. -/
inductive Behaviour.Encounters (behaviour : Behaviour σ ι α) : Table α → Prop
  | reachable {table : Table α}
      (reachable : behaviour.Reachable table) :
      Encounters behaviour table
  | searched {table : Table α} (purpose : Probe.Purpose) (item : ι) {thread : Thread σ}
      {journal : List Event} {after : Session σ α}
      (encounters : Encounters behaviour table)
      (run : Passes (Table.locate behaviour purpose item) ⟨table, thread, journal⟩ after) :
      Encounters behaviour after.table
  | reorganized {table : Table α} (grow : Bool) {thread : Thread σ}
      {journal : List Event} {after : Session σ α}
      (encounters : Encounters behaviour table)
      (run : Passes (Table.reorganize behaviour grow) ⟨table, thread, journal⟩ after) :
      Encounters behaviour after.table

/-- Every table that a reorganization may meet is intact. -/
theorem Behaviour.Encounters.intact
    {table : Table α}
    (encounters : behaviour.Encounters table) :
    table.Intact behaviour := by
  induction encounters with
  | reachable reachable => exact reachable.intact
  | @searched table purpose item thread journal after _ run intact =>
      have intact' : (⟨table, thread, journal⟩ : Session σ α).table.Intact behaviour := intact
      have leads : Leads (Table.locate behaviour purpose item) _ _ _ :=
        Table.locate_leads intact'.sound.small purpose item
      rcases run with ⟨outcome, run⟩ | ⟨abort, run⟩
      · exact (leads.of_ok run).1.preserves.intact intact'
      · exact (leads.of_error run).2.preserves.intact intact'
  | @reorganized table grow thread journal after _ run intact =>
      have intact' : (⟨table, thread, journal⟩ : Session σ α).table.Intact behaviour := intact
      have leads : Leads (Table.reorganize behaviour grow) _ _ _ :=
        Table.reorganize_leads intact'.sound grow
      rcases run with ⟨result, run⟩ | ⟨abort, run⟩
      · exact (leads.of_ok run).preserves.intact intact'
      · exact (leads.of_error run).2.preserves.intact intact'

/-- So it is sound. -/
theorem Behaviour.Encounters.sound
    {table : Table α}
    (encounters : behaviour.Encounters table) :
    table.Sound :=
  encounters.intact.sound

/-! ## The two endings -/

namespace Table

/-- A table was rebuilt: its items are the same, each as often as before, and no
tombstone is left. -/
structure Rebuilt (grow : Bool) (before after : Table α) : Prop where
  /-- No item is lost, and none is doubled. -/
  items : after.items.Perm before.items
  /-- No slot is a tombstone. -/
  noTombstone : ∀ index, slotAt after.slots index ≠ .tombstone
  /-- The slots in use are those of the items. -/
  entries : after.entries = before.entries - before.tombstones
  /-- No tombstone is counted. -/
  tombstones : after.tombstones = 0
  /-- The capacity is the one that was aimed at. -/
  capacity : before.target? (before.reclaims (before.entries - before.tombstones) grow) =
    some after.capacity
  /-- It is the same table. -/
  identity : after.identity = before.identity
  /-- The settings are fixed. -/
  settings : after.settings = before.settings
  /-- No flag is raised. -/
  flags : after.flags = before.flags

/-- A table is as it was, except that more slots may have been looked at. -/
def Restored (before after : Table α) : Prop :=
  after = { before with tally := after.tally }

variable {grow : Bool} {before after : Session σ α}

/-- A reorganization that succeeds has rebuilt the table. -/
theorem Reorganized.rebuilt
    (reorganized : Reorganized behaviour grow before (.ok ()) after)
    (sound : before.table.Sound) :
    before.table.Rebuilt grow after.table := by
  have live := sound.live_eq_length
  cases reorganized with
  | @committed capacity host target tally thread provided refills whole consults =>
      have aimed := (provision_eq_ok (congrArg Prod.fst provided)).1
      constructor
      · exact whole
      · exact refills.noTombstone
      · exact live.symm
      · rfl
      · rw [live, aimed]
        exact congrArg some refills.size.symm
      · rfl
      · rfl
      · rfl

/-- A reorganization that fails has restored the table. -/
theorem Reorganized.restored
    {failure : Failure}
    (reorganized : Reorganized behaviour grow before (.error failure) after) :
    before.table.Restored after.table := by
  cases reorganized with
  | refused => rfl
  | interrupted => rfl

/-- A search leaves the table as it was. -/
theorem restored_of_searched (searched : before.Searched behaviour after) :
    before.table.Restored after.table := by
  obtain ⟨tally, thread, rfl, _⟩ := searched
  rfl

/-- Whatever foreign code does, a reorganization either succeeds and has rebuilt
the table, or fails or is cut short and has restored it.  Foreign code was asked
for hashes, comparisons and memory only. -/
theorem reorganize_rebuilds_or_restores
    {table : Table α}
    (encounters : behaviour.Encounters table)
    (grow : Bool)
    (thread : Thread σ)
    (journal : List Event) :
    Leads (reorganize behaviour grow) ⟨table, thread, journal⟩
      (fun result after =>
        (match result with
          | .ok () => table.Rebuilt grow after.table
          | .error _ => table.Restored after.table) ∧
        behaviour.Consults thread after.thread)
      (fun _ after =>
        table.Restored after.table ∧ behaviour.Consults thread after.thread) := by
  have sound : (⟨table, thread, journal⟩ : Session σ α).table.Sound := encounters.sound
  refine (reorganize_leads sound grow).mono ?_ ?_
  · intro result after reorganized
    refine ⟨?_, reorganized.preserves.consults⟩
    cases result with
    | ok _ => exact reorganized.rebuilt sound
    | error failure => exact reorganized.restored
  · rintro abort after ⟨_, searched⟩
    exact ⟨restored_of_searched searched, searched.preserves.consults⟩

/-- By its mood, fickle foreign code lets a worn table be rebuilt, loses sight of
an item, or is cut short after some items have moved. -/
theorem reorganize_worn_rebuilds_or_restores :
    (∃ after, reorganize Behaviour.fickle false ⟨Behaviour.wornTable, { host := 10 }, []⟩ =
        .ok (.ok ()) after ∧
      after.table.items = [6, 2, 4, 10] ∧
      Behaviour.wornTable.Rebuilt false after.table) ∧
    (∃ after, reorganize Behaviour.fickle false ⟨Behaviour.wornTable, { host := 1 }, []⟩ =
        .ok (.error .interrupted) after ∧
      Behaviour.wornTable.Restored after.table) ∧
    (∃ abort after, reorganize Behaviour.fickle false
        ⟨Behaviour.wornTable, { host := 4 }, []⟩ = .error abort after ∧
      Behaviour.wornTable.Restored after.table) := by
  have encounters := Behaviour.Encounters.reachable Behaviour.reachable_wornTable
  have ends : ∀ table : Table Nat, Behaviour.fickle.Encounters table → ∀ thread after,
      (reorganize Behaviour.fickle false ⟨table, thread, []⟩ = .ok (.ok ()) after →
        table.Rebuilt false after.table) ∧
      (∀ failure, reorganize Behaviour.fickle false ⟨table, thread, []⟩ =
        .ok (.error failure) after → table.Restored after.table) ∧
      ∀ abort, reorganize Behaviour.fickle false ⟨table, thread, []⟩ = .error abort after →
        table.Restored after.table := by
    intro table encounters thread after
    have leads := reorganize_rebuilds_or_restores encounters false thread []
    exact ⟨fun run => (leads.of_ok run).1, fun _ run => (leads.of_ok run).1,
      fun _ run => (leads.of_error run).1⟩
  refine ⟨?_, ?_, ?_⟩
  · obtain ⟨result, after, run, tested⟩ := exists_of_meets (show meets
      (fun result after => result.isOk && after.table.items == [6, 2, 4, 10])
      (reorganize Behaviour.fickle false ⟨Behaviour.wornTable, { host := 10 }, []⟩) =
        true by decide +kernel)
    rw [Bool.and_eq_true, beq_iff_eq] at tested
    obtain ⟨succeeded, items⟩ := tested
    cases result with
    | error _ => cases succeeded
    | ok _ => exact ⟨after, run, items, (ends _ encounters _ _).1 run⟩
  · obtain ⟨result, after, run, tested⟩ := exists_of_meets (show meets
      (fun result _ => decide (result = .error .interrupted))
      (reorganize Behaviour.fickle false ⟨Behaviour.wornTable, { host := 1 }, []⟩) =
        true by decide +kernel)
    obtain rfl := of_decide_eq_true tested
    exact ⟨after, run, (ends _ encounters _ _).2.1 _ run⟩
  · obtain ⟨abort, after, run, _⟩ := exists_of_cuts (show cuts (fun _ _ => true)
      (reorganize Behaviour.fickle false ⟨Behaviour.wornTable, { host := 4 }, []⟩) =
        true by decide +kernel)
    exact ⟨abort, after, run, (ends _ encounters _ _).2.2 _ run⟩

end Table
end OpenAddressing
