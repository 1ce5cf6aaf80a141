import OpenAddressing.Proofs.Enduring

/-!
# The counts of a table

A table keeps its counts beside its slots, and changes slots and counts at
different places, between which foreign code may be cut short.  In every
reachable table the counts tell how many slots hold an item and how many are
tombstones.
-/

namespace OpenAddressing

variable {σ ι α β : Type} {behaviour : Behaviour σ ι α} {table : Table α}

namespace Slot

/-- The number of slots that hold an item. -/
def residents (slots : Array (Slot α)) : Nat :=
  slots.toList.countP isOccupied

/-- Every item of an array is in a slot of its own. -/
theorem length_contents (slots : Array (Slot α)) :
    (contents slots).length = residents slots := by
  unfold contents residents
  rw [List.length_filterMap_eq_countP]
  congr 1
  funext slot
  exact isSome_item? slot

end Slot

namespace Table

/-- The counts of a table are those of its slots. -/
structure Counted (table : Table α) : Prop where
  /-- The tombstones are counted. -/
  tombstones : table.tombstones = Slot.graves table.slots
  /-- The slots in use are counted, be they occupied or tombstones. -/
  entries : table.entries = Slot.residents table.slots + Slot.graves table.slots
  /-- The difference of the two counts is the number of occupied slots. -/
  live : table.entries - table.tombstones = Slot.residents table.slots

/-- A sound table is counted. -/
theorem Sound.isCounted (sound : table.Sound) : table.Counted := by
  have items : table.items.length = Slot.residents table.slots :=
    Slot.length_contents table.slots
  have counted := sound.counted
  have buried := sound.buried
  constructor
  · exact buried
  · omega
  · omega

/-- The count of the items is told without a fault. -/
theorem Sound.live_eq_residents
    (sound : table.Sound)
    (thread : Thread σ)
    (journal : List Event) :
    Action.live ⟨table, thread, journal⟩ =
      .ok (Slot.residents table.slots) ⟨table, thread, journal⟩ := by
  rw [← Slot.length_contents]
  have sound' : (⟨table, thread, journal⟩ : Session σ α).table.Sound := sound
  have leads : Leads Action.live ⟨table, thread, journal⟩
      (fun live after => live = table.items.length ∧ after = ⟨table, thread, journal⟩)
      (fun _ _ => False) := sound'.leads_live.mpr ⟨rfl, rfl⟩
  obtain ⟨live, after, run, rfl, rfl⟩ := leads.exists_ok fun _ _ => id
  exact run

end Table

/-- In every reachable table the counts are those of the slots, and a request
keeps them so, whether it returns or is cut short. -/
theorem counts_mirror_slots
    (reachable : behaviour.Reachable table) :
    table.Counted ∧
      (∀ (thread : Thread σ) (journal : List Event),
        Action.live ⟨table, thread, journal⟩ =
          .ok (Slot.residents table.slots) ⟨table, thread, journal⟩) ∧
      ∀ {β : Type} (request : Request σ ι α β) (thread : Thread σ) (journal : List Event)
        (after : Session σ α),
        Passes (request.perform behaviour) ⟨table, thread, journal⟩ after →
          after.table.Counted := by
  refine ⟨reachable.intact.sound.isCounted, reachable.intact.sound.live_eq_residents, ?_⟩
  intro _ request thread journal after run
  exact (reachable.performed request thread journal run).intact.sound.isCounted

/-- The counts of a table on which requests were refused and cut short. -/
theorem counts_mirror_slots_of_worn :
    Behaviour.fickle.Reachable Behaviour.wornTable ∧
      Behaviour.wornTable.entries = 7 ∧ Behaviour.wornTable.tombstones = 3 ∧
      Behaviour.wornTable.Counted := by
  have reachable := Behaviour.reachable_wornTable
  refine ⟨reachable, ?_, ?_, (counts_mirror_slots reachable).1⟩
  · decide +kernel
  · decide +kernel

end OpenAddressing
