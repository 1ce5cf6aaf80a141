import OpenAddressing.Proofs.Relocating
import OpenAddressing.Proofs.Rungs
import OpenAddressing.Table.Reorganize

/-!
# Reorganizing a table

The counts of a sound table agree with its slots and stay below the threshold.
From a sound table, a reorganization ends in one of three ways: it is refused
before an item has moved, it is interrupted because an item found no place, or
it puts a refilled array in place of the old one.  In the first two cases, and
when foreign code cuts it short, the slots and the counts are as before.
-/

namespace OpenAddressing

open Relocation (slotAt)

variable {σ ι α : Type}

/-! ## Sound tables -/

/-- The counts of a table agree with its slots, and the capacity is neither too
small nor too large to be worked with. -/
structure Table.Sound (table : Table α) : Prop where
  /-- The slots in use hold items or tombstones. -/
  counted : table.entries = table.items.length + table.tombstones
  /-- The tombstones are counted. -/
  buried : table.tombstones = Slot.graves table.slots
  /-- The slots in use do not exceed the threshold. -/
  loaded : table.entries ≤ Ladder.threshold table.capacity
  /-- No capacity is below the least one. -/
  large : Ladder.minimumCapacity ≤ table.capacity
  /-- The sum of a slot number and a stride is a machine word. -/
  small : 2 * table.capacity ≤ UInt64.size

/-- The items are counted by the difference of the two counts. -/
theorem Table.Sound.live_eq_length {table : Table α} (sound : table.Sound) :
    table.entries - table.tombstones = table.items.length := by
  have counted := sound.counted
  omega

/-- Twice the number of slots of an array that can be addressed is a machine
word. -/
theorem Slot.two_mul_le_of_addressable
    {slotBytes count : Nat}
    (positive : 0 < slotBytes)
    (addressable : Slot.addressable slotBytes count = true) :
    2 * count ≤ UInt64.size := by
  have bound : count * slotBytes ≤ Slot.largestArrayBytes := by
    simpa [Slot.addressable] using addressable
  have least : count * 1 ≤ count * slotBytes := Nat.mul_le_mul_left count positive
  unfold Slot.largestArrayBytes at bound
  omega

namespace Table

/-- A new table is sound and without items. -/
theorem sound_of_create
    {behaviour : Behaviour σ ι α} {settings : Settings} {identity : Nat} {host : σ}
    {table : Table α}
    (created : (create behaviour settings identity host).1 = .ok table) :
    table.Sound ∧ table = {
      identity
      settings
      slots := Slot.row α settings.initialCapacity } := by
  unfold create at created
  split at created
  · simp at created
  · rename_i valid
    split at created
    · simp at created
    · rename_i slots host' granted
      cases created
      obtain ⟨rfl, addressable⟩ := Behaviour.slots_eq_some (congrArg Prod.fst granted)
      have large := (Settings.validate_eq_ok_iff settings).mp valid
      refine ⟨⟨?_, ?_, ?_, ?_, ?_⟩, rfl⟩
      · exact (congrArg List.length (Slot.contents_row settings.initialCapacity)).symm
      · exact (Slot.graves_row settings.initialCapacity).symm
      · exact Nat.zero_le _
      · simpa [capacity] using large
      · simpa [capacity] using
          Slot.two_mul_le_of_addressable behaviour.slotBytes_pos addressable

/-! ## Before an item moves -/

/-- Why a reorganization is refused before an item has moved. -/
inductive Refusal where
  /-- No larger capacity is allowed. -/
  | exhausted (capacity : Nat)
  /-- There is no memory for an array of the capacity. -/
  | unallocated (capacity : Nat)
  /-- There is no memory to write down the moves. -/
  | unlogged
deriving DecidableEq

namespace Refusal

/-- The failure that a refusal is reported as. -/
def failure : Refusal → Failure
  | exhausted _ => .tableFull
  | unallocated _ => .outOfMemory
  | unlogged => .outOfMemory

/-- The events that tell of a refusal. -/
def events : Refusal → List Event
  | exhausted capacity => [.ladderExhausted capacity]
  | unallocated capacity => [.allocationFailed capacity]
  | unlogged => []

end Refusal

/-- The capacity that a reorganization moves to if it is not refused, and the
host after it was asked for memory. -/
def provision
    (behaviour : Behaviour σ ι α)
    (table : Table α)
    (grow : Bool)
    (host : σ) : Except Refusal Nat × σ :=
  let live := table.items.length
  match table.target? (table.reclaims live grow) with
  | none => (.error (.exhausted table.capacity), host)
  | some capacity =>
    match behaviour.slots capacity host with
    | (none, host) => (.error (.unallocated capacity), host)
    | (some _, host) =>
      match behaviour.moveLog live host with
      | (true, host) => (.ok capacity, host)
      | (false, host) => (.error .unlogged, host)

variable {behaviour : Behaviour σ ι α} {table : Table α} {grow : Bool} {host : σ}

/-- A capacity that was provided is the one aimed at, and an array of it can be addressed. -/
theorem addressable_of_provision
    {capacity : Nat}
    (provided : (provision behaviour table grow host).1 = .ok capacity) :
    table.target? (table.reclaims table.items.length grow) = some capacity ∧
      Slot.addressable behaviour.slotBytes capacity = true := by
  unfold provision at provided
  simp only at provided
  split at provided
  · simp at provided
  · rename_i target aimed
    split at provided
    · simp at provided
    · rename_i slots host' granted
      have addressable := (Behaviour.slots_eq_some (congrArg Prod.fst granted)).2
      split at provided
      · cases provided
        exact ⟨aimed, addressable⟩
      · simp at provided

/-- So the sum of a slot number and a stride is a machine word there. -/
theorem provision_eq_ok
    {capacity : Nat}
    (provided : (provision behaviour table grow host).1 = .ok capacity) :
    table.target? (table.reclaims table.items.length grow) = some capacity ∧
      2 * capacity ≤ UInt64.size := by
  obtain ⟨aimed, addressable⟩ := addressable_of_provision provided
  exact ⟨aimed, Slot.two_mul_le_of_addressable behaviour.slotBytes_pos addressable⟩

/-- The host is asked for memory as foreign functions are. -/
theorem consults_provision
    (behaviour : Behaviour σ ι α)
    (table : Table α)
    (grow : Bool)
    (thread : Thread σ) :
    behaviour.Consults thread
      { thread with host := (provision behaviour table grow thread.host).2 } := by
  unfold provision
  simp only
  split
  · exact .refl thread
  · rename_i target aimed
    have forSlots := behaviour.consults_slots target thread
    split
    · rename_i host granted
      rwa [granted] at forSlots
    · rename_i slots host granted
      rw [granted] at forSlots
      have forMoves := behaviour.consults_moveLog table.items.length { thread with host }
      split
      · rename_i host' logged
        rw [logged] at forMoves
        exact forSlots.trans forMoves
      · rename_i host' unlogged
        rw [unlogged] at forMoves
        exact forSlots.trans forMoves

/-- Growth aims at a capacity with a larger threshold; reclaiming keeps the
capacity and has a tombstone to drop. -/
theorem target?_cases
    {reclaim : Bool} {capacity : Nat}
    (aimed : table.target? reclaim = some capacity) :
    (reclaim = true ∧ capacity = table.capacity) ∨
      (reclaim = false ∧ Ladder.next? table.capacity = some capacity ∧
        capacity ≤ table.settings.maxCapacity) := by
  unfold target? at aimed
  split at aimed
  · rename_i isReclaim
    exact Or.inl ⟨isReclaim, (Option.some.inj aimed).symm⟩
  · rename_i notReclaim
    exact Or.inr ⟨by simpa using notReclaim, Ladder.nextWithin?_eq_some aimed⟩

/-- The items of a sound table do not fill the capacity aimed at to its
threshold. -/
theorem Sound.room_of_target?
    (sound : table.Sound)
    {capacity : Nat}
    (aimed : table.target? (table.reclaims table.items.length grow) = some capacity) :
    Ladder.minimumCapacity ≤ capacity ∧ table.capacity ≤ capacity ∧
      table.items.length < Ladder.threshold capacity := by
  have counted := sound.counted
  have loaded := sound.loaded
  have large := sound.large
  rcases target?_cases aimed with ⟨isReclaim, rfl⟩ | ⟨_, next, _⟩
  · have dropped : table.items.length / 4 < table.tombstones := by
      unfold reclaims at isReclaim
      simp_all
    exact ⟨large, Nat.le_refl _, by omega⟩
  · have larger := Ladder.lt_of_next? next
    have threshold := Ladder.threshold_lt_of_next? next
    exact ⟨by omega, by omega, by omega⟩

/-! ## The three endings -/

/-- The table with a new array in place of the old one. -/
def refilled (table : Table α) (target : Array (Slot α)) (tally : Probe.Tally) : Table α :=
  { table with
    slots := target
    entries := table.items.length
    tombstones := 0
    tally }

/-- How a reorganization may end. -/
inductive Reorganized
    (behaviour : Behaviour σ ι α)
    (grow : Bool)
    (before : Session σ α) : Except Failure Unit → Session σ α → Prop
  /-- Nothing was moved. -/
  | refused (refusal : Refusal) {host : σ}
      (provided : provision behaviour before.table grow before.thread.host =
        (.error refusal, host)) :
      Reorganized behaviour grow before (.error refusal.failure) { before with
        thread := { before.thread with host }
        journal := refusal.events ++ before.journal }
  /-- An item found no place, and all were moved back. -/
  | interrupted {capacity : Nat} {host : σ} {target : Array (Slot α)} (tally : Probe.Tally)
      {thread : Thread σ}
      (provided : provision behaviour before.table grow before.thread.host =
        (.ok capacity, host))
      (refills : behaviour.Refills capacity before.table.items target)
      (lost : (Slot.contents target).length ≠ before.table.items.length)
      (consults : behaviour.Consults { before.thread with host } thread) :
      Reorganized behaviour grow before (.error .interrupted) {
        table := { before.table with tally }
        thread
        journal := .rolledBack before.table.capacity before.table.items.length
          (Slot.contents target).length :: before.journal }
  /-- All items were moved. -/
  | committed {capacity : Nat} {host : σ} {target : Array (Slot α)} (tally : Probe.Tally)
      {thread : Thread σ}
      (provided : provision behaviour before.table grow before.thread.host =
        (.ok capacity, host))
      (refills : behaviour.Refills capacity before.table.items target)
      (whole : (Slot.contents target).Perm before.table.items)
      (consults : behaviour.Consults { before.thread with host } thread) :
      Reorganized behaviour grow before (.ok ()) {
        table := before.table.refilled target tally
        thread
        journal := .reorganized before.table.capacity target.size before.table.items.length
          (before.table.reclaims before.table.items.length grow) :: before.journal }

variable {session : Session σ α}

/-- The items of a sound table are counted without a fault. -/
theorem Sound.leads_live
    (sound : session.table.Sound)
    {returned : Nat → Session σ α → Prop} {aborted : Abort → Session σ α → Prop} :
    Leads Action.live session returned aborted ↔
      returned session.table.items.length session := by
  have counted := sound.counted
  unfold Leads Action.live
  rw [if_pos (by omega)]
  simp only [sound.live_eq_length]

/-- A relocation to a new array commits or is interrupted. -/
theorem relocate_leads
    {capacity : Nat}
    (small : 2 * capacity ≤ UInt64.size)
    (provided : provision behaviour session.table grow session.thread.host =
      (.ok capacity, host)) :
    Leads
      (relocate behaviour (Slot.row α capacity) session.table.items.length
        (session.table.reclaims session.table.items.length grow))
      { session with thread := { session.thread with host } }
      (fun result after => Reorganized behaviour grow session result after)
      (fun abort after => behaviour.Raises abort ∧ session.Searched behaviour after) := by
  obtain ⟨table, thread, journal⟩ := session
  have toHost : behaviour.Consults thread { thread with host } := by
    have consults := consults_provision behaviour table grow thread
    rwa [provided] at consults
  have first := Relocation.Underway.first behaviour table.slots capacity table.items.length
    table.tally { thread with host } rfl
  have leads := Relocation.placeAll_leads small first rfl
  unfold Leads relocate
  simp only
  generalize run : Relocation.placeAll behaviour _ = ending
  cases ending with
  | error abort relocation =>
      obtain ⟨raises, restores, asked⟩ := leads.of_error run
      refine ⟨raises, relocation.tally, relocation.thread, ?_, toHost.trans asked⟩
      simp only [restores]
  | ok _ relocation =>
      have underway := leads.of_ok run
      have refills : behaviour.Refills capacity table.items relocation.target := by
        have refills := underway.refills
        rwa [Slot.filterMap_take_size] at refills
      have moved := underway.moved
      by_cases all : relocation.moves.length = table.items.length
      · have left : Slot.contents relocation.source = [] := by
          rw [← List.length_eq_zero_iff]
          have lengths := underway.whole.length_eq
          rw [List.length_append] at lengths
          change _ = table.items.length at lengths
          omega
        have whole := underway.whole
        rw [left, List.nil_append] at whole
        have committed : Reorganized behaviour grow ⟨table, thread, journal⟩ _ _ :=
          .committed relocation.tally provided refills whole underway.asked
        simp only [conclude, if_pos all]
        simpa only [refilled, all] using committed
      · have interrupted : Reorganized behaviour grow ⟨table, thread, journal⟩ _ _ :=
          .interrupted relocation.tally provided refills (by rwa [← moved]) underway.asked
        simp only [conclude, if_neg all, underway.restores]
        simpa only [moved] using interrupted

/-- A reorganization of a sound table ends in one of the three ways, or foreign
code cuts it short and leaves slots and counts as they were. -/
theorem reorganize_leads
    (sound : session.table.Sound)
    (grow : Bool) :
    Leads (reorganize behaviour grow) session
      (fun result after => Reorganized behaviour grow session result after)
      (fun abort after => behaviour.Raises abort ∧ session.Searched behaviour after) := by
  unfold reorganize
  simp only [leads_bind, Action.leads_inspect, sound.leads_live, id]
  cases aimed : session.table.target? (session.table.reclaims session.table.items.length grow) with
  | none => exact .refused (.exhausted _) (by simp only [provision, aimed])
  | some capacity =>
      simp only [leads_bind, Action.leads_onHost]
      cases granted : behaviour.slots capacity session.thread.host with
      | mk slots? host =>
          cases slots? with
          | none =>
              exact .refused (.unallocated _) (by simp only [provision, aimed, granted])
          | some target =>
              simp only [leads_bind, Action.leads_onHost]
              cases logged : behaviour.moveLog session.table.items.length host with
              | mk enough host =>
                  cases enough with
                  | false =>
                      exact .refused .unlogged
                        (by simp only [provision, aimed, granted, logged])
                  | true =>
                      have provided : provision behaviour session.table grow
                          session.thread.host = (.ok capacity, host) := by
                        simp only [provision, aimed, granted, logged]
                      obtain ⟨rfl, _⟩ := Behaviour.slots_eq_some (congrArg Prod.fst granted)
                      exact relocate_leads
                        (provision_eq_ok (congrArg Prod.fst provided)).2 provided

end Table
end OpenAddressing
