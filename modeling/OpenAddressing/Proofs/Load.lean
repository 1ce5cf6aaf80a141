import OpenAddressing.Proofs.Committing
import OpenAddressing.Proofs.Counting
import OpenAddressing.Proofs.Probe.Coverage

/-!
# The load of a table

A search ends because some slots are empty.  The slots in use never exceed the
threshold, so an eighth of the slots is empty at any time, and a table that was
reorganized has room below the threshold for the item that it was reorganized
for.  At a prime capacity every path comes by an empty slot, so a search for the
place of an item finds one, whatever foreign code answers.
-/

namespace OpenAddressing

open Relocation (slotAt)
open Probe

variable {σ ι α : Type} {behaviour : Behaviour σ ι α}

namespace Ladder

/-- The slots above the threshold are an eighth of all. -/
theorem threshold_add (capacity : Nat) : threshold capacity + capacity / 8 = capacity :=
  Nat.sub_add_cancel (Nat.div_le_self capacity 8)

theorem one_le_div {capacity : Nat} (large : minimumCapacity ≤ capacity) :
    1 ≤ capacity / 8 :=
  (Nat.one_le_div_iff (by decide)).mpr large

theorem threshold_lt {capacity : Nat} (large : minimumCapacity ≤ capacity) :
    threshold capacity < capacity := by
  have eighth := one_le_div large
  have whole := threshold_add capacity
  omega

end Ladder

/-! ## Empty slots -/

namespace Slot

variable {slots : Array (Slot α)}

/-- The number of empty slots. -/
def blanks (slots : Array (Slot α)) : Nat :=
  slots.toList.countP isEmpty

/-- Every slot holds an item or is a tombstone or empty. -/
theorem census (slots : Array (Slot α)) :
    residents slots + graves slots + blanks slots = slots.size := by
  unfold residents graves blanks
  rw [← Array.length_toList]
  induction slots.toList with
  | nil => rfl
  | cons slot rest inductionHypothesis =>
      simp only [List.countP_cons, List.length_cons]
      cases slot <;> simp [isOccupied, isTombstone, isEmpty] <;> omega

theorem exists_blank (blank : 0 < blanks slots) :
    ∃ index < slots.size, slotAt slots index = .empty := by
  obtain ⟨slot, member, isBlank⟩ := List.countP_pos_iff.mp blank
  obtain ⟨index, within, here⟩ := exists_slotAt member
  refine ⟨index, within, here.trans ?_⟩
  cases slot <;> simp_all [isEmpty]

end Slot

/-- At a prime capacity, a search for the place of an item comes by the empty
slots and so does not fail while there is one. -/
theorem Behaviour.Locates.ne_missing
    {slots : Array (Slot α)} {item : ι} {outcome : Outcome}
    (locates : behaviour.Locates slots .insert item outcome)
    (prime : slots.size.Prime)
    (blank : 0 < Slot.blanks slots) :
    outcome ≠ .missing := by
  rintro rfl
  obtain ⟨hash, _, rehash, steps, _, seen, missing⟩ := locates
  obtain ⟨throughout, others⟩ := different_of_missing missing.symm
  obtain ⟨index, within, isBlank⟩ := Slot.exists_blank blank
  obtain ⟨step, early, reaches⟩ :=
    exists_position_eq hash (coprime_stride_of_prime prime rehash) within
  have sees : behaviour.Sees item .empty (steps step) := by
    rw [← isBlank, ← reaches]
    exact seen step (Nat.lt_of_lt_of_eq early throughout.symm)
  rw [others step early] at sees
  cases sees

/-! ## Bounded loads -/

namespace Table

/-- The load of a table stays below its capacity. -/
structure Bounded (table : Table α) : Prop where
  /-- The slots in use do not exceed the threshold. -/
  loaded : table.entries ≤ Ladder.threshold table.capacity
  /-- The slots above the threshold are an eighth of all. -/
  spared : Ladder.threshold table.capacity = table.capacity - table.capacity / 8
  /-- The threshold is below the capacity. -/
  below : Ladder.threshold table.capacity < table.capacity
  /-- An eighth of the slots is empty, if not more. -/
  blank : table.capacity / 8 ≤ Slot.blanks table.slots
  /-- An eighth is one slot at least. -/
  positive : 1 ≤ table.capacity / 8

variable {table : Table α} {before after : Session σ α}

/-- The load of a sound table is bounded. -/
theorem Sound.bounded (sound : table.Sound) : table.Bounded := by
  have entries := sound.isCounted.entries
  have census := Slot.census table.slots
  have whole := Ladder.threshold_add table.capacity
  have loaded := sound.loaded
  refine ⟨loaded, rfl, Ladder.threshold_lt sound.large, ?_, Ladder.one_le_div sound.large⟩
  change _ = table.capacity at census
  omega

/-- So no search for a place fails at a prime capacity. -/
theorem Sound.not_missing
    {item : ι}
    (sound : table.Sound)
    (prime : table.capacity.Prime) :
    ¬ behaviour.Locates table.slots .insert item .missing := by
  intro missing
  have blank := Nat.lt_of_lt_of_le sound.bounded.positive sound.bounded.blank
  exact missing.ne_missing prime blank rfl

/-- A reorganization that succeeds keeps the capacity or moves to the next rung. -/
theorem Reorganized.capacity_of_ok
    {grow : Bool}
    (reorganized : Reorganized behaviour grow before (.ok ()) after) :
    after.table.capacity = before.table.capacity ∨
      Ladder.next? before.table.capacity = some after.table.capacity := by
  cases reorganized with
  | @committed capacity host target tally thread provided refills whole consults =>
      have aimed := (provision_eq_ok (congrArg Prod.fst provided)).1
      have size : (before.table.refilled target tally).capacity = capacity := refills.size
      rw [size]
      rcases target?_cases aimed with ⟨_, same⟩ | ⟨_, next, _⟩
      · exact Or.inl same
      · exact Or.inr next

/-- However an insertion into an intact table ends, the table is intact. -/
theorem intact_of_passes_insert
    {item : ι}
    (intact : before.table.Intact behaviour)
    (run : Passes (insert behaviour item) before after) :
    after.table.Intact behaviour := by
  have intact' : before.joined.table.Intact behaviour := intact
  rcases inserted_of_passes intact.sound run with rfl | ⟨done, isDone, ended⟩
  · exact intact
  · have kept : done.table.Intact behaviour := by
      rcases ended with ⟨_, inserted⟩ | inserted
      · exact inserted.intact intact'
      · exact inserted.intact intact'
    rcases isDone with rfl | rfl <;> exact kept

end Table

/-- The load of every table that requests reach, and of every table in between that
a reorganization may meet, is bounded.  A reorganization keeps it so, and if it
succeeds, the slots in use stay below the threshold of the new array, be its
capacity the old one or the next rung.  So an insertion keeps the load bounded,
however it ends. -/
theorem load_stays_bounded
    {table : Table α}
    (encounters : behaviour.Encounters table) :
    table.Bounded ∧
    (∀ (grow : Bool) (thread : Thread σ) (journal : List Event),
      Leads (Table.reorganize behaviour grow) ⟨table, thread, journal⟩
        (fun result after => after.table.Bounded ∧
          (result = .ok () →
            after.table.entries < Ladder.threshold after.table.capacity ∧
            (after.table.capacity = table.capacity ∨
              Ladder.next? table.capacity = some after.table.capacity)))
        (fun _ after => after.table.Bounded)) ∧
    ∀ (item : ι) (thread : Thread σ) (journal : List Event) (after : Session σ α),
      Passes (Table.insert behaviour item) ⟨table, thread, journal⟩ after →
        after.table.Bounded := by
  have intact := encounters.intact
  refine ⟨intact.sound.bounded, fun grow thread journal => ?_,
    fun item thread journal after run => ?_⟩
  · have sound : (⟨table, thread, journal⟩ : Session σ α).table.Sound := intact.sound
    refine (Table.reorganize_leads sound grow).mono ?_ ?_
    · intro result after reorganized
      refine ⟨(reorganized.preserves.sound sound).bounded, ?_⟩
      rintro rfl
      have roomy := reorganized.isCrowded sound
      exact ⟨by simpa [Table.isCrowded] using roomy, reorganized.capacity_of_ok⟩
    · rintro abort after ⟨_, searched⟩
      exact (searched.preserves.sound sound).bounded
  · have intact' : (⟨table, thread, journal⟩ : Session σ α).table.Intact behaviour := intact
    exact (Table.intact_of_passes_insert intact' run).sound.bounded

/-- By its mood, fickle foreign code lets a worn table at its threshold be rebuilt
at the same capacity or at the first rung, and either leaves room. -/
theorem load_of_worn_stays_bounded :
    Behaviour.wornTable.Bounded ∧
    Behaviour.wornTable.entries = 7 ∧ Behaviour.wornTable.capacity = 8 ∧
    ∀ grow : Bool, ∃ after,
      Table.reorganize Behaviour.fickle grow ⟨Behaviour.wornTable, { host := 10 }, []⟩ =
        .ok (.ok ()) after ∧
      after.table.capacity = (if grow then 251 else 8) ∧
      after.table.entries < Ladder.threshold after.table.capacity := by
  have encounters := Behaviour.Encounters.reachable Behaviour.reachable_wornTable
  have room : ∀ table : Table Nat, Behaviour.fickle.Encounters table →
      ∀ grow thread after,
        Table.reorganize Behaviour.fickle grow ⟨table, thread, []⟩ = .ok (.ok ()) after →
          after.table.entries < Ladder.threshold after.table.capacity := by
    intro table encounters grow thread after run
    have leads := (load_stays_bounded encounters).2.1 grow thread []
    exact ((leads.of_ok run).2 rfl).1
  refine ⟨(load_stays_bounded encounters).1, by decide +kernel, by decide +kernel,
    fun grow => ?_⟩
  have tests : ∀ grow : Bool, meets
      (fun result after => result.isOk && after.table.capacity == if grow then 251 else 8)
      (Table.reorganize Behaviour.fickle grow ⟨Behaviour.wornTable, { host := 10 }, []⟩) =
        true := by
    decide +kernel
  obtain ⟨result, after, run, tested⟩ := exists_of_meets (tests grow)
  rw [Bool.and_eq_true, beq_iff_eq] at tested
  obtain ⟨succeeded, capacity⟩ := tested
  cases result with
  | error _ => cases succeeded
  | ok _ => exact ⟨after, run, capacity, room _ encounters _ _ _ run⟩

end OpenAddressing
