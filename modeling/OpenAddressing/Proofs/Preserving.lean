import OpenAddressing.Proofs.Reorganizing

/-!
# What preparations preserve

Before an item is stored, looked up or removed, a table is searched, and it may
be reorganized.  Neither adds an item nor takes one away, a sound table stays
sound, and an arranged one stays arranged.
-/

namespace OpenAddressing

variable {σ ι α : Type} {behaviour : Behaviour σ ι α}

/-- A session goes on with the same items, and foreign functions were asked
questions only. -/
structure Session.Preserves (behaviour : Behaviour σ ι α) (before after : Session σ α) :
    Prop where
  /-- It is the same table. -/
  identity : after.table.identity = before.table.identity
  /-- The settings are fixed. -/
  settings : after.table.settings = before.table.settings
  /-- The items may change places. -/
  items : after.table.items.Perm before.table.items
  /-- Counts keep agreeing with slots. -/
  sound : before.table.Sound → after.table.Sound
  /-- Items stay where they can be found. -/
  arranged : ∀ {laws : Laws ι}, behaviour.Obeys laws →
    laws.Arranged behaviour.key before.table.slots →
      laws.Arranged behaviour.key after.table.slots
  /-- Copies are neither made nor released. -/
  consults : behaviour.Consults before.thread after.thread

/-- A table is intact if its counts agree with its slots, and its items are
arranged under all laws that the behaviour obeys. -/
structure Table.Intact (behaviour : Behaviour σ ι α) (table : Table α) : Prop where
  /-- The counts agree with the slots. -/
  sound : table.Sound
  /-- The items are arranged. -/
  arranged : ∀ {laws : Laws ι}, behaviour.Obeys laws →
    laws.Arranged behaviour.key table.slots

namespace Session.Preserves

variable {first second third : Session σ α}

theorem intact
    (preserves : first.Preserves behaviour second)
    (intact : first.table.Intact behaviour) :
    second.table.Intact behaviour where
  sound := preserves.sound intact.sound
  arranged := fun obeys => preserves.arranged obeys (intact.arranged obeys)

theorem refl (session : Session σ α) : session.Preserves behaviour session where
  identity := rfl
  settings := rfl
  items := List.Perm.refl _
  sound := id
  arranged := fun _ arranged => arranged
  consults := .refl _

theorem trans
    (earlier : first.Preserves behaviour second)
    (later : second.Preserves behaviour third) :
    first.Preserves behaviour third where
  identity := later.identity.trans earlier.identity
  settings := later.settings.trans earlier.settings
  items := later.items.trans earlier.items
  sound := fun sound => later.sound (earlier.sound sound)
  arranged := fun obeys arranged => later.arranged obeys (earlier.arranged obeys arranged)
  consults := earlier.consults.trans later.consults

end Session.Preserves

/-! ## Tables that differ in no slot -/

/-- Soundness depends on the slots and their counts alone. -/
theorem Table.Sound.congr
    {table other : Table α}
    (sound : table.Sound)
    (slots : other.slots = table.slots)
    (entries : other.entries = table.entries)
    (tombstones : other.tombstones = table.tombstones) :
    other.Sound := by
  have capacity : other.capacity = table.capacity := congrArg Array.size slots
  have items : other.items = table.items := congrArg Slot.contents slots
  constructor
  · rw [entries, tombstones, items]
    exact sound.counted
  · rw [tombstones, slots]
    exact sound.buried
  · rw [entries, capacity]
    exact sound.loaded
  · rw [capacity]
    exact sound.large
  · rw [capacity]
    exact sound.small

/-- So does being intact. -/
theorem Table.Intact.congr
    {table other : Table α}
    (intact : table.Intact behaviour)
    (slots : other.slots = table.slots)
    (entries : other.entries = table.entries)
    (tombstones : other.tombstones = table.tombstones) :
    other.Intact behaviour where
  sound := intact.sound.congr slots entries tombstones
  arranged := by
    intro laws obeys
    rw [slots]
    exact intact.arranged obeys

/-- Sound tables with the same items count as many. -/
theorem Table.Sound.live_eq
    {table other : Table α}
    (sound : table.Sound)
    (sound' : other.Sound)
    (items : other.items.Perm table.items) :
    other.entries - other.tombstones = table.entries - table.tombstones := by
  rw [sound.live_eq_length, sound'.live_eq_length]
  exact items.length_eq

variable {before after : Session σ α}

/-- A session whose table differs in no slot and no count goes on with the same
items. -/
theorem Session.preserves_of_slots
    (identity : after.table.identity = before.table.identity)
    (settings : after.table.settings = before.table.settings)
    (slots : after.table.slots = before.table.slots)
    (entries : after.table.entries = before.table.entries)
    (tombstones : after.table.tombstones = before.table.tombstones)
    (consults : behaviour.Consults before.thread after.thread) :
    before.Preserves behaviour after where
  identity := identity
  settings := settings
  items := by
    unfold Table.items
    rw [slots]
  sound := fun sound => sound.congr slots entries tombstones
  arranged := by
    intro laws _ arranged
    rwa [slots]
  consults := consults

namespace Session.Searched

theorem preserves (searched : before.Searched behaviour after) :
    before.Preserves behaviour after := by
  obtain ⟨tally, thread, rfl, consults⟩ := searched
  exact preserves_of_slots rfl rfl rfl rfl rfl consults

theorem identity (searched : before.Searched behaviour after) :
    after.table.identity = before.table.identity :=
  searched.preserves.identity

theorem slots (searched : before.Searched behaviour after) :
    after.table.slots = before.table.slots := by
  obtain ⟨tally, thread, rfl, _⟩ := searched
  rfl

theorem flags (searched : before.Searched behaviour after) :
    after.table.flags = before.table.flags := by
  obtain ⟨tally, thread, rfl, _⟩ := searched
  rfl

theorem isCrowded (searched : before.Searched behaviour after) :
    after.table.isCrowded = before.table.isCrowded := by
  obtain ⟨tally, thread, rfl, _⟩ := searched
  rfl

theorem trans
    {last : Session σ α}
    (earlier : before.Searched behaviour after)
    (later : after.Searched behaviour last) :
    before.Searched behaviour last := by
  obtain ⟨_, _, rfl, consults⟩ := earlier
  obtain ⟨tally, thread, rfl, consults'⟩ := later
  exact ⟨tally, thread, rfl, consults.trans consults'⟩

end Session.Searched

/-- Raised flags leave the items alone. -/
theorem Session.preserves_flagged (session : Session σ α) (flags : Flags) :
    session.Preserves behaviour (session.flagged flags) :=
  preserves_of_slots rfl rfl rfl rfl rfl (.refl _)

/-! ## Reorganizations -/

namespace Table

/-- A table that was refilled with all of its items is sound. -/
theorem sound_refilled
    {table : Table α} {capacity : Nat} {target : Array (Slot α)}
    (refills : behaviour.Refills capacity table.items target)
    (whole : (Slot.contents target).Perm table.items)
    (large : Ladder.minimumCapacity ≤ capacity)
    (small : 2 * capacity ≤ UInt64.size)
    (room : table.items.length ≤ Ladder.threshold capacity)
    (tally : Probe.Tally) :
    (table.refilled target tally).Sound where
  counted := whole.length_eq.symm
  buried := (Slot.graves_eq_zero refills.noTombstone).symm
  loaded := by
    change _ ≤ Ladder.threshold target.size
    rwa [refills.size]
  large := by
    change _ ≤ target.size
    rwa [refills.size]
  small := by
    change 2 * target.size ≤ _
    rwa [refills.size]

namespace Reorganized

variable {grow : Bool} {result : Except Failure Unit}

/-- However a reorganization ends, the items are still there. -/
theorem preserves
    (reorganized : Reorganized behaviour grow before result after) :
    before.Preserves behaviour after := by
  have toHost := consults_provision behaviour before.table grow before.thread
  cases reorganized with
  | refused refusal provided =>
      rw [provided] at toHost
      exact Session.preserves_of_slots rfl rfl rfl rfl rfl toHost
  | interrupted tally provided refills lost consults =>
      rw [provided] at toHost
      exact Session.preserves_of_slots rfl rfl rfl rfl rfl (toHost.trans consults)
  | @committed capacity host target tally thread provided refills whole consults =>
      rw [provided] at toHost
      obtain ⟨aimed, small⟩ := provision_eq_ok (congrArg Prod.fst provided)
      constructor
      · rfl
      · rfl
      · exact whole
      · intro sound
        obtain ⟨large, _, room⟩ := sound.room_of_target? aimed
        exact sound_refilled refills whole large small (Nat.le_of_lt room) tally
      · intro laws obeys _
        have rebuilt := refills.eq_rebuild obeys
        subst rebuilt
        exact Laws.Arranged.rebuild laws behaviour.key capacity before.table.items
      · exact toHost.trans consults

/-- A reorganization that succeeds leaves room for an item. -/
theorem isCrowded
    (reorganized : Reorganized behaviour grow before (.ok ()) after)
    (sound : before.table.Sound) :
    after.table.isCrowded = false := by
  cases reorganized with
  | @committed capacity host target tally thread provided refills whole consults =>
      have aimed := (provision_eq_ok (congrArg Prod.fst provided)).1
      obtain ⟨_, _, room⟩ := sound.room_of_target? aimed
      have room' : before.table.items.length < Ladder.threshold target.size := by
        rwa [refills.size]
      unfold Table.isCrowded
      rw [decide_eq_false_iff_not, Nat.not_le]
      exact room'

/-- A reorganization does not raise flags itself. -/
theorem flags (reorganized : Reorganized behaviour grow before result after) :
    after.table.flags = before.table.flags := by
  cases reorganized <;> rfl

end Reorganized
end Table
end OpenAddressing
