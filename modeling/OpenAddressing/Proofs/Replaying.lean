import OpenAddressing.Proofs.Counting
import OpenAddressing.Proofs.Faultless
import OpenAddressing.Proofs.Rebuilding

/-!
# Reorganizations replayed

A reorganization moves items without regard to thresholds, copies and counts, while an
insertion heeds them all.  Yet what a reorganization makes of a table is, slot for slot,
what comes of a new table of the same capacity when the items are inserted there one after
the other.  The insertions keep up with the rebuilt array: a copy lies wherever its item
does, so each search sees what the move of the item has seen and ends at the same vacancy.
-/

namespace OpenAddressing

open Relocation (slotAt)
open Probe (Outcome Purpose)

variable {σ ι α β : Type} {behaviour : Behaviour σ ι α} {laws : Laws ι}

/-! ## Parallel arrays -/

namespace Slot

variable {related : α → α → Prop} {slots twins : Array (Slot α)} {item twin : α} {index : Nat}

/-- Two slots are of one kind, and if they hold items, these are related. -/
inductive Alike (related : α → α → Prop) : Slot α → Slot α → Prop
  | empty : Alike related .empty .empty
  | tombstone : Alike related .tombstone .tombstone
  | occupied {item twin : α} (items : related item twin) :
      Alike related (.occupied item) (.occupied twin)

/-- Two arrays are alike slot for slot. -/
structure Parallel (related : α → α → Prop) (slots twins : Array (Slot α)) : Prop where
  /-- They have the same capacity. -/
  size : twins.size = slots.size
  /-- Slots with the same number are alike. -/
  alike : ∀ index, Alike related (slotAt slots index) (slotAt twins index)

namespace Parallel

theorem row (related : α → α → Prop) (count : Nat) :
    Parallel related (Slot.row α count) (Slot.row α count) where
  size := rfl
  alike index := by
    rw [slotAt_row]
    exact .empty

/-- Related items may be stored in slots with the same number. -/
theorem set
    (parallel : Parallel related slots twins)
    (within : index < slots.size)
    (items : related item twin) :
    Parallel related (slots.setIfInBounds index (.occupied item))
      (twins.setIfInBounds index (.occupied twin)) where
  size := by
    rw [Array.size_setIfInBounds, Array.size_setIfInBounds, parallel.size]
  alike other := by
    by_cases same : index = other
    · subst same
      rw [slotAt_set_self within, slotAt_set_self (within.trans_eq parallel.size.symm)]
      exact .occupied items
    · rw [slotAt_set_of_ne same, slotAt_set_of_ne same]
      exact parallel.alike other

/-- What can be said of a slot without its item is said of as many slots. -/
theorem countP_eq
    (parallel : Parallel related slots twins)
    {test : Slot α → Bool}
    (blind : ∀ {slot twin}, Alike related slot twin → test twin = test slot) :
    twins.toList.countP test = slots.toList.countP test := by
  rw [toList_eq_map, toList_eq_map, List.countP_map, List.countP_map, parallel.size]
  refine List.countP_congr fun index _ => ?_
  rw [Function.comp_apply, Function.comp_apply, blind (parallel.alike index)]

theorem residents_eq (parallel : Parallel related slots twins) :
    residents twins = residents slots :=
  parallel.countP_eq fun alike => by cases alike <;> rfl

theorem graves_eq (parallel : Parallel related slots twins) : graves twins = graves slots :=
  parallel.countP_eq fun alike => by cases alike <;> rfl

/-- Parallel arrays of items that are related to themselves alone are the same. -/
theorem eq
    (parallel : Parallel related slots twins)
    (alone : ∀ {item twin}, related item twin → twin = item) :
    twins = slots := by
  refine ext_slotAt parallel.size fun index => ?_
  have alike := parallel.alike index
  generalize slotAt slots index = slot, slotAt twins index = twin at alike ⊢
  cases alike with
  | empty => rfl
  | tombstone => rfl
  | occupied items => rw [alone items]

end Parallel
end Slot

/-! ## Copies of stored items -/

/-- A copy may be made of a stored one by duplicating its key. -/
def Behaviour.Copies (behaviour : Behaviour σ ι α) (copy twin : α) : Prop :=
  Returns (behaviour.duplicate (behaviour.key copy)) (some twin)

/-- A search tells no copy from its original. -/
theorem Behaviour.Obeys.sighting_eq
    {slot twin : Slot α}
    (obeys : behaviour.Obeys laws)
    (alike : Slot.Alike behaviour.Copies slot twin)
    (item : ι) :
    laws.sighting behaviour.key item twin = laws.sighting behaviour.key item slot := by
  cases alike with
  | empty => rfl
  | tombstone => rfl
  | @occupied copy twin copies =>
      have equal := obeys.duplicate copies
      have same : laws.equal (behaviour.key twin) item = laws.equal (behaviour.key copy) item := by
        refine Bool.eq_iff_iff.mpr ⟨fun first => ?_, laws.equal_trans equal⟩
        exact laws.equal_trans (laws.equal_comm _ _ ▸ equal) first
      simp only [Laws.sighting, same]

/-- So it comes to the same outcome in arrays that are parallel. -/
theorem Behaviour.Obeys.locate_eq
    {slots twins : Array (Slot α)}
    (obeys : behaviour.Obeys laws)
    (parallel : Slot.Parallel behaviour.Copies slots twins)
    (purpose : Purpose)
    (item : ι) :
    laws.locate behaviour.key twins purpose item =
      laws.locate behaviour.key slots purpose item := by
  have sightings : laws.sightings behaviour.key twins item =
      laws.sightings behaviour.key slots item := by
    funext step
    unfold Laws.sightings
    rw [parallel.size, obeys.sighting_eq (parallel.alike _)]
  unfold Laws.locate
  rw [sightings, parallel.size]

/-! ## One insertion -/

/-- The reports of a session go on with insertions only. -/
def Session.OnlyInserts (before after : Session σ α) : Prop :=
  ∃ events, after.journal = events ++ before.journal ∧
    ∀ event ∈ events, ∃ slot entries, event = Event.inserted slot entries

namespace Session.OnlyInserts

variable {first second third : Session σ α}

theorem of_journal (same : second.journal = first.journal) : first.OnlyInserts second :=
  ⟨[], same, fun _ member => absurd member List.not_mem_nil⟩

theorem trans
    (earlier : first.OnlyInserts second)
    (later : second.OnlyInserts third) :
    first.OnlyInserts third := by
  obtain ⟨events, told, inserts⟩ := earlier
  obtain ⟨events', told', inserts'⟩ := later
  refine ⟨events' ++ events, by rw [told', told, List.append_assoc], fun event member => ?_⟩
  rcases List.mem_append.mp member with late | early
  · exact inserts' event late
  · exact inserts event early

theorem traced (session : Session σ α) (slot entries : Nat) :
    session.OnlyInserts (session.traced (.inserted slot entries)) := by
  unfold Session.traced
  split
  · exact ⟨[.inserted slot entries], rfl, fun event member =>
      ⟨slot, entries, List.mem_singleton.mp member⟩⟩
  · exact of_journal rfl

end Session.OnlyInserts

namespace Table

variable {before after : Session σ α} {item : ι} {index : Nat}

/-- If there is room and a vacancy on the path of the item, one search is all that an
insertion does before it makes a copy. -/
theorem Prepared.of_vacant
    {result : Except Failure Outcome}
    (prepared : Prepared behaviour item before result after)
    (obeys : behaviour.Obeys laws)
    (roomy : before.table.isCrowded = false)
    (vacant : laws.locate behaviour.key before.table.slots .insert item = .vacant index) :
    result = .ok (.vacant index) ∧ before.Searched behaviour after := by
  have settled : ∀ {outcome : Outcome},
      behaviour.Locates before.table.slots .insert item outcome → outcome = .vacant index :=
    fun locates => (locates.eq_locate obeys).trans vacant
  cases prepared with
  | cramped relieved => cases (relieved.of_roomy roomy).1
  | sought relieved sought =>
      obtain rfl := (relieved.of_roomy roomy).2
      cases sought with
      | located searched locates => exact ⟨congrArg Except.ok (settled locates), searched⟩
      | grown _ missing => cases settled missing
      | failed _ missing => cases settled missing

/-- Such an insertion stores a copy at the vacancy, if it is given one, and reports nothing
else. -/
theorem Inserted.of_vacant
    {result : Except Failure (Loan α)}
    (inserted : Inserted behaviour item before result after)
    (obeys : behaviour.Obeys laws)
    (roomy : before.table.isCrowded = false)
    (vacant : laws.locate behaviour.key before.table.slots .insert item = .vacant index)
    (granted : ¬ Returns (behaviour.duplicate item) none) :
    ∃ copy, result.map Loan.item = .ok copy ∧ Returns (behaviour.duplicate item) (some copy) ∧
      after.table.slots = before.table.slots.setIfInBounds index (.occupied copy) ∧
      before.OnlyInserts after := by
  cases inserted with
  | failed prepared => cases (prepared.of_vacant obeys roomy vacant).1
  | full prepared => cases (prepared.of_vacant obeys roomy vacant).1
  | present prepared => cases (prepared.of_vacant obeys roomy vacant).1
  | uncopied _ refused => exact absurd ⟨_, _, refused⟩ granted
  | @stored index' copy ready thread prepared duplicated =>
      obtain ⟨located, searched⟩ := prepared.of_vacant obeys roomy vacant
      cases located
      refine ⟨copy, rfl, ⟨_, _, duplicated⟩, ?_, ?_⟩
      · rw [Session.traced_table, ← searched.slots]
        rfl
      · obtain ⟨_, _, rfl, _⟩ := searched
        exact .trans (.of_journal rfl) (.traced _ index _)

end Table

/-! ## Runs of insertions -/

/-- Items that can be placed one after another in an empty array of a capacity. -/
structure Laws.Accommodates
    (laws : Laws ι)
    (key : α → ι)
    (capacity : Nat)
    (copies : List α) : Prop where
  /-- No two of them are equal. -/
  distinct : laws.Distinct key copies
  /-- Each finds a vacancy on its path. -/
  placed : ¬ laws.Strands key capacity copies
  /-- They do not exceed the threshold. -/
  roomy : copies.length ≤ Ladder.threshold capacity

/-- A table in use that has caught up with a rebuilt array: where that has an item, the
table has a copy of it. -/
structure Session.Retraces
    (behaviour : Behaviour σ ι α)
    (laws : Laws ι)
    (capacity : Nat)
    (copies : List α)
    (session : Session σ α) : Prop where
  /-- The table is intact. -/
  intact : session.table.Intact behaviour
  /-- It is not on the roster. -/
  free : session.table.identity ∉ session.thread.roster
  /-- Foreign code is discreet about it. -/
  discreet : behaviour.Discreet session.table.identity
  /-- The copies are where the items are. -/
  parallel : Slot.Parallel behaviour.Copies (laws.rebuild behaviour.key capacity copies)
    session.table.slots

namespace Session.Retraces

variable {capacity : Nat} {front back : List α} {copy : α} {session : Session σ α}

/-- There are no more slots in use than items were placed. -/
theorem entries_le (retraces : session.Retraces behaviour laws capacity front) :
    session.table.entries ≤ front.length := by
  have noGrave : Slot.graves (laws.rebuild behaviour.key capacity front) = 0 :=
    Slot.graves_eq_zero (Laws.noTombstone_rebuild laws behaviour.key capacity front)
  rw [retraces.intact.sound.isCounted.entries, retraces.parallel.residents_eq,
    retraces.parallel.graves_eq, noGrave, Nat.add_zero, ← Slot.length_contents]
  exact (Laws.contents_rebuild_subperm laws behaviour.key capacity front).length_le

/-- So there is room for one more. -/
theorem isCrowded
    (retraces : session.Retraces behaviour laws capacity front)
    (accommodates : laws.Accommodates behaviour.key capacity (front ++ copy :: back)) :
    session.table.isCrowded = false := by
  have size : session.table.capacity = capacity :=
    retraces.parallel.size.trans (Laws.size_rebuild laws behaviour.key capacity front)
  have used := retraces.entries_le
  have room := accommodates.roomy
  rw [List.length_append, List.length_cons] at room
  rw [Table.isCrowded, size, decide_eq_false_iff_not]
  omega

/-- The next item finds the same vacancy in both arrays. -/
theorem exists_vacant
    (retraces : session.Retraces behaviour laws capacity front)
    (obeys : behaviour.Obeys laws)
    (accommodates : laws.Accommodates behaviour.key capacity (front ++ copy :: back)) :
    ∃ index,
      laws.locate behaviour.key session.table.slots .insert (behaviour.key copy) =
        .vacant index ∧
      index < (laws.rebuild behaviour.key capacity front).size ∧
      laws.rebuild behaviour.key capacity (front ++ [copy]) =
        (laws.rebuild behaviour.key capacity front).setIfInBounds index (.occupied copy) := by
  obtain ⟨index, vacant⟩ := Laws.exists_vacant accommodates.distinct accommodates.placed
  refine ⟨index, (obeys.locate_eq retraces.parallel .insert _).trans vacant,
    Laws.index_lt_of_vacant vacant, ?_⟩
  rw [Laws.rebuild_append_singleton, Laws.settle, vacant]

/-- The table catches up with one more item by an insertion of its key. -/
theorem perform_leads
    (retraces : session.Retraces behaviour laws capacity front)
    (obeys : behaviour.Obeys laws)
    (accommodates : laws.Accommodates behaviour.key capacity (front ++ copy :: back))
    (granted : ¬ Returns (behaviour.duplicate (behaviour.key copy)) none) :
    Leads ((Request.insert (behaviour.key copy) : Request σ ι α β).perform behaviour) session
      (fun answer after => ∃ twin, behaviour.Copies copy twin ∧
        answer = .inserted (.ok twin) ∧
        after.Retraces behaviour laws capacity (front ++ [copy]) ∧ session.OnlyInserts after)
      (fun abort _ => behaviour.Raises abort) := by
  have roomy : session.joined.table.isCrowded = false := retraces.isCrowded accommodates
  obtain ⟨index, vacant, within, rebuilt⟩ := retraces.exists_vacant obeys accommodates
  have quiet : (Request.insert (behaviour.key copy) : Request σ ι α β).Discreet
      session.table.identity := trivial
  have leads : Leads (Request.perform behaviour _) session _ _ :=
    Request.perform_leads retraces.intact.sound retraces.free
      (Request.insert (behaviour.key copy) : Request σ ι α β)
  refine (leads.and (leads_self _ session)).mono ?_ ?_
  · rintro answer after ⟨⟨done, performed, rfl⟩, run⟩
    have intact : done.table.Intact behaviour := performed.intact retraces.intact
    obtain ⟨same, free⟩ := Request.free_of_passes retraces.discreet quiet retraces.free
      (Or.inl ⟨answer, run⟩)
    cases performed with
    | insert inserted =>
        obtain ⟨twin, returned, copies, slots, reports⟩ :=
          inserted.of_vacant obeys roomy vacant granted
        refine ⟨twin, copies, by rw [returned], ⟨intact, same ▸ free, same ▸ retraces.discreet,
          ?_⟩, reports⟩
        change Slot.Parallel _ _ done.table.slots
        rw [rebuilt, slots]
        exact retraces.parallel.set within copies
  · rintro abort _ ⟨⟨raises | impossible, _⟩, _⟩
    · exact raises
    · cases impossible

/-- It catches up with all items by insertions of their keys. -/
theorem performAll_leads
    (retraces : session.Retraces behaviour laws capacity front)
    (obeys : behaviour.Obeys laws)
    (accommodates : laws.Accommodates behaviour.key capacity (front ++ back))
    (granted : ∀ copy ∈ back, ¬ Returns (behaviour.duplicate (behaviour.key copy)) none) :
    Leads
      (Request.performAll behaviour
        (back.map fun copy => (.insert (behaviour.key copy) : Request σ ι α β)))
      session
      (fun answers after => ∃ twins, List.Forall₂ behaviour.Copies back twins ∧
        answers = twins.map (fun twin => .inserted (.ok twin)) ∧
        after.Retraces behaviour laws capacity (front ++ back) ∧ session.OnlyInserts after)
      (fun abort _ => behaviour.Raises abort) := by
  induction back generalizing front session with
  | nil =>
      rw [List.append_nil]
      exact ⟨[], .nil, rfl, retraces, .of_journal rfl⟩
  | cons copy back inductionHypothesis =>
      obtain ⟨granted', others⟩ := List.forall_mem_cons.mp granted
      simp only [List.map_cons, Request.performAll, leads_bind, leads_pure]
      refine (retraces.perform_leads obeys accommodates granted').mono ?_ fun _ _ raises => raises
      rintro answer middle ⟨twin, copies, rfl, retraces', reports⟩
      rw [List.append_cons] at accommodates ⊢
      refine (inductionHypothesis retraces' accommodates others).mono ?_ fun _ _ raises => raises
      rintro answers after ⟨twins, allCopies, rfl, retraces'', reports'⟩
      exact ⟨twin :: twins, .cons copies allCopies, rfl, retraces'', reports.trans reports'⟩

end Session.Retraces

/-! ## Reorganizations and insertions -/

namespace Table

/-- A new table without items is made wherever the host grants the memory, if its capacity
is neither too small nor too large to be addressed. -/
theorem create_eq
    {settings : Settings}
    (large : Ladder.minimumCapacity ≤ settings.initialCapacity)
    (addressable : Slot.addressable behaviour.slotBytes settings.initialCapacity = true)
    (identity : Nat)
    (host : σ) :
    (create behaviour settings identity host).1 =
      if (behaviour.reserve (settings.initialCapacity * behaviour.slotBytes) host).1 then
        .ok { identity, settings, slots := Slot.row α settings.initialCapacity }
      else
        .error .outOfMemory := by
  unfold create Behaviour.slots
  simp only [(Settings.validate_eq_ok_iff settings).mpr large, if_pos addressable]
  split <;> rename_i granted <;> split at granted <;> simp_all

/-- A reorganization that commits puts the array in place that is rebuilt from the items in
the order of their slots, and none of them is left over. -/
theorem Reorganized.eq_rebuild
    {grow : Bool} {before after : Session σ α}
    (reorganized : Reorganized behaviour grow before (.ok ()) after)
    (obeys : behaviour.Obeys laws)
    (intact : before.table.Intact behaviour) :
    after.table.slots = laws.rebuild behaviour.key after.table.capacity before.table.items ∧
      laws.Accommodates behaviour.key after.table.capacity before.table.items ∧
      Slot.addressable behaviour.slotBytes after.table.capacity = true := by
  cases reorganized with
  | @committed capacity host target tally thread provided refills whole consults =>
      obtain ⟨aimed, addressable⟩ := addressable_of_provision (congrArg Prod.fst provided)
      have size : (before.table.refilled target tally).capacity = capacity := refills.size
      rw [size]
      obtain rfl := refills.eq_rebuild obeys
      refine ⟨rfl, ⟨(intact.arranged obeys).distinct_contents, fun strands => ?_, ?_⟩,
        addressable⟩
      · exact Nat.ne_of_lt (Laws.length_contents_rebuild_lt strands) whole.length_eq
      · exact Nat.le_of_lt (intact.sound.room_of_target? aimed).2.2

/-- A table has copies of the items of another one in the same slots, and the same counts. -/
structure Replicates (behaviour : Behaviour σ ι α) (twin table : Table α) : Prop where
  /-- Where the one has an item, the other has a copy of it, and so is it with tombstones. -/
  slots : Slot.Parallel behaviour.Copies table.slots twin.slots
  /-- As many slots are in use. -/
  entries : twin.entries = table.entries
  /-- As many of them are tombstones. -/
  tombstones : twin.tombstones = table.tombstones

end Table

/-- A table that has caught up with the array of another one replicates it. -/
theorem Session.Retraces.replicates
    {capacity : Nat} {copies : List α} {session : Session σ α} {table : Table α}
    (retraces : session.Retraces behaviour laws capacity copies)
    (sound : table.Sound)
    (rebuilt : table.slots = laws.rebuild behaviour.key capacity copies) :
    session.table.Replicates behaviour table := by
  have parallel := retraces.parallel
  have counted := retraces.intact.sound.isCounted
  have counted' := sound.isCounted
  rw [← rebuilt] at parallel
  refine ⟨parallel, ?_, ?_⟩
  · rw [counted.entries, counted'.entries, parallel.residents_eq, parallel.graves_eq]
  · rw [counted.tombstones, counted'.tombstones, parallel.graves_eq]

/-- A reorganization that commits makes of a table, slot for slot and with the same counts,
what comes of a new table of that initial capacity when the items are inserted in the order
of their old slots.  The new table is made unless memory is missing for it.  If no copy is
denied, all insertions succeed and none of them makes room: nothing but insertions is
reported.  Only foreign code can keep them from returning. -/
theorem reorganize_agrees_with_insertions
    {table : Table α} {grow : Bool} {thread : Thread σ} {journal : List Event}
    {after : Session σ α}
    (obeys : behaviour.Obeys laws)
    (encounters : behaviour.Encounters table)
    (run : Table.reorganize behaviour grow ⟨table, thread, journal⟩ = .ok (.ok ()) after)
    (granted : ∀ copy ∈ table.items, ¬ Returns (behaviour.duplicate (behaviour.key copy)) none)
    {settings : Settings}
    (initial : settings.initialCapacity = after.table.capacity)
    {identity : Nat}
    (discreet : behaviour.Discreet identity)
    (host : σ) :
    match (Table.create behaviour settings identity host).1 with
    | .error failure => failure = .outOfMemory ∧
        (behaviour.reserve (after.table.capacity * behaviour.slotBytes) host).1 = false
    | .ok fresh => ∀ (thread : Thread σ) (journal : List Event), identity ∉ thread.roster →
        let insertions : List (Request σ ι α β) :=
          table.items.map fun copy => .insert (behaviour.key copy)
        (behaviour.Steady → ∃ answers ended,
          Request.performAll behaviour insertions ⟨fresh, thread, journal⟩ =
            .ok answers ended) ∧
        Leads (Request.performAll behaviour insertions) ⟨fresh, thread, journal⟩
          (fun answers ended => ∃ twins, List.Forall₂ behaviour.Copies table.items twins ∧
            answers = twins.map (fun twin => .inserted (.ok twin)) ∧
            ended.table.Replicates behaviour after.table ∧
            Session.OnlyInserts ⟨fresh, thread, journal⟩ ended)
          (fun abort _ => behaviour.Raises abort) := by
  have intact : (⟨table, thread, journal⟩ : Session σ α).table.Intact behaviour :=
    encounters.intact
  have reorganized := (Table.reorganize_leads intact.sound grow).of_ok run
  have sound : after.table.Sound := reorganized.preserves.sound intact.sound
  obtain ⟨rebuilt, accommodates, addressable⟩ := reorganized.eq_rebuild obeys intact
  rw [← initial] at addressable accommodates rebuilt ⊢
  have made := Table.create_eq (initial ▸ sound.large) addressable identity host
  cases memory : (behaviour.reserve (settings.initialCapacity * behaviour.slotBytes) host).1 with
  | false =>
      rw [made, memory]
      exact ⟨rfl, rfl⟩
  | true =>
      rw [memory, if_pos rfl] at made
      rw [made]
      intro thread' journal' free insertions
      have begun : Session.Retraces behaviour laws settings.initialCapacity []
          ⟨{ identity, settings, slots := Slot.row α settings.initialCapacity }, thread',
            journal'⟩ :=
        ⟨(Behaviour.Reachable.created settings identity host made).intact, free, discreet,
          .row _ _⟩
      have leads : Leads (Request.performAll behaviour insertions) _ _ _ :=
        begun.performAll_leads obeys accommodates granted
      refine ⟨fun steady => steady.returns leads, leads.mono ?_ fun _ _ raises => raises⟩
      rintro answers ended ⟨twins, copies, rfl, retraces, reports⟩
      exact ⟨twins, copies, rfl, retraces.replicates sound rebuilt, reports⟩

/-- In a table of four numbers and two tombstones, a reorganization puts the numbers in
other places, and into the same ones as a new table puts them. -/
theorem reorganize_of_numbers_agrees_with_insertions :
    ∃ (table : Table Nat) (after ended : Session Unit Nat),
      (Laws.numbers 16).faithful.Encounters table ∧
      table.items = [33, 3, 37, 16] ∧ table.tombstones = 2 ∧
      Table.reorganize (Laws.numbers 16).faithful false ⟨table, { host := () }, []⟩ =
        .ok (.ok ()) after ∧
      after.table.capacity = 17 ∧ after.table.items = [16, 3, 37, 33] ∧
      Request.performAll (Laws.numbers 16).faithful
        (table.items.map fun number => .insert number : List (Request Unit Nat Nat Unit))
        ⟨{ identity := 1, settings := {}, slots := Slot.row Nat 17 }, { host := () }, []⟩ =
          .ok (table.items.map fun number => .inserted (.ok number)) ended ∧
      ended.table.slots = after.table.slots ∧ ended.table.entries = after.table.entries ∧
      ended.table.tombstones = after.table.tombstones := by
  have created : (Laws.numbers 16).faithful.Reachable
      { identity := 0, settings := {}, slots := Slot.row Nat 17 } :=
    .created {} 0 () rfl
  obtain ⟨answers, middle, runs, tested⟩ := exists_of_meets (show meets
    (fun _ middle => middle.table.items == [33, 3, 37, 16] && (middle.table.tombstones == 2 &&
      meets (fun result after => result.isOk && (after.table.capacity == 17 &&
          after.table.items == [16, 3, 37, 33]))
        (Table.reorganize (Laws.numbers 16).faithful false
          ⟨middle.table, { host := () }, []⟩)))
    (Request.performAll (Laws.numbers 16).faithful
      ([.insert 20, .insert 3, .insert 37, .insert 16, .insert 33, .insert 1, .remove 20,
        .remove 1] : List (Request Unit Nat Nat Unit))
      ⟨{ identity := 0, settings := {}, slots := Slot.row Nat 17 }, { host := () }, []⟩) =
        true by decide +kernel)
  simp only [Bool.and_eq_true, beq_iff_eq] at tested
  obtain ⟨items, tombstones, reorganizes⟩ := tested
  obtain ⟨result, after, run, tested⟩ := exists_of_meets reorganizes
  simp only [Bool.and_eq_true, beq_iff_eq] at tested
  obtain ⟨succeeded, capacity, moved⟩ := tested
  cases result with
  | error _ => cases succeeded
  | ok _ =>
      have encounters := Behaviour.Encounters.reachable
        (created.performAll (Or.inl ⟨answers, runs⟩))
      have exactly : ∀ {copy twin : Nat},
          (Laws.numbers 16).faithful.Copies copy twin → twin = copy := fun copies =>
        Option.some.inj (Laws.eq_of_returns_pure copies)
      have granted : ∀ copy ∈ middle.table.items,
          ¬ Returns ((Laws.numbers 16).faithful.duplicate copy) none := by
        rintro copy - ⟨_, _, ⟨⟩⟩
      have agrees := reorganize_agrees_with_insertions (β := Unit)
        (Laws.numbers 16).faithful_obeys encounters run granted
        (show ({} : Settings).initialCapacity = _ from capacity.symm)
        ((Laws.numbers 16).faithful_discreet 1) ()
      obtain ⟨returns, leads⟩ := agrees { host := () } [] List.not_mem_nil
      obtain ⟨_, ended, inserts⟩ := returns (Laws.numbers 16).faithful_steady
      obtain ⟨twins, copies, rfl, replicates, _⟩ := leads.of_ok inserts
      have same : middle.table.items = twins :=
        List.forall₂_eq_eq_eq ▸ copies.imp fun _ _ copies => (exactly copies).symm
      rw [← same] at inserts
      exact ⟨middle.table, after, ended, encounters, items, tombstones, run, capacity, moved,
        inserts, replicates.slots.eq exactly, replicates.entries, replicates.tombstones⟩

end OpenAddressing
