import OpenAddressing.Proofs.Enduring
import OpenAddressing.Proofs.Interruption

/-!
# Inserting an item that is present

An insertion makes room before it looks for the item.  So an item that is stored
already is returned if there is room or room can be made, and otherwise the
insertion fails like that of a new item.  In no case is a copy made, and the
stored copies stay the same.
-/

namespace OpenAddressing

open Relocation (slotAt)
open Probe (Outcome)

variable {σ ι α : Type} {behaviour : Behaviour σ ι α} {laws : Laws ι}
variable {before after : Session σ α} {item : ι} {copy : α} {index : Nat}

namespace Table

/-! ## Stored items are found -/

/-- A search for a stored item comes to the slot of its copy. -/
theorem outcome_of_stored
    {purpose : Probe.Purpose} {outcome : Outcome}
    (obeys : behaviour.Obeys laws)
    (intact : after.table.Intact behaviour)
    (stored : ∃ index, slotAt after.table.slots index = .occupied copy)
    (equal : laws.equal (behaviour.key copy) item = true)
    (located : behaviour.Locates after.table.slots purpose item outcome) :
    ∃ index, outcome = .found index ∧ slotAt after.table.slots index = .occupied copy := by
  obtain ⟨index, stored⟩ := stored
  refine ⟨index, ?_, stored⟩
  exact (located.eq_locate obeys).trans
    ((intact.arranged obeys).locate_stored stored equal purpose)

/-- The search for the place of a stored item does not make the table grow. -/
theorem Sought.found_of_stored
    {result : Except Failure Outcome}
    (sought : Sought behaviour item before result after)
    (obeys : behaviour.Obeys laws)
    (intact : before.table.Intact behaviour)
    (member : copy ∈ before.table.items)
    (equal : laws.equal (behaviour.key copy) item = true) :
    ∃ index, result = .ok (.found index) ∧
      slotAt after.table.slots index = .occupied copy := by
  have stored := Slot.mem_contents_iff.mp member
  cases sought with
  | located searched locates =>
      obtain ⟨index, rfl, here⟩ := outcome_of_stored obeys intact stored equal locates
      rw [searched.slots]
      exact ⟨index, rfl, here⟩
  | grown _ missing =>
      obtain ⟨_, impossible, _⟩ := outcome_of_stored obeys intact stored equal missing
      cases impossible
  | failed _ missing =>
      obtain ⟨_, impossible, _⟩ := outcome_of_stored obeys intact stored equal missing
      cases impossible

/-! ## Whether there is room -/

/-- What comes of making room in a crowded table, unless it jams. -/
def relief (behaviour : Behaviour σ ι α) (table : Table α) (host : σ) :
    Except Failure Unit :=
  if table.isCrowded then
    match (provision behaviour table false host).1 with
    | .error refusal => .error refusal.failure
    | .ok _ => .ok ()
  else
    .ok ()

section Relief

variable {table : Table α} {host : σ}

theorem relief_of_roomy (roomy : table.isCrowded = false) :
    table.relief behaviour host = .ok () := by
  unfold relief
  rw [roomy]
  rfl

theorem relief_of_granted
    {capacity : Nat}
    (granted : (provision behaviour table false host).1 = .ok capacity) :
    table.relief behaviour host = .ok () := by
  unfold relief
  rw [granted]
  split <;> rfl

theorem relief_of_refused
    {refusal : Refusal}
    (crowded : table.isCrowded = true)
    (refused : (provision behaviour table false host).1 = .error refusal) :
    table.relief behaviour host = .error refusal.failure := by
  unfold relief
  rw [if_pos crowded, refused]

/-- A table whose reorganization is refused does not jam. -/
theorem not_jams_of_refused
    {refusal : Refusal}
    (refused : (provision behaviour table false host).1 = .error refusal) :
    ¬ table.Jams laws behaviour false host := by
  rintro ⟨_, granted, _⟩
  rw [refused] at granted
  cases granted

end Relief

theorem Relieved.eq_relief
    {result : Except Failure Unit}
    (relieved : Relieved behaviour before result after)
    (obeys : behaviour.Obeys laws)
    (intact : before.table.Intact behaviour)
    (calm : ¬ (before.table.isCrowded = true ∧
      before.table.Jams laws behaviour false before.thread.host)) :
    result = before.table.relief behaviour before.thread.host := by
  have notInterrupted := mt (relieved.interrupted_iff obeys intact).mp calm
  unfold relief
  cases relieved with
  | calm roomy => rw [roomy]; rfl
  | crowded crowded madeRoom =>
      rw [if_pos crowded]
      cases madeRoom with
      | made reorganized =>
          cases reorganized with
          | committed _ provided => rw [provided]
      | failed reorganized =>
          cases reorganized with
          | refused refusal provided => rw [provided]
          | interrupted => exact absurd rfl notInterrupted

/-- The preparation for a stored item finds it, unless the table could not be
relieved. -/
theorem Prepared.found_of_stored
    {result : Except Failure Outcome}
    (prepared : Prepared behaviour item before result after)
    (obeys : behaviour.Obeys laws)
    (intact : before.table.Intact behaviour)
    (member : copy ∈ before.table.items)
    (equal : laws.equal (behaviour.key copy) item = true) :
    (∃ failure, result = .error failure ∧
      Relieved behaviour before (.error failure) after) ∨
      ∃ roomy index, Relieved behaviour before (.ok ()) roomy ∧
        result = .ok (.found index) ∧ slotAt after.table.slots index = .occupied copy := by
  cases prepared with
  | cramped relieved => exact Or.inl ⟨_, rfl, relieved⟩
  | sought relieved sought =>
      obtain ⟨index, found, here⟩ := sought.found_of_stored obeys
        (relieved.preserves.intact intact) (relieved.preserves.items.symm.subset member) equal
      exact Or.inr ⟨_, index, relieved, found, here⟩

/-- An insertion of a stored item keeps the items.  Unless the table jams, it
returns the stored copy if there is room or room can be made, and the failure to
make room otherwise. -/
theorem Inserted.of_stored
    {result : Except Failure (Loan α)}
    (inserted : Inserted behaviour item before result after)
    (obeys : behaviour.Obeys laws)
    (intact : before.table.Intact behaviour)
    (member : copy ∈ before.table.items)
    (equal : laws.equal (behaviour.key copy) item = true) :
    after.table.items.Perm before.table.items ∧
      (¬ (before.table.isCrowded = true ∧
          before.table.Jams laws behaviour false before.thread.host) →
        result.map Loan.item =
          (before.table.relief behaviour before.thread.host).map (fun _ => copy) ∧
        after.table.flags = before.table.flags ∪
          raisedFor (before.table.relief behaviour before.thread.host)) := by
  cases inserted with
  | failed prepared =>
      refine ⟨prepared.preserves.items, fun calm => ?_⟩
      have flags := prepared.flags
      rcases prepared.found_of_stored obeys intact member equal with
        ⟨failure, failed, relieved⟩ | ⟨_, _, _, impossible, _⟩
      · obtain rfl := Except.error.inj failed
        rw [← relieved.eq_relief obeys intact calm]
        exact ⟨rfl, flags⟩
      · cases impossible
  | full prepared =>
      rcases prepared.found_of_stored obeys intact member equal with
        ⟨_, impossible, _⟩ | ⟨_, _, _, impossible, _⟩ <;> cases impossible
  | present prepared stored =>
      refine ⟨prepared.preserves.items, fun calm => ?_⟩
      have flags := prepared.flags
      rcases prepared.found_of_stored obeys intact member equal with
        ⟨_, impossible, _⟩ | ⟨roomy, index, relieved, found, here⟩
      · cases impossible
      · cases found
        rw [stored] at here
        obtain rfl := Slot.occupied.inj here
        rw [← relieved.eq_relief obeys intact calm]
        exact ⟨rfl, flags⟩
  | uncopied prepared =>
      rcases prepared.found_of_stored obeys intact member equal with
        ⟨_, impossible, _⟩ | ⟨_, _, _, impossible, _⟩ <;> cases impossible
  | stored prepared =>
      rcases prepared.found_of_stored obeys intact member equal with
        ⟨_, impossible, _⟩ | ⟨_, _, _, impossible, _⟩ <;> cases impossible

/-- The answer to an insertion of a stored item, by what room there is: enough, or
enough once it is made, or none. -/
theorem Inserted.answers_of_stored
    {result : Except Failure (Loan α)}
    (inserted : Inserted behaviour item before result after)
    (obeys : behaviour.Obeys laws)
    (intact : before.table.Intact behaviour)
    (member : copy ∈ before.table.items)
    (equal : laws.equal (behaviour.key copy) item = true) :
    (before.table.isCrowded = false →
      result.map Loan.item = .ok copy ∧ after.table.flags = before.table.flags) ∧
    (before.table.isCrowded = true → ∀ capacity,
      (provision behaviour before.table false before.thread.host).1 = .ok capacity →
      ¬ before.table.Jams laws behaviour false before.thread.host →
      result.map Loan.item = .ok copy ∧ after.table.flags = before.table.flags) ∧
    (before.table.isCrowded = true → ∀ refusal,
      (provision behaviour before.table false before.thread.host).1 = .error refusal →
      result.map Loan.item = .error refusal.failure ∧
      after.table.flags = before.table.flags ∪
        (refusal.failure.flags ∪ Failure.tableFull.flags)) := by
  obtain ⟨_, answers⟩ := inserted.of_stored obeys intact member equal
  refine ⟨fun roomy => ?_, fun crowded capacity granted noJam => ?_,
    fun crowded refusal refused => ?_⟩
  · rw [relief_of_roomy roomy, raisedFor, Flags.union_none] at answers
    refine answers fun jams => ?_
    rw [jams.1] at roomy
    cases roomy
  · rw [relief_of_granted granted, raisedFor, Flags.union_none] at answers
    exact answers fun jams => noJam jams.2
  · rw [relief_of_refused crowded refused, raisedFor] at answers
    exact answers fun jams => not_jams_of_refused refused jams.2

/-- An insertion of a stored item that is cut short has not made a copy. -/
theorem InsertedUntil.preserves_of_stored
    (inserted : InsertedUntil behaviour item before after)
    (obeys : behaviour.Obeys laws)
    (intact : before.table.Intact behaviour)
    (member : copy ∈ before.table.items)
    (equal : laws.equal (behaviour.key copy) item = true) :
    before.Preserves behaviour after := by
  cases inserted with
  | preparing prepared => exact prepared.preserves
  | duplicating prepared =>
      rcases prepared.found_of_stored obeys intact member equal with
        ⟨_, impossible, _⟩ | ⟨_, _, _, impossible, _⟩ <;> cases impossible

/-! ## No copy is made -/

/-- The making of copies does not matter to an insertion that finds no vacancy. -/
theorem insert_congr_duplicate
    (never : ∀ index ready,
      prepare behaviour item before.joined ≠ .ok (.ok (.vacant index)) ready)
    (duplicate : ι → Call σ (Option α)) :
    insert { behaviour with duplicate } item before = insert behaviour item before := by
  have prepares : prepare { behaviour with duplicate } item = prepare behaviour item := rfl
  rw [insert_eq, insert_eq, prepares]
  refine Action.entered_congr (bind_congr_of_leads ?_)
  refine (leads_self _ before.joined).mono ?_ fun _ _ _ => trivial
  rintro (failure | index | index | _) ready run
  · rfl
  · rfl
  · exact absurd run (never index ready)
  · rfl

end Table

/-! ## Insertions into reachable tables -/

variable {table : Table α} {thread : Thread σ}

/-- Under laws, an insertion into a reachable table of an item that equals a
stored copy never makes a copy, and keeps the stored copies and their count.
Below the threshold it answers with the stored copy and raises no flag.  At the
threshold it does so if memory is granted for a capacity that is allowed and the
table does not jam; without a capacity that is allowed it reports a full table,
and without memory that it is out of memory, and raises the flags of both.  Only
foreign code can keep it from returning. -/
theorem insert_of_stored
    (obeys : behaviour.Obeys laws)
    (reachable : behaviour.Reachable table)
    (member : copy ∈ table.items)
    (equal : laws.equal (behaviour.key copy) item = true)
    (free : table.identity ∉ thread.roster)
    (journal : List Event) :
    (∀ duplicate : ι → Call σ (Option α),
      Table.insert { behaviour with duplicate } item ⟨table, thread, journal⟩ =
        Table.insert behaviour item ⟨table, thread, journal⟩) ∧
    (behaviour.Steady → ∃ result after,
      Table.insert behaviour item ⟨table, thread, journal⟩ = .ok result after) ∧
    Leads (Table.insert behaviour item) ⟨table, thread, journal⟩
      (fun result after =>
        after.table.items.Perm table.items ∧
        after.table.entries - after.table.tombstones = table.entries - table.tombstones ∧
        (table.isCrowded = false →
          result.map Loan.item = .ok copy ∧ after.table.flags = table.flags) ∧
        (table.isCrowded = true → ∀ capacity,
          (Table.provision behaviour table false thread.host).1 = .ok capacity →
          ¬ table.Jams laws behaviour false thread.host →
          result.map Loan.item = .ok copy ∧ after.table.flags = table.flags) ∧
        (table.isCrowded = true → ∀ refusal,
          (Table.provision behaviour table false thread.host).1 = .error refusal →
          result.map Loan.item = .error refusal.failure ∧
          after.table.flags = table.flags ∪
            (refusal.failure.flags ∪ Failure.tableFull.flags)))
      (fun abort after => behaviour.Raises abort ∧
        after.table.items.Perm table.items ∧
        after.table.entries - after.table.tombstones = table.entries - table.tombstones ∧
        after.table.flags = table.flags) := by
  have intact := reachable.intact
  have intact' : (Session.joined ⟨table, thread, journal⟩).table.Intact behaviour := intact
  refine ⟨?_, ?_, ?_⟩
  · refine Table.insert_congr_duplicate fun index ready run => ?_
    have prepared := (Table.prepare_leads intact'.sound item).of_ok run
    rcases prepared.found_of_stored obeys intact' member equal with
      ⟨_, impossible, _⟩ | ⟨_, _, _, impossible, _⟩ <;> cases impossible
  · intro steady
    have leads : Leads (Table.insert behaviour item) ⟨table, thread, journal⟩ _ _ :=
      Table.insert_leads intact.sound free item
    obtain ⟨result, after, run, _⟩ := leads.exists_ok fun abort _ cut => steady abort cut.1
    exact ⟨result, after, run⟩
  · refine (Table.insert_leads intact.sound free item).mono ?_ ?_
    · rintro result after ⟨done, inserted, isDone⟩
      have same : after.table = done.table := by
        rw [isDone]
        cases result <;> rfl
      rw [same]
      have items := (inserted.of_stored obeys intact' member equal).1
      have live := intact.sound.live_eq (inserted.intact intact').sound items
      exact ⟨items, live, inserted.answers_of_stored obeys intact' member equal⟩
    · rintro abort after ⟨raises, done, inserted, rfl⟩
      have items := (inserted.preserves_of_stored obeys intact' member equal).items
      have live := intact.sound.live_eq (inserted.intact intact').sound items
      exact ⟨raises, items, live, inserted.flags⟩

namespace Laws

/-- The table that holds the first numbers, inserted in their order.  Only the kernel
is meant to compute its slots. -/
@[irreducible] def countedTable (settings : Settings) (count : Nat) : Table Nat :=
  (Request.performEach (numbers 16).faithful
    ((List.range count).map .insert : List (Request Unit Nat Nat Unit))
    ⟨{ identity := 0, settings, slots := Slot.row Nat settings.initialCapacity },
      { host := () }, []⟩).2.table

theorem reachable_countedTable
    (settings : Settings)
    (created : (Table.create (numbers 16).faithful settings 0 ()).1 =
      .ok { identity := 0, settings, slots := Slot.row Nat settings.initialCapacity })
    (count : Nat) :
    (numbers 16).faithful.Reachable (countedTable settings count) := by
  unfold countedTable
  apply Behaviour.Reachable.performEach
  exact .created settings 0 () created

end Laws

/-- A number that is stored is found by its insertion below the threshold, and at the
threshold as well if the table may grow.  If it may not, the table is full. -/
theorem insert_of_stored_number :
    ((Laws.countedTable {} 5).isCrowded = false ∧ ∃ result after,
      Table.insert (Laws.numbers 16).faithful 3
          ⟨Laws.countedTable {} 5, { host := () }, []⟩ = .ok result after ∧
        result.map Loan.item = .ok 3 ∧
        after.table.items.Perm (List.range 5) ∧ after.table.flags = .none) ∧
    ((Laws.countedTable {} 15).isCrowded = true ∧ ∃ result after,
      Table.insert (Laws.numbers 16).faithful 3
          ⟨Laws.countedTable {} 15, { host := () }, []⟩ = .ok result after ∧
        result.map Loan.item = .ok 3 ∧
        after.table.items.Perm (List.range 15) ∧ after.table.flags = .none) ∧
    ((Laws.countedTable { maxCapacity := 17 } 15).isCrowded = true ∧ ∃ result after,
      Table.insert (Laws.numbers 16).faithful 3
          ⟨Laws.countedTable { maxCapacity := 17 } 15, { host := () }, []⟩ =
            .ok result after ∧
        result.map Loan.item = .error .tableFull ∧
        after.table.items.Perm (List.range 15) ∧
        after.table.flags = { tableFull := true }) := by
  have obeys := (Laws.numbers 16).faithful_obeys
  have steady := (Laws.numbers 16).faithful_steady
  have same := (Laws.numbers 16).equal_refl 3
  have free : ∀ table : Table Nat,
      table.identity ∉ ({ host := () } : Thread Unit).roster := fun _ => List.not_mem_nil
  refine ⟨?roomy, ?grown, ?full⟩
  case roomy =>
    have items : (Laws.countedTable {} 5).items = List.range 5 := by decide +kernel
    have flags : (Laws.countedTable {} 5).flags = .none := by decide +kernel
    have roomy : (Laws.countedTable {} 5).isCrowded = false := by decide +kernel
    obtain ⟨_, returns, leads⟩ := insert_of_stored obeys
      (Laws.reachable_countedTable {} rfl 5) (items ▸ by decide) same (free _) []
    obtain ⟨result, after, run⟩ := returns steady
    obtain ⟨kept, _, below, _⟩ := leads.of_ok run
    obtain ⟨found, raised⟩ := below roomy
    exact ⟨roomy, result, after, run, found, items ▸ kept, raised.trans flags⟩
  case grown =>
    have items : (Laws.countedTable {} 15).items = List.range 15 := by decide +kernel
    have flags : (Laws.countedTable {} 15).flags = .none := by decide +kernel
    have crowded : (Laws.countedTable {} 15).isCrowded = true := by decide +kernel
    have granted : ((Laws.countedTable {} 15).provision (Laws.numbers 16).faithful
        false ()).1 = .ok 251 := by decide +kernel
    have grows : (Laws.countedTable {} 15).reclaims
        (Laws.countedTable {} 15).items.length false = false := by decide +kernel
    have fluent : ¬ (Laws.countedTable {} 15).Jams (Laws.numbers 16)
        (Laws.numbers 16).faithful false () := by
      rintro ⟨reclaims, _⟩
      rw [grows] at reclaims
      cases reclaims
    obtain ⟨_, returns, leads⟩ := insert_of_stored obeys
      (Laws.reachable_countedTable {} rfl 15) (items ▸ by decide) same (free _) []
    obtain ⟨result, after, run⟩ := returns steady
    obtain ⟨kept, _, _, reached, _⟩ := leads.of_ok run
    obtain ⟨found, raised⟩ := reached crowded 251 granted fluent
    exact ⟨crowded, result, after, run, found, items ▸ kept, raised.trans flags⟩
  case full =>
    have items : (Laws.countedTable { maxCapacity := 17 } 15).items = List.range 15 := by
      decide +kernel
    have flags : (Laws.countedTable { maxCapacity := 17 } 15).flags = .none := by
      decide +kernel
    have crowded : (Laws.countedTable { maxCapacity := 17 } 15).isCrowded = true := by
      decide +kernel
    have refused : ((Laws.countedTable { maxCapacity := 17 } 15).provision
        (Laws.numbers 16).faithful false ()).1 = .error (.exhausted 17) := by
      decide +kernel
    obtain ⟨_, returns, leads⟩ := insert_of_stored obeys
      (Laws.reachable_countedTable { maxCapacity := 17 } rfl 15) (items ▸ by decide) same
      (free _) []
    obtain ⟨result, after, run⟩ := returns steady
    obtain ⟨kept, _, _, _, reached⟩ := leads.of_ok run
    obtain ⟨fails, raised⟩ := reached crowded (.exhausted 17) refused
    rw [flags] at raised
    exact ⟨crowded, result, after, run, fails, items ▸ kept, raised⟩

/-- Not every insertion of a stored item succeeds: a table that must not grow is
full at its threshold for all items. -/
theorem not_forall_insert_of_stored_ok :
    ¬ ∀ (laws : Laws Nat) (behaviour : Behaviour Unit Nat Nat) (table : Table Nat),
      behaviour.Obeys laws → behaviour.Steady → behaviour.Reachable table →
        ∀ item copy, copy ∈ table.items → laws.equal (behaviour.key copy) item = true →
          ∃ loan after, loan.item = copy ∧
            Table.insert behaviour item ⟨table, { host := () }, []⟩ =
              .ok (.ok loan) after := by
  intro succeeds
  have full : meets
      (fun result _ => match result with
        | .error .tableFull => true
        | _ => false)
      (Table.insert (Laws.numbers 16).faithful 3
        ⟨Laws.countedTable { maxCapacity := 17 } 15, { host := () }, []⟩) = true := by
    decide +kernel
  obtain ⟨loan, after, _, run⟩ := succeeds (Laws.numbers 16) (Laws.numbers 16).faithful
    (Laws.countedTable { maxCapacity := 17 } 15) (Laws.faithful_obeys _)
    (Laws.faithful_steady _) (Laws.reachable_countedTable { maxCapacity := 17 } rfl 15) 3 3
    (by decide +kernel) ((Laws.numbers 16).equal_refl 3)
  rw [run] at full
  cases full

end OpenAddressing
