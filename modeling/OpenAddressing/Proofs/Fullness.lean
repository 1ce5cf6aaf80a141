import OpenAddressing.Proofs.Accepting

/-!
# When a table is full

A table that may not grow any more drops its tombstones only if there is more than
one to four items.  So it can be full although some of the slots in use are
tombstones: a removal alone need not let the next insertion through.  It does so as
soon as the items take up less than four fifths of the threshold.
-/

namespace OpenAddressing

variable {σ ι α : Type} {behaviour : Behaviour σ ι α} {laws : Laws ι}
variable {before after : Session σ α} {item : ι}

namespace Table

/-! ## Full tables -/

/-- The settings allow no capacity larger than the present one. -/
def Capped (table : Table α) : Prop :=
  ∀ rung ∈ Ladder.rungs, table.capacity < rung → table.settings.maxCapacity < rung

/-- A table has no room and cannot make any. -/
structure Full (table : Table α) : Prop where
  /-- The slots in use are at the threshold. -/
  reached : Ladder.threshold table.capacity ≤ table.entries
  /-- There is at most one tombstone to four items. -/
  packed : 4 * table.tombstones ≤ table.entries - table.tombstones
  /-- Growth is closed. -/
  capped : table.Capped

variable {table : Table α}

theorem capped_of_le (bounded : table.settings.maxCapacity ≤ table.capacity) :
    table.Capped :=
  fun _ _ above => bounded.trans_lt above

/-- A table has nothing to aim at exactly if its tombstones are too few to be dropped
and it cannot grow. -/
theorem forall_not_aims_iff :
    (∀ target, ¬ table.Aims target) ↔
      4 * table.tombstones ≤ table.entries - table.tombstones ∧ table.Capped := by
  unfold Aims
  by_cases worthwhile : table.entries - table.tombstones < 4 * table.tombstones
  · simp [worthwhile, Nat.not_le.mpr worthwhile]
  · simp only [if_neg worthwhile, Nat.le_of_not_lt worthwhile, true_and]
    rw [Capped, ← Ladder.nextWithin?_eq_none_iff, Option.eq_none_iff_forall_ne_some]
    simp only [← Ladder.nextWithin?_eq_some_iff, ne_eq]

/-- The items of a sound table that is full take up four fifths of the threshold. -/
theorem Sound.full_iff (sound : table.Sound) :
    table.Full ↔
      Ladder.threshold table.capacity ≤ table.entries ∧
        4 * Ladder.threshold table.capacity ≤ 5 * (table.entries - table.tombstones) ∧
        table.Capped := by
  have loaded := sound.loaded
  have counted := sound.counted
  constructor
  · rintro ⟨reached, packed, capped⟩
    exact ⟨reached, by omega, capped⟩
  · rintro ⟨reached, packed, capped⟩
    exact ⟨reached, by omega, capped⟩

/-- An insertion is granted the memory and the copy that it asks for. -/
structure Granted (behaviour : Behaviour σ ι α) (item : ι) (before : Session σ α) :
    Prop where
  /-- Memory is granted for the capacity that the table aims at. -/
  memory : ∀ target, before.table.Aims target →
    ¬ behaviour.Refuses target (before.table.entries - before.table.tombstones)
      before.thread.host
  /-- The copy is granted. -/
  copy : ¬ Denied behaviour item before

/-- Where nothing is refused, an insertion fails exactly if the table is full. -/
theorem Answered.of_granted
    {host : σ} {uncopied : Prop} {result : Except Failure (Loan α)}
    (answered : Answered (table.relief behaviour host) uncopied result)
    (sound : table.Sound)
    (memory : ∀ target, table.Aims target →
      ¬ behaviour.Refuses target (table.entries - table.tombstones) host)
    (copied : ¬ uncopied) :
    (result = .error .tableFull ↔ table.Full) ∧ (result.isOk = true ↔ ¬ table.Full) := by
  cases crowded : table.isCrowded with
  | false =>
      have notFull : ¬ table.Full := by
        rintro ⟨reached, _, _⟩
        rw [Table.isCrowded, decide_eq_true reached] at crowded
        cases crowded
      have accepted := (answered.of_roomy crowded).2.mpr copied
      cases result with
      | error failure => cases accepted
      | ok loan => simp [notFull, Except.isOk, Except.toBool]
  | true =>
      have reached : Ladder.threshold table.capacity ≤ table.entries :=
        of_decide_eq_true crowded
      have aimless : (∀ target, ¬ table.Aims target) ↔ table.Full := by
        rw [forall_not_aims_iff]
        constructor
        · rintro ⟨packed, capped⟩
          exact ⟨reached, packed, capped⟩
        · intro full
          exact ⟨full.packed, full.capped⟩
      obtain ⟨isFull, _, isOk⟩ := answered.of_crowded sound crowded
      refine ⟨isFull.trans aimless, isOk.trans ?_⟩
      rw [← aimless, not_forall_not]
      constructor
      · rintro ⟨target, aims, _⟩
        exact ⟨target, aims⟩
      · rintro ⟨target, aims⟩
        exact ⟨target, aims, memory target aims, copied⟩

theorem insert_leads_granted
    (obeys : behaviour.Obeys laws)
    (intact : before.table.Intact behaviour)
    (prime : before.table.capacity.Prime)
    (free : before.table.identity ∉ before.thread.roster)
    (granted : Granted behaviour item before) :
    Leads (insert behaviour item) before
      (fun result _ =>
        (result = .error .tableFull ↔ before.table.Full) ∧
          (result.isOk = true ↔ ¬ before.table.Full))
      (fun abort _ => behaviour.Raises abort) := by
  refine (insert_leads_answered obeys intact prime free item).mono ?_ fun _ _ raises => raises
  intro result after answered
  exact answered.of_granted intact.sound granted.memory fun uncopied => granted.copy uncopied.2

/-! ## After a removal -/

/-- A removal turns an item into a tombstone. -/
theorem Removed.counts
    {gone : ι}
    (removed : Removed behaviour item before (some gone) after) :
    after.table.entries = before.table.entries ∧
      after.table.tombstones = before.table.tombstones + 1 := by
  cases removed with
  | @removed index copy ready thread lookedUp released =>
      obtain ⟨tally, _, rfl, _⟩ := lookedUp.searched
      unfold unlinked
      rw [Session.traced_table]
      exact ⟨rfl, rfl⟩

/-- A crowded table that cannot grow stays full after a removal if the items that
are left take up four fifths of the threshold. -/
theorem Removed.full_iff
    {gone : ι}
    (removed : Removed behaviour item before (some gone) after)
    (intact : before.table.Intact behaviour)
    (reached : Ladder.threshold before.table.capacity ≤ before.table.entries)
    (capped : before.table.Capped) :
    after.table.Full ↔
      4 * Ladder.threshold before.table.capacity ≤
        5 * (before.table.entries - before.table.tombstones - 1) := by
  obtain ⟨entries, tombstones⟩ := removed.counts
  have settings : after.table.settings = before.table.settings :=
    congrArg Prod.fst removed.frame
  have capacity : after.table.capacity = before.table.capacity :=
    congrArg Prod.snd removed.frame
  have capped' : after.table.Capped := by
    unfold Capped
    rwa [settings, capacity]
  rw [(removed.intact intact).sound.full_iff, entries, tombstones, capacity]
  simp only [reached, capped', true_and, and_true, Nat.sub_sub]

end Table

/-! ## Reachable tables -/

variable {table : Table α}

/-- A removal that answers with the item of its caller leads from a reachable table
to a reachable one, and its ending is described. -/
theorem Behaviour.Reachable.removed
    {gone : ι} {thread : Thread σ} {journal : List Event} {after : Session σ α}
    (reachable : behaviour.Reachable table)
    (run : Table.remove behaviour gone ⟨table, thread, journal⟩ = .ok (some gone) after) :
    behaviour.Reachable after.table ∧ ∃ done, after = done.leave ∧
      Table.Removed behaviour gone (Session.joined ⟨table, thread, journal⟩) (some gone)
        done := by
  constructor
  · have performs : Request.perform behaviour (.remove gone : Request σ ι α Unit)
        ⟨table, thread, journal⟩ = .ok (.removed (some gone)) after := by
      change EStateM.map _ _ _ = _
      unfold EStateM.map
      rw [run]
    exact reachable.performed _ thread journal (Or.inl ⟨_, performs⟩)
  · have free : table.identity ∉ thread.roster := by
      intro busy
      have refused : Table.remove behaviour gone ⟨table, thread, journal⟩ =
          .error .reentered ⟨table, thread, journal⟩ := Action.entered_of_mem _ _ busy
      rw [refused] at run
      cases run
    obtain ⟨done, removed, left⟩ :=
      (Table.remove_leads reachable.intact.sound free gone).of_ok run
    exact ⟨done, left, removed⟩

/-- Under laws, and where no memory and no copy is refused, an insertion into a
reachable table of prime capacity fails exactly if the table is full: at its
threshold, with at most one tombstone to four items, and with growth closed.  It
succeeds if the items take up less than four fifths of the threshold.  So if growth
is closed and a table was at its threshold, the insertion that follows a removal
succeeds exactly if the items that are left take up less than that. -/
theorem insert_fails_iff_full
    (obeys : behaviour.Obeys laws)
    (reachable : behaviour.Reachable table)
    (prime : table.capacity.Prime) :
    (∀ (item : ι) (thread : Thread σ) (journal : List Event),
      table.identity ∉ thread.roster →
      Table.Granted behaviour item ⟨table, thread, journal⟩ →
      (behaviour.Steady → ∃ result after,
        Table.insert behaviour item ⟨table, thread, journal⟩ = .ok result after) ∧
      Leads (Table.insert behaviour item) ⟨table, thread, journal⟩
        (fun result _ =>
          (result = .error .tableFull ↔ table.Full) ∧
          (result.isOk = true ↔ ¬ table.Full) ∧
          (5 * (table.entries - table.tombstones) < 4 * Ladder.threshold table.capacity →
            result.isOk = true))
        (fun abort _ => behaviour.Raises abort)) ∧
    ∀ (gone : ι) (thread : Thread σ) (journal : List Event) (removed : Session σ α),
      Ladder.threshold table.capacity ≤ table.entries → table.Capped →
      Table.remove behaviour gone ⟨table, thread, journal⟩ = .ok (some gone) removed →
      ∀ (item : ι) (thread : Thread σ) (journal : List Event),
        removed.table.identity ∉ thread.roster →
        Table.Granted behaviour item ⟨removed.table, thread, journal⟩ →
        (behaviour.Steady → ∃ result after,
          Table.insert behaviour item ⟨removed.table, thread, journal⟩ = .ok result after) ∧
        Leads (Table.insert behaviour item) ⟨removed.table, thread, journal⟩
          (fun result _ =>
            (result = .error .tableFull ↔
              4 * Ladder.threshold table.capacity ≤
                5 * (table.entries - table.tombstones - 1)) ∧
            (result.isOk = true ↔
              5 * (table.entries - table.tombstones - 1) <
                4 * Ladder.threshold table.capacity))
          (fun abort _ => behaviour.Raises abort) := by
  have intact := reachable.intact
  constructor
  · intro item thread journal free granted
    have leads : Leads (Table.insert behaviour item) ⟨table, thread, journal⟩ _ _ :=
      Table.insert_leads_granted obeys intact prime free granted
    refine ⟨fun steady => steady.returns leads, leads.mono ?_ fun _ _ raises => raises⟩
    rintro result after ⟨isFull, isOk⟩
    refine ⟨isFull, isOk, fun loose => isOk.mpr fun full => ?_⟩
    have packed := (intact.sound.full_iff.mp full).2.1
    omega
  · intro gone thread journal removed reached capped removes
    obtain ⟨reachable', done, rfl, isRemoved⟩ := reachable.removed removes
    have joined : (Session.joined ⟨table, thread, journal⟩).table.Intact behaviour := intact
    have full := isRemoved.full_iff joined reached capped
    have prime' : done.table.capacity.Prime := by
      rw [show done.table.capacity = table.capacity from congrArg Prod.snd isRemoved.frame]
      exact prime
    intro item thread' journal' free granted
    have leads : Leads (Table.insert behaviour item) ⟨done.table, thread', journal'⟩ _ _ :=
      Table.insert_leads_granted obeys reachable'.intact prime' free granted
    refine ⟨fun steady => steady.returns leads, leads.mono ?_ fun _ _ raises => raises⟩
    rintro result after ⟨isFull, isOk⟩
    refine ⟨isFull.trans full, isOk.trans ?_⟩
    rw [← Nat.not_le]
    exact not_congr full

/-- Faithful foreign code grants the memory for a capacity that is small enough, and to move
items there. -/
theorem Laws.not_refuses_of_addressable
    {target live : Nat}
    (laws : Laws ι)
    (small : Slot.addressable 16 target = true)
    (fits : live ≤ target)
    (host : Unit) :
    ¬ laws.faithful.Refuses target live host := by
  have bound : target * 16 ≤ Slot.largestArrayBytes := of_decide_eq_true small
  have forSlots : Slot.addressable 1 target = true := by
    rw [Slot.addressable, decide_eq_true_eq]
    omega
  have forMoves : Slot.addressable 16 live = true := by
    rw [Slot.addressable, decide_eq_true_eq]
    omega
  unfold Behaviour.Refuses Behaviour.slots Behaviour.moveLog Laws.faithful
  simp only [forSlots, forMoves, if_true]
  split <;> simp

/-- Faithful foreign code grants an insertion what it asks for, unless the table
grows. -/
theorem Laws.granted_of_capped
    {table : Table ι} {thread : Thread Unit} {journal : List Event}
    (laws : Laws ι)
    (sound : table.Sound)
    (capped : table.Capped)
    (small : Slot.addressable 16 table.capacity = true)
    (item : ι) :
    Table.Granted laws.faithful item ⟨table, thread, journal⟩ where
  memory := by
    intro target aims
    have loaded := sound.loaded
    have threshold := Ladder.threshold_le table.capacity
    have fits : table.entries - table.tombstones ≤ table.capacity := by omega
    unfold Table.Aims at aims
    split at aims
    · subst aims
      exact laws.not_refuses_of_addressable small fits thread.host
    · obtain ⟨⟨member, above, bounded⟩, _⟩ := aims
      exact absurd bounded (Nat.not_le.mpr (capped target member above))
  copy := by
    rintro ⟨_, _, _, _, _, ⟨⟩⟩

/-- Three of fifteen numbers are removed, and the table is still full, since growth
is closed.  After one more removal it is not. -/
theorem insert_of_number_fails_iff_full :
    ∃ (table : Table Nat) (refused removed accepted : Session Unit Nat) (loan : Loan Nat),
      (Laws.numbers 16).faithful.Reachable table ∧ table.capacity.Prime ∧ table.Full ∧
      Table.insert (Laws.numbers 16).faithful 100 ⟨table, { host := () }, []⟩ =
        .ok (.error .tableFull) refused ∧
      Table.remove (Laws.numbers 16).faithful 3 ⟨table, { host := () }, []⟩ =
        .ok (some 3) removed ∧
      Table.insert (Laws.numbers 16).faithful 100 ⟨removed.table, { host := () }, []⟩ =
        .ok (.ok loan) accepted := by
  have created : (Laws.numbers 16).faithful.Reachable
      { identity := 0, settings := { maxCapacity := 17 }, slots := Slot.row Nat 17 } :=
    .created { maxCapacity := 17 } 0 () rfl
  obtain ⟨answers, middle, run, tested⟩ := exists_of_meets (show meets
    (fun _ middle => middle.table.settings == { maxCapacity := 17 } &&
      (middle.table.capacity == 17 && (middle.table.entries == 15 &&
        (middle.table.tombstones == 3 && meets
          (fun item? after => item? == some 3 && (after.table.settings ==
            { maxCapacity := 17 } && after.table.capacity == 17))
          (Table.remove (Laws.numbers 16).faithful 3
            ⟨middle.table, { host := () }, []⟩)))))
    (Request.performAll (Laws.numbers 16).faithful
      ((List.range 15).map .insert ++ [.remove 0, .remove 1, .remove 2] :
        List (Request Unit Nat Nat Unit))
      ⟨{ identity := 0, settings := { maxCapacity := 17 }, slots := Slot.row Nat 17 },
        { host := () }, []⟩) = true by decide +kernel)
  simp only [Bool.and_eq_true, beq_iff_eq] at tested
  obtain ⟨settings, capacity, entries, tombstones, removes⟩ := tested
  obtain ⟨gone, removed, removes, tested⟩ := exists_of_meets removes
  simp only [Bool.and_eq_true, beq_iff_eq] at tested
  obtain ⟨rfl, settings', capacity'⟩ := tested
  have obeys := (Laws.numbers 16).faithful_obeys
  have steady := (Laws.numbers 16).faithful_steady
  have reachable := created.performAll (Or.inl ⟨answers, run⟩)
  have reachable' := (reachable.removed removes).1
  have prime : middle.table.capacity.Prime := by
    rw [capacity]
    norm_num
  have small : Slot.addressable 16 17 = true := by decide
  have capped : middle.table.Capped := Table.capped_of_le (by rw [settings, capacity])
  have capped' : removed.table.Capped := Table.capped_of_le (by rw [settings', capacity'])
  have reached : Ladder.threshold middle.table.capacity ≤ middle.table.entries := by
    rw [capacity, entries]
    decide
  have full : middle.table.Full := ⟨reached, by rw [entries, tombstones], capped⟩
  obtain ⟨here, later⟩ := insert_fails_iff_full obeys reachable prime
  obtain ⟨returns, leads⟩ := here 100 { host := () } [] List.not_mem_nil
    ((Laws.numbers 16).granted_of_capped reachable.intact.sound capped (by rwa [capacity]) 100)
  obtain ⟨returns', leads'⟩ := later 3 { host := () } [] removed reached capped removes 100
    { host := () } [] List.not_mem_nil
    ((Laws.numbers 16).granted_of_capped reachable'.intact.sound capped'
      (by rwa [capacity']) 100)
  obtain ⟨result, refused, inserts⟩ := returns steady
  obtain ⟨result', accepted, inserts'⟩ := returns' steady
  obtain rfl := (leads.of_ok inserts).1.mpr full
  have loose : 5 * (middle.table.entries - middle.table.tombstones - 1) <
      4 * Ladder.threshold middle.table.capacity := by
    rw [capacity, entries, tombstones]
    decide
  have succeeds := (leads'.of_ok inserts').2.mpr loose
  cases result' with
  | error failure => cases succeeds
  | ok loan =>
      exact ⟨middle.table, refused, removed, accepted, loan, reachable, prime, full, inserts,
        removes, inserts'⟩

/-- Not every insertion into a table whose items are fewer than the threshold
succeeds where nothing is refused: one of fifteen numbers is removed, but the table
keeps the tombstone. -/
theorem not_forall_insert_below_threshold_ok :
    ¬ ∀ (laws : Laws Nat) (behaviour : Behaviour Unit Nat Nat) (table : Table Nat),
      behaviour.Obeys laws → behaviour.Steady → behaviour.Reachable table →
        table.capacity.Prime →
        table.entries - table.tombstones < Ladder.threshold table.capacity →
        ∀ item, Table.Granted behaviour item ⟨table, { host := () }, []⟩ →
          ∃ loan after, Table.insert behaviour item ⟨table, { host := () }, []⟩ =
            .ok (.ok loan) after := by
  intro succeeds
  have created : (Laws.numbers 16).faithful.Reachable
      { identity := 0, settings := { maxCapacity := 17 }, slots := Slot.row Nat 17 } :=
    .created { maxCapacity := 17 } 0 () rfl
  obtain ⟨answers, middle, run, tested⟩ := exists_of_meets (show meets
    (fun _ middle => middle.table.settings == { maxCapacity := 17 } &&
      (middle.table.capacity == 17 && (middle.table.entries == 15 &&
        (middle.table.tombstones == 1 && meets
          (fun result _ => match result with
            | .error .tableFull => true
            | _ => false)
          (Table.insert (Laws.numbers 16).faithful 100
            ⟨middle.table, { host := () }, []⟩)))))
    (Request.performAll (Laws.numbers 16).faithful
      ((List.range 15).map .insert ++ [.remove 3] : List (Request Unit Nat Nat Unit))
      ⟨{ identity := 0, settings := { maxCapacity := 17 }, slots := Slot.row Nat 17 },
        { host := () }, []⟩) = true by decide +kernel)
  simp only [Bool.and_eq_true, beq_iff_eq] at tested
  obtain ⟨settings, capacity, entries, tombstones, full⟩ := tested
  have reachable := created.performAll (Or.inl ⟨answers, run⟩)
  have prime : middle.table.capacity.Prime := by
    rw [capacity]
    norm_num
  have capped : middle.table.Capped := Table.capped_of_le (by rw [settings, capacity])
  have below : middle.table.entries - middle.table.tombstones <
      Ladder.threshold middle.table.capacity := by
    rw [entries, tombstones, capacity]
    decide
  have small : Slot.addressable 16 middle.table.capacity = true := by
    rw [capacity]
    decide
  obtain ⟨loan, after, run'⟩ := succeeds (Laws.numbers 16) (Laws.numbers 16).faithful
    middle.table (Laws.faithful_obeys _) (Laws.faithful_steady _) reachable prime below 100
    ((Laws.numbers 16).granted_of_capped reachable.intact.sound capped small 100)
  rw [run'] at full
  cases full

end OpenAddressing
