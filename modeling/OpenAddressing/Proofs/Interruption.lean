import OpenAddressing.Proofs.Reachable
import OpenAddressing.Proofs.Rebuilding

/-!
# Interrupted insertions

Under laws, a reorganization is interrupted in one case only: it drops the
tombstones of a table at the same capacity, and the rebuilt array strands an
item.  The items are placed in the order of their slots then, which is not the
order in which they once found room.  A growing table never strands an item,
since every rung is a prime.  So an insertion that is interrupted has met a
crowded table that would have had to grow.
-/

namespace OpenAddressing

open Probe (Outcome)

variable {σ ι α : Type} {behaviour : Behaviour σ ι α} {laws : Laws ι}
variable {before after : Session σ α} {item : ι}

namespace Table

/-- An array of the same capacity is granted to drop the tombstones, but the items
that are placed in it leave one stranded. -/
def Jams
    (laws : Laws ι)
    (behaviour : Behaviour σ ι α)
    (table : Table α)
    (grow : Bool)
    (host : σ) : Prop :=
  table.reclaims table.items.length grow = true ∧
    (provision behaviour table grow host).1 = .ok table.capacity ∧
    laws.Strands behaviour.key table.capacity table.items

/-- A table that is made to grow does not jam. -/
theorem not_jams_of_grow
    (laws : Laws ι) (behaviour : Behaviour σ ι α) (table : Table α) (host : σ) :
    ¬ table.Jams laws behaviour true host := by
  rintro ⟨reclaims, _⟩
  simp [Table.reclaims] at reclaims

/-- A reorganization is interrupted exactly if the table jams. -/
theorem Reorganized.interrupted_iff
    {grow : Bool} {result : Except Failure Unit}
    (reorganized : Reorganized behaviour grow before result after)
    (obeys : behaviour.Obeys laws)
    (intact : before.table.Intact behaviour) :
    result = .error .interrupted ↔
      before.table.Jams laws behaviour grow before.thread.host := by
  have distinct := (intact.arranged obeys).distinct_contents
  cases reorganized with
  | refused refusal provided =>
      constructor
      · intro interrupted
        cases refusal <;> cases interrupted
      · rintro ⟨_, granted, _⟩
        rw [provided] at granted
        cases granted
  | @interrupted capacity host target tally thread provided refills lost consults =>
      refine ⟨fun _ => ?_, fun _ => rfl⟩
      have granted := congrArg Prod.fst provided
      obtain rfl := refills.eq_rebuild obeys
      have strands : laws.Strands behaviour.key capacity before.table.items := by
        by_contra none
        exact lost (Laws.contents_rebuild distinct none).length_eq
      rcases target?_cases (provision_eq_ok granted).1 with ⟨reclaims, rfl⟩ | ⟨_, next, _⟩
      · exact ⟨reclaims, granted, strands⟩
      · have prime := Ladder.prime_of_mem_rungs (Ladder.mem_rungs_of_next? next)
        have larger := Ladder.lt_of_next? next
        have enough : before.table.items.length ≤ before.table.capacity :=
          Slot.length_contents_le before.table.slots
        exact absurd strands (Laws.not_strands_of_prime prime (by omega))
  | @committed capacity host target tally thread provided refills whole consults =>
      constructor
      · intro impossible
        cases impossible
      · rintro ⟨_, granted, strands⟩
        rw [provided] at granted
        obtain rfl := Except.ok.inj granted
        obtain rfl := refills.eq_rebuild obeys
        exact absurd whole.length_eq (Laws.length_contents_rebuild_lt strands).ne

/-- The relief of a table is interrupted exactly if the table is crowded and
jams. -/
theorem Relieved.interrupted_iff
    {result : Except Failure Unit}
    (relieved : Relieved behaviour before result after)
    (obeys : behaviour.Obeys laws)
    (intact : before.table.Intact behaviour) :
    result = .error .interrupted ↔
      before.table.isCrowded = true ∧
        before.table.Jams laws behaviour false before.thread.host := by
  cases relieved with
  | calm roomy =>
      constructor
      · intro impossible
        cases impossible
      · rintro ⟨crowded, _⟩
        rw [roomy] at crowded
        cases crowded
  | crowded crowded madeRoom =>
      cases madeRoom with
      | made reorganized =>
          rw [reorganized.interrupted_iff obeys intact]
          exact ⟨fun jams => ⟨crowded, jams⟩, And.right⟩
      | failed reorganized =>
          rw [reorganized.interrupted_iff obeys intact]
          exact ⟨fun jams => ⟨crowded, jams⟩, And.right⟩

/-- The search for a place is never interrupted. -/
theorem Sought.not_interrupted
    {result : Except Failure Outcome}
    (sought : Sought behaviour item before result after)
    (obeys : behaviour.Obeys laws)
    (intact : before.table.Intact behaviour) :
    result ≠ .error .interrupted := by
  cases sought with
  | located => simp
  | grown => simp
  | failed searched _ madeRoom =>
      cases madeRoom with
      | failed reorganized =>
          intro interrupted
          obtain rfl := Except.error.inj interrupted
          have jams := (reorganized.interrupted_iff obeys
            (searched.preserves.intact intact)).mp rfl
          exact not_jams_of_grow _ _ _ _ jams

/-- So is the preparation of an insertion. -/
theorem Prepared.interrupted_iff
    {result : Except Failure Outcome}
    (prepared : Prepared behaviour item before result after)
    (obeys : behaviour.Obeys laws)
    (intact : before.table.Intact behaviour) :
    result = .error .interrupted ↔
      before.table.isCrowded = true ∧
        before.table.Jams laws behaviour false before.thread.host := by
  cases prepared with
  | cramped relieved =>
      rw [← relieved.interrupted_iff obeys intact, Except.error.injEq, Except.error.injEq]
  | sought relieved sought =>
      constructor
      · intro interrupted
        exact absurd interrupted
          (sought.not_interrupted obeys (relieved.preserves.intact intact))
      · intro jams
        cases (relieved.interrupted_iff obeys intact).mpr jams

/-- An insertion is interrupted exactly if it begins with a crowded table that
jams. -/
theorem Inserted.interrupted_iff
    {result : Except Failure (Loan α)}
    (inserted : Inserted behaviour item before result after)
    (obeys : behaviour.Obeys laws)
    (intact : before.table.Intact behaviour) :
    result = .error .interrupted ↔
      before.table.isCrowded = true ∧
        before.table.Jams laws behaviour false before.thread.host := by
  cases inserted with
  | failed prepared =>
      rw [← prepared.interrupted_iff obeys intact, Except.error.injEq, Except.error.injEq]
  | full prepared =>
      rw [← prepared.interrupted_iff obeys intact]
      simp
  | present prepared =>
      rw [← prepared.interrupted_iff obeys intact]
      simp
  | uncopied prepared =>
      rw [← prepared.interrupted_iff obeys intact]
      simp
  | stored prepared =>
      rw [← prepared.interrupted_iff obeys intact]
      simp

/-- The flag of an interruption is raised by interrupted insertions alone. -/
theorem Inserted.interrupted_flag_iff
    {result : Except Failure (Loan α)}
    (inserted : Inserted behaviour item before result after) :
    after.table.flags.interrupted = true ↔
      before.table.flags.interrupted = true ∨ result = .error .interrupted := by
  have union : ∀ first second : Flags,
      (first ∪ second).interrupted = (first.interrupted || second.interrupted) :=
    fun _ _ => rfl
  cases inserted with
  | @failed failure after prepared =>
      rw [prepared.flags]
      cases failure <;> simp [union, raisedFor, Failure.flags, Flags.none]
  | full prepared =>
      rw [Session.flagged_flags, prepared.flags]
      simp [union, raisedFor, Failure.flags, Flags.none]
  | present prepared =>
      rw [prepared.flags]
      simp [raisedFor]
  | @uncopied index ready thread prepared refused =>
      have same : ready.table.flags = _ := prepared.flags
      rw [Session.flagged_flags]
      simp [union, same, raisedFor, Failure.flags]
  | @stored index copy ready thread prepared duplicated =>
      have same : ready.table.flags = _ := prepared.flags
      rw [Session.traced_table]
      simp [occupied, same, raisedFor]

end Table

/-! ## Insertions into reachable tables -/

variable {table : Table α}

/-- Under laws, an insertion into a reachable table reports an interruption, and
raises the flag, exactly if the table is crowded, an array of the same capacity
is granted to drop its tombstones, and the items placed there in the order of
their slots leave one stranded.  An insertion that is cut short raises no
flag. -/
theorem insert_interrupted_iff
    (obeys : behaviour.Obeys laws)
    (reachable : behaviour.Reachable table)
    (item : ι)
    (thread : Thread σ)
    (journal : List Event) :
    Leads (Table.insert behaviour item) ⟨table, thread, journal⟩
      (fun result after =>
        (result = .error .interrupted ↔
          table.isCrowded = true ∧ table.Jams laws behaviour false thread.host) ∧
        (after.table.flags.interrupted = true ↔
          table.flags.interrupted = true ∨ result = .error .interrupted))
      (fun _ after => after.table.flags = table.flags) := by
  by_cases free : table.identity ∈ thread.roster
  · unfold Table.insert
    exact (Action.leads_entered_of_mem _ _ free).mpr rfl
  · have intact := reachable.intact
    refine (Table.insert_leads intact.sound free item).mono ?_ ?_
    · rintro result after ⟨done, inserted, isDone⟩
      have flags : after.table.flags = done.table.flags := by
        rw [isDone]
        cases result <;> rfl
      rw [flags]
      exact ⟨inserted.interrupted_iff obeys intact, inserted.interrupted_flag_iff⟩
    · rintro abort after ⟨_, done, inserted, rfl⟩
      exact inserted.flags

/-- Sixteen slots can be filled so that the path of 30, which comes by every other
slot, is taken when the tombstones are dropped: 46 is placed first then, on the
slot where 30 used to be. -/
theorem exists_interrupted_insert :
    ∃ (table : Table Nat) (after : Session Unit Nat),
      (Laws.numbers 16).faithful.Reachable table ∧
      Table.insert (Laws.numbers 16).faithful 1 ⟨table, { host := () }, []⟩ =
        .ok (.error .interrupted) after := by
  have created : (Laws.numbers 16).faithful.Reachable
      { identity := 0, settings := { initialCapacity := 16 }, slots := Slot.row Nat 16 } :=
    .created { initialCapacity := 16 } 0 () rfl
  obtain ⟨answers, middle, run, tested⟩ := exists_of_meets (show meets
    (fun _ middle => meets
      (fun result _ => match result with
        | .error .interrupted => true
        | _ => false)
      (Table.insert (Laws.numbers 16).faithful 1 ⟨middle.table, { host := () }, []⟩))
    (Request.performAll (Laws.numbers 16).faithful
      ([.insert 30, .insert 15, .insert 46, .insert 0, .insert 2, .insert 4, .insert 6,
        .insert 8, .insert 10, .insert 12, .insert 3, .insert 5, .insert 7, .insert 9,
        .remove 15, .remove 3, .remove 5, .remove 7, .remove 9] :
          List (Request Unit Nat Nat Unit))
      ⟨{ identity := 0, settings := { initialCapacity := 16 }, slots := Slot.row Nat 16 },
        { host := () }, []⟩) = true by decide +kernel)
  obtain ⟨result, after, inserted, isInterrupted⟩ := exists_of_meets tested
  refine ⟨middle.table, after, created.performAll (Or.inl ⟨answers, run⟩), ?_⟩
  rw [inserted]
  split at isInterrupted
  · rfl
  · cases isInterrupted

/-- The numbers jam a table. -/
theorem jam_of_numbers :
    ∃ table : Table Nat,
      (Laws.numbers 16).faithful.Obeys (Laws.numbers 16) ∧
      (Laws.numbers 16).faithful.Reachable table ∧
      table.isCrowded = true ∧
      table.Jams (Laws.numbers 16) (Laws.numbers 16).faithful false () := by
  obtain ⟨table, after, reachable, run⟩ := exists_interrupted_insert
  have obeys := (Laws.numbers 16).faithful_obeys
  have leads := insert_interrupted_iff obeys reachable 1 { host := () } []
  exact ⟨table, obeys, reachable, (leads.of_ok run).1.mp rfl⟩

/-- Not every insertion under laws is spared an interruption. -/
theorem not_forall_insert_uninterrupted :
    ¬ ∀ (laws : Laws Nat) (behaviour : Behaviour Unit Nat Nat) (table : Table Nat),
      behaviour.Obeys laws → behaviour.Steady → behaviour.Reachable table →
        ∀ (item : Nat) (thread : Thread Unit) (journal : List Event)
          (after : Session Unit Nat),
          Table.insert behaviour item ⟨table, thread, journal⟩ ≠
            .ok (.error .interrupted) after := by
  intro spared
  obtain ⟨table, after, reachable, run⟩ := exists_interrupted_insert
  exact spared (Laws.numbers 16) (Laws.numbers 16).faithful table
    (Laws.faithful_obeys _) (Laws.faithful_steady _) reachable 1 { host := () } [] after run

end OpenAddressing
