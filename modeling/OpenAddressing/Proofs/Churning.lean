import OpenAddressing.Proofs.Fullness

/-!
# Churn

A table at its threshold drops its tombstones at the same capacity if there is more
than one to four items, and has to grow otherwise.  So it depends on the items alone
whether it grows: as long as they take up less than four fifths of the threshold
whenever an item is inserted, a run may store and remove as many as it likes.
-/

namespace OpenAddressing

open Probe (Outcome)

variable {σ ι α γ δ : Type} {behaviour : Behaviour σ ι α} {laws : Laws ι}
variable {before mid after : Session σ α} {item : ι}

namespace Table

variable {table : Table α}

/-! ## Loose tables -/

/-- The items take up less than four fifths of the threshold of a capacity. -/
def Loose (table : Table α) (capacity : Nat) : Prop :=
  5 * (table.entries - table.tombstones) < 4 * Ladder.threshold capacity

/-- A loose table that is crowded has more than one tombstone to four items. -/
theorem Sound.reclaims_of_loose
    (sound : table.Sound)
    (loose : table.Loose table.capacity)
    (crowded : table.isCrowded = true) :
    table.reclaims table.items.length false = true := by
  have counted := sound.counted
  have live := sound.live_eq_length
  have reached : Ladder.threshold table.capacity ≤ table.entries := of_decide_eq_true crowded
  unfold Loose at loose
  simp only [reclaims, Bool.not_false, Bool.true_and, decide_eq_true_eq]
  omega

/-- A crowded table that is not loose has too few tombstones. -/
theorem Sound.not_reclaims_of_not_loose
    (sound : table.Sound)
    (reached : table.entries = Ladder.threshold table.capacity)
    (dense : ¬ table.Loose table.capacity) :
    table.reclaims table.items.length false = false := by
  have counted := sound.counted
  have live := sound.live_eq_length
  unfold Loose at dense
  simp only [reclaims, Bool.not_false, Bool.true_and, decide_eq_false_iff_not]
  omega

/-- A reorganization that drops tombstones keeps the capacity. -/
theorem Reorganized.level_of_reclaims
    {grow : Bool} {result : Except Failure Unit}
    (reorganized : Reorganized behaviour grow before result after)
    (reclaims : before.table.reclaims before.table.items.length grow = true) :
    before.Ascends 0 after := by
  rcases reorganized.climbs with level | ⟨climbed, _⟩
  · exact level
  · cases reorganized with
    | refused => exact absurd climbed.lt (Nat.lt_irrefl _)
    | interrupted => exact absurd climbed.lt (Nat.lt_irrefl _)
    | @committed capacity host target tally thread provided refills whole consults =>
        have aimed := (provision_eq_ok (congrArg Prod.fst provided)).1
        rw [reclaims, target?, if_pos rfl] at aimed
        obtain rfl := refills.size
        have larger : before.table.capacity < target.size := climbed.lt
        rw [← Option.some.inj aimed] at larger
        exact absurd larger (Nat.lt_irrefl _)

theorem Relieved.level_of_loose
    {result : Except Failure Unit}
    (relieved : Relieved behaviour before result after)
    (sound : before.table.Sound)
    (loose : before.table.Loose before.table.capacity) :
    before.Ascends 0 after := by
  cases relieved with
  | calm => exact .refl before
  | crowded crowded madeRoom =>
      have reclaims := sound.reclaims_of_loose loose crowded
      cases madeRoom with
      | made reorganized => exact reorganized.level_of_reclaims reclaims
      | failed reorganized =>
          have level := reorganized.level_of_reclaims reclaims
          exact level.trans (Session.level_flagged _ _)

/-! ## Insertions into loose tables -/

theorem Prepared.level_of_loose
    {result : Except Failure Outcome}
    (prepared : Prepared behaviour item before result after)
    (sound : before.table.Sound)
    (prime : before.table.capacity.Prime)
    (loose : before.table.Loose before.table.capacity) :
    before.Ascends 0 after := by
  cases prepared with
  | cramped relieved => exact relieved.level_of_loose sound loose
  | sought relieved sought =>
      have sound' := relieved.preserves.sound sound
      exact (relieved.level_of_loose sound loose).trans
        (sought.level sound' (relieved.prime prime))

theorem PreparedUntil.level_of_loose
    (prepared : PreparedUntil behaviour item before after)
    (sound : before.table.Sound)
    (prime : before.table.capacity.Prime)
    (loose : before.table.Loose before.table.capacity) :
    before.Ascends 0 after := by
  cases prepared with
  | relieving searched => exact searched.level
  | seeking relieved sought =>
      have sound' := relieved.preserves.sound sound
      exact (relieved.level_of_loose sound loose).trans
        (sought.level sound' (relieved.prime prime))

/-- However an insertion into a loose table of prime capacity ends, it keeps the
capacity. -/
theorem Inserted.level_of_loose
    {result : Except Failure (Loan α)}
    (inserted : Inserted behaviour item before result after)
    (sound : before.table.Sound)
    (prime : before.table.capacity.Prime)
    (loose : before.table.Loose before.table.capacity) :
    before.Ascends 0 after := by
  obtain ⟨outcome, ready, prepared, level, _⟩ := inserted.exists_prepared
  exact (prepared.level_of_loose sound prime loose).trans level

theorem InsertedUntil.level_of_loose
    (inserted : InsertedUntil behaviour item before after)
    (sound : before.table.Sound)
    (prime : before.table.capacity.Prime)
    (loose : before.table.Loose before.table.capacity) :
    before.Ascends 0 after := by
  rcases inserted.prepared with prepared | ⟨outcome, ready, prepared, level⟩
  · exact prepared.level_of_loose sound prime loose
  · exact (prepared.level_of_loose sound prime loose).trans level

/-- A loose table is not full. -/
theorem Answered.ne_full_of_loose
    {host : σ} {uncopied : Prop} {result : Except Failure (Loan α)}
    (answered : Answered (table.relief behaviour host) uncopied result)
    (sound : table.Sound)
    (loose : table.Loose table.capacity) :
    result ≠ .error .tableFull := by
  cases crowded : table.isCrowded with
  | false =>
      rw [relief_of_roomy crowded] at answered
      rcases answered.of_relieved with ⟨rfl, _⟩ | ⟨⟨loan, rfl⟩, _⟩ <;> simp
  | true =>
      have reclaims := sound.reclaims_of_loose loose crowded
      have aims : table.Aims table.capacity := by
        rw [← sound.target?_eq_some_iff, reclaims, target?, if_pos rfl]
      intro full
      exact (answered.of_crowded sound crowded).1.mp full _ aims

/-- An insertion into a loose table of prime capacity keeps the capacity, and a copy is
all that it may lack memory for. -/
theorem insert_leads_loose
    (obeys : behaviour.Obeys laws)
    (intact : before.table.Intact behaviour)
    (prime : before.table.capacity.Prime)
    (loose : before.table.Loose before.table.capacity)
    (item : ι) :
    Leads (insert behaviour item) before
      (fun result after => before.Ascends 0 after ∧
        result ≠ .error .tableFull ∧ result ≠ .error .interrupted)
      (fun _ after => before.Ascends 0 after) := by
  by_cases busy : before.table.identity ∈ before.thread.roster
  · unfold insert
    exact (Action.leads_entered_of_mem _ _ busy).mpr (.refl before)
  · have sound : before.joined.table.Sound := intact.sound
    have joins : before.Ascends 0 before.joined := Session.level_thread before _
    refine ((insert_leads intact.sound busy item).and
      (insert_leads_answered obeys intact prime busy item)).mono ?_ ?_
    · rintro result after ⟨⟨done, inserted, isDone⟩, answered⟩
      have level := joins.trans (inserted.level_of_loose sound prime loose)
      refine ⟨?_, answered.ne_full_of_loose intact.sound loose,
        answered.ne_interrupted intact.sound⟩
      rw [isDone]
      split
      · exact level
      · exact level.trans (Session.level_thread done _)
    · rintro abort after ⟨⟨_, done, inserted, rfl⟩, _⟩
      have level := joins.trans (inserted.level_of_loose sound prime loose)
      exact level.trans (Session.level_thread done _)

end Table

/-! ## The growth path -/

/-- How an operation may end that has to make a table grow: there is no larger
capacity, or no memory for it, or the items are moved to the next rung before
anything else is done. -/
inductive Table.Outgrown
    (behaviour : Behaviour σ ι α)
    (table : Table α)
    (host : σ)
    (journal : List Event) : Except Failure γ → Session σ α → Prop
  | exhausted {after : Session σ α}
      (top : Ladder.nextWithin? table.settings.maxCapacity table.capacity = none)
      (same : after.table.capacity = table.capacity)
      (told : ∃ events, after.journal = events ++ .ladderExhausted table.capacity :: journal) :
      Outgrown behaviour table host journal (.error .tableFull) after
  | refused {rung : Nat} {after : Session σ α}
      (next : Ladder.nextWithin? table.settings.maxCapacity table.capacity = some rung)
      (refuses : behaviour.Refuses rung (table.entries - table.tombstones) host)
      (same : after.table.capacity = table.capacity) :
      Outgrown behaviour table host journal (.error .outOfMemory) after
  | grown {rung : Nat} {result : Except Failure γ} {after : Session σ α}
      (next : Ladder.nextWithin? table.settings.maxCapacity table.capacity = some rung)
      (granted : ¬ behaviour.Refuses rung (table.entries - table.tombstones) host)
      (climbed : after.table.capacity = rung)
      (told : ∃ events, after.journal = events ++
        .reorganized table.capacity rung (table.entries - table.tombstones) false ::
          journal) :
      Outgrown behaviour table host journal result after

namespace Table

variable {table : Table α} {host : σ} {journal : List Event}

/-- What follows the attempt to grow keeps the capacity. -/
theorem Outgrown.level
    {result : Except Failure γ} {result' : Except Failure δ}
    (outgrown : Outgrown behaviour table host journal result mid)
    (level : mid.Ascends 0 after)
    (fails : ∀ failure, result = .error failure → result' = .error failure) :
    Outgrown behaviour table host journal result' after := by
  obtain ⟨later, told', _⟩ := level.told
  cases outgrown with
  | exhausted top same told =>
      obtain ⟨events, told⟩ := told
      rw [fails _ rfl]
      refine .exhausted top (level.capacity_eq.trans same) ⟨later ++ events, ?_⟩
      rw [told', told, List.append_assoc]
  | refused next refuses same =>
      rw [fails _ rfl]
      exact .refused next refuses (level.capacity_eq.trans same)
  | grown next granted climbed told =>
      obtain ⟨events, told⟩ := told
      refine .grown next granted (level.capacity_eq.trans climbed) ⟨later ++ events, ?_⟩
      rw [told', told, List.append_assoc]

/-- A reorganization that is refused has nothing to aim at, or no memory to move the
items there. -/
theorem refuses_of_provision
    {grow : Bool} {refusal : Refusal}
    (provided : (provision behaviour table grow host).1 = .error refusal) :
    table.target? (table.reclaims table.items.length grow) = none ∧
        refusal = .exhausted table.capacity ∨
      ∃ target, table.target? (table.reclaims table.items.length grow) = some target ∧
        refusal.failure = .outOfMemory ∧
        behaviour.Refuses target table.items.length host := by
  unfold provision at provided
  simp only at provided
  split at provided
  · rename_i aimless
    exact Or.inl ⟨aimless, (Except.error.inj provided).symm⟩
  · rename_i target aimed
    refine Or.inr ⟨target, aimed, ?_⟩
    split at provided
    · rename_i host' denied
      obtain rfl := Except.error.inj provided
      exact ⟨rfl, Or.inl (congrArg Prod.fst denied)⟩
    · rename_i slots host' granted
      split at provided
      · cases provided
      · rename_i host'' unlogged
        obtain rfl := Except.error.inj provided
        refine ⟨rfl, Or.inr ?_⟩
        rw [granted, unlogged]

/-- A capacity that was provided was not refused. -/
theorem not_refuses_of_provision
    {grow : Bool} {capacity : Nat}
    (provided : (provision behaviour table grow host).1 = .ok capacity) :
    ¬ behaviour.Refuses capacity table.items.length host := by
  unfold provision at provided
  simp only at provided
  split at provided
  · cases provided
  · split at provided
    · cases provided
    · rename_i slots host' granted
      split at provided
      · rename_i host'' logged
        obtain rfl := Except.ok.inj provided
        unfold Behaviour.Refuses
        rw [granted, logged]
        simp
      · cases provided

/-- A reorganization that drops no tombstones at the same capacity grows the
table. -/
theorem Reorganized.outgrown
    {grow : Bool} {result : Except Failure Unit}
    (reorganized : Reorganized behaviour grow before result after)
    (obeys : behaviour.Obeys laws)
    (intact : before.table.Intact behaviour)
    (grows : before.table.reclaims before.table.items.length grow = false) :
    Outgrown behaviour before.table before.thread.host before.journal result after := by
  have live := intact.sound.live_eq_length
  have target : before.table.target? (before.table.reclaims before.table.items.length grow) =
      Ladder.nextWithin? before.table.settings.maxCapacity before.table.capacity := by
    rw [grows]
    rfl
  have notInterrupted : result ≠ .error .interrupted := by
    intro interrupted
    obtain ⟨reclaims, _⟩ := (reorganized.interrupted_iff obeys intact).mp interrupted
    rw [grows] at reclaims
    cases reclaims
  cases reorganized with
  | refused refusal provided =>
      rcases refuses_of_provision (congrArg Prod.fst provided) with
        ⟨top, rfl⟩ | ⟨rung, next, failed, refuses⟩
      · exact .exhausted (target.symm.trans top) rfl ⟨[], rfl⟩
      · rw [failed]
        rw [← live] at refuses
        exact .refused (target.symm.trans next) refuses rfl
  | interrupted => exact absurd rfl notInterrupted
  | @committed capacity host target' tally thread provided refills whole consults =>
      have provided := congrArg Prod.fst provided
      have granted := not_refuses_of_provision provided
      obtain rfl := refills.size
      rw [← live] at granted
      refine .grown (target.symm.trans (provision_eq_ok provided).1) granted rfl ⟨[], ?_⟩
      rw [grows, live]
      rfl

/-- A table at its threshold that is not loose is relieved by growth. -/
theorem Relieved.outgrown
    {result : Except Failure Unit}
    (relieved : Relieved behaviour before result after)
    (obeys : behaviour.Obeys laws)
    (intact : before.table.Intact behaviour)
    (reached : before.table.entries = Ladder.threshold before.table.capacity)
    (dense : ¬ before.table.Loose before.table.capacity) :
    Outgrown behaviour before.table before.thread.host before.journal result after := by
  have grows := intact.sound.not_reclaims_of_not_loose reached dense
  cases relieved with
  | calm roomy =>
      rw [Table.isCrowded, decide_eq_false_iff_not] at roomy
      exact absurd reached.ge roomy
  | crowded _ madeRoom =>
      cases madeRoom with
      | made reorganized => exact reorganized.outgrown obeys intact grows
      | failed reorganized =>
          exact (reorganized.outgrown obeys intact grows).level (Session.level_flagged _ _)
            fun _ => id

theorem Prepared.outgrown
    {result : Except Failure Outcome}
    (prepared : Prepared behaviour item before result after)
    (obeys : behaviour.Obeys laws)
    (intact : before.table.Intact behaviour)
    (prime : before.table.capacity.Prime)
    (reached : before.table.entries = Ladder.threshold before.table.capacity)
    (dense : ¬ before.table.Loose before.table.capacity) :
    Outgrown behaviour before.table before.thread.host before.journal result after := by
  cases prepared with
  | cramped relieved =>
      exact (relieved.outgrown obeys intact reached dense).level (.refl _) fun _ => by simp
  | sought relieved sought =>
      have sound := relieved.preserves.sound intact.sound
      have level := sought.level sound (relieved.prime prime)
      exact (relieved.outgrown obeys intact reached dense).level level fun _ => by simp

/-- An insertion into a table at its threshold that is not loose goes on after an
attempt to grow. -/
theorem insert_leads_outgrown
    (obeys : behaviour.Obeys laws)
    (intact : before.table.Intact behaviour)
    (prime : before.table.capacity.Prime)
    (free : before.table.identity ∉ before.thread.roster)
    (reached : before.table.entries = Ladder.threshold before.table.capacity)
    (dense : ¬ before.table.Loose before.table.capacity)
    (item : ι) :
    Leads (insert behaviour item) before
      (fun result after =>
        Outgrown behaviour before.table before.thread.host before.journal result after)
      (fun abort _ => behaviour.Raises abort) := by
  have intact' : before.joined.table.Intact behaviour := intact
  refine (insert_leads intact.sound free item).mono ?_ fun _ _ cut => cut.1
  rintro result after ⟨done, inserted, isDone⟩
  obtain ⟨outcome, ready, prepared, level, fails⟩ := inserted.exists_prepared
  have outgrown := prepared.outgrown obeys intact' prime reached dense
  have level' : done.Ascends 0 after := by
    rw [isDone]
    split
    · exact .refl done
    · exact Session.level_thread done _
  exact outgrown.level (level.trans level') fails

/-- At its threshold, a table that is not loose makes room as if growth were
forced. -/
theorem relieve_eq_makeRoom
    (sound : before.table.Sound)
    (reached : before.table.entries = Ladder.threshold before.table.capacity)
    (dense : ¬ before.table.Loose before.table.capacity) :
    relieve behaviour before = makeRoom behaviour true before := by
  have crowded : before.table.isCrowded = true := decide_eq_true reached.ge
  have counted : before.table.tombstones ≤ before.table.entries := by
    have counted := sound.counted
    omega
  have forced : before.table.reclaims before.table.items.length true = false := rfl
  have grows := sound.not_reclaims_of_not_loose reached dense
  have same : reorganize behaviour false before = reorganize behaviour true before := by
    simp only [reorganize, bind, EStateM.bind, Action.inspect, Action.live, if_pos counted,
      sound.live_eq_length, id, grows, forced]
  simp only [relieve, makeRoom, bind, EStateM.bind, Action.inspect, crowded, if_true, same]

end Table

/-! ## Runs -/

/-- The tables that a run leads to from a table, if at each insertion the items take
up less than four fifths of the threshold that the table had at the start. -/
inductive Behaviour.Churns (behaviour : Behaviour σ ι α) (start : Table α) :
    Table α → Prop
  | start : Churns behaviour start start
  | performed {table : Table α} {β : Type} (request : Request σ ι α β) (thread : Thread σ)
      (journal : List Event) {after : Session σ α}
      (churns : Churns behaviour start table)
      (loose : ∀ item, request = .insert item → table.Loose start.capacity)
      (run : Passes (request.perform behaviour) ⟨table, thread, journal⟩ after) :
      Churns behaviour start after.table

/-- A request to a table of prime capacity keeps the capacity, if the table is loose
whenever the request is an insertion. -/
theorem Request.capacity_of_passes
    {β : Type} {request : Request σ ι α β}
    (sound : before.table.Sound)
    (prime : before.table.capacity.Prime)
    (loose : ∀ item, request = .insert item → before.table.Loose before.table.capacity)
    (run : Passes (request.perform behaviour) before after) :
    after.table.capacity = before.table.capacity := by
  cases request with
  | insert item =>
      have sound' : before.joined.table.Sound := sound
      have loose := loose item rfl
      obtain rfl | ⟨done, rfl, ⟨answer, performed⟩ | performed⟩ :=
        performed_of_passes sound run
      · rfl
      · cases performed with
        | insert inserted => exact (inserted.level_of_loose sound' prime loose).capacity_eq
      · cases performed with
        | insert inserted => exact (inserted.level_of_loose sound' prime loose).capacity_eq
  | _ => exact congrArg Prod.snd (frame_of_passes sound run (by simp))

namespace Behaviour.Churns

variable {start table : Table α}

/-- A run leads from a reachable table to reachable ones. -/
theorem reachable
    (churns : behaviour.Churns start table)
    (reachable : behaviour.Reachable start) :
    behaviour.Reachable table := by
  induction churns with
  | start => exact reachable
  | performed request thread journal _ _ run inductionHypothesis =>
      exact .performed request thread journal inductionHypothesis run

/-- The capacity stays that of the start. -/
theorem capacity_eq
    (churns : behaviour.Churns start table)
    (reachable : behaviour.Reachable start)
    (prime : start.capacity.Prime) :
    table.capacity = start.capacity := by
  induction churns with
  | start => rfl
  | @performed table _ request thread journal after churns loose run same =>
      have sound : (⟨table, thread, journal⟩ : Session σ α).table.Sound :=
        (churns.reachable reachable).intact.sound
      rw [← same] at prime loose
      exact (Request.capacity_of_passes sound prime loose run).trans same

/-- Requests that are no insertions may follow at any load. -/
theorem performEach
    {β : Type} {requests : List (Request σ ι α β)}
    (churns : behaviour.Churns start before.table)
    (others : ∀ request ∈ requests, ∀ item, request ≠ .insert item) :
    behaviour.Churns start (Request.performEach behaviour requests before).2.table := by
  have kept : ∀ request ∈ requests, ∀ before after,
      Passes (request.perform behaviour) before after →
        behaviour.Churns start before.table → behaviour.Churns start after.table := by
    intro request member before after run churns
    exact .performed request before.thread before.journal churns
      (fun item isInsert => absurd isInsert (others request member item)) run
  exact Request.performEach_keeps kept churns

end Behaviour.Churns

variable {start : Table α}

/-- Under laws, a run that starts at a reachable table of prime capacity keeps the
capacity, however often it stores and removes items and whatever is refused or cut
short, as long as the items take up less than four fifths of the threshold whenever
an item is inserted.  No insertion of the run finds the table full or is
interrupted.  But an insertion that meets such a table at its threshold, with items
that take up as much, makes room as if growth were forced: there is no larger
capacity and the table is full, or there is no memory for it, or the next rung is
reached before anything else is done. -/
theorem churn_keeps_capacity
    (obeys : behaviour.Obeys laws)
    (reachable : behaviour.Reachable start)
    (prime : start.capacity.Prime) :
    (∀ table, behaviour.Churns start table →
      table.capacity = start.capacity ∧
      (table.Loose start.capacity →
        ∀ (item : ι) (thread : Thread σ) (journal : List Event),
          (behaviour.Steady → table.identity ∉ thread.roster → ∃ result after,
            Table.insert behaviour item ⟨table, thread, journal⟩ = .ok result after) ∧
          Leads (Table.insert behaviour item) ⟨table, thread, journal⟩
            (fun result after => after.table.capacity = start.capacity ∧
              result ≠ .error .tableFull ∧ result ≠ .error .interrupted)
            (fun _ after => after.table.capacity = start.capacity))) ∧
    (start.entries = Ladder.threshold start.capacity →
      4 * Ladder.threshold start.capacity ≤ 5 * (start.entries - start.tombstones) →
      ∀ (item : ι) (thread : Thread σ) (journal : List Event),
        start.identity ∉ thread.roster →
        Table.relieve behaviour (Session.joined ⟨start, thread, journal⟩) =
          Table.makeRoom behaviour true (Session.joined ⟨start, thread, journal⟩) ∧
        Leads (Table.insert behaviour item) ⟨start, thread, journal⟩
          (fun result after =>
            Table.Outgrown behaviour start thread.host journal result after)
          (fun abort _ => behaviour.Raises abort)) := by
  constructor
  · intro table churns
    have same := churns.capacity_eq reachable prime
    rw [← same] at prime ⊢
    have intact := (churns.reachable reachable).intact
    refine ⟨rfl, fun loose item thread journal => ⟨fun steady free => ?_, ?_⟩⟩
    · have leads : Leads (Table.insert behaviour item) ⟨table, thread, journal⟩ _ _ :=
        Table.insert_leads_answered obeys intact prime free item
      exact steady.returns leads
    · have leads : Leads (Table.insert behaviour item) ⟨table, thread, journal⟩ _ _ :=
        Table.insert_leads_loose obeys intact prime loose item
      refine leads.mono ?_ ?_
      · rintro result after ⟨level, notFull, notInterrupted⟩
        exact ⟨level.capacity_eq, notFull, notInterrupted⟩
      · intro abort after level
        exact level.capacity_eq
  · intro reached dense item thread journal free
    have intact : (⟨start, thread, journal⟩ : Session σ α).table.Intact behaviour :=
      reachable.intact
    have dense' : ¬ start.Loose start.capacity := Nat.not_lt.mpr dense
    constructor
    · have sound : (Session.joined ⟨start, thread, journal⟩).table.Sound := intact.sound
      exact Table.relieve_eq_makeRoom sound reached dense'
    · exact Table.insert_leads_outgrown obeys intact prime free reached dense' item

/-- Requests that remove four numbers. -/
def Request.removals : List (Request Unit Nat Nat Unit) :=
  [.remove 0, .remove 1, .remove 2, .remove 3]

/-- A table of fifteen numbers is at its threshold and may not grow.  So the next number
finds it full; but once four numbers are removed, the next one lets the table drop its
tombstones. -/
theorem churn_of_numbers_keeps_capacity :
    ∃ (start table : Table Nat) (full after : Session Unit Nat) (loan : Loan Nat),
      (Laws.numbers 16).faithful.Reachable start ∧ start.capacity.Prime ∧
      Table.insert (Laws.numbers 16).faithful 100 ⟨start, { host := () }, []⟩ =
        .ok (.error .tableFull) full ∧
      full.journal = [.ladderExhausted 17] ∧
      (Laws.numbers 16).faithful.Churns start table ∧
      table.entries = Ladder.threshold table.capacity ∧
      Table.insert (Laws.numbers 16).faithful 100 ⟨table, { host := () }, []⟩ =
        .ok (.ok loan) after ∧
      after.journal = [.reorganized 17 17 11 true] ∧
      after.table.capacity = start.capacity := by
  have created : (Laws.numbers 16).faithful.Reachable
      { identity := 0, settings := { maxCapacity := 17 }, slots := Slot.row Nat 17 } :=
    .created { maxCapacity := 17 } 0 () rfl
  obtain ⟨answers, middle, run, tested⟩ := exists_of_meets (show meets
    (fun _ middle =>
      let worn := (Request.performEach (Laws.numbers 16).faithful Request.removals
        ⟨middle.table, { host := () }, []⟩).2.table
      middle.table.settings == { maxCapacity := 17 } && (middle.table.capacity == 17 &&
        (middle.table.entries == 15 && (middle.table.tombstones == 0 &&
          (worn.capacity == 17 && (worn.entries == 15 && (worn.tombstones == 4 && (meets
            (fun _ full => full.journal == [.ladderExhausted 17])
            (Table.insert (Laws.numbers 16).faithful 100
              ⟨middle.table, { host := () }, []⟩) &&
          meets
            (fun result after => result.isOk &&
              after.journal == [.reorganized 17 17 11 true])
            (Table.insert (Laws.numbers 16).faithful 100
              ⟨worn, { host := () }, []⟩)))))))))
    (Request.performAll (Laws.numbers 16).faithful
      ((List.range 15).map .insert : List (Request Unit Nat Nat Unit))
      ⟨{ identity := 0, settings := { maxCapacity := 17 }, slots := Slot.row Nat 17 },
        { host := () }, []⟩) = true by decide +kernel)
  simp only [Bool.and_eq_true, beq_iff_eq] at tested
  obtain ⟨settings, capacity, entries, tombstones, capacity', entries', tombstones', fails,
    fits⟩ := tested
  have obeys := (Laws.numbers 16).faithful_obeys
  have reachable := created.performAll (Or.inl ⟨answers, run⟩)
  have prime : middle.table.capacity.Prime := by
    rw [capacity]
    norm_num
  have reached : middle.table.entries = Ladder.threshold middle.table.capacity := by
    rw [capacity, entries]
    decide
  have dense : 4 * Ladder.threshold middle.table.capacity ≤
      5 * (middle.table.entries - middle.table.tombstones) := by
    rw [capacity, entries, tombstones]
    decide
  have top : Ladder.nextWithin? middle.table.settings.maxCapacity middle.table.capacity =
      none := by
    rw [settings, capacity]
    decide
  obtain ⟨keeps, outgrows⟩ := churn_keeps_capacity obeys reachable prime
  obtain ⟨result, full, inserts, told⟩ := exists_of_meets fails
  have outgrown := (outgrows reached dense 100 { host := () } [] List.not_mem_nil).2.of_ok inserts
  have begins : (Laws.numbers 16).faithful.Churns middle.table
      (⟨middle.table, { host := () }, []⟩ : Session Unit Nat).table := .start
  have churns := begins.performEach (show ∀ request ∈ Request.removals, ∀ item,
    request ≠ .insert item by simp [Request.removals])
  obtain ⟨worn, isWorn⟩ : ∃ worn, (Request.performEach (Laws.numbers 16).faithful
    Request.removals ⟨middle.table, { host := () }, []⟩).2.table = worn := ⟨_, rfl⟩
  rw [isWorn] at churns capacity' entries' tombstones' fits
  have loose : worn.Loose middle.table.capacity := by
    rw [Table.Loose, capacity, entries', tombstones']
    decide
  have worn' : worn.entries = Ladder.threshold worn.capacity := by
    rw [capacity', entries']
    decide
  obtain ⟨_, inserted⟩ := keeps worn churns
  obtain ⟨result', after, inserts', tested⟩ := exists_of_meets fits
  simp only [Bool.and_eq_true, beq_iff_eq] at tested
  obtain ⟨succeeded, told'⟩ := tested
  have same := ((inserted loose 100 { host := () } []).2.of_ok inserts').1
  cases result' with
  | error failure => cases succeeded
  | ok loan =>
      cases outgrown with
      | exhausted =>
          exact ⟨middle.table, worn, full, after, loan, reachable, prime, inserts,
            beq_iff_eq.mp told, churns, worn', inserts', told', same⟩
      | refused next =>
          rw [top] at next
          cases next
      | grown next =>
          rw [top] at next
          cases next

end OpenAddressing
