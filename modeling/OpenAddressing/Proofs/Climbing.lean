import OpenAddressing.Proofs.Framing
import OpenAddressing.Proofs.Load

/-!
# How capacities climb

Only an insertion changes the capacity of a table, and it does so at most once,
to the next rung.  It may make room twice: first because the table is crowded, and
then because a path has no vacancy.  But a rung is a prime and the new array keeps
empty slots, so a path of a table that has climbed never lacks a vacancy, whatever
foreign code answers.
-/

namespace OpenAddressing

open Probe (Outcome)

variable {σ ι α β : Type} {behaviour : Behaviour σ ι α}
variable {first second third before mid after : Session σ α} {item : ι}

/-! ## Climbs -/

namespace Ladder

/-- The capacity after some steps from rung to rung, if a bound allows them. -/
def climb? (bound : Nat) : (times capacity : Nat) → Option Nat
  | 0, capacity => some capacity
  | times + 1, capacity => (nextWithin? bound capacity).bind (climb? bound times)

variable {bound capacity top : Nat}

@[simp] theorem climb?_zero : climb? bound 0 capacity = some capacity := rfl

@[simp] theorem climb?_one : climb? bound 1 capacity = nextWithin? bound capacity :=
  Option.bind_fun_some _

theorem climb?_add (earlier later : Nat) :
    climb? bound (earlier + later) capacity =
      (climb? bound earlier capacity).bind (climb? bound later) := by
  induction earlier generalizing capacity with
  | zero => simp
  | succ earlier inductionHypothesis =>
      rw [Nat.succ_add]
      simp only [climb?, Option.bind_assoc]
      congr 1
      funext rung
      exact inductionHypothesis

/-- Whoever climbs stands where the climb began or on a rung within the bound. -/
theorem climb?_eq_some
    {times : Nat}
    (climbs : climb? bound times capacity = some top) :
    top = capacity ∨ top ∈ rungs ∧ top ≤ bound := by
  induction times generalizing capacity with
  | zero => exact Or.inl (Option.some.inj climbs).symm
  | succ times inductionHypothesis =>
      obtain ⟨rung, next, climbs⟩ := Option.bind_eq_some_iff.mp climbs
      rcases inductionHypothesis climbs with rfl | above
      · obtain ⟨found, bounded⟩ := nextWithin?_eq_some next
        exact Or.inr ⟨mem_rungs_of_next? found, bounded⟩
      · exact Or.inr above

end Ladder

/-- Whether the event tells of a new capacity. -/
def Event.resizes : Event → Bool
  | reorganized oldCapacity capacity _ _ => oldCapacity != capacity
  | _ => false

/-- A session goes on with a table that has changed its capacity a number of times,
each time to the next rung.  The journal tells of every change, and no tombstone
is added. -/
structure Session.Ascends (times : Nat) (before after : Session σ α) : Prop where
  /-- The settings are fixed. -/
  settings : after.table.settings = before.table.settings
  /-- No rung is left out. -/
  climbs : Ladder.climb? before.table.settings.maxCapacity times before.table.capacity =
    some after.table.capacity
  /-- Every change of the capacity is reported. -/
  told : ∃ events, after.journal = events ++ before.journal ∧
    events.countP Event.resizes = times
  /-- No tombstone is added. -/
  tombstones : after.table.tombstones ≤ before.table.tombstones

namespace Session.Ascends

theorem refl (session : Session σ α) : session.Ascends 0 session where
  settings := rfl
  climbs := rfl
  told := ⟨[], rfl, rfl⟩
  tombstones := Nat.le_refl _

theorem trans
    {earlier later : Nat}
    (ascends : first.Ascends earlier second)
    (ascends' : second.Ascends later third) :
    first.Ascends (earlier + later) third where
  settings := ascends'.settings.trans ascends.settings
  climbs := by
    rw [Ladder.climb?_add, ascends.climbs, Option.bind_some, ← ascends.settings]
    exact ascends'.climbs
  told := by
    obtain ⟨events, told, count⟩ := ascends.told
    obtain ⟨events', told', count'⟩ := ascends'.told
    refine ⟨events' ++ events, ?_, ?_⟩
    · rw [told', told, List.append_assoc]
    · rw [List.countP_append, count, count', Nat.add_comm]
  tombstones := ascends'.tombstones.trans ascends.tombstones

theorem capacity_eq (level : first.Ascends 0 second) :
    second.table.capacity = first.table.capacity :=
  (Option.some.inj level.climbs).symm

theorem next (climbed : first.Ascends 1 second) :
    Ladder.nextWithin? first.table.settings.maxCapacity first.table.capacity =
      some second.table.capacity := by
  rw [← Ladder.climb?_one]
  exact climbed.climbs

theorem lt (climbed : first.Ascends 1 second) :
    first.table.capacity < second.table.capacity :=
  Ladder.lt_of_next? (Ladder.nextWithin?_eq_some climbed.next).1

end Session.Ascends

/-- A session goes on with a table that has changed its capacity at most once.  If
it did so, the capacity is a prime. -/
def Session.Climbs (before after : Session σ α) : Prop :=
  before.Ascends 0 after ∨ before.Ascends 1 after ∧ after.table.capacity.Prime

namespace Session

theorem Climbs.level
    (climbs : first.Climbs second)
    (level : second.Ascends 0 third) :
    first.Climbs third := by
  rcases climbs with level' | ⟨climbed, prime⟩
  · exact Or.inl (level'.trans level)
  · rw [← level.capacity_eq] at prime
    exact Or.inr ⟨climbed.trans level, prime⟩

theorem Ascends.climbs_trans
    (level : first.Ascends 0 second)
    (climbs : second.Climbs third) :
    first.Climbs third := by
  rcases climbs with level' | ⟨climbed, prime⟩
  · exact Or.inl (level.trans level')
  · exact Or.inr ⟨level.trans climbed, prime⟩

theorem Searched.level (searched : before.Searched behaviour after) :
    before.Ascends 0 after := by
  obtain ⟨tally, thread, rfl, _⟩ := searched
  exact ⟨rfl, rfl, ⟨[], rfl, rfl⟩, Nat.le_refl _⟩

theorem level_flagged (session : Session σ α) (flags : Flags) :
    session.Ascends 0 (session.flagged flags) :=
  ⟨rfl, rfl, ⟨[], rfl, rfl⟩, Nat.le_refl _⟩

theorem level_thread (session : Session σ α) (thread : Thread σ) :
    session.Ascends 0 { session with thread } :=
  ⟨rfl, rfl, ⟨[], rfl, rfl⟩, Nat.le_refl _⟩

theorem level_traced {event : Event} (session : Session σ α) (other : event.resizes = false) :
    session.Ascends 0 (session.traced event) := by
  unfold traced
  split
  · exact ⟨rfl, rfl, ⟨[event], rfl, by simp [other]⟩, Nat.le_refl _⟩
  · exact .refl session

end Session

namespace Table

/-! ## The steps of an insertion -/

/-- The events of a refusal tell of no new capacity. -/
theorem Refusal.countP_resizes (refusal : Refusal) :
    refusal.events.countP Event.resizes = 0 := by
  cases refusal <;> rfl

/-- A reorganization changes the capacity only if it grows the table. -/
theorem Reorganized.climbs
    {grow : Bool} {result : Except Failure Unit}
    (reorganized : Reorganized behaviour grow before result after) :
    before.Climbs after := by
  cases reorganized with
  | refused refusal =>
      exact Or.inl ⟨rfl, rfl, ⟨refusal.events, rfl, refusal.countP_resizes⟩, Nat.le_refl _⟩
  | interrupted => exact Or.inl ⟨rfl, rfl, ⟨[_], rfl, rfl⟩, Nat.le_refl _⟩
  | @committed capacity host target tally thread provided refills whole consults =>
      have aimed := (provision_eq_ok (congrArg Prod.fst provided)).1
      obtain rfl := refills.size
      rcases target?_cases aimed with ⟨_, same⟩ | ⟨grows, next, bounded⟩
      · refine Or.inl ⟨rfl, congrArg some same.symm, ⟨[_], rfl, ?_⟩, Nat.zero_le _⟩
        simp [Event.resizes, same]
      · have larger := Ladder.lt_of_next? next
        rw [grows] at aimed
        refine Or.inr ⟨⟨rfl, Ladder.climb?_one.trans aimed, ⟨[_], rfl, ?_⟩, Nat.zero_le _⟩, ?_⟩
        · simp [Event.resizes, larger.ne]
        · exact Ladder.prime_of_mem_rungs (Ladder.mem_rungs_of_next? next)

theorem MadeRoom.climbs
    {grow : Bool} {result : Except Failure Unit}
    (madeRoom : MadeRoom behaviour grow before result after) :
    before.Climbs after := by
  cases madeRoom with
  | made reorganized => exact reorganized.climbs
  | failed reorganized => exact reorganized.climbs.level (Session.level_flagged _ _)

theorem Relieved.climbs
    {result : Except Failure Unit}
    (relieved : Relieved behaviour before result after) :
    before.Climbs after := by
  cases relieved with
  | calm => exact Or.inl (.refl before)
  | crowded _ madeRoom => exact madeRoom.climbs

namespace Sought

variable {result : Except Failure Outcome}

theorem climbs (sought : Sought behaviour item before result after) :
    before.Climbs after := by
  cases sought with
  | located searched => exact Or.inl searched.level
  | grown searched _ madeRoom again =>
      exact searched.level.climbs_trans (madeRoom.climbs.level again.level)
  | failed searched _ madeRoom => exact searched.level.climbs_trans madeRoom.climbs

/-- At a prime capacity a path never lacks a vacancy. -/
theorem level
    (sought : Sought behaviour item before result after)
    (sound : before.table.Sound)
    (prime : before.table.capacity.Prime) :
    before.Ascends 0 after := by
  cases sought with
  | located searched => exact searched.level
  | grown _ missing => exact absurd missing (sound.not_missing prime)
  | failed _ missing => exact absurd missing (sound.not_missing prime)

end Sought

theorem SoughtUntil.climbs (sought : SoughtUntil behaviour item before after) :
    before.Climbs after := by
  cases sought with
  | first searched => exact Or.inl searched.level
  | again searched _ madeRoom again =>
      exact searched.level.climbs_trans (madeRoom.climbs.level again.level)

theorem SoughtUntil.level
    (sought : SoughtUntil behaviour item before after)
    (sound : before.table.Sound)
    (prime : before.table.capacity.Prime) :
    before.Ascends 0 after := by
  cases sought with
  | first searched => exact searched.level
  | again _ missing => exact absurd missing (sound.not_missing prime)

/-- A table that climbs when it is relieved does not climb again. -/
theorem Relieved.climbs_trans
    {result : Except Failure Unit}
    (relieved : Relieved behaviour before result mid)
    (sound : before.table.Sound)
    (climbs : mid.Climbs after)
    (level : mid.table.Sound → mid.table.capacity.Prime → mid.Ascends 0 after) :
    before.Climbs after := by
  rcases relieved.climbs with kept | ⟨climbed, prime⟩
  · exact kept.climbs_trans climbs
  · have sound' := relieved.preserves.sound sound
    exact Session.Climbs.level (Or.inr ⟨climbed, prime⟩) (level sound' prime)

theorem Prepared.climbs
    {result : Except Failure Outcome}
    (prepared : Prepared behaviour item before result after)
    (sound : before.table.Sound) :
    before.Climbs after := by
  cases prepared with
  | cramped relieved => exact relieved.climbs
  | sought relieved sought => exact relieved.climbs_trans sound sought.climbs sought.level

theorem PreparedUntil.climbs
    (prepared : PreparedUntil behaviour item before after)
    (sound : before.table.Sound) :
    before.Climbs after := by
  cases prepared with
  | relieving searched => exact Or.inl searched.level
  | seeking relieved sought => exact relieved.climbs_trans sound sought.climbs sought.level

/-- A slot is occupied at the capacity that the table has. -/
theorem level_occupied (session : Session σ α) (index : Nat) (copy : α) (thread : Thread σ) :
    session.Ascends 0 { session with table := session.table.occupied index copy, thread } where
  settings := rfl
  climbs := congrArg some Array.size_setIfInBounds.symm
  told := ⟨[], rfl, rfl⟩
  tombstones := by
    change ite _ _ _ ≤ _
    split <;> omega

/-- Once an insertion has prepared itself, it keeps the capacity.  A failure to
prepare itself is its answer. -/
theorem Inserted.exists_prepared
    {result : Except Failure (Loan α)}
    (inserted : Inserted behaviour item before result after) :
    ∃ outcome ready, Prepared behaviour item before outcome ready ∧ ready.Ascends 0 after ∧
      ∀ failure, outcome = .error failure → result = .error failure := by
  cases inserted with
  | failed prepared => exact ⟨_, _, prepared, .refl _, by simp⟩
  | full prepared => exact ⟨_, _, prepared, Session.level_flagged _ _, by simp⟩
  | present prepared => exact ⟨_, _, prepared, .refl _, by simp⟩
  | @uncopied index ready thread prepared refused =>
      have asked := ready.level_thread thread
      exact ⟨_, _, prepared, asked.trans (Session.level_flagged _ _), by simp⟩
  | @stored index copy ready thread prepared duplicated =>
      have occupied := level_occupied ready index copy thread
      exact ⟨_, _, prepared, occupied.trans (Session.level_traced _ rfl), by simp⟩

theorem InsertedUntil.prepared
    (inserted : InsertedUntil behaviour item before after) :
    PreparedUntil behaviour item before after ∨
      ∃ outcome ready, Prepared behaviour item before outcome ready ∧
        ready.Ascends 0 after := by
  cases inserted with
  | preparing prepared => exact Or.inl prepared
  | duplicating prepared => exact Or.inr ⟨_, _, prepared, Session.level_thread _ _⟩

/-- However an insertion ends, the table has climbed at most once. -/
theorem Inserted.climbs
    {result : Except Failure (Loan α)}
    (inserted : Inserted behaviour item before result after)
    (sound : before.table.Sound) :
    before.Climbs after := by
  obtain ⟨outcome, ready, prepared, level, _⟩ := inserted.exists_prepared
  exact (prepared.climbs sound).level level

theorem InsertedUntil.climbs
    (inserted : InsertedUntil behaviour item before after)
    (sound : before.table.Sound) :
    before.Climbs after := by
  rcases inserted.prepared with prepared | ⟨outcome, ready, prepared, level⟩
  · exact prepared.climbs sound
  · exact (prepared.climbs sound).level level

theorem climbs_of_passes_insert
    (sound : before.table.Sound)
    (run : Passes (insert behaviour item) before after) :
    before.Climbs after := by
  have joins : before.Ascends 0 before.joined := Session.level_thread before _
  have sound' : before.joined.table.Sound := sound
  rcases inserted_of_passes sound run with rfl | ⟨done, isDone, ended⟩
  · exact Or.inl (.refl _)
  · have climbs : before.Climbs done := by
      apply joins.climbs_trans
      rcases ended with ⟨_, inserted⟩ | inserted
      · exact inserted.climbs sound'
      · exact inserted.climbs sound'
    rcases isDone with rfl | rfl
    · exact climbs
    · exact climbs.level (Session.level_thread done _)

/-! ## After a relief -/

/-- The capacity of a table has increased, or it is the same and the tombstones are
gone, of which there was one at least. -/
def Renewed (before after : Table α) : Prop :=
  before.capacity < after.capacity ∨
    after.capacity = before.capacity ∧ 0 < before.tombstones ∧ after.tombstones = 0

/-- A reorganization that succeeds without being forced renews the table. -/
theorem Reorganized.renewed
    (reorganized : Reorganized behaviour false before (.ok ()) after) :
    before.table.Renewed after.table := by
  cases reorganized with
  | @committed capacity host target tally thread provided refills whole consults =>
      have aimed := (provision_eq_ok (congrArg Prod.fst provided)).1
      obtain rfl := refills.size
      rcases target?_cases aimed with ⟨reclaims, same⟩ | ⟨_, next, _⟩
      · have dropped : before.table.items.length / 4 < before.table.tombstones := by
          simpa [Table.reclaims] using reclaims
        exact Or.inr ⟨same, by omega, rfl⟩
      · exact Or.inl (Ladder.lt_of_next? next)

/-- A relief of a crowded table renews it. -/
theorem Relieved.renewed
    (relieved : Relieved behaviour before (.ok ()) after)
    (crowded : before.table.isCrowded = true) :
    before.table.Renewed after.table := by
  cases relieved with
  | calm roomy =>
      rw [roomy] at crowded
      cases crowded
  | crowded _ madeRoom =>
      cases madeRoom with
      | made reorganized => exact reorganized.renewed

/-- A renewed table remains so when it climbs. -/
theorem Renewed.climbs
    {table : Table α}
    (renewed : table.Renewed mid.table)
    (climbs : mid.Climbs after) :
    table.Renewed after.table := by
  rcases climbs with level | ⟨climbed, _⟩
  · unfold Renewed at renewed ⊢
    have fewer := level.tombstones
    rw [level.capacity_eq]
    omega
  · have larger := climbed.lt
    unfold Renewed at renewed ⊢
    omega

/-- After a relief, an insertion goes on like one into a table that has room. -/
theorem insert_leads_of_relieved
    (sound : before.table.Sound)
    (free : before.table.identity ∉ before.thread.roster)
    (run : relieve behaviour before.joined = .ok (.ok ()) mid)
    (item : ι) :
    Leads (insert behaviour item) before
      (fun result after => ∃ done, Inserted behaviour item mid result done ∧
        after = if result.isOk then done else done.leave)
      (fun _ after => ∃ done, InsertedUntil behaviour item mid done ∧ after = done.leave) := by
  have sound' : before.joined.table.Sound := sound
  have relieved : Relieved behaviour before.joined (.ok ()) mid :=
    (relieve_leads sound').of_ok run
  have sound'' := relieved.preserves.sound sound'
  have calm : Relieved behaviour mid (.ok ()) mid := .calm (relieved.isCrowded sound')
  rw [insert_eq, Action.leads_entered _ _ free, leads_bind, prepare, leads_bind,
    leads_of_run run]
  refine (seek_leads sound'' item).mono ?_ ?_
  · intro result ready sought
    refine (complete_leads sound'' (.sought calm sought)).mono ?_ ?_
    · intro result after inserted
      exact ⟨after, inserted, rfl⟩
    · rintro abort after ⟨_, inserted⟩
      exact ⟨after, inserted, rfl⟩
  · rintro abort after ⟨_, sought⟩
    exact ⟨after, .preparing (.seeking calm sought), rfl⟩

/-- However an insertion ends after a relief, the table has climbed at most once
since. -/
theorem climbs_of_relieved
    (sound : before.table.Sound)
    (free : before.table.identity ∉ before.thread.roster)
    (relieves : relieve behaviour before.joined = .ok (.ok ()) mid)
    (run : Passes (insert behaviour item) before after) :
    mid.Climbs after := by
  have sound' : before.joined.table.Sound := sound
  have relieved : Relieved behaviour before.joined (.ok ()) mid :=
    (relieve_leads sound').of_ok relieves
  have sound'' := relieved.preserves.sound sound'
  have leads : Leads (insert behaviour item) before _ _ :=
    insert_leads_of_relieved sound free relieves item
  rcases run with ⟨result, run⟩ | ⟨abort, run⟩
  · obtain ⟨done, inserted, isDone⟩ := leads.of_ok run
    have climbs := inserted.climbs sound''
    rw [isDone]
    split
    · exact climbs
    · exact climbs.level (Session.level_thread done _)
  · obtain ⟨done, inserted, rfl⟩ := leads.of_error run
    exact (inserted.climbs sound'').level (Session.level_thread done _)

end Table

/-! ## Reachable tables -/

/-- A request keeps the settings and the capacity, or it makes the table climb. -/
theorem Request.frame_or_climbs_of_passes
    {request : Request σ ι α β}
    (sound : before.table.Sound)
    (run : Passes (request.perform behaviour) before after) :
    after.table.frame = before.table.frame ∨ before.Climbs after := by
  cases request with
  | insert item =>
      right
      have joins : before.Ascends 0 before.joined := Session.level_thread before _
      have sound' : before.joined.table.Sound := sound
      obtain rfl | ⟨done, rfl, ended⟩ := performed_of_passes sound run
      · exact Or.inl (.refl _)
      · have climbs : before.joined.Climbs done := by
          rcases ended with ⟨_, performed⟩ | performed
          · cases performed with
            | insert inserted => exact inserted.climbs sound'
          · cases performed with
            | insert inserted => exact inserted.climbs sound'
        exact (joins.climbs_trans climbs).level (Session.level_thread done _)
  | _ => exact Or.inl (frame_of_passes sound run (by simp))

theorem Request.settings_of_passes
    {request : Request σ ι α β}
    (sound : before.table.Sound)
    (run : Passes (request.perform behaviour) before after) :
    after.table.settings = before.table.settings := by
  rcases frame_or_climbs_of_passes sound run with frame | level | ⟨climbed, _⟩
  · exact congrArg Prod.fst frame
  · exact level.settings
  · exact climbed.settings

namespace Table

/-- The table stands where its settings let it begin, or on a rung to which it
climbed from there. -/
def OnLadder (table : Table α) : Prop :=
  ∃ times, Ladder.climb? table.settings.maxCapacity times table.settings.initialCapacity =
    some table.capacity

theorem OnLadder.ascends
    {times : Nat}
    (onLadder : before.table.OnLadder)
    (ascends : before.Ascends times after) :
    after.table.OnLadder := by
  obtain ⟨begun, climbs⟩ := onLadder
  refine ⟨begun + times, ?_⟩
  rw [ascends.settings, Ladder.climb?_add, climbs, Option.bind_some]
  exact ascends.climbs

theorem OnLadder.congr
    {table other : Table α}
    (onLadder : table.OnLadder)
    (same : other.frame = table.frame) :
    other.OnLadder := by
  have settings : other.settings = table.settings := congrArg Prod.fst same
  have capacity : other.capacity = table.capacity := congrArg Prod.snd same
  unfold OnLadder
  rw [settings, capacity]
  exact onLadder

end Table

/-- Every reachable table is on the ladder. -/
theorem Behaviour.Reachable.onLadder
    {table : Table α}
    (reachable : behaviour.Reachable table) :
    table.OnLadder := by
  induction reachable with
  | created settings identity host created =>
      obtain ⟨_, rfl⟩ := Table.sound_of_create created
      exact ⟨0, congrArg some (Slot.size_row α settings.initialCapacity).symm⟩
  | @performed table _ request thread journal after reachable run onLadder =>
      have sound : (⟨table, thread, journal⟩ : Session σ α).table.Sound :=
        reachable.intact.sound
      rcases request.frame_or_climbs_of_passes sound run with frame | level | ⟨climbed, _⟩
      · exact onLadder.congr frame
      · exact Table.OnLadder.ascends onLadder level
      · exact Table.OnLadder.ascends onLadder climbed

/-- The capacity of a reachable table is the initial one or a rung, and no larger
than the settings allow.  Only insertions change it.  However one insertion ends,
it has changed the capacity at most once, and then to the next rung, as the
journal tells.  An insertion that meets a crowded table and can relieve it leaves
the table with a larger capacity or without tombstones, of which there was one at
least. -/
theorem capacity_climbs_once
    {table : Table α}
    (reachable : behaviour.Reachable table) :
    (table.capacity = table.settings.initialCapacity ∨ table.capacity ∈ Ladder.rungs) ∧
    table.capacity ≤ max table.settings.initialCapacity table.settings.maxCapacity ∧
    (∀ {β : Type} (request : Request σ ι α β) (thread : Thread σ) (journal : List Event)
      (after : Session σ α),
      Passes (request.perform behaviour) ⟨table, thread, journal⟩ after →
        after.table.settings = table.settings ∧
        ((∀ item, request ≠ .insert item) → after.table.capacity = table.capacity)) ∧
    (∀ (item : ι) (thread : Thread σ) (journal : List Event) (after : Session σ α),
      Passes (Table.insert behaviour item) ⟨table, thread, journal⟩ after →
        ∃ events, after.journal = events ++ journal ∧
          (after.table.capacity = table.capacity ∧ events.countP Event.resizes = 0 ∨
            Ladder.next? table.capacity = some after.table.capacity ∧
              after.table.capacity ≤ table.settings.maxCapacity ∧
              events.countP Event.resizes = 1)) ∧
    ∀ (item : ι) (thread : Thread σ) (journal : List Event) (mid : Session σ α),
      Ladder.threshold table.capacity ≤ table.entries →
      table.identity ∉ thread.roster →
      Table.relieve behaviour (Session.joined ⟨table, thread, journal⟩) =
        .ok (.ok ()) mid →
      table.Renewed mid.table ∧
        ∀ after, Passes (Table.insert behaviour item) ⟨table, thread, journal⟩ after →
          table.Renewed after.table := by
  have sound := reachable.intact.sound
  obtain ⟨times, climbs⟩ := reachable.onLadder
  have stands := Ladder.climb?_eq_some climbs
  refine ⟨stands.imp_right And.left, ?_, ?_, ?_, ?_⟩
  · rcases stands with initial | ⟨_, bounded⟩
    · exact initial.le.trans (Nat.le_max_left _ _)
    · exact bounded.trans (Nat.le_max_right _ _)
  · intro _ request thread journal after run
    refine ⟨Request.settings_of_passes sound run, fun other => ?_⟩
    exact congrArg Prod.snd (Request.frame_of_passes sound run other)
  · intro item thread journal after run
    rcases Table.climbs_of_passes_insert sound run with level | ⟨climbed, _⟩
    · obtain ⟨events, told, count⟩ := level.told
      exact ⟨events, told, Or.inl ⟨level.capacity_eq, count⟩⟩
    · obtain ⟨events, told, count⟩ := climbed.told
      obtain ⟨next, bounded⟩ := Ladder.nextWithin?_eq_some climbed.next
      exact ⟨events, told, Or.inr ⟨next, bounded, count⟩⟩
  · intro item thread journal mid loaded free relieves
    have crowded : table.isCrowded = true := decide_eq_true loaded
    have sound' : (Session.joined ⟨table, thread, journal⟩).table.Sound := sound
    have relieved : Table.Relieved behaviour (Session.joined ⟨table, thread, journal⟩)
        (.ok ()) mid := (Table.relieve_leads sound').of_ok relieves
    have renewed : table.Renewed mid.table := relieved.renewed crowded
    refine ⟨renewed, fun after run => ?_⟩
    exact renewed.climbs (Table.climbs_of_relieved sound free relieves run)

/-- An insertion into sixteen slots makes room twice: it drops the tombstones, and
then has to grow, since every other slot is taken and the item comes by no other. -/
theorem capacity_of_numbers_climbs_once :
    ∃ (table : Table Nat) (loan : Loan Nat) (after : Session Unit Nat),
      (Laws.numbers 16).faithful.Reachable table ∧
      table.capacity = 16 ∧ Ladder.threshold table.capacity ≤ table.entries ∧
      Table.insert (Laws.numbers 16).faithful 30 ⟨table, { host := () }, []⟩ =
        .ok (.ok loan) after ∧
      after.journal = [.reorganized 16 251 8 false, .reorganized 16 16 8 true] ∧
      Ladder.next? 16 = some after.table.capacity ∧
      table.Renewed after.table := by
  have created : (Laws.numbers 16).faithful.Reachable
      { identity := 0, settings := { initialCapacity := 16 }, slots := Slot.row Nat 16 } :=
    .created { initialCapacity := 16 } 0 () rfl
  obtain ⟨answers, middle, run, tested⟩ := exists_of_meets (show meets
    (fun _ middle => middle.table.capacity == 16 && (middle.table.isCrowded &&
      (meets (fun result _ => result.isOk)
        (Table.relieve (Laws.numbers 16).faithful
          (Session.joined ⟨middle.table, { host := () }, []⟩)) &&
      meets
        (fun result after => result.isOk && after.journal ==
          [.reorganized 16 251 8 false, .reorganized 16 16 8 true])
        (Table.insert (Laws.numbers 16).faithful 30 ⟨middle.table, { host := () }, []⟩))))
    (Request.performAll (Laws.numbers 16).faithful
      ([.insert 0, .insert 2, .insert 4, .insert 6, .insert 8, .insert 10, .insert 12,
        .insert 14, .insert 1, .insert 3, .insert 5, .insert 7, .insert 9, .insert 11,
        .remove 1, .remove 3, .remove 5, .remove 7, .remove 9, .remove 11] :
          List (Request Unit Nat Nat Unit))
      ⟨{ identity := 0, settings := { initialCapacity := 16 }, slots := Slot.row Nat 16 },
        { host := () }, []⟩) = true by decide +kernel)
  simp only [Bool.and_eq_true, beq_iff_eq] at tested
  obtain ⟨capacity, crowded, relievable, insertable⟩ := tested
  have reachable := created.performAll (Or.inl ⟨answers, run⟩)
  obtain ⟨_, _, _, climbs, renews⟩ := capacity_climbs_once reachable
  have loaded : Ladder.threshold middle.table.capacity ≤ middle.table.entries :=
    of_decide_eq_true crowded
  have free : middle.table.identity ∉ ({ host := () } : Thread Unit).roster :=
    List.not_mem_nil
  obtain ⟨result, after, inserts, succeeded⟩ := exists_of_meets insertable
  simp only [Bool.and_eq_true, beq_iff_eq] at succeeded
  obtain ⟨succeeded, journal⟩ := succeeded
  obtain ⟨relieved, mid, relieves, relievedOk⟩ := exists_of_meets relievable
  cases relieved with
  | error failure => cases relievedOk
  | ok _ =>
    cases result with
    | error failure => cases succeeded
    | ok loan =>
      have renewed := (renews 30 { host := () } [] mid loaded free relieves).2 after
        (Or.inl ⟨_, inserts⟩)
      obtain ⟨events, told, level | climbed⟩ := climbs 30 { host := () } [] after
        (Or.inl ⟨_, inserts⟩)
      · rw [journal, List.append_nil] at told
        rw [← told] at level
        cases level.2
      · rw [capacity] at climbed
        exact ⟨middle.table, loan, after, reachable, capacity, loaded, inserts, journal,
          climbed.1, renewed⟩

end OpenAddressing
