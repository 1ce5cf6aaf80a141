import OpenAddressing.Proofs.Annotating.Histories
import OpenAddressing.Proofs.Upholding.Threads

/-!
# Reports of reorganizations

A diary beside the host has an entry for each attempt to reorganize the table that came
to an end: the table and the host before it, how it ended, and what was reported
meanwhile.  Apart from single operations, the journal of a table consists of what was
reported by these attempts.  An attempt that succeeds reports that, and one that fails
reports a warning, with one exception: if there is no memory to write down the moves,
the attempt fails without any report.
-/

namespace OpenAddressing

variable {σ ι α β : Type}

/-! ## Attempts -/

/-- An attempt to reorganize a table that came to an end. -/
structure Attempt (σ α : Type) where
  /-- The table before the attempt. -/
  table : Table α
  /-- The host before the attempt. -/
  host : σ
  /-- Whether growth was forced. -/
  grow : Bool
  /-- How the attempt ended. -/
  result : Except Failure Unit
  /-- What was reported meanwhile, the latest event first. -/
  events : List Event

namespace Event

/-- The event tells of a reorganization and not of a single operation. -/
def tellsOfAttempt (event : Event) : Bool :=
  event.level != .trace

/-- The event is a warning. -/
def isWarning (event : Event) : Bool :=
  event.level == .warning

/-- The failure that a warning tells of. -/
def failure? : Event → Option Failure
  | ladderExhausted _ => some .tableFull
  | allocationFailed _ => some .outOfMemory
  | rolledBack _ _ _ => some .interrupted
  | _ => none

end Event

namespace Attempt

/-- The attempt failed. -/
def failed (attempt : Attempt σ α) : Bool :=
  !attempt.result.isOk

/-- The attempt was refused because there was no memory to write down the moves. -/
def unlogged (behaviour : Behaviour σ ι α) (attempt : Attempt σ α) : Bool :=
  match (Table.provision behaviour attempt.table attempt.grow attempt.host).1 with
  | .error .unlogged => true
  | _ => false

/-- The attempt was reported by one event: that it succeeded, or a warning of the failure.
Only if there was no memory to write down the moves, nothing was reported. -/
def Reported (behaviour : Behaviour σ ι α) (attempt : Attempt σ α) : Prop :=
  match attempt.result with
  | .ok () => ∃ capacity reclaim, attempt.events =
      [.reorganized attempt.table.capacity capacity attempt.table.items.length reclaim]
  | .error failure =>
    if attempt.unlogged behaviour then
      failure = .outOfMemory ∧ attempt.events = []
    else
      ∃ event, attempt.events = [event] ∧ event.level = .warning ∧ event.failure? = some failure

namespace Reported

variable {behaviour : Behaviour σ ι α} {attempt : Attempt σ α}

/-- What an attempt reports does not tell of single operations. -/
theorem filter_events (reported : attempt.Reported behaviour) :
    attempt.events.filter Event.tellsOfAttempt = attempt.events := by
  unfold Reported at reported
  split at reported
  · obtain ⟨capacity, reclaim, isEvents⟩ := reported
    rw [isEvents]
    rfl
  · split at reported
    · rw [reported.2]
      rfl
    · obtain ⟨event, isEvents, warns, _⟩ := reported
      rw [isEvents]
      simp [Event.tellsOfAttempt, warns]

/-- An attempt reports a warning if it failed and could have been written down. -/
theorem countP_isWarning (reported : attempt.Reported behaviour) :
    attempt.events.countP Event.isWarning =
      if attempt.failed && !attempt.unlogged behaviour then 1 else 0 := by
  unfold Reported at reported
  split at reported
  · rename_i succeeded
    obtain ⟨capacity, reclaim, isEvents⟩ := reported
    rw [isEvents]
    simp [failed, succeeded, Except.isOk, Except.toBool, Event.isWarning, Event.level]
  · rename_i failure isFailure
    split at reported
    · rename_i unlogged
      rw [reported.2]
      simp [unlogged]
    · rename_i logged
      obtain ⟨event, isEvents, warns, _⟩ := reported
      rw [isEvents]
      simp [failed, isFailure, Except.isOk, Except.toBool, logged, Event.isWarning, warns]

end Reported

/-- The warnings of attempts are as many as the attempts that failed, apart from those
that could not be written down. -/
theorem countP_isWarning_flatMap
    {behaviour : Behaviour σ ι α} {attempts : List (Attempt σ α)}
    (reported : ∀ attempt ∈ attempts, attempt.Reported behaviour) :
    (attempts.flatMap events).countP Event.isWarning =
      attempts.countP fun attempt => attempt.failed && !attempt.unlogged behaviour := by
  induction attempts with
  | nil => rfl
  | cons attempt rest inductionHypothesis =>
      have first := (reported attempt List.mem_cons_self).countP_isWarning
      have others := inductionHypothesis fun other member =>
        reported other (List.mem_cons_of_mem _ member)
      rw [List.flatMap_cons, List.countP_append, first, others, List.countP_cons, Nat.add_comm]

end Attempt

/-! ## Diaries -/

/-- What is noted of a table beside its host. -/
structure Diary (σ α : Type) where
  /-- The attempts to reorganize it, the latest first. -/
  attempts : List (Attempt σ α) := []
  /-- How often a copy was asked for. -/
  duplications : Nat := 0

namespace Diary

/-- Enters an attempt. -/
def enter (diary : Diary σ α) (attempt : Attempt σ α) : Diary σ α :=
  { diary with attempts := attempt :: diary.attempts }

/-- Counts that a copy is asked for. -/
def ask (diary : Diary σ α) : Diary σ α :=
  { diary with duplications := diary.duplications + 1 }

end Diary

/-- The session with an attempt entered in the diary. -/
def Session.enter (session : Session (Annotated σ (Diary σ α)) α) (attempt : Attempt σ α) :
    Session (Annotated σ (Diary σ α)) α :=
  { session with thread := session.thread.plain.annotate (session.thread.notes.enter attempt) }

namespace Behaviour

variable (behaviour : Behaviour σ ι α)

/-- The behaviour with each copy counted that is asked for. -/
def diaried : Behaviour (Annotated σ (Diary σ α)) ι α :=
  { behaviour.annotated with
    duplicate := fun item => do
      Call.note fun diary => ((), diary.ask)
      (behaviour.duplicate item).annotated }

/-- The means of a behaviour with a diary of the attempts to reorganize the table. -/
def reporting : Table.Means (Annotated σ (Diary σ α)) ι α where
  behaviour := behaviour.diaried
  locate := Table.locate behaviour.diaried
  reorganize grow := fun before =>
    match Table.reorganize behaviour.diaried grow before with
    | .ok result after =>
      let events := after.journal.take (after.journal.length - before.journal.length)
      .ok result (after.enter ⟨before.table, before.thread.host.host, grow, result, events⟩)
    | .error abort after => .error abort after

/-- Without the diary, the behaviour is what it was. -/
theorem diaried_mirrored : behaviour.diaried.Mirrored Annotated.host id behaviour :=
  { behaviour.annotated_mirrored with
    duplicate := by
      intro item thread
      rw [Option.map_id]
      exact Call.mirrors_annotated (behaviour.duplicate item)
        (thread.plain.annotate thread.notes.ask) }

/-- The diary changes nothing but itself. -/
theorem reporting_notes : behaviour.reporting.Notes behaviour where
  behaviour := behaviour.diaried_mirrored
  locate := behaviour.diaried_mirrored.means.locate
  reorganize := by
    intro grow session
    have same := behaviour.diaried_mirrored.means.reorganize grow session
    change Table.reorganize behaviour grow _ = _ at same
    change Table.reorganize behaviour grow _ = _
    rw [same]
    unfold reporting means
    simp only
    cases Table.reorganize behaviour.diaried grow session <;> rfl

end Behaviour

/-! ## What an attempt reports -/

variable {behaviour : Behaviour σ ι α}
variable {begun before after : Session (Annotated σ (Diary σ α)) α}
variable {grow : Bool} {result : Except Failure Unit}

/-- The diary does not matter to whether a reorganization is refused. -/
theorem Table.provision_diaried
    (table : Table α)
    (grow : Bool)
    (host : Annotated σ (Diary σ α)) :
    (provision behaviour.diaried table grow host).1 =
      (provision behaviour table grow host.host).1 := by
  have same := congrArg Prod.fst
    (provision_map behaviour.diaried_mirrored table grow host)
  rw [Table.map_id] at same
  exact same.symm

/-- A reorganization that comes to an end is reported. -/
theorem Table.Reorganized.reported
    (reorganized : Reorganized behaviour.diaried grow before result after) :
    ∃ events, after.journal = events ++ before.journal ∧
      (Attempt.mk before.table before.thread.host.host grow result events).Reported
        behaviour := by
  cases reorganized with
  | refused refusal provided =>
      refine ⟨refusal.events, rfl, ?_⟩
      have provided' := congrArg Prod.fst provided
      rw [Table.provision_diaried] at provided'
      unfold Attempt.Reported Attempt.unlogged
      simp only [provided']
      cases refusal with
      | exhausted capacity => exact ⟨_, rfl, rfl, rfl⟩
      | unallocated capacity => exact ⟨_, rfl, rfl, rfl⟩
      | unlogged => exact ⟨rfl, rfl⟩
  | interrupted tally provided =>
      refine ⟨[_], rfl, ?_⟩
      have provided' := congrArg Prod.fst provided
      rw [Table.provision_diaried] at provided'
      unfold Attempt.Reported Attempt.unlogged
      simp only [provided']
      exact ⟨_, rfl, rfl, rfl⟩
  | committed => exact ⟨[_], rfl, _, _, rfl⟩

/-- What was reported since another session, apart from single operations, was reported
by the attempts made since. -/
structure Session.Chronicles
    (behaviour : Behaviour σ ι α)
    (begun session : Session (Annotated σ (Diary σ α)) α)
    (attempts : List (Attempt σ α))
    (events : List Event) : Prop where
  /-- These attempts were made. -/
  entered : session.thread.notes.attempts = attempts ++ begun.thread.notes.attempts
  /-- These events were reported. -/
  journaled : session.journal = events ++ begun.journal
  /-- Every attempt was reported. -/
  reported : ∀ attempt ∈ attempts, attempt.Reported behaviour
  /-- All other events tell of single operations. -/
  complete : events.filter Event.tellsOfAttempt = attempts.flatMap Attempt.events

/-- All reorganizations since another session were reported. -/
def Session.Reports
    (behaviour : Behaviour σ ι α)
    (begun session : Session (Annotated σ (Diary σ α)) α) : Prop :=
  ∃ attempts events, begun.Chronicles behaviour session attempts events

namespace Session.Chronicles

variable {attempts : List (Attempt σ α)} {events : List Event}

theorem begin (behaviour : Behaviour σ ι α) (session : Session (Annotated σ (Diary σ α)) α) :
    session.Chronicles behaviour session [] [] where
  entered := rfl
  journaled := rfl
  reported := by
    intro attempt member
    cases member
  complete := rfl

/-- Nothing but the journal and the attempts matters. -/
theorem congr
    (chronicles : begun.Chronicles behaviour before attempts events)
    (entered : after.thread.notes.attempts = before.thread.notes.attempts)
    (journaled : after.journal = before.journal) :
    begun.Chronicles behaviour after attempts events where
  entered := entered.trans chronicles.entered
  journaled := journaled.trans chronicles.journaled
  reported := chronicles.reported
  complete := chronicles.complete

/-- A report of a single operation is no report of an attempt. -/
theorem trace
    (chronicles : begun.Chronicles behaviour before attempts events)
    {event : Event}
    (single : event.level = .trace) :
    begun.Chronicles behaviour { before with journal := event :: before.journal } attempts
      (event :: events) where
  entered := chronicles.entered
  journaled := congrArg (List.cons event) chronicles.journaled
  reported := chronicles.reported
  complete := by
    have skipped : event.tellsOfAttempt = false := by
      simp [Event.tellsOfAttempt, single]
    rw [List.filter_cons_of_neg (by simp [skipped])]
    exact chronicles.complete

/-- An attempt is entered together with what it reported. -/
theorem enter
    (chronicles : begun.Chronicles behaviour before attempts events)
    {attempt : Attempt σ α}
    (reported : attempt.Reported behaviour)
    (entered : after.thread.notes.attempts = before.thread.notes.attempts)
    (journaled : after.journal = attempt.events ++ before.journal) :
    begun.Chronicles behaviour (after.enter attempt) (attempt :: attempts)
      (attempt.events ++ events) where
  entered := by
    change attempt :: after.thread.notes.attempts = _
    rw [entered, chronicles.entered]
    rfl
  journaled := by
    change after.journal = _
    rw [journaled, chronicles.journaled, List.append_assoc]
  reported := by
    intro other member
    rcases List.mem_cons.mp member with rfl | earlier
    · exact reported
    · exact chronicles.reported other earlier
  complete := by
    rw [List.filter_append, reported.filter_events, chronicles.complete, List.flatMap_cons]

/-- The warnings tell of the attempts that failed, apart from those that could not be
written down. -/
theorem countP_isWarning (chronicles : begun.Chronicles behaviour after attempts events) :
    events.countP Event.isWarning =
      attempts.countP fun attempt => attempt.failed && !attempt.unlogged behaviour := by
  have tells : ∀ event : Event, event.isWarning = true → event.tellsOfAttempt = true := by
    intro event warns
    cases event <;> first | rfl | cases warns
  rw [← Attempt.countP_isWarning_flatMap chronicles.reported, ← chronicles.complete,
    List.countP_filter]
  apply List.countP_congr
  intro event _
  rw [Bool.and_eq_true]
  exact ⟨fun warns => ⟨warns, tells event warns⟩, And.left⟩

/-- A warning tells of each attempt that failed, unless it could not be written down. -/
theorem exists_warning
    (chronicles : begun.Chronicles behaviour after attempts events)
    {attempt : Attempt σ α} {failure : Failure}
    (member : attempt ∈ attempts)
    (failed : attempt.result = .error failure)
    (logged : attempt.unlogged behaviour = false) :
    ∃ event ∈ events, event.level = .warning := by
  have reported := chronicles.reported attempt member
  unfold Attempt.Reported at reported
  rw [failed, logged] at reported
  obtain ⟨event, isEvents, warns, _⟩ := reported
  have among : event ∈ events.filter Event.tellsOfAttempt := by
    rw [chronicles.complete]
    refine List.mem_flatMap.mpr ⟨attempt, member, ?_⟩
    rw [isEvents]
    exact List.mem_singleton_self event
  exact ⟨event, List.mem_of_mem_filter among, warns⟩

end Session.Chronicles

/-! ## What the diary keeps -/

namespace Behaviour

/-- Foreign code makes no attempts, and asks for copies only where it makes them. -/
theorem diaried_upholds
    (behaviour : Behaviour σ ι α)
    (attempts : List (Attempt σ α))
    (least : Nat) :
    behaviour.diaried.Upholds fun thread =>
      thread.notes.attempts = attempts ∧ least ≤ thread.notes.duplications where
  calls := by
    have aloof : ∀ {β : Type} (foreign : Call σ β),
        OpenAddressing.Upholds (fun thread : Thread (Annotated σ (Diary σ α)) =>
          thread.notes.attempts = attempts ∧ least ≤ thread.notes.duplications)
          foreign.annotated := fun foreign =>
      .of_view (Call.keeps_notes_annotated foreign) fun _ _ same start => same ▸ start
    intro β foreign calls
    cases calls with
    | duplicate item =>
        refine .bind ?_ fun _ => aloof (behaviour.duplicate item)
        exact fun thread start => ⟨start.1, Nat.le_succ_of_le start.2⟩
    | _ => exact aloof _
  reserve _ _ start := start

/-- The means with a diary enter each reorganization that comes to an end. -/
theorem reporting_reorganize_leads
    (behaviour : Behaviour σ ι α)
    (grow : Bool)
    (before : Session (Annotated σ (Diary σ α)) α)
    {returned : Except Failure Unit → Session (Annotated σ (Diary σ α)) α → Prop}
    {aborted : Abort → Session (Annotated σ (Diary σ α)) α → Prop} :
    Leads (behaviour.reporting.reorganize grow) before returned aborted ↔
      Leads (Table.reorganize behaviour.diaried grow) before
        (fun result after => returned result (after.enter ⟨before.table,
          before.thread.host.host, grow, result,
          after.journal.take (after.journal.length - before.journal.length)⟩))
        aborted := by
  unfold Leads reporting
  simp only
  cases Table.reorganize behaviour.diaried grow before <;> exact Iff.rfl

/-- Foreign code reports nothing of attempts. -/
theorem upholds_reports
    {foreign : Call (Annotated σ (Diary σ α)) β}
    (calls : behaviour.diaried.Calls foreign) :
    foreign.Upholds (begun.Reports behaviour) := by
  rintro session thread ⟨attempts, events, chronicles⟩
  have kept := (behaviour.diaried_upholds thread.notes.attempts 0).calls calls thread
    ⟨rfl, Nat.zero_le _⟩
  refine kept.mono ?_ ?_
  · rintro value after ⟨same, _⟩
    exact ⟨attempts, events, chronicles.congr same rfl⟩
  · rintro abort after ⟨same, _⟩
    exact ⟨attempts, events, chronicles.congr same rfl⟩

/-- Whatever is done with a table by means with a diary, reorganizations are reported. -/
theorem reporting_upholds
    (behaviour : Behaviour σ ι α)
    (begun : Session (Annotated σ (Diary σ α)) α) :
    behaviour.reporting.Upholds
      (fun session => session.table.Sound ∧ begun.Reports behaviour session)
      (begun.Reports behaviour) where
  locate := by
    rintro purpose item before ⟨sound, attempts, events, chronicles⟩
    have entered := (behaviour.diaried_upholds before.thread.notes.attempts 0).locate purpose item
      before ⟨rfl, rfl, Nat.zero_le _⟩
    refine ((Table.locate_leads sound.small purpose item).and entered).mono ?_ ?_
    · rintro outcome after ⟨⟨searched, _⟩, _, same, _⟩
      exact ⟨searched.preserves.sound sound, attempts, events,
        chronicles.congr same searched.journal⟩
    · rintro abort after ⟨⟨_, searched⟩, _, same, _⟩
      exact ⟨searched.preserves.sound sound, attempts, events,
        chronicles.congr same searched.journal⟩
  reorganize := by
    rintro grow before ⟨sound, attempts, events, chronicles⟩
    have entered := (behaviour.diaried_upholds before.thread.notes.attempts 0).reorganize grow
      before ⟨rfl, rfl, Nat.zero_le _⟩
    rw [reporting_reorganize_leads]
    refine ((Table.reorganize_leads sound grow).and entered).mono ?_ ?_
    · rintro result after ⟨reorganized, _, same, _⟩
      obtain ⟨events', journaled, reported⟩ := reorganized.reported
      have taken : after.journal.take (after.journal.length - before.journal.length) =
          events' := by
        rw [journaled, List.length_append, Nat.add_sub_cancel, List.take_left]
      rw [taken]
      exact ⟨reorganized.preserves.sound sound, _, _,
        chronicles.enter reported same journaled⟩
    · rintro abort after ⟨⟨_, searched⟩, _, same, _⟩
      exact ⟨searched.preserves.sound sound, attempts, events,
        chronicles.congr same searched.journal⟩
  holds_of_ready _ ready := ready.2
  robust :=
    { alter := by
        rintro session table _ _ ⟨attempts, events, chronicles⟩
        exact ⟨attempts, events, chronicles.congr rfl rfl⟩
      report := by
        rintro session event single ⟨attempts, events, chronicles⟩
        exact ⟨attempts, event :: events, chronicles.trace single⟩ }
  duplicate item := upholds_reports (.duplicate item)
  release copy := upholds_reports (.release copy)
  heapBytes copy := upholds_reports (.heapBytes copy)

end Behaviour

/-- What was reported of attempts depends on the notes alone. -/
theorem Session.reports_onNotes
    (behaviour : Behaviour σ ι α)
    (begun : Session (Annotated σ (Diary σ α)) α) :
    Session.OnNotes (begun.Reports behaviour) := by
  rintro session thread same ⟨attempts, events, chronicles⟩
  exact ⟨attempts, events, chronicles.congr (congrArg Diary.attempts same) rfl⟩

/-- All reorganizations of a run are reported. -/
theorem Table.Means.History.reports
    (history : behaviour.reporting.History {} begun)
    (requests : List (Request σ ι α β)) :
    begun.Reports behaviour (behaviour.reporting.performEach requests begun) := by
  have kept : ∀ before, behaviour.reporting.History {} before → begun.Reports behaviour before →
      begun.Reports behaviour (behaviour.reporting.performEach requests before) := by
    induction requests with
    | nil => exact fun before _ reports => reports
    | cons request rest inductionHypothesis =>
        intro before history reports
        have run := passes_endState (behaviour.reporting.perform request.annotated) before
        have sound := (history.reachable behaviour.reporting_notes).intact.sound
        refine inductionHypothesis _ (history.performed request run) ?_
        exact (behaviour.reporting_upholds begun).of_passes
          (Session.reports_onNotes behaviour begun) sound reports run
  exact kept begun history ⟨[], [], .begin behaviour begun⟩

/-! ## Insertions that fail -/

namespace Session

/-- More attempts may have been made, and more copies may have been asked for. -/
def Proceeds (before after : Session (Annotated σ (Diary σ α)) α) : Prop :=
  before.thread.notes.duplications ≤ after.thread.notes.duplications ∧
    ∃ attempts, after.thread.notes.attempts = attempts ++ before.thread.notes.attempts

/-- More attempts were made, of which the latest one failed. -/
def Blames
    (before : Session (Annotated σ (Diary σ α)) α)
    (failure : Failure)
    (after : Session (Annotated σ (Diary σ α)) α) : Prop :=
  before.thread.notes.duplications ≤ after.thread.notes.duplications ∧
    ∃ attempt attempts, attempt.result = .error failure ∧
      after.thread.notes.attempts = attempt :: attempts ++ before.thread.notes.attempts

/-- If something fails, an attempt is to blame. -/
def Explains {γ : Type}
    (before : Session (Annotated σ (Diary σ α)) α)
    (result : Except Failure γ)
    (after : Session (Annotated σ (Diary σ α)) α) : Prop :=
  match result with
  | .ok _ => before.Proceeds after
  | .error failure => before.Blames failure after

namespace Proceeds

variable {middle : Session (Annotated σ (Diary σ α)) α}

theorem refl (session : Session (Annotated σ (Diary σ α)) α) : session.Proceeds session :=
  ⟨Nat.le_refl _, [], rfl⟩

theorem trans (first : before.Proceeds middle) (second : middle.Proceeds after) :
    before.Proceeds after := by
  obtain ⟨least, attempts, entered⟩ := first
  obtain ⟨least', attempts', entered'⟩ := second
  refine ⟨least.trans least', attempts' ++ attempts, ?_⟩
  rw [entered', entered, List.append_assoc]

theorem blames
    {failure : Failure}
    (first : before.Proceeds middle)
    (second : middle.Blames failure after) :
    before.Blames failure after := by
  obtain ⟨least, attempts, entered⟩ := first
  obtain ⟨least', attempt, attempts', failed, entered'⟩ := second
  refine ⟨least.trans least', attempt, attempts' ++ attempts, failed, ?_⟩
  rw [entered', entered, List.cons_append, List.cons_append, List.append_assoc]

end Proceeds
end Session

namespace Behaviour

variable (behaviour : Behaviour σ ι α)

/-- A search makes no attempts. -/
theorem reporting_locate_leads
    (purpose : Probe.Purpose)
    (item : ι)
    (before : Session (Annotated σ (Diary σ α)) α) :
    Leads (behaviour.reporting.locate purpose item) before
      (fun _ after => before.Proceeds after)
      (fun _ _ => True) := by
  have kept := (behaviour.diaried_upholds before.thread.notes.attempts
    before.thread.notes.duplications).locate purpose item before ⟨rfl, rfl, Nat.le_refl _⟩
  refine kept.mono ?_ fun _ _ _ => trivial
  rintro outcome after ⟨_, same, least⟩
  exact ⟨least, [], same⟩

/-- If no room can be made, the attempt to make it is to blame. -/
theorem reporting_makeRoom_leads
    (grow : Bool)
    (before : Session (Annotated σ (Diary σ α)) α) :
    Leads (behaviour.reporting.makeRoom grow) before
      (fun result after => before.Explains result after)
      (fun _ _ => True) := by
  have kept := (behaviour.diaried_upholds before.thread.notes.attempts
    before.thread.notes.duplications).reorganize grow before ⟨rfl, rfl, Nat.le_refl _⟩
  unfold Table.Means.makeRoom
  rw [leads_bind, reporting_reorganize_leads]
  refine kept.mono ?_ fun _ _ _ => trivial
  rintro result after ⟨_, same, least⟩
  have entered : ∀ attempt : Attempt σ α, (after.enter attempt).thread.notes.attempts =
      attempt :: before.thread.notes.attempts := fun attempt => congrArg (List.cons attempt) same
  cases result with
  | error failure =>
      simp only [leads_bind, Action.leads_flag, leads_pure]
      exact ⟨least, _, [], rfl, entered _⟩
  | ok _ => exact ⟨least, [_], entered _⟩

theorem reporting_relieve_leads (before : Session (Annotated σ (Diary σ α)) α) :
    Leads behaviour.reporting.relieve before
      (fun result after => before.Explains result after)
      (fun _ _ => True) := by
  unfold Table.Means.relieve
  rw [leads_bind, Action.leads_inspect]
  cases before.table.isCrowded with
  | true => exact behaviour.reporting_makeRoom_leads false before
  | false => exact Session.Proceeds.refl before

theorem reporting_seek_leads (item : ι) (before : Session (Annotated σ (Diary σ α)) α) :
    Leads (behaviour.reporting.seek item) before
      (fun result after => before.Explains result after)
      (fun _ _ => True) := by
  unfold Table.Means.seek
  rw [leads_bind]
  refine (behaviour.reporting_locate_leads .insert item before).mono ?_ fun _ _ _ => trivial
  rintro (index | index | _) middle searched
  · exact searched
  · exact searched
  · rw [leads_bind]
    refine (behaviour.reporting_makeRoom_leads true middle).mono ?_ fun _ _ _ => trivial
    rintro (failure | _) grown made
    · exact searched.blames made
    · rw [leads_map]
      refine (behaviour.reporting_locate_leads .insert item grown).mono ?_ fun _ _ _ => trivial
      intro outcome after again
      exact (searched.trans made).trans again

/-- If there is no memory for a copy, a copy was asked for. -/
theorem diaried_store_leads
    (item : ι)
    (index : Nat)
    (before : Session (Annotated σ (Diary σ α)) α) :
    Leads (Table.store behaviour.diaried item index) before
      (fun result after => ∀ failure, result = .error failure →
        before.thread.notes.duplications < after.thread.notes.duplications)
      (fun _ _ => True) := by
  unfold Table.store
  rw [leads_bind, Action.leads_call]
  have asked : Leads (behaviour.diaried.duplicate item) before.thread
      (fun _ after => before.thread.notes.duplications < after.notes.duplications)
      (fun _ _ => True) := by
    simp only [diaried, leads_bind, Call.leads_note, Call.leads_annotated]
    exact (leads_self _ _).mono (fun _ _ _ => Nat.lt_succ_self _) fun _ _ _ => trivial
  refine asked.mono ?_ fun _ _ _ => trivial
  rintro (_ | copy) thread more
  · simp only [leads_bind, Action.leads_flag, leads_pure]
    exact fun _ _ => more
  · simp only [leads_bind, leads_map]
    refine (leads_self _ _).mono ?_ fun _ _ _ => trivial
    intro _ stored _
    refine (leads_self _ _).mono ?_ fun _ _ _ => trivial
    rintro loan after _ failure ⟨⟩

/-- An insertion that fails for lack of memory has asked for a copy, or the latest attempt
to make room has failed so. -/
theorem reporting_insert_leads
    (item : ι)
    (before : Session (Annotated σ (Diary σ α)) α) :
    Leads (behaviour.reporting.insert item) before
      (fun result after => result = .error .outOfMemory →
        before.thread.notes.duplications < after.thread.notes.duplications ∨
          before.Blames .outOfMemory after)
      (fun _ _ => True) := by
  by_cases busy : before.table.identity ∈ before.thread.roster
  · exact (Action.leads_entered_of_mem _ _ busy).mpr trivial
  unfold Table.Means.insert
  rw [Action.leads_entered _ _ busy, leads_bind]
  refine (behaviour.reporting_relieve_leads before.joined).mono ?_ fun _ _ _ => trivial
  rintro (failure | _) relieved relief
  · rintro ⟨⟩
    exact Or.inr relief
  · rw [leads_bind]
    refine (behaviour.reporting_seek_leads item relieved).mono ?_ fun _ _ _ => trivial
    rintro (failure | index | index | _) sought search
    · rintro ⟨⟩
      exact Or.inr (Session.Proceeds.blames relief search)
    · rw [leads_map]
      refine (leads_self _ sought).mono ?_ fun _ _ _ => trivial
      rintro loan after _ ⟨⟩
    · refine (behaviour.diaried_store_leads item index sought).mono ?_ fun _ _ _ => trivial
      rintro result after more rfl
      exact Or.inl (Nat.lt_of_le_of_lt (Session.Proceeds.trans relief search).1 (more _ rfl))
    · simp only [leads_bind, Action.leads_flag, leads_pure]
      rintro ⟨⟩

/-- So does the request for it. -/
theorem reporting_perform_insert_leads
    (item : ι)
    (before : Session (Annotated σ (Diary σ α)) α) :
    Leads (behaviour.reporting.perform (.insert item : Request _ ι α β)) before
      (fun answer after => answer = .inserted (.error .outOfMemory) →
        before.thread.notes.duplications < after.thread.notes.duplications ∨
          before.Blames .outOfMemory after)
      (fun _ _ => True) := by
  simp only [Table.Means.perform, leads_bind]
  refine (behaviour.reporting_insert_leads item before).mono ?_ fun _ _ _ => trivial
  rintro (failure | loan) after explains
  · rintro ⟨⟩
    exact explains rfl
  · rw [leads_map]
    refine (leads_self _ after).mono ?_ fun _ _ _ => trivial
    rintro copy done _ ⟨⟩

end Behaviour

/-- A diary of the attempts to reorganize a table changes nothing else, and every
reachable table has a history with a diary.  In a run of requests, each of which may
return or be cut short, every attempt that came to an end was reported by one event:
that it succeeded, or a warning that it failed, whatever the reason; only where there
was no memory to write down the moves, nothing was reported.  All other events tell of
single operations, so the warnings of a run are as many as the attempts that failed for
other reasons.  An insertion that fails for lack of memory, and has not asked for a copy,
has reported a warning, unless its latest attempt could not be written down. -/
theorem reorganizations_are_reported (behaviour : Behaviour σ ι α) :
    (∀ {β : Type} (request : Request σ ι α β),
      Mirrors Session.plain id (behaviour.reporting.perform request.annotated)
        (request.perform behaviour)) ∧
    (∀ table, (∃ session, behaviour.reporting.History {} session ∧ session.table = table) ↔
      behaviour.Reachable table) ∧
    ∀ before, behaviour.reporting.History {} before →
      (∀ {β : Type} (requests : List (Request σ ι α β)), ∃ attempts events,
        let after := behaviour.reporting.performEach requests before
        after.thread.notes.attempts = attempts ++ before.thread.notes.attempts ∧
        after.journal = events ++ before.journal ∧
        (∀ attempt ∈ attempts, attempt.Reported behaviour) ∧
        events.filter Event.tellsOfAttempt = attempts.flatMap Attempt.events ∧
        events.countP Event.isWarning =
          attempts.countP fun attempt => attempt.failed && !attempt.unlogged behaviour) ∧
      ∀ {β : Type} (item : ι) (after : Session (Annotated σ (Diary σ α)) α),
        behaviour.reporting.perform (.insert item : Request _ ι α β) before =
          .ok (.inserted (.error .outOfMemory)) after →
        after.thread.notes.duplications = before.thread.notes.duplications →
          ∃ attempt attempts events,
            after.thread.notes.attempts = attempt :: attempts ++ before.thread.notes.attempts ∧
            after.journal = events ++ before.journal ∧
            attempt.result = .error .outOfMemory ∧
            (attempt.unlogged behaviour = false → ∃ event ∈ events, event.level = .warning) := by
  have notes := behaviour.reporting_notes
  refine ⟨notes.perform, fun table => Table.Means.History.exists_iff_reachable notes {}, ?_⟩
  intro before history
  refine ⟨?_, ?_⟩
  · intro β requests
    obtain ⟨attempts, events, chronicles⟩ := history.reports requests
    refine ⟨attempts, events, chronicles.entered, chronicles.journaled, chronicles.reported,
      chronicles.complete, ?_⟩
    exact chronicles.countP_isWarning
  · intro β item after run silent
    have sound := (history.reachable notes).intact.sound
    have passes : Passes (behaviour.reporting.perform
        (.insert item : Request σ ι α β).annotated) before after := Or.inl ⟨_, run⟩
    obtain ⟨attempts', events, chronicles⟩ := (behaviour.reporting_upholds before).of_passes
      (Session.reports_onNotes behaviour before) sound ⟨[], [], .begin behaviour before⟩ passes
    have explains := (behaviour.reporting_perform_insert_leads item before).of_ok run rfl
    rcases explains with asked | ⟨_, attempt, attempts, failed, entered⟩
    · exact absurd silent (Nat.ne_of_gt asked)
    · have same : attempts' = attempt :: attempts :=
        List.append_cancel_right (chronicles.entered.symm.trans entered)
      have member : attempt ∈ attempts' := by
        rw [same]
        exact List.mem_cons_self
      exact ⟨attempt, attempts, events, entered, chronicles.journaled, failed,
        chronicles.exists_warning member failed⟩

/-! ## Numbers with rationed memory -/

/-- Foreign code that keeps to the laws, with some arrays refused: the binary digits of
the host tell which, the lowest first. -/
def Laws.rationed (laws : Laws ι) : Behaviour Nat ι ι where
  key := id
  hash item := pure (laws.hash item)
  rehash item := pure (laws.rehash item)
  compare stored item := pure (if laws.equal stored item then .eq else .lt)
  duplicate item := pure (some item)
  release _ := pure ()
  heapBytes _ := pure 0
  slotBytes := 1
  slotBytes_pos := Nat.one_pos
  reserve _ digits := (digits % 2 == 0, digits / 2)

/-- Numbers, with some arrays refused. -/
def Behaviour.rationed : Behaviour Nat Nat Nat :=
  (Laws.numbers 16).rationed

/-- The failure of an insertion. -/
def Answer.failure? : Answer ι α β → Option Failure
  | inserted (.error failure) => some failure
  | _ => none

theorem Answer.eq_of_failure?
    {answer : Answer ι α β} {failure : Failure}
    (failed : answer.failure? = some failure) :
    answer = .inserted (.error failure) := by
  cases answer with
  | inserted result =>
      cases result with
      | error reason =>
          obtain rfl := Option.some.inj failed
          rfl
      | ok copy => cases failed
  | _ => cases failed

/-- The session of a table that is filled to its threshold, with the arrays to be refused
later on. -/
def Behaviour.rationedSession (digits : Nat) :
    Session (Annotated Nat (Diary Nat Nat)) Nat :=
  let filled := Behaviour.rationed.reporting.performEach
    (List.map .insert [0, 1, 2, 3, 4, 5, 6] : List (Request Nat Nat Nat Unit))
    ⟨{ identity := 0, settings := { initialCapacity := 8 }, slots := Slot.row Nat 8 },
      Thread.annotate { host := 0 } {}, []⟩
  ⟨filled.table, Thread.annotate { host := digits } filled.thread.notes, []⟩

theorem Behaviour.history_rationedSession (digits : Nat) :
    Behaviour.rationed.reporting.History {} (Behaviour.rationedSession digits) := by
  unfold rationedSession
  have created : Behaviour.rationed.reporting.History {}
      ⟨{ identity := 0, settings := { initialCapacity := 8 }, slots := Slot.row Nat 8 },
        Thread.annotate { host := 0 } {}, []⟩ :=
    .created { initialCapacity := 8 } 0 ⟨0, {}⟩ { host := 0 } [] rfl
  exact (created.performEach _).meanwhile { host := digits } []

/-- Of three insertions, the first one is refused a slot array, the second one a move log,
and the third one nothing.  One warning is reported. -/
theorem reorganizations_of_rationed_are_reported :
    ∃ attempts events,
      let after := Behaviour.rationed.reporting.performEach
        (List.map .insert [7, 7, 7] : List (Request Nat Nat Nat Unit))
        (Behaviour.rationedSession 5)
      after.thread.notes.attempts = attempts ∧ after.journal = events ∧
      attempts.map (Attempt.unlogged Behaviour.rationed) = [false, true, false] ∧
      attempts.map Attempt.failed = [false, true, true] ∧
      events = [.reorganized 8 251 7 false, .allocationFailed 251] ∧
      ∀ attempt ∈ attempts, attempt.Reported Behaviour.rationed := by
  have history := Behaviour.history_rationedSession 5
  obtain ⟨attempts, events, entered, journaled, reported, _, _⟩ :=
    ((reorganizations_are_reported Behaviour.rationed).2.2 _ history).1
      (List.map .insert [7, 7, 7] : List (Request Nat Nat Nat Unit))
  have fresh : (Behaviour.rationedSession 5).thread.notes.attempts = [] := rfl
  have quiet : (Behaviour.rationedSession 5).journal = [] := rfl
  rw [fresh, List.append_nil] at entered
  rw [quiet, List.append_nil] at journaled
  refine ⟨attempts, events, entered, journaled, ?_, ?_, ?_, reported⟩
  · rw [← entered]
    decide +kernel
  · rw [← entered]
    decide +kernel
  · rw [← journaled]
    decide +kernel

/-- Not every insertion that fails for lack of memory, and has not asked for a copy, has
reported a warning. -/
theorem not_forall_failed_attempt_warned :
    ¬ ∀ (behaviour : Behaviour Nat Nat Nat)
      (before after : Session (Annotated Nat (Diary Nat Nat)) Nat) (item : Nat),
      behaviour.reporting.History {} before →
        behaviour.reporting.perform (.insert item : Request _ Nat Nat Unit) before =
          .ok (.inserted (.error .outOfMemory)) after →
        after.thread.notes.duplications = before.thread.notes.duplications →
          ∃ events, after.journal = events ++ before.journal ∧
            ∃ event ∈ events, event.level = .warning := by
  intro warned
  have history := Behaviour.history_rationedSession 2
  have silent : (Behaviour.rationedSession 2).thread.notes.duplications = 7 := by
    decide +kernel
  obtain ⟨answer, after, run, tested⟩ := exists_of_meets (show meets
    (fun answer after => answer.failure? == some .outOfMemory && after.journal == [] &&
      after.thread.notes.duplications == 7)
    (Behaviour.rationed.reporting.perform (.insert 7 : Request _ Nat Nat Unit)
      (Behaviour.rationedSession 2)) = true by decide +kernel)
  simp only [Bool.and_eq_true, beq_iff_eq] at tested
  obtain ⟨⟨failed, quiet⟩, same⟩ := tested
  obtain rfl := Answer.eq_of_failure? failed
  obtain ⟨events, journaled, event, member, _⟩ := warned Behaviour.rationed _ after 7 history
    run (same.trans silent.symm)
  rw [quiet] at journaled
  rw [(List.append_eq_nil_iff.mp journaled.symm).1] at member
  cases member

end OpenAddressing
