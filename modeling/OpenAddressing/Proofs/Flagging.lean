import OpenAddressing.Proofs.Enduring
import OpenAddressing.Proofs.Framing

/-!
# What the flags tell

The flags of a table are the union of what failed insertions have added to them since
they were last cleared.  What an insertion adds depends on how it failed: one that is
denied a copy lacks memory and no more, and in all other cases the table counts as
full beside the failure that is reported.  A request that succeeds, that finds nothing,
or that is cut short leaves the flags alone.
-/

namespace OpenAddressing

open Probe (Outcome)

variable {σ ι α β : Type} {behaviour : Behaviour σ ι α}
variable {before mid after : Session σ α} {item : ι}

/-! ## Unions of flags -/

namespace Flags

theorem union_comm (first second : Flags) : first ∪ second = second ∪ first := by
  ext <;> exact Bool.or_comm _ _

/-- The union of a list of flags. -/
def unite (record : List Flags) : Flags :=
  record.foldr union none

end Flags

/-! ## Failed insertions -/

namespace Table

/-- Whether an insertion comes to ask for a copy and is denied it. -/
def deniesCopy (behaviour : Behaviour σ ι α) (item : ι) (before : Session σ α) : Bool :=
  match prepare behaviour item before.joined with
  | .ok (.ok (.vacant _)) ready =>
    match behaviour.duplicate item ready.thread with
    | .ok none _ => true
    | _ => false
  | _ => false

/-- What an insertion that fails adds to the flags. -/
def contribution
    (behaviour : Behaviour σ ι α)
    (item : ι)
    (before : Session σ α)
    (failure : Failure) : Flags :=
  if deniesCopy behaviour item before then
    Failure.outOfMemory.flags
  else
    failure.flags ∪ Failure.tableFull.flags

variable {result : Except Failure Outcome} {failure : Failure}

theorem deniesCopy_of_ne_vacant
    (run : prepare behaviour item before.joined = .ok result mid)
    (other : ∀ index, result ≠ .ok (.vacant index)) :
    deniesCopy behaviour item before = false := by
  unfold deniesCopy
  rw [run]
  split
  · rename_i vacant
    cases vacant
    exact absurd rfl (other _)
  · rfl

theorem deniesCopy_of_denied
    {index : Nat} {thread : Thread σ}
    (run : prepare behaviour item before.joined = .ok (.ok (.vacant index)) mid)
    (denied : behaviour.duplicate item mid.thread = .ok none thread) :
    deniesCopy behaviour item before = true := by
  unfold deniesCopy
  rw [run]
  simp only [denied]

/-- The second part of an insertion raises flags if it fails. -/
theorem complete_leads_flags
    (sound : before.table.Sound)
    (run : prepare behaviour item before.joined = .ok result mid) :
    Leads (complete behaviour item result) mid
      (fun answer after => after.table.flags = match answer with
        | .error failure => contribution behaviour item before failure ∪ before.table.flags
        | .ok _ => before.table.flags)
      (fun _ after => after.table.flags = before.table.flags) := by
  have sound' : before.joined.table.Sound := sound
  have prepared : Prepared behaviour item before.joined result mid :=
    (prepare_leads sound' item).of_ok run
  have flags : mid.table.flags = before.table.flags ∪ raisedFor result := prepared.flags
  rcases result with failure | index | index | _
  · have copied := deniesCopy_of_ne_vacant run (by simp)
    simp only [complete, leads_pure, contribution, copied]
    rw [flags, Flags.union_comm]
    rfl
  · obtain ⟨copy, stored⟩ := prepared.locates.stored_of_found
    simp only [complete, leads_map, leads_lend stored]
    exact flags.trans (Flags.union_none _)
  · obtain ⟨_, within, vacant⟩ := prepared.locates.free_of_vacant
    have same : mid.table.flags = before.table.flags := flags.trans (Flags.union_none _)
    simp only [complete, store]
    rw [leads_bind, Action.leads_call]
    refine (leads_self _ mid.thread).mono ?_ fun _ _ _ => same
    rintro (_ | copy) thread answered
    · have denied := deniesCopy_of_denied run answered
      simp only [leads_bind, Action.leads_flag, leads_pure, contribution, denied, if_true,
        Session.flagged_flags, same]
      exact Flags.union_comm _ _
    · have sound'' : Sound { mid with thread }.table := prepared.preserves.sound sound'
      rw [sound''.leads_keep within, Session.traced_table]
      exact same
  · have copied := deniesCopy_of_ne_vacant run (by simp)
    have same : mid.table.flags = before.table.flags := flags.trans (Flags.union_none _)
    simp only [complete, leads_bind, Action.leads_flag, leads_pure, contribution, copied,
      Session.flagged_flags, same]
    rw [Flags.union_comm]
    rfl

theorem insert_leads_flags (sound : before.table.Sound) (item : ι) :
    Leads (insert behaviour item) before
      (fun result after => after.table.flags = match result with
        | .error failure => contribution behaviour item before failure ∪ before.table.flags
        | .ok _ => before.table.flags)
      (fun _ after => after.table.flags = before.table.flags) := by
  by_cases busy : before.table.identity ∈ before.thread.roster
  · unfold insert
    exact (Action.leads_entered_of_mem _ _ busy).mpr rfl
  · have sound' : before.joined.table.Sound := sound
    rw [insert_eq, Action.leads_entered _ _ busy, leads_bind]
    refine ((prepare_leads sound' item).and (leads_self _ _)).mono ?_ ?_
    · rintro result ready ⟨_, run⟩
      refine (complete_leads_flags sound run).mono ?_ fun _ _ same => same
      rintro (failure | loan) after flags <;> exact flags
    · rintro abort after ⟨⟨_, prepared⟩, _⟩
      exact prepared.flags

end Table

/-! ## Records of failures -/

namespace Request

/-- The record of what failed insertions have added to the flags, the latest first,
after a request is answered.  A request to clear the flags empties it. -/
def noted
    (behaviour : Behaviour σ ι α)
    (before : Session σ α)
    (record : List Flags) : Request σ ι α β → Answer ι α β → List Flags
  | .insert item, .inserted (.error failure) =>
    Table.contribution behaviour item before failure :: record
  | .insert _, .inserted (.ok _) => record
  | .clearFlags, _ => []
  | _, _ => record

/-- A request that is no insertion keeps the flags or clears them. -/
theorem Performed.flags
    {request : Request σ ι α β} {answer : Answer ι α β}
    (performed : Performed behaviour before request answer after)
    (other : ∀ item, request ≠ .insert item) :
    request = .clearFlags ∧ after.table.flags = .none ∨
      request ≠ .clearFlags ∧ after.table.flags = before.table.flags := by
  by_cases clears : request = .clearFlags
  · subst clears
    cases performed
    exact Or.inl ⟨rfl, rfl⟩
  · have same := performed.view_eq Table.flags_lasting other fun clears' =>
      absurd clears' clears
    exact Or.inr ⟨clears, same⟩

/-- An answer that reports no failure of an insertion adds nothing to the record. -/
theorem noted_eq
    {request : Request σ ι α β} {answer : Answer ι α β}
    (noFailure : ∀ item failure, request = .insert item →
      answer ≠ .inserted (.error failure))
    (keeps : request ≠ .clearFlags)
    (record : List Flags) :
    noted behaviour before record request answer = record := by
  unfold noted
  split
  · exact absurd rfl (noFailure _ _ rfl)
  · rfl
  · exact absurd rfl keeps
  · rfl

/-- The flags agree with the record after every answer, and an abort leaves them
alone. -/
theorem perform_leads_flags
    (sound : before.table.Sound)
    (request : Request σ ι α β) :
    Leads (request.perform behaviour) before
      (fun answer after => ∀ record, before.table.flags = Flags.unite record →
        after.table.flags = Flags.unite (noted behaviour before record request answer))
      (fun _ after => after.table.flags = before.table.flags) := by
  by_cases busy : before.table.identity ∈ before.thread.roster
  · unfold Leads
    rw [perform_of_mem busy request]
  by_cases inserts : ∃ item, request = .insert item
  · obtain ⟨item, rfl⟩ := inserts
    simp only [perform, leads_bind]
    refine (Table.insert_leads_flags sound item).mono ?_ fun _ _ same => same
    rintro (failure | loan) after flags
    · intro record told
      rw [flags, told]
      rfl
    · simp only [leads_map]
      intro record told
      exact flags.trans told
  · have other : ∀ item, request ≠ .insert item := fun item same => inserts ⟨item, same⟩
    refine (perform_leads sound busy request).mono ?_ ?_
    · rintro answer _ ⟨done, performed, rfl⟩ record told
      rcases performed.flags other with ⟨rfl, cleared⟩ | ⟨keeps, same⟩
      · exact cleared
      · rw [noted_eq (fun item _ inserts => absurd inserts (other item)) keeps]
        exact same.trans told
    · rintro abort _ ⟨_, done, performed, rfl⟩
      exact performed.view_eq Table.flags_lasting other

/-- An answer that reports no failure of an insertion leaves the flags alone, unless
they are cleared. -/
theorem flags_of_answer
    {request : Request σ ι α β} {answer : Answer ι α β}
    (sound : before.table.Sound)
    (run : request.perform behaviour before = .ok answer after)
    (noFailure : ∀ failure, answer ≠ .inserted (.error failure))
    (keeps : request ≠ .clearFlags) :
    after.table.flags = before.table.flags := by
  have told : before.table.flags = Flags.unite [before.table.flags] :=
    (Flags.union_none _).symm
  rw [(perform_leads_flags sound request).of_ok run _ told,
    noted_eq (fun _ failure _ => noFailure failure) keeps, ← told]

/-- The record after requests that are performed one after the other. -/
def notedEach (behaviour : Behaviour σ ι α) :
    List (Request σ ι α β) → Session σ α → List Flags → List Flags
  | [], _, record => record
  | request :: rest, session, record =>
    match request.perform behaviour session with
    | .ok answer after =>
      notedEach behaviour rest after (noted behaviour session record request answer)
    | .error _ after => notedEach behaviour rest after record

end Request

/-- The tables that can be reached, each with the record of what failed insertions have
added to its flags since they were last cleared. -/
inductive Behaviour.Chronicle (behaviour : Behaviour σ ι α) :
    Table α → List Flags → Prop
  | created (settings : Settings) (identity : Nat) (host : σ) {table : Table α}
      (created : (Table.create behaviour settings identity host).1 = .ok table) :
      Chronicle behaviour table []
  | returned {table : Table α} {record : List Flags} {β : Type} (request : Request σ ι α β)
      (thread : Thread σ) (journal : List Event) {answer : Answer ι α β}
      {after : Session σ α}
      (chronicle : Chronicle behaviour table record)
      (run : request.perform behaviour ⟨table, thread, journal⟩ = .ok answer after) :
      Chronicle behaviour after.table
        (request.noted behaviour ⟨table, thread, journal⟩ record answer)
  | aborted {table : Table α} {record : List Flags} {β : Type} (request : Request σ ι α β)
      (thread : Thread σ) (journal : List Event) {abort : Abort} {after : Session σ α}
      (chronicle : Chronicle behaviour table record)
      (run : request.perform behaviour ⟨table, thread, journal⟩ = .error abort after) :
      Chronicle behaviour after.table record

namespace Behaviour

variable {table : Table α} {record : List Flags}

theorem Chronicle.reachable (chronicle : behaviour.Chronicle table record) :
    behaviour.Reachable table := by
  induction chronicle with
  | created settings identity host created => exact .created settings identity host created
  | returned request thread journal _ run reachable =>
      exact .performed request thread journal reachable (Or.inl ⟨_, run⟩)
  | aborted request thread journal _ run reachable =>
      exact .performed request thread journal reachable (Or.inr ⟨_, run⟩)

/-- The record of a run of requests. -/
theorem Chronicle.performEach
    (chronicle : behaviour.Chronicle before.table record)
    (requests : List (Request σ ι α β)) :
    behaviour.Chronicle (Request.performEach behaviour requests before).2.table
      (Request.notedEach behaviour requests before record) := by
  induction requests generalizing before record with
  | nil => exact chronicle
  | cons request rest inductionHypothesis =>
      unfold Request.performEach Request.notedEach
      cases run : request.perform behaviour before with
      | ok answer after =>
          exact inductionHypothesis
            (chronicle.returned request before.thread before.journal run)
      | error abort after =>
          exact inductionHypothesis
            (chronicle.aborted request before.thread before.journal run)

/-- Every run can be recorded. -/
theorem Reachable.exists_chronicle (reachable : behaviour.Reachable table) :
    ∃ record, behaviour.Chronicle table record := by
  induction reachable with
  | created settings identity host created =>
      exact ⟨[], .created settings identity host created⟩
  | performed request thread journal _ run inductionHypothesis =>
      obtain ⟨record, chronicle⟩ := inductionHypothesis
      rcases run with ⟨answer, run⟩ | ⟨abort, run⟩
      · exact ⟨_, chronicle.returned request thread journal run⟩
      · exact ⟨_, chronicle.aborted request thread journal run⟩

/-- The flags are the union of the record. -/
theorem Chronicle.flags_eq (chronicle : behaviour.Chronicle table record) :
    table.flags = Flags.unite record := by
  induction chronicle with
  | created settings identity host created =>
      obtain ⟨_, rfl⟩ := Table.sound_of_create created
      rfl
  | @returned table record _ request thread journal answer after chronicle run told =>
      have sound : (⟨table, thread, journal⟩ : Session σ α).table.Sound :=
        chronicle.reachable.intact.sound
      exact (request.perform_leads_flags sound).of_ok run record told
  | @aborted table record _ request thread journal abort after chronicle run told =>
      have sound : (⟨table, thread, journal⟩ : Session σ α).table.Sound :=
        chronicle.reachable.intact.sound
      exact ((request.perform_leads_flags sound).of_error run).trans told

end Behaviour

variable {table : Table α} {record : List Flags}

/-- In every run the flags of a table are the union of what the failed insertions since
the last clearing have added: the flag for memory if a copy was denied, and otherwise
that of the failure together with that of a full table.  The counts tell this union,
clearing the flags answers with it and changes nothing else, and no other request
changes the flags unless it is an insertion that fails, whether it returns or is cut
short. -/
theorem flags_tell_failures (chronicle : behaviour.Chronicle table record) :
    table.flags = Flags.unite record ∧
    (∀ (thread : Thread σ) (journal : List Event), table.identity ∉ thread.roster →
      (∃ statistics, statistics.flags = Flags.unite record ∧
        Table.statistics ⟨table, thread, journal⟩ = .ok statistics ⟨table, thread, journal⟩) ∧
      Table.clearFlags ⟨table, thread, journal⟩ =
        .ok (Flags.unite record) ⟨{ table with flags := .none }, thread, journal⟩) ∧
    ∀ {β : Type} (request : Request σ ι α β) (thread : Thread σ) (journal : List Event),
      Leads (request.perform behaviour) ⟨table, thread, journal⟩
        (fun answer after => (∀ failure, answer ≠ .inserted (.error failure)) →
          request ≠ .clearFlags → after.table.flags = table.flags)
        (fun _ after => after.table.flags = table.flags) := by
  have told := chronicle.flags_eq
  have sound := chronicle.reachable.intact.sound
  refine ⟨told, fun thread journal free => ⟨?_, ?_⟩, fun request thread journal => ?_⟩
  · exact ⟨_, told, (Table.leads_statistics sound free).mp (leads_self _ _)⟩
  · rw [← told]
    exact (Table.leads_clearFlags free).mp (leads_self _ _)
  · have sound' : (⟨table, thread, journal⟩ : Session σ α).table.Sound := sound
    have leads : Leads (request.perform behaviour) ⟨table, thread, journal⟩ _ _ :=
      request.perform_leads_flags sound'
    refine (leads.and (leads_self _ _)).mono ?_ ?_
    · rintro answer after ⟨_, run⟩ noFailure keeps
      exact Request.flags_of_answer sound' run noFailure keeps
    · rintro abort after ⟨same, _⟩
      exact same

/-- A new table of eight slots that may not become more. -/
def Behaviour.cramped : Session Nat Nat where
  table := {
    identity := 0
    settings := { initialCapacity := 8, maxCapacity := 8 }
    slots := Slot.row Nat 8 }
  thread := { host := 1 }

/-- Twelve insertions into such a table.  Foreign code denies the copy of one number and
cuts two insertions short, and the last number finds the table full. -/
theorem flags_of_fickle_tell_failures :
    ∃ table : Table Nat,
      Behaviour.fickle.Chronicle table [Failure.tableFull.flags, Failure.outOfMemory.flags] ∧
      Table.clearFlags ⟨table, ({ host := 0 } : Thread Nat), []⟩ =
        .ok { outOfMemory := true, tableFull := true }
          ⟨{ table with flags := .none }, { host := 0 }, []⟩ := by
  have created : Behaviour.fickle.Chronicle Behaviour.cramped.table [] :=
    .created { initialCapacity := 8, maxCapacity := 8 } 0 1 rfl
  have chronicle := created.performEach ((List.range 12).map .insert : List (Request _ _ _ Unit))
  have noted : Request.notedEach Behaviour.fickle
      ((List.range 12).map .insert : List (Request Nat Nat Nat Unit)) Behaviour.cramped [] =
        [Failure.tableFull.flags, Failure.outOfMemory.flags] := by
    decide +kernel
  rw [noted] at chronicle
  have unlocked := (flags_tell_failures chronicle).2.1 { host := 0 } [] (by decide +kernel)
  exact ⟨_, chronicle, unlocked.2⟩

end OpenAddressing
