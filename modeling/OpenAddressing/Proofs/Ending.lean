import OpenAddressing.Table.Action

/-!
# Endings

A program that runs foreign code can end in two ways: it returns a value, or it
is cut short.  In both cases it leaves a state behind, and a caller may go on
from there.  A statement about a program therefore describes both endings at
once.  The statements compose along the binds of a program, so that each
function of a table is described once and then used by its description.
-/

namespace OpenAddressing

variable {ε τ β γ : Type}

/-- However a program ends when it starts in a state, it ends as described. -/
def Leads
    (program : EStateM ε τ β)
    (state : τ)
    (returned : β → τ → Prop)
    (aborted : ε → τ → Prop) : Prop :=
  match program state with
  | .ok value after => returned value after
  | .error abort after => aborted abort after

/-- A program may return a value. -/
def Returns (program : EStateM ε τ β) (value : β) : Prop :=
  ∃ before after, program before = .ok value after

/-- A program may be cut short by an abort. -/
def CutBy (program : EStateM ε τ β) (abort : ε) : Prop :=
  ∃ before after, program before = .error abort after

/-- A run of a program, however it ends, takes one state to another. -/
def Passes (program : EStateM ε τ β) (before after : τ) : Prop :=
  (∃ value, program before = .ok value after) ∨
    ∃ abort, program before = .error abort after

/-- The state that a run ends in, whether it returns or is cut short. -/
def endState : EStateM.Result ε τ β → τ
  | .ok _ after => after
  | .error _ after => after

theorem passes_endState (program : EStateM ε τ β) (before : τ) :
    Passes program before (endState (program before)) := by
  unfold Passes
  cases program before with
  | ok value after => exact Or.inl ⟨value, rfl⟩
  | error abort after => exact Or.inr ⟨abort, rfl⟩

/-- A function of the value does not matter to the states of a run. -/
theorem Passes.of_map
    {program : EStateM ε τ γ} {function : γ → β} {before after : τ}
    (run : Passes (function <$> program) before after) :
    Passes program before after := by
  change Passes (EStateM.map function program) before after at run
  unfold Passes EStateM.map at run
  cases ends : program before with
  | ok value middle =>
      rw [ends] at run
      rcases run with ⟨_, run⟩ | ⟨_, run⟩ <;> cases run
      exact Or.inl ⟨value, ends⟩
  | error abort middle =>
      rw [ends] at run
      rcases run with ⟨_, run⟩ | ⟨_, run⟩ <;> cases run
      exact Or.inr ⟨abort, ends⟩

namespace Leads

variable {program : EStateM ε τ β} {state : τ}
variable {returned returned' : β → τ → Prop} {aborted aborted' : ε → τ → Prop}

theorem of_ok
    (leads : Leads program state returned aborted)
    {value : β} {after : τ}
    (run : program state = .ok value after) :
    returned value after := by
  unfold Leads at leads
  rwa [run] at leads

theorem of_error
    (leads : Leads program state returned aborted)
    {abort : ε} {after : τ}
    (run : program state = .error abort after) :
    aborted abort after := by
  unfold Leads at leads
  rwa [run] at leads

/-- What holds at both endings holds after every run. -/
theorem of_passes
    {holds : τ → Prop} {after : τ}
    (leads : Leads program state (fun _ after => holds after) (fun _ after => holds after))
    (run : Passes program state after) :
    holds after := by
  rcases run with ⟨value, run⟩ | ⟨abort, run⟩
  · exact leads.of_ok run
  · exact leads.of_error run

/-- A description may be weakened at both endings. -/
theorem mono
    (leads : Leads program state returned aborted)
    (onReturn : ∀ value after, returned value after → returned' value after)
    (onAbort : ∀ abort after, aborted abort after → aborted' abort after) :
    Leads program state returned' aborted' := by
  unfold Leads at leads ⊢
  cases run : program state with
  | ok value after =>
      rw [run] at leads
      exact onReturn value after leads
  | error abort after =>
      rw [run] at leads
      exact onAbort abort after leads

/-- Two descriptions of one run hold together. -/
theorem and
    (leads : Leads program state returned aborted)
    (leads' : Leads program state returned' aborted') :
    Leads program state
      (fun value after => returned value after ∧ returned' value after)
      (fun abort after => aborted abort after ∧ aborted' abort after) := by
  unfold Leads at leads leads' ⊢
  cases run : program state with
  | ok value after =>
      rw [run] at leads leads'
      exact ⟨leads, leads'⟩
  | error abort after =>
      rw [run] at leads leads'
      exact ⟨leads, leads'⟩

/-- A program that cannot be cut short returns. -/
theorem exists_ok
    (leads : Leads program state returned aborted)
    (never : ∀ abort after, ¬ aborted abort after) :
    ∃ value after, program state = .ok value after ∧ returned value after := by
  cases run : program state with
  | ok value after => exact ⟨value, after, rfl, leads.of_ok run⟩
  | error abort after => exact absurd (leads.of_error run) (never abort after)

end Leads

/-- However a program ends, a view of the state is as it was before. -/
def Keeps {ν : Type} (view : τ → ν) (program : EStateM ε τ β) : Prop :=
  ∀ before after, Passes program before after → view after = view before

namespace Keeps

variable {ν : Type} {view : τ → ν} {program : EStateM ε τ β} {before after : τ}

theorem of_ok
    (keeps : Keeps view program)
    {value : β}
    (run : program before = .ok value after) :
    view after = view before :=
  keeps before after (Or.inl ⟨value, run⟩)

theorem of_error
    (keeps : Keeps view program)
    {abort : ε}
    (run : program before = .error abort after) :
    view after = view before :=
  keeps before after (Or.inr ⟨abort, run⟩)

/-- A view is kept if it is the same at both endings. -/
theorem of_leads
    (leads : ∀ state, Leads program state (fun _ after => view after = view state)
      (fun _ after => view after = view state)) :
    Keeps view program :=
  fun before _ run => (leads before).of_passes run

theorem leads (keeps : Keeps view program) (state : τ) :
    Leads program state (fun _ after => view after = view state)
      (fun _ after => view after = view state) := by
  unfold Leads
  cases run : program state with
  | ok value after => exact keeps.of_ok run
  | error abort after => exact keeps.of_error run

theorem of_pure (view : τ → ν) (value : β) :
    Keeps view (pure value : EStateM ε τ β) := by
  rintro before after (⟨_, run⟩ | ⟨_, run⟩) <;> cases run
  rfl

/-- What both parts of a sequence keep, the sequence keeps. -/
theorem bind
    {first : EStateM ε τ γ} {next : γ → EStateM ε τ β}
    (keeps : Keeps view first)
    (keeps' : ∀ value, Keeps view (next value)) :
    Keeps view (first >>= next) := by
  intro before after run
  change Passes (EStateM.bind first next) before after at run
  unfold Passes EStateM.bind at run
  cases begun : first before with
  | ok value middle =>
      rw [begun] at run
      exact (keeps' value middle after run).trans (keeps.of_ok begun)
  | error abort middle =>
      rw [begun] at run
      rcases run with ⟨_, run⟩ | ⟨_, run⟩ <;> cases run
      exact keeps.of_error begun

/-- A function of the value does not matter to what is kept. -/
theorem map
    {program : EStateM ε τ γ}
    (keeps : Keeps view program)
    (function : γ → β) :
    Keeps view (function <$> program) :=
  fun before after run => keeps before after run.of_map

end Keeps

section Rules

variable {state : τ} {returned : β → τ → Prop} {aborted : ε → τ → Prop}

/-- Every run is described by itself. -/
theorem leads_self (program : EStateM ε τ β) (state : τ) :
    Leads program state
      (fun value after => program state = .ok value after)
      (fun abort after => program state = .error abort after) := by
  unfold Leads
  cases run : program state <;> simp

/-- A run that is known is described by what it returns. -/
theorem leads_of_run
    {program : EStateM ε τ β} {value : β} {after : τ}
    (run : program state = .ok value after) :
    Leads program state returned aborted ↔ returned value after := by
  unfold Leads
  rw [run]

@[simp] theorem leads_pure (value : β) :
    Leads (pure value : EStateM ε τ β) state returned aborted ↔ returned value state :=
  Iff.rfl

@[simp] theorem leads_throw (abort : ε) :
    Leads (throw abort : EStateM ε τ β) state returned aborted ↔ aborted abort state :=
  Iff.rfl

@[simp] theorem leads_get {returned : τ → τ → Prop} :
    Leads (get : EStateM ε τ τ) state returned aborted ↔ returned state state :=
  Iff.rfl

/-- A sequence ends as described if its second part does so from wherever the
first part returns. -/
@[simp] theorem leads_bind
    (first : EStateM ε τ γ)
    (next : γ → EStateM ε τ β) :
    Leads (first >>= next) state returned aborted ↔
      Leads first state
        (fun value after => Leads (next value) after returned aborted) aborted := by
  change Leads (EStateM.bind first next) state returned aborted ↔ _
  unfold Leads EStateM.bind
  cases first state <;> exact Iff.rfl

/-- The rest of a program does not matter beyond what its first part returns. -/
theorem bind_congr_of_leads
    {first : EStateM ε τ γ} {next next' : γ → EStateM ε τ β}
    (leads : Leads first state (fun value after => next value after = next' value after)
      fun _ _ => True) :
    (first >>= next) state = (first >>= next') state := by
  change EStateM.bind first next state = EStateM.bind first next' state
  unfold EStateM.bind
  cases run : first state with
  | ok value after => exact leads.of_ok run
  | error abort after => rfl

@[simp] theorem leads_map
    (program : EStateM ε τ γ)
    (function : γ → β) :
    Leads (function <$> program) state returned aborted ↔
      Leads program state (fun value after => returned (function value) after) aborted := by
  change Leads (EStateM.map function program) state returned aborted ↔ _
  unfold Leads EStateM.map
  cases program state <;> exact Iff.rfl

/-- A sum over a range of indices goes on as each of its steps does. -/
theorem leads_total
    {step : Nat → EStateM ε τ Nat} {holds : Nat → Nat → τ → Prop} {last : Nat}
    (each : ∀ index total before, index < last → holds index total before →
      Leads (step index) before (fun more after => holds (index + 1) (total + more) after)
        aborted)
    (steps index total : Nat)
    (within : index + steps ≤ last)
    (begun : holds index total state) :
    Leads
      ((List.range' index steps).foldlM (fun total index => do
        let more ← step index
        pure (total + more)) total)
      state (fun total after => holds (index + steps) total after) aborted := by
  induction steps generalizing index total state with
  | zero => exact begun
  | succ steps inductionHypothesis =>
      rw [List.range'_succ, List.foldlM_cons, leads_bind, leads_bind]
      refine (each index total state (by omega) begun).mono ?_ fun _ _ cut => cut
      intro more after goesOn
      rw [leads_pure, show index + (steps + 1) = index + 1 + steps by omega]
      exact inductionHypothesis (index + 1) (total + more) (by omega) goesOn

end Rules

/-! ## Tested runs -/

/-- A run returns, and what it returns passes a test. -/
def meets (test : β → τ → Bool) : EStateM.Result ε τ β → Bool
  | .ok value after => test value after
  | .error _ _ => false

theorem exists_of_meets
    {program : EStateM ε τ β} {state : τ} {test : β → τ → Bool}
    (met : meets test (program state) = true) :
    ∃ value after, program state = .ok value after ∧ test value after = true := by
  cases run : program state with
  | ok value after =>
      rw [run] at met
      exact ⟨value, after, rfl, met⟩
  | error abort after =>
      rw [run] at met
      cases met

/-- A run is cut short, and what it leaves behind passes a test. -/
def cuts (test : ε → τ → Bool) : EStateM.Result ε τ β → Bool
  | .ok _ _ => false
  | .error abort after => test abort after

theorem exists_of_cuts
    {program : EStateM ε τ β} {state : τ} {test : ε → τ → Bool}
    (cut : cuts test (program state) = true) :
    ∃ abort after, program state = .error abort after ∧ test abort after = true := by
  cases run : program state with
  | ok value after =>
      rw [run] at cut
      cases cut
  | error abort after =>
      rw [run] at cut
      exact ⟨abort, after, rfl, cut⟩

/-! ## The parts of an action -/

/-- The session after an event that is reported only if the settings ask for
single operations. -/
def Session.traced {σ α : Type} (session : Session σ α) (event : Event) : Session σ α :=
  if session.table.settings.debug then
    { session with journal := event :: session.journal }
  else
    session

@[simp] theorem Session.traced_table {σ α : Type} (session : Session σ α) (event : Event) :
    (session.traced event).table = session.table := by
  unfold traced
  split <;> rfl

@[simp] theorem Session.traced_thread {σ α : Type} (session : Session σ α) (event : Event) :
    (session.traced event).thread = session.thread := by
  unfold traced
  split <;> rfl

/-- The session after failure flags were raised. -/
def Session.flagged {σ α : Type} (session : Session σ α) (flags : Flags) : Session σ α :=
  { session with table := { session.table with flags := session.table.flags ∪ flags } }

@[simp] theorem Session.flagged_flags {σ α : Type} (session : Session σ α) (flags : Flags) :
    (session.flagged flags).table.flags = session.table.flags ∪ flags := rfl

/-- The session after the table has joined the roster. -/
def Session.joined {σ α : Type} (session : Session σ α) : Session σ α :=
  { session with
    thread := { session.thread with
      roster := session.thread.roster.join session.table.identity } }

theorem Session.enter?_eq_some
    {σ α : Type} {session : Session σ α}
    (free : session.table.identity ∉ session.thread.roster) :
    session.enter? = some session.joined := by
  simp [Session.enter?, Roster.enter?, free, Session.joined]

namespace Action

variable {σ α : Type} {session : Session σ α}
variable {returned : β → Session σ α → Prop} {aborted : Abort → Session σ α → Prop}

@[simp] theorem leads_inspect (view : Table α → β) :
    Leads (inspect view) session returned aborted ↔
      returned (view session.table) session :=
  Iff.rfl

@[simp] theorem leads_alter
    (change : Table α → Table α)
    {returned : Unit → Session σ α → Prop} :
    Leads (alter change) session returned aborted ↔
      returned () { session with table := change session.table } :=
  Iff.rfl

@[simp] theorem leads_report
    (event : Event)
    {returned : Unit → Session σ α → Prop} :
    Leads (report event) session returned aborted ↔
      returned () { session with journal := event :: session.journal } :=
  Iff.rfl

@[simp] theorem leads_flag
    (flags : Flags)
    {returned : Unit → Session σ α → Prop} :
    Leads (flag flags) session returned aborted ↔ returned () (session.flagged flags) :=
  Iff.rfl

@[simp] theorem leads_onHost (change : σ → β × σ) :
    Leads (onHost change) session returned aborted ↔
      returned (change session.thread.host).1 { session with
        thread := { session.thread with host := (change session.thread.host).2 } } :=
  Iff.rfl

@[simp] theorem leads_trace
    (event : Table α → Event)
    {returned : Unit → Session σ α → Prop} :
    Leads (trace event) session returned aborted ↔
      returned () (session.traced (event session.table)) := by
  unfold trace Session.traced
  simp only [leads_bind, leads_inspect, id]
  split <;> exact Iff.rfl

/-- Foreign code changes the thread alone. -/
@[simp] theorem leads_call (foreign : Call σ β) :
    Leads (call foreign) session returned aborted ↔
      Leads foreign session.thread
        (fun value thread => returned value { session with thread })
        (fun abort thread => aborted abort { session with thread }) := by
  obtain ⟨table, thread, journal⟩ := session
  unfold Leads call
  cases run : foreign thread <;> simp only [run]

/-- A search changes the tally and the thread alone. -/
@[simp] theorem leads_searching (search : Array (Slot α) → Probe.Counting (Thread σ) β) :
    Leads (searching search) session returned aborted ↔
      Leads (search session.table.slots) (session.table.tally, session.thread)
        (fun value after => returned value { session with
          table := { session.table with tally := after.1 }
          thread := after.2 })
        (fun abort after => aborted abort { session with
          table := { session.table with tally := after.1 }
          thread := after.2 }) := by
  obtain ⟨table, thread, journal⟩ := session
  unfold Leads searching
  cases run : search table.slots (table.tally, thread) <;> simp only [run]

/-- What is done while the table is on the roster begins when it has joined, and
ends when it has left. -/
theorem leads_entered
    (keeps : β → Bool)
    (action : Action σ α β)
    (free : session.table.identity ∉ session.thread.roster) :
    Leads (entered keeps action) session returned aborted ↔
      Leads action session.joined
        (fun value after => returned value (if keeps value then after else after.leave))
        (fun abort after => aborted abort after.leave) := by
  unfold Leads entered
  simp only [Session.enter?_eq_some free]
  cases action session.joined <;> exact Iff.rfl

/-- A table that is on the roster already is refused. -/
theorem leads_entered_of_mem
    (keeps : β → Bool)
    (action : Action σ α β)
    (busy : session.table.identity ∈ session.thread.roster) :
    Leads (entered keeps action) session returned aborted ↔ aborted .reentered session := by
  unfold Leads
  rw [entered_of_mem keeps action busy]

/-- What is done while the table is on the roster matters from there only. -/
theorem entered_congr
    {keeps : β → Bool} {action action' : Action σ α β}
    (same : action session.joined = action' session.joined) :
    entered keeps action session = entered keeps action' session := by
  by_cases busy : session.table.identity ∈ session.thread.roster
  · rw [entered_of_mem keeps action busy, entered_of_mem keeps action' busy]
  · unfold entered
    simp only [Session.enter?_eq_some busy, same]

end Action

end OpenAddressing
