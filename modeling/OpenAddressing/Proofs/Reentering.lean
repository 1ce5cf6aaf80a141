import OpenAddressing.Proofs.Discretion
import OpenAddressing.Proofs.Enduring
import OpenAddressing.Proofs.Ledger
import OpenAddressing.Proofs.Upholding.Threads
import OpenAddressing.Text.Account

/-!
# Calls from within

Foreign code may call tables while a table is waiting for it, and so on to any depth.
A table that is on the roster refuses every call before anything is done.  It is there
while its own foreign code runs and while an item of it is on loan, and afterwards the
roster is what it was before.  So whatever foreign code does, and however it ends, a
table can be called again once it is done.
-/

namespace OpenAddressing

variable {σ ι α β γ : Type} {behaviour : Behaviour σ ι α}

/-! ## Tidy foreign code -/

/-- Foreign code leaves the roster as it found it. -/
def Tidy (foreign : Call σ β) : Prop :=
  Keeps Thread.roster foreign

/-- All foreign code of a behaviour is tidy. -/
def Behaviour.Tidy (behaviour : Behaviour σ ι α) : Prop :=
  ∀ {β : Type} {foreign : Call σ β}, behaviour.Calls foreign → OpenAddressing.Tidy foreign

/-- All foreign code that comes with a request is tidy. -/
def Request.Tidy (request : Request σ ι α β) : Prop :=
  ∀ {γ : Type} {foreign : Call σ γ}, request.Calls foreign → OpenAddressing.Tidy foreign

theorem Behaviour.Tidy.upholds (tidy : behaviour.Tidy) (roster : Roster) :
    behaviour.Upholds fun thread => thread.roster = roster where
  calls calls := .of_keeps (tidy calls) roster
  reserve _ _ same := same

namespace Session

variable {session before after : Session σ α} {roster : Roster}

theorem Parted.roster_eq
    (parted : after.Parted (Under before.table.identity
      fun thread => thread.roster = before.joined.thread.roster)) :
    after.thread.roster = before.thread.roster := by
  obtain ⟨done, ⟨same, roster⟩, rfl⟩ := parted
  unfold leave
  rw [same, roster]
  exact Roster.leave_join _ _

end Session

/-- A request with tidy foreign code leaves the roster as it was, whether it is refused,
returns or is cut short. -/
theorem Request.keeps_roster
    {request : Request σ ι α β}
    (tidy : behaviour.Tidy)
    (tidy' : request.Tidy) :
    Keeps (fun session : Session σ α => session.thread.roster) (request.perform behaviour) := by
  intro before after run
  by_cases busy : before.table.identity ∈ before.thread.roster
  · rw [Passes, perform_of_mem busy request] at run
    rcases run with ⟨_, run⟩ | ⟨_, run⟩ <;> cases run
    rfl
  · have leads := perform_leads_of_upholds (tidy.upholds before.joined.thread.roster)
      (fun calls => .of_keeps (tidy' calls) _) busy rfl
    exact (leads.of_passes run).roster_eq

/-! ## The roster at each call -/

/-- Runs foreign code and notes the roster that it is called with. -/
def Call.attended (foreign : Call σ β) : Call (Annotated σ (List Roster)) β := fun thread =>
  foreign.annotated (thread.plain.annotate (thread.roster :: thread.notes))

/-- The behaviour with a note of the roster at each call. -/
def Behaviour.attended (behaviour : Behaviour σ ι α) :
    Behaviour (Annotated σ (List Roster)) ι α where
  key := behaviour.key
  hash item := (behaviour.hash item).attended
  rehash item := (behaviour.rehash item).attended
  compare stored item := (behaviour.compare stored item).attended
  duplicate item := (behaviour.duplicate item).attended
  release copy := (behaviour.release copy).attended
  heapBytes copy := (behaviour.heapBytes copy).attended
  slotBytes := behaviour.slotBytes
  slotBytes_pos := behaviour.slotBytes_pos
  reserve bytes annotated :=
    ((behaviour.reserve bytes annotated.host).1,
      { annotated with host := (behaviour.reserve bytes annotated.host).2 })

/-- The request with a note of the roster at each call. -/
def Request.attended : Request σ ι α β → Request (Annotated σ (List Roster)) ι α β
  | insert item => .insert item
  | find item => .find item
  | findWith item use => .findWith item fun copy => (use copy).attended
  | contains item => .contains item
  | remove item => .remove item
  | retain keep => .retain fun copy => (keep copy).attended
  | walk visitor => .walk fun copy => (visitor copy).attended
  | length => .length
  | isEmpty => .isEmpty
  | slotCount => .slotCount
  | statistics => .statistics
  | clearFlags => .clearFlags
  | footprint => .footprint

/-- Without the notes, attended foreign code is what it was. -/
theorem Call.mirrors_attended (foreign : Call σ β) :
    Mirrors (Thread.map Annotated.host) id foreign.attended foreign := by
  intro thread
  exact Call.mirrors_annotated foreign (thread.plain.annotate (thread.roster :: thread.notes))

theorem Behaviour.attended_mirrored (behaviour : Behaviour σ ι α) :
    behaviour.attended.Mirrored Annotated.host id behaviour where
  key _ := rfl
  hash _ := Call.mirrors_attended _
  rehash _ := Call.mirrors_attended _
  compare _ _ := Call.mirrors_attended _
  duplicate item := by
    rw [Option.map_id]
    exact Call.mirrors_attended _
  release _ := Call.mirrors_attended _
  heapBytes _ := Call.mirrors_attended _
  slotBytes := rfl
  reserve _ _ := rfl

theorem Request.attended_mirrored (request : Request σ ι α β) :
    request.attended.Mirrored Annotated.host id request := by
  cases request with
  | insert item => exact .insert item
  | find item => exact .find item
  | findWith item use => exact .findWith item fun _ => Call.mirrors_attended _
  | contains item => exact .contains item
  | remove item => exact .remove item
  | retain keep => exact .retain fun _ => Call.mirrors_attended _
  | walk visitor => exact .walk fun _ => Call.mirrors_attended _
  | length => exact .length
  | isEmpty => exact .isEmpty
  | slotCount => exact .slotCount
  | statistics => exact .statistics
  | clearFlags => exact .clearFlags
  | footprint => exact .footprint

/-- The thread has a roster, and so had every foreign call. -/
def Thread.Attended (roster : Roster) (thread : Thread (Annotated σ (List Roster))) : Prop :=
  thread.roster = roster ∧ ∀ noted ∈ thread.notes, noted = roster

/-- Tidy foreign code is called with the roster that it leaves. -/
theorem Tidy.attended
    {foreign : Call σ β}
    (tidy : Tidy foreign)
    (roster : Roster) :
    Upholds (Thread.Attended roster) foreign.attended := by
  rintro thread ⟨same, noted⟩
  have begun : ∀ earlier ∈ thread.roster :: thread.notes, earlier = roster := by
    rintro earlier (_ | ⟨_, member⟩)
    · exact same
    · exact noted earlier member
  change Leads foreign.annotated (thread.plain.annotate (thread.roster :: thread.notes)) _ _
  rw [Call.leads_annotated, Thread.plain_annotate]
  refine (leads_self foreign thread.plain).mono ?_ ?_
  · intro value after run
    exact ⟨(tidy.of_ok run).trans same, begun⟩
  · intro abort after run
    exact ⟨(tidy.of_error run).trans same, begun⟩

theorem Behaviour.Tidy.attended (tidy : behaviour.Tidy) (roster : Roster) :
    behaviour.attended.Upholds (Thread.Attended roster) where
  calls calls := by
    cases calls with
    | hash item => exact (tidy (.hash item)).attended roster
    | rehash item => exact (tidy (.rehash item)).attended roster
    | compare stored item => exact (tidy (.compare stored item)).attended roster
    | duplicate item => exact (tidy (.duplicate item)).attended roster
    | release copy => exact (tidy (.release copy)).attended roster
    | heapBytes copy => exact (tidy (.heapBytes copy)).attended roster
  reserve _ _ attended := attended

theorem Request.Tidy.attended
    {request : Request σ ι α β} {foreign : Call (Annotated σ (List Roster)) γ}
    (tidy : request.Tidy)
    (calls : request.attended.Calls foreign)
    (roster : Roster) :
    Upholds (Thread.Attended roster) foreign := by
  cases request with
  | findWith item use =>
      cases calls with
      | findWith _ _ copy => exact (tidy (.findWith item use copy)).attended roster
  | retain keep =>
      cases calls with
      | retain _ copy => exact (tidy (.retain keep copy)).attended roster
  | walk visitor =>
      cases calls with
      | walk _ copy => exact (tidy (.walk visitor copy)).attended roster
  | _ => cases calls

/-- While a request runs, its table is on the roster beside those that were there before,
at each call of foreign code. -/
theorem Request.attended_of_passes
    {request : Request σ ι α β} {table : Table α} {thread : Thread σ} {journal : List Event}
    {after : Session σ α}
    (tidy : behaviour.Tidy)
    (tidy' : request.Tidy)
    (free : table.identity ∉ thread.roster)
    (run : Passes (request.perform behaviour) ⟨table, thread, journal⟩ after) :
    ∃ noting : Session (Annotated σ (List Roster)) α,
      Passes (request.attended.perform behaviour.attended)
        ⟨table, thread.annotate [], journal⟩ noting ∧
      noting.map Annotated.host id = after ∧
      ∀ roster ∈ noting.thread.notes, roster = thread.roster.join table.identity := by
  have mirrors := mirrors_perform behaviour.attended_mirrored request.attended_mirrored
  have image : Session.map Annotated.host id
      (⟨table, thread.annotate [], journal⟩ : Session (Annotated σ (List Roster)) α) =
        ⟨table, thread, journal⟩ := by
    unfold Session.map
    rw [Table.map_id]
    rfl
  rw [← image] at run
  obtain ⟨noting, run', same⟩ := mirrors.exists_passes run
  refine ⟨noting, run', same, ?_⟩
  let begun : Session (Annotated σ (List Roster)) α := ⟨table, thread.annotate [], journal⟩
  have start : Thread.Attended (thread.roster.join table.identity) begun.joined.thread :=
    ⟨rfl, fun _ member => absurd member List.not_mem_nil⟩
  have leads : Leads (request.attended.perform behaviour.attended) begun _ _ :=
    perform_leads_of_upholds (tidy.attended _) (fun calls => tidy'.attended calls _) free start
  obtain ⟨done, ⟨_, _, noted⟩, rfl⟩ := leads.of_passes run'
  exact noted

/-! ## Loans -/

/-- Requests to a table that is on the roster are refused one and all, and nothing
changes. -/
theorem Request.performEach_of_mem
    {session : Session σ α}
    (busy : session.table.identity ∈ session.thread.roster)
    (requests : List (Request σ ι α β)) :
    performEach behaviour requests session =
      (requests.map fun _ => .error .reentered, session) := by
  induction requests with
  | nil => rfl
  | cons request rest inductionHypothesis =>
      unfold performEach
      simp only [perform_of_mem busy request, inductionHypothesis]
      rfl

/-- A program that may hand out a loan puts its table on the roster with it, and leaves
the roster as it was otherwise. -/
def HandsOut (loan? : β → Option (Loan α)) (program : Action σ α β) : Prop :=
  ∀ session, Leads program session
    (fun value after =>
      match loan? value with
      | none => after.thread.roster = session.thread.roster
      | some loan => loan.Lent after ∧ loan.identity = session.table.identity ∧
          after.thread.roster = session.thread.roster.join loan.identity)
    fun _ after => after.thread.roster = session.thread.roster

/-- An item that was lent out while its table is on the roster came with the table. -/
theorem Loan.Lent.handedOut
    {loan : Loan α} {before after : Session σ α}
    (lent : loan.Lent after)
    (ended : after.Under before.table.identity
      fun thread => thread.roster = before.joined.thread.roster) :
    loan.Lent after ∧ loan.identity = before.table.identity ∧
      after.thread.roster = before.thread.roster.join loan.identity := by
  have same : loan.identity = before.table.identity := lent.1.trans ended.1
  refine ⟨lent, same, ?_⟩
  rw [same]
  exact ended.2

namespace Behaviour.Tidy

variable (tidy : behaviour.Tidy)
include tidy

theorem handsOut_insert (item : ι) : HandsOut Except.toOption (Table.insert behaviour item) := by
  intro session
  by_cases busy : session.table.identity ∈ session.thread.roster
  · exact (Action.leads_entered_of_mem _ _ busy).mpr rfl
  · have upholds := (tidy.upholds session.joined.thread.roster).means session.table.identity
    refine ((upholds.insert_leads busy ⟨rfl, rfl⟩ item).and
      (Table.Means.lends_insert behaviour.means item session)).mono ?_
      fun _ _ parted => parted.1.roster_eq
    rintro (failure | loan) after ⟨ended, lent⟩
    · exact ended.roster_eq
    · exact (lent loan rfl).handedOut ended

theorem handsOut_find (item : ι) : HandsOut id (Table.find? behaviour item) := by
  intro session
  by_cases busy : session.table.identity ∈ session.thread.roster
  · exact (Action.leads_entered_of_mem _ _ busy).mpr rfl
  · have upholds := (tidy.upholds session.joined.thread.roster).means session.table.identity
    refine ((upholds.find_leads busy ⟨rfl, rfl⟩ item).and
      (Table.Means.lends_find behaviour.means item session)).mono ?_
      fun _ _ parted => parted.1.roster_eq
    rintro (_ | loan) after ⟨ended, lent⟩
    · exact ended.roster_eq
    · exact (lent loan rfl).handedOut ended

end Behaviour.Tidy

/-! ## Nested calls -/

/-- A place where the host keeps a table. -/
structure Shelf (σ α : Type) where
  /-- The table in its place. -/
  table : σ → Table α
  /-- Puts a table in its place. -/
  put : Table α → σ → σ
  /-- The table may be put back. -/
  put_table : ∀ host, put (table host) host = host

namespace Shelf

/-- Does something with the table in its place. -/
def on (shelf : Shelf σ α) (action : Action σ α β) : Call σ β := fun thread =>
  match action ⟨shelf.table thread.host, thread, []⟩ with
  | .ok value after =>
    .ok value { after.thread with host := shelf.put after.table after.thread.host }
  | .error abort after =>
    .error abort { after.thread with host := shelf.put after.table after.thread.host }

variable {shelf : Shelf σ α} {thread : Thread σ}

theorem leads_on
    {action : Action σ α β} {returned : β → Thread σ → Prop}
    {aborted : Abort → Thread σ → Prop} :
    Leads (shelf.on action) thread returned aborted ↔
      Leads action ⟨shelf.table thread.host, thread, []⟩
        (fun value after => returned value
          { after.thread with host := shelf.put after.table after.thread.host })
        (fun abort after => aborted abort
          { after.thread with host := shelf.put after.table after.thread.host }) := by
  unfold Leads on
  cases action ⟨shelf.table thread.host, thread, []⟩ <;> exact Iff.rfl

/-- A refused call leaves the host with all of its tables as it was. -/
theorem on_of_mem
    (busy : (shelf.table thread.host).identity ∈ thread.roster)
    (request : Request σ ι α β) :
    shelf.on (request.perform behaviour) thread = .error .reentered thread := by
  have refused : request.perform behaviour ⟨shelf.table thread.host, thread, []⟩ =
      .error .reentered ⟨shelf.table thread.host, thread, []⟩ :=
    Request.perform_of_mem busy request
  simp only [on, refused, shelf.put_table]

/-- What keeps the roster of a session keeps it in place. -/
theorem tidy_on
    {action : Action σ α β}
    (keeps : Keeps (fun session : Session σ α => session.thread.roster) action) :
    Tidy (shelf.on action) := by
  refine Keeps.of_leads fun thread => ?_
  rw [leads_on]
  exact keeps.leads _

end Shelf

/-- Does something while an item is on loan.  The loan ends also if it is cut short. -/
def Loan.during (loan : Loan α) (body : Call σ β) : Call σ β := fun thread =>
  match body thread with
  | .ok value after => .ok value { after with roster := after.roster.leave loan.identity }
  | .error abort after =>
    .error abort { after with roster := after.roster.leave loan.identity }

theorem Loan.leads_during
    {loan : Loan α} {body : Call σ β} {thread : Thread σ} {returned : β → Thread σ → Prop}
    {aborted : Abort → Thread σ → Prop} :
    Leads (loan.during body) thread returned aborted ↔
      Leads body thread
        (fun value after => returned value
          { after with roster := after.roster.leave loan.identity })
        (fun abort after => aborted abort
          { after with roster := after.roster.leave loan.identity }) := by
  unfold Leads during
  cases body thread <;> exact Iff.rfl

/-- Does something with the answer of a call, which may hand out a loan. -/
def Call.borrowing (lending : Call σ γ) (loan? : γ → Option (Loan α)) (body : γ → Call σ β) :
    Call σ β := do
  let answer ← lending
  match loan? answer with
  | none => body answer
  | some loan => loan.during (body answer)

/-- Foreign code that is made of calls to tables, nested to any depth: the foreign code
of the tables it calls is made in the same way.  It may raise aborts, and catch them,
and hold loans while it goes on. -/
inductive Nesting : {β : Type} → Call σ β → Prop
  | pure {β : Type} (value : β) : Nesting (pure value)
  | throw {β : Type} (abort : Abort) : Nesting (throw abort : Call σ β)
  | onHost {β : Type} (change : σ → β × σ) : Nesting (Call.onHost change)
  | bind {β γ : Type} {first : Call σ γ} {next : γ → Call σ β}
      (nests : Nesting first)
      (nests' : ∀ value, Nesting (next value)) :
      Nesting (first >>= next)
  | tryCatch {β : Type} {attempt : Call σ β} {handler : Abort → Call σ β}
      (nests : Nesting attempt)
      (nests' : ∀ abort, Nesting (handler abort)) :
      Nesting (tryCatch attempt handler)
  | request {ι α β : Type} (shelf : Shelf σ α) (behaviour : Behaviour σ ι α)
      (request : Request σ ι α β)
      (nests : ∀ {γ : Type} {foreign : Call σ γ}, behaviour.Calls foreign → Nesting foreign)
      (nests' : ∀ {γ : Type} {foreign : Call σ γ}, request.Calls foreign → Nesting foreign) :
      Nesting (shelf.on (request.perform behaviour))
  | insert {ι α β : Type} (shelf : Shelf σ α) (behaviour : Behaviour σ ι α) (item : ι)
      {body : Except Failure (Loan α) → Call σ β}
      (nests : ∀ {γ : Type} {foreign : Call σ γ}, behaviour.Calls foreign → Nesting foreign)
      (nests' : ∀ answer, Nesting (body answer)) :
      Nesting ((shelf.on (Table.insert behaviour item)).borrowing Except.toOption body)
  | find {ι α β : Type} (shelf : Shelf σ α) (behaviour : Behaviour σ ι α) (item : ι)
      {body : Option (Loan α) → Call σ β}
      (nests : ∀ {γ : Type} {foreign : Call σ γ}, behaviour.Calls foreign → Nesting foreign)
      (nests' : ∀ answer, Nesting (body answer)) :
      Nesting ((shelf.on (Table.find? behaviour item)).borrowing id body)

namespace Tidy

theorem tryCatch
    {attempt : Call σ β} {handler : Abort → Call σ β}
    (tidy : Tidy attempt)
    (tidy' : ∀ abort, Tidy (handler abort)) :
    Tidy (tryCatch attempt handler) := by
  refine Keeps.of_leads fun thread => ?_
  change Leads (EStateM.tryCatch attempt handler) thread _ _
  unfold Leads EStateM.tryCatch
  cases run : attempt thread with
  | ok value after => exact tidy.of_ok run
  | error abort after =>
      have same := tidy.of_error run
      exact (Keeps.leads (tidy' abort) after).mono (fun _ _ kept => kept.trans same)
        fun _ _ kept => kept.trans same

/-- So is foreign code that holds a loan for a while. -/
theorem borrowing
    {shelf : Shelf σ α} {action : Action σ α γ} {loan? : γ → Option (Loan α)}
    {body : γ → Call σ β}
    (handsOut : HandsOut loan? action)
    (tidy : ∀ answer, Tidy (body answer)) :
    Tidy ((shelf.on action).borrowing loan? body) := by
  refine Keeps.of_leads fun thread => ?_
  unfold Call.borrowing
  rw [leads_bind, Shelf.leads_on]
  refine (handsOut _).mono ?_ fun _ _ same => same
  intro answer after ended
  cases lent : loan? answer with
  | none =>
      simp only [lent] at ended ⊢
      exact (Keeps.leads (tidy answer) _).mono (fun _ _ kept => kept.trans ended)
        fun _ _ kept => kept.trans ended
  | some loan =>
      simp only [lent] at ended ⊢
      obtain ⟨_, _, joined⟩ := ended
      have restored : ∀ done : Thread σ, done.roster = after.thread.roster →
          done.roster.leave loan.identity = thread.roster := by
        intro done kept
        rw [kept, joined]
        exact Roster.leave_join _ _
      rw [Loan.leads_during]
      exact (Keeps.leads (tidy answer) _).mono (fun _ done kept => restored done kept)
        fun _ done kept => restored done kept

end Tidy

/-- Nested calls are tidy, whatever their depth. -/
theorem Nesting.tidy {foreign : Call σ β} (nesting : Nesting foreign) : Tidy foreign := by
  induction nesting with
  | pure value => exact .of_pure Thread.roster value
  | throw abort => exact Keeps.of_leads fun _ => rfl
  | onHost change => exact Keeps.of_leads fun _ => rfl
  | bind _ _ tidy tidy' => exact Keeps.bind tidy tidy'
  | tryCatch _ _ tidy tidy' => exact tidy.tryCatch tidy'
  | request shelf behaviour request _ _ tidy tidy' =>
      exact Shelf.tidy_on (Request.keeps_roster tidy tidy')
  | insert shelf behaviour item _ _ tidy tidy' =>
      exact .borrowing (Behaviour.Tidy.handsOut_insert tidy item) tidy'
  | find shelf behaviour item _ _ tidy tidy' =>
      exact .borrowing (Behaviour.Tidy.handsOut_find tidy item) tidy'

/-! ## Refusals and the roster -/

/-- When a loan ends, its table is on the roster once less, and no other table more or
less often. -/
theorem Loan.finish_leads (loan : Loan α) (thread : Thread σ) :
    ∃ ended, loan.finish thread = .ok () ended ∧ ended.host = thread.host ∧
      ended.roster.count loan.identity = thread.roster.count loan.identity - 1 ∧
      ∀ other ≠ loan.identity, ended.roster.count other = thread.roster.count other :=
  ⟨_, rfl, rfl, thread.roster.count_leave loan.identity,
    fun _ different => thread.roster.count_leave_of_ne different⟩

/-- A table that is on the roster refuses every call with the sentence of the guard and
changes nothing.  If all foreign code is tidy, the table is on the roster at each call of
foreign code of a request, beside the tables that were there before, and when the request
has ended, in whatever way, the roster is what it was.  An item on loan keeps its table on
the roster; all calls are refused, so the item stays where it is, and the roster is what
it was when the loan ends.  A table that is not on the roster is cut short by foreign code
alone, whatever else is on it.  Tidy is all foreign code that is made of calls to tables,
to any depth. -/
theorem reentrant_calls_rejected (tidy : behaviour.Tidy) (table : Table α) :
    (∀ (thread : Thread σ) (journal : List Event), table.identity ∈ thread.roster →
      (∀ {β : Type} (request : Request σ ι α β),
        request.perform behaviour ⟨table, thread, journal⟩ =
          .error .reentered ⟨table, thread, journal⟩) ∧
      (∀ item, Table.insert behaviour item ⟨table, thread, journal⟩ =
        .error .reentered ⟨table, thread, journal⟩) ∧
      (∀ item, Table.find? behaviour item ⟨table, thread, journal⟩ =
        .error .reentered ⟨table, thread, journal⟩) ∧
      Table.outline ⟨table, thread, journal⟩ = .error .reentered ⟨table, thread, journal⟩) ∧
    Abort.message .reentered =
      "reentrancy detected: table operation called from inside its own callback" ∧
    (∀ {β : Type} (request : Request σ ι α β) (thread : Thread σ) (journal : List Event)
      (after : Session σ α),
      request.Tidy → table.identity ∉ thread.roster →
      Passes (request.perform behaviour) ⟨table, thread, journal⟩ after →
        after.thread.roster = thread.roster ∧
        ∃ noting : Session (Annotated σ (List Roster)) α,
          Passes (request.attended.perform behaviour.attended)
            ⟨table, thread.annotate [], journal⟩ noting ∧
          noting.map Annotated.host id = after ∧
          ∀ roster ∈ noting.thread.notes, roster = thread.roster.join table.identity) ∧
    (∀ (item : ι) (thread : Thread σ) (journal : List Event) (loan : Loan α)
      (after : Session σ α),
      Table.insert behaviour item ⟨table, thread, journal⟩ = .ok (.ok loan) after ∨
        Table.find? behaviour item ⟨table, thread, journal⟩ = .ok (some loan) after →
      loan.Lent after ∧ loan.identity = table.identity ∧
      after.thread.roster = thread.roster.join table.identity ∧
      (∀ {β : Type} (requests : List (Request σ ι α β)) (thread : Thread σ)
        (journal : List Event), table.identity ∈ thread.roster →
        Request.performEach behaviour requests ⟨after.table, thread, journal⟩ =
          (requests.map fun _ => .error .reentered, ⟨after.table, thread, journal⟩)) ∧
      ∀ later : Thread σ, ∃ ended, loan.finish later = .ok () ended ∧
        ended.host = later.host ∧
        (later.roster = after.thread.roster → ended.roster = thread.roster) ∧
        ended.roster.count table.identity = later.roster.count table.identity - 1 ∧
        ∀ other ≠ table.identity, ended.roster.count other = later.roster.count other) ∧
    (∀ {β : Type} (request : Request σ ι α β) (thread : Thread σ) (journal : List Event),
      behaviour.Reachable table → table.identity ∉ thread.roster →
      Leads (request.perform behaviour) ⟨table, thread, journal⟩ (fun _ _ => True)
        fun abort _ => behaviour.Raises abort ∨ request.Raises abort) ∧
    ∀ {β : Type} {foreign : Call σ β}, Nesting foreign → Tidy foreign := by
  refine ⟨fun thread journal busy => ⟨fun request => ?_, fun item => ?_, fun item => ?_, ?_⟩,
    rfl, ?_, ?_, ?_, Nesting.tidy⟩
  · exact Request.perform_of_mem busy request
  · exact Action.entered_of_mem _ _ busy
  · exact Action.entered_of_mem _ _ busy
  · have refused : (Table.statistics : Action σ α Statistics) ⟨table, thread, journal⟩ =
        .error .reentered ⟨table, thread, journal⟩ := Action.entered_of_mem _ _ busy
    simp only [Table.outline, bind, EStateM.bind, Action.inspect, refused]
  · intro _ request thread journal after tidy' free run
    exact ⟨request.keeps_roster tidy tidy' _ _ run,
      Request.attended_of_passes tidy tidy' free run⟩
  · intro item thread journal loan after run
    obtain ⟨lent, same, joined⟩ : loan.Lent after ∧ loan.identity = table.identity ∧
        after.thread.roster = thread.roster.join loan.identity := by
      rcases run with run | run
      · exact (tidy.handsOut_insert item _).of_ok run
      · exact (tidy.handsOut_find item _).of_ok run
    refine ⟨lent, same, same ▸ joined, fun requests thread journal busy => ?_, fun later => ?_⟩
    · rw [← same, lent.1] at busy
      exact Request.performEach_of_mem busy requests
    · obtain ⟨ended, run, host, left, others⟩ := loan.finish_leads later
      refine ⟨ended, run, host, ?_, same ▸ left, same ▸ others⟩
      intro still
      cases run
      rw [still, joined]
      exact Roster.leave_join _ _
  · intro _ request thread journal reachable free
    have leads : Leads (request.perform behaviour) ⟨table, thread, journal⟩ _ _ :=
      request.perform_leads reachable.intact.sound free
    exact leads.mono (fun _ _ _ => trivial) fun _ _ cut => cut.1

/-! ## A table that calls itself -/

/-- A host that keeps one table. -/
def Shelf.only : Shelf (Table Nat) Nat where
  table := id
  put table _ := table
  put_table _ := rfl

/-- The table of the host at the start. -/
def Shelf.newTable : Table Nat where
  identity := 0
  settings := {}
  slots := Slot.row Nat 17

/-- Numbers whose foreign code calls no table. -/
def Behaviour.modest : Behaviour (Table Nat) Nat Nat where
  key := id
  hash number := pure (UInt64.ofNat number)
  rehash number := pure (UInt64.ofNat number)
  compare stored number := pure (if stored = number then .eq else .lt)
  duplicate number := pure (some number)
  release _ := pure ()
  heapBytes _ := pure 0
  slotBytes := 1
  slotBytes_pos := Nat.one_pos
  reserve _ host := (true, host)

/-- A call to the table that the host keeps. -/
def Call.ask : Call (Table Nat) (Answer Nat Nat Unit) :=
  Shelf.only.on ((Request.contains 0 : Request (Table Nat) Nat Nat Unit).perform
    Behaviour.modest)

/-- Numbers of which 99 is not hashed before the table of the host was asked. -/
def Behaviour.inquiring : Behaviour (Table Nat) Nat Nat :=
  { Behaviour.modest with
    hash := fun number =>
      if number = 99 then do
        let _ ← Call.ask
        pure (UInt64.ofNat number)
      else
        pure (UInt64.ofNat number) }

theorem Behaviour.modest_nests
    {foreign : Call (Table Nat) β}
    (calls : Behaviour.modest.Calls foreign) :
    Nesting foreign := by
  cases calls <;> exact .pure _

theorem Call.ask_nests : Nesting Call.ask := by
  refine .request Shelf.only Behaviour.modest (.contains 0) Behaviour.modest_nests ?_
  intro γ foreign calls
  cases calls

theorem Behaviour.inquiring_tidy : Behaviour.inquiring.Tidy := by
  intro β foreign calls
  apply Nesting.tidy
  cases calls with
  | hash number =>
      simp only [inquiring]
      split
      · exact .bind Call.ask_nests fun _ => .pure _
      · exact .pure _
  | _ => exact .pure _

/-- The table that the host keeps is the one that is asked to store 99.  The call from
within is refused and cuts the insertion short, but the next one is answered with a
loan.  While the loan lasts, whatever the host asks of the table is refused. -/
theorem reentrant_call_of_number_rejected :
    ∃ (after later : Session (Table Nat) Nat) (loan : Loan Nat),
      Behaviour.inquiring.Tidy ∧
      (Request.insert 99 : Request (Table Nat) Nat Nat Unit).perform Behaviour.inquiring
        ⟨Shelf.newTable, { host := Shelf.newTable }, []⟩ = .error .reentered after ∧
      after.thread.roster = {} ∧
      Table.insert Behaviour.inquiring 2 ⟨after.table, after.thread, []⟩ =
        .ok (.ok loan) later ∧
      loan.Lent later ∧ later.thread.roster = ⟨[0]⟩ ∧
      ∀ request : Request (Table Nat) Nat Nat Unit,
        Shelf.only.on (request.perform Behaviour.modest)
            { later.thread with host := later.table } =
          .error .reentered { later.thread with host := later.table } := by
  obtain ⟨abort, after, run, tested⟩ := exists_of_cuts (show cuts
    (fun abort (after : Session (Table Nat) Nat) => decide (abort = .reentered) &&
      (after.table.identity == 0 && meets (fun result _ => result.isOk)
        (Table.insert Behaviour.inquiring 2 ⟨after.table, after.thread, []⟩)))
    ((Request.insert 99 : Request (Table Nat) Nat Nat Unit).perform Behaviour.inquiring
      ⟨Shelf.newTable, { host := Shelf.newTable }, []⟩) = true by decide +kernel)
  simp only [Bool.and_eq_true, beq_iff_eq, decide_eq_true_eq] at tested
  obtain ⟨rfl, identity, inserts⟩ := tested
  obtain ⟨result, later, inserts, succeeded⟩ := exists_of_meets inserts
  cases result with
  | error failure => cases succeeded
  | ok loan =>
      have tidy : Behaviour.inquiring.Tidy := Behaviour.inquiring_tidy
      have tidy' : (Request.insert 99 : Request (Table Nat) Nat Nat Unit).Tidy := by
        intro γ foreign calls
        cases calls
      obtain ⟨_, _, balances, _⟩ := reentrant_calls_rejected tidy Shelf.newTable
      obtain ⟨_, _, _, lends, _⟩ := reentrant_calls_rejected tidy after.table
      have same := (balances _ { host := Shelf.newTable } [] after tidy' List.not_mem_nil
        (Or.inr ⟨_, run⟩)).1
      obtain ⟨lent, owner, joined, _⟩ := lends 2 after.thread [] loan later (Or.inl inserts)
      have busy : later.table.identity ∈ later.thread.roster := by
        rw [joined, ← owner, lent.1]
        exact Roster.mem_join.mpr (Or.inl rfl)
      refine ⟨after, later, loan, tidy, run, same, inserts, lent, ?_, ?_⟩
      · rw [joined, same, identity]
        rfl
      · exact Shelf.on_of_mem busy

end OpenAddressing
