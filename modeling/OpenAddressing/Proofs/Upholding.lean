import OpenAddressing.Proofs.Means

/-!
# What operations uphold

Apart from locating and reorganizing, the operations of a table change the slots, the
counts and the flags, call foreign code, and report single operations.  So a property of
the session that does not depend on these changes, and that locating, reorganizing and
foreign code uphold, is upheld by every operation from when the table has joined the
roster until it leaves.
-/

namespace OpenAddressing

open Probe (Outcome Purpose)

variable {ε τ β γ : Type}

/-! ## Programs -/

/-- However a program ends, a property of the state still holds. -/
def Upholds (holds : τ → Prop) (program : EStateM ε τ β) : Prop :=
  ∀ state, holds state →
    Leads program state (fun _ after => holds after) (fun _ after => holds after)

namespace Upholds

variable {holds : τ → Prop}

theorem of_pure (holds : τ → Prop) (value : β) :
    Upholds holds (pure value : EStateM ε τ β) :=
  fun _ start => start

theorem of_throw (holds : τ → Prop) (abort : ε) :
    Upholds holds (throw abort : EStateM ε τ β) :=
  fun _ start => start

theorem of_get (holds : τ → Prop) : Upholds holds (get : EStateM ε τ τ) :=
  fun _ start => start

theorem bind
    {first : EStateM ε τ γ} {next : γ → EStateM ε τ β}
    (upholds : Upholds holds first)
    (upholds' : ∀ value, Upholds holds (next value)) :
    Upholds holds (first >>= next) := by
  intro state start
  rw [leads_bind]
  exact (upholds state start).mono (fun value after => upholds' value after) fun _ _ => id

theorem map
    {program : EStateM ε τ γ}
    (upholds : Upholds holds program)
    (function : γ → β) :
    Upholds holds (function <$> program) := by
  intro state start
  rw [leads_map]
  exact upholds state start

theorem forM
    {step : γ → EStateM ε τ Unit} {members : List γ}
    (upholds : ∀ member ∈ members, Upholds holds (step member)) :
    Upholds holds (members.forM step) := by
  induction members with
  | nil => exact .of_pure holds ()
  | cons member rest inductionHypothesis =>
      refine (upholds member List.mem_cons_self).bind fun _ => ?_
      exact inductionHypothesis fun other later => upholds other (List.mem_cons_of_mem _ later)

theorem foldlM
    {step : β → γ → EStateM ε τ β}
    (upholds : ∀ total member, Upholds holds (step total member))
    (members : List γ)
    (total : β) :
    Upholds holds (members.foldlM step total) := by
  induction members generalizing total with
  | nil => exact .of_pure holds total
  | cons member rest inductionHypothesis =>
      rw [List.foldlM_cons]
      exact (upholds total member).bind inductionHypothesis

/-- A run leads from states that have the property to such states. -/
theorem passes
    {program : EStateM ε τ β} {before after : τ}
    (upholds : Upholds holds program)
    (run : Passes program before after)
    (start : holds before) :
    holds after :=
  (upholds before start).of_passes run

theorem of_passes
    {program : EStateM ε τ β}
    (kept : ∀ before after, Passes program before after → holds before → holds after) :
    Upholds holds program := by
  intro state start
  refine (leads_self program state).mono ?_ ?_
  · intro value after run
    exact kept state after (Or.inl ⟨value, run⟩) start
  · intro abort after run
    exact kept state after (Or.inr ⟨abort, run⟩) start

/-- A property that depends on what a program keeps is upheld. -/
theorem of_view
    {ν : Type} {view : τ → ν} {program : EStateM ε τ β}
    (keeps : Keeps view program)
    (depends : ∀ before after, view after = view before → holds before → holds after) :
    Upholds holds program :=
  .of_passes fun before after run => depends before after (keeps before after run)

/-- What a program keeps, it upholds. -/
theorem of_keeps
    {ν : Type} {view : τ → ν} {program : EStateM ε τ β}
    (keeps : Keeps view program)
    (value : ν) :
    Upholds (fun state => view state = value) program :=
  .of_view keeps fun _ _ same start => same.trans start

end Upholds

/-! ## Foreign code -/

variable {σ ι α : Type} {behaviour : Behaviour σ ι α}

/-- The foreign code that a behaviour consists of. -/
inductive Behaviour.Calls (behaviour : Behaviour σ ι α) : {β : Type} → Call σ β → Prop
  | hash (item : ι) : Calls behaviour (behaviour.hash item)
  | rehash (item : ι) : Calls behaviour (behaviour.rehash item)
  | compare (stored item : ι) : Calls behaviour (behaviour.compare stored item)
  | duplicate (item : ι) : Calls behaviour (behaviour.duplicate item)
  | release (copy : α) : Calls behaviour (behaviour.release copy)
  | heapBytes (copy : α) : Calls behaviour (behaviour.heapBytes copy)

/-- The foreign code that comes with a request. -/
inductive Request.Calls : Request σ ι α β → {γ : Type} → Call σ γ → Prop
  | findWith (item : ι) (use : α → Call σ β) (copy : α) :
      Calls (.findWith item use) (use copy)
  | retain (keep : α → Call σ Bool) (copy : α) : Calls (.retain keep) (keep copy)
  | walk (visitor : α → Call σ (Option β)) (copy : α) :
      Calls (.walk visitor) (visitor copy)

/-- The session had a property and the table has left the roster. -/
def Session.Parted (holds : Session σ α → Prop) (session : Session σ α) : Prop :=
  ∃ done : Session σ α, holds done ∧ session = done.leave

/-- A property of sessions does not depend on the slots, the counts and the flags, nor on
reports of single operations. -/
structure Session.Robust (holds : Session σ α → Prop) : Prop where
  /-- Changes of the table other than to its identity and its tally do not matter. -/
  alter : ∀ {session : Session σ α} {table : Table α},
    table.identity = session.table.identity → table.tally = session.table.tally →
      holds session → holds { session with table }
  /-- Neither does the report of a single operation. -/
  report : ∀ {session : Session σ α} {event : Event}, event.level = .trace →
    holds session → holds { session with journal := event :: session.journal }

/-- Foreign code upholds a property of sessions, in whatever session it is called. -/
def Call.Upholds (holds : Session σ α → Prop) (foreign : Call σ β) : Prop :=
  ∀ session : Session σ α,
    OpenAddressing.Upholds (fun thread => holds { session with thread }) foreign

/-! ## Actions -/

namespace Action

variable {holds : Session σ α → Prop}

theorem upholds_inspect (holds : Session σ α → Prop) (view : Table α → β) :
    Upholds holds (inspect view) :=
  fun _ start => start

theorem upholds_live (holds : Session σ α → Prop) : Upholds holds (live : Action σ α Nat) := by
  intro session start
  unfold Leads live
  by_cases counted : session.table.tombstones ≤ session.table.entries
  · simp only [if_pos counted]
    exact start
  · simp only [if_neg counted]
    exact start

theorem upholds_call
    {foreign : Call σ β}
    (upholds : foreign.Upholds holds) :
    Upholds holds (call foreign) := by
  intro session start
  rw [leads_call]
  exact upholds session session.thread start

theorem upholds_alter
    (robust : Session.Robust holds)
    {change : Table α → Table α}
    (identity : ∀ table, (change table).identity = table.identity)
    (tally : ∀ table, (change table).tally = table.tally) :
    Upholds holds (alter change) :=
  fun session start => robust.alter (identity session.table) (tally session.table) start

theorem upholds_flag (robust : Session.Robust holds) (flags : Flags) :
    Upholds holds (flag flags) :=
  upholds_alter robust (fun _ => rfl) fun _ => rfl

theorem upholds_trace
    (robust : Session.Robust holds)
    {event : Table α → Event}
    (single : ∀ table, (event table).level = .trace) :
    Upholds holds (trace event) := by
  intro session start
  rw [leads_trace]
  unfold Session.traced
  split
  · exact robust.report (single session.table) start
  · exact start

/-- What is done while the table is on the roster upholds what holds when it has
joined. -/
theorem leads_entered_of_upholds
    {ready : Session σ α → Prop} {session : Session σ α} {action : Action σ α β}
    (leads : ∀ before, ready before →
      Leads action before (fun _ after => holds after) (fun _ after => holds after))
    (keeps : β → Bool)
    (free : session.table.identity ∉ session.thread.roster)
    (start : ready session.joined) :
    Leads (entered keeps action) session
      (fun value after => if keeps value then holds after else after.Parted holds)
      (fun _ after => after.Parted holds) := by
  rw [leads_entered _ _ free]
  refine (leads session.joined start).mono ?_ fun _ done held => ⟨done, held, rfl⟩
  intro value done held
  split
  · exact held
  · exact ⟨done, held, rfl⟩

theorem leads_guarded_of_upholds
    {ready : Session σ α → Prop} {session : Session σ α} {action : Action σ α β}
    (leads : ∀ before, ready before →
      Leads action before (fun _ after => holds after) (fun _ after => holds after))
    (free : session.table.identity ∉ session.thread.roster)
    (start : ready session.joined) :
    Leads (guarded action) session
      (fun _ after => after.Parted holds)
      (fun _ after => after.Parted holds) := by
  unfold guarded
  simpa only [Bool.false_eq_true, if_false] using
    leads_entered_of_upholds leads (fun _ => false) free start

end Action

/-! ## Slots -/

namespace Table

variable {holds : Session σ α → Prop}

theorem upholds_storedAt (holds : Session σ α → Prop) (index : Nat) :
    Upholds holds (storedAt index : Action σ α α) := by
  refine (Action.upholds_inspect holds slots).bind fun slots => ?_
  cases slots[index]? with
  | none => exact .of_throw _ _
  | some slot =>
      cases slot with
      | empty => exact .of_throw _ _
      | tombstone => exact .of_throw _ _
      | occupied stored => exact .of_pure _ stored

theorem upholds_lend (holds : Session σ α → Prop) (index : Nat) :
    Upholds holds (lend index : Action σ α (Loan α)) :=
  (upholds_storedAt holds index).bind fun _ =>
    (Action.upholds_inspect holds Table.identity).bind fun _ => .of_pure _ _

theorem upholds_occupy (robust : Session.Robust holds) (index : Nat) (copy : α) :
    Upholds holds (occupy index copy) := by
  have stores : Upholds holds (do
      Action.alter fun table =>
        { table with slots := table.slots.setIfInBounds index (.occupied copy) }
      Action.trace fun table => .inserted index table.entries) :=
    .bind (Action.upholds_alter robust (fun _ => rfl) fun _ => rfl) fun _ =>
      Action.upholds_trace robust fun _ => rfl
  refine (Action.upholds_inspect holds id).bind fun table => ?_
  cases table.slots[index]? with
  | none => exact .of_throw _ _
  | some slot =>
      simp only
      split
      · split
        · exact .of_throw _ _
        · exact .bind (Action.upholds_alter robust (fun _ => rfl) fun _ => rfl)
            fun _ => stores
      · exact .bind (Action.upholds_alter robust (fun _ => rfl) fun _ => rfl) fun _ => stores

theorem upholds_bury (robust : Session.Robust holds) (index : Nat) :
    Upholds holds (bury index) :=
  Action.upholds_alter robust (fun _ => rfl) fun _ => rfl

/-- What a visitor upholds, a visit upholds. -/
theorem upholds_visit
    {holds : Thread σ → Prop} {visitor : α → Call σ (Option β)}
    (upholds : ∀ copy, Upholds holds (visitor copy))
    (items : List α) :
    Upholds holds (visit visitor items) := by
  induction items with
  | nil => exact .of_pure _ _
  | cons item rest inductionHypothesis =>
      refine (upholds item).bind fun answer => ?_
      cases answer with
      | none => exact inductionHypothesis
      | some value => exact .of_pure _ _

end Table

/-! ## Loans -/

/-- The loan is of an item that the table stores. -/
def Loan.Lent (loan : Loan α) (session : Session σ α) : Prop :=
  loan.identity = session.table.identity ∧
    session.table.slots[loan.index]? = some (.occupied loan.item)

/-- Any loan that a program returns is of an item that the table stores. -/
def Lends (loan? : β → Option (Loan α)) (program : Action σ α β) : Prop :=
  ∀ session, Leads program session
    (fun value after => ∀ loan, loan? value = some loan → loan.Lent after) fun _ _ => True

namespace Lends

variable {loan? : β → Option (Loan α)} {session : Session σ α}

theorem bind
    {next : γ → Action σ α β}
    (lends : ∀ value, Lends loan? (next value))
    (first : Action σ α γ) :
    Lends loan? (first >>= next) := by
  intro session
  rw [leads_bind]
  exact (leads_self first session).mono (fun value after _ => lends value after)
    fun _ _ _ => trivial

theorem of_none {value : β} (none : loan? value = none) :
    Lends loan? (pure value : Action σ α β) := by
  intro session loan lent
  rw [none] at lent
  cases lent

theorem lend
    {function : Loan α → β}
    (same : ∀ loan, loan? (function loan) = some loan)
    (index : Nat) :
    Lends loan? (function <$> Table.lend index : Action σ α β) := by
  intro session
  simp only [Table.lend, Table.storedAt, leads_map, leads_bind, Action.leads_inspect]
  cases here : session.table.slots[index]? with
  | none => trivial
  | some slot =>
      cases slot with
      | empty => trivial
      | tombstone => trivial
      | occupied item =>
          intro loan lent
          rw [same] at lent
          cases lent
          exact ⟨rfl, here⟩

/-- A table stays on the roster while an item of it is on loan. -/
theorem entered
    {action : Action σ α β} {keeps : β → Bool}
    (lends : Lends loan? action)
    (kept : ∀ value, (loan? value).isSome → keeps value) :
    Lends loan? (Action.entered keeps action) := by
  intro session
  by_cases busy : session.table.identity ∈ session.thread.roster
  · exact (Action.leads_entered_of_mem _ _ busy).mpr trivial
  · rw [Action.leads_entered _ _ busy]
    refine (lends session.joined).mono ?_ fun _ _ _ => trivial
    intro value after lent loan isLoan
    have stays := kept value (by rw [isLoan]; rfl)
    rw [if_pos stays]
    exact lent loan isLoan

end Lends

namespace Table.Means

variable {means : Means σ ι α}

theorem lends_insert (means : Means σ ι α) (item : ι) :
    Lends Except.toOption (means.insert item) := by
  refine Lends.entered (.bind (fun result => ?_) _) fun result => by cases result <;> exact id
  cases result with
  | error failure => exact .of_none rfl
  | ok _ =>
      refine .bind (fun result => ?_) _
      rcases result with failure | index | index | _
      · exact .of_none rfl
      · exact .lend (by intro; rfl) index
      · refine .bind (fun copy? => ?_) _
        cases copy? with
        | none => exact .bind (fun _ => .of_none rfl) _
        | some copy => exact .bind (fun _ => .lend (by intro; rfl) index) _
      · exact .bind (fun _ => .of_none rfl) _

theorem lends_find (means : Means σ ι α) (item : ι) : Lends id (means.find? item) := by
  refine Lends.entered (.bind (fun outcome => ?_) _) fun _ => id
  cases outcome with
  | found index => exact .lend (by intro; rfl) index
  | vacant index => exact .of_none rfl
  | missing => exact .of_none rfl

/-! ## Operations by given means -/

/-- Locating and reorganizing uphold a property of sessions, from which another one
follows that foreign code and the changes of single operations uphold. -/
structure Upholds (means : Means σ ι α) (ready holds : Session σ α → Prop) : Prop where
  /-- Locating an item. -/
  locate : ∀ purpose item, OpenAddressing.Upholds ready (means.locate purpose item)
  /-- Moving the items to a new array. -/
  reorganize : ∀ grow, OpenAddressing.Upholds ready (means.reorganize grow)
  /-- The second property follows from the first. -/
  holds_of_ready : ∀ session, ready session → holds session
  /-- Changes of the slots, the counts and the flags. -/
  robust : Session.Robust holds
  /-- The making of copies. -/
  duplicate : ∀ item, (means.behaviour.duplicate item).Upholds holds
  /-- Their release. -/
  release : ∀ copy, (means.behaviour.release copy).Upholds holds
  /-- The question for the memory that they hold. -/
  heapBytes : ∀ copy, (means.behaviour.heapBytes copy).Upholds holds

namespace Upholds

variable {ready holds : Session σ α → Prop} {before : Session σ α}
variable (upholds : means.Upholds ready holds)
include upholds

/-- An attempt to make room that succeeds leaves a table that is ready again. -/
theorem makeRoom_leads (grow : Bool) (start : ready before) :
    Leads (means.makeRoom grow) before
      (fun result after => holds after ∧ (result = .ok () → ready after))
      (fun _ after => holds after) := by
  unfold makeRoom
  rw [leads_bind]
  refine (upholds.reorganize grow before start).mono ?_
    fun _ after => upholds.holds_of_ready after
  rintro (failure | _) after still
  · have flagged := Action.upholds_flag upholds.robust
      (failure.flags ∪ Failure.tableFull.flags) after (upholds.holds_of_ready after still)
    simp only [leads_bind, Action.leads_flag, leads_pure] at flagged ⊢
    exact ⟨flagged, by rintro ⟨⟩⟩
  · exact ⟨upholds.holds_of_ready after still, fun _ => still⟩

theorem relieve_leads (start : ready before) :
    Leads means.relieve before
      (fun result after => holds after ∧ (result = .ok () → ready after))
      (fun _ after => holds after) := by
  unfold relieve
  rw [leads_bind, Action.leads_inspect]
  cases before.table.isCrowded with
  | true => exact upholds.makeRoom_leads false start
  | false => exact ⟨upholds.holds_of_ready before start, fun _ => start⟩

theorem seek_leads (item : ι) (start : ready before) :
    Leads (means.seek item) before
      (fun _ after => holds after)
      (fun _ after => holds after) := by
  have located : ∀ session, ready session →
      Leads (means.locate .insert item) session
        (fun _ after => ready after) (fun _ after => holds after) := fun session start =>
    (upholds.locate .insert item session start).mono (fun _ _ still => still)
      fun _ after => upholds.holds_of_ready after
  unfold seek
  rw [leads_bind]
  refine (located before start).mono ?_ fun _ _ held => held
  rintro (index | index | _) middle still
  · exact upholds.holds_of_ready middle still
  · exact upholds.holds_of_ready middle still
  · rw [leads_bind]
    refine (upholds.makeRoom_leads true still).mono ?_ fun _ _ held => held
    rintro (failure | _) grown ⟨held, again⟩
    · exact held
    · rw [leads_map]
      exact (located grown (again rfl)).mono (fun _ after => upholds.holds_of_ready after)
        fun _ _ held => held

theorem store (item : ι) (index : Nat) :
    OpenAddressing.Upholds holds (store means.behaviour item index) := by
  refine (Action.upholds_call (upholds.duplicate item)).bind fun copy? => ?_
  cases copy? with
  | none => exact (Action.upholds_flag upholds.robust _).bind fun _ => .of_pure _ _
  | some copy =>
      exact (upholds_occupy upholds.robust index copy).bind fun _ =>
        (upholds_lend holds index).map _

/-- What is done with the outcome of a search upholds what was ready for the search. -/
theorem located_leads
    {next : Outcome → Action σ α β}
    (purpose : Purpose)
    (item : ι)
    (upholds' : ∀ outcome, OpenAddressing.Upholds holds (next outcome))
    (start : ready before) :
    Leads (means.locate purpose item >>= next) before
      (fun _ after => holds after)
      (fun _ after => holds after) := by
  rw [leads_bind]
  refine (upholds.locate purpose item before start).mono ?_
    fun _ after => upholds.holds_of_ready after
  intro outcome middle still
  exact upholds' outcome middle (upholds.holds_of_ready middle still)

theorem retainAt
    {keep : α → Call σ Bool}
    (upholds' : ∀ copy, (keep copy).Upholds holds)
    (index : Nat) :
    OpenAddressing.Upholds holds (retainAt means.behaviour keep index) := by
  refine (Action.upholds_inspect holds Table.slots).bind fun slots => ?_
  cases slots[index]? with
  | none => exact .of_throw _ _
  | some slot =>
      cases slot with
      | empty => exact .of_pure _ _
      | tombstone => exact .of_pure _ _
      | occupied copy =>
          refine (Action.upholds_call (upholds' copy)).bind fun kept => ?_
          cases kept with
          | true => exact .of_pure _ _
          | false =>
              refine (upholds_bury upholds.robust index).bind fun _ => ?_
              exact (Action.upholds_call (upholds.release copy)).bind fun _ => .of_pure _ _

variable {session : Session σ α}
variable (free : session.table.identity ∉ session.thread.roster)
variable (start : ready session.joined)
include free start

theorem insert_leads (item : ι) :
    Leads (means.insert item) session
      (fun result after => if result.isOk then holds after else after.Parted holds)
      (fun _ after => after.Parted holds) := by
  refine Action.leads_entered_of_upholds (fun before start => ?_) _ free start
  rw [leads_bind]
  refine (upholds.relieve_leads start).mono ?_ fun _ _ held => held
  rintro (failure | _) relieved ⟨held, still⟩
  · exact held
  · rw [leads_bind]
    refine (upholds.seek_leads item (still rfl)).mono ?_ fun _ _ held => held
    rintro (failure | index | index | _) sought held
    · exact held
    · exact (upholds_lend holds index).map _ sought held
    · exact upholds.store item index sought held
    · exact (Action.upholds_flag upholds.robust _).bind (fun _ => .of_pure _ _) sought held

theorem find_leads (item : ι) :
    Leads (means.find? item) session
      (fun loan? after => if loan?.isSome then holds after else after.Parted holds)
      (fun _ after => after.Parted holds) := by
  refine Action.leads_entered_of_upholds (fun before start => ?_) _ free start
  refine upholds.located_leads .lookup item (fun outcome => ?_) start
  cases outcome with
  | found index => exact (upholds_lend holds index).map _
  | vacant index => exact .of_pure _ _
  | missing => exact .of_pure _ _

theorem findWith_leads
    (item : ι)
    {use : α → Call σ β}
    (upholds' : ∀ copy, (use copy).Upholds holds) :
    Leads (means.findWith item use) session
      (fun _ after => after.Parted holds)
      (fun _ after => after.Parted holds) := by
  refine Action.leads_guarded_of_upholds (fun before start => ?_) free start
  refine upholds.located_leads .lookup item (fun outcome => ?_) start
  cases outcome with
  | found index =>
      exact (upholds_storedAt holds index).bind fun copy =>
        (Action.upholds_call (upholds' copy)).map _
  | vacant index => exact .of_pure _ _
  | missing => exact .of_pure _ _

theorem remove_leads (item : ι) :
    Leads (means.remove item) session
      (fun _ after => after.Parted holds)
      (fun _ after => after.Parted holds) := by
  refine Action.leads_guarded_of_upholds (fun before start => ?_) free start
  refine upholds.located_leads .lookup item (fun outcome => ?_) start
  cases outcome with
  | found index =>
      refine (upholds_storedAt holds index).bind fun copy => ?_
      refine (upholds_bury upholds.robust index).bind fun _ => ?_
      refine (Action.upholds_trace upholds.robust fun _ => rfl).bind fun _ => ?_
      exact (Action.upholds_call (upholds.release copy)).bind fun _ => .of_pure _ _
  | vacant index => exact .of_pure _ _
  | missing => exact .of_pure _ _

/-- What the means of a table and the foreign code of a request uphold holds when the
table leaves the roster, however the request ends. -/
theorem perform_leads
    {request : Request σ ι α β}
    (upholds' : ∀ {γ : Type} {foreign : Call σ γ}, request.Calls foreign →
      foreign.Upholds holds) :
    Leads (means.perform request) session
      (fun _ after => after.Parted holds)
      (fun _ after => after.Parted holds) := by
  have looks : ∀ {γ : Type} {action : Action σ α γ}, OpenAddressing.Upholds holds action →
      Leads (Action.guarded action) session
        (fun _ after => after.Parted holds)
        (fun _ after => after.Parted holds) := fun upholds'' =>
    Action.leads_guarded_of_upholds
      (fun before start => upholds'' before (upholds.holds_of_ready before start)) free start
  cases request with
  | insert item =>
      simp only [perform, leads_bind]
      refine ((upholds.insert_leads free start item).and
        (lends_insert means item session)).mono ?_ fun _ _ parted => parted.1
      rintro (failure | loan) after ⟨ended, lent⟩
      · exact ended
      · rw [leads_map, Request.leads_takeItem (lent loan rfl).1]
        exact ⟨after, ended, rfl⟩
  | find item =>
      simp only [perform, leads_bind]
      refine ((upholds.find_leads free start item).and
        (lends_find means item session)).mono ?_ fun _ _ parted => parted.1
      rintro (_ | loan) after ⟨ended, lent⟩
      · exact ended
      · rw [leads_map, Request.leads_takeItem (lent loan rfl).1]
        exact ⟨after, ended, rfl⟩
  | findWith item use =>
      rw [perform, leads_map]
      exact upholds.findWith_leads free start item fun copy => upholds' (.findWith item use copy)
  | contains item =>
      rw [perform, leads_map, contains, leads_map]
      exact upholds.findWith_leads free start item fun _ _ => .of_pure _ ()
  | remove item =>
      rw [perform, leads_map]
      exact upholds.remove_leads free start item
  | retain keep =>
      simp only [perform, Request.perform, leads_map]
      refine looks ((Action.upholds_inspect holds Table.capacity).bind fun capacity => ?_)
      refine .foldlM (fun removed index => ?_) _ 0
      exact (upholds.retainAt (fun copy => upholds' (.retain keep copy)) index).bind
        fun _ => .of_pure _ _
  | walk visitor =>
      simp only [perform, Request.perform, leads_map]
      refine looks ((Action.upholds_inspect holds Table.items).bind fun items => ?_)
      exact Action.upholds_call fun session =>
        upholds_visit (fun copy => upholds' (.walk visitor copy) session) items
  | length =>
      simp only [perform, Request.perform, leads_map]
      exact looks (Action.upholds_live holds)
  | isEmpty =>
      simp only [perform, Request.perform, isEmpty, leads_map, leads_bind, leads_pure]
      exact looks (Action.upholds_live holds)
  | slotCount =>
      simp only [perform, Request.perform, leads_map]
      exact looks (Action.upholds_inspect holds Table.capacity)
  | statistics =>
      simp only [perform, Request.perform, leads_map]
      refine looks ((Action.upholds_inspect holds id).bind fun table => ?_)
      exact (Action.upholds_live holds).bind fun live => .of_pure _ _
  | clearFlags =>
      simp only [perform, Request.perform, leads_map]
      refine looks ((Action.upholds_inspect holds id).bind fun table => ?_)
      exact .bind (Action.upholds_alter upholds.robust (fun _ => rfl) fun _ => rfl)
        fun _ => .of_pure _ _
  | footprint =>
      simp only [perform, Request.perform, leads_map]
      refine looks ((Action.upholds_inspect holds id).bind fun table => ?_)
      refine .bind (Action.upholds_call fun session => ?_) fun _ => .of_pure _ _
      exact .foldlM (fun total copy =>
        (upholds.heapBytes copy session).bind fun bytes => .of_pure _ _) _ 0

end Upholds
end Table.Means
end OpenAddressing
