import OpenAddressing.Proofs.Upholding

/-!
# What is upheld of the thread

A table changes its thread only by calling foreign code, by asking the host for memory,
and by entering and leaving the roster.  So a property of the thread that foreign code
and questions about memory uphold is upheld by every function of a table from when it
has joined the roster until it leaves, in whatever state the table is.
-/

namespace OpenAddressing

open Relocation (slotAt)
open Probe (Counting Course Purpose Terrain)

variable {τ β γ : Type}

/-! ## Searches -/

namespace Probe

variable {holds : τ → Prop} {terrain : Terrain τ}

theorem Counting.upholds_lift
    {computation : EStateM Abort τ β}
    (upholds : Upholds holds computation) :
    Upholds (fun state => holds state.2) (Counting.lift computation) := by
  rintro ⟨tally, state⟩ start
  have leads := upholds state start
  unfold Leads Counting.lift at *
  cases run : computation state <;> simp only [run] at leads ⊢ <;> exact leads

theorem Counting.upholds_count (holds : τ → Prop) (change : Tally → Tally) :
    Upholds (fun state => holds state.2) (Counting.count change) :=
  fun _ start => start

namespace Terrain

/-- What the secondary hash upholds, a step to the next slot upholds. -/
theorem upholds_advance (rehash : Upholds holds terrain.rehash) (course : Course) :
    Upholds (fun state => holds state.2) (terrain.advance course) := by
  have strideOf : Upholds (fun state => holds state.2) (terrain.strideOf course) := by
    unfold strideOf
    cases course.stride with
    | some stride => exact .of_pure _ stride
    | none => exact (Counting.upholds_lift rehash).bind fun _ => .of_pure _ _
  refine strideOf.bind fun stride => ?_
  refine (Counting.upholds_count holds Tally.miss).bind fun _ => ?_
  split
  · exact .of_pure _ _
  · exact .of_throw _ _

/-- What the looks at slots uphold as well, a whole course upholds. -/
theorem upholds_follow
    (rehash : Upholds holds terrain.rehash)
    (visit : ∀ index, Upholds holds (terrain.visit index))
    (purpose : Purpose)
    (remaining : Nat)
    (course : Course) :
    Upholds (fun state => holds state.2) (terrain.follow purpose remaining course) := by
  induction remaining generalizing course with
  | zero => exact .of_pure _ course.exhaust
  | succ remaining inductionHypothesis =>
      have look : Upholds (fun state => holds state.2) (terrain.look course) :=
        (Counting.upholds_count holds Tally.probe).bind fun _ =>
          Counting.upholds_lift (visit course.index)
      refine look.bind fun sighting => ?_
      have goesOn : ∀ noted : Course, Upholds (fun state => holds state.2)
          (if remaining = 0 then pure noted.exhaust else do
            let course ← terrain.advance noted
            terrain.follow purpose remaining course) := by
        intro noted
        split
        · exact .of_pure _ _
        · exact (upholds_advance rehash noted).bind inductionHypothesis
      cases sighting with
      | empty => exact .of_pure _ _
      | equal => exact .of_pure _ _
      | tombstone => exact goesOn _
      | different => exact goesOn _

/-- So does a search. -/
theorem upholds_search
    (rehash : Upholds holds terrain.rehash)
    (visit : ∀ index, Upholds holds (terrain.visit index))
    (purpose : Purpose)
    (hash : UInt64) :
    Upholds (fun state => holds state.2) (terrain.search purpose hash) :=
  upholds_follow rehash visit purpose _ _

end Terrain
end Probe

/-! ## Threads -/

variable {σ ι α : Type} {behaviour : Behaviour σ ι α}

/-- The foreign code of a behaviour and its questions about memory uphold a property of
the thread. -/
structure Behaviour.Upholds (behaviour : Behaviour σ ι α) (holds : Thread σ → Prop) :
    Prop where
  /-- So does foreign code. -/
  calls : ∀ {β : Type} {foreign : Call σ β}, behaviour.Calls foreign →
    OpenAddressing.Upholds holds foreign
  /-- So do questions about memory. -/
  reserve : ∀ bytes thread, holds thread →
    holds { thread with host := (behaviour.reserve bytes thread.host).2 }

/-- The table of the session has an identity and its thread a property. -/
def Session.Under (identity : Nat) (holds : Thread σ → Prop) (session : Session σ α) : Prop :=
  session.table.identity = identity ∧ holds session.thread

variable {identity : Nat} {holds : Thread σ → Prop}

theorem Session.robust_under (identity : Nat) (holds : Thread σ → Prop) :
    Session.Robust (Session.Under identity holds : Session σ α → Prop) where
  alter same _ start := ⟨same.trans start.1, start.2⟩
  report _ start := start

/-- What foreign code upholds of the thread, it upholds in a session. -/
theorem Upholds.under
    {foreign : Call σ β}
    (upholds : Upholds holds foreign) :
    foreign.Upholds (Session.Under identity holds : Session σ α → Prop) := by
  rintro session thread ⟨same, start⟩
  exact (upholds thread start).mono (fun _ _ held => ⟨same, held⟩) fun _ _ held => ⟨same, held⟩

namespace Action

theorem upholds_report (event : Event) :
    Upholds (Session.Under identity holds) (report event : Action σ α Unit) :=
  fun _ start => start

theorem upholds_onHost
    {change : σ → β × σ}
    (upholds : ∀ thread, holds thread →
      holds { thread with host := (change thread.host).2 }) :
    Upholds (Session.Under identity holds) (onHost change : Action σ α β) :=
  fun session start => ⟨start.1, upholds session.thread start.2⟩

theorem upholds_searching
    {search : Array (Slot α) → Counting (Thread σ) β}
    (upholds : ∀ slots, Upholds (fun state => holds state.2) (search slots)) :
    Upholds (Session.Under identity holds) (searching search) := by
  intro session start
  rw [leads_searching]
  exact (upholds _ (session.table.tally, session.thread) start.2).mono
    (fun _ _ held => ⟨start.1, held⟩) fun _ _ held => ⟨start.1, held⟩

end Action

/-- The thread of the relocation has a property. -/
def Relocation.Under (holds : Thread σ → Prop) (relocation : Relocation σ α) : Prop :=
  holds relocation.thread

namespace Relocation

theorem upholds_call
    {foreign : Call σ β}
    (upholds : Upholds holds foreign) :
    Upholds (Under holds) (call foreign : Step σ α β) := by
  intro relocation start
  rw [leads_call]
  exact upholds relocation.thread start

theorem upholds_searching
    {search : Array (Slot α) → Counting (Thread σ) β}
    (upholds : ∀ slots, Upholds (fun state => holds state.2) (search slots)) :
    Upholds (Under holds) (searching search) := by
  intro relocation start
  rw [leads_searching]
  exact upholds _ (relocation.tally, relocation.thread) start

theorem upholds_move (item : α) (origin destination : Nat) :
    Upholds (Under holds) (move item origin destination : Step σ α Unit) := by
  rintro ⟨source, target, moves, room, tally, thread⟩ start
  unfold Leads move
  by_cases outside : target.size ≤ destination
  · simp only [if_pos outside]
    exact start
  · simp only [if_neg outside]
    cases room <;> exact start

end Relocation

namespace Behaviour.Upholds

variable (upholds : behaviour.Upholds holds)
include upholds

/-! ## Searching, moving and reorganizing -/

theorem search
    (item : ι)
    (slots : Array (Slot α))
    (purpose : Purpose)
    (hash : UInt64) :
    OpenAddressing.Upholds (fun state => holds state.2)
      ((Table.terrain behaviour item slots).search purpose hash) := by
  refine Terrain.upholds_search (upholds.calls (.rehash item)) (fun index => ?_) purpose hash
  unfold Table.terrain
  simp only
  cases slots[index]? with
  | none => exact .of_throw _ _
  | some slot =>
      cases slot with
      | empty => exact .of_pure _ _
      | tombstone => exact .of_pure _ _
      | occupied stored =>
          exact (upholds.calls (.compare (behaviour.key stored) item)).map _

theorem locate (purpose : Purpose) (item : ι) :
    OpenAddressing.Upholds (Session.Under identity holds)
      (Table.locate behaviour purpose item) := by
  refine (Action.upholds_call (upholds.calls (.hash item)).under).bind fun hash => ?_
  exact Action.upholds_searching fun slots => upholds.search item slots purpose hash

theorem place (origin : Nat) :
    OpenAddressing.Upholds (Relocation.Under holds) (Relocation.place behaviour origin) := by
  refine (OpenAddressing.Upholds.of_get _).bind fun relocation => ?_
  cases slotAt relocation.source origin with
  | empty => exact .of_pure _ ()
  | tombstone => exact .of_pure _ ()
  | occupied item =>
      refine (Relocation.upholds_call (upholds.calls (.hash _))).bind fun hash => ?_
      refine (Relocation.upholds_searching fun slots =>
        upholds.search _ slots .insert hash).bind fun outcome => ?_
      cases outcome with
      | found index => exact .of_pure _ ()
      | missing => exact .of_pure _ ()
      | vacant destination => exact Relocation.upholds_move item origin destination

/-- Whatever comes of a relocation, the thread is the one that it ends with. -/
theorem relocate (target : Array (Slot α)) (live : Nat) (reclaim : Bool) :
    OpenAddressing.Upholds (Session.Under identity holds)
      (Table.relocate behaviour target live reclaim) := by
  rintro ⟨table, thread, journal⟩ ⟨same, start⟩
  have placeAll : OpenAddressing.Upholds (Relocation.Under holds)
      (Relocation.placeAll behaviour) :=
    (OpenAddressing.Upholds.of_get _).bind fun relocation =>
      OpenAddressing.Upholds.forM fun origin _ => upholds.place origin
  unfold Leads Table.relocate
  simp only
  generalize run : Relocation.placeAll behaviour _ = ending
  cases ending with
  | error abort relocation =>
      exact ⟨same, placeAll.passes (Or.inr ⟨abort, run⟩) start⟩
  | ok value relocation =>
      have held := placeAll.passes (Or.inl ⟨value, run⟩) start
      unfold Table.conclude
      by_cases all : relocation.moves.length = live
      · simp only [if_pos all]
        exact ⟨same, held⟩
      · simp only [if_neg all]
        exact ⟨same, held⟩

theorem slots (count : Nat) (thread : Thread σ) (start : holds thread) :
    holds { thread with host := (behaviour.slots count thread.host).2 } := by
  unfold Behaviour.slots
  split
  · exact upholds.reserve _ thread start
  · exact start

theorem moveLog (count : Nat) (thread : Thread σ) (start : holds thread) :
    holds { thread with host := (behaviour.moveLog count thread.host).2 } := by
  unfold Behaviour.moveLog
  split
  · exact start
  · split
    · exact upholds.reserve _ thread start
    · exact start

theorem reorganize (grow : Bool) :
    OpenAddressing.Upholds (Session.Under identity holds)
      (Table.reorganize behaviour grow) := by
  refine (Action.upholds_inspect _ id).bind fun table => ?_
  refine (Action.upholds_live _).bind fun live => ?_
  simp only
  cases table.target? (table.reclaims live grow) with
  | none => exact (Action.upholds_report _).bind fun _ => .of_pure _ _
  | some capacity =>
      refine (Action.upholds_onHost (upholds.slots capacity)).bind fun granted => ?_
      cases granted with
      | none => exact (Action.upholds_report _).bind fun _ => .of_pure _ _
      | some target =>
          refine (Action.upholds_onHost (upholds.moveLog live)).bind fun listed => ?_
          cases listed with
          | false => exact .of_pure _ _
          | true => exact upholds.relocate target live _

/-- By its own means, a table upholds what its foreign code upholds of the thread. -/
theorem means (identity : Nat) :
    behaviour.means.Upholds (Session.Under identity holds) (Session.Under identity holds) where
  locate := upholds.locate
  reorganize := upholds.reorganize
  holds_of_ready _ start := start
  robust := Session.robust_under identity holds
  duplicate item := (upholds.calls (.duplicate item)).under
  release copy := (upholds.calls (.release copy)).under
  heapBytes copy := (upholds.calls (.heapBytes copy)).under

end Behaviour.Upholds

/-- What the foreign code of a request to a table upholds holds when the table leaves
the roster, however the request ends. -/
theorem Request.perform_leads_of_upholds
    {session : Session σ α} {request : Request σ ι α β}
    (upholds : behaviour.Upholds holds)
    (upholds' : ∀ {γ : Type} {foreign : Call σ γ}, request.Calls foreign →
      Upholds holds foreign)
    (free : session.table.identity ∉ session.thread.roster)
    (start : holds session.joined.thread) :
    Leads (request.perform behaviour) session
      (fun _ after => after.Parted (Session.Under session.table.identity holds))
      (fun _ after => after.Parted (Session.Under session.table.identity holds)) := by
  rw [← behaviour.perform_means]
  exact (upholds.means _).perform_leads free ⟨rfl, start⟩ fun calls => (upholds' calls).under

end OpenAddressing
