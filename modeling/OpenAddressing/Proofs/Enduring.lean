import OpenAddressing.Proofs.Reachable

/-!
# Runs that go on

A caller may go on with a table after a request was cut short.  In such a run
every request has an outcome, an answer or an abort, and the table is reachable
after each of them.  The foreign code of a run need not keep to anything: the
fickle behaviour of this module answers by its mood, refuses memory, and is cut
short again and again.
-/

namespace OpenAddressing

variable {σ ι α β : Type}

namespace Request

/-- Performs requests one after the other.  A request that is cut short leaves
its abort, and the next one is performed. -/
def performEach (behaviour : Behaviour σ ι α) :
    List (Request σ ι α β) → Session σ α →
      List (Except Abort (Answer ι α β)) × Session σ α
  | [], session => ([], session)
  | request :: rest, session =>
    match request.perform behaviour session with
    | .ok answer after =>
      Prod.map (List.cons (.ok answer)) id (performEach behaviour rest after)
    | .error abort after =>
      Prod.map (List.cons (.error abort)) id (performEach behaviour rest after)

/-- What every single request keeps, however it ends, is kept by a run. -/
theorem performEach_keeps
    {behaviour : Behaviour σ ι α}
    {holds : Session σ α → Prop}
    {requests : List (Request σ ι α β)}
    (kept : ∀ request ∈ requests, ∀ before after,
      Passes (request.perform behaviour) before after → holds before → holds after)
    {before : Session σ α}
    (start : holds before) :
    holds (performEach behaviour requests before).2 := by
  induction requests generalizing before with
  | nil => exact start
  | cons request rest inductionHypothesis =>
      have first := kept request List.mem_cons_self before
      have later : ∀ after, holds after → holds (performEach behaviour rest after).2 :=
        fun _ => inductionHypothesis fun request member =>
          kept request (List.mem_cons_of_mem _ member)
      unfold performEach
      cases run : request.perform behaviour before with
      | ok answer after => exact later after (first after (Or.inl ⟨answer, run⟩) start)
      | error abort after => exact later after (first after (Or.inr ⟨abort, run⟩) start)

end Request

/-- A run leads from a reachable table to a reachable one. -/
theorem Behaviour.Reachable.performEach
    {behaviour : Behaviour σ ι α} {before : Session σ α}
    (reachable : behaviour.Reachable before.table)
    (requests : List (Request σ ι α β)) :
    behaviour.Reachable (Request.performEach behaviour requests before).2.table := by
  have kept : ∀ request ∈ requests, ∀ before after,
      Passes (request.perform behaviour) before after →
        behaviour.Reachable before.table → behaviour.Reachable after.table := by
    intro request _ before after run reachable
    exact .performed request before.thread before.journal reachable run
  exact Request.performEach_keeps kept reachable

/-! ## Foreign code that keeps to nothing -/

/-- A call that answers by the number of calls so far.  Every ninth call is cut
short. -/
def Call.moody (answer : Nat → β) : Call Nat β := do
  let calls ← Call.onHost fun calls => (calls + 1, calls + 1)
  if calls % 9 = 0 then
    Call.raise "out of temper"
  else
    pure (answer calls)

/-- Numbers whose hashes change from call to call, and of which any two may be
equal at one time and different at another.  Every seventh copy and every third
array is refused. -/
def Behaviour.fickle : Behaviour Nat Nat Nat where
  key := id
  hash _ := Call.moody fun calls => UInt64.ofNat (calls / 2)
  rehash _ := Call.moody fun calls => UInt64.ofNat calls
  compare _ _ := Call.moody fun calls => if calls % 4 = 0 then .eq else .lt
  duplicate number := Call.moody fun calls => if calls % 7 = 0 then none else some number
  release _ := Call.moody fun _ => ()
  heapBytes _ := Call.moody id
  slotBytes := 1
  slotBytes_pos := Nat.one_pos
  reserve _ calls := (calls % 3 != 0, calls)

/-- Requests that wear a table out if foreign code is fickle: some are refused and
some are cut short. -/
def Behaviour.wearing : List (Request Nat Nat Nat Unit) :=
  [.insert 1, .insert 2, .insert 3, .insert 4, .insert 5, .remove 2, .remove 1, .insert 6,
    .insert 7, .insert 8, .insert 9, .retain fun number => pure (number % 2 == 0), .insert 10,
    .insert 11]

/-- A table that fickle foreign code has worn out.  Its load is at the
threshold. -/
def Behaviour.wornTable : Table Nat :=
  (Request.performEach Behaviour.fickle Behaviour.wearing
    ⟨{ identity := 0, settings := { initialCapacity := 8 }, slots := Slot.row Nat 8 },
      { host := 0 }, []⟩).2.table

theorem Behaviour.reachable_wornTable : Behaviour.fickle.Reachable Behaviour.wornTable := by
  unfold wornTable
  apply Behaviour.Reachable.performEach
  exact .created { initialCapacity := 8 } 0 1 rfl

end OpenAddressing
