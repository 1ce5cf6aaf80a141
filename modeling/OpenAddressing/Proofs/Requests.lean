import OpenAddressing.Proofs.Inserting
import OpenAddressing.Proofs.Removing

/-!
# Requests

A request is one call of an operation, with its arguments.  The caller of a
request ends the loan of an item at once and keeps the item as the answer.  Each
request has one description: how it may end, and how far it has come when it is
cut short.
-/

namespace OpenAddressing

variable {σ ι α β : Type}

/-- One call of an operation. -/
inductive Request (σ ι α β : Type) where
  /-- Stores a copy of an item. -/
  | insert (item : ι)
  /-- Looks up an item. -/
  | find (item : ι)
  /-- Hands an item to foreign code. -/
  | findWith (item : ι) (use : α → Call σ β)
  /-- Asks whether an item is stored. -/
  | contains (item : ι)
  /-- Removes an item. -/
  | remove (item : ι)
  /-- Removes the items that are not to be kept. -/
  | retain (keep : α → Call σ Bool)
  /-- Visits the items until the visitor answers. -/
  | walk (visitor : α → Call σ (Option β))
  /-- Asks for the number of items. -/
  | length
  /-- Asks whether there are no items. -/
  | isEmpty
  /-- Asks for the number of slots. -/
  | slotCount
  /-- Asks for the counts. -/
  | statistics
  /-- Asks for the flags and clears them. -/
  | clearFlags
  /-- Asks for the memory in use. -/
  | footprint

/-- The answer to a request. -/
inductive Answer (ι α β : Type) where
  /-- The stored copy, or why there is none. -/
  | inserted (result : Except Failure α)
  /-- The stored copy, if there is one. -/
  | found (copy? : Option α)
  /-- What foreign code answered, if it did. -/
  | used (value? : Option β)
  /-- The item of the caller, if an equal one was removed. -/
  | removed (item? : Option ι)
  /-- A yes or a no. -/
  | truth (value : Bool)
  /-- A count. -/
  | count (number : Nat)
  /-- The counts of a table. -/
  | statistics (statistics : Statistics)
  /-- Failure flags. -/
  | flags (flags : Flags)

/-- The item of a loan, which is ended. -/
def Loan.takeItem {α : Type} (loan : Loan α) : Action σ α α := do
  Action.call loan.finish
  pure loan.item

namespace Request

/-- Performs a request. -/
def perform (behaviour : Behaviour σ ι α) : Request σ ι α β → Action σ α (Answer ι α β)
  | insert item => do
    match ← Table.insert behaviour item with
    | .error failure => pure (.inserted (.error failure))
    | .ok loan => (fun copy => .inserted (.ok copy)) <$> loan.takeItem
  | find item => do
    match ← Table.find? behaviour item with
    | none => pure (.found none)
    | some loan => (fun copy => .found (some copy)) <$> loan.takeItem
  | findWith item use => .used <$> Table.findWith behaviour item use
  | contains item => .truth <$> Table.contains behaviour item
  | remove item => .removed <$> Table.remove behaviour item
  | retain keep => .count <$> Table.retain behaviour keep
  | walk visitor => .used <$> Table.walk visitor
  | length => .count <$> Table.length
  | isEmpty => .truth <$> Table.isEmpty
  | slotCount => .count <$> Table.slotCount
  | statistics => .statistics <$> Table.statistics
  | clearFlags => .flags <$> Table.clearFlags
  | footprint => .count <$> Table.footprint behaviour

/-- Performs requests one after the other, until one is cut short. -/
def performAll (behaviour : Behaviour σ ι α) :
    List (Request σ ι α β) → Action σ α (List (Answer ι α β))
  | [] => pure []
  | request :: rest => do
    let answer ← request.perform behaviour
    let answers ← performAll behaviour rest
    pure (answer :: answers)

/-- The foreign code of a request may raise the abort. -/
def Raises (abort : Abort) : Request σ ι α β → Prop
  | findWith _ use => ∃ copy, CutBy (use copy) abort
  | retain keep => ∃ copy, CutBy (keep copy) abort
  | walk visitor => ∃ copy, CutBy (visitor copy) abort
  | _ => False

/-- How a request may end, from when the table has joined the roster until it
leaves. -/
inductive Performed (behaviour : Behaviour σ ι α) (before : Session σ α) :
    Request σ ι α β → Answer ι α β → Session σ α → Prop
  | insert {item : ι} {result : Except Failure (Loan α)} {after : Session σ α}
      (inserted : Table.Inserted behaviour item before result after) :
      Performed behaviour before (.insert item) (.inserted (result.map Loan.item)) after
  | find {item : ι} {place : Option (Nat × α)} {after : Session σ α}
      (lookedUp : Table.LookedUp behaviour item before place after) :
      Performed behaviour before (.find item) (.found (place.map Prod.snd)) after
  | findWith {item : ι} {use : α → Call σ β} {value? : Option β} {after : Session σ α}
      (used : Table.Used behaviour item use before value? after) :
      Performed behaviour before (.findWith item use) (.used value?) after
  | contains {item : ι} {value? : Option Unit} {after : Session σ α}
      (used : Table.Used behaviour item (fun _ => pure ()) before value? after) :
      Performed behaviour before (.contains item) (.truth value?.isSome) after
  | remove {item : ι} {item? : Option ι} {after : Session σ α}
      (removed : Table.Removed behaviour item before item? after) :
      Performed behaviour before (.remove item) (.removed item?) after
  | retain {keep : α → Call σ Bool} {number : Nat} {after : Session σ α}
      (retained : Table.Retained behaviour keep before before.table.capacity number after) :
      Performed behaviour before (.retain keep) (.count number) after
  | walk {visitor : α → Call σ (Option β)} {value? : Option β} {thread : Thread σ}
      (visited : Table.visit visitor before.table.items before.thread = .ok value? thread) :
      Performed behaviour before (.walk visitor) (.used value?) { before with thread }
  | length : Performed behaviour before .length (.count before.table.items.length) before
  | isEmpty : Performed behaviour before .isEmpty (.truth before.table.items.isEmpty) before
  | slotCount : Performed behaviour before .slotCount (.count before.table.capacity) before
  | statistics :
      Performed behaviour before .statistics
        (.statistics {
          probes := before.table.tally.probes
          misses := before.table.tally.misses
          entries := before.table.entries
          liveEntries := before.table.items.length
          tombstones := before.table.tombstones
          capacity := before.table.capacity
          flags := before.table.flags
          version := Statistics.currentVersion }) before
  | clearFlags :
      Performed behaviour before .clearFlags (.flags before.table.flags)
        { before with table := { before.table with flags := .none } }
  | footprint {held : Nat} {thread : Thread σ}
      (summed : Table.heapBytes behaviour before.table.items before.thread =
        .ok held thread) :
      Performed behaviour before .footprint
        (.count (before.table.capacity * behaviour.slotBytes + held)) { before with thread }

/-- How far a request has come when it is cut short. -/
inductive PerformedUntil (behaviour : Behaviour σ ι α) (before : Session σ α) :
    Request σ ι α β → Session σ α → Prop
  | insert {item : ι} {after : Session σ α}
      (inserted : Table.InsertedUntil behaviour item before after) :
      PerformedUntil behaviour before (.insert item) after
  | find {item : ι} {after : Session σ α}
      (searched : before.Searched behaviour after) :
      PerformedUntil behaviour before (.find item) after
  | findWith {item : ι} {use : α → Call σ β} {after : Session σ α}
      (used : Table.UsedUntil behaviour item use before after) :
      PerformedUntil behaviour before (.findWith item use) after
  | contains {item : ι} {after : Session σ α}
      (searched : before.Searched behaviour after) :
      PerformedUntil behaviour before (.contains item) after
  | remove {item : ι} {after : Session σ α}
      (removed : Table.RemovedUntil behaviour item before after) :
      PerformedUntil behaviour before (.remove item) after
  | retain {keep : α → Call σ Bool} {after : Session σ α}
      (retained : Table.RetainedUntil behaviour keep before after) :
      PerformedUntil behaviour before (.retain keep) after
  | walk {visitor : α → Call σ (Option β)} {abort : Abort} {thread : Thread σ}
      (visited : Table.visit visitor before.table.items before.thread = .error abort thread) :
      PerformedUntil behaviour before (.walk visitor) { before with thread }
  | footprint {abort : Abort} {thread : Thread σ}
      (summed : Table.heapBytes behaviour before.table.items before.thread =
        .error abort thread) :
      PerformedUntil behaviour before .footprint { before with thread }

variable {behaviour : Behaviour σ ι α} {before after : Session σ α}
variable {returned : α → Session σ α → Prop} {aborted : Abort → Session σ α → Prop}

/-- When the loan of an item ends, the table leaves the roster. -/
theorem leads_takeItem
    {loan : Loan α}
    (lent : loan.identity = before.table.identity) :
    Leads loan.takeItem before returned aborted ↔ returned loan.item before.leave := by
  obtain ⟨table, thread, journal⟩ := before
  obtain ⟨identity, index, item⟩ := loan
  obtain rfl : identity = table.identity := lent
  exact Iff.rfl

/-- The loan of an insertion is that of the table. -/
theorem identity_of_inserted
    {item : ι} {loan : Loan α}
    (inserted : Table.Inserted behaviour item before (.ok loan) after) :
    loan.identity = after.table.identity := by
  cases inserted with
  | present => rfl
  | stored => rw [Session.traced_table]; rfl

/-- A request to a sound table that is not on the roster ends in one of the
described ways. -/
theorem perform_leads
    (sound : before.table.Sound)
    (free : before.table.identity ∉ before.thread.roster)
    (request : Request σ ι α β) :
    Leads (request.perform behaviour) before
      (fun answer after => ∃ done, Performed behaviour before.joined request answer done ∧
        after = done.leave)
      (fun abort after => (behaviour.Raises abort ∨ request.Raises abort) ∧
        ∃ done, PerformedUntil behaviour before.joined request done ∧ after = done.leave) := by
  cases request with
  | insert item =>
      simp only [perform, leads_bind]
      refine (Table.insert_leads sound free item).mono ?_ ?_
      · rintro (failure | loan) after ⟨done, inserted, isDone⟩
        · exact ⟨done, .insert inserted, isDone⟩
        · obtain rfl : after = done := isDone
          simp only [leads_map]
          rw [leads_takeItem (identity_of_inserted inserted)]
          exact ⟨after, .insert inserted, rfl⟩
      · rintro abort after ⟨raises, done, inserted, rfl⟩
        exact ⟨Or.inl raises, done, .insert inserted, rfl⟩
  | find item =>
      simp only [perform, leads_bind]
      refine (Table.find_leads sound free item).mono ?_ ?_
      · rintro loan? after ⟨(_ | ⟨index, copy⟩), done, lookedUp, rfl, isDone⟩
        · exact ⟨done, .find lookedUp, isDone⟩
        · obtain rfl : after = done := isDone
          simp only [Option.map_some, leads_map]
          rw [leads_takeItem rfl]
          exact ⟨after, .find lookedUp, rfl⟩
      · rintro abort after ⟨raises, done, searched, rfl⟩
        exact ⟨Or.inl raises, done, .find searched, rfl⟩
  | findWith item use =>
      simp only [perform, leads_map]
      refine (Table.findWith_leads sound free item use).mono ?_ ?_
      · rintro value? after ⟨done, used, rfl⟩
        exact ⟨done, .findWith used, rfl⟩
      · rintro abort after ⟨raises, done, used, rfl⟩
        exact ⟨raises, done, .findWith used, rfl⟩
  | contains item =>
      simp only [perform, Table.contains, leads_map]
      refine (Table.findWith_leads sound free item fun _ => pure ()).mono ?_ ?_
      · rintro value? after ⟨done, used, rfl⟩
        exact ⟨done, .contains used, rfl⟩
      · rintro abort after ⟨raises | ⟨copy, thread, thread', run⟩, done, used, rfl⟩
        · cases used with
          | searching searched => exact ⟨Or.inl raises, done, .contains searched, rfl⟩
          | during _ raised => cases raised
        · cases run
  | remove item =>
      simp only [perform, leads_map]
      refine (Table.remove_leads sound free item).mono ?_ ?_
      · rintro item? after ⟨done, removed, rfl⟩
        exact ⟨done, .remove removed, rfl⟩
      · rintro abort after ⟨raises, done, removed, rfl⟩
        exact ⟨Or.inl raises, done, .remove removed, rfl⟩
  | retain keep =>
      simp only [perform, leads_map]
      refine (Table.retain_leads free keep).mono ?_ ?_
      · rintro number after ⟨done, retained, rfl⟩
        exact ⟨done, .retain retained, rfl⟩
      · rintro abort after ⟨raises, done, retained, rfl⟩
        exact ⟨raises, done, .retain retained, rfl⟩
  | walk visitor =>
      simp only [perform, leads_map]
      refine (Table.walk_leads free visitor).mono ?_ ?_
      · rintro value? after ⟨thread, visited, rfl⟩
        exact ⟨_, .walk visited, rfl⟩
      · rintro abort after ⟨thread, visited, rfl, copy, _, cut⟩
        exact ⟨Or.inr ⟨copy, cut⟩, _, .walk visited, rfl⟩
  | length =>
      simp only [perform, leads_map, Table.leads_length sound free]
      exact ⟨before.joined, .length, before.leave_joined.symm⟩
  | isEmpty =>
      simp only [perform, leads_map, Table.leads_isEmpty sound free]
      exact ⟨before.joined, .isEmpty, before.leave_joined.symm⟩
  | slotCount =>
      simp only [perform, Table.slotCount, leads_map, Table.leads_guarded_inspect free]
      exact ⟨before.joined, .slotCount, before.leave_joined.symm⟩
  | statistics =>
      simp only [perform, leads_map, Table.leads_statistics sound free]
      exact ⟨before.joined, .statistics, before.leave_joined.symm⟩
  | clearFlags =>
      simp only [perform, leads_map, Table.leads_clearFlags free]
      refine ⟨_, .clearFlags, ?_⟩
      simp only [Session.joined, Session.leave, Roster.leave_join]
  | footprint =>
      simp only [perform, leads_map]
      refine (Table.footprint_leads free).mono ?_ ?_
      · rintro bytes after ⟨held, thread, summed, rfl, rfl⟩
        exact ⟨_, .footprint summed, rfl⟩
      · rintro abort after ⟨raises, thread, summed, rfl⟩
        exact ⟨Or.inl raises, _, .footprint summed, rfl⟩

/-- A request to a table that is on the roster is refused and changes nothing. -/
theorem perform_of_mem
    (busy : before.table.identity ∈ before.thread.roster)
    (request : Request σ ι α β) :
    request.perform behaviour before = .error .reentered before := by
  have refused : ∀ {γ : Type} (keeps : γ → Bool) (action : Action σ α γ),
      Action.entered keeps action before = .error .reentered before := fun keeps action =>
    Action.entered_of_mem keeps action busy
  cases request <;>
    simp [perform, Table.insert, Table.find?, Table.findWith, Table.contains, Table.remove,
      Table.retain, Table.walk, Table.length, Table.isEmpty, Table.slotCount,
      Table.statistics, Table.clearFlags, Table.footprint, Action.guarded, refused,
      bind, EStateM.bind, Functor.map, EStateM.map]

/-- Any run of a request to a sound table was refused, has returned, or was cut
short. -/
theorem performed_of_passes
    {request : Request σ ι α β}
    (sound : before.table.Sound)
    (run : Passes (request.perform behaviour) before after) :
    after = before ∨ ∃ done, after = done.leave ∧
      ((∃ answer, Performed behaviour before.joined request answer done) ∨
        PerformedUntil behaviour before.joined request done) := by
  by_cases busy : before.table.identity ∈ before.thread.roster
  · have refused : request.perform behaviour before = _ := perform_of_mem busy request
    rw [Passes, refused] at run
    rcases run with ⟨_, run⟩ | ⟨_, run⟩ <;> cases run
    exact Or.inl rfl
  · have leads : Leads (request.perform behaviour) before _ _ :=
      perform_leads sound busy request
    rcases run with ⟨answer, run⟩ | ⟨abort, run⟩
    · obtain ⟨done, performed, left⟩ := leads.of_ok run
      exact Or.inr ⟨done, left, Or.inl ⟨answer, performed⟩⟩
    · obtain ⟨_, done, performed, left⟩ := leads.of_error run
      exact Or.inr ⟨done, left, Or.inr performed⟩

end Request
end OpenAddressing
