import OpenAddressing.Proofs.Preserving
import OpenAddressing.Table.Find
import OpenAddressing.Table.Statistics

/-!
# Looking up, visiting and counting

The operations of this module leave the slots and the counts of a table as they
are.  A look-up either finds an occupied slot or comes to nothing.  The answers
to questions about the table are read off its items and its counts.
-/

namespace OpenAddressing

open Relocation (slotAt)
open Probe (Outcome)

variable {σ ι α β : Type} {behaviour : Behaviour σ ι α}
variable {before mid after : Session σ α} {item : ι} {copy : α} {index : Nat}
variable {returned : β → Session σ α → Prop} {aborted : Abort → Session σ α → Prop}

@[simp] theorem Session.leave_joined (session : Session σ α) :
    session.joined.leave = session := by
  unfold joined leave
  simp

namespace Table

/-! ## Look-ups -/

/-- How a look-up may end: with a slot and its item, or with nothing. -/
inductive LookedUp
    (behaviour : Behaviour σ ι α)
    (item : ι)
    (before : Session σ α) : Option (Nat × α) → Session σ α → Prop
  | absent {after : Session σ α}
      (searched : before.Searched behaviour after)
      (missing : behaviour.Locates before.table.slots .lookup item .missing) :
      LookedUp behaviour item before none after
  | present {index : Nat} {copy : α} {after : Session σ α}
      (searched : before.Searched behaviour after)
      (found : behaviour.Locates before.table.slots .lookup item (.found index))
      (stored : slotAt before.table.slots index = .occupied copy) :
      LookedUp behaviour item before (some (index, copy)) after

namespace LookedUp

theorem searched {place : Option (Nat × α)}
    (lookedUp : LookedUp behaviour item before place after) :
    before.Searched behaviour after := by
  cases lookedUp with
  | absent searched => exact searched
  | present searched => exact searched

theorem stored (lookedUp : LookedUp behaviour item before (some (index, copy)) after) :
    slotAt after.table.slots index = .occupied copy := by
  cases lookedUp with
  | present searched _ stored => rwa [searched.slots]

end LookedUp

/-- A program that begins with a look-up is described by what it does with the
two outcomes.  A look-up is never told of a vacancy. -/
theorem leads_locate_lookup
    (sound : before.table.Sound)
    {next : Outcome → Action σ α β}
    (onMissing : ∀ after, LookedUp behaviour item before none after →
      Leads (next .missing) after returned aborted)
    (onFound : ∀ index copy after, LookedUp behaviour item before (some (index, copy)) after →
      Leads (next (.found index)) after returned aborted)
    (onAbort : ∀ abort after, behaviour.Raises abort → before.Searched behaviour after →
      aborted abort after) :
    Leads (locate behaviour .lookup item >>= next) before returned aborted := by
  rw [leads_bind]
  refine (locate_leads sound.small .lookup item).mono ?_ ?_
  · rintro (index | index | _) after ⟨searched, locates⟩
    · obtain ⟨copy, stored⟩ := locates.stored_of_found
      exact onFound index copy after (.present searched locates stored)
    · exact absurd locates.free_of_vacant.1 (by simp)
    · exact onMissing after (.absent searched locates)
  · rintro abort after ⟨raises, searched⟩
    exact onAbort abort after raises searched

/-- The loan of the item that was looked up. -/
def loanOf (table : Table α) : Nat × α → Loan α
  | (index, copy) => { identity := table.identity, index, item := copy }

theorem find_leads
    (sound : before.table.Sound)
    (free : before.table.identity ∉ before.thread.roster)
    (item : ι) :
    Leads (find? behaviour item) before
      (fun loan? after => ∃ place done, LookedUp behaviour item before.joined place done ∧
        loan? = place.map done.table.loanOf ∧
        after = if place.isSome then done else done.leave)
      (fun abort after => behaviour.Raises abort ∧
        ∃ done, before.joined.Searched behaviour done ∧ after = done.leave) := by
  have sound' : before.joined.table.Sound := sound
  unfold find?
  rw [Action.leads_entered _ _ free]
  refine leads_locate_lookup sound' ?_ ?_ ?_
  · intro after lookedUp
    exact ⟨none, after, lookedUp, rfl, rfl⟩
  · intro index copy after lookedUp
    rw [leads_map, leads_lend lookedUp.stored]
    exact ⟨some (index, copy), after, lookedUp, rfl, rfl⟩
  · intro abort after raises searched
    exact ⟨raises, after, searched, rfl⟩

/-- How the use of an item by foreign code may end. -/
inductive Used
    (behaviour : Behaviour σ ι α)
    (item : ι)
    (use : α → Call σ β)
    (before : Session σ α) : Option β → Session σ α → Prop
  | absent {after : Session σ α}
      (lookedUp : LookedUp behaviour item before none after) :
      Used behaviour item use before none after
  | used {index : Nat} {copy : α} {ready : Session σ α} {value : β} {thread : Thread σ}
      (lookedUp : LookedUp behaviour item before (some (index, copy)) ready)
      (run : use copy ready.thread = .ok value thread) :
      Used behaviour item use before (some value) { ready with thread }

/-- How far the use of an item has come when it is cut short. -/
inductive UsedUntil
    (behaviour : Behaviour σ ι α)
    (item : ι)
    (use : α → Call σ β)
    (before : Session σ α) : Session σ α → Prop
  | searching {after : Session σ α}
      (searched : before.Searched behaviour after) :
      UsedUntil behaviour item use before after
  | during {index : Nat} {copy : α} {ready : Session σ α} {abort : Abort} {thread : Thread σ}
      (lookedUp : LookedUp behaviour item before (some (index, copy)) ready)
      (raised : use copy ready.thread = .error abort thread) :
      UsedUntil behaviour item use before { ready with thread }

theorem Used.intact
    {use : α → Call σ β} {value? : Option β}
    (used : Used behaviour item use before value? after)
    (intact : before.table.Intact behaviour) :
    after.table.Intact behaviour := by
  cases used with
  | absent lookedUp => exact lookedUp.searched.preserves.intact intact
  | used lookedUp => exact (lookedUp.searched.preserves.intact intact).congr rfl rfl rfl

theorem Used.identity
    {use : α → Call σ β} {value? : Option β}
    (used : Used behaviour item use before value? after) :
    after.table.identity = before.table.identity := by
  cases used with
  | absent lookedUp => exact lookedUp.searched.identity
  | used lookedUp => exact lookedUp.searched.identity

theorem UsedUntil.intact
    {use : α → Call σ β}
    (used : UsedUntil behaviour item use before after)
    (intact : before.table.Intact behaviour) :
    after.table.Intact behaviour := by
  cases used with
  | searching searched => exact searched.preserves.intact intact
  | during lookedUp => exact (lookedUp.searched.preserves.intact intact).congr rfl rfl rfl

theorem findWith_leads
    (sound : before.table.Sound)
    (free : before.table.identity ∉ before.thread.roster)
    (item : ι)
    (use : α → Call σ β) :
    Leads (findWith behaviour item use) before
      (fun value? after => ∃ done, Used behaviour item use before.joined value? done ∧
        after = done.leave)
      (fun abort after => (behaviour.Raises abort ∨ ∃ copy, CutBy (use copy) abort) ∧
        ∃ done, UsedUntil behaviour item use before.joined done ∧ after = done.leave) := by
  have sound' : before.joined.table.Sound := sound
  unfold findWith Action.guarded
  rw [Action.leads_entered _ _ free]
  refine leads_locate_lookup sound' ?_ ?_ ?_
  · intro after lookedUp
    exact ⟨after, .absent lookedUp, rfl⟩
  · intro index copy ready lookedUp
    simp only [leads_bind, leads_storedAt lookedUp.stored, leads_map, Action.leads_call]
    refine (leads_self _ ready.thread).mono ?_ ?_
    · intro value thread run
      exact ⟨_, .used lookedUp run, rfl⟩
    · intro abort thread run
      exact ⟨Or.inr ⟨copy, _, _, run⟩, _, .during lookedUp run, rfl⟩
  · intro abort after raises searched
    exact ⟨Or.inl raises, after, .searching searched, rfl⟩

/-! ## Visits -/

/-- A visit keeps what the visitor keeps. -/
theorem keeps_visit
    {ν : Type} {view : Thread σ → ν} {visitor : α → Call σ (Option β)}
    (keeps : ∀ copy, Keeps view (visitor copy))
    (items : List α) :
    Keeps view (visit visitor items) := by
  induction items with
  | nil => exact .of_pure view none
  | cons item rest inductionHypothesis =>
      refine (keeps item).bind fun answer? => ?_
      cases answer? with
      | none => exact inductionHypothesis
      | some answer => exact .of_pure view (some answer)

/-- A visit is cut short only by the visitor. -/
theorem visit_leads (visitor : α → Call σ (Option β)) (items : List α) (thread : Thread σ) :
    Leads (visit visitor items) thread
      (fun answer after => visit visitor items thread = .ok answer after)
      (fun abort after => visit visitor items thread = .error abort after ∧
        ∃ copy ∈ items, CutBy (visitor copy) abort) := by
  refine ((leads_self _ thread).and (?_ : Leads (visit visitor items) thread
    (fun _ _ => True) fun abort _ => ∃ copy ∈ items, CutBy (visitor copy) abort)).mono
      (fun _ _ both => both.1) fun _ _ both => both
  induction items generalizing thread with
  | nil => trivial
  | cons item rest inductionHypothesis =>
      simp only [visit, leads_bind]
      refine (leads_self _ thread).mono ?_ ?_
      · rintro (_ | answer) middle run
        · refine (inductionHypothesis middle).mono (fun _ _ _ => trivial) ?_
          rintro abort after ⟨copy, member, cut⟩
          exact ⟨copy, List.mem_cons_of_mem item member, cut⟩
        · trivial
      · intro abort after run
        exact ⟨item, List.mem_cons_self, thread, after, run⟩

theorem walk_leads
    (free : before.table.identity ∉ before.thread.roster)
    (visitor : α → Call σ (Option β)) :
    Leads (walk visitor) before
      (fun answer after => ∃ thread,
        visit visitor before.table.items before.joined.thread = .ok answer thread ∧
        after = Session.leave { before with thread })
      (fun abort after => ∃ thread,
        visit visitor before.table.items before.joined.thread = .error abort thread ∧
        after = Session.leave { before with thread } ∧
        ∃ copy ∈ before.table.items, CutBy (visitor copy) abort) := by
  unfold walk Action.guarded
  rw [Action.leads_entered _ _ free]
  simp only [leads_bind, Action.leads_inspect, Action.leads_call]
  refine (visit_leads visitor before.table.items before.joined.thread).mono ?_ ?_
  · intro answer thread run
    exact ⟨thread, run, rfl⟩
  · rintro abort thread ⟨run, cut⟩
    exact ⟨thread, run, rfl, cut⟩

/-! ## Questions about the table -/

/-- A question that is answered from the table changes nothing. -/
theorem leads_guarded_inspect
    (free : before.table.identity ∉ before.thread.roster)
    (view : Table α → β) :
    Leads (Action.guarded (Action.inspect view)) before returned aborted ↔
      returned (view before.table) before := by
  unfold Action.guarded
  rw [Action.leads_entered _ _ free, Action.leads_inspect]
  simp only [Bool.false_eq_true, if_false, Session.leave_joined]
  exact Iff.rfl

/-- The length is the number of items. -/
theorem leads_length
    {returned : Nat → Session σ α → Prop}
    (sound : before.table.Sound)
    (free : before.table.identity ∉ before.thread.roster) :
    Leads length before returned aborted ↔ returned before.table.items.length before := by
  have sound' : before.joined.table.Sound := sound
  unfold length Action.guarded
  rw [Action.leads_entered _ _ free, sound'.leads_live]
  simp only [Bool.false_eq_true, if_false, Session.leave_joined]
  exact Iff.rfl

theorem leads_isEmpty
    {returned : Bool → Session σ α → Prop}
    (sound : before.table.Sound)
    (free : before.table.identity ∉ before.thread.roster) :
    Leads isEmpty before returned aborted ↔ returned before.table.items.isEmpty before := by
  unfold isEmpty
  rw [leads_bind, leads_length sound free, leads_pure]
  cases before.table.items <;> exact Iff.rfl

theorem leads_statistics
    {returned : Statistics → Session σ α → Prop}
    (sound : before.table.Sound)
    (free : before.table.identity ∉ before.thread.roster) :
    Leads statistics before returned aborted ↔
      returned {
        probes := before.table.tally.probes
        misses := before.table.tally.misses
        entries := before.table.entries
        liveEntries := before.table.items.length
        tombstones := before.table.tombstones
        capacity := before.table.capacity
        flags := before.table.flags
        version := Statistics.currentVersion } before := by
  have sound' : before.joined.table.Sound := sound
  unfold statistics Action.guarded
  rw [Action.leads_entered _ _ free]
  simp only [leads_bind, Action.leads_inspect, sound'.leads_live, leads_pure,
    Bool.false_eq_true, if_false, Session.leave_joined]
  exact Iff.rfl

/-- The flags are told and forgotten. -/
theorem leads_clearFlags
    {returned : Flags → Session σ α → Prop}
    (free : before.table.identity ∉ before.thread.roster) :
    Leads clearFlags before returned aborted ↔
      returned before.table.flags
        { before with table := { before.table with flags := .none } } := by
  unfold clearFlags Action.guarded
  rw [Action.leads_entered _ _ free]
  simp only [leads_bind, Action.leads_inspect, Action.leads_alter, leads_pure,
    Bool.false_eq_true, if_false]
  unfold Session.joined Session.leave
  simp only [Roster.leave_join, id]

/-- The memory of items is told without changing what the behaviour keeps. -/
theorem keeps_heapBytes
    {ν : Type} {view : Thread σ → ν}
    (keeps : ∀ copy, Keeps view (behaviour.heapBytes copy))
    (items : List α) :
    Keeps view (heapBytes behaviour items) := by
  unfold heapBytes
  generalize 0 = total
  induction items generalizing total with
  | nil => exact .of_pure view total
  | cons item rest inductionHypothesis =>
      rw [List.foldlM_cons]
      refine Keeps.bind ?_ inductionHypothesis
      exact (keeps item).bind fun bytes => .of_pure view (total + bytes)

/-- The memory of items is cut short only by a function of the behaviour. -/
theorem heapBytes_leads
    (behaviour : Behaviour σ ι α)
    (items : List α)
    (total : Nat)
    (thread : Thread σ) :
    Leads
      (items.foldlM (fun total item => do
        let bytes ← behaviour.heapBytes item
        pure (total + bytes)) total : Call σ Nat)
      thread (fun _ _ => True) (fun abort _ => behaviour.Raises abort) := by
  induction items generalizing total thread with
  | nil => trivial
  | cons item rest inductionHypothesis =>
      simp only [List.foldlM_cons, leads_bind, leads_pure]
      refine (leads_self _ thread).mono ?_ ?_
      · intro bytes after _
        exact inductionHypothesis (total + bytes) after
      · intro abort after run
        exact .heapBytes item ⟨thread, after, run⟩

theorem footprint_leads
    (free : before.table.identity ∉ before.thread.roster) :
    Leads (footprint behaviour) before
      (fun bytes after => ∃ held thread,
        heapBytes behaviour before.table.items before.joined.thread = .ok held thread ∧
        bytes = before.table.capacity * behaviour.slotBytes + held ∧
        after = Session.leave { before with thread })
      (fun abort after => behaviour.Raises abort ∧ ∃ thread,
        heapBytes behaviour before.table.items before.joined.thread = .error abort thread ∧
        after = Session.leave { before with thread }) := by
  unfold footprint Action.guarded
  rw [Action.leads_entered _ _ free]
  simp only [leads_bind, Action.leads_inspect, Action.leads_call, leads_pure, id]
  refine ((leads_self _ _).and
    (heapBytes_leads behaviour before.table.items 0 before.joined.thread)).mono ?_ ?_
  · rintro held thread ⟨run, _⟩
    exact ⟨held, thread, run, rfl, rfl⟩
  · rintro abort thread ⟨run, raises⟩
    exact ⟨raises, thread, run, rfl⟩

end Table
end OpenAddressing
