import OpenAddressing.Proofs.Accounting

/-!
# Teardowns

A teardown empties the slots one after the other and releases their copies.  It
ends when nothing is left, or when a release is cut short.  With it the life of
a table is complete: every copy that was ever made was released once.
-/

namespace OpenAddressing

open Relocation (slotAt)

variable {σ ι α β : Type} {behaviour : Behaviour σ ι α}

namespace Table

variable {before session : Session (Annotated σ (Ledger α)) (Stamped α)} {count : Nat}

/-- A teardown has emptied the slots below a number. -/
structure Discarded
    (before : Session (Annotated σ (Ledger α)) (Stamped α))
    (count : Nat)
    (session : Session (Annotated σ (Ledger α)) (Stamped α)) : Prop where
  /-- The ledger accounts for the items that are left. -/
  accounted : session.Accounted
  /-- No copy is made. -/
  made : session.thread.notes.made = before.thread.notes.made
  /-- There are as many slots as before. -/
  capacity : session.table.capacity = before.table.capacity
  /-- There is no item in the slots passed. -/
  vacant : ∀ index < count, (slotAt session.table.slots index).item? = none

/-- A slot that was set to be empty is passed. -/
theorem Discarded.vacant_cleared
    (discarded : Discarded before count session)
    (within : count < session.table.slots.size) :
    ∀ index < count + 1,
      (slotAt (session.table.slots.setIfInBounds count .empty) index).item? = none := by
  intro index passed
  by_cases same : count = index
  · subst same
    rw [Slot.slotAt_set_self within, Slot.item?_empty]
  · rw [Slot.slotAt_set_of_ne same]
    exact discarded.vacant index (by omega)

/-- Nothing is left once all slots were passed. -/
theorem Discarded.items_eq_nil
    (discarded : Discarded before before.table.capacity session) :
    session.table.items = [] := by
  apply List.eq_nil_iff_forall_not_mem.mpr
  intro stamped member
  obtain ⟨index, stored⟩ := Slot.mem_contents_iff.mp member
  have within : index < session.table.capacity := Slot.lt_size_of_slotAt stored (by simp)
  have vacant := discarded.vacant index (discarded.capacity ▸ within)
  rw [stored] at vacant
  cases vacant

/-- A release ended with an abort. -/
def CutByRelease
    (behaviour : Behaviour σ ι α)
    (abort : Abort)
    (after : Session σ α) : Prop :=
  ∃ copy thread, behaviour.release copy thread = .error abort after.thread

/-- One more slot is emptied. -/
theorem discardAt_leads
    (discarded : Discarded before count session)
    (within : count < session.table.slots.size) :
    Leads (discardAt behaviour.recorded count) session
      (fun _ after => Discarded before (count + 1) after)
      (fun abort after => after.Accounted ∧ CutByRelease behaviour.recorded abort after) := by
  have vacant := discarded.vacant_cleared within
  have size : (session.table.slots.setIfInBounds count .empty).size = before.table.capacity :=
    Array.size_setIfInBounds.trans discarded.capacity
  unfold discardAt
  simp only [leads_bind, Action.leads_inspect, Slot.getElem?_eq_some_slotAt within]
  cases here : (slotAt session.table.slots count).item? with
  | none =>
      simp only [clear, leads_bind, Action.leads_alter, leads_pure]
      have same : session.table.items =
          Slot.contents (session.table.slots.setIfInBounds count .empty) := by
        rw [Slot.contents_set_eq_append within Slot.item?_empty]
        refine (Slot.contents_eq_append session.table.slots count).trans ?_
        rw [here, Option.toList_none, List.append_nil]
      refine ⟨?_, discarded.made, size, vacant⟩
      have accounted := discarded.accounted
      unfold Session.Accounted at accounted
      rwa [same] at accounted
  | some stamped =>
      have stored := Slot.slotAt_eq_occupied_iff.mpr here
      simp only [clear, leads_bind, Action.leads_alter, Action.leads_call, leads_pure]
      refine (leads_self _ session.thread).mono ?_ ?_
      · intro _ thread released
        have struck := Behaviour.notes_of_passes_release (Or.inl ⟨(), released⟩)
        refine ⟨discarded.accounted.vacate stored Slot.item?_empty rfl struck, ?_, size, vacant⟩
        rw [struck]
        exact discarded.made
      · intro abort thread raised
        have struck := Behaviour.notes_of_passes_release (Or.inr ⟨abort, raised⟩)
        exact ⟨discarded.accounted.vacate stored Slot.item?_empty rfl struck, stamped, _, raised⟩

/-- A teardown ends with all copies released, or with a release that was cut
short. -/
theorem tearDown_leads (accounted : before.Accounted) :
    Leads (tearDown behaviour.recorded) before
      (fun _ after => after.table.items = [] ∧
        after.thread.notes.made = before.thread.notes.made ∧
        after.thread.notes.released.Perm before.thread.notes.made)
      (fun abort after => after.Accounted ∧ CutByRelease behaviour.recorded abort after) := by
  have begun : Discarded before 0 before := by
    constructor
    · exact accounted
    · rfl
    · rfl
    · exact fun index passed => absurd passed (Nat.not_lt_zero index)
  have each : ∀ count (total : Nat) session, count < before.table.capacity →
      Discarded before count session →
      Leads (discardAt behaviour.recorded count) session
        (fun _ after => Discarded before (count + 1) after)
        (fun abort after => after.Accounted ∧
          CutByRelease behaviour.recorded abort after) := by
    intro count _ session within discarded
    exact discardAt_leads discarded (within.trans_eq discarded.capacity.symm)
  unfold tearDown
  simp only [leads_bind, Action.leads_inspect, List.range_eq_range', Action.leads_trace,
    Session.traced_table, Session.traced_thread]
  refine (leads_total each before.table.capacity 0 0 (by omega) begun).mono ?_
    fun _ _ cut => cut
  intro released after discarded
  rw [Nat.zero_add] at discarded
  have items := discarded.items_eq_nil
  refine ⟨items, discarded.made, ?_⟩
  have balanced := discarded.accounted.balanced
  rw [items, List.nil_append, discarded.made] at balanced
  exact balanced.symm

end Table

/-- Recording changes nothing but the records.  Whatever foreign code does, every
copy that was ever made is in one slot or was released once, at any time between
requests.  Neither an insertion nor a reorganization writes over an item.  A
teardown releases what is left, unless a release is cut short. -/
theorem copies_released_once
    {session : Session (Annotated σ (Ledger α)) (Stamped α)}
    (history : behaviour.History session) :
    ((∀ (β : Type) (request : Request σ ι α β),
        Mirrors (Session.map Annotated.host Stamped.copy) (Answer.map Stamped.copy)
          (request.recorded.perform behaviour.recorded) (request.perform behaviour)) ∧
      Mirrors (Session.map Annotated.host Stamped.copy) id
        (Table.tearDown behaviour.recorded) (Table.tearDown behaviour)) ∧
    session.Settled ∧
    (∀ (item : ι) (after : Session (Annotated σ (Ledger α)) (Stamped α)),
      Passes (Table.insert behaviour.recorded item) session after →
        session.table.Spares after.table) ∧
    (∀ (grow : Bool) (after : Session (Annotated σ (Ledger α)) (Stamped α)),
      Passes (Table.reorganize behaviour.recorded grow) session after →
        session.table.Spares after.table) ∧
    Leads (Table.tearDown behaviour.recorded) session
      (fun _ after => after.table.items = [] ∧
        after.thread.notes.made = session.thread.notes.made ∧
        after.thread.notes.released.Perm session.thread.notes.made)
      (fun abort after => after.Settled ∧
        Table.CutByRelease behaviour.recorded abort after) := by
  have sound := history.reachable.intact.sound
  refine ⟨⟨?_, ?_⟩, history.accounted.settled, ?_, ?_, ?_⟩
  · exact fun β request => request.recorded_mirrors behaviour
  · exact Table.mirrors_tearDown behaviour.recorded_mirrored
  · intro item after run
    exact Table.spares_of_passes_insert sound run
  · intro grow after run
    exact Table.spares_of_passes_reorganize sound run
  · refine (Table.tearDown_leads history.accounted).mono (fun _ _ done => done) ?_
    rintro abort after ⟨accounted, cut⟩
    exact ⟨accounted.settled, cut⟩

/-- A recorded table that fickle foreign code has worn out. -/
def Behaviour.wornSession : Session (Annotated Nat (Ledger Nat)) (Stamped Nat) :=
  (Request.performEach Behaviour.fickle.recorded
    (Behaviour.wearing.map Request.recorded)
    ⟨{ identity := 0, settings := { initialCapacity := 8 },
        slots := Slot.row (Stamped Nat) 8 },
      Thread.annotate { host := 0 } {}, []⟩).2

/-- Seven copies were made for a worn table.  Three of them were released before
the teardown, and the other four are released by it. -/
theorem copies_of_worn_released_once :
    Behaviour.fickle.History Behaviour.wornSession ∧
      Behaviour.wornSession.thread.notes.made.map Stamped.copy = [1, 2, 3, 4, 6, 7, 10] ∧
      Behaviour.wornSession.thread.notes.released.map Stamped.copy = [1, 3, 7] ∧
      Behaviour.wornSession.Settled ∧
      ∃ after, Table.tearDown Behaviour.fickle.recorded Behaviour.wornSession = .ok () after ∧
        after.thread.notes.released.Perm Behaviour.wornSession.thread.notes.made := by
  have history : Behaviour.fickle.History Behaviour.wornSession := by
    unfold Behaviour.wornSession
    apply Behaviour.History.performEach
    exact .created { initialCapacity := 8 } 0 ⟨1, {}⟩ { host := 0 } [] rfl
  have ends : ∀ session, Behaviour.fickle.History session → session.Settled ∧
      ∀ after, Table.tearDown Behaviour.fickle.recorded session = .ok () after →
        after.thread.notes.released.Perm session.thread.notes.made := by
    intro session history
    obtain ⟨_, settled, _, _, leads⟩ := copies_released_once history
    exact ⟨settled, fun after run => (leads.of_ok run).2.2⟩
  refine ⟨history, ?_, ?_, (ends _ history).1, ?_⟩
  · decide +kernel
  · decide +kernel
  · obtain ⟨_, after, run, _⟩ := exists_of_meets (show meets (fun _ _ => true)
      (Table.tearDown Behaviour.fickle.recorded Behaviour.wornSession) = true by decide +kernel)
    exact ⟨after, run, (ends _ history).2 after run⟩

end OpenAddressing
