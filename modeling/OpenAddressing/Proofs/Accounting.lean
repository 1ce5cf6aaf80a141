import OpenAddressing.Proofs.Enduring
import OpenAddressing.Proofs.Filling
import OpenAddressing.Proofs.Ledger

/-!
# Accounts of copies

A table owns the copies that it stores.  The ledger of a recorded table accounts
for them: at any time between requests, whatever foreign code does and wherever
it is cut short, the copies ever made are the stored ones and the released ones,
each exactly once.
-/

namespace OpenAddressing

open Relocation (slotAt)

variable {σ ι α β : Type} {behaviour : Behaviour σ ι α}

/-! ## Items of which no two are the same -/

/-- If no two items are the same, every item is in one slot. -/
theorem Slot.existsUnique_slotAt
    {slots : Array (Slot α)} {item : α}
    (nodup : (contents slots).Nodup)
    (member : item ∈ contents slots) :
    ∃! index, slotAt slots index = .occupied item := by
  obtain ⟨index, stored⟩ := mem_contents_iff.mp member
  refine ⟨index, stored, ?_⟩
  intro other stored'
  by_contra different
  have leaves := contents_set_vacated stored' item?_empty
  have absent := (List.nodup_cons.mp (leaves.nodup nodup)).1
  apply absent
  rw [mem_contents_iff]
  exact ⟨index, (slotAt_set_of_ne different _).trans stored⟩

/-! ## Accounts of sessions -/

namespace Session

variable {session : Session (Annotated σ (Ledger α)) (Stamped α)}
variable {before after : Session (Annotated σ (Ledger α)) (Stamped α)}
variable {stamped : Stamped α} {index : Nat}

/-- The ledger of a session accounts for the items of the table. -/
def Accounted (session : Session (Annotated σ (Ledger α)) (Stamped α)) : Prop :=
  session.thread.notes.Accounts session.table.items

/-- Every copy that was ever made is in one slot, or was released once. -/
structure Settled (session : Session (Annotated σ (Ledger α)) (Stamped α)) : Prop where
  /-- The copies are told apart by their numbers. -/
  distinct : (session.thread.notes.made.map Stamped.serial).Nodup
  /-- No copy was released twice. -/
  once : session.thread.notes.released.Nodup
  /-- What was released had been made. -/
  released : ∀ stamped ∈ session.thread.notes.released, stamped ∈ session.thread.notes.made
  /-- What is stored had been made. -/
  stored : ∀ index stamped, slotAt session.table.slots index = .occupied stamped →
    stamped ∈ session.thread.notes.made
  /-- A copy is in one slot and was not released, or was released and is in no
  slot. -/
  either : ∀ stamped ∈ session.thread.notes.made,
    ((∃! index, slotAt session.table.slots index = .occupied stamped) ∧
      stamped ∉ session.thread.notes.released) ∨
    (stamped ∈ session.thread.notes.released ∧
      ∀ index, slotAt session.table.slots index ≠ .occupied stamped)

namespace Accounted

/-- What is accounted for is settled. -/
theorem settled (accounted : session.Accounted) : session.Settled := by
  have nodup : (session.table.items ++ session.thread.notes.released).Nodup := accounted.nodup
  have apart := List.disjoint_of_nodup_append nodup
  have here : ∀ stamped, stamped ∈ session.table.items ↔
      ∃ index, slotAt session.table.slots index = .occupied stamped := fun stamped =>
    Slot.mem_contents_iff
  have made : ∀ stamped, stamped ∈ session.thread.notes.made ↔
      stamped ∈ session.table.items ∨ stamped ∈ session.thread.notes.released := by
    intro stamped
    rw [accounted.balanced.mem_iff, List.mem_append]
  constructor
  · rw [accounted.numbered]
    exact List.nodup_range
  · exact nodup.of_append_right
  · intro stamped released
    exact (made stamped).mpr (Or.inr released)
  · intro index stamped stored
    exact (made stamped).mpr (Or.inl ((here stamped).mpr ⟨index, stored⟩))
  · intro stamped member
    cases (made stamped).mp member with
    | inl stored =>
        exact Or.inl ⟨Slot.existsUnique_slotAt nodup.of_append_left stored, apart stored⟩
    | inr released =>
        refine Or.inr ⟨released, fun index stored => ?_⟩
        exact apart ((here stamped).mpr ⟨index, stored⟩) released

/-- Foreign code that leaves the notes alone changes no account. -/
theorem call
    (accounted : session.Accounted)
    {foreign : Call (Annotated σ (Ledger α)) β} {thread : Thread (Annotated σ (Ledger α))}
    (keeps : Keeps Thread.notes foreign)
    (run : Passes foreign session.thread thread) :
    ({ session with thread } : Session (Annotated σ (Ledger α)) (Stamped α)).Accounted := by
  unfold Accounted
  rw [keeps session.thread thread run]
  exact accounted

/-- An item that leaves its slot is struck off. -/
theorem vacate
    (accounted : session.Accounted)
    (stored : slotAt session.table.slots index = .occupied stamped)
    {slot : Slot (Stamped α)}
    (vacant : slot.item? = none)
    (slots : after.table.slots = session.table.slots.setIfInBounds index slot)
    (struck : after.thread.notes = session.thread.notes.strike stamped) :
    after.Accounted := by
  have leaves : session.table.items.Perm (stamped :: after.table.items) := by
    unfold Table.items
    rw [slots]
    exact Slot.contents_set_vacated stored vacant
  unfold Accounted
  rw [struck]
  exact (Ledger.Accounts.perm accounted leaves.symm).strike

end Accounted

/-- Preparations change no account. -/
theorem Preserves.accounted
    (preserves : before.Preserves behaviour.recorded after)
    (accounted : before.Accounted) :
    after.Accounted := by
  unfold Accounted
  rw [preserves.consults.notes]
  exact accounted.perm preserves.items

end Session

/-! ## What one request does to the accounts -/

/-- A copy whose release begins is struck off, however the release ends. -/
theorem Behaviour.notes_of_passes_release
    {stamped : Stamped α} {before after : Thread (Annotated σ (Ledger α))}
    (run : Passes (behaviour.recorded.release stamped) before after) :
    after.notes = before.notes.strike stamped := by
  have leads : Leads (behaviour.recorded.release stamped) before _ _ :=
    recorded_release_leads stamped
  rcases run with ⟨value, run⟩ | ⟨abort, run⟩
  · exact leads.of_ok run
  · exact (leads.of_error run).1

section Accounts

variable {item : ι} {before after : Session (Annotated σ (Ledger α)) (Stamped α)}

namespace Table

/-- A copy that an insertion stores is entered. -/
theorem Inserted.accounted
    {result : Except Failure (Loan (Stamped α))}
    (inserted : Inserted behaviour.recorded item before result after)
    (accounted : before.Accounted) :
    after.Accounted := by
  cases inserted with
  | failed prepared => exact prepared.preserves.accounted accounted
  | full prepared => exact prepared.preserves.accounted accounted
  | present prepared => exact prepared.preserves.accounted accounted
  | @uncopied index ready thread prepared refused =>
      have accounted' : ready.Accounted := prepared.preserves.accounted accounted
      have unchanged : thread.notes = ready.thread.notes :=
        (Behaviour.recorded_duplicate_leads item).of_ok refused
      change thread.notes.Accounts _
      rw [unchanged]
      exact accounted'
  | @stored index stamped ready thread prepared duplicated =>
      obtain ⟨_, within, vacant⟩ := prepared.locates.free_of_vacant
      have accounted' : ready.Accounted := prepared.preserves.accounted accounted
      obtain ⟨isStamp, entered⟩ : stamped = ready.thread.notes.stamp stamped.copy ∧
          thread.notes = ready.thread.notes.enter stamped.copy :=
        (Behaviour.recorded_duplicate_leads item).of_ok duplicated
      unfold Session.Accounted
      rw [Session.traced_table, Session.traced_thread]
      change thread.notes.Accounts _
      rw [entered]
      apply (Ledger.Accounts.enter accounted' stamped.copy).perm
      rw [← isStamp]
      exact Slot.contents_set_occupied within vacant stamped

/-- An insertion that is cut short has stored nothing. -/
theorem InsertedUntil.accounted
    (inserted : InsertedUntil behaviour.recorded item before after)
    (accounted : before.Accounted) :
    after.Accounted := by
  cases inserted with
  | preparing prepared => exact prepared.preserves.accounted accounted
  | @duplicating index ready abort thread prepared raised =>
      have accounted' : ready.Accounted := prepared.preserves.accounted accounted
      have unchanged : thread.notes = ready.thread.notes :=
        (Behaviour.recorded_duplicate_leads item).of_error raised
      unfold Session.Accounted
      rw [unchanged]
      exact accounted'

/-- The copy of a removed item is struck off, however its release ends. -/
theorem accounted_unlinked
    {index : Nat} {stamped : Stamped α} {thread : Thread (Annotated σ (Ledger α))}
    (accounted : before.Accounted)
    (stored : slotAt before.table.slots index = .occupied stamped)
    (run : Passes (behaviour.recorded.release stamped) before.thread thread) :
    ({ unlinked before index with thread } :
      Session (Annotated σ (Ledger α)) (Stamped α)).Accounted := by
  apply accounted.vacate stored Slot.item?_tombstone
  · unfold unlinked
    rw [Session.traced_table]
    rfl
  · exact Behaviour.notes_of_passes_release run

theorem Removed.accounted
    {item? : Option ι}
    (removed : Removed behaviour.recorded item before item? after)
    (accounted : before.Accounted) :
    after.Accounted := by
  cases removed with
  | absent lookedUp => exact lookedUp.searched.preserves.accounted accounted
  | removed lookedUp released =>
      have ready := lookedUp.searched.preserves.accounted accounted
      exact accounted_unlinked ready lookedUp.stored (Or.inl ⟨(), released⟩)

theorem RemovedUntil.accounted
    (removed : RemovedUntil behaviour.recorded item before after)
    (accounted : before.Accounted) :
    after.Accounted := by
  cases removed with
  | searching searched => exact searched.preserves.accounted accounted
  | releasing lookedUp raised =>
      have ready := lookedUp.searched.preserves.accounted accounted
      exact accounted_unlinked ready lookedUp.stored (Or.inr ⟨_, raised⟩)

section Retaining

variable {keep : Stamped α → Call (Annotated σ (Ledger α)) Bool}
variable {session : Session (Annotated σ (Ledger α)) (Stamped α)} {count removed : Nat}

/-- The copy of an item that is not kept is struck off, however its release
ends. -/
theorem accounted_rejected
    {stamped : Stamped α} {asked thread : Thread (Annotated σ (Ledger α))}
    (keeps : Keeps Thread.notes (keep stamped))
    (accounted : session.Accounted)
    (stored : slotAt session.table.slots count = .occupied stamped)
    (rejects : keep stamped session.thread = .ok false asked)
    (run : Passes (behaviour.recorded.release stamped) asked thread) :
    ({ session with table := session.table.buried count, thread } :
      Session (Annotated σ (Ledger α)) (Stamped α)).Accounted := by
  apply accounted.vacate stored Slot.item?_tombstone
  · rfl
  · rw [← keeps.of_ok rejects]
    exact Behaviour.notes_of_passes_release run

theorem Retained.accounted
    (retained : Retained behaviour.recorded keep before count removed session)
    (keeps : ∀ stamped, Keeps Thread.notes (keep stamped))
    (accounted : before.Accounted) :
    session.Accounted := by
  induction retained with
  | start => exact accounted
  | bare _ _ inductionHypothesis => exact inductionHypothesis
  | kept _ _ run inductionHypothesis =>
      exact inductionHypothesis.call (keeps _) (Or.inl ⟨true, run⟩)
  | rejected _ stored rejects released inductionHypothesis =>
      exact accounted_rejected (keeps _) inductionHypothesis stored rejects
        (Or.inl ⟨(), released⟩)

theorem RetainedUntil.accounted
    (retained : RetainedUntil behaviour.recorded keep before after)
    (keeps : ∀ stamped, Keeps Thread.notes (keep stamped))
    (accounted : before.Accounted) :
    after.Accounted := by
  cases retained with
  | asking retained _ raised =>
      exact (retained.accounted keeps accounted).call (keeps _) (Or.inr ⟨_, raised⟩)
  | releasing retained stored rejects raised =>
      exact accounted_rejected (keeps _) (retained.accounted keeps accounted) stored rejects
        (Or.inr ⟨_, raised⟩)

end Retaining
end Table

namespace Request

/-- The request with foreign code that knows nothing of stamps and ledgers. -/
def recorded :
    Request σ ι α β → Request (Annotated σ (Ledger α)) ι (Stamped α) β
  | insert item => insert item
  | find item => find item
  | findWith item use => findWith item fun stamped => (use stamped.copy).annotated
  | contains item => contains item
  | remove item => remove item
  | retain keep => retain fun stamped => (keep stamped.copy).annotated
  | walk visitor => walk fun stamped => (visitor stamped.copy).annotated
  | length => length
  | isEmpty => isEmpty
  | slotCount => slotCount
  | statistics => statistics
  | clearFlags => clearFlags
  | footprint => footprint

/-- Without stamps and ledger, a recorded request is what it was. -/
theorem recorded_mirrored (request : Request σ ι α β) :
    request.recorded.Mirrored Annotated.host Stamped.copy request := by
  cases request with
  | insert item => exact .insert item
  | find item => exact .find item
  | findWith item use => exact .findWith item fun _ => Call.mirrors_annotated _
  | contains item => exact .contains item
  | remove item => exact .remove item
  | retain keep => exact .retain fun _ => Call.mirrors_annotated _
  | walk visitor => exact .walk fun _ => Call.mirrors_annotated _
  | length => exact .length
  | isEmpty => exact .isEmpty
  | slotCount => exact .slotCount
  | statistics => exact .statistics
  | clearFlags => exact .clearFlags
  | footprint => exact .footprint

/-- A recorded request ends as the request itself does. -/
theorem recorded_mirrors (behaviour : Behaviour σ ι α) (request : Request σ ι α β) :
    Mirrors (Session.map Annotated.host Stamped.copy) (Answer.map Stamped.copy)
      (request.recorded.perform behaviour.recorded) (request.perform behaviour) :=
  mirrors_perform behaviour.recorded_mirrored request.recorded_mirrored

/-- The foreign code of a request leaves the notes beside the host alone. -/
def Aloof : Request (Annotated σ (Ledger α)) ι (Stamped α) β → Prop
  | findWith _ use => ∀ stamped, Keeps Thread.notes (use stamped)
  | retain keep => ∀ stamped, Keeps Thread.notes (keep stamped)
  | walk visitor => ∀ stamped, Keeps Thread.notes (visitor stamped)
  | _ => True

theorem recorded_aloof (request : Request σ ι α β) : request.recorded.Aloof := by
  cases request with
  | findWith item use => exact fun _ => Call.keeps_notes_annotated _
  | retain keep => exact fun _ => Call.keeps_notes_annotated _
  | walk visitor => exact fun _ => Call.keeps_notes_annotated _
  | _ => exact trivial

variable {request : Request (Annotated σ (Ledger α)) ι (Stamped α) β}
variable {answer : Answer ι (Stamped α) β}

/-- The ledger still accounts for the items after a request that returns. -/
theorem Performed.accounted
    (performed : Performed behaviour.recorded before request answer after)
    (aloof : request.Aloof)
    (accounted : before.Accounted) :
    after.Accounted := by
  cases performed with
  | insert inserted => exact inserted.accounted accounted
  | find lookedUp => exact lookedUp.searched.preserves.accounted accounted
  | findWith used =>
      cases used with
      | absent lookedUp => exact lookedUp.searched.preserves.accounted accounted
      | used lookedUp run =>
          exact (lookedUp.searched.preserves.accounted accounted).call (aloof _)
            (Or.inl ⟨_, run⟩)
  | contains used =>
      cases used with
      | absent lookedUp => exact lookedUp.searched.preserves.accounted accounted
      | used lookedUp run =>
          exact (lookedUp.searched.preserves.accounted accounted).call (.of_pure _ ())
            (Or.inl ⟨_, run⟩)
  | remove removed => exact removed.accounted accounted
  | retain retained => exact retained.accounted aloof accounted
  | walk visited =>
      exact accounted.call (Table.keeps_visit aloof before.table.items)
        (Or.inl ⟨_, visited⟩)
  | length => exact accounted
  | isEmpty => exact accounted
  | slotCount => exact accounted
  | statistics => exact accounted
  | clearFlags => exact accounted
  | footprint summed =>
      exact accounted.call (Table.keeps_heapBytes (fun _ => Call.keeps_notes_annotated _)
        before.table.items) (Or.inl ⟨_, summed⟩)

/-- So it does after a request that is cut short. -/
theorem PerformedUntil.accounted
    (performed : PerformedUntil behaviour.recorded before request after)
    (aloof : request.Aloof)
    (accounted : before.Accounted) :
    after.Accounted := by
  cases performed with
  | insert inserted => exact inserted.accounted accounted
  | find searched => exact searched.preserves.accounted accounted
  | findWith used =>
      cases used with
      | searching searched => exact searched.preserves.accounted accounted
      | during lookedUp raised =>
          exact (lookedUp.searched.preserves.accounted accounted).call (aloof _)
            (Or.inr ⟨_, raised⟩)
  | contains searched => exact searched.preserves.accounted accounted
  | remove removed => exact removed.accounted accounted
  | retain retained => exact retained.accounted aloof accounted
  | walk visited =>
      exact accounted.call (Table.keeps_visit aloof before.table.items)
        (Or.inr ⟨_, visited⟩)
  | footprint summed =>
      exact accounted.call (Table.keeps_heapBytes (fun _ => Call.keeps_notes_annotated _)
        before.table.items) (Or.inr ⟨_, summed⟩)

/-- So it does after any request. -/
theorem accounted_of_passes
    (sound : before.table.Sound)
    (run : Passes (request.perform behaviour.recorded) before after)
    (aloof : request.Aloof)
    (accounted : before.Accounted) :
    after.Accounted := by
  have accounted' : before.joined.Accounted := accounted
  obtain rfl | ⟨done, rfl, ⟨answer, performed⟩ | performed⟩ := performed_of_passes sound run
  · exact accounted
  · exact performed.accounted aloof accounted'
  · exact performed.accounted aloof accounted'

end Request
end Accounts

/-! ## The life of a table -/

/-- The sessions of a recorded table.  The table is created, and it receives
requests, each of which may return or be cut short.  In between the thread and
the journal are anyone's, but the ledger is not. -/
inductive Behaviour.History (behaviour : Behaviour σ ι α) :
    Session (Annotated σ (Ledger α)) (Stamped α) → Prop
  | created (settings : Settings) (identity : Nat) (host : Annotated σ (Ledger α))
      {table : Table (Stamped α)} (thread : Thread σ) (journal : List Event)
      (created : (Table.create behaviour.recorded settings identity host).1 = .ok table) :
      History behaviour ⟨table, thread.annotate {}, journal⟩
  | performed {before after : Session (Annotated σ (Ledger α)) (Stamped α)} {β : Type}
      (request : Request σ ι α β)
      (history : History behaviour before)
      (run : Passes (request.recorded.perform behaviour.recorded) before after) :
      History behaviour after
  | meanwhile {before : Session (Annotated σ (Ledger α)) (Stamped α)}
      (history : History behaviour before)
      (thread : Thread σ) (journal : List Event) :
      History behaviour ⟨before.table, thread.annotate before.thread.notes, journal⟩

namespace Behaviour.History

variable {session : Session (Annotated σ (Ledger α)) (Stamped α)}

theorem reachable (history : behaviour.History session) :
    behaviour.recorded.Reachable session.table := by
  induction history with
  | created settings identity host _ _ created => exact .created settings identity host created
  | @performed before _ _ request _ run inductionHypothesis =>
      exact .performed request.recorded before.thread before.journal inductionHypothesis run
  | meanwhile _ _ _ inductionHypothesis => exact inductionHypothesis

/-- At any time between requests, the ledger accounts for the items. -/
theorem accounted (history : behaviour.History session) : session.Accounted := by
  induction history with
  | created _ _ _ _ _ created =>
      obtain ⟨_, rfl⟩ := Table.sound_of_create created
      unfold Session.Accounted Table.items
      change Ledger.Accounts {} (Slot.contents _)
      rw [Slot.contents_row]
      exact .empty
  | performed request history run inductionHypothesis =>
      exact Request.accounted_of_passes history.reachable.intact.sound run
        request.recorded_aloof inductionHypothesis
  | meanwhile _ _ _ inductionHypothesis => exact inductionHypothesis

/-- The history of a table goes on with any number of requests. -/
theorem performEach
    (history : behaviour.History session)
    (requests : List (Request σ ι α β)) :
    behaviour.History (Request.performEach behaviour.recorded
      (requests.map Request.recorded) session).2 := by
  have kept : ∀ request ∈ requests.map Request.recorded, ∀ before after,
      Passes (request.perform behaviour.recorded) before after →
        behaviour.History before → behaviour.History after := by
    intro request member before after run history
    obtain ⟨plain, _, rfl⟩ := List.mem_map.mp member
    exact .performed plain history run
  exact Request.performEach_keeps kept history

end Behaviour.History

/-- The tables of histories, without their stamps, are the reachable ones. -/
theorem Behaviour.reachable_iff_exists_history {table : Table α} :
    behaviour.Reachable table ↔
      ∃ session, behaviour.History session ∧ session.table.map Stamped.copy = table := by
  have creates : ∀ settings identity (host : Annotated σ (Ledger α)),
      (Table.create behaviour settings identity host.host).1 =
        (Table.create behaviour.recorded settings identity host).1.map
          (Table.map Stamped.copy) := fun settings identity host =>
    congrArg Prod.fst (Table.create_map behaviour.recorded_mirrored settings identity host)
  constructor
  · intro reachable
    induction reachable with
    | created settings identity host created =>
        have image := creates settings identity ⟨host, {}⟩
        rw [created] at image
        cases recorded : (Table.create behaviour.recorded settings identity ⟨host, {}⟩).1 with
        | error failure =>
            rw [recorded] at image
            cases image
        | ok table =>
            rw [recorded] at image
            exact ⟨_, .created settings identity ⟨host, {}⟩ { host } [] recorded,
              (Except.ok.inj image).symm⟩
    | @performed table β request thread journal after _ run inductionHypothesis =>
        obtain ⟨session, history, rfl⟩ := inductionHypothesis
        have run' : Passes (request.perform behaviour)
            (Session.map Annotated.host Stamped.copy
              ⟨session.table, thread.annotate session.thread.notes, journal⟩) after := run
        obtain ⟨done, recorded, rfl⟩ := (request.recorded_mirrors behaviour).exists_passes run'
        exact ⟨done, (history.meanwhile thread journal).performed request recorded, rfl⟩
  · rintro ⟨session, history, rfl⟩
    induction history with
    | created settings identity host thread journal created =>
        have image := creates settings identity host
        rw [created] at image
        exact .created settings identity host.host image
    | performed request _ run inductionHypothesis =>
        exact .performed request _ _ inductionHypothesis
          ((request.recorded_mirrors behaviour).passes run)
    | meanwhile _ _ _ inductionHypothesis => exact inductionHypothesis

end OpenAddressing
