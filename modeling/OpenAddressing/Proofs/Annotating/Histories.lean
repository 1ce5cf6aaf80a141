import OpenAddressing.Proofs.Annotating
import OpenAddressing.Proofs.Enduring
import OpenAddressing.Proofs.Upholding

/-!
# Histories beside notes

A table may be used by means that take notes beside the host and change nothing else.
Its history then is that of the table without the notes, so what the notes tell is true
of every reachable table.  A property that rests on the notes is shown for the two means
and holds throughout the history.
-/

namespace OpenAddressing

open Probe (Purpose)

variable {σ ι α β κ : Type}

/-! ## Requests beside notes -/

/-- The request beside notes, which its foreign code knows nothing of. -/
def Request.annotated : Request σ ι α β → Request (Annotated σ κ) ι α β
  | insert item => .insert item
  | find item => .find item
  | findWith item use => .findWith item fun copy => (use copy).annotated
  | contains item => .contains item
  | remove item => .remove item
  | retain keep => .retain fun copy => (keep copy).annotated
  | walk visitor => .walk fun copy => (visitor copy).annotated
  | length => .length
  | isEmpty => .isEmpty
  | slotCount => .slotCount
  | statistics => .statistics
  | clearFlags => .clearFlags
  | footprint => .footprint

/-- Without the notes, the request is what it was. -/
theorem Request.annotated_mirrored (request : Request σ ι α β) :
    (request.annotated : Request (Annotated σ κ) ι α β).Mirrored Annotated.host id request := by
  cases request with
  | findWith item use => exact .findWith item fun _ => Call.mirrors_annotated _
  | retain keep => exact .retain fun _ => Call.mirrors_annotated _
  | walk visitor => exact .walk fun _ => Call.mirrors_annotated _
  | _ => constructor

/-- Its foreign code is beside the notes. -/
theorem Request.exists_of_annotated_calls
    {request : Request σ ι α β} {γ : Type} {foreign : Call (Annotated σ κ) γ}
    (calls : request.annotated.Calls foreign) :
    ∃ plain : Call σ γ, foreign = plain.annotated := by
  cases request with
  | findWith item use => cases calls with | findWith _ _ copy => exact ⟨use copy, rfl⟩
  | retain keep => cases calls with | retain _ copy => exact ⟨keep copy, rfl⟩
  | walk visitor => cases calls with | walk _ copy => exact ⟨visitor copy, rfl⟩
  | _ => cases calls

/-- The answer with its own copies is itself. -/
@[simp] theorem Answer.map_id : (Answer.map id : Answer ι α β → Answer ι α β) = id := by
  funext answer
  cases answer with
  | inserted result => cases result <;> rfl
  | found copy? => cases copy? <;> rfl
  | _ => rfl

@[simp] theorem Session.plain_table (session : Session (Annotated σ κ) α) :
    session.plain.table = session.table :=
  Table.map_id session.table

/-! ## Means that take notes -/

variable {means : Table.Means (Annotated σ κ) ι α} {behaviour : Behaviour σ ι α}
variable {session before after : Session (Annotated σ κ) α} {blank : κ}

namespace Table.Means

/-- The means take notes of what is done by a behaviour, and change nothing else. -/
def Notes (means : Means (Annotated σ κ) ι α) (behaviour : Behaviour σ ι α) : Prop :=
  means.Mirrored Annotated.host id behaviour.means

/-- Without the notes, a request ends as it does by the behaviour. -/
theorem Notes.perform (notes : means.Notes behaviour) (request : Request σ ι α β) :
    Mirrors Session.plain id (means.perform request.annotated) (request.perform behaviour) := by
  rw [← behaviour.perform_means, ← Answer.map_id]
  exact Request.mirrors_perform_means notes request.annotated_mirrored

theorem sound_of_plain (sound : session.plain.table.Sound) : session.table.Sound := by
  rwa [session.plain_table] at sound

/-- A sound table is sound after an item was located. -/
theorem Notes.locate_sound
    (notes : means.Notes behaviour)
    (purpose : Purpose)
    (item : ι) :
    OpenAddressing.Upholds (fun session : Session (Annotated σ κ) α => session.table.Sound)
      (means.locate purpose item) := by
  intro session sound
  rw [← session.plain_table] at sound
  have leads : Leads (behaviour.means.locate purpose item) session.plain _ _ :=
    Table.locate_leads sound.small purpose item
  refine ((notes.locate purpose item).leads leads).mono ?_ ?_
  · rintro outcome after ⟨searched, _⟩
    exact sound_of_plain (searched.preserves.sound sound)
  · rintro abort after ⟨_, searched⟩
    exact sound_of_plain (searched.preserves.sound sound)

/-- So it is after a reorganization. -/
theorem Notes.reorganize_sound (notes : means.Notes behaviour) (grow : Bool) :
    OpenAddressing.Upholds (fun session : Session (Annotated σ κ) α => session.table.Sound)
      (means.reorganize grow) := by
  intro session sound
  rw [← session.plain_table] at sound
  have leads : Leads (behaviour.means.reorganize grow) session.plain _ _ :=
    Table.reorganize_leads sound grow
  refine ((notes.reorganize grow).leads leads).mono ?_ ?_
  · intro result after reorganized
    exact sound_of_plain (reorganized.preserves.sound sound)
  · rintro abort after ⟨_, searched⟩
    exact sound_of_plain (searched.preserves.sound sound)

/-- The sessions of a table whose means take notes.  The table is created, and it
receives requests, each of which may return or be cut short.  In between the thread and
the journal are anyone's, but the notes are not. -/
inductive History (means : Means (Annotated σ κ) ι α) (blank : κ) :
    Session (Annotated σ κ) α → Prop
  | created (settings : Settings) (identity : Nat) (host : Annotated σ κ) {table : Table α}
      (thread : Thread σ) (journal : List Event)
      (created : (Table.create means.behaviour settings identity host).1 = .ok table) :
      History means blank ⟨table, thread.annotate blank, journal⟩
  | performed {before after : Session (Annotated σ κ) α} {β : Type}
      (request : Request σ ι α β)
      (history : History means blank before)
      (run : Passes (means.perform request.annotated) before after) :
      History means blank after
  | meanwhile {before : Session (Annotated σ κ) α}
      (history : History means blank before)
      (thread : Thread σ) (journal : List Event) :
      History means blank ⟨before.table, thread.annotate before.thread.notes, journal⟩

namespace History

/-- The table of a history is reachable without the notes. -/
theorem reachable (history : means.History blank session) (notes : means.Notes behaviour) :
    behaviour.Reachable session.table := by
  induction history with
  | created settings identity host _ _ created =>
      have image := Table.create_map notes.behaviour settings identity host
      refine .created settings identity host.host ?_
      rw [show Table.create behaviour settings identity host.host = _ from image,
        Prod.map_fst, created]
      exact congrArg Except.ok (Table.map_id _)
  | @performed before after _ request _ run inductionHypothesis =>
      rw [← before.plain_table] at inductionHypothesis
      rw [← after.plain_table]
      exact .performed request _ _ inductionHypothesis ((notes.perform request).passes run)
  | meanwhile _ _ _ inductionHypothesis => exact inductionHypothesis

/-- Every reachable table has a history with notes. -/
theorem exists_of_reachable
    {table : Table α}
    (reachable : behaviour.Reachable table)
    (notes : means.Notes behaviour)
    (blank : κ) :
    ∃ session, means.History blank session ∧ session.table = table := by
  induction reachable with
  | created settings identity host created =>
      have image := congrArg Prod.fst
        (Table.create_map notes.behaviour settings identity ⟨host, blank⟩)
      change (Table.create behaviour settings identity host).1 = _ at image
      rw [created, Prod.map_fst] at image
      cases noted : (Table.create means.behaviour settings identity ⟨host, blank⟩).1 with
      | error failure =>
          rw [noted] at image
          cases image
      | ok table =>
          rw [noted] at image
          refine ⟨_, .created settings identity ⟨host, blank⟩ { host } [] noted, ?_⟩
          exact table.map_id.symm.trans (Except.ok.inj image).symm
  | @performed table _ request thread journal after _ run inductionHypothesis =>
      obtain ⟨session, history, rfl⟩ := inductionHypothesis
      have history' := history.meanwhile thread journal
      have begun : Session.plain ⟨session.table, thread.annotate session.thread.notes, journal⟩ =
          ⟨session.table, thread, journal⟩ :=
        Session.plain_annotate ⟨session.table, thread, journal⟩ session.thread.notes
      rw [← begun] at run
      obtain ⟨done, run', rfl⟩ := (notes.perform request).exists_passes run
      exact ⟨done, history'.performed request run', done.plain_table.symm⟩

/-- The tables of histories are the reachable ones. -/
theorem exists_iff_reachable
    {table : Table α}
    (notes : means.Notes behaviour)
    (blank : κ) :
    (∃ session, means.History blank session ∧ session.table = table) ↔
      behaviour.Reachable table := by
  constructor
  · rintro ⟨session, history, rfl⟩
    exact history.reachable notes
  · intro reachable
    exact exists_of_reachable reachable notes blank

end History

/-- Performs requests one after the other, each of which may return or be cut short. -/
def performEach
    (means : Means (Annotated σ κ) ι α)
    (requests : List (Request σ ι α β))
    (session : Session (Annotated σ κ) α) : Session (Annotated σ κ) α :=
  requests.foldl (fun session request =>
    endState (means.perform request.annotated session)) session

/-- The history of a table goes on with any number of requests. -/
theorem History.performEach
    (history : means.History blank session)
    (requests : List (Request σ ι α β)) :
    means.History blank (means.performEach requests session) := by
  induction requests generalizing session with
  | nil => exact history
  | cons request rest inductionHypothesis =>
      exact inductionHypothesis (history.performed request (passes_endState _ session))

end Table.Means

/-! ## Properties that rest on the notes -/

/-- A property of sessions depends on the thread through the notes only. -/
def Session.OnNotes (holds : Session (Annotated σ κ) α → Prop) : Prop :=
  ∀ (session : Session (Annotated σ κ) α) (thread : Thread (Annotated σ κ)),
    thread.notes = session.thread.notes → holds session → holds { session with thread }

variable {holds : Session (Annotated σ κ) α → Prop}

/-- Foreign code beside notes upholds what depends on the notes. -/
theorem Session.OnNotes.annotated (onNotes : Session.OnNotes holds) (foreign : Call σ β) :
    (foreign.annotated : Call (Annotated σ κ) β).Upholds holds :=
  fun session => .of_view (Call.keeps_notes_annotated foreign)
    fun before after same start => onNotes { session with thread := before } after same start

/-- A property of sound tables that depends on the notes holds after a request if the
means uphold it. -/
theorem Table.Means.Upholds.of_passes
    {request : Request σ ι α β}
    (upholds : means.Upholds (fun session => session.table.Sound ∧ holds session) holds)
    (onNotes : Session.OnNotes holds)
    (sound : before.table.Sound)
    (start : holds before)
    (run : Passes (means.perform request.annotated) before after) :
    holds after := by
  by_cases busy : before.table.identity ∈ before.thread.roster
  · rw [Passes, means.perform_of_mem busy] at run
    rcases run with ⟨_, run⟩ | ⟨_, run⟩ <;> cases run
    exact start
  · have ready : before.joined.table.Sound ∧ holds before.joined :=
      ⟨sound, onNotes before before.joined.thread rfl start⟩
    have calls : ∀ {γ : Type} {foreign : Call (Annotated σ κ) γ},
        (request.annotated : Request (Annotated σ κ) ι α β).Calls foreign →
          foreign.Upholds holds := by
      intro γ foreign calls
      obtain ⟨plain, rfl⟩ := Request.exists_of_annotated_calls calls
      exact onNotes.annotated plain
    have leads := upholds.perform_leads busy ready calls
    obtain ⟨done, held, rfl⟩ := leads.of_passes run
    exact onNotes done done.leave.thread rfl held

end OpenAddressing
