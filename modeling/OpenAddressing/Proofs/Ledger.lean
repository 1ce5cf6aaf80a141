import OpenAddressing.Proofs.Mirroring.Tables
import OpenAddressing.Proofs.Reachable

/-!
# Ledgers of copies

To follow the copies of a table through a run, every copy is stamped with a
number of its own when it is made, and a ledger beside the host notes each copy
that is made and each copy that is handed over for release.  Any behaviour can be
recorded in this way.  A ledger accounts for some copies if the copies ever made
are these and the released ones, each exactly once.
-/

namespace OpenAddressing

variable {σ ι α β κ : Type}

/-! ## Notes beside a host -/

/-- A host with notes beside it. -/
structure Annotated (σ κ : Type) where
  /-- The state that belongs to the foreign code. -/
  host : σ
  /-- What was noted so far. -/
  notes : κ

namespace Thread

/-- The thread without the notes. -/
def plain (thread : Thread (Annotated σ κ)) : Thread σ :=
  thread.map Annotated.host

/-- The notes beside the host. -/
def notes (thread : Thread (Annotated σ κ)) : κ :=
  thread.host.notes

/-- The thread with notes beside its host. -/
def annotate (thread : Thread σ) (notes : κ) : Thread (Annotated σ κ) where
  roster := thread.roster
  host := { host := thread.host, notes }

@[simp] theorem plain_annotate (thread : Thread σ) (notes : κ) :
    (thread.annotate notes).plain = thread := rfl

end Thread

namespace Call

/-- Runs foreign code that knows nothing of the notes. -/
def annotated (foreign : Call σ β) : Call (Annotated σ κ) β := fun thread =>
  match foreign thread.plain with
  | .ok value after => .ok value (after.annotate thread.notes)
  | .error abort after => .error abort (after.annotate thread.notes)

/-- Changes the notes alone. -/
def note (change : κ → β × κ) : Call (Annotated σ κ) β := fun thread =>
  .ok (change thread.notes).1 (thread.plain.annotate (change thread.notes).2)

variable {thread : Thread (Annotated σ κ)}
variable {returned : β → Thread (Annotated σ κ) → Prop}
variable {aborted : Abort → Thread (Annotated σ κ) → Prop}

@[simp] theorem leads_annotated (foreign : Call σ β) :
    Leads foreign.annotated thread returned aborted ↔
      Leads foreign thread.plain
        (fun value after => returned value (after.annotate thread.notes))
        (fun abort after => aborted abort (after.annotate thread.notes)) := by
  unfold Leads annotated
  cases foreign thread.plain <;> exact Iff.rfl

@[simp] theorem leads_note (change : κ → β × κ) :
    Leads (note change) thread returned aborted ↔
      returned (change thread.notes).1 (thread.plain.annotate (change thread.notes).2) :=
  Iff.rfl

/-- Foreign code leaves the notes beside it alone. -/
theorem keeps_notes_annotated (foreign : Call σ β) :
    Keeps Thread.notes (foreign.annotated : Call (Annotated σ κ) β) := by
  refine .of_leads fun before => ?_
  rw [leads_annotated]
  exact (leads_self foreign before.plain).mono (fun _ _ _ => rfl) fun _ _ _ => rfl

/-- Without the notes, annotated foreign code is what it was. -/
theorem mirrors_annotated (foreign : Call σ β) :
    Mirrors (Thread.map Annotated.host) id (foreign.annotated : Call (Annotated σ κ) β)
      foreign := by
  intro thread
  unfold annotated
  change foreign thread.plain = _
  cases foreign thread.plain <;> rfl

end Call

/-- Questions leave the notes alone if the foreign code that answers them does. -/
theorem Behaviour.Consults.notes_eq
    {behaviour : Behaviour (Annotated σ κ) ι α} {before after : Thread (Annotated σ κ)}
    (consults : behaviour.Consults before after)
    (hash : ∀ item, Keeps Thread.notes (behaviour.hash item))
    (rehash : ∀ item, Keeps Thread.notes (behaviour.rehash item))
    (compare : ∀ stored item, Keeps Thread.notes (behaviour.compare stored item))
    (reserve : ∀ bytes host, (behaviour.reserve bytes host).2.notes = host.notes) :
    after.notes = before.notes := by
  have kept : ∀ first second, behaviour.Asks first second →
      first.notes = before.notes → second.notes = before.notes := by
    intro first second asks same
    refine Eq.trans ?_ same
    cases asks with
    | hash item run => exact hash item _ _ run
    | rehash item run => exact rehash item _ _ run
    | compare stored item run => exact compare stored item _ _ run
    | reserve bytes => exact reserve bytes first.host
  exact consults.keeps kept rfl

/-! ## Stamps and ledgers -/

/-- A copy with a number of its own. -/
structure Stamped (α : Type) where
  /-- The number of copies made before. -/
  serial : Nat
  /-- The copy. -/
  copy : α

/-- What has happened to the copies of a table. -/
structure Ledger (α : Type) where
  /-- The copies made, in their order. -/
  made : List (Stamped α) := []
  /-- The copies handed over for release, in their order. -/
  released : List (Stamped α) := []

namespace Ledger

/-- The stamp for the next copy. -/
def stamp (ledger : Ledger α) (copy : α) : Stamped α where
  serial := ledger.made.length
  copy

/-- Notes that a copy was made. -/
def enter (ledger : Ledger α) (copy : α) : Ledger α :=
  { ledger with made := ledger.made ++ [ledger.stamp copy] }

/-- Notes that a copy was handed over for release. -/
def strike (ledger : Ledger α) (stamped : Stamped α) : Ledger α :=
  { ledger with released := ledger.released ++ [stamped] }

/-- The copies ever made are the stored ones and the released ones. -/
structure Accounts (ledger : Ledger α) (stored : List (Stamped α)) : Prop where
  /-- Each copy made is stored or released, and no copy is both. -/
  balanced : ledger.made.Perm (stored ++ ledger.released)
  /-- The copies are numbered in the order in which they are made. -/
  numbered : ledger.made.map Stamped.serial = List.range ledger.made.length

namespace Accounts

variable {ledger : Ledger α} {stored other : List (Stamped α)} {stamped : Stamped α}

/-- A new ledger accounts for no copies. -/
theorem empty : ({} : Ledger α).Accounts [] where
  balanced := List.Perm.refl []
  numbered := rfl

/-- The order of the stored copies does not matter. -/
theorem perm
    (accounts : ledger.Accounts stored)
    (same : other.Perm stored) :
    ledger.Accounts other where
  balanced := accounts.balanced.trans (same.symm.append_right _)
  numbered := accounts.numbered

/-- A copy that is made joins the stored ones. -/
theorem enter (accounts : ledger.Accounts stored) (copy : α) :
    (ledger.enter copy).Accounts (ledger.stamp copy :: stored) where
  balanced := by
    unfold Ledger.enter
    calc ledger.made ++ [ledger.stamp copy]
        |>.Perm (ledger.stamp copy :: ledger.made) := List.perm_append_singleton _ _
      _ |>.Perm (ledger.stamp copy :: (stored ++ ledger.released)) :=
        accounts.balanced.cons _
  numbered := by
    simp only [Ledger.enter, List.map_append, List.length_append, accounts.numbered]
    exact List.range_succ.symm

/-- A copy that is handed over for release leaves the stored ones. -/
theorem strike (accounts : ledger.Accounts (stamped :: stored)) :
    (ledger.strike stamped).Accounts stored where
  balanced := by
    unfold Ledger.strike
    calc ledger.made
        |>.Perm (stamped :: (stored ++ ledger.released)) := accounts.balanced
      _ |>.Perm (stored ++ stamped :: ledger.released) := List.perm_middle.symm
      _ |>.Perm (stored ++ (ledger.released ++ [stamped])) :=
        (List.perm_append_singleton stamped ledger.released).symm.append_left stored
  numbered := accounts.numbered

/-- No two copies are the same. -/
theorem nodup_made (accounts : ledger.Accounts stored) : ledger.made.Nodup := by
  apply List.Nodup.of_map Stamped.serial
  rw [accounts.numbered]
  exact List.nodup_range

theorem nodup (accounts : ledger.Accounts stored) : (stored ++ ledger.released).Nodup :=
  accounts.balanced.nodup accounts.nodup_made

end Accounts
end Ledger

/-! ## Recorded behaviours -/

namespace Behaviour

/-- The behaviour with a ledger beside its host.  A copy is entered once it was
made, and struck off when its release begins. -/
def recorded (behaviour : Behaviour σ ι α) :
    Behaviour (Annotated σ (Ledger α)) ι (Stamped α) where
  key stamped := behaviour.key stamped.copy
  hash item := (behaviour.hash item).annotated
  rehash item := (behaviour.rehash item).annotated
  compare stored item := (behaviour.compare stored item).annotated
  duplicate item := do
    match ← (behaviour.duplicate item).annotated with
    | none => pure none
    | some copy => some <$> Call.note fun ledger => (ledger.stamp copy, ledger.enter copy)
  release stamped := do
    Call.note fun ledger => ((), ledger.strike stamped)
    (behaviour.release stamped.copy).annotated
  heapBytes stamped := (behaviour.heapBytes stamped.copy).annotated
  slotBytes := behaviour.slotBytes
  slotBytes_pos := behaviour.slotBytes_pos
  reserve bytes annotated :=
    ((behaviour.reserve bytes annotated.host).1,
      { annotated with host := (behaviour.reserve bytes annotated.host).2 })

/-- Without stamps and ledger, a recorded behaviour is what it was. -/
theorem recorded_mirrored (behaviour : Behaviour σ ι α) :
    behaviour.recorded.Mirrored Annotated.host Stamped.copy behaviour where
  key _ := rfl
  hash item := Call.mirrors_annotated _
  rehash item := Call.mirrors_annotated _
  compare stored item := Call.mirrors_annotated _
  duplicate := by
    intro item thread
    change behaviour.duplicate item thread.plain = _
    simp only [recorded, bind, EStateM.bind, Call.annotated]
    cases behaviour.duplicate item thread.plain with
    | error abort after => rfl
    | ok copy? after => cases copy? <;> rfl
  release := by
    intro stamped thread
    change behaviour.release stamped.copy thread.plain = _
    simp only [recorded, bind, EStateM.bind, Call.annotated, Call.note, Thread.plain_annotate]
    cases behaviour.release stamped.copy thread.plain <;> rfl
  heapBytes stamped := Call.mirrors_annotated _
  slotBytes := rfl
  reserve _ _ := rfl

variable {behaviour : Behaviour σ ι α} {before after : Thread (Annotated σ (Ledger α))}

/-- Questions leave the ledger alone. -/
theorem Consults.notes (consults : behaviour.recorded.Consults before after) :
    after.notes = before.notes := by
  apply consults.notes_eq
  · exact fun _ => Call.keeps_notes_annotated _
  · exact fun _ => Call.keeps_notes_annotated _
  · exact fun _ _ => Call.keeps_notes_annotated _
  · exact fun _ _ => rfl

/-- A copy that is made is entered. -/
theorem recorded_duplicate_leads (item : ι) :
    Leads (behaviour.recorded.duplicate item) before
      (fun stamped? after => match stamped? with
        | none => after.notes = before.notes
        | some stamped => stamped = before.notes.stamp stamped.copy ∧
            after.notes = before.notes.enter stamped.copy)
      (fun _ after => after.notes = before.notes) := by
  simp only [recorded, leads_bind, Call.leads_annotated]
  refine (leads_self _ before.plain).mono ?_ fun _ _ _ => rfl
  intro copy? thread _
  cases copy? with
  | none => rfl
  | some copy =>
      simp only [leads_map, Call.leads_note]
      exact ⟨rfl, rfl⟩

/-- A copy whose release begins is struck off. -/
theorem recorded_release_leads (stamped : Stamped α) :
    Leads (behaviour.recorded.release stamped) before
      (fun _ after => after.notes = before.notes.strike stamped)
      (fun abort after => after.notes = before.notes.strike stamped ∧
        CutBy (behaviour.release stamped.copy) abort) := by
  simp only [recorded, leads_bind, Call.leads_note, Call.leads_annotated]
  refine (leads_self _ before.plain).mono (fun _ _ _ => rfl) ?_
  intro abort thread run
  exact ⟨rfl, _, _, run⟩

end Behaviour
end OpenAddressing
