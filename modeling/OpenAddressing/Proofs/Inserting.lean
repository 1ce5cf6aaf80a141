import OpenAddressing.Proofs.Preserving

/-!
# Inserting

An insertion first prepares: it makes room if the table is crowded, and looks
for an equal item or a vacancy, if need be after growing once.  Only then is a
copy made, and only for a vacancy.  The module describes every way in which an
insertion can end, whatever the foreign functions do.
-/

namespace OpenAddressing

open Relocation (slotAt)
open Probe (Outcome)

variable {σ ι α : Type} {behaviour : Behaviour σ ι α}
variable {before mid after : Session σ α} {item : ι} {copy : α} {index : Nat}

namespace Table

/-! ## Making room -/

/-- How an attempt to make room may end. -/
inductive MadeRoom
    (behaviour : Behaviour σ ι α)
    (grow : Bool)
    (before : Session σ α) : Except Failure Unit → Session σ α → Prop
  | made {after : Session σ α}
      (reorganized : Reorganized behaviour grow before (.ok ()) after) :
      MadeRoom behaviour grow before (.ok ()) after
  | failed {failure : Failure} {after : Session σ α}
      (reorganized : Reorganized behaviour grow before (.error failure) after) :
      MadeRoom behaviour grow before (.error failure)
        (after.flagged (failure.flags ∪ Failure.tableFull.flags))

theorem makeRoom_leads (sound : before.table.Sound) (grow : Bool) :
    Leads (makeRoom behaviour grow) before
      (fun result after => MadeRoom behaviour grow before result after)
      (fun abort after => behaviour.Raises abort ∧ before.Searched behaviour after) := by
  unfold makeRoom
  rw [leads_bind]
  refine (reorganize_leads sound grow).mono ?_ fun _ _ cut => cut
  rintro (failure | _) after reorganized
  · simp only [leads_bind, Action.leads_flag, leads_pure]
    exact .failed reorganized
  · exact .made reorganized

theorem MadeRoom.preserves
    {grow : Bool} {result : Except Failure Unit}
    (madeRoom : MadeRoom behaviour grow before result after) :
    before.Preserves behaviour after := by
  cases madeRoom with
  | made reorganized => exact reorganized.preserves
  | failed reorganized => exact reorganized.preserves.trans (Session.preserves_flagged _ _)

/-- The flags that are raised when room was to be made.  A failure to make room
counts as a full table, whatever the reason is. -/
def raisedFor {γ : Type} : Except Failure γ → Flags
  | .ok _ => .none
  | .error failure => failure.flags ∪ Failure.tableFull.flags

theorem MadeRoom.flags
    {grow : Bool} {result : Except Failure Unit}
    (madeRoom : MadeRoom behaviour grow before result after) :
    after.table.flags = before.table.flags ∪ raisedFor result := by
  cases madeRoom with
  | made reorganized => rw [raisedFor, Flags.union_none, reorganized.flags]
  | failed reorganized => rw [raisedFor, ← reorganized.flags]; rfl

/-- How a crowded table may be relieved. -/
inductive Relieved (behaviour : Behaviour σ ι α) (before : Session σ α) :
    Except Failure Unit → Session σ α → Prop
  /-- There is room for an item. -/
  | calm (roomy : before.table.isCrowded = false) :
      Relieved behaviour before (.ok ()) before
  /-- Room had to be made. -/
  | crowded {result : Except Failure Unit} {after : Session σ α}
      (crowded : before.table.isCrowded = true)
      (madeRoom : MadeRoom behaviour false before result after) :
      Relieved behaviour before result after

theorem relieve_leads (sound : before.table.Sound) :
    Leads (relieve behaviour) before
      (fun result after => Relieved behaviour before result after)
      (fun abort after => behaviour.Raises abort ∧ before.Searched behaviour after) := by
  unfold relieve
  rw [leads_bind, Action.leads_inspect]
  cases crowded : before.table.isCrowded with
  | true =>
      refine (makeRoom_leads sound false).mono ?_ fun _ _ cut => cut
      intro result after madeRoom
      exact .crowded crowded madeRoom
  | false => exact .calm crowded

namespace Relieved

variable {result : Except Failure Unit}

theorem preserves (relieved : Relieved behaviour before result after) :
    before.Preserves behaviour after := by
  cases relieved with
  | calm => exact .refl before
  | crowded _ madeRoom => exact madeRoom.preserves

theorem flags (relieved : Relieved behaviour before result after) :
    after.table.flags = before.table.flags ∪ raisedFor result := by
  cases relieved with
  | calm => exact (Flags.union_none _).symm
  | crowded _ madeRoom => exact madeRoom.flags

/-- A table that has room is left as it is. -/
theorem of_roomy
    (relieved : Relieved behaviour before result after)
    (roomy : before.table.isCrowded = false) :
    result = .ok () ∧ after = before := by
  cases relieved with
  | calm => exact ⟨rfl, rfl⟩
  | crowded crowded =>
      rw [roomy] at crowded
      cases crowded

/-- A relieved table has room for an item. -/
theorem isCrowded
    (relieved : Relieved behaviour before (.ok ()) after)
    (sound : before.table.Sound) :
    after.table.isCrowded = false := by
  cases relieved with
  | calm roomy => exact roomy
  | crowded _ madeRoom =>
      cases madeRoom with
      | made reorganized => exact reorganized.isCrowded sound

end Relieved

/-! ## Seeking -/

/-- How the item or a slot for it may be found. -/
inductive Sought
    (behaviour : Behaviour σ ι α)
    (item : ι)
    (before : Session σ α) : Except Failure Outcome → Session σ α → Prop
  /-- The first search is enough. -/
  | located {outcome : Outcome} {after : Session σ α}
      (searched : before.Searched behaviour after)
      (locates : behaviour.Locates before.table.slots .insert item outcome)
      (enough : outcome ≠ .missing) :
      Sought behaviour item before (.ok outcome) after
  /-- There is no vacancy on the path, and the table grows. -/
  | grown {outcome : Outcome} {exhausted grown after : Session σ α}
      (searched : before.Searched behaviour exhausted)
      (missing : behaviour.Locates before.table.slots .insert item .missing)
      (madeRoom : MadeRoom behaviour true exhausted (.ok ()) grown)
      (again : grown.Searched behaviour after)
      (locates : behaviour.Locates grown.table.slots .insert item outcome) :
      Sought behaviour item before (.ok outcome) after
  /-- There is no vacancy on the path, and the table cannot grow. -/
  | failed {failure : Failure} {exhausted after : Session σ α}
      (searched : before.Searched behaviour exhausted)
      (missing : behaviour.Locates before.table.slots .insert item .missing)
      (madeRoom : MadeRoom behaviour true exhausted (.error failure) after) :
      Sought behaviour item before (.error failure) after

/-- How far the search for a place has come when it is cut short. -/
inductive SoughtUntil
    (behaviour : Behaviour σ ι α)
    (item : ι)
    (before : Session σ α) : Session σ α → Prop
  | first {after : Session σ α}
      (searched : before.Searched behaviour after) :
      SoughtUntil behaviour item before after
  | again {exhausted grown after : Session σ α}
      (searched : before.Searched behaviour exhausted)
      (missing : behaviour.Locates before.table.slots .insert item .missing)
      (madeRoom : MadeRoom behaviour true exhausted (.ok ()) grown)
      (again : grown.Searched behaviour after) :
      SoughtUntil behaviour item before after

theorem seek_leads (sound : before.table.Sound) (item : ι) :
    Leads (seek behaviour item) before
      (fun result after => Sought behaviour item before result after)
      (fun abort after => behaviour.Raises abort ∧
        SoughtUntil behaviour item before after) := by
  unfold seek
  rw [leads_bind]
  refine (locate_leads sound.small .insert item).mono ?_ ?_
  · rintro (index | index | _) exhausted ⟨searched, locates⟩
    · exact .located searched locates (by simp)
    · exact .located searched locates (by simp)
    · simp only [leads_bind]
      refine (makeRoom_leads (searched.preserves.sound sound) true).mono ?_ ?_
      · rintro (failure | _) grown madeRoom
        · exact .failed searched locates madeRoom
        · simp only [leads_map]
          have sound' := madeRoom.preserves.sound (searched.preserves.sound sound)
          refine (locate_leads sound'.small .insert item).mono ?_ ?_
          · rintro outcome after ⟨again, locates'⟩
            exact .grown searched locates madeRoom again locates'
          · rintro abort after ⟨raises, again⟩
            exact ⟨raises, .again searched locates madeRoom again⟩
      · rintro abort after ⟨raises, searched'⟩
        exact ⟨raises, .first (searched.trans searched')⟩
  · rintro abort after ⟨raises, searched⟩
    exact ⟨raises, .first searched⟩

namespace Sought

variable {result : Except Failure Outcome} {outcome : Outcome}

theorem preserves (sought : Sought behaviour item before result after) :
    before.Preserves behaviour after := by
  cases sought with
  | located searched => exact searched.preserves
  | grown searched _ madeRoom again =>
      exact (searched.preserves.trans madeRoom.preserves).trans again.preserves
  | failed searched _ madeRoom => exact searched.preserves.trans madeRoom.preserves

theorem flags (sought : Sought behaviour item before result after) :
    after.table.flags = before.table.flags ∪ raisedFor result := by
  cases sought with
  | located searched => rw [raisedFor, Flags.union_none, searched.flags]
  | grown searched _ madeRoom again =>
      rw [again.flags, madeRoom.flags, searched.flags]
      rfl
  | failed searched _ madeRoom =>
      rw [madeRoom.flags, searched.flags]
      rfl

/-- The outcome is that of a search of the slots at the end. -/
theorem locates (sought : Sought behaviour item before (.ok outcome) after) :
    behaviour.Locates after.table.slots .insert item outcome := by
  cases sought with
  | located searched locates => rwa [searched.slots]
  | grown _ _ _ again locates => rwa [again.slots]

/-- Room for an item remains. -/
theorem isCrowded
    (sought : Sought behaviour item before (.ok outcome) after)
    (sound : before.table.Sound)
    (roomy : before.table.isCrowded = false) :
    after.table.isCrowded = false := by
  cases sought with
  | located searched => rwa [searched.isCrowded]
  | grown searched _ madeRoom again =>
      cases madeRoom with
      | made reorganized =>
          rw [again.isCrowded]
          exact reorganized.isCrowded (searched.preserves.sound sound)

end Sought

theorem SoughtUntil.preserves (sought : SoughtUntil behaviour item before after) :
    before.Preserves behaviour after := by
  cases sought with
  | first searched => exact searched.preserves
  | again searched _ madeRoom again =>
      exact (searched.preserves.trans madeRoom.preserves).trans again.preserves

theorem SoughtUntil.flags (sought : SoughtUntil behaviour item before after) :
    after.table.flags = before.table.flags := by
  cases sought with
  | first searched => exact searched.flags
  | again searched _ madeRoom again =>
      rw [again.flags, madeRoom.flags, searched.flags, raisedFor, Flags.union_none]

/-! ## Preparing -/

/-- The part of an insertion that comes before a copy is made. -/
def prepare (behaviour : Behaviour σ ι α) (item : ι) :
    Action σ α (Except Failure Outcome) := do
  match ← relieve behaviour with
  | .error failure => pure (.error failure)
  | .ok () => seek behaviour item

/-- The part of an insertion that comes after the preparation. -/
def complete (behaviour : Behaviour σ ι α) (item : ι) :
    Except Failure Outcome → Action σ α (Except Failure (Loan α))
  | .error failure => pure (.error failure)
  | .ok (.found index) => .ok <$> lend index
  | .ok (.vacant index) => store behaviour item index
  | .ok .missing => do
    Action.flag Failure.tableFull.flags
    pure (.error .tableFull)

/-- An insertion falls into two parts. -/
theorem insert_eq (behaviour : Behaviour σ ι α) (item : ι) :
    insert behaviour item =
      Action.entered Except.isOk (prepare behaviour item >>= complete behaviour item) := by
  unfold insert prepare
  rw [bind_assoc]
  congr 2
  funext relieved
  cases relieved with
  | error failure => rfl
  | ok _ =>
      refine bind_congr fun sought => ?_
      rcases sought with failure | index | index | _ <;> rfl

/-- How the preparation of an insertion may end. -/
inductive Prepared
    (behaviour : Behaviour σ ι α)
    (item : ι)
    (before : Session σ α) : Except Failure Outcome → Session σ α → Prop
  /-- A crowded table could not be relieved. -/
  | cramped {failure : Failure} {after : Session σ α}
      (relieved : Relieved behaviour before (.error failure) after) :
      Prepared behaviour item before (.error failure) after
  /-- The table has room, and a place was sought. -/
  | sought {result : Except Failure Outcome} {roomy after : Session σ α}
      (relieved : Relieved behaviour before (.ok ()) roomy)
      (sought : Sought behaviour item roomy result after) :
      Prepared behaviour item before result after

/-- How far the preparation of an insertion has come when it is cut short. -/
inductive PreparedUntil
    (behaviour : Behaviour σ ι α)
    (item : ι)
    (before : Session σ α) : Session σ α → Prop
  | relieving {after : Session σ α}
      (searched : before.Searched behaviour after) :
      PreparedUntil behaviour item before after
  | seeking {roomy after : Session σ α}
      (relieved : Relieved behaviour before (.ok ()) roomy)
      (sought : SoughtUntil behaviour item roomy after) :
      PreparedUntil behaviour item before after

theorem prepare_leads (sound : before.table.Sound) (item : ι) :
    Leads (prepare behaviour item) before
      (fun result after => Prepared behaviour item before result after)
      (fun abort after => behaviour.Raises abort ∧
        PreparedUntil behaviour item before after) := by
  unfold prepare
  rw [leads_bind]
  refine (relieve_leads sound).mono ?_ ?_
  · rintro (failure | _) roomy relieved
    · exact .cramped relieved
    · refine (seek_leads (relieved.preserves.sound sound) item).mono ?_ ?_
      · intro result after sought
        exact .sought relieved sought
      · rintro abort after ⟨raises, sought⟩
        exact ⟨raises, .seeking relieved sought⟩
  · rintro abort after ⟨raises, searched⟩
    exact ⟨raises, .relieving searched⟩

namespace Prepared

variable {result : Except Failure Outcome} {outcome : Outcome}

theorem preserves (prepared : Prepared behaviour item before result after) :
    before.Preserves behaviour after := by
  cases prepared with
  | cramped relieved => exact relieved.preserves
  | sought relieved sought => exact relieved.preserves.trans sought.preserves

theorem flags (prepared : Prepared behaviour item before result after) :
    after.table.flags = before.table.flags ∪ raisedFor result := by
  cases prepared with
  | cramped relieved => exact relieved.flags
  | sought relieved sought =>
      rw [sought.flags, relieved.flags, show raisedFor (Except.ok ()) = .none from rfl,
        Flags.union_none]

theorem locates (prepared : Prepared behaviour item before (.ok outcome) after) :
    behaviour.Locates after.table.slots .insert item outcome := by
  cases prepared with
  | sought _ sought => exact sought.locates

theorem isCrowded
    (prepared : Prepared behaviour item before (.ok outcome) after)
    (sound : before.table.Sound) :
    after.table.isCrowded = false := by
  cases prepared with
  | sought relieved sought =>
      exact sought.isCrowded (relieved.preserves.sound sound) (relieved.isCrowded sound)

end Prepared

theorem PreparedUntil.preserves (prepared : PreparedUntil behaviour item before after) :
    before.Preserves behaviour after := by
  cases prepared with
  | relieving searched => exact searched.preserves
  | seeking relieved sought => exact relieved.preserves.trans sought.preserves

theorem PreparedUntil.flags (prepared : PreparedUntil behaviour item before after) :
    after.table.flags = before.table.flags := by
  cases prepared with
  | relieving searched => exact searched.flags
  | seeking relieved sought =>
      rw [sought.flags, relieved.flags, raisedFor, Flags.union_none]

/-! ## Occupying a slot -/

/-- The table with a copy in a slot that held none. -/
def occupied (table : Table α) (index : Nat) (copy : α) : Table α :=
  { table with
    slots := table.slots.setIfInBounds index (.occupied copy)
    entries :=
      if (slotAt table.slots index).isTombstone then table.entries else table.entries + 1
    tombstones :=
      if (slotAt table.slots index).isTombstone then table.tombstones - 1
      else table.tombstones }

/-- A sound table with room stays sound when a slot is occupied. -/
theorem Sound.occupied
    {table : Table α}
    (sound : table.Sound)
    (roomy : table.isCrowded = false)
    (within : index < table.slots.size)
    (vacant : (slotAt table.slots index).item? = none)
    (copy : α) :
    (table.occupied index copy).Sound ∧
      (table.occupied index copy).items.Perm (copy :: table.items) := by
  have items := Slot.contents_set_occupied within vacant copy
  have lengths : (table.occupied index copy).items.length = table.items.length + 1 :=
    items.length_eq
  have counted := sound.counted
  have buried := sound.buried
  have loaded := sound.loaded
  have graves := Slot.graves_set within (.occupied copy)
  have size : (table.occupied index copy).capacity = table.capacity :=
    Array.size_setIfInBounds
  rw [show (Slot.occupied copy).isTombstone.toNat = 0 from rfl] at graves
  have room : table.entries < Ladder.threshold table.capacity := by
    simpa [Table.isCrowded] using roomy
  refine ⟨?_, items⟩
  constructor
  · rw [lengths]
    cases here : (slotAt table.slots index).isTombstone <;>
      simp only [Table.occupied, here, Bool.toNat_true, Bool.toNat_false, if_true, if_false,
        Bool.false_eq_true] at graves ⊢ <;> omega
  · cases here : (slotAt table.slots index).isTombstone <;>
      simp only [Table.occupied, here, Bool.toNat_true, Bool.toNat_false, if_true, if_false,
        Bool.false_eq_true] at graves ⊢ <;> omega
  · rw [size]
    cases here : (slotAt table.slots index).isTombstone <;>
      simp only [Table.occupied, here, if_true, if_false, Bool.false_eq_true] <;> omega
  · rw [size]
    exact sound.large
  · rw [size]
    exact sound.small

/-- A slot without an item is occupied without a fault. -/
theorem Sound.leads_occupy
    (sound : before.table.Sound)
    (within : index < before.table.slots.size)
    (copy : α)
    {returned : Unit → Session σ α → Prop} {aborted : Abort → Session σ α → Prop} :
    Leads (occupy index copy) before returned aborted ↔
      returned ()
        (Session.traced { before with table := before.table.occupied index copy }
          (.inserted index (before.table.occupied index copy).entries)) := by
  unfold occupy
  simp only [leads_bind, Action.leads_inspect, id, Slot.getElem?_eq_some_slotAt within]
  have graves := Slot.graves_set within (.occupied copy)
  have buried := sound.buried
  cases here : (slotAt before.table.slots index).isTombstone with
  | false =>
      simp only [leads_bind, Action.leads_alter, Action.leads_trace, Table.occupied, here,
        if_false, Bool.false_eq_true]
  | true =>
      have counted : before.table.tombstones ≠ 0 := by
        rw [here, show (Slot.occupied copy).isTombstone.toNat = 0 from rfl,
          Bool.toNat_true] at graves
        omega
      simp only [leads_bind, Action.leads_alter, Action.leads_trace, Table.occupied, here,
        if_true, if_neg counted]

/-! ## Insertions -/

/-- How an insertion may end, from when the table has joined the roster until it
leaves. -/
inductive Inserted
    (behaviour : Behaviour σ ι α)
    (item : ι)
    (before : Session σ α) : Except Failure (Loan α) → Session σ α → Prop
  /-- There is no place for the item. -/
  | failed {failure : Failure} {after : Session σ α}
      (prepared : Prepared behaviour item before (.error failure) after) :
      Inserted behaviour item before (.error failure) after
  /-- The whole path is taken even after growing. -/
  | full {after : Session σ α}
      (prepared : Prepared behaviour item before (.ok .missing) after) :
      Inserted behaviour item before (.error .tableFull)
        (after.flagged Failure.tableFull.flags)
  /-- An equal item is stored. -/
  | present {index : Nat} {copy : α} {after : Session σ α}
      (prepared : Prepared behaviour item before (.ok (.found index)) after)
      (stored : slotAt after.table.slots index = .occupied copy) :
      Inserted behaviour item before
        (.ok { identity := after.table.identity, index, item := copy }) after
  /-- There is a place for the item, but no copy of it. -/
  | uncopied {index : Nat} {ready : Session σ α} {thread : Thread σ}
      (prepared : Prepared behaviour item before (.ok (.vacant index)) ready)
      (refused : behaviour.duplicate item ready.thread = .ok none thread) :
      Inserted behaviour item before (.error .outOfMemory)
        (Session.flagged { ready with thread } Failure.outOfMemory.flags)
  /-- A copy of the item is stored. -/
  | stored {index : Nat} {copy : α} {ready : Session σ α} {thread : Thread σ}
      (prepared : Prepared behaviour item before (.ok (.vacant index)) ready)
      (duplicated : behaviour.duplicate item ready.thread = .ok (some copy) thread) :
      Inserted behaviour item before
        (.ok { identity := ready.table.identity, index, item := copy })
        (Session.traced { ready with table := ready.table.occupied index copy, thread }
          (.inserted index (ready.table.occupied index copy).entries))

/-- How far an insertion has come when it is cut short. -/
inductive InsertedUntil
    (behaviour : Behaviour σ ι α)
    (item : ι)
    (before : Session σ α) : Session σ α → Prop
  | preparing {after : Session σ α}
      (prepared : PreparedUntil behaviour item before after) :
      InsertedUntil behaviour item before after
  | duplicating {index : Nat} {ready : Session σ α} {abort : Abort} {thread : Thread σ}
      (prepared : Prepared behaviour item before (.ok (.vacant index)) ready)
      (raised : behaviour.duplicate item ready.thread = .error abort thread) :
      InsertedUntil behaviour item before { ready with thread }

/-- However an insertion ends, the table is intact. -/
theorem Inserted.intact
    {result : Except Failure (Loan α)}
    (inserted : Inserted behaviour item before result after)
    (intact : before.table.Intact behaviour) :
    after.table.Intact behaviour := by
  cases inserted with
  | failed prepared => exact prepared.preserves.intact intact
  | full prepared => exact (prepared.preserves.intact intact).congr rfl rfl rfl
  | present prepared => exact prepared.preserves.intact intact
  | uncopied prepared => exact (prepared.preserves.intact intact).congr rfl rfl rfl
  | stored prepared duplicated =>
      obtain ⟨_, within, vacant⟩ := prepared.locates.free_of_vacant
      have ready := prepared.preserves.intact intact
      rw [Session.traced_table]
      constructor
      · exact (ready.sound.occupied (prepared.isCrowded intact.sound) within vacant _).1
      · intro laws obeys
        exact (ready.arranged obeys).occupy (prepared.locates.eq_locate obeys).symm
          (obeys.duplicate ⟨_, _, duplicated⟩)

theorem Inserted.identity
    {result : Except Failure (Loan α)}
    (inserted : Inserted behaviour item before result after) :
    after.table.identity = before.table.identity := by
  cases inserted with
  | failed prepared => exact prepared.preserves.identity
  | full prepared => exact prepared.preserves.identity
  | present prepared => exact prepared.preserves.identity
  | uncopied prepared => exact prepared.preserves.identity
  | stored prepared =>
      rw [Session.traced_table]
      exact prepared.preserves.identity

theorem InsertedUntil.intact
    (inserted : InsertedUntil behaviour item before after)
    (intact : before.table.Intact behaviour) :
    after.table.Intact behaviour := by
  cases inserted with
  | preparing prepared => exact prepared.preserves.intact intact
  | duplicating prepared => exact (prepared.preserves.intact intact).congr rfl rfl rfl

/-- An insertion that is cut short raises no flags. -/
theorem InsertedUntil.flags (inserted : InsertedUntil behaviour item before after) :
    after.table.flags = before.table.flags := by
  cases inserted with
  | preparing prepared => exact prepared.flags
  | duplicating prepared => exact prepared.flags.trans (Flags.union_none _)

/-- A copy that was put into a slot without an item is lent. -/
theorem Sound.leads_keep
    (sound : before.table.Sound)
    (within : index < before.table.slots.size)
    (copy : α)
    {returned : Except Failure (Loan α) → Session σ α → Prop}
    {aborted : Abort → Session σ α → Prop} :
    Leads (do occupy index copy; .ok <$> lend index) before returned aborted ↔
      returned (.ok { identity := before.table.identity, index, item := copy })
        (Session.traced { before with table := before.table.occupied index copy }
          (.inserted index (before.table.occupied index copy).entries)) := by
  have here : slotAt (before.table.occupied index copy).slots index = .occupied copy :=
    Slot.slotAt_set_self within _
  have stored : slotAt (Session.traced
      { before with table := before.table.occupied index copy }
      (.inserted index (before.table.occupied index copy).entries)).table.slots index =
        .occupied copy := by
    rwa [Session.traced_table]
  rw [leads_bind, sound.leads_occupy within, leads_map, leads_lend stored,
    Session.traced_table]
  exact Iff.rfl

/-- What the second part of an insertion does. -/
theorem complete_leads
    (sound : before.table.Sound)
    {result : Except Failure Outcome}
    (prepared : Prepared behaviour item before result mid) :
    Leads (complete behaviour item result) mid
      (fun result after => Inserted behaviour item before result after)
      (fun abort after => behaviour.Raises abort ∧
        InsertedUntil behaviour item before after) := by
  rcases result with failure | index | index | _
  · exact .failed prepared
  · obtain ⟨copy, stored⟩ := prepared.locates.stored_of_found
    simp only [complete, leads_map, leads_lend stored]
    exact .present prepared stored
  · obtain ⟨_, within, vacant⟩ := prepared.locates.free_of_vacant
    have sound' := prepared.preserves.sound sound
    simp only [complete, store]
    rw [leads_bind, Action.leads_call]
    refine (leads_self _ mid.thread).mono ?_ ?_
    · rintro (_ | copy) thread run
      · exact .uncopied prepared run
      · have sound'' : Sound { mid with thread }.table := sound'
        have inserted : Inserted behaviour item before _ _ := .stored prepared run
        rw [sound''.leads_keep within]
        exact inserted
    · intro abort thread run
      exact ⟨.duplicate item ⟨mid.thread, thread, run⟩, .duplicating prepared run⟩
  · simp only [complete, leads_bind, Action.leads_flag]
    exact .full prepared

/-- An insertion into a sound table that is not on the roster ends in one of the
described ways. -/
theorem insert_leads
    (sound : before.table.Sound)
    (free : before.table.identity ∉ before.thread.roster)
    (item : ι) :
    Leads (insert behaviour item) before
      (fun result after => ∃ done, Inserted behaviour item before.joined result done ∧
        after = if result.isOk then done else done.leave)
      (fun abort after => behaviour.Raises abort ∧
        ∃ done, InsertedUntil behaviour item before.joined done ∧ after = done.leave) := by
  have sound' : before.joined.table.Sound := sound
  rw [insert_eq, Action.leads_entered _ _ free, leads_bind]
  refine (prepare_leads sound' item).mono ?_ ?_
  · intro result mid prepared
    refine (complete_leads sound' prepared).mono ?_ ?_
    · intro result after inserted
      exact ⟨after, inserted, rfl⟩
    · rintro abort after ⟨raises, inserted⟩
      exact ⟨raises, after, inserted, rfl⟩
  · rintro abort after ⟨raises, prepared⟩
    exact ⟨raises, after, .preparing prepared, rfl⟩

/-- Any run of an insertion into a sound table was refused, has returned, or was
cut short. -/
theorem inserted_of_passes
    (sound : before.table.Sound)
    (run : Passes (insert behaviour item) before after) :
    after = before ∨ ∃ done, (after = done ∨ after = done.leave) ∧
      ((∃ result, Inserted behaviour item before.joined result done) ∨
        InsertedUntil behaviour item before.joined done) := by
  by_cases busy : before.table.identity ∈ before.thread.roster
  · have refused : insert behaviour item before = .error .reentered before :=
      Action.entered_of_mem Except.isOk _ busy
    rw [Passes, refused] at run
    rcases run with ⟨_, run⟩ | ⟨_, run⟩ <;> cases run
    exact Or.inl rfl
  · have leads : Leads (insert behaviour item) before _ _ := insert_leads sound busy item
    rcases run with ⟨result, run⟩ | ⟨abort, run⟩
    · obtain ⟨done, inserted, isDone⟩ := leads.of_ok run
      refine Or.inr ⟨done, ?_, Or.inl ⟨result, inserted⟩⟩
      rw [isDone]
      cases result with
      | error failure => exact Or.inr rfl
      | ok loan => exact Or.inl rfl
    · obtain ⟨_, done, inserted, rfl⟩ := leads.of_error run
      exact Or.inr ⟨done, Or.inr rfl, Or.inr inserted⟩

end Table
end OpenAddressing
