import OpenAddressing.Proofs.Looking
import OpenAddressing.Table.Remove

/-!
# Removing

A removed item turns its slot into a tombstone before its copy is released, so
the table is whole again when the release is called.  A retention asks about the
items in the order of the slots and removes those that are not to be kept, one
after the other.
-/

namespace OpenAddressing

open Relocation (slotAt)

variable {σ ι α : Type} {behaviour : Behaviour σ ι α} {laws : Laws ι}
variable {before mid after : Session σ α} {item : ι} {copy : α} {index : Nat}

namespace Table

/-! ## Burying an item -/

/-- The table with a tombstone in place of an item. -/
def buried (table : Table α) (index : Nat) : Table α :=
  { table with
    slots := table.slots.setIfInBounds index .tombstone
    tombstones := table.tombstones + 1 }

/-- The item of the slot leaves the items. -/
theorem items_buried
    {table : Table α}
    (stored : slotAt table.slots index = .occupied copy) :
    table.items.Perm (copy :: (table.buried index).items) :=
  Slot.contents_set_vacated stored Slot.item?_tombstone

/-- A sound table stays sound when an item is buried. -/
theorem Sound.bury
    {table : Table α}
    (sound : table.Sound)
    (stored : slotAt table.slots index = .occupied copy) :
    (table.buried index).Sound := by
  have within := Slot.lt_size_of_slotAt stored (by simp)
  have lengths := (items_buried stored).length_eq
  rw [List.length_cons] at lengths
  have graves := Slot.graves_set within .tombstone
  have size : (table.buried index).capacity = table.capacity := Array.size_setIfInBounds
  rw [stored, show (Slot.occupied copy).isTombstone.toNat = 0 from rfl,
    show (Slot.tombstone : Slot α).isTombstone.toNat = 1 from rfl] at graves
  constructor
  · change table.entries = _ + (table.tombstones + 1)
    have counted := sound.counted
    omega
  · change table.tombstones + 1 = _
    rw [sound.buried]
    exact graves.symm
  · rw [size]
    exact sound.loaded
  · rw [size]
    exact sound.large
  · rw [size]
    exact sound.small

/-- So does an intact one. -/
theorem Intact.bury
    {table : Table α}
    (intact : table.Intact behaviour)
    (stored : slotAt table.slots index = .occupied copy) :
    (table.buried index).Intact behaviour where
  sound := intact.sound.bury stored
  arranged := fun obeys => (intact.arranged obeys).bury stored

/-! ## Removals -/

/-- The session in which the copy of a removed item is released. -/
def unlinked (session : Session σ α) (index : Nat) : Session σ α :=
  Session.traced { session with table := session.table.buried index }
    (.removed index (session.table.tombstones + 1))

/-- How a removal may end. -/
inductive Removed
    (behaviour : Behaviour σ ι α)
    (item : ι)
    (before : Session σ α) : Option ι → Session σ α → Prop
  | absent {after : Session σ α}
      (lookedUp : LookedUp behaviour item before none after) :
      Removed behaviour item before none after
  | removed {index : Nat} {copy : α} {ready : Session σ α} {thread : Thread σ}
      (lookedUp : LookedUp behaviour item before (some (index, copy)) ready)
      (released : behaviour.release copy ready.thread = .ok () thread) :
      Removed behaviour item before (some item) { unlinked ready index with thread }

/-- How far a removal has come when it is cut short. -/
inductive RemovedUntil
    (behaviour : Behaviour σ ι α)
    (item : ι)
    (before : Session σ α) : Session σ α → Prop
  | searching {after : Session σ α}
      (searched : before.Searched behaviour after) :
      RemovedUntil behaviour item before after
  | releasing {index : Nat} {copy : α} {ready : Session σ α} {abort : Abort} {thread : Thread σ}
      (lookedUp : LookedUp behaviour item before (some (index, copy)) ready)
      (raised : behaviour.release copy ready.thread = .error abort thread) :
      RemovedUntil behaviour item before { unlinked ready index with thread }

/-- The table is intact when the copy of a removed item is released. -/
theorem intact_unlinked
    (intact : mid.table.Intact behaviour)
    (stored : slotAt mid.table.slots index = .occupied copy)
    (thread : Thread σ) :
    ({ unlinked mid index with thread } : Session σ α).table.Intact behaviour := by
  unfold unlinked
  rw [Session.traced_table]
  exact intact.bury stored

theorem Removed.intact
    {item? : Option ι}
    (removed : Removed behaviour item before item? after)
    (intact : before.table.Intact behaviour) :
    after.table.Intact behaviour := by
  cases removed with
  | absent lookedUp => exact lookedUp.searched.preserves.intact intact
  | removed lookedUp =>
      exact intact_unlinked (lookedUp.searched.preserves.intact intact) lookedUp.stored _

theorem Removed.identity
    {item? : Option ι}
    (removed : Removed behaviour item before item? after) :
    after.table.identity = before.table.identity := by
  cases removed with
  | absent lookedUp => exact lookedUp.searched.identity
  | removed lookedUp =>
      unfold unlinked
      rw [Session.traced_table]
      exact lookedUp.searched.identity

theorem RemovedUntil.intact
    (removed : RemovedUntil behaviour item before after)
    (intact : before.table.Intact behaviour) :
    after.table.Intact behaviour := by
  cases removed with
  | searching searched => exact searched.preserves.intact intact
  | releasing lookedUp =>
      exact intact_unlinked (lookedUp.searched.preserves.intact intact) lookedUp.stored _

theorem remove_leads
    (sound : before.table.Sound)
    (free : before.table.identity ∉ before.thread.roster)
    (item : ι) :
    Leads (remove behaviour item) before
      (fun removed? after => ∃ done, Removed behaviour item before.joined removed? done ∧
        after = done.leave)
      (fun abort after => behaviour.Raises abort ∧
        ∃ done, RemovedUntil behaviour item before.joined done ∧ after = done.leave) := by
  have sound' : before.joined.table.Sound := sound
  unfold remove Action.guarded
  rw [Action.leads_entered _ _ free]
  refine leads_locate_lookup sound' ?_ ?_ ?_
  · intro after lookedUp
    exact ⟨after, .absent lookedUp, rfl⟩
  · intro index copy ready lookedUp
    simp only [bury, leads_bind, leads_storedAt lookedUp.stored, Action.leads_alter,
      Action.leads_trace, Action.leads_call, leads_pure, Session.traced_thread]
    refine (leads_self _ ready.thread).mono ?_ ?_
    · intro _ thread run
      exact ⟨_, .removed lookedUp run, rfl⟩
    · intro abort thread run
      exact ⟨.release copy ⟨_, _, run⟩, _, .releasing lookedUp run, rfl⟩
  · intro abort after raises searched
    exact ⟨raises, after, .searching searched, rfl⟩

/-! ## Retentions -/

/-- Foreign code was asked about copies one after the other, and the copies that
it did not want to keep were released. -/
inductive Sieves
    (behaviour : Behaviour σ ι α)
    (keep : α → Call σ Bool)
    (begin : Thread σ) : (asked kept : List α) → Thread σ → Prop
  | start : Sieves behaviour keep begin [] [] begin
  | kept {asked kept : List α} {copy : α} {before after : Thread σ}
      (sieves : Sieves behaviour keep begin asked kept before)
      (keeps : keep copy before = .ok true after) :
      Sieves behaviour keep begin (asked ++ [copy]) (kept ++ [copy]) after
  | rejected {asked kept : List α} {copy : α} {before told after : Thread σ}
      (sieves : Sieves behaviour keep begin asked kept before)
      (rejects : keep copy before = .ok false told)
      (released : behaviour.release copy told = .ok () after) :
      Sieves behaviour keep begin (asked ++ [copy]) kept after

/-- What is kept was asked about. -/
theorem Sieves.sublist
    {keep : α → Call σ Bool} {asked kept : List α} {begin thread : Thread σ}
    (sieves : Sieves behaviour keep begin asked kept thread) :
    kept.Sublist asked := by
  induction sieves with
  | start => exact List.Sublist.refl []
  | kept _ _ inductionHypothesis => exact inductionHypothesis.append_right _
  | rejected _ _ _ inductionHypothesis =>
      exact inductionHypothesis.trans (List.sublist_append_left _ _)

/-- Foreign code was asked about copies in turn until it was cut short.  The copies
rejected before are gone, and so is the one whose release was cut short.  The
copies that come later were not asked about. -/
inductive SievesUntil
    (behaviour : Behaviour σ ι α)
    (keep : α → Call σ Bool)
    (begin : Thread σ) : (stored left : List α) → Thread σ → Prop
  | asking {asked kept later : List α} {copy : α} {abort : Abort} {before after : Thread σ}
      (sieves : Sieves behaviour keep begin asked kept before)
      (raised : keep copy before = .error abort after) :
      SievesUntil behaviour keep begin (asked ++ copy :: later) (kept ++ copy :: later) after
  | releasing {asked kept later : List α} {copy : α} {abort : Abort}
      {before told after : Thread σ}
      (sieves : Sieves behaviour keep begin asked kept before)
      (rejects : keep copy before = .ok false told)
      (raised : behaviour.release copy told = .error abort after) :
      SievesUntil behaviour keep begin (asked ++ copy :: later) (kept ++ later) after

/-- What is left was stored. -/
theorem SievesUntil.sublist
    {keep : α → Call σ Bool} {stored left : List α} {begin thread : Thread σ}
    (sieves : SievesUntil behaviour keep begin stored left thread) :
    left.Sublist stored := by
  cases sieves with
  | asking sieves => exact sieves.sublist.append_right _
  | releasing sieves => exact sieves.sublist.append (List.sublist_cons_self _ _)

/-- A retention has dealt with the slots below a number and removed some items. -/
inductive Retained
    (behaviour : Behaviour σ ι α)
    (keep : α → Call σ Bool)
    (before : Session σ α) : (count removed : Nat) → Session σ α → Prop
  | start : Retained behaviour keep before 0 0 before
  | bare {count removed : Nat} {session : Session σ α}
      (retained : Retained behaviour keep before count removed session)
      (vacant : (slotAt session.table.slots count).item? = none) :
      Retained behaviour keep before (count + 1) removed session
  | kept {count removed : Nat} {session : Session σ α} {copy : α} {thread : Thread σ}
      (retained : Retained behaviour keep before count removed session)
      (stored : slotAt session.table.slots count = .occupied copy)
      (keeps : keep copy session.thread = .ok true thread) :
      Retained behaviour keep before (count + 1) removed { session with thread }
  | rejected {count removed : Nat} {session : Session σ α} {copy : α}
      {asked thread : Thread σ}
      (retained : Retained behaviour keep before count removed session)
      (stored : slotAt session.table.slots count = .occupied copy)
      (rejects : keep copy session.thread = .ok false asked)
      (released : behaviour.release copy asked = .ok () thread) :
      Retained behaviour keep before (count + 1) (removed + 1)
        { session with table := session.table.buried count, thread }

/-- How far a retention has come when it is cut short. -/
inductive RetainedUntil
    (behaviour : Behaviour σ ι α)
    (keep : α → Call σ Bool)
    (before : Session σ α) : Session σ α → Prop
  | asking {count removed : Nat} {session : Session σ α} {copy : α} {abort : Abort}
      {thread : Thread σ}
      (retained : Retained behaviour keep before count removed session)
      (stored : slotAt session.table.slots count = .occupied copy)
      (raised : keep copy session.thread = .error abort thread) :
      RetainedUntil behaviour keep before { session with thread }
  | releasing {count removed : Nat} {session : Session σ α} {copy : α} {abort : Abort}
      {asked thread : Thread σ}
      (retained : Retained behaviour keep before count removed session)
      (stored : slotAt session.table.slots count = .occupied copy)
      (rejects : keep copy session.thread = .ok false asked)
      (raised : behaviour.release copy asked = .error abort thread) :
      RetainedUntil behaviour keep before
        { session with table := session.table.buried count, thread }

variable {keep : α → Call σ Bool} {count removed : Nat} {session : Session σ α}

namespace Retained

theorem capacity (retained : Retained behaviour keep before count removed session) :
    session.table.capacity = before.table.capacity := by
  induction retained with
  | start => rfl
  | bare _ _ inductionHypothesis => exact inductionHypothesis
  | kept _ _ _ inductionHypothesis => exact inductionHypothesis
  | rejected _ _ _ _ inductionHypothesis =>
      exact Array.size_setIfInBounds.trans inductionHypothesis

theorem identity (retained : Retained behaviour keep before count removed session) :
    session.table.identity = before.table.identity := by
  induction retained with
  | start => rfl
  | bare _ _ inductionHypothesis => exact inductionHypothesis
  | kept _ _ _ inductionHypothesis => exact inductionHypothesis
  | rejected _ _ _ _ inductionHypothesis => exact inductionHypothesis

/-- The counts follow the slots, and the paths of the items that are kept stay
whole. -/
theorem intact
    (retained : Retained behaviour keep before count removed session)
    (intact : before.table.Intact behaviour) :
    session.table.Intact behaviour := by
  induction retained with
  | start => exact intact
  | bare _ _ inductionHypothesis => exact inductionHypothesis
  | kept _ _ _ inductionHypothesis => exact inductionHypothesis
  | rejected _ stored _ _ inductionHypothesis => exact inductionHypothesis.bury stored

/-- The slots ahead have not been touched. -/
theorem ahead
    (retained : Retained behaviour keep before count removed session)
    (index : Nat)
    (later : count ≤ index) :
    slotAt session.table.slots index = slotAt before.table.slots index := by
  induction retained with
  | start => rfl
  | bare _ _ inductionHypothesis => exact inductionHypothesis (by omega)
  | kept _ _ _ inductionHypothesis => exact inductionHypothesis (by omega)
  | rejected _ _ _ _ inductionHypothesis =>
      refine Eq.trans ?_ (inductionHypothesis (by omega))
      exact Slot.slotAt_set_of_ne (by omega) _

theorem drop_ahead
    (retained : Retained behaviour keep before count removed session)
    (index : Nat)
    (later : count ≤ index) :
    session.table.slots.toList.drop index = before.table.slots.toList.drop index := by
  have size : session.table.slots.size = before.table.slots.size := retained.capacity
  refine List.ext_getElem? fun further => ?_
  rw [List.getElem?_drop, List.getElem?_drop, Array.getElem?_toList, Array.getElem?_toList]
  by_cases within : index + further < before.table.slots.size
  · rw [Slot.getElem?_eq_some_slotAt within, Slot.getElem?_eq_some_slotAt (size ▸ within),
      retained.ahead _ (by omega)]
  · rw [Array.getElem?_eq_none (by omega), Array.getElem?_eq_none (by omega)]

/-- The items passed are those that were kept, in their order. -/
theorem sieves (retained : Retained behaviour keep before count removed session) :
    ∃ kept, (session.table.slots.toList.take count).filterMap Slot.item? = kept ∧
      Sieves behaviour keep before.thread
        ((before.table.slots.toList.take count).filterMap Slot.item?) kept session.thread ∧
      removed + kept.length =
        ((before.table.slots.toList.take count).filterMap Slot.item?).length := by
  induction retained with
  | start => exact ⟨[], rfl, .start, rfl⟩
  | bare retained vacant inductionHypothesis =>
      obtain ⟨kept, same, sieves, number⟩ := inductionHypothesis
      rw [Slot.filterMap_take_succ, Slot.filterMap_take_succ,
        ← retained.ahead _ (Nat.le_refl _), vacant, Option.toList_none, List.append_nil,
        List.append_nil]
      exact ⟨kept, same, sieves, number⟩
  | @kept count removed session copy thread retained stored keeps inductionHypothesis =>
      obtain ⟨kept, same, sieves, number⟩ := inductionHypothesis
      rw [Slot.filterMap_take_succ, Slot.filterMap_take_succ,
        ← retained.ahead _ (Nat.le_refl _), stored, same]
      refine ⟨kept ++ [copy], rfl, .kept sieves keeps, ?_⟩
      rw [List.length_append, List.length_append, ← number]
      exact (Nat.add_assoc ..).symm
  | @rejected count removed session copy asked thread retained stored rejects released
      inductionHypothesis =>
      obtain ⟨kept, same, sieves, number⟩ := inductionHypothesis
      have within := Slot.lt_size_of_slotAt stored (by simp)
      refine ⟨kept, ?_, ?_, ?_⟩
      · simp only [buried]
        rw [Slot.filterMap_take_succ, Slot.slotAt_set_self within, Slot.filterMap_take_set,
          same, Slot.item?_tombstone, Option.toList_none, List.append_nil]
      · rw [Slot.filterMap_take_succ, ← retained.ahead _ (Nat.le_refl _), stored]
        exact .rejected sieves rejects released
      · rw [Slot.filterMap_take_succ, ← retained.ahead _ (Nat.le_refl _), stored,
          List.length_append, ← number]
        exact Nat.add_right_comm removed 1 kept.length

/-- The items at the end are those that were kept, in their order. -/
theorem items
    (retained : Retained behaviour keep before before.table.capacity removed session) :
    Sieves behaviour keep before.thread before.table.items session.table.items
        session.thread ∧
      removed + session.table.items.length = before.table.items.length := by
  obtain ⟨kept, same, sieves, number⟩ := retained.sieves
  have size : before.table.capacity = session.table.slots.size := retained.capacity.symm
  have all : kept = session.table.items := by
    rw [← same, size]
    exact Slot.filterMap_take_size session.table.slots
  rw [show before.table.capacity = before.table.slots.size from rfl,
    Slot.filterMap_take_size, all] at sieves number
  exact ⟨sieves, number⟩

end Retained

theorem RetainedUntil.intact
    (retained : RetainedUntil behaviour keep before after)
    (intact : before.table.Intact behaviour) :
    after.table.Intact behaviour := by
  cases retained with
  | asking retained => exact (retained.intact intact).congr rfl rfl rfl
  | releasing retained stored => exact (retained.intact intact).bury stored

/-- A retention that is cut short leaves what was kept and what was not asked
about. -/
theorem RetainedUntil.sieves (retained : RetainedUntil behaviour keep before after) :
    SievesUntil behaviour keep before.thread before.table.items after.table.items
      after.thread := by
  cases retained with
  | @asking count removed session copy abort thread retained stored raised =>
      obtain ⟨kept, same, sieves, _⟩ := retained.sieves
      have stored' := (retained.ahead count (Nat.le_refl count)).symm.trans stored
      have items := Slot.contents_eq_append_cons stored'
      have left := Slot.contents_eq_append_cons stored
      rw [same, retained.drop_ahead (count + 1) (Nat.le_succ count)] at left
      change SievesUntil _ _ _ (Slot.contents _) (Slot.contents session.table.slots) _
      rw [items, left]
      exact .asking sieves raised
  | @releasing count removed session copy abort asked thread retained stored rejects raised =>
      obtain ⟨kept, same, sieves, _⟩ := retained.sieves
      have within := Slot.lt_size_of_slotAt stored (by simp)
      have stored' := (retained.ahead count (Nat.le_refl count)).symm.trans stored
      have items := Slot.contents_eq_append_cons stored'
      have left := Slot.contents_set_eq_append within (@Slot.item?_tombstone α)
      rw [same, retained.drop_ahead (count + 1) (Nat.le_succ count)] at left
      change SievesUntil _ _ _ (Slot.contents _)
        (Slot.contents (session.table.slots.setIfInBounds count .tombstone)) _
      rw [items, left]
      exact .releasing sieves rejects raised

/-- Dealing with one more slot goes on with a retention. -/
theorem retainAt_leads
    (retained : Retained behaviour keep before count removed session)
    (within : count < session.table.slots.size) :
    Leads (retainAt behaviour keep count) session
      (fun more after => Retained behaviour keep before (count + 1) (removed + more) after)
      (fun abort after => (behaviour.Raises abort ∨ ∃ copy, CutBy (keep copy) abort) ∧
        RetainedUntil behaviour keep before after) := by
  unfold retainAt
  simp only [leads_bind, Action.leads_inspect, Slot.getElem?_eq_some_slotAt within]
  cases here : slotAt session.table.slots count with
  | empty => exact .bare retained (by rw [here]; rfl)
  | tombstone => exact .bare retained (by rw [here]; rfl)
  | occupied copy =>
      simp only [Slot.item?_occupied, leads_bind, Action.leads_call]
      refine (leads_self _ session.thread).mono ?_ ?_
      · rintro (_ | _) asked run
        · simp only [bury, Bool.false_eq_true, if_false, leads_bind, Action.leads_alter,
            Action.leads_call, leads_pure]
          refine (leads_self _ asked).mono ?_ ?_
          · intro _ thread released
            exact .rejected retained here run released
          · intro abort thread raised
            exact ⟨Or.inl (.release copy ⟨_, _, raised⟩), .releasing retained here run raised⟩
        · exact .kept retained here run
      · intro abort thread raised
        exact ⟨Or.inr ⟨copy, _, _, raised⟩, .asking retained here raised⟩

theorem retain_leads
    (free : before.table.identity ∉ before.thread.roster)
    (keep : α → Call σ Bool) :
    Leads (retain behaviour keep) before
      (fun removed after => ∃ done,
        Retained behaviour keep before.joined before.table.capacity removed done ∧
        after = done.leave)
      (fun abort after => (behaviour.Raises abort ∨ ∃ copy, CutBy (keep copy) abort) ∧
        ∃ done, RetainedUntil behaviour keep before.joined done ∧ after = done.leave) := by
  unfold retain Action.guarded
  rw [Action.leads_entered _ _ free]
  simp only [leads_bind, Action.leads_inspect, List.range_eq_range']
  have begun : Retained behaviour keep before.joined 0 0 before.joined := .start
  have each : ∀ count removed session, count < before.table.capacity →
      Retained behaviour keep before.joined count removed session →
      Leads (retainAt behaviour keep count) session
        (fun more after =>
          Retained behaviour keep before.joined (count + 1) (removed + more) after)
        (fun abort after => (behaviour.Raises abort ∨ ∃ copy, CutBy (keep copy) abort) ∧
          RetainedUntil behaviour keep before.joined after) := by
    intro count removed session within retained
    exact retainAt_leads retained (within.trans_eq retained.capacity.symm)
  have leads := leads_total each before.table.capacity 0 0 (by omega) begun
  rw [Nat.zero_add] at leads
  refine leads.mono ?_ ?_
  · intro removed done retained
    exact ⟨done, retained, rfl⟩
  · rintro abort done ⟨cut, retained⟩
    exact ⟨cut, done, retained, rfl⟩

end Table
end OpenAddressing
