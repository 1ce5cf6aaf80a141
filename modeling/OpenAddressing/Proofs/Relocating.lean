import OpenAddressing.Proofs.Locating

/-!
# Relocating items

A relocation moves the items of an array, in the order of its slots, to an empty
array.  Wherever it has got to, undoing its moves restores the array that it
started from, and the items in the two arrays together are the items it started
with.  What it has built so far is a refill of the empty array; under laws there
is one such refill, the rebuilt array.
-/

namespace OpenAddressing

open Relocation (slotAt)
open Probe (Outcome)

variable {σ ι α β : Type} {behaviour : Behaviour σ ι α}

/-! ## Refilled arrays -/

/-- An empty array may come to hold these slots when items are placed in it one
after another.  An item without a vacancy is left out. -/
inductive Behaviour.Refills (behaviour : Behaviour σ ι α) (capacity : Nat) :
    List α → Array (Slot α) → Prop
  | start : Refills behaviour capacity [] (Slot.row α capacity)
  | moved {items : List α} {target : Array (Slot α)} {item : α} {destination : Nat}
      (refills : Refills behaviour capacity items target)
      (vacant : behaviour.Locates target .insert (behaviour.key item) (.vacant destination)) :
      Refills behaviour capacity (items ++ [item])
        (target.setIfInBounds destination (.occupied item))
  | left {items : List α} {target : Array (Slot α)} {item : α} {outcome : Outcome}
      (refills : Refills behaviour capacity items target)
      (located : behaviour.Locates target .insert (behaviour.key item) outcome)
      (noVacancy : ∀ destination, outcome ≠ .vacant destination) :
      Refills behaviour capacity (items ++ [item]) target

namespace Behaviour.Refills

variable {capacity : Nat} {items : List α} {target : Array (Slot α)} {laws : Laws ι}

theorem size (refills : behaviour.Refills capacity items target) :
    target.size = capacity := by
  induction refills with
  | start => exact Slot.size_row α capacity
  | moved _ _ inductionHypothesis => simpa using inductionHypothesis
  | left _ _ _ inductionHypothesis => exact inductionHypothesis

/-- Nothing is removed from an array while it is refilled. -/
theorem noTombstone
    (refills : behaviour.Refills capacity items target)
    (index : Nat) :
    slotAt target index ≠ .tombstone := by
  induction refills with
  | start => simp
  | moved _ _ inductionHypothesis => exact Slot.slotAt_set_ne (by simp) inductionHypothesis
  | left _ _ _ inductionHypothesis => exact inductionHypothesis

/-- Under laws, there is one way to refill an array. -/
theorem eq_rebuild
    (obeys : behaviour.Obeys laws)
    (refills : behaviour.Refills capacity items target) :
    target = laws.rebuild behaviour.key capacity items := by
  induction refills with
  | start => rfl
  | moved _ vacant inductionHypothesis =>
      have located := vacant.eq_locate obeys
      unfold Laws.rebuild at inductionHypothesis ⊢
      rw [List.foldl_append, ← inductionHypothesis, List.foldl_cons, List.foldl_nil,
        Laws.settle, ← located]
  | @left _ _ _ outcome _ located noVacancy inductionHypothesis =>
      have located := located.eq_locate obeys
      unfold Laws.rebuild at inductionHypothesis ⊢
      rw [List.foldl_append, ← inductionHypothesis, List.foldl_cons, List.foldl_nil,
        Laws.settle, ← located]
      cases outcome with
      | found index => rfl
      | missing => rfl
      | vacant destination => exact absurd rfl (noVacancy destination)

end Behaviour.Refills

/-! ## Undoing moves -/

namespace Relocation

variable {relocation : Relocation σ α} {origin destination : Nat} {item : α}

/-- What is restored depends on the two arrays and the moves to undo alone. -/
theorem source_foldl_undo
    (steps : List (Nat × Nat))
    (relocation other : Relocation σ α)
    (source : relocation.source = other.source)
    (target : relocation.target = other.target) :
    (steps.foldl (fun relocation (origin, destination) =>
      relocation.undo origin destination) relocation).source =
      (steps.foldl (fun relocation (origin, destination) =>
        relocation.undo origin destination) other).source := by
  induction steps generalizing relocation other with
  | nil => exact source
  | cons step steps inductionHypothesis =>
      refine inductionHypothesis _ _ ?_ ?_
      · simp only [undo, source, target]
      · simp only [undo, target]

/-- A move that is undone leaves no trace. -/
theorem rollBack_move
    (here : slotAt relocation.source origin = .occupied item)
    (there : slotAt relocation.target destination = .empty)
    (within : destination < relocation.target.size)
    (room : Nat) :
    ({ relocation with
      source := relocation.source.setIfInBounds origin .empty
      target := relocation.target.setIfInBounds destination (.occupied item)
      moves := (origin, destination) :: relocation.moves
      room } : Relocation σ α).rollBack.source = relocation.rollBack.source := by
  refine source_foldl_undo relocation.moves _ relocation ?_ ?_
  · simp only [undo, Slot.slotAt_set_self within, Array.setIfInBounds_setIfInBounds]
    rw [← here, Slot.set_slotAt]
  · simp only [undo, Array.setIfInBounds_setIfInBounds]
    rw [← there, Slot.set_slotAt]

/-! ## The parts of a step -/

variable {returned : β → Relocation σ α → Prop} {aborted : Abort → Relocation σ α → Prop}

/-- Foreign code changes the thread alone. -/
@[simp] theorem leads_call (foreign : Call σ β) :
    Leads (call foreign) relocation returned aborted ↔
      Leads foreign relocation.thread
        (fun value thread => returned value { relocation with thread })
        (fun abort thread => aborted abort { relocation with thread }) := by
  unfold Leads call
  cases foreign relocation.thread <;> exact Iff.rfl

/-- A search changes the tally and the thread alone. -/
@[simp] theorem leads_searching (search : Array (Slot α) → Probe.Counting (Thread σ) β) :
    Leads (searching search) relocation returned aborted ↔
      Leads (search relocation.target) (relocation.tally, relocation.thread)
        (fun value after => returned value { relocation with
          tally := after.1
          thread := after.2 })
        (fun abort after => aborted abort { relocation with
          tally := after.1
          thread := after.2 }) := by
  unfold Leads searching
  cases search relocation.target (relocation.tally, relocation.thread) <;> exact Iff.rfl

/-- A move that has room and a destination is made. -/
theorem leads_move
    {returned : Unit → Relocation σ α → Prop} {room : Nat}
    (within : destination < relocation.target.size)
    (enough : relocation.room = room + 1)
    (after : returned () { relocation with
      source := relocation.source.setIfInBounds origin .empty
      target := relocation.target.setIfInBounds destination (.occupied item)
      moves := (origin, destination) :: relocation.moves
      room }) :
    Leads (move item origin destination) relocation returned aborted := by
  unfold Leads move
  rw [if_neg (Nat.not_le.mpr within)]
  simp only [enough]
  exact after

/-! ## Relocations under way -/

/-- A relocation that has dealt with the slots below a number. -/
structure Underway
    (behaviour : Behaviour σ ι α)
    (original : Array (Slot α))
    (capacity : Nat)
    (start : Thread σ)
    (count : Nat)
    (relocation : Relocation σ α) : Prop where
  /-- Undoing the moves restores the array. -/
  restores : relocation.rollBack.source = original
  /-- The slots ahead have not been touched. -/
  ahead : ∀ index, count ≤ index →
    slotAt relocation.source index = slotAt original index
  /-- The new array is refilled with the items passed. -/
  refills : behaviour.Refills capacity
    ((original.toList.take count).filterMap Slot.item?) relocation.target
  /-- No item is lost and none is made. -/
  whole : (Slot.contents relocation.source ++ Slot.contents relocation.target).Perm
    (Slot.contents original)
  /-- Every move brings an item to the new array. -/
  moved : relocation.moves.length = (Slot.contents relocation.target).length
  /-- There is room to write down the moves of all items that are left. -/
  roomy : relocation.room = (Slot.contents relocation.source).length
  /-- The thread is where questions to the foreign functions lead. -/
  asked : behaviour.Consults start relocation.thread

variable {original : Array (Slot α)} {capacity count : Nat} {start : Thread σ}

/-- What a relocation keeps until it is cut short. -/
def Recoverable
    (behaviour : Behaviour σ ι α)
    (original : Array (Slot α))
    (start : Thread σ)
    (relocation : Relocation σ α) : Prop :=
  relocation.rollBack.source = original ∧ behaviour.Consults start relocation.thread

/-- At the start nothing has been moved. -/
theorem Underway.first
    (behaviour : Behaviour σ ι α)
    (original : Array (Slot α))
    (capacity room : Nat)
    (tally : Probe.Tally)
    (thread : Thread σ)
    (roomy : room = (Slot.contents original).length) :
    Underway behaviour original capacity thread 0 {
      source := original
      target := Slot.row α capacity
      room
      tally
      thread } where
  restores := rfl
  ahead := fun _ _ => rfl
  refills := .start
  whole := by simp
  moved := by simp
  roomy := roomy
  asked := .refl thread

namespace Underway

/-- A search of the new array leaves the relocation under way. -/
theorem searched
    (underway : Underway behaviour original capacity start count relocation)
    (tally : Probe.Tally)
    {thread : Thread σ}
    (consults : behaviour.Consults relocation.thread thread) :
    Underway behaviour original capacity start count { relocation with tally, thread } :=
  { underway with
    restores := (source_foldl_undo relocation.moves
      ({ relocation with tally, thread } : Relocation σ α) relocation rfl rfl).trans
      underway.restores
    asked := underway.asked.trans consults }

/-- A slot without an item is passed over. -/
theorem pass
    (underway : Underway behaviour original capacity start count relocation)
    (vacant : (slotAt relocation.source count).item? = none) :
    Underway behaviour original capacity start (count + 1) relocation :=
  { underway with
    ahead := fun index later => underway.ahead index (by omega)
    refills := by
      rw [Slot.filterMap_take_succ, ← underway.ahead count (Nat.le_refl _), vacant]
      simpa using underway.refills }

/-- An item without a vacancy stays where it is. -/
theorem leave
    (underway : Underway behaviour original capacity start count relocation)
    (here : slotAt relocation.source count = .occupied item)
    {outcome : Outcome}
    (located : behaviour.Locates relocation.target .insert (behaviour.key item) outcome)
    (noVacancy : ∀ destination, outcome ≠ .vacant destination) :
    Underway behaviour original capacity start (count + 1) relocation :=
  { underway with
    ahead := fun index later => underway.ahead index (by omega)
    refills := by
      rw [Slot.filterMap_take_succ, ← underway.ahead count (Nat.le_refl _), here]
      exact .left underway.refills located noVacancy }

/-- The slot of a vacancy has never been used. -/
theorem empty_of_vacant
    (underway : Underway behaviour original capacity start count relocation)
    (vacant : behaviour.Locates relocation.target .insert (behaviour.key item)
      (.vacant destination)) :
    slotAt relocation.target destination = .empty := by
  have noTombstone := underway.refills.noTombstone destination
  have free := vacant.free_of_vacant.2.2
  cases slot : slotAt relocation.target destination with
  | empty => rfl
  | tombstone => exact absurd slot noTombstone
  | occupied other => simp [slot] at free

/-- While an item is left, there is room to write down its move. -/
theorem exists_room
    (underway : Underway behaviour original capacity start count relocation)
    (here : slotAt relocation.source origin = .occupied item) :
    relocation.room = (Slot.contents
      (relocation.source.setIfInBounds origin .empty)).length + 1 := by
  rw [underway.roomy, (Slot.contents_set_vacated here Slot.item?_empty).length_eq,
    List.length_cons]

/-- An item with a vacancy moves there. -/
theorem move
    (underway : Underway behaviour original capacity start count relocation)
    (here : slotAt relocation.source count = .occupied item)
    (vacant : behaviour.Locates relocation.target .insert (behaviour.key item)
      (.vacant destination)) :
    Underway behaviour original capacity start (count + 1) { relocation with
      source := relocation.source.setIfInBounds count .empty
      target := relocation.target.setIfInBounds destination (.occupied item)
      moves := (count, destination) :: relocation.moves
      room := (Slot.contents (relocation.source.setIfInBounds count .empty)).length } := by
  have within := vacant.free_of_vacant.2.1
  have there := underway.empty_of_vacant vacant
  have taken := Slot.contents_set_vacated here (show (Slot.empty : Slot α).item? = none from rfl)
  have given := Slot.contents_set_occupied within (by rw [there]; rfl) item
  constructor
  · exact (rollBack_move here there within _).trans underway.restores
  · intro index later
    rw [Slot.slotAt_set_of_ne (by omega)]
    exact underway.ahead index (by omega)
  · rw [Slot.filterMap_take_succ, ← underway.ahead count (Nat.le_refl _), here]
    exact .moved underway.refills vacant
  · refine List.Perm.trans ?_ underway.whole
    calc Slot.contents (relocation.source.setIfInBounds count .empty) ++
          Slot.contents (relocation.target.setIfInBounds destination (.occupied item))
        |>.Perm (Slot.contents (relocation.source.setIfInBounds count .empty) ++
          item :: Slot.contents relocation.target) := given.append_left _
      _ |>.Perm (item :: Slot.contents (relocation.source.setIfInBounds count .empty) ++
          Slot.contents relocation.target) := List.perm_middle
      _ |>.Perm (Slot.contents relocation.source ++ Slot.contents relocation.target) :=
        (taken.symm).append_right _
  · rw [given.length_eq, List.length_cons, List.length_cons, underway.moved]
  · rfl
  · exact underway.asked

theorem recoverable
    (underway : Underway behaviour original capacity start count relocation) :
    Recoverable behaviour original start relocation :=
  ⟨underway.restores, underway.asked⟩

end Underway

/-! ## Runs of a relocation -/

/-- Dealing with one more slot keeps a relocation under way. -/
theorem place_leads
    (small : 2 * capacity ≤ UInt64.size)
    (underway : Underway behaviour original capacity start count relocation) :
    Leads (place behaviour count) relocation
      (fun _ after => Underway behaviour original capacity start (count + 1) after)
      (fun abort after => behaviour.Raises abort ∧
        Recoverable behaviour original start after) := by
  unfold place
  simp only [leads_bind, leads_get]
  cases here : slotAt relocation.source count with
  | empty => exact underway.pass (by rw [here]; rfl)
  | tombstone => exact underway.pass (by rw [here]; rfl)
  | occupied item =>
      simp only [leads_bind, leads_call]
      refine (behaviour.hash_leads _ relocation.thread).mono ?_ ?_
      · rintro hash thread ⟨hashed, consults⟩
        simp only [leads_searching]
        have small' : 2 * relocation.target.size ≤ UInt64.size := by
          rwa [underway.refills.size]
        refine ((behaviour.terrain_charted (behaviour.key item) relocation.target
          relocation.thread).search_leads small' .insert hash relocation.tally
            consults).mono ?_ ?_
        · rintro outcome ⟨tally, thread⟩ ⟨consults, surveyed⟩
          have located : behaviour.Locates relocation.target .insert (behaviour.key item)
              outcome := ⟨hash, hashed, surveyed⟩
          have underway' := underway.searched tally consults
          cases outcome with
          | found index => exact underway'.leave here located (by simp)
          | missing => exact underway'.leave here located (by simp)
          | vacant destination =>
              exact leads_move located.free_of_vacant.2.1 (underway.exists_room here)
                (underway'.move here located)
        · rintro abort ⟨tally, thread⟩ ⟨raises, consults⟩
          exact ⟨raises, (underway.searched tally consults).recoverable⟩
      · rintro abort thread ⟨raises, consults⟩
        exact ⟨raises, (underway.searched relocation.tally consults).recoverable⟩

/-- Dealing with several slots in turn keeps a relocation under way. -/
theorem forM_place_leads
    (small : 2 * capacity ≤ UInt64.size)
    (steps count : Nat)
    (underway : Underway behaviour original capacity start count relocation) :
    Leads ((List.range' count steps).forM (place behaviour)) relocation
      (fun _ after => Underway behaviour original capacity start (count + steps) after)
      (fun abort after => behaviour.Raises abort ∧
        Recoverable behaviour original start after) := by
  induction steps generalizing count relocation with
  | zero => exact underway
  | succ steps inductionHypothesis =>
      rw [List.range'_succ, List.forM, leads_bind]
      refine (place_leads small underway).mono ?_ fun _ _ broken => broken
      intro _ after underway'
      rw [show count + (steps + 1) = count + 1 + steps by omega]
      exact inductionHypothesis (count + 1) underway'

/-- A relocation that is not cut short has refilled the new array with the items
of the old one, except those that it left behind. -/
theorem placeAll_leads
    (small : 2 * capacity ≤ UInt64.size)
    (underway : Underway behaviour original capacity start 0 relocation)
    (source : relocation.source = original) :
    Leads (placeAll behaviour) relocation
      (fun _ after => Underway behaviour original capacity start original.size after)
      (fun abort after => behaviour.Raises abort ∧
        Recoverable behaviour original start after) := by
  unfold placeAll
  simp only [leads_bind, leads_get, source, List.range_eq_range']
  have leads := forM_place_leads small original.size 0 underway
  rwa [Nat.zero_add] at leads

end Relocation
end OpenAddressing
