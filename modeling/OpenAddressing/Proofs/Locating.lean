import OpenAddressing.Proofs.Arrangement
import OpenAddressing.Proofs.Probe.Walking
import OpenAddressing.Table.Insert

/-!
# Locating items by foreign code

A search for an item asks the foreign functions for hashes and comparisons.  For
any behaviour at all, an item is found only in an occupied slot, and a vacancy
is a slot of the array that holds no item.  Under laws, the outcome is the one
that the laws dictate.  A search changes the tally and the thread and nothing
else, and only foreign functions can cut it short.
-/

namespace OpenAddressing

open Relocation (slotAt)
open Probe

variable {σ ι α β : Type}

namespace Behaviour

/-- What a search for an item may see at a slot. -/
inductive Sees (behaviour : Behaviour σ ι α) (item : ι) : Slot α → Sighting → Prop
  | empty : Sees behaviour item .empty .empty
  | tombstone : Sees behaviour item .tombstone .tombstone
  | occupied {copy : α} {ordering : Ordering}
      (compared : Returns (behaviour.compare (behaviour.key copy) item) ordering) :
      Sees behaviour item (.occupied copy) (Sighting.ofOrdering ordering)

/-- A search for an item may come to an outcome. -/
def Locates
    (behaviour : Behaviour σ ι α)
    (slots : Array (Slot α))
    (purpose : Purpose)
    (item : ι)
    (outcome : Outcome) : Prop :=
  ∃ hash, Returns (behaviour.hash item) hash ∧
    Surveyed slots.size hash (fun index => behaviour.Sees item (slotAt slots index))
      (Returns (behaviour.rehash item)) purpose outcome

variable {behaviour : Behaviour σ ι α} {slots : Array (Slot α)} {purpose : Purpose}
variable {item : ι} {index : Nat} {outcome : Outcome} {laws : Laws ι}

namespace Locates

/-- What is found is an occupied slot. -/
theorem stored_of_found (locates : behaviour.Locates slots purpose item (.found index)) :
    ∃ copy, slotAt slots index = .occupied copy := by
  obtain ⟨hash, _, rehash, steps, _, seen, found⟩ := locates
  obtain ⟨last, taken, rfl, equal⟩ := equal_of_found found.symm
  have sight : behaviour.Sees item (slotAt slots (position slots.size hash rehash last))
      (steps last) := seen last taken
  generalize slotAt slots (position slots.size hash rehash last) = slot at sight ⊢
  generalize steps last = sighting at sight equal
  cases sight with
  | empty => cases equal
  | tombstone => cases equal
  | occupied compared => exact ⟨_, rfl⟩

/-- A vacancy is a slot without an item, and only an insertion is told of one. -/
theorem free_of_vacant (locates : behaviour.Locates slots purpose item (.vacant index)) :
    purpose = .insert ∧ index < slots.size ∧ (slotAt slots index).item? = none := by
  obtain ⟨hash, _, rehash, steps, _, seen, vacant⟩ := locates
  obtain ⟨isInsert, step, taken, rfl, free, _⟩ := first_of_vacant vacant.symm
  have within := Nat.lt_of_lt_of_le taken examined_le
  refine ⟨isInsert, position_lt (by omega) hash rehash step, ?_⟩
  have sight : behaviour.Sees item (slotAt slots (position slots.size hash rehash step))
      (steps step) := seen step taken
  generalize slotAt slots (position slots.size hash rehash step) = slot at sight ⊢
  generalize steps step = sighting at sight free
  cases sight with
  | empty => rfl
  | tombstone => rfl
  | @occupied copy ordering compared => cases ordering <;> simp [Sighting.ofOrdering] at free

/-- Under laws, what a search sees is settled. -/
theorem sighting_of_sees
    (obeys : behaviour.Obeys laws)
    {slot : Slot α} {sighting : Sighting}
    (sees : behaviour.Sees item slot sighting) :
    sighting = laws.sighting behaviour.key item slot := by
  cases sees with
  | empty => rfl
  | tombstone => rfl
  | @occupied copy ordering compared =>
      have meaning := obeys.compare compared
      unfold Laws.sighting
      cases ordering <;> simp_all [Sighting.ofOrdering]

/-- Under laws, the outcome of a search is the one that the laws dictate. -/
theorem eq_locate
    (obeys : behaviour.Obeys laws)
    (locates : behaviour.Locates slots purpose item outcome) :
    outcome = laws.locate behaviour.key slots purpose item := by
  obtain ⟨hash, hashed, rehash, steps, rehashed, seen, rfl⟩ := locates
  obtain rfl := obeys.hash hashed
  -- The secondary hash matters only to a search of more than one step.
  have same : ∀ step < examined slots.size steps,
      position slots.size (laws.hash item) rehash step = laws.path slots.size item step := by
    intro step taken
    rcases rehashed with told | single
    · rw [obeys.rehash told]
      rfl
    · have zero : step = 0 := by omega
      rw [zero, position_zero, Laws.path, position_zero]
  have settled : ∀ step < examined slots.size steps,
      steps step = laws.sightings behaviour.key slots item step := by
    intro step taken
    have sight := sighting_of_sees obeys (seen step taken)
    rwa [same step taken] at sight
  unfold Laws.locate
  rw [← verdict_congr settled]
  exact verdict_place_congr same

end Locates

/-! ## Searches of an array -/

/-- The foreign functions behind a search of an array. -/
theorem terrain_charted
    (behaviour : Behaviour σ ι α)
    (item : ι)
    (slots : Array (Slot α))
    (start : Thread σ) :
    (Table.terrain behaviour item slots).Charted (behaviour.Consults start)
      (fun index => behaviour.Sees item (slotAt slots index))
      (Returns (behaviour.rehash item)) behaviour.Raises where
  visit := by
    intro index within thread consults
    simp only [Table.terrain, Slot.getElem?_eq_some_slotAt within]
    generalize slotAt slots index = slot
    cases slot with
    | empty => exact ⟨.empty, consults⟩
    | tombstone => exact ⟨.tombstone, consults⟩
    | occupied copy =>
        rw [Slot.sight_occupied, leads_map]
        refine (leads_self _ thread).mono ?_ ?_
        · intro ordering after run
          exact ⟨.occupied ⟨thread, after, run⟩,
            consults.trans (.of_asks (.compare _ _ (Or.inl ⟨ordering, run⟩)))⟩
        · intro abort after run
          exact ⟨.compare _ _ ⟨thread, after, run⟩,
            consults.trans (.of_asks (.compare _ _ (Or.inr ⟨abort, run⟩)))⟩
  rehash := by
    intro thread consults
    refine (leads_self _ thread).mono ?_ ?_
    · intro rehash after run
      exact ⟨⟨thread, after, run⟩,
        consults.trans (.of_asks (.rehash _ (Or.inl ⟨rehash, run⟩)))⟩
    · intro abort after run
      exact ⟨.rehash _ ⟨thread, after, run⟩,
        consults.trans (.of_asks (.rehash _ (Or.inr ⟨abort, run⟩)))⟩

/-- The primary hash of an item. -/
theorem hash_leads (behaviour : Behaviour σ ι α) (item : ι) (thread : Thread σ) :
    Leads (behaviour.hash item) thread
      (fun hash after => Returns (behaviour.hash item) hash ∧ behaviour.Consults thread after)
      (fun abort after => behaviour.Raises abort ∧ behaviour.Consults thread after) := by
  refine (leads_self _ thread).mono ?_ ?_
  · intro hash after run
    exact ⟨⟨thread, after, run⟩, .of_asks (.hash _ (Or.inl ⟨hash, run⟩))⟩
  · intro abort after run
    exact ⟨.hash _ ⟨thread, after, run⟩, .of_asks (.hash _ (Or.inr ⟨abort, run⟩))⟩

end Behaviour

/-! ## Searches of a table -/

/-- A session after a search: the table has counted it, and the foreign functions
were asked. -/
def Session.Searched (behaviour : Behaviour σ ι α) (before after : Session σ α) : Prop :=
  ∃ tally thread, after = { before with table := { before.table with tally }, thread } ∧
    behaviour.Consults before.thread thread

/-- A search reports nothing. -/
theorem Session.Searched.journal
    {behaviour : Behaviour σ ι α} {before after : Session σ α}
    (searched : before.Searched behaviour after) :
    after.journal = before.journal := by
  obtain ⟨tally, thread, rfl, _⟩ := searched
  rfl

namespace Table

variable {behaviour : Behaviour σ ι α} {session : Session σ α}

/-- A search for an item comes to an outcome, or foreign code cuts it short. -/
theorem locate_leads
    (small : 2 * session.table.capacity ≤ UInt64.size)
    (purpose : Purpose)
    (item : ι) :
    Leads (locate behaviour purpose item) session
      (fun outcome after => session.Searched behaviour after ∧
        behaviour.Locates session.table.slots purpose item outcome)
      (fun abort after => behaviour.Raises abort ∧ session.Searched behaviour after) := by
  unfold locate
  simp only [leads_bind, Action.leads_call]
  refine (behaviour.hash_leads item session.thread).mono ?_ ?_
  · rintro hash thread ⟨hashed, consults⟩
    rw [Action.leads_searching]
    refine ((behaviour.terrain_charted item session.table.slots session.thread).search_leads
      small purpose hash session.table.tally consults).mono ?_ ?_
    · rintro outcome ⟨tally, thread⟩ ⟨consults, surveyed⟩
      exact ⟨⟨tally, thread, rfl, consults⟩, hash, hashed, surveyed⟩
    · rintro abort ⟨tally, thread⟩ ⟨raises, consults⟩
      exact ⟨raises, tally, thread, rfl, consults⟩
  · rintro abort thread ⟨raises, consults⟩
    exact ⟨raises, session.table.tally, thread, rfl, consults⟩

variable {returned : β → Session σ α → Prop} {aborted : Abort → Session σ α → Prop}

/-- The item of an occupied slot. -/
theorem leads_storedAt
    {index : Nat} {copy : α} {returned : α → Session σ α → Prop}
    (stored : slotAt session.table.slots index = .occupied copy) :
    Leads (storedAt index) session returned aborted ↔ returned copy session := by
  have within := Slot.lt_size_of_slotAt stored (by simp)
  unfold storedAt
  simp only [leads_bind, Action.leads_inspect, Slot.getElem?_eq_some_slotAt within, stored,
    Slot.item?_occupied, leads_pure]

/-- The loan of the item of an occupied slot. -/
theorem leads_lend
    {index : Nat} {copy : α} {returned : Loan α → Session σ α → Prop}
    (stored : slotAt session.table.slots index = .occupied copy) :
    Leads (lend index) session returned aborted ↔
      returned { identity := session.table.identity, index, item := copy } session := by
  unfold lend
  simp only [leads_bind, leads_storedAt stored, Action.leads_inspect, leads_pure]

end Table
end OpenAddressing
