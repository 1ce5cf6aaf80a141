import OpenAddressing.Proofs.Annotating
import OpenAddressing.Proofs.Faultless

/-!
# Sifting out items

A retention goes through the slots and leaves a tombstone in place of each item that
foreign code does not want to keep.  The same items could be removed one by one, by
searches along paths that lead over more and more tombstones.  Under laws, both come to
the same table, and both hand over the same copies for release in the same order.
-/

namespace OpenAddressing

open Relocation (slotAt)

variable {σ ι α β : Type} {wanted : α → Bool}

/-! ## Sifted tables -/

namespace Slot

variable {slots : Array (Slot α)} {index count : Nat} {slot : Slot α} {item : α}

/-- The slot without an item that is not wanted, which leaves a tombstone. -/
def sift (wanted : α → Bool) : Slot α → Slot α
  | empty => empty
  | tombstone => tombstone
  | occupied item => if wanted item then occupied item else tombstone

theorem sift_of_vacant (vacant : slot.item? = none) : slot.sift wanted = slot := by
  cases slot with
  | empty => rfl
  | tombstone => rfl
  | occupied item => cases vacant

theorem sift_of_wanted (isWanted : wanted item = true) :
    (occupied item).sift wanted = occupied item :=
  if_pos isWanted

theorem sift_of_unwanted (unwanted : wanted item = false) :
    (occupied item).sift wanted = tombstone :=
  if_neg (by rw [unwanted]; simp)

/-- Only what is said of the item of the slot matters. -/
theorem sift_congr
    {wanted' : α → Bool}
    (same : ∀ item, slot = occupied item → wanted' item = wanted item) :
    slot.sift wanted' = slot.sift wanted := by
  cases slot with
  | empty => rfl
  | tombstone => rfl
  | occupied item =>
      simp only [sift, same item rfl]

@[simp] theorem slotAt_map_sift (wanted : α → Bool) (slots : Array (Slot α)) (index : Nat) :
    slotAt (slots.map (sift wanted)) index = (slotAt slots index).sift wanted := by
  unfold slotAt
  rw [Array.getElem?_map]
  cases slots[index]? <;> rfl

/-- The items of the slots below a number. -/
def front (slots : Array (Slot α)) (count : Nat) : List α :=
  (slots.toList.take count).filterMap item?

theorem front_succ_of_vacant (vacant : (slotAt slots count).item? = none) :
    front slots (count + 1) = front slots count := by
  unfold front
  rw [filterMap_take_succ, vacant, Option.toList_none, List.append_nil]

theorem front_succ_of_stored (stored : slotAt slots count = occupied item) :
    front slots (count + 1) = front slots count ++ [item] := by
  unfold front
  rw [filterMap_take_succ, stored]
  rfl

theorem front_size (slots : Array (Slot α)) : front slots slots.size = contents slots :=
  filterMap_take_size slots

theorem mem_front
    (stored : slotAt slots index = occupied item)
    (below : index < count) :
    item ∈ front slots count := by
  induction count with
  | zero => omega
  | succ count inductionHypothesis =>
      unfold front at inductionHypothesis ⊢
      rw [filterMap_take_succ, List.mem_append]
      by_cases last : index = count
      · apply Or.inr
        rw [← last, stored]
        exact List.mem_singleton_self item
      · exact Or.inl (inductionHypothesis (by omega))

end Slot

/-- In an arranged array, the item of a slot is in no slot before it. -/
theorem Laws.Arranged.ne_of_mem_front
    {laws : Laws ι} {key : α → ι} {slots : Array (Slot α)} {count : Nat} {copy : α}
    (arranged : laws.Arranged key slots)
    (stored : slotAt slots count = .occupied copy)
    {earlier : α}
    (before : earlier ∈ Slot.front slots count) :
    earlier ≠ copy := by
  rintro rfl
  have unequal := arranged.unequal
  rw [Slot.contents_eq_append_cons stored, List.pairwise_append] at unequal
  have different := unequal.2.2 earlier before earlier List.mem_cons_self
  rw [laws.equal_refl] at different
  cases different

namespace Table

variable {table : Table α} {index : Nat} {copy : α}

/-- The items that are not wanted, in the order of their slots. -/
def unwanted (table : Table α) (wanted : α → Bool) : List α :=
  table.items.filter fun item => !wanted item

/-- The table with a tombstone in place of each item that is not wanted.  Its other slots
are as they were. -/
def sifted (table : Table α) (wanted : α → Bool) : Table α :=
  { table with
    slots := table.slots.map (Slot.sift wanted)
    tombstones := table.tombstones + (table.unwanted wanted).length }

/-- A table whose items are all wanted stays as it is. -/
theorem sifted_of_wanted (all : table.unwanted wanted = []) : table.sifted wanted = table := by
  have slots : table.slots.map (Slot.sift wanted) = table.slots := by
    apply Slot.ext_slotAt Array.size_map
    intro index
    rw [Slot.slotAt_map_sift]
    cases stored : slotAt table.slots index with
    | empty => rfl
    | tombstone => rfl
    | occupied item =>
        have member : item ∈ table.items := Slot.mem_contents_iff.mpr ⟨index, stored⟩
        have isWanted := List.filter_eq_nil_iff.mp all item member
        rw [Bool.not_eq_true, Bool.not_eq_false'] at isWanted
        exact Slot.sift_of_wanted isWanted
  unfold sifted
  rw [slots, all]
  rfl

/-- An item that is not wanted and is buried leaves the others that are not wanted. -/
theorem unwanted_buried
    (stored : slotAt table.slots index = .occupied copy)
    (reject : wanted copy = false) :
    (table.unwanted wanted).Perm (copy :: (table.buried index).unwanted wanted) := by
  have items := (items_buried stored).filter fun item => !wanted item
  rwa [List.filter_cons_of_pos (by rw [reject]; rfl)] at items

/-- It does not matter if an item that is not wanted has been buried before. -/
theorem sifted_buried
    (stored : slotAt table.slots index = .occupied copy)
    (reject : wanted copy = false) :
    (table.buried index).sifted wanted = table.sifted wanted := by
  have within := Slot.lt_size_of_slotAt stored (by simp)
  have slots : (table.buried index).slots.map (Slot.sift wanted) =
      table.slots.map (Slot.sift wanted) := by
    apply Slot.ext_slotAt (by simp [buried])
    intro other
    rw [Slot.slotAt_map_sift, Slot.slotAt_map_sift]
    by_cases here : index = other
    · subst here
      rw [stored, Slot.sift_of_unwanted reject]
      simp only [buried, Slot.slotAt_set_self within]
      rfl
    · simp only [buried, Slot.slotAt_set_of_ne here]
  have number := (unwanted_buried stored reject).length_eq
  rw [List.length_cons] at number
  unfold sifted
  rw [slots, number]
  simp only [buried]
  rw [Nat.add_assoc, Nat.add_comm 1]

end Table

/-! ## What is done with copies -/

/-- What is done with a copy in a retention or a removal. -/
inductive Handling (α : Type) where
  /-- Foreign code was asked whether to keep it, and has answered. -/
  | asked (copy : α) (kept : Bool)
  /-- It was handed over for release. -/
  | released (copy : α)

/-- What a retention does with an item. -/
def Handling.ofItem (wanted : α → Bool) (copy : α) : List (Handling α) :=
  if wanted copy then [asked copy true] else [asked copy false, released copy]

/-- Asks foreign code about a copy and notes its answer. -/
def Call.observed (keep : α → Call σ Bool) (copy : α) :
    Call (Annotated σ (List (Handling α))) Bool := do
  let kept ← (keep copy).annotated
  Call.note fun handled => (kept, handled ++ [.asked copy kept])

/-- The behaviour with a note of each copy that is handed over for release. -/
def Behaviour.observed (behaviour : Behaviour σ ι α) :
    Behaviour (Annotated σ (List (Handling α))) ι α :=
  { behaviour.annotated with
    release := fun copy => do
      Call.note fun handled => ((), handled ++ [.released copy])
      (behaviour.release copy).annotated }

variable {behaviour : Behaviour σ ι α} {keep : α → Call σ Bool} {laws : Laws ι} {copy : α}
variable {thread thread' : Thread (Annotated σ (List (Handling α)))}

/-- Without the notes, the answer is what it was. -/
theorem Call.mirrors_observed (keep : α → Call σ Bool) (copy : α) :
    Mirrors (Thread.map Annotated.host) id (Call.observed keep copy) (keep copy) := by
  intro thread
  change keep copy thread.plain = _
  simp only [observed, bind, EStateM.bind, Call.annotated]
  cases keep copy thread.plain <;> rfl

theorem Behaviour.observed_mirrored (behaviour : Behaviour σ ι α) :
    behaviour.observed.Mirrored Annotated.host id behaviour :=
  { behaviour.annotated_mirrored with
    release := by
      intro copy thread
      change behaviour.release copy thread.plain = _
      simp only [observed, bind, EStateM.bind, Call.annotated, Call.note, Thread.plain_annotate]
      cases behaviour.release copy thread.plain <;> rfl }

/-- An answer is noted. -/
theorem Call.notes_of_observed
    {kept : Bool}
    (run : Call.observed keep copy thread = .ok kept thread') :
    thread'.notes = thread.notes ++ [.asked copy kept] := by
  have leads : Leads (Call.observed keep copy) thread
      (fun kept after => after.notes = thread.notes ++ [.asked copy kept]) fun _ _ => True := by
    simp only [observed, leads_bind, Call.leads_annotated, Call.leads_note]
    exact (leads_self _ thread.plain).mono (fun _ _ _ => rfl) fun _ _ _ => trivial
  exact leads.of_ok run

/-- A release is noted. -/
theorem Behaviour.notes_of_observed
    (run : behaviour.observed.release copy thread = .ok () thread') :
    thread'.notes = thread.notes ++ [.released copy] := by
  have leads : Leads (behaviour.observed.release copy) thread
      (fun _ after => after.notes = thread.notes ++ [.released copy]) fun _ _ => True := by
    simp only [observed, leads_bind, Call.leads_annotated, Call.leads_note]
    exact (leads_self _ thread.plain).mono (fun _ _ _ => rfl) fun _ _ _ => trivial
  exact leads.of_ok run

/-- Questions leave the notes alone. -/
theorem Behaviour.Consults.notes_of_observed
    (consults : behaviour.observed.Consults thread thread') :
    thread'.notes = thread.notes := by
  apply consults.notes_eq
  · exact fun _ => Call.keeps_notes_annotated _
  · exact fun _ => Call.keeps_notes_annotated _
  · exact fun _ _ => Call.keeps_notes_annotated _
  · exact fun _ _ => rfl

namespace Request

/-- The requests that remove copies one by one. -/
def removeEach (key : α → ι) (copies : List α) : List (Request σ ι α β) :=
  copies.map fun copy => .remove (key copy)

/-- Without the notes, the removals are what they were. -/
theorem mirrors_removeEach (behaviour : Behaviour σ ι α) (copies : List α) :
    Mirrors (Session.map Annotated.host id) (List.map (Answer.map id))
      (performAll behaviour.observed
        (removeEach behaviour.key copies : List (Request _ ι α β)))
      (performAll behaviour (removeEach behaviour.key copies)) := by
  apply mirrors_performAll behaviour.observed_mirrored
  induction copies with
  | nil => exact .nil
  | cons copy rest inductionHypothesis => exact .cons (.remove _) inductionHypothesis

end Request

/-! ## Retentions -/

namespace Table

variable {before session : Session (Annotated σ (List (Handling α))) α}
variable {count removed index : Nat}

/-- What a retention has come to when it has dealt with the slots below a number. -/
structure Sifts
    (keep : α → Call σ Bool)
    (before : Session (Annotated σ (List (Handling α))) α)
    (wanted : α → Bool)
    (count removed : Nat)
    (session : Session (Annotated σ (List (Handling α))) α) : Prop where
  /-- It is for foreign code to say what is wanted. -/
  answers : ∀ copy ∈ Slot.front before.table.slots count, Returns (keep copy) (wanted copy)
  /-- The slots dealt with are sifted. -/
  slots : ∀ index < count,
    slotAt session.table.slots index = (slotAt before.table.slots index).sift wanted
  /-- The items that are not wanted are counted. -/
  number : removed =
    ((Slot.front before.table.slots count).filter fun item => !wanted item).length
  /-- They have become tombstones, and the rest of the table is as it was. -/
  rest : session.table = { before.table with
    slots := session.table.slots, tombstones := before.table.tombstones + removed }
  /-- Each item was asked about, and released if it was not wanted. -/
  notes : session.thread.notes = before.thread.notes ++
    (Slot.front before.table.slots count).flatMap (Handling.ofItem wanted)

namespace Sifts

/-- Nothing depends on what is said of items that were not asked about. -/
theorem congr
    {wanted' : α → Bool}
    (sifts : Sifts keep before wanted count removed session)
    (same : ∀ copy ∈ Slot.front before.table.slots count, wanted' copy = wanted copy) :
    Sifts keep before wanted' count removed session where
  answers := by
    intro copy member
    rw [same copy member]
    exact sifts.answers copy member
  slots := by
    intro index below
    rw [sifts.slots index below]
    apply Eq.symm
    apply Slot.sift_congr
    exact fun copy stored => same copy (Slot.mem_front stored below)
  number := by
    rw [sifts.number]
    apply congrArg List.length
    apply List.filter_congr
    intro copy member
    rw [same copy member]
  rest := sifts.rest
  notes := by
    rw [sifts.notes]
    apply congrArg (before.thread.notes ++ ·)
    apply List.flatMap_congr
    intro copy member
    unfold Handling.ofItem
    rw [same copy member]

/-- The slots dealt with and the next one are sifted once the next one is. -/
theorem slots_succ
    {slots : Array (Slot α)}
    (sifts : Sifts keep before wanted count removed session)
    (others : ∀ index < count, slotAt slots index = slotAt session.table.slots index)
    (next : slotAt slots count = (slotAt before.table.slots count).sift wanted) :
    ∀ index < count + 1, slotAt slots index = (slotAt before.table.slots index).sift wanted := by
  intro index below
  by_cases last : index = count
  · rw [last, next]
  · rw [others index (by omega), sifts.slots index (by omega)]

/-- A slot without an item is passed over. -/
theorem bare
    (sifts : Sifts keep before wanted count removed session)
    (here : slotAt session.table.slots count = slotAt before.table.slots count)
    (vacant : (slotAt before.table.slots count).item? = none) :
    Sifts keep before wanted (count + 1) removed session where
  answers := by
    rw [Slot.front_succ_of_vacant vacant]
    exact sifts.answers
  slots := sifts.slots_succ (fun _ _ => rfl) (by rw [here, Slot.sift_of_vacant vacant])
  number := by
    rw [Slot.front_succ_of_vacant vacant]
    exact sifts.number
  rest := sifts.rest
  notes := by
    rw [Slot.front_succ_of_vacant vacant]
    exact sifts.notes

/-- What foreign code answers about one more item joins the answers. -/
theorem answers_succ
    (sifts : Sifts keep before wanted count removed session)
    (stored : slotAt before.table.slots count = .occupied copy)
    (answer : Returns (keep copy) (wanted copy)) :
    ∀ item ∈ Slot.front before.table.slots (count + 1), Returns (keep item) (wanted item) := by
  rw [Slot.front_succ_of_stored stored]
  intro item member
  rcases List.mem_append.mp member with earlier | last
  · exact sifts.answers item earlier
  · rw [List.mem_singleton.mp last]
    exact answer

/-- An item that is wanted stays in its slot. -/
theorem kept
    (sifts : Sifts keep before wanted count removed session)
    (here : slotAt session.table.slots count = slotAt before.table.slots count)
    (stored : slotAt before.table.slots count = .occupied copy)
    (isWanted : wanted copy = true)
    (answer : Returns (keep copy) true)
    (noted : thread.notes = session.thread.notes ++ [.asked copy true]) :
    Sifts keep before wanted (count + 1) removed { session with thread } where
  answers := sifts.answers_succ stored (by rwa [isWanted])
  slots := sifts.slots_succ (fun _ _ => rfl)
    (by rw [here, stored, Slot.sift_of_wanted isWanted])
  number := by
    rw [Slot.front_succ_of_stored stored, List.filter_append, List.filter_singleton, isWanted]
    simpa using sifts.number
  rest := sifts.rest
  notes := by
    rw [Slot.front_succ_of_stored stored, List.flatMap_append, List.flatMap_singleton,
      Handling.ofItem, if_pos isWanted, ← List.append_assoc, ← sifts.notes]
    exact noted

/-- An item that is not wanted leaves a tombstone and is released. -/
theorem rejected
    (sifts : Sifts keep before wanted count removed session)
    (within : count < session.table.slots.size)
    (stored : slotAt before.table.slots count = .occupied copy)
    (reject : wanted copy = false)
    (answer : Returns (keep copy) false)
    (noted : thread.notes = session.thread.notes ++ [.asked copy false, .released copy]) :
    Sifts keep before wanted (count + 1) (removed + 1)
      { session with table := session.table.buried count, thread } where
  answers := sifts.answers_succ stored (by rwa [reject])
  slots := by
    apply sifts.slots_succ
    · intro index below
      exact Slot.slotAt_set_of_ne (by omega) _
    · rw [stored, Slot.sift_of_unwanted reject]
      exact Slot.slotAt_set_self within _
  number := by
    rw [Slot.front_succ_of_stored stored, List.filter_append, List.filter_singleton, reject]
    simpa using sifts.number
  rest := by
    have rest := sifts.rest
    simp only [buried]
    rw [rest]
    rfl
  notes := by
    rw [Slot.front_succ_of_stored stored, List.flatMap_append, List.flatMap_singleton,
      Handling.ofItem, if_neg (by rw [reject]; simp), ← List.append_assoc, ← sifts.notes]
    exact noted

end Sifts

/-- A retention under laws sifts the slots in their order, as foreign code says. -/
theorem Retained.exists_sifts
    (retained : Retained behaviour.observed (Call.observed keep) before count removed session)
    (arranged : laws.Arranged behaviour.key before.table.slots) :
    ∃ wanted, Sifts keep before wanted count removed session := by
  classical
  induction retained with
  | start =>
      refine ⟨fun _ => true, ?_⟩
      constructor
      · intro copy member
        cases member
      · intro index below
        omega
      · rfl
      · rfl
      · exact (List.append_nil _).symm
  | bare retained vacant inductionHypothesis =>
      obtain ⟨wanted, sifts⟩ := inductionHypothesis
      have here := retained.ahead _ (Nat.le_refl _)
      rw [here] at vacant
      exact ⟨wanted, sifts.bare here vacant⟩
  | @kept count removed session copy thread retained stored keeps inductionHypothesis =>
      obtain ⟨wanted, sifts⟩ := inductionHypothesis
      have here := retained.ahead _ (Nat.le_refl _)
      have stored' := here.symm.trans stored
      have answer := (Call.mirrors_observed keep copy).returns ⟨_, _, keeps⟩
      refine ⟨Function.update wanted copy true, ?_⟩
      apply Sifts.kept _ here stored' (Function.update_self ..) answer
        (Call.notes_of_observed keeps)
      apply sifts.congr
      intro earlier member
      exact Function.update_of_ne (arranged.ne_of_mem_front stored' member) _ _
  | @rejected count removed session copy asked thread retained stored rejects released
      inductionHypothesis =>
      obtain ⟨wanted, sifts⟩ := inductionHypothesis
      have here := retained.ahead _ (Nat.le_refl _)
      have stored' := here.symm.trans stored
      have within := Slot.lt_size_of_slotAt stored (by simp)
      have answer := (Call.mirrors_observed keep copy).returns ⟨_, _, rejects⟩
      refine ⟨Function.update wanted copy false, ?_⟩
      apply Sifts.rejected _ within stored' (Function.update_self ..) answer
      · rw [Behaviour.notes_of_observed released, Call.notes_of_observed rejects,
          List.append_assoc]
        rfl
      · apply sifts.congr
        intro earlier member
        exact Function.update_of_ne (arranged.ne_of_mem_front stored' member) _ _

/-- When all slots have been dealt with, the table is sifted. -/
theorem Sifts.table_eq
    (sifts : Sifts keep before wanted before.table.capacity removed session)
    (size : session.table.capacity = before.table.capacity) :
    session.table = before.table.sifted wanted := by
  have slots : session.table.slots = before.table.slots.map (Slot.sift wanted) := by
    apply Slot.ext_slotAt (size.trans Array.size_map.symm)
    intro index
    rw [Slot.slotAt_map_sift]
    by_cases below : index < before.table.capacity
    · exact sifts.slots index below
    · have outside : before.table.slots.size ≤ index := Nat.le_of_not_lt below
      have outside' : session.table.slots.size ≤ index := size.trans_le outside
      rw [Slot.slotAt_eq_empty outside, Slot.slotAt_eq_empty outside']
      rfl
  have number := sifts.number
  rw [show before.table.capacity = before.table.slots.size from rfl, Slot.front_size] at number
  rw [sifts.rest, slots, number]
  rfl

/-! ## Removals one by one -/

/-- Under laws, a removal takes a stored item out of its slot. -/
theorem Removed.of_stored
    {behaviour : Behaviour σ ι α} {before after : Session σ α} {item? : Option ι}
    (removed : Removed behaviour (behaviour.key copy) before item? after)
    (obeys : behaviour.Obeys laws)
    (arranged : laws.Arranged behaviour.key before.table.slots)
    (stored : slotAt before.table.slots index = .occupied copy) :
    item? = some (behaviour.key copy) ∧
      after.table = { before.table.buried index with tally := after.table.tally } ∧
      ∃ asked, behaviour.Consults before.thread asked ∧
        behaviour.release copy asked = .ok () after.thread := by
  have isThere := arranged.locate_stored stored (laws.equal_refl _) .lookup
  cases removed with
  | absent lookedUp =>
      cases lookedUp with
      | absent searched missing =>
          have outcome := missing.eq_locate obeys
          rw [isThere] at outcome
          cases outcome
  | removed lookedUp released =>
      cases lookedUp with
      | present searched found stored' =>
          have outcome := found.eq_locate obeys
          rw [isThere] at outcome
          obtain rfl := Probe.Outcome.found.inj outcome
          obtain rfl := Slot.occupied.inj (stored.symm.trans stored')
          obtain ⟨tally, asked, rfl, consults⟩ := searched
          refine ⟨rfl, ?_, asked, consults, released⟩
          unfold unlinked
          rw [Session.traced_table]
          rfl

/-- Under laws, a request to remove a stored item buries it and releases its copy. -/
theorem perform_remove_leads
    (obeys : behaviour.Obeys laws)
    (sound : before.table.Sound)
    (arranged : laws.Arranged behaviour.key before.table.slots)
    (free : before.table.identity ∉ before.thread.roster)
    (stored : slotAt before.table.slots index = .occupied copy) :
    Leads ((Request.remove (behaviour.key copy) : Request _ ι α β).perform behaviour.observed)
      before
      (fun answer after => answer = .removed (some (behaviour.key copy)) ∧
        after.table = { before.table.buried index with tally := after.table.tally } ∧
        after.thread.notes = before.thread.notes ++ [.released copy])
      (fun abort _ => behaviour.Raises abort) := by
  have mirrored := behaviour.observed_mirrored
  simp only [Request.perform, leads_map]
  refine (remove_leads sound free _).mono ?_ ?_
  · rintro item? after ⟨done, removed, rfl⟩
    have result : _ ∧ _ ∧ ∃ asked, _ ∧ behaviour.observed.release copy asked = _ :=
      removed.of_stored (mirrored.obeys obeys) arranged stored
    obtain ⟨rfl, table, asked, consults, released⟩ := result
    refine ⟨rfl, table, ?_⟩
    calc done.thread.notes
      _ = asked.notes ++ [.released copy] := Behaviour.notes_of_observed released
      _ = before.thread.notes ++ [.released copy] := by
        rw [Behaviour.Consults.notes_of_observed consults]
        rfl
  · rintro abort after ⟨raises, _⟩
    exact mirrored.raises raises

/-- Under laws, to remove the unwanted items one by one in any order is to sift the
table. -/
theorem removeEach_leads
    (obeys : behaviour.Obeys laws)
    (discreet : behaviour.Discreet before.table.identity)
    (sound : before.table.Sound)
    (arranged : laws.Arranged behaviour.key before.table.slots)
    (free : before.table.identity ∉ before.thread.roster)
    {back : List α}
    (all : (before.table.unwanted wanted).Perm back) :
    Leads (Request.performAll behaviour.observed
        (Request.removeEach behaviour.key back : List (Request _ ι α β))) before
      (fun answers after =>
        answers = back.map (fun copy => .removed (some (behaviour.key copy))) ∧
        after.table = { before.table.sifted wanted with tally := after.table.tally } ∧
        after.thread.notes = before.thread.notes ++ back.map .released)
      (fun abort _ => behaviour.Raises abort) := by
  induction back generalizing before with
  | nil =>
      refine ⟨rfl, ?_, (List.append_nil _).symm⟩
      rw [sifted_of_wanted all.eq_nil]
  | cons copy rest inductionHypothesis =>
      have member := all.mem_iff.mpr List.mem_cons_self
      obtain ⟨member, rejects⟩ := List.mem_filter.mp member
      rw [Bool.not_eq_true'] at rejects
      obtain ⟨index, stored⟩ := Slot.mem_contents_iff.mp member
      simp only [Request.removeEach, List.map_cons, Request.performAll, leads_bind, leads_pure]
      refine ((leads_self _ before).and
        (perform_remove_leads obeys sound arranged free stored)).mono ?_ fun _ _ cut => cut.2
      rintro answer middle ⟨run, rfl, table, notes⟩
      have quiet : (Request.remove (behaviour.key copy) :
          Request (Annotated σ (List (Handling α))) ι α β).Discreet before.table.identity := trivial
      obtain ⟨same, free'⟩ := Request.free_of_passes
        (behaviour.observed_mirrored.discreet discreet) quiet free (Or.inl ⟨_, run⟩)
      have slots : middle.table.slots = (before.table.buried index).slots := by rw [table]
      have left : middle.table.unwanted wanted = (before.table.buried index).unwanted wanted := by
        rw [table]
        rfl
      have sifted : { middle.table.sifted wanted with tally := before.table.tally } =
          before.table.sifted wanted := by
        rw [← sifted_buried stored rejects, table]
        rfl
      refine (inductionHypothesis (by rwa [same]) ?_ ?_ (by rwa [same]) ?_).mono ?_
        fun _ _ raises => raises
      · rw [table]
        exact (sound.bury stored).congr rfl rfl rfl
      · rw [slots]
        exact arranged.bury stored
      · rw [left]
        exact ((unwanted_buried stored rejects).symm.trans all).cons_inv
      · rintro answers after ⟨rfl, table', notes'⟩
        refine ⟨rfl, ?_, ?_⟩
        · rw [← sifted]
          exact table'
        · rw [notes', notes, List.append_assoc]
          rfl

end Table

/-- Under laws, a retention comes to the same table as the removal of the items that are
not wanted one by one, in the order of their slots.  The retention asks about each item
once, in that order, and leaves a tombstone for each one that is not wanted; both hand
over the same copies for release in the same order, and the number that the retention
returns is that of the removals, each of which finds its item.  Only foreign code can cut
them short, and the notes of what is done with the copies change nothing. -/
theorem retain_agrees_with_removals
    (obeys : behaviour.Obeys laws)
    {table : Table α}
    (reachable : behaviour.Reachable table)
    (discreet : behaviour.Discreet table.identity)
    (thread : Thread σ)
    (journal : List Event)
    (free : table.identity ∉ thread.roster)
    (keep : α → Call σ Bool) :
    Mirrors (Session.map Annotated.host id) id
      (Table.retain behaviour.observed (Call.observed keep)) (Table.retain behaviour keep) ∧
    (∀ copies : List α,
      Mirrors (Session.map Annotated.host id) (List.map (Answer.map id))
        (Request.performAll behaviour.observed
          (Request.removeEach behaviour.key copies : List (Request _ ι α β)))
        (Request.performAll behaviour (Request.removeEach behaviour.key copies))) ∧
    Leads (Table.retain behaviour.observed (Call.observed keep))
      ⟨table, thread.annotate [], journal⟩
      (fun number after => ∃ wanted : α → Bool,
        (∀ copy ∈ table.items, Returns (keep copy) (wanted copy)) ∧
        after.table = table.sifted wanted ∧
        after.thread.notes = table.items.flatMap (Handling.ofItem wanted) ∧
        number = (table.unwanted wanted).length ∧
        ∀ (thread' : Thread σ) (journal' : List Event), table.identity ∉ thread'.roster →
          Leads (Request.performAll behaviour.observed
              (Request.removeEach behaviour.key (table.unwanted wanted) :
                List (Request _ ι α β)))
            ⟨table, thread'.annotate [], journal'⟩
            (fun answers ended =>
              answers = (table.unwanted wanted).map
                (fun copy => .removed (some (behaviour.key copy))) ∧
              ended.table = { after.table with tally := ended.table.tally } ∧
              ended.thread.notes = (table.unwanted wanted).map .released)
            (fun abort _ => behaviour.Raises abort))
      (fun abort _ => behaviour.Raises abort ∨ ∃ copy, CutBy (keep copy) abort) := by
  have intact := reachable.intact
  have mirrored := behaviour.observed_mirrored
  refine ⟨Table.mirrors_retain mirrored (Call.mirrors_observed keep),
    Request.mirrors_removeEach behaviour, ?_⟩
  refine (Table.retain_leads free (Call.observed keep)).mono ?_ ?_
  · rintro number after ⟨done, retained, rfl⟩
    obtain ⟨wanted, sifts⟩ := retained.exists_sifts (intact.arranged obeys)
    have isSifted : done.table = table.sifted wanted := sifts.table_eq retained.capacity
    have all : Slot.front table.slots table.capacity = table.items := Slot.front_size _
    have answers : ∀ copy ∈ Slot.front table.slots table.capacity, _ := sifts.answers
    have notes : done.thread.notes =
        [] ++ (Slot.front table.slots table.capacity).flatMap _ := sifts.notes
    have counted : number = ((Slot.front table.slots table.capacity).filter _).length :=
      sifts.number
    rw [all] at answers notes counted
    refine ⟨wanted, answers, isSifted, notes, counted, ?_⟩
    intro thread' journal' free'
    refine Leads.mono (Table.removeEach_leads obeys discreet intact.sound (intact.arranged obeys)
      free' (.refl (table.unwanted wanted))) ?_ fun _ _ raises => raises
    rintro answers ended ⟨isAnswers, table', notes'⟩
    refine ⟨isAnswers, ?_, notes'⟩
    rw [table']
    exact congrArg (fun sifted : Table α => { sifted with tally := ended.table.tally })
      isSifted.symm
  · rintro abort after ⟨raises | ⟨copy, cut⟩, _⟩
    · exact Or.inl (mirrored.raises raises)
    · exact Or.inr ⟨copy, (Call.mirrors_observed keep copy).cutBy cut⟩

/-- Of three numbers on one path the last two are not wanted.  The last one is found past
the tombstone of the other. -/
theorem retain_of_numbers_agrees_with_removals :
    ∃ (table : Table Nat) (after ended : Session (Annotated Unit (List (Handling Nat))) Nat)
      (answers : List (Answer Nat Nat Unit)),
      (Laws.numbers 100).faithful.Reachable table ∧ table.items = [3, 20, 37] ∧
      Table.retain (Laws.numbers 100).faithful.observed
        (Call.observed fun number => pure (number == 3))
        ⟨table, ({ host := () } : Thread Unit).annotate [], []⟩ = .ok 2 after ∧
      after.thread.notes = [.asked 3 true, .asked 20 false, .released 20, .asked 37 false,
        .released 37] ∧
      Request.performAll (Laws.numbers 100).faithful.observed (Request.removeEach id [20, 37])
        ⟨table, ({ host := () } : Thread Unit).annotate [], []⟩ = .ok answers ended ∧
      ended.table = { after.table with tally := ended.table.tally } := by
  have obeys := (Laws.numbers 100).faithful_obeys
  have steady := (Laws.numbers 100).faithful_steady
  have created : (Laws.numbers 100).faithful.Reachable
      { identity := 0, settings := {}, slots := Slot.row Nat 17 } :=
    .created {} 0 () rfl
  obtain ⟨_, start, run, tested⟩ := exists_of_meets (show meets
    (fun _ after => after.table.items == [3, 20, 37] && after.table.identity == 0)
    (Request.performAll (Laws.numbers 100).faithful
      ([.insert 3, .insert 20, .insert 37] : List (Request Unit Nat Nat Unit))
      ⟨{ identity := 0, settings := {}, slots := Slot.row Nat 17 }, { host := () }, []⟩) =
        true by decide +kernel)
  rw [Bool.and_eq_true, beq_iff_eq, beq_iff_eq] at tested
  obtain ⟨items, identity⟩ := tested
  have reachable := created.performAll (Or.inl ⟨_, run⟩)
  have free : start.table.identity ∉ ({ host := () } : Thread Unit).roster := by
    simp [Roster.mem_iff]
  obtain ⟨_, _, retains⟩ := retain_agrees_with_removals obeys reachable
    ((Laws.numbers 100).faithful_discreet _) { host := () } [] free
    fun number => pure (number == 3)
  obtain ⟨number, after, retained, wanted, answers, _, notes, counted, removals⟩ :=
    retains.exists_ok fun abort _ => by
      rintro (raises | ⟨copy, cut⟩)
      · exact steady abort raises
      · exact Laws.not_cutBy_pure _ _ cut
  rw [items] at answers notes
  have first : wanted 3 = true := Laws.eq_of_returns_pure (answers 3 (by simp))
  have second : wanted 20 = false := Laws.eq_of_returns_pure (answers 20 (by simp))
  have third : wanted 37 = false := Laws.eq_of_returns_pure (answers 37 (by simp))
  have rejects : start.table.unwanted wanted = [20, 37] := by
    simp [Table.unwanted, items, first, second, third]
  rw [rejects] at counted removals
  obtain ⟨_, ended, removed, _, table, _⟩ :=
    (removals { host := () } [] free).exists_ok fun abort _ => steady abort
  refine ⟨start.table, after, ended, _, reachable, items, ?_, ?_, removed, table⟩
  · rw [retained, counted]
    rfl
  · simpa [Handling.ofItem, first, second, third] using notes

end OpenAddressing
