import OpenAddressing.Proofs.Requests

/-!
# Mirrored programs

A table handles copies only through the functions of its behaviour.  If one
behaviour is the image of another one under a map of hosts and a map of copies,
then every program of a table on the first is mirrored by the same program on the
image: it ends in the same way, with the image of the value and of the state.
-/

namespace OpenAddressing

open Relocation (slotAt)
open Probe (Counting Terrain)

variable {ε τ τ' β β' γ γ' : Type}

/-! ## Programs -/

/-- The result with functions applied to its value and its state. -/
def mapResult (view : β → β') (image : τ → τ') :
    EStateM.Result ε τ β → EStateM.Result ε τ' β'
  | .ok value after => .ok (view value) (image after)
  | .error abort after => .error abort (image after)

/-- A program is mirrored by another one: from the image of a state the other one
ends in the image of the result. -/
def Mirrors
    (image : τ → τ')
    (view : β → β')
    (program : EStateM ε τ β)
    (other : EStateM ε τ' β') : Prop :=
  ∀ state, other (image state) = mapResult view image (program state)

namespace Mirrors

variable {image : τ → τ'} {view : β → β'} {view' : γ → γ'}

theorem pure (image : τ → τ') (view : β → β') (value : β) :
    Mirrors image view (Pure.pure value : EStateM ε τ β) (Pure.pure (view value)) :=
  fun _ => rfl

theorem throw (image : τ → τ') (view : β → β') (abort : ε) :
    Mirrors image view (MonadExcept.throw abort : EStateM ε τ β) (MonadExcept.throw abort) :=
  fun _ => rfl

theorem bind
    {first : EStateM ε τ β} {first' : EStateM ε τ' β'}
    {next : β → EStateM ε τ γ} {next' : β' → EStateM ε τ' γ'}
    (mirrors : Mirrors image view first first')
    (mirrors' : ∀ value, Mirrors image view' (next value) (next' (view value))) :
    Mirrors image view' (first >>= next) (first' >>= next') := by
  intro state
  change EStateM.bind first' next' (image state) =
    mapResult view' image (EStateM.bind first next state)
  unfold EStateM.bind
  rw [mirrors state]
  cases first state with
  | ok value after => exact mirrors' value after
  | error abort after => rfl

theorem map
    {program : EStateM ε τ β} {other : EStateM ε τ' β'}
    {function : β → γ} {function' : β' → γ'}
    (mirrors : Mirrors image view program other)
    (same : ∀ value, function' (view value) = view' (function value)) :
    Mirrors image view' (function <$> program) (function' <$> other) := by
  intro state
  change EStateM.map function' other (image state) =
    mapResult view' image (EStateM.map function program state)
  unfold EStateM.map
  rw [mirrors state]
  cases program state with
  | ok value after => exact congrArg (EStateM.Result.ok · (image after)) (same value)
  | error abort after => rfl

/-- A program ends as its image does. -/
theorem leads
    {program : EStateM ε τ β} {other : EStateM ε τ' β'} {state : τ}
    {returned : β' → τ' → Prop} {aborted : ε → τ' → Prop}
    (mirrors : Mirrors image view program other)
    (leads : Leads other (image state) returned aborted) :
    Leads program state
      (fun value after => returned (view value) (image after))
      (fun abort after => aborted abort (image after)) := by
  unfold Leads at leads ⊢
  rw [mirrors state] at leads
  cases ends : program state with
  | ok value after =>
      rw [ends] at leads
      exact leads
  | error abort after =>
      rw [ends] at leads
      exact leads

/-- Every run of a program is mirrored by a run of the other one. -/
theorem passes
    {program : EStateM ε τ β} {other : EStateM ε τ' β'} {before after : τ}
    (mirrors : Mirrors image view program other)
    (run : Passes program before after) :
    Passes other (image before) (image after) := by
  have same := mirrors before
  rcases run with ⟨value, run⟩ | ⟨abort, run⟩
  · rw [run] at same
    exact Or.inl ⟨view value, same⟩
  · rw [run] at same
    exact Or.inr ⟨abort, same⟩

/-- Every run of the other program mirrors a run of the first one. -/
theorem exists_passes
    {program : EStateM ε τ β} {other : EStateM ε τ' β'} {before : τ} {after : τ'}
    (mirrors : Mirrors image view program other)
    (run : Passes other (image before) after) :
    ∃ original, Passes program before original ∧ image original = after := by
  unfold Passes at run
  rw [mirrors before] at run
  cases ends : program before with
  | ok value original =>
      rw [ends] at run
      rcases run with ⟨_, run⟩ | ⟨_, run⟩ <;> cases run
      exact ⟨original, Or.inl ⟨value, ends⟩, rfl⟩
  | error abort original =>
      rw [ends] at run
      rcases run with ⟨_, run⟩ | ⟨_, run⟩ <;> cases run
      exact ⟨original, Or.inr ⟨abort, ends⟩, rfl⟩

/-- The steps of a list are mirrored if each of them is. -/
theorem forM
    {step : γ → EStateM ε τ Unit} {step' : γ → EStateM ε τ' Unit}
    (mirrors : ∀ member, Mirrors image id (step member) (step' member))
    (members : List γ) :
    Mirrors image id (members.forM step) (members.forM step') := by
  induction members with
  | nil => exact .pure image id ()
  | cons member rest inductionHypothesis =>
      exact (mirrors member).bind fun _ => inductionHypothesis

/-- So is a fold. -/
theorem foldlM
    {step : β → γ → EStateM ε τ β} {step' : β → γ' → EStateM ε τ' β}
    (mirrors : ∀ total member, Mirrors image id (step total member) (step' total (view' member)))
    (members : List γ)
    (total : β) :
    Mirrors image id (members.foldlM step total) ((members.map view').foldlM step' total) := by
  induction members generalizing total with
  | nil => exact .pure image id total
  | cons member rest inductionHypothesis =>
      rw [List.map_cons, List.foldlM_cons, List.foldlM_cons]
      exact (mirrors total member).bind inductionHypothesis

/-- So is a sum over a range of indices. -/
theorem total
    {step : Nat → EStateM ε τ Nat} {step' : Nat → EStateM ε τ' Nat}
    (mirrors : ∀ index, Mirrors image id (step index) (step' index))
    (count : Nat) :
    Mirrors image id
      ((List.range count).foldlM (fun total index => do
        let more ← step index
        Pure.pure (total + more)) 0)
      ((List.range count).foldlM (fun total index => do
        let more ← step' index
        Pure.pure (total + more)) 0) := by
  have sums : Mirrors image id
      ((List.range count).foldlM (fun total index => do
        let more ← step index
        Pure.pure (total + more)) 0)
      (((List.range count).map id).foldlM (fun total index => do
        let more ← step' index
        Pure.pure (total + more)) 0) := by
    refine foldlM (fun total index => ?_) (List.range count) 0
    exact (mirrors index).bind fun more => .pure image id (total + more)
  rwa [List.map_id] at sums

end Mirrors

/-! ## Images of data -/

variable {σ σ' ι α α' : Type} (hosts : σ → σ') (copies : α → α')

namespace Slot

variable {copies}

@[simp] theorem map_empty : (empty : Slot α).map copies = empty := rfl

@[simp] theorem map_tombstone : (tombstone : Slot α).map copies = tombstone := rfl

@[simp] theorem map_occupied (item : α) :
    (occupied item).map copies = occupied (copies item) := rfl

@[simp] theorem item?_map (slot : Slot α) : (slot.map copies).item? = slot.item?.map copies := by
  cases slot <;> rfl

@[simp] theorem isTombstone_map (slot : Slot α) :
    (slot.map copies).isTombstone = slot.isTombstone := by
  cases slot <;> rfl

end Slot

/-- The thread with another host. -/
def Thread.map (thread : Thread σ) : Thread σ' where
  roster := thread.roster
  host := hosts thread.host

/-- The slots with other copies. -/
def Slot.mapAll (slots : Array (Slot α)) : Array (Slot α') :=
  slots.map (Slot.map copies)

/-- The table with other copies. -/
def Table.map (table : Table α) : Table α' where
  identity := table.identity
  settings := table.settings
  slots := Slot.mapAll copies table.slots
  entries := table.entries
  tombstones := table.tombstones
  flags := table.flags
  tally := table.tally

/-- The loan with another copy. -/
def Loan.map (loan : Loan α) : Loan α' where
  identity := loan.identity
  index := loan.index
  item := copies loan.item

/-- The session with another host and other copies. -/
def Session.map (session : Session σ α) : Session σ' α' where
  table := session.table.map copies
  thread := session.thread.map hosts
  journal := session.journal

/-- The relocation with another host and other copies. -/
def Relocation.map (relocation : Relocation σ α) : Relocation σ' α' where
  source := Slot.mapAll copies relocation.source
  target := Slot.mapAll copies relocation.target
  moves := relocation.moves
  room := relocation.room
  tally := relocation.tally
  thread := relocation.thread.map hosts

namespace Slot

variable {copies} {slots : Array (Slot α)}

@[simp] theorem size_mapAll : (mapAll copies slots).size = slots.size :=
  Array.size_map

@[simp] theorem getElem?_mapAll (index : Nat) :
    (mapAll copies slots)[index]? = slots[index]?.map (map copies) :=
  Array.getElem?_map

@[simp] theorem slotAt_mapAll (index : Nat) :
    slotAt (mapAll copies slots) index = (slotAt slots index).map copies := by
  unfold slotAt
  rw [getElem?_mapAll]
  cases slots[index]? <;> rfl

@[simp] theorem mapAll_set (index : Nat) (slot : Slot α) :
    mapAll copies (slots.setIfInBounds index slot) =
      (mapAll copies slots).setIfInBounds index (slot.map copies) :=
  Array.map_setIfInBounds

@[simp] theorem mapAll_row (count : Nat) : mapAll copies (row α count) = row α' count := by
  unfold mapAll row
  rw [Array.map_replicate, map_empty]

end Slot

variable {copies} in
theorem Table.items_map (table : Table α) :
    (table.map copies).items = table.items.map copies := by
  unfold Table.items Table.map Slot.mapAll
  rw [Array.toList_map, List.filterMap_map, List.map_filterMap]
  congr 1
  funext slot
  exact Slot.item?_map slot

/-- The table with other copies has as many slots. -/
@[simp] theorem Table.capacity_map (table : Table α) :
    (table.map copies).capacity = table.capacity :=
  Slot.size_mapAll

/-- It aims at the same capacity. -/
@[simp] theorem Table.target?_map (table : Table α) (reclaim : Bool) :
    (table.map copies).target? reclaim = table.target? reclaim := by
  unfold target?
  rw [capacity_map]
  rfl

/-- The table with its own copies is itself. -/
@[simp] theorem Table.map_id (table : Table α) : table.map id = table := by
  have slots : Slot.mapAll id table.slots = table.slots := by
    unfold Slot.mapAll
    rw [show Slot.map id = (id : Slot α → Slot α) from funext fun slot => by cases slot <;> rfl,
      Array.map_id]
  unfold Table.map
  rw [slots]

/-! ## Behaviours -/

/-- A behaviour is mirrored by another one: their functions are, and both ask for
the same memory. -/
structure Behaviour.Mirrored
    (hosts : σ → σ')
    (copies : α → α')
    (behaviour : Behaviour σ ι α)
    (other : Behaviour σ' ι α') : Prop where
  /-- A copy stands for the same item as its image. -/
  key : ∀ copy, other.key (copies copy) = behaviour.key copy
  /-- The primary hash. -/
  hash : ∀ item, Mirrors (Thread.map hosts) id (behaviour.hash item) (other.hash item)
  /-- The secondary hash. -/
  rehash : ∀ item, Mirrors (Thread.map hosts) id (behaviour.rehash item) (other.rehash item)
  /-- The comparison. -/
  compare : ∀ stored item,
    Mirrors (Thread.map hosts) id (behaviour.compare stored item) (other.compare stored item)
  /-- The making of copies. -/
  duplicate : ∀ item,
    Mirrors (Thread.map hosts) (Option.map copies) (behaviour.duplicate item)
      (other.duplicate item)
  /-- Their release. -/
  release : ∀ copy,
    Mirrors (Thread.map hosts) id (behaviour.release copy) (other.release (copies copy))
  /-- The memory that they hold. -/
  heapBytes : ∀ copy,
    Mirrors (Thread.map hosts) id (behaviour.heapBytes copy) (other.heapBytes (copies copy))
  /-- A slot takes the same memory. -/
  slotBytes : other.slotBytes = behaviour.slotBytes
  /-- The hosts grant the same arrays. -/
  reserve : ∀ bytes host,
    other.reserve bytes (hosts host) = Prod.map id hosts (behaviour.reserve bytes host)

/-! ## Actions -/

namespace Action

variable {hosts copies} {view : β → β'}

theorem mirrors_inspect
    {look : Table α → β} {look' : Table α' → β'}
    (same : ∀ table : Table α, look' (table.map copies) = view (look table)) :
    Mirrors (Session.map hosts copies) view (inspect look) (inspect look') := by
  intro session
  exact congrArg (EStateM.Result.ok · (session.map hosts copies)) (same session.table)

theorem mirrors_table :
    Mirrors (Session.map hosts copies) (Table.map copies) (inspect id) (inspect id) :=
  mirrors_inspect fun _ => rfl

theorem mirrors_slots :
    Mirrors (Session.map hosts copies) (Slot.mapAll copies) (inspect Table.slots)
      (inspect Table.slots) :=
  mirrors_inspect fun _ => rfl

theorem mirrors_capacity :
    Mirrors (Session.map hosts copies) id (inspect Table.capacity) (inspect Table.capacity) :=
  mirrors_inspect (Table.capacity_map copies)

theorem mirrors_alter
    {change : Table α → Table α} {change' : Table α' → Table α'}
    (same : ∀ table : Table α, change' (table.map copies) = (change table).map copies) :
    Mirrors (Session.map hosts copies) id (alter change) (alter change') := by
  intro session
  have result : ∀ table : Table α', table = (change session.table).map copies →
      (EStateM.Result.ok () ⟨table, session.thread.map hosts, session.journal⟩ :
        EStateM.Result Abort (Session σ' α') Unit) =
      mapResult id (Session.map hosts copies) (alter change session) := by
    rintro _ rfl
    rfl
  exact result _ (same session.table)

theorem mirrors_report (event : Event) :
    Mirrors (Session.map hosts copies) id (report event) (report event) :=
  fun _ => rfl

theorem mirrors_trace
    {event : Table α → Event} {event' : Table α' → Event}
    (same : ∀ table : Table α, event' (table.map copies) = event table) :
    Mirrors (Session.map hosts copies) id (trace event) (trace event') := by
  refine Mirrors.bind (mirrors_inspect fun table => rfl) fun table => ?_
  change Mirrors _ _ _ (if table.settings.debug = true then _ else _)
  split
  · rw [same]
    exact mirrors_report _
  · exact Mirrors.pure _ id ()

theorem mirrors_flag (flags : Flags) :
    Mirrors (Session.map hosts copies) id (flag flags) (flag flags) :=
  mirrors_alter fun _ => rfl

theorem mirrors_live :
    Mirrors (Session.map hosts copies) id (live : Action σ α Nat) live := by
  intro session
  unfold live
  change (if session.table.tombstones ≤ session.table.entries then _ else _) = _
  split <;> rfl

theorem mirrors_onHost
    {change : σ → β × σ} {change' : σ' → β' × σ'}
    (same : ∀ host, change' (hosts host) = Prod.map view hosts (change host)) :
    Mirrors (Session.map hosts copies) view (onHost change) (onHost change') := by
  intro session
  unfold onHost
  simp only [Session.map, Thread.map, same, mapResult, Prod.map_fst, Prod.map_snd]

theorem mirrors_call
    {foreign : Call σ β} {foreign' : Call σ' β'}
    (mirrors : Mirrors (Thread.map hosts) view foreign foreign') :
    Mirrors (Session.map hosts copies) view (call foreign) (call foreign') := by
  intro session
  unfold call
  simp only [Session.map, mirrors session.thread]
  cases foreign session.thread <;> rfl

theorem mirrors_searching
    {search : Array (Slot α) → Counting (Thread σ) β}
    {search' : Array (Slot α') → Counting (Thread σ') β'}
    (mirrors : ∀ slots, Mirrors (Prod.map id (Thread.map hosts)) view (search slots)
      (search' (Slot.mapAll copies slots))) :
    Mirrors (Session.map hosts copies) view (searching search) (searching search') := by
  intro session
  have same := mirrors session.table.slots (session.table.tally, session.thread)
  rw [Prod.map_apply, id] at same
  unfold searching
  simp only [Session.map, Table.map, same]
  cases search session.table.slots (session.table.tally, session.thread) <;> rfl

theorem mirrors_entered
    {keeps : β → Bool} {keeps' : β' → Bool} {action : Action σ α β} {action' : Action σ' α' β'}
    (same : ∀ value, keeps' (view value) = keeps value)
    (mirrors : Mirrors (Session.map hosts copies) view action action') :
    Mirrors (Session.map hosts copies) view (entered keeps action) (entered keeps' action') := by
  intro session
  have enters : (session.map hosts copies).enter? =
      session.enter?.map (Session.map hosts copies) := by
    change Option.map _ (session.thread.roster.enter? session.table.identity) =
      Option.map _ (Option.map _ (session.thread.roster.enter? session.table.identity))
    cases session.thread.roster.enter? session.table.identity <;> rfl
  unfold entered
  rw [enters]
  cases session.enter? with
  | none => rfl
  | some ready =>
      simp only [Option.map_some, mirrors ready]
      cases action ready with
      | ok value after =>
          simp only [mapResult, same]
          split <;> rfl
      | error abort after => rfl

theorem mirrors_guarded
    {action : Action σ α β} {action' : Action σ' α' β'}
    (mirrors : Mirrors (Session.map hosts copies) view action action') :
    Mirrors (Session.map hosts copies) view (guarded action) (guarded action') :=
  mirrors_entered (fun _ => rfl) mirrors

end Action

/-! ## Searches -/

namespace Probe

variable {image : τ → τ'} {view : β → β'}

theorem Counting.mirrors_lift
    {computation : EStateM Abort τ β} {other : EStateM Abort τ' β'}
    (mirrors : Mirrors image view computation other) :
    Mirrors (Prod.map id image) view (Counting.lift computation) (Counting.lift other) := by
  rintro ⟨tally, rest⟩
  unfold Counting.lift
  simp only [Prod.map_apply, mirrors rest]
  cases computation rest <;> rfl

theorem Counting.mirrors_count (image : τ → τ') (change : Tally → Tally) :
    Mirrors (Prod.map id image) id (Counting.count change) (Counting.count change) :=
  fun _ => rfl

/-- A terrain looks like another one. -/
structure Terrain.Mirrored
    (image : τ → τ')
    (terrain : Terrain τ)
    (other : Terrain τ') : Prop where
  /-- There are as many slots. -/
  capacity : other.capacity = terrain.capacity
  /-- The stride is the same. -/
  rehash : Mirrors image id terrain.rehash other.rehash
  /-- Every slot looks the same. -/
  visit : ∀ index, Mirrors image id (terrain.visit index) (other.visit index)

namespace Terrain.Mirrored

variable {terrain : Terrain τ} {other : Terrain τ'}

theorem strideOf (mirrored : terrain.Mirrored image other) (course : Course) :
    Mirrors (Prod.map id image) id (terrain.strideOf course)
      (other.strideOf course) := by
  unfold Terrain.strideOf
  cases course.stride with
  | some stride => exact .pure _ id stride
  | none =>
      refine (Counting.mirrors_lift mirrored.rehash).bind fun rehash => ?_
      rw [mirrored.capacity]
      exact .pure _ id _

theorem advance (mirrored : terrain.Mirrored image other) (course : Course) :
    Mirrors (Prod.map id image) id (terrain.advance course)
      (other.advance course) := by
  refine (mirrored.strideOf course).bind fun stride => ?_
  refine (Counting.mirrors_count image Tally.miss).bind fun _ => ?_
  rw [mirrored.capacity, id]
  split
  · exact .pure _ id _
  · exact .throw _ id _

theorem follow
    (mirrored : terrain.Mirrored image other)
    (purpose : Purpose)
    (remaining : Nat)
    (course : Course) :
    Mirrors (Prod.map id image) id (terrain.follow purpose remaining course)
      (other.follow purpose remaining course) := by
  induction remaining generalizing course with
  | zero => exact .pure _ id _
  | succ remaining inductionHypothesis =>
      have look : Mirrors (Prod.map id image) id (terrain.look course) (other.look course) :=
        (Counting.mirrors_count image Tally.probe).bind fun _ =>
          Counting.mirrors_lift (mirrored.visit course.index)
      refine look.bind fun sighting => ?_
      have goesOn : ∀ noted : Course,
          Mirrors (Prod.map id image) id
            (if remaining = 0 then Pure.pure noted.exhaust else do
              let course ← terrain.advance noted
              terrain.follow purpose remaining course)
            (if remaining = 0 then Pure.pure noted.exhaust else do
              let course ← other.advance noted
              other.follow purpose remaining course) := by
        intro noted
        split
        · exact .pure _ id _
        · exact (mirrored.advance noted).bind inductionHypothesis
      cases sighting with
      | empty => exact .pure _ id _
      | equal => exact .pure _ id _
      | tombstone => exact goesOn _
      | different => exact goesOn _

theorem search
    (mirrored : terrain.Mirrored image other)
    (purpose : Purpose)
    (hash : UInt64) :
    Mirrors (Prod.map id image) id (terrain.search purpose hash)
      (other.search purpose hash) := by
  unfold Terrain.search
  rw [mirrored.capacity]
  exact mirrored.follow purpose _ _

end Terrain.Mirrored
end Probe

end OpenAddressing
