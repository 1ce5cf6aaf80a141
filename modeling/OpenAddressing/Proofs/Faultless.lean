import OpenAddressing.Proofs.Committing
import OpenAddressing.Proofs.Refinement
import OpenAddressing.Proofs.Upholding.Threads
import OpenAddressing.Text.Account

/-!
# Tables without faults

A fault is a broken promise of the table itself: a slot number out of range, a count
below zero, a position beyond the machine word, a slot without the item it should hold,
or a move that there is no room to write down.  A table that requests can reach never
raises one, whatever foreign code answers: a request is cut short by foreign code or not
at all.  What a search says of a slot is true of the array that was searched, and the
moves of a reorganization stay within the two arrays and within the room that was
reserved for them.
-/

namespace OpenAddressing

open Relocation (slotAt)
open Probe (Outcome Purpose)

variable {σ ι α β : Type} {behaviour : Behaviour σ ι α}

/-! ## What searches say -/

/-- What an outcome says is true of the slots. -/
def Probe.Outcome.Fits (slots : Array (Slot α)) : Outcome → Prop
  | .found index => index < slots.size ∧ ∃ copy, slots[index]? = some (.occupied copy)
  | .vacant index =>
    index < slots.size ∧ (slots[index]? = some .empty ∨ slots[index]? = some .tombstone)
  | .missing => True

/-- The outcome of a search is true of the array that was searched. -/
theorem Behaviour.Locates.fits
    {slots : Array (Slot α)} {purpose : Purpose} {item : ι} {outcome : Outcome}
    (locates : behaviour.Locates slots purpose item outcome) :
    outcome.Fits slots := by
  cases outcome with
  | missing => trivial
  | found index =>
      obtain ⟨copy, stored⟩ := locates.stored_of_found
      have within := Slot.lt_size_of_slotAt stored (by simp)
      exact ⟨within, copy, stored ▸ Slot.getElem?_eq_some_slotAt within⟩
  | vacant index =>
      obtain ⟨_, within, free⟩ := locates.free_of_vacant
      have here := Slot.getElem?_eq_some_slotAt within
      refine ⟨within, ?_⟩
      cases slot : slotAt slots index with
      | empty => exact Or.inl (slot ▸ here)
      | tombstone => exact Or.inr (slot ▸ here)
      | occupied copy => simp [slot] at free

/-- A search of an array that is not too large is cut short by foreign code alone. -/
theorem Behaviour.search_fits
    {slots : Array (Slot α)} {item : ι} {hash : UInt64}
    (small : 2 * slots.size ≤ UInt64.size)
    (told : Returns (behaviour.hash item) hash)
    (purpose : Purpose)
    (tally : Probe.Tally)
    (thread : Thread σ) :
    Leads ((Table.terrain behaviour item slots).search purpose hash) (tally, thread)
      (fun outcome _ => outcome.Fits slots)
      (fun abort _ => behaviour.Raises abort) := by
  refine ((behaviour.terrain_charted item slots thread).search_leads small purpose hash
    tally (.refl thread)).mono ?_ fun _ _ cut => cut.1
  rintro outcome _ ⟨_, surveyed⟩
  exact Behaviour.Locates.fits ⟨hash, told, surveyed⟩

/-- One stride from a slot of an array that is not too large stays a machine word. -/
theorem Probe.index_add_stride_lt
    {capacity index : Nat}
    (small : 2 * capacity ≤ UInt64.size)
    (within : index < capacity)
    (rehash : UInt64) :
    index + stride capacity rehash < UInt64.size := by
  have bounded := stride_le capacity rehash
  omega

/-! ## Moves in order -/

/-- The moves of a relocation lead from slots of the table to slots of the new array,
and together with the room that is left they are as many as the items counted. -/
structure Relocation.Orderly (table : Table α) (relocation : Relocation σ α) : Prop where
  /-- Items come from an array as large as that of the table. -/
  size : relocation.source.size = table.capacity
  /-- Each move is from a slot of the one array to a slot of the other. -/
  moves : ∀ step ∈ relocation.moves,
    step.1 < relocation.source.size ∧ step.2 < relocation.target.size
  /-- No more moves are written down than there was room for. -/
  room : relocation.moves.length + relocation.room = table.entries - table.tombstones

namespace Relocation

variable {table : Table α} {origin : Nat}

/-- A move that is refused changes nothing, and any other one is in order. -/
theorem orderly_move
    (within : origin < table.capacity)
    (item : α)
    (destination : Nat) :
    Upholds (Orderly table) (move item origin destination : Step σ α Unit) := by
  intro relocation orderly
  unfold Leads move
  by_cases beyond : relocation.target.size ≤ destination
  · rw [if_pos beyond]
    exact orderly
  · rw [if_neg beyond]
    cases enough : relocation.room with
    | zero => exact orderly
    | succ room =>
        constructor
        · exact Array.size_setIfInBounds.trans orderly.size
        · simp only [Array.size_setIfInBounds, List.forall_mem_cons]
          exact ⟨⟨orderly.size ▸ within, Nat.not_le.mp beyond⟩, orderly.moves⟩
        · have reserved := orderly.room
          rw [enough] at reserved
          change relocation.moves.length + 1 + room = table.entries - table.tombstones
          omega

/-- A relocation stays in order when it deals with one more slot. -/
theorem orderly_place (within : origin < table.capacity) :
    Upholds (Orderly table) (place behaviour origin) := by
  intro relocation orderly
  have asked : ∀ (tally : Probe.Tally) (thread : Thread σ),
      Orderly table { relocation with tally, thread } :=
    fun _ _ => ⟨orderly.size, orderly.moves, orderly.room⟩
  unfold place
  simp only [leads_bind, leads_get]
  cases slotAt relocation.source origin with
  | empty => exact orderly
  | tombstone => exact orderly
  | occupied item =>
      simp only [leads_bind, leads_call, leads_searching]
      refine (leads_self _ _).mono (fun hash thread _ => ?_) fun _ _ _ => asked _ _
      refine (leads_self _ _).mono (fun outcome after _ => ?_) fun _ _ _ => asked _ _
      cases outcome with
      | found index => exact asked _ _
      | missing => exact asked _ _
      | vacant destination => exact orderly_move within item destination _ (asked _ _)

/-- A relocation stays in order wherever it ends. -/
theorem orderly_placeAll (behaviour : Behaviour σ ι α) (table : Table α) :
    Upholds (Orderly table) (placeAll behaviour) := by
  intro relocation orderly
  unfold placeAll
  simp only [leads_bind, leads_get, orderly.size]
  refine Upholds.forM (fun origin member => ?_) relocation orderly
  exact orderly_place (List.mem_range.mp member)

end Relocation

/-! ## The arrays that are searched -/

/-- The relocations by which a table is reorganized, with the number of slots that were
dealt with. -/
inductive Behaviour.Relocates (behaviour : Behaviour σ ι α) (table : Table α) :
    Nat → Relocation σ α → Prop
  | begun {grow : Bool} {capacity : Nat} {host : σ} {target : Array (Slot α)}
      (encounters : behaviour.Encounters table)
      (aimed : table.target? (table.reclaims (table.entries - table.tombstones) grow) =
        some capacity)
      (granted : (behaviour.slots capacity host).1 = some target)
      (tally : Probe.Tally) (thread : Thread σ) :
      Relocates behaviour table 0 {
        source := table.slots
        target
        room := table.entries - table.tombstones
        tally
        thread }
  | placed {count : Nat} {relocation after : Relocation σ α}
      (relocates : Relocates behaviour table count relocation)
      (within : count < table.capacity)
      (run : Relocation.place behaviour count relocation = .ok () after) :
      Relocates behaviour table (count + 1) after

/-- The arrays that are searched: those of tables, and those that a reorganization moves
the items to. -/
inductive Behaviour.Searches (behaviour : Behaviour σ ι α) : Array (Slot α) → Prop
  | table {table : Table α}
      (encounters : behaviour.Encounters table) :
      Searches behaviour table.slots
  | target {table : Table α} {count : Nat} {relocation : Relocation σ α}
      (relocates : behaviour.Relocates table count relocation) :
      Searches behaviour relocation.target

namespace Behaviour

variable {table : Table α} {count : Nat} {relocation : Relocation σ α}

/-- The relocations of a table are under way to a capacity that it aims at and that can
be worked with. -/
theorem Relocates.underway (relocates : behaviour.Relocates table count relocation) :
    table.Sound ∧ ∃ grow capacity start,
      table.target? (table.reclaims table.items.length grow) = some capacity ∧
      2 * capacity ≤ UInt64.size ∧
      Relocation.Underway behaviour table.slots capacity start count relocation := by
  induction relocates with
  | @begun grow capacity host target encounters aimed granted tally thread =>
      have sound := encounters.sound
      obtain ⟨rfl, addressable⟩ := slots_eq_some granted
      rw [sound.live_eq_length] at aimed
      exact ⟨sound, grow, capacity, thread, aimed,
        Slot.two_mul_le_of_addressable behaviour.slotBytes_pos addressable,
        .first behaviour table.slots capacity _ tally thread sound.live_eq_length⟩
  | placed _ _ run inductionHypothesis =>
      obtain ⟨sound, grow, capacity, start, aimed, small, underway⟩ := inductionHypothesis
      exact ⟨sound, grow, capacity, start, aimed, small,
        (Relocation.place_leads small underway).of_ok run⟩

/-- An array that is searched is neither too small nor too large to be worked with. -/
theorem Searches.sized
    {slots : Array (Slot α)}
    (searches : behaviour.Searches slots) :
    Ladder.minimumCapacity ≤ slots.size ∧ 2 * slots.size ≤ UInt64.size := by
  cases searches with
  | table encounters => exact ⟨encounters.sound.large, encounters.sound.small⟩
  | target relocates =>
      obtain ⟨sound, _, capacity, _, aimed, small, underway⟩ := relocates.underway
      rw [underway.refills.size]
      exact ⟨(sound.room_of_target? aimed).1, small⟩

/-- A relocation is cut short by foreign code alone, and its moves are in order wherever
it ends. -/
theorem Relocates.placeAll_leads (relocates : behaviour.Relocates table 0 relocation) :
    Leads (Relocation.placeAll behaviour) relocation
      (fun _ after => after.Orderly table)
      (fun abort after => behaviour.Raises abort ∧ after.Orderly table) := by
  obtain ⟨_, _, capacity, start, _, small, underway⟩ := relocates.underway
  obtain ⟨same, orderly⟩ : relocation.source = table.slots ∧ relocation.Orderly table := by
    cases relocates
    exact ⟨rfl, rfl, fun _ member => absurd member List.not_mem_nil, Nat.zero_add _⟩
  have ordered := Relocation.orderly_placeAll behaviour table relocation orderly
  exact ((Relocation.placeAll_leads small underway same).and ordered).mono
    (fun _ _ ended => ended.2) fun _ _ cut => ⟨cut.1.1, cut.2⟩

end Behaviour

/-! ## Teardowns -/

namespace Table

variable {session : Session σ α}

/-- A slot is emptied unless a release is cut short. -/
theorem discardAt_leads_raises
    {index : Nat}
    (within : index < session.table.capacity) :
    Leads (discardAt behaviour index) session
      (fun _ after => after.table.capacity = session.table.capacity)
      (fun abort _ => behaviour.Raises abort) := by
  have cleared : (session.table.slots.setIfInBounds index .empty).size =
      session.table.capacity := Array.size_setIfInBounds
  unfold discardAt
  simp only [leads_bind, Action.leads_inspect, Slot.getElem?_eq_some_slotAt within]
  cases (slotAt session.table.slots index).item? with
  | none =>
      simp only [clear, leads_bind, Action.leads_alter, leads_pure]
      exact cleared
  | some stored =>
      simp only [clear, leads_bind, Action.leads_alter, Action.leads_call, leads_pure]
      exact (leads_self _ session.thread).mono (fun _ _ _ => cleared)
        fun _ after run => .release stored ⟨session.thread, after, run⟩

/-- A teardown of any table ends, unless a release is cut short. -/
theorem tearDown_leads_raises (session : Session σ α) :
    Leads (tearDown behaviour) session
      (fun _ _ => True)
      (fun abort _ => behaviour.Raises abort) := by
  have each : ∀ index (total : Nat) (before : Session σ α), index < session.table.capacity →
      before.table.capacity = session.table.capacity →
      Leads (discardAt behaviour index) before
        (fun _ after => after.table.capacity = session.table.capacity)
        (fun abort _ => behaviour.Raises abort) := by
    intro index _ before within same
    exact (discardAt_leads_raises (within.trans_eq same.symm)).mono
      (fun _ _ same' => same'.trans same) fun _ _ raises => raises
  unfold tearDown
  simp only [leads_bind, Action.leads_inspect, List.range_eq_range', Action.leads_trace]
  exact (leads_total each session.table.capacity 0 0 (Nat.zero_add _).le rfl).mono
    (fun _ _ _ => trivial) fun _ _ raises => raises

end Table

/-! ## Runs that are not disturbed -/

namespace Request

variable {before after : Session σ α} {identity : Nat}

/-- Discreet foreign code of a request upholds how often the table is on the roster. -/
theorem Discreet.upholds
    {request : Request σ ι α β} {γ : Type} {foreign : Call σ γ}
    (discreet : request.Discreet identity)
    (calls : request.Calls foreign)
    (times : Nat) :
    Upholds (fun thread => thread.roster.count identity = times) foreign := by
  cases calls with
  | findWith item use copy => exact .of_keeps (discreet copy) times
  | retain keep copy => exact .of_keeps (discreet copy) times
  | walk visitor copy => exact .of_keeps (discreet copy) times

/-- So does the discreet foreign code of a behaviour. -/
theorem upholds_of_discreet
    (discreet : behaviour.Discreet identity)
    (times : Nat) :
    behaviour.Upholds fun thread => thread.roster.count identity = times where
  calls calls := by
    cases calls with
    | hash item => exact .of_keeps (discreet.hash item) times
    | rehash item => exact .of_keeps (discreet.rehash item) times
    | compare stored item => exact .of_keeps (discreet.compare stored item) times
    | duplicate item => exact .of_keeps (discreet.duplicate item) times
    | release copy => exact .of_keeps (discreet.release copy) times
    | heapBytes copy => exact .of_keeps (discreet.heapBytes copy) times
  reserve _ _ same := same

/-- However a request ends, discreet foreign code leaves the table free. -/
theorem free_of_passes
    {request : Request σ ι α β}
    (discreet : behaviour.Discreet before.table.identity)
    (discreet' : request.Discreet before.table.identity)
    (free : before.table.identity ∉ before.thread.roster)
    (run : Passes (request.perform behaviour) before after) :
    after.table.identity = before.table.identity ∧
      before.table.identity ∉ after.thread.roster := by
  have leads := perform_leads_of_upholds (upholds_of_discreet discreet _)
    (fun calls => discreet'.upholds calls _) free rfl
  obtain ⟨done, ⟨same, count⟩, rfl⟩ := leads.of_passes run
  exact ⟨same, Session.free_of_count same free count⟩

/-- Requests to a free table return one after the other if no foreign code is cut short,
and the table is free again. -/
theorem performAll_returns
    {requests : List (Request σ ι α β)}
    (reachable : behaviour.Reachable before.table)
    (steady : behaviour.Steady)
    (discreet : behaviour.Discreet before.table.identity)
    (free : before.table.identity ∉ before.thread.roster)
    (harmless : ∀ request ∈ requests, request.Harmless before.table.identity) :
    ∃ answers after, performAll behaviour requests before = .ok answers after ∧
      after.table.identity = before.table.identity ∧
      before.table.identity ∉ after.thread.roster := by
  induction requests generalizing before with
  | nil => exact ⟨[], before, rfl, rfl, free⟩
  | cons request rest inductionHypothesis =>
      have harmless' := harmless request List.mem_cons_self
      obtain ⟨answer, done, run, _⟩ :=
        perform_returns steady reachable.intact.sound free harmless'
      have passes : Passes (request.perform behaviour) before done.leave :=
        Or.inl ⟨answer, run⟩
      obtain ⟨same, free'⟩ := free_of_passes discreet harmless'.2 free passes
      rw [← same] at discreet free' harmless
      obtain ⟨answers, after, runs, same', free''⟩ := inductionHypothesis
        (reachable.performed request _ _ passes) discreet free'
        fun other later => harmless other (List.mem_cons_of_mem _ later)
      refine ⟨answer :: answers, after, ?_, same'.trans same, same ▸ free''⟩
      simp only [performAll, bind, EStateM.bind, run, runs, pure, EStateM.pure]

end Request

/-- A sound table that is free describes itself. -/
theorem Table.outline_returns
    {session : Session σ α}
    (sound : session.table.Sound)
    (free : session.table.identity ∉ session.thread.roster) :
    ∃ outline, Table.outline session = .ok outline session := by
  have leads : Leads Table.outline session
      (fun _ after => after = session) (fun _ _ => False) := by
    unfold Table.outline
    simp only [leads_bind, Action.leads_inspect, leads_pure, Table.leads_statistics sound free]
  obtain ⟨outline, after, run, rfl⟩ := leads.exists_ok fun _ _ => id
  exact ⟨outline, run⟩

/-- A reachable table answers every run of requests, describes itself and is torn down, if
no foreign code is cut short and all of it is discreet about the table.  Otherwise it is
foreign code that cuts a request or a teardown short.  The arrays that are searched have
slots, one stride does not leave the machine word, and the outcome of a search is true of
the array.  The moves of a reorganization are in order wherever it ends. -/
theorem tables_never_fault
    {table : Table α}
    (reachable : behaviour.Reachable table) :
    (∀ {β : Type} (requests : List (Request σ ι α β)) (thread : Thread σ)
      (journal : List Event),
      behaviour.Steady → behaviour.Discreet table.identity →
      (∀ request ∈ requests, request.Harmless table.identity) →
      table.identity ∉ thread.roster →
      ∃ answers after,
        Request.performAll behaviour requests ⟨table, thread, journal⟩ = .ok answers after ∧
        (∃ outline, Table.outline after = .ok outline after) ∧
        ∃ ended, Table.tearDown behaviour after = .ok () ended) ∧
    (∀ {β : Type} (request : Request σ ι α β) (thread : Thread σ) (journal : List Event),
      table.identity ∉ thread.roster →
      Leads (request.perform behaviour) ⟨table, thread, journal⟩
        (fun _ _ => True)
        (fun abort _ => behaviour.Raises abort ∨ request.Raises abort)) ∧
    (∀ (thread : Thread σ) (journal : List Event),
      Leads (Table.tearDown behaviour) ⟨table, thread, journal⟩
        (fun _ _ => True)
        (fun abort _ => behaviour.Raises abort)) ∧
    (∀ slots, behaviour.Searches slots →
      0 < slots.size ∧
      (∀ index < slots.size, ∀ rehash,
        index + Probe.stride slots.size rehash < UInt64.size) ∧
      ∀ (purpose : Purpose) (item : ι) (hash : UInt64) (tally : Probe.Tally)
        (thread : Thread σ),
        Returns (behaviour.hash item) hash →
        Leads ((Table.terrain behaviour item slots).search purpose hash) (tally, thread)
          (fun outcome _ => outcome.Fits slots)
          (fun abort _ => behaviour.Raises abort)) ∧
    ∀ (table : Table α) (relocation : Relocation σ α),
      behaviour.Relocates table 0 relocation →
      Leads (Relocation.placeAll behaviour) relocation
        (fun _ after => after.Orderly table)
        (fun abort after => behaviour.Raises abort ∧ after.Orderly table) := by
  refine ⟨?_, ?_, ?_, ?_, ?_⟩
  · intro _ requests thread journal steady discreet harmless free
    have reachable' : behaviour.Reachable (⟨table, thread, journal⟩ : Session σ α).table :=
      reachable
    obtain ⟨answers, after, run, same, free'⟩ :=
      Request.performAll_returns reachable' steady discreet free harmless
    have sound : after.table.Sound :=
      (reachable'.performAll (Or.inl ⟨answers, run⟩)).intact.sound
    obtain ⟨_, ended, torn⟩ := steady.returns (Table.tearDown_leads_raises after)
    exact ⟨answers, after, run, Table.outline_returns sound (same ▸ free'), ended, torn⟩
  · intro _ request thread journal free
    have leads : Leads (request.perform behaviour) ⟨table, thread, journal⟩ _ _ :=
      Request.perform_leads reachable.intact.sound free request
    exact leads.mono (fun _ _ _ => trivial) fun _ _ cut => cut.1
  · exact fun thread journal => Table.tearDown_leads_raises _
  · intro slots searches
    obtain ⟨large, small⟩ := searches.sized
    refine ⟨by unfold Ladder.minimumCapacity at large; omega, ?_, ?_⟩
    · exact fun index within rehash => Probe.index_add_stride_lt small within rehash
    · exact fun purpose item hash tally thread told =>
        Behaviour.search_fits small told purpose tally thread
  · exact fun _ _ relocates => relocates.placeAll_leads

/-! ## A table of erratic numbers -/

/-- A call that answers by the number of calls so far. -/
def Call.whimsical (answer : Nat → β) : Call Nat β :=
  Call.onHost fun calls => (answer (calls + 1), calls + 1)

/-- Numbers whose hashes and comparisons change from call to call.  Copies and arrays are
refused now and then, but no call is cut short. -/
def Behaviour.erratic : Behaviour Nat Nat Nat where
  key := id
  hash _ := Call.whimsical fun calls => UInt64.ofNat (calls / 2)
  rehash _ := Call.whimsical fun calls => UInt64.ofNat calls
  compare _ _ := Call.whimsical fun calls => if calls % 4 = 0 then .eq else .lt
  duplicate number := Call.whimsical fun calls => if calls % 7 = 0 then none else some number
  release _ := Call.whimsical fun _ => ()
  heapBytes _ := Call.whimsical id
  slotBytes := 1
  slotBytes_pos := Nat.one_pos
  reserve _ calls := (calls % 3 != 0, calls)

theorem Behaviour.erratic_steady : Behaviour.erratic.Steady := by
  intro abort raises
  cases raises with
  | hash _ cut | rehash _ cut | compare _ _ cut | duplicate _ cut | release _ cut
  | heapBytes _ cut =>
      obtain ⟨_, _, run⟩ := cut
      cases run

theorem Behaviour.erratic_discreet (identity : Nat) : Behaviour.erratic.Discreet identity := by
  constructor
  all_goals
    intros
    rintro before after (⟨_, run⟩ | ⟨_, run⟩) <;> cases run
    rfl

/-- Erratic numbers leave a table with one number twice, but not with a fault: it is torn
down, or its items are moved on to a larger array. -/
theorem table_of_erratic_never_faults :
    ∃ answers after ended relocation moved,
      Request.performAll Behaviour.erratic (Behaviour.wearing ++ Behaviour.wearing)
        ⟨{ identity := 0, settings := { initialCapacity := 8 }, slots := Slot.row Nat 8 },
          { host := 0 }, []⟩ = .ok answers after ∧
      after.table.items = [10, 11, 4, 10, 8] ∧
      Table.tearDown Behaviour.erratic after = .ok () ended ∧
      Behaviour.erratic.Relocates after.table 0 relocation ∧
      Relocation.placeAll Behaviour.erratic relocation = .ok () moved ∧
      moved.Orderly after.table := by
  have reachable : Behaviour.erratic.Reachable
      { identity := 0, settings := { initialCapacity := 8 }, slots := Slot.row Nat 8 } :=
    .created { initialCapacity := 8 } 0 1 rfl
  have harmless : ∀ request ∈ Behaviour.wearing ++ Behaviour.wearing,
      request.Harmless 0 := by
    simp [Behaviour.wearing, Request.Harmless, Request.Raises, Request.Discreet,
      Laws.not_cutBy_pure, Discreet.of_pure]
  obtain ⟨runs, _, _, _, orders⟩ := tables_never_fault reachable
  obtain ⟨answers, after, run, _, ended, torn⟩ := runs (Behaviour.wearing ++ Behaviour.wearing)
    { host := 0 } [] Behaviour.erratic_steady (Behaviour.erratic_discreet 0) harmless
    List.not_mem_nil
  obtain ⟨_, _, run', tested⟩ := exists_of_meets (show meets
    (fun _ after => after.table.items == [10, 11, 4, 10, 8] &&
      after.table.target? (after.table.reclaims
        (after.table.entries - after.table.tombstones) true) == some 251)
    (Request.performAll Behaviour.erratic (Behaviour.wearing ++ Behaviour.wearing)
      ⟨{ identity := 0, settings := { initialCapacity := 8 }, slots := Slot.row Nat 8 },
        { host := 0 }, []⟩) = true by decide +kernel)
  cases run.symm.trans run'
  rw [Bool.and_eq_true, beq_iff_eq, beq_iff_eq] at tested
  have reachable' := reachable.performAll (Or.inl ⟨answers, run⟩)
  have relocates := Behaviour.Relocates.begun (.reachable reachable') tested.2
    (show (Behaviour.erratic.slots 251 1).1 = some (Slot.row Nat 251) from rfl) {} { host := 0 }
  obtain ⟨_, moved, placed, ordered⟩ := (orders _ _ relocates).exists_ok
    fun abort _ cut => Behaviour.erratic_steady abort cut.1
  exact ⟨answers, after, ended, _, moved, run, tested.1, torn, relocates, placed, ordered⟩

end OpenAddressing
