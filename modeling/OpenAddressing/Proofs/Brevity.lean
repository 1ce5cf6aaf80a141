import OpenAddressing.Proofs.Accepting
import OpenAddressing.Proofs.Faultless
import OpenAddressing.Proofs.Probe.Recording

/-!
# Brief searches

At a prime capacity the slots of a path are different ones, and an empty slot is among
them as long as the array has one.  So a search looks at no slot twice, passes slots in
use only, and ends at an empty slot or at an equal item, whatever foreign code answers.
The tables whose settings let them begin at a prime capacity stay at prime capacities,
and so an insertion there never has to grow the table because a path is exhausted.
-/

namespace OpenAddressing

open Relocation (slotAt)
open Probe

variable {σ ι α β : Type} {behaviour : Behaviour σ ι α}

/-! ## Slots in use -/

namespace Slot

variable {slots : Array (Slot α)}

/-- Different slots that are not empty are no more than the slots in use. -/
theorem length_le_of_filled
    {indices : List Nat}
    (nodup : indices.Nodup)
    (filled : ∀ index ∈ indices, slotAt slots index ≠ .empty) :
    indices.length ≤ residents slots + graves slots := by
  have within : indices ⊆
      (List.range slots.size).filter fun index => ¬ (slotAt slots index).isEmpty := by
    intro index member
    rw [List.mem_filter, List.mem_range]
    refine ⟨lt_size_of_slotAt rfl (filled index member), ?_⟩
    have notEmpty := filled index member
    cases slot : slotAt slots index <;> simp_all [isEmpty]
  have fewer := (List.subperm_of_subset nodup within).length_le
  have used : ((List.range slots.size).filter fun index =>
      ¬ (slotAt slots index).isEmpty).length = slots.toList.countP fun slot => ¬ slot.isEmpty := by
    rw [toList_eq_map, List.countP_map, List.countP_eq_length_filter]
    rfl
  have split : slots.toList.length = blanks slots + slots.toList.countP fun slot =>
    ¬ slot.isEmpty := List.length_eq_countP_add_countP isEmpty
  have census := census slots
  rw [Array.length_toList] at split
  omega

end Slot

/-! ## Sightings -/

namespace Behaviour.Sees

variable {item : ι} {slot : Slot α} {sighting : Sighting}

/-- A slot that does not end a search is in use. -/
theorem ne_empty
    (sees : behaviour.Sees item slot sighting)
    (goes : sighting.stops = false) :
    slot ≠ .empty := by
  rintro rfl
  cases sees
  cases goes

/-- An empty slot is the only one that is seen as such. -/
theorem eq_empty (sees : behaviour.Sees item slot .empty) : slot = .empty := by
  generalize seen : Sighting.empty = sighting at sees
  cases sees with
  | empty => rfl
  | tombstone => cases seen
  | @occupied copy ordering compared => cases ordering <;> cases seen

/-- An equal item has compared equal. -/
theorem compared_eq (sees : behaviour.Sees item slot .equal) :
    ∃ copy, slot = .occupied copy ∧
      Returns (behaviour.compare (behaviour.key copy) item) .eq := by
  generalize seen : Sighting.equal = sighting at sees
  cases sees with
  | empty => cases seen
  | tombstone => cases seen
  | @occupied copy ordering compared =>
      cases ordering with
      | eq => exact ⟨copy, rfl, compared⟩
      | lt => cases seen
      | gt => cases seen

end Behaviour.Sees

/-! ## Trails of searches -/

/-- The trail of a search that looks at different slots and passes those in use only. -/
structure Probe.Trail.Brief (slots : Array (Slot α)) (trail : Trail) : Prop where
  /-- No slot is looked at twice. -/
  nodup : trail.visited.Nodup
  /-- No slot before the last one is empty. -/
  filled : ∀ index ∈ trail.visited.tail, slotAt slots index ≠ .empty

/-- Such a trail is at most by one longer than there are slots in use. -/
theorem Probe.Trail.Brief.length_le
    {slots : Array (Slot α)} {trail : Trail}
    (brief : trail.Brief slots) :
    trail.visited.length ≤ Slot.residents slots + Slot.graves slots + 1 := by
  have passed := Slot.length_le_of_filled brief.nodup.tail brief.filled
  rw [List.length_tail] at passed
  omega

/-- How a search for an item may end at the last slot that it looks at. -/
inductive Behaviour.EndsAt
    (behaviour : Behaviour σ ι α)
    (slots : Array (Slot α))
    (item : ι) : Outcome → Nat → Prop
  /-- The slot is empty, and no equal item was found. -/
  | empty {outcome : Outcome} {last : Nat}
      (here : slotAt slots last = .empty)
      (notFound : ∀ index, outcome ≠ .found index) :
      EndsAt behaviour slots item outcome last
  /-- The slot holds an item that has compared equal. -/
  | equal {copy : α} {last : Nat}
      (here : slotAt slots last = .occupied copy)
      (compared : Returns (behaviour.compare (behaviour.key copy) item) .eq) :
      EndsAt behaviour slots item (.found last) last

namespace Behaviour

variable {slots : Array (Slot α)} {item : ι} {hash rehash : UInt64}
variable {steps : Nat → Sighting}

/-- The trail along a path is brief as long as nothing has ended the search. -/
theorem brief_along
    (prime : slots.size.Prime)
    {count : Nat}
    (bounded : count ≤ slots.size)
    (going : ∀ step, step + 1 < count →
      behaviour.Sees item (slotAt slots (position slots.size hash rehash step)) (steps step) ∧
        (steps step).stops = false)
    (asks : Nat) :
    (Trail.along (position slots.size hash rehash) count asks).Brief slots where
  nodup := List.nodup_reverse.mpr (nodup_positions prime hash rehash bounded)
  filled := by
    intro index passed
    cases count with
    | zero => cases passed
    | succ count =>
        rw [Trail.along_visited, List.range_succ, List.map_append, List.reverse_append] at passed
        obtain ⟨step, before, rfl⟩ :=
          List.mem_map.mp (List.mem_reverse.mp (show index ∈ (List.map _ _).reverse from passed))
        rw [List.mem_range] at before
        obtain ⟨sees, goes⟩ := going step (by omega)
        exact sees.ne_empty goes

/-- An empty slot ends every search at a prime capacity. -/
theorem exists_stop
    (prime : slots.size.Prime)
    (blank : 0 < Slot.blanks slots)
    (sighted : Sighted slots.size hash
      (fun index => behaviour.Sees item (slotAt slots index))
      (Returns (behaviour.rehash item)) rehash steps) :
    ∃ last, stop? slots.size steps = some last := by
  rw [← Option.isSome_iff_exists, ← Option.ne_none_iff_isSome]
  intro exhausted
  have throughout : examined slots.size steps = slots.size := by
    unfold examined
    rw [exhausted]
  obtain ⟨index, within, isBlank⟩ := Slot.exists_blank blank
  obtain ⟨step, early, reaches⟩ :=
    exists_position_eq hash (coprime_stride_of_prime prime rehash) within
  have sees := sighted.seen step (Nat.lt_of_lt_of_eq early throughout.symm)
  refine Sees.ne_empty sees (stop?_eq_none_iff.mp exhausted step early) ?_
  rw [reaches]
  exact isBlank

/-- A search that stops ends at an empty slot or at an equal item, and then it has a place
for a new item. -/
theorem ends_of_stop
    {last : Nat}
    (stopped : stop? slots.size steps = some last)
    (sees : behaviour.Sees item (slotAt slots (position slots.size hash rehash last))
      (steps last))
    (purpose : Purpose) :
    behaviour.EndsAt slots item
        (verdict purpose (position slots.size hash rehash) slots.size steps)
        (position slots.size hash rehash last) ∧
      (purpose = .insert →
        verdict purpose (position slots.size hash rehash) slots.size steps ≠ .missing) := by
  obtain ⟨within, stops, earlier⟩ := stop?_eq_some_iff.mp stopped
  rcases Sighting.stops_iff.mp stops with empty | equal
  · rw [empty] at sees
    refine ⟨.empty sees.eq_empty ?_, ?_⟩ <;> cases purpose <;> simp [verdict, stopped, empty]
  · rw [equal] at sees
    obtain ⟨copy, here, compared⟩ := sees.compared_eq
    rw [verdict_eq_found within equal earlier]
    exact ⟨.equal here compared, by simp⟩

/-- Every search of an array is brief, as its record tells, and counts the slots that it
looks at, of which there are no more than a limit.  If it is not cut short, it ends at an
empty slot or at an equal item, and it never fails to find a place for a new item. -/
def SearchesBriefly
    (behaviour : Behaviour σ ι α)
    (slots : Array (Slot α))
    (limit : Nat) : Prop :=
  ∀ (purpose : Purpose) (item : ι) (hash : UInt64) (tally : Tally) (thread : Thread σ),
    let terrain := Table.terrain behaviour item slots
    Leads (terrain.search purpose hash) (tally, thread)
      (fun outcome after => ∃ trail last,
        terrain.recorded.search purpose hash (tally, {}, thread) =
          .ok outcome (after.1, trail, after.2) ∧
        trail.Brief slots ∧ trail.visited.length ≤ limit ∧
        after.1 = tally.add trail.visited.length (trail.visited.length - 1) ∧
        trail.visited.head? = some last ∧ behaviour.EndsAt slots item outcome last ∧
        (purpose = .insert → outcome ≠ .missing))
      (fun abort after => ∃ trail,
        terrain.recorded.search purpose hash (tally, {}, thread) =
          .error abort (after.1, trail, after.2) ∧
        trail.Brief slots ∧ trail.visited.length ≤ limit ∧
        after.1 = tally.add trail.visited.length (trail.visited.length - 1))

/-- The searches of an array of prime capacity are brief while it has an empty slot. -/
theorem searchesBriefly_of_prime
    (small : 2 * slots.size ≤ UInt64.size)
    (prime : slots.size.Prime)
    (blank : 0 < Slot.blanks slots)
    (behaviour : Behaviour σ ι α) :
    behaviour.SearchesBriefly slots (Slot.residents slots + Slot.graves slots + 1) := by
  intro purpose item hash tally thread terrain
  have recorded := (behaviour.terrain_charted item slots thread).recorded_leads small purpose
    hash tally (.refl thread)
  refine (Terrain.leads_of_recorded recorded).mono ?_ ?_
  · rintro outcome ⟨_, state⟩
      ⟨_, run, rehash, steps, sighted, rfl, rfl, rfl, _⟩
    obtain ⟨last, stopped⟩ := exists_stop prime blank sighted
    obtain ⟨within, stops, earlier⟩ := stop?_eq_some_iff.mp stopped
    have taken : examined slots.size steps = last + 1 := by
      unfold examined
      rw [stopped]
    have seen : ∀ step < last + 1, behaviour.Sees item
        (slotAt slots (position slots.size hash rehash step)) (steps step) :=
      fun step before => sighted.seen step (Nat.lt_of_lt_of_eq before taken.symm)
    have going : ∀ step, step + 1 < examined slots.size steps →
        behaviour.Sees item (slotAt slots (position slots.size hash rehash step))
          (steps step) ∧ (steps step).stops = false :=
      fun step before => ⟨seen step (by omega), earlier step (by omega)⟩
    have brief := brief_along prime examined_le going (min 1 (examined slots.size steps - 1))
    obtain ⟨ends, place⟩ := ends_of_stop stopped (seen last (Nat.lt_succ_self last)) purpose
    refine ⟨_, _, run, brief, brief.length_le, ?_, ?_, ends, place⟩
    · rw [Trail.along_visited, List.length_reverse, List.length_map, List.length_range]
    · change (Trail.along _ (examined slots.size steps) _).visited.head? = _
      rw [taken, Trail.along_visited, List.range_succ, List.map_append, List.reverse_append]
      rfl
  · rintro abort ⟨_, state⟩
      ⟨_, run, rehash, steps, count, misses, asks, ⟨positive, bounded, _⟩, going, _, fewer,
        rfl, rfl, _⟩
    have brief := brief_along prime bounded going asks
    refine ⟨_, run, brief, brief.length_le, ?_⟩
    rw [Trail.along_visited, List.length_reverse, List.length_map, List.length_range,
      fewer small]

end Behaviour

/-! ## Prime capacities -/

/-- Every table that is met in the course of requests is on the ladder. -/
theorem Behaviour.Encounters.onLadder
    {table : Table α}
    (encounters : behaviour.Encounters table) :
    table.OnLadder := by
  induction encounters with
  | reachable reachable => exact reachable.onLadder
  | @searched table purpose item thread journal after encounters run onLadder =>
      have leads : Leads (Table.locate behaviour purpose item) ⟨table, thread, journal⟩
          (fun _ after => after.table.OnLadder) (fun _ after => after.table.OnLadder) := by
        refine (Table.locate_leads encounters.sound.small purpose item).mono ?_ ?_
        · exact fun _ _ ended => Table.OnLadder.ascends onLadder ended.1.level
        · exact fun _ _ cut => Table.OnLadder.ascends onLadder cut.2.level
      exact leads.of_passes run
  | @reorganized table grow thread journal after encounters run onLadder =>
      have sound : (⟨table, thread, journal⟩ : Session σ α).table.Sound := encounters.sound
      have leads : Leads (Table.reorganize behaviour grow) ⟨table, thread, journal⟩
          (fun _ after => after.table.OnLadder) (fun _ after => after.table.OnLadder) := by
        refine (Table.reorganize_leads sound grow).mono ?_ ?_
        · rintro _ after reorganized
          rcases reorganized.climbs with level | ⟨climbed, _⟩
          · exact Table.OnLadder.ascends onLadder level
          · exact Table.OnLadder.ascends onLadder climbed
        · exact fun _ _ cut => Table.OnLadder.ascends onLadder cut.2.level
      exact leads.of_passes run

namespace Table

variable {table : Table α}

/-- A table that began at a prime capacity is at one. -/
theorem OnLadder.prime
    (onLadder : table.OnLadder)
    (prime : table.settings.initialCapacity.Prime) :
    table.capacity.Prime := by
  obtain ⟨times, climbs⟩ := onLadder
  rcases Ladder.climb?_eq_some climbs with same | ⟨member, _⟩
  · rwa [same]
  · exact Ladder.prime_of_mem_rungs member

/-- So are the capacities that it aims at. -/
theorem prime_of_target?
    {reclaim : Bool} {capacity : Nat}
    (aimed : table.target? reclaim = some capacity)
    (prime : table.capacity.Prime) :
    capacity.Prime := by
  rcases target?_cases aimed with ⟨_, rfl⟩ | ⟨_, next, _⟩
  · exact prime
  · exact Ladder.prime_of_mem_rungs (Ladder.mem_rungs_of_next? next)

theorem Sound.exists_blank (sound : table.Sound) : 0 < Slot.blanks table.slots :=
  Nat.lt_of_lt_of_le sound.bounded.positive sound.bounded.blank

end Table

namespace Behaviour

variable {table : Table α} {count : Nat} {relocation : Relocation σ α}

/-- The array that the items are moved to is never filled. -/
theorem Relocates.residents_lt (relocates : behaviour.Relocates table count relocation) :
    Slot.residents relocation.target = relocation.moves.length ∧
      Slot.graves relocation.target = 0 ∧
      relocation.moves.length < relocation.target.size := by
  obtain ⟨sound, grow, capacity, start, aimed, _, underway⟩ := relocates.underway
  obtain ⟨large, _, roomy⟩ := sound.room_of_target? aimed
  have below := Ladder.threshold_lt large
  have whole := underway.whole.length_eq
  rw [List.length_append] at whole
  change _ = table.items.length at whole
  rw [← Slot.length_contents, underway.moved, underway.refills.size]
  exact ⟨rfl, Slot.graves_eq_zero underway.refills.noTombstone, by omega⟩

/-- The searches for the new places of items are brief at a prime capacity. -/
theorem Relocates.searchesBriefly
    (relocates : behaviour.Relocates table count relocation)
    (prime : table.capacity.Prime) :
    behaviour.SearchesBriefly relocation.target (relocation.moves.length + 1) := by
  obtain ⟨_, grow, capacity, start, aimed, small, underway⟩ := relocates.underway
  obtain ⟨residents, graves, roomy⟩ := relocates.residents_lt
  have census := Slot.census relocation.target
  have prime' : relocation.target.size.Prime := by
    rw [underway.refills.size]
    exact Table.prime_of_target? aimed prime
  have small' : 2 * relocation.target.size ≤ UInt64.size := by
    rwa [underway.refills.size]
  have brief := searchesBriefly_of_prime small' prime' (by omega) behaviour
  rwa [residents, graves, Nat.add_zero] at brief

end Behaviour

/-! ## Insertions that never run out of slots -/

namespace Table

variable {session : Session σ α}

/-- An insertion that does something of its own when the path of the item has neither the
item nor a place for it. -/
def insertOr
    (otherwise : Action σ α (Except Failure (Loan α)))
    (behaviour : Behaviour σ ι α)
    (item : ι) : Action σ α (Except Failure (Loan α)) :=
  Action.entered Except.isOk do
    match ← relieve behaviour with
    | .error failure => pure (.error failure)
    | .ok () =>
      match ← locate behaviour .insert item with
      | .found index => .ok <$> lend index
      | .vacant index => store behaviour item index
      | .missing => otherwise

/-- At a prime capacity, what an insertion does then does not matter. -/
theorem insert_eq_insertOr
    (sound : session.table.Sound)
    (prime : session.table.capacity.Prime)
    (otherwise : Action σ α (Except Failure (Loan α)))
    (item : ι) :
    insert behaviour item session = insertOr otherwise behaviour item session := by
  have sound' : session.joined.table.Sound := sound
  refine Action.entered_congr (bind_congr_of_leads ?_)
  refine (relieve_leads sound').mono ?_ fun _ _ _ => trivial
  rintro (failure | _) mid relieved
  · rfl
  · have sound'' := relieved.preserves.sound sound'
    change (seek behaviour item >>= _) mid = _
    unfold seek
    rw [bind_assoc]
    refine bind_congr_of_leads ((locate_leads sound''.small .insert item).mono ?_
      fun _ _ _ => trivial)
    rintro (index | index | _) after ⟨_, locates⟩
    · rfl
    · rfl
    · exact absurd locates (sound''.not_missing (relieved.prime prime))

/-- A table that has room is searched once. -/
theorem insert_eq_of_roomy
    (sound : session.table.Sound)
    (prime : session.table.capacity.Prime)
    (roomy : session.table.isCrowded = false)
    (item : ι) :
    insert behaviour item session =
      Action.entered Except.isOk (do
        match ← locate behaviour .insert item with
        | .found index => .ok <$> lend index
        | .vacant index => store behaviour item index
        | .missing => pure (.error .tableFull)) session := by
  have calm : relieve behaviour session.joined = .ok (.ok ()) session.joined := by
    have roomy' : session.joined.table.isCrowded = false := roomy
    simp [relieve, Action.inspect, bind, EStateM.bind, roomy', pure, EStateM.pure]
  rw [insert_eq_insertOr sound prime (pure (.error .tableFull))]
  refine Action.entered_congr ?_
  change EStateM.bind _ _ _ = _
  unfold EStateM.bind
  rw [calm]

end Table

/-! ## Requests that search once -/

/-- The tally of the table in use. -/
def Session.tally (session : Session σ α) : Tally :=
  session.table.tally

namespace Table

variable {before after : Session σ α} {item : ι}

theorem keeps_tally_storedAt (index : Nat) :
    Keeps Session.tally (storedAt index : Action σ α α) := by
  refine .of_leads fun session => ?_
  unfold storedAt
  simp only [leads_bind, Action.leads_inspect]
  split
  · rfl
  · split <;> rfl

theorem keeps_tally_lend (index : Nat) :
    Keeps Session.tally (lend index : Action σ α (Loan α)) :=
  (keeps_tally_storedAt index).bind fun _ => .of_leads fun _ => rfl

theorem keeps_tally_call (foreign : Call σ β) :
    Keeps Session.tally (Action.call foreign : Action σ α β) := by
  refine .of_leads fun session => ?_
  rw [Action.leads_call]
  exact (leads_self foreign session.thread).mono (fun _ _ _ => rfl) fun _ _ _ => rfl

theorem keeps_tally_bury (index : Nat) :
    Keeps Session.tally (bury index : Action σ α Unit) :=
  .of_leads fun _ => rfl

theorem keeps_tally_trace (event : Table α → Event) :
    Keeps Session.tally (Action.trace event : Action σ α Unit) := by
  refine .of_leads fun session => ?_
  rw [Action.leads_trace, Session.tally, Session.traced_table]
  rfl

theorem keeps_tally_occupy (index : Nat) (copy : α) :
    Keeps Session.tally (occupy index copy : Action σ α Unit) := by
  refine .of_leads fun session => ?_
  unfold occupy
  simp only [leads_bind, Action.leads_inspect]
  split
  · rfl
  · split
    · split
      · rfl
      · simp only [leads_bind, Action.leads_alter, Action.leads_trace, Session.tally,
          Session.traced_table]
    · simp only [leads_bind, Action.leads_alter, Action.leads_trace, Session.tally,
        Session.traced_table]

theorem keeps_tally_store (behaviour : Behaviour σ ι α) (item : ι) (index : Nat) :
    Keeps Session.tally (store behaviour item index) := by
  refine (keeps_tally_call _).bind fun copy? => ?_
  cases copy? with
  | none => exact .of_leads fun _ => rfl
  | some copy => exact (keeps_tally_occupy index copy).bind fun _ => (keeps_tally_lend index).map _

/-- A brief search is counted by the table. -/
theorem locate_leads_tally
    {limit : Nat}
    (brief : behaviour.SearchesBriefly before.table.slots limit)
    (purpose : Purpose)
    (item : ι) :
    Leads (locate behaviour purpose item) before
      (fun _ after => ∃ count ≤ limit, after.tally = before.tally.add count (count - 1))
      (fun _ after => ∃ count ≤ limit, after.tally = before.tally.add count (count - 1)) := by
  unfold locate
  simp only [leads_bind, Action.leads_call]
  refine (leads_self _ before.thread).mono (fun hash thread _ => ?_) fun _ _ _ => ?_
  · rw [Action.leads_searching]
    refine (brief purpose item hash before.table.tally thread).mono ?_ ?_
    · rintro outcome after ⟨trail, _, _, _, bounded, counted, _⟩
      exact ⟨_, bounded, counted⟩
    · rintro abort after ⟨trail, _, _, bounded, counted⟩
      exact ⟨_, bounded, counted⟩
  · exact ⟨0, Nat.zero_le limit, (Tally.add_zero _).symm⟩

/-- So it is by an operation that searches once. -/
theorem tally_of_passes
    {keeps : β → Bool} {purpose : Purpose} {next : Outcome → Action σ α β} {limit : Nat}
    (brief : behaviour.SearchesBriefly before.table.slots limit)
    (steady : ∀ outcome, Keeps Session.tally (next outcome))
    (run : Passes (Action.entered keeps (locate behaviour purpose item >>= next)) before after) :
    ∃ count ≤ limit, after.tally = before.tally.add count (count - 1) := by
  have leads : Leads (Action.entered keeps (locate behaviour purpose item >>= next)) before
      (fun _ after => ∃ count ≤ limit, after.tally = before.tally.add count (count - 1))
      (fun _ after => ∃ count ≤ limit, after.tally = before.tally.add count (count - 1)) := by
    by_cases busy : before.table.identity ∈ before.thread.roster
    · rw [Action.leads_entered_of_mem keeps _ busy]
      exact ⟨0, Nat.zero_le limit, (Tally.add_zero _).symm⟩
    · have brief' : behaviour.SearchesBriefly before.joined.table.slots limit := brief
      rw [Action.leads_entered keeps _ busy, leads_bind]
      refine (locate_leads_tally brief' purpose item).mono ?_ fun _ _ cut => cut
      rintro outcome mid ⟨count, bounded, counted⟩
      refine ((steady outcome).leads mid).mono ?_ ?_
      · intro value after same
        refine ⟨count, bounded, Eq.trans ?_ (same.trans counted)⟩
        split <;> rfl
      · intro abort after same
        exact ⟨count, bounded, same.trans counted⟩
  exact leads.of_passes run

/-- The requests that search a table once: those that look an item up, and an insertion
that finds room. -/
inductive Glances (behaviour : Behaviour σ ι α) (before after : Session σ α) : Prop
  | find (item : ι)
      (run : Passes (find? behaviour item) before after)
  | findWith {β : Type} (item : ι) (use : α → Call σ β)
      (run : Passes (findWith behaviour item use) before after)
  | contains (item : ι)
      (run : Passes (contains behaviour item) before after)
  | remove (item : ι)
      (run : Passes (remove behaviour item) before after)
  | insert (item : ι)
      (roomy : before.table.isCrowded = false)
      (run : Passes (insert behaviour item) before after)

theorem Glances.tally
    (glances : Glances behaviour before after)
    (sound : before.table.Sound)
    (prime : before.table.capacity.Prime) :
    ∃ count ≤ before.table.entries + 1,
      after.tally = before.tally.add count (count - 1) := by
  have brief : behaviour.SearchesBriefly before.table.slots (before.table.entries + 1) := by
    rw [sound.isCounted.entries]
    exact Behaviour.searchesBriefly_of_prime sound.small prime sound.exists_blank behaviour
  have used : ∀ {β : Type} (item : ι) (use : α → Call σ β),
      Passes (Table.findWith behaviour item use) before after →
        ∃ count ≤ before.table.entries + 1,
          after.tally = before.tally.add count (count - 1) := by
    intro β item use run
    refine tally_of_passes brief (fun outcome => ?_) run
    cases outcome with
    | found index =>
        exact (keeps_tally_storedAt index).bind fun _ => (keeps_tally_call _).map _
    | vacant index => exact .of_pure _ _
    | missing => exact .of_pure _ _
  cases glances with
  | find item run =>
      refine tally_of_passes brief (fun outcome => ?_) run
      cases outcome with
      | found index => exact (keeps_tally_lend index).map _
      | vacant index => exact .of_pure _ _
      | missing => exact .of_pure _ _
  | findWith item use run => exact used item use run
  | contains item run => exact used item (fun _ => pure ()) run.of_map
  | remove item run =>
      refine tally_of_passes brief (fun outcome => ?_) run
      cases outcome with
      | found index =>
          exact (keeps_tally_storedAt index).bind fun _ => (keeps_tally_bury index).bind fun _ =>
            (keeps_tally_trace _).bind fun _ => (keeps_tally_call _).bind fun _ => .of_pure _ _
      | vacant index => exact .of_pure _ _
      | missing => exact .of_pure _ _
  | insert item roomy run =>
      unfold Passes at run
      rw [insert_eq_of_roomy sound prime roomy] at run
      refine tally_of_passes brief (fun outcome => ?_) run
      cases outcome with
      | found index => exact (keeps_tally_lend index).map _
      | vacant index => exact keeps_tally_store behaviour item index
      | missing => exact .of_pure _ _

end Table

/-- Every search of a table that began at a prime capacity is brief, whatever foreign code
answers: it looks at different slots, at most one more than those in use, of which none
but the last one is empty, and it ends at an empty slot or at an equal item.  So are the
searches for the new places of items in a reorganization.  An insertion never comes to
the point where its path is exhausted, so it does not matter what it would do there.  A
request that searches once counts no more slots than that. -/
theorem searches_stay_brief
    {table : Table α}
    (encounters : behaviour.Encounters table)
    (prime : table.settings.initialCapacity.Prime) :
    behaviour.SearchesBriefly table.slots (table.entries + 1) ∧
    (∀ count relocation, behaviour.Relocates table count relocation →
      behaviour.SearchesBriefly relocation.target (relocation.moves.length + 1)) ∧
    (∀ (otherwise : Action σ α (Except Failure (Loan α))) (item : ι) (thread : Thread σ)
      (journal : List Event),
      Table.insert behaviour item ⟨table, thread, journal⟩ =
        Table.insertOr otherwise behaviour item ⟨table, thread, journal⟩) ∧
    (∀ (thread : Thread σ) (journal : List Event) (after : Session σ α),
      Table.Glances behaviour ⟨table, thread, journal⟩ after →
        ∃ count ≤ table.entries + 1,
          after.table.tally = table.tally.add count (count - 1)) := by
  have sound := encounters.sound
  have prime' := encounters.onLadder.prime prime
  refine ⟨?_, ?_, ?_, ?_⟩
  · rw [sound.isCounted.entries]
    exact Behaviour.searchesBriefly_of_prime sound.small prime' sound.exists_blank behaviour
  · exact fun _ _ relocates => relocates.searchesBriefly prime'
  · exact fun otherwise item thread journal =>
      Table.insert_eq_insertOr sound prime' otherwise item
  · exact fun thread journal after glances => glances.tally sound prime'

/-- In a table of eleven slots that fickle foreign code has worn out, a search passes four
slots in use and ends at an empty one. -/
theorem search_of_worn_stays_brief :
    ∃ (table : Table Nat) (outcome : Outcome) (tally : Tally) (trail : Trail)
      (thread : Thread Nat),
      Behaviour.fickle.Encounters table ∧
      table.settings.initialCapacity.Prime ∧ table.entries = 7 ∧ table.tombstones = 3 ∧
      (Table.terrain Behaviour.fickle 12 table.slots).recorded.search .insert 0
        ({}, {}, { host := 0 }) = .ok outcome (tally, trail, thread) ∧
      outcome = .vacant 0 ∧ trail.visited = [4, 3, 2, 1, 0] ∧
      trail.Brief table.slots ∧ trail.visited.length ≤ table.entries + 1 ∧
      Behaviour.fickle.EndsAt table.slots 12 outcome 4 := by
  obtain ⟨table, encounters, tested⟩ : ∃ table : Table Nat,
      Behaviour.fickle.Encounters table ∧
      (table.settings.initialCapacity == 11 && (table.entries == 7 && table.tombstones == 3) &&
        meets (fun outcome after => outcome = .vacant 0 && after.2.1.visited = [4, 3, 2, 1, 0])
          ((Table.terrain Behaviour.fickle 12 table.slots).recorded.search .insert 0
            ({}, {}, { host := 0 }))) = true :=
    ⟨(Request.performEach Behaviour.fickle Behaviour.wearing
        ⟨{ identity := 0, settings := { initialCapacity := 11 }, slots := Slot.row Nat 11 },
          { host := 0 }, []⟩).2.table,
      .reachable (Behaviour.Reachable.performEach
        (.created { initialCapacity := 11 } 0 1 rfl) Behaviour.wearing),
      by decide +kernel⟩
  simp only [Bool.and_eq_true, beq_iff_eq] at tested
  obtain ⟨⟨initial, entries, tombstones⟩, searched⟩ := tested
  obtain ⟨outcome, ⟨tally, trail, thread⟩, run, seen⟩ := exists_of_meets searched
  simp only [Bool.and_eq_true, decide_eq_true_eq] at seen
  obtain ⟨rfl, visited⟩ := seen
  have prime : table.settings.initialCapacity.Prime := by
    rw [initial]
    norm_num
  have leads := (searches_stay_brief encounters prime).1 .insert 12 0 {} { host := 0 }
  -- The search ends as its record does.
  have plain : (Table.terrain Behaviour.fickle 12 table.slots).search .insert 0
      ({}, { host := 0 }) = .ok (.vacant 0) (tally, thread) :=
    ((Table.terrain Behaviour.fickle 12 table.slots).mirrored_recorded.search .insert 0
      ({}, {}, { host := 0 })).trans (by rw [run]; rfl)
  obtain ⟨trail', last, run', brief, bounded, _, head, ends, _⟩ := leads.of_ok plain
  cases run.symm.trans run'
  rw [visited, List.head?_cons, Option.some.injEq] at head
  subst head
  exact ⟨table, .vacant 0, tally, trail, thread, encounters, prime, entries, tombstones, run,
    rfl, visited, brief, bounded, ends⟩

end OpenAddressing
