import Mathlib.Order.Bounds.Basic
import OpenAddressing.Proofs.Probe.Coverage
import OpenAddressing.Proofs.Probe.Walking
import OpenAddressing.Proofs.Rungs

/-!
# Searches among fixed sightings

Where the sightings are fixed, the path tells everything about a search: which slots
it looks at and in which order, what it counts, whether it asks for the secondary hash,
and how it ends.
-/

namespace OpenAddressing
namespace Probe

/-- The last step of a search: the first one that sees an empty slot or an equal item
or, where there is none, the last one of all. -/
def Final (capacity : Nat) (seen : Nat → Sighting) (last : Nat) : Prop :=
  IsLeast {step | step < capacity ∧ (seen step = .empty ∨ seen step = .equal)} last ∨
    (∀ step < capacity, seen step = .tombstone ∨ seen step = .different) ∧
      last + 1 = capacity

/-- What searches make of the sightings up to their last step. -/
structure Told
    (place : Nat → Nat)
    (seen : Nat → Sighting)
    (last : Nat)
    (outcome : Purpose → Outcome) : Prop where
  /-- An equal item is found. -/
  found : seen last = .equal → ∀ purpose, outcome purpose = .found (place last)
  /-- Without an equal item, there is nothing to be found. -/
  missing : seen last ≠ .equal → outcome .lookup = .missing
  /-- A new item goes to the first tombstone on the way. -/
  reused : seen last ≠ .equal →
    ∀ first, IsLeast {step | step ≤ last ∧ seen step = .tombstone} first →
      outcome .insert = .vacant (place first)
  /-- Without a tombstone, it goes to the empty slot that ends the search. -/
  settled : seen last = .empty → (∀ step ≤ last, seen step ≠ .tombstone) →
    outcome .insert = .vacant (place last)
  /-- Without an empty slot, there is no room for it. -/
  full : (∀ step ≤ last, seen step = .different) → outcome .insert = .missing
  /-- A vacancy is the first slot on the path that holds no item. -/
  first : ∀ index, outcome .insert = .vacant index →
    ∃ step ≤ last, place step = index ∧ (seen step = .empty ∨ seen step = .tombstone) ∧
      ∀ earlier < step, seen earlier = .different
  /-- Both kinds of search find the same. -/
  same : ∀ index, outcome .insert = .found index ↔ outcome .lookup = .found index

variable {place : Nat → Nat} {capacity last : Nat} {seen : Nat → Sighting}

theorem stop?_eq_some_iff_isLeast :
    stop? capacity seen = some last ↔
      IsLeast {step | step < capacity ∧ (seen step = .empty ∨ seen step = .equal)} last := by
  rw [stop?_eq_some_iff]
  constructor
  · rintro ⟨within, stops, earlier⟩
    refine ⟨⟨within, Sighting.stops_iff.mp stops⟩, fun step ⟨_, ends⟩ => ?_⟩
    by_contra before
    have goes := earlier step (Nat.lt_of_not_le before)
    rw [Sighting.stops_iff.mpr ends] at goes
    cases goes
  · rintro ⟨⟨within, stops⟩, least⟩
    refine ⟨within, Sighting.stops_iff.mpr stops, fun step before => ?_⟩
    by_contra ends
    rw [Bool.not_eq_false, Sighting.stops_iff] at ends
    exact Nat.not_le_of_lt before (least ⟨before.trans within, ends⟩)

/-- The steps of a search are those up to its last one. -/
theorem final_iff : Final capacity seen last ↔ last + 1 = examined capacity seen := by
  unfold Final examined
  rw [← stop?_eq_some_iff_isLeast]
  cases stopped : stop? capacity seen with
  | some stop =>
      obtain ⟨within, stops, _⟩ := stop?_eq_some_iff.mp stopped
      simp only [Option.some.injEq, Nat.add_right_cancel_iff]
      refine ⟨?_, fun same => Or.inl same.symm⟩
      rintro (same | ⟨going, -⟩)
      · exact same.symm
      · rw [Sighting.not_stops_iff.mpr (going stop within)] at stops
        cases stops
  | none =>
      have going := stop?_eq_none_iff.mp stopped
      simp only [reduceCtorEq, false_or, and_iff_right_iff_imp]
      exact fun _ step within => Sighting.not_stops_iff.mp (going step within)

/-- A search of slots has a last step. -/
theorem exists_final (positive : 0 < capacity) (seen : Nat → Sighting) :
    ∃ last, Final capacity seen last := by
  refine ⟨examined capacity seen - 1, final_iff.mpr (Nat.sub_add_cancel ?_)⟩
  unfold examined
  split
  · exact Nat.succ_pos _
  · exact positive

namespace Final

/-- A search that stops does so at its last step. -/
theorem stop?_eq (final : Final capacity seen last) :
    stop? capacity seen = some last ∨ stop? capacity seen = none ∧ last + 1 = capacity := by
  have steps := final_iff.mp final
  unfold examined at steps
  cases stopped : stop? capacity seen with
  | some stop =>
      rw [stopped, Nat.add_right_cancel_iff] at steps
      exact Or.inl (congrArg some steps.symm)
  | none =>
      rw [stopped] at steps
      exact Or.inr ⟨rfl, steps⟩

/-- A step before the last one does not end the search. -/
theorem going (final : Final capacity seen last) {step : Nat} (before : step < last) :
    (seen step).stops = false := by
  rcases final.stop?_eq with stopped | ⟨stopped, rfl⟩
  · exact (stop?_eq_some_iff.mp stopped).2.2 step before
  · exact stop?_eq_none_iff.mp stopped step (by omega)

/-- The first tombstone on the way is the one that is remembered. -/
theorem verdict_eq_vacant
    (final : Final capacity seen last)
    (notEqual : seen last ≠ .equal)
    {first : Nat}
    (least : IsLeast {step | step ≤ last ∧ seen step = .tombstone} first) :
    verdict .insert place capacity seen = .vacant (place first) := by
  obtain ⟨⟨passed, tombstone⟩, earliest⟩ := least
  have earlier : ∀ step < first, seen step ≠ .tombstone := fun step before sight =>
    Nat.not_le_of_lt before (earliest ⟨by omega, sight⟩)
  rcases final.stop?_eq with stopped | ⟨stopped, rfl⟩
  · have stops := (stop?_eq_some_iff.mp stopped).2.1
    have notLast : first ≠ last := by
      rintro rfl
      rw [tombstone] at stops
      cases stops
    have remembered : reusable? last seen = some first :=
      reusable?_eq_some_iff.mpr ⟨by omega, tombstone, earlier⟩
    simp [verdict, stopped, notEqual, remembered]
  · have remembered : reusable? (last + 1) seen = some first :=
      reusable?_eq_some_iff.mpr ⟨by omega, tombstone, earlier⟩
    simp [verdict, stopped, remembered]

/-- The verdict is what searches make of the sightings. -/
theorem told
    (final : Final capacity seen last)
    (place : Nat → Nat) :
    Told place seen last fun purpose => verdict purpose place capacity seen where
  found := by
    intro equal purpose
    have within : last < capacity := by
      rw [Nat.lt_iff_add_one_le, final_iff.mp final]
      exact examined_le
    exact verdict_eq_found within equal fun step before => final.going before
  missing := by
    intro notEqual
    rcases final.stop?_eq with stopped | ⟨stopped, _⟩ <;> simp [verdict, stopped, notEqual]
  reused := fun notEqual _ least => final.verdict_eq_vacant notEqual least
  settled := by
    intro empty fresh
    rcases final.stop?_eq with stopped | ⟨stopped, rfl⟩
    · have remembered : reusable? last seen = none :=
        reusable?_eq_none_iff.mpr fun step before => fresh step before.le
      simp [verdict, stopped, empty, remembered]
    · have goes := stop?_eq_none_iff.mp stopped last (Nat.lt_succ_self last)
      rw [empty] at goes
      cases goes
  full := by
    intro different
    rcases final.stop?_eq with stopped | ⟨stopped, rfl⟩
    · have stops := (stop?_eq_some_iff.mp stopped).2.1
      rw [different last le_rfl] at stops
      cases stops
    · have remembered : reusable? (last + 1) seen = none :=
        reusable?_eq_none_iff.mpr fun step within => by
          simp [different step (Nat.lt_succ_iff.mp within)]
      simp [verdict, stopped, remembered]
  first := by
    intro index vacant
    obtain ⟨_, step, taken, rfl, free, earlier⟩ := first_of_vacant vacant
    rw [← final_iff.mp final] at taken
    exact ⟨step, Nat.lt_succ_iff.mp taken, rfl, free, earlier⟩
  same := by
    intro index
    rcases final.stop?_eq with stopped | ⟨stopped, _⟩
    · by_cases equal : seen last = .equal <;> simp [verdict, stopped, equal]
    · cases remembered : reusable? capacity seen <;> simp [verdict, stopped, remembered]

end Final

/-! ## Surveys of fixed sightings -/

namespace Trail

variable {sightings : Array Sighting} {hash rehash : UInt64} {purpose : Purpose}
variable {tally : Tally}

/-- What a search among fixed sightings sees at the steps of its path.  The slots of a
path are slots of the array. -/
def sights (sightings : Array Sighting) (hash rehash : UInt64) (step : Nat) : Sighting :=
  sightings.getD (position sightings.size hash rehash step) .empty

@[simp] theorem terrain_capacity (sightings : Array Sighting) (rehash : UInt64) :
    (terrain sightings rehash).capacity = sightings.size := rfl

/-- Fixed sightings are seen as they are, and the trail is recorded. -/
theorem terrain_watched (sightings : Array Sighting) (rehash : UInt64) :
    (terrain sightings rehash).Watched (fun trail after => after = trail)
      (fun index sighting => sighting = sightings.getD index .empty)
      (· = rehash)
      (fun abort => abort = .fault .positionOverflow ∧
        UInt64.size < 2 * sightings.size) where
  visit := by
    rintro index within trail _ rfl
    rw [terrain_capacity] at within
    simp [terrain, Leads, visit, Array.getD, within]
  rehash := by
    rintro trail _ rfl
    exact ⟨rfl, rfl⟩
  overflow := fun large => ⟨rfl, large⟩

/-- A search among fixed sightings comes to the verdict on the sightings along its
path, unless the array is too large for address arithmetic. -/
theorem search_leads
    (sightings : Array Sighting)
    (purpose : Purpose)
    (hash rehash : UInt64)
    (tally : Tally) :
    Leads ((terrain sightings rehash).search purpose hash) (tally, {})
      (fun outcome after =>
        outcome = verdict purpose (position sightings.size hash rehash) sightings.size
          (sights sightings hash rehash) ∧
        after =
          (tally.add (examined sightings.size (sights sightings hash rehash))
            (examined sightings.size (sights sightings hash rehash) - 1),
          along (position sightings.size hash rehash)
            (examined sightings.size (sights sightings hash rehash))
            (min 1 (examined sightings.size (sights sightings hash rehash) - 1))))
      (fun abort _ => abort = .fault .positionOverflow ∧
        UInt64.size < 2 * sightings.size) := by
  refine ((terrain_watched sightings rehash).search_leads purpose hash tally rfl).mono ?_ ?_
  · rintro outcome ⟨after, trail⟩ ⟨rehash', steps, sighted, rfl, rfl, rfl⟩
    rw [terrain_capacity] at sighted ⊢
    -- A secondary hash that was not asked for does not show.
    have places : ∀ step < examined sightings.size steps,
        position sightings.size hash rehash' step = position sightings.size hash rehash step := by
      intro step taken
      rcases sighted.told with rfl | single
      · rfl
      · have start : step = 0 := by omega
        rw [start, position_zero, position_zero]
    have same : ∀ step < examined sightings.size steps,
        steps step = sights sightings hash rehash step := by
      intro step taken
      rw [sighted.seen step taken, places step taken, sights]
    have taken := examined_congr same
    refine ⟨?_, ?_⟩
    · rw [← verdict_congr same]
      exact verdict_place_congr places
    · rw [← taken, along_congr places]
  · rintro abort after ⟨_, _, _, _, _, _, _, cut, _⟩
    exact cut

/-- The path of a search among fixed sightings explains it: it looks at the slots of the
path in order up to the last step, counts them and the strides between them, asks for
the secondary hash only if there is more than one, and makes of the sightings what
there is to be made of them.  Only an array with more slots than can be addressed may take
it past the machine word instead. -/
theorem search_follows_path
    (sightings : Array Sighting)
    (positive : 0 < sightings.size)
    (hash rehash : UInt64)
    (tally : Tally) :
    ∃ last outcome,
      Final sightings.size (sights sightings hash rehash) last ∧
      Told (position sightings.size hash rehash) (sights sightings hash rehash) last outcome ∧
      ∀ purpose,
        (terrain sightings rehash).search purpose hash (tally, {}) =
            .ok (outcome purpose)
              (tally.add (last + 1) last,
                along (position sightings.size hash rehash) (last + 1)
                  (if 0 < last then 1 else 0)) ∨
          UInt64.size < 2 * sightings.size ∧
            ∃ after, (terrain sightings rehash).search purpose hash (tally, {}) =
              .error (.fault .positionOverflow) after := by
  obtain ⟨last, final⟩ := exists_final positive (sights sightings hash rehash)
  refine ⟨last, _, final, final.told _, fun purpose => ?_⟩
  have leads := search_leads sightings purpose hash rehash tally
  rw [← final_iff.mp final, Nat.add_sub_cancel] at leads
  have asked : min 1 last = if 0 < last then 1 else 0 := by
    split <;> omega
  cases run : (terrain sightings rehash).search purpose hash (tally, {}) with
  | ok outcome after =>
      obtain ⟨rfl, rfl⟩ := leads.of_ok run
      rw [asked]
      exact Or.inl rfl
  | error abort after =>
      obtain ⟨rfl, large⟩ := leads.of_error run
      exact Or.inr ⟨large, after, rfl⟩

/-- The path looks at a different item, a tombstone and an empty slot.  An insertion
takes the tombstone, and a lookup is in vain. -/
theorem search_follows_path_past_tombstone :
    0 < #[Sighting.empty, .different, .tombstone, .empty].size ∧
      ∃ outcome : Purpose → Outcome,
        Final 4 (sights #[.empty, .different, .tombstone, .empty] 5 9) 2 ∧
        Told (position 4 5 9) (sights #[.empty, .different, .tombstone, .empty] 5 9)
          2 outcome ∧
        outcome .insert = .vacant 2 ∧ outcome .lookup = .missing ∧
        ∀ purpose,
          (terrain #[.empty, .different, .tombstone, .empty] 9).search purpose 5 ({}, {}) =
            .ok (outcome purpose)
              ({ probes := 3, misses := 2 }, { visited := [3, 2, 1], rehashed := 1 }) := by
  have positive : 0 < #[Sighting.empty, .different, .tombstone, .empty].size := by decide
  have addressable : ¬ UInt64.size < 2 * 4 := by decide
  obtain ⟨last, outcome, final, told, searches⟩ :=
    search_follows_path #[.empty, .different, .tombstone, .empty] positive 5 9 {}
  obtain rfl : last = 2 := Nat.succ.inj ((final_iff.mp final).trans (by decide))
  have ends : sights #[.empty, .different, .tombstone, .empty] 5 9 2 ≠ .equal := by decide
  have passed : IsLeast {step | step ≤ 2 ∧
      sights #[.empty, .different, .tombstone, .empty] 5 9 step = .tombstone} 1 := by
    refine ⟨⟨by decide, by decide⟩, fun step ⟨_, seen⟩ => Nat.pos_of_ne_zero ?_⟩
    rintro rfl
    exact absurd seen (by decide)
  refine ⟨positive, outcome, final, told, told.reused ends 1 passed, told.missing ends, ?_⟩
  intro purpose
  exact (searches purpose).resolve_right fun ⟨large, _⟩ => addressable large

example : survey #[.empty, .different, .tombstone, .equal] .insert 5 9 =
    .ok (.found 3, { probes := 3, misses := 2 }, { visited := [1, 2, 3], rehashed := 1 }) := by
  rfl

/-! ## Exhaustive searches -/

/-- The slots that a search has looked at are those of its path. -/
theorem visited_of_search
    {outcome : Outcome} {after : Tally × Trail}
    (run : (terrain sightings rehash).search purpose hash (tally, {}) = .ok outcome after) :
    after.2.visited =
      ((List.range (examined sightings.size (sights sightings hash rehash))).map
        (position sightings.size hash rehash)).reverse := by
  obtain ⟨_, rfl⟩ := (search_leads sightings purpose hash rehash tally).of_ok run
  rfl

/-- At a prime capacity, a search that has looked at as many slots as there are has
looked at all of them. -/
theorem perm_visited
    (prime : sightings.size.Prime)
    {outcome : Outcome} {after : Tally × Trail}
    (run : (terrain sightings rehash).search purpose hash (tally, {}) = .ok outcome after)
    (exhaustive : after.2.visited.length = sightings.size) :
    after.2.visited.Perm (List.range sightings.size) := by
  have visited := visited_of_search run
  rw [visited, List.length_reverse, List.length_map, List.length_range] at exhaustive
  rw [visited, exhaustive]
  exact (List.reverse_perm _).trans (perm_positions prime hash rehash)

/-- At a prime capacity, there is no room for a new item only if every slot holds
another one. -/
theorem different_of_search
    (prime : sightings.size.Prime)
    {after : Tally × Trail}
    (run : (terrain sightings rehash).search .insert hash (tally, {}) = .ok .missing after) :
    ∀ sighting ∈ sightings, sighting = .different := by
  intro sighting member
  obtain ⟨missing, _⟩ := (search_leads sightings .insert hash rehash tally).of_ok run
  obtain ⟨index, within, rfl⟩ := Array.mem_iff_getElem.mp member
  obtain ⟨step, early, reaches⟩ :=
    exists_position_eq hash (coprime_stride_of_prime prime rehash) within
  have different := (different_of_missing missing.symm).2 step early
  rwa [sights, reaches, Array.getD_eq_getD_getElem?, Array.getElem?_eq_getElem within,
    Option.getD_some] at different

/-- A path comes once by every slot that leaves the same remainder as the hash, divided
by the common divisor of the capacity and the stride, and then begins anew.  At a prime
capacity, and every rung of the ladder is one, an exhaustive search looks at all slots,
and finds no room only if every slot holds another item. -/
theorem paths_cover_residues
    {capacity : Nat}
    (positive : 0 < capacity)
    (hash rehash : UInt64) :
    (1 ≤ stride capacity rehash ∧ stride capacity rehash ≤ max 1 (capacity / 8)) ∧
    Set.InjOn (position capacity hash rehash)
      {step | step < capacity / capacity.gcd (stride capacity rehash)} ∧
    position capacity hash rehash ''
        {step | step < capacity / capacity.gcd (stride capacity rehash)} =
      {index | index < capacity ∧
        index ≡ hash.toNat [MOD capacity.gcd (stride capacity rehash)]} ∧
    (∀ step,
      position capacity hash rehash
          (step + capacity / capacity.gcd (stride capacity rehash)) =
        position capacity hash rehash step) ∧
    (∀ rung ∈ Ladder.rungs, rung.Prime) ∧
    (capacity.Prime →
      ((List.range capacity).map (position capacity hash rehash)).Perm
        (List.range capacity) ∧
      ∀ sightings purpose tally outcome after, sightings.size = capacity →
        (terrain sightings rehash).search purpose hash (tally, {}) = .ok outcome after →
          (after.2.visited.length = capacity →
            after.2.visited.Perm (List.range capacity)) ∧
          (purpose = .insert → outcome = .missing →
            ∀ sighting ∈ sightings, sighting = .different)) := by
  have covers : position capacity hash rehash ''
        {step | step < capacity / capacity.gcd (stride capacity rehash)} =
      {index | index < capacity ∧
        index ≡ hash.toNat [MOD capacity.gcd (stride capacity rehash)]} := by
    ext index
    constructor
    · rintro ⟨step, _, rfl⟩
      exact ⟨position_lt positive hash rehash step,
        position_modEq_hash capacity hash rehash step⟩
    · rintro ⟨within, same⟩
      exact exists_position_eq_of_modEq within same
  refine ⟨⟨stride_pos capacity rehash, (stride_le capacity rehash).trans_eq (max_comm _ _)⟩,
    position_injOn positive hash rehash, covers, position_add_period capacity hash rehash,
    fun rung => Ladder.prime_of_mem_rungs, fun prime => ⟨perm_positions prime hash rehash, ?_⟩⟩
  rintro sightings purpose tally outcome after rfl run
  refine ⟨perm_visited prime run, ?_⟩
  rintro rfl rfl
  exact different_of_search prime run

/-- An insertion looks at all of seventeen slots that hold other items. -/
theorem paths_cover_residues_seventeen :
    0 < 17 ∧ Nat.Prime 17 ∧
    ((List.range 17).map (position 17 5 9)).Perm (List.range 17) ∧
    ∃ after,
      (terrain (Array.replicate 17 .different) 9).search .insert 5 ({}, {}) =
        .ok .missing after ∧
      after.2.visited.length = 17 ∧ after.2.visited.Perm (List.range 17) ∧
      ∀ sighting ∈ Array.replicate 17 Sighting.different, sighting = .different := by
  have prime : Nat.Prime 17 := by norm_num
  obtain ⟨outcome, after, run, seen⟩ := exists_of_meets
    (show meets (fun outcome after => outcome = .missing && after.2.visited.length = 17)
      ((terrain (Array.replicate 17 .different) 9).search .insert 5 ({}, {})) = true by
        decide +kernel)
  simp only [Bool.and_eq_true, decide_eq_true_eq] at seen
  obtain ⟨rfl, all⟩ := seen
  obtain ⟨_, _, _, _, _, whenPrime⟩ := paths_cover_residues (show 0 < 17 by decide) 5 9
  obtain ⟨slots, searches⟩ := whenPrime prime
  obtain ⟨exhaustive, different⟩ := searches _ .insert {} .missing after (by decide) run
  exact ⟨by decide, prime, slots, after, run, all, exhaustive all, different rfl rfl⟩

example : (List.range 16).map (position 16 5 1) =
    [5, 7, 9, 11, 13, 15, 1, 3, 5, 7, 9, 11, 13, 15, 1, 3] := by
  decide

end Trail

end Probe
end OpenAddressing
