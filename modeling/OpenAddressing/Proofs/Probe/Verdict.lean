import OpenAddressing.Probe.Search
import OpenAddressing.Proofs.Ending

/-!
# The verdict of a search

A search is known by what it sees at each step of its path.  It ends at the
first step that sees an empty slot or an equal item, and otherwise when it has
taken as many steps as there are slots.  The verdict is read off the sightings
without following the path; the searches of a terrain are then shown to come to
the verdict on what they saw, whatever the foreign code does between the steps.
-/

namespace OpenAddressing

namespace Sighting

/-- A search ends where it sees an empty slot or an equal item. -/
def stops : Sighting → Bool
  | empty => true
  | tombstone => false
  | equal => true
  | different => false

@[simp] theorem stops_empty : empty.stops = true := rfl

@[simp] theorem stops_tombstone : tombstone.stops = false := rfl

@[simp] theorem stops_equal : equal.stops = true := rfl

@[simp] theorem stops_different : different.stops = false := rfl

theorem stops_iff {sighting : Sighting} :
    sighting.stops = true ↔ sighting = .empty ∨ sighting = .equal := by
  cases sighting <;> simp

theorem not_stops_iff {sighting : Sighting} :
    sighting.stops = false ↔ sighting = .tombstone ∨ sighting = .different := by
  cases sighting <;> simp

end Sighting

namespace Probe

/-- The first step that ends a search before it runs out of slots. -/
def stop? (capacity : Nat) (steps : Nat → Sighting) : Option Nat :=
  (List.range capacity).find? fun step => (steps step).stops

/-- The first of a number of steps that sees a tombstone. -/
def reusable? (count : Nat) (steps : Nat → Sighting) : Option Nat :=
  (List.range count).find? fun step => steps step = .tombstone

/-- The number of steps that a search takes. -/
def examined (capacity : Nat) (steps : Nat → Sighting) : Nat :=
  match stop? capacity steps with
  | some last => last + 1
  | none => capacity

/-- The outcome of a search that sees the given sightings at the given places. -/
def verdict
    (purpose : Purpose)
    (place : Nat → Nat)
    (capacity : Nat)
    (steps : Nat → Sighting) : Outcome :=
  match stop? capacity steps, purpose with
  | some last, .lookup =>
    if steps last = .equal then .found (place last) else .missing
  | some last, .insert =>
    if steps last = .equal then .found (place last)
    else .vacant (place ((reusable? last steps).getD last))
  | none, .lookup => .missing
  | none, .insert =>
    match reusable? capacity steps with
    | some first => .vacant (place first)
    | none => .missing

variable {purpose : Purpose} {place : Nat → Nat} {capacity count : Nat}
variable {steps other : Nat → Sighting}

theorem stop?_eq_some_iff {last : Nat} :
    stop? capacity steps = some last ↔
      last < capacity ∧ (steps last).stops = true ∧
        ∀ step < last, (steps step).stops = false := by
  simp only [stop?, List.find?_range_eq_some, List.mem_range, Bool.not_eq_true']
  exact and_left_comm

theorem stop?_eq_none_iff :
    stop? capacity steps = none ↔ ∀ step < capacity, (steps step).stops = false := by
  simp only [stop?, List.find?_range_eq_none, Bool.not_eq_true']

theorem reusable?_eq_some_iff {first : Nat} :
    reusable? count steps = some first ↔
      first < count ∧ steps first = .tombstone ∧
        ∀ step < first, steps step ≠ .tombstone := by
  simp only [reusable?, List.find?_range_eq_some, List.mem_range, Bool.not_eq_true',
    decide_eq_true_eq, decide_eq_false_iff_not]
  exact and_left_comm

theorem reusable?_eq_none_iff :
    reusable? count steps = none ↔ ∀ step < count, steps step ≠ .tombstone := by
  simp only [reusable?, List.find?_range_eq_none, Bool.not_eq_true',
    decide_eq_false_iff_not, ne_eq]

@[simp] theorem reusable?_zero : reusable? 0 steps = none := rfl

/-- A tombstone is remembered only if none was seen before it. -/
theorem reusable?_succ (count : Nat) (steps : Nat → Sighting) :
    reusable? (count + 1) steps =
      (reusable? count steps <|> if steps count = .tombstone then some count else none) := by
  unfold reusable?
  rw [List.range_succ, List.find?_append]
  cases (List.range count).find? fun step => steps step = .tombstone with
  | some first => rfl
  | none =>
      by_cases tombstone : steps count = .tombstone <;>
        simp [tombstone]

theorem reusable?_congr (same : ∀ step < count, steps step = other step) :
    reusable? count steps = reusable? count other := by
  induction count with
  | zero => rfl
  | succ count inductionHypothesis =>
      rw [reusable?_succ, reusable?_succ, same count (Nat.lt_succ_self count),
        inductionHypothesis fun step before => same step (Nat.lt_succ_of_lt before)]

theorem examined_le : examined capacity steps ≤ capacity := by
  unfold examined
  cases stopped : stop? capacity steps with
  | some last => exact (stop?_eq_some_iff.mp stopped).1
  | none => exact Nat.le_refl capacity

theorem examined_pos (positive : 0 < capacity) : 0 < examined capacity steps := by
  unfold examined
  cases stop? capacity steps with
  | some last => exact Nat.succ_pos last
  | none => exact positive

/-- Where a search stops depends on the steps that it takes. -/
theorem stop?_congr (same : ∀ step < examined capacity steps, steps step = other step) :
    stop? capacity steps = stop? capacity other := by
  unfold examined at same
  cases stopped : stop? capacity steps with
  | some last =>
      simp only [stopped] at same
      obtain ⟨within, stops, earlier⟩ := stop?_eq_some_iff.mp stopped
      refine (stop?_eq_some_iff.mpr ⟨within, ?_, fun step before => ?_⟩).symm
      · rw [← same last (Nat.lt_succ_self last)]
        exact stops
      · rw [← same step (Nat.lt_succ_of_lt before)]
        exact earlier step before
  | none =>
      simp only [stopped] at same
      refine (stop?_eq_none_iff.mpr fun step within => ?_).symm
      rw [← same step within]
      exact stop?_eq_none_iff.mp stopped step within

/-- So does the number of steps. -/
theorem examined_congr (same : ∀ step < examined capacity steps, steps step = other step) :
    examined capacity steps = examined capacity other := by
  unfold examined
  rw [← stop?_congr same]

/-- So does the verdict. -/
theorem verdict_congr (same : ∀ step < examined capacity steps, steps step = other step) :
    verdict purpose place capacity steps = verdict purpose place capacity other := by
  unfold verdict
  rw [← stop?_congr same]
  unfold examined at same
  cases stopped : stop? capacity steps with
  | some last =>
      simp only [stopped] at same
      have earlier : reusable? last steps = reusable? last other :=
        reusable?_congr fun step before => same step (Nat.lt_succ_of_lt before)
      cases purpose <;> simp only [same last (Nat.lt_succ_self last), earlier]
  | none =>
      simp only [stopped] at same
      cases purpose <;> simp only [reusable?_congr same]

/-- Places matter as far as steps are taken. -/
theorem verdict_place_congr
    {place' : Nat → Nat}
    (same : ∀ step < examined capacity steps, place step = place' step) :
    verdict purpose place capacity steps = verdict purpose place' capacity steps := by
  unfold verdict
  unfold examined at same
  cases stopped : stop? capacity steps with
  | some last =>
      simp only [stopped] at same
      have kept : place ((reusable? last steps).getD last) =
          place' ((reusable? last steps).getD last) := by
        cases remembered : reusable? last steps with
        | none => exact same last (Nat.lt_succ_self last)
        | some first =>
            exact same first (Nat.lt_succ_of_lt (reusable?_eq_some_iff.mp remembered).1)
      cases purpose <;> simp only [same last (Nat.lt_succ_self last), kept]
  | none =>
      simp only [stopped] at same
      cases purpose with
      | lookup => rfl
      | insert =>
          cases remembered : reusable? capacity steps with
          | none => rfl
          | some first =>
              simp only [same first (reusable?_eq_some_iff.mp remembered).1]

/-! ## What a verdict tells -/

/-- The first equal item that is reached is found. -/
theorem verdict_eq_found
    {last : Nat}
    (within : last < capacity)
    (equal : steps last = .equal)
    (earlier : ∀ step < last, (steps step).stops = false) :
    verdict purpose place capacity steps = .found (place last) := by
  have stopped : stop? capacity steps = some last :=
    stop?_eq_some_iff.mpr ⟨within, by rw [equal]; rfl, earlier⟩
  cases purpose <;> simp [verdict, stopped, equal]

/-- An item is found where an equal one was seen. -/
theorem equal_of_found
    {index : Nat}
    (found : verdict purpose place capacity steps = .found index) :
    ∃ last < examined capacity steps, index = place last ∧ steps last = .equal := by
  unfold verdict at found
  unfold examined
  cases stopped : stop? capacity steps with
  | some last =>
      simp only [stopped] at found
      cases purpose <;> simp only at found <;> split at found
      · exact ⟨last, Nat.lt_succ_self last, (Outcome.found.inj found).symm, ‹_›⟩
      · cases found
      · exact ⟨last, Nat.lt_succ_self last, (Outcome.found.inj found).symm, ‹_›⟩
      · cases found
  | none =>
      simp only [stopped] at found
      cases purpose <;> simp only at found
      · cases found
      · split at found <;> cases found

theorem different_of_not_stops
    {sighting : Sighting}
    (goes : sighting.stops = false)
    (notTombstone : sighting ≠ .tombstone) :
    sighting = .different := by
  cases sighting <;> simp_all

/-- A vacancy is the first step on the path that does not see another item.  It
is only told to a search that wants to insert. -/
theorem first_of_vacant
    {index : Nat}
    (vacant : verdict purpose place capacity steps = .vacant index) :
    purpose = .insert ∧ ∃ step < examined capacity steps,
      index = place step ∧ (steps step = .empty ∨ steps step = .tombstone) ∧
        ∀ earlier < step, steps earlier = .different := by
  unfold verdict at vacant
  unfold examined
  cases stopped : stop? capacity steps with
  | some last =>
      obtain ⟨_, stops, earlier⟩ := stop?_eq_some_iff.mp stopped
      simp only [stopped] at vacant
      cases purpose <;> simp only at vacant <;> split at vacant
      · cases vacant
      · cases vacant
      · cases vacant
      · rename_i notEqual
        refine ⟨rfl, ?_⟩
        cases remembered : reusable? last steps with
        | some first =>
            obtain ⟨before, tombstone, others⟩ := reusable?_eq_some_iff.mp remembered
            simp only [remembered, Option.getD_some] at vacant
            refine ⟨first, Nat.lt_succ_of_lt before, (Outcome.vacant.inj vacant).symm,
              Or.inr tombstone, fun step isEarlier => ?_⟩
            exact different_of_not_stops (earlier step (by omega)) (others step isEarlier)
        | none =>
            simp only [remembered, Option.getD_none] at vacant
            refine ⟨last, Nat.lt_succ_self last, (Outcome.vacant.inj vacant).symm,
              Or.inl ?_, fun step isEarlier => ?_⟩
            · cases seen : steps last <;> simp_all
            · exact different_of_not_stops (earlier step isEarlier)
                (reusable?_eq_none_iff.mp remembered step isEarlier)
  | none =>
      have going := stop?_eq_none_iff.mp stopped
      simp only [stopped] at vacant
      cases purpose <;> simp only at vacant
      · cases vacant
      · split at vacant
        · rename_i first remembered
          obtain ⟨within, tombstone, others⟩ := reusable?_eq_some_iff.mp remembered
          refine ⟨rfl, first, within, (Outcome.vacant.inj vacant).symm, Or.inr tombstone,
            fun step isEarlier => ?_⟩
          exact different_of_not_stops (going step (by omega)) (others step isEarlier)
        · cases vacant

/-- There is no room on a path where every step sees another item. -/
theorem different_of_missing
    (missing : verdict .insert place capacity steps = .missing) :
    examined capacity steps = capacity ∧ ∀ step < capacity, steps step = .different := by
  unfold verdict at missing
  unfold examined
  cases stopped : stop? capacity steps with
  | some last =>
      simp only [stopped] at missing
      split at missing <;> cases missing
  | none =>
      have going := stop?_eq_none_iff.mp stopped
      simp only [stopped] at missing
      split at missing
      · cases missing
      · rename_i remembered
        exact ⟨rfl, fun step within => different_of_not_stops (going step within)
          (reusable?_eq_none_iff.mp remembered step within)⟩

end Probe
end OpenAddressing
