import OpenAddressing.Proofs.Requests

/-!
# The frame of a table

The frame of a table is what only an insertion may change: the number of its slots,
together with its settings, which nothing changes.  Every other request keeps the
frame, whether it returns or is cut short.  The same holds of the flags, apart from a
request to clear them, and of any view of the table that a search and a burial leave
as it is.
-/

namespace OpenAddressing

variable {σ ι α β ν : Type} {behaviour : Behaviour σ ι α}
variable {before after : Session σ α} {item : ι}

namespace Table

/-- The settings and the number of slots of a table. -/
def frame (table : Table α) : Settings × Nat :=
  (table.settings, table.capacity)

/-! ## Lasting views -/

/-- A view of tables that a search and a burial leave as it is. -/
structure Lasting (view : Table α → ν) : Prop where
  /-- The tally of searches is not seen. -/
  tally : ∀ (table : Table α) (tally : Probe.Tally), view { table with tally } = view table
  /-- Burials are not seen. -/
  buried : ∀ (table : Table α) (index : Nat), view (table.buried index) = view table

theorem frame_lasting : Lasting (frame : Table α → Settings × Nat) where
  tally _ _ := rfl
  buried table _ := congrArg (Prod.mk table.settings) Array.size_setIfInBounds

theorem flags_lasting : Lasting (flags : Table α → Flags) where
  tally _ _ := rfl
  buried _ _ := rfl

variable {view : Table α → ν}

theorem Lasting.searched
    (lasting : Lasting view)
    (searched : before.Searched behaviour after) :
    view after.table = view before.table := by
  obtain ⟨tally, thread, rfl, _⟩ := searched
  exact lasting.tally before.table tally

theorem Lasting.used
    {use : α → Call σ β} {value? : Option β}
    (lasting : Lasting view)
    (used : Used behaviour item use before value? after) :
    view after.table = view before.table := by
  cases used with
  | absent lookedUp => exact lasting.searched lookedUp.searched
  | used lookedUp =>
      have same := lasting.searched lookedUp.searched
      exact same

theorem Lasting.usedUntil
    {use : α → Call σ β}
    (lasting : Lasting view)
    (used : UsedUntil behaviour item use before after) :
    view after.table = view before.table := by
  cases used with
  | searching searched => exact lasting.searched searched
  | during lookedUp =>
      have same := lasting.searched lookedUp.searched
      exact same

theorem Lasting.unlinked
    (lasting : Lasting view)
    (session : Session σ α)
    (index : Nat) :
    view (unlinked session index).table = view session.table := by
  unfold Table.unlinked
  rw [Session.traced_table]
  exact lasting.buried session.table index

theorem Lasting.removed
    {item? : Option ι}
    (lasting : Lasting view)
    (removed : Removed behaviour item before item? after) :
    view after.table = view before.table := by
  cases removed with
  | absent lookedUp => exact lasting.searched lookedUp.searched
  | removed lookedUp =>
      exact (lasting.unlinked _ _).trans (lasting.searched lookedUp.searched)

theorem Lasting.removedUntil
    (lasting : Lasting view)
    (removed : RemovedUntil behaviour item before after) :
    view after.table = view before.table := by
  cases removed with
  | searching searched => exact lasting.searched searched
  | releasing lookedUp =>
      exact (lasting.unlinked _ _).trans (lasting.searched lookedUp.searched)

theorem Lasting.retained
    {keep : α → Call σ Bool} {count removed : Nat}
    (lasting : Lasting view)
    (retained : Retained behaviour keep before count removed after) :
    view after.table = view before.table := by
  induction retained with
  | start => rfl
  | bare _ _ inductionHypothesis => exact inductionHypothesis
  | kept _ _ _ inductionHypothesis => exact inductionHypothesis
  | rejected _ _ _ _ inductionHypothesis =>
      exact (lasting.buried _ _).trans inductionHypothesis

theorem Lasting.retainedUntil
    {keep : α → Call σ Bool}
    (lasting : Lasting view)
    (retained : RetainedUntil behaviour keep before after) :
    view after.table = view before.table := by
  cases retained with
  | asking retained =>
      have same := lasting.retained retained
      exact same
  | releasing retained => exact (lasting.buried _ _).trans (lasting.retained retained)

theorem Removed.frame
    {item? : Option ι}
    (removed : Removed behaviour item before item? after) :
    after.table.frame = before.table.frame :=
  frame_lasting.removed removed

end Table

namespace Request

variable {request : Request σ ι α β} {answer : Answer ι α β} {view : Table α → ν}

/-- A request that is no insertion keeps every lasting view, unless it clears flags
that are seen. -/
theorem Performed.view_eq
    (performed : Performed behaviour before request answer after)
    (lasting : Table.Lasting view)
    (other : ∀ item, request ≠ .insert item)
    (clears : request = .clearFlags →
      view { before.table with flags := .none } = view before.table) :
    view after.table = view before.table := by
  cases performed with
  | insert => exact absurd rfl (other _)
  | find lookedUp => exact lasting.searched lookedUp.searched
  | findWith used => exact lasting.used used
  | contains used => exact lasting.used used
  | remove removed => exact lasting.removed removed
  | retain retained => exact lasting.retained retained
  | walk => rfl
  | length => rfl
  | isEmpty => rfl
  | slotCount => rfl
  | statistics => rfl
  | clearFlags => exact clears rfl
  | footprint => rfl

/-- A request that is cut short clears no flags. -/
theorem PerformedUntil.view_eq
    (performed : PerformedUntil behaviour before request after)
    (lasting : Table.Lasting view)
    (other : ∀ item, request ≠ .insert item) :
    view after.table = view before.table := by
  cases performed with
  | insert => exact absurd rfl (other _)
  | find searched => exact lasting.searched searched
  | findWith used => exact lasting.usedUntil used
  | contains searched => exact lasting.searched searched
  | remove removed => exact lasting.removedUntil removed
  | retain retained => exact lasting.retainedUntil retained
  | walk => rfl
  | footprint => rfl

theorem frame_of_passes
    (sound : before.table.Sound)
    (run : Passes (request.perform behaviour) before after)
    (other : ∀ item, request ≠ .insert item) :
    after.table.frame = before.table.frame := by
  obtain rfl | ⟨done, rfl, ⟨answer, performed⟩ | performed⟩ := performed_of_passes sound run
  · rfl
  · exact performed.view_eq Table.frame_lasting other fun _ => rfl
  · exact performed.view_eq Table.frame_lasting other

end Request
end OpenAddressing
