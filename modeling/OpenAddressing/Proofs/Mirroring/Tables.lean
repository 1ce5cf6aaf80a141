import OpenAddressing.Proofs.Means
import OpenAddressing.Proofs.Mirroring

/-!
# Mirrored tables

Each function of a table on one behaviour is mirrored by the same function on
the image of the behaviour, from a search for an item up to a whole request.  So
it is by any means that mirror each other.
-/

namespace OpenAddressing

open Relocation (slotAt)
open Probe (Counting Purpose)

variable {β β' σ σ' ι α α' : Type} {hosts : σ → σ'} {copies : α → α'}
variable {behaviour : Behaviour σ ι α} {other : Behaviour σ' ι α'}

/-! ## Searching, moving and reorganizing -/

namespace Table

/-- The image of an array looks like the array. -/
theorem mirrored_terrain
    (mirrored : behaviour.Mirrored hosts copies other)
    (item : ι)
    (slots : Array (Slot α)) :
    (terrain behaviour item slots).Mirrored (Thread.map hosts)
      (terrain other item (Slot.mapAll copies slots)) where
  capacity := Slot.size_mapAll
  rehash := mirrored.rehash item
  visit := by
    intro index
    unfold terrain
    simp only [Slot.getElem?_mapAll]
    cases slots[index]? with
    | none => exact .throw _ id _
    | some slot =>
        cases slot with
        | empty => exact .pure _ id _
        | tombstone => exact .pure _ id _
        | occupied stored =>
            simp only [Option.map_some, Slot.map_occupied, Slot.sight_occupied, mirrored.key]
            exact (mirrored.compare _ item).map fun _ => rfl

theorem mirrors_storedAt (index : Nat) :
    Mirrors (Session.map hosts copies) copies (storedAt index : Action σ α α)
      (storedAt index) := by
  refine Action.mirrors_slots.bind fun slots => ?_
  rw [Slot.getElem?_mapAll]
  cases slots[index]? with
  | none => exact .throw _ copies _
  | some slot =>
      cases slot with
      | empty => exact .throw _ copies _
      | tombstone => exact .throw _ copies _
      | occupied stored => exact .pure _ copies stored

theorem mirrors_lend (index : Nat) :
    Mirrors (Session.map hosts copies) (Loan.map copies) (lend index : Action σ α (Loan α))
      (lend index) := by
  have named : Mirrors (Session.map hosts copies) id
      (Action.inspect Table.identity : Action σ α Nat) (Action.inspect Table.identity) :=
    Action.mirrors_inspect fun _ => rfl
  refine (mirrors_storedAt index).bind fun item => ?_
  exact named.bind fun identity => .pure _ (Loan.map copies) _

end Table

namespace Relocation

variable {view : β → β'}

theorem mirrors_call
    {foreign : Call σ β} {foreign' : Call σ' β'}
    (mirrors : Mirrors (Thread.map hosts) view foreign foreign') :
    Mirrors (Relocation.map hosts copies) view (call foreign) (call foreign') := by
  intro relocation
  unfold call
  simp only [Relocation.map, mirrors relocation.thread]
  cases foreign relocation.thread <;> rfl

theorem mirrors_searching
    {search : Array (Slot α) → Counting (Thread σ) β}
    {search' : Array (Slot α') → Counting (Thread σ') β'}
    (mirrors : ∀ slots, Mirrors (Prod.map id (Thread.map hosts)) view (search slots)
      (search' (Slot.mapAll copies slots))) :
    Mirrors (Relocation.map hosts copies) view (searching search) (searching search') := by
  intro relocation
  have same := mirrors relocation.target (relocation.tally, relocation.thread)
  rw [Prod.map_apply, id] at same
  unfold searching
  simp only [Relocation.map, same]
  cases search relocation.target (relocation.tally, relocation.thread) <;> rfl

theorem mirrors_move (item : α) (origin destination : Nat) :
    Mirrors (Relocation.map hosts copies) id (move item origin destination : Step σ α Unit)
      (move (copies item) origin destination) := by
  rintro ⟨source, target, moves, room, tally, thread⟩
  unfold move
  simp only [Relocation.map, Slot.size_mapAll]
  split
  · rfl
  · cases room with
    | zero => rfl
    | succ room =>
        simp only [mapResult, Relocation.map, Slot.mapAll_set, Slot.map_empty,
          Slot.map_occupied, id]

/-- The image of a relocation is rolled back to the image. -/
theorem rollBack_map (relocation : Relocation σ α) :
    (relocation.map hosts copies).rollBack = relocation.rollBack.map hosts copies := by
  unfold rollBack
  change List.foldl _ _ relocation.moves = _
  generalize relocation.moves = moves
  induction moves generalizing relocation with
  | nil => rfl
  | cons move rest inductionHypothesis =>
      obtain ⟨origin, destination⟩ := move
      have undone : (relocation.map hosts copies).undo origin destination =
          (relocation.undo origin destination).map hosts copies := by
        simp only [undo, Relocation.map, Slot.slotAt_mapAll, Slot.mapAll_set, Slot.map_empty]
      simp only [List.foldl_cons, undone]
      exact inductionHypothesis _

end Relocation

namespace Table

/-- The image of a relocation is concluded as the relocation is. -/
theorem conclude_map
    (table : Table α)
    (live : Nat)
    (reclaim : Bool)
    (relocation : Relocation σ α)
    (journal : List Event) :
    conclude (table.map copies) live reclaim (relocation.map hosts copies) journal =
      mapResult id (Session.map hosts copies)
        (conclude table live reclaim relocation journal) := by
  unfold conclude
  have size : (relocation.map hosts copies).target.size = relocation.target.size :=
    Slot.size_mapAll
  have moves : (relocation.map hosts copies).moves = relocation.moves := rfl
  simp only [capacity_map, size, moves, Relocation.rollBack_map]
  split <;> rfl

/-- The image of a host grants the same slots. -/
theorem slots_map
    (mirrored : behaviour.Mirrored hosts copies other)
    (count : Nat)
    (host : σ) :
    other.slots count (hosts host) =
      Prod.map (Option.map (Slot.mapAll copies)) hosts (behaviour.slots count host) := by
  unfold Behaviour.slots
  rw [mirrored.slotBytes, mirrored.reserve]
  split
  · simp only [Prod.map_apply, Prod.map_fst, Prod.map_snd, id]
    split
    · rw [Option.map_some, Slot.mapAll_row]
    · rfl
  · rfl

/-- So it does with a move log. -/
theorem moveLog_map
    (mirrored : behaviour.Mirrored hosts copies other)
    (count : Nat)
    (host : σ) :
    other.moveLog count (hosts host) = Prod.map id hosts (behaviour.moveLog count host) := by
  unfold Behaviour.moveLog
  split
  · rfl
  · split
    · exact mirrored.reserve _ host
    · rfl

/-- So a reorganization of the image is refused, or granted a capacity, as one of the
table is. -/
theorem provision_map
    (mirrored : behaviour.Mirrored hosts copies other)
    (table : Table α)
    (grow : Bool)
    (host : σ) :
    provision other (table.map copies) grow (hosts host) =
      Prod.map id hosts (provision behaviour table grow host) := by
  have live : (table.map copies).items.length = table.items.length := by
    rw [items_map, List.length_map]
  have reclaims : (table.map copies).reclaims table.items.length grow =
      table.reclaims table.items.length grow := rfl
  unfold provision
  simp only [live, capacity_map, target?_map, reclaims]
  cases table.target? (table.reclaims table.items.length grow) with
  | none => rfl
  | some wanted =>
      simp only [slots_map mirrored]
      cases behaviour.slots wanted host with
      | mk granted host =>
          cases granted with
          | none => rfl
          | some slots =>
              simp only [Prod.map_apply, Option.map_some, moveLog_map mirrored]
              cases behaviour.moveLog table.items.length host with
              | mk listed host => cases listed <;> rfl

namespace Survey

/-- A survey is mirrored by another one: the foreign code is, and searches see the same. -/
structure Mirrored
    (hosts : σ → σ')
    (copies : α → α')
    (survey : Survey σ ι α)
    (other : Survey σ' ι α') : Prop where
  /-- The foreign code. -/
  behaviour : survey.behaviour.Mirrored hosts copies other.behaviour
  /-- The slots as a search for an item sees them. -/
  terrain : ∀ item slots, (survey.terrain item slots).Mirrored (Thread.map hosts)
    (other.terrain item (Slot.mapAll copies slots))

namespace Mirrored

variable {survey : Survey σ ι α} {other : Survey σ' ι α'}
variable (mirrored : survey.Mirrored hosts copies other)
include mirrored

theorem locate (purpose : Purpose) (item : ι) :
    Mirrors (Session.map hosts copies) id (survey.locate purpose item)
      (other.locate purpose item) := by
  refine (Action.mirrors_call (mirrored.behaviour.hash item)).bind fun hash => ?_
  exact Action.mirrors_searching fun slots =>
    (mirrored.terrain item slots).search purpose hash

theorem place (origin : Nat) :
    Mirrors (Relocation.map hosts copies) id (survey.place origin) (other.place origin) := by
  have begun : Mirrors (Relocation.map hosts copies) (Relocation.map hosts copies)
      (get : Relocation.Step σ α _) get := fun _ => rfl
  refine begun.bind fun relocation => ?_
  have here : slotAt (relocation.map hosts copies).source origin =
      (slotAt relocation.source origin).map copies := Slot.slotAt_mapAll origin
  simp only [here]
  cases slotAt relocation.source origin with
  | empty => exact .pure _ id ()
  | tombstone => exact .pure _ id ()
  | occupied item =>
      simp only [Slot.map_occupied, mirrored.behaviour.key]
      refine (Relocation.mirrors_call (mirrored.behaviour.hash _)).bind fun hash => ?_
      refine (Relocation.mirrors_searching fun slots =>
        (mirrored.terrain _ slots).search .insert hash).bind fun outcome => ?_
      cases outcome with
      | found index => exact .pure _ id ()
      | missing => exact .pure _ id ()
      | vacant destination => exact Relocation.mirrors_move item origin destination

theorem placeAll :
    Mirrors (Relocation.map hosts copies) id survey.placeAll other.placeAll := by
  have begun : Mirrors (Relocation.map hosts copies) (Relocation.map hosts copies)
      (get : Relocation.Step σ α _) get := fun _ => rfl
  refine begun.bind fun relocation => ?_
  rw [show (relocation.map hosts copies).source.size = relocation.source.size from
    Slot.size_mapAll]
  exact Mirrors.forM mirrored.place _

theorem relocate (target : Array (Slot α)) (live : Nat) (reclaim : Bool) :
    Mirrors (Session.map hosts copies) id (survey.relocate target live reclaim)
      (other.relocate (Slot.mapAll copies target) live reclaim) := by
  rintro ⟨table, thread, journal⟩
  have placed : other.placeAll
      { source := (table.map copies).slots, target := Slot.mapAll copies target, room := live,
        tally := (table.map copies).tally, thread := thread.map hosts } = _ :=
    mirrored.placeAll
      { source := table.slots, target, room := live, tally := table.tally, thread }
  unfold Survey.relocate
  simp only [Session.map, placed]
  cases survey.placeAll
      { source := table.slots, target, room := live, tally := table.tally, thread } with
  | ok value relocation => exact conclude_map table live reclaim relocation journal
  | error abort relocation =>
      simp only [mapResult, Relocation.rollBack_map]
      rfl

theorem reorganize (grow : Bool) :
    Mirrors (Session.map hosts copies) id (survey.reorganize grow) (other.reorganize grow) := by
  refine Action.mirrors_table.bind fun table => Action.mirrors_live.bind fun live => ?_
  have reclaims : (table.map copies).reclaims live grow = table.reclaims live grow := rfl
  simp only [id, capacity_map, reclaims, target?_map]
  cases table.target? (table.reclaims live grow) with
  | none => exact (Action.mirrors_report _).bind fun _ => .pure _ id _
  | some wanted =>
      refine (Action.mirrors_onHost (slots_map mirrored.behaviour wanted)).bind fun granted => ?_
      cases granted with
      | none => exact (Action.mirrors_report _).bind fun _ => .pure _ id _
      | some slots =>
          refine (Action.mirrors_onHost (moveLog_map mirrored.behaviour live)).bind
            fun listed => ?_
          cases listed with
          | false => exact .pure _ id _
          | true => exact mirrored.relocate slots live _

end Mirrored
end Survey

/-! ## Inserting and removing -/

theorem mirrors_occupy (index : Nat) (copy : α) :
    Mirrors (Session.map hosts copies) id (occupy index copy : Action σ α Unit)
      (occupy index (copies copy)) := by
  have stores : Mirrors (Session.map hosts copies) id
      (do
        Action.alter fun table =>
          { table with slots := table.slots.setIfInBounds index (.occupied copy) }
        Action.trace fun table => .inserted index table.entries : Action σ α Unit)
      (do
        Action.alter fun table =>
          { table with slots := table.slots.setIfInBounds index (.occupied (copies copy)) }
        Action.trace fun table => .inserted index table.entries : Action σ' α' Unit) := by
    refine (Action.mirrors_alter fun table => ?_).bind fun _ =>
      Action.mirrors_trace fun _ => rfl
    simp only [Table.map, Slot.mapAll_set, Slot.map_occupied]
  refine Action.mirrors_table.bind fun table => ?_
  have here : (table.map copies).slots[index]? = table.slots[index]?.map (Slot.map copies) :=
    Slot.getElem?_mapAll index
  have counted : (table.map copies).tombstones = table.tombstones := rfl
  simp only [here, counted]
  cases table.slots[index]? with
  | none => exact .throw _ id _
  | some slot =>
      simp only [Option.map_some, Slot.isTombstone_map]
      cases slot.isTombstone with
      | false =>
          simp only [Bool.false_eq_true, if_false]
          exact Mirrors.bind (Action.mirrors_alter fun _ => rfl) fun _ => stores
      | true =>
          by_cases none : table.tombstones = 0
          · simp only [none, if_true]
            exact Mirrors.throw _ id _
          · simp only [if_neg none, if_true]
            exact Mirrors.bind (Action.mirrors_alter fun _ => rfl) fun _ => stores

theorem mirrors_store
    (mirrored : behaviour.Mirrored hosts copies other)
    (item : ι)
    (index : Nat) :
    Mirrors (Session.map hosts copies) (Except.map (Loan.map copies))
      (store behaviour item index) (store other item index) := by
  refine (Action.mirrors_call (mirrored.duplicate item)).bind fun copy? => ?_
  cases copy? with
  | none => exact (Action.mirrors_flag _).bind fun _ => .pure _ (Except.map (Loan.map copies)) _
  | some copy =>
      refine (mirrors_occupy index copy).bind fun _ => ?_
      exact (mirrors_lend index).map fun _ => rfl

theorem mirrors_bury (index : Nat) :
    Mirrors (Session.map hosts copies) id (bury index : Action σ α Unit) (bury index) := by
  refine Action.mirrors_alter fun table => ?_
  simp only [Table.map, Slot.mapAll_set, Slot.map_tombstone]

namespace Means

/-- Means are mirrored by other ones: the foreign code is, and so are locating and
reorganizing. -/
structure Mirrored
    (hosts : σ → σ')
    (copies : α → α')
    (means : Means σ ι α)
    (other : Means σ' ι α') : Prop where
  /-- The foreign code. -/
  behaviour : means.behaviour.Mirrored hosts copies other.behaviour
  /-- Locating an item. -/
  locate : ∀ purpose item, Mirrors (Session.map hosts copies) id (means.locate purpose item)
    (other.locate purpose item)
  /-- Moving the items to a new array. -/
  reorganize : ∀ grow, Mirrors (Session.map hosts copies) id (means.reorganize grow)
    (other.reorganize grow)

namespace Mirrored

variable {means : Means σ ι α} {other : Means σ' ι α'}
variable (mirrored : means.Mirrored hosts copies other)
include mirrored

theorem makeRoom (grow : Bool) :
    Mirrors (Session.map hosts copies) id (means.makeRoom grow) (other.makeRoom grow) := by
  refine (mirrored.reorganize grow).bind fun result => ?_
  cases result with
  | error failure => exact (Action.mirrors_flag _).bind fun _ => .pure _ id _
  | ok _ => exact .pure _ id _

theorem relieve :
    Mirrors (Session.map hosts copies) id means.relieve other.relieve := by
  have looked : Mirrors (Session.map hosts copies) id
      (Action.inspect isCrowded : Action σ α _) (Action.inspect isCrowded) := by
    refine Action.mirrors_inspect fun table => ?_
    unfold isCrowded
    rw [capacity_map]
    rfl
  refine looked.bind fun crowded => ?_
  cases crowded with
  | false => exact .pure _ id _
  | true => exact mirrored.makeRoom false

theorem seek (item : ι) :
    Mirrors (Session.map hosts copies) id (means.seek item) (other.seek item) := by
  refine (mirrored.locate .insert item).bind fun outcome => ?_
  cases outcome with
  | found index => exact .pure _ id _
  | vacant index => exact .pure _ id _
  | missing =>
      refine (mirrored.makeRoom true).bind fun result => ?_
      cases result with
      | error failure => exact .pure _ id _
      | ok _ => exact (mirrored.locate .insert item).map fun _ => rfl

theorem insert (item : ι) :
    Mirrors (Session.map hosts copies) (Except.map (Loan.map copies)) (means.insert item)
      (other.insert item) := by
  refine Action.mirrors_entered (fun result => by cases result <;> rfl) ?_
  refine mirrored.relieve.bind fun result => ?_
  cases result with
  | error failure => exact .pure _ (Except.map (Loan.map copies)) _
  | ok _ =>
      refine (mirrored.seek item).bind fun result => ?_
      cases result with
      | error failure => exact .pure _ (Except.map (Loan.map copies)) _
      | ok outcome =>
          cases outcome with
          | found index => exact (mirrors_lend index).map fun _ => rfl
          | vacant index => exact mirrors_store mirrored.behaviour item index
          | missing =>
              exact (Action.mirrors_flag _).bind fun _ =>
                .pure _ (Except.map (Loan.map copies)) _

theorem find (item : ι) :
    Mirrors (Session.map hosts copies) (Option.map (Loan.map copies)) (means.find? item)
      (other.find? item) := by
  refine Action.mirrors_entered (fun loan? => by cases loan? <;> rfl) ?_
  refine (mirrored.locate .lookup item).bind fun outcome => ?_
  cases outcome with
  | found index => exact (mirrors_lend index).map fun _ => rfl
  | vacant index => exact .pure _ (Option.map (Loan.map copies)) none
  | missing => exact .pure _ (Option.map (Loan.map copies)) none

theorem findWith
    (item : ι)
    {use : α → Call σ β} {use' : α' → Call σ' β}
    (mirrors : ∀ copy, Mirrors (Thread.map hosts) id (use copy) (use' (copies copy))) :
    Mirrors (Session.map hosts copies) id (means.findWith item use)
      (other.findWith item use') := by
  refine Action.mirrors_guarded ?_
  refine (mirrored.locate .lookup item).bind fun outcome => ?_
  cases outcome with
  | found index =>
      refine (mirrors_storedAt index).bind fun stored => ?_
      exact (Action.mirrors_call (mirrors stored)).map fun _ => rfl
  | vacant index => exact .pure _ id none
  | missing => exact .pure _ id none

theorem remove (item : ι) :
    Mirrors (Session.map hosts copies) id (means.remove item) (other.remove item) := by
  refine Action.mirrors_guarded ?_
  refine (mirrored.locate .lookup item).bind fun outcome => ?_
  cases outcome with
  | found index =>
      refine (mirrors_storedAt index).bind fun stored => ?_
      refine (mirrors_bury index).bind fun _ => ?_
      refine Mirrors.bind (Action.mirrors_trace fun _ => rfl) fun _ => ?_
      exact (Action.mirrors_call (mirrored.behaviour.release stored)).bind fun _ =>
        .pure _ id _
  | vacant index => exact .pure _ id none
  | missing => exact .pure _ id none

end Mirrored
end Means

/-- The means of surveys that are mirrored are mirrored. -/
theorem Survey.Mirrored.means
    {survey : Survey σ ι α} {other : Survey σ' ι α'}
    (mirrored : survey.Mirrored hosts copies other) :
    survey.means.Mirrored hosts copies other.means where
  behaviour := mirrored.behaviour
  locate := mirrored.locate
  reorganize := mirrored.reorganize

/-! ## The other operations -/

theorem mirrors_retainAt
    (mirrored : behaviour.Mirrored hosts copies other)
    {keep : α → Call σ Bool} {keep' : α' → Call σ' Bool}
    (mirrors : ∀ copy, Mirrors (Thread.map hosts) id (keep copy) (keep' (copies copy)))
    (index : Nat) :
    Mirrors (Session.map hosts copies) id (retainAt behaviour keep index)
      (retainAt other keep' index) := by
  refine Action.mirrors_slots.bind fun slots => ?_
  rw [Slot.getElem?_mapAll]
  cases slots[index]? with
  | none => exact .throw _ id _
  | some slot =>
      cases slot with
      | empty => exact .pure _ id 0
      | tombstone => exact .pure _ id 0
      | occupied stored =>
          refine (Action.mirrors_call (mirrors stored)).bind fun kept => ?_
          cases kept with
          | true => exact .pure _ id 0
          | false =>
              refine (mirrors_bury index).bind fun _ => ?_
              exact (Action.mirrors_call (mirrored.release stored)).bind fun _ => .pure _ id 1

theorem mirrors_retain
    (mirrored : behaviour.Mirrored hosts copies other)
    {keep : α → Call σ Bool} {keep' : α' → Call σ' Bool}
    (mirrors : ∀ copy, Mirrors (Thread.map hosts) id (keep copy) (keep' (copies copy))) :
    Mirrors (Session.map hosts copies) id (retain behaviour keep) (retain other keep') := by
  refine Action.mirrors_guarded (Action.mirrors_capacity.bind fun count => ?_)
  exact Mirrors.total (mirrors_retainAt mirrored mirrors) count

theorem mirrors_discardAt
    (mirrored : behaviour.Mirrored hosts copies other)
    (index : Nat) :
    Mirrors (Session.map hosts copies) id (discardAt behaviour index)
      (discardAt other index) := by
  have cleared : Mirrors (Session.map hosts copies) id (clear index : Action σ α Unit)
      (clear index) := by
    refine Action.mirrors_alter fun table => ?_
    simp only [Table.map, Slot.mapAll_set, Slot.map_empty]
  refine Action.mirrors_slots.bind fun slots => ?_
  rw [Slot.getElem?_mapAll]
  cases slots[index]? with
  | none => exact .throw _ id _
  | some slot =>
      cases slot with
      | empty => exact cleared.bind fun _ => .pure _ id 0
      | tombstone => exact cleared.bind fun _ => .pure _ id 0
      | occupied stored =>
          refine cleared.bind fun _ => ?_
          exact (Action.mirrors_call (mirrored.release stored)).bind fun _ => .pure _ id 1

theorem mirrors_tearDown (mirrored : behaviour.Mirrored hosts copies other) :
    Mirrors (Session.map hosts copies) id (tearDown behaviour) (tearDown other) := by
  refine Action.mirrors_capacity.bind fun count => ?_
  refine (Mirrors.total (mirrors_discardAt mirrored) count).bind fun released => ?_
  exact Action.mirrors_trace fun _ => rfl

theorem mirrors_visit
    {visitor : α → Call σ (Option β)} {visitor' : α' → Call σ' (Option β)}
    (mirrors : ∀ copy, Mirrors (Thread.map hosts) id (visitor copy) (visitor' (copies copy)))
    (items : List α) :
    Mirrors (Thread.map hosts) id (visit visitor items) (visit visitor' (items.map copies)) := by
  induction items with
  | nil => exact .pure _ id none
  | cons item rest inductionHypothesis =>
      refine (mirrors item).bind fun answer? => ?_
      cases answer? with
      | none => exact inductionHypothesis
      | some answer => exact .pure _ id (some answer)

theorem mirrors_walk
    {visitor : α → Call σ (Option β)} {visitor' : α' → Call σ' (Option β)}
    (mirrors : ∀ copy, Mirrors (Thread.map hosts) id (visitor copy) (visitor' (copies copy))) :
    Mirrors (Session.map hosts copies) id (walk visitor) (walk visitor') := by
  have looked : Mirrors (Session.map hosts copies) (List.map copies)
      (Action.inspect items : Action σ α _) (Action.inspect items) :=
    Action.mirrors_inspect items_map
  refine Action.mirrors_guarded (looked.bind fun items => ?_)
  exact Action.mirrors_call (mirrors_visit mirrors items)

theorem mirrors_footprint (mirrored : behaviour.Mirrored hosts copies other) :
    Mirrors (Session.map hosts copies) id (footprint behaviour) (footprint other) := by
  refine Action.mirrors_guarded (Action.mirrors_table.bind fun table => ?_)
  have held : Mirrors (Thread.map hosts) id (heapBytes behaviour table.items)
      (heapBytes other (table.map copies).items) := by
    rw [items_map]
    exact Mirrors.foldlM (fun total item => (mirrored.heapBytes item).bind fun bytes =>
      .pure _ id (total + bytes)) table.items 0
  refine (Action.mirrors_call held).bind fun bytes => ?_
  rw [mirrored.slotBytes, capacity_map]
  exact .pure _ id _

theorem mirrors_length :
    Mirrors (Session.map hosts copies) id (length : Action σ α Nat) length :=
  Action.mirrors_guarded Action.mirrors_live

theorem mirrors_statistics :
    Mirrors (Session.map hosts copies) id (statistics : Action σ α Statistics) statistics := by
  refine Action.mirrors_guarded (Action.mirrors_table.bind fun table => ?_)
  refine Action.mirrors_live.bind fun live => ?_
  rw [capacity_map]
  exact .pure _ id _

theorem mirrors_clearFlags :
    Mirrors (Session.map hosts copies) id (clearFlags : Action σ α Flags) clearFlags := by
  refine Action.mirrors_guarded (Action.mirrors_table.bind fun table => ?_)
  exact Mirrors.bind (Action.mirrors_alter fun _ => rfl) fun _ => .pure _ id _

end Table

namespace Behaviour.Mirrored

variable (mirrored : behaviour.Mirrored hosts copies other)
include mirrored

theorem survey : behaviour.survey.Mirrored hosts copies other.survey where
  behaviour := mirrored
  terrain := Table.mirrored_terrain mirrored

theorem means : behaviour.means.Mirrored hosts copies other.means := by
  rw [← behaviour.means_survey, ← other.means_survey]
  exact mirrored.survey.means

end Behaviour.Mirrored

/-! ## Requests -/

/-- The answer with another copy. -/
def Answer.map (copies : α → α') : Answer ι α β → Answer ι α' β
  | inserted result => inserted (result.map copies)
  | found copy? => found (copy?.map copies)
  | used value? => used value?
  | removed item? => removed item?
  | truth value => truth value
  | count number => count number
  | statistics record => statistics record
  | flags raised => flags raised

namespace Request

/-- A request is mirrored by one of the same kind if its foreign code is. -/
inductive Mirrored (hosts : σ → σ') (copies : α → α') :
    Request σ ι α β → Request σ' ι α' β → Prop
  | insert (item : ι) : Mirrored hosts copies (.insert item) (.insert item)
  | find (item : ι) : Mirrored hosts copies (.find item) (.find item)
  | findWith (item : ι) {use : α → Call σ β} {use' : α' → Call σ' β}
      (mirrors : ∀ copy, Mirrors (Thread.map hosts) id (use copy) (use' (copies copy))) :
      Mirrored hosts copies (.findWith item use) (.findWith item use')
  | contains (item : ι) : Mirrored hosts copies (.contains item) (.contains item)
  | remove (item : ι) : Mirrored hosts copies (.remove item) (.remove item)
  | retain {keep : α → Call σ Bool} {keep' : α' → Call σ' Bool}
      (mirrors : ∀ copy, Mirrors (Thread.map hosts) id (keep copy) (keep' (copies copy))) :
      Mirrored hosts copies (.retain keep) (.retain keep')
  | walk {visitor : α → Call σ (Option β)} {visitor' : α' → Call σ' (Option β)}
      (mirrors : ∀ copy,
        Mirrors (Thread.map hosts) id (visitor copy) (visitor' (copies copy))) :
      Mirrored hosts copies (.walk visitor) (.walk visitor')
  | length : Mirrored hosts copies .length .length
  | isEmpty : Mirrored hosts copies .isEmpty .isEmpty
  | slotCount : Mirrored hosts copies .slotCount .slotCount
  | statistics : Mirrored hosts copies .statistics .statistics
  | clearFlags : Mirrored hosts copies .clearFlags .clearFlags
  | footprint : Mirrored hosts copies .footprint .footprint

/-- A loan ends on the image as it does on the original. -/
theorem mirrors_takeItem (loan : Loan α) :
    Mirrors (Session.map hosts copies) copies (loan.takeItem : Action σ α α)
      (loan.map copies).takeItem := by
  have ends : Mirrors (Thread.map hosts) id (loan.finish : Call σ Unit)
      (loan.map copies).finish := fun _ => rfl
  exact (Action.mirrors_call ends).bind fun _ => .pure _ copies loan.item

/-- By means that are mirrored, a request is mirrored by the mirrored request. -/
theorem mirrors_perform_means
    {means : Table.Means σ ι α} {other : Table.Means σ' ι α'}
    (mirrored : means.Mirrored hosts copies other)
    {request : Request σ ι α β} {request' : Request σ' ι α' β}
    (requests : request.Mirrored hosts copies request') :
    Mirrors (Session.map hosts copies) (Answer.map copies) (means.perform request)
      (other.perform request') := by
  cases requests with
  | insert item =>
      refine (mirrored.insert item).bind fun result => ?_
      cases result with
      | error failure => exact .pure _ (Answer.map copies) _
      | ok loan => exact (mirrors_takeItem loan).map fun _ => rfl
  | find item =>
      refine (mirrored.find item).bind fun loan? => ?_
      cases loan? with
      | none => exact .pure _ (Answer.map copies) _
      | some loan => exact (mirrors_takeItem loan).map fun _ => rfl
  | findWith item mirrors => exact (mirrored.findWith item mirrors).map fun _ => rfl
  | contains item =>
      have found : Mirrors (Session.map hosts copies) id (means.contains item)
          (other.contains item) :=
        Mirrors.map (mirrored.findWith item fun _ => .pure _ id ()) fun _ => rfl
      exact found.map fun _ => rfl
  | remove item => exact (mirrored.remove item).map fun _ => rfl
  | retain mirrors =>
      exact (Table.mirrors_retain mirrored.behaviour mirrors).map fun _ => rfl
  | walk mirrors => exact (Table.mirrors_walk mirrors).map fun _ => rfl
  | length => exact Table.mirrors_length.map fun _ => rfl
  | isEmpty =>
      have empty : Mirrors (Session.map hosts copies) id (Table.isEmpty : Action σ α Bool)
          Table.isEmpty := Table.mirrors_length.bind fun _ => .pure _ id _
      exact empty.map fun _ => rfl
  | slotCount =>
      have counted : Mirrors (Session.map hosts copies) id (Table.slotCount : Action σ α Nat)
          Table.slotCount :=
        Action.mirrors_guarded Action.mirrors_capacity
      exact counted.map fun _ => rfl
  | statistics => exact Table.mirrors_statistics.map fun _ => rfl
  | clearFlags => exact Table.mirrors_clearFlags.map fun _ => rfl
  | footprint => exact (Table.mirrors_footprint mirrored.behaviour).map fun _ => rfl

/-- A request to a table is mirrored by the mirrored request to its image. -/
theorem mirrors_perform
    (mirrored : behaviour.Mirrored hosts copies other)
    {request : Request σ ι α β} {request' : Request σ' ι α' β}
    (requests : request.Mirrored hosts copies request') :
    Mirrors (Session.map hosts copies) (Answer.map copies) (request.perform behaviour)
      (request'.perform other) := by
  rw [← behaviour.perform_means, ← other.perform_means]
  exact mirrors_perform_means mirrored.means requests

/-- So are requests one after the other. -/
theorem mirrors_performAll
    (mirrored : behaviour.Mirrored hosts copies other)
    {requests : List (Request σ ι α β)} {requests' : List (Request σ' ι α' β)}
    (all : List.Forall₂ (Request.Mirrored hosts copies) requests requests') :
    Mirrors (Session.map hosts copies) (List.map (Answer.map copies))
      (performAll behaviour requests) (performAll other requests') := by
  induction all with
  | nil => exact .pure _ (List.map (Answer.map copies)) []
  | cons request _ inductionHypothesis =>
      refine (mirrors_perform mirrored request).bind fun answer => ?_
      exact inductionHypothesis.bind fun answers =>
        .pure _ (List.map (Answer.map copies)) (answer :: answers)

end Request

/-- A table of the image is created like the original. -/
theorem Table.create_map
    (mirrored : behaviour.Mirrored hosts copies other)
    (settings : Settings)
    (identity : Nat)
    (host : σ) :
    Table.create other settings identity (hosts host) =
      Prod.map (Except.map (Table.map copies)) hosts
        (Table.create behaviour settings identity host) := by
  unfold Table.create
  cases settings.validate with
  | error failure => rfl
  | ok _ =>
      simp only [slots_map mirrored]
      cases behaviour.slots settings.initialCapacity host with
      | mk slots? after => cases slots? <;> rfl

end OpenAddressing
