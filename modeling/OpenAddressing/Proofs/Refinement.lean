import OpenAddressing.Proofs.Catalog
import OpenAddressing.Proofs.Discretion
import OpenAddressing.Proofs.Reachable

/-!
# Tables as catalogs

Under laws, a table answers every request as the catalog of its items does.  The
catalog fixes the answers and the calls that make, release, use or ask about
copies; the questions that a search asks besides are left open.  A step lemma
says that one request is admitted by the catalog, and from it follows that a
whole run of requests is.
-/

namespace OpenAddressing

open Relocation (slotAt)
open Laws (Catalog)

variable {σ ι α β : Type} {behaviour : Behaviour σ ι α} {laws : Laws ι}
variable {before after : Session σ α}

namespace Laws

/-- How a catalog admits a request: the answer, the catalog afterwards, and what
the foreign functions were called for in between. -/
inductive Admits
    (laws : Laws ι)
    (behaviour : Behaviour σ ι α)
    (catalog : laws.Catalog α)
    (before : Thread σ) :
    Request σ ι α β → Answer ι α β → Thread σ → laws.Catalog α → Prop
  /-- A copy is stored already and is returned.  No copy is made. -/
  | insertPresent {item : ι} {copy : α} {after : Thread σ}
      (stored : catalog.lookup (laws.kind item) = some copy)
      (consults : behaviour.Consults before after) :
      Admits laws behaviour catalog before (.insert item) (.inserted (.ok copy)) after catalog
  /-- A fresh copy is stored and returned. -/
  | insertAbsent {item : ι} {copy : α} {ready after : Thread σ}
      (absent : catalog.lookup (laws.kind item) = none)
      (consults : behaviour.Consults before ready)
      (duplicated : behaviour.duplicate item ready = .ok (some copy) after) :
      Admits laws behaviour catalog before (.insert item) (.inserted (.ok copy)) after
        (catalog.insert (laws.kind item) copy)
  /-- The insertion fails before a copy is made. -/
  | insertFailed {item : ι} {failure : Failure} {after : Thread σ}
      (consults : behaviour.Consults before after) :
      Admits laws behaviour catalog before (.insert item) (.inserted (.error failure)) after
        catalog
  /-- No copy of a new item can be made. -/
  | insertUncopied {item : ι} {ready after : Thread σ}
      (absent : catalog.lookup (laws.kind item) = none)
      (consults : behaviour.Consults before ready)
      (refused : behaviour.duplicate item ready = .ok none after) :
      Admits laws behaviour catalog before (.insert item) (.inserted (.error .outOfMemory))
        after catalog
  | find {item : ι} {after : Thread σ}
      (consults : behaviour.Consults before after) :
      Admits laws behaviour catalog before (.find item)
        (.found (catalog.lookup (laws.kind item))) after catalog
  | findWithAbsent {item : ι} {use : α → Call σ β} {after : Thread σ}
      (absent : catalog.lookup (laws.kind item) = none)
      (consults : behaviour.Consults before after) :
      Admits laws behaviour catalog before (.findWith item use) (.used none) after catalog
  | findWithPresent {item : ι} {use : α → Call σ β} {copy : α} {value : β}
      {ready after : Thread σ}
      (stored : catalog.lookup (laws.kind item) = some copy)
      (consults : behaviour.Consults before ready)
      (used : use copy ready = .ok value after) :
      Admits laws behaviour catalog before (.findWith item use) (.used (some value)) after
        catalog
  | contains {item : ι} {after : Thread σ}
      (consults : behaviour.Consults before after) :
      Admits laws behaviour catalog before (.contains item)
        (.truth (catalog.lookup (laws.kind item)).isSome) after catalog
  | removeAbsent {item : ι} {after : Thread σ}
      (absent : catalog.lookup (laws.kind item) = none)
      (consults : behaviour.Consults before after) :
      Admits laws behaviour catalog before (.remove item) (.removed none) after catalog
  /-- The stored copy is released, and the caller's own item is the answer. -/
  | removePresent {item : ι} {copy : α} {ready after : Thread σ}
      (stored : catalog.lookup (laws.kind item) = some copy)
      (consults : behaviour.Consults before ready)
      (released : behaviour.release copy ready = .ok () after) :
      Admits laws behaviour catalog before (.remove item) (.removed (some item)) after
        (catalog.erase (laws.kind item))
  /-- Every stored copy is asked about once; those that are not kept are released
  and counted. -/
  | retain {keep : α → Call σ Bool} {asked kept : List α} {number : Nat} {after : Thread σ}
      {rest : laws.Catalog α}
      (enumerates : Catalog.Enumerates behaviour.key asked catalog)
      (sieves : Table.Sieves behaviour keep before asked kept after)
      (remains : Catalog.Enumerates behaviour.key kept rest)
      (counted : number + kept.length = asked.length) :
      Admits laws behaviour catalog before (.retain keep) (.count number) after rest
  /-- The stored copies are visited, each at most once. -/
  | walk {visitor : α → Call σ (Option β)} {copies : List α} {value? : Option β}
      {after : Thread σ}
      (enumerates : Catalog.Enumerates behaviour.key copies catalog)
      (visited : Table.visit visitor copies before = .ok value? after) :
      Admits laws behaviour catalog before (.walk visitor) (.used value?) after catalog
  | length :
      Admits laws behaviour catalog before .length (.count catalog.keys.card) before catalog
  | isEmpty :
      Admits laws behaviour catalog before .isEmpty (.truth (catalog.keys.card == 0)) before
        catalog
  | clearFlags (flags : Flags) :
      Admits laws behaviour catalog before .clearFlags (.flags flags) before catalog
  | slotCount (number : Nat) :
      Admits laws behaviour catalog before .slotCount (.count number) before catalog
  | statistics (statistics : Statistics)
      (live : statistics.liveEntries = catalog.keys.card) :
      Admits laws behaviour catalog before .statistics (.statistics statistics) before catalog
  | footprint {copies : List α} {held : Nat} {after : Thread σ} (slots : Nat)
      (enumerates : Catalog.Enumerates behaviour.key copies catalog)
      (summed : Table.heapBytes behaviour copies before = .ok held after) :
      Admits laws behaviour catalog before .footprint
        (.count (slots * behaviour.slotBytes + held)) after catalog

end Laws

/-! ## One request -/

namespace Laws.Catalog.Enumerates

variable {catalog : laws.Catalog α} {item : ι} {copy : α} {index : Nat}

/-- What is stored in a table under the laws is what the catalog has. -/
theorem lookup_of_stored
    (enumerates : Enumerates behaviour.key after.table.items catalog)
    (stored : slotAt after.table.slots index = .occupied copy)
    (equal : laws.equal (behaviour.key copy) item = true) :
    catalog.lookup (laws.kind item) = some copy :=
  enumerates.lookup_iff.mpr ⟨Slot.mem_contents_iff.mpr ⟨index, stored⟩, equal⟩

/-- A search that finds the item of a slot finds what the catalog has. -/
theorem lookup_of_found
    {purpose : Probe.Purpose}
    (enumerates : Enumerates behaviour.key after.table.items catalog)
    (obeys : behaviour.Obeys laws)
    (found : behaviour.Locates after.table.slots purpose item (.found index))
    (stored : slotAt after.table.slots index = .occupied copy) :
    catalog.lookup (laws.kind item) = some copy := by
  obtain ⟨twin, stored', equal⟩ := Laws.stored_of_found (found.eq_locate obeys).symm
  rw [stored] at stored'
  obtain rfl := Slot.occupied.inj stored'
  exact enumerates.lookup_of_stored stored equal

/-- A search that finds no item tells that the catalog has none. -/
theorem lookup_of_not_found
    {purpose : Probe.Purpose} {outcome : Probe.Outcome}
    (enumerates : Enumerates behaviour.key after.table.items catalog)
    (obeys : behaviour.Obeys laws)
    (arranged : laws.Arranged behaviour.key after.table.slots)
    (located : behaviour.Locates after.table.slots purpose item outcome)
    (notFound : ∀ index, outcome ≠ .found index) :
    catalog.lookup (laws.kind item) = none := by
  refine enumerates.lookup_eq_none_iff.mpr fun copy member => ?_
  by_contra equal
  obtain ⟨index, stored⟩ := Slot.mem_contents_iff.mp member
  have found := arranged.locate_stored stored (by simpa using equal) purpose
  exact notFound index ((located.eq_locate obeys).trans found)

/-- A look-up answers from the catalog. -/
theorem lookup_of_lookedUp
    {place : Option (Nat × α)}
    (enumerates : Enumerates behaviour.key before.table.items catalog)
    (obeys : behaviour.Obeys laws)
    (arranged : laws.Arranged behaviour.key before.table.slots)
    (lookedUp : Table.LookedUp behaviour item before place after) :
    catalog.lookup (laws.kind item) = place.map Prod.snd := by
  cases lookedUp with
  | absent _ missing => exact enumerates.lookup_of_not_found obeys arranged missing (by simp)
  | present _ found stored => exact enumerates.lookup_of_found obeys found stored

end Laws.Catalog.Enumerates

open Laws.Catalog (Enumerates)

variable {catalog : laws.Catalog α}

/-- The catalog admits an insertion, however it returns. -/
theorem Table.Inserted.admits
    {item : ι} {result : Except Failure (Loan α)}
    (inserted : Inserted behaviour item before result after)
    (obeys : behaviour.Obeys laws)
    (intact : before.table.Intact behaviour)
    (enumerates : Enumerates behaviour.key before.table.items catalog) :
    ∃ catalog',
      laws.Admits behaviour catalog before.thread (.insert item : Request σ ι α β)
        (.inserted (result.map Loan.item)) after.thread catalog' ∧
      Enumerates behaviour.key after.table.items catalog' := by
  cases inserted with
  | failed prepared =>
      exact ⟨catalog, .insertFailed prepared.preserves.consults,
        enumerates.perm prepared.preserves.items⟩
  | full prepared =>
      exact ⟨catalog, .insertFailed prepared.preserves.consults,
        enumerates.perm prepared.preserves.items⟩
  | present prepared stored =>
      have enumerates' := enumerates.perm prepared.preserves.items
      exact ⟨catalog, .insertPresent
        (enumerates'.lookup_of_found obeys prepared.locates stored)
        prepared.preserves.consults, enumerates'⟩
  | uncopied prepared refused =>
      have enumerates' := enumerates.perm prepared.preserves.items
      have arranged := prepared.preserves.arranged obeys (intact.arranged obeys)
      exact ⟨catalog, .insertUncopied
        (enumerates'.lookup_of_not_found obeys arranged prepared.locates (by simp))
        prepared.preserves.consults refused, enumerates'⟩
  | @stored index copy ready thread prepared duplicated =>
      have enumerates' := enumerates.perm prepared.preserves.items
      have arranged := prepared.preserves.arranged obeys (intact.arranged obeys)
      have absent := enumerates'.lookup_of_not_found obeys arranged prepared.locates (by simp)
      obtain ⟨_, within, vacant⟩ := prepared.locates.free_of_vacant
      have sound := prepared.preserves.sound intact.sound
      have joins := (sound.occupied (prepared.isCrowded intact.sound) within vacant copy).2
      refine ⟨catalog.insert (laws.kind item) copy, ?_, ?_⟩
      · rw [Session.traced_thread]
        exact .insertAbsent absent prepared.preserves.consults duplicated
      · rw [Session.traced_table]
        exact (enumerates'.insert absent (obeys.duplicate ⟨_, _, duplicated⟩)).perm joins

/-- The catalog admits a removal that returns. -/
theorem Table.Removed.admits
    {item : ι} {item? : Option ι}
    (removed : Removed behaviour item before item? after)
    (obeys : behaviour.Obeys laws)
    (intact : before.table.Intact behaviour)
    (enumerates : Enumerates behaviour.key before.table.items catalog) :
    ∃ catalog',
      laws.Admits behaviour catalog before.thread (.remove item : Request σ ι α β)
        (.removed item?) after.thread catalog' ∧
      Enumerates behaviour.key after.table.items catalog' := by
  cases removed with
  | absent lookedUp =>
      have absent := enumerates.lookup_of_lookedUp obeys (intact.arranged obeys) lookedUp
      have preserves : before.Preserves behaviour after := lookedUp.searched.preserves
      exact ⟨catalog, .removeAbsent absent preserves.consults,
        enumerates.perm preserves.items⟩
  | @removed index copy ready thread lookedUp released =>
      have stored := enumerates.lookup_of_lookedUp obeys (intact.arranged obeys) lookedUp
      have preserves : before.Preserves behaviour ready := lookedUp.searched.preserves
      have enumerates' := enumerates.perm preserves.items
      have equal := (enumerates.lookup_iff.mp stored).2
      refine ⟨catalog.erase (laws.kind item),
        .removePresent stored preserves.consults released, ?_⟩
      have leaves := Table.items_buried lookedUp.stored
      unfold unlinked
      rw [Session.traced_table]
      exact (enumerates'.perm leaves.symm).erase equal

/-- The catalog of a table admits every request that returns. -/
theorem Request.Performed.admits
    {request : Request σ ι α β} {answer : Answer ι α β}
    (performed : Performed behaviour before request answer after)
    (obeys : behaviour.Obeys laws)
    (intact : before.table.Intact behaviour)
    (enumerates : Enumerates behaviour.key before.table.items catalog) :
    ∃ catalog',
      laws.Admits behaviour catalog before.thread request answer after.thread catalog' ∧
      Enumerates behaviour.key after.table.items catalog' := by
  have arranged := intact.arranged obeys
  cases performed with
  | insert inserted => exact inserted.admits obeys intact enumerates
  | find lookedUp =>
      have answer := enumerates.lookup_of_lookedUp obeys arranged lookedUp
      have preserves : before.Preserves behaviour after := lookedUp.searched.preserves
      refine ⟨catalog, ?_, enumerates.perm preserves.items⟩
      rw [← answer]
      exact .find preserves.consults
  | findWith used =>
      cases used with
      | absent lookedUp =>
          have absent := enumerates.lookup_of_lookedUp obeys arranged lookedUp
          have preserves : before.Preserves behaviour after := lookedUp.searched.preserves
          exact ⟨catalog, .findWithAbsent absent preserves.consults,
            enumerates.perm preserves.items⟩
      | @used index copy ready value thread lookedUp run =>
          have stored := enumerates.lookup_of_lookedUp obeys arranged lookedUp
          have preserves : before.Preserves behaviour ready := lookedUp.searched.preserves
          exact ⟨catalog, .findWithPresent stored preserves.consults run,
            enumerates.perm preserves.items⟩
  | contains used =>
      cases used with
      | absent lookedUp =>
          have absent := enumerates.lookup_of_lookedUp obeys arranged lookedUp
          have preserves : before.Preserves behaviour after := lookedUp.searched.preserves
          refine ⟨catalog, ?_, enumerates.perm preserves.items⟩
          rw [show (none : Option Unit).isSome = (catalog.lookup _).isSome by rw [absent]; rfl]
          exact .contains preserves.consults
      | @used index copy ready value thread lookedUp run =>
          have stored := enumerates.lookup_of_lookedUp obeys arranged lookedUp
          have preserves : before.Preserves behaviour ready := lookedUp.searched.preserves
          cases run
          refine ⟨catalog, ?_, enumerates.perm preserves.items⟩
          rw [show (some ()).isSome = (catalog.lookup _).isSome by rw [stored]; rfl]
          exact .contains preserves.consults
  | remove removed => exact removed.admits obeys intact enumerates
  | retain retained =>
      obtain ⟨sieves, counted⟩ := retained.items
      obtain ⟨rest, remains⟩ := enumerates.exists_sublist sieves.sublist
      exact ⟨rest, .retain enumerates sieves remains counted, remains⟩
  | walk visited => exact ⟨catalog, .walk enumerates visited, enumerates⟩
  | length =>
      rw [← enumerates.card]
      exact ⟨catalog, .length, enumerates⟩
  | isEmpty =>
      have same : before.table.items.isEmpty = (before.table.items.length == 0) := by
        cases before.table.items <;> rfl
      rw [same, ← enumerates.card]
      exact ⟨catalog, .isEmpty, enumerates⟩
  | slotCount => exact ⟨catalog, .slotCount _, enumerates⟩
  | statistics => exact ⟨catalog, .statistics _ enumerates.card.symm, enumerates⟩
  | clearFlags => exact ⟨catalog, .clearFlags _, enumerates⟩
  | footprint summed => exact ⟨catalog, .footprint _ enumerates summed, enumerates⟩

/-! ## Runs of requests -/

/-- The foreign code of a request is discreet about a table. -/
def Request.Discreet (identity : Nat) : Request σ ι α β → Prop
  | findWith _ use => ∀ copy, OpenAddressing.Discreet identity (use copy)
  | retain keep => ∀ copy, OpenAddressing.Discreet identity (keep copy)
  | walk visitor => ∀ copy, OpenAddressing.Discreet identity (visitor copy)
  | _ => True

section Discretion

variable {identity : Nat}

theorem Table.Sieves.count
    {keep : α → Call σ Bool} {asked kept : List α} {begin thread : Thread σ}
    (sieves : Sieves behaviour keep begin asked kept thread)
    (discreet : behaviour.Discreet identity)
    (asks : ∀ copy, Discreet identity (keep copy)) :
    thread.roster.count identity = begin.roster.count identity := by
  induction sieves with
  | start => rfl
  | kept _ keeps inductionHypothesis =>
      exact ((asks _).of_ok keeps).trans inductionHypothesis
  | rejected _ rejects released inductionHypothesis =>
      exact ((discreet.release _).of_ok released).trans
        (((asks _).of_ok rejects).trans inductionHypothesis)

/-- If all foreign code is discreet, a table is on the roster as often after a
request as before. -/
theorem Laws.Admits.count
    {catalog' : laws.Catalog α} {request : Request σ ι α β} {answer : Answer ι α β}
    {before after : Thread σ}
    (admits : laws.Admits behaviour catalog before request answer after catalog')
    (discreet : behaviour.Discreet identity)
    (quiet : request.Discreet identity) :
    after.roster.count identity = before.roster.count identity := by
  cases admits with
  | insertPresent _ consults => exact discreet.count_of_consults consults
  | insertAbsent _ consults duplicated =>
      exact ((discreet.duplicate _).of_ok duplicated).trans
        (discreet.count_of_consults consults)
  | insertFailed consults => exact discreet.count_of_consults consults
  | insertUncopied _ consults refused =>
      exact ((discreet.duplicate _).of_ok refused).trans (discreet.count_of_consults consults)
  | find consults => exact discreet.count_of_consults consults
  | findWithAbsent _ consults => exact discreet.count_of_consults consults
  | findWithPresent _ consults used =>
      exact ((quiet _).of_ok used).trans (discreet.count_of_consults consults)
  | contains consults => exact discreet.count_of_consults consults
  | removeAbsent _ consults => exact discreet.count_of_consults consults
  | removePresent _ consults released =>
      exact ((discreet.release _).of_ok released).trans (discreet.count_of_consults consults)
  | retain _ sieves => exact sieves.count discreet quiet
  | walk _ visited => exact (Table.keeps_visit quiet _).of_ok visited
  | length => rfl
  | isEmpty => rfl
  | clearFlags => rfl
  | slotCount => rfl
  | statistics => rfl
  | footprint _ _ summed => exact (Table.keeps_heapBytes discreet.heapBytes _).of_ok summed

/-- A table that was free is free again when it leaves the roster, if it is there
as often as when it had joined. -/
theorem Session.free_of_count
    (same : after.table.identity = before.table.identity)
    (free : before.table.identity ∉ before.thread.roster)
    (count : after.thread.roster.count before.table.identity =
      before.joined.thread.roster.count before.table.identity) :
    before.table.identity ∉ after.leave.thread.roster := by
  have once : before.joined.thread.roster.count before.table.identity = 1 := by
    simp [Session.joined, Roster.count_eq_zero_iff.mpr free]
  rw [← Roster.count_eq_zero_iff]
  change (after.thread.roster.leave after.table.identity).count _ = 0
  rw [same, Roster.count_leave, count, once]

end Discretion

/-- A catalog admits requests one after the other.  Before each the table joins
the roster, and after it the table leaves. -/
inductive Laws.Follows
    (laws : Laws ι)
    (behaviour : Behaviour σ ι α)
    (identity : Nat) :
    laws.Catalog α → Thread σ → List (Request σ ι α β) → List (Answer ι α β) → Thread σ →
      laws.Catalog α → Prop
  | nil {catalog : laws.Catalog α} {thread : Thread σ} :
      Follows laws behaviour identity catalog thread [] [] thread catalog
  | cons {catalog next last : laws.Catalog α} {before done after : Thread σ}
      {request : Request σ ι α β} {answer : Answer ι α β}
      {requests : List (Request σ ι α β)} {answers : List (Answer ι α β)}
      (admits : laws.Admits behaviour catalog
        { before with roster := before.roster.join identity } request answer done next)
      (follows : Follows laws behaviour identity next
        { done with roster := done.roster.leave identity } requests answers after last) :
      Follows laws behaviour identity catalog before (request :: requests) (answer :: answers)
        after last

/-- The foreign code of a request does no harm: it is never cut short, and it is
discreet about the table. -/
def Request.Harmless (identity : Nat) (request : Request σ ι α β) : Prop :=
  (∀ abort, ¬ request.Raises abort) ∧ request.Discreet identity

/-- If no foreign code is ever cut short, a request to a table that is free
returns. -/
theorem Request.perform_returns
    (steady : behaviour.Steady)
    (sound : before.table.Sound)
    (free : before.table.identity ∉ before.thread.roster)
    {request : Request σ ι α β}
    (harmless : request.Harmless before.table.identity) :
    ∃ answer done, request.perform behaviour before = .ok answer (Session.leave done) ∧
      Performed behaviour before.joined request answer done := by
  have leads : Leads (request.perform behaviour) before _ _ :=
    perform_leads sound free request
  obtain ⟨answer, _, run, done, performed, rfl⟩ := leads.exists_ok (by
    rintro abort _ ⟨raises | raises, _⟩
    · exact steady abort raises
    · exact harmless.1 abort raises)
  exact ⟨answer, done, run, performed⟩

/-- The catalog of the table admits the request, and the table is free again. -/
theorem Request.perform_admits
    (obeys : behaviour.Obeys laws)
    (steady : behaviour.Steady)
    (discreet : behaviour.Discreet before.table.identity)
    (intact : before.table.Intact behaviour)
    (free : before.table.identity ∉ before.thread.roster)
    (enumerates : Enumerates behaviour.key before.table.items catalog)
    (request : Request σ ι α β)
    (harmless : request.Harmless before.table.identity) :
    ∃ answer done catalog',
      request.perform behaviour before = .ok answer (Session.leave done) ∧
      done.table.identity = before.table.identity ∧
      done.table.Intact behaviour ∧
      before.table.identity ∉ done.leave.thread.roster ∧
      laws.Admits behaviour catalog before.joined.thread request answer done.thread catalog' ∧
      Enumerates behaviour.key done.table.items catalog' := by
  obtain ⟨answer, done, run, performed⟩ := perform_returns steady intact.sound free harmless
  have intact' : before.joined.table.Intact behaviour := intact
  obtain ⟨catalog', admits, enumerates'⟩ := performed.admits obeys intact' enumerates
  have identity : done.table.identity = before.table.identity := performed.identity
  exact ⟨answer, done, catalog', run, identity, performed.intact intact',
    Session.free_of_count identity free (admits.count discreet harmless.2), admits,
    enumerates'⟩

/-- Requests to a table that is free are answered as its catalog admits them. -/
theorem Request.performAll_follows
    (obeys : behaviour.Obeys laws)
    (steady : behaviour.Steady)
    (requests : List (Request σ ι α β))
    (discreet : behaviour.Discreet before.table.identity)
    (intact : before.table.Intact behaviour)
    (free : before.table.identity ∉ before.thread.roster)
    (enumerates : Enumerates behaviour.key before.table.items catalog)
    (harmless : ∀ request ∈ requests, request.Harmless before.table.identity) :
    ∃ answers after catalog',
      performAll behaviour requests before = .ok answers after ∧
      laws.Follows behaviour before.table.identity catalog before.thread requests answers
        after.thread catalog' ∧
      Enumerates behaviour.key after.table.items catalog' := by
  induction requests generalizing before catalog with
  | nil => exact ⟨[], before, catalog, rfl, .nil, enumerates⟩
  | cons request rest inductionHypothesis =>
      obtain ⟨answer, done, next, run, identity, intact', free', admits, enumerates'⟩ :=
        perform_admits obeys steady discreet intact free enumerates request
          (harmless request List.mem_cons_self)
      have identity' : done.leave.table.identity = before.table.identity := identity
      have left : done.leave.thread = { done.thread with
          roster := done.thread.roster.leave before.table.identity } := by
        rw [← identity]
        rfl
      obtain ⟨answers, after, last, runs, follows, shows⟩ := @inductionHypothesis done.leave
        next (identity'.symm ▸ discreet) intact' (identity'.symm ▸ free') enumerates'
          fun request member => identity'.symm ▸
            harmless request (List.mem_cons_of_mem _ member)
      refine ⟨answer :: answers, after, last, ?_, ?_, shows⟩
      · simp only [performAll, bind, EStateM.bind, run, runs, pure, EStateM.pure]
      · rw [identity', left] at follows
        exact .cons admits follows

/-- A new table answers any run of requests as a catalog does that has no entries
at first.  Copies and arrays may be refused at any time. -/
theorem runs_refine_catalog
    (obeys : behaviour.Obeys laws)
    (steady : behaviour.Steady)
    {identity : Nat}
    (discreet : behaviour.Discreet identity)
    {settings : Settings} {host : σ} {table : Table α}
    (created : (Table.create behaviour settings identity host).1 = .ok table)
    {thread : Thread σ}
    (free : identity ∉ thread.roster)
    (journal : List Event)
    (requests : List (Request σ ι α β))
    (harmless : ∀ request ∈ requests, request.Harmless identity) :
    ∃ answers after catalog,
      Request.performAll behaviour requests ⟨table, thread, journal⟩ = .ok answers after ∧
      laws.Follows behaviour identity ∅ thread requests answers after.thread catalog ∧
      Enumerates behaviour.key after.table.items catalog := by
  have intact := (Behaviour.Reachable.created settings identity host created).intact
  obtain ⟨_, rfl⟩ := Table.sound_of_create created
  have enumerates : Enumerates behaviour.key
      (Slot.contents (Slot.row α settings.initialCapacity)) (∅ : laws.Catalog α) := by
    rw [Slot.contents_row]
    exact Catalog.enumerates_empty
  exact Request.performAll_follows obeys steady requests
    discreet intact free enumerates harmless

/-- A run on numbers that stores, finds, removes and sieves them. -/
theorem run_of_numbers_refines_catalog :
    ∃ answers after catalog,
      Request.performAll (Laws.numbers 16).faithful
        ([.insert 3, .insert 20, .find 20, .remove 3, .retain fun number =>
          pure (number % 2 == 0)] : List (Request Unit Nat Nat Unit))
        ⟨{ identity := 0, settings := {}, slots := Slot.row Nat 17 }, { host := () }, []⟩ =
          .ok answers after ∧
      (Laws.numbers 16).Follows (Laws.numbers 16).faithful 0 ∅ { host := () }
        ([.insert 3, .insert 20, .find 20, .remove 3, .retain fun number =>
          pure (number % 2 == 0)] : List (Request Unit Nat Nat Unit))
        answers after.thread catalog ∧
      Enumerates id after.table.items catalog := by
  have created : (Table.create (Laws.numbers 16).faithful {} 0 ()).1 =
      .ok { identity := 0, settings := {}, slots := Slot.row Nat 17 } := rfl
  refine runs_refine_catalog (Laws.faithful_obeys _) (Laws.faithful_steady _)
    (Laws.faithful_discreet _ 0) created (by decide) [] _ ?_
  intro request member
  simp only [List.mem_cons, List.not_mem_nil, or_false] at member
  rcases member with rfl | rfl | rfl | rfl | rfl
  · exact ⟨fun _ => id, trivial⟩
  · exact ⟨fun _ => id, trivial⟩
  · exact ⟨fun _ => id, trivial⟩
  · exact ⟨fun _ => id, trivial⟩
  · refine ⟨fun abort raises => ?_, fun _ => .of_pure 0 _⟩
    obtain ⟨_, cut⟩ := raises
    exact Laws.not_cutBy_pure _ _ cut

end OpenAddressing
