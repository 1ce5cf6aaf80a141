import OpenAddressing.Proofs.Enduring
import OpenAddressing.Proofs.Refinement

/-!
# What survives an abort

A lawful behaviour may raise an abort at any call.  A request that is cut short
has then done nothing to the stored copies, except that a removal may have got
as far as the release of its copy, and a retention loses the copies that were
rejected before.  A run of requests can go on from there after any number of
aborts.
-/

namespace OpenAddressing

open Relocation (slotAt)
open Laws (Catalog)
open Laws.Catalog (Enumerates)

variable {σ ι α β : Type} {behaviour : Behaviour σ ι α} {laws : Laws ι}
variable {before after : Session σ α}

/-! ## One request that is cut short -/

namespace Laws

/-- What becomes of a catalog by a request that is cut short, and what the foreign
functions were called for before. -/
inductive AdmitsUntil
    (laws : Laws ι)
    (behaviour : Behaviour σ ι α)
    (catalog : laws.Catalog α)
    (before : Thread σ) :
    Request σ ι α β → Thread σ → laws.Catalog α → Prop
  /-- Nothing is stored when a question is cut short. -/
  | insertAsking {item : ι} {after : Thread σ}
      (consults : behaviour.Consults before after) :
      AdmitsUntil laws behaviour catalog before (.insert item) after catalog
  /-- Nothing is stored when the making of a copy is cut short. -/
  | insertCopying {item : ι} {ready after : Thread σ} {abort : Abort}
      (absent : catalog.lookup (laws.kind item) = none)
      (consults : behaviour.Consults before ready)
      (raised : behaviour.duplicate item ready = .error abort after) :
      AdmitsUntil laws behaviour catalog before (.insert item) after catalog
  | find {item : ι} {after : Thread σ}
      (consults : behaviour.Consults before after) :
      AdmitsUntil laws behaviour catalog before (.find item) after catalog
  | findWithAsking {item : ι} {use : α → Call σ β} {after : Thread σ}
      (consults : behaviour.Consults before after) :
      AdmitsUntil laws behaviour catalog before (.findWith item use) after catalog
  | findWithUsing {item : ι} {use : α → Call σ β} {copy : α} {ready after : Thread σ}
      {abort : Abort}
      (stored : catalog.lookup (laws.kind item) = some copy)
      (consults : behaviour.Consults before ready)
      (raised : use copy ready = .error abort after) :
      AdmitsUntil laws behaviour catalog before (.findWith item use) after catalog
  | contains {item : ι} {after : Thread σ}
      (consults : behaviour.Consults before after) :
      AdmitsUntil laws behaviour catalog before (.contains item) after catalog
  /-- Nothing is removed when a question is cut short. -/
  | removeAsking {item : ι} {after : Thread σ}
      (consults : behaviour.Consults before after) :
      AdmitsUntil laws behaviour catalog before (.remove item) after catalog
  /-- The stored copy is gone when its release is cut short. -/
  | removeReleasing {item : ι} {copy : α} {ready after : Thread σ} {abort : Abort}
      (stored : catalog.lookup (laws.kind item) = some copy)
      (consults : behaviour.Consults before ready)
      (raised : behaviour.release copy ready = .error abort after) :
      AdmitsUntil laws behaviour catalog before (.remove item) after
        (catalog.erase (laws.kind item))
  /-- What was rejected is gone, and everything else is left. -/
  | retain {keep : α → Call σ Bool} {stored left : List α} {after : Thread σ}
      {rest : laws.Catalog α}
      (enumerates : Enumerates behaviour.key stored catalog)
      (sieves : Table.SievesUntil behaviour keep before stored left after)
      (remains : Enumerates behaviour.key left rest) :
      AdmitsUntil laws behaviour catalog before (.retain keep) after rest
  | walk {visitor : α → Call σ (Option β)} {copies : List α} {abort : Abort}
      {after : Thread σ}
      (enumerates : Enumerates behaviour.key copies catalog)
      (visited : Table.visit visitor copies before = .error abort after) :
      AdmitsUntil laws behaviour catalog before (.walk visitor) after catalog
  | footprint {copies : List α} {abort : Abort} {after : Thread σ}
      (enumerates : Enumerates behaviour.key copies catalog)
      (summed : Table.heapBytes behaviour copies before = .error abort after) :
      AdmitsUntil laws behaviour catalog before .footprint after catalog

end Laws

variable {catalog : laws.Catalog α}

/-- The catalog of a table admits every request that is cut short. -/
theorem Request.PerformedUntil.admits
    {request : Request σ ι α β}
    (performed : PerformedUntil behaviour before request after)
    (obeys : behaviour.Obeys laws)
    (intact : before.table.Intact behaviour)
    (enumerates : Enumerates behaviour.key before.table.items catalog) :
    ∃ catalog',
      laws.AdmitsUntil behaviour catalog before.thread request after.thread catalog' ∧
      Enumerates behaviour.key after.table.items catalog' := by
  have arranged := intact.arranged obeys
  have asked : ∀ {session : Session σ α}, before.Searched behaviour session →
      behaviour.Consults before.thread session.thread ∧
        Enumerates behaviour.key session.table.items catalog := by
    intro session searched
    have preserves : before.Preserves behaviour session := searched.preserves
    exact ⟨preserves.consults, enumerates.perm preserves.items⟩
  cases performed with
  | insert inserted =>
      cases inserted with
      | preparing prepared =>
          have preserves : before.Preserves behaviour after := prepared.preserves
          exact ⟨catalog, .insertAsking preserves.consults, enumerates.perm preserves.items⟩
      | @duplicating index ready abort thread prepared raised =>
          have preserves : before.Preserves behaviour ready := prepared.preserves
          have enumerates' := enumerates.perm preserves.items
          have absent := enumerates'.lookup_of_not_found obeys
            (preserves.arranged obeys arranged) prepared.locates (by simp)
          exact ⟨catalog, .insertCopying absent preserves.consults raised, enumerates'⟩
  | find searched =>
      obtain ⟨consults, enumerates'⟩ := asked searched
      exact ⟨catalog, .find consults, enumerates'⟩
  | findWith used =>
      cases used with
      | searching searched =>
          obtain ⟨consults, enumerates'⟩ := asked searched
          exact ⟨catalog, .findWithAsking consults, enumerates'⟩
      | during lookedUp raised =>
          have stored := enumerates.lookup_of_lookedUp obeys arranged lookedUp
          obtain ⟨consults, enumerates'⟩ := asked lookedUp.searched
          exact ⟨catalog, .findWithUsing stored consults raised, enumerates'⟩
  | contains searched =>
      obtain ⟨consults, enumerates'⟩ := asked searched
      exact ⟨catalog, .contains consults, enumerates'⟩
  | remove removed =>
      cases removed with
      | searching searched =>
          obtain ⟨consults, enumerates'⟩ := asked searched
          exact ⟨catalog, .removeAsking consults, enumerates'⟩
      | @releasing index copy ready abort thread lookedUp raised =>
          have stored := enumerates.lookup_of_lookedUp obeys arranged lookedUp
          obtain ⟨consults, enumerates'⟩ := asked lookedUp.searched
          refine ⟨catalog.erase _, .removeReleasing stored consults raised, ?_⟩
          have equal := (enumerates.lookup_iff.mp stored).2
          have leaves := Table.items_buried lookedUp.stored
          unfold Table.unlinked
          rw [Session.traced_table]
          exact (enumerates'.perm leaves.symm).erase equal
  | retain retained =>
      have sieves := retained.sieves
      obtain ⟨rest, remains⟩ := enumerates.exists_sublist sieves.sublist
      exact ⟨rest, .retain enumerates sieves remains, remains⟩
  | walk visited => exact ⟨catalog, .walk enumerates visited, enumerates⟩
  | footprint summed => exact ⟨catalog, .footprint enumerates summed, enumerates⟩

section Discretion

variable {identity : Nat}

/-- If all foreign code is discreet, a table is on the roster as often after a
request that is cut short as before. -/
theorem Laws.AdmitsUntil.count
    {catalog' : laws.Catalog α} {request : Request σ ι α β} {before after : Thread σ}
    (admits : laws.AdmitsUntil behaviour catalog before request after catalog')
    (discreet : behaviour.Discreet identity)
    (quiet : request.Discreet identity) :
    after.roster.count identity = before.roster.count identity := by
  cases admits with
  | insertAsking consults => exact discreet.count_of_consults consults
  | insertCopying _ consults raised =>
      exact (Keeps.of_error (discreet.duplicate _) raised).trans
        (discreet.count_of_consults consults)
  | find consults => exact discreet.count_of_consults consults
  | findWithAsking consults => exact discreet.count_of_consults consults
  | findWithUsing _ consults raised =>
      exact (Keeps.of_error (quiet _) raised).trans (discreet.count_of_consults consults)
  | contains consults => exact discreet.count_of_consults consults
  | removeAsking consults => exact discreet.count_of_consults consults
  | removeReleasing _ consults raised =>
      exact (Keeps.of_error (discreet.release _) raised).trans
        (discreet.count_of_consults consults)
  | retain _ sieves =>
      cases sieves with
      | asking sieves raised =>
          exact (Keeps.of_error (quiet _) raised).trans (sieves.count discreet quiet)
      | releasing sieves rejects raised =>
          exact (Keeps.of_error (discreet.release _) raised).trans
            (((quiet _).of_ok rejects).trans (sieves.count discreet quiet))
  | walk _ visited => exact (Table.keeps_visit quiet _).of_error visited
  | footprint _ summed => exact (Table.keeps_heapBytes discreet.heapBytes _).of_error summed

end Discretion

/-! ## Runs that go on -/

/-- A catalog admits requests one after the other, some of which are cut short by
foreign code.  Before each the table joins the roster, and after it the table
leaves. -/
inductive Laws.Endures
    (laws : Laws ι)
    (behaviour : Behaviour σ ι α)
    (identity : Nat) :
    laws.Catalog α → Thread σ → List (Request σ ι α β) → List (Except Abort (Answer ι α β)) →
      Thread σ → laws.Catalog α → Prop
  | nil {catalog : laws.Catalog α} {thread : Thread σ} :
      Endures laws behaviour identity catalog thread [] [] thread catalog
  | answered {catalog next last : laws.Catalog α} {before done after : Thread σ}
      {request : Request σ ι α β} {answer : Answer ι α β}
      {requests : List (Request σ ι α β)} {outcomes : List (Except Abort (Answer ι α β))}
      (admits : laws.Admits behaviour catalog
        { before with roster := before.roster.join identity } request answer done next)
      (endures : Endures laws behaviour identity next
        { done with roster := done.roster.leave identity } requests outcomes after last) :
      Endures laws behaviour identity catalog before (request :: requests)
        (.ok answer :: outcomes) after last
  | aborted {catalog next last : laws.Catalog α} {before done after : Thread σ}
      {request : Request σ ι α β} {abort : Abort}
      {requests : List (Request σ ι α β)} {outcomes : List (Except Abort (Answer ι α β))}
      (raises : behaviour.Raises abort ∨ request.Raises abort)
      (admits : laws.AdmitsUntil behaviour catalog
        { before with roster := before.roster.join identity } request done next)
      (endures : Endures laws behaviour identity next
        { done with roster := done.roster.leave identity } requests outcomes after last) :
      Endures laws behaviour identity catalog before (request :: requests)
        (.error abort :: outcomes) after last

/-- The table of a session is free, and its items are the entries of a catalog. -/
structure Session.Offers
    (laws : Laws ι)
    (behaviour : Behaviour σ ι α)
    (catalog : laws.Catalog α)
    (session : Session σ α) : Prop where
  /-- The table is not on the roster. -/
  free : session.table.identity ∉ session.thread.roster
  /-- The table is intact. -/
  intact : session.table.Intact behaviour
  /-- The items are the entries of the catalog. -/
  enumerates : Enumerates behaviour.key session.table.items catalog

/-- A request is performed on one table, also if it is cut short. -/
theorem Request.PerformedUntil.identity
    {request : Request σ ι α β}
    (performed : PerformedUntil behaviour before request after) :
    after.table.identity = before.table.identity := by
  cases performed with
  | insert inserted =>
      cases inserted with
      | preparing prepared => exact prepared.preserves.identity
      | duplicating prepared => exact prepared.preserves.identity
  | find searched => exact searched.identity
  | findWith used =>
      cases used with
      | searching searched => exact searched.identity
      | during lookedUp => exact lookedUp.searched.identity
  | contains searched => exact searched.identity
  | remove removed =>
      cases removed with
      | searching searched => exact searched.identity
      | releasing lookedUp =>
          unfold Table.unlinked
          rw [Session.traced_table]
          exact lookedUp.searched.identity
  | retain retained =>
      cases retained with
      | asking retained => exact retained.identity
      | releasing retained => exact retained.identity
  | walk => rfl
  | footprint => rfl

/-- When the table has left the roster, it offers what a request has left of its
items. -/
theorem Session.Offers.leave
    {next : laws.Catalog α}
    (offers : before.Offers laws behaviour catalog)
    (same : after.table.identity = before.table.identity)
    (count : after.thread.roster.count before.table.identity =
      before.joined.thread.roster.count before.table.identity)
    (intact : after.table.Intact behaviour)
    (enumerates : Enumerates behaviour.key after.table.items next) :
    after.leave.thread =
        { after.thread with roster := after.thread.roster.leave before.table.identity } ∧
      after.leave.table.identity = before.table.identity ∧
      after.leave.Offers laws behaviour next := by
  have free := Session.free_of_count same offers.free count
  refine ⟨?_, same, ?_, intact, enumerates⟩
  · rw [← same]
    rfl
  · rwa [← same] at free

/-- The catalog of a free table admits a request, however it ends, and the table is
free again. -/
theorem Session.Offers.perform_leads
    (offers : before.Offers laws behaviour catalog)
    (obeys : behaviour.Obeys laws)
    (discreet : behaviour.Discreet before.table.identity)
    (request : Request σ ι α β)
    (quiet : request.Discreet before.table.identity) :
    Leads (request.perform behaviour) before
      (fun answer after => ∃ done next,
        laws.Admits behaviour catalog before.joined.thread request answer done next ∧
        after.thread = { done with roster := done.roster.leave before.table.identity } ∧
        after.table.identity = before.table.identity ∧
        after.Offers laws behaviour next)
      (fun abort after => (behaviour.Raises abort ∨ request.Raises abort) ∧ ∃ done next,
        laws.AdmitsUntil behaviour catalog before.joined.thread request done next ∧
        after.thread = { done with roster := done.roster.leave before.table.identity } ∧
        after.table.identity = before.table.identity ∧
        after.Offers laws behaviour next) := by
  have intact : before.joined.table.Intact behaviour := offers.intact
  have enumerates : Enumerates behaviour.key before.joined.table.items catalog :=
    offers.enumerates
  have leads : Leads (request.perform behaviour) before _ _ :=
    Request.perform_leads offers.intact.sound offers.free request
  refine leads.mono ?_ ?_
  · rintro answer _ ⟨done, performed, rfl⟩
    obtain ⟨next, admits, enumerates'⟩ := performed.admits obeys intact enumerates
    exact ⟨done.thread, next, admits, offers.leave performed.identity
      (admits.count discreet quiet) (performed.intact intact) enumerates'⟩
  · rintro abort _ ⟨raises, done, performed, rfl⟩
    obtain ⟨next, admits, enumerates'⟩ := performed.admits obeys intact enumerates
    exact ⟨raises, done.thread, next, admits, offers.leave performed.identity
      (admits.count discreet quiet) (performed.intact intact) enumerates'⟩

/-- A run of requests to a free table goes on as its catalog admits it. -/
theorem Session.Offers.performEach_endures
    {identity : Nat}
    (offers : before.Offers laws behaviour catalog)
    (same : before.table.identity = identity)
    (obeys : behaviour.Obeys laws)
    (discreet : behaviour.Discreet identity)
    (requests : List (Request σ ι α β))
    (quiet : ∀ request ∈ requests, request.Discreet identity) :
    ∃ outcomes after last,
      Request.performEach behaviour requests before = (outcomes, after) ∧
      laws.Endures behaviour identity catalog before.thread requests outcomes after.thread
        last ∧
      Enumerates behaviour.key after.table.items last := by
  induction requests generalizing before catalog with
  | nil => exact ⟨[], before, catalog, rfl, .nil, offers.enumerates⟩
  | cons request rest inductionHypothesis =>
      subst same
      have first := quiet request List.mem_cons_self
      have others : ∀ request ∈ rest, request.Discreet before.table.identity :=
        fun request member => quiet request (List.mem_cons_of_mem _ member)
      have leads : Leads (request.perform behaviour) before _ _ :=
        offers.perform_leads obeys discreet request first
      unfold Request.performEach
      cases run : request.perform behaviour before with
      | ok answer middle =>
          obtain ⟨done, next, admits, left, same, offers'⟩ := leads.of_ok run
          obtain ⟨outcomes, after, last, runs, endures, shows⟩ :=
            inductionHypothesis offers' same others
          rw [left] at endures
          simp only [runs]
          exact ⟨_, after, last, rfl, .answered admits endures, shows⟩
      | error abort middle =>
          obtain ⟨raises, done, next, admits, left, same, offers'⟩ := leads.of_error run
          obtain ⟨outcomes, after, last, runs, endures, shows⟩ :=
            inductionHypothesis offers' same others
          rw [left] at endures
          simp only [runs]
          exact ⟨_, after, last, rfl, .aborted raises admits endures, shows⟩

end OpenAddressing
