import OpenAddressing.Proofs.Annotating.Histories
import OpenAddressing.Proofs.Probe.Walking

/-!
# Metering

A meter beside the host counts what the tally of a table does not tell apart: the
primary hashes that were computed, and the slots that were looked at, each as it is done.
Every search begins with a primary hash and takes one stride less than it looks at
slots, so by the tally the slots less the strides are the hashes.  The balance is kept by
every search, also if it is cut short, and so by lookups, by both searches of an
insertion, and by the searches of a reorganization that is given up midway.
-/

namespace OpenAddressing

open Relocation (slotAt)
open Probe (Counting Purpose Tally Terrain Trail)

/-- What is counted beside a tally. -/
@[ext] structure Meter where
  /-- The primary hashes computed. -/
  hashes : Nat := 0
  /-- The slots looked at. -/
  looks : Nat := 0
deriving DecidableEq

namespace Meter

/-- Counts one more primary hash. -/
def hash (meter : Meter) : Meter :=
  { meter with hashes := meter.hashes + 1 }

/-- Counts more slots. -/
def look (meter : Meter) (count : Nat) : Meter :=
  { meter with looks := meter.looks + count }

/-- A tally counts the slots that the meter counts, and the strides fall short of them
by the primary hashes. -/
structure Agrees (meter : Meter) (tally : Tally) : Prop where
  /-- The slots are counted by both. -/
  looks : tally.probes = .ofNat meter.looks
  /-- Each primary hash stands for a slot without a stride to it. -/
  hashes : tally.probes = tally.misses + .ofNat meter.hashes

namespace Agrees

variable {meter : Meter} {tally : Tally}

theorem blank : ({} : Meter).Agrees {} where
  looks := rfl
  hashes := rfl

/-- The slots less the strides are the primary hashes. -/
theorem probes_sub_misses (agrees : meter.Agrees tally) :
    tally.probes - tally.misses = .ofNat meter.hashes := by
  rw [agrees.hashes, UInt64.add_comm, UInt64.add_sub_cancel]

/-- A search computes one primary hash and takes one stride less than it looks at
slots. -/
theorem search
    (agrees : meter.Agrees tally)
    {count : Nat}
    (positive : 0 < count) :
    (meter.hash.look count).Agrees (tally.add count (count - 1)) where
  looks := by
    change tally.probes + .ofNat count = .ofNat (meter.looks + count)
    rw [agrees.looks, UInt64.ofNat_add]
  hashes := by
    change tally.probes + .ofNat count =
      tally.misses + .ofNat (count - 1) + .ofNat (meter.hashes + 1)
    have split : UInt64.ofNat count = .ofNat (count - 1) + .ofNat 1 := by
      rw [← UInt64.ofNat_add, Nat.sub_add_cancel positive]
    rw [agrees.hashes, split, UInt64.ofNat_add]
    ac_rfl

end Agrees
end Meter

variable {σ ι α β : Type}

/-! ## Metered searches -/

/-- The terrain with each look at a slot counted. -/
def Probe.Terrain.metered (terrain : Terrain (Thread (Annotated σ Meter))) :
    Terrain (Thread (Annotated σ Meter)) where
  capacity := terrain.capacity
  rehash := terrain.rehash
  visit index := do
    Call.note fun meter => ((), meter.look 1)
    terrain.visit index

/-- The behaviour with each primary hash counted that is computed. -/
def Behaviour.metered (behaviour : Behaviour σ ι α) : Behaviour (Annotated σ Meter) ι α :=
  { behaviour.annotated with
    hash := fun item => do
      let hash ← (behaviour.hash item).annotated
      Call.note fun meter => (hash, meter.hash) }

/-- The means of a behaviour with primary hashes and looks counted. -/
def Behaviour.metering (behaviour : Behaviour σ ι α) :
    Table.Survey (Annotated σ Meter) ι α where
  behaviour := behaviour.metered
  terrain item slots := (Table.terrain behaviour.metered item slots).metered

/-- Without the meter, a terrain is what it was. -/
theorem Probe.Terrain.Mirrored.metered
    {terrain : Terrain (Thread (Annotated σ Meter))} {other : Terrain (Thread σ)}
    (mirrored : terrain.Mirrored (Thread.map Annotated.host) other) :
    terrain.metered.Mirrored (Thread.map Annotated.host) other where
  capacity := mirrored.capacity
  rehash := mirrored.rehash
  visit index := by
    intro thread
    exact mirrored.visit index (thread.plain.annotate (thread.notes.look 1))

namespace Behaviour

/-- Without the meter, a behaviour is what it was. -/
theorem metered_mirrored (behaviour : Behaviour σ ι α) :
    behaviour.metered.Mirrored Annotated.host id behaviour :=
  { behaviour.annotated_mirrored with
    hash := by
      intro item thread
      change behaviour.hash item thread.plain = _
      simp only [metered, bind, EStateM.bind, Call.annotated]
      cases behaviour.hash item thread.plain <;> rfl }

/-- The meter changes nothing but itself. -/
theorem metering_notes (behaviour : Behaviour σ ι α) :
    behaviour.metering.means.Notes behaviour := by
  have mirrored : behaviour.metering.Mirrored Annotated.host id behaviour.survey :=
    { behaviour := behaviour.metered_mirrored
      terrain := fun item slots => by
        have same := Table.mirrored_terrain behaviour.metered_mirrored item slots
        exact same.metered }
  exact mirrored.means

end Behaviour

/-! ## What a search counts -/

/-- A metered search looks at some slots and takes one stride less, however it ends. -/
theorem Probe.Terrain.metered_search_leads
    {terrain : Terrain (Thread (Annotated σ Meter))}
    {thread : Thread (Annotated σ Meter)}
    (rehash : Keeps Thread.notes terrain.rehash)
    (visit : ∀ index, Keeps Thread.notes (terrain.visit index))
    (positive : 0 < terrain.capacity)
    (small : 2 * terrain.capacity ≤ UInt64.size)
    (purpose : Purpose)
    (hash : UInt64)
    (tally : Tally) :
    let counted : Tally × Thread (Annotated σ Meter) → Prop := fun after =>
      ∃ count, 0 < count ∧ after.1 = tally.add count (count - 1) ∧
        after.2.notes = thread.notes.look count
    Leads (terrain.metered.search purpose hash) (tally, thread)
      (fun _ after => counted after)
      (fun _ after => counted after) := by
  intro counted
  -- The looks that the meter has counted are those on the trail of the search.
  let tracked : Trail → Thread (Annotated σ Meter) → Prop := fun trail state =>
    state.notes = thread.notes.look trail.visited.length
  have watched : terrain.metered.Watched tracked (fun _ _ => True) (fun _ => True)
      fun _ => True :=
    { visit := by
        intro index _ trail state counted
        have counts : ∀ after : Thread (Annotated σ Meter),
            after.notes = state.notes.look 1 → tracked (trail.visit index) after := by
          intro after same
          refine same.trans ?_
          rw [show state.notes = _ from counted]
          rfl
        change Leads (terrain.visit index) (state.plain.annotate (state.notes.look 1)) _ _
        refine ((visit index).leads _).mono ?_ ?_
        · exact fun sighting after same => ⟨trivial, counts after same⟩
        · exact fun abort after same => ⟨trivial, counts after same⟩
      rehash := by
        intro trail state counted
        refine (rehash.leads state).mono ?_ ?_
        · exact fun hash after same => ⟨trivial, same.trans counted⟩
        · exact fun abort after same => ⟨trivial, same.trans counted⟩
      overflow := fun _ => trivial }
  refine (watched.search_leads purpose hash tally rfl).mono ?_ ?_
  · rintro outcome after ⟨rehash, steps, _, _, isTally, isMeter⟩
    refine ⟨examined terrain.capacity steps, examined_pos positive, isTally,
      isMeter.trans ?_⟩
    simp [metered]
  · rintro abort after ⟨rehash, steps, count, misses, asks, bounds, _, _, fewer, isTally,
      isMeter⟩
    rw [fewer small] at isTally
    refine ⟨count, bounds.1, isTally, isMeter.trans ?_⟩
    simp

/-- The meter agrees with the tally and has come at least so far. -/
def Thread.Gauged (least : Nat) (tally : Tally) (thread : Thread (Annotated σ Meter)) : Prop :=
  thread.notes.Agrees tally ∧ least ≤ thread.notes.looks

namespace Behaviour

variable {behaviour : Behaviour σ ι α} {thread thread' : Thread (Annotated σ Meter)}
variable {tally : Tally} {least : Nat}

/-- A primary hash is counted once it is computed. -/
theorem metered_hash_leads (item : ι) :
    Leads (behaviour.metered.hash item) thread
      (fun _ after => after.notes = thread.notes.hash)
      (fun _ after => after.notes = thread.notes) := by
  simp only [metered, leads_bind, Call.leads_annotated, Call.leads_note]
  exact (leads_self _ _).mono (fun _ _ _ => rfl) fun _ _ _ => rfl

/-- A look at a slot leaves the meter alone, apart from the count of the look itself. -/
theorem keeps_notes_visit (item : ι) (slots : Array (Slot α)) (index : Nat) :
    Keeps Thread.notes ((Table.terrain behaviour.metered item slots).visit index) := by
  unfold Table.terrain
  simp only
  cases slots[index]? with
  | none => exact .of_leads fun _ => rfl
  | some slot =>
      cases slot with
      | empty => exact .of_pure _ _
      | tombstone => exact .of_pure _ _
      | occupied stored => exact (Call.keeps_notes_annotated _).map _

/-- After a primary hash and the search that it begins, the meter agrees with the tally
as before. -/
theorem metering_search_leads
    {slots : Array (Slot α)}
    (positive : 0 < slots.size)
    (small : 2 * slots.size ≤ UInt64.size)
    (gauged : thread.Gauged least tally)
    (hashed : thread'.notes = thread.notes.hash)
    (item : ι)
    (purpose : Purpose)
    (hash : UInt64) :
    Leads ((behaviour.metering.terrain item slots).search purpose hash) (tally, thread')
      (fun _ after => after.2.Gauged least after.1)
      (fun _ after => after.2.Gauged least after.1) := by
  have settled : ∀ after : Tally × Thread (Annotated σ Meter),
      (∃ count, 0 < count ∧ after.1 = tally.add count (count - 1) ∧
        after.2.notes = thread'.notes.look count) → after.2.Gauged least after.1 := by
    rintro ⟨_, after⟩ ⟨count, positive, rfl, isMeter⟩
    rw [hashed] at isMeter
    refine ⟨?_, ?_⟩
    · rw [isMeter]
      exact gauged.1.search positive
    · rw [isMeter]
      exact gauged.2.trans (Nat.le_add_right _ count)
  refine (Probe.Terrain.metered_search_leads (Call.keeps_notes_annotated _)
    (keeps_notes_visit item slots) positive small purpose hash tally).mono ?_ ?_
  · exact fun outcome after => settled after
  · exact fun abort after => settled after

end Behaviour

/-! ## What a table counts -/

/-- The meter beside the host agrees with the tally of the table. -/
def Session.Gauged (least : Nat) (session : Session (Annotated σ Meter) α) : Prop :=
  session.thread.Gauged least session.table.tally

/-- A question about memory leaves the meter alone. -/
theorem Session.Gauged.asked
    {least : Nat} {session : Session (Annotated σ Meter) α} {host : Annotated σ Meter}
    (gauged : session.Gauged least)
    (same : host.notes = session.thread.host.notes) :
    ({ session with thread := { session.thread with host } }).Gauged least := by
  unfold Session.Gauged Thread.Gauged Thread.notes
  rw [same]
  exact gauged

/-- The meter agrees with the tally while items are on their way to an array that has
slots, and not too many. -/
structure Relocation.Gauged (least : Nat) (relocation : Relocation (Annotated σ Meter) α) :
    Prop where
  /-- The array has slots. -/
  positive : 0 < relocation.target.size
  /-- The sum of a slot number and a stride is a machine word. -/
  small : 2 * relocation.target.size ≤ UInt64.size
  /-- The meter agrees with the tally. -/
  gauged : relocation.thread.Gauged least relocation.tally

/-- A move changes neither the meter nor the number of slots. -/
theorem Relocation.upholds_gauged_move
    {least : Nat}
    (item : α)
    (origin destination : Nat) :
    Upholds (Gauged least) (move item origin destination : Step (Annotated σ Meter) α Unit) := by
  rintro ⟨source, target, moves, room, tally, thread⟩ start
  unfold Leads move
  by_cases outside : target.size ≤ destination
  · simp only [if_pos outside]
    exact start
  · simp only [if_neg outside]
    cases room with
    | zero => exact start
    | succ room =>
        have size : (target.setIfInBounds destination (.occupied item)).size = target.size :=
          Array.size_setIfInBounds
        exact ⟨size ▸ start.positive, size ▸ start.small, start.gauged⟩

namespace Behaviour

variable {behaviour : Behaviour σ ι α} {session : Session (Annotated σ Meter) α} {least : Nat}

theorem metering_locate_leads
    (sound : session.table.Sound)
    (gauged : session.Gauged least)
    (purpose : Purpose)
    (item : ι) :
    Leads (behaviour.metering.locate purpose item) session
      (fun _ after => after.Gauged least)
      (fun _ after => after.Gauged least) := by
  have positive : 0 < session.table.capacity := Nat.lt_of_lt_of_le (by decide) sound.large
  unfold Table.Survey.locate
  simp only [leads_bind, Action.leads_call, Action.leads_searching]
  refine (metered_hash_leads item).mono ?_ ?_
  · intro hash thread hashed
    exact metering_search_leads positive sound.small gauged hashed item purpose hash
  · intro abort thread same
    unfold Session.Gauged Thread.Gauged
    rwa [same]

theorem upholds_metering_place (origin : Nat) :
    Upholds (Relocation.Gauged least) (behaviour.metering.place origin) := by
  intro relocation start
  simp only [Table.Survey.place, leads_bind, leads_get]
  cases slotAt relocation.source origin with
  | empty => exact start
  | tombstone => exact start
  | occupied item =>
      simp only [leads_bind, Relocation.leads_call, Relocation.leads_searching]
      refine (metered_hash_leads _).mono ?_ ?_
      · intro hash thread hashed
        refine (metering_search_leads start.positive start.small start.gauged hashed _ .insert
          hash).mono ?_ ?_
        · intro outcome after gauged
          cases outcome with
          | found index => exact ⟨start.positive, start.small, gauged⟩
          | missing => exact ⟨start.positive, start.small, gauged⟩
          | vacant destination =>
              exact Relocation.upholds_gauged_move item origin destination _
                ⟨start.positive, start.small, gauged⟩
        · intro abort after gauged
          exact ⟨start.positive, start.small, gauged⟩
      · intro abort thread same
        refine ⟨start.positive, start.small, ?_⟩
        unfold Thread.Gauged
        rw [same]
        exact start.gauged

/-- Whatever comes of a relocation, its searches are counted by both. -/
theorem metering_relocate_leads
    {target : Array (Slot α)}
    (positive : 0 < target.size)
    (small : 2 * target.size ≤ UInt64.size)
    (gauged : session.Gauged least)
    (live : Nat)
    (reclaim : Bool) :
    Leads (behaviour.metering.relocate target live reclaim) session
      (fun _ after => after.Gauged least)
      (fun _ after => after.Gauged least) := by
  obtain ⟨table, thread, journal⟩ := session
  have placeAll : Upholds (Relocation.Gauged least)
      (behaviour.metering.placeAll : Relocation.Step _ α _) :=
    (Upholds.of_get _).bind fun relocation =>
      Upholds.forM fun origin _ => upholds_metering_place origin
  unfold Leads Table.Survey.relocate
  simp only
  generalize run : behaviour.metering.placeAll _ = ending
  cases ending with
  | error abort relocation =>
      exact (placeAll.passes (Or.inr ⟨abort, run⟩) ⟨positive, small, gauged⟩).gauged
  | ok value relocation =>
      have held := placeAll.passes (Or.inl ⟨value, run⟩) ⟨positive, small, gauged⟩
      unfold Table.conclude
      by_cases all : relocation.moves.length = live
      · simp only [if_pos all]
        exact held.gauged
      · simp only [if_neg all]
        exact held.gauged

theorem metering_reorganize_leads
    (sound : session.table.Sound)
    (gauged : session.Gauged least)
    (grow : Bool) :
    Leads (behaviour.metering.reorganize grow) session
      (fun _ after => after.Gauged least)
      (fun _ after => after.Gauged least) := by
  unfold Table.Survey.reorganize
  simp only [leads_bind, Action.leads_inspect, sound.leads_live, id]
  cases aimed : session.table.target? (session.table.reclaims session.table.items.length grow) with
  | none => exact gauged
  | some capacity =>
      simp only [leads_bind, Action.leads_onHost]
      have askedSlots := gauged.asked (behaviour.metered.notes_slots (fun _ _ => rfl) capacity
        session.thread.host)
      have positive : 0 < capacity := Nat.lt_of_lt_of_le (by decide)
        (sound.room_of_target? aimed).1
      cases granted : (behaviour.metering.behaviour.slots capacity session.thread.host).1 with
      | none => exact askedSlots
      | some target =>
          obtain ⟨rfl, addressable⟩ := Behaviour.slots_eq_some granted
          have small := Slot.two_mul_le_of_addressable behaviour.slotBytes_pos addressable
          have askedLog := askedSlots.asked (behaviour.metered.notes_moveLog (fun _ _ => rfl)
            session.table.items.length _)
          simp only [leads_bind, Action.leads_onHost]
          split
          · refine metering_relocate_leads ?_ ?_ askedLog _ _
            · rwa [Slot.size_row]
            · rwa [Slot.size_row]
          · exact askedLog

end Behaviour

/-- What the meter says depends on the tally and the notes alone. -/
theorem Session.gauged_onNotes (least : Nat) :
    Session.OnNotes (Session.Gauged least : Session (Annotated σ Meter) α → Prop) := by
  intro session thread same gauged
  unfold Gauged Thread.Gauged
  rwa [same]

/-- By metered means, every operation keeps the meter in agreement with the tally. -/
theorem Behaviour.metering_upholds (behaviour : Behaviour σ ι α) (least : Nat) :
    behaviour.metering.means.Upholds
      (fun session => session.table.Sound ∧ session.Gauged least) (Session.Gauged least) where
  locate purpose item := by
    rintro session ⟨sound, gauged⟩
    have sound' := behaviour.metering_notes.locate_sound purpose item session sound
    exact sound'.and (metering_locate_leads sound gauged purpose item)
  reorganize grow := by
    rintro session ⟨sound, gauged⟩
    have sound' := behaviour.metering_notes.reorganize_sound grow session sound
    exact sound'.and (metering_reorganize_leads sound gauged grow)
  holds_of_ready _ ready := ready.2
  robust :=
    { alter := by
        intro session table _ same gauged
        unfold Session.Gauged
        rwa [same]
      report := fun _ gauged => gauged }
  duplicate item := (Session.gauged_onNotes least).annotated _
  release copy := (Session.gauged_onNotes least).annotated _
  heapBytes copy := (Session.gauged_onNotes least).annotated _

/-- After every operation, the meter agrees with the tally. -/
theorem Table.Means.History.gauged
    {behaviour : Behaviour σ ι α} {session : Session (Annotated σ Meter) α}
    (history : behaviour.metering.means.History {} session) :
    session.Gauged 0 := by
  induction history with
  | created _ _ _ _ _ created =>
      obtain ⟨_, rfl⟩ := Table.sound_of_create created
      exact ⟨.blank, Nat.le_refl 0⟩
  | performed _ history run inductionHypothesis =>
      have sound := (history.reachable behaviour.metering_notes).intact.sound
      exact (behaviour.metering_upholds 0).of_passes (Session.gauged_onNotes 0) sound
        inductionHypothesis run
  | meanwhile _ _ _ inductionHypothesis => exact inductionHypothesis

/-- A meter that counts primary hashes as they are computed and slots as they are looked
at changes nothing else, and every reachable table has a history with a meter.  At any
time between operations, whether they returned or were cut short, the probes of the
tally less the misses are the primary hashes computed so far, in machine words.  Each
operation adds to the probes the slots that its searches looked at. -/
theorem tally_accounts_for_searches (behaviour : Behaviour σ ι α) :
    (∀ {β : Type} (request : Request σ ι α β),
      Mirrors Session.plain id (behaviour.metering.means.perform request.annotated)
        (request.perform behaviour)) ∧
    (∀ table, (∃ session, behaviour.metering.means.History {} session ∧ session.table = table) ↔
      behaviour.Reachable table) ∧
    ∀ session, behaviour.metering.means.History {} session →
      session.table.tally.probes - session.table.tally.misses =
        .ofNat session.thread.notes.hashes ∧
      ∀ {β : Type} (request : Request σ ι α β) (after : Session (Annotated σ Meter) α),
        Passes (behaviour.metering.means.perform request.annotated) session after →
          ∃ looks, after.thread.notes.looks = session.thread.notes.looks + looks ∧
            after.table.tally.probes = session.table.tally.probes + .ofNat looks := by
  have notes := behaviour.metering_notes
  refine ⟨notes.perform, fun table => Table.Means.History.exists_iff_reachable notes {}, ?_⟩
  intro session history
  refine ⟨history.gauged.1.probes_sub_misses, ?_⟩
  intro β request after run
  have gauged : session.Gauged session.thread.notes.looks := ⟨history.gauged.1, Nat.le_refl _⟩
  have sound := (history.reachable notes).intact.sound
  obtain ⟨agrees, least⟩ := (behaviour.metering_upholds _).of_passes
    (Session.gauged_onNotes _) sound gauged run
  obtain ⟨looks, more⟩ := Nat.exists_eq_add_of_le least
  refine ⟨looks, more, ?_⟩
  rw [agrees.looks, gauged.1.looks, more, UInt64.ofNat_add]

/-- In a run of eighteen requests, of which four are cut short, sixteen primary hashes
are computed and twenty-six slots are looked at. -/
theorem tally_accounts_for_fickle_searches :
    ∃ session : Session (Annotated Nat Meter) Nat,
      Behaviour.fickle.metering.means.History {} session ∧
      session.thread.notes = { hashes := 16, looks := 26 } ∧
      session.table.tally = { probes := 26, misses := 10 } ∧
      session.table.tally.probes - session.table.tally.misses = .ofNat 16 := by
  let requests : List (Request Nat Nat Nat Unit) :=
    Behaviour.wearing ++ [.find 3, .find 4, .remove 5, .find 9]
  let begun : Session (Annotated Nat Meter) Nat :=
    ⟨{ identity := 0, settings := { initialCapacity := 8 }, slots := Slot.row Nat 8 },
      Thread.annotate { host := 0 } {}, []⟩
  let session := Behaviour.fickle.metering.means.performEach requests begun
  have history : Behaviour.fickle.metering.means.History {} session :=
    (Table.Means.History.created { initialCapacity := 8 } 0 ⟨1, {}⟩ { host := 0 } [] rfl).performEach
      requests
  have counted : session.thread.notes = { hashes := 16, looks := 26 } := by decide +kernel
  have tally : session.table.tally = { probes := 26, misses := 10 } := by decide +kernel
  have balance := ((tally_accounts_for_searches Behaviour.fickle).2.2 session history).1
  rw [counted] at balance
  exact ⟨session, history, counted, tally, balance⟩

end OpenAddressing
