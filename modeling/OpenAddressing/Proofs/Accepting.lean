import OpenAddressing.Proofs.Climbing
import OpenAddressing.Proofs.Presence

/-!
# When an insertion succeeds

Under laws, an insertion into a table of prime capacity can fail in two ways only.
A crowded table may find no room: it has no capacity to aim at, or no memory to move
its items.  And an item that is not stored may be denied its copy.  In all other
cases the insertion succeeds, since every path of the table comes by an empty slot
and no item is lost when the table is rebuilt.
-/

namespace OpenAddressing

open Probe (Outcome)

variable {σ ι α : Type} {behaviour : Behaviour σ ι α} {laws : Laws ι}
variable {before mid after : Session σ α} {item : ι}

/-! ## What room can be made -/

/-- There is no memory for an array of a capacity, or none to write down the moves
of a number of items to it. -/
def Behaviour.Refuses (behaviour : Behaviour σ ι α) (target live : Nat) (host : σ) : Prop :=
  (behaviour.slots target host).1 = none ∨
    (behaviour.moveLog live (behaviour.slots target host).2).1 = false

namespace Table

/-- The capacity that a crowded table aims at.  It is the present one if there is
more than one tombstone to four items, and otherwise the least rung that is larger
and not above the largest capacity allowed. -/
def Aims (table : Table α) (target : Nat) : Prop :=
  if table.entries - table.tombstones < 4 * table.tombstones then
    target = table.capacity
  else
    IsLeast
      {rung | rung ∈ Ladder.rungs ∧ table.capacity < rung ∧
        rung ≤ table.settings.maxCapacity}
      target

variable {table : Table α} {target : Nat} {host : σ}

theorem Sound.target?_eq_some_iff (sound : table.Sound) :
    table.target? (table.reclaims table.items.length false) = some target ↔
      table.Aims target := by
  unfold Aims
  rw [sound.live_eq_length]
  by_cases worthwhile : table.items.length < 4 * table.tombstones
  · have reclaims : table.reclaims table.items.length false = true := by
      simp only [Table.reclaims, Bool.not_false, Bool.true_and, decide_eq_true_eq]
      omega
    rw [if_pos worthwhile, reclaims, target?, if_pos rfl, Option.some.injEq, eq_comm]
  · have grows : table.reclaims table.items.length false = false := by
      simp only [Table.reclaims, Bool.not_false, Bool.true_and, decide_eq_false_iff_not]
      omega
    rw [if_neg worthwhile, grows]
    exact Ladder.nextWithin?_eq_some_iff

/-- There is at most one capacity to aim at. -/
theorem Sound.aims_iff_eq
    {other : Nat}
    (sound : table.Sound)
    (aims : table.Aims target) :
    table.Aims other ↔ other = target := by
  rw [← sound.target?_eq_some_iff] at aims ⊢
  rw [aims, Option.some.injEq, eq_comm]

/-- A crowded table has no capacity to aim at, or is refused the memory to move its
items there, or is relieved. -/
theorem Sound.relief_cases
    (sound : table.Sound)
    (crowded : table.isCrowded = true)
    (behaviour : Behaviour σ ι α)
    (host : σ) :
    (table.relief behaviour host = .error .tableFull ∧ ∀ target, ¬ table.Aims target) ∨
      ∃ target, table.Aims target ∧
        (table.relief behaviour host = .error .outOfMemory ∧
            behaviour.Refuses target (table.entries - table.tombstones) host ∨
          table.relief behaviour host = .ok () ∧
            ¬ behaviour.Refuses target (table.entries - table.tombstones) host) := by
  rw [sound.live_eq_length, relief, if_pos crowded, provision]
  cases aimed : table.target? (table.reclaims table.items.length false) with
  | none =>
      refine Or.inl ⟨rfl, fun target aims => ?_⟩
      rw [sound.target?_eq_some_iff.mpr aims] at aimed
      cases aimed
  | some target =>
      refine Or.inr ⟨target, sound.target?_eq_some_iff.mp aimed, ?_⟩
      unfold Behaviour.Refuses
      rcases granted : behaviour.slots target host with ⟨_ | slots, host'⟩
      · simp [granted, Refusal.failure]
      · rcases logged : behaviour.moveLog table.items.length host' with ⟨_ | _, host''⟩ <;>
          simp [granted, logged, Refusal.failure]

/-- The table has no copy of an item. -/
def Lacks
    (laws : Laws ι)
    (behaviour : Behaviour σ ι α)
    (table : Table α)
    (item : ι) : Prop :=
  ∀ copy ∈ table.items, laws.equal (behaviour.key copy) item = false

/-! ## Preparations at a prime capacity -/

/-- A table of prime capacity does not jam. -/
theorem not_jams_of_prime
    {grow : Bool}
    (laws : Laws ι)
    (behaviour : Behaviour σ ι α)
    (prime : table.capacity.Prime)
    (host : σ) :
    ¬ table.Jams laws behaviour grow host := by
  rintro ⟨_, _, strands⟩
  exact Laws.not_strands_of_prime prime (Slot.length_contents_le table.slots) strands

/-- A relieved table of prime capacity has a prime capacity. -/
theorem Relieved.prime
    {result : Except Failure Unit}
    (relieved : Relieved behaviour before result after)
    (prime : before.table.capacity.Prime) :
    after.table.capacity.Prime := by
  rcases relieved.climbs with level | ⟨_, prime'⟩
  · rwa [level.capacity_eq]
  · exact prime'

/-- At a prime capacity the first search for a place is enough. -/
theorem Sought.located_of_prime
    {result : Except Failure Outcome}
    (sought : Sought behaviour item before result after)
    (sound : before.table.Sound)
    (prime : before.table.capacity.Prime) :
    ∃ outcome, result = .ok outcome ∧ outcome ≠ .missing ∧
      behaviour.Locates before.table.slots .insert item outcome := by
  cases sought with
  | located _ locates enough => exact ⟨_, rfl, enough, locates⟩
  | grown _ missing => exact absurd missing (sound.not_missing prime)
  | failed _ missing => exact absurd missing (sound.not_missing prime)

/-- A search for a place finds an item exactly if the table has a copy of it. -/
theorem Intact.lacks_iff
    {outcome : Outcome}
    (intact : table.Intact behaviour)
    (obeys : behaviour.Obeys laws)
    (locates : behaviour.Locates table.slots .insert item outcome) :
    table.Lacks laws behaviour item ↔ ∀ index, outcome ≠ .found index := by
  rw [locates.eq_locate obeys]
  constructor
  · intro lacks index found
    obtain ⟨copy, here, equal⟩ := Laws.stored_of_found found
    rw [lacks copy (Slot.mem_contents_iff.mpr ⟨index, here⟩)] at equal
    cases equal
  · intro notFound copy member
    obtain ⟨index, here⟩ := Slot.mem_contents_iff.mp member
    rw [← Bool.not_eq_true]
    intro equal
    exact notFound index ((intact.arranged obeys).locate_stored here equal .insert)

/-- What a preparation at a prime capacity comes to, by what comes of making room and
by whether the table lacks the item. -/
inductive Readied (relief : Except Failure Unit) (lacks : Prop) :
    Except Failure Outcome → Prop
  /-- There is no room, and none can be made. -/
  | cramped {failure : Failure}
      (refused : relief = .error failure) :
      Readied relief lacks (.error failure)
  /-- The item is found. -/
  | found {index : Nat}
      (relieved : relief = .ok ())
      (present : ¬ lacks) :
      Readied relief lacks (.ok (.found index))
  /-- There is a vacancy for the item. -/
  | vacant {index : Nat}
      (relieved : relief = .ok ())
      (absent : lacks) :
      Readied relief lacks (.ok (.vacant index))

theorem Prepared.at_prime
    {result : Except Failure Outcome}
    (prepared : Prepared behaviour item before result after)
    (obeys : behaviour.Obeys laws)
    (intact : before.table.Intact behaviour)
    (prime : before.table.capacity.Prime) :
    Readied (before.table.relief behaviour before.thread.host)
      (before.table.Lacks laws behaviour item) result := by
  have calm : ¬ (before.table.isCrowded = true ∧
      before.table.Jams laws behaviour false before.thread.host) :=
    fun jams => not_jams_of_prime laws behaviour prime _ jams.2
  cases prepared with
  | cramped relieved => exact .cramped (relieved.eq_relief obeys intact calm).symm
  | sought relieved sought =>
      have relief := (relieved.eq_relief obeys intact calm).symm
      have intact' := relieved.preserves.intact intact
      have items := relieved.preserves.items
      obtain ⟨outcome, rfl, enough, locates⟩ :=
        sought.located_of_prime intact'.sound (relieved.prime prime)
      have lacks := intact'.lacks_iff obeys locates
      simp only [Lacks, items.mem_iff] at lacks
      rcases outcome with index | index | _
      · exact .found relief fun absent => lacks.mp absent index rfl
      · exact .vacant relief (lacks.mpr (by simp))
      · exact absurd rfl enough

/-! ## Answers at a prime capacity -/

/-- An insertion that has prepared itself is denied a copy of its item. -/
def Denied (behaviour : Behaviour σ ι α) (item : ι) (before : Session σ α) : Prop :=
  ∃ outcome ready thread, prepare behaviour item before.joined = .ok (.ok outcome) ready ∧
    behaviour.duplicate item ready.thread = .ok none thread

/-- How an insertion at a prime capacity is answered, by what comes of making room
and by whether a copy that is needed is denied. -/
inductive Answered (relief : Except Failure Unit) (uncopied : Prop) :
    Except Failure (Loan α) → Prop
  /-- There is no room, and none can be made. -/
  | cramped {failure : Failure}
      (refused : relief = .error failure) :
      Answered relief uncopied (.error failure)
  /-- There is room, but no copy. -/
  | uncopied
      (relieved : relief = .ok ())
      (denied : uncopied) :
      Answered relief uncopied (.error .outOfMemory)
  /-- There is room, and a copy or no need of one. -/
  | accepted {loan : Loan α}
      (relieved : relief = .ok ())
      (granted : ¬ uncopied) :
      Answered relief uncopied (.ok loan)

/-- The second part of an insertion is answered by what the first part came to. -/
theorem Readied.complete_leads
    {relief : Except Failure Unit} {lacks : Prop} {result : Except Failure Outcome}
    (readied : Readied relief lacks result)
    (sound : before.table.Sound)
    (run : prepare behaviour item before.joined = .ok result mid) :
    Leads (complete behaviour item result) mid
      (fun answer _ => Answered relief (lacks ∧ Denied behaviour item before) answer)
      (fun abort _ => behaviour.Raises abort) := by
  have sound' : before.joined.table.Sound := sound
  have prepared : Prepared behaviour item before.joined result mid :=
    (prepare_leads sound' item).of_ok run
  cases readied with
  | cramped refused => exact .cramped refused
  | found relieved present =>
      obtain ⟨copy, stored⟩ := prepared.locates.stored_of_found
      simp only [complete, leads_map, leads_lend stored]
      exact .accepted relieved fun uncopied => present uncopied.1
  | vacant relieved absent =>
      obtain ⟨_, within, vacant⟩ := prepared.locates.free_of_vacant
      simp only [complete, store]
      rw [leads_bind, Action.leads_call]
      refine (leads_self _ mid.thread).mono ?_ ?_
      · rintro (_ | copy) thread answered
        · exact .uncopied relieved ⟨absent, _, mid, thread, run, answered⟩
        · have sound'' : Sound { mid with thread }.table := prepared.preserves.sound sound'
          rw [sound''.leads_keep within]
          refine .accepted relieved ?_
          -- The preparation has one run, and so the request for a copy has one answer.
          rintro ⟨_, _, ready, thread', run', denied⟩
          rw [run] at run'
          cases run'
          rw [answered] at denied
          cases denied
      · intro abort thread raised
        exact .duplicate item ⟨mid.thread, thread, raised⟩

theorem insert_leads_answered
    (obeys : behaviour.Obeys laws)
    (intact : before.table.Intact behaviour)
    (prime : before.table.capacity.Prime)
    (free : before.table.identity ∉ before.thread.roster)
    (item : ι) :
    Leads (insert behaviour item) before
      (fun result _ =>
        Answered (before.table.relief behaviour before.thread.host)
          (before.table.Lacks laws behaviour item ∧ Denied behaviour item before) result)
      (fun abort _ => behaviour.Raises abort) := by
  have intact' : before.joined.table.Intact behaviour := intact
  rw [insert_eq, Action.leads_entered _ _ free, leads_bind]
  refine ((prepare_leads intact'.sound item).and (leads_self _ _)).mono ?_ ?_
  · rintro result mid ⟨prepared, run⟩
    exact (prepared.at_prime obeys intact' prime).complete_leads intact.sound run
  · rintro abort mid ⟨⟨raises, _⟩, _⟩
    exact raises

namespace Answered

variable {uncopied : Prop} {result : Except Failure (Loan α)}

theorem of_refused
    {failure : Failure}
    (answered : Answered (.error failure) uncopied result) :
    result = .error failure := by
  cases answered with
  | cramped refused =>
      cases refused
      rfl
  | uncopied relieved => cases relieved
  | accepted relieved => cases relieved

theorem of_relieved (answered : Answered (.ok ()) uncopied result) :
    result = .error .outOfMemory ∧ uncopied ∨
      (∃ loan, result = .ok loan) ∧ ¬ uncopied := by
  cases answered with
  | cramped refused => cases refused
  | uncopied _ denied => exact Or.inl ⟨rfl, denied⟩
  | accepted _ granted => exact Or.inr ⟨⟨_, rfl⟩, granted⟩

/-- The answer below the threshold. -/
theorem of_roomy
    {table : Table α} {host : σ}
    (answered : Answered (table.relief behaviour host) uncopied result)
    (roomy : table.isCrowded = false) :
    (result = .error .outOfMemory ↔ uncopied) ∧ (result.isOk = true ↔ ¬ uncopied) := by
  rw [relief_of_roomy roomy] at answered
  rcases answered.of_relieved with ⟨rfl, denied⟩ | ⟨⟨loan, rfl⟩, granted⟩
  · simp [denied, Except.isOk, Except.toBool]
  · simp [granted, Except.isOk, Except.toBool]

/-- The answer at the threshold. -/
theorem of_crowded
    {table : Table α} {host : σ}
    (answered : Answered (table.relief behaviour host) uncopied result)
    (sound : table.Sound)
    (crowded : table.isCrowded = true) :
    let refused target := behaviour.Refuses target (table.entries - table.tombstones) host
    (result = .error .tableFull ↔ ∀ target, ¬ table.Aims target) ∧
    (result = .error .outOfMemory ↔
      ∃ target, table.Aims target ∧ (refused target ∨ uncopied)) ∧
    (result.isOk = true ↔
      ∃ target, table.Aims target ∧ ¬ refused target ∧ ¬ uncopied) := by
  rcases sound.relief_cases crowded behaviour host with
    ⟨relief, none⟩ | ⟨target, aims, ended⟩
  · rw [relief] at answered
    obtain rfl := answered.of_refused
    simp [none, Except.isOk, Except.toBool]
  · have only : ∀ other, table.Aims other ↔ other = target := fun _ => sound.aims_iff_eq aims
    simp only [only, exists_eq_left]
    rcases ended with ⟨relief, refused⟩ | ⟨relief, granted⟩ <;> rw [relief] at answered
    · obtain rfl := answered.of_refused
      simp [refused, Except.isOk, Except.toBool]
    · rcases answered.of_relieved with ⟨rfl, denied⟩ | ⟨⟨loan, rfl⟩, copied⟩
      · simp [granted, denied, Except.isOk, Except.toBool]
      · simp [granted, copied, Except.isOk, Except.toBool]

/-- No answer is an interruption. -/
theorem ne_interrupted
    {table : Table α} {host : σ}
    (answered : Answered (table.relief behaviour host) uncopied result)
    (sound : table.Sound) :
    result ≠ .error .interrupted := by
  cases crowded : table.isCrowded with
  | false =>
      rw [relief_of_roomy crowded] at answered
      rcases answered.of_relieved with ⟨rfl, _⟩ | ⟨⟨loan, rfl⟩, _⟩ <;> simp
  | true =>
      rcases sound.relief_cases crowded behaviour host with
        ⟨relief, _⟩ | ⟨_, _, ⟨relief, _⟩ | ⟨relief, _⟩⟩ <;> rw [relief] at answered
      · simp [answered.of_refused]
      · simp [answered.of_refused]
      · rcases answered.of_relieved with ⟨rfl, _⟩ | ⟨⟨loan, rfl⟩, _⟩ <;> simp

end Answered
end Table

/-- Under laws, an insertion into a reachable table of prime capacity is never
interrupted.  Below the threshold it succeeds unless an item that is not stored is
denied its copy, for which memory is missing then.  At the threshold the table is
full exactly if it has no capacity to aim at.  If it has one, memory is missing
exactly if it is refused for the move or for a copy that is needed, and otherwise
the insertion succeeds.  Only foreign code can keep it from returning. -/
theorem insert_succeeds_at_prime
    {table : Table α} {thread : Thread σ}
    (obeys : behaviour.Obeys laws)
    (reachable : behaviour.Reachable table)
    (prime : table.capacity.Prime)
    (free : table.identity ∉ thread.roster)
    (item : ι)
    (journal : List Event) :
    let uncopied := table.Lacks laws behaviour item ∧
      Table.Denied behaviour item ⟨table, thread, journal⟩
    let refused target :=
      behaviour.Refuses target (table.entries - table.tombstones) thread.host
    (behaviour.Steady → ∃ result after,
      Table.insert behaviour item ⟨table, thread, journal⟩ = .ok result after) ∧
    Leads (Table.insert behaviour item) ⟨table, thread, journal⟩
      (fun result _ =>
        result ≠ .error .interrupted ∧
        (table.entries < Ladder.threshold table.capacity →
          (result = .error .outOfMemory ↔ uncopied) ∧
          (result.isOk = true ↔ ¬ uncopied)) ∧
        (Ladder.threshold table.capacity ≤ table.entries →
          (result = .error .tableFull ↔ ∀ target, ¬ table.Aims target) ∧
          (result = .error .outOfMemory ↔
            ∃ target, table.Aims target ∧ (refused target ∨ uncopied)) ∧
          (result.isOk = true ↔
            ∃ target, table.Aims target ∧ ¬ refused target ∧ ¬ uncopied)))
      (fun abort _ => behaviour.Raises abort) := by
  intro uncopied refused
  have intact := reachable.intact
  have leads : Leads (Table.insert behaviour item) ⟨table, thread, journal⟩ _ _ :=
    Table.insert_leads_answered obeys intact prime free item
  refine ⟨fun steady => steady.returns leads, leads.mono ?_ fun _ _ raises => raises⟩
  intro result after answered
  refine ⟨answered.ne_interrupted intact.sound, fun below => ?_, fun reached => ?_⟩
  · exact answered.of_roomy (decide_eq_false (Nat.not_le.mpr below))
  · exact answered.of_crowded intact.sound (decide_eq_true reached)

/-- A table of fifteen numbers is at its threshold and has a larger capacity to aim
at, where the next number is stored. -/
theorem insert_of_number_succeeds_at_prime :
    ∃ (table : Table Nat) (target : Nat) (loan : Loan Nat) (after : Session Unit Nat),
      (Laws.numbers 16).faithful.Reachable table ∧
      table.capacity.Prime ∧ Ladder.threshold table.capacity ≤ table.entries ∧
      Table.insert (Laws.numbers 16).faithful 15 ⟨table, { host := () }, []⟩ =
        .ok (.ok loan) after ∧
      table.Aims target ∧
      ¬ (Laws.numbers 16).faithful.Refuses target (table.entries - table.tombstones) () := by
  have prime : (Laws.countedTable {} 15).capacity.Prime := by
    rw [show (Laws.countedTable {} 15).capacity = 17 by decide +kernel]
    norm_num
  have reached : Ladder.threshold (Laws.countedTable {} 15).capacity ≤
      (Laws.countedTable {} 15).entries := by decide +kernel
  have reachable := Laws.reachable_countedTable {} rfl 15
  have free : (Laws.countedTable {} 15).identity ∉ ({ host := () } : Thread Unit).roster :=
    List.not_mem_nil
  obtain ⟨result, after, inserts, succeeded⟩ := exists_of_meets (show meets
    (fun result _ => result.isOk)
    (Table.insert (Laws.numbers 16).faithful 15
      ⟨Laws.countedTable {} 15, { host := () }, []⟩) = true by decide +kernel)
  have obeys := (Laws.numbers 16).faithful_obeys
  have leads := (insert_succeeds_at_prime obeys reachable prime free 15 []).2
  obtain ⟨_, _, answers⟩ := leads.of_ok inserts
  obtain ⟨target, aims, granted, _⟩ := (answers reached).2.2.mp succeeded
  cases result with
  | error failure => cases succeeded
  | ok loan =>
      exact ⟨_, target, loan, after, reachable, prime, reached, inserts, aims, granted⟩

end OpenAddressing
