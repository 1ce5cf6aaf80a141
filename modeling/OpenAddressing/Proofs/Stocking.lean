import OpenAddressing.Proofs.Churning
import OpenAddressing.Proofs.Committing
import OpenAddressing.Proofs.Faultless

/-!
# Stocking a new table

The capacities that settings allow form a chain: the initial one and the rungs above it.
When different items are inserted into a new table that is refused nothing, the table
climbs the chain.  It grows exactly when the items reach the threshold of its capacity,
never because of a collision, and it holds as many items as the last capacity of the
chain has room for.  Neither the order of the items nor their hashes matter.
-/

namespace OpenAddressing

open Relocation (slotAt)
open Probe (Outcome)

variable {σ σ' ι α α' β : Type}

/-! ## The chain of capacities -/

namespace Settings

/-- The capacities that a table with the settings can have. -/
def chain (settings : Settings) : List Nat :=
  settings.initialCapacity :: Ladder.rungs.filter fun rung =>
    settings.initialCapacity < rung && rung ≤ settings.maxCapacity

theorem chain_ne_nil (settings : Settings) : settings.chain ≠ [] :=
  List.cons_ne_nil _ _

/-- The number of items that a table with the settings has room for. -/
def limit (settings : Settings) : Nat :=
  Ladder.threshold (settings.chain.getLast settings.chain_ne_nil)

variable {settings : Settings} {capacity other rung : Nat}

theorem mem_chain_iff : capacity ∈ settings.chain ↔
    capacity = settings.initialCapacity ∨
      capacity ∈ Ladder.rungs ∧ settings.initialCapacity < capacity ∧
        capacity ≤ settings.maxCapacity := by
  unfold chain
  rw [List.mem_cons, List.mem_filter, Bool.and_eq_true, decide_eq_true_eq, decide_eq_true_eq]

theorem pairwise_lt_chain (settings : Settings) : settings.chain.Pairwise (· < ·) := by
  unfold chain
  rw [List.pairwise_cons]
  constructor
  · intro rung member
    have within := (List.mem_filter.mp member).2
    rw [Bool.and_eq_true, decide_eq_true_eq] at within
    exact within.1
  · exact Ladder.pairwise_lt_rungs.filter _

theorem initialCapacity_le (member : capacity ∈ settings.chain) :
    settings.initialCapacity ≤ capacity := by
  rcases mem_chain_iff.mp member with rfl | ⟨_, above, _⟩
  · exact Nat.le_refl _
  · exact Nat.le_of_lt above

/-- A capacity of the chain that is above another one is a rung. -/
theorem mem_rungs_of_lt
    (member : capacity ∈ settings.chain)
    (member' : other ∈ settings.chain)
    (above : other < capacity) :
    capacity ∈ Ladder.rungs ∧ capacity ≤ settings.maxCapacity := by
  rcases mem_chain_iff.mp member with rfl | ⟨isRung, _, bounded⟩
  · exact absurd (initialCapacity_le member') (Nat.not_le.mpr above)
  · exact ⟨isRung, bounded⟩

/-- The next rung above a capacity of the chain belongs to the chain. -/
theorem mem_chain_of_next
    (member : capacity ∈ settings.chain)
    (next : Ladder.nextWithin? settings.maxCapacity capacity = some rung) :
    rung ∈ settings.chain := by
  obtain ⟨isRung, above, bounded⟩ := (Ladder.nextWithin?_eq_some_iff.mp next).1
  exact mem_chain_iff.mpr (Or.inr ⟨isRung, (initialCapacity_le member).trans_lt above, bounded⟩)

theorem le_getLast (member : capacity ∈ settings.chain) :
    capacity ≤ settings.chain.getLast settings.chain_ne_nil := by
  have sorted := settings.pairwise_lt_chain
  have split := List.dropLast_append_getLast settings.chain_ne_nil
  rw [← split, List.pairwise_append] at sorted
  rw [← split, List.mem_append, List.mem_singleton] at member
  rcases member with earlier | last
  · exact Nat.le_of_lt (sorted.2.2 capacity earlier _ (List.mem_singleton_self _))
  · exact Nat.le_of_eq last

theorem threshold_le_limit (member : capacity ∈ settings.chain) :
    Ladder.threshold capacity ≤ settings.limit :=
  Ladder.threshold_mono (le_getLast member)

/-- A table that has reached the end of the chain has room up to the limit. -/
theorem threshold_eq_limit
    (member : capacity ∈ settings.chain)
    (top : Ladder.nextWithin? settings.maxCapacity capacity = none) :
    Ladder.threshold capacity = settings.limit := by
  apply Nat.le_antisymm (threshold_le_limit member)
  apply Ladder.threshold_mono
  by_contra below
  have isLast := List.getLast_mem settings.chain_ne_nil
  obtain ⟨isRung, bounded⟩ := mem_rungs_of_lt isLast member (Nat.lt_of_not_le below)
  have beyond := Ladder.nextWithin?_eq_none_iff.mp top _ isRung (Nat.lt_of_not_le below)
  omega

/-- A capacity is the least one of the chain that has room for a number of items. -/
def Suits (settings : Settings) (number capacity : Nat) : Prop :=
  IsLeast {capacity | capacity ∈ settings.chain ∧ number ≤ Ladder.threshold capacity} capacity

namespace Suits

variable {number : Nat}

theorem initial (settings : Settings) : settings.Suits 0 settings.initialCapacity := by
  constructor
  · exact ⟨List.mem_cons_self, Nat.zero_le _⟩
  · exact fun _ suits => initialCapacity_le suits.1

/-- Below the threshold, one more item makes no difference. -/
theorem succ
    (suits : settings.Suits number capacity)
    (room : number < Ladder.threshold capacity) :
    settings.Suits (number + 1) capacity := by
  constructor
  · exact ⟨suits.1.1, room⟩
  · rintro other ⟨member, enough⟩
    exact suits.2 ⟨member, Nat.le_of_succ_le enough⟩

/-- At the threshold, the next rung is needed for one more item. -/
theorem next
    (suits : settings.Suits number capacity)
    (reached : number = Ladder.threshold capacity)
    (next : Ladder.nextWithin? settings.maxCapacity capacity = some rung) :
    settings.Suits (number + 1) rung := by
  have member := suits.1.1
  obtain ⟨⟨isRung, above, _⟩, least⟩ := Ladder.nextWithin?_eq_some_iff.mp next
  constructor
  · refine ⟨mem_chain_of_next member next, ?_⟩
    rw [reached]
    exact Ladder.threshold_lt_of_mem isRung above
  · rintro other ⟨member', enough⟩
    have larger : capacity < other := by
      by_contra notAbove
      have smaller := Ladder.threshold_mono (Nat.le_of_not_lt notAbove)
      omega
    obtain ⟨isRung', bounded⟩ := mem_rungs_of_lt member' member larger
    exact least ⟨isRung', larger, bounded⟩

end Suits
end Settings

variable {behaviour : Behaviour σ ι α} {laws : Laws ι} {settings : Settings}
variable {before after : Session σ α} {item : ι}

/-! ## Insertions of items that are not stored -/

namespace Table

/-- At a prime capacity, an item that is not stored and not denied its copy either finds
no room or is stored in a vacancy once there is room. -/
theorem Inserted.of_lacks
    {result : Except Failure (Loan α)}
    (inserted : Inserted behaviour item before result after)
    (obeys : behaviour.Obeys laws)
    (intact : before.table.Intact behaviour)
    (prime : before.table.capacity.Prime)
    (lacks : before.table.Lacks laws behaviour item)
    (copied : ¬ Returns (behaviour.duplicate item) none) :
    (∃ failure, result = .error failure ∧ Relieved behaviour before (.error failure) after) ∨
      ∃ roomy index copy, Relieved behaviour before (.ok ()) roomy ∧
        result.map Loan.item = .ok copy ∧ laws.equal (behaviour.key copy) item = true ∧
        index < roomy.table.slots.size ∧ (slotAt roomy.table.slots index).item? = none ∧
        after.table = { roomy.table.occupied index copy with tally := after.table.tally } := by
  -- At a prime capacity a search comes to something, and it does not find what is lacking.
  have ready : ∀ {result ready}, Prepared behaviour item before result ready →
      Readied (before.table.relief behaviour before.thread.host)
        (before.table.Lacks laws behaviour item) result :=
    fun prepared => prepared.at_prime obeys intact prime
  cases inserted with
  | failed prepared =>
      cases prepared with
      | cramped relieved => exact Or.inl ⟨_, rfl, relieved⟩
      | sought relieved sought =>
          obtain ⟨_, impossible, _⟩ := sought.located_of_prime
            (relieved.preserves.sound intact.sound) (relieved.prime prime)
          cases impossible
  | full prepared => cases ready prepared
  | present prepared =>
      cases ready prepared with
      | found _ present => exact absurd lacks present
  | uncopied prepared refused => exact absurd ⟨_, _, refused⟩ copied
  | @stored index copy ready thread prepared duplicated =>
      refine Or.inr ?_
      cases prepared with
      | @sought _ roomy _ relieved sought =>
          have sound := relieved.preserves.sound intact.sound
          have prime' := relieved.prime prime
          cases sought with
          | located searched locates =>
              obtain ⟨_, within, vacant⟩ := locates.free_of_vacant
              obtain ⟨tally, asked, rfl, _⟩ := searched
              refine ⟨roomy, index, copy, relieved, rfl, obeys.duplicate ⟨_, _, duplicated⟩,
                within, vacant, ?_⟩
              rw [Session.traced_table]
              rfl
          | grown _ missing => exact absurd missing (sound.not_missing prime')

end Table

/-! ## Stocked tables -/

/-- A behaviour that is granted all memory for tables with the settings, and every copy. -/
structure Behaviour.Lavish (behaviour : Behaviour σ ι α) (settings : Settings) : Prop where
  /-- There is memory for every capacity of the chain, and to move items there. -/
  memory : ∀ target ∈ settings.chain, ∀ live ≤ target, ∀ host,
    ¬ behaviour.Refuses target live host
  /-- No copy is denied. -/
  copies : ∀ item, ¬ Returns (behaviour.duplicate item) none

/-- What a table has come to when items were inserted into it and it has copies of them.
The least capacity of the chain that has room for them is enough. -/
structure Table.Stocks
    (equal : ι → ι → Bool)
    (key : α → ι)
    (settings : Settings)
    (stored : List ι)
    (copies : List α)
    (table : Table α) : Prop where
  /-- The settings are fixed. -/
  chosen : table.settings = settings
  /-- The capacity follows from the number of the items. -/
  suits : settings.Suits stored.length table.capacity
  /-- The slots in use are those of the items. -/
  entries : table.entries = stored.length
  /-- There are no tombstones. -/
  tombstones : table.tombstones = 0
  /-- There is a copy of each item. -/
  twins : List.Forall₂ (fun item copy => equal (key copy) item = true) stored copies
  /-- Nothing else is stored. -/
  items : table.items.Perm copies

namespace Table.Stocks

variable {stored : List ι} {copies : List α} {table : Table α}

/-- The tally and the flags do not matter. -/
theorem congr
    {other : Table α} {equal : ι → ι → Bool} {key : α → ι}
    (stocks : table.Stocks equal key settings stored copies)
    (same : other = { table with flags := other.flags, tally := other.tally }) :
    other.Stocks equal key settings stored copies := by
  rw [same]
  exact ⟨stocks.chosen, stocks.suits, stocks.entries, stocks.tombstones, stocks.twins,
    stocks.items⟩

variable (stocks : table.Stocks laws.equal behaviour.key settings stored copies)
include stocks

/-- An item is lacking if it is none of those that were inserted. -/
theorem lacks_iff :
    table.Lacks laws behaviour item ↔ ∀ earlier ∈ stored, laws.equal earlier item = false := by
  have twins := stocks.twins
  unfold Lacks
  simp only [stocks.items.mem_iff]
  clear stocks
  induction twins with
  | nil => simp
  | @cons earlier copy _ _ same _ inductionHypothesis =>
      have alike : laws.equal (behaviour.key copy) item = laws.equal earlier item := by
        rw [Bool.eq_iff_iff]
        constructor
        · rw [laws.equal_comm] at same
          exact laws.equal_trans same
        · exact laws.equal_trans same
      simp only [List.forall_mem_cons, inductionHypothesis, alike]

/-- The items are at most as many as the threshold allows. -/
theorem length_le : stored.length ≤ Ladder.threshold table.capacity :=
  stocks.suits.1.2

theorem prime (initial : settings.initialCapacity.Prime) : table.capacity.Prime := by
  rcases Settings.mem_chain_iff.mp stocks.suits.1.1 with isInitial | ⟨isRung, _⟩
  · rwa [isInitial]
  · exact Ladder.prime_of_mem_rungs isRung

theorem isCrowded_iff :
    table.isCrowded = true ↔ stored.length = Ladder.threshold table.capacity := by
  have room := stocks.length_le
  rw [isCrowded, decide_eq_true_eq, stocks.entries]
  omega

/-- Without tombstones, a reorganization makes the table grow. -/
theorem target?_eq (grow : Bool) :
    table.target? (table.reclaims (table.entries - table.tombstones) grow) =
      Ladder.nextWithin? settings.maxCapacity table.capacity := by
  have grows : table.reclaims (table.entries - table.tombstones) grow = false := by
    simp [reclaims, stocks.tombstones]
  rw [grows, target?, if_neg (by simp), stocks.chosen]

end Table.Stocks

namespace Table.Stocks

variable {stored : List ι} {copies : List α}

/-- A crowded table grows to the next rung of the chain, or there is none. -/
theorem relieved_of_crowded
    {result : Except Failure Unit}
    (stocks : before.table.Stocks laws.equal behaviour.key settings stored copies)
    (intact : before.table.Intact behaviour)
    (obeys : behaviour.Obeys laws)
    (lavish : behaviour.Lavish settings)
    (relieved : Relieved behaviour before result after)
    (crowded : before.table.isCrowded = true) :
    (result = .ok () ∧ before.table.Rebuilt false after.table ∧
        Ladder.nextWithin? settings.maxCapacity before.table.capacity =
          some after.table.capacity) ∨
      (result = .error .tableFull ∧
        after.table =
          { before.table with flags := after.table.flags, tally := after.table.tally } ∧
        Ladder.nextWithin? settings.maxCapacity before.table.capacity = none) := by
  have reached := stocks.isCrowded_iff.mp crowded
  have entries := stocks.entries
  have tombstones := stocks.tombstones
  have dense : ¬ before.table.Loose before.table.capacity := by
    unfold Loose
    omega
  have outgrown := relieved.outgrown obeys intact (entries.trans reached) dense
  have chosen : before.table.settings.maxCapacity = settings.maxCapacity := by
    rw [stocks.chosen]
  have granted : ∀ rung,
      Ladder.nextWithin? settings.maxCapacity before.table.capacity = some rung →
        ¬ behaviour.Refuses rung (before.table.entries - before.table.tombstones)
          before.thread.host := by
    intro rung next
    have above := (Ladder.nextWithin?_eq_some_iff.mp next).1.2.1
    have below := Ladder.threshold_le before.table.capacity
    apply lavish.memory rung (Settings.mem_chain_of_next stocks.suits.1.1 next)
    omega
  cases relieved with
  | calm roomy =>
      rw [roomy] at crowded
      cases crowded
  | crowded _ madeRoom =>
      cases madeRoom with
      | made reorganized =>
          have rebuilt := reorganized.rebuilt intact.sound
          refine Or.inl ⟨rfl, rebuilt, ?_⟩
          rw [← stocks.target?_eq false]
          exact rebuilt.capacity
      | @failed failure restored reorganized =>
          have same : restored.table = { before.table with tally := restored.table.tally } :=
            reorganized.restored
          have level : restored.table.capacity = before.table.capacity := by
            rw [same]
            rfl
          refine Or.inr ?_
          cases outgrown with
          | exhausted top =>
              refine ⟨rfl, ?_, chosen ▸ top⟩
              simp only [Session.flagged]
              rw [same]
          | refused next refuses => exact absurd refuses (granted _ (chosen ▸ next))
          | grown next _ climbed =>
              have above := (Ladder.nextWithin?_eq_some_iff.mp next).1.2.1
              exact absurd (level.symm.trans climbed) (Nat.ne_of_lt above)

/-- A table that is relieved has a capacity for one more item, and one that cannot be
relieved has reached the limit. -/
theorem relieved
    {result : Except Failure Unit}
    (stocks : before.table.Stocks laws.equal behaviour.key settings stored copies)
    (intact : before.table.Intact behaviour)
    (obeys : behaviour.Obeys laws)
    (lavish : behaviour.Lavish settings)
    (relieved : Relieved behaviour before result after) :
    (result = .ok () ∧ settings.Suits (stored.length + 1) after.table.capacity ∧
        after.table.tombstones = 0) ∨
      (result = .error .tableFull ∧ stored.length = settings.limit ∧
        after.table.Stocks laws.equal behaviour.key settings stored copies) := by
  cases crowded : before.table.isCrowded with
  | false =>
      obtain ⟨rfl, rfl⟩ := relieved.of_roomy crowded
      have room : stored.length ≠ Ladder.threshold after.table.capacity := by
        rw [ne_eq, ← stocks.isCrowded_iff, crowded]
        simp
      have below := Nat.lt_of_le_of_ne stocks.length_le room
      exact Or.inl ⟨rfl, stocks.suits.succ below, stocks.tombstones⟩
  | true =>
      have reached := stocks.isCrowded_iff.mp crowded
      rcases stocks.relieved_of_crowded intact obeys lavish relieved crowded with
        ⟨rfl, rebuilt, next⟩ | ⟨rfl, same, top⟩
      · exact Or.inl ⟨rfl, stocks.suits.next reached next, rebuilt.tombstones⟩
      · refine Or.inr ⟨rfl, ?_, stocks.congr same⟩
        rw [reached]
        exact Settings.threshold_eq_limit stocks.suits.1.1 top

/-- A vacancy of a relieved table is taken by one more item. -/
theorem occupied
    {roomy : Session σ α} {index : Nat} {copy : α}
    (stocks : before.table.Stocks laws.equal behaviour.key settings stored copies)
    (sound : before.table.Sound)
    (relieved : Relieved behaviour before (.ok ()) roomy)
    (suits : settings.Suits (stored.length + 1) roomy.table.capacity)
    (tombstones : roomy.table.tombstones = 0)
    (within : index < roomy.table.slots.size)
    (vacant : (slotAt roomy.table.slots index).item? = none)
    (equal : laws.equal (behaviour.key copy) item = true) :
    (roomy.table.occupied index copy).Stocks laws.equal behaviour.key settings
      (stored ++ [item]) (copies ++ [copy]) := by
  have preserves := relieved.preserves
  obtain ⟨sound', items⟩ := (preserves.sound sound).occupied (relieved.isCrowded sound) within
    vacant copy
  have all : (roomy.table.occupied index copy).items.Perm (copies ++ [copy]) := by
    calc (roomy.table.occupied index copy).items
      _ |>.Perm (copy :: roomy.table.items) := items
      _ |>.Perm (copy :: copies) := (preserves.items.trans stocks.items).cons copy
      _ |>.Perm (copies ++ [copy]) := (List.perm_append_singleton copy copies).symm
  have number := stocks.twins.length_eq
  have capacity : (roomy.table.occupied index copy).capacity = roomy.table.capacity :=
    Array.size_setIfInBounds
  have bare : (roomy.table.occupied index copy).tombstones = 0 := by
    simp [Table.occupied, tombstones]
  constructor
  · exact preserves.settings.trans stocks.chosen
  · rw [List.length_append, List.length_singleton, capacity]
    exact suits
  · rw [sound'.counted, bare, all.length_eq, List.length_append, List.length_append, number]
    rfl
  · exact bare
  · exact List.rel_append stocks.twins (.cons equal .nil)
  · exact all

/-- An item that is not stored joins the items below the limit, and is refused at the
limit. -/
theorem inserted
    {result : Except Failure (Loan α)}
    (stocks : before.table.Stocks laws.equal behaviour.key settings stored copies)
    (intact : before.table.Intact behaviour)
    (obeys : behaviour.Obeys laws)
    (lavish : behaviour.Lavish settings)
    (prime : settings.initialCapacity.Prime)
    (others : ∀ earlier ∈ stored, laws.equal earlier item = false)
    (inserted : Inserted behaviour item before result after) :
    (∃ copy, result.map Loan.item = .ok copy ∧ stored.length < settings.limit ∧
        after.table.Stocks laws.equal behaviour.key settings (stored ++ [item])
          (copies ++ [copy])) ∨
      (result = .error .tableFull ∧ stored.length = settings.limit ∧
        after.table.Stocks laws.equal behaviour.key settings stored copies) := by
  rcases inserted.of_lacks obeys intact (stocks.prime prime) (stocks.lacks_iff.mpr others)
    (lavish.copies item) with
    ⟨failure, rfl, cramped⟩ | ⟨roomy, index, copy, relieved, isCopy, equal, within, vacant, same⟩
  · rcases stocks.relieved intact obeys lavish cramped with
      ⟨impossible, _⟩ | ⟨isFull, reached, stocks'⟩
    · cases impossible
    · rw [Except.error.inj isFull]
      exact Or.inr ⟨rfl, reached, stocks'⟩
  · rcases stocks.relieved intact obeys lavish relieved with
      ⟨_, suits, tombstones⟩ | ⟨impossible, _⟩
    · have stocks' := stocks.occupied intact.sound relieved suits tombstones within vacant equal
      refine Or.inl ⟨copy, isCopy, ?_, stocks'.congr (by rw [same])⟩
      have room := Settings.threshold_le_limit suits.1.1
      have enough := suits.1.2
      omega
    · cases impossible

end Table.Stocks

/-- A session with a table that was stocked with items. -/
structure Session.Stocked
    (behaviour : Behaviour σ ι α)
    (laws : Laws ι)
    (settings : Settings)
    (stored : List ι)
    (copies : List α)
    (session : Session σ α) : Prop where
  /-- The table is intact. -/
  intact : session.table.Intact behaviour
  /-- It is not on the roster. -/
  free : session.table.identity ∉ session.thread.roster
  /-- Foreign code is discreet about it. -/
  discreet : behaviour.Discreet session.table.identity
  /-- The table has copies of the items. -/
  stocks : session.table.Stocks laws.equal behaviour.key settings stored copies

/-! ## Runs of insertions -/

namespace Request

/-- The requests that insert items one by one. -/
def insertEach (items : List ι) : List (Request σ ι α β) :=
  items.map .insert

/-- Requests may be performed in two parts. -/
theorem performAll_append (behaviour : Behaviour σ ι α) (first second : List (Request σ ι α β)) :
    performAll behaviour (first ++ second) = (do
      let answers ← performAll behaviour first
      let answers' ← performAll behaviour second
      pure (answers ++ answers')) := by
  induction first with
  | nil => simp [performAll]
  | cons request rest inductionHypothesis =>
      simp only [List.cons_append, performAll, inductionHypothesis, bind_assoc, pure_bind]

end Request

namespace Session.Stocked

variable {stored : List ι} {copies : List α}

/-- A table that lacks an item is stocked with it below the limit, and is full at the
limit. -/
theorem perform_leads
    (stocked : before.Stocked behaviour laws settings stored copies)
    (obeys : behaviour.Obeys laws)
    (lavish : behaviour.Lavish settings)
    (prime : settings.initialCapacity.Prime)
    (others : ∀ earlier ∈ stored, laws.equal earlier item = false) :
    Leads ((Request.insert item : Request σ ι α β).perform behaviour) before
      (fun answer after =>
        (∃ copy, answer = .inserted (.ok copy) ∧ stored.length < settings.limit ∧
            after.Stocked behaviour laws settings (stored ++ [item]) (copies ++ [copy])) ∨
          (answer = .inserted (.error .tableFull) ∧ stored.length = settings.limit ∧
            after.Stocked behaviour laws settings stored copies))
      (fun abort _ => behaviour.Raises abort) := by
  have quiet : (Request.insert item : Request σ ι α β).Discreet before.table.identity := trivial
  have leads : Leads (Request.perform behaviour _) before _ _ :=
    Request.perform_leads stocked.intact.sound stocked.free
      (Request.insert item : Request σ ι α β)
  refine (leads.and (leads_self _ before)).mono ?_ ?_
  · rintro answer after ⟨⟨done, performed, rfl⟩, run⟩
    have intact : done.table.Intact behaviour := performed.intact stocked.intact
    obtain ⟨same, free⟩ := Request.free_of_passes stocked.discreet quiet stocked.free
      (Or.inl ⟨answer, run⟩)
    have ready : ∀ {stored copies},
        done.table.Stocks laws.equal behaviour.key settings stored copies →
          done.leave.Stocked behaviour laws settings stored copies :=
      fun stocks => ⟨intact, same ▸ free, same ▸ stocked.discreet, stocks⟩
    have stocks : before.joined.table.Stocks laws.equal behaviour.key settings stored copies :=
      stocked.stocks
    cases performed with
    | insert inserted =>
        rcases stocks.inserted stocked.intact obeys lavish prime others inserted with
          ⟨copy, isCopy, below, stocks'⟩ | ⟨rfl, reached, stocks'⟩
        · exact Or.inl ⟨copy, by rw [isCopy], below, ready stocks'⟩
        · exact Or.inr ⟨rfl, reached, ready stocks'⟩
  · rintro abort after ⟨⟨raises | impossible, _⟩, _⟩
    · exact raises
    · cases impossible

/-- Up to the limit, all items are stored. -/
theorem fill_leads
    {items : List ι}
    (stocked : before.Stocked behaviour laws settings stored copies)
    (obeys : behaviour.Obeys laws)
    (lavish : behaviour.Lavish settings)
    (prime : settings.initialCapacity.Prime)
    (distinct : (stored ++ items).Pairwise fun first second => laws.equal first second = false)
    (fits : (stored ++ items).length ≤ settings.limit) :
    Leads (Request.performAll behaviour (Request.insertEach items : List (Request σ ι α β)))
      before
      (fun answers after => ∃ more, answers = more.map (fun copy => .inserted (.ok copy)) ∧
        after.Stocked behaviour laws settings (stored ++ items) (copies ++ more))
      (fun abort _ => behaviour.Raises abort) := by
  induction items generalizing before stored copies with
  | nil =>
      refine ⟨[], rfl, ?_⟩
      rwa [List.append_nil, List.append_nil]
  | cons item rest inductionHypothesis =>
      have others : ∀ earlier ∈ stored, laws.equal earlier item = false := by
        intro earlier member
        exact (List.pairwise_append.mp distinct).2.2 earlier member item List.mem_cons_self
      simp only [Request.insertEach, List.map_cons, Request.performAll, leads_bind, leads_pure]
      refine (stocked.perform_leads obeys lavish prime others).mono ?_ fun _ _ raises => raises
      rintro answer middle (⟨copy, rfl, _, stocked'⟩ | ⟨_, reached, _⟩)
      · rw [List.append_cons] at distinct fits
        refine (inductionHypothesis stocked' distinct fits).mono ?_ fun _ _ raises => raises
        rintro answers after ⟨more, rfl, stocked''⟩
        refine ⟨copy :: more, rfl, ?_⟩
        rwa [List.append_cons, List.append_cons copies]
      · rw [List.length_append, List.length_cons] at fits
        omega

/-- At the limit, all items are refused. -/
theorem refuse_leads
    {items : List ι}
    (stocked : before.Stocked behaviour laws settings stored copies)
    (obeys : behaviour.Obeys laws)
    (lavish : behaviour.Lavish settings)
    (prime : settings.initialCapacity.Prime)
    (distinct : (stored ++ items).Pairwise fun first second => laws.equal first second = false)
    (reached : stored.length = settings.limit) :
    Leads (Request.performAll behaviour (Request.insertEach items : List (Request σ ι α β)))
      before
      (fun answers after =>
        answers = List.replicate items.length (.inserted (.error .tableFull)) ∧
        after.Stocked behaviour laws settings stored copies)
      (fun abort _ => behaviour.Raises abort) := by
  induction items generalizing before with
  | nil => exact ⟨rfl, stocked⟩
  | cons item rest inductionHypothesis =>
      have others : ∀ earlier ∈ stored, laws.equal earlier item = false := by
        intro earlier member
        exact (List.pairwise_append.mp distinct).2.2 earlier member item List.mem_cons_self
      have distinct' : (stored ++ rest).Pairwise fun first second =>
          laws.equal first second = false :=
        distinct.sublist ((List.sublist_cons_self item rest).append_left stored)
      simp only [Request.insertEach, List.map_cons, Request.performAll, leads_bind, leads_pure]
      refine (stocked.perform_leads obeys lavish prime others).mono ?_ fun _ _ raises => raises
      rintro answer middle (⟨copy, _, below, _⟩ | ⟨rfl, _, stocked'⟩)
      · omega
      · refine (inductionHypothesis stocked' distinct').mono ?_ fun _ _ raises => raises
        rintro answers after ⟨rfl, stocked''⟩
        exact ⟨rfl, stocked''⟩

end Session.Stocked

/-! ## New tables -/

/-- A session with a new table, where the foreign code is lawful and refused nothing. -/
structure Session.Fresh
    (behaviour : Behaviour σ ι α)
    (laws : Laws ι)
    (settings : Settings)
    (session : Session σ α) : Prop where
  /-- The table was just created. -/
  created : ∃ identity host,
    (Table.create behaviour settings identity host).1 = .ok session.table
  /-- It is not on the roster. -/
  free : session.table.identity ∉ session.thread.roster
  /-- Foreign code is discreet about it. -/
  discreet : behaviour.Discreet session.table.identity
  /-- Hashes and comparisons are fixed. -/
  obeys : behaviour.Obeys laws
  /-- Memory and copies are granted. -/
  lavish : behaviour.Lavish settings

/-- A new table is stocked with nothing. -/
theorem Session.Fresh.stocked (fresh : before.Fresh behaviour laws settings) :
    before.Stocked behaviour laws settings [] [] := by
  obtain ⟨identity, host, created⟩ := fresh.created
  have intact := (Behaviour.Reachable.created settings identity host created).intact
  have table := (Table.sound_of_create created).2
  refine ⟨intact, fresh.free, fresh.discreet, ?_⟩
  constructor
  · rw [table]
  · rw [table]
    simpa [Table.capacity] using Settings.Suits.initial settings
  · rw [table]
    rfl
  · rw [table]
  · exact .nil
  · rw [table]
    exact List.Perm.of_eq (Slot.contents_row settings.initialCapacity)

/-- A new table is stocked up to its limit. -/
theorem Session.Fresh.performAll_leads
    {items : List ι}
    (fresh : before.Fresh behaviour laws settings)
    (prime : settings.initialCapacity.Prime)
    (distinct : items.Pairwise fun first second => laws.equal first second = false) :
    Leads (Request.performAll behaviour (Request.insertEach items : List (Request σ ι α β)))
      before
      (fun answers after => ∃ copies,
        answers = copies.map (fun copy => .inserted (.ok copy)) ++
          List.replicate (items.length - settings.limit) (.inserted (.error .tableFull)) ∧
        after.Stocked behaviour laws settings (items.take settings.limit) copies)
      (fun abort _ => behaviour.Raises abort) := by
  have split := List.take_append_drop settings.limit items
  have requests : (Request.insertEach items : List (Request σ ι α β)) =
      Request.insertEach (items.take settings.limit) ++
        Request.insertEach (items.drop settings.limit) := by
    unfold Request.insertEach
    rw [← List.map_append, split]
  have fits : ([] ++ items.take settings.limit).length ≤ settings.limit :=
    List.length_take_le _ _
  have distinct' : ([] ++ items.take settings.limit).Pairwise fun first second =>
      laws.equal first second = false := distinct.sublist (List.take_sublist _ _)
  rw [requests, Request.performAll_append, leads_bind]
  refine (fresh.stocked.fill_leads fresh.obeys fresh.lavish prime distinct' fits).mono ?_
    fun _ _ raises => raises
  rintro _ middle ⟨copies, rfl, stocked⟩
  simp only [leads_bind, leads_pure]
  rw [List.nil_append, List.nil_append] at stocked
  by_cases more : settings.limit ≤ items.length
  · have reached : (items.take settings.limit).length = settings.limit :=
      List.length_take_of_le more
    refine (stocked.refuse_leads fresh.obeys fresh.lavish prime (by rwa [split])
      reached).mono ?_ fun _ _ raises => raises
    rintro _ after ⟨rfl, stocked'⟩
    refine ⟨copies, ?_, stocked'⟩
    rw [List.length_drop]
  · have none : items.drop settings.limit = [] :=
      List.drop_eq_nil_of_le (Nat.le_of_not_le more)
    rw [none]
    refine ⟨copies, ?_, stocked⟩
    rw [Nat.sub_eq_zero_of_le (Nat.le_of_not_le more)]
    rfl

/-- Under laws, if different items are inserted into a new table of prime capacity where
nothing is refused, as many succeed as the last capacity of the chain has room for, and
all further ones find the table full.  After any number of successful insertions the
capacity is the least one of the chain that has room for the items, they take up all slots
in use, and there are no tombstones.  So neither the order of the items nor their hashes
matter to the capacity, the counts and the set of stored items.  Only foreign code can
keep the insertions from returning. -/
theorem capacity_follows_number_of_items
    {items : List ι}
    (fresh : before.Fresh behaviour laws settings)
    (prime : settings.initialCapacity.Prime)
    (distinct : items.Pairwise fun first second => laws.equal first second = false) :
    let insertions : List (Request σ ι α β) := Request.insertEach items
    (behaviour.Steady → ∃ answers after,
      Request.performAll behaviour insertions before = .ok answers after) ∧
    Leads (Request.performAll behaviour insertions) before
      (fun answers after => ∃ copies,
        answers = copies.map (fun copy => .inserted (.ok copy)) ++
          List.replicate (items.length - settings.limit) (.inserted (.error .tableFull)) ∧
        after.table.Stocks laws.equal behaviour.key settings (items.take settings.limit) copies)
      (fun abort _ => behaviour.Raises abort) ∧
    ∀ {σ' α' : Type} {behaviour' : Behaviour σ' ι α'} {laws' : Laws ι}
      {before' after' : Session σ' α'} {after : Session σ α} {items' : List ι}
      {answers : List (Answer ι α β)} {answers' : List (Answer ι α' β)},
      before'.Fresh behaviour' laws' settings → laws'.equal = laws.equal → items'.Perm items →
      Request.performAll behaviour insertions before = .ok answers after →
      Request.performAll behaviour' (Request.insertEach items') before' = .ok answers' after' →
        after'.table.capacity = after.table.capacity ∧
        after'.table.entries = after.table.entries ∧
        after'.table.tombstones = after.table.tombstones ∧
        (items.length ≤ settings.limit → ∀ item,
          after'.table.Lacks laws' behaviour' item ↔ after.table.Lacks laws behaviour item) := by
  intro insertions
  have leads : Leads (Request.performAll behaviour insertions) before _ _ :=
    fresh.performAll_leads prime distinct
  refine ⟨fun steady => steady.returns leads, leads.mono ?_ fun _ _ raises => raises, ?_⟩
  · rintro answers after ⟨copies, isAnswers, stocked⟩
    exact ⟨copies, isAnswers, stocked.stocks⟩
  · intro σ' α' behaviour' laws' before' after' after items' answers answers' fresh' same perm
      run run'
    have symmetric : ∀ {first second : ι}, laws.equal first second = false →
        laws.equal second first = false := by
      intro first second different
      rwa [laws.equal_comm]
    have distinct' : items'.Pairwise fun first second => laws'.equal first second = false := by
      rw [same]
      exact distinct.perm perm.symm symmetric
    obtain ⟨copies, _, stocked⟩ := leads.of_ok run
    obtain ⟨copies', _, stocked'⟩ := (fresh'.performAll_leads prime distinct').of_ok run'
    have stocks := stocked.stocks
    have stocks' := stocked'.stocks
    have number : (items'.take settings.limit).length = (items.take settings.limit).length := by
      rw [List.length_take, List.length_take, perm.length_eq]
    have suits := stocks'.suits
    rw [number] at suits
    refine ⟨suits.unique stocks.suits, ?_, ?_, ?_⟩
    · rw [stocks'.entries, stocks.entries, number]
    · rw [stocks'.tombstones, stocks.tombstones]
    · intro fits item
      have all := List.take_of_length_le fits
      have all' := List.take_of_length_le (perm.length_eq.trans_le fits)
      rw [stocks'.lacks_iff, stocks.lacks_iff, all, all', same]
      simp only [perm.mem_iff]

/-- Faithful foreign code is refused nothing if the initial capacity is small enough. -/
theorem Laws.faithful_lavish
    (laws : Laws ι)
    (small : Slot.addressable 16 settings.initialCapacity = true) :
    laws.faithful.Lavish settings where
  memory := by
    have rungs : ∀ rung ∈ Ladder.rungs, Slot.addressable 16 rung = true := by
      decide
    intro target member live fits host
    rcases Settings.mem_chain_iff.mp member with rfl | ⟨isRung, _⟩
    · exact laws.not_refuses_of_addressable small fits host
    · exact laws.not_refuses_of_addressable (rungs target isRung) fits host
  copies := by
    rintro item ⟨_, _, ⟨⟩⟩

/-- Of three hundred numbers, the first ones fill a table that may grow to the first
rung. -/
theorem capacity_follows_number_of_numbers :
    ∃ (answers : List (Answer Nat Nat Unit)) (after : Session Unit Nat),
      Request.performAll (Laws.numbers 16).faithful (Request.insertEach (List.range 300))
        ⟨{ identity := 0, settings := { maxCapacity := 251 }, slots := Slot.row Nat 17 },
          { host := () }, []⟩ = .ok answers after ∧
      answers = (List.range 220).map (fun number => .inserted (.ok number)) ++
        List.replicate 80 (.inserted (.error .tableFull)) ∧
      after.table.capacity = 251 ∧ after.table.entries = 220 ∧ after.table.tombstones = 0 := by
  let settings : Settings := { maxCapacity := 251 }
  have limit : settings.limit = 220 := by decide
  have fresh : Session.Fresh (Laws.numbers 16).faithful (Laws.numbers 16) settings
      ⟨{ identity := 0, settings, slots := Slot.row Nat 17 }, { host := () }, []⟩ := by
    constructor
    case created => exact ⟨0, (), rfl⟩
    case free => exact List.not_mem_nil
    case discreet => exact (Laws.numbers 16).faithful_discreet 0
    case obeys => exact (Laws.numbers 16).faithful_obeys
    case lavish => exact (Laws.numbers 16).faithful_lavish (by decide)
  have prime : settings.initialCapacity.Prime := by
    norm_num [settings, Ladder.initialCapacity]
  have distinct : (List.range 300).Pairwise fun first second =>
      (Laws.numbers 16).equal first second = false := by
    refine List.nodup_range.imp ?_
    intro first second different
    simpa [Laws.numbers] using different
  obtain ⟨returns, leads, _⟩ := capacity_follows_number_of_items fresh prime distinct
  obtain ⟨answers, after, run⟩ := returns (Laws.numbers 16).faithful_steady
  obtain ⟨copies, isAnswers, stocks⟩ := leads.of_ok run
  have first : (List.range 300).take 220 = List.range 220 := by
    rw [List.take_range]
    rfl
  rw [limit, first] at stocks
  rw [limit, List.length_range] at isAnswers
  have same : List.range 220 = copies := by
    rw [← List.forall₂_eq_eq_eq]
    refine stocks.twins.imp ?_
    intro number copy equal
    exact (of_decide_eq_true equal).symm
  rw [← same] at isAnswers
  refine ⟨answers, after, run, isAnswers, ?_, stocks.entries, stocks.tombstones⟩
  obtain ⟨member, enough⟩ := stocks.suits.1
  rw [List.length_range] at enough
  have chain : settings.chain = [17, 251] := by decide
  rw [chain, List.mem_cons, List.mem_singleton] at member
  rcases member with small | large
  · rw [small] at enough
    exact absurd enough (by decide)
  · exact large

end OpenAddressing
