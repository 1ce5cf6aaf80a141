import OpenAddressing.Proofs.Surviving

/-!
# Tables that serve

A table serves from a catalog if all requests to come are answered from it or cut
short by foreign code.  After an abort, a table serves from the catalog that the
abort has left.  A fuse shows this on numbers: the laws are obeyed, and one call
is cut short.
-/

namespace OpenAddressing

open Laws (Catalog)
open Laws.Catalog (Enumerates)

variable {σ ι α β : Type} {behaviour : Behaviour σ ι α} {laws : Laws ι}
variable {catalog : laws.Catalog α}

namespace Table

/-- Whatever requests are made, on whatever thread the table is free, they are
answered from the catalog or cut short by foreign code. -/
def Serves
    (laws : Laws ι)
    (behaviour : Behaviour σ ι α)
    (table : Table α)
    (catalog : laws.Catalog α) : Prop :=
  ∀ (β : Type) (requests : List (Request σ ι α β)) (thread : Thread σ) (journal : List Event),
    table.identity ∉ thread.roster →
    (∀ request ∈ requests, request.Discreet table.identity) →
    ∃ outcomes after last,
      Request.performEach behaviour requests ⟨table, thread, journal⟩ = (outcomes, after) ∧
      laws.Endures behaviour table.identity catalog thread requests outcomes after.thread
        last ∧
      Enumerates behaviour.key after.table.items last

/-- Requests whose foreign code is never cut short are all answered from the
catalog. -/
def Answers
    (laws : Laws ι)
    (behaviour : Behaviour σ ι α)
    (table : Table α)
    (catalog : laws.Catalog α) : Prop :=
  ∀ (β : Type) (requests : List (Request σ ι α β)) (thread : Thread σ) (journal : List Event),
    table.identity ∉ thread.roster →
    (∀ request ∈ requests, request.Harmless table.identity) →
    ∃ answers after last,
      Request.performAll behaviour requests ⟨table, thread, journal⟩ = .ok answers after ∧
      laws.Follows behaviour table.identity catalog thread requests answers after.thread
        last ∧
      Enumerates behaviour.key after.table.items last

variable {table : Table α}

theorem Intact.serves
    (intact : table.Intact behaviour)
    (obeys : behaviour.Obeys laws)
    (discreet : behaviour.Discreet table.identity)
    (enumerates : Enumerates behaviour.key table.items catalog) :
    table.Serves laws behaviour catalog := by
  intro β requests thread journal free quiet
  have offers : (⟨table, thread, journal⟩ : Session σ α).Offers laws behaviour catalog :=
    ⟨free, intact, enumerates⟩
  exact offers.performEach_endures rfl obeys discreet requests quiet

end Table

/-! ## Laws of steady behaviours -/

/-- Foreign code that is never cut short returns. -/
theorem exists_returns
    {foreign : Call σ β}
    (never : ∀ abort, ¬ CutBy foreign abort)
    (thread : Thread σ) :
    ∃ value, Returns foreign value := by
  cases run : foreign thread with
  | ok value after => exact ⟨value, thread, after, run⟩
  | error abort after => exact absurd ⟨thread, after, run⟩ (never abort)

/-- A steady behaviour obeys no laws but its own. -/
theorem Behaviour.Obeys.laws_eq
    {laws' : Laws ι}
    (obeys : behaviour.Obeys laws)
    (obeys' : behaviour.Obeys laws')
    (steady : behaviour.Steady)
    (thread : Thread σ) :
    laws' = laws := by
  have hash : laws'.hash = laws.hash := by
    funext item
    obtain ⟨value, returns⟩ := exists_returns
      (fun abort cut => steady abort (.hash item cut)) thread
    rw [← obeys.hash returns, ← obeys'.hash returns]
  have rehash : laws'.rehash = laws.rehash := by
    funext item
    obtain ⟨value, returns⟩ := exists_returns
      (fun abort cut => steady abort (.rehash item cut)) thread
    rw [← obeys.rehash returns, ← obeys'.rehash returns]
  have equal : laws'.equal = laws.equal := by
    funext stored item
    obtain ⟨ordering, returns⟩ := exists_returns
      (fun abort cut => steady abort (.compare stored item cut)) thread
    rw [Bool.eq_iff_iff, ← obeys.compare returns, ← obeys'.compare returns]
  cases laws
  cases laws'
  cases hash
  cases rehash
  cases equal
  rfl

/-- A table answers for a steady behaviour if it is arranged under the laws. -/
theorem Table.Sound.answers
    {table : Table α}
    (sound : table.Sound)
    (arranged : laws.Arranged behaviour.key table.slots)
    (obeys : behaviour.Obeys laws)
    (steady : behaviour.Steady)
    (discreet : behaviour.Discreet table.identity)
    (enumerates : Enumerates behaviour.key table.items catalog) :
    table.Answers laws behaviour catalog := by
  intro β requests thread journal free harmless
  have intact : (⟨table, thread, journal⟩ : Session σ α).table.Intact behaviour := by
    constructor
    · exact sound
    · intro laws' obeys'
      rw [obeys.laws_eq obeys' steady thread]
      exact arranged
  exact Request.performAll_follows obeys steady requests discreet intact free enumerates
    harmless

/-! ## After an abort -/

/-- When lawful foreign code has cut a request short, the contents of the table are
those that the catalog admits, and the table serves from there: all later
requests are answered from the new catalog, also if foreign code is cut short
again.  If it is never cut short again, none of them is. -/
theorem catalog_survives_abort
    (obeys : behaviour.Obeys laws)
    {table : Table α}
    (reachable : behaviour.Reachable table)
    {thread : Thread σ}
    (free : table.identity ∉ thread.roster)
    (journal : List Event)
    (request : Request σ ι α β)
    {abort : Abort} {after : Session σ α}
    (cut : request.perform behaviour ⟨table, thread, journal⟩ = .error abort after) :
    ∃ catalog done next,
      Enumerates behaviour.key table.items catalog ∧
      laws.AdmitsUntil behaviour catalog
        { thread with roster := thread.roster.join table.identity } request done next ∧
      Enumerates behaviour.key after.table.items next ∧
      after.table.identity = table.identity ∧
      after.thread = { done with roster := done.roster.leave table.identity } ∧
      (behaviour.Discreet table.identity → request.Discreet table.identity →
        table.identity ∉ after.thread.roster) ∧
      (behaviour.Discreet table.identity → after.table.Serves laws behaviour next) ∧
      ∀ (σ' : Type) (later : Behaviour σ' ι α), later.key = behaviour.key →
        later.Obeys laws → later.Steady → later.Discreet table.identity →
          after.table.Answers laws later next := by
  have intact := reachable.intact
  have arranged := intact.arranged obeys
  obtain ⟨catalog, enumerates⟩ := Catalog.exists_enumerates arranged.unequal
  have leads : Leads (request.perform behaviour) ⟨table, thread, journal⟩ _ _ :=
    Request.perform_leads intact.sound free request
  obtain ⟨_, done, performed, rfl⟩ := leads.of_error cut
  obtain ⟨next, admits, enumerates'⟩ := performed.admits obeys intact enumerates
  have same : done.leave.table.identity = table.identity := performed.identity
  have intact' : done.leave.table.Intact behaviour :=
    (reachable.performed request thread journal (Or.inr ⟨abort, cut⟩)).intact
  refine ⟨catalog, done.thread, next, enumerates, admits, enumerates', same, ?_, ?_, ?_, ?_⟩
  · rw [← same]
    rfl
  · intro discreet quiet
    exact Session.free_of_count same free (admits.count discreet quiet)
  · intro discreet
    exact intact'.serves obeys (same ▸ discreet) enumerates'
  · intro σ' later sameKey obeys' steady discreet
    rw [← sameKey] at enumerates'
    have arranged' := intact'.arranged obeys
    rw [← sameKey] at arranged'
    exact intact'.sound.answers arranged' obeys' steady (same ▸ discreet) enumerates'

/-! ## A fuse -/

/-- A call with a fuse.  The host tells after how many calls it has burnt down, and
that call is cut short. -/
def Call.fused (value : β) : Call Nat β := do
  match ← Call.onHost fun left => (left, left - 1) with
  | 1 => Call.raise "the fuse has burnt down"
  | _ => pure value

theorem Call.fused_leads (value : β) (thread : Thread Nat) :
    Leads (fused value) thread
      (fun result after => result = value ∧ after.roster = thread.roster)
      (fun _ after => after.roster = thread.roster) := by
  unfold fused
  rw [leads_bind]
  change Leads (match thread.host with | 1 => _ | _ => _) _ _ _
  split
  · exact rfl
  · exact ⟨rfl, rfl⟩

theorem Call.eq_of_returns_fused
    {value result : β}
    (returns : Returns (fused value) result) :
    result = value := by
  obtain ⟨before, after, run⟩ := returns
  exact ((fused_leads value before).of_ok run).1

theorem Call.discreet_fused (identity : Nat) (value : β) :
    Discreet identity (fused value) := by
  rintro before after (⟨result, run⟩ | ⟨abort, run⟩)
  · rw [((fused_leads value before).of_ok run).2]
  · rw [(fused_leads value before).of_error run]

namespace Laws

/-- The behaviour that computes what the laws say, until the fuse of the host has
burnt down.  One call is cut short by it. -/
def fused (laws : Laws ι) : Behaviour Nat ι ι where
  key := id
  hash item := Call.fused (laws.hash item)
  rehash item := Call.fused (laws.rehash item)
  compare stored item := Call.fused (if laws.equal stored item then .eq else .lt)
  duplicate item := Call.fused (some item)
  release _ := Call.fused ()
  heapBytes _ := Call.fused 0
  slotBytes := 1
  slotBytes_pos := Nat.one_pos
  reserve _ left := (true, left)

theorem fused_obeys (laws : Laws ι) : laws.fused.Obeys laws where
  hash := Call.eq_of_returns_fused
  rehash := Call.eq_of_returns_fused
  compare := by
    intro stored item ordering returns
    rw [Call.eq_of_returns_fused returns]
    cases laws.equal stored item <;> simp
  duplicate := by
    intro item copy returns
    obtain rfl := Option.some.inj (Call.eq_of_returns_fused returns)
    exact laws.equal_refl copy

theorem fused_discreet (laws : Laws ι) (identity : Nat) : laws.fused.Discreet identity where
  hash _ := Call.discreet_fused identity _
  rehash _ := Call.discreet_fused identity _
  compare _ _ := Call.discreet_fused identity _
  duplicate _ := Call.discreet_fused identity _
  release _ := Call.discreet_fused identity _
  heapBytes _ := Call.discreet_fused identity _

/-- A table with some numbers. -/
def stockedTable : Table Nat :=
  (Request.performEach (numbers 16).fused
    ([.insert 3, .insert 4, .insert 20, .insert 21, .insert 5, .insert 6] :
      List (Request Nat Nat Nat Unit))
    ⟨{ identity := 0, settings := {}, slots := Slot.row Nat 17 }, { host := 0 }, []⟩).2.table

theorem reachable_stockedTable : (numbers 16).fused.Reachable stockedTable := by
  unfold stockedTable
  apply Behaviour.Reachable.performEach
  exact .created {} 0 0 rfl

end Laws

/-- A retention of even numbers is cut short by the release of 21.  Then 3 and 21
are gone, 5 was not asked about, and the table serves on. -/
theorem numbers_survive_abort :
    ∃ after next,
      (Request.retain fun number => pure (number % 2 == 0) : Request Nat Nat Nat Unit).perform
        (Laws.numbers 16).fused ⟨Laws.stockedTable, { host := 2 }, []⟩ =
          .error (.raised "the fuse has burnt down") after ∧
      Laws.stockedTable.items = [3, 4, 20, 21, 5, 6] ∧
      after.table.items = [4, 20, 5, 6] ∧
      Enumerates id after.table.items next ∧
      after.table.Serves (Laws.numbers 16) (Laws.numbers 16).fused next ∧
      after.table.Answers (Laws.numbers 16) (Laws.numbers 16).faithful next := by
  have survives : ∀ table : Table Nat, (Laws.numbers 16).fused.Reachable table →
      ∀ (request : Request Nat Nat Nat Unit) (left : Nat) abort after,
        request.perform (Laws.numbers 16).fused ⟨table, { host := left }, []⟩ =
          .error abort after →
        ∃ next, Enumerates id after.table.items next ∧
          after.table.Serves (Laws.numbers 16) (Laws.numbers 16).fused next ∧
          after.table.Answers (Laws.numbers 16) (Laws.numbers 16).faithful next := by
    intro table reachable request left abort after cut
    obtain ⟨_, _, next, _, _, enumerates, _, _, _, serves, answers⟩ :=
      catalog_survives_abort (Laws.fused_obeys _) reachable List.not_mem_nil [] request cut
    exact ⟨next, enumerates, serves (Laws.fused_discreet _ _),
      answers Unit _ rfl (Laws.faithful_obeys _) (Laws.faithful_steady _)
        (Laws.faithful_discreet _ _)⟩
  obtain ⟨abort, after, cut, tested⟩ := exists_of_cuts (show cuts
    (fun abort after => decide (abort = .raised "the fuse has burnt down") &&
      after.table.items == [4, 20, 5, 6])
    ((Request.retain fun number => pure (number % 2 == 0) : Request Nat Nat Nat Unit).perform
      (Laws.numbers 16).fused ⟨Laws.stockedTable, { host := 2 }, []⟩) = true by decide +kernel)
  rw [Bool.and_eq_true, decide_eq_true_eq, beq_iff_eq] at tested
  obtain ⟨rfl, left⟩ := tested
  obtain ⟨next, enumerates, serves, answers⟩ :=
    survives _ Laws.reachable_stockedTable _ _ _ _ cut
  exact ⟨after, next, cut, by decide +kernel, left, enumerates, serves, answers⟩

end OpenAddressing
