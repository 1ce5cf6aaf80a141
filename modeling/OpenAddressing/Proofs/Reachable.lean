import OpenAddressing.Proofs.Requests

/-!
# Reachable tables

A table is reachable if it was created and then received requests, one after the
other, each of which may have returned or been cut short.  Between the requests
the thread and the journal are anyone's.  Every reachable table is sound, and
under laws it is arranged: each stored copy can be reached along its path, and
no two copies are equal.
-/

namespace OpenAddressing

variable {σ ι α β : Type} {behaviour : Behaviour σ ι α} {laws : Laws ι}
variable {before after : Session σ α}

/-! ## What one request keeps -/

namespace Request

variable {request : Request σ ι α β} {answer : Answer ι α β}

/-- A table is intact after every request that returns. -/
theorem Performed.intact
    (performed : Performed behaviour before request answer after)
    (intact : before.table.Intact behaviour) :
    after.table.Intact behaviour := by
  cases performed with
  | insert inserted => exact inserted.intact intact
  | find lookedUp => exact lookedUp.searched.preserves.intact intact
  | findWith used => exact used.intact intact
  | contains used => exact used.intact intact
  | remove removed => exact removed.intact intact
  | retain retained => exact retained.intact intact
  | walk => exact intact
  | length => exact intact
  | isEmpty => exact intact
  | slotCount => exact intact
  | statistics => exact intact
  | clearFlags => exact intact.congr rfl rfl rfl
  | footprint => exact intact

/-- A request is performed on one table. -/
theorem Performed.identity (performed : Performed behaviour before request answer after) :
    after.table.identity = before.table.identity := by
  cases performed with
  | insert inserted => exact inserted.identity
  | find lookedUp => exact lookedUp.searched.identity
  | findWith used => exact used.identity
  | contains used => exact used.identity
  | remove removed => exact removed.identity
  | retain retained => exact retained.identity
  | walk => rfl
  | length => rfl
  | isEmpty => rfl
  | slotCount => rfl
  | statistics => rfl
  | clearFlags => rfl
  | footprint => rfl

/-- A table is intact after every request that is cut short. -/
theorem PerformedUntil.intact
    (performed : PerformedUntil behaviour before request after)
    (intact : before.table.Intact behaviour) :
    after.table.Intact behaviour := by
  cases performed with
  | insert inserted => exact inserted.intact intact
  | find searched => exact searched.preserves.intact intact
  | findWith used => exact used.intact intact
  | contains searched => exact searched.preserves.intact intact
  | remove removed => exact removed.intact intact
  | retain retained => exact retained.intact intact
  | walk => exact intact
  | footprint => exact intact

/-- A table is intact however a request ends. -/
theorem intact_of_passes
    (run : Passes (request.perform behaviour) before after)
    (intact : before.table.Intact behaviour) :
    after.table.Intact behaviour := by
  have intact' : before.joined.table.Intact behaviour := intact
  obtain rfl | ⟨done, rfl, ⟨answer, performed⟩ | performed⟩ :=
    performed_of_passes intact.sound run
  · exact intact
  · exact performed.intact intact'
  · exact performed.intact intact'

end Request

/-! ## Runs of requests -/

/-- The tables that can be reached with a behaviour. -/
inductive Behaviour.Reachable (behaviour : Behaviour σ ι α) : Table α → Prop
  | created (settings : Settings) (identity : Nat) (host : σ) {table : Table α}
      (created : (Table.create behaviour settings identity host).1 = .ok table) :
      Reachable behaviour table
  | performed {table : Table α} {β : Type} (request : Request σ ι α β) (thread : Thread σ)
      (journal : List Event) {after : Session σ α}
      (reachable : Reachable behaviour table)
      (run : Passes (request.perform behaviour) ⟨table, thread, journal⟩ after) :
      Reachable behaviour after.table

namespace Behaviour.Reachable

variable {table : Table α}

/-- Every reachable table is intact. -/
theorem intact (reachable : behaviour.Reachable table) : table.Intact behaviour := by
  induction reachable with
  | created settings identity host created =>
      obtain ⟨sound, rfl⟩ := Table.sound_of_create created
      exact ⟨sound, fun _ => Laws.Arranged.row _ behaviour.key settings.initialCapacity⟩
  | performed _ _ _ _ run inductionHypothesis =>
      exact Request.intact_of_passes run inductionHypothesis

/-- Any number of requests leads from a reachable table to a reachable one. -/
theorem performAll
    {requests : List (Request σ ι α β)}
    (reachable : behaviour.Reachable before.table)
    (run : Passes (Request.performAll behaviour requests) before after) :
    behaviour.Reachable after.table := by
  induction requests generalizing before after with
  | nil =>
      rcases run with ⟨_, run⟩ | ⟨_, run⟩ <;> cases run
      exact reachable
  | cons request rest inductionHypothesis =>
      have leads : Leads (Request.performAll behaviour (request :: rest)) before
          (fun _ after => behaviour.Reachable after.table)
          (fun _ after => behaviour.Reachable after.table) := by
        simp only [Request.performAll, leads_bind, leads_pure]
        refine (leads_self _ before).mono ?_ ?_
        · intro answer middle first
          refine (leads_self _ middle).mono ?_ ?_
          · intro answers after others
            exact inductionHypothesis
              (.performed request _ _ reachable (Or.inl ⟨answer, first⟩))
              (Or.inl ⟨answers, others⟩)
          · intro abort after others
            exact inductionHypothesis
              (.performed request _ _ reachable (Or.inl ⟨answer, first⟩))
              (Or.inr ⟨abort, others⟩)
        · intro abort middle first
          exact .performed request _ _ reachable (Or.inr ⟨abort, first⟩)
      exact leads.of_passes run

end Behaviour.Reachable

/-- Under laws, every reachable table is arranged: a stored copy can be reached
along the path of its key, and no two copies have equal keys.  A request keeps
the table so, whether it returns or is cut short. -/
theorem arranged_in_every_run
    (obeys : behaviour.Obeys laws)
    {table : Table α}
    (reachable : behaviour.Reachable table) :
    laws.Arranged behaviour.key table.slots ∧
      ∀ {β : Type} (request : Request σ ι α β) (thread : Thread σ) (journal : List Event)
        (after : Session σ α),
        Passes (request.perform behaviour) ⟨table, thread, journal⟩ after →
          laws.Arranged behaviour.key after.table.slots := by
  refine ⟨reachable.intact.arranged obeys, ?_⟩
  intro _ request thread journal after run
  exact (reachable.performed request thread journal run).intact.arranged obeys

/-- Two numbers on one path, with a tombstone between them. -/
theorem arranged_in_run_of_numbers :
    ∃ table : Table Nat,
      (Laws.numbers 16).faithful.Obeys (Laws.numbers 16) ∧
      (Laws.numbers 16).faithful.Reachable table ∧
      table.items = [3, 37] ∧ table.tombstones = 1 ∧
      (Laws.numbers 16).Arranged id table.slots := by
  have obeys := (Laws.numbers 16).faithful_obeys
  have created : (Laws.numbers 16).faithful.Reachable
      { identity := 0, settings := {}, slots := Slot.row Nat 17 } :=
    .created {} 0 () rfl
  obtain ⟨answers, after, run, tested⟩ := exists_of_meets (show meets
    (fun _ after => after.table.items == [3, 37] && after.table.tombstones == 1)
    (Request.performAll (Laws.numbers 16).faithful
      ([.insert 3, .insert 20, .insert 37, .remove 20] : List (Request Unit Nat Nat Unit))
      ⟨{ identity := 0, settings := {}, slots := Slot.row Nat 17 }, { host := () }, []⟩) =
        true by decide +kernel)
  have reachable := created.performAll (Or.inl ⟨answers, run⟩)
  rw [Bool.and_eq_true, beq_iff_eq, beq_iff_eq] at tested
  exact ⟨after.table, obeys, reachable, tested.1, tested.2,
    (arranged_in_every_run obeys reachable).1⟩

end OpenAddressing
