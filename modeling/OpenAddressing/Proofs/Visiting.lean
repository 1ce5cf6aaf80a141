import OpenAddressing.Proofs.Discretion
import OpenAddressing.Roster.Visits

/-!
# What the roster tells of the passes

Passes are handed out and given back in any order, and when a table leaves, the latest
one takes over its place, so the order of the roster says little.  What stands on it says
all: however visitors come and go, the tables on the roster are those of which a pass is
out, each of them once.  A visitor is refused at these tables and at no other, and a pass
that is given back takes its own table from the roster and leaves the others there.
-/

namespace OpenAddressing

namespace Roster

variable {identity : Nat} {roster : Roster}

theorem mem_iff_count_pos : identity ∈ roster ↔ 0 < roster.count identity :=
  List.count_pos_iff.symm

/-- A table that leaves takes itself from the roster and nothing else. -/
theorem perm_leave (member : identity ∈ roster) :
    roster.inside.Perm (identity :: (roster.leave identity).inside) := by
  rw [List.perm_iff_count]
  intro other
  by_cases same : other = identity
  · subst same
    have positive := mem_iff_count_pos.mp member
    have left := roster.count_leave other
    rw [List.count_cons_self]
    simp only [count] at positive left
    omega
  · rw [List.count_cons_of_ne (Ne.symm same)]
    exact (roster.count_leave_of_ne same).symm

end Roster

namespace Visits

/-! ## Passes that are out -/

/-- Whether a pass for a table was handed out when a move had its reply. -/
def handsOut (identity : Nat) : Move × Reply → Bool
  | (.enter other, .entered) => other == identity
  | _ => false

/-- Whether a pass for a table was taken back when a move had its reply. -/
def takesBack (identity : Nat) : Move × Reply → Bool
  | (.exit other, .left) => other == identity
  | _ => false

/-- A pass for a table is out: more of them were handed out than were taken back. -/
def PassOut (identity : Nat) (history : List (Move × Reply)) : Prop :=
  history.countP (takesBack identity) < history.countP (handsOut identity)

instance (identity : Nat) (history : List (Move × Reply)) :
    Decidable (PassOut identity history) :=
  inferInstanceAs (Decidable (_ < _))

/-- The moves of visitors on a thread that works on no table, each with its reply. -/
def history (moves : List Move) : List (Move × Reply) :=
  moves.zip (run {} moves).1

/-- Where these moves lead. -/
def reached (moves : List Move) : Visits :=
  (run {} moves).2

/-! ## Single moves -/

variable {visits : Visits} {identity : Nat}

theorem step_enter_of_mem (member : identity ∈ visits.roster) :
    visits.step (.enter identity) = (.refused .reentered, visits) := by
  simp [step, Roster.enter?_eq_none_iff.mpr member]

theorem step_enter_of_not_mem (absent : identity ∉ visits.roster) :
    visits.step (.enter identity) = (.entered, {
      roster := visits.roster.join identity
      passes := identity :: visits.passes }) := by
  simp [step, Roster.enter?, absent]

theorem step_exit_of_mem (member : identity ∈ visits.passes) :
    visits.step (.exit identity) = (.left, {
      roster := visits.roster.leave identity
      passes := visits.passes.erase identity }) := by
  simp [step, member]

theorem step_exit_of_not_mem (absent : identity ∉ visits.passes) :
    visits.step (.exit identity) = (.notHeld, visits) := by
  simp [step, absent]

theorem run_cons (visits : Visits) (move : Move) (rest : List Move) :
    visits.run (move :: rest) =
      ((visits.step move).1 :: ((visits.step move).2.run rest).1,
        ((visits.step move).2.run rest).2) := rfl

/-! ## Roster, passes and history -/

/-- Roster and passes agree with each other and with the moves made so far. -/
structure Agrees (past : List (Move × Reply)) (visits : Visits) : Prop where
  /-- No table is on the roster twice. -/
  nodup : visits.roster.inside.Nodup
  /-- The passes that are kept are those of the tables on the roster. -/
  passes : visits.passes.Perm visits.roster.inside
  /-- A pass that was handed out has been taken back, or its table is on the roster. -/
  told : ∀ identity,
    past.countP (takesBack identity) + visits.roster.count identity =
      past.countP (handsOut identity)

namespace Agrees

variable {past : List (Move × Reply)}

theorem begin : Agrees [] {} where
  nodup := List.nodup_nil
  passes := List.Perm.nil
  told _ := rfl

theorem mem_roster_iff (agrees : Agrees past visits) :
    identity ∈ visits.roster ↔ PassOut identity past := by
  have told := agrees.told identity
  rw [Roster.mem_iff_count_pos, PassOut]
  omega

theorem mem_passes_iff (agrees : Agrees past visits) :
    identity ∈ visits.passes ↔ PassOut identity past :=
  agrees.passes.mem_iff.trans agrees.mem_roster_iff

/-- A move that hands out no pass and takes none back. -/
theorem idle
    {move : Move} {reply : Reply}
    (agrees : Agrees past visits)
    (keeps : ∀ identity, handsOut identity (move, reply) = false)
    (keeps' : ∀ identity, takesBack identity (move, reply) = false) :
    Agrees (past ++ [(move, reply)]) visits where
  nodup := agrees.nodup
  passes := agrees.passes
  told identity := by
    have told := agrees.told identity
    simp only [List.countP_append, List.countP_singleton, keeps, keeps']
    exact told

theorem entered (agrees : Agrees past visits) (absent : identity ∉ visits.roster) :
    Agrees (past ++ [(.enter identity, .entered)]) {
      roster := visits.roster.join identity
      passes := identity :: visits.passes } where
  nodup := List.nodup_cons.mpr ⟨absent, agrees.nodup⟩
  passes := agrees.passes.cons identity
  told other := by
    have told := agrees.told other
    have joined : (visits.roster.join identity).count other =
        visits.roster.count other + if identity == other then 1 else 0 := List.count_cons
    have handed : [(Move.enter identity, Reply.entered)].countP (handsOut other) =
        if identity == other then 1 else 0 := List.countP_singleton
    have taken : [(Move.enter identity, Reply.entered)].countP (takesBack other) = 0 := rfl
    rw [List.countP_append, List.countP_append, handed, taken, joined]
    omega

theorem left (agrees : Agrees past visits) (member : identity ∈ visits.roster) :
    Agrees (past ++ [(.exit identity, .left)]) {
      roster := visits.roster.leave identity
      passes := visits.passes.erase identity } where
  nodup := ((Roster.perm_leave member).nodup_iff.mp agrees.nodup).of_cons
  passes := by
    have passes := (agrees.passes.trans (Roster.perm_leave member)).erase identity
    rwa [List.erase_cons_head] at passes
  told other := by
    have told := agrees.told other
    have stayed : visits.roster.count other =
        (visits.roster.leave identity).count other + if identity == other then 1 else 0 :=
      ((Roster.perm_leave member).count_eq other).trans List.count_cons
    have handed : [(Move.exit identity, Reply.left)].countP (handsOut other) = 0 := rfl
    have taken : [(Move.exit identity, Reply.left)].countP (takesBack other) =
        if identity == other then 1 else 0 := List.countP_singleton
    rw [List.countP_append, List.countP_append, handed, taken, ← told, stayed]
    dsimp only
    omega

/-- Every move keeps roster, passes and history in agreement. -/
theorem moved (agrees : Agrees past visits) (move : Move) :
    Agrees (past ++ [(move, (visits.step move).1)]) (visits.step move).2 := by
  cases move with
  | enter identity =>
      by_cases member : identity ∈ visits.roster
      · rw [step_enter_of_mem member]
        exact agrees.idle (fun _ => rfl) fun _ => rfl
      · rw [step_enter_of_not_mem member]
        exact agrees.entered member
  | exit identity =>
      by_cases member : identity ∈ visits.passes
      · rw [step_exit_of_mem member]
        exact agrees.left (agrees.passes.mem_iff.mp member)
      · rw [step_exit_of_not_mem member]
        exact agrees.idle (fun _ => rfl) fun _ => rfl

/-- So does every list of moves. -/
theorem ran (agrees : Agrees past visits) (moves : List Move) :
    Agrees (past ++ moves.zip (visits.run moves).1) (visits.run moves).2 := by
  induction moves generalizing past visits with
  | nil =>
      rw [List.zip_nil_left, List.append_nil]
      exact agrees
  | cons move rest inductionHypothesis =>
      rw [run_cons, List.zip_cons_cons, ← List.singleton_append, ← List.append_assoc]
      exact inductionHypothesis (agrees.moved move)

end Agrees

theorem agrees_reached (moves : List Move) : Agrees (history moves) (reached moves) :=
  Agrees.begin.ran moves

/-- After any moves, the tables on the roster are those of which a pass is out, and none
is there twice.  At these tables a visitor is refused, which changes nothing, and at all
others one is let in.  A pass that is out can be given back, which takes its own table
from the roster and no other.  Where no pass is out, none can be given back. -/
theorem roster_tells_passes_out (moves : List Move) :
    (reached moves).roster.inside.Nodup ∧
    ∀ identity,
      (identity ∈ (reached moves).roster ↔ PassOut identity (history moves)) ∧
      ((∃ abort, ((reached moves).step (.enter identity)).1 = .refused abort) ↔
        PassOut identity (history moves)) ∧
      (PassOut identity (history moves) →
        (reached moves).step (.enter identity) = (.refused .reentered, reached moves) ∧
        ∃ after, (reached moves).step (.exit identity) = (.left, after) ∧
          (reached moves).roster.inside.Perm (identity :: after.roster.inside)) ∧
      (¬PassOut identity (history moves) →
        (∃ after, (reached moves).step (.enter identity) = (.entered, after) ∧
          after.roster = (reached moves).roster.join identity) ∧
        (reached moves).step (.exit identity) = (.notHeld, reached moves)) := by
  have agrees := agrees_reached moves
  refine ⟨agrees.nodup, fun identity => ⟨agrees.mem_roster_iff, ?_, ?_, ?_⟩⟩
  · rw [← agrees.mem_roster_iff]
    by_cases member : identity ∈ (reached moves).roster
    · simp [step_enter_of_mem member, member]
    · simp [step_enter_of_not_mem member, member]
  · intro out
    have member := agrees.mem_roster_iff.mpr out
    have held := agrees.mem_passes_iff.mpr out
    exact ⟨step_enter_of_mem member, _, step_exit_of_mem held, Roster.perm_leave member⟩
  · intro none
    have absent := mt agrees.mem_roster_iff.mp none
    have unheld := mt agrees.mem_passes_iff.mp none
    exact ⟨⟨_, step_enter_of_not_mem absent, rfl⟩, step_exit_of_not_mem unheld⟩

/-- The first of three tables leaves before the others and comes back, a second visitor
of the next one is refused, and then that one leaves too. -/
def outOfOrder : List Move :=
  [.enter 1, .enter 2, .enter 3, .exit 1, .enter 2, .enter 1, .exit 2]

/-- In the end a pass for the third table is out, and none for the second. -/
theorem roster_tells_passes_out_of_order :
    PassOut 3 (history outOfOrder) ∧ ¬PassOut 2 (history outOfOrder) ∧
    (reached outOfOrder).step (.enter 3) = (.refused .reentered, reached outOfOrder) ∧
    (∃ after, (reached outOfOrder).step (.exit 3) = (.left, after) ∧
      (reached outOfOrder).roster.inside.Perm (3 :: after.roster.inside)) ∧
    (∃ after, (reached outOfOrder).step (.enter 2) = (.entered, after) ∧
      after.roster = (reached outOfOrder).roster.join 2) ∧
    (reached outOfOrder).step (.exit 2) = (.notHeld, reached outOfOrder) := by
  have out : PassOut 3 (history outOfOrder) := by decide
  have none : ¬PassOut 2 (history outOfOrder) := by decide
  obtain ⟨_, tells⟩ := roster_tells_passes_out outOfOrder
  obtain ⟨refused, leaves⟩ := (tells 3).2.2.1 out
  obtain ⟨joins, notHeld⟩ := (tells 2).2.2.2 none
  exact ⟨out, none, refused, leaves, joins, notHeld⟩

/-- When the first table leaves, the third one takes over its place. -/
example : (reached (outOfOrder.take 4)).roster.inside = [2, 3] := by
  decide

end Visits
end OpenAddressing
