/-!
# The roster of tables in use

A thread keeps a roster of the tables that it is working on.  A table joins the
roster when one of its operations starts and leaves when the operation is over,
or when the last loan of a stored item ends.  A table that is on the roster is
refused a second time.  Tables may leave in any order.
-/

namespace OpenAddressing

/-- The tables that a thread is working on. -/
structure Roster where
  /-- Their identities, the latest first. -/
  inside : List Nat := []
deriving DecidableEq

namespace Roster

instance : Membership Nat Roster where
  mem roster identity := identity ∈ roster.inside

instance (identity : Nat) (roster : Roster) : Decidable (identity ∈ roster) :=
  inferInstanceAs (Decidable (identity ∈ roster.inside))

theorem mem_iff {identity : Nat} {roster : Roster} :
    identity ∈ roster ↔ identity ∈ roster.inside := Iff.rfl

/-- The roster after a table has joined. -/
def join (roster : Roster) (identity : Nat) : Roster :=
  ⟨identity :: roster.inside⟩

/-- Lets a table join, unless it is on the roster already. -/
def enter? (roster : Roster) (identity : Nat) : Option Roster :=
  if identity ∈ roster then none else some (roster.join identity)

/-- The roster after a table has left.  The latest table takes over the place
that becomes free. -/
def leave (roster : Roster) (identity : Nat) : Roster :=
  match roster.inside with
  | [] => roster
  | latest :: earlier =>
    if latest = identity then ⟨earlier⟩
    else if identity ∈ earlier then ⟨earlier.replace identity latest⟩
    else roster

@[simp] theorem mem_join {identity other : Nat} {roster : Roster} :
    other ∈ roster.join identity ↔ other = identity ∨ other ∈ roster := by
  simp [join, mem_iff]

@[simp] theorem leave_join (roster : Roster) (identity : Nat) :
    (roster.join identity).leave identity = roster := by
  simp [join, leave]

theorem enter?_eq_none_iff {roster : Roster} {identity : Nat} :
    roster.enter? identity = none ↔ identity ∈ roster := by
  simp [enter?]

end Roster
end OpenAddressing
