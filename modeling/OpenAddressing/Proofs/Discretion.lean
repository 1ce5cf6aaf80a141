import OpenAddressing.Proofs.Foreign

/-!
# Discretion

Foreign code runs while a table is on the roster of the thread, and it may work
on other tables, or keep loans of theirs.  It is discreet about a table if it
leaves the table on the roster as often as it was there.  Only then can the
table be used again once its operation is over.
-/

namespace OpenAddressing

variable {σ ι α β : Type} {identity : Nat}

namespace Roster

/-- How often a table is on the roster. -/
def count (identity : Nat) (roster : Roster) : Nat :=
  roster.inside.count identity

theorem count_eq_zero_iff {roster : Roster} :
    roster.count identity = 0 ↔ identity ∉ roster :=
  List.count_eq_zero

@[simp] theorem count_join (identity : Nat) (roster : Roster) :
    (roster.join identity).count identity = roster.count identity + 1 :=
  List.count_cons_self

/-- A table that leaves is on the roster once less. -/
theorem count_leave (identity : Nat) (roster : Roster) :
    (roster.leave identity).count identity = roster.count identity - 1 := by
  obtain ⟨inside⟩ := roster
  cases inside with
  | nil => rfl
  | cons latest earlier =>
      unfold leave count
      simp only
      split
      · rename_i same
        rw [same, List.count_cons_self, Nat.add_sub_cancel]
      · rename_i different
        split
        · rename_i member
          rw [List.count_replace]
          simp [member, different]
        · rename_i absent
          rw [List.count_cons_of_ne (by simpa using different), List.count_eq_zero.mpr absent]

/-- The other tables are on the roster as often as before. -/
theorem count_leave_of_ne
    {other : Nat}
    (roster : Roster)
    (different : other ≠ identity) :
    (roster.leave identity).count other = roster.count other := by
  obtain ⟨inside⟩ := roster
  cases inside with
  | nil => rfl
  | cons latest earlier =>
      unfold leave count
      simp only
      split
      · rename_i same
        rw [List.count_cons_of_ne (same ▸ different.symm)]
      · split
        · rename_i member
          rw [List.count_replace, if_pos (by simpa using member), List.count_cons]
          simp [different.symm]
        · rfl

end Roster

/-- Foreign code leaves a table on the roster as often as it was there. -/
def Discreet (identity : Nat) (foreign : Call σ β) : Prop :=
  ∀ before after, Passes foreign before after →
    after.roster.count identity = before.roster.count identity

namespace Discreet

variable {foreign : Call σ β} {before after : Thread σ}

theorem of_ok
    (discreet : Discreet identity foreign)
    {value : β}
    (run : foreign before = .ok value after) :
    after.roster.count identity = before.roster.count identity :=
  discreet before after (Or.inl ⟨value, run⟩)

theorem of_pure (identity : Nat) (value : β) :
    Discreet identity (pure value : Call σ β) :=
  Keeps.of_pure (fun thread : Thread σ => thread.roster.count identity) value

end Discreet

namespace Behaviour

variable {behaviour : Behaviour σ ι α}

/-- All functions of a behaviour are discreet about a table. -/
structure Discreet (behaviour : Behaviour σ ι α) (identity : Nat) : Prop where
  /-- So is the primary hash. -/
  hash : ∀ item, OpenAddressing.Discreet identity (behaviour.hash item)
  /-- So is the secondary hash. -/
  rehash : ∀ item, OpenAddressing.Discreet identity (behaviour.rehash item)
  /-- So is the comparison. -/
  compare : ∀ stored item, OpenAddressing.Discreet identity (behaviour.compare stored item)
  /-- So is the making of copies. -/
  duplicate : ∀ item, OpenAddressing.Discreet identity (behaviour.duplicate item)
  /-- So is their release. -/
  release : ∀ copy, OpenAddressing.Discreet identity (behaviour.release copy)
  /-- So is the question about their memory. -/
  heapBytes : ∀ copy, OpenAddressing.Discreet identity (behaviour.heapBytes copy)

/-- So is any number of questions. -/
theorem Discreet.count_of_consults
    (discreet : behaviour.Discreet identity)
    {before after : Thread σ}
    (consults : behaviour.Consults before after) :
    after.roster.count identity = before.roster.count identity := by
  have kept : ∀ first second, behaviour.Asks first second →
      first.roster.count identity = before.roster.count identity →
        second.roster.count identity = before.roster.count identity := by
    intro first second asks same
    refine Eq.trans ?_ same
    cases asks with
    | hash item run => exact discreet.hash item _ _ run
    | rehash item run => exact discreet.rehash item _ _ run
    | compare stored item run => exact discreet.compare stored item _ _ run
    | reserve => rfl
  exact consults.keeps kept rfl

end Behaviour

theorem Laws.faithful_discreet (laws : Laws ι) (identity : Nat) :
    laws.faithful.Discreet identity where
  hash _ := .of_pure identity _
  rehash _ := .of_pure identity _
  compare _ _ := .of_pure identity _
  duplicate _ := .of_pure identity _
  release _ := .of_pure identity _
  heapBytes _ := .of_pure identity _

end OpenAddressing
