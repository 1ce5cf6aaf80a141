import Mathlib.Algebra.BigOperators.Group.List.Lemmas
import Mathlib.Data.Nat.Prime.Basic
import Mathlib.Order.Bounds.Defs
import Mathlib.Tactic.NormNum.Prime
import OpenAddressing.Ladder

/-!
# The rungs of the ladder

Every rung is a prime, the rungs increase, and so do their thresholds.  That a number
is prime is read off one product of odd numbers, which has all of its possible
factors in common with the number.
-/

namespace OpenAddressing
namespace Ladder

/-! ## Thresholds -/

/-- No rung is a multiple of eight, so the threshold grows at every rung. -/
theorem mod_ne_zero_of_mem {rung : Nat} (member : rung ∈ rungs) : rung % 8 ≠ 0 := by
  revert rung
  decide

/-- A rung has a larger threshold than any capacity below it. -/
theorem threshold_lt_of_mem {capacity rung : Nat} (member : rung ∈ rungs)
    (above : capacity < rung) : threshold capacity < threshold rung := by
  have indivisible := mod_ne_zero_of_mem member
  unfold threshold
  omega

theorem threshold_lt_of_next? {capacity rung : Nat} (found : next? capacity = some rung) :
    threshold capacity < threshold rung :=
  threshold_lt_of_mem (mem_rungs_of_next? found) (lt_of_next? found)

theorem threshold_mono {smaller larger : Nat} (below : smaller ≤ larger) :
    threshold smaller ≤ threshold larger := by
  unfold threshold
  omega

theorem nextWithin?_eq_some {bound capacity rung : Nat}
    (found : nextWithin? bound capacity = some rung) :
    next? capacity = some rung ∧ rung ≤ bound := by
  simpa [nextWithin?, Option.filter_eq_some_iff] using found

/-! ## Next rungs -/

theorem pairwise_lt_rungs : rungs.Pairwise (· < ·) := by
  decide

/-- The next rung is the least one above a capacity. -/
theorem le_of_next?
    {capacity next rung : Nat}
    (found : next? capacity = some next)
    (member : rung ∈ rungs)
    (above : capacity < rung) :
    next ≤ rung := by
  obtain ⟨_, earlier, later, split, others⟩ := List.find?_eq_some_iff_append.mp found
  rw [split, List.mem_append, List.mem_cons] at member
  rcases member with below | rfl | beyond
  · have notAbove := others rung below
    simp [above] at notAbove
  · exact Nat.le_refl _
  · have sorted := pairwise_lt_rungs
    rw [split, List.pairwise_append, List.pairwise_cons] at sorted
    exact Nat.le_of_lt (sorted.2.1.1 rung beyond)

/-- The next rung within a bound is the least one above a capacity and within the
bound. -/
theorem nextWithin?_eq_some_iff {bound capacity next : Nat} :
    nextWithin? bound capacity = some next ↔
      IsLeast {rung | rung ∈ rungs ∧ capacity < rung ∧ rung ≤ bound} next := by
  constructor
  · intro within
    obtain ⟨found, bounded⟩ := nextWithin?_eq_some within
    refine ⟨⟨mem_rungs_of_next? found, lt_of_next? found, bounded⟩, ?_⟩
    rintro rung ⟨member, above, _⟩
    exact le_of_next? found member above
  · rintro ⟨⟨member, above, bounded⟩, least⟩
    have exists_next : (next? capacity).isSome := by
      rw [next?, List.find?_isSome]
      exact ⟨next, member, decide_eq_true above⟩
    obtain ⟨rung, found⟩ := Option.isSome_iff_exists.mp exists_next
    have below := le_of_next? found member above
    have bounded' := below.trans bounded
    have same : next = rung := by
      apply Nat.le_antisymm _ below
      exact least ⟨mem_rungs_of_next? found, lt_of_next? found, bounded'⟩
    rw [nextWithin?, found, Option.filter_some, same, if_pos (decide_eq_true bounded')]

/-- There is no next rung within a bound exactly if every rung above the capacity is
above the bound. -/
theorem nextWithin?_eq_none_iff {bound capacity : Nat} :
    nextWithin? bound capacity = none ↔ ∀ rung ∈ rungs, capacity < rung → bound < rung := by
  unfold nextWithin?
  cases found : next? capacity with
  | none =>
      have notAbove := List.find?_eq_none.mp found
      refine ⟨fun _ rung member above => ?_, fun _ => rfl⟩
      exact absurd (decide_eq_true above) (notAbove rung member)
  | some next =>
      simp only [Option.filter_eq_none_iff, Option.some.injEq, decide_eq_true_eq, Nat.not_le]
      constructor
      · intro beyond rung member above
        exact (beyond next rfl).trans_le (le_of_next? found member above)
      · rintro beyond _ rfl
        exact beyond next (mem_rungs_of_next? found) (lt_of_next? found)

/-! ## Primes -/

/-- The product of the odd numbers from `2 * low + 3` on, two to the power of the
depth many.  It is multiplied out as a balanced tree. -/
def oddProduct : (depth low : Nat) → Nat
  | 0, low => 2 * low + 3
  | depth + 1, low => oddProduct depth low * oddProduct depth (low + 2 ^ depth)

/-- Every odd number of the range divides the product. -/
theorem dvd_oddProduct {depth low offset : Nat} (within : offset < 2 ^ depth) :
    2 * (low + offset) + 3 ∣ oddProduct depth low := by
  induction depth generalizing low offset with
  | zero =>
      obtain rfl : offset = 0 := by simpa using within
      exact dvd_rfl
  | succ depth inductionHypothesis =>
      rw [oddProduct]
      by_cases early : offset < 2 ^ depth
      · exact dvd_mul_of_dvd_left (inductionHypothesis early) _
      · have late : offset - 2 ^ depth < 2 ^ depth := by
          rw [pow_succ] at within
          omega
        have divides : 2 * (low + 2 ^ depth + (offset - 2 ^ depth)) + 3 ∣
            oddProduct depth (low + 2 ^ depth) := inductionHypothesis late
        rw [Nat.add_assoc, Nat.add_sub_cancel' (Nat.le_of_not_lt early)] at divides
        exact dvd_mul_of_dvd_right divides _

/-- An odd number is prime if it has no factor in common with the odd numbers up
to its square root. -/
theorem prime_of_coprime
    {number depth : Nat}
    (large : 1 < number)
    (odd : number % 2 = 1)
    (bounded : number < (2 * 2 ^ depth + 3) ^ 2)
    (coprime : number.Coprime (oddProduct depth 0)) :
    number.Prime := by
  by_contra composite
  have factor := Nat.minFac_dvd number
  have prime := Nat.minFac_prime (Nat.ne_of_gt large)
  have square : number.minFac ^ 2 ≤ number :=
    Nat.minFac_sq_le_self (Nat.lt_of_succ_lt large) composite
  have bound : number.minFac < 2 * 2 ^ depth + 3 :=
    (Nat.pow_lt_pow_iff_left (by decide)).mp (square.trans_lt bounded)
  have oddFactor : number.minFac % 2 = 1 := by
    rcases Nat.mod_two_eq_zero_or_one number.minFac with even | odd'
    · have two : 2 ∣ number := (Nat.dvd_of_mod_eq_zero even).trans factor
      omega
    · exact odd'
  have twoLe := prime.two_le
  obtain ⟨offset, isOffset⟩ : ∃ offset, number.minFac = 2 * (0 + offset) + 3 :=
    ⟨(number.minFac - 3) / 2, by omega⟩
  have divides : number.minFac ∣ oddProduct depth 0 := by
    rw [isOffset]
    exact dvd_oddProduct (by omega)
  have common : number.minFac ∣ 1 := by
    rw [← Nat.coprime_iff_gcd_eq_one.mp coprime]
    exact Nat.dvd_gcd factor divides
  exact prime.one_lt.ne' (Nat.dvd_one.mp common)

/-- The lower rungs do not exceed the odd numbers that the higher ones are tried
with. -/
theorem prime_of_mem_take {rung : Nat} (member : rung ∈ rungs.take 9) : rung.Prime := by
  revert rung
  simp only [rungs, List.take, List.forall_mem_cons]
  norm_num

theorem prime_of_mem_drop {rung : Nat} (member : rung ∈ rungs.drop 9) : rung.Prime := by
  have shape : ∀ rung ∈ rungs.drop 9,
      1 < rung ∧ rung % 2 = 1 ∧ rung < (2 * 2 ^ 15 + 3) ^ 2 := by
    decide
  have coprime : Nat.Coprime (rungs.drop 9).prod (oddProduct 15 0) := by
    decide +kernel
  obtain ⟨large, odd, bounded⟩ := shape rung member
  exact prime_of_coprime large odd bounded
    (coprime.coprime_dvd_left (List.dvd_prod member))

/-- Every rung is a prime. -/
theorem prime_of_mem_rungs {rung : Nat} (member : rung ∈ rungs) : rung.Prime := by
  rw [← List.take_append_drop 9 rungs, List.mem_append] at member
  rcases member with low | high
  · exact prime_of_mem_take low
  · exact prime_of_mem_drop high

end Ladder
end OpenAddressing
