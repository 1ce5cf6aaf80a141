import Mathlib.Data.Int.GCD
import Mathlib.Data.List.Nodup
import Mathlib.Data.List.Perm.Subperm
import Mathlib.Data.Nat.ModEq
import Mathlib.Data.Nat.Prime.Basic
import Mathlib.Data.Set.Function
import OpenAddressing.Probe.Path

/-!
# Coverage

A path comes by the slots that leave the same remainder as the hash when they are
divided by the common divisor of the capacity and the stride.  It comes by each of
them once, and then begins anew.  A path whose stride has no factor in common with the
capacity comes by every slot, and at a prime capacity every stride is of that kind.
-/

namespace OpenAddressing
namespace Probe

/-- The number of strides after which a path begins anew. -/
def period (capacity : Nat) (rehash : UInt64) : Nat :=
  capacity / capacity.gcd (stride capacity rehash)

theorem position_modEq (capacity : Nat) (hash rehash : UInt64) (step : Nat) :
    position capacity hash rehash step ≡
      hash.toNat + step * stride capacity rehash [MOD capacity] :=
  Nat.mod_modEq _ _

/-- Every slot of a path leaves the remainder of its hash. -/
theorem position_modEq_hash (capacity : Nat) (hash rehash : UInt64) (step : Nat) :
    position capacity hash rehash step ≡ hash.toNat
      [MOD capacity.gcd (stride capacity rehash)] := by
  have whole : step * stride capacity rehash ≡ 0
      [MOD capacity.gcd (stride capacity rehash)] :=
    Nat.modEq_zero_iff_dvd.mpr (Dvd.dvd.mul_left (Nat.gcd_dvd_right _ _) step)
  exact ((position_modEq capacity hash rehash step).of_dvd (Nat.gcd_dvd_left _ _)).trans
    (whole.add_left hash.toNat)

/-- After a period, a path is back where it was. -/
theorem position_add_period (capacity : Nat) (hash rehash : UInt64) (step : Nat) :
    position capacity hash rehash (step + period capacity rehash) =
      position capacity hash rehash step := by
  have around : period capacity rehash * stride capacity rehash ≡ 0 [MOD capacity] := by
    refine Nat.modEq_zero_iff_dvd.mpr ?_
    -- The strides of a period make up the least common multiple.
    rw [period, Nat.div_mul_right_comm (Nat.gcd_dvd_left _ _)]
    exact Nat.dvd_lcm_left capacity (stride capacity rehash)
  unfold position
  rw [Nat.add_mul, ← Nat.add_assoc]
  exact around.add_left (hash.toNat + step * stride capacity rehash)

/-- Within a period, a path does not come by a slot twice. -/
theorem position_injOn {capacity : Nat} (positive : 0 < capacity) (hash rehash : UInt64) :
    Set.InjOn (position capacity hash rehash) {step | step < period capacity rehash} := by
  intro step within step' within' same
  have congruent : hash.toNat + step * stride capacity rehash ≡
      hash.toNat + step' * stride capacity rehash [MOD capacity] := same
  have strides := Nat.ModEq.add_left_cancel' hash.toNat congruent
  exact (strides.cancel_right_div_gcd positive).eq_of_lt_of_lt within within'

/-- Some strides make up any distance that the common divisor divides. -/
theorem exists_mul_stride_modEq
    {capacity distance : Nat} {rehash : UInt64}
    (positive : 0 < capacity)
    (divides : capacity.gcd (stride capacity rehash) ∣ distance) :
    ∃ step < period capacity rehash,
      step * stride capacity rehash ≡ distance [MOD capacity] := by
  obtain ⟨share, rfl⟩ := divides
  have common : 0 < capacity.gcd (stride capacity rehash) := Nat.gcd_pos_of_pos_left _ positive
  -- Without the common divisor, the stride can be inverted.
  obtain ⟨step, small, reaches⟩ := Nat.exists_mul_mod_eq_of_coprime share
    (Nat.coprime_div_gcd_div_gcd common).symm
    (Nat.div_pos (Nat.gcd_le_left _ positive) common).ne'
  refine ⟨step, small, ?_⟩
  have scaled := Nat.ModEq.mul_left' (capacity.gcd (stride capacity rehash)) reaches
  rwa [← Nat.mul_assoc, Nat.mul_div_cancel' (Nat.gcd_dvd_right _ _),
    Nat.mul_div_cancel' (Nat.gcd_dvd_left _ _), Nat.mul_comm _ step] at scaled

/-- A path comes by every slot that leaves the remainder of its hash before it begins
anew. -/
theorem exists_position_eq_of_modEq
    {capacity index : Nat} {hash rehash : UInt64}
    (within : index < capacity)
    (same : index ≡ hash.toNat [MOD capacity.gcd (stride capacity rehash)]) :
    ∃ step < period capacity rehash, position capacity hash rehash step = index := by
  have home := Nat.mod_lt hash.toNat (show capacity > 0 by omega)
  -- The distance from the first slot, once around the array if need be.
  have around : hash.toNat + (capacity - hash.toNat % capacity) ≡ 0 [MOD capacity] := by
    have reduced := (Nat.mod_modEq hash.toNat capacity).symm.add_right
      (capacity - hash.toNat % capacity)
    rw [Nat.add_sub_cancel' home.le] at reduced
    exact reduced.trans (Nat.modEq_zero_iff_dvd.mpr dvd_rfl)
  have divides : capacity.gcd (stride capacity rehash) ∣
      index + (capacity - hash.toNat % capacity) :=
    Nat.modEq_zero_iff_dvd.mp
      ((same.add_right _).trans (around.of_dvd (Nat.gcd_dvd_left _ _)))
  obtain ⟨step, small, strides⟩ := exists_mul_stride_modEq (by omega) divides
  refine ⟨step, small, ?_⟩
  have reaches : position capacity hash rehash step ≡ index [MOD capacity] :=
    calc position capacity hash rehash step
        ≡ hash.toNat + step * stride capacity rehash [MOD capacity] :=
          position_modEq capacity hash rehash step
      _ ≡ hash.toNat + (index + (capacity - hash.toNat % capacity)) [MOD capacity] :=
          strides.add_left _
      _ ≡ index + 0 [MOD capacity] := by
          rw [Nat.add_left_comm]
          exact around.add_left index
  exact reaches.eq_of_lt_of_lt (Nat.mod_lt _ (by omega)) within

/-! ## Coprime strides -/

theorem period_eq_of_coprime
    {capacity : Nat} {rehash : UInt64}
    (coprime : (stride capacity rehash).Coprime capacity) :
    period capacity rehash = capacity := by
  rw [period, coprime.symm.gcd_eq_one, Nat.div_one]

/-- With such a stride, a path comes by every slot before it begins anew. -/
theorem exists_position_eq
    {capacity index : Nat} {rehash : UInt64}
    (hash : UInt64)
    (coprime : (stride capacity rehash).Coprime capacity)
    (within : index < capacity) :
    ∃ step < capacity, position capacity hash rehash step = index := by
  have same : index ≡ hash.toNat [MOD capacity.gcd (stride capacity rehash)] := by
    rw [coprime.symm.gcd_eq_one]
    exact Nat.modEq_one
  obtain ⟨step, small, reaches⟩ := exists_position_eq_of_modEq within same
  rw [period_eq_of_coprime coprime] at small
  exact ⟨step, small, reaches⟩

/-- At a prime capacity, no stride has a factor in common with the capacity. -/
theorem coprime_stride_of_prime
    {capacity : Nat}
    (prime : capacity.Prime)
    (rehash : UInt64) :
    (stride capacity rehash).Coprime capacity := by
  have least := prime.two_le
  have positive := stride_pos capacity rehash
  have small : stride capacity rehash < capacity := by
    have bound := stride_le capacity rehash
    omega
  exact (Nat.coprime_of_lt_prime positive.ne' small prime).symm

/-- At a prime capacity, the slots of a path are different ones as long as there are
slots left. -/
theorem nodup_positions
    {capacity : Nat}
    (prime : capacity.Prime)
    (hash rehash : UInt64)
    {count : Nat}
    (bounded : count ≤ capacity) :
    ((List.range count).map (position capacity hash rehash)).Nodup := by
  refine List.Nodup.map_on ?_ List.nodup_range
  intro step taken step' taken' same
  rw [List.mem_range] at taken taken'
  have whole := period_eq_of_coprime (coprime_stride_of_prime prime rehash)
  have early : step < period capacity rehash := by omega
  have early' : step' < period capacity rehash := by omega
  exact position_injOn prime.pos hash rehash early early' same

/-- All in all, they are all slots. -/
theorem perm_positions {capacity : Nat} (prime : capacity.Prime) (hash rehash : UInt64) :
    ((List.range capacity).map (position capacity hash rehash)).Perm (List.range capacity) := by
  have within : (List.range capacity).map (position capacity hash rehash) ⊆
      List.range capacity := by
    intro index visited
    obtain ⟨step, _, rfl⟩ := List.mem_map.mp visited
    exact List.mem_range.mpr (Nat.mod_lt _ prime.pos)
  apply (List.subperm_of_subset (nodup_positions prime hash rehash le_rfl)
    within).perm_of_length_le
  rw [List.length_map]

end Probe
end OpenAddressing
