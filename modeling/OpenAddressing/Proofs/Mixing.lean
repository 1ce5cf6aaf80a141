import Mathlib.Data.Nat.Bitwise
import Mathlib.Data.Nat.ModEq
import Mathlib.Data.Nat.Prime.Basic
import OpenAddressing.Digest

/-!
# Mixing without loss

A round of a digest takes no two states to the same one, and neither does the last
mixing.  A state is multiplied by an odd number, be it by a shift and a sum, or xored
with its own upper bits, and either can be undone.  So states that differ stay different
whatever bytes follow, and byte strings that differ in one place have different digests.
-/

namespace OpenAddressing
namespace Digest

open Function (Injective)

/-! ## Words -/

/-- An odd factor can be cancelled modulo a power of two. -/
theorem eq_of_mul_odd_modEq
    {width factor left right : Nat}
    (odd : Odd factor)
    (small : left < 2 ^ width)
    (small' : right < 2 ^ width)
    (same : left * factor ≡ right * factor [MOD 2 ^ width]) :
    left = right := by
  have coprime : (2 ^ width).Coprime factor :=
    Nat.Coprime.pow_left width (Nat.coprime_two_left.mpr odd)
  exact (Nat.ModEq.cancel_right_of_coprime coprime same).eq_of_lt_of_lt small small'

/-- Numbers are equal if they are so after each was xored with its own upper bits. -/
theorem eq_of_xor_shiftRight_eq
    {shift left right : Nat}
    (positive : 0 < shift)
    (same : left ^^^ left >>> shift = right ^^^ right >>> shift) :
    left = right := by
  -- The difference of the two is its own upper part, and a shift makes it smaller.
  have fixed : (left ^^^ right) ^^^ (left ^^^ right) >>> shift = 0 := by
    rw [Nat.shiftRight_xor_distrib]
    calc (left ^^^ right) ^^^ (left >>> shift ^^^ right >>> shift)
        = (left ^^^ left >>> shift) ^^^ (right ^^^ right >>> shift) := by ac_rfl
      _ = 0 := Nat.xor_eq_zero_iff.mpr same
  rw [Nat.xor_eq_zero_iff, Nat.shiftRight_eq_div_pow] at fixed
  by_contra different
  have positive' : 0 < left ^^^ right :=
    Nat.pos_of_ne_zero (mt Nat.xor_eq_zero_iff.mp different)
  exact (Nat.div_lt_self positive' (Nat.one_lt_two_pow positive.ne')).ne fixed.symm

/-- To add a word to itself after a shift to the left is to multiply it by an odd
number. -/
theorem toNat_add_shiftLeft_modEq (word shift : UInt32) :
    (word + word <<< shift).toNat ≡ word.toNat * (2 ^ (shift.toNat % 32) + 1)
      [MOD 2 ^ 32] := by
  rw [UInt32.toNat_add, UInt32.toNat_shiftLeft, Nat.shiftLeft_eq, Nat.mul_succ, Nat.add_comm]
  exact (Nat.mod_modEq _ _).trans ((Nat.mod_modEq _ _).add_right _)

theorem add_shiftLeft_injective {shift : UInt32} (positive : 0 < shift.toNat % 32) :
    Injective fun word : UInt32 => word + word <<< shift := by
  intro left right same
  have odd : Odd (2 ^ (shift.toNat % 32) + 1) :=
    (even_two.pow_of_ne_zero positive.ne').add_one
  have multiplied := (toNat_add_shiftLeft_modEq left shift).symm
  rw [show left + left <<< shift = right + right <<< shift from same] at multiplied
  exact UInt32.toNat_inj.mp (eq_of_mul_odd_modEq odd left.toNat_lt right.toNat_lt
    (multiplied.trans (toNat_add_shiftLeft_modEq right shift)))

theorem xor_shiftRight_injective {shift : UInt32} (positive : 0 < shift.toNat % 32) :
    Injective fun word : UInt32 => word ^^^ word >>> shift := by
  intro left right same
  have same' := congrArg UInt32.toNat same
  simp only [UInt32.toNat_xor, UInt32.toNat_shiftRight] at same'
  exact UInt32.toNat_inj.mp (eq_of_xor_shiftRight_eq positive same')

/-! ## Rounds -/

/-- With one byte, different states lead to different states. -/
theorem multiplicativeRound_injective (byte : UInt8) :
    Injective (multiplicativeRound · byte) := by
  intro left right same
  have multiplied := congrArg UInt64.toNat ((UInt64.add_left_inj _).mp same)
  rw [UInt64.toNat_mul, UInt64.toNat_mul] at multiplied
  exact UInt64.toNat_inj.mp
    (eq_of_mul_odd_modEq (by decide) left.toNat_lt right.toNat_lt multiplied)

/-- From one state, different bytes lead to different states. -/
theorem multiplicativeRound_injective_byte (state : UInt64) :
    Injective (multiplicativeRound state) := by
  intro byte other same
  exact UInt8.toUInt64_inj.mp ((UInt64.add_right_inj _).mp same)

/-- What follows in an avalanche round after the byte was added keeps the sums apart. -/
theorem avalancheMixing_injective :
    Injective fun added : UInt32 => (added + added <<< 10) ^^^ (added + added <<< 10) >>> 6 := by
  have spread : Injective fun added : UInt32 => added + added <<< 10 :=
    add_shiftLeft_injective (by decide)
  have folded : Injective fun spread : UInt32 => spread ^^^ spread >>> 6 :=
    xor_shiftRight_injective (by decide)
  exact folded.comp spread

theorem avalancheRound_injective (byte : UInt8) : Injective (avalancheRound · byte) := by
  have added : Injective fun state : UInt32 => state + byte.toUInt32 :=
    fun _ _ same => (UInt32.add_left_inj _).mp same
  exact avalancheMixing_injective.comp added

theorem avalancheRound_injective_byte (state : UInt32) : Injective (avalancheRound state) := by
  have added : Injective fun byte : UInt8 => state + byte.toUInt32 :=
    fun _ _ same => UInt8.toUInt32_inj.mp ((UInt32.add_right_inj _).mp same)
  exact avalancheMixing_injective.comp added

theorem avalancheFinish_injective : Injective avalancheFinish := by
  have spread : Injective fun state : UInt32 => state + state <<< 3 :=
    add_shiftLeft_injective (by decide)
  have folded : Injective fun spread : UInt32 => spread ^^^ spread >>> 11 :=
    xor_shiftRight_injective (by decide)
  have spread' : Injective fun folded : UInt32 => folded + folded <<< 15 :=
    add_shiftLeft_injective (by decide)
  exact spread'.comp (folded.comp spread)

/-! ## Whole strings -/

/-- The multiplicative digest, taken up from a state. -/
def multiplicativeFrom (state : UInt64) (bytes : List UInt8) : UInt64 :=
  bytes.foldl multiplicativeRound state

/-- The avalanche digest, taken up from a state. -/
def avalancheFrom (state : UInt32) (bytes : List UInt8) : UInt64 :=
  (avalancheFinish (bytes.foldl avalancheRound state)).toUInt64

theorem avalanche_append (front back : List UInt8) :
    avalanche (front ++ back) = avalancheFrom (front.foldl avalancheRound 0) back := by
  rw [avalanche, List.foldl_append]
  rfl

/-- Rounds that keep states apart do so one after another. -/
theorem foldl_injective
    {σ : Type} {round : σ → UInt8 → σ}
    (injective : ∀ byte, Injective (round · byte))
    (bytes : List UInt8) :
    Injective fun state => bytes.foldl round state := by
  induction bytes with
  | nil => exact Function.injective_id
  | cons byte rest inductionHypothesis => exact inductionHypothesis.comp (injective byte)

theorem multiplicativeFrom_injective (bytes : List UInt8) :
    Injective (multiplicativeFrom · bytes) :=
  foldl_injective multiplicativeRound_injective bytes

theorem avalancheFrom_injective (bytes : List UInt8) : Injective (avalancheFrom · bytes) := by
  have widened : Injective UInt32.toUInt64 := fun _ _ same => UInt32.toUInt64_inj.mp same
  exact widened.comp
    (avalancheFinish_injective.comp (foldl_injective avalancheRound_injective bytes))

/-- Byte strings that differ in one place have different digests, wherever the place is
and whatever stands before and behind it.  Both digests take up at the state that they
reached after the front of a string, and the back leads from different states to
different digests. -/
theorem digests_tell_bytes_apart (front back : List UInt8) :
    (∀ byte other : UInt8, byte ≠ other →
      multiplicative (front ++ [byte] ++ back) ≠ multiplicative (front ++ [other] ++ back) ∧
      avalanche (front ++ [byte] ++ back) ≠ avalanche (front ++ [other] ++ back)) ∧
    multiplicative (front ++ back) =
      multiplicativeFrom (front.foldl multiplicativeRound 0) back ∧
    avalanche (front ++ back) = avalancheFrom (front.foldl avalancheRound 0) back ∧
    Injective (multiplicativeFrom · back) ∧
    Injective (avalancheFrom · back) := by
  refine ⟨fun byte other different => ⟨fun same => different ?_, fun same => different ?_⟩,
    multiplicative_append front back, avalanche_append front back,
    multiplicativeFrom_injective back, avalancheFrom_injective back⟩
  · rw [multiplicative_append (front ++ [byte]), multiplicative_append (front ++ [other])] at same
    have state := multiplicativeFrom_injective back same
    rw [multiplicative_append, multiplicative_append] at state
    exact multiplicativeRound_injective_byte _ state
  · rw [avalanche_append (front ++ [byte]), avalanche_append (front ++ [other])] at same
    have state := avalancheFrom_injective back same
    rw [List.foldl_append, List.foldl_append] at state
    exact avalancheRound_injective_byte _ state

/-- Two strings that begin with zeros, which leave both states at zero, and differ in the
upper bit of one byte. -/
theorem digests_tell_upper_bit_apart :
    (0 : UInt8) ≠ 128 ∧
    multiplicative ([0, 0] ++ [0] ++ [255, 0, 7]) ≠
      multiplicative ([0, 0] ++ [128] ++ [255, 0, 7]) ∧
    avalanche ([0, 0] ++ [0] ++ [255, 0, 7]) ≠ avalanche ([0, 0] ++ [128] ++ [255, 0, 7]) := by
  have different : (0 : UInt8) ≠ 128 := by decide
  exact ⟨different, (digests_tell_bytes_apart [0, 0] [255, 0, 7]).1 0 128 different⟩

/-- Bytes in two places can make up for each other. -/
example : multiplicative [1, 0] = multiplicative [0, 31] := by
  decide

end Digest
end OpenAddressing
