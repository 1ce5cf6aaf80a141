/-!
# Probe paths

The path of a probe starts at the primary hash and goes on in equal strides.
The stride comes from the secondary hash, is at least one, and is at most an
eighth of the capacity (or one), so that successive slots stay close together.
-/

namespace OpenAddressing
namespace Probe

/-- The distance between successive slots of a path. -/
def stride (capacity : Nat) (rehash : UInt64) : Nat :=
  rehash.toNat % max (capacity / 8) 1 + 1

/-- The first slot of a path. -/
def home (capacity : Nat) (hash : UInt64) : Nat :=
  hash.toNat % capacity

/-- The slot one stride further along. -/
def next (capacity stride index : Nat) : Nat :=
  (index + stride) % capacity

/-- The slot that a path reaches after a number of strides. -/
def position (capacity : Nat) (hash rehash : UInt64) (count : Nat) : Nat :=
  (hash.toNat + count * stride capacity rehash) % capacity

@[simp] theorem position_zero (capacity : Nat) (hash rehash : UInt64) :
    position capacity hash rehash 0 = home capacity hash := by
  simp [position, home]

theorem position_succ (capacity : Nat) (hash rehash : UInt64) (count : Nat) :
    position capacity hash rehash (count + 1) =
      next capacity (stride capacity rehash) (position capacity hash rehash count) := by
  unfold next position
  rw [Nat.mod_add_mod, Nat.succ_mul, Nat.add_assoc]

theorem stride_pos (capacity : Nat) (rehash : UInt64) : 0 < stride capacity rehash :=
  Nat.succ_pos _

theorem stride_le (capacity : Nat) (rehash : UInt64) :
    stride capacity rehash ≤ max (capacity / 8) 1 :=
  Nat.mod_lt _ (by omega)

end Probe
end OpenAddressing
