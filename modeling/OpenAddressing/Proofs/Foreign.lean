import Mathlib.Logic.Relation
import OpenAddressing.Behaviour.Basic
import OpenAddressing.Proofs.Ending

/-!
# Foreign code

What the functions of a behaviour may do is collected here: which aborts they
may raise, and where a thread can be after some of them were asked.  The laws
of items say what the functions are meant to compute.  A lawful behaviour may
still raise aborts, refuse copies and memory, and change its host at will; a
steady one never raises an abort.
-/

namespace OpenAddressing

variable {σ ι α : Type}

namespace Behaviour

/-- A function of the behaviour may raise the abort. -/
inductive Raises (behaviour : Behaviour σ ι α) (abort : Abort) : Prop
  | hash (item : ι) (cut : CutBy (behaviour.hash item) abort)
  | rehash (item : ι) (cut : CutBy (behaviour.rehash item) abort)
  | compare (stored item : ι) (cut : CutBy (behaviour.compare stored item) abort)
  | duplicate (item : ι) (cut : CutBy (behaviour.duplicate item) abort)
  | release (copy : α) (cut : CutBy (behaviour.release copy) abort)
  | heapBytes (copy : α) (cut : CutBy (behaviour.heapBytes copy) abort)

/-- No function of the behaviour is ever cut short. -/
def Steady (behaviour : Behaviour σ ι α) : Prop :=
  ∀ abort, ¬ behaviour.Raises abort

/-- A program that only foreign code can cut short returns if foreign code is
steady. -/
theorem Steady.returns
    {τ β : Type} {behaviour : Behaviour σ ι α} {program : EStateM Abort τ β} {state : τ}
    {returned : β → τ → Prop}
    (steady : behaviour.Steady)
    (leads : Leads program state returned fun abort _ => behaviour.Raises abort) :
    ∃ value after, program state = .ok value after := by
  obtain ⟨value, after, run, _⟩ := leads.exists_ok fun abort _ => steady abort
  exact ⟨value, after, run⟩

/-- The thread after one question about items or memory.  Copies are neither
made nor released. -/
inductive Asks (behaviour : Behaviour σ ι α) : Thread σ → Thread σ → Prop
  | hash {before after : Thread σ} (item : ι)
      (run : Passes (behaviour.hash item) before after) : Asks behaviour before after
  | rehash {before after : Thread σ} (item : ι)
      (run : Passes (behaviour.rehash item) before after) : Asks behaviour before after
  | compare {before after : Thread σ} (stored item : ι)
      (run : Passes (behaviour.compare stored item) before after) : Asks behaviour before after
  | reserve (before : Thread σ) (bytes : Nat) :
      Asks behaviour before
        { before with host := (behaviour.reserve bytes before.host).2 }

/-- The thread after any number of questions about items and memory. -/
def Consults (behaviour : Behaviour σ ι α) : Thread σ → Thread σ → Prop :=
  Relation.ReflTransGen behaviour.Asks

namespace Consults

variable {behaviour : Behaviour σ ι α}

theorem refl (thread : Thread σ) : behaviour.Consults thread thread :=
  Relation.ReflTransGen.refl

theorem trans
    {first second third : Thread σ}
    (before : behaviour.Consults first second)
    (after : behaviour.Consults second third) :
    behaviour.Consults first third :=
  Relation.ReflTransGen.trans before after

theorem of_asks
    {before after : Thread σ}
    (asks : behaviour.Asks before after) :
    behaviour.Consults before after :=
  Relation.ReflTransGen.single asks

/-- What every single question keeps is kept by any number of them. -/
theorem keeps
    {holds : Thread σ → Prop}
    (kept : ∀ before after, behaviour.Asks before after → holds before → holds after)
    {before after : Thread σ}
    (consults : behaviour.Consults before after)
    (start : holds before) :
    holds after := by
  induction consults with
  | refl => exact start
  | tail _ asks inductionHypothesis => exact kept _ _ asks inductionHypothesis

end Consults

variable (behaviour : Behaviour σ ι α)

/-- A request for slots leaves the thread as a question about memory does. -/
theorem consults_slots (count : Nat) (thread : Thread σ) :
    behaviour.Consults thread
      { thread with host := (behaviour.slots count thread.host).2 } := by
  unfold slots
  split
  · exact .of_asks (.reserve thread _)
  · exact .refl thread

/-- So does a request for a move log. -/
theorem consults_moveLog (count : Nat) (thread : Thread σ) :
    behaviour.Consults thread
      { thread with host := (behaviour.moveLog count thread.host).2 } := by
  unfold moveLog
  split
  · exact .refl thread
  · split
    · exact .of_asks (.reserve thread _)
    · exact .refl thread

/-- The slots that are granted are empty, and they can be addressed. -/
theorem slots_eq_some
    {behaviour : Behaviour σ ι α} {count : Nat} {host : σ} {slots : Array (Slot α)}
    (granted : (behaviour.slots count host).1 = some slots) :
    slots = Slot.row α count ∧ Slot.addressable behaviour.slotBytes count = true := by
  unfold Behaviour.slots at granted
  split at granted
  · rename_i addressable
    simp only at granted
    split at granted
    · exact ⟨(Option.some.inj granted).symm, addressable⟩
    · simp at granted
  · simp at granted

end Behaviour

/-! ## Laws -/

/-- What the foreign functions of a table are meant to compute: two hashes and
an equality of items.  Equal items have equal hashes. -/
structure Laws (ι : Type) where
  /-- The primary hash. -/
  hash : ι → UInt64
  /-- The secondary hash. -/
  rehash : ι → UInt64
  /-- Which items are equal. -/
  equal : ι → ι → Bool
  /-- Equality is an equivalence. -/
  equivalence : Equivalence fun first second => equal first second = true
  /-- Equal items have the same primary hash. -/
  hash_eq : ∀ {first second : ι}, equal first second = true → hash first = hash second
  /-- Equal items have the same secondary hash. -/
  rehash_eq : ∀ {first second : ι}, equal first second = true → rehash first = rehash second

namespace Laws

/-- Items of one class are equal. -/
def setoid (laws : Laws ι) : Setoid ι where
  r first second := laws.equal first second = true
  iseqv := laws.equivalence

theorem equal_refl (laws : Laws ι) (item : ι) : laws.equal item item = true :=
  laws.equivalence.refl item

theorem equal_comm (laws : Laws ι) (first second : ι) :
    laws.equal first second = laws.equal second first :=
  Bool.eq_iff_iff.mpr ⟨laws.equivalence.symm, laws.equivalence.symm⟩

theorem equal_trans
    (laws : Laws ι) {first second third : ι}
    (before : laws.equal first second = true)
    (after : laws.equal second third = true) :
    laws.equal first third = true :=
  laws.equivalence.trans before after

end Laws

/-- A behaviour obeys laws if its hashes and comparisons are those of the laws
whenever they return, and a copy equals the item that it was made from. -/
structure Behaviour.Obeys (behaviour : Behaviour σ ι α) (laws : Laws ι) : Prop where
  /-- The primary hash is fixed. -/
  hash : ∀ {item value}, Returns (behaviour.hash item) value → value = laws.hash item
  /-- The secondary hash is fixed. -/
  rehash : ∀ {item value}, Returns (behaviour.rehash item) value → value = laws.rehash item
  /-- Comparison finds out equality. -/
  compare : ∀ {stored item ordering}, Returns (behaviour.compare stored item) ordering →
    (ordering = .eq ↔ laws.equal stored item = true)
  /-- A copy equals its item. -/
  duplicate : ∀ {item copy}, Returns (behaviour.duplicate item) (some copy) →
    laws.equal (behaviour.key copy) item = true

/-! ## Laws can be obeyed -/

namespace Laws

/-- The behaviour that computes what the laws say.  It is never cut short, and
the host grants every copy and every array. -/
def faithful (laws : Laws ι) : Behaviour Unit ι ι where
  key := id
  hash item := pure (laws.hash item)
  rehash item := pure (laws.rehash item)
  compare stored item := pure (if laws.equal stored item then .eq else .lt)
  duplicate item := pure (some item)
  release _ := pure ()
  heapBytes _ := pure 0
  slotBytes := 1
  reserve _ host := (true, host)

theorem eq_of_returns_pure {β ε τ : Type} {value result : β}
    (returns : Returns (pure value : EStateM ε τ β) result) :
    result = value := by
  obtain ⟨before, after, run⟩ := returns
  cases run
  rfl

theorem not_cutBy_pure {β ε τ : Type} (value : β) (abort : ε) :
    ¬ CutBy (pure value : EStateM ε τ β) abort := by
  rintro ⟨before, after, run⟩
  cases run

theorem faithful_obeys (laws : Laws ι) : laws.faithful.Obeys laws where
  hash := eq_of_returns_pure
  rehash := eq_of_returns_pure
  compare := by
    intro stored item ordering returns
    rw [eq_of_returns_pure returns]
    cases laws.equal stored item <;> simp
  duplicate := by
    intro item copy returns
    obtain rfl := Option.some.inj (eq_of_returns_pure returns)
    exact laws.equal_refl copy

theorem faithful_steady (laws : Laws ι) : laws.faithful.Steady := by
  intro abort raises
  cases raises with
  | hash item cut => exact not_cutBy_pure _ _ cut
  | rehash item cut => exact not_cutBy_pure _ _ cut
  | compare stored item cut => exact not_cutBy_pure _ _ cut
  | duplicate item cut => exact not_cutBy_pure _ _ cut
  | release copy cut => exact not_cutBy_pure _ _ cut
  | heapBytes copy cut => exact not_cutBy_pure _ _ cut

/-- Numbers with themselves as the primary hash.  The secondary hash is the
quotient by a divisor. -/
def numbers (divisor : Nat) : Laws Nat where
  hash number := UInt64.ofNat number
  rehash number := UInt64.ofNat (number / divisor)
  equal first second := first == second
  equivalence := by
    simp only [beq_iff_eq]
    exact ⟨Eq.refl, Eq.symm, Eq.trans⟩
  hash_eq := by simp +contextual
  rehash_eq := by simp +contextual

end Laws
end OpenAddressing
