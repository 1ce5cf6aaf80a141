import OpenAddressing.Proofs.Discretion
import OpenAddressing.Proofs.Ledger

/-!
# Annotated tables

Any behaviour can be run beside notes that it knows nothing of.  Variants of it that
write some of its calls down differ from it in the notes only, so they obey the same
laws, are as discreet, and are cut short by the same aborts.
-/

namespace OpenAddressing

variable {ε τ τ' β β' σ σ' ι α α' κ : Type} {identity : Nat} {abort : Abort}

/-! ## What a program shares with its image -/

namespace Mirrors

variable {image : τ → τ'} {view : β → β'}
variable {program : EStateM ε τ β} {other : EStateM ε τ' β'}

/-- The image of a value that a program may return may be returned by its image. -/
theorem returns
    (mirrors : Mirrors image view program other)
    {value : β}
    (returns : Returns program value) :
    Returns other (view value) := by
  obtain ⟨before, after, run⟩ := returns
  refine ⟨image before, image after, ?_⟩
  rw [mirrors before, run]
  rfl

/-- What may cut a program short may cut its image short. -/
theorem cutBy
    (mirrors : Mirrors image view program other)
    {abort : ε}
    (cut : CutBy program abort) :
    CutBy other abort := by
  obtain ⟨before, after, run⟩ := cut
  refine ⟨image before, image after, ?_⟩
  rw [mirrors before, run]
  rfl

/-- Foreign code is as discreet as its image. -/
theorem discreet
    {hosts : σ → σ'} {view : β → β'} {foreign : Call σ β} {other : Call σ' β'}
    (mirrors : Mirrors (Thread.map hosts) view foreign other)
    (discreet : Discreet identity other) :
    Discreet identity foreign :=
  fun _ _ run => discreet _ _ (mirrors.passes run)

end Mirrors

namespace Behaviour.Mirrored

variable {hosts : σ → σ'} {copies : α → α'}
variable {behaviour : Behaviour σ ι α} {other : Behaviour σ' ι α'} {laws : Laws ι}

/-- A behaviour obeys the laws that its image obeys. -/
theorem obeys
    (mirrored : behaviour.Mirrored hosts copies other)
    (obeys : other.Obeys laws) :
    behaviour.Obeys laws where
  hash returns := obeys.hash ((mirrored.hash _).returns returns)
  rehash returns := obeys.rehash ((mirrored.rehash _).returns returns)
  compare returns := obeys.compare ((mirrored.compare _ _).returns returns)
  duplicate returns := by
    rw [← mirrored.key]
    exact obeys.duplicate ((mirrored.duplicate _).returns returns)

/-- The aborts of a behaviour are among those of its image. -/
theorem raises
    (mirrored : behaviour.Mirrored hosts copies other)
    (raises : behaviour.Raises abort) :
    other.Raises abort := by
  cases raises with
  | hash item cut => exact .hash item ((mirrored.hash item).cutBy cut)
  | rehash item cut => exact .rehash item ((mirrored.rehash item).cutBy cut)
  | compare stored item cut => exact .compare stored item ((mirrored.compare stored item).cutBy cut)
  | duplicate item cut => exact .duplicate item ((mirrored.duplicate item).cutBy cut)
  | release copy cut => exact .release (copies copy) ((mirrored.release copy).cutBy cut)
  | heapBytes copy cut => exact .heapBytes (copies copy) ((mirrored.heapBytes copy).cutBy cut)

/-- A behaviour is as discreet as its image. -/
theorem discreet
    (mirrored : behaviour.Mirrored hosts copies other)
    (discreet : other.Discreet identity) :
    behaviour.Discreet identity where
  hash item := (mirrored.hash item).discreet (discreet.hash item)
  rehash item := (mirrored.rehash item).discreet (discreet.rehash item)
  compare stored item := (mirrored.compare stored item).discreet (discreet.compare stored item)
  duplicate item := (mirrored.duplicate item).discreet (discreet.duplicate item)
  release copy := (mirrored.release copy).discreet (discreet.release (copies copy))
  heapBytes copy := (mirrored.heapBytes copy).discreet (discreet.heapBytes (copies copy))

end Behaviour.Mirrored

/-! ## Behaviours beside notes -/

namespace Behaviour

variable (behaviour : Behaviour σ ι α)

/-- The behaviour beside notes, which stay as they are. -/
def annotated : Behaviour (Annotated σ κ) ι α where
  key := behaviour.key
  hash item := (behaviour.hash item).annotated
  rehash item := (behaviour.rehash item).annotated
  compare stored item := (behaviour.compare stored item).annotated
  duplicate item := (behaviour.duplicate item).annotated
  release copy := (behaviour.release copy).annotated
  heapBytes copy := (behaviour.heapBytes copy).annotated
  slotBytes := behaviour.slotBytes
  slotBytes_pos := behaviour.slotBytes_pos
  reserve bytes annotated :=
    ((behaviour.reserve bytes annotated.host).1,
      { annotated with host := (behaviour.reserve bytes annotated.host).2 })

/-- Without the notes, the behaviour is what it was. -/
theorem annotated_mirrored :
    (behaviour.annotated : Behaviour (Annotated σ κ) ι α).Mirrored Annotated.host id behaviour where
  key _ := rfl
  hash _ := Call.mirrors_annotated _
  rehash _ := Call.mirrors_annotated _
  compare _ _ := Call.mirrors_annotated _
  duplicate _ := by
    rw [Option.map_id]
    exact Call.mirrors_annotated _
  release _ := Call.mirrors_annotated _
  heapBytes _ := Call.mirrors_annotated _
  slotBytes := rfl
  reserve _ _ := rfl

variable (behaviour : Behaviour (Annotated σ κ) ι α)
variable (aloof : ∀ bytes host, (behaviour.reserve bytes host).2.notes = host.notes)
include aloof

/-- A host that is asked for slots keeps its notes if it does for any memory. -/
theorem notes_slots (count : Nat) (host : Annotated σ κ) :
    (behaviour.slots count host).2.notes = host.notes := by
  unfold slots
  split
  · exact aloof _ host
  · rfl

/-- So it does when it is asked for a move log. -/
theorem notes_moveLog (count : Nat) (host : Annotated σ κ) :
    (behaviour.moveLog count host).2.notes = host.notes := by
  unfold moveLog
  split
  · rfl
  · split
    · exact aloof _ host
    · rfl

end Behaviour

/-! ## Sessions beside notes -/

namespace Session

/-- The session with notes beside its host. -/
def annotate (session : Session σ α) (notes : κ) : Session (Annotated σ κ) α where
  table := session.table
  thread := session.thread.annotate notes
  journal := session.journal

/-- The session without the notes. -/
def plain (session : Session (Annotated σ κ) α) : Session σ α :=
  session.map Annotated.host id

variable (session : Session σ α) (notes : κ)

@[simp] theorem plain_annotate : (session.annotate notes).plain = session := by
  unfold plain Session.map annotate
  rw [Table.map_id]
  rfl

end Session
end OpenAddressing
