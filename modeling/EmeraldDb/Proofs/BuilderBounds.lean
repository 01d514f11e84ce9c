/-
Module: EmeraldDb.Proofs.BuilderBounds
Purpose: When the builders of a message with a list of objects write inside their buffer,
  although they add up its size in an `int` that may wrap.
Trusted boundary: none
Main exports: ListMessage, BuildsInside, SizeCounted, buildsInside_iff_sizeCounted,
  largeRecords_overrun
-/
import EmeraldDb.Proofs.AgentRequest

namespace EmeraldDb

open ByteMemory

/-! ### The copy loop -/

/-- The copy loop follows the objects, not the counted size: it stays inside the block
exactly if the block holds the true length. -/
theorem fillAll_eq (code : Int) (objs : List BsonObj) (buffer : MsgBuffer) :
    fillAll code objs buffer =
      if listLength objs ≤ buffer.allocated then some (buffer.filled (listMessage code objs))
      else none := by
  have header : (intBytes [toI32 (listLength objs), code, toI32 objs.length]).length =
      sizeofMsgInsert := intBytes_length _
  have whole : listLength objs = sizeofMsgInsert + (objectBytes objs).length := rfl
  by_cases room : listLength objs ≤ buffer.allocated
  · rw [if_pos room, fillAll_of_room room]
  · rw [if_neg room]
    apply Option.eq_none_iff_forall_ne_some.mpr
    intro stored filled
    obtain ⟨fields, ints, objects⟩ := Option.bind_eq_some_iff.mp filled
    obtain ⟨fieldRoom, rfl⟩ := MsgBuffer.storeInts_some ints
    obtain ⟨objectRoom, -⟩ := MsgBuffer.storeObjects_some objects
    rcases objectRoom with empty | fits
    · subst empty
      have none : (objectBytes []).length = 0 := rfl
      rcases fieldRoom with impossible | fits
      · cases impossible
      · omega
    · rw [MsgBuffer.after_allocated] at fits
      exact room fits

/-! ### Writing inside the buffer -/

/-- The vector builders. -/
inductive ListMessage where
  | insert
  | command
deriving DecidableEq, Repr

namespace ListMessage

def code : ListMessage → Int
  | .insert => opInsert
  | .command => opCommand

def build : ListMessage →
    Option Mem → List BsonObj → MsgBuffer → Option (ReturnCode × MsgBuffer)
  | .insert => msgBuildInsertAll
  | .command => msgBuildCommandAll

theorem build_fill (kind : ListMessage) (realloc : Option Mem) (objs : List BsonObj)
    (buffer : MsgBuffer) :
    kind.build realloc objs buffer =
      msgBuild realloc (toI32 (listLength objs)) (fillAll kind.code objs) buffer := by
  cases kind with
  | insert => exact msgBuildAll_fill opInsert realloc objs buffer
  | command => exact msgBuildAll_fill opCommand realloc objs buffer

end ListMessage

/-- A builder comes back without having written outside the block.  With an error the
caller's buffer is as it was; with `EDB_OK` there are at least `messageLen` bytes, and in
both cases the size variable promises no more than there is. -/
structure BuildsInside (kind : ListMessage) (realloc : Option Mem) (objs : List BsonObj)
    (buffer : MsgBuffer) : Prop where
  returns : ∃ rc after, kind.build realloc objs buffer = some (rc, after)
  error : ∀ {rc after}, kind.build realloc objs buffer = some (rc, after) → rc ≠ edbOk →
    after = buffer
  covered : ∀ {after}, kind.build realloc objs buffer = some (edbOk, after) →
    messageLen after.contents ≤ after.allocated
  promised : ∀ {rc after}, kind.build realloc objs buffer = some (rc, after) →
    after.size ≤ after.allocated

/-- The message has the size that was counted, or the wrapped size does no harm: it asks for
memory that realloc does not find, or the block is large enough all the same. -/
def SizeCounted (realloc : Option Mem) (objs : List BsonObj) (buffer : MsgBuffer) : Prop :=
  listLength objs < 2147483648 ∨
    if buffer.size < toI32 (listLength objs) then realloc = none
    else listLength objs ≤ buffer.allocated

/-- What a list builder returns. -/
theorem ListMessage.build_eq (kind : ListMessage) (realloc : Option Mem) (objs : List BsonObj)
    {buffer : MsgBuffer} (sound : buffer.Sound) (sized : 0 ≤ buffer.size) :
    kind.build realloc objs buffer =
      if buffer.size < toI32 (listLength objs) then
        match realloc with
        | none => some (edbOom, buffer)
        | some fresh =>
            (fillAll kind.code objs
              (buffer.grow fresh (toI32 (listLength objs)).toNat)).map (edbOk, ·)
      else (fillAll kind.code objs buffer).map (edbOk, ·) := by
  rw [kind.build_fill, msgBuild]
  unfold msgCheckBuffer
  split
  next small =>
    have positive : ¬ toI32 (listLength objs) < 0 := by omega
    have heap : ¬ buffer.heap = false := by simp [sound.heap]
    rw [if_neg positive, if_neg heap]
    cases realloc with
    | none => rfl
    | some fresh => rfl
  next => rfl

theorem messageLen_listMessage (code : Int) (objs : List BsonObj) (buffer : MsgBuffer) :
    messageLen (buffer.filled (listMessage code objs)).contents = toI32 (listLength objs) := by
  have spelled : Spells (buffer.filled (listMessage code objs)).contents
      [toI32 (listLength objs), code, toI32 objs.length] (objectBytes objs) := Spells.of_written
  exact Spells.int_eq [] (toI32_int _).1 (toI32_int _).2 spelled

theorem toI32_natCast_le (n : Nat) : toI32 n ≤ n := by
  unfold toI32
  omega

/-- A block that holds the true length is filled without harm. -/
theorem BuildsInside.of_filled {kind : ListMessage} {realloc : Option Mem} {objs : List BsonObj}
    {buffer room : MsgBuffer} (covered : room.size ≤ room.allocated)
    (fits : listLength objs ≤ room.allocated)
    (built : kind.build realloc objs buffer = (fillAll kind.code objs room).map (edbOk, ·)) :
    BuildsInside kind realloc objs buffer := by
  have filled : kind.build realloc objs buffer =
      some (edbOk, room.filled (listMessage kind.code objs)) := by
    rw [built, fillAll_eq, if_pos fits]
    rfl
  have bound := toI32_natCast_le (listLength objs)
  constructor
  · exact ⟨_, _, filled⟩
  · intro rc after done failed
    rw [filled] at done
    cases done
    exact absurd rfl failed
  · intro after done
    rw [filled] at done
    cases done
    rw [messageLen_listMessage]
    have same : (room.filled (listMessage kind.code objs)).allocated = room.allocated := rfl
    omega
  · intro rc after done
    rw [filled] at done
    cases done
    exact covered

/-- A block that does not hold the true length is overrun. -/
theorem not_buildsInside_of_overrun {kind : ListMessage} {realloc : Option Mem}
    {objs : List BsonObj} {buffer room : MsgBuffer} (short : room.allocated < listLength objs)
    (built : kind.build realloc objs buffer = (fillAll kind.code objs room).map (edbOk, ·)) :
    ¬ BuildsInside kind realloc objs buffer := by
  intro inside
  obtain ⟨rc, after, returned⟩ := inside.returns
  rw [built, fillAll_eq, if_neg (Nat.not_le.mpr short)] at returned
  cases returned

/-- A list builder stays inside the buffer exactly when the size it counted is the true one,
or does no harm. -/
theorem buildsInside_iff_sizeCounted (kind : ListMessage) (realloc : Option Mem)
    (objs : List BsonObj) {buffer : MsgBuffer} (sound : buffer.Sound) (sized : 0 ≤ buffer.size) :
    BuildsInside kind realloc objs buffer ↔ SizeCounted realloc objs buffer := by
  have built := kind.build_eq realloc objs sound sized
  have covered := sound.covered
  have wrapped := (toI32_int (listLength objs)).2
  have counted : listLength objs < 2147483648 → toI32 (listLength objs) = listLength objs :=
    fun small => toI32_of_lt (by omega) (by omega)
  unfold SizeCounted
  by_cases small : buffer.size < toI32 (listLength objs)
  · rw [if_pos small] at built
    rw [if_pos small]
    cases realloc with
    | none =>
        refine iff_of_true ⟨⟨_, _, built⟩, ?_, ?_, ?_⟩ (.inr rfl)
        · intro rc after done _
          rw [built] at done
          cases done
          rfl
        · intro after done
          rw [built] at done
          cases done
        · intro rc after done
          rw [built] at done
          cases done
          exact covered
    | some fresh =>
        have room : (buffer.grow fresh (toI32 (listLength objs)).toNat).allocated =
            (toI32 (listLength objs)).toNat := rfl
        by_cases fits : listLength objs < 2147483648
        · have exact_ := counted fits
          refine iff_of_true (.of_filled (Int.le_refl _) ?_ built) (.inl fits)
          omega
        · refine iff_of_false (not_buildsInside_of_overrun ?_ built) ?_
          · omega
          · rintro (small | impossible)
            · exact fits small
            · cases impossible
  · rw [if_neg small] at built
    rw [if_neg small]
    by_cases fits : listLength objs ≤ buffer.allocated
    · exact iff_of_true (.of_filled covered fits built) (.inr fits)
    · refine iff_of_false (not_buildsInside_of_overrun (Nat.not_le.mp fits) built) ?_
      rintro (true_size | enough)
      · have exact_ := counted true_size
        omega
      · exact fits enough

/-- A block of twelve bytes. -/
def twelveBytes : MsgBuffer where
  size := 12
  allocated := 12
  heap := true
  contents := fun _ => 0

theorem twelveBytes_sound : twelveBytes.Sound := ⟨rfl, Int.le_refl 12⟩

theorem buildsInside_iff_sizeCounted_one :
    twelveBytes.Sound ∧ 0 ≤ twelveBytes.size ∧
      (BuildsInside .insert (some fun _ => 0) [BsonObj.empty] twelveBytes ↔
        SizeCounted (some fun _ => 0) [BsonObj.empty] twelveBytes) :=
  ⟨twelveBytes_sound, by decide,
    buildsInside_iff_sizeCounted .insert (some fun _ => 0) [BsonObj.empty] twelveBytes_sound
      (by decide)⟩

theorem objectBytes_replicate_length (count : Nat) (obj : BsonObj) :
    (objectBytes (List.replicate count obj)).length = count * obj.objsize := by
  induction count with
  | zero => exact (Nat.zero_mul _).symm
  | succ count ih =>
      rw [List.replicate_succ, objectBytes_cons_length, ih, Nat.succ_mul, Nat.add_comm]

/-- An object of 2^24 bytes. -/
def largeRecord : BsonObj :=
  binDataRecord (List.replicate 16777201 0) (by rw [List.length_replicate]; decide)

/-- The sizes of 256 such objects add up to 2^32, so the message is taken to have its twelve
header bytes only, and the objects are copied behind the block. -/
theorem largeRecords_overrun :
    twelveBytes.Sound ∧ 0 ≤ twelveBytes.size ∧
      ¬ BuildsInside .insert none (List.replicate 256 largeRecord) twelveBytes := by
  have size : largeRecord.objsize = 16777216 := by
    rw [largeRecord, binDataRecord_objsize, List.length_replicate]
  have length : listLength (List.replicate 256 largeRecord) = 4294967308 := by
    rw [listLength, objectBytes_replicate_length, size]
    rfl
  have built := ListMessage.insert.build_eq none (List.replicate 256 largeRecord)
    twelveBytes_sound (by decide)
  rw [length, if_neg (by decide)] at built
  refine ⟨twelveBytes_sound, by decide, not_buildsInside_of_overrun ?_ built⟩
  rw [length]
  decide

end EmeraldDb
