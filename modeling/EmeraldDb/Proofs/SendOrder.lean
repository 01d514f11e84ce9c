/-
Module: EmeraldDb.Proofs.SendOrder
Purpose: A command sends the encoding of its record, or fails, exactly if the message fits
  the array _sendBuf.
Trusted boundary: none
Main exports: MsgBuffer.Reallocates, RecordCommand.encoding, SendsRecord,
  sendOrder_exact_iff, largeOrder_reallocates
-/
import EmeraldDb.Proofs.ClientReply
import EmeraldDb.Proofs.MessageCodec
import EmeraldDb.Proofs.Transfer

namespace EmeraldDb

open ByteMemory

/-! ### The growth path -/

/-- `msgCheckBuffer` passes the pointer of the buffer to realloc. -/
def MsgBuffer.Reallocates (buffer : MsgBuffer) (length : Int) : Prop :=
  buffer.size < length ∧ 0 ≤ length

/-- It has no result exactly if that pointer is none of malloc's. -/
theorem msgCheckBuffer_eq_none_iff {realloc : Option Mem} {length : Int} {buffer : MsgBuffer} :
    msgCheckBuffer realloc length buffer = none ↔
      buffer.Reallocates length ∧ buffer.heap = false := by
  unfold msgCheckBuffer MsgBuffer.Reallocates
  split_ifs with small negative array
  · exact iff_of_false (by simp) fun both => absurd negative (Int.not_lt.mpr both.1.2)
  · exact iff_of_true rfl ⟨⟨small, Int.not_lt.mp negative⟩, array⟩
  · refine iff_of_false ?_ fun both => array both.2
    cases realloc <;> simp
  · exact iff_of_false (by simp) fun both => small both.1.1

namespace RecordCommand

/-- The size of the `int` fields in front of the object. -/
def header : RecordCommand → Nat
  | .insert => sizeofMsgInsert
  | .query => sizeofMsgHeader
  | .delete => sizeofMsgHeader

/-- `opCode`. -/
def code : RecordCommand → Int
  | .insert => opInsert
  | .query => opQuery
  | .delete => opDelete

/-- The `int` fields behind `opCode`. -/
def body : RecordCommand → List Int
  | .insert => [1]
  | .query => []
  | .delete => []

/-- The builder's encoding of a record. -/
def encoding (command : RecordCommand) (obj : BsonObj) : List UInt8 :=
  obj.message command.header command.code command.body

variable (command : RecordCommand) (obj : BsonObj)

theorem onMsgBuild_eq :
    command.onMsgBuild = msgBuildOne command.header command.code command.body := by
  cases command <;> rfl

theorem header_layout : command.header = 8 + 4 * command.body.length := by
  cases command <;> rfl

theorem header_small : command.header ≤ 16 := by
  cases command <;> decide

theorem encoding_length : (command.encoding obj).length = command.header + obj.objsize :=
  obj.message_length command.code command.header_layout

/-- With a block of the heap, and memory for it, a builder writes the encoding. -/
theorem encoding_built {buffer : MsgBuffer} (sound : buffer.Sound) (fresh : Mem) :
    command.onMsgBuild (some fresh) obj buffer =
      some (edbOk,
        (buffer.reserved fresh (command.encoding obj).length).filled (command.encoding obj)) := by
  rw [onMsgBuild_eq]
  exact (msgBuildOne_granted sound fresh _ command.code _ obj command.header_layout
    command.header_small).2

/-- An encoding that fits the array is stored into it. -/
theorem onMsgBuild_fits (fits : command.header + obj.objsize ≤ sendBufSize) :
    command.onMsgBuild none obj clearedSendBuf =
      some (edbOk, clearedSendBuf.filled (command.encoding obj)) := by
  have inside : command.header + obj.objsize ≤ clearedSendBuf.allocated := fits
  have stored := MsgBuffer.storeMessage_eq command.code obj command.header_layout
    command.header_small inside
  have room : toI32 (command.header + obj.objsize) ≤ clearedSendBuf.size := by
    rw [obj.message_size command.header_small]
    exact Int.ofNat_le.mpr fits
  rw [onMsgBuild_eq, msgBuildOne, msgBuild, msgCheckBuffer_of_room room, Option.bind_some]
  simp only [ne_eq, not_true_eq_false, if_false, stored, Option.map_some, encoding]

/-- A larger one is not built. -/
theorem onMsgBuild_larger (larger : sendBufSize < command.header + obj.objsize) :
    command.onMsgBuild none obj clearedSendBuf = none := by
  have grows : clearedSendBuf.Reallocates (toI32 (command.header + obj.objsize)) := by
    rw [obj.message_size command.header_small]
    exact ⟨Int.ofNat_lt.mpr larger, Int.natCast_nonneg _⟩
  rw [onMsgBuild_eq, msgBuildOne, msgBuild, msgCheckBuffer_eq_none_iff.mpr ⟨grows, rfl⟩,
    Option.bind_none]

/-- The socket is given the encoding. -/
theorem encoding_read (buffer : MsgBuffer) :
    messageLen (buffer.filled (command.encoding obj)).contents =
        (command.encoding obj).length ∧
      readBytes (buffer.filled (command.encoding obj)).contents 0
        (command.encoding obj).length = command.encoding obj := by
  have upper := obj.objsize_le
  have small := command.header_small
  refine ⟨?_, readBytes_writeBytes_self _ _ _⟩
  rw [encoding_length]
  exact messageLen_of_spells (by omega) Spells.of_written

end RecordCommand

/-! ### sendOrder -/

/-- `sendOrder` of a record: the growth path does not come upon the member array, the
builder comes back, and whatever the socket answers there is an error or the whole encoding
was sent. -/
structure SendsRecord (command : RecordCommand) (obj : BsonObj) : Prop where
  owned : clearedSendBuf.Reallocates (command.header + obj.objsize : Nat) →
    clearedSendBuf.heap = true
  builds : ∃ rc buffer, command.onMsgBuild none obj clearedSendBuf = some (rc, buffer)
  whole : ∀ env jsonString socket ret sent, env.fromjson jsonString = some obj →
    sendOrder env command.onMsgBuild jsonString socket = some (ret, sent) →
      ret ≠ edbOk ∨ sent = command.encoding obj

/-- `sendOrder` is right about the records whose message fits `_sendBuf`, and about no
others. -/
theorem sendOrder_exact_iff (command : RecordCommand) (obj : BsonObj) :
    SendsRecord command obj ↔ command.header + obj.objsize ≤ sendBufSize := by
  constructor
  · intro sends
    by_contra larger
    rcases sends.builds with ⟨rc, buffer, built⟩
    cases (command.onMsgBuild_larger obj (Nat.lt_of_not_le larger)).symm.trans built
  · intro fits
    have built := command.onMsgBuild_fits obj fits
    refine ⟨fun grows => ?_, ⟨_, _, built⟩, ?_⟩
    · exact absurd grows.1 (Int.not_lt.mpr (Int.ofNat_le.mpr fits))
    · intro env jsonString socket ret sent parsed done
      obtain ⟨length, bytes⟩ := command.encoding_read obj clearedSendBuf
      simp only [sendOrder, parsed, built, Option.bind_some, ne_eq, not_true_eq_false, if_false,
        length, Int.toNat_natCast, bytes, Option.map_eq_some_iff, Prod.exists] at done
      rcases done with ⟨code, taken, answered, same⟩
      split at same
      next failed =>
        cases same
        exact .inl (by decide)
      next ok =>
        cases same
        obtain rfl := not_not.mp ok
        cases ossSend_code (Int.toNat_natCast _).symm answered with
        | ok all => exact .inr all

/-- An insert of 4085 bytes makes a message of 4097 bytes: the array is passed to realloc. -/
theorem largeOrder_reallocates :
    ∃ obj : BsonObj, obj.objsize = 4085 ∧ obj.HasKey ∧
      clearedSendBuf.Reallocates (RecordCommand.insert.header + obj.objsize : Nat) ∧
      clearedSendBuf.heap = false ∧ ¬ SendsRecord .insert obj := by
  obtain ⟨obj, size, hasKey⟩ := exists_record 4085 (by decide) (by decide)
  have grows : clearedSendBuf.Reallocates (RecordCommand.insert.header + obj.objsize : Nat) := by
    rw [size]
    exact ⟨by decide, by decide⟩
  exact ⟨obj, size, hasKey, grows, rfl, fun sends => absurd (sends.owned grows) (by decide)⟩

end EmeraldDb
