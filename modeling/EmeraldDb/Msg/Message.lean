/-
Module: EmeraldDb.Msg.Message
Purpose: The wire messages of msg.hpp: the builders, which grow the caller's buffer
  and write one message into it, and the extractors.
Trusted boundary: human-reviewed spec; realloc answers through an argument
Main exports: MsgBuffer, msgCheckBuffer, msgBuildReply, msgBuildInsert,
  msgBuildInsertAll, msgBuildDelete, msgBuildQuery, msgBuildCommand,
  msgBuildCommandAll, msgExtraReply, msgExtractInsert, msgExtractDelete,
  msgExtractQuery, msgExtractCommand
-/
import EmeraldDb.Bson.Object
import EmeraldDb.Lib.SelfSized

namespace EmeraldDb

open ByteMemory

def opReply : Int := 1
def opInsert : Int := 2
def opDelete : Int := 3
def opQuery : Int := 4
def opCommand : Int := 5
def opDisconnect : Int := 6
def opSnapshot : Int := 8

/-! ### Fields of a message -/

/-- The `int` at an address. -/
def intAtAddress (m : Mem) (a : Nat) : Int := toI32 (readU32 m a)

/-- `MsgHeader::messageLen`. -/
def messageLen (m : Mem) : Int := intAtAddress m 0

/-- `MsgHeader::opCode`. -/
def opCode (m : Mem) : Int := intAtAddress m 4

/-- `sizeof(MsgHeader)`, `sizeof(MsgDelete)` and `sizeof(MsgQuery)`. -/
def sizeofMsgHeader : Nat := 8

/-- `sizeof(MsgInsert)` and `sizeof(MsgCommand)`: the count stands behind the header. -/
def sizeofMsgInsert : Nat := 12

/-- `sizeof(MsgReply)`: `returnCode` and `numReturn` stand behind the header. -/
def sizeofMsgReply : Nat := 16

/-- `objsize()` of the object at an address, where `isValid` accepts it. -/
def bsonSizeAt (m : Mem) (a : Nat) : Option Nat :=
  if bsonIsValid (intAtAddress m a) then some (intAtAddress m a).toNat else none

/-- `BSONObj(const char *)` as the bytes of the object; without a valid size the
constructor prints the element behind the size, wherever that ends, and throws. -/
def bsonObjAt (m : Mem) (a : Nat) : Option (List UInt8) :=
  (bsonSizeAt m a).map (readBytes m a)

/-- The objects met from an address on, stepping by each object's own size. -/
def objectsFrom (m : Mem) (count a : Nat) : Option (List (List UInt8)) :=
  itemsFrom bsonSizeAt m count a

/-! ### The buffer of a message -/

/-- A message buffer: the variable `*pBufferSize`, the number of bytes behind
`*ppBuffer`, whether they came from malloc or realloc, and what they hold. -/
structure MsgBuffer where
  size : Int
  allocated : Nat
  heap : Bool
  contents : Mem

namespace MsgBuffer

/-- The variable promises no more than there is, and the block may be moved. -/
structure Sound (buffer : MsgBuffer) : Prop where
  heap : buffer.heap = true
  covered : buffer.size ≤ buffer.allocated

/-- Store bytes; a store past the block has no meaning. -/
def store (buffer : MsgBuffer) (a : Nat) (bytes : List UInt8) : Option MsgBuffer :=
  if a + bytes.length ≤ buffer.allocated then
    some { buffer with contents := writeBytes buffer.contents a bytes }
  else none

/-- Assign consecutive `int` fields. -/
def storeInts (buffer : MsgBuffer) : Nat → List Int → Option MsgBuffer
  | _, [] => some buffer
  | a, value :: values =>
      (buffer.store a (u32Bytes (toU32 value))).bind fun buffer =>
        buffer.storeInts (a + 4) values

/-- The loop that copies one object behind the other. -/
def storeObjects (buffer : MsgBuffer) : Nat → List BsonObj → Option MsgBuffer
  | _, [] => some buffer
  | p, obj :: objs =>
      (buffer.store p obj.bytes).bind fun buffer =>
        buffer.storeObjects (p + obj.objsize) objs

/-- `realloc` keeps what the block held and finds `fresh` behind it. -/
def grow (buffer : MsgBuffer) (fresh : Mem) (length : Nat) : MsgBuffer where
  size := length
  allocated := length
  heap := true
  contents := fun a => if a < buffer.allocated then buffer.contents a else fresh a

end MsgBuffer

/-- `msgCheckBuffer`.  `realloc` is what realloc finds in the bytes it adds, or NULL;
a block that is not its own cannot be reallocated. -/
def msgCheckBuffer (realloc : Option Mem) (length : Int) (buffer : MsgBuffer) :
    Option (ReturnCode × MsgBuffer) :=
  if buffer.size < length then
    if length < 0 then some (edbInvalidArg, buffer)
    else if buffer.heap = false then none
    else
      match realloc with
      | none => some (edbOom, buffer)
      | some fresh => some (edbOk, buffer.grow fresh length.toNat)
  else some (edbOk, buffer)

/-! ### Builders -/

/-- What every builder does: make room for `size` bytes, then fill them. -/
def msgBuild (realloc : Option Mem) (size : Int) (fill : MsgBuffer → Option MsgBuffer)
    (buffer : MsgBuffer) : Option (ReturnCode × MsgBuffer) :=
  (msgCheckBuffer realloc size buffer).bind fun (rc, buffer) =>
    if rc ≠ edbOk then some (rc, buffer)
    else (fill buffer).map fun buffer => (edbOk, buffer)

/-- A message with one object behind `header` bytes; `body` are the `int` fields
behind `opCode`. -/
def msgBuildOne (header : Nat) (code : Int) (body : List Int) (realloc : Option Mem)
    (obj : BsonObj) (buffer : MsgBuffer) : Option (ReturnCode × MsgBuffer) :=
  let size := toI32 (header + obj.objsize)
  msgBuild realloc size
    (fun buffer =>
      (buffer.storeInts 0 (size :: code :: body)).bind fun buffer =>
        buffer.store header obj.bytes)
    buffer

/-- The loop that adds up the sizes in an `int`. -/
def addSizes (size : Int) (objs : List BsonObj) : Int :=
  objs.foldl (fun size obj => toI32 (size + obj.objsize)) size

/-- A message with a count and a list of objects behind `header` bytes. -/
def msgBuildAll (header : Nat) (code : Int) (realloc : Option Mem) (objs : List BsonObj)
    (buffer : MsgBuffer) : Option (ReturnCode × MsgBuffer) :=
  let size := addSizes header objs
  msgBuild realloc size
    (fun buffer =>
      (buffer.storeInts 0 [size, code, toI32 objs.length]).bind fun buffer =>
        buffer.storeObjects header objs)
    buffer

/-- `msgBuildReply`; `objReturn` may be NULL. -/
def msgBuildReply (realloc : Option Mem) (returnCode : ReturnCode)
    (objReturn : Option BsonObj) (buffer : MsgBuffer) :
    Option (ReturnCode × MsgBuffer) :=
  match objReturn with
  | some obj => msgBuildOne sizeofMsgReply opReply [returnCode, 1] realloc obj buffer
  | none =>
      msgBuild realloc sizeofMsgReply
        (fun buffer => buffer.storeInts 0 [sizeofMsgReply, opReply, returnCode, 0]) buffer

/-- `msgBuildInsert` for one object. -/
def msgBuildInsert : Option Mem → BsonObj → MsgBuffer → Option (ReturnCode × MsgBuffer) :=
  msgBuildOne sizeofMsgInsert opInsert [1]

/-- `msgBuildInsert` for a vector of objects. -/
def msgBuildInsertAll :
    Option Mem → List BsonObj → MsgBuffer → Option (ReturnCode × MsgBuffer) :=
  msgBuildAll sizeofMsgInsert opInsert

/-- `msgBuildDelete`. -/
def msgBuildDelete : Option Mem → BsonObj → MsgBuffer → Option (ReturnCode × MsgBuffer) :=
  msgBuildOne sizeofMsgHeader opDelete []

/-- `msgBuildQuery`. -/
def msgBuildQuery : Option Mem → BsonObj → MsgBuffer → Option (ReturnCode × MsgBuffer) :=
  msgBuildOne sizeofMsgHeader opQuery []

/-- `msgBuildCommand` for one object. -/
def msgBuildCommand : Option Mem → BsonObj → MsgBuffer → Option (ReturnCode × MsgBuffer) :=
  msgBuildOne sizeofMsgInsert opCommand [1]

/-- `msgBuildCommand` for a vector of objects. -/
def msgBuildCommandAll :
    Option Mem → List BsonObj → MsgBuffer → Option (ReturnCode × MsgBuffer) :=
  msgBuildAll sizeofMsgInsert opCommand

/-! ### Extractors -/

/-- A message that starts with a count: the count and the start of the objects, NULL
when the count is 0. -/
def msgExtractCounted (code : Int) (m : Mem) : Except ReturnCode (Int × Option Nat) :=
  if messageLen m < sizeofMsgInsert then .error edbInvalidArg
  else if opCode m ≠ code then .error edbInvalidArg
  else
    let count := intAtAddress m 8
    .ok (count, if 0 = count then none else some sizeofMsgInsert)

/-- `msgExtractInsert`. -/
def msgExtractInsert : Mem → Except ReturnCode (Int × Option Nat) :=
  msgExtractCounted opInsert

/-- `msgExtractCommand`. -/
def msgExtractCommand : Mem → Except ReturnCode (Int × Option Nat) :=
  msgExtractCounted opCommand

/-- A message whose object follows the header; `key = BSONObj(...)` may throw. -/
def msgExtractKey (code : Int) (m : Mem) : Completion (Except ReturnCode (List UInt8)) :=
  if messageLen m < sizeofMsgHeader then .returns (.error edbInvalidArg)
  else if opCode m ≠ code then .returns (.error edbInvalidArg)
  else
    match bsonObjAt m sizeofMsgHeader with
    | some key => .returns (.ok key)
    | none => .throws

/-- `msgExtractDelete`. -/
def msgExtractDelete : Mem → Completion (Except ReturnCode (List UInt8)) :=
  msgExtractKey opDelete

/-- `msgExtractQuery`. -/
def msgExtractQuery : Mem → Completion (Except ReturnCode (List UInt8)) :=
  msgExtractKey opQuery

/-- What `msgExtraReply` hands back. -/
structure ExtractedReply where
  returnCode : ReturnCode
  numReturn : Int
  objStart : Option Nat

/-- `msgExtraReply`, which the header declares as `msgExtractReply`. -/
def msgExtraReply (m : Mem) : Except ReturnCode ExtractedReply :=
  if messageLen m < sizeofMsgReply then .error edbInvalidArg
  else if opCode m ≠ opReply then .error edbInvalidArg
  else
    let numReturn := intAtAddress m 12
    .ok ⟨intAtAddress m 8, numReturn, if 0 = numReturn then none else some sizeofMsgReply⟩

end EmeraldDb
