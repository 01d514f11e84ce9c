/-
Module: EmeraldDb.Bson.Builder
Purpose: BSON documents, and how BSONObjBuilder writes them into a BufBuilder that grows.
Trusted boundary: human-reviewed spec; malloc and realloc succeed
Main exports: ScalarKind, TextKind, DocumentKind, BsonValue, BsonFields, BufBuilder,
  BufBuilder.copied, appendFields, buildObject, doneAt, inPlace, streamFields, streamObject
-/
import EmeraldDb.Bson.Object

namespace EmeraldDb

open ByteMemory

/-! ### Documents -/

/-- The types whose value has a fixed number of bytes. -/
inductive ScalarKind where
  | minKey
  | numberDouble
  | undefined
  | jstOID
  | bool
  | date
  | jstNULL
  | numberInt
  | timestamp
  | numberLong
  | maxKey
deriving DecidableEq, Repr

/-- The code in `BSONType`. -/
def ScalarKind.typeCode : ScalarKind → UInt8
  | .minKey => 255
  | .numberDouble => 1
  | .undefined => 6
  | .jstOID => 7
  | .bool => 8
  | .date => 9
  | .jstNULL => 10
  | .numberInt => 16
  | .timestamp => 17
  | .numberLong => 18
  | .maxKey => 127

/-- The bytes of a value. -/
def ScalarKind.width : ScalarKind → Nat
  | .minKey | .undefined | .jstNULL | .maxKey => 0
  | .bool => 1
  | .numberInt => 4
  | .numberDouble | .date | .timestamp | .numberLong => 8
  | .jstOID => 12

/-- The types whose value is a text with its length. -/
inductive TextKind where
  | string
  | code
  | symbol
deriving DecidableEq, Repr

def TextKind.typeCode : TextKind → UInt8
  | .string => 2
  | .code => 13
  | .symbol => 14

/-- The types whose value is a document. -/
inductive DocumentKind where
  | object
  | array
deriving DecidableEq, Repr

def DocumentKind.typeCode : DocumentKind → UInt8
  | .object => 3
  | .array => 4

mutual

/-- The value of a field, as the `append` functions take it. -/
inductive BsonValue where
  | scalar (kind : ScalarKind) (bytes : List UInt8) (sized : bytes.length = kind.width)
  | text (kind : TextKind) (text : List UInt8)
  | document (kind : DocumentKind) (fields : BsonFields)
  | binData (subtype : UInt8) (payload : List UInt8)
  | regEx (regex options : List UInt8)
  | dbRef (ns oid : List UInt8) (sized : oid.length = 12)
  | codeWScope (code : List UInt8) (scope : BsonFields)

/-- The fields of a document, with their names. -/
inductive BsonFields where
  | nil
  | cons (name : List UInt8) (value : BsonValue) (rest : BsonFields)

end

/-- The type byte of an element. -/
def BsonValue.type : BsonValue → UInt8
  | .scalar kind _ _ => kind.typeCode
  | .text kind _ => kind.typeCode
  | .document kind _ => kind.typeCode
  | .binData _ _ => 5
  | .regEx _ _ => 11
  | .dbRef _ _ _ => 12
  | .codeWScope _ _ => 15

/-- The names, in order. -/
def BsonFields.names : BsonFields → List (List UInt8)
  | .nil => []
  | .cons name _ rest => name :: rest.names

/-! ### The format -/

/-- An object with these elements: its size, the elements, and the end-of-object element. -/
def documentBytes (elements : List UInt8) : List UInt8 :=
  u32Bytes (elements.length + 5) ++ elements ++ [0]

/-- A text with its length; both count the terminating zero. -/
def textBytes (text : List UInt8) : List UInt8 := u32Bytes (text.length + 1) ++ text ++ [0]

mutual

/-- The bytes of a value. -/
def BsonValue.bytes : BsonValue → List UInt8
  | .scalar _ bytes _ => bytes
  | .text _ text => textBytes text
  | .document _ fields => documentBytes fields.bytes
  | .binData subtype payload => u32Bytes payload.length ++ subtype :: payload
  | .regEx regex options => regex ++ 0 :: options ++ [0]
  | .dbRef ns oid _ => textBytes ns ++ oid
  | .codeWScope code scope =>
      u32Bytes (8 + (code.length + 1) + (scope.bytes.length + 5)) ++ textBytes code ++
        documentBytes scope.bytes

/-- The bytes of the elements: type, name and value of each. -/
def BsonFields.bytes : BsonFields → List UInt8
  | .nil => []
  | .cons name value rest => value.type :: name ++ 0 :: value.bytes ++ rest.bytes

end

/-- The bytes of an element. -/
def elementBytes (name : List UInt8) (value : BsonValue) : List UInt8 :=
  value.type :: name ++ 0 :: value.bytes

/-! ### BufBuilder -/

/-- `BufferMaxSize`. -/
def bufferMaxSize : Nat := 67108864

/-- `_BufBuilder`: what was written, and the size of the allocation it lies in. -/
structure BufBuilder where
  contents : List UInt8
  size : Nat
  inside : contents.length ≤ size

namespace BufBuilder

/-- The constructor. -/
def new (initsize : Nat) : BufBuilder := ⟨[], initsize, Nat.zero_le _⟩

/-- The new size in `grow_reallocate`, for a length that the old one does not hold. -/
def reallocated (size length : Nat) : Nat :=
  let a := if size * 2 = 0 then 512 else size * 2
  if length > a then length + 16 * 1024 else a

theorem le_reallocated (size length : Nat) : length ≤ reallocated size length := by
  unfold reallocated
  dsimp only
  split <;> split <;> omega

/-- `grow` and the store behind it, which every append function makes.  `none` is the
assertion "BufBuilder grow() > 64MB"; where the new length or the new size wraps as an `int`,
the store goes outside the allocation instead, and nothing is built either. -/
def append (b : BufBuilder) (bytes : List UInt8) : Option BufBuilder :=
  if fits : (b.contents ++ bytes).length ≤ b.size then
    some ⟨b.contents ++ bytes, b.size, fits⟩
  else if bufferMaxSize < reallocated b.size (b.contents ++ bytes).length then none
  else
    some ⟨b.contents ++ bytes, reallocated b.size (b.contents ++ bytes).length,
      le_reallocated _ _⟩

/-- What `memcpy` copies of bytes whose length was made an `int`: as many as its value says,
and far too many if it is negative, so that the process is lost. -/
def copied (bytes : List UInt8) : Option (List UInt8) :=
  if bytes.length % 4294967296 < 2147483648 then
    some (bytes.take (bytes.length % 4294967296))
  else none

/-- `appendBuf`, with the length that its callers hold in an `int`. -/
def appendBuf (b : BufBuilder) (bytes : List UInt8) : Option BufBuilder :=
  (copied bytes).bind b.append

/-- `appendStr`, with the ending null. -/
def appendStr (b : BufBuilder) (text : List UInt8) : Option BufBuilder :=
  b.appendBuf (text ++ [0])

/-- `appendNum` of an `int`. -/
def appendInt (b : BufBuilder) (n : Nat) : Option BufBuilder := b.append (u32Bytes n)

/-- `appendNum` of a `char`. -/
def appendChar (b : BufBuilder) (byte : UInt8) : Option BufBuilder := b.append [byte]

end BufBuilder

/-! ### BSONObjBuilder -/

/-- `BSONObj` of bytes that were built: the constructor asserts that the size is valid. -/
def assertedObj (bytes : List UInt8) : Option (List UInt8) :=
  if bsonIsValid (toI32 (readU32 (ofBytes bytes) 0)) then some bytes else none

/-- `_done` and `obj`: the end-of-object element is written, the size goes to the room that
the constructor skipped behind the reference count, and the object is behind that count. -/
def finishObject (b : BufBuilder) : Option (List UInt8) :=
  (b.appendChar 0).bind fun b =>
    assertedObj (u32Bytes (b.contents.length - 4) ++ b.contents.drop 8)

/-- `BSONObjBuilder()`: room for the reference count and the size. -/
def newBuilder : Option BufBuilder :=
  ((BufBuilder.new (512 + 4)).appendInt 0).bind fun b => b.append [0, 0, 0, 0]

mutual

/-- What the `append` functions write behind the type and the name.  A document is built by
a builder of its own. -/
def appendValue (b : BufBuilder) : BsonValue → Option BufBuilder
  | .scalar _ bytes _ => b.append bytes
  | .text _ text => (b.appendInt (text.length + 1)).bind fun b => b.appendStr text
  | .document _ fields =>
      newBuilder.bind fun sub =>
        (appendFields sub fields).bind fun sub =>
          (finishObject sub).bind fun obj => b.append obj
  | .binData subtype payload =>
      (b.appendInt payload.length).bind fun b =>
        (b.appendChar subtype).bind fun b => b.appendBuf payload
  | .regEx regex options => (b.appendStr regex).bind fun b => b.appendStr options
  | .dbRef ns oid _ =>
      (b.appendInt (ns.length + 1)).bind fun b =>
        (b.appendStr ns).bind fun b => b.append oid
  | .codeWScope code scope =>
      newBuilder.bind fun sub =>
        (appendFields sub scope).bind fun sub =>
          (finishObject sub).bind fun obj =>
            (b.appendInt (4 + 4 + code.length + 1 + obj.length)).bind fun b =>
              (b.appendInt (code.length + 1)).bind fun b =>
                (b.appendStr code).bind fun b => b.append obj

/-- One `append` after the other. -/
def appendFields (b : BufBuilder) : BsonFields → Option BufBuilder
  | .nil => some b
  | .cons name value rest =>
      (b.appendChar value.type).bind fun b =>
        (b.appendStr name).bind fun b =>
          (appendValue b value).bind fun b => appendFields b rest

end

/-- Build a document; `none` is an assertion, or a length that lost the process. -/
def buildObject (fields : BsonFields) : Option (List UInt8) :=
  newBuilder.bind fun b => (appendFields b fields).bind finishObject

/-! ### Builders in the buffer of another one -/

theorem patched_length_le (bytes : List UInt8) {offset : Nat} (word : Nat)
    (room : offset + 4 ≤ bytes.length) :
    (bytes.take offset ++ u32Bytes word ++ bytes.drop (offset + 4)).length ≤ bytes.length := by
  rw [List.length_append, List.length_append, List.length_take, List.length_drop,
    u32Bytes_length]
  omega

/-- `*((int*)data) = size`, where the bytes were skipped before. -/
def BufBuilder.patch (b : BufBuilder) (offset word : Nat) : BufBuilder :=
  if room : offset + 4 ≤ b.contents.length then
    { contents := b.contents.take offset ++ u32Bytes word ++ b.contents.drop (offset + 4)
      size := b.size
      inside := Nat.le_trans (patched_length_le b.contents word room) b.inside }
  else b

/-- `done` of a builder whose object begins at the offset in the buffer of another one. -/
def doneAt (b : BufBuilder) (offset : Nat) : Option BufBuilder :=
  (b.appendChar 0).bind fun b =>
    let size := b.contents.length - offset
    if bsonIsValid (toI32 size) then some (b.patch offset size) else none

/-- `BSONObjBuilder(BufBuilder &)` behind `subobjStart` or `subarrayStart`, the appends to it,
and `done`: the size goes to the skipped room, and the object is asserted to be valid. -/
def inPlace (b : BufBuilder) (appends : BufBuilder → Option BufBuilder) : Option BufBuilder :=
  (b.append [0, 0, 0, 0]).bind fun sub =>
    (appends sub).bind fun sub => doneAt sub b.contents.length

mutual

/-- A document is written where it belongs; everything else is appended. -/
def streamValue (b : BufBuilder) : BsonValue → Option BufBuilder
  | .document _ fields => inPlace b fun sub => streamFields sub fields
  | .scalar kind bytes sized => appendValue b (.scalar kind bytes sized)
  | .text kind text => appendValue b (.text kind text)
  | .binData subtype payload => appendValue b (.binData subtype payload)
  | .regEx regex options => appendValue b (.regEx regex options)
  | .dbRef ns oid sized => appendValue b (.dbRef ns oid sized)
  | .codeWScope code scope => appendValue b (.codeWScope code scope)

def streamFields (b : BufBuilder) : BsonFields → Option BufBuilder
  | .nil => some b
  | .cons name value rest =>
      (b.appendChar value.type).bind fun b =>
        (b.appendStr name).bind fun b =>
          (streamValue b value).bind fun b => streamFields b rest

end

/-- Build a document whose embedded documents are written in its own buffer. -/
def streamObject (fields : BsonFields) : Option (List UInt8) :=
  newBuilder.bind fun b => (streamFields b fields).bind finishObject

end EmeraldDb
