/-
Module: EmeraldDb.Bson.Iterator
Purpose: Reading an object back: BSONObjIterator goes from element to element, and the
  accessors of BSONElement take the value apart.
Trusted boundary: human-reviewed spec
Main exports: readValue, readFields, readObject, readElement
-/
import EmeraldDb.Bson.Builder
import EmeraldDb.Lib.Spelling

namespace EmeraldDb

/-- The scalar type of a type byte. -/
def ScalarKind.ofCode (code : UInt8) : Option ScalarKind :=
  match code.toNat with
  | 255 => some .minKey
  | 1 => some .numberDouble
  | 6 => some .undefined
  | 7 => some .jstOID
  | 8 => some .bool
  | 9 => some .date
  | 10 => some .jstNULL
  | 16 => some .numberInt
  | 17 => some .timestamp
  | 18 => some .numberLong
  | 127 => some .maxKey
  | _ => none

/-- The text type of a type byte. -/
def TextKind.ofCode (code : UInt8) : Option TextKind :=
  match code.toNat with
  | 2 => some .string
  | 13 => some .code
  | 14 => some .symbol
  | _ => none

/-- The document type of a type byte. -/
def DocumentKind.ofCode (code : UInt8) : Option DocumentKind :=
  match code.toNat with
  | 3 => some .object
  | 4 => some .array
  | _ => none

/-- A read of so many bytes; past the object it goes astray. -/
def bytesAt (bytes : List UInt8) (start length : Nat) : Except BsonFault (List UInt8) :=
  if start + length ≤ bytes.length then .ok (slice bytes start length) else .error .runaway

/-- A read of an `int` at a pointer. -/
def wordAt (bytes : List UInt8) (pos : Nat) : Except BsonFault Int :=
  match intAt bytes pos with
  | some word => .ok word
  | none => .error .runaway

/-- A read up to the terminating zero. -/
def textAt (bytes : List UInt8) (pos : Nat) : Except BsonFault (List UInt8) :=
  match cstring bytes pos with
  | some text => .ok text
  | none => .error .runaway

/-- `fieldName`. -/
def nameAt (bytes : List UInt8) (pos : Nat) : Except BsonFault (List UInt8) :=
  match fieldName bytes pos with
  | some name => .ok name
  | none => .error .runaway

/-- `BSONObj(const char *)`: it asserts that the size is valid. -/
def embeddedObject (bytes : List UInt8) (pos : Nat) : Except BsonFault (List UInt8) :=
  (wordAt bytes pos).bind fun size =>
    if bsonIsValid size then bytesAt bytes pos size.toNat else .error .assertion

/-- `_numberDouble`, `_numberInt`, `_numberLong`, `boolean`, `date`, `__oid` and so on: the
bytes of a value of fixed size. -/
def readScalar (bytes : List UInt8) (kind : ScalarKind) (pos : Nat) :
    Except BsonFault BsonValue :=
  if inside : pos + kind.width ≤ bytes.length then
    .ok (.scalar kind (slice bytes pos kind.width) (slice_length inside))
  else .error .runaway

/-- `dbrefOID`. -/
def readOid (bytes ns : List UInt8) (pos : Nat) : Except BsonFault BsonValue :=
  if inside : pos + 12 ≤ bytes.length then
    .ok (.dbRef ns (slice bytes pos 12) (slice_length inside))
  else .error .runaway

/-- The value of an element of type `type` at `pos`; `read` reads an embedded object. -/
def readValue (read : List UInt8 → Except BsonFault BsonFields) (bytes : List UInt8)
    (type : UInt8) (pos : Nat) : Except BsonFault BsonValue :=
  match ScalarKind.ofCode type, TextKind.ofCode type, DocumentKind.ofCode type with
  | some kind, _, _ => readScalar bytes kind pos
  -- str(): valuestr() and valuestrsize() - 1
  | none, some kind, _ =>
      (wordAt bytes pos).bind fun size =>
        (bytesAt bytes (pos + 4) (size - 1).toNat).bind fun text => .ok (.text kind text)
  -- embeddedObject()
  | none, none, some kind =>
      (embeddedObject bytes pos).bind fun object =>
        (read object).bind fun fields => .ok (.document kind fields)
  | none, none, none =>
      match type.toNat with
      -- binData(len) and binDataType()
      | 5 =>
          (wordAt bytes pos).bind fun size =>
            (bytesAt bytes (pos + 5) size.toNat).bind fun payload =>
              .ok (.binData (bytes.getD (pos + 4) 0) payload)
      -- regex() and regexFlags()
      | 11 =>
          (textAt bytes pos).bind fun regex =>
            (textAt bytes (pos + regex.length + 1)).bind fun options =>
              .ok (.regEx regex options)
      -- dbrefNS() and dbrefOID()
      | 12 =>
          (wordAt bytes pos).bind fun size =>
            (textAt bytes (pos + 4)).bind fun ns => readOid bytes ns (pos + 4 + size.toNat)
      -- codeWScopeCode() and codeWScopeObject()
      | 15 =>
          (wordAt bytes (pos + 4)).bind fun size =>
            (textAt bytes (pos + 8)).bind fun code =>
              (embeddedObject bytes (pos + 4 + 4 + size.toNat)).bind fun scope =>
                (read scope).bind fun scope => .ok (.codeWScope code scope)
      | _ => .error .assertion

/-- The loop over `more()` and `next()` from the element at `pos`. -/
def readFields : Nat → List UInt8 → Nat → Except BsonFault BsonFields
  | 0, _, _ => .error .runaway
  | passes + 1, bytes, pos =>
      if pos < bytes.length - 1 then
        (elementSize bytes pos).bind fun size =>
          (nameAt bytes pos).bind fun name =>
            (readValue (fun object => readFields passes object 4) bytes (bytes.getD pos 0)
              (pos + 1 + (name.length + 1))).bind fun value =>
                (readFields passes bytes (pos + size.toNat)).bind fun rest =>
                  .ok (.cons name value rest)
      else .ok .nil

/-- The document that an object is.  Every element takes two bytes at least, so as many
passes as there are bytes are enough. -/
def readObject (bytes : List UInt8) : Except BsonFault BsonFields :=
  readFields bytes.length bytes 4

/-- The name and the value of the `BSONElement` at `pos`. -/
def readElement (bytes : List UInt8) (pos : Nat) : Except BsonFault (List UInt8 × BsonValue) :=
  (nameAt bytes pos).bind fun name =>
    (readValue (fun object => readFields bytes.length object 4) bytes (bytes.getD pos 0)
      (pos + 1 + (name.length + 1))).bind fun value => .ok (name, value)

end EmeraldDb
