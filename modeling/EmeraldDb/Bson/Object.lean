/-
Module: EmeraldDb.Bson.Object
Purpose: BSON objects as byte strings that open with their own size, and the
  element walk by which a field is looked up.
Trusted boundary: human-reviewed spec
Main exports: BsonObj, BsonFault, elementSize, getField, binDataRecord
-/
import EmeraldDb.Core
import EmeraldDb.Lib.ByteMemory

namespace EmeraldDb

open ByteMemory

/-- `BSONObjMaxInternalSize`. -/
def bsonObjMaxInternalSize : Nat := 16793600

/-- `BSONObj::isValid` on the `int` an object opens with. -/
def bsonIsValid (objsize : Int) : Bool :=
  decide (0 < objsize) && decide (objsize ≤ bsonObjMaxInternalSize)

/-- A `BSONObj`: every constructor checks `isValid`, and the bytes up to
`objsize()` belong to the object. -/
structure BsonObj where
  bytes : List UInt8
  headed : 4 ≤ bytes.length
  size_le : bytes.length ≤ bsonObjMaxInternalSize
  size_eq : readU32 (ofBytes bytes) 0 = bytes.length

namespace BsonObj

/-- `objsize()`, which is positive and fits an `int`. -/
def objsize (obj : BsonObj) : Nat := obj.bytes.length

theorem objsize_ge (obj : BsonObj) : 4 ≤ obj.objsize := obj.headed

theorem objsize_le (obj : BsonObj) : obj.objsize ≤ 16793600 := obj.size_le

/-- `BSONObj()`, the object without elements. -/
def empty : BsonObj where
  bytes := [5, 0, 0, 0, 0]
  headed := by decide
  size_le := by decide
  size_eq := by decide

end BsonObj

/-- Why an element walk does not come to an answer. -/
inductive BsonFault where
  /-- a `bson::assertion` is thrown -/
  | assertion
  /-- the walk reads past the object or does not advance -/
  | runaway
deriving DecidableEq, Repr

/-- `strlen` of the C string at `pos`, if it ends inside the object. -/
def cstringLength (bytes : List UInt8) (pos : Nat) : Option Nat :=
  (bytes.drop pos).findIdx? (· == 0)

/-- The C string at `pos`, if it ends inside the object. -/
def cstring (bytes : List UInt8) (pos : Nat) : Option (List UInt8) :=
  (cstringLength bytes pos).map (bytes.drop pos).take

/-- The `int` at `pos`, if it lies inside the object. -/
def intAt (bytes : List UInt8) (pos : Nat) : Option Int :=
  if pos + 4 ≤ bytes.length then some (toI32 (readU32 (ofBytes bytes) pos))
  else none

/-- The size `x` of the value of an element of type `type` whose value starts at
`value`.  What the code adds to a size word is added without a bound here;
`elementSize` wraps the sum. -/
def valueSize (bytes : List UInt8) (type : UInt8) (value : Nat) :
    Except BsonFault Int :=
  let sized (extra : Int) : Except BsonFault Int :=
    match intAt bytes value with
    | some size => .ok (size + extra)
    | none => .error .runaway
  match type.toNat with
  | 0 | 6 | 10 | 127 | 255 => .ok 0          -- EOO Undefined jstNULL MaxKey MinKey
  | 8 => .ok 1                               -- Bool
  | 16 => .ok 4                              -- NumberInt
  | 17 | 9 | 1 | 18 => .ok 8                 -- Timestamp Date NumberDouble NumberLong
  | 7 => .ok 12                              -- jstOID
  | 14 | 13 | 2 => sized 4                   -- Symbol Code String
  | 12 => sized 16                           -- DBRef
  | 15 | 3 | 4 => sized 0                    -- CodeWScope Object Array
  | 5 => sized 5                             -- BinData
  | 11 =>                                    -- RegEx
      match cstringLength bytes value with
      | none => .error .runaway
      | some len1 =>
          match cstringLength bytes (value + len1 + 1) with
          | none => .error .runaway
          | some len2 => .ok (len1 + 1 + len2 + 1)
  | _ => .error .assertion                   -- massert 10320: bad type

/-- `BSONElement::fieldName`: empty for the end-of-object element. -/
def fieldName (bytes : List UInt8) (pos : Nat) : Option (List UInt8) :=
  if bytes.getD pos 0 = 0 then some [] else cstring bytes (pos + 1)

/-- `BSONElement::size` of the element at `pos`, an `int`. -/
def elementSize (bytes : List UInt8) (pos : Nat) : Except BsonFault Int :=
  let type := bytes.getD pos 0
  if type = 0 then .ok 1
  else
    match cstringLength bytes (pos + 1) with
    | none => .error .runaway
    | some length =>
        match valueSize bytes type (pos + 1 + (length + 1)) with
        | .error fault => .error fault
        | .ok size => .ok (toI32 (size + (length + 1) + 1))

/-- The loop of `getField` from the element at `pos`: `next()` measures the
element before its name is compared.  Every pass that goes on advances, so as
many passes as there are bytes are enough. -/
def getFieldFrom (name bytes : List UInt8) : Nat → Nat →
    Except BsonFault (Option Nat)
  | 0, _ => .error .runaway
  | passes + 1, pos =>
      if pos < bytes.length - 1 then
        match elementSize bytes pos with
        | .error fault => .error fault
        | .ok size =>
            match fieldName bytes pos with
            | none => .error .runaway
            | some field =>
                if field = name then .ok (some pos)
                else if size ≤ 0 then .error .runaway
                else getFieldFrom name bytes passes (pos + size.toNat)
      else .ok none

/-- `BSONObj::getField`: the position of the first element of that name, `none`
for the end-of-object element. -/
def BsonObj.getField (obj : BsonObj) (name : List UInt8) :
    Except BsonFault (Option Nat) :=
  getFieldFrom name obj.bytes obj.bytes.length 4

/-- `DMS_KEY_FILEDNAME`, the text `_id`. -/
def gKeyFieldName : List UInt8 := [95, 105, 100]

/-- `getFieldDottedOrArray(gKeyFieldName)`: the name has no dot, so the field
itself is returned whatever its type. -/
def BsonObj.getKeyField (obj : BsonObj) : Except BsonFault (Option Nat) :=
  obj.getField gKeyFieldName

/-- The object has an `_id` field. -/
def BsonObj.HasKey (obj : BsonObj) : Prop :=
  ∃ pos, obj.getKeyField = .ok (some pos)

/-! ### A record of every size -/

theorem binData_length (payload : List UInt8) :
    (u32Bytes (payload.length + 15) ++
      (5 :: gKeyFieldName ++ [0] ++ u32Bytes payload.length ++ [0] ++ payload ++ [0])).length =
      payload.length + 15 := by
  simp [u32Bytes, gKeyFieldName]

theorem binData_size {payload : List UInt8}
    (fits : payload.length + 15 ≤ bsonObjMaxInternalSize) (rest : List UInt8) :
    readU32 (ofBytes (u32Bytes (payload.length + 15) ++ rest)) 0 = payload.length + 15 := by
  unfold bsonObjMaxInternalSize at fits
  rw [readU32_ofBytes_u32Bytes]
  omega

/-- The object `{ _id : BinData(0, payload) }`. -/
def binDataRecord (payload : List UInt8)
    (fits : payload.length + 15 ≤ bsonObjMaxInternalSize) : BsonObj where
  bytes := u32Bytes (payload.length + 15) ++
    (5 :: gKeyFieldName ++ [0] ++ u32Bytes payload.length ++ [0] ++ payload ++ [0])
  headed := by
    rw [binData_length]
    omega
  size_le := Nat.le_trans (Nat.le_of_eq (binData_length payload)) fits
  size_eq := (binData_size fits _).trans (binData_length payload).symm

@[simp] theorem binDataRecord_objsize (payload : List UInt8)
    (fits : payload.length + 15 ≤ bsonObjMaxInternalSize) :
    (binDataRecord payload fits).objsize = payload.length + 15 :=
  binData_length payload

/-- The walk stops at the first element, whose name is `_id`. -/
theorem binDataRecord_hasKey (payload : List UInt8)
    (fits : payload.length + 15 ≤ bsonObjMaxInternalSize) :
    (binDataRecord payload fits).HasKey := by
  refine ⟨4, ?_⟩
  have length : (binDataRecord payload fits).bytes.length = payload.length + 15 :=
    binDataRecord_objsize payload fits
  have type : (binDataRecord payload fits).bytes.getD 4 0 = 5 := rfl
  have nameLength : cstringLength (binDataRecord payload fits).bytes 5 = some 3 := by
    simp [cstringLength, binDataRecord, u32Bytes, gKeyFieldName, List.findIdx?_cons]
  have name : fieldName (binDataRecord payload fits).bytes 4 =
      some gKeyFieldName := by
    rw [fieldName, type, if_neg (by decide), cstring, nameLength]
    rfl
  have value : ∃ size, valueSize (binDataRecord payload fits).bytes 5 9 = .ok size := by
    simp [valueSize, intAt, length]
  obtain ⟨size, value⟩ := value
  have element : elementSize (binDataRecord payload fits).bytes 4 =
      .ok (toI32 (size + (3 + 1) + 1)) := by
    simp only [elementSize, type, nameLength, value]
    rfl
  rw [BsonObj.getKeyField, BsonObj.getField, length, getFieldFrom,
    if_pos (by omega), element]
  simp only [name, if_true]

/-- There is a record with a key of every size from 15 bytes on. -/
theorem exists_record (size : Nat) (lower : 15 ≤ size)
    (upper : size ≤ bsonObjMaxInternalSize) :
    ∃ record : BsonObj, record.objsize = size ∧ record.HasKey := by
  have length : (List.replicate (size - 15) (0 : UInt8)).length + 15 = size := by
    rw [List.length_replicate]
    omega
  have fits : (List.replicate (size - 15) (0 : UInt8)).length + 15 ≤
      bsonObjMaxInternalSize := Nat.le_trans (Nat.le_of_eq length) upper
  exact ⟨_, (binDataRecord_objsize _ fits).trans length, binDataRecord_hasKey _ fits⟩

end EmeraldDb
