/-
Module: EmeraldDb.Rtn.Rtn
Purpose: The runtime calls of rtn.cpp that a server thread makes for a request, and
  the store behind them.
Trusted boundary: human-reviewed spec
Main exports: RtnCall, Runtime, rtnInitialize, rtnDestroy, rtnInsert, rtnFind, rtnRemove, rtn
-/
import EmeraldDb.Dms.DmsFile

namespace EmeraldDb

/-- A runtime call with the bytes of the object it is handed. -/
inductive RtnCall where
  | insert (record : List UInt8)
  | find (record : List UInt8)
  | remove (record : List UInt8)
deriving DecidableEq, Repr

/-- A runtime over a store: what a call does, and that its return code is an `int`. -/
structure Runtime (Store : Type) where
  call : RtnCall → Store → Option (Completion ReturnCode × Store)
  int : ∀ {request store rc after}, call request store = some (.returns rc, after) →
    -2147483648 ≤ rc ∧ rc < 2147483648

/-- The object that a byte string is. -/
def BsonObj.fromBytes (bytes : List UInt8) : Option BsonObj :=
  if object : 4 ≤ bytes.length ∧ bytes.length ≤ bsonObjMaxInternalSize ∧
      ByteMemory.readU32 (ByteMemory.ofBytes bytes) 0 = bytes.length then
    some ⟨bytes, object.1, object.2.1, object.2.2⟩
  else none

theorem BsonObj.fromBytes_bytes (obj : BsonObj) : BsonObj.fromBytes obj.bytes = some obj := by
  rw [BsonObj.fromBytes, dif_pos ⟨obj.headed, obj.size_le, obj.size_eq⟩]

/-- `rtnInitialize`, on the file that the name stands for: the code and `_dmsFile`.  The
memory for the object may be refused. -/
def rtnInitialize (allocated strdup : Bool) (opened : Option Errno)
    (answers : List DmsFile.InitAnswer) (disk : OsFile) :
    Option (ReturnCode × Option DmsFile) :=
  if allocated then
    (DmsFile.initializeFile strdup opened answers disk).map fun (rc, file) => (rc, some file)
  else some (edbOom, none)

/-- `~rtn`: what is left is the file. -/
def rtnDestroy (disk : OsFile) : Option DmsFile → OsFile
  | none => disk
  | some dmsFile => dmsFile.destroy

/-- `rtnInsert`: the return code of `dmsFile::insert`. -/
def rtnInsert (answers : List DmsFile.ExtendAnswer) (record : BsonObj) (file : DmsFile) :
    Option (Completion ReturnCode × DmsFile) :=
  (file.insert answers record).map fun (completion, file) =>
    match completion with
    | .returns reply => (.returns (toI32 reply.rc), file)
    | .throws => (.throws, file)

/-- `rtnFind`. -/
def rtnFind (_record : List UInt8) : ReturnCode := edbOk

/-- `rtnRemove`. -/
def rtnRemove (_record : List UInt8) : ReturnCode := edbOk

theorem edbOk_int : -2147483648 ≤ edbOk ∧ edbOk < 2147483648 := by decide

theorem toI32_int (x : Int) : -2147483648 ≤ toI32 x ∧ toI32 x < 2147483648 := by
  unfold toI32
  omega

theorem rtnInsert_int {answers : List DmsFile.ExtendAnswer} {record : BsonObj}
    {file after : DmsFile} {rc : ReturnCode}
    (inserted : rtnInsert answers record file = some (.returns rc, after)) :
    -2147483648 ≤ rc ∧ rc < 2147483648 := by
  obtain ⟨⟨completion, s⟩, _, same⟩ := Option.map_eq_some_iff.mp inserted
  cases completion with
  | returns reply =>
      cases same
      exact toI32_int reply.rc
  | throws => cases same

/-- `rtn`: its `_dmsFile` is the store. -/
def rtn (answers : List DmsFile.ExtendAnswer) : Runtime DmsFile where
  call
    | .insert bytes, file =>
        (BsonObj.fromBytes bytes).bind fun record => rtnInsert answers record file
    | .find bytes, file => some (.returns (rtnFind bytes), file)
    | .remove bytes, file => some (.returns (rtnRemove bytes), file)
  int := by
    intro request store rc after called
    cases request with
    | insert bytes =>
        obtain ⟨record, _, inserted⟩ := Option.bind_eq_some_iff.mp called
        exact rtnInsert_int inserted
    | find bytes =>
        cases called
        exact edbOk_int
    | remove bytes =>
        cases called
        exact edbOk_int

/-- The record that is inserted is the object that was handed over. -/
theorem rtn_insert (answers : List DmsFile.ExtendAnswer) (record : BsonObj)
    (file : DmsFile) :
    (rtn answers).call (.insert record.bytes) file = rtnInsert answers record file := by
  simp only [rtn, BsonObj.fromBytes_bytes, Option.bind_some]

end EmeraldDb
