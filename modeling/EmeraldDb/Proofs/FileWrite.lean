/-
Module: EmeraldDb.Proofs.FileWrite
Purpose: A write that returns 0 has put the whole buffer into the file, and an extension
  that returns EDB_OK has appended all its zeros, provided that the handle is open.
Trusted boundary: none
Main exports: OssPrimitiveFileOp.AllOrError, DmsFile.ExtendsOrFails,
  fileWrites_allOrError_iff, closedHandle_writesNothing
-/
import EmeraldDb.Proofs.Extension

namespace EmeraldDb

open ByteMemory
open DmsFile (extendLoop extendFile)

/-! ### Write -/

namespace OssPrimitiveFileOp

/-- A `Write` that returns 0 has put `buffer[0 .. size)` at the file position, once and in
order: whatever write(2) answers, the file is as after one store of it, and the position
has moved by `size`. -/
def AllOrError (op : OssPrimitiveFileOp) (buffer : Mem) (size : Nat) : Prop :=
  ∀ results op', op.write buffer size results = some (edbOk, op') → op' = op.store buffer 0 size

variable {op op' : OssPrimitiveFileOp} {buffer : Mem} {size : Nat}

theorem allOrError_of_valid (positive : 0 < size) (valid : op.isValid = true) :
    op.AllOrError buffer size := by
  intro results op' ends
  obtain ⟨total, stored, -, ⟨-, all⟩ | ⟨failed, -⟩⟩ := write_spec valid positive ends
  · rw [stored, all]
  · exact absurd rfl failed

/-- A closed handle is passed over. -/
theorem write_closed (closed : op.isValid = false) (results : List WriteResult) :
    op.write buffer size results = some (edbOk, op) := by
  simp [write, closed]

theorem not_allOrError_of_closed (positive : 0 < size) (closed : op.isValid = false) :
    ¬ op.AllOrError buffer size := by
  intro whole
  have unmoved := congrArg position (whole [] op (write_closed closed []))
  rw [store_position] at unmoved
  omega

end OssPrimitiveFileOp

/-! ### _extendFile -/

namespace DmsFile

/-- An `_extendFile(n)` that returns `EDB_OK` has appended `n` zeros. -/
def ExtendsOrFails (op : OssPrimitiveFileOp) (n : Nat) : Prop :=
  ∀ writes op', extendFile writes n op = some (edbOk, op') → op.file.GrownBy op'.file n

variable {op : OssPrimitiveFileOp} {n : Nat}

/-- A size that is no number of chunks is refused. -/
theorem extendsOrFails_of_refused (odd : n % dmsExtendSize ≠ 0) : ExtendsOrFails op n := by
  intro writes op' result
  rw [extendFile, if_pos odd] at result
  have refused : edbSys = edbOk := congrArg Prod.fst (Option.some.inj result)
  exact absurd refused (by decide)

/-- Every pass of the loop finds the handle closed and goes on. -/
theorem extendLoop_closed (closed : op.isValid = false) (writes : Nat → List WriteResult) :
    ∀ passes i, extendLoop writes passes i op = some (edbOk, op)
  | 0, i => rfl
  | passes + 1, i => by
      have sought : op.seekToEnd = op := by simp [OssPrimitiveFileOp.seekToEnd, closed]
      rw [extendLoop, sought, OssPrimitiveFileOp.write_closed closed]
      exact extendLoop_closed closed writes passes (i + 1)

theorem extendsOrFails_of_valid (valid : op.isValid = true) : ExtendsOrFails op n := by
  by_cases chunks : n % dmsExtendSize = 0
  · intro writes op' result
    obtain ⟨count, grown, -, ⟨-, all⟩ | ⟨failed, -⟩⟩ := extendFile_spec chunks valid result
    · rwa [← all]
    · exact absurd rfl failed
  · exact extendsOrFails_of_refused chunks

/-- A closed handle appends nothing, so only a request for nothing, or one that is refused,
is answered truly. -/
theorem extendsOrFails_closed (closed : op.isValid = false) :
    ExtendsOrFails op n ↔ n = 0 ∨ n % dmsExtendSize ≠ 0 := by
  by_cases chunks : n % dmsExtendSize = 0
  · have unchanged (writes) : extendFile writes n op = some (edbOk, op) := by
      rw [extendFile, if_neg (by simpa using chunks)]
      exact extendLoop_closed closed writes _ 0
    constructor
    · intro appends
      have grown := (appends (fun _ => []) op (unchanged _)).size
      exact .inl (by omega)
    · intro nothing writes op' result
      obtain rfl : n = 0 := nothing.resolve_right (not_not_intro chunks)
      cases (unchanged writes).symm.trans result
      exact .refl _
  · exact iff_of_true (extendsOrFails_of_refused chunks) (.inr chunks)

end DmsFile

/-- `Write` is all or error exactly on an open handle; `_extendFile` on a closed one is
right only where it has nothing to write. -/
theorem fileWrites_allOrError_iff (op : OssPrimitiveFileOp) (buffer : Mem) {size : Nat}
    (n : Nat) (positive : 0 < size) :
    (op.AllOrError buffer size ↔ op.isValid = true) ∧
      (DmsFile.ExtendsOrFails op n ↔ op.isValid = true ∨ n = 0 ∨ n % dmsExtendSize ≠ 0) := by
  cases valid : op.isValid with
  | true =>
      exact ⟨iff_of_true (OssPrimitiveFileOp.allOrError_of_valid positive valid) rfl,
        iff_of_true (DmsFile.extendsOrFails_of_valid valid) (.inl rfl)⟩
  | false =>
      refine ⟨iff_of_false (OssPrimitiveFileOp.not_allOrError_of_closed positive valid)
        Bool.false_ne_true, ?_⟩
      rw [DmsFile.extendsOrFails_closed valid, or_iff_right Bool.false_ne_true]

/-- An open handle, on an empty file. -/
def openFileOp : OssPrimitiveFileOp := ⟨true, 0, ⟨0, fun _ => 0⟩⟩

/-- Two short writes and an interrupted one put all three bytes into the file, and a whole
extension is appended. -/
theorem fileWrites_allOrError_shortWrites :
    (∃ op', openFileOp.write (fun _ => 1) 3 [.wrote 1, .failed .eintr, .wrote 2] =
        some (edbOk, op') ∧ op' = openFileOp.store (fun _ => 1) 0 3) ∧
      DmsFile.ExtendsOrFails openFileOp 65536 := by
  have both := fileWrites_allOrError_iff openFileOp (fun _ => 1) 65536 (Nat.zero_lt_succ 2)
  have written : openFileOp.write (fun _ => 1) 3 [.wrote 1, .failed .eintr, .wrote 2] =
      some (edbOk, (openFileOp.store (fun _ => 1) 0 1).store (fun _ => 1) 1 2) := rfl
  exact ⟨⟨_, written, both.1.mpr rfl _ _ written⟩, both.2.mpr (.inl rfl)⟩

/-- A handle that has been closed, on an empty file. -/
def closedFileOp : OssPrimitiveFileOp := ⟨false, 0, ⟨0, fun _ => 0⟩⟩

/-- On a closed handle one byte is not written and 65536 zeros are not appended, and both
calls return 0. -/
theorem closedHandle_writesNothing :
    closedFileOp.write (fun _ => 1) 1 [] = some (edbOk, closedFileOp) ∧
      ¬ closedFileOp.AllOrError (fun _ => 1) 1 ∧
      ¬ DmsFile.ExtendsOrFails closedFileOp 65536 := by
  refine ⟨rfl, OssPrimitiveFileOp.not_allOrError_of_closed Nat.zero_lt_one rfl, ?_⟩
  rw [DmsFile.extendsOrFails_closed rfl]
  simp

end EmeraldDb
