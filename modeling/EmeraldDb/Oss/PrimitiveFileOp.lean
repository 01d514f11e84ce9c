/-
Module: EmeraldDb.Oss.PrimitiveFileOp
Purpose: ossPrimitiveFileOp over a file image: size query, seek to end and the
  write loop that retries short and interrupted write(2) calls.
Trusted boundary: human-reviewed spec; write(2), fstat(2) and lseek(2) answer
  through explicit arguments
Main exports: OsFile, WriteResult, OssPrimitiveFileOp, write, write_spec,
  OsFile.GrownBy
-/
import EmeraldDb.Core
import EmeraldDb.Lib.ByteMemory

namespace EmeraldDb

open ByteMemory

/-- A file as the operating system keeps it; only the bytes below `size` count. -/
structure OsFile where
  size : Nat
  bytes : Mem

/-- The answer of one write(2) call. -/
inductive WriteResult where
  | wrote (count : Nat)
  | failed (errno : Errno)

/-- `ossPrimitiveFileOp`: whether `_fileHandle` is open, its file position and
the file it refers to. -/
structure OssPrimitiveFileOp where
  isValid : Bool
  position : Nat
  file : OsFile

namespace OssPrimitiveFileOp

/-- Put `buffer[start .. start + count)` at the file position and move on; an
empty piece does not touch the file. -/
def store (op : OssPrimitiveFileOp) (buffer : Mem) (start count : Nat) :
    OssPrimitiveFileOp :=
  if count = 0 then op
  else
    { op with
      position := op.position + count
      file :=
        { size := max op.file.size (op.position + count)
          bytes := fun x =>
            if op.position ≤ x ∧ x < op.position + count then
              buffer (start + (x - op.position))
            else op.file.bytes x } }

/-- `seekToEnd`; the result of lseek(2) is not looked at. -/
def seekToEnd (op : OssPrimitiveFileOp) : OssPrimitiveFileOp :=
  if op.isValid then { op with position := op.file.size } else op

/-- `getSize`: the size of the file, or 0 beside the `errno` of fstat(2). -/
def getSize (op : OssPrimitiveFileOp) (fstat : Option Errno) : ReturnCode × Nat :=
  match fstat with
  | none => (edbOk, op.file.size)
  | some errno => (errno.value, 0)

/-- The largest `off_t`.  write(2) puts nothing behind it. -/
def maxFileSize : Nat := 9223372036854775807

/-- The most that one write(2) puts, so that its answer fits the `int rc`. -/
def maxTransfer : Nat := 2147479552

/-- The do-while loop of `Write`.  `none`: write(2) gives no further answer, so
the loop is still running. -/
def writeLoop (buffer : Mem) (size : Nat) :
    List WriteResult → Nat → OssPrimitiveFileOp →
      Option (ReturnCode × OssPrimitiveFileOp)
  | [], _, _ => none
  | .wrote count :: results, currentSize, op =>
      -- write(2) never takes more than it was offered and than a file can hold
      let taken :=
        min (min (min count maxTransfer) (size - currentSize)) (maxFileSize - op.position)
      let op := op.store buffer currentSize taken
      if currentSize + taken = size then some (edbOk, op)
      else writeLoop buffer size results (currentSize + taken) op
  | .failed errno :: results, currentSize, op =>
      if errno.value = Errno.eintr.value then
        writeLoop buffer size results currentSize op
      else some (errno.value, op)

/-- `Write` with a positive `size`.  A closed handle writes nothing and still
returns 0. -/
def write (buffer : Mem) (size : Nat) (results : List WriteResult)
    (op : OssPrimitiveFileOp) : Option (ReturnCode × OssPrimitiveFileOp) :=
  if op.isValid then writeLoop buffer size results 0 op
  else some (edbOk, op)

@[simp] theorem store_zero (op : OssPrimitiveFileOp) (buffer : Mem)
    (start : Nat) : op.store buffer start 0 = op := rfl

@[simp] theorem store_isValid (op : OssPrimitiveFileOp) (buffer : Mem)
    (start count : Nat) : (op.store buffer start count).isValid = op.isValid := by
  unfold store
  split <;> rfl

@[simp] theorem seekToEnd_isValid (op : OssPrimitiveFileOp) :
    op.seekToEnd.isValid = op.isValid := by
  unfold seekToEnd
  split <;> rfl

@[simp] theorem seekToEnd_file (op : OssPrimitiveFileOp) :
    op.seekToEnd.file = op.file := by
  unfold seekToEnd
  split <;> rfl

theorem seekToEnd_position {op : OssPrimitiveFileOp} (valid : op.isValid = true) :
    op.seekToEnd.position = op.file.size := by
  simp [seekToEnd, valid]

/-- Two consecutive stores from one buffer are one store of both pieces. -/
theorem store_store (op : OssPrimitiveFileOp) (buffer : Mem) (done more : Nat) :
    (op.store buffer 0 done).store buffer done more =
      op.store buffer 0 (done + more) := by
  by_cases noneDone : done = 0
  · subst noneDone
    simp
  by_cases noMore : more = 0
  · subst noMore
    simp
  have images : ∀ x,
      (if op.position + done ≤ x ∧ x < op.position + done + more then
        buffer (done + (x - (op.position + done)))
      else if op.position ≤ x ∧ x < op.position + done then
        buffer (0 + (x - op.position)) else op.file.bytes x) =
      if op.position ≤ x ∧ x < op.position + (done + more) then
        buffer (0 + (x - op.position)) else op.file.bytes x := by
    intro x
    by_cases late : op.position + done ≤ x ∧ x < op.position + done + more
    · rw [if_pos late, if_pos (by omega)]
      congr 1
      omega
    · rw [if_neg late]
      by_cases early : op.position ≤ x ∧ x < op.position + done
      · rw [if_pos early, if_pos (by omega)]
      · rw [if_neg early, if_neg (by omega)]
  have someDone : done + more ≠ 0 := by omega
  simp only [store, noneDone, noMore, someDone, if_false, Nat.add_assoc]
  congr 2
  · omega
  · funext x
    simpa only [Nat.add_assoc] using images x

theorem store_position (op : OssPrimitiveFileOp) (buffer : Mem) (start count : Nat) :
    (op.store buffer start count).position = op.position + count := by
  unfold store
  split
  next nothing => simp [nothing]
  next => rfl

/-- Whatever write(2) answers, a loop that ends has stored a prefix of the
buffer: the whole of it when the code is `EDB_OK`, a proper part otherwise.  It
never stores behind the largest file size. -/
theorem writeLoop_spec {buffer : Mem} {size : Nat}
    {results : List WriteResult} {written : Nat} {start op' : OssPrimitiveFileOp}
    {rc : ReturnCode} (unfinished : written < size)
    (ends : writeLoop buffer size results written
      (start.store buffer 0 written) = some (rc, op')) :
    ∃ total, op' = start.store buffer 0 total ∧
      (total = written ∨ start.position + total ≤ maxFileSize) ∧
      (rc = edbOk ∧ total = size ∨ rc ≠ edbOk ∧ total < size) := by
  induction results generalizing written with
  | nil => simp [writeLoop] at ends
  | cons result results ih =>
      cases result with
      | wrote count =>
          simp only [writeLoop, store_store, store_position] at ends
          split at ends
          next full =>
            obtain ⟨rfl, rfl⟩ := Prod.mk.inj (Option.some.inj ends)
            exact ⟨_, rfl, by omega, Or.inl ⟨rfl, full⟩⟩
          next short =>
            obtain ⟨total, stored, room, outcome⟩ := ih (by omega) ends
            exact ⟨total, stored, by omega, outcome⟩
      | failed errno =>
          simp only [writeLoop] at ends
          split at ends
          next interrupted => exact ih unfinished ends
          next =>
            obtain ⟨rfl, rfl⟩ := Prod.mk.inj (Option.some.inj ends)
            exact ⟨written, rfl, Or.inl rfl, Or.inr ⟨errno.value_ne_edbOk, unfinished⟩⟩

/-- `Write` on an open handle: the code is `EDB_OK` exactly when the whole
buffer went into the file, and otherwise a proper prefix did. -/
theorem write_spec {buffer : Mem} {size : Nat} {results : List WriteResult}
    {op op' : OssPrimitiveFileOp} {rc : ReturnCode} (valid : op.isValid = true)
    (positive : 0 < size) (ends : write buffer size results op = some (rc, op')) :
    ∃ total, op' = op.store buffer 0 total ∧
      (total = 0 ∨ op.position + total ≤ maxFileSize) ∧
      (rc = edbOk ∧ total = size ∨ rc ≠ edbOk ∧ total < size) := by
  simp only [write, valid, if_true] at ends
  exact writeLoop_spec positive (by simpa using ends)

/-- One write(2) that takes everything ends the loop. -/
theorem write_whole {buffer : Mem} {size : Nat} {op : OssPrimitiveFileOp}
    (valid : op.isValid = true) (small : size ≤ maxTransfer)
    (room : op.position + size ≤ maxFileSize) :
    write buffer size [.wrote size] op = some (edbOk, op.store buffer 0 size) := by
  have taken : min (min (min size maxTransfer) (size - 0)) (maxFileSize - op.position) =
      size := by omega
  simp only [write, valid, if_true, writeLoop, taken, Nat.zero_add]

end OssPrimitiveFileOp

/-- `longer` is `file` with `count` zero bytes behind its end. -/
structure OsFile.GrownBy (file longer : OsFile) (count : Nat) : Prop where
  size : longer.size = file.size + count
  bounded : file.size ≤ OssPrimitiveFileOp.maxFileSize →
    longer.size ≤ OssPrimitiveFileOp.maxFileSize
  kept : SameOn 0 file.size file.bytes longer.bytes
  zero : ∀ a, file.size ≤ a → a < file.size + count → longer.bytes a = 0

namespace OsFile.GrownBy

theorem refl (file : OsFile) : file.GrownBy file 0 where
  size := rfl
  bounded := id
  kept := .refl _ _ _
  zero := fun a lower upper => by omega

theorem trans {file longer longest : OsFile} {count more : Nat}
    (first : file.GrownBy longer count) (second : longer.GrownBy longest more) :
    file.GrownBy longest (count + more) where
  size := by rw [second.size, first.size, Nat.add_assoc]
  bounded := fun bound => second.bounded (first.bounded bound)
  kept := first.kept.trans
    (second.kept.mono (Nat.le_refl 0) (by have := first.size; omega))
  zero := by
    have sizes := first.size
    intro a lower upper
    by_cases early : a < file.size + count
    · rw [second.kept a (by omega) (by omega), first.zero a lower early]
    · exact second.zero a (by omega) (by omega)

/-- A store of zeros at the end of the file grows it by what was stored. -/
theorem of_store {op : OssPrimitiveFileOp} (atEnd : op.position = op.file.size)
    {count : Nat}
    (room : count = 0 ∨ op.position + count ≤ OssPrimitiveFileOp.maxFileSize) :
    op.file.GrownBy (op.store (fun _ => 0) 0 count).file count := by
  by_cases nothing : count = 0
  · subst nothing
    exact refl op.file
  replace room := room.resolve_left nothing
  have size : (op.store (fun _ => 0) 0 count).file.size = op.file.size + count := by
    simp [OssPrimitiveFileOp.store, nothing, atEnd]
  refine ⟨size, ?_, ?_, ?_⟩
  · intro _
    rw [size, ← atEnd]
    exact room
  · intro a _ below
    simp only [OssPrimitiveFileOp.store, nothing, if_false, atEnd]
    rw [if_neg (by omega)]
  · intro a lower upper
    simp only [OssPrimitiveFileOp.store, nothing, if_false, atEnd]
    rw [if_pos ⟨lower, upper⟩]

end OsFile.GrownBy

end EmeraldDb
