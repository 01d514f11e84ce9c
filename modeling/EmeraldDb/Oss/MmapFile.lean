/-
Module: EmeraldDb.Oss.MmapFile
Purpose: ossMmapFile: an open file and the regions of it that are mapped.  The
  mappings are MAP_SHARED, so a mapped address is represented by the file
  offset that backs it and memory accesses go to the file image itself.
Trusted boundary: human-reviewed spec; mmap(2) is `mmap` below
Main exports: OssMmapFile, MapAnswer, mmap, map, map_spec, map_success
-/
import Mathlib.Algebra.GroupWithZero.Nat
import EmeraldDb.Oss.PrimitiveFileOp

namespace EmeraldDb

/-- `_ossMmapSegment`.  The address `ptr` is the file offset behind it, as every
mapped address is. -/
structure OssMmapSegment where
  ptr : Nat
  length : Nat
  offset : Nat

/-- `_ossMmapFile`.  Its own latch is taken and released inside every method,
with no other latch in between, and is left out. -/
structure OssMmapFile where
  fileOp : OssPrimitiveFileOp
  opened : Bool
  segments : List OssMmapSegment

/-- The operating system's answers during one `map` call; `none` is success. -/
structure MapAnswer where
  fstat : Option Errno
  mmap : Option Errno

namespace MapAnswer

/-- Every call the operating system can grant is granted. -/
def granted : MapAnswer := ⟨none, none⟩

end MapAnswer

/-- Bytes of user address space below the 47-bit limit that mmap(2) keeps to
when the caller passes no address. -/
def addressSpace : Nat := 140737488355328

/-- mmap(2) with a NULL address and MAP_SHARED.  A granted call still needs a
page-aligned offset, a region inside the range of off_t and room below the
47-bit limit beside what the process has mapped from this file. -/
def mmap (answer : Option Errno) (mapped offset length : Nat) :
    Except Errno Nat :=
  match answer with
  | some errno => .error errno
  | none =>
      if offset % 4096 ≠ 0 then .error .einval
      else if 9223372036854775808 ≤ offset + length then .error .eoverflow
      else if addressSpace < mapped + length then .error .enomem
      else .ok offset

namespace OssMmapFile

/-- The bytes currently mapped. -/
def mappedBytes (file : OssMmapFile) : Nat :=
  (file.segments.map OssMmapSegment.length).sum

/-- `open`, on the file the name stands for. -/
def openFile (answer : Option Errno) (disk : OsFile) : ReturnCode × OssMmapFile :=
  match answer with
  | none => (edbOk, ⟨⟨true, 0, disk⟩, true, []⟩)
  | some errno => (errno.value, ⟨⟨false, 0, disk⟩, false, []⟩)

/-- `close`: every region is unmapped; shared mappings leave their stores in the
file. -/
def close (file : OssMmapFile) : OssMmapFile :=
  { fileOp :=
      if file.opened then { file.fileOp with isValid := false } else file.fileOp
    opened := false
    segments := [] }

/-- The code `map` returns for the `errno` of a failed mmap(2). -/
def mmapFailure (errno : Errno) : ReturnCode :=
  if errno.value = Errno.enomem.value then edbOom
  else if errno.value = Errno.eacces.value then edbPerm
  else edbSys

/-- `map`.  The second component is what `*ppAddress` is set to, if it is. -/
def map (answer : MapAnswer) (offset length : Nat) (file : OssMmapFile) :
    ReturnCode × Option Nat × OssMmapFile :=
  if length = 0 then (edbOk, none, file)
  else
    match file.fileOp.getSize answer.fstat with
    | (rc, fileSize) =>
        if rc ≠ edbOk then (rc, none, file)
        -- unsigned long long addition
        else if toU64 (offset + length) > fileSize then
          (edbInvalidArg, none, file)
        else
          match mmap answer.mmap file.mappedBytes offset length with
          | .error errno => (mmapFailure errno, none, file)
          | .ok segment =>
              (edbOk, some segment,
                { file with
                  segments := file.segments ++ [⟨segment, length, offset⟩] })

theorem mmapFailure_ne_edbOk (errno : Errno) : mmapFailure errno ≠ edbOk := by
  unfold mmapFailure
  split
  · decide
  · split <;> decide

/-- A successful mmap(2) names the offset it was asked for. -/
theorem mmap_ok {answer : Option Errno} {mapped offset length : Nat} {ptr : Nat}
    (mapping : mmap answer mapped offset length = .ok ptr) :
    ptr = offset ∧ offset % 4096 = 0 ∧ offset + length < 9223372036854775808 ∧
      mapped + length ≤ addressSpace := by
  unfold mmap at mapping
  cases answer with
  | some errno => simp at mapping
  | none =>
      simp only at mapping
      split at mapping
      · simp at mapping
      · split at mapping
        · simp at mapping
        · split at mapping
          · simp at mapping
          · have ptrEq := Except.ok.inj mapping
            refine ⟨ptrEq.symm, by omega, by omega, by omega⟩

/-- What a successful `map` of a nonempty region establishes. -/
structure Mapped (file file' : OssMmapFile) (offset length : Nat) : Prop where
  segments : file'.segments = file.segments ++ [⟨offset, length, offset⟩]
  aligned : offset % 4096 = 0
  inFile : offset + length ≤ file.fileOp.file.size
  inSpace : file.mappedBytes + length ≤ addressSpace

/-- `map` never touches the file, and either maps the whole region at its offset
or changes nothing. -/
theorem map_spec {answer : MapAnswer} {offset length : Nat}
    {file file' : OssMmapFile} {rc : ReturnCode} {ptr : Option Nat}
    (nonempty : 0 < length)
    (result : map answer offset length file = (rc, ptr, file')) :
    file'.fileOp = file.fileOp ∧ file'.opened = file.opened ∧
      (rc = edbOk ∧ ptr = some offset ∧ Mapped file file' offset length ∨
        rc ≠ edbOk ∧ ptr = none ∧ file' = file) := by
  unfold map at result
  rw [if_neg (by omega)] at result
  cases size : file.fileOp.getSize answer.fstat with
  | mk code fileSize =>
      simp only [size] at result
      split at result
      next failed =>
        obtain ⟨rfl, rfl, rfl⟩ := by simpa using result
        exact ⟨rfl, rfl, Or.inr ⟨failed, rfl, rfl⟩⟩
      next sized =>
        have sizeEq : fileSize = file.fileOp.file.size := by
          unfold OssPrimitiveFileOp.getSize at size
          cases answered : answer.fstat with
          | none => simpa [answered] using (congrArg Prod.snd size).symm
          | some errno =>
              simp only [answered, Prod.mk.injEq] at size
              exact absurd (size.1 ▸ errno.value_ne_edbOk) (by simpa using sized)
        split at result
        next outside =>
          obtain ⟨rfl, rfl, rfl⟩ := by simpa using result
          exact ⟨rfl, rfl, Or.inr ⟨by decide, rfl, rfl⟩⟩
        next inside =>
          cases mapping : mmap answer.mmap file.mappedBytes offset length with
          | error errno =>
              simp only [mapping] at result
              obtain ⟨rfl, rfl, rfl⟩ := by simpa using result
              exact ⟨rfl, rfl,
                Or.inr ⟨mmapFailure_ne_edbOk errno, rfl, rfl⟩⟩
          | ok segment =>
              simp only [mapping] at result
              obtain ⟨ptrEq, aligned, inRange, inSpace⟩ := mmap_ok mapping
              subst ptrEq
              obtain ⟨rfl, rfl, rfl⟩ := by simpa using result
              refine ⟨rfl, rfl, Or.inl ⟨rfl, rfl, rfl, aligned, ?_, inSpace⟩⟩
              unfold toU64 at inside
              omega

/-- A granted, page-aligned region inside the file maps. -/
theorem map_success {offset length : Nat} {file : OssMmapFile}
    (nonempty : 0 < length) (aligned : offset % 4096 = 0)
    (inFile : offset + length ≤ file.fileOp.file.size)
    (inRange : offset + length < 9223372036854775808)
    (inSpace : file.mappedBytes + length ≤ addressSpace) :
    map .granted offset length file =
      (edbOk, some offset,
        { file with
          segments := file.segments ++ [⟨offset, length, offset⟩] }) := by
  have granted : mmap none file.mappedBytes offset length = .ok offset := by
    unfold mmap
    simp only [aligned, ne_eq, not_true_eq_false, if_false]
    rw [if_neg (by omega), if_neg (by omega)]
  have noWrap : ¬ toU64 (offset + length) > file.fileOp.file.size := by
    unfold toU64
    omega
  unfold map MapAnswer.granted
  rw [if_neg (by omega)]
  simp only [OssPrimitiveFileOp.getSize, ne_eq, not_true_eq_false, if_false,
    granted]
  rw [if_neg noWrap]

/-- `map` hands on the error of fstat(2). -/
theorem map_unsized {offset length : Nat} {file : OssMmapFile} {errno : Errno}
    {mmap : Option Errno} (nonempty : 0 < length) :
    map ⟨some errno, mmap⟩ offset length file = (errno.value, none, file) := by
  have sized : file.fileOp.getSize (some errno) = (errno.value, 0) := rfl
  unfold map
  rw [if_neg (by omega), sized]
  dsimp only
  rw [if_pos errno.value_ne_edbOk]

/-- A region behind the end of the file is refused. -/
theorem map_behind_end {offset length : Nat} {file : OssMmapFile} {mmap : Option Errno}
    (nonempty : 0 < length)
    (behind : toU64 (offset + length) > file.fileOp.file.size) :
    map ⟨none, mmap⟩ offset length file = (edbInvalidArg, none, file) := by
  have sized : file.fileOp.getSize none = (edbOk, file.fileOp.file.size) := rfl
  unfold map
  rw [if_neg (by omega), sized]
  dsimp only
  rw [if_neg (not_not_intro rfl), if_pos behind]

end OssMmapFile

end EmeraldDb
