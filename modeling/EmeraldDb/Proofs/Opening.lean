/-
Module: EmeraldDb.Proofs.Opening
Purpose: initialize on an empty file: what it leaves behind represents the file
  without a segment.
Trusted boundary: none
Main exports: NewFile, NewFile.rep, fresh_newFile, exists_fresh
-/
import EmeraldDb.Dms.Session
import EmeraldDb.Proofs.Extension

namespace EmeraldDb

open ByteMemory
open DmsFile (extendFile InitAnswer dmsHeaderBytes)

/-! ### A new file -/

/-- The state `initialize` leaves behind on an empty file. -/
structure NewFile (s : DmsFile) : Prop where
  valid : s.fileOp.isValid = true
  header : s.header = some 0
  body : s.body = []
  freeSpaceMap : s.freeSpaceMap = .empty
  mutex : s.mutex = .init
  extendMutex : s.extendMutex = .init
  size : s.fileOp.file.size = 65536
  mapped : s.mappedBytes = 65536
  headerSize : readU32 s.memory 4 = 0

/-- A new file holds nothing. -/
theorem NewFile.rep {s : DmsFile} (new : NewFile s) : FileRep s .empty where
  valid := new.valid
  header := new.header
  segments := by
    rw [new.body]
    rfl
  inFile := by
    intro data member
    rw [new.body] at member
    cases member
  apart := by
    rw [new.body]
    exact .nil
  mapped := by
    rw [new.mapped]
    rfl
  inSpace := by
    rw [new.mapped]
    decide
  headerInFile := Nat.le_of_eq new.size.symm
  headerSize := new.headerSize
  sizeBound := by
    rw [new.size]
    decide
  pages := fun p bound => absurd bound (Nat.not_lt_zero p)
  index := by
    rw [new.freeSpaceMap]
    exact .refl _

/-- What `_initNew` starts from: an empty file, nothing mapped. -/
structure BlankFile (s : DmsFile) : Prop where
  valid : s.fileOp.isValid = true
  segments : s.segments = []
  body : s.body = []
  freeSpaceMap : s.freeSpaceMap = .empty
  mutex : s.mutex = .init
  extendMutex : s.extendMutex = .init
  size : s.fileOp.file.size = 0

/-- A completed `_initNew` on a blank file makes it a new file. -/
theorem initNew_newFile {s s' : DmsFile} {answer : InitAnswer} (blank : BlankFile s)
    (result : s.initNew answer = some (edbOk, s')) : NewFile s' := by
  have chunks : dmsFileHeaderSize % 65536 = 0 := by simp only [dmsFileHeaderSize]
  have nonempty : 0 < dmsFileHeaderSize := by simp only [dmsFileHeaderSize]; omega
  rw [DmsFile.initNew] at result
  cases grew : extendFile answer.writes dmsFileHeaderSize s.fileOp with
  | none =>
      rw [grew] at result
      cases result
  | some pass =>
      obtain ⟨growCode, op⟩ := pass
      rw [grew] at result
      dsimp only at result
      split at result
      next growFailed =>
        exact absurd (Prod.mk.inj (Option.some.inj result)).1 growFailed
      next growOk =>
        cases placed : OssMmapFile.map answer.headerMap 0 dmsFileHeaderSize
            { s with fileOp := op }.toOssMmapFile with
        | mk mapCode rest =>
            obtain ⟨header, mapped⟩ := rest
            rw [placed] at result
            dsimp only at result
            split at result
            next mapFailed =>
              exact absurd (Prod.mk.inj (Option.some.inj result)).1 mapFailed
            next mapOk =>
              obtain ⟨count, grown, valid, outcome⟩ := extendFile_spec chunks blank.valid
                grew
              have full : count = 65536 := by
                rcases outcome with ⟨-, full⟩ | ⟨failed, -⟩
                · exact full
                · exact absurd failed growOk
              obtain ⟨sameFile, -, mapOutcome⟩ := OssMmapFile.map_spec nonempty placed
              rcases mapOutcome with ⟨-, rfl, region⟩ | ⟨failed, -, -⟩
              · dsimp only at result
                obtain ⟨-, rfl⟩ := Prod.mk.inj (Option.some.inj result)
                have size := grown.size
                have spelled := readBytes_writeBytes_self mapped.fileOp.file.bytes 0
                  dmsHeaderBytes
                have word := readU32_eq_ofBytes (i := 4) spelled (by decide)
                refine ⟨?_, rfl, blank.body, blank.freeSpaceMap, blank.mutex,
                  blank.extendMutex, ?_, ?_, ?_⟩
                · show mapped.fileOp.isValid = true
                  rw [sameFile]
                  exact valid
                · show mapped.fileOp.file.size = 65536
                  rw [sameFile]
                  show op.file.size = 65536
                  rw [size, blank.size, full]
                · show mapped.mappedBytes = 65536
                  rw [OssMmapFile.mappedBytes, region.segments]
                  show ((s.segments ++ [_]).map OssMmapSegment.length).sum = 65536
                  rw [blank.segments]
                  rfl
                · rw [Nat.zero_add] at word
                  exact word.trans (by decide)
              · exact absurd failed mapOk

/-- A new file has nothing to load. -/
theorem NewFile.loadData {s : DmsFile} (new : NewFile s) (answer : InitAnswer) :
    s.loadData answer = some (edbOk, s) := by
  have word : toI32 (readU32 s.memory (0 + 4)) = 0 := by
    rw [Nat.zero_add, new.headerSize]
    rfl
  rw [DmsFile.loadData, new.header]
  dsimp only
  rw [DmsFile.loadPagesOf, word]
  rfl

theorem initializeFrom_newFile {s' : DmsFile} : ∀ {answers : List InitAnswer} {s : DmsFile},
    BlankFile s → DmsFile.initializeFrom answers s = some (edbOk, s') → NewFile s'
  | [], s, _, result => by
      rw [DmsFile.initializeFrom] at result
      cases result
  | answer :: answers, s, blank, result => by
      rw [DmsFile.initializeFrom] at result
      cases sized : s.fileOp.getSize answer.fstat with
      | mk sizeCode offset =>
          rw [sized] at result
          dsimp only at result
          split at result
          next failed => exact absurd (Prod.mk.inj (Option.some.inj result)).1 failed
          next sizeOk =>
            obtain rfl := getSize_ok sized (by simpa using sizeOk)
            rw [if_pos blank.size] at result
            cases initialised : s.initNew answer with
            | none =>
                rw [initialised] at result
                cases result
            | some pass =>
                obtain ⟨initCode, s₁⟩ := pass
                rw [initialised] at result
                dsimp only at result
                split at result
                next failed => exact absurd (Prod.mk.inj (Option.some.inj result)).1 failed
                next initOk =>
                  obtain rfl : initCode = edbOk := by simpa using initOk
                  have new := initNew_newFile blank initialised
                  -- the second pass finds a file that is not empty
                  cases answers with
                  | nil =>
                      rw [DmsFile.initializeFrom] at result
                      cases result
                  | cons second rest =>
                      rw [DmsFile.initializeFrom] at result
                      cases resized : s₁.fileOp.getSize second.fstat with
                      | mk sizeCode' offset =>
                          rw [resized] at result
                          dsimp only at result
                          split at result
                          next failed =>
                            exact absurd (Prod.mk.inj (Option.some.inj result)).1 failed
                          next sizeOk' =>
                            obtain rfl := getSize_ok resized (by simpa using sizeOk')
                            rw [new.size, if_neg (by decide), new.loadData] at result
                            obtain ⟨-, rfl⟩ := Prod.mk.inj (Option.some.inj result)
                            exact new

/-- Whatever the operating system answers, `initialize` on an empty file that
returns `EDB_OK` leaves a new file. -/
theorem fresh_newFile {s : DmsFile} (fresh : s.Fresh) : NewFile s := by
  obtain ⟨strdup, opened, answers, disk, empty, result⟩ := fresh
  rw [DmsFile.initializeFile] at result
  cases strdup with
  | false => exact absurd (Prod.mk.inj (Option.some.inj result)).1 (by decide)
  | true =>
      rw [if_pos rfl] at result
      cases opened with
      | some errno =>
          rw [OssMmapFile.openFile] at result
          dsimp only at result
          rw [if_pos errno.value_ne_edbOk] at result
          exact absurd (Prod.mk.inj (Option.some.inj result)).1 errno.value_ne_edbOk
      | none =>
          rw [OssMmapFile.openFile] at result
          dsimp only at result
          rw [if_neg (not_not_intro rfl)] at result
          exact initializeFrom_newFile ⟨rfl, rfl, rfl, rfl, rfl, rfl, empty⟩ result

/-- When no step fails, `_initNew` comes to its end. -/
theorem initNew_ok {s : DmsFile} {answer : InitAnswer} {header : Nat}
    {op : OssPrimitiveFileOp} {mapped : OssMmapFile}
    (grew : extendFile answer.writes dmsFileHeaderSize s.fileOp = some (edbOk, op))
    (placed : { s with fileOp := op }.toOssMmapFile.map answer.headerMap 0
      dmsFileHeaderSize = (edbOk, some header, mapped)) :
    ∃ s', s.initNew answer = some (edbOk, s') := by
  rw [DmsFile.initNew, grew]
  simp only [ne_eq, not_true_eq_false, if_false, placed]
  exact ⟨_, rfl⟩

theorem initNew_granted {s : DmsFile} (blank : BlankFile s) :
    ∃ s', s.initNew .granted = some (edbOk, s') := by
  obtain ⟨op, grew⟩ := extendLoop_granted (fun _ => rfl) 1 0 s.fileOp blank.valid (by
    rw [blank.size]
    decide)
  have grewFile : extendFile (fun _ => [WriteResult.wrote 65536]) dmsFileHeaderSize
      s.fileOp = some (edbOk, op) := grew
  obtain ⟨count, grown, valid, outcome⟩ := extendFile_spec
    (by simp only [dmsFileHeaderSize]) blank.valid grewFile
  have full : count = dmsFileHeaderSize := by
    rcases outcome with ⟨-, full⟩ | ⟨failed, -⟩
    · exact full
    · exact absurd rfl failed
  subst full
  have inFile : 0 + dmsFileHeaderSize ≤ op.file.size := by
    rw [grown.size]
    exact Nat.le_of_eq (congrArg (· + _) blank.size.symm)
  have inSpace : { s with fileOp := op }.mappedBytes + dmsFileHeaderSize ≤ addressSpace := by
    have nothing : { s with fileOp := op }.mappedBytes = 0 := by
      rw [OssMmapFile.mappedBytes, blank.segments]
      rfl
    rw [nothing]
    decide
  have inRange : 0 + dmsFileHeaderSize < 9223372036854775808 := by
    simp only [dmsFileHeaderSize]
    omega
  exact initNew_ok grewFile (OssMmapFile.map_success (by decide) (Nat.zero_mod 4096)
    inFile inRange inSpace)

/-- `initialize` can succeed on an empty file. -/
theorem exists_fresh : ∃ s : DmsFile, s.Fresh := by
  let blank : DmsFile :=
    { fileOp := ⟨true, 0, ⟨0, fun _ => 0⟩⟩, opened := true, segments := [],
      header := none, body := [], freeSpaceMap := .empty,
      mutex := .init, extendMutex := .init }
  have isBlank : BlankFile blank := ⟨rfl, rfl, rfl, rfl, rfl, rfl, rfl⟩
  obtain ⟨s, initialised⟩ := initNew_granted isBlank
  have new := initNew_newFile isBlank initialised
  have sized : s.fileOp.getSize none = (edbOk, 65536) := by
    rw [OssPrimitiveFileOp.getSize, new.size]
  have second : DmsFile.initializeFrom [.granted] s = some (edbOk, s) := by
    rw [DmsFile.initializeFrom, InitAnswer.granted, sized]
    exact new.loadData _
  have first : DmsFile.initializeFrom [.granted, .granted] blank = some (edbOk, s) := by
    rw [DmsFile.initializeFrom, initialised]
    exact second
  refine ⟨s, true, none, [.granted, .granted], ⟨0, fun _ => 0⟩, rfl, ?_⟩
  rw [DmsFile.initializeFile, if_pos rfl, OssMmapFile.openFile]
  dsimp only
  rw [if_neg (not_not_intro rfl)]
  exact first

end EmeraldDb
