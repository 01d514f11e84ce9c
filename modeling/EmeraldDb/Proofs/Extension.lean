/-
Module: EmeraldDb.Proofs.Extension
Purpose: What growing the file does: _extendFile appends zeros and tells whether
  it appended all of them, and _extendSegment either adds one segment of empty
  pages at the old end of the file or leaves the abstract file as it was.
Trusted boundary: none
Main exports: extendFile_spec, FileRep.grow, Extended, NotExtended,
  extendSegment_refines, extendSegment_granted
-/
import EmeraldDb.Proofs.FileRefinement

namespace EmeraldDb

open ByteMemory
open DmsFile (extendLoop extendFile indexPages initPages ExtendAnswer)

/-! ### Growing the file -/

/-- Whatever write(2) answers, the loop of `_extendFile` appends zeros: all of
them when the code is `EDB_OK`, fewer otherwise. -/
theorem extendLoop_spec {writes : Nat → List WriteResult} {rc : ReturnCode} :
    ∀ {passes i : Nat} {op op' : OssPrimitiveFileOp}, op.isValid = true →
      extendLoop writes passes i op = some (rc, op') →
        ∃ count, op.file.GrownBy op'.file count ∧ op'.isValid = true ∧
          (rc = edbOk ∧ count = passes * 65536 ∨
            rc ≠ edbOk ∧ count < passes * 65536)
  | 0, i, op, op', valid, result => by
      obtain ⟨rfl, rfl⟩ := Prod.mk.inj (Option.some.inj result)
      exact ⟨0, .refl _, valid, Or.inl ⟨rfl, by omega⟩⟩
  | passes + 1, i, op, op', valid, result => by
      rw [extendLoop] at result
      cases written : op.seekToEnd.write (fun _ => 0) dmsExtendSize (writes i) with
      | none =>
          rw [written] at result
          cases result
      | some pass =>
          obtain ⟨passCode, passOp⟩ := pass
          rw [written] at result
          simp only at result
          have atEnd := OssPrimitiveFileOp.seekToEnd_position valid
          obtain ⟨total, stored, room, outcome⟩ := OssPrimitiveFileOp.write_spec
            (by simpa using valid) (by simp only [dmsExtendSize]; omega) written
          have grown : op.file.GrownBy passOp.file total := by
            have sought : op.seekToEnd.position = op.seekToEnd.file.size := by
              rw [atEnd, OssPrimitiveFileOp.seekToEnd_file]
            have := OsFile.GrownBy.of_store sought room
            rwa [OssPrimitiveFileOp.seekToEnd_file, ← stored] at this
          have passValid : passOp.isValid = true := by
            rw [stored]
            simpa using valid
          simp only [dmsExtendSize] at outcome
          rcases outcome with ⟨ok, full⟩ | ⟨failed, short⟩
          · rw [if_neg (by simpa using ok)] at result
            obtain ⟨count, rest, validRest, endsWith⟩ := extendLoop_spec passValid
              result
            refine ⟨total + count, grown.trans rest, validRest, ?_⟩
            rcases endsWith with ⟨done, all⟩ | ⟨broken, part⟩
            · exact Or.inl ⟨done, by omega⟩
            · exact Or.inr ⟨broken, by omega⟩
          · rw [if_pos failed] at result
            obtain ⟨rfl, rfl⟩ := Prod.mk.inj (Option.some.inj result)
            exact ⟨total, grown, passValid, Or.inr ⟨failed, by omega⟩⟩

/-- `_extendFile` for a size that is a number of chunks. -/
theorem extendFile_spec {writes : Nat → List WriteResult} {rc : ReturnCode} {size : Nat}
    {op op' : OssPrimitiveFileOp} (chunks : size % 65536 = 0) (valid : op.isValid = true)
    (result : extendFile writes size op = some (rc, op')) :
    ∃ count, op.file.GrownBy op'.file count ∧ op'.isValid = true ∧
      (rc = edbOk ∧ count = size ∨ rc ≠ edbOk ∧ count < size) := by
  rw [extendFile, if_neg (by simpa using chunks)] at result
  simp only [dmsExtendSize] at result
  have whole : size / 65536 * 65536 = size := by omega
  obtain ⟨count, grown, valid', outcome⟩ := extendLoop_spec valid result
  rw [whole] at outcome
  exact ⟨count, grown, valid', outcome⟩

/-- When every write(2) takes a whole chunk, `_extendFile` appends all of it. -/
theorem extendLoop_granted {writes : Nat → List WriteResult}
    (granted : ∀ i, writes i = [.wrote 65536]) :
    ∀ (passes i : Nat) (op : OssPrimitiveFileOp), op.isValid = true →
      op.file.size + 65536 * passes ≤ OssPrimitiveFileOp.maxFileSize →
      ∃ op', extendLoop writes passes i op = some (edbOk, op')
  | 0, i, op, valid, room => ⟨op, rfl⟩
  | passes + 1, i, op, valid, room => by
      have atEnd := OssPrimitiveFileOp.seekToEnd_position valid
      have fitsFile : op.seekToEnd.position + 65536 ≤ OssPrimitiveFileOp.maxFileSize := by
        have longer : 65536 ≤ 65536 * (passes + 1) := Nat.le_mul_of_pos_right _ (Nat.succ_pos _)
        exact Nat.le_trans (Nat.add_le_add (Nat.le_of_eq atEnd) longer) room
      have written : op.seekToEnd.write (fun _ => 0) dmsExtendSize (writes i) =
          some (edbOk, op.seekToEnd.store (fun _ => 0) 0 65536) := by
        have chunk : dmsExtendSize = 65536 := rfl
        rw [granted, chunk]
        exact OssPrimitiveFileOp.write_whole (by simpa using valid) (by decide) fitsFile
      have grown : op.file.GrownBy (op.seekToEnd.store (fun _ => 0) 0 65536).file 65536 := by
        have sought : op.seekToEnd.position = op.seekToEnd.file.size := by
          rw [atEnd, OssPrimitiveFileOp.seekToEnd_file]
        have := OsFile.GrownBy.of_store sought (.inr fitsFile)
        rwa [OssPrimitiveFileOp.seekToEnd_file] at this
      have size := grown.size
      obtain ⟨op', rest⟩ := extendLoop_granted granted passes (i + 1)
        (op.seekToEnd.store (fun _ => 0) 0 65536) (by simpa using valid) (by omega)
      refine ⟨op', ?_⟩
      rw [extendLoop, written]
      exact rest

/-- A longer file with the old bytes represents the same abstract file. -/
theorem FileRep.grow {s : DmsFile} {view : FileView} (rep : FileRep s view)
    {op : OssPrimitiveFileOp} {count : Nat} (valid : op.isValid = true)
    (grown : s.fileOp.file.GrownBy op.file count) :
    FileRep { s with fileOp := op } view := by
  have size := grown.size
  have headerInFile := rep.headerInFile
  refine ⟨⟨valid, rep.header, rep.segments, ?_, rep.apart, rep.mapped, rep.inSpace, ?_, ?_,
    grown.bounded rep.sizeBound, ?_⟩, rep.index⟩
  · intro data member
    have inFile := rep.inFile data member
    refine ⟨inFile.1, ?_⟩
    show data + 134217728 ≤ op.file.size
    omega
  · show 65536 ≤ op.file.size
    omega
  · exact (grown.kept.readU32_eq (by omega) (by omega)).trans rep.headerSize
  · intro p bound
    have inFile := rep.page_inFile bound
    exact (rep.pages p bound).congr (grown.kept.mono (by omega) (by omega))

/-! ### Indexing the new pages -/

/-- The new entries carry the free space of an empty page and consecutive page
numbers. -/
theorem indexPages_perm (freeMapSize : Int) : ∀ (n : Nat) (index : Multimap Nat Nat),
    (indexPages freeMapSize n index).entries.Perm
      (index.entries ++
        (List.range n).map fun k : Nat => (4194276, toU32 ((k : Int) + freeMapSize)))
  | 0, index => by simp [indexPages]
  | n + 1, index => by
      rw [indexPages, List.range_succ, List.map_append, ← List.append_assoc]
      refine (Multimap.insert_perm _ _ _).trans ?_
      refine ((indexPages_perm freeMapSize n index).cons _).trans ?_
      exact (List.perm_append_singleton _ _).symm

/-! ### Adopting a mapped region -/

/-- The new segment: `data` lies behind the header and behind every other
segment, in zeroed room of the file. -/
structure NewSegment (s : DmsFile) (data : Nat) : Prop where
  behindHeader : 65536 ≤ data
  behind : ∀ other ∈ s.body, other + 134217728 ≤ data
  inFile : data + 134217728 ≤ s.fileOp.file.size
  zero : ∀ a, data ≤ a → a < data + 134217728 → s.memory a = 0

/-- What adopting leaves in each field. -/
structure Adopted (s s' : DmsFile) (fileHeader data : Nat) : Prop where
  body : s'.body = s.body ++ [data]
  header : s'.header = s.header
  mappedBytes : s'.mappedBytes = s.mappedBytes
  isValid : s'.fileOp.isValid = s.fileOp.isValid
  size : s'.fileOp.file.size = s.fileOp.file.size
  mutex : s'.mutex = s.mutex
  extendMutex : s'.extendMutex = s.extendMutex
  freeSpaceMap : s'.freeSpaceMap =
    indexPages (toI32 s.freeSpaceMap.size) dmsPagesPerSegment s.freeSpaceMap
  memory : s'.memory =
    writeU32 (initPages data dmsPagesPerSegment s.memory) (fileHeader + 4)
      (toU32 (readU32 (initPages data dmsPagesPerSegment s.memory) (fileHeader + 4) +
        dmsPagesPerSegment))

theorem adoptSegment_fields (s : DmsFile) (header data : Nat) :
    Adopted s (s.adoptSegment header data) header data := by
  unfold DmsFile.adoptSegment
  exact ⟨rfl, rfl, rfl, rfl, rfl, rfl, rfl, rfl, rfl⟩

section Adopt

variable {s s' : DmsFile} {view : FileView} {data p : Nat}

/-- One more segment leaves the addresses of the earlier pages alone. -/
theorem FileLayout.pageAddress_old (rep : FileLayout s view)
    (body : s'.body = s.body ++ [data]) (old : p < view.numPages) :
    s'.pageAddress p = s.pageAddress p := by
  have segments := rep.segments
  have pageCount : view.numPages = 32 * view.segments := rfl
  rw [DmsFile.pageAddress, body, List.getD_append _ _ _ _ (by omega)]
  rfl

/-- The pages of the new segment follow those of the earlier ones. -/
theorem FileLayout.pageAddress_new (rep : FileLayout s view)
    (body : s'.body = s.body ++ [data]) (new : view.numPages ≤ p)
    (bound : p < view.numPages + 32) : s'.pageAddress p = data + 4194304 * (p % 32) := by
  have segments := rep.segments
  have pageCount : view.numPages = 32 * view.segments := rfl
  have place : p / 32 = s.body.length := by omega
  rw [DmsFile.pageAddress, body, place, List.getD_append_right _ _ _ _ (Nat.le_refl _),
    Nat.sub_self]
  rfl

/-- The entries of the new pages make the index the one of the longer file. -/
theorem FileRep.extend_index (rep : FileRep s view) :
    (indexPages (toI32 s.freeSpaceMap.size) 32 s.freeSpaceMap).entries.Perm
      view.extend.index := by
  have few := rep.segments_lt
  have pageCount : view.numPages = 32 * view.segments := rfl
  have count : toI32 (s.freeSpaceMap.size : Int) = (view.numPages : Int) := by
    rw [rep.index_size]
    exact toI32_of_lt (by omega) (by omega)
  have entries : (List.range 32).map (fun k : Nat =>
      (4194276, toU32 ((k : Int) + (view.numPages : Int)))) =
        (List.range 32).map fun k => (PageView.empty.freeSpace, view.numPages + k) := by
    apply List.map_congr_left
    intro k member
    have small := List.mem_range.mp member
    have number : toU32 ((k : Int) + (view.numPages : Int)) = view.numPages + k := by
      unfold toU32
      omega
    have free : PageView.empty.freeSpace = 4194276 := by simp [PageView.freeSpace]
    rw [number, free]
  rw [FileView.extend_index, ← entries, ← count]
  exact (indexPages_perm _ 32 s.freeSpaceMap).trans (rep.index.append_right _)

end Adopt

/-- Page headers, index, body list and page count of the file header make the
abstract file one segment longer. -/
theorem adoptSegment_refines {s : DmsFile} {view : FileView} {data : Nat}
    {mapped : OssMmapFile} (rep : FileRep s view) (new : NewSegment s data)
    (sameFile : mapped.fileOp = s.fileOp)
    (region : OssMmapFile.Mapped s.toOssMmapFile mapped data dmsFileSegmentSize) :
    FileRep ({ s with toOssMmapFile := mapped }.adoptSegment 0 data) view.extend := by
  have segments := rep.segments
  have few := rep.segments_lt
  have oldMapped := rep.mapped
  have inSpace := region.inSpace
  have headerInFile := rep.headerInFile
  have behindHeader := new.behindHeader
  have inFile := new.inFile
  simp only [dmsFileSegmentSize] at inSpace
  have fields := adoptSegment_fields { s with toOssMmapFile := mapped } 0 data
  generalize { s with toOssMmapFile := mapped }.adoptSegment 0 data = s' at fields ⊢
  have body : s'.body = s.body ++ [data] := fields.body
  -- the two stores: headers inside the new segment, one word of the file header
  have oldMemory : { s with toOssMmapFile := mapped }.memory = s.memory := by
    rw [DmsFile.memory, DmsFile.memory, sameFile]
  have memory := fields.memory
  rw [oldMemory] at memory
  simp only [dmsPagesPerSegment, Nat.zero_add] at memory
  generalize initialised : initPages data 32 s.memory = m at memory
  have initKept : ∀ a, a < data ∨ data + 134217728 ≤ a → m a = s.memory a :=
    fun a outside => initialised ▸ initPages_outside fun k bound => by omega
  have oldWord : readU32 m 4 = 32 * view.segments := by
    have front : SameOn 0 65536 s.memory m := fun a _ _ => initKept a (by omega)
    exact (front.readU32_eq (by omega) (by omega)).trans rep.headerSize
  have headerKept : SameOn 65536 s.fileOp.file.size m s'.memory := by
    rw [memory]
    exact sameOn_writeU32 (Or.inr (by omega))
  have pagesExtended : view.extend.numPages = view.numPages + 32 := by
    simp [FileView.numPages, Nat.mul_add]
  have pageCount : view.numPages = 32 * view.segments := rfl
  have size : s'.fileOp.file.size = s.fileOp.file.size := by
    rw [fields.size, ← sameFile]
  have regions : s'.mappedBytes = s.mappedBytes + 134217728 := by
    rw [fields.mappedBytes, OssMmapFile.mappedBytes, OssMmapFile.mappedBytes,
      region.segments]
    simp
  refine ⟨⟨?_, ?_, ?_, ?_, ?_, ?_, ?_, ?_, ?_, ?_, ?_⟩, ?_⟩
  · rw [fields.isValid, ← rep.valid, ← sameFile]
  · exact fields.header.trans rep.header
  · rw [body, List.length_append, FileView.extend_segments, ← segments]
    rfl
  · intro other member
    rw [body] at member
    rw [size]
    rcases List.mem_append.mp member with old | added
    · exact rep.inFile other old
    · obtain rfl := List.mem_singleton.mp added
      exact ⟨behindHeader, inFile⟩
  · rw [body]
    refine List.pairwise_append.mpr ⟨rep.apart, List.pairwise_singleton _ _, ?_⟩
    intro first inOld second added
    obtain rfl := List.mem_singleton.mp added
    exact new.behind first inOld
  · rw [regions, oldMapped, FileView.extend_segments]
    omega
  · rw [regions]
    exact inSpace
  · rw [size]
    exact headerInFile
  · rw [memory, readU32_writeU32_self, oldWord, FileView.extend_segments]
    unfold toU32
    omega
  · rw [size]
    exact rep.sizeBound
  · intro p bound
    rw [FileView.extend_page]
    rw [pagesExtended] at bound
    by_cases old : p < view.numPages
    · have inOld := rep.page_inFile old
      obtain ⟨segment, -, member, place⟩ := rep.segment_of_page old
      have behind := new.behind segment member
      rw [rep.pageAddress_old body old]
      apply (rep.pages p old).congr
      intro a lower upper
      rw [headerKept a (by omega) (by omega), initKept a (by omega)]
    · -- page `p` is page `p % 32` of the new segment
      have fresh := view.unallocated p (by omega)
      rw [rep.pageAddress_new body (Nat.not_lt.mp old) bound, fresh]
      have zero := new.zero
      have page : PageRep m (data + 4194304 * (p % 32)) .empty :=
        initialised ▸ initPages_refines (by omega)
          fun a lower upper => zero a lower (by omega)
      exact page.congr (headerKept.mono (by omega) (by omega))
  · rw [fields.freeSpaceMap]
    exact rep.extend_index

/-! ### _extendSegment -/

/-- A successful extension: one more segment, at the old end of the file. -/
structure Extended (s s' : DmsFile) (view : FileView) : Prop where
  rep : FileRep s' view.extend
  body : s'.body = s.body ++ [s.fileOp.file.size]
  size : s'.fileOp.file.size = s.fileOp.file.size + 134217728
  wasFree : s.mutex = .init
  mutex : s'.mutex = .init
  extendMutex : s'.extendMutex = s.extendMutex

/-- A failed extension: the file may have grown, nothing else shows. -/
structure NotExtended (s s' : DmsFile) (view : FileView) : Prop where
  rep : FileRep s' view
  body : s'.body = s.body
  size : s.fileOp.file.size ≤ s'.fileOp.file.size
  mutex : s'.mutex = s.mutex
  extendMutex : s'.extendMutex = s.extendMutex

/-- What `getSize` answers with `EDB_OK` is the size of the file. -/
theorem getSize_ok {op : OssPrimitiveFileOp} {fstat : Option Errno} {rc : ReturnCode}
    {size : Nat} (answered : op.getSize fstat = (rc, size)) (ok : rc = edbOk) :
    size = op.file.size := by
  cases fstat with
  | none => exact (Prod.mk.inj answered).2.symm
  | some errno =>
      have code : errno.value = rc := (Prod.mk.inj answered).1
      exact absurd (code.trans ok) errno.value_ne_edbOk

/-- How far a completed `_extendSegment` came. -/
theorem extendSegment_cases {s s' : DmsFile} {answer : ExtendAnswer} {rc : ReturnCode}
    (result : s.extendSegment answer = some (rc, s')) :
    (rc ≠ edbOk ∧ s' = s) ∨
    (∃ op, rc ≠ edbOk ∧ s' = { s with fileOp := op } ∧
      extendFile answer.writes dmsFileSegmentSize s.fileOp = some (rc, op)) ∨
    (∃ op data mapped, rc ≠ edbOk ∧ s' = { s with toOssMmapFile := mapped } ∧
      extendFile answer.writes dmsFileSegmentSize s.fileOp = some (edbOk, op) ∧
      { s with fileOp := op }.toOssMmapFile.map answer.map s.fileOp.file.size
        dmsFileSegmentSize = (rc, data, mapped)) ∨
    (∃ op data mapped header held, rc = edbOk ∧
      s' = ({ s with toOssMmapFile := mapped, mutex := held }.adoptSegment header
        data).releaseMutex ∧
      extendFile answer.writes dmsFileSegmentSize s.fileOp = some (edbOk, op) ∧
      { s with fileOp := op }.toOssMmapFile.map answer.map s.fileOp.file.size
        dmsFileSegmentSize = (edbOk, some data, mapped) ∧
      s.header = some header ∧ s.mutex.get = some held) := by
  rw [DmsFile.extendSegment] at result
  cases sized : s.fileOp.getSize answer.fstat with
  | mk sizeCode offset =>
      simp only [sized] at result
      split at result
      next sizeFailed =>
        obtain ⟨rfl, rfl⟩ := Prod.mk.inj (Option.some.inj result)
        exact Or.inl ⟨sizeFailed, rfl⟩
      next sizeOk =>
        obtain rfl := getSize_ok sized (by simpa using sizeOk)
        cases grew : extendFile answer.writes dmsFileSegmentSize s.fileOp with
        | none =>
            rw [grew] at result
            cases result
        | some pass =>
            obtain ⟨growCode, op⟩ := pass
            simp only [grew] at result
            split at result
            next growFailed =>
              obtain ⟨rfl, rfl⟩ := Prod.mk.inj (Option.some.inj result)
              exact Or.inr (Or.inl ⟨op, growFailed, rfl, rfl⟩)
            next growOk =>
              obtain rfl : growCode = edbOk := by simpa using growOk
              cases placed : OssMmapFile.map answer.map s.fileOp.file.size
                  dmsFileSegmentSize { s with fileOp := op }.toOssMmapFile with
              | mk mapCode rest =>
                  obtain ⟨data, mapped⟩ := rest
                  simp only [placed] at result
                  split at result
                  next mapFailed =>
                    obtain ⟨rfl, rfl⟩ := Prod.mk.inj (Option.some.inj result)
                    exact Or.inr (Or.inr (Or.inl ⟨op, data, mapped, mapFailed, rfl, rfl, placed⟩))
                  next mapOk =>
                    obtain rfl : mapCode = edbOk := by simpa using mapOk
                    cases data with
                    | none => cases result
                    | some data =>
                        cases isHeader : s.header with
                        | none =>
                            rw [isHeader] at result
                            cases result
                        | some header =>
                            cases taken : s.mutex.get with
                            | none =>
                                rw [isHeader, taken] at result
                                cases result
                            | some held =>
                                rw [isHeader, taken] at result
                                obtain ⟨rfl, rfl⟩ := Prod.mk.inj (Option.some.inj result)
                                exact Or.inr (Or.inr (Or.inr ⟨op, data, mapped, header, held,
                                  rfl, rfl, rfl, placed, rfl, rfl⟩))

/-- Whatever the operating system answers, `_extendSegment` adds a segment of
empty pages and returns `EDB_OK`, or adds none and returns something else. -/
theorem extendSegment_refines {s s' : DmsFile} {view : FileView}
    {answer : ExtendAnswer} {rc : ReturnCode} (rep : FileRep s view)
    (result : s.extendSegment answer = some (rc, s')) :
    (rc = edbOk ∧ Extended s s' view) ∨ (rc ≠ edbOk ∧ NotExtended s s' view) := by
  have chunks : dmsFileSegmentSize % 65536 = 0 := by simp only [dmsFileSegmentSize]
  have nonempty : 0 < dmsFileSegmentSize := by simp only [dmsFileSegmentSize]; omega
  rcases extendSegment_cases result with ⟨failed, rfl⟩ | ⟨op, failed, rfl, grew⟩ |
    ⟨op, data, mapped, failed, rfl, grew, placed⟩ |
    ⟨op, data, mapped, header, held, rfl, rfl, grew, placed, isHeader, taken⟩
  · exact Or.inr ⟨failed, rep, rfl, Nat.le_refl _, rfl, rfl⟩
  · obtain ⟨count, grown, valid, -⟩ := extendFile_spec chunks rep.valid grew
    have longer : s.fileOp.file.size ≤ op.file.size := grown.size ▸ Nat.le_add_right _ _
    exact Or.inr ⟨failed, rep.grow valid grown, rfl, longer, rfl, rfl⟩
  · obtain ⟨count, grown, valid, -⟩ := extendFile_spec chunks rep.valid grew
    have longer : s.fileOp.file.size ≤ op.file.size := grown.size ▸ Nat.le_add_right _ _
    obtain ⟨-, -, outcome⟩ := OssMmapFile.map_spec nonempty placed
    rcases outcome with ⟨ok, -, -⟩ | ⟨-, -, rfl⟩
    · exact absurd ok failed
    · exact Or.inr ⟨failed, rep.grow valid grown, rfl, longer, rfl, rfl⟩
  · obtain ⟨count, grown, valid, outcome⟩ := extendFile_spec chunks rep.valid grew
    have full : count = 134217728 := by
      rcases outcome with ⟨-, full⟩ | ⟨failed, -⟩
      · exact full
      · exact absurd rfl failed
    subst full
    obtain ⟨sameFile, -, mapOutcome⟩ := OssMmapFile.map_spec nonempty placed
    rcases mapOutcome with ⟨-, isData, region⟩ | ⟨notOk, -, -⟩
    · obtain rfl := Option.some.inj isData
      obtain rfl : 0 = header := Option.some.inj (rep.header.symm.trans isHeader)
      obtain ⟨wasFree, released⟩ := OssSLatch.get_some taken
      have heldRep := (rep.grow valid grown).latches held s.extendMutex
      have adopted := adoptSegment_refines heldRep
        ⟨rep.headerInFile, fun other member => (rep.inFile other member).2,
          Nat.le_of_eq grown.size.symm, grown.zero⟩ sameFile region
      have fields := adoptSegment_fields
        { s with toOssMmapFile := mapped, mutex := held } 0 s.fileOp.file.size
      refine Or.inl ⟨rfl, ?_⟩
      generalize { s with toOssMmapFile := mapped, mutex := held }.adoptSegment 0
        s.fileOp.file.size = s₁ at adopted fields ⊢
      refine ⟨adopted.latches s₁.mutex.release s₁.extendMutex, fields.body, ?_, wasFree, ?_,
        fields.extendMutex⟩
      · exact (fields.size.trans (congrArg (·.file.size) sameFile)).trans grown.size
      · have isHeld : s₁.mutex = held := fields.mutex
        show s₁.mutex.release = _
        rw [isHeld, released]
    · exact absurd rfl notOk

/-- The same with `_extendMutex`, which is free before and after. -/
theorem extendLatched_refines {s s' : DmsFile} {view : FileView}
    {answer : ExtendAnswer} {rc : ReturnCode} (rep : FileRep s view)
    (result : s.extendLatched answer = some (rc, s')) :
    s.extendMutex = .init ∧
      ((rc = edbOk ∧ Extended s s' view) ∨ (rc ≠ edbOk ∧ NotExtended s s' view)) := by
  rw [DmsFile.extendLatched] at result
  cases taken : s.extendMutex.tryGet with
  | none =>
      rw [taken] at result
      cases result
  | some held =>
      rw [taken] at result
      dsimp only at result
      have free := OssXLatch.tryGet_some taken
      have released : ∀ latch : OssXLatch, latch.release = s.extendMutex := fun _ => free.symm
      cases called : { s with extendMutex := held }.extendSegment answer with
      | none =>
          rw [called] at result
          cases result
      | some pass =>
          obtain ⟨code, s₁⟩ := pass
          rw [called] at result
          obtain ⟨rfl, rfl⟩ := Prod.mk.inj (Option.some.inj result)
          refine ⟨free, ?_⟩
          rcases extendSegment_refines (rep.latches s.mutex held) called with
            ⟨ok, done⟩ | ⟨failed, done⟩
          · exact Or.inl ⟨ok, done.rep.latches s₁.mutex _, done.body, done.size, done.wasFree,
              done.mutex, released s₁.extendMutex⟩
          · exact Or.inr ⟨failed, done.rep.latches s₁.mutex _, done.body, done.size, done.mutex,
              released s₁.extendMutex⟩

/-- When no step fails, `_extendSegment` comes to its end. -/
theorem extendSegment_ok {s : DmsFile} {answer : ExtendAnswer} {size data header : Nat}
    {op : OssPrimitiveFileOp} {mapped : OssMmapFile} {held : OssSLatch}
    (sized : s.fileOp.getSize answer.fstat = (edbOk, size))
    (grew : extendFile answer.writes dmsFileSegmentSize s.fileOp = some (edbOk, op))
    (placed : { s with fileOp := op }.toOssMmapFile.map answer.map size
      dmsFileSegmentSize = (edbOk, some data, mapped))
    (isHeader : s.header = some header) (taken : s.mutex.get = some held) :
    s.extendSegment answer = some (edbOk,
      ({ s with toOssMmapFile := mapped, mutex := held }.adoptSegment header
        data).releaseMutex) := by
  rw [DmsFile.extendSegment, sized]
  simp only [ne_eq, not_true_eq_false, if_false, grew, placed, isHeader, taken]

/-- When every write(2) takes a whole chunk, `_extendFile` appends a segment. -/
theorem extendFile_granted {s : DmsFile} {view : FileView} (rep : FileRep s view)
    (small : s.fileOp.file.size + 134217728 ≤ OssPrimitiveFileOp.maxFileSize) :
    ∃ op, extendFile (fun _ => [.wrote 65536]) dmsFileSegmentSize s.fileOp =
        some (edbOk, op) ∧
      s.fileOp.file.GrownBy op.file 134217728 ∧ op.isValid = true := by
  obtain ⟨op, grew⟩ := extendLoop_granted (fun _ => rfl) 2048 0 s.fileOp rep.valid
    (by omega)
  have grewFile : extendFile (fun _ => [WriteResult.wrote 65536]) dmsFileSegmentSize s.fileOp =
      some (edbOk, op) := grew
  obtain ⟨count, grown, valid, outcome⟩ :=
    extendFile_spec (by simp only [dmsFileSegmentSize]) rep.valid grewFile
  have full : count = 134217728 := by
    rcases outcome with ⟨-, full⟩ | ⟨failed, -⟩
    · exact full
    · exact absurd rfl failed
  subst full
  exact ⟨op, grewFile, grown, valid⟩

/-- When every call is granted, the file ends on a page boundary of the machine
and there is address space left, `_extendSegment` succeeds. -/
theorem extendSegment_granted {s : DmsFile} {view : FileView} (rep : FileRep s view)
    (free : s.mutex = .init) (aligned : s.fileOp.file.size % 4096 = 0)
    (small : s.fileOp.file.size + 134217728 ≤ OssPrimitiveFileOp.maxFileSize)
    (room : s.mappedBytes + 134217728 ≤ addressSpace) :
    ∃ s', s.extendSegment .granted = some (edbOk, s') := by
  obtain ⟨op, grewFile, grown, -⟩ := extendFile_granted rep small
  have inRange : s.fileOp.file.size + 134217728 < 9223372036854775808 := by
    simp only [OssPrimitiveFileOp.maxFileSize] at small
    omega
  have placed : OssMmapFile.map .granted s.fileOp.file.size dmsFileSegmentSize
      { s with fileOp := op }.toOssMmapFile = _ :=
    OssMmapFile.map_success (by simp only [dmsFileSegmentSize]; omega) aligned
      (Nat.le_of_eq grown.size.symm) inRange room
  have taken : s.mutex.get = some ⟨true, 0⟩ := by rw [free, OssSLatch.get_init]
  exact ⟨_, extendSegment_ok rfl grewFile placed rep.header taken⟩

/-- When the file has grown and `map` fails, the file stays as long as it is. -/
theorem extendSegment_unmapped {s : DmsFile} (answer : ExtendAnswer) {size : Nat}
    {op : OssPrimitiveFileOp} {rc : ReturnCode}
    (sized : s.fileOp.getSize answer.fstat = (edbOk, size))
    (grew : extendFile answer.writes dmsFileSegmentSize s.fileOp = some (edbOk, op))
    (refused : { s with fileOp := op }.toOssMmapFile.map answer.map size
      dmsFileSegmentSize = (rc, none, { s with fileOp := op }.toOssMmapFile))
    (failed : rc ≠ edbOk) :
    s.extendSegment answer = some (rc, { s with fileOp := op }) := by
  rw [DmsFile.extendSegment, sized]
  simp only [ne_eq, not_true_eq_false, if_false, grew, refused]
  rw [if_pos failed]

end EmeraldDb
