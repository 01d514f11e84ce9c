/-
Module: EmeraldDb.Proofs.Reopening
Purpose: What _loadData makes of a file with any number of segments when the
  operating system grants every call: which regions it maps, which entries it
  puts into the index, and where it stops.
Trusted boundary: none
Main exports: segmentOffset_eq, Loaded, loadSegments_granted, reopen_loads
-/
import EmeraldDb.Proofs.Opening

namespace EmeraldDb

open ByteMemory
open DmsFile (InitAnswer segmentOffset loadPages loadSegments)

/-! ### Offsets -/

/-- The `int` arithmetic of `_loadData` is exact for the first sixteen segments. -/
theorem segmentOffset_eq {i : Nat} (small : i < 16) :
    segmentOffset i = 65536 + 134217728 * i := by
  have product : toI32 (134217728 * (i : Int)) = 134217728 * (i : Int) :=
    toI32_of_lt (by omega) (by omega)
  rw [segmentOffset]
  simp only [dmsFileHeaderSize, dmsFileSegmentSize, toU64]
  have factor : ((134217728 : Nat) : Int) = 134217728 := rfl
  have header : ((65536 : Nat) : Int) = 65536 := rfl
  rw [factor, header, product, toI32_of_lt (by omega) (by omega)]
  omega

/-- For the seventeenth the product wraps to the least `int`, and the sum is far
behind the end of every file. -/
theorem segmentOffset_overflow : segmentOffset 16 = 18446744071562133504 := by
  decide

/-! ### The loops of _loadData -/

/-- The inner loop adds one entry per page, numbered within the segment. -/
theorem loadPages_perm (m : Mem) (data : Nat) : ∀ (n : Nat) (index : Multimap Nat Nat),
    (loadPages m data n index).entries.Perm (index.entries ++
      (List.range n).map fun k => (pageFreeSpace m (data + 4194304 * k), k))
  | 0, index => by simp [loadPages]
  | n + 1, index => by
      rw [loadPages, List.range_succ, List.map_append, ← List.append_assoc]
      refine (Multimap.insert_perm _ _ _).trans ?_
      refine ((loadPages_perm m data n index).cons _).trans ?_
      exact (List.perm_append_singleton _ _).symm

/-- The entries of one loaded segment. -/
def segmentEntries (m : Mem) (i : Nat) : List (Nat × Nat) :=
  (List.range 32).map fun k =>
    (pageFreeSpace m (65536 + 134217728 * i + 4194304 * k), k)

/-- The entries the outer loop adds for `count` segments from segment `i` on. -/
def loadedEntries (m : Mem) (i count : Nat) : List (Nat × Nat) :=
  (List.range' i count).flatMap (segmentEntries m)

/-- `s'` is `s` with `count` segments from segment `i` on mapped, each at the offset
where a session without failed extensions put it. -/
structure Loaded (s s' : DmsFile) (i count : Nat) : Prop where
  fileOp : s'.fileOp = s.fileOp
  header : s'.header = s.header
  mutex : s'.mutex = s.mutex
  body : s'.body = s.body ++ (List.range' i count).map fun j => 65536 + 134217728 * j
  mapped : s'.mappedBytes = s.mappedBytes + 134217728 * count
  index : s'.freeSpaceMap.entries.Perm
    (s.freeSpaceMap.entries ++ loadedEntries s.memory i count)

theorem Loaded.refl (s : DmsFile) (i : Nat) : Loaded s s i 0 :=
  ⟨rfl, rfl, rfl, by simp, rfl, by simp [loadedEntries]⟩

/-- Mapping one more segment in front of the others. -/
theorem Loaded.cons {s s₁ s' : DmsFile} {i count : Nat} (first : Loaded s s₁ i 1)
    (rest : Loaded s₁ s' (i + 1) count) : Loaded s s' i (count + 1) := by
  have memory : s₁.memory = s.memory := congrArg (·.file.bytes) first.fileOp
  refine ⟨rest.fileOp.trans first.fileOp, rest.header.trans first.header,
    rest.mutex.trans first.mutex, ?_, ?_, ?_⟩
  · rw [rest.body, first.body, List.append_assoc, ← List.map_append]
    rfl
  · rw [rest.mapped, first.mapped]
    omega
  · have entries : loadedEntries s.memory i (count + 1) =
        loadedEntries s.memory i 1 ++ loadedEntries s.memory (i + 1) count := by
      rw [loadedEntries, loadedEntries, loadedEntries, ← List.flatMap_append]
      rfl
    rw [entries, ← List.append_assoc]
    refine rest.index.trans ?_
    rw [memory]
    exact first.index.append_right _

/-- The state behind one pass of the outer loop that mapped `data`. -/
def loadedSegment (s : DmsFile) (data : Nat) : DmsFile :=
  { s with
    segments := s.segments ++ [⟨data, dmsFileSegmentSize, data⟩]
    body := s.body ++ [data]
    freeSpaceMap := loadPages s.memory data dmsPagesPerSegment s.freeSpaceMap }

theorem loadedSegment_mappedBytes (s : DmsFile) (data : Nat) :
    (loadedSegment s data).mappedBytes = s.mappedBytes + dmsFileSegmentSize := by
  simp only [OssMmapFile.mappedBytes, loadedSegment, List.map_append, List.sum_append,
    List.map_singleton, List.sum_singleton]

/-- One of the first sixteen segments maps. -/
theorem segment_placed {s : DmsFile} {i : Nat} (early : i < 16)
    (inFile : 65536 + 134217728 * (i + 1) ≤ s.fileOp.file.size)
    (mapped : s.mappedBytes = 65536 + 134217728 * i) :
    s.toOssMmapFile.map .granted (segmentOffset i) dmsFileSegmentSize =
      (edbOk, some (65536 + 134217728 * i),
        { s.toOssMmapFile with
          segments := s.segments ++
            [⟨65536 + 134217728 * i, dmsFileSegmentSize, 65536 + 134217728 * i⟩] }) := by
  have size : dmsFileSegmentSize = 134217728 := rfl
  have space : addressSpace = 140737488355328 := rfl
  have inside : 65536 + 134217728 * i + dmsFileSegmentSize ≤ s.fileOp.file.size := by
    omega
  have inRange : 65536 + 134217728 * i + dmsFileSegmentSize < 9223372036854775808 := by
    omega
  have inSpace : s.mappedBytes + dmsFileSegmentSize ≤ addressSpace := by
    omega
  rw [segmentOffset_eq early]
  exact OssMmapFile.map_success (by omega) (by omega) inside inRange inSpace

/-- What a pass that mapped its segment goes on with. -/
theorem loadSegments_mapped (answers : Nat → MapAnswer) {s : DmsFile} {i data : Nat}
    (placed : s.toOssMmapFile.map (answers i) (segmentOffset i) dmsFileSegmentSize =
      (edbOk, some data,
        { s.toOssMmapFile with
          segments := s.segments ++ [⟨data, dmsFileSegmentSize, data⟩] }))
    (passes : Nat) :
    loadSegments answers (passes + 1) i s =
      loadSegments answers passes (i + 1) (loadedSegment s data) := by
  rw [loadSegments, placed]
  dsimp only
  rw [if_neg (not_not_intro rfl)]
  rfl

/-- What a pass that could not map its segment answers. -/
theorem loadSegments_refused (answers : Nat → MapAnswer) {s : DmsFile} {i : Nat}
    (refused : s.toOssMmapFile.map (answers i) (segmentOffset i) dmsFileSegmentSize =
      (edbInvalidArg, none, s.toOssMmapFile)) (passes : Nat) :
    loadSegments answers (passes + 1) i s = some (edbInvalidArg, s) := by
  rw [loadSegments, refused]
  dsimp only
  rw [if_pos (by decide)]

/-- One pass of the outer loop, for one of the first sixteen segments. -/
theorem loadSegments_step {s : DmsFile} {i : Nat} (early : i < 16)
    (inFile : 65536 + 134217728 * (i + 1) ≤ s.fileOp.file.size)
    (mapped : s.mappedBytes = 65536 + 134217728 * i) :
    ∃ s₁, Loaded s s₁ i 1 ∧ ∀ passes,
      loadSegments (fun _ => .granted) (passes + 1) i s =
        loadSegments (fun _ => .granted) passes (i + 1) s₁ := by
  refine ⟨loadedSegment s (65536 + 134217728 * i), ⟨rfl, rfl, rfl, ?_, ?_, ?_⟩,
    loadSegments_mapped _ (segment_placed early inFile mapped)⟩
  · rw [List.range'_one, List.map_singleton]
    rfl
  · have size : dmsFileSegmentSize = 134217728 := rfl
    rw [loadedSegment_mappedBytes, size]
  · have one : loadedEntries s.memory i 1 = segmentEntries s.memory i := by
      rw [loadedEntries, List.range'_one, List.flatMap_singleton]
    rw [one]
    exact loadPages_perm s.memory (65536 + 134217728 * i) 32 s.freeSpaceMap

/-- The seventeenth segment is not found. -/
theorem loadSegments_overflow {s : DmsFile} (passes : Nat)
    (bound : s.fileOp.file.size ≤ OssPrimitiveFileOp.maxFileSize) :
    loadSegments (fun _ => .granted) (passes + 1) 16 s = some (edbInvalidArg, s) := by
  have refused : OssMmapFile.map .granted (segmentOffset 16) dmsFileSegmentSize
      s.toOssMmapFile = (edbInvalidArg, none, s.toOssMmapFile) := by
    apply OssMmapFile.map_behind_end
    · simp only [dmsFileSegmentSize]
      omega
    · rw [segmentOffset_overflow]
      simp only [OssPrimitiveFileOp.maxFileSize] at bound
      simp only [dmsFileSegmentSize, toU64]
      omega
  exact loadSegments_refused _ refused passes

/-- The outer loop maps the segments one after the other and stops at the
seventeenth. -/
theorem loadSegments_granted : ∀ (passes i : Nat) (s : DmsFile), i ≤ 16 →
    65536 + 134217728 * (i + passes) ≤ s.fileOp.file.size →
    s.fileOp.file.size ≤ OssPrimitiveFileOp.maxFileSize →
    s.mappedBytes = 65536 + 134217728 * i →
      ∃ s', loadSegments (fun _ => .granted) passes i s =
          some (if i + passes ≤ 16 then edbOk else edbInvalidArg, s') ∧
        Loaded s s' i (min passes (16 - i))
  | 0, i, s, early, _, _, _ => by
      refine ⟨s, ?_, ?_⟩
      · rw [Nat.add_zero, if_pos early]
        rfl
      · rw [Nat.zero_min]
        exact .refl s i
  | passes + 1, i, s, early, inFile, bound, mapped => by
      by_cases last : i = 16
      · subst last
        refine ⟨s, ?_, ?_⟩
        · rw [loadSegments_overflow passes bound, if_neg (by omega)]
        · rw [Nat.sub_self, Nat.min_zero]
          exact .refl s 16
      · have before : i < 16 := by omega
        have inside : 65536 + 134217728 * (i + 1) ≤ s.fileOp.file.size :=
          Nat.le_trans (Nat.add_le_add_left (Nat.mul_le_mul_left _ (by omega)) _) inFile
        obtain ⟨s₁, first, step⟩ := loadSegments_step before inside mapped
        obtain ⟨s', rest, loaded⟩ := loadSegments_granted passes (i + 1) s₁ (by omega)
          (by rw [first.fileOp]; omega) (by rw [first.fileOp]; exact bound)
          (by rw [first.mapped, mapped]; omega)
        have count : min (passes + 1) (16 - i) = min passes (16 - (i + 1)) + 1 := by omega
        have total : i + 1 + passes = i + (passes + 1) := by omega
        refine ⟨s', ?_, ?_⟩
        · rw [step, rest, total]
        · rw [count]
          exact first.cons loaded

/-! ### A new object on the file of an old one -/

/-- Regions of one length that do not overlap fill at least their total length. -/
theorem apart_length {high length : Nat} : ∀ {starts : List Nat} (low : Nat), low ≤ high →
    (∀ start ∈ starts, low ≤ start ∧ start + length ≤ high) →
    (starts.Pairwise fun first second => first + length ≤ second) →
      low + length * starts.length ≤ high
  | [], _, nonempty, _, _ => nonempty
  | start :: starts, _, _, inside, apart => by
      obtain ⟨behind, apart⟩ := List.pairwise_cons.mp apart
      have here := inside start List.mem_cons_self
      have rest := apart_length (start + length) here.2
        (fun later member => ⟨behind later member, (inside later
          (List.mem_cons_of_mem _ member)).2⟩) apart
      rw [List.length_cons, Nat.mul_succ]
      omega

/-- The file is long enough for its segments. -/
theorem FileLayout.size_ge {s : DmsFile} {view : FileView} (rep : FileLayout s view) :
    65536 + 134217728 * view.segments ≤ s.fileOp.file.size := by
  rw [← rep.segments]
  exact apart_length 65536 rep.headerInFile rep.inFile rep.apart

/-- The object after `destroy` and `initialize`, with `count` segments mapped. -/
structure Reopened (s s' : DmsFile) (count : Nat) : Prop where
  file : s'.fileOp.file = s.fileOp.file
  valid : s'.fileOp.isValid = true
  header : s'.header = some 0
  mutex : s'.mutex = .init
  mapped : s'.mappedBytes = 65536 + 134217728 * count
  body : s'.body = (List.range count).map fun j => 65536 + 134217728 * j
  index : s'.freeSpaceMap.entries.Perm (loadedEntries s.memory 0 count)

/-- `_loadData` when the file header can be mapped. -/
theorem loadData_of_map {s : DmsFile} {answer : InitAnswer} {header : Nat} {mapped : OssMmapFile}
    (closed : s.header = none)
    (placed : s.toOssMmapFile.map answer.headerMap 0 dmsFileHeaderSize =
      (edbOk, some header, mapped)) :
    s.loadData answer =
      DmsFile.loadPagesOf { s with toOssMmapFile := mapped, header := some header } header
        answer := by
  rw [DmsFile.loadData, closed, placed]
  dsimp only
  rw [if_neg (not_not_intro rfl)]

/-- `_loadData` of an object that has just opened the file. -/
theorem loadData_granted {s : DmsFile} (segments : Nat) (closed : s.header = none)
    (unmapped : s.segments = []) (empty : s.body = []) (noIndex : s.freeSpaceMap = .empty)
    (few : segments < 1048576)
    (word : readU32 s.memory 4 = 32 * segments)
    (size : 65536 + 134217728 * segments ≤ s.fileOp.file.size)
    (bound : s.fileOp.file.size ≤ OssPrimitiveFileOp.maxFileSize) :
    ∃ s', s.loadData .granted =
        some (if segments ≤ 16 then edbOk else edbInvalidArg, s') ∧
      s'.fileOp = s.fileOp ∧ s'.header = some 0 ∧ s'.mutex = s.mutex ∧
      s'.mappedBytes = 65536 + 134217728 * min segments 16 ∧
      s'.body = (List.range (min segments 16)).map (fun j => 65536 + 134217728 * j) ∧
      s'.freeSpaceMap.entries.Perm (loadedEntries s.memory 0 (min segments 16)) := by
  have nothing : s.mappedBytes = 0 := by
    rw [OssMmapFile.mappedBytes, unmapped]
    rfl
  have inFile : 0 + dmsFileHeaderSize ≤ s.fileOp.file.size := by
    simp only [dmsFileHeaderSize]
    omega
  have placed := OssMmapFile.map_success (by decide) (Nat.zero_mod 4096) inFile
    (by simp only [dmsFileHeaderSize]; omega)
    (by rw [nothing]; decide : s.mappedBytes + dmsFileHeaderSize ≤ addressSpace)
  let s₀ : DmsFile :=
    { s with
      segments := s.segments ++ [⟨0, dmsFileHeaderSize, 0⟩]
      header := some 0 }
  have front : s.loadData .granted = s₀.loadPagesOf 0 .granted := loadData_of_map closed placed
  have mapped : s₀.mappedBytes = 65536 + 134217728 * 0 := by
    show ((s.segments ++ [_]).map OssMmapSegment.length).sum = _
    rw [unmapped]
    rfl
  obtain ⟨s', loaded, result⟩ := loadSegments_granted segments 0 s₀ (Nat.zero_le _)
    (by rw [Nat.zero_add]; exact size) bound mapped
  have pages : s₀.loadPagesOf 0 .granted =
      loadSegments (fun _ => .granted) segments 0 s₀ := by
    have signed : toI32 (readU32 s₀.memory (0 + 4)) = 32 * (segments : Int) := by
      rw [Nat.zero_add]
      show toI32 (readU32 s.memory 4) = _
      rw [word]
      exact toI32_of_lt (by omega) (by omega)
    have whole : (32 * (segments : Int)).tmod dmsPagesPerSegment = 0 :=
      Int.mul_tmod_right 32 segments
    have count : (32 * (segments : Int)).tdiv dmsPagesPerSegment = segments :=
      Int.mul_tdiv_cancel_left segments (by decide)
    rw [DmsFile.loadPagesOf, signed]
    dsimp only
    rw [whole, count, if_neg (not_not_intro rfl), Int.toNat_natCast]
    rfl
  rw [Nat.zero_add] at loaded
  refine ⟨s', front.trans (pages.trans loaded), result.fileOp, result.header, result.mutex,
    ?_, ?_, ?_⟩
  · rw [result.mapped, mapped, Nat.mul_zero, Nat.add_zero]
  · have body := result.body
    rw [List.range_eq_range']
    show s'.body = _
    rw [body]
    show s.body ++ _ = _
    rw [empty]
    rfl
  · have index := result.index
    show s'.freeSpaceMap.entries.Perm _
    refine index.trans ?_
    show (s.freeSpaceMap.entries ++ _).Perm _
    rw [noIndex]
    exact .refl _

/-- Reopening with every system call granted maps the first sixteen segments. -/
theorem reopen_loads {s : DmsFile} {view : FileView} (rep : FileRep s view) :
    ∃ s', s.reopen = some (if view.segments ≤ 16 then edbOk else edbInvalidArg, s') ∧
      Reopened s s' (min view.segments 16) := by
  let s₀ : DmsFile :=
    { fileOp := ⟨true, 0, s.destroy⟩, opened := true, segments := [],
      header := none, body := [], freeSpaceMap := .empty,
      mutex := .init, extendMutex := .init }
  have kept : s.destroy = s.fileOp.file := by
    rw [DmsFile.destroy, OssMmapFile.close]
    dsimp only
    split <;> rfl
  have memory : s₀.memory = s.memory := congrArg OsFile.bytes kept
  have size := rep.size_ge
  obtain ⟨s', loaded, file, header, mutex, mapped, body, index⟩ := loadData_granted (s := s₀)
    view.segments rfl rfl rfl rfl rep.segments_lt
    (by rw [memory]; exact rep.headerSize)
    (by show _ ≤ s.destroy.size; rw [kept]; exact size)
    (by show s.destroy.size ≤ _; rw [kept]; exact rep.sizeBound)
  have sized : s₀.fileOp.getSize none = (edbOk, s.fileOp.file.size) := by
    rw [OssPrimitiveFileOp.getSize]
    exact congrArg (fun file => (edbOk, OsFile.size file)) kept
  have second : DmsFile.initializeFrom [.granted] s₀ = s₀.loadData .granted := by
    rw [DmsFile.initializeFrom]
    have fstat : InitAnswer.granted.fstat = none := rfl
    rw [fstat, sized]
    dsimp only
    rw [if_neg (not_not_intro rfl), if_neg (by omega)]
  refine ⟨s', ?_, ?_, congrArg OssPrimitiveFileOp.isValid file, header, mutex, mapped, body, ?_⟩
  · rw [DmsFile.reopen, DmsFile.initializeFile, if_pos rfl, OssMmapFile.openFile]
    dsimp only
    rw [if_neg (not_not_intro rfl)]
    exact second.trans loaded
  · rw [file]
    exact kept
  · rw [memory] at index
    exact index

end EmeraldDb
