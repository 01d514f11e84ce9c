/-
Module: EmeraldDb.Proofs.Lifetimes
Purpose: What a client was told is stored outlives the server process: it is found, under the
  same record id, in every later lifetime.
Trusted boundary: human-reviewed spec
Main exports: DiskLayout, DiskRep, initializeFile_outcome, ProcessAction.Admissible, Lifetimes,
  ServerProcess.Holds, lifetimes_keepRecords
-/
import EmeraldDb.Pmd.Lifetimes
import EmeraldDb.Proofs.SegmentPlacement
import EmeraldDb.Proofs.ServerRun

namespace EmeraldDb

open ByteMemory
open DmsFile (InitAnswer loadSegments segmentOffset)

/-! ### The file of a stopped server -/

/-- A file that is closed represents an abstract file: its segments lie where `_loadData` looks
for them, and it can compute their offsets. -/
structure DiskLayout (disk : OsFile) (view : FileView) : Prop where
  few : view.segments ≤ 16
  size : 65536 + 134217728 * view.segments ≤ disk.size
  sizeBound : disk.size ≤ OssPrimitiveFileOp.maxFileSize
  headerSize : readU32 disk.bytes 4 = 32 * view.segments
  pages : ∀ p, p < view.numPages → PageRep disk.bytes (65536 + 4194304 * p) (view.page p)

/-- Or it has not come to a whole file header yet. -/
inductive DiskRep (disk : OsFile) (view : FileView) : Prop where
  | short (size : disk.size < 65536) (empty : view = .empty)
  | whole (layout : DiskLayout disk view)

theorem destroy_file (s : DmsFile) : s.destroy = s.fileOp.file := by
  rw [DmsFile.destroy, OssMmapFile.close]
  dsimp only
  split <;> rfl

section Layout

variable {s : DmsFile} {view : FileView}

/-- Where page `p` is, when the segments lie in their places. -/
theorem pageAddress_placed (body : s.body = (List.range view.segments).map
    fun j => 65536 + 134217728 * j) {p : Nat} (bound : p < view.numPages) :
    s.pageAddress p = 65536 + 4194304 * p := by
  have inRange : p / 32 < view.segments := by
    unfold FileView.numPages at bound
    omega
  have segment : s.body[p / 32]? = some (65536 + 134217728 * (p / 32)) := by
    rw [body, List.getElem?_map, List.getElem?_range inRange]
    rfl
  rw [DmsFile.pageAddress, List.getD_eq_getElem?_getD, segment, Option.getD_some]
  omega

/-- What a server whose segments lie in their places leaves. -/
theorem FileLayout.stopped (layout : FileLayout s view) (placed : Placed s)
    (few : s.body.length ≤ 16) : DiskLayout s.destroy view := by
  have body : s.body = (List.range view.segments).map fun j => 65536 + 134217728 * j := by
    rw [← layout.segments, placed.2, List.length_map, List.length_range]
    apply List.map_congr_left
    intro i _
    simp only [dmsFileHeaderSize, dmsFileSegmentSize]
    omega
  rw [layout.segments] at few
  rw [destroy_file]
  refine ⟨few, layout.size_ge, layout.sizeBound, layout.headerSize, fun p bound => ?_⟩
  rw [← pageAddress_placed body bound]
  exact layout.pages p bound

/-- What an object makes of that file that mapped every segment. -/
theorem DiskLayout.running (disk : DiskLayout s.fileOp.file view)
    (valid : s.fileOp.isValid = true) (header : s.header = some 0)
    (body : s.body = (List.range view.segments).map fun j => 65536 + 134217728 * j)
    (mapped : s.mappedBytes = 65536 + 134217728 * view.segments) : FileLayout s view where
  valid := valid
  header := header
  segments := by rw [body, List.length_map, List.length_range]
  inFile := by
    intro data member
    rw [body] at member
    obtain ⟨j, inRange, rfl⟩ := List.mem_map.mp member
    have below := List.mem_range.mp inRange
    have size := disk.size
    omega
  apart := by
    rw [body, List.pairwise_map]
    exact List.pairwise_lt_range.imp fun before => by omega
  mapped := mapped
  inSpace := by
    have few := disk.few
    rw [mapped]
    unfold addressSpace
    omega
  headerInFile := by
    have size := disk.size
    omega
  headerSize := disk.headerSize
  sizeBound := disk.sizeBound
  pages := by
    intro p bound
    rw [pageAddress_placed body bound]
    exact disk.pages p bound

end Layout

/-! ### Starting on it -/

section Start

variable {s s' : DmsFile} {view : FileView} {rc : ReturnCode}

/-- What the segment loop of `_loadData` leaves, whatever `map` answers. -/
structure SegmentsLoaded (s s' : DmsFile) (i count : Nat) (rc : ReturnCode) : Prop where
  fileOp : s'.fileOp = s.fileOp
  header : s'.header = s.header
  mutex : s'.mutex = s.mutex
  extendMutex : s'.extendMutex = s.extendMutex
  body : rc = edbOk → s'.body = s.body ++ (List.range' i count).map fun j => 65536 + 134217728 * j
  mapped : rc = edbOk → s'.mappedBytes = s.mappedBytes + 134217728 * count

theorem loadSegments_loaded {answers : Nat → MapAnswer} {count i : Nat} (early : i + count ≤ 16)
    (loaded : loadSegments answers count i s = some (rc, s')) :
    SegmentsLoaded s s' i count rc := by
  induction count generalizing i s with
  | zero =>
      cases loaded
      exact ⟨rfl, rfl, rfl, rfl, fun _ => (List.append_nil _).symm, fun _ => rfl⟩
  | succ count ih =>
      have nonempty : 0 < dmsFileSegmentSize := by
        simp only [dmsFileSegmentSize]
        omega
      rw [loadSegments] at loaded
      cases placed : s.toOssMmapFile.map (answers i) (segmentOffset i) dmsFileSegmentSize with
      | mk code rest =>
          obtain ⟨data, mapped⟩ := rest
          rw [placed] at loaded
          obtain ⟨sameFile, -, ⟨rfl, rfl, region⟩ | ⟨failed, rfl, rfl⟩⟩ :=
            OssMmapFile.map_spec nonempty placed
          · dsimp only at loaded
            rw [if_neg (not_not_intro rfl)] at loaded
            have later := ih (by omega) loaded
            have grown : mapped.mappedBytes = s.mappedBytes + 134217728 := by
              rw [OssMmapFile.mappedBytes, region.segments, List.map_append, List.sum_append]
              rfl
            refine ⟨later.fileOp.trans sameFile, later.header, later.mutex, later.extendMutex,
              ?_, ?_⟩
            · intro ok
              rw [later.body ok, segmentOffset_eq (by omega), List.range'_succ, List.map_cons,
                List.append_assoc]
              rfl
            · intro ok
              refine (later.mapped ok).trans ?_
              change mapped.mappedBytes + _ = _
              omega
          · dsimp only at loaded
            rw [if_pos failed] at loaded
            cases loaded
            exact ⟨rfl, rfl, rfl, rfl, fun ok => absurd ok failed, fun ok => absurd ok failed⟩

/-- The object before `initialize` looks at the file. -/
structure Unopened (s : DmsFile) : Prop where
  valid : s.fileOp.isValid = true
  segments : s.segments = []
  header : s.header = none
  body : s.body = []
  freeSpaceMap : s.freeSpaceMap = .empty
  mutex : s.mutex = .init
  extendMutex : s.extendMutex = .init

/-- What comes of a start: the server runs on the file that was there, or that file is still
there. -/
inductive StartOutcome (view : FileView) (s' : DmsFile) (rc : ReturnCode) : Prop where
  | runs (ok : rc = edbOk) (layout : FileLayout s' view) (mutex : s'.mutex = .init)
      (extendMutex : s'.extendMutex = .init)
  | fails (failed : rc ≠ edbOk) (disk : DiskRep s'.fileOp.file view)

theorem loadData_outcome {answer : InitAnswer} (unopened : Unopened s)
    (disk : DiskRep s.fileOp.file view) (loaded : s.loadData answer = some (rc, s')) :
    StartOutcome view s' rc := by
  have nonempty : 0 < dmsFileHeaderSize := by
    simp only [dmsFileHeaderSize]
    omega
  cases placed : s.toOssMmapFile.map answer.headerMap 0 dmsFileHeaderSize with
  | mk code rest =>
      obtain ⟨header, mapped⟩ := rest
      obtain ⟨sameFile, -, ⟨rfl, rfl, region⟩ | ⟨failed, rfl, rfl⟩⟩ :=
        OssMmapFile.map_spec nonempty placed
      · rw [loadData_of_map unopened.header placed] at loaded
        cases disk with
        | short size empty =>
            have inFile := region.inFile
            simp only [dmsFileHeaderSize] at inFile
            omega
        | whole layout =>
            have few := layout.few
            have bytes : mapped.fileOp.file = s.fileOp.file := congrArg (·.file) sameFile
            have word : readU32 mapped.fileOp.file.bytes (0 + 4) = 32 * view.segments := by
              rw [bytes]
              exact layout.headerSize
            have signed : toI32 (readU32 mapped.fileOp.file.bytes (0 + 4)) =
                32 * (view.segments : Int) := by
              rw [word]
              exact toI32_of_lt (by omega) (by omega)
            have whole : (32 * (view.segments : Int)).tmod dmsPagesPerSegment = 0 :=
              Int.mul_tmod_right 32 view.segments
            have count : (32 * (view.segments : Int)).tdiv dmsPagesPerSegment = view.segments :=
              Int.mul_tdiv_cancel_left view.segments (by decide)
            have memory : ({ s with toOssMmapFile := mapped, header := some 0 } : DmsFile).memory =
                mapped.fileOp.file.bytes := rfl
            rw [DmsFile.loadPagesOf, memory, signed] at loaded
            dsimp only at loaded
            rw [whole, count, if_neg (not_not_intro rfl), Int.toNat_natCast] at loaded
            have later := loadSegments_loaded (by omega) loaded
            have kept : s'.fileOp.file = s.fileOp.file :=
              (congrArg (·.file) later.fileOp).trans bytes
            by_cases ok : rc = edbOk
            · refine .runs ok ?_ (later.mutex.trans unopened.mutex)
                (later.extendMutex.trans unopened.extendMutex)
              have front : mapped.mappedBytes = 65536 := by
                rw [OssMmapFile.mappedBytes, region.segments, unopened.segments]
                rfl
              have body := later.body ok
              rw [← List.range_eq_range'] at body
              refine DiskLayout.running (kept ▸ layout) ?_ later.header ?_ ?_
              · rw [later.fileOp]
                change mapped.fileOp.isValid = true
                rw [sameFile]
                exact unopened.valid
              · rw [body]
                change s.body ++ _ = _
                rw [unopened.body, List.nil_append]
              · rw [later.mapped ok]
                change mapped.mappedBytes + _ = _
                rw [front]
            · exact .fails ok (.whole (kept ▸ layout))
      · rw [DmsFile.loadData, unopened.header, placed] at loaded
        dsimp only at loaded
        rw [if_pos failed] at loaded
        cases loaded
        exact .fails failed disk

/-- A new file is one without segments. -/
theorem NewFile.disk (new : NewFile s) : DiskRep s.fileOp.file .empty := by
  refine .whole ⟨Nat.zero_le _, ?_, ?_, new.headerSize, ?_⟩
  · rw [new.size]
    exact Nat.le_refl _
  · exact new.rep.sizeBound
  · exact fun p bound => absurd bound (Nat.not_lt_zero p)

/-- `_initNew` that fails leaves zeros. -/
theorem initNew_fails {answer : InitAnswer} (blank : BlankFile s)
    (result : s.initNew answer = some (rc, s')) (failed : rc ≠ edbOk) :
    DiskRep s'.fileOp.file .empty := by
  have chunks : dmsFileHeaderSize % 65536 = 0 := by simp only [dmsFileHeaderSize]
  have nonempty : 0 < dmsFileHeaderSize := by
    simp only [dmsFileHeaderSize]
    omega
  rw [DmsFile.initNew] at result
  cases grew : DmsFile.extendFile answer.writes dmsFileHeaderSize s.fileOp with
  | none =>
      rw [grew] at result
      cases result
  | some pass =>
      obtain ⟨growCode, op⟩ := pass
      obtain ⟨count, grown, -, outcome⟩ := extendFile_spec chunks blank.valid grew
      have size := grown.size
      rw [blank.size, Nat.zero_add] at size
      rw [grew] at result
      rcases outcome with ⟨rfl, rfl⟩ | ⟨growFailed, short⟩
      · cases placed : OssMmapFile.map answer.headerMap 0 dmsFileHeaderSize
            { s with fileOp := op }.toOssMmapFile with
        | mk mapCode rest =>
            obtain ⟨header, mapped⟩ := rest
            dsimp only at result
            rw [if_neg (not_not_intro rfl), placed] at result
            obtain ⟨-, -, ⟨rfl, rfl, -⟩ | ⟨mapFailed, rfl, rfl⟩⟩ :=
              OssMmapFile.map_spec nonempty placed
            · cases result
              exact absurd rfl failed
            · dsimp only at result
              rw [if_pos mapFailed] at result
              cases result
              have zeros : SameOn 0 65536 (fun _ => 0) op.file.bytes := fun a _ below =>
                grown.zero a (by rw [blank.size]; exact Nat.zero_le a)
                  (by rw [blank.size, Nat.zero_add]; exact below)
              refine .whole ⟨Nat.zero_le _, Nat.le_of_eq size.symm, ?_, ?_, ?_⟩
              · change op.file.size ≤ _
                rw [size]
                decide
              · exact (zeros.readU32_eq (by decide) (by decide)).trans rfl
              · exact fun p bound => absurd bound (Nat.not_lt_zero p)
      · dsimp only at result
        rw [if_pos growFailed] at result
        cases result
        exact .short (size ▸ short) rfl

theorem NewFile.outcome (new : NewFile s) : StartOutcome .empty s edbOk :=
  .runs rfl new.rep.toFileLayout new.mutex new.extendMutex

/-- `initialize` from the label `getfilesize`, on a file that is not empty. -/
theorem initializeFrom_loads {answers : List InitAnswer} (unopened : Unopened s)
    (disk : DiskRep s.fileOp.file view) (nonempty : s.fileOp.file.size ≠ 0)
    (result : DmsFile.initializeFrom answers s = some (rc, s')) : StartOutcome view s' rc := by
  cases answers with
  | nil => cases result
  | cons answer answers =>
      rw [DmsFile.initializeFrom] at result
      cases sized : s.fileOp.getSize answer.fstat with
      | mk sizeCode offset =>
          rw [sized] at result
          dsimp only at result
          split at result
          next failed =>
            cases result
            exact .fails failed disk
          next ok =>
            obtain rfl := getSize_ok sized (not_not.mp ok)
            rw [if_neg nonempty] at result
            exact loadData_outcome unopened disk result

/-- The same on an empty file, which becomes a new one. -/
theorem initializeFrom_initializes {answers : List InitAnswer} (unopened : Unopened s)
    (empty : s.fileOp.file.size = 0)
    (result : DmsFile.initializeFrom answers s = some (rc, s')) :
    StartOutcome .empty s' rc := by
  have blank : BlankFile s := ⟨unopened.valid, unopened.segments, unopened.body,
    unopened.freeSpaceMap, unopened.mutex, unopened.extendMutex, empty⟩
  cases answers with
  | nil => cases result
  | cons answer answers =>
      rw [DmsFile.initializeFrom] at result
      cases sized : s.fileOp.getSize answer.fstat with
      | mk sizeCode offset =>
          rw [sized] at result
          dsimp only at result
          split at result
          next failed =>
            cases result
            exact .fails failed (.short (by rw [empty]; decide) rfl)
          next ok =>
            obtain rfl := getSize_ok sized (not_not.mp ok)
            rw [if_pos empty] at result
            cases initialised : s.initNew answer with
            | none =>
                rw [initialised] at result
                cases result
            | some pass =>
                obtain ⟨initCode, s₁⟩ := pass
                rw [initialised] at result
                dsimp only at result
                split at result
                next failed =>
                  cases result
                  exact .fails failed (initNew_fails blank initialised failed)
                next ok =>
                  obtain rfl := not_not.mp ok
                  have new := initNew_newFile blank initialised
                  -- the second pass finds a file that is not empty
                  cases answers with
                  | nil => cases result
                  | cons second rest =>
                      rw [DmsFile.initializeFrom] at result
                      cases resized : s₁.fileOp.getSize second.fstat with
                      | mk sizeCode' offset =>
                          rw [resized] at result
                          dsimp only at result
                          split at result
                          next failed =>
                            cases result
                            exact .fails failed new.disk
                          next ok' =>
                            obtain rfl := getSize_ok resized (not_not.mp ok')
                            rw [new.size, if_neg (by decide), new.loadData] at result
                            cases result
                            exact new.outcome

/-- Whatever the operating system answers. -/
theorem initializeFile_outcome {strdup : Bool} {opened : Option Errno}
    {answers : List InitAnswer} {disk : OsFile} (rep : DiskRep disk view)
    (result : DmsFile.initializeFile strdup opened answers disk = some (rc, s')) :
    StartOutcome view s' rc := by
  rw [DmsFile.initializeFile] at result
  cases strdup with
  | false =>
      cases result
      exact .fails (by decide) rep
  | true =>
      rw [if_pos rfl] at result
      cases opened with
      | some errno =>
          rw [OssMmapFile.openFile] at result
          dsimp only at result
          rw [if_pos errno.value_ne_edbOk] at result
          cases result
          exact .fails errno.value_ne_edbOk rep
      | none =>
          rw [OssMmapFile.openFile] at result
          dsimp only at result
          rw [if_neg (not_not_intro rfl)] at result
          have unopened : Unopened
              { fileOp := ⟨true, 0, disk⟩, opened := true, segments := [], header := none,
                body := [], freeSpaceMap := .empty, mutex := .init, extendMutex := .init } :=
            ⟨rfl, rfl, rfl, rfl, rfl, rfl, rfl⟩
          by_cases empty : disk.size = 0
          · obtain rfl : view = .empty := by
              cases rep with
              | short size same => exact same
              | whole layout =>
                  have size := layout.size
                  omega
            exact initializeFrom_initializes unopened empty result
          · exact initializeFrom_loads unopened rep empty result

end Start

/-! ### Runs -/

/-- The agent's buffers are in order, and the process ends only while its segments lie in their
places and `_loadData` can compute where they are. -/
def ProcessAction.Admissible : ProcessAction → ServerProcess → Prop
  | .request asked, .running file =>
      asked.Admissible ∧ (asked.aborts = true → Placed file ∧ file.body.length ≤ 16)
  | .stop, .running file => Placed file ∧ file.body.length ≤ 16
  | _, _ => True

/-- The lifetimes of a server over one data file. -/
abbrev Lifetimes : ServerProcess → ProcessTrace → ServerProcess → Prop :=
  Run ProcessAction.perform fun _ process action => action.Admissible process

/-- What the data file holds, open or not. -/
inductive ServerProcess.Holds (entries : List (DmsRecordId × List UInt8)) :
    ServerProcess → Prop where
  | stopped {disk : OsFile} {view : FileView} (rep : DiskRep disk view)
      (holds : view.store.Holds entries) : Holds entries (.stopped disk)
  | running {file : DmsFile} {view : FileView} (holds : FileHolds file entries view) :
      Holds entries (.running file)

theorem ServerProcess.Holds.start {entries : List (DmsRecordId × List UInt8)} {disk : OsFile}
    (before : ServerProcess.Holds entries (.stopped disk)) {allocated strdup : Bool}
    {opened : Option Errno} {answers : List InitAnswer} {reply : ProcessReply}
    {next : ServerProcess}
    (performed : ProcessAction.perform (.start allocated strdup opened answers) (.stopped disk) =
      some (reply, next)) : next.Holds entries := by
  obtain ⟨rep, holds⟩ := before
  obtain ⟨⟨rc, dmsFile⟩, initialized, same⟩ := Option.map_eq_some_iff.mp performed
  rw [rtnInitialize] at initialized
  split at initialized
  case isFalse =>
    cases initialized
    cases same
    exact .stopped rep holds
  case isTrue =>
    obtain ⟨⟨code, file⟩, called, pair⟩ := Option.map_eq_some_iff.mp initialized
    cases pair
    cases initializeFile_outcome rep called with
    | runs ok layout mutex extendMutex =>
        dsimp only at same
        rw [if_neg (not_not_intro ok)] at same
        cases same
        exact .running ⟨layout, mutex, extendMutex, holds⟩
    | fails failed disk =>
        dsimp only at same
        rw [if_pos failed] at same
        cases same
        refine .stopped ?_ holds
        rw [rtnDestroy, destroy_file]
        exact disk

/-- One action; an insert that was answered with `EDB_OK` added one object. -/
theorem ServerProcess.Holds.perform {entries : List (DmsRecordId × List UInt8)}
    {process next : ServerProcess} (before : process.Holds entries) {action : ProcessAction}
    {reply : ProcessReply} (admissible : action.Admissible process)
    (performed : action.perform process = some (reply, next)) :
    ∃ added, next.Holds (entries ++ added) ∧
      added.map Prod.snd = (action.stores reply).toList := by
  cases action with
  | start allocated strdup opened answers =>
      cases before with
      | running holds => cases performed
      | stopped rep holds =>
          have silent : ProcessAction.stores (.start allocated strdup opened answers) reply =
              none := rfl
          refine ⟨[], ?_, by rw [silent]; rfl⟩
          rw [List.append_nil]
          exact ServerProcess.Holds.start (.stopped rep holds) performed
  | request asked =>
      cases before with
      | stopped rep holds => cases performed
      | running holds =>
          obtain ⟨mayAsk, mayEnd⟩ := admissible
          rw [ProcessAction.perform] at performed
          split at performed
          case isTrue aborts =>
            obtain ⟨placed, few⟩ := mayEnd aborts
            cases performed
            refine ⟨[], ?_, rfl⟩
            rw [List.append_nil]
            exact .stopped (.whole (holds.layout.stopped placed few)) holds.holds
          case isFalse =>
            obtain ⟨⟨out, file⟩, served, same⟩ := Option.map_eq_some_iff.mp performed
            cases same
            obtain ⟨added, view', after, told⟩ := holds.serve mayAsk served
            exact ⟨added, .running after, told⟩
  | stop =>
      cases before with
      | stopped rep holds => cases performed
      | running holds =>
          cases performed
          refine ⟨[], ?_, rfl⟩
          rw [List.append_nil]
          exact .stopped (.whole (holds.layout.stopped admissible.1 admissible.2)) holds.holds

theorem toldStored_append (trace : ProcessTrace)
    (call : Transition ServerProcess ProcessAction ProcessReply) :
    toldStored (trace ++ [call]) =
      toldStored trace ++ (call.action.stores call.reply).toList := by
  rw [toldStored, List.filterMap_append, ← toldStored, List.filterMap_cons]
  cases call.action.stores call.reply <;> rfl

/-- Along all lifetimes the list grows by the objects that clients were told are stored. -/
theorem ServerProcess.Holds.run {entries : List (DmsRecordId × List UInt8)}
    {start process : ServerProcess} {trace : ProcessTrace} (before : start.Holds entries)
    (run : Lifetimes start trace process) :
    ∃ added, process.Holds (entries ++ added) ∧ added.map Prod.snd = toldStored trace := by
  let kept (trace : ProcessTrace) (process : ServerProcess) : Prop :=
    ∃ added, process.Holds (entries ++ added) ∧ added.map Prod.snd = toldStored trace
  have initially : kept [] start := by
    refine ⟨[], ?_, rfl⟩
    rwa [List.append_nil]
  refine Run.invariant_with_trace initially ?_ run
  rintro trace process action reply next - ⟨added, holds, told⟩ admissible performed
  obtain ⟨more, after, last⟩ := holds.perform admissible performed
  refine ⟨added ++ more, ?_, ?_⟩
  · rwa [← List.append_assoc]
  · rw [toldStored_append, List.map_append, told, last]

theorem emptyFile_holds {disk : OsFile} (empty : disk.size = 0) :
    ServerProcess.Holds [] (.stopped disk) := by
  refine .stopped (.short ?_ rfl)
    (.nil fun _ allocated => Nat.not_lt_zero _ (FileView.page_lt_of_allocated allocated))
  rw [empty]
  decide

/-- Whatever a client was told is stored is found, under one record id, for as long as there
are lifetimes; nothing else is. -/
theorem lifetimes_keepRecords {disk : OsFile} {s s' : DmsFile} {trace later : ProcessTrace}
    (empty : disk.size = 0) (run : Lifetimes (.stopped disk) trace (.running s))
    (continued : Lifetimes (.running s) later (.running s')) :
    ∃ rids added, KeepsUnder s rids (toldStored trace) ∧
      KeepsUnder s' (rids ++ added) (toldStored trace ++ toldStored later) := by
  obtain ⟨entries, holds, told⟩ := (emptyFile_holds empty).run run
  obtain ⟨added, after, more⟩ := holds.run continued
  rw [List.nil_append] at holds after
  cases holds with
  | running holds =>
      cases after with
      | running after =>
          have before := holds.keeps
          have behind := after.keeps
          rw [told] at before
          rw [List.map_append, List.map_append, told, more] at behind
          exact ⟨_, _, before, behind⟩

/-! ### A restart -/

/-- The start with every call granted. -/
def grantedStart : ProcessAction := .start true true none [.granted]

/-- It succeeds on what a server left. -/
theorem DiskLayout.starts {disk : OsFile} {view : FileView} (layout : DiskLayout disk view) :
    ∃ s, grantedStart.perform (.stopped disk) = some (.initialized edbOk, .running s) := by
  let s₀ : DmsFile :=
    { fileOp := ⟨true, 0, disk⟩, opened := true, segments := [], header := none, body := [],
      freeSpaceMap := .empty, mutex := .init, extendMutex := .init }
  have few := layout.few
  have size := layout.size
  obtain ⟨s', loaded, -⟩ := loadData_granted (s := s₀) view.segments rfl rfl rfl rfl (by omega)
    layout.headerSize layout.size layout.sizeBound
  rw [if_pos few] at loaded
  have sized : s₀.fileOp.getSize none = (edbOk, disk.size) := rfl
  have opened : DmsFile.initializeFile true none [.granted] disk =
      DmsFile.initializeFrom [.granted] s₀ := rfl
  have initialized : DmsFile.initializeFile true none [.granted] disk = some (edbOk, s') := by
    rw [opened, DmsFile.initializeFrom, show InitAnswer.granted.fstat = none from rfl, sized]
    dsimp only
    rw [if_neg (not_not_intro rfl), if_neg (by omega)]
    exact loaded
  refine ⟨s', ?_⟩
  rw [grantedStart, ProcessAction.perform, rtnInitialize, if_pos rfl, initialized]
  rfl

/-- A record that the first lifetime stored is found in the second one, under the same id. -/
theorem lifetimes_keepRecords_restarted : ∃ (s s' : DmsFile) (rid : DmsRecordId),
    (∃ later, Lifetimes (.running s) later (.running s') ∧
      later.map Transition.action = [.stop, grantedStart]) ∧
    s.find rid = some (.returns ⟨edbOk, some (binDataRecord [] (by decide)).bytes⟩, s) ∧
    s'.find rid = some (.returns ⟨edbOk, some (binDataRecord [] (by decide)).bytes⟩, s') := by
  obtain ⟨start, fresh⟩ := exists_fresh
  have new := fresh_newFile fresh
  obtain ⟨strdup, opened, answers, disk, empty, initialized⟩ := fresh
  obtain ⟨s, request, sent, out, reply, body, admissible, built, received, served, -, replied,
    ok⟩ := new.insertServed
  -- the first lifetime
  have started : ProcessAction.perform (.start true strdup opened answers) (.stopped disk) =
      some (.initialized edbOk, .running start) := by
    rw [ProcessAction.perform, rtnInitialize, if_pos rfl, initialized]
    rfl
  have asked : ProcessAction.perform (.request request) (.running start) =
      some (.replied out, .running s) := by
    rw [ProcessAction.perform, serve_not_aborts served, served]
    rfl
  have mayAsk : ProcessAction.Admissible (.request request) (.running start) := by
    refine ⟨admissible, ?_⟩
    rw [serve_not_aborts served]
    exact fun aborts => absurd aborts Bool.false_ne_true
  have run : Lifetimes (.stopped disk) _ (.running s) :=
    (Run.step .start trivial started).step mayAsk asked
  -- the second one
  obtain ⟨entries, holds, -⟩ := (emptyFile_holds empty).run run
  cases holds with
  | running holds =>
      have layout := holds.layout
      have placed : Placed s := by
        rw [layout.placed_iff, body]
        rfl
      have few : s.body.length ≤ 16 := by
        rw [body]
        decide
      obtain ⟨s', restarted⟩ := (layout.stopped placed few).starts
      have stopped : ProcessAction.perform .stop (.running s) =
          some (.ended, .stopped s.destroy) := rfl
      have mayStop : ProcessAction.Admissible .stop (.running s) := ⟨placed, few⟩
      have mayStart : ProcessAction.Admissible grantedStart (.stopped s.destroy) := trivial
      have continued : Lifetimes (.running s) _ (.running s') :=
        (Run.step .start mayStop stopped).step mayStart restarted
      obtain ⟨rids, added, before, after⟩ := lifetimes_keepRecords empty run continued
      have answer : acknowledgedBy request.received out =
          some (binDataRecord [] (by decide)).bytes := by
        rw [acknowledgedBy, replied]
        dsimp only
        rw [if_pos ok, insertedObject_of_built built received]
      have told : toldStored ([] ++ [⟨.stopped disk, .start true strdup opened answers,
          .initialized edbOk, .running start⟩] ++
          [⟨.running start, .request request, .replied out, .running s⟩]) =
          [(binDataRecord [] (by decide)).bytes] := by
        rw [toldStored_append, toldStored_append]
        simp only [ProcessAction.stores, answer]
        rfl
      rw [told] at before after
      obtain ⟨rid, more, here, rest, rfl⟩ := List.forall₂_cons_right_iff.mp before.found
      obtain ⟨again, -⟩ := List.forall₂_cons.mp after.found
      exact ⟨s, s', rid, ⟨_, continued, rfl⟩, here, again⟩

end EmeraldDb
