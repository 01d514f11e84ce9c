/-
Module: EmeraldDb.Proofs.SegmentPlacement
Purpose: Where the segments of a file lie, after any pattern of failed and
  successful extensions, and what a new object makes of them: which index it
  builds and which records it still finds.
Trusted boundary: human-reviewed spec
Main exports: Placed, session_placed_iff, RebuildsIndex,
  session_rebuildsIndex_iff, SurvivesReopen, session_survivesReopen_iff
-/
import EmeraldDb.Proofs.RecordStore
import EmeraldDb.Proofs.Reopening

namespace EmeraldDb

open ByteMemory

/-! ### Extensions that fail -/

/-- Segment `i` lies where `_loadData` looks for it, and the file header counts the
pages of the segments. -/
def Placed (s : DmsFile) : Prop :=
  (∃ header, s.header = some header ∧
    readU32 s.memory (header + 4) = dmsPagesPerSegment * s.body.length) ∧
  s.body = (List.range s.body.length).map fun i => dmsFileHeaderSize + i * dmsFileSegmentSize

/-- The file ends right behind its last segment. -/
def EndsAtSegment (s : DmsFile) : Prop :=
  s.fileOp.file.size = dmsFileHeaderSize + s.body.length * dmsFileSegmentSize

/-- Runs of `_extendSegment` calls. -/
def extensionsOnly (_ : DmsTrace) (_ : DmsFile) : DmsOp → Prop
  | .extendSegment _ => True
  | _ => False

/-- Every call that succeeded found the file ending right behind its last segment. -/
def ExtendsAtSegment (trace : DmsTrace) : Prop :=
  ∀ call ∈ trace, call.reply = .code edbOk → EndsAtSegment call.pre

theorem extendsAtSegment_append_singleton {trace : DmsTrace}
    {call : Transition DmsFile DmsOp DmsReply} :
    ExtendsAtSegment (trace ++ [call]) ↔
      ExtendsAtSegment trace ∧ (call.reply = .code edbOk → EndsAtSegment call.pre) := by
  constructor
  · intro all
    refine ⟨fun earlier member => all earlier (List.mem_append_left _ member), ?_⟩
    exact all call (List.mem_append_right _ List.mem_cons_self)
  · rintro ⟨before, last⟩ later member
    rcases List.mem_append.mp member with earlier | here
    · exact before later earlier
    · obtain rfl := List.mem_singleton.mp here
      exact last

/-- One more region behind placed ones is placed exactly at its own place. -/
theorem map_range_append_iff {starts : List Nat} {start : Nat} (f : Nat → Nat) :
    starts ++ [start] = (List.range (starts ++ [start]).length).map f ↔
      starts = (List.range starts.length).map f ∧ start = f starts.length := by
  rw [List.length_append, List.length_singleton, List.range_succ, List.map_append]
  constructor
  · intro same
    obtain ⟨front, last⟩ := List.append_inj same (by simp)
    exact ⟨front, List.head_eq_of_cons_eq last⟩
  · rintro ⟨front, last⟩
    rw [← front, last]
    rfl

/-- The header of a represented file counts its pages, so only the places matter. -/
theorem FileLayout.placed_iff {s : DmsFile} {view : FileView} (rep : FileLayout s view) :
    Placed s ↔ s.body = (List.range s.body.length).map
      fun i => dmsFileHeaderSize + i * dmsFileSegmentSize := by
  constructor
  · exact fun placed => placed.2
  · refine fun body => ⟨⟨0, rep.header, ?_⟩, body⟩
    rw [Nat.zero_add, rep.headerSize, rep.segments]
    rfl

section Extensions

variable {start s : DmsFile} {trace : DmsTrace}

/-- What a run of extensions keeps: the segments are placed exactly when every
successful call found the file ending right behind the last one. -/
structure PlacementTracked (trace : DmsTrace) (s : DmsFile) : Prop where
  represented : ∃ view, FileRep s view
  placed : ExtendsAtSegment trace ↔ Placed s

theorem NewFile.placementTracked (new : NewFile s) : PlacementTracked [] s := by
  refine ⟨⟨.empty, new.rep⟩, ?_⟩
  rw [new.rep.toFileLayout.placed_iff, new.body]
  exact iff_of_true (fun call member => absurd member List.not_mem_nil) rfl

theorem PlacementTracked.step {s' : DmsFile} {answer : DmsFile.ExtendAnswer}
    {reply : DmsReply} (tracked : PlacementTracked trace s)
    (result : DmsFile.exec (.extendSegment answer) s = some (reply, s')) :
    PlacementTracked (trace ++ [⟨s, .extendSegment answer, reply, s'⟩]) s' := by
  obtain ⟨⟨view, rep⟩, placed⟩ := tracked
  obtain ⟨⟨rc, s₁⟩, extended, pair⟩ := Option.map_eq_some_iff.mp result
  obtain ⟨rfl, rfl⟩ := Prod.mk.inj pair
  obtain ⟨-, ⟨rfl, done⟩ | ⟨failed, done⟩⟩ := extendLatched_refines rep extended
  · refine ⟨⟨view.extend, done.rep⟩, ?_⟩
    rw [extendsAtSegment_append_singleton, placed, rep.toFileLayout.placed_iff,
      done.rep.toFileLayout.placed_iff, done.body, map_range_append_iff]
    exact and_congr_right fun _ => ⟨fun ends => ends rfl, fun ends _ => ends⟩
  · refine ⟨⟨view, done.rep⟩, ?_⟩
    have notOk : (DmsReply.code rc) ≠ .code edbOk := fun ok => failed (DmsReply.code.inj ok)
    rw [extendsAtSegment_append_singleton, placed, rep.toFileLayout.placed_iff,
      done.rep.toFileLayout.placed_iff, done.body]
    exact and_iff_left fun ok => absurd ok notOk

/-- In every run of extensions, failing or not, the segments lie where `_loadData`
looks for them exactly when every successful extension found the file ending right
behind its last segment. -/
theorem session_placed_iff (fresh : start.Fresh)
    (run : Session extensionsOnly start trace s) :
    ExtendsAtSegment trace ↔ Placed s := by
  have tracked : PlacementTracked trace s := by
    refine Run.invariant_with_trace (fresh_newFile fresh).placementTracked ?_ run
    intro trace s op reply s' past tracked guard result
    cases op with
    | extendSegment answer => exact tracked.step result
    | insert answers record => exact guard.elim
    | remove rid => exact guard.elim
    | find rid => exact guard.elim
    | recoverSpace pageId => exact guard.elim
  exact tracked.placed

/-- One extension that succeeds puts the first segment in its place. -/
theorem session_placed_iff_first : ∃ (start : DmsFile) (trace : DmsTrace) (s : DmsFile),
    Session extensionsOnly start trace s ∧ s.body.length = 1 ∧ Placed s := by
  obtain ⟨start, fresh⟩ := exists_fresh
  have new := fresh_newFile fresh
  obtain ⟨s, extended, long⟩ := new.lengthened.extend (by decide)
  have completes : DmsFile.exec (.extendSegment .granted) start = some (.code edbOk, s) := by
    rw [DmsFile.exec, extended]
    rfl
  have guard : extensionsOnly [] start (.extendSegment .granted) := trivial
  have run : Session extensionsOnly start
      ([] ++ [⟨start, .extendSegment .granted, .code edbOk, s⟩]) s :=
    .step .start guard completes
  have ends : EndsAtSegment start := by
    rw [EndsAtSegment, new.size, new.body]
    rfl
  have nothing : ExtendsAtSegment [] := fun call member => absurd member List.not_mem_nil
  have atSegment : ExtendsAtSegment
      ([] ++ [⟨start, .extendSegment .granted, .code edbOk, s⟩]) :=
    extendsAtSegment_append_singleton.mpr ⟨nothing, fun _ => ends⟩
  exact ⟨start, _, s, run, long.rep.segments, (session_placed_iff fresh run).mp atSegment⟩

/-- The answers under which the file grows by a segment and `map` then fails. -/
def mapFails : DmsFile.ExtendAnswer :=
  ⟨none, fun _ => [.wrote 65536], ⟨some .enomem, none⟩⟩

/-- An extension of a new file whose `map` fails leaves the file a segment longer. -/
theorem NewFile.extend_mapFails (new : NewFile s) :
    ∃ s', s.extendLatched mapFails = some (Errno.enomem.value, s') ∧
      s'.fileOp.file.size = 65536 + 134217728 := by
  have small : s.fileOp.file.size + 134217728 ≤ OssPrimitiveFileOp.maxFileSize := by
    rw [new.size]
    simp only [OssPrimitiveFileOp.maxFileSize]
    omega
  have held := new.rep.latches s.mutex ⟨true⟩
  obtain ⟨op, grew, grown, -⟩ := extendFile_granted held small
  have nonempty : 0 < dmsFileSegmentSize := by
    simp only [dmsFileSegmentSize]
    omega
  have failed := extendSegment_unmapped (s := { s with extendMutex := ⟨true⟩ }) mapFails rfl
    grew (OssMmapFile.map_unsized nonempty) Errno.enomem.value_ne_edbOk
  refine ⟨{ s with fileOp := op, extendMutex := ⟨true⟩ }.releaseExtendMutex, ?_, ?_⟩
  · rw [DmsFile.extendLatched, new.extendMutex, OssXLatch.tryGet_init]
    dsimp only
    rw [failed]
  · have size := grown.size
    show op.file.size = _
    rw [size]
    show s.fileOp.file.size + _ = _
    rw [new.size]

/-- After an extension whose `map` fails, one that succeeds maps its segment a segment
too far behind. -/
theorem extension_displaced : ∃ (start : DmsFile) (trace : DmsTrace) (s : DmsFile),
    start.Fresh ∧ Session extensionsOnly start trace s ∧
      trace.map Transition.action = [.extendSegment mapFails, .extendSegment .granted] ∧
      s.body = [65536 + 134217728] ∧ ¬ Placed s := by
  obtain ⟨start, fresh⟩ := exists_fresh
  have new := fresh_newFile fresh
  obtain ⟨s₁, failed, size⟩ := new.extend_mapFails
  obtain ⟨-, ⟨ok, -⟩ | ⟨-, kept⟩⟩ := extendLatched_refines new.rep failed
  · exact absurd ok Errno.enomem.value_ne_edbOk
  · have settled : Settled s₁ :=
      ⟨kept.mutex.trans new.mutex, kept.extendMutex.trans new.extendMutex⟩
    have room : s₁.mappedBytes + 134217728 ≤ addressSpace := by
      rw [kept.rep.mapped, FileView.empty_segments]
      simp only [addressSpace]
      omega
    have small : s₁.fileOp.file.size + 134217728 ≤ OssPrimitiveFileOp.maxFileSize := by
      rw [size]
      simp only [OssPrimitiveFileOp.maxFileSize]
      omega
    obtain ⟨s₂, extended, done⟩ := settled.extend kept.rep (by omega) small room
    have body : s₂.body = [65536 + 134217728] := by
      rw [done.body, kept.body, new.body, size]
      rfl
    have first : DmsFile.exec (.extendSegment mapFails) start =
        some (.code Errno.enomem.value, s₁) := by
      rw [DmsFile.exec, failed]
      rfl
    have second : DmsFile.exec (.extendSegment .granted) s₁ = some (.code edbOk, s₂) := by
      rw [DmsFile.exec, extended]
      rfl
    have guard₁ : extensionsOnly [] start (.extendSegment mapFails) := trivial
    have run₁ : Session extensionsOnly start ([] ++ [_]) s₁ := .step .start guard₁ first
    have guard₂ : extensionsOnly ([] ++ [⟨start, .extendSegment mapFails,
      .code Errno.enomem.value, s₁⟩]) s₁ (.extendSegment .granted) := trivial
    refine ⟨start, _, s₂, fresh, run₁.step guard₂ second, rfl, body, ?_⟩
    rw [done.rep.toFileLayout.placed_iff, body]
    decide

end Extensions

/-! ### Reopening -/

/-- What a rebuilt index is good for, with `count` segments: it lists every page with
the free space in its header, so a search answers with a page that has room. -/
structure RebuildsIndex (s : DmsFile) (count : Nat) : Prop where
  index : IndexExact s (count * dmsPagesPerSegment)
  answers : ∀ size, size < 4294967296 → s.findPage size ≠ dmsInvalidPageId →
    s.findPage size < count * dmsPagesPerSegment ∧ size < freeSpaceOf s (s.findPage size)
  reaches : ∀ p, p < count * dmsPagesPerSegment →
    (freeSpaceOf s p, p) ∈ s.freeSpaceMap.entries

/-- An exact index gives the rest. -/
theorem IndexExact.rebuilds {s : DmsFile} {count : Nat}
    (index : IndexExact s (count * dmsPagesPerSegment)) : RebuildsIndex s count := by
  have listed : ∀ {entry : Nat × Nat}, entry ∈ s.freeSpaceMap.entries ↔
      entry.2 < count * dmsPagesPerSegment ∧ entry.1 = freeSpaceOf s entry.2 := by
    intro entry
    rw [index.mem_iff]
    constructor
    · intro member
      obtain ⟨p, inRange, rfl⟩ := List.mem_map.mp member
      exact ⟨List.mem_range.mp inRange, rfl⟩
    · rintro ⟨bound, key⟩
      exact List.mem_map.mpr ⟨entry.2, List.mem_range.mpr bound, by rw [← key]⟩
  refine ⟨index, ?_, ?_⟩
  · intro size small found
    have key : toU32 (size : Int) = size := toU32_of_lt small
    rw [DmsFile.findPage, key] at found ⊢
    cases search : s.freeSpaceMap.upperBound size with
    | none =>
        rw [search] at found
        exact absurd rfl found
    | some entry =>
        obtain ⟨member, above, -⟩ := Multimap.upperBound_some search
        obtain ⟨bound, keyEq⟩ := listed.mp member
        exact ⟨bound, keyEq ▸ above⟩
  · intro p bound
    exact listed.mpr ⟨bound, rfl⟩

section Reopening

variable {start s s' : DmsFile} {trace : DmsTrace} {view : FileView}

/-- Where the pages of a reopened file are. -/
theorem Reopened.pageToOffset {count : Nat} (reopened : Reopened s s' count)
    (few : count ≤ 16) {i k : Nat} (segment : i < count) (page : k < 32) :
    s'.pageToOffset (32 * i + k) = some (65536 + 134217728 * i + 4194304 * k) := by
  have length : s'.body.length = count := by
    rw [reopened.body, List.length_map, List.length_range]
  have numPages : s'.getNumPages = 32 * count := by
    rw [DmsFile.getNumPages, DmsFile.getNumSegments, length, toU32_of_lt (by omega)]
    unfold toU32
    simp only [dmsPagesPerSegment]
    omega
  have quotient : (32 * i + k) / dmsPagesPerSegment = i := by
    simp only [dmsPagesPerSegment]
    omega
  have rest : (32 * i + k) % dmsPagesPerSegment = k := by
    simp only [dmsPagesPerSegment]
    omega
  rw [DmsFile.pageToOffset, numPages, if_neg (by omega), quotient, rest, reopened.body,
    List.getElem?_map, List.getElem?_range segment]
  rfl

theorem Reopened.memory {count : Nat} (reopened : Reopened s s' count) :
    s'.memory = s.memory :=
  congrArg OsFile.bytes reopened.file

/-- The pages of every loaded segment are numbered from zero again, so the index is
the one of the pages exactly when there is at most one segment. -/
theorem Reopened.rebuildsIndex_iff {segments : Nat}
    (reopened : Reopened s s' (min segments 16)) :
    RebuildsIndex s' segments ↔ segments ≤ 1 := by
  constructor
  · intro rebuilt
    by_contra several
    -- page 32 has no entry: a loaded entry names a page below 32
    have member := rebuilt.reaches 32 (by simp only [dmsPagesPerSegment]; omega)
    have loaded := reopened.index.mem_iff.mp member
    obtain ⟨i, -, inSegment⟩ := List.mem_flatMap.mp loaded
    obtain ⟨k, inRange, entry⟩ := List.mem_map.mp inSegment
    have number : k = 32 := (Prod.mk.inj entry).2
    have below := List.mem_range.mp inRange
    omega
  · intro few
    apply IndexExact.rebuilds
    have index := reopened.index
    rw [IndexExact]
    rcases Nat.le_one_iff_eq_zero_or_eq_one.mp few with rfl | rfl
    · exact index
    · have entries : (List.range (1 * dmsPagesPerSegment)).map
          (fun p => (freeSpaceOf s' p, p)) = loadedEntries s.memory 0 (min 1 16) := by
        have one : loadedEntries s.memory 0 (min 1 16) = segmentEntries s.memory 0 :=
          List.flatMap_singleton _ _
        rw [one, segmentEntries]
        apply List.map_congr_left
        intro k inRange
        have place := reopened.pageToOffset (by decide) (i := 0) (by decide)
          (List.mem_range.mp inRange)
        rw [Nat.mul_zero, Nat.zero_add] at place
        rw [freeSpaceOf, place, Option.elim_some, reopened.memory]
      rw [entries]
      exact index

/-- After every session, an object that reopens the file rebuilds the index exactly
when there is at most one segment. -/
theorem session_rebuildsIndex_iff (fresh : start.Fresh)
    (run : Session removesIssued start trace s) {rc : ReturnCode}
    (reopened : s.reopen = some (rc, s')) :
    RebuildsIndex s' s.body.length ↔ s.body.length ≤ 1 := by
  obtain ⟨view, rep, -⟩ := session_tracked fresh orderly_of_removesIssued run
  obtain ⟨s₁, result, loads⟩ := reopen_loads rep
  obtain ⟨-, rfl⟩ := Prod.mk.inj (Option.some.inj (reopened.symm.trans result))
  rw [rep.segments]
  exact loads.rebuildsIndex_iff

/-- With one segment the index is rebuilt. -/
theorem session_rebuildsIndex_iff_single : ∃ (s s' : DmsFile) (rc : ReturnCode),
    s.body.length = 1 ∧ s.reopen = some (rc, s') ∧ RebuildsIndex s' 1 := by
  obtain ⟨start, trace, s, fresh, run, -, long⟩ :=
    exists_lengthened removesIssued (fun _ _ _ => trivial) 1 (by decide)
  obtain ⟨s', reopened, -⟩ := reopen_loads long.rep
  have single : s.body.length = 1 := long.rep.segments
  have rebuilds := (session_rebuildsIndex_iff fresh run reopened).mpr (Nat.le_of_eq single)
  rw [single] at rebuilds
  exact ⟨s, s', _, single, reopened, rebuilds⟩

/-- With two segments it is not: no entry names a page of the second one. -/
theorem reopen_loses_secondSegment :
    ∃ (start : DmsFile) (trace : DmsTrace) (s s' : DmsFile), start.Fresh ∧
      Session removesIssued start trace s ∧ s.body.length = 2 ∧
        s.reopen = some (edbOk, s') ∧ ¬ RebuildsIndex s' 2 := by
  obtain ⟨start, trace, s, fresh, run, -, long⟩ :=
    exists_lengthened removesIssued (fun _ _ _ => trivial) 2 (by decide)
  obtain ⟨s', reopened, loads⟩ := reopen_loads long.rep
  have notRebuilt := loads.rebuildsIndex_iff.not.mpr (show ¬ 2 ≤ 1 by decide)
  exact ⟨start, trace, s, s', fresh, run, long.rep.segments, reopened, notRebuilt⟩

/-! ### Records after a reopen -/

/-- Reopening succeeds, maps every segment where it was, and finds every live
record. -/
def SurvivesReopen (trace : DmsTrace) (s : DmsFile) : Prop :=
  ∃ s', s.reopen = some (edbOk, s') ∧ s'.body = s.body ∧
    ∀ rid bytes, liveBytes trace rid = some bytes →
      s'.pageToOffset rid.pageId = s.pageToOffset rid.pageId ∧ Finds s' rid (some bytes)

/-- A reopened file whose segments are where they were represents the same file. -/
theorem Reopened.layout (reopened : Reopened s s' view.segments) (rep : FileRep s view)
    (body : s'.body = s.body) : FileLayout s' view := by
  have size : s'.fileOp.file.size = s.fileOp.file.size := congrArg OsFile.size reopened.file
  have address : ∀ p, s'.pageAddress p = s.pageAddress p := by
    intro p
    rw [DmsFile.pageAddress, DmsFile.pageAddress, body]
  refine ⟨reopened.valid, reopened.header, ?_, ?_, ?_, reopened.mapped, ?_, ?_, ?_, ?_, ?_⟩
  · rw [body]
    exact rep.segments
  · rw [body, size]
    exact rep.inFile
  · rw [body]
    exact rep.apart
  · rw [reopened.mapped, ← rep.mapped]
    exact rep.inSpace
  · rw [size]
    exact rep.headerInFile
  · rw [reopened.memory]
    exact rep.headerSize
  · rw [size]
    exact rep.sizeBound
  · intro p bound
    rw [reopened.memory, address]
    exact rep.pages p bound

/-- Up to sixteen segments that lie in their places, everything survives a reopen;
with more, the offset of the seventeenth wraps and the reopen fails. -/
theorem FileRep.survivesReopen_iff (rep : FileRep s view)
    (follows : IdStore.Follows (history trace) view.store)
    (placed : s.body = (List.range s.body.length).map fun i =>
      dmsFileHeaderSize + i * dmsFileSegmentSize) :
    SurvivesReopen trace s ↔ s.body.length ≤ 16 := by
  obtain ⟨s', result, loads⟩ := reopen_loads rep
  rw [rep.segments]
  constructor
  · rintro ⟨s₁, reopened, -⟩
    by_contra many
    rw [if_neg many] at result
    have code := (Prod.mk.inj (Option.some.inj (reopened.symm.trans result))).1
    exact absurd code (by decide)
  · intro few
    rw [if_pos few] at result
    rw [Nat.min_eq_left few] at loads
    have body : s'.body = s.body := by
      rw [loads.body, placed, rep.segments]
      apply List.map_congr_left
      intro i _
      simp only [dmsFileHeaderSize, dmsFileSegmentSize]
      omega
    have layout := loads.layout rep body
    refine ⟨s', result, body, fun rid bytes live => ⟨?_, ?_⟩⟩
    · rw [layout.pageToOffset_eq, rep.pageToOffset_eq, DmsFile.pageAddress,
        DmsFile.pageAddress, body]
    · have held : view.store.contents rid = some bytes := (follows.holds rid).trans live
      exact find_of_contents layout (by rw [loads.mutex]; rfl) held

/-- After every session whose segments lie in their places, everything survives a
reopen exactly when there are at most sixteen segments. -/
theorem session_survivesReopen_iff (fresh : start.Fresh)
    (run : Session removesIssued start trace s)
    (placed : s.body = (List.range s.body.length).map fun i =>
      dmsFileHeaderSize + i * dmsFileSegmentSize) :
    SurvivesReopen trace s ↔ s.body.length ≤ 16 := by
  obtain ⟨view, rep, follows⟩ := session_tracked fresh orderly_of_removesIssued run
  exact rep.survivesReopen_iff follows placed

/-- The places of a file that was only extended. -/
theorem Lengthened.placed {n : Nat} (long : Lengthened s n) :
    s.body = (List.range s.body.length).map fun i =>
      dmsFileHeaderSize + i * dmsFileSegmentSize := by
  have length : s.body.length = n := long.rep.segments
  rw [length, long.body]
  apply List.map_congr_left
  intro i _
  simp only [dmsFileHeaderSize, dmsFileSegmentSize]
  omega

/-- Sixteen segments survive. -/
theorem session_survivesReopen_iff_sixteen : ∃ (trace : DmsTrace) (s : DmsFile),
    s.body.length = 16 ∧ SurvivesReopen trace s := by
  obtain ⟨start, trace, s, fresh, run, -, long⟩ :=
    exists_lengthened removesIssued (fun _ _ _ => trivial) 16 (by decide)
  have length : s.body.length = 16 := long.rep.segments
  have survives := (session_survivesReopen_iff fresh run long.placed).mpr
    (Nat.le_of_eq length)
  exact ⟨trace, s, length, survives⟩

/-- Seventeen do not: the new object reports an invalid argument. -/
theorem reopen_fails_at_seventeen :
    ∃ (start : DmsFile) (trace : DmsTrace) (s s' : DmsFile), start.Fresh ∧
      Session removesIssued start trace s ∧ s.body.length = 17 ∧ Placed s ∧
        s.reopen = some (edbInvalidArg, s') ∧ ¬ SurvivesReopen trace s := by
  obtain ⟨start, trace, s, fresh, run, -, long⟩ :=
    exists_lengthened removesIssued (fun _ _ _ => trivial) 17 (by decide)
  have length : s.body.length = 17 := long.rep.segments
  obtain ⟨view, rep, follows⟩ := session_tracked fresh orderly_of_removesIssued run
  obtain ⟨s', reopened, -⟩ := reopen_loads long.rep
  have lost := (rep.survivesReopen_iff follows long.placed).not.mpr (by omega)
  exact ⟨start, trace, s, s', fresh, run, length,
    long.rep.toFileLayout.placed_iff.mpr long.placed, reopened, lost⟩

end Reopening

end EmeraldDb
