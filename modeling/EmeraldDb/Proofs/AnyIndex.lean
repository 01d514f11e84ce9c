/-
Module: EmeraldDb.Proofs.AnyIndex
Purpose: insert on a file whose free-space index may be any: with a wrong index a record may be
  refused, but none is lost or overwritten.
Trusted boundary: none
Main exports: DmsFile.withIndex, insertIntoPage_layout, extendLatched_layout, insert_layout
-/
import EmeraldDb.Proofs.Insert

namespace EmeraldDb

open ByteMemory
open DmsFile (InsertReply ExtendAnswer needsRecover noRoom)

/-! ### Another index -/

namespace DmsFile

/-- The same file with another index. -/
def withIndex (s : DmsFile) (index : Multimap Nat Nat) : DmsFile :=
  { s with freeSpaceMap := index }

theorem withIndex_memory (s : DmsFile) (index : Multimap Nat Nat) :
    (s.withIndex index).memory = s.memory := rfl

theorem setMemory_withIndex (s : DmsFile) (index : Multimap Nat Nat) (m : Mem) :
    (s.withIndex index).setMemory m = (s.setMemory m).withIndex index := rfl

theorem releaseMutex_withIndex (s : DmsFile) (index : Multimap Nat Nat) :
    (s.withIndex index).releaseMutex = s.releaseMutex.withIndex index := rfl

theorem updateFreeSpace_withIndex (s : DmsFile) (index : Multimap Nat Nat) (page : Nat)
    (changeSize : Int) (p : Nat) :
    ∃ index', (s.withIndex index).updateFreeSpace page changeSize p =
      (s.updateFreeSpace page changeSize p).withIndex index' := ⟨_, rfl⟩

/-- What `insert` does with a page, and what it returns, does not depend on the index. -/
theorem insertIntoPage_withIndex {s s' : DmsFile} {record : BsonObj} {p : Nat}
    {completion : Completion InsertReply} (index : Multimap Nat Nat)
    (inserted : s.insertIntoPage record p = (completion, s')) :
    ∃ index', (s.withIndex index).insertIntoPage record p =
      (completion, s'.withIndex index') := by
  unfold insertIntoPage at inserted ⊢
  rw [show (s.withIndex index).pageToOffset p = s.pageToOffset p from rfl]
  cases place : s.pageToOffset p with
  | none =>
      rw [place] at inserted
      cases inserted
      exact ⟨index, rfl⟩
  | some page =>
      rw [place] at inserted
      dsimp only at inserted ⊢
      rw [withIndex_memory]
      by_cases eyeCatcher : readBytes s.memory page 4 ≠ dmsPageEyeCatcher
      · rw [if_pos eyeCatcher] at inserted ⊢
        cases inserted
        exact ⟨index, rfl⟩
      · rw [if_neg eyeCatcher] at inserted ⊢
        -- the page may have been compacted first
        have compacted : (if needsRecover s.memory page record.objsize = true then
              (s.withIndex index).setMemory (recoverSpace s.memory page)
            else s.withIndex index) =
            (if needsRecover s.memory page record.objsize = true then
              s.setMemory (recoverSpace s.memory page) else s).withIndex index := by
          split <;> rfl
        rw [compacted]
        generalize (if needsRecover s.memory page record.objsize = true then
          s.setMemory (recoverSpace s.memory page) else s) = t at inserted ⊢
        rw [withIndex_memory]
        by_cases tight : noRoom t.memory page record.objsize = true
        · rw [if_pos tight] at inserted ⊢
          cases inserted
          exact ⟨index, rfl⟩
        · rw [if_neg tight] at inserted ⊢
          by_cases valid : bsonIsValid (toI32 (readU32 (storeRecord t.memory page record)
              (page + recordOffset t.memory page record.objsize + sizeofDmsRecord))) = true
          · simp only [setMemory_withIndex, withIndex_memory, setMemory_memory, valid, if_true]
              at inserted ⊢
            cases inserted
            obtain ⟨index', updated⟩ := updateFreeSpace_withIndex
              ((t.setMemory (storeRecord t.memory page record)).setMemory
                (advanceHeader (storeRecord t.memory page record) page
                  (recordOffset t.memory page record.objsize)))
              index page (toI32 (-(record.objsize + sizeofSlot + sizeofDmsRecord))) p
            refine ⟨index', ?_⟩
            rw [updated, releaseMutex_withIndex]
          · simp only [setMemory_withIndex, withIndex_memory, setMemory_memory, valid] at inserted ⊢
            cases inserted
            exact ⟨index, rfl⟩

/-- Neither does `_extendSegment`. -/
theorem extendSegment_withIndex {s s' : DmsFile} {answer : ExtendAnswer} {rc : ReturnCode}
    (index : Multimap Nat Nat) (extended : s.extendSegment answer = some (rc, s')) :
    ∃ index', (s.withIndex index).extendSegment answer = some (rc, s'.withIndex index') := by
  obtain ⟨⟨fileOp, opened, segments⟩, header, body, old, mutex, extendMutex⟩ := s
  change ∃ index', extendSegment
    ⟨⟨fileOp, opened, segments⟩, header, body, index, mutex, extendMutex⟩ answer = _
  unfold extendSegment at extended ⊢
  cases sized : fileOp.getSize answer.fstat with
  | mk sizeCode offset =>
      simp only [sized] at extended ⊢
      by_cases sizeFailed : sizeCode ≠ edbOk
      · rw [if_pos sizeFailed] at extended ⊢
        cases extended
        exact ⟨index, rfl⟩
      · rw [if_neg sizeFailed] at extended ⊢
        cases grew : extendFile answer.writes dmsFileSegmentSize fileOp with
        | none =>
            rw [grew] at extended
            cases extended
        | some pass =>
            obtain ⟨growCode, op⟩ := pass
            simp only [grew] at extended ⊢
            by_cases growFailed : growCode ≠ edbOk
            · rw [if_pos growFailed] at extended ⊢
              cases extended
              exact ⟨index, rfl⟩
            · rw [if_neg growFailed] at extended ⊢
              cases placed : OssMmapFile.map answer.map offset dmsFileSegmentSize
                  ⟨op, opened, segments⟩ with
              | mk mapCode rest =>
                  obtain ⟨data, mapped⟩ := rest
                  simp only [placed] at extended ⊢
                  by_cases mapFailed : mapCode ≠ edbOk
                  · rw [if_pos mapFailed] at extended ⊢
                    cases extended
                    exact ⟨index, rfl⟩
                  · rw [if_neg mapFailed] at extended ⊢
                    split at extended
                    · cases extended
                      exact ⟨_, rfl⟩
                    · cases extended

/-- Nor does it with `_extendMutex` around it. -/
theorem extendLatched_withIndex {s s' : DmsFile} {answer : ExtendAnswer} {rc : ReturnCode}
    (index : Multimap Nat Nat) (extended : s.extendLatched answer = some (rc, s')) :
    ∃ index', (s.withIndex index).extendLatched answer = some (rc, s'.withIndex index') := by
  unfold extendLatched at extended ⊢
  rw [show (s.withIndex index).extendMutex = s.extendMutex from rfl]
  cases taken : s.extendMutex.tryGet with
  | none =>
      rw [taken] at extended
      cases extended
  | some held =>
      rw [taken] at extended
      dsimp only at extended ⊢
      split at extended
      · cases extended
      next code after called =>
        cases extended
        obtain ⟨index', same⟩ := extendSegment_withIndex index called
        refine ⟨index', ?_⟩
        simp only [withIndex] at same ⊢
        rw [same]
        rfl

end DmsFile

/-! ### Files with any index -/

namespace FileLayout

variable {s s' : DmsFile} {view : FileView}

theorem withIndex (layout : FileLayout s view) (index : Multimap Nat Nat) :
    FileLayout (s.withIndex index) view :=
  { valid := layout.valid, header := layout.header, segments := layout.segments,
    inFile := layout.inFile, apart := layout.apart, mapped := layout.mapped,
    inSpace := layout.inSpace, headerInFile := layout.headerInFile,
    headerSize := layout.headerSize, sizeBound := layout.sizeBound, pages := layout.pages }

theorem of_withIndex {index : Multimap Nat Nat} (layout : FileLayout (s.withIndex index) view) :
    FileLayout s view := layout.withIndex s.freeSpaceMap

theorem latches (layout : FileLayout s view) (mutex : OssSLatch) (extendMutex : OssXLatch) :
    FileLayout { s with mutex := mutex, extendMutex := extendMutex } view :=
  { valid := layout.valid, header := layout.header, segments := layout.segments,
    inFile := layout.inFile, apart := layout.apart, mapped := layout.mapped,
    inSpace := layout.inSpace, headerInFile := layout.headerInFile,
    headerSize := layout.headerSize, sizeBound := layout.sizeBound, pages := layout.pages }

/-- With the index that the pages call for, the file is represented. -/
theorem exists_rep (layout : FileLayout s view) : ∃ index, FileRep (s.withIndex index) view := by
  obtain ⟨index, listed⟩ := Multimap.exists_perm view.index
  exact ⟨index, layout.withIndex index, listed⟩

end FileLayout

section Insert

variable {s s' : DmsFile} {view : FileView} {record : BsonObj}
  {completion : Completion InsertReply}

theorem insertIntoPage_layout (layout : FileLayout s view) {p : Nat}
    (inserted : s.insertIntoPage record p = (completion, s')) :
    ∃ view', FileLayout s' view' ∧ InsertOutcome view record completion view' ∧
      s'.mutex = s.mutex.release ∧ s'.extendMutex = s.extendMutex := by
  by_cases bound : p < view.numPages
  · obtain ⟨index, rep⟩ := layout.exists_rep
    obtain ⟨index', same⟩ := DmsFile.insertIntoPage_withIndex index inserted
    obtain ⟨view', rep', outcome, -, mutex, extendMutex⟩ := insertIntoPage_refines rep bound same
    exact ⟨view', rep'.toFileLayout.of_withIndex, outcome.toInsert, mutex, extendMutex⟩
  · -- the index names a page that does not exist
    rw [DmsFile.insertIntoPage, layout.pageToOffset_eq, if_neg bound] at inserted
    cases inserted
    exact ⟨view, layout.latches _ s.extendMutex, .failed (by decide) (.refl _), rfl, rfl⟩

theorem extendLatched_layout {answer : ExtendAnswer} {rc : ReturnCode}
    (layout : FileLayout s view) (extended : s.extendLatched answer = some (rc, s')) :
    ∃ view', FileLayout s' view' ∧ IdStore.Step view.store .keep view'.store ∧
      (s.mutex = .init → s'.mutex = .init) ∧ s'.extendMutex = s.extendMutex := by
  obtain ⟨index, rep⟩ := layout.exists_rep
  obtain ⟨index', same⟩ := DmsFile.extendLatched_withIndex index extended
  obtain ⟨-, ⟨-, done⟩ | ⟨-, done⟩⟩ := extendLatched_refines rep same
  · exact ⟨view.extend, done.rep.toFileLayout.of_withIndex, view.store_extend,
      fun _ => done.mutex, done.extendMutex⟩
  · exact ⟨view, done.rep.toFileLayout.of_withIndex, .refl _,
      fun free => done.mutex.trans free, done.extendMutex⟩

/-- The retry loop, with any index. -/
theorem insertRetry_layout {answers : List ExtendAnswer} (layout : FileLayout s view)
    (result : s.insertRetry record answers = some (completion, s')) :
    ∃ view', FileLayout s' view' ∧ InsertOutcome view record completion view' ∧
      s'.mutex = .init ∧ s'.extendMutex = s.extendMutex := by
  have free := insertRetry_free result
  induction answers generalizing s view with
  | nil =>
      by_cases found : s.findPage (record.objsize + sizeofDmsRecord) = dmsInvalidPageId
      · rw [insertRetry_nil free found] at result
        cases result
      · rw [insertRetry_of_page free found] at result
        exact insertIntoPage_layout (layout.latches ⟨true, 0⟩ s.extendMutex)
          (Option.some.inj result)
  | cons answer answers ih =>
      by_cases found : s.findPage (record.objsize + sizeofDmsRecord) = dmsInvalidPageId
      · rw [insertRetry_cons free found] at result
        cases extended : s.extendLatched answer with
        | none =>
            rw [extended] at result
            cases result
        | some pass =>
            obtain ⟨rc, s₁⟩ := pass
            rw [extended] at result
            dsimp only at result
            obtain ⟨view₁, layout₁, hidden, freed, extendMutex₁⟩ :=
              extendLatched_layout layout extended
            split at result
            next failed =>
              cases result
              exact ⟨view₁, layout₁, .failed failed hidden, freed free, extendMutex₁⟩
            next =>
              obtain ⟨view', layout', outcome, mutex, extendMutex⟩ :=
                ih layout₁ result (insertRetry_free result)
              exact ⟨view', layout', outcome.keep_trans hidden, mutex,
                extendMutex.trans extendMutex₁⟩
      · rw [insertRetry_of_page free found] at result
        exact insertIntoPage_layout (layout.latches ⟨true, 0⟩ s.extendMutex)
          (Option.some.inj result)

/-- A completed `insert` is one step of the store, whatever the index holds. -/
theorem insert_layout {answers : List ExtendAnswer} (layout : FileLayout s view)
    (result : s.insert answers record = some (completion, s')) :
    ∃ view', FileLayout s' view' ∧ InsertOutcome view record completion view' ∧
      (s'.mutex = .init ∨ s'.mutex = s.mutex) ∧ s'.extendMutex = s.extendMutex := by
  rw [DmsFile.insert] at result
  split at result
  next =>
    cases result
    exact ⟨view, layout, .failed (by decide) (.refl _), .inr rfl, rfl⟩
  next =>
    split at result
    next =>
      cases result
      exact ⟨view, layout, .threw (.refl _), .inr rfl, rfl⟩
    next => cases result
    next =>
      cases result
      exact ⟨view, layout, .failed (by decide) (.refl _), .inr rfl, rfl⟩
    next =>
      obtain ⟨view', layout', outcome, mutex, extendMutex⟩ := insertRetry_layout layout result
      exact ⟨view', layout', outcome, .inl mutex, extendMutex⟩

end Insert

end EmeraldDb
