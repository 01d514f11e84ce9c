/-
Module: EmeraldDb.Proofs.Insert
Purpose: insert on a represented file: the stores into the page that _findPage
  named, and the retry loop around it.
Trusted boundary: none
Main exports: PageOutcome, insertIntoPage_refines, InsertOutcome,
  insertRetry_refines, insert_refines
-/
import EmeraldDb.Proofs.Extension

namespace EmeraldDb

open ByteMemory SlotView
open DmsFile (InsertReply ExtendAnswer needsRecover noRoom recordOffset storeRecord
  advanceHeader)

/-! ### Into the page that was found -/

/-- What `insert` does with page `p`: it stores the record under the next slot,
or finds the gap too small. -/
inductive PageOutcome (view : FileView) (record : BsonObj) (p : Nat) :
    Completion InsertReply → FileView → Prop where
  | stored {out : Nat} {rid : DmsRecordId} {view' : FileView}
      (fits : (view.page p).Fits record)
      (step : IdStore.Step view.store (.put rid record.bytes) view'.store) :
      PageOutcome view record p (.returns ⟨edbOk, some out, some rid⟩) view'
  | refused {view' : FileView} (tight : ¬ (view.page p).Fits record)
      (step : IdStore.Step view.store .keep view'.store) :
      PageOutcome view record p (.returns (.failed edbSys)) view'

/-- The optional compaction in front of the stores. -/
theorem compact_refines {s : DmsFile} {view : FileView} (rep : FileRep s view) {p : Nat}
    (bound : p < view.numPages) (holes : Bool) :
    ∃ view₁, FileRep (if holes then
        s.setMemory (recoverSpace s.memory (s.pageAddress p)) else s) view₁ ∧
      view.Shrinks view₁ ∧
      IdStore.Step view.store .keep view₁.store ∧
      ∀ record, (view₁.page p).Fits record ↔ (view.page p).Fits record := by
  cases holes with
  | false => exact ⟨view, rep, .refl view, .refl _, fun _ => Iff.rfl⟩
  | true =>
      have same : (view.page p).repack.freeSpace ≤ (view.page p).freeSpace :=
        Nat.le_of_eq (PageView.repack_freeSpace _)
      refine ⟨_, rep.recoverSpace bound, view.shrinks_setPage bound same,
        view.store_repack bound, fun record => ?_⟩
      rw [FileView.setPage_page_self, PageView.Fits, PageView.Fits,
        PageView.repack_slotOffset, PageView.repack_freeOffset]

/-- The stores of `insert` when the gap of the page takes the record. -/
theorem storeInto_refines {s : DmsFile} {view : FileView} (rep : FileRep s view) {p : Nat}
    (bound : p < view.numPages) {record : BsonObj} (fits : (view.page p).Fits record) :
    FileRep ((s.setMemory (advanceHeader (storeRecord s.memory (s.pageAddress p) record)
        (s.pageAddress p) (recordOffset s.memory (s.pageAddress p) record.objsize))
        ).updateFreeSpace (s.pageAddress p)
          (toI32 (-(record.objsize + sizeofSlot + sizeofDmsRecord))) p)
      (view.setPage p bound ((view.page p).add record fits)) := by
  have page := rep.pages p bound
  obtain ⟨newPage, only⟩ := insertPage_refines page fits
  obtain ⟨-, -, freeSpace⟩ := storeRecord_reads page fits
  obtain ⟨slotEnd, free, below, space⟩ := (view.page p).numbers
  obtain ⟨slotEnd', free', below', space'⟩ := ((view.page p).add record fits).numbers
  refine rep.updateFreeSpace bound ?_ ?_ newPage only
  · rw [advanceHeader_freeSpace]
    exact freeSpace
  · have live : liveSize ((view.page p).add record fits).slots =
        liveSize (view.page p).slots + recordSize record := by
      simp [SlotView.liveSize]
    have length : ((view.page p).add record fits).slots.length =
        (view.page p).slots.length + 1 := by
      simp
    rw [toU32_add_toI32]
    unfold recordSize at live
    simp only [sizeofSlot, sizeofDmsRecord]
    unfold toU32
    omega

/-- `insert` into an existing page stores the record exactly when the gap of the
page takes it, and gives `_mutex` back either way. -/
theorem insertIntoPage_refines {s s' : DmsFile} {view : FileView} (rep : FileRep s view)
    {p : Nat} (bound : p < view.numPages) {record : BsonObj}
    {completion : Completion InsertReply}
    (result : s.insertIntoPage record p = (completion, s')) :
    ∃ view', FileRep s' view' ∧ PageOutcome view record p completion view' ∧
      view.Shrinks view' ∧ s'.mutex = s.mutex.release ∧ s'.extendMutex = s.extendMutex := by
  have eyeCatcher := (rep.pages p bound).eyeCatcher
  rw [DmsFile.insertIntoPage, rep.pageToOffset_eq, if_pos bound] at result
  dsimp only at result
  rw [if_neg (not_not_intro eyeCatcher)] at result
  obtain ⟨view₁, rep₁, compacted, hidden, sameFit⟩ := compact_refines rep bound
    (needsRecover s.memory (s.pageAddress p) record.objsize)
  have kept : ∀ holes : Bool, ∀ m, (if holes = true then s.setMemory m else s).mutex = s.mutex ∧
      (if holes = true then s.setMemory m else s).extendMutex = s.extendMutex ∧
      (if holes = true then s.setMemory m else s).pageAddress p = s.pageAddress p := by
    intro holes m
    cases holes with
    | false => exact ⟨rfl, rfl, rfl⟩
    | true => exact ⟨rfl, rfl, rfl⟩
  obtain ⟨sameMutex, sameExtend, address⟩ := kept
    (needsRecover s.memory (s.pageAddress p) record.objsize)
    (recoverSpace s.memory (s.pageAddress p))
  generalize (if needsRecover s.memory (s.pageAddress p) record.objsize = true then
    s.setMemory (recoverSpace s.memory (s.pageAddress p)) else s) = s₁
    at result rep₁ sameMutex sameExtend address
  have bound₁ : p < view₁.numPages := by
    rw [FileView.numPages, compacted.segments]
    exact bound
  have page₁ := rep₁.pages p bound₁
  rw [← address] at result
  by_cases fits : (view₁.page p).Fits record
  · have room : ¬ noRoom s₁.memory (s₁.pageAddress p) record.objsize = true := by
      rw [noRoom_iff page₁]
      have size : recordSize record = record.objsize + 8 := rfl
      omega
    have valid := (storeRecord_slot page₁ fits).objsize.2
    rw [← recordOffset_eq page₁ fits] at valid
    rw [if_neg room] at result
    simp only [DmsFile.setMemory_memory, DmsFile.setMemory_setMemory, sizeofDmsRecord,
      valid, if_true] at result
    obtain ⟨rfl, rfl⟩ := Prod.mk.inj result
    have stored := storeInto_refines rep₁ bound₁ fits
    have numSlots := (storeRecord_reads page₁ fits).1
    refine ⟨_, stored.latches _ s₁.extendMutex, ?_, ?_, ?_, ?_⟩
    · rw [numSlots]
      exact .stored ((sameFit record).mp fits)
        (hidden.keep_trans (view₁.store_add bound₁ record fits))
    · exact compacted.trans (view₁.shrinks_setPage bound₁
        (PageView.add_freeSpace_le _ record fits))
    · rw [← sameMutex]
      rfl
    · rw [← sameExtend]
      rfl
  · have tight : noRoom s₁.memory (s₁.pageAddress p) record.objsize = true := by
      rw [noRoom_iff page₁]
      have size : recordSize record = record.objsize + 8 := rfl
      omega
    rw [if_pos tight] at result
    obtain ⟨rfl, rfl⟩ := Prod.mk.inj result
    refine ⟨view₁, rep₁.latches _ s₁.extendMutex, ?_, compacted, ?_, sameExtend⟩
    · exact .refused (fun fitsBefore => fits ((sameFit record).mpr fitsBefore)) hidden
    · rw [← sameMutex]
      rfl

/-! ### The retry loop -/

/-- What a completed `insert` did to the records. -/
inductive InsertOutcome (view : FileView) (record : BsonObj) :
    Completion InsertReply → FileView → Prop where
  | stored {out : Nat} {rid : DmsRecordId} {view' : FileView}
      (step : IdStore.Step view.store (.put rid record.bytes) view'.store) :
      InsertOutcome view record (.returns ⟨edbOk, some out, some rid⟩) view'
  | failed {rc : ReturnCode} {view' : FileView} (error : rc ≠ edbOk)
      (step : IdStore.Step view.store .keep view'.store) :
      InsertOutcome view record (.returns (.failed rc)) view'
  | threw {view' : FileView} (step : IdStore.Step view.store .keep view'.store) :
      InsertOutcome view record .throws view'

theorem PageOutcome.toInsert {view view' : FileView} {record : BsonObj} {p : Nat}
    {completion : Completion InsertReply}
    (outcome : PageOutcome view record p completion view') :
    InsertOutcome view record completion view' := by
  cases outcome with
  | stored fits step => exact .stored step
  | refused tight step => exact .failed (by decide) step

theorem InsertOutcome.keep_trans {view view₁ view' : FileView} {record : BsonObj}
    {completion : Completion InsertReply}
    (hidden : IdStore.Step view.store .keep view₁.store)
    (outcome : InsertOutcome view₁ record completion view') :
    InsertOutcome view record completion view' := by
  cases outcome with
  | stored step => exact .stored (hidden.keep_trans step)
  | failed error step => exact .failed error (hidden.keep_trans step)
  | threw step => exact .threw (hidden.keep_trans step)

/-- The key `insert` searches the index with. -/
theorem insertKey_lt (record : BsonObj) :
    record.objsize + sizeofDmsRecord < 4294967296 := by
  have le := record.objsize_le
  simp only [sizeofDmsRecord]
  omega

/-- Taking the latch and giving it back restores a file with a free latch. -/
theorem releaseMutex_of_free {s : DmsFile} (free : s.mutex = .init) (held : OssSLatch)
    (released : held.release = .init) : { s with mutex := held }.releaseMutex = s := by
  rw [DmsFile.releaseMutex]
  dsimp only
  rw [released, ← free]

/-- The search does not look at the latch. -/
theorem findPage_latched (s : DmsFile) (held : OssSLatch) (size : Nat) :
    { s with mutex := held }.findPage size = s.findPage size := rfl

/-- A pass that finds a page is the last one. -/
theorem insertRetry_of_page {s : DmsFile} {record : BsonObj} {answers : List ExtendAnswer}
    (free : s.mutex = .init)
    (found : s.findPage (record.objsize + sizeofDmsRecord) ≠ dmsInvalidPageId) :
    s.insertRetry record answers =
      some ({ s with mutex := ⟨true, 0⟩ }.insertIntoPage record
        (s.findPage (record.objsize + sizeofDmsRecord))) := by
  have taken : s.mutex.get = some ⟨true, 0⟩ := by rw [free, OssSLatch.get_init]
  rw [DmsFile.insertRetry.eq_def, taken]
  dsimp only
  rw [findPage_latched, if_neg found]

/-- A pass that finds none extends the file and tries again. -/
theorem insertRetry_cons {s : DmsFile} {record : BsonObj} {answer : ExtendAnswer}
    {answers : List ExtendAnswer} (free : s.mutex = .init)
    (missing : s.findPage (record.objsize + sizeofDmsRecord) = dmsInvalidPageId) :
    s.insertRetry record (answer :: answers) =
      match s.extendLatched answer with
      | none => none
      | some (rc, s) =>
          if rc ≠ edbOk then some (.returns (.failed rc), s)
          else s.insertRetry record answers := by
  have taken : s.mutex.get = some ⟨true, 0⟩ := by rw [free, OssSLatch.get_init]
  rw [DmsFile.insertRetry.eq_def, taken]
  dsimp only
  rewrite [findPage_latched, if_pos missing, releaseMutex_of_free free _ rfl]
  rfl

theorem insertRetry_nil {s : DmsFile} {record : BsonObj} (free : s.mutex = .init)
    (missing : s.findPage (record.objsize + sizeofDmsRecord) = dmsInvalidPageId) :
    s.insertRetry record [] = none := by
  have taken : s.mutex.get = some ⟨true, 0⟩ := by rw [free, OssSLatch.get_init]
  rw [DmsFile.insertRetry.eq_def, taken]
  dsimp only
  rw [findPage_latched, if_pos missing]

/-- A loop that ends started with a free latch. -/
theorem insertRetry_free {s : DmsFile} {record : BsonObj} {answers : List ExtendAnswer}
    {outcome : Completion InsertReply × DmsFile}
    (result : s.insertRetry record answers = some outcome) : s.mutex = .init := by
  cases taken : s.mutex.get with
  | none =>
      rw [DmsFile.insertRetry.eq_def, taken] at result
      cases result
  | some held => exact (OssSLatch.get_some taken).1

/-- Every pass of the retry loop either extends the file, which does not show,
or ends in the page that `_findPage` named.  The latches are free before and
after. -/
theorem insertRetry_refines {record : BsonObj} {completion : Completion InsertReply}
    {s' : DmsFile} : ∀ {answers : List ExtendAnswer} {s : DmsFile} {view : FileView},
      FileRep s view → s.insertRetry record answers = some (completion, s') →
        ∃ view', FileRep s' view' ∧ InsertOutcome view record completion view' ∧
          s'.mutex = .init ∧ s'.extendMutex = s.extendMutex := by
  intro answers
  induction answers with
  | nil =>
      intro s view rep result
      have free := insertRetry_free result
      rcases rep.findPage _ (insertKey_lt record) with ⟨bound, found, -⟩ | ⟨missing, -⟩
      · rw [insertRetry_of_page free found] at result
        obtain ⟨view', rep', outcome, -, mutex, extendMutex⟩ := insertIntoPage_refines
          (rep.latches ⟨true, 0⟩ s.extendMutex) bound (Option.some.inj result)
        exact ⟨view', rep', outcome.toInsert, mutex, extendMutex⟩
      · rw [insertRetry_nil free missing] at result
        cases result
  | cons answer answers ih =>
      intro s view rep result
      have free := insertRetry_free result
      rcases rep.findPage _ (insertKey_lt record) with ⟨bound, found, -⟩ | ⟨missing, -⟩
      · rw [insertRetry_of_page free found] at result
        obtain ⟨view', rep', outcome, -, mutex, extendMutex⟩ := insertIntoPage_refines
          (rep.latches ⟨true, 0⟩ s.extendMutex) bound (Option.some.inj result)
        exact ⟨view', rep', outcome.toInsert, mutex, extendMutex⟩
      · rw [insertRetry_cons free missing] at result
        cases extended : s.extendLatched answer with
        | none =>
            rw [extended] at result
            cases result
        | some pass =>
            obtain ⟨rc, s₁⟩ := pass
            rw [extended] at result
            dsimp only at result
            obtain ⟨-, ⟨ok, done⟩ | ⟨failed, done⟩⟩ := extendLatched_refines rep extended
            · rw [if_neg (not_not_intro ok)] at result
              obtain ⟨view', rep', outcome, mutex, extendMutex⟩ := ih done.rep result
              exact ⟨view', rep', outcome.keep_trans view.store_extend, mutex,
                extendMutex.trans done.extendMutex⟩
            · rw [if_pos failed] at result
              obtain ⟨rfl, rfl⟩ := Prod.mk.inj (Option.some.inj result)
              exact ⟨view, done.rep, .failed failed (.refl _), done.mutex.trans free,
                done.extendMutex⟩

/-- A completed `insert` is one step of the store, and leaves the latches free
or did not touch the file at all. -/
theorem insert_refines {s s' : DmsFile} {view : FileView} (rep : FileRep s view)
    {answers : List ExtendAnswer} {record : BsonObj}
    {completion : Completion InsertReply}
    (result : s.insert answers record = some (completion, s')) :
    ∃ view', FileRep s' view' ∧ InsertOutcome view record completion view' ∧
      (s'.mutex = .init ∨ s'.mutex = s.mutex) ∧ s'.extendMutex = s.extendMutex := by
  rw [DmsFile.insert] at result
  by_cases large : record.objsize > dmsMaxRecord
  · rw [if_pos large] at result
    obtain ⟨rfl, rfl⟩ := Prod.mk.inj (Option.some.inj result)
    exact ⟨view, rep, .failed (by decide) (.refl _), Or.inr rfl, rfl⟩
  · rw [if_neg large] at result
    cases key : record.getKeyField with
    | error fault =>
        rw [key] at result
        cases fault with
        | assertion =>
            obtain ⟨rfl, rfl⟩ := Prod.mk.inj (Option.some.inj result)
            exact ⟨view, rep, .threw (.refl _), Or.inr rfl, rfl⟩
        | runaway => cases result
    | ok field =>
        rw [key] at result
        cases field with
        | none =>
            obtain ⟨rfl, rfl⟩ := Prod.mk.inj (Option.some.inj result)
            exact ⟨view, rep, .failed (by decide) (.refl _), Or.inr rfl, rfl⟩
        | some position =>
            obtain ⟨view', rep', outcome, mutex, extendMutex⟩ :=
              insertRetry_refines rep result
            exact ⟨view', rep', outcome, Or.inl mutex, extendMutex⟩

end EmeraldDb
