/-
Module: EmeraldDb.Proofs.RemoveFind
Purpose: remove and find on a represented file, for every rid: a live one, one
  that names no live record, and the slot right behind the last one.
Trusted boundary: none
Main exports: remove_live, remove_dead, remove_pastLastSlot, remove_refines,
  find_live, find_dead, find_keeps
-/
import EmeraldDb.Dms.Session
import EmeraldDb.Proofs.FileRefinement

namespace EmeraldDb

open ByteMemory SlotView
open DmsFile (searchSlot inSegment)

/-! ### _searchSlot -/

section SearchSlot

variable {m : Mem} {page : Nat} {view : PageView} {rid : DmsRecordId}

theorem searchSlot_inRange (rep : PageRep m page view)
    (bound : rid.slotId ≤ view.slots.length) :
    searchSlot m page rid = (edbOk, some (pageSlot m page rid.slotId)) := by
  rw [searchSlot, rep.numSlots, if_neg (by omega)]

theorem searchSlot_live (rep : PageRep m page view) {offset : Nat} {record : BsonObj}
    (at_slot : view.slots[rid.slotId]? = some (.live offset record)) :
    searchSlot m page rid = (edbOk, some offset) := by
  have bound := (PageView.live_bounds at_slot).1
  rw [searchSlot_inRange rep (by omega), (rep.slot at_slot).1]

theorem searchSlot_dropped (rep : PageRep m page view) {size : Nat}
    (at_slot : view.slots[rid.slotId]? = some (.dropped size)) :
    searchSlot m page rid = (edbOk, some dmsSlotEmpty) := by
  have bound := (List.getElem?_eq_some_iff.mp at_slot).1
  have word : pageSlot m page rid.slotId = dmsSlotEmpty := rep.slot at_slot
  rw [searchSlot_inRange rep (by omega), word]

theorem searchSlot_beyond (rep : PageRep m page view)
    (beyond : view.slots.length < rid.slotId) :
    searchSlot m page rid = (edbSys, none) := by
  rw [searchSlot, rep.numSlots, if_pos beyond]

/-- The word behind the last slot is never the mark of an empty slot: it lies in
the zeroed gap, or, with a gap of less than a word, it reaches into the size word
of the record inserted last, whose top byte is zero. -/
theorem pageSlot_pastLast (rep : PageRep m page view) :
    pageSlot m page view.slots.length ≠ dmsSlotEmpty := by
  obtain ⟨slotEnd, free, below, -⟩ := view.numbers
  have address : slotAddress page view.slots.length = page + view.slotOffset := by
    rw [slotAddress_eq]
    omega
  have zeroByte : ∃ i, i < 4 ∧ m (page + view.slotOffset + i) = 0 := by
    by_cases full : view.slotOffset = view.freeOffset
    · have used : view.slots ≠ [] := by
        intro nil
        simp only [nil, totalSize_nil, List.length_nil] at free slotEnd
        omega
      exact ⟨3, by omega, full ▸ rep.lowest used⟩
    · exact ⟨0, by omega, rep.gap _ (by omega) (by omega)⟩
  obtain ⟨i, small, zero⟩ := zeroByte
  have b0 := (m (page + view.slotOffset)).toNat_lt
  have b1 := (m (page + view.slotOffset + 1)).toNat_lt
  have b2 := (m (page + view.slotOffset + 2)).toNat_lt
  have b3 := (m (page + view.slotOffset + 3)).toNat_lt
  have byte : (m (page + view.slotOffset + i)).toNat = 0 := by
    rw [zero]
    rfl
  rw [pageSlot, address]
  simp only [readU32, dmsSlotEmpty]
  obtain rfl | rfl | rfl | rfl : i = 0 ∨ i = 1 ∨ i = 2 ∨ i = 3 := by omega
  · rw [Nat.add_zero] at byte
    omega
  · omega
  · omega
  · omega

end SearchSlot

/-! ### Where a rid can point -/

section Rids

variable {s : DmsFile} {view : FileView} {rid : DmsRecordId}

theorem pastLastSlot_iff (rep : FileLayout s view) :
    s.PastLastSlot rid ↔ rid.pageId < view.numPages ∧
      rid.slotId = (view.page rid.pageId).slots.length := by
  constructor
  · rintro ⟨page, found, last⟩
    obtain ⟨bound, -, pageRep⟩ := rep.pageToOffset_some found
    exact ⟨bound, last.trans pageRep.numSlots⟩
  · rintro ⟨bound, last⟩
    refine ⟨s.pageAddress rid.pageId, ?_, ?_⟩
    · rw [rep.pageToOffset_eq, if_pos bound]
    · rw [last, (rep.pages _ bound).numSlots]

/-- A live record has a slot that points to it. -/
theorem slot_of_recordAt {record : BsonObj} (live : view.recordAt rid = some record) :
    rid.pageId < view.numPages ∧ ∃ offset,
      (view.page rid.pageId).slots[rid.slotId]? = some (.live offset record) := by
  obtain ⟨offset, at_slot⟩ := PageView.recordAt_eq_some.mp live
  refine ⟨view.page_lt_of_allocated ?_, offset, at_slot⟩
  exact (PageView.live_bounds at_slot).1

/-- A live record lies inside its segment. -/
theorem inSegment_live {offset length : Nat} {record : BsonObj}
    (at_slot : (view.page rid.pageId).slots[rid.slotId]? = some (.live offset record))
    (short : length ≤ recordSize record) : inSegment rid.pageId offset length = true := by
  have upper := (PageView.live_bounds at_slot).2.2
  rw [inSegment, decide_eq_true_eq]
  simp only [dmsPageSize, dmsPagesPerSegment, dmsFileSegmentSize]
  omega

/-- A rid that names no live record: no page, a dropped slot, the slot behind the
last one, or beyond. -/
theorem dead_cases (dead : view.recordAt rid = none) :
    view.numPages ≤ rid.pageId ∨ rid.pageId < view.numPages ∧
      ((∃ size, (view.page rid.pageId).slots[rid.slotId]? = some (.dropped size)) ∨
        (view.page rid.pageId).slots.length ≤ rid.slotId) := by
  by_cases bound : rid.pageId < view.numPages
  · refine Or.inr ⟨bound, ?_⟩
    cases at_slot : (view.page rid.pageId).slots[rid.slotId]? with
    | none => exact Or.inr (List.getElem?_eq_none_iff.mp at_slot)
    | some slot =>
        cases slot with
        | dropped size => exact Or.inl ⟨size, rfl⟩
        | live offset record =>
            have live := PageView.recordAt_eq_some.mpr ⟨offset, at_slot⟩
            rw [FileView.recordAt] at dead
            rw [dead] at live
            cases live
  · exact Or.inl (by omega)

end Rids

/-! ### remove -/

section Remove

variable {s : DmsFile} {view : FileView} {rid : DmsRecordId}

/-- `remove` with a page and a word that is not the mark of an empty slot. -/
theorem remove_of_slot {page slot : Nat} (free : s.mutex = .init)
    (found : s.pageToOffset rid.pageId = some page)
    (searched : searchSlot s.memory page rid = (edbOk, some slot))
    (present : dmsSlotEmpty ≠ slot)
    (inside : inSegment rid.pageId slot sizeofDmsRecord = true) :
    s.remove rid = some (edbOk,
      { (s.setMemory (droppedPage s.memory page rid.slotId slot)).updateFreeSpace page
          (toI32 (recordSizeAt (droppedPage s.memory page rid.slotId slot) (page + slot)))
          rid.pageId with mutex := .init }) := by
  have taken : s.mutex.get = some ⟨true, 0⟩ := by rw [free, OssSLatch.get_init]
  have foundHeld : { s with mutex := ⟨true, 0⟩ }.pageToOffset rid.pageId = some page := found
  have searchedHeld : searchSlot { s with mutex := ⟨true, 0⟩ }.memory page rid =
      (edbOk, some slot) := searched
  rw [DmsFile.remove, taken]
  dsimp only
  rw [foundHeld]
  dsimp only
  rw [searchedHeld]
  dsimp only
  rw [if_neg present, if_pos inside]
  rfl

/-- `remove` that does not come to a record gives the latch back. -/
theorem remove_rejects (free : s.mutex = .init)
    (rejected : s.pageToOffset rid.pageId = none ∨
      ∃ page, s.pageToOffset rid.pageId = some page ∧
        (searchSlot s.memory page rid = (edbSys, none) ∨
          searchSlot s.memory page rid = (edbOk, some dmsSlotEmpty))) :
    s.remove rid = some (edbSys, s) := by
  have taken : s.mutex.get = some ⟨true, 0⟩ := by rw [free, OssSLatch.get_init]
  have released : { s with mutex := ⟨true, 0⟩ }.releaseMutex = s := by
    rw [DmsFile.releaseMutex]
    dsimp only
    rw [OssSLatch.release_exclusive, ← free]
  rw [DmsFile.remove, taken]
  dsimp only
  rw [released]
  rcases rejected with missing | ⟨page, found, beyond | empty⟩
  · have missingHeld : { s with mutex := ⟨true, 0⟩ }.pageToOffset rid.pageId = none := missing
    rw [missingHeld]
  · have foundHeld : { s with mutex := ⟨true, 0⟩ }.pageToOffset rid.pageId = some page := found
    have searchedHeld : searchSlot { s with mutex := ⟨true, 0⟩ }.memory page rid =
        (edbSys, none) := beyond
    rw [foundHeld]
    dsimp only
    rw [searchedHeld]
  · have foundHeld : { s with mutex := ⟨true, 0⟩ }.pageToOffset rid.pageId = some page := found
    have searchedHeld : searchSlot { s with mutex := ⟨true, 0⟩ }.memory page rid =
        (edbOk, some dmsSlotEmpty) := empty
    rw [foundHeld]
    dsimp only
    rw [searchedHeld]
    dsimp only
    rw [if_pos rfl]

/-- Removing a live record drops it and returns `EDB_OK`. -/
theorem remove_live (rep : FileRep s view) (free : s.mutex = .init) {record : BsonObj}
    (live : view.recordAt rid = some record) :
    ∃ s' view', s.remove rid = some (edbOk, s') ∧ FileRep s' view' ∧
      IdStore.Step view.store (.delete rid) view'.store ∧
      s'.mutex = .init ∧ s'.extendMutex = s.extendMutex := by
  obtain ⟨bound, offset, at_slot⟩ := slot_of_recordAt live
  have page := rep.pages _ bound
  have found : s.pageToOffset rid.pageId = some (s.pageAddress rid.pageId) := by
    rw [rep.pageToOffset_eq, if_pos bound]
  obtain ⟨newPage, only⟩ := removePage_refines page at_slot
  obtain ⟨size, freeSpace⟩ := droppedPage_reads page at_slot
  have ge := recordSize_ge record
  have le := recordSize_le record
  obtain ⟨slotEnd, freeEnd, below, space⟩ := (view.page rid.pageId).numbers
  obtain ⟨slotEnd', -, -, space'⟩ := ((view.page rid.pageId).drop at_slot).numbers
  obtain ⟨-, dropped⟩ := drop_sizes at_slot
  obtain ⟨-, -, upper⟩ := PageView.live_bounds at_slot
  have present : dmsSlotEmpty ≠ offset := by
    simp only [dmsSlotEmpty]
    omega
  have inside : inSegment rid.pageId offset sizeofDmsRecord = true := by
    apply inSegment_live at_slot
    simp only [sizeofDmsRecord]
    omega
  have changed : toU32 ((view.page rid.pageId).freeSpace + toI32 (recordSize record)) =
      ((view.page rid.pageId).drop at_slot).freeSpace := by
    have sameSlots : ((view.page rid.pageId).drop at_slot).slots.length =
        (view.page rid.pageId).slots.length := by simp
    rw [PageView.drop_slots] at space'
    rw [toU32_add_toI32]
    unfold toU32
    omega
  have removed := rep.updateFreeSpace bound freeSpace changed newPage only
  refine ⟨_, _, ?_, removed.latches .init s.extendMutex, view.store_drop bound at_slot, rfl, rfl⟩
  rw [remove_of_slot free found (searchSlot_live page at_slot) present inside, size]
  rfl

/-- A rid that names no live record, and not the slot behind the last one, comes to
no record. -/
theorem dead_rejected (rep : FileLayout s view) (dead : view.recordAt rid = none)
    (notPast : ¬ s.PastLastSlot rid) :
    s.pageToOffset rid.pageId = none ∨
      ∃ page, s.pageToOffset rid.pageId = some page ∧
        (searchSlot s.memory page rid = (edbSys, none) ∨
          searchSlot s.memory page rid = (edbOk, some dmsSlotEmpty)) := by
  rcases dead_cases dead with noPage | ⟨bound, dropped | beyond⟩
  · refine Or.inl ?_
    rw [rep.pageToOffset_eq, if_neg (by omega)]
  · obtain ⟨size, at_slot⟩ := dropped
    refine Or.inr ⟨s.pageAddress rid.pageId, ?_, Or.inr ?_⟩
    · rw [rep.pageToOffset_eq, if_pos bound]
    · exact searchSlot_dropped (rep.pages _ bound) at_slot
  · have strict : (view.page rid.pageId).slots.length < rid.slotId := by
      rcases Nat.lt_or_eq_of_le beyond with less | last
      · exact less
      · exact absurd ((pastLastSlot_iff rep).mpr ⟨bound, last.symm⟩) notPast
    refine Or.inr ⟨s.pageAddress rid.pageId, ?_, Or.inl ?_⟩
    · rw [rep.pageToOffset_eq, if_pos bound]
    · exact searchSlot_beyond (rep.pages _ bound) strict

theorem remove_dead (rep : FileRep s view) (free : s.mutex = .init)
    (dead : view.recordAt rid = none) (notPast : ¬ s.PastLastSlot rid) :
    s.remove rid = some (edbSys, s) :=
  remove_rejects free (dead_rejected rep.toFileLayout dead notPast)

/-- The slot behind the last one is taken for a record: `remove` never answers with
an error there. -/
theorem remove_pastLastSlot (rep : FileRep s view) (free : s.mutex = .init)
    (past : s.PastLastSlot rid) {rc : ReturnCode} {s' : DmsFile}
    (result : s.remove rid = some (rc, s')) : rc = edbOk := by
  obtain ⟨bound, last⟩ := (pastLastSlot_iff rep.toFileLayout).mp past
  have page := rep.pages _ bound
  have taken : s.mutex.get = some ⟨true, 0⟩ := by rw [free, OssSLatch.get_init]
  have foundHeld : { s with mutex := ⟨true, 0⟩ }.pageToOffset rid.pageId =
      some (s.pageAddress rid.pageId) :=
    (rep.pageToOffset_eq rid.pageId).trans (if_pos bound)
  have searchedHeld : searchSlot { s with mutex := ⟨true, 0⟩ }.memory
      (s.pageAddress rid.pageId) rid =
        (edbOk, some (pageSlot s.memory (s.pageAddress rid.pageId) rid.slotId)) :=
    searchSlot_inRange page (Nat.le_of_eq last)
  have present : dmsSlotEmpty ≠ pageSlot s.memory (s.pageAddress rid.pageId) rid.slotId := by
    rw [last]
    exact (pageSlot_pastLast page).symm
  rw [DmsFile.remove, taken] at result
  dsimp only at result
  rw [foundHeld] at result
  dsimp only at result
  rw [searchedHeld] at result
  dsimp only at result
  rw [if_neg present] at result
  split at result
  next => exact (Prod.mk.inj (Option.some.inj result)).1.symm
  next => cases result

/-- A completed `remove` of any other rid deletes a live record, or finds none and
changes nothing. -/
theorem remove_refines (rep : FileRep s view) (notPast : ¬ s.PastLastSlot rid)
    {rc : ReturnCode} {s' : DmsFile} (result : s.remove rid = some (rc, s')) :
    ∃ view', FileRep s' view' ∧ s'.mutex = .init ∧ s'.extendMutex = s.extendMutex ∧
      (rc = edbOk ∧ IdStore.Step view.store (.delete rid) view'.store ∨
        rc = edbSys ∧ IdStore.Step view.store .keep view'.store) := by
  have free : s.mutex = .init := by
    cases taken : s.mutex.get with
    | none =>
        rw [DmsFile.remove, taken] at result
        cases result
    | some held => exact (OssSLatch.get_some taken).1
  cases contents : view.recordAt rid with
  | none =>
      rw [remove_dead rep free contents notPast] at result
      obtain ⟨rfl, rfl⟩ := Prod.mk.inj (Option.some.inj result)
      exact ⟨view, rep, free, rfl, Or.inr ⟨rfl, .refl _⟩⟩
  | some record =>
      obtain ⟨s₁, view', removed, rep', step, mutex, extendMutex⟩ :=
        remove_live rep free contents
      rw [removed] at result
      obtain ⟨rfl, rfl⟩ := Prod.mk.inj (Option.some.inj result)
      exact ⟨view', rep', mutex, extendMutex, Or.inl ⟨rfl, step⟩⟩

end Remove

/-! ### find -/

section Find

variable {s : DmsFile} {view : FileView} {rid : DmsRecordId}

/-- A latch no writer holds can be shared, and giving it back restores the file. -/
theorem shared_of_noWriter (noWriter : s.mutex.writer = false) :
    s.mutex.getShared = some ⟨false, s.mutex.readers + 1⟩ ∧
      { s with mutex := ⟨false, s.mutex.readers + 1⟩ }.releaseMutexShared = s := by
  have taken : s.mutex.getShared = some ⟨false, s.mutex.readers + 1⟩ := by
    rw [OssSLatch.getShared, noWriter]
    rfl
  refine ⟨taken, ?_⟩
  rw [DmsFile.releaseMutexShared]
  dsimp only
  rw [(OssSLatch.getShared_some taken).2.2]

/-- `find` with a page and a slot that points to a stored object. -/
theorem find_of_slot {page slot size : Nat} (noWriter : s.mutex.writer = false)
    (found : s.pageToOffset rid.pageId = some page)
    (searched : searchSlot s.memory page rid = (edbOk, some slot))
    (present : dmsSlotEmpty ≠ slot)
    (insideHead : inSegment rid.pageId slot (sizeofDmsRecord + 4) = true)
    (normal : dmsRecordFlagDropped ≠ recordFlagAt s.memory (page + slot))
    (sized : toI32 (readU32 s.memory (page + slot + sizeofDmsRecord)) = size)
    (valid : bsonIsValid size = true)
    (inside : inSegment rid.pageId (slot + sizeofDmsRecord) size = true) :
    s.find rid = some (.returns
      ⟨edbOk, some (readBytes s.memory (page + slot + sizeofDmsRecord) size)⟩, s) := by
  obtain ⟨taken, released⟩ := shared_of_noWriter noWriter
  have foundHeld : { s with mutex := ⟨false, s.mutex.readers + 1⟩ }.pageToOffset
      rid.pageId = some page := found
  have memoryHeld : { s with mutex := ⟨false, s.mutex.readers + 1⟩ }.memory = s.memory := rfl
  rw [DmsFile.find, taken]
  dsimp only
  rw [released, foundHeld]
  dsimp only
  rw [memoryHeld, searched]
  dsimp only
  rw [if_neg present, if_neg (by rw [insideHead]; decide), if_neg normal, sized,
    if_neg (by rw [valid]; decide), Int.toNat_natCast, if_pos inside]

/-- `find` that does not come to a record gives the latch back. -/
theorem find_rejects (noWriter : s.mutex.writer = false)
    (rejected : s.pageToOffset rid.pageId = none ∨
      ∃ page, s.pageToOffset rid.pageId = some page ∧
        (searchSlot s.memory page rid = (edbSys, none) ∨
          searchSlot s.memory page rid = (edbOk, some dmsSlotEmpty))) :
    s.find rid = some (.returns ⟨edbSys, none⟩, s) := by
  obtain ⟨taken, released⟩ := shared_of_noWriter noWriter
  have memoryHeld : { s with mutex := ⟨false, s.mutex.readers + 1⟩ }.memory = s.memory := rfl
  rw [DmsFile.find, taken]
  dsimp only
  rw [released]
  rcases rejected with missing | ⟨page, found, beyond | empty⟩
  · have missingHeld : { s with mutex := ⟨false, s.mutex.readers + 1⟩ }.pageToOffset
        rid.pageId = none := missing
    rw [missingHeld]
  · have foundHeld : { s with mutex := ⟨false, s.mutex.readers + 1⟩ }.pageToOffset
        rid.pageId = some page := found
    rw [foundHeld]
    dsimp only
    rw [memoryHeld, beyond]
  · have foundHeld : { s with mutex := ⟨false, s.mutex.readers + 1⟩ }.pageToOffset
        rid.pageId = some page := found
    rw [foundHeld]
    dsimp only
    rw [memoryHeld, empty]
    dsimp only
    rw [if_pos rfl]

/-- Looking up a live record returns its bytes. -/
theorem find_live (rep : FileLayout s view) (noWriter : s.mutex.writer = false)
    {record : BsonObj} (live : view.recordAt rid = some record) :
    s.find rid = some (.returns ⟨edbOk, some record.bytes⟩, s) := by
  obtain ⟨bound, offset, at_slot⟩ := slot_of_recordAt live
  have page := rep.pages _ bound
  have slot := page.slot at_slot
  obtain ⟨size, flag, body⟩ := recordBytes_fields slot.2
  obtain ⟨objsize, valid⟩ := slot.objsize
  have ge := record.objsize_ge
  have recordEq : recordSize record = record.objsize + 8 := rfl
  obtain ⟨-, -, upper⟩ := PageView.live_bounds at_slot
  have found : s.pageToOffset rid.pageId = some (s.pageAddress rid.pageId) := by
    rw [rep.pageToOffset_eq, if_pos bound]
  have present : dmsSlotEmpty ≠ offset := by
    simp only [dmsSlotEmpty]
    omega
  have insideHead : inSegment rid.pageId offset (sizeofDmsRecord + 4) = true := by
    apply inSegment_live at_slot
    simp only [sizeofDmsRecord]
    omega
  have inside : inSegment rid.pageId (offset + sizeofDmsRecord) record.objsize = true := by
    have whole := inSegment_live at_slot (Nat.le_of_eq recordEq.symm)
    rw [inSegment, decide_eq_true_eq] at whole ⊢
    simp only [sizeofDmsRecord]
    omega
  have normal : dmsRecordFlagDropped ≠
      recordFlagAt s.memory (s.pageAddress rid.pageId + offset) := by
    rw [flag]
    decide
  rw [find_of_slot noWriter found (searchSlot_live page at_slot) present insideHead normal
    objsize (by rwa [objsize] at valid) inside]
  simp only [sizeofDmsRecord]
  rw [body]

/-- A rid that names no live record, and not the slot behind the last one, is
rejected. -/
theorem find_dead (rep : FileLayout s view) (noWriter : s.mutex.writer = false)
    (dead : view.recordAt rid = none) (notPast : ¬ s.PastLastSlot rid) :
    s.find rid = some (.returns ⟨edbSys, none⟩, s) :=
  find_rejects noWriter (dead_rejected rep dead notPast)

/-- Whatever `find` answers, only the latch can differ afterwards, and that only
when an exception left the call. -/
theorem find_keeps {completion : Completion DmsFile.FindReply} {s' : DmsFile}
    (result : s.find rid = some (completion, s')) :
    s.mutex.writer = false ∧
      (s' = s ∨ completion = .throws ∧
        s' = { s with mutex := ⟨false, s.mutex.readers + 1⟩ }) := by
  cases noWriter : s.mutex.writer with
  | true =>
      have blocked : s.mutex.getShared = none := by
        rw [OssSLatch.getShared, noWriter]
        rfl
      rw [DmsFile.find, blocked] at result
      cases result
  | false =>
      refine ⟨rfl, ?_⟩
      obtain ⟨taken, released⟩ := shared_of_noWriter noWriter
      rw [DmsFile.find, taken] at result
      dsimp only at result
      rw [released] at result
      -- every way out but the exception gives the latch back
      have unchanged : ∀ {reply : DmsFile.FindReply},
          some (Completion.returns reply, s) = some (completion, s') →
            s' = s ∨ completion = .throws ∧
              s' = { s with mutex := ⟨false, s.mutex.readers + 1⟩ } :=
        fun returned => Or.inl (Prod.mk.inj (Option.some.inj returned)).2.symm
      split at result
      next => exact unchanged result
      next page found =>
        split at result
        next => exact unchanged result
        next slot searched =>
          split at result
          next => exact unchanged result
          next =>
            split at result
            next => cases result
            next =>
              split at result
              next => exact unchanged result
              next =>
                split at result
                next =>
                  obtain ⟨rfl, rfl⟩ := Prod.mk.inj (Option.some.inj result)
                  exact Or.inr ⟨rfl, rfl⟩
                next =>
                  split at result
                  next => exact unchanged result
                  next => cases result

end Find

end EmeraldDb
