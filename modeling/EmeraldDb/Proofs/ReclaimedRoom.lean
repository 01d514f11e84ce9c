/-
Module: EmeraldDb.Proofs.ReclaimedRoom
Purpose: Which pages have all their free space in one piece after _recoverSpace, as
  their header fields tell it to insert.
Trusted boundary: none
Main exports: lowestRecord, StoresInto, RoomUsable, NoHole, roomUsable_iff,
  session_recoverSpace_usable_iff
-/
import EmeraldDb.Proofs.RecordStore

namespace EmeraldDb

open ByteMemory SlotView

/-! ### The lowest record -/

/-- The lowest offset in the first `i` slots, the end of the page when they are
empty. -/
def lowestBefore (m : Mem) (page i : Nat) : Nat :=
  (((List.range i).map (pageSlot m page)).filter (· ≠ dmsSlotEmpty)).foldl min dmsPageSize

/-- The offset of the lowest live record of a page. -/
def lowestRecord (m : Mem) (page : Nat) : Nat :=
  lowestBefore m page (pageNumSlots m page)

section Lowest

variable {m : Mem} {page : Nat}

theorem lowestBefore_empty {i : Nat} (empty : pageSlot m page i = dmsSlotEmpty) :
    lowestBefore m page (i + 1) = lowestBefore m page i := by
  rw [lowestBefore, List.range_succ, List.map_append, List.filter_append, List.map_singleton,
    List.filter_singleton, empty, lowestBefore]
  simp

theorem lowestBefore_live {i : Nat} (live : pageSlot m page i ≠ dmsSlotEmpty) :
    lowestBefore m page (i + 1) = min (lowestBefore m page i) (pageSlot m page i) := by
  rw [lowestBefore, List.range_succ, List.map_append, List.filter_append, List.map_singleton,
    List.filter_singleton, decide_eq_true live, List.foldl_append, lowestBefore]
  rfl

/-- Under records without gaps lies nothing but their room. -/
theorem AllPacked.lowestBefore (packed : AllPacked m page) {i : Nat}
    (bound : i ≤ pageNumSlots m page) :
    lowestBefore m page i = dmsPageSize - roomBefore m page i := by
  induction i with
  | zero => rfl
  | succ i ih =>
      have before := ih (Nat.le_of_succ_le bound)
      have next := roomBefore_succ m page i
      by_cases empty : pageSlot m page i = dmsSlotEmpty
      · rw [slotRoom_empty empty] at next
        rw [lowestBefore_empty empty, before, next, Nat.add_zero]
      · have place := packed i bound empty
        rw [lowestBefore_live empty, before]
        omega

/-- The lowest record of a compacted page. -/
theorem PageRep.lowestRecord_compacted {view : PageView} (rep : PageRep m page view) :
    lowestRecord (recoverSpace m page) page = dmsPageSize - liveSize view.slots := by
  obtain ⟨state, memory, passed⟩ := recoverSpace_passed rep.recordsInOrder rep.packedFront
  have order := rep.recordsInOrder
  have packed := passed.allPacked order
  have numSlots := passed.numSlots order
  have sameRoom := passed.roomBefore order (Nat.le_refl _)
  have room := rep.roomBefore (Nat.le_refl view.slots.length)
  rw [List.take_length, ← rep.numSlots] at room
  rw [← memory, lowestRecord, packed.lowestBefore (Nat.le_refl _), numSlots, sameRoom, room]

end Lowest

/-! ### Room that insert can use -/

/-- From the page that was found on, `insert` stores the record in page `p`, where it is
found again. -/
def StoresInto (s : DmsFile) (p : Nat) (record : BsonObj) : Prop :=
  ∃ out rid s', s.insertIntoPage record p = (.returns ⟨edbOk, some out, some rid⟩, s') ∧
    rid.pageId = p ∧ s'.find rid = some (.returns ⟨edbOk, some record.bytes⟩, s')

/-- The header of page `p` offers all free space in one piece, and `insert` takes it. -/
structure RoomUsable (s : DmsFile) (p page : Nat) : Prop where
  lowest : pageFreeOffset s.memory page = lowestRecord s.memory page
  gap : pageFreeOffset s.memory page =
    pageSlotOffset s.memory page + pageFreeSpace s.memory page
  stores : ∀ record : BsonObj, record.objsize + sizeofDmsRecord + sizeofSlot ≤
    pageFreeSpace s.memory page → StoresInto s p record

/-- No slot of the page is empty. -/
def NoHole (m : Mem) (page : Nat) : Prop :=
  ∀ i, i < pageNumSlots m page → pageSlot m page i ≠ dmsSlotEmpty

/-- The rid that `insert` hands out names the page that was found. -/
theorem insertIntoPage_pageId {s s' : DmsFile} {record : BsonObj} {p out : Nat}
    {rid : DmsRecordId}
    (stored : s.insertIntoPage record p = (.returns ⟨edbOk, some out, some rid⟩, s')) :
    rid.pageId = p := by
  unfold DmsFile.insertIntoPage at stored
  split at stored
  next => cases stored
  next page found =>
    split at stored
    next => cases stored
    next =>
      dsimp only at stored
      generalize (if DmsFile.needsRecover s.memory page record.objsize = true then
        s.setMemory (recoverSpace s.memory page) else s) = s₁ at stored
      split at stored
      next => cases stored
      next =>
        split at stored
        next =>
          cases stored
          rfl
        next => cases stored

section Page

variable {s : DmsFile} {view : FileView} {p : Nat}

/-- `insert` stores a record that the gap of the page takes. -/
theorem FileRep.storesInto (rep : FileRep s view) (bound : p < view.numPages)
    {record : BsonObj} (fits : (view.page p).Fits record) : StoresInto s p record := by
  cases inserted : s.insertIntoPage record p with
  | mk completion s' =>
      obtain ⟨view', rep', outcome, -, mutex, -⟩ := insertIntoPage_refines rep bound inserted
      have noWriter : s'.mutex.writer = false := by
        rw [mutex]
        rfl
      cases outcome with
      | stored _ step =>
          exact ⟨_, _, s', inserted, insertIntoPage_pageId inserted,
            find_of_contents rep'.toFileLayout noWriter (contents_of_put step)⟩
      | refused tight step => exact absurd fits tight

/-- A page without an empty slot has no dropped one. -/
theorem PageRep.noHole_iff {m : Mem} {page : Nat} {view : PageView}
    (rep : PageRep m page view) :
    NoHole m page ↔ ∀ size, SlotView.dropped size ∉ view.slots := by
  constructor
  · intro noHole size member
    obtain ⟨i, at_i⟩ := List.mem_iff_getElem?.mp member
    have inSlots := (List.getElem?_eq_some_iff.mp at_i).1
    exact noHole i (rep.numSlots ▸ inSlots) (rep.slot at_i)
  · intro noDropped i bound empty
    have inSlots : i < view.slots.length := rep.numSlots ▸ bound
    have at_i := List.getElem?_eq_getElem inSlots
    cases shape : view.slots[i] with
    | dropped size => exact noDropped size (shape ▸ List.getElem_mem inSlots)
    | live offset record =>
        rw [shape] at at_i
        obtain ⟨word, present⟩ := rep.live_present at_i
        exact present (word.symm.trans empty)

/-- Without a dropped slot everything ever inserted is live. -/
theorem liveSize_of_noDropped {slots : List SlotView}
    (noDropped : ∀ size, SlotView.dropped size ∉ slots) :
    liveSize slots = totalSize slots := by
  induction slots with
  | nil => rfl
  | cons slot rest ih =>
      have tail := ih fun size member => noDropped size (List.mem_cons_of_mem _ member)
      rw [liveSize_cons, totalSize_cons, tail]
      cases slot with
      | live offset record => rfl
      | dropped size => exact absurd List.mem_cons_self (noDropped size)

/-- The slot of a removed record is empty. -/
theorem FileRep.hole (rep : FileRep s view) {rid : DmsRecordId}
    (allocated : view.store.allocated rid) (gone : view.store.contents rid = none) :
    ¬ NoHole s.memory (s.pageAddress rid.pageId) := by
  have bound := FileView.page_lt_of_allocated allocated
  have inSlots : rid.slotId < (view.page rid.pageId).slots.length := allocated
  have at_slot := List.getElem?_eq_getElem inSlots
  rw [(rep.pages _ bound).noHole_iff]
  intro noDropped
  cases shape : (view.page rid.pageId).slots[rid.slotId] with
  | dropped size => exact noDropped size (shape ▸ List.getElem_mem inSlots)
  | live offset record =>
      rw [shape] at at_slot
      have held : view.recordAt rid = some record := PageView.recordAt_eq_some.mpr ⟨_, at_slot⟩
      have dead : view.recordAt rid = none := Option.map_eq_none_iff.mp gone
      rw [dead] at held
      cases held

/-- `_recoverSpace` makes the free space of a page usable exactly when there is none to
recover: it moves the records and not `_freeOffset`. -/
theorem roomUsable_iff (rep : FileRep s view) (bound : p < view.numPages) :
    RoomUsable (s.setMemory (recoverSpace s.memory (s.pageAddress p))) p (s.pageAddress p) ↔
      NoHole s.memory (s.pageAddress p) := by
  have page := rep.pages p bound
  rw [page.noHole_iff]
  constructor
  · intro usable size member
    have lowest := usable.lowest
    rw [DmsFile.setMemory_memory, page.lowestRecord_compacted] at lowest
    have compacted := (recoverSpace_refines page).1
    rw [compacted.freeOffset, PageView.repack_freeOffset] at lowest
    -- the dropped record took room that the fields still count as taken
    have room := liveSize_add_dropped_le member
    have sizeGe := (view.page p).droppedSize size member
    obtain ⟨-, free, -, space⟩ := (view.page p).numbers
    simp only [dmsPageSize] at lowest
    omega
  · intro noDropped
    have allLive := liveSize_of_noDropped noDropped
    have lowest := page.lowestRecord_compacted
    obtain ⟨slotEnd, free, below, space⟩ := (view.page p).numbers
    rw [page.recoverSpace_of_noHole noDropped] at lowest ⊢
    constructor
    · rw [DmsFile.setMemory_memory, lowest, page.freeOffset, allLive]
      rfl
    · rw [DmsFile.setMemory_memory, page.freeOffset, page.slotOffset, page.freeSpace]
      omega
    · intro record room
      rw [DmsFile.setMemory_memory, page.freeSpace] at room
      simp only [sizeofDmsRecord, sizeofSlot] at room
      have size : recordSize record = record.objsize + 8 := rfl
      have fits : (view.page p).Fits record := by
        rw [PageView.Fits]
        omega
      exact rep.storesInto bound fits

end Page

/-! ### Sessions -/

/-- In every reachable file, a compaction leaves a page with all its free space usable
exactly when the page had no empty slot. -/
theorem session_recoverSpace_usable_iff {start s : DmsFile} {trace : DmsTrace}
    (fresh : start.Fresh) (run : Session withinSlots start trace s) {p page : Nat}
    (found : s.pageToOffset p = some page) :
    RoomUsable (s.setMemory (recoverSpace s.memory page)) p page ↔ NoHole s.memory page := by
  obtain ⟨view, rep, -⟩ := session_tracked fresh (fun _ guard => orderly_of_withinSlots guard) run
  obtain ⟨bound, rfl, -⟩ := rep.pageToOffset_some found
  exact roomUsable_iff rep bound

/-- The page of the only record ever stored has all its room to offer. -/
theorem session_recoverSpace_usable_iff_stored : ∃ (trace : DmsTrace) (s : DmsFile)
    (rid : DmsRecordId) (page : Nat),
      liveBytes trace rid = some (binDataRecord [] (by decide)).bytes ∧
      s.pageToOffset rid.pageId = some page ∧
      RoomUsable (s.setMemory (recoverSpace s.memory page)) rid.pageId page := by
  obtain ⟨start, trace, s, rid, fresh, run, live, one⟩ := exists_stored
  have tracked := (session_settled fresh withinSlots_of_ridsIssued run).1
  obtain ⟨page, allocated⟩ := tracked.page_of_liveBytes live
  refine ⟨trace, s, rid, page, live, allocated,
    (session_recoverSpace_usable_iff fresh (session_withinSlots fresh run) allocated).mpr ?_⟩
  obtain ⟨view, rep, follows⟩ := tracked
  obtain ⟨bound, rfl, -⟩ := rep.pageToOffset_some allocated
  rw [(rep.pages _ bound).noHole_iff]
  -- a dropped slot would be a second rid, or leave the only one without its bytes
  intro size dropped
  obtain ⟨i, at_i⟩ := List.mem_iff_getElem?.mp dropped
  have issued : (⟨rid.pageId, i⟩ : DmsRecordId) ∈ issuedRids trace :=
    (follows.allocation _).mp (List.getElem?_eq_some_iff.mp at_i).1
  rw [one] at issued
  have held := (follows.holds rid).trans live
  rw [← List.mem_singleton.mp issued] at held
  obtain ⟨record, stored, -⟩ := Option.map_eq_some_iff.mp held
  obtain ⟨offset, shape⟩ := PageView.recordAt_eq_some.mp stored
  cases at_i.symm.trans shape

/-- After the removal of a record, a compaction leaves room that its page does not offer. -/
theorem recoverSpace_leavesRoom : ∃ (start : DmsFile) (trace : DmsTrace) (s : DmsFile)
    (p page : Nat), start.Fresh ∧ Session withinSlots start trace s ∧
      s.pageToOffset p = some page ∧
      ¬ RoomUsable (s.setMemory (recoverSpace s.memory page)) p page := by
  obtain ⟨start, trace, s, gone, kept, fresh, run, removed, -⟩ := exists_removed
  obtain ⟨view, rep, follows⟩ := (session_settled fresh withinSlots_of_ridsIssued run).1
  obtain ⟨issued, empty⟩ := follows.emptied gone removed
  have allocated := (follows.allocation gone).mpr issued
  have bound := FileView.page_lt_of_allocated allocated
  have found : s.pageToOffset gone.pageId = some (s.pageAddress gone.pageId) := by
    rw [rep.pageToOffset_eq, if_pos bound]
  refine ⟨start, trace, s, gone.pageId, _, fresh, session_withinSlots fresh run, found, ?_⟩
  rw [roomUsable_iff rep bound]
  exact rep.hole allocated empty

end EmeraldDb
