/-
Module: EmeraldDb.Proofs.PageInvariant
Purpose: The layout of a page in the words of its header fields, slots and record
  headers, and that every session keeps it on every page.
Trusted boundary: human-reviewed spec
Main exports: PageInvariant, PageRep.invariant, session_pageInvariant
-/
import EmeraldDb.Proofs.StoredSessions

namespace EmeraldDb

open ByteMemory SlotView

/-! ### The invariant on the bytes -/

/-- What a slot that is not empty points to: a record behind `_freeOffset` whose
header is normal and counts itself and the object. -/
structure SlotInvariant (m : Mem) (page i : Nat) : Prop where
  lower : pageFreeOffset m page ≤ pageSlot m page i
  upper : pageSlot m page i + recordSizeAt m (page + pageSlot m page i) ≤ dmsPageSize
  flag : recordFlagAt m (page + pageSlot m page i) = dmsRecordFlagNormal
  size : recordSizeAt m (page + pageSlot m page i) =
    sizeofDmsRecord + readU32 m (page + pageSlot m page i + sizeofDmsRecord)

/-- The layout invariant of a page. -/
structure PageInvariant (m : Mem) (page : Nat) : Prop where
  slotOffset : pageSlotOffset m page =
    sizeofDmsPageHeader + sizeofSlot * pageNumSlots m page
  slotsBelow : pageSlotOffset m page ≤ pageFreeOffset m page
  inPage : pageFreeOffset m page ≤ dmsPageSize
  slot : ∀ i, i < pageNumSlots m page → pageSlot m page i ≠ dmsSlotEmpty →
    SlotInvariant m page i
  decreasing : ∀ i j, i < j → j < pageNumSlots m page →
    pageSlot m page i ≠ dmsSlotEmpty → pageSlot m page j ≠ dmsSlotEmpty →
      pageSlot m page j < pageSlot m page i
  disjoint : ∀ i j, i < j → j < pageNumSlots m page →
    pageSlot m page i ≠ dmsSlotEmpty → pageSlot m page j ≠ dmsSlotEmpty →
      pageSlot m page j + recordSizeAt m (page + pageSlot m page j) ≤
        pageSlot m page i
  freeSpace : pageFreeSpace m page + ((List.range (pageNumSlots m page)).map
    (slotRoom m page)).sum + sizeofSlot * pageNumSlots m page + sizeofDmsPageHeader =
      dmsPageSize
  gap : pageFreeOffset m page - pageSlotOffset m page ≤ pageFreeSpace m page

/-! ### Represented pages satisfy it -/

section Represented

variable {m : Mem} {page : Nat} {view : PageView}

/-- The size words of the records add up to the room of the live records. -/
theorem PageRep.slotRoom_sum (rep : PageRep m page view) :
    ((List.range (pageNumSlots m page)).map (EmeraldDb.slotRoom m page)).sum =
      liveSize view.slots := by
  have room := rep.roomBefore (Nat.le_refl view.slots.length)
  rw [List.take_length, ← rep.numSlots] at room
  exact room

/-- Represented pages satisfy the layout invariant. -/
theorem PageRep.invariant (rep : PageRep m page view) : PageInvariant m page := by
  obtain ⟨slotEnd, free, below, space⟩ := view.numbers
  have live := liveSize_le_totalSize view.slots
  refine ⟨?_, ?_, ?_, ?_, ?_, ?_, ?_, ?_⟩
  · rw [rep.slotOffset, rep.numSlots]
    rfl
  · rw [rep.slotOffset, rep.freeOffset]
    exact below
  · rw [rep.freeOffset]
    exact Nat.sub_le _ _
  · intro i bound present
    obtain ⟨record, at_i⟩ := rep.slot_live bound present
    obtain ⟨-, lower, upper⟩ := PageView.live_bounds at_i
    obtain ⟨size, flag, objsize⟩ := rep.record at_i
    refine ⟨?_, ?_, flag, ?_⟩
    · rw [rep.freeOffset]
      exact lower
    · rw [size]
      exact upper
    · rw [size, recordSize]
      simp only [sizeofDmsRecord]
      rw [objsize, Nat.add_comm]
  · exact rep.recordsInOrder.decreasing
  · exact fun i j before bound presentI presentJ =>
      rep.below_of_lt before bound presentI presentJ
  · rw [rep.slotRoom_sum, rep.freeSpace, rep.numSlots]
    simp only [sizeofSlot, sizeofDmsPageHeader, dmsPageSize]
    omega
  · rw [rep.freeOffset, rep.slotOffset, rep.freeSpace]
    omega

end Represented

/-! ### Sessions -/

/-- In every session that removes only rids it was given, every page satisfies the
layout invariant at every moment. -/
theorem session_pageInvariant {start s : DmsFile} {trace : DmsTrace}
    (fresh : start.Fresh) (run : Session removesIssued start trace s)
    {pageId page : Nat} (allocated : s.pageToOffset pageId = some page) :
    PageInvariant s.memory page := by
  obtain ⟨view, rep, -⟩ := session_tracked fresh orderly_of_removesIssued run
  exact (rep.pageToOffset_some allocated).2.2.invariant

/-- After two inserts and a remove, the page of the record that is left satisfies the layout
invariant. -/
theorem session_pageInvariant_removed : ∃ (trace : DmsTrace) (s : DmsFile)
    (gone kept : DmsRecordId) (page : Nat), gone ∈ removedRids trace ∧
      liveBytes trace kept = some (binDataRecord [] (by decide)).bytes ∧
      s.pageToOffset kept.pageId = some page ∧ PageInvariant s.memory page := by
  obtain ⟨start, trace, s, gone, kept, fresh, run, removed, live⟩ := exists_removed
  have tracked := (session_settled fresh withinSlots_of_ridsIssued run).1
  obtain ⟨page, allocated⟩ := tracked.page_of_liveBytes live
  exact ⟨trace, s, gone, kept, page, removed, live, allocated,
    session_pageInvariant fresh (session_removesIssued run) allocated⟩

end EmeraldDb
