/-
Module: EmeraldDb.Proofs.PageRefinement
Purpose: When the bytes of a page represent an abstract page, and the proof
  that compaction refines the abstract repacking and touches nothing else.
Trusted boundary: none
Main exports: SlotRep, PageRep, PageRep.congr, recoverSpace_refines
-/
import EmeraldDb.Dms.PageView
import EmeraldDb.Proofs.Compaction

namespace EmeraldDb

open ByteMemory SlotView

/-- The bytes of slot `i`, and of the record it points to, represent `slot`. -/
def SlotRep (m : Mem) (page : Nat) (i : Nat) : SlotView → Prop
  | .dropped _ => pageSlot m page i = dmsSlotEmpty
  | .live offset record =>
      pageSlot m page i = offset ∧
        readBytes m (page + offset) (recordSize record) = recordBytes record

/-- Consecutive slots from `start` on represent a list. -/
def SlotsRep (m : Mem) (page : Nat) (start : Nat) (slots : List SlotView) : Prop :=
  ∀ j slot, slots[j]? = some slot → SlotRep m page (start + j) slot

/-! ### Record bytes -/

@[simp] theorem recordBytes_length (record : BsonObj) :
    (recordBytes record).length = recordSize record := by
  simp [recordBytes, recordSize, BsonObj.objsize]
  omega

/-- A stored record opens with its size, is flagged normal, and its body is the
object. -/
theorem recordBytes_fields {m : Mem} {a : Nat} {record : BsonObj}
    (stored : readBytes m a (recordSize record) = recordBytes record) :
    recordSizeAt m a = recordSize record ∧ recordFlagAt m a = dmsRecordFlagNormal ∧
      readBytes m (a + 8) record.objsize = record.bytes := by
  have le := recordSize_le record
  have ge := recordSize_ge record
  refine ⟨?_, ?_, ?_⟩
  · have word := readU32_eq_ofBytes (i := 0) stored (by omega)
    rw [recordBytes, List.append_assoc, readU32_ofBytes_u32Bytes] at word
    rw [recordSizeAt, ← Nat.add_zero a, word]
    simp only [recordSize, sizeofDmsRecord] at *
    omega
  · have word := readU32_eq_ofBytes (i := 4) stored (by omega)
    rw [recordBytes, List.append_assoc,
      ← u32Bytes_length (record.objsize + sizeofDmsRecord), ← Nat.add_zero (List.length _),
      readU32_ofBytes_append, readU32_ofBytes_u32Bytes] at word
    simpa [recordFlagAt] using word
  · have split := readBytes_append m a 8 record.objsize
    have sum : 8 + record.objsize = recordSize record := by
      unfold recordSize
      omega
    rw [sum, stored, recordBytes] at split
    exact (List.append_inj_right split (by simp)).symm

/-! ### Frames -/

/-- Only the slot array below `slotEnd` and the record area from `low` on may
differ inside the page, and nothing outside it. -/
def PageFrame (page : Nat) (slotEnd low : Nat) (m m' : Mem) : Prop :=
  ∀ a, a < page + 28 ∨ (page + slotEnd ≤ a ∧ a < page + low) ∨
    page + 4194304 ≤ a → m' a = m a

namespace PageFrame

/-- Nothing outside the page changes. -/
theorem sameOn {page : Nat} {slotEnd low lo hi : Nat} {m m' : Mem}
    (frame : PageFrame page slotEnd low m m')
    (outside : hi ≤ page ∨ page + 4194304 ≤ lo) : SameOn lo hi m m' :=
  fun a _ _ => frame a (by omega)

/-- The page header does not change. -/
theorem header {page : Nat} {slotEnd low : Nat} {m m' : Mem}
    (frame : PageFrame page slotEnd low m m') : SameOn page (page + 28) m m' :=
  fun a _ _ => frame a (by omega)

end PageFrame

theorem SlotRep.congr {m m' : Mem} {page : Nat} {i : Nat} {slot : SlotView}
    (rep : SlotRep m page i slot)
    (word : SameOn (slotAddress page i) (slotAddress page i + 4) m m')
    (body : ∀ offset record, slot = SlotView.live offset record →
      SameOn (page + offset) (page + offset + recordSize record) m m') :
    SlotRep m' page i slot := by
  cases slot with
  | dropped size =>
      exact (readU32_congr word).trans rep
  | live offset record =>
      exact ⟨(readU32_congr word).trans rep.1,
        (readBytes_congr (body offset record rfl)).trans rep.2⟩

/-- Slots stay represented when their words and their record area stay. -/
theorem SlotsRep.congr {m m' : Mem} {page : Nat} {start : Nat}
    {slots : List SlotView} (rep : SlotsRep m page start slots)
    (words : SameOn (slotAddress page start)
      (slotAddress page (start + slots.length)) m m')
    (bodies : ∀ (j offset : Nat) (record : BsonObj),
      slots[j]? = some (.live offset record) →
      SameOn (page + offset) (page + offset + recordSize record) m m') :
    SlotsRep m' page start slots := by
  intro j slot at_j
  have bound := (List.getElem?_eq_some_iff.mp at_j).1
  refine (rep j slot at_j).congr (words.mono ?_ ?_) ?_
  · simp only [slotAddress, sizeofDmsPageHeader, sizeofSlot]
    omega
  · simp only [slotAddress, sizeofDmsPageHeader, sizeofSlot]
    omega
  · intro offset record live
    exact bodies j offset record (live ▸ at_j)

theorem SlotsRep.append_singleton {m : Mem} {page : Nat} {start : Nat}
    {slots : List SlotView} {slot : SlotView} (rep : SlotsRep m page start slots)
    (last : SlotRep m page (start + slots.length) slot) :
    SlotsRep m page start (slots ++ [slot]) := by
  intro j other at_j
  by_cases early : j < slots.length
  · rw [List.getElem?_append_left early] at at_j
    exact rep j other at_j
  · have bound := (List.getElem?_eq_some_iff.mp at_j).1
    have here : j = slots.length := by
      simp only [List.length_append, List.length_singleton] at bound
      omega
    subst here
    obtain rfl : slot = other := by simpa using at_j
    exact last

/-- A dropped slot took room that no live record takes. -/
theorem liveSize_add_dropped_le {slots : List SlotView} {size : Nat}
    (member : SlotView.dropped size ∈ slots) :
    liveSize slots + size ≤ totalSize slots := by
  induction slots with
  | nil => simp at member
  | cons slot rest ih =>
      have tail := liveSize_le_totalSize rest
      have head := slot.liveSize_le_size
      simp only [liveSize_cons, totalSize_cons]
      rcases List.mem_cons.mp member with rfl | inRest
      · simp only [SlotView.liveSize, SlotView.size]
        omega
      · have := ih inRest
        omega

/-! ### Pages -/

/-- The bytes of a page represent an abstract page.  `gap` and `lowest` say what
a read just behind the last slot finds: zeros, or, on a page that is exactly
full, the size word of the record inserted last. -/
structure PageRep (m : Mem) (page : Nat) (view : PageView) : Prop where
  eyeCatcher : readBytes m page 4 = dmsPageEyeCatcher
  numSlots : pageNumSlots m page = view.slots.length
  slotOffset : pageSlotOffset m page = view.slotOffset
  freeSpace : pageFreeSpace m page = view.freeSpace
  freeOffset : pageFreeOffset m page = view.freeOffset
  slots : SlotsRep m page 0 view.slots
  gap : ∀ a, page + view.slotOffset ≤ a → a < page + view.freeOffset → m a = 0
  lowest : view.slots ≠ [] → m (page + view.freeOffset + 3) = 0

/-- Every slot of a page took at least the room of the smallest record. -/
theorem PageView.totalSize_ge {view : PageView} (used : view.slots ≠ []) :
    12 ≤ totalSize view.slots := by
  cases slots : view.slots with
  | nil => exact absurd slots used
  | cons slot rest =>
      have first : 12 ≤ slot.size := by
        cases slot with
        | live offset record => exact recordSize_ge record
        | dropped size => exact view.droppedSize size (slots ▸ List.mem_cons_self)
      rw [totalSize_cons]
      omega

/-- The word of slot `i` of a represented page. -/
theorem PageRep.slot {m : Mem} {page i : Nat} {view : PageView} {slot : SlotView}
    (rep : PageRep m page view) (at_i : view.slots[i]? = some slot) :
    SlotRep m page i slot := by
  have := rep.slots i slot at_i
  rwa [Nat.zero_add] at this

/-- A represented page stays represented while its own bytes stay. -/
theorem PageRep.congr {m m' : Mem} {page : Nat} {view : PageView}
    (rep : PageRep m page view)
    (same : SameOn page (page + 4194304) m m') : PageRep m' page view := by
  obtain ⟨slotEnd, free, below, -⟩ := view.numbers
  refine ⟨?_, ?_, ?_, ?_, ?_, ?_, ?_, ?_⟩
  · rw [same.readBytes_eq (by omega) (by omega), rep.eyeCatcher]
  · rw [pageNumSlots, same.readU32_eq (by omega) (by omega)]
    exact rep.numSlots
  · rw [pageSlotOffset, same.readU32_eq (by omega) (by omega)]
    exact rep.slotOffset
  · rw [pageFreeSpace, same.readU32_eq (by omega) (by omega)]
    exact rep.freeSpace
  · rw [pageFreeOffset, same.readU32_eq (by omega) (by omega)]
    exact rep.freeOffset
  · refine rep.slots.congr (same.mono ?_ ?_) ?_
    · rw [slotAddress_eq]
      omega
    · rw [slotAddress_eq]
      omega
    · intro j offset record at_j
      have := PageView.live_bounds at_j
      exact same.mono (by omega) (by omega)
  · intro a lower upper
    rw [same a (by omega) (by omega), rep.gap a lower upper]
  · intro used
    have := PageView.totalSize_ge used
    rw [same _ (by omega) (by omega), rep.lowest used]

/-! ### Slots and records of a represented page -/

section Represented

variable {m : Mem} {page : Nat} {view : PageView}

/-- A slot that is not empty stands for a live record. -/
theorem PageRep.slot_live (rep : PageRep m page view) {i : Nat}
    (bound : i < pageNumSlots m page) (present : pageSlot m page i ≠ dmsSlotEmpty) :
    ∃ record, view.slots[i]? = some (.live (pageSlot m page i) record) := by
  have inSlots : i < view.slots.length := rep.numSlots ▸ bound
  have at_i := List.getElem?_eq_getElem inSlots
  have slot := rep.slot at_i
  cases shape : view.slots[i] with
  | dropped size =>
      rw [shape] at slot
      exact absurd slot present
  | live offset record =>
      rw [shape] at slot at_i
      refine ⟨record, ?_⟩
      rw [at_i, slot.1]

/-- The slot of a live record is not empty. -/
theorem PageRep.live_present (rep : PageRep m page view) {i offset : Nat} {record : BsonObj}
    (at_i : view.slots[i]? = some (.live offset record)) :
    pageSlot m page i = offset ∧ offset ≠ dmsSlotEmpty := by
  have upper := (PageView.live_bounds at_i).2.2
  refine ⟨(rep.slot at_i).1, ?_⟩
  simp only [dmsSlotEmpty]
  omega

/-- What the words of a live slot's record header say. -/
theorem PageRep.record (rep : PageRep m page view) {i offset : Nat} {record : BsonObj}
    (at_i : view.slots[i]? = some (.live offset record)) :
    recordSizeAt m (page + offset) = recordSize record ∧
      recordFlagAt m (page + offset) = dmsRecordFlagNormal ∧
      readU32 m (page + offset + 8) = record.objsize := by
  obtain ⟨size, flag, body⟩ := recordBytes_fields (rep.slot at_i).2
  have ge := record.objsize_ge
  have word := readU32_eq_ofBytes (i := 0) body (by omega)
  rw [Nat.add_zero, record.size_eq] at word
  exact ⟨size, flag, word⟩

/-- The room of a slot is that of its live record. -/
theorem PageRep.slotRoom (rep : PageRep m page view) {i : Nat} {slot : SlotView}
    (at_i : view.slots[i]? = some slot) : slotRoom m page i = slot.liveSize := by
  cases slot with
  | dropped size => exact slotRoom_empty (rep.slot at_i)
  | live offset record =>
      obtain ⟨word, present⟩ := rep.live_present at_i
      have live : pageSlot m page i ≠ dmsSlotEmpty := by
        rw [word]
        exact present
      rw [slotRoom_live live, word]
      exact (rep.record at_i).1

/-- The sizes of the first records add up to the room of the first live slots. -/
theorem PageRep.roomBefore (rep : PageRep m page view) {i : Nat} (bound : i ≤ view.slots.length) :
    roomBefore m page i = liveSize (view.slots.take i) := by
  induction i with
  | zero => rfl
  | succ i ih =>
      have at_i := List.getElem?_eq_getElem (Nat.lt_of_succ_le bound)
      rw [roomBefore_succ, ih (Nat.le_of_succ_le bound), rep.slotRoom at_i,
        List.take_succ_eq_append_getElem (Nat.lt_of_succ_le bound), liveSize_append, liveSize_cons,
        liveSize_nil, Nat.add_zero]

/-- The record of a later slot lies below that of an earlier one. -/
theorem PageRep.below_of_lt (rep : PageRep m page view) {i j : Nat} (before : i < j)
    (bound : j < pageNumSlots m page) (liveI : pageSlot m page i ≠ dmsSlotEmpty)
    (liveJ : pageSlot m page j ≠ dmsSlotEmpty) :
    pageSlot m page j + recordSizeAt m (page + pageSlot m page j) ≤ pageSlot m page i := by
  obtain ⟨record, at_i⟩ := rep.slot_live (Nat.lt_trans before bound) liveI
  obtain ⟨record', at_j⟩ := rep.slot_live bound liveJ
  rw [(rep.record at_j).1]
  exact view.descending.below_of_lt before at_i at_j

theorem PageRep.recordsInOrder (rep : PageRep m page view) : RecordsInOrder m page := by
  obtain ⟨slotEnd, free, below, -⟩ := view.numbers
  have length := rep.numSlots
  have headed : ∀ i, i < pageNumSlots m page → pageSlot m page i ≠ dmsSlotEmpty →
      sizeofDmsRecord ≤ recordSizeAt m (page + pageSlot m page i) := by
    intro i bound live
    obtain ⟨record, at_i⟩ := rep.slot_live bound live
    rw [(rep.record at_i).1]
    exact Nat.le_trans (by decide) (recordSize_ge record)
  constructor
  · intro i bound live
    obtain ⟨record, at_i⟩ := rep.slot_live bound live
    have bounds := PageView.live_bounds at_i
    simp only [sizeofDmsPageHeader, sizeofSlot]
    omega
  · exact headed
  · intro i bound live
    obtain ⟨record, at_i⟩ := rep.slot_live bound live
    rw [(rep.record at_i).1]
    exact (PageView.live_bounds at_i).2.2
  · intro i j before bound liveI liveJ
    have lower := rep.below_of_lt before bound liveI liveJ
    have sized := headed j bound liveJ
    simp only [sizeofDmsRecord] at sized
    omega
  · exact fun i j before bound liveI liveJ => .inl (rep.below_of_lt before bound liveI liveJ)

theorem PageRep.packedFront (rep : PageRep m page view) : PackedFront m page := by
  intro j bound allLive
  have inSlots : j < view.slots.length := rep.numSlots ▸ bound
  obtain ⟨record, at_j⟩ := rep.slot_live bound (allLive j (Nat.le_refl j))
  rw [rep.roomBefore inSlots]
  apply view.packed.place at_j
  intro i before size dropped
  exact allLive i before (rep.slot dropped)

end Represented

/-! ### Compaction of a represented page -/

section Compaction

variable {m : Mem} {page : Nat} {view : PageView} {state : RecoverState}

/-- Only the slot array and the room of the live records change. -/
theorem PageRep.frame (rep : PageRep m page view)
    (passed : Passed m page (pageNumSlots m page) state) :
    PageFrame page view.slotOffset (4194304 - liveSize view.slots) m state.memory := by
  obtain ⟨slotEnd, free, below, -⟩ := view.numbers
  have live := liveSize_le_totalSize view.slots
  have room := rep.roomBefore (Nat.le_refl view.slots.length)
  rw [List.take_length] at room
  intro a outside
  have unchanged := passed.outside a
  rw [rep.numSlots, room] at unchanged
  simp only [dmsPageSize] at unchanged
  apply unchanged
  · omega
  · omega

/-- The slots stand for the repacked slots. -/
theorem PageRep.repacked (rep : PageRep m page view)
    (passed : Passed m page (pageNumSlots m page) state) :
    SlotsRep state.memory page 0 (repackFrom 4194304 view.slots) := by
  intro j slot at_j
  rw [Nat.zero_add]
  have inRepacked := (List.getElem?_eq_some_iff.mp at_j).1
  have inSlots : j < view.slots.length := by rwa [repackFrom_length] at inRepacked
  have bound : j < pageNumSlots m page := by rwa [rep.numSlots]
  have before := List.getElem?_eq_getElem inSlots
  cases shape : view.slots[j] with
  | dropped size =>
      rw [shape] at before
      rw [(repackFrom_getElem? 4194304 j view.slots).2 before] at at_j
      obtain rfl := Option.some.inj at_j
      exact passed.empty j bound (rep.slot before)
  | live offset record =>
      rw [shape] at before
      rw [repackFrom_place before] at at_j
      obtain rfl := Option.some.inj at_j
      obtain ⟨word, present⟩ := rep.live_present before
      have live : pageSlot m page j ≠ dmsSlotEmpty := by rwa [word]
      have moved := passed.slot j bound live
      have kept := passed.record j bound live
      rw [rep.slotRoom before, word] at kept
      rw [rep.roomBefore inSlots] at moved kept
      exact ⟨moved, kept.trans (rep.slot before).2⟩

/-- Without a dropped slot there is nothing to repack. -/
theorem PageRep.recoverSpace_of_noHole (rep : PageRep m page view)
    (noHole : ∀ size, SlotView.dropped size ∉ view.slots) : recoverSpace m page = m := by
  apply recoverSpace_of_allPacked
  intro j bound _
  apply rep.packedFront j bound
  intro i before
  have inSlots : i < view.slots.length := rep.numSlots ▸ Nat.lt_of_le_of_lt before bound
  have at_i := List.getElem?_eq_getElem inSlots
  cases shape : view.slots[i] with
  | dropped size => exact absurd (shape ▸ List.getElem_mem inSlots) (noHole size)
  | live offset record =>
      rw [shape] at at_i
      obtain ⟨word, present⟩ := rep.live_present at_i
      rwa [word]

end Compaction

/-- `_recoverSpace` repacks the page: slot array, records and free area change
as `PageView.repack` says, the header and every other page not at all. -/
theorem recoverSpace_refines {m : Mem} {page : Nat} {view : PageView}
    (rep : PageRep m page view) :
    PageRep (recoverSpace m page) page view.repack ∧
      SameOn page (page + 28) m (recoverSpace m page) ∧
      ∀ lo hi, hi ≤ page ∨ page + 4194304 ≤ lo →
        SameOn lo hi m (recoverSpace m page) := by
  obtain ⟨slotEnd, free, below, space⟩ := view.numbers
  have live := liveSize_le_totalSize view.slots
  obtain ⟨state, memory, passed⟩ := recoverSpace_passed rep.recordsInOrder rep.packedFront
  have slots := rep.repacked passed
  have frame := rep.frame passed
  rw [memory] at slots frame
  have header := frame.header
  refine ⟨⟨?_, ?_, ?_, ?_, ?_, slots, ?_, ?_⟩, header, fun lo hi => frame.sameOn⟩
  · rw [header.readBytes_eq (by omega) (by omega), rep.eyeCatcher]
  · rw [pageNumSlots, header.readU32_eq (by omega) (by omega),
      PageView.repack_slots, repackFrom_length]
    exact rep.numSlots
  · rw [pageSlotOffset, header.readU32_eq (by omega) (by omega),
      PageView.repack_slotOffset]
    exact rep.slotOffset
  · rw [pageFreeSpace, header.readU32_eq (by omega) (by omega),
      PageView.repack_freeSpace]
    exact rep.freeSpace
  · rw [pageFreeOffset, header.readU32_eq (by omega) (by omega),
      PageView.repack_freeOffset]
    exact rep.freeOffset
  · intro a lower upper
    rw [PageView.repack_slotOffset] at lower
    rw [PageView.repack_freeOffset] at upper
    rw [frame a (by omega), rep.gap a lower upper]
  · intro used
    have usedBefore : view.slots ≠ [] := by
      intro nil
      simp [nil, repackFrom] at used
    have lowest := rep.lowest usedBefore
    rw [PageView.repack_freeOffset]
    by_cases hole : ∃ size, SlotView.dropped size ∈ view.slots
    · -- the records end up above the room of the dropped ones
      obtain ⟨size, member⟩ := hole
      have room := liveSize_add_dropped_le member
      have sizeGe := view.droppedSize size member
      rw [frame _ (by omega), lowest]
    · rw [rep.recoverSpace_of_noHole fun size member => hole ⟨size, member⟩, lowest]

end EmeraldDb
