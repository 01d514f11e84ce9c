/-
Module: EmeraldDb.Proofs.PageUpdate
Purpose: The stores of insert, remove and _extendSegment inside one page:
  storing a record, dropping a record and copying the fresh page header each
  refine the abstract change of the page and touch nothing outside it.
Trusted boundary: none
Main exports: noRoom_iff, insertPage_refines, removePage_refines,
  freshPage_refines
-/
import EmeraldDb.Dms.DmsFile
import EmeraldDb.Proofs.PageRefinement

namespace EmeraldDb

open ByteMemory SlotView
open DmsFile (noRoom recordOffset storeRecord advanceHeader initPages)

/-- Nothing outside the page at `page` differs. -/
def OnlyPage (page : Nat) (m m' : Mem) : Prop :=
  ∀ a, a < page ∨ page + 4194304 ≤ a → m' a = m a

theorem OnlyPage.sameOn {page lo hi : Nat} {m m' : Mem} (only : OnlyPage page m m')
    (outside : hi ≤ page ∨ page + 4194304 ≤ lo) : SameOn lo hi m m' :=
  fun a _ _ => only a (by omega)

/-! ### What insert reads from the header -/

/-- The gap between the slot array and the records, as the code computes it. -/
theorem PageRep.gap_eq {m : Mem} {page : Nat} {view : PageView}
    (rep : PageRep m page view) :
    toU32 ((pageFreeOffset m page : Int) - pageSlotOffset m page) =
      view.freeOffset - view.slotOffset := by
  obtain ⟨slotEnd, free, below, space⟩ := view.numbers
  rw [rep.freeOffset, rep.slotOffset]
  unfold toU32
  omega

/-- The free space counts the gap and the holes. -/
theorem PageView.gap_le_freeSpace (view : PageView) :
    view.freeOffset - view.slotOffset ≤ view.freeSpace := by
  obtain ⟨slotEnd, free, below, space⟩ := view.numbers
  have := liveSize_le_totalSize view.slots
  omega

/-- The `EDB_SYS` exit is taken exactly when the gap is too small for the record,
its header and its slot; holes do not count. -/
theorem noRoom_iff {m : Mem} {page size : Nat} {view : PageView}
    (rep : PageRep m page view) :
    noRoom m page size = true ↔ view.freeOffset < view.slotOffset + 4 + (size + 8) := by
  have gap := rep.gap_eq
  have le := view.gap_le_freeSpace
  have below := view.numbers.2.2.1
  unfold noRoom
  rw [gap, rep.freeSpace]
  simp only [Bool.or_eq_true, decide_eq_true_eq]
  simp only [sizeofDmsRecord, sizeofSlot]
  omega

theorem recordOffset_eq {m : Mem} {page : Nat} {view : PageView} {record : BsonObj}
    (rep : PageRep m page view)
    (fits : view.Fits record) :
    recordOffset m page record.objsize = view.freeOffset - recordSize record := by
  obtain ⟨slotEnd, free, below, space⟩ := view.numbers
  have size : recordSize record = record.objsize + 8 := rfl
  rw [recordOffset, rep.freeOffset]
  simp only [sizeofDmsRecord, toU32]
  omega

/-! ### insert -/

/-- The slot word and one byte string holding the record. -/
theorem storeRecord_eq {m : Mem} {page : Nat} {view : PageView} {record : BsonObj}
    (rep : PageRep m page view)
    (fits : view.Fits record) :
    storeRecord m page record =
      writeBytes
        (writeU32 m (page + view.slotOffset) (view.freeOffset - recordSize record))
        (page + (view.freeOffset - recordSize record)) (recordBytes record) := by
  have slotEnd := view.numbers.1
  have address : slotAddress page (pageNumSlots m page) = page + view.slotOffset := by
    rw [slotAddress_eq, rep.numSlots]
    omega
  unfold storeRecord
  simp only [recordOffset_eq rep fits, address]
  exact writeBytes_append _ _
    (u32Bytes (record.objsize + sizeofDmsRecord) ++ u32Bytes dmsRecordFlagNormal) _

/-- Storing a record touches the next slot and the room right under the records. -/
theorem storeRecord_outside {m : Mem} {page a : Nat} {view : PageView}
    {record : BsonObj} (rep : PageRep m page view)
    (fits : view.Fits record)
    (offSlot : a < page + view.slotOffset ∨ page + view.slotOffset + 4 ≤ a)
    (offRecord : a < page + (view.freeOffset - recordSize record) ∨
      page + view.freeOffset ≤ a) :
    storeRecord m page record a = m a := by
  rw [storeRecord_eq rep fits, writeBytes_outside (by rw [recordBytes_length]; omega),
    writeU32, writeBytes_outside (by rw [u32Bytes_length]; omega)]

/-- The next slot then stands for the record. -/
theorem storeRecord_slot {m : Mem} {page : Nat} {view : PageView} {record : BsonObj}
    (rep : PageRep m page view)
    (fits : view.Fits record) :
    SlotRep (storeRecord m page record) page view.slots.length
      (.live (view.freeOffset - recordSize record) record) := by
  obtain ⟨slotEnd, free, below, space⟩ := view.numbers
  have address : slotAddress page view.slots.length = page + view.slotOffset := by
    rw [slotAddress_eq]
    omega
  rw [storeRecord_eq rep fits]
  constructor
  · have apart : SameOn (page + view.slotOffset) (page + view.slotOffset + 4)
        (writeU32 m (page + view.slotOffset) (view.freeOffset - recordSize record))
        (writeBytes
          (writeU32 m (page + view.slotOffset) (view.freeOffset - recordSize record))
          (page + (view.freeOffset - recordSize record)) (recordBytes record)) :=
      sameOn_writeBytes (Or.inl (by omega))
    rw [pageSlot, address, readU32_congr apart, readU32_writeU32_self]
    omega
  · have stored := readBytes_writeBytes_self
      (writeU32 m (page + view.slotOffset) (view.freeOffset - recordSize record))
      (page + (view.freeOffset - recordSize record)) (recordBytes record)
    rwa [recordBytes_length] at stored

/-- The body of a stored record opens with the size of the object. -/
theorem SlotRep.objsize {m : Mem} {page i offset : Nat} {record : BsonObj}
    (rep : SlotRep m page i (.live offset record)) :
    toI32 (readU32 m (page + offset + 8)) = record.objsize ∧
      bsonIsValid (toI32 (readU32 m (page + offset + 8))) = true := by
  have body := (recordBytes_fields rep.2).2.2
  have ge := record.objsize_ge
  have le := record.objsize_le
  have word := readU32_eq_ofBytes (i := 0) body (by omega)
  rw [Nat.add_zero, record.size_eq] at word
  have signed : toI32 (readU32 m (page + offset + 8)) = record.objsize := by
    rw [word]
    exact toI32_of_lt (by omega) (by unfold BsonObj.objsize at *; omega)
  refine ⟨signed, ?_⟩
  rw [signed]
  unfold bsonIsValid bsonObjMaxInternalSize
  simp only [Bool.and_eq_true, decide_eq_true_eq]
  omega

/-- The header stores of `insert` stay inside the four last header words. -/
theorem advanceHeader_outside {m : Mem} {page offset a : Nat}
    (outside : a < page + 12 ∨ page + 28 ≤ a) :
    advanceHeader m page offset a = m a := by
  unfold advanceHeader
  rw [writeU32, writeBytes_outside (by rw [u32Bytes_length]; omega),
    writeU32, writeBytes_outside (by rw [u32Bytes_length]; omega),
    writeU32, writeBytes_outside (by rw [u32Bytes_length]; omega)]

/-- What the four header words read after the header stores. -/
theorem advanceHeader_fields {m : Mem} {page offset : Nat}
    (offsetSmall : offset < 4294967296)
    (slotsSmall : pageNumSlots m page + 1 < 4294967296)
    (endSmall : pageSlotOffset m page + 4 < 4294967296) :
    pageNumSlots (advanceHeader m page offset) page = pageNumSlots m page + 1 ∧
      pageSlotOffset (advanceHeader m page offset) page = pageSlotOffset m page + 4 ∧
      pageFreeOffset (advanceHeader m page offset) page = offset := by
  have slotOffsetKept : pageSlotOffset (writeU32 m (page + 12)
      (pageNumSlots m page + 1)) page = pageSlotOffset m page :=
    readU32_writeU32_of_disjoint (by omega)
  unfold advanceHeader
  simp only [slotOffsetKept, sizeofSlot]
  refine ⟨?_, ?_, ?_⟩
  · unfold pageNumSlots at *
    rw [readU32_writeU32_of_disjoint (by omega),
      readU32_writeU32_of_disjoint (by omega), readU32_writeU32_self]
    omega
  · unfold pageSlotOffset at *
    rw [readU32_writeU32_of_disjoint (by omega), readU32_writeU32_self]
    omega
  · unfold pageFreeOffset
    rw [readU32_writeU32_self]
    omega

/-- `_freeSpace` is not among them. -/
theorem advanceHeader_freeSpace (m : Mem) (page offset : Nat) :
    pageFreeSpace (advanceHeader m page offset) page = pageFreeSpace m page := by
  unfold advanceHeader pageFreeSpace
  rw [readU32_writeU32_of_disjoint (by omega), readU32_writeU32_of_disjoint (by omega),
    readU32_writeU32_of_disjoint (by omega)]

/-- The page after all stores of a successful `insert`. -/
def insertedPage (m : Mem) (page : Nat) (record : BsonObj) (freeSpace : Nat) : Mem :=
  writeU32 (advanceHeader (storeRecord m page record) page
    (recordOffset m page record.objsize)) (page + 20) freeSpace

/-- All stores of `insert` lie in the header words behind the eye catcher, the next slot and
the room right under the records. -/
theorem insertedPage_outside {m : Mem} {page freeSpace a : Nat} {view : PageView}
    {record : BsonObj} (rep : PageRep m page view) (fits : view.Fits record)
    (offHeader : a < page + 12 ∨ page + 28 ≤ a)
    (offSlot : a < page + view.slotOffset ∨ page + view.slotOffset + 4 ≤ a)
    (offRecord : a < page + (view.freeOffset - recordSize record) ∨
      page + view.freeOffset ≤ a) :
    insertedPage m page record freeSpace a = m a := by
  rw [insertedPage, writeU32, writeBytes_outside (by rw [u32Bytes_length]; omega),
    advanceHeader_outside offHeader, storeRecord_outside rep fits offSlot offRecord]

/-- Behind the header `insert` stores the record and nothing else. -/
theorem insertedPage_behind {m : Mem} {page freeSpace a : Nat} {record : BsonObj}
    (behind : page + 28 ≤ a) :
    insertedPage m page record freeSpace a = storeRecord m page record a := by
  rw [insertedPage, writeU32, writeBytes_outside (by rw [u32Bytes_length]; omega),
    advanceHeader_outside (Or.inr behind)]

/-- What `insert` still reads from the header while it stores. -/
theorem storeRecord_reads {m : Mem} {page : Nat} {view : PageView} {record : BsonObj}
    (rep : PageRep m page view)
    (fits : view.Fits record) :
    pageNumSlots (storeRecord m page record) page = view.slots.length ∧
      pageSlotOffset (storeRecord m page record) page = view.slotOffset ∧
      pageFreeSpace (storeRecord m page record) page = view.freeSpace := by
  obtain ⟨slotEnd, free, below, space⟩ := view.numbers
  have header : SameOn page (page + 28) m (storeRecord m page record) :=
    fun a _ _ => storeRecord_outside rep fits (by omega) (by omega)
  refine ⟨?_, ?_, ?_⟩
  · exact (header.readU32_eq (by omega) (by omega)).trans rep.numSlots
  · exact (header.readU32_eq (by omega) (by omega)).trans rep.slotOffset
  · exact (header.readU32_eq (by omega) (by omega)).trans rep.freeSpace

/-- `insert` adds the record to the abstract page. -/
theorem insertPage_refines {m : Mem} {page : Nat} {view : PageView} {record : BsonObj}
    (rep : PageRep m page view)
    (fits : view.Fits record) :
    PageRep (insertedPage m page record (view.add record fits).freeSpace) page
        (view.add record fits) ∧
      OnlyPage page m
        (insertedPage m page record (view.add record fits).freeSpace) := by
  obtain ⟨slotEnd, free, below, space⟩ := view.numbers
  obtain ⟨slotEnd', -, -, space'⟩ := (view.add record fits).numbers
  have ge := recordSize_ge record
  have newSlots : (view.add record fits).slots.length = view.slots.length + 1 := by
    simp
  have newFree : (view.add record fits).freeOffset =
      view.freeOffset - recordSize record := by
    simp only [PageView.freeOffset, PageView.add_slots, totalSize_append,
      totalSize_cons, totalSize_nil, SlotView.size, dmsPageSize]
    omega
  obtain ⟨numSlots, slotOffset, freeSpace⟩ := storeRecord_reads rep fits
  have offsetSmall : recordOffset m page record.objsize < 4294967296 := by
    rw [recordOffset_eq rep fits]
    omega
  have fields := advanceHeader_fields offsetSmall
    (Nat.lt_of_le_of_lt (Nat.succ_le_succ (Nat.le_of_eq numSlots)) (by omega))
    (Nat.lt_of_le_of_lt (Nat.add_le_add_right (Nat.le_of_eq slotOffset) 4) (by omega))
  rw [numSlots, slotOffset, recordOffset_eq rep fits] at fields
  obtain ⟨fieldSlots, fieldEnd, fieldFree⟩ := fields
  have stored : SameOn (page + 28) (page + 4194304) (storeRecord m page record)
      (insertedPage m page record (view.add record fits).freeSpace) :=
    fun a lower _ => insertedPage_behind lower
  have whole : OnlyPage page m
      (insertedPage m page record (view.add record fits).freeSpace) :=
    fun a off => insertedPage_outside rep fits (by omega) (by omega) (by omega)
  refine ⟨⟨?_, ?_, ?_, ?_, ?_, ?_, ?_, ?_⟩, whole⟩
  · have front : SameOn page (page + 4) m
        (insertedPage m page record (view.add record fits).freeSpace) :=
      fun a _ _ => insertedPage_outside rep fits (by omega) (by omega) (by omega)
    rw [readBytes_congr front, rep.eyeCatcher]
  · rw [newSlots, pageNumSlots, insertedPage, recordOffset_eq rep fits,
      readU32_writeU32_of_disjoint (by omega)]
    exact fieldSlots
  · rw [slotEnd', newSlots, pageSlotOffset, insertedPage, recordOffset_eq rep fits,
      readU32_writeU32_of_disjoint (by omega)]
    exact fieldEnd.trans (by omega)
  · rw [pageFreeSpace, insertedPage, readU32_writeU32_self]
    omega
  · rw [newFree, pageFreeOffset, insertedPage, recordOffset_eq rep fits,
      readU32_writeU32_of_disjoint (by omega)]
    exact fieldFree
  · rw [PageView.add_slots]
    apply SlotsRep.append_singleton (rep.slots.congr _ _)
    · rw [Nat.zero_add]
      refine (storeRecord_slot rep fits).congr (stored.mono ?_ ?_) ?_
      · rw [slotAddress_eq]
        omega
      · rw [slotAddress_eq]
        omega
      · intro offset r same
        obtain ⟨rfl, rfl⟩ : view.freeOffset - recordSize record = offset ∧ record = r := by
          simpa using same
        exact stored.mono (by omega) (by omega)
    · intro a lower upper
      rw [slotAddress_eq] at lower upper
      exact insertedPage_outside rep fits (by omega) (by omega) (by omega)
    · intro j offset old at_j a lower upper
      have bounds := PageView.live_bounds at_j
      exact insertedPage_outside rep fits (by omega) (by omega) (by omega)
  · intro a lower upper
    rw [insertedPage_outside rep fits (by omega) (by omega) (by omega)]
    exact rep.gap a (by omega) (by omega)
  · intro _
    -- the top byte of the size word: what fits a page is smaller than 2^24 bytes
    rw [newFree, insertedPage_behind (by omega), storeRecord_eq rep fits,
      writeBytes_inside (by rw [recordBytes_length]; omega)]
    have top : recordSize record / 16777216 = 0 := by omega
    exact congrArg UInt8.ofNat top

/-! ### remove -/

/-- The page after `remove` emptied slot `i` and flagged its record. -/
def droppedPage (m : Mem) (page i offset : Nat) : Mem :=
  writeU32 (writeU32 m (slotAddress page i) dmsSlotEmpty) (page + offset + 4)
    dmsRecordFlagDropped

/-- The page after all stores of a successful `remove`. -/
def removedPage (m : Mem) (page i offset freeSpace : Nat) : Mem :=
  writeU32 (droppedPage m page i offset) (page + 20) freeSpace

theorem droppedPage_outside {m : Mem} {page i offset a : Nat}
    (offSlot : a < slotAddress page i ∨ slotAddress page i + 4 ≤ a)
    (offFlag : a < page + offset + 4 ∨ page + offset + 8 ≤ a) :
    droppedPage m page i offset a = m a := by
  rw [droppedPage, writeU32, writeBytes_outside (by rw [u32Bytes_length]; omega),
    writeU32, writeBytes_outside (by rw [u32Bytes_length]; omega)]

/-- What `remove` still reads after it emptied the slot. -/
theorem droppedPage_reads {m : Mem} {page i offset : Nat} {view : PageView}
    {record : BsonObj} (rep : PageRep m page view)
    (at_i : view.slots[i]? = some (.live offset record)) :
    recordSizeAt (droppedPage m page i offset) (page + offset) = recordSize record ∧
      pageFreeSpace (droppedPage m page i offset) page = view.freeSpace := by
  obtain ⟨bound, lower, upper⟩ := PageView.live_bounds at_i
  obtain ⟨slotEnd, free, below, space⟩ := view.numbers
  have address := slotAddress_eq page i
  constructor
  · have front : SameOn (page + offset) (page + offset + 4) m
        (droppedPage m page i offset) :=
      fun a _ _ => droppedPage_outside (by omega) (by omega)
    rw [recordSizeAt, readU32_congr front]
    exact (recordBytes_fields (rep.slot at_i).2).1
  · have header : SameOn page (page + 28) m (droppedPage m page i offset) :=
      fun a _ _ => droppedPage_outside (by omega) (by omega)
    rw [pageFreeSpace, header.readU32_eq (by omega) (by omega)]
    exact rep.freeSpace

/-- `remove` drops the record of a live slot from the abstract page. -/
theorem removePage_refines {m : Mem} {page i offset : Nat} {view : PageView}
    {record : BsonObj} (rep : PageRep m page view)
    (at_i : view.slots[i]? = some (.live offset record)) :
    PageRep (removedPage m page i offset (view.drop at_i).freeSpace) page
        (view.drop at_i) ∧
      OnlyPage page m (removedPage m page i offset (view.drop at_i).freeSpace) := by
  obtain ⟨bound, lower, upper⟩ := PageView.live_bounds at_i
  obtain ⟨slotEnd, free, below, space⟩ := view.numbers
  obtain ⟨slotEnd', -, -, space'⟩ := (view.drop at_i).numbers
  obtain ⟨total, live⟩ := drop_sizes at_i
  have ge := recordSize_ge record
  have address := slotAddress_eq page i
  have sameSlots : (view.drop at_i).slots.length = view.slots.length := by
    simp
  have sameEnd : (view.drop at_i).slotOffset = view.slotOffset := by
    rw [slotEnd', sameSlots, slotEnd]
  have sameFree : (view.drop at_i).freeOffset = view.freeOffset := by
    simp only [PageView.freeOffset, PageView.drop_slots, total]
  -- what a store can reach: the slot, the flag of the record, `_freeSpace`
  have outside : ∀ a, (a < page + 20 ∨ page + 24 ≤ a) →
      (a < page + 28 + 4 * i ∨ page + 28 + 4 * i + 4 ≤ a) →
      (a < page + offset + 4 ∨ page + offset + 8 ≤ a) →
        removedPage m page i offset (view.drop at_i).freeSpace a = m a := by
    intro a offSpace offSlot offFlag
    rw [removedPage, writeU32, writeBytes_outside (by rw [u32Bytes_length]; omega),
      droppedPage_outside (by omega) offFlag]
  have whole : OnlyPage page m
      (removedPage m page i offset (view.drop at_i).freeSpace) :=
    fun a off => outside a (by omega) (by omega) (by omega)
  have front : SameOn page (page + 20) m
      (removedPage m page i offset (view.drop at_i).freeSpace) :=
    fun a _ _ => outside a (by omega) (by omega) (by omega)
  have back : SameOn (page + 24) (page + 28) m
      (removedPage m page i offset (view.drop at_i).freeSpace) :=
    fun a _ _ => outside a (by omega) (by omega) (by omega)
  refine ⟨⟨?_, ?_, ?_, ?_, ?_, ?_, ?_, ?_⟩, whole⟩
  · rw [front.readBytes_eq (by omega) (by omega), rep.eyeCatcher]
  · rw [sameSlots, pageNumSlots, front.readU32_eq (by omega) (by omega)]
    exact rep.numSlots
  · rw [sameEnd, pageSlotOffset, front.readU32_eq (by omega) (by omega)]
    exact rep.slotOffset
  · rw [pageFreeSpace, removedPage, readU32_writeU32_self]
    omega
  · rw [sameFree, pageFreeOffset, back.readU32_eq (by omega) (by omega)]
    exact rep.freeOffset
  · intro j slot at_j
    rw [Nat.zero_add]
    rw [PageView.drop_slots] at at_j
    by_cases here : j = i
    · subst here
      rw [List.getElem?_set_self bound] at at_j
      obtain rfl := Option.some.inj at_j
      -- the later stores lie off the slot word
      have kept : SameOn (slotAddress page j) (slotAddress page j + 4)
          (writeU32 m (slotAddress page j) dmsSlotEmpty)
          (removedPage m page j offset (view.drop at_i).freeSpace) := by
        intro a inLower inUpper
        rw [removedPage, writeU32, writeBytes_outside (by rw [u32Bytes_length]; omega),
          droppedPage, writeU32, writeBytes_outside (by rw [u32Bytes_length]; omega)]
      exact (readU32_congr kept).trans (readU32_writeU32_self m _ _)
    · rw [List.getElem?_set_ne (by omega)] at at_j
      have early := (List.getElem?_eq_some_iff.mp at_j).1
      refine (rep.slot at_j).congr ?_ ?_
      · intro a inLower inUpper
        rw [slotAddress_eq] at inLower inUpper
        exact outside a (by omega) (by omega) (by omega)
      · rintro other r rfl a inLower inUpper
        have bounds := PageView.live_bounds at_j
        have apart : other + recordSize r ≤ offset ∨ offset + recordSize record ≤ other := by
          rcases Nat.lt_or_gt_of_ne here with before | behind
          · exact Or.inr (view.descending.below_of_lt before at_j at_i)
          · exact Or.inl (view.descending.below_of_lt behind at_i at_j)
        exact outside a (by omega) (by omega) (by omega)
  · intro a inLower inUpper
    rw [outside a (by omega) (by omega) (by omega)]
    exact rep.gap a (by omega) (by omega)
  · intro _
    have used : view.slots ≠ [] := by
      intro nil
      simp [nil] at bound
    rw [sameFree, outside _ (by omega) (by omega) (by omega), rep.lowest used]

/-! ### Fresh pages -/

/-- A zeroed page with the header `_extendSegment` copies is the empty page. -/
theorem freshPage_refines {m : Mem} {page : Nat}
    (header : readBytes m page 28 = pageHeaderBytes)
    (zero : ∀ a, page + 28 ≤ a → a < page + 4194304 → m a = 0) :
    PageRep m page .empty := by
  have word : ∀ i, i + 4 ≤ 28 →
      readU32 m (page + i) = readU32 (ofBytes pageHeaderBytes) i :=
    fun i bound => readU32_eq_ofBytes header bound
  refine ⟨?_, ?_, ?_, ?_, ?_, ?_, ?_, ?_⟩
  · have split := readBytes_append m page 4 24
    rw [header] at split
    have spelled : pageHeaderBytes = dmsPageEyeCatcher ++ pageHeaderBytes.drop 4 := rfl
    exact List.append_inj_left (split.symm.trans spelled) rfl
  · exact (word 12 (by omega)).trans (by decide)
  · exact (word 16 (by omega)).trans (by decide)
  · exact (word 20 (by omega)).trans (by decide)
  · exact (word 24 (by omega)).trans (by decide)
  · intro j slot at_j
    simp at at_j
  · intro a lower upper
    exact zero a lower upper
  · intro used
    exact absurd rfl used

/-- Copying headers touches the first 28 bytes of each page. -/
theorem initPages_outside {data a : Nat} : ∀ {n : Nat} {m : Mem},
    (∀ k, k < n → a < data + 4194304 * k ∨ data + 4194304 * k + 28 ≤ a) →
      initPages data n m a = m a
  | 0, _, _ => rfl
  | n + 1, m, outside => by
      have last := outside n (by omega)
      rw [initPages, writeBytes_outside (by
        simp only [dmsPageSize]
        exact last)]
      exact initPages_outside fun k bound => outside k (by omega)

/-- Every page of a zeroed region then carries the header. -/
theorem initPages_header {data k : Nat} : ∀ {n : Nat} {m : Mem}, k < n →
    readBytes (initPages data n m) (data + 4194304 * k) 28 = pageHeaderBytes
  | n + 1, m, bound => by
      rw [initPages]
      by_cases last : k = n
      · subst last
        exact readBytes_writeBytes_self _ _ _
      · have apart : SameOn (data + 4194304 * k) (data + 4194304 * k + 28)
            (initPages data n m)
            (writeBytes (initPages data n m) (data + dmsPageSize * n) pageHeaderBytes) := by
          apply sameOn_writeBytes
          simp only [dmsPageSize]
          omega
        rw [readBytes_congr apart]
        exact initPages_header (by omega)

/-- All pages of a new segment are empty pages. -/
theorem initPages_refines {data n k : Nat} {m : Mem} (bound : k < n)
    (zero : ∀ a, data ≤ a → a < data + 4194304 * n → m a = 0) :
    PageRep (initPages data n m) (data + 4194304 * k) .empty := by
  refine freshPage_refines (initPages_header bound) ?_
  intro a lower upper
  rw [initPages_outside (fun j _ => by omega)]
  exact zero a (by omega) (by omega)

end EmeraldDb
