/-
Module: EmeraldDb.Dms.Page
Purpose: The page layout of dms.hpp and the functions of dmsFile that work
  inside one page: slot and header access, the fresh page header, and the
  compaction loop of _recoverSpace.
Trusted boundary: human-reviewed spec
Main exports: pageNumSlots, pageSlot, pageHeaderBytes, recoverSpace
-/
import EmeraldDb.Bson.Object
import EmeraldDb.Oss.MmapFile

namespace EmeraldDb

open ByteMemory

/-! ### Constants of dms.hpp -/

@[simp] def dmsExtendSize : Nat := 65536
@[simp] def dmsPageSize : Nat := 4194304
@[simp] def dmsFileSegmentSize : Nat := 134217728
@[simp] def dmsFileHeaderSize : Nat := 65536
@[simp] def dmsPagesPerSegment : Nat := 32

/-- `sizeof(dmsHeader)`: eye catcher, `_size`, `_flag`, `_version`. -/
@[simp] def sizeofDmsHeader : Nat := 16
/-- `sizeof(dmsPageHeader)`: eye catcher and six words. -/
@[simp] def sizeofDmsPageHeader : Nat := 28
/-- `sizeof(dmsRecord)`: `_size` and `_flag`. -/
@[simp] def sizeofDmsRecord : Nat := 8
/-- `sizeof(SLOTOFF)` and `sizeof(SLOTID)`. -/
@[simp] def sizeofSlot : Nat := 4

/-- `DMS_MAX_RECORD`, which subtracts the file header `dmsHeader`. -/
@[simp] def dmsMaxRecord : Nat :=
  dmsPageSize - sizeofDmsHeader - sizeofDmsRecord - sizeofSlot

@[simp] def dmsInvalidPageId : Nat := 4294967295
@[simp] def dmsSlotEmpty : Nat := 4294967295
@[simp] def dmsRecordFlagNormal : Nat := 0
@[simp] def dmsRecordFlagDropped : Nat := 1

example : dmsFileSegmentSize / dmsPageSize = dmsPagesPerSegment := rfl

/-- `DMS_PAGE_EYECATCHER`, the text `PAGH`. -/
def dmsPageEyeCatcher : List UInt8 := [80, 65, 71, 72]

/-- `DMS_HEADER_EYECATCHER`, the text `DMSH`. -/
def dmsHeaderEyeCatcher : List UInt8 := [68, 77, 83, 72]

/-! ### Fields of a page header

`page` is the address of the page; the fields follow the eye catcher in the
order `_size`, `_flag`, `_numSlots`, `_slotOffset`, `_freeSpace`, `_freeOffset`. -/

def pageNumSlots (m : Mem) (page : Nat) : Nat := readU32 m (page + 12)

def pageSlotOffset (m : Mem) (page : Nat) : Nat := readU32 m (page + 16)

def pageFreeSpace (m : Mem) (page : Nat) : Nat := readU32 m (page + 20)

def pageFreeOffset (m : Mem) (page : Nat) : Nat := readU32 m (page + 24)

/-- The address of slot `i`. -/
def slotAddress (page : Nat) (i : Nat) : Nat :=
  page + sizeofDmsPageHeader + i * sizeofSlot

/-- The word in slot `i`. -/
def pageSlot (m : Mem) (page : Nat) (i : Nat) : Nat :=
  readU32 m (slotAddress page i)

/-- `_size` of the record header at `a`. -/
def recordSizeAt (m : Mem) (a : Nat) : Nat := readU32 m a

/-- `_flag` of the record header at `a`. -/
def recordFlagAt (m : Mem) (a : Nat) : Nat := readU32 m (a + 4)

/-- The page header `_extendSegment` copies to every new page. -/
def pageHeaderBytes : List UInt8 :=
  dmsPageEyeCatcher ++ u32Bytes dmsPageSize ++ u32Bytes 0 ++ u32Bytes 0 ++
    u32Bytes sizeofDmsPageHeader ++ u32Bytes (dmsPageSize - sizeofDmsPageHeader) ++
    u32Bytes dmsPageSize

/-- The record header and body `insert` copies into a page. -/
def recordBytes (record : BsonObj) : List UInt8 :=
  u32Bytes (record.objsize + sizeofDmsRecord) ++ u32Bytes dmsRecordFlagNormal ++
    record.bytes

/-! ### `_recoverSpace` -/

/-- The variables the loop of `_recoverSpace` carries. -/
structure RecoverState where
  memory : Mem
  pRight : Int
  isRecover : Bool

/-- One pass of the loop, for slot `i`.  The size is read into an `int`. -/
def recoverPass (page : Nat) (i : Nat) (state : RecoverState) : RecoverState :=
  let slot := pageSlot state.memory page i
  if dmsSlotEmpty ≠ slot then
    let recordSize := toI32 (recordSizeAt state.memory (page + slot))
    let pRight := state.pRight - recordSize
    if state.isRecover then
      let moved := move state.memory pRight.toNat (page + slot) recordSize.toNat
      { state with
        memory := writeU32 moved (slotAddress page i) (toU32 (pRight - page))
        pRight := pRight }
    else { state with pRight := pRight }
  else { state with isRecover := true }

/-- The loop, with the number of passes left.  A pass stores slots and record
bytes, never `_numSlots`, so the bound is the one read at entry. -/
def recoverLoop (page : Nat) : Nat → Nat → RecoverState → RecoverState
  | 0, _, state => state
  | passes + 1, i, state =>
      recoverLoop page passes (i + 1) (recoverPass page i state)

/-- `_recoverSpace`.  No field of the page header is written. -/
def recoverSpace (m : Mem) (page : Nat) : Mem :=
  (recoverLoop page (pageNumSlots m page) 0
    ⟨m, (page : Int) + dmsPageSize, false⟩).memory

end EmeraldDb
