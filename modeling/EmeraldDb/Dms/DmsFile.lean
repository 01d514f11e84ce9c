/-
Module: EmeraldDb.Dms.DmsFile
Purpose: dmsFile: the in-memory state of an open data file and its operations,
  insert, remove, find, segment extension and loading.
Trusted boundary: human-reviewed spec; system calls answer through arguments
Main exports: DmsFile, DmsRecordId, findPage, updateFreeSpace, extendSegment,
  insert, remove, find, initializeFile, destroy
-/
import Mathlib.Data.Nat.Basic
import EmeraldDb.Lib.Multimap
import EmeraldDb.Oss.Latch
import EmeraldDb.Dms.Page

namespace EmeraldDb

open ByteMemory

/-- `dmsRecordID`. -/
structure DmsRecordId where
  pageId : Nat
  slotId : Nat
deriving DecidableEq, Repr

/-- `dmsFile`.  `body` holds the start of each mapped segment. -/
structure DmsFile extends OssMmapFile where
  header : Option Nat
  body : List Nat
  freeSpaceMap : Multimap Nat Nat
  mutex : OssSLatch
  extendMutex : OssXLatch

namespace DmsFile

/-- The mapped memory: what the file holds. -/
def memory (s : DmsFile) : Mem := s.fileOp.file.bytes

def setMemory (s : DmsFile) (m : Mem) : DmsFile :=
  { s with fileOp.file.bytes := m }

@[simp] theorem setMemory_memory (s : DmsFile) (m : Mem) : (s.setMemory m).memory = m := rfl

@[simp] theorem setMemory_setMemory (s : DmsFile) (m m' : Mem) :
    (s.setMemory m).setMemory m' = s.setMemory m' := rfl

/-- Give the database latch back. -/
def releaseMutex (s : DmsFile) : DmsFile :=
  { s with mutex := s.mutex.release }

def releaseMutexShared (s : DmsFile) : DmsFile :=
  { s with mutex := s.mutex.releaseShared }

def releaseExtendMutex (s : DmsFile) : DmsFile :=
  { s with extendMutex := s.extendMutex.release }

def getNumSegments (s : DmsFile) : Nat := toU32 s.body.length

def getNumPages (s : DmsFile) : Nat :=
  toU32 (s.getNumSegments * dmsPagesPerSegment)

/-- `pageToOffset`; `none` is NULL. -/
def pageToOffset (s : DmsFile) (pageId : Nat) : Option Nat :=
  if s.getNumPages ≤ pageId then none
  else
    (s.body[pageId / dmsPagesPerSegment]?).map
      (· + dmsPageSize * (pageId % dmsPagesPerSegment))

/-- Whether `[offset, offset + length)` of a page lies in the page's segment. -/
def inSegment (pageId offset length : Nat) : Bool :=
  decide (dmsPageSize * (pageId % dmsPagesPerSegment) + offset + length ≤
    dmsFileSegmentSize)

/-- `_findPage`.  The `size_t` argument becomes an `unsigned int` key. -/
def findPage (s : DmsFile) (requiredSize : Nat) : Nat :=
  match s.freeSpaceMap.upperBound (toU32 requiredSize) with
  | some entry => entry.2
  | none => dmsInvalidPageId

/-- `_updateFreeSpace`. -/
def updateFreeSpace (s : DmsFile) (page : Nat) (changeSize : Int)
    (pageId : Nat) : DmsFile :=
  let freeSpace := pageFreeSpace s.memory page
  let erased := s.freeSpaceMap.eraseOne freeSpace pageId
  let freeSpace := toU32 (freeSpace + changeSize)
  { s.setMemory (writeU32 s.memory (page + 20) freeSpace) with
    freeSpaceMap := erased.insert freeSpace pageId }

/-- `_searchSlot` on a page that is not NULL: the code and, with `EDB_OK`, the
slot.  Both ids are unsigned, so the test for negative ids never holds. -/
def searchSlot (m : Mem) (page : Nat) (rid : DmsRecordId) :
    ReturnCode × Option Nat :=
  if rid.slotId > pageNumSlots m page then (edbSys, none)
  else (edbOk, some (pageSlot m page rid.slotId))

/-! ### Extension -/

/-- The loop of `_extendFile`, with the number of passes left; `writes i` is
what write(2) answers in pass `i`. -/
def extendLoop (writes : Nat → List WriteResult) :
    Nat → Nat → OssPrimitiveFileOp → Option (ReturnCode × OssPrimitiveFileOp)
  | 0, _, op => some (edbOk, op)
  | passes + 1, i, op =>
      match op.seekToEnd.write (fun _ => 0) dmsExtendSize (writes i) with
      | none => none
      | some (rc, op) =>
          if rc ≠ edbOk then some (rc, op)
          else extendLoop writes passes (i + 1) op

/-- `_extendFile`. -/
def extendFile (writes : Nat → List WriteResult) (size : Nat)
    (op : OssPrimitiveFileOp) : Option (ReturnCode × OssPrimitiveFileOp) :=
  if size % dmsExtendSize ≠ 0 then some (edbSys, op)
  else extendLoop writes (size / dmsExtendSize) 0 op

/-- The operating system's answers during one `_extendSegment`. -/
structure ExtendAnswer where
  fstat : Option Errno
  writes : Nat → List WriteResult
  map : MapAnswer

/-- Every call succeeds and write(2) takes what it is offered. -/
def ExtendAnswer.granted : ExtendAnswer := ⟨none, fun _ => [.wrote 65536], .granted⟩

/-- Copy the fresh page header to the first `n` pages behind `data`. -/
def initPages (data : Nat) : Nat → Mem → Mem
  | 0, m => m
  | n + 1, m => writeBytes (initPages data n m) (data + dmsPageSize * n) pageHeaderBytes

/-- Index the first `n` pages of a new segment.  `freeMapSize` is an `int`. -/
def indexPages (freeMapSize : Int) : Nat → Multimap Nat Nat → Multimap Nat Nat
  | 0, index => index
  | n + 1, index =>
      (indexPages freeMapSize n index).insert (dmsPageSize - sizeofDmsPageHeader)
        (toU32 (n + freeMapSize))

/-- The part of `_extendSegment` behind a successful `map`: page headers, index,
body list and the page count of the file header. -/
def adoptSegment (s : DmsFile) (header data : Nat) : DmsFile :=
  let m := initPages data dmsPagesPerSegment s.memory
  { s.setMemory (writeU32 m (header + 4)
      (toU32 (readU32 m (header + 4) + dmsPagesPerSegment))) with
    freeSpaceMap :=
      indexPages (toI32 s.freeSpaceMap.size) dmsPagesPerSegment s.freeSpaceMap
    body := s.body ++ [data] }

/-- `_extendSegment`.  `none`: write(2) never finishes, `_mutex` is not free or
there is no file header. -/
def extendSegment (s : DmsFile) (answer : ExtendAnswer) :
    Option (ReturnCode × DmsFile) :=
  match s.fileOp.getSize answer.fstat with
  | (rc, offset) =>
      if rc ≠ edbOk then some (rc, s)
      else
        match extendFile answer.writes dmsFileSegmentSize s.fileOp with
        | none => none
        | some (rc, fileOp) =>
            let s := { s with fileOp := fileOp }
            if rc ≠ edbOk then some (rc, s)
            else
              match s.toOssMmapFile.map answer.map offset dmsFileSegmentSize with
              | (rc, data, mapped) =>
                  let s := { s with toOssMmapFile := mapped }
                  if rc ≠ edbOk then some (rc, s)
                  else
                    match data, s.header, s.mutex.get with
                    | some data, some header, some held =>
                        some (edbOk,
                          ({ s with mutex := held }.adoptSegment header data).releaseMutex)
                    | _, _, _ => none

/-- `_extendSegment` as its callers make it, between `try_get` and `release` of
`_extendMutex`.  When `try_get` fails, the caller waits for the thread that
extends. -/
def extendLatched (s : DmsFile) (answer : ExtendAnswer) :
    Option (ReturnCode × DmsFile) :=
  match s.extendMutex.tryGet with
  | none => none
  | some held =>
      match { s with extendMutex := held }.extendSegment answer with
      | none => none
      | some (rc, s) => some (rc, s.releaseExtendMutex)

/-! ### insert -/

/-- The code of `insert` and what it stored in its two output arguments. -/
structure InsertReply where
  rc : ReturnCode
  outRecord : Option Nat
  rid : Option DmsRecordId

def InsertReply.failed (rc : ReturnCode) : InsertReply := ⟨rc, none, none⟩

/-- There are holes, and the gap between slots and records is too small. -/
def needsRecover (m : Mem) (page : Nat) (recordSize : Nat) : Bool :=
  decide (pageFreeSpace m page >
    toU32 ((pageFreeOffset m page : Int) - pageSlotOffset m page)) &&
  decide (toU32 (pageSlotOffset m page + recordSize) + sizeofDmsRecord + sizeofSlot >
    pageFreeOffset m page)

/-- The test in front of the `EDB_SYS` exit "Something big wrong!!". -/
def noRoom (m : Mem) (page : Nat) (recordSize : Nat) : Bool :=
  decide (pageFreeSpace m page < recordSize + sizeofDmsRecord + sizeofSlot) ||
  decide (toU32 ((pageFreeOffset m page : Int) - pageSlotOffset m page) <
    recordSize + sizeofDmsRecord + sizeofSlot)

/-- `offsetTemp`: where the record goes. -/
def recordOffset (m : Mem) (page : Nat) (recordSize : Nat) : Nat :=
  toU32 ((pageFreeOffset m page : Int) - recordSize - sizeofDmsRecord)

/-- The slot, the record header and the record body are copied to the page. -/
def storeRecord (m : Mem) (page : Nat) (record : BsonObj) : Mem :=
  let offset := recordOffset m page record.objsize
  let m := writeU32 m (slotAddress page (pageNumSlots m page)) offset
  let m := writeBytes m (page + offset)
    (u32Bytes (record.objsize + sizeofDmsRecord) ++ u32Bytes dmsRecordFlagNormal)
  writeBytes m (page + offset + sizeofDmsRecord) record.bytes

/-- The three header fields `insert` updates before `_updateFreeSpace`. -/
def advanceHeader (m : Mem) (page : Nat) (offset : Nat) : Mem :=
  let m := writeU32 m (page + 12) (pageNumSlots m page + 1)
  let m := writeU32 m (page + 16) (pageSlotOffset m page + sizeofSlot)
  writeU32 m (page + 24) offset

/-- `insert` from the point where `_findPage` named a page, `_mutex` held. -/
def insertIntoPage (s : DmsFile) (record : BsonObj) (pageId : Nat) :
    Completion InsertReply × DmsFile :=
  match s.pageToOffset pageId with
  | none => (.returns (.failed edbSys), s.releaseMutex)
  | some page =>
      if readBytes s.memory page 4 ≠ dmsPageEyeCatcher then
        (.returns (.failed edbSys), s.releaseMutex)
      else
        let s := if needsRecover s.memory page record.objsize then
          s.setMemory (recoverSpace s.memory page) else s
        if noRoom s.memory page record.objsize then
          (.returns (.failed edbSys), s.releaseMutex)
        else
          let offset := recordOffset s.memory page record.objsize
          let s := s.setMemory (storeRecord s.memory page record)
          -- outRecord = BSONObj(...) checks the size it finds
          if bsonIsValid (toI32 (readU32 s.memory (page + offset + sizeofDmsRecord))) then
            let rid : DmsRecordId := ⟨pageId, pageNumSlots s.memory page⟩
            let s := s.setMemory (advanceHeader s.memory page offset)
            let s := s.updateFreeSpace page
              (toI32 (-(record.objsize + sizeofSlot + sizeofDmsRecord))) pageId
            (.returns ⟨edbOk, some (page + offset + sizeofDmsRecord), some rid⟩,
              s.releaseMutex)
          else (.throws, s)

/-- The `retry` loop of `insert`.  Each pass that has to extend consumes one
answer, so the list is the number of extensions the loop is watched for; with
none left it is still looping. -/
def insertRetry (record : BsonObj) (answers : List ExtendAnswer) (s : DmsFile) :
    Option (Completion InsertReply × DmsFile) :=
  match s.mutex.get with
  | none => none
  | some held =>
      let s := { s with mutex := held }
      let pageId := s.findPage (record.objsize + sizeofDmsRecord)
      if pageId = dmsInvalidPageId then
        let s := s.releaseMutex
        match answers with
        | [] => none
        | answer :: answers =>
            match s.extendLatched answer with
            | none => none
            | some (rc, s) =>
                if rc ≠ edbOk then some (.returns (.failed rc), s)
                else insertRetry record answers s
      else some (s.insertIntoPage record pageId)

/-- `insert`.  The `size_t` comparison refuses what exceeds `DMS_MAX_RECORD`. -/
def insert (s : DmsFile) (answers : List ExtendAnswer) (record : BsonObj) :
    Option (Completion InsertReply × DmsFile) :=
  if record.objsize > dmsMaxRecord then
    some (.returns (.failed edbInvalidArg), s)
  else
    match record.getKeyField with
    | .error .assertion => some (.throws, s)
    | .error .runaway => none
    | .ok none => some (.returns (.failed edbInvalidArg), s)
    | .ok (some _) => insertRetry record answers s

/-! ### remove and find -/

/-- `remove`. -/
def remove (s : DmsFile) (rid : DmsRecordId) : Option (ReturnCode × DmsFile) :=
  match s.mutex.get with
  | none => none
  | some held =>
      let s := { s with mutex := held }
      match s.pageToOffset rid.pageId with
      | none => some (edbSys, s.releaseMutex)
      | some page =>
          match searchSlot s.memory page rid with
          | (rc, none) => some (rc, s.releaseMutex)
          | (_, some slot) =>
              if dmsSlotEmpty = slot then some (edbSys, s.releaseMutex)
              else if inSegment rid.pageId slot sizeofDmsRecord then
                let m := writeU32 s.memory (slotAddress page rid.slotId) dmsSlotEmpty
                let m := writeU32 m (page + slot + 4) dmsRecordFlagDropped
                let s := (s.setMemory m).updateFreeSpace page
                  (toI32 (recordSizeAt m (page + slot))) rid.pageId
                some (edbOk, s.releaseMutex)
              else none

/-- The code of `find` and the bytes of the copied object. -/
structure FindReply where
  rc : ReturnCode
  result : Option (List UInt8)

/-- `find`.  An exception from `BSONObj(...)` leaves `_mutex` held; what the constructor prints
before it throws is left out. -/
def find (s : DmsFile) (rid : DmsRecordId) :
    Option (Completion FindReply × DmsFile) :=
  match s.mutex.getShared with
  | none => none
  | some held =>
      let s := { s with mutex := held }
      match s.pageToOffset rid.pageId with
      | none => some (.returns ⟨edbSys, none⟩, s.releaseMutexShared)
      | some page =>
          match searchSlot s.memory page rid with
          | (rc, none) => some (.returns ⟨rc, none⟩, s.releaseMutexShared)
          | (_, some slot) =>
              if dmsSlotEmpty = slot then
                some (.returns ⟨edbSys, none⟩, s.releaseMutexShared)
              else if inSegment rid.pageId slot (sizeofDmsRecord + 4) = false then none
              else if dmsRecordFlagDropped = recordFlagAt s.memory (page + slot) then
                some (.returns ⟨edbSys, none⟩, s.releaseMutexShared)
              else
                let object := page + slot + sizeofDmsRecord
                let objsize := toI32 (readU32 s.memory object)
                if bsonIsValid objsize = false then some (.throws, s)
                else if inSegment rid.pageId (slot + sizeofDmsRecord) objsize.toNat then
                  some (.returns
                    ⟨edbOk, some (readBytes s.memory object objsize.toNat)⟩,
                    s.releaseMutexShared)
                else none

/-! ### Opening a file -/

/-- The file header `_initNew` writes: `_size` 0, `_flag` normal, `_version`. -/
def dmsHeaderBytes : List UInt8 :=
  dmsHeaderEyeCatcher ++ u32Bytes 0 ++ u32Bytes 0 ++ u32Bytes 0

/-- The operating system's answers during one pass of `initialize`. -/
structure InitAnswer where
  fstat : Option Errno
  writes : Nat → List WriteResult
  headerMap : MapAnswer
  segmentMap : Nat → MapAnswer

/-- Every call succeeds and write(2) takes what it is offered. -/
def InitAnswer.granted : InitAnswer :=
  ⟨none, fun _ => [.wrote 65536], .granted, fun _ => .granted⟩

/-- `_initNew`. -/
def initNew (s : DmsFile) (answer : InitAnswer) : Option (ReturnCode × DmsFile) :=
  match extendFile answer.writes dmsFileHeaderSize s.fileOp with
  | none => none
  | some (rc, fileOp) =>
      let s := { s with fileOp := fileOp }
      if rc ≠ edbOk then some (rc, s)
      else
        match s.toOssMmapFile.map answer.headerMap 0 dmsFileHeaderSize with
        | (rc, header, mapped) =>
            let s := { s with toOssMmapFile := mapped }
            if rc ≠ edbOk then some (rc, s)
            else
              match header with
              | none => none
              | some header =>
                  some (edbOk,
                    { s.setMemory (writeBytes s.memory header dmsHeaderBytes) with
                      header := some header })

/-- The argument `_loadData` passes to `map` for segment `i`: an `int` product
and sum, converted to `unsigned long long`. -/
def segmentOffset (i : Nat) : Nat :=
  toU64 (toI32 (dmsFileHeaderSize + toI32 (dmsFileSegmentSize * i)))

/-- The inner loop of `_loadData`: the pages of one segment, numbered from 0. -/
def loadPages (m : Mem) (data : Nat) : Nat → Multimap Nat Nat → Multimap Nat Nat
  | 0, index => index
  | k + 1, index =>
      (loadPages m data k index).insert
        (pageFreeSpace m (data + dmsPageSize * k)) k

/-- The outer loop of `_loadData`, with the number of segments left. -/
def loadSegments (answers : Nat → MapAnswer) :
    Nat → Nat → DmsFile → Option (ReturnCode × DmsFile)
  | 0, _, s => some (edbOk, s)
  | passes + 1, i, s =>
      match s.toOssMmapFile.map (answers i) (segmentOffset i) dmsFileSegmentSize with
      | (rc, data, mapped) =>
          let s := { s with toOssMmapFile := mapped }
          if rc ≠ edbOk then some (rc, s)
          else
            match data with
            | none => none
            | some data =>
                loadSegments answers passes (i + 1)
                  { s with
                    body := s.body ++ [data]
                    freeSpaceMap :=
                      loadPages s.memory data dmsPagesPerSegment s.freeSpaceMap }

/-- `_loadData` once `_header` is set. -/
def loadPagesOf (s : DmsFile) (header : Nat) (answer : InitAnswer) :
    Option (ReturnCode × DmsFile) :=
  let numPage := toI32 (readU32 s.memory (header + 4))
  if numPage.tmod dmsPagesPerSegment ≠ 0 then some (edbSys, s)
  else
    let numSegments := numPage.tdiv dmsPagesPerSegment
    loadSegments answer.segmentMap numSegments.toNat 0 s

/-- `_loadData`. -/
def loadData (s : DmsFile) (answer : InitAnswer) : Option (ReturnCode × DmsFile) :=
  match s.header with
  | some header => s.loadPagesOf header answer
  | none =>
      match s.toOssMmapFile.map answer.headerMap 0 dmsFileHeaderSize with
      | (rc, header, mapped) =>
          let s := { s with toOssMmapFile := mapped }
          if rc ≠ edbOk then some (rc, s)
          else
            match header with
            | none => none
            | some header => { s with header := some header }.loadPagesOf header answer

/-- `initialize` from the label `getfilesize`; a pass that had to initialise the
file goes back there. -/
def initializeFrom : List InitAnswer → DmsFile → Option (ReturnCode × DmsFile)
  | [], _ => none
  | answer :: answers, s =>
      match s.fileOp.getSize answer.fstat with
      | (rc, offset) =>
          if rc ≠ edbOk then some (rc, s)
          else if offset = 0 then
            match s.initNew answer with
            | none => none
            | some (rc, s) =>
                if rc ≠ edbOk then some (rc, s) else initializeFrom answers s
          else s.loadData answer

/-- `dmsFile()` and `initialize` on the file `disk`. -/
def initializeFile (strdup : Bool) (opened : Option Errno) (answers : List InitAnswer)
    (disk : OsFile) : Option (ReturnCode × DmsFile) :=
  let closed : DmsFile :=
    { fileOp := ⟨false, 0, disk⟩, opened := false, segments := [],
      header := none, body := [], freeSpaceMap := .empty,
      mutex := .init, extendMutex := .init }
  if strdup then
    match OssMmapFile.openFile opened disk with
    | (rc, file) =>
        let s := { closed with toOssMmapFile := file }
        if rc ≠ edbOk then some (rc, s) else initializeFrom answers s
  else some (edbOom, closed)

/-- `~dmsFile`: what is left is the file. -/
def destroy (s : DmsFile) : OsFile := s.close.fileOp.file

end DmsFile

end EmeraldDb
