/-
Module: EmeraldDb.Pd.Log
Purpose: _pdLogFileWrite, step by step: threads append their records to one log file, which the
  first of them opens, under _pdLogMutex.
Trusted boundary: human-reviewed spec; one step is one system call or one operation on the
  mutex, and nobody else writes the file
Main exports: PdLog, PdLogPosition, PdLog.step, pdLogCode, PdLogSpec, PdLogRun
-/
import EmeraldDb.Lib.CString
import EmeraldDb.Lib.Guarded
import EmeraldDb.Oss.Latch
import EmeraldDb.Oss.PrimitiveFileOp

namespace EmeraldDb

open ByteMemory

/-- `_pdLogMutex` and `_pdLogFile`. -/
structure PdLog where
  mutex : OssXLatch
  file : OssPrimitiveFileOp

/-- Where a thread stands in `_pdLogFileWrite`. -/
inductive PdLogPosition where
  /-- in front of `get` -/
  | waiting
  /-- in front of `isValid` -/
  | checking
  /-- in the loop of `Open` -/
  | opening
  /-- in the loop of `Write` -/
  | writing (currentSize : Nat)
  /-- in front of `release` -/
  | leaving (rc : ReturnCode)
  | left (rc : ReturnCode)

/-- The thread holds `_pdLogMutex`. -/
def PdLogPosition.holdsMutex : PdLogPosition → Bool
  | .checking => true
  | .opening => true
  | .writing _ => true
  | .leaving _ => true
  | _ => false

/-- What open(2) and write(2) answer, if the next step calls them. -/
structure PdLogAnswers where
  opens : Option Errno
  writes : WriteResult

/-- One pass of the loop of `Write`. -/
def OssPrimitiveFileOp.writePass (buffer : Mem) (size currentSize : Nat)
    (op : OssPrimitiveFileOp) : WriteResult → PdLogPosition × OssPrimitiveFileOp
  | .wrote count =>
      let taken :=
        min (min (min count maxTransfer) (size - currentSize)) (maxFileSize - op.position)
      let op := op.store buffer currentSize taken
      if currentSize + taken = size then (.leaving edbOk, op)
      else (.writing (currentSize + taken), op)
  | .failed errno =>
      if errno.value = Errno.eintr.value then (.writing currentSize, op)
      else (.leaving errno.value, op)

/-- One pass of the loop of `Open`; a new handle stands at the start of the file, and
`_pdLogFileReopen` seeks to its end. -/
def OssPrimitiveFileOp.openPass (op : OssPrimitiveFileOp) :
    Option Errno → PdLogPosition × OssPrimitiveFileOp
  | none => (.writing 0, ({ op with isValid := true, position := 0 } : OssPrimitiveFileOp).seekToEnd)
  | some errno =>
      if errno.value = Errno.eintr.value then (.opening, op) else (.leaving errno.value, op)

/-- The next step of a thread that logs `pData`. -/
def PdLog.step (pData : List UInt8) (answers : PdLogAnswers) (s : PdLog) :
    PdLogPosition → Option (PdLogPosition × PdLog)
  | .waiting => s.mutex.get.map fun mutex => (.checking, { s with mutex := mutex })
  | .checking => some (if s.file.isValid then .writing 0 else .opening, s)
  | .opening =>
      let (position, file) := s.file.openPass answers.opens
      some (position, { s with file := file })
  | .writing currentSize =>
      let (position, file) :=
        s.file.writePass (ofBytes pData) (cString pData).length currentSize answers.writes
      some (position, { s with file := file })
  | .leaving rc => some (.left rc, { s with mutex := s.mutex.release })
  | .left _ => none

/-- The code, at the end of a call. -/
def pdLogResult : PdLogPosition → Option ReturnCode
  | .left rc => some rc
  | _ => none

/-- A log file that threads share. -/
def pdLogCode : ObjectCode PdLog (List UInt8) PdLogAnswers PdLogPosition ReturnCode where
  enter _ := .waiting
  step _ pData answers s position := s.step pData answers position
  result := pdLogResult

/-- The bytes of a file. -/
def OsFile.contents (file : OsFile) : List UInt8 := readBytes file.bytes 0 file.size

/-- Nothing was logged since the process started. -/
def PdLog.closed (file : OsFile) : PdLog := ⟨.init, ⟨false, 0, file⟩⟩

/-- A record is appended as a whole; if the call fails, perhaps the beginning of it is. -/
inductive PdLogSpec (log : List UInt8) (pData : List UInt8) : ReturnCode → List UInt8 → Prop where
  | logged : PdLogSpec log pData edbOk (log ++ cString pData)
  | failed {rc : ReturnCode} (count : Nat) (error : rc ≠ edbOk) :
      PdLogSpec log pData rc (log ++ (cString pData).take count)

/-- The log, and where each thread stands. -/
abbrev PdLogThreads := Threads PdLog (List UInt8) PdLogPosition

/-- The steps of a run. -/
abbrev PdLogTrace := ThreadTrace PdLog (List UInt8) PdLogAnswers PdLogPosition ReturnCode

/-- The runs of any number of threads that log to a file, in every interleaving. -/
abbrev PdLogRun (file : OsFile) (trace : PdLogTrace) (threads : PdLogThreads) : Prop :=
  Run pdLogCode.exec (fun _ _ _ => True) (.start (.closed file)) trace threads

end EmeraldDb
