/-
Module: EmeraldDb.Dms.InsertThreads
Purpose: Threads in dmsFile::insert on one open file, step by step.
Trusted boundary: human-reviewed spec; one step is one critical section of _mutex, or one
  operation on _extendMutex
Main exports: InsertPosition, advance, InsertThreads, InsertAction, InsertThreads.exec,
  InsertRun
-/
import EmeraldDb.Lib.Run
import EmeraldDb.Dms.DmsFile
import Mathlib.Logic.Function.Basic

namespace EmeraldDb

open DmsFile (InsertReply ExtendAnswer)

/-- Where a thread stands in `insert`.  `seen` is a ghost, the number of index entries when
`_findPage` failed. -/
inductive InsertPosition where
  /-- before the checks of the record -/
  | entered
  /-- at the label `retry` -/
  | retrying
  /-- `_findPage` failed and `_mutex` was given back -/
  | missed (seen : Nat)
  /-- `try_get` took `_extendMutex`, and `_extendSegment` comes next -/
  | extending (seen : Nat)
  /-- `_extendSegment` came back -/
  | extended (rc : ReturnCode)
  /-- `try_get` failed, and `get` waits -/
  | waiting
  /-- `get` took `_extendMutex` -/
  | woken
  | finished (completion : Completion InsertReply)

/-- The thread holds `_extendMutex`. -/
def InsertPosition.holdsExtendMutex : InsertPosition → Bool
  | .extending _ => true
  | .extended _ => true
  | .woken => true
  | _ => false

/-- The next step of a thread that inserts `record`.  No other thread sees what
`_extendSegment` does before it takes `_mutex`, so the call is one step. -/
def advance (record : BsonObj) (answer : ExtendAnswer) (s : DmsFile) :
    InsertPosition → Option (InsertPosition × DmsFile)
  | .entered =>
      if record.objsize > dmsMaxRecord then
        some (.finished (.returns (.failed edbInvalidArg)), s)
      else
        match record.getKeyField with
        | .error .assertion => some (.finished .throws, s)
        | .error .runaway => none
        | .ok none => some (.finished (.returns (.failed edbInvalidArg)), s)
        | .ok (some _) => some (.retrying, s)
  | .retrying =>
      s.mutex.get.map fun held =>
        let s := { s with mutex := held }
        let pageId := s.findPage (record.objsize + sizeofDmsRecord)
        if pageId = dmsInvalidPageId then (.missed s.freeSpaceMap.size, s.releaseMutex)
        else
          match s.insertIntoPage record pageId with
          | (completion, s) => (.finished completion, s)
  | .missed seen =>
      match s.extendMutex.tryGet with
      | some held => some (.extending seen, { s with extendMutex := held })
      | none => some (.waiting, s)
  | .extending _ => (s.extendSegment answer).map fun (rc, s) => (.extended rc, s)
  | .extended rc =>
      some (if rc ≠ edbOk then .finished (.returns (.failed rc)) else .retrying,
        s.releaseExtendMutex)
  | .waiting =>
      s.extendMutex.get.map fun held => (.woken, { s with extendMutex := held })
  | .woken => some (.retrying, s.releaseExtendMutex)
  | .finished _ => none

/-- The file, and where each thread stands. -/
structure InsertThreads where
  file : DmsFile
  position : Nat → InsertPosition

/-- The thread that makes the next step, and what the operating system answers if it
extends the file. -/
structure InsertAction where
  thread : Nat
  answer : ExtendAnswer

namespace InsertThreads

/-- All threads are about to enter `insert`. -/
def start (file : DmsFile) : InsertThreads := ⟨file, fun _ => .entered⟩

/-- One step; thread `t` inserts `records t`. -/
def exec (records : Nat → BsonObj) (action : InsertAction) (threads : InsertThreads) :
    Option (Unit × InsertThreads) :=
  (advance (records action.thread) action.answer threads.file
    (threads.position action.thread)).map fun (position, file) =>
      ((), ⟨file, Function.update threads.position action.thread position⟩)

end InsertThreads

/-- The steps of a run. -/
abbrev InsertTrace := List (Transition InsertThreads InsertAction Unit)

/-- The runs of the threads on an open file, in every interleaving. -/
abbrev InsertRun (records : Nat → BsonObj) (file : DmsFile) (trace : InsertTrace)
    (threads : InsertThreads) : Prop :=
  Run (InsertThreads.exec records) (fun _ _ _ => True) (.start file) trace threads

end EmeraldDb
