/-
Module: EmeraldDb.Pmd.EduMgr
Purpose: pmdEDUMgr and the EDU control blocks: the two queues, and the critical
  sections of the manager's operations.
Trusted boundary: human-reviewed spec; the latch makes each section one step
Main exports: EduType, EduStatus, EduEvent, ControlBlock, EduMgr, activateEdu, waitEdu,
  destroyEdu, deactivateEdu, forceUserEdu, forceEdus, postEduPost, selectIdle,
  insertEdu, rollbackEdu, postEvent, markWaiting, takeEvent, endWait
-/
import Mathlib.Data.Finmap
import Mathlib.Data.Finset.Max
import EmeraldDb.Core

namespace EmeraldDb

/-- `EDU_TYPES`. -/
inductive EduType where
  | tcpListener
  | agent
  | unknown
deriving DecidableEq, Repr

/-- `EDU_STATUS`. -/
inductive EduStatus where
  | creating
  | running
  | waiting
  | idle
  | destroy
  | unknown
deriving DecidableEq, Repr

/-- `pmdEDUEventTypes`. -/
inductive EduEventType where
  | none
  | term
  | resume
  | active
  | deactive
  | msg
  | timeout
  | lockWakeup
deriving DecidableEq, Repr

/-- `pmdEDUEvent`; `data` is the value of the pointer `_Data`. -/
structure EduEvent where
  eventType : EduEventType
  release : Bool
  data : Nat
deriving DecidableEq, Repr

/-- `EDUID`, counted without the bound of 64 bits. -/
abbrev EduId := Nat

/-- A pointer to a control block.  No two allocations get the same one. -/
abbrev Ptr := Nat

/-- `pmdEDUCB`. -/
structure ControlBlock where
  type : EduType
  status : EduStatus
  id : EduId
  isForced : Bool
  isDisconnected : Bool
  queue : List EduEvent

/-- `std::map<EDUID, pmdEDUCB*>`. -/
abbrev EduQueue := Finmap fun _ : EduId => Ptr

/-- `pmdEDUMgr` and the control blocks that have not been deleted. -/
structure EduMgr where
  runQueue : EduQueue
  idleQueue : EduQueue
  /-- `_EDUID` -/
  nextId : EduId
  /-- `_mapSystemEDUS` -/
  systemEdus : EduType → Option EduId
  isQuiesced : Bool
  isDestroyed : Bool
  blocks : Ptr → Option ControlBlock
  nextPtr : Ptr

/-- `isPoolable`. -/
def isPoolable (type : EduType) : Bool := type = .agent

/-- `getEntryFuncByType` finds a function. -/
def hasEntryFunc (type : EduType) : Bool := type = .agent || type = .tcpListener

/-- The rows of the table in `getEntryFuncByType`: the type, and whether `registerEDUName`
registers it as a system type. -/
def eduEntries : List (EduType × Bool) :=
  [(.agent, false), (.tcpListener, true), (.unknown, false)]

/-- `isSystemEDU`, once the table has been built; `_createNewEDU` reads it before it places
an EDU. -/
def isSystemEduType (type : EduType) : Bool :=
  eduEntries.any fun (other, system) => other = type && system

namespace EduMgr

/-- The manager's constructor. -/
def init : EduMgr where
  runQueue := ∅
  idleQueue := ∅
  nextId := 1
  systemEdus := fun _ => none
  isQuiesced := false
  isDestroyed := false
  blocks := fun _ => none
  nextPtr := 0

/-- `size`: every EDU is a thread, so the `unsigned int` sum does not wrap. -/
def size (s : EduMgr) : Nat := s.runQueue.keys.card + s.idleQueue.keys.card

/-- Write a control block. -/
def setBlock (s : EduMgr) (p : Ptr) (cb : ControlBlock) : EduMgr :=
  { s with blocks := Function.update s.blocks p (some cb) }

/-- `delete` of a control block. -/
def deleteBlock (s : EduMgr) (p : Ptr) : EduMgr :=
  { s with blocks := Function.update s.blocks p none }

def eraseRun (s : EduMgr) (id : EduId) : EduMgr :=
  { s with runQueue := s.runQueue.erase id }

def eraseIdle (s : EduMgr) (id : EduId) : EduMgr :=
  { s with idleQueue := s.idleQueue.erase id }

/-- Move an EDU from the idle queue to the run queue. -/
def moveToRun (s : EduMgr) (id : EduId) (p : Ptr) : EduMgr :=
  { s with idleQueue := s.idleQueue.erase id, runQueue := s.runQueue.insert id p }

/-- Move an EDU from the run queue to the idle queue. -/
def moveToIdle (s : EduMgr) (id : EduId) (p : Ptr) : EduMgr :=
  { s with runQueue := s.runQueue.erase id, idleQueue := s.idleQueue.insert id p }

/-- The pointer found under an id, in the run queue or else in the idle queue. -/
def find (s : EduMgr) (id : EduId) : Option Ptr :=
  (s.runQueue.lookup id).or (s.idleQueue.lookup id)

/-- A loop over a queue in key order that stops at the first control block of a kind;
it reads each block it passes, so it stops at a deleted one, too. -/
def firstKey (s : EduMgr) (q : EduQueue) (stop : ControlBlock → Bool) : Option EduId :=
  (q.keys.filter fun key => ((q.lookup key).bind s.blocks).all stop).min

/-! ### Critical sections

A section that reads a deleted control block has no result. -/

/-- `activateEDU`. -/
def activateEdu (s : EduMgr) (id : EduId) : Option (ReturnCode × EduMgr) :=
  match s.idleQueue.lookup id with
  | some p =>
      (s.blocks p).bind fun cb =>
        if cb.status = .running then some (edbOk, s)
        else if cb.status ≠ .idle then some (edbEduInvalStatus, s)
        else some (edbOk, (s.moveToRun id p).setBlock p { cb with status := .running })
  | none =>
      match s.runQueue.lookup id with
      | none => some (edbSys, s)
      | some p =>
          (s.blocks p).bind fun cb =>
            if cb.status = .running then some (edbOk, s)
            else if cb.status ≠ .waiting ∧ cb.status ≠ .creating then
              some (edbEduInvalStatus, s)
            else some (edbOk, s.setBlock p { cb with status := .running })

/-- `waitEDU`. -/
def waitEdu (s : EduMgr) (id : EduId) : Option (ReturnCode × EduMgr) :=
  match s.runQueue.lookup id with
  | none => some (edbSys, s)
  | some p =>
      (s.blocks p).bind fun cb =>
        if cb.status = .waiting then some (edbOk, s)
        else if cb.status ≠ .running then some (edbEduInvalStatus, s)
        else some (edbOk, s.setBlock p { cb with status := .waiting })

/-- `_destroyEDU`. -/
def destroyEdu (s : EduMgr) (id : EduId) : Option (ReturnCode × EduMgr) :=
  match s.runQueue.lookup id with
  | none =>
      match s.idleQueue.lookup id with
      | none => some (edbSys, s)
      | some p =>
          (s.blocks p).bind fun cb =>
            if cb.status ≠ .idle then some (edbEduInvalStatus, s)
            else some (edbOk, (s.eraseIdle id).deleteBlock p)
  | some p =>
      (s.blocks p).bind fun cb =>
        if cb.status ≠ .waiting ∧ cb.status ≠ .creating then some (edbEduInvalStatus, s)
        else some (edbOk, (s.eraseRun id).deleteBlock p)

/-- `_deactivateEDU`; that only agents are pooled is an assertion, checked in debug
builds alone. -/
def deactivateEdu (s : EduMgr) (id : EduId) : Option (ReturnCode × EduMgr) :=
  match s.runQueue.lookup id with
  | none =>
      match s.idleQueue.lookup id with
      | none => some (edbSys, s)
      | some _ => some (edbOk, s)
  | some p =>
      (s.blocks p).bind fun cb =>
        if cb.status = .idle then some (edbOk, s)
        else if cb.status ≠ .waiting ∧ cb.status ≠ .creating then
          some (edbEduInvalStatus, s)
        else some (edbOk, (s.moveToIdle id p).setBlock p { cb with status := .idle })

/-- `_isSystemEDU`. -/
def isSystemEdu (s : EduMgr) (id : EduId) : Bool :=
  [EduType.tcpListener, .agent, .unknown].any fun type => s.systemEdus type = some id

/-- `regSystemEDU`. -/
def regSystemEdu (s : EduMgr) (type : EduType) (id : EduId) : EduMgr :=
  { s with systemEdus := Function.update s.systemEdus type (some id) }

/-- Force the control block behind a key. -/
def forceKey (s : EduMgr) (q : EduQueue) (key : EduId) : Option EduMgr :=
  (q.lookup key).bind fun p =>
    (s.blocks p).map fun cb => s.setBlock p { cb with isForced := true }

/-- `forceUserEDU`: it compares the ids of the control blocks, not the keys. -/
def forceUserEdu (s : EduMgr) (id : EduId) : Option (ReturnCode × EduMgr) :=
  if s.isSystemEdu id then some (edbPmdForceSystemEdu, s)
  else
    match s.firstKey s.runQueue fun cb => cb.id = id with
    | some key => (s.forceKey s.runQueue key).map fun s => (edbOk, s)
    | none =>
        match s.firstKey s.idleQueue fun cb => cb.id = id with
        | some key => (s.forceKey s.idleQueue key).map fun s => (edbOk, s)
        | none => some (edbOk, s)

/-- The property of `_forceEDUs` and `_getEDUCount`. -/
structure EduProperty where
  system : Bool
  user : Bool
deriving DecidableEq

/-- `_forceEDUs`: all control blocks of the run queue with the property, and those of
the idle queue if it includes user EDUs. -/
def forceEdus (s : EduMgr) (property : EduProperty) : EduMgr :=
  let forced (p : Ptr) : Prop :=
    (∃ key ∈ s.runQueue.keys, s.runQueue.lookup key = some p ∧
      (property.system && s.isSystemEdu key ||
        property.user && !s.isSystemEdu key) = true) ∨
    (property.user = true ∧ ∃ key ∈ s.idleQueue.keys, s.idleQueue.lookup key = some p)
  { s with blocks := fun p =>
      if forced p then (s.blocks p).map fun cb => { cb with isForced := true }
      else s.blocks p }

/-- `pmdEDUCB::postEvent` through a pointer. -/
def postEvent (s : EduMgr) (p : Ptr) (event : EduEvent) : Option EduMgr :=
  (s.blocks p).map fun cb => s.setBlock p { cb with queue := cb.queue ++ [event] }

/-- `postEDUPost`. -/
def postEduPost (s : EduMgr) (id : EduId) (event : EduEvent) :
    Option (ReturnCode × EduMgr) :=
  match s.find id with
  | none => some (edbSys, s)
  | some p => (s.postEvent p event).map fun s => (edbOk, s)

/-- What the critical section of `startEDU` does. -/
inductive Selection where
  /-- go on with `_createNewEDU` -/
  | createNew
  /-- an idle EDU was taken -/
  | chosen (id : EduId) (p : Ptr)
deriving DecidableEq, Repr

/-- The critical section of `startEDU`. -/
def selectIdle (s : EduMgr) (type : EduType) : Option (Selection × EduMgr) :=
  if s.idleQueue.keys = ∅ ∨ isPoolable type = false then some (.createNew, s)
  else
    match s.firstKey s.idleQueue fun cb => cb.status = .idle with
    | none => some (.createNew, s)
    | some id =>
        (s.idleQueue.lookup id).bind fun p =>
          (s.blocks p).map fun cb =>
            (.chosen id p,
              (s.moveToRun id p).setBlock p { cb with type := type, status := .waiting })

/-- `new pmdEDUCB` and the critical section of `_createNewEDU`.  On its two error
branches the new control block is deleted again. -/
def insertEdu (s : EduMgr) (type : EduType) : Option (EduId × Ptr) × EduMgr :=
  if (s.runQueue.lookup s.nextId).isSome then (none, s)
  else if (s.idleQueue.lookup s.nextId).isSome then (none, s)
  else
    (some (s.nextId, s.nextPtr),
      { s.setBlock s.nextPtr ⟨type, .creating, s.nextId, false, false, []⟩ with
        runQueue := s.runQueue.insert s.nextId s.nextPtr
        nextId := s.nextId + 1
        nextPtr := s.nextPtr + 1 })

/-- What `_createNewEDU` does when the thread could not be created: it erases the id from
the run queue and deletes the control block. -/
def rollbackEdu (s : EduMgr) (id : EduId) (p : Ptr) : Option EduMgr :=
  (s.blocks p).map fun _ => (s.eraseRun id).deleteBlock p

/-! ### waitEvent

Its accesses to the control block, which it makes without the latch. -/

/-- `getStatus`, as the test `PMD_EDU_IDLE != _status` reads it. -/
def status (s : EduMgr) (p : Ptr) : Option EduStatus := (s.blocks p).map ControlBlock.status

/-- `waitEvent` marks an EDU that it has not found idle. -/
def markWaiting (s : EduMgr) (p : Ptr) : Option EduMgr :=
  (s.blocks p).map fun cb => s.setBlock p { cb with status := .waiting }

/-- `waitEvent` takes the earliest event out of the queue. -/
def takeEvent (s : EduMgr) (p : Ptr) : Option (EduEvent × EduMgr) :=
  (s.blocks p).bind fun cb =>
    match cb.queue with
    | [] => none
    | event :: rest => some (event, s.setBlock p { cb with queue := rest })

/-- What `waitEvent` writes once it has an event. -/
def receive (cb : ControlBlock) (event : EduEvent) : ControlBlock :=
  if event.eventType = .term then { cb with isDisconnected := true }
  else { cb with status := .running }

/-- The end of a `waitEvent` that got an event. -/
def endWait (s : EduMgr) (p : Ptr) (event : EduEvent) : Option EduMgr :=
  (s.blocks p).map fun cb => s.setBlock p (receive cb event)

end EduMgr

end EmeraldDb
