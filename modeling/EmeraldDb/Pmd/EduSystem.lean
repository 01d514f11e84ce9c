/-
Module: EmeraldDb.Pmd.EduSystem
Purpose: Threads at work on the EDU manager: the EDU threads in pmdEDUEntryPoint, and
  the calls of startEDU and returnEDU that other threads are in the middle of.
Trusted boundary: human-reviewed spec; one action is one critical section (EduAccess cuts
  those that test a status and then write one), one read of a flag outside the latch, or
  one access of a thread to its own control block
Main exports: ReturnStage, StartStage, EduPc, EduThread, EduSystem, EduAction, EduReply,
  exec, EduTrace
-/
import EmeraldDb.Lib.Run
import EmeraldDb.Pmd.EduMgr

namespace EmeraldDb

/-! ### returnEDU -/

/-- Where a call of `returnEDU` stands. -/
inductive ReturnStage where
  /-- the shared section that looks the EDU up and reads its type -/
  | lookup
  /-- the test of the type, of `force` and of `isDestroyed` -/
  | flags (type : EduType)
  /-- the comparison of `size()` with the maximal pool -/
  | size
  /-- `_destroyEDU` comes next -/
  | destroy
  /-- `_deactivateEDU` comes next -/
  | deactivate
deriving DecidableEq, Repr

/-- A call of `returnEDU` goes on, or returns its code and `*destroyed`. -/
inductive ReturnOutcome where
  | goesOn (stage : ReturnStage)
  | returns (rc : ReturnCode) (destroyed : Bool)
deriving DecidableEq, Repr

/-- One step of `returnEDU(id, force, &destroyed)`. -/
def EduMgr.returnEdu (s : EduMgr) (maxPool : Nat) (id : EduId) (force : Bool) :
    ReturnStage → Option (ReturnOutcome × EduMgr)
  | .lookup =>
      match s.find id with
      | none => some (.returns edbSys false, s)
      | some p => (s.blocks p).map fun cb => (.goesOn (.flags cb.type), s)
  | .flags type =>
      if isPoolable type = false ∨ force ∨ s.isDestroyed then some (.goesOn .destroy, s)
      else some (.goesOn .size, s)
  | .size =>
      if maxPool < s.size then some (.goesOn .destroy, s)
      else some (.goesOn .deactivate, s)
  | .destroy =>
      (s.destroyEdu id).map fun (rc, s) =>
        (.returns rc (decide (rc = edbOk ∨ rc = edbSys)), s)
  | .deactivate =>
      (s.deactivateEdu id).map fun (rc, s) => (.returns rc (decide (rc = edbSys)), s)

/-- A call of `returnEDU` by a thread other than the EDU's own. -/
structure ReturnCall where
  id : EduId
  force : Bool
  stage : ReturnStage

/-! ### startEDU -/

/-- Where a call of `startEDU` stands. -/
inductive StartStage where
  /-- `isQuiesced` is tested -/
  | test
  /-- the critical section that looks for an idle EDU -/
  | select
  /-- `_createNewEDU` tests `isQuiesced` and the entry function, and allocates -/
  | createTest
  /-- the critical section that places the new control block into the run queue -/
  | createInsert
  /-- the thread is created -/
  | createThread (id : EduId) (p : Ptr)
  /-- the RESUME event is posted -/
  | post (id : EduId) (p : Ptr)
deriving DecidableEq, Repr

/-- A call of `startEDU`. -/
structure StartCall where
  type : EduType
  arg : Nat
  stage : StartStage

/-! ### EDU threads -/

/-- Where `pmdEDUEntryPoint` stands. -/
inductive EduPc where
  /-- the head of the loop, where the type is read -/
  | loop
  /-- `waitEvent` tests the status -/
  | testing
  /-- the EDU was not idle, and `waitEvent` is about to mark it as waiting -/
  | marking
  /-- before the test of the queue in `timed_wait_and_pop` -/
  | blocked
  /-- in `timed_wait`, which may run out although an event has come -/
  | sleeping
  /-- `waitEvent` returned false -/
  | timedOut
  /-- `waitEvent` has this event and is about to write the control block -/
  | receiving (event : EduEvent)
  /-- `waitEvent` returned this event -/
  | took (event : EduEvent)
  /-- before the call of the entry function -/
  | calling (arg : Nat)
  /-- in the entry function -/
  | inEntry
  /-- the entry function has returned -/
  | left
  /-- in `returnEDU` -/
  | returning (stage : ReturnStage)
  /-- the loop has ended -/
  | exited
deriving DecidableEq, Repr

/-- The thread of one EDU: `type`, `myEDUID`, `isForced`, and where it stands. -/
structure EduThread where
  type : EduType
  id : EduId
  isForced : Bool
  pc : EduPc

/-- What a thread does where it has a choice. -/
inductive EduChoice where
  | goOn
  /-- an event is there -/
  | take
  /-- the wait times out -/
  | timeOut
  /-- the entry function calls `activateEDU` on its own id -/
  | activate
  /-- the entry function calls `waitEDU` on its own id -/
  | wait
deriving DecidableEq, Repr

/-! ### The system -/

/-- The manager, the EDU threads by control block, and the calls under way. -/
structure EduSystem where
  mgr : EduMgr
  threads : Ptr → Option EduThread
  starts : Nat → Option StartCall
  nextStart : Nat
  returns : Nat → Option ReturnCall
  nextReturn : Nat

/-- What happens next.  Any thread may make any call at any time; `granted` is whether
the allocation or the creation of the thread succeeds, where a call asks for one. -/
inductive EduAction where
  | startEdu (type : EduType) (arg : Nat)
  | stepStart (call : Nat) (granted : Bool)
  | returnEdu (id : EduId) (force : Bool)
  | stepReturn (call : Nat)
  | activateEdu (id : EduId)
  | waitEdu (id : EduId)
  | forceUserEdu (id : EduId)
  | postEduPost (id : EduId) (event : EduEvent)
  | regSystemEdu (type : EduType) (id : EduId)
  | setQuiesced
  | setDestroyed
  | forceEdus (property : EduMgr.EduProperty)
  | thread (p : Ptr) (choice : EduChoice)
deriving DecidableEq

/-- What an action lets its caller see. -/
inductive EduReply where
  | nothing
  | returned (rc : ReturnCode)
  /-- `startEDU` returned `EDB_OK` -/
  | started (id : EduId) (type : EduType) (arg : Nat)
  /-- an EDU's thread called the entry function of a type -/
  | entered (id : EduId) (type : EduType) (arg : Nat)
  /-- an EDU's thread came back from `returnEDU` -/
  | gaveBack (id : EduId) (rc : ReturnCode) (destroyed : Bool)
deriving DecidableEq, Repr

namespace EduSystem

/-- No EDU and no call. -/
def init : EduSystem where
  mgr := .init
  threads := fun _ => none
  starts := fun _ => none
  nextStart := 0
  returns := fun _ => none
  nextReturn := 0

def setThread (s : EduSystem) (p : Ptr) (t : EduThread) : EduSystem :=
  { s with threads := Function.update s.threads p (some t) }

/-- A call of `startEDU` goes on at a stage. -/
def setStart (s : EduSystem) (c : Nat) (call : StartCall) (stage : StartStage) : EduSystem :=
  { s with starts := Function.update s.starts c (some { call with stage := stage }) }

def endStart (s : EduSystem) (c : Nat) : EduSystem :=
  { s with starts := Function.update s.starts c none }

def setReturn (s : EduSystem) (r : Nat) (call : ReturnCall) (stage : ReturnStage) :
    EduSystem :=
  { s with returns := Function.update s.returns r (some { call with stage := stage }) }

def endReturn (s : EduSystem) (r : Nat) : EduSystem :=
  { s with returns := Function.update s.returns r none }

/-- One step of a call of `startEDU`. -/
def stepStart (s : EduSystem) (c : Nat) (call : StartCall) (granted : Bool) :
    Option (EduReply × EduSystem) :=
  match call.stage with
  | .test =>
      if s.mgr.isQuiesced then some (.returned edbQuiesced, s.endStart c)
      else some (.nothing, s.setStart c call .select)
  | .select =>
      (s.mgr.selectIdle call.type).map fun
        | (.createNew, _) => (.nothing, s.setStart c call .createTest)
        | (.chosen id p, mgr) =>
            (.nothing, { s with mgr := mgr }.setStart c call (.post id p))
  | .createTest =>
      if s.mgr.isQuiesced then some (.returned edbQuiesced, s.endStart c)
      else if hasEntryFunc call.type = false then
        some (.returned edbInvalidArg, s.endStart c)
      else if granted = false then some (.returned edbOom, s.endStart c)
      else some (.nothing, s.setStart c call .createInsert)
  | .createInsert =>
      match s.mgr.insertEdu call.type with
      | (none, _) => some (.returned edbSys, s.endStart c)
      | (some (id, p), mgr) =>
          some (.nothing, { s with mgr := mgr }.setStart c call (.createThread id p))
  | .createThread id p =>
      if granted then
        some (.nothing,
          (s.setThread p ⟨call.type, id, false, .loop⟩).setStart c call (.post id p))
      else
        (s.mgr.rollbackEdu id p).map fun mgr =>
          (.returned edbSys, { s with mgr := mgr }.endStart c)
  | .post id p =>
      (s.mgr.postEvent p ⟨.resume, false, call.arg⟩).map fun mgr =>
        (.started id call.type call.arg, { s with mgr := mgr }.endStart c)

/-- One step of a call of `returnEDU`. -/
def stepReturn (s : EduSystem) (maxPool : Nat) (r : Nat) (call : ReturnCall) :
    Option (EduReply × EduSystem) :=
  (s.mgr.returnEdu maxPool call.id call.force call.stage).map fun
    | (.goesOn stage, mgr) => (.nothing, { s with mgr := mgr }.setReturn r call stage)
    | (.returns rc _, mgr) => (.returned rc, { s with mgr := mgr }.endReturn r)

/-- `waitEvent` finds an event in the queue. -/
def stepTake (s : EduSystem) (p : Ptr) (t : EduThread) : Option (EduReply × EduSystem) :=
  (s.mgr.takeEvent p).map fun (event, mgr) =>
    (.nothing, { s with mgr := mgr }.setThread p { t with pc := .receiving event })

/-- One step of the thread of an EDU.  A thread that has seen a force and whose last event
was TERM logs its type, a number, with `%s`; the model goes on as if that came back. -/
def stepThread (s : EduSystem) (maxPool : Nat) (p : Ptr) (t : EduThread) :
    EduPc → EduChoice → Option (EduReply × EduSystem)
  | .loop, .goOn =>
      (s.mgr.blocks p).map fun cb =>
        (.nothing, s.setThread p { t with type := cb.type, pc := .testing })
  | .testing, .goOn =>
      (s.mgr.status p).map fun status =>
        (.nothing,
          s.setThread p { t with pc := if status = .idle then .blocked else .marking })
  | .marking, .goOn =>
      (s.mgr.markWaiting p).map fun mgr =>
        (.nothing, { s with mgr := mgr }.setThread p { t with pc := .blocked })
  | .blocked, .goOn =>
      (s.mgr.blocks p).bind fun cb =>
        if cb.queue = [] then some (.nothing, s.setThread p { t with pc := .sleeping })
        else none
  | .blocked, .take => s.stepTake p t
  | .sleeping, .take => s.stepTake p t
  | .sleeping, .timeOut => some (.nothing, s.setThread p { t with pc := .timedOut })
  | .timedOut, .goOn =>
      (s.mgr.blocks p).map fun cb =>
        if cb.isForced then
          (.nothing, s.setThread p { t with isForced := true, pc := .returning .lookup })
        else (.nothing, s.setThread p { t with pc := .loop })
  | .receiving event, .goOn =>
      (s.mgr.endWait p event).map fun mgr =>
        (.nothing, { s with mgr := mgr }.setThread p { t with pc := .took event })
  | .took event, .goOn =>
      if t.isForced = false ∧ event.eventType = .resume then
        (s.mgr.waitEdu t.id).map fun (_, mgr) =>
          (.nothing, { s with mgr := mgr }.setThread p { t with pc := .calling event.data })
      else some (.nothing, s.setThread p { t with pc := .returning .lookup })
  | .calling arg, .goOn =>
      if hasEntryFunc t.type then
        some (.entered t.id t.type arg, s.setThread p { t with pc := .inEntry })
      else some (.nothing, s.setThread p { t with pc := .left })
  | .inEntry, .activate =>
      (s.mgr.activateEdu t.id).map fun (rc, mgr) => (.returned rc, { s with mgr := mgr })
  | .inEntry, .wait =>
      (s.mgr.waitEdu t.id).map fun (rc, mgr) => (.returned rc, { s with mgr := mgr })
  | .inEntry, .goOn => some (.nothing, s.setThread p { t with pc := .left })
  | .left, .goOn =>
      (s.mgr.waitEdu t.id).map fun (_, mgr) =>
        (.nothing, { s with mgr := mgr }.setThread p { t with pc := .returning .lookup })
  | .returning stage, .goOn =>
      (s.mgr.returnEdu maxPool t.id t.isForced stage).map fun
        | (.goesOn stage, mgr) =>
            (.nothing, { s with mgr := mgr }.setThread p { t with pc := .returning stage })
        | (.returns rc destroyed, mgr) =>
            (.gaveBack t.id rc destroyed, { s with mgr := mgr }.setThread p
              { t with pc := if destroyed then .exited else .loop })
  | _, _ => none

/-- One action, for a fixed maximal pool. -/
def exec (maxPool : Nat) : EduAction → EduSystem → Option (EduReply × EduSystem)
  | .startEdu type arg, s =>
      some (.nothing,
        { s with
          starts := Function.update s.starts s.nextStart (some ⟨type, arg, .test⟩)
          nextStart := s.nextStart + 1 })
  | .stepStart c granted, s => (s.starts c).bind fun call => s.stepStart c call granted
  | .returnEdu id force, s =>
      some (.nothing,
        { s with
          returns := Function.update s.returns s.nextReturn (some ⟨id, force, .lookup⟩)
          nextReturn := s.nextReturn + 1 })
  | .stepReturn r, s => (s.returns r).bind fun call => s.stepReturn maxPool r call
  | .activateEdu id, s =>
      (s.mgr.activateEdu id).map fun (rc, mgr) => (.returned rc, { s with mgr := mgr })
  | .waitEdu id, s =>
      (s.mgr.waitEdu id).map fun (rc, mgr) => (.returned rc, { s with mgr := mgr })
  | .forceUserEdu id, s =>
      (s.mgr.forceUserEdu id).map fun (rc, mgr) => (.returned rc, { s with mgr := mgr })
  | .postEduPost id event, s =>
      (s.mgr.postEduPost id event).map fun (rc, mgr) => (.returned rc, { s with mgr := mgr })
  | .regSystemEdu type id, s =>
      some (.nothing, { s with mgr := s.mgr.regSystemEdu type id })
  | .setQuiesced, s => some (.nothing, { s with mgr.isQuiesced := true })
  | .setDestroyed, s => some (.nothing, { s with mgr.isDestroyed := true })
  | .forceEdus property, s =>
      some (.nothing, { s with mgr := s.mgr.forceEdus property })
  | .thread p choice, s => (s.threads p).bind fun t => s.stepThread maxPool p t t.pc choice

end EduSystem

/-- The actions of a run. -/
abbrev EduTrace := List (Transition EduSystem EduAction EduReply)

/-- The runs of a server from its start. -/
abbrev EduRun (maxPool : Nat) (allowed : EduTrace → EduSystem → EduAction → Prop)
    (trace : EduTrace) (s : EduSystem) : Prop :=
  Run (EduSystem.exec maxPool) allowed .init trace s

end EmeraldDb
