/-
Module: EmeraldDb.Pmd.EduAccess
Purpose: The EDU manager access by access.  waitEvent writes statuses without the latch, so
  a section that tests a status and then writes one is cut in between; and waitEDUPost,
  which runs waitEvent with the latch in the shared mode.
Trusted boundary: human-reviewed spec; waitEDU stays one step: while it has the latch in
  the shared mode, an EDU that it has found RUNNING is set to WAITING or to RUNNING only.
  A section moves its EDU between the queues in the step that writes the status: waitEvent,
  which alone writes besides, does not look at the queues.  A test reads the status once:
  read again, it can only fail where it would have passed
Main exports: EduWrite, EduMgr.write, LatchUse, EduSystem.latchUse, EduSystem.decides,
  WaitCall, EduAccess, AccessAction, EduAccess.exec, AccessRun
-/
import EmeraldDb.Oss.Latch
import EmeraldDb.Pmd.EduSystem

namespace EmeraldDb

/-! ### Sections that test a status and write one -/

/-- What a section writes once its test has passed. -/
inductive EduWrite where
  /-- `activateEDU` of an EDU in the run queue -/
  | activate (id : EduId) (p : Ptr)
  /-- `activateEDU` of an EDU in the idle queue -/
  | reactivate (id : EduId) (p : Ptr)
  /-- `_deactivateEDU` -/
  | deactivate (id : EduId) (p : Ptr)
  /-- `_destroyEDU` of an EDU in the run queue -/
  | destroyRun (id : EduId) (p : Ptr)
  /-- `_destroyEDU` of an EDU in the idle queue -/
  | destroyIdle (id : EduId) (p : Ptr)
  /-- `_destroyEDU` has set the status and is about to delete the control block -/
  | delete (p : Ptr)
  /-- `startEDU` takes an EDU from the pool -/
  | take (id : EduId) (p : Ptr) (type : EduType)
deriving DecidableEq, Repr

namespace EduMgr

/-- The section writes. -/
def write (s : EduMgr) : EduWrite → Option EduMgr
  | .activate _ p => (s.blocks p).map fun cb => s.setBlock p { cb with status := .running }
  | .reactivate id p =>
      (s.blocks p).map fun cb => (s.moveToRun id p).setBlock p { cb with status := .running }
  | .deactivate id p =>
      (s.blocks p).map fun cb => (s.moveToIdle id p).setBlock p { cb with status := .idle }
  | .destroyRun id p =>
      (s.blocks p).map fun cb => (s.eraseRun id).setBlock p { cb with status := .destroy }
  | .destroyIdle id p =>
      (s.blocks p).map fun cb => (s.eraseIdle id).setBlock p { cb with status := .destroy }
  | .delete p => (s.blocks p).map fun _ => s.deleteBlock p
  | .take id p type =>
      (s.blocks p).map fun cb =>
        (s.moveToRun id p).setBlock p { cb with type := type, status := .waiting }

/-- What `activateEDU` writes after its test. -/
def activation (s : EduMgr) (id : EduId) : Option EduWrite :=
  match s.idleQueue.lookup id with
  | some p => if s.status p = some .idle then some (.reactivate id p) else none
  | none =>
      (s.runQueue.lookup id).bind fun p =>
        if s.status p = some .waiting ∨ s.status p = some .creating then
          some (.activate id p)
        else none

/-- What `_deactivateEDU` writes after its test. -/
def deactivation (s : EduMgr) (id : EduId) : Option EduWrite :=
  (s.runQueue.lookup id).bind fun p =>
    if s.status p = some .waiting ∨ s.status p = some .creating then
      some (.deactivate id p)
    else none

/-- What `_destroyEDU` writes after its test. -/
def destruction (s : EduMgr) (id : EduId) : Option EduWrite :=
  match s.runQueue.lookup id with
  | some p =>
      if s.status p = some .waiting ∨ s.status p = some .creating then
        some (.destroyRun id p)
      else none
  | none =>
      (s.idleQueue.lookup id).bind fun p =>
        if s.status p = some .idle then some (.destroyIdle id p) else none

/-- What `startEDU` writes when its loop has stopped at an idle EDU.  The loop reads all
statuses at once: while it has the latch, no EDU becomes idle. -/
def selection (s : EduMgr) (type : EduType) : Option EduWrite :=
  (s.selectIdle type).bind fun
    | (.chosen id p, _) => some (.take id p type)
    | (.createNew, _) => none

/-- What a step of `returnEDU` writes. -/
def returnWrite (s : EduMgr) (id : EduId) : ReturnStage → Option EduWrite
  | .destroy => s.destruction id
  | .deactivate => s.deactivation id
  | _ => none

end EduMgr

/-! ### The use of the latch -/

/-- How an action holds the latch. -/
inductive LatchUse where
  | none
  | shared
  | exclusive
deriving DecidableEq, Repr

/-- The latch can be had. -/
def OssSLatch.admits (latch : OssSLatch) : LatchUse → Bool
  | .none => true
  | .shared => latch.getShared.isSome
  | .exclusive => latch.get.isSome

def StartStage.latchUse : StartStage → LatchUse
  | .select => .exclusive
  | .createInsert => .exclusive
  | _ => .none

def ReturnStage.latchUse : ReturnStage → LatchUse
  | .lookup => .shared
  | .flags _ => .none
  | .size => .shared
  | .destroy => .exclusive
  | .deactivate => .exclusive

def EduThread.latchUse (t : EduThread) : EduPc → EduChoice → LatchUse
  | .took event, .goOn =>
      if t.isForced = false ∧ event.eventType = .resume then .shared else .none
  | .inEntry, .activate => .exclusive
  | .inEntry, .wait => .shared
  | .left, .goOn => .shared
  | .returning stage, .goOn => stage.latchUse
  | _, _ => .none

/-- Two actions of one thread. -/
def EduAction.sameCaller : EduAction → EduAction → Bool
  | .stepStart c _, .stepStart d _ => c = d
  | .thread p _, .thread q _ => p = q
  | _, _ => false

namespace EduSystem

def latchUse (s : EduSystem) : EduAction → LatchUse
  | .activateEdu _ => .exclusive
  | .waitEdu _ => .shared
  | .forceUserEdu _ => .exclusive
  | .postEduPost _ _ => .shared
  | .regSystemEdu _ _ => .exclusive
  | .forceEdus _ => .exclusive
  | .stepStart c _ => (s.starts c).elim .none fun call => call.stage.latchUse
  | .stepReturn r => (s.returns r).elim .none fun call => call.stage.latchUse
  | .thread p choice => (s.threads p).elim .none fun t => t.latchUse t.pc choice
  | _ => .none

/-- What the section writes that an action enters. -/
def decides (s : EduSystem) : EduAction → Option EduWrite
  | .activateEdu id => s.mgr.activation id
  | .stepStart c _ =>
      (s.starts c).bind fun call =>
        if call.stage = .select then s.mgr.selection call.type else none
  | .stepReturn r => (s.returns r).bind fun call => s.mgr.returnWrite call.id call.stage
  | .thread p choice =>
      (s.threads p).bind fun t =>
        match t.pc, choice with
        | .inEntry, .activate => s.mgr.activation t.id
        | .returning stage, .goOn => s.mgr.returnWrite t.id stage
        | _, _ => none
  | _ => none

/-- The rest of an action whose section has written. -/
def finish (s : EduSystem) (w : EduWrite) : EduAction → Option (EduReply × EduSystem)
  | .activateEdu _ => some (.returned edbOk, s)
  | .stepStart c _ =>
      match w with
      | .take id p _ =>
          (s.starts c).map fun call => (.nothing, s.setStart c call (.post id p))
      | _ => none
  | .stepReturn r => some (.returned edbOk, s.endReturn r)
  | .thread p _ =>
      (s.threads p).map fun t =>
        match t.pc with
        | .returning stage =>
            let destroyed := decide (stage = .destroy)
            (.gaveBack t.id edbOk destroyed,
              s.setThread p { t with pc := if destroyed then .exited else .loop })
        | _ => (.returned edbOk, s)
  | _ => none

end EduSystem

/-! ### waitEDUPost -/

/-- Where a call of `waitEDUPost` stands. -/
inductive WaitStage where
  /-- the latch is taken and the EDU looked up -/
  | lookup
  | testing (p : Ptr)
  | marking (p : Ptr)
  | blocked (p : Ptr)
  | sleeping (p : Ptr)
  | receiving (p : Ptr) (event : EduEvent)
deriving DecidableEq, Repr

/-- A call of `waitEDUPost`. -/
structure WaitCall where
  id : EduId
  millsecond : Int
  stage : WaitStage

/-! ### The manager, access by access -/

/-- The system, the latch, the section that has passed its test and not yet written, and
the calls of `waitEDUPost`. -/
structure EduAccess where
  sys : EduSystem
  latch : OssSLatch
  writing : Option (EduAction × EduWrite)
  waits : Nat → Option WaitCall
  nextWait : Nat

/-- What happens next. -/
inductive AccessAction where
  | edu (action : EduAction)
  | waitEduPost (id : EduId) (millsecond : Int)
  | stepWait (call : Nat) (choice : EduChoice)

/-- What an action lets its caller see. -/
inductive AccessReply where
  | edu (reply : EduReply)
  /-- the code of `waitEDUPost`, and the event if it got one -/
  | waited (rc : ReturnCode) (event : Option EduEvent)
deriving DecidableEq, Repr

namespace EduAccess

def init : EduAccess := ⟨.init, .init, none, fun _ => none, 0⟩

/-- The action whose section is about to write. -/
def holder (s : EduAccess) : Option EduAction := s.writing.map Prod.fst

def setWait (s : EduAccess) (w : Nat) (call : WaitCall) (stage : WaitStage) : EduAccess :=
  { s with waits := Function.update s.waits w (some { call with stage := stage }) }

/-- A call of `waitEDUPost` releases the latch and returns. -/
def endWait (s : EduAccess) (w : Nat) : EduAccess :=
  { s with
    latch := s.latch.releaseShared
    waits := Function.update s.waits w none }

/-- The section that has the latch writes; `_destroyEDU` deletes the control block later. -/
def finish (s : EduAccess) (action : EduAction) (w : EduWrite) :
    Option (AccessReply × EduAccess) :=
  (s.sys.mgr.write w).bind fun mgr =>
    match w with
    | .destroyRun _ p | .destroyIdle _ p =>
        some (.edu .nothing, { s with sys.mgr := mgr, writing := some (action, .delete p) })
    | _ =>
        ({ s.sys with mgr := mgr }.finish w action).map fun (reply, sys) =>
          (.edu reply, { s with sys := sys, latch := s.latch.release, writing := none })

/-- An action that is not about to write in a section of its own. -/
def enter (s : EduAccess) (maxPool : Nat) (action : EduAction) :
    Option (AccessReply × EduAccess) :=
  if s.latch.admits (s.sys.latchUse action) = false then none
  else
    match s.sys.decides action with
    | some w =>
        s.latch.get.map fun held =>
          (.edu .nothing, { s with latch := held, writing := some (action, w) })
    | none =>
        (EduSystem.exec maxPool action s.sys).map fun (reply, sys) =>
          (.edu reply, { s with sys := sys })

/-- One step of a call of `waitEDUPost`. -/
def stepWait (s : EduAccess) (w : Nat) (call : WaitCall) :
    WaitStage → EduChoice → Option (AccessReply × EduAccess)
  | .lookup, .goOn =>
      s.latch.getShared.map fun held =>
        match s.sys.mgr.find call.id with
        | none => (.waited edbSys none, { s with latch := held }.endWait w)
        | some p => (.edu .nothing, { s with latch := held }.setWait w call (.testing p))
  | .testing p, .goOn =>
      (s.sys.mgr.status p).map fun status =>
        (.edu .nothing,
          s.setWait w call (if status = .idle then .blocked p else .marking p))
  | .marking p, .goOn =>
      (s.sys.mgr.markWaiting p).map fun mgr =>
        (.edu .nothing, { s with sys.mgr := mgr }.setWait w call (.blocked p))
  | .blocked p, .goOn =>
      (s.sys.mgr.blocks p).bind fun cb =>
        if cb.queue = [] then some (.edu .nothing, s.setWait w call (.sleeping p)) else none
  | .blocked p, .take | .sleeping p, .take =>
      (s.sys.mgr.takeEvent p).map fun (event, mgr) =>
        (.edu .nothing, { s with sys.mgr := mgr }.setWait w call (.receiving p event))
  | .sleeping _, .timeOut =>
      if call.millsecond < 0 then none else some (.waited edbTimeout none, s.endWait w)
  | .receiving p event, .goOn =>
      (s.sys.mgr.endWait p event).map fun mgr =>
        (.waited edbOk (some event), { s with sys.mgr := mgr }.endWait w)
  | _, _ => none

/-- One action, for a fixed maximal pool.  Only the thread whose section has the latch can
let it write. -/
def exec (maxPool : Nat) : AccessAction → EduAccess → Option (AccessReply × EduAccess)
  | .edu action, s =>
      match s.writing with
      | some (owner, w) =>
          if action = owner then s.finish owner w
          else if action.sameCaller owner then none
          else s.enter maxPool action
      | none => s.enter maxPool action
  | .waitEduPost id millsecond, s =>
      some (.edu .nothing,
        { s with
          waits := Function.update s.waits s.nextWait (some ⟨id, millsecond, .lookup⟩)
          nextWait := s.nextWait + 1 })
  | .stepWait w choice, s => (s.waits w).bind fun call => s.stepWait w call call.stage choice

end EduAccess

/-- The actions of a run. -/
abbrev AccessTrace := List (Transition EduAccess AccessAction AccessReply)

/-- The runs of a server from its start. -/
abbrev AccessRun (maxPool : Nat) (allowed : AccessTrace → EduAccess → AccessAction → Prop)
    (trace : AccessTrace) (s : EduAccess) : Prop :=
  Run (EduAccess.exec maxPool) allowed .init trace s

end EmeraldDb
