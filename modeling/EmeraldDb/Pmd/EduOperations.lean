/-
Module: EmeraldDb.Pmd.EduOperations
Purpose: The state-changing operations of pmdEDUMgr.hpp as one call makes them: under the
  manager's latch, and returnEDU from its first section to its return.
Trusted boundary: human-reviewed spec
Main exports: ManagerOp, LatchedMgr, ManagerOp.perform, ManagerOp.Accepts, ManagerOp.Done,
  EduMgr.destroys, EduMgr.returnEduCall
-/
import EmeraldDb.Oss.Latch
import EmeraldDb.Pmd.EduMgr

namespace EmeraldDb

/-! ### Operations under the latch -/

/-- The operations of the EDU Status Transition Table that work on an EDU by its id. -/
inductive ManagerOp where
  | activate
  | wait
  | deactivate
  | destroy
deriving DecidableEq, Repr

/-- The manager with its `_mutex`. -/
structure LatchedMgr where
  latch : OssSLatch
  mgr : EduMgr

namespace LatchedMgr

/-- Work between `get` and `release`; the labels `done` and `error` both lead to the
release. -/
def exclusively (work : EduMgr → Option (ReturnCode × EduMgr)) (s : LatchedMgr) :
    Option (ReturnCode × LatchedMgr) :=
  s.latch.get.bind fun held =>
    (work s.mgr).map fun (rc, mgr) => (rc, ⟨held.release, mgr⟩)

/-- Work between `get_shared` and `release_shared`. -/
def shared (work : EduMgr → Option (ReturnCode × EduMgr)) (s : LatchedMgr) :
    Option (ReturnCode × LatchedMgr) :=
  s.latch.getShared.bind fun held =>
    (work s.mgr).map fun (rc, mgr) => (rc, ⟨held.releaseShared, mgr⟩)

end LatchedMgr

namespace ManagerOp

/-- What an operation does while it has the latch. -/
def work (id : EduId) : ManagerOp → EduMgr → Option (ReturnCode × EduMgr)
  | .activate, s => s.activateEdu id
  | .wait, s => s.waitEdu id
  | .deactivate, s => s.deactivateEdu id
  | .destroy, s => s.destroyEdu id

/-- A call of an operation.  `waitEDU` takes the latch in the shared mode. -/
def perform (op : ManagerOp) (id : EduId) : LatchedMgr → Option (ReturnCode × LatchedMgr) :=
  match op with
  | .wait => LatchedMgr.shared (work id op)
  | _ => LatchedMgr.exclusively (work id op)

/-- The latch can be had in the mode of the operation. -/
def available (latch : OssSLatch) : ManagerOp → Bool
  | .wait => latch.getShared.isSome
  | _ => latch.get.isSome

end ManagerOp

/-! ### The contracts of the header -/

namespace EduMgr

/-- The EDU is in the run queue with this status. -/
def InRun (s : EduMgr) (id : EduId) (status : EduStatus) : Prop :=
  ∃ p cb, s.runQueue.lookup id = some p ∧ s.blocks p = some cb ∧ cb.status = status

/-- The EDU is in the idle queue with this status. -/
def InIdle (s : EduMgr) (id : EduId) (status : EduStatus) : Prop :=
  ∃ p cb, s.idleQueue.lookup id = some p ∧ s.blocks p = some cb ∧ cb.status = status

end EduMgr

namespace ManagerOp

/-- The EDUs that an operation must be called against; one that is already where the
operation would bring it is accepted, too. -/
def Accepts (s : EduMgr) (id : EduId) : ManagerOp → Prop
  | .activate => s.find id ≠ none
  | .wait => s.InRun id .running ∨ s.InRun id .waiting
  | .deactivate | .destroy => s.InIdle id .idle ∨ s.InRun id .waiting ∨ s.InRun id .creating

/-- What an operation brings about. -/
def Done (s : EduMgr) (id : EduId) : ManagerOp → Prop
  | .activate => s.InRun id .running
  | .wait => s.InRun id .waiting
  | .deactivate => s.InIdle id .idle
  | .destroy => s.find id = none

end ManagerOp

/-! ### returnEDU -/

namespace EduMgr

/-- `returnEDU` destroys an EDU of this type and does not pool it. -/
def destroys (s : EduMgr) (maxPool : Nat) (type : EduType) (force : Bool) : Bool :=
  isPoolable type = false || force || s.isDestroyed || decide (maxPool < s.size)

/-- A call `returnEDU(id, force, &destroyed)` with no other thread between its sections: its
code and `*destroyed`. -/
def returnEduCall (s : EduMgr) (maxPool : Nat) (id : EduId) (force : Bool) :
    Option ((ReturnCode × Bool) × EduMgr) :=
  match s.find id with
  | none => some ((edbSys, false), s)
  | some p =>
      (s.blocks p).bind fun cb =>
        if s.destroys maxPool cb.type force then
          (s.destroyEdu id).map fun (rc, s) =>
            ((rc, decide (rc = edbOk ∨ rc = edbSys)), s)
        else
          (s.deactivateEdu id).map fun (rc, s) => ((rc, decide (rc = edbSys)), s)

end EduMgr

end EmeraldDb
