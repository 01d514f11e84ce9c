/-
Module: EmeraldDb.Pmd.EduShutdown
Purpose: pmdEDUMgr::_getEDUCount, and a thread that runs _destroyAll beside all the others.
Trusted boundary: human-reviewed spec; one step is one critical section or one flag write
Main exports: getEduCount, DestroyStage, EduServer, ServerAction, EduServer.exec, ServerRun
-/
import EmeraldDb.Pmd.EduSystem

namespace EmeraldDb

namespace EduMgr

/-- `EDU_USER`. -/
def eduUser : EduProperty := ⟨false, true⟩

/-- `EDU_ALL`. -/
def eduAll : EduProperty := ⟨true, true⟩

/-- `_getEDUCount`; every EDU is a thread, so the `unsigned int` count does not wrap. -/
def getEduCount (s : EduMgr) (property : EduProperty) : Nat :=
  (s.runQueue.keys.filter fun key =>
    (property.system && s.isSystemEdu key || property.user && !s.isSystemEdu key) = true).card +
  if property.user then s.idleQueue.keys.card else 0

end EduMgr

/-- Where `_destroyAll` stands, with `timeCounter`. -/
inductive DestroyStage where
  | setDestroyed
  | setQuiesced
  /-- the user EDUs are counted -/
  | countUser (timeCounter : Nat)
  /-- some were there, and all user EDUs are forced -/
  | forceUser (timeCounter : Nat)
  /-- all EDUs are counted -/
  | countAll (timeCounter : Nat)
  /-- some were there, and all EDUs are forced -/
  | forceAll (timeCounter : Nat)
  | returned
deriving DecidableEq, Repr

/-- `++timeCounter` of an `unsigned int`. -/
def nextTick (timeCounter : Nat) : Nat := (timeCounter + 1) % 2 ^ 32

/-- The server, and the call of `_destroyAll` once it has been made. -/
structure EduServer where
  sys : EduSystem
  destroyAll : Option DestroyStage

/-- What happens next. -/
inductive ServerAction where
  | edu (action : EduAction)
  | callDestroyAll
  | stepDestroyAll

namespace EduServer

def init : EduServer := ⟨.init, none⟩

/-- One step of `_destroyAll`; the sleeps between two counts are no steps. -/
def stepDestroyAll (s : EduServer) : DestroyStage → Option (EduReply × EduServer)
  | .setDestroyed =>
      some (.nothing, { s with sys.mgr.isDestroyed := true, destroyAll := some .setQuiesced })
  | .setQuiesced =>
      some (.nothing, { s with sys.mgr.isQuiesced := true, destroyAll := some (.countUser 0) })
  | .countUser n =>
      if s.sys.mgr.getEduCount EduMgr.eduUser = 0 then
        some (.nothing, { s with destroyAll := some (.countAll 0) })
      else if n % 50 = 0 then some (.nothing, { s with destroyAll := some (.forceUser n) })
      else some (.nothing, { s with destroyAll := some (.countUser (nextTick n)) })
  | .forceUser n =>
      some (.nothing,
        { s with
          sys.mgr := s.sys.mgr.forceEdus EduMgr.eduUser
          destroyAll := some (.countUser (nextTick n)) })
  | .countAll n =>
      if s.sys.mgr.getEduCount EduMgr.eduAll = 0 then
        some (.returned edbOk, { s with destroyAll := some .returned })
      else if n % 50 = 0 then some (.nothing, { s with destroyAll := some (.forceAll n) })
      else some (.nothing, { s with destroyAll := some (.countAll (nextTick n)) })
  | .forceAll n =>
      some (.nothing,
        { s with
          sys.mgr := s.sys.mgr.forceEdus EduMgr.eduAll
          destroyAll := some (.countAll (nextTick n)) })
  | .returned => none

/-- One action, for a fixed maximal pool. -/
def exec (maxPool : Nat) : ServerAction → EduServer → Option (EduReply × EduServer)
  | .edu action, s =>
      (EduSystem.exec maxPool action s.sys).map fun (reply, sys) =>
        (reply, { s with sys := sys })
  | .callDestroyAll, s =>
      if s.destroyAll = none then
        some (.nothing, { s with destroyAll := some .setDestroyed })
      else none
  | .stepDestroyAll, s => s.destroyAll.bind s.stepDestroyAll

end EduServer

/-- The actions of a run. -/
abbrev ServerTrace := List (Transition EduServer ServerAction EduReply)

/-- The runs of the server, from any state on. -/
abbrev ServerRun (maxPool : Nat) (start : EduServer) (trace : ServerTrace) (s : EduServer) :
    Prop :=
  Run (EduServer.exec maxPool) (fun _ _ _ => True) start trace s

end EmeraldDb
