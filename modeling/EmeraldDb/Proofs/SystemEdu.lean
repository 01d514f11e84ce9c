/-
Module: EmeraldDb.Proofs.SystemEdu
Purpose: The two notions of a system EDU: by type, and by the map of registered ids.
Trusted boundary: none
Main exports: EduMgr.TreatedAsSystem, EduMgr.NotionsAgree, systemNotions_agree_iff
-/
import EmeraldDb.Pmd.EduShutdown
import EmeraldDb.Proofs.EduFlags
import EmeraldDb.Proofs.EduStructure

namespace EmeraldDb

namespace EduMgr

/-- What the manager grants to a system EDU: `forceUserEDU` refuses it and changes nothing,
and `_forceEDUs` and `_getEDUCount` leave it out when they are about user EDUs. -/
structure TreatedAsSystem (s : EduMgr) (id : EduId) (p : Ptr) : Prop where
  refused : s.forceUserEdu id = some (edbPmdForceSystemEdu, s)
  spared : (s.forceEdus eduUser).blocks p = s.blocks p
  uncounted : ((s.eraseRun id).eraseIdle id).getEduCount eduUser = s.getEduCount eduUser

/-- The two notions agree on an EDU, and a system EDU is treated as one. -/
structure NotionsAgree (s : EduMgr) (id : EduId) (p : Ptr) (cb : ControlBlock) : Prop where
  agree : s.isSystemEdu id = isSystemEduType cb.type
  treated : isSystemEduType cb.type = true → s.TreatedAsSystem id p

theorem isSystemEdu_of_none {s : EduMgr} (unregistered : s.systemEdus = fun _ => none)
    (id : EduId) : s.isSystemEdu id = false := by
  simp [isSystemEdu, unregistered]

end EduMgr

/-- What the server does: first pmdMasterThreadMain starts the TCP listener; from then on any
call is made but regSystemEDU, which nothing calls. -/
def EduSystem.serverCalls (s : EduSystem) : EduAction → Bool
  | .regSystemEdu .. => false
  | .startEdu .tcpListener _ => true
  | _ => s.nextStart ≠ 0

/-- The runs of the server from its start-up on. -/
abbrev StartedRun (maxPool : Nat) (trace : EduTrace) (s : EduSystem) : Prop :=
  EduRun maxPool (fun _ s action => s.serverCalls action = true) trace s

theorem EduSystem.exec_systemEdus {s s' : EduSystem} {maxPool : Nat} {reply : EduReply}
    {action : EduAction} (calls : s.serverCalls action = true)
    (completes : exec maxPool action s = some (reply, s')) :
    s'.mgr.systemEdus = s.mgr.systemEdus := by
  cases action with
  | regSystemEdu type id => cases calls
  | setQuiesced =>
      cases completes
      rfl
  | setDestroyed =>
      cases completes
      rfl
  | _ => exact congrArg (·.1) (exec_flags rfl completes)

theorem StartedRun.unregistered {maxPool : Nat} {trace : EduTrace} {s : EduSystem}
    (run : StartedRun maxPool trace s) : s.mgr.systemEdus = fun _ => none := by
  induction run with
  | start => rfl
  | step past guard completes ih =>
      rw [EduSystem.exec_systemEdus guard completes]
      exact ih

theorem isSystemEduType_eq_false_iff (type : EduType) :
    isSystemEduType type = false ↔ type ≠ .tcpListener := by
  cases type <;> decide

/-- The two notions agree on an EDU exactly if it is not a TCP listener. -/
theorem systemNotions_agree_iff {maxPool : Nat} {trace : EduTrace} {s : EduSystem}
    (run : StartedRun maxPool trace s) :
    ∀ id p cb, s.mgr.Queued id p → s.mgr.blocks p = some cb →
      (s.mgr.NotionsAgree id p cb ↔ cb.type ≠ .tcpListener) := by
  intro id p cb _ _
  have user := EduMgr.isSystemEdu_of_none run.unregistered id
  rw [← isSystemEduType_eq_false_iff]
  constructor
  · intro agrees
    exact agrees.agree.symm.trans user
  · intro other
    constructor
    · rw [user, other]
    · intro system
      cases other.symm.trans system

/-- The server's start-up, up to the creation of the listener's thread. -/
def listenerStart : List EduAction :=
  .startEdu .tcpListener 0 :: List.replicate 4 (.stepStart 0 true)

/-- An agent beside the listener. -/
def agentStart : List EduAction :=
  listenerStart ++ .startEdu .agent 7 :: List.replicate 4 (.stepStart 1 true)

theorem systemNotions_agree_agent :
    ∃ trace s cb, StartedRun 5 trace s ∧ s.mgr.Queued 2 1 ∧ s.mgr.blocks 1 = some cb ∧
      s.mgr.NotionsAgree 2 1 cb := by
  have ends : (Run.follow (EduSystem.exec 5) (fun s action => s.serverCalls action)
      agentStart .init).map (fun s =>
        (s.mgr.runQueue.lookup 2, (s.mgr.blocks 1).map ControlBlock.type)) =
          some (some 1, some .agent) := rfl
  rcases Option.map_eq_some_iff.mp ends with ⟨s, followed, seen⟩
  rcases Option.map_eq_some_iff.mp (congrArg Prod.snd seen) with ⟨cb, block, agent⟩
  rcases Run.of_follow id .start followed with ⟨trace, run⟩
  have queued : s.mgr.Queued 2 1 := .inl (congrArg Prod.fst seen)
  have other : cb.type ≠ .tcpListener := by simp [agent]
  exact ⟨_, s, cb, run, queued, block, (systemNotions_agree_iff run 2 1 cb queued block).mpr other⟩

/-- forceUserEDU forces the listener, which is a system EDU by its type. -/
theorem listener_forced :
    ∃ trace s cb forced, StartedRun 5 trace s ∧ s.mgr.Queued 1 0 ∧ s.mgr.blocks 0 = some cb ∧
      isSystemEduType cb.type = true ∧ s.mgr.isSystemEdu 1 = false ∧
      s.mgr.forceUserEdu 1 = some (edbOk, forced) ∧
      (forced.blocks 0).map ControlBlock.isForced = some true := by
  have ends : (Run.follow (EduSystem.exec 5) (fun s action => s.serverCalls action)
      listenerStart .init).map (fun s =>
        ((s.mgr.runQueue.lookup 1, (s.mgr.blocks 0).map ControlBlock.type),
          s.mgr.isSystemEdu 1,
          (s.mgr.forceUserEdu 1).map fun answer =>
            (answer.1, (answer.2.blocks 0).map ControlBlock.isForced))) =
          some ((some 0, some .tcpListener), false, some (edbOk, some true)) := rfl
  rcases Option.map_eq_some_iff.mp ends with ⟨s, followed, seen⟩
  rcases Option.map_eq_some_iff.mp (congrArg (·.1.2) seen) with ⟨cb, block, listener⟩
  rcases Option.map_eq_some_iff.mp (congrArg (·.2.2) seen) with ⟨⟨rc, forced⟩, forces, same⟩
  cases congrArg Prod.fst same
  rcases Run.of_follow id .start followed with ⟨trace, run⟩
  exact ⟨_, s, cb, forced, run, .inl (congrArg (·.1.1) seen), block, by rw [listener]; rfl,
    congrArg (·.2.1) seen, forces, congrArg Prod.snd same⟩

end EmeraldDb
