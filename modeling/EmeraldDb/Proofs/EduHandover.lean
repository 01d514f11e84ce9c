/-
Module: EmeraldDb.Proofs.EduHandover
Purpose: The EDU that startEDU has chosen or created is there until its thread has taken
  the RESUME event, provided that no force is read in between.
Trusted boundary: none
Main exports: HandsOver, EduRun.handsOver
-/
import EmeraldDb.Proofs.EduLifecycle

namespace EmeraldDb

namespace EduMgr

variable {s s' : EduMgr} {p : Ptr} {cb : ControlBlock} {label : EduLabel}

/-- A control block goes when its EDU is destroyed or its creation is undone. -/
theorem Change.keepsBlock (change : Change s label s') (block : s.blocks p = some cb) :
    (∃ after, s'.blocks p = some after) ∨ (∃ id, label = .destroy id) ∨
      ∃ id, label = .undo id p := by
  have written : ∀ q after, ∃ other, (s.setBlock q after).blocks p = some other := by
    intro q after
    rcases eq_or_ne p q with rfl | apart
    · exact ⟨after, Function.update_self ..⟩
    · exact ⟨cb, (Function.update_of_ne apart ..).trans block⟩
  cases change with
  | keep run idle ids ptrs blocks => exact .inl ⟨cb, by rw [blocks, block]⟩
  | force run idle ids ptrs blocks =>
      rcases blocks p with same | forced
      · exact .inl ⟨cb, same.trans block⟩
      · rw [block] at forced
        exact .inl ⟨_, forced⟩
  | destroyRun found other waits => exact .inr (.inl ⟨_, rfl⟩)
  | destroyIdle absent found other idle => exact .inr (.inl ⟨_, rfl⟩)
  | @undo id q other there =>
      rcases eq_or_ne p q with rfl | apart
      · exact .inr (.inr ⟨_, rfl⟩)
      · exact .inl ⟨cb, (Function.update_of_ne apart ..).trans block⟩
  | _ => exact .inl (written _ _)

theorem Change.sparesBlock (change : Change s label s') (block : s.blocks p = some cb)
    (lives : ∀ id, label ≠ .destroy id) (stays : ∀ id, label ≠ .undo id p) :
    ∃ after, s'.blocks p = some after := by
  rcases change.keepsBlock block with after | ⟨id, destroyed⟩ | ⟨id, undone⟩
  · exact after
  · exact absurd destroyed (lives id)
  · exact absurd undone (stays id)

end EduMgr

namespace EduSystem

variable {s s' : EduSystem} {maxPool : Nat} {reply : EduReply} {action : EduAction}
  {p : Ptr} {t : EduThread} {cb : ControlBlock} {owed : List (EduType × Nat)}

/-- While a request is outstanding, the EDU is in the run queue and its thread, if it has
been created, waits. -/
theorem phase_outstanding (phase : EduPhase s p owed) (outstanding : s.Outstanding p) :
    ∃ cb, InRun s.mgr p cb ∧ ∀ t, s.threads p = some t → t.pc.waits = true := by
  rcases outstanding with ⟨c, call, id, found, aims⟩ | ⟨cb, event, block, queued, -⟩
  · rcases (phase_claimed phase found aims).2.2 with
      ⟨-, thread, cb, run, -⟩ | ⟨-, cb, t, run, -, -, -, attends, waits⟩
    · exact ⟨cb, run, fun t there => by cases thread.symm.trans there⟩
    · exact ⟨cb, run, fun u there => by cases attends.thread.symm.trans there; exact waits⟩
  · have busy : ∀ {other}, s.mgr.blocks p = some other → other.queue ≠ [] := by
      rintro other there empty
      cases block.symm.trans there
      rw [empty] at queued
      cases queued
    cases phase with
    | absent left thread free => cases left.block.symm.trans block
    | creating claimed stage run typed entry status empty thread =>
        exact absurd empty (busy run.block)
    | waiting thread waits marks awaits =>
        cases awaits with
        | chosen claimed stage run typed status empty => exact absurd empty (busy run.block)
        | pending free run status queued =>
            exact ⟨_, run, fun u there => by cases thread.thread.symm.trans there; exact waits⟩
        | pooled free idle agent empty => exact absurd empty (busy idle.block)
    | serving free run empty thread serves => exact absurd empty (busy run.block)
    | retiring free idle thread forced returning early empty =>
        exact absurd empty (busy idle.block)
    | gone left thread ended free => cases left.block.symm.trans block

/-- A call of `startEDU` deletes an EDU only if its thread could not be created. -/
theorem startStep_keepsBlock {c : Nat} {call : StartCall} {stage : StartStage}
    {granted : Bool} (block : s.mgr.blocks p = some cb)
    (step : StartStep s c call stage granted reply s') :
    (∃ after, s'.mgr.blocks p = some after) ∨
      ∃ id, stage = .createThread id p ∧ granted = false := by
  cases step with
  | chose result => exact .inl ((EduMgr.selectIdle_change result).sparesBlock block nofun nofun)
  | placed result => exact .inl ((EduMgr.insertEdu_change result).2.sparesBlock block nofun nofun)
  | posted result => exact .inl ((EduMgr.postEvent_change result).sparesBlock block nofun nofun)
  | failed result =>
      rcases (EduMgr.rollbackEdu_change result).keepsBlock block with
        after | ⟨id, destroys⟩ | ⟨id, undoes⟩
      · exact .inl after
      · cases destroys
      · cases undoes
        exact .inr ⟨_, rfl, rfl⟩
  | _ => exact .inl ⟨cb, block⟩

/-- A thread that waits does not delete its EDU. -/
theorem threadStep_keepsBlock {pc : EduPc} {choice : EduChoice} (waits : pc.waits = true)
    (block : s.mgr.blocks p = some cb)
    (step : ThreadStep s maxPool p t pc choice reply s') :
    ∃ after, s'.mgr.blocks p = some after := by
  cases step with
  | looped there => exact ⟨cb, block⟩
  | tested there => exact ⟨cb, block⟩
  | marked result => exact (EduMgr.markWaiting_change result).sparesBlock block nofun nofun
  | took position result => exact (EduMgr.takeEvent_change result).sparesBlock block nofun nofun
  | slept there empty => exact ⟨cb, block⟩
  | ranOut => exact ⟨cb, block⟩
  | forced there forced => exact ⟨cb, block⟩
  | again there unforced => exact ⟨cb, block⟩
  | _ => cases waits

/-- While a request to an EDU is outstanding, the EDU stays, unless its thread cannot be
created. -/
theorem Lifecycle.keepsBlock (life : s.Lifecycle) (session : action.isSession = true)
    (completes : exec maxPool action s = some (reply, s')) (outstanding : s.Outstanding p) :
    (∃ after, s'.mgr.blocks p = some after) ∨ ∃ id, s.FailsThread action id p := by
  rcases life.phases p with ⟨owed, phase⟩
  rcases phase_outstanding phase outstanding with ⟨cb, run, waits⟩
  cases action with
  | startEdu type arg =>
      cases completes
      exact .inl ⟨cb, run.block⟩
  | stepStart c granted =>
      rcases Option.bind_eq_some_iff.mp completes with ⟨call, found, stepped⟩
      rcases startStep_keepsBlock run.block (stepStart_step stepped) with
        after | ⟨id, staged, rfl⟩
      · exact .inl after
      · exact .inr ⟨id, c, call, rfl, found, staged⟩
  | forceUserEdu id =>
      rcases Option.map_eq_some_iff.mp completes with ⟨⟨rc, mgr⟩, forced, same⟩
      cases same
      rcases (sameAt_force forced p).block_eq run.block with ⟨flag, after⟩
      exact .inl ⟨_, after⟩
  | thread q choice =>
      rcases Option.bind_eq_some_iff.mp completes with ⟨t, found, stepped⟩
      have step := stepThread_step stepped
      rcases eq_or_ne p q with rfl | apart
      · exact .inl (threadStep_keepsBlock (waits t found) run.block step)
      · rcases (sameAt_thread life.structured found rfl step apart).block_eq run.block with
          ⟨flag, after⟩
        exact .inl ⟨_, after⟩
  | _ => cases session

end EduSystem

/-- Requests reach their EDUs: whoever is about to post RESUME posts to a control block
that is there, and no EDU goes while a request to it is outstanding, except when `startEDU`
fails to create its thread. -/
structure HandsOver (trace : EduTrace) (s : EduSystem) : Prop where
  posted : ∀ c call id p, s.starts c = some call → call.stage = .post id p →
    ∃ cb, s.mgr.blocks p = some cb
  kept : ∀ t ∈ trace, ∀ p, t.pre.Outstanding p →
    (∃ cb, t.post.mgr.blocks p = some cb) ∨ ∃ id, t.pre.FailsThread t.action id p

/-- If no thread reads a force while a request to its EDU is outstanding, and startEDU takes
no idle EDU whose thread has read one, every request reaches its EDU. -/
theorem requests_handedOver {maxPool : Nat} {trace : EduTrace} {s : EduSystem}
    (run : EduRun maxPool
      (fun _ s action => action.isSession = true ∧ s.ReadsForceApart action) trace s) :
    HandsOver trace s := by
  constructor
  · intro c call id p found staged
    rcases run.lifecycle.phases p with ⟨owed, phase⟩
    rcases EduSystem.phase_outstanding phase
      (.inl ⟨c, call, id, found, by rw [staged]; rfl⟩) with ⟨cb, ran, -⟩
    exact ⟨cb, ran.block⟩
  · induction run with
    | start => exact fun t member => by cases member
    | step past guard completes ih =>
        rw [List.forall_mem_append, List.forall_mem_singleton]
        exact ⟨ih, fun p => (EduRun.lifecycle past).keepsBlock guard.1 completes⟩

/-- A test of `ReadsForceApart` that is enough: no force is read at all, and the thread of
the EDU that startEDU takes has read none. -/
def EduSystem.readsNoForce (s : EduSystem) : EduAction → Bool
  | .thread p .goOn =>
      (s.threads p).all fun t =>
        t.pc ≠ .timedOut || (s.mgr.blocks p).all fun cb => !cb.isForced
  | .stepStart c _ =>
      (s.starts c).all fun call =>
        (s.mgr.selectIdle call.type).all fun
          | (.chosen _ p, _) => (s.threads p).all fun t => !t.isForced
          | _ => true
  | _ => true

theorem EduSystem.readsForceApart_of_readsNoForce {s : EduSystem} {action : EduAction}
    (passes : s.readsNoForce action = true) : s.ReadsForceApart action where
  timedOut p t cb acts found here block forced := by
    subst acts
    simp [readsNoForce, found, here, block, forced] at passes
  select c granted call id p m t acts found here result thread := by
    subst acts
    simpa [readsNoForce, found, result, thread] using passes

/-- An agent is forced during its session and pooled afterwards, and the next startEDU of
an agent has taken it from the pool. -/
def forcedReuseRun : List EduAction :=
  .startEdu .agent 7 :: List.replicate 6 (.stepStart 0 true) ++
    List.replicate 3 (.thread 0 .goOn) ++ .thread 0 .take ::
    List.replicate 3 (.thread 0 .goOn) ++ .forceUserEdu 1 ::
    List.replicate 6 (.thread 0 .goOn) ++ .startEdu .agent 8 ::
    List.replicate 2 (.stepStart 1 true)

theorem requests_handedOver_reuse :
    ∃ trace s, EduRun 5
      (fun _ s action => action.isSession = true ∧ s.ReadsForceApart action) trace s ∧
      (s.starts 1).map StartCall.stage = some (.post 1 0) ∧ HandsOver trace s := by
  have ends : (Run.follow (EduSystem.exec 5)
      (fun s action => action.isSession && s.readsNoForce action)
      forcedReuseRun .init).map (fun s => (s.starts 1).map StartCall.stage) =
        some (some (.post 1 0)) := rfl
  rcases Option.map_eq_some_iff.mp ends with ⟨s, followed, chosen⟩
  have guard : ∀ {s : EduSystem} {action}, (action.isSession && s.readsNoForce action) = true →
      action.isSession = true ∧ s.ReadsForceApart action := fun passes =>
    have ⟨session, unread⟩ := Bool.and_eq_true_iff.mp passes
    ⟨session, EduSystem.readsForceApart_of_readsNoForce unread⟩
  rcases Run.of_follow guard .start followed with ⟨trace, run⟩
  exact ⟨_, s, run, chosen, requests_handedOver run⟩

/-- The thread of a new EDU waits, times out and reads the force before RESUME is posted. -/
def forcedHandoverRun : List EduAction :=
  .startEdu .agent 7 :: List.replicate 5 (.stepStart 0 true) ++
    List.replicate 4 (.thread 0 .goOn) ++ .thread 0 .timeOut :: .forceUserEdu 1 ::
    List.replicate 4 (.thread 0 .goOn)

/-- The call of startEDU is about to post RESUME to a deleted control block. -/
theorem forcedHandover_deleted :
    ∃ trace s, EduRun 5 (fun _ _ action => action.isSession = true) trace s ∧
      (s.starts 0).map StartCall.stage = some (.post 1 0) ∧ s.mgr.blocks 0 = none := by
  have ends : (Run.follow (EduSystem.exec 5) (fun _ action => action.isSession)
      forcedHandoverRun .init).map (fun s =>
        ((s.starts 0).map StartCall.stage, (s.mgr.blocks 0).isNone)) =
          some (some (.post 1 0), true) := rfl
  rcases Option.map_eq_some_iff.mp ends with ⟨s, followed, seen⟩
  rcases Run.of_follow id .start followed with ⟨trace, run⟩
  exact ⟨_, s, run, congrArg Prod.fst seen,
    Option.isNone_iff_eq_none.mp (congrArg Prod.snd seen)⟩

end EmeraldDb
