/-
Module: EmeraldDb.Proofs.EduStatus
Purpose: An EDU in the idle queue has status idle, one in the run queue does not, as long
  as waitEvent, which writes without the latch, writes no status of an EDU that is pooled.
Trusted boundary: none
Main exports: EduMgr.StatusesAgree, EduAccess.WaitEventWrites, EduAccess.WritesOutsidePool,
  statuses_agree_iff, pooledMessage_disagrees
-/
import EmeraldDb.Proofs.EduAccess

namespace EmeraldDb

/-- `waitEvent` writes the status of this control block. -/
def EduLabel.WritesStatus (p : Ptr) : EduLabel → Prop
  | .markWaiting q => q = p
  | .endWait q event => q = p ∧ event.eventType ≠ .term
  | _ => False

namespace EduMgr

variable {s s' : EduMgr} {p : Ptr} {cb : ControlBlock} {label : EduLabel}

/-- Every control block in a queue has a status of that queue. -/
structure StatusesAgree (s : EduMgr) : Prop where
  idle : ∀ id p cb, s.idleQueue.lookup id = some p → s.blocks p = some cb →
    cb.status = .idle
  run : ∀ id p cb, s.runQueue.lookup id = some p → s.blocks p = some cb →
    cb.status.isBusy = true

theorem isBusy_of_marked {status : EduStatus} (marked : status = .running ∨ status = .waiting) :
    status.isBusy = true := by
  rcases marked with rfl | rfl <;> rfl

/-- A write to one control block, when the others agree already. -/
theorem agree_setBlock
    (idle : ∀ id q other, s.idleQueue.lookup id = some q → q ≠ p → s.blocks q = some other →
      other.status = .idle)
    (run : ∀ id q other, s.runQueue.lookup id = some q → q ≠ p → s.blocks q = some other →
      other.status.isBusy = true)
    (idleHere : ∀ id, s.idleQueue.lookup id = some p → cb.status = .idle)
    (runHere : ∀ id, s.runQueue.lookup id = some p → cb.status.isBusy = true) :
    (s.setBlock p cb).StatusesAgree := by
  constructor
  · intro id q other found block
    rcases eq_or_ne q p with rfl | apart
    · cases (Function.update_self ..).symm.trans block
      exact idleHere id found
    · exact idle id q other found apart ((Function.update_of_ne apart ..).symm.trans block)
  · intro id q other found block
    rcases eq_or_ne q p with rfl | apart
    · cases (Function.update_self ..).symm.trans block
      exact runHere id found
    · exact run id q other found apart ((Function.update_of_ne apart ..).symm.trans block)

namespace StatusesAgree

theorem setBlock (agree : s.StatusesAgree)
    (idleHere : ∀ id, s.idleQueue.lookup id = some p → cb.status = .idle)
    (runHere : ∀ id, s.runQueue.lookup id = some p → cb.status.isBusy = true) :
    (s.setBlock p cb).StatusesAgree :=
  agree_setBlock (fun id q other found _ => agree.idle id q other found)
    (fun id q other found _ => agree.run id q other found) idleHere runHere

/-- A write that leaves the status. -/
theorem setBlock_sameStatus {before : ControlBlock} (agree : s.StatusesAgree)
    (block : s.blocks p = some before) (same : cb.status = before.status) :
    (s.setBlock p cb).StatusesAgree := by
  apply agree.setBlock
  · intro id found
    rw [same]
    exact agree.idle id p before found block
  · intro id found
    rw [same]
    exact agree.run id p before found block

/-- Entries may leave and control blocks may be deleted. -/
theorem shrink (agree : s.StatusesAgree)
    (idle : ∀ id p, s'.idleQueue.lookup id = some p → s.idleQueue.lookup id = some p)
    (run : ∀ id p, s'.runQueue.lookup id = some p → s.runQueue.lookup id = some p)
    (blocks : ∀ p cb, s'.blocks p = some cb →
      ∃ before, s.blocks p = some before ∧ cb.status = before.status) :
    s'.StatusesAgree := by
  constructor
  · intro id p cb found block
    rcases blocks p cb block with ⟨before, old, same⟩
    rw [same]
    exact agree.idle id p before (idle id p found) old
  · intro id p cb found block
    rcases blocks p cb block with ⟨before, old, same⟩
    rw [same]
    exact agree.run id p before (run id p found) old

/-- An EDU leaves the run queue and is deleted. -/
theorem eraseRun (agree : s.StatusesAgree) (id : EduId) (p : Ptr) :
    ((s.eraseRun id).deleteBlock p).StatusesAgree := by
  apply agree.shrink
  · exact fun key q idled => idled
  · intro key q ran
    simp only [EduMgr.eraseRun, EduMgr.deleteBlock, lookup_erase_queue] at ran
    split_ifs at ran
    exact ran
  · exact fun q cb block => ⟨cb, (blocks_deleteBlock block).2, rfl⟩

/-- An EDU in the run queue gets a status of an EDU at work. -/
theorem mark {id : EduId} (agree : s.StatusesAgree) (structured : s.Structured)
    (found : s.runQueue.lookup id = some p) (busy : cb.status.isBusy = true) :
    (s.setBlock p cb).StatusesAgree := by
  apply agree.setBlock
  · intro key idled
    have same := (structured.ran found).1.trans (structured.idled idled).1.symm
    rw [same] at found
    cases (structured.apart found).symm.trans idled
  · exact fun key ran => busy

/-- An EDU leaves the idle queue with a status of an EDU at work. -/
theorem moveToRun {id : EduId} (agree : s.StatusesAgree) (structured : s.Structured)
    (found : s.idleQueue.lookup id = some p) (busy : cb.status.isBusy = true) :
    ((s.moveToRun id p).setBlock p cb).StatusesAgree := by
  apply agree_setBlock
  · intro key q other idled apart old
    simp only [EduMgr.moveToRun, lookup_erase_queue] at idled
    split_ifs at idled
    exact agree.idle key q other idled old
  · intro key q other ran apart old
    simp only [EduMgr.moveToRun, lookup_insert_queue] at ran
    split_ifs at ran
    · exact absurd (Option.some.inj ran).symm apart
    · exact agree.run key q other ran old
  · intro key idled
    simp only [EduMgr.moveToRun, lookup_erase_queue] at idled
    split_ifs at idled with other
    exact absurd ((structured.idled idled).1.trans (structured.idled found).1.symm) other
  · exact fun key ran => busy

/-- An EDU enters the idle queue as idle. -/
theorem moveToIdle {id : EduId} (agree : s.StatusesAgree) (structured : s.Structured)
    (found : s.runQueue.lookup id = some p) (idle : cb.status = .idle) :
    ((s.moveToIdle id p).setBlock p cb).StatusesAgree := by
  apply agree_setBlock
  · intro key q other idled apart old
    simp only [EduMgr.moveToIdle, lookup_insert_queue] at idled
    split_ifs at idled
    · exact absurd (Option.some.inj idled).symm apart
    · exact agree.idle key q other idled old
  · intro key q other ran apart old
    simp only [EduMgr.moveToIdle, lookup_erase_queue] at ran
    split_ifs at ran
    exact agree.run key q other ran old
  · exact fun key idled => idle
  · intro key ran
    simp only [EduMgr.moveToIdle, lookup_erase_queue] at ran
    split_ifs at ran with other
    exact absurd ((structured.ran ran).1.trans (structured.ran found).1.symm) other

/-- An EDU leaves the idle queue and is deleted. -/
theorem eraseIdle (agree : s.StatusesAgree) (id : EduId) (p : Ptr) :
    ((s.eraseIdle id).deleteBlock p).StatusesAgree := by
  apply agree.shrink
  · intro key q idled
    simp only [EduMgr.eraseIdle, EduMgr.deleteBlock, lookup_erase_queue] at idled
    split_ifs at idled
    exact idled
  · exact fun key q ran => ran
  · exact fun q cb block => ⟨cb, (blocks_deleteBlock block).2, rfl⟩

/-- A control block that is in neither queue may have any status. -/
theorem setOutside (agree : (s.deleteBlock p).StatusesAgree) (left : ∀ id, ¬ s.Queued id p) :
    (s.setBlock p cb).StatusesAgree := by
  apply agree_setBlock
  · intro key q other idled apart old
    exact agree.idle key q other idled ((Function.update_of_ne apart ..).trans old)
  · intro key q other ran apart old
    exact agree.run key q other ran ((Function.update_of_ne apart ..).trans old)
  · exact fun key idled => absurd (.inr idled) (left key)
  · exact fun key ran => absurd (.inl ran) (left key)

end StatusesAgree

theorem receive_status_term {event : EduEvent} (term : event.eventType = .term) :
    (receive cb event).status = cb.status := by
  rw [receive, if_pos term]

theorem receive_status_other {event : EduEvent} (other : event.eventType ≠ .term) :
    (receive cb event).status = .running := by
  rw [receive, if_neg other]

/-- Every change keeps statuses and queues in agreement, but for a write of `waitEvent` to
an idle EDU. -/
theorem Change.statusesAgree (change : Change s label s') (structured : s.Structured)
    (agree : s.StatusesAgree)
    (outside : ∀ p id, label.WritesStatus p → s.idleQueue.lookup id ≠ some p) :
    s'.StatusesAgree := by
  cases change with
  | keep run idle ids ptrs blocks =>
      apply agree.shrink
      · simp [idle]
      · simp [run]
      · rw [blocks]
        exact fun p cb block => ⟨cb, block, rfl⟩
  | force run idle ids ptrs blocks =>
      apply agree.shrink
      · simp [idle]
      · simp [run]
      · intro p cb found
        rcases blocks p with same | forced
        · exact ⟨cb, same.symm.trans found, rfl⟩
        · rw [forced] at found
          rcases Option.map_eq_some_iff.mp found with ⟨before, block, rfl⟩
          exact ⟨before, block, rfl⟩
  | mark found block marked => exact agree.mark structured found (isBusy_of_marked marked)
  | reuse found block idle typed marked =>
      exact agree.moveToRun structured found (isBusy_of_marked marked)
  | pool found block waits => exact agree.moveToIdle structured found rfl
  | destroyRun found block waits => exact agree.eraseRun _ _
  | destroyIdle absent found block idle => exact agree.eraseIdle _ _
  | create newRun newIdle =>
      constructor
      · intro id q other idled block
        rcases blocks_setBlock block with ⟨rfl, -⟩ | old
        · exact absurd (structured.idled idled).2 (Nat.lt_irrefl _)
        · exact agree.idle id q other idled old
      · intro id q other ran block
        rcases blocks_setBlock block with ⟨rfl, rfl⟩ | old
        · rfl
        · simp only [lookup_insert_queue] at ran
          split_ifs at ran
          · cases ran
            exact absurd (structured.allocated old).2 (Nat.lt_irrefl _)
          · exact agree.run id q other ran old
  | undo block => exact agree.eraseRun _ _
  | post block => exact agree.setBlock_sameStatus block rfl
  | take block queued => exact agree.setBlock_sameStatus block rfl
  | markWaiting block =>
      apply agree.setBlock
      · exact fun id idled => absurd idled (outside _ id rfl)
      · exact fun id ran => rfl
  | @endWait p cb event block =>
      rcases eq_or_ne event.eventType .term with term | other
      · exact agree.setBlock_sameStatus block (receive_status_term term)
      · apply agree.setBlock
        · exact fun id idled => absurd idled (outside p id ⟨rfl, other⟩)
        · intro id ran
          rw [receive_status_other other]
          rfl

/-- What a section writes keeps statuses and queues in agreement, whatever `waitEvent` has
written since its test. -/
theorem write_statusesAgree {w : EduWrite} (structured : s.Structured) (sound : w.Sound s)
    (agree : s.StatusesAgree) (written : s.write w = some s') : s'.StatusesAgree := by
  cases w <;> rcases Option.map_eq_some_iff.mp written with ⟨cb, block, same⟩ <;>
    have stands := sound cb block
  case activate id p =>
    cases same
    exact agree.mark structured stands.1 rfl
  case reactivate id p =>
    cases same
    exact agree.moveToRun structured stands.1 rfl
  case deactivate id p =>
    cases same
    exact agree.moveToIdle structured stands.1 rfl
  case destroyRun id p =>
    cases same
    exact (agree.eraseRun id p).setOutside
      (destroyRun_sound structured sound written _ (Function.update_self ..))
  case destroyIdle id p =>
    cases same
    exact (agree.eraseIdle id p).setOutside
      (destroyIdle_sound structured sound written _ (Function.update_self ..))
  case delete p =>
    cases same
    exact agree.shrink (fun key q idled => idled) (fun key q ran => ran)
      fun q other block => ⟨other, (blocks_deleteBlock block).2, rfl⟩
  case take id p type =>
    cases same
    exact agree.moveToRun structured stands.1 rfl

/-- A status other than IDLE is written, and the idle queue stays. -/
def Marks (s s' : EduMgr) (p : Ptr) : Prop :=
  s'.idleQueue = s.idleQueue ∧ ∃ cb, s'.blocks p = some cb ∧ cb.status ≠ .idle

theorem markWaiting_marks (result : s.markWaiting p = some s') : s.Marks s' p := by
  rcases Option.map_eq_some_iff.mp result with ⟨cb, block, rfl⟩
  exact ⟨rfl, _, Function.update_self .., nofun⟩

theorem endWait_marks {event : EduEvent} (other : event.eventType ≠ .term)
    (result : s.endWait p event = some s') : s.Marks s' p := by
  rcases Option.map_eq_some_iff.mp result with ⟨cb, block, rfl⟩
  refine ⟨rfl, _, Function.update_self .., ?_⟩
  rw [receive_status_other other]
  exact nofun

theorem Marks.outside (marks : s.Marks s' p) (agree : s'.StatusesAgree) (id : EduId) :
    s.idleQueue.lookup id ≠ some p := by
  rcases marks with ⟨same, cb, block, status⟩
  rw [← same]
  exact fun idled => status (agree.idle id p cb idled block)

end EduMgr

/-- `waitEvent` comes to its next write of the status: WAITING, or RUNNING for an event that
is not TERM. -/
def EduPc.writesStatus : EduPc → Bool
  | .marking => true
  | .receiving event => event.eventType ≠ .term
  | _ => false

def WaitStage.writesStatus (p : Ptr) : WaitStage → Bool
  | .marking q => q = p
  | .receiving q event => q = p && event.eventType ≠ .term
  | _ => false

namespace EduAccess

variable {s s' : EduAccess} {maxPool : Nat} {reply : AccessReply} {action : AccessAction}

/-- The action is a write of `waitEvent` to the status of a control block, by the EDU's
thread or in a call of `waitEDUPost`. -/
def WaitEventWrites (s : EduAccess) (action : AccessAction) (p : Ptr) : Prop :=
  (∃ t, action = .edu (.thread p .goOn) ∧ s.holder ≠ some (.thread p .goOn) ∧
      s.sys.threads p = some t ∧ t.pc.writesStatus = true) ∨
    ∃ c call, action = .stepWait c .goOn ∧ s.waits c = some call ∧
      call.stage.writesStatus p = true

/-- `waitEvent` writes the status of no EDU that is in the idle queue. -/
def WritesOutsidePool (s : EduAccess) (action : AccessAction) : Prop :=
  ∀ p id, s.WaitEventWrites action p → s.sys.mgr.idleQueue.lookup id ≠ some p

theorem WaitEventWrites.marks {p : Ptr} (writes : s.WaitEventWrites action p)
    (completes : exec maxPool action s = some (reply, s')) :
    s.sys.mgr.Marks s'.sys.mgr p := by
  rcases writes with ⟨t, rfl, other, found, writes⟩ | ⟨c, call, rfl, called, writes⟩
  · cases exec_step completes with
    | done elsewhere latched plain ran =>
        rcases Option.bind_eq_some_iff.mp ran with ⟨u, there, stepped⟩
        cases found.symm.trans there
        have step := EduSystem.stepThread_step stepped
        generalize t.pc = pc at step writes
        cases step with
        | marked result => exact EduMgr.markWaiting_marks result
        | received result =>
            exact EduMgr.endWait_marks (of_decide_eq_true writes) result
        | _ => cases writes
    | decided took decides =>
        simp only [EduSystem.decides, found, Option.bind_some] at decides
        cases here : t.pc <;> simp [here, EduPc.writesStatus] at writes decides
    | destroyed held destroys written => exact absurd (by rw [holder, held]; rfl) other
    | finished held last written ends => exact absurd (by rw [holder, held]; rfl) other
  · cases exec_step completes with
    | waited found here step =>
        cases called.symm.trans found
        rw [here] at writes
        cases step with
        | marked result =>
            cases of_decide_eq_true writes
            exact EduMgr.markWaiting_marks result
        | received result =>
            have both := Bool.and_eq_true_iff.mp writes
            cases of_decide_eq_true both.1
            exact EduMgr.endWait_marks (of_decide_eq_true both.2) result
        | _ => cases writes

/-- Whoever may write a status without the latch in an EDU thread is `waitEvent`. -/
theorem waitEventWrites_thread {action : EduAction} {label : EduLabel} {p : Ptr}
    (other : s.holder ≠ some action) (permits : s.sys.Permits action label)
    (writes : label.WritesStatus p) : s.WaitEventWrites (.edu action) p := by
  cases label with
  | markWaiting q =>
      cases writes
      rcases permits with ⟨t, rfl, found, here⟩
      exact .inl ⟨t, rfl, other, found, by rw [here]; rfl⟩
  | endWait q event =>
      rcases writes with ⟨rfl, notTerm⟩
      rcases permits with ⟨t, rfl, found, here⟩
      exact .inl ⟨t, rfl, other, found, by rw [here]; exact decide_eq_true notTerm⟩
  | _ => cases writes

theorem statusesAgree_step (structured : s.Structured) (agree : s.sys.mgr.StatusesAgree)
    (completes : exec maxPool action s = some (reply, s')) :
    s'.sys.mgr.StatusesAgree ↔ s.WritesOutsidePool action := by
  constructor
  · exact fun after p id writes => (writes.marks completes).outside after id
  · intro outside
    cases exec_step completes with
    | done other latched plain ran =>
        rcases EduSystem.exec_change ran with ⟨label, change, permits⟩
        exact change.statusesAgree structured.sys.mgr agree fun p id writes =>
          outside p id (waitEventWrites_thread other permits writes)
    | decided took decides => exact agree
    | destroyed held destroys written =>
        exact EduMgr.write_statusesAgree structured.sys.mgr (structured.sound held) agree written
    | finished held last written ends =>
        dsimp only
        rw [EduSystem.finish_mgr ends]
        exact EduMgr.write_statusesAgree structured.sys.mgr (structured.sound held) agree written
    | called => exact agree
    | @waited c choice call stage reply s' found here step =>
        cases step with
        | marked result =>
            refine (EduMgr.markWaiting_change result).statusesAgree structured.sys.mgr agree ?_
            rintro p id rfl
            exact outside _ id (.inr ⟨c, call, rfl, found, by rw [here]; exact decide_eq_true rfl⟩)
        | took waits result =>
            exact (EduMgr.takeEvent_change result).statusesAgree structured.sys.mgr agree nofun
        | received result =>
            refine (EduMgr.endWait_change result).statusesAgree structured.sys.mgr agree ?_
            rintro p id ⟨rfl, notTerm⟩
            refine outside _ id (.inr ⟨c, call, rfl, found, ?_⟩)
            rw [here]
            exact Bool.and_eq_true_iff.mpr ⟨decide_eq_true rfl, decide_eq_true notTerm⟩
        | _ => exact agree

theorem init_statusesAgree : init.sys.mgr.StatusesAgree where
  idle id p cb found := by cases found
  run id p cb found := by cases found

end EduAccess

/-- The statuses agree with the queues all along a run exactly if `waitEvent` never writes
the status of an EDU that is in the idle queue. -/
theorem statuses_agree_iff {maxPool : Nat}
    {allowed : AccessTrace → EduAccess → AccessAction → Prop} {trace : AccessTrace}
    {s : EduAccess} (run : AccessRun maxPool allowed trace s) :
    (∀ t ∈ trace, t.post.sys.mgr.StatusesAgree) ↔
      ∀ t ∈ trace, t.pre.WritesOutsidePool t.action :=
  (run.holds_iff AccessRun.structured EduAccess.init_statusesAgree
    fun structured agree _ completes =>
      EduAccess.statusesAgree_step structured agree completes).1

/-- Another thread pools a new agent between the test of its waitEvent and the write. -/
def lateMarkRun : List AccessAction :=
  .edu (.startEdu .agent 7) ::
    (List.replicate 5 (.edu (.stepStart 0 true)) ++ List.replicate 2 (.edu (.thread 0 .goOn)) ++
      .edu (.returnEdu 1 false) :: List.replicate 5 (.edu (.stepReturn 0)) ++
      [.edu (.thread 0 .goOn)])

example :
    (Run.follow (EduAccess.exec 5) (fun _ _ => true) lateMarkRun .init).map
      (fun s => (s.sys.mgr.idleQueue.lookup 1, s.sys.mgr.status 0)) =
        some (some 0, some .waiting) := rfl

/-- A message is posted to the idle agent, which takes it.  One section of the session, the
one that pools the agent, writes after a test, so the session takes one action more. -/
def pooledMessageRun : List AccessAction :=
  agentSession.map .edu ++ [.edu (.thread 0 .goOn), .edu (.postEduPost 1 ⟨.msg, false, 0⟩),
    .edu (.thread 0 .take), .edu (.thread 0 .goOn)]

theorem pooledMessageRun_follows :
    ∃ trace s, AccessRun 5 (fun _ _ _ => True) trace s ∧
      s.holder = none ∧ s.sys.mgr.idleQueue.lookup 1 = some 0 ∧
      ∃ cb, s.sys.mgr.blocks 0 = some cb ∧ cb.status = .running := by
  have ends : (Run.follow (EduAccess.exec 5) (fun _ _ => true) pooledMessageRun .init).map
      (fun s => (s.holder, s.sys.mgr.idleQueue.lookup 1,
        (s.sys.mgr.blocks 0).map ControlBlock.status)) =
        some (none, some 0, some .running) := rfl
  rcases Option.map_eq_some_iff.mp ends with ⟨s, followed, seen⟩
  rcases Run.of_follow (fun _ => trivial) .start followed with ⟨trace, run⟩
  have queued := congrArg Prod.snd seen
  exact ⟨_, s, run, congrArg Prod.fst seen, congrArg Prod.fst queued,
    Option.map_eq_some_iff.mp (congrArg Prod.snd queued)⟩

theorem statuses_agree_iff_pooledMessage :
    ∃ trace s, AccessRun 5 (fun _ _ _ => True) trace s ∧
      s.sys.mgr.idleQueue.lookup 1 = some 0 ∧
      ((∀ t ∈ trace, t.post.sys.mgr.StatusesAgree) ↔
        ∀ t ∈ trace, t.pre.WritesOutsidePool t.action) := by
  rcases pooledMessageRun_follows with ⟨trace, s, run, -, idled, -⟩
  exact ⟨trace, s, run, idled, statuses_agree_iff run⟩

/-- Between sections the agent is in the idle queue with status running, so it is neither
chosen again nor destroyed. -/
theorem pooledMessage_disagrees :
    ∃ trace s, AccessRun 5 (fun _ _ _ => True) trace s ∧
      s.holder = none ∧ s.sys.mgr.idleQueue.lookup 1 = some 0 ∧ ¬ s.sys.mgr.StatusesAgree := by
  rcases pooledMessageRun_follows with ⟨trace, s, run, between, idled, cb, block, running⟩
  refine ⟨trace, s, run, between, idled, fun agree => ?_⟩
  cases running.symm.trans (agree.idle 1 0 cb idled block)

end EmeraldDb
