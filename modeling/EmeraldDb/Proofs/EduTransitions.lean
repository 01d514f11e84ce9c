/-
Module: EmeraldDb.Proofs.EduTransitions
Purpose: Which operation changes the status of an EDU, and from what to what: the EDU
  Status Transition Table, the writes of startEDU and waitEvent beside it, and what is
  written where waitEvent and an operation on the same EDU overlap.
Trusted boundary: none
Main exports: EduOp, EduOp.documented, EduOp.byDesign, EduOp.overlapping,
  EduAccess.Performs, StatusChange
-/
import EmeraldDb.Proofs.EduAccess

namespace EmeraldDb

/-- The operations that write statuses; `waitEvent` writes before it waits, and again when
it delivers an event other than TERM. -/
inductive EduOp where
  | activateEdu
  | waitEdu
  | deactivateEdu
  | destroyEdu
  | startEdu
  | beginWait
  | endWait
deriving DecidableEq, Repr

namespace EduOp

/-- The EDU Status Transition Table. -/
def documented : EduOp → EduStatus → EduStatus → Bool
  | .activateEdu, .creating, .running => true
  | .activateEdu, .waiting, .running => true
  | .activateEdu, .idle, .running => true
  | .waitEdu, .running, .waiting => true
  | .deactivateEdu, .creating, .idle => true
  | .deactivateEdu, .waiting, .idle => true
  | .destroyEdu, .creating, .destroy => true
  | .destroyEdu, .waiting, .destroy => true
  | .destroyEdu, .idle, .destroy => true
  | _, _, _ => false

/-- What `startEDU` and `waitEvent` write beside the table. -/
def byDesign : EduOp → EduStatus → EduStatus → Bool
  | .startEdu, .idle, .waiting => true
  | .beginWait, .creating, .waiting => true
  | .beginWait, .running, .waiting => true
  | .endWait, .waiting, .running => true
  | _, _, _ => false

/-- What is written when `waitEvent`, which takes no latch, overlaps with an operation on
the same EDU: the operation writes over what `waitEvent` has written after its test, or
`waitEvent` writes over what the operation has written. -/
def overlapping : EduOp → EduStatus → EduStatus → Bool
  | .startEdu, .running, .waiting => true
  | .deactivateEdu, .running, .idle => true
  | .destroyEdu, .running, .destroy => true
  | .beginWait, .idle, .waiting => true
  | .beginWait, .destroy, .waiting => true
  | .endWait, .idle, .running => true
  | .endWait, .destroy, .running => true
  | _, _, _ => false

def writes (op : EduOp) (before after : EduStatus) : Bool :=
  op.documented before after || op.byDesign before after || op.overlapping before after

end EduOp

/-- The operation whose section writes; the deletion of a control block writes no status. -/
def EduWrite.op : EduWrite → Option EduOp
  | .activate _ _ => some .activateEdu
  | .reactivate _ _ => some .activateEdu
  | .deactivate _ _ => some .deactivateEdu
  | .destroyRun _ _ => some .destroyEdu
  | .destroyIdle _ _ => some .destroyEdu
  | .delete _ => none
  | .take _ _ _ => some .startEdu

/-- The operation by which a step of an EDU's thread writes the status of its own EDU, if
it is not about to write in a section. -/
def EduPc.op : EduPc → EduChoice → Option EduOp
  | .marking, .goOn => some .beginWait
  | .receiving event, .goOn => if event.eventType = .term then none else some .endWait
  | .took _, .goOn => some .waitEdu
  | .inEntry, .wait => some .waitEdu
  | .left, .goOn => some .waitEdu
  | _, _ => none

/-- The operation by which a call of `waitEDUPost` writes the status of this EDU. -/
def WaitStage.op (id : EduId) : WaitStage → Option EduOp
  | .marking p => if p + 1 = id then some .beginWait else none
  | .receiving p event =>
      if p + 1 = id ∧ event.eventType ≠ .term then some .endWait else none
  | _ => none

/-- The action, which is not about to write in a section, runs this operation on this EDU. -/
def EduSystem.Performs (s : EduSystem) (op : EduOp) (id : EduId) : EduAction → Prop
  | .waitEdu other => op = .waitEdu ∧ other = id
  | .thread p choice => ∃ t, s.threads p = some t ∧ t.id = id ∧ t.pc.op choice = some op
  | _ => False

/-- The action runs this operation on this EDU. -/
def EduAccess.Performs (s : EduAccess) (op : EduOp) (id : EduId) : AccessAction → Prop
  | .edu action =>
      (∃ w, s.writing = some (action, w) ∧ w.ptr + 1 = id ∧ w.op = some op) ∨
        s.holder ≠ some action ∧ s.sys.Performs op id action
  | .stepWait c choice =>
      choice = .goOn ∧ ∃ call, s.waits c = some call ∧ call.stage.op id = some op
  | .waitEduPost _ _ => False

/-- The status of a control block changes. -/
structure StatusChange (t : Transition EduAccess AccessAction AccessReply) (p : Ptr)
    (before after : EduStatus) : Prop where
  was : t.pre.sys.mgr.status p = some before
  becomes : t.post.sys.mgr.status p = some after
  differs : before ≠ after

/-- The changes that leave all statuses alone. -/
def EduLabel.keepsStatus : EduLabel → Bool
  | .keep => true
  | .create => true
  | .undo _ _ => true
  | .force => true
  | .post _ => true
  | .take _ => true
  | _ => false

namespace EduMgr

variable {s s' : EduMgr} {id : EduId} {p : Ptr} {cb : ControlBlock} {rc : ReturnCode}
  {op : EduOp} {w : EduWrite}

/-- Only the status of this EDU is written, as the operation may. -/
def Writes (s s' : EduMgr) (op : EduOp) (id : EduId) : Prop :=
  ∀ p cb after, s.blocks p = some cb → s'.blocks p = some after →
    after.status = cb.status ∨ id = p + 1 ∧ op.writes cb.status after.status = true

/-- No status is written. -/
def KeepsStatuses (s s' : EduMgr) : Prop :=
  ∀ p cb after, s.blocks p = some cb → s'.blocks p = some after → after.status = cb.status

theorem KeepsStatuses.refl (s : EduMgr) : s.KeepsStatuses s := by
  intro p cb after block found
  cases block.symm.trans found
  rfl

theorem KeepsStatuses.writes (keeps : s.KeepsStatuses s') (op : EduOp) (id : EduId) :
    s.Writes s' op id :=
  fun p cb after block found => .inl (keeps p cb after block found)

theorem Change.keepsStatuses {label : EduLabel} (change : Change s label s')
    (structured : s.Structured) (plain : label.keepsStatus = true) : s.KeepsStatuses s' := by
  intro p cb after block found
  cases change with
  | keep run idle ids ptrs blocks =>
      rw [blocks, block] at found
      cases found
      rfl
  | force run idle ids ptrs blocks =>
      rcases blocks p with same | forced
      · rw [same, block] at found
        cases found
        rfl
      · rw [forced, block] at found
        cases found
        rfl
  | create newRun newIdle =>
      rcases blocks_setBlock found with ⟨rfl, -⟩ | old
      · exact absurd (structured.allocated block).2 (Nat.lt_irrefl _)
      · cases block.symm.trans old
        rfl
  | undo gone =>
      cases block.symm.trans (blocks_deleteBlock found).2
      rfl
  | post there =>
      rcases setBlock_kept ControlBlock.status found there rfl with ⟨before, old, same⟩
      cases block.symm.trans old
      exact same
  | take there queued =>
      rcases setBlock_kept ControlBlock.status found there rfl with ⟨before, old, same⟩
      cases block.symm.trans old
      exact same
  | _ => cases plain

theorem Writes.setBlock {after : ControlBlock} (block : s.blocks p = some cb)
    (named : id = p + 1)
    (written : after.status = cb.status ∨ op.writes cb.status after.status = true) :
    s.Writes (s.setBlock p after) op id := by
  intro q other final there found
  rcases blocks_setBlock found with ⟨rfl, rfl⟩ | old
  · cases block.symm.trans there
    exact written.imp_right (⟨named, ·⟩)
  · cases there.symm.trans old
    exact .inl rfl

/-! ### The operations -/

theorem waitEdu_writes (structured : s.Structured)
    (result : s.waitEdu id = some (rc, s')) : s.Writes s' .waitEdu id := by
  unfold waitEdu at result
  split at result
  · cases result
    exact (KeepsStatuses.refl s).writes _ _
  · next p found =>
      rcases Option.bind_eq_some_iff.mp result with ⟨cb, block, result⟩
      split_ifs at result with waiting other
      · cases result
        exact (KeepsStatuses.refl s).writes _ _
      · cases result
        exact (KeepsStatuses.refl s).writes _ _
      · cases result
        have running : cb.status = .running := not_not.mp other
        exact Writes.setBlock block (structured.ran found).1 (.inr (by rw [running]; rfl))

theorem markWaiting_writes
    (known : ∀ {cb}, s.blocks p = some cb → cb.status ≠ .unknown)
    (result : s.markWaiting p = some s') : s.Writes s' .beginWait (p + 1) := by
  rcases Option.map_eq_some_iff.mp result with ⟨cb, block, rfl⟩
  refine Writes.setBlock block rfl ?_
  cases status : cb.status with
  | waiting => exact .inl rfl
  | unknown => exact absurd status (known block)
  | _ => exact .inr rfl

theorem endWait_keeps {event : EduEvent} (term : event.eventType = .term)
    (result : s.endWait p event = some s') : s.KeepsStatuses s' := by
  rcases Option.map_eq_some_iff.mp result with ⟨cb, block, rfl⟩
  intro q other after there found
  have same : (receive cb event).status = cb.status := by rw [receive, if_pos term]
  rcases setBlock_kept ControlBlock.status found block same with ⟨before, old, kept⟩
  cases there.symm.trans old
  exact kept

theorem endWait_writes {event : EduEvent}
    (known : ∀ {cb}, s.blocks p = some cb → cb.status ≠ .unknown)
    (begun : ∀ {cb}, s.blocks p = some cb → cb.status ≠ .creating)
    (result : s.endWait p event = some s') : s.Writes s' .endWait (p + 1) := by
  rcases Option.map_eq_some_iff.mp result with ⟨cb, block, rfl⟩
  refine Writes.setBlock block rfl ?_
  rcases receive_status cb event with same | running
  · exact .inl same
  · rw [running]
    cases status : cb.status with
    | running => exact .inl rfl
    | creating => exact absurd status (begun block)
    | unknown => exact absurd status (known block)
    | _ => exact .inr rfl

theorem writes_of_busy {status : EduStatus} (busy : status.isBusy = true) :
    (status = .running ∨ EduOp.activateEdu.writes status .running = true) ∧
      EduOp.deactivateEdu.writes status .idle = true ∧
      EduOp.destroyEdu.writes status .destroy = true := by
  cases status with
  | creating => exact ⟨.inr rfl, rfl, rfl⟩
  | running => exact ⟨.inl rfl, rfl, rfl⟩
  | waiting => exact ⟨.inr rfl, rfl, rfl⟩
  | _ => cases busy

theorem writes_of_wasIdle {status : EduStatus} (idle : status.wasIdle = true) :
    (status = .running ∨ EduOp.activateEdu.writes status .running = true) ∧
      EduOp.destroyEdu.writes status .destroy = true ∧
      (status = .waiting ∨ EduOp.startEdu.writes status .waiting = true) := by
  cases status with
  | running => exact ⟨.inl rfl, rfl, .inr rfl⟩
  | waiting => exact ⟨.inr rfl, rfl, .inl rfl⟩
  | idle => exact ⟨.inr rfl, rfl, .inr rfl⟩
  | _ => cases idle

/-- What a section writes, whatever `waitEvent` has written since its test. -/
theorem write_writes (sound : w.Sound s) (written : s.write w = some s') :
    (∃ op, w.op = some op ∧ s.Writes s' op (w.ptr + 1)) ∨ s.KeepsStatuses s' := by
  cases w <;> rcases Option.map_eq_some_iff.mp written with ⟨cb, block, rfl⟩ <;>
    have stands := sound cb block
  case activate id p =>
    exact .inl ⟨_, rfl,
      Writes.setBlock block rfl ((writes_of_busy stands.2).1.imp_left Eq.symm)⟩
  case reactivate id p =>
    exact .inl ⟨_, rfl, Writes.setBlock (s := s.moveToRun id p) block rfl
      ((writes_of_wasIdle stands.2).1.imp_left Eq.symm)⟩
  case deactivate id p =>
    exact .inl ⟨_, rfl, Writes.setBlock (s := s.moveToIdle id p) block rfl
      (.inr (writes_of_busy stands.2).2.1)⟩
  case destroyRun id p =>
    exact .inl ⟨_, rfl, Writes.setBlock (s := s.eraseRun id) block rfl
      (.inr (writes_of_busy stands.2).2.2)⟩
  case destroyIdle id p =>
    exact .inl ⟨_, rfl, Writes.setBlock (s := s.eraseIdle id) block rfl
      (.inr (writes_of_wasIdle stands.2).2.1)⟩
  case delete p =>
    refine .inr fun q other after there found => ?_
    cases there.symm.trans (blocks_deleteBlock found).2
    rfl
  case take id p type =>
    exact .inl ⟨_, rfl, Writes.setBlock (s := s.moveToRun id p) block rfl
      ((writes_of_wasIdle stands.2).2.2.imp_left Eq.symm)⟩

/-! ### Statuses that occur -/

/-- No operation writes CREATING or UNKNOWN over another status. -/
def Late (status : EduStatus) : Prop := status ≠ .creating ∧ status ≠ .unknown

/-- A control block is CREATING when it is new, keeps its status, or gets a late one. -/
def Follows (s : EduMgr) (p : Ptr) (after : EduStatus) : Prop :=
  p = s.nextPtr ∧ after = .creating ∨ s.status p = some after ∨ Late after

theorem Follows.kept {before after : ControlBlock} (block : s.blocks p = some before)
    (same : after.status = before.status) : s.Follows p after.status :=
  .inr (.inl (by rw [same]; exact status_block block))

theorem follows_setBlock {m : EduMgr} {q : Ptr} {after : ControlBlock}
    (found : (m.setBlock q cb).blocks p = some after) (same : m.blocks = s.blocks)
    (late : Late cb.status) : s.Follows p after.status := by
  rcases blocks_setBlock found with ⟨rfl, rfl⟩ | old
  · exact .inr (.inr late)
  · rw [same] at old
    exact .kept old rfl

theorem late_of_marked {status : EduStatus} (marked : status = .running ∨ status = .waiting) :
    Late status := by
  rcases marked with rfl | rfl <;> exact ⟨nofun, nofun⟩

theorem Change.follows {label : EduLabel} {after : ControlBlock} (change : Change s label s')
    (found : s'.blocks p = some after) : s.Follows p after.status := by
  have unmarked : ∀ {q : Ptr} {cb before : ControlBlock}, s.blocks q = some before →
      (s.setBlock q cb).blocks p = some after → cb.status = before.status →
        s.Follows p after.status := by
    intro q cb before block there same
    rcases setBlock_kept ControlBlock.status there block same with ⟨old, was, equal⟩
    exact .kept was equal
  cases change with
  | keep run idle ids ptrs blocks =>
      rw [blocks] at found
      exact .kept found rfl
  | force run idle ids ptrs blocks =>
      rcases blocks p with same | forced
      · rw [same] at found
        exact .kept found rfl
      · rw [forced] at found
        rcases Option.map_eq_some_iff.mp found with ⟨cb, block, rfl⟩
        exact .kept block rfl
  | create newRun newIdle =>
      rcases blocks_setBlock found with ⟨rfl, rfl⟩ | old
      · exact .inl ⟨rfl, rfl⟩
      · exact .kept old rfl
  | destroyRun ran block waits => exact .kept (blocks_deleteBlock found).2 rfl
  | destroyIdle absent idled block idle => exact .kept (blocks_deleteBlock found).2 rfl
  | undo block => exact .kept (blocks_deleteBlock found).2 rfl
  | mark ran block marked => exact follows_setBlock found rfl (late_of_marked marked)
  | reuse idled block idle typed marked =>
      exact follows_setBlock found rfl (late_of_marked marked)
  | pool ran block waits => exact follows_setBlock found rfl ⟨nofun, nofun⟩
  | post block => exact unmarked block found rfl
  | take block queued => exact unmarked block found rfl
  | markWaiting block => exact follows_setBlock found rfl (late_of_marked (.inr rfl))
  | @endWait q cb event block =>
      rcases receive_status cb event with same | running
      · exact unmarked block found same
      · exact follows_setBlock found rfl (late_of_marked (.inl running))

theorem write_follows {after : ControlBlock} (written : s.write w = some s')
    (found : s'.blocks p = some after) : s.Follows p after.status := by
  cases w <;> rcases Option.map_eq_some_iff.mp written with ⟨cb, block, rfl⟩
  case delete q => exact .kept (blocks_deleteBlock found).2 rfl
  all_goals exact follows_setBlock found rfl ⟨nofun, nofun⟩

end EduMgr

/-- `waitEvent` has tested the status of the EDU, and written it if it was not idle. -/
def EduPc.hasBegun : EduPc → Bool
  | .loop => false
  | .testing => false
  | .marking => false
  | _ => true

/-- The EDU that the `waitEvent` of a call of `waitEDUPost` has tested, and written if it
was not idle. -/
def WaitStage.begun : WaitStage → Option Ptr
  | .blocked p => some p
  | .sleeping p => some p
  | .receiving p _ => some p
  | _ => none

namespace EduSystem

variable {s s' : EduSystem} {maxPool : Nat} {reply : EduReply} {action : EduAction}
  {p : Ptr} {t : EduThread}

/-- A thread gets past the beginning of `waitEvent` on an EDU that is not CREATING. -/
theorem exec_begins (completes : exec maxPool action s = some (reply, s'))
    (there : s'.threads p = some t) (moved : t.pc.hasBegun = true) :
    (∃ before, s.threads p = some before ∧ before.pc.hasBegun = true) ∨
      ∀ cb, s'.mgr.blocks p = some cb → cb.status ≠ .creating := by
  cases exec_step completes with
  | start found staged step =>
      cases step with
      | spawned =>
          rcases threads_setThread (s := s) there with old | ⟨rfl, rfl⟩
          · exact .inl ⟨t, old, moved⟩
          · cases moved
      | _ => exact .inl ⟨t, there, moved⟩
  | thread found here step =>
      cases step with
      | activated result => exact .inl ⟨t, there, moved⟩
      | waited result => exact .inl ⟨t, there, moved⟩
      | looped block =>
          rcases threads_setThread (s := s) there with old | ⟨rfl, rfl⟩
          · exact .inl ⟨t, old, moved⟩
          · cases moved
      | @tested cb block =>
          rcases threads_setThread (s := s) there with old | ⟨rfl, rfl⟩
          · exact .inl ⟨t, old, moved⟩
          · right
            intro other found
            cases block.symm.trans found
            dsimp only at moved
            split_ifs at moved with idle
            · rw [idle]
              exact nofun
            · cases moved
      | marked result =>
          rcases threads_setThread (s := { s with mgr := _ }) there with old | ⟨rfl, rfl⟩
          · exact .inl ⟨t, old, moved⟩
          · right
            intro cb found
            rcases Option.map_eq_some_iff.mp result with ⟨before, -, rfl⟩
            cases (Function.update_self ..).symm.trans found
            exact nofun
      | took waits result =>
          rcases threads_setThread (s := { s with mgr := _ }) there with old | ⟨rfl, rfl⟩
          · exact .inl ⟨t, old, moved⟩
          · rcases waits with rfl | rfl <;> exact .inl ⟨_, found, by rw [here]; rfl⟩
      | _ =>
          rcases threads_setThread (s := { s with mgr := _ }) there with old | ⟨rfl, rfl⟩
          · exact .inl ⟨t, old, moved⟩
          · exact .inl ⟨_, found, by rw [here]; rfl⟩
  | _ => exact .inl ⟨t, there, moved⟩

/-- The rest of an action moves only its own thread, which is in `returnEDU`. -/
theorem finish_begins {w : EduWrite} (ends : s.finish w action = some (reply, s'))
    (there : s'.threads p = some t) :
    ∃ before, s.threads p = some before ∧ (t.pc.hasBegun = true → before.pc.hasBegun = true) := by
  cases action with
  | thread q choice =>
      rcases Option.map_eq_some_iff.mp ends with ⟨u, found, same⟩
      split at same
      · next stage here =>
          cases same
          rcases threads_setThread (s := s) there with old | ⟨rfl, rfl⟩
          · exact ⟨t, old, id⟩
          · exact ⟨u, found, fun _ => by rw [here]; rfl⟩
      · cases same
        exact ⟨t, there, id⟩
  | stepStart c granted =>
      simp only [finish] at ends
      split at ends
      · rcases Option.map_eq_some_iff.mp ends with ⟨call, -, same⟩
        cases same
        exact ⟨t, there, id⟩
      · cases ends
  | stepReturn r =>
      cases ends
      exact ⟨t, there, id⟩
  | activateEdu id =>
      cases ends
      exact ⟨t, there, fun begun => begun⟩
  | _ => cases ends

/-! ### Steps of the system -/

/-- A step of an EDU's thread that is not about to write in a section. -/
theorem threadStep_writes {pc : EduPc} {choice : EduChoice}
    (known : ∀ {q cb}, s.mgr.blocks q = some cb → cb.status ≠ .unknown)
    (begun : ∀ {cb}, t.pc.hasBegun = true → s.mgr.blocks p = some cb → cb.status ≠ .creating)
    (structured : s.Structured) (plain : s.decides (.thread p choice) = none)
    (found : s.threads p = some t) (here : t.pc = pc)
    (step : ThreadStep s maxPool p t pc choice reply s') :
    (∃ op, pc.op choice = some op ∧ s.mgr.Writes s'.mgr op t.id) ∨
      s.mgr.KeepsStatuses s'.mgr := by
  have named := (structured.threads found).1
  simp only [decides, found, Option.bind_some, here] at plain
  cases step with
  | marked result =>
      rw [named]
      exact .inl ⟨_, rfl, EduMgr.markWaiting_writes known result⟩
  | took waits result =>
      exact .inr ((EduMgr.takeEvent_change result).keepsStatuses structured.mgr rfl)
  | @received event mgr result =>
      rw [named, EduPc.op]
      split_ifs with term
      · exact .inr (EduMgr.endWait_keeps term result)
      · exact .inl ⟨_, rfl,
          EduMgr.endWait_writes known (begun (by rw [here]; rfl)) result⟩
  | resumed unforced resume result =>
      exact .inl ⟨_, rfl, EduMgr.waitEdu_writes structured.mgr result⟩
  | waited result => exact .inl ⟨_, rfl, EduMgr.waitEdu_writes structured.mgr result⟩
  | leaving result => exact .inl ⟨_, rfl, EduMgr.waitEdu_writes structured.mgr result⟩
  | activated result =>
      rcases EduMgr.activateEdu_decided result with ⟨-, rfl⟩ | ⟨w, decides, -⟩
      · exact .inr (.refl _)
      · cases plain.symm.trans decides
  | wentOn result =>
      cases (EduMgr.returnEdu_goesOn result).1
      exact .inr (.refl _)
  | gaveBack result =>
      cases EduMgr.returnEdu_undecided plain result
      exact .inr (.refl _)
  | _ => exact .inr (.refl _)

/-- A step of a call of `startEDU` that does not take an idle EDU. -/
theorem startStep_keepsStatuses {c : Nat} {call : StartCall} {stage : StartStage}
    {granted : Bool} (structured : s.Structured)
    (plain : s.decides (.stepStart c granted) = none) (found : s.starts c = some call)
    (staged : call.stage = stage) (step : StartStep s c call stage granted reply s') :
    s.mgr.KeepsStatuses s'.mgr := by
  cases step with
  | chose result =>
      simp only [decides, found, staged, Option.bind_some, if_true] at plain
      cases plain.symm.trans (EduMgr.selectIdle_decided result).1
  | placed result =>
      exact (EduMgr.insertEdu_change result).2.keepsStatuses structured.mgr rfl
  | posted result => exact (EduMgr.postEvent_change result).keepsStatuses structured.mgr rfl
  | failed result => exact (EduMgr.rollbackEdu_change result).keepsStatuses structured.mgr rfl
  | _ => exact .refl _

/-- What is not about to write in a section writes statuses as `waitEDU` or `waitEvent`. -/
theorem exec_writes
    (known : ∀ {q cb}, s.mgr.blocks q = some cb → cb.status ≠ .unknown)
    (begun : ∀ {q u cb}, s.threads q = some u → u.pc.hasBegun = true →
      s.mgr.blocks q = some cb → cb.status ≠ .creating)
    (structured : s.Structured) (plain : s.decides action = none)
    (completes : exec maxPool action s = some (reply, s')) :
    (∃ op id, s.Performs op id action ∧ s.mgr.Writes s'.mgr op id) ∨
      s.mgr.KeepsStatuses s'.mgr := by
  cases action with
  | stepStart c granted =>
      rcases Option.bind_eq_some_iff.mp completes with ⟨call, found, stepped⟩
      exact .inr (startStep_keepsStatuses structured plain found rfl (stepStart_step stepped))
  | stepReturn r =>
      rcases Option.bind_eq_some_iff.mp completes with ⟨call, found, stepped⟩
      rcases Option.map_eq_some_iff.mp stepped with ⟨⟨outcome, mgr⟩, returned, same⟩
      simp only [decides, found, Option.bind_some] at plain
      cases EduMgr.returnEdu_undecided plain returned
      cases outcome <;> cases same <;> exact .inr (.refl _)
  | activateEdu id =>
      rcases Option.map_eq_some_iff.mp completes with ⟨⟨rc, mgr⟩, activated, same⟩
      cases same
      rcases EduMgr.activateEdu_decided activated with ⟨-, rfl⟩ | ⟨w, decides, -⟩
      · exact .inr (.refl _)
      · cases plain.symm.trans decides
  | waitEdu id =>
      rcases Option.map_eq_some_iff.mp completes with ⟨⟨rc, mgr⟩, waited, same⟩
      cases same
      exact .inl ⟨_, id, ⟨rfl, rfl⟩, EduMgr.waitEdu_writes structured.mgr waited⟩
  | forceUserEdu id =>
      rcases Option.map_eq_some_iff.mp completes with ⟨⟨rc, mgr⟩, forced, same⟩
      cases same
      rcases EduMgr.forceUserEdu_change forced with kept | forces
      · exact .inr (kept.keepsStatuses structured.mgr rfl)
      · exact .inr (forces.keepsStatuses structured.mgr rfl)
  | postEduPost id event =>
      rcases Option.map_eq_some_iff.mp completes with ⟨⟨rc, mgr⟩, posted, same⟩
      cases same
      rcases EduMgr.postEduPost_change posted with kept | ⟨p, -, posts⟩
      · exact .inr (kept.keepsStatuses structured.mgr rfl)
      · exact .inr (posts.keepsStatuses structured.mgr rfl)
  | forceEdus property =>
      cases completes
      exact .inr ((EduMgr.forceEdus_change property).keepsStatuses structured.mgr rfl)
  | thread p choice =>
      rcases Option.bind_eq_some_iff.mp completes with ⟨t, found, stepped⟩
      rcases threadStep_writes known (begun found) structured plain found rfl
        (stepThread_step stepped) with ⟨op, runs, writes⟩ | keeps
      · exact .inl ⟨op, t.id, ⟨t, found, rfl, runs⟩, writes⟩
      · exact .inr keeps
  | _ =>
      cases completes
      exact .inr (.refl _)

end EduSystem

namespace EduAccess

variable {s s' : EduAccess} {maxPool : Nat} {reply : AccessReply} {action : AccessAction}
  {p : Ptr}

theorem AccessStep.follows {after : ControlBlock} (step : AccessStep s maxPool action reply s')
    (found : s'.sys.mgr.blocks p = some after) : s.sys.mgr.Follows p after.status := by
  cases step with
  | done other latched plain ran =>
      rcases EduSystem.exec_change ran with ⟨label, change, -⟩
      exact change.follows found
  | decided took decides => exact .kept found rfl
  | destroyed held destroys written => exact EduMgr.write_follows written found
  | finished held last written ends =>
      dsimp only at found
      rw [EduSystem.finish_mgr ends] at found
      exact EduMgr.write_follows written found
  | called => exact .kept found rfl
  | waited there here step =>
      rcases step.change with ⟨label, change, -⟩
      exact change.follows found

/-- A thread gets past the beginning of `waitEvent` on an EDU that is not CREATING. -/
theorem AccessStep.threadBegins {t : EduThread} (step : AccessStep s maxPool action reply s')
    (there : s'.sys.threads p = some t) (moved : t.pc.hasBegun = true) :
    (∃ before, s.sys.threads p = some before ∧ before.pc.hasBegun = true) ∨
      ∀ cb, s'.sys.mgr.blocks p = some cb → cb.status ≠ .creating := by
  cases step with
  | done other latched plain ran => exact EduSystem.exec_begins ran there moved
  | finished held last written ends =>
      rcases EduSystem.finish_begins ends there with ⟨before, old, began⟩
      exact .inl ⟨before, old, began moved⟩
  | waited found here step =>
      rcases step.change with ⟨label, change, free, kept, same, -⟩
      rw [same] at there
      exact .inl ⟨t, there, moved⟩
  | _ => exact .inl ⟨t, there, moved⟩

/-- A call of `waitEDUPost` gets past the beginning of `waitEvent` on an EDU that is not
CREATING. -/
theorem WaitStep.begins {c d : Nat} {call after : WaitCall} {stage : WaitStage}
    {choice : EduChoice} (here : call.stage = stage) (found : s.waits c = some call)
    (step : WaitStep s c call stage choice reply s')
    (there : s'.waits d = some after) (began : after.stage.begun = some p) :
    (∃ e before, s.waits e = some before ∧ before.stage.begun = some p) ∨
      ∀ cb, s'.sys.mgr.blocks p = some cb → cb.status ≠ .creating := by
  rcases eq_or_ne d c with rfl | apart
  · cases step with
    | looked took known =>
        cases (Function.update_self ..).symm.trans there
        cases began
    | @tested q cb block =>
        cases (Function.update_self ..).symm.trans there
        right
        intro other there
        dsimp only at began
        split_ifs at began with idle
        · cases began
          cases block.symm.trans there
          rw [idle]
          exact nofun
        · cases began
    | marked result =>
        cases (Function.update_self ..).symm.trans there
        cases began
        right
        intro cb written
        rcases Option.map_eq_some_iff.mp result with ⟨before, -, rfl⟩
        cases (Function.update_self ..).symm.trans written
        exact nofun
    | slept block empty =>
        cases (Function.update_self ..).symm.trans there
        exact .inl ⟨d, call, found, by rw [here]; exact began⟩
    | took waits result =>
        cases (Function.update_self ..).symm.trans there
        rcases waits with rfl | rfl <;> exact .inl ⟨d, call, found, by rw [here]; exact began⟩
    | _ => cases (Function.update_self ..).symm.trans there
  · exact .inl ⟨d, after, (step.others apart).symm.trans there, began⟩

theorem AccessStep.waitBegins {d : Nat} {after : WaitCall}
    (step : AccessStep s maxPool action reply s')
    (there : s'.waits d = some after) (began : after.stage.begun = some p) :
    (∃ e before, s.waits e = some before ∧ before.stage.begun = some p) ∨
      ∀ cb, s'.sys.mgr.blocks p = some cb → cb.status ≠ .creating := by
  cases step with
  | called =>
      rcases eq_or_ne d s.nextWait with rfl | apart
      · cases (Function.update_self ..).symm.trans there
        cases began
      · exact .inl ⟨d, after, (Function.update_of_ne apart ..).symm.trans there, began⟩
  | waited found here step => exact step.begins here found there began
  | _ => exact .inl ⟨d, after, there, began⟩

/-- The statuses that control blocks have: none is UNKNOWN, and none is CREATING once
`waitEvent` has tested it and written it if it was not idle. -/
structure StatusesKnown (s : EduAccess) : Prop where
  known : ∀ {p cb}, s.sys.mgr.blocks p = some cb → cb.status ≠ .unknown
  threads : ∀ {p t cb}, s.sys.threads p = some t → t.pc.hasBegun = true →
    s.sys.mgr.blocks p = some cb → cb.status ≠ .creating
  waits : ∀ {c call p cb}, s.waits c = some call → call.stage.begun = some p →
    s.sys.mgr.blocks p = some cb → cb.status ≠ .creating

theorem init_statusesKnown : init.StatusesKnown where
  known found := by cases found
  threads found := by cases found
  waits found := by cases found

theorem begun_ptr {stage : WaitStage} (began : stage.begun = some p) : stage.ptr = some p := by
  cases stage with
  | blocked q => exact began
  | sleeping q => exact began
  | receiving q event => exact began
  | _ => cases began

theorem StatusesKnown.step (known : s.StatusesKnown) (structured : s.Structured)
    (completes : exec maxPool action s = some (reply, s')) : s'.StatusesKnown := by
  have step := exec_step completes
  -- An EDU past the beginning of a waitEvent is not CREATING, and no write makes it so.
  have stays : ∀ {q cb}, q < s.sys.mgr.nextPtr →
      (∀ before, s.sys.mgr.blocks q = some before → before.status ≠ .creating) →
        s'.sys.mgr.blocks q = some cb → cb.status ≠ .creating := by
    intro q cb issued began found
    rcases step.follows found with ⟨rfl, -⟩ | same | late
    · exact absurd issued (Nat.lt_irrefl _)
    · rcases EduMgr.status_eq same with ⟨before, old, equal⟩
      rw [← equal]
      exact began before old
    · exact late.1
  constructor
  · intro q after found
    rcases step.follows found with ⟨-, creating⟩ | same | late
    · rw [creating]
      exact nofun
    · rcases EduMgr.status_eq same with ⟨before, old, equal⟩
      rw [← equal]
      exact known.known old
    · exact late.2
  · intro q t cb there moved found
    rcases step.threadBegins there moved with ⟨before, old, began⟩ | begins
    · exact stays (structured.sys.threads old).2 (fun _ => known.threads old began) found
    · exact begins cb found
  · intro c call q cb there moved found
    rcases step.waitBegins there moved with ⟨e, before, old, began⟩ | begins
    · exact stays (structured.waits old (begun_ptr began))
        (fun _ => known.waits old began) found
    · exact begins cb found

/-! ### Actions -/

/-- A step of a call of `waitEDUPost` writes statuses as `waitEvent`, or not at all. -/
theorem WaitStep.writes {c : Nat} {call : WaitCall} {stage : WaitStage} {choice : EduChoice}
    (known : s.StatusesKnown) (structured : s.Structured) (found : s.waits c = some call)
    (here : call.stage = stage) (step : WaitStep s c call stage choice reply s') :
    (∃ op id, s.Performs op id (.stepWait c choice) ∧ s.sys.mgr.Writes s'.sys.mgr op id) ∨
      s.sys.mgr.KeepsStatuses s'.sys.mgr := by
  cases step with
  | @marked p mgr result =>
      exact .inl ⟨.beginWait, p + 1, ⟨rfl, call, found, by rw [here]; exact if_pos rfl⟩,
        EduMgr.markWaiting_writes known.known result⟩
  | took waits result =>
      exact .inr ((EduMgr.takeEvent_change result).keepsStatuses structured.sys.mgr rfl)
  | @received p event mgr result =>
      by_cases term : event.eventType = .term
      · exact .inr (EduMgr.endWait_keeps term result)
      · have began : call.stage.begun = some p := by rw [here]; rfl
        exact .inl ⟨.endWait, p + 1,
          ⟨rfl, call, found, by rw [here]; exact if_pos ⟨rfl, term⟩⟩,
          EduMgr.endWait_writes known.known (known.waits found began) result⟩
  | _ => exact .inr (.refl _)

/-- Every action writes statuses as the operation that it performs, or not at all. -/
theorem exec_writes (known : s.StatusesKnown) (structured : s.Structured)
    (completes : exec maxPool action s = some (reply, s')) :
    (∃ op id, s.Performs op id action ∧ s.sys.mgr.Writes s'.sys.mgr op id) ∨
      s.sys.mgr.KeepsStatuses s'.sys.mgr := by
  cases exec_step completes with
  | @done action reply sys other latched plain ran =>
      rcases EduSystem.exec_writes known.known known.threads structured.sys plain ran with
        ⟨op, id, performs, writes⟩ | keeps
      · exact .inl ⟨op, id, .inr ⟨other, performs⟩, writes⟩
      · exact .inr keeps
  | decided took decides => exact .inr (.refl _)
  | destroyed held destroys written =>
      rcases EduMgr.write_writes (structured.sound held) written with ⟨op, own, writes⟩ | keeps
      · exact .inl ⟨op, _, .inl ⟨_, held, rfl, own⟩, writes⟩
      · exact .inr keeps
  | finished held last written ends =>
      dsimp only
      rw [EduSystem.finish_mgr ends]
      rcases EduMgr.write_writes (structured.sound held) written with ⟨op, own, writes⟩ | keeps
      · exact .inl ⟨op, _, .inl ⟨_, held, rfl, own⟩, writes⟩
      · exact .inr keeps
  | called => exact .inr (.refl _)
  | waited found here step => exact step.writes known structured found here

end EduAccess

theorem AccessRun.statusesKnown {maxPool : Nat}
    {allowed : AccessTrace → EduAccess → AccessAction → Prop} {trace : AccessTrace}
    {s : EduAccess} (run : AccessRun maxPool allowed trace s) : s.StatusesKnown := by
  induction run with
  | start => exact EduAccess.init_statusesKnown
  | step past guard completes ih => exact ih.step (AccessRun.structured past) completes

/-- Every change of a status is an entry of the table made by the operation named there, one
of the writes of startEDU and waitEvent beside it, or made where waitEvent and an operation
on the same EDU overlap. -/
theorem statusChange_writes {maxPool : Nat} {trace : AccessTrace} {s : EduAccess}
    (run : AccessRun maxPool (fun _ _ _ => True) trace s) :
    ∀ t ∈ trace, ∀ p before after, StatusChange t p before after →
      ∃ op, t.pre.Performs op (p + 1) t.action ∧ op.writes before after = true := by
  induction run with
  | start => exact fun t member => by cases member
  | @step trace pre post action reply past guard completes ih =>
      rw [List.forall_mem_append, List.forall_mem_singleton]
      refine ⟨ih, ?_⟩
      rintro p before after ⟨was, becomes, differs⟩
      rcases EduMgr.status_eq was with ⟨cb, block, rfl⟩
      rcases EduMgr.status_eq becomes with ⟨final, found, rfl⟩
      rcases EduAccess.exec_writes (AccessRun.statusesKnown past) (AccessRun.structured past)
        completes with ⟨op, id, performs, writes⟩ | keeps
      · rcases writes p cb final block found with same | ⟨rfl, written⟩
        · exact absurd same.symm differs
        · exact ⟨op, performs, written⟩
      · exact absurd (keeps p cb final block found).symm differs

/-- startEDU of an agent, and its thread up to the write of waitEvent. -/
def newAgent : List AccessAction :=
  .edu (.startEdu .agent 7) ::
    (List.replicate 6 (.edu (.stepStart 0 true)) ++
      List.replicate 2 (.edu (.thread 0 .goOn)))

/-- The next step of the new EDU's thread: waitEvent changes CREATING to WAITING. -/
theorem newAgent_waits :
    ∃ trace s, AccessRun 5 (fun _ _ _ => True) trace s ∧
      ∃ t ∈ trace, StatusChange t 0 .creating .waiting := by
  have ends : (Run.follow (EduAccess.exec 5) (fun _ _ => true) newAgent .init).bind (fun s =>
      (EduAccess.exec 5 (.edu (.thread 0 .goOn)) s).map fun answer =>
        (s.sys.mgr.status 0, answer.2.sys.mgr.status 0)) =
        some (some .creating, some .waiting) := rfl
  rcases Option.bind_eq_some_iff.mp ends with ⟨s, followed, steps⟩
  rcases Option.map_eq_some_iff.mp steps with ⟨⟨reply, next⟩, completes, statuses⟩
  have past : AccessRun 5 (fun _ _ _ => True) [] .init := .start
  rcases Run.of_follow (fun _ => trivial) past followed with ⟨trace, run⟩
  exact ⟨_, next, run.step trivial completes, _,
    List.mem_append_right _ (List.mem_singleton_self _),
    ⟨congrArg Prod.fst statuses, congrArg Prod.snd statuses, by decide⟩⟩

theorem statusChange_writes_newAgent :
    ∃ trace s, AccessRun 5 (fun _ _ _ => True) trace s ∧ ∃ t ∈ trace,
      ∃ op, t.pre.Performs op 1 t.action ∧ op.writes .creating .waiting = true := by
  rcases newAgent_waits with ⟨trace, s, run, t, member, change⟩
  exact ⟨trace, s, run, t, member, statusChange_writes run t member 0 _ _ change⟩

/-- No operation of the table changes CREATING to WAITING. -/
theorem statusChange_undocumented :
    ¬ ∀ maxPool trace s, AccessRun maxPool (fun _ _ _ => True) trace s →
      ∀ t ∈ trace, ∀ p before after, StatusChange t p before after →
        ∃ op, t.pre.Performs op (p + 1) t.action ∧ op.documented before after = true := by
  intro documented
  rcases newAgent_waits with ⟨trace, s, run, t, member, change⟩
  rcases documented 5 trace s run t member 0 _ _ change with ⟨op, -, entry⟩
  cases op <;> cases entry

end EmeraldDb
