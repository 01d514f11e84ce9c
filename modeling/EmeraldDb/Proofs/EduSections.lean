/-
Module: EmeraldDb.Proofs.EduSections
Purpose: The sections of the EDU manager that are cut between their test and their write:
  uncut they are the sections of the manager, and what they have found stands while
  others act without the latch, but for a status that waitEvent writes.
Trusted boundary: none
Main exports: EduWrite.Stands, EduWrite.Sound, EduLabel.isFree, EduMgr.Change.sound,
  EduSystem.exec_free, EduSystem.decides_sound, EduSystem.exec_decided
-/
import EmeraldDb.Pmd.EduAccess
import EmeraldDb.Proofs.EduStructure

namespace EmeraldDb

/-- The statuses of EDUs that are at work. -/
def EduStatus.isBusy : EduStatus → Bool
  | .creating => true
  | .running => true
  | .waiting => true
  | _ => false

/-- The statuses of an EDU that has been found idle: `waitEvent` may have written since. -/
def EduStatus.wasIdle : EduStatus → Bool
  | .running => true
  | .waiting => true
  | .idle => true
  | _ => false

namespace EduWrite

/-- The control block that is written. -/
def ptr : EduWrite → Ptr
  | .activate _ p => p
  | .reactivate _ p => p
  | .deactivate _ p => p
  | .destroyRun _ p => p
  | .destroyIdle _ p => p
  | .delete p => p
  | .take _ p _ => p

/-- The section still finds the EDU where it has found it. -/
def Stands (s : EduMgr) (status : EduStatus) : EduWrite → Prop
  | .activate id p => s.runQueue.lookup id = some p ∧ status.isBusy = true
  | .reactivate id p => s.idleQueue.lookup id = some p ∧ status.wasIdle = true
  | .deactivate id p => s.runQueue.lookup id = some p ∧ status.isBusy = true
  | .destroyRun id p => s.runQueue.lookup id = some p ∧ status.isBusy = true
  | .destroyIdle id p => s.idleQueue.lookup id = some p ∧ status.wasIdle = true
  | .delete p => ∀ id, ¬ s.Queued id p
  | .take id p _ => s.idleQueue.lookup id = some p ∧ status.wasIdle = true

/-- The section can write: what it has found stands, or the control block has gone. -/
def Sound (s : EduMgr) (w : EduWrite) : Prop :=
  ∀ cb, s.blocks w.ptr = some cb → w.Stands s cb.status

end EduWrite

/-- The changes that are made without the latch. -/
def EduLabel.isFree : EduLabel → Bool
  | .keep => true
  | .undo _ _ => true
  | .post _ => true
  | .markWaiting _ => true
  | .take _ => true
  | .endWait _ _ => true
  | _ => false

namespace EduMgr

variable {s s' : EduMgr} {id : EduId} {p : Ptr} {cb : ControlBlock} {rc : ReturnCode}
  {w : EduWrite} {label : EduLabel}

theorem status_eq {status : EduStatus} (read : s.status p = some status) :
    ∃ cb, s.blocks p = some cb ∧ cb.status = status :=
  Option.map_eq_some_iff.mp read

theorem status_block (block : s.blocks p = some cb) : s.status p = some cb.status := by
  rw [status, block, Option.map_some]

/-! ### A section, and what it decides -/

theorem activateEdu_decided (result : s.activateEdu id = some (rc, s')) :
    s.activation id = none ∧ s' = s ∨
      ∃ w, s.activation id = some w ∧ rc = edbOk ∧ s.write w = some s' := by
  unfold activateEdu at result
  unfold activation
  cases idles : s.idleQueue.lookup id with
  | some p =>
      simp only [idles] at result
      rcases Option.bind_eq_some_iff.mp result with ⟨cb, block, result⟩
      simp only [status_block block, Option.some.injEq]
      split_ifs at result with running other
      · cases result
        exact .inl ⟨by simp [running], rfl⟩
      · cases result
        exact .inl ⟨by simp [other], rfl⟩
      · cases result
        exact .inr ⟨.reactivate id p, if_pos (not_not.mp other), rfl, by rw [write, block]; rfl⟩
  | none =>
      simp only [idles] at result
      cases runs : s.runQueue.lookup id with
      | none =>
          simp only [runs, Option.some.injEq, Prod.mk.injEq] at result
          exact .inl ⟨rfl, result.2.symm⟩
      | some p =>
          simp only [runs] at result
          rcases Option.bind_eq_some_iff.mp result with ⟨cb, block, result⟩
          simp only [Option.bind_some, status_block block, Option.some.injEq]
          split_ifs at result with running other
          · cases result
            exact .inl ⟨by simp [running], rfl⟩
          · cases result
            exact .inl ⟨by simp [other.1, other.2], rfl⟩
          · cases result
            have waits : cb.status = .waiting ∨ cb.status = .creating := by tauto
            exact .inr ⟨.activate id p, if_pos waits, rfl, by rw [write, block]; rfl⟩

theorem deactivateEdu_decided (result : s.deactivateEdu id = some (rc, s')) :
    s.deactivation id = none ∧ s' = s ∨
      ∃ w, s.deactivation id = some w ∧ rc = edbOk ∧ s.write w = some s' := by
  unfold deactivateEdu at result
  unfold deactivation
  cases runs : s.runQueue.lookup id with
  | none =>
      simp only [runs, Option.bind_none, true_and] at result ⊢
      split at result <;> cases result <;> exact .inl rfl
  | some p =>
      simp only [runs] at result
      rcases Option.bind_eq_some_iff.mp result with ⟨cb, block, result⟩
      simp only [Option.bind_some, status_block block, Option.some.injEq]
      split_ifs at result with idle other
      · cases result
        exact .inl ⟨by simp [idle], rfl⟩
      · cases result
        exact .inl ⟨by simp [other.1, other.2], rfl⟩
      · cases result
        have waits : cb.status = .waiting ∨ cb.status = .creating := by tauto
        exact .inr ⟨.deactivate id p, if_pos waits, rfl, by rw [write, block]; rfl⟩

/-- `_destroyEDU` sets the status before it deletes the control block. -/
theorem destroyEdu_decided (result : s.destroyEdu id = some (rc, s')) :
    s.destruction id = none ∧ s' = s ∨
      ∃ p marked, (s.destruction id = some (.destroyRun id p) ∧
          s.write (.destroyRun id p) = some marked ∨
        s.destruction id = some (.destroyIdle id p) ∧
          s.write (.destroyIdle id p) = some marked) ∧
        rc = edbOk ∧ marked.write (.delete p) = some s' := by
  unfold destroyEdu at result
  unfold destruction
  cases runs : s.runQueue.lookup id with
  | none =>
      simp only [runs] at result
      cases idles : s.idleQueue.lookup id with
      | none =>
          simp only [idles, Option.some.injEq, Prod.mk.injEq] at result
          exact .inl ⟨rfl, result.2.symm⟩
      | some p =>
          simp only [idles] at result
          rcases Option.bind_eq_some_iff.mp result with ⟨cb, block, result⟩
          simp only [Option.bind_some, status_block block, Option.some.injEq]
          split_ifs at result with other
          · cases result
            exact .inl ⟨by simp [other], rfl⟩
          · cases result
            refine .inr ⟨p, _, .inr ⟨if_pos (not_not.mp other), by rw [write, block]; rfl⟩,
              rfl, ?_⟩
            simp [write, setBlock, deleteBlock, eraseIdle]
  | some p =>
      simp only [runs] at result
      rcases Option.bind_eq_some_iff.mp result with ⟨cb, block, result⟩
      simp only [status_block block, Option.some.injEq]
      split_ifs at result with other
      · cases result
        exact .inl ⟨by simp [other.1, other.2], rfl⟩
      · cases result
        have waits : cb.status = .waiting ∨ cb.status = .creating := by tauto
        refine .inr ⟨p, _, .inl ⟨if_pos waits, by rw [write, block]; rfl⟩, rfl, ?_⟩
        simp [write, setBlock, deleteBlock, eraseRun]

theorem selectIdle_decided {type : EduType}
    (result : s.selectIdle type = some (.chosen id p, s')) :
    s.selection type = some (.take id p type) ∧ s.write (.take id p type) = some s' := by
  rcases selectIdle_chosen result with ⟨cb, found, block, -, -, rfl⟩
  exact ⟨by rw [selection, result]; rfl, by rw [write, block]; rfl⟩

theorem selectIdle_undecided {type : EduType}
    (result : s.selectIdle type = some (.createNew, s')) : s.selection type = none := by
  rw [selection, result]
  rfl

/-! ### What a section has found -/

theorem busy_of_waits {p : Ptr} (block : s.blocks p = some cb)
    (waits : s.status p = some .waiting ∨ s.status p = some .creating) :
    cb.status.isBusy = true := by
  rw [status_block block, Option.some.injEq, Option.some.injEq] at waits
  rcases waits with waiting | creating
  · rw [waiting]
    rfl
  · rw [creating]
    rfl

theorem wasIdle_of_idle {p : Ptr} (block : s.blocks p = some cb)
    (idle : s.status p = some .idle) : cb.status.wasIdle = true := by
  rw [Option.some.inj ((status_block block).symm.trans idle)]
  rfl

theorem activation_sound (decides : s.activation id = some w) : w.Sound s := by
  unfold activation at decides
  split at decides
  · next p found =>
      split_ifs at decides with idle
      cases decides
      exact fun cb block => ⟨found, wasIdle_of_idle block idle⟩
  · rcases Option.bind_eq_some_iff.mp decides with ⟨p, found, decides⟩
    split_ifs at decides with waits
    cases decides
    exact fun cb block => ⟨found, busy_of_waits block waits⟩

theorem deactivation_sound (decides : s.deactivation id = some w) : w.Sound s := by
  rcases Option.bind_eq_some_iff.mp decides with ⟨p, found, decides⟩
  split_ifs at decides with waits
  cases decides
  exact fun cb block => ⟨found, busy_of_waits block waits⟩

theorem destruction_sound (decides : s.destruction id = some w) : w.Sound s := by
  unfold destruction at decides
  split at decides
  · next p found =>
      split_ifs at decides with waits
      cases decides
      exact fun cb block => ⟨found, busy_of_waits block waits⟩
  · rcases Option.bind_eq_some_iff.mp decides with ⟨p, found, decides⟩
    split_ifs at decides with idle
    cases decides
    exact fun cb block => ⟨found, wasIdle_of_idle block idle⟩

theorem selection_sound {type : EduType} (decides : s.selection type = some w) :
    w.Sound s ∧ ∃ id p, w = .take id p type := by
  rcases Option.bind_eq_some_iff.mp decides with ⟨⟨selected, after⟩, selects, decides⟩
  cases selected with
  | createNew => cases decides
  | chosen id p =>
      cases decides
      rcases selectIdle_chosen selects with ⟨cb, found, block, idle, -⟩
      refine ⟨fun other there => ⟨found, ?_⟩, id, p, rfl⟩
      cases block.symm.trans there
      rw [idle]
      rfl

theorem returnWrite_sound {stage : ReturnStage} (decides : s.returnWrite id stage = some w) :
    w.Sound s := by
  cases stage with
  | destroy => exact destruction_sound decides
  | deactivate => exact deactivation_sound decides
  | _ => cases decides

/-! ### Writing -/

theorem write_block (written : s.write w = some s') : ∃ cb, s.blocks w.ptr = some cb := by
  cases w <;> rcases Option.map_eq_some_iff.mp written with ⟨cb, block, -⟩ <;>
    exact ⟨cb, block⟩

theorem write_issued (written : s.write w = some s') : s'.nextPtr = s.nextPtr := by
  cases w <;> rcases Option.map_eq_some_iff.mp written with ⟨cb, -, rfl⟩ <;> rfl

theorem write_structured (structured : s.Structured) (sound : w.Sound s)
    (written : s.write w = some s') : s'.Structured := by
  cases w <;> rcases Option.map_eq_some_iff.mp written with ⟨cb, block, rfl⟩ <;>
    have stands := sound cb block
  · exact structured.setBlock block rfl
  · exact (structured.moveToRun stands.1).setBlock block rfl
  · exact (structured.moveToIdle stands.1).setBlock block rfl
  · exact (structured.eraseRun _).setBlock block rfl
  · exact (structured.eraseIdle _).setBlock block rfl
  · exact structured.deleteBlock _
  · exact (structured.moveToRun stands.1).setBlock block rfl

/-- What `_destroyEDU` has taken out of its queue is in neither. -/
theorem destroyRun_sound (structured : s.Structured)
    (sound : EduWrite.Sound s (.destroyRun id p)) (written : s.write (.destroyRun id p) = some s') :
    EduWrite.Sound s' (.delete p) := by
  rcases Option.map_eq_some_iff.mp written with ⟨cb, block, rfl⟩
  rintro - - key (ran | idled)
  · simp only [setBlock, eraseRun, lookup_erase_queue] at ran
    split_ifs at ran with other
    exact other ((structured.ran ran).1.trans (structured.ran (sound cb block).1).1.symm)
  · have same := (structured.idled idled).1.trans (structured.ran (sound cb block).1).1.symm
    cases same
    cases (structured.apart (sound cb block).1).symm.trans idled

theorem destroyIdle_sound (structured : s.Structured)
    (sound : EduWrite.Sound s (.destroyIdle id p))
    (written : s.write (.destroyIdle id p) = some s') : EduWrite.Sound s' (.delete p) := by
  rcases Option.map_eq_some_iff.mp written with ⟨cb, block, rfl⟩
  rintro - - key (ran | idled)
  · have same := (structured.ran ran).1.trans (structured.idled (sound cb block).1).1.symm
    cases same
    cases (structured.apart ran).symm.trans (sound cb block).1
  · simp only [setBlock, eraseIdle, lookup_erase_queue] at idled
    split_ifs at idled with other
    exact other ((structured.idled idled).1.trans (structured.idled (sound cb block).1).1.symm)

/-! ### Changes without the latch -/

/-- Without the latch, an EDU that stays keeps its place, and its status stays or becomes
WAITING or RUNNING. -/
structure Freely (s s' : EduMgr) (p : Ptr) (after : ControlBlock) : Prop where
  run : s'.runQueue.lookup (p + 1) = s.runQueue.lookup (p + 1)
  idle : s'.idleQueue.lookup (p + 1) = s.idleQueue.lookup (p + 1)
  block : ∃ cb, s.blocks p = some cb ∧
    (after.status = cb.status ∨ after.status = .waiting ∨ after.status = .running)

theorem receive_status (cb : ControlBlock) (event : EduEvent) :
    (receive cb event).status = cb.status ∨ (receive cb event).status = .running := by
  unfold receive
  split
  · exact .inl rfl
  · exact .inr rfl

theorem Change.freely (change : Change s label s') (free : label.isFree = true)
    (undone : ∀ id q, label = .undo id q → id = q + 1) (found : s'.blocks p = some cb) :
    s.Freely s' p cb := by
  cases change with
  | keep run idle ids ptrs blocks =>
      rw [blocks] at found
      exact ⟨by rw [run], by rw [idle], cb, found, .inl rfl⟩
  | undo block =>
      rcases blocks_deleteBlock found with ⟨apart, old⟩
      cases undone _ _ rfl
      exact ⟨by simp [EduMgr.deleteBlock, EduMgr.eraseRun, apart], rfl, cb, old, .inl rfl⟩
  | post block =>
      rcases setBlock_kept ControlBlock.status found block rfl with ⟨before, old, same⟩
      exact ⟨rfl, rfl, before, old, .inl same⟩
  | take block queued =>
      rcases setBlock_kept ControlBlock.status found block rfl with ⟨before, old, same⟩
      exact ⟨rfl, rfl, before, old, .inl same⟩
  | markWaiting block =>
      rcases blocks_setBlock found with ⟨rfl, rfl⟩ | old
      · exact ⟨rfl, rfl, _, block, .inr (.inl rfl)⟩
      · exact ⟨rfl, rfl, cb, old, .inl rfl⟩
  | @endWait q before event block =>
      rcases blocks_setBlock found with ⟨rfl, rfl⟩ | old
      · exact ⟨rfl, rfl, _, block, (receive_status before event).imp_right .inr⟩
      · exact ⟨rfl, rfl, cb, old, .inl rfl⟩
  | _ => cases free

theorem isBusy_freely {before after : EduStatus} (busy : before.isBusy = true)
    (written : after = before ∨ after = .waiting ∨ after = .running) : after.isBusy = true := by
  rcases written with rfl | rfl | rfl
  · exact busy
  · rfl
  · rfl

theorem wasIdle_freely {before after : EduStatus} (idle : before.wasIdle = true)
    (written : after = before ∨ after = .waiting ∨ after = .running) :
    after.wasIdle = true := by
  rcases written with rfl | rfl | rfl
  · exact idle
  · rfl
  · rfl

theorem Change.issued_free (change : Change s label s') (free : label.isFree = true) :
    s'.nextPtr = s.nextPtr := by
  cases change with
  | keep run idle ids ptrs blocks => exact ptrs
  | create newRun newIdle => cases free
  | force run idle ids ptrs blocks => exact ptrs
  | _ => rfl

/-- What a section has found stands while others act without the latch. -/
theorem Change.sound (change : Change s label s') (structured : s.Structured)
    (free : label.isFree = true) (undone : ∀ id q, label = .undo id q → id = q + 1)
    (sound : w.Sound s) : w.Sound s' := by
  intro after found
  rcases change.freely free undone found with ⟨run, idle, cb, block, written⟩
  have stands := sound cb block
  have ran : ∀ {id}, s.runQueue.lookup id = some w.ptr → s'.runQueue.lookup id = some w.ptr := by
    intro id there
    obtain rfl := (structured.ran there).1
    exact run.trans there
  have idled : ∀ {id},
      s.idleQueue.lookup id = some w.ptr → s'.idleQueue.lookup id = some w.ptr := by
    intro id there
    obtain rfl := (structured.idled there).1
    exact idle.trans there
  cases w with
  | activate id p => exact ⟨ran stands.1, isBusy_freely stands.2 written⟩
  | reactivate id p => exact ⟨idled stands.1, wasIdle_freely stands.2 written⟩
  | deactivate id p => exact ⟨ran stands.1, isBusy_freely stands.2 written⟩
  | destroyRun id p => exact ⟨ran stands.1, isBusy_freely stands.2 written⟩
  | destroyIdle id p => exact ⟨idled stands.1, wasIdle_freely stands.2 written⟩
  | take id p type => exact ⟨idled stands.1, wasIdle_freely stands.2 written⟩
  | delete p =>
      intro id queued
      rcases change.queued queued with old | ⟨rfl, -⟩
      · exact stands id old
      · cases free

/-- The stages of `returnEDU` that take no latch change nothing. -/
theorem returnEdu_unlatched {maxPool : Nat} {force : Bool} {stage : ReturnStage}
    {outcome : ReturnOutcome} (free : stage.latchUse = .none)
    (result : s.returnEdu maxPool id force stage = some (outcome, s')) : s' = s := by
  cases stage with
  | flags type =>
      simp only [returnEdu] at result
      split_ifs at result <;> cases result <;> rfl
  | _ => cases free

/-- A stage of `returnEDU` that writes nothing changes nothing. -/
theorem returnEdu_undecided {maxPool : Nat} {force : Bool} {stage : ReturnStage}
    {outcome : ReturnOutcome} (plain : s.returnWrite id stage = none)
    (result : s.returnEdu maxPool id force stage = some (outcome, s')) : s' = s := by
  cases stage with
  | lookup =>
      simp only [returnEdu] at result
      split at result
      · cases result
        rfl
      · rcases Option.map_eq_some_iff.mp result with ⟨cb, -, same⟩
        cases same
        rfl
  | flags type => exact returnEdu_unlatched rfl result
  | size =>
      simp only [returnEdu] at result
      split_ifs at result <;> cases result <;> rfl
  | destroy =>
      rcases Option.map_eq_some_iff.mp result with ⟨⟨rc, after⟩, destroyed, same⟩
      cases same
      rcases destroyEdu_decided destroyed with
        ⟨-, same⟩ | ⟨p, marked, ⟨decides, -⟩ | ⟨decides, -⟩, -⟩
      · exact same
      · cases plain.symm.trans decides
      · cases plain.symm.trans decides
  | deactivate =>
      rcases Option.map_eq_some_iff.mp result with ⟨⟨rc, after⟩, deactivated, same⟩
      cases same
      rcases deactivateEdu_decided deactivated with ⟨-, same⟩ | ⟨w, decides, -⟩
      · exact same
      · cases plain.symm.trans decides

end EduMgr

namespace EduSystem

variable {s s' : EduSystem} {maxPool : Nat} {reply : EduReply} {action : EduAction}

theorem startStep_free {c : Nat} {call : StartCall} {stage : StartStage} {granted : Bool}
    (free : stage.latchUse = .none) (found : s.starts c = some call) (here : call.stage = stage)
    (step : StartStep s c call stage granted reply s') :
    ∃ label, s.mgr.Change label s'.mgr ∧ label.isFree = true ∧
      s.Permits (.stepStart c granted) label := by
  cases step with
  | failed result =>
      exact ⟨_, EduMgr.rollbackEdu_change result, rfl, c, call, rfl, found, here⟩
  | posted result => exact ⟨_, EduMgr.postEvent_change result, rfl, trivial⟩
  | chose result => cases free
  | placed result => cases free
  | _ => exact ⟨.keep, .refl _, rfl, trivial⟩

theorem threadStep_free {p : Ptr} {t : EduThread} {pc : EduPc} {choice : EduChoice}
    (free : t.latchUse pc choice = .none) (found : s.threads p = some t) (here : t.pc = pc)
    (step : ThreadStep s maxPool p t pc choice reply s') :
    ∃ label, s.mgr.Change label s'.mgr ∧ label.isFree = true ∧
      s.Permits (.thread p choice) label := by
  cases step with
  | marked result =>
      exact ⟨_, EduMgr.markWaiting_change result, rfl, t, rfl, found, here⟩
  | took waits result => exact ⟨_, EduMgr.takeEvent_change result, rfl, trivial⟩
  | received result => exact ⟨_, EduMgr.endWait_change result, rfl, t, rfl, found, here⟩
  | resumed unforced resume result =>
      simp [EduThread.latchUse, unforced, resume] at free
  | activated result => cases free
  | waited result => cases free
  | leaving result => cases free
  | wentOn result =>
      cases EduMgr.returnEdu_unlatched free result
      exact ⟨.keep, .refl _, rfl, trivial⟩
  | gaveBack result =>
      cases EduMgr.returnEdu_unlatched free result
      exact ⟨.keep, .refl _, rfl, trivial⟩
  | _ => exact ⟨.keep, .refl _, rfl, trivial⟩

/-- An action that takes no latch changes the manager as one may without it. -/
theorem exec_free (free : s.latchUse action = .none)
    (completes : exec maxPool action s = some (reply, s')) :
    ∃ label, s.mgr.Change label s'.mgr ∧ label.isFree = true ∧ s.Permits action label := by
  cases action with
  | stepStart c granted =>
      rcases Option.bind_eq_some_iff.mp completes with ⟨call, found, stepped⟩
      simp only [latchUse, found, Option.elim_some] at free
      exact startStep_free free found rfl (stepStart_step stepped)
  | stepReturn r =>
      rcases Option.bind_eq_some_iff.mp completes with ⟨call, found, stepped⟩
      simp only [latchUse, found, Option.elim_some] at free
      rcases Option.map_eq_some_iff.mp stepped with ⟨⟨outcome, mgr⟩, returned, same⟩
      cases EduMgr.returnEdu_unlatched free returned
      cases outcome <;> cases same <;> exact ⟨.keep, .refl _, rfl, trivial⟩
  | thread p choice =>
      rcases Option.bind_eq_some_iff.mp completes with ⟨t, found, stepped⟩
      simp only [latchUse, found, Option.elim_some] at free
      exact threadStep_free free found rfl (stepThread_step stepped)
  | startEdu type arg =>
      cases completes
      exact ⟨.keep, .refl _, rfl, trivial⟩
  | returnEdu id force =>
      cases completes
      exact ⟨.keep, .refl _, rfl, trivial⟩
  | setQuiesced =>
      cases completes
      exact ⟨.keep, .keep rfl rfl rfl rfl rfl, rfl, trivial⟩
  | setDestroyed =>
      cases completes
      exact ⟨.keep, .keep rfl rfl rfl rfl rfl, rfl, trivial⟩
  | _ => cases free

/-- A section that writes belongs to an action that takes an EDU only for `startEDU`. -/
theorem decides_sound {w : EduWrite} (decides : s.decides action = some w) :
    w.Sound s.mgr := by
  cases action with
  | activateEdu id => exact EduMgr.activation_sound decides
  | stepStart c granted =>
      rcases Option.bind_eq_some_iff.mp decides with ⟨call, found, decides⟩
      split_ifs at decides with staged
      exact (EduMgr.selection_sound decides).1
  | stepReturn r =>
      rcases Option.bind_eq_some_iff.mp decides with ⟨call, found, decides⟩
      exact EduMgr.returnWrite_sound decides
  | thread p choice =>
      rcases Option.bind_eq_some_iff.mp decides with ⟨t, found, decides⟩
      split at decides
      · exact EduMgr.activation_sound decides
      · exact EduMgr.returnWrite_sound decides
      · cases decides
  | _ => cases decides

/-- The rest of an action whose section has written leaves the manager alone. -/
theorem finish_mgr {w : EduWrite} (ends : s.finish w action = some (reply, s')) :
    s'.mgr = s.mgr := by
  cases action with
  | stepStart c granted =>
      cases w with
      | take id p type =>
          rcases Option.map_eq_some_iff.mp ends with ⟨call, found, same⟩
          cases same
          rfl
      | _ => cases ends
  | thread p choice =>
      rcases Option.map_eq_some_iff.mp ends with ⟨t, found, same⟩
      split at same <;> cases same <;> rfl
  | activateEdu id =>
      cases ends
      rfl
  | stepReturn r =>
      cases ends
      rfl
  | _ => cases ends

/-- Another manager of the same shape that has issued the same ids. -/
theorem Structured.withMgr {mgr : EduMgr} (structured : s.Structured) (shaped : mgr.Structured)
    (issued : mgr.nextPtr = s.mgr.nextPtr) : { s with mgr := mgr }.Structured where
  mgr := shaped
  threads {p t} found := by
    rw [issued]
    exact structured.threads found
  starts {c call id p} found aims := by
    rw [issued]
    exact structured.starts found aims
  returning {id stage} returning moved := by
    rw [shaped.numbered, issued, ← structured.mgr.numbered]
    exact structured.returning returning moved

/-- The rest of such an action names an EDU that was named before, or that has been taken. -/
theorem Structured.finish {w : EduWrite} (structured : s.Structured)
    (named : ∀ id p type, w = .take id p type → id = p + 1 ∧ p < s.mgr.nextPtr)
    (ends : s.finish w action = some (reply, s')) : s'.Structured := by
  cases action with
  | activateEdu id =>
      cases ends
      exact structured
  | stepStart c granted =>
      cases w with
      | take id p type =>
          rcases Option.map_eq_some_iff.mp ends with ⟨call, found, same⟩
          cases same
          refine ⟨structured.mgr, structured.threads, ?_, structured.returning⟩
          intro d after key q there aims
          rcases starts_setStart there with old | ⟨rfl, rfl⟩
          · exact structured.starts old aims
          · cases aims
            exact named _ _ _ rfl
      | _ => cases ends
  | stepReturn r =>
      cases ends
      refine ⟨structured.mgr, structured.threads, structured.starts, ?_⟩
      intro id stage returning moved
      rcases returning.moved (s := s) rfl rfl rfl with old | ⟨after, same, -⟩
      · exact structured.returning old moved
      · cases same
  | thread p choice =>
      rcases Option.map_eq_some_iff.mp ends with ⟨t, found, same⟩
      split at same
      · cases same
        refine ⟨structured.mgr, ?_, structured.starts, ?_⟩
        · intro q u there
          rcases threads_setThread there with old | ⟨rfl, rfl⟩
          · exact structured.threads old
          · have own := structured.threads found
            exact own
        · intro id stage returning moved
          refine structured.returning (returning.kept rfl fun q u there => ?_) moved
          rcases threads_setThread there with old | ⟨rfl, rfl⟩
          · exact .inl old
          · refine .inr fun stage => ?_
            dsimp only
            split <;> exact nofun
      · cases same
        exact structured
  | _ => cases ends

/-! ### Uncut sections -/

/-- A section that is not interrupted: `_destroyEDU` writes twice, the others once. -/
inductive Uncut (s : EduMgr) : EduWrite → EduWrite → EduMgr → Prop where
  | once {w : EduWrite} {after : EduMgr}
      (last : ∀ id p, w ≠ .destroyRun id p ∧ w ≠ .destroyIdle id p)
      (written : s.write w = some after) : Uncut s w w after
  | twice {id : EduId} {p : Ptr} {w : EduWrite} {marked after : EduMgr}
      (destroys : w = .destroyRun id p ∨ w = .destroyIdle id p)
      (written : s.write w = some marked) (deleted : marked.write (.delete p) = some after) :
      Uncut s w (.delete p) after

theorem activation_uncut {m m' : EduMgr} {id : EduId} {w : EduWrite} {rc : ReturnCode}
    (decides : m.activation id = some w) (result : m.activateEdu id = some (rc, m')) :
    rc = edbOk ∧ Uncut m w w m' := by
  rcases EduMgr.activateEdu_decided result with ⟨none, -⟩ | ⟨other, same, rfl, written⟩
  · cases none.symm.trans decides
  · cases same.symm.trans decides
    refine ⟨rfl, .once ?_ written⟩
    unfold EduMgr.activation at decides
    split at decides
    · split_ifs at decides
      cases decides
      exact fun id p => ⟨nofun, nofun⟩
    · rcases Option.bind_eq_some_iff.mp decides with ⟨p, -, decides⟩
      split_ifs at decides
      cases decides
      exact fun id p => ⟨nofun, nofun⟩

theorem returnWrite_uncut {m m' : EduMgr} {id : EduId} {w : EduWrite} {force : Bool}
    {stage : ReturnStage} {outcome : ReturnOutcome}
    (decides : m.returnWrite id stage = some w)
    (result : m.returnEdu maxPool id force stage = some (outcome, m')) :
    outcome = .returns edbOk (decide (stage = .destroy)) ∧ ∃ last, Uncut m w last m' := by
  cases stage with
  | destroy =>
      rcases Option.map_eq_some_iff.mp result with ⟨⟨rc, after⟩, destroyed, same⟩
      cases same
      rcases EduMgr.destroyEdu_decided destroyed with
        ⟨none, -⟩ | ⟨p, marked, ⟨same, written⟩ | ⟨same, written⟩, rfl, deleted⟩
      · cases none.symm.trans decides
      · cases same.symm.trans decides
        exact ⟨rfl, _, .twice (.inl rfl) written deleted⟩
      · cases same.symm.trans decides
        exact ⟨rfl, _, .twice (.inr rfl) written deleted⟩
  | deactivate =>
      rcases Option.map_eq_some_iff.mp result with ⟨⟨rc, after⟩, deactivated, same⟩
      cases same
      rcases EduMgr.deactivateEdu_decided deactivated with
        ⟨none, -⟩ | ⟨other, same, rfl, written⟩
      · cases none.symm.trans decides
      · cases same.symm.trans decides
        refine ⟨rfl, _, .once ?_ written⟩
        rcases Option.bind_eq_some_iff.mp decides with ⟨p, -, decides⟩
        split_ifs at decides
        cases decides
        exact fun id p => ⟨nofun, nofun⟩
  | _ => cases decides

/-- The section of an action, uncut, with the rest of the action is the action. -/
theorem exec_decided {w : EduWrite} (decides : s.decides action = some w)
    (completes : exec maxPool action s = some (reply, s')) :
    ∃ last mgr, Uncut s.mgr w last mgr ∧
      { s with mgr := mgr }.finish last action = some (reply, s') := by
  cases action with
  | activateEdu id =>
      rcases Option.map_eq_some_iff.mp completes with ⟨⟨rc, mgr⟩, activated, same⟩
      cases same
      rcases activation_uncut decides activated with ⟨rfl, uncut⟩
      exact ⟨_, _, uncut, rfl⟩
  | stepStart c granted =>
      rcases Option.bind_eq_some_iff.mp completes with ⟨call, found, stepped⟩
      simp only [EduSystem.decides, found, Option.bind_some] at decides
      split_ifs at decides with staged
      have step := stepStart_step stepped
      rw [staged] at step
      cases step with
      | quiesced tests => rcases tests with same | same <;> cases same
      | noneIdle result => cases (EduMgr.selectIdle_undecided result).symm.trans decides
      | chose result =>
          rcases EduMgr.selectIdle_decided result with ⟨same, written⟩
          cases same.symm.trans decides
          exact ⟨_, _, .once (fun id p => ⟨nofun, nofun⟩) written, by simp [finish, found]⟩
  | stepReturn r =>
      rcases Option.bind_eq_some_iff.mp completes with ⟨call, found, stepped⟩
      simp only [EduSystem.decides, found, Option.bind_some] at decides
      rcases Option.map_eq_some_iff.mp stepped with ⟨⟨outcome, mgr⟩, returned, same⟩
      rcases returnWrite_uncut decides returned with ⟨rfl, last, uncut⟩
      cases same
      exact ⟨_, _, uncut, rfl⟩
  | thread p choice =>
      rcases Option.bind_eq_some_iff.mp completes with ⟨t, found, stepped⟩
      simp only [EduSystem.decides, found, Option.bind_some] at decides
      split at decides
      · next here =>
          rw [here] at stepped
          rcases Option.map_eq_some_iff.mp stepped with ⟨⟨rc, mgr⟩, activated, same⟩
          cases same
          rcases activation_uncut decides activated with ⟨rfl, uncut⟩
          exact ⟨_, _, uncut, by simp [finish, found, here]⟩
      · next stage here =>
          rw [here] at stepped
          rcases Option.map_eq_some_iff.mp stepped with ⟨⟨outcome, mgr⟩, returned, same⟩
          rcases returnWrite_uncut decides returned with ⟨rfl, last, uncut⟩
          cases same
          exact ⟨_, _, uncut, by simp [finish, found, here]⟩
      · cases decides
  | _ => cases decides

end EduSystem

end EmeraldDb
