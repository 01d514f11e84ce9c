/-
Module: EmeraldDb.Proofs.EduFlags
Purpose: The manager's flags and its map of system EDUs change only by the calls that are
  there to change them.
Trusted boundary: none
Main exports: EduMgr.flags, EduAction.setsFlags, EduSystem.exec_flags, exec_isQuiesced
-/
import EmeraldDb.Proofs.EduChange

namespace EmeraldDb

namespace EduMgr

variable {s s' : EduMgr} {id : EduId} {p : Ptr} {rc : ReturnCode}

/-- `_mapSystemEDUS`, `_isQuiesced` and `_isDestroyed`. -/
def flags (s : EduMgr) : (EduType → Option EduId) × Bool × Bool :=
  (s.systemEdus, s.isQuiesced, s.isDestroyed)

theorem activateEdu_flags (result : s.activateEdu id = some (rc, s')) : s'.flags = s.flags := by
  unfold activateEdu at result
  split at result
  · rcases Option.bind_eq_some_iff.mp result with ⟨cb, -, result⟩
    split_ifs at result <;> cases result <;> rfl
  · split at result
    · cases result
      rfl
    · rcases Option.bind_eq_some_iff.mp result with ⟨cb, -, result⟩
      split_ifs at result <;> cases result <;> rfl

theorem waitEdu_flags (result : s.waitEdu id = some (rc, s')) : s'.flags = s.flags := by
  unfold waitEdu at result
  split at result
  · cases result
    rfl
  · rcases Option.bind_eq_some_iff.mp result with ⟨cb, -, result⟩
    split_ifs at result <;> cases result <;> rfl

theorem destroyEdu_flags (result : s.destroyEdu id = some (rc, s')) : s'.flags = s.flags := by
  unfold destroyEdu at result
  split at result
  · split at result
    · cases result
      rfl
    · rcases Option.bind_eq_some_iff.mp result with ⟨cb, -, result⟩
      split_ifs at result <;> cases result <;> rfl
  · rcases Option.bind_eq_some_iff.mp result with ⟨cb, -, result⟩
    split_ifs at result <;> cases result <;> rfl

theorem deactivateEdu_flags (result : s.deactivateEdu id = some (rc, s')) :
    s'.flags = s.flags := by
  unfold deactivateEdu at result
  split at result
  · split at result <;> cases result <;> rfl
  · rcases Option.bind_eq_some_iff.mp result with ⟨cb, -, result⟩
    split_ifs at result <;> cases result <;> rfl

theorem returnEdu_flags {maxPool : Nat} {force : Bool} {stage : ReturnStage}
    {outcome : ReturnOutcome}
    (result : s.returnEdu maxPool id force stage = some (outcome, s')) : s'.flags = s.flags := by
  cases outcome with
  | goesOn next => rw [(returnEdu_goesOn result).1]
  | returns rc destroyed =>
      cases stage with
      | lookup =>
          simp only [returnEdu] at result
          split at result
          · cases result
            rfl
          · rcases Option.map_eq_some_iff.mp result with ⟨cb, -, same⟩
            cases same
      | flags type =>
          simp only [returnEdu] at result
          split_ifs at result <;> cases result
      | size =>
          simp only [returnEdu] at result
          split_ifs at result <;> cases result
      | destroy =>
          rcases Option.map_eq_some_iff.mp result with ⟨⟨code, after⟩, ended, same⟩
          cases same
          exact destroyEdu_flags ended
      | deactivate =>
          rcases Option.map_eq_some_iff.mp result with ⟨⟨code, after⟩, ended, same⟩
          cases same
          exact deactivateEdu_flags ended

theorem forceKey_flags {q : EduQueue} (result : s.forceKey q id = some s') :
    s'.flags = s.flags := by
  rcases Option.bind_eq_some_iff.mp result with ⟨p, -, result⟩
  rcases Option.map_eq_some_iff.mp result with ⟨cb, -, rfl⟩
  rfl

theorem forceUserEdu_flags (result : s.forceUserEdu id = some (rc, s')) :
    s'.flags = s.flags := by
  unfold forceUserEdu at result
  split at result
  · cases result
    rfl
  · split at result
    · rcases Option.map_eq_some_iff.mp result with ⟨after, forced, same⟩
      cases same
      exact forceKey_flags forced
    · split at result
      · rcases Option.map_eq_some_iff.mp result with ⟨after, forced, same⟩
        cases same
        exact forceKey_flags forced
      · cases result
        rfl

theorem postEvent_flags {event : EduEvent} (result : s.postEvent p event = some s') :
    s'.flags = s.flags := by
  rcases Option.map_eq_some_iff.mp result with ⟨cb, -, rfl⟩
  rfl

theorem postEduPost_flags {event : EduEvent} (result : s.postEduPost id event = some (rc, s')) :
    s'.flags = s.flags := by
  unfold postEduPost at result
  split at result
  · cases result
    rfl
  · rcases Option.map_eq_some_iff.mp result with ⟨after, posted, same⟩
    cases same
    exact postEvent_flags posted

theorem markWaiting_flags (result : s.markWaiting p = some s') : s'.flags = s.flags := by
  rcases Option.map_eq_some_iff.mp result with ⟨cb, -, rfl⟩
  rfl

theorem takeEvent_flags {event : EduEvent} (result : s.takeEvent p = some (event, s')) :
    s'.flags = s.flags := by
  rcases takeEvent_takes result with ⟨cb, rest, -, -, rfl⟩
  rfl

theorem endWait_flags {event : EduEvent} (result : s.endWait p event = some s') :
    s'.flags = s.flags := by
  rcases Option.map_eq_some_iff.mp result with ⟨cb, -, rfl⟩
  rfl

theorem insertEdu_flags {type : EduType} {created : EduId × Ptr}
    (result : s.insertEdu type = (some created, s')) : s'.flags = s.flags := by
  unfold insertEdu at result
  split_ifs at result <;> cases result
  rfl

end EduMgr

/-- The calls that change a flag or the map of system EDUs. -/
def EduAction.setsFlags : EduAction → Bool
  | .regSystemEdu .. => true
  | .setQuiesced => true
  | .setDestroyed => true
  | _ => false

namespace EduSystem

variable {s s' : EduSystem} {maxPool : Nat} {reply : EduReply} {action : EduAction}

theorem startStep_flags {c : Nat} {call : StartCall} {stage : StartStage} {granted : Bool}
    (step : StartStep s c call stage granted reply s') : s'.mgr.flags = s.mgr.flags := by
  cases step with
  | chose result =>
      rcases EduMgr.selectIdle_chosen result with ⟨cb, -, -, -, -, rfl⟩
      rfl
  | placed result => exact EduMgr.insertEdu_flags result
  | failed result =>
      rcases Option.map_eq_some_iff.mp result with ⟨cb, -, rfl⟩
      rfl
  | posted result => exact EduMgr.postEvent_flags result
  | _ => rfl

theorem threadStep_flags {p : Ptr} {t : EduThread} {pc : EduPc} {choice : EduChoice}
    (step : ThreadStep s maxPool p t pc choice reply s') : s'.mgr.flags = s.mgr.flags := by
  cases step with
  | marked result => exact EduMgr.markWaiting_flags result
  | took waits result => exact EduMgr.takeEvent_flags result
  | received result => exact EduMgr.endWait_flags result
  | resumed unforced resume result => exact EduMgr.waitEdu_flags result
  | activated result => exact EduMgr.activateEdu_flags result
  | waited result => exact EduMgr.waitEdu_flags result
  | leaving result => exact EduMgr.waitEdu_flags result
  | wentOn result => exact EduMgr.returnEdu_flags result
  | gaveBack result => exact EduMgr.returnEdu_flags result
  | _ => rfl

/-- All other actions leave the flags and the map alone. -/
theorem exec_flags (keeps : action.setsFlags = false)
    (completes : exec maxPool action s = some (reply, s')) : s'.mgr.flags = s.mgr.flags := by
  cases action with
  | startEdu type arg =>
      cases completes
      rfl
  | stepStart c granted =>
      rcases Option.bind_eq_some_iff.mp completes with ⟨call, found, stepped⟩
      exact startStep_flags (stepStart_step stepped)
  | returnEdu id force =>
      cases completes
      rfl
  | stepReturn r =>
      rcases Option.bind_eq_some_iff.mp completes with ⟨call, found, stepped⟩
      rcases Option.map_eq_some_iff.mp stepped with ⟨⟨outcome, mgr⟩, returned, same⟩
      cases outcome <;> cases same <;> exact EduMgr.returnEdu_flags returned
  | activateEdu id =>
      rcases Option.map_eq_some_iff.mp completes with ⟨⟨rc, mgr⟩, activated, same⟩
      cases same
      exact EduMgr.activateEdu_flags activated
  | waitEdu id =>
      rcases Option.map_eq_some_iff.mp completes with ⟨⟨rc, mgr⟩, waited, same⟩
      cases same
      exact EduMgr.waitEdu_flags waited
  | forceUserEdu id =>
      rcases Option.map_eq_some_iff.mp completes with ⟨⟨rc, mgr⟩, forced, same⟩
      cases same
      exact EduMgr.forceUserEdu_flags forced
  | postEduPost id event =>
      rcases Option.map_eq_some_iff.mp completes with ⟨⟨rc, mgr⟩, posted, same⟩
      cases same
      exact EduMgr.postEduPost_flags posted
  | forceEdus property =>
      cases completes
      rfl
  | thread p choice =>
      rcases Option.bind_eq_some_iff.mp completes with ⟨t, found, stepped⟩
      exact threadStep_flags (stepThread_step stepped)
  | _ => cases keeps

/-- Nothing takes the quiesced flag back. -/
theorem exec_isQuiesced (completes : exec maxPool action s = some (reply, s'))
    (quiesced : s.mgr.isQuiesced = true) : s'.mgr.isQuiesced = true := by
  cases action with
  | regSystemEdu type id =>
      cases completes
      exact quiesced
  | setQuiesced =>
      cases completes
      rfl
  | setDestroyed =>
      cases completes
      exact quiesced
  | _ =>
      have same := exec_flags rfl completes
      exact (congrArg (·.2.1) same).trans quiesced

end EduSystem

end EmeraldDb
