/-
Module: EmeraldDb.Proofs.EduAccess
Purpose: The steps of the EDU manager access by access, and the shape that every run keeps.
Trusted boundary: none
Main exports: EduAccess.AccessStep, EduAccess.exec_step, EduAccess.Structured,
  AccessRun.structured, EduSystem.exec_access
-/
import EmeraldDb.Proofs.EduSections

namespace EmeraldDb

/-- The control block that a call of `waitEDUPost` has found. -/
def WaitStage.ptr : WaitStage → Option Ptr
  | .lookup => none
  | .testing p => some p
  | .marking p => some p
  | .blocked p => some p
  | .sleeping p => some p
  | .receiving p _ => some p

namespace EduAccess

/-! ### The steps -/

/-- What one step of a call of `waitEDUPost` does. -/
inductive WaitStep (s : EduAccess) (c : Nat) (call : WaitCall) :
    WaitStage → EduChoice → AccessReply → EduAccess → Prop where
  | absent {held : OssSLatch} (took : s.latch.getShared = some held)
      (unknown : s.sys.mgr.find call.id = none) :
      WaitStep s c call .lookup .goOn (.waited edbSys none) ({ s with latch := held }.endWait c)
  | looked {held : OssSLatch} {p : Ptr} (took : s.latch.getShared = some held)
      (found : s.sys.mgr.find call.id = some p) :
      WaitStep s c call .lookup .goOn (.edu .nothing)
        ({ s with latch := held }.setWait c call (.testing p))
  | tested {p : Ptr} {cb : ControlBlock} (block : s.sys.mgr.blocks p = some cb) :
      WaitStep s c call (.testing p) .goOn (.edu .nothing)
        (s.setWait c call (if cb.status = .idle then .blocked p else .marking p))
  | marked {p : Ptr} {mgr : EduMgr} (result : s.sys.mgr.markWaiting p = some mgr) :
      WaitStep s c call (.marking p) .goOn (.edu .nothing)
        ({ s with sys.mgr := mgr }.setWait c call (.blocked p))
  | slept {p : Ptr} {cb : ControlBlock} (block : s.sys.mgr.blocks p = some cb)
      (empty : cb.queue = []) :
      WaitStep s c call (.blocked p) .goOn (.edu .nothing) (s.setWait c call (.sleeping p))
  | took {stage : WaitStage} {p : Ptr} {event : EduEvent} {mgr : EduMgr}
      (waits : stage = .blocked p ∨ stage = .sleeping p)
      (result : s.sys.mgr.takeEvent p = some (event, mgr)) :
      WaitStep s c call stage .take (.edu .nothing)
        ({ s with sys.mgr := mgr }.setWait c call (.receiving p event))
  | ranOut {p : Ptr} (timed : ¬ call.millsecond < 0) :
      WaitStep s c call (.sleeping p) .timeOut (.waited edbTimeout none) (s.endWait c)
  | received {p : Ptr} {event : EduEvent} {mgr : EduMgr}
      (result : s.sys.mgr.endWait p event = some mgr) :
      WaitStep s c call (.receiving p event) .goOn (.waited edbOk (some event))
        ({ s with sys.mgr := mgr }.endWait c)

/-- What one action does. -/
inductive AccessStep (s : EduAccess) (maxPool : Nat) :
    AccessAction → AccessReply → EduAccess → Prop where
  /-- a section that writes nothing after a test, or an access without the latch -/
  | done {action : EduAction} {reply : EduReply} {sys : EduSystem}
      (other : s.holder ≠ some action)
      (latched : s.sys.latchUse action = .none ∨ s.latch.writer = false)
      (plain : s.sys.decides action = none)
      (completes : EduSystem.exec maxPool action s.sys = some (reply, sys)) :
      AccessStep s maxPool (.edu action) (.edu reply) { s with sys := sys }
  /-- a section has passed its test -/
  | decided {action : EduAction} {w : EduWrite} {held : OssSLatch}
      (took : s.latch.get = some held) (decides : s.sys.decides action = some w) :
      AccessStep s maxPool (.edu action) (.edu .nothing)
        { s with latch := held, writing := some (action, w) }
  /-- `_destroyEDU` has set the status -/
  | destroyed {action : EduAction} {w : EduWrite} {p : Ptr} {mgr : EduMgr}
      (held : s.writing = some (action, w))
      (destroys : ∃ id, w = .destroyRun id p ∨ w = .destroyIdle id p)
      (written : s.sys.mgr.write w = some mgr) :
      AccessStep s maxPool (.edu action) (.edu .nothing)
        { s with sys.mgr := mgr, writing := some (action, .delete p) }
  /-- a section has written -/
  | finished {action : EduAction} {w : EduWrite} {mgr : EduMgr} {reply : EduReply}
      {sys : EduSystem} (held : s.writing = some (action, w))
      (last : ∀ id p, w ≠ .destroyRun id p ∧ w ≠ .destroyIdle id p)
      (written : s.sys.mgr.write w = some mgr)
      (ends : { s.sys with mgr := mgr }.finish w action = some (reply, sys)) :
      AccessStep s maxPool (.edu action) (.edu reply)
        { s with sys := sys, latch := s.latch.release, writing := none }
  | called {id : EduId} {millsecond : Int} :
      AccessStep s maxPool (.waitEduPost id millsecond) (.edu .nothing)
        { s with
          waits := Function.update s.waits s.nextWait (some ⟨id, millsecond, .lookup⟩)
          nextWait := s.nextWait + 1 }
  | waited {c : Nat} {choice : EduChoice} {call : WaitCall} {stage : WaitStage}
      {reply : AccessReply} {s' : EduAccess} (found : s.waits c = some call)
      (here : call.stage = stage) (step : WaitStep s c call stage choice reply s') :
      AccessStep s maxPool (.stepWait c choice) reply s'

variable {s s' : EduAccess} {maxPool : Nat} {reply : AccessReply} {action : AccessAction}

theorem enter_step {action : EduAction} (other : s.holder ≠ some action)
    (result : s.enter maxPool action = some (reply, s')) :
    AccessStep s maxPool (.edu action) reply s' := by
  unfold enter at result
  split_ifs at result with admitted
  split at result
  · next w decides =>
      rcases Option.map_eq_some_iff.mp result with ⟨held, took, same⟩
      cases same
      exact .decided took decides
  · next plain =>
      rcases Option.map_eq_some_iff.mp result with ⟨⟨answer, sys⟩, completes, same⟩
      cases same
      refine .done other ?_ plain completes
      cases use : s.sys.latchUse action with
      | none => exact .inl rfl
      | shared =>
          rw [use, OssSLatch.admits, Bool.not_eq_false, Option.isSome_iff_exists] at admitted
          exact .inr (OssSLatch.getShared_some admitted.choose_spec).1
      | exclusive =>
          rw [use, OssSLatch.admits, Bool.not_eq_false, Option.isSome_iff_exists] at admitted
          rw [(OssSLatch.get_some admitted.choose_spec).1]
          exact .inr rfl

theorem finish_step {action : EduAction} {w : EduWrite} (held : s.writing = some (action, w))
    (result : s.finish action w = some (reply, s')) :
    AccessStep s maxPool (.edu action) reply s' := by
  rcases Option.bind_eq_some_iff.mp result with ⟨mgr, written, result⟩
  split at result
  · cases result
    exact .destroyed held ⟨_, .inl rfl⟩ written
  · cases result
    exact .destroyed held ⟨_, .inr rfl⟩ written
  · next notRun notIdle =>
      rcases Option.map_eq_some_iff.mp result with ⟨⟨answer, sys⟩, ends, same⟩
      cases same
      exact .finished held (fun id p => ⟨notRun id p, notIdle id p⟩) written ends

theorem stepWait_step {c : Nat} {call : WaitCall} {stage : WaitStage} {choice : EduChoice}
    (result : s.stepWait c call stage choice = some (reply, s')) :
    WaitStep s c call stage choice reply s' := by
  unfold stepWait at result
  split at result
  · rcases Option.map_eq_some_iff.mp result with ⟨held, took, same⟩
    split at same
    · next unknown =>
        cases same
        exact .absent took unknown
    · next p found =>
        cases same
        exact .looked took found
  · simp only [EduMgr.status, Option.map_map] at result
    rcases Option.map_eq_some_iff.mp result with ⟨cb, block, same⟩
    cases same
    exact .tested block
  · rcases Option.map_eq_some_iff.mp result with ⟨mgr, marked, same⟩
    cases same
    exact .marked marked
  · rcases Option.bind_eq_some_iff.mp result with ⟨cb, block, result⟩
    split_ifs at result with empty
    cases result
    exact .slept block empty
  · rcases Option.map_eq_some_iff.mp result with ⟨⟨event, mgr⟩, taken, same⟩
    cases same
    exact .took (.inl rfl) taken
  · rcases Option.map_eq_some_iff.mp result with ⟨⟨event, mgr⟩, taken, same⟩
    cases same
    exact .took (.inr rfl) taken
  · split_ifs at result with endless
    cases result
    exact .ranOut endless
  · rcases Option.map_eq_some_iff.mp result with ⟨mgr, ended, same⟩
    cases same
    exact .received ended
  · cases result

theorem exec_step (completes : exec maxPool action s = some (reply, s')) :
    AccessStep s maxPool action reply s' := by
  cases action with
  | edu action =>
      simp only [exec] at completes
      split at completes
      · next owner w held =>
          split_ifs at completes with own same
          · cases own
            exact finish_step held completes
          · refine enter_step ?_ completes
            rw [holder, held]
            exact fun mine => own (Option.some.inj mine).symm
      · next idle =>
          refine enter_step ?_ completes
          rw [holder, idle]
          exact nofun
  | waitEduPost id millsecond =>
      cases completes
      exact .called
  | stepWait c choice =>
      rcases Option.bind_eq_some_iff.mp completes with ⟨call, found, stepped⟩
      exact .waited found rfl (stepWait_step stepped)

/-! ### Invariants of every run -/

/-- The system has its shape, and the section that has yet to write has the latch and still
finds its EDU. -/
structure Structured (s : EduAccess) : Prop where
  sys : s.sys.Structured
  latched : ∀ {action w}, s.writing = some (action, w) → s.latch.writer = true
  sound : ∀ {action w}, s.writing = some (action, w) → w.Sound s.sys.mgr
  waits : ∀ {c call p}, s.waits c = some call → call.stage.ptr = some p →
    p < s.sys.mgr.nextPtr

theorem init_structured : init.Structured where
  sys := EduSystem.init_structured
  latched held := by cases held
  sound held := by cases held
  waits found := by cases found

/-- A step of a call of `waitEDUPost` is one of `waitEvent`, or none for the manager. -/
theorem WaitStep.change {c : Nat} {call : WaitCall} {stage : WaitStage} {choice : EduChoice}
    (step : WaitStep s c call stage choice reply s') :
    ∃ label, s.sys.mgr.Change label s'.sys.mgr ∧ label.isFree = true ∧
      (∀ id q, label ≠ .undo id q) ∧ s'.sys = { s.sys with mgr := s'.sys.mgr } ∧
      (∀ p, label = .markWaiting p → stage = .marking p) ∧
      ∀ p event, label = .endWait p event → stage = .receiving p event := by
  cases step with
  | marked result =>
      refine ⟨_, EduMgr.markWaiting_change result, rfl, nofun, rfl, ?_, nofun⟩
      rintro p ⟨⟩
      rfl
  | took waits result =>
      exact ⟨_, EduMgr.takeEvent_change result, rfl, nofun, rfl, nofun, nofun⟩
  | received result =>
      refine ⟨_, EduMgr.endWait_change result, rfl, nofun, rfl, nofun, ?_⟩
      rintro p event ⟨⟩
      rfl
  | _ => exact ⟨.keep, .refl _, rfl, nofun, rfl, nofun, nofun⟩

/-- Nobody but the section that is writing holds the latch. -/
theorem WaitStep.latch {c : Nat} {call : WaitCall} {stage : WaitStage} {choice : EduChoice}
    (step : WaitStep s c call stage choice reply s') :
    s'.writing = s.writing ∧ (s.latch.writer = true → s'.latch.writer = true) := by
  cases step with
  | absent took unknown =>
      exact ⟨rfl, fun held => by cases (OssSLatch.getShared_some took).1.symm.trans held⟩
  | looked took found =>
      exact ⟨rfl, fun held => by cases (OssSLatch.getShared_some took).1.symm.trans held⟩
  | _ => exact ⟨rfl, id⟩

theorem WaitStep.others {c d : Nat} {call : WaitCall} {stage : WaitStage} {choice : EduChoice}
    (step : WaitStep s c call stage choice reply s') (apart : d ≠ c) :
    s'.waits d = s.waits d := by
  cases step <;> exact Function.update_of_ne apart ..

/-- A call of `waitEDUPost` waits for the EDU that it has found. -/
theorem WaitStep.waits {c d : Nat} {call after : WaitCall} {stage : WaitStage}
    {choice : EduChoice} {p : Ptr} (step : WaitStep s c call stage choice reply s')
    (there : s'.waits d = some after) (names : after.stage.ptr = some p) :
    s.waits d = some after ∨ stage.ptr = some p ∨
      s.sys.mgr.find call.id = some p ∧ after.stage = .testing p := by
  rcases eq_or_ne d c with rfl | apart
  · cases step with
    | looked took found =>
        cases (Function.update_self ..).symm.trans there
        cases names
        exact .inr (.inr ⟨found, rfl⟩)
    | tested block =>
        cases (Function.update_self ..).symm.trans there
        refine .inr (.inl ?_)
        dsimp only at names
        split at names <;> exact names
    | marked result =>
        cases (Function.update_self ..).symm.trans there
        exact .inr (.inl names)
    | slept block empty =>
        cases (Function.update_self ..).symm.trans there
        exact .inr (.inl names)
    | took waits result =>
        cases (Function.update_self ..).symm.trans there
        rcases waits with rfl | rfl <;> exact .inr (.inl names)
    | _ => cases (Function.update_self ..).symm.trans there
  · exact .inl ((step.others apart).symm.trans there)

theorem Structured.step (structured : s.Structured)
    (completes : exec maxPool action s = some (reply, s')) : s'.Structured := by
  cases exec_step completes with
  | @done action reply sys other latched plain ran =>
      rcases EduSystem.exec_change ran with ⟨label, change, -⟩
      refine ⟨structured.sys.step ran, structured.latched, ?_, ?_⟩
      · intro owner w held
        rcases latched with free | unheld
        · rcases EduSystem.exec_free free ran with ⟨label, change, free, permits⟩
          refine change.sound structured.sys.mgr free ?_ (structured.sound held)
          rintro id q rfl
          rcases permits with ⟨c, call, -, found, staged⟩
          exact (structured.sys.starts found (by rw [staged]; rfl)).1
        · cases unheld.symm.trans (structured.latched held)
      · exact fun found names =>
          Nat.lt_of_lt_of_le (structured.waits found names) change.issued
  | decided took decides =>
      refine ⟨structured.sys, ?_, ?_, structured.waits⟩
      · intro owner w held
        rw [(OssSLatch.get_some took).1, OssSLatch.get_init] at took
        cases took
        rfl
      · intro owner w held
        cases held
        exact EduSystem.decides_sound decides
  | @destroyed action w p mgr held destroys written =>
      have sound := structured.sound held
      have issued := EduMgr.write_issued written
      refine ⟨structured.sys.withMgr
        (EduMgr.write_structured structured.sys.mgr sound written) issued, ?_, ?_, ?_⟩
      · exact fun _ => structured.latched held
      · intro owner other writing
        cases writing
        rcases destroys with ⟨id, rfl | rfl⟩
        · exact EduMgr.destroyRun_sound structured.sys.mgr sound written
        · exact EduMgr.destroyIdle_sound structured.sys.mgr sound written
      · intro c call q found names
        rw [issued]
        exact structured.waits found names
  | @finished action w mgr reply sys held last written ends =>
      have sound := structured.sound held
      have issued := EduMgr.write_issued written
      have shaped := EduMgr.write_structured structured.sys.mgr sound written
      refine ⟨(structured.sys.withMgr shaped issued).finish ?_ ends, nofun, nofun, ?_⟩
      · rintro id p type rfl
        rcases EduMgr.write_block written with ⟨cb, block⟩
        dsimp only
        rw [issued]
        exact structured.sys.mgr.idled (sound cb block).1
      · intro c call q found names
        dsimp only
        rw [EduSystem.finish_mgr ends, issued]
        exact structured.waits found names
  | called =>
      refine ⟨structured.sys, structured.latched, structured.sound, ?_⟩
      intro c call p found names
      rcases eq_or_ne c s.nextWait with rfl | apart
      · cases (Function.update_self ..).symm.trans found
        cases names
      · exact structured.waits ((Function.update_of_ne apart ..).symm.trans found) names
  | @waited c choice call stage reply s' found here step =>
      rcases step.change with ⟨label, change, free, kept, same, -⟩
      rcases step.latch with ⟨writing, latched⟩
      have issued := change.issued_free free
      refine ⟨?_, ?_, ?_, ?_⟩
      · rw [same]
        exact structured.sys.withMgr (change.structured structured.sys.mgr) issued
      · intro owner w held
        rw [writing] at held
        exact latched (structured.latched held)
      · intro owner w held
        rw [writing] at held
        exact change.sound structured.sys.mgr free (fun id q undo => absurd undo (kept id q))
          (structured.sound held)
      · intro d after p there names
        rw [issued]
        rcases step.waits there names with old | own | ⟨looked, -⟩
        · exact structured.waits old names
        · exact structured.waits found (by rw [here]; exact own)
        · exact (structured.sys.mgr.queued (EduMgr.queued_of_find looked)).2

/-! ### Uncut sections -/

/-- The last write of a section, and the rest of its action. -/
theorem finish_last {action : EduAction} {w : EduWrite} {mgr : EduMgr} {answer : EduReply}
    {sys : EduSystem} (last : ∀ id p, w ≠ .destroyRun id p ∧ w ≠ .destroyIdle id p)
    (written : s.sys.mgr.write w = some mgr)
    (ends : { s.sys with mgr := mgr }.finish w action = some (answer, sys)) :
    s.finish action w =
      some (.edu answer, { s with sys := sys, latch := s.latch.release, writing := none }) := by
  cases w with
  | destroyRun id p => exact absurd rfl (last id p).1
  | destroyIdle id p => exact absurd rfl (last id p).2
  | _ => simp only [finish, written, Option.bind_some, ends, Option.map_some]

/-- The section that is writing goes on. -/
theorem exec_writing {action : EduAction} {w : EduWrite} (held : s.writing = some (action, w)) :
    exec maxPool (.edu action) s = s.finish action w := by
  simp only [exec, held, if_true]

/-- What the manager does section by section it can do access by access. -/
theorem exec_uncut {sys sys' : EduSystem} {answer : EduReply} {action : EduAction}
    (completes : EduSystem.exec maxPool action sys = some (answer, sys'))
    (waits : Nat → Option WaitCall) (nextWait : Nat) :
    ∃ trace, Run (exec maxPool) (fun _ _ _ => True) ⟨sys, .init, none, waits, nextWait⟩
        trace ⟨sys', .init, none, waits, nextWait⟩ ∧
      trace.getLast?.map Transition.reply = some (.edu answer) := by
  have admitted : ∀ use, OssSLatch.init.admits use = true := by
    rintro (_ | _ | _) <;> rfl
  cases decides : sys.decides action with
  | none =>
      have steps : exec maxPool (.edu action) ⟨sys, .init, none, waits, nextWait⟩ =
          some (.edu answer, ⟨sys', .init, none, waits, nextWait⟩) := by
        simp [exec, enter, admitted, decides, completes]
      exact ⟨_, Run.start.step trivial steps, rfl⟩
  | some w =>
      rcases EduSystem.exec_decided decides completes with ⟨last, mgr, uncut, ends⟩
      have enters : exec maxPool (.edu action) ⟨sys, .init, none, waits, nextWait⟩ =
          some (.edu .nothing, ⟨sys, ⟨true, 0⟩, some (action, w), waits, nextWait⟩) := by
        simp [exec, enter, admitted, decides]
      have begun : Run (exec maxPool) (fun _ _ _ => True) _ _ _ := .step .start trivial enters
      cases uncut with
      | once single written =>
          have writes : exec maxPool (.edu action)
              ⟨sys, ⟨true, 0⟩, some (action, w), waits, nextWait⟩ =
                some (.edu answer, ⟨sys', .init, none, waits, nextWait⟩) := by
            rw [exec_writing rfl]
            exact finish_last single written ends
          exact ⟨_, begun.step trivial writes, by simp⟩
      | @twice id p w marked mgr destroys written deleted =>
          have marks : exec maxPool (.edu action)
              ⟨sys, ⟨true, 0⟩, some (action, w), waits, nextWait⟩ =
                some (.edu .nothing, ⟨{ sys with mgr := marked }, ⟨true, 0⟩,
                  some (action, .delete p), waits, nextWait⟩) := by
            rw [exec_writing rfl]
            rcases destroys with rfl | rfl <;>
              simp only [finish, written, Option.bind_some]
          have deletes : exec maxPool (.edu action)
              ⟨{ sys with mgr := marked }, ⟨true, 0⟩, some (action, .delete p), waits,
                nextWait⟩ = some (.edu answer, ⟨sys', .init, none, waits, nextWait⟩) := by
            rw [exec_writing rfl]
            exact finish_last (fun id q => ⟨nofun, nofun⟩) deleted ends
          exact ⟨_, (begun.step trivial marks).step trivial deletes, by simp⟩

end EduAccess

theorem AccessRun.structured {maxPool : Nat}
    {allowed : AccessTrace → EduAccess → AccessAction → Prop} {trace : AccessTrace}
    {s : EduAccess} (run : AccessRun maxPool allowed trace s) : s.Structured :=
  Run.invariant EduAccess.init_structured
    (fun structured _ completes => structured.step completes) run

end EmeraldDb
