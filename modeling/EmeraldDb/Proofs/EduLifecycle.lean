/-
Module: EmeraldDb.Proofs.EduLifecycle
Purpose: Every EDU stays in its phases while only startEDU, forceUserEDU and the EDU
  threads are at work, and no force is read across a handover.
Trusted boundary: none
Main exports: EduSystem.ReadsForceApart, EduSystem.Lifecycle, Lifecycle.advances,
  Lifecycle.step
-/
import EmeraldDb.Proofs.EduPhase

namespace EmeraldDb

namespace EduSystem

variable {s s' : EduSystem} {maxPool : Nat} {reply : EduReply} {action : EduAction}
  {p q : Ptr} {t : EduThread} {cb : ControlBlock} {owed : List (EduType × Nat)}

/-! ### Steps of startEDU -/

/-- The EDU that a record of a call aims at. -/
def recordTarget (record : Option StartCall) : Option (EduId × Ptr) :=
  record.bind fun call => target call.stage

/-- Writing the record of one call, which aims at the EDU neither before nor after. -/
theorem claims_update {c : Nat} {record : Option StartCall}
    (before : ∀ id, recordTarget (s.starts c) ≠ some (id, p))
    (after : ∀ id, recordTarget record ≠ some (id, p)) :
    ∀ d other id, target other.stage = some (id, p) →
      (Function.update s.starts c record d = some other ↔ s.starts d = some other) := by
  intro d other id aims
  rcases eq_or_ne d c with rfl | apart
  · rw [Function.update_self]
    constructor
    · rintro rfl
      exact absurd aims (after id)
    · intro same
      rw [same] at before
      exact absurd aims (before id)
  · rw [Function.update_of_ne apart]

/-- The EDU that a call aims at is being created, or waits for RESUME. -/
theorem phase_claimed {c : Nat} {call : StartCall} {id : EduId} (phase : EduPhase s p owed)
    (found : s.starts c = some call) (aims : target call.stage = some (id, p)) :
    owed = [] ∧ ClaimedBy s.starts p c call ∧
      ((call.stage = .createThread (p + 1) p ∧ s.threads p = none ∧
          ∃ cb, InRun s.mgr p cb ∧ cb.type = call.type ∧ hasEntryFunc cb.type = true ∧
            cb.status = .creating ∧ cb.queue = []) ∨
        (call.stage = .post (p + 1) p ∧
          ∃ cb t, InRun s.mgr p cb ∧ cb.type = call.type ∧
            (cb.status = .creating ∨ cb.status = .waiting) ∧ cb.queue = [] ∧
            Attends s.threads p cb t ∧ t.pc.waits = true)) := by
  cases phase with
  | absent left thread free => exact absurd aims (free c call id found)
  | creating claimed stage run typed entry status empty thread =>
      cases claimed.only c call id found aims
      cases claimed.call.symm.trans found
      exact ⟨rfl, claimed, .inl ⟨stage, thread, _, run, typed, entry, status, empty⟩⟩
  | waiting thread waits marks awaits =>
      cases awaits with
      | chosen claimed stage run typed status empty =>
          cases claimed.only c call id found aims
          cases claimed.call.symm.trans found
          exact ⟨rfl, claimed, .inr ⟨stage, _, _, run, typed, status, empty, thread, waits⟩⟩
      | pending free run status queued => exact absurd aims (free c call id found)
      | pooled free idle agent empty => exact absurd aims (free c call id found)
  | serving free run empty thread serves => exact absurd aims (free c call id found)
  | retiring free idle thread forced returning early empty =>
      exact absurd aims (free c call id found)
  | gone left thread ended free => exact absurd aims (free c call id found)

/-- An EDU in the idle queue is pooled, or its thread has seen a force. -/
theorem phase_idle {id : EduId} (structured : s.Structured) (phase : EduPhase s p owed)
    (idled : s.mgr.idleQueue.lookup id = some p) :
    owed = [] ∧ ∃ cb t, Unclaimed s.starts p ∧ InIdle s.mgr p cb ∧ s.threads p = some t ∧
      (t.isForced = true ∨ isPoolable cb.type = true ∧ cb.queue = [] ∧
        Attends s.threads p cb t ∧ t.pc.waits = true) := by
  rw [(structured.mgr.idled idled).1] at idled
  have outside : ∀ {cb}, ¬ InRun s.mgr p cb := fun run => by
    cases (structured.mgr.apart run.found).symm.trans idled
  cases phase with
  | absent left thread free => cases left.idle.symm.trans idled
  | creating claimed stage run typed entry status empty thread => exact absurd run outside
  | waiting thread waits marks awaits =>
      cases awaits with
      | chosen claimed stage run typed status empty => exact absurd run outside
      | pending free run status queued => exact absurd run outside
      | pooled free idle agent empty =>
          exact ⟨rfl, _, _, free, idle, thread.thread, .inr ⟨agent, empty, thread, waits⟩⟩
  | serving free run empty thread serves => exact absurd run outside
  | retiring free idle thread forced returning early empty =>
      exact ⟨rfl, _, _, free, idle, thread, .inl forced⟩
  | gone left thread ended free => cases left.idle.symm.trans idled

/-- The number of the next control block belongs to no EDU yet. -/
theorem phase_next (structured : s.Structured) (phase : EduPhase s s.mgr.nextPtr owed) :
    owed = [] ∧ s.threads s.mgr.nextPtr = none ∧ Unclaimed s.starts s.mgr.nextPtr := by
  have free : Unclaimed s.starts s.mgr.nextPtr := fun c call id found aims =>
    absurd (structured.starts found aims).2 (Nat.lt_irrefl _)
  have none : ∀ t, s.threads s.mgr.nextPtr ≠ some t := fun t found =>
    absurd (structured.threads found).2 (Nat.lt_irrefl _)
  refine ⟨?_, Option.eq_none_iff_forall_ne_some.mpr none, free⟩
  cases phase with
  | waiting thread waits marks awaits => exact absurd thread.thread (none _)
  | serving free run empty thread serves => exact absurd thread.thread (none _)
  | _ => rfl

/-- A step of a call that concerns another EDU. -/
theorem Advances.elsewhere {c : Nat} {record : Option StartCall} (phase : EduPhase s p owed)
    (apart : p ≠ q) (keeps : EduMgr.KeepsOthers s.mgr s'.mgr q)
    (before : ∀ id, recordTarget (s.starts c) ≠ some (id, p))
    (after : ∀ id, recordTarget record ≠ some (id, p))
    (starts : s'.starts = Function.update s.starts c record)
    (threads : s'.threads p = s.threads p)
    (accepted : acceptedBy (p + 1) reply = []) (served : servedBy (p + 1) reply = []) :
    Advances s' reply p owed := by
  have same : SameAt s s' p := by
    refine ⟨.inl (keeps.block apart), keeps.run apart, keeps.idle apart, threads, ?_⟩
    rw [starts]
    exact claims_update before after
  exact .silent (same.phase phase) accepted served

/-- A step of a call that leaves the manager and the threads alone. -/
theorem Advances.idle {c : Nat} {record : Option StartCall} (phase : EduPhase s p owed)
    (before : recordTarget (s.starts c) = none) (after : recordTarget record = none)
    (starts : s'.starts = Function.update s.starts c record)
    (threads : s'.threads = s.threads) (mgr : s'.mgr = s.mgr)
    (accepted : acceptedBy (p + 1) reply = []) (served : servedBy (p + 1) reply = []) :
    Advances s' reply p owed := by
  have same : SameAt s s' p := by
    refine ⟨.inl (by rw [mgr]), by rw [mgr], by rw [mgr], congrFun threads p, ?_⟩
    rw [starts]
    apply claims_update
    · rw [before]
      exact fun id => nofun
    · rw [after]
      exact fun id => nofun
  exact .silent (same.phase phase) accepted served

/-- A pooled EDU is chosen by a call of `startEDU`. -/
theorem phase_chosen {c : Nat} {call : StartCall} {m : EduMgr} (structured : s.Structured)
    (phase : EduPhase s p owed)
    (result : s.mgr.selectIdle call.type = some (.chosen (p + 1) p, m))
    (unforced : ∀ u, s.threads p = some u → u.isForced = false) :
    EduPhase ({ s with mgr := m }.setStart c call (.post (p + 1) p)) p owed := by
  rcases EduMgr.selectIdle_chosen result with ⟨cb, idled, block, -, poolable, rfl⟩
  rcases phase_idle structured phase idled with ⟨rfl, other, t, free, idle, thread, pooled⟩
  cases block.symm.trans idle.block
  rcases pooled with forced | ⟨agent, empty, attends, waits⟩
  · cases forced.symm.trans (unforced t thread)
  · have sameType : call.type = cb.type :=
      (of_decide_eq_true poolable).trans (of_decide_eq_true agent).symm
    exact .waiting ⟨thread, attends.typed.trans sameType.symm,
        (congrArg hasEntryFunc sameType).trans attends.entry, attends.unforced⟩ waits
      (fun _ idle => by cases idle) (.chosen (free.claim c _) rfl
        ⟨by simp [setStart, EduMgr.setBlock, EduMgr.moveToRun], Function.update_self ..⟩ rfl
        (.inr rfl) empty)

/-- The next control block is put into the run queue by a call of `startEDU`. -/
theorem phase_placed {c : Nat} {call : StartCall} {m : EduMgr} {id : EduId} {q : Ptr}
    (structured : s.Structured) (phase : EduPhase s s.mgr.nextPtr owed)
    (result : s.mgr.insertEdu call.type = (some (id, q), m))
    (entry : hasEntryFunc call.type = true) :
    EduPhase ({ s with mgr := m }.setStart c call (.createThread id q)) s.mgr.nextPtr owed := by
  rcases phase_next structured phase with ⟨rfl, thread, free⟩
  rcases EduMgr.insertEdu_placed result with ⟨same, rfl⟩
  cases same
  rw [structured.mgr.numbered]
  exact .creating (free.claim c _) rfl ⟨by simp [setStart], Function.update_self ..⟩ rfl entry
    rfl rfl thread

/-- The thread of a new EDU is created. -/
theorem phase_spawned {c : Nat} {call : StartCall} (phase : EduPhase s p owed)
    (found : s.starts c = some call) (staged : call.stage = .createThread (p + 1) p) :
    EduPhase ((s.setThread p ⟨call.type, p + 1, false, .loop⟩).setStart c call
      (.post (p + 1) p)) p owed := by
  rcases phase_claimed phase found (by rw [staged]; rfl) with
    ⟨rfl, claimed, ⟨-, -, cb, run, typed, entry, status, empty⟩ | ⟨posting, -⟩⟩
  · exact .waiting ⟨Function.update_self .., typed.symm, entry, rfl⟩ rfl nofun
      (.chosen (claimed.move _) rfl run typed (.inl status) empty)
  · cases staged.symm.trans posting

/-- The thread of a new EDU could not be created. -/
theorem phase_failed {c : Nat} {call : StartCall} {m : EduMgr} (structured : s.Structured)
    (phase : EduPhase s p owed)
    (found : s.starts c = some call) (staged : call.stage = .createThread (p + 1) p)
    (result : s.mgr.rollbackEdu (p + 1) p = some m) :
    EduPhase ({ s with mgr := m }.endStart c) p owed := by
  rcases phase_claimed phase found (by rw [staged]; rfl) with
    ⟨rfl, claimed, ⟨-, thread, cb, run, -⟩ | ⟨posting, -⟩⟩
  · simp only [EduMgr.rollbackEdu, run.block, Option.map_some] at result
    cases result
    exact .absent ⟨by simp [endStart, EduMgr.deleteBlock, EduMgr.eraseRun],
      structured.mgr.apart run.found, Function.update_self ..⟩ thread claimed.finish
  · cases staged.symm.trans posting

/-- RESUME is posted to the EDU. -/
theorem phase_posted {c : Nat} {call : StartCall} {m : EduMgr} (phase : EduPhase s p owed)
    (found : s.starts c = some call) (staged : call.stage = .post (p + 1) p)
    (result : s.mgr.postEvent p (resumeEvent call.arg) = some m) :
    owed = [] ∧ EduPhase ({ s with mgr := m }.endStart c) p [(call.type, call.arg)] := by
  rcases phase_claimed phase found (by rw [staged]; rfl) with
    ⟨rfl, claimed, ⟨creating, -⟩ | ⟨-, cb, t, run, typed, status, empty, attends, waits⟩⟩
  · cases staged.symm.trans creating
  · simp only [EduMgr.postEvent, run.block, Option.map_some] at result
    cases result
    rw [← typed, empty, List.nil_append]
    let after : ControlBlock := { cb with queue := [resumeEvent call.arg] }
    have pends : Awaits (s.mgr.setBlock p after) (s.endStart c).starts p after
        [(after.type, call.arg)] :=
      .pending claimed.finish ⟨run.found, Function.update_self ..⟩ status rfl
    have attended : Attends s.threads p after t :=
      ⟨attends.thread, attends.typed, attends.entry, attends.unforced⟩
    have busy : after.status ≠ .idle := by
      rcases status with creating | waiting
      · rw [creating]
        decide
      · rw [waiting]
        decide
    exact ⟨rfl, .waiting attended waits (fun _ => busy) pends⟩

theorem startStep_advances {c : Nat} {call : StartCall} {stage : StartStage} {granted : Bool}
    (structured : s.Structured) (found : s.starts c = some call) (staged : call.stage = stage)
    (ready : stage = .createInsert → hasEntryFunc call.type = true)
    (unforced : ∀ id q m u, stage = .select →
      s.mgr.selectIdle call.type = some (.chosen id q, m) → s.threads q = some u →
        u.isForced = false)
    (step : StartStep s c call stage granted reply s') (phase : EduPhase s p owed) :
    Advances s' reply p owed := by
  have aimed : recordTarget (s.starts c) = target stage := by
    rw [found, ← staged]
    rfl
  cases step with
  | quiesced tests quiesced =>
      have aimless : target stage = none := by
        rcases tests with rfl | rfl <;> rfl
      exact .idle phase (aimed.trans aimless) rfl rfl rfl rfl rfl rfl
  | tested open_ => exact .idle phase aimed rfl rfl rfl rfl rfl rfl
  | noneIdle result => exact .idle phase aimed rfl rfl rfl rfl rfl rfl
  | refused failed => exact .idle phase aimed rfl rfl rfl rfl rfl rfl
  | ready open_ entry => exact .idle phase aimed rfl rfl rfl rfl rfl rfl
  | unplaced result => exact .idle phase aimed rfl rfl rfl rfl rfl rfl
  | @chose _ id q m result =>
      rcases EduMgr.selectIdle_chosen result with ⟨cb, idled, block, idle, poolable, moved⟩
      obtain rfl : id = q + 1 := (structured.mgr.idled idled).1
      rcases eq_or_ne p q with rfl | apart
      · exact .silent (phase_chosen structured phase result (unforced _ _ _ · rfl result)) rfl rfl
      · refine .elsewhere phase apart
          ((EduMgr.selectIdle_change result).keepsOthers structured.mgr rfl) ?_ ?_ rfl rfl rfl rfl
        · rw [aimed]
          exact fun id => nofun
        · rintro id ⟨⟩
          exact apart rfl
  | @placed _ id q m result =>
      cases (EduMgr.insertEdu_placed result).1
      rcases eq_or_ne p s.mgr.nextPtr with rfl | apart
      · exact .silent (phase_placed structured phase result (ready rfl)) rfl rfl
      · refine .elsewhere phase apart (EduMgr.insertEdu_keepsOthers structured.mgr result) ?_ ?_
          rfl rfl rfl rfl
        · rw [aimed]
          exact fun id => nofun
        · rintro id ⟨⟩
          exact apart rfl
  | @spawned id q =>
      obtain rfl : id = q + 1 := (structured.starts found (by rw [staged]; rfl)).1
      rcases eq_or_ne p q with rfl | apart
      · exact .silent (phase_spawned phase found staged) rfl rfl
      · refine .elsewhere phase apart ⟨fun _ => rfl, fun _ => rfl, fun _ => rfl⟩ ?_ ?_ rfl
          (Function.update_of_ne apart ..) rfl rfl
        · rw [aimed]
          rintro id ⟨⟩
          exact apart rfl
        · rintro id ⟨⟩
          exact apart rfl
  | @failed id q m result =>
      obtain rfl : id = q + 1 := (structured.starts found (by rw [staged]; rfl)).1
      rcases eq_or_ne p q with rfl | apart
      · exact .silent (phase_failed structured phase found staged result) rfl rfl
      · refine .elsewhere phase apart
          ((EduMgr.rollbackEdu_change result).keepsOthers structured.mgr ⟨rfl, rfl⟩) ?_ ?_
          rfl rfl rfl rfl
        · rw [aimed]
          rintro id ⟨⟩
          exact apart rfl
        · exact fun id => nofun
  | @posted _ id q m result =>
      obtain rfl : id = q + 1 := (structured.starts found (by rw [staged]; rfl)).1
      rcases eq_or_ne p q with rfl | apart
      · rcases phase_posted phase found staged result with ⟨rfl, after⟩
        exact ⟨_, after, by simp [acceptedBy, servedBy]⟩
      · refine .elsewhere phase apart
          ((EduMgr.postEvent_change result).keepsOthers structured.mgr rfl) ?_ ?_ rfl rfl ?_ rfl
        · rw [aimed]
          rintro id ⟨⟩
          exact apart rfl
        · exact fun id => nofun
        · simp [acceptedBy, apart.symm]

/-! ### Steps of the whole system -/

/-- The thread is not to read a force while a request to its EDU is under way, and
`startEDU` is not to take an idle EDU whose thread has read one. -/
structure ReadsForceApart (s : EduSystem) (action : EduAction) : Prop where
  timedOut : ∀ p t cb, action = .thread p .goOn → s.threads p = some t → t.pc = .timedOut →
    s.mgr.blocks p = some cb → cb.isForced = true → ¬ s.Outstanding p
  select : ∀ c granted call id p m t, action = .stepStart c granted → s.starts c = some call →
    call.stage = .select → s.mgr.selectIdle call.type = some (.chosen id p, m) →
      s.threads p = some t → t.isForced = false

/-- What a call of `startEDU` writes down about itself. -/
theorem startStep_writes {c : Nat} {call : StartCall} {stage : StartStage} {granted : Bool}
    (step : StartStep s c call stage granted reply s') :
    ∃ record, s'.starts = Function.update s.starts c record ∧ s'.nextStart = s.nextStart ∧
      ∀ after, record = some after → after.stage = .createInsert →
        hasEntryFunc after.type = true := by
  cases step with
  | ready open_ entry =>
      refine ⟨_, rfl, rfl, ?_⟩
      rintro after ⟨⟩ -
      exact entry
  | _ =>
      refine ⟨_, rfl, rfl, ?_⟩
      rintro after ⟨⟩ ⟨⟩

/-- A thread writes down only where it stands itself. -/
theorem threadStep_threads {pc : EduPc} {choice : EduChoice}
    (step : ThreadStep s maxPool q t pc choice reply s') (apart : p ≠ q) :
    s'.threads p = s.threads p := by
  cases step with
  | activated result => rfl
  | waited result => rfl
  | _ => exact Function.update_of_ne apart ..

/-- A thread accepts no request, and calls an entry function for its own EDU only. -/
theorem threadStep_reply {pc : EduPc} {choice : EduChoice} {id : EduId}
    (step : ThreadStep s maxPool p t pc choice reply s') :
    acceptedBy id reply = [] ∧ (t.id ≠ id → servedBy id reply = []) := by
  cases step with
  | entered entry => exact ⟨rfl, fun apart => by simp [servedBy, apart]⟩
  | _ => exact ⟨rfl, fun _ => rfl⟩

/-- A force leaves every EDU in its phase. -/
theorem sameAt_force {id : EduId} {m : EduMgr} {rc : ReturnCode}
    (result : s.mgr.forceUserEdu id = some (rc, m)) (p : Ptr) :
    SameAt s { s with mgr := m } p := by
  rcases EduMgr.forceUserEdu_change result with kept | forced
  · cases kept with
    | keep run idle ids ptrs blocks =>
        exact ⟨.inl (by rw [blocks]), by rw [run], by rw [idle], rfl, fun _ _ _ _ => Iff.rfl⟩
  · cases forced with
    | force run idle ids ptrs blocks =>
        exact ⟨blocks p, by rw [run], by rw [idle], rfl, fun _ _ _ _ => Iff.rfl⟩

/-- The thread of one EDU leaves the others in their phases. -/
theorem sameAt_thread {pc : EduPc} {choice : EduChoice} (structured : s.Structured)
    (found : s.threads q = some t) (here : t.pc = pc)
    (step : ThreadStep s maxPool q t pc choice reply s') (apart : p ≠ q) : SameAt s s' p := by
  rcases threadStep_change found here step with ⟨label, change, -, concerns⟩
  rw [(structured.threads found).1] at concerns
  have keeps := change.keepsOthers structured.mgr concerns
  refine ⟨.inl (keeps.block apart), keeps.run apart, keeps.idle apart,
    threadStep_threads step apart, ?_⟩
  rw [threadStep_starts step]
  exact fun _ _ _ _ => Iff.rfl

/-- The calls of `startEDU` are numbered, and one that places an EDU has found its entry
function. -/
theorem exec_starts {c : Nat} {call : StartCall}
    (calls : ∀ {c call}, s.starts c = some call → c < s.nextStart)
    (ready : ∀ {c call}, s.starts c = some call → call.stage = .createInsert →
      hasEntryFunc call.type = true)
    (completes : exec maxPool action s = some (reply, s'))
    (there : s'.starts c = some call) :
    c < s'.nextStart ∧ (call.stage = .createInsert → hasEntryFunc call.type = true) := by
  cases exec_step completes with
  | called =>
      rcases eq_or_ne c s.nextStart with rfl | apart
      · cases (Function.update_self ..).symm.trans there
        exact ⟨Nat.lt_succ_self _, nofun⟩
      · have old := (Function.update_of_ne apart ..).symm.trans there
        exact ⟨Nat.lt_succ_of_lt (calls old), ready old⟩
  | @start d granted before stage reply s' found staged step =>
      rcases startStep_writes step with ⟨record, writes, counted, inserts⟩
      rw [writes] at there
      rw [counted]
      rcases eq_or_ne c d with rfl | apart
      · rw [Function.update_self] at there
        exact ⟨calls found, inserts call there⟩
      · have old := (Function.update_of_ne apart ..).symm.trans there
        exact ⟨calls old, ready old⟩
  | @thread p choice t pc reply s' found here step =>
      rw [threadStep_starts step] at there
      have counted : s'.nextStart = s.nextStart := by cases step <;> rfl
      rw [counted]
      exact ⟨calls there, ready there⟩
  | _ => exact ⟨calls there, ready there⟩

/-- What holds while only `startEDU`, `forceUserEDU` and the EDU threads are at work. -/
structure Lifecycle (s : EduSystem) : Prop where
  structured : s.Structured
  calls : ∀ {c call}, s.starts c = some call → c < s.nextStart
  ready : ∀ {c call}, s.starts c = some call → call.stage = .createInsert →
    hasEntryFunc call.type = true
  phases : ∀ p, ∃ owed, EduPhase s p owed

end EduSystem

/-- `startEDU`, `forceUserEDU`, and what the EDU threads do. -/
def EduAction.isSession : EduAction → Bool
  | .startEdu .. => true
  | .stepStart .. => true
  | .forceUserEdu _ => true
  | .thread .. => true
  | _ => false

namespace EduSystem.Lifecycle

variable {s s' : EduSystem} {maxPool : Nat} {reply : EduReply} {action : EduAction}
  {p : Ptr} {owed : List (EduType × Nat)}

/-- Every step takes every EDU from a phase to a phase. -/
theorem advances (life : s.Lifecycle) (session : action.isSession = true)
    (reads : s.ReadsForceApart action)
    (completes : exec maxPool action s = some (reply, s')) (phase : EduPhase s p owed) :
    Advances s' reply p owed := by
  cases action with
  | startEdu type arg =>
      cases completes
      have unused : s.starts s.nextStart = none :=
        Option.eq_none_iff_forall_ne_some.mpr fun call found =>
          Nat.lt_irrefl _ (life.calls found)
      exact .idle phase (by rw [unused]; rfl) rfl rfl rfl rfl rfl rfl
  | stepStart c granted =>
      rcases Option.bind_eq_some_iff.mp completes with ⟨call, found, stepped⟩
      exact startStep_advances life.structured found rfl (life.ready found)
        (fun id q m u => reads.select c granted call id q m u rfl found)
        (stepStart_step stepped) phase
  | forceUserEdu id =>
      rcases Option.map_eq_some_iff.mp completes with ⟨⟨rc, mgr⟩, forced, same⟩
      cases same
      exact .silent ((sameAt_force forced p).phase phase) rfl rfl
  | thread q choice =>
      rcases Option.bind_eq_some_iff.mp completes with ⟨t, found, stepped⟩
      have step := stepThread_step stepped
      rcases eq_or_ne p q with rfl | apart
      · refine threadStep_advances life.structured phase found rfl step
          fun cb timedOut block forced => ?_
        cases choice with
        | goOn => exact reads.timedOut p t cb rfl found timedOut block forced
        | _ =>
            rw [timedOut] at stepped
            cases stepped
      · have others : acceptedBy (p + 1) reply = [] ∧ _ := threadStep_reply step
        refine .silent ((sameAt_thread life.structured found rfl step apart).phase phase)
          others.1 (others.2 ?_)
        rw [(life.structured.threads found).1]
        exact fun same => apart (Nat.succ.inj same).symm
  | _ => cases session

theorem init : EduSystem.init.Lifecycle where
  structured := init_structured
  calls found := by cases found
  ready found := by cases found
  phases p := ⟨[], .absent ⟨rfl, rfl, rfl⟩ rfl fun c call id found => by cases found⟩

theorem step (life : s.Lifecycle) (session : action.isSession = true)
    (reads : s.ReadsForceApart action)
    (completes : exec maxPool action s = some (reply, s')) : s'.Lifecycle where
  structured := life.structured.step completes
  calls there := (exec_starts life.calls life.ready completes there).1
  ready there := (exec_starts life.calls life.ready completes there).2
  phases p := by
    rcases life.phases p with ⟨owed, phase⟩
    rcases life.advances session reads completes phase with ⟨after, next, -⟩
    exact ⟨after, next⟩

end EduSystem.Lifecycle

theorem EduRun.lifecycle {maxPool : Nat} {trace : EduTrace} {s : EduSystem}
    (run : EduRun maxPool
      (fun _ s action => action.isSession = true ∧ s.ReadsForceApart action) trace s) :
    s.Lifecycle :=
  Run.invariant EduSystem.Lifecycle.init
    (fun life guard completes => life.step guard.1 guard.2 completes) run

end EmeraldDb
