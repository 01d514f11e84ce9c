/-
Module: EmeraldDb.Proofs.EduPhase
Purpose: The phases of an EDU between its creation and the end of its thread, and how its
  own thread leads from one to the next.
Trusted boundary: none
Main exports: EduPhase, EduSystem.SameAt, EduSystem.Outstanding, EduSystem.Advances,
  EduSystem.threadStep_advances
-/
import EmeraldDb.Proofs.EduStructure

namespace EmeraldDb

/-- The thread is about to call `waitEvent`, or in it, or has come back from it without
an event. -/
def EduPc.waits : EduPc → Bool
  | .loop => true
  | .testing => true
  | .marking => true
  | .blocked => true
  | .sleeping => true
  | .timedOut => true
  | _ => false

/-- The event that `startEDU` posts. -/
def resumeEvent (arg : Nat) : EduEvent := ⟨.resume, false, arg⟩

/-- What a call of `returnEDU` by the EDU's own thread has found out about its type. -/
def ReturnStage.fits (type : EduType) : ReturnStage → Prop
  | .flags read => read = type
  | .size => isPoolable type = true
  | .deactivate => isPoolable type = true
  | _ => True

/-- The status of an EDU that serves a request, by where its thread stands. -/
def servesWith (type : EduType) (status : EduStatus) : EduPc → Prop
  | .receiving event =>
      (∃ arg, event = resumeEvent arg) ∧ (status = .creating ∨ status = .waiting)
  | .took event => (∃ arg, event = resumeEvent arg) ∧ status = .running
  | .calling _ => status = .waiting
  | .inEntry => status = .running ∨ status = .waiting
  | .left => status = .running ∨ status = .waiting
  | .returning stage => status = .waiting ∧ stage.fits type
  | _ => False

namespace EduMgr

variable {s s' : EduMgr} {id : EduId} {p : Ptr} {cb : ControlBlock} {rc : ReturnCode}

/-! ### The sections on an EDU in a known state -/

theorem setBlock_self (block : s.blocks p = some cb) : s.setBlock p cb = s := by
  unfold setBlock
  rw [← block, Function.update_eq_self]

theorem waitEdu_inRun (ran : s.runQueue.lookup id = some p) (block : s.blocks p = some cb)
    (status : cb.status = .running ∨ cb.status = .waiting)
    (result : s.waitEdu id = some (rc, s')) :
    s' = s.setBlock p { cb with status := .waiting } := by
  simp only [waitEdu, ran, block, Option.bind_some] at result
  rcases status with running | waiting
  · simp only [running, reduceCtorEq, if_false, ne_eq, not_true] at result
    cases result
    rfl
  · simp only [waiting, if_true] at result
    cases result
    rw [← waiting]
    exact (setBlock_self block).symm

theorem activateEdu_inRun (absent : s.idleQueue.lookup id = none)
    (ran : s.runQueue.lookup id = some p) (block : s.blocks p = some cb)
    (status : cb.status = .running ∨ cb.status = .waiting)
    (result : s.activateEdu id = some (rc, s')) :
    s' = s.setBlock p { cb with status := .running } := by
  simp only [activateEdu, absent, ran, block, Option.bind_some] at result
  rcases status with running | waiting
  · simp only [running, if_true] at result
    cases result
    rw [← running]
    exact (setBlock_self block).symm
  · simp only [waiting, reduceCtorEq, if_false, ne_eq, not_true, false_and] at result
    cases result
    rfl

theorem markWaiting_block (block : s.blocks p = some cb) (result : s.markWaiting p = some s') :
    s' = s.setBlock p { cb with status := .waiting } := by
  simp only [markWaiting, block, Option.map_some] at result
  cases result
  rfl

theorem takeEvent_empty (block : s.blocks p = some cb) (empty : cb.queue = []) :
    s.takeEvent p = none := by
  simp only [takeEvent, block, Option.bind_some, empty]

theorem takeEvent_resume {event : EduEvent} {arg : Nat} (block : s.blocks p = some cb)
    (queued : cb.queue = [resumeEvent arg]) (result : s.takeEvent p = some (event, s')) :
    event = resumeEvent arg ∧ s' = s.setBlock p { cb with queue := [] } := by
  simp only [takeEvent, block, Option.bind_some, queued] at result
  cases result
  exact ⟨rfl, rfl⟩

theorem endWait_resume {arg : Nat} (block : s.blocks p = some cb)
    (result : s.endWait p (resumeEvent arg) = some s') :
    s' = s.setBlock p { cb with status := .running } := by
  simp only [endWait, block, Option.map_some] at result
  cases result
  rfl

theorem destroyEdu_inRun (ran : s.runQueue.lookup id = some p) (block : s.blocks p = some cb)
    (waiting : cb.status = .waiting) :
    s.destroyEdu id = some (edbOk, (s.eraseRun id).deleteBlock p) := by
  simp [destroyEdu, ran, block, waiting]

theorem destroyEdu_inIdle (absent : s.runQueue.lookup id = none)
    (idled : s.idleQueue.lookup id = some p) (block : s.blocks p = some cb)
    (idle : cb.status = .idle) :
    s.destroyEdu id = some (edbOk, (s.eraseIdle id).deleteBlock p) := by
  simp [destroyEdu, absent, idled, block, idle]

theorem deactivateEdu_inRun (ran : s.runQueue.lookup id = some p)
    (block : s.blocks p = some cb) (waiting : cb.status = .waiting) :
    s.deactivateEdu id =
      some (edbOk, (s.moveToIdle id p).setBlock p { cb with status := .idle }) := by
  simp [deactivateEdu, ran, block, waiting]

theorem returnEdu_inRun {maxPool : Nat} {force destroyed : Bool} {stage : ReturnStage}
    (absent : s.idleQueue.lookup id = none) (ran : s.runQueue.lookup id = some p)
    (block : s.blocks p = some cb) (waiting : cb.status = .waiting)
    (result : s.returnEdu maxPool id force stage = some (.returns rc destroyed, s')) :
    rc = edbOk ∧
      (stage = .destroy ∧ destroyed = true ∧ s' = (s.eraseRun id).deleteBlock p ∨
        stage = .deactivate ∧ destroyed = false ∧
          s' = (s.moveToIdle id p).setBlock p { cb with status := .idle }) := by
  cases stage with
  | lookup => simp [returnEdu, find, absent, ran, block] at result
  | flags type =>
      simp only [returnEdu] at result
      split_ifs at result <;> cases result
  | size =>
      simp only [returnEdu] at result
      split_ifs at result <;> cases result
  | destroy =>
      simp only [returnEdu, destroyEdu_inRun ran block waiting, Option.map_some] at result
      cases result
      exact ⟨rfl, .inl ⟨rfl, rfl, rfl⟩⟩
  | deactivate =>
      simp only [returnEdu, deactivateEdu_inRun ran block waiting, Option.map_some] at result
      cases result
      exact ⟨rfl, .inr ⟨rfl, rfl, rfl⟩⟩

theorem returnEdu_inIdle {maxPool : Nat} {force destroyed : Bool} {stage : ReturnStage}
    (absent : s.runQueue.lookup id = none) (idled : s.idleQueue.lookup id = some p)
    (block : s.blocks p = some cb) (idle : cb.status = .idle) (early : stage ≠ .deactivate)
    (result : s.returnEdu maxPool id force stage = some (.returns rc destroyed, s')) :
    stage = .destroy ∧ destroyed = true ∧ s' = (s.eraseIdle id).deleteBlock p := by
  cases stage with
  | lookup => simp [returnEdu, find, absent, idled, block] at result
  | flags type =>
      simp only [returnEdu] at result
      split_ifs at result <;> cases result
  | size =>
      simp only [returnEdu] at result
      split_ifs at result <;> cases result
  | destroy =>
      simp only [returnEdu, destroyEdu_inIdle absent idled block idle, Option.map_some] at result
      cases result
      exact ⟨rfl, rfl, rfl⟩
  | deactivate => exact absurd rfl early

theorem insertEdu_placed {type : EduType} {created : EduId × Ptr}
    (result : s.insertEdu type = (some created, s')) :
    created = (s.nextId, s.nextPtr) ∧
      s' = { s.setBlock s.nextPtr ⟨type, .creating, s.nextId, false, false, []⟩ with
        runQueue := s.runQueue.insert s.nextId s.nextPtr
        nextId := s.nextId + 1
        nextPtr := s.nextPtr + 1 } := by
  unfold insertEdu at result
  split_ifs at result <;> cases result
  exact ⟨rfl, rfl⟩

/-- A new EDU takes nothing from the others. -/
theorem insertEdu_keepsOthers {type : EduType} {created : EduId × Ptr}
    (structured : s.Structured) (result : s.insertEdu type = (some created, s')) :
    KeepsOthers s s' s.nextPtr := by
  rcases insertEdu_placed result with ⟨-, rfl⟩
  constructor
  · exact fun apart => Function.update_of_ne apart ..
  · exact fun apart => by simp [structured.numbered, apart]
  · exact fun _ => rfl

end EduMgr

/-- The request to the EDU that a reply shows to be accepted. -/
def acceptedBy (id : EduId) : EduReply → List (EduType × Nat)
  | .started other type arg => if other = id then [(type, arg)] else []
  | _ => []

/-- The call of the entry function by the EDU that a reply shows. -/
def servedBy (id : EduId) : EduReply → List (EduType × Nat)
  | .entered other type arg => if other = id then [(type, arg)] else []
  | _ => []

/-- The requests whose RESUME the thread has taken and not yet served. -/
def owedAt (type : EduType) : EduPc → List (EduType × Nat)
  | .receiving event => [(type, event.data)]
  | .took event => [(type, event.data)]
  | .calling arg => [(type, arg)]
  | _ => []

theorem servesWith_busy {type : EduType} {status : EduStatus} {pc : EduPc}
    (serves : servesWith type status pc) : pc.waits = false := by
  cases pc with
  | loop => exact serves.elim
  | testing => exact serves.elim
  | marking => exact serves.elim
  | blocked => exact serves.elim
  | sleeping => exact serves.elim
  | timedOut => exact serves.elim
  | _ => rfl

/-- The control block is there and stands in the run queue. -/
structure InRun (m : EduMgr) (p : Ptr) (cb : ControlBlock) : Prop where
  found : m.runQueue.lookup (p + 1) = some p
  block : m.blocks p = some cb

/-- The control block is there, stands in the idle queue, and is idle. -/
structure InIdle (m : EduMgr) (p : Ptr) (cb : ControlBlock) : Prop where
  found : m.idleQueue.lookup (p + 1) = some p
  block : m.blocks p = some cb
  idle : cb.status = .idle

/-- The EDU is in neither queue, and its control block is not there. -/
structure Left (m : EduMgr) (p : Ptr) : Prop where
  run : m.runQueue.lookup (p + 1) = none
  idle : m.idleQueue.lookup (p + 1) = none
  block : m.blocks p = none

/-- No call of `startEDU` is under way that has chosen or created the EDU. -/
def Unclaimed (starts : Nat → Option StartCall) (p : Ptr) : Prop :=
  ∀ c call id, starts c = some call → EduSystem.target call.stage ≠ some (id, p)

/-- One call of `startEDU` is under way that has chosen or created the EDU. -/
structure ClaimedBy (starts : Nat → Option StartCall) (p : Ptr) (c : Nat) (call : StartCall) :
    Prop where
  call : starts c = some call
  only : ∀ d other id, starts d = some other →
    EduSystem.target other.stage = some (id, p) → d = c

theorem Unclaimed.claim {starts : Nat → Option StartCall} {p : Ptr} (free : Unclaimed starts p)
    (c : Nat) (call : StartCall) :
    ClaimedBy (Function.update starts c (some call)) p c call where
  call := Function.update_self ..
  only d other id found aims := by
    by_contra apart
    exact free d other id ((Function.update_of_ne apart ..).symm.trans found) aims

theorem ClaimedBy.move {starts : Nat → Option StartCall} {p : Ptr} {c : Nat} {call : StartCall}
    (claimed : ClaimedBy starts p c call) (after : StartCall) :
    ClaimedBy (Function.update starts c (some after)) p c after where
  call := Function.update_self ..
  only d other id found aims := by
    by_contra apart
    exact apart (claimed.only d other id ((Function.update_of_ne apart ..).symm.trans found) aims)

theorem ClaimedBy.finish {starts : Nat → Option StartCall} {p : Ptr} {c : Nat}
    {call : StartCall} (claimed : ClaimedBy starts p c call) :
    Unclaimed (Function.update starts c none) p := by
  intro d other id found aims
  rcases eq_or_ne d c with rfl | apart
  · cases (Function.update_self ..).symm.trans found
  · exact apart (claimed.only d other id ((Function.update_of_ne apart ..).symm.trans found) aims)

/-- What an EDU waits for, with the requests that it owes. -/
inductive Awaits (m : EduMgr) (starts : Nat → Option StartCall) (p : Ptr)
    (cb : ControlBlock) : List (EduType × Nat) → Prop where
  /-- created or taken from the pool, RESUME is about to be posted -/
  | chosen {c : Nat} {call : StartCall} (claimed : ClaimedBy starts p c call)
      (stage : call.stage = .post (p + 1) p) (run : InRun m p cb)
      (typed : cb.type = call.type) (status : cb.status = .creating ∨ cb.status = .waiting)
      (empty : cb.queue = []) : Awaits m starts p cb []
  /-- RESUME is in its event queue -/
  | pending {arg : Nat} (free : Unclaimed starts p) (run : InRun m p cb)
      (status : cb.status = .creating ∨ cb.status = .waiting)
      (queued : cb.queue = [resumeEvent arg]) : Awaits m starts p cb [(cb.type, arg)]
  /-- in the idle queue -/
  | pooled (free : Unclaimed starts p) (idle : InIdle m p cb)
      (agent : isPoolable cb.type = true) (empty : cb.queue = []) : Awaits m starts p cb []

/-- The EDU's thread, which knows its type and has not seen a force. -/
structure Attends (threads : Ptr → Option EduThread) (p : Ptr) (cb : ControlBlock)
    (t : EduThread) : Prop where
  thread : threads p = some t
  typed : t.type = cb.type
  entry : hasEntryFunc cb.type = true
  unforced : t.isForced = false

/-- The phases of an EDU, with the requests that it owes. -/
inductive EduPhase (s : EduSystem) (p : Ptr) : List (EduType × Nat) → Prop where
  /-- not yet created, or its thread could not be created -/
  | absent (left : Left s.mgr p) (thread : s.threads p = none)
      (free : Unclaimed s.starts p) : EduPhase s p []
  /-- in the run queue, its thread is about to be created -/
  | creating {c : Nat} {call : StartCall} {cb : ControlBlock}
      (claimed : ClaimedBy s.starts p c call) (stage : call.stage = .createThread (p + 1) p)
      (run : InRun s.mgr p cb) (typed : cb.type = call.type)
      (entry : hasEntryFunc cb.type = true) (status : cb.status = .creating)
      (empty : cb.queue = []) (thread : s.threads p = none) : EduPhase s p []
  /-- its thread waits for an event; it marks no idle EDU as waiting -/
  | waiting {cb : ControlBlock} {t : EduThread} {owed : List (EduType × Nat)}
      (thread : Attends s.threads p cb t) (waits : t.pc.waits = true)
      (marks : t.pc = .marking → cb.status ≠ .idle)
      (awaits : Awaits s.mgr s.starts p cb owed) : EduPhase s p owed
  /-- its thread has taken RESUME and not yet returned the EDU -/
  | serving {cb : ControlBlock} {t : EduThread} (free : Unclaimed s.starts p)
      (run : InRun s.mgr p cb) (empty : cb.queue = []) (thread : Attends s.threads p cb t)
      (serves : servesWith cb.type cb.status t.pc) : EduPhase s p (owedAt cb.type t.pc)
  /-- in the idle queue, its thread has seen the force and is about to destroy it -/
  | retiring {cb : ControlBlock} {t : EduThread} {stage : ReturnStage}
      (free : Unclaimed s.starts p) (idle : InIdle s.mgr p cb) (thread : s.threads p = some t)
      (forced : t.isForced = true) (returning : t.pc = .returning stage)
      (early : stage ≠ .size ∧ stage ≠ .deactivate) (empty : cb.queue = []) : EduPhase s p []
  /-- destroyed, its thread has ended -/
  | gone {t : EduThread} (left : Left s.mgr p) (thread : s.threads p = some t)
      (ended : t.pc = .exited) (free : Unclaimed s.starts p) : EduPhase s p []

namespace EduSystem

variable {s s' : EduSystem} {maxPool : Nat} {reply : EduReply} {action : EduAction}
  {p q : Ptr} {t : EduThread} {cb : ControlBlock} {owed : List (EduType × Nat)}

/-! ### What a step leaves alone -/

/-- Nothing about the EDU differs but, perhaps, its forced flag. -/
structure SameAt (s s' : EduSystem) (p : Ptr) : Prop where
  block : s'.mgr.blocks p = s.mgr.blocks p ∨
    s'.mgr.blocks p = (s.mgr.blocks p).map fun cb => { cb with isForced := true }
  run : s'.mgr.runQueue.lookup (p + 1) = s.mgr.runQueue.lookup (p + 1)
  idle : s'.mgr.idleQueue.lookup (p + 1) = s.mgr.idleQueue.lookup (p + 1)
  thread : s'.threads p = s.threads p
  claims : ∀ c call id, target call.stage = some (id, p) →
    (s'.starts c = some call ↔ s.starts c = some call)

namespace SameAt

theorem unclaimed (same : SameAt s s' p) (free : Unclaimed s.starts p) :
    Unclaimed s'.starts p := by
  intro c call id found aims
  exact free c call id ((same.claims c call id aims).mp found) aims

theorem claimedBy {c : Nat} {call : StartCall} {id : EduId} (same : SameAt s s' p)
    (claimed : ClaimedBy s.starts p c call) (aims : target call.stage = some (id, p)) :
    ClaimedBy s'.starts p c call where
  call := (same.claims c call id aims).mpr claimed.call
  only d other id found aims :=
    claimed.only d other id ((same.claims d other id aims).mp found) aims

theorem left (same : SameAt s s' p) (left : Left s.mgr p) : Left s'.mgr p where
  run := same.run.trans left.run
  idle := same.idle.trans left.idle
  block := by
    rcases same.block with block | block
    · exact block.trans left.block
    · rw [block, left.block]
      rfl

/-- The control block afterwards: only the flag may differ. -/
theorem block_eq (same : SameAt s s' p) (block : s.mgr.blocks p = some cb) :
    ∃ forced, s'.mgr.blocks p = some { cb with isForced := forced } := by
  rcases same.block with kept | forced
  · exact ⟨cb.isForced, kept.trans block⟩
  · rw [block] at forced
    exact ⟨true, forced⟩

theorem awaits (same : SameAt s s' p) (awaits : Awaits s.mgr s.starts p cb owed) :
    ∃ forced, Awaits s'.mgr s'.starts p { cb with isForced := forced } owed := by
  cases awaits with
  | chosen claimed stage run typed status empty =>
      rcases same.block_eq run.block with ⟨forced, block⟩
      exact ⟨forced, .chosen (same.claimedBy claimed (by rw [stage]; rfl)) stage
        ⟨same.run.trans run.found, block⟩ typed status empty⟩
  | pending free run status queued =>
      rcases same.block_eq run.block with ⟨forced, block⟩
      have pends : Awaits s'.mgr s'.starts p { cb with isForced := forced } [(cb.type, _)] :=
        .pending (same.unclaimed free) ⟨same.run.trans run.found, block⟩ status queued
      exact ⟨forced, pends⟩
  | pooled free idle agent empty =>
      rcases same.block_eq idle.block with ⟨forced, block⟩
      exact ⟨forced, .pooled (same.unclaimed free)
        ⟨same.idle.trans idle.found, block, idle.idle⟩ agent empty⟩

/-- An EDU that a step leaves alone stays in its phase. -/
theorem phase (same : SameAt s s' p) (phase : EduPhase s p owed) : EduPhase s' p owed := by
  have attends : ∀ {cb t forced}, Attends s.threads p cb t →
      Attends s'.threads p { cb with isForced := forced } t := fun held =>
    ⟨same.thread.trans held.thread, held.typed, held.entry, held.unforced⟩
  cases phase with
  | absent left thread free =>
      exact .absent (same.left left) (same.thread.trans thread) (same.unclaimed free)
  | creating claimed stage run typed entry status empty thread =>
      rcases same.block_eq run.block with ⟨forced, block⟩
      exact .creating (same.claimedBy claimed (by rw [stage]; rfl)) stage
        ⟨same.run.trans run.found, block⟩ typed entry status empty (same.thread.trans thread)
  | waiting thread waits marks awaits =>
      rcases same.awaits awaits with ⟨forced, after⟩
      refine .waiting (attends thread) waits ?_ after
      exact marks
  | @serving cb t free run empty thread serves =>
      rcases same.block_eq run.block with ⟨forced, block⟩
      have served : EduPhase s' p (owedAt { cb with isForced := forced }.type t.pc) :=
        .serving (same.unclaimed free) ⟨same.run.trans run.found, block⟩ empty
          (attends thread) serves
      exact served
  | retiring free idle thread forced returning early empty =>
      rcases same.block_eq idle.block with ⟨flag, block⟩
      exact .retiring (same.unclaimed free) ⟨same.idle.trans idle.found, block, idle.idle⟩
        (same.thread.trans thread) forced returning early empty
  | gone left thread ended free =>
      exact .gone (same.left left) (same.thread.trans thread) ended (same.unclaimed free)

end SameAt

/-! ### Steps of the EDU's own thread -/

/-- A thread that waits belongs to an EDU that is chosen, pending or pooled. -/
theorem phase_waiting (phase : EduPhase s p owed) (found : s.threads p = some t)
    (waits : t.pc.waits = true) :
    ∃ cb, Attends s.threads p cb t ∧ (t.pc = .marking → cb.status ≠ .idle) ∧
      Awaits s.mgr s.starts p cb owed := by
  cases phase with
  | absent left thread free => cases found.symm.trans thread
  | creating claimed stage run typed entry status empty thread =>
      cases found.symm.trans thread
  | waiting thread waits marks awaits =>
      cases found.symm.trans thread.thread
      exact ⟨_, thread, marks, awaits⟩
  | serving free run empty thread serves =>
      cases found.symm.trans thread.thread
      rw [servesWith_busy serves] at waits
      cases waits
  | retiring free idle thread forced returning early empty =>
      cases found.symm.trans thread
      rw [returning] at waits
      cases waits
  | gone left thread ended free =>
      cases found.symm.trans thread
      rw [ended] at waits
      cases waits

/-- An EDU that serves a request. -/
structure Serves (s : EduSystem) (p : Ptr) (cb : ControlBlock) (t : EduThread) : Prop where
  free : Unclaimed s.starts p
  run : InRun s.mgr p cb
  empty : cb.queue = []
  thread : Attends s.threads p cb t
  serves : servesWith cb.type cb.status t.pc

/-- A thread that neither waits nor returns nor has ended serves a request. -/
theorem phase_serving {pc : EduPc} (phase : EduPhase s p owed) (found : s.threads p = some t)
    (here : t.pc = pc) (busy : pc.waits = false) (inside : ∀ stage, pc ≠ .returning stage)
    (alive : pc ≠ .exited) : ∃ cb, s.Serves p cb t ∧ owed = owedAt cb.type pc := by
  cases phase with
  | absent left thread free => cases found.symm.trans thread
  | creating claimed stage run typed entry status empty thread =>
      cases found.symm.trans thread
  | waiting thread waits marks awaits =>
      cases found.symm.trans thread.thread
      rw [here, busy] at waits
      cases waits
  | serving free run empty thread serves =>
      cases found.symm.trans thread.thread
      exact ⟨_, ⟨free, run, empty, thread, serves⟩, by rw [here]⟩
  | retiring free idle thread forced returning early empty =>
      cases found.symm.trans thread
      exact absurd (here.symm.trans returning) (inside _)
  | gone left thread ended free =>
      cases found.symm.trans thread
      exact absurd (here.symm.trans ended) alive

/-- The EDU is in a phase again, and what it owes has changed as the reply shows. -/
def Advances (s' : EduSystem) (reply : EduReply) (p : Ptr) (owed : List (EduType × Nat)) :
    Prop :=
  ∃ after, EduPhase s' p after ∧
    owed ++ acceptedBy (p + 1) reply = servedBy (p + 1) reply ++ after

theorem Advances.silent (phase : EduPhase s' p owed) (accepted : acceptedBy (p + 1) reply = [])
    (served : servedBy (p + 1) reply = []) : Advances s' reply p owed :=
  ⟨owed, phase, by rw [accepted, served, List.append_nil, List.nil_append]⟩

/-- An EDU that is not idle is marked as waiting. -/
theorem Awaits.marked {m : EduMgr} {starts : Nat → Option StartCall}
    (awaits : Awaits m starts p cb owed) (busy : cb.status ≠ .idle) :
    Awaits (m.setBlock p { cb with status := .waiting }) starts p
      { cb with status := .waiting } owed := by
  cases awaits with
  | chosen claimed stage run typed status empty =>
      exact .chosen claimed stage ⟨run.found, Function.update_self ..⟩ typed (.inr rfl) empty
  | pending free run status queued =>
      have pends : Awaits (m.setBlock p { cb with status := .waiting }) starts p
          { cb with status := .waiting } [(cb.type, _)] :=
        .pending free ⟨run.found, Function.update_self ..⟩ (.inr rfl) queued
      exact pends
  | pooled free idle agent empty => exact absurd idle.idle busy

theorem awaits_block {m : EduMgr} {starts : Nat → Option StartCall}
    (awaits : Awaits m starts p cb owed) : m.blocks p = some cb := by
  cases awaits with
  | chosen claimed stage run typed status empty => exact run.block
  | pending free run status queued => exact run.block
  | pooled free idle agent empty => exact idle.block

/-- A request is under way to the EDU: a call of `startEDU` is about to create its thread
or to post RESUME, or RESUME is in its event queue. -/
def Outstanding (s : EduSystem) (p : Ptr) : Prop :=
  (∃ c call id, s.starts c = some call ∧ target call.stage = some (id, p)) ∨
    ∃ cb event, s.mgr.blocks p = some cb ∧ event ∈ cb.queue ∧ event.eventType = .resume

/-- The thread of an EDU that serves a request moves on. -/
theorem serves_setThread {m : EduMgr} {after : ControlBlock} (next : EduThread)
    (attends : Attends s.threads p cb t) (free : Unclaimed s.starts p) (run : InRun m p after)
    (empty : after.queue = []) (sameType : after.type = cb.type) (typed : next.type = t.type)
    (unforced : next.isForced = t.isForced)
    (serves : servesWith cb.type after.status next.pc) :
    EduPhase ({ s with mgr := m }.setThread p next) p (owedAt cb.type next.pc) := by
  rw [← sameType] at serves ⊢
  exact .serving free run empty
    ⟨Function.update_self .., by rw [typed, attends.typed, sameType],
      by rw [sameType, attends.entry], unforced.trans attends.unforced⟩ serves

/-- The thread of an EDU that waits moves on. -/
theorem waits_setThread {m : EduMgr} {after : ControlBlock} (next : EduThread)
    (attends : Attends s.threads p cb t) (awaits : Awaits m s.starts p after owed)
    (sameType : after.type = cb.type) (typed : next.type = t.type)
    (unforced : next.isForced = t.isForced) (waits : next.pc.waits = true)
    (marks : next.pc = .marking → after.status ≠ .idle) :
    EduPhase ({ s with mgr := m }.setThread p next) p owed :=
  .waiting ⟨Function.update_self .., by rw [typed, attends.typed, sameType],
    by rw [sameType, attends.entry], unforced.trans attends.unforced⟩ waits marks awaits

/-- The step of a waiting thread. -/
theorem threadStep_waiting {pc : EduPc} {choice : EduChoice} (phase : EduPhase s p owed)
    (found : s.threads p = some t) (here : t.pc = pc) (waits : pc.waits = true)
    (step : ThreadStep s maxPool p t pc choice reply s')
    (outside : ∀ cb, pc = .timedOut → s.mgr.blocks p = some cb → cb.isForced = true →
      ¬ s.Outstanding p) : Advances s' reply p owed := by
  rcases phase_waiting phase found (by rw [here]; exact waits) with
    ⟨cb, attends, marks, awaits⟩
  cases step with
  | looped block =>
      cases block.symm.trans (awaits_block awaits)
      exact .silent (waits_setThread _ attends awaits rfl attends.typed.symm rfl rfl nofun)
        rfl rfl
  | tested block =>
      cases block.symm.trans (awaits_block awaits)
      refine .silent (waits_setThread _ attends awaits rfl rfl rfl ?_ ?_) rfl rfl
      · dsimp only
        split <;> rfl
      · intro marking idle
        rw [if_pos idle] at marking
        cases marking
  | marked result =>
      cases EduMgr.markWaiting_block (awaits_block awaits) result
      exact .silent (waits_setThread _ attends (Awaits.marked awaits (marks here)) rfl rfl rfl rfl
        nofun) rfl rfl
  | slept block empty =>
      exact .silent (waits_setThread _ attends awaits rfl rfl rfl rfl nofun) rfl rfl
  | took position result =>
      cases awaits with
      | chosen claimed stage run typed status empty =>
          cases (EduMgr.takeEvent_empty run.block empty).symm.trans result
      | pending free run status queued =>
          rcases EduMgr.takeEvent_resume run.block queued result with ⟨rfl, rfl⟩
          exact .silent (serves_setThread { t with pc := .receiving (resumeEvent _) } attends
            free ⟨run.found, Function.update_self ..⟩ rfl rfl rfl rfl ⟨⟨_, rfl⟩, status⟩) rfl rfl
      | pooled free idle agent empty =>
          cases (EduMgr.takeEvent_empty idle.block empty).symm.trans result
  | ranOut => exact .silent (waits_setThread _ attends awaits rfl rfl rfl rfl nofun) rfl rfl
  | forced block forced =>
      have free := outside _ rfl block forced
      cases awaits with
      | chosen claimed stage run typed status empty =>
          exact absurd (.inl ⟨_, _, p + 1, claimed.call, by rw [stage]; rfl⟩) free
      | @pending arg unclaimed run status queued =>
          exact absurd (.inr ⟨cb, resumeEvent arg, run.block, by simp [queued], rfl⟩) free
      | pooled unclaimed idle agent empty =>
          exact .silent (.retiring unclaimed idle (Function.update_self ..) rfl rfl
            ⟨by simp, by simp⟩ empty) rfl rfl
  | again block unforced =>
      exact .silent (waits_setThread _ attends awaits rfl rfl rfl rfl nofun) rfl rfl
  | _ => cases waits

/-- A thread in `returnEDU` has served a request, or it has seen a force while its EDU was
idle. -/
theorem phase_returning {stage : ReturnStage} (phase : EduPhase s p owed)
    (found : s.threads p = some t) (here : t.pc = .returning stage) :
    owed = [] ∧ ((∃ cb, s.Serves p cb t) ∨ ∃ cb, Unclaimed s.starts p ∧ InIdle s.mgr p cb ∧
      t.isForced = true ∧ stage ≠ .size ∧ stage ≠ .deactivate ∧ cb.queue = []) := by
  cases phase with
  | absent left thread free => cases found.symm.trans thread
  | creating claimed at_ run typed entry status empty thread => cases found.symm.trans thread
  | waiting thread waits marks awaits =>
      cases found.symm.trans thread.thread
      rw [here] at waits
      cases waits
  | serving free run empty thread serves =>
      cases found.symm.trans thread.thread
      exact ⟨by rw [here]; rfl, .inl ⟨_, free, run, empty, thread, serves⟩⟩
  | retiring free idle thread forced returning early empty =>
      cases found.symm.trans thread
      cases here.symm.trans returning
      exact ⟨rfl, .inr ⟨_, free, idle, forced, early.1, early.2, empty⟩⟩
  | gone left thread ended free =>
      cases found.symm.trans thread
      cases here.symm.trans ended

theorem find_inRun (structured : s.Structured) (run : InRun s.mgr p cb) :
    s.mgr.find (p + 1) = some p :=
  EduMgr.find_of_queued structured.mgr (.inl run.found)

/-- What the next stage of the own call of `returnEDU` knows fits the type. -/
theorem fits_next {force : Bool} {stage next : ReturnStage} {m : EduMgr}
    (structured : s.Structured) (run : InRun s.mgr p cb) (fits : stage.fits cb.type)
    (result : s.mgr.returnEdu maxPool (p + 1) force stage = some (.goesOn next, m)) :
    next.fits cb.type := by
  rcases (EduMgr.returnEdu_goesOn result).2 with
    ⟨-, q, other, same, block, rfl⟩ | ⟨type, rfl, rfl | ⟨rfl, poolable, -⟩⟩ |
      ⟨rfl, rfl | ⟨rfl, -⟩⟩
  · cases (find_inRun structured run).symm.trans same
    cases run.block.symm.trans block
    rfl
  · trivial
  · have read : type = cb.type := fits
    rw [← read]
    exact poolable
  · trivial
  · exact fits

theorem threadStep_wentOn {stage next : ReturnStage} {m : EduMgr} (structured : s.Structured)
    (phase : EduPhase s p owed) (found : s.threads p = some t) (here : t.pc = .returning stage)
    (result : s.mgr.returnEdu maxPool t.id t.isForced stage = some (.goesOn next, m)) :
    EduPhase ({ s with mgr := m }.setThread p { t with pc := .returning next }) p owed := by
  rw [(structured.threads found).1] at result
  cases (EduMgr.returnEdu_goesOn result).1
  rcases phase_returning phase found here with
    ⟨rfl, ⟨cb, held⟩ | ⟨cb, free, idle, forced, notSize, notDeactivate, empty⟩⟩
  · have serves := held.serves
    rw [here] at serves
    exact serves_setThread { t with pc := .returning next } held.thread held.free held.run
      held.empty rfl rfl rfl ⟨serves.1, fits_next structured held.run serves.2 result⟩
  · refine .retiring free idle (Function.update_self ..) forced rfl ?_ empty
    rcases (EduMgr.returnEdu_goesOn result).2 with
      ⟨-, q, other, -, -, rfl⟩ | ⟨type, -, rfl | ⟨-, -, unforced⟩⟩ | ⟨size, -⟩
    · exact ⟨by simp, by simp⟩
    · exact ⟨by simp, by simp⟩
    · cases forced.symm.trans unforced
    · exact absurd size notSize

/-- How the own call of `returnEDU` ends: the EDU is in the idle queue, or it is gone and
so is the thread. -/
theorem threadStep_gaveBack {stage : ReturnStage} {rc : ReturnCode} {destroyed : Bool}
    {m : EduMgr} (structured : s.Structured) (phase : EduPhase s p owed)
    (found : s.threads p = some t) (here : t.pc = .returning stage)
    (result : s.mgr.returnEdu maxPool t.id t.isForced stage = some (.returns rc destroyed, m)) :
    EduPhase ({ s with mgr := m }.setThread p
        { t with pc := if destroyed then .exited else .loop }) p owed ∧
      (destroyed = true ∧ Left m p ∨ destroyed = false ∧ ∃ cb, InIdle m p cb) := by
  rw [(structured.threads found).1] at result
  rcases phase_returning phase found here with
    ⟨rfl, ⟨cb, held⟩ | ⟨cb, free, idle, forced, notSize, notDeactivate, empty⟩⟩
  · have serves := held.serves
    rw [here] at serves
    have absent := structured.mgr.apart held.run.found
    rcases (EduMgr.returnEdu_inRun absent held.run.found held.run.block serves.1 result).2 with
      ⟨rfl, rfl, rfl⟩ | ⟨rfl, rfl, rfl⟩
    · have left : Left ((s.mgr.eraseRun (p + 1)).deleteBlock p) p :=
        ⟨by simp [EduMgr.deleteBlock, EduMgr.eraseRun], absent, Function.update_self ..⟩
      exact ⟨.gone left (Function.update_self ..) rfl held.free, .inl ⟨rfl, left⟩⟩
    · have idle : InIdle ((s.mgr.moveToIdle (p + 1) p).setBlock p { cb with status := .idle }) p
          { cb with status := .idle } :=
        ⟨by simp [EduMgr.setBlock, EduMgr.moveToIdle], Function.update_self .., rfl⟩
      exact ⟨waits_setThread { t with pc := .loop } held.thread
        (.pooled held.free idle serves.2 held.empty) rfl rfl rfl rfl
        (fun marks => EduPc.noConfusion marks), .inr ⟨rfl, _, idle⟩⟩
  · have absent : s.mgr.runQueue.lookup (p + 1) = none :=
      Option.eq_none_iff_forall_ne_some.mpr fun q ran => by
        cases (structured.mgr.apart ran).symm.trans idle.found
    rcases EduMgr.returnEdu_inIdle absent idle.found idle.block idle.idle notDeactivate result
      with ⟨rfl, rfl, rfl⟩
    have left : Left ((s.mgr.eraseIdle (p + 1)).deleteBlock p) p :=
      ⟨absent, by simp [EduMgr.deleteBlock, EduMgr.eraseIdle], Function.update_self ..⟩
    exact ⟨.gone left (Function.update_self ..) rfl free, .inl ⟨rfl, left⟩⟩

/-- The step of a thread that has taken RESUME or is returning the EDU. -/
theorem threadStep_serving {pc : EduPc} {choice : EduChoice} (structured : s.Structured)
    (phase : EduPhase s p owed) (found : s.threads p = some t) (here : t.pc = pc)
    (busy : pc.waits = false)
    (step : ThreadStep s maxPool p t pc choice reply s') : Advances s' reply p owed := by
  have named := (structured.threads found).1
  cases step with
  | took waits result => rcases waits with rfl | rfl <;> cases busy
  | received result =>
      rcases phase_serving phase found here rfl (by simp) (by simp) with ⟨cb, held, rfl⟩
      have serves := held.serves
      rw [here] at serves
      rcases serves with ⟨⟨arg, rfl⟩, -⟩
      cases EduMgr.endWait_resume held.run.block result
      exact .silent (serves_setThread { t with pc := .took (resumeEvent arg) } held.thread
        held.free ⟨held.run.found, Function.update_self ..⟩ held.empty rfl rfl rfl
        ⟨⟨arg, rfl⟩, rfl⟩) rfl rfl
  | resumed unforced resume result =>
      rcases phase_serving phase found here rfl (by simp) (by simp) with ⟨cb, held, rfl⟩
      have serves := held.serves
      rw [here] at serves
      rcases serves with ⟨⟨arg, rfl⟩, running⟩
      rw [named] at result
      cases EduMgr.waitEdu_inRun held.run.found held.run.block (.inl running) result
      exact .silent (serves_setThread { t with pc := .calling arg } held.thread held.free
        ⟨held.run.found, Function.update_self ..⟩ held.empty rfl rfl rfl rfl) rfl rfl
  | dismissed other =>
      rcases phase_serving phase found here rfl (by simp) (by simp) with ⟨cb, held, rfl⟩
      have serves := held.serves
      rw [here] at serves
      rcases serves with ⟨⟨arg, rfl⟩, running⟩
      exact absurd ⟨held.thread.unforced, rfl⟩ other
  | @entered arg entry =>
      rcases phase_serving phase found here rfl (by simp) (by simp) with ⟨cb, held, rfl⟩
      have serves := held.serves
      rw [here] at serves
      refine ⟨[], serves_setThread { t with pc := .inEntry } held.thread held.free held.run
        held.empty rfl rfl rfl (.inr serves), ?_⟩
      simp [acceptedBy, servedBy, owedAt, named, held.thread.typed]
  | skipped entry =>
      rcases phase_serving phase found here rfl (by simp) (by simp) with ⟨cb, held, rfl⟩
      rw [held.thread.typed, held.thread.entry] at entry
      cases entry
  | activated result =>
      rcases phase_serving phase found here rfl (by simp) (by simp) with ⟨cb, held, rfl⟩
      have serves := held.serves
      rw [here] at serves
      rw [named] at result
      cases EduMgr.activateEdu_inRun (structured.mgr.apart held.run.found) held.run.found
        held.run.block serves result
      have after : EduPhase _ p (owedAt { cb with status := .running }.type t.pc) :=
        .serving (s := { s with mgr := s.mgr.setBlock p { cb with status := .running } })
          held.free ⟨held.run.found, Function.update_self ..⟩ held.empty
          ⟨held.thread.thread, held.thread.typed, held.thread.entry, held.thread.unforced⟩
          (by rw [here]; exact .inl rfl)
      rw [here] at after
      exact .silent after rfl rfl
  | waited result =>
      rcases phase_serving phase found here rfl (by simp) (by simp) with ⟨cb, held, rfl⟩
      have serves := held.serves
      rw [here] at serves
      rw [named] at result
      cases EduMgr.waitEdu_inRun held.run.found held.run.block serves result
      have after : EduPhase _ p (owedAt { cb with status := .waiting }.type t.pc) :=
        .serving (s := { s with mgr := s.mgr.setBlock p { cb with status := .waiting } })
          held.free ⟨held.run.found, Function.update_self ..⟩ held.empty
          ⟨held.thread.thread, held.thread.typed, held.thread.entry, held.thread.unforced⟩
          (by rw [here]; exact .inr rfl)
      rw [here] at after
      exact .silent after rfl rfl
  | finished =>
      rcases phase_serving phase found here rfl (by simp) (by simp) with ⟨cb, held, rfl⟩
      have serves := held.serves
      rw [here] at serves
      exact .silent (serves_setThread { t with pc := .left } held.thread held.free held.run
        held.empty rfl rfl rfl serves) rfl rfl
  | leaving result =>
      rcases phase_serving phase found here rfl (by simp) (by simp) with ⟨cb, held, rfl⟩
      have serves := held.serves
      rw [here] at serves
      rw [named] at result
      cases EduMgr.waitEdu_inRun held.run.found held.run.block serves result
      exact .silent (serves_setThread { t with pc := .returning .lookup } held.thread held.free
        ⟨held.run.found, Function.update_self ..⟩ held.empty rfl rfl rfl ⟨rfl, trivial⟩) rfl rfl
  | wentOn result => exact .silent (threadStep_wentOn structured phase found here result) rfl rfl
  | gaveBack result =>
      exact .silent (threadStep_gaveBack structured phase found here result).1 rfl rfl
  | _ => cases busy

/-- Any step of the EDU's own thread. -/
theorem threadStep_advances {pc : EduPc} {choice : EduChoice} (structured : s.Structured)
    (phase : EduPhase s p owed) (found : s.threads p = some t) (here : t.pc = pc)
    (step : ThreadStep s maxPool p t pc choice reply s')
    (outside : ∀ cb, pc = .timedOut → s.mgr.blocks p = some cb → cb.isForced = true →
      ¬ s.Outstanding p) : Advances s' reply p owed := by
  cases waits : pc.waits with
  | true => exact threadStep_waiting phase found here waits step outside
  | false => exact threadStep_serving structured phase found here waits step

end EduSystem

end EmeraldDb
