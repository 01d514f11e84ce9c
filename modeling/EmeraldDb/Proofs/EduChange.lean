/-
Module: EmeraldDb.Proofs.EduChange
Purpose: What one critical section can do to the EDU manager, and which action of the
  system may do it.
Trusted boundary: none
Main exports: EduLabel, EduMgr.Change, EduSystem.Permits, EduSystem.exec_change,
  EduSystem.Returning, EduSystem.exec_returning
-/
import EmeraldDb.Pmd.EduSystem

namespace EmeraldDb

/-- The kinds of change a critical section makes. -/
inductive EduLabel where
  | keep
  | mark (id : EduId)
  | reuse (id : EduId)
  | pool (id : EduId)
  | destroy (id : EduId)
  | create
  | undo (id : EduId) (p : Ptr)
  | force
  | post (p : Ptr)
  | markWaiting (p : Ptr)
  | take (p : Ptr)
  | endWait (p : Ptr) (event : EduEvent)

/-- The change concerns this EDU and its control block only. -/
def EduLabel.Concerns (id : EduId) (p : Ptr) : EduLabel → Prop
  | .keep => True
  | .mark other => other = id
  | .reuse other => other = id
  | .pool other => other = id
  | .destroy other => other = id
  | .undo other q => other = id ∧ q = p
  | .post q => q = p
  | .markWaiting q => q = p
  | .take q => q = p
  | .endWait q _ => q = p
  | .create => False
  | .force => False

namespace EduMgr

/-- The manager as a labelled transition system: every change to the queues or to a
control block, with all that the section has tested before it. -/
inductive Change : EduMgr → EduLabel → EduMgr → Prop where
  | keep {s s' : EduMgr} (run : s'.runQueue = s.runQueue) (idle : s'.idleQueue = s.idleQueue)
      (ids : s'.nextId = s.nextId) (ptrs : s'.nextPtr = s.nextPtr)
      (blocks : s'.blocks = s.blocks) : Change s .keep s'
  | mark {s : EduMgr} {id : EduId} {p : Ptr} {cb : ControlBlock} {status : EduStatus}
      (found : s.runQueue.lookup id = some p) (block : s.blocks p = some cb)
      (marked : status = .running ∨ status = .waiting) :
      Change s (.mark id) (s.setBlock p { cb with status := status })
  | reuse {s : EduMgr} {id : EduId} {p : Ptr} {cb : ControlBlock} {type : EduType}
      {status : EduStatus}
      (found : s.idleQueue.lookup id = some p) (block : s.blocks p = some cb)
      (idle : cb.status = .idle) (typed : type = cb.type ∨ isPoolable type = true)
      (marked : status = .running ∨ status = .waiting) :
      Change s (.reuse id)
        ((s.moveToRun id p).setBlock p { cb with type := type, status := status })
  | pool {s : EduMgr} {id : EduId} {p : Ptr} {cb : ControlBlock}
      (found : s.runQueue.lookup id = some p) (block : s.blocks p = some cb)
      (waits : cb.status = .waiting ∨ cb.status = .creating) :
      Change s (.pool id) ((s.moveToIdle id p).setBlock p { cb with status := .idle })
  | destroyRun {s : EduMgr} {id : EduId} {p : Ptr} {cb : ControlBlock}
      (found : s.runQueue.lookup id = some p) (block : s.blocks p = some cb)
      (waits : cb.status = .waiting ∨ cb.status = .creating) :
      Change s (.destroy id) ((s.eraseRun id).deleteBlock p)
  | destroyIdle {s : EduMgr} {id : EduId} {p : Ptr} {cb : ControlBlock}
      (absent : s.runQueue.lookup id = none)
      (found : s.idleQueue.lookup id = some p) (block : s.blocks p = some cb)
      (idle : cb.status = .idle) :
      Change s (.destroy id) ((s.eraseIdle id).deleteBlock p)
  | create {s : EduMgr} {type : EduType} (newRun : s.runQueue.lookup s.nextId = none)
      (newIdle : s.idleQueue.lookup s.nextId = none) :
      Change s .create
        { s.setBlock s.nextPtr ⟨type, .creating, s.nextId, false, false, []⟩ with
          runQueue := s.runQueue.insert s.nextId s.nextPtr
          nextId := s.nextId + 1
          nextPtr := s.nextPtr + 1 }
  | undo {s : EduMgr} {id : EduId} {p : Ptr} {cb : ControlBlock}
      (block : s.blocks p = some cb) :
      Change s (.undo id p) ((s.eraseRun id).deleteBlock p)
  | force {s s' : EduMgr} (run : s'.runQueue = s.runQueue)
      (idle : s'.idleQueue = s.idleQueue)
      (ids : s'.nextId = s.nextId) (ptrs : s'.nextPtr = s.nextPtr)
      (blocks : ∀ p, s'.blocks p = s.blocks p ∨
        s'.blocks p = (s.blocks p).map fun cb => { cb with isForced := true }) :
      Change s .force s'
  | post {s : EduMgr} {p : Ptr} {cb : ControlBlock} {event : EduEvent}
      (block : s.blocks p = some cb) :
      Change s (.post p) (s.setBlock p { cb with queue := cb.queue ++ [event] })
  | markWaiting {s : EduMgr} {p : Ptr} {cb : ControlBlock} (block : s.blocks p = some cb) :
      Change s (.markWaiting p) (s.setBlock p { cb with status := .waiting })
  | take {s : EduMgr} {p : Ptr} {cb : ControlBlock} {event : EduEvent}
      {rest : List EduEvent}
      (block : s.blocks p = some cb) (queued : cb.queue = event :: rest) :
      Change s (.take p) (s.setBlock p { cb with queue := rest })
  | endWait {s : EduMgr} {p : Ptr} {cb : ControlBlock} {event : EduEvent}
      (block : s.blocks p = some cb) :
      Change s (.endWait p event) (s.setBlock p (receive cb event))

variable {s s' : EduMgr} {id : EduId} {p : Ptr} {rc : ReturnCode}

theorem Change.refl (s : EduMgr) : Change s .keep s :=
  .keep rfl rfl rfl rfl rfl

/-! ### The sections -/

theorem activateEdu_change (result : s.activateEdu id = some (rc, s')) :
    Change s .keep s' ∨ Change s (.mark id) s' ∨ Change s (.reuse id) s' := by
  unfold activateEdu at result
  cases found : s.idleQueue.lookup id with
  | some p =>
      simp only [found, Option.bind_eq_some_iff] at result
      rcases result with ⟨cb, block, result⟩
      split_ifs at result with running idle
      · cases result
        exact .inl (.refl s)
      · cases result
        exact .inl (.refl s)
      · cases result
        exact .inr (.inr (.reuse found block (by simpa using idle) (.inl rfl) (.inl rfl)))
  | none =>
      cases ran : s.runQueue.lookup id with
      | none =>
          simp only [found, ran] at result
          cases result
          exact .inl (.refl s)
      | some p =>
          simp only [found, ran, Option.bind_eq_some_iff] at result
          rcases result with ⟨cb, block, result⟩
          split_ifs at result with running ready
          · cases result
            exact .inl (.refl s)
          · cases result
            exact .inl (.refl s)
          · cases result
            exact .inr (.inl (.mark ran block (.inl rfl)))

theorem waitEdu_change (result : s.waitEdu id = some (rc, s')) :
    Change s .keep s' ∨ Change s (.mark id) s' := by
  unfold waitEdu at result
  cases found : s.runQueue.lookup id with
  | none =>
      simp only [found] at result
      cases result
      exact .inl (.refl s)
  | some p =>
      simp only [found, Option.bind_eq_some_iff] at result
      rcases result with ⟨cb, block, result⟩
      split_ifs at result with waiting running
      · cases result
        exact .inl (.refl s)
      · cases result
        exact .inl (.refl s)
      · cases result
        exact .inr (.mark found block (.inr rfl))

theorem destroyEdu_change (result : s.destroyEdu id = some (rc, s')) :
    Change s .keep s' ∨ Change s (.destroy id) s' := by
  unfold destroyEdu at result
  cases ran : s.runQueue.lookup id with
  | none =>
      cases found : s.idleQueue.lookup id with
      | none =>
          simp only [ran, found] at result
          cases result
          exact .inl (.refl s)
      | some p =>
          simp only [ran, found, Option.bind_eq_some_iff] at result
          rcases result with ⟨cb, block, result⟩
          split_ifs at result with idle
          · cases result
            exact .inl (.refl s)
          · cases result
            exact .inr (.destroyIdle ran found block (by simpa using idle))
  | some p =>
      simp only [ran, Option.bind_eq_some_iff] at result
      rcases result with ⟨cb, block, result⟩
      split_ifs at result with waits
      · cases result
        exact .inl (.refl s)
      · cases result
        exact .inr (.destroyRun ran block (by tauto))

theorem deactivateEdu_change (result : s.deactivateEdu id = some (rc, s')) :
    Change s .keep s' ∨ Change s (.pool id) s' := by
  unfold deactivateEdu at result
  cases ran : s.runQueue.lookup id with
  | none =>
      cases found : s.idleQueue.lookup id <;> simp only [ran, found] at result
      · cases result
        exact .inl (.refl s)
      · cases result
        exact .inl (.refl s)
  | some p =>
      simp only [ran, Option.bind_eq_some_iff] at result
      rcases result with ⟨cb, block, result⟩
      split_ifs at result with idle waits
      · cases result
        exact .inl (.refl s)
      · cases result
        exact .inl (.refl s)
      · cases result
        exact .inr (.pool ran block (by tauto))

theorem forceKey_change {q : EduQueue} (result : s.forceKey q id = some s') :
    Change s .force s' := by
  simp only [forceKey, Option.bind_eq_some_iff, Option.map_eq_some_iff] at result
  rcases result with ⟨p, -, cb, block, rfl⟩
  refine .force rfl rfl rfl rfl fun other => ?_
  rcases eq_or_ne other p with rfl | apart
  · exact .inr (by simp [setBlock, block])
  · exact .inl (Function.update_of_ne apart ..)

theorem forceUserEdu_change (result : s.forceUserEdu id = some (rc, s')) :
    Change s .keep s' ∨ Change s .force s' := by
  unfold forceUserEdu at result
  split at result
  · cases result
    exact .inl (.refl s)
  · split at result
    · simp only [Option.map_eq_some_iff] at result
      rcases result with ⟨after, forced, same⟩
      cases same
      exact .inr (forceKey_change forced)
    · split at result
      · simp only [Option.map_eq_some_iff] at result
        rcases result with ⟨after, forced, same⟩
        cases same
        exact .inr (forceKey_change forced)
      · cases result
        exact .inl (.refl s)

open Classical in
theorem forceEdus_change (property : EduProperty) : Change s .force (s.forceEdus property) := by
  refine .force rfl rfl rfl rfl fun p => ?_
  simp only [forceEdus]
  split
  · exact .inr rfl
  · exact .inl rfl

theorem postEvent_change {event : EduEvent} (result : s.postEvent p event = some s') :
    Change s (.post p) s' := by
  simp only [postEvent, Option.map_eq_some_iff] at result
  rcases result with ⟨cb, block, rfl⟩
  exact .post block

theorem postEduPost_change {event : EduEvent}
    (result : s.postEduPost id event = some (rc, s')) :
    Change s .keep s' ∨ ∃ p, s.find id = some p ∧ Change s (.post p) s' := by
  unfold postEduPost at result
  cases found : s.find id with
  | none =>
      simp only [found] at result
      cases result
      exact .inl (.refl s)
  | some p =>
      simp only [found, Option.map_eq_some_iff] at result
      rcases result with ⟨after, posted, same⟩
      cases same
      exact .inr ⟨p, rfl, postEvent_change posted⟩

/-- What `startEDU` chooses is in the idle queue and idle. -/
theorem selectIdle_chosen {type : EduType}
    (result : s.selectIdle type = some (.chosen id p, s')) :
    ∃ cb, s.idleQueue.lookup id = some p ∧ s.blocks p = some cb ∧ cb.status = .idle ∧
      isPoolable type = true ∧
      s' = (s.moveToRun id p).setBlock p { cb with type := type, status := .waiting } := by
  unfold selectIdle at result
  split_ifs at result with empty
  · cases result
  · cases first : s.firstKey s.idleQueue fun cb => cb.status = .idle with
    | none =>
        simp only [first] at result
        cases result
    | some key =>
        simp only [first, Option.bind_eq_some_iff, Option.map_eq_some_iff] at result
        rcases result with ⟨q, found, cb, block, same⟩
        cases same
        have stops := Finset.mem_of_min first
        have idle : cb.status = .idle := by
          simpa [found, block] using (Finset.mem_filter.mp stops).2
        exact ⟨cb, found, block, idle, by simpa using (not_or.mp empty).2, rfl⟩

theorem selectIdle_createNew {type : EduType}
    (result : s.selectIdle type = some (.createNew, s')) : s' = s := by
  unfold selectIdle at result
  split_ifs at result with empty
  · cases result
    rfl
  · cases first : s.firstKey s.idleQueue fun cb => cb.status = .idle with
    | none =>
        simp only [first] at result
        cases result
        rfl
    | some key =>
        simp only [first, Option.bind_eq_some_iff, Option.map_eq_some_iff] at result
        rcases result with ⟨q, -, cb, -, same⟩
        cases same

theorem selectIdle_change {type : EduType}
    (result : s.selectIdle type = some (.chosen id p, s')) : Change s (.reuse id) s' := by
  rcases selectIdle_chosen result with ⟨cb, found, block, idle, poolable, rfl⟩
  exact .reuse found block idle (.inr poolable) (.inr rfl)

theorem insertEdu_change {type : EduType} {created : EduId × Ptr}
    (result : s.insertEdu type = (some created, s')) :
    created = (s.nextId, s.nextPtr) ∧ Change s .create s' := by
  unfold insertEdu at result
  split_ifs at result with ran found
  · cases result
  · cases result
  · cases result
    exact ⟨rfl, .create (by simpa using ran) (by simpa using found)⟩

theorem rollbackEdu_change (result : s.rollbackEdu id p = some s') :
    Change s (.undo id p) s' := by
  simp only [rollbackEdu, Option.map_eq_some_iff] at result
  rcases result with ⟨cb, block, rfl⟩
  exact .undo block

theorem markWaiting_change (result : s.markWaiting p = some s') :
    Change s (.markWaiting p) s' := by
  rcases Option.map_eq_some_iff.mp result with ⟨cb, block, rfl⟩
  exact .markWaiting block

/-- `waitEvent` takes the first event, and nothing else changes. -/
theorem takeEvent_takes {event : EduEvent} (result : s.takeEvent p = some (event, s')) :
    ∃ cb rest, s.blocks p = some cb ∧ cb.queue = event :: rest ∧
      s' = s.setBlock p { cb with queue := rest } := by
  simp only [takeEvent, Option.bind_eq_some_iff] at result
  rcases result with ⟨cb, block, result⟩
  cases queued : cb.queue with
  | nil => simp [queued] at result
  | cons first rest =>
      simp only [queued] at result
      cases result
      exact ⟨cb, rest, block, queued, rfl⟩

theorem takeEvent_change {event : EduEvent} (result : s.takeEvent p = some (event, s')) :
    Change s (.take p) s' := by
  rcases takeEvent_takes result with ⟨cb, rest, block, queued, rfl⟩
  exact .take block queued

theorem endWait_change {event : EduEvent} (result : s.endWait p event = some s') :
    Change s (.endWait p event) s' := by
  rcases Option.map_eq_some_iff.mp result with ⟨cb, block, rfl⟩
  exact .endWait block

/-- A call of `returnEDU` that goes on has changed nothing. -/
theorem returnEdu_goesOn {maxPool : Nat} {force : Bool} {stage next : ReturnStage}
    (result : s.returnEdu maxPool id force stage = some (.goesOn next, s')) :
    s' = s ∧
      ((stage = .lookup ∧ ∃ p cb, s.find id = some p ∧ s.blocks p = some cb ∧
          next = .flags cb.type) ∨
        (∃ type, stage = .flags type ∧
          (next = .destroy ∨ next = .size ∧ isPoolable type = true ∧ force = false)) ∨
        (stage = .size ∧ (next = .destroy ∨ next = .deactivate ∧ s.size ≤ maxPool))) := by
  cases stage with
  | lookup =>
      cases found : s.find id with
      | none => simp [returnEdu, found] at result
      | some p =>
          simp only [returnEdu, found, Option.map_eq_some_iff] at result
          rcases result with ⟨cb, block, same⟩
          cases same
          exact ⟨rfl, .inl ⟨rfl, p, cb, rfl, block, rfl⟩⟩
  | flags type =>
      simp only [returnEdu] at result
      split_ifs at result with destroys
      · cases result
        exact ⟨rfl, .inr (.inl ⟨type, rfl, .inl rfl⟩)⟩
      · cases result
        simp only [not_or, Bool.not_eq_true, Bool.not_eq_false] at destroys
        exact ⟨rfl, .inr (.inl ⟨type, rfl, .inr ⟨rfl, destroys.1, destroys.2.1⟩⟩)⟩
  | size =>
      simp only [returnEdu] at result
      split_ifs at result with full
      · cases result
        exact ⟨rfl, .inr (.inr ⟨rfl, .inl rfl⟩)⟩
      · cases result
        exact ⟨rfl, .inr (.inr ⟨rfl, .inr ⟨rfl, Nat.not_lt.mp full⟩⟩)⟩
  | destroy => simp [returnEdu] at result
  | deactivate => simp [returnEdu] at result

/-- A call of `returnEDU` changes the manager in its last section. -/
theorem returnEdu_change {maxPool : Nat} {force : Bool} {stage : ReturnStage}
    {outcome : ReturnOutcome}
    (result : s.returnEdu maxPool id force stage = some (outcome, s')) :
    Change s .keep s' ∨ Change s (.destroy id) s' ∨
      stage = .deactivate ∧ Change s (.pool id) s' := by
  cases outcome with
  | goesOn next =>
      cases (returnEdu_goesOn result).1
      exact .inl (.refl s)
  | returns rc destroyed =>
      cases stage with
      | lookup =>
          cases found : s.find id with
          | none =>
              simp only [returnEdu, found] at result
              cases result
              exact .inl (.refl s)
          | some p => simp [returnEdu, found] at result
      | flags type =>
          simp only [returnEdu] at result
          split_ifs at result <;> cases result
      | size =>
          simp only [returnEdu] at result
          split_ifs at result <;> cases result
      | destroy =>
          simp only [returnEdu, Option.map_eq_some_iff] at result
          rcases result with ⟨⟨code, after⟩, ended, same⟩
          cases same
          exact (destroyEdu_change ended).imp_right .inl
      | deactivate =>
          simp only [returnEdu, Option.map_eq_some_iff] at result
          rcases result with ⟨⟨code, after⟩, ended, same⟩
          cases same
          exact (deactivateEdu_change ended).imp_right fun pooled => .inr ⟨rfl, pooled⟩

end EduMgr

namespace EduSystem

/-! ### The steps of a call and of a thread -/

/-- What one step of a call of `startEDU` does. -/
inductive StartStep (s : EduSystem) (c : Nat) (call : StartCall) :
    StartStage → Bool → EduReply → EduSystem → Prop where
  | quiesced {stage : StartStage} {granted : Bool}
      (tests : stage = .test ∨ stage = .createTest) (quiesced : s.mgr.isQuiesced = true) :
      StartStep s c call stage granted (.returned edbQuiesced) (s.endStart c)
  | tested {granted : Bool} (open_ : s.mgr.isQuiesced = false) :
      StartStep s c call .test granted .nothing (s.setStart c call .select)
  | noneIdle {granted : Bool} (result : s.mgr.selectIdle call.type = some (.createNew, s.mgr)) :
      StartStep s c call .select granted .nothing (s.setStart c call .createTest)
  | chose {granted : Bool} {id : EduId} {p : Ptr} {mgr : EduMgr}
      (result : s.mgr.selectIdle call.type = some (.chosen id p, mgr)) :
      StartStep s c call .select granted .nothing
        ({ s with mgr := mgr }.setStart c call (.post id p))
  | refused {granted : Bool} {rc : ReturnCode}
      (failed : hasEntryFunc call.type = false ∧ rc = edbInvalidArg ∨
        granted = false ∧ rc = edbOom) :
      StartStep s c call .createTest granted (.returned rc) (s.endStart c)
  | ready (open_ : s.mgr.isQuiesced = false) (entry : hasEntryFunc call.type = true) :
      StartStep s c call .createTest true .nothing (s.setStart c call .createInsert)
  | unplaced {granted : Bool} {mgr : EduMgr}
      (result : s.mgr.insertEdu call.type = (none, mgr)) :
      StartStep s c call .createInsert granted (.returned edbSys) (s.endStart c)
  | placed {granted : Bool} {id : EduId} {p : Ptr} {mgr : EduMgr}
      (result : s.mgr.insertEdu call.type = (some (id, p), mgr)) :
      StartStep s c call .createInsert granted .nothing
        ({ s with mgr := mgr }.setStart c call (.createThread id p))
  | spawned {id : EduId} {p : Ptr} :
      StartStep s c call (.createThread id p) true .nothing
        ((s.setThread p ⟨call.type, id, false, .loop⟩).setStart c call (.post id p))
  | failed {id : EduId} {p : Ptr} {mgr : EduMgr}
      (result : s.mgr.rollbackEdu id p = some mgr) :
      StartStep s c call (.createThread id p) false (.returned edbSys)
        ({ s with mgr := mgr }.endStart c)
  | posted {granted : Bool} {id : EduId} {p : Ptr} {mgr : EduMgr}
      (result : s.mgr.postEvent p ⟨.resume, false, call.arg⟩ = some mgr) :
      StartStep s c call (.post id p) granted (.started id call.type call.arg)
        ({ s with mgr := mgr }.endStart c)

/-- What one step of an EDU's thread does. -/
inductive ThreadStep (s : EduSystem) (maxPool : Nat) (p : Ptr) (t : EduThread) :
    EduPc → EduChoice → EduReply → EduSystem → Prop where
  | looped {cb : ControlBlock} (block : s.mgr.blocks p = some cb) :
      ThreadStep s maxPool p t .loop .goOn .nothing
        (s.setThread p { t with type := cb.type, pc := .testing })
  | tested {cb : ControlBlock} (block : s.mgr.blocks p = some cb) :
      ThreadStep s maxPool p t .testing .goOn .nothing
        (s.setThread p { t with pc := if cb.status = .idle then .blocked else .marking })
  | marked {mgr : EduMgr} (result : s.mgr.markWaiting p = some mgr) :
      ThreadStep s maxPool p t .marking .goOn .nothing
        ({ s with mgr := mgr }.setThread p { t with pc := .blocked })
  | slept {cb : ControlBlock} (block : s.mgr.blocks p = some cb) (empty : cb.queue = []) :
      ThreadStep s maxPool p t .blocked .goOn .nothing
        (s.setThread p { t with pc := .sleeping })
  | took {pc : EduPc} {event : EduEvent} {mgr : EduMgr}
      (waits : pc = .blocked ∨ pc = .sleeping)
      (result : s.mgr.takeEvent p = some (event, mgr)) :
      ThreadStep s maxPool p t pc .take .nothing
        ({ s with mgr := mgr }.setThread p { t with pc := .receiving event })
  | ranOut :
      ThreadStep s maxPool p t .sleeping .timeOut .nothing
        (s.setThread p { t with pc := .timedOut })
  | forced {cb : ControlBlock} (block : s.mgr.blocks p = some cb)
      (forced : cb.isForced = true) :
      ThreadStep s maxPool p t .timedOut .goOn .nothing
        (s.setThread p { t with isForced := true, pc := .returning .lookup })
  | again {cb : ControlBlock} (block : s.mgr.blocks p = some cb)
      (unforced : cb.isForced = false) :
      ThreadStep s maxPool p t .timedOut .goOn .nothing (s.setThread p { t with pc := .loop })
  | received {event : EduEvent} {mgr : EduMgr} (result : s.mgr.endWait p event = some mgr) :
      ThreadStep s maxPool p t (.receiving event) .goOn .nothing
        ({ s with mgr := mgr }.setThread p { t with pc := .took event })
  | resumed {event : EduEvent} {rc : ReturnCode} {mgr : EduMgr}
      (unforced : t.isForced = false) (resume : event.eventType = .resume)
      (result : s.mgr.waitEdu t.id = some (rc, mgr)) :
      ThreadStep s maxPool p t (.took event) .goOn .nothing
        ({ s with mgr := mgr }.setThread p { t with pc := .calling event.data })
  | dismissed {event : EduEvent}
      (other : ¬ (t.isForced = false ∧ event.eventType = .resume)) :
      ThreadStep s maxPool p t (.took event) .goOn .nothing
        (s.setThread p { t with pc := .returning .lookup })
  | entered {arg : Nat} (entry : hasEntryFunc t.type = true) :
      ThreadStep s maxPool p t (.calling arg) .goOn (.entered t.id t.type arg)
        (s.setThread p { t with pc := .inEntry })
  | skipped {arg : Nat} (entry : hasEntryFunc t.type = false) :
      ThreadStep s maxPool p t (.calling arg) .goOn .nothing
        (s.setThread p { t with pc := .left })
  | activated {rc : ReturnCode} {mgr : EduMgr}
      (result : s.mgr.activateEdu t.id = some (rc, mgr)) :
      ThreadStep s maxPool p t .inEntry .activate (.returned rc) { s with mgr := mgr }
  | waited {rc : ReturnCode} {mgr : EduMgr}
      (result : s.mgr.waitEdu t.id = some (rc, mgr)) :
      ThreadStep s maxPool p t .inEntry .wait (.returned rc) { s with mgr := mgr }
  | finished :
      ThreadStep s maxPool p t .inEntry .goOn .nothing (s.setThread p { t with pc := .left })
  | leaving {rc : ReturnCode} {mgr : EduMgr}
      (result : s.mgr.waitEdu t.id = some (rc, mgr)) :
      ThreadStep s maxPool p t .left .goOn .nothing
        ({ s with mgr := mgr }.setThread p { t with pc := .returning .lookup })
  | wentOn {stage next : ReturnStage} {mgr : EduMgr}
      (result : s.mgr.returnEdu maxPool t.id t.isForced stage = some (.goesOn next, mgr)) :
      ThreadStep s maxPool p t (.returning stage) .goOn .nothing
        ({ s with mgr := mgr }.setThread p { t with pc := .returning next })
  | gaveBack {stage : ReturnStage} {rc : ReturnCode} {destroyed : Bool} {mgr : EduMgr}
      (result :
        s.mgr.returnEdu maxPool t.id t.isForced stage = some (.returns rc destroyed, mgr)) :
      ThreadStep s maxPool p t (.returning stage) .goOn (.gaveBack t.id rc destroyed)
        ({ s with mgr := mgr }.setThread p { t with pc := if destroyed then .exited else .loop })

variable {s s' : EduSystem} {maxPool : Nat} {reply : EduReply}

theorem stepStart_step {c : Nat} {call : StartCall} {granted : Bool}
    (result : s.stepStart c call granted = some (reply, s')) :
    StartStep s c call call.stage granted reply s' := by
  unfold stepStart at result
  cases staged : call.stage with
  | test =>
      simp only [staged] at result
      split_ifs at result with quiesced
      · cases result
        exact .quiesced (.inl rfl) quiesced
      · cases result
        exact .tested (by simpa using quiesced)
  | select =>
      simp only [staged, Option.map_eq_some_iff] at result
      rcases result with ⟨⟨selection, mgr⟩, selected, same⟩
      cases selection with
      | createNew =>
          cases same
          cases EduMgr.selectIdle_createNew selected
          exact .noneIdle selected
      | chosen id p =>
          cases same
          exact .chose selected
  | createTest =>
      simp only [staged] at result
      split_ifs at result with quiesced entry refused
      · cases result
        exact .quiesced (.inr rfl) quiesced
      · cases result
        exact .refused (.inl ⟨entry, rfl⟩)
      · cases result
        exact .refused (.inr ⟨refused, rfl⟩)
      · cases result
        cases granted with
        | false => exact absurd rfl refused
        | true => exact .ready (by simpa using quiesced) (by simpa using entry)
  | createInsert =>
      simp only [staged] at result
      rcases inserted : s.mgr.insertEdu call.type with ⟨_ | ⟨id, p⟩, mgr⟩
      · simp only [inserted] at result
        cases result
        exact .unplaced inserted
      · simp only [inserted] at result
        cases result
        exact .placed inserted
  | createThread id p =>
      simp only [staged] at result
      cases granted with
      | true =>
          cases result
          exact .spawned
      | false =>
          simp only [Bool.false_eq_true, if_false, Option.map_eq_some_iff] at result
          rcases result with ⟨mgr, undone, same⟩
          cases same
          exact .failed undone
  | post id p =>
      simp only [staged, Option.map_eq_some_iff] at result
      rcases result with ⟨mgr, posted, same⟩
      cases same
      exact .posted posted

theorem stepThread_step {p : Ptr} {t : EduThread} {pc : EduPc} {choice : EduChoice}
    (result : s.stepThread maxPool p t pc choice = some (reply, s')) :
    ThreadStep s maxPool p t pc choice reply s' := by
  unfold stepThread at result
  split at result
  · rcases Option.map_eq_some_iff.mp result with ⟨cb, block, same⟩
    cases same
    exact .looped block
  · simp only [EduMgr.status, Option.map_map] at result
    rcases Option.map_eq_some_iff.mp result with ⟨cb, block, same⟩
    cases same
    exact .tested block
  · rcases Option.map_eq_some_iff.mp result with ⟨mgr, marked, same⟩
    cases same
    exact .marked marked
  · simp only [Option.bind_eq_some_iff] at result
    rcases result with ⟨cb, block, result⟩
    split_ifs at result with empty
    cases result
    exact .slept block empty
  · simp only [stepTake, Option.map_eq_some_iff] at result
    rcases result with ⟨⟨event, mgr⟩, taken, same⟩
    cases same
    exact .took (.inl rfl) taken
  · simp only [stepTake, Option.map_eq_some_iff] at result
    rcases result with ⟨⟨event, mgr⟩, taken, same⟩
    cases same
    exact .took (.inr rfl) taken
  · cases result
    exact .ranOut
  · simp only [Option.map_eq_some_iff] at result
    rcases result with ⟨cb, block, result⟩
    split_ifs at result with forced
    · cases result
      exact .forced block forced
    · cases result
      exact .again block (by simpa using forced)
  · rcases Option.map_eq_some_iff.mp result with ⟨mgr, ended, same⟩
    cases same
    exact .received ended
  · split_ifs at result with resume
    · simp only [Option.map_eq_some_iff] at result
      rcases result with ⟨⟨rc, mgr⟩, waited, same⟩
      cases same
      exact .resumed resume.1 resume.2 waited
    · cases result
      exact .dismissed resume
  · split_ifs at result with entry
    · cases result
      exact .entered entry
    · cases result
      exact .skipped (by simpa using entry)
  · simp only [Option.map_eq_some_iff] at result
    rcases result with ⟨⟨rc, mgr⟩, activated, same⟩
    cases same
    exact .activated activated
  · simp only [Option.map_eq_some_iff] at result
    rcases result with ⟨⟨rc, mgr⟩, waited, same⟩
    cases same
    exact .waited waited
  · cases result
    exact .finished
  · simp only [Option.map_eq_some_iff] at result
    rcases result with ⟨⟨rc, mgr⟩, waited, same⟩
    cases same
    exact .leaving waited
  · simp only [Option.map_eq_some_iff] at result
    rcases result with ⟨⟨outcome, mgr⟩, returned, same⟩
    cases outcome with
    | goesOn next =>
        cases same
        exact .wentOn returned
    | returns rc destroyed =>
        cases same
        exact .gaveBack returned
  · cases result

/-! ### What an action can do -/

/-- The action is the last section of a call of `returnEDU` that pools this EDU. -/
def Pools (s : EduSystem) (action : EduAction) (id : EduId) : Prop :=
  (∃ r call, action = .stepReturn r ∧ s.returns r = some call ∧ call.id = id ∧
      call.stage = .deactivate) ∨
    ∃ p t, action = .thread p .goOn ∧ s.threads p = some t ∧ t.id = id ∧
      t.pc = .returning .deactivate

/-- The action is the failed creation of the thread of this EDU. -/
def FailsThread (s : EduSystem) (action : EduAction) (id : EduId) (p : Ptr) : Prop :=
  ∃ c call, action = .stepStart c false ∧ s.starts c = some call ∧
    call.stage = .createThread id p

/-- The actions that force EDUs. -/
def forces : EduAction → Bool
  | .forceUserEdu _ => true
  | .forceEdus _ => true
  | _ => false

/-- The action is a step of the thread of this control block from this point on. -/
def StepsFrom (s : EduSystem) (action : EduAction) (p : Ptr) (pc : EduPc) : Prop :=
  ∃ t, action = .thread p .goOn ∧ s.threads p = some t ∧ t.pc = pc

/-- Which action may pool an EDU, undo its creation, force EDUs, or write a status without
the latch. -/
def Permits (s : EduSystem) (action : EduAction) : EduLabel → Prop
  | .pool id => s.Pools action id
  | .undo id p => s.FailsThread action id p
  | .force => forces action = true
  | .markWaiting p => s.StepsFrom action p .marking
  | .endWait p event => s.StepsFrom action p (.receiving event)
  | _ => True

theorem startStep_change {c : Nat} {call : StartCall} {stage : StartStage} {granted : Bool}
    (found : s.starts c = some call) (here : call.stage = stage)
    (step : StartStep s c call stage granted reply s') :
    ∃ label, s.mgr.Change label s'.mgr ∧ s.Permits (.stepStart c granted) label := by
  cases step with
  | chose result => exact ⟨_, EduMgr.selectIdle_change result, trivial⟩
  | placed result => exact ⟨_, (EduMgr.insertEdu_change result).2, trivial⟩
  | failed result =>
      exact ⟨_, EduMgr.rollbackEdu_change result, c, call, rfl, found, here⟩
  | posted result => exact ⟨_, EduMgr.postEvent_change result, trivial⟩
  | _ => exact ⟨.keep, .refl _, trivial⟩

theorem threadStep_change {p : Ptr} {t : EduThread} {pc : EduPc} {choice : EduChoice}
    (found : s.threads p = some t) (here : t.pc = pc)
    (step : ThreadStep s maxPool p t pc choice reply s') :
    ∃ label, s.mgr.Change label s'.mgr ∧ s.Permits (.thread p choice) label ∧
      label.Concerns t.id p := by
  cases step with
  | marked result => exact ⟨_, EduMgr.markWaiting_change result, ⟨t, rfl, found, here⟩, rfl⟩
  | took waits result => exact ⟨_, EduMgr.takeEvent_change result, trivial, rfl⟩
  | received result => exact ⟨_, EduMgr.endWait_change result, ⟨t, rfl, found, here⟩, rfl⟩
  | resumed unforced resume result =>
      rcases EduMgr.waitEdu_change result with kept | marked
      · exact ⟨_, kept, trivial, trivial⟩
      · exact ⟨_, marked, trivial, rfl⟩
  | activated result =>
      rcases EduMgr.activateEdu_change result with kept | marked | reused
      · exact ⟨_, kept, trivial, trivial⟩
      · exact ⟨_, marked, trivial, rfl⟩
      · exact ⟨_, reused, trivial, rfl⟩
  | waited result =>
      rcases EduMgr.waitEdu_change result with kept | marked
      · exact ⟨_, kept, trivial, trivial⟩
      · exact ⟨_, marked, trivial, rfl⟩
  | leaving result =>
      rcases EduMgr.waitEdu_change result with kept | marked
      · exact ⟨_, kept, trivial, trivial⟩
      · exact ⟨_, marked, trivial, rfl⟩
  | wentOn result =>
      cases (EduMgr.returnEdu_goesOn result).1
      exact ⟨.keep, .refl _, trivial, trivial⟩
  | gaveBack result =>
      rcases EduMgr.returnEdu_change result with kept | destroyed | ⟨rfl, pooled⟩
      · exact ⟨_, kept, trivial, trivial⟩
      · exact ⟨_, destroyed, trivial, rfl⟩
      · exact ⟨_, pooled, .inr ⟨p, t, rfl, found, rfl, here⟩, rfl⟩
  | _ => exact ⟨.keep, .refl _, trivial, trivial⟩

/-- What one action does: a step of a call, a step of a thread, or a single section. -/
inductive ExecStep (s : EduSystem) (maxPool : Nat) :
    EduAction → EduReply → EduSystem → Prop where
  | called {type : EduType} {arg : Nat} :
      ExecStep s maxPool (.startEdu type arg) .nothing
        { s with
          starts := Function.update s.starts s.nextStart (some ⟨type, arg, .test⟩)
          nextStart := s.nextStart + 1 }
  | start {c : Nat} {granted : Bool} {call : StartCall} {stage : StartStage}
      {reply : EduReply} {s' : EduSystem}
      (found : s.starts c = some call) (staged : call.stage = stage)
      (step : StartStep s c call stage granted reply s') :
      ExecStep s maxPool (.stepStart c granted) reply s'
  | asked {id : EduId} {force : Bool} :
      ExecStep s maxPool (.returnEdu id force) .nothing
        { s with
          returns := Function.update s.returns s.nextReturn (some ⟨id, force, .lookup⟩)
          nextReturn := s.nextReturn + 1 }
  | wentOn {r : Nat} {call : ReturnCall} {next : ReturnStage} {mgr : EduMgr}
      (found : s.returns r = some call)
      (result :
        s.mgr.returnEdu maxPool call.id call.force call.stage = some (.goesOn next, mgr)) :
      ExecStep s maxPool (.stepReturn r) .nothing ({ s with mgr := mgr }.setReturn r call next)
  | ended {r : Nat} {call : ReturnCall} {rc : ReturnCode} {destroyed : Bool} {mgr : EduMgr}
      (found : s.returns r = some call)
      (result :
        s.mgr.returnEdu maxPool call.id call.force call.stage =
          some (.returns rc destroyed, mgr)) :
      ExecStep s maxPool (.stepReturn r) (.returned rc) ({ s with mgr := mgr }.endReturn r)
  | thread {p : Ptr} {choice : EduChoice} {t : EduThread} {pc : EduPc} {reply : EduReply}
      {s' : EduSystem} (found : s.threads p = some t) (here : t.pc = pc)
      (step : ThreadStep s maxPool p t pc choice reply s') :
      ExecStep s maxPool (.thread p choice) reply s'
  | section_ {action : EduAction} {reply : EduReply} {mgr : EduMgr} {label : EduLabel}
      (change : s.mgr.Change label mgr) (permits : s.Permits action label) :
      ExecStep s maxPool action reply { s with mgr := mgr }

theorem exec_step {action : EduAction} (completes : exec maxPool action s = some (reply, s')) :
    ExecStep s maxPool action reply s' := by
  cases action with
  | startEdu type arg =>
      cases completes
      exact .called
  | stepStart c granted =>
      rcases Option.bind_eq_some_iff.mp completes with ⟨call, found, stepped⟩
      exact .start found rfl (stepStart_step stepped)
  | returnEdu id force =>
      cases completes
      exact .asked
  | stepReturn r =>
      rcases Option.bind_eq_some_iff.mp completes with ⟨call, found, stepped⟩
      rcases Option.map_eq_some_iff.mp stepped with ⟨⟨outcome, mgr⟩, returned, same⟩
      cases outcome with
      | goesOn next =>
          cases same
          exact .wentOn found returned
      | returns rc destroyed =>
          cases same
          exact .ended found returned
  | activateEdu id =>
      rcases Option.map_eq_some_iff.mp completes with ⟨⟨rc, mgr⟩, activated, same⟩
      cases same
      rcases EduMgr.activateEdu_change activated with kept | marked | reused
      · exact .section_ kept trivial
      · exact .section_ marked trivial
      · exact .section_ reused trivial
  | waitEdu id =>
      rcases Option.map_eq_some_iff.mp completes with ⟨⟨rc, mgr⟩, waited, same⟩
      cases same
      rcases EduMgr.waitEdu_change waited with kept | marked
      · exact .section_ kept trivial
      · exact .section_ marked trivial
  | forceUserEdu id =>
      rcases Option.map_eq_some_iff.mp completes with ⟨⟨rc, mgr⟩, forced, same⟩
      cases same
      rcases EduMgr.forceUserEdu_change forced with kept | forced
      · exact .section_ kept trivial
      · exact .section_ forced rfl
  | postEduPost id event =>
      rcases Option.map_eq_some_iff.mp completes with ⟨⟨rc, mgr⟩, posted, same⟩
      cases same
      rcases EduMgr.postEduPost_change posted with kept | ⟨p, -, posted⟩
      · exact .section_ kept trivial
      · exact .section_ posted trivial
  | regSystemEdu type id =>
      cases completes
      exact .section_ (.keep rfl rfl rfl rfl rfl) trivial
  | setQuiesced =>
      cases completes
      exact .section_ (.keep rfl rfl rfl rfl rfl) trivial
  | setDestroyed =>
      cases completes
      exact .section_ (.keep rfl rfl rfl rfl rfl) trivial
  | forceEdus property =>
      cases completes
      exact .section_ (EduMgr.forceEdus_change property) rfl
  | thread p choice =>
      rcases Option.bind_eq_some_iff.mp completes with ⟨t, found, stepped⟩
      exact .thread found rfl (stepThread_step stepped)

/-- Every action changes the manager in one of the labelled ways. -/
theorem exec_change {action : EduAction} (completes : exec maxPool action s = some (reply, s')) :
    ∃ label, s.mgr.Change label s'.mgr ∧ s.Permits action label := by
  cases exec_step completes with
  | called => exact ⟨.keep, .refl _, trivial⟩
  | start found staged step => exact startStep_change found staged step
  | asked => exact ⟨.keep, .refl _, trivial⟩
  | wentOn found result =>
      cases (EduMgr.returnEdu_goesOn result).1
      exact ⟨.keep, .refl _, trivial⟩
  | ended found result =>
      rcases EduMgr.returnEdu_change result with kept | destroyed | ⟨staged, pooled⟩
      · exact ⟨_, kept, trivial⟩
      · exact ⟨_, destroyed, trivial⟩
      · exact ⟨_, pooled, .inl ⟨_, _, rfl, found, rfl, staged⟩⟩
  | thread found here step =>
      rcases threadStep_change found here step with ⟨label, change, permits, -⟩
      exact ⟨label, change, permits⟩
  | section_ change permits => exact ⟨_, change, permits⟩

/-! ### Calls of returnEDU -/

/-- Some call of `returnEDU` on this id stands at this stage. -/
def Returning (s : EduSystem) (id : EduId) (stage : ReturnStage) : Prop :=
  (∃ r call, s.returns r = some call ∧ call.id = id ∧ call.stage = stage) ∨
    ∃ p t, s.threads p = some t ∧ t.id = id ∧ t.pc = .returning stage

theorem Pools.returning {action : EduAction} {id : EduId} (pools : s.Pools action id) :
    s.Returning id .deactivate := by
  rcases pools with ⟨r, call, -, found, own, staged⟩ | ⟨p, t, -, found, own, staged⟩
  · exact .inl ⟨r, call, found, own, staged⟩
  · exact .inr ⟨p, t, found, own, staged⟩

/-- Where a call of `returnEDU` can have come from. -/
def Arrives (s s' : EduSystem) (maxPool : Nat) (id : EduId) (stage : ReturnStage) : Prop :=
  s.Returning id stage ∨ stage = .lookup ∨
    ∃ force before, s.Returning id before ∧
      s.mgr.returnEdu maxPool id force before = some (.goesOn stage, s'.mgr)

theorem threads_setThread {p q : Ptr} {t u : EduThread}
    (found : (s.setThread p t).threads q = some u) : s.threads q = some u ∨ q = p ∧ u = t := by
  rcases eq_or_ne q p with rfl | apart
  · exact .inr ⟨rfl, by simpa [setThread] using found.symm⟩
  · exact .inl (by simpa [setThread, Function.update_of_ne apart] using found)

/-- If all threads that differ stand at no stage, the calls have not moved. -/
theorem Returning.kept {id : EduId} {stage : ReturnStage} (returning : s'.Returning id stage)
    (returns : s'.returns = s.returns)
    (threads : ∀ p t, s'.threads p = some t →
      s.threads p = some t ∨ ∀ stage, t.pc ≠ .returning stage) :
    s.Returning id stage := by
  rcases returning with ⟨r, call, found, own, staged⟩ | ⟨p, t, found, own, staged⟩
  · rw [returns] at found
    exact .inl ⟨r, call, found, own, staged⟩
  · rcases threads p t found with found | elsewhere
    · exact .inr ⟨p, t, found, own, staged⟩
    · exact absurd staged (elsewhere stage)

theorem startStep_returning {c : Nat} {call : StartCall} {at_ : StartStage} {granted : Bool}
    {id : EduId} {stage : ReturnStage} (step : StartStep s c call at_ granted reply s')
    (returning : s'.Returning id stage) : s.Returning id stage := by
  cases step with
  | spawned =>
      refine returning.kept rfl fun p t found => ?_
      rcases threads_setThread (s := s) found with found | ⟨rfl, rfl⟩
      · exact .inl found
      · exact .inr fun stage there => by cases there
  | _ => exact returning

theorem threadStep_returning {p : Ptr} {t : EduThread} {pc : EduPc} {choice : EduChoice}
    {id : EduId} {stage : ReturnStage} (found : s.threads p = some t) (here : t.pc = pc)
    (step : ThreadStep s maxPool p t pc choice reply s')
    (returning : s'.Returning id stage) : Arrives s s' maxPool id stage := by
  rcases returning with ⟨r, call, called, own, staged⟩ | ⟨q, u, called, own, staged⟩
  · refine .inl (.inl ⟨r, call, ?_, own, staged⟩)
    cases step <;> exact called
  · cases step with
    | tested block =>
        rcases threads_setThread (s := s) called with called | ⟨rfl, rfl⟩
        · exact .inl (.inr ⟨q, u, called, own, staged⟩)
        · split at staged <;> cases staged
    | forced block forced =>
        rcases threads_setThread (s := s) called with called | ⟨rfl, rfl⟩
        · exact .inl (.inr ⟨q, u, called, own, staged⟩)
        · cases staged
          exact .inr (.inl rfl)
    | dismissed other =>
        rcases threads_setThread (s := s) called with called | ⟨rfl, rfl⟩
        · exact .inl (.inr ⟨q, u, called, own, staged⟩)
        · cases staged
          exact .inr (.inl rfl)
    | leaving result =>
        rcases threads_setThread (s := { s with mgr := _ }) called with called | ⟨rfl, rfl⟩
        · exact .inl (.inr ⟨q, u, called, own, staged⟩)
        · cases staged
          exact .inr (.inl rfl)
    | wentOn result =>
        rcases threads_setThread (s := { s with mgr := _ }) called with called | ⟨rfl, rfl⟩
        · exact .inl (.inr ⟨q, u, called, own, staged⟩)
        · cases staged
          cases own
          exact .inr (.inr ⟨t.isForced, _, .inr ⟨q, t, found, rfl, here⟩, result⟩)
    | activated result => exact .inl (.inr ⟨q, u, called, own, staged⟩)
    | waited result => exact .inl (.inr ⟨q, u, called, own, staged⟩)
    | gaveBack result =>
        rcases threads_setThread (s := { s with mgr := _ }) called with called | ⟨rfl, rfl⟩
        · exact .inl (.inr ⟨q, u, called, own, staged⟩)
        · split at staged <;> cases staged
    | _ =>
        rcases threads_setThread (s := { s with mgr := _ }) called with called | ⟨rfl, rfl⟩
        · exact .inl (.inr ⟨q, u, called, own, staged⟩)
        · cases staged

theorem Returning.moved {id : EduId} {stage : ReturnStage} {returns : Nat → Option ReturnCall}
    {r : Nat} {call : Option ReturnCall} (returning : s'.Returning id stage)
    (moved : s'.returns = Function.update returns r call) (same : returns = s.returns)
    (threads : s'.threads = s.threads) :
    s.Returning id stage ∨ ∃ after, call = some after ∧ after.id = id ∧ after.stage = stage := by
  rcases returning with ⟨q, other, called, own, staged⟩ | inThread
  · rw [moved, same] at called
    rcases eq_or_ne q r with rfl | apart
    · rw [Function.update_self] at called
      exact .inr ⟨other, called, own, staged⟩
    · rw [Function.update_of_ne apart] at called
      exact .inl (.inl ⟨q, other, called, own, staged⟩)
  · rw [threads] at inThread
    exact .inl (.inr inThread)

/-- Every call of `returnEDU` stands where it stood, has just begun, or has gone on. -/
theorem exec_returning {action : EduAction} {id : EduId} {stage : ReturnStage}
    (completes : exec maxPool action s = some (reply, s')) (returning : s'.Returning id stage) :
    Arrives s s' maxPool id stage := by
  cases exec_step completes with
  | called => exact .inl returning
  | start found staged step => exact .inl (startStep_returning step returning)
  | asked =>
      rcases returning.moved rfl rfl rfl with old | ⟨after, same, own, staged⟩
      · exact .inl old
      · cases same
        exact .inr (.inl staged.symm)
  | wentOn found result =>
      rcases returning.moved rfl rfl rfl with old | ⟨after, same, own, staged⟩
      · exact .inl old
      · cases same
        cases own
        cases staged
        exact .inr (.inr ⟨_, _, .inl ⟨_, _, found, rfl, rfl⟩, result⟩)
  | ended found result =>
      rcases returning.moved rfl rfl rfl with old | ⟨after, same, -⟩
      · exact .inl old
      · cases same
  | thread found here step => exact threadStep_returning found here step returning
  | section_ change permits => exact .inl returning

/-! ### Calls of startEDU and threads -/

/-- The EDU that a call of `startEDU` has chosen or created. -/
def target : StartStage → Option (EduId × Ptr)
  | .createThread id p => some (id, p)
  | .post id p => some (id, p)
  | _ => none

theorem starts_setStart {c d : Nat} {call call' : StartCall} {stage : StartStage}
    (found : (s.setStart c call stage).starts d = some call') :
    s.starts d = some call' ∨ d = c ∧ call' = { call with stage := stage } := by
  rcases eq_or_ne d c with rfl | apart
  · exact .inr ⟨rfl, by simpa [setStart] using found.symm⟩
  · exact .inl (by simpa [setStart, Function.update_of_ne apart] using found)

theorem starts_endStart {c d : Nat} {call : StartCall}
    (found : (s.endStart c).starts d = some call) : d ≠ c ∧ s.starts d = some call := by
  rcases eq_or_ne d c with rfl | apart
  · cases (Function.update_self ..).symm.trans found
  · exact ⟨apart, by simpa [endStart, Function.update_of_ne apart] using found⟩

/-- Actions other than the calls themselves leave the calls of `startEDU` alone. -/
theorem threadStep_starts {p : Ptr} {t : EduThread} {pc : EduPc} {choice : EduChoice}
    (step : ThreadStep s maxPool p t pc choice reply s') : s'.starts = s.starts := by
  cases step <;> rfl

theorem threadStep_id {p q : Ptr} {t u : EduThread} {pc : EduPc} {choice : EduChoice}
    (found : s.threads p = some t) (step : ThreadStep s maxPool p t pc choice reply s')
    (after : s'.threads q = some u) : ∃ before, s.threads q = some before ∧ u.id = before.id := by
  cases step with
  | activated result => exact ⟨u, after, rfl⟩
  | waited result => exact ⟨u, after, rfl⟩
  | _ =>
      rcases threads_setThread (s := { s with mgr := _ }) after with old | ⟨rfl, rfl⟩
      · exact ⟨u, old, rfl⟩
      · exact ⟨t, found, rfl⟩

end EduSystem

end EmeraldDb
