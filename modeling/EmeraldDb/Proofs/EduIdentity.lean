/-
Module: EmeraldDb.Proofs.EduIdentity
Purpose: The two queues are disjoint and hold control blocks under their own ids, no id
  is handed out twice, and only poolable EDUs are idle.
Trusted boundary: none
Main exports: EduMgr.WellFormed, EduSystem.Typed, EduSystem.KeepsPooled, handedOut,
  queues_wellFormed_iff, failedThread_dangles
-/
import EmeraldDb.Proofs.EduStructure

namespace EmeraldDb

namespace EduSystem

variable {s s' : EduSystem} {maxPool : Nat} {reply : EduReply} {action : EduAction}
  {id : EduId} {p : Ptr} {cb : ControlBlock}

/-! ### Types -/

/-- What the calls of `returnEDU` have read about the types: only poolable EDUs are idle
or on the way to the idle queue. -/
structure Typed (s : EduSystem) : Prop where
  idle : ∀ {id p cb}, s.mgr.idleQueue.lookup id = some p → s.mgr.blocks p = some cb →
    isPoolable cb.type = true
  flags : ∀ {id type p cb}, s.Returning id (.flags type) → isPoolable type = true →
    s.mgr.Queued id p → s.mgr.blocks p = some cb → isPoolable cb.type = true
  pooling : ∀ {id stage p cb}, s.Returning id stage → stage = .size ∨ stage = .deactivate →
    s.mgr.Queued id p → s.mgr.blocks p = some cb → isPoolable cb.type = true

theorem init_typed : init.Typed where
  idle found := by cases found
  flags returning := by
    rcases returning with ⟨r, call, found, -⟩ | ⟨p, t, found, -⟩ <;> cases found
  pooling returning := by
    rcases returning with ⟨r, call, found, -⟩ | ⟨p, t, found, -⟩ <;> cases found

/-- An EDU that was created and was poolable stays poolable. -/
theorem Structured.staysPoolable {label : EduLabel} {mgr : EduMgr}
    (structured : s.mgr.Structured) (change : s.mgr.Change label mgr)
    (created : id < s.mgr.nextId) (queued : mgr.Queued id p) (block : mgr.blocks p = some cb)
    (before : ∀ old, s.mgr.Queued id p → s.mgr.blocks p = some old →
      isPoolable old.type = true) : isPoolable cb.type = true := by
  rcases change.queued queued with old | ⟨-, new, -⟩
  · rcases change.block block with ⟨-, rfl, -⟩ | ⟨was, found, -, same | ⟨poolable, -⟩⟩
    · exact absurd (structured.queued old).2 (Nat.lt_irrefl _)
    · rw [same]
      exact before was old found
    · exact poolable
  · exact absurd new (Nat.ne_of_lt created)

theorem Typed.step (typed : s.Typed) (structured : s.Structured)
    (completes : exec maxPool action s = some (reply, s')) : s'.Typed := by
  rcases exec_change completes with ⟨label, change, permits⟩
  constructor
  · intro id p cb idled block
    have created : id < s.mgr.nextId := by
      rcases change.idled idled with old | ⟨-, old⟩
      · rw [structured.mgr.numbered, (structured.mgr.idled old).1]
        exact Nat.succ_lt_succ (structured.mgr.idled old).2
      · rw [structured.mgr.numbered, (structured.mgr.ran old).1]
        exact Nat.succ_lt_succ (structured.mgr.ran old).2
    apply Structured.staysPoolable structured.mgr change created (.inr idled) block
    intro before queued found
    rcases change.idled idled with old | ⟨rfl, old⟩
    · exact typed.idle old found
    · exact typed.pooling permits.returning (.inr rfl) queued found
  · intro id type p cb returning poolable queued block
    rcases exec_returning completes returning with old | start | ⟨force, before, old, went⟩
    · exact Structured.staysPoolable structured.mgr change (structured.returning old (by simp))
        queued block fun before queued found => typed.flags old poolable queued found
    · cases start
    · rcases EduMgr.returnEdu_goesOn went with
        ⟨same, ⟨rfl, q, was, found, there, next⟩ | ⟨type, rfl, next | ⟨next, -⟩⟩ |
          ⟨rfl, next | ⟨next, -⟩⟩⟩
      · rw [same] at queued block
        cases found.symm.trans (EduMgr.find_of_queued structured.mgr queued)
        cases there.symm.trans block
        cases next
        exact poolable
      all_goals cases next
  · intro id stage p cb returning staged queued block
    rcases exec_returning completes returning with old | start | ⟨force, before, old, went⟩
    · have moved : stage ≠ .lookup := by
        rcases staged with rfl | rfl <;> simp
      exact Structured.staysPoolable structured.mgr change (structured.returning old moved)
        queued block fun before queued found => typed.pooling old staged queued found
    · rw [start] at staged
      rcases staged with staged | staged <;> cases staged
    · rcases EduMgr.returnEdu_goesOn went with
        ⟨same, ⟨rfl, q, was, found, there, next⟩ | ⟨type, rfl, next | ⟨next, poolable, -⟩⟩ |
          ⟨rfl, next | ⟨next, -⟩⟩⟩
      · rw [next] at staged
        rcases staged with staged | staged <;> cases staged
      · rw [next] at staged
        rcases staged with staged | staged <;> cases staged
      · rw [same] at queued block
        exact typed.flags old poolable queued block
      · rw [next] at staged
        rcases staged with staged | staged <;> cases staged
      · rw [same] at queued block
        exact typed.pooling old (.inl rfl) queued block

end EduSystem

theorem EduRun.typed {maxPool : Nat} {allowed : EduTrace → EduSystem → EduAction → Prop}
    {trace : EduTrace} {s : EduSystem} (run : EduRun maxPool allowed trace s) : s.Typed := by
  induction run with
  | start => exact EduSystem.init_typed
  | step past guard completes typed =>
      exact typed.step (EduRun.structured past) completes

/-! ### Ids -/

/-- The id that a transition hands out. -/
def handedOut (t : Transition EduSystem EduAction EduReply) : Option EduId :=
  match t.action with
  | .stepStart c _ =>
      (t.pre.starts c).bind fun call =>
        if call.stage = .createInsert then
          (t.post.starts c).bind fun after => (EduSystem.target after.stage).map Prod.fst
        else none
  | _ => none

theorem handedOut_eq {s s' : EduSystem} {maxPool : Nat} {action : EduAction}
    {reply : EduReply} {id : EduId}
    (completes : EduSystem.exec maxPool action s = some (reply, s'))
    (issued : handedOut ⟨s, action, reply, s'⟩ = some id) :
    id = s.mgr.nextId ∧ s'.mgr.nextId = s.mgr.nextId + 1 := by
  cases action with
  | stepStart c granted =>
      rcases Option.bind_eq_some_iff.mp completes with ⟨call, found, stepped⟩
      have step := EduSystem.stepStart_step stepped
      simp only [handedOut, found, Option.bind_some] at issued
      split_ifs at issued with staged
      rcases Option.bind_eq_some_iff.mp issued with ⟨after, there, aims⟩
      rw [staged] at step
      cases step with
      | quiesced tests quiesced => simp [EduSystem.endStart] at there
      | unplaced result => simp [EduSystem.endStart] at there
      | placed result =>
          rcases EduMgr.insertEdu_change result with ⟨same, created⟩
          cases same
          simp only [EduSystem.setStart, Function.update_self, Option.some.injEq] at there
          cases there
          cases aims
          cases created
          exact ⟨rfl, rfl⟩
  | _ => cases issued

theorem EduMgr.Change.nextId_le {s s' : EduMgr} {label : EduLabel}
    (change : s.Change label s') (structured : s.Structured) : s.nextId ≤ s'.nextId := by
  rw [structured.numbered, (change.structured structured).numbered]
  exact Nat.succ_le_succ change.issued

/-- No id is handed out twice, and the next one is beyond all of them. -/
theorem handedOut_nodup {maxPool : Nat} {allowed : EduTrace → EduSystem → EduAction → Prop}
    {trace : EduTrace} {s : EduSystem} (run : EduRun maxPool allowed trace s) :
    (trace.filterMap handedOut).Nodup ∧
      ∀ id ∈ trace.filterMap handedOut, id < s.mgr.nextId := by
  induction run with
  | start => simp
  | @step trace state next action reply past guard completes ih =>
      rcases ih with ⟨distinct, below⟩
      rcases EduSystem.exec_change completes with ⟨label, change, -⟩
      have grown := change.nextId_le (EduRun.structured past).mgr
      rw [List.filterMap_append]
      cases issued : handedOut ⟨state, action, reply, next⟩ with
      | none =>
          simp only [List.filterMap_cons, issued, List.filterMap_nil, List.append_nil]
          exact ⟨distinct, fun id member => Nat.lt_of_lt_of_le (below id member) grown⟩
      | some id =>
          rcases handedOut_eq completes issued with ⟨rfl, following⟩
          simp only [List.filterMap_cons, issued, List.filterMap_nil]
          constructor
          · apply distinct.append (List.nodup_singleton _)
            rw [List.disjoint_singleton]
            exact fun member => Nat.lt_irrefl _ (below _ member)
          · intro id member
            rw [following]
            rcases List.mem_append.mp member with old | new
            · exact Nat.lt_succ_of_lt (below id old)
            · rw [List.mem_singleton.mp new]
              exact Nat.lt_succ_self _

/-! ### The queues -/

/-- What the manager's queues promise: an id is in one of them at most, its control block
is there and has that id, ids are those handed out so far, and the idle ones are poolable;
so that the next control block finds its id unused. -/
structure EduMgr.WellFormed (s : EduMgr) : Prop where
  disjoint : Disjoint s.runQueue.keys s.idleQueue.keys
  identified : ∀ id p, s.Queued id p → ∃ cb, s.blocks p = some cb ∧ cb.id = id
  inRange : ∀ id p, s.Queued id p → 1 ≤ id ∧ id < s.nextId
  poolable : ∀ id p cb, s.idleQueue.lookup id = some p → s.blocks p = some cb →
    isPoolable cb.type = true
  placeable : ∀ type, (s.insertEdu type).1 = some (s.nextId, s.nextPtr)

namespace EduSystem

variable {s s' : EduSystem} {maxPool : Nat} {reply : EduReply} {action : EduAction}

theorem Structured.wellFormed_iff (structured : s.Structured) (typed : s.Typed) :
    s.mgr.WellFormed ↔ s.mgr.Live := by
  have mgr := structured.mgr
  constructor
  · intro formed id p queued
    rcases formed.identified id p queued with ⟨cb, block, -⟩
    exact ⟨cb, block⟩
  · intro live
    constructor
    · rw [Finset.disjoint_left]
      intro id ran idled
      rcases Option.isSome_iff_exists.mp (Finmap.lookup_isSome.mpr (Finmap.mem_keys.mp ran)) with
        ⟨p, found⟩
      exact Finmap.lookup_eq_none.mp (mgr.apart found) (Finmap.mem_keys.mp idled)
    · intro id p queued
      rcases live id p queued with ⟨cb, block⟩
      exact ⟨cb, block, (mgr.allocated block).1.trans (mgr.queued queued).1.symm⟩
    · intro id p queued
      rcases mgr.queued queued with ⟨rfl, below⟩
      rw [mgr.numbered]
      exact ⟨Nat.succ_pos p, Nat.succ_lt_succ below⟩
    · intro id p cb idled block
      exact typed.idle idled block
    · intro type
      simp [EduMgr.insertEdu, mgr.fresh.1, mgr.fresh.2]

/-- If the creation of a thread fails here, its EDU is not in the idle queue. -/
def FailsOutsidePool (s : EduSystem) (action : EduAction) : Prop :=
  ∀ id p, s.FailsThread action id p → s.mgr.idleQueue.lookup id = none

/-- A failed creation of a thread deletes the control block and leaves the idle queue. -/
theorem exec_failsThread {id : EduId} {p : Ptr}
    (completes : exec maxPool action s = some (reply, s')) (fails : s.FailsThread action id p) :
    s'.mgr = (s.mgr.eraseRun id).deleteBlock p := by
  rcases fails with ⟨c, call, rfl, found, staged⟩
  rcases Option.bind_eq_some_iff.mp completes with ⟨same, found', stepped⟩
  cases found.symm.trans found'
  have step := stepStart_step stepped
  rw [staged] at step
  cases step with
  | quiesced tests => rcases tests with tests | tests <;> cases tests
  | failed result =>
      simp only [EduMgr.rollbackEdu, Option.map_eq_some_iff] at result
      rcases result with ⟨cb, -, rfl⟩
      rfl

theorem Structured.live_step (structured : s.Structured) (live : s.mgr.Live)
    (completes : exec maxPool action s = some (reply, s')) :
    s'.mgr.Live ↔ s.FailsOutsidePool action := by
  constructor
  · intro after id p fails
    have left := exec_failsThread completes fails
    rcases fails with ⟨c, call, -, found, staged⟩
    have named := structured.starts found (by rw [staged]; rfl)
    cases idled : s.mgr.idleQueue.lookup id with
    | none => rfl
    | some q =>
        have same : q = p := Nat.succ.inj ((structured.mgr.idled idled).1.symm.trans named.1)
        rcases after id q (.inr (by rw [left]; exact idled)) with ⟨cb, block⟩
        rw [left, same] at block
        simp [EduMgr.deleteBlock] at block
  · intro outside
    rcases exec_change completes with ⟨label, change, permits⟩
    apply change.live structured.mgr live
    rintro id p rfl
    have absent := outside id p permits
    rcases permits with ⟨c, call, -, found, staged⟩
    exact ⟨(structured.starts found (by rw [staged]; rfl)).1, absent⟩

theorem init_wellFormed : init.mgr.WellFormed :=
  (init_structured.wellFormed_iff init_typed).mpr fun id p queued => by
    rcases queued with found | found <;> cases found

theorem wellFormed_step (structured : s.Structured) (typed : s.Typed)
    (formed : s.mgr.WellFormed) (completes : exec maxPool action s = some (reply, s')) :
    s'.mgr.WellFormed ↔ s.FailsOutsidePool action := by
  rw [(structured.step completes).wellFormed_iff (typed.step structured completes)]
  exact structured.live_step ((structured.wellFormed_iff typed).mp formed) completes

end EduSystem

/-- The queues stay well formed in a run, and no id is handed out twice, exactly if no
creation of a thread fails whose EDU another call has put into the idle queue. -/
theorem queues_wellFormed_iff {maxPool : Nat}
    {allowed : EduTrace → EduSystem → EduAction → Prop} {trace : EduTrace} {s : EduSystem}
    (run : EduRun maxPool allowed trace s) :
    ((trace.filterMap handedOut).Nodup ∧ ∀ t ∈ trace, t.post.mgr.WellFormed) ↔
      ∀ t ∈ trace, t.pre.FailsOutsidePool t.action := by
  have agree := (run.holds_iff (fun past => And.intro (EduRun.structured past) (EduRun.typed past))
    EduSystem.init_wellFormed fun always formed _ completes =>
      EduSystem.wellFormed_step always.1 always.2 formed completes).1
  rw [← agree]
  exact and_iff_right (handedOut_nodup run).1

/-- startEDU of an agent up to the creation of its thread, which fails after another
thread has called returnEDU on the new EDU. -/
def failedThreadRun : List EduAction :=
  [.startEdu .agent 7, .stepStart 0 true, .stepStart 0 true, .stepStart 0 true,
    .stepStart 0 true, .returnEdu 1 false, .stepReturn 0, .stepReturn 0, .stepReturn 0,
    .stepReturn 0, .stepStart 0 false]

theorem failedThreadRun_follows :
    ∃ trace s, EduRun 5 (fun _ _ _ => True) trace s ∧
      s.mgr.idleQueue.lookup 1 = some 0 ∧ s.mgr.blocks 0 = none := by
  have ends : (Run.follow (EduSystem.exec 5) (fun _ _ => true) failedThreadRun .init).map
      (fun s => (s.mgr.idleQueue.lookup 1, (s.mgr.blocks 0).isNone)) = some (some 0, true) := rfl
  rcases Option.map_eq_some_iff.mp ends with ⟨s, followed, seen⟩
  rcases Run.of_follow (fun _ => trivial) .start followed with ⟨trace, run⟩
  exact ⟨_, s, run, congrArg Prod.fst seen, by simpa using congrArg Prod.snd seen⟩

theorem queues_wellFormed_iff_failedThread :
    ∃ trace s, EduRun 5 (fun _ _ _ => True) trace s ∧ s.mgr.idleQueue.lookup 1 = some 0 ∧
      (((trace.filterMap handedOut).Nodup ∧ ∀ t ∈ trace, t.post.mgr.WellFormed) ↔
        ∀ t ∈ trace, t.pre.FailsOutsidePool t.action) := by
  rcases failedThreadRun_follows with ⟨trace, s, run, idled, -⟩
  exact ⟨trace, s, run, idled, queues_wellFormed_iff run⟩

/-- The idle queue keeps the pointer to the deleted control block. -/
theorem failedThread_dangles :
    ∃ trace s, EduRun 5 (fun _ _ _ => True) trace s ∧ s.mgr.idleQueue.lookup 1 = some 0 ∧
      s.mgr.blocks 0 = none ∧ ¬ s.mgr.WellFormed := by
  rcases failedThreadRun_follows with ⟨trace, s, run, idled, deleted⟩
  refine ⟨trace, s, run, idled, deleted, fun formed => ?_⟩
  rcases formed.identified 1 0 (.inr idled) with ⟨cb, block, -⟩
  cases deleted.symm.trans block

end EmeraldDb
