/-
Module: EmeraldDb.Proofs.EduContracts
Purpose: The operations of the EDU manager do what their header says, or nothing.
Trusted boundary: none
Main exports: EduMgr.Placed, EduMgr.Consistent, EduMgr.OnlyAt, ManagerOp.Contract,
  operation_contract
-/
import EmeraldDb.Pmd.EduOperations
import EmeraldDb.Proofs.AgentSession
import EmeraldDb.Proofs.EduIdentity
import EmeraldDb.Proofs.EduStatus

namespace EmeraldDb

namespace EduMgr

variable {s s' : EduMgr} {id other : EduId} {p q : Ptr} {cb cb' : ControlBlock}

/-! ### Consistent managers -/

/-- An id is in neither queue, or in one of them alone with a status of that queue. -/
inductive Placed (s : EduMgr) (id : EduId) : Prop where
  | absent (run : s.runQueue.lookup id = none) (idle : s.idleQueue.lookup id = none)
  | busy {p : Ptr} {cb : ControlBlock} (run : s.runQueue.lookup id = some p)
      (idle : s.idleQueue.lookup id = none) (block : s.blocks p = some cb)
      (status : cb.status.isBusy = true)
  | pooled {p : Ptr} {cb : ControlBlock} (run : s.runQueue.lookup id = none)
      (idle : s.idleQueue.lookup id = some p) (block : s.blocks p = some cb)
      (status : cb.status = .idle)

/-- The queues are disjoint, membership agrees with the status, and each EDU has a control
block of its own. -/
structure Consistent (s : EduMgr) : Prop where
  placed : ∀ id, s.Placed id
  own : ∀ {id other p}, s.Queued id p → s.Queued other p → id = other

/-- The well-formed managers whose statuses agree are consistent. -/
theorem Consistent.of_wellFormed (formed : s.WellFormed) (agree : s.StatusesAgree) :
    s.Consistent := by
  constructor
  · intro id
    cases run : s.runQueue.lookup id with
    | none =>
        cases idle : s.idleQueue.lookup id with
        | none => exact .absent run idle
        | some p =>
            rcases formed.identified id p (.inr idle) with ⟨cb, block, -⟩
            exact .pooled run idle block (agree.idle id p cb idle block)
    | some p =>
        rcases formed.identified id p (.inl run) with ⟨cb, block, -⟩
        have ran : id ∈ s.runQueue.keys := Finmap.mem_keys.mpr (Finmap.mem_of_lookup_eq_some run)
        have idle : s.idleQueue.lookup id = none :=
          Finmap.lookup_eq_none.mpr fun idled =>
            Finset.disjoint_left.mp formed.disjoint ran (Finmap.mem_keys.mpr idled)
        exact .busy run idle block (agree.run id p cb run block)
  · intro id other p queued others
    rcases formed.identified id p queued with ⟨cb, block, same⟩
    rcases formed.identified other p others with ⟨cb', block', same'⟩
    cases block.symm.trans block'
    exact same.symm.trans same'

/-! ### What an operation may touch -/

/-- Nothing but the EDU `id` has changed, whose control block is at `p`. -/
structure OnlyAt (s : EduMgr) (id : EduId) (p : Ptr) (s' : EduMgr) : Prop where
  run : ∀ other, other ≠ id → s'.runQueue.lookup other = s.runQueue.lookup other
  idle : ∀ other, other ≠ id → s'.idleQueue.lookup other = s.idleQueue.lookup other
  block : ∀ q, q ≠ p → s'.blocks q = s.blocks q
  entry : ∀ q, s'.Queued id q → q = p
  rest : s' = { s with
    runQueue := s'.runQueue, idleQueue := s'.idleQueue, blocks := s'.blocks }

/-- No EDU but `id` is touched: each stands where it stood, over the same control block. -/
structure Untouched (s : EduMgr) (id : EduId) (s' : EduMgr) : Prop where
  run : ∀ other, other ≠ id → s'.runQueue.lookup other = s.runQueue.lookup other
  idle : ∀ other, other ≠ id → s'.idleQueue.lookup other = s.idleQueue.lookup other
  block : ∀ other p, other ≠ id → s.Queued other p → s'.blocks p = s.blocks p
  rest : s' = { s with
    runQueue := s'.runQueue, idleQueue := s'.idleQueue, blocks := s'.blocks }

theorem Untouched.refl (s : EduMgr) (id : EduId) : s.Untouched id s :=
  ⟨fun _ _ => rfl, fun _ _ => rfl, fun _ _ _ _ => rfl, rfl⟩

namespace OnlyAt

theorem untouched (only : s.OnlyAt id p s') (consistent : s.Consistent)
    (queued : s.Queued id p) : s.Untouched id s' where
  run := only.run
  idle := only.idle
  block other q apart found := by
    apply only.block
    rintro rfl
    exact apart (consistent.own found queued)
  rest := only.rest

theorem queued (only : s.OnlyAt id p s') (apart : other ≠ id) (found : s'.Queued other q) :
    s.Queued other q := by
  rcases found with run | idle
  · exact .inl ((only.run other apart).symm.trans run)
  · exact .inr ((only.idle other apart).symm.trans idle)

/-- A change of one EDU leaves the manager consistent when that EDU is. -/
theorem consistent (only : s.OnlyAt id p s') (consistent : s.Consistent)
    (queued : s.Queued id p) (placed : s'.Placed id) : s'.Consistent := by
  have untouched := only.untouched consistent queued
  constructor
  · intro other
    rcases eq_or_ne other id with rfl | apart
    · exact placed
    have run := only.run other apart
    have idle := only.idle other apart
    cases consistent.placed other with
    | absent ran idled => exact .absent (run.trans ran) (idle.trans idled)
    | busy ran idled block status =>
        exact .busy (run.trans ran) (idle.trans idled)
          ((untouched.block other _ apart (.inl ran)).trans block) status
    | pooled ran idled block status =>
        exact .pooled (run.trans ran) (idle.trans idled)
          ((untouched.block other _ apart (.inr idled)).trans block) status
  · intro first second q one two
    by_cases here : first = id
    · subst here
      by_contra apart
      have old := only.queued (Ne.symm apart) two
      rw [only.entry q one] at old
      exact apart (consistent.own queued old)
    · have old := only.queued here one
      by_cases there : second = id
      · subst there
        rw [only.entry q two] at old
        exact consistent.own old queued
      · exact consistent.own old (only.queued there two)

/-! The five changes of the operations. -/

theorem mark (run : s.runQueue.lookup id = some p) (idle : s.idleQueue.lookup id = none) :
    s.OnlyAt id p (s.setBlock p cb) where
  run _ _ := rfl
  idle _ _ := rfl
  block q apart := Function.update_of_ne apart ..
  entry q found := by
    rcases found with ran | idled
    · exact Option.some.inj (ran.symm.trans run)
    · cases idle.symm.trans idled
  rest := rfl

theorem moveToRun : s.OnlyAt id p ((s.moveToRun id p).setBlock p cb) where
  run other apart := by simp [EduMgr.setBlock, EduMgr.moveToRun, apart]
  idle other apart := by simp [EduMgr.setBlock, EduMgr.moveToRun, apart]
  block q apart := Function.update_of_ne apart ..
  entry q found := by
    simp only [Queued, EduMgr.setBlock, EduMgr.moveToRun, lookup_insert_queue,
      lookup_erase_queue, if_true, Option.some.injEq, reduceCtorEq, or_false] at found
    exact found.symm
  rest := rfl

theorem moveToIdle : s.OnlyAt id p ((s.moveToIdle id p).setBlock p cb) where
  run other apart := by simp [EduMgr.setBlock, EduMgr.moveToIdle, apart]
  idle other apart := by simp [EduMgr.setBlock, EduMgr.moveToIdle, apart]
  block q apart := Function.update_of_ne apart ..
  entry q found := by
    simp only [Queued, EduMgr.setBlock, EduMgr.moveToIdle, lookup_insert_queue,
      lookup_erase_queue, if_true, Option.some.injEq, reduceCtorEq, false_or] at found
    exact found.symm
  rest := rfl

theorem eraseRun (idle : s.idleQueue.lookup id = none) :
    s.OnlyAt id p ((s.eraseRun id).deleteBlock p) where
  run other apart := by simp [EduMgr.deleteBlock, EduMgr.eraseRun, apart]
  idle other apart := rfl
  block q apart := Function.update_of_ne apart ..
  entry q found := by simp [Queued, EduMgr.deleteBlock, EduMgr.eraseRun, idle] at found
  rest := rfl

theorem eraseIdle (run : s.runQueue.lookup id = none) :
    s.OnlyAt id p ((s.eraseIdle id).deleteBlock p) where
  run other apart := rfl
  idle other apart := by simp [EduMgr.deleteBlock, EduMgr.eraseIdle, apart]
  block q apart := Function.update_of_ne apart ..
  entry q found := by simp [Queued, EduMgr.deleteBlock, EduMgr.eraseIdle, run] at found
  rest := rfl

end OnlyAt

/-! ### The status of an EDU in a queue -/

theorem inRun_iff {status : EduStatus} (run : s.runQueue.lookup id = some p)
    (block : s.blocks p = some cb) : s.InRun id status ↔ cb.status = status := by
  constructor
  · rintro ⟨q, other, found, read, same⟩
    cases run.symm.trans found
    cases block.symm.trans read
    exact same
  · exact fun same => ⟨p, cb, run, block, same⟩

theorem inIdle_iff {status : EduStatus} (idle : s.idleQueue.lookup id = some p)
    (block : s.blocks p = some cb) : s.InIdle id status ↔ cb.status = status := by
  constructor
  · rintro ⟨q, other, found, read, same⟩
    cases idle.symm.trans found
    cases block.symm.trans read
    exact same
  · exact fun same => ⟨p, cb, idle, block, same⟩

theorem not_inRun {status : EduStatus} (run : s.runQueue.lookup id = none) :
    ¬ s.InRun id status := by
  rintro ⟨q, other, found, -⟩
  cases run.symm.trans found

theorem not_inIdle {status : EduStatus} (idle : s.idleQueue.lookup id = none) :
    ¬ s.InIdle id status := by
  rintro ⟨q, other, found, -⟩
  cases idle.symm.trans found

theorem isBusy_cases {status : EduStatus} (busy : status.isBusy = true) :
    status = .creating ∨ status = .running ∨ status = .waiting := by
  cases status <;> simp [EduStatus.isBusy] at busy ⊢

end EduMgr

/-! ### The contracts -/

namespace ManagerOp

variable {op : ManagerOp} {s s' : EduMgr} {id : EduId} {p : Ptr} {cb : ControlBlock}
  {rc : ReturnCode}

/-- The header's promise about one call: success exactly for the EDUs it accepts, the change
it names, and nothing else. -/
structure Contract (op : ManagerOp) (s : EduMgr) (id : EduId) (rc : ReturnCode)
    (s' : EduMgr) : Prop where
  ok_iff : rc = edbOk ↔ op.Accepts s id
  done : rc = edbOk → op.Done s' id
  failed : rc ≠ edbOk → s' = s
  untouched : s.Untouched id s'
  consistent : s'.Consistent

namespace Contract

theorem refused (consistent : s.Consistent) (error : rc ≠ edbOk) (refuses : ¬ op.Accepts s id) :
    Contract op s id rc s where
  ok_iff := iff_of_false error refuses
  done ok := absurd ok error
  failed _ := rfl
  untouched := .refl s id
  consistent := consistent

theorem already (consistent : s.Consistent) (accepts : op.Accepts s id) (done : op.Done s id) :
    Contract op s id edbOk s where
  ok_iff := iff_of_true rfl accepts
  done _ := done
  failed error := absurd rfl error
  untouched := .refl s id
  consistent := consistent

theorem changed (consistent : s.Consistent) (queued : s.Queued id p)
    (only : s.OnlyAt id p s') (accepts : op.Accepts s id) (done : op.Done s' id)
    (placed : s'.Placed id) : Contract op s id edbOk s' where
  ok_iff := iff_of_true rfl accepts
  done _ := done
  failed error := absurd rfl error
  untouched := only.untouched consistent queued
  consistent := only.consistent consistent queued placed

/-- The EDU stays in the run queue, with this control block. -/
theorem marked (cb : ControlBlock) (consistent : s.Consistent)
    (run : s.runQueue.lookup id = some p) (idle : s.idleQueue.lookup id = none)
    (busy : cb.status.isBusy = true) (accepts : op.Accepts s id)
    (done : (s.setBlock p cb).InRun id cb.status → op.Done (s.setBlock p cb) id) :
    Contract op s id edbOk (s.setBlock p cb) :=
  have block : (s.setBlock p cb).blocks p = some cb := Function.update_self ..
  .changed consistent (.inl run) (.mark run idle) accepts (done ⟨p, cb, run, block, rfl⟩)
    (.busy run idle block busy)

/-- The EDU moves to the run queue. -/
theorem movedToRun (cb : ControlBlock) (consistent : s.Consistent)
    (idle : s.idleQueue.lookup id = some p) (busy : cb.status.isBusy = true)
    (accepts : op.Accepts s id)
    (done : ((s.moveToRun id p).setBlock p cb).InRun id cb.status →
      op.Done ((s.moveToRun id p).setBlock p cb) id) :
    Contract op s id edbOk ((s.moveToRun id p).setBlock p cb) := by
  have run : ((s.moveToRun id p).setBlock p cb).runQueue.lookup id = some p :=
    Finmap.lookup_insert ..
  have left : ((s.moveToRun id p).setBlock p cb).idleQueue.lookup id = none :=
    Finmap.lookup_erase ..
  have block : ((s.moveToRun id p).setBlock p cb).blocks p = some cb := Function.update_self ..
  exact .changed consistent (.inr idle) .moveToRun accepts (done ⟨p, cb, run, block, rfl⟩)
    (.busy run left block busy)

/-- The EDU moves to the idle queue. -/
theorem movedToIdle (cb : ControlBlock) (consistent : s.Consistent)
    (run : s.runQueue.lookup id = some p) (pooled : cb.status = .idle)
    (accepts : op.Accepts s id)
    (done : ((s.moveToIdle id p).setBlock p cb).InIdle id .idle →
      op.Done ((s.moveToIdle id p).setBlock p cb) id) :
    Contract op s id edbOk ((s.moveToIdle id p).setBlock p cb) := by
  have idle : ((s.moveToIdle id p).setBlock p cb).idleQueue.lookup id = some p :=
    Finmap.lookup_insert ..
  have left : ((s.moveToIdle id p).setBlock p cb).runQueue.lookup id = none :=
    Finmap.lookup_erase ..
  have block : ((s.moveToIdle id p).setBlock p cb).blocks p = some cb := Function.update_self ..
  exact .changed consistent (.inl run) .moveToIdle accepts (done ⟨p, cb, idle, block, pooled⟩)
    (.pooled left idle block pooled)

/-- The EDU leaves the queues. -/
theorem gone (consistent : s.Consistent) (queued : s.Queued id p) (only : s.OnlyAt id p s')
    (accepts : op.Accepts s id) (run : s'.runQueue.lookup id = none)
    (idle : s'.idleQueue.lookup id = none) (done : s'.find id = none → op.Done s' id) :
    Contract op s id edbOk s' :=
  .changed consistent queued only accepts (done (by rw [EduMgr.find, run, idle]; rfl))
    (.absent run idle)

end Contract

/-! One operation after the other. -/

theorem activate_contract (consistent : s.Consistent) :
    ∃ rc s', s.activateEdu id = some (rc, s') ∧ Contract .activate s id rc s' := by
  cases consistent.placed id with
  | absent run idle =>
      have refuses : ¬ Accepts s id .activate := by simp [Accepts, EduMgr.find, run, idle]
      exact ⟨edbSys, s, by simp [EduMgr.activateEdu, run, idle],
        .refused consistent (by decide) refuses⟩
  | @pooled p cb run idle block status =>
      have accepts : Accepts s id .activate := by simp [Accepts, EduMgr.find, run, idle]
      exact ⟨_, _, by simp [EduMgr.activateEdu, idle, block, status],
        .movedToRun { cb with status := .running } consistent idle rfl accepts fun now => now⟩
  | @busy p cb run idle block status =>
      have accepts : Accepts s id .activate := by simp [Accepts, EduMgr.find, run]
      rcases EduMgr.isBusy_cases status with creating | running | waiting
      · exact ⟨_, _, by simp [EduMgr.activateEdu, idle, run, block, creating],
          .marked { cb with status := .running } consistent run idle rfl accepts fun now => now⟩
      · exact ⟨_, _, by simp [EduMgr.activateEdu, idle, run, block, running],
          .already consistent accepts ((EduMgr.inRun_iff run block).mpr running)⟩
      · exact ⟨_, _, by simp [EduMgr.activateEdu, idle, run, block, waiting],
          .marked { cb with status := .running } consistent run idle rfl accepts fun now => now⟩

theorem wait_contract (consistent : s.Consistent) :
    ∃ rc s', s.waitEdu id = some (rc, s') ∧ Contract .wait s id rc s' := by
  have outside (run : s.runQueue.lookup id = none) : ¬ Accepts s id .wait := by
    rintro (running | waiting)
    · exact EduMgr.not_inRun run running
    · exact EduMgr.not_inRun run waiting
  cases consistent.placed id with
  | absent run idle =>
      exact ⟨edbSys, s, by simp [EduMgr.waitEdu, run],
        .refused consistent (by decide) (outside run)⟩
  | pooled run idle block status =>
      exact ⟨edbSys, s, by simp [EduMgr.waitEdu, run],
        .refused consistent (by decide) (outside run)⟩
  | @busy p cb run idle block status =>
      have accepts : Accepts s id .wait ↔ cb.status = .running ∨ cb.status = .waiting :=
        or_congr (EduMgr.inRun_iff run block) (EduMgr.inRun_iff run block)
      rcases EduMgr.isBusy_cases status with creating | running | waiting
      · exact ⟨edbEduInvalStatus, s, by simp [EduMgr.waitEdu, run, block, creating],
          .refused consistent (by decide) (by simp [accepts, creating])⟩
      · exact ⟨_, _, by simp [EduMgr.waitEdu, run, block, running],
          .marked { cb with status := .waiting } consistent run idle rfl
            (accepts.mpr (.inl running)) fun now => now⟩
      · exact ⟨_, _, by simp [EduMgr.waitEdu, run, block, waiting],
          .already consistent (accepts.mpr (.inr waiting))
            ((EduMgr.inRun_iff run block).mpr waiting)⟩

/-- Both operations that take an EDU out of the run queue accept the same EDUs. -/
theorem leaves_iff (run : s.runQueue.lookup id = some p) (idle : s.idleQueue.lookup id = none)
    (block : s.blocks p = some cb) :
    Accepts s id .destroy ↔ cb.status = .waiting ∨ cb.status = .creating := by
  simp only [Accepts, EduMgr.inRun_iff run block, EduMgr.not_inIdle idle, false_or]

theorem not_leaves (run : s.runQueue.lookup id = none) (idle : s.idleQueue.lookup id = none) :
    ¬ Accepts s id .destroy := by
  simp only [Accepts, EduMgr.not_inRun run, EduMgr.not_inIdle idle, or_false, not_false_iff]

theorem deactivate_contract (consistent : s.Consistent) :
    ∃ rc s', s.deactivateEdu id = some (rc, s') ∧ Contract .deactivate s id rc s' := by
  cases consistent.placed id with
  | absent run idle =>
      exact ⟨edbSys, s, by simp [EduMgr.deactivateEdu, run, idle],
        .refused consistent (by decide) (not_leaves run idle)⟩
  | pooled run idle block status =>
      have pooled := (EduMgr.inIdle_iff idle block).mpr status
      exact ⟨edbOk, s, by simp [EduMgr.deactivateEdu, run, idle],
        .already consistent (.inl pooled) pooled⟩
  | @busy p cb run idle block status =>
      have accepts := leaves_iff run idle block
      rcases EduMgr.isBusy_cases status with creating | running | waiting
      · exact ⟨_, _, by simp [EduMgr.deactivateEdu, run, block, creating],
          .movedToIdle { cb with status := .idle } consistent run rfl
            (accepts.mpr (.inr creating)) fun now => now⟩
      · have refuses : ¬ Accepts s id .destroy := by simp [accepts, running]
        exact ⟨edbEduInvalStatus, s, by simp [EduMgr.deactivateEdu, run, block, running],
          .refused consistent (by decide) refuses⟩
      · exact ⟨_, _, by simp [EduMgr.deactivateEdu, run, block, waiting],
          .movedToIdle { cb with status := .idle } consistent run rfl
            (accepts.mpr (.inl waiting)) fun now => now⟩

theorem destroy_contract (consistent : s.Consistent) :
    ∃ rc s', s.destroyEdu id = some (rc, s') ∧ Contract .destroy s id rc s' := by
  cases consistent.placed id with
  | absent run idle =>
      exact ⟨edbSys, s, by simp [EduMgr.destroyEdu, run, idle],
        .refused consistent (by decide) (not_leaves run idle)⟩
  | @pooled p cb run idle block status =>
      exact ⟨_, _, by simp [EduMgr.destroyEdu, run, idle, block, status],
        .gone consistent (.inr idle) (.eraseIdle run)
          (.inl ((EduMgr.inIdle_iff idle block).mpr status)) run (Finmap.lookup_erase ..)
          fun now => now⟩
  | @busy p cb run idle block status =>
      have accepts := leaves_iff run idle block
      have leaves (ready : cb.status = .waiting ∨ cb.status = .creating) :
          Contract .destroy s id edbOk ((s.eraseRun id).deleteBlock p) :=
        .gone consistent (.inl run) (.eraseRun idle) (accepts.mpr ready)
          (Finmap.lookup_erase ..) idle fun now => now
      rcases EduMgr.isBusy_cases status with creating | running | waiting
      · exact ⟨_, _, by simp [EduMgr.destroyEdu, run, block, creating], leaves (.inr creating)⟩
      · exact ⟨edbEduInvalStatus, s, by simp [EduMgr.destroyEdu, run, block, running],
          .refused consistent (by decide) (by simp [accepts, running])⟩
      · exact ⟨_, _, by simp [EduMgr.destroyEdu, run, block, waiting], leaves (.inl waiting)⟩

theorem work_contract (op : ManagerOp) (consistent : s.Consistent) :
    ∃ rc s', op.work id s = some (rc, s') ∧ Contract op s id rc s' := by
  cases op with
  | activate => exact activate_contract consistent
  | wait => exact wait_contract consistent
  | deactivate => exact deactivate_contract consistent
  | destroy => exact destroy_contract consistent

end ManagerOp

/-! ### The latch -/

namespace LatchedMgr

variable {work : EduMgr → Option (ReturnCode × EduMgr)} {s : LatchedMgr} {rc : ReturnCode}
  {mgr : EduMgr}

/-- Work under the latch returns when the latch can be had, and gives it back. -/
theorem exclusively_some (result : work s.mgr = some (rc, mgr)) :
    s.exclusively work = if s.latch.get.isSome then some (rc, ⟨s.latch, mgr⟩) else none := by
  unfold exclusively
  cases taken : s.latch.get with
  | none => rfl
  | some held =>
      obtain ⟨free, freed⟩ := OssSLatch.get_some taken
      simp only [Option.bind_some, result, Option.map_some, freed, free, Option.isSome_some,
        if_true]

theorem shared_some (result : work s.mgr = some (rc, mgr)) :
    s.shared work = if s.latch.getShared.isSome then some (rc, ⟨s.latch, mgr⟩) else none := by
  unfold shared
  cases taken : s.latch.getShared with
  | none => rfl
  | some held =>
      obtain ⟨-, -, freed⟩ := OssSLatch.getShared_some taken
      simp only [Option.bind_some, result, Option.map_some, freed, Option.isSome_some, if_true]

end LatchedMgr

theorem ManagerOp.perform_some {op : ManagerOp} {id : EduId} {s : LatchedMgr} {rc : ReturnCode}
    {mgr : EduMgr} (result : op.work id s.mgr = some (rc, mgr)) :
    op.perform id s = if op.available s.latch then some (rc, ⟨s.latch, mgr⟩) else none := by
  cases op with
  | wait => exact LatchedMgr.shared_some result
  | activate => exact LatchedMgr.exclusively_some result
  | deactivate => exact LatchedMgr.exclusively_some result
  | destroy => exact LatchedMgr.exclusively_some result

/-- A call returns once the latch can be had.  It has then released the latch, and it has
done what its header says or nothing. -/
theorem operation_contract (op : ManagerOp) (id : EduId) {s : LatchedMgr}
    (consistent : s.mgr.Consistent) :
    ((op.perform id s).isSome ↔ op.available s.latch = true) ∧
      ∀ rc s', op.perform id s = some (rc, s') →
        s'.latch = s.latch ∧ op.Contract s.mgr id rc s'.mgr := by
  rcases op.work_contract consistent with ⟨rc, mgr, result, contract⟩
  rw [ManagerOp.perform_some result]
  constructor
  · split <;> simp_all
  · intro rc' s' returned
    split at returned
    · cases returned
      exact ⟨rfl, contract⟩
    · cases returned

theorem oneEdu_consistent : oneEdu.Consistent := by
  have run (id : EduId) : oneEdu.runQueue.lookup id = if id = 1 then some 0 else none :=
    lookup_insert_queue ∅ 1 id 0
  constructor
  · intro id
    rcases eq_or_ne id 1 with rfl | apart
    · exact .busy (run 1) rfl rfl rfl
    · exact .absent ((run id).trans (if_neg apart)) rfl
  · have one {id p} (queued : oneEdu.Queued id p) : id = 1 := by
      rcases queued with ran | idled
      · by_contra apart
        cases ran.symm.trans ((run id).trans (if_neg apart))
      · cases idled
    exact fun {id other p} first second => (one first).trans (one second).symm

/-- A new EDU can be activated. -/
theorem operation_contract_new :
    ∃ s', ManagerOp.activate.perform 1 ⟨.init, oneEdu⟩ = some (edbOk, s') ∧
      s'.latch = .init ∧ ManagerOp.activate.Contract oneEdu 1 edbOk s'.mgr := by
  obtain ⟨returns, contract⟩ := operation_contract .activate 1
    (s := ⟨.init, oneEdu⟩) oneEdu_consistent
  rcases Option.isSome_iff_exists.mp (returns.mpr rfl) with ⟨⟨rc, s'⟩, result⟩
  obtain ⟨latch, kept⟩ := contract rc s' result
  have known : oneEdu.find 1 = some 0 := by rw [EduMgr.find, oneEdu_registered.run]; rfl
  have accepts : ManagerOp.activate.Accepts oneEdu 1 := by simp [ManagerOp.Accepts, known]
  obtain rfl := kept.ok_iff.mpr accepts
  exact ⟨s', result, latch, kept⟩

end EmeraldDb
