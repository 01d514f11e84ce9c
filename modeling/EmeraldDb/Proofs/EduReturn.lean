/-
Module: EmeraldDb.Proofs.EduReturn
Purpose: returnEDU tells its caller that the EDU is gone exactly when it is, provided that
  it found the EDU.
Trusted boundary: none
Main exports: EduMgr.finishReturn, EduMgr.TellsTruth, EduMgr.LeavesTwin,
  returnEdu_tellsTruth_iff, unknownEdu_misreported
-/
import EmeraldDb.Pmd.EduSystem
import EmeraldDb.Proofs.EduContracts

namespace EmeraldDb

namespace EduMgr

variable {s s' : EduMgr} {maxPool : Nat} {id : EduId} {p q : Ptr} {cb : ControlBlock}
  {force : Bool} {rc : ReturnCode}

/-! ### The stages of a call -/

/-- The stages of a call one after the other, with no other thread in between. -/
def finishReturn (maxPool : Nat) (id : EduId) (force : Bool) :
    Nat → ReturnStage → EduMgr → Option ((ReturnCode × Bool) × EduMgr)
  | 0, _, _ => none
  | steps + 1, stage, s =>
      (s.returnEdu maxPool id force stage).bind fun
        | (.returns rc destroyed, s) => some ((rc, destroyed), s)
        | (.goesOn next, s) => finishReturn maxPool id force steps next s

/-- From the flags on, the call destroys the EDU or pools it. -/
theorem finishReturn_flags (steps : Nat) (type : EduType) :
    finishReturn maxPool id force (steps + 3) (.flags type) s =
      if s.destroys maxPool type force then
        (s.destroyEdu id).map fun (rc, s) => ((rc, decide (rc = edbOk ∨ rc = edbSys)), s)
      else (s.deactivateEdu id).map fun (rc, s) => ((rc, decide (rc = edbSys)), s) := by
  have destroy (steps : Nat) : finishReturn maxPool id force (steps + 1) .destroy s =
      (s.destroyEdu id).map fun (rc, s) => ((rc, decide (rc = edbOk ∨ rc = edbSys)), s) := by
    cases result : s.destroyEdu id <;> simp [finishReturn, returnEdu, result]
  have deactivate (steps : Nat) : finishReturn maxPool id force (steps + 1) .deactivate s =
      (s.deactivateEdu id).map fun (rc, s) => ((rc, decide (rc = edbSys)), s) := by
    cases result : s.deactivateEdu id <;> simp [finishReturn, returnEdu, result]
  have size (steps : Nat) : finishReturn maxPool id force (steps + 2) .size s =
      if maxPool < s.size then finishReturn maxPool id force (steps + 1) .destroy s
      else finishReturn maxPool id force (steps + 1) .deactivate s := by
    rw [finishReturn, returnEdu]
    split <;> rfl
  rw [finishReturn, returnEdu]
  by_cases flagged : isPoolable type = false ∨ force ∨ s.isDestroyed
  · have destroys : s.destroys maxPool type force = true := by
      rcases flagged with flag | flag | flag <;> simp [destroys, flag]
    rw [if_pos flagged, if_pos destroys]
    exact destroy (steps + 1)
  · have same : s.destroys maxPool type force = decide (maxPool < s.size) := by
      simp_all [destroys]
    rw [if_neg flagged, same]
    refine (size steps).trans ?_
    rw [destroy, deactivate]
    simp only [decide_eq_true_eq]

/-- A call is its stages one after the other. -/
theorem finishReturn_lookup (steps : Nat) :
    finishReturn maxPool id force (steps + 4) .lookup s = s.returnEduCall maxPool id force := by
  rw [finishReturn, returnEdu, returnEduCall]
  cases found : s.find id with
  | none => rfl
  | some p =>
      cases block : s.blocks p with
      | none =>
          simp only [block]
          rfl
      | some cb =>
          simp only [block]
          exact finishReturn_flags steps cb.type

/-! ### What the call reports -/

/-- Whenever the call returns, `*destroyed` says whether the EDU is in neither queue. -/
def TellsTruth (s : EduMgr) (maxPool : Nat) (id : EduId) (force : Bool) : Prop :=
  ∀ rc destroyed s', s.returnEduCall maxPool id force = some ((rc, destroyed), s') →
    (destroyed = true ↔ s'.find id = none)

/-- The id is in both queues, and the call takes it out of the run queue only. -/
def LeavesTwin (s : EduMgr) (maxPool : Nat) (id : EduId) (force : Bool) : Prop :=
  (s.idleQueue.lookup id).isSome ∧ ∃ p cb, s.runQueue.lookup id = some p ∧
    s.blocks p = some cb ∧ s.destroys maxPool cb.type force = true ∧
      (cb.status = .waiting ∨ cb.status = .creating)

theorem leavesTwin_iff (found : s.find id = some p) (block : s.blocks p = some cb) :
    s.LeavesTwin maxPool id force ↔ (s.idleQueue.lookup id).isSome ∧
      s.runQueue.lookup id = some p ∧ s.destroys maxPool cb.type force = true ∧
        (cb.status = .waiting ∨ cb.status = .creating) := by
  constructor
  · rintro ⟨idle, q, other, run, read, rest⟩
    obtain rfl : q = p := by simpa [find, run] using found
    cases block.symm.trans read
    exact ⟨idle, run, rest⟩
  · rintro ⟨idle, run, rest⟩
    exact ⟨idle, p, cb, run, block, rest⟩

theorem not_leavesTwin_of_disjoint
    (disjoint : s.runQueue.lookup id = none ∨ s.idleQueue.lookup id = none) :
    ¬ s.LeavesTwin maxPool id force := by
  rintro ⟨idle, p, cb, run, -⟩
  rcases disjoint with absent | absent
  · cases run.symm.trans absent
  · simp [absent] at idle

/-- `_deactivateEDU` of a known EDU leaves it known and does not answer `EDB_SYS`. -/
theorem deactivateEdu_known (known : s.find id ≠ none)
    (result : s.deactivateEdu id = some (rc, s')) : rc ≠ edbSys ∧ s'.find id ≠ none := by
  unfold deactivateEdu at result
  cases run : s.runQueue.lookup id with
  | none =>
      cases idle : s.idleQueue.lookup id with
      | none => simp [find, run, idle] at known
      | some p =>
          simp only [run, idle] at result
          cases result
          exact ⟨by decide, known⟩
  | some p =>
      simp only [run, Option.bind_eq_some_iff] at result
      rcases result with ⟨cb, -, result⟩
      split_ifs at result <;> cases result
      · exact ⟨by decide, known⟩
      · exact ⟨by decide, known⟩
      · exact ⟨by decide, by simp [find, setBlock, moveToIdle]⟩

/-- `_destroyEDU` of a known EDU answers `EDB_OK` and has taken it out of the queue where
it was found first, or it has done nothing. -/
theorem destroyEdu_known (found : s.find id = some p) (block : s.blocks p = some cb)
    (result : s.destroyEdu id = some (rc, s')) :
    (rc = edbEduInvalStatus ∧ s' = s) ∨
      (rc = edbOk ∧ s.runQueue.lookup id = none ∧ s'.find id = none) ∨
      (rc = edbOk ∧ s.runQueue.lookup id = some p ∧
        (cb.status = .waiting ∨ cb.status = .creating) ∧
        s'.find id = s.idleQueue.lookup id) := by
  unfold destroyEdu at result
  cases run : s.runQueue.lookup id with
  | none =>
      have idle : s.idleQueue.lookup id = some p := by simpa [find, run] using found
      simp only [run, idle, block, Option.bind_some] at result
      split_ifs at result <;> cases result
      · exact .inl ⟨rfl, rfl⟩
      · exact .inr (.inl ⟨rfl, rfl, by simp [find, deleteBlock, eraseIdle, run]⟩)
  | some q =>
      obtain rfl : q = p := by simpa [find, run] using found
      simp only [run, block, Option.bind_some] at result
      split_ifs at result with status <;> cases result
      · exact .inl ⟨rfl, rfl⟩
      · exact .inr (.inr ⟨rfl, rfl, by tauto, by simp [find, deleteBlock, eraseRun]⟩)

/-- The destroy path tells the truth unless it leaves a second entry. -/
theorem tellsTruth_destroys (found : s.find id = some p) (block : s.blocks p = some cb)
    (destroys : s.destroys maxPool cb.type force = true) :
    s.TellsTruth maxPool id force ↔ ¬ s.LeavesTwin maxPool id force := by
  have known : s.find id ≠ none := by simp [found]
  have called : s.returnEduCall maxPool id force = (s.destroyEdu id).map fun (rc, s) =>
      ((rc, decide (rc = edbOk ∨ rc = edbSys)), s) := by
    simp [returnEduCall, found, block, destroys]
  rw [leavesTwin_iff found block]
  constructor
  · rintro truth ⟨idle, run, -, ready⟩
    have taken : s.destroyEdu id = some (edbOk, (s.eraseRun id).deleteBlock p) := by
      rcases ready with status | status <;> simp [destroyEdu, run, block, status]
    rw [TellsTruth, called, taken] at truth
    have left : s.idleQueue.lookup id = none := by
      simpa [find, deleteBlock, eraseRun] using (truth edbOk true _ rfl).mp rfl
    simp [left] at idle
  · intro single rc destroyed s' returned
    rw [called] at returned
    rcases Option.map_eq_some_iff.mp returned with ⟨⟨rc, s'⟩, result, same⟩
    cases same
    rcases destroyEdu_known found block result with
      ⟨rfl, rfl⟩ | ⟨rfl, -, gone⟩ | ⟨rfl, run, ready, gone⟩
    · exact iff_of_false (by decide) known
    · exact iff_of_true (by decide) gone
    · refine iff_of_true (by decide) (gone.trans ?_)
      by_contra twin
      exact single ⟨Option.isSome_iff_ne_none.mpr twin, run, destroys, ready⟩

/-- The pool path tells the truth. -/
theorem tellsTruth_pools (found : s.find id = some p) (block : s.blocks p = some cb)
    (pools : ¬ s.destroys maxPool cb.type force = true) : s.TellsTruth maxPool id force := by
  intro rc destroyed s' returned
  simp only [returnEduCall, found, block, Option.bind_some, if_neg pools,
    Option.map_eq_some_iff] at returned
  rcases returned with ⟨⟨rc, s'⟩, result, same⟩
  cases same
  rcases deactivateEdu_known (by simp [found]) result with ⟨notSys, stillKnown⟩
  exact iff_of_false (by simpa using notSys) stillKnown

/-- An EDU that is found is reported truly unless a second entry of it is left. -/
theorem tellsTruth_found (found : s.find id = some p) :
    s.TellsTruth maxPool id force ↔ ¬ s.LeavesTwin maxPool id force := by
  cases block : s.blocks p with
  | none =>
      -- a deleted control block: the call does not return
      refine iff_of_true (fun rc destroyed s' returned => ?_) ?_
      · simp [returnEduCall, found, block] at returned
      · rintro ⟨-, q, cb, run, read, -⟩
        obtain rfl : q = p := by simpa [find, run] using found
        cases block.symm.trans read
  | some cb =>
      by_cases destroys : s.destroys maxPool cb.type force = true
      · exact tellsTruth_destroys found block destroys
      · refine iff_of_true (tellsTruth_pools found block destroys) ?_
        rw [leavesTwin_iff found block]
        rintro ⟨-, -, other, -⟩
        exact destroys other

/-- Nothing is found, `_destroyEDU` is not called, and the answer is false. -/
theorem not_tellsTruth_absent (absent : s.find id = none) :
    ¬ s.TellsTruth maxPool id force := by
  intro truth
  have called : s.returnEduCall maxPool id force = some ((edbSys, false), s) := by
    simp [returnEduCall, absent]
  exact absurd ((truth _ _ _ called).mpr absent) (by decide)

/-- In a consistent manager the call returns, and it tells the truth about every EDU that
is in a queue. -/
theorem Consistent.returnEdu (consistent : s.Consistent) (known : s.find id ≠ none) :
    (s.returnEduCall maxPool id force).isSome ∧ s.TellsTruth maxPool id force := by
  rcases Option.ne_none_iff_exists'.mp known with ⟨p, found⟩
  have disjoint : s.runQueue.lookup id = none ∨ s.idleQueue.lookup id = none := by
    cases consistent.placed id with
    | absent run idle => exact .inl run
    | busy run idle => exact .inr idle
    | pooled run idle => exact .inl run
  have block : ∃ cb, s.blocks p = some cb := by
    cases consistent.placed id with
    | absent run idle => exact absurd (by simp [find, run, idle]) known
    | @busy q cb run idle block =>
        obtain rfl : q = p := by simpa [find, run] using found
        exact ⟨cb, block⟩
    | @pooled q cb run idle block =>
        obtain rfl : q = p := by simpa [find, run, idle] using found
        exact ⟨cb, block⟩
  refine ⟨?_, (tellsTruth_found found).mpr (not_leavesTwin_of_disjoint disjoint)⟩
  rcases block with ⟨cb, block⟩
  rcases @ManagerOp.destroy_contract s id consistent with ⟨rc, s', destroyed, -⟩
  rcases @ManagerOp.deactivate_contract s id consistent with ⟨rc', s'', pooled, -⟩
  simp only [returnEduCall, found, block, Option.bind_some, destroyed, pooled, Option.map_some]
  split <;> rfl

end EduMgr

/-- `returnEDU` tells the truth exactly if it finds the EDU in a queue and does not leave a
second entry of it behind. -/
theorem returnEdu_tellsTruth_iff (s : EduMgr) (maxPool : Nat) (id : EduId) (force : Bool) :
    s.TellsTruth maxPool id force ↔ s.find id ≠ none ∧ ¬ s.LeavesTwin maxPool id force := by
  cases found : s.find id with
  | none => exact iff_of_false (EduMgr.not_tellsTruth_absent found) fun known => known.1 rfl
  | some p => rw [and_iff_right (Option.some_ne_none p), EduMgr.tellsTruth_found found]

/-- Nobody has the EDU 7, and `returnEDU` says that it has not been destroyed. -/
theorem unknownEdu_misreported : ¬ EduMgr.init.TellsTruth 20 7 false := by
  intro truth
  exact absurd ((truth edbSys false .init rfl).mpr rfl) (by decide)

end EmeraldDb
