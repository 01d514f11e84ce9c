/-
Module: EmeraldDb.Proofs.EduStructure
Purpose: The shape of the EDU manager's queues: which control block stands under which
  id, and when every entry of a queue still has one.
Trusted boundary: none
Main exports: EduMgr.Queued, EduMgr.Structured, EduMgr.Live, EduSystem.Structured,
  EduRun.structured, agentSession
-/
import EmeraldDb.Proofs.EduChange

namespace EmeraldDb

@[simp] theorem lookup_insert_queue (q : EduQueue) (id key : EduId) (p : Ptr) :
    (q.insert id p).lookup key = if key = id then some p else q.lookup key := by
  split
  · next same => rw [same, Finmap.lookup_insert]
  · next other => exact Finmap.lookup_insert_of_ne q other

@[simp] theorem lookup_erase_queue (q : EduQueue) (id key : EduId) :
    (q.erase id).lookup key = if key = id then none else q.lookup key := by
  split
  · next same => rw [same, Finmap.lookup_erase]
  · next other => exact Finmap.lookup_erase_ne other

namespace EduMgr

variable {s s' : EduMgr} {id : EduId} {p : Ptr} {cb cb' : ControlBlock} {label : EduLabel}

/-- An entry of one of the two queues. -/
def Queued (s : EduMgr) (id : EduId) (p : Ptr) : Prop :=
  s.runQueue.lookup id = some p ∨ s.idleQueue.lookup id = some p

/-- Ids and control blocks are issued together, and nothing stands under a wrong id or
in both queues.  Deleted control blocks are not excluded. -/
structure Structured (s : EduMgr) : Prop where
  numbered : s.nextId = s.nextPtr + 1
  queued : ∀ {id p}, s.Queued id p → id = p + 1 ∧ p < s.nextPtr
  apart : ∀ {id p}, s.runQueue.lookup id = some p → s.idleQueue.lookup id = none
  allocated : ∀ {p cb}, s.blocks p = some cb → cb.id = p + 1 ∧ p < s.nextPtr

theorem init_structured : init.Structured where
  numbered := rfl
  queued found := by rcases found with found | found <;> cases found
  apart found := by cases found
  allocated block := by cases block

namespace Structured

theorem ran (structured : s.Structured) (found : s.runQueue.lookup id = some p) :
    id = p + 1 ∧ p < s.nextPtr :=
  structured.queued (.inl found)

theorem idled (structured : s.Structured) (found : s.idleQueue.lookup id = some p) :
    id = p + 1 ∧ p < s.nextPtr :=
  structured.queued (.inr found)

theorem setBlock (structured : s.Structured) (block : s.blocks p = some cb)
    (sameId : cb'.id = cb.id) : (s.setBlock p cb').Structured where
  numbered := structured.numbered
  queued := structured.queued
  apart := structured.apart
  allocated {q other} found := by
    rcases eq_or_ne q p with rfl | apart
    · cases (Function.update_self ..).symm.trans found
      rw [sameId]
      exact structured.allocated block
    · exact structured.allocated ((Function.update_of_ne apart ..).symm.trans found)

theorem deleteBlock (structured : s.Structured) (p : Ptr) : (s.deleteBlock p).Structured where
  numbered := structured.numbered
  queued := structured.queued
  apart := structured.apart
  allocated {q other} found := by
    rcases eq_or_ne q p with rfl | apart
    · cases (Function.update_self ..).symm.trans found
    · exact structured.allocated ((Function.update_of_ne apart ..).symm.trans found)

/-- A change of the queues alone. -/
theorem ofQueues (structured : s.Structured) {run idle : EduQueue}
    (queued : ∀ {id p}, run.lookup id = some p ∨ idle.lookup id = some p → s.Queued id p)
    (apart : ∀ {id p}, run.lookup id = some p → idle.lookup id = none) :
    { s with runQueue := run, idleQueue := idle }.Structured where
  numbered := structured.numbered
  queued found := structured.queued (queued found)
  apart := apart
  allocated := structured.allocated

theorem eraseRun (structured : s.Structured) (id : EduId) : (s.eraseRun id).Structured := by
  apply structured.ofQueues
  · intro key q found
    simp only [lookup_erase_queue] at found
    unfold Queued
    split_ifs at found <;> simp_all
  · intro key q found
    simp only [lookup_erase_queue] at found
    split_ifs at found
    exact structured.apart found

theorem eraseIdle (structured : s.Structured) (id : EduId) : (s.eraseIdle id).Structured := by
  apply structured.ofQueues
  · intro key q found
    simp only [lookup_erase_queue] at found
    unfold Queued
    split_ifs at found <;> simp_all
  · intro key q found
    simp only [lookup_erase_queue]
    split_ifs
    · rfl
    · exact structured.apart found

theorem moveToRun (structured : s.Structured) (found : s.idleQueue.lookup id = some p) :
    (s.moveToRun id p).Structured := by
  apply structured.ofQueues
  · intro key q moved
    simp only [lookup_insert_queue, lookup_erase_queue] at moved
    unfold Queued
    split_ifs at moved with same
    · rw [same, found]
      exact .inr (by simpa using moved)
    · simpa using moved
  · intro key q moved
    simp only [lookup_insert_queue, lookup_erase_queue] at moved ⊢
    split_ifs at moved ⊢
    · rfl
    · exact structured.apart moved

theorem moveToIdle (structured : s.Structured) (found : s.runQueue.lookup id = some p) :
    (s.moveToIdle id p).Structured := by
  apply structured.ofQueues
  · intro key q moved
    simp only [lookup_insert_queue, lookup_erase_queue] at moved
    unfold Queued
    split_ifs at moved with same
    · rw [same, found]
      exact .inl (by simpa using moved)
    · exact moved
  · intro key q moved
    simp only [lookup_insert_queue, lookup_erase_queue] at moved ⊢
    split_ifs at moved ⊢
    exact structured.apart moved

/-- The number of the next control block is used nowhere. -/
theorem fresh (structured : s.Structured) :
    s.runQueue.lookup s.nextId = none ∧ s.idleQueue.lookup s.nextId = none := by
  have unused : ∀ {p}, ¬ s.Queued s.nextId p := fun found =>
    have ⟨same, below⟩ := structured.queued found
    Nat.ne_of_gt below (Nat.succ.inj (structured.numbered.symm.trans same))
  constructor
  · exact Option.eq_none_iff_forall_ne_some.mpr fun p found => unused (.inl found)
  · exact Option.eq_none_iff_forall_ne_some.mpr fun p found => unused (.inr found)

theorem create (structured : s.Structured) (type : EduType) :
    { s.setBlock s.nextPtr ⟨type, .creating, s.nextId, false, false, []⟩ with
      runQueue := s.runQueue.insert s.nextId s.nextPtr
      nextId := s.nextId + 1
      nextPtr := s.nextPtr + 1 }.Structured where
  numbered := congrArg (· + 1) structured.numbered
  queued {key q} found := by
    simp only [Queued, lookup_insert_queue] at found
    split_ifs at found with new
    · rcases found with same | idled
      · cases same
        exact ⟨new.trans structured.numbered, Nat.lt_succ_self _⟩
      · rw [new] at idled
        cases structured.fresh.2.symm.trans idled
    · have old := structured.queued found
      exact ⟨old.1, Nat.lt_succ_of_lt old.2⟩
  apart {key q} found := by
    simp only [lookup_insert_queue] at found
    split_ifs at found with new
    · rw [new]
      exact structured.fresh.2
    · exact structured.apart found
  allocated {q other} found := by
    rcases eq_or_ne q s.nextPtr with rfl | apart
    · cases (Function.update_self ..).symm.trans found
      exact ⟨structured.numbered, Nat.lt_succ_self _⟩
    · have old := structured.allocated ((Function.update_of_ne apart ..).symm.trans found)
      exact ⟨old.1, Nat.lt_succ_of_lt old.2⟩

end Structured

theorem receive_id (cb : ControlBlock) (event : EduEvent) :
    (receive cb event).id = cb.id := by
  unfold receive
  split <;> rfl

/-- No section breaks the shape of the queues. -/
theorem Change.structured (change : Change s label s') (structured : s.Structured) :
    s'.Structured := by
  cases change with
  | keep run idle ids ptrs blocks =>
      constructor
      · rw [ids, ptrs]
        exact structured.numbered
      · unfold Queued
        rw [run, idle, ptrs]
        exact structured.queued
      · rw [run, idle]
        exact structured.apart
      · rw [blocks, ptrs]
        exact structured.allocated
  | mark found block marked => exact structured.setBlock block rfl
  | reuse found block idle typed marked =>
      exact (structured.moveToRun found).setBlock block rfl
  | pool found block waits => exact (structured.moveToIdle found).setBlock block rfl
  | destroyRun found block waits => exact (structured.eraseRun _).deleteBlock _
  | destroyIdle absent found block idle => exact (structured.eraseIdle _).deleteBlock _
  | create newRun newIdle => exact structured.create _
  | undo block => exact (structured.eraseRun _).deleteBlock _
  | force run idle ids ptrs blocks =>
      constructor
      · rw [ids, ptrs]
        exact structured.numbered
      · unfold Queued
        rw [run, idle, ptrs]
        exact structured.queued
      · rw [run, idle]
        exact structured.apart
      · intro p cb found
        rw [ptrs]
        rcases blocks p with same | forced
        · exact structured.allocated (same.symm.trans found)
        · rw [forced] at found
          rcases Option.map_eq_some_iff.mp found with ⟨before, block, rfl⟩
          have old : before.id = p + 1 ∧ p < s.nextPtr := structured.allocated block
          exact old
  | post block => exact structured.setBlock block rfl
  | markWaiting block => exact structured.setBlock block rfl
  | take block queued => exact structured.setBlock block rfl
  | endWait block => exact structured.setBlock block (receive_id ..)

/-! ### Where entries and blocks come from -/

/-- What stands in the run queue was there, has come out of the idle queue, or is new. -/
theorem Change.ran (change : Change s label s') (found : s'.runQueue.lookup id = some p) :
    s.runQueue.lookup id = some p ∨
      label = .reuse id ∧ s.idleQueue.lookup id = some p ∨
      label = .create ∧ id = s.nextId ∧ p = s.nextPtr := by
  cases change with
  | keep run idle ids ptrs blocks =>
      rw [run] at found
      exact .inl found
  | force run idle ids ptrs blocks =>
      rw [run] at found
      exact .inl found
  | reuse idled block idle typed marked =>
      simp only [moveToRun, EduMgr.setBlock, lookup_insert_queue] at found
      split_ifs at found with same
      · cases found
        cases same
        exact .inr (.inl ⟨rfl, idled⟩)
      · exact .inl found
  | create newRun newIdle =>
      simp only [lookup_insert_queue] at found
      split_ifs at found with same
      · cases found
        exact .inr (.inr ⟨rfl, same, rfl⟩)
      · exact .inl found
  | pool ran block waits =>
      simp only [moveToIdle, EduMgr.setBlock, lookup_erase_queue] at found
      split_ifs at found
      exact .inl found
  | destroyRun ran block waits =>
      simp only [EduMgr.eraseRun, EduMgr.deleteBlock, lookup_erase_queue] at found
      split_ifs at found
      exact .inl found
  | undo block =>
      simp only [EduMgr.eraseRun, EduMgr.deleteBlock, lookup_erase_queue] at found
      split_ifs at found
      exact .inl found
  | _ => exact .inl found

/-- What stands in the idle queue was there or has just been pooled. -/
theorem Change.idled (change : Change s label s') (found : s'.idleQueue.lookup id = some p) :
    s.idleQueue.lookup id = some p ∨
      label = .pool id ∧ s.runQueue.lookup id = some p := by
  cases change with
  | keep run idle ids ptrs blocks =>
      rw [idle] at found
      exact .inl found
  | force run idle ids ptrs blocks =>
      rw [idle] at found
      exact .inl found
  | reuse idled block idle typed marked =>
      simp only [moveToRun, EduMgr.setBlock, lookup_erase_queue] at found
      split_ifs at found
      exact .inl found
  | pool ran block waits =>
      simp only [moveToIdle, EduMgr.setBlock, lookup_insert_queue] at found
      split_ifs at found with same
      · cases found
        cases same
        exact .inr ⟨rfl, ran⟩
      · exact .inl found
  | destroyIdle absent idled block idle =>
      simp only [EduMgr.eraseIdle, EduMgr.deleteBlock, lookup_erase_queue] at found
      split_ifs at found
      exact .inl found
  | _ => exact .inl found

theorem Change.queued (change : Change s label s') (found : s'.Queued id p) :
    s.Queued id p ∨ label = .create ∧ id = s.nextId ∧ p = s.nextPtr := by
  rcases found with found | found
  · rcases change.ran found with ran | ⟨-, idled⟩ | new
    · exact .inl (.inl ran)
    · exact .inl (.inr idled)
    · exact .inr new
  · rcases change.idled found with idled | ⟨-, ran⟩
    · exact .inl (.inr idled)
    · exact .inl (.inl ran)

/-- Control blocks are numbered upwards. -/
theorem Change.issued (change : Change s label s') : s.nextPtr ≤ s'.nextPtr := by
  cases change with
  | keep run idle ids ptrs blocks => exact Nat.le_of_eq ptrs.symm
  | force run idle ids ptrs blocks => exact Nat.le_of_eq ptrs.symm
  | create newRun newIdle => exact Nat.le_succ _
  | _ => exact Nat.le_refl _

theorem queued_of_find (found : s.find id = some p) : s.Queued id p := by
  unfold find at found
  cases ran : s.runQueue.lookup id with
  | none =>
      rw [ran, Option.none_or] at found
      exact .inr found
  | some q =>
      rw [ran, Option.some_or] at found
      exact .inl (ran.trans found)

theorem find_of_queued (structured : s.Structured) (found : s.Queued id p) :
    s.find id = some p := by
  unfold find
  rcases found with ran | idled
  · rw [ran, Option.some_or]
  · cases ran : s.runQueue.lookup id with
    | none => rw [Option.none_or, idled]
    | some q => cases (structured.apart ran).symm.trans idled

theorem blocks_setBlock {q : Ptr} (found : (s.setBlock p cb).blocks q = some cb') :
    q = p ∧ cb' = cb ∨ s.blocks q = some cb' := by
  rcases eq_or_ne q p with rfl | apart
  · cases (Function.update_self ..).symm.trans found
    exact .inl ⟨rfl, rfl⟩
  · exact .inr ((Function.update_of_ne apart ..).symm.trans found)

/-- What a write leaves as it was, it leaves in all control blocks. -/
theorem setBlock_kept {α : Type} (view : ControlBlock → α) {q : Ptr} {after : ControlBlock}
    (found : (s.setBlock p cb').blocks q = some after)
    (block : s.blocks p = some cb) (same : view cb' = view cb) :
    ∃ before, s.blocks q = some before ∧ view after = view before := by
  rcases blocks_setBlock found with ⟨rfl, rfl⟩ | old
  · exact ⟨cb, block, same⟩
  · exact ⟨after, old, rfl⟩

theorem blocks_deleteBlock {q : Ptr} (found : (s.deleteBlock p).blocks q = some cb') :
    q ≠ p ∧ s.blocks q = some cb' := by
  rcases eq_or_ne q p with rfl | apart
  · cases (Function.update_self ..).symm.trans found
  · exact ⟨apart, (Function.update_of_ne apart ..).symm.trans found⟩

theorem receive_kept (cb : ControlBlock) (event : EduEvent) :
    ((receive cb event).type, (receive cb event).isForced) =
      (cb.type, cb.isForced) := by
  unfold receive
  split <;> rfl

/-- A control block keeps its flag unless it is forced, and its type unless it is taken
from the idle queue, for a poolable type. -/
theorem Change.block (change : Change s label s') (found : s'.blocks p = some cb') :
    label = .create ∧ p = s.nextPtr ∧ cb'.isForced = false ∨
      ∃ cb, s.blocks p = some cb ∧ (cb'.isForced = cb.isForced ∨ label = .force) ∧
        (cb'.type = cb.type ∨
          isPoolable cb'.type = true ∧ ∃ id, s.idleQueue.lookup id = some p) := by
  have kept : ∀ {q after} {cb cb' : ControlBlock},
      (s.setBlock q cb').blocks p = some after → s.blocks q = some cb →
        (cb'.type, cb'.isForced) = (cb.type, cb.isForced) →
      ∃ before, s.blocks p = some before ∧
        (after.isForced = before.isForced ∨ label = .force) ∧
        (after.type = before.type ∨
          isPoolable after.type = true ∧ ∃ id, s.idleQueue.lookup id = some p) := by
    intro q after cb cb' found block same
    rcases setBlock_kept (fun cb => (cb.type, cb.isForced)) found block same with
      ⟨before, old, same⟩
    exact ⟨before, old, .inl (congrArg Prod.snd same), .inl (congrArg Prod.fst same)⟩
  cases change with
  | keep run idle ids ptrs blocks =>
      rw [blocks] at found
      exact .inr ⟨cb', found, .inl rfl, .inl rfl⟩
  | force run idle ids ptrs blocks =>
      rcases blocks p with same | forced
      · exact .inr ⟨cb', same.symm.trans found, .inl rfl, .inl rfl⟩
      · rw [forced] at found
        rcases Option.map_eq_some_iff.mp found with ⟨cb, block, rfl⟩
        exact .inr ⟨cb, block, .inr rfl, .inl rfl⟩
  | reuse idled block idle typed marked =>
      rcases blocks_setBlock found with ⟨rfl, rfl⟩ | old
      · refine .inr ⟨_, block, .inl rfl, ?_⟩
        rcases typed with same | poolable
        · exact .inl same
        · exact .inr ⟨poolable, _, idled⟩
      · exact .inr ⟨cb', old, .inl rfl, .inl rfl⟩
  | create newRun newIdle =>
      rcases blocks_setBlock found with ⟨rfl, rfl⟩ | old
      · exact .inl ⟨rfl, rfl, rfl⟩
      · exact .inr ⟨cb', old, .inl rfl, .inl rfl⟩
  | destroyRun ran block waits =>
      exact .inr ⟨cb', (blocks_deleteBlock found).2, .inl rfl, .inl rfl⟩
  | destroyIdle absent idled block idle =>
      exact .inr ⟨cb', (blocks_deleteBlock found).2, .inl rfl, .inl rfl⟩
  | undo block => exact .inr ⟨cb', (blocks_deleteBlock found).2, .inl rfl, .inl rfl⟩
  | mark ran block marked => exact .inr (kept found block rfl)
  | pool ran block waits => exact .inr (kept found block rfl)
  | post block => exact .inr (kept found block rfl)
  | markWaiting block => exact .inr (kept found block rfl)
  | take block queued => exact .inr (kept found block rfl)
  | endWait block => exact .inr (kept found block (receive_kept ..))

/-! ### What a change leaves alone -/

/-- The control blocks and entries of all other EDUs are as they were. -/
structure KeepsOthers (s s' : EduMgr) (p : Ptr) : Prop where
  block : ∀ {q}, q ≠ p → s'.blocks q = s.blocks q
  run : ∀ {q}, q ≠ p → s'.runQueue.lookup (q + 1) = s.runQueue.lookup (q + 1)
  idle : ∀ {q}, q ≠ p → s'.idleQueue.lookup (q + 1) = s.idleQueue.lookup (q + 1)

theorem Change.keepsOthers (change : Change s label s') (structured : s.Structured)
    (concerns : label.Concerns (p + 1) p) : KeepsOthers s s' p := by
  have named : ∀ {q}, s.Queued (p + 1) q → q = p := fun queued =>
    (Nat.succ.inj (structured.queued queued).1).symm
  cases change with
  | keep run idle ids ptrs blocks =>
      exact ⟨fun _ => by rw [blocks], fun _ => by rw [run], fun _ => by rw [idle]⟩
  | mark found block marked =>
      cases concerns
      cases named (.inl found)
      exact ⟨fun apart => Function.update_of_ne apart .., fun _ => rfl, fun _ => rfl⟩
  | reuse found block idle typed marked =>
      cases concerns
      cases named (.inr found)
      exact ⟨fun apart => Function.update_of_ne apart ..,
        fun apart => by simp [EduMgr.setBlock, moveToRun, apart],
        fun apart => by simp [EduMgr.setBlock, moveToRun, apart]⟩
  | pool found block waits =>
      cases concerns
      cases named (.inl found)
      exact ⟨fun apart => Function.update_of_ne apart ..,
        fun apart => by simp [EduMgr.setBlock, moveToIdle, apart],
        fun apart => by simp [EduMgr.setBlock, moveToIdle, apart]⟩
  | destroyRun found block waits =>
      cases concerns
      cases named (.inl found)
      exact ⟨fun apart => Function.update_of_ne apart ..,
        fun apart => by simp [EduMgr.deleteBlock, EduMgr.eraseRun, apart],
        fun _ => rfl⟩
  | destroyIdle absent found block idle =>
      cases concerns
      cases named (.inr found)
      exact ⟨fun apart => Function.update_of_ne apart .., fun _ => rfl,
        fun apart => by simp [EduMgr.deleteBlock, EduMgr.eraseIdle, apart]⟩
  | create newRun newIdle => cases concerns
  | undo block =>
      rcases concerns with ⟨rfl, rfl⟩
      exact ⟨fun apart => Function.update_of_ne apart ..,
        fun apart => by simp [EduMgr.deleteBlock, EduMgr.eraseRun, apart],
        fun _ => rfl⟩
  | force run idle ids ptrs blocks => cases concerns
  | post block =>
      cases concerns
      exact ⟨fun apart => Function.update_of_ne apart .., fun _ => rfl, fun _ => rfl⟩
  | markWaiting block =>
      cases concerns
      exact ⟨fun apart => Function.update_of_ne apart .., fun _ => rfl, fun _ => rfl⟩
  | take block queued =>
      cases concerns
      exact ⟨fun apart => Function.update_of_ne apart .., fun _ => rfl, fun _ => rfl⟩
  | endWait block =>
      cases concerns
      exact ⟨fun apart => Function.update_of_ne apart .., fun _ => rfl, fun _ => rfl⟩

/-! ### Live entries -/

/-- Every entry of a queue has a control block. -/
def Live (s : EduMgr) : Prop := ∀ id p, s.Queued id p → ∃ cb, s.blocks p = some cb

theorem Live.setBlock (live : s.Live) (p : Ptr) (cb : ControlBlock) : (s.setBlock p cb).Live := by
  intro id q found
  rcases eq_or_ne q p with rfl | apart
  · exact ⟨cb, Function.update_self ..⟩
  · rcases live id q found with ⟨other, block⟩
    exact ⟨other, (Function.update_of_ne apart ..).trans block⟩

/-- Deleting a control block that has left both queues. -/
theorem Live.deleteBlock (live : s.Live) (left : ∀ id, ¬ s.Queued id p) :
    (s.deleteBlock p).Live := by
  intro id q found
  have apart : q ≠ p := by
    rintro rfl
    exact left id found
  rcases live id q found with ⟨other, block⟩
  exact ⟨other, (Function.update_of_ne apart ..).trans block⟩

theorem Live.ofQueues (live : s.Live) {run idle : EduQueue}
    (queued : ∀ {id p}, run.lookup id = some p ∨ idle.lookup id = some p → s.Queued id p) :
    { s with runQueue := run, idleQueue := idle }.Live :=
  fun id p found => live id p (queued found)

/-- Every change but the undoing of a creation leaves all entries alive; undoing does so
if the EDU is not in the idle queue. -/
theorem Change.live (change : Change s label s') (structured : s.Structured) (live : s.Live)
    (undone : ∀ id p, label = .undo id p → id = p + 1 ∧ s.idleQueue.lookup id = none) :
    s'.Live := by
  have entries : ∀ {id p}, s'.Queued id p →
      s.Queued id p ∨ label = .create ∧ id = s.nextId ∧ p = s.nextPtr := change.queued
  cases change with
  | keep run idle ids ptrs blocks =>
      intro id p found
      rw [blocks]
      unfold Queued at found
      rw [run, idle] at found
      exact live id p found
  | force run idle ids ptrs blocks =>
      intro id p found
      unfold Queued at found
      rw [run, idle] at found
      rcases live id p found with ⟨cb, block⟩
      rcases blocks p with same | forced
      · exact ⟨cb, same.trans block⟩
      · rw [block] at forced
        exact ⟨_, forced⟩
  | mark found block marked => exact live.setBlock _ _
  | reuse found block idle typed marked =>
      refine Live.setBlock (Live.ofQueues live fun moved => ?_) _ _
      rcases entries moved with old | ⟨created, -⟩
      · exact old
      · cases created
  | pool found block waits =>
      refine Live.setBlock (Live.ofQueues live fun moved => ?_) _ _
      rcases entries moved with old | ⟨created, -⟩
      · exact old
      · cases created
  | create newRun newIdle =>
      intro id p found
      rcases entries found with old | ⟨-, -, rfl⟩
      · rcases live id p old with ⟨cb, block⟩
        exact ⟨cb, (Function.update_of_ne (Nat.ne_of_lt (structured.queued old).2) ..).trans
          block⟩
      · exact ⟨_, Function.update_self ..⟩
  | destroyRun found block waits =>
      refine Live.deleteBlock (Live.ofQueues live fun moved => ?_) fun id left => ?_
      · rcases entries moved with old | ⟨created, -⟩
        · exact old
        · cases created
      · have same := (structured.ran found).1.trans ((structured.eraseRun _).queued left).1.symm
        cases same
        rcases left with ran | idled
        · simp [EduMgr.eraseRun] at ran
        · cases (structured.apart found).symm.trans idled
  | destroyIdle absent found block idle =>
      refine Live.deleteBlock (Live.ofQueues live fun moved => ?_) fun id left => ?_
      · rcases entries moved with old | ⟨created, -⟩
        · exact old
        · cases created
      · have same :=
          (structured.idled found).1.trans ((structured.eraseIdle _).queued left).1.symm
        cases same
        rcases left with ran | idled
        · cases absent.symm.trans ran
        · simp [EduMgr.eraseIdle] at idled
  | undo block =>
      rcases undone _ _ rfl with ⟨own, absent⟩
      refine Live.deleteBlock (Live.ofQueues live fun moved => ?_) fun id left => ?_
      · rcases entries moved with old | ⟨created, -⟩
        · exact old
        · cases created
      · have same := own.trans ((structured.eraseRun _).queued left).1.symm
        cases same
        rcases left with ran | idled
        · simp [EduMgr.eraseRun] at ran
        · cases absent.symm.trans idled
  | post block => exact live.setBlock _ _
  | markWaiting block => exact live.setBlock _ _
  | take block queued => exact live.setBlock _ _
  | endWait block => exact live.setBlock _ _

end EduMgr

namespace EduSystem

variable {s s' : EduSystem} {maxPool : Nat} {reply : EduReply} {action : EduAction}
  {id : EduId} {p : Ptr}

/-! ### The calls and the threads -/

theorem startStep_target {c d : Nat} {call after : StartCall} {stage : StartStage}
    {granted : Bool} (found : s.starts c = some call) (staged : call.stage = stage)
    (step : StartStep s c call stage granted reply s')
    (there : s'.starts d = some after) (aims : target after.stage = some (id, p)) :
    (∃ before, s.starts d = some before ∧ target before.stage = some (id, p)) ∨
      s'.mgr.Queued id p := by
  cases step with
  | chose result =>
      rcases starts_setStart (s := { s with mgr := _ }) there with old | ⟨rfl, rfl⟩
      · exact .inl ⟨after, old, aims⟩
      · rcases EduMgr.selectIdle_chosen result with ⟨cb, idled, block, idle, poolable, moved⟩
        cases aims
        exact .inr (.inl (by simp [setStart, moved, EduMgr.setBlock, EduMgr.moveToRun]))
  | placed result =>
      rcases starts_setStart (s := { s with mgr := _ }) there with old | ⟨rfl, rfl⟩
      · exact .inl ⟨after, old, aims⟩
      · rcases EduMgr.insertEdu_change result with ⟨same, created⟩
        cases same
        cases aims
        cases created
        exact .inr (.inl (by simp [setStart]))
  | spawned =>
      rcases starts_setStart (s := s.setThread _ _) there with old | ⟨rfl, rfl⟩
      · exact .inl ⟨after, old, aims⟩
      · cases aims
        exact .inl ⟨call, found, by rw [staged]; rfl⟩
  | tested open_ =>
      rcases starts_setStart there with old | ⟨rfl, rfl⟩
      · exact .inl ⟨after, old, aims⟩
      · cases aims
  | noneIdle result =>
      rcases starts_setStart there with old | ⟨rfl, rfl⟩
      · exact .inl ⟨after, old, aims⟩
      · cases aims
  | ready open_ entry =>
      rcases starts_setStart there with old | ⟨rfl, rfl⟩
      · exact .inl ⟨after, old, aims⟩
      · cases aims
  | _ => exact .inl ⟨after, (starts_endStart (s := { s with mgr := _ }) there).2, aims⟩

/-- A call of `startEDU` aims at an EDU that it aimed at before, or that is in a queue. -/
theorem exec_target {d : Nat} {after : StartCall}
    (completes : exec maxPool action s = some (reply, s')) (there : s'.starts d = some after)
    (aims : target after.stage = some (id, p)) :
    (∃ before, s.starts d = some before ∧ target before.stage = some (id, p)) ∨
      s'.mgr.Queued id p := by
  cases exec_step completes with
  | called =>
      rcases eq_or_ne d s.nextStart with rfl | apart
      · cases (Function.update_self ..).symm.trans there
        cases aims
      · exact .inl ⟨after, (Function.update_of_ne apart ..).symm.trans there, aims⟩
  | start found staged step => exact startStep_target found staged step there aims
  | thread found here step =>
      rw [threadStep_starts step] at there
      exact .inl ⟨after, there, aims⟩
  | _ => exact .inl ⟨after, there, aims⟩

/-- A thread was there before with the same id, or it has just been created. -/
theorem exec_thread {t : EduThread}
    (completes : exec maxPool action s = some (reply, s')) (there : s'.threads p = some t) :
    (∃ before, s.threads p = some before ∧ t.id = before.id) ∨
      ∃ c call, s.starts c = some call ∧ target call.stage = some (t.id, p) := by
  cases exec_step completes with
  | start found staged step =>
      cases step with
      | spawned =>
          rcases threads_setThread (s := s) there with old | ⟨rfl, rfl⟩
          · exact .inl ⟨t, old, rfl⟩
          · exact .inr ⟨_, _, found, by rw [staged]; rfl⟩
      | _ => exact .inl ⟨t, there, rfl⟩
  | thread found here step => exact .inl (threadStep_id found step there)
  | _ => exact .inl ⟨t, there, rfl⟩

/-! ### Invariants of every run -/

/-- The manager has its shape, and the threads and calls name EDUs that were created. -/
structure Structured (s : EduSystem) : Prop where
  mgr : s.mgr.Structured
  threads : ∀ {p t}, s.threads p = some t → t.id = p + 1 ∧ p < s.mgr.nextPtr
  starts : ∀ {c call id p}, s.starts c = some call → target call.stage = some (id, p) →
    id = p + 1 ∧ p < s.mgr.nextPtr
  returning : ∀ {id stage}, s.Returning id stage → stage ≠ .lookup → id < s.mgr.nextId

theorem init_structured : init.Structured where
  mgr := EduMgr.init_structured
  threads found := by cases found
  starts found := by cases found
  returning found := by
    rcases found with ⟨r, call, found, -⟩ | ⟨p, t, found, -⟩ <;> cases found

theorem Structured.step (structured : s.Structured)
    (completes : exec maxPool action s = some (reply, s')) : s'.Structured := by
  rcases exec_change completes with ⟨label, change, -⟩
  have mgr := change.structured structured.mgr
  have later := change.issued
  constructor
  · exact mgr
  · intro p t there
    rcases exec_thread completes there with ⟨before, found, same⟩ | ⟨c, call, found, aims⟩
    · have old := structured.threads found
      exact ⟨same.trans old.1, Nat.lt_of_lt_of_le old.2 later⟩
    · have old := structured.starts found aims
      exact ⟨old.1, Nat.lt_of_lt_of_le old.2 later⟩
  · intro c call id p there aims
    rcases exec_target completes there aims with ⟨before, found, aimed⟩ | queued
    · have old := structured.starts found aimed
      exact ⟨old.1, Nat.lt_of_lt_of_le old.2 later⟩
    · exact mgr.queued queued
  · intro id stage returning moved
    have grown : s.mgr.nextId ≤ s'.mgr.nextId := by
      rw [structured.mgr.numbered, mgr.numbered]
      exact Nat.succ_le_succ later
    apply Nat.lt_of_lt_of_le _ grown
    rcases exec_returning completes returning with old | start | ⟨force, before, old, went⟩
    · exact structured.returning old moved
    · exact absurd start moved
    · rcases (EduMgr.returnEdu_goesOn went).2 with ⟨rfl, p, cb, found, -⟩ | ⟨type, rfl, -⟩ |
        ⟨rfl, -⟩
      · have named := structured.mgr.queued (EduMgr.queued_of_find found)
        rw [structured.mgr.numbered, named.1]
        exact Nat.succ_lt_succ named.2
      · exact structured.returning old (by simp)
      · exact structured.returning old (by simp)

end EduSystem

theorem EduRun.structured {maxPool : Nat} {allowed : EduTrace → EduSystem → EduAction → Prop}
    {trace : EduTrace} {s : EduSystem} (run : EduRun maxPool allowed trace s) :
    s.Structured :=
  Run.invariant EduSystem.init_structured
    (fun structured _ completes => structured.step completes) run

/-- An agent's session, after which the agent is idle and waits for the next event. -/
def agentSession : List EduAction :=
  .startEdu .agent 7 :: List.replicate 6 (.stepStart 0 true) ++
    List.replicate 3 (.thread 0 .goOn) ++ .thread 0 .take ::
    List.replicate 11 (.thread 0 .goOn)

end EmeraldDb
