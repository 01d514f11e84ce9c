/-
Module: EmeraldDb.Proofs.SessionRefinement
Purpose: Whole sessions.  Every call keeps the file represented and makes the
  step of the store that its reply tells of, so along a session the store is
  what the replies say it is.
Trusted boundary: none
Main exports: exec_refines, Tracked, session_tracked, Settled, session_settled,
  exists_lengthened
-/
import EmeraldDb.Proofs.Insert
import EmeraldDb.Proofs.Opening
import EmeraldDb.Proofs.RemoveFind

namespace EmeraldDb

/-! ### One call -/

/-- The calls that keep a file in order: every call but a `remove` of the slot
right behind the last one. -/
def Orderly (s : DmsFile) : DmsOp → Prop
  | .remove rid => ¬ s.PastLastSlot rid
  | _ => True

/-- What a completed call leaves behind. -/
structure Executed (op : DmsOp) (reply : DmsReply) (s s' : DmsFile) (view view' : FileView) :
    Prop where
  rep : FileRep s' view'
  step : IdStore.Step view.store (eventOf op reply) view'.store
  failed : reply.Failed → eventOf op reply = .keep
  mutex : s'.mutex = .init ∨ s'.mutex = s.mutex ∨
    ∃ rid, op = .find rid ∧ reply = .found .throws
  extendMutex : s'.extendMutex = s.extendMutex

/-- An insert that hands out no rid is a call that keeps the store. -/
theorem InsertOutcome.step {view view' : FileView} {answers : List DmsFile.ExtendAnswer}
    {record : BsonObj} {completion : Completion DmsFile.InsertReply}
    (outcome : InsertOutcome view record completion view') :
    IdStore.Step view.store (eventOf (.insert answers record) (.inserted completion))
      view'.store := by
  cases outcome with
  | stored step => exact step
  | failed error step => exact step
  | threw step => exact step

theorem InsertOutcome.failed_keeps {view view' : FileView}
    {answers : List DmsFile.ExtendAnswer} {record : BsonObj}
    {completion : Completion DmsFile.InsertReply}
    (outcome : InsertOutcome view record completion view')
    (failed : (DmsReply.inserted completion).Failed) :
    eventOf (.insert answers record) (.inserted completion) = .keep := by
  cases outcome with
  | stored step => exact absurd rfl failed
  | failed error step => rfl
  | threw step => rfl

/-- Every orderly call keeps the file represented, and its reply tells what it did
to the records. -/
theorem exec_refines {s s' : DmsFile} {view : FileView} (rep : FileRep s view)
    {op : DmsOp} {reply : DmsReply} (orderly : Orderly s op)
    (result : DmsFile.exec op s = some (reply, s')) :
    ∃ view', Executed op reply s s' view view' := by
  cases op with
  | insert answers record =>
      obtain ⟨⟨completion, s₁⟩, inserted, pair⟩ := Option.map_eq_some_iff.mp result
      obtain ⟨rfl, rfl⟩ := Prod.mk.inj pair
      obtain ⟨view', rep', outcome, mutex, extendMutex⟩ := insert_refines rep inserted
      exact ⟨view', rep', outcome.step, outcome.failed_keeps, mutex.imp_right Or.inl, extendMutex⟩
  | remove rid =>
      obtain ⟨⟨rc, s₁⟩, removed, pair⟩ := Option.map_eq_some_iff.mp result
      obtain ⟨rfl, rfl⟩ := Prod.mk.inj pair
      obtain ⟨view', rep', mutex, extendMutex, ⟨rfl, step⟩ | ⟨rfl, step⟩⟩ :=
        remove_refines rep orderly removed
      · exact ⟨view', rep', step, fun failed => absurd rfl failed, Or.inl mutex, extendMutex⟩
      · exact ⟨view', rep', step, fun _ => rfl, Or.inl mutex, extendMutex⟩
  | find rid =>
      obtain ⟨⟨completion, s₁⟩, looked, pair⟩ := Option.map_eq_some_iff.mp result
      obtain ⟨rfl, rfl⟩ := Prod.mk.inj pair
      obtain ⟨-, rfl | ⟨rfl, rfl⟩⟩ := find_keeps looked
      · exact ⟨view, rep, .refl _, fun _ => rfl, Or.inr (Or.inl rfl), rfl⟩
      · exact ⟨view, rep.latches _ s.extendMutex, .refl _, fun _ => rfl,
          Or.inr (Or.inr ⟨rid, rfl, rfl⟩), rfl⟩
  | recoverSpace pageId =>
      obtain ⟨page, found, pair⟩ := Option.map_eq_some_iff.mp result
      obtain ⟨rfl, rfl⟩ := Prod.mk.inj pair
      obtain ⟨bound, rfl, -⟩ := rep.pageToOffset_some found
      exact ⟨_, rep.recoverSpace bound, view.store_repack bound, fun _ => rfl,
        Or.inr (Or.inl rfl), rfl⟩
  | extendSegment answer =>
      obtain ⟨⟨rc, s₁⟩, extended, pair⟩ := Option.map_eq_some_iff.mp result
      obtain ⟨rfl, rfl⟩ := Prod.mk.inj pair
      obtain ⟨-, ⟨-, done⟩ | ⟨-, done⟩⟩ := extendLatched_refines rep extended
      · exact ⟨view.extend, done.rep, view.store_extend, fun _ => rfl, Or.inl done.mutex,
          done.extendMutex⟩
      · exact ⟨view, done.rep, .refl _, fun _ => rfl, Or.inr (Or.inl done.mutex),
          done.extendMutex⟩

/-! ### Sessions -/

/-- The file represents a store that is where the replies so far lead. -/
def Tracked (trace : DmsTrace) (s : DmsFile) : Prop :=
  ∃ view, FileRep s view ∧ IdStore.Follows (history trace) view.store

/-- A rid that an insert returned never names the slot behind the last one. -/
theorem Tracked.issued_withinSlots {trace : DmsTrace} {s : DmsFile}
    (tracked : Tracked trace s) {rid : DmsRecordId} (issued : rid ∈ issuedRids trace) :
    ¬ s.PastLastSlot rid := by
  obtain ⟨view, rep, follows⟩ := tracked
  intro past
  obtain ⟨-, last⟩ := (pastLastSlot_iff rep.toFileLayout).mp past
  have allocated : rid.slotId < (view.page rid.pageId).slots.length :=
    (follows.allocation rid).mpr issued
  omega

/-- A new file is where the empty history leads. -/
theorem NewFile.tracked {s : DmsFile} (new : NewFile s) : Tracked [] s := by
  refine ⟨.empty, new.rep, .nil ?_⟩
  intro rid allocated
  exact Nat.not_lt_zero _ (FileView.page_lt_of_allocated allocated)

/-- One orderly call extends the history by what its reply tells. -/
theorem Tracked.step {trace : DmsTrace} {s s' : DmsFile} (tracked : Tracked trace s)
    {op : DmsOp} {reply : DmsReply} (orderly : Orderly s op)
    (result : DmsFile.exec op s = some (reply, s')) :
    Tracked (trace ++ [⟨s, op, reply, s'⟩]) s' := by
  obtain ⟨view, rep, follows⟩ := tracked
  obtain ⟨view', executed⟩ := exec_refines rep orderly result
  refine ⟨view', executed.rep, ?_⟩
  rw [history_append_singleton]
  exact follows.step executed.step

section Sessions

variable {allowed : DmsTrace → DmsFile → DmsOp → Prop} {start s : DmsFile} {trace : DmsTrace}

/-- Along a session of orderly calls the store is where the replies lead. -/
theorem session_tracked (fresh : start.Fresh)
    (orderly : ∀ {trace s op}, Tracked trace s → allowed trace s op → Orderly s op)
    (run : Session allowed start trace s) : Tracked trace s := by
  refine Run.invariant_with_trace (fresh_newFile fresh).tracked ?_ run
  intro trace s op reply s' past tracked guard result
  exact tracked.step (orderly tracked guard) result

/-- Removing only rids that were handed out is orderly. -/
theorem orderly_of_removesIssued {op : DmsOp} (tracked : Tracked trace s)
    (guard : removesIssued trace s op) : Orderly s op := by
  cases op with
  | remove rid => exact tracked.issued_withinSlots guard
  | insert answers record => trivial
  | find rid => trivial
  | recoverSpace pageId => trivial
  | extendSegment answer => trivial

theorem orderly_of_withinSlots {op : DmsOp} (guard : withinSlots trace s op) :
    Orderly s op := by
  cases op with
  | remove rid => exact guard
  | insert answers record => trivial
  | find rid => trivial
  | recoverSpace pageId => trivial
  | extendSegment answer => trivial

theorem withinSlots_of_ridsIssued {op : DmsOp} (tracked : Tracked trace s)
    (guard : ridsIssued trace s op) : withinSlots trace s op := by
  cases op with
  | remove rid => exact tracked.issued_withinSlots guard
  | find rid => exact tracked.issued_withinSlots guard
  | insert answers record => trivial
  | recoverSpace pageId => trivial
  | extendSegment answer => trivial

/-- A `find` of any rid but the one behind the last slot returns. -/
theorem find_returns {view : FileView} (rep : FileLayout s view) {rid : DmsRecordId}
    (noWriter : s.mutex.writer = false) (within : ¬ s.PastLastSlot rid) :
    ∃ reply, s.find rid = some (.returns reply, s) := by
  cases contents : view.recordAt rid with
  | none => exact ⟨_, find_dead rep noWriter contents within⟩
  | some record => exact ⟨_, find_live rep noWriter contents⟩

/-- Between two calls no latch is held. -/
def Settled (s : DmsFile) : Prop := s.mutex = .init ∧ s.extendMutex = .init

theorem Settled.step {s' : DmsFile} {op : DmsOp} {reply : DmsReply} (settled : Settled s)
    (tracked : Tracked trace s) (within : withinSlots trace s op)
    (result : DmsFile.exec op s = some (reply, s')) : Settled s' := by
  obtain ⟨free, extendFree⟩ := settled
  obtain ⟨view, rep, -⟩ := tracked
  obtain ⟨view', executed⟩ := exec_refines rep (orderly_of_withinSlots within) result
  refine ⟨?_, executed.extendMutex.trans extendFree⟩
  rcases executed.mutex with mutex | mutex | ⟨rid, rfl, rfl⟩
  · exact mutex
  · exact mutex.trans free
  · -- only an exception keeps the latch, and there is none
    have noWriter : s.mutex.writer = false := by
      rw [free]
      rfl
    obtain ⟨answer, returned⟩ := find_returns rep.toFileLayout noWriter within
    rw [DmsFile.exec, returned] at result
    cases result

/-- A session that asks for no slot behind the last one leaves no latch held. -/
theorem session_settled (fresh : start.Fresh)
    (within : ∀ {trace s op}, Tracked trace s → allowed trace s op →
      withinSlots trace s op)
    (run : Session allowed start trace s) : Tracked trace s ∧ Settled s := by
  have new := fresh_newFile fresh
  let holds (trace : DmsTrace) (s : DmsFile) : Prop := Tracked trace s ∧ Settled s
  have initially : holds [] start := ⟨new.tracked, new.mutex, new.extendMutex⟩
  refine Run.invariant_with_trace initially ?_ run
  rintro trace s op reply s' past ⟨tracked, settled⟩ guard result
  have inside := within tracked guard
  exact ⟨tracked.step (orderly_of_withinSlots inside) result,
    settled.step tracked inside result⟩

end Sessions

/-! ### Sessions that only extend the file -/

/-- The file after `n` successful extensions and nothing else. -/
structure Lengthened (s : DmsFile) (n : Nat) : Prop where
  rep : FileRep s (.blank n)
  body : s.body = (List.range n).map fun i => 65536 + 134217728 * i
  size : s.fileOp.file.size = 65536 + 134217728 * n
  settled : Settled s

theorem NewFile.lengthened {s : DmsFile} (new : NewFile s) : Lengthened s 0 :=
  ⟨new.rep, new.body, new.size, new.mutex, new.extendMutex⟩

/-- With every system call granted and room left, an extension succeeds. -/
theorem Settled.extend {s : DmsFile} {view : FileView} (settled : Settled s)
    (rep : FileRep s view) (aligned : s.fileOp.file.size % 4096 = 0)
    (small : s.fileOp.file.size + 134217728 ≤ OssPrimitiveFileOp.maxFileSize)
    (room : s.mappedBytes + 134217728 ≤ addressSpace) :
    ∃ s', s.extendLatched .granted = some (edbOk, s') ∧ Extended s s' view := by
  have held := rep.latches s.mutex ⟨true⟩
  obtain ⟨s₁, extended⟩ := extendSegment_granted held settled.1 aligned small room
  have latched : s.extendLatched .granted = some (edbOk, s₁.releaseExtendMutex) := by
    rw [DmsFile.extendLatched, settled.2, OssXLatch.tryGet_init]
    dsimp only
    rw [extended]
  obtain ⟨-, ⟨-, done⟩ | ⟨failed, -⟩⟩ := extendLatched_refines rep latched
  · exact ⟨_, latched, done⟩
  · exact absurd rfl failed

theorem Lengthened.extend {s : DmsFile} {n : Nat} (long : Lengthened s n) (few : n < 1000) :
    ∃ s', s.extendLatched .granted = some (edbOk, s') ∧ Lengthened s' (n + 1) := by
  have size := long.size
  have mapped := long.rep.mapped
  have room : s.mappedBytes + 134217728 ≤ addressSpace := by
    have segments : (FileView.blank n).segments = n := rfl
    rw [mapped, segments]
    simp only [addressSpace]
    omega
  have small : s.fileOp.file.size + 134217728 ≤ OssPrimitiveFileOp.maxFileSize := by
    simp only [OssPrimitiveFileOp.maxFileSize]
    omega
  obtain ⟨s', extended, done⟩ := long.settled.extend long.rep (by omega) small room
  refine ⟨s', extended, done.rep, ?_, ?_, done.mutex, done.extendMutex.trans long.settled.2⟩
  · rw [done.body, long.body, size, List.range_succ, List.map_append]
    rfl
  · rw [done.size, size]
    omega

/-- Up to a thousand segments there is a session that extends the file that far. -/
theorem exists_lengthened (allowed : DmsTrace → DmsFile → DmsOp → Prop)
    (mayExtend : ∀ trace s answer, allowed trace s (.extendSegment answer)) :
    ∀ n, n ≤ 1000 → ∃ start trace s, start.Fresh ∧ Session allowed start trace s ∧
      history trace = List.replicate n .keep ∧ Lengthened s n
  | 0, _ => by
      obtain ⟨start, fresh⟩ := exists_fresh
      exact ⟨start, [], start, fresh, .start, rfl, (fresh_newFile fresh).lengthened⟩
  | n + 1, few => by
      obtain ⟨start, trace, s, fresh, run, events, long⟩ :=
        exists_lengthened allowed mayExtend n (Nat.le_of_succ_le few)
      obtain ⟨s', extended, longer⟩ := long.extend few
      have completes : DmsFile.exec (.extendSegment .granted) s =
          some (.code edbOk, s') := by
        rw [DmsFile.exec, extended]
        rfl
      refine ⟨start, _, s', fresh, run.step (mayExtend trace s _) completes, ?_, longer⟩
      rw [history_append_singleton, events, List.replicate_succ']
      rfl

end EmeraldDb
