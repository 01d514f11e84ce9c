/-
Module: EmeraldDb.Proofs.StoreThreads
Purpose: Threads that insert, remove and find on one file at the same time see a store of
  records that takes their calls one after the other, and none of them is stuck for good.
Trusted boundary: none
Main exports: storeStep_refines, StoreCoupled, storeThreads_linearizable,
  storeThreads_indexExact, storeThreads_progress
-/
import EmeraldDb.Dms.StoreThreads
import EmeraldDb.Proofs.InsertThreads
import EmeraldDb.Proofs.PageInvariant
import EmeraldDb.Proofs.RecordStore

namespace EmeraldDb

open ByteMemory
open DmsFile (ExtendAnswer InsertReply)

/-! ### The store -/

section Spec

variable {store store₁ next : IdStore DmsRecordId (List UInt8)} {op : StoreOp} {reply : DmsReply}

/-- A call behind a change that does not show is a call from the start. -/
theorem StoreSpec.keep_trans (hidden : IdStore.Step store .keep store₁)
    (call : StoreSpec store₁ op reply next) : StoreSpec store op reply next := by
  have same : ∀ rid, store₁.contents rid = store.contents rid := by
    cases hidden with
    | keep _ same => exact same
  cases call with
  | stored step => exact .stored (hidden.keep_trans step)
  | refused error step => exact .refused error (hidden.keep_trans step)
  | threw step => exact .threw (hidden.keep_trans step)
  | removed step => exact .removed (hidden.keep_trans step)
  | nothingRemoved empty step =>
      exact .nothingRemoved ((same _).symm.trans empty) (hidden.keep_trans step)
  | found held step => exact .found ((same _).symm.trans held) (hidden.keep_trans step)
  | nothingFound empty step =>
      exact .nothingFound ((same _).symm.trans empty) (hidden.keep_trans step)

/-- A call allocates the rid it returns, and takes none back. -/
theorem StoreSpec.allocates (call : StoreSpec store op reply next) :
    (∀ rid, store.allocated rid → next.allocated rid) ∧
      ∀ out rid, reply = .inserted (.returns ⟨edbOk, out, some rid⟩) → next.allocated rid := by
  cases call with
  | @stored record out rid next step =>
      refine ⟨fun _ => step.allocated_mono, ?_⟩
      rintro out' rid' ⟨⟩
      cases step with
      | put _ _ _ allocated _ _ => exact (allocated rid).mpr (.inl rfl)
  | refused error step => exact ⟨fun _ => step.allocated_mono, nofun⟩
  | threw step => exact ⟨fun _ => step.allocated_mono, nofun⟩
  | removed step => exact ⟨fun _ => step.allocated_mono, nofun⟩
  | nothingRemoved _ step => exact ⟨fun _ => step.allocated_mono, nofun⟩
  | found _ step => exact ⟨fun _ => step.allocated_mono, nofun⟩
  | nothingFound _ step => exact ⟨fun _ => step.allocated_mono, nofun⟩

/-- In an order of calls, every rid that one of them returned is allocated at the end. -/
theorem legal_allocated {order : List (Effect StoreOp DmsReply)}
    (legal : Legal StoreSpec store order next) : ∀ e ∈ order, ∀ out rid,
      e.reply = .inserted (.returns ⟨edbOk, out, some rid⟩) → next.allocated rid := by
  induction legal with
  | start => simp
  | effect past call ih =>
      obtain ⟨mono, returned⟩ := call.allocates
      rw [List.forall_mem_append, List.forall_mem_singleton]
      exact ⟨fun e member out rid same => mono rid (ih e member out rid same), returned⟩

/-- A rid that a client knows is allocated. -/
theorem RidReturned.allocated {history : StoreEvents} {order : List (Effect StoreOp DmsReply)}
    {rid : DmsRecordId} (returned : RidReturned history rid)
    (linearization : Linearization StoreSpec store history order next) :
    next.allocated rid := by
  obtain ⟨t, out, member⟩ := returned
  obtain ⟨j, found⟩ := List.mem_iff_getElem?.mp member
  obtain ⟨e, inOrder, -, reply, -⟩ := linearization.answered j t _ found
  exact legal_allocated linearization.legal e inOrder out rid reply

end Spec

/-! ### One step of a thread -/

/-- The lock `_extendMutex` across a step. -/
abbrev ExtendLockStep (s s' : DmsFile) (before after : Bool) : Prop :=
  LockStep s.extendMutex.held s'.extendMutex.held before after

/-- What a step of a thread leaves behind: the file is represented, `_mutex` is free, and
only the step that fixes the reply shows in the store. -/
structure StoreStepped (op : StoreOp) (s s' : DmsFile) (view view' : FileView)
    (before after : StorePosition) : Prop where
  rep : FileRep s' view'
  mutex : s'.mutex = .init
  latch : ExtendLockStep s s' before.holdsExtendMutex after.holdsExtendMutex
  shows : storeResult before = none ∧
    (storeResult after = none ∧ IdStore.Step view.store .keep view'.store ∨
      ∃ reply, storeResult after = some reply ∧ StoreSpec view.store op reply view'.store)

section Inserting

variable {record : BsonObj} {answer : ExtendAnswer} {s s' : DmsFile} {view : FileView}
  {before after : InsertPosition}

/-- A step of an insert that does not finish it and does not touch the file. -/
theorem StoreStepped.of_kept (rep : FileRep s view) (free : s.mutex = .init)
    (latch : OssXLatch)
    (locked : LockStep s.extendMutex.held latch.held before.holdsExtendMutex
      after.holdsExtendMutex)
    (unfinished : storeResult (.inserting before) = none)
    (goesOn : storeResult (.inserting after) = none) :
    StoreStepped (.insert record) s { s with extendMutex := latch } view view
      (.inserting before) (.inserting after) where
  rep := rep.latches s.mutex latch
  mutex := free
  latch := locked
  shows := ⟨unfinished, .inl ⟨goesOn, .refl _⟩⟩

/-- A step of an insert that refuses the record. -/
theorem StoreStepped.of_refused {completion : Completion InsertReply} (rep : FileRep s view)
    (free : s.mutex = .init) (latch : OssXLatch)
    (locked : LockStep s.extendMutex.held latch.held before.holdsExtendMutex false)
    (unfinished : storeResult (.inserting before) = none)
    (refused : StoreSpec view.store (.insert record) (.inserted completion) view.store) :
    StoreStepped (.insert record) s { s with extendMutex := latch } view view
      (.inserting before) (.inserting (.finished completion)) where
  rep := rep.latches s.mutex latch
  mutex := free
  latch := locked
  shows := ⟨unfinished, .inr ⟨_, rfl, refused⟩⟩

theorem PageOutcome.storeSpec {view' : FileView} {p : Nat} {completion : Completion InsertReply}
    (outcome : PageOutcome view record p completion view') :
    StoreSpec view.store (.insert record) (.inserted completion) view'.store := by
  cases outcome with
  | stored fits step => exact .stored step
  | refused tight step => exact .refused (by decide) step

/-- The critical section behind `retry`. -/
theorem retrying_refines (rep : FileRep s view)
    (step : advance record answer s .retrying = some (after, s')) :
    ∃ view', StoreStepped (.insert record) s s' view view' (.inserting .retrying)
      (.inserting after) := by
  rw [advance] at step
  obtain ⟨held, taken, behind⟩ := Option.map_eq_some_iff.mp step
  have released := (OssSLatch.get_some taken).2
  dsimp only at behind
  have latched := rep.latches held s.extendMutex
  split at behind
  next missing =>
    cases behind
    exact ⟨view, latched.latches held.release s.extendMutex, released, .inl ⟨rfl, rfl⟩, rfl,
      .inl ⟨rfl, .refl _⟩⟩
  next found =>
    have bound := (latched.findPage _ (insertKey_lt record)).resolve_right
      fun missing => found missing.1
    cases inserted : { s with mutex := held }.insertIntoPage record
        ({ s with mutex := held }.findPage (record.objsize + sizeofDmsRecord)) with
    | mk completion s₁ =>
        rw [inserted] at behind
        cases behind
        obtain ⟨view', rep', outcome, -, mutex, extendMutex⟩ :=
          insertIntoPage_refines latched bound.1 inserted
        refine ⟨view', rep', mutex.trans released, .inl ⟨?_, rfl⟩, rfl,
          .inr ⟨_, rfl, outcome.storeSpec⟩⟩
        rw [extendMutex]

/-- The checks of the record. -/
theorem entered_refines (rep : FileRep s view) (free : s.mutex = .init)
    (step : advance record answer s .entered = some (after, s')) :
    ∃ view', StoreStepped (.insert record) s s' view view' (.inserting .entered)
      (.inserting after) := by
  have untouched : LockStep s.extendMutex.held s.extendMutex.held false false :=
    .inl ⟨rfl, rfl⟩
  have refused : StoreSpec view.store (.insert record)
      (.inserted (.returns (.failed edbInvalidArg))) view.store := .refused (by decide) (.refl _)
  rw [advance] at step
  split at step
  next =>
    cases step
    exact ⟨view, .of_refused rep free s.extendMutex untouched rfl refused⟩
  next =>
    split at step
    next =>
      cases step
      exact ⟨view, .of_refused rep free s.extendMutex untouched rfl (.threw (.refl _))⟩
    next => cases step
    next =>
      cases step
      exact ⟨view, .of_refused rep free s.extendMutex untouched rfl refused⟩
    next =>
      cases step
      exact ⟨view, .of_kept rep free s.extendMutex untouched rfl rfl⟩

/-- Every step of an insert. -/
theorem inserting_refines (rep : FileRep s view) (free : s.mutex = .init)
    (step : advance record answer s before = some (after, s')) :
    ∃ view', StoreStepped (.insert record) s s' view view' (.inserting before)
      (.inserting after) := by
  cases before with
  | entered => exact entered_refines rep free step
  | retrying => exact retrying_refines rep step
  | missed seen =>
      rw [advance] at step
      split at step
      next held taken =>
        cases step
        have available := OssXLatch.tryGet_some taken
        refine ⟨view, .of_kept rep free held (.inr (.inl ⟨?_, ?_, rfl⟩)) rfl rfl⟩
        · rw [available]
          rfl
        · exact OssXLatch.held_of_tryGet taken
      next =>
        cases step
        exact ⟨view, .of_kept rep free s.extendMutex (.inl ⟨rfl, rfl⟩) rfl rfl⟩
  | extending seen =>
      rw [advance] at step
      obtain ⟨⟨rc, s₁⟩, extended, same⟩ := Option.map_eq_some_iff.mp step
      cases same
      rcases extendSegment_refines rep extended with ⟨-, done⟩ | ⟨-, done⟩
      · refine ⟨view.extend, done.rep, done.mutex, .inl ⟨?_, rfl⟩, rfl,
          .inl ⟨rfl, view.store_extend⟩⟩
        rw [done.extendMutex]
      · refine ⟨view, done.rep, done.mutex.trans free, .inl ⟨?_, rfl⟩, rfl, .inl ⟨rfl, .refl _⟩⟩
        rw [done.extendMutex]
  | extended rc =>
      rw [advance] at step
      cases step
      have givenBack : LockStep s.extendMutex.held s.extendMutex.release.held true false :=
        .inr (.inr ⟨rfl, rfl, rfl⟩)
      split
      next failed =>
        exact ⟨view, .of_refused rep free _ givenBack rfl (.refused failed (.refl _))⟩
      next => exact ⟨view, .of_kept rep free _ givenBack rfl rfl⟩
  | waiting =>
      rw [advance] at step
      obtain ⟨held, taken, same⟩ := Option.map_eq_some_iff.mp step
      cases same
      have available : s.extendMutex = .init := OssXLatch.tryGet_some taken
      refine ⟨view, .of_kept rep free held (.inr (.inl ⟨?_, ?_, rfl⟩)) rfl rfl⟩
      · rw [available]
        rfl
      · exact OssXLatch.held_of_tryGet taken
  | woken =>
      rw [advance] at step
      cases step
      exact ⟨view, .of_kept rep free _ (.inr (.inr ⟨rfl, rfl, rfl⟩)) rfl rfl⟩
  | finished completion => cases step

end Inserting

/-- The call can stand there, and does not ask for a rid that was never handed out. -/
def StoreOp.Suits (store : IdStore DmsRecordId (List UInt8)) : StoreOp → StorePosition → Prop
  | .insert _, .inserting _ => True
  | .remove rid, .outside => store.allocated rid
  | .find rid, .outside => store.allocated rid
  | .remove _, .answered _ => True
  | .find _, .answered _ => True
  | _, _ => False

section Suits

variable {store next : IdStore DmsRecordId (List UInt8)} {op : StoreOp}
  {before after : StorePosition}

theorem StoreOp.Suits.mono (suits : op.Suits store before)
    (more : ∀ rid, store.allocated rid → next.allocated rid) : op.Suits next before := by
  unfold StoreOp.Suits at suits ⊢
  split at suits
  next => trivial
  next => exact more _ suits
  next => exact more _ suits
  next => trivial
  next => trivial
  next => exact suits.elim

theorem StoreOp.Suits.step {answer : ExtendAnswer} {s s' : DmsFile}
    (step : storeStep op answer s before = some (after, s')) : op.Suits store after := by
  unfold storeStep at step
  split at step
  next =>
    obtain ⟨_, _, same⟩ := Option.map_eq_some_iff.mp step
    cases same
    trivial
  next =>
    obtain ⟨_, _, same⟩ := Option.map_eq_some_iff.mp step
    cases same
    trivial
  next =>
    obtain ⟨_, _, same⟩ := Option.map_eq_some_iff.mp step
    cases same
    trivial
  next => cases step

end Suits

section Steps

variable {s s' : DmsFile} {view : FileView} {rid : DmsRecordId}

/-- An allocated rid is not that of the slot behind the last one. -/
theorem not_pastLastSlot (rep : FileRep s view) (allocated : view.store.allocated rid) :
    ¬ s.PastLastSlot rid := by
  intro past
  obtain ⟨-, last⟩ := (pastLastSlot_iff rep.toFileLayout).mp past
  have inside : rid.slotId < (view.page rid.pageId).slots.length := allocated
  omega

/-- `remove` of an allocated rid. -/
theorem remove_storeSpec (rep : FileRep s view) (free : s.mutex = .init)
    (allocated : view.store.allocated rid) :
    ∃ rc s' view', s.remove rid = some (rc, s') ∧ FileRep s' view' ∧ s'.mutex = .init ∧
      s'.extendMutex = s.extendMutex ∧
      StoreSpec view.store (.remove rid) (.code rc) view'.store := by
  cases live : view.recordAt rid with
  | some record =>
      obtain ⟨s', view', removed, rep', step, mutex, extendMutex⟩ := remove_live rep free live
      exact ⟨edbOk, s', view', removed, rep', mutex, extendMutex, .removed step⟩
  | none =>
      have empty : view.store.contents rid = none := Option.map_eq_none_iff.mpr live
      exact ⟨edbSys, s, view, remove_dead rep free live (not_pastLastSlot rep allocated), rep,
        free, rfl, .nothingRemoved empty (.refl _)⟩

/-- `find` of an allocated rid. -/
theorem find_storeSpec (rep : FileRep s view) (free : s.mutex = .init)
    (allocated : view.store.allocated rid) :
    ∃ reply, s.find rid = some (.returns reply, s) ∧
      StoreSpec view.store (.find rid) (.found (.returns reply)) view.store := by
  have noWriter : s.mutex.writer = false := by
    rw [free]
    rfl
  cases live : view.recordAt rid with
  | some record =>
      have held : view.store.contents rid = some record.bytes := by
        simp [FileView.store, live]
      exact ⟨_, find_live rep.toFileLayout noWriter live, .found held (.refl _)⟩
  | none =>
      have empty : view.store.contents rid = none := Option.map_eq_none_iff.mpr live
      exact ⟨_, find_dead rep.toFileLayout noWriter live (not_pastLastSlot rep allocated),
        .nothingFound empty (.refl _)⟩

/-- Every step of a call keeps the file represented; the last one is the step of the store
that the reply tells of. -/
theorem storeStep_refines {op : StoreOp} {answer : ExtendAnswer} {before after : StorePosition}
    (rep : FileRep s view) (free : s.mutex = .init)
    (suits : op.Suits view.store before)
    (step : storeStep op answer s before = some (after, s')) :
    ∃ view', StoreStepped op s s' view view' before after := by
  unfold storeStep at step
  split at step
  next record position =>
    obtain ⟨⟨position', s₁⟩, advanced, same⟩ := Option.map_eq_some_iff.mp step
    cases same
    exact inserting_refines rep free advanced
  next rid =>
    obtain ⟨⟨rc, s₁⟩, removed, same⟩ := Option.map_eq_some_iff.mp step
    cases same
    obtain ⟨rc', s'', view', removed', rep', mutex, extendMutex, call⟩ :=
      remove_storeSpec rep free suits
    rw [removed'] at removed
    cases removed
    refine ⟨view', rep', mutex, .inl ⟨?_, rfl⟩, rfl, .inr ⟨_, rfl, call⟩⟩
    rw [extendMutex]
  next rid =>
    obtain ⟨⟨completion, s₁⟩, looked, same⟩ := Option.map_eq_some_iff.mp step
    cases same
    obtain ⟨reply, looked', call⟩ := find_storeSpec rep free suits
    rw [looked'] at looked
    cases looked
    exact ⟨view, rep, free, .inl ⟨rfl, rfl⟩, rfl, .inr ⟨_, rfl, call⟩⟩
  next => cases step

end Steps

/-! ### Runs -/

/-- What every run keeps: the file represents the store up to what does not show, `_mutex`
is free between two steps, `_extendMutex` is held by the thread that has it, and no thread
asks for a rid that was never handed out. -/
structure StoreCoupled (threads : StoreThreads) (store : IdStore DmsRecordId (List UInt8)) :
    Prop where
  file : ∃ view, FileRep threads.object view ∧ IdStore.Step store .keep view.store
  mutex : threads.object.mutex = .init
  extendMutex : LockOwned StorePosition.holdsExtendMutex (·.extendMutex.held) threads
  suits : ∀ t op position, threads.inside t = some (op, position) → op.Suits store position

section Coupled

variable {threads : StoreThreads} {store next : IdStore DmsRecordId (List UInt8)} {t : Nat}
  {op : StoreOp}

/-- The other threads stay where they are. -/
theorem StoreCoupled.suits_move (coupled : StoreCoupled threads store) {object : DmsFile}
    {stand : Option (StoreOp × StorePosition)}
    (mono : ∀ rid, store.allocated rid → next.allocated rid)
    (mine : ∀ op position, stand = some (op, position) → op.Suits next position) :
    ∀ u op position, (threads.move object t stand).inside u = some (op, position) →
      op.Suits next position := by
  intro u op position inside
  by_cases here : u = t
  · subst here
    rw [Threads.move_inside_self] at inside
    exact mine op position inside
  · rw [Threads.move_inside_of_ne _ _ _ here] at inside
    exact (coupled.suits u op position inside).mono mono

/-- The shared file simulates the store. -/
theorem store_simulates : Simulates storeCode ridsReturned StoreSpec emptyStore storeResult
    StoreCoupled where
  entered := by
    intro op
    cases op with
    | insert record => rfl
    | remove rid => rfl
    | find rid => rfl
  finished := fun _ _ returned => returned
  call := by
    intro trace threads order store t op coupled linearization guard outside
    have without : ¬ threads.Holds StorePosition.holdsExtendMutex t := by
      rintro ⟨op', position, inside, -⟩
      rw [outside] at inside
      cases inside
    have starts : ∀ op' position, some (op, storeCode.enter op) = some (op', position) →
        position.holdsExtendMutex = false := by
      rintro op' position ⟨⟩
      cases op with
      | insert record => rfl
      | remove rid => rfl
      | find rid => rfl
    refine ⟨coupled.file, coupled.mutex, coupled.extendMutex.outside without starts, ?_⟩
    refine coupled.suits_move (fun _ was => was) ?_
    rintro op' position ⟨⟩
    cases op with
    | insert record => trivial
    | remove rid => exact RidReturned.allocated guard linearization
    | find rid => exact RidReturned.allocated guard linearization
  step := by
    intro threads store t op answer position position' object coupled inside step
    obtain ⟨view, rep, hidden⟩ := coupled.file
    have suits := (coupled.suits t op position inside).mono fun _ => hidden.allocated_mono
    obtain ⟨view', stepped⟩ := storeStep_refines rep coupled.mutex suits step
    have latch := coupled.extendMutex.step inside stepped.latch
    have mine : ∀ (later : IdStore DmsRecordId (List UInt8)) op' stand,
        some (op, position') = some (op', stand) → op'.Suits later stand := by
      rintro later op' stand ⟨⟩
      exact .step step
    obtain ⟨unfinished, ⟨goesOn, kept⟩ | ⟨reply, finished, call⟩⟩ := stepped.shows
    · refine .inl ⟨goesOn.trans unfinished.symm, ⟨view', stepped.rep, hidden.keep_trans kept⟩,
        stepped.mutex, latch, ?_⟩
      exact coupled.suits_move (fun _ was => was) (mine store)
    · have whole := call.keep_trans hidden
      refine .inr ⟨reply, view'.store, unfinished, finished, whole,
        ⟨view', stepped.rep, .refl _⟩, stepped.mutex, latch, ?_⟩
      exact coupled.suits_move whole.allocates.1 (mine _)
  ret := by
    intro threads store t op position reply coupled inside returned
    have without : ¬ threads.Holds StorePosition.holdsExtendMutex t := by
      rintro ⟨op', position', inside', holds⟩
      rw [inside] at inside'
      cases inside'
      cases position with
      | inserting position =>
          cases position with
          | finished completion => cases holds
          | _ => cases returned
      | outside => cases returned
      | answered reply => cases holds
    refine ⟨coupled.file, coupled.mutex, coupled.extendMutex.outside without nofun, ?_⟩
    exact coupled.suits_move (fun _ was => was) nofun

end Coupled

/-- Threads that start on a new file. -/
theorem StoreCoupled.start {file : DmsFile} (fresh : file.Fresh) :
    StoreCoupled (.start file) emptyStore := by
  have new := fresh_newFile fresh
  have unlocked : file.extendMutex.held = false := by
    rw [new.extendMutex]
    rfl
  exact ⟨⟨.empty, new.rep, .refl _⟩, new.mutex, .start unlocked, nofun⟩

section Runs

variable {file : DmsFile} {trace : StoreTrace} {threads : StoreThreads}

theorem StoreRun.coupled (fresh : file.Fresh) (run : StoreRun file trace threads) :
    ∃ order store, Linearization StoreSpec emptyStore (clientHistory trace) order store ∧
      StoreCoupled threads store := by
  obtain ⟨order, store, linearization, coupled, -⟩ :=
    store_simulates.linearization (.start fresh) run
  exact ⟨order, store, linearization, coupled⟩

/-- In every interleaving of inserts, removes and finds on one file, one order of the calls
explains every reply and agrees with real time, and the file holds what it leads to. -/
theorem storeThreads_linearizable (fresh : file.Fresh) (run : StoreRun file trace threads) :
    ∃ order store, Linearization StoreSpec emptyStore (clientHistory trace) order store ∧
      ∀ rid, store.allocated rid → Finds threads.object rid (store.contents rid) := by
  obtain ⟨order, store, linearization, coupled⟩ := run.coupled fresh
  refine ⟨order, store, linearization, ?_⟩
  obtain ⟨view, rep, hidden⟩ := coupled.file
  have noWriter : threads.object.mutex.writer = false := by
    rw [coupled.mutex]
    rfl
  intro rid allocated
  have inView := hidden.allocated_mono allocated
  have same : view.store.contents rid = store.contents rid := by
    cases hidden with
    | keep _ same => exact same rid
  rw [← same]
  cases held : view.store.contents rid with
  | some bytes => exact find_of_contents rep.toFileLayout noWriter held
  | none =>
      have dead : view.recordAt rid = none := Option.map_eq_none_iff.mp held
      exact ⟨edbSys, by decide,
        find_dead rep.toFileLayout noWriter dead (not_pastLastSlot rep inView)⟩

/-! ### Two threads on a new file -/

/-- Some run of threads on the file shows the clients this, and leaves the threads there. -/
def Reaches (file : DmsFile) (history : StoreEvents) (threads : StoreThreads) : Prop :=
  ∃ trace, StoreRun file trace threads ∧ clientHistory trace = history

section Reaches

variable {history : StoreEvents} {t : Nat} {op : StoreOp} {position position' : StorePosition}

theorem Reaches.start (file : DmsFile) : Reaches file [] (.start file) := ⟨[], .start, rfl⟩

theorem Reaches.callInsert (reaches : Reaches file history threads)
    (outside : threads.inside t = none) (record : BsonObj) :
    Reaches file (history ++ [.call t (.insert record)])
      (threads.move threads.object t (some (.insert record, .inserting .entered))) := by
  obtain ⟨trace, run, rfl⟩ := reaches
  have completes : storeCode.exec (.call t (.insert record)) threads =
      some (some (.call t (.insert record)),
        threads.move threads.object t (some (.insert record, .inserting .entered))) := by
    rw [ObjectCode.exec, outside]
    rfl
  have guard : ridsReturned trace threads (.call t (.insert record)) := trivial
  exact ⟨_, run.step guard completes, clientHistory_snoc _ _⟩

theorem Reaches.callFind (reaches : Reaches file history threads)
    (outside : threads.inside t = none) {rid : DmsRecordId} (returned : RidReturned history rid) :
    Reaches file (history ++ [.call t (.find rid)])
      (threads.move threads.object t (some (.find rid, .outside))) := by
  obtain ⟨trace, run, rfl⟩ := reaches
  have completes : storeCode.exec (.call t (.find rid)) threads =
      some (some (.call t (.find rid)),
        threads.move threads.object t (some (.find rid, .outside))) := by
    rw [ObjectCode.exec, outside]
    rfl
  have guard : ridsReturned trace threads (.call t (.find rid)) := returned
  exact ⟨_, run.step guard completes, clientHistory_snoc _ _⟩

theorem Reaches.step (reaches : Reaches file history threads) {answer : ExtendAnswer}
    {object : DmsFile} (inside : threads.inside t = some (op, position))
    (steps : storeStep op answer threads.object position = some (position', object)) :
    Reaches file history (threads.move object t (some (op, position'))) := by
  obtain ⟨trace, run, rfl⟩ := reaches
  have completes : storeCode.exec (.step t answer) threads =
      some (none, threads.move object t (some (op, position'))) := by
    rw [ObjectCode.exec, inside]
    simp [storeCode, steps]
  have guard : ridsReturned trace threads (.step t answer) := trivial
  refine ⟨_, run.step guard completes, ?_⟩
  rw [clientHistory_snoc]
  exact List.append_nil _

theorem Reaches.advance (reaches : Reaches file history threads) {record : BsonObj}
    {answer : ExtendAnswer} {before after : InsertPosition} {object : DmsFile}
    (inside : threads.inside t = some (.insert record, .inserting before))
    (steps : EmeraldDb.advance record answer threads.object before = some (after, object)) :
    Reaches file history (threads.move object t (some (.insert record, .inserting after))) :=
  reaches.step inside (by rw [storeStep, steps, Option.map_some])

theorem Reaches.ret (reaches : Reaches file history threads) {reply : DmsReply}
    (inside : threads.inside t = some (op, position))
    (finished : storeResult position = some reply) :
    Reaches file (history ++ [.ret t reply]) (threads.move threads.object t none) := by
  obtain ⟨trace, run, rfl⟩ := reaches
  have completes : storeCode.exec (.ret t) threads =
      some (some (.ret t reply), threads.move threads.object t none) := by
    rw [ObjectCode.exec, inside]
    simp [storeCode, finished]
  have guard : ridsReturned trace threads (.ret t) := trivial
  exact ⟨_, run.step guard completes, clientHistory_snoc _ _⟩

end Reaches

/-- Two threads call `insert`, and no page is found.  One takes `_extendMutex`, and the other
waits for it. -/
theorem exists_waiting : ∃ (file : DmsFile) (threads : StoreThreads), NewFile file ∧ file.Fresh ∧
    Reaches file
      [.call 0 (.insert (smallRecords 0)), .call 1 (.insert (smallRecords 1))] threads ∧
    threads.object = { file with extendMutex := ⟨true⟩ } ∧
    threads.inside 0 = some (.insert (smallRecords 0), .inserting (.extending 0)) ∧
    threads.inside 1 = some (.insert (smallRecords 1), .inserting .waiting) := by
  obtain ⟨file, fresh⟩ := exists_fresh
  have new := fresh_newFile fresh
  have missed (t : Nat) : advance (smallRecords t) .granted file .retrying =
      some (.missed FileView.empty.numPages, file) :=
    advance_missed new.rep new.mutex (new.findPage_invalid _)
  have called := ((Reaches.start file).callInsert (t := 0) rfl (smallRecords 0)).callInsert
    (t := 1) rfl (smallRecords 1)
  have entered := (called.advance (t := 0) rfl (advance_entered file 0)).advance (t := 1) rfl
    (advance_entered file 1)
  have searched := (entered.advance (t := 0) rfl (missed 0)).advance (t := 1) rfl (missed 1)
  have first := searched.advance (t := 0) rfl (advance_extending new.extendMutex)
  have second := first.advance (t := 1) rfl (advance_waiting rfl)
  exact ⟨file, _, new, fresh, second, rfl, rfl, rfl⟩

/-- At the label `retry`, an insert whose record every page takes stores it. -/
theorem advance_stores {record : BsonObj} {s : DmsFile} {view : FileView} (rep : FileRep s view)
    (free : s.mutex = .init) (nonempty : 0 < view.numPages)
    (fits : ∀ p, (view.page p).Fits record) (answer : ExtendAnswer) :
    ∃ out rid s', advance record answer s .retrying =
        some (.finished (.returns ⟨edbOk, some out, some rid⟩), s') ∧
      s'.find rid = some (.returns ⟨edbOk, some record.bytes⟩, s') := by
  obtain ⟨bound, found⟩ := rep.findPage_of_fits nonempty fits
  have held : FileRep { s with mutex := ⟨true, 0⟩ } view := rep.latches _ s.extendMutex
  have same : { s with mutex := ⟨true, 0⟩ }.findPage (record.objsize + sizeofDmsRecord) =
      s.findPage (record.objsize + sizeofDmsRecord) := rfl
  have taken : s.mutex.get = some ⟨true, 0⟩ := by rw [free, OssSLatch.get_init]
  cases inserted : { s with mutex := ⟨true, 0⟩ }.insertIntoPage record
      (s.findPage (record.objsize + sizeofDmsRecord)) with
  | mk completion s' =>
      obtain ⟨view', rep', outcome, -, mutex, -⟩ := insertIntoPage_refines held bound inserted
      cases outcome with
      | @stored out rid _ room step =>
          have noWriter : s'.mutex.writer = false := by
            rw [mutex]
            rfl
          have stores : advance record answer s .retrying =
              some (.finished (.returns ⟨edbOk, some out, some rid⟩), s') := by
            rw [advance, taken, Option.map_some]
            dsimp only
            rw [same, if_neg found, inserted]
          exact ⟨out, rid, s', stores,
            find_of_contents rep'.toFileLayout noWriter (contents_of_put step)⟩
      | refused tight step => exact absurd (fits _) tight

/-- The one that extends the file stores its record and finds it; the other still waits. -/
theorem exists_replies : ∃ (file : DmsFile) (threads : StoreThreads) (out : Nat)
    (rid : DmsRecordId), file.Fresh ∧
    Reaches file
      [.call 0 (.insert (smallRecords 0)), .call 1 (.insert (smallRecords 1)),
        .ret 0 (.inserted (.returns ⟨edbOk, some out, some rid⟩)), .call 0 (.find rid),
        .ret 0 (.found (.returns ⟨edbOk, some (smallRecords 0).bytes⟩))] threads ∧
    threads.inside 1 = some (.insert (smallRecords 1), .inserting .waiting) := by
  obtain ⟨file, threads, new, fresh, reaches, object, inside₀, inside₁⟩ := exists_waiting
  obtain ⟨grown, extended, rep, free⟩ := new.extendSegment
  rw [← object] at extended
  have steps : advance (smallRecords 0) .granted threads.object (.extending 0) =
      some (.extended edbOk, grown) := by
    rw [advance, extended, Option.map_some]
  have extending := reaches.advance inside₀ steps
  have released := extending.advance (t := 0) rfl (advance_extended (smallRecords 0) grown)
  have fits : ∀ p, ((FileView.blank 1).page p).Fits (smallRecords 0) := fun p =>
    empty_fits_iff.mpr (by decide)
  obtain ⟨out, rid, s', stores, finds⟩ := advance_stores
    (rep.latches grown.mutex ⟨false⟩) free (by decide) fits .granted
  have stored := (released.advance (t := 0) rfl stores).ret (t := 0) rfl rfl
  have returned : RidReturned
      [.call 0 (.insert (smallRecords 0)), .call 1 (.insert (smallRecords 1)),
        .ret 0 (.inserted (.returns ⟨edbOk, some out, some rid⟩))] rid :=
    ⟨0, some out, List.mem_append_right [_, _] (List.mem_singleton_self _)⟩
  have asked := stored.callFind (t := 0) rfl returned
  have looks : storeStep (.find rid) .granted s' .outside =
      some (.answered (.found (.returns ⟨edbOk, some (smallRecords 0).bytes⟩)), s') := by
    rw [storeStep, finds]
    rfl
  have found := (asked.step (t := 0) rfl looks).ret (t := 0) rfl rfl
  exact ⟨file, _, out, rid, fresh, found, inside₁⟩

/-- Two inserts at the same time and a find have an order. -/
theorem storeThreads_linearizable_replies :
    ∃ (out : Nat) (rid : DmsRecordId) (order : List (Effect StoreOp DmsReply))
      (store : IdStore DmsRecordId (List UInt8)),
      Linearization StoreSpec emptyStore
        [.call 0 (.insert (smallRecords 0)), .call 1 (.insert (smallRecords 1)),
          .ret 0 (.inserted (.returns ⟨edbOk, some out, some rid⟩)), .call 0 (.find rid),
          .ret 0 (.found (.returns ⟨edbOk, some (smallRecords 0).bytes⟩))] order store := by
  obtain ⟨file, threads, out, rid, fresh, ⟨trace, run, history⟩, -⟩ := exists_replies
  obtain ⟨order, store, linearization, -⟩ := storeThreads_linearizable fresh run
  rw [history] at linearization
  exact ⟨out, rid, order, store, linearization⟩

/-- The index of a represented file is exact, and the file header counts the pages. -/
theorem FileRep.index_exact {s : DmsFile} {view : FileView} (rep : FileRep s view) :
    IndexExact s s.getNumPages ∧
      ∃ header, s.header = some header ∧ readU32 s.memory (header + 4) = s.getNumPages := by
  constructor
  · have keys : (List.range s.getNumPages).map (fun p => (freeSpaceOf s p, p)) = view.index := by
      rw [rep.getNumPages_eq, FileView.index]
      apply List.map_congr_left
      intro p inRange
      have bound := List.mem_range.mp inRange
      rw [freeSpaceOf, rep.pageToOffset_eq, if_pos bound, Option.elim_some,
        (rep.pages p bound).freeSpace]
    rw [IndexExact, keys]
    exact rep.index
  · exact ⟨0, rep.header, by rw [Nat.zero_add, rep.headerSize, rep.getNumPages_eq]; rfl⟩

/-- Between any two steps of any threads `_mutex` is free, one thread at most holds
`_extendMutex`, every page is laid out well and the free-space index is exact. -/
theorem storeThreads_inOrder (fresh : file.Fresh) (run : StoreRun file trace threads) :
    threads.object.mutex = .init ∧
      LockOwned StorePosition.holdsExtendMutex (·.extendMutex.held) threads ∧
      (∀ pageId page, threads.object.pageToOffset pageId = some page →
        PageInvariant threads.object.memory page) ∧
      IndexExact threads.object threads.object.getNumPages ∧
      ∃ header, threads.object.header = some header ∧
        readU32 threads.object.memory (header + 4) = threads.object.getNumPages := by
  obtain ⟨order, store, -, coupled⟩ := run.coupled fresh
  obtain ⟨view, rep, -⟩ := coupled.file
  refine ⟨coupled.mutex, coupled.extendMutex, ?_, rep.index_exact⟩
  intro pageId page allocated
  exact (rep.pageToOffset_some allocated).2.2.invariant

/-- While a thread waits in its insert, another one has had its replies, and the index is
exact. -/
theorem storeThreads_inOrder_replies : ∃ threads : StoreThreads,
    threads.inside 1 = some (.insert (smallRecords 1), .inserting .waiting) ∧
      threads.object.mutex = .init ∧
      IndexExact threads.object threads.object.getNumPages := by
  obtain ⟨file, threads, out, rid, fresh, ⟨trace, run, -⟩, inside⟩ := exists_replies
  obtain ⟨free, -, -, exact_, -⟩ := storeThreads_inOrder fresh run
  exact ⟨threads, inside, free, exact_⟩

/-! ### Nobody is stuck -/

/-- The thread can make its next step, whatever the system calls answer, if the writes of
an extension come to an end; or it can return. -/
def CanMove (threads : StoreThreads) (t : Nat) : Prop :=
  (∀ answer, DmsFile.extendFile answer.writes dmsFileSegmentSize threads.object.fileOp ≠ none →
    storeCode.exec (.step t answer) threads ≠ none) ∨
  storeCode.exec (.ret t) threads ≠ none

/-- An extension comes to an end when its writes do. -/
theorem extendSegment_completes {s : DmsFile} {view : FileView} (rep : FileRep s view)
    (free : s.mutex = .init) {answer : ExtendAnswer}
    (written : DmsFile.extendFile answer.writes dmsFileSegmentSize s.fileOp ≠ none) :
    s.extendSegment answer ≠ none := by
  rw [DmsFile.extendSegment]
  cases s.fileOp.getSize answer.fstat with
  | mk rc offset =>
      dsimp only
      split
      next => exact Option.some_ne_none _
      next =>
        obtain ⟨⟨code, op⟩, grew⟩ := Option.ne_none_iff_exists'.mp written
        rw [grew]
        dsimp only
        split
        next => exact Option.some_ne_none _
        next =>
          cases placed : OssMmapFile.map answer.map offset dmsFileSegmentSize
              { s with fileOp := op }.toOssMmapFile with
          | mk mapCode rest =>
              obtain ⟨data, mapped⟩ := rest
              dsimp only
              split
              next => exact Option.some_ne_none _
              next mapOk =>
                have nonempty : 0 < dmsFileSegmentSize := by
                  simp only [dmsFileSegmentSize]
                  omega
                obtain ⟨-, -, ⟨-, rfl, -⟩ | ⟨failed, -⟩⟩ := OssMmapFile.map_spec nonempty placed
                · have header := rep.header
                  have taken : s.mutex.get = some ⟨true, 0⟩ := by rw [free, OssSLatch.get_init]
                  simp only [header, taken]
                  exact Option.some_ne_none _
                · exact absurd failed mapOk

section Moving

variable {store : IdStore DmsRecordId (List UInt8)} {t : Nat} {op : StoreOp}
  {position : StorePosition}

theorem exec_step_ne_none {answer : ExtendAnswer}
    (inside : threads.inside t = some (op, position))
    (steps : storeStep op answer threads.object position ≠ none) :
    storeCode.exec (.step t answer) threads ≠ none := by
  rw [ObjectCode.exec, inside]
  simpa [storeCode] using steps

theorem exec_ret_ne_none (inside : threads.inside t = some (op, position))
    (finished : storeResult position ≠ none) : storeCode.exec (.ret t) threads ≠ none := by
  rw [ObjectCode.exec, inside]
  simpa [storeCode] using finished

/-- Whoever holds `_extendMutex` can go on. -/
theorem canMove_of_holds (coupled : StoreCoupled threads store)
    (inside : threads.inside t = some (op, position))
    (holds : position.holdsExtendMutex = true) : CanMove threads t := by
  obtain ⟨view, rep, -⟩ := coupled.file
  have suits := coupled.suits t op position inside
  refine .inl fun answer written => exec_step_ne_none inside ?_
  cases position with
  | outside => cases holds
  | answered reply => cases holds
  | inserting position =>
      cases op with
      | remove rid => exact suits.elim
      | find rid => exact suits.elim
      | insert record =>
          rw [storeStep]
          cases position with
          | extending seen =>
              have completes := extendSegment_completes rep coupled.mutex written
              simpa [advance] using completes
          | extended rc => simp [advance]
          | woken => simp [advance]
          | _ => cases holds

/-- A thread in an insert can go on, or waits for `_extendMutex`. -/
theorem inserting_canMove (coupled : StoreCoupled threads store) {record : BsonObj}
    {position : InsertPosition}
    (inside : threads.inside t = some (.insert record, .inserting position))
    (scanned : record.getKeyField ≠ .error .runaway) :
    CanMove threads t ∨ position = .waiting ∧ threads.object.extendMutex.held = true := by
  cases place : position.holdsExtendMutex with
  | true => exact .inl (canMove_of_holds coupled inside place)
  | false =>
      cases position with
      | entered =>
          refine .inl (.inl fun answer _ => exec_step_ne_none inside ?_)
          rw [storeStep, ne_eq, Option.map_eq_none_iff, advance]
          split
          next => exact Option.some_ne_none _
          next =>
            split
            next => exact Option.some_ne_none _
            next runaway => exact absurd runaway scanned
            next => exact Option.some_ne_none _
            next => exact Option.some_ne_none _
      | retrying =>
          refine .inl (.inl fun answer _ => exec_step_ne_none inside ?_)
          rw [storeStep, ne_eq, Option.map_eq_none_iff, advance, coupled.mutex,
            OssSLatch.get_init]
          exact Option.some_ne_none _
      | missed seen =>
          refine .inl (.inl fun answer _ => exec_step_ne_none inside ?_)
          rw [storeStep, ne_eq, Option.map_eq_none_iff, advance]
          split
          next => exact Option.some_ne_none _
          next => exact Option.some_ne_none _
      | waiting =>
          cases held : threads.object.extendMutex.held with
          | true => exact .inr ⟨rfl, rfl⟩
          | false =>
              refine .inl (.inl fun answer _ => exec_step_ne_none inside ?_)
              rw [storeStep, ne_eq, Option.map_eq_none_iff, advance, Option.map_eq_none_iff,
                OssXLatch.get, held]
              exact Option.some_ne_none _
      | finished completion =>
          exact .inl (.inr (exec_ret_ne_none inside (Option.some_ne_none _)))
      | extending seen => cases place
      | extended rc => cases place
      | woken => cases place

/-- A thread in a call can go on or return, unless it is an insert that waits for
`_extendMutex`; then another thread holds it, and can go on. -/
theorem storeThreads_progress (fresh : file.Fresh) (run : StoreRun file trace threads)
    (inside : threads.inside t = some (op, position))
    (scanned : ∀ record, op = .insert record → record.getKeyField ≠ .error .runaway) :
    CanMove threads t ∨ position = .inserting .waiting ∧
      ∃ u, u ≠ t ∧ threads.Holds StorePosition.holdsExtendMutex u ∧ CanMove threads u := by
  obtain ⟨order, store, -, coupled⟩ := run.coupled fresh
  obtain ⟨view, rep, hidden⟩ := coupled.file
  have suits := (coupled.suits t op position inside).mono fun _ => hidden.allocated_mono
  cases position with
  | answered reply => exact .inl (.inr (exec_ret_ne_none inside (Option.some_ne_none _)))
  | outside =>
      refine .inl (.inl fun answer _ => exec_step_ne_none inside ?_)
      cases op with
      | insert record => exact suits.elim
      | remove rid =>
          obtain ⟨rc, s', view', removed, -⟩ := remove_storeSpec rep coupled.mutex suits
          rw [storeStep, removed]
          exact Option.some_ne_none _
      | find rid =>
          obtain ⟨reply, looked, -⟩ := find_storeSpec rep coupled.mutex suits
          rw [storeStep, looked]
          exact Option.some_ne_none _
  | inserting position =>
      cases op with
      | remove rid => exact suits.elim
      | find rid => exact suits.elim
      | insert record =>
          rcases inserting_canMove coupled inside (scanned record rfl) with moves | ⟨rfl, held⟩
          · exact .inl moves
          · obtain ⟨u, op', position', inside', holds⟩ := coupled.extendMutex.owned.mp held
            refine .inr ⟨rfl, u, ?_, ⟨op', position', inside', holds⟩,
              canMove_of_holds coupled inside' holds⟩
            rintro rfl
            rw [inside] at inside'
            cases inside'
            cases holds

/-- A thread waits for the holder of `_extendMutex`, which can go on. -/
theorem storeThreads_progress_waiting : ∃ (threads : StoreThreads) (u : Nat),
    threads.inside 1 = some (.insert (smallRecords 1), .inserting .waiting) ∧
      u ≠ 1 ∧ threads.Holds StorePosition.holdsExtendMutex u ∧ CanMove threads u := by
  obtain ⟨file, threads, new, fresh, ⟨trace, run, -⟩, object, -, inside⟩ := exists_waiting
  have scanned : ∀ record, StoreOp.insert (smallRecords 1) = .insert record →
      record.getKeyField ≠ .error .runaway := by
    rintro record ⟨⟩
    decide
  rcases storeThreads_progress fresh run inside scanned with moves | ⟨-, u, other, holds, moves⟩
  · -- the latch is held, so the thread itself cannot go on
    have stuck : advance (smallRecords 1) .granted threads.object .waiting = none := by
      rw [object]
      rfl
    have small : file.fileOp.file.size + 134217728 ≤ OssPrimitiveFileOp.maxFileSize := by
      rw [new.size]
      decide
    obtain ⟨op, written, -⟩ := extendFile_granted new.rep small
    rcases moves with steps | returns
    · refine absurd ?_ (steps .granted ?_)
      · rw [ObjectCode.exec, inside]
        simp [storeCode, storeStep, stuck]
      · rw [object]
        exact Option.ne_none_iff_exists'.mpr ⟨_, written⟩
    · rw [ObjectCode.exec, inside] at returns
      exact absurd rfl returns
  · exact ⟨threads, u, inside, other, holds, moves⟩

/-- The action is a step of the thread. -/
def StepOf (u : Nat) : ThreadAction StoreOp ExtendAnswer → Bool
  | .step t _ => t == u
  | _ => false

/-- How many steps the holder of `_extendMutex` makes until it gives it back. -/
def stepsToHandBack : InsertPosition → Nat
  | .extending _ => 2
  | _ => 1

/-- The thread is in an insert and holds `_extendMutex`. -/
def Extends (u : Nat) (threads : StoreThreads) : Prop :=
  ∃ record position, threads.inside u = some (.insert record, .inserting position) ∧
    position.holdsExtendMutex = true

/-- The steps that the thread has left as the holder of `_extendMutex`. -/
def stepsLeft (u : Nat) (threads : StoreThreads) : Nat :=
  match threads.inside u with
  | some (_, .inserting position) => stepsToHandBack position
  | _ => 0

/-- In this step the thread gives `_extendMutex` back. -/
def HandsBack (u : Nat)
    (move : Transition StoreThreads (ThreadAction StoreOp ExtendAnswer)
      (Option (ClientEvent StoreOp DmsReply))) : Prop :=
  move.post.object.extendMutex.held = false ∧
    ¬ move.post.Holds StorePosition.holdsExtendMutex u

theorem Extends.stepsLeft_eq {u : Nat} {record : BsonObj} {place : InsertPosition}
    (inside : threads.inside u = some (.insert record, .inserting place)) :
    stepsLeft u threads = stepsToHandBack place := by
  rw [stepsLeft, inside]

/-- A holder extends the file, or gives the latch back. -/
theorem advance_handsBack {record : BsonObj} {answer : ExtendAnswer} {s s' : DmsFile}
    {before after : InsertPosition} (holds : before.holdsExtendMutex = true)
    (step : advance record answer s before = some (after, s')) :
    s'.extendMutex.held = false ∧ after.holdsExtendMutex = false ∨
      after.holdsExtendMutex = true ∧ stepsToHandBack before = 2 ∧
        stepsToHandBack after = 1 := by
  cases before with
  | extending seen =>
      rw [advance] at step
      obtain ⟨⟨rc, s₁⟩, -, same⟩ := Option.map_eq_some_iff.mp step
      cases same
      exact .inr ⟨rfl, rfl, rfl⟩
  | extended rc =>
      rw [advance] at step
      cases step
      refine .inl ⟨rfl, ?_⟩
      split <;> rfl
  | woken =>
      rw [advance] at step
      cases step
      exact .inl ⟨rfl, rfl⟩
  | _ => cases holds

/-- Each step of the holder gives the latch back or leaves it one step less; the others do
not come between. -/
theorem Extends.step {u : Nat} {action : ThreadAction StoreOp ExtendAnswer}
    {seen : Option (ClientEvent StoreOp DmsReply)} {threads next : StoreThreads}
    (extends' : Extends u threads)
    (completes : storeCode.exec action threads = some (seen, next)) :
    HandsBack u ⟨threads, action, seen, next⟩ ∨
      Extends u next ∧ stepsLeft u next + (StepOf u action).toNat ≤ stepsLeft u threads := by
  obtain ⟨record, place, inside, holds⟩ := extends'
  have elsewhere : ∀ {object : DmsFile} {t : Nat} {stand : Option (StoreOp × StorePosition)},
      t ≠ u → (threads.move object t stand).inside u = threads.inside u :=
    fun other => Threads.move_inside_of_ne _ _ _ (Ne.symm other)
  have waits : ∀ {object : DmsFile} {t : Nat} {stand : Option (StoreOp × StorePosition)},
      t ≠ u → Extends u (threads.move object t stand) ∧
        stepsLeft u (threads.move object t stand) = stepsLeft u threads := by
    intro object t stand other
    refine ⟨⟨record, place, (elsewhere other).trans inside, holds⟩, ?_⟩
    rw [stepsLeft, stepsLeft, elsewhere other]
  rcases storeCode.exec_cases completes with ⟨t, op, rfl, outside, rfl, rfl⟩ |
    ⟨t, answer, op, position, position', object, rfl, inside', rfl, stepped, rfl⟩ |
    ⟨t, op, position, reply, rfl, inside', returned, rfl, rfl⟩
  · have other : t ≠ u := by
      rintro rfl
      rw [inside] at outside
      cases outside
    exact .inr ⟨(waits other).1, Nat.le_of_eq (waits other).2⟩
  · by_cases mine : t = u
    · subst mine
      rw [inside] at inside'
      cases inside'
      obtain ⟨⟨after, s'⟩, advanced, same⟩ := Option.map_eq_some_iff.mp stepped
      cases same
      rcases advance_handsBack holds advanced with ⟨free, lost⟩ | ⟨kept, two, one⟩
      · refine .inl ⟨free, ?_⟩
        rintro ⟨op, position, inside', has⟩
        rw [Threads.move_inside_self] at inside'
        cases inside'
        rw [StorePosition.holdsExtendMutex, lost] at has
        cases has
      · have inside' : (threads.move object t (some (.insert record, .inserting after))).inside t =
            some (.insert record, .inserting after) := Threads.move_inside_self _ _ _ _
        refine .inr ⟨⟨record, after, inside', kept⟩, ?_⟩
        rw [stepsLeft_eq inside, stepsLeft_eq inside', two, one]
        simp [StepOf]
    · refine .inr ⟨(waits mine).1, ?_⟩
      rw [(waits mine).2, StepOf, beq_false_of_ne mine]
      exact Nat.le_refl _
  · have other : t ≠ u := by
      rintro rfl
      rw [inside] at inside'
      cases inside'
      cases place with
      | finished completion => cases holds
      | _ => cases returned
    exact .inr ⟨(waits other).1, Nat.le_of_eq (waits other).2⟩

/-- A thread in an insert makes a step. -/
theorem exec_insertStep {record : BsonObj} {answer : ExtendAnswer} {before after : InsertPosition}
    {object : DmsFile} (inside : threads.inside t = some (.insert record, .inserting before))
    (step : advance record answer threads.object before = some (after, object)) :
    storeCode.exec (.step t answer) threads =
      some (none, threads.move object t (some (.insert record, .inserting after))) := by
  rw [ObjectCode.exec, inside]
  simp [storeCode, storeStep, step]

/-- Only an insert stands in an insert. -/
def InsertsInside (threads : StoreThreads) : Prop :=
  ∀ t op place, threads.inside t = some (op, .inserting place) → ∃ record, op = .insert record

theorem InsertsInside.step {action : ThreadAction StoreOp ExtendAnswer}
    {seen : Option (ClientEvent StoreOp DmsReply)} {threads next : StoreThreads}
    (inserts : InsertsInside threads)
    (completes : storeCode.exec action threads = some (seen, next)) : InsertsInside next := by
  intro u op place there
  rcases storeCode.exec_cases completes with ⟨t, called, rfl, outside, rfl, rfl⟩ |
    ⟨t, answer, stepped, before, after, object, rfl, inside, rfl, step, rfl⟩ |
    ⟨t, returned, before, reply, rfl, inside, result, rfl, rfl⟩
  · by_cases mine : u = t
    · subst mine
      rw [Threads.move_inside_self] at there
      cases called with
      | insert record =>
          cases there
          exact ⟨record, rfl⟩
      | remove rid => cases there
      | find rid => cases there
    · exact inserts u op place ((Threads.move_inside_of_ne _ _ _ mine).symm.trans there)
  · by_cases mine : u = t
    · subst mine
      rw [Threads.move_inside_self] at there
      cases there
      cases before with
      | inserting earlier => exact inserts u op earlier inside
      | outside =>
          cases op with
          | insert record => exact ⟨record, rfl⟩
          | remove rid =>
              obtain ⟨answered, -, same⟩ := Option.map_eq_some_iff.mp step
              cases same
          | find rid =>
              obtain ⟨answered, -, same⟩ := Option.map_eq_some_iff.mp step
              cases same
      | answered reply => cases op <;> cases step
    · exact inserts u op place ((Threads.move_inside_of_ne _ _ _ mine).symm.trans there)
  · by_cases mine : u = t
    · subst mine
      rw [Threads.move_inside_self] at there
      cases there
    · exact inserts u op place ((Threads.move_inside_of_ne _ _ _ mine).symm.trans there)

/-- Whatever the other threads do, on whatever file and in whatever run, the holder of
`_extendMutex` gives it back within two of its own steps. -/
theorem storeThreads_handsBack
    (run : Run storeCode.exec (fun _ _ _ => True) (.start file) trace threads)
    {u : Nat} (holds : threads.Holds StorePosition.holdsExtendMutex u) {later : StoreTrace}
    {last : StoreThreads}
    (goesOn : Run storeCode.exec (fun _ _ _ => True) threads later last)
    (twice : 2 ≤ later.countP fun move => StepOf u move.action) :
    ∃ move ∈ later, HandsBack u move := by
  have outside : InsertsInside (.start file) := fun t op place there => by cases there
  have inserts : InsertsInside threads :=
    Run.invariant outside (fun inserts _ completes => inserts.step completes) run
  obtain ⟨op, position, inside, has⟩ := holds
  have begun : Extends u threads := by
    cases position with
    | outside => cases has
    | answered reply => cases has
    | inserting place =>
        obtain ⟨record, rfl⟩ := inserts u op place inside
        exact ⟨record, place, inside, has⟩
  have atMostTwo : ∀ {threads}, Extends u threads → stepsLeft u threads ≤ 2 ∧
      0 < stepsLeft u threads := by
    rintro threads ⟨record, place, inside, -⟩
    rw [Extends.stepsLeft_eq inside]
    unfold stepsToHandBack
    split <;> decide
  refine Run.done_within (Extends u) (StepOf u) (stepsLeft u) ?_
    (fun under => (atMostTwo under).2) goesOn begun ((atMostTwo begun).1.trans twice)
  intro _ _ _ _ under _ completes
  exact under.step completes

/-- A thread whose extension fails gives `_extendMutex` back, while another waits for it. -/
theorem storeThreads_handsBack_failed : ∃ move, HandsBack 0 move := by
  obtain ⟨file, threads, -, -, ⟨trace, run, -⟩, -, inside, -⟩ := exists_waiting
  have anyRun : Run storeCode.exec (fun _ _ _ => True) (.start file) trace threads :=
    run.mono fun _ _ => trivial
  have failed : advance (smallRecords 0) ⟨some .enomem, fun _ => [], .granted⟩
      threads.object (.extending 0) = some (.extended Errno.enomem.value, threads.object) := rfl
  have stepped := exec_insertStep inside failed
  let extended := threads.move threads.object 0
    (some (.insert (smallRecords 0), .inserting (.extended Errno.enomem.value)))
  have inside' : extended.inside 0 = some (.insert (smallRecords 0),
      .inserting (.extended Errno.enomem.value)) := rfl
  have released : advance (smallRecords 0) .granted extended.object
      (.extended Errno.enomem.value) = some (_, _) := rfl
  have returned := exec_insertStep inside' released
  have goesOn : Run storeCode.exec (fun _ _ _ => True) threads _ _ :=
    (Run.start.step trivial stepped).step trivial returned
  obtain ⟨move, -, back⟩ := storeThreads_handsBack anyRun ⟨_, _, inside, rfl⟩ goesOn
    (Nat.le_refl 2)
  exact ⟨move, back⟩

end Moving

end Runs

end EmeraldDb
