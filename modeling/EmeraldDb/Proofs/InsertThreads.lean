/-
Module: EmeraldDb.Proofs.InsertThreads
Purpose: When threads that insert at the same time extend the file for nothing.
Trusted boundary: none
Main exports: OnlyWhenNeeded, NotOvertaken, insertThreads_onlyWhenNeeded_iff,
  insertThreads_extendTwice
-/
import EmeraldDb.Dms.InsertThreads
import EmeraldDb.Proofs.SessionRefinement

namespace EmeraldDb

open DmsFile (InsertReply ExtendAnswer)

/-- The size that `insert` looks for. -/
def insertKey (record : BsonObj) : Nat := record.objsize + sizeofDmsRecord

/-- No thread is about to extend the file while a page has room for its record. -/
def OnlyWhenNeeded (records : Nat → BsonObj) (threads : InsertThreads) : Prop :=
  ∀ t seen, threads.position t = .extending seen →
    threads.file.findPage (insertKey (records t)) = dmsInvalidPageId

/-- If the next step takes `_extendMutex` by `try_get`, no page that came to the index
since that thread found none has room for its record. -/
def NotOvertaken (records : Nat → BsonObj) (threads : InsertThreads)
    (action : InsertAction) : Prop :=
  ∀ seen, threads.position action.thread = .missed seen →
    threads.file.extendMutex.tryGet ≠ none →
      ∀ entry ∈ threads.file.freeSpaceMap.entries, seen ≤ entry.2 →
        entry.1 ≤ insertKey (records action.thread)

/-! ### Looking for a page -/

/-- `_findPage` finds none exactly when no page has more free space. -/
theorem FileRep.findPage_invalid_iff {s : DmsFile} {view : FileView} (rep : FileRep s view)
    (record : BsonObj) :
    s.findPage (insertKey record) = dmsInvalidPageId ↔
      ∀ p, p < view.numPages → (view.page p).freeSpace ≤ insertKey record := by
  rcases rep.findPage (insertKey record) (insertKey_lt record) with
    ⟨bound, found, above⟩ | ⟨missing, none_fits⟩
  · apply iff_of_false found
    intro none_fits
    exact Nat.not_lt.mpr (none_fits _ bound) above
  · exact iff_of_true missing none_fits

/-! ### One step of a thread -/

/-- What a step does to the file and to the latch, and where a thread can come to stand
with a failed search behind it. -/
structure Advanced (record : BsonObj) (s s' : DmsFile) (view view' : FileView)
    (before after : InsertPosition) : Prop where
  rep : FileRep s' view'
  room : view.Shrinks view' ∨ view' = view.extend ∧ before.holdsExtendMutex = true
  latch : s'.extendMutex = s.extendMutex ∧ after.holdsExtendMutex = before.holdsExtendMutex ∨
    s.extendMutex = .init ∧ s'.extendMutex.held = true ∨
    before.holdsExtendMutex = true ∧ after.holdsExtendMutex = false
  missed : ∀ seen, after = .missed seen → seen = view'.numPages ∧
    ∀ p, p < view'.numPages → (view'.page p).freeSpace ≤ insertKey record
  extending : ∀ seen, after = .extending seen → before = .missed seen ∧ view' = view ∧
    s.extendMutex.tryGet ≠ none ∧ s'.freeSpaceMap = s.freeSpaceMap

/-- The steps that do not touch the file. -/
theorem Advanced.of_kept {record : BsonObj} {s : DmsFile} {view : FileView}
    {before after : InsertPosition} (rep : FileRep s view)
    (notHeld : before.holdsExtendMutex = false) (notHolding : after.holdsExtendMutex = false)
    (searched : ∀ seen, after ≠ .missed seen) :
    Advanced record s s view view before after where
  rep := rep
  room := .inl (.refl view)
  latch := .inl ⟨rfl, notHolding.trans notHeld.symm⟩
  missed seen same := absurd same (searched seen)
  extending seen same := by
    subst same
    cases notHolding

/-- The steps that give `_extendMutex` back. -/
theorem Advanced.of_released {record : BsonObj} {s : DmsFile} {view : FileView}
    {before after : InsertPosition} (rep : FileRep s view)
    (held : before.holdsExtendMutex = true) (notHolding : after.holdsExtendMutex = false)
    (searched : ∀ seen, after ≠ .missed seen) :
    Advanced record s s.releaseExtendMutex view view before after where
  rep := rep.latches s.mutex _
  room := .inl (.refl view)
  latch := .inr (.inr ⟨held, notHolding⟩)
  missed seen same := absurd same (searched seen)
  extending seen same := by
    subst same
    cases notHolding

/-- The critical section behind `retry`. -/
theorem advance_retrying {record : BsonObj} {answer : ExtendAnswer} {s s' : DmsFile}
    {view : FileView} {after : InsertPosition} (rep : FileRep s view)
    (step : advance record answer s .retrying = some (after, s')) :
    ∃ view', Advanced record s s' view view' .retrying after := by
  rw [advance] at step
  obtain ⟨held, -, behind⟩ := Option.map_eq_some_iff.mp step
  dsimp only at behind
  have latched := rep.latches held s.extendMutex
  split at behind
  next missing =>
    cases behind
    refine ⟨view, latched.latches _ s.extendMutex, .inl (.refl view), .inl ⟨rfl, rfl⟩, ?_, nofun⟩
    rintro seen ⟨⟩
    exact ⟨rep.index_size, (latched.findPage_invalid_iff record).mp missing⟩
  next found =>
    have bound := (latched.findPage _ (insertKey_lt record)).resolve_right
      fun missing => found missing.1
    cases inserted : { s with mutex := held }.insertIntoPage record
        ({ s with mutex := held }.findPage (record.objsize + sizeofDmsRecord)) with
    | mk completion s₁ =>
        rw [inserted] at behind
        cases behind
        obtain ⟨view', rep', -, shrinks, -, extendMutex⟩ :=
          insertIntoPage_refines latched bound.1 inserted
        exact ⟨view', rep', .inl shrinks, .inl ⟨extendMutex, rfl⟩, nofun, nofun⟩

/-- Every step of a thread keeps the file represented. -/
theorem advance_advanced {record : BsonObj} {answer : ExtendAnswer} {s s' : DmsFile}
    {view : FileView} {before after : InsertPosition} (rep : FileRep s view)
    (step : advance record answer s before = some (after, s')) :
    ∃ view', Advanced record s s' view view' before after := by
  cases before with
  | entered =>
      rw [advance] at step
      split at step
      next =>
        cases step
        exact ⟨view, .of_kept rep rfl rfl nofun⟩
      next =>
        split at step
        next =>
          cases step
          exact ⟨view, .of_kept rep rfl rfl nofun⟩
        next => cases step
        next =>
          cases step
          exact ⟨view, .of_kept rep rfl rfl nofun⟩
        next =>
          cases step
          exact ⟨view, .of_kept rep rfl rfl nofun⟩
  | retrying => exact advance_retrying rep step
  | missed seen =>
      rw [advance] at step
      split at step
      next held taken =>
        cases step
        have free := OssXLatch.tryGet_some taken
        have isHeld := OssXLatch.held_of_tryGet taken
        refine ⟨view, rep.latches s.mutex held, .inl (.refl view), .inr (.inl ⟨free, isHeld⟩),
          nofun, ?_⟩
        rintro seen' ⟨⟩
        have available : s.extendMutex.tryGet ≠ none := by
          rw [taken]
          exact Option.some_ne_none held
        exact ⟨rfl, rfl, available, rfl⟩
      next =>
        cases step
        exact ⟨view, .of_kept rep rfl rfl nofun⟩
  | extending seen =>
      rw [advance] at step
      obtain ⟨⟨rc, s₁⟩, extended, same⟩ := Option.map_eq_some_iff.mp step
      cases same
      rcases extendSegment_refines rep extended with ⟨-, done⟩ | ⟨-, done⟩
      · exact ⟨view.extend, done.rep, .inr ⟨rfl, rfl⟩, .inl ⟨done.extendMutex, rfl⟩, nofun, nofun⟩
      · exact ⟨view, done.rep, .inl (.refl view), .inl ⟨done.extendMutex, rfl⟩, nofun, nofun⟩
  | extended rc =>
      rw [advance] at step
      cases step
      refine ⟨view, .of_released rep rfl ?_ ?_⟩
      · split <;> rfl
      · intro seen
        split <;> exact nofun
  | waiting =>
      rw [advance] at step
      obtain ⟨held, taken, same⟩ := Option.map_eq_some_iff.mp step
      cases same
      have free : s.extendMutex = .init := OssXLatch.tryGet_some taken
      have isHeld := OssXLatch.held_of_tryGet taken
      exact ⟨view, rep.latches s.mutex held, .inl (.refl view), .inr (.inl ⟨free, isHeld⟩),
        nofun, nofun⟩
  | woken =>
      rw [advance] at step
      cases step
      exact ⟨view, .of_released rep rfl rfl nofun⟩
  | finished completion => cases step

/-! ### Runs -/

/-- What every run keeps: one thread at most holds `_extendMutex`, and the pages a failed
search has seen have no room for the record since. -/
structure InsertThreads.Sound (records : Nat → BsonObj) (threads : InsertThreads)
    (view : FileView) : Prop where
  rep : FileRep threads.file view
  exclusive : ∀ t, (threads.position t).holdsExtendMutex = true →
    threads.file.extendMutex.held = true ∧
      ∀ u, (threads.position u).holdsExtendMutex = true → u = t
  seen : ∀ t seen, threads.position t = .missed seen ∨ threads.position t = .extending seen →
    seen ≤ view.numPages ∧
      ∀ p, p < seen → (view.page p).freeSpace ≤ insertKey (records t)

/-- A step moves one thread. -/
theorem exec_advance {records : Nat → BsonObj} {action : InsertAction} {reply : Unit}
    {threads next : InsertThreads}
    (completes : InsertThreads.exec records action threads = some (reply, next)) :
    ∃ after, advance (records action.thread) action.answer threads.file
        (threads.position action.thread) = some (after, next.file) ∧
      next.position = Function.update threads.position action.thread after := by
  obtain ⟨⟨after, file⟩, step, same⟩ := Option.map_eq_some_iff.mp completes
  cases same
  exact ⟨after, step, rfl⟩

section Steps

variable {records : Nat → BsonObj} {action : InsertAction} {threads next : InsertThreads}
  {view view' : FileView} {after : InsertPosition}

/-- Growing or filling pages takes no room that a thread has to see. -/
theorem Advanced.pages {record : BsonObj} {s s' : DmsFile} {before : InsertPosition}
    (advanced : Advanced record s s' view view' before after) :
    view.numPages ≤ view'.numPages ∧
      ∀ p, (view'.page p).freeSpace ≤ (view.page p).freeSpace := by
  rcases advanced.room with shrinks | ⟨rfl, -⟩
  · constructor
    · rw [FileView.numPages, FileView.numPages, shrinks.segments]
    · exact shrinks.freeSpace
  · constructor
    · exact Nat.mul_le_mul_left 32 (Nat.le_succ view.segments)
    · exact fun p => Nat.le_refl _

theorem InsertThreads.Sound.exclusive_step (sound : threads.Sound records view)
    (advanced : Advanced (records action.thread) threads.file next.file view view'
      (threads.position action.thread) after)
    (moved : next.position = Function.update threads.position action.thread after) (t : Nat)
    (holds : (next.position t).holdsExtendMutex = true) :
    next.file.extendMutex.held = true ∧
      ∀ u, (next.position u).holdsExtendMutex = true → u = t := by
  have others : ∀ u, u ≠ action.thread → next.position u = threads.position u := by
    intro u other
    rw [moved, Function.update_of_ne other]
  have own : next.position action.thread = after := by
    rw [moved, Function.update_self]
  rcases advanced.latch with ⟨kept, same⟩ | ⟨free, held⟩ | ⟨held, released⟩
  · -- who holds the latch has not changed
    have before : ∀ u, (next.position u).holdsExtendMutex =
        (threads.position u).holdsExtendMutex := by
      intro u
      by_cases mine : u = action.thread
      · rw [mine, own, same]
      · rw [others u mine]
    rw [before] at holds
    obtain ⟨held, unique⟩ := sound.exclusive t holds
    rw [kept]
    exact ⟨held, fun u holding => unique u ((before u).symm.trans holding)⟩
  · -- the latch was free, so nobody held it
    have mine : ∀ u, (next.position u).holdsExtendMutex = true → u = action.thread := by
      intro u holding
      by_contra other
      rw [others u other] at holding
      have wasHeld := (sound.exclusive u holding).1
      rw [free] at wasHeld
      cases wasHeld
    exact ⟨held, fun u holding => (mine u holding).trans (mine t holds).symm⟩
  · -- the only holder gave it back
    have notMine : t ≠ action.thread := by
      rintro rfl
      rw [own, released] at holds
      cases holds
    rw [others t notMine] at holds
    exact absurd ((sound.exclusive action.thread held).2 t holds) notMine

theorem InsertThreads.Sound.seen_step (sound : threads.Sound records view)
    (advanced : Advanced (records action.thread) threads.file next.file view view'
      (threads.position action.thread) after)
    (moved : next.position = Function.update threads.position action.thread after)
    (t seen : Nat)
    (searched : next.position t = .missed seen ∨ next.position t = .extending seen) :
    seen ≤ view'.numPages ∧
      ∀ p, p < seen → (view'.page p).freeSpace ≤ insertKey (records t) := by
  obtain ⟨more, less⟩ := advanced.pages
  by_cases mine : t = action.thread
  · subst mine
    rw [moved, Function.update_self] at searched
    rcases searched with missed | extending
    · obtain ⟨rfl, none_fits⟩ := advanced.missed seen missed
      exact ⟨Nat.le_refl _, none_fits⟩
    · obtain ⟨before, rfl, -, -⟩ := advanced.extending seen extending
      exact sound.seen action.thread seen (.inl before)
  · rw [moved, Function.update_of_ne mine] at searched
    obtain ⟨bound, none_fits⟩ := sound.seen t seen searched
    exact ⟨Nat.le_trans bound more, fun p inside => Nat.le_trans (less p) (none_fits p inside)⟩

end Steps

/-- The threads have got where they stand on a represented file. -/
def InsertThreads.InOrder (records : Nat → BsonObj) (threads : InsertThreads) : Prop :=
  ∃ view, threads.Sound records view

/-- Every step keeps the invariant. -/
theorem InsertThreads.InOrder.step {records : Nat → BsonObj} {action : InsertAction}
    {reply : Unit} {threads next : InsertThreads} (inOrder : threads.InOrder records)
    (completes : exec records action threads = some (reply, next)) : next.InOrder records := by
  obtain ⟨view, sound⟩ := inOrder
  obtain ⟨after, step, moved⟩ := exec_advance completes
  obtain ⟨view', advanced⟩ := advance_advanced sound.rep step
  exact ⟨view', advanced.rep, sound.exclusive_step advanced moved,
    sound.seen_step advanced moved⟩

theorem InsertThreads.start_inOrder {records : Nat → BsonObj} {file : DmsFile}
    {view : FileView} (rep : FileRep file view) : (start file).InOrder records := by
  refine ⟨view, rep, ?_, ?_⟩
  · intro t holds
    cases holds
  · rintro t seen (searched | searched) <;> cases searched

theorem InsertRun.inOrder {records : Nat → BsonObj} {file : DmsFile} {view : FileView}
    {trace : InsertTrace} {threads : InsertThreads} (rep : FileRep file view)
    (run : InsertRun records file trace threads) : threads.InOrder records := by
  refine Run.invariant (InsertThreads.start_inOrder rep) ?_ run
  intro _ _ _ _ _ inOrder _ completes
  exact inOrder.step completes

/-! ### Who extends -/

section Needed

variable {records : Nat → BsonObj} {action : InsertAction} {reply : Unit}
  {threads next : InsertThreads} {view : FileView}

/-- A thread that goes to extend the file while no page has room was not overtaken. -/
theorem notOvertaken_of_onlyWhenNeeded (needed : OnlyWhenNeeded records next)
    (sound : threads.Sound records view)
    (completes : InsertThreads.exec records action threads = some (reply, next)) :
    NotOvertaken records threads action := by
  intro seen missed available entry member _
  obtain ⟨after, step, moved⟩ := exec_advance completes
  obtain ⟨view', advanced⟩ := advance_advanced sound.rep step
  have extending : after = .extending seen := by
    rw [missed, advance] at step
    split at step
    next => exact (congrArg Prod.fst (Option.some.inj step)).symm
    next taken => exact absurd taken available
  obtain ⟨-, rfl, -, index⟩ := advanced.extending seen extending
  have position : next.position action.thread = .extending seen := by
    rw [moved, Function.update_self, extending]
  have none_fits := (advanced.rep.findPage_invalid_iff _).mp
    (needed action.thread seen position)
  rw [← index] at member
  obtain ⟨bound, key⟩ := advanced.rep.mem_index.mp member
  rw [key]
  exact none_fits entry.2 bound

/-- If no thread is overtaken, none extends the file without need. -/
theorem onlyWhenNeeded_step (needed : OnlyWhenNeeded records threads)
    (notOvertaken : NotOvertaken records threads action) (sound : threads.Sound records view)
    (completes : InsertThreads.exec records action threads = some (reply, next)) :
    OnlyWhenNeeded records next := by
  intro t seen extending
  obtain ⟨after, step, moved⟩ := exec_advance completes
  obtain ⟨view', advanced⟩ := advance_advanced sound.rep step
  apply (advanced.rep.findPage_invalid_iff _).mpr
  by_cases mine : t = action.thread
  · subst mine
    rw [moved, Function.update_self] at extending
    obtain ⟨before, rfl, available, -⟩ := advanced.extending seen extending
    intro p bound
    rcases Nat.lt_or_ge p seen with old | added
    · exact (sound.seen action.thread seen (.inl before)).2 p old
    · exact notOvertaken seen before available ((view'.page p).freeSpace, p)
        (sound.rep.mem_index.mpr ⟨bound, rfl⟩) added
  · rw [moved, Function.update_of_ne mine] at extending
    have none_fits := (sound.rep.findPage_invalid_iff _).mp (needed t seen extending)
    have holds : (threads.position t).holdsExtendMutex = true := by
      rw [extending]
      rfl
    rcases advanced.room with shrinks | ⟨-, held⟩
    · intro p bound
      have same : view'.numPages = view.numPages := by
        rw [FileView.numPages, FileView.numPages, shrinks.segments]
      rw [same] at bound
      exact Nat.le_trans (shrinks.freeSpace p) (none_fits p bound)
    · exact absurd ((sound.exclusive t holds).2 action.thread held).symm mine

end Needed

/-- In every run of threads that insert at the same time, no thread ever extends the file
while a page has room for its record, exactly when none is overtaken by an extension
between its failed search and its `try_get`. -/
theorem insertThreads_onlyWhenNeeded_iff {created opened : DmsFile} {calls : DmsTrace}
    {records : Nat → BsonObj} {trace : InsertTrace} {threads : InsertThreads}
    (fresh : created.Fresh) (session : Session withinSlots created calls opened)
    (run : InsertRun records opened trace threads) :
    (∀ call ∈ trace, OnlyWhenNeeded records call.post) ↔
      ∀ call ∈ trace, NotOvertaken records call.pre call.action := by
  obtain ⟨view, rep, -⟩ := session_tracked fresh
    (fun _ guard => orderly_of_withinSlots guard) session
  have initially : OnlyWhenNeeded records (.start opened) := by
    intro t seen extending
    cases extending
  refine (run.holds_iff (fun past => InsertRun.inOrder rep past) initially ?_).1
  rintro _ _ _ _ _ ⟨_, sound⟩ needed - completes
  exact ⟨fun after => notOvertaken_of_onlyWhenNeeded after sound completes,
    fun notOvertaken => onlyWhenNeeded_step needed notOvertaken sound completes⟩

/-! ### Two threads on an empty file -/

/-- Every thread inserts the smallest record. -/
def smallRecords (_ : Nat) : BsonObj := binDataRecord [] (by decide)

/-- The next step of thread `t`, with every system call granted. -/
def stepOf (t : Nat) : InsertAction := ⟨t, .granted⟩

/-- A run goes on with a step of one thread. -/
theorem InsertRun.advance {records : Nat → BsonObj} {file s' : DmsFile} {trace : InsertTrace}
    {threads : InsertThreads} {t : Nat} {before after : InsertPosition}
    (past : InsertRun records file trace threads) (here : threads.position t = before)
    (step : EmeraldDb.advance (records t) .granted threads.file before = some (after, s')) :
    InsertRun records file
      (trace ++ [⟨threads, stepOf t, (), ⟨s', Function.update threads.position t after⟩⟩])
      ⟨s', Function.update threads.position t after⟩ := by
  refine past.step trivial ?_
  have action : (stepOf t).answer = .granted := rfl
  have thread : (stepOf t).thread = t := rfl
  rw [InsertThreads.exec, action, thread, here, step]
  rfl

/-- A thread with a small record passes the checks. -/
theorem advance_entered (s : DmsFile) (t : Nat) :
    advance (smallRecords t) .granted s .entered = some (.retrying, s) := rfl

/-- A search that fails leaves the file as it is. -/
theorem advance_missed {record : BsonObj} {s : DmsFile} {view : FileView}
    (rep : FileRep s view) (free : s.mutex = .init)
    (missing : s.findPage (insertKey record) = dmsInvalidPageId) :
    advance record .granted s .retrying = some (.missed view.numPages, s) := by
  have taken : s.mutex.get = some ⟨true, 0⟩ := by rw [free, OssSLatch.get_init]
  have none_found : { s with mutex := ⟨true, 0⟩ }.findPage
      (record.objsize + sizeofDmsRecord) = dmsInvalidPageId := missing
  rw [advance, taken, Option.map_some]
  dsimp only
  rw [if_pos none_found, releaseMutex_of_free free _ rfl, rep.index_size]

theorem advance_extending {record : BsonObj} {s : DmsFile} {seen : Nat}
    (free : s.extendMutex = .init) :
    advance record .granted s (.missed seen) =
      some (.extending seen, { s with extendMutex := ⟨true⟩ }) := by
  rw [advance, free, OssXLatch.tryGet_init]

theorem advance_waiting {record : BsonObj} {s : DmsFile} {seen : Nat}
    (taken : s.extendMutex = ⟨true⟩) :
    advance record .granted s (.missed seen) = some (.waiting, s) := by
  rw [advance, taken]
  rfl

theorem advance_extended (record : BsonObj) (s : DmsFile) :
    advance record .granted s (.extended edbOk) = some (.retrying, s.releaseExtendMutex) := rfl

theorem NewFile.findPage_invalid {s : DmsFile} (new : NewFile s) (record : BsonObj) :
    s.findPage (insertKey record) = dmsInvalidPageId :=
  (new.rep.findPage_invalid_iff record).mpr fun p bound => absurd bound (Nat.not_lt_zero p)

/-- With every system call granted, the holder of `_extendMutex` extends a new file. -/
theorem NewFile.extendSegment {s : DmsFile} (new : NewFile s) :
    ∃ grown, { s with extendMutex := ⟨true⟩ }.extendSegment .granted = some (edbOk, grown) ∧
      FileRep grown FileView.empty.extend ∧ grown.mutex = .init := by
  have latched := new.rep.latches s.mutex ⟨true⟩
  obtain ⟨grown, extended⟩ : ∃ grown, { s with extendMutex := ⟨true⟩ }.extendSegment
      .granted = some (edbOk, grown) := by
    have size := new.size
    have mapped := new.mapped
    apply extendSegment_granted latched new.mutex
    · rw [size]
    · rw [size]
      decide
    · show s.mappedBytes + 134217728 ≤ addressSpace
      rw [mapped]
      decide
  rcases extendSegment_refines latched extended with ⟨-, done⟩ | ⟨failed, -⟩
  · exact ⟨grown, extended, done.rep, done.mutex⟩
  · exact absurd rfl failed

/-- Two threads find no page in a new file, and the first goes to extend it. -/
theorem insertThreads_onlyWhenNeeded_twoThreads : ∃ (created : DmsFile) (trace : InsertTrace)
    (threads : InsertThreads), InsertRun smallRecords created trace threads ∧
      threads.position 0 = .extending 0 ∧ threads.position 1 = .missed 0 ∧
      ((∀ call ∈ trace, OnlyWhenNeeded smallRecords call.post) ↔
        ∀ call ∈ trace, NotOvertaken smallRecords call.pre call.action) := by
  obtain ⟨created, fresh⟩ := exists_fresh
  have new := fresh_newFile fresh
  have missing := new.findPage_invalid
  have entered := InsertRun.advance (t := 1) (InsertRun.advance (t := 0) .start rfl
    (advance_entered created 0)) rfl (advance_entered created 1)
  have searched := (entered.advance (t := 0) rfl (advance_missed new.rep new.mutex
    (missing _))).advance (t := 1) rfl (advance_missed new.rep new.mutex (missing _))
  have extending := searched.advance (t := 0) rfl (advance_extending new.extendMutex)
  exact ⟨created, _, _, extending, rfl, rfl,
    insertThreads_onlyWhenNeeded_iff fresh .start extending⟩

/-- The second thread takes `_extendMutex` after the first one has extended the file. -/
theorem insertThreads_extendTwice : ∃ (created : DmsFile) (trace : InsertTrace)
    (threads : InsertThreads), created.Fresh ∧ InsertRun smallRecords created trace threads ∧
      ∃ call ∈ trace, ¬ OnlyWhenNeeded smallRecords call.post := by
  obtain ⟨created, fresh⟩ := exists_fresh
  have new := fresh_newFile fresh
  have missing := new.findPage_invalid
  obtain ⟨grown, extended, rep, -⟩ := new.extendSegment
  -- both threads search in vain; the first one extends the file and goes back to `retry`
  have entered := InsertRun.advance (t := 1) (InsertRun.advance (t := 0) .start rfl
    (advance_entered created 0)) rfl (advance_entered created 1)
  have searched := (entered.advance (t := 0) rfl (advance_missed new.rep new.mutex
    (missing _))).advance (t := 1) rfl (advance_missed new.rep new.mutex (missing _))
  have first := searched.advance (t := 0) rfl (advance_extending new.extendMutex)
  have done := (first.advance (t := 0) rfl (congrArg (Option.map _) extended)).advance (t := 0)
    rfl rfl
  -- only now does the second thread try the latch
  have second := done.advance (t := 1) rfl (advance_extending rfl)
  refine ⟨created, _, _, fresh, second, _, List.mem_append_right _ (List.mem_singleton_self _),
    ?_⟩
  intro needed
  have none_found := needed 1 0 rfl
  have last := (rep.latches grown.mutex ⟨true⟩).findPage_invalid_iff (smallRecords 1)
  exact absurd (last.mp none_found 0 (by decide)) (by decide)

end EmeraldDb
