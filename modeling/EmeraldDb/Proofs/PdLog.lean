/-
Module: EmeraldDb.Proofs.PdLog
Purpose: Records that threads log at the same time are appended one after the other, each as a
  whole; one whose call fails may be cut off.
Trusted boundary: none
Main exports: writeLoop_cons, pdLog_guarded, pdLog_linearizable
-/
import EmeraldDb.Pd.Log

namespace EmeraldDb

open ByteMemory

/-! ### Write, pass by pass -/

namespace OssPrimitiveFileOp

variable {op : OssPrimitiveFileOp}

/-- The passes make up the loop of `Write`. -/
theorem writeLoop_cons (buffer : Mem) (size currentSize : Nat) (result : WriteResult)
    (results : List WriteResult) (op : OssPrimitiveFileOp) :
    writeLoop buffer size (result :: results) currentSize op =
      match op.writePass buffer size currentSize result with
      | (.leaving rc, op) => some (rc, op)
      | (.writing currentSize, op) => writeLoop buffer size results currentSize op
      | _ => none := by
  cases result with
  | wrote count =>
      rw [writeLoop, writePass]
      split <;> rfl
  | failed errno =>
      rw [writeLoop, writePass]
      split <;> rfl

/-- A store at the end of the file appends what it stores. -/
theorem store_contents (atEnd : op.position = op.file.size) (buffer : Mem) (start count : Nat) :
    (op.store buffer start count).file.contents =
        op.file.contents ++ readBytes buffer start count ∧
      (op.store buffer start count).position = (op.store buffer start count).file.size := by
  by_cases nothing : count = 0
  · subst nothing
    rw [store_zero]
    exact ⟨(List.append_nil _).symm, atEnd⟩
  · rw [store, if_neg nothing]
    dsimp only
    have longer : max op.file.size (op.position + count) = op.file.size + count := by omega
    rw [OsFile.contents, longer, readBytes_append, atEnd]
    refine ⟨?_, rfl⟩
    congr 1
    · apply readBytes_congr
      intro x _ below
      dsimp only
      rw [if_neg (by omega)]
    · apply List.map_congr_left
      intro i member
      have below := List.mem_range.mp member
      dsimp only
      rw [if_pos (by omega)]
      congr 1
      omega

end OssPrimitiveFileOp

/-- A piece of the bytes in front. -/
theorem readBytes_ofBytes_append {text : List UInt8} (behind : List UInt8) {start count : Nat}
    (inside : start + count ≤ text.length) :
    readBytes (ofBytes (text ++ behind)) start count = (text.drop start).take count := by
  apply List.ext_getElem
  · rw [readBytes_length, List.length_take, List.length_drop]
    omega
  · intro i left right
    rw [readBytes_length] at left
    rw [readBytes_getElem, List.getElem_take, List.getElem_drop, ofBytes,
      List.getD_eq_getElem?_getD, List.getElem?_append_left (by omega),
      List.getElem?_eq_getElem (by omega), Option.getD_some]

/-- `Write` reads only the string. -/
theorem readBytes_cString {pData : List UInt8} {start count : Nat}
    (inside : start + count ≤ (cString pData).length) :
    readBytes (ofBytes pData) start count = ((cString pData).drop start).take count := by
  obtain ⟨behind, same⟩ := List.takeWhile_prefix (l := pData) (· ≠ 0)
  change cString pData ++ behind = pData at same
  calc readBytes (ofBytes pData) start count
      = readBytes (ofBytes (cString pData ++ behind)) start count := by rw [same]
    _ = ((cString pData).drop start).take count := readBytes_ofBytes_append behind inside

/-! ### The mutex -/

/-- Nobody is logging: the log is the file, at whose end an open handle stands. -/
structure PdLog.Rests (s : PdLog) (log : List UInt8) : Prop where
  contents : s.file.file.contents = log
  atEnd : s.file.isValid = true → s.file.position = s.file.file.size

/-- A record has been written up to `currentSize`. -/
structure PdLog.Writing (s : PdLog) (log pData : List UInt8) (currentSize : Nat) : Prop where
  contents : s.file.file.contents = log ++ (cString pData).take currentSize
  isValid : s.file.isValid = true
  atEnd : s.file.position = s.file.file.size
  inside : currentSize ≤ (cString pData).length

/-- What the thread has made of the log that holds the mutex. -/
def PdLog.Under (pData : List UInt8) (position : PdLogPosition) (s : PdLog) (log : List UInt8) :
    Prop :=
  match position with
  | .writing currentSize => s.Writing log pData currentSize
  | _ => s.Rests log

/-- The code of a call from the step on in which it takes effect. -/
def pdLogTaken : PdLogPosition → Option ReturnCode
  | .leaving rc => some rc
  | .left rc => some rc
  | _ => none

section Passes

variable {s : PdLog} {log pData : List UInt8} {currentSize : Nat}

theorem PdLog.Rests.write (rests : s.Rests log) (isValid : s.file.isValid = true) :
    s.Writing log pData 0 where
  contents := by rw [rests.contents, List.take_zero, List.append_nil]
  isValid := isValid
  atEnd := rests.atEnd isValid
  inside := Nat.zero_le _

/-- A pass of the loop of `Write` goes on, or appends the record, or fails. -/
theorem PdLog.Writing.pass (writing : s.Writing log pData currentSize) (result : WriteResult)
    {position : PdLogPosition} {file : OssPrimitiveFileOp}
    (passed : s.file.writePass (ofBytes pData) (cString pData).length currentSize result =
      (position, file)) :
    (∃ more, position = .writing more ∧ PdLog.Writing ⟨s.mutex, file⟩ log pData more) ∨
      ∃ rc log', position = .leaving rc ∧ PdLog.Rests ⟨s.mutex, file⟩ log' ∧
        PdLogSpec log pData rc log' := by
  have inside := writing.inside
  cases result with
  | wrote count =>
      rw [OssPrimitiveFileOp.writePass] at passed
      generalize fits : min (min (min count OssPrimitiveFileOp.maxTransfer)
        ((cString pData).length - currentSize))
          (OssPrimitiveFileOp.maxFileSize - s.file.position) = taken at passed
      have bound : currentSize + taken ≤ (cString pData).length := by omega
      obtain ⟨stored, atEnd⟩ := OssPrimitiveFileOp.store_contents writing.atEnd (ofBytes pData)
        currentSize taken
      rw [writing.contents, readBytes_cString bound, List.append_assoc, ← List.take_add] at stored
      split at passed
      next whole =>
        cases passed
        refine .inr ⟨edbOk, _, rfl, ⟨?_, fun _ => atEnd⟩, .logged⟩
        rw [stored, whole, List.take_length]
      next =>
        cases passed
        refine .inl ⟨_, rfl, stored, ?_, atEnd, bound⟩
        rw [OssPrimitiveFileOp.store_isValid, writing.isValid]
  | failed errno =>
      rw [OssPrimitiveFileOp.writePass] at passed
      split at passed
      next =>
        cases passed
        exact .inl ⟨currentSize, rfl, writing⟩
      next =>
        cases passed
        exact .inr ⟨_, _, rfl, ⟨writing.contents, fun _ => writing.atEnd⟩,
          .failed currentSize errno.value_ne_edbOk⟩

/-- A pass of the loop of `Open` goes on, or opens the file, or fails. -/
theorem PdLog.Rests.pass (rests : s.Rests log) (pData : List UInt8) (result : Option Errno)
    {position : PdLogPosition} {file : OssPrimitiveFileOp}
    (passed : s.file.openPass result = (position, file)) :
    position = .writing 0 ∧ PdLog.Writing ⟨s.mutex, file⟩ log pData 0 ∨
      position = .opening ∧ file = s.file ∨
      ∃ rc, position = .leaving rc ∧ rc ≠ edbOk ∧ file = s.file := by
  cases result with
  | none =>
      rw [OssPrimitiveFileOp.openPass] at passed
      cases passed
      refine .inl ⟨rfl, ?_⟩
      refine PdLog.Rests.write ⟨?_, ?_⟩ ?_
      · rw [OssPrimitiveFileOp.seekToEnd_file]
        exact rests.contents
      · intro _
        rw [OssPrimitiveFileOp.seekToEnd_position rfl, OssPrimitiveFileOp.seekToEnd_file]
      · rw [OssPrimitiveFileOp.seekToEnd_isValid]
  | some errno =>
      rw [OssPrimitiveFileOp.openPass] at passed
      split at passed
      next =>
        cases passed
        exact .inr (.inl ⟨rfl, rfl⟩)
      next =>
        cases passed
        exact .inr (.inr ⟨_, rfl, errno.value_ne_edbOk, rfl⟩)

end Passes

/-! ### Threads -/

/-- `_pdLogFileWrite` does its work under `_pdLogMutex`. -/
theorem pdLog_guarded : Guarded pdLogCode PdLogPosition.holdsMutex (fun s => s.mutex.held)
    PdLogSpec pdLogTaken PdLog.Rests PdLog.Under where
  entered := fun _ => ⟨rfl, rfl⟩
  finished := by
    intro position reply returned
    cases position with
    | left rc => exact ⟨returned, rfl⟩
    | _ => cases returned
  outside := by
    intro t pData answers s position position' s' without step
    cases position with
    | waiting =>
        obtain ⟨held, taken, same⟩ := Option.map_eq_some_iff.mp step
        cases same
        have available : s.mutex = .init := OssXLatch.tryGet_some taken
        refine ⟨rfl, .inr ⟨?_, OssXLatch.held_of_tryGet taken, rfl, ?_⟩⟩
        · rw [available]
          rfl
        · intro log rests
          exact ⟨rests.contents, rests.atEnd⟩
    | left rc => cases step
    | _ => cases without
  inside := by
    intro t pData answers s position position' s' log has held under step
    cases position with
    | checking =>
        have rests : s.Rests log := under
        cases isValid : s.file.isValid with
        | true =>
            have checked : PdLog.step pData answers s .checking = some (.writing 0, s) := by
              rw [PdLog.step, if_pos isValid]
            cases checked.symm.trans step
            exact ⟨log, .inl ⟨rfl, rfl⟩, .inl ⟨rfl, held, rests.write isValid⟩⟩
        | false =>
            have checked : PdLog.step pData answers s .checking = some (.opening, s) := by
              rw [PdLog.step, if_neg (by rw [isValid]; exact Bool.false_ne_true)]
            cases checked.symm.trans step
            exact ⟨log, .inl ⟨rfl, rfl⟩, .inl ⟨rfl, held, rests⟩⟩
    | opening =>
        have rests : s.Rests log := under
        cases passed : s.file.openPass answers.opens with
        | mk place file =>
            have opened : PdLog.step pData answers s .opening =
                some (place, { s with file := file }) := by rw [PdLog.step, passed]
            cases opened.symm.trans step
            rcases rests.pass pData answers.opens passed with ⟨rfl, writing⟩ | ⟨rfl, rfl⟩ |
              ⟨rc, rfl, error, rfl⟩
            · exact ⟨log, .inl ⟨rfl, rfl⟩, .inl ⟨rfl, held, writing⟩⟩
            · exact ⟨log, .inl ⟨rfl, rfl⟩, .inl ⟨rfl, held, rests⟩⟩
            · have nothing : PdLogSpec log pData rc log := by
                have cut : PdLogSpec log pData rc _ := .failed 0 error
                rwa [List.take_zero, List.append_nil] at cut
              exact ⟨log, .inr ⟨rc, rfl, rfl, nothing⟩, .inl ⟨rfl, held, rests⟩⟩
    | writing currentSize =>
        have writing : s.Writing log pData currentSize := under
        cases passed : s.file.writePass (ofBytes pData) (cString pData).length currentSize
            answers.writes with
        | mk place file =>
            have wrote : PdLog.step pData answers s (.writing currentSize) =
                some (place, { s with file := file }) := by rw [PdLog.step, passed]
            cases wrote.symm.trans step
            rcases writing.pass answers.writes passed with ⟨more, rfl, writing'⟩ |
              ⟨rc, log', rfl, rests, call⟩
            · exact ⟨log, .inl ⟨rfl, rfl⟩, .inl ⟨rfl, held, writing'⟩⟩
            · exact ⟨log', .inr ⟨rc, rfl, rfl, call⟩, .inl ⟨rfl, held, rests⟩⟩
    | leaving rc =>
        have rests : s.Rests log := under
        cases step
        exact ⟨log, .inl ⟨rfl, rfl⟩, .inr ⟨rfl, rfl, rests.contents, rests.atEnd⟩⟩
    | _ => cases has

/-- Calls that all succeed append their records. -/
theorem legal_logged {start log : List UInt8} {order : List (Effect (List UInt8) ReturnCode)}
    (legal : Legal PdLogSpec start order log) (fine : ∀ e ∈ order, e.reply = edbOk) :
    log = start ++ order.flatMap fun e => cString e.op := by
  induction legal with
  | start => exact (List.append_nil start).symm
  | @effect order log log' e past call ih =>
      obtain ⟨t, pData, rc, called⟩ := e
      rw [List.forall_mem_append, List.forall_mem_singleton] at fine
      rw [List.flatMap_append, List.flatMap_singleton, ← List.append_assoc, ← ih fine.1]
      cases call with
      | logged => rfl
      | failed count error => exact absurd fine.2 error

section Runs

variable {file : OsFile} {trace : PdLogTrace} {threads : PdLogThreads}

/-- In every interleaving of any number of threads, one order of the calls explains every code
and agrees with real time; in it each record stands behind the one before, as a whole unless
its call fails.  Between the calls that is what the file holds. -/
theorem pdLog_linearizable (run : PdLogRun file trace threads) :
    ∃ order log, Linearization PdLogSpec file.contents (clientHistory trace) order log ∧
      (threads.object.mutex.held = false → threads.object.file.file.contents = log) ∧
      ((∀ e ∈ order, e.reply = edbOk) →
        log = file.contents ++ order.flatMap fun e => cString e.op) := by
  have closed : (PdLog.closed file).Rests file.contents := ⟨rfl, nofun⟩
  obtain ⟨order, log, linearization, coupled, -⟩ :=
    (pdLog_guarded.simulates file.contents).linearization (.start rfl closed) run
  exact ⟨order, log, linearization, fun free => (coupled.free free).contents,
    legal_logged linearization.legal⟩

theorem PdLogRun.next (run : PdLogRun file trace threads)
    (action : ThreadAction (List UInt8) PdLogAnswers)
    {seen : Option (ClientEvent (List UInt8) ReturnCode)} {later : PdLogThreads}
    (completes : pdLogCode.exec action threads = some (seen, later)) :
    PdLogRun file (trace ++ [⟨threads, action, seen, later⟩]) later :=
  run.step trivial completes

/-- While one thread logs "AB" in a new file, by two short writes, another is called to log
"C", and returns first. -/
theorem exists_twoRecords : ∃ (trace : PdLogTrace) (threads : PdLogThreads),
    PdLogRun ⟨0, fun _ => 0⟩ trace threads ∧
      clientHistory trace =
        [.call 0 [65, 66], .call 1 [67], .ret 1 edbOk, .ret 0 edbOk] ∧
      threads.object.mutex.held = false ∧
      threads.object.file.file.contents = [65, 66, 67] := by
  let answers : PdLogAnswers := ⟨none, .wrote 1⟩
  have begun : PdLogRun ⟨0, fun _ => 0⟩ [] _ := .start
  have called := (begun.next (.call 0 [65, 66]) rfl).next (.call 1 [67]) rfl
  have locked := (called.next (.step 0 answers) rfl).next (.step 0 answers) rfl
  have wrote := ((locked.next (.step 0 answers) rfl).next (.step 0 answers) rfl).next
    (.step 0 answers) rfl
  have released := wrote.next (.step 0 answers) rfl
  have second := ((released.next (.step 1 answers) rfl).next (.step 1 answers) rfl).next
    (.step 1 answers) rfl
  have left := second.next (.step 1 answers) rfl
  exact ⟨_, _, (left.next (.ret 1) rfl).next (.ret 0) rfl, rfl, rfl, rfl⟩

/-- The two records are the whole log. -/
theorem pdLog_linearizable_twoRecords : ∃ order,
    Linearization PdLogSpec [] [.call 0 [65, 66], .call 1 [67], .ret 1 edbOk, .ret 0 edbOk] order
      [65, 66, 67] := by
  obtain ⟨trace, threads, run, seen, free, contents⟩ := exists_twoRecords
  obtain ⟨order, log, linearization, rests, -⟩ := pdLog_linearizable run
  rw [seen, ← rests free, contents] at linearization
  exact ⟨order, linearization⟩

end Runs

end EmeraldDb
