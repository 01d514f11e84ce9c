/-
Module: EmeraldDb.Proofs.ServerRun
Purpose: Whole runs of the server: whatever bytes the clients send, the file holds exactly the
  objects whose inserts were answered with EDB_OK.
Trusted boundary: none
Main exports: insert_fitsInt, Served, serve_served, FileHolds, FileHolds.serve, FileHolds.run,
  server_keepsAcknowledged, insertedDocument_readsBack
-/
import EmeraldDb.Pmd.Server
import EmeraldDb.Proofs.AnyIndex
import EmeraldDb.Proofs.BsonLookup
import EmeraldDb.Proofs.BulkInsert
import EmeraldDb.Proofs.Placement

namespace EmeraldDb

open ByteMemory

/-! ### Return codes are ints -/

/-- The value of an `int`. -/
def FitsInt (rc : ReturnCode) : Prop := -2147483648 ≤ rc ∧ rc < 2147483648

theorem edbOk_fitsInt : FitsInt edbOk := ⟨by decide, by decide⟩

theorem edbSys_fitsInt : FitsInt edbSys := ⟨by decide, by decide⟩

theorem edbInvalidArg_fitsInt : FitsInt edbInvalidArg := ⟨by decide, by decide⟩

theorem Errno.fitsInt {errno : Errno} (small : errno.value < 2147483648) :
    FitsInt errno.value :=
  ⟨Int.le_trans (by decide) (Int.le_of_lt errno.positive), small⟩

theorem getSize_fitsInt (op : OssPrimitiveFileOp) {fstat : Option Errno}
    (small : ∀ errno, fstat = some errno → errno.value < 2147483648) :
    FitsInt (op.getSize fstat).1 := by
  cases fstat with
  | none => exact edbOk_fitsInt
  | some errno => exact Errno.fitsInt (small errno rfl)

theorem writeLoop_fitsInt {buffer : Mem} {size : Nat} {results : List WriteResult}
    (small : ∀ errno, .failed errno ∈ results → errno.value < 2147483648)
    {currentSize : Nat} {op op' : OssPrimitiveFileOp} {rc : ReturnCode}
    (written : OssPrimitiveFileOp.writeLoop buffer size results currentSize op =
      some (rc, op')) : FitsInt rc := by
  induction results generalizing currentSize op with
  | nil => cases written
  | cons result results ih =>
      have later : ∀ errno, .failed errno ∈ results → errno.value < 2147483648 :=
        fun errno member => small errno (List.mem_cons_of_mem _ member)
      cases result with
      | wrote count =>
          rw [OssPrimitiveFileOp.writeLoop] at written
          split at written
          case isTrue =>
            cases written
            exact edbOk_fitsInt
          case isFalse => exact ih later written
      | failed errno =>
          rw [OssPrimitiveFileOp.writeLoop] at written
          split at written
          case isTrue => exact ih later written
          case isFalse =>
            cases written
            exact Errno.fitsInt (small errno List.mem_cons_self)

theorem extendLoop_fitsInt {writes : Nat → List WriteResult}
    (small : ∀ i errno, .failed errno ∈ writes i → errno.value < 2147483648)
    {passes i : Nat} {op op' : OssPrimitiveFileOp} {rc : ReturnCode}
    (extended : DmsFile.extendLoop writes passes i op = some (rc, op')) : FitsInt rc := by
  induction passes generalizing i op with
  | zero =>
      cases extended
      exact edbOk_fitsInt
  | succ passes ih =>
      rw [DmsFile.extendLoop] at extended
      split at extended
      case h_1 => cases extended
      case h_2 code after wrote =>
        have fits : FitsInt code := by
          rw [OssPrimitiveFileOp.write] at wrote
          split at wrote
          · exact writeLoop_fitsInt (small i) wrote
          · cases wrote
            exact edbOk_fitsInt
        split at extended
        · cases extended
          exact fits
        · exact ih extended

theorem map_fitsInt {answer : MapAnswer} {offset length : Nat} {file : OssMmapFile}
    (small : ∀ errno, answer.fstat = some errno → errno.value < 2147483648) :
    FitsInt (file.map answer offset length).1 := by
  have size := getSize_fitsInt file.fileOp small
  unfold OssMmapFile.map
  split
  · exact edbOk_fitsInt
  · split
    next rc fileSize sized =>
      rw [sized] at size
      split
      · exact size
      · split
        · exact edbInvalidArg_fitsInt
        · split
          next errno refused =>
            change FitsInt (OssMmapFile.mmapFailure errno)
            unfold OssMmapFile.mmapFailure
            split
            · exact ⟨by decide, by decide⟩
            · split <;> exact ⟨by decide, by decide⟩
          next => exact edbOk_fitsInt

theorem extendSegment_fitsInt {s s' : DmsFile} {answer : DmsFile.ExtendAnswer} {rc : ReturnCode}
    (small : ExtendAnswer.IntErrno answer) (extended : s.extendSegment answer = some (rc, s')) :
    FitsInt rc := by
  obtain ⟨fstat, writes, mapped⟩ := small
  have size := getSize_fitsInt s.fileOp fstat
  unfold DmsFile.extendSegment at extended
  split at extended
  next code offset sized =>
    rw [sized] at size
    split at extended
    · cases extended
      exact size
    · split at extended
      · cases extended
      next code fileOp grown =>
        have fits : FitsInt code := by
          unfold DmsFile.extendFile at grown
          split at grown
          · cases grown
            exact edbSys_fitsInt
          · exact extendLoop_fitsInt writes grown
        dsimp only at extended
        split at extended
        · cases extended
          exact fits
        · split at extended
          · cases extended
            exact map_fitsInt mapped
          · split at extended
            · cases extended
              exact edbOk_fitsInt
            · cases extended

theorem extendLatched_fitsInt {s s' : DmsFile} {answer : DmsFile.ExtendAnswer}
    {rc : ReturnCode} (small : ExtendAnswer.IntErrno answer)
    (extended : s.extendLatched answer = some (rc, s')) : FitsInt rc := by
  unfold DmsFile.extendLatched at extended
  split at extended
  · cases extended
  · split at extended
    · cases extended
    next code after called =>
      cases extended
      exact extendSegment_fitsInt small called

theorem insertIntoPage_fitsInt {s s' : DmsFile} {record : BsonObj} {pageId : Nat}
    {reply : DmsFile.InsertReply}
    (inserted : s.insertIntoPage record pageId = (.returns reply, s')) : FitsInt reply.rc := by
  unfold DmsFile.insertIntoPage at inserted
  split at inserted
  · cases inserted
    exact edbSys_fitsInt
  · split at inserted
    · cases inserted
      exact edbSys_fitsInt
    · dsimp only at inserted
      -- the page may have been compacted first
      generalize (if DmsFile.needsRecover s.memory _ _ = true then _ else s) = reclaimed
        at inserted
      split at inserted
      · cases inserted
        exact edbSys_fitsInt
      · split at inserted
        · cases inserted
          exact edbOk_fitsInt
        · cases inserted

theorem insertRetry_fitsInt {record : BsonObj} {answers : List DmsFile.ExtendAnswer}
    (small : ∀ answer ∈ answers, ExtendAnswer.IntErrno answer) {s s' : DmsFile}
    {reply : DmsFile.InsertReply}
    (inserted : DmsFile.insertRetry record answers s = some (.returns reply, s')) :
    FitsInt reply.rc := by
  induction answers generalizing s with
  | nil =>
      unfold DmsFile.insertRetry at inserted
      split at inserted
      · cases inserted
      · dsimp only at inserted
        split at inserted
        · cases inserted
        · exact insertIntoPage_fitsInt (Option.some.inj inserted)
  | cons answer answers ih =>
      unfold DmsFile.insertRetry at inserted
      split at inserted
      · cases inserted
      · dsimp only at inserted
        split at inserted
        · split at inserted
          · cases inserted
          next code after extended =>
            split at inserted
            · cases inserted
              exact extendLatched_fitsInt (small answer List.mem_cons_self) extended
            · exact ih (fun other member => small other (List.mem_cons_of_mem _ member)) inserted
        · exact insertIntoPage_fitsInt (Option.some.inj inserted)

/-- What `insert` returns is what the caller sees, an `int`. -/
theorem insert_fitsInt {s s' : DmsFile} {answers : List DmsFile.ExtendAnswer}
    (small : ∀ answer ∈ answers, ExtendAnswer.IntErrno answer) {record : BsonObj}
    {reply : DmsFile.InsertReply} (inserted : s.insert answers record = some (.returns reply, s')) :
    FitsInt reply.rc := by
  unfold DmsFile.insert at inserted
  split at inserted
  · cases inserted
    exact edbInvalidArg_fitsInt
  · split at inserted
    · cases inserted
    · cases inserted
    · cases inserted
      exact edbInvalidArg_fitsInt
    · exact insertRetry_fitsInt small inserted

/-! ### What one request does -/

/-- Only an insert message asks to store an object. -/
theorem insertedObject_of_other {m : Mem} (other : opCode m ≠ opInsert) :
    insertedObject m = none := by
  rw [insertedObject, msgExtractInsert, msgExtractCounted]
  split
  case h_1 extracted =>
    split at extracted
    · cases extracted
    · cases extracted
  case h_2 => rfl

/-- An object that a message holds and that is long enough to be looked into is an object of
the store. -/
theorem bsonObjAt_object {m : Mem} {start : Nat} {bytes : List UInt8}
    (found : bsonObjAt m start = some bytes) (long : 5 ≤ bytes.length) :
    ∃ record : BsonObj, record.bytes = bytes := by
  obtain ⟨size, sized, rfl⟩ := Option.map_eq_some_iff.mp found
  rw [readBytes_length] at long
  have same := readU32_eq_ofBytes (i := 0) (show readBytes m start size = _ from rfl)
    (by omega)
  have word := readU32_lt m start
  unfold bsonSizeAt at sized
  split at sized
  case isFalse => cases sized
  case isTrue valid =>
    cases sized
    rw [bsonIsValid, Bool.and_eq_true, decide_eq_true_iff, decide_eq_true_iff] at valid
    obtain ⟨positive, upper⟩ := valid
    have size : intAtAddress m start = readU32 m start := by
      unfold intAtAddress toI32 at positive upper ⊢
      unfold bsonObjMaxInternalSize at upper
      omega
    rw [Nat.add_zero] at same
    refine ⟨⟨readBytes m start (intAtAddress m start).toNat, ?_, ?_, ?_⟩, rfl⟩
    · rw [readBytes_length]
      omega
    · rw [readBytes_length]
      omega
    · rw [← same, readBytes_length, size, Int.toNat_natCast]

section Dispatch

variable {Store : Type} {env : AgentEnv Store} {m : Mem} {store : Store} {done : Processed Store}

/-- What the server does with a message, up to the reply. -/
inductive Dispatched (env : AgentEnv Store) (m : Mem) (store : Store) :
    Processed Store → Prop where
  | idle {done : Processed Store} (code : opCode m ≠ opInsert) (silent : done.calls = [])
      (kept : done.store = store) : Dispatched env m store done
  | asks {done : Processed Store} (call : RtnCall) (code : opCode m ≠ opInsert)
      (other : ∀ bytes, call ≠ .insert bytes) (performed : performCall env call store = some done) :
      Dispatched env m store done
  | refused {rc : ReturnCode} (code : opCode m = opInsert)
      (failure : rc = edbInvalidArg ∨ rc = edbNoId) : Dispatched env m store (.idle rc store)
  | inserts {done : Processed Store} (record : BsonObj) (code : opCode m = opInsert)
      (object : insertedObject m = some record.bytes)
      (performed : performCall env (.insert record.bytes) store = some done) :
      Dispatched env m store done

/-- A process that gets past the print of an invalid object refuses it. -/
theorem assertInvalid_some {a : Nat} (processed : assertInvalid env m a store = some done) :
    done = .idle edbInvalidArg store := by
  obtain ⟨_, -, rfl⟩ := Option.map_eq_some_iff.mp processed
  rfl

theorem processKey_dispatched {extract : Mem → Completion (Except ReturnCode (List UInt8))}
    {call : List UInt8 → RtnCall} (code : opCode m ≠ opInsert)
    (other : ∀ key bytes, call key ≠ .insert bytes)
    (processed : processKey env extract call m store = some done) :
    Dispatched env m store done := by
  unfold processKey at processed
  split at processed
  · rw [assertInvalid_some processed]
    exact .idle code rfl rfl
  · cases processed
    exact .idle code rfl rfl
  next recordID extracted =>
    unfold afterToString at processed
    split at processed
    · cases processed
    · cases processed
      exact .idle code rfl rfl
    · exact .asks (call recordID) code (other recordID) processed

theorem processInsert_dispatched (code : opCode m = opInsert)
    (processed : processInsert env m store = some done) : Dispatched env m store done := by
  unfold processInsert at processed
  split at processed
  case h_1 =>
    cases processed
    exact .refused code (.inl rfl)
  case h_2 => cases processed
  case h_3 count start extracted =>
    split at processed
    case h_1 =>
      rw [assertInvalid_some processed]
      exact .refused code (.inl rfl)
    case h_2 insertor found =>
      unfold afterToString at processed
      split at processed
      case h_1 => cases processed
      case h_2 =>
        cases processed
        exact .refused code (.inl rfl)
      case h_3 =>
        split at processed
        case isTrue => cases processed
        case isFalse long =>
          split at processed
          case isTrue =>
            cases processed
            exact .refused code (.inr rfl)
          case isFalse =>
            obtain ⟨record, rfl⟩ := bsonObjAt_object found (by omega)
            refine .inserts record code ?_ processed
            rw [insertedObject, extracted]
            exact found

theorem dispatch_dispatched (dispatched : dispatch env m store = some done) :
    Dispatched env m store done := by
  by_cases code : opCode m = opInsert
  · unfold dispatch at dispatched
    split at dispatched
    · cases dispatched
      exact .refused code (.inl rfl)
    · rw [if_pos code.symm] at dispatched
      exact processInsert_dispatched code dispatched
  · unfold dispatch at dispatched
    split at dispatched
    · cases dispatched
      exact .idle code rfl rfl
    · rw [if_neg (Ne.symm code)] at dispatched
      split at dispatched
      · exact processKey_dispatched code (by simp) dispatched
      · split at dispatched
        · exact processKey_dispatched code (by simp) dispatched
        · split at dispatched
          · cases dispatched
            exact .idle code rfl rfl
          · split at dispatched
            · cases dispatched
              exact .idle code rfl rfl
            · split at dispatched
              · cases dispatched
                exact .idle code rfl rfl
              · cases dispatched
                exact .idle code rfl rfl

end Dispatch

/-! ### Up to the call -/

section Noting

variable {Store : Type} {runtime : Runtime Store} {toString : Mem → Nat → Option (Completion Unit)}
  {firstElement : Mem → Nat → Option Unit} {realloc : Option Mem} {m : Mem} {store : Store}

/-- Processing with the call that was noted, if any, made of the runtime. -/
def resumeWith (env : AgentEnv Store) (store : Store) (done : Processed Unit) :
    Option (Processed Store) :=
  match done.calls with
  | [] => some ⟨done.rc, done.disconnect, done.retObj, [], store⟩
  | call :: _ => performCall env call store

/-- What an agent does before the call does not depend on the runtime. -/
theorem afterToString_noting {a : Nat} {next : Option (Processed Store)}
    {noted : Option (Processed Unit)}
    (same : next = noted.bind (resumeWith ⟨runtime, toString, firstElement, realloc⟩ store)) :
    afterToString ⟨runtime, toString, firstElement, realloc⟩ m a store next =
      (afterToString ⟨noting, toString, firstElement, realloc⟩ m a () noted).bind
        (resumeWith ⟨runtime, toString, firstElement, realloc⟩ store) := by
  unfold afterToString
  dsimp only
  split
  · rfl
  · rfl
  · exact same

/-- Nor does the print of an invalid object. -/
theorem assertInvalid_noting {a : Nat} :
    assertInvalid ⟨runtime, toString, firstElement, realloc⟩ m a store =
      (assertInvalid ⟨noting, toString, firstElement, realloc⟩ m a ()).bind
        (resumeWith ⟨runtime, toString, firstElement, realloc⟩ store) := by
  unfold assertInvalid
  dsimp only
  cases firstElement m a with
  | none => rfl
  | some _ => rfl

theorem processKey_noting {extract : Mem → Completion (Except ReturnCode (List UInt8))}
    {call : List UInt8 → RtnCall} :
    processKey ⟨runtime, toString, firstElement, realloc⟩ extract call m store =
      (processKey ⟨noting, toString, firstElement, realloc⟩ extract call m ()).bind
        (resumeWith ⟨runtime, toString, firstElement, realloc⟩ store) := by
  unfold processKey
  split
  · exact assertInvalid_noting
  · rfl
  · exact afterToString_noting rfl

theorem processInsert_noting :
    processInsert ⟨runtime, toString, firstElement, realloc⟩ m store =
      (processInsert ⟨noting, toString, firstElement, realloc⟩ m ()).bind
        (resumeWith ⟨runtime, toString, firstElement, realloc⟩ store) := by
  unfold processInsert
  split
  · rfl
  · rfl
  · split
    · exact assertInvalid_noting
    · refine afterToString_noting ?_
      split
      · rfl
      · split
        · rfl
        · rfl

theorem dispatch_noting :
    dispatch ⟨runtime, toString, firstElement, realloc⟩ m store =
      (dispatch ⟨noting, toString, firstElement, realloc⟩ m ()).bind
        (resumeWith ⟨runtime, toString, firstElement, realloc⟩ store) := by
  unfold dispatch
  split
  · rfl
  · split
    · exact processInsert_noting
    · split
      · exact processKey_noting
      · split
        · exact processKey_noting
        · split
          · rfl
          · split
            · rfl
            · split
              · rfl
              · rfl

end Noting

/-- A request that is served has not ended the process. -/
theorem serve_not_aborts {request : ServerRequest} {file after : DmsFile}
    {out : AgentOutcome DmsFile} (served : serve request file = some (out, after)) :
    request.aborts = false := by
  obtain ⟨out', processed, -⟩ := Option.map_eq_some_iff.mp served
  obtain ⟨done, dispatched, -⟩ := Option.bind_eq_some_iff.mp processed
  rw [ServerRequest.env, dispatch_noting] at dispatched
  obtain ⟨noted, went, -⟩ := Option.bind_eq_some_iff.mp dispatched
  rw [ServerRequest.aborts, went]
  rfl

/-- Only an insert changes the file. -/
theorem rtn_kept (answers : List DmsFile.ExtendAnswer) {call : RtnCall} (file : DmsFile)
    (other : ∀ bytes, call ≠ .insert bytes) :
    ∃ rc, (rtn answers).call call file = some (.returns rc, file) := by
  cases call with
  | insert bytes => exact absurd rfl (other bytes)
  | find bytes => exact ⟨_, rfl⟩
  | remove bytes => exact ⟨_, rfl⟩

/-- The reply to an insert message says what processing came to. -/
theorem acknowledgedBy_insert {request : ServerRequest} (admissible : request.Admissible)
    {file after : DmsFile} {out : AgentOutcome DmsFile} {done : Processed DmsFile}
    (dispatched : dispatch request.env request.received file = some done)
    (served : serve request file = some (out, after))
    (code : opCode request.received = opInsert) (connected : done.disconnect = false)
    (fits : FitsInt done.rc) :
    after = done.store ∧ acknowledgedBy request.received out =
      if done.rc = edbOk then insertedObject request.received else none := by
  obtain ⟨out', processed, same⟩ := Option.map_eq_some_iff.mp served
  cases same
  have buffer : ResultBuffer request.result := ⟨admissible.sound, admissible.room⟩
  obtain ⟨out', processed', -, stored, reply⟩ :=
    process_of_done buffer dispatched connected fits.1 fits.2
  obtain rfl : out = out' := Option.some.inj (processed.symm.trans processed')
  have plain : replyObject (opCode request.received) done.retObj = none := by
    rw [code]
    rfl
  rw [plain] at reply
  rcases reply with ⟨-, -, extracted, read, same⟩ | ⟨cannot, -⟩
  · refine ⟨stored, ?_⟩
    rw [acknowledgedBy, read, ← same]
  · exact absurd buffer.canReply cannot

/-- What one request does to the file, and what its client is told. -/
inductive Served (file after : DmsFile) : Option (List UInt8) → Prop where
  | kept (same : after = file) : Served file after none
  | stored (answers : List DmsFile.ExtendAnswer) (record : BsonObj)
      (reply : DmsFile.InsertReply) (ok : reply.rc = edbOk)
      (inserted : file.insert answers record = some (.returns reply, after)) :
      Served file after (some record.bytes)
  | failed (answers : List DmsFile.ExtendAnswer) (record : BsonObj)
      (reply : DmsFile.InsertReply) (error : reply.rc ≠ edbOk)
      (inserted : file.insert answers record = some (.returns reply, after)) :
      Served file after none
  | threw (answers : List DmsFile.ExtendAnswer) (record : BsonObj)
      (inserted : file.insert answers record = some (.throws, after)) :
      Served file after none

theorem serve_served {request : ServerRequest} (admissible : request.Admissible)
    {file after : DmsFile} {out : AgentOutcome DmsFile}
    (served : serve request file = some (out, after)) :
    Served file after (acknowledgedBy request.received out) := by
  obtain ⟨out', processed, same⟩ := Option.map_eq_some_iff.mp served
  obtain ⟨done, dispatched, finished⟩ := Option.bind_eq_some_iff.mp processed
  have silent (code : opCode request.received ≠ opInsert) :
      acknowledgedBy request.received out = none := by
    rw [acknowledgedBy, insertedObject_of_other code]
    split
    · split <;> rfl
    · rfl
  have stored : after = done.store := by
    cases same
    dsimp only at finished
    split at finished
    · cases finished
      rfl
    · obtain ⟨reply, built, rfl⟩ := Option.map_eq_some_iff.mp finished
      rfl
  cases dispatch_dispatched dispatched with
  | idle code calls kept =>
      rw [silent code]
      exact .kept (stored.trans kept)
  | asks call code other performed =>
      rw [silent code]
      obtain ⟨rc, called⟩ := rtn_kept request.answers file other
      rw [performCall, show request.env.runtime.call call file = _ from called] at performed
      cases performed
      exact .kept stored
  | @refused rc code failure =>
      have fits : FitsInt rc := by
        rcases failure with rfl | rfl
        · exact edbInvalidArg_fitsInt
        · exact ⟨by decide, by decide⟩
      obtain ⟨stored, told⟩ := acknowledgedBy_insert admissible dispatched served code rfl fits
      have error : rc ≠ edbOk := by
        rcases failure with rfl | rfl
        · decide
        · decide
      rw [told, if_neg (show ¬(Processed.idle rc file).rc = edbOk from error)]
      exact .kept stored
  | inserts record code object performed =>
      have call : request.env.runtime.call (.insert record.bytes) file =
          rtnInsert request.answers record file := rtn_insert request.answers record file
      rw [performCall, call, rtnInsert] at performed
      cases inserted : file.insert request.answers record with
      | none =>
          rw [inserted] at performed
          cases performed
      | some answer =>
          obtain ⟨completion, file'⟩ := answer
          rw [inserted] at performed
          cases completion with
          | throws =>
              cases performed
              obtain ⟨stored, told⟩ := acknowledgedBy_insert admissible dispatched served code
                rfl edbInvalidArg_fitsInt
              have error : ¬edbInvalidArg = edbOk := by decide
              dsimp only at told stored
              rw [told, if_neg error, stored]
              exact .threw request.answers record inserted
          | returns reply =>
              cases performed
              have small := insert_fitsInt admissible.errno inserted
              have int : toI32 reply.rc = reply.rc := toI32_of_lt small.1 small.2
              obtain ⟨stored, told⟩ := acknowledgedBy_insert admissible dispatched served code
                rfl (toI32_int reply.rc)
              dsimp only at told stored
              rw [told, int, stored, object]
              split
              case isTrue ok => exact .stored request.answers record reply ok inserted
              case isFalse error => exact .failed request.answers record reply error inserted

/-! ### Runs -/

/-- Between two requests no latch is held, and the file holds the objects of the list, each
under a record id of its own. -/
structure FileHolds (s : DmsFile) (entries : List (DmsRecordId × List UInt8)) (view : FileView) :
    Prop where
  layout : FileLayout s view
  mutex : s.mutex = .init
  extendMutex : s.extendMutex = .init
  holds : view.store.Holds entries

/-- One request keeps what holds between two requests; an insert that was acknowledged added
one object. -/
theorem FileHolds.serve {s s' : DmsFile} {entries : List (DmsRecordId × List UInt8)}
    {view : FileView} (before : FileHolds s entries view) {request : ServerRequest}
    (admissible : request.Admissible) {out : AgentOutcome DmsFile}
    (served : EmeraldDb.serve request s = some (out, s')) :
    ∃ added view', FileHolds s' (entries ++ added) view' ∧
      added.map Prod.snd = (acknowledgedBy request.received out).toList := by
  have outcome := serve_served admissible served
  generalize acknowledgedBy request.received out = answer at outcome
  have settled {completion : Completion DmsFile.InsertReply} {answers : List DmsFile.ExtendAnswer}
      {record : BsonObj} (inserted : s.insert answers record = some (completion, s')) :
      ∃ view', FileLayout s' view' ∧ InsertOutcome view record completion view' ∧
        s'.mutex = .init ∧ s'.extendMutex = .init := by
    obtain ⟨view', layout, outcome, mutex, extendMutex⟩ := insert_layout before.layout inserted
    refine ⟨view', layout, outcome, ?_, extendMutex.trans before.extendMutex⟩
    rcases mutex with free | same
    · exact free
    · exact same.trans before.mutex
  have kept {view' : FileView} (layout : FileLayout s' view') (mutex : s'.mutex = .init)
      (extendMutex : s'.extendMutex = .init)
      (step : IdStore.Step view.store .keep view'.store) :
      FileHolds s' (entries ++ []) view' := by
    rw [List.append_nil]
    exact ⟨layout, mutex, extendMutex, before.holds.keep step⟩
  cases outcome with
  | kept same =>
      subst same
      exact ⟨[], view, kept before.layout before.mutex before.extendMutex (.refl _), rfl⟩
  | stored answers record reply ok inserted =>
      obtain ⟨view', layout, outcome, mutex, extendMutex⟩ := settled inserted
      cases outcome with
      | @stored _ rid _ step =>
          exact ⟨[(rid, record.bytes)], view',
            ⟨layout, mutex, extendMutex, before.holds.put step⟩, rfl⟩
      | failed error step => exact absurd ok error
  | failed answers record reply error inserted =>
      obtain ⟨view', layout, outcome, mutex, extendMutex⟩ := settled inserted
      cases outcome with
      | stored step => exact absurd rfl error
      | failed _ step => exact ⟨[], view', kept layout mutex extendMutex step, rfl⟩
  | threw answers record inserted =>
      obtain ⟨view', layout, outcome, mutex, extendMutex⟩ := settled inserted
      cases outcome with
      | threw step => exact ⟨[], view', kept layout mutex extendMutex step, rfl⟩

theorem NewFile.fileHolds {s : DmsFile} (new : NewFile s) : FileHolds s [] .empty where
  layout := new.rep.toFileLayout
  mutex := new.mutex
  extendMutex := new.extendMutex
  holds := .nil fun _ allocated => Nat.not_lt_zero _ (FileView.page_lt_of_allocated allocated)

theorem acknowledged_append (trace : RequestTrace)
    (call : Transition DmsFile ServerRequest (AgentOutcome DmsFile)) :
    acknowledged (trace ++ [call]) =
      acknowledged trace ++ (acknowledgedBy call.action.received call.reply).toList := by
  rw [acknowledged, List.filterMap_append, ← acknowledged, List.filterMap_cons]
  cases acknowledgedBy call.action.received call.reply <;> rfl

section Runs

variable {start s : DmsFile} {trace : RequestTrace} {entries : List (DmsRecordId × List UInt8)}
  {view : FileView}

/-- Along a run the list grows by the objects that the clients were told are stored. -/
theorem FileHolds.run (before : FileHolds start entries view) (run : Server start trace s) :
    ∃ added view', FileHolds s (entries ++ added) view' ∧
      added.map Prod.snd = acknowledged trace := by
  let kept (trace : RequestTrace) (s : DmsFile) : Prop :=
    ∃ added view', FileHolds s (entries ++ added) view' ∧
      added.map Prod.snd = acknowledged trace
  have initially : kept [] start := by
    refine ⟨[], view, ?_, rfl⟩
    rwa [List.append_nil]
  refine Run.invariant_with_trace initially ?_ run
  rintro trace s request out s' - ⟨added, view', holds, told⟩ admissible served
  obtain ⟨more, view'', after, last⟩ := holds.serve admissible served
  refine ⟨added ++ more, view'', ?_, ?_⟩
  · rwa [← List.append_assoc]
  · rw [acknowledged_append, List.map_append, told, last]

theorem server_holds (fresh : start.Fresh) (run : Server start trace s) :
    ∃ entries view, FileHolds s entries view ∧ entries.map Prod.snd = acknowledged trace :=
  (fresh_newFile fresh).fileHolds.run run

/-- What the file holds is found. -/
theorem find_held (layout : FileLayout s view) (free : s.mutex = .init)
    (held : view.store.Holds entries) {entry : DmsRecordId × List UInt8}
    (member : entry ∈ entries) :
    s.find entry.1 = some (.returns ⟨edbOk, some entry.2⟩, s) := by
  have live := held.live entry member
  obtain ⟨record, found, same⟩ := Option.map_eq_some_iff.mp live
  have noWriter : s.mutex.writer = false := by
    rw [free]
    rfl
  rw [← same]
  exact find_live layout noWriter found

theorem FileHolds.find (holds : FileHolds s entries view) {entry : DmsRecordId × List UInt8}
    (member : entry ∈ entries) :
    s.find entry.1 = some (.returns ⟨edbOk, some entry.2⟩, s) :=
  find_held holds.layout holds.mutex holds.holds member

/-- Nothing else is found, but in the slot behind the last one of a page. -/
theorem find_unheld (layout : FileLayout s view) (free : s.mutex = .init)
    (held : view.store.Holds entries) {rid : DmsRecordId}
    (unknown : rid ∉ entries.map Prod.fst) (within : ¬ s.PastLastSlot rid) :
    s.find rid = some (.returns ⟨edbSys, none⟩, s) := by
  have noWriter : s.mutex.writer = false := by
    rw [free]
    rfl
  refine find_dead layout noWriter ?_ within
  cases contents : view.recordAt rid with
  | none => rfl
  | some record =>
      have stored : view.store.contents rid = some record.bytes :=
        congrArg (Option.map BsonObj.bytes) contents
      exact absurd (held.known rid (view.store.held rid _ stored)) unknown

/-- The objects of the list are found, each under the record id at its place; under any other
id, but for the slot behind the last one of a page, nothing is. -/
structure KeepsUnder (s : DmsFile) (rids : List DmsRecordId) (objects : List (List UInt8)) :
    Prop where
  distinct : rids.Nodup
  found : List.Forall₂ (fun rid bytes => s.find rid = some (.returns ⟨edbOk, some bytes⟩, s))
    rids objects
  unknown : ∀ rid, rid ∉ rids → ¬ s.PastLastSlot rid →
    s.find rid = some (.returns ⟨edbSys, none⟩, s)

/-- A file that stands for a store keeps what the store holds. -/
theorem FileLayout.keeps (layout : FileLayout s view) (free : s.mutex = .init)
    (held : view.store.Holds entries) :
    KeepsUnder s (entries.map Prod.fst) (entries.map Prod.snd) where
  distinct := held.distinct
  found := by
    rw [List.forall₂_map_left_iff, List.forall₂_map_right_iff, List.forall₂_same]
    exact fun entry member => find_held layout free held member
  unknown := fun _ unknown within => find_unheld layout free held unknown within

theorem FileHolds.keeps (holds : FileHolds s entries view) :
    KeepsUnder s (entries.map Prod.fst) (entries.map Prod.snd) :=
  holds.layout.keeps holds.mutex holds.holds

/-- The file holds exactly the objects whose inserts were answered with `EDB_OK`: each is
found under a record id of its own, and under any other id, but for the slot behind the last
one of a page, nothing is. -/
theorem server_keepsAcknowledged (fresh : start.Fresh) (run : Server start trace s) :
    ∃ rids : List DmsRecordId, rids.Nodup ∧
      List.Forall₂ (fun rid bytes => s.find rid = some (.returns ⟨edbOk, some bytes⟩, s))
        rids (acknowledged trace) ∧
      ∀ rid, rid ∉ rids → ¬ s.PastLastSlot rid →
        s.find rid = some (.returns ⟨edbSys, none⟩, s) := by
  obtain ⟨entries, view, holds, told⟩ := server_holds fresh run
  obtain ⟨distinct, found, unknown⟩ := holds.keeps
  rw [told] at found
  exact ⟨entries.map Prod.fst, distinct, found, unknown⟩

end Runs

/-! ### A request that stores a document -/

/-- The object that an agent finds in the message that `msgBuildInsert` built. -/
theorem insertedObject_of_built {realloc : Option Mem} {record : BsonObj}
    {buffer sent : MsgBuffer} {m : Mem}
    (built : msgBuildInsert realloc record buffer = some (edbOk, sent))
    (received : Received sent m) : insertedObject m = some record.bytes := by
  have upper := record.objsize_le
  have header : sizeofMsgInsert = 12 := rfl
  have size : record.bytes.length = record.objsize := rfl
  have written := msgBuildOne_spells built rfl (by decide)
  have spelled := received.spells (by omega)
    (by rw [List.length_append, intBytes_length]; rfl) written
  have extracted : msgExtractCounted opInsert m =
      .ok ((1 : Nat), if 0 = 1 then none else some sizeofMsgInsert) :=
    msgExtractCounted_of_spells (by omega) (by omega) (by decide) (by decide) (by decide) spelled
  have here : readBytes m sizeofMsgInsert record.objsize = record.bytes := spelled.data_eq
  rw [insertedObject, msgExtractInsert, extracted, if_neg (by decide)]
  exact bsonObjAt_of_spelled here

/-- `insert` into a page does not touch the list of segments. -/
theorem insertIntoPage_body {s s' : DmsFile} {record : BsonObj} {p : Nat}
    {completion : Completion DmsFile.InsertReply}
    (inserted : s.insertIntoPage record p = (completion, s')) : s'.body = s.body := by
  unfold DmsFile.insertIntoPage at inserted
  split at inserted
  · cases inserted
    rfl
  next page placed =>
    split at inserted
    · cases inserted
      rfl
    · dsimp only at inserted
      have same : (if DmsFile.needsRecover s.memory page record.objsize = true then
          s.setMemory (recoverSpace s.memory page) else s).body = s.body := by
        split <;> rfl
      generalize (if DmsFile.needsRecover s.memory page record.objsize = true then
        s.setMemory (recoverSpace s.memory page) else s) = compacted at inserted same
      rw [← same]
      split at inserted
      · cases inserted
        rfl
      · split at inserted
        · cases inserted
          rfl
        · cases inserted
          rfl

/-- A new file takes the document with the first extension. -/
theorem NewFile.stores_granted {start : DmsFile} (new : NewFile start) :
    ∃ (reply : DmsFile.InsertReply) (s : DmsFile), reply.rc = edbOk ∧ s.body = [65536] ∧
      start.insert [.granted] (binDataRecord [] (by decide)) = some (.returns reply, s) := by
  have size := binDataRecord_objsize [] (by decide)
  have admitted : Admitted (binDataRecord [] (by decide)) := by
    refine ⟨?_, binDataRecord_hasKey [] (by decide)⟩
    rw [size]
    decide
  have missing : start.findPage ((binDataRecord [] (by decide)).objsize + sizeofDmsRecord) =
      dmsInvalidPageId := by
    rcases new.rep.findPage _ (insertKey_lt _) with ⟨bound, -⟩ | ⟨missing, -⟩
    · exact absurd bound (Nat.not_lt_zero _)
    · exact missing
  obtain ⟨s', extended, -⟩ := new.lengthened.extend (by decide)
  obtain ⟨-, ⟨-, done⟩ | ⟨failed, -⟩⟩ := extendLatched_refines new.rep extended
  · have stores := (insert_extended_iff new.rep new.mutex admitted extended done
      missing).mpr (by rw [size]; decide)
    obtain ⟨out, rid, s'', inserted, -⟩ := stores
    obtain ⟨-, found, -⟩ := findPage_extended done.rep
      (show (binDataRecord [] (by decide)).objsize < 4194268 by rw [size]; decide)
    have last := inserted
    rw [insert_extending new.mutex admitted missing extended, admitted.insert,
      insertRetry_of_page done.mutex found] at last
    have body := insertIntoPage_body (Option.some.inj last)
    refine ⟨_, s'', rfl, ?_, inserted⟩
    rw [body]
    change s'.body = _
    rw [done.body, new.body, new.size]
    rfl
  · exact absurd rfl failed

/-- Where realloc finds memory, a reply without an object is the four fields. -/
theorem serve_plainReply {request : ServerRequest} {fresh : Mem}
    (heap : request.realloc = some fresh) (sound : request.result.Sound) {file : DmsFile}
    {done : Processed DmsFile}
    (dispatched : dispatch request.env request.received file = some done)
    (connected : done.disconnect = false)
    (plain : replyObject (opCode request.received) done.retObj = none) :
    ∃ out, serve request file = some (out, done.store) ∧
      Spells out.result.contents [sizeofMsgReply, opReply, done.rc, 0] [] := by
  obtain ⟨-, granted⟩ := msgBuildReply_none_granted sound fresh done.rc
  rw [serve, pmdProcessAgentRequest, dispatched, Option.bind_some, connected, plain,
    show request.env.realloc = some fresh from heap, granted]
  exact ⟨_, rfl, Spells.of_written⟩

theorem granted_intErrno : ExtendAnswer.IntErrno .granted := by
  refine ⟨fun _ none => ?_, fun _ _ wrote => ?_, fun _ none => ?_⟩
  · cases none
  · simp [DmsFile.ExtendAnswer.granted] at wrote
  · cases none

/-- An agent that serves the insert of the document on a new file acknowledges it. -/
theorem NewFile.insertServed {start : DmsFile} (new : NewFile start) :
    ∃ (s : DmsFile) (request : ServerRequest) (sent : MsgBuffer) (out : AgentOutcome DmsFile)
      (reply : ExtractedReply), s.body = [65536] ∧ request.Admissible ∧
      msgBuildInsert (some fun _ => 0) (binDataRecord [] (by decide)) clientBuffer =
        some (edbOk, sent) ∧
      Received sent request.received ∧ serve request start = some (out, s) ∧
      Spells out.result.contents [sizeofMsgReply, opReply, edbOk, 0] [] ∧
      msgExtraReply out.result.contents = .ok reply ∧ reply.returnCode = edbOk := by
  obtain ⟨stored, s, ok, body, inserted⟩ := new.stores_granted
  have size := binDataRecord_objsize [] (by decide)
  have header : sizeofMsgInsert = 12 := rfl
  obtain ⟨length, granted⟩ := msgBuildOne_granted clientBuffer_sound (fun _ => 0)
    sizeofMsgInsert opInsert [1] (binDataRecord [] (by decide)) rfl (by decide)
  obtain ⟨sent, wrote, spelled⟩ :=
    wrote_of_granted clientBuffer_sound (by rw [size]; decide) length granted
  let request : ServerRequest :=
    { received := sent.contents
      result := agentResult
      answers := [.granted]
      toString := fun _ _ => some (.returns ())
      firstElement := fun _ _ => some ()
      realloc := some fun _ => 0 }
  have admissible : request.Admissible := by
    refine ⟨agentResult_resultBuffer.sound, agentResult_resultBuffer.room, ?_⟩
    intro answer member
    rw [List.mem_singleton.mp member]
    exact granted_intErrno
  rw [← List.append_nil (binDataRecord [] (by decide)).bytes] at spelled
  have dispatched : dispatch request.env sent.contents start =
      performCall request.env (.insert (binDataRecord [] (by decide)).bytes) start := by
    refine dispatch_insert (fun _ _ _ => rfl) binDataRecord_startsWithKey (by omega)
      (by rw [size]; decide) (by decide) (by decide) spelled
  have call : request.env.runtime.call (.insert (binDataRecord [] (by decide)).bytes) start =
      some (.returns edbOk, s) := by
    have called : request.env.runtime.call (.insert (binDataRecord [] (by decide)).bytes) start =
      rtnInsert [.granted] (binDataRecord [] (by decide)) start := rtn_insert _ _ _
    rw [called, rtnInsert, inserted, Option.map_some]
    dsimp only
    rw [ok]
    rfl
  have code : opCode sent.contents = opInsert :=
    opCode_of_spells (by decide) (by decide) spelled
  rw [performCall, call] at dispatched
  obtain ⟨out, served, told⟩ := serve_plainReply rfl admissible.sound dispatched rfl
    (by rw [show request.received = sent.contents from rfl, code]; rfl)
  obtain ⟨-, extracted⟩ := msgExtraReply_of_spells (Nat.le_refl _) (by decide) edbOk_int.1
    edbOk_int.2 (.inl rfl) told
  exact ⟨s, request, sent, out, _, body, admissible, wrote.returned, rfl, served, told, extracted,
    rfl⟩

/-- One acknowledged insert leaves one record to be found. -/
theorem server_keepsAcknowledged_oneInsert : ∃ (s : DmsFile) (rid : DmsRecordId),
    s.find rid =
      some (.returns ⟨edbOk, some (binDataRecord [] (by decide)).bytes⟩, s) := by
  obtain ⟨start, fresh⟩ := exists_fresh
  obtain ⟨s, request, sent, out, reply, -, admissible, built, received, served, -, replied, ok⟩ :=
    (fresh_newFile fresh).insertServed
  have run : Server start [⟨start, request, out, s⟩] s := Run.step .start admissible served
  obtain ⟨rids, -, found, -⟩ := server_keepsAcknowledged fresh run
  have told : acknowledged [⟨start, request, out, s⟩] =
      [(binDataRecord [] (by decide)).bytes] := by
    have answer : acknowledgedBy request.received out =
        some (binDataRecord [] (by decide)).bytes := by
      rw [acknowledgedBy, replied]
      dsimp only
      rw [if_pos ok, insertedObject_of_built built received]
    simp [acknowledged, answer]
  rw [told] at found
  obtain ⟨rid, -, here, -, -⟩ := List.forall₂_cons_right_iff.mp found
  exact ⟨s, rid, here⟩

/-! ### The way of a document -/

/-- The object of an insert message that the server answers with `EDB_OK` is found after any
further requests of any clients. -/
theorem insertedObject_found {start s s' s'' : DmsFile} {trace later : RequestTrace}
    {record : BsonObj} {realloc : Option Mem} {buffer sent : MsgBuffer}
    {request : ServerRequest} {out : AgentOutcome DmsFile} {reply : ExtractedReply}
    (fresh : start.Fresh) (before : Server start trace s)
    (built : msgBuildInsert realloc record buffer = some (edbOk, sent))
    (received : Received sent request.received) (admissible : request.Admissible)
    (served : serve request s = some (out, s'))
    (replied : msgExtraReply out.result.contents = .ok reply) (ok : reply.returnCode = edbOk)
    (after : Server s' later s'') :
    ∃ rid, s''.find rid = some (.returns ⟨edbOk, some record.bytes⟩, s'') := by
  obtain ⟨entries, view, holds, -⟩ := server_holds fresh before
  obtain ⟨added, view', stored, told⟩ := holds.serve admissible served
  obtain ⟨more, view'', kept, -⟩ := stored.run after
  have answer : acknowledgedBy request.received out = some record.bytes := by
    rw [acknowledgedBy, replied]
    dsimp only
    rw [if_pos ok, insertedObject_of_built built received]
  rw [answer] at told
  have last : record.bytes ∈ added.map Prod.snd := by
    rw [told]
    exact List.mem_singleton_self _
  obtain ⟨entry, member, same⟩ := List.mem_map.mp last
  rw [← same]
  have held : entry ∈ entries ++ added ++ more :=
    List.mem_append_left _ (List.mem_append_right _ member)
  exact ⟨entry.1, kept.find held⟩

/-- A document that a client builds and sends in an insert message, and whose insert the
server answers with `EDB_OK`, is found after any further requests of any clients, and reads
back as the same document. -/
theorem insertedDocument_readsBack {start s s' s'' : DmsFile} {trace later : RequestTrace}
    {fields : BsonFields} {record : BsonObj} {realloc : Option Mem} {buffer sent : MsgBuffer}
    {request : ServerRequest} {out : AgentOutcome DmsFile} {reply : ExtractedReply}
    (fresh : start.Fresh) (before : Server start trace s) (plain : fields.Plain)
    (short : fields.Short) (object : buildObject fields = some record.bytes)
    (built : msgBuildInsert realloc record buffer = some (edbOk, sent))
    (received : Received sent request.received) (admissible : request.Admissible)
    (served : serve request s = some (out, s'))
    (replied : msgExtraReply out.result.contents = .ok reply) (ok : reply.returnCode = edbOk)
    (after : Server s' later s'') :
    ∃ rid bytes, s''.find rid = some (.returns ⟨edbOk, some bytes⟩, s'') ∧
      readObject bytes = .ok fields := by
  obtain ⟨rid, found⟩ := insertedObject_found fresh before built received admissible served
    replied ok after
  obtain ⟨bytes, valid⟩ := objectOf_built short object
  refine ⟨rid, record.bytes, found, ?_⟩
  rw [bytes]
  exact readObject_documentBytes fields plain valid

/-- The document with only a key is read back. -/
theorem insertedDocument_readsBack_key : ∃ (s : DmsFile) (rid : DmsRecordId) (bytes : List UInt8),
    s.find rid = some (.returns ⟨edbOk, some bytes⟩, s) ∧ readObject bytes = .ok keyDocument := by
  obtain ⟨start, fresh⟩ := exists_fresh
  obtain ⟨s, request, sent, out, reply, -, admissible, built, received, served, -, replied, ok⟩ :=
    (fresh_newFile fresh).insertServed
  obtain ⟨rid, bytes, found, read⟩ := insertedDocument_readsBack fresh .start
    keyDocument_plain keyDocument_short buildObject_keyDocument built received admissible served
    replied ok .start
  exact ⟨s, rid, bytes, found, read⟩

end EmeraldDb
