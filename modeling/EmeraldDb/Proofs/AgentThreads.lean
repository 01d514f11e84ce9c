/-
Module: EmeraldDb.Proofs.AgentThreads
Purpose: Agents that process requests at the same time are seen by their clients as one server
  that takes the requests one after the other, and the file holds what it acknowledged.
Trusted boundary: none
Main exports: InsertSpec, InsertCoupled, insert_simulates, Prepared, prepare_prepared,
  agents_linearizable, agent_uninterrupted
-/
import EmeraldDb.Pmd.AgentThreads
import EmeraldDb.Proofs.ServerRun
import EmeraldDb.Proofs.StoreThreads

namespace EmeraldDb

open ByteMemory
open DmsFile (ExtendAnswer InsertReply)

/-! ### Inserts -/

/-- The code of the reply is an `int`. -/
def CompletionFitsInt : Completion InsertReply → Prop
  | .returns reply => FitsInt reply.rc
  | .throws => True

/-- The codes that a thread carries through its insert are `int`s. -/
def InsertPosition.CarriesInt : InsertPosition → Prop
  | .extended rc => FitsInt rc
  | .finished completion => CompletionFitsInt completion
  | _ => True

/-- A sequential insert, with an `int` for a code. -/
def InsertSpec (store : IdStore DmsRecordId (List UInt8)) (record : BsonObj)
    (completion : Completion InsertReply) (next : IdStore DmsRecordId (List UInt8)) : Prop :=
  StoreSpec store (.insert record) (.inserted completion) next ∧ CompletionFitsInt completion

theorem storeResult_inserting (position : InsertPosition) :
    storeResult (.inserting position) = (insertResult position).map .inserted := by
  cases position <;> rfl

section Inserting

variable {record : BsonObj} {s s' : DmsFile} {before after : InsertPosition}

theorem advance_carriesInt {answer : ExtendAnswer} (small : ExtendAnswer.IntErrno answer)
    (carries : before.CarriesInt) (step : advance record answer s before = some (after, s')) :
    after.CarriesInt := by
  cases before with
  | entered =>
      rw [advance] at step
      split at step
      next =>
        cases step
        exact edbInvalidArg_fitsInt
      next =>
        split at step
        next =>
          cases step
          trivial
        next => cases step
        next =>
          cases step
          exact edbInvalidArg_fitsInt
        next =>
          cases step
          trivial
  | retrying =>
      rw [advance] at step
      obtain ⟨held, -, behind⟩ := Option.map_eq_some_iff.mp step
      dsimp only at behind
      split at behind
      next =>
        cases behind
        trivial
      next =>
        cases inserted : { s with mutex := held }.insertIntoPage record
            ({ s with mutex := held }.findPage (record.objsize + sizeofDmsRecord)) with
        | mk completion file =>
            rw [inserted] at behind
            cases behind
            cases completion with
            | returns reply => exact insertIntoPage_fitsInt inserted
            | throws => trivial
  | missed seen =>
      rw [advance] at step
      split at step
      next =>
        cases step
        trivial
      next =>
        cases step
        trivial
  | extending seen =>
      rw [advance] at step
      obtain ⟨⟨rc, file⟩, extended, same⟩ := Option.map_eq_some_iff.mp step
      cases same
      exact extendSegment_fitsInt small extended
  | extended rc =>
      rw [advance] at step
      cases step
      split
      next => exact carries
      next => trivial
  | waiting =>
      rw [advance] at step
      obtain ⟨held, -, same⟩ := Option.map_eq_some_iff.mp step
      cases same
      trivial
  | woken =>
      rw [advance] at step
      cases step
      trivial
  | finished completion => cases step

end Inserting

/-- The file stands for the store, up to changes that do not show, and no thread carries a
code that is not an `int`. -/
structure InsertCoupled (threads : Threads DmsFile BsonObj InsertPosition)
    (store : IdStore DmsRecordId (List UInt8)) : Prop where
  file : ∃ view, FileRep threads.object view ∧ IdStore.Step store .keep view.store
  mutex : threads.object.mutex = .init
  carries : ∀ t record position, threads.inside t = some (record, position) →
    position.CarriesInt

theorem InsertCoupled.move {threads : Threads DmsFile BsonObj InsertPosition}
    {store store' : IdStore DmsRecordId (List UInt8)} {object : DmsFile} {t : Nat}
    {stand : Option (BsonObj × InsertPosition)} (coupled : InsertCoupled threads store)
    (file : ∃ view, FileRep object view ∧ IdStore.Step store' .keep view.store)
    (mutex : object.mutex = .init)
    (carries : ∀ record position, stand = some (record, position) → position.CarriesInt) :
    InsertCoupled (threads.move object t stand) store' where
  file := file
  mutex := mutex
  carries := by
    intro u record position inside
    by_cases mine : u = t
    · subst mine
      rw [Threads.move_inside_self] at inside
      exact carries record position inside
    · rw [Threads.move_inside_of_ne _ _ _ mine] at inside
      exact coupled.carries u record position inside

/-- Threads that insert simulate the store. -/
theorem insert_simulates :
    Simulates insertCode (fun _ _ _ => True) InsertSpec emptyStore insertResult InsertCoupled where
  entered _ := rfl
  finished _ _ returned := returned
  call := by
    intro trace threads order store t record coupled _ _ _
    refine coupled.move coupled.file coupled.mutex ?_
    rintro record' position ⟨⟩
    trivial
  step := by
    intro threads store t record answer before after object coupled inside step
    obtain ⟨view, rep, hidden⟩ := coupled.file
    obtain ⟨view', stepped⟩ := inserting_refines rep coupled.mutex step
    have carries := advance_carriesInt answer.2 (coupled.carries t record before inside) step
    have moved {store' : IdStore DmsRecordId (List UInt8)}
        (shown : IdStore.Step store' .keep view'.store) :
        InsertCoupled (threads.move object t (some (record, after))) store' := by
      refine coupled.move ⟨view', stepped.rep, shown⟩ stepped.mutex ?_
      rintro record' position ⟨⟩
      exact carries
    obtain ⟨unfinished, shows⟩ := stepped.shows
    rw [storeResult_inserting, Option.map_eq_none_iff] at unfinished
    rw [storeResult_inserting] at shows
    rcases shows with ⟨goesOn, same⟩ | ⟨reply, finished, call⟩
    · rw [Option.map_eq_none_iff] at goesOn
      exact .inl ⟨goesOn.trans unfinished.symm, moved (hidden.keep_trans same)⟩
    · obtain ⟨completion, ends, rfl⟩ := Option.map_eq_some_iff.mp finished
      refine .inr ⟨completion, view'.store, unfinished, ends, ⟨call.keep_trans hidden, ?_⟩,
        moved (.refl _)⟩
      cases after with
      | finished completion' =>
          cases ends
          exact carries
      | _ => cases ends
  ret := by
    intro threads store t record position completion coupled _ _
    exact coupled.move coupled.file coupled.mutex nofun

/-! ### Requests -/

/-- Only an insert message is acknowledged. -/
theorem acknowledgedIn_of_other {m : Mem} (other : opCode m ≠ opInsert) (reply : Mem) :
    acknowledgedIn m reply = none := by
  rw [acknowledgedIn, insertedObject_of_other other]
  split
  · split <;> rfl
  · rfl

/-- The reply to an insert message acknowledges its object exactly if it says `EDB_OK`. -/
theorem finishRequest_told {Store : Type} (realloc : Option Mem) {m : Mem} {result : MsgBuffer}
    (buffer : ResultBuffer result) (done : Processed Store) (code : opCode m = opInsert)
    (connected : done.disconnect = false) (fits : FitsInt done.rc) :
    ∃ out, finishRequest realloc m result done = some out ∧
      acknowledgedIn m out.result.contents =
        if done.rc = edbOk then insertedObject m else none := by
  let env : AgentEnv Unit := ⟨noting, fun _ _ => none, fun _ _ => none, realloc⟩
  have plain : replyObject (opCode m) done.retObj = none := by
    rw [code]
    rfl
  rcases @msgBuildReply_cases Unit env result buffer.sound done.rc fits.1 fits.2 none with
    ⟨-, after, built, trip⟩ | ⟨cannot, -⟩
  · change msgBuildReply realloc done.rc none result = _ at built
    rw [finishRequest, connected, plain, built]
    refine ⟨_, rfl, ?_⟩
    rw [acknowledgedIn, trip.extracted]
  · exact absurd buffer.canReply cannot

/-- What a request comes to without the file: an answer that acknowledges nothing, or the
insert of its object, which the answer acknowledges exactly if the insert succeeds. -/
inductive Prepared (request : AgentCall) :
    Preparation BsonObj (Completion InsertReply) (AgentOutcome Unit) → Prop where
  | answered {out : AgentOutcome Unit}
      (silent : acknowledgedIn request.received out.result.contents = none) :
      Prepared request (.answered out)
  | calls {record : BsonObj} {conclude : Completion InsertReply → Option (AgentOutcome Unit)}
      (concludes : ∀ completion, ∃ out, conclude completion = some out ∧
        acknowledgedIn request.received out.result.contents =
          if insertCodeOf completion = edbOk then some record.bytes else none) :
      Prepared request (.calls record conclude)

theorem insertCodeOf_fitsInt (completion : Completion InsertReply) :
    FitsInt (insertCodeOf completion) := by
  cases completion with
  | returns reply => exact toI32_int reply.rc
  | throws => exact edbInvalidArg_fitsInt

theorem prepare_prepared {request : AgentCall}
    {prepared : Preparation BsonObj (Completion InsertReply) (AgentOutcome Unit)}
    (done : request.prepare = some prepared) : Prepared request prepared := by
  have buffer : ResultBuffer request.result := ⟨request.sound, request.room⟩
  obtain ⟨processed, dispatched, rest⟩ := Option.bind_eq_some_iff.mp done
  cases dispatch_dispatched dispatched with
  | idle code silent kept =>
      rw [silent] at rest
      obtain ⟨out, -, rfl⟩ := Option.map_eq_some_iff.mp rest
      exact .answered (acknowledgedIn_of_other code _)
  | asks call code other performed =>
      cases performed
      have answered : ∃ out, prepared = .answered out := by
        cases call with
        | insert bytes => exact absurd rfl (other bytes)
        | find bytes =>
            obtain ⟨out, -, rfl⟩ := Option.map_eq_some_iff.mp rest
            exact ⟨out, rfl⟩
        | remove bytes =>
            obtain ⟨out, -, rfl⟩ := Option.map_eq_some_iff.mp rest
            exact ⟨out, rfl⟩
      obtain ⟨out, rfl⟩ := answered
      exact .answered (acknowledgedIn_of_other code _)
  | @refused rc code failure =>
      obtain ⟨out, finished, same⟩ := Option.map_eq_some_iff.mp rest
      cases same
      have fits : FitsInt rc := by
        rcases failure with rfl | rfl
        · exact edbInvalidArg_fitsInt
        · exact ⟨by decide, by decide⟩
      have error : rc ≠ edbOk := by
        rcases failure with rfl | rfl
        · decide
        · decide
      obtain ⟨out', finished', told⟩ := finishRequest_told request.realloc buffer
        (Processed.idle rc ()) code rfl fits
      obtain rfl : out = out' := Option.some.inj (finished.symm.trans finished')
      rw [if_neg (show ¬(Processed.idle rc ()).rc = edbOk from error)] at told
      exact .answered told
  | inserts record code object performed =>
      cases performed
      obtain ⟨record', found, rfl⟩ := Option.map_eq_some_iff.mp rest
      obtain rfl : record = record' := Option.some.inj ((BsonObj.fromBytes_bytes record).symm.trans
        found)
      refine .calls fun completion => ?_
      rw [← object]
      exact finishRequest_told _ buffer _ code rfl (insertCodeOf_fitsInt completion)

/-- Requests over sequential inserts are requests of the sequential server. -/
theorem callerSpec_server {store next : IdStore DmsRecordId (List UInt8)} {request : AgentCall}
    {out : AgentOutcome Unit}
    (served : CallerSpec AgentCall.prepare InsertSpec store request out next) :
    ServerSpec store request out next := by
  cases served with
  | answered prepared =>
      cases prepare_prepared prepared with
      | answered silent => exact .kept silent (.refl _)
  | called prepared step concluded =>
      cases prepare_prepared prepared with
      | calls concludes =>
          obtain ⟨out', concluded', told⟩ := concludes _
          obtain rfl : out = out' := Option.some.inj (concluded.symm.trans concluded')
          obtain ⟨call, fits⟩ := step
          have int {reply : InsertReply} (fits : FitsInt reply.rc) :
              insertCodeOf (.returns reply) = reply.rc := toI32_of_lt fits.1 fits.2
          cases call with
          | stored put =>
              rw [int fits, if_pos rfl] at told
              exact .stored told put
          | refused error keep =>
              rw [int fits, if_neg (show ¬(InsertReply.failed _).rc = edbOk from error)] at told
              exact .kept told keep
          | threw keep =>
              rw [if_neg (by decide)] at told
              exact .kept told keep

/-! ### Any number of agents -/

/-- Agents simulate requests over a sequential store. -/
theorem agents_simulate :
    Simulates agentCode (fun _ _ _ => True) (CallerSpec AgentCall.prepare InsertSpec) emptyStore
      (callerTaken insertResult) (CallerCoupled AgentCall.prepare InsertCoupled) := by
  refine insert_simulates.calledBy ?_ ?_
  · intro threads store t request record conclude coupled _ _
    refine coupled.move coupled.file coupled.mutex ?_
    rintro record' position ⟨⟩
    trivial
  · intro request record conclude store completion next prepared _
    cases prepare_prepared prepared with
    | calls concludes =>
        obtain ⟨out, concluded, -⟩ := concludes completion
        exact ⟨out, concluded⟩

theorem agents_start {file : DmsFile} (fresh : file.Fresh) :
    CallerCoupled AgentCall.prepare InsertCoupled (.start file : AgentThreads) emptyStore where
  inner := by
    have new := fresh_newFile fresh
    exact ⟨⟨.empty, new.rep, .refl _⟩, new.mutex, nofun⟩
  prepared := nofun

/-- The object that the reply of a request acknowledges. -/
def acknowledgedOf (e : Effect AgentCall (AgentOutcome Unit)) : Option (List UInt8) :=
  acknowledgedIn e.op.received e.reply.result.contents

/-- The sequential server holds the objects that it has acknowledged. -/
theorem legal_holds {order : List (Effect AgentCall (AgentOutcome Unit))}
    {store : IdStore DmsRecordId (List UInt8)} (legal : Legal ServerSpec emptyStore order store) :
    ∃ entries, store.Holds entries ∧ entries.map Prod.snd = order.filterMap acknowledgedOf := by
  induction legal with
  | start =>
      refine ⟨[], .nil fun _ allocated => ?_, rfl⟩
      exact Nat.not_lt_zero _ (FileView.page_lt_of_allocated allocated)
  | @effect order store next e past step ih =>
      obtain ⟨entries, held, told⟩ := ih
      cases step with
      | @stored bytes rid _ acknowledged put =>
          refine ⟨entries ++ [(rid, bytes)], held.put put, ?_⟩
          have last : acknowledgedOf e = some bytes := acknowledged
          rw [List.map_append, List.filterMap_append, told]
          simp [last]
      | kept silent keep =>
          refine ⟨entries, held.keep keep, ?_⟩
          have last : acknowledgedOf e = none := silent
          rw [List.filterMap_append, told]
          simp [last]

/-- Whatever the agents' interleaving, their clients see one server that takes the requests
one after the other; and at any moment the file holds exactly the objects that this server has
acknowledged. -/
theorem agents_linearizable {file : DmsFile} {trace : AgentTrace} {threads : AgentThreads}
    (fresh : file.Fresh) (run : AgentRun file trace threads) :
    ∃ order store rids,
      Linearization ServerSpec emptyStore (clientHistory trace) order store ∧
        KeepsUnder threads.object rids (order.filterMap acknowledgedOf) := by
  obtain ⟨order, store, linearization, coupled, -⟩ :=
    agents_simulate.linearization (agents_start fresh) run
  have server := linearization.mono callerSpec_server
  obtain ⟨entries, held, told⟩ := legal_holds server.legal
  obtain ⟨view, rep, hidden⟩ := coupled.inner.file
  refine ⟨order, store, entries.map Prod.fst, server, ?_⟩
  rw [← told]
  exact rep.toFileLayout.keeps coupled.inner.mutex (held.keep hidden)

/-! ### An agent that nobody interrupts -/

/-- A request of an agent that stands there in a run. -/
def Stands (file : DmsFile) (t : Nat) (request : AgentCall) (history : List (ClientEvent
    AgentCall (AgentOutcome Unit))) (position : AgentPosition) (s : DmsFile) : Prop :=
  ∃ trace threads, AgentRun file trace threads ∧ threads.object = s ∧
    threads.inside t = some (request, position) ∧ clientHistory trace = history

section Uninterrupted

variable {file s s' : DmsFile} {t : Nat} {request : AgentCall}
  {history : List (ClientEvent AgentCall (AgentOutcome Unit))} {record : BsonObj}
  {conclude : Completion InsertReply → Option (AgentOutcome Unit)}

theorem Stands.step {here there : AgentPosition}
    (stands : Stands file t request history here s) (answer : IntAnswer)
    (step : callerStep insertCode AgentCall.prepare t request answer s here =
      some (there, s')) : Stands file t request history there s' := by
  obtain ⟨trace, threads, run, rfl, inside, rfl⟩ := stands
  have completes : agentCode.exec (.step t answer) threads =
      some (none, threads.move s' t (some (request, there))) := by
    rw [ObjectCode.exec, inside]
    change (callerStep insertCode AgentCall.prepare t request answer threads.object here).map _
      = _
    rw [step]
    rfl
  refine ⟨_, _, run.step trivial completes, rfl, Threads.move_inside_self _ _ _ _, ?_⟩
  rw [clientHistory_snoc]
  exact List.append_nil _

/-- A step inside of the insert. -/
theorem Stands.advance {before after : InsertPosition}
    (stands : Stands file t request history (.inside record before conclude) s)
    (answer : IntAnswer) (goesOn : insertResult before = none)
    (step : EmeraldDb.advance record answer.1 s before = some (after, s')) :
    Stands file t request history (.inside record after conclude) s' := by
  refine stands.step answer ?_
  have unfinished : insertCode.result before = none := goesOn
  have inner : insertCode.step t record answer s before = some (after, s') := step
  rw [callerStep, unfinished]
  dsimp only
  rw [inner]
  rfl

/-- The critical section behind `retry`, when a page is found. -/
theorem advance_found {held : OssSLatch} (answer : ExtendAnswer)
    (taken : s.mutex.get = some held)
    (found : { s with mutex := held }.findPage (record.objsize + sizeofDmsRecord) ≠
      dmsInvalidPageId) :
    advance record answer s .retrying =
      some (.finished ({ s with mutex := held }.insertIntoPage record
        ({ s with mutex := held }.findPage (record.objsize + sizeofDmsRecord))).1,
        ({ s with mutex := held }.insertIntoPage record
          ({ s with mutex := held }.findPage (record.objsize + sizeofDmsRecord))).2) := by
  rw [advance, taken, Option.map_some]
  dsimp only
  rw [if_neg found]

/-- The same when there is no page. -/
theorem advance_missing {held : OssSLatch} (answer : ExtendAnswer)
    (taken : s.mutex.get = some held)
    (missing : { s with mutex := held }.findPage (record.objsize + sizeofDmsRecord) =
      dmsInvalidPageId) :
    advance record answer s .retrying =
      some (.missed { s with mutex := held }.freeSpaceMap.size,
        { s with mutex := held }.releaseMutex) := by
  rw [advance, taken, Option.map_some]
  dsimp only
  rw [if_pos missing]

/-- An extension that nobody else makes. -/
theorem Stands.extendLatched {answer : IntAnswer} {rc : ReturnCode} {seen : Nat}
    (stands : Stands file t request history (.inside record (.missed seen) conclude) s)
    (extended : s.extendLatched answer.1 = some (rc, s')) :
    Stands file t request history (.inside record
      (if rc ≠ edbOk then .finished (.returns (.failed rc)) else .retrying) conclude) s' := by
  unfold DmsFile.extendLatched at extended
  split at extended
  next => cases extended
  next held taken =>
    split at extended
    next => cases extended
    next code after called =>
      cases extended
      have takes : EmeraldDb.advance record answer.1 s (.missed seen) =
          some (.extending seen, { s with extendMutex := held }) := by
        rw [EmeraldDb.advance, taken]
      have grows : EmeraldDb.advance record answer.1 { s with extendMutex := held }
          (.extending seen) = some (.extended rc, after) := by
        rw [EmeraldDb.advance, called]
        rfl
      exact ((stands.advance answer rfl takes).advance answer rfl grows).advance answer rfl rfl

/-- The retry loop. -/
theorem Stands.insertRetry {answers : List IntAnswer} {completion : Completion InsertReply}
    (stands : Stands file t request history (.inside record .retrying conclude) s)
    (inserted : DmsFile.insertRetry record (answers.map Subtype.val) s = some (completion, s')) :
    Stands file t request history (.inside record (.finished completion) conclude) s' := by
  induction answers generalizing s with
  | nil =>
      rw [List.map_nil, DmsFile.insertRetry] at inserted
      split at inserted
      next => cases inserted
      next held taken =>
        dsimp only at inserted
        split at inserted
        next => cases inserted
        next found =>
          have stored := advance_found ExtendAnswer.granted taken found
          rw [Option.some.inj inserted] at stored
          exact stands.advance ⟨.granted, granted_intErrno⟩ rfl stored
  | cons answer answers ih =>
      rw [List.map_cons, DmsFile.insertRetry] at inserted
      split at inserted
      next => cases inserted
      next held taken =>
        dsimp only at inserted
        split at inserted
        next missing =>
          have missed := stands.advance answer rfl (advance_missing answer.1 taken missing)
          split at inserted
          next => cases inserted
          next rc after extended =>
            have grown := missed.extendLatched extended
            split at inserted
            next failed =>
              cases inserted
              rwa [if_pos failed] at grown
            next done =>
              rw [if_neg done] at grown
              exact ih grown inserted
        next found =>
          have stored := advance_found answer.1 taken found
          rw [Option.some.inj inserted] at stored
          exact stands.advance answer rfl stored

/-- The whole insert. -/
theorem Stands.insert {answers : List IntAnswer} {completion : Completion InsertReply}
    (stands : Stands file t request history (.inside record .entered conclude) s)
    (inserted : s.insert (answers.map Subtype.val) record = some (completion, s')) :
    Stands file t request history (.inside record (.finished completion) conclude) s' := by
  let answer : IntAnswer := ⟨.granted, granted_intErrno⟩
  unfold DmsFile.insert at inserted
  split at inserted
  next large =>
    cases inserted
    refine stands.advance answer rfl ?_
    rw [EmeraldDb.advance, if_pos large]
  next small =>
    split at inserted
    next key =>
      cases inserted
      refine stands.advance answer rfl ?_
      rw [EmeraldDb.advance, if_neg small, key]
    next => cases inserted
    next key =>
      cases inserted
      refine stands.advance answer rfl ?_
      rw [EmeraldDb.advance, if_neg small, key]
    next place key =>
      have retrying : EmeraldDb.advance record answer.1 s .entered = some (.retrying, s) := by
        rw [EmeraldDb.advance, if_neg small, key]
      exact (stands.advance answer rfl retrying).insertRetry inserted

end Uninterrupted

/-! ### The sequential function -/

section Sequential

variable {Store : Type} {runtime : Runtime Store} {toString : Mem → Nat → Option (Completion Unit)}
  {firstElement : Mem → Nat → Option Unit} {realloc : Option Mem} {m : Mem} {store : Store}

theorem process_finish (env : AgentEnv Store) (result : MsgBuffer) :
    pmdProcessAgentRequest env m result store =
      (dispatch env m store).bind (finishRequest env.realloc m result) := rfl

/-- What a client can see of an outcome. -/
def AgentOutcome.bare (out : AgentOutcome Store) : AgentOutcome Unit :=
  ⟨out.rc, out.disconnect, out.calls, (), out.result, out.built⟩

/-- The reply does not depend on the store. -/
theorem finishRequest_bare {result : MsgBuffer} {done : Processed Store}
    {out : AgentOutcome Store} (finished : finishRequest realloc m result done = some out) :
    out.store = done.store ∧
      finishRequest realloc m result ⟨done.rc, done.disconnect, done.retObj, done.calls, ()⟩ =
        some out.bare := by
  unfold finishRequest at finished ⊢
  split at finished
  next leaves =>
    cases finished
    exact ⟨rfl, if_pos leaves⟩
  next stays =>
    obtain ⟨reply, built, rfl⟩ := Option.map_eq_some_iff.mp finished
    refine ⟨rfl, ?_⟩
    rw [if_neg stays, built]
    rfl

/-- Without an insert the request is answered at once. -/
theorem prepare_answered {request : AgentCall} {done : Processed Unit}
    (noted : dispatch request.env request.received () = some done)
    (other : ∀ bytes, done.calls ≠ [.insert bytes]) :
    request.prepare =
      (finishRequest request.realloc request.received request.result done).map .answered := by
  rw [AgentCall.prepare, noted, Option.bind_some]
  split
  next bytes inserts => exact absurd inserts (other bytes)
  next => rfl

theorem prepare_calls {request : AgentCall} {done : Processed Unit} {record : BsonObj}
    (noted : dispatch request.env request.received () = some done)
    (inserts : done.calls = [.insert record.bytes]) :
    request.prepare = some (.calls record fun completion =>
      finishRequest request.realloc request.received request.result
        { done with rc := insertCodeOf completion }) := by
  rw [AgentCall.prepare, noted, Option.bind_some, inserts]
  dsimp only
  rw [BsonObj.fromBytes_bytes, Option.map_some]

/-- What the sequential function does is what the agent has prepared, with the insert it asks
for, if any, between the two halves. -/
theorem process_prepare {request : AgentCall} {answers : List ExtendAnswer} {file : DmsFile}
    {out : AgentOutcome DmsFile}
    (processed : pmdProcessAgentRequest ⟨rtn answers, request.toString, request.firstElement,
      request.realloc⟩
      request.received request.result file = some out) :
    request.prepare = some (.answered out.bare) ∧ out.store = file ∨
      ∃ record conclude completion, request.prepare = some (.calls record conclude) ∧
        file.insert answers record = some (completion, out.store) ∧
          conclude completion = some out.bare := by
  rw [process_finish, dispatch_noting] at processed
  obtain ⟨done', dispatched, finished⟩ := Option.bind_eq_some_iff.mp processed
  obtain ⟨done, noted, resumed⟩ := Option.bind_eq_some_iff.mp dispatched
  obtain ⟨kept, bare⟩ := finishRequest_bare finished
  have answered
      (same : done' = ⟨done.rc, done.disconnect, done.retObj, done.calls, file⟩)
      (other : ∀ bytes, done.calls ≠ [.insert bytes]) :
      request.prepare = some (.answered out.bare) ∧ out.store = file := by
    subst same
    refine ⟨?_, kept⟩
    rw [prepare_answered noted other]
    exact congrArg (Option.map _) bare
  cases dispatch_dispatched noted with
  | idle code silent _ =>
      rw [resumeWith, silent] at resumed
      cases resumed
      refine .inl (answered ?_ ?_)
      · rw [silent]
      · simp [silent]
  | asks call code other performed =>
      cases performed
      cases call with
      | insert bytes => exact absurd rfl (other bytes)
      | find bytes =>
          cases resumed
          exact .inl (answered rfl (by simp))
      | remove bytes =>
          cases resumed
          exact .inl (answered rfl (by simp))
  | refused code failure =>
      cases resumed
      exact .inl (answered rfl nofun)
  | inserts record code object performed =>
      cases performed
      change performCall _ (.insert record.bytes) file = some done' at resumed
      rw [performCall, rtn_insert, rtnInsert] at resumed
      cases inserted : file.insert answers record with
      | none =>
          rw [inserted] at resumed
          cases resumed
      | some answer =>
          obtain ⟨completion, after⟩ := answer
          rw [inserted] at resumed
          have same : done' =
              ⟨insertCodeOf completion, false, .empty, [.insert record.bytes], after⟩ := by
            cases completion with
            | returns reply =>
                cases resumed
                rfl
            | throws =>
                cases resumed
                rfl
          subst same
          refine .inr ⟨record, _, completion, prepare_calls noted rfl, ?_, bare⟩
          exact inserted.trans (congrArg (fun file => some (completion, file)) kept.symm)

end Sequential

/-- One request, by an agent that nobody interrupts. -/
theorem agent_performs {file : DmsFile} {trace : AgentTrace} {threads : AgentThreads}
    (run : AgentRun file trace threads) {t : Nat} (outside : threads.inside t = none)
    {request : AgentCall} (answers : List IntAnswer) {out : AgentOutcome DmsFile}
    (processed : pmdProcessAgentRequest
      ⟨rtn (answers.map Subtype.val), request.toString, request.firstElement,
      request.realloc⟩
      request.received request.result threads.object = some out) :
    ∃ trace' threads', AgentRun file trace' threads' ∧ threads'.object = out.store ∧
      clientHistory trace' = clientHistory trace ++ [.call t request, .ret t out.bare] := by
  let answer : IntAnswer := ⟨.granted, granted_intErrno⟩
  have called : agentCode.exec (.call t request) threads =
      some (some (.call t request),
        threads.move threads.object t (some (request, .before))) := by
    rw [ObjectCode.exec, outside]
    rfl
  have begun : Stands file t request (clientHistory trace ++ [.call t request]) .before
      threads.object :=
    ⟨_, _, run.step trivial called, rfl, Threads.move_inside_self _ _ _ _,
      clientHistory_snoc _ _⟩
  have ended : Stands file t request (clientHistory trace ++ [.call t request])
      (.after out.bare) out.store := by
    rcases process_prepare processed with ⟨prepared, kept⟩ |
      ⟨record, conclude, completion, prepared, inserted, concluded⟩
    · refine begun.step answer ?_
      rw [callerStep, prepared, kept]
      rfl
    · have entered : Stands file t request (clientHistory trace ++ [.call t request])
          (.inside record .entered conclude) threads.object := by
        refine begun.step answer ?_
        rw [callerStep, prepared]
        rfl
      refine (entered.insert inserted).step answer ?_
      have finished : insertCode.result (.finished completion) = some completion := rfl
      rw [callerStep, finished]
      dsimp only
      rw [concluded]
      rfl
  obtain ⟨trace', threads', run', object, inside, history⟩ := ended
  have returns : agentCode.exec (.ret t) threads' =
      some (some (.ret t out.bare), threads'.move threads'.object t none) := by
    rw [ObjectCode.exec, inside]
    rfl
  refine ⟨_, _, run'.step trivial returns, object, ?_⟩
  rw [clientHistory_snoc, history, List.append_assoc]
  rfl

/-- The request of the sequential server, without the answers of the operating system. -/
def ServerRequest.agentCall (request : ServerRequest) (admissible : request.Admissible) :
    AgentCall :=
  ⟨request.received, request.result, admissible.sound, admissible.room, request.toString,
    request.firstElement, request.realloc⟩

/-- An agent that nobody interrupts does what the sequential server does, wherever the other
agents stand. -/
theorem agent_uninterrupted {file : DmsFile} {trace : AgentTrace} {threads : AgentThreads}
    (run : AgentRun file trace threads) {t : Nat} (outside : threads.inside t = none)
    {request : ServerRequest} (admissible : request.Admissible) {after : DmsFile}
    {out : AgentOutcome DmsFile} (served : serve request threads.object = some (out, after)) :
    ∃ trace' threads', AgentRun file trace' threads' ∧ threads'.object = after ∧
      clientHistory trace' = clientHistory trace ++
        [.call t (request.agentCall admissible), .ret t out.bare] := by
  obtain ⟨out', processed, same⟩ := Option.map_eq_some_iff.mp served
  cases same
  refine agent_performs run outside (request.answers.attachWith _ admissible.errno) ?_
  rw [List.attachWith_map_subtype_val]
  exact processed

theorem KeepsUnder.found_of_mem {s : DmsFile} {rids : List DmsRecordId}
    {objects : List (List UInt8)} (keeps : KeepsUnder s rids objects) {bytes : List UInt8}
    (member : bytes ∈ objects) :
    ∃ rid, s.find rid = some (.returns ⟨edbOk, some bytes⟩, s) := by
  obtain ⟨-, found, -⟩ := keeps
  induction found with
  | nil => cases member
  | @cons rid object rids objects here _ ih =>
      rcases List.mem_cons.mp member with rfl | later
      · exact ⟨rid, here⟩
      · exact ih later

/-- While one agent has been asked to insert an object, another stores one, which is found. -/
theorem agents_linearizable_twoInserts : ∃ (file : DmsFile) (trace : AgentTrace)
    (threads : AgentThreads) (request : AgentCall) (out : AgentOutcome Unit) (rid : DmsRecordId),
    AgentRun file trace threads ∧
      clientHistory trace = [.call 1 request, .call 0 request, .ret 0 out] ∧
      threads.object.find rid =
        some (.returns ⟨edbOk, some (binDataRecord [] (by decide)).bytes⟩, threads.object) := by
  obtain ⟨start, fresh⟩ := exists_fresh
  obtain ⟨s, request, sent, out, reply, -, admissible, built, received, served, -, replied, ok⟩ :=
    (fresh_newFile fresh).insertServed
  have called : agentCode.exec (.call 1 (request.agentCall admissible)) (.start start) =
      some (some (.call 1 (request.agentCall admissible)),
        (Threads.start start : AgentThreads).move start 1
          (some (request.agentCall admissible, .before))) := rfl
  have begun : AgentRun start _ _ := Run.start.step trivial called
  obtain ⟨trace, threads, run, -, history⟩ :=
    agent_uninterrupted begun (t := 0) rfl admissible served
  obtain ⟨order, store, rids, linearization, keeps⟩ := agents_linearizable fresh run
  have seen : clientHistory trace = [.call 1 (request.agentCall admissible),
      .call 0 (request.agentCall admissible), .ret 0 out.bare] := history
  rw [seen] at linearization
  obtain ⟨e, member, -, answer, -⟩ := linearization.answered 2 0 out.bare rfl
  have asked : e.op = request.agentCall admissible := by
    have called := linearization.called e member
    generalize e.called = place at called
    rcases place with _ | _ | _ | place
    · exact (ClientEvent.call.inj (Option.some.inj called)).2.symm
    · exact (ClientEvent.call.inj (Option.some.inj called)).2.symm
    · cases called
    · cases called
  have told : acknowledgedOf e = some (binDataRecord [] (by decide)).bytes := by
    have bare : out.bare.result.contents = out.result.contents := rfl
    rw [acknowledgedOf, answer, acknowledgedIn, bare, replied]
    dsimp only
    rw [if_pos ok, asked]
    exact insertedObject_of_built built received
  obtain ⟨rid, found⟩ := keeps.found_of_mem (List.mem_filterMap.mpr ⟨e, member, told⟩)
  exact ⟨start, trace, threads, _, out.bare, rid, run, seen, found⟩

end EmeraldDb
