/-
Module: EmeraldDb.Pmd.AgentThreads
Purpose: Agents that process requests at the same time, all over one data file.
Trusted boundary: human-reviewed spec; one step is one critical section of _mutex or one
  operation on _extendMutex, or what an agent does with its own buffers before or behind
  rtnInsert
Main exports: insertCode, AgentCall, finishRequest, AgentCall.prepare, agentCode,
  acknowledgedIn, ServerSpec, AgentRun
-/
import EmeraldDb.Lib.Caller
import EmeraldDb.Dms.StoreThreads
import EmeraldDb.Pmd.Server

namespace EmeraldDb

open ByteMemory
open DmsFile (ExtendAnswer InsertReply)

/-! ### The inserts -/

/-- What the operating system answers while a thread extends the file. -/
abbrev IntAnswer := { answer : ExtendAnswer // ExtendAnswer.IntErrno answer }

/-- The completion, at the end of an insert. -/
def insertResult : InsertPosition → Option (Completion InsertReply)
  | .finished completion => some completion
  | _ => none

/-- An open data file, into which threads insert. -/
def insertCode :
    ObjectCode DmsFile BsonObj IntAnswer InsertPosition (Completion InsertReply) where
  enter _ := .entered
  step _ record answer s position := advance record answer.1 s position
  result := insertResult

/-! ### The requests -/

/-- A request that an agent has received, with the agent's result buffer. -/
structure AgentCall where
  received : Mem
  result : MsgBuffer
  sound : result.Sound
  room : sizeofMsgReply ≤ result.size
  toString : Mem → Nat → Option (Completion Unit)
  firstElement : Mem → Nat → Option Unit
  realloc : Option Mem

def AgentCall.env (request : AgentCall) : AgentEnv Unit :=
  ⟨noting, request.toString, request.firstElement, request.realloc⟩

/-- From the label `done` of `pmdProcessAgentRequest` to its return. -/
def finishRequest {Store : Type} (realloc : Option Mem) (m : Mem) (result : MsgBuffer)
    (done : Processed Store) : Option (AgentOutcome Store) :=
  if done.disconnect then some ⟨done.rc, true, done.calls, done.store, result, none⟩
  else
    (msgBuildReply realloc done.rc (replyObject (opCode m) done.retObj) result).map
      fun (built, result) =>
        ⟨done.rc, false, done.calls, done.store, result, some built⟩

/-- `rc` behind the call of `rtnInsert`, or behind the exception that came out of it. -/
def insertCodeOf : Completion InsertReply → ReturnCode
  | .returns reply => toI32 reply.rc
  | .throws => edbInvalidArg

/-- Up to the call of `rtnInsert`, if the request makes one, and what follows it.  There is
nothing to prepare for a request that ends the process before that. -/
def AgentCall.prepare (request : AgentCall) :
    Option (Preparation BsonObj (Completion InsertReply) (AgentOutcome Unit)) :=
  (dispatch request.env request.received ()).bind fun done =>
    match done.calls with
    | [.insert bytes] =>
        (BsonObj.fromBytes bytes).map fun record =>
          .calls record fun completion =>
            finishRequest request.realloc request.received request.result
              { done with rc := insertCodeOf completion }
    | _ =>
        (finishRequest request.realloc request.received request.result done).map .answered

/-- Agents over one open data file. -/
def agentCode := insertCode.calledBy AgentCall.prepare

/-- Where an agent stands in a request. -/
abbrev AgentPosition :=
  CallerPosition BsonObj InsertPosition (Completion InsertReply) (AgentOutcome Unit)

/-- The file, and where each agent stands. -/
abbrev AgentThreads := Threads DmsFile AgentCall AgentPosition

/-- The steps of a run. -/
abbrev AgentTrace :=
  ThreadTrace DmsFile AgentCall IntAnswer AgentPosition (AgentOutcome Unit)

/-- The runs of any number of agents on an open file, in every interleaving. -/
abbrev AgentRun (file : DmsFile) (trace : AgentTrace) (threads : AgentThreads) : Prop :=
  Run agentCode.exec (fun _ _ _ => True) (.start file) trace threads

/-! ### The sequential server -/

/-- The object of an insert message whose reply says `EDB_OK`. -/
def acknowledgedIn (m reply : Mem) : Option (List UInt8) :=
  match msgExtraReply reply with
  | .ok reply => if reply.returnCode = edbOk then insertedObject m else none
  | .error _ => none

/-- The server that clients are to see: a request stores the object that its reply
acknowledges under a new record id, and changes nothing else. -/
inductive ServerSpec (store : IdStore DmsRecordId (List UInt8)) (request : AgentCall)
    (out : AgentOutcome Unit) : IdStore DmsRecordId (List UInt8) → Prop where
  | stored {bytes : List UInt8} {rid : DmsRecordId} {next : IdStore DmsRecordId (List UInt8)}
      (told : acknowledgedIn request.received out.result.contents = some bytes)
      (step : IdStore.Step store (.put rid bytes) next) : ServerSpec store request out next
  | kept {next : IdStore DmsRecordId (List UInt8)}
      (told : acknowledgedIn request.received out.result.contents = none)
      (step : IdStore.Step store .keep next) : ServerSpec store request out next

end EmeraldDb
