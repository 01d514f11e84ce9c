/-
Module: EmeraldDb.Pmd.Server
Purpose: The server over one data file: the agents answer requests of any clients, one after
  the other, and rtn works on the file behind them.
Trusted boundary: human-reviewed spec; the prints of BSONObj and the operating system answer
  through the request's surroundings
Main exports: ServerRequest, noting, ServerRequest.aborts, serve, Server, insertedObject,
  acknowledgedBy, acknowledged
-/
import EmeraldDb.Lib.Run
import EmeraldDb.Pmd.Agent

namespace EmeraldDb

open ByteMemory

/-- A request that an agent has received, its result buffer, and what its surroundings
answer while it is processed. -/
structure ServerRequest where
  received : Mem
  result : MsgBuffer
  answers : List DmsFile.ExtendAnswer
  toString : Mem → Nat → Option (Completion Unit)
  firstElement : Mem → Nat → Option Unit
  realloc : Option Mem

/-- The surroundings, with rtn as the runtime. -/
def ServerRequest.env (request : ServerRequest) : AgentEnv DmsFile :=
  ⟨rtn request.answers, request.toString, request.firstElement, request.realloc⟩

/-- The code of a call without the file: `rtnFind` and `rtnRemove` do not use it, and nobody
looks at the code of an insert. -/
def notedCode : RtnCall → ReturnCode
  | .insert _ => edbOk
  | .find bytes => rtnFind bytes
  | .remove bytes => rtnRemove bytes

theorem notedCode_int {request : RtnCall} {store : Unit} {rc : ReturnCode} {after : Unit}
    (called : (some (.returns (notedCode request), store) :
      Option (Completion ReturnCode × Unit)) = some (.returns rc, after)) :
    -2147483648 ≤ rc ∧ rc < 2147483648 := by
  cases called
  cases request <;> exact edbOk_int

/-- A runtime without a file. -/
def noting : Runtime Unit where
  call request store := some (.returns (notedCode request), store)
  int := notedCode_int

/-- The request ends the process before it comes to a call. -/
def ServerRequest.aborts (request : ServerRequest) : Bool :=
  (dispatch ⟨noting, request.toString, request.firstElement, request.realloc⟩
    request.received ()).isNone

/-- One request.  One that ends the process has no result. -/
def serve (request : ServerRequest) (file : DmsFile) :
    Option (AgentOutcome DmsFile × DmsFile) :=
  (pmdProcessAgentRequest request.env request.received request.result file).map fun out =>
    (out, out.store)

/-- An `errno` is an `int`. -/
def ExtendAnswer.IntErrno (answer : DmsFile.ExtendAnswer) : Prop :=
  (∀ errno, answer.fstat = some errno → errno.value < 2147483648) ∧
    (∀ i errno, .failed errno ∈ answer.writes i → errno.value < 2147483648) ∧
      ∀ errno, answer.map.fstat = some errno → errno.value < 2147483648

/-- The bytes of a request are the client's affair; the result buffer is the agent's. -/
structure ServerRequest.Admissible (request : ServerRequest) : Prop where
  sound : request.result.Sound
  room : sizeofMsgReply ≤ request.result.size
  errno : ∀ answer ∈ request.answers, ExtendAnswer.IntErrno answer

/-- The requests and outcomes of a run. -/
abbrev RequestTrace := List (Transition DmsFile ServerRequest (AgentOutcome DmsFile))

/-- The runs of requests over an open file. -/
abbrev Server : DmsFile → RequestTrace → DmsFile → Prop :=
  Run serve fun _ _ request => request.Admissible

/-- The object that an insert message asks to store. -/
def insertedObject (m : Mem) : Option (List UInt8) :=
  match msgExtractInsert m with
  | .ok (_, some start) => bsonObjAt m start
  | _ => none

/-- The object of an insert message whose reply says `EDB_OK`. -/
def acknowledgedBy (m : Mem) (out : AgentOutcome DmsFile) : Option (List UInt8) :=
  match msgExtraReply out.result.contents with
  | .ok reply => if reply.returnCode = edbOk then insertedObject m else none
  | .error _ => none

/-- The objects that the clients were told are stored, oldest first. -/
def acknowledged (trace : RequestTrace) : List (List UInt8) :=
  trace.filterMap fun call => acknowledgedBy call.action.received call.reply

end EmeraldDb
