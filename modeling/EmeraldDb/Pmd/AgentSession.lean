/-
Module: EmeraldDb.Pmd.AgentSession
Purpose: pmdAgentEntryPoint: the loop in which an agent receives a request, becomes
  running, answers, and waits again, with every way out of it.
Trusted boundary: human-reviewed spec; the socket, malloc and the other threads answer
  through arguments
Main exports: SocketEvent, Round, pmdRecv, pmdSend, Pass, Agent, Part, agentPass,
  agentLoop, pmdAgentEntryPoint
-/
import EmeraldDb.Oss.Socket
import EmeraldDb.Pmd.Agent
import EmeraldDb.Pmd.EduMgr
import EmeraldDb.Pmd.ReceiveBuffer

namespace EmeraldDb

open ByteMemory

/-! ### pmdRecv and pmdSend -/

/-- What an agent does on its socket. -/
inductive SocketEvent where
  | received (bytes : List UInt8)
  | sent (bytes : List UInt8)
deriving DecidableEq

/-- One turn of the loop in `pmdRecv` or `pmdSend`: the forced flag it reads first, and
what the socket answers. -/
structure Round (Script : Type) where
  forced : Bool
  script : Script

/-- The loop of `pmdRecv` and `pmdSend`: only a timeout goes around once more. -/
def roundLoop {Script : Type} (operation : Script → Option (ReturnCode × List UInt8)) :
    List (Round Script) → Option (ReturnCode × List UInt8)
  | [] => none
  | round :: rounds =>
      if round.forced then some (edbAppForced, [])
      else
        (operation round.script).bind fun (rc, bytes) =>
          if rc = edbTimeout then roundLoop operation rounds else some (rc, bytes)

/-- `pmdRecv`. -/
def pmdRecv (recvSize : Int) : List (Round RecvScript) → Option (ReturnCode × List UInt8) :=
  roundLoop (ossRecv recvSize)

/-- `pmdSend`. -/
def pmdSend (sendSize : Int) (bytes : List UInt8) :
    List (Round SendScript) → Option (ReturnCode × List UInt8) :=
  roundLoop (ossSend sendSize bytes)

/-! ### Parts of a pass -/

/-- Where a part of `pmdAgentEntryPoint` comes out. -/
inductive Reached (α : Type) where
  | goesOn (value : α)
  /-- the socket is closed and the code is returned -/
  | returns (rc : ReturnCode)

/-- A part of `pmdAgentEntryPoint`: what happens on the socket, and where it comes out. -/
abbrev Part (α : Type) := Option (List SocketEvent × Reached α)

/-- One part after the other. -/
def Part.andThen {α β : Type} (part : Part α) (next : α → Part β) : Part β :=
  part.bind fun (events, reached) =>
    match reached with
    | .returns rc => some (events, .returns rc)
    | .goesOn value => (next value).map fun (later, reached) => (events ++ later, reached)

/-- A part that goes on with `EDB_OK` alone.  The label `error` turns
`EDB_NETWORK_CLOSE` into `EDB_OK`; a forced agent leaves the loop with the same code as
through that label. -/
def Part.unlessFailed {α : Type} (rc : ReturnCode) (events : List SocketEvent)
    (value : α) : Part α :=
  if rc = edbOk then some (events, .goesOn value)
  else some (events, .returns (if rc = edbNetworkClose then edbOk else rc))

/-- What the surroundings answer during one pass through the loop.  The other threads
may change the manager before each of its critical sections. -/
structure Pass (Store : Type) where
  lengthRounds : List (Round RecvScript)
  mallocReceive : Option Mem
  bodyRounds : List (Round RecvScript)
  beforeActivate : EduMgr → EduMgr
  mallocResult : Option Mem
  env : AgentEnv Store
  sendRounds : List UInt8 → List (Round SendScript)
  beforeWait : EduMgr → EduMgr

/-- The variables of `pmdAgentEntryPoint` that live from pass to pass, with the manager
and the store it works on. -/
structure Agent (Store : Type) where
  receiveBuffer : ReceiveBuffer
  result : MsgBuffer
  mgr : EduMgr
  store : Store

section Session

variable {Store : Type}

/-- `pmdRecv` of so many bytes. -/
def receivePart (size : Int) (rounds : List (Round RecvScript)) : Part (List UInt8) :=
  (pmdRecv size rounds).bind fun (rc, bytes) =>
    Part.unlessFailed rc [.received bytes] bytes

/-- From the length prefix to the terminator.  A body that the buffer does not cover is
written to memory that is not its own. -/
def receiveFrame (pass : Pass Store) (buffer : ReceiveBuffer) : Part ReceiveBuffer :=
  (receivePart 4 pass.lengthRounds).andThen fun prefixBytes =>
    let word := readU32 (ofBytes prefixBytes) 0
    match buffer.reserve word pass.mallocReceive with
    | .error rc => some ([], .returns rc)
    | .ok reserved =>
        (receivePart (toI32 (toI32 word - 4)) pass.bodyRounds).andThen fun body =>
          if (reserved.allocated : Int) < toI32 word + 1 then none
          else
            (reserved.receiveBody (toI32 word) body).map fun received =>
              ([], .goesOn received)

/-- A critical section of the manager. -/
def managerPart (result : Option (ReturnCode × EduMgr)) : Part EduMgr :=
  result.bind fun (rc, mgr) => Part.unlessFailed rc [] mgr

/-- A result buffer of `sizeof(MsgReply)` bytes that malloc handed out. -/
def freshResult (contents : Mem) : MsgBuffer where
  size := sizeofMsgReply
  allocated := sizeofMsgReply
  heap := true
  contents := contents

/-- A result buffer that has grown is replaced. -/
def resetResult (malloc : Option Mem) (result : MsgBuffer) : Part MsgBuffer :=
  if (sizeofMsgReply : Int) < result.size then
    match malloc with
    | none => some ([], .returns edbOom)
    | some contents => some ([], .goesOn (freshResult contents))
  else some ([], .goesOn result)

/-- Send the reply, as many bytes as its first `int` says. -/
def sendReply (rounds : List UInt8 → List (Round SendScript)) (out : AgentOutcome Store) :
    Part Unit :=
  if out.disconnect then some ([], .goesOn ())
  else
    let size := messageLen out.result.contents
    if (out.result.allocated : Int) < size then none
    else
      let bytes := readBytes out.result.contents 0 size.toNat
      (pmdSend size bytes (rounds bytes)).bind fun (rc, sent) =>
        Part.unlessFailed rc [.sent sent] ()

/-- What follows the receive: the EDU becomes running, answers and waits.  The loop ends
when the client has disconnected. -/
def answerRequest (id : EduId) (pass : Pass Store) (received : ReceiveBuffer)
    (agent : Agent Store) : Part (Agent Store) :=
  (managerPart ((pass.beforeActivate agent.mgr).activateEdu id)).andThen fun running =>
  (resetResult pass.mallocResult agent.result).andThen fun result =>
    match pmdProcessAgentRequest pass.env received.contents result agent.store with
    | none => none
    | some out =>
        (sendReply pass.sendRounds out).andThen fun () =>
        (managerPart ((pass.beforeWait running).waitEdu id)).andThen fun waiting =>
          if out.disconnect then some ([], .returns edbOk)
          else some ([], .goesOn ⟨received, out.result, waiting, out.store⟩)

/-- One pass through the loop. -/
def agentPass (id : EduId) (pass : Pass Store) (agent : Agent Store) : Part (Agent Store) :=
  (receiveFrame pass agent.receiveBuffer).andThen fun received =>
    answerRequest id pass received agent

/-- The loop; after the last pass the agent stands before the next receive. -/
def agentLoop (id : EduId) : List (Pass Store) → Agent Store → Part (Agent Store)
  | [], agent => some ([], .goesOn agent)
  | pass :: passes, agent => (agentPass id pass agent).andThen (agentLoop id passes)

/-- `pmdAgentEntryPoint` of the EDU `id`; `mallocs` answer for the two buffers. -/
def pmdAgentEntryPoint (id : EduId) (mallocs : Option Mem × Option Mem) (mgr : EduMgr)
    (store : Store) (passes : List (Pass Store)) : Part (Agent Store) :=
  match mallocs with
  | (some contents, some fresh) =>
      agentLoop id passes ⟨.init contents, freshResult fresh, mgr, store⟩
  | _ => some ([], .returns edbOom)

end Session

end EmeraldDb
