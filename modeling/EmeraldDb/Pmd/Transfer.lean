/-
Module: EmeraldDb.Pmd.Transfer
Purpose: pmdRecv and pmdSend with the pointers they move: where in memory the bytes of a
  connection land, which of them are still unread, and which were handed to the system.
Trusted boundary: human-reviewed spec; the system calls answer through arguments
Main exports: Wire, ossRecvInto, ossSendFrom, pmdRecvInto, pmdSendFrom
-/
import EmeraldDb.Pmd.AgentSession

namespace EmeraldDb

open ByteMemory

/-- A connection with the memory of the thread that serves it: the bytes of the peer that
the system has not given out yet, and those the system has taken. -/
structure Wire where
  unread : List UInt8
  handed : List UInt8
  memory : Mem

namespace Wire

/-- The system call `recv` puts the next bytes of the stream behind a pointer; a chunk
that does not come next is not given out. -/
def fetch (wire : Wire) (pMsg : Nat) (chunk : List UInt8) : Option Wire :=
  if chunk.isPrefixOf wire.unread then
    some { wire with
      unread := wire.unread.drop chunk.length
      memory := writeBytes wire.memory pMsg chunk }
  else none

/-- The system call `send` takes so many bytes from behind a pointer. -/
def hand (wire : Wire) (pMsg count : Nat) : Wire :=
  { wire with handed := wire.handed ++ readBytes wire.memory pMsg count }

end Wire

/-! ### recv -/

/-- The loop around `recv`. -/
def recvLoopInto (retries pMsg : Nat) (len : Int) :
    List RecvAnswer → Wire → Option (ReturnCode × Wire)
  | [], wire => if len ≤ 0 then some (edbOk, wire) else none
  | answer :: answers, wire =>
      if len ≤ 0 then some (edbOk, wire)
      else
        match answer with
        | .bytes chunk =>
            if chunk ≠ [] ∧ (chunk.length : Int) ≤ len then
              (wire.fetch pMsg chunk).bind
                (recvLoopInto retries (pMsg + chunk.length) (len - chunk.length) answers)
            else none
        | .closed => some (edbNetworkClose, wire)
        | .failed errno =>
            -- EAGAIN comes to EDB_NETWORK with and without `_timeout`
            if errno.value = Errno.eintr.value ∧ retries < maxRecvRetries then
              recvLoopInto (retries + 1) pMsg len answers wire
            else some (edbNetwork, wire)

/-- `ossSocket::recv` without flags. -/
def ossRecvInto (pMsg : Nat) (len : Int) (script : RecvScript) (wire : Wire) :
    Option (ReturnCode × Wire) :=
  if len = 0 then some (edbOk, wire)
  else
    (awaitReady script.selects).bind fun rc =>
      if rc ≠ edbOk then some (rc, wire)
      else recvLoopInto 0 pMsg len script.answers wire

/-! ### send -/

/-- The loop around `send`. -/
def sendLoopFrom (pMsg : Nat) (len : Int) :
    List SendAnswer → Wire → Option (ReturnCode × Wire)
  | [], wire => if len ≤ 0 then some (edbOk, wire) else none
  | answer :: answers, wire =>
      if len ≤ 0 then some (edbOk, wire)
      else
        match answer with
        | .sent count =>
            if (count : Int) ≤ len then
              sendLoopFrom (pMsg + count) (len - count) answers (wire.hand pMsg count)
            else none
        | .failed => some (edbNetwork, wire)

/-- `ossSocket::send` without flags. -/
def ossSendFrom (pMsg : Nat) (len : Int) (script : SendScript) (wire : Wire) :
    Option (ReturnCode × Wire) :=
  if len = 0 then some (edbOk, wire)
  else
    (awaitReady script.selects).bind fun rc =>
      if rc ≠ edbOk then some (rc, wire)
      else sendLoopFrom pMsg len script.answers wire

/-! ### pmdRecv and pmdSend -/

/-- The loop of `pmdRecv` and `pmdSend`: a timeout starts the whole transfer again. -/
def transferLoop {Script : Type}
    (operation : Script → Wire → Option (ReturnCode × Wire)) :
    List (Round Script) → Wire → Option (ReturnCode × Wire)
  | [], _ => none
  | round :: rounds, wire =>
      if round.forced then some (edbAppForced, wire)
      else
        (operation round.script wire).bind fun (rc, wire) =>
          if rc = edbTimeout then transferLoop operation rounds wire else some (rc, wire)

/-- `pmdRecv`. -/
def pmdRecvInto (pBuffer : Nat) (recvSize : Int) :
    List (Round RecvScript) → Wire → Option (ReturnCode × Wire) :=
  transferLoop (ossRecvInto pBuffer recvSize)

/-- `pmdSend`. -/
def pmdSendFrom (pBuffer : Nat) (sendSize : Int) :
    List (Round SendScript) → Wire → Option (ReturnCode × Wire) :=
  transferLoop (ossSendFrom pBuffer sendSize)

end EmeraldDb
