/-
Module: EmeraldDb.Pmd.ReceiveBuffer
Purpose: How pmdAgentEntryPoint receives one packet: the length prefix, the
  growth of the receive buffer, the body and the terminator.
Trusted boundary: human-reviewed spec; malloc and the socket answer through
  arguments
Main exports: ossRoundUpToMultipleX, ReceiveBuffer, reserve, receivePacket
-/
import EmeraldDb.Core
import EmeraldDb.Lib.ByteMemory

namespace EmeraldDb

open ByteMemory

/-- `ossRoundUpToMultipleX`, each operation in `int`. -/
def ossRoundUpToMultipleX (x y : Int) : Int :=
  let sum := toI32 (x + toI32 (y - 1))
  toI32 (sum - sum.tmod y)

/-- `PMD_AGENT_RECEIVE_BUFFER_SZ`. -/
def pmdAgentReceiveBufferSz : Int := 4096

/-- `EDB_PAGE_SIZE`. -/
def edbPageSize : Int := 4096

/-- The agent's receive buffer: the variable `receiveBufferSize`, the number of bytes
malloc handed out, and what they hold. -/
structure ReceiveBuffer where
  receiveBufferSize : Int
  allocated : Nat
  contents : Mem

namespace ReceiveBuffer

/-- The buffer the agent starts with; `contents` is whatever malloc left there. -/
def init (contents : Mem) : ReceiveBuffer :=
  let size := ossRoundUpToMultipleX pmdAgentReceiveBufferSz edbPageSize
  ⟨size, size.toNat, contents⟩

/-- From the received prefix `word` up to the receive of the body.  `malloc` is what
malloc finds in the bytes it hands out, or NULL. -/
def reserve (word : Nat) (malloc : Option Mem) (buffer : ReceiveBuffer) :
    Except ReturnCode ReceiveBuffer :=
  let buffer := { buffer with contents := writeU32 buffer.contents 0 word }
  let packetLength := toI32 word
  if packetLength < 4 then .error edbInvalidArg
  else if buffer.receiveBufferSize < toI32 (packetLength + 1) then
    let newSize := ossRoundUpToMultipleX (toI32 (packetLength + 1)) edbPageSize
    if newSize < 0 then .error edbInvalidArg
    else
      match malloc with
      | none => .error edbOom
      | some contents =>
          .ok ⟨newSize, newSize.toNat, writeU32 contents 0 (toU32 packetLength)⟩
  else .ok buffer

/-- One packet: the prefix, the body and the terminating zero. -/
structure Packet where
  word : Nat
  malloc : Option Mem
  body : List UInt8

/-- The rest of the packet: the body goes behind the prefix and a zero behind the
body.  A body of another length is not received. -/
def receiveBody (packetLength : Int) (body : List UInt8) (buffer : ReceiveBuffer) :
    Option ReceiveBuffer :=
  if (body.length : Int) = packetLength - 4 then
    some { buffer with
      contents := writeBytes (writeBytes buffer.contents 4 body) packetLength.toNat [0] }
  else none

/-- Receive one packet.  A pass that leaves the loop has no value. -/
def receivePacket (packet : Packet) (buffer : ReceiveBuffer) :
    Option (Int × ReceiveBuffer) := do
  let reserved ← (buffer.reserve packet.word packet.malloc).toOption
  let received ← reserved.receiveBody (toI32 packet.word) packet.body
  return (toI32 packet.word, received)

end ReceiveBuffer

end EmeraldDb
