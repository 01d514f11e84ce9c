/-
Module: EmeraldDb.Oss.Socket
Purpose: ossSocket::recv and ossSocket::send over what select, recv and send answer.
Trusted boundary: human-reviewed spec; the system calls answer through arguments
Main exports: SelectAnswer, RecvAnswer, RecvScript, ossRecv, SendAnswer, SendScript,
  ossSend
-/
import EmeraldDb.Core
import Mathlib.Data.Option.Basic

namespace EmeraldDb

/-! ### Waiting for the socket -/

/-- What `select` answers. -/
inductive SelectAnswer where
  | ready
  | expired
  | failed (errno : Errno)

/-- The loop around `select`, the same in both directions. -/
def awaitReady : List SelectAnswer → Option ReturnCode
  | [] => none
  | .ready :: _ => some edbOk
  | .expired :: _ => some edbTimeout
  | .failed errno :: answers =>
      if errno.value = Errno.eintr.value then awaitReady answers else some edbNetwork

/-! ### recv -/

/-- What the system call `recv` answers. -/
inductive RecvAnswer where
  | bytes (chunk : List UInt8)
  | closed
  | failed (errno : Errno)

/-- What the system calls answer during one `ossSocket::recv`. -/
structure RecvScript where
  selects : List SelectAnswer
  answers : List RecvAnswer

/-- `MAX_RECV_RETRIES`. -/
def maxRecvRetries : Nat := 5

/-- The loop around `recv`, with the bytes it wrote.  A chunk is never empty, nor longer
than what was asked for. -/
def recvLoop (retries : Nat) (len : Int) : List RecvAnswer → Option (ReturnCode × List UInt8)
  | [] => if len ≤ 0 then some (edbOk, []) else none
  | answer :: answers =>
      if len ≤ 0 then some (edbOk, [])
      else
        match answer with
        | .bytes chunk =>
            if chunk ≠ [] ∧ (chunk.length : Int) ≤ len then
              (recvLoop retries (len - chunk.length) answers).map fun (rc, bytes) =>
                (rc, chunk ++ bytes)
            else none
        | .closed => some (edbNetworkClose, [])
        | .failed errno =>
            -- EAGAIN comes to EDB_NETWORK with and without `_timeout`
            if errno.value = Errno.eintr.value ∧ retries < maxRecvRetries then
              recvLoop (retries + 1) len answers
            else some (edbNetwork, [])

/-- `ossSocket::recv` without flags. -/
def ossRecv (len : Int) (script : RecvScript) : Option (ReturnCode × List UInt8) :=
  if len = 0 then some (edbOk, [])
  else
    (awaitReady script.selects).bind fun rc =>
      if rc ≠ edbOk then some (rc, []) else recvLoop 0 len script.answers

/-- A loop that came back with `EDB_OK` got all bytes. -/
theorem recvLoop_ok {retries : Nat} {len : Int} {answers : List RecvAnswer}
    {bytes : List UInt8} (done : recvLoop retries len answers = some (edbOk, bytes)) :
    bytes.length = len.toNat := by
  induction answers generalizing retries len bytes with
  | nil =>
      rw [recvLoop] at done
      split at done
      next nothing =>
        cases done
        exact (Int.toNat_of_nonpos nothing).symm
      next => cases done
  | cons answer answers ih =>
      unfold recvLoop at done
      split at done
      next nothing =>
        cases done
        exact (Int.toNat_of_nonpos nothing).symm
      next =>
        cases answer with
        | bytes chunk =>
            dsimp only at done
            split at done
            next some_read =>
              obtain ⟨⟨rc, rest⟩, later, same⟩ := Option.map_eq_some_iff.mp done
              cases same
              have read := some_read.2
              rw [List.length_append, ih later]
              omega
            next => cases done
        | closed => cases done
        | failed errno =>
            dsimp only at done
            split at done
            next => exact ih done
            next => cases done

/-- `ossSocket::recv` returns `EDB_OK` only with all bytes. -/
theorem ossRecv_ok {len : Int} {script : RecvScript} {bytes : List UInt8}
    (done : ossRecv len script = some (edbOk, bytes)) : bytes.length = len.toNat := by
  rw [ossRecv] at done
  split at done
  next zero =>
    cases done
    rw [zero]
    rfl
  next =>
    obtain ⟨rc, -, rest⟩ := Option.bind_eq_some_iff.mp done
    split at rest
    next failed =>
      cases rest
      exact absurd rfl failed
    next => exact recvLoop_ok rest

/-- A loop that came back with another code did not get all bytes. -/
theorem recvLoop_short {retries : Nat} {len : Int} {answers : List RecvAnswer}
    {rc : ReturnCode} {bytes : List UInt8}
    (done : recvLoop retries len answers = some (rc, bytes)) (failed : rc ≠ edbOk) :
    (bytes.length : Int) < len := by
  induction answers generalizing retries len bytes with
  | nil =>
      rw [recvLoop] at done
      split at done
      next =>
        cases done
        exact absurd rfl failed
      next => cases done
  | cons answer answers ih =>
      unfold recvLoop at done
      split at done
      next =>
        cases done
        exact absurd rfl failed
      next wanted =>
        have some_left : 0 < len := Int.lt_of_not_ge wanted
        cases answer with
        | bytes chunk =>
            dsimp only at done
            split at done
            next =>
              obtain ⟨⟨_, rest⟩, later, same⟩ := Option.map_eq_some_iff.mp done
              cases same
              have short : (rest.length : Int) < len - chunk.length := ih later
              dsimp only
              rw [List.length_append]
              omega
            next => cases done
        | closed =>
            cases done
            exact some_left
        | failed errno =>
            dsimp only at done
            split at done
            next => exact ih done
            next =>
              cases done
              exact some_left

/-- `ossSocket::recv` returns another code only with bytes missing. -/
theorem ossRecv_short {len : Int} {script : RecvScript} {rc : ReturnCode}
    {bytes : List UInt8} (done : ossRecv len script = some (rc, bytes)) (failed : rc ≠ edbOk)
    (wanted : 0 < len) : (bytes.length : Int) < len := by
  rw [ossRecv, if_neg (Int.ne_of_gt wanted)] at done
  obtain ⟨_, -, rest⟩ := Option.bind_eq_some_iff.mp done
  split at rest
  next =>
    cases rest
    exact wanted
  next => exact recvLoop_short rest failed

/-! ### send -/

/-- What the system call `send` answers: the number of bytes it took, or -1. -/
inductive SendAnswer where
  | sent (count : Nat)
  | failed

/-- What the system calls answer during one `ossSocket::send`. -/
structure SendScript where
  selects : List SelectAnswer
  answers : List SendAnswer

/-- The loop around `send`, with the bytes that were taken. -/
def sendLoop (bytes : List UInt8) : List SendAnswer → Option (ReturnCode × List UInt8)
  | [] => if bytes = [] then some (edbOk, []) else none
  | answer :: answers =>
      if bytes = [] then some (edbOk, [])
      else
        match answer with
        | .sent count =>
            if count ≤ bytes.length then
              (sendLoop (bytes.drop count) answers).map fun (rc, sent) =>
                (rc, bytes.take count ++ sent)
            else none
        | .failed => some (edbNetwork, [])

/-- `ossSocket::send` of the first `len` bytes behind a pointer. -/
def ossSend (len : Int) (bytes : List UInt8) (script : SendScript) :
    Option (ReturnCode × List UInt8) :=
  if len = 0 then some (edbOk, [])
  else
    (awaitReady script.selects).bind fun rc =>
      if rc ≠ edbOk then some (rc, []) else sendLoop bytes script.answers

end EmeraldDb
