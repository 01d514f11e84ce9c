/-
Module: EmeraldDb.Proofs.Transfer
Purpose: What arrives in the buffer, and what is taken off the stream or put on it, when
  a socket transfer is split, interrupted and started again.
Trusted boundary: none
Main exports: Wire.Received, Wire.Sent, pmdRecvInto_some, pmdSendFrom_some,
  ReceivesExactly, SendsExactly, pmdTransfers_exact
-/
import EmeraldDb.Pmd.Transfer

namespace EmeraldDb

open ByteMemory

namespace Wire

variable {wire wire' later : Wire} {a : Nat} {bytes rest : List UInt8}

/-- The next `bytes` of the stream were taken and stand at an address; nothing else of the
connection or the memory changed. -/
structure Received (wire : Wire) (a : Nat) (bytes : List UInt8) (wire' : Wire) :
    Prop where
  stream : wire.unread = bytes ++ wire'.unread
  memory : wire'.memory = writeBytes wire.memory a bytes
  handed : wire'.handed = wire.handed

/-- `bytes` were handed over behind what was handed over before. -/
structure Sent (wire : Wire) (bytes : List UInt8) (wire' : Wire) : Prop where
  handed : wire'.handed = wire.handed ++ bytes
  memory : wire'.memory = wire.memory
  unread : wire'.unread = wire.unread

theorem Received.refl (wire : Wire) (a : Nat) : wire.Received a [] wire where
  stream := rfl
  memory := (writeBytes_nil wire.memory a).symm
  handed := rfl

/-- Receiving no byte changes nothing. -/
theorem Received.eq_of_nil (received : wire.Received a [] wire') : wire' = wire := by
  obtain ⟨stream, memory, handed⟩ := received
  rw [writeBytes_nil] at memory
  obtain ⟨unread, handed', memory'⟩ := wire'
  subst memory handed
  exact congrArg (Wire.mk · wire.handed wire.memory) stream.symm

/-- Two chunks behind each other are one. -/
theorem Received.append (first : wire.Received a bytes wire')
    (second : wire'.Received (a + bytes.length) rest later) :
    wire.Received a (bytes ++ rest) later where
  stream := by rw [first.stream, second.stream, List.append_assoc]
  memory := by rw [second.memory, first.memory, writeBytes_append]
  handed := second.handed.trans first.handed

/-- What the system gives out comes next in the stream. -/
theorem fetch_received (fetched : wire.fetch a bytes = some wire') :
    wire.Received a bytes wire' := by
  rw [fetch] at fetched
  split at fetched
  next next_ =>
    cases fetched
    obtain ⟨rest, stream⟩ := List.isPrefixOf_iff_prefix.mp next_
    refine ⟨?_, rfl, rfl⟩
    rw [← stream, List.drop_left]
  next => cases fetched

theorem Sent.refl (wire : Wire) : wire.Sent [] wire where
  handed := (List.append_nil _).symm
  memory := rfl
  unread := rfl

theorem Sent.eq_of_nil (sent : wire.Sent [] wire') : wire' = wire := by
  obtain ⟨handed, memory, unread⟩ := sent
  rw [List.append_nil] at handed
  obtain ⟨unread', handed', memory'⟩ := wire'
  subst memory handed unread
  rfl

theorem Sent.append (first : wire.Sent bytes wire') (second : wire'.Sent rest later) :
    wire.Sent (bytes ++ rest) later where
  handed := by rw [second.handed, first.handed, List.append_assoc]
  memory := second.memory.trans first.memory
  unread := second.unread.trans first.unread

theorem hand_sent (wire : Wire) (a count : Nat) :
    wire.Sent (readBytes wire.memory a count) (wire.hand a count) :=
  ⟨rfl, rfl, rfl⟩

end Wire

/-! ### The pointer versions hand over what the byte versions do -/

variable {wire wire' : Wire} {rc : ReturnCode}

/-- The loop around `recv` stores its chunks one behind the other. -/
theorem recvLoopInto_some {retries a : Nat} {len : Int} {answers : List RecvAnswer}
    (done : recvLoopInto retries a len answers wire = some (rc, wire')) :
    ∃ bytes, recvLoop retries len answers = some (rc, bytes) ∧ wire.Received a bytes wire' := by
  induction answers generalizing retries a len wire with
  | nil =>
      rw [recvLoopInto] at done
      split at done
      next nothing =>
        cases done
        exact ⟨[], by rw [recvLoop, if_pos nothing], .refl _ _⟩
      next => cases done
  | cons answer answers ih =>
      unfold recvLoopInto at done
      unfold recvLoop
      split at done
      next nothing =>
        cases done
        exact ⟨[], by rw [if_pos nothing], .refl _ _⟩
      next wanted =>
        rw [if_neg wanted]
        cases answer with
        | bytes chunk =>
            dsimp only at done ⊢
            split at done
            next legal =>
              obtain ⟨middle, fetched, rest⟩ := Option.bind_eq_some_iff.mp done
              obtain ⟨bytes, looped, received⟩ := ih rest
              refine ⟨chunk ++ bytes, ?_, (Wire.fetch_received fetched).append received⟩
              rw [if_pos legal, looped]
              rfl
            next => cases done
        | closed =>
            cases done
            exact ⟨[], rfl, .refl _ _⟩
        | failed errno =>
            dsimp only at done ⊢
            split at done
            next again =>
              rw [if_pos again]
              exact ih done
            next final =>
              cases done
              rw [if_neg final]
              exact ⟨[], rfl, .refl _ _⟩

theorem ossRecvInto_some {a : Nat} {len : Int} {script : RecvScript}
    (done : ossRecvInto a len script wire = some (rc, wire')) :
    ∃ bytes, ossRecv len script = some (rc, bytes) ∧ wire.Received a bytes wire' := by
  unfold ossRecvInto at done
  unfold ossRecv
  split at done
  next zero =>
    cases done
    exact ⟨[], by rw [if_pos zero], .refl _ _⟩
  next wanted =>
    rw [if_neg wanted]
    obtain ⟨ready, awaited, rest⟩ := Option.bind_eq_some_iff.mp done
    rw [awaited, Option.bind_some]
    split at rest
    next failed =>
      cases rest
      exact ⟨[], by rw [if_pos failed], .refl _ _⟩
    next isReady =>
      rw [if_neg isReady]
      exact recvLoopInto_some rest

theorem readBytes_of_nonpos (m : Mem) (a : Nat) {len : Int} (nothing : len ≤ 0) :
    readBytes m a len.toNat = [] := by
  rw [Int.toNat_of_nonpos nothing]
  rfl

/-- The loop around `send` takes its pieces one behind the other. -/
theorem sendLoopFrom_some {a : Nat} {len : Int} {answers : List SendAnswer}
    (done : sendLoopFrom a len answers wire = some (rc, wire')) :
    ∃ bytes, sendLoop (readBytes wire.memory a len.toNat) answers = some (rc, bytes) ∧
      wire.Sent bytes wire' := by
  induction answers generalizing a len wire with
  | nil =>
      rw [sendLoopFrom] at done
      split at done
      next nothing =>
        cases done
        exact ⟨[], by rw [sendLoop, if_pos (readBytes_of_nonpos _ _ nothing)], .refl _⟩
      next => cases done
  | cons answer answers ih =>
      unfold sendLoopFrom at done
      unfold sendLoop
      split at done
      next nothing =>
        cases done
        exact ⟨[], by rw [if_pos (readBytes_of_nonpos _ _ nothing)], .refl _⟩
      next wanted =>
        have some_left : readBytes wire.memory a len.toNat ≠ [] := by
          apply List.ne_nil_of_length_pos
          rw [readBytes_length]
          omega
        rw [if_neg some_left]
        cases answer with
        | sent count =>
            dsimp only at done ⊢
            split at done
            next legal =>
              obtain ⟨bytes, looped, sent⟩ := ih done
              have parts : len.toNat = count + (len - count).toNat := by omega
              have whole := readBytes_append wire.memory a count (len - count).toNat
              have length := readBytes_length wire.memory a count
              refine ⟨readBytes wire.memory a count ++ bytes, ?_,
                (wire.hand_sent a count).append sent⟩
              rw [readBytes_length, if_pos (by omega), parts, whole, List.drop_left' length,
                List.take_left' length]
              rw [(wire.hand_sent a count).memory] at looped
              rw [looped]
              rfl
            next => cases done
        | failed =>
            cases done
            exact ⟨[], rfl, .refl _⟩

theorem ossSendFrom_some {a : Nat} {len : Int} {script : SendScript}
    (done : ossSendFrom a len script wire = some (rc, wire')) :
    ∃ bytes, ossSend len (readBytes wire.memory a len.toNat) script = some (rc, bytes) ∧
      wire.Sent bytes wire' := by
  unfold ossSendFrom at done
  unfold ossSend
  split at done
  next zero =>
    cases done
    exact ⟨[], by rw [if_pos zero], .refl _⟩
  next wanted =>
    rw [if_neg wanted]
    obtain ⟨ready, awaited, rest⟩ := Option.bind_eq_some_iff.mp done
    rw [awaited, Option.bind_some]
    split at rest
    next failed =>
      cases rest
      exact ⟨[], by rw [if_pos failed], .refl _⟩
    next isReady =>
      rw [if_neg isReady]
      exact sendLoopFrom_some rest

/-! ### Return codes -/

/-- Waiting for the socket ends in one of three ways. -/
theorem awaitReady_code {selects : List SelectAnswer} (done : awaitReady selects = some rc) :
    rc = edbOk ∨ rc = edbTimeout ∨ rc = edbNetwork := by
  induction selects with
  | nil => cases done
  | cons answer selects ih =>
      cases answer with
      | ready =>
          cases done
          exact .inl rfl
      | expired =>
          cases done
          exact .inr (.inl rfl)
      | failed errno =>
          rw [awaitReady] at done
          split at done
          next => exact ih done
          next =>
            cases done
            exact .inr (.inr rfl)

/-- Once the socket is ready, a receive does not time out. -/
theorem recvLoop_code {retries : Nat} {len : Int} {answers : List RecvAnswer}
    {bytes : List UInt8} (done : recvLoop retries len answers = some (rc, bytes)) :
    rc = edbOk ∨ rc = edbNetwork ∨ rc = edbNetworkClose := by
  induction answers generalizing retries len bytes with
  | nil =>
      rw [recvLoop] at done
      split at done
      next =>
        cases done
        exact .inl rfl
      next => cases done
  | cons answer answers ih =>
      unfold recvLoop at done
      split at done
      next =>
        cases done
        exact .inl rfl
      next =>
        cases answer with
        | bytes chunk =>
            dsimp only at done
            split at done
            next =>
              obtain ⟨⟨_, rest⟩, later, same⟩ := Option.map_eq_some_iff.mp done
              cases same
              exact ih later
            next => cases done
        | closed =>
            cases done
            exact .inr (.inr rfl)
        | failed errno =>
            dsimp only at done
            split at done
            next => exact ih done
            next =>
              cases done
              exact .inr (.inl rfl)

/-- Once the socket is ready, a send does not time out, and it succeeds with all bytes. -/
theorem sendLoop_code {bytes sent : List UInt8} {answers : List SendAnswer}
    (done : sendLoop bytes answers = some (rc, sent)) :
    rc = edbOk ∧ sent = bytes ∨ rc = edbNetwork := by
  induction answers generalizing bytes sent with
  | nil =>
      rw [sendLoop] at done
      split at done
      next nothing =>
        cases done
        exact .inl ⟨rfl, nothing.symm⟩
      next => cases done
  | cons answer answers ih =>
      unfold sendLoop at done
      split at done
      next nothing =>
        cases done
        exact .inl ⟨rfl, nothing.symm⟩
      next =>
        cases answer with
        | sent count =>
            dsimp only at done
            split at done
            next =>
              obtain ⟨⟨_, rest⟩, later, same⟩ := Option.map_eq_some_iff.mp done
              cases same
              rcases ih later with ⟨ok, whole⟩ | failed
              · refine .inl ⟨ok, ?_⟩
                rw [whole]
                exact List.take_append_drop count bytes
              · exact .inr failed
            next => cases done
        | failed =>
            cases done
            exact .inr rfl

/-- How a whole transfer may come back: with all its bytes, timed out before the first one,
or failed. -/
inductive TransferCode (whole : Prop) (bytes : List UInt8) : ReturnCode → Prop where
  | ok (all : whole) : TransferCode whole bytes edbOk
  | timeout (nothing : bytes = []) : TransferCode whole bytes edbTimeout
  | network : TransferCode whole bytes edbNetwork
  | closed : TransferCode whole bytes edbNetworkClose

theorem ossRecv_code {len : Int} {script : RecvScript} {bytes : List UInt8}
    (done : ossRecv len script = some (rc, bytes)) :
    TransferCode (bytes.length = len.toNat) bytes rc := by
  have all : rc = edbOk → bytes.length = len.toNat := by
    rintro rfl
    exact ossRecv_ok done
  rw [ossRecv] at done
  split at done
  next =>
    cases done
    exact .ok (all rfl)
  next =>
    obtain ⟨ready, awaited, rest⟩ := Option.bind_eq_some_iff.mp done
    split at rest
    next failed =>
      cases rest
      rcases awaitReady_code awaited with ok | timedOut | network
      · exact absurd ok failed
      · rw [timedOut]
        exact .timeout rfl
      · rw [network]
        exact .network
    next =>
      rcases recvLoop_code rest with rfl | rfl | rfl
      · exact .ok (all rfl)
      · exact .network
      · exact .closed

theorem ossSend_code {len : Int} {bytes sent : List UInt8} {script : SendScript}
    (length : bytes.length = len.toNat) (done : ossSend len bytes script = some (rc, sent)) :
    TransferCode (sent = bytes) sent rc := by
  rw [ossSend] at done
  split at done
  next zero =>
    cases done
    rw [zero] at length
    exact .ok (List.eq_nil_of_length_eq_zero length).symm
  next =>
    obtain ⟨ready, awaited, rest⟩ := Option.bind_eq_some_iff.mp done
    split at rest
    next failed =>
      cases rest
      rcases awaitReady_code awaited with ok | timedOut | network
      · exact absurd ok failed
      · rw [timedOut]
        exact .timeout rfl
      · rw [network]
        exact .network
    next =>
      rcases sendLoop_code rest with ⟨rfl, whole⟩ | rfl
      · exact .ok whole
      · exact .network

/-! ### Timeouts and the forced flag -/

theorem ossRecvInto_timeout {a : Nat} {len : Int} {script : RecvScript}
    (done : ossRecvInto a len script wire = some (edbTimeout, wire')) : wire' = wire := by
  obtain ⟨bytes, received, moved⟩ := ossRecvInto_some done
  cases ossRecv_code received with
  | timeout nothing =>
      rw [nothing] at moved
      exact moved.eq_of_nil

theorem ossSendFrom_timeout {a : Nat} {len : Int} {script : SendScript}
    (done : ossSendFrom a len script wire = some (edbTimeout, wire')) : wire' = wire := by
  obtain ⟨bytes, sent, moved⟩ := ossSendFrom_some done
  cases ossSend_code (readBytes_length _ _ _) sent with
  | timeout nothing =>
      rw [nothing] at moved
      exact moved.eq_of_nil

/-- Where a timeout changes nothing, a transfer is its last round, or it was forced and
changes nothing either. -/
theorem transferLoop_some {Script : Type}
    {operation : Script → Wire → Option (ReturnCode × Wire)}
    (timeout : ∀ {script wire wire'},
      operation script wire = some (edbTimeout, wire') → wire' = wire)
    {rounds : List (Round Script)} (done : transferLoop operation rounds wire = some (rc, wire')) :
    rc = edbAppForced ∧ wire' = wire ∨ ∃ script, operation script wire = some (rc, wire') := by
  induction rounds with
  | nil => cases done
  | cons round rounds ih =>
      rw [transferLoop] at done
      split at done
      next =>
        cases done
        exact .inl ⟨rfl, rfl⟩
      next =>
        obtain ⟨⟨code, middle⟩, operated, rest⟩ := Option.bind_eq_some_iff.mp done
        dsimp only at rest
        split at rest
        next timedOut =>
          subst timedOut
          rw [timeout operated] at rest
          exact ih rest
        next =>
          cases rest
          exact .inr ⟨round.script, operated⟩

/-- `pmdRecv` puts exactly the bytes it was asked for into the buffer: with `EDB_OK` the
next bytes of the stream, in a forced call none, and a round that timed out took none. -/
structure ReceivesExactly (pBuffer : Nat) (recvSize : Int) : Prop where
  ok : ∀ {rounds wire wire'}, pmdRecvInto pBuffer recvSize rounds wire = some (edbOk, wire') →
    ∃ bytes, bytes.length = recvSize.toNat ∧ wire.Received pBuffer bytes wire' ∧
      readBytes wire'.memory pBuffer recvSize.toNat = bytes
  forced : ∀ {rounds wire wire'},
    pmdRecvInto pBuffer recvSize rounds wire = some (edbAppForced, wire') → wire' = wire
  retry : ∀ {script wire wire'},
    ossRecvInto pBuffer recvSize script wire = some (edbTimeout, wire') → wire' = wire

/-- `pmdSend` hands over exactly the bytes of the buffer when it returns `EDB_OK`, and a
round that timed out handed over none. -/
structure SendsExactly (pBuffer : Nat) (sendSize : Int) : Prop where
  ok : ∀ {rounds wire wire'}, pmdSendFrom pBuffer sendSize rounds wire = some (edbOk, wire') →
    wire.Sent (readBytes wire.memory pBuffer sendSize.toNat) wire'
  retry : ∀ {script wire wire'},
    ossSendFrom pBuffer sendSize script wire = some (edbTimeout, wire') → wire' = wire

theorem receivesExactly (pBuffer : Nat) (recvSize : Int) : ReceivesExactly pBuffer recvSize where
  ok {rounds wire wire'} done := by
    rcases transferLoop_some ossRecvInto_timeout done with ⟨forced, -⟩ | ⟨script, operated⟩
    · cases forced
    · obtain ⟨bytes, received, moved⟩ := ossRecvInto_some operated
      have length := ossRecv_ok received
      refine ⟨bytes, length, moved, ?_⟩
      rw [moved.memory, ← length]
      exact readBytes_writeBytes_self wire.memory pBuffer bytes
  forced {rounds wire wire'} done := by
    rcases transferLoop_some ossRecvInto_timeout done with ⟨-, same⟩ | ⟨script, operated⟩
    · exact same
    · -- the socket never reports this code
      obtain ⟨bytes, received, -⟩ := ossRecvInto_some operated
      cases ossRecv_code received
  retry := ossRecvInto_timeout

theorem sendsExactly (pBuffer : Nat) (sendSize : Int) : SendsExactly pBuffer sendSize where
  ok {rounds wire wire'} done := by
    rcases transferLoop_some ossSendFrom_timeout done with ⟨forced, -⟩ | ⟨script, operated⟩
    · cases forced
    · obtain ⟨bytes, sent, moved⟩ := ossSendFrom_some operated
      cases ossSend_code (readBytes_length _ _ _) sent with
      | ok all =>
          rw [← all]
          exact moved
  retry := ossSendFrom_timeout

/-- Transfers are exact, however the system splits them and however often they time out. -/
theorem pmdTransfers_exact (pBuffer : Nat) (size : Int) :
    ReceivesExactly pBuffer size ∧ SendsExactly pBuffer size :=
  ⟨receivesExactly pBuffer size, sendsExactly pBuffer size⟩

/-- Four bytes in two chunks, after a timeout and two interruptions. -/
example :
    (pmdRecvInto 0 4
      [⟨false, [.expired], []⟩,
        ⟨false, [.failed .eintr, .ready], [.bytes [1], .failed .eintr, .bytes [2, 3, 4]]⟩]
      ⟨[1, 2, 3, 4, 5], [], fun _ => 0⟩).map
        (fun result => (result.1, readBytes result.2.memory 0 4, result.2.unread)) =
      some (edbOk, [1, 2, 3, 4], [5]) := by decide

/-- Three bytes are sent in two chunks, after a timeout and an interrupted wait. -/
example :
    (pmdSendFrom 1 3
      [⟨false, [.expired], []⟩,
        ⟨false, [.failed .eintr, .ready], [.sent 1, .sent 2]⟩]
      ⟨[], [9], writeBytes (fun _ => 0) 0 [1, 2, 3, 4]⟩).map
        (fun result => (result.1, result.2.handed)) =
      some (edbOk, [9, 2, 3, 4]) := by decide

end EmeraldDb
