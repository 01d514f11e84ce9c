/-
Module: EmeraldDb.Proofs.ClientReply
Purpose: When a client command that reports success has received a successful reply.
Trusted boundary: none
Main exports: SuccessReply, Misread, execute_successReply_iff, resetPeer_reportsSuccess
-/
import EmeraldDb.Client.Command

namespace EmeraldDb

open ByteMemory

/-- The bytes are one complete reply whose return code is `EDB_OK`. -/
structure SuccessReply (bytes : List UInt8) : Prop where
  lower : (sizeofMsgReply : Int) ≤ messageLen (ofBytes bytes)
  upper : messageLen (ofBytes bytes) ≤ recvBufSize
  complete : (bytes.length : Int) = messageLen (ofBytes bytes)
  returnCode : replyCode (ofBytes bytes) = edbOk

/-! ### What the two receives leave -/

/-- The loop comes back with what one of the calls came back with. -/
theorem recvAgain_some {len : Int} {scripts later : List RecvScript}
    {result : ReturnCode × List UInt8} (read : recvAgain len scripts = some (result, later)) :
    ∃ script, ossRecv len script = some result := by
  induction scripts with
  | nil => cases read
  | cons script scripts ih =>
      rw [recvAgain] at read
      obtain ⟨⟨ret, bytes⟩, called, rest⟩ := Option.bind_eq_some_iff.mp read
      dsimp only at rest
      split at rest
      next => exact ih rest
      next =>
        cases rest
        exact ⟨script, called⟩

/-- `_recvBuf` after both receives. -/
def replyBuffer (head rest : List UInt8) : Mem := writeBytes (lengthBuffer head) 4 rest

/-- `recvReply` accepts: the first receive came back with `ret` and the bytes `head`, the
second one with all the bytes it asked for. -/
structure Exchange (socket : ClientSocket) (ret : ReturnCode) (head rest : List UInt8) :
    Prop where
  notClosed : ret ≠ edbNetworkClose
  upper : messageLen (lengthBuffer head) ≤ recvBufSize
  reads : ∃ scripts later, recvAgain 4 socket.recvs = some ((ret, head), scripts) ∧
    recvAgain (restSize (lengthBuffer head)) scripts = some ((edbOk, rest), later)
  fits : 4 + rest.length ≤ recvBufSize

theorem Exchange.recvReply {socket : ClientSocket} {ret : ReturnCode}
    {head rest : List UInt8} (exchange : Exchange socket ret head rest)
    (connected : socket.stillConnected = true) :
    recvReply socket = some ⟨edbOk, replyBuffer head rest, head ++ rest⟩ := by
  obtain ⟨scripts, later, first, second⟩ := exchange.reads
  have accepted : ¬ (recvBufSize : Int) < messageLen (lengthBuffer head) :=
    Int.not_lt.mpr exchange.upper
  have room : ¬ recvBufSize < 4 + rest.length := Nat.not_lt.mpr exchange.fits
  rw [EmeraldDb.recvReply, if_neg (Bool.eq_false_iff.not.mpr (not_not_intro connected)), first,
    Option.bind_some]
  dsimp only
  rw [if_neg exchange.notClosed, if_neg accepted, recvRest, second, Option.bind_some]
  dsimp only
  rw [if_neg room, if_neg (by decide)]
  rfl

/-- There is no other way for `recvReply` to come back with `EDB_OK`. -/
theorem recvReply_ok {socket : ClientSocket} {received : ReceivedReply}
    (done : recvReply socket = some received) (ok : received.ret = edbOk) :
    socket.stillConnected = true ∧
      ∃ ret head rest, Exchange socket ret head rest ∧
        received = ⟨edbOk, replyBuffer head rest, head ++ rest⟩ := by
  have closed : getError edbSockRemoteClosed ≠ edbOk := by decide
  have tooLong : getError edbRecvDataLengthError ≠ edbOk := by decide
  rw [recvReply] at done
  split at done
  next =>
    cases done
    exact absurd ok (by decide)
  next connected =>
    refine ⟨Bool.of_not_eq_false connected, ?_⟩
    obtain ⟨⟨⟨ret, head⟩, scripts⟩, first, behind⟩ := Option.bind_eq_some_iff.mp done
    dsimp only at behind
    split at behind
    next =>
      cases behind
      exact absurd ok closed
    next notClosed =>
      split at behind
      next =>
        cases behind
        exact absurd ok tooLong
      next accepted =>
        rw [recvRest] at behind
        obtain ⟨⟨⟨ret', rest⟩, later⟩, second, last⟩ := Option.bind_eq_some_iff.mp behind
        dsimp only at last
        split at last
        next => cases last
        next room =>
          split at last
          next =>
            cases last
            exact absurd ok closed
          next =>
            cases last
            obtain rfl : ret' = edbOk := ok
            exact ⟨ret, head, rest,
              ⟨notClosed, Int.not_lt.mp accepted, ⟨scripts, later, first, second⟩,
                Nat.not_lt.mp room⟩, rfl⟩

/-! ### What was received -/

theorem lengthBuffer_eq (head : List UInt8) : lengthBuffer head = ofBytes head :=
  writeBytes_zeros head

theorem replyBuffer_eq {head : List UInt8} (whole : head.length = 4) (rest : List UInt8) :
    replyBuffer head rest = ofBytes (head ++ rest) := by
  have joined := writeBytes_append (fun _ => 0) 0 head rest
  rw [Nat.zero_add, whole] at joined
  exact joined.trans (writeBytes_zeros (head ++ rest))

/-- A complete length is the length of everything that follows it. -/
theorem messageLen_append {head : List UInt8} (whole : head.length = 4)
    (rest : List UInt8) :
    messageLen (ofBytes (head ++ rest)) = messageLen (ofBytes head) := by
  unfold messageLen intAtAddress
  rw [readU32_ofBytes_append_left rest (Nat.le_of_eq whole.symm)]

section

variable {socket : ClientSocket} {ret : ReturnCode} {head rest : List UInt8}

/-- The second receive asks for `L - 4` bytes where that is not negative. -/
theorem Exchange.rest_length (exchange : Exchange socket ret head rest) :
    rest.length = (toI32 (messageLen (ofBytes head) - 4)).toNat := by
  obtain ⟨_, _, -, second⟩ := exchange.reads
  obtain ⟨_, called⟩ := recvAgain_some second
  have length := ossRecv_ok called
  rw [restSize, lengthBuffer_eq] at length
  exact length

/-- A first receive with `EDB_OK` brought the whole length. -/
theorem Exchange.head_whole (exchange : Exchange socket edbOk head rest) :
    head.length = 4 := by
  obtain ⟨_, _, first, -⟩ := exchange.reads
  obtain ⟨_, called⟩ := recvAgain_some first
  exact ossRecv_ok called

theorem Exchange.head_short (exchange : Exchange socket ret head rest)
    (failed : ret ≠ edbOk) : head.length < 4 := by
  obtain ⟨_, _, first, -⟩ := exchange.reads
  obtain ⟨_, called⟩ := recvAgain_some first
  exact Int.ofNat_lt.mp (ossRecv_short called failed (by decide))

/-- With the length in hand, and no shorter than a reply, the reply is complete. -/
theorem Exchange.successReply (exchange : Exchange socket edbOk head rest)
    (lower : (sizeofMsgReply : Int) ≤ messageLen (lengthBuffer head))
    (code : replyCode (replyBuffer head rest) = edbOk) : SuccessReply (head ++ rest) := by
  have whole := exchange.head_whole
  have upper := exchange.upper
  have length := exchange.rest_length
  rw [lengthBuffer_eq] at lower upper
  rw [replyBuffer_eq whole] at code
  have same := messageLen_append whole rest
  unfold sizeofMsgReply at lower
  unfold recvBufSize at upper
  have exact_rest : toI32 (messageLen (ofBytes head) - 4) = messageLen (ofBytes head) - 4 :=
    toI32_of_lt (by omega) (by omega)
  rw [exact_rest] at length
  constructor
  · rw [same]
    exact lower
  · rw [same]
    exact upper
  · rw [same, List.length_append]
    omega
  · exact code

/-- Without the length, what was received is no reply: fewer bytes arrived than the
length says that they spell. -/
theorem Exchange.not_successReply_of_short (exchange : Exchange socket ret head rest)
    (short : head.length < 4) : ¬ SuccessReply (head ++ rest) := by
  intro reply
  have raised := readU32_ofBytes_le_append head rest 0
  have word := readU32_lt (ofBytes (head ++ rest)) 0
  have lower := reply.lower
  have upper := reply.upper
  have complete := reply.complete
  have length := exchange.rest_length
  unfold messageLen intAtAddress at lower upper complete length
  unfold sizeofMsgReply at lower
  unfold recvBufSize at upper
  rw [List.length_append] at complete
  unfold toI32 at lower upper complete length
  omega

/-- A length too small for a reply is not the length of one. -/
theorem Exchange.not_successReply_of_small (exchange : Exchange socket edbOk head rest)
    (small : messageLen (lengthBuffer head) < sizeofMsgReply) :
    ¬ SuccessReply (head ++ rest) := by
  intro reply
  have lower := reply.lower
  rw [messageLen_append exchange.head_whole] at lower
  rw [lengthBuffer_eq] at small
  exact Int.not_le.mpr small lower

end

/-! ### Commands -/

namespace RecordCommand

/-- The code for a missing argument. -/
def invalidArgument : RecordCommand → ReturnCode
  | .insert => edbInsertInvalidArgument
  | .query => edbQueryInvalidArgument
  | .delete => edbDeleteInvalidArgument

def onMsgBuild : RecordCommand → OnMsgBuild
  | .insert => msgBuildInsert
  | .query => msgBuildQuery
  | .delete => msgBuildDelete

def handleReply (env : ClientEnv) : RecordCommand → Mem → Option (Completion ReturnCode)
  | .insert => InsertCommand.handleReply
  | .query => QueryCommand.handleReply env
  | .delete => DeleteCommand.handleReply

theorem execute_eq (command : RecordCommand) (env : ClientEnv) :
    command.execute env =
      executeOrder command.invalidArgument command.onMsgBuild (command.handleReply env) env := by
  cases command <;> rfl

end RecordCommand

/-- The bytes of the buffer that the command looks at report success: the return code is
zero, and a query can print the object it was sent, if any. -/
structure Acknowledges (command : RecordCommand) (env : ClientEnv) (buffer : Mem) : Prop where
  returnCode : replyCode buffer = edbOk
  printed : command = .query → replyNumReturn buffer ≠ 0 →
    bsonObjAt buffer sizeofMsgReply ≠ none ∧
      env.toString buffer sizeofMsgReply = some (.returns ())

theorem QueryCommand.handleReply_ok_iff {env : ClientEnv} {buffer : Mem} :
    QueryCommand.handleReply env buffer = some (.returns edbOk) ↔
      Acknowledges .query env buffer := by
  rw [QueryCommand.handleReply]
  by_cases code : getError (replyCode buffer) = edbOk
  · rw [if_neg (not_not_intro code), code]
    by_cases silent : replyNumReturn buffer = 0
    · rw [if_neg (not_not_intro silent)]
      exact iff_of_true rfl ⟨code, fun _ carries => absurd silent carries⟩
    · rw [if_pos silent]
      cases object : bsonObjAt buffer sizeofMsgReply with
      | none =>
          apply iff_of_false
          · intro handled
            obtain ⟨_, -, thrown⟩ := Option.map_eq_some_iff.mp handled
            cases thrown
          · intro acknowledges
            exact (acknowledges.printed rfl silent).1 object
      | some bytes =>
          have carried : bsonObjAt buffer sizeofMsgReply ≠ none := by
            rw [object]
            exact Option.some_ne_none bytes
          dsimp only
          split
          next nothing =>
            apply iff_of_false nofun
            intro acknowledges
            cases nothing.symm.trans (acknowledges.printed rfl silent).2
          next thrown =>
            apply iff_of_false nofun
            intro acknowledges
            cases thrown.symm.trans (acknowledges.printed rfl silent).2
          next printed =>
            exact iff_of_true rfl ⟨code, fun _ _ => ⟨carried, printed⟩⟩
  · rw [if_pos code]
    apply iff_of_false
    · intro handled
      exact code (Completion.returns.inj (Option.some.inj handled))
    · intro acknowledges
      exact code acknowledges.returnCode

theorem handleReply_ok_iff {command : RecordCommand} {env : ClientEnv} {buffer : Mem} :
    command.handleReply env buffer = some (.returns edbOk) ↔
      Acknowledges command env buffer := by
  have code_iff : some (Completion.returns (getError (replyCode buffer))) =
      some (Completion.returns edbOk) ↔ replyCode buffer = edbOk := by
    rw [Option.some.injEq, Completion.returns.injEq]
    exact Iff.rfl
  cases command with
  | query => exact QueryCommand.handleReply_ok_iff
  | insert =>
      constructor
      · intro handled
        exact ⟨code_iff.mp handled, nofun⟩
      · intro acknowledges
        exact code_iff.mpr acknowledges.returnCode
  | delete =>
      constructor
      · intro handled
        exact ⟨code_iff.mp handled, nofun⟩
      · intro acknowledges
        exact code_iff.mpr acknowledges.returnCode

/-- The command is connected and its request goes out. -/
def Ordered (command : RecordCommand) (env : ClientEnv) (argVec : List (List UInt8))
    (socket : ClientSocket) : Prop :=
  ∃ jsonString others sent, argVec = jsonString :: others ∧ socket.connected = true ∧
    sendOrder env command.onMsgBuild jsonString socket = some (edbOk, sent) ∧
    socket.stillConnected = true

/-- A command that goes through both receives to a success. -/
theorem execute_of_exchange {command : RecordCommand} {env : ClientEnv}
    {argVec : List (List UInt8)} {socket : ClientSocket} {ret : ReturnCode}
    {head rest : List UInt8} (ordered : Ordered command env argVec socket)
    (exchange : Exchange socket ret head rest)
    (acknowledges : Acknowledges command env (replyBuffer head rest)) :
    ∃ sent, command.execute env argVec socket =
      some ⟨.returns edbOk, sent, head ++ rest⟩ := by
  obtain ⟨jsonString, others, sent, rfl, connected, went, still⟩ := ordered
  have reply := exchange.recvReply still
  have handled := handleReply_ok_iff.mpr acknowledges
  refine ⟨sent, ?_⟩
  rw [RecordCommand.execute_eq, executeOrder,
    if_neg (Bool.eq_false_iff.not.mpr (not_not_intro connected)), went, Option.bind_some]
  dsimp only
  rw [if_neg (not_not_intro rfl), reply, Option.bind_some]
  dsimp only
  rw [if_neg (not_not_intro rfl), handled]
  rfl

/-- There is no other way to a success. -/
theorem execute_ok {command : RecordCommand} {env : ClientEnv}
    {argVec : List (List UInt8)} {socket : ClientSocket} {executed : CommandOutcome}
    (done : command.execute env argVec socket = some executed)
    (ok : executed.result = .returns edbOk) :
    Ordered command env argVec socket ∧
      ∃ ret head rest, Exchange socket ret head rest ∧
        Acknowledges command env (replyBuffer head rest) ∧
        executed.received = head ++ rest := by
  have missing : getError command.invalidArgument ≠ edbOk := by
    cases command <;> decide
  have unconnected : getError edbSockNotConnect ≠ edbOk := by decide
  rw [RecordCommand.execute_eq] at done
  cases argVec with
  | nil =>
      cases done
      exact absurd (Completion.returns.inj ok) missing
  | cons jsonString others =>
      rw [executeOrder] at done
      split at done
      next =>
        cases done
        exact absurd (Completion.returns.inj ok) unconnected
      next connected =>
        obtain ⟨⟨rc, sent⟩, went, behind⟩ := Option.bind_eq_some_iff.mp done
        dsimp only at behind
        split at behind
        next refused =>
          cases behind
          exact absurd (Completion.returns.inj ok) refused
        next accepted =>
          obtain rfl : rc = edbOk := Decidable.not_not.mp accepted
          obtain ⟨reply, received, last⟩ := Option.bind_eq_some_iff.mp behind
          split at last
          next refused =>
            cases last
            exact absurd (Completion.returns.inj ok) refused
          next replied =>
            obtain ⟨still, ret, head, rest, exchange, rfl⟩ :=
              recvReply_ok received (Decidable.not_not.mp replied)
            obtain ⟨result, handled, rfl⟩ := Option.map_eq_some_iff.mp last
            obtain rfl : result = .returns edbOk := ok
            exact ⟨⟨jsonString, others, sent, rfl, Bool.of_not_eq_false connected, went, still⟩,
              ret, head, rest, exchange, handleReply_ok_iff.mp handled, rfl⟩

/-- The request goes out, the first receive does not bring the length of a reply, and yet
the second one completes and what lies in the buffer reads as a success. -/
def Misread (command : RecordCommand) (env : ClientEnv) (argVec : List (List UInt8))
    (socket : ClientSocket) : Prop :=
  Ordered command env argVec socket ∧
    ∃ ret head rest, Exchange socket ret head rest ∧
      (ret ≠ edbOk ∨ messageLen (lengthBuffer head) < sizeofMsgReply) ∧
      Acknowledges command env (replyBuffer head rest)

/-- The commands report success for a complete and successful reply alone, exactly when
no reply is misread. -/
theorem execute_successReply_iff (command : RecordCommand) (env : ClientEnv)
    (argVec : List (List UInt8)) (socket : ClientSocket) :
    (∀ executed, command.execute env argVec socket = some executed →
      executed.result = .returns edbOk → SuccessReply executed.received) ↔
      ¬ Misread command env argVec socket := by
  constructor
  · rintro replied ⟨ordered, ret, head, rest, exchange, missed, acknowledges⟩
    obtain ⟨sent, done⟩ := execute_of_exchange ordered exchange acknowledges
    have reply : SuccessReply (head ++ rest) := replied _ done rfl
    by_cases read : ret = edbOk
    · subst read
      rcases missed with failed | small
      · exact failed rfl
      · exact exchange.not_successReply_of_small small reply
    · exact exchange.not_successReply_of_short (exchange.head_short read) reply
  · intro understood executed done ok
    obtain ⟨ordered, ret, head, rest, exchange, acknowledges, received⟩ := execute_ok done ok
    rw [received]
    have whole : ¬ (ret ≠ edbOk ∨ messageLen (lengthBuffer head) < sizeofMsgReply) := by
      intro missed
      exact understood ⟨ordered, ret, head, rest, exchange, missed, acknowledges⟩
    obtain ⟨read, large⟩ := not_or.mp whole
    obtain rfl : ret = edbOk := Decidable.not_not.mp read
    exact exchange.successReply (Int.not_lt.mp large) acknowledges.returnCode

/-! ### A connection that is reset -/

/-- `fromjson` of the text `{}`. -/
def emptyObjectEnv : ClientEnv where
  fromjson := fun _ => some .empty
  toString := fun _ _ => some (.returns ())
  firstElement := fun _ _ => some ()

/-- The request goes out; then the peer resets the connection. -/
def resetPeer : ClientSocket where
  connected := true
  stillConnected := true
  send := ⟨[.ready], [.sent 17]⟩
  recvs := [⟨[.ready], [.failed ⟨104, by decide⟩]⟩, ⟨[.ready], []⟩]

/-- An insert reports success without having received one byte. -/
theorem resetPeer_reportsSuccess :
    ∃ sent, InsertCommand.execute emptyObjectEnv [[123, 125]] resetPeer =
        some ⟨.returns edbOk, sent, []⟩ ∧ ¬ SuccessReply [] := by
  refine ⟨_, rfl, ?_⟩
  intro reply
  exact absurd reply.lower (by decide)

end EmeraldDb
