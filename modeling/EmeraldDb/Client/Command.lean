/-
Module: EmeraldDb.Client.Command
Purpose: The commands of the client that send a request and wait for its reply.
Trusted boundary: human-reviewed spec; fromjson, the prints of BSONObj and the socket answer
  through arguments
Main exports: ClientEnv, ClientSocket, sendOrder, recvAgain, recvReply, CommandOutcome,
  InsertCommand.execute, QueryCommand.execute, DeleteCommand.execute
-/
import EmeraldDb.Msg.Message
import EmeraldDb.Oss.Socket

namespace EmeraldDb

open ByteMemory

def edbQueryInvalidArgument : ReturnCode := -101
def edbInsertInvalidArgument : ReturnCode := -102
def edbDeleteInvalidArgument : ReturnCode := -103
def edbInvalidRecord : ReturnCode := -104
def edbRecvDataLengthError : ReturnCode := -107
def edbSockNotConnect : ReturnCode := -115
def edbSockRemoteClosed : ReturnCode := -116
def edbSockSendFailed : ReturnCode := -117
def edbMsgBuildFailed : ReturnCode := -119

/-- `RECV_BUF_SIZE`. -/
def recvBufSize : Nat := 4096

/-- `SEND_BUF_SIZE`. -/
def sendBufSize : Nat := 4096

/-- What the client's surroundings answer; `fromjson` without a value throws.  `firstElement` is
what the constructor of an object prints before it throws. -/
structure ClientEnv where
  fromjson : List UInt8 → Option BsonObj
  toString : Mem → Nat → Option (Completion Unit)
  firstElement : Mem → Nat → Option Unit

/-- What the socket answers during one command: each `isConnected`, the `send`, and the
calls of `recv` in their order. -/
structure ClientSocket where
  connected : Bool
  stillConnected : Bool
  send : SendScript
  recvs : List RecvScript

/-- `getError` prints a text for the code. -/
def getError (code : ReturnCode) : ReturnCode := code

/-! ### The request -/

/-- `_sendBuf`, cleared. -/
def clearedSendBuf : MsgBuffer where
  size := sendBufSize
  allocated := sendBufSize
  heap := false
  contents := fun _ => 0

/-- `OnMsgBuild`.  The buffer is no block of the heap, so realloc has no answer. -/
abbrev OnMsgBuild := Option Mem → BsonObj → MsgBuffer → Option (ReturnCode × MsgBuffer)

/-- `sendOrder` with a builder, and the bytes the socket took. -/
def sendOrder (env : ClientEnv) (onMsgBuild : OnMsgBuild) (jsonString : List UInt8)
    (socket : ClientSocket) : Option (ReturnCode × List UInt8) :=
  match env.fromjson jsonString with
  | none => some (getError edbInvalidRecord, [])
  | some bsonData =>
      (onMsgBuild none bsonData clearedSendBuf).bind fun (ret, buffer) =>
        if ret ≠ edbOk then some (getError edbMsgBuildFailed, [])
        else
          let length := messageLen buffer.contents
          (ossSend length (readBytes buffer.contents 0 length.toNat) socket.send).map
            fun (ret, sent) =>
              if ret ≠ edbOk then (getError edbSockSendFailed, sent) else (ret, sent)

/-! ### The reply -/

/-- A loop around `sock.recv`, with the calls that are left: a timeout, which comes before
the first byte, is tried again. -/
def recvAgain (len : Int) :
    List RecvScript → Option ((ReturnCode × List UInt8) × List RecvScript)
  | [] => none
  | script :: scripts =>
      (ossRecv len script).bind fun (ret, bytes) =>
        if ret = edbTimeout then recvAgain len scripts else some ((ret, bytes), scripts)

/-- What `recvReply` leaves: its code, `_recvBuf`, and the bytes it took from the socket. -/
structure ReceivedReply where
  ret : ReturnCode
  buffer : Mem
  bytes : List UInt8

/-- `_recvBuf` after the length was received into the cleared buffer. -/
def lengthBuffer (head : List UInt8) : Mem := writeBytes (fun _ => 0) 0 head

/-- The size of the second receive: `length - sizeof(int)` is computed in `size_t` and
passed as an `int`. -/
def restSize (buffer : Mem) : Int := toI32 (messageLen buffer - 4)

/-- The second half of `recvReply`, behind the check of the length.  Bytes that do not fit
the buffer have no meaning. -/
def recvRest (head : List UInt8) (scripts : List RecvScript) : Option ReceivedReply :=
  (recvAgain (restSize (lengthBuffer head)) scripts).bind fun ((ret, rest), _) =>
    if recvBufSize < 4 + rest.length then none
    else
      let buffer := writeBytes (lengthBuffer head) 4 rest
      if ret = edbNetworkClose then
        some ⟨getError edbSockRemoteClosed, buffer, head ++ rest⟩
      else some ⟨ret, buffer, head ++ rest⟩

/-- `recvReply`.  Only a timeout and a closed peer are told apart from success. -/
def recvReply (socket : ClientSocket) : Option ReceivedReply :=
  if socket.stillConnected = false then some ⟨getError edbSockNotConnect, fun _ => 0, []⟩
  else
    (recvAgain 4 socket.recvs).bind fun ((ret, head), scripts) =>
      if ret = edbNetworkClose then
        some ⟨getError edbSockRemoteClosed, lengthBuffer head, head⟩
      else if (recvBufSize : Int) < messageLen (lengthBuffer head) then
        some ⟨getError edbRecvDataLengthError, lengthBuffer head, head⟩
      else recvRest head scripts

/-- `MsgReply::returnCode`. -/
def replyCode (buffer : Mem) : ReturnCode := intAtAddress buffer 8

/-- `MsgReply::numReturn`. -/
def replyNumReturn (buffer : Mem) : Int := intAtAddress buffer 12

/-! ### Commands -/

/-- What a command comes back with, and the bytes that passed the socket. -/
structure CommandOutcome where
  result : Completion ReturnCode
  sent : List UInt8
  received : List UInt8

/-- The three commands differ in the code for a missing argument, the builder, and what
they do with the reply. -/
def executeOrder (invalidArgument : ReturnCode) (onMsgBuild : OnMsgBuild)
    (handleReply : Mem → Option (Completion ReturnCode)) (env : ClientEnv)
    (argVec : List (List UInt8)) (socket : ClientSocket) : Option CommandOutcome :=
  match argVec with
  | [] => some ⟨.returns (getError invalidArgument), [], []⟩
  | jsonString :: _ =>
      if socket.connected = false then some ⟨.returns (getError edbSockNotConnect), [], []⟩
      else
        (sendOrder env onMsgBuild jsonString socket).bind fun (rc, sent) =>
          if rc ≠ edbOk then some ⟨.returns rc, sent, []⟩
          else
            (recvReply socket).bind fun reply =>
              if reply.ret ≠ edbOk then some ⟨.returns reply.ret, sent, reply.bytes⟩
              else
                (handleReply reply.buffer).map fun result => ⟨result, sent, reply.bytes⟩

/-- `InsertCommand::handleReply`. -/
def InsertCommand.handleReply (buffer : Mem) : Option (Completion ReturnCode) :=
  some (.returns (getError (replyCode buffer)))

/-- `InsertCommand::execute`. -/
def InsertCommand.execute :
    ClientEnv → List (List UInt8) → ClientSocket → Option CommandOutcome :=
  executeOrder edbInsertInvalidArgument msgBuildInsert InsertCommand.handleReply

/-- `QueryCommand::handleReply` prints the object of a successful reply. -/
def QueryCommand.handleReply (env : ClientEnv) (buffer : Mem) :
    Option (Completion ReturnCode) :=
  let ret := getError (replyCode buffer)
  if ret ≠ edbOk then some (.returns ret)
  else if replyNumReturn buffer ≠ 0 then
    match bsonObjAt buffer sizeofMsgReply with
    | none => (env.firstElement buffer sizeofMsgReply).map fun () => .throws
    | some _ =>
        match env.toString buffer sizeofMsgReply with
        | none => none
        | some .throws => some .throws
        | some (.returns ()) => some (.returns ret)
  else some (.returns ret)

/-- `QueryCommand::execute`. -/
def QueryCommand.execute (env : ClientEnv) :
    List (List UInt8) → ClientSocket → Option CommandOutcome :=
  executeOrder edbQueryInvalidArgument msgBuildQuery (QueryCommand.handleReply env) env

/-- `DeleteCommand::handleReply`. -/
def DeleteCommand.handleReply (buffer : Mem) : Option (Completion ReturnCode) :=
  some (.returns (getError (replyCode buffer)))

/-- `DeleteCommand::execute`. -/
def DeleteCommand.execute :
    ClientEnv → List (List UInt8) → ClientSocket → Option CommandOutcome :=
  executeOrder edbDeleteInvalidArgument msgBuildDelete DeleteCommand.handleReply

/-- The commands that wait for a reply. -/
inductive RecordCommand where
  | insert
  | query
  | delete

def RecordCommand.execute :
    RecordCommand → ClientEnv → List (List UInt8) → ClientSocket → Option CommandOutcome
  | .insert => InsertCommand.execute
  | .query => QueryCommand.execute
  | .delete => DeleteCommand.execute

end EmeraldDb
