/-
Module: EmeraldDb.Proofs.ShellInsert
Purpose: From the text at the client to the file of the server: a document that an insert
  command reports as stored is found, and reads back as the document that the text denotes.
Trusted boundary: none
Main exports: Carries, sendOrder_message, insertCommand_told, insertCommand_readsBack
-/
import EmeraldDb.Proofs.Json
import EmeraldDb.Proofs.SendOrder
import EmeraldDb.Proofs.ServerRun

namespace EmeraldDb

open ByteMemory

/-- The connection carries what the two sides hand over: the agent has received what the client
sent, and the client what the agent replied. -/
structure Carries (executed : CommandOutcome) (request : ServerRequest)
    (out : AgentOutcome DmsFile) : Prop where
  request : readBytes request.received 0 executed.sent.length = executed.sent
  reply : executed.received =
    readBytes out.result.contents 0 (messageLen out.result.contents).toNat

section Client

variable {env : ClientEnv} {jsonString : List UInt8} {others : List (List UInt8)}
  {socket : ClientSocket} {executed : CommandOutcome} {record : BsonObj}

/-- A command that succeeds has sent its order. -/
theorem insertCommand_order
    (done : InsertCommand.execute env (jsonString :: others) socket = some executed)
    (ok : executed.result = .returns edbOk) :
    sendOrder env msgBuildInsert jsonString socket = some (edbOk, executed.sent) := by
  rw [InsertCommand.execute, executeOrder] at done
  split at done
  next =>
    cases done
    exact absurd (Completion.returns.inj ok) (by decide)
  next =>
    obtain ⟨⟨rc, sent⟩, went, behind⟩ := Option.bind_eq_some_iff.mp done
    dsimp only at behind
    split at behind
    next refused =>
      cases behind
      exact absurd (Completion.returns.inj ok) refused
    next accepted =>
      obtain rfl : rc = edbOk := Decidable.not_not.mp accepted
      obtain ⟨reply, -, last⟩ := Option.bind_eq_some_iff.mp behind
      split at last
      next =>
        cases last
        exact went
      next =>
        obtain ⟨result, -, rfl⟩ := Option.map_eq_some_iff.mp last
        exact went

/-- An order that was sent is the whole message that the builder made of the record. -/
theorem sendOrder_message {onMsgBuild : OnMsgBuild} {sent : List UInt8}
    (parsed : env.fromjson jsonString = some record)
    (ordered : sendOrder env onMsgBuild jsonString socket = some (edbOk, sent)) :
    ∃ buffer, onMsgBuild none record clearedSendBuf = some (edbOk, buffer) ∧
      sent = readBytes buffer.contents 0 (messageLen buffer.contents).toNat := by
  rw [sendOrder, parsed] at ordered
  dsimp only at ordered
  obtain ⟨⟨ret, buffer⟩, built, behind⟩ := Option.bind_eq_some_iff.mp ordered
  dsimp only at behind
  split at behind
  next failed =>
    cases behind
  next fine =>
    obtain rfl := not_not.mp fine
    obtain ⟨⟨code, taken⟩, answered, same⟩ := Option.map_eq_some_iff.mp behind
    dsimp only at same
    refine ⟨buffer, built, ?_⟩
    split at same
    next => cases same
    next ok =>
      cases same
      cases ossSend_code (readBytes_length _ _ _) answered with
      | ok all => exact all

/-- A complete message was received with its length. -/
theorem Exchange.head_of_complete {ret : ReturnCode} {head rest : List UInt8}
    (exchange : Exchange socket ret head rest)
    (lower : (sizeofMsgReply : Int) ≤ messageLen (ofBytes (head ++ rest)))
    (complete : ((head ++ rest).length : Int) = messageLen (ofBytes (head ++ rest))) :
    head.length = 4 := by
  by_cases read : ret = edbOk
  · subst read
    exact exchange.head_whole
  · have short := exchange.head_short read
    have raised := readU32_ofBytes_le_append head rest 0
    have word := readU32_lt (ofBytes (head ++ rest)) 0
    have length := exchange.rest_length
    have fits := exchange.fits
    unfold messageLen intAtAddress at lower complete length
    unfold sizeofMsgReply at lower
    unfold recvBufSize at fits
    rw [List.length_append] at complete
    unfold toI32 at lower complete length
    omega

/-- A client that reports success was told so by the reply that the agent made. -/
theorem insertCommand_told {request : ServerRequest} {out : AgentOutcome DmsFile}
    {reply : ExtractedReply}
    (done : InsertCommand.execute env (jsonString :: others) socket = some executed)
    (ok : executed.result = .returns edbOk) (carries : Carries executed request out)
    (replied : msgExtraReply out.result.contents = .ok reply) : reply.returnCode = edbOk := by
  have command : RecordCommand.insert.execute env (jsonString :: others) socket =
      some executed := done
  obtain ⟨-, ret, head, rest, exchange, acknowledges, received⟩ := execute_ok command ok
  have length : (sizeofMsgReply : Int) ≤ messageLen out.result.contents := by
    unfold msgExtraReply at replied
    split at replied
    next => cases replied
    next large => exact Int.not_lt.mp large
  have code : reply.returnCode = replyCode out.result.contents := by
    unfold msgExtraReply at replied
    split at replied
    next => cases replied
    next =>
      split at replied
      next => cases replied
      next =>
        cases replied
        rfl
  have spelled : readBytes out.result.contents 0 (messageLen out.result.contents).toNat =
      head ++ rest := carries.reply.symm.trans received
  unfold sizeofMsgReply at length
  -- the words of the reply are those of the bytes that arrived
  have word (i : Nat) (inside : i + 4 ≤ 16) :
      intAtAddress out.result.contents i = intAtAddress (ofBytes (head ++ rest)) i := by
    have same := readU32_eq_ofBytes spelled (i := i) (by omega)
    rw [Nat.zero_add] at same
    rw [intAtAddress, intAtAddress, same]
  have lengths : messageLen out.result.contents = messageLen (ofBytes (head ++ rest)) :=
    word 0 (by decide)
  have total := congrArg List.length spelled
  rw [readBytes_length] at total
  have whole := exchange.head_of_complete (by unfold sizeofMsgReply; omega) (by omega)
  have success := acknowledges.returnCode
  rw [replyBuffer_eq whole] at success
  exact (code.trans (word 8 (by decide))).trans success

end Client

/-! ### The way of a text -/

/-- The client makes an object of a text and reports that it was inserted.  Then the object is
found after any further requests of any clients, and reads back as the document that the text
denotes. -/
theorem insertCommand_readsBack {start s s' s'' : DmsFile} {trace later : RequestTrace}
    {env : ClientEnv} {jsonString : List UInt8} {others : List (List UInt8)}
    {socket : ClientSocket} {executed : CommandOutcome} {stored : Stored}
    {members : JsonMembers} {fields : BsonFields} {record : BsonObj}
    {request : ServerRequest} {out : AgentOutcome DmsFile} {reply : ExtractedReply}
    (fresh : start.Fresh) (before : Server start trace s)
    (parsed : env.fromjson jsonString = some record)
    (made : fromActions stored members.objectActions = some record.bytes)
    (denoted : members.fields = some fields) (plain : fields.Plain) (short : fields.Short)
    (done : InsertCommand.execute env (jsonString :: others) socket = some executed)
    (ok : executed.result = .returns edbOk)
    (admissible : request.Admissible) (served : serve request s = some (out, s'))
    (replied : msgExtraReply out.result.contents = .ok reply)
    (carries : Carries executed request out) (after : Server s' later s'') :
    ∃ rid bytes, s''.find rid = some (.returns ⟨edbOk, some bytes⟩, s'') ∧
      readObject bytes = .ok fields := by
  obtain ⟨buffer, built, sent⟩ := sendOrder_message parsed (insertCommand_order done ok)
  have received : Received buffer request.received := by
    have arrived := carries.request
    rw [sent, readBytes_length] at arrived
    exact arrived
  have told := insertCommand_told done ok carries replied
  obtain ⟨rid, found⟩ := insertedObject_found fresh before built received admissible served
    replied told after
  rw [fromActions_eq, denoted, Option.bind_some, streamObject_eq] at made
  obtain ⟨bytes, valid⟩ := objectOf_built short made
  refine ⟨rid, record.bytes, found, ?_⟩
  rw [bytes]
  exact readObject_documentBytes fields plain valid

/-- What the grammar matches in `keyText`. -/
def keyMembers : JsonMembers :=
  .cons (.unquoted gKeyFieldName) [] (.bindata [] 0) .nil

/-- The document with only a key, of no binary data. -/
def keyText : List UInt8 :=
  "\x7b_id:\x7b\"$binary\":\"\",\"$type\":\"00\"\x7d\x7d".toList.map Char.toUInt8

theorem keyMembers_fields : keyMembers.fields = some keyDocument := rfl

theorem keyMembers_made (stored : Stored) :
    fromActions stored keyMembers.objectActions =
      some (binDataRecord [] (by decide)).bytes := by
  rw [fromActions_eq, keyMembers_fields, Option.bind_some, streamObject_eq]
  exact buildObject_keyDocument

theorem keyRecord_fits : ([] : List UInt8).length + 15 ≤ bsonObjMaxInternalSize := by decide

/-- `fromjson` of `keyText`. -/
def keyEnv : ClientEnv where
  fromjson := fun _ => some (binDataRecord [] keyRecord_fits)
  toString := fun _ _ => some (.returns ())
  firstElement := fun _ _ => some ()

/-- The request goes out whole, and the reply comes in two pieces. -/
def acknowledgingPeer : ClientSocket where
  connected := true
  stillConnected := true
  send := ⟨[.ready], [.sent 27]⟩
  recvs := [⟨[.ready], [.bytes (intBytes [sizeofMsgReply])]⟩,
    ⟨[.ready], [.bytes (intBytes [opReply, edbOk, 0])]⟩]

theorem insertCommand_acknowledged : InsertCommand.execute keyEnv [keyText] acknowledgingPeer =
    some ⟨.returns edbOk, RecordCommand.insert.encoding (binDataRecord [] (by decide)),
      intBytes [sizeofMsgReply, opReply, edbOk, 0]⟩ := rfl

/-- The text of the document with only a key is read back. -/
theorem insertCommand_readsBack_key : ∃ (s : DmsFile) (rid : DmsRecordId) (bytes : List UInt8),
    s.find rid = some (.returns ⟨edbOk, some bytes⟩, s) ∧ readObject bytes = .ok keyDocument := by
  obtain ⟨start, fresh⟩ := exists_fresh
  obtain ⟨s, request, sent, out, reply, -, admissible, built, received, served, told, replied,
    -⟩ :=
    (fresh_newFile fresh).insertServed
  have size := binDataRecord_objsize [] (by decide)
  have written := msgBuildOne_spells built rfl (by decide)
  have arrived := received.spells (by rw [size]; decide)
    (by rw [List.length_append, intBytes_length]; rfl) written
  have length : messageLen out.result.contents = sizeofMsgReply :=
    messageLen_of_spells (by decide) told
  have carries : Carries ⟨.returns edbOk,
      RecordCommand.insert.encoding (binDataRecord [] (by decide)),
      intBytes [sizeofMsgReply, opReply, edbOk, 0]⟩ request out := by
    refine ⟨arrived, ?_⟩
    rw [length]
    exact told.symm
  obtain ⟨rid, bytes, found, read⟩ := insertCommand_readsBack fresh .start rfl
    (keyMembers_made ⟨[], [], ⟨List.replicate 12 0, rfl⟩, [], 0, [], [], 0⟩) keyMembers_fields
    keyDocument_plain keyDocument_short insertCommand_acknowledged rfl admissible served replied
    carries .start
  exact ⟨s, rid, bytes, found, read⟩

end EmeraldDb
