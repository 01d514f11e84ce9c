/-
Module: EmeraldDb.Proofs.AgentSession
Purpose: What a client sees of its agent: one reply for each request, in order, until it
  disconnects.
Trusted boundary: none
Main exports: Pass.Admits, Replies, IsResultOf, AnswersInOrder, session_answersInOrder
-/
import EmeraldDb.Pmd.AgentSession
import EmeraldDb.Proofs.RequestFrame

namespace EmeraldDb

open ByteMemory

/-! ### The EDU of the agent -/

namespace EduMgr

variable {s : EduMgr} {id : EduId} {p : Ptr}

/-- The EDU is in the run queue, with this status. -/
structure Registered (s : EduMgr) (id : EduId) (p : Ptr) (status : EduStatus) : Prop where
  idle : s.idleQueue.lookup id = none
  run : s.runQueue.lookup id = some p
  block : ∃ cb, s.blocks p = some cb ∧ cb.status = status

/-- Writing the status leaves the EDU where it is. -/
theorem Registered.setStatus {status : EduStatus} (registered : s.Registered id p status)
    (cb : ControlBlock) : (s.setBlock p cb).Registered id p cb.status where
  idle := registered.idle
  run := registered.run
  block := ⟨cb, Function.update_self .., rfl⟩

theorem Registered.activate {status : EduStatus} (registered : s.Registered id p status)
    (active : status = .creating ∨ status = .running ∨ status = .waiting) :
    ∃ s', s.activateEdu id = some (edbOk, s') ∧ s'.Registered id p .running := by
  obtain ⟨cb, found, same⟩ := registered.block
  rw [activateEdu, registered.idle, registered.run]
  dsimp only
  rw [found, Option.bind_some, same]
  by_cases running : status = .running
  · subst running
    exact ⟨s, if_pos rfl, registered⟩
  · have allowed : ¬ (status ≠ .waiting ∧ status ≠ .creating) := by
      rintro ⟨notWaiting, notCreating⟩
      rcases active with creating | now | waiting
      · exact notCreating creating
      · exact running now
      · exact notWaiting waiting
    rw [if_neg running, if_neg allowed]
    exact ⟨_, rfl, registered.setStatus { cb with status := .running }⟩

theorem Registered.wait (registered : s.Registered id p .running) :
    ∃ s', s.waitEdu id = some (edbOk, s') ∧ s'.Registered id p .waiting := by
  obtain ⟨cb, found, same⟩ := registered.block
  rw [waitEdu, registered.run]
  dsimp only
  rw [found, Option.bind_some, same, if_neg (by decide), if_neg (by decide)]
  exact ⟨_, rfl, registered.setStatus { cb with status := .waiting }⟩

/-- The other threads leave the EDU in the run queue and do not touch its status. -/
def Leaves (id : EduId) (p : Ptr) (others : EduMgr → EduMgr) : Prop :=
  ∀ s status, s.Registered id p status → (others s).Registered id p status

end EduMgr

/-! ### One part after the other -/

theorem Part.andThen_goesOn {α β : Type} {part : Part α} {next : α → Part β}
    {events : List SocketEvent} {value : α} (first : part = some (events, .goesOn value)) :
    part.andThen next =
      (next value).map fun (later, reached) => (events ++ later, reached) := by
  rw [first]
  rfl

/-- A part that is silent hands over to the next one. -/
theorem Part.andThen_silent {α β : Type} {part : Part α} {next : α → Part β} {value : α}
    (first : part = some ([], .goesOn value)) : part.andThen next = next value := by
  rw [Part.andThen_goesOn first]
  cases next value with
  | none => rfl
  | some outcome => rfl

/-- Both parts go through. -/
theorem Part.andThen_eq {α β : Type} {part : Part α} {next : α → Part β}
    {events later : List SocketEvent} {value : α} {reached : Reached β}
    (first : part = some (events, .goesOn value)) (second : next value = some (later, reached)) :
    part.andThen next = some (events ++ later, reached) := by
  rw [Part.andThen_goesOn first, second]
  rfl

section Session

variable {Store : Type} {id : EduId} {p : Ptr} {frame : Frame} {pass : Pass Store}
  {agent : Agent Store} {store : Store}

/-! ### What the surroundings do -/

/-- The frame arrives whole, every reply is taken, there is memory, the runtime returns,
and the other threads leave the EDU alone.  A round that comes to `EDB_OK` did not find
the EDU forced. -/
structure Pass.Admits (pass : Pass Store) (frame : Frame) (id : EduId) (p : Ptr) :
    Prop where
  prefixed : pmdRecv 4 pass.lengthRounds = some (edbOk, frame.lengthBytes)
  body : pmdRecv (frame.length - 4) pass.bodyRounds = some (edbOk, frame.body)
  sends : ∀ bytes, pmdSend bytes.length bytes (pass.sendRounds bytes) = some (edbOk, bytes)
  receiveMemory : pass.mallocReceive ≠ none
  resultMemory : pass.mallocResult ≠ none
  replyMemory : pass.env.realloc ≠ none
  serves : pass.env.Serves frame
  beforeActivate : EduMgr.Leaves id p pass.beforeActivate
  beforeWait : EduMgr.Leaves id p pass.beforeWait

/-- The frame is complete and not longer than the buffer can get. -/
structure Frame.Acceptable (frame : Frame) : Prop where
  complete : frame.Complete
  upper : frame.length ≤ 2147479551

/-! ### What the client sees -/

/-- What the client sends. -/
def Frame.received (frame : Frame) : List SocketEvent :=
  [.received frame.lengthBytes, .received frame.body]

/-- The reply is as long as it says, and carries the code of the outcome. -/
structure Replies (out : AgentOutcome Store) (sent : List UInt8) : Prop where
  length : messageLen (ofBytes sent) = sent.length
  code : ∃ reply, msgExtraReply (ofBytes sent) = .ok reply ∧ reply.returnCode = out.rc

/-- The outcome of processing the frame. -/
structure IsResultOf (env : AgentEnv Store) (frame : Frame) (store : Store)
    (out : AgentOutcome Store) : Prop where
  processed : ∃ m result, frame.Fills m ∧
    pmdProcessAgentRequest env m result store = some out
  performed : ∀ call ∈ out.calls,
    env.runtime.call call store = some (.returns out.rc, out.store)
  idle : out.calls = [] → out.store = store
  insert : ∀ first rest, frame.CarriesObjects (first :: rest) → first.StartsWithKey →
    out.calls = [.insert first.bytes]
  query : ∀ key, frame.CarriesKey key → out.calls = [.find key.bytes]
  short : frame.Short → out.rc ≠ edbOk
  unknown : ∀ code, frame.opCode? = some code → code ∉ knownOpCodes → out.rc ≠ edbOk

/-- One reply for each request, before the next one is received; none for a disconnect,
which ends the session. -/
def AnswersInOrder : Store → List (Frame × Pass Store) → List SocketEvent →
    Reached (Agent Store) → Prop
  | store, [], events, reached =>
      events = [] ∧ ∃ agent, reached = .goesOn agent ∧ agent.store = store
  | store, (frame, pass) :: rest, events, reached =>
      if frame.opCode? = some opDisconnect then
        events = frame.received ∧ reached = .returns edbOk
      else
        ∃ out sent later, events = frame.received ++ .sent sent :: later ∧
          Replies out sent ∧ IsResultOf pass.env frame store out ∧
            AnswersInOrder out.store rest later reached

/-! ### One pass -/

/-- Between two passes. -/
structure Agent.Ready (agent : Agent Store) (id : EduId) (p : Ptr) : Prop where
  buffer : agent.receiveBuffer.Sound
  result : ResultBuffer agent.result
  edu : ∃ status, agent.mgr.Registered id p status ∧
    (status = .creating ∨ status = .running ∨ status = .waiting)

theorem receivePart_ok {size : Int} {rounds : List (Round RecvScript)} {bytes : List UInt8}
    (done : pmdRecv size rounds = some (edbOk, bytes)) :
    receivePart size rounds = some ([.received bytes], .goesOn bytes) := by
  rw [receivePart, done]
  rfl

/-- A frame is received into the buffer. -/
theorem receiveFrame_frame {buffer : ReceiveBuffer} (sound : buffer.Sound)
    (upper : frame.length ≤ 2147479551) (admits : pass.Admits frame id p) :
    ∃ received, receiveFrame pass buffer = some (frame.received, .goesOn received) ∧
      received.Sound ∧ frame.Fills received.contents := by
  have headed := frame.headed
  have same : frame.length = frame.bytes.length := rfl
  have word : readU32 (ofBytes frame.lengthBytes) 0 = frame.length :=
    frame.declared_lengthBytes
  have size : toI32 ((frame.length : Int) - 4) = frame.length - 4 :=
    toI32_of_lt (by omega) (by omega)
  obtain ⟨contents, memory⟩ := Option.ne_none_iff_exists'.mp admits.receiveMemory
  obtain ⟨reserved, done⟩ :=
    ReceiveBuffer.reserve_granted (by omega) upper contents buffer
  obtain ⟨reservedSound, covers⟩ := sound.reserve done
  rw [frame.toI32_length] at covers
  obtain ⟨received, completed⟩ := frame.receiveBody_some reserved
  obtain ⟨before, -, written⟩ := Frame.receiveBody done completed
  refine ⟨received, ?_, reservedSound.receiveBody completed, ?_⟩
  · apply Part.andThen_eq (receivePart_ok admits.prefixed)
    dsimp only
    rw [word, memory, done, frame.toI32_length, size]
    apply Part.andThen_eq (receivePart_ok admits.body)
    rw [if_neg (by omega), completed]
    rfl
  · rw [written]
    exact frame.fills_written before

/-- The result buffer is ready for the next reply. -/
theorem resetResult_ready {malloc : Option Mem} {result : MsgBuffer}
    (buffer : ResultBuffer result) (memory : malloc ≠ none) :
    ∃ fresh, resetResult malloc result = some ([], .goesOn fresh) ∧ ResultBuffer fresh := by
  obtain ⟨contents, granted⟩ := Option.ne_none_iff_exists'.mp memory
  unfold resetResult
  split
  next =>
    rw [granted]
    exact ⟨freshResult contents, rfl, ⟨rfl, Int.le_refl _⟩, Int.le_refl _⟩
  next => exact ⟨result, rfl, buffer⟩

/-- The reply that the buffer holds is sent whole. -/
theorem sendReply_filled {result : MsgBuffer} (buffer : ResultBuffer result) (fresh : Mem)
    {done : Processed Store} (settled : Concluded pass.env store done)
    (objReturn : Option BsonObj) (admits : pass.Admits frame id p) :
    let out : AgentOutcome Store := ⟨done.rc, false, done.calls, done.store,
      (result.reserved fresh (replyLength objReturn)).filled
        (replyMessage done.rc objReturn), some edbOk⟩
    sendReply pass.sendRounds out =
        some ([.sent (replyMessage done.rc objReturn)], .goesOn ()) ∧
      Replies out (replyMessage done.rc objReturn) := by
  intro out
  obtain ⟨low, high⟩ := settled.int
  have size := replyMessage_length done.rc objReturn
  obtain ⟨spelled, room⟩ := filled_reply buffer fresh done.rc objReturn
  obtain ⟨length, -⟩ := replyMessage_read low high objReturn spelled
  have alone : readBytes (ofBytes (replyMessage done.rc objReturn)) 0
      (replyLength objReturn) = replyMessage done.rc objReturn := by
    rw [← size]
    exact readBytes_ofBytes _
  obtain ⟨sentLength, code⟩ := replyMessage_read low high objReturn alone
  have sends := admits.sends (replyMessage done.rc objReturn)
  rw [size] at sends
  refine ⟨?_, ⟨?_, code⟩⟩
  · have connected : out.disconnect = false := rfl
    have covered : replyLength objReturn ≤ out.result.allocated := room
    rw [sendReply, connected, if_neg Bool.false_ne_true]
    dsimp only
    rw [length, Int.toNat_natCast, spelled, sends, if_neg (by omega)]
    rfl
  · rw [sentLength, size]

/-- What follows the receive of a request. -/
theorem answerRequest_frame {received : ReceiveBuffer} (ready : agent.Ready id p)
    (sound : received.Sound) (fills : frame.Fills received.contents)
    (complete : frame.Complete) (admits : pass.Admits frame id p)
    (request : frame.opCode? ≠ some opDisconnect) :
    ∃ out sent after, answerRequest id pass received agent =
        some ([.sent sent], .goesOn after) ∧ after.Ready id p ∧ after.store = out.store ∧
      Replies out sent ∧ IsResultOf pass.env frame agent.store out := by
  obtain ⟨status, registered, active⟩ := ready.edu
  obtain ⟨running, activated, nowRunning⟩ :=
    (admits.beforeActivate _ _ registered).activate active
  obtain ⟨waiting, waited, nowWaiting⟩ := (admits.beforeWait _ _ nowRunning).wait
  obtain ⟨result, reset, resultReady⟩ := resetResult_ready ready.result admits.resultMemory
  obtain ⟨fresh, granted⟩ := Option.ne_none_iff_exists'.mp admits.replyMemory
  obtain ⟨done, dispatched, handled⟩ :=
    Frame.handled admits.serves complete fills agent.store
  have connected : done.disconnect = false :=
    Bool.eq_false_iff.mpr fun sent => request (handled.disconnect.mp sent)
  have processed := process_granted resultReady granted dispatched connected
  generalize replyObject (opCode received.contents) done.retObj = objReturn at processed
  obtain ⟨sending, replies⟩ :=
    sendReply_filled resultReady fresh handled.toConcluded objReturn admits
  have reply := resultReady.filled fresh (replyLength objReturn)
    (replyMessage done.rc objReturn)
  refine ⟨_, _, ⟨received, _, waiting, done.store⟩, ?_,
    ⟨sound, reply, .waiting, nowWaiting, .inr (.inr rfl)⟩, rfl, replies, ?_⟩
  · have activating : managerPart ((pass.beforeActivate agent.mgr).activateEdu id) =
        some ([], .goesOn running) := by
      rw [activated]
      rfl
    have waits : managerPart ((pass.beforeWait running).waitEdu id) =
        some ([], .goesOn waiting) := by
      rw [waited]
      rfl
    rw [answerRequest, Part.andThen_silent activating, Part.andThen_silent reset, processed]
    dsimp only
    rw [Part.andThen_goesOn sending, Part.andThen_silent waits, if_neg Bool.false_ne_true]
    rfl
  · exact {
      processed := ⟨_, _, fills, processed⟩
      performed := handled.performed
      idle := handled.idle
      insert := fun first rest carries keyed =>
        Frame.calls_insert admits.serves fills carries keyed dispatched
      query := fun key carries => Frame.calls_query admits.serves fills carries dispatched
      short := handled.short
      unknown := handled.unknown }

/-- A disconnect is not answered, and ends the session. -/
theorem answerRequest_disconnect {received : ReceiveBuffer} (ready : agent.Ready id p)
    (fills : frame.Fills received.contents) (complete : frame.Complete)
    (admits : pass.Admits frame id p) (disconnect : frame.opCode? = some opDisconnect) :
    answerRequest id pass received agent = some ([], .returns edbOk) := by
  obtain ⟨status, registered, active⟩ := ready.edu
  obtain ⟨running, activated, nowRunning⟩ :=
    (admits.beforeActivate _ _ registered).activate active
  obtain ⟨waiting, waited, -⟩ := (admits.beforeWait _ _ nowRunning).wait
  obtain ⟨result, reset, -⟩ := resetResult_ready ready.result admits.resultMemory
  obtain ⟨done, dispatched, handled⟩ :=
    Frame.handled admits.serves complete fills agent.store
  have processed := process_disconnect result dispatched
    (handled.disconnect.mpr disconnect)
  have activating : managerPart ((pass.beforeActivate agent.mgr).activateEdu id) =
      some ([], .goesOn running) := by
    rw [activated]
    rfl
  have waits : managerPart ((pass.beforeWait running).waitEdu id) =
      some ([], .goesOn waiting) := by
    rw [waited]
    rfl
  rw [answerRequest, Part.andThen_silent activating, Part.andThen_silent reset, processed]
  dsimp only
  rw [sendReply, if_pos rfl, Part.andThen_silent rfl, Part.andThen_silent waits, if_pos rfl]

theorem agentPass_eq {received : ReceiveBuffer} {events later : List SocketEvent}
    {reached : Reached (Agent Store)}
    (arrives : receiveFrame pass agent.receiveBuffer = some (events, .goesOn received))
    (answers : answerRequest id pass received agent = some (later, reached)) :
    agentPass id pass agent = some (events ++ later, reached) :=
  Part.andThen_eq arrives answers

/-! ### The session -/

/-- From any point between two passes the remaining frames are answered in order. -/
theorem agentLoop_answersInOrder {exchanges : List (Frame × Pass Store)}
    (acceptable : ∀ exchange ∈ exchanges, exchange.1.Acceptable)
    (admitted : ∀ exchange ∈ exchanges, exchange.2.Admits exchange.1 id p)
    (ready : agent.Ready id p) :
    ∃ events reached, agentLoop id (exchanges.map Prod.snd) agent = some (events, reached) ∧
      AnswersInOrder agent.store exchanges events reached := by
  induction exchanges generalizing agent with
  | nil => exact ⟨[], .goesOn agent, rfl, rfl, agent, rfl, rfl⟩
  | cons exchange exchanges ih =>
      obtain ⟨frame, pass⟩ := exchange
      have admits := admitted _ List.mem_cons_self
      obtain ⟨complete, upper⟩ := acceptable _ List.mem_cons_self
      obtain ⟨received, arrives, sound, fills⟩ :=
        receiveFrame_frame ready.buffer upper admits
      rw [List.map_cons, agentLoop]
      dsimp only [AnswersInOrder]
      by_cases disconnect : frame.opCode? = some opDisconnect
      · have stops := answerRequest_disconnect ready fills complete admits disconnect
        have passes := agentPass_eq arrives stops
        refine ⟨frame.received, .returns edbOk, ?_, ?_⟩
        · rw [passes, List.append_nil]
          rfl
        · rw [if_pos disconnect]
          exact ⟨rfl, rfl⟩
      · obtain ⟨out, sent, after, answers, afterReady, kept, replies, isResult⟩ :=
          answerRequest_frame ready sound fills complete admits disconnect
        have passes := agentPass_eq arrives answers
        obtain ⟨later, reached, rest, ordered⟩ := ih
          (fun other member => acceptable other (List.mem_cons_of_mem _ member))
          (fun other member => admitted other (List.mem_cons_of_mem _ member)) afterReady
        refine ⟨_, reached, Part.andThen_eq passes rest, ?_⟩
        rw [if_neg disconnect]
        rw [kept] at ordered
        refine ⟨out, sent, later, ?_, replies, isResult, ordered⟩
        rw [List.append_assoc]
        rfl

/-- The agent answers each request once and in order, until the client disconnects. -/
theorem session_answersInOrder {mgr : EduMgr} {status : EduStatus}
    (registered : mgr.Registered id p status)
    (active : status = .creating ∨ status = .running ∨ status = .waiting)
    (contents fresh : Mem) (store : Store) {exchanges : List (Frame × Pass Store)}
    (acceptable : ∀ exchange ∈ exchanges, exchange.1.Acceptable)
    (admitted : ∀ exchange ∈ exchanges, exchange.2.Admits exchange.1 id p) :
    ∃ events reached, pmdAgentEntryPoint id (some contents, some fresh) mgr store
        (exchanges.map Prod.snd) = some (events, reached) ∧
      AnswersInOrder store exchanges events reached := by
  have ready : Agent.Ready ⟨.init contents, freshResult fresh, mgr, store⟩ id p :=
    ⟨ReceiveBuffer.init_sound contents, ⟨⟨rfl, Int.le_refl _⟩, Int.le_refl _⟩, status,
      registered, active⟩
  exact agentLoop_answersInOrder acceptable admitted ready

end Session

/-! ### A session with one query -/

/-- Bytes that arrive at once. -/
theorem pmdRecv_whole (bytes : List UInt8) :
    pmdRecv bytes.length [⟨false, [.ready], [.bytes bytes]⟩] = some (edbOk, bytes) := by
  cases bytes with
  | nil => rfl
  | cons byte bytes =>
      have all : recvLoop 0 ((byte :: bytes).length : Int) [.bytes (byte :: bytes)] =
          some (edbOk, byte :: bytes) := by
        have rest : ((byte :: bytes).length : Int) - (byte :: bytes).length = 0 := by omega
        rw [recvLoop, if_neg (by rw [List.length_cons]; omega)]
        dsimp only
        rw [if_pos ⟨List.cons_ne_nil _ _, Int.le_refl _⟩, rest]
        simp only [recvLoop, if_pos (Int.le_refl 0), Option.map_some, List.append_nil]
      have whole : ossRecv ((byte :: bytes).length : Int) ⟨[.ready], [.bytes (byte :: bytes)]⟩ =
          some (edbOk, byte :: bytes) := by
        rw [ossRecv, if_neg (by rw [List.length_cons]; omega)]
        exact all
      rw [pmdRecv, roundLoop, if_neg Bool.false_ne_true, whole]
      rfl

/-- Bytes that are taken at once. -/
theorem pmdSend_whole (bytes : List UInt8) :
    pmdSend bytes.length bytes [⟨false, [.ready], [.sent bytes.length]⟩] =
      some (edbOk, bytes) := by
  cases bytes with
  | nil => rfl
  | cons byte bytes =>
      have all : sendLoop (byte :: bytes) [.sent (byte :: bytes).length] =
          some (edbOk, byte :: bytes) := by
        rw [sendLoop, if_neg (List.cons_ne_nil _ _)]
        simp only [Nat.le_refl, if_true, List.drop_length, List.take_length, sendLoop,
          Option.map_some, List.append_nil]
      have whole : ossSend ((byte :: bytes).length : Int) (byte :: bytes)
          ⟨[.ready], [.sent (byte :: bytes).length]⟩ = some (edbOk, byte :: bytes) := by
        rw [ossSend, if_neg (by rw [List.length_cons]; omega)]
        exact all
      rw [pmdSend, roundLoop, if_neg Bool.false_ne_true, whole]
      rfl

/-- The frame arrives at once, in front of the server on a data file. -/
def plainPass (frame : Frame) : Pass DmsFile where
  lengthRounds := [⟨false, [.ready], [.bytes frame.lengthBytes]⟩]
  mallocReceive := some fun _ => 0
  bodyRounds := [⟨false, [.ready], [.bytes frame.body]⟩]
  beforeActivate := id
  mallocResult := some fun _ => 0
  env := .plain
  sendRounds := fun bytes => [⟨false, [.ready], [.sent bytes.length]⟩]
  beforeWait := id

theorem plainPass_admits {frame : Frame} (serves : AgentEnv.plain.Serves frame) (id : EduId)
    (p : Ptr) : (plainPass frame).Admits frame id p where
  prefixed := by
    have whole := pmdRecv_whole frame.lengthBytes
    rwa [frame.lengthBytes_length] at whole
  body := by
    have headed := frame.headed
    have same : frame.length = frame.bytes.length := rfl
    have size : ((frame.body.length : Nat) : Int) = frame.length - 4 := by
      rw [frame.body_length]
      omega
    rw [← size]
    exact pmdRecv_whole frame.body
  sends := pmdSend_whole
  receiveMemory := Option.some_ne_none _
  resultMemory := Option.some_ne_none _
  replyMemory := Option.some_ne_none _
  serves := serves
  beforeActivate _ _ registered := registered
  beforeWait _ _ registered := registered

/-- A query for the object without elements. -/
def queryFrame : Frame where
  bytes := [13, 0, 0, 0, 4, 0, 0, 0, 5, 0, 0, 0, 0]
  headed := by decide
  declared := by decide
  int := by decide

def disconnectFrame : Frame where
  bytes := [8, 0, 0, 0, 6, 0, 0, 0]
  headed := by decide
  declared := by decide
  int := by decide

/-- A frame of another operation carries no objects. -/
theorem not_carriesObjects {frame : Frame} {objs : List BsonObj}
    (other : frame.bytes.getD 4 0 ≠ 2) : ¬ frame.CarriesObjects objs := by
  rintro ⟨tail, shape⟩
  rw [shape] at other
  exact other rfl

theorem queryFrame_serves : AgentEnv.plain.Serves queryFrame where
  prints obj _ := AgentEnv.plain_prints obj
  returns := by
    intro call asks store
    cases asks with
    | insert carries => exact absurd carries (not_carriesObjects (by decide))
    | find carries => exact ⟨edbOk, store, rfl⟩

theorem disconnectFrame_serves : AgentEnv.plain.Serves disconnectFrame where
  prints obj _ := AgentEnv.plain_prints obj
  returns := by
    intro call asks store
    cases asks with
    | insert carries => exact absurd carries (not_carriesObjects (by decide))
    | find carries => exact ⟨edbOk, store, rfl⟩

theorem queryFrame_acceptable : queryFrame.Acceptable where
  complete :=
    { insert := fun named => absurd named (by decide)
      query := fun _ => ⟨.empty, [], rfl⟩ }
  upper := by decide

theorem disconnectFrame_acceptable : disconnectFrame.Acceptable where
  complete :=
    { insert := fun named => absurd named (by decide)
      query := fun named => absurd named (by decide) }
  upper := by decide

/-- A manager with one EDU. -/
def oneEdu : EduMgr := (EduMgr.init.insertEdu .agent).2

theorem oneEdu_registered : oneEdu.Registered 1 0 .creating where
  idle := rfl
  run := Finmap.lookup_insert _
  block := ⟨⟨.agent, .creating, 1, false, false, []⟩, rfl, rfl⟩

/-- A query and a disconnect. -/
theorem session_answersInOrder_query : ∃ file : DmsFile, file.Fresh ∧
    ∃ events reached, pmdAgentEntryPoint 1 (some fun _ => 0, some fun _ => 0) oneEdu file
        [plainPass queryFrame, plainPass disconnectFrame] = some (events, reached) ∧
      AnswersInOrder file [(queryFrame, plainPass queryFrame),
        (disconnectFrame, plainPass disconnectFrame)] events reached := by
  obtain ⟨file, fresh⟩ := exists_fresh
  have acceptable : ∀ exchange ∈ [(queryFrame, plainPass queryFrame),
      (disconnectFrame, plainPass disconnectFrame)], exchange.1.Acceptable := by
    intro exchange member
    rcases List.mem_cons.mp member with rfl | last
    · exact queryFrame_acceptable
    · obtain rfl := List.mem_singleton.mp last
      exact disconnectFrame_acceptable
  have admitted : ∀ exchange ∈ [(queryFrame, plainPass queryFrame),
      (disconnectFrame, plainPass disconnectFrame)], exchange.2.Admits exchange.1 1 0 := by
    intro exchange member
    rcases List.mem_cons.mp member with rfl | last
    · exact plainPass_admits queryFrame_serves 1 0
    · obtain rfl := List.mem_singleton.mp last
      exact plainPass_admits disconnectFrame_serves 1 0
  have answered := session_answersInOrder oneEdu_registered (.inl rfl) (fun _ => 0)
    (fun _ => 0) file acceptable admitted
  rw [List.map_cons, List.map_cons, List.map_nil] at answered
  exact ⟨file, fresh, answered⟩

end EmeraldDb
