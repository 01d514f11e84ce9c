/-
Module: EmeraldDb.Proofs.CompleteReply
Purpose: Whether what an agent sends is the reply to the request it has just processed, for
  every outcome of the allocations made for replies.
Trusted boundary: none
Main exports: MsgBuffer.Exact, msgBuildReply_result, Answering, CompleteReply, EveryReply,
  completeReply_iff, repliesComplete_iff
-/
import EmeraldDb.Proofs.AgentSession

namespace EmeraldDb

open ByteMemory

/-! ### The result buffer -/

/-- The size variable is the number of bytes of a block of the heap, and a reply without an
object fits. -/
structure MsgBuffer.Exact (result : MsgBuffer) : Prop where
  heap : result.heap = true
  size : result.size = result.allocated
  room : sizeofMsgReply ≤ result.allocated

namespace MsgBuffer.Exact

variable {result : MsgBuffer}

theorem sound (exact_ : result.Exact) : result.Sound := ⟨exact_.heap, Int.le_of_eq exact_.size⟩

theorem fresh (contents : Mem) : (freshResult contents).Exact := ⟨rfl, rfl, Nat.le_refl _⟩

theorem filled (exact_ : result.Exact) (message : List UInt8) : (result.filled message).Exact :=
  ⟨exact_.heap, exact_.size, exact_.room⟩

theorem grow (result : MsgBuffer) (found : Mem) {length : Nat} (room : sizeofMsgReply ≤ length) :
    (result.grow found length).Exact := ⟨rfl, rfl, room⟩

/-- At the start of a request the buffer has the size of a reply without an object. -/
theorem reset {malloc : Option Mem} {reset : MsgBuffer} {events : List SocketEvent}
    (exact_ : result.Exact)
    (done : resetResult malloc result = some (events, .goesOn reset)) :
    reset.Exact ∧ reset.allocated = sizeofMsgReply := by
  unfold resetResult at done
  split at done
  next =>
    cases malloc with
    | none => cases done
    | some contents =>
        cases done
        exact ⟨fresh contents, rfl⟩
  next small =>
    cases done
    have size := exact_.size
    have room := exact_.room
    exact ⟨exact_, by omega⟩

end MsgBuffer.Exact

/-- What the reply builder returns: the reply in the buffer, in a larger one, or nothing but
an error beside the old contents. -/
theorem msgBuildReply_result {result : MsgBuffer} (sound : result.Sound) (realloc : Option Mem)
    (returnCode : ReturnCode) (objReturn : Option BsonObj) :
    msgBuildReply realloc returnCode objReturn result =
      if (replyLength objReturn : Int) ≤ result.size then
        some (edbOk, result.filled (replyMessage returnCode objReturn))
      else
        match realloc with
        | some fresh => some (edbOk,
            (result.grow fresh (replyLength objReturn)).filled
              (replyMessage returnCode objReturn))
        | none => some (edbOom, result) := by
  have granted := fun fresh => msgBuildReply_granted sound fresh returnCode objReturn
  obtain ⟨fill, asked⟩ := msgBuildReply_eq returnCode objReturn
  split
  next room =>
    have kept : result.reserved (fun _ => 0) (replyLength objReturn) = result := by
      rw [MsgBuffer.reserved, if_neg (by omega)]
    rw [asked, msgBuild_of_room room realloc (some fun _ => 0), ← asked, granted, kept]
  next short =>
    cases realloc with
    | some fresh =>
        rw [granted, MsgBuffer.reserved, if_pos (by omega)]
    | none =>
        rw [asked]
        exact msgBuild_refused sound (Int.lt_of_not_ge short)

/-- Building a reply leaves a buffer of the same kind. -/
theorem MsgBuffer.Exact.built {result after : MsgBuffer} {realloc : Option Mem}
    {returnCode code : ReturnCode} {objReturn : Option BsonObj} (exact_ : result.Exact)
    (built : msgBuildReply realloc returnCode objReturn result = some (code, after)) :
    after.Exact := by
  rw [msgBuildReply_result exact_.sound] at built
  split at built
  next =>
    cases built
    exact exact_.filled _
  next =>
    cases realloc with
    | some fresh =>
        cases built
        exact (grow result fresh (replyLength_bounds objReturn).1).filled _
    | none =>
        cases built
        exact exact_

section Session

variable {Store : Type} {id : EduId} {pass : Pass Store} {agent : Agent Store} {store : Store}
  {env : AgentEnv Store} {m : Mem}

/-! ### The reply of one pass -/

/-- A pass has processed the request in `received` and is about to send what stands in the
result buffer. -/
structure Answering (id : EduId) (pass : Pass Store) (agent : Agent Store)
    (received : ReceiveBuffer) (out : AgentOutcome Store) : Prop where
  arrived : ∃ events, receiveFrame pass agent.receiveBuffer = some (events, .goesOn received)
  activated : ∃ events running,
    managerPart ((pass.beforeActivate agent.mgr).activateEdu id) = some (events, .goesOn running)
  processed : ∃ events result,
    resetResult pass.mallocResult agent.result = some (events, .goesOn result) ∧
      pmdProcessAgentRequest pass.env received.contents result agent.store = some out
  connected : out.disconnect = false

/-- What is passed to `pmdSend` lies inside the block, and is the whole reply with the code
and the object that processing the request came to. -/
structure CompleteReply (env : AgentEnv Store) (m : Mem) (store : Store)
    (out : AgentOutcome Store) : Prop where
  inside : messageLen out.result.contents ≤ out.result.allocated
  encoded : ∀ done, dispatch env m store = some done →
    readBytes out.result.contents 0 (messageLen out.result.contents).toNat =
      replyMessage done.rc (replyObject (opCode m) done.retObj)

/-- The reply to a snapshot and to a query carries an object, so it takes a larger buffer. -/
def ReplyGranted (env : AgentEnv Store) (m : Mem) : Prop :=
  opCode m = opSnapshot ∨ opCode m = opQuery → env.realloc ≠ none

/-- The bytes of a reply that was written into the buffer. -/
theorem filled_complete {result : MsgBuffer} {returnCode : ReturnCode}
    {objReturn : Option BsonObj} (room : replyLength objReturn ≤ result.allocated) :
    let after := result.filled (replyMessage returnCode objReturn)
    messageLen after.contents ≤ after.allocated ∧
      readBytes after.contents 0 (messageLen after.contents).toNat =
        replyMessage returnCode objReturn := by
  intro after
  have spelled : readBytes after.contents 0 (replyLength objReturn) =
      replyMessage returnCode objReturn := by
    rw [← replyMessage_length returnCode]
    exact readBytes_writeBytes_self _ 0 _
  have length : messageLen after.contents = replyLength objReturn :=
    messageLen_of_spells (replyLength_bounds objReturn).2 (replyMessage_spells spelled)
  have same : after.allocated = result.allocated := rfl
  rw [length, Int.toNat_natCast]
  exact ⟨by omega, spelled⟩

/-- A reply is complete exactly if the buffer can grow for the object it carries.  Otherwise
the bytes passed to `pmdSend` are those that stood in the buffer before. -/
theorem completeReply_iff {result : MsgBuffer} {out : AgentOutcome Store} (exact_ : result.Exact)
    (start : result.allocated = sizeofMsgReply)
    (processed : pmdProcessAgentRequest env m result store = some out)
    (connected : out.disconnect = false) :
    CompleteReply env m store out ↔ ReplyGranted env m := by
  obtain ⟨done, dispatched, rest⟩ := Option.bind_eq_some_iff.mp processed
  have stays : done.disconnect = false := by
    by_contra leaves
    rw [Bool.not_eq_false] at leaves
    rw [if_pos leaves] at rest
    cases rest
    cases connected
  rw [if_neg (by rw [stays]; exact Bool.false_ne_true)] at rest
  obtain ⟨⟨code, after⟩, built, same⟩ := Option.map_eq_some_iff.mp rest
  cases same
  have complete : (messageLen after.contents ≤ after.allocated ∧
      readBytes after.contents 0 (messageLen after.contents).toNat =
        replyMessage done.rc (replyObject (opCode m) done.retObj)) ↔
      ReplyGranted env m := by
    have size := exact_.size
    rw [msgBuildReply_result exact_.sound] at built
    by_cases object : opCode m = opSnapshot ∨ opCode m = opQuery
    · have carried : replyObject (opCode m) done.retObj = some done.retObj := if_pos object
      have length : replyLength (some done.retObj) = sizeofMsgReply + done.retObj.objsize := rfl
      have headed := done.retObj.objsize_ge
      rw [carried] at built ⊢
      rw [if_neg (by omega)] at built
      cases granted : env.realloc with
      | some fresh =>
          rw [granted] at built
          cases built
          refine iff_of_true (filled_complete (Nat.le_refl _)) fun _ => ?_
          rw [granted]
          exact Option.some_ne_none fresh
      | none =>
          rw [granted] at built
          cases built
          refine iff_of_false ?_ fun grants => grants object granted
          rintro ⟨inside, encoded⟩
          -- sixteen bytes cannot be a reply with an object
          have bytes := congrArg List.length encoded
          rw [readBytes_length, replyMessage_length] at bytes
          omega
    · have plain : replyObject (opCode m) done.retObj = none := if_neg object
      have length : replyLength none = sizeofMsgReply := rfl
      rw [plain] at built ⊢
      rw [if_pos (by omega)] at built
      cases built
      refine iff_of_true (filled_complete ?_) fun carries => absurd carries object
      omega
  rw [← complete]
  constructor
  · rintro ⟨inside, encoded⟩
    exact ⟨inside, encoded done dispatched⟩
  · rintro ⟨inside, encoded⟩
    refine ⟨inside, fun other found => ?_⟩
    cases dispatched.symm.trans found
    exact encoded

/-! ### All replies of a connection -/

/-- A property of every reply that an agent is about to send in its next passes. -/
def EveryReply (id : EduId)
    (holds : Pass Store → ReceiveBuffer → Store → AgentOutcome Store → Prop) :
    List (Pass Store) → Agent Store → Prop
  | [], _ => True
  | pass :: passes, agent =>
      (∀ received out, Answering id pass agent received out →
        holds pass received agent.store out) ∧
      ∀ events next, agentPass id pass agent = some (events, .goesOn next) →
        EveryReply id holds passes next

/-- Parts that go on one after the other. -/
theorem Part.andThen_some {α β : Type} {part : Part α} {next : α → Part β}
    {events : List SocketEvent} {value : β}
    (done : part.andThen next = some (events, .goesOn value)) :
    ∃ first later middle, part = some (first, .goesOn middle) ∧
      next middle = some (later, .goesOn value) := by
  obtain ⟨⟨first, reached⟩, started, rest⟩ := Option.bind_eq_some_iff.mp done
  cases reached with
  | returns rc => cases rest
  | goesOn middle =>
      obtain ⟨⟨later, reached⟩, ended, same⟩ := Option.map_eq_some_iff.mp rest
      cases same
      exact ⟨first, later, middle, started, ended⟩

/-- After a pass the result buffer is of the same kind. -/
theorem agentPass_exact {next : Agent Store} {events : List SocketEvent}
    (exact_ : agent.result.Exact)
    (passed : agentPass id pass agent = some (events, .goesOn next)) : next.result.Exact := by
  obtain ⟨_, _, received, -, answered⟩ := Part.andThen_some passed
  obtain ⟨_, _, running, -, answered⟩ := Part.andThen_some answered
  obtain ⟨_, _, result, reset, answered⟩ := Part.andThen_some answered
  have started := (exact_.reset reset).1
  split at answered
  next => cases answered
  next out processed =>
    obtain ⟨_, _, _, -, answered⟩ := Part.andThen_some answered
    obtain ⟨_, _, waiting, -, answered⟩ := Part.andThen_some answered
    split at answered
    next => cases answered
    next connected =>
      cases answered
      obtain ⟨done, -, rest⟩ := Option.bind_eq_some_iff.mp processed
      split at rest
      next =>
        cases rest
        exact absurd rfl connected
      next =>
        obtain ⟨⟨code, after⟩, built, same⟩ := Option.map_eq_some_iff.mp rest
        cases same
        exact started.built built

/-- Where two properties agree on every reply, they agree on a run. -/
theorem EveryReply.congr
    {holds holds' : Pass Store → ReceiveBuffer → Store → AgentOutcome Store → Prop}
    (agree : ∀ {pass agent received out}, agent.result.Exact →
      Answering id pass agent received out →
        (holds pass received agent.store out ↔ holds' pass received agent.store out))
    {passes : List (Pass Store)} {agent : Agent Store} (exact_ : agent.result.Exact) :
    EveryReply id holds passes agent ↔ EveryReply id holds' passes agent := by
  induction passes generalizing agent with
  | nil => exact Iff.rfl
  | cons pass passes ih =>
      refine and_congr ?_ ?_
      · exact forall₂_congr fun received out => forall_congr' (agree exact_)
      · exact forall₂_congr fun events next =>
          forall_congr' fun passed => ih (agentPass_exact exact_ passed)

theorem Answering.completeReply_iff {received : ReceiveBuffer} {out : AgentOutcome Store}
    (exact_ : agent.result.Exact) (answering : Answering id pass agent received out) :
    CompleteReply pass.env received.contents agent.store out ↔
      ReplyGranted pass.env received.contents := by
  obtain ⟨events, result, reset, processed⟩ := answering.processed
  obtain ⟨started, start⟩ := exact_.reset reset
  exact EmeraldDb.completeReply_iff started start processed answering.connected

/-- Where a connection starts. -/
def Agent.start (contents fresh : Mem) (mgr : EduMgr) (store : Store) : Agent Store :=
  ⟨.init contents, freshResult fresh, mgr, store⟩

/-- All replies of a connection are complete exactly if realloc finds memory for every reply
that carries an object. -/
theorem repliesComplete_iff (id : EduId) (contents fresh : Mem) (mgr : EduMgr) (store : Store)
    (passes : List (Pass Store)) :
    EveryReply id (fun pass received store out =>
        CompleteReply pass.env received.contents store out) passes
        (.start contents fresh mgr store) ↔
      EveryReply id (fun pass received _ _ => ReplyGranted pass.env received.contents) passes
        (.start contents fresh mgr store) :=
  EveryReply.congr (fun exact_ answering => answering.completeReply_iff exact_)
    (MsgBuffer.Exact.fresh fresh)

end Session

/-! ### A snapshot without memory for its reply -/

def snapshotFrame : Frame where
  bytes := [8, 0, 0, 0, 8, 0, 0, 0]
  headed := by decide
  declared := by decide
  int := by decide

theorem snapshotFrame_serves : AgentEnv.plain.Serves snapshotFrame where
  prints obj _ := AgentEnv.plain_prints obj
  returns := by
    intro call asks store
    cases asks with
    | insert carries => exact absurd carries (not_carriesObjects (by decide))
    | find carries => exact ⟨edbOk, store, rfl⟩

/-- A snapshot request for whose reply realloc finds no memory. -/
def hungrySnapshot : Pass DmsFile :=
  { plainPass snapshotFrame with env := { AgentEnv.plain with realloc := none } }

/-- The agent sends what malloc left in the result buffer. -/
theorem hungrySnapshot_incomplete : ∃ file : DmsFile, file.Fresh ∧
    ¬ EveryReply 1 (fun pass received store out =>
        CompleteReply pass.env received.contents store out) [hungrySnapshot]
      (.start (fun _ => 0) (fun _ => 0) oneEdu file) := by
  obtain ⟨file, fresh⟩ := exists_fresh
  obtain ⟨received, arrives, -, fills⟩ := receiveFrame_frame
    (ReceiveBuffer.init_sound fun _ => 0) (by decide)
    (plainPass_admits snapshotFrame_serves 1 0)
  obtain ⟨running, activates, -⟩ := oneEdu_registered.activate (.inl rfl)
  have length : messageLen received.contents = 8 := fills.messageLen
  have code : opCode received.contents = opSnapshot := fills.opCode (by decide)
  have dispatched : dispatch hungrySnapshot.env received.contents file =
      some { Processed.idle edbOk file with retObj := snapshotObject } := by
    rw [dispatch, length, code]
    rfl
  have processed : pmdProcessAgentRequest hungrySnapshot.env received.contents
      (freshResult fun _ => 0) file =
        some ⟨edbOk, false, [], file, freshResult fun _ => 0, some edbOom⟩ := by
    rw [pmdProcessAgentRequest, dispatched, Option.bind_some, code]
    rw [msgBuildReply_result (MsgBuffer.Exact.fresh _).sound]
    rfl
  have answering : Answering 1 hungrySnapshot (.start (fun _ => 0) (fun _ => 0) oneEdu file)
      received ⟨edbOk, false, [], file, freshResult fun _ => 0, some edbOom⟩ := by
    refine ⟨⟨_, arrives⟩, ⟨[], running, ?_⟩, ⟨[], _, rfl, processed⟩, rfl⟩
    have called : (hungrySnapshot.beforeActivate oneEdu).activateEdu 1 = some (edbOk, running) :=
      activates
    show managerPart ((hungrySnapshot.beforeActivate oneEdu).activateEdu 1) = _
    rw [called]
    rfl
  refine ⟨file, fresh, fun every => ?_⟩
  have complete := every.1 received _ answering
  exact (answering.completeReply_iff (MsgBuffer.Exact.fresh _)).mp complete (.inl code) rfl

end EmeraldDb
