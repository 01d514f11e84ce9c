/-
Module: EmeraldDb.Proofs.AgentRequest
Purpose: What the server does with the requests that the client's builders produce:
  which runtime calls are made and what the reply says.
Trusted boundary: none
Main exports: Received, RepliesWith, process_of_done, PerformsAndReplies,
  request_agrees_iff
-/
import EmeraldDb.Pmd.Agent
import EmeraldDb.Proofs.MessageCodec
import EmeraldDb.Proofs.Opening

namespace EmeraldDb

open ByteMemory

/-! ### What a successful builder wrote -/

namespace MsgBuffer

theorem store_some {buffer stored : MsgBuffer} {a : Nat} {bytes : List UInt8}
    (done : buffer.store a bytes = some stored) :
    a + bytes.length ≤ buffer.allocated ∧ stored = buffer.after a bytes := by
  unfold store at done
  split at done
  · next room => exact ⟨room, (Option.some.inj done).symm⟩
  · cases done

/-- The fields were stored inside the block. -/
theorem storeInts_some {buffer stored : MsgBuffer} {a : Nat} {values : List Int}
    (done : buffer.storeInts a values = some stored) :
    (values = [] ∨ a + (intBytes values).length ≤ buffer.allocated) ∧
      stored = buffer.after a (intBytes values) := by
  induction values generalizing buffer a with
  | nil =>
      cases done
      exact ⟨Or.inl rfl, (stored.after_nil a).symm⟩
  | cons value values ih =>
      obtain ⟨next, here, beyond⟩ := Option.bind_eq_some_iff.mp done
      obtain ⟨room, rfl⟩ := store_some here
      obtain ⟨rest, same⟩ := ih beyond
      rw [u32Bytes_length] at room
      refine ⟨Or.inr ?_, ?_⟩
      · rw [intBytes_cons, List.length_append, u32Bytes_length]
        rcases rest with empty | fits
        · subst empty
          have none : (intBytes []).length = 0 := rfl
          omega
        · rw [after_allocated] at fits
          omega
      · rw [same, intBytes_cons]
        exact after_append buffer a (u32Bytes (toU32 value)) (intBytes values)

/-- The copy loop ended inside the block. -/
theorem storeObjects_some {buffer stored : MsgBuffer} {p : Nat} {objs : List BsonObj}
    (done : buffer.storeObjects p objs = some stored) :
    (objs = [] ∨ p + (objectBytes objs).length ≤ buffer.allocated) ∧
      stored = buffer.after p (objectBytes objs) := by
  induction objs generalizing buffer p with
  | nil =>
      cases done
      exact ⟨Or.inl rfl, (stored.after_nil p).symm⟩
  | cons obj objs ih =>
      obtain ⟨next, here, beyond⟩ := Option.bind_eq_some_iff.mp done
      obtain ⟨room, rfl⟩ := store_some here
      obtain ⟨rest, same⟩ := ih beyond
      have size : obj.bytes.length = obj.objsize := rfl
      refine ⟨Or.inr ?_, ?_⟩
      · rw [objectBytes_cons_length]
        rcases rest with empty | fits
        · subst empty
          have none : (objectBytes []).length = 0 := rfl
          omega
        · rw [after_allocated] at fits
          omega
      · rw [same, objectBytes_cons]
        exact after_append buffer p obj.bytes (objectBytes objs)

end MsgBuffer

/-- The check leaves the block alone or allocates what was asked for. -/
theorem msgCheckBuffer_allocated {realloc : Option Mem} {length : Int}
    {buffer checked : MsgBuffer} {rc : ReturnCode}
    (done : msgCheckBuffer realloc length buffer = some (rc, checked)) :
    checked.allocated = buffer.allocated ∨ checked.allocated = length.toNat := by
  unfold msgCheckBuffer at done
  split at done
  · split at done
    · cases done
      exact Or.inl rfl
    · split at done
      · cases done
      · cases realloc with
        | none =>
            cases done
            exact Or.inl rfl
        | some fresh =>
            cases done
            exact Or.inr rfl
  · cases done
    exact Or.inl rfl

/-- A builder that returned `EDB_OK` filled a checked buffer. -/
theorem msgBuild_ok {realloc : Option Mem} {size : Int}
    {fill : MsgBuffer → Option MsgBuffer} {buffer sent : MsgBuffer}
    (built : msgBuild realloc size fill buffer = some (edbOk, sent)) :
    ∃ checked, msgCheckBuffer realloc size buffer = some (edbOk, checked) ∧
      fill checked = some sent := by
  obtain ⟨⟨rc, checked⟩, check, rest⟩ := Option.bind_eq_some_iff.mp built
  by_cases failed : rc ≠ edbOk
  · simp only [failed, ne_eq, not_false_eq_true, if_true] at rest
    exact absurd (Prod.mk.inj (Option.some.inj rest)).1 failed
  · obtain rfl : rc = edbOk := Decidable.not_not.mp failed
    simp only [ne_eq, not_true_eq_false, if_false] at rest
    obtain ⟨filled, done, same⟩ := Option.map_eq_some_iff.mp rest
    obtain ⟨-, rfl⟩ := Prod.mk.inj same
    exact ⟨checked, check, done⟩

/-- A message with one object. -/
theorem msgBuildOne_spells {header : Nat} {code : Int} {body : List Int}
    {realloc : Option Mem} {obj : BsonObj} {buffer sent : MsgBuffer}
    (built : msgBuildOne header code body realloc obj buffer = some (edbOk, sent))
    (layout : header = 8 + 4 * body.length) (small : header ≤ 16) :
    Spells sent.contents ((header + obj.objsize : Nat) :: code :: body) obj.bytes := by
  have upper := obj.objsize_le
  have size : toI32 ((header : Int) + (obj.objsize : Int)) =
      (header + obj.objsize : Nat) := by
    rw [toI32_of_lt (by omega) (by omega), Int.natCast_add]
  rw [msgBuildOne, size] at built
  obtain ⟨checked, -, filled⟩ := msgBuild_ok built
  obtain ⟨fields, ints, object⟩ := Option.bind_eq_some_iff.mp filled
  obtain ⟨-, rfl⟩ := MsgBuffer.storeInts_some ints
  obtain ⟨-, rfl⟩ := MsgBuffer.store_some object
  have length : (intBytes ((header + obj.objsize : Nat) :: code :: body)).length =
      header := by
    rw [intBytes_length, List.length_cons, List.length_cons]
    omega
  have joined := checked.filled_append
    (intBytes ((header + obj.objsize : Nat) :: code :: body)) obj.bytes
  rw [length] at joined
  have written : Spells (checked.filled (intBytes ((header + obj.objsize : Nat) ::
      code :: body) ++ obj.bytes)).contents ((header + obj.objsize : Nat) :: code :: body)
      obj.bytes := Spells.of_written
  rwa [← joined] at written

theorem addSizes_lt {size : Int} (small : size < 2147483648) (objs : List BsonObj) :
    addSizes size objs < 2147483648 := by
  induction objs generalizing size with
  | nil => exact small
  | cons obj objs ih =>
      rw [addSizes, List.foldl_cons]
      exact ih (toI32_int _).2

/-- A message with a list of objects; `*pBufferSize` being an `int`, the loop can only
have stayed inside the block if the sum of the sizes did not wrap. -/
theorem msgBuildAll_spells {code : Int} {realloc : Option Mem} {objs : List BsonObj}
    {buffer sent : MsgBuffer} (int : buffer.allocated < 2147483648)
    (built : msgBuildAll sizeofMsgInsert code realloc objs buffer = some (edbOk, sent)) :
    sizeofMsgInsert + (objectBytes objs).length < 2147483648 ∧
      Spells sent.contents
        [(sizeofMsgInsert + (objectBytes objs).length : Nat), code, objs.length]
        (objectBytes objs) := by
  have header : sizeofMsgInsert = 12 := rfl
  have wrapped := addSizes_lt (show (sizeofMsgInsert : Int) < 2147483648 by decide) objs
  rw [msgBuildAll] at built
  obtain ⟨checked, check, filled⟩ := msgBuild_ok built
  obtain ⟨fields, ints, objects⟩ := Option.bind_eq_some_iff.mp filled
  obtain ⟨-, rfl⟩ := MsgBuffer.storeInts_some ints
  obtain ⟨room, rfl⟩ := MsgBuffer.storeObjects_some objects
  have allocated : checked.allocated < 2147483648 := by
    rcases msgCheckBuffer_allocated check with same | fresh
    · omega
    · omega
  have fits : sizeofMsgInsert + (objectBytes objs).length < 2147483648 := by
    rcases room with empty | room
    · subst empty
      decide
    · rw [MsgBuffer.after_allocated] at room
      omega
  have counted := length_le_objectBytes objs
  have count : toI32 (objs.length : Int) = objs.length := toI32_of_lt (by omega) (by omega)
  have length : (intBytes [(sizeofMsgInsert + (objectBytes objs).length : Nat), code,
      objs.length]).length = sizeofMsgInsert := intBytes_length _
  have joined := checked.filled_append (intBytes
    [(sizeofMsgInsert + (objectBytes objs).length : Nat), code, objs.length])
    (objectBytes objs)
  rw [length] at joined
  have written : Spells (checked.filled (intBytes
      [(sizeofMsgInsert + (objectBytes objs).length : Nat), code, objs.length] ++
        objectBytes objs)).contents
      [(sizeofMsgInsert + (objectBytes objs).length : Nat), code, objs.length]
      (objectBytes objs) := Spells.of_written
  rw [← joined] at written
  refine ⟨fits, ?_⟩
  rw [addSizes_eq fits, count]
  exact written

/-! ### What the server finds in the message -/

/-- The server's buffer starts with the frame that was sent; what stands behind it is
whatever the buffer held. -/
def Received (sent : MsgBuffer) (m : Mem) : Prop :=
  readBytes m 0 (messageLen sent.contents).toNat =
    readBytes sent.contents 0 (messageLen sent.contents).toNat

/-- A received frame spells what the builder wrote. -/
theorem Received.spells {sent : MsgBuffer} {m : Mem} {size : Nat} {code : Int}
    {body : List Int} {data : List UInt8} (received : Received sent m)
    (fits : size < 2147483648)
    (length : (intBytes (size :: code :: body) ++ data).length = size)
    (spelled : Spells sent.contents (size :: code :: body) data) :
    Spells m (size :: code :: body) data := by
  have whole : readBytes sent.contents 0 size =
      intBytes (size :: code :: body) ++ data := by
    have spelled' : readBytes sent.contents 0
        (intBytes (size :: code :: body) ++ data).length =
          intBytes (size :: code :: body) ++ data := spelled
    rwa [length] at spelled'
  have same : readBytes m 0 size = readBytes sent.contents 0 size := by
    rw [Received, messageLen_of_spells fits spelled, Int.toNat_natCast] at received
    exact received
  rw [Spells, length, same, whole]

/-- A well-formed object whose first field is named `_id`. -/
structure BsonObj.StartsWithKey (obj : BsonObj) : Prop where
  long : 9 ≤ obj.objsize
  key : firstFieldIsKey (ofBytes obj.bytes) 0 = true

/-- The check looks at the object's own bytes only. -/
theorem BsonObj.StartsWithKey.found {obj : BsonObj} (starts : obj.StartsWithKey) {m : Mem}
    {a : Nat} (spelled : readBytes m a obj.objsize = obj.bytes) :
    firstFieldIsKey m a = true := by
  have long := starts.long
  have bytewise : ∀ i, i < obj.objsize → m (a + i) = ofBytes obj.bytes i := by
    intro i below
    rw [← spelled, ofBytes, List.getD_eq_getElem _ _ (by simpa using below),
      readBytes_getElem]
  have name : readBytes m (a + 5) 4 = readBytes (ofBytes obj.bytes) (0 + 5) 4 := by
    apply List.map_congr_left
    intro i member
    have below := List.mem_range.mp member
    rw [Nat.add_assoc, bytewise (5 + i) (by omega), Nat.zero_add]
  have type : m (a + 4) = ofBytes obj.bytes (0 + 4) := by
    rw [bytewise 4 (by omega), Nat.zero_add]
  rw [firstFieldIsKey, type, name]
  exact starts.key

section Request

variable {Store : Type} {env : AgentEnv Store} {m : Mem} {store : Store}

/-- Printing a well-formed object succeeds, wherever it lies. -/
def AgentEnv.Prints (env : AgentEnv Store) (obj : BsonObj) : Prop :=
  ∀ m a, readBytes m a obj.objsize = obj.bytes → env.toString m a = some (.returns ())

/-- An insert message with at least one object makes one runtime call, for the first. -/
theorem dispatch_insert {size count : Nat} {obj : BsonObj} {rest : List UInt8}
    (prints : env.Prints obj) (starts : obj.StartsWithKey)
    (lower : sizeofMsgInsert ≤ size) (fits : size < 2147483648) (positive : 0 < count)
    (counted : count < 2147483648)
    (spelled : Spells m [(size : Int), opInsert, count] (obj.bytes ++ rest)) :
    dispatch env m store = performCall env (.insert obj.bytes) store := by
  have header : sizeofMsgHeader = 8 := rfl
  have insert : sizeofMsgInsert = 12 := rfl
  have long := starts.long
  have here : readBytes m sizeofMsgInsert obj.objsize = obj.bytes :=
    (readBytes_eq_append spelled.data_eq).1
  have length := messageLen_of_spells fits spelled
  have code : opCode m = opInsert := opCode_of_spells (by decide) (by decide) spelled
  have extracted := msgExtractCounted_of_spells lower fits (by decide) (by decide) counted
    spelled
  rw [if_neg (by omega)] at extracted
  have found := bsonObjAt_of_spelled here
  have size : obj.bytes.length = obj.objsize := rfl
  rw [dispatch, length, code, if_neg (by omega), if_pos rfl, processInsert,
    msgExtractInsert, extracted]
  dsimp only
  rw [found]
  dsimp only
  rw [afterToString, prints m sizeofMsgInsert here]
  dsimp only
  rw [if_neg (by omega), starts.found here, if_neg (by decide)]

/-- A query message makes the runtime call for its key. -/
theorem dispatch_query {size : Nat} {key : BsonObj} (prints : env.Prints key)
    (lower : sizeofMsgHeader ≤ size) (fits : size < 2147483648)
    (spelled : Spells m [(size : Int), opQuery] key.bytes) :
    dispatch env m store = performCall env (.find key.bytes) store := by
  have here : readBytes m sizeofMsgHeader key.objsize = key.bytes := spelled.data_eq
  have length := messageLen_of_spells fits spelled
  have code : opCode m = opQuery := opCode_of_spells (by decide) (by decide) spelled
  have extracted := msgExtractKey_of_spells (by omega) code spelled
  rw [dispatch, length, code, if_neg (by omega), if_neg (by decide), if_pos rfl,
    processQuery, processKey, msgExtractQuery, extracted]
  dsimp only
  rw [afterToString, prints m sizeofMsgHeader here]

/-- The delete branch extracts the key of a query, so it refuses every delete. -/
theorem dispatch_delete {size : Nat} {data : List UInt8} (lower : sizeofMsgHeader ≤ size)
    (fits : size < 2147483648) (spelled : Spells m [(size : Int), opDelete] data) :
    dispatch env m store = some (.idle edbInvalidArg store) := by
  have length := messageLen_of_spells fits spelled
  have code : opCode m = opDelete := opCode_of_spells (by decide) (by decide) spelled
  have refused : msgExtractQuery m = .returns (.error edbInvalidArg) :=
    msgExtractKey_refuses code (by decide)
  rw [dispatch, length, code, if_neg (by omega), if_neg (by decide), if_neg (by decide),
    if_pos rfl, processDelete, processKey, refused]

/-! ### The reply -/

/-- The number of bytes of a reply. -/
def replyLength (objReturn : Option BsonObj) : Nat :=
  sizeofMsgReply + (objReturn.map BsonObj.objsize).getD 0

/-- There is room for the reply, or realloc finds some. -/
def CanReply (env : AgentEnv Store) (objReturn : Option BsonObj) (result : MsgBuffer) :
    Prop :=
  replyLength objReturn ≤ result.size ∨ env.realloc ≠ none

/-- The buffer that pmdAgentEntryPoint hands over: allocated, and at least one reply
without an object long. -/
structure ResultBuffer (result : MsgBuffer) : Prop where
  sound : result.Sound
  room : sizeofMsgReply ≤ result.size

/-- The size the reply builder asks for. -/
theorem msgBuildReply_eq (returnCode : ReturnCode) (objReturn : Option BsonObj) :
    ∃ fill, ∀ realloc buffer,
      msgBuildReply realloc returnCode objReturn buffer =
        msgBuild realloc (replyLength objReturn) fill buffer := by
  cases objReturn with
  | none =>
      exact ⟨fun buffer => buffer.storeInts 0 [sizeofMsgReply, opReply, returnCode, 0],
        fun _ _ => rfl⟩
  | some obj =>
      have upper := obj.objsize_le
      have header : sizeofMsgReply = 16 := rfl
      have size : toI32 ((sizeofMsgReply : Int) + (obj.objsize : Int)) =
          (replyLength (some obj) : Nat) := by
        have length : replyLength (some obj) = sizeofMsgReply + obj.objsize := rfl
        rw [length, toI32_of_lt (by omega) (by omega), Int.natCast_add]
      refine ⟨fun buffer =>
        (buffer.storeInts 0 [(replyLength (some obj) : Nat), opReply, returnCode, 1]).bind
          fun buffer => buffer.store sizeofMsgReply obj.bytes, fun realloc buffer => ?_⟩
      rw [msgBuildReply, msgBuildOne, size]

/-- The reply is built exactly when there is room; otherwise the buffer is as it was. -/
theorem msgBuildReply_cases {result : MsgBuffer} (sound : result.Sound)
    {returnCode : ReturnCode} (low : -2147483648 ≤ returnCode)
    (high : returnCode < 2147483648) (objReturn : Option BsonObj) :
    (CanReply env objReturn result ∧ ∃ after,
      msgBuildReply env.realloc returnCode objReturn result = some (edbOk, after) ∧
        ReplyRoundTrip returnCode objReturn after.contents) ∨
    (¬ CanReply env objReturn result ∧
      msgBuildReply env.realloc returnCode objReturn result = some (edbOom, result)) := by
  obtain ⟨fill, asked⟩ := msgBuildReply_eq returnCode objReturn
  cases granted : env.realloc with
  | some fresh =>
      left
      obtain ⟨after, wrote, trip, -⟩ :=
        reply_roundTrip sound fresh low high objReturn
      refine ⟨Or.inr ?_, after, wrote.returned, trip⟩
      rw [granted]
      exact Option.some_ne_none fresh
  | none =>
      by_cases room : (replyLength objReturn : Int) ≤ result.size
      · left
        obtain ⟨after, wrote, trip, -⟩ :=
          reply_roundTrip sound (fun _ => 0) low high objReturn
        refine ⟨Or.inl room, after, ?_, trip⟩
        rw [asked, msgBuild_of_room room none (some fun _ => 0), ← asked]
        exact wrote.returned
      · right
        refine ⟨?_, ?_⟩
        · rintro (fits | allocated)
          · exact room fits
          · exact allocated granted
        · rw [asked]
          exact msgBuild_refused sound (Int.lt_of_not_ge room)

/-- The reply was built, and it carries the return code. -/
def RepliesWith (out : AgentOutcome Store) (rc : ReturnCode) : Prop :=
  out.built = some edbOk ∧
    ∃ reply, msgExtraReply out.result.contents = .ok reply ∧ reply.returnCode = rc

theorem RepliesWith.unique {out : AgentOutcome Store} {rc rc' : ReturnCode}
    (one : RepliesWith out rc) (other : RepliesWith out rc') : rc = rc' := by
  obtain ⟨-, reply, extracted, rfl⟩ := one
  obtain ⟨-, reply', extracted', rfl⟩ := other
  rw [extracted] at extracted'
  cases extracted'
  rfl

theorem edbInvalidArg_int : -2147483648 ≤ edbInvalidArg ∧ edbInvalidArg < 2147483648 := by
  decide

/-- From the label `done` on: the reply is built, or realloc fails and the buffer still
holds what it held. -/
theorem process_of_done {result : MsgBuffer} (buffer : ResultBuffer result)
    {done : Processed Store} (dispatched : dispatch env m store = some done)
    (connected : done.disconnect = false) (low : -2147483648 ≤ done.rc)
    (high : done.rc < 2147483648) :
    ∃ out, pmdProcessAgentRequest env m result store = some out ∧
      out.calls = done.calls ∧ out.store = done.store ∧
      (CanReply env (replyObject (opCode m) done.retObj) result ∧ RepliesWith out done.rc ∨
        ¬ CanReply env (replyObject (opCode m) done.retObj) result ∧
          out.built = some edbOom) := by
  rcases msgBuildReply_cases buffer.sound low high
      (replyObject (opCode m) done.retObj) with ⟨can, after, built, trip⟩ | ⟨cannot, built⟩
  · refine ⟨⟨done.rc, false, done.calls, done.store, after, some edbOk⟩, ?_, rfl, rfl,
      Or.inl ⟨can, rfl, _, trip.extracted, rfl⟩⟩
    rw [pmdProcessAgentRequest, dispatched, Option.bind_some, connected, built]
    rfl
  · refine ⟨⟨done.rc, false, done.calls, done.store, result, some edbOom⟩, ?_, rfl, rfl,
      Or.inr ⟨cannot, rfl⟩⟩
    rw [pmdProcessAgentRequest, dispatched, Option.bind_some, connected, built]
    rfl

/-- A reply without an object always fits. -/
theorem ResultBuffer.canReply {result : MsgBuffer} (buffer : ResultBuffer result) :
    CanReply env none result := Or.inl buffer.room

/-! ### Client and server agree on an operation -/

/-- The request makes exactly the runtime call `call` and, if that returns a code,
replies with it. -/
def PerformsAndReplies (env : AgentEnv Store) (m : Mem) (result : MsgBuffer)
    (store : Store) (call : RtnCall) : Prop :=
  match env.runtime.call call store with
  | none => pmdProcessAgentRequest env m result store = none
  | some (.throws, after) =>
      ∃ out, pmdProcessAgentRequest env m result store = some out ∧
        out.calls = [call] ∧ out.store = after
  | some (.returns rc, after) =>
      ∃ out, pmdProcessAgentRequest env m result store = some out ∧
        out.calls = [call] ∧ out.store = after ∧ RepliesWith out rc

/-- The record operations of the client. -/
inductive RecordOp where
  | insert
  | query
  | delete
deriving DecidableEq, Repr

namespace RecordOp

/-- The builder that the client hands to `sendOrder`. -/
def build : RecordOp → Option Mem → BsonObj → MsgBuffer → Option (ReturnCode × MsgBuffer)
  | .insert => msgBuildInsert
  | .query => msgBuildQuery
  | .delete => msgBuildDelete

/-- The runtime call the operation stands for. -/
def call (bytes : List UInt8) : RecordOp → RtnCall
  | .insert => .insert bytes
  | .query => .find bytes
  | .delete => .remove bytes

end RecordOp

/-- A request that comes down to one runtime call is served as soon as the reply fits. -/
theorem performsAndReplies_of_call {result : MsgBuffer} (buffer : ResultBuffer result)
    {call : RtnCall} (dispatched : dispatch env m store = performCall env call store) :
    PerformsAndReplies env m result store call ↔
      ∀ rc after, env.runtime.call call store = some (.returns rc, after) →
        CanReply env (replyObject (opCode m) .empty) result := by
  rw [PerformsAndReplies]
  cases called : env.runtime.call call store with
  | none =>
      rw [performCall, called] at dispatched
      dsimp only
      constructor
      · intro _ rc after returned
        cases returned
      · intro _
        rw [pmdProcessAgentRequest, dispatched]
        rfl
  | some answer =>
      obtain ⟨completion, after⟩ := answer
      cases completion with
      | throws =>
          rw [performCall, called] at dispatched
          dsimp only
          constructor
          · intro _ rc after returned
            cases returned
          · intro _
            obtain ⟨out, processed, calls, stored, -⟩ :=
              process_of_done buffer dispatched rfl edbInvalidArg_int.1 edbInvalidArg_int.2
            exact ⟨out, processed, calls, stored⟩
      | returns rc =>
          rw [performCall, called] at dispatched
          dsimp only
          obtain ⟨low, high⟩ := env.runtime.int called
          obtain ⟨out, processed, calls, stored, reply⟩ :=
            process_of_done buffer dispatched rfl low high
          constructor
          · rintro ⟨out', processed', -, -, built, -⟩ _ _ _
            obtain rfl : out = out' := Option.some.inj (processed.symm.trans processed')
            rcases reply with ⟨can, -⟩ | ⟨-, failed⟩
            · exact can
            · rw [failed] at built
              exact absurd (Option.some.inj built) (by decide)
          · intro can
            rcases reply with ⟨-, replies⟩ | ⟨cannot, -⟩
            · exact ⟨out, processed, calls, stored, replies⟩
            · exact absurd (can rc after rfl) cannot

/-- A request that makes no runtime call serves none. -/
theorem not_performsAndReplies_of_idle {result : MsgBuffer} (buffer : ResultBuffer result)
    {call : RtnCall}
    (dispatched : dispatch env m store = some (.idle edbInvalidArg store)) :
    ¬ PerformsAndReplies env m result store call := by
  obtain ⟨out, processed, calls, -⟩ :=
    process_of_done buffer dispatched rfl edbInvalidArg_int.1 edbInvalidArg_int.2
  have none_made : ∀ out', pmdProcessAgentRequest env m result store = some out' →
      out'.calls ≠ [call] := by
    intro out' processed'
    obtain rfl : out = out' := Option.some.inj (processed.symm.trans processed')
    rw [calls]
    exact (List.cons_ne_nil call []).symm
  rw [PerformsAndReplies]
  cases env.runtime.call call store with
  | none =>
      intro stuck
      rw [processed] at stuck
      cases stuck
  | some answer =>
      obtain ⟨completion, after⟩ := answer
      cases completion with
      | throws =>
          rintro ⟨out', processed', made, -⟩
          exact none_made out' processed' made
      | returns rc =>
          rintro ⟨out', processed', made, -⟩
          exact none_made out' processed' made

/-- A record operation that the client sends is performed and answered exactly when it is
not a delete and, for a query that comes back, the reply finds room. -/
theorem request_agrees_iff {op : RecordOp} {obj : BsonObj} {realloc : Option Mem}
    {buffer sent result : MsgBuffer} (prints : env.Prints obj)
    (keyed : op = .insert → obj.StartsWithKey)
    (built : op.build realloc obj buffer = some (edbOk, sent)) (received : Received sent m)
    (room : ResultBuffer result) :
    PerformsAndReplies env m result store (op.call obj.bytes) ↔
      op ≠ .delete ∧
        (op = .query →
          ∀ rc after, env.runtime.call (.find obj.bytes) store = some (.returns rc, after) →
            CanReply env (some .empty) result) := by
  have upper := obj.objsize_le
  have header : sizeofMsgHeader = 8 := rfl
  have insert : sizeofMsgInsert = 12 := rfl
  have size : obj.bytes.length = obj.objsize := rfl
  cases op with
  | insert =>
      have written := msgBuildOne_spells built rfl (by decide)
      have spelled := received.spells (by omega)
        (by rw [List.length_append, intBytes_length]; rfl) written
      rw [← List.append_nil obj.bytes] at spelled
      have code : opCode m = opInsert := opCode_of_spells (by decide) (by decide) spelled
      have dispatched : dispatch env m store = performCall env (.insert obj.bytes) store :=
        dispatch_insert prints (keyed rfl) (Nat.le_add_right _ _) (by omega) Nat.one_pos
          (by decide) spelled
      rw [RecordOp.call, performsAndReplies_of_call room dispatched, code]
      constructor
      · intro _
        exact ⟨by decide, fun other => absurd other (by decide)⟩
      · intro _ rc after _
        exact room.canReply
  | query =>
      have written := msgBuildOne_spells built rfl (by decide)
      have spelled := received.spells (by omega)
        (by rw [List.length_append, intBytes_length]; rfl) written
      have code : opCode m = opQuery := opCode_of_spells (by decide) (by decide) spelled
      have dispatched : dispatch env m store = performCall env (.find obj.bytes) store :=
        dispatch_query prints (Nat.le_add_right _ _) (by omega) spelled
      rw [RecordOp.call, performsAndReplies_of_call room dispatched, code]
      constructor
      · intro can
        exact ⟨by decide, fun _ => can⟩
      · intro condition
        exact condition.2 rfl
  | delete =>
      have written := msgBuildOne_spells built rfl (by decide)
      have spelled := received.spells (by omega)
        (by rw [List.length_append, intBytes_length]; rfl) written
      have dispatched : dispatch env m store = some (.idle edbInvalidArg store) :=
        dispatch_delete (Nat.le_add_right _ _) (by omega) spelled
      constructor
      · intro served
        exact absurd served (not_performsAndReplies_of_idle room dispatched)
      · intro condition
        exact absurd rfl condition.1

end Request

/-! ### A server on a data file -/

/-- The server in front of `rtn`: every object prints, and there is memory. -/
def AgentEnv.plain : AgentEnv DmsFile where
  runtime := rtn []
  toString := fun _ _ => some (.returns ())
  firstElement := fun _ _ => some ()
  realloc := some fun _ => 0

theorem AgentEnv.plain_prints (obj : BsonObj) : AgentEnv.plain.Prints obj :=
  fun _ _ _ => rfl

/-- The result buffer that pmdAgentEntryPoint allocates first. -/
def agentResult : MsgBuffer where
  size := sizeofMsgReply
  allocated := sizeofMsgReply
  heap := true
  contents := fun _ => 0

theorem agentResult_resultBuffer : ResultBuffer agentResult :=
  ⟨⟨rfl, Int.le_refl _⟩, Int.le_refl _⟩

/-- The buffer of a client that has sent nothing yet. -/
def clientBuffer : MsgBuffer where
  size := 0
  allocated := 0
  heap := true
  contents := fun _ => 0

theorem clientBuffer_sound : clientBuffer.Sound := ⟨rfl, Int.le_refl 0⟩

/-- A query for a key with an `_id` is performed and answered. -/
theorem request_agrees_iff_query : ∃ (file : DmsFile) (sent : MsgBuffer),
    file.Fresh ∧
      msgBuildQuery (some fun _ => 0) (binDataRecord [] (by decide)) clientBuffer =
          some (edbOk, sent) ∧
        PerformsAndReplies .plain sent.contents agentResult file
          (.find (binDataRecord [] (by decide)).bytes) := by
  obtain ⟨file, fresh⟩ := exists_fresh
  obtain ⟨sent, wrote, -⟩ := key_roundTrip clientBuffer_sound (fun _ => 0) opQuery
    (by decide) (by decide) (binDataRecord [] (by decide))
  have built : RecordOp.query.build (some fun _ => 0) (binDataRecord [] (by decide))
      clientBuffer = some (edbOk, sent) := wrote.returned
  have agrees : PerformsAndReplies .plain sent.contents agentResult file
      (RecordOp.query.call (binDataRecord [] (by decide)).bytes) :=
    (request_agrees_iff (AgentEnv.plain_prints (binDataRecord [] (by decide)))
      (fun other => absurd other (by decide)) built rfl agentResult_resultBuffer).mpr
        ⟨by decide, fun _ _ _ _ => Or.inr (Option.some_ne_none _)⟩
  exact ⟨file, sent, fresh, built, agrees⟩

/-- A delete is refused, whatever the store holds: `rtnRemove` is never called. -/
theorem delete_not_performed : ∃ sent : MsgBuffer,
    msgBuildDelete (some fun _ => 0) (binDataRecord [] (by decide)) clientBuffer =
        some (edbOk, sent) ∧
      ∀ file : DmsFile, ¬ PerformsAndReplies .plain sent.contents agentResult file
        (.remove (binDataRecord [] (by decide)).bytes) := by
  have size := binDataRecord_objsize [] (by decide)
  obtain ⟨length, granted⟩ := msgBuildOne_granted clientBuffer_sound (fun _ => 0)
    sizeofMsgHeader opDelete [] (binDataRecord [] (by decide)) rfl (by decide)
  obtain ⟨sent, wrote, spelled⟩ :=
    wrote_of_granted clientBuffer_sound (by rw [size]; decide) length granted
  refine ⟨sent, wrote.returned, fun file => ?_⟩
  have dispatched : dispatch .plain sent.contents file =
      some (.idle edbInvalidArg file) :=
    dispatch_delete (Nat.le_add_right _ _) (by rw [size]; decide) spelled
  exact not_performsAndReplies_of_idle agentResult_resultBuffer dispatched

end EmeraldDb
