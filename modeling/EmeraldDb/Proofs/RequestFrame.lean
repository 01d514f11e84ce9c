/-
Module: EmeraldDb.Proofs.RequestFrame
Purpose: A request frame in the receive buffer: how it gets there, what processing it
  comes to, and the bytes of the reply.
Trusted boundary: none
Main exports: Frame, Frame.Fills, Frame.receivePacket, Frame.Complete, Concluded,
  Frame.dispatched, replyMessage, process_granted
-/
import EmeraldDb.Pmd.ReceiveBuffer
import EmeraldDb.Proofs.AgentRequest
import EmeraldDb.Proofs.ReceiveBuffer

namespace EmeraldDb

open ByteMemory

/-! ### Frames -/

/-- A frame: it opens with its own length, an `int`. -/
structure Frame where
  bytes : List UInt8
  headed : 4 ≤ bytes.length
  declared : readU32 (ofBytes bytes) 0 = bytes.length
  int : bytes.length < 2147483648

namespace Frame

/-- The declared length. -/
def length (frame : Frame) : Nat := frame.bytes.length

/-- The `int` at an offset of the frame. -/
def intAt (frame : Frame) (i : Nat) : Int := intAtAddress (ofBytes frame.bytes) i

/-- The operation, if the frame is long enough to have one. -/
def opCode? (frame : Frame) : Option Int :=
  if sizeofMsgHeader ≤ frame.length then some (frame.intAt 4) else none

/-- The memory opens with the frame and the terminating zero. -/
def Fills (frame : Frame) (m : Mem) : Prop :=
  readBytes m 0 (frame.length + 1) = frame.bytes ++ [0]

variable {frame : Frame} {m m' : Mem}

theorem fills_written (frame : Frame) (m : Mem) :
    frame.Fills (writeBytes m 0 (frame.bytes ++ [0])) := by
  have written := readBytes_writeBytes_self m 0 (frame.bytes ++ [0])
  rwa [List.length_append] at written

theorem Fills.spelled (fills : frame.Fills m) :
    readBytes m 0 frame.length = frame.bytes := by
  have both : readBytes m 0 (frame.bytes ++ [0]).length = frame.bytes ++ [0] := by
    rw [List.length_append]
    exact fills
  exact (readBytes_eq_append both).1

theorem Fills.intAt (fills : frame.Fills m) {i : Nat} (inside : i + 4 ≤ frame.length) :
    intAtAddress m i = frame.intAt i := by
  have word := readU32_eq_ofBytes fills.spelled inside
  rw [Nat.zero_add] at word
  rw [intAtAddress, word]
  rfl

theorem intAt_zero (frame : Frame) : frame.intAt 0 = frame.length := by
  have int := frame.int
  rw [Frame.intAt, intAtAddress, frame.declared]
  exact toI32_of_lt (by omega) (by omega)

theorem Fills.messageLen (fills : frame.Fills m) : messageLen m = frame.length :=
  (fills.intAt frame.headed).trans frame.intAt_zero

theorem Fills.opCode (fills : frame.Fills m) {code : Int}
    (named : frame.opCode? = some code) : opCode m = code := by
  rw [opCode?] at named
  split at named
  next long =>
    have here := fills.intAt (i := 4) long
    exact here.trans (Option.some.inj named)
  next => cases named

theorem opCode?_long {code : Int} (named : frame.opCode? = some code) :
    sizeofMsgHeader ≤ frame.length := by
  rw [opCode?] at named
  split at named
  next long => exact long
  next => cases named

/-- A frame that starts with fields and data is found in the buffer. -/
theorem Fills.spells (fills : frame.Fills m) {values : List Int} {data tail : List UInt8}
    (shape : frame.bytes = intBytes values ++ (data ++ tail)) : Spells m values data := by
  have spelled : readBytes m 0 ((intBytes values ++ data) ++ tail).length =
      (intBytes values ++ data) ++ tail := by
    rw [List.append_assoc, ← shape]
    exact fills.spelled
  exact (readBytes_eq_append spelled).1

end Frame

/-! ### Receiving a frame -/

namespace ReceiveBuffer

variable {buffer reserved received : ReceiveBuffer} {word : Nat} {malloc : Option Mem}

/-- The length prefix is in the buffer that the body goes to. -/
theorem reserve_contents (small : word < 4294967296)
    (done : buffer.reserve word malloc = .ok reserved) :
    ∃ contents, (contents = buffer.contents ∨ malloc = some contents) ∧
      reserved.contents = writeBytes contents 0 (u32Bytes word) := by
  have same : toU32 (toI32 word) = word := by
    unfold toU32 toI32
    omega
  rw [reserve] at done
  dsimp only at done
  split at done
  next => cases done
  next =>
    split at done
    next =>
      split at done
      next => cases done
      next =>
        cases malloc with
        | none => cases done
        | some contents =>
            cases done
            refine ⟨contents, Or.inr rfl, ?_⟩
            dsimp only
            rw [same]
            rfl
    next =>
      cases done
      exact ⟨buffer.contents, Or.inl rfl, rfl⟩

/-- With memory, the buffer is made ready for every frame that the rounded size of still
is an `int`. -/
theorem reserve_granted {length : Nat} (lower : 4 ≤ length)
    (upper : length ≤ 2147479551) (contents : Mem) (buffer : ReceiveBuffer) :
    ∃ reserved, buffer.reserve length (some contents) = .ok reserved := by
  have declared : toI32 (length : Int) = length := toI32_of_lt (by omega) (by omega)
  have next : toI32 ((length : Int) + 1) = length + 1 := toI32_of_lt (by omega) (by omega)
  have rounded := ossRoundUp_of_fits (x := (length : Int) + 1) (by omega) (by omega)
  rw [reserve]
  dsimp only
  rw [declared, next, if_neg (by omega)]
  split
  next =>
    rw [if_neg (by omega)]
    exact ⟨_, rfl⟩
  next => exact ⟨_, rfl⟩

end ReceiveBuffer

namespace Frame

variable {frame : Frame} {buffer reserved received : ReceiveBuffer} {malloc : Option Mem}

/-- The four bytes of the length prefix. -/
def lengthBytes (frame : Frame) : List UInt8 := frame.bytes.take 4

/-- The bytes behind the length prefix. -/
def body (frame : Frame) : List UInt8 := frame.bytes.drop 4

theorem lengthBytes_append_body (frame : Frame) :
    frame.lengthBytes ++ frame.body = frame.bytes := List.take_append_drop 4 frame.bytes

theorem lengthBytes_length (frame : Frame) : frame.lengthBytes.length = 4 := by
  have headed := frame.headed
  rw [lengthBytes, List.length_take]
  omega

theorem body_length (frame : Frame) : frame.body.length = frame.length - 4 :=
  List.length_drop

theorem declared_lengthBytes (frame : Frame) :
    readU32 (ofBytes frame.lengthBytes) 0 = frame.length := by
  have whole : readBytes (ofBytes frame.bytes) 0 (frame.lengthBytes ++ frame.body).length =
      frame.lengthBytes ++ frame.body := by
    rw [frame.lengthBytes_append_body]
    exact readBytes_ofBytes frame.bytes
  have front := (readBytes_eq_append whole).1
  rw [frame.lengthBytes_length] at front
  have word := readU32_eq_ofBytes (i := 0) front (Nat.le_refl 4)
  exact word.symm.trans frame.declared

theorem u32Bytes_length_eq (frame : Frame) : u32Bytes frame.length = frame.lengthBytes := by
  have length := frame.lengthBytes_length
  rw [← frame.declared_lengthBytes, u32Bytes_readU32, ← length]
  exact readBytes_ofBytes frame.lengthBytes

theorem toI32_length (frame : Frame) : toI32 (frame.length : Int) = frame.length := by
  have int := frame.int
  have same : frame.length = frame.bytes.length := rfl
  exact toI32_of_lt (by omega) (by omega)

/-- The body of a frame completes it: the buffer opens with the frame. -/
theorem receiveBody (done : buffer.reserve frame.length malloc = .ok reserved)
    (body : reserved.receiveBody frame.length frame.body = some received) :
    ∃ contents, (contents = buffer.contents ∨ malloc = some contents) ∧
      received.contents = writeBytes contents 0 (frame.bytes ++ [0]) := by
  have int := frame.int
  have same : frame.length = frame.bytes.length := rfl
  obtain ⟨contents, origin, written⟩ :=
    ReceiveBuffer.reserve_contents (show frame.length < 4294967296 by omega) done
  rw [ReceiveBuffer.receiveBody] at body
  split at body
  next =>
    cases body
    refine ⟨contents, origin, ?_⟩
    dsimp only
    have front := writeBytes_append contents 0 frame.lengthBytes frame.body
    have whole := writeBytes_append contents 0 frame.bytes [0]
    rw [frame.lengthBytes_append_body, frame.lengthBytes_length, Nat.zero_add] at front
    rw [Nat.zero_add] at whole
    rw [written, frame.u32Bytes_length_eq, front, Int.toNat_natCast]
    exact whole
  next => cases body

/-- The body of a frame is received. -/
theorem receiveBody_some (frame : Frame) (reserved : ReceiveBuffer) :
    ∃ received, reserved.receiveBody frame.length frame.body = some received := by
  have headed := frame.headed
  have same : frame.length = frame.bytes.length := rfl
  have size : (frame.body.length : Int) = frame.length - 4 := by
    rw [frame.body_length]
    omega
  rw [ReceiveBuffer.receiveBody, if_pos size]
  exact ⟨_, rfl⟩

end Frame

/-! ### What a frame claims -/

namespace Frame

variable {frame : Frame} {m : Mem}

/-- An insert frame with these objects, and perhaps more bytes behind them. -/
def CarriesObjects (frame : Frame) (objs : List BsonObj) : Prop :=
  ∃ tail, frame.bytes =
    intBytes [(frame.length : Int), opInsert, objs.length] ++ (objectBytes objs ++ tail)

/-- A query frame with this key, and perhaps more bytes behind it. -/
def CarriesKey (frame : Frame) (key : BsonObj) : Prop :=
  ∃ tail, frame.bytes = intBytes [(frame.length : Int), opQuery] ++ (key.bytes ++ tail)

/-- The frame contains the objects it claims, at least one; a delete is refused before
its object is looked at.  A well-formed object is no shorter than the one without elements. -/
structure Complete (frame : Frame) : Prop where
  insert : frame.opCode? = some opInsert → sizeofMsgInsert ≤ frame.length →
    ∃ first rest, frame.CarriesObjects (first :: rest) ∧ 5 ≤ first.objsize
  query : frame.opCode? = some opQuery → ∃ key, frame.CarriesKey key

/-- The object that is printed for the log. -/
def Shows (frame : Frame) (obj : BsonObj) : Prop :=
  (∃ rest, frame.CarriesObjects (obj :: rest)) ∨ frame.CarriesKey obj

/-- The runtime call that may be made. -/
inductive Asks (frame : Frame) : RtnCall → Prop where
  | insert {first : BsonObj} {rest : List BsonObj}
      (carries : frame.CarriesObjects (first :: rest)) : Asks frame (.insert first.bytes)
  | find {key : BsonObj} (carries : frame.CarriesKey key) : Asks frame (.find key.bytes)

/-- The header of the request is not complete. -/
def Short (frame : Frame) : Prop :=
  frame.opCode? = none ∨ frame.opCode? = some opInsert ∧ frame.length < sizeofMsgInsert

theorem Fills.spells_first (fills : frame.Fills m) {first : BsonObj} {rest : List BsonObj}
    (carries : frame.CarriesObjects (first :: rest)) :
    Spells m [(frame.length : Int), opInsert, ((first :: rest).length : Nat)]
      (first.bytes ++ objectBytes rest) := by
  obtain ⟨tail, shape⟩ := carries
  rw [objectBytes_cons] at shape
  exact fills.spells shape

theorem Fills.spells_key (fills : frame.Fills m) {key : BsonObj}
    (carries : frame.CarriesKey key) : Spells m [(frame.length : Int), opQuery] key.bytes := by
  obtain ⟨tail, shape⟩ := carries
  exact fills.spells shape

/-- An insert frame has room for its header and its objects. -/
theorem CarriesObjects.length_le {objs : List BsonObj} (carries : frame.CarriesObjects objs) :
    sizeofMsgInsert + (objectBytes objs).length ≤ frame.length := by
  obtain ⟨tail, shape⟩ := carries
  have size := congrArg List.length shape
  have header : sizeofMsgInsert = 12 := rfl
  have same : frame.length = frame.bytes.length := rfl
  rw [List.length_append, intBytes_length, List.length_append, List.length_cons,
    List.length_cons, List.length_singleton] at size
  omega

theorem CarriesKey.length_le {key : BsonObj} (carries : frame.CarriesKey key) :
    sizeofMsgHeader + key.objsize ≤ frame.length := by
  obtain ⟨tail, shape⟩ := carries
  have size := congrArg List.length shape
  have header : sizeofMsgHeader = 8 := rfl
  have same : frame.length = frame.bytes.length := rfl
  have object : key.bytes.length = key.objsize := rfl
  rw [List.length_append, intBytes_length, List.length_append, List.length_cons,
    List.length_singleton] at size
  omega

end Frame

/-! ### What processing a frame comes to -/

section Request

variable {Store : Type} {env : AgentEnv Store} {m : Mem} {store : Store}

/-- The processing came to a code: that of the runtime call, if it made one. -/
structure Concluded (env : AgentEnv Store) (store : Store) (done : Processed Store) :
    Prop where
  int : -2147483648 ≤ done.rc ∧ done.rc < 2147483648
  performed : ∀ call ∈ done.calls,
    env.runtime.call call store = some (.returns done.rc, done.store)
  idle : done.calls = [] → done.store = store

theorem settled_idle {done : Processed Store}
    (int : -2147483648 ≤ done.rc ∧ done.rc < 2147483648) (none_made : done.calls = [])
    (same : done.store = store) : Concluded env store done where
  int := int
  performed call member := by
    rw [none_made] at member
    cases member
  idle _ := same

/-- A runtime call that returns. -/
theorem performCall_settled {call : RtnCall} {rc : ReturnCode} {after : Store}
    (called : env.runtime.call call store = some (.returns rc, after)) :
    performCall env call store = some ⟨rc, false, .empty, [call], after⟩ ∧
      Concluded env store ⟨rc, false, .empty, [call], after⟩ := by
  refine ⟨?_, env.runtime.int called, ?_, fun none => absurd none (List.cons_ne_nil _ _)⟩
  · rw [performCall, called]
  · intro other member
    rw [List.mem_singleton.mp member]
    exact called

/-- The `OP_INSERT` branch on a complete object. -/
theorem processInsert_object {count : Int} {obj : BsonObj} (prints : env.Prints obj)
    (extracted : msgExtractInsert m = .ok (count, some sizeofMsgInsert))
    (here : readBytes m sizeofMsgInsert obj.objsize = obj.bytes) :
    processInsert env m store =
      if obj.objsize < 5 then none
      else if firstFieldIsKey m sizeofMsgInsert = false then some (.idle edbNoId store)
      else performCall env (.insert obj.bytes) store := by
  rw [processInsert, extracted]
  dsimp only
  rw [bsonObjAt_of_spelled here]
  dsimp only
  rw [afterToString, prints m sizeofMsgInsert here]
  rfl

/-- The surroundings can print what the frame shows, and the runtime returns. -/
structure AgentEnv.Serves (env : AgentEnv Store) (frame : Frame) : Prop where
  prints : ∀ obj, frame.Shows obj → env.Prints obj
  returns : ∀ call, frame.Asks call → ∀ store,
    ∃ rc after, env.runtime.call call store = some (.returns rc, after)

/-- The operations the server knows. -/
def knownOpCodes : List Int :=
  [opInsert, opQuery, opDelete, opSnapshot, opCommand, opDisconnect]

/-- What the server makes of a frame. -/
structure Handled (env : AgentEnv Store) (frame : Frame) (store : Store)
    (done : Processed Store) : Prop extends Concluded env store done where
  disconnect : done.disconnect = true ↔ frame.opCode? = some opDisconnect
  short : frame.Short → done.rc ≠ edbOk
  unknown : ∀ code, frame.opCode? = some code → code ∉ knownOpCodes → done.rc ≠ edbOk

/-- A frame that is refused without a runtime call. -/
theorem handled_refused {frame : Frame} {rc : ReturnCode} (failure : rc = edbInvalidArg ∨
      rc = edbNoId) (connected : frame.opCode? ≠ some opDisconnect) :
    Handled env frame store (.idle rc store) := by
  have int : -2147483648 ≤ rc ∧ rc < 2147483648 := by
    rcases failure with rfl | rfl <;> decide
  have failed : rc ≠ edbOk := by
    rcases failure with rfl | rfl <;> decide
  have settled : Concluded env store (.idle rc store) := settled_idle int rfl rfl
  refine { settled with disconnect := ?_, short := ?_, unknown := ?_ }
  · exact iff_of_false Bool.false_ne_true connected
  · intro _
    exact failed
  · intro _ _ _
    exact failed

/-- A frame that is neither short nor unknown. -/
theorem handled_known {frame : Frame} {done : Processed Store} {code : Int}
    (settled : Concluded env store done) (named : frame.opCode? = some code)
    (known : code ∈ knownOpCodes)
    (long : code = opInsert → sizeofMsgInsert ≤ frame.length)
    (disconnect : done.disconnect = true ↔ code = opDisconnect) :
    Handled env frame store done := by
  refine { settled with disconnect := ?_, short := ?_, unknown := ?_ }
  · rw [disconnect, named, Option.some.injEq]
  · rintro (headless | ⟨insert, small⟩)
    · rw [named] at headless
      cases headless
    · rw [named, Option.some.injEq] at insert
      exact absurd (long insert) (by omega)
  · intro other other_named foreign
    rw [named, Option.some.injEq] at other_named
    rw [← other_named] at foreign
    exact absurd known foreign

namespace Frame

variable {frame : Frame}

/-- The insert of the objects that a frame carries. -/
theorem handled_insert {first : BsonObj} {rest : List BsonObj} (serves : env.Serves frame)
    (named : frame.opCode? = some opInsert) (fills : frame.Fills m)
    (carries : frame.CarriesObjects (first :: rest)) (whole : 5 ≤ first.objsize) :
    ∃ done, processInsert env m store = some done ∧ Handled env frame store done := by
  have counted := length_le_objectBytes (first :: rest)
  have room := carries.length_le
  have int := frame.int
  have same : frame.length = frame.bytes.length := rfl
  have header : sizeofMsgInsert = 12 := rfl
  have spelled := fills.spells_first carries
  have here : readBytes m sizeofMsgInsert first.objsize = first.bytes :=
    (readBytes_eq_append spelled.data_eq).1
  have extracted := msgExtractCounted_of_spells (by omega) (by omega) (by decide) (by decide)
    (by omega) spelled
  rw [if_neg (by rw [List.length_cons]; omega)] at extracted
  have connected : frame.opCode? ≠ some opDisconnect := by
    rw [named]
    decide
  rw [processInsert_object (serves.prints first (Or.inl ⟨rest, carries⟩)) extracted here]
  rw [if_neg (Nat.not_lt.mpr whole)]
  split
  next => exact ⟨_, rfl, handled_refused (Or.inr rfl) connected⟩
  next =>
    obtain ⟨rc, after, called⟩ := serves.returns _ (.insert carries) store
    obtain ⟨performed, settled⟩ := performCall_settled called
    exact ⟨_, performed, handled_known settled named (by decide) (fun _ => by omega)
      (iff_of_false Bool.false_ne_true (by decide))⟩

/-- The query for the key that a frame carries. -/
theorem handled_query {key : BsonObj} (serves : env.Serves frame)
    (named : frame.opCode? = some opQuery) (fills : frame.Fills m)
    (carries : frame.CarriesKey key) :
    ∃ done, processQuery env m store = some done ∧ Handled env frame store done := by
  have long := opCode?_long named
  have header := fills.messageLen
  have spelled := fills.spells_key carries
  have here : readBytes m sizeofMsgHeader key.objsize = key.bytes := spelled.data_eq
  have extracted := msgExtractKey_of_spells (by omega) (fills.opCode named) spelled
  obtain ⟨rc, after, called⟩ := serves.returns _ (.find carries) store
  obtain ⟨performed, settled⟩ := performCall_settled called
  refine ⟨_, ?_, handled_known settled named (by decide)
    (fun other => absurd other (by decide))
    (iff_of_false Bool.false_ne_true (by decide))⟩
  rw [processQuery, processKey, msgExtractQuery, extracted]
  dsimp only
  rw [afterToString, serves.prints key (Or.inr carries) m sizeofMsgHeader here]
  exact performed

/-- The server handles every complete frame. -/
theorem handled (serves : env.Serves frame) (complete : frame.Complete)
    (fills : frame.Fills m) (store : Store) :
    ∃ done, dispatch env m store = some done ∧ Handled env frame store done := by
  have length := fills.messageLen
  cases named : frame.opCode? with
  | none =>
      have short : messageLen m < sizeofMsgHeader := by
        rw [opCode?] at named
        split at named
        next => cases named
        next short => omega
      rw [dispatch, if_pos short]
      exact ⟨_, rfl, handled_refused (Or.inl rfl) (by rw [named]; exact (Option.some_ne_none _).symm)⟩
  | some code =>
      have long := opCode?_long named
      rw [dispatch, if_neg (by omega), fills.opCode named]
      have idle (known : code ∈ knownOpCodes) (other : code ≠ opInsert)
          (done : Processed Store) (settled : Concluded env store done)
          (disconnect : done.disconnect = true ↔ code = opDisconnect) :
          Handled env frame store done :=
        handled_known settled named known (fun insert => absurd insert other) disconnect
      have ok : -2147483648 ≤ edbOk ∧ edbOk < 2147483648 := edbOk_int
      by_cases insert : opInsert = code
      · subst insert
        rw [if_pos rfl]
        by_cases small : frame.length < sizeofMsgInsert
        · have refused : msgExtractInsert m = .error edbInvalidArg := by
            rw [msgExtractInsert, msgExtractCounted, if_pos (by omega)]
          rw [processInsert, refused]
          exact ⟨_, rfl, handled_refused (Or.inl rfl) (by rw [named]; decide)⟩
        · obtain ⟨first, rest, carries, whole⟩ := complete.insert named (by omega)
          exact handled_insert serves named fills carries whole
      · rw [if_neg insert]
        by_cases query : opQuery = code
        · subst query
          rw [if_pos rfl]
          obtain ⟨key, carries⟩ := complete.query named
          exact handled_query serves named fills carries
        · rw [if_neg query]
          by_cases delete : opDelete = code
          · subst delete
            have refused : msgExtractQuery m = .returns (.error edbInvalidArg) :=
              msgExtractKey_refuses (fills.opCode named) (by decide)
            rw [if_pos rfl, processDelete, processKey, refused]
            exact ⟨_, rfl, handled_refused (Or.inl rfl) (by rw [named]; decide)⟩
          · rw [if_neg delete]
            by_cases snapshot : opSnapshot = code
            · subst snapshot
              rw [if_pos rfl]
              exact ⟨_, rfl, idle (by decide) (by decide) _
                (settled_idle ok rfl rfl)
                (iff_of_false Bool.false_ne_true (by decide))⟩
            · rw [if_neg snapshot]
              by_cases command : opCommand = code
              · subst command
                rw [if_pos rfl]
                exact ⟨_, rfl, idle (by decide) (by decide) _ (settled_idle ok rfl rfl)
                  (iff_of_false Bool.false_ne_true (by decide))⟩
              · rw [if_neg command]
                by_cases disconnect : opDisconnect = code
                · subst disconnect
                  rw [if_pos rfl]
                  exact ⟨_, rfl, idle (by decide) (by decide) _
                    (settled_idle ok rfl rfl)
                    (iff_of_true rfl rfl)⟩
                · rw [if_neg disconnect]
                  refine ⟨_, rfl, handled_refused (Or.inl rfl) ?_⟩
                  rw [named, ne_eq, Option.some.injEq]
                  exact fun same => disconnect same.symm

/-- An insert whose first object starts with its key is handed to the runtime. -/
theorem calls_insert {done : Processed Store} {first : BsonObj} {rest : List BsonObj}
    (serves : env.Serves frame) (fills : frame.Fills m)
    (carries : frame.CarriesObjects (first :: rest)) (keyed : first.StartsWithKey)
    (dispatched : dispatch env m store = some done) : done.calls = [.insert first.bytes] := by
  have counted := length_le_objectBytes (first :: rest)
  have room := carries.length_le
  have int := frame.int
  have same : frame.length = frame.bytes.length := rfl
  obtain ⟨rc, after, called⟩ := serves.returns _ (.insert carries) store
  have few : (first :: rest).length < 2147483648 := by omega
  have expected : dispatch env m store = performCall env (.insert first.bytes) store :=
    dispatch_insert (serves.prints first (Or.inl ⟨rest, carries⟩)) keyed (by omega)
      (by omega) (Nat.succ_pos rest.length) few (fills.spells_first carries)
  rw [dispatched, (performCall_settled called).1] at expected
  rw [Option.some.inj expected]

/-- A query is handed to the runtime. -/
theorem calls_query {done : Processed Store} {key : BsonObj} (serves : env.Serves frame)
    (fills : frame.Fills m) (carries : frame.CarriesKey key)
    (dispatched : dispatch env m store = some done) : done.calls = [.find key.bytes] := by
  have room := carries.length_le
  have int := frame.int
  have same : frame.length = frame.bytes.length := rfl
  obtain ⟨rc, after, called⟩ := serves.returns _ (.find carries) store
  have expected : dispatch env m store = performCall env (.find key.bytes) store :=
    dispatch_query (serves.prints key (Or.inr carries)) (by omega) (by omega)
      (fills.spells_key carries)
  rw [dispatched, (performCall_settled called).1] at expected
  rw [Option.some.inj expected]

end Frame

/-! ### The bytes of the reply -/

/-- The reply with a code and perhaps an object. -/
def replyMessage (returnCode : ReturnCode) (objReturn : Option BsonObj) : List UInt8 :=
  intBytes [(replyLength objReturn : Nat), opReply, returnCode,
    (objReturn.toList.length : Nat)] ++ objectBytes objReturn.toList

@[simp] theorem objectBytes_singleton (obj : BsonObj) : objectBytes [obj] = obj.bytes := by
  rw [objectBytes_cons]
  exact List.append_nil obj.bytes

theorem replyMessage_length (returnCode : ReturnCode) (objReturn : Option BsonObj) :
    (replyMessage returnCode objReturn).length = replyLength objReturn := by
  rw [replyMessage, List.length_append, intBytes_length, replyLength]
  cases objReturn with
  | none => rfl
  | some obj =>
      rw [Option.toList_some, objectBytes_singleton]
      rfl

theorem replyLength_bounds (objReturn : Option BsonObj) :
    sizeofMsgReply ≤ replyLength objReturn ∧ replyLength objReturn < 2147483648 := by
  have header : sizeofMsgReply = 16 := rfl
  rw [replyLength]
  cases objReturn with
  | none => exact ⟨Nat.le_add_right _ _, by decide⟩
  | some obj =>
      have upper := obj.objsize_le
      refine ⟨Nat.le_add_right _ _, ?_⟩
      rw [Option.map_some, Option.getD_some]
      omega

/-- With memory, the reply builder writes the reply into the buffer. -/
theorem msgBuildReply_granted {result : MsgBuffer} (sound : result.Sound) (fresh : Mem)
    (returnCode : ReturnCode) (objReturn : Option BsonObj) :
    msgBuildReply (some fresh) returnCode objReturn result =
      some (edbOk, (result.reserved fresh (replyLength objReturn)).filled
        (replyMessage returnCode objReturn)) := by
  have length := replyMessage_length returnCode objReturn
  cases objReturn with
  | none =>
      have built := (msgBuildReply_none_granted sound fresh returnCode).2
      rw [← length]
      exact built
  | some obj =>
      have message : replyMessage returnCode (some obj) =
          obj.message sizeofMsgReply opReply [returnCode, 1] := by
        rw [replyMessage, Option.toList_some, objectBytes_singleton]
        rfl
      have built := (msgBuildOne_granted sound fresh sizeofMsgReply opReply [returnCode, 1]
        obj rfl (by decide)).2
      rw [← message, length] at built
      exact built

/-- The fields of a reply. -/
theorem replyMessage_spells {returnCode : ReturnCode} {objReturn : Option BsonObj} {m : Mem}
    (spelled : readBytes m 0 (replyLength objReturn) = replyMessage returnCode objReturn) :
    Spells m [(replyLength objReturn : Nat), opReply, returnCode,
      (objReturn.toList.length : Nat)] (objectBytes objReturn.toList) := by
  rw [← replyMessage_length returnCode] at spelled
  exact spelled

/-- The reply as the client reads it. -/
theorem replyMessage_read {returnCode : ReturnCode} (low : -2147483648 ≤ returnCode)
    (high : returnCode < 2147483648) (objReturn : Option BsonObj) {m : Mem}
    (spelled : readBytes m 0 (replyLength objReturn) = replyMessage returnCode objReturn) :
    messageLen m = replyLength objReturn ∧
      ∃ reply, msgExtraReply m = .ok reply ∧ reply.returnCode = returnCode := by
  obtain ⟨lower, upper⟩ := replyLength_bounds objReturn
  have few : ((objReturn.toList.length : Nat) : Int) = 0 ∨
      ((objReturn.toList.length : Nat) : Int) = 1 := by
    cases objReturn with
    | none => exact Or.inl rfl
    | some obj => exact Or.inr rfl
  have fields := replyMessage_spells spelled
  exact ⟨messageLen_of_spells upper fields, _,
    (msgExtraReply_of_spells lower upper low high few fields).2, rfl⟩

/-- The buffer with the reply in it is again one that pmdAgentEntryPoint can hand over. -/
theorem ResultBuffer.filled {result : MsgBuffer} (buffer : ResultBuffer result) (fresh : Mem)
    (length : Nat) (message : List UInt8) :
    ResultBuffer ((result.reserved fresh length).filled message) := by
  have reserved : ResultBuffer (result.reserved fresh length) := by
    have room := buffer.room
    rw [MsgBuffer.reserved]
    split
    next small => exact ⟨⟨rfl, Int.le_refl _⟩, by show _ ≤ (length : Int); omega⟩
    next => exact buffer
  exact ⟨⟨reserved.sound.heap, reserved.sound.covered⟩, reserved.room⟩

/-- From the label `done` on, with memory: the buffer holds the reply. -/
theorem process_granted {result : MsgBuffer} (buffer : ResultBuffer result)
    {done : Processed Store} {fresh : Mem} (granted : env.realloc = some fresh)
    (dispatched : dispatch env m store = some done) (connected : done.disconnect = false) :
    pmdProcessAgentRequest env m result store =
      some ⟨done.rc, false, done.calls, done.store,
        (result.reserved fresh (replyLength (replyObject (opCode m) done.retObj))).filled
          (replyMessage done.rc (replyObject (opCode m) done.retObj)), some edbOk⟩ := by
  rw [pmdProcessAgentRequest, dispatched, Option.bind_some, connected, granted,
    msgBuildReply_granted buffer.sound fresh]
  rfl

/-- Without a reply the buffer is left alone. -/
theorem process_disconnect (result : MsgBuffer) {done : Processed Store}
    (dispatched : dispatch env m store = some done) (disconnect : done.disconnect = true) :
    pmdProcessAgentRequest env m result store =
      some ⟨done.rc, true, done.calls, done.store, result, none⟩ := by
  rw [pmdProcessAgentRequest, dispatched, Option.bind_some, disconnect, if_pos rfl]

/-- What lies in a buffer that holds a reply. -/
theorem filled_reply {result : MsgBuffer} (buffer : ResultBuffer result) (fresh : Mem)
    (returnCode : ReturnCode) (objReturn : Option BsonObj) :
    let after := (result.reserved fresh (replyLength objReturn)).filled
      (replyMessage returnCode objReturn)
    readBytes after.contents 0 (replyLength objReturn) = replyMessage returnCode objReturn ∧
      replyLength objReturn ≤ after.allocated := by
  intro after
  refine ⟨?_, MsgBuffer.length_le_reserved buffer.sound fresh _⟩
  rw [← replyMessage_length returnCode]
  exact readBytes_writeBytes_self _ 0 _

end Request

end EmeraldDb
