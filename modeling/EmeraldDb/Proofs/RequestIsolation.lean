/-
Module: EmeraldDb.Proofs.RequestIsolation
Purpose: For which frames the server's answer does not depend on what earlier requests
  left in the receive buffer.
Trusted boundary: none
Main exports: Frame.Arrives, Frame.Isolated, Frame.FirstFixed, Frame.Confined,
  Frame.Confined.isolated
-/
import EmeraldDb.Proofs.RequestFrame

namespace EmeraldDb

open ByteMemory

/-! ### The same frame in two buffers -/

namespace Frame

variable {frame : Frame} {m m' : Mem}

/-- The frame alone, with zeros behind it. -/
def image (frame : Frame) : Mem := ofBytes frame.bytes

theorem fills_of_spelled (spelled : readBytes m 0 frame.length = frame.bytes)
    (terminated : m frame.length = 0) : frame.Fills m := by
  have last : readBytes m (0 + frame.length) 1 = [m frame.length] := by
    rw [Nat.zero_add]
    rfl
  rw [Fills, readBytes_append, spelled, last, terminated]

theorem image_behind (frame : Frame) {a : Nat} (behind : frame.length ≤ a) :
    frame.image a = 0 := List.getD_eq_default _ _ behind

theorem fills_image (frame : Frame) : frame.Fills frame.image :=
  fills_of_spelled (readBytes_ofBytes frame.bytes) (frame.image_behind (Nat.le_refl _))

/-- Two buffers with the frame agree up to the terminator. -/
theorem Fills.sameOn (fills : frame.Fills m) (fills' : frame.Fills m') :
    SameOn 0 (frame.length + 1) m m' := by
  intro a _ below
  have same : readBytes m' 0 (frame.length + 1) = readBytes m 0 (frame.length + 1) :=
    Eq.trans fills' (Eq.symm fills)
  have left := readBytes_getElem m' 0 (frame.length + 1) a (by rwa [readBytes_length])
  have right := readBytes_getElem m 0 (frame.length + 1) a (by rwa [readBytes_length])
  rw [Nat.zero_add] at left right
  rw [← left, ← right]
  simp only [same]

theorem Fills.terminator (fills : frame.Fills m) : m frame.length = 0 := by
  have same := fills.sameOn frame.fills_image frame.length (Nat.zero_le _)
    (Nat.lt_succ_self _)
  rw [← same]
  exact frame.image_behind (Nat.le_refl _)

/-- Bytes behind the terminator may be anything. -/
theorem fills_of_sameOn (same : SameOn 0 (frame.length + 1) frame.image m) :
    frame.Fills m := by
  have copied : readBytes m 0 (frame.length + 1) =
      readBytes frame.image 0 (frame.length + 1) :=
    readBytes_congr fun a lower upper => same a lower (by omega)
  rw [Fills, copied]
  exact frame.fills_image

/-! ### Histories -/

/-- The buffer holds `m` when the frame is processed.  The history is what malloc left
in the first buffer, the packets received before, and what malloc leaves now if the
buffer has to grow. -/
def Arrives (frame : Frame) (m : Mem) : Prop :=
  ∃ contents trace buffer malloc received, Connection contents trace buffer ∧
    buffer.receivePacket ⟨frame.length, some malloc, frame.body⟩ =
      some ((frame.length : Int), received) ∧
    (frame.length : Int) + 1 ≤ received.allocated ∧ received.contents = m

end Frame

namespace ReceiveBuffer

variable {buffer buffer' reserved : ReceiveBuffer} {malloc : Option Mem}

/-- The largest multiple of a page that is an `int`. -/
theorem ossRoundUp_le {x : Int} (positive : 0 ≤ x) (fits : x + 4095 < 2147483648) :
    ossRoundUpToMultipleX x edbPageSize ≤ 2147479552 := by
  rw [ossRoundUp_eq positive fits]
  omega

/-- The buffer is not larger than that. -/
def Bounded (buffer : ReceiveBuffer) : Prop := buffer.receiveBufferSize ≤ 2147479552

theorem Bounded.reserve {word : Nat} (before : buffer.Bounded)
    (done : buffer.reserve word malloc = .ok reserved) : reserved.Bounded := by
  obtain ⟨accepted, ⟨-, same, -⟩ | ⟨small, positive, same, -⟩⟩ := reserve_ok done
  · rw [Bounded, same]
    exact before
  · have range : toI32 word < 2147483648 := (toI32_int word).2
    rw [Bounded, same]
    by_cases largest : toI32 word = 2147483647
    · rw [largest]
      decide
    · have next : toI32 (toI32 word + 1) = toI32 word + 1 :=
        toI32_of_lt (by omega) (by omega)
      rw [next] at positive ⊢
      by_cases wraps : 2147483648 ≤ toI32 word + 1 + 4095
      · have negative := ossRoundUp_of_wraps (x := toI32 word + 1) (by omega) wraps
        omega
      · exact ossRoundUp_le (by omega) (by omega)

theorem connection_bounded {contents : Mem} {trace : List (Transition ReceiveBuffer
    Packet Int)} (connection : Connection contents trace buffer) : buffer.Bounded := by
  have initially : (init contents).Bounded := by
    have size : ossRoundUpToMultipleX pmdAgentReceiveBufferSz edbPageSize = 4096 := by decide
    rw [Bounded, init, size]
    show (4096 : Int) ≤ 2147479552
    decide
  refine Run.invariant initially ?_ connection
  intro trace buffer packet packetLength next before _ received
  obtain ⟨reserved, done, completed⟩ := receivePacket_some received
  rw [Bounded, (receiveBody_size completed).1]
  exact before.reserve done

end ReceiveBuffer

namespace Frame

variable {frame : Frame} {m m' : Mem}

/-- A frame that is processed fits the buffer and fills it. -/
theorem Arrives.fills (arrives : frame.Arrives m) :
    frame.length ≤ 2147479551 ∧ frame.Fills m := by
  obtain ⟨contents, trace, buffer, malloc, received, connection, receives, covered, rfl⟩ :=
    arrives
  have sound := (connection_sound connection).receivePacket receives
  obtain ⟨reserved, done, completed⟩ := ReceiveBuffer.receivePacket_some receives
  dsimp only at done completed
  rw [frame.toI32_length] at completed
  refine ⟨?_, ?_⟩
  · have size := sound.size
    have bound := (ReceiveBuffer.connection_bounded connection).reserve done
    rw [ReceiveBuffer.Bounded, ← (ReceiveBuffer.receiveBody_size completed).1] at bound
    omega
  · obtain ⟨before, -, written⟩ := Frame.receiveBody done completed
    rw [written]
    exact frame.fills_written before

/-- Whatever the memory behind a frame of that length holds, some history left it. -/
theorem Fills.arrives (fills : frame.Fills m) (upper : frame.length ≤ 2147479551) :
    frame.Arrives m := by
  have headed := frame.headed
  have same : frame.length = frame.bytes.length := rfl
  obtain ⟨reserved, done⟩ :=
    ReceiveBuffer.reserve_granted (by omega) upper m (.init m)
  obtain ⟨received, completed⟩ := frame.receiveBody_some reserved
  obtain ⟨before, origin, written⟩ := Frame.receiveBody done completed
  have kept : before = m := by
    rcases origin with start | fresh
    · exact start
    · exact (Option.some.inj fresh).symm
  have covers := ((ReceiveBuffer.init_sound m).reserve done).2
  rw [frame.toI32_length] at covers
  refine ⟨m, [], .init m, m, received, .start, ?_, ?_, ?_⟩
  · rw [ReceiveBuffer.receivePacket]
    dsimp only
    rw [done, frame.toI32_length]
    show (reserved.receiveBody frame.length frame.body).bind _ = _
    rw [completed]
    rfl
  · rw [(ReceiveBuffer.receiveBody_size completed).2]
    omega
  · rw [written, kept]
    apply writeBytes_of_spelled
    rw [List.length_append]
    exact fills

end Frame

/-! ### What a client can tell -/

section Request

variable {Store : Type} {env : AgentEnv Store} {store : Store}

/-- The runtime calls and the reply bytes. -/
def observed (out : AgentOutcome Store) : List RtnCall × Option (List UInt8) :=
  (out.calls,
    if out.disconnect then none
    else some (readBytes out.result.contents 0 (messageLen out.result.contents).toNat))

/-- The runtime calls and the reply bytes that a processing comes to. -/
def answer (code : Int) (done : Processed Store) : List RtnCall × Option (List UInt8) :=
  (done.calls,
    if done.disconnect then none
    else some (replyMessage done.rc (replyObject code done.retObj)))

/-- With memory for the reply, it does not matter what the result buffer held. -/
theorem process_observed {m : Mem} {result : MsgBuffer} (buffer : ResultBuffer result)
    (fresh : Mem) :
    (pmdProcessAgentRequest { env with realloc := some fresh } m result store).map observed =
      (dispatch env m store).map (answer (opCode m)) := by
  have same : dispatch { env with realloc := some fresh } m store = dispatch env m store := rfl
  cases dispatched : dispatch env m store with
  | none =>
      rw [pmdProcessAgentRequest, same, dispatched]
      rfl
  | some done =>
      rw [dispatched] at same
      cases disconnect : done.disconnect with
      | true =>
          rw [process_disconnect result same disconnect]
          simp [observed, answer, disconnect]
      | false =>
          obtain ⟨spelled, -⟩ :=
            filled_reply buffer fresh done.rc (replyObject (opCode m) done.retObj)
          have length := messageLen_of_spells
            (replyLength_bounds (replyObject (opCode m) done.retObj)).2
            (replyMessage_spells spelled)
          rw [process_granted buffer rfl same disconnect]
          simp only [Option.map_some, observed, answer, disconnect, length,
            Int.toNat_natCast, spelled]

/-- Printing an object of at most five bytes does not look behind its size, and printing a
well-formed object does not look behind the object.  Behind a size that is not valid, an
end-of-object element is printed by its type alone, and a well-formed element is not looked
behind. -/
structure AgentEnv.PrintsWithin (env : AgentEnv Store) (wellFormed : BsonObj → Prop)
    (element : List UInt8 → Prop) : Prop where
  small : ∀ m a size, bsonSizeAt m a = some size → size ≤ 5 →
    env.toString m a = some (.returns ())
  own : ∀ obj, wellFormed obj → ∀ m m' a, readBytes m a obj.objsize = obj.bytes →
    readBytes m' a obj.objsize = obj.bytes → env.toString m a = env.toString m' a
  eoo : ∀ m a, m (a + 4) = 0 → env.firstElement m a = some ()
  ownElement : ∀ bytes, element bytes → ∀ m m' a, readBytes m (a + 4) bytes.length = bytes →
    readBytes m' (a + 4) bytes.length = bytes → env.firstElement m a = env.firstElement m' a

end Request

namespace Frame

variable {frame : Frame} {m m' : Mem} {wellFormed : BsonObj → Prop}
  {element : List UInt8 → Prop}

/-- For every two histories of the connection and the same store, the frame leads to the
same runtime calls and the same reply. -/
def Isolated (frame : Frame) (wellFormed : BsonObj → Prop) (element : List UInt8 → Prop) :
    Prop :=
  ∀ (Store : Type) (env : AgentEnv Store) (store : Store) (fresh fresh' m m' : Mem)
    (result result' : MsgBuffer), env.PrintsWithin wellFormed element → frame.Arrives m →
    frame.Arrives m' → ResultBuffer result → ResultBuffer result' →
    (pmdProcessAgentRequest { env with realloc := some fresh } m result store).map observed =
      (pmdProcessAgentRequest { env with realloc := some fresh' } m' result' store).map
        observed

/-- Where the object that the server reads starts, if it comes to read one. -/
def objectAt (frame : Frame) : Option Nat :=
  if frame.opCode? = some opInsert ∧ sizeofMsgInsert ≤ frame.length ∧ frame.intAt 8 ≠ 0 then
    some sizeofMsgInsert
  else if frame.opCode? = some opQuery then some sizeofMsgHeader
  else none

/-- What is printed behind a size that is not valid is decided by the frame and the
terminator. -/
def FirstFixed (frame : Frame) (element : List UInt8 → Prop) (start : Nat) : Prop :=
  start + 5 ≤ frame.length + 1 ∧ frame.image (start + 4) = 0 ∨
    ∃ bytes, element bytes ∧ start + 4 + bytes.length ≤ frame.length + 1 ∧
      readBytes frame.image (start + 4) bytes.length = bytes

/-- The object is decided by the frame and the terminator: its size is, and a valid size
stays within them, with a well-formed object unless it is too small to have an element.
Without a valid size the element behind it is. -/
structure ObjectFixed (frame : Frame) (wellFormed : BsonObj → Prop)
    (element : List UInt8 → Prop) (start : Nat) : Prop where
  headed : start + 4 ≤ frame.length + 1
  within : ∀ size, bsonSizeAt frame.image start = some size →
    start + size ≤ frame.length + 1 ∧
      (size ≤ 5 ∨ ∃ obj, wellFormed obj ∧ readBytes frame.image start obj.objsize = obj.bytes)
  first : bsonSizeAt frame.image start = none → frame.FirstFixed element start

/-- An operation code that is not in the frame is not taken for one whose reply carries an
object, unless the frame's part of it and the terminator decide it. -/
def ShapeFixed (frame : Frame) : Prop :=
  frame.length = 5 ∨ frame.length = 6 →
    ¬ ((frame.image 4 = 4 ∨ frame.image 4 = 8) ∧ frame.image 5 = 0)

/-- The frame is too long to be received, or decides the answer by itself. -/
def Confined (frame : Frame) (wellFormed : BsonObj → Prop) (element : List UInt8 → Prop) :
    Prop :=
  2147479551 < frame.length ∨
    frame.ShapeFixed ∧
      ∀ start, frame.objectAt = some start → frame.ObjectFixed wellFormed element start

/-! ### A confined frame is isolated -/

section Same

variable {Store : Type} {env : AgentEnv Store} {store : Store} {start : Nat}

theorem Fills.image_sameOn (fills : frame.Fills m) :
    SameOn 0 (frame.length + 1) frame.image m := frame.fills_image.sameOn fills

theorem Fills.intAt_image (fills : frame.Fills m) {i : Nat}
    (inside : i + 4 ≤ frame.length + 1) : intAtAddress m i = intAtAddress frame.image i := by
  rw [intAtAddress, fills.image_sameOn.readU32_eq (Nat.zero_le i) inside]
  rfl

theorem Fills.bsonSizeAt_image (fills : frame.Fills m)
    (headed : start + 4 ≤ frame.length + 1) :
    bsonSizeAt m start = bsonSizeAt frame.image start := by
  rw [bsonSizeAt, fills.intAt_image headed]
  rfl

/-- A size that is valid is also that of the object the constructor finds. -/
theorem bsonObjAt_eq_some {bytes : List UInt8} (found : bsonObjAt m start = some bytes) :
    bsonSizeAt m start = some bytes.length := by
  obtain ⟨size, valid, rfl⟩ := Option.map_eq_some_iff.mp found
  rw [valid, readBytes_length]

/-- The object that the frame decides is the same in every buffer. -/
theorem ObjectFixed.bsonObjAt (fixed : frame.ObjectFixed wellFormed element start)
    (fills : frame.Fills m) : bsonObjAt m start = bsonObjAt frame.image start := by
  rw [EmeraldDb.bsonObjAt, EmeraldDb.bsonObjAt, fills.bsonSizeAt_image fixed.headed]
  cases sized : bsonSizeAt frame.image start with
  | none => rfl
  | some size =>
      have inside := (fixed.within size sized).1
      rw [Option.map_some, Option.map_some,
        fills.image_sameOn.readBytes_eq (Nat.zero_le start) inside]

/-- And so is what its print comes to. -/
theorem ObjectFixed.toString (fixed : frame.ObjectFixed wellFormed element start)
    (prints : env.PrintsWithin wellFormed element) (fills : frame.Fills m) {bytes : List UInt8}
    (found : EmeraldDb.bsonObjAt frame.image start = some bytes) :
    env.toString m start = env.toString frame.image start := by
  have sized := bsonObjAt_eq_some found
  have sized' : bsonSizeAt m start = some bytes.length := by
    rw [fills.bsonSizeAt_image fixed.headed, sized]
  obtain ⟨inside, few | ⟨obj, formed, spelled⟩⟩ := fixed.within _ sized
  · rw [prints.small _ _ _ sized few, prints.small _ _ _ sized' few]
  · have length := obj.selfSized frame.image start spelled
    rw [sized, Option.some.injEq] at length
    have size : obj.bytes.length = obj.objsize := rfl
    have here : readBytes m start obj.objsize = obj.bytes := by
      rw [fills.image_sameOn.readBytes_eq (Nat.zero_le start) (by omega)]
      exact spelled
    exact prints.own obj formed m frame.image start here spelled

/-- And so is what the constructor prints before it throws. -/
theorem ObjectFixed.assertInvalid (fixed : frame.ObjectFixed wellFormed element start)
    (prints : env.PrintsWithin wellFormed element) (fills : frame.Fills m)
    (missing : EmeraldDb.bsonObjAt frame.image start = none) :
    assertInvalid env m start store = assertInvalid env frame.image start store := by
  have same := fills.image_sameOn
  have printed : env.firstElement m start = env.firstElement frame.image start := by
    obtain ⟨inside, last⟩ | ⟨bytes, formed, inside, spelled⟩ :=
      fixed.first (Option.map_eq_none_iff.mp missing)
    · have last' : m (start + 4) = 0 := by
        rw [same (start + 4) (Nat.zero_le _) (by omega), last]
      rw [prints.eoo m start last', prints.eoo frame.image start last]
    · have here : readBytes m (start + 4) bytes.length = bytes := by
        rw [same.readBytes_eq (Nat.zero_le _) (by omega)]
        exact spelled
      exact prints.ownElement bytes formed m frame.image start here spelled
  rw [EmeraldDb.assertInvalid, EmeraldDb.assertInvalid, printed]

/-- The comparison with `_id` stops at the terminator at the latest. -/
theorem Fills.firstFieldIsKey_image (fills : frame.Fills m)
    (inside : start + 4 ≤ frame.length) :
    firstFieldIsKey m start = firstFieldIsKey frame.image start := by
  have same := fills.image_sameOn
  have type : m (start + 4) = frame.image (start + 4) :=
    same (start + 4) (Nat.zero_le _) (by omega)
  by_cases whole : start + 9 ≤ frame.length + 1
  · have name : readBytes m (start + 5) 4 = readBytes frame.image (start + 5) 4 :=
      same.readBytes_eq (Nat.zero_le _) (by omega)
    rw [firstFieldIsKey, type, name]
    rfl
  · have stops : ∀ m, frame.Fills m → firstFieldIsKey m start = false := by
      intro m fills
      have zero := fills.terminator
      rcases Nat.lt_or_ge (start + 4) frame.length with behind | here
      · -- the terminator lies where a character of the name would have to be
        obtain ⟨j, below, place⟩ : ∃ j, j < 3 ∧ frame.length = start + 5 + j :=
          ⟨frame.length - (start + 5), by omega, by omega⟩
        have differ : readBytes m (start + 5) 4 ≠ gKeyFieldName ++ [0] := by
          intro named
          have letters : ∀ j, j < 3 → (gKeyFieldName ++ [0]).getD j 0 ≠ 0 := by decide
          have inside : j < (readBytes m (start + 5) 4).length := by
            rw [readBytes_length]
            omega
          apply letters j below
          rw [← named, List.getD_eq_getElem _ _ inside, readBytes_getElem, ← place, zero]
        simp only [firstFieldIsKey, differ, decide_false, Bool.and_false]
      · have place : frame.length = start + 4 := by omega
        rw [place] at zero
        simp only [firstFieldIsKey, zero, ne_eq, not_true_eq_false, decide_false,
          Bool.false_and]
    rw [stops m fills, stops frame.image frame.fills_image]

theorem objectAt_insert (named : frame.opCode? = some opInsert)
    (long : sizeofMsgInsert ≤ frame.length) (counted : frame.intAt 8 ≠ 0) :
    frame.objectAt = some sizeofMsgInsert := if_pos ⟨named, long, counted⟩

theorem objectAt_query (named : frame.opCode? = some opQuery) :
    frame.objectAt = some sizeofMsgHeader := by
  have other : ¬ (frame.opCode? = some opInsert ∧ sizeofMsgInsert ≤ frame.length ∧
      frame.intAt 8 ≠ 0) := by
    rintro ⟨insert, -⟩
    rw [named] at insert
    cases insert
  rw [objectAt, if_neg other, if_pos named]

/-- What the `OP_INSERT` branch does with a frame that claims an object. -/
theorem processInsert_read (fills : frame.Fills m) (named : frame.opCode? = some opInsert)
    (long : sizeofMsgInsert ≤ frame.length) (counted : frame.intAt 8 ≠ 0) :
    processInsert env m store =
      match EmeraldDb.bsonObjAt m sizeofMsgInsert with
      | none => assertInvalid env m sizeofMsgInsert store
      | some insertor =>
          afterToString env m sizeofMsgInsert store
            (if insertor.length < 5 then none
            else if firstFieldIsKey m sizeofMsgInsert = false then some (.idle edbNoId store)
            else performCall env (.insert insertor) store) := by
  have header : sizeofMsgInsert = 12 := rfl
  have length := fills.messageLen
  have code := fills.opCode named
  have count : intAtAddress m 8 = frame.intAt 8 := fills.intAt (by omega)
  have extracted : msgExtractInsert m = .ok (frame.intAt 8, some sizeofMsgInsert) := by
    rw [msgExtractInsert, msgExtractCounted, length, code, count, if_neg (by omega),
      if_neg (by decide)]
    dsimp only
    rw [if_neg counted.symm]
  cases object : EmeraldDb.bsonObjAt m sizeofMsgInsert with
  | none => simp only [processInsert, extracted, object]
  | some insertor => simp only [processInsert, extracted, object]

/-- What the `OP_QUERY` branch does. -/
theorem processQuery_read (fills : frame.Fills m) (named : frame.opCode? = some opQuery) :
    processQuery env m store =
      match EmeraldDb.bsonObjAt m sizeofMsgHeader with
      | none => assertInvalid env m sizeofMsgHeader store
      | some key =>
          afterToString env m sizeofMsgHeader store (performCall env (.find key) store) := by
  have long := opCode?_long named
  have length := fills.messageLen
  rw [processQuery, processKey, msgExtractQuery, msgExtractKey, if_neg (by omega),
    fills.opCode named, if_neg (by decide)]
  cases EmeraldDb.bsonObjAt m sizeofMsgHeader with
  | none => rfl
  | some key => rfl

/-- The `OP_INSERT` branch does not look behind a frame that decides its object. -/
theorem processInsert_image (prints : env.PrintsWithin wellFormed element)
    (named : frame.opCode? = some opInsert)
    (object : ∀ start, frame.objectAt = some start → frame.ObjectFixed wellFormed element start)
    (fills : frame.Fills m) :
    processInsert env m store = processInsert env frame.image store := by
  by_cases long : sizeofMsgInsert ≤ frame.length
  · by_cases empty : frame.intAt 8 = 0
    · have extracted : ∀ m, frame.Fills m → msgExtractInsert m = .ok (0, none) := by
        intro m fills
        have header : sizeofMsgInsert = 12 := rfl
        have length := fills.messageLen
        have count : intAtAddress m 8 = frame.intAt 8 := fills.intAt (by omega)
        rw [msgExtractInsert, msgExtractCounted, length, fills.opCode named, count, empty,
          if_neg (by omega), if_neg (by decide)]
        rfl
      rw [processInsert, processInsert, extracted m fills,
        extracted frame.image frame.fills_image]
    · have fixed := object _ (objectAt_insert named long empty)
      rw [processInsert_read fills named long empty,
        processInsert_read frame.fills_image named long empty, fixed.bsonObjAt fills]
      cases found : EmeraldDb.bsonObjAt frame.image sizeofMsgInsert with
      | none => exact fixed.assertInvalid prints fills found
      | some bytes =>
          dsimp only
          rw [afterToString, afterToString, fixed.toString prints fills found]
          by_cases small : bytes.length < 5
          · rw [if_pos small, if_pos small]
          · have inside := (fixed.within _ (bsonObjAt_eq_some found)).1
            rw [fills.firstFieldIsKey_image (by omega)]
  · have refused : ∀ m, frame.Fills m → msgExtractInsert m = .error edbInvalidArg := by
      intro m fills
      have length := fills.messageLen
      rw [msgExtractInsert, msgExtractCounted, if_pos (by omega)]
    rw [processInsert, processInsert, refused m fills, refused frame.image frame.fills_image]

/-- Nor does the `OP_QUERY` branch. -/
theorem processQuery_image (prints : env.PrintsWithin wellFormed element)
    (named : frame.opCode? = some opQuery)
    (fixed : frame.ObjectFixed wellFormed element sizeofMsgHeader) (fills : frame.Fills m) :
    processQuery env m store = processQuery env frame.image store := by
  rw [processQuery_read fills named, processQuery_read frame.fills_image named,
    fixed.bsonObjAt fills]
  cases found : EmeraldDb.bsonObjAt frame.image sizeofMsgHeader with
  | none => exact fixed.assertInvalid prints fills found
  | some bytes =>
      dsimp only
      rw [afterToString, afterToString, fixed.toString prints fills found]

/-- A frame that decides its object is processed as it is alone. -/
theorem dispatch_image (prints : env.PrintsWithin wellFormed element)
    (object : ∀ start, frame.objectAt = some start → frame.ObjectFixed wellFormed element start)
    (fills : frame.Fills m) : dispatch env m store = dispatch env frame.image store := by
  have length := fills.messageLen
  have length' := frame.fills_image.messageLen
  cases named : frame.opCode? with
  | none =>
      have short : ¬ sizeofMsgHeader ≤ frame.length := by
        intro long
        rw [opCode?, if_pos long] at named
        cases named
      rw [dispatch, dispatch, if_pos (by omega), if_pos (by omega)]
  | some code =>
      have long := opCode?_long named
      have here : ¬ messageLen m < sizeofMsgHeader := by omega
      have there : ¬ messageLen frame.image < sizeofMsgHeader := by omega
      rw [dispatch, dispatch, if_neg here, if_neg there, fills.opCode named,
        frame.fills_image.opCode named]
      by_cases insert : opInsert = code
      · subst insert
        rw [if_pos rfl, if_pos rfl, processInsert_image prints named object fills]
      · rw [if_neg insert, if_neg insert]
        by_cases query : opQuery = code
        · subst query
          rw [if_pos rfl, if_pos rfl,
            processQuery_image prints named (object _ (objectAt_query named)) fills]
        · rw [if_neg query, if_neg query]
          by_cases delete : opDelete = code
          · subst delete
            have refused : ∀ m, frame.Fills m →
                msgExtractQuery m = .returns (.error edbInvalidArg) :=
              fun m fills => msgExtractKey_refuses (fills.opCode named) (by decide)
            rw [if_pos rfl, if_pos rfl, processDelete, processKey, processKey,
              refused m fills, refused frame.image frame.fills_image]
          · rw [if_neg delete, if_neg delete]

/-! ### The operation code of a short frame -/

/-- The code is one of these exactly when its lowest byte is and the others are zero. -/
theorem opCode_eq_iff (code : UInt8) (m : Mem) :
    opCode m = code.toNat ↔ m 4 = code ∧ m 5 = 0 ∧ m 6 = 0 ∧ m 7 = 0 := by
  have small := code.toNat_lt
  have b4 := (m 4).toNat_lt
  have b5 := (m 5).toNat_lt
  have b6 := (m 6).toNat_lt
  have b7 := (m 7).toNat_lt
  have zero (byte : UInt8) : byte = 0 ↔ byte.toNat = 0 := UInt8.toNat_inj.symm
  have word : readU32 m 4 = (m 4).toNat + 256 * (m 5).toNat + 65536 * (m 6).toNat +
    16777216 * (m 7).toNat := rfl
  rw [zero, zero, zero, ← UInt8.toNat_inj, opCode, intAtAddress, word]
  unfold toI32
  omega

/-- The reply carries an object for these two operations. -/
theorem replyObject_eq (m : Mem) (retObj : BsonObj) :
    replyObject (opCode m) retObj =
      if (m 4 = 4 ∨ m 4 = 8) ∧ m 5 = 0 ∧ m 6 = 0 ∧ m 7 = 0 then some retObj else none := by
  have query : opCode m = opQuery ↔ m 4 = 4 ∧ m 5 = 0 ∧ m 6 = 0 ∧ m 7 = 0 :=
    opCode_eq_iff 4 m
  have snapshot : opCode m = opSnapshot ↔ m 4 = 8 ∧ m 5 = 0 ∧ m 6 = 0 ∧ m 7 = 0 :=
    opCode_eq_iff 8 m
  rw [replyObject]
  apply if_congr _ rfl rfl
  rw [query, snapshot, or_comm]
  exact or_and_right.symm

/-- The shape of the reply does not depend on what lies behind the frame. -/
theorem replyObject_image (shape : frame.ShapeFixed) (fills : frame.Fills m)
    (retObj : BsonObj) :
    replyObject (opCode m) retObj = replyObject (opCode frame.image) retObj := by
  have headed := frame.headed
  have size : frame.length = frame.bytes.length := rfl
  have same := fills.image_sameOn
  by_cases decided : 7 ≤ frame.length
  · have b4 := same 4 (by omega) (by omega)
    have b5 := same 5 (by omega) (by omega)
    have b6 := same 6 (by omega) (by omega)
    have b7 := same 7 (by omega) (by omega)
    rw [replyObject_eq, replyObject_eq, b4, b5, b6, b7]
  · have none : ∀ m, frame.Fills m → replyObject (opCode m) retObj = none := by
      intro m fills
      have same := fills.image_sameOn
      have b4 := same 4 (by omega) (by omega)
      rw [replyObject_eq, if_neg]
      rintro ⟨named, zero, -⟩
      rw [b4] at named
      by_cases four : frame.length = 4
      · have last : frame.image 4 = 0 := frame.image_behind (by omega)
        rw [last] at named
        revert named
        decide
      · have b5 := same 5 (by omega) (by omega)
        rw [b5] at zero
        exact shape (by omega) ⟨named, zero⟩
    rw [none m fills, none frame.image frame.fills_image]

theorem Confined.isolated (confined : frame.Confined wellFormed element) :
    frame.Isolated wellFormed element := by
  intro Store env store fresh fresh' m m' result result' prints arrives arrives' buffer buffer'
  obtain ⟨upper, fills⟩ := arrives.fills
  obtain ⟨-, fills'⟩ := arrives'.fills
  obtain ⟨shape, object⟩ := confined.resolve_left (Nat.not_lt.mpr upper)
  have answers (m : Mem) (fills : frame.Fills m) :
      (dispatch env m store).map (answer (opCode m)) =
        (dispatch env frame.image store).map (answer (opCode frame.image)) := by
    rw [dispatch_image prints object fills]
    congr 1
    funext done
    rw [answer, replyObject_image shape fills]
    rfl
  rw [process_observed buffer, process_observed buffer', answers m fills, answers m' fills']

end Same

end Frame

end EmeraldDb
