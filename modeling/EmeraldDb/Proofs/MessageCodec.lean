/-
Module: EmeraldDb.Proofs.MessageCodec
Purpose: What each builder writes, byte by byte, and that each extractor gives back
  what its builder was given.
Trusted boundary: none
Main exports: intBytes, objectBytes, Spells, msgBuildOne_granted,
  msgBuildAll_granted, messages_roundTrip
-/
import EmeraldDb.Msg.Message

namespace EmeraldDb

open ByteMemory

/-! ### The bytes of a message -/

/-- Consecutive `int` fields. -/
def intBytes (values : List Int) : List UInt8 :=
  (values.map fun value => u32Bytes (toU32 value)).flatten

@[simp] theorem intBytes_cons (value : Int) (values : List Int) :
    intBytes (value :: values) = u32Bytes (toU32 value) ++ intBytes values := rfl

@[simp] theorem intBytes_length (values : List Int) :
    (intBytes values).length = 4 * values.length := by
  induction values with
  | nil => rfl
  | cons value values ih =>
      rw [intBytes_cons, List.length_append, ih, u32Bytes_length, List.length_cons]
      omega

/-- Objects laid end to end. -/
def objectBytes (objs : List BsonObj) : List UInt8 := (objs.map BsonObj.bytes).flatten

@[simp] theorem objectBytes_cons (obj : BsonObj) (objs : List BsonObj) :
    objectBytes (obj :: objs) = obj.bytes ++ objectBytes objs := rfl

theorem objectBytes_cons_length (obj : BsonObj) (objs : List BsonObj) :
    (objectBytes (obj :: objs)).length = obj.objsize + (objectBytes objs).length := by
  rw [objectBytes_cons, List.length_append]
  rfl

/-- Every object takes at least four bytes. -/
theorem length_le_objectBytes (objs : List BsonObj) :
    objs.length ≤ (objectBytes objs).length := by
  induction objs with
  | nil => exact Nat.le_refl 0
  | cons obj objs ih =>
      have headed := obj.objsize_ge
      rw [objectBytes_cons_length, List.length_cons]
      omega

/-- An `int` survives being stored. -/
theorem toI32_toU32 {value : Int} (lower : -2147483648 ≤ value)
    (upper : value < 2147483648) : toI32 (toU32 value) = value := by
  unfold toI32 toU32
  omega

theorem toU32_lt (value : Int) : toU32 value < 4294967296 := by
  unfold toU32
  omega

/-! ### A memory that spells a message -/

/-- The memory starts with the `int` fields `values` and goes on with `data`. -/
def Spells (m : Mem) (values : List Int) (data : List UInt8) : Prop :=
  readBytes m 0 (intBytes values ++ data).length = intBytes values ++ data

namespace Spells

variable {m : Mem} {values : List Int} {data : List UInt8}

theorem of_written {m : Mem} : Spells (writeBytes m 0 (intBytes values ++ data)) values data :=
  readBytes_writeBytes_self m 0 _

/-- The object bytes are found behind the fields. -/
theorem data_eq (spelled : Spells m values data) :
    readBytes m (4 * values.length) data.length = data := by
  have behind := (readBytes_eq_append spelled).2
  rw [intBytes_length, Nat.zero_add] at behind
  exact behind

/-- Each field is found at its place. -/
theorem int_eq (front : List Int) {rest : List Int} {value : Int} (lower : -2147483648 ≤ value)
    (upper : value < 2147483648) (spelled : Spells m (front ++ value :: rest) data) :
    intAtAddress m (4 * front.length) = value := by
  have shape : intBytes (front ++ value :: rest) ++ data =
      intBytes front ++ (u32Bytes (toU32 value) ++ (intBytes rest ++ data)) := by
    simp [intBytes, List.append_assoc]
  have behind : readBytes m (4 * front.length)
      (u32Bytes (toU32 value) ++ (intBytes rest ++ data)).length =
        u32Bytes (toU32 value) ++ (intBytes rest ++ data) := by
    have spelled' : readBytes m 0 (intBytes (front ++ value :: rest) ++ data).length =
        intBytes (front ++ value :: rest) ++ data := spelled
    rw [shape] at spelled'
    have behind := (readBytes_eq_append spelled').2
    rwa [intBytes_length, Nat.zero_add] at behind
  have word : readBytes m (4 * front.length) 4 = u32Bytes (toU32 value) :=
    (readBytes_eq_append behind).1
  rw [intAtAddress, readU32_eq_of_bytes word, Nat.mod_eq_of_lt (toU32_lt value),
    toI32_toU32 lower upper]

end Spells

/-- A BSON object tells its own size. -/
theorem BsonObj.selfSized (obj : BsonObj) : SelfSized bsonSizeAt obj.bytes := by
  intro m pos spelled
  have lower := obj.objsize_ge
  have upper := obj.objsize_le
  have length : obj.bytes.length = obj.objsize := rfl
  have word : readU32 m pos = obj.objsize := by
    rw [← Nat.add_zero pos, readU32_eq_ofBytes spelled (by omega), obj.size_eq, length]
  have size : intAtAddress m pos = obj.objsize := by
    rw [intAtAddress, word, toI32_of_lt (by omega) (by omega)]
  have valid : bsonIsValid (obj.objsize : Int) = true := by
    have bound : bsonObjMaxInternalSize = 16793600 := rfl
    simp only [bsonIsValid, bound, Bool.and_eq_true, decide_eq_true_eq]
    omega
  rw [bsonSizeAt, size, if_pos valid, Int.toNat_natCast, length]

/-- The constructor finds the object that the memory spells. -/
theorem bsonObjAt_of_spelled {m : Mem} {pos : Nat} {obj : BsonObj}
    (spelled : readBytes m pos obj.objsize = obj.bytes) :
    bsonObjAt m pos = some obj.bytes := by
  rw [bsonObjAt, obj.selfSized m pos spelled, Option.map_some]
  exact congrArg some spelled

/-- Stepping finds the objects that the memory spells. -/
theorem objectsFrom_of_spelled {m : Mem} {pos : Nat} {objs : List BsonObj}
    (spelled : readBytes m pos (objectBytes objs).length = objectBytes objs) :
    objectsFrom m objs.length pos = some (objs.map BsonObj.bytes) := by
  have sized : ∀ item ∈ objs.map BsonObj.bytes, SelfSized bsonSizeAt item := by
    intro item member
    obtain ⟨obj, _, rfl⟩ := List.mem_map.mp member
    exact obj.selfSized
  have found := itemsFrom_of_spelled sized spelled
  rwa [List.length_map] at found

/-! ### What a builder writes -/

namespace MsgBuffer

/-- The buffer after `bytes` were stored at an address. -/
def after (buffer : MsgBuffer) (a : Nat) (bytes : List UInt8) : MsgBuffer :=
  { buffer with contents := writeBytes buffer.contents a bytes }

@[simp] theorem after_allocated (buffer : MsgBuffer) (a : Nat) (bytes : List UInt8) :
    (buffer.after a bytes).allocated = buffer.allocated := rfl

theorem after_nil (buffer : MsgBuffer) (a : Nat) : buffer.after a [] = buffer := by
  have same : writeBytes buffer.contents a [] = buffer.contents := by
    funext x
    exact writeBytes_outside (Nat.lt_or_ge x a)
  rw [after, same]

/-- Two stores side by side are one. -/
theorem after_append (buffer : MsgBuffer) (a : Nat) (front rest : List UInt8) :
    (buffer.after a front).after (a + front.length) rest = buffer.after a (front ++ rest) := by
  simp only [after, writeBytes_append]

theorem store_eq {buffer : MsgBuffer} {a : Nat} {bytes : List UInt8}
    (room : a + bytes.length ≤ buffer.allocated) :
    buffer.store a bytes = some (buffer.after a bytes) := by
  rw [store, if_pos room, after]

/-- The buffer with `message` at its start. -/
def filled (buffer : MsgBuffer) (message : List UInt8) : MsgBuffer := buffer.after 0 message

/-- The fields are stored one behind the other. -/
theorem storeInts_eq {buffer : MsgBuffer} {a : Nat} {values : List Int}
    (room : a + (intBytes values).length ≤ buffer.allocated) :
    buffer.storeInts a values = some (buffer.after a (intBytes values)) := by
  induction values generalizing buffer a with
  | nil => exact congrArg some (buffer.after_nil a).symm
  | cons value values ih =>
      rw [intBytes_cons, List.length_append, u32Bytes_length] at room
      have here : a + (u32Bytes (toU32 value)).length ≤ buffer.allocated := by
        rw [u32Bytes_length]
        omega
      have beyond : (buffer.after a (u32Bytes (toU32 value))).storeInts (a + 4) values =
          some ((buffer.after a (u32Bytes (toU32 value))).after (a + 4) (intBytes values)) :=
        ih (by rw [after_allocated]; omega)
      rw [storeInts, store_eq here, Option.bind_some, beyond, intBytes_cons]
      exact congrArg some
        (after_append buffer a (u32Bytes (toU32 value)) (intBytes values))

/-- The objects are stored one behind the other. -/
theorem storeObjects_eq {buffer : MsgBuffer} {p : Nat} {objs : List BsonObj}
    (room : p + (objectBytes objs).length ≤ buffer.allocated) :
    buffer.storeObjects p objs = some (buffer.after p (objectBytes objs)) := by
  induction objs generalizing buffer p with
  | nil => exact congrArg some (buffer.after_nil p).symm
  | cons obj objs ih =>
      rw [objectBytes_cons_length] at room
      have size : obj.bytes.length = obj.objsize := rfl
      have here : p + obj.bytes.length ≤ buffer.allocated := by omega
      have beyond : (buffer.after p obj.bytes).storeObjects (p + obj.objsize) objs =
          some ((buffer.after p obj.bytes).after (p + obj.objsize) (objectBytes objs)) :=
        ih (by rw [after_allocated]; omega)
      rw [storeObjects, store_eq here, Option.bind_some, beyond, objectBytes_cons]
      exact congrArg some (after_append buffer p obj.bytes (objectBytes objs))

/-- Fields and what follows them are one message. -/
theorem filled_append (buffer : MsgBuffer) (front rest : List UInt8) :
    (buffer.filled front).after front.length rest = buffer.filled (front ++ rest) := by
  have joined := buffer.after_append 0 front rest
  rwa [Nat.zero_add] at joined

/-- The buffer that the check leaves when realloc finds memory. -/
def reserved (buffer : MsgBuffer) (fresh : Mem) (length : Nat) : MsgBuffer :=
  if buffer.size < length then buffer.grow fresh length else buffer

theorem length_le_reserved {buffer : MsgBuffer} (sound : buffer.Sound) (fresh : Mem)
    (length : Nat) : length ≤ (buffer.reserved fresh length).allocated := by
  have covered := sound.covered
  unfold reserved
  split
  · exact Nat.le_refl length
  · omega

end MsgBuffer

/-- The check succeeds when realloc does. -/
theorem msgCheckBuffer_granted {buffer : MsgBuffer} (sound : buffer.Sound) (fresh : Mem)
    (length : Nat) :
    msgCheckBuffer (some fresh) length buffer =
      some (edbOk, buffer.reserved fresh length) := by
  unfold msgCheckBuffer MsgBuffer.reserved
  by_cases small : buffer.size < length
  · rw [if_pos small, if_pos small, if_neg (by omega), if_neg (by simp [sound.heap])]
    rfl
  · rw [if_neg small, if_neg small]

/-- With room for the message there is nothing to do. -/
theorem msgCheckBuffer_of_room {realloc : Option Mem} {length : Int} {buffer : MsgBuffer}
    (room : length ≤ buffer.size) :
    msgCheckBuffer realloc length buffer = some (edbOk, buffer) := by
  unfold msgCheckBuffer
  rw [if_neg (by omega)]

/-- A builder that has room does not depend on realloc. -/
theorem msgBuild_of_room {size : Int} {fill : MsgBuffer → Option MsgBuffer}
    {buffer : MsgBuffer} (room : size ≤ buffer.size) (realloc realloc' : Option Mem) :
    msgBuild realloc size fill buffer = msgBuild realloc' size fill buffer := by
  rw [msgBuild, msgBuild, msgCheckBuffer_of_room room, msgCheckBuffer_of_room room]

/-- Without room and without memory it leaves the buffer alone. -/
theorem msgBuild_refused {length : Nat} {fill : MsgBuffer → Option MsgBuffer}
    {buffer : MsgBuffer} (sound : buffer.Sound) (short : buffer.size < length) :
    msgBuild none length fill buffer = some (edbOom, buffer) := by
  have refused : msgCheckBuffer none length buffer = some (edbOom, buffer) := by
    unfold msgCheckBuffer
    rw [if_pos short, if_neg (by omega), if_neg (by simp [sound.heap])]
  rw [msgBuild, refused]
  rfl

/-- With room for the message, a builder that only stores it succeeds. -/
theorem msgBuild_granted {buffer : MsgBuffer} (sound : buffer.Sound) (fresh : Mem)
    (message : List UInt8) {fill : MsgBuffer → Option MsgBuffer}
    (stores : ∀ room : MsgBuffer, message.length ≤ room.allocated →
      fill room = some (room.filled message)) :
    msgBuild (some fresh) message.length fill buffer =
      some (edbOk, (buffer.reserved fresh message.length).filled message) := by
  have stored := stores _ (MsgBuffer.length_le_reserved sound fresh message.length)
  rw [msgBuild, msgCheckBuffer_granted sound fresh message.length, Option.bind_some]
  simp only [ne_eq, not_true_eq_false, if_false, stored, Option.map_some]

/-! #### A message with one object -/

/-- The bytes of a message with one object behind `header` bytes of `int` fields. -/
def BsonObj.message (header : Nat) (code : Int) (body : List Int) (obj : BsonObj) : List UInt8 :=
  intBytes ((header + obj.objsize : Nat) :: code :: body) ++ obj.bytes

theorem BsonObj.message_length {header : Nat} {body : List Int} (code : Int) (obj : BsonObj)
    (layout : header = 8 + 4 * body.length) :
    (obj.message header code body).length = header + obj.objsize := by
  have object : obj.bytes.length = obj.objsize := rfl
  rw [BsonObj.message, List.length_append, intBytes_length, List.length_cons, List.length_cons]
  omega

/-- The size of such a message is an `int`. -/
theorem BsonObj.message_size {header : Nat} (obj : BsonObj) (small : header ≤ 16) :
    toI32 ((header : Int) + (obj.objsize : Int)) = (header + obj.objsize : Nat) := by
  have upper := obj.objsize_le
  rw [toI32_of_lt (by omega) (by omega), Int.natCast_add]

/-- With room for the message, its stores spell it. -/
theorem MsgBuffer.storeMessage_eq {room : MsgBuffer} {header : Nat} {body : List Int}
    (code : Int) (obj : BsonObj) (layout : header = 8 + 4 * body.length) (small : header ≤ 16)
    (enough : header + obj.objsize ≤ room.allocated) :
    ((room.storeInts 0 (toI32 (header + obj.objsize) :: code :: body)).bind fun room =>
      room.store header obj.bytes) = some (room.filled (obj.message header code body)) := by
  have object : obj.bytes.length = obj.objsize := rfl
  have ints : (intBytes ((header + obj.objsize : Nat) :: code :: body)).length = header := by
    rw [intBytes_length, List.length_cons, List.length_cons]
    omega
  have joined := MsgBuffer.filled_append room
    (intBytes ((header + obj.objsize : Nat) :: code :: body)) obj.bytes
  rw [ints] at joined
  rw [obj.message_size small, MsgBuffer.storeInts_eq (by omega), Option.bind_some,
    BsonObj.message, ← joined]
  apply MsgBuffer.store_eq
  rw [MsgBuffer.after_allocated]
  omega

theorem msgBuildOne_granted {buffer : MsgBuffer} (sound : buffer.Sound) (fresh : Mem)
    (header : Nat) (code : Int) (body : List Int) (obj : BsonObj)
    (layout : header = 8 + 4 * body.length) (small : header ≤ 16) :
    let message := obj.message header code body
    message.length = header + obj.objsize ∧
      msgBuildOne header code body (some fresh) obj buffer =
        some (edbOk, (buffer.reserved fresh message.length).filled message) := by
  intro message
  have length : message.length = header + obj.objsize := obj.message_length code layout
  refine ⟨length, ?_⟩
  have built := msgBuild_granted sound fresh message
    (fun room enough => MsgBuffer.storeMessage_eq code obj layout small (length ▸ enough))
  rw [length, ← obj.message_size small] at built
  rw [msgBuildOne, built, length]

/-! #### A message with a list of objects -/

theorem toI32_add_left (x y : Int) : toI32 (toI32 x + y) = toI32 (x + y) := by
  unfold toI32
  omega

/-- The loop over the sizes is their sum, reduced to an `int` at the end. -/
theorem addSizes_eq_toI32 {size : Int} (int : toI32 size = size) (objs : List BsonObj) :
    addSizes size objs = toI32 (size + (objectBytes objs).length) := by
  induction objs generalizing size with
  | nil =>
      have none : (objectBytes []).length = 0 := rfl
      rw [none, Int.natCast_zero, Int.add_zero, int]
      rfl
  | cons obj objs ih =>
      have once := toI32_add_left (size + obj.objsize) 0
      rw [Int.add_zero, Int.add_zero] at once
      have rest : addSizes (toI32 (size + obj.objsize)) objs =
          toI32 (toI32 (size + obj.objsize) + (objectBytes objs).length) := ih once
      rw [addSizes, List.foldl_cons, objectBytes_cons_length, Int.natCast_add, ← Int.add_assoc,
        ← toI32_add_left (size + obj.objsize)]
      exact rest

/-- So it is their sum as long as that is an `int`. -/
theorem addSizes_eq {size : Nat} {objs : List BsonObj}
    (fits : size + (objectBytes objs).length < 2147483648) :
    addSizes size objs = (size + (objectBytes objs).length : Nat) := by
  rw [addSizes_eq_toI32 (toI32_of_lt (by omega) (by omega)), toI32_of_lt (by omega) (by omega),
    Int.natCast_add]

/-- The true length of a message with a list of objects. -/
def listLength (objs : List BsonObj) : Nat := sizeofMsgInsert + (objectBytes objs).length

/-- What a builder of a list writes; its first field is the counted size. -/
def listMessage (code : Int) (objs : List BsonObj) : List UInt8 :=
  intBytes [toI32 (listLength objs), code, toI32 objs.length] ++ objectBytes objs

theorem listMessage_length (code : Int) (objs : List BsonObj) :
    (listMessage code objs).length = listLength objs := by
  rw [listMessage, List.length_append, intBytes_length]
  rfl

/-- What a list builder does with the buffer that the check leaves. -/
def fillAll (code : Int) (objs : List BsonObj) (buffer : MsgBuffer) : Option MsgBuffer :=
  (buffer.storeInts 0 [toI32 (listLength objs), code, toI32 objs.length]).bind fun buffer =>
    buffer.storeObjects sizeofMsgInsert objs

theorem msgBuildAll_fill (code : Int) (realloc : Option Mem) (objs : List BsonObj)
    (buffer : MsgBuffer) :
    msgBuildAll sizeofMsgInsert code realloc objs buffer =
      msgBuild realloc (toI32 (listLength objs)) (fillAll code objs) buffer := by
  have counted : addSizes sizeofMsgInsert objs = toI32 (listLength objs) := by
    rw [addSizes_eq_toI32 rfl, listLength, Int.natCast_add]
  rw [msgBuildAll, counted]
  rfl

/-- With room for the true length, the fields and the copied objects spell the message. -/
theorem fillAll_of_room {code : Int} {objs : List BsonObj} {buffer : MsgBuffer}
    (room : listLength objs ≤ buffer.allocated) :
    fillAll code objs buffer = some (buffer.filled (listMessage code objs)) := by
  have header : (intBytes [toI32 (listLength objs), code, toI32 objs.length]).length =
      sizeofMsgInsert := intBytes_length _
  have whole : listLength objs = sizeofMsgInsert + (objectBytes objs).length := rfl
  have joined := buffer.filled_append
    (intBytes [toI32 (listLength objs), code, toI32 objs.length]) (objectBytes objs)
  rw [header] at joined
  rw [fillAll, MsgBuffer.storeInts_eq (by omega), Option.bind_some, listMessage, ← joined]
  apply MsgBuffer.storeObjects_eq
  rw [MsgBuffer.after_allocated]
  omega

/-- With memory, and a size that is an `int`, a list builder writes the message. -/
theorem msgBuildAll_granted {buffer : MsgBuffer} (sound : buffer.Sound) (fresh : Mem)
    (code : Int) (objs : List BsonObj)
    (fits : sizeofMsgInsert + (objectBytes objs).length < 2147483648) :
    let message :=
      intBytes [(sizeofMsgInsert + (objectBytes objs).length : Nat), code, objs.length] ++
        objectBytes objs
    message.length = sizeofMsgInsert + (objectBytes objs).length ∧
      msgBuildAll sizeofMsgInsert code (some fresh) objs buffer =
        some (edbOk, (buffer.reserved fresh message.length).filled message) := by
  intro message
  have counted := length_le_objectBytes objs
  have whole : listLength objs = sizeofMsgInsert + (objectBytes objs).length := rfl
  have size : toI32 (listLength objs) = (listLength objs : Nat) :=
    toI32_of_lt (by omega) (by omega)
  have count : toI32 (objs.length : Int) = objs.length := toI32_of_lt (by omega) (by omega)
  have same : listMessage code objs = message := by rw [listMessage, size, count, whole]
  have length : message.length = listLength objs := by rw [← same, listMessage_length]
  have built := msgBuild_granted sound fresh (listMessage code objs) fun room enough =>
    fillAll_of_room (listMessage_length code objs ▸ enough)
  refine ⟨length, ?_⟩
  rw [msgBuildAll_fill, size, ← length, ← same]
  exact built

/-- A reply without an object. -/
theorem msgBuildReply_none_granted {buffer : MsgBuffer} (sound : buffer.Sound) (fresh : Mem)
    (returnCode : ReturnCode) :
    let message := intBytes [sizeofMsgReply, opReply, returnCode, 0] ++ []
    message.length = sizeofMsgReply ∧
      msgBuildReply (some fresh) returnCode none buffer =
        some (edbOk, (buffer.reserved fresh message.length).filled message) := by
  intro message
  have plain : message = intBytes [sizeofMsgReply, opReply, returnCode, 0] :=
    List.append_nil _
  have length : message.length = sizeofMsgReply := by
    rw [plain, intBytes_length]
    rfl
  refine ⟨length, ?_⟩
  have stored : ∀ room : MsgBuffer, message.length ≤ room.allocated →
      room.storeInts 0 [sizeofMsgReply, opReply, returnCode, 0] =
        some (room.filled message) := by
    intro room enough
    rw [plain] at enough ⊢
    exact MsgBuffer.storeInts_eq (by omega)
  have built := msgBuild_granted sound fresh message stored
  rwa [length] at built ⊢

/-- The overload for one object writes what the overload for a vector writes. -/
theorem msgBuildOne_eq_msgBuildAll (header : Nat) (code : Int) (realloc : Option Mem)
    (obj : BsonObj) (buffer : MsgBuffer) :
    msgBuildOne header code [1] realloc obj buffer =
      msgBuildAll header code realloc [obj] buffer := by
  have stored : ∀ room : MsgBuffer,
      room.storeObjects header [obj] = room.store header obj.bytes := by
    intro room
    simp only [MsgBuffer.storeObjects]
    exact Option.bind_fun_some _
  have one : toI32 (([obj].length : Nat) : Int) = 1 := by
    rw [List.length_singleton, toI32_of_lt (by decide) (by decide)]
    rfl
  have sum : addSizes header [obj] = toI32 (header + obj.objsize) := rfl
  simp only [msgBuildOne, msgBuildAll, sum, one, stored]

/-! ### What an extractor gives back -/

/-- The message length of a message is read back. -/
theorem messageLen_of_spells {m : Mem} {size : Nat} {code : Int} {body : List Int}
    {data : List UInt8} (fits : size < 2147483648)
    (spelled : Spells m (size :: code :: body) data) : messageLen m = size :=
  Spells.int_eq [] (by omega) (by omega) spelled

theorem opCode_of_spells {m : Mem} {size code : Int} {body : List Int}
    {data : List UInt8} (lower : -2147483648 ≤ code) (upper : code < 2147483648)
    (spelled : Spells m (size :: code :: body) data) : opCode m = code :=
  Spells.int_eq [size] lower upper spelled

/-- The extractor of a counted message. -/
theorem msgExtractCounted_of_spells {m : Mem} {size count : Nat} {code : Int}
    {data : List UInt8} (lower : sizeofMsgInsert ≤ size) (fits : size < 2147483648)
    (low : -2147483648 ≤ code) (high : code < 2147483648) (counted : count < 2147483648)
    (spelled : Spells m [(size : Int), code, count] data) :
    msgExtractCounted code m =
      .ok (count, if 0 = count then none else some sizeofMsgInsert) := by
  have length := messageLen_of_spells fits spelled
  have same := opCode_of_spells low high spelled
  have number : intAtAddress m 8 = count :=
    Spells.int_eq [(size : Int), code] (by omega) (by omega) spelled
  have zero : (0 : Int) = count ↔ 0 = count := by omega
  rw [msgExtractCounted, length, same, number, if_neg (by omega), if_neg (by simp)]
  simp only [zero]

/-- The extractor of a message with one object behind the header. -/
theorem msgExtractKey_of_spells {m : Mem} {size code : Int} {key : BsonObj}
    (long : sizeofMsgHeader ≤ messageLen m) (same : opCode m = code)
    (spelled : Spells m [size, code] key.bytes) :
    msgExtractKey code m = .returns (.ok key.bytes) := by
  have found : bsonObjAt m sizeofMsgHeader = some key.bytes :=
    bsonObjAt_of_spelled spelled.data_eq
  rw [msgExtractKey, if_neg (by omega), if_neg (by simp [same]), found]

/-- Every extractor for another operation refuses the message. -/
structure RefusedByOthers (code : Int) (m : Mem) : Prop where
  reply : code ≠ opReply → msgExtraReply m = .error edbInvalidArg
  insert : code ≠ opInsert → msgExtractInsert m = .error edbInvalidArg
  command : code ≠ opCommand → msgExtractCommand m = .error edbInvalidArg
  delete : code ≠ opDelete → msgExtractDelete m = .returns (.error edbInvalidArg)
  query : code ≠ opQuery → msgExtractQuery m = .returns (.error edbInvalidArg)

theorem msgExtractCounted_refuses {m : Mem} {code expected : Int} (same : opCode m = code)
    (other : code ≠ expected) : msgExtractCounted expected m = .error edbInvalidArg := by
  rw [msgExtractCounted, same, if_pos other, ite_self]

theorem msgExtractKey_refuses {m : Mem} {code expected : Int} (same : opCode m = code)
    (other : code ≠ expected) :
    msgExtractKey expected m = .returns (.error edbInvalidArg) := by
  rw [msgExtractKey, same, if_pos other, ite_self]

/-- Each extractor compares `opCode` with its own. -/
theorem refusedByOthers {m : Mem} {code : Int} (same : opCode m = code) :
    RefusedByOthers code m where
  reply other := by rw [msgExtraReply, same, if_pos other, ite_self]
  insert := msgExtractCounted_refuses same
  command := msgExtractCounted_refuses same
  delete := msgExtractKey_refuses same
  query := msgExtractKey_refuses same

/-! ### Round trips -/

/-- A builder succeeded and wrote exactly `messageLen` bytes: the message lies at the
start of the buffer the check left, which has room for it, and nothing else changed. -/
structure Wrote (realloc : Option Mem) (before : MsgBuffer)
    (built : Option (ReturnCode × MsgBuffer)) (after : MsgBuffer) : Prop where
  returned : built = some (edbOk, after)
  exact : ∃ checked message,
    msgCheckBuffer realloc message.length before = some (edbOk, checked) ∧
      message.length ≤ checked.allocated ∧ after = checked.filled message ∧
        messageLen after.contents = message.length

/-- A builder that fills the buffer with a message of `size` bytes wrote it. -/
theorem wrote_of_granted {fresh : Mem} {buffer : MsgBuffer} (sound : buffer.Sound)
    {built : Option (ReturnCode × MsgBuffer)} {size : Nat} {code : Int} {body : List Int}
    {data : List UInt8} (fits : size < 2147483648)
    (length : (intBytes (size :: code :: body) ++ data).length = size)
    (granted : built = some (edbOk,
      (buffer.reserved fresh (intBytes (size :: code :: body) ++ data).length).filled
        (intBytes (size :: code :: body) ++ data))) :
    ∃ after, Wrote (some fresh) buffer built after ∧
      Spells after.contents (size :: code :: body) data := by
  have spelled : Spells
      (writeBytes (buffer.reserved fresh
        (intBytes (size :: code :: body) ++ data).length).contents 0
        (intBytes (size :: code :: body) ++ data)) (size :: code :: body) data :=
    Spells.of_written
  refine ⟨_, ⟨granted, _, _, msgCheckBuffer_granted sound fresh _,
    MsgBuffer.length_le_reserved sound fresh _, rfl, ?_⟩, spelled⟩
  exact (messageLen_of_spells fits spelled).trans (congrArg Nat.cast length.symm)

/-- What an extractor of a counted message makes of a list of objects: the length of the
list and a start, NULL for the empty list, from which stepping yields the list. -/
structure ListRoundTrip (extract : Mem → Except ReturnCode (Int × Option Nat))
    (objs : List BsonObj) (m : Mem) : Prop where
  empty : objs = [] → extract m = .ok (0, none)
  start : objs ≠ [] → extract m = .ok (objs.length, some sizeofMsgInsert)
  objects : objectsFrom m objs.length sizeofMsgInsert = some (objs.map BsonObj.bytes)

/-- What `msgExtraReply` makes of a reply. -/
structure ReplyRoundTrip (returnCode : ReturnCode) (objReturn : Option BsonObj)
    (m : Mem) : Prop where
  extracted : msgExtraReply m =
    .ok ⟨returnCode, (objReturn.toList.length : Nat), objReturn.map fun _ => sizeofMsgReply⟩
  object : ∀ obj ∈ objReturn, bsonObjAt m sizeofMsgReply = some obj.bytes

/-- A counted message goes through the wire. -/
theorem counted_roundTrip {buffer : MsgBuffer} (sound : buffer.Sound) (fresh : Mem)
    (code : Int) (low : -2147483648 ≤ code) (high : code < 2147483648)
    {objs : List BsonObj}
    (fits : sizeofMsgInsert + (objectBytes objs).length < 2147483648) :
    ∃ after, Wrote (some fresh) buffer
        (msgBuildAll sizeofMsgInsert code (some fresh) objs buffer) after ∧
      ListRoundTrip (msgExtractCounted code) objs after.contents ∧
      RefusedByOthers code after.contents := by
  have counted := length_le_objectBytes objs
  obtain ⟨length, granted⟩ := msgBuildAll_granted sound fresh code objs fits
  obtain ⟨after, wrote, spelled⟩ := wrote_of_granted sound fits length granted
  have extracted := msgExtractCounted_of_spells (Nat.le_add_right _ _) fits low high
    (by omega) spelled
  refine ⟨after, wrote, ⟨?_, ?_, ?_⟩, refusedByOthers (opCode_of_spells low high spelled)⟩
  · intro empty
    subst empty
    exact extracted
  · intro nonempty
    have positive := List.length_pos_iff.mpr nonempty
    rwa [if_neg (by omega)] at extracted
  · exact objectsFrom_of_spelled spelled.data_eq

/-- A message with one key goes through the wire. -/
theorem key_roundTrip {buffer : MsgBuffer} (sound : buffer.Sound) (fresh : Mem)
    (code : Int) (low : -2147483648 ≤ code) (high : code < 2147483648) (key : BsonObj) :
    ∃ after, Wrote (some fresh) buffer
        (msgBuildOne sizeofMsgHeader code [] (some fresh) key buffer) after ∧
      msgExtractKey code after.contents = .returns (.ok key.bytes) ∧
      RefusedByOthers code after.contents := by
  have upper := key.objsize_le
  have header : sizeofMsgHeader = 8 := rfl
  obtain ⟨length, granted⟩ :=
    msgBuildOne_granted sound fresh sizeofMsgHeader code [] key rfl (by decide)
  obtain ⟨after, wrote, spelled⟩ := wrote_of_granted sound (by omega) length granted
  have size := messageLen_of_spells (by omega) spelled
  have same := opCode_of_spells low high spelled
  refine ⟨after, wrote, ?_, refusedByOthers same⟩
  exact msgExtractKey_of_spells (by omega) same spelled

/-- `msgExtraReply` on a reply whose `numReturn` is 0 or 1. -/
theorem msgExtraReply_of_spells {m : Mem} {size : Nat} {returnCode numReturn : Int}
    {data : List UInt8} (lower : sizeofMsgReply ≤ size) (fits : size < 2147483648)
    (low : -2147483648 ≤ returnCode) (high : returnCode < 2147483648)
    (few : numReturn = 0 ∨ numReturn = 1)
    (spelled : Spells m [(size : Int), opReply, returnCode, numReturn] data) :
    opCode m = opReply ∧
      msgExtraReply m = .ok ⟨returnCode, numReturn,
        if 0 = numReturn then none else some sizeofMsgReply⟩ := by
  have length := messageLen_of_spells fits spelled
  have same := opCode_of_spells (by decide) (by decide) spelled
  have code : intAtAddress m 8 = returnCode :=
    Spells.int_eq [(size : Int), opReply] low high spelled
  have count : intAtAddress m 12 = numReturn :=
    Spells.int_eq [(size : Int), opReply, returnCode] (by omega) (by omega) spelled
  refine ⟨same, ?_⟩
  rw [msgExtraReply, length, same, code, count, if_neg (by omega), if_neg (by simp)]

/-- A reply goes through the wire. -/
theorem reply_roundTrip {buffer : MsgBuffer} (sound : buffer.Sound) (fresh : Mem)
    {returnCode : ReturnCode} (low : -2147483648 ≤ returnCode)
    (high : returnCode < 2147483648) (objReturn : Option BsonObj) :
    ∃ after, Wrote (some fresh) buffer
        (msgBuildReply (some fresh) returnCode objReturn buffer) after ∧
      ReplyRoundTrip returnCode objReturn after.contents ∧
      RefusedByOthers opReply after.contents := by
  have header : sizeofMsgReply = 16 := rfl
  cases objReturn with
  | none =>
      obtain ⟨length, granted⟩ := msgBuildReply_none_granted sound fresh returnCode
      obtain ⟨after, wrote, spelled⟩ := wrote_of_granted sound (by omega) length granted
      obtain ⟨same, extracted⟩ := msgExtraReply_of_spells (Nat.le_refl _) (by omega) low high
        (Or.inl rfl) spelled
      exact ⟨after, wrote, ⟨extracted, by simp⟩, refusedByOthers same⟩
  | some obj =>
      have upper := obj.objsize_le
      obtain ⟨length, granted⟩ :=
        msgBuildOne_granted sound fresh sizeofMsgReply opReply [returnCode, 1] obj rfl
          (by decide)
      obtain ⟨after, wrote, spelled⟩ := wrote_of_granted sound (by omega) length granted
      obtain ⟨same, extracted⟩ := msgExtraReply_of_spells (Nat.le_add_right _ _) (by omega)
        low high (Or.inr rfl) spelled
      refine ⟨after, wrote, ⟨extracted, ?_⟩, refusedByOthers same⟩
      intro other member
      cases member
      exact bsonObjAt_of_spelled spelled.data_eq

/-- Every message kind goes through the wire unchanged, from every buffer and for every
object, key, return code and list of objects that makes a message shorter than 2^31. -/
theorem messages_roundTrip (fresh : Mem) (buffer : MsgBuffer) (sound : buffer.Sound) :
    (∀ objs, sizeofMsgInsert + (objectBytes objs).length < 2147483648 →
      ∃ after, Wrote (some fresh) buffer (msgBuildInsertAll (some fresh) objs buffer) after ∧
        ListRoundTrip msgExtractInsert objs after.contents ∧
        RefusedByOthers opInsert after.contents) ∧
    (∀ objs, sizeofMsgInsert + (objectBytes objs).length < 2147483648 →
      ∃ after, Wrote (some fresh) buffer (msgBuildCommandAll (some fresh) objs buffer) after ∧
        ListRoundTrip msgExtractCommand objs after.contents ∧
        RefusedByOthers opCommand after.contents) ∧
    (∀ key, ∃ after, Wrote (some fresh) buffer (msgBuildDelete (some fresh) key buffer) after ∧
      msgExtractDelete after.contents = .returns (.ok key.bytes) ∧
      RefusedByOthers opDelete after.contents) ∧
    (∀ key, ∃ after, Wrote (some fresh) buffer (msgBuildQuery (some fresh) key buffer) after ∧
      msgExtractQuery after.contents = .returns (.ok key.bytes) ∧
      RefusedByOthers opQuery after.contents) ∧
    (∀ (returnCode : ReturnCode) objReturn, -2147483648 ≤ returnCode →
      returnCode < 2147483648 →
      ∃ after, Wrote (some fresh) buffer
          (msgBuildReply (some fresh) returnCode objReturn buffer) after ∧
        ReplyRoundTrip returnCode objReturn after.contents ∧
        RefusedByOthers opReply after.contents) ∧
    (∀ realloc obj, msgBuildInsert realloc obj buffer =
      msgBuildInsertAll realloc [obj] buffer) ∧
    (∀ realloc obj, msgBuildCommand realloc obj buffer =
      msgBuildCommandAll realloc [obj] buffer) := by
  refine ⟨?insert, ?command, ?delete, ?query, ?reply, ?oneInsert, ?oneCommand⟩
  case insert =>
    intro objs fits
    exact counted_roundTrip sound fresh opInsert (by decide) (by decide) fits
  case command =>
    intro objs fits
    exact counted_roundTrip sound fresh opCommand (by decide) (by decide) fits
  case delete =>
    intro key
    exact key_roundTrip sound fresh opDelete (by decide) (by decide) key
  case query =>
    intro key
    exact key_roundTrip sound fresh opQuery (by decide) (by decide) key
  case reply =>
    intro returnCode objReturn low high
    exact reply_roundTrip sound fresh low high objReturn
  case oneInsert =>
    intro realloc obj
    exact msgBuildOne_eq_msgBuildAll sizeofMsgInsert opInsert realloc obj buffer
  case oneCommand =>
    intro realloc obj
    exact msgBuildOne_eq_msgBuildAll sizeofMsgInsert opCommand realloc obj buffer

/-- Two objects go through a buffer of 16 bytes that holds an earlier message. -/
theorem messages_roundTrip_twoObjects :
    ∃ after,
      Wrote (some fun _ => 0) ⟨16, 16, true, fun _ => 7⟩
        (msgBuildInsertAll (some fun _ => 0) [binDataRecord [1, 2] (by decide), .empty]
          ⟨16, 16, true, fun _ => 7⟩) after ∧
      ListRoundTrip msgExtractInsert [binDataRecord [1, 2] (by decide), .empty]
        after.contents ∧
      RefusedByOthers opInsert after.contents := by
  have sound : (MsgBuffer.mk 16 16 true fun _ => 7).Sound := ⟨rfl, by decide⟩
  exact (messages_roundTrip (fun _ => 0) _ sound).1
    [binDataRecord [1, 2] (by decide), .empty] (by decide)

end EmeraldDb
