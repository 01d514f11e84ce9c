/-
Module: EmeraldDb.Bson.Json
Purpose: How fromjson builds an object: what the JSON grammar matches, the semantic actions it
  makes on the way, the ObjectBuilder they work on, and the document that the text denotes.
Trusted boundary: human-reviewed spec; Boost.Spirit matches the text with the grammar and
  reads the numbers
Main exports: JsonMembers, JsonAction, JsonMembers.objectActions, ObjectBuilder,
  ObjectBuilder.perform, fromActions, JsonMembers.fields
-/
import EmeraldDb.Bson.Base64
import EmeraldDb.Bson.Builder
import EmeraldDb.Lib.CString
import EmeraldDb.Lib.Decimal

namespace EmeraldDb

open ByteMemory

/-! ### What the grammar matches -/

/-- An item between the quotes of a string. -/
inductive JsonChar where
  /-- a character that stands for itself, also behind a backslash -/
  | plain (c : UInt8)
  /-- a backslash and a letter that has the action `chE` -/
  | escaped (letter : UInt8)
  /-- `\u` and four hexadecimal digits -/
  | unicode (first second : UInt8)
deriving DecidableEq, Repr

/-- `fieldName`; `singleQuoteStr` has the actions of `str`. -/
inductive JsonName where
  | quoted (chars : List JsonChar)
  | unquoted (text : List UInt8)

/-- The bytes of an `OID`. -/
abbrev Oid := { bytes : List UInt8 // bytes.length = 12 }

/-- The actions that store what they are fed for a later one.  Only these stand inside the
alternatives of `value`, and so only these are made by an alternative that fails. -/
inductive StoringAction where
  | chClear
  | ch (c : UInt8)
  | chE (c : UInt8)
  | chU (first second : UInt8)
  | dbrefNS
  | oidValue (id : Oid)
  | binDataBinary (encoded : List UInt8)
  | binDataType (subtype : UInt8)
  | dateValue (v : UInt64)
  | regexValue
  | regexOptions (options : List UInt8)

mutual

/-- `value`. -/
inductive JsonValue where
  | str (chars : List JsonChar)
  | number (bits : UInt64)
  | integer (num : Int64)
  | array (elements : JsonElements)
  | bool (val : Bool)
  | null
  | date (v : UInt64)
  | oid (id : Oid)
  | bindata (binary : List UInt8) (subtype : UInt8)
  | dbref (ns : List JsonChar) (id : Oid)
  | regex (pattern : List JsonChar) (options : List UInt8)
  | object (members : JsonMembers)

/-- `members`, which may be missing.  In front of a value the parser may have tried
alternatives that failed. -/
inductive JsonMembers where
  | nil
  | cons (name : JsonName) (tried : List StoringAction) (value : JsonValue) (rest : JsonMembers)

/-- `elements`, which may be missing. -/
inductive JsonElements where
  | nil
  | cons (tried : List StoringAction) (value : JsonValue) (rest : JsonElements)

end

/-! ### The actions -/

/-- The semantic actions, with what the parser hands them. -/
inductive JsonAction where
  | store (action : StoringAction)
  | objectStart
  | arrayStart
  | arrayNext
  | fieldNameEnd
  | unquotedFieldNameEnd (name : List UInt8)
  | stringEnd
  | numberValue (bits : UInt64)
  | intValue (num : Int64)
  | subobjectEnd
  | arrayEnd
  | trueValue
  | falseValue
  | nullValue
  | dbrefEnd
  | oidEnd
  | binDataEnd
  | dateEnd
  | regexEnd

def JsonChar.action : JsonChar → StoringAction
  | .plain c => .ch c
  | .escaped letter => .chE letter
  | .unicode first second => .chU first second

/-- `str`: the opening quote, the items, and what follows the closing quote. -/
def strActions (chars : List JsonChar) (last : JsonAction) : List JsonAction :=
  .store .chClear :: chars.map (fun c => .store c.action) ++ [last]

def JsonName.actions : JsonName → List JsonAction
  | .quoted chars => strActions chars .fieldNameEnd
  | .unquoted text => [.unquotedFieldNameEnd text]

mutual

/-- The actions of a value, in the order in which the grammar makes them. -/
def JsonValue.actions : JsonValue → List JsonAction
  | .str chars => strActions chars .stringEnd
  | .number bits => [.numberValue bits]
  | .integer num => [.intValue num]
  | .array elements => .arrayStart :: elements.actions ++ [.arrayEnd]
  | .bool val => [if val then .trueValue else .falseValue]
  | .null => [.nullValue]
  | .date v => [.store (.dateValue v), .dateEnd]
  | .oid id => [.store (.oidValue id), .oidEnd]
  | .bindata binary subtype =>
      [.store (.binDataBinary binary), .store (.binDataType subtype), .binDataEnd]
  | .dbref ns id => strActions ns (.store .dbrefNS) ++ [.store (.oidValue id), .dbrefEnd]
  | .regex pattern options =>
      strActions pattern (.store .regexValue) ++ [.store (.regexOptions options), .regexEnd]
  | .object members => .objectStart :: members.actions ++ [.subobjectEnd]

def JsonMembers.actions : JsonMembers → List JsonAction
  | .nil => []
  | .cons name tried value rest =>
      name.actions ++ tried.map .store ++ value.actions ++ rest.actions

/-- The elements behind an opening bracket. -/
def JsonElements.actions : JsonElements → List JsonAction
  | .nil => []
  | .cons tried value rest => tried.map .store ++ value.actions ++ rest.moreActions

/-- The elements behind another one, each with the comma in front of it. -/
def JsonElements.moreActions : JsonElements → List JsonAction
  | .nil => []
  | .cons tried value rest =>
      .arrayNext :: (tried.map .store ++ value.actions ++ rest.moreActions)

end

/-- `object`, with which the grammar starts. -/
def JsonMembers.objectActions (members : JsonMembers) : List JsonAction :=
  .objectStart :: members.actions

/-! ### What was stored -/

/-- The members of `ObjectBuilder` that hold what was stored. -/
structure Stored where
  ss : List UInt8
  ns : List UInt8
  oid : Oid
  binData : List UInt8
  binDataType : UInt8
  regex : List UInt8
  regexOptions : List UInt8
  date : UInt64

/-- The character that `chE` writes; `none` is its assertion. -/
def unescaped : UInt8 → Option UInt8
  | 34 => some 34
  | 39 => some 39
  | 92 => some 92
  | 47 => some 47
  | 98 => some 8
  | 102 => some 12
  | 110 => some 10
  | 114 => some 13
  | 116 => some 9
  | 118 => some 11
  | _ => none

/-- What `chU` writes for a code unit. -/
def unitBytes (first second : UInt8) : List UInt8 :=
  if first = 0 ∧ second < 0x80 then [second]
  else if first < 0x08 then
    [(0xc0 : UInt8) ||| (first <<< 2 ||| second >>> 6), (0x80 : UInt8) ||| (0x3f &&& second)]
  else
    [(0xe0 : UInt8) ||| first >>> 4,
      (0x80 : UInt8) ||| ((0x3f : UInt8) &&& (first <<< 2 ||| second >>> 6)),
      (0x80 : UInt8) ||| (0x3f &&& second)]

/-- The storing actions; `none` is an assertion. -/
def Stored.perform (stored : Stored) : StoringAction → Option Stored
  | .chClear => some { stored with ss := [] }
  | .ch c => some { stored with ss := stored.ss ++ [c] }
  | .chE c => (unescaped c).map fun o => { stored with ss := stored.ss ++ [o] }
  | .chU first second => some { stored with ss := stored.ss ++ unitBytes first second }
  | .dbrefNS => some { stored with ns := stored.ss, ss := [] }
  | .oidValue id => some { stored with oid := id }
  | .binDataBinary encoded =>
      -- "Badly formatted bindata"
      if encoded.length % 4 = 0 then
        (Base64.decode encoded).map fun binData => { stored with binData := binData }
      else none
  | .binDataType subtype => some { stored with binDataType := subtype }
  | .dateValue v => some { stored with date := v }
  | .regexValue => some { stored with regex := stored.ss, ss := [] }
  | .regexOptions options => some { stored with regexOptions := options }

/-! ### The builders -/

/-- What `builders`, `fieldNames` and `indexes` hold at one place. -/
structure BuilderFrame where
  offset : Nat
  fieldName : List UInt8
  index : Nat

/-- The buffer of the first builder, in which the others work too, and the builders, the
`back` of the vectors first. -/
structure BuilderStack where
  buffer : BufBuilder
  frames : List BuilderFrame

namespace BuilderStack

/-- A builder whose size lies at the offset. -/
def push (s : BuilderStack) (buffer : BufBuilder) (offset : Nat) : BuilderStack where
  buffer := buffer
  frames := ⟨offset, [], 0⟩ :: s.frames

def init (s : BuilderStack) : Option BuilderStack :=
  newBuilder.map fun buffer => s.push buffer 4

/-- Type and name of a field; the name is passed on as a C string. -/
def startField (s : BuilderStack) (type : UInt8) : Option BufBuilder :=
  match s.frames with
  | [] => none
  | back :: _ => (s.buffer.appendChar type).bind fun b => b.appendStr (cString back.fieldName)

/-- `pushObject` and `pushArray`. -/
def pushDocument (s : BuilderStack) (kind : DocumentKind) : Option BuilderStack :=
  (s.startField kind.typeCode).bind fun buffer =>
    (buffer.append [0, 0, 0, 0]).map fun sub => s.push sub buffer.contents.length

/-- `append` of a value under the current name. -/
def append (s : BuilderStack) (value : BsonValue) : Option BuilderStack :=
  (s.startField value.type).bind fun b =>
    (appendValue b value).map fun buffer => { s with buffer := buffer }

def setFieldName (s : BuilderStack) (name : List UInt8) : BuilderStack :=
  match s.frames with
  | [] => s
  | back :: outer => { s with frames := { back with fieldName := name } :: outer }

def nameFromIndex (s : BuilderStack) : BuilderStack :=
  match s.frames with
  | [] => s
  | back :: _ => s.setFieldName (Decimal.numeral back.index)

/-- `++indexes.back()`. -/
def nextIndex (s : BuilderStack) : BuilderStack :=
  match s.frames with
  | [] => s
  | back :: outer => { s with frames := { back with index := back.index + 1 } :: outer }

/-- The object of the last builder, which is no longer there.  Only the first one owns its
buffer. -/
def pop (s : BuilderStack) : Option (List UInt8 × BuilderStack) :=
  match s.frames with
  | [] => none
  | [_] => (finishObject s.buffer).map fun obj => (obj, { s with frames := [] })
  | back :: outer =>
      (doneAt s.buffer back.offset).map fun buffer =>
        (buffer.contents.drop back.offset, { buffer := buffer, frames := outer })

end BuilderStack

/-- `ObjectBuilder`. -/
structure ObjectBuilder where
  stack : BuilderStack
  stored : Stored

/-- The names that `fieldNameEnd` refuses: `$oid`, `$binary`, `$type`, `$date`, `$regex` and
`$options`. -/
def reservedNames : List (List UInt8) :=
  [[36, 111, 105, 100], [36, 98, 105, 110, 97, 114, 121], [36, 116, 121, 112, 101],
    [36, 100, 97, 116, 101], [36, 114, 101, 103, 101, 120],
    [36, 111, 112, 116, 105, 111, 110, 115]]

/-- Eight bytes of an integer. -/
def wordBytes (v : UInt64) : List UInt8 :=
  u32Bytes (v.toNat % 4294967296) ++ u32Bytes (v.toNat / 4294967296)

namespace BsonValue

theorem word_sized (v : UInt64) : (wordBytes v).length = 8 := rfl

theorem bool_sized (byte : UInt8) : [byte].length = ScalarKind.bool.width := rfl

theorem null_sized : ([] : List UInt8).length = ScalarKind.jstNULL.width := rfl

/-- `append` of a `double`. -/
def double (bits : UInt64) : BsonValue := .scalar .numberDouble (wordBytes bits) (word_sized bits)

/-- `appendDate`. -/
def date (v : UInt64) : BsonValue := .scalar .date (wordBytes v) (word_sized v)

/-- `appendBool`. -/
def bool (byte : UInt8) : BsonValue := .scalar .bool [byte] (bool_sized byte)

/-- `appendNull`. -/
def null : BsonValue := .scalar .jstNULL [] null_sized

/-- `appendOID`. -/
def oid (id : Oid) : BsonValue := .scalar .jstOID id.1 id.2

end BsonValue

/-- What `intValue` appends: an `int` if the number is in its range. -/
def intNumber (num : Int64) : BsonValue :=
  if -2147483648 ≤ num.toInt ∧ num.toInt ≤ 2147483647 then
    .scalar .numberInt (u32Bytes (num.toUInt64.toNat % 4294967296)) (u32Bytes_length _)
  else .scalar .numberLong (wordBytes num.toUInt64) (BsonValue.word_sized _)

namespace ObjectBuilder

/-- Append a value, behind which nothing of the string is left. -/
def appendString (b : ObjectBuilder) (value : BsonValue) : Option ObjectBuilder :=
  (b.stack.append value).map fun stack => ⟨stack, { b.stored with ss := [] }⟩

def append (b : ObjectBuilder) (value : BsonValue) : Option ObjectBuilder :=
  (b.stack.append value).map fun stack => { b with stack := stack }

/-- The semantic actions; `none` is an assertion. -/
def perform (b : ObjectBuilder) : JsonAction → Option ObjectBuilder
  | .store action => (b.stored.perform action).map fun stored => { b with stored := stored }
  | .objectStart =>
      (if b.stack.frames.isEmpty then b.stack.init else b.stack.pushDocument .object).map
        fun stack => { b with stack := stack }
  | .arrayStart =>
      (b.stack.pushDocument .array).map fun stack => { b with stack := stack.nameFromIndex }
  | .arrayNext => some { b with stack := b.stack.nextIndex.nameFromIndex }
  | .fieldNameEnd =>
      -- "Invalid use of reserved field name"
      if b.stored.ss ∈ reservedNames then none
      else some ⟨b.stack.setFieldName b.stored.ss, { b.stored with ss := [] }⟩
  | .unquotedFieldNameEnd name => some { b with stack := b.stack.setFieldName name }
  | .stringEnd => b.appendString (.text .string b.stored.ss)
  | .numberValue bits => b.append (.double bits)
  | .intValue num => b.append (intNumber num)
  | .subobjectEnd => b.stack.pop.map fun popped => { b with stack := popped.2 }
  | .arrayEnd => b.stack.pop.map fun popped => { b with stack := popped.2 }
  | .trueValue => b.append (.bool 1)
  | .falseValue => b.append (.bool 0)
  | .nullValue => b.append .null
  | .dbrefEnd => b.append (.dbRef b.stored.ns b.stored.oid.1 b.stored.oid.2)
  | .oidEnd => b.append (.oid b.stored.oid)
  | .binDataEnd => b.append (.binData b.stored.binDataType b.stored.binData)
  | .dateEnd => b.append (.date b.stored.date)
  | .regexEnd => b.append (.regEx b.stored.regex b.stored.regexOptions)

/-- One action after the other. -/
def run (b : ObjectBuilder) : List JsonAction → Option ObjectBuilder
  | [] => some b
  | action :: rest => (b.perform action).bind fun b => b.run rest

end ObjectBuilder

/-- `fromjson` of a text that made these actions: the object of the only builder.  The members
that hold what is stored begin with anything. -/
def fromActions (stored : Stored) (actions : List JsonAction) : Option (List UInt8) :=
  (ObjectBuilder.run ⟨⟨.new 0, []⟩, stored⟩ actions).bind fun b =>
    b.stack.pop.bind fun popped => if popped.2.frames.isEmpty then some popped.1 else none

/-! ### What a text denotes -/

/-- No assertion fires. -/
def StoringAction.passes : StoringAction → Bool
  | .chE c => (unescaped c).isSome
  | .binDataBinary encoded => encoded.length % 4 = 0
  | _ => true

def JsonChar.bytes : JsonChar → Option (List UInt8)
  | .plain c => some [c]
  | .escaped letter => (unescaped letter).map fun o => [o]
  | .unicode first second => some (unitBytes first second)

def textOf : List JsonChar → Option (List UInt8)
  | [] => some []
  | c :: chars => c.bytes.bind fun bytes => (textOf chars).map fun text => bytes ++ text

def JsonName.text : JsonName → Option (List UInt8)
  | .quoted chars =>
      (textOf chars).bind fun name => if name ∈ reservedNames then none else some name
  | .unquoted text => some text

mutual

def JsonValue.value : JsonValue → Option BsonValue
  | .str chars => (textOf chars).map fun text => .text .string text
  | .number bits => some (.double bits)
  | .integer num => some (intNumber num)
  | .array elements => (elements.fields 0).map fun fields => .document .array fields
  | .bool val => some (.bool (if val then 1 else 0))
  | .null => some .null
  | .date v => some (.date v)
  | .oid id => some (.oid id)
  | .bindata binary subtype => (Base64.decode binary).map fun data => .binData subtype data
  | .dbref ns id => (textOf ns).map fun ns => .dbRef ns id.1 id.2
  | .regex pattern options => (textOf pattern).map fun pattern => .regEx pattern options
  | .object members => members.fields.map fun fields => .document .object fields

/-- The fields of an object, whose names end at a zero. -/
def JsonMembers.fields : JsonMembers → Option BsonFields
  | .nil => some .nil
  | .cons name tried value rest =>
      name.text.bind fun name =>
        if tried.all StoringAction.passes then
          value.value.bind fun value =>
            rest.fields.map fun rest => .cons (cString name) value rest
        else none

/-- The fields of an array, whose names are the indexes. -/
def JsonElements.fields (i : Nat) : JsonElements → Option BsonFields
  | .nil => some .nil
  | .cons tried value rest =>
      if tried.all StoringAction.passes then
        value.value.bind fun value =>
          (rest.fields (i + 1)).map fun rest => .cons (Decimal.numeral i) value rest
      else none

end

end EmeraldDb
