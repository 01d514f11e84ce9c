/-
Module: EmeraldDb.Proofs.BsonBuilder
Purpose: BSONObjBuilder writes exactly the documents whose object is not too large, and what it
  writes is the format as long as its lengths are ints; the assertion on the growing buffer
  never fires before that.
Trusted boundary: none
Main exports: BsonFields.written, BsonFields.Short, Appended, Appended.bind,
  appendFields_appended, buildObject_iff, readObject_built
-/
import EmeraldDb.Proofs.BsonFormat

namespace EmeraldDb

open ByteMemory

/-! ### What the appends write -/

/-- One piece behind the other. -/
def joined (first second : Option (List UInt8)) : Option (List UInt8) :=
  first.bind fun piece => second.map fun next => piece ++ next

/-- A text with its length. -/
def writtenText (text : List UInt8) : Option (List UInt8) :=
  joined (some (u32Bytes (text.length + 1))) (BufBuilder.copied (text ++ [0]))

mutual

/-- The bytes that are asked for by the `append` functions, whose lengths wrap. -/
def BsonValue.written : BsonValue → Option (List UInt8)
  | .scalar _ bytes _ => some bytes
  | .text _ text => writtenText text
  | .document _ fields => fields.written.bind fun elements => some (documentBytes elements)
  | .binData subtype payload =>
      joined (some (u32Bytes payload.length)) (joined (some [subtype]) (BufBuilder.copied payload))
  | .regEx regex options =>
      joined (BufBuilder.copied (regex ++ [0])) (BufBuilder.copied (options ++ [0]))
  | .dbRef ns oid _ => joined (writtenText ns) (some oid)
  | .codeWScope code scope =>
      scope.written.bind fun elements =>
        joined (some (u32Bytes (8 + (code.length + 1) + (elements.length + 5))))
          (joined (writtenText code) (some (documentBytes elements)))

def BsonFields.written : BsonFields → Option (List UInt8)
  | .nil => some []
  | .cons name value rest =>
      joined (joined (joined (some [value.type]) (BufBuilder.copied (name ++ [0]))) value.written)
        rest.written

end

mutual

/-- The lengths of names, texts and payloads are `int`s. -/
def BsonValue.Short : BsonValue → Prop
  | .scalar _ _ _ => True
  | .text _ text => text.length + 1 < 2147483648
  | .document _ fields => fields.Short
  | .binData _ payload => payload.length < 2147483648
  | .regEx regex options => regex.length + 1 < 2147483648 ∧ options.length + 1 < 2147483648
  | .dbRef ns _ _ => ns.length + 1 < 2147483648
  | .codeWScope code scope => code.length + 1 < 2147483648 ∧ scope.Short

def BsonFields.Short : BsonFields → Prop
  | .nil => True
  | .cons name value rest => name.length + 1 < 2147483648 ∧ value.Short ∧ rest.Short

end

theorem joined_some (first second : List UInt8) :
    joined (some first) (some second) = some (first ++ second) := rfl

theorem copied_short {bytes : List UInt8} (short : bytes.length < 2147483648) :
    BufBuilder.copied bytes = some bytes := by
  have small : bytes.length % 4294967296 = bytes.length := Nat.mod_eq_of_lt (by omega)
  rw [BufBuilder.copied, small, if_pos short, List.take_length]

theorem copied_text {text : List UInt8} (short : text.length + 1 < 2147483648) :
    BufBuilder.copied (text ++ [0]) = some (text ++ [0]) := by
  apply copied_short
  rwa [List.length_append, List.length_singleton]

theorem writtenText_short {text : List UInt8} (short : text.length + 1 < 2147483648) :
    writtenText text = some (textBytes text) := by
  rw [writtenText, copied_text short, joined_some, textBytes, List.append_assoc]

mutual

/-- With such lengths the format is written. -/
theorem BsonValue.written_of_short (value : BsonValue) (short : value.Short) :
    value.written = some value.bytes := by
  match value with
  | .scalar kind bytes sized => rfl
  | .text kind text => exact writtenText_short short
  | .document kind fields =>
      rw [BsonValue.written, fields.written_of_short short, Option.bind_some, BsonValue.bytes]
  | .binData subtype payload =>
      rw [BsonValue.written, copied_short short, joined_some, joined_some, BsonValue.bytes]
      rfl
  | .regEx regex options =>
      rw [BsonValue.written, copied_text short.1, copied_text short.2, joined_some, BsonValue.bytes]
      simp only [List.append_assoc, List.cons_append, List.nil_append]
  | .dbRef ns oid sized =>
      rw [BsonValue.written, writtenText_short short, joined_some, BsonValue.bytes]
  | .codeWScope code scope =>
      rw [BsonValue.written, scope.written_of_short short.2, Option.bind_some, writtenText_short short.1,
        joined_some, joined_some, BsonValue.bytes, List.append_assoc]

theorem BsonFields.written_of_short (fields : BsonFields) (short : fields.Short) :
    fields.written = some fields.bytes := by
  match fields with
  | .nil => rfl
  | .cons name value rest =>
      rw [BsonFields.written, copied_text short.1, value.written_of_short short.2.1,
        rest.written_of_short short.2.2, joined_some, joined_some, joined_some, BsonFields.bytes]
      simp only [List.append_assoc, List.cons_append, List.nil_append]

end

/-! ### One append after another -/

/-- What an append that was asked for these bytes made of the buffer; `none` are bytes that no
process survives.  An object of the largest size lies behind the four bytes of its reference
count, so it takes 16793604 of them, and doubling leaves the allocation below twice as many. -/
structure Appended (b : BufBuilder) (bytes : Option (List UInt8)) (result : Option BufBuilder) :
    Prop where
  written : ∀ after, result = some after →
    ∃ piece, bytes = some piece ∧ after.contents = b.contents ++ piece
  bounded : ∀ after, result = some after → b.size ≤ bufferMaxSize → after.size ≤ bufferMaxSize
  succeeds : ∀ piece, bytes = some piece → b.size ≤ 33587208 → 4 ≤ b.contents.length →
    b.contents.length + piece.length ≤ 16793604 →
      ∃ after, result = some after ∧ after.size ≤ 33587208

theorem appended_some (b : BufBuilder) : Appended b (some []) (some b) where
  written after same := by
    cases same
    exact ⟨[], rfl, (List.append_nil _).symm⟩
  bounded after same below := by
    cases same
    exact below
  succeeds _ _ below _ _ := ⟨b, rfl, below⟩

theorem appended_none (b : BufBuilder) : Appended b none none where
  written after same := by cases same
  bounded after same := by cases same
  succeeds piece same := by cases same

/-- Two appends write what the first one wrote and then what the second one wrote. -/
theorem Appended.bind {b : BufBuilder} {first second : Option (List UInt8)}
    {result : Option BufBuilder} {next : BufBuilder → Option BufBuilder}
    (writes : Appended b first result)
    (writesNext : ∀ middle, Appended middle second (next middle)) :
    Appended b (joined first second) (result.bind next) where
  written after same := by
    obtain ⟨middle, reached, rest⟩ := Option.bind_eq_some_iff.mp same
    obtain ⟨piece, rfl, contents⟩ := writes.written middle reached
    obtain ⟨more, rfl, behind⟩ := (writesNext middle).written after rest
    exact ⟨piece ++ more, rfl, by rw [behind, contents, List.append_assoc]⟩
  bounded after same below := by
    obtain ⟨middle, reached, rest⟩ := Option.bind_eq_some_iff.mp same
    exact (writesNext middle).bounded after rest (writes.bounded middle reached below)
  succeeds whole same below counted room := by
    obtain ⟨piece, isFirst, mapped⟩ := Option.bind_eq_some_iff.mp same
    obtain ⟨more, isSecond, rfl⟩ := Option.map_eq_some_iff.mp mapped
    rw [List.length_append] at room
    obtain ⟨middle, reached, middleBelow⟩ :=
      writes.succeeds piece isFirst below counted (by omega)
    obtain ⟨_, isPiece, contents⟩ := writes.written middle reached
    cases isFirst.symm.trans isPiece
    have length := congrArg List.length contents
    rw [List.length_append] at length
    obtain ⟨after, rest, afterBelow⟩ := (writesNext middle).succeeds more isSecond middleBelow
      (by omega) (by omega)
    exact ⟨after, by rw [reached, Option.bind_some, rest], afterBelow⟩

/-- A buffer that is too small for what an object needs is not made too large. -/
theorem reallocated_le {size length : Nat} (full : size < length) (room : length ≤ 16793604) :
    BufBuilder.reallocated size length ≤ 33587208 := by
  unfold BufBuilder.reallocated
  dsimp only
  split <;> split <;> omega

theorem append_appended (b : BufBuilder) (bytes : List UInt8) :
    Appended b (some bytes) (b.append bytes) := by
  have total : (b.contents ++ bytes).length = b.contents.length + bytes.length :=
    List.length_append
  unfold BufBuilder.append
  split
  case isTrue fits =>
    refine ⟨?_, ?_, ?_⟩
    · rintro after ⟨⟩
      exact ⟨bytes, rfl, rfl⟩
    · rintro after ⟨⟩ below
      exact below
    · intro _ _ below _ _
      exact ⟨_, rfl, below⟩
  case isFalse full =>
    have grown (room : b.contents.length + bytes.length ≤ 16793604) :
        BufBuilder.reallocated b.size (b.contents ++ bytes).length ≤ 33587208 :=
      reallocated_le (by omega) (by omega)
    split
    case isTrue large =>
      refine ⟨?_, ?_, ?_⟩
      · rintro after ⟨⟩
      · rintro after ⟨⟩
      · rintro piece ⟨⟩ _ _ room
        have := grown room
        unfold bufferMaxSize at large
        omega
    case isFalse small =>
      refine ⟨?_, ?_, ?_⟩
      · rintro after ⟨⟩
        exact ⟨bytes, rfl, rfl⟩
      · rintro after ⟨⟩ _
        exact Nat.le_of_not_lt small
      · rintro piece ⟨⟩ _ _ room
        exact ⟨_, rfl, grown room⟩

theorem appendBuf_appended (b : BufBuilder) (bytes : List UInt8) :
    Appended b (BufBuilder.copied bytes) (b.appendBuf bytes) := by
  rw [BufBuilder.appendBuf]
  cases BufBuilder.copied bytes with
  | none => exact appended_none b
  | some piece => exact append_appended b piece

/-! ### An object of a builder of its own -/

theorem newBuilder_eq : newBuilder = some ⟨[0, 0, 0, 0, 0, 0, 0, 0], 516, by decide⟩ := rfl

/-- The object is valid exactly if it is not too large, as far as an `int` can tell. -/
theorem assertedObj_documentBytes (elements : List UInt8)
    (small : elements.length + 5 < 2147483648) :
    assertedObj (documentBytes elements) =
      if elements.length + 5 ≤ bsonObjMaxInternalSize then some (documentBytes elements)
      else none := by
  have size : readU32 (ofBytes (documentBytes elements)) 0 = elements.length + 5 := by
    rw [documentBytes, List.append_assoc, readU32_ofBytes_u32Bytes]
    omega
  rw [assertedObj, size, toI32_of_lt (by omega) (by omega)]
  congr 1
  rw [bsonIsValid, Bool.and_eq_true, decide_eq_true_iff, decide_eq_true_iff]
  simp only [eq_iff_iff]
  omega

/-- If the elements of a document are written as they should be, so is the document. -/
theorem built_iff {elements : Option (List UInt8)} {appends : BufBuilder → Option BufBuilder}
    (writes : ∀ b, Appended b elements (appends b)) (object : List UInt8) :
    (newBuilder.bind fun b => (appends b).bind finishObject) = some object ↔
      ∃ written, elements = some written ∧ object = documentBytes written ∧
        (documentBytes written).length ≤ bsonObjMaxInternalSize := by
  have limit : bsonObjMaxInternalSize = 16793600 := rfl
  rw [newBuilder_eq, Option.bind_some]
  -- the elements and the end-of-object element
  have whole := (writes ⟨[0, 0, 0, 0, 0, 0, 0, 0], 516, by decide⟩).bind
    (fun b => append_appended b [0])
  have finished (b : BufBuilder) : finishObject b = (b.append [0]).bind fun b =>
      assertedObj (u32Bytes (b.contents.length - 4) ++ b.contents.drop 8) := rfl
  have finish (after : BufBuilder)
      (reached : ((appends ⟨[0, 0, 0, 0, 0, 0, 0, 0], 516, by decide⟩).bind
        fun b => b.append [0]) = some after) :
      ∃ written, elements = some written ∧ written.length + 5 < 2147483648 ∧
        u32Bytes (after.contents.length - 4) ++ after.contents.drop 8 =
          documentBytes written := by
    obtain ⟨_, isWritten, contents⟩ := whole.written after reached
    obtain ⟨written, same, ended⟩ := Option.bind_eq_some_iff.mp isWritten
    cases ended
    have below := whole.bounded after reached (by decide)
    have inside := after.inside
    have length := congrArg List.length contents
    simp only [List.length_append, List.length_cons, List.length_nil] at length
    have size : after.contents.length - 4 = written.length + 5 := by omega
    refine ⟨written, same, ?_, ?_⟩
    · unfold bufferMaxSize at below
      omega
    · rw [size, contents, documentBytes, List.append_assoc]
      rfl
  simp only [funext finished, ← Option.bind_assoc]
  constructor
  · intro built
    obtain ⟨after, reached, asserted⟩ := Option.bind_eq_some_iff.mp built
    obtain ⟨written, same, small, object⟩ := finish after reached
    rw [object, assertedObj_documentBytes _ small] at asserted
    split at asserted
    case isTrue valid =>
      exact ⟨written, same, (Option.some.inj asserted).symm, by rwa [documentBytes_length]⟩
    case isFalse => cases asserted
  · rintro ⟨written, rfl, rfl, valid⟩
    rw [documentBytes_length] at valid
    obtain ⟨after, reached, -⟩ := whole.succeeds (written ++ [0]) rfl (by decide) (by decide) (by
      simp only [List.length_append, List.length_cons, List.length_nil]
      omega)
    obtain ⟨_, ⟨⟩, small, object⟩ := finish after reached
    rw [reached, Option.bind_some, object, assertedObj_documentBytes _ small, if_pos valid]

theorem buildObject_of_appended {fields : BsonFields}
    (writes : ∀ b, Appended b fields.written (appendFields b fields)) (object : List UInt8) :
    buildObject fields = some object ↔
      ∃ elements, fields.written = some elements ∧ object = documentBytes elements ∧
        (documentBytes elements).length ≤ bsonObjMaxInternalSize :=
  built_iff writes object

/-! ### Every document -/

/-- A document value is the object of a builder of its own. -/
theorem appendValue_document (b : BufBuilder) (kind : DocumentKind) (fields : BsonFields) :
    appendValue b (.document kind fields) = (buildObject fields).bind b.append := by
  simp only [appendValue, buildObject, Option.bind_assoc]

theorem appendValue_codeWScope (b : BufBuilder) (code : List UInt8) (scope : BsonFields) :
    appendValue b (.codeWScope code scope) = (buildObject scope).bind fun obj =>
      (b.appendInt (4 + 4 + code.length + 1 + obj.length)).bind fun b =>
        ((b.appendInt (code.length + 1)).bind fun b => b.appendStr code).bind fun b =>
          b.append obj := by
  simp only [appendValue, buildObject, Option.bind_assoc]

/-- A text is written with its length. -/
theorem appendText_appended (b : BufBuilder) (text : List UInt8) :
    Appended b (writtenText text)
      ((b.appendInt (text.length + 1)).bind fun b => b.appendStr text) :=
  (append_appended b _).bind fun b => appendBuf_appended b (text ++ [0])

/-- What is written behind a document that was built. -/
theorem buildObject_bind_appended {b : BufBuilder} {fields : BsonFields}
    {bytes : List UInt8 → Option (List UInt8)} {next : List UInt8 → Option BufBuilder}
    (writesFields : ∀ b, Appended b fields.written (appendFields b fields))
    (larger : ∀ elements piece, bytes elements = some piece →
      (documentBytes elements).length ≤ piece.length)
    (writes : ∀ elements, Appended b (bytes elements) (next (documentBytes elements))) :
    Appended b (fields.written.bind bytes) ((buildObject fields).bind next) := by
  have built := buildObject_of_appended writesFields
  cases found : buildObject fields with
  | some object =>
      obtain ⟨elements, isWritten, rfl, -⟩ := (built object).mp found
      rw [isWritten]
      exact writes elements
  | none =>
      refine ⟨?_, ?_, ?_⟩
      · rintro after ⟨⟩
      · rintro after ⟨⟩
      · intro piece same _ counted room
        obtain ⟨elements, isWritten, isPiece⟩ := Option.bind_eq_some_iff.mp same
        have within := larger elements piece isPiece
        have small : (documentBytes elements).length ≤ bsonObjMaxInternalSize := by
          unfold bsonObjMaxInternalSize
          omega
        cases found.symm.trans ((built _).mpr ⟨elements, isWritten, rfl, small⟩)

/-- A field: its type and its name, its value, and the fields behind it. -/
theorem appendField_appended {name : List UInt8} {value : BsonValue} {rest : BsonFields}
    {appendValue appendRest : BufBuilder → Option BufBuilder}
    (writesValue : ∀ b, Appended b value.written (appendValue b))
    (writesRest : ∀ b, Appended b rest.written (appendRest b)) (b : BufBuilder) :
    Appended b (BsonFields.cons name value rest).written
      ((b.appendChar value.type).bind fun b =>
        (b.appendStr name).bind fun b => (appendValue b).bind appendRest) := by
  have writes := (((append_appended b [value.type]).bind fun b =>
    appendBuf_appended b (name ++ [0])).bind writesValue).bind writesRest
  simp only [Option.bind_assoc] at writes
  exact writes

mutual

/-- What the `append` functions write is what they are asked for. -/
theorem appendValue_appended (value : BsonValue) (b : BufBuilder) :
    Appended b value.written (appendValue b value) := by
  match value with
  | .scalar kind bytes sized => exact append_appended b bytes
  | .text kind text => exact appendText_appended b text
  | .document kind fields =>
      rw [appendValue_document]
      refine buildObject_bind_appended (appendFields_appended fields) ?_ ?_
      · rintro elements _ ⟨⟩
        exact Nat.le_refl _
      · exact fun elements => append_appended b (documentBytes elements)
  | .binData subtype payload =>
      exact (append_appended b _).bind fun b =>
        (append_appended b [subtype]).bind fun b => appendBuf_appended b payload
  | .regEx regex options =>
      exact (appendBuf_appended b _).bind fun b => appendBuf_appended b _
  | .dbRef ns oid sized =>
      have writes := (appendText_appended b ns).bind fun b => append_appended b oid
      rw [Option.bind_assoc] at writes
      exact writes
  | .codeWScope code scope =>
      rw [appendValue_codeWScope]
      refine buildObject_bind_appended (appendFields_appended scope) ?_ fun elements => ?_
      · intro elements piece same
        obtain ⟨length, -, mapped⟩ := Option.bind_eq_some_iff.mp same
        obtain ⟨_, joins, rfl⟩ := Option.map_eq_some_iff.mp mapped
        obtain ⟨text, -, ends⟩ := Option.bind_eq_some_iff.mp joins
        cases ends
        simp only [List.length_append]
        omega
      · have length : 4 + 4 + code.length + 1 + (documentBytes elements).length =
            8 + (code.length + 1) + (elements.length + 5) := by
          rw [documentBytes_length]
          omega
        rw [length]
        exact (append_appended b _).bind fun b =>
          (appendText_appended b code).bind fun b => append_appended b (documentBytes elements)

theorem appendFields_appended (fields : BsonFields) (b : BufBuilder) :
    Appended b fields.written (appendFields b fields) := by
  match fields with
  | .nil => exact appended_some b
  | .cons name value rest =>
      exact appendField_appended (appendValue_appended value) (appendFields_appended rest) b

end

/-- What short lengths make of the written bytes. -/
theorem BsonFields.written_iff {fields : BsonFields} (short : fields.Short)
    (object : List UInt8) :
    (∃ elements, fields.written = some elements ∧ object = documentBytes elements ∧
        (documentBytes elements).length ≤ bsonObjMaxInternalSize) ↔
      object = documentBytes fields.bytes ∧
        (documentBytes fields.bytes).length ≤ bsonObjMaxInternalSize := by
  rw [fields.written_of_short short]
  constructor
  · rintro ⟨_, ⟨⟩, built⟩
    exact built
  · exact fun built => ⟨_, rfl, built⟩

theorem buildObject_short {fields : BsonFields} (short : fields.Short) (object : List UInt8) :
    buildObject fields = some object ↔
      object = documentBytes fields.bytes ∧
        (documentBytes fields.bytes).length ≤ bsonObjMaxInternalSize :=
  (buildObject_of_appended (appendFields_appended fields) object).trans
    (fields.written_iff short object)

/-- What was built is the format, and not too large. -/
theorem objectOf_built {fields : BsonFields} {object : List UInt8} (short : fields.Short)
    (built : buildObject fields = some object) :
    object = documentBytes fields.bytes ∧
      (documentBytes fields.bytes).length ≤ bsonObjMaxInternalSize :=
  (buildObject_short short object).mp built

/-- The document `{ _id : BinData(0, "") }`. -/
def keyDocument : BsonFields := .cons gKeyFieldName (.binData 0 []) .nil

theorem keyDocument_plain : keyDocument.Plain := ⟨by decide, trivial, trivial⟩

theorem keyDocument_short : keyDocument.Short :=
  ⟨by decide, (by decide : ([] : List UInt8).length < 2147483648), trivial⟩

theorem buildObject_keyDocument :
    buildObject keyDocument = some (binDataRecord [] (by decide)).bytes :=
  (buildObject_short keyDocument_short _).mpr ⟨by decide, by decide⟩

/-- The document `{ a : [ null ], b : { c : 7 } }`. -/
def nestedDocument : BsonFields :=
  .cons [97] (.document .array (.cons [48] (.scalar .jstNULL [] rfl) .nil))
    (.cons [98] (.document .object (.cons [99] (.scalar .numberInt [7, 0, 0, 0] rfl) .nil)) .nil)

theorem nestedDocument_plain : nestedDocument.Plain :=
  ⟨by decide, ⟨by decide, trivial, trivial⟩, by decide, ⟨by decide, trivial, trivial⟩, trivial⟩

theorem nestedDocument_short : nestedDocument.Short :=
  ⟨by decide, ⟨by decide, trivial, trivial⟩, by decide, ⟨by decide, trivial, trivial⟩, trivial⟩

/-- A document whose lengths are `int`s is built exactly if its object is not too large; then
the object is the format. -/
theorem buildObject_iff (fields : BsonFields) (short : fields.Short) (object : List UInt8) :
    buildObject fields = some object ↔
      object = documentBytes fields.bytes ∧
        (documentBytes fields.bytes).length ≤ bsonObjMaxInternalSize :=
  buildObject_short short object

/-- A document with documents in it is built. -/
theorem buildObject_iff_nested :
    buildObject nestedDocument = some (documentBytes nestedDocument.bytes) :=
  (buildObject_iff nestedDocument nestedDocument_short _).mpr ⟨rfl, by decide⟩

/-- A document that was built reads back as the same document. -/
theorem readObject_built {fields : BsonFields} {object : List UInt8} (plain : fields.Plain)
    (short : fields.Short) (built : buildObject fields = some object) :
    readObject object = .ok fields := by
  obtain ⟨rfl, valid⟩ := objectOf_built short built
  exact readObject_documentBytes fields plain valid

/-- A document with documents in it is built and reads back. -/
theorem readObject_built_nested : ∃ object,
    buildObject nestedDocument = some object ∧ readObject object = .ok nestedDocument := by
  have built : buildObject nestedDocument = some (documentBytes nestedDocument.bytes) :=
    (buildObject_short nestedDocument_short _).mpr ⟨rfl, by decide⟩
  exact ⟨_, built, readObject_built nestedDocument_plain nestedDocument_short built⟩

end EmeraldDb
