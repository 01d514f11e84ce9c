/-
Module: EmeraldDb.Proofs.BsonFormat
Purpose: The BSON format read back: the size of an element is the size it was written with,
  and the accessors and the iterator give back the values and fields that were written.
Trusted boundary: none
Main exports: BsonFields.Plain, elementSize_built, readValue_built, readFields_built,
  readObject_documentBytes
-/
import EmeraldDb.Bson.Iterator

namespace EmeraldDb

open ByteMemory

/-! ### Documents that can be read back -/

mutual

/-- Names and C strings hold no zero. -/
def BsonValue.Plain : BsonValue → Prop
  | .scalar _ _ _ => True
  | .text _ _ => True
  | .document _ fields => fields.Plain
  | .binData _ _ => True
  | .regEx regex options => 0 ∉ regex ∧ 0 ∉ options
  | .dbRef ns _ _ => 0 ∉ ns
  | .codeWScope code scope => 0 ∉ code ∧ scope.Plain

def BsonFields.Plain : BsonFields → Prop
  | .nil => True
  | .cons name value rest => 0 ∉ name ∧ value.Plain ∧ rest.Plain

end

/-! ### The type byte -/

theorem BsonValue.type_ne_zero (value : BsonValue) : value.type ≠ 0 := by
  cases value with
  | scalar kind bytes sized => cases kind <;> exact ne_of_beq_false rfl
  | text kind text => cases kind <;> exact ne_of_beq_false rfl
  | document kind fields => cases kind <;> exact ne_of_beq_false rfl
  | binData subtype payload => exact ne_of_beq_false rfl
  | regEx regex options => exact ne_of_beq_false rfl
  | dbRef ns oid sized => exact ne_of_beq_false rfl
  | codeWScope code scope => exact ne_of_beq_false rfl

theorem ScalarKind.ofCode_typeCode (kind : ScalarKind) : ofCode kind.typeCode = some kind := by
  cases kind <;> rfl

theorem TextKind.ofCode_typeCode (kind : TextKind) :
    ScalarKind.ofCode kind.typeCode = none ∧ ofCode kind.typeCode = some kind := by
  cases kind <;> exact ⟨rfl, rfl⟩

theorem DocumentKind.ofCode_typeCode (kind : DocumentKind) :
    ScalarKind.ofCode kind.typeCode = none ∧ TextKind.ofCode kind.typeCode = none ∧
      ofCode kind.typeCode = some kind := by
  cases kind <;> exact ⟨rfl, rfl, rfl⟩

/-! ### Pieces of an object -/

section Pieces

variable {bytes : List UInt8} {pos : Nat}

theorem bytesAt_spelled {piece : List UInt8} (spelled : SpelledAt bytes pos piece)
    (inside : pos ≤ bytes.length) : bytesAt bytes pos piece.length = .ok piece := by
  have bound : pos + piece.length ≤ bytes.length := by
    have fits := List.IsPrefix.length_le spelled
    rw [List.length_drop] at fits
    omega
  rw [bytesAt, if_pos bound, spelled.slice_eq]

theorem intAt_spelled {word : Nat} (spelled : SpelledAt bytes pos (u32Bytes word))
    (small : word < 2147483648) : intAt bytes pos = some (word : Int) := by
  have inside : pos + 4 ≤ bytes.length := spelled.bound (List.cons_ne_nil _ _)
  rw [intAt, if_pos inside, spelled.word, Nat.mod_eq_of_lt (by omega),
    toI32_of_lt (by omega) (by omega)]

theorem wordAt_spelled {word : Nat} (spelled : SpelledAt bytes pos (u32Bytes word))
    (small : word < 2147483648) : wordAt bytes pos = .ok (word : Int) := by
  rw [wordAt, intAt_spelled spelled small]

theorem cstringLength_spelled {text : List UInt8} (spelled : SpelledAt bytes pos (text ++ [0]))
    (plain : 0 ∉ text) : cstringLength bytes pos = some text.length :=
  spelled.findIdx_zero plain

theorem cstring_spelled {text : List UInt8} (spelled : SpelledAt bytes pos (text ++ [0]))
    (plain : 0 ∉ text) : cstring bytes pos = some text := by
  rw [cstring, cstringLength_spelled spelled plain, Option.map_some]
  exact congrArg some spelled.left.slice_eq

theorem textAt_spelled {text : List UInt8} (spelled : SpelledAt bytes pos (text ++ [0]))
    (plain : 0 ∉ text) : textAt bytes pos = .ok text := by
  rw [textAt, cstring_spelled spelled plain]

end Pieces

/-! ### The size of an element -/

theorem documentBytes_length (elements : List UInt8) :
    (documentBytes elements).length = elements.length + 5 := by
  rw [documentBytes, List.length_append, List.length_append, u32Bytes_length, List.length_singleton]
  omega

theorem textBytes_length (text : List UInt8) : (textBytes text).length = text.length + 5 := by
  rw [textBytes, List.length_append, List.length_append, u32Bytes_length, List.length_singleton]
  omega

section Size

variable {bytes : List UInt8} {pos : Nat}

/-- A text behind its length. -/
theorem spelled_text {text : List UInt8} (spelled : SpelledAt bytes pos (textBytes text)) :
    SpelledAt bytes pos (u32Bytes (text.length + 1)) ∧ SpelledAt bytes (pos + 4) (text ++ [0]) := by
  rw [textBytes, List.append_assoc] at spelled
  have behind := spelled.right
  rw [u32Bytes_length] at behind
  exact ⟨spelled.left, behind⟩

/-- The elements of an object. -/
theorem spelled_elements (elements : List UInt8) :
    SpelledAt (documentBytes elements) 4 elements := by
  have spelled := SpelledAt.append (u32Bytes (elements.length + 5)) elements [0]
  rwa [u32Bytes_length, ← List.append_assoc] at spelled

/-- The value of an element has the size that its type and its first bytes tell. -/
theorem valueSize_built {value : BsonValue} (plain : value.Plain)
    (spelled : SpelledAt bytes pos value.bytes) (small : value.bytes.length < 2147483648) :
    valueSize bytes value.type pos = .ok (value.bytes.length : Int) := by
  cases value with
  | scalar kind scalarBytes sized =>
      rw [BsonValue.bytes, sized]
      cases kind <;> rfl
  | text kind text =>
      rw [BsonValue.bytes] at spelled small ⊢
      rw [textBytes_length] at small ⊢
      have size := intAt_spelled spelled.left.left (by omega)
      have sized : valueSize bytes kind.typeCode pos = .ok (((text.length + 1 : Nat) : Int) + 4) := by
        cases kind <;> simp [valueSize, TextKind.typeCode, size]
      rw [BsonValue.type, sized]
      norm_cast
  | document kind fields =>
      rw [BsonValue.bytes] at spelled small ⊢
      rw [documentBytes_length] at small ⊢
      have size := intAt_spelled spelled.left.left small
      cases kind <;> simp [valueSize, BsonValue.type, DocumentKind.typeCode, size]
  | binData subtype payload =>
      rw [BsonValue.bytes] at spelled small ⊢
      rw [List.length_append, List.length_cons, u32Bytes_length] at small ⊢
      have size := intAt_spelled spelled.left (by omega)
      have sized : valueSize bytes (BsonValue.binData subtype payload).type pos =
          .ok ((payload.length : Int) + 5) := by
        simp [valueSize, BsonValue.type, size]
      rw [sized]
      exact congrArg Except.ok (by omega)
  | regEx regex options =>
      obtain ⟨plainRegex, plainOptions⟩ := plain
      rw [BsonValue.bytes] at spelled ⊢
      have split : regex ++ 0 :: options ++ [0] = (regex ++ [0]) ++ (options ++ [0]) := by simp
      rw [split] at spelled ⊢
      have first := cstringLength_spelled spelled.left plainRegex
      have behind := spelled.right
      rw [List.length_append, List.length_singleton] at behind
      have second := cstringLength_spelled behind plainOptions
      have sized : valueSize bytes (BsonValue.regEx regex options).type pos =
          .ok ((regex.length : Int) + 1 + options.length + 1) := by
        simp [valueSize, BsonValue.type, first, second, Nat.add_assoc]
      rw [sized, List.length_append, List.length_append, List.length_append,
        List.length_singleton]
      exact congrArg Except.ok (by omega)
  | dbRef ns oid oidSized =>
      rw [BsonValue.bytes] at spelled small ⊢
      rw [List.length_append, textBytes_length, oidSized] at small ⊢
      have size := intAt_spelled spelled.left.left.left (by omega)
      have sized : valueSize bytes (BsonValue.dbRef ns oid oidSized).type pos =
          .ok (((ns.length + 1 : Nat) : Int) + 16) := by
        simp [valueSize, BsonValue.type, size]
      rw [sized]
      exact congrArg Except.ok (by omega)
  | codeWScope code scope =>
      rw [BsonValue.bytes] at spelled small ⊢
      rw [List.length_append, List.length_append, textBytes_length, documentBytes_length,
        u32Bytes_length] at small ⊢
      have size := intAt_spelled spelled.left.left (by omega)
      have sized : valueSize bytes (BsonValue.codeWScope code scope).type pos =
          .ok ((8 + (code.length + 1) + (scope.bytes.length + 5) : Nat) : Int) := by
        simp [valueSize, BsonValue.type, size]
      rw [sized]
      exact congrArg Except.ok (by omega)

/-- The bytes of an element that stand behind its type. -/
theorem elementBytes_eq (name : List UInt8) (value : BsonValue) :
    elementBytes name value = value.type :: ((name ++ [0]) ++ value.bytes) := by
  simp [elementBytes]

theorem elementBytes_length (name : List UInt8) (value : BsonValue) :
    (elementBytes name value).length = value.bytes.length + (name.length + 1) + 1 := by
  rw [elementBytes_eq, List.length_cons, List.length_append, List.length_append,
    List.length_singleton]
  omega

theorem BsonFields.bytes_cons (name : List UInt8) (value : BsonValue) (rest : BsonFields) :
    (BsonFields.cons name value rest).bytes = elementBytes name value ++ rest.bytes := by
  rw [BsonFields.bytes, elementBytes]

/-- What an element begins with. -/
theorem spelled_element {name : List UInt8} {value : BsonValue}
    (spelled : SpelledAt bytes pos (elementBytes name value)) :
    bytes.getD pos 0 = value.type ∧ SpelledAt bytes (pos + 1) (name ++ [0]) ∧
      SpelledAt bytes (pos + 1 + (name.length + 1)) value.bytes := by
  rw [elementBytes_eq] at spelled
  have behind := spelled.cons_right
  have value := behind.right
  rw [List.length_append, List.length_singleton] at value
  exact ⟨spelled.getD, behind.left, value⟩

/-- `size()` measures an element that was written as long as it is. -/
theorem elementSize_built {name : List UInt8} {value : BsonValue} (named : 0 ∉ name)
    (plain : value.Plain) (spelled : SpelledAt bytes pos (elementBytes name value))
    (small : (elementBytes name value).length < 2147483648) :
    elementSize bytes pos = .ok ((elementBytes name value).length : Int) := by
  obtain ⟨typed, nameSpelled, valueSpelled⟩ := spelled_element spelled
  rw [elementBytes_length] at small ⊢
  have length := cstringLength_spelled nameSpelled named
  have size := valueSize_built plain valueSpelled (by omega)
  have sized : elementSize bytes pos =
      .ok (toI32 ((value.bytes.length : Int) + ((name.length : Int) + 1) + 1)) := by
    simp only [elementSize, typed, if_neg value.type_ne_zero, length, size]
  rw [sized, toI32_of_lt (by omega) (by omega)]
  exact congrArg Except.ok (by omega)

theorem fieldName_built {name : List UInt8} {value : BsonValue} (named : 0 ∉ name)
    (spelled : SpelledAt bytes pos (elementBytes name value)) :
    fieldName bytes pos = some name := by
  obtain ⟨typed, nameSpelled, -⟩ := spelled_element spelled
  rw [fieldName, typed, if_neg value.type_ne_zero, cstring_spelled nameSpelled named]

theorem nameAt_built {name : List UInt8} {value : BsonValue} (named : 0 ∉ name)
    (spelled : SpelledAt bytes pos (elementBytes name value)) :
    nameAt bytes pos = .ok name := by
  rw [nameAt, fieldName_built named spelled]

end Size

/-! ### Reading a document back -/

section Reading

variable {bytes : List UInt8} {pos : Nat}

theorem embeddedObject_built {elements : List UInt8}
    (spelled : SpelledAt bytes pos (documentBytes elements))
    (valid : elements.length + 5 ≤ bsonObjMaxInternalSize) :
    embeddedObject bytes pos = .ok (documentBytes elements) := by
  have inside : pos + (documentBytes elements).length ≤ bytes.length :=
    spelled.bound (List.ne_nil_of_length_eq_add_one (documentBytes_length elements))
  unfold bsonObjMaxInternalSize at valid
  have size := wordAt_spelled spelled.left.left (by omega)
  have isValid : bsonIsValid ((elements.length + 5 : Nat) : Int) = true := by
    rw [bsonIsValid, bsonObjMaxInternalSize, Bool.and_eq_true, decide_eq_true_iff,
      decide_eq_true_iff]
    omega
  have whole := bytesAt_spelled spelled (by omega)
  rw [documentBytes_length] at whole
  rw [embeddedObject, size, Except.bind, if_pos isValid, Int.toNat_natCast, whole]

theorem readScalar_built {kind : ScalarKind} {scalarBytes : List UInt8}
    (sized : scalarBytes.length = kind.width) (spelled : SpelledAt bytes pos scalarBytes)
    (inside : pos + scalarBytes.length ≤ bytes.length) :
    readScalar bytes kind pos = .ok (.scalar kind scalarBytes sized) := by
  have piece := spelled.slice_eq
  rw [sized] at inside piece
  simp only [readScalar, dif_pos inside, piece]

theorem readOid_built (ns : List UInt8) {oid : List UInt8} (sized : oid.length = 12)
    (spelled : SpelledAt bytes pos oid) (inside : pos + oid.length ≤ bytes.length) :
    readOid bytes ns pos = .ok (.dbRef ns oid sized) := by
  have piece := spelled.slice_eq
  rw [sized] at inside piece
  simp only [readOid, dif_pos inside, piece]

mutual

/-- A value is read back by the accessors of its type, an embedded document by a loop of its
own. -/
theorem readValue_built (passes : Nat) (value : BsonValue) (pos : Nat) (bytes : List UInt8)
    (plain : value.Plain) (spelled : SpelledAt bytes pos value.bytes)
    (inside : pos + value.bytes.length ≤ bytes.length)
    (valid : value.bytes.length ≤ bsonObjMaxInternalSize)
    (enough : value.bytes.length ≤ passes) :
    readValue (fun object => readFields passes object 4) bytes value.type pos = .ok value := by
  have limit : bsonObjMaxInternalSize = 16793600 := rfl
  match value with
  | .scalar kind scalarBytes sized =>
      rw [readValue, BsonValue.type, kind.ofCode_typeCode]
      exact readScalar_built sized spelled inside
  | .text kind text =>
      rw [BsonValue.bytes] at spelled inside valid
      rw [textBytes_length] at inside valid
      obtain ⟨sizeSpelled, textSpelled⟩ := spelled_text spelled
      have size := wordAt_spelled sizeSpelled (by omega)
      have read := bytesAt_spelled textSpelled.left (by omega)
      have less : ((text.length + 1 : Nat) - 1 : Int).toNat = text.length := by omega
      rw [readValue, BsonValue.type, kind.ofCode_typeCode.1, kind.ofCode_typeCode.2]
      simp only [size, Except.bind, less, read]
  | .document kind fields =>
      rw [BsonValue.bytes] at spelled inside valid enough
      rw [documentBytes_length] at inside valid enough
      have object := embeddedObject_built spelled valid
      have read := readFields_built passes fields 4 (documentBytes fields.bytes) plain
        (spelled_elements _) (by rw [documentBytes_length]; omega) (by omega) (by omega)
      rw [readValue, BsonValue.type, kind.ofCode_typeCode.1, kind.ofCode_typeCode.2.1,
        kind.ofCode_typeCode.2.2]
      simp only [object, Except.bind, read]
  | .binData subtype payload =>
      rw [BsonValue.bytes] at spelled inside valid
      rw [List.length_append, List.length_cons, u32Bytes_length] at inside valid
      have size := wordAt_spelled spelled.left (by omega)
      have behind := spelled.right
      rw [u32Bytes_length] at behind
      have read := bytesAt_spelled behind.cons_right (by omega)
      simp only [readValue, BsonValue.type, ScalarKind.ofCode, TextKind.ofCode,
        DocumentKind.ofCode, size, Except.bind, Int.toNat_natCast]
      rw [read, behind.getD]
      rfl
  | .regEx regex options =>
      obtain ⟨plainRegex, plainOptions⟩ := plain
      rw [BsonValue.bytes] at spelled
      have split : regex ++ 0 :: options ++ [0] = (regex ++ [0]) ++ (options ++ [0]) := by simp
      rw [split] at spelled
      have behind := spelled.right
      rw [List.length_append, List.length_singleton, ← Nat.add_assoc] at behind
      have first := textAt_spelled spelled.left plainRegex
      have second := textAt_spelled behind plainOptions
      simp only [readValue, BsonValue.type, ScalarKind.ofCode, TextKind.ofCode,
        DocumentKind.ofCode, first, Except.bind, second]
      rfl
  | .dbRef ns oid sized =>
      rw [BsonValue.bytes] at spelled inside valid
      rw [List.length_append, textBytes_length] at inside valid
      obtain ⟨sizeSpelled, nsSpelled⟩ := spelled_text spelled.left
      have size := wordAt_spelled sizeSpelled (by omega)
      have text := textAt_spelled nsSpelled plain
      have oidSpelled := spelled.right
      have start : pos + (textBytes ns).length = pos + 4 + (ns.length + 1) := by
        rw [textBytes_length]
        omega
      rw [start] at oidSpelled
      have read := readOid_built ns sized oidSpelled (by omega)
      simp only [readValue, BsonValue.type, ScalarKind.ofCode, TextKind.ofCode,
        DocumentKind.ofCode, size, Except.bind, text, Int.toNat_natCast, read]
      rfl
  | .codeWScope code scope =>
      obtain ⟨plainCode, plainScope⟩ := plain
      rw [BsonValue.bytes] at spelled inside valid enough
      rw [List.length_append, List.length_append, textBytes_length, documentBytes_length,
        u32Bytes_length] at inside valid enough
      have codeSpelled := spelled.left.right
      rw [u32Bytes_length] at codeSpelled
      obtain ⟨sizeSpelled, textSpelled⟩ := spelled_text codeSpelled
      have size := wordAt_spelled sizeSpelled (by omega)
      have text := textAt_spelled textSpelled plainCode
      have scopeSpelled := spelled.right
      have start : pos + (u32Bytes (8 + (code.length + 1) + (scope.bytes.length + 5)) ++
          textBytes code).length = pos + 4 + 4 + (code.length + 1) := by
        rw [List.length_append, u32Bytes_length, textBytes_length]
        omega
      rw [start] at scopeSpelled
      have object := embeddedObject_built scopeSpelled (by omega)
      have read := readFields_built passes scope 4 (documentBytes scope.bytes) plainScope
        (spelled_elements _) (by rw [documentBytes_length]; omega) (by omega) (by omega)
      simp only [readValue, BsonValue.type, ScalarKind.ofCode, TextKind.ofCode,
        DocumentKind.ofCode, size, Except.bind, text, Int.toNat_natCast, object, read]
      rfl

/-- The loop reads the elements that were written, up to the end-of-object element. -/
theorem readFields_built (passes : Nat) (fields : BsonFields) (pos : Nat) (bytes : List UInt8)
    (plain : fields.Plain) (spelled : SpelledAt bytes pos fields.bytes)
    (ends : pos + fields.bytes.length + 1 = bytes.length)
    (valid : fields.bytes.length ≤ bsonObjMaxInternalSize)
    (enough : fields.bytes.length < passes) :
    readFields passes bytes pos = .ok fields := by
  have limit : bsonObjMaxInternalSize = 16793600 := rfl
  match passes, fields with
  | passes + 1, .nil =>
      rw [BsonFields.bytes, List.length_nil] at ends
      rw [readFields, if_neg (by omega)]
  | passes + 1, .cons name value rest =>
      obtain ⟨named, plainValue, plainRest⟩ := plain
      rw [BsonFields.bytes_cons] at spelled ends valid enough
      rw [List.length_append] at ends valid enough
      have elementLength := elementBytes_length name value
      have element := spelled.left
      obtain ⟨typed, -, valueSpelled⟩ := spelled_element element
      have size := elementSize_built named plainValue element (by omega)
      have read := readValue_built passes value _ bytes plainValue valueSpelled (by omega)
        (by omega) (by omega)
      have rests := readFields_built passes rest _ bytes plainRest spelled.right (by omega)
        (by omega) (by omega)
      rw [readFields, if_pos (by omega), size, nameAt_built named element, typed]
      simp only [Except.bind, read, Int.toNat_natCast, rests]

end

/-- A document that was written is read back as the same document. -/
theorem readObject_documentBytes (fields : BsonFields) (plain : fields.Plain)
    (valid : (documentBytes fields.bytes).length ≤ bsonObjMaxInternalSize) :
    readObject (documentBytes fields.bytes) = .ok fields := by
  rw [documentBytes_length] at valid
  rw [readObject, documentBytes_length]
  exact readFields_built _ fields 4 _ plain (spelled_elements _)
    (by rw [documentBytes_length]; omega) (by omega) (by omega)

end Reading

end EmeraldDb
