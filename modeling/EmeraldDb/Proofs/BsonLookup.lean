/-
Module: EmeraldDb.Proofs.BsonLookup
Purpose: Fields are found by their names: getField stops at the first field of that name, and
  an object has a key exactly if one of its fields is named _id.
Trusted boundary: none
Main exports: BsonFields.lookup, getFieldFrom_built, getField_built, hasKey_built,
  firstFieldIsKey_built, keyChecks_built
-/
import EmeraldDb.Pmd.Agent
import EmeraldDb.Proofs.BsonBuilder

namespace EmeraldDb

open ByteMemory

/-- The value of the first field of that name. -/
def BsonFields.lookup (name : List UInt8) : BsonFields → Option BsonValue
  | .nil => none
  | .cons field value rest => if field = name then some value else rest.lookup name

/-- A field is looked up exactly if it is there. -/
theorem BsonFields.lookup_isSome (name : List UInt8) (fields : BsonFields) :
    (fields.lookup name).isSome = true ↔ name ∈ fields.names := by
  cases fields with
  | nil => simp [lookup, names]
  | cons field value rest =>
      have behind := rest.lookup_isSome name
      rw [lookup, names, List.mem_cons]
      split
      case isTrue same => simp [same]
      case isFalse other =>
        rw [behind, or_iff_right]
        exact fun same => other same.symm

/-- What the loop of `getField` comes to, over the fields that are still ahead. -/
def Looked (name bytes : List UInt8) (found : Except BsonFault (Option Nat)) :
    Option BsonValue → Prop
  | none => found = .ok none
  | some value => ∃ pos, found = .ok (some pos) ∧ SpelledAt bytes pos (elementBytes name value) ∧
      0 ∉ name ∧ value.Plain ∧ pos + (elementBytes name value).length < bytes.length

/-- The loop stops at the first field of that name. -/
theorem getFieldFrom_built (name bytes : List UInt8) (passes : Nat) (fields : BsonFields)
    (pos : Nat) (plain : fields.Plain) (spelled : SpelledAt bytes pos fields.bytes)
    (ends : pos + fields.bytes.length + 1 = bytes.length)
    (valid : fields.bytes.length ≤ bsonObjMaxInternalSize)
    (enough : fields.bytes.length < passes) :
    Looked name bytes (getFieldFrom name bytes passes pos) (fields.lookup name) := by
  have limit : bsonObjMaxInternalSize = 16793600 := rfl
  match passes, fields with
  | passes + 1, .nil =>
      rw [BsonFields.bytes, List.length_nil] at ends
      rw [getFieldFrom, if_neg (by omega)]
      rfl
  | passes + 1, .cons field value rest =>
      obtain ⟨named, plainValue, plainRest⟩ := plain
      rw [BsonFields.bytes_cons] at spelled ends valid enough
      rw [List.length_append] at ends valid enough
      have elementLength := elementBytes_length field value
      have element := spelled.left
      have size := elementSize_built named plainValue element (by omega)
      have rests := getFieldFrom_built name bytes passes rest _ plainRest spelled.right
        (by omega) (by omega) (by omega)
      simp only [getFieldFrom, if_pos (show pos < bytes.length - 1 by omega), size,
        fieldName_built named element, BsonFields.lookup]
      split
      case isTrue same =>
        subst same
        exact ⟨pos, rfl, element, named, plainValue, by omega⟩
      case isFalse =>
        rw [if_neg (by omega), Int.toNat_natCast]
        exact rests

/-- What `getField` comes to on an object that was built. -/
theorem getField_looked {fields : BsonFields} {obj : BsonObj} (plain : fields.Plain)
    (built : obj.bytes = documentBytes fields.bytes) (name : List UInt8) :
    Looked name obj.bytes (obj.getField name) (fields.lookup name) := by
  have length : obj.bytes.length = fields.bytes.length + 5 := by
    rw [built, documentBytes_length]
  have valid := obj.size_le
  refine getFieldFrom_built name obj.bytes _ fields 4 plain ?_ ?_ ?_ ?_
  · rw [built]
    exact spelled_elements _
  · omega
  · omega
  · omega

/-- An element that was written reads back with its name and its value. -/
theorem readElement_built {bytes name : List UInt8} {value : BsonValue} {pos : Nat}
    (named : 0 ∉ name) (plain : value.Plain) (spelled : SpelledAt bytes pos (elementBytes name value))
    (inside : pos + (elementBytes name value).length < bytes.length)
    (valid : bytes.length ≤ bsonObjMaxInternalSize) :
    readElement bytes pos = .ok (name, value) := by
  have length := elementBytes_length name value
  obtain ⟨typed, -, valueSpelled⟩ := spelled_element spelled
  have read := readValue_built bytes.length value _ bytes plain valueSpelled (by omega)
    (by omega) (by omega)
  rw [readElement, nameAt_built named spelled, typed]
  simp only [Except.bind, read]

/-- `getField` on an object that was built finds the first field of that name, which reads
back as it was written, and the end-of-object element if there is none. -/
theorem getField_built {fields : BsonFields} {obj : BsonObj} (plain : fields.Plain)
    (short : fields.Short) (built : buildObject fields = some obj.bytes) (name : List UInt8) :
    match fields.lookup name with
    | none => obj.getField name = .ok none
    | some value => ∃ pos, obj.getField name = .ok (some pos) ∧
        readElement obj.bytes pos = .ok (name, value) := by
  have looked := getField_looked plain (objectOf_built short built).1 name
  cases found : fields.lookup name with
  | none =>
      rw [found] at looked
      exact looked
  | some value =>
      rw [found] at looked
      obtain ⟨pos, stopped, spelled, named, plainValue, inside⟩ := looked
      exact ⟨pos, stopped, readElement_built named plainValue spelled inside obj.size_le⟩

/-- The key of the document that has nothing but a key. -/
theorem getField_built_key : ∃ pos,
    (binDataRecord [] (by decide)).getField gKeyFieldName = .ok (some pos) ∧
      readElement (binDataRecord [] (by decide)).bytes pos =
        .ok (gKeyFieldName, .binData 0 []) :=
  getField_built keyDocument_plain keyDocument_short buildObject_keyDocument gKeyFieldName

/-- An object that was built has a key exactly if one of its fields is named `_id`. -/
theorem hasKey_built {fields : BsonFields} {obj : BsonObj} (plain : fields.Plain)
    (built : obj.bytes = documentBytes fields.bytes) :
    obj.HasKey ↔ gKeyFieldName ∈ fields.names := by
  have looked := getField_looked plain built gKeyFieldName
  rw [← BsonFields.lookup_isSome]
  cases found : fields.lookup gKeyFieldName with
  | none =>
      rw [found] at looked
      have absent : obj.getKeyField = .ok none := looked
      constructor
      · rintro ⟨pos, stopped⟩
        rw [absent] at stopped
        cases stopped
      · intro impossible
        cases impossible
  | some value =>
      rw [found] at looked
      obtain ⟨pos, stopped, -⟩ := looked
      exact ⟨fun _ => rfl, fun _ => ⟨pos, stopped⟩⟩

/-- A memory spells what is read from it. -/
theorem spelledAt_readBytes {m : Mem} {a n pos : Nat} (piece : List UInt8)
    (inside : pos + piece.length ≤ n) :
    SpelledAt (readBytes m a n) pos piece ↔ readBytes m (a + pos) piece.length = piece := by
  have split : n = pos + (piece.length + (n - pos - piece.length)) := by omega
  have front : (readBytes m a pos).length = pos := readBytes_length _ _ _
  have drop : (readBytes m a n).drop pos = readBytes m (a + pos) piece.length ++
      readBytes m (a + pos + piece.length) (n - pos - piece.length) := by
    conv_lhs => rw [split]
    rw [readBytes_append, readBytes_append, List.drop_left' front]
  rw [SpelledAt, drop]
  constructor
  · intro spelled
    have same := (List.prefix_iff_eq_take.mp spelled).symm
    rwa [List.take_left' (readBytes_length _ _ _)] at same
  · intro same
    rw [same]
    exact List.prefix_append _ _

/-- A position spells two C strings only if they are the same. -/
theorem spelledAt_text_unique {bytes text text' : List UInt8} {pos : Nat}
    (spelled : SpelledAt bytes pos (text ++ [0])) (plain : 0 ∉ text)
    (spelled' : SpelledAt bytes pos (text' ++ [0])) (plain' : 0 ∉ text') : text = text' := by
  have read := cstring_spelled spelled plain
  rw [cstring_spelled spelled' plain'] at read
  exact (Option.some.inj read).symm

/-- The server's check, `strcmp` with the name of the first field, lets through the documents
whose first field is named `_id`. -/
theorem firstFieldIsKey_built {fields : BsonFields} {obj : BsonObj} {m : Mem} {a : Nat}
    (plain : fields.Plain) (built : obj.bytes = documentBytes fields.bytes)
    (spelled : readBytes m a obj.objsize = obj.bytes) :
    firstFieldIsKey m a = true ↔ fields.names.head? = some gKeyFieldName := by
  have zero : 0 ∉ gKeyFieldName := by decide
  -- the elements, with whatever stands behind the object
  have elements : SpelledAt (readBytes m a (obj.objsize + 9)) 4 (fields.bytes ++ [0]) := by
    have whole : readBytes m a (obj.objsize + 9) = u32Bytes (fields.bytes.length + 5) ++
        ((fields.bytes ++ [0]) ++ readBytes m (a + obj.objsize) 9) := by
      rw [readBytes_append, spelled, built, documentBytes]
      simp only [List.append_assoc]
    rw [whole]
    exact SpelledAt.append _ _ _
  have named : readBytes m (a + 5) 4 = gKeyFieldName ++ [0] ↔
      SpelledAt (readBytes m a (obj.objsize + 9)) 5 (gKeyFieldName ++ [0]) :=
    (spelledAt_readBytes (gKeyFieldName ++ [0]) (by
      have : (gKeyFieldName ++ [0]).length = 4 := rfl
      omega)).symm
  rw [firstFieldIsKey, Bool.and_eq_true, decide_eq_true_iff, decide_eq_true_iff, named]
  cases fields with
  | nil =>
      have read := (spelledAt_readBytes [0] (by
        rw [List.length_singleton]
        omega)).mp elements
      have type : m (a + 4) = 0 := List.head_eq_of_cons_eq read
      simp [BsonFields.names, type]
  | cons name value rest =>
      rw [BsonFields.bytes_cons, List.append_assoc] at elements
      have element := elements.left
      obtain ⟨-, nameSpelled, -⟩ := spelled_element element
      rw [elementBytes_eq] at element
      have read := (spelledAt_readBytes [value.type] (by
        rw [List.length_singleton]
        omega)).mp element.cons_left
      have type : m (a + 4) = value.type := List.head_eq_of_cons_eq read
      have first : (BsonFields.cons name value rest).names.head? = some name := rfl
      rw [type, first, Option.some_inj]
      constructor
      · rintro ⟨-, keySpelled⟩
        exact spelledAt_text_unique nameSpelled plain.1 keySpelled zero
      · rintro rfl
        exact ⟨value.type_ne_zero, nameSpelled⟩

/-- Of the documents that can be built, the server lets through those whose first field is
named `_id`, and the store those that have such a field at all. -/
theorem keyChecks_built {fields : BsonFields} {obj : BsonObj} {m : Mem} {a : Nat}
    (plain : fields.Plain) (short : fields.Short)
    (built : buildObject fields = some obj.bytes)
    (spelled : readBytes m a obj.objsize = obj.bytes) :
    (firstFieldIsKey m a = true ↔ fields.names.head? = some gKeyFieldName) ∧
      (obj.HasKey ↔ gKeyFieldName ∈ fields.names) :=
  ⟨firstFieldIsKey_built plain (objectOf_built short built).1 spelled,
    hasKey_built plain (objectOf_built short built).1⟩

/-- The document that has nothing but a key passes both checks. -/
theorem keyChecks_built_key :
    firstFieldIsKey (ofBytes (binDataRecord [] (by decide)).bytes) 0 = true ∧
      (binDataRecord [] (by decide)).HasKey := by
  obtain ⟨first, some⟩ := keyChecks_built keyDocument_plain keyDocument_short
    buildObject_keyDocument
    (readBytes_ofBytes (binDataRecord [] (by decide)).bytes)
  exact ⟨first.mpr rfl, some.mpr List.mem_cons_self⟩

end EmeraldDb
