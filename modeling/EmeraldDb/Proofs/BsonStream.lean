/-
Module: EmeraldDb.Proofs.BsonStream
Purpose: Embedded documents that are written in the buffer of the outer one, with their size
  stored afterwards, come out as those that are built apart and copied.
Trusted boundary: none
Main exports: inPlace_appended, streamFields_appended, streamObject_eq
-/
import EmeraldDb.Proofs.BsonBuilder

namespace EmeraldDb

open ByteMemory

/-- The size is stored in front of the elements. -/
theorem patch_contents {b : BufBuilder} {front room rest : List UInt8} {word : Nat}
    (contents : b.contents = front ++ (room ++ rest)) (skipped : room.length = 4) :
    (b.patch front.length word).contents = front ++ u32Bytes word ++ rest := by
  have inside : front.length + 4 ≤ b.contents.length := by
    rw [contents, List.length_append, List.length_append]
    omega
  have taken : b.contents.take front.length = front := by rw [contents, List.take_left]
  have dropped : b.contents.drop (front.length + 4) = rest := by
    rw [contents, ← List.drop_drop, List.drop_left, ← skipped, List.drop_left]
  rw [BufBuilder.patch, dif_pos inside]
  dsimp only
  rw [taken, dropped]

theorem patch_size (b : BufBuilder) (offset word : Nat) : (b.patch offset word).size = b.size := by
  unfold BufBuilder.patch
  split <;> rfl

/-- What `done` does behind the end-of-object element. -/
def sizeStored (offset : Nat) (b : BufBuilder) : Option BufBuilder :=
  if bsonIsValid (toI32 (b.contents.length - offset : Nat)) then
    some (b.patch offset (b.contents.length - offset))
  else none

theorem inPlace_eq (b : BufBuilder) (appends : BufBuilder → Option BufBuilder) :
    inPlace b appends = ((b.append [0, 0, 0, 0]).bind fun sub =>
      (appends sub).bind fun sub => sub.append [0]).bind
        (sizeStored b.contents.length) := by
  simp only [Option.bind_assoc]
  rfl

/-- A document that is written in place is appended like one that was built apart. -/
theorem inPlace_appended {elements : Option (List UInt8)}
    {appends : BufBuilder → Option BufBuilder}
    (writes : ∀ b, Appended b elements (appends b)) (b : BufBuilder) :
    Appended b (elements.bind fun written => some (documentBytes written))
      (inPlace b appends) := by
  have whole := (append_appended b [0, 0, 0, 0]).bind fun sub =>
    (writes sub).bind fun sub => append_appended sub [0]
  rw [inPlace_eq]
  refine ⟨?_, ?_, ?_⟩
  · intro after built
    obtain ⟨sub, reached, done⟩ := Option.bind_eq_some_iff.mp built
    obtain ⟨piece, isPiece, contents⟩ := whole.written sub reached
    obtain ⟨_, mapped, rfl⟩ := Option.map_eq_some_iff.mp isPiece
    obtain ⟨written, rfl, ended⟩ := Option.bind_eq_some_iff.mp mapped
    cases ended
    refine ⟨documentBytes written, rfl, ?_⟩
    have total := congrArg List.length contents
    simp only [List.length_append, List.length_cons, List.length_nil] at total
    have size : sub.contents.length - b.contents.length = written.length + 5 := by omega
    unfold sizeStored at done
    split at done
    case isTrue =>
      cases done
      rw [size, patch_contents contents rfl, documentBytes]
      simp only [List.append_assoc]
    case isFalse => cases done
  · intro after built below
    obtain ⟨sub, reached, done⟩ := Option.bind_eq_some_iff.mp built
    unfold sizeStored at done
    split at done
    case isTrue =>
      cases done
      rw [patch_size]
      exact whole.bounded sub reached below
    case isFalse => cases done
  · intro piece isPiece below counted room
    obtain ⟨written, rfl, ended⟩ := Option.bind_eq_some_iff.mp isPiece
    cases ended
    have length := documentBytes_length written
    obtain ⟨sub, reached, subBelow⟩ :=
      whole.succeeds ([0, 0, 0, 0] ++ (written ++ [0])) rfl below counted (by
        simp only [List.length_append, List.length_cons, List.length_nil]
        omega)
    obtain ⟨_, ⟨⟩, contents⟩ := whole.written sub reached
    have total := congrArg List.length contents
    simp only [List.length_append, List.length_cons, List.length_nil] at total
    have size : sub.contents.length - b.contents.length = written.length + 5 := by omega
    have valid : bsonIsValid (toI32 ((written.length + 5 : Nat) : Int)) = true := by
      rw [toI32_of_lt (by omega) (by omega), bsonIsValid, bsonObjMaxInternalSize,
        Bool.and_eq_true, decide_eq_true_iff, decide_eq_true_iff]
      omega
    refine ⟨sub.patch b.contents.length (written.length + 5), ?_, ?_⟩
    · rw [reached, Option.bind_some, sizeStored, size, if_pos valid]
    · rw [patch_size]
      exact subBelow

mutual

/-- A value is written in place or appended, to the same bytes. -/
theorem streamValue_appended (value : BsonValue) (b : BufBuilder) :
    Appended b value.written (streamValue b value) := by
  match value with
  | .document kind fields => exact inPlace_appended (streamFields_appended fields) b
  | .scalar kind bytes sized => exact appendValue_appended (.scalar kind bytes sized) b
  | .text kind text => exact appendValue_appended (.text kind text) b
  | .binData subtype payload => exact appendValue_appended (.binData subtype payload) b
  | .regEx regex options => exact appendValue_appended (.regEx regex options) b
  | .dbRef ns oid sized => exact appendValue_appended (.dbRef ns oid sized) b
  | .codeWScope code scope => exact appendValue_appended (.codeWScope code scope) b

theorem streamFields_appended (fields : BsonFields) (b : BufBuilder) :
    Appended b fields.written (streamFields b fields) := by
  cases fields with
  | nil => exact appended_some b
  | cons name value rest =>
      exact appendField_appended (streamValue_appended value) (streamFields_appended rest) b

end

/-- Whether embedded documents are written in place or built apart makes no difference, to
the bytes and to whether there is an object at all. -/
theorem streamObject_eq (fields : BsonFields) : streamObject fields = buildObject fields := by
  apply Option.ext
  intro object
  exact (built_iff (streamFields_appended fields) object).trans
    (buildObject_of_appended (appendFields_appended fields) object).symm

end EmeraldDb
