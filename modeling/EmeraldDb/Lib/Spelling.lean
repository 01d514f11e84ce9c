/-
Module: EmeraldDb.Lib.Spelling
Purpose: What a byte string spells at a position: pieces of it, C strings and 32-bit words.
Trusted boundary: none
Main exports: SpelledAt, slice, slice_length, SpelledAt.left, SpelledAt.right, SpelledAt.slice_eq, SpelledAt.getD,
  SpelledAt.findIdx_zero, SpelledAt.word
-/
import EmeraldDb.Lib.ByteMemory

open ByteMemory

/-- The bytes from `pos` on begin with `piece`. -/
def SpelledAt {α : Type} (bytes : List α) (pos : Nat) (piece : List α) : Prop :=
  piece <+: bytes.drop pos

/-- The `length` bytes from `start` on. -/
def slice {α : Type} (bytes : List α) (start length : Nat) : List α :=
  (bytes.drop start).take length

theorem slice_length {α : Type} {bytes : List α} {start length : Nat}
    (inside : start + length ≤ bytes.length) : (slice bytes start length).length = length := by
  rw [slice, List.length_take, List.length_drop]
  omega

namespace SpelledAt

section Pieces

variable {α : Type} {bytes front piece rest : List α} {pos : Nat}

/-- Behind what stands in front of it, a piece is spelled. -/
theorem append (front piece rest : List α) : SpelledAt (front ++ (piece ++ rest)) front.length piece := by
  rw [SpelledAt, List.drop_left]
  exact List.prefix_append piece rest

theorem left (spelled : SpelledAt bytes pos (piece ++ rest)) : SpelledAt bytes pos piece :=
  (List.prefix_append piece rest).trans spelled

theorem right (spelled : SpelledAt bytes pos (piece ++ rest)) :
    SpelledAt bytes (pos + piece.length) rest := by
  obtain ⟨behind, same⟩ := spelled
  refine ⟨behind, ?_⟩
  rw [← List.drop_drop, ← same, List.append_assoc, List.drop_left]

theorem cons_left {first : α} (spelled : SpelledAt bytes pos (first :: rest)) :
    SpelledAt bytes pos [first] := by
  rw [← List.singleton_append] at spelled
  exact spelled.left

theorem cons_right {first : α} (spelled : SpelledAt bytes pos (first :: rest)) :
    SpelledAt bytes (pos + 1) rest := by
  rw [← List.singleton_append] at spelled
  exact spelled.right

theorem slice_eq (spelled : SpelledAt bytes pos piece) : slice bytes pos piece.length = piece := by
  obtain ⟨behind, same⟩ := spelled
  rw [slice, ← same, List.take_left]

theorem bound (spelled : SpelledAt bytes pos piece) (nonempty : piece ≠ []) :
    pos + piece.length ≤ bytes.length := by
  have fits := List.IsPrefix.length_le spelled
  rw [List.length_drop] at fits
  have positive := List.length_pos_iff.mpr nonempty
  omega

theorem getD {first fallback : α} (spelled : SpelledAt bytes pos (first :: rest)) :
    bytes.getD pos fallback = first := by
  obtain ⟨behind, same⟩ := spelled
  have found : (bytes.drop pos)[0]? = some first := by rw [← same]; rfl
  rw [List.getElem?_drop, Nat.add_zero] at found
  rw [List.getD_eq_getElem?_getD, found, Option.getD_some]

end Pieces

section Words

variable {bytes : List UInt8} {pos : Nat}

/-- A C string ends at its zero. -/
theorem findIdx_zero {text : List UInt8} (spelled : SpelledAt bytes pos (text ++ [0]))
    (plain : 0 ∉ text) : (bytes.drop pos).findIdx? (· == 0) = some text.length := by
  obtain ⟨behind, same⟩ := spelled
  rw [← same, List.append_assoc, List.findIdx?_append, List.findIdx?_eq_none_iff.mpr]
  · simp [List.findIdx?_cons]
  · intro byte member
    rw [beq_eq_false_iff_ne]
    rintro rfl
    exact plain member

/-- A word is read as the number that was written. -/
theorem word {word : Nat} (spelled : SpelledAt bytes pos (u32Bytes word)) :
    readU32 (ofBytes bytes) pos = word % 4294967296 := by
  apply readU32_eq_of_bytes
  have inside : pos + 4 ≤ bytes.length := spelled.bound (List.cons_ne_nil _ _)
  have piece := spelled.slice_eq
  rw [slice, u32Bytes_length] at piece
  rw [← piece]
  apply List.ext_getElem
  · rw [readBytes_length, List.length_take, List.length_drop]
    omega
  · intro i bound _
    rw [readBytes_length] at bound
    rw [readBytes_getElem, List.getElem_take, List.getElem_drop, ofBytes,
      List.getD_eq_getElem _ _ (by omega)]

end Words

end SpelledAt
