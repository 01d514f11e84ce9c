/-
Module: EmeraldDb.Lib.CString
Purpose: Zero-terminated strings in character arrays whose last byte is never written,
  with the two C copies into them.
Trusted boundary: none
Main exports: takeWhile_ne_append, cString, CharArray, CharArray.strncpy, CharArray.strcpy,
  CharArray.text_strncpy, CharArray.text_strcpy
-/
import Mathlib.Data.List.TakeWhile

/-- Every element of a list without `stop` passes the test for another one. -/
theorem all_ne_of_notMem {α : Type} [DecidableEq α] {stop : α} {text : List α}
    (plain : stop ∉ text) : ∀ ch ∈ text, decide (ch ≠ stop) = true := by
  intro ch member
  apply decide_eq_true
  rintro rfl
  exact plain member

/-- A text ends at its first `stop`, whatever follows. -/
theorem takeWhile_ne_append {α : Type} [DecidableEq α] {stop : α} {text : List α}
    (plain : stop ∉ text) (rest : List α) :
    (text ++ stop :: rest).takeWhile (· ≠ stop) = text := by
  rw [List.takeWhile_append_of_pos (all_ne_of_notMem plain),
    List.takeWhile_cons_of_neg (by simp), List.append_nil]

/-- What a C function sees of a byte string: everything before the first zero. -/
def cString (bytes : List UInt8) : List UInt8 := bytes.takeWhile (· ≠ 0)

theorem zero_notMem_cString (bytes : List UInt8) : 0 ∉ cString bytes := by
  intro member
  have nonzero := List.mem_takeWhile_imp member
  revert nonzero
  decide

/-- A string ends at its zero, whatever follows. -/
theorem cString_append_zero {text : List UInt8} (plain : 0 ∉ text) (rest : List UInt8) :
    cString (text ++ 0 :: rest) = text :=
  takeWhile_ne_append plain rest

/-- Bytes without a zero are a string as they are. -/
theorem cString_of_plain {text : List UInt8} (plain : 0 ∉ text) : cString text = text :=
  List.takeWhile_eq_self_iff.mpr (all_ne_of_notMem plain)

theorem cString_cons {byte : UInt8} (nonzero : byte ≠ 0) (rest : List UInt8) :
    cString (byte :: rest) = byte :: cString rest :=
  List.takeWhile_cons_of_pos (by simpa using nonzero)

theorem cString_length_le (bytes : List UInt8) : (cString bytes).length ≤ bytes.length :=
  (List.takeWhile_prefix _).length_le

/-- The string ends at the first zero, or where the bytes end. -/
theorem getD_cString_length (bytes : List UInt8) : bytes.getD (cString bytes).length 0 = 0 := by
  induction bytes with
  | nil => rfl
  | cons byte rest ih =>
      by_cases zero : byte = 0
      · subst zero
        rfl
      · rw [cString_cons zero]
        exact ih

theorem getD_ne_zero {bytes : List UInt8} {i : Nat} (inside : i < (cString bytes).length) :
    bytes.getD i 0 ≠ 0 := by
  induction bytes generalizing i with
  | nil => cases inside
  | cons byte rest ih =>
      by_cases zero : byte = 0
      · subst zero
        cases inside
      · rw [cString_cons zero] at inside
        cases i with
        | zero => exact zero
        | succ i => exact ih (Nat.lt_of_succ_lt_succ inside)

/-- An array of `size + 1` characters whose last one is zero. -/
structure CharArray (size : Nat) where
  bytes : List UInt8
  length_eq : bytes.length = size + 1
  terminated : bytes.drop size = [0]

namespace CharArray

variable {size : Nat}

/-- The string in the array. -/
def text (buffer : CharArray size) : List UInt8 := cString buffer.bytes

/-- `memset` to zero. -/
def zeros (size : Nat) : CharArray size where
  bytes := List.replicate (size + 1) 0
  length_eq := List.length_replicate
  terminated := by
    rw [List.drop_replicate, Nat.add_sub_cancel_left]
    rfl

/-- `strncpy` of `size` characters: a shorter text is padded with zeros. -/
def strncpy (buffer : CharArray size) (text : List UInt8) : CharArray size where
  bytes := text.take size ++ List.replicate (size - text.length) 0 ++ buffer.bytes.drop size
  length_eq := by
    rw [buffer.terminated, List.length_append, List.length_append, List.length_take,
      List.length_replicate, List.length_singleton]
    omega
  terminated := by
    have front : (text.take size ++ List.replicate (size - text.length) 0).length = size := by
      rw [List.length_append, List.length_take, List.length_replicate]
      omega
    rw [List.drop_append_of_le_length (Nat.le_of_eq front.symm), buffer.terminated]
    rw [List.drop_of_length_le (Nat.le_of_eq front), List.nil_append]

/-- `strcpy` of a text that fits. -/
def strcpy (buffer : CharArray size) (text : List UInt8) (fits : text.length ≤ size) :
    CharArray size where
  bytes := text ++ 0 :: buffer.bytes.drop (text.length + 1)
  length_eq := by
    have length := buffer.length_eq
    rw [List.length_append, List.length_cons, List.length_drop]
    omega
  terminated := by
    rcases Nat.lt_or_ge text.length size with short | full
    · have last := buffer.terminated
      generalize buffer.bytes = bytes at last ⊢
      obtain ⟨behind, whole⟩ : ∃ behind, size = text.length + 1 + behind :=
        ⟨size - (text.length + 1), by omega⟩
      rw [whole, ← List.drop_drop] at last
      have front : (text ++ [0]).length = text.length + 1 := List.length_append
      rw [whole, List.append_cons, ← List.drop_drop, List.drop_left' front]
      exact last
    · have same : text.length = size := Nat.le_antisymm fits full
      have none_left : buffer.bytes.drop (text.length + 1) = [] := by
        apply List.drop_of_length_le
        rw [buffer.length_eq, same]
      rw [none_left, List.drop_left' same]

theorem text_strncpy (buffer : CharArray size) {text : List UInt8} (plain : 0 ∉ text) :
    (buffer.strncpy text).text = text.take size := by
  have front : 0 ∉ text.take size := fun member => plain (List.mem_of_mem_take member)
  have shape : ∃ rest, (buffer.strncpy text).bytes = text.take size ++ 0 :: rest := by
    have bytes : (buffer.strncpy text).bytes =
        text.take size ++ List.replicate (size - text.length) 0 ++ buffer.bytes.drop size := rfl
    rw [bytes, buffer.terminated, List.append_assoc]
    cases size - text.length with
    | zero => exact ⟨[], rfl⟩
    | succ padding => exact ⟨List.replicate padding 0 ++ [0], rfl⟩
  obtain ⟨rest, bytes⟩ := shape
  rw [CharArray.text, bytes]
  exact cString_append_zero front rest

theorem text_strcpy (buffer : CharArray size) {text : List UInt8} (plain : 0 ∉ text)
    (fits : text.length ≤ size) : (buffer.strcpy text fits).text = text :=
  cString_append_zero plain _

end CharArray
