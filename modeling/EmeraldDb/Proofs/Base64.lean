/-
Module: EmeraldDb.Proofs.Base64
Purpose: The base64 text of any bytes is accepted and gives the bytes back.
Trusted boundary: none
Main exports: Base64.decodeChar_e, Base64.decode_encode
-/
import EmeraldDb.Bson.Base64
import Mathlib.Data.List.Nodup
import Mathlib.Tactic.IntervalCases

namespace EmeraldDb.Base64

/-! ### Characters -/

theorem alphabet_length : alphabet.length = 64 := by decide

set_option maxRecDepth 4000 in
theorem alphabet_nodup : alphabet.Nodup := by decide

theorem sixBits_lt (x : UInt8) : (x &&& 0x3f).toNat < alphabet.length := by
  rw [UInt8.toNat_and, alphabet_length]
  exact Nat.and_lt_two_pow (n := 6) _ (by decide)

theorem e_eq (x : UInt8) (small : (x &&& 0x3f).toNat < alphabet.length) :
    e x = alphabet[(x &&& 0x3f).toNat] := by
  rw [e, List.getD_eq_getElem?_getD, List.getElem?_eq_getElem small, Option.getD_some]

/-- The value of a character, of which six bits were encoded. -/
theorem decodeChar_e (x : UInt8) : decodeChar (e x) = x &&& 0x3f := by
  have small := sixBits_lt x
  rw [decodeChar, e_eq x small, if_pos (List.getElem_mem small), alphabet_nodup.idxOf_getElem,
    UInt8.ofNat_toNat]

theorem decodeChar_padding : decodeChar 61 = 0 := by decide

/-- No value is written as the padding. -/
theorem e_ne_padding (x : UInt8) : e x ≠ 61 := by
  intro same
  have member := List.getElem_mem (sixBits_lt x)
  rw [← e_eq x, same] at member
  exact absurd member (by decide)

/-! ### Groups -/

/-- Three bytes are put together again from the bits that went to four characters. -/
theorem groupBytes_three (a b c : UInt8) :
    groupBytes (a >>> 2 &&& 0x3f) ((a <<< 4 ||| b >>> 4 &&& 0xf) &&& 0x3f)
      (((b &&& 0xf) <<< 2 ||| c >>> 6 &&& 0x3) &&& 0x3f) (c &&& 0x3f &&& 0x3f) = [a, b, c] := by
  refine List.cons_eq_cons.mpr ⟨?_, List.cons_eq_cons.mpr ⟨?_, List.cons_eq_cons.mpr ⟨?_, rfl⟩⟩⟩
  all_goals
    apply UInt8.toBitVec_inj.mp
    ext i small
    simp
    interval_cases i <;> simp

theorem groupBytes_two (a b : UInt8) :
    (groupBytes (a >>> 2 &&& 0x3f) ((a <<< 4 ||| b >>> 4 &&& 0xf) &&& 0x3f)
      ((b &&& 0xf) <<< 2 &&& 0x3f) 0).take 2 = [a, b] := by
  refine List.cons_eq_cons.mpr ⟨?_, List.cons_eq_cons.mpr ⟨?_, rfl⟩⟩
  all_goals
    apply UInt8.toBitVec_inj.mp
    ext i small
    simp
    interval_cases i <;> simp

theorem groupBytes_one (a : UInt8) :
    (groupBytes (a >>> 2 &&& 0x3f) (a <<< 4 &&& 0x3f) 0 0).take 1 = [a] := by
  refine List.cons_eq_cons.mpr ⟨?_, rfl⟩
  apply UInt8.toBitVec_inj.mp
  ext i small
  simp
  interval_cases i <;> simp

theorem groupLength_whole (start2 x : UInt8) : groupLength start2 (e x) = 3 :=
  if_neg (e_ne_padding x)

theorem groupLength_two (x : UInt8) : groupLength (e x) 61 = 2 := by
  rw [groupLength, if_pos rfl, if_neg (e_ne_padding x)]

/-! ### Texts -/

/-- A whole group, and the text of the bytes behind it. -/
theorem encode_group (a b c : UInt8) (data : List UInt8) :
    encode (a :: b :: c :: data) =
      [e (a >>> 2), e (a <<< 4 ||| b >>> 4 &&& 0xf), e ((b &&& 0xf) <<< 2 ||| c >>> 6 &&& 0x3),
        e (c &&& 0x3f)] ++ encode data := by
  have longer : (a :: b :: c :: data).length % 3 = data.length % 3 :=
    Nat.add_mod_right data.length 3
  rw [encode, encode, longer, encodeGroups, List.append_assoc]

/-- The text ends with a whole group, and its groups decode to the bytes. -/
theorem decodeGroups_encode (data : List UInt8) :
    (encode data).length % 4 = 0 ∧ decodeGroups (encode data) = data := by
  induction data using encodeGroups.induct with
  | case1 => exact ⟨rfl, rfl⟩
  | case2 a =>
      have text : encode [a] = [e (a >>> 2), e (a <<< 4), 61, 61] := rfl
      rw [text]
      refine ⟨Nat.mod_self 4, ?_⟩
      rw [decodeGroups, decodeGroups, decodeChar_e, decodeChar_e, decodeChar_padding]
      exact congrArg (· ++ []) (groupBytes_one a)
      nofun
  | case3 a b =>
      have text : encode [a, b] = [e (a >>> 2), e (a <<< 4 ||| b >>> 4 &&& 0xf),
          e ((b &&& 0xf) <<< 2), 61] := rfl
      rw [text]
      refine ⟨Nat.mod_self 4, ?_⟩
      rw [decodeGroups, decodeGroups, decodeChar_e, decodeChar_e, decodeChar_e,
        decodeChar_padding, groupLength_two]
      exact congrArg (· ++ []) (groupBytes_two a b)
      nofun
  | case4 a b c data ih =>
      rw [encode_group]
      constructor
      · rw [List.length_append]
        exact (Nat.add_mod_left 4 _).trans ih.1
      · have group := groupBytes_three a b c
        rw [List.cons_append, List.cons_append, List.cons_append, List.cons_append,
          List.nil_append, decodeGroups, decodeChar_e, decodeChar_e, decodeChar_e, decodeChar_e,
          groupLength_whole, group, ih.2]
        rfl

/-- What was encoded is decoded to the same bytes. -/
theorem decode_encode (data : List UInt8) : decode (encode data) = some data := by
  obtain ⟨whole, same⟩ := decodeGroups_encode data
  rw [decode, if_pos whole, same]

end EmeraldDb.Base64
