/-
Module: EmeraldDb.Lib.Decimal
Purpose: Decimal numerals as byte strings: the digits of a number, the value of a digit
  string, and that the two determine each other but for leading zeros.
Trusted boundary: none
Main exports: Decimal.isDigit, Decimal.digitValue, Decimal.value, Decimal.numeral,
  Decimal.Spells, Decimal.spells_iff
-/
import Mathlib.Data.List.Induction

namespace Decimal

/-- A character from `0` to `9`. -/
def isDigit (ch : UInt8) : Bool := decide (48 ≤ ch ∧ ch ≤ 57)

/-- What a digit counts. -/
def digitValue (ch : UInt8) : Nat := ch.toNat - 48

/-- The value of a string of digits. -/
def value (text : List UInt8) : Nat :=
  text.foldl (fun sum ch => 10 * sum + digitValue ch) 0

/-- The digits of a number, without leading zeros. -/
def numeral (n : Nat) : List UInt8 := (Nat.toDigits 10 n).map Char.toUInt8

/-- The digits of a number, perhaps with zeros in front. -/
def Spells (text : List UInt8) (n : Nat) : Prop :=
  ∃ zeros, text = List.replicate zeros 48 ++ numeral n

/-- The digit for a number below ten. -/
def digit (d : Nat) : UInt8 := UInt8.ofNat (48 + d)

theorem digit_toNat {d : Nat} (small : d < 10) : (digit d).toNat = 48 + d := by
  rw [digit, UInt8.toNat_ofNat']
  omega

theorem isDigit_iff {ch : UInt8} : isDigit ch = true ↔ 48 ≤ ch.toNat ∧ ch.toNat ≤ 57 := by
  rw [isDigit, decide_eq_true_eq, UInt8.le_iff_toNat_le, UInt8.le_iff_toNat_le]
  exact Iff.rfl

theorem isDigit_digit {d : Nat} (small : d < 10) : isDigit (digit d) = true := by
  rw [isDigit_iff, digit_toNat small]
  omega

theorem digitValue_digit {d : Nat} (small : d < 10) : digitValue (digit d) = d := by
  rw [digitValue, digit_toNat small]
  omega

theorem digitValue_lt {ch : UInt8} (isDig : isDigit ch = true) : digitValue ch < 10 := by
  have range := isDigit_iff.mp isDig
  unfold digitValue
  omega

theorem digit_digitValue {ch : UInt8} (isDig : isDigit ch = true) :
    digit (digitValue ch) = ch := by
  have range := isDigit_iff.mp isDig
  apply UInt8.toNat_inj.mp
  rw [digit_toNat (digitValue_lt isDig), digitValue]
  omega

theorem digitChar_toUInt8 {d : Nat} (small : d < 10) : (Nat.digitChar d).toUInt8 = digit d := by
  have all : ∀ d < 10, (Nat.digitChar d).toUInt8 = digit d := by decide
  exact all d small

theorem numeral_of_lt {n : Nat} (small : n < 10) : numeral n = [digit n] := by
  rw [numeral, Nat.toDigits_of_lt_base small, List.map_singleton, digitChar_toUInt8 small]

theorem numeral_of_ge {n : Nat} (large : 10 ≤ n) :
    numeral n = numeral (n / 10) ++ [digit (n % 10)] := by
  have small : n % 10 < 10 := Nat.mod_lt _ (by decide)
  rw [numeral, Nat.toDigits_of_base_le (by decide) large, List.map_append, List.map_singleton,
    digitChar_toUInt8 small]
  rfl

/-! ### The value of a string -/

theorem value_snoc (text : List UInt8) (ch : UInt8) :
    value (text ++ [ch]) = 10 * value text + digitValue ch := by
  rw [value, List.foldl_append]
  rfl

/-- A digit string is the numeral of its value, behind zeros. -/
theorem spells_value {text : List UInt8} (nonempty : text ≠ [])
    (digits : ∀ ch ∈ text, isDigit ch = true) : Spells text (value text) := by
  induction text using List.reverseRecOn with
  | nil => exact absurd rfl nonempty
  | append_singleton text ch ih =>
      have last : isDigit ch = true := digits ch (by simp)
      have small := digitValue_lt last
      rw [value_snoc]
      by_cases single : text = []
      · subst single
        refine ⟨0, ?_⟩
        have alone : 10 * value [] + digitValue ch = digitValue ch := Nat.zero_add _
        rw [alone, numeral_of_lt small, digit_digitValue last]
        rfl
      · obtain ⟨zeros, spelled⟩ := ih single fun other member =>
          digits other (List.mem_append_left _ member)
        by_cases zero : value text = 0
        · -- nothing but zeros in front of the last digit
          refine ⟨zeros + 1, ?_⟩
          rw [zero] at spelled ⊢
          rw [spelled, Nat.mul_zero, Nat.zero_add, numeral_of_lt small, digit_digitValue last,
            numeral_of_lt (by decide), List.replicate_succ']
          rfl
        · refine ⟨zeros, ?_⟩
          have quotient : (10 * value text + digitValue ch) / 10 = value text := by omega
          have rest : (10 * value text + digitValue ch) % 10 = digitValue ch := by omega
          rw [numeral_of_ge (by omega), quotient, rest, digit_digitValue last,
            ← List.append_assoc, ← spelled]

/-- A numeral consists of digits and has its number for a value. -/
theorem numeral_digits (n : Nat) :
    numeral n ≠ [] ∧ (∀ ch ∈ numeral n, isDigit ch = true) ∧ value (numeral n) = n := by
  induction n using Nat.strongRecOn with
  | ind n ih =>
      rcases Nat.lt_or_ge n 10 with small | large
      · rw [numeral_of_lt small]
        refine ⟨by simp, ?_, ?_⟩
        · intro ch member
          rw [List.mem_singleton.mp member]
          exact isDigit_digit small
        · exact (Nat.zero_add _).trans (digitValue_digit small)
      · have small : n % 10 < 10 := Nat.mod_lt _ (by decide)
        obtain ⟨-, digits, front⟩ := ih (n / 10) (by omega)
        rw [numeral_of_ge large]
        refine ⟨by simp, ?_, ?_⟩
        · intro ch member
          rcases List.mem_append.mp member with early | last
          · exact digits ch early
          · rw [List.mem_singleton.mp last]
            exact isDigit_digit small
        · rw [value_snoc, front, digitValue_digit small]
          omega

theorem value_zeros (zeros : Nat) (text : List UInt8) :
    value (List.replicate zeros 48 ++ text) = value text := by
  induction zeros with
  | zero => rfl
  | succ zeros ih => exact ih

/-- The strings that spell a number are the nonempty digit strings of that value. -/
theorem spells_iff {text : List UInt8} {n : Nat} :
    Spells text n ↔ text ≠ [] ∧ (∀ ch ∈ text, isDigit ch = true) ∧ value text = n := by
  constructor
  · rintro ⟨zeros, rfl⟩
    obtain ⟨nonempty, digits, sum⟩ := numeral_digits n
    refine ⟨by simp [nonempty], ?_, (value_zeros zeros _).trans sum⟩
    intro ch member
    rcases List.mem_append.mp member with zero | inside
    · rw [List.eq_of_mem_replicate zero]
      decide
    · exact digits ch inside
  · rintro ⟨nonempty, digits, rfl⟩
    exact spells_value nonempty digits

end Decimal
