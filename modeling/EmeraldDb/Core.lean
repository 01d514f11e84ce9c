/-
Module: EmeraldDb.Core
Purpose: The return codes of core.hpp, the fixed-width integer conversions the
  C++ code performs implicitly, and how a call comes back.
Trusted boundary: human-reviewed spec
Main exports: ReturnCode, toU32, toI32, toU64, Errno, Completion
-/
import Mathlib.Data.Int.Notation

namespace EmeraldDb

/-- An `int rc`: `EDB_OK`, a negative `EDB_*` code, or a positive `errno`. -/
abbrev ReturnCode := Int

def edbOk : ReturnCode := 0
def edbIo : ReturnCode := -1
def edbInvalidArg : ReturnCode := -2
def edbPerm : ReturnCode := -3
def edbOom : ReturnCode := -4
def edbSys : ReturnCode := -5
def edbPmdHelpOnly : ReturnCode := -6
def edbPmdForceSystemEdu : ReturnCode := -7
def edbTimeout : ReturnCode := -8
def edbQuiesced : ReturnCode := -9
def edbEduInvalStatus : ReturnCode := -10
def edbNetwork : ReturnCode := -11
def edbNetworkClose : ReturnCode := -12
def edbAppForced : ReturnCode := -13
def edbNoId : ReturnCode := -17

/-- A failed system call leaves a positive number in `errno`. -/
structure Errno where
  value : Int
  positive : 0 < value

namespace Errno

def eintr : Errno := ⟨4, by decide⟩
def enomem : Errno := ⟨12, by decide⟩
def eacces : Errno := ⟨13, by decide⟩
def einval : Errno := ⟨22, by decide⟩
def eoverflow : Errno := ⟨75, by decide⟩

end Errno

theorem Errno.value_ne_edbOk (errno : Errno) : errno.value ≠ edbOk := by
  have := errno.positive
  unfold edbOk
  omega

/-- Conversion to `unsigned int`. -/
def toU32 (x : Int) : Nat := (x % 4294967296).toNat

/-- Conversion to a two's-complement `int`. -/
def toI32 (x : Int) : Int := (2147483648 + x) % 4294967296 - 2147483648

/-- Conversion to `unsigned long long`. -/
def toU64 (x : Int) : Nat := (x % 18446744073709551616).toNat

theorem toU32_of_lt {x : Nat} (small : x < 4294967296) :
    toU32 (x : Int) = x := by
  unfold toU32
  omega

theorem toI32_of_lt {x : Int} (lower : -2147483648 ≤ x)
    (upper : x < 2147483648) : toI32 x = x := by
  unfold toI32
  omega

/-- Passing through `int` does not change the low 32 bits of a sum. -/
theorem toU32_add_toI32 (x y : Int) : toU32 (x + toI32 y) = toU32 (x + y) := by
  unfold toU32 toI32
  omega

/-- How a call comes back.  A call that never comes back (it waits for a latch,
keeps looping, or accesses memory that is not its own) has no value. -/
inductive Completion (α : Type) where
  | returns (value : α)
  /-- a `bson::assertion` leaves the function -/
  | throws

end EmeraldDb
