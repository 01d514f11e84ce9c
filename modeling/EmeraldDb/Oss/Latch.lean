/-
Module: EmeraldDb.Oss.Latch
Purpose: The state of the two latch classes of ossLatch.hpp.  Acquiring a latch
  that is not available blocks the caller, which is `none` here.
Trusted boundary: human-reviewed spec
Main exports: OssXLatch, OssSLatch
-/
import Mathlib.Data.Nat.Notation

namespace EmeraldDb

/-- `ossXLatch`: a mutex, held or free. -/
structure OssXLatch where
  held : Bool
deriving DecidableEq, Repr

namespace OssXLatch

def init : OssXLatch := ⟨false⟩

/-- `get`: waits for ever when nobody will release the mutex. -/
def get (latch : OssXLatch) : Option OssXLatch :=
  if latch.held then none else some ⟨true⟩

def release (_ : OssXLatch) : OssXLatch := ⟨false⟩

/-- `try_get`: `none` is the answer `false`. -/
def tryGet (latch : OssXLatch) : Option OssXLatch :=
  if latch.held then none else some ⟨true⟩

/-- Only a free mutex can be taken. -/
theorem tryGet_some {latch held : OssXLatch} (taken : latch.tryGet = some held) :
    latch = init := by
  unfold tryGet at taken
  split at taken
  next => cases taken
  next free =>
    obtain ⟨isHeld⟩ := latch
    exact congrArg OssXLatch.mk (by simpa using free)

@[simp] theorem tryGet_init : init.tryGet = some ⟨true⟩ := rfl

theorem held_of_tryGet {latch held : OssXLatch} (taken : latch.tryGet = some held) :
    held.held = true := by
  rw [tryGet_some taken, tryGet_init] at taken
  cases taken
  rfl

end OssXLatch

/-- `ossSLatch`: a read/write lock. -/
structure OssSLatch where
  writer : Bool
  readers : ℕ
deriving DecidableEq, Repr

namespace OssSLatch

def init : OssSLatch := ⟨false, 0⟩

/-- `get`: the exclusive mode. -/
def get (latch : OssSLatch) : Option OssSLatch :=
  if latch.writer = false ∧ latch.readers = 0 then some ⟨true, 0⟩ else none

def release (latch : OssSLatch) : OssSLatch := { latch with writer := false }

/-- `get_shared`: admitted beside other readers. -/
def getShared (latch : OssSLatch) : Option OssSLatch :=
  if latch.writer then none else some ⟨false, latch.readers + 1⟩

def releaseShared (latch : OssSLatch) : OssSLatch :=
  { latch with readers := latch.readers - 1 }

@[simp] theorem get_init : init.get = some ⟨true, 0⟩ := rfl

@[simp] theorem release_exclusive : release ⟨true, 0⟩ = init := rfl

/-- Only a free latch can be taken exclusively, and giving it back frees it. -/
theorem get_some {latch held : OssSLatch} (taken : latch.get = some held) :
    latch = init ∧ held.release = init := by
  unfold get at taken
  split at taken
  next free =>
    obtain ⟨writer, readers⟩ := latch
    obtain ⟨rfl, rfl⟩ := free
    obtain rfl := Option.some.inj taken
    exact ⟨rfl, rfl⟩
  next => cases taken

/-- Giving back a shared latch that no writer holds restores it. -/
theorem getShared_some {latch held : OssSLatch} (taken : latch.getShared = some held) :
    latch.writer = false ∧ held = ⟨false, latch.readers + 1⟩ ∧
      held.releaseShared = latch := by
  unfold getShared at taken
  split at taken
  next => cases taken
  next free =>
    obtain ⟨writer, readers⟩ := latch
    obtain rfl := Option.some.inj taken
    have writerFree : writer = false := by simpa using free
    subst writerFree
    exact ⟨rfl, rfl, rfl⟩

end OssSLatch

end EmeraldDb
