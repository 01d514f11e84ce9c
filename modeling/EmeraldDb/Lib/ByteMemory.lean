/-
Module: EmeraldDb.Lib.ByteMemory
Purpose: Flat byte memories with little-endian 32-bit words, byte-string
  stores and overlapping moves, and the frame lemmas that say which reads a
  store leaves alone.
Trusted boundary: none
Main exports:
  Mem, SameOn, readU32, writeU32, readBytes, writeBytes, move
-/
import Mathlib.Data.List.GetD

namespace ByteMemory

/-- A memory is total: an address that was never written still holds a byte. -/
abbrev Mem := Nat → UInt8

/-- Two memories hold the same bytes at every address of `[lo, hi)`. -/
def SameOn (lo hi : Nat) (m m' : Mem) : Prop :=
  ∀ a, lo ≤ a → a < hi → m' a = m a

namespace SameOn

theorem refl (lo hi : Nat) (m : Mem) : SameOn lo hi m m :=
  fun _ _ _ => rfl

theorem trans {lo hi : Nat} {m m' m'' : Mem}
    (first : SameOn lo hi m m') (second : SameOn lo hi m' m'') :
    SameOn lo hi m m'' :=
  fun a lower upper => (second a lower upper).trans (first a lower upper)

/-- Agreement on an interval restricts to every interval inside it. -/
theorem mono {lo hi lo' hi' : Nat} {m m' : Mem} (h : SameOn lo hi m m')
    (lower : lo ≤ lo') (upper : hi' ≤ hi) : SameOn lo' hi' m m' :=
  fun a above below =>
    h a (Nat.le_trans lower above) (Nat.lt_of_lt_of_le below upper)

end SameOn

/-! ### Words -/

/-- The little-endian 32-bit word at address `a`. -/
def readU32 (m : Mem) (a : Nat) : Nat :=
  (m a).toNat + 256 * (m (a + 1)).toNat + 65536 * (m (a + 2)).toNat +
    16777216 * (m (a + 3)).toNat

/-- The four bytes of a word, lowest first; a value past 32 bits is cut. -/
def u32Bytes (v : Nat) : List UInt8 :=
  [UInt8.ofNat v, UInt8.ofNat (v / 256), UInt8.ofNat (v / 65536),
    UInt8.ofNat (v / 16777216)]

/-- Store a byte string at address `a`. -/
def writeBytes (m : Mem) (a : Nat) (bytes : List UInt8) : Mem := fun x =>
  if a ≤ x ∧ x < a + bytes.length then bytes.getD (x - a) 0 else m x

/-- Store a 32-bit word at address `a`. -/
def writeU32 (m : Mem) (a v : Nat) : Mem :=
  writeBytes m a (u32Bytes v)

/-- The `n` bytes from address `a` on. -/
def readBytes (m : Mem) (a n : Nat) : List UInt8 :=
  (List.range n).map fun i => m (a + i)

/-- Copy `n` bytes from `src` to `dst` as if through a temporary, so the two
ranges may overlap. -/
def move (m : Mem) (dst src n : Nat) : Mem := fun x =>
  if dst ≤ x ∧ x < dst + n then m (src + (x - dst)) else m x

theorem readU32_lt (m : Mem) (a : Nat) : readU32 m a < 4294967296 := by
  have b0 := (m a).toNat_lt
  have b1 := (m (a + 1)).toNat_lt
  have b2 := (m (a + 2)).toNat_lt
  have b3 := (m (a + 3)).toNat_lt
  unfold readU32
  omega

@[simp] theorem u32Bytes_length (v : Nat) : (u32Bytes v).length = 4 := rfl

@[simp] theorem readBytes_length (m : Mem) (a n : Nat) :
    (readBytes m a n).length = n := by
  simp [readBytes]

theorem readBytes_getElem (m : Mem) (a n i : Nat)
    (bound : i < (readBytes m a n).length) :
    (readBytes m a n)[i] = m (a + i) := by
  simp [readBytes]

/-! ### What a store changes -/

theorem writeBytes_outside {m : Mem} {a x : Nat} {bytes : List UInt8}
    (outside : x < a ∨ a + bytes.length ≤ x) :
    writeBytes m a bytes x = m x := by
  unfold writeBytes
  rw [if_neg (by omega)]

theorem writeBytes_inside {m : Mem} {a i : Nat} {bytes : List UInt8}
    (bound : i < bytes.length) :
    writeBytes m a bytes (a + i) = bytes[i] := by
  unfold writeBytes
  rw [if_pos (by omega), Nat.add_sub_cancel_left, List.getD_eq_getElem _ _ bound]

theorem move_outside {m : Mem} {dst src n x : Nat}
    (outside : x < dst ∨ dst + n ≤ x) : move m dst src n x = m x := by
  unfold move
  rw [if_neg (by omega)]

theorem move_inside {m : Mem} {dst src n i : Nat} (bound : i < n) :
    move m dst src n (dst + i) = m (src + i) := by
  unfold move
  rw [if_pos (by omega), Nat.add_sub_cancel_left]

/-- Storing a byte string agrees with the old memory off its footprint. -/
theorem sameOn_writeBytes {m : Mem} {a lo hi : Nat} {bytes : List UInt8}
    (disjoint : hi ≤ a ∨ a + bytes.length ≤ lo) :
    SameOn lo hi m (writeBytes m a bytes) :=
  fun _ _ _ => writeBytes_outside (by omega)

theorem sameOn_writeU32 {m : Mem} {a v lo hi : Nat}
    (disjoint : hi ≤ a ∨ a + 4 ≤ lo) : SameOn lo hi m (writeU32 m a v) :=
  sameOn_writeBytes (by simpa using disjoint)

/-! ### What a read depends on -/

theorem readU32_congr {m m' : Mem} {a : Nat} (h : SameOn a (a + 4) m m') :
    readU32 m' a = readU32 m a := by
  unfold readU32
  rw [h a (by omega) (by omega), h (a + 1) (by omega) (by omega),
    h (a + 2) (by omega) (by omega), h (a + 3) (by omega) (by omega)]

theorem readBytes_congr {m m' : Mem} {a n : Nat}
    (h : SameOn a (a + n) m m') : readBytes m' a n = readBytes m a n := by
  apply List.map_congr_left
  intro i member
  have bound := List.mem_range.mp member
  exact h (a + i) (by omega) (by omega)

theorem SameOn.readU32_eq {lo hi a : Nat} {m m' : Mem}
    (h : SameOn lo hi m m') (lower : lo ≤ a) (upper : a + 4 ≤ hi) :
    readU32 m' a = readU32 m a :=
  readU32_congr (h.mono lower upper)

theorem SameOn.readBytes_eq {lo hi a n : Nat} {m m' : Mem}
    (h : SameOn lo hi m m') (lower : lo ≤ a) (upper : a + n ≤ hi) :
    readBytes m' a n = readBytes m a n :=
  readBytes_congr (h.mono lower upper)

theorem readU32_writeU32_of_disjoint {m : Mem} {a b v : Nat}
    (disjoint : b + 4 ≤ a ∨ a + 4 ≤ b) :
    readU32 (writeU32 m a v) b = readU32 m b :=
  readU32_congr (sameOn_writeU32 (by omega))

/-! ### Reading back what was stored -/

theorem readBytes_writeBytes_self (m : Mem) (a : Nat) (bytes : List UInt8) :
    readBytes (writeBytes m a bytes) a bytes.length = bytes := by
  apply List.ext_getElem
  · simp
  · intro i left right
    rw [readBytes_getElem, writeBytes_inside right]

/-- Storing what is there already changes nothing. -/
theorem writeBytes_of_spelled {m : Mem} {a : Nat} {bytes : List UInt8}
    (spelled : readBytes m a bytes.length = bytes) : writeBytes m a bytes = m := by
  funext x
  by_cases inside : a ≤ x ∧ x < a + bytes.length
  · obtain ⟨i, rfl⟩ : ∃ i, x = a + i := ⟨x - a, by omega⟩
    have bound : i < bytes.length := by omega
    rw [writeBytes_inside bound]
    simp only [← readBytes_getElem m a bytes.length i (by rwa [readBytes_length]), spelled]
  · exact writeBytes_outside (by omega)

theorem writeBytes_nil (m : Mem) (a : Nat) : writeBytes m a [] = m :=
  writeBytes_of_spelled rfl

theorem readBytes_append (m : Mem) (a n k : Nat) :
    readBytes m a (n + k) = readBytes m a n ++ readBytes m (a + n) k := by
  simp [readBytes, List.range_add, List.map_append, Nat.add_assoc]

/-- Two stores side by side are one store of the joined strings. -/
theorem writeBytes_append (m : Mem) (a : Nat) (front rest : List UInt8) :
    writeBytes (writeBytes m a front) (a + front.length) rest =
      writeBytes m a (front ++ rest) := by
  funext x
  by_cases late : a + front.length ≤ x ∧ x < a + front.length + rest.length
  · obtain ⟨j, rfl⟩ : ∃ j, x = a + front.length + j := ⟨x - (a + front.length), by omega⟩
    have bound : j < rest.length := by omega
    rw [writeBytes_inside bound, Nat.add_assoc,
      writeBytes_inside (by rw [List.length_append]; omega)]
    rw [List.getElem_append_right (by omega)]
    congr 1
    omega
  · rw [writeBytes_outside (by omega)]
    by_cases early : a ≤ x ∧ x < a + front.length
    · obtain ⟨j, rfl⟩ : ∃ j, x = a + j := ⟨x - a, by omega⟩
      have bound : j < front.length := by omega
      rw [writeBytes_inside bound,
        writeBytes_inside (by rw [List.length_append]; omega),
        List.getElem_append_left bound]
    · rw [writeBytes_outside (by omega),
        writeBytes_outside (by rw [List.length_append]; omega)]

/-- A word is decided by the byte string that spells it. -/
theorem readU32_eq_of_bytes {m : Mem} {a v : Nat}
    (spelled : readBytes m a 4 = u32Bytes v) :
    readU32 m a = v % 4294967296 := by
  have split : readBytes m a 4 = [m a, m (a + 1), m (a + 2), m (a + 3)] := by
    rfl
  rw [split, u32Bytes] at spelled
  simp only [List.cons.injEq, and_true] at spelled
  obtain ⟨e0, e1, e2, e3⟩ := spelled
  unfold readU32
  rw [e0, e1, e2, e3]
  simp only [UInt8.toNat_ofNat']
  omega

@[simp] theorem readU32_writeU32_self (m : Mem) (a v : Nat) :
    readU32 (writeU32 m a v) a = v % 4294967296 :=
  readU32_eq_of_bytes (by
    simpa [writeU32] using readBytes_writeBytes_self m a (u32Bytes v))

/-- A byte string stored at `a` is what a read inside it sees. -/
theorem readBytes_writeBytes_inside {m : Mem} {a i n : Nat}
    {bytes : List UInt8} (bound : i + n ≤ bytes.length) :
    readBytes (writeBytes m a bytes) (a + i) n = (bytes.drop i).take n := by
  apply List.ext_getElem
  · simp
    omega
  · intro j left right
    have inBytes : i + j < bytes.length := by
      simp only [readBytes_length] at left
      omega
    rw [readBytes_getElem, Nat.add_assoc, writeBytes_inside inBytes]
    simp

/-- The moved range reads as the source range read before the move. -/
theorem readBytes_move {m : Mem} {dst src n i k : Nat} (bound : i + k ≤ n) :
    readBytes (move m dst src n) (dst + i) k = readBytes m (src + i) k := by
  apply List.map_congr_left
  intro j member
  have below := List.mem_range.mp member
  rw [Nat.add_assoc, move_inside (by omega), Nat.add_assoc]

/-! ### Byte strings as memories -/

/-- A byte string laid out from address 0, with zeros behind it. -/
def ofBytes (bytes : List UInt8) : Mem := fun a => bytes.getD a 0

/-- Where a memory spells a byte string, its words are the string's words. -/
theorem readU32_eq_ofBytes {m : Mem} {a i n : Nat} {bytes : List UInt8}
    (spelled : readBytes m a n = bytes) (bound : i + 4 ≤ n) :
    readU32 m (a + i) = readU32 (ofBytes bytes) i := by
  subst spelled
  have bytewise : ∀ j, j < n → ofBytes (readBytes m a n) j = m (a + j) := by
    intro j below
    unfold ofBytes
    rw [List.getD_eq_getElem _ _ (by simpa using below), readBytes_getElem]
  unfold readU32
  rw [bytewise i (by omega), bytewise (i + 1) (by omega),
    bytewise (i + 2) (by omega), bytewise (i + 3) (by omega)]
  simp only [Nat.add_assoc]

@[simp] theorem readBytes_ofBytes (bytes : List UInt8) :
    readBytes (ofBytes bytes) 0 bytes.length = bytes := by
  apply List.ext_getElem
  · exact readBytes_length _ _ _
  · intro i left right
    rw [readBytes_getElem, Nat.zero_add, ofBytes, List.getD_eq_getElem _ _ right]

/-- A word spells the four bytes it was read from. -/
theorem u32Bytes_readU32 (m : Mem) (a : Nat) : u32Bytes (readU32 m a) = readBytes m a 4 := by
  have split : readBytes m a 4 = [m a, m (a + 1), m (a + 2), m (a + 3)] := rfl
  have low (v rest : Nat) (byte : UInt8) (same : v = byte.toNat + 256 * rest) :
      UInt8.ofNat v = byte := by
    apply UInt8.toNat_inj.mp
    have small := byte.toNat_lt
    rw [UInt8.toNat_ofNat']
    omega
  have b0 := (m a).toNat_lt
  have b1 := (m (a + 1)).toNat_lt
  have b2 := (m (a + 2)).toNat_lt
  have b3 := (m (a + 3)).toNat_lt
  rw [split, u32Bytes, readU32, low _ ((m (a + 1)).toNat + 256 * (m (a + 2)).toNat +
      65536 * (m (a + 3)).toNat) (m a) (by omega),
    low _ ((m (a + 2)).toNat + 256 * (m (a + 3)).toNat) (m (a + 1)) (by omega),
    low _ (m (a + 3)).toNat (m (a + 2)) (by omega), low _ 0 (m (a + 3)) (by omega)]

/-- Storing a word where it was read changes nothing. -/
theorem writeU32_readU32 (m : Mem) (a : Nat) : writeU32 m a (readU32 m a) = m := by
  apply writeBytes_of_spelled
  rw [u32Bytes_length, u32Bytes_readU32]

/-- Moving a range to where it is changes nothing. -/
theorem move_self (m : Mem) (a n : Nat) : move m a a n = m := by
  funext x
  by_cases inside : a ≤ x ∧ x < a + n
  · rw [move, if_pos inside, Nat.add_sub_cancel' inside.1]
  · exact if_neg inside

/-- Equal byte strings open with equal words. -/
theorem readU32_eq_of_readBytes {m m' : Mem} {a a' n : Nat}
    (same : readBytes m a n = readBytes m' a' n) (long : 4 ≤ n) :
    readU32 m a = readU32 m' a' := by
  have word := readU32_eq_ofBytes (i := 0) same long
  have word' := readU32_eq_ofBytes (m := m') (a := a') (i := 0) rfl long
  exact word.trans word'.symm

/-- The words behind a prefix are the words of what follows it. -/
theorem readU32_ofBytes_append (front rest : List UInt8) (i : Nat) :
    readU32 (ofBytes (front ++ rest)) (front.length + i) =
      readU32 (ofBytes rest) i := by
  have shifted : ∀ j, ofBytes (front ++ rest) (front.length + j) = ofBytes rest j := by
    intro j
    unfold ofBytes
    rw [List.getD_append_right _ _ _ _ (by omega), Nat.add_sub_cancel_left]
  unfold readU32
  simp only [Nat.add_assoc, shifted]

/-- A word spelled by the first four bytes of a string. -/
theorem readU32_ofBytes_u32Bytes (v : Nat) (rest : List UInt8) :
    readU32 (ofBytes (u32Bytes v ++ rest)) 0 = v % 4294967296 :=
  readU32_eq_of_bytes rfl

/-- A string stored into zeros is laid out as it is. -/
theorem writeBytes_zeros (bytes : List UInt8) :
    writeBytes (fun _ => 0) 0 bytes = ofBytes bytes := by
  funext x
  rw [writeBytes, ofBytes, Nat.zero_add, Nat.sub_zero]
  by_cases inside : x < bytes.length
  · exact if_pos ⟨Nat.zero_le x, inside⟩
  · have behind : bytes.length ≤ x := Nat.le_of_not_lt inside
    rw [if_neg fun both => inside both.2, List.getD_eq_default _ _ behind]

/-- The words of a prefix are the words of the whole string. -/
theorem readU32_ofBytes_append_left {front : List UInt8} (rest : List UInt8) {i : Nat}
    (bound : i + 4 ≤ front.length) :
    readU32 (ofBytes (front ++ rest)) i = readU32 (ofBytes front) i := by
  apply readU32_congr
  intro a _ upper
  have inside : a < front.length := Nat.lt_of_lt_of_le upper bound
  exact List.getD_append _ _ _ _ inside

/-- Bytes that follow can only raise a word that was not complete. -/
theorem readU32_ofBytes_le_append (front rest : List UInt8) (i : Nat) :
    readU32 (ofBytes front) i ≤ readU32 (ofBytes (front ++ rest)) i := by
  have bytewise : ∀ a, (ofBytes front a).toNat ≤ (ofBytes (front ++ rest) a).toNat := by
    intro a
    rcases Nat.lt_or_ge a front.length with inside | behind
    · apply Nat.le_of_eq
      exact congrArg UInt8.toNat (List.getD_append _ _ _ _ inside).symm
    · have nothing : ofBytes front a = 0 := List.getD_eq_default _ _ behind
      rw [nothing]
      exact Nat.zero_le _
  have b0 := bytewise i
  have b1 := bytewise (i + 1)
  have b2 := bytewise (i + 2)
  have b3 := bytewise (i + 3)
  unfold readU32
  omega

end ByteMemory
