/-
Module: EmeraldDb.Proofs.ReceiveBuffer
Purpose: For which length prefixes the receive buffer covers the packet, over every
  sequence of packets on one connection.
Trusted boundary: none
Main exports: ReceiveBuffer.Sound, ReceiveBuffer.reserve_covers_iff,
  connection_covers_iff
-/
import EmeraldDb.Lib.Run
import EmeraldDb.Pmd.ReceiveBuffer

namespace EmeraldDb

open ByteMemory

/-! ### Rounding -/

/-- As long as the sum does not wrap, the macro rounds up to a multiple. -/
theorem ossRoundUp_eq {x : Int} (positive : 0 ≤ x) (fits : x + 4095 < 2147483648) :
    ossRoundUpToMultipleX x edbPageSize = x + 4095 - (x + 4095) % 4096 := by
  have step : toI32 (edbPageSize - 1) = 4095 := rfl
  have sum : toI32 (x + 4095) = x + 4095 := toI32_of_lt (by omega) fits
  have page : edbPageSize = 4096 := rfl
  have remainder : (x + 4095).tmod 4096 = (x + 4095) % 4096 :=
    Int.tmod_eq_emod_of_nonneg (by omega)
  rw [ossRoundUpToMultipleX, step, sum, page, remainder]
  exact toI32_of_lt (by omega) (by omega)

theorem ossRoundUp_of_fits {x : Int} (positive : 0 ≤ x) (fits : x + 4095 < 2147483648) :
    x ≤ ossRoundUpToMultipleX x edbPageSize ∧
      ossRoundUpToMultipleX x edbPageSize < 2147483648 := by
  rw [ossRoundUp_eq positive fits]
  omega

/-- When it wraps, the result is negative. -/
theorem ossRoundUp_of_wraps {x : Int} (upper : x < 2147483648)
    (wraps : 2147483648 ≤ x + 4095) : ossRoundUpToMultipleX x edbPageSize < 0 := by
  have step : toI32 (edbPageSize - 1) = 4095 := rfl
  have page : edbPageSize = 4096 := rfl
  have sum : toI32 (x + 4095) = x + 4095 - 4294967296 := by
    unfold toI32
    omega
  have remainder : (x + 4095 - 4294967296).tmod 4096 ≤ 0 ∧
      -4096 < (x + 4095 - 4294967296).tmod 4096 := by
    refine ⟨?_, Int.lt_tmod_of_pos _ (by decide)⟩
    rw [Int.tmod_eq_emod]
    split
    next whole =>
      rcases whole with positive | divides
      · omega
      · omega
    next =>
      have small := Int.emod_lt_of_pos (x + 4095 - 4294967296) (show (0 : Int) < 4096 by decide)
      show _ - (4096 : Int) ≤ 0
      omega
  rw [ossRoundUpToMultipleX, step, sum, page, toI32_of_lt (by omega) (by omega)]
  omega

/-! ### One packet -/

namespace ReceiveBuffer

/-- The variable `receiveBufferSize` is what malloc handed out. -/
structure Sound (buffer : ReceiveBuffer) : Prop where
  size : buffer.receiveBufferSize = buffer.allocated
  int : buffer.receiveBufferSize < 2147483648

theorem init_sound (contents : Mem) : (init contents).Sound := by
  have size : ossRoundUpToMultipleX pmdAgentReceiveBufferSz edbPageSize = 4096 := by decide
  refine ⟨?_, ?_⟩
  · rw [init, size]
    rfl
  · rw [init, size]
    show (4096 : Int) < 2147483648
    decide

/-- How far `reserve` came when the body is received next. -/
theorem reserve_ok {word : Nat} {malloc : Option Mem} {buffer buffer' : ReceiveBuffer}
    (reserved : buffer.reserve word malloc = .ok buffer') :
    4 ≤ toI32 word ∧
      ((toI32 (toI32 word + 1) ≤ buffer.receiveBufferSize ∧
          buffer'.receiveBufferSize = buffer.receiveBufferSize ∧
          buffer'.allocated = buffer.allocated) ∨
        (buffer.receiveBufferSize < toI32 (toI32 word + 1) ∧
          0 ≤ ossRoundUpToMultipleX (toI32 (toI32 word + 1)) edbPageSize ∧
          buffer'.receiveBufferSize =
            ossRoundUpToMultipleX (toI32 (toI32 word + 1)) edbPageSize ∧
          buffer'.allocated =
            (ossRoundUpToMultipleX (toI32 (toI32 word + 1)) edbPageSize).toNat)) := by
  rw [reserve] at reserved
  generalize ossRoundUpToMultipleX (toI32 (toI32 word + 1)) edbPageSize = newSize
    at reserved ⊢
  dsimp only at reserved
  split at reserved
  next => cases reserved
  next accepted =>
    refine ⟨Int.not_lt.mp accepted, ?_⟩
    split at reserved
    next small =>
      split at reserved
      next => cases reserved
      next sized =>
        cases malloc with
        | none => cases reserved
        | some contents =>
            obtain rfl := Except.ok.inj reserved
            exact Or.inr ⟨small, Int.not_lt.mp sized, rfl, rfl⟩
    next large =>
      obtain rfl := Except.ok.inj reserved
      exact Or.inl ⟨Int.not_lt.mp large, rfl, rfl⟩

/-- At the receive of the body a sound buffer is still sound, and covers the packet
unless `packetLength + 1` wrapped. -/
theorem Sound.reserve {word : Nat} {malloc : Option Mem} {buffer buffer' : ReceiveBuffer}
    (sound : buffer.Sound) (reserved : buffer.reserve word malloc = .ok buffer') :
    buffer'.Sound ∧
      (toI32 word + 1 ≤ buffer'.allocated ↔ toI32 word ≠ 2147483647) := by
  obtain ⟨accepted, outcome⟩ := reserve_ok reserved
  have range : toI32 word < 2147483648 := by
    unfold toI32
    omega
  by_cases largest : toI32 word = 2147483647
  · have wrapped : toI32 (toI32 word + 1) = -2147483648 := by
      rw [largest]
      rfl
    rw [wrapped] at outcome
    have size := sound.size
    have int := sound.int
    rcases outcome with ⟨-, sameSize, sameAllocated⟩ | ⟨small, -⟩
    · refine ⟨⟨?_, ?_⟩, ?_⟩
      · rw [sameSize, sameAllocated, size]
      · rw [sameSize]
        exact int
      · rw [sameAllocated]
        omega
    · omega
  · have next : toI32 (toI32 word + 1) = toI32 word + 1 :=
      toI32_of_lt (by omega) (by omega)
    rw [next] at outcome
    rcases outcome with ⟨covers, sameSize, sameAllocated⟩ | ⟨-, positive, newSize, newAllocated⟩
    · refine ⟨⟨?_, ?_⟩, ?_⟩
      · rw [sameSize, sameAllocated, sound.size]
      · rw [sameSize]
        exact sound.int
      · rw [sameAllocated, ← sound.size]
        exact iff_of_true covers largest
    · have fits : toI32 word + 1 + 4095 < 2147483648 := by
        by_contra wraps
        have negative := ossRoundUp_of_wraps (x := toI32 word + 1) (by omega) (by omega)
        omega
      obtain ⟨covers, int⟩ := ossRoundUp_of_fits (x := toI32 word + 1) (by omega) fits
      refine ⟨⟨?_, ?_⟩, ?_⟩
      · rw [newSize, newAllocated, Int.toNat_of_nonneg positive]
      · rw [newSize]
        exact int
      · rw [newAllocated, Int.toNat_of_nonneg positive]
        exact iff_of_true covers largest

/-- What came before the body. -/
theorem receivePacket_some {packet : Packet} {buffer buffer' : ReceiveBuffer}
    {packetLength : Int}
    (received : buffer.receivePacket packet = some (packetLength, buffer')) :
    ∃ reserved, buffer.reserve packet.word packet.malloc = .ok reserved ∧
      reserved.receiveBody (toI32 packet.word) packet.body = some buffer' := by
  obtain ⟨reserved, kept, rest⟩ := Option.bind_eq_some_iff.mp received
  obtain ⟨filled, completed, pair⟩ := Option.bind_eq_some_iff.mp rest
  obtain ⟨-, rfl⟩ := Prod.mk.inj (Option.some.inj pair)
  refine ⟨reserved, ?_, completed⟩
  cases outcome : buffer.reserve packet.word packet.malloc with
  | error rc =>
      rw [outcome] at kept
      cases kept
  | ok result =>
      rw [outcome] at kept
      rw [Option.some.inj kept]

theorem receiveBody_size {packetLength : Int} {body : List UInt8}
    {reserved buffer' : ReceiveBuffer}
    (completed : reserved.receiveBody packetLength body = some buffer') :
    buffer'.receiveBufferSize = reserved.receiveBufferSize ∧
      buffer'.allocated = reserved.allocated := by
  rw [receiveBody] at completed
  split at completed
  next =>
    cases completed
    exact ⟨rfl, rfl⟩
  next => cases completed

theorem Sound.receiveBody {packetLength : Int} {body : List UInt8}
    {reserved buffer' : ReceiveBuffer} (sound : reserved.Sound)
    (completed : reserved.receiveBody packetLength body = some buffer') : buffer'.Sound := by
  obtain ⟨sameSize, sameAllocated⟩ := receiveBody_size completed
  constructor
  · rw [sameSize, sameAllocated]
    exact sound.size
  · rw [sameSize]
    exact sound.int

theorem Sound.receivePacket {packet : Packet} {buffer buffer' : ReceiveBuffer}
    {packetLength : Int} (sound : buffer.Sound)
    (received : buffer.receivePacket packet = some (packetLength, buffer')) :
    buffer'.Sound := by
  obtain ⟨reserved, done, completed⟩ := receivePacket_some received
  exact (sound.reserve done).1.receiveBody completed

end ReceiveBuffer

/-! ### One connection -/

/-- The packets received on one connection. -/
abbrev Connection (contents : Mem) (trace : List (Transition ReceiveBuffer
    ReceiveBuffer.Packet Int)) (buffer : ReceiveBuffer) : Prop :=
  Run ReceiveBuffer.receivePacket (fun _ _ _ => True) (.init contents) trace buffer

theorem connection_sound {contents : Mem} {trace : List (Transition ReceiveBuffer
    ReceiveBuffer.Packet Int)} {buffer : ReceiveBuffer}
    (connection : Connection contents trace buffer) : buffer.Sound := by
  apply Run.invariant (ReceiveBuffer.init_sound contents) _ connection
  intro trace buffer packet packetLength next sound _ received
  exact sound.receivePacket received

/-- On every connection, whenever the receive of a body is reached, the buffer covers
the packet and its terminator exactly when the prefix is not the largest `int`. -/
theorem connection_covers_iff {contents : Mem} {trace : List (Transition ReceiveBuffer
    ReceiveBuffer.Packet Int)} {buffer buffer' : ReceiveBuffer}
    (connection : Connection contents trace buffer) {word : Nat} {malloc : Option Mem}
    (reserved : buffer.reserve word malloc = .ok buffer') :
    toI32 word + 1 ≤ buffer'.allocated ↔ toI32 word ≠ 2147483647 :=
  ((connection_sound connection).reserve reserved).2

/-- A packet of five bytes fits the first buffer. -/
theorem connection_covers_iff_five : ∃ buffer : ReceiveBuffer,
    (ReceiveBuffer.init fun _ => 0).reserve 5 none = .ok buffer ∧
      toI32 5 + 1 ≤ buffer.allocated := by
  obtain ⟨buffer, reserved⟩ : ∃ buffer : ReceiveBuffer,
      (ReceiveBuffer.init fun _ => 0).reserve 5 none = .ok buffer := ⟨_, rfl⟩
  exact ⟨buffer, reserved, (connection_covers_iff .start reserved).mpr (by decide)⟩

/-- With the largest `int` as prefix the body is received into the first buffer, which
has 4096 bytes. -/
theorem connection_overrun : ∃ buffer : ReceiveBuffer,
    Connection (fun _ => 0) [] (.init fun _ => 0) ∧
      (ReceiveBuffer.init fun _ => 0).reserve 2147483647 none = .ok buffer ∧
      buffer.allocated = 4096 ∧ ¬ toI32 2147483647 + 1 ≤ buffer.allocated := by
  refine ⟨⟨4096, 4096, writeU32 (fun _ => 0) 0 2147483647⟩, .start, rfl, rfl, ?_⟩
  decide

end EmeraldDb
