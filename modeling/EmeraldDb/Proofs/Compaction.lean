/-
Module: EmeraldDb.Proofs.Compaction
Purpose: What _recoverSpace does to any page whose records lie in the order of their
  slots, and which pages it needs for that.
Trusted boundary: human-reviewed spec
Main exports: RecordsInOrder, PackedFront, Passed, recoverSpace_passed, Compacted,
  recoverSpace_compacted, gapAbove_notCompacted
-/
import EmeraldDb.Dms.Page

namespace EmeraldDb

open ByteMemory

/-- The size word of the record slot `i` points to; an empty slot counts for
nothing. -/
def slotRoom (m : Mem) (page i : Nat) : Nat :=
  if pageSlot m page i = dmsSlotEmpty then 0
  else recordSizeAt m (page + pageSlot m page i)

/-- The total size of the live records in the first `i` slots. -/
def roomBefore (m : Mem) (page i : Nat) : Nat :=
  ((List.range i).map (slotRoom m page)).sum

/-- The slots that are not empty hold strictly decreasing offsets of records that lie
behind the slots, inside the page, and apart from each other. -/
structure RecordsInOrder (m : Mem) (page : Nat) : Prop where
  behindSlots : ∀ i, i < pageNumSlots m page → pageSlot m page i ≠ dmsSlotEmpty →
    sizeofDmsPageHeader + sizeofSlot * pageNumSlots m page ≤ pageSlot m page i
  headed : ∀ i, i < pageNumSlots m page → pageSlot m page i ≠ dmsSlotEmpty →
    sizeofDmsRecord ≤ recordSizeAt m (page + pageSlot m page i)
  inPage : ∀ i, i < pageNumSlots m page → pageSlot m page i ≠ dmsSlotEmpty →
    pageSlot m page i + recordSizeAt m (page + pageSlot m page i) ≤ dmsPageSize
  decreasing : ∀ i j, i < j → j < pageNumSlots m page →
    pageSlot m page i ≠ dmsSlotEmpty → pageSlot m page j ≠ dmsSlotEmpty →
      pageSlot m page j < pageSlot m page i
  disjoint : ∀ i j, i < j → j < pageNumSlots m page →
    pageSlot m page i ≠ dmsSlotEmpty → pageSlot m page j ≠ dmsSlotEmpty →
      pageSlot m page j + recordSizeAt m (page + pageSlot m page j) ≤ pageSlot m page i ∨
        pageSlot m page i + recordSizeAt m (page + pageSlot m page i) ≤ pageSlot m page j

/-- In front of the first empty slot the records lie without a gap under the end of the
page. -/
def PackedFront (m : Mem) (page : Nat) : Prop :=
  ∀ j, j < pageNumSlots m page → (∀ i, i ≤ j → pageSlot m page i ≠ dmsSlotEmpty) →
    pageSlot m page j + roomBefore m page (j + 1) = dmsPageSize

theorem slotAddress_eq (page i : Nat) :
    slotAddress page i = page + 28 + 4 * i := by
  simp only [slotAddress, sizeofDmsPageHeader, sizeofSlot]
  omega

/-! ### Room -/

theorem roomBefore_succ (m : Mem) (page i : Nat) :
    roomBefore m page (i + 1) = roomBefore m page i + slotRoom m page i := by
  rw [roomBefore, List.range_succ, List.map_append, List.sum_append, List.map_singleton,
    List.sum_singleton, roomBefore]

theorem roomBefore_mono (m : Mem) (page : Nat) {i j : Nat} (before : i ≤ j) :
    roomBefore m page i ≤ roomBefore m page j := by
  induction before with
  | refl => exact Nat.le_refl _
  | step _ ih =>
      rw [roomBefore_succ]
      exact Nat.le_trans ih (Nat.le_add_right _ _)

theorem slotRoom_empty {m : Mem} {page i : Nat} (empty : pageSlot m page i = dmsSlotEmpty) :
    slotRoom m page i = 0 := if_pos empty

theorem slotRoom_live {m : Mem} {page i : Nat} (live : pageSlot m page i ≠ dmsSlotEmpty) :
    slotRoom m page i = recordSizeAt m (page + pageSlot m page i) := if_neg live

/-- Above a record there is room for the records of all earlier slots. -/
theorem RecordsInOrder.room {m : Mem} {page : Nat} (order : RecordsInOrder m page) (i : Nat) :
    ∀ j, i ≤ j → j < pageNumSlots m page → pageSlot m page j ≠ dmsSlotEmpty →
      pageSlot m page j + slotRoom m page j + roomBefore m page i ≤ 4194304 := by
  induction i with
  | zero =>
      intro j _ bound live
      rw [slotRoom_live live]
      exact order.inPage j bound live
  | succ i ih =>
      intro j before bound live
      have earlier := ih j (Nat.le_of_succ_le before) bound live
      rw [roomBefore_succ]
      by_cases empty : pageSlot m page i = dmsSlotEmpty
      · rw [slotRoom_empty empty]
        exact earlier
      · have inPage := ih i (Nat.le_refl i) (Nat.lt_trans before bound) empty
        have below := order.decreasing i j before bound empty live
        have apart := order.disjoint i j before bound empty live
        rw [← slotRoom_live live, ← slotRoom_live empty] at apart
        omega

/-- The slots end below the room of all live records, if there is one. -/
theorem RecordsInOrder.below {m : Mem} {page : Nat} (order : RecordsInOrder m page) (i : Nat)
    (bound : i ≤ pageNumSlots m page) :
    roomBefore m page i = 0 ∨
      28 + 4 * pageNumSlots m page + roomBefore m page i ≤ 4194304 := by
  induction i with
  | zero => exact .inl rfl
  | succ i ih =>
      rw [roomBefore_succ]
      by_cases empty : pageSlot m page i = dmsSlotEmpty
      · rw [slotRoom_empty empty]
        exact ih (Nat.le_of_succ_le bound)
      · have behindSlots := order.behindSlots i bound empty
        have room := order.room i i (Nat.le_refl i) bound empty
        simp only [sizeofDmsPageHeader, sizeofSlot] at behindSlots
        omega

/-! ### One pass -/

/-- What a pass over a live slot does: the record ends right under `top`, and everything
outside its slot and its new place is as before. -/
structure PassedLive (page i size top : Nat) (state state' : RecoverState) : Prop where
  pRight : state'.pRight = (page : Int) + (top - size : Nat)
  isRecover : state'.isRecover = state.isRecover
  slot : pageSlot state'.memory page i = top - size
  record : readBytes state'.memory (page + (top - size)) size =
    readBytes state.memory (page + pageSlot state.memory page i) size
  outside : ∀ a, a < page + 28 + 4 * i ∨ page + 28 + 4 * (i + 1) ≤ a →
    a < page + (top - size) ∨ page + top ≤ a → state'.memory a = state.memory a

theorem recoverPass_live {page i size top : Nat} {state : RecoverState}
    (live : pageSlot state.memory page i ≠ dmsSlotEmpty)
    (sized : recordSizeAt state.memory (page + pageSlot state.memory page i) = size)
    (right : state.pRight = (page : Int) + top)
    (behindSlots : 28 + 4 * (i + 1) ≤ pageSlot state.memory page i)
    (fits : pageSlot state.memory page i + size ≤ top) (inPage : top ≤ 4194304)
    (kept : state.isRecover = false → pageSlot state.memory page i + size = top) :
    PassedLive page i size top state (recoverPass page i state) := by
  have signed : toI32 (size : Int) = size := toI32_of_lt (by omega) (by omega)
  have lowered : (page : Int) + top - size = (page : Int) + (top - size : Nat) := by omega
  have present : dmsSlotEmpty ≠ pageSlot state.memory page i := Ne.symm live
  have address := slotAddress_eq page i
  cases recovering : state.isRecover with
  | false =>
      have place : top - size = pageSlot state.memory page i := by
        rw [← kept recovering]
        exact Nat.add_sub_cancel _ _
      have pass : recoverPass page i state =
          { state with pRight := (page : Int) + (top - size : Nat) } := by
        rw [recoverPass, if_pos present, sized, signed, right]
        dsimp only
        rw [lowered, recovering, if_neg Bool.false_ne_true]
      rw [pass]
      constructor
      · rfl
      · rfl
      · exact place.symm
      · rw [place]
      · exact fun _ _ _ => rfl
  | true =>
      have target : ((page : Int) + (top - size : Nat)).toNat = page + (top - size) := by omega
      have word : toU32 ((page : Int) + (top - size : Nat) - page) = top - size := by
        unfold toU32
        omega
      have pass : recoverPass page i state =
          { state with
            memory := writeU32 (move state.memory (page + (top - size))
              (page + pageSlot state.memory page i) size) (slotAddress page i) (top - size)
            pRight := (page : Int) + (top - size : Nat) } := by
        rw [recoverPass, if_pos present, sized, signed, right]
        dsimp only
        rw [lowered, recovering, if_pos rfl, target, word, Int.toNat_natCast]
      rw [pass]
      constructor
      · rfl
      · rfl
      · rw [pageSlot, readU32_writeU32_self]
        omega
      · -- the slot word lies below the record area, so the moved bytes stand
        have apart : SameOn (page + (top - size)) (page + top)
            (move state.memory (page + (top - size))
              (page + pageSlot state.memory page i) size)
            (writeU32 (move state.memory (page + (top - size))
              (page + pageSlot state.memory page i) size) (slotAddress page i)
                (top - size)) := by
          apply sameOn_writeU32
          omega
        rw [apart.readBytes_eq (Nat.le_refl _) (by omega)]
        exact readBytes_move (i := 0) (by omega)
      · intro a offSlot offRecord
        have word : a < slotAddress page i ∨ slotAddress page i + 4 ≤ a := by omega
        have moved : a < page + (top - size) ∨ page + (top - size) + size ≤ a := by omega
        exact (writeBytes_outside word).trans (move_outside moved)

/-! ### The loop -/

/-- The invariant in front of pass `i`: the live records of the first `i` slots lie side by
side under the end of the page, and below them, and outside those slots, the memory is as
it was. -/
structure Passed (m : Mem) (page i : Nat) (state : RecoverState) : Prop where
  pRight : state.pRight = (page : Int) + (dmsPageSize - roomBefore m page i : Nat)
  isRecover : state.isRecover = false → ∀ j, j < i → pageSlot m page j ≠ dmsSlotEmpty
  outside : ∀ a, a < page + 28 ∨ page + 28 + 4 * i ≤ a →
    a < page + (dmsPageSize - roomBefore m page i) ∨ page + dmsPageSize ≤ a →
      state.memory a = m a
  empty : ∀ j, j < i → pageSlot m page j = dmsSlotEmpty →
    pageSlot state.memory page j = dmsSlotEmpty
  slot : ∀ j, j < i → pageSlot m page j ≠ dmsSlotEmpty →
    pageSlot state.memory page j = dmsPageSize - roomBefore m page (j + 1)
  record : ∀ j, j < i → pageSlot m page j ≠ dmsSlotEmpty →
    readBytes state.memory (page + (dmsPageSize - roomBefore m page (j + 1)))
        (slotRoom m page j) =
      readBytes m (page + pageSlot m page j) (slotRoom m page j)

section Loop

variable {m : Mem} {page i : Nat} {state : RecoverState}

/-- The slot that comes next is as it was. -/
theorem Passed.sameSlot (passed : Passed m page i state) (order : RecordsInOrder m page)
    (bound : i < pageNumSlots m page) :
    pageSlot state.memory page i = pageSlot m page i := by
  apply readU32_congr
  intro a lower upper
  rw [slotAddress_eq] at lower upper
  have outside := passed.outside a
  simp only [dmsPageSize] at outside
  apply outside
  · omega
  · rcases order.below i (Nat.le_of_lt bound) with nothing | below
    · omega
    · omega

/-- A pass over an empty slot. -/
theorem Passed.step_empty (passed : Passed m page i state) (order : RecordsInOrder m page)
    (bound : i < pageNumSlots m page) (empty : pageSlot m page i = dmsSlotEmpty) :
    Passed m page (i + 1) (recoverPass page i state) := by
  have same := passed.sameSlot order bound
  have room : roomBefore m page (i + 1) = roomBefore m page i := by
    rw [roomBefore_succ, slotRoom_empty empty, Nat.add_zero]
  have pass : recoverPass page i state = { state with isRecover := true } := by
    rw [recoverPass, same, empty]
    exact if_neg (not_not_intro rfl)
  rw [pass]
  have reached : ∀ j, j < i + 1 → j = i ∨ j < i := by omega
  constructor
  · rw [room]
    exact passed.pRight
  · intro off
    cases off
  · intro a offSlot offRecord
    rw [room] at offRecord
    exact passed.outside a (by omega) offRecord
  · intro j before emptyHere
    rcases reached j before with rfl | earlier
    · exact same.trans empty
    · exact passed.empty j earlier emptyHere
  · intro j before live
    rcases reached j before with rfl | earlier
    · exact absurd empty live
    · exact passed.slot j earlier live
  · intro j before live
    rcases reached j before with rfl | earlier
    · exact absurd empty live
    · exact passed.record j earlier live

/-- Where a live record lies before it is moved, in numbers. -/
theorem RecordsInOrder.place (order : RecordsInOrder m page) (bound : i < pageNumSlots m page)
    (live : pageSlot m page i ≠ dmsSlotEmpty) :
    28 + 4 * pageNumSlots m page ≤ pageSlot m page i ∧ 8 ≤ slotRoom m page i ∧
      pageSlot m page i + slotRoom m page i + roomBefore m page i ≤ 4194304 := by
  have behindSlots := order.behindSlots i bound live
  have headed := order.headed i bound live
  rw [← slotRoom_live live] at headed
  simp only [sizeofDmsPageHeader, sizeofSlot, sizeofDmsRecord] at behindSlots headed
  exact ⟨behindSlots, headed, order.room i i (Nat.le_refl i) bound live⟩

/-- The record that comes next is as it was: no record moved before reaches it. -/
theorem Passed.sameRecord (passed : Passed m page i state) (order : RecordsInOrder m page)
    (bound : i < pageNumSlots m page) (live : pageSlot m page i ≠ dmsSlotEmpty) :
    SameOn (page + pageSlot m page i) (page + pageSlot m page i + slotRoom m page i) m
      state.memory := by
  obtain ⟨behindSlots, -, room⟩ := order.place bound live
  intro a lower upper
  have outside := passed.outside a
  simp only [dmsPageSize] at outside
  apply outside
  · omega
  · omega

/-- What the pass over a live slot does. -/
theorem Passed.passedLive (passed : Passed m page i state) (order : RecordsInOrder m page)
    (packed : PackedFront m page) (bound : i < pageNumSlots m page)
    (live : pageSlot m page i ≠ dmsSlotEmpty) :
    PassedLive page i (slotRoom m page i) (4194304 - roomBefore m page i) state
      (recoverPass page i state) := by
  obtain ⟨behindSlots, headed, room⟩ := order.place bound live
  have sameSlot := passed.sameSlot order bound
  have sameRecord := passed.sameRecord order bound live
  have size : recordSizeAt state.memory (page + pageSlot state.memory page i) =
      slotRoom m page i := by
    rw [sameSlot, slotRoom_live live, recordSizeAt, recordSizeAt]
    exact sameRecord.readU32_eq (Nat.le_refl _) (by omega)
  have kept : state.isRecover = false →
      pageSlot state.memory page i + slotRoom m page i =
        4194304 - roomBefore m page i := by
    intro off
    have allLive : ∀ j, j ≤ i → pageSlot m page j ≠ dmsSlotEmpty := by
      intro j before
      rcases Nat.lt_or_eq_of_le before with earlier | rfl
      · exact passed.isRecover off j earlier
      · exact live
    have place := packed i bound allLive
    have next := roomBefore_succ m page i
    simp only [dmsPageSize] at place
    rw [sameSlot]
    omega
  apply recoverPass_live
  · rw [sameSlot]
    exact live
  · exact size
  · exact passed.pRight
  · rw [sameSlot]
    omega
  · rw [sameSlot]
    omega
  · exact Nat.sub_le _ _
  · exact kept

/-- A pass over a live slot moves its record into the room under the earlier ones, which no
record that is still to be moved reaches. -/
theorem Passed.step_live (passed : Passed m page i state) (order : RecordsInOrder m page)
    (packed : PackedFront m page) (bound : i < pageNumSlots m page)
    (live : pageSlot m page i ≠ dmsSlotEmpty) :
    Passed m page (i + 1) (recoverPass page i state) := by
  obtain ⟨behindSlots, headed, room⟩ := order.place bound live
  have next := roomBefore_succ m page i
  have sameSlot := passed.sameSlot order bound
  have sameRecord := passed.sameRecord order bound live
  have pass := passed.passedLive order packed bound live
  have top : 4194304 - roomBefore m page i - slotRoom m page i =
      4194304 - roomBefore m page (i + 1) := by
    omega
  generalize recoverPass page i state = state' at pass
  have newSlot := pass.slot
  have newRecord := pass.record
  have newRight := pass.pRight
  have outside := pass.outside
  rw [top] at newSlot newRecord newRight outside
  rw [sameSlot, sameRecord.readBytes_eq (Nat.le_refl _) (Nat.le_refl _)] at newRecord
  have reached : ∀ j, j < i + 1 → j = i ∨ j < i := by omega
  have slotKept : ∀ j, j < i → pageSlot state'.memory page j = pageSlot state.memory page j := by
    intro j earlier
    apply readU32_congr
    intro a lower upper
    rw [slotAddress_eq] at lower upper
    apply outside a
    · omega
    · omega
  constructor
  · exact newRight
  · intro off j before
    rcases reached j before with rfl | earlier
    · exact live
    · exact passed.isRecover (pass.isRecover.symm.trans off) j earlier
  · intro a offSlot offRecord
    simp only [dmsPageSize] at offRecord
    have before := passed.outside a
    simp only [dmsPageSize] at before
    rw [outside a (by omega) (by omega)]
    exact before (by omega) (by omega)
  · intro j before empty
    rcases reached j before with rfl | earlier
    · exact absurd empty live
    · rw [slotKept j earlier]
      exact passed.empty j earlier empty
  · intro j before liveHere
    rcases reached j before with rfl | earlier
    · exact newSlot
    · rw [slotKept j earlier]
      exact passed.slot j earlier liveHere
  · intro j before liveHere
    rcases reached j before with rfl | earlier
    · exact newRecord
    · rw [← passed.record j earlier liveHere]
      apply readBytes_congr
      intro a lower upper
      have above : roomBefore m page (j + 1) ≤ roomBefore m page i :=
        roomBefore_mono m page earlier
      simp only [dmsPageSize] at lower upper
      apply outside a
      · omega
      · omega

/-- Every pass keeps the invariant. -/
theorem Passed.step (passed : Passed m page i state) (order : RecordsInOrder m page)
    (packed : PackedFront m page) (bound : i < pageNumSlots m page) :
    Passed m page (i + 1) (recoverPass page i state) := by
  by_cases empty : pageSlot m page i = dmsSlotEmpty
  · exact passed.step_empty order bound empty
  · exact passed.step_live order packed bound empty

theorem Passed.loop (order : RecordsInOrder m page) (packed : PackedFront m page)
    (passes : Nat) : ∀ {i : Nat} {state : RecoverState}, i + passes ≤ pageNumSlots m page →
      Passed m page i state → Passed m page (i + passes) (recoverLoop page passes i state) := by
  induction passes with
  | zero => exact fun _ passed => passed
  | succ passes ih =>
      intro i state bound passed
      have next := passed.step order packed (by omega)
      have rest := ih (by omega) next
      rwa [Nat.add_assoc, Nat.add_comm 1 passes] at rest

end Loop

/-- What `_recoverSpace` leaves. -/
theorem recoverSpace_passed {m : Mem} {page : Nat} (order : RecordsInOrder m page)
    (packed : PackedFront m page) :
    ∃ state, state.memory = recoverSpace m page ∧
      Passed m page (pageNumSlots m page) state := by
  have initially : Passed m page 0 ⟨m, (page : Int) + dmsPageSize, false⟩ := by
    constructor
    · rfl
    · exact fun _ j before => absurd before (Nat.not_lt_zero j)
    · exact fun _ _ _ => rfl
    · exact fun j before => absurd before (Nat.not_lt_zero j)
    · exact fun j before => absurd before (Nat.not_lt_zero j)
    · exact fun j before => absurd before (Nat.not_lt_zero j)
  have run := Passed.loop order packed (pageNumSlots m page) (Nat.le_of_eq (Nat.zero_add _))
    initially
  rw [Nat.zero_add] at run
  exact ⟨_, rfl, run⟩

/-! ### A second compaction -/

/-- Every record lies right under those of the earlier slots. -/
def AllPacked (m : Mem) (page : Nat) : Prop :=
  ∀ j, j < pageNumSlots m page → pageSlot m page j ≠ dmsSlotEmpty →
    pageSlot m page j + roomBefore m page (j + 1) = dmsPageSize

/-- A pass over a record that is where it belongs stores what is there. -/
theorem recoverPass_packed {m : Mem} {page i : Nat} (packed : AllPacked m page)
    (bound : i < pageNumSlots m page) (isRecover : Bool) :
    ∃ recovering, recoverPass page i
        ⟨m, (page : Int) + (dmsPageSize - roomBefore m page i : Nat), isRecover⟩ =
      ⟨m, (page : Int) + (dmsPageSize - roomBefore m page (i + 1) : Nat), recovering⟩ := by
  have next := roomBefore_succ m page i
  by_cases empty : pageSlot m page i = dmsSlotEmpty
  · rw [slotRoom_empty empty] at next
    refine ⟨true, ?_⟩
    rw [recoverPass, next, empty]
    exact if_neg (not_not_intro rfl)
  · have place := packed i bound empty
    have room := slotRoom_live empty
    simp only [dmsPageSize] at place ⊢
    have signed : toI32 (recordSizeAt m (page + pageSlot m page i)) = slotRoom m page i := by
      rw [← room]
      exact toI32_of_lt (by omega) (by omega)
    have lowered : (page : Int) + (4194304 - roomBefore m page i : Nat) - slotRoom m page i =
        (page : Int) + (pageSlot m page i : Nat) := by
      omega
    have right : 4194304 - roomBefore m page (i + 1) = pageSlot m page i := by omega
    have target : ((page : Int) + (pageSlot m page i : Nat)).toNat = page + pageSlot m page i :=
      Int.toNat_natCast _
    have word : toU32 ((page : Int) + (pageSlot m page i : Nat) - page) =
        pageSlot m page i := by
      unfold toU32
      omega
    refine ⟨isRecover, ?_⟩
    rw [recoverPass, if_pos (Ne.symm empty), signed]
    dsimp only
    rw [lowered, right]
    cases isRecover with
    | false => rfl
    | true =>
        rw [if_pos rfl, target, word, Int.toNat_natCast, move_self, pageSlot, writeU32_readU32]

theorem recoverSpace_of_allPacked {m : Mem} {page : Nat} (packed : AllPacked m page) :
    recoverSpace m page = m := by
  have run (passes : Nat) : ∀ (i : Nat) (isRecover : Bool),
      i + passes ≤ pageNumSlots m page →
      (recoverLoop page passes i
        ⟨m, (page : Int) + (dmsPageSize - roomBefore m page i : Nat), isRecover⟩).memory = m := by
    induction passes with
    | zero => exact fun _ _ _ => rfl
    | succ passes ih =>
        intro i isRecover bound
        have here : i < pageNumSlots m page := by omega
        obtain ⟨recovering, pass⟩ := recoverPass_packed packed here isRecover
        rw [recoverLoop, pass]
        exact ih (i + 1) recovering (by omega)
  exact run (pageNumSlots m page) 0 false (Nat.le_of_eq (Nat.zero_add _))

section Result

variable {m : Mem} {page : Nat} {state : RecoverState}

theorem Passed.header (passed : Passed m page (pageNumSlots m page) state)
    (order : RecordsInOrder m page) : SameOn page (page + 28) m state.memory := by
  intro a lower upper
  have outside := passed.outside a
  simp only [dmsPageSize] at outside
  apply outside
  · omega
  · rcases order.below _ (Nat.le_refl _) with nothing | below
    · omega
    · omega

theorem Passed.numSlots (passed : Passed m page (pageNumSlots m page) state)
    (order : RecordsInOrder m page) :
    pageNumSlots state.memory page = pageNumSlots m page :=
  (passed.header order).readU32_eq (by omega) (by omega)

/-- The records keep their sizes. -/
theorem Passed.slotRoom (passed : Passed m page (pageNumSlots m page) state)
    (order : RecordsInOrder m page) {j : Nat} (bound : j < pageNumSlots m page) :
    slotRoom state.memory page j = EmeraldDb.slotRoom m page j := by
  by_cases empty : pageSlot m page j = dmsSlotEmpty
  · rw [slotRoom_empty empty, slotRoom_empty (passed.empty j bound empty)]
  · have slot := passed.slot j bound empty
    have record := passed.record j bound empty
    have headed := order.headed j bound empty
    rw [← slotRoom_live empty] at headed
    simp only [sizeofDmsRecord] at headed
    have live : pageSlot state.memory page j ≠ dmsSlotEmpty := by
      rw [slot]
      simp only [dmsPageSize, dmsSlotEmpty]
      omega
    rw [slotRoom_live live, slot, recordSizeAt,
      readU32_eq_of_readBytes record (Nat.le_trans (by decide) headed), slotRoom_live empty,
      recordSizeAt]

theorem Passed.roomBefore (passed : Passed m page (pageNumSlots m page) state)
    (order : RecordsInOrder m page) {i : Nat} (bound : i ≤ pageNumSlots m page) :
    roomBefore state.memory page i = EmeraldDb.roomBefore m page i := by
  rw [EmeraldDb.roomBefore, EmeraldDb.roomBefore]
  congr 1
  apply List.map_congr_left
  intro j member
  exact passed.slotRoom order (Nat.lt_of_lt_of_le (List.mem_range.mp member) bound)

/-- Where a live record ends up. -/
theorem Passed.place (passed : Passed m page (pageNumSlots m page) state)
    (order : RecordsInOrder m page) {j : Nat} (bound : j < pageNumSlots m page)
    (live : pageSlot m page j ≠ dmsSlotEmpty) :
    pageSlot state.memory page j + EmeraldDb.roomBefore m page (j + 1) = dmsPageSize := by
  have room := order.room j j (Nat.le_refl j) bound live
  rw [passed.slot j bound live, roomBefore_succ]
  simp only [dmsPageSize]
  omega

theorem Passed.allPacked (passed : Passed m page (pageNumSlots m page) state)
    (order : RecordsInOrder m page) : AllPacked state.memory page := by
  intro j bound live
  rw [passed.numSlots order] at bound
  have wasLive : pageSlot m page j ≠ dmsSlotEmpty := by
    intro empty
    exact live (passed.empty j bound empty)
  rw [passed.roomBefore order bound]
  exact passed.place order bound wasLive

end Result

/-- What `_recoverSpace` makes of a page: every live record is the same string of bytes and
lies right under the live records of the earlier slots. -/
structure Compacted (m m' : Mem) (page : Nat) : Prop where
  header : SameOn page (page + sizeofDmsPageHeader) m m'
  numSlots : pageNumSlots m' page = pageNumSlots m page
  empty : ∀ j, j < pageNumSlots m page → pageSlot m page j = dmsSlotEmpty →
    pageSlot m' page j = dmsSlotEmpty
  place : ∀ j, j < pageNumSlots m page → pageSlot m page j ≠ dmsSlotEmpty →
    pageSlot m' page j + roomBefore m page (j + 1) = dmsPageSize
  record : ∀ j, j < pageNumSlots m page → pageSlot m page j ≠ dmsSlotEmpty →
    readBytes m' (page + pageSlot m' page j) (slotRoom m page j) =
      readBytes m (page + pageSlot m page j) (slotRoom m page j)
  again : recoverSpace m' page = m'

/-- Compaction loses nothing on a page whose records lie in the order of their slots,
without a gap in front of the first empty one. -/
theorem recoverSpace_compacted {m : Mem} {page : Nat} (order : RecordsInOrder m page)
    (packed : PackedFront m page) : Compacted m (recoverSpace m page) page := by
  obtain ⟨state, memory, passed⟩ := recoverSpace_passed order packed
  rw [← memory]
  constructor
  · exact passed.header order
  · exact passed.numSlots order
  · exact passed.empty
  · exact fun j bound live => passed.place order bound live
  · intro j bound live
    rw [passed.slot j bound live]
    exact passed.record j bound live
  · exact recoverSpace_of_allPacked (passed.allPacked order)

/-! ### Pages with one record -/

/-- A page at address 0 with the given slots, and a record of eight bytes at offset 100. -/
def oneRecordPage (slots : List Nat) : Mem :=
  writeU32 (writeBytes (writeU32 (fun _ => 0) 12 slots.length) 28 (slots.flatMap u32Bytes))
    100 8

/-- A single record is in order. -/
theorem RecordsInOrder.of_alone {m : Mem} {page k : Nat}
    (alone : ∀ i, i < pageNumSlots m page → pageSlot m page i ≠ dmsSlotEmpty → i = k)
    (behindSlots : sizeofDmsPageHeader + sizeofSlot * pageNumSlots m page ≤ pageSlot m page k)
    (headed : sizeofDmsRecord ≤ recordSizeAt m (page + pageSlot m page k))
    (inPage : pageSlot m page k + recordSizeAt m (page + pageSlot m page k) ≤ dmsPageSize) :
    RecordsInOrder m page := by
  have never : ∀ i j, i < j → j < pageNumSlots m page → pageSlot m page i ≠ dmsSlotEmpty →
      pageSlot m page j ≠ dmsSlotEmpty → False := by
    intro i j before bound liveI liveJ
    have first := alone i (Nat.lt_trans before bound) liveI
    have second := alone j bound liveJ
    exact Nat.ne_of_lt before (first.trans second.symm)
  constructor
  · intro i bound live
    rw [alone i bound live]
    exact behindSlots
  · intro i bound live
    rw [alone i bound live]
    exact headed
  · intro i bound live
    rw [alone i bound live]
    exact inPage
  · exact fun i j before bound liveI liveJ => (never i j before bound liveI liveJ).elim
  · exact fun i j before bound liveI liveJ => (never i j before bound liveI liveJ).elim

/-- A record behind an empty slot is moved to the end of the page. -/
theorem recoverSpace_compacted_hole :
    Compacted (oneRecordPage [dmsSlotEmpty, 100])
      (recoverSpace (oneRecordPage [dmsSlotEmpty, 100]) 0) 0 := by
  apply recoverSpace_compacted
  · apply RecordsInOrder.of_alone (k := 1) <;> decide
  · unfold PackedFront
    decide

/-- A record that lies lower than it has to, in front of every empty slot, stays where it
is. -/
theorem gapAbove_notCompacted :
    RecordsInOrder (oneRecordPage [100]) 0 ∧
      ¬ Compacted (oneRecordPage [100]) (recoverSpace (oneRecordPage [100]) 0) 0 := by
  constructor
  · apply RecordsInOrder.of_alone (k := 0) <;> decide
  · intro compacted
    exact absurd (compacted.place 0 (by decide) (by decide)) (by decide)

end EmeraldDb
