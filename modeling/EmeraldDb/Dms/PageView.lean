/-
Module: EmeraldDb.Dms.PageView
Purpose: The abstract page: what each slot stands for, with the layout
  invariant as fields, and the three things that can happen to a page, a record
  is added, a record is dropped, the live records are repacked.
Trusted boundary: none
Main exports: SlotView, PageView, PageView.add, PageView.drop, PageView.repack
-/
import EmeraldDb.Dms.Page

namespace EmeraldDb

/-- What one slot of a page stands for.  A dropped slot remembers how much room
its record took. -/
inductive SlotView where
  | live (offset : Nat) (record : BsonObj)
  | dropped (size : Nat)

namespace SlotView

/-- The room of a record with its header. -/
def recordSize (record : BsonObj) : Nat := record.objsize + 8

/-- The room the slot's record took when it was inserted. -/
def size : SlotView → Nat
  | .live _ record => recordSize record
  | .dropped size => size

/-- The room the slot's record takes now. -/
def liveSize : SlotView → Nat
  | .live _ record => recordSize record
  | .dropped _ => 0

theorem liveSize_le_size (slot : SlotView) : slot.liveSize ≤ slot.size := by
  cases slot <;> simp [liveSize, size]

theorem recordSize_ge (record : BsonObj) : 12 ≤ recordSize record := by
  have := record.objsize_ge
  unfold recordSize
  omega

theorem recordSize_le (record : BsonObj) : recordSize record ≤ 16793608 := by
  have := record.objsize_le
  unfold recordSize
  omega

end SlotView

open SlotView

/-- The room taken by everything ever inserted. -/
def totalSize (slots : List SlotView) : Nat := (slots.map size).sum

/-- The room taken by the live records. -/
def liveSize (slots : List SlotView) : Nat := (slots.map SlotView.liveSize).sum

/-- Below `top` the live records lie one under the other in slot order, and
none of them reaches below `low`. -/
def Descending (low : Nat) : Nat → List SlotView → Prop
  | top, [] => low ≤ top
  | top, .dropped _ :: rest => Descending low top rest
  | top, .live offset record :: rest =>
      offset + recordSize record ≤ top ∧ Descending low offset rest

/-- Up to the first dropped slot the records lie without a gap under `top`.
This is what lets `_recoverSpace` leave them where they are. -/
def Packed : Nat → List SlotView → Prop
  | _, [] => True
  | _, .dropped _ :: _ => True
  | top, .live offset record :: rest =>
      offset + recordSize record = top ∧ Packed offset rest

/-- Place the live records without gaps under `top`, in slot order. -/
def repackFrom : Nat → List SlotView → List SlotView
  | _, [] => []
  | top, .dropped size :: rest => .dropped size :: repackFrom top rest
  | top, .live _ record :: rest =>
      .live (top - recordSize record) record ::
        repackFrom (top - recordSize record) rest

/-! ### Sizes -/

@[simp] theorem totalSize_nil : totalSize [] = 0 := rfl

@[simp] theorem totalSize_cons (slot : SlotView) (rest : List SlotView) :
    totalSize (slot :: rest) = slot.size + totalSize rest := by
  simp [totalSize]

@[simp] theorem totalSize_append (slots rest : List SlotView) :
    totalSize (slots ++ rest) = totalSize slots + totalSize rest := by
  simp [totalSize]

@[simp] theorem liveSize_nil : liveSize [] = 0 := rfl

@[simp] theorem liveSize_cons (slot : SlotView) (rest : List SlotView) :
    liveSize (slot :: rest) = slot.liveSize + liveSize rest := by
  simp [liveSize]

@[simp] theorem liveSize_append (slots rest : List SlotView) :
    liveSize (slots ++ rest) = liveSize slots + liveSize rest := by
  simp [liveSize]

theorem liveSize_le_totalSize (slots : List SlotView) :
    liveSize slots ≤ totalSize slots := by
  induction slots with
  | nil => exact Nat.le_refl 0
  | cons slot rest ih =>
      have := slot.liveSize_le_size
      simp only [liveSize_cons, totalSize_cons]
      omega

/-- Dropping a live slot keeps what was ever inserted and frees its room. -/
theorem drop_sizes {slots : List SlotView} {i offset : Nat} {record : BsonObj}
    (at_i : slots[i]? = some (.live offset record)) :
    totalSize (slots.set i (.dropped (recordSize record))) = totalSize slots ∧
      liveSize (slots.set i (.dropped (recordSize record))) +
        recordSize record = liveSize slots := by
  induction slots generalizing i with
  | nil => simp at at_i
  | cons slot rest ih =>
      cases i with
      | zero =>
          obtain rfl : slot = .live offset record := by simpa using at_i
          constructor
          · simp [size]
          · simp [SlotView.liveSize, Nat.add_comm]
      | succ i =>
          obtain ⟨total, live⟩ := ih (by simpa using at_i)
          simp only [List.set_cons_succ, totalSize_cons, liveSize_cons]
          omega

/-! ### The descending layout -/

namespace Descending

theorem low_le {low : Nat} : ∀ {top : Nat} {slots : List SlotView},
    Descending low top slots → low + liveSize slots ≤ top
  | _, [], layout => layout
  | top, .dropped _ :: rest, layout => by
      have := @low_le low top rest layout
      simpa [SlotView.liveSize] using this
  | _, .live offset record :: rest, ⟨fits, below⟩ => by
      have := low_le below
      simp only [liveSize_cons, SlotView.liveSize]
      omega

/-- Raising the ceiling keeps the layout. -/
theorem mono {low : Nat} : ∀ {top top' : Nat} {slots : List SlotView},
    top ≤ top' → Descending low top slots → Descending low top' slots
  | _, _, [], le, layout => Nat.le_trans layout le
  | top, top', .dropped _ :: rest, le, layout => @mono low top top' rest le layout
  | _, _, .live _ _ :: _, le, ⟨fits, below⟩ => ⟨Nat.le_trans fits le, below⟩

/-- A new record right under the lowest one extends the layout. -/
theorem append {low offset : Nat} {record : BsonObj}
    (fits : offset + recordSize record ≤ low) :
    ∀ {top : Nat} {slots : List SlotView}, Descending low top slots →
      Descending offset top (slots ++ [.live offset record])
  | _, [], layout => ⟨Nat.le_trans fits layout, Nat.le_refl _⟩
  | top, .dropped _ :: rest, layout => @append low offset record fits top rest layout
  | _, .live _ _ :: _, ⟨fitsHead, below⟩ => ⟨fitsHead, append fits below⟩

/-- Emptying a slot keeps the others in order. -/
theorem set_dropped {low : Nat} (size : Nat) :
    ∀ {top i : Nat} {slots : List SlotView}, Descending low top slots →
      Descending low top (slots.set i (.dropped size))
  | _, _, [], layout => layout
  | _, 0, .dropped _ :: _, layout => layout
  | top, 0, .live _ _ :: rest, ⟨fits, below⟩ =>
      @mono low _ top rest (by omega) below
  | top, i + 1, .dropped _ :: rest, layout =>
      @set_dropped low size top i rest layout
  | _, i + 1, .live _ _ :: _, ⟨fits, below⟩ =>
      ⟨fits, set_dropped size (i := i) below⟩

/-- Repacked records lie under `top` in order. -/
theorem repack {low : Nat} : ∀ {top : Nat} {slots : List SlotView},
    low + liveSize slots ≤ top → Descending low top (repackFrom top slots)
  | _, [], room => room
  | top, .dropped _ :: rest, room =>
      @repack low top rest (by simpa [SlotView.liveSize] using room)
  | top, .live _ record :: rest, room => by
      simp only [liveSize_cons, SlotView.liveSize] at room
      exact ⟨by omega, @repack low (top - recordSize record) rest (by omega)⟩

/-- Every live record lies between the two ends of the layout. -/
theorem bounds {low : Nat} : ∀ {top i offset : Nat} {record : BsonObj}
    {slots : List SlotView}, Descending low top slots →
      slots[i]? = some (.live offset record) →
        low ≤ offset ∧ offset + recordSize record ≤ top
  | _, _, _, _, [], _, at_i => by simp at at_i
  | _, 0, _, _, .dropped _ :: _, _, at_i => by simp at at_i
  | top, i + 1, offset, record, .dropped _ :: rest, layout, at_i =>
      @bounds low top i offset record rest layout (by simpa using at_i)
  | _, 0, offset, record, .live offset' record' :: rest, ⟨fits, below⟩, at_i => by
      obtain ⟨rfl, rfl⟩ : offset' = offset ∧ record' = record := by
        simpa using at_i
      have := low_le below
      omega
  | top, i + 1, offset, record, .live offset' _ :: rest, ⟨fits, below⟩, at_i => by
      have := bounds (i := i) below (by simpa using at_i)
      omega

/-- A later live record lies entirely below an earlier one. -/
theorem below_of_lt {low : Nat} : ∀ {top i j o o' : Nat} {r r' : BsonObj}
    {slots : List SlotView}, Descending low top slots → i < j →
      slots[i]? = some (.live o r) → slots[j]? = some (.live o' r') →
        o' + recordSize r' ≤ o
  | _, _, _, _, _, _, _, [], _, _, at_i, _ => by simp at at_i
  | _, 0, _, _, _, _, _, .dropped _ :: _, _, _, at_i, _ => by simp at at_i
  | top, i + 1, j + 1, o, o', r, r', .dropped _ :: rest, layout, lt, at_i, at_j =>
      @below_of_lt low top i j o o' r r' rest layout (by omega)
        (by simpa using at_i) (by simpa using at_j)
  | _, 0, j + 1, o, o', r, r', .live offset record :: rest, ⟨_, below⟩, _, at_i,
      at_j => by
      obtain ⟨rfl, rfl⟩ : offset = o ∧ record = r := by simpa using at_i
      exact (bounds (i := j) below (by simpa using at_j)).2
  | _, i + 1, j + 1, _, _, _, _, .live _ _ :: _, ⟨_, below⟩, lt, at_i, at_j =>
      below_of_lt (i := i) (j := j) below (by omega) (by simpa using at_i)
        (by simpa using at_j)

end Descending

/-! ### The packed prefix -/

namespace Packed

theorem append (record : BsonObj) : ∀ {top : Nat} {slots : List SlotView},
    Packed top slots → totalSize slots + recordSize record ≤ top →
      Packed top (slots ++
        [.live (top - totalSize slots - recordSize record) record])
  | top, [], _, room => by
      refine ⟨?_, trivial⟩
      simp only [totalSize_nil] at room ⊢
      omega
  | _, .dropped _ :: _, _, _ => trivial
  | top, .live offset r :: rest, ⟨exact_, below⟩, room => by
      simp only [totalSize_cons, size] at room
      have tail := append record below (by omega)
      refine ⟨exact_, ?_⟩
      have same : top - totalSize (.live offset r :: rest) - recordSize record =
          offset - totalSize rest - recordSize record := by
        simp only [totalSize_cons, size]
        omega
      rw [same]
      exact tail

theorem set_dropped (n : Nat) : ∀ {top i : Nat} {slots : List SlotView},
    Packed top slots → Packed top (slots.set i (.dropped n))
  | _, _, [], _ => trivial
  | _, 0, _ :: _, _ => trivial
  | _, _ + 1, .dropped _ :: _, _ => trivial
  | _, i + 1, .live _ _ :: _, ⟨exact_, below⟩ =>
      ⟨exact_, set_dropped n (i := i) below⟩

theorem repack : ∀ {top : Nat} {slots : List SlotView},
    liveSize slots ≤ top → Packed top (repackFrom top slots)
  | _, [], _ => trivial
  | _, .dropped _ :: _, _ => trivial
  | top, .live _ record :: rest, room => by
      simp only [liveSize_cons, SlotView.liveSize] at room
      exact ⟨by omega, @repack (top - recordSize record) rest (by omega)⟩

/-- A record without a dropped slot in front of it lies right under the earlier ones. -/
theorem place : ∀ {top j offset : Nat} {record : BsonObj} {slots : List SlotView},
    Packed top slots → slots[j]? = some (.live offset record) →
      (∀ i, i ≤ j → ∀ size, slots[i]? ≠ some (.dropped size)) →
        offset + liveSize (slots.take (j + 1)) = top
  | _, _, _, _, [], _, at_j, _ => by cases at_j
  | _, _, _, _, .dropped size :: _, _, _, noHole => absurd rfl (noHole 0 (Nat.zero_le _) size)
  | top, 0, offset, record, .live _ _ :: _, ⟨here, _⟩, at_j, _ => by
      obtain ⟨rfl, rfl⟩ := SlotView.live.inj (Option.some.inj at_j)
      rw [List.take_succ_cons, List.take_zero, liveSize_cons, liveSize_nil, Nat.add_zero]
      exact here
  | top, j + 1, offset, record, .live first head :: rest, ⟨here, below⟩, at_j, noHole => by
      have tail := place below at_j fun i before => noHole (i + 1) (Nat.succ_le_succ before)
      rw [List.take_succ_cons, liveSize_cons]
      simp only [SlotView.liveSize]
      omega

end Packed

/-! ### Repacking -/

@[simp] theorem repackFrom_length : ∀ (top : Nat) (slots : List SlotView),
    (repackFrom top slots).length = slots.length
  | _, [] => rfl
  | top, .dropped _ :: rest => by simp [repackFrom, repackFrom_length top rest]
  | top, .live _ record :: rest => by
      simp [repackFrom, repackFrom_length (top - recordSize record) rest]

@[simp] theorem repackFrom_totalSize : ∀ (top : Nat) (slots : List SlotView),
    totalSize (repackFrom top slots) = totalSize slots
  | _, [] => rfl
  | top, .dropped _ :: rest => by simp [repackFrom, repackFrom_totalSize top rest]
  | top, .live _ record :: rest => by
      simp [repackFrom, size, repackFrom_totalSize (top - recordSize record) rest]

@[simp] theorem repackFrom_liveSize : ∀ (top : Nat) (slots : List SlotView),
    liveSize (repackFrom top slots) = liveSize slots
  | _, [] => rfl
  | top, .dropped _ :: rest => by simp [repackFrom, repackFrom_liveSize top rest]
  | top, .live _ record :: rest => by
      simp [repackFrom, SlotView.liveSize,
        repackFrom_liveSize (top - recordSize record) rest]

/-- Where a live record is repacked to. -/
theorem repackFrom_place : ∀ {top j offset : Nat} {record : BsonObj} {slots : List SlotView},
    slots[j]? = some (.live offset record) →
      (repackFrom top slots)[j]? =
        some (.live (top - liveSize (slots.take (j + 1))) record)
  | _, _, _, _, [], at_j => by cases at_j
  | _, 0, _, _, .dropped _ :: _, at_j => by cases at_j
  | top, 0, _, _, .live _ _ :: _, at_j => by
      obtain ⟨rfl, rfl⟩ := SlotView.live.inj (Option.some.inj at_j)
      rfl
  | top, j + 1, _, _, .dropped _ :: rest, at_j => by
      have tail := @repackFrom_place top j _ _ rest at_j
      rw [List.take_succ_cons, liveSize_cons, SlotView.liveSize, Nat.zero_add]
      exact tail
  | top, j + 1, _, _, .live _ head :: rest, at_j => by
      have tail := @repackFrom_place (top - recordSize head) j _ _ rest at_j
      rw [List.take_succ_cons, liveSize_cons, SlotView.liveSize, ← Nat.sub_sub]
      exact tail

/-- Repacking keeps the record a live slot stands for and every dropped slot. -/
theorem repackFrom_getElem? : ∀ (top i : Nat) (slots : List SlotView),
    (∀ {offset record}, slots[i]? = some (.live offset record) →
      ∃ offset', (repackFrom top slots)[i]? = some (.live offset' record)) ∧
    (∀ {size}, slots[i]? = some (.dropped size) →
      (repackFrom top slots)[i]? = some (.dropped size))
  | _, _, [] => by simp
  | _, 0, .dropped _ :: _ => by simp [repackFrom]
  | _, 0, .live _ _ :: _ => by simp [repackFrom]
  | top, i + 1, .dropped _ :: rest => by
      simpa [repackFrom] using repackFrom_getElem? top i rest
  | top, i + 1, .live _ record :: rest => by
      simpa [repackFrom] using
        repackFrom_getElem? (top - recordSize record) i rest

/-! ### Abstract pages -/

/-- The slots of a page, with what every page of a data file satisfies: slots
and records fit, the records descend in slot order, nothing moved before the
first dropped slot, and a dropped record was a record. -/
structure PageView where
  slots : List SlotView
  room : sizeofDmsPageHeader + sizeofSlot * slots.length + totalSize slots ≤
    dmsPageSize
  descending : Descending (dmsPageSize - totalSize slots) dmsPageSize slots
  packed : Packed dmsPageSize slots
  droppedSize : ∀ size, SlotView.dropped size ∈ slots → 12 ≤ size

namespace PageView

/-- Where the slot array ends. -/
def slotOffset (page : PageView) : Nat :=
  sizeofDmsPageHeader + sizeofSlot * page.slots.length

/-- Where the records begin.  Compaction does not move it. -/
def freeOffset (page : PageView) : Nat := dmsPageSize - totalSize page.slots

/-- The room that neither the slot array nor a live record takes. -/
def freeSpace (page : PageView) : Nat :=
  dmsPageSize - sizeofDmsPageHeader - sizeofSlot * page.slots.length -
    liveSize page.slots

/-- The live record of slot `i`. -/
def recordAt (page : PageView) (i : Nat) : Option BsonObj :=
  match page.slots[i]? with
  | some (.live _ record) => some record
  | _ => none

/-- Offsets and sizes of a page in numbers. -/
theorem numbers (page : PageView) :
    page.slotOffset = 28 + 4 * page.slots.length ∧
      page.freeOffset + totalSize page.slots = 4194304 ∧
      page.slotOffset ≤ page.freeOffset ∧
      page.freeSpace + liveSize page.slots + page.slotOffset = 4194304 := by
  have room := page.room
  have live := liveSize_le_totalSize page.slots
  simp only [sizeofDmsPageHeader, sizeofSlot, dmsPageSize] at room
  refine ⟨rfl, ?_⟩
  simp only [slotOffset, freeOffset, freeSpace, sizeofDmsPageHeader, sizeofSlot,
    dmsPageSize]
  omega

/-- A page nobody inserted into. -/
def empty : PageView where
  slots := []
  room := by simp
  descending := Nat.le_refl _
  packed := trivial
  droppedSize := by simp

/-- The gap takes a record, its header and its slot. -/
abbrev Fits (page : PageView) (record : BsonObj) : Prop :=
  page.slotOffset + 4 + recordSize record ≤ page.freeOffset

/-- Append a live record right under the lowest one. -/
def add (page : PageView) (record : BsonObj) (fits : page.Fits record) : PageView where
  slots := page.slots ++
    [.live (page.freeOffset - recordSize record) record]
  room := by
    have := page.numbers
    simp [size]
    omega
  descending := by
    have numbers := page.numbers
    have room : page.freeOffset - recordSize record + recordSize record ≤
        dmsPageSize - totalSize page.slots := by
      simp only [dmsPageSize]
      omega
    have layout := page.descending.append room
    have low : dmsPageSize - totalSize (page.slots ++
        [.live (page.freeOffset - recordSize record) record]) =
          page.freeOffset - recordSize record := by
      simp [size, freeOffset]
      omega
    rw [low]
    exact layout
  packed := by
    have numbers := page.numbers
    exact page.packed.append record (by simp; omega)
  droppedSize := by
    intro n member
    have old : SlotView.dropped n ∈ page.slots := by simpa using member
    exact page.droppedSize n old

/-- Drop the live record of slot `i`. -/
def drop (page : PageView) {i offset : Nat} {record : BsonObj}
    (at_i : page.slots[i]? = some (.live offset record)) : PageView where
  slots := page.slots.set i (.dropped (recordSize record))
  room := by
    have room := page.room
    rw [(drop_sizes at_i).1, List.length_set]
    exact room
  descending := by
    rw [(drop_sizes at_i).1]
    exact page.descending.set_dropped _
  packed := page.packed.set_dropped _
  droppedSize := by
    intro n member
    rcases List.mem_or_eq_of_mem_set member with old | new
    · exact page.droppedSize n old
    · obtain rfl : n = recordSize record := by simpa using new
      exact recordSize_ge record

/-- Repack the live records under the end of the page. -/
def repack (page : PageView) : PageView where
  slots := repackFrom dmsPageSize page.slots
  room := by
    simpa using page.room
  descending := by
    have layout := page.descending.low_le
    rw [repackFrom_totalSize]
    exact Descending.repack layout
  packed := by
    have layout := page.descending.low_le
    exact Packed.repack (by omega)
  droppedSize := by
    intro n member
    obtain ⟨i, at_i⟩ := List.mem_iff_getElem?.mp member
    have bound : i < page.slots.length := by
      have := (List.getElem?_eq_some_iff.mp at_i).1
      simpa using this
    obtain ⟨kept, keptDropped⟩ :=
      repackFrom_getElem? dmsPageSize i page.slots
    cases slot : page.slots[i] with
    | live offset record =>
        obtain ⟨offset', moved⟩ := kept (by rw [List.getElem?_eq_getElem bound, slot])
        rw [moved] at at_i
        simp at at_i
    | dropped m =>
        have same := keptDropped (by rw [List.getElem?_eq_getElem bound, slot])
        rw [same] at at_i
        obtain rfl : m = n := by simpa using at_i
        exact page.droppedSize m (slot ▸ List.getElem_mem bound)

/-! ### What each change does to the numbers and the records -/

@[simp] theorem empty_slots : empty.slots = [] := rfl

@[simp] theorem add_slots (page : PageView) (record : BsonObj)
    (fits : page.Fits record) :
    (page.add record fits).slots =
      page.slots ++ [.live (page.freeOffset - recordSize record) record] := rfl

theorem add_freeSpace_le (page : PageView) (record : BsonObj) (fits : page.Fits record) :
    (page.add record fits).freeSpace ≤ page.freeSpace := by
  have live : EmeraldDb.liveSize page.slots ≤
      EmeraldDb.liveSize (page.add record fits).slots := by
    rw [add_slots, liveSize_append]
    exact Nat.le_add_right _ _
  have length : (page.add record fits).slots.length = page.slots.length + 1 := by
    rw [add_slots, List.length_append, List.length_singleton]
  have before := page.numbers
  have after := (page.add record fits).numbers
  omega

@[simp] theorem drop_slots (page : PageView) {i offset : Nat} {record : BsonObj}
    (at_i : page.slots[i]? = some (.live offset record)) :
    (page.drop at_i).slots = page.slots.set i (.dropped (recordSize record)) := rfl

@[simp] theorem repack_slots (page : PageView) :
    page.repack.slots = repackFrom dmsPageSize page.slots := rfl

@[simp] theorem repack_slotOffset (page : PageView) :
    page.repack.slotOffset = page.slotOffset := by
  simp [slotOffset]

@[simp] theorem repack_freeOffset (page : PageView) :
    page.repack.freeOffset = page.freeOffset := by
  simp [freeOffset]

@[simp] theorem repack_freeSpace (page : PageView) :
    page.repack.freeSpace = page.freeSpace := by
  simp [freeSpace]

/-- A live slot names a record between the free gap and the end of the page. -/
theorem live_bounds {page : PageView} {i offset : Nat} {record : BsonObj}
    (at_i : page.slots[i]? = some (.live offset record)) :
    i < page.slots.length ∧ page.freeOffset ≤ offset ∧
      offset + recordSize record ≤ 4194304 := by
  have bounds := page.descending.bounds at_i
  exact ⟨(List.getElem?_eq_some_iff.mp at_i).1, bounds⟩

theorem recordAt_eq_some {page : PageView} {i : Nat} {record : BsonObj} :
    page.recordAt i = some record ↔
      ∃ offset, page.slots[i]? = some (.live offset record) := by
  unfold recordAt
  constructor
  · intro found
    split at found
    next offset r at_i =>
      obtain rfl := Option.some.inj found
      exact ⟨offset, at_i⟩
    next => simp at found
  · rintro ⟨offset, at_i⟩
    rw [at_i]

theorem recordAt_eq_none_of_length_le {page : PageView} {i : Nat}
    (past : page.slots.length ≤ i) : page.recordAt i = none := by
  unfold recordAt
  rw [List.getElem?_eq_none past]

theorem recordAt_add (page : PageView) (record : BsonObj) (fits : page.Fits record)
    (i : Nat) :
    (page.add record fits).recordAt i =
      if i = page.slots.length then some record else page.recordAt i := by
  by_cases last : i = page.slots.length
  · subst last
    rw [if_pos rfl, recordAt_eq_some]
    exact ⟨page.freeOffset - recordSize record, by simp⟩
  · rw [if_neg last]
    unfold recordAt
    by_cases before : i < page.slots.length
    · rw [add_slots, List.getElem?_append_left before]
    · rw [add_slots, List.getElem?_eq_none (by simp; omega),
        List.getElem?_eq_none (by omega)]

theorem recordAt_drop {page : PageView} {i offset : Nat} {record : BsonObj}
    (at_i : page.slots[i]? = some (.live offset record)) (j : Nat) :
    (page.drop at_i).recordAt j = if j = i then none else page.recordAt j := by
  have bound := (live_bounds at_i).1
  unfold recordAt
  rw [drop_slots]
  by_cases same : j = i
  · subst same
    simp [bound]
  · rw [if_neg same, List.getElem?_set_ne (by omega)]

@[simp] theorem recordAt_repack (page : PageView) (i : Nat) :
    page.repack.recordAt i = page.recordAt i := by
  obtain ⟨kept, keptDropped⟩ :=
    repackFrom_getElem? dmsPageSize i page.slots
  unfold recordAt
  rw [repack_slots]
  cases at_i : page.slots[i]? with
  | none =>
      have past : page.slots.length ≤ i := by simpa using at_i
      rw [List.getElem?_eq_none (by simpa using past)]
  | some slot =>
      cases slot with
      | live offset record =>
          obtain ⟨offset', moved⟩ := kept at_i
          rw [moved]
      | dropped n => rw [keptDropped at_i]

end PageView

end EmeraldDb
