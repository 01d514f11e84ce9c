/-
Module: EmeraldDb.Dms.FileView
Purpose: The abstract data file: a number of segments and an abstract page for
  every page number.  As a store of identifiers it forgets pages and offsets;
  each change of one page is a step of that store.
Trusted boundary: none
Main exports: FileView, FileView.setPage, FileView.extend, FileView.index,
  FileView.Shrinks, FileView.store
-/
import Mathlib.Data.List.Range
import EmeraldDb.Lib.IdStore
import EmeraldDb.Dms.DmsFile
import EmeraldDb.Dms.PageView

namespace EmeraldDb

/-- The abstract file.  A page that no segment holds yet is empty, so adding a
segment only moves the bound. -/
structure FileView where
  segments : Nat
  page : Nat → PageView
  unallocated : ∀ p, 32 * segments ≤ p → page p = .empty

namespace FileView

/-- The number of pages. -/
def numPages (view : FileView) : Nat := 32 * view.segments

/-- The file without a segment. -/
def empty : FileView := ⟨0, fun _ => .empty, fun _ _ => rfl⟩

/-- The file with `n` segments of empty pages. -/
def blank (n : Nat) : FileView := ⟨n, fun _ => .empty, fun _ _ => rfl⟩

/-- One more segment of empty pages. -/
def extend (view : FileView) : FileView where
  segments := view.segments + 1
  page := view.page
  unallocated := fun p bound => view.unallocated p (by omega)

/-- Replace one page. -/
def setPage (view : FileView) (p : Nat) (bound : p < view.numPages)
    (page : PageView) : FileView where
  segments := view.segments
  page := Function.update view.page p page
  unallocated := by
    intro q past
    have other : q ≠ p := by
      unfold numPages at bound
      omega
    rw [Function.update_of_ne other]
    exact view.unallocated q past

/-- The index entries the pages call for. -/
def index (view : FileView) : List (Nat × Nat) :=
  (List.range view.numPages).map fun p => ((view.page p).freeSpace, p)

/-- The record a rid names. -/
def recordAt (view : FileView) (rid : DmsRecordId) : Option BsonObj :=
  (view.page rid.pageId).recordAt rid.slotId

/-- The file as a store of byte strings under record ids. -/
def store (view : FileView) : IdStore DmsRecordId (List UInt8) where
  allocated rid := rid.slotId < (view.page rid.pageId).slots.length
  contents rid := (view.recordAt rid).map BsonObj.bytes
  held := by
    intro rid bytes held
    by_cases past : (view.page rid.pageId).slots.length ≤ rid.slotId
    · simp [recordAt, PageView.recordAt_eq_none_of_length_le past] at held
    · omega

@[simp] theorem empty_segments : empty.segments = 0 := rfl

@[simp] theorem extend_segments (view : FileView) :
    view.extend.segments = view.segments + 1 := rfl

@[simp] theorem extend_page (view : FileView) : view.extend.page = view.page := rfl

@[simp] theorem setPage_page_self (view : FileView) (p : Nat)
    (bound : p < view.numPages) (page : PageView) :
    (view.setPage p bound page).page p = page := by
  simp [setPage]

theorem setPage_page_of_ne (view : FileView) {p q : Nat} (bound : p < view.numPages)
    (page : PageView) (other : q ≠ p) :
    (view.setPage p bound page).page q = view.page q := by
  simp [setPage, other]

/-- An allocated slot or a record lies on a page that exists. -/
theorem page_lt_of_allocated {view : FileView} {rid : DmsRecordId}
    (allocated : view.store.allocated rid) : rid.pageId < view.numPages := by
  by_contra past
  have fresh := view.unallocated rid.pageId (by unfold numPages at past; omega)
  have slots : rid.slotId < (view.page rid.pageId).slots.length := allocated
  rw [fresh] at slots
  simp at slots

/-! ### The index -/

/-- The entry of page `p`, and the others, which do not depend on page `p`. -/
theorem index_split (view : FileView) {p : Nat} (bound : p < view.numPages)
    (page : PageView) :
    ∃ rest, view.index.Perm (((view.page p).freeSpace, p) :: rest) ∧
      (view.setPage p bound page).index.Perm ((page.freeSpace, p) :: rest) := by
  have member : p ∈ List.range view.numPages := List.mem_range.mpr bound
  have split := List.perm_cons_erase member
  refine ⟨((List.range view.numPages).erase p).map
    fun q => ((view.page q).freeSpace, q), split.map _, ?_⟩
  have renamed := split.map fun q => (((view.setPage p bound page).page q).freeSpace, q)
  have others : ((List.range view.numPages).erase p).map
      (fun q => (((view.setPage p bound page).page q).freeSpace, q)) =
        ((List.range view.numPages).erase p).map
          fun q => ((view.page q).freeSpace, q) := by
    apply List.map_congr_left
    intro q member
    have other : q ≠ p := ((List.nodup_range).mem_erase_iff.mp member).1
    rw [setPage_page_of_ne view bound page other]
  rw [List.map_cons, others, setPage_page_self] at renamed
  exact renamed

/-- A new segment adds the entries of its pages. -/
theorem extend_index (view : FileView) :
    view.extend.index = view.index ++
      (List.range 32).map fun k => (PageView.empty.freeSpace, view.numPages + k) := by
  have pages : view.extend.numPages = view.numPages + 32 := by
    simp [numPages, Nat.mul_add]
  unfold index
  rw [pages, List.range_add, List.map_append, List.map_map]
  congr 1
  apply List.map_congr_left
  intro k member
  have past := view.unallocated (view.numPages + k) (Nat.le_add_right _ _)
  simp [past]

/-! ### Room on the pages -/

/-- As many segments, and no page with more free space than before. -/
structure Shrinks (view view' : FileView) : Prop where
  segments : view'.segments = view.segments
  freeSpace : ∀ p, (view'.page p).freeSpace ≤ (view.page p).freeSpace

theorem Shrinks.refl (view : FileView) : Shrinks view view :=
  ⟨rfl, fun _ => Nat.le_refl _⟩

theorem Shrinks.trans {view view₁ view' : FileView} (first : Shrinks view view₁)
    (second : Shrinks view₁ view') : Shrinks view view' where
  segments := second.segments.trans first.segments
  freeSpace p := Nat.le_trans (second.freeSpace p) (first.freeSpace p)

theorem shrinks_setPage (view : FileView) {p : Nat} (bound : p < view.numPages)
    {page : PageView} (less : page.freeSpace ≤ (view.page p).freeSpace) :
    Shrinks view (view.setPage p bound page) where
  segments := rfl
  freeSpace q := by
    by_cases same : q = p
    · subst same
      rw [setPage_page_self]
      exact less
    · rw [setPage_page_of_ne view bound page same]

/-! ### Steps of the store -/

/-- Repacking a page does not show. -/
theorem store_repack (view : FileView) {p : Nat} (bound : p < view.numPages) :
    IdStore.Step view.store .keep
      (view.setPage p bound (view.page p).repack).store := by
  refine .keep ?_ ?_
  · intro rid
    by_cases same : rid.pageId = p
    · simp [store, setPage, same]
    · simp [store, setPage, same]
  · intro rid
    by_cases same : rid.pageId = p
    · simp [store, recordAt, setPage, same]
    · simp [store, recordAt, setPage, same]

/-- Extending the file does not show. -/
theorem store_extend (view : FileView) :
    IdStore.Step view.store .keep view.extend.store :=
  .keep (fun _ => Iff.rfl) (fun _ => rfl)

/-- Adding a record to a page puts it under the rid of the next slot. -/
theorem store_add (view : FileView) {p : Nat} (bound : p < view.numPages)
    (record : BsonObj) (fits : (view.page p).Fits record) :
    IdStore.Step view.store (.put ⟨p, (view.page p).slots.length⟩ record.bytes)
      (view.setPage p bound ((view.page p).add record fits)).store := by
  refine .put _ _ ?_ ?_ ?_ ?_
  · simp [store]
  · rintro ⟨q, slot⟩
    by_cases same : q = p
    · subst same
      simp [store, setPage]
      omega
    · simp [store, setPage, same]
  · simp [store, recordAt, setPage, PageView.recordAt_add]
  · rintro ⟨q, slot⟩ other
    by_cases same : q = p
    · subst same
      have off : slot ≠ (view.page q).slots.length := fun here => other (by rw [here])
      simp [store, recordAt, setPage, PageView.recordAt_add, off]
    · simp [store, recordAt, setPage, same]

/-- Dropping a record deletes its rid. -/
theorem store_drop (view : FileView) {rid : DmsRecordId}
    (bound : rid.pageId < view.numPages) {offset : Nat} {record : BsonObj}
    (at_slot : (view.page rid.pageId).slots[rid.slotId]? =
      some (.live offset record)) :
    IdStore.Step view.store (.delete rid)
      (view.setPage rid.pageId bound ((view.page rid.pageId).drop at_slot)).store := by
  refine .delete rid record.bytes ?_ ?_ ?_ ?_
  · have live : view.recordAt rid = some record :=
      PageView.recordAt_eq_some.mpr ⟨offset, at_slot⟩
    simp [store, live]
  · intro other
    by_cases same : other.pageId = rid.pageId
    · simp [store, setPage, same]
    · simp [store, setPage, same]
  · simp [store, recordAt, setPage, PageView.recordAt_drop]
  · intro other distinct
    by_cases same : other.pageId = rid.pageId
    · have off : other.slotId ≠ rid.slotId := by
        intro slot
        apply distinct
        cases other
        cases rid
        simp_all
      simp [store, recordAt, setPage, same, PageView.recordAt_drop, off]
    · simp [store, recordAt, setPage, same]

end FileView

end EmeraldDb
