/-
Module: EmeraldDb.Proofs.FileRefinement
Purpose: When an open data file represents an abstract file: where its segments
  lie, which page is at which address, and that the free-space index is the one
  its pages call for.
Trusted boundary: none
Main exports: FileLayout, FileLayout.pageToOffset_eq, FileRep,
  FileRep.withPage, FileRep.updateFreeSpace, FileRep.findPage
-/
import EmeraldDb.Dms.FileView
import EmeraldDb.Proofs.PageUpdate

namespace EmeraldDb

open ByteMemory SlotView

/-- The address of page `p`, for a page whose segment is mapped. -/
def DmsFile.pageAddress (s : DmsFile) (p : Nat) : Nat :=
  s.body.getD (p / 32) 0 + 4194304 * (p % 32)

/-- The mapped bytes of an open file represent an abstract file.  The latches are
not part of it, so it also holds in the middle of a call. -/
structure FileLayout (s : DmsFile) (view : FileView) : Prop where
  valid : s.fileOp.isValid = true
  header : s.header = some 0
  segments : s.body.length = view.segments
  inFile : ∀ data ∈ s.body, 65536 ≤ data ∧ data + 134217728 ≤ s.fileOp.file.size
  apart : s.body.Pairwise fun first second => first + 134217728 ≤ second
  mapped : s.mappedBytes = 65536 + 134217728 * view.segments
  inSpace : s.mappedBytes ≤ addressSpace
  headerInFile : 65536 ≤ s.fileOp.file.size
  headerSize : readU32 s.memory 4 = 32 * view.segments
  sizeBound : s.fileOp.file.size ≤ OssPrimitiveFileOp.maxFileSize
  pages : ∀ p, p < view.numPages →
    PageRep s.memory (s.pageAddress p) (view.page p)

/-- An open file represents an abstract file: its bytes do, and the free-space
index is the one the pages call for. -/
structure FileRep (s : DmsFile) (view : FileView) : Prop extends FileLayout s view where
  index : s.freeSpaceMap.entries.Perm view.index

namespace FileLayout

variable {s : DmsFile} {view : FileView}

/-! ### Addresses -/

/-- The address space bounds the number of segments, so no page number wraps. -/
theorem segments_lt (rep : FileLayout s view) : view.segments < 1048576 := by
  have mapped := rep.mapped
  have inSpace := rep.inSpace
  unfold addressSpace at inSpace
  omega

theorem getNumPages_eq (rep : FileLayout s view) : s.getNumPages = view.numPages := by
  have bound := rep.segments_lt
  have count := rep.segments
  have segments : s.getNumSegments = view.segments := by
    rw [DmsFile.getNumSegments, count]
    exact toU32_of_lt (by omega)
  rw [DmsFile.getNumPages, segments, FileView.numPages]
  unfold toU32
  simp only [dmsPagesPerSegment]
  omega

/-- The segment of an existing page. -/
theorem segment_of_page (rep : FileLayout s view) {p : Nat} (bound : p < view.numPages) :
    ∃ data, s.body[p / 32]? = some data ∧ data ∈ s.body ∧
      s.pageAddress p = data + 4194304 * (p % 32) := by
  have count := rep.segments
  have inBody : p / 32 < s.body.length := by
    unfold FileView.numPages at bound
    omega
  refine ⟨s.body[p / 32], List.getElem?_eq_getElem inBody, List.getElem_mem inBody, ?_⟩
  rw [DmsFile.pageAddress, List.getD_eq_getElem _ _ inBody]

theorem pageToOffset_eq (rep : FileLayout s view) (p : Nat) :
    s.pageToOffset p = if p < view.numPages then some (s.pageAddress p) else none := by
  rw [DmsFile.pageToOffset, rep.getNumPages_eq]
  by_cases bound : p < view.numPages
  · obtain ⟨data, segment, -, address⟩ := rep.segment_of_page bound
    rw [if_neg (by omega), if_pos bound]
    simp only [dmsPagesPerSegment, dmsPageSize, segment, Option.map_some]
    rw [address]
  · rw [if_pos (by omega), if_neg bound]

/-- A page lies behind the file header and inside the file. -/
theorem page_inFile (rep : FileLayout s view) {p : Nat} (bound : p < view.numPages) :
    65536 ≤ s.pageAddress p ∧ s.pageAddress p + 4194304 ≤ s.fileOp.file.size := by
  obtain ⟨data, -, member, address⟩ := rep.segment_of_page bound
  have inFile := rep.inFile data member
  omega

/-- Different pages do not overlap. -/
theorem pages_apart (rep : FileLayout s view) {p q : Nat} (boundP : p < view.numPages)
    (boundQ : q < view.numPages) (other : q ≠ p) :
    s.pageAddress q + 4194304 ≤ s.pageAddress p ∨
      s.pageAddress p + 4194304 ≤ s.pageAddress q := by
  obtain ⟨dataP, segmentP, -, addressP⟩ := rep.segment_of_page boundP
  obtain ⟨dataQ, segmentQ, -, addressQ⟩ := rep.segment_of_page boundQ
  obtain ⟨inP, atP⟩ := List.getElem?_eq_some_iff.mp segmentP
  obtain ⟨inQ, atQ⟩ := List.getElem?_eq_some_iff.mp segmentQ
  have apart := List.pairwise_iff_getElem.mp rep.apart
  rcases Nat.lt_trichotomy (p / 32) (q / 32) with before | same | behind
  · have := apart (p / 32) (q / 32) inP inQ before
    omega
  · have : dataP = dataQ := by
      rw [← atP, ← atQ]
      simp only [same]
    omega
  · have := apart (q / 32) (p / 32) inQ inP behind
    omega

/-- A page that is looked up is there, and represents its abstract page. -/
theorem pageToOffset_some (rep : FileLayout s view) {p page : Nat}
    (found : s.pageToOffset p = some page) :
    p < view.numPages ∧ page = s.pageAddress p ∧ PageRep s.memory page (view.page p) := by
  rw [rep.pageToOffset_eq] at found
  by_cases bound : p < view.numPages
  · rw [if_pos bound] at found
    obtain rfl := Option.some.inj found
    exact ⟨bound, rfl, rep.pages p bound⟩
  · rw [if_neg bound] at found
    cases found

end FileLayout

namespace FileRep

variable {s : DmsFile} {view : FileView}

/-! ### Changes -/

/-- The latches are not part of what a file represents. -/
theorem latches (rep : FileRep s view) (mutex : OssSLatch) (extendMutex : OssXLatch) :
    FileRep { s with mutex := mutex, extendMutex := extendMutex } view :=
  { valid := rep.valid, header := rep.header, segments := rep.segments,
    inFile := rep.inFile, apart := rep.apart, mapped := rep.mapped,
    inSpace := rep.inSpace, headerInFile := rep.headerInFile,
    headerSize := rep.headerSize, sizeBound := rep.sizeBound, pages := rep.pages,
    index := rep.index }

/-- Changing the bytes of one page, and the index with them. -/
theorem withPage (rep : FileRep s view) {p : Nat} (bound : p < view.numPages)
    {m : Mem} {page : PageView} (newPage : PageRep m (s.pageAddress p) page)
    (only : OnlyPage (s.pageAddress p) s.memory m) {index : Multimap Nat Nat}
    (indexed : index.entries.Perm (view.setPage p bound page).index) :
    FileRep { s.setMemory m with freeSpaceMap := index } (view.setPage p bound page) := by
  refine ⟨⟨rep.valid, rep.header, rep.segments, rep.inFile, rep.apart, rep.mapped,
    rep.inSpace, rep.headerInFile, ?_, rep.sizeBound, ?_⟩, indexed⟩
  · have front := rep.page_inFile bound
    have header : SameOn 0 65536 s.memory m := only.sameOn (by omega)
    exact (header.readU32_eq (by omega) (by omega)).trans rep.headerSize
  · intro q boundQ
    by_cases same : q = p
    · subst same
      rw [FileView.setPage_page_self]
      exact newPage
    · rw [FileView.setPage_page_of_ne view bound page same]
      have apart := rep.pages_apart bound boundQ same
      exact (rep.pages q boundQ).congr (only.sameOn (by omega))

/-- Moving an index entry keeps the index the one the pages call for. -/
theorem moveEntry (rep : FileRep s view) {p : Nat} (bound : p < view.numPages)
    (page : PageView) :
    ((s.freeSpaceMap.eraseOne (view.page p).freeSpace p).insert page.freeSpace
      p).entries.Perm (view.setPage p bound page).index := by
  obtain ⟨rest, before, after⟩ := view.index_split bound page
  exact (Multimap.eraseOne_insert_perm (rep.index.trans before)).trans after.symm

/-- `_updateFreeSpace` at the end of `insert` and `remove`: `m` is the memory so
far, and storing the new `_freeSpace` completes the page. -/
theorem updateFreeSpace (rep : FileRep s view) {p : Nat} (bound : p < view.numPages)
    {m : Mem} {change : Int} {page : PageView}
    (before : pageFreeSpace m (s.pageAddress p) = (view.page p).freeSpace)
    (changed : toU32 ((view.page p).freeSpace + change) = page.freeSpace)
    (newPage : PageRep (writeU32 m (s.pageAddress p + 20) page.freeSpace)
      (s.pageAddress p) page)
    (only : OnlyPage (s.pageAddress p) s.memory
      (writeU32 m (s.pageAddress p + 20) page.freeSpace)) :
    FileRep ((s.setMemory m).updateFreeSpace (s.pageAddress p) change p)
      (view.setPage p bound page) := by
  have updated : (s.setMemory m).updateFreeSpace (s.pageAddress p) change p =
      { s.setMemory (writeU32 m (s.pageAddress p + 20) page.freeSpace) with
        freeSpaceMap :=
          (s.freeSpaceMap.eraseOne (view.page p).freeSpace p).insert
            page.freeSpace p } := by
    have memory : (s.setMemory m).memory = m := rfl
    rw [DmsFile.updateFreeSpace]
    simp only [memory, before, changed]
    rfl
  rw [updated]
  exact rep.withPage bound newPage only (rep.moveEntry bound page)

/-- Compacting a page. -/
theorem recoverSpace (rep : FileRep s view) {p : Nat} (bound : p < view.numPages) :
    FileRep (s.setMemory (recoverSpace s.memory (s.pageAddress p)))
      (view.setPage p bound (view.page p).repack) := by
  obtain ⟨newPage, -, others⟩ := recoverSpace_refines (rep.pages p bound)
  have only : OnlyPage (s.pageAddress p) s.memory
      (EmeraldDb.recoverSpace s.memory (s.pageAddress p)) :=
    fun a outside => others a (a + 1) (by omega) a (Nat.le_refl a) (by omega)
  refine rep.withPage bound newPage only ?_
  obtain ⟨rest, before, after⟩ := view.index_split bound (view.page p).repack
  rw [PageView.repack_freeSpace] at after
  exact (rep.index.trans before).trans after.symm

/-! ### The index -/

/-- An index entry is a page with its free space. -/
theorem mem_index (rep : FileRep s view) {entry : Nat × Nat} :
    entry ∈ s.freeSpaceMap.entries ↔
      entry.2 < view.numPages ∧ entry.1 = (view.page entry.2).freeSpace := by
  rw [rep.index.mem_iff, FileView.index]
  constructor
  · intro member
    obtain ⟨p, inRange, rfl⟩ := List.mem_map.mp member
    exact ⟨List.mem_range.mp inRange, rfl⟩
  · rintro ⟨bound, key⟩
    exact List.mem_map.mpr ⟨entry.2, List.mem_range.mpr bound, by rw [← key]⟩

/-- The size of the index is the number of pages. -/
theorem index_size (rep : FileRep s view) : s.freeSpaceMap.size = view.numPages := by
  rw [Multimap.size, rep.index.length_eq]
  simp [FileView.index]

/-- `_findPage` answers with an existing page that has more free space than was
asked for, or no page has. -/
theorem findPage (rep : FileRep s view) (size : Nat) (small : size < 4294967296) :
    (s.findPage size < view.numPages ∧ s.findPage size ≠ dmsInvalidPageId ∧
      size < (view.page (s.findPage size)).freeSpace) ∨
    (s.findPage size = dmsInvalidPageId ∧
      ∀ p, p < view.numPages → (view.page p).freeSpace ≤ size) := by
  have key : toU32 (size : Int) = size := toU32_of_lt small
  have segments := rep.segments_lt
  unfold DmsFile.findPage
  rw [key]
  cases search : s.freeSpaceMap.upperBound size with
  | none =>
      refine Or.inr ⟨rfl, fun p bound => ?_⟩
      exact Multimap.upperBound_eq_none.mp search ((view.page p).freeSpace, p)
        (rep.mem_index.mpr ⟨bound, rfl⟩)
  | some entry =>
      obtain ⟨member, above, -⟩ := Multimap.upperBound_some search
      obtain ⟨bound, keyEq⟩ := rep.mem_index.mp member
      refine Or.inl ⟨bound, ?_, keyEq ▸ above⟩
      unfold FileView.numPages at bound
      simp only [dmsInvalidPageId]
      omega

end FileRep

end EmeraldDb
