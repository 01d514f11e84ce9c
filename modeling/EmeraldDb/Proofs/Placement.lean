/-
Module: EmeraldDb.Proofs.Placement
Purpose: Where insert puts a record: when the page that _findPage names takes it,
  and for which record sizes one extension of the file is enough.
Trusted boundary: none
Main exports: StoresRecord, GapTakes, session_insert_storesRecord_iff,
  session_insert_oneExtension
-/
import EmeraldDb.Proofs.SessionRefinement

namespace EmeraldDb

open ByteMemory SlotView
open DmsFile (ExtendAnswer InsertReply)

/-! ### One insert -/

/-- `insert` passes its two checks. -/
structure Admitted (record : BsonObj) : Prop where
  small : record.objsize ≤ dmsMaxRecord
  hasKey : record.HasKey

/-- The insert returns `EDB_OK` with a rid under which the record is found. -/
def StoresRecord (s : DmsFile) (answers : List ExtendAnswer) (record : BsonObj) : Prop :=
  ∃ out rid s', s.insert answers record = some (.returns ⟨edbOk, some out, some rid⟩, s') ∧
    s'.find rid = some (.returns ⟨edbOk, some record.bytes⟩, s')

/-- The gap between slots and records of page `p` takes the record, its header and
its slot. -/
def GapTakes (s : DmsFile) (p : Nat) (record : BsonObj) : Prop :=
  ∃ page, s.pageToOffset p = some page ∧
    pageSlotOffset s.memory page + record.objsize + sizeofDmsRecord + sizeofSlot ≤
      pageFreeOffset s.memory page

theorem Admitted.insert {record : BsonObj} (admitted : Admitted record) (s : DmsFile)
    (answers : List ExtendAnswer) : s.insert answers record = s.insertRetry record answers := by
  obtain ⟨position, key⟩ := admitted.hasKey
  rw [DmsFile.insert, if_neg (Nat.not_lt.mpr admitted.small), key]

section Found

variable {s : DmsFile} {view : FileView} {record : BsonObj}

theorem gapTakes_iff (rep : FileLayout s view) {p : Nat} (bound : p < view.numPages) :
    GapTakes s p record ↔ (view.page p).Fits record := by
  have page := rep.pages p bound
  have size : recordSize record = record.objsize + 8 := rfl
  have found : s.pageToOffset p = some (s.pageAddress p) := by
    rw [rep.pageToOffset_eq, if_pos bound]
  constructor
  · rintro ⟨address, there, takes⟩
    obtain rfl := Option.some.inj (found.symm.trans there)
    rw [page.slotOffset, page.freeOffset] at takes
    simp only [sizeofDmsRecord, sizeofSlot] at takes
    omega
  · intro fits
    refine ⟨s.pageAddress p, found, ?_⟩
    rw [page.slotOffset, page.freeOffset]
    simp only [sizeofDmsRecord, sizeofSlot]
    omega

/-- What the store holds under a rid is what `find` returns. -/
theorem find_of_contents (rep : FileLayout s view) (noWriter : s.mutex.writer = false)
    {rid : DmsRecordId} {bytes : List UInt8} (held : view.store.contents rid = some bytes) :
    s.find rid = some (.returns ⟨edbOk, some bytes⟩, s) := by
  obtain ⟨stored, live, rfl⟩ := Option.map_eq_some_iff.mp held
  exact find_live rep noWriter live

/-- A put leaves the value behind. -/
theorem contents_of_put {store store' : IdStore DmsRecordId (List UInt8)}
    {rid : DmsRecordId} {bytes : List UInt8}
    (step : IdStore.Step store (.put rid bytes) store') :
    store'.contents rid = some bytes := by
  cases step with
  | put _ _ fresh allocated here elsewhere => exact here

/-- An insert whose page is found at once stores the record, or answers `EDB_SYS`
because the gap of that page is too small. -/
theorem insert_found (rep : FileRep s view) (free : s.mutex = .init)
    (admitted : Admitted record) (answers : List ExtendAnswer)
    (found : s.findPage (record.objsize + sizeofDmsRecord) ≠ dmsInvalidPageId) :
    (StoresRecord s answers record ∧
      GapTakes s (s.findPage (record.objsize + sizeofDmsRecord)) record) ∨
    ((∃ s', s.insert answers record = some (.returns (.failed edbSys), s')) ∧
      ¬ GapTakes s (s.findPage (record.objsize + sizeofDmsRecord)) record) := by
  have bound : s.findPage (record.objsize + sizeofDmsRecord) < view.numPages := by
    rcases rep.findPage _ (insertKey_lt record) with ⟨bound, -⟩ | ⟨missing, -⟩
    · exact bound
    · exact absurd missing found
  rw [gapTakes_iff rep.toFileLayout bound, StoresRecord, admitted.insert,
    insertRetry_of_page free found]
  have held : FileRep { s with mutex := ⟨true, 0⟩ } view := rep.latches _ s.extendMutex
  cases inserted : { s with mutex := ⟨true, 0⟩ }.insertIntoPage record
      (s.findPage (record.objsize + sizeofDmsRecord)) with
  | mk completion s' =>
      obtain ⟨view', rep', outcome, -, mutex, -⟩ := insertIntoPage_refines held bound inserted
      cases outcome with
      | stored fits step =>
          have noWriter : s'.mutex.writer = false := by
            rw [mutex]
            rfl
          have there := find_of_contents rep'.toFileLayout noWriter (contents_of_put step)
          exact Or.inl ⟨⟨_, _, s', rfl, there⟩, fits⟩
      | refused tight step => exact Or.inr ⟨⟨s', rfl⟩, tight⟩

/-- An admitted record is stored in the page that `_findPage` names exactly when
the gap of that page takes it. -/
theorem storesRecord_iff (rep : FileRep s view) (free : s.mutex = .init)
    (admitted : Admitted record) (answers : List ExtendAnswer)
    (found : s.findPage (record.objsize + sizeofDmsRecord) ≠ dmsInvalidPageId) :
    StoresRecord s answers record ↔
      GapTakes s (s.findPage (record.objsize + sizeofDmsRecord)) record := by
  obtain ⟨stores, takes⟩ | ⟨⟨s', failed⟩, tight⟩ :=
    insert_found rep free admitted answers found
  · exact ⟨fun _ => takes, fun _ => stores⟩
  · constructor
    · rintro ⟨out, rid, s₁, result, -⟩
      have clash := (Prod.mk.inj (Option.some.inj (failed.symm.trans result))).1
      cases clash
    · exact fun takes => absurd takes tight

/-! ### Which sizes need at most one extension -/

/-- No page has room for more than a page without its header. -/
theorem findPage_large (rep : FileRep s view) (large : 4194268 ≤ record.objsize) :
    s.findPage (record.objsize + sizeofDmsRecord) = dmsInvalidPageId := by
  rcases rep.findPage _ (insertKey_lt record) with ⟨-, -, above⟩ | ⟨missing, -⟩
  · obtain ⟨slotEnd, -, -, space⟩ :=
      (view.page (s.findPage (record.objsize + sizeofDmsRecord))).numbers
    simp only [sizeofDmsRecord] at above slotEnd space
    omega
  · exact missing

/-- After an extension a page is found for every smaller record; when there was
none before, it is a fresh one. -/
theorem findPage_extended {s' : DmsFile} (rep : FileRep s' view.extend)
    (small : record.objsize < 4194268) :
    s'.findPage (record.objsize + sizeofDmsRecord) < view.extend.numPages ∧
      s'.findPage (record.objsize + sizeofDmsRecord) ≠ dmsInvalidPageId ∧
      ((∀ p, p < view.numPages →
          (view.page p).freeSpace ≤ record.objsize + sizeofDmsRecord) →
        view.page (s'.findPage (record.objsize + sizeofDmsRecord)) = .empty) := by
  rcases rep.findPage _ (insertKey_lt record) with ⟨bound, found, above⟩ | ⟨-, tight⟩
  · refine ⟨bound, found, fun full => ?_⟩
    apply view.unallocated
    by_contra old
    have inView : s'.findPage (record.objsize + sizeofDmsRecord) < view.numPages :=
      Nat.lt_of_not_le old
    have room := full _ inView
    rw [FileView.extend_page] at above
    omega
  · have newest : view.numPages < view.extend.numPages := by
      show 32 * view.segments < 32 * (view.segments + 1)
      omega
    have full := tight view.numPages newest
    rw [FileView.extend_page, view.unallocated view.numPages (Nat.le_refl _)] at full
    obtain ⟨slotEnd, -, -, space⟩ := PageView.empty.numbers
    rw [PageView.empty_slots, liveSize_nil, List.length_nil] at *
    simp only [sizeofDmsRecord] at full
    omega

/-- An empty page takes a record exactly when there is room for its slot. -/
theorem empty_fits_iff : PageView.empty.Fits record ↔ record.objsize ≤ 4194264 := by
  have size : recordSize record = record.objsize + 8 := rfl
  obtain ⟨slotEnd, free, -, -⟩ := PageView.empty.numbers
  rw [PageView.empty_slots] at *
  rw [totalSize_nil] at free
  rw [List.length_nil] at slotEnd
  rw [PageView.Fits]
  omega

/-- The retry loop with one extension that succeeds. -/
theorem insert_extending {s' : DmsFile} {answer : ExtendAnswer} (free : s.mutex = .init)
    (admitted : Admitted record)
    (missing : s.findPage (record.objsize + sizeofDmsRecord) = dmsInvalidPageId)
    (extended : s.extendLatched answer = some (edbOk, s')) (answers : List ExtendAnswer) :
    s.insert (answer :: answers) record = s'.insert answers record := by
  rw [admitted.insert, admitted.insert, insertRetry_cons free missing, extended]
  dsimp only
  rw [if_neg (not_not_intro rfl)]

/-- With one extension that succeeds the retry loop ends exactly for what an empty
page has more free space than. -/
theorem insert_isSome_iff {s' : DmsFile} {answer : ExtendAnswer} (rep : FileRep s view)
    (free : s.mutex = .init) (admitted : Admitted record)
    (extended : s.extendLatched answer = some (edbOk, s')) (done : Extended s s' view) :
    (s.insert [answer] record).isSome ↔
      record.objsize + sizeofDmsRecord < dmsPageSize - sizeofDmsPageHeader := by
  simp only [sizeofDmsPageHeader, dmsPageSize]
  constructor
  · intro ends
    by_contra large
    have tooLarge : 4194268 ≤ record.objsize := by
      simp only [sizeofDmsRecord] at large
      omega
    rw [insert_extending free admitted (findPage_large rep tooLarge) extended, admitted.insert,
      insertRetry_nil done.mutex (findPage_large done.rep tooLarge)] at ends
    cases ends
  · intro small
    by_cases missing : s.findPage (record.objsize + sizeofDmsRecord) = dmsInvalidPageId
    · have below : record.objsize < 4194268 := by
        simp only [sizeofDmsRecord] at small
        omega
      have found := (findPage_extended done.rep below).2.1
      rw [insert_extending free admitted missing extended, admitted.insert,
        insertRetry_of_page done.mutex found]
      rfl
    · rw [admitted.insert, insertRetry_of_page free missing]
      rfl

/-- The page the file was extended for takes the record exactly when there is room
for its slot, too. -/
theorem insert_extended_iff {s' : DmsFile} {answer : ExtendAnswer} (rep : FileRep s view)
    (free : s.mutex = .init) (admitted : Admitted record)
    (extended : s.extendLatched answer = some (edbOk, s')) (done : Extended s s' view)
    (missing : s.findPage (record.objsize + sizeofDmsRecord) = dmsInvalidPageId) :
    StoresRecord s [answer] record ↔
      record.objsize + sizeofDmsRecord + sizeofSlot ≤ dmsPageSize - sizeofDmsPageHeader := by
  have full : ∀ p, p < view.numPages →
      (view.page p).freeSpace ≤ record.objsize + sizeofDmsRecord := by
    rcases rep.findPage _ (insertKey_lt record) with ⟨-, found, -⟩ | ⟨-, full⟩
    · exact absurd missing found
    · exact full
  have sizes : record.objsize + sizeofDmsRecord + sizeofSlot ≤
      dmsPageSize - sizeofDmsPageHeader ↔ record.objsize ≤ 4194264 := by
    simp only [sizeofDmsRecord, sizeofSlot, dmsPageSize, sizeofDmsPageHeader]
    omega
  have same := insert_extending free admitted missing extended []
  have stores : StoresRecord s [answer] record ↔ StoresRecord s' [] record := by
    rw [StoresRecord, same]
    exact Iff.rfl
  rw [sizes, stores]
  by_cases small : record.objsize < 4194268
  · obtain ⟨bound, found, new⟩ := findPage_extended done.rep small
    rw [storesRecord_iff done.rep done.mutex admitted [] found,
      gapTakes_iff done.rep.toFileLayout bound, FileView.extend_page, new full]
    exact empty_fits_iff
  · have loops : s'.insert [] record = none := by
      rw [admitted.insert]
      exact insertRetry_nil done.mutex (findPage_large done.rep (Nat.not_lt.mp small))
    constructor
    · rintro ⟨out, rid, s₁, result, -⟩
      rw [loops] at result
      cases result
    · intro fits
      omega

/-- A file of empty pages takes every record that leaves room for its slot. -/
theorem Lengthened.insert {n : Nat} (long : Lengthened s (n + 1)) (hasKey : record.HasKey)
    (small : record.objsize ≤ 4194264) (answers : List ExtendAnswer) :
    StoresRecord s answers record := by
  have admitted : Admitted record := by
    refine ⟨?_, hasKey⟩
    simp only [dmsMaxRecord, dmsPageSize, sizeofDmsHeader, sizeofDmsRecord, sizeofSlot]
    omega
  have rep : FileRep s (FileView.blank n).extend := long.rep
  obtain ⟨bound, found, -⟩ := findPage_extended rep
    (show record.objsize < 4194268 by omega)
  rw [storesRecord_iff rep long.settled.1 admitted answers found,
    gapTakes_iff rep.toFileLayout bound]
  exact empty_fits_iff.mpr small

/-- A file of empty pages refuses what leaves no room for the slot. -/
theorem Lengthened.refuses {n : Nat} (long : Lengthened s (n + 1)) (hasKey : record.HasKey)
    (tight : 4194264 < record.objsize) (small : record.objsize < 4194268)
    (answers : List ExtendAnswer) :
    s.findPage (record.objsize + sizeofDmsRecord) ≠ dmsInvalidPageId ∧
      ∃ s', s.insert answers record = some (.returns (.failed edbSys), s') := by
  have admitted : Admitted record := by
    refine ⟨?_, hasKey⟩
    simp only [dmsMaxRecord, dmsPageSize, sizeofDmsHeader, sizeofDmsRecord, sizeofSlot]
    omega
  have rep : FileRep s (FileView.blank n).extend := long.rep
  obtain ⟨bound, found, -⟩ := findPage_extended rep small
  refine ⟨found, ?_⟩
  obtain ⟨-, takes⟩ | ⟨failed, -⟩ := insert_found rep long.settled.1 admitted answers found
  · have fits : PageView.empty.Fits record := (gapTakes_iff rep.toFileLayout bound).mp takes
    exact absurd (empty_fits_iff.mp fits) (Nat.not_le.mpr tight)
  · exact failed

/-- For what no empty page takes the loop goes on however often the file grows. -/
theorem Lengthened.loops (admitted : Admitted record) (large : 4194268 ≤ record.objsize) :
    ∀ {passes n : Nat} {s : DmsFile}, Lengthened s n → n + passes ≤ 1000 →
      s.insert (List.replicate passes .granted) record = none
  | 0, n, s, long, few => by
      rw [admitted.insert]
      exact insertRetry_nil long.settled.1 (findPage_large long.rep large)
  | passes + 1, n, s, long, few => by
      obtain ⟨s', extended, longer⟩ := long.extend (by omega)
      rw [List.replicate_succ, insert_extending long.settled.1 admitted
        (findPage_large long.rep large) extended]
      exact Lengthened.loops admitted large longer (by omega)

end Found

/-! ### Sessions -/

section Sessions

variable {start s : DmsFile} {trace : DmsTrace} {record : BsonObj}

/-- In every session, an admitted record for which a page is found is stored there
exactly when the gap of that page takes the record with its slot. -/
theorem session_insert_storesRecord_iff (fresh : start.Fresh)
    (run : Session ridsIssued start trace s) (admitted : Admitted record)
    (answers : List ExtendAnswer)
    (found : s.findPage (record.objsize + sizeofDmsRecord) ≠ dmsInvalidPageId) :
    StoresRecord s answers record ↔
      GapTakes s (s.findPage (record.objsize + sizeofDmsRecord)) record := by
  obtain ⟨⟨view, rep, -⟩, free, -⟩ := session_settled fresh withinSlots_of_ridsIssued run
  exact storesRecord_iff rep free admitted answers found

/-- On a file with one segment of empty pages the smallest object with a key is
stored, so the gap takes it. -/
theorem session_insert_storesRecord_iff_smallest :
    ∃ (start : DmsFile) (trace : DmsTrace) (s : DmsFile),
    start.Fresh ∧ Session ridsIssued start trace s ∧
      GapTakes s (s.findPage ((binDataRecord [] (by decide)).objsize + sizeofDmsRecord))
        (binDataRecord [] (by decide)) := by
  obtain ⟨start, trace, s, fresh, run, -, long⟩ :=
    exists_lengthened ridsIssued (fun _ _ _ => trivial) 1 (by decide)
  have hasKey := binDataRecord_hasKey [] (by decide)
  have size := binDataRecord_objsize [] (by decide)
  have admitted : Admitted (binDataRecord [] (by decide)) := by
    refine ⟨?_, hasKey⟩
    rw [size]
    decide
  have short : (binDataRecord [] (by decide)).objsize < 4194268 := by
    rw [size]
    decide
  have rep : FileRep s (FileView.blank 0).extend := long.rep
  have found := (findPage_extended rep short).2.1
  refine ⟨start, trace, s, fresh, run, ?_⟩
  exact (session_insert_storesRecord_iff fresh run admitted [] found).mp
    (long.insert hasKey (by rw [size]; decide) [])

/-- The page that is found for a record of 4194265 bytes cannot take it: the search
leaves no room for the slot. -/
theorem insert_refused_on_foundPage :
    ∃ (start : DmsFile) (trace : DmsTrace) (s : DmsFile) (record : BsonObj),
    start.Fresh ∧ Session ridsIssued start trace s ∧ Admitted record ∧
      record.objsize = 4194265 ∧
      s.findPage (record.objsize + sizeofDmsRecord) ≠ dmsInvalidPageId ∧
      ∃ s', s.insert [] record = some (.returns (.failed edbSys), s') := by
  obtain ⟨start, trace, s, fresh, run, -, long⟩ :=
    exists_lengthened ridsIssued (fun _ _ _ => trivial) 1 (by decide)
  obtain ⟨record, size, hasKey⟩ := exists_record 4194265 (by decide) (by decide)
  obtain ⟨found, refused⟩ := long.refuses hasKey (by omega) (by omega) []
  refine ⟨start, trace, s, record, fresh, run, ⟨?_, hasKey⟩, size, found, refused⟩
  simp only [dmsMaxRecord, dmsPageSize, sizeofDmsHeader, sizeofDmsRecord, sizeofSlot]
  omega

/-- In every session, with one extension that succeeds, the retry loop ends exactly
when the record with its header is smaller than the room of an empty page, and the
page it extended for takes the record exactly when there is room for the slot, too. -/
theorem session_insert_oneExtension (fresh : start.Fresh)
    (run : Session withinSlots start trace s) (admitted : Admitted record)
    {answer : ExtendAnswer}
    (extended : ∃ s', s.extendLatched answer = some (edbOk, s')) :
    ((s.insert [answer] record).isSome ↔
      record.objsize + sizeofDmsRecord < dmsPageSize - sizeofDmsPageHeader) ∧
    (s.findPage (record.objsize + sizeofDmsRecord) = dmsInvalidPageId →
      (StoresRecord s [answer] record ↔ record.objsize + sizeofDmsRecord + sizeofSlot ≤
        dmsPageSize - sizeofDmsPageHeader)) := by
  obtain ⟨⟨view, rep, -⟩, free, -⟩ := session_settled fresh (fun _ guard => guard) run
  obtain ⟨s', extended⟩ := extended
  obtain ⟨-, ⟨-, done⟩ | ⟨failed, -⟩⟩ := extendLatched_refines rep extended
  · exact ⟨insert_isSome_iff rep free admitted extended done,
      insert_extended_iff rep free admitted extended done⟩
  · exact absurd rfl failed

/-- One extension is enough for the smallest object with a key. -/
theorem session_insert_oneExtension_smallest : ∃ start : DmsFile,
    start.Fresh ∧ (start.insert [.granted] (binDataRecord [] (by decide))).isSome := by
  obtain ⟨start, fresh⟩ := exists_fresh
  have hasKey := binDataRecord_hasKey [] (by decide)
  have size := binDataRecord_objsize [] (by decide)
  have admitted : Admitted (binDataRecord [] (by decide)) := by
    refine ⟨?_, hasKey⟩
    rw [size]
    decide
  obtain ⟨s', extended, -⟩ := (fresh_newFile fresh).lengthened.extend (by decide)
  refine ⟨start, fresh, ?_⟩
  refine (session_insert_oneExtension fresh .start admitted ⟨s', extended⟩).1.mpr ?_
  rw [size]
  decide

/-- A record of 4194268 bytes passes the size check and the loop extends the file
again and again. -/
theorem insert_loops : ∃ (start : DmsFile) (record : BsonObj), start.Fresh ∧ Admitted record ∧
    record.objsize = 4194268 ∧ (∃ s', start.extendLatched .granted = some (edbOk, s')) ∧
      ∀ passes, passes ≤ 1000 →
        start.insert (List.replicate passes .granted) record = none := by
  obtain ⟨start, fresh⟩ := exists_fresh
  obtain ⟨record, size, hasKey⟩ := exists_record 4194268 (by decide) (by decide)
  have admitted : Admitted record := by
    refine ⟨?_, hasKey⟩
    simp only [dmsMaxRecord, dmsPageSize, sizeofDmsHeader, sizeofDmsRecord, sizeofSlot]
    omega
  have new := (fresh_newFile fresh).lengthened
  obtain ⟨s', extended, -⟩ := new.extend (by decide)
  refine ⟨start, record, fresh, admitted, size, ⟨s', extended⟩, fun passes few => ?_⟩
  exact new.loops admitted (Nat.le_of_eq size.symm) (by omega)

end Sessions

end EmeraldDb
