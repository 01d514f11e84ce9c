/-
Module: EmeraldDb.Proofs.StoredSessions
Purpose: A file whose pages all have room stores the next record, so there are sessions
  with a stored record, and with a stored and a removed one.
Trusted boundary: none
Main exports: FileRep.storesRecord, exists_stored, exists_removed
-/
import EmeraldDb.Proofs.Placement

namespace EmeraldDb

open DmsFile SlotView

variable {start s : DmsFile} {trace : DmsTrace} {rid : DmsRecordId} {view : FileView}
  {record : BsonObj}

/-- A rid with bytes is an issued rid. -/
theorem Tracked.issued_of_liveBytes (tracked : Tracked trace s) {bytes : List UInt8}
    (live : liveBytes trace rid = some bytes) : rid ∈ issuedRids trace := by
  obtain ⟨view, -, follows⟩ := tracked
  have held : view.store.contents rid = some bytes := (follows.holds rid).trans live
  exact (follows.allocation rid).mp (view.store.held rid bytes held)

/-- The page of a rid with bytes exists. -/
theorem Tracked.page_of_liveBytes (tracked : Tracked trace s) {bytes : List UInt8}
    (live : liveBytes trace rid = some bytes) :
    ∃ page, s.pageToOffset rid.pageId = some page := by
  have issued := tracked.issued_of_liveBytes live
  obtain ⟨view, rep, follows⟩ := tracked
  have bound := FileView.page_lt_of_allocated ((follows.allocation rid).mpr issued)
  exact ⟨_, by rw [rep.pageToOffset_eq, if_pos bound]⟩

/-! ### A session under other guards -/

theorem session_withinSlots (fresh : start.Fresh) (run : Session ridsIssued start trace s) :
    Session withinSlots start trace s :=
  run.mono fun past guard =>
    withinSlots_of_ridsIssued (session_settled fresh withinSlots_of_ridsIssued past).1 guard

theorem session_removesIssued (run : Session ridsIssued start trace s) :
    Session removesIssued start trace s := by
  refine run.mono fun {_ _ action} _ guard => ?_
  cases action with
  | remove rid => exact guard
  | _ => trivial

/-! ### Room for one more record -/

/-- Where every page takes the record, `_findPage` finds one. -/
theorem FileRep.findPage_of_fits (rep : FileRep s view) (nonempty : 0 < view.numPages)
    (fits : ∀ p, (view.page p).Fits record) :
    s.findPage (record.objsize + sizeofDmsRecord) < view.numPages ∧
      s.findPage (record.objsize + sizeofDmsRecord) ≠ dmsInvalidPageId := by
  rcases rep.findPage _ (insertKey_lt record) with ⟨bound, found, -⟩ | ⟨-, tight⟩
  · exact ⟨bound, found⟩
  · have room := fits 0
    have size : recordSize record = record.objsize + 8 := rfl
    have live := liveSize_le_totalSize (view.page 0).slots
    obtain ⟨-, free, -, space⟩ := (view.page 0).numbers
    have full := tight 0 nonempty
    simp only [PageView.Fits, sizeofDmsRecord] at room full
    omega

/-- Where every page takes the record, it is stored. -/
theorem FileRep.storesRecord (rep : FileRep s view) (free : s.mutex = .init)
    (admitted : Admitted record) (nonempty : 0 < view.numPages)
    (fits : ∀ p, (view.page p).Fits record) (answers : List ExtendAnswer) :
    StoresRecord s answers record := by
  obtain ⟨bound, found⟩ := rep.findPage_of_fits nonempty fits
  rw [storesRecord_iff rep free admitted answers found, gapTakes_iff rep.toFileLayout bound]
  exact fits _

/-- Such an insert as an operation of a session. -/
theorem StoresRecord.exec {answers : List ExtendAnswer} (stores : StoresRecord s answers record) :
    ∃ out rid s', DmsFile.exec (.insert answers record) s =
      some (.inserted (.returns ⟨edbOk, some out, some rid⟩), s') := by
  obtain ⟨out, rid, s', inserted, -⟩ := stores
  refine ⟨out, rid, s', ?_⟩
  rw [DmsFile.exec, inserted]
  rfl

/-- When one small record is all that was ever stored, every page takes another one. -/
theorem fits_besides_one {stored : BsonObj}
    (follows : IdStore.Follows (history trace) view.store) (one : issuedRids trace = [rid])
    (live : liveBytes trace rid = some stored.bytes)
    (small : stored.objsize + record.objsize ≤ 4194248) (p : Nat) :
    (view.page p).Fits record := by
  have named : ∀ i, i < (view.page p).slots.length → (⟨p, i⟩ : DmsRecordId) = rid := by
    intro i bound
    have issued : (⟨p, i⟩ : DmsRecordId) ∈ issuedRids trace :=
      (follows.allocation ⟨p, i⟩).mp bound
    rw [one] at issued
    exact List.mem_singleton.mp issued
  obtain ⟨slotEnd, free, -⟩ := (view.page p).numbers
  have size : recordSize record = record.objsize + 8 := rfl
  rcases slots : (view.page p).slots with _ | ⟨slot, _ | ⟨next, rest⟩⟩
  · rw [slots] at slotEnd free
    rw [totalSize_nil] at free
    rw [List.length_nil] at slotEnd
    rw [PageView.Fits]
    omega
  · rw [slots] at slotEnd free named
    obtain rfl := named 0 (Nat.one_pos)
    have held := (follows.holds ⟨p, 0⟩).trans live
    obtain ⟨there, at_slot, same⟩ := Option.map_eq_some_iff.mp held
    have length : there.objsize = stored.objsize := congrArg List.length same
    obtain ⟨offset, shape⟩ := PageView.recordAt_eq_some.mp at_slot
    rw [slots] at shape
    cases shape
    have taken : (SlotView.live offset there).size = there.objsize + 8 := rfl
    rw [totalSize_cons, totalSize_nil, taken] at free
    rw [List.length_singleton] at slotEnd
    rw [PageView.Fits]
    omega
  · rw [slots] at named
    have first := named 0 (by simp)
    have second := named 1 (by simp)
    cases first.trans second.symm

/-! ### Sessions with records -/

/-- There is a session that stored one record, the smallest object with a key. -/
theorem exists_stored : ∃ (start : DmsFile) (trace : DmsTrace) (s : DmsFile) (rid : DmsRecordId),
    start.Fresh ∧ Session ridsIssued start trace s ∧
      liveBytes trace rid = some (binDataRecord [] (by decide)).bytes ∧
      issuedRids trace = [rid] := by
  obtain ⟨start, trace, s, fresh, run, events, long⟩ :=
    exists_lengthened ridsIssued (fun _ _ _ => trivial) 1 (by decide)
  have size := binDataRecord_objsize [] (by decide)
  obtain ⟨out, rid, s', completes⟩ :=
    (long.insert (binDataRecord_hasKey [] (by decide)) (by rw [size]; decide) []).exec
  have guard : ridsIssued trace s (.insert [] (binDataRecord [] (by decide))) := trivial
  refine ⟨start, _, s', rid, fresh, run.step guard completes, ?_, ?_⟩
  · rw [liveBytes_append_singleton]
    exact Function.update_self rid _ _
  · rw [issuedRids, history_append_singleton, events]
    rfl

/-- There is a session that stored two. -/
theorem exists_storedTwo : ∃ (start : DmsFile) (trace : DmsTrace) (s : DmsFile)
    (first second : DmsRecordId), start.Fresh ∧ Session ridsIssued start trace s ∧
      liveBytes trace first = some (binDataRecord [] (by decide)).bytes ∧
      liveBytes trace second = some (binDataRecord [] (by decide)).bytes ∧ first ≠ second := by
  obtain ⟨start, trace, s, first, fresh, run, live, one⟩ := exists_stored
  obtain ⟨tracked, settled⟩ := session_settled fresh withinSlots_of_ridsIssued run
  have size := binDataRecord_objsize [] (by decide)
  have admitted : Admitted (binDataRecord [] (by decide)) := by
    refine ⟨?_, binDataRecord_hasKey [] (by decide)⟩
    rw [size]
    decide
  have issued := tracked.issued_of_liveBytes live
  obtain ⟨view, rep, follows⟩ := tracked
  have bound := FileView.page_lt_of_allocated ((follows.allocation first).mpr issued)
  obtain ⟨out, second, s', completes⟩ := (rep.storesRecord settled.1 admitted
    (Nat.lt_of_le_of_lt (Nat.zero_le _) bound)
    (fits_besides_one follows one live (by rw [size]; decide)) []).exec
  have guard : ridsIssued trace s (.insert [] (binDataRecord [] (by decide))) := trivial
  have orderly : Orderly s (.insert [] (binDataRecord [] (by decide))) := trivial
  obtain ⟨view', executed⟩ := exec_refines rep orderly completes
  have apart : first ≠ second := fun same => follows.fresh executed.step (same ▸ issued)
  refine ⟨start, _, s', first, second, fresh, run.step guard completes, ?_, ?_, apart⟩
  · rw [liveBytes_append_singleton]
    exact (Function.update_of_ne apart ..).trans live
  · rw [liveBytes_append_singleton]
    exact Function.update_self second _ _

/-- A live record can be removed. -/
theorem Tracked.removes (tracked : Tracked trace s) (settled : Settled s) {bytes : List UInt8}
    (live : liveBytes trace rid = some bytes) :
    ∃ s', DmsFile.exec (.remove rid) s = some (.code edbOk, s') := by
  obtain ⟨view, rep, follows⟩ := tracked
  obtain ⟨record, stored, -⟩ :=
    Option.map_eq_some_iff.mp ((follows.holds rid).trans live)
  obtain ⟨s', view', removed, -⟩ := remove_live rep settled.1 stored
  refine ⟨s', ?_⟩
  rw [DmsFile.exec, removed]
  rfl

/-- There is a session that stored two records and removed the first. -/
theorem exists_removed : ∃ (start : DmsFile) (trace : DmsTrace) (s : DmsFile)
    (gone kept : DmsRecordId), start.Fresh ∧ Session ridsIssued start trace s ∧
      gone ∈ removedRids trace ∧
      liveBytes trace kept = some (binDataRecord [] (by decide)).bytes := by
  obtain ⟨start, trace, s, gone, kept, fresh, run, first, second, apart⟩ := exists_storedTwo
  obtain ⟨tracked, settled⟩ := session_settled fresh withinSlots_of_ridsIssued run
  obtain ⟨s', completes⟩ := tracked.removes settled first
  have guard : ridsIssued trace s (.remove gone) := tracked.issued_of_liveBytes first
  refine ⟨start, _, s', gone, kept, fresh, run.step guard completes, ?_, ?_⟩
  · rw [removedRids, history_append_singleton, StoreEvent.deleted_append]
    exact List.mem_append_right _ List.mem_cons_self
  · rw [liveBytes_append_singleton]
    exact (Function.update_of_ne apart.symm ..).trans second

end EmeraldDb
