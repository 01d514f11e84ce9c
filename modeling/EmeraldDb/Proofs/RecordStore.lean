/-
Module: EmeraldDb.Proofs.RecordStore
Purpose: An open data file as a map from record ids to byte strings: what find,
  insert and remove answer in every session, for issued rids and for all others,
  and that the free-space index always lists the pages.
Trusted boundary: human-reviewed spec
Main exports: KeepsRecords, session_keepsRecords, Rejects, session_rejects_iff,
  IndexExact, session_indexExact
-/
import EmeraldDb.Proofs.PageInvariant
import EmeraldDb.Proofs.Placement

namespace EmeraldDb

open ByteMemory

/-! ### The map -/

/-- `find(rid)` returns these bytes, or an error when there are none. -/
def Finds (s : DmsFile) (rid : DmsRecordId) : Option (List UInt8) → Prop
  | some bytes => s.find rid = some (.returns ⟨edbOk, some bytes⟩, s)
  | none => ∃ rc, rc ≠ edbOk ∧ s.find rid = some (.returns ⟨rc, none⟩, s)

/-- What a session may rely on: the file is a map from the issued rids to bytes. -/
structure KeepsRecords (trace : DmsTrace) (s : DmsFile) : Prop where
  /-- the map: `find` answers what the replies so far say -/
  finds : ∀ rid ∈ issuedRids trace, Finds s rid (liveBytes trace rid)
  /-- an insert that succeeds returns a new rid and stores the bytes -/
  inserted : ∀ {answers record reply s'},
    s.insert answers record = some (.returns reply, s') → reply.rc = edbOk →
      ∃ rid, reply.rid = some rid ∧ rid ∉ issuedRids trace ∧ Finds s' rid (some record.bytes)
  /-- a live rid can be removed -/
  removes : ∀ rid bytes, liveBytes trace rid = some bytes →
    ∃ s', s.remove rid = some (edbOk, s') ∧ Finds s' rid none
  /-- a removed rid stays removed -/
  removed : ∀ rid ∈ removedRids trace, Finds s rid none ∧
    ∃ rc, rc ≠ edbOk ∧ s.remove rid = some (rc, s)
  /-- no call changes what another live rid stands for -/
  frame : ∀ {op reply s'}, ridsIssued trace s op →
    DmsFile.exec op s = some (reply, s') → ∀ rid bytes, liveBytes trace rid = some bytes →
      op ≠ .remove rid → Finds s' rid (some bytes)
  /-- a call that fails changes nothing -/
  failed : ∀ {op reply s'}, ridsIssued trace s op →
    DmsFile.exec op s = some (reply, s') → reply.Failed →
      ∀ rid ∈ issuedRids trace, Finds s' rid (liveBytes trace rid)

section Map

variable {start s s' : DmsFile} {trace : DmsTrace} {rid : DmsRecordId}

/-- In a tracked file without a held latch `find` answers what the replies say, for
every rid but the one behind the last slot. -/
theorem Tracked.finds (tracked : Tracked trace s) (noWriter : s.mutex.writer = false)
    (within : ¬ s.PastLastSlot rid) : Finds s rid (liveBytes trace rid) := by
  obtain ⟨view, rep, follows⟩ := tracked
  rw [liveBytes, ← follows.holds rid]
  cases held : view.store.contents rid with
  | some bytes => exact find_of_contents rep.toFileLayout noWriter held
  | none =>
      have dead : view.recordAt rid = none := Option.map_eq_none_iff.mp held
      exact ⟨edbSys, by decide, find_dead rep.toFileLayout noWriter dead within⟩

theorem Settled.noWriter (settled : Settled s) : s.mutex.writer = false := by
  rw [settled.1]
  rfl

/-- The step of the store behind a call of a tracked file. -/
theorem Tracked.executed (tracked : Tracked trace s) {op : DmsOp} {reply : DmsReply}
    (orderly : Orderly s op) (result : DmsFile.exec op s = some (reply, s')) :
    ∃ view view', IdStore.Follows (history trace) view.store ∧
      Executed op reply s s' view view' := by
  obtain ⟨view, rep, follows⟩ := tracked
  obtain ⟨view', executed⟩ := exec_refines rep orderly result
  exact ⟨view, view', follows, executed⟩

/-- What `find` answers after one more call, for the rids issued before it. -/
theorem finds_after (rid : DmsRecordId) {op : DmsOp} {reply : DmsReply} (tracked : Tracked trace s)
    (settled : Settled s) (guard : ridsIssued trace s op)
    (result : DmsFile.exec op s = some (reply, s'))
    (issued : rid ∈ StoreEvent.issued (history trace ++ [eventOf op reply])) :
    Finds s' rid ((eventOf op reply).apply (liveBytes trace) rid) := by
  have within := withinSlots_of_ridsIssued tracked guard
  have tracked' := tracked.step (orderly_of_withinSlots within) result
  have settled' := settled.step tracked within result
  have issued' : rid ∈ issuedRids (trace ++ [⟨s, op, reply, s'⟩]) := by
    rw [issuedRids, history_append_singleton]
    exact issued
  have answer := tracked'.finds settled'.noWriter (tracked'.issued_withinSlots issued')
  rwa [liveBytes_append_singleton] at answer

theorem issued_append_left {event : StoreEvent DmsRecordId (List UInt8)}
    (issued : rid ∈ issuedRids trace) :
    rid ∈ StoreEvent.issued (history trace ++ [event]) := by
  rw [StoreEvent.issued_append]
  exact List.mem_append_left _ issued

end Map

/-- In every session that asks only for issued rids the file is a map from the
issued rids to the bytes that were inserted under them. -/
theorem session_keepsRecords {start s : DmsFile} {trace : DmsTrace} (fresh : start.Fresh)
    (run : Session ridsIssued start trace s) : KeepsRecords trace s := by
  obtain ⟨tracked, settled⟩ := session_settled fresh withinSlots_of_ridsIssued run
  refine ⟨?_, ?_, ?_, ?_, ?_, ?_⟩
  · intro rid issued
    exact tracked.finds settled.noWriter (tracked.issued_withinSlots issued)
  · intro answers record reply s' result ok
    have completes : DmsFile.exec (.insert answers record) s =
        some (.inserted (.returns reply), s') := by
      rw [DmsFile.exec, result]
      rfl
    obtain ⟨view, rep, follows⟩ := tracked
    obtain ⟨view', -, outcome, -, -⟩ := insert_refines rep result
    cases outcome with
    | @stored out rid _ step =>
        refine ⟨rid, rfl, follows.fresh step, ?_⟩
        have guard : ridsIssued trace s (.insert answers record) := trivial
        have there := finds_after rid ⟨view, rep, follows⟩ settled guard completes (by
          rw [StoreEvent.issued_append]
          exact List.mem_append_right _ List.mem_cons_self)
        simpa [eventOf, StoreEvent.apply] using there
    | failed error step => exact absurd ok error
  · intro rid bytes live
    have issued := tracked.issued_of_liveBytes live
    obtain ⟨view, rep, follows⟩ := tracked
    have held : view.store.contents rid = some bytes := (follows.holds rid).trans live
    obtain ⟨record, stored, -⟩ := Option.map_eq_some_iff.mp held
    obtain ⟨s', view', removed, -⟩ := remove_live rep settled.1 stored
    have completes : DmsFile.exec (.remove rid) s = some (.code edbOk, s') := by
      rw [DmsFile.exec, removed]
      rfl
    have guard : ridsIssued trace s (.remove rid) := issued
    have gone := finds_after rid ⟨view, rep, follows⟩ settled guard completes
      (issued_append_left issued)
    refine ⟨s', removed, ?_⟩
    simpa [eventOf, StoreEvent.apply] using gone
  · intro rid deleted
    obtain ⟨view, rep, follows⟩ := tracked
    obtain ⟨issued, empty⟩ := follows.emptied rid deleted
    have within : ¬ s.PastLastSlot rid :=
      Tracked.issued_withinSlots ⟨view, rep, follows⟩ issued
    have dead : view.recordAt rid = none := Option.map_eq_none_iff.mp empty
    refine ⟨⟨edbSys, by decide, ?_⟩, edbSys, by decide, ?_⟩
    · exact find_dead rep.toFileLayout settled.noWriter dead within
    · exact remove_dead rep settled.1 dead within
  · intro op reply s' guard result rid bytes live other
    have issued := tracked.issued_of_liveBytes live
    have answer := finds_after rid tracked settled guard result (issued_append_left issued)
    have within := orderly_of_withinSlots (withinSlots_of_ridsIssued tracked guard)
    obtain ⟨view, view', follows, executed⟩ := tracked.executed within result
    have notPut : ∀ value, eventOf op reply ≠ .put rid value := by
      intro value put
      exact follows.fresh (put ▸ executed.step) issued
    have notDeleted : eventOf op reply ≠ .delete rid :=
      fun deleted => other (eventOf_eq_delete deleted)
    rw [StoreEvent.apply_other _ notPut notDeleted, live] at answer
    exact answer
  · intro op reply s' guard result failed rid issued
    have answer := finds_after rid tracked settled guard result (issued_append_left issued)
    have within := orderly_of_withinSlots (withinSlots_of_ridsIssued tracked guard)
    obtain ⟨view, view', -, executed⟩ := tracked.executed within result
    rw [executed.failed failed] at answer
    exact answer

/-- The stored record is found. -/
theorem session_keepsRecords_stored : ∃ (s : DmsFile) (rid : DmsRecordId),
    s.find rid =
      some (.returns ⟨edbOk, some (binDataRecord [] (by decide)).bytes⟩, s) := by
  obtain ⟨start, trace, s, rid, fresh, run, live, -⟩ := exists_stored
  have tracked := (session_settled fresh withinSlots_of_ridsIssued run).1
  have answer := (session_keepsRecords fresh run).finds rid (tracked.issued_of_liveBytes live)
  rw [live] at answer
  exact ⟨s, rid, answer⟩

/-! ### Rids that name no live record -/

/-- `find` and `remove` return an error and leave everything, latches included, as
it was. -/
def Rejects (s : DmsFile) (rid : DmsRecordId) : Prop :=
  (∃ rc, rc ≠ edbOk ∧ s.find rid = some (.returns ⟨rc, none⟩, s)) ∧
    ∃ rc, rc ≠ edbOk ∧ s.remove rid = some (rc, s)

/-- A rid that is not live is rejected exactly when it is not the slot right behind
the last one of a page. -/
theorem session_rejects_iff {start s : DmsFile} {trace : DmsTrace} {rid : DmsRecordId}
    (fresh : start.Fresh) (run : Session withinSlots start trace s)
    (notLive : liveBytes trace rid = none) : Rejects s rid ↔ ¬ s.PastLastSlot rid := by
  obtain ⟨⟨view, rep, follows⟩, settled⟩ :=
    session_settled fresh (fun _ guard => guard) run
  have empty : view.store.contents rid = none := (follows.holds rid).trans notLive
  have dead : view.recordAt rid = none := Option.map_eq_none_iff.mp empty
  constructor
  · rintro ⟨-, rc, error, removed⟩ past
    exact error (remove_pastLastSlot rep settled.1 past removed)
  · intro within
    exact ⟨⟨edbSys, by decide, find_dead rep.toFileLayout settled.noWriter dead within⟩,
      edbSys, by decide, remove_dead rep settled.1 dead within⟩

/-- A removed rid is rejected, another record being left. -/
theorem session_rejects_iff_removed : ∃ (trace : DmsTrace) (s : DmsFile)
    (gone kept : DmsRecordId), gone ∈ removedRids trace ∧
      liveBytes trace kept = some (binDataRecord [] (by decide)).bytes ∧ Rejects s gone := by
  obtain ⟨start, trace, s, gone, kept, fresh, run, removed, live⟩ := exists_removed
  have tracked := (session_settled fresh withinSlots_of_ridsIssued run).1
  obtain ⟨view, rep, follows⟩ := tracked
  obtain ⟨issued, empty⟩ := follows.emptied gone removed
  have notLive : liveBytes trace gone = none := (follows.holds gone).symm.trans empty
  refine ⟨trace, s, gone, kept, removed, live,
    (session_rejects_iff fresh (session_withinSlots fresh run) notLive).mpr ?_⟩
  exact Tracked.issued_withinSlots ⟨view, rep, follows⟩ issued

/-- The slot word behind the last slot of an empty page is zero. -/
theorem pageSlot_empty {m : Mem} {page : Nat} (rep : PageRep m page .empty) :
    pageSlot m page 0 = 0 := by
  obtain ⟨slotEnd, free, below, -⟩ := PageView.empty.numbers
  rw [PageView.empty_slots] at slotEnd free
  rw [List.length_nil] at slotEnd
  rw [totalSize_nil] at free
  have zero : ∀ i, i < 4 → m (page + 28 + i) = 0 := by
    intro i small
    exact rep.gap _ (by omega) (by omega)
  have address : slotAddress page 0 = page + 28 := slotAddress_eq page 0
  have byte₀ := zero 0 (by decide)
  rw [Nat.add_zero] at byte₀
  rw [pageSlot, address, readU32, byte₀, zero 1 (by decide), zero 2 (by decide),
    zero 3 (by decide)]
  rfl

/-- On a page nobody inserted into, `remove` of its first slot takes the page header
for a record and returns `EDB_OK`. -/
theorem remove_takes_pageHeader : ∃ (start : DmsFile) (trace : DmsTrace) (s : DmsFile),
    start.Fresh ∧ Session withinSlots start trace s ∧ liveBytes trace ⟨0, 0⟩ = none ∧
      ∃ s', s.remove ⟨0, 0⟩ = some (edbOk, s') := by
  obtain ⟨start, trace, s, fresh, run, events, long⟩ :=
    exists_lengthened withinSlots (fun _ _ _ => trivial) 1 (by decide)
  refine ⟨start, trace, s, fresh, run, ?_, ?_⟩
  · rw [liveBytes, events]
    rfl
  · have bound : 0 < (FileView.blank 1).numPages := by decide
    have page := long.rep.pages 0 bound
    have found : s.pageToOffset 0 = some (s.pageAddress 0) := by
      rw [long.rep.pageToOffset_eq, if_pos bound]
    have searched : DmsFile.searchSlot s.memory (s.pageAddress 0) ⟨0, 0⟩ = (edbOk, some 0) := by
      rw [searchSlot_inRange page (Nat.zero_le _), pageSlot_empty page]
    exact ⟨_, remove_of_slot long.settled.1 found searched (by decide) (by decide)⟩

/-! ### The free-space index -/

/-- `_freeSpace` in the header of page `p`. -/
def freeSpaceOf (s : DmsFile) (p : Nat) : Nat :=
  (s.pageToOffset p).elim 0 (pageFreeSpace s.memory)

/-- The index has one entry for each of the first `count` pages, keyed by its
`_freeSpace`, and no other. -/
def IndexExact (s : DmsFile) (count : Nat) : Prop :=
  s.freeSpaceMap.entries.Perm ((List.range count).map fun p => (freeSpaceOf s p, p))

/-- In every session that removes only rids it was given, the index is exact and the
file header counts the pages. -/
theorem session_indexExact {start s : DmsFile} {trace : DmsTrace} (fresh : start.Fresh)
    (run : Session removesIssued start trace s) :
    IndexExact s s.getNumPages ∧
      ∃ header, s.header = some header ∧ readU32 s.memory (header + 4) = s.getNumPages := by
  obtain ⟨view, rep, -⟩ := session_tracked fresh orderly_of_removesIssued run
  constructor
  · have keys : (List.range s.getNumPages).map (fun p => (freeSpaceOf s p, p)) = view.index := by
      rw [rep.getNumPages_eq, FileView.index]
      apply List.map_congr_left
      intro p inRange
      have bound := List.mem_range.mp inRange
      rw [freeSpaceOf, rep.pageToOffset_eq, if_pos bound, Option.elim_some,
        (rep.pages p bound).freeSpace]
    rw [IndexExact, keys]
    exact rep.index
  · exact ⟨0, rep.header, by rw [Nat.zero_add, rep.headerSize, rep.getNumPages_eq]; rfl⟩

/-- The index of a file with a segment and a record in it is exact. -/
theorem session_indexExact_stored : ∃ (trace : DmsTrace) (s : DmsFile) (rid : DmsRecordId),
    liveBytes trace rid = some (binDataRecord [] (by decide)).bytes ∧
      IndexExact s s.getNumPages := by
  obtain ⟨start, trace, s, rid, fresh, run, live, -⟩ := exists_stored
  exact ⟨trace, s, rid, live, (session_indexExact fresh (session_removesIssued run)).1⟩

end EmeraldDb
