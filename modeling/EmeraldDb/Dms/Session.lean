/-
Module: EmeraldDb.Dms.Session
Purpose: What one user does with an open data file, one call after the other:
  the calls, their replies, the runs, and what a run says about record ids.
Trusted boundary: human-reviewed spec
Main exports: DmsOp, DmsReply, exec, Session, history, removesIssued,
  ridsIssued, withinSlots, Fresh
-/
import EmeraldDb.Lib.IdStore
import EmeraldDb.Lib.Run
import EmeraldDb.Dms.DmsFile

namespace EmeraldDb

/-- The calls.  `_recoverSpace` and `_extendSegment` also happen inside
`insert`; here they may happen at any other time, too. -/
inductive DmsOp where
  | insert (answers : List DmsFile.ExtendAnswer) (record : BsonObj)
  | remove (rid : DmsRecordId)
  | find (rid : DmsRecordId)
  | recoverSpace (pageId : Nat)
  | extendSegment (answer : DmsFile.ExtendAnswer)

/-- What a completed call hands back. -/
inductive DmsReply where
  | inserted (completion : Completion DmsFile.InsertReply)
  | found (completion : Completion DmsFile.FindReply)
  | code (rc : ReturnCode)
  | nothing

/-- The call returned an error or threw. -/
def DmsReply.Failed : DmsReply → Prop
  | .inserted (.returns reply) => reply.rc ≠ edbOk
  | .found (.returns reply) => reply.rc ≠ edbOk
  | .code rc => rc ≠ edbOk
  | .inserted .throws => True
  | .found .throws => True
  | .nothing => False

namespace DmsFile

/-- Make one call. -/
def exec : DmsOp → DmsFile → Option (DmsReply × DmsFile)
  | .insert answers record, s =>
      (s.insert answers record).map fun (completion, s) => (.inserted completion, s)
  | .remove rid, s => (s.remove rid).map fun (rc, s) => (.code rc, s)
  | .find rid, s => (s.find rid).map fun (completion, s) => (.found completion, s)
  | .recoverSpace pageId, s =>
      (s.pageToOffset pageId).map fun page =>
        (.nothing, s.setMemory (EmeraldDb.recoverSpace s.memory page))
  | .extendSegment answer, s =>
      (s.extendLatched answer).map fun (rc, s) => (.code rc, s)

/-- The rid names the slot right behind the last slot of an existing page. -/
def PastLastSlot (s : DmsFile) (rid : DmsRecordId) : Prop :=
  ∃ page, s.pageToOffset rid.pageId = some page ∧
    rid.slotId = pageNumSlots s.memory page

/-- An open file just created: `initialize` on an empty file returned `EDB_OK`. -/
def Fresh (s : DmsFile) : Prop :=
  ∃ strdup opened answers disk, disk.size = 0 ∧
    initializeFile strdup opened answers disk = some (edbOk, s)

/-- Destroy the object and initialise a new one on the same file, with every
system call granted. -/
def reopen (s : DmsFile) : Option (ReturnCode × DmsFile) :=
  initializeFile true none [.granted] s.destroy

end DmsFile

/-! ### Runs -/

/-- The completed calls of a run. -/
abbrev DmsTrace := List (Transition DmsFile DmsOp DmsReply)

/-- What a completed call did to the record ids, judged by its reply alone. -/
def eventOf : DmsOp → DmsReply → StoreEvent DmsRecordId (List UInt8)
  | .insert _ record, .inserted (.returns ⟨_, _, some rid⟩) => .put rid record.bytes
  | .remove rid, .code rc => if rc = edbOk then .delete rid else .keep
  | _, _ => .keep

/-- Only `remove` deletes, and only its own rid. -/
theorem eventOf_eq_delete {op : DmsOp} {reply : DmsReply} {rid : DmsRecordId}
    (deleted : eventOf op reply = .delete rid) : op = .remove rid := by
  unfold eventOf at deleted
  split at deleted
  · cases deleted
  · split at deleted
    · cases deleted
      rfl
    · cases deleted
  · cases deleted

/-- The events of a run. -/
def history (trace : DmsTrace) : List (StoreEvent DmsRecordId (List UInt8)) :=
  trace.map fun call => eventOf call.action call.reply

/-- The rids that the inserts of a run returned. -/
def issuedRids (trace : DmsTrace) : List DmsRecordId :=
  StoreEvent.issued (history trace)

/-- The rids that were removed in a run. -/
def removedRids (trace : DmsTrace) : List DmsRecordId :=
  StoreEvent.deleted (history trace)

/-- The bytes a run says are stored under a rid. -/
def liveBytes (trace : DmsTrace) : DmsRecordId → Option (List UInt8) :=
  StoreEvent.contents (history trace)

@[simp] theorem history_append_singleton (trace : DmsTrace)
    (call : Transition DmsFile DmsOp DmsReply) :
    history (trace ++ [call]) = history trace ++ [eventOf call.action call.reply] := by
  simp [history]

theorem liveBytes_append_singleton (trace : DmsTrace)
    (call : Transition DmsFile DmsOp DmsReply) :
    liveBytes (trace ++ [call]) = (eventOf call.action call.reply).apply (liveBytes trace) := by
  rw [liveBytes, history_append_singleton, StoreEvent.contents_append_singleton]
  rfl

/-- Only rids that an earlier insert returned are removed. -/
def removesIssued (trace : DmsTrace) (_ : DmsFile) : DmsOp → Prop
  | .remove rid => rid ∈ issuedRids trace
  | _ => True

/-- Only rids that an earlier insert returned are removed or looked up. -/
def ridsIssued (trace : DmsTrace) (_ : DmsFile) : DmsOp → Prop
  | .remove rid => rid ∈ issuedRids trace
  | .find rid => rid ∈ issuedRids trace
  | _ => True

/-- Any rid may be removed or looked up, except for the slot right behind the
last one of a page. -/
def withinSlots (_ : DmsTrace) (s : DmsFile) : DmsOp → Prop
  | .remove rid => ¬ s.PastLastSlot rid
  | .find rid => ¬ s.PastLastSlot rid
  | _ => True

/-- The runs of calls on an open file. -/
abbrev Session (allowed : DmsTrace → DmsFile → DmsOp → Prop) (start : DmsFile)
    (trace : DmsTrace) (s : DmsFile) : Prop :=
  Run DmsFile.exec allowed start trace s

end EmeraldDb
