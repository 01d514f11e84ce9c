/-
Module: EmeraldDb.Dms.StoreThreads
Purpose: Threads that insert, remove and find on one open data file at the same time,
  and the store of records that they are to see.
Trusted boundary: human-reviewed spec; one step is one critical section of _mutex, or one
  operation on _extendMutex
Main exports: StoreOp, StorePosition, storeCode, StoreSpec, ridsReturned, StoreRun
-/
import EmeraldDb.Lib.Linearizable
import EmeraldDb.Dms.InsertThreads
import EmeraldDb.Dms.FileView
import EmeraldDb.Dms.Session

namespace EmeraldDb

open DmsFile (ExtendAnswer)

/-- The calls. -/
inductive StoreOp where
  | insert (record : BsonObj)
  | remove (rid : DmsRecordId)
  | find (rid : DmsRecordId)

/-- Where a thread stands in its call. -/
inductive StorePosition where
  | inserting (position : InsertPosition)
  /-- in front of the only critical section of `remove` and `find` -/
  | outside
  | answered (reply : DmsReply)

/-- The thread holds `_extendMutex`. -/
def StorePosition.holdsExtendMutex : StorePosition → Bool
  | .inserting position => position.holdsExtendMutex
  | _ => false

/-- Where a call begins. -/
def storeEnter : StoreOp → StorePosition
  | .insert _ => .inserting .entered
  | _ => .outside

/-- The next step of a call.  Nobody sees what `find` does under the shared latch, and
nobody changes the file meanwhile. -/
def storeStep : StoreOp → ExtendAnswer → DmsFile → StorePosition →
    Option (StorePosition × DmsFile)
  | .insert record, answer, s, .inserting position =>
      (advance record answer s position).map fun (position, s) => (.inserting position, s)
  | .remove rid, _, s, .outside =>
      (s.remove rid).map fun (rc, s) => (.answered (.code rc), s)
  | .find rid, _, s, .outside =>
      (s.find rid).map fun (completion, s) => (.answered (.found completion), s)
  | _, _, _, _ => none

/-- The reply, at the end of a call. -/
def storeResult : StorePosition → Option DmsReply
  | .inserting (.finished completion) => some (.inserted completion)
  | .answered reply => some reply
  | _ => none

/-- An open data file, shared by threads. -/
def storeCode : ObjectCode DmsFile StoreOp ExtendAnswer StorePosition DmsReply where
  enter := storeEnter
  step _ := storeStep
  result := storeResult

/-- The file, and where each thread stands. -/
abbrev StoreThreads := Threads DmsFile StoreOp StorePosition

/-- The steps of a run. -/
abbrev StoreTrace := ThreadTrace DmsFile StoreOp ExtendAnswer StorePosition DmsReply

/-- What clients see. -/
abbrev StoreEvents := List (ClientEvent StoreOp DmsReply)

/-- The store the threads are to see.  An insert puts the bytes of its record under a new
rid, or is refused and changes nothing; `remove` and `find` succeed exactly on live rids. -/
inductive StoreSpec (store : IdStore DmsRecordId (List UInt8)) :
    StoreOp → DmsReply → IdStore DmsRecordId (List UInt8) → Prop where
  | stored {record : BsonObj} {out : Nat} {rid : DmsRecordId}
      {next : IdStore DmsRecordId (List UInt8)}
      (step : IdStore.Step store (.put rid record.bytes) next) :
      StoreSpec store (.insert record) (.inserted (.returns ⟨edbOk, some out, some rid⟩)) next
  | refused {record : BsonObj} {rc : ReturnCode} {next : IdStore DmsRecordId (List UInt8)}
      (error : rc ≠ edbOk) (step : IdStore.Step store .keep next) :
      StoreSpec store (.insert record) (.inserted (.returns (.failed rc))) next
  | threw {record : BsonObj} {next : IdStore DmsRecordId (List UInt8)}
      (step : IdStore.Step store .keep next) :
      StoreSpec store (.insert record) (.inserted .throws) next
  | removed {rid : DmsRecordId} {next : IdStore DmsRecordId (List UInt8)}
      (step : IdStore.Step store (.delete rid) next) :
      StoreSpec store (.remove rid) (.code edbOk) next
  | nothingRemoved {rid : DmsRecordId} {next : IdStore DmsRecordId (List UInt8)}
      (empty : store.contents rid = none) (step : IdStore.Step store .keep next) :
      StoreSpec store (.remove rid) (.code edbSys) next
  | found {rid : DmsRecordId} {bytes : List UInt8} {next : IdStore DmsRecordId (List UInt8)}
      (held : store.contents rid = some bytes) (step : IdStore.Step store .keep next) :
      StoreSpec store (.find rid) (.found (.returns ⟨edbOk, some bytes⟩)) next
  | nothingFound {rid : DmsRecordId} {next : IdStore DmsRecordId (List UInt8)}
      (empty : store.contents rid = none) (step : IdStore.Step store .keep next) :
      StoreSpec store (.find rid) (.found (.returns ⟨edbSys, none⟩)) next

/-- The store without a rid. -/
def emptyStore : IdStore DmsRecordId (List UInt8) := FileView.empty.store

/-- An insert has returned this rid. -/
def RidReturned (history : StoreEvents) (rid : DmsRecordId) : Prop :=
  ∃ t out, .ret t (.inserted (.returns ⟨edbOk, out, some rid⟩)) ∈ history

/-- Threads ask only for rids that inserts have returned. -/
def ridsReturned (trace : StoreTrace) (_ : StoreThreads) : ThreadAction StoreOp ExtendAnswer → Prop
  | .call _ (.remove rid) => RidReturned (clientHistory trace) rid
  | .call _ (.find rid) => RidReturned (clientHistory trace) rid
  | _ => True

/-- The runs of any number of threads on an open file, in every interleaving. -/
abbrev StoreRun (file : DmsFile) (trace : StoreTrace) (threads : StoreThreads) : Prop :=
  Run storeCode.exec ridsReturned (.start file) trace threads

end EmeraldDb
