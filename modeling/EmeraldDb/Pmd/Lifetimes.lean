/-
Module: EmeraldDb.Pmd.Lifetimes
Purpose: The server process and its data file over any number of lifetimes: it starts, serves
  requests, ends, and is started again on the file that it left.
Trusted boundary: human-reviewed spec; the operating system answers through the actions
Main exports: ServerProcess, ProcessAction, ProcessAction.perform, toldStored
-/
import EmeraldDb.Pmd.Server

namespace EmeraldDb

/-- The process does not run, or runs with `_dmsFile` open. -/
inductive ServerProcess where
  | stopped (disk : OsFile)
  | running (dmsFile : DmsFile)

/-- What happens to the process. -/
inductive ProcessAction where
  | start (allocated strdup : Bool) (opened : Option Errno) (answers : List DmsFile.InitAnswer)
  | request (asked : ServerRequest)
  | stop

inductive ProcessReply where
  | initialized (rc : ReturnCode)
  | replied (out : AgentOutcome DmsFile)
  | ended

/-- `EDB_KRCB::init` hands on the code of `rtnInitialize`, and with an error the master thread
ends the process; a request may end it, too.  The mappings are shared, so a process that ends
leaves in the file what its pages held, however it ends. -/
def ProcessAction.perform :
    ProcessAction → ServerProcess → Option (ProcessReply × ServerProcess)
  | .start allocated strdup opened answers, .stopped disk =>
      (rtnInitialize allocated strdup opened answers disk).map fun (rc, dmsFile) =>
        if rc ≠ edbOk then (.initialized rc, .stopped (rtnDestroy disk dmsFile))
        else
          (.initialized rc,
            match dmsFile with
            | none => .stopped disk
            | some file => .running file)
  | .request asked, .running file =>
      if asked.aborts then some (.ended, .stopped file.destroy)
      else (serve asked file).map fun (out, file) => (.replied out, .running file)
  | .stop, .running file => some (.ended, .stopped file.destroy)
  | _, _ => none

/-- The actions and replies of a run. -/
abbrev ProcessTrace := List (Transition ServerProcess ProcessAction ProcessReply)

/-- The object of an insert that was answered with `EDB_OK`. -/
def ProcessAction.stores : ProcessAction → ProcessReply → Option (List UInt8)
  | .request asked, .replied out => acknowledgedBy asked.received out
  | _, _ => none

/-- The objects that clients of any lifetime were told are stored, oldest first. -/
def toldStored (trace : ProcessTrace) : List (List UInt8) :=
  trace.filterMap fun call => call.action.stores call.reply

end EmeraldDb
