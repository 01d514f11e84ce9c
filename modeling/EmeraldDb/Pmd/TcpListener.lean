/-
Module: EmeraldDb.Pmd.TcpListener
Purpose: The entry point of the TCP listener: from the service name to the port, and the
  two loops around listen and accept.
Trusted boundary: human-reviewed spec; the socket, the EDU manager and the database status
  answer through arguments
Main exports: parsePort, sinPort, AcceptRound, ListenerPass, ListenerEvent, masterLoop,
  listenOnce, retryLoop, pmdTcpListenerEntryPoint
-/
import EmeraldDb.Pmd.Options

namespace EmeraldDb

/-! ### The port -/

/-- The loop over the service name, in an `int`.  A character that is no digit is reported
and passed over. -/
def parsePort (svcName : List UInt8) : Int :=
  svcName.foldl
    (fun port ch =>
      if 48 ≤ ch ∧ ch ≤ 57 then toI32 (toI32 (port * 10) + (ch.toNat - 48)) else port)
    0

/-- `sin_port` of `ossSocket(port)` in the order of the host: the `int` becomes an
`unsigned int`, of which `htons` keeps 16 bits. -/
def sinPort (port : Int) : Nat := toU32 port % 65536

/-! ### The loops -/

/-- `PMD_TCPLISTENER_RETRY`. -/
def pmdTcpListenerRetry : Nat := 5

/-- The answers during one turn of the master loop: whether the database is down at its
start, the code of `accept`, whether the database is down after that, and the code of
`startEDU`. -/
structure AcceptRound where
  down : Bool
  accept : ReturnCode
  downNow : Bool
  startEdu : ReturnCode

/-- The answers during one turn of the retry loop. -/
structure ListenerPass where
  down : Bool
  initSocket : ReturnCode
  bindListen : ReturnCode
  activateEdu : ReturnCode
  rounds : List AcceptRound
  waitEdu : ReturnCode

/-- What others see of the listener. -/
inductive ListenerEvent where
  /-- `bind_listen` succeeded on a port -/
  | listens (port : Nat)
  /-- an agent was started for a connection -/
  | started
  /-- a connection was closed, since no agent could be started -/
  | rejected
deriving DecidableEq, Repr

/-- How the master loop ends. -/
inductive MasterExit where
  /-- it is still running -/
  | running
  /-- the database is down, or the socket is restarted -/
  | left
  /-- `goto done` -/
  | done
deriving DecidableEq, Repr

/-- The master loop. -/
def masterLoop : List AcceptRound → List ListenerEvent × MasterExit
  | [] => ([], .running)
  | round :: rounds =>
      if round.down then ([], .left)
      else if round.accept = edbTimeout then masterLoop rounds
      else if round.accept ≠ edbOk ∧ round.downNow then ([], .done)
      else if round.accept ≠ edbOk then ([], .left)
      else
        let (events, exit) := masterLoop rounds
        -- both branches behind startEDU lead to the next turn
        ((if round.startEdu = edbOk then .started else .rejected) :: events, exit)

/-- How one turn of the retry loop ends. -/
inductive PassEnd where
  | running
  | returns (rc : ReturnCode)
  | again
deriving DecidableEq, Repr

/-- What follows the master loop. -/
def ListenerPass.afterLoop (pass : ListenerPass) : MasterExit → PassEnd
  | .running => .running
  | .done => .returns edbOk
  | .left => if pass.waitEdu ≠ edbOk then .returns pass.waitEdu else .again

/-- One turn of the retry loop. -/
def listenOnce (svcName : List UInt8) (pass : ListenerPass) : List ListenerEvent × PassEnd :=
  let port := sinPort (parsePort svcName)
  if pass.initSocket ≠ edbOk then ([], .returns pass.initSocket)
  else if pass.bindListen ≠ edbOk then ([], .returns pass.bindListen)
  else if pass.activateEdu ≠ edbOk then ([.listens port], .returns pass.activateEdu)
  else
    let (events, exit) := masterLoop pass.rounds
    (.listens port :: events, pass.afterLoop exit)

/-- The retry loop.  No code: the listener is still running. -/
def retryLoop (svcName : List UInt8) :
    Nat → List ListenerPass → List ListenerEvent × Option ReturnCode
  | retry, [] => ([], if pmdTcpListenerRetry < retry then some edbOk else none)
  | retry, pass :: passes =>
      if pmdTcpListenerRetry < retry ∨ pass.down then ([], some edbOk)
      else
        match listenOnce svcName pass with
        | (events, .running) => (events, none)
        | (events, .returns rc) => (events, some rc)
        | (events, .again) =>
            let (later, rc) := retryLoop svcName (retry + 1) passes
            (events ++ later, rc)

/-- `pmdTcpListenerEntryPoint` with the service name of the KRCB, which is copied anew in
every turn. -/
def pmdTcpListenerEntryPoint (svcName : CharArray niMaxServ) (passes : List ListenerPass) :
    List ListenerEvent × Option ReturnCode :=
  retryLoop svcName.text 0 passes

end EmeraldDb
