/-
Module: EmeraldDb.Oss.Queue
Purpose: ossQueue, step by step: threads push and pop under a mutex, and a consumer that
  finds the queue empty waits on a condition variable.
Trusted boundary: human-reviewed spec; one step is one critical section of _mutex, or one
  notify_one, or one way out of a wait
Main exports: OssQueue, QueueOp, QueueReply, QueuePosition, queueCode, QueueSpec, QueueRun
-/
import Mathlib.Data.Finset.Basic
import EmeraldDb.Core
import EmeraldDb.Lib.Linearizable

namespace EmeraldDb

/-- `ossQueue`.  `waiting` are the threads that wait on `_cond` and were not woken. -/
structure OssQueue (Data : Type) where
  queue : List Data
  waiting : Finset Nat

/-- The member functions. -/
inductive QueueOp (Data : Type) where
  | size
  | push (data : Data)
  | empty
  | tryPop
  | waitAndPop
  | timedWaitAndPop

/-- What they hand back; `popped none` is the answer `false`. -/
inductive QueueReply (Data : Type) where
  | size (count : Nat)
  | pushed
  | empty (answer : Bool)
  | popped (value : Option Data)

/-- Where a thread stands in a member function. -/
inductive QueuePosition (Data : Type) where
  /-- in front of the first critical section -/
  | entered
  /-- behind `lock.unlock()` in `push`, in front of `notify_one` -/
  | notifying
  /-- in `wait` or `timed_wait` -/
  | waiting
  /-- out of the wait, and about to lock the mutex again -/
  | woken
  /-- out of a `timed_wait` that answered `false` -/
  | timedOut
  | finished (reply : QueueReply Data)

/-- What the scheduler decides: whom `notify_one` wakes, and how else a wait ends. -/
inductive QueueEnv where
  | notifies (thread : Nat)
  | spurious
  | timeout

section Code

variable {Data : Type}

/-- The functions that wait. -/
def QueueOp.Waits : QueueOp Data → Prop
  | .waitAndPop => True
  | .timedWaitAndPop => True
  | _ => False

/-- The test of the `while` loop under the mutex, and what follows it: the thread waits, or
takes the front. -/
def OssQueue.look (t : Nat) (s : OssQueue Data) : QueuePosition Data × OssQueue Data :=
  match s.queue with
  | [] => (.waiting, { s with waiting := insert t s.waiting })
  | value :: rest => (.finished (.popped (some value)), { s with queue := rest })

/-- The first critical section of each function. -/
def OssQueue.enter (t : Nat) (s : OssQueue Data) :
    QueueOp Data → QueuePosition Data × OssQueue Data
  | .size => (.finished (.size (toU32 s.queue.length)), s)
  | .push data => (.notifying, { s with queue := s.queue ++ [data] })
  | .empty => (.finished (.empty s.queue.isEmpty), s)
  | .tryPop =>
      match s.queue with
      | [] => (.finished (.popped none), s)
      | value :: rest => (.finished (.popped (some value)), { s with queue := rest })
  | .waitAndPop => s.look t
  | .timedWaitAndPop => s.look t

/-- `notify_one` wakes one of the waiting threads, if there is one. -/
def OssQueue.notifyOne (env : QueueEnv) (s : OssQueue Data) : Option (OssQueue Data) :=
  if s.waiting = ∅ then some s
  else
    match env with
    | .notifies u =>
        if u ∈ s.waiting then some { s with waiting := s.waiting.erase u } else none
    | _ => none

/-- The end of a wait: the thread was notified, or woke up by itself, or its time is over. -/
def OssQueue.endWait (t : Nat) (op : QueueOp Data) (env : QueueEnv) (s : OssQueue Data) :
    Option (QueuePosition Data × OssQueue Data) :=
  if t ∉ s.waiting then some (.woken, s)
  else
    match env, op with
    | .spurious, _ => some (.woken, { s with waiting := s.waiting.erase t })
    | .timeout, .timedWaitAndPop => some (.timedOut, { s with waiting := s.waiting.erase t })
    | _, _ => none

/-- The next step of a thread. -/
def OssQueue.step (t : Nat) (op : QueueOp Data) (env : QueueEnv) (s : OssQueue Data) :
    QueuePosition Data → Option (QueuePosition Data × OssQueue Data)
  | .entered => some (s.enter t op)
  | .notifying => (s.notifyOne env).map fun s => (.finished .pushed, s)
  | .waiting => s.endWait t op env
  | .woken => some (s.look t)
  | .timedOut => some (.finished (.popped none), s)
  | .finished _ => none

/-- The reply, at the end of a call. -/
def queueResult : QueuePosition Data → Option (QueueReply Data)
  | .finished reply => some reply
  | _ => none

/-- A queue that threads share. -/
def queueCode : ObjectCode (OssQueue Data) (QueueOp Data) QueueEnv (QueuePosition Data)
    (QueueReply Data) where
  enter _ := .entered
  step := OssQueue.step
  result := queueResult

end Code

/-- The new queue. -/
def OssQueue.init {Data : Type} : OssQueue Data := ⟨[], ∅⟩

/-- The queue, and where each thread stands. -/
abbrev QueueThreads (Data : Type) := Threads (OssQueue Data) (QueueOp Data) (QueuePosition Data)

/-- The steps of a run. -/
abbrev QueueTrace (Data : Type) :=
  ThreadTrace (OssQueue Data) (QueueOp Data) QueueEnv (QueuePosition Data) (QueueReply Data)

/-- The runs of any number of threads on a new queue, in every interleaving. -/
abbrev QueueRun {Data : Type} (trace : QueueTrace Data) (threads : QueueThreads Data) : Prop :=
  Run queueCode.exec (fun _ _ _ => True) (.start .init) trace threads

/-- First in, first out.  A `timed_wait_and_pop` may give up at any time. -/
inductive QueueSpec {Data : Type} (queue : List Data) :
    QueueOp Data → QueueReply Data → List Data → Prop where
  | size : QueueSpec queue .size (.size (toU32 queue.length)) queue
  | push (data : Data) : QueueSpec queue (.push data) .pushed (queue ++ [data])
  | empty : QueueSpec queue .empty (.empty queue.isEmpty) queue
  | tryPop {value : Data} {rest : List Data} (front : queue = value :: rest) :
      QueueSpec queue .tryPop (.popped (some value)) rest
  | nothingToPop (nothing : queue = []) : QueueSpec queue .tryPop (.popped none) queue
  | waitAndPop {op : QueueOp Data} {value : Data} {rest : List Data} (waits : op.Waits)
      (front : queue = value :: rest) : QueueSpec queue op (.popped (some value)) rest
  | timedOut : QueueSpec queue .timedWaitAndPop (.popped none) queue

/-- The values that an order of calls pushes. -/
def pushedValues {Data : Type} (order : List (Effect (QueueOp Data) (QueueReply Data))) :
    List Data :=
  order.filterMap fun e =>
    match e.op with
    | .push data => some data
    | _ => none

/-- The values that an order of calls pops. -/
def poppedValues {Data : Type} (order : List (Effect (QueueOp Data) (QueueReply Data))) :
    List Data :=
  order.filterMap fun e =>
    match e.reply with
    | .popped value => value
    | _ => none

end EmeraldDb
