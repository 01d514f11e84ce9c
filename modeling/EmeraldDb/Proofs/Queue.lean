/-
Module: EmeraldDb.Proofs.Queue
Purpose: ossQueue is first in, first out for any number of threads, and no wakeup is lost:
  while a consumer sleeps, every queued value has a thread that is about to see to it.
Trusted boundary: none
Main exports: QueueMove, QueueCoupled, queue_linearizable, queue_noLostWakeup,
  postEvent_queueSpec, takeEvent_queueSpec
-/
import Mathlib.Data.Finset.Card
import EmeraldDb.Oss.Queue
import EmeraldDb.Pmd.EduMgr

namespace EmeraldDb

section Queue

variable {Data : Type}

/-! ### One step of a thread -/

/-- The function can be there. -/
def QueueOp.Suits (op : QueueOp Data) : QueuePosition Data → Prop
  | .notifying => ∃ data, op = .push data
  | .waiting => op.Waits
  | .woken => op.Waits
  | .timedOut => op = .timedWaitAndPop
  | _ => True

/-- The reply of a call from the step on in which it takes effect. -/
def queueTaken : QueuePosition Data → Option (QueueReply Data)
  | .notifying => some .pushed
  | .finished reply => some reply
  | _ => none

/-- What a step of thread `t` can do. -/
inductive QueueMove (t : Nat) (op : QueueOp Data) (s : OssQueue Data) :
    QueuePosition Data → QueuePosition Data → OssQueue Data → Prop where
  | answers {before : QueuePosition Data} {reply : QueueReply Data}
      (first : before = .entered ∨ before = .timedOut)
      (call : QueueSpec s.queue op reply s.queue) :
      QueueMove t op s before (.finished reply) s
  | pushes {data : Data} (isPush : op = .push data) :
      QueueMove t op s .entered .notifying { s with queue := s.queue ++ [data] }
  | pops {before : QueuePosition Data} {value : Data} {rest : List Data}
      (first : before = .entered ∨ before = .woken) (front : s.queue = value :: rest)
      (call : QueueSpec s.queue op (.popped (some value)) rest) :
      QueueMove t op s before (.finished (.popped (some value))) { s with queue := rest }
  | sleeps {before : QueuePosition Data} (first : before = .entered ∨ before = .woken)
      (waits : op.Waits) (nothing : s.queue = []) :
      QueueMove t op s before .waiting { s with waiting := insert t s.waiting }
  | notifiesNobody (nobody : s.waiting = ∅) : QueueMove t op s .notifying (.finished .pushed) s
  | notifies {u : Nat} (sleeps : u ∈ s.waiting) :
      QueueMove t op s .notifying (.finished .pushed) { s with waiting := s.waiting.erase u }
  | notified (waits : op.Waits) (notSleeping : t ∉ s.waiting) :
      QueueMove t op s .waiting .woken s
  | wakes {after : QueuePosition Data} (sleeps : t ∈ s.waiting) (suits : op.Suits after)
      (untaken : queueTaken after = none) :
      QueueMove t op s .waiting after { s with waiting := s.waiting.erase t }

section Moves

variable {t : Nat} {op : QueueOp Data} {env : QueueEnv} {s s' : OssQueue Data}
  {before after : QueuePosition Data}

theorem look_move (first : before = .entered ∨ before = .woken) (waits : op.Waits)
    (looked : s.look t = (after, s')) : QueueMove t op s before after s' := by
  rw [OssQueue.look] at looked
  split at looked
  next nothing =>
    cases looked
    exact .sleeps first waits nothing
  next value rest front =>
    cases looked
    exact .pops first front (.waitAndPop waits front)

theorem enter_move (entered : s.enter t op = (after, s')) :
    QueueMove t op s .entered after s' := by
  cases op with
  | size =>
      cases entered
      exact .answers (.inl rfl) .size
  | push data =>
      cases entered
      exact .pushes rfl
  | empty =>
      cases entered
      exact .answers (.inl rfl) .empty
  | tryPop =>
      rw [OssQueue.enter] at entered
      split at entered
      next nothing =>
        cases entered
        exact .answers (.inl rfl) (.nothingToPop nothing)
      next value rest front =>
        cases entered
        exact .pops (.inl rfl) front (.tryPop front)
  | waitAndPop => exact look_move (.inl rfl) trivial entered
  | timedWaitAndPop => exact look_move (.inl rfl) trivial entered

theorem endWait_move (waits : op.Waits) (ended : s.endWait t op env = some (after, s')) :
    QueueMove t op s .waiting after s' := by
  unfold OssQueue.endWait at ended
  split at ended
  next notSleeping =>
    cases ended
    exact .notified waits notSleeping
  next sleeping =>
    have sleeps := not_not.mp sleeping
    split at ended
    next =>
      cases ended
      exact .wakes sleeps waits rfl
    next =>
      cases ended
      exact .wakes sleeps rfl rfl
    next => cases ended

/-- Every step is one of these moves. -/
theorem queue_move (suits : op.Suits before)
    (step : s.step t op env before = some (after, s')) : QueueMove t op s before after s' := by
  cases before with
  | entered => exact enter_move (Option.some.inj step)
  | notifying =>
      obtain ⟨s₁, notified, same⟩ := Option.map_eq_some_iff.mp step
      cases same
      unfold OssQueue.notifyOne at notified
      split at notified
      next nobody =>
        cases notified
        exact .notifiesNobody nobody
      next =>
        split at notified
        next u =>
          split at notified
          next sleeps =>
            cases notified
            exact .notifies sleeps
          next => cases notified
        next => cases notified
  | waiting => exact endWait_move suits step
  | woken => exact look_move (.inr rfl) suits (Option.some.inj step)
  | timedOut =>
      obtain rfl : op = .timedWaitAndPop := suits
      cases step
      exact .answers (.inr rfl) .timedOut
  | finished reply => cases step

/-- A move leads where the function can be. -/
theorem QueueMove.suits (move : QueueMove t op s before after s') : op.Suits after := by
  cases move with
  | answers first call => trivial
  | pushes isPush => exact ⟨_, isPush⟩
  | pops first front call => trivial
  | sleeps first waits nothing => exact waits
  | notifiesNobody nobody => trivial
  | notifies sleeps => trivial
  | notified waits notSleeping => exact waits
  | wakes sleeps suits untaken => exact suits

/-- A move does not show, or it is the step of the queue that the reply tells of. -/
theorem QueueMove.shows (move : QueueMove t op s before after s') :
    (queueTaken after = queueTaken before ∧ s'.queue = s.queue) ∨
      ∃ reply, queueTaken before = none ∧ queueTaken after = some reply ∧
        QueueSpec s.queue op reply s'.queue := by
  cases move with
  | answers first call =>
      refine .inr ⟨_, ?_, rfl, call⟩
      rcases first with rfl | rfl <;> rfl
  | pushes isPush =>
      subst isPush
      exact .inr ⟨_, rfl, rfl, .push _⟩
  | pops first front call =>
      refine .inr ⟨_, ?_, rfl, call⟩
      rcases first with rfl | rfl <;> rfl
  | sleeps first waits nothing =>
      refine .inl ⟨?_, rfl⟩
      rcases first with rfl | rfl <;> rfl
  | notifiesNobody nobody => exact .inl ⟨rfl, rfl⟩
  | notifies sleeps => exact .inl ⟨rfl, rfl⟩
  | notified waits notSleeping => exact .inl ⟨rfl, rfl⟩
  | wakes sleeps suits untaken => exact .inl ⟨untaken, rfl⟩

end Moves

/-! ### What every run keeps -/

/-- The thread is between the push and `notify_one`, or was woken and has not looked at the
queue since. -/
def Busy (threads : QueueThreads Data) (u : Nat) : Prop :=
  ∃ op position, threads.inside u = some (op, position) ∧
    (position = .notifying ∨ position = .woken ∨
      position = .waiting ∧ u ∉ threads.object.waiting)

/-- Nobody sleeps, or every queued value has a busy thread of its own. -/
def Attended (threads : QueueThreads Data) : Prop :=
  threads.object.waiting = ∅ ∨
    ∃ busy : Finset Nat, threads.object.queue.length ≤ busy.card ∧ ∀ u ∈ busy, Busy threads u

/-- The sleepers are in a wait, the positions make sense, and the queue is attended to. -/
structure QueueCoupled (threads : QueueThreads Data) (queue : List Data) : Prop where
  same : threads.object.queue = queue
  suits : ∀ t op position, threads.inside t = some (op, position) → op.Suits position
  sleepers : ∀ u ∈ threads.object.waiting, ∃ op, threads.inside u = some (op, .waiting)
  attended : Attended threads

section Keep

variable {threads : QueueThreads Data} {queue : List Data} {t u : Nat} {op : QueueOp Data}
  {before after : QueuePosition Data} {s' : OssQueue Data}

/-- Another thread stays busy, if it does not fall asleep. -/
theorem Busy.move {stand : Option (QueueOp Data × QueuePosition Data)} (busy : Busy threads u)
    (other : u ≠ t) (awake : u ∈ s'.waiting → u ∈ threads.object.waiting) :
    Busy (threads.move s' t stand) u := by
  obtain ⟨op, position, inside, busy⟩ := busy
  refine ⟨op, position, (Threads.move_inside_of_ne _ _ _ other).trans inside, ?_⟩
  exact busy.imp_right (Or.imp_right fun ⟨waits, notSleeping⟩ => ⟨waits, notSleeping ∘ awake⟩)

/-- The busy threads but the one that moves, if nobody falls asleep. -/
theorem busy_others {stand : Option (QueueOp Data × QueuePosition Data)} {busy : Finset Nat}
    (all : ∀ u ∈ busy, Busy threads u)
    (awake : ∀ u, u ∈ s'.waiting → u ∈ threads.object.waiting) :
    ∀ u ∈ busy.erase t, Busy (threads.move s' t stand) u := by
  intro u member
  obtain ⟨other, inBusy⟩ := Finset.mem_erase.mp member
  exact (all u inBusy).move other (awake u)

/-- A sleeper is not busy. -/
theorem QueueCoupled.not_busy (coupled : QueueCoupled threads queue)
    (sleeps : u ∈ threads.object.waiting) : ¬ Busy threads u := by
  rintro ⟨op, position, inside, busy⟩
  obtain ⟨op', inside'⟩ := coupled.sleepers u sleeps
  rw [inside'] at inside
  cases inside
  rcases busy with notifying | woken | ⟨-, awake⟩
  · cases notifying
  · cases woken
  · exact awake sleeps

/-- Only a thread in a wait sleeps. -/
theorem QueueCoupled.not_sleeping (coupled : QueueCoupled threads queue)
    (inside : threads.inside t = some (op, before)) (elsewhere : before ≠ .waiting) :
    t ∉ threads.object.waiting := by
  intro sleeps
  obtain ⟨op', inside'⟩ := coupled.sleepers t sleeps
  rw [inside] at inside'
  cases inside'
  exact elsewhere rfl

theorem not_mem_busy {busy : Finset Nat} (all : ∀ u ∈ busy, Busy threads u)
    (inside : threads.inside t = some (op, before)) (notNotifying : before ≠ .notifying)
    (notWoken : before ≠ .woken) (notWaiting : before ≠ .waiting) : t ∉ busy := by
  intro member
  obtain ⟨op', position, inside', busy⟩ := all t member
  rw [inside] at inside'
  cases inside'
  rcases busy with notifying | woken | ⟨waiting, -⟩
  · exact notNotifying notifying
  · exact notWoken woken
  · exact notWaiting waiting

/-- Every move leaves the queue attended to. -/
theorem QueueCoupled.attended_move (coupled : QueueCoupled threads queue)
    (inside : threads.inside t = some (op, before))
    (move : QueueMove t op threads.object before after s') :
    Attended (threads.move s' t (some (op, after))) := by
  have here : (threads.move s' t (some (op, after))).inside t = some (op, after) :=
    Threads.move_inside_self _ _ _ _
  cases move with
  | answers first call =>
      refine coupled.attended.imp_right ?_
      rintro ⟨busy, enough, all⟩
      have notMine : t ∉ busy := by
        rcases first with rfl | rfl
        · exact not_mem_busy all inside nofun nofun nofun
        · exact not_mem_busy all inside nofun nofun nofun
      refine ⟨busy.erase t, ?_, busy_others all fun _ => id⟩
      rwa [Finset.erase_eq_of_notMem notMine]
  | pushes isPush =>
      -- the thread that pushed is about to notify
      refine coupled.attended.imp_right ?_
      rintro ⟨busy, enough, all⟩
      have notMine : t ∉ busy := not_mem_busy all inside nofun nofun nofun
      refine ⟨insert t busy, ?_, ?_⟩
      · rw [Finset.card_insert_of_notMem notMine, Threads.move_object, List.length_append]
        exact Nat.add_le_add_right enough 1
      · rw [Finset.forall_mem_insert]
        refine ⟨⟨op, .notifying, here, .inl rfl⟩, ?_⟩
        intro u member
        refine (all u member).move ?_ id
        rintro rfl
        exact notMine member
  | pops first front call =>
      refine coupled.attended.imp_right ?_
      rintro ⟨busy, enough, all⟩
      refine ⟨busy.erase t, ?_, busy_others all fun _ => id⟩
      rw [front, List.length_cons] at enough
      have fewer := Finset.pred_card_le_card_erase (s := busy) (a := t)
      dsimp only [Threads.move_object]
      omega
  | sleeps first waits nothing =>
      refine .inr ⟨∅, ?_, by simp⟩
      rw [Threads.move_object, nothing]
      exact Nat.le_refl _
  | notifiesNobody nobody => exact .inl nobody
  | notifies sleeps =>
      rename_i u
      -- the thread that is woken takes the place of the one that notified
      refine .inr ?_
      rcases coupled.attended with nobody | ⟨busy, enough, all⟩
      · rw [nobody] at sleeps
        exact absurd sleeps (Finset.notMem_empty u)
      · obtain ⟨op', waiting⟩ := coupled.sleepers u sleeps
        have other : u ≠ t := by
          rintro rfl
          rw [inside] at waiting
          cases waiting
        have notBusy : u ∉ busy.erase t := fun member =>
          coupled.not_busy sleeps (all u (Finset.mem_of_mem_erase member))
        refine ⟨insert u (busy.erase t), ?_, ?_⟩
        · rw [Finset.card_insert_of_notMem notBusy]
          have fewer := Finset.pred_card_le_card_erase (s := busy) (a := t)
          dsimp only [Threads.move_object]
          omega
        · rw [Finset.forall_mem_insert]
          refine ⟨⟨op', .waiting, ?_, .inr (.inr ⟨rfl, Finset.notMem_erase u _⟩)⟩,
            busy_others all fun _ => Finset.mem_of_mem_erase⟩
          rw [Threads.move_inside_of_ne _ _ _ other, waiting]
  | notified waits notSleeping =>
      refine coupled.attended.imp_right ?_
      rintro ⟨busy, enough, all⟩
      refine ⟨busy, enough, ?_⟩
      intro u member
      by_cases mine : u = t
      · subst mine
        exact ⟨op, .woken, here, .inr (.inl rfl)⟩
      · exact (all u member).move mine id
  | wakes sleeps suits untaken =>
      rcases coupled.attended with nobody | ⟨busy, enough, all⟩
      · rw [nobody] at sleeps
        exact absurd sleeps (Finset.notMem_empty t)
      · refine .inr ⟨busy.erase t, ?_, busy_others all fun _ => Finset.mem_of_mem_erase⟩
        have notMine : t ∉ busy := fun member => coupled.not_busy sleeps (all t member)
        rwa [Finset.erase_eq_of_notMem notMine]

/-- Every move leaves the sleepers in their waits. -/
theorem QueueCoupled.sleepers_move (coupled : QueueCoupled threads queue)
    (inside : threads.inside t = some (op, before))
    (move : QueueMove t op threads.object before after s') :
    ∀ u ∈ s'.waiting, ∃ op', (threads.move s' t (some (op, after))).inside u =
      some (op', .waiting) := by
  have others : ∀ u ∈ threads.object.waiting, u ≠ t →
      ∃ op', (threads.move s' t (some (op, after))).inside u = some (op', .waiting) := by
    intro u sleeps other
    rw [Threads.move_inside_of_ne _ _ _ other]
    exact coupled.sleepers u sleeps
  have elsewhere : before ≠ .waiting → ∀ u ∈ threads.object.waiting, u ≠ t := by
    rintro notWaiting u sleeps rfl
    exact coupled.not_sleeping inside notWaiting sleeps
  intro u sleeps'
  cases move with
  | answers first call =>
      refine others u sleeps' (elsewhere ?_ u sleeps')
      rcases first with rfl | rfl <;> nofun
  | pushes isPush => exact others u sleeps' (elsewhere nofun u sleeps')
  | pops first front call =>
      refine others u sleeps' (elsewhere ?_ u sleeps')
      rcases first with rfl | rfl <;> nofun
  | sleeps first waits nothing =>
      by_cases mine : u = t
      · subst mine
        exact ⟨op, Threads.move_inside_self _ _ _ _⟩
      · exact others u (Finset.mem_of_mem_insert_of_ne sleeps' mine) mine
  | notifiesNobody nobody => exact others u sleeps' (elsewhere nofun u sleeps')
  | notifies sleeps =>
      have member := Finset.mem_of_mem_erase sleeps'
      exact others u member (elsewhere nofun u member)
  | notified waits notSleeping =>
      refine others u sleeps' ?_
      rintro rfl
      exact notSleeping sleeps'
  | wakes sleeps suits untaken =>
      obtain ⟨other, member⟩ := Finset.mem_erase.mp sleeps'
      exact others u member other

/-- The other threads stay where they are. -/
theorem QueueCoupled.suits_move (coupled : QueueCoupled threads queue)
    {stand : Option (QueueOp Data × QueuePosition Data)}
    (mine : ∀ op position, stand = some (op, position) → op.Suits position) :
    ∀ u op position, (threads.move s' t stand).inside u = some (op, position) →
      op.Suits position := by
  intro u op position inside
  by_cases here : u = t
  · subst here
    rw [Threads.move_inside_self] at inside
    exact mine op position inside
  · rw [Threads.move_inside_of_ne _ _ _ here] at inside
    exact coupled.suits u op position inside

/-- A thread that enters or leaves a function. -/
theorem QueueCoupled.outside (coupled : QueueCoupled threads queue)
    {stand : Option (QueueOp Data × QueuePosition Data)}
    (notBusy : ¬ Busy threads t) (notSleeping : t ∉ threads.object.waiting)
    (mine : ∀ op position, stand = some (op, position) → op.Suits position) :
    QueueCoupled (threads.move threads.object t stand) queue where
  same := coupled.same
  suits := coupled.suits_move mine
  sleepers := by
    intro u sleeps
    have other : u ≠ t := by
      rintro rfl
      exact notSleeping sleeps
    rw [Threads.move_inside_of_ne _ _ _ other]
    exact coupled.sleepers u sleeps
  attended := by
    refine coupled.attended.imp_right ?_
    rintro ⟨busy, enough, all⟩
    refine ⟨busy, enough, ?_⟩
    intro u member
    refine (all u member).move ?_ id
    rintro rfl
    exact notBusy (all u member)

end Keep

/-! ### Runs -/

/-- The shared queue simulates a list. -/
theorem queue_simulates : Simulates (@queueCode Data) (fun _ _ _ => True) QueueSpec []
    queueTaken QueueCoupled where
  entered := fun _ => rfl
  finished := by
    intro position reply returned
    cases position with
    | finished reply' => exact returned
    | _ => cases returned
  call := by
    intro trace threads order queue t op coupled _ _ outside
    refine coupled.outside ?_ ?_ ?_
    · rintro ⟨op', position, inside, -⟩
      rw [outside] at inside
      cases inside
    · intro sleeps
      obtain ⟨op', inside⟩ := coupled.sleepers t sleeps
      rw [outside] at inside
      cases inside
    · rintro op' position ⟨⟩
      trivial
  step := by
    intro threads queue t op env before after s' coupled inside step
    have move := queue_move (coupled.suits t op before inside) step
    have stands : ∀ op' position, some (op, after) = some (op', position) →
        op'.Suits position := by
      rintro op' position ⟨⟩
      exact move.suits
    have sleepers := coupled.sleepers_move inside move
    have attended := coupled.attended_move inside move
    have queued := coupled.same
    rcases move.shows with ⟨same, kept⟩ | ⟨reply, untaken, takes, call⟩
    · exact .inl ⟨same, kept.trans queued, coupled.suits_move stands, sleepers, attended⟩
    · rw [queued] at call
      exact .inr ⟨reply, s'.queue, untaken, takes, call, rfl, coupled.suits_move stands,
        sleepers, attended⟩
  ret := by
    intro threads queue t op position reply coupled inside returned
    cases position with
    | finished reply' =>
        refine coupled.outside ?_ (coupled.not_sleeping inside nofun) nofun
        rintro ⟨op', position, inside', busy⟩
        rw [inside] at inside'
        cases inside'
        rcases busy with notifying | woken | ⟨waiting, -⟩
        · cases notifying
        · cases woken
        · cases waiting
    | _ => cases returned

theorem QueueCoupled.start : QueueCoupled (.start .init) ([] : List Data) where
  same := rfl
  suits := nofun
  sleepers := by simp [Threads.start, OssQueue.init]
  attended := .inl rfl

/-- What was pushed is what was popped and what is queued, in one order. -/
theorem legal_pushed_eq {order : List (Effect (QueueOp Data) (QueueReply Data))}
    {queue : List Data} (legal : Legal QueueSpec [] order queue) :
    pushedValues order = poppedValues order ++ queue := by
  induction legal with
  | start => rfl
  | @effect order queue queue' e past call ih =>
      obtain ⟨t, op, reply, called⟩ := e
      have pushed : pushedValues (order ++ [⟨t, op, reply, called⟩]) =
          pushedValues order ++ pushedValues [⟨t, op, reply, called⟩] :=
        List.filterMap_append
      have popped : poppedValues (order ++ [⟨t, op, reply, called⟩]) =
          poppedValues order ++ poppedValues [⟨t, op, reply, called⟩] :=
        List.filterMap_append
      rw [pushed, popped, ih]
      cases call with
      | size => simp [pushedValues, poppedValues]
      | push data => simp [pushedValues, poppedValues]
      | empty => simp [pushedValues, poppedValues]
      | tryPop front => simp [pushedValues, poppedValues, front]
      | nothingToPop nothing => simp [pushedValues, poppedValues]
      | waitAndPop waits front =>
          cases op with
          | waitAndPop => simp [pushedValues, poppedValues, front]
          | timedWaitAndPop => simp [pushedValues, poppedValues, front]
          | _ => exact waits.elim
      | timedOut => simp [pushedValues, poppedValues]

section Runs

variable {trace : QueueTrace Data} {threads : QueueThreads Data}

/-- In every interleaving of any number of threads the queue is first in, first out: one
order of the calls explains every reply and agrees with real time, and in it the values
that were pushed are the values that were popped, and behind them those still queued. -/
theorem queue_linearizable (run : QueueRun trace threads) :
    ∃ order, Linearization QueueSpec [] (clientHistory trace) order threads.object.queue ∧
      pushedValues order = poppedValues order ++ threads.object.queue := by
  obtain ⟨order, queue, linearization, coupled, -⟩ := queue_simulates.linearization .start run
  obtain rfl := coupled.same
  exact ⟨order, linearization, legal_pushed_eq linearization.legal⟩

/-- A consumer sleeps, and another thread has pushed a value. -/
theorem exists_onePush : ∃ (trace : QueueTrace Nat) (threads : QueueThreads Nat),
    QueueRun trace threads ∧ threads.object = ⟨[7], {0}⟩ ∧
      clientHistory trace = [.call 0 .waitAndPop, .call 1 (.push 7)] := by
  let new : QueueThreads Nat := .start .init
  let called := new.move .init 0 (some (.waitAndPop, .entered))
  let asleep := called.move ⟨[], {0}⟩ 0 (some (.waitAndPop, .waiting))
  let pushing := asleep.move ⟨[], {0}⟩ 1 (some (.push 7, .entered))
  let pushed := pushing.move ⟨[7], {0}⟩ 1 (some (.push 7, .notifying))
  have first : queueCode.exec (.call 0 .waitAndPop) new =
      some (some (.call 0 .waitAndPop), called) := rfl
  have second : queueCode.exec (.step 0 .spurious) called = some (none, asleep) := rfl
  have third : queueCode.exec (.call 1 (.push 7)) asleep =
      some (some (.call 1 (.push 7)), pushing) := rfl
  have fourth : queueCode.exec (.step 1 .spurious) pushing = some (none, pushed) := rfl
  have run : QueueRun _ pushed :=
    (((Run.start.step trivial first).step trivial second).step trivial third).step trivial fourth
  exact ⟨_, pushed, run, rfl, rfl⟩

/-- A consumer that sleeps and a value that was pushed have an order. -/
theorem queue_linearizable_onePush : ∃ order : List (Effect (QueueOp Nat) (QueueReply Nat)),
    Linearization QueueSpec [] [.call 0 .waitAndPop, .call 1 (.push 7)] order [7] ∧
      pushedValues order = poppedValues order ++ [7] := by
  obtain ⟨trace, threads, run, object, history⟩ := exists_onePush
  obtain ⟨order, linearization, values⟩ := queue_linearizable run
  rw [history, object] at linearization
  rw [object] at values
  exact ⟨order, linearization, values⟩

/-- The thread can go on without a wakeup that nobody sent, or return. -/
def GoesOn (threads : QueueThreads Data) (u : Nat) : Prop :=
  (∃ woken, queueCode.exec (.step u (.notifies woken)) threads ≠ none) ∨
    queueCode.exec (.ret u) threads ≠ none

/-- A busy thread can go on. -/
theorem Busy.goesOn {u : Nat} (busy : Busy threads u) : GoesOn threads u := by
  obtain ⟨op, position, inside, busy⟩ := busy
  have steps : ∀ woken, threads.object.step u op (.notifies woken) position ≠ none →
      queueCode.exec (.step u (.notifies woken)) threads ≠ none := by
    intro woken completes
    rw [ObjectCode.exec, inside]
    simpa [queueCode] using completes
  rcases busy with rfl | rfl | ⟨rfl, notSleeping⟩
  · rcases threads.object.waiting.eq_empty_or_nonempty with nobody | ⟨woken, sleeps⟩
    · refine .inl ⟨0, steps 0 ?_⟩
      simp [OssQueue.step, OssQueue.notifyOne, nobody]
    · refine .inl ⟨woken, steps woken ?_⟩
      have somebody : threads.object.waiting ≠ ∅ := Finset.ne_empty_of_mem sleeps
      simp [OssQueue.step, OssQueue.notifyOne, somebody, sleeps]
  · exact .inl ⟨0, steps 0 (Option.some_ne_none _)⟩
  · refine .inl ⟨0, steps 0 ?_⟩
    simp [OssQueue.step, OssQueue.endWait, notSleeping]

/-- No wakeup is lost: while a consumer sleeps, there are as many threads as queued values
that are about to notify, or were woken and have not looked at the queue since, and each of
them can go on. -/
theorem queue_noLostWakeup (run : QueueRun trace threads) {t : Nat}
    (sleeps : t ∈ threads.object.waiting) :
    ∃ busy : Finset Nat, threads.object.queue.length ≤ busy.card ∧
      ∀ u ∈ busy, Busy threads u ∧ GoesOn threads u := by
  obtain ⟨order, queue, -, coupled, -⟩ := queue_simulates.linearization .start run
  rcases coupled.attended with nobody | ⟨busy, enough, all⟩
  · rw [nobody] at sleeps
    exact absurd sleeps (Finset.notMem_empty t)
  · exact ⟨busy, enough, fun u member => ⟨all u member, (all u member).goesOn⟩⟩

/-- The thread that pushed the value is about to notify the consumer. -/
theorem queue_noLostWakeup_onePush : ∃ threads : QueueThreads Nat,
    threads.object = ⟨[7], {0}⟩ ∧ ∃ u, GoesOn threads u := by
  obtain ⟨trace, threads, run, object, -⟩ := exists_onePush
  have sleeps : 0 ∈ threads.object.waiting := by
    rw [object]
    exact Finset.mem_singleton_self 0
  obtain ⟨busy, enough, all⟩ := queue_noLostWakeup run sleeps
  rw [object] at enough
  obtain ⟨u, member⟩ := Finset.card_pos.mp (Nat.lt_of_lt_of_le Nat.zero_lt_one enough)
  exact ⟨threads, object, u, (all u member).2⟩

end Runs

end Queue

/-! ### The event queue of an EDU -/

/-- `postEvent` is a `push` on the queue of the control block. -/
theorem postEvent_queueSpec {s s' : EduMgr} {p : Ptr} {event : EduEvent}
    (posted : s.postEvent p event = some s') :
    ∃ cb cb', s.blocks p = some cb ∧ s'.blocks p = some cb' ∧
      QueueSpec cb.queue (.push event) .pushed cb'.queue := by
  obtain ⟨cb, found, same⟩ := Option.map_eq_some_iff.mp posted
  cases same
  exact ⟨cb, _, found, Function.update_self _ _ _, .push event⟩

/-- `waitEvent` gets its event by a `wait_and_pop` on that queue. -/
theorem takeEvent_queueSpec {s s' : EduMgr} {p : Ptr} {event : EduEvent}
    (taken : s.takeEvent p = some (event, s')) :
    ∃ cb cb', s.blocks p = some cb ∧ s'.blocks p = some cb' ∧
      QueueSpec cb.queue .waitAndPop (.popped (some event)) cb'.queue := by
  obtain ⟨cb, found, front⟩ := Option.bind_eq_some_iff.mp taken
  split at front
  next => cases front
  next first rest queued =>
    cases front
    exact ⟨cb, _, found, Function.update_self _ _ _, .waitAndPop trivial queued⟩

end EmeraldDb
