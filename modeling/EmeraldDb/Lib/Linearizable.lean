/-
Module: EmeraldDb.Lib.Linearizable
Purpose: Objects that threads share.  A call takes steps, with steps of other threads
  between them, before it returns.  The calls and returns of a run are linearizable if
  one sequential order of the calls explains every reply and agrees with real time.
Trusted boundary: none
Main exports: ClientEvent, ObjectCode, Threads, ThreadAction, ObjectCode.exec,
  clientHistory, LockOwned, LockOwned.step, Linearization, Simulates,
  Simulates.linearization
-/
import Mathlib.Logic.Function.Basic
import EmeraldDb.Lib.Run

/-- What the clients of a shared object see. -/
inductive ClientEvent (Op Reply : Type) where
  | call (thread : Nat) (op : Op)
  | ret (thread : Nat) (reply : Reply)

/-- The code of the calls of a shared object. -/
structure ObjectCode (Object Op Env Position Reply : Type) where
  /-- where a call begins -/
  enter : Op → Position
  /-- the next step of a thread that is in a call -/
  step : Nat → Op → Env → Object → Position → Option (Position × Object)
  /-- the reply of a call that has nothing left to do -/
  result : Position → Option Reply

/-- The object, and where each thread stands in its call, if it is in one. -/
structure Threads (Object Op Position : Type) where
  object : Object
  inside : Nat → Option (Op × Position)

/-- What a thread does next. -/
inductive ThreadAction (Op Env : Type) where
  | call (thread : Nat) (op : Op)
  | step (thread : Nat) (env : Env)
  | ret (thread : Nat)

variable {Object Op Env Position Reply Abstract : Type}

/-! ### Runs of threads -/

namespace Threads

/-- Nobody is in a call. -/
def start (object : Object) : Threads Object Op Position := ⟨object, fun _ => none⟩

/-- The object changes and a thread moves. -/
def move (threads : Threads Object Op Position) (object : Object) (t : Nat)
    (stand : Option (Op × Position)) : Threads Object Op Position :=
  ⟨object, Function.update threads.inside t stand⟩

@[simp] theorem move_object (threads : Threads Object Op Position) (object : Object) (t : Nat)
    (stand : Option (Op × Position)) : (threads.move object t stand).object = object := rfl

@[simp] theorem move_inside_self (threads : Threads Object Op Position) (object : Object)
    (t : Nat) (stand : Option (Op × Position)) :
    (threads.move object t stand).inside t = stand := by
  simp only [move, Function.update_self]

theorem move_inside_of_ne (threads : Threads Object Op Position) (object : Object) {t u : Nat}
    (stand : Option (Op × Position)) (other : u ≠ t) :
    (threads.move object t stand).inside u = threads.inside u := by
  simp only [move, Function.update_of_ne other]

end Threads

/-- One step of one thread, with what the clients see of it. -/
def ObjectCode.exec (code : ObjectCode Object Op Env Position Reply) :
    ThreadAction Op Env → Threads Object Op Position →
      Option (Option (ClientEvent Op Reply) × Threads Object Op Position)
  | .call t op, threads =>
      match threads.inside t with
      | some _ => none
      | none => some (some (.call t op), threads.move threads.object t (some (op, code.enter op)))
  | .step t env, threads =>
      match threads.inside t with
      | none => none
      | some (op, position) =>
          (code.step t op env threads.object position).map fun (position, object) =>
            (none, threads.move object t (some (op, position)))
  | .ret t, threads =>
      match threads.inside t with
      | none => none
      | some (_, position) =>
          (code.result position).map fun reply =>
            (some (.ret t reply), threads.move threads.object t none)

/-- The steps of a run of threads. -/
abbrev ThreadTrace (Object Op Env Position Reply : Type) :=
  List (Transition (Threads Object Op Position) (ThreadAction Op Env)
    (Option (ClientEvent Op Reply)))

/-- The calls and returns of a run. -/
def clientHistory (trace : ThreadTrace Object Op Env Position Reply) :
    List (ClientEvent Op Reply) :=
  trace.filterMap (·.reply)

/-- What a step is, by the kind of its action. -/
theorem ObjectCode.exec_cases {code : ObjectCode Object Op Env Position Reply}
    {action : ThreadAction Op Env} {threads next : Threads Object Op Position}
    {seen : Option (ClientEvent Op Reply)}
    (completes : code.exec action threads = some (seen, next)) :
    (∃ t op, action = .call t op ∧ threads.inside t = none ∧ seen = some (.call t op) ∧
      next = threads.move threads.object t (some (op, code.enter op))) ∨
    (∃ t env op position position' object, action = .step t env ∧
      threads.inside t = some (op, position) ∧ seen = none ∧
      code.step t op env threads.object position = some (position', object) ∧
      next = threads.move object t (some (op, position'))) ∨
    (∃ t op position reply, action = .ret t ∧ threads.inside t = some (op, position) ∧
      code.result position = some reply ∧ seen = some (.ret t reply) ∧
      next = threads.move threads.object t none) := by
  cases action with
  | call t op =>
      rw [exec] at completes
      split at completes
      next => cases completes
      next outside =>
        cases completes
        exact .inl ⟨t, op, rfl, outside, rfl, rfl⟩
  | step t env =>
      rw [exec] at completes
      split at completes
      next => cases completes
      next op position inside =>
        obtain ⟨⟨position', object⟩, stepped, same⟩ := Option.map_eq_some_iff.mp completes
        cases same
        exact .inr (.inl ⟨t, env, op, position, position', object, rfl, inside, rfl, stepped, rfl⟩)
  | ret t =>
      rw [exec] at completes
      split at completes
      next => cases completes
      next op position inside =>
        obtain ⟨reply, returned, same⟩ := Option.map_eq_some_iff.mp completes
        cases same
        exact .inr (.inr ⟨t, op, position, reply, rfl, inside, returned, rfl, rfl⟩)

/-! ### Locks -/

section Locks

variable {holds : Position → Bool} {held : Object → Bool}

/-- The thread stands where it holds the lock. -/
def Threads.Holds (holds : Position → Bool) (threads : Threads Object Op Position) (t : Nat) :
    Prop :=
  ∃ op position, threads.inside t = some (op, position) ∧ holds position = true

/-- The lock is held exactly if a thread holds it, and no two threads do. -/
structure LockOwned (holds : Position → Bool) (held : Object → Bool)
    (threads : Threads Object Op Position) : Prop where
  unique : ∀ t u, threads.Holds holds t → threads.Holds holds u → t = u
  owned : held threads.object = true ↔ ∃ t, threads.Holds holds t

/-- What a step of one thread may do to a lock: nothing, take it when it is free, or give
it back. -/
def LockStep (wasHeld isHeld before after : Bool) : Prop :=
  isHeld = wasHeld ∧ after = before ∨ wasHeld = false ∧ isHeld = true ∧ after = true ∨
    before = true ∧ after = false ∧ isHeld = false

theorem Threads.holds_move {threads : Threads Object Op Position} {object : Object} {t u : Nat}
    {op : Op} {position : Position} :
    (threads.move object t (some (op, position))).Holds holds u ↔
      u = t ∧ holds position = true ∨ u ≠ t ∧ threads.Holds holds u := by
  by_cases mine : u = t
  · subst mine
    simp [Holds]
  · simp [Holds, Threads.move_inside_of_ne _ _ _ mine, mine]

/-- Nobody holds a lock that is free at the start. -/
theorem LockOwned.start {object : Object} (free : held object = false) :
    LockOwned holds held (Threads.start object : Threads Object Op Position) where
  unique := by
    rintro t u ⟨op, position, inside, -⟩
    cases inside
  owned := by
    refine iff_of_false (by simp [Threads.start, free]) ?_
    rintro ⟨t, op, position, inside, -⟩
    cases inside

/-- A step of one thread keeps the account of who holds the lock. -/
theorem LockOwned.step {threads : Threads Object Op Position} {object : Object} {t : Nat}
    {op : Op} {position position' : Position} (accounts : LockOwned holds held threads)
    (inside : threads.inside t = some (op, position))
    (step : LockStep (held threads.object) (held object) (holds position) (holds position')) :
    LockOwned holds held (threads.move object t (some (op, position'))) := by
  have mine : threads.Holds holds t ↔ holds position = true := by
    simp [Threads.Holds, inside]
  have others : ∀ {u}, (threads.move object t (some (op, position'))).Holds holds u →
      holds position' = false → u ≠ t ∧ threads.Holds holds u := by
    intro u holding lost
    rcases Threads.holds_move.mp holding with ⟨-, has⟩ | other
    · rw [lost] at has
      cases has
    · exact other
  rcases step with ⟨sameLock, same⟩ | ⟨free, taken, has⟩ | ⟨had, lost, free⟩
  · have sameHolders : ∀ u, (threads.move object t (some (op, position'))).Holds holds u ↔
        threads.Holds holds u := by
      intro u
      rw [Threads.holds_move, same]
      by_cases here : u = t
      · subst here
        simp [mine]
      · simp [here]
    refine ⟨?_, ?_⟩
    · intro u v first second
      exact accounts.unique u v ((sameHolders u).mp first) ((sameHolders v).mp second)
    · rw [Threads.move_object, sameLock, accounts.owned]
      exact exists_congr fun u => (sameHolders u).symm
  · -- the lock was free, so nobody else holds it
    have nobody : ∀ u, ¬ threads.Holds holds u := by
      intro u holding
      rw [accounts.owned.mpr ⟨u, holding⟩] at free
      cases free
    have onlyMine : ∀ u, (threads.move object t (some (op, position'))).Holds holds u →
        u = t := by
      intro u holding
      rcases Threads.holds_move.mp holding with ⟨here, -⟩ | ⟨-, before⟩
      · exact here
      · exact absurd before (nobody u)
    refine ⟨fun u v first second => (onlyMine u first).trans (onlyMine v second).symm, ?_⟩
    exact iff_of_true taken ⟨t, Threads.holds_move.mpr (.inl ⟨rfl, has⟩)⟩
  · -- the thread was the only one that held it
    have nobody : ∀ u, ¬ (threads.move object t (some (op, position'))).Holds holds u := by
      intro u holding
      obtain ⟨other, before⟩ := others holding lost
      exact other (accounts.unique u t before (mine.mpr had))
    refine ⟨fun u v first _ => absurd first (nobody u), ?_⟩
    exact iff_of_false (by simp [free]) fun ⟨u, holding⟩ => nobody u holding

/-- A thread that begins a call or returns does not hold the lock. -/
theorem LockOwned.outside {threads : Threads Object Op Position} {t : Nat}
    {stand : Option (Op × Position)} (accounts : LockOwned holds held threads)
    (without : ¬ threads.Holds holds t)
    (still : ∀ op position, stand = some (op, position) → holds position = false) :
    LockOwned holds held (threads.move threads.object t stand) := by
  have same : ∀ u, (threads.move threads.object t stand).Holds holds u ↔
      threads.Holds holds u := by
    intro u
    by_cases here : u = t
    · subst here
      refine iff_of_false ?_ without
      rintro ⟨op, position, inside, has⟩
      rw [Threads.move_inside_self] at inside
      rw [still op position inside] at has
      cases has
    · simp [Threads.Holds, Threads.move_inside_of_ne _ _ _ here]
  refine ⟨?_, ?_⟩
  · intro u v first second
    exact accounts.unique u v ((same u).mp first) ((same v).mp second)
  · rw [Threads.move_object, accounts.owned]
    exact exists_congr fun u => (same u).symm

end Locks

/-! ### Linearizations -/

/-- The thread of an event. -/
def ClientEvent.thread : ClientEvent Op Reply → Nat
  | call t _ => t
  | ret t _ => t

/-- A call that took effect: who made it, its reply, and which event of the history it is. -/
structure Effect (Op Reply : Type) where
  thread : Nat
  op : Op
  reply : Reply
  called : Nat

/-- One call after the other, from `start`, each as `spec` allows it. -/
inductive Legal (spec : Abstract → Op → Reply → Abstract → Prop) (start : Abstract) :
    List (Effect Op Reply) → Abstract → Prop where
  | start : Legal spec start [] start
  | effect {order : List (Effect Op Reply)} {a a' : Abstract} {e : Effect Op Reply}
      (past : Legal spec start order a) (step : spec a e.op e.reply a') :
      Legal spec start (order ++ [e]) a'

theorem Legal.mono {spec spec' : Abstract → Op → Reply → Abstract → Prop} {start final : Abstract}
    {order : List (Effect Op Reply)} (legal : Legal spec start order final)
    (allows : ∀ {a op reply a'}, spec a op reply a' → spec' a op reply a') :
    Legal spec' start order final := by
  induction legal with
  | start => exact .start
  | effect past step ih => exact ih.effect (allows step)

/-- Event `j` is the return of the call: its thread does nothing between the two. -/
structure Answered (history : List (ClientEvent Op Reply)) (e : Effect Op Reply) (j : Nat) :
    Prop where
  returned : history[j]? = some (.ret e.thread e.reply)
  after : e.called < j
  next : ∀ k event, e.called < k → k < j → history[k]? = some event → event.thread ≠ e.thread

/-- The calls in an order that explains the history: each one is a call of the history and
no two are the same, they are a legal sequence, every return is the reply of a call in it,
and what returned before another call was made is not behind that call. -/
structure Linearization (spec : Abstract → Op → Reply → Abstract → Prop) (start : Abstract)
    (history : List (ClientEvent Op Reply)) (order : List (Effect Op Reply))
    (final : Abstract) : Prop where
  legal : Legal spec start order final
  called : ∀ e ∈ order, history[e.called]? = some (.call e.thread e.op)
  once : order.Pairwise fun e e' => e.called ≠ e'.called
  answered : ∀ j t reply, history[j]? = some (.ret t reply) →
    ∃ e ∈ order, e.thread = t ∧ e.reply = reply ∧ Answered history e j
  realTime : order.Pairwise fun e e' => ∀ j, Answered history e' j → e.called < j

/-- Event `i` is a call of the thread, and the last the thread did. -/
structure OpenCall (history : List (ClientEvent Op Reply)) (t : Nat) (op : Op) (i : Nat) :
    Prop where
  called : history[i]? = some (.call t op)
  last : ∀ k event, i < k → history[k]? = some event → event.thread ≠ t

section Histories

variable {history : List (ClientEvent Op Reply)} {event : ClientEvent Op Reply}
  {e : Effect Op Reply} {t i j : Nat} {op : Op}

/-- An event of a longer history is an old one or the new one. -/
theorem getElem?_snoc {k : Nat} {old : ClientEvent Op Reply}
    (found : (history ++ [event])[k]? = some old) :
    k < history.length ∧ history[k]? = some old ∨ k = history.length ∧ event = old := by
  rcases Nat.lt_or_ge k history.length with before | behind
  · rw [List.getElem?_append_left before] at found
    exact .inl ⟨before, found⟩
  · rw [List.getElem?_append_right behind] at found
    obtain ⟨inside, same⟩ := List.getElem?_eq_some_iff.mp found
    have zero : k - history.length = 0 := Nat.lt_one_iff.mp inside
    simp only [zero, List.getElem_cons_zero] at same
    exact .inr ⟨by omega, same⟩

theorem getElem?_snoc_of_some {k : Nat} {old : ClientEvent Op Reply}
    (found : history[k]? = some old) : (history ++ [event])[k]? = some old := by
  rw [List.getElem?_append_left (List.getElem?_eq_some_iff.mp found).1]
  exact found

theorem OpenCall.snoc (opened : OpenCall history t op i) (other : event.thread ≠ t) :
    OpenCall (history ++ [event]) t op i where
  called := getElem?_snoc_of_some opened.called
  last := by
    intro k old behind found
    rcases getElem?_snoc found with ⟨-, found⟩ | ⟨-, rfl⟩
    · exact opened.last k old behind found
    · exact other

/-- A call that was just made. -/
theorem OpenCall.of_call : OpenCall (history ++ [.call t op]) t op history.length where
  called := by simp
  last := by
    intro k old behind found
    rcases getElem?_snoc found with ⟨before, -⟩ | ⟨here, -⟩
    · omega
    · omega

/-- The thread of an open call has not returned from it. -/
theorem OpenCall.not_answered (opened : OpenCall history e.thread op e.called) :
    ¬ Answered history e j := by
  intro answered
  exact opened.last j _ answered.after answered.returned rfl

theorem Answered.snoc (answered : Answered history e j) :
    Answered (history ++ [event]) e j where
  returned := getElem?_snoc_of_some answered.returned
  after := answered.after
  next := by
    intro k old behind before found
    have inside := (List.getElem?_eq_some_iff.mp answered.returned).1
    rcases getElem?_snoc found with ⟨-, found⟩ | ⟨here, -⟩
    · exact answered.next k old behind before found
    · omega

/-- A return in a longer history is an old one, or the last event. -/
theorem Answered.of_snoc (answered : Answered (history ++ [event]) e j) :
    Answered history e j ∨ j = history.length := by
  rcases getElem?_snoc answered.returned with ⟨before, found⟩ | ⟨here, -⟩
  · refine .inl ⟨found, answered.after, ?_⟩
    intro k old behind earlier member
    exact answered.next k old behind earlier (getElem?_snoc_of_some member)
  · exact .inr here

/-- The return of an open call answers it. -/
theorem OpenCall.answered (opened : OpenCall history e.thread op e.called) :
    Answered (history ++ [.ret e.thread e.reply]) e history.length where
  returned := by simp
  after := (List.getElem?_eq_some_iff.mp opened.called).1
  next := by
    intro k old behind before found
    rcases getElem?_snoc found with ⟨-, found⟩ | ⟨here, -⟩
    · exact opened.last k old behind found
    · omega

end Histories

namespace Linearization

variable {spec : Abstract → Op → Reply → Abstract → Prop} {start final : Abstract}
  {history : List (ClientEvent Op Reply)} {order : List (Effect Op Reply)}

/-- Nothing happened. -/
theorem nil : Linearization spec start [] [] start where
  legal := .start
  called := by simp
  once := .nil
  answered := by simp
  realTime := .nil

/-- One more event, which answers an open call if it is a return. -/
theorem observe (linearization : Linearization spec start history order final)
    (event : ClientEvent Op Reply)
    (answers : ∀ t reply, event = .ret t reply →
      ∃ e ∈ order, e.thread = t ∧ e.reply = reply ∧ OpenCall history t e.op e.called) :
    Linearization spec start (history ++ [event]) order final where
  legal := linearization.legal
  called := fun e member => getElem?_snoc_of_some (linearization.called e member)
  once := linearization.once
  answered := by
    intro j t reply found
    rcases getElem?_snoc found with ⟨-, found⟩ | ⟨rfl, rfl⟩
    · obtain ⟨e, member, thread, same, answered⟩ := linearization.answered j t reply found
      exact ⟨e, member, thread, same, answered.snoc⟩
    · obtain ⟨e, member, rfl, rfl, opened⟩ := answers t reply rfl
      exact ⟨e, member, rfl, rfl, opened.answered⟩
  realTime := by
    refine linearization.realTime.imp_of_mem ?_
    intro e e' member _ earlier j answered
    rcases answered.of_snoc with before | rfl
    · exact earlier j before
    · exact (List.getElem?_eq_some_iff.mp (linearization.called e member)).1

/-- An open call takes effect. -/
theorem effect (linearization : Linearization spec start history order final)
    {e : Effect Op Reply} {next : Abstract} (opened : OpenCall history e.thread e.op e.called)
    (new : ∀ e' ∈ order, e'.called ≠ e.called) (step : spec final e.op e.reply next) :
    Linearization spec start history (order ++ [e]) next where
  legal := linearization.legal.effect step
  called := by
    rw [List.forall_mem_append, List.forall_mem_singleton]
    exact ⟨linearization.called, opened.called⟩
  once := by
    refine List.pairwise_append.mpr ⟨linearization.once, List.pairwise_singleton _ _, ?_⟩
    intro e' member last same
    rw [List.mem_singleton.mp same]
    exact new e' member
  answered := by
    intro j t reply found
    obtain ⟨e', member, answered⟩ := linearization.answered j t reply found
    exact ⟨e', List.mem_append_left _ member, answered⟩
  realTime := by
    refine List.pairwise_append.mpr ⟨linearization.realTime, List.pairwise_singleton _ _, ?_⟩
    intro e' member last same j answered
    rw [List.mem_singleton.mp same] at answered
    exact absurd answered opened.not_answered

/-- A sequential object that allows more explains the same order. -/
theorem mono {spec' : Abstract → Op → Reply → Abstract → Prop}
    (linearization : Linearization spec start history order final)
    (allows : ∀ {a op reply a'}, spec a op reply a' → spec' a op reply a') :
    Linearization spec' start history order final where
  legal := linearization.legal.mono allows
  called := linearization.called
  once := linearization.once
  answered := linearization.answered
  realTime := linearization.realTime

end Linearization

/-! ### Simulations -/

/-- Where the call stands in the order: not in it yet, or with the reply it will give. -/
def TakesEffect (order : List (Effect Op Reply)) (t : Nat) (op : Op) (i : Nat) :
    Option Reply → Prop
  | none => ∀ e ∈ order, e.called ≠ i
  | some reply => ⟨t, op, reply, i⟩ ∈ order

/-- Every thread that is in a call has made it, and it took effect if its reply is fixed. -/
def Placed (taken : Position → Option Reply) (inside : Nat → Option (Op × Position))
    (history : List (ClientEvent Op Reply)) (order : List (Effect Op Reply)) : Prop :=
  ∀ t op position, inside t = some (op, position) →
    ∃ i, OpenCall history t op i ∧ TakesEffect order t op i (taken position)

/-- The code simulates a sequential object.  `taken` is the reply of a call from the step
on in which it takes effect; no other step shows in the abstract state. -/
structure Simulates (code : ObjectCode Object Op Env Position Reply)
    (allowed : ThreadTrace Object Op Env Position Reply → Threads Object Op Position →
      ThreadAction Op Env → Prop)
    (spec : Abstract → Op → Reply → Abstract → Prop) (start : Abstract)
    (taken : Position → Option Reply)
    (coupled : Threads Object Op Position → Abstract → Prop) : Prop where
  entered : ∀ op, taken (code.enter op) = none
  finished : ∀ position reply, code.result position = some reply → taken position = some reply
  call : ∀ {trace threads order a t op}, coupled threads a →
    Linearization spec start (clientHistory trace) order a →
      allowed trace threads (.call t op) → threads.inside t = none →
        coupled (threads.move threads.object t (some (op, code.enter op))) a
  step : ∀ {threads a t op env position position' object}, coupled threads a →
    threads.inside t = some (op, position) →
      code.step t op env threads.object position = some (position', object) →
        (taken position' = taken position ∧
          coupled (threads.move object t (some (op, position'))) a) ∨
        ∃ reply a', taken position = none ∧ taken position' = some reply ∧
          spec a op reply a' ∧ coupled (threads.move object t (some (op, position'))) a'
  ret : ∀ {threads a t op position reply}, coupled threads a →
    threads.inside t = some (op, position) → code.result position = some reply →
      coupled (threads.move threads.object t none) a

section Placing

variable {taken : Position → Option Reply} {threads : Threads Object Op Position}
  {history : List (ClientEvent Op Reply)} {order : List (Effect Op Reply)} {t : Nat}

/-- A thread makes a call. -/
theorem Placed.call {spec : Abstract → Op → Reply → Abstract → Prop} {start final : Abstract}
    (placed : Placed taken threads.inside history order)
    (linearization : Linearization spec start history order final)
    (object : Object) {op : Op} {position : Position} (entered : taken position = none) :
    Placed taken (threads.move object t (some (op, position))).inside
      (history ++ [.call t op]) order := by
  intro u op' position' inside
  by_cases mine : u = t
  · subst mine
    rw [Threads.move_inside_self] at inside
    cases inside
    refine ⟨history.length, .of_call, ?_⟩
    rw [entered]
    intro e member same
    have bound := (List.getElem?_eq_some_iff.mp (linearization.called e member)).1
    omega
  · rw [Threads.move_inside_of_ne _ _ _ mine] at inside
    obtain ⟨i, opened, takes⟩ := placed u op' position' inside
    exact ⟨i, opened.snoc (Ne.symm mine), takes⟩

/-- A thread returns. -/
theorem Placed.ret (placed : Placed taken threads.inside history order) (object : Object)
    (reply : Reply) :
    Placed taken (threads.move object t none).inside (history ++ [.ret t reply]) order := by
  intro u op' position' inside
  by_cases mine : u = t
  · subst mine
    rw [Threads.move_inside_self] at inside
    cases inside
  · rw [Threads.move_inside_of_ne _ _ _ mine] at inside
    obtain ⟨i, opened, takes⟩ := placed u op' position' inside
    exact ⟨i, opened.snoc (Ne.symm mine), takes⟩

/-- A thread makes a step that does not show. -/
theorem Placed.hidden (placed : Placed taken threads.inside history order) (object : Object)
    {op : Op} {position position' : Position} (inside : threads.inside t = some (op, position))
    (same : taken position' = taken position) :
    Placed taken (threads.move object t (some (op, position'))).inside history order := by
  intro u op' stand inside'
  by_cases mine : u = t
  · subst mine
    rw [Threads.move_inside_self] at inside'
    cases inside'
    rw [same]
    exact placed u op position inside
  · rw [Threads.move_inside_of_ne _ _ _ mine] at inside'
    exact placed u op' stand inside'

/-- The call of a thread takes effect; the calls of the other threads are other calls. -/
theorem Placed.effect (placed : Placed taken threads.inside history order) (object : Object)
    {op : Op} {position' : Position} {reply : Reply} {i : Nat}
    (opened : OpenCall history t op i) (takes : taken position' = some reply) :
    Placed taken (threads.move object t (some (op, position'))).inside history
      (order ++ [⟨t, op, reply, i⟩]) := by
  intro u op' stand inside'
  by_cases mine : u = t
  · subst mine
    rw [Threads.move_inside_self] at inside'
    cases inside'
    refine ⟨i, opened, ?_⟩
    rw [takes]
    exact List.mem_append_right _ (List.mem_singleton_self _)
  · rw [Threads.move_inside_of_ne _ _ _ mine] at inside'
    obtain ⟨k, other, takes'⟩ := placed u op' stand inside'
    refine ⟨k, other, ?_⟩
    cases fixed : taken stand with
    | none =>
        rw [fixed] at takes'
        change ∀ e ∈ order ++ _, e.called ≠ k
        rw [List.forall_mem_append, List.forall_mem_singleton]
        refine ⟨takes', ?_⟩
        rintro rfl
        have same := opened.called.symm.trans other.called
        cases same
        exact mine rfl
    | some reply' =>
        rw [fixed] at takes'
        exact List.mem_append_left _ takes'

end Placing

theorem clientHistory_snoc (trace : ThreadTrace Object Op Env Position Reply)
    (call : Transition (Threads Object Op Position) (ThreadAction Op Env)
      (Option (ClientEvent Op Reply))) :
    clientHistory (trace ++ [call]) = clientHistory trace ++ call.reply.toList := by
  rw [clientHistory, List.filterMap_append]
  cases seen : call.reply with
  | none => simp [clientHistory, seen]
  | some event => simp [clientHistory, seen]

/-- Every run of code that simulates a sequential object has a linearization, and the
threads stay coupled to the state it leads to. -/
theorem Simulates.linearization {code : ObjectCode Object Op Env Position Reply}
    {allowed : ThreadTrace Object Op Env Position Reply → Threads Object Op Position →
      ThreadAction Op Env → Prop}
    {spec : Abstract → Op → Reply → Abstract → Prop} {start : Abstract}
    {taken : Position → Option Reply} {coupled : Threads Object Op Position → Abstract → Prop}
    (simulates : Simulates code allowed spec start taken coupled) {object : Object}
    (initially : coupled (.start object) start)
    {trace : ThreadTrace Object Op Env Position Reply} {threads : Threads Object Op Position}
    (run : Run code.exec allowed (.start object) trace threads) :
    ∃ order a, Linearization spec start (clientHistory trace) order a ∧ coupled threads a ∧
      Placed taken threads.inside (clientHistory trace) order := by
  let holds (trace : ThreadTrace Object Op Env Position Reply)
      (threads : Threads Object Op Position) : Prop :=
    ∃ order a, Linearization spec start (clientHistory trace) order a ∧ coupled threads a ∧
      Placed taken threads.inside (clientHistory trace) order
  have nobody : holds [] (.start object) := by
    refine ⟨[], start, .nil, initially, ?_⟩
    intro t op position inside
    cases inside
  refine Run.invariant_with_trace nobody ?_ run
  rintro trace threads action seen next - ⟨order, a, linearization, coupling, placed⟩ guard
    completes
  change ∃ _, _
  rw [clientHistory_snoc]
  rcases code.exec_cases completes with ⟨t, op, rfl, outside, rfl, rfl⟩ |
    ⟨t, env, op, position, position', object', rfl, inside, rfl, stepped, rfl⟩ |
    ⟨t, op, position, reply, rfl, inside, returned, rfl, rfl⟩
  · refine ⟨order, a, ?_, simulates.call coupling linearization guard outside,
      placed.call linearization _ (simulates.entered op)⟩
    refine linearization.observe (.call t op) ?_
    intro u reply same
    cases same
  · rw [Option.toList_none, List.append_nil]
    rcases simulates.step coupling inside stepped with
      ⟨same, coupling'⟩ | ⟨reply, a', untaken, takes, allows, coupling'⟩
    · exact ⟨order, a, linearization, coupling', placed.hidden _ inside same⟩
    · obtain ⟨i, opened, notYet⟩ := placed t op position inside
      rw [untaken] at notYet
      have effected := linearization.effect (e := ⟨t, op, reply, i⟩) opened notYet allows
      exact ⟨_, a', effected, coupling', placed.effect _ opened takes⟩
  · refine ⟨order, a, ?_, simulates.ret coupling inside returned, placed.ret _ reply⟩
    refine linearization.observe (.ret t reply) ?_
    rintro u other ⟨⟩
    obtain ⟨i, opened, takes⟩ := placed t op position inside
    rw [simulates.finished position reply returned] at takes
    exact ⟨⟨t, op, reply, i⟩, takes, rfl, rfl, opened⟩
