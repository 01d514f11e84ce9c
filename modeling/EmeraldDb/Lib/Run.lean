/-
Module: EmeraldDb.Lib.Run
Purpose: Sequential runs of a component given by a partial step function, with
  a guard on which action may come next, and the induction rules that carry an
  invariant along a run.
Trusted boundary: none
Main exports: Transition, Run, Run.invariant, Run.invariant_with_trace, Run.mono,
  Run.forall_guard, Run.holds_iff, Run.append, Run.done_within, Run.follow, Run.of_follow
-/
import Mathlib.Data.List.Basic

/-- One completed action of a run. -/
structure Transition (State Action Reply : Type) where
  pre : State
  action : Action
  reply : Reply
  post : State

variable {State Action Reply : Type}

/-- The runs from `start`, oldest transition first.  An action for which `exec`
has no result never completes, so it ends no run step.  `allowed` sees the
transitions so far, the current state and the proposed action. -/
inductive Run (exec : Action → State → Option (Reply × State))
    (allowed : List (Transition State Action Reply) → State → Action → Prop)
    (start : State) : List (Transition State Action Reply) → State → Prop where
  | start : Run exec allowed start [] start
  | step {trace : List (Transition State Action Reply)} {state next : State}
      {action : Action} {reply : Reply}
      (past : Run exec allowed start trace state)
      (guard : allowed trace state action)
      (completes : exec action state = some (reply, next)) :
      Run exec allowed start (trace ++ [⟨state, action, reply, next⟩]) next

namespace Run

variable {exec : Action → State → Option (Reply × State)}
  {allowed : List (Transition State Action Reply) → State → Action → Prop}
  {start : State}

/-- What holds at the start and survives every allowed step holds along every
run; the property may speak about the transitions so far. -/
theorem invariant_with_trace
    {holds : List (Transition State Action Reply) → State → Prop}
    (initially : holds [] start)
    (preserved : ∀ {trace state action reply next},
      Run exec allowed start trace state → holds trace state →
        allowed trace state action → exec action state = some (reply, next) →
          holds (trace ++ [⟨state, action, reply, next⟩]) next)
    {trace : List (Transition State Action Reply)} {state : State}
    (run : Run exec allowed start trace state) : holds trace state := by
  induction run with
  | start => exact initially
  | step past guard completes ih => exact preserved past ih guard completes

/-- The same rule for a property of the state alone. -/
theorem invariant {holds : State → Prop} (initially : holds start)
    (preserved : ∀ {trace state action reply next}, holds state →
      allowed trace state action → exec action state = some (reply, next) →
        holds next)
    {trace : List (Transition State Action Reply)} {state : State}
    (run : Run exec allowed start trace state) : holds state := by
  induction run with
  | start => exact initially
  | step past guard completes ih => exact preserved ih guard completes

/-- A run whose steps pass another guard, too, is a run under that guard. -/
theorem mono {may : List (Transition State Action Reply) → State → Action → Prop}
    (passes : ∀ {trace state action}, Run exec allowed start trace state →
      allowed trace state action → may trace state action)
    {trace : List (Transition State Action Reply)} {state : State}
    (run : Run exec allowed start trace state) : Run exec may start trace state := by
  induction run with
  | start => exact .start
  | step past guard completes ih => exact ih.step (passes past guard) completes

/-- Every transition of a run has passed its guard. -/
theorem forall_guard {may : State → Action → Prop}
    {trace : List (Transition State Action Reply)} {state : State}
    (run : Run exec (fun _ state action => may state action) start trace state) :
    ∀ t ∈ trace, may t.pre t.action := by
  induction run with
  | start => simp
  | step past guard completes ih =>
      rw [List.forall_mem_append, List.forall_mem_singleton]
      exact ⟨ih, guard⟩

/-- Where each step from a good state is followed by a good state exactly if it meets a
condition, a run stays in good states exactly if all its steps meet it. -/
theorem holds_iff {always holds : State → Prop} {meets : State → Action → Prop}
    (invariant : ∀ {trace state}, Run exec allowed start trace state → always state)
    (initially : holds start)
    (step : ∀ {trace state action reply next}, always state → holds state →
      allowed trace state action → exec action state = some (reply, next) →
        (holds next ↔ meets state action))
    {trace : List (Transition State Action Reply)} {state : State}
    (run : Run exec allowed start trace state) :
    ((∀ t ∈ trace, holds t.post) ↔ ∀ t ∈ trace, meets t.pre t.action) ∧
      ((∀ t ∈ trace, holds t.post) → holds state) := by
  induction run with
  | start => simp [initially]
  | @step trace state next action reply past guard completes ih =>
      rcases ih with ⟨agree, reached⟩
      simp only [List.forall_mem_append, List.forall_mem_singleton]
      refine ⟨?_, And.right⟩
      constructor
      · rintro ⟨earlier, last⟩
        exact ⟨agree.mp earlier, (step (invariant past) (reached earlier) guard completes).mp last⟩
      · rintro ⟨earlier, last⟩
        have held := agree.mpr earlier
        exact ⟨held, (step (invariant past) (reached held) guard completes).mpr last⟩

/-- Under a guard on states, a run that goes on is one run. -/
theorem append {may : State → Action → Prop}
    {trace later : List (Transition State Action Reply)} {middle state : State}
    (past : Run exec (fun _ state action => may state action) start trace middle)
    (run : Run exec (fun _ state action => may state action) middle later state) :
    Run exec (fun _ state action => may state action) start (trace ++ later) state := by
  induction run with
  | start => rwa [List.append_nil]
  | step earlier guard completes ih =>
      rw [← List.append_assoc]
      exact ih.step guard completes

/-- A task is done within as many steps of its owner as are left, if every allowed step
finishes it or keeps it under way, and each of the owner's steps leaves one less. -/
theorem done_within {may : State → Action → Prop}
    {finishes : Transition State Action Reply → Prop} (underway : State → Prop)
    (own : Action → Bool) (left : State → Nat)
    (step : ∀ {state action reply next}, underway state → may state action →
      exec action state = some (reply, next) → finishes ⟨state, action, reply, next⟩ ∨
        underway next ∧ left next + (own action).toNat ≤ left state)
    (remains : ∀ {state}, underway state → 0 < left state)
    {later : List (Transition State Action Reply)} {state : State}
    (run : Run exec (fun _ state action => may state action) start later state)
    (begun : underway start) (enough : left start ≤ later.countP (own ·.action)) :
    ∃ t ∈ later, finishes t := by
  have counted : (∃ t ∈ later, finishes t) ∨
      underway state ∧ left state + later.countP (own ·.action) ≤ left start := by
    clear enough
    induction run with
    | start => exact .inr ⟨begun, Nat.le_refl _⟩
    | @step trace state next action reply past guard completes ih =>
        rcases ih with ⟨t, member, done⟩ | ⟨going, fewer⟩
        · exact .inl ⟨t, List.mem_append_left _ member, done⟩
        · rcases step going guard completes with done | ⟨going, less⟩
          · exact .inl ⟨_, List.mem_append_right _ (List.mem_singleton_self _), done⟩
          · refine .inr ⟨going, ?_⟩
            rw [List.countP_append, List.countP_singleton]
            cases mine : own action <;> simp [mine] at less ⊢ <;> omega
  rcases counted with done | ⟨going, fewer⟩
  · exact done
  · have positive := remains going
    omega

/-- The state after some actions, if all of them pass a test and complete. -/
def follow (exec : Action → State → Option (Reply × State)) (test : State → Action → Bool) :
    List Action → State → Option State
  | [], state => some state
  | action :: actions, state =>
      if test state action then
        (exec action state).bind fun (_, next) => follow exec test actions next
      else none

/-- Actions that pass the test and complete one after the other extend a run. -/
theorem of_follow {test : State → Action → Bool}
    (guard : ∀ {trace state action}, test state action = true → allowed trace state action)
    {actions : List Action} {trace : List (Transition State Action Reply)}
    {state last : State} (past : Run exec allowed start trace state)
    (followed : follow exec test actions state = some last) :
    ∃ later, Run exec allowed start (trace ++ later) last := by
  induction actions generalizing trace state with
  | nil =>
      cases followed
      exact ⟨[], by rwa [List.append_nil]⟩
  | cons action actions ih =>
      simp only [follow] at followed
      split_ifs at followed with passes
      rcases Option.bind_eq_some_iff.mp followed with ⟨⟨reply, next⟩, completes, rest⟩
      rcases ih (past.step (guard passes) completes) rest with ⟨later, run⟩
      exact ⟨⟨state, action, reply, next⟩ :: later, by rwa [List.append_assoc] at run⟩

end Run
