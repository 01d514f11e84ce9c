/-
Module: EmeraldDb.Proofs.EduSessions
Purpose: Without a force, every request that startEDU accepts is served once, in order, and
  its EDU is pooled or destroyed afterwards.
Trusted boundary: none
Main exports: EduSystem.Calm, Sessions, EduRun.sessions
-/
import EmeraldDb.Proofs.EduLifecycle

namespace EmeraldDb

/-- `startEDU`, and what the EDU threads do. -/
def EduAction.isUndisturbed : EduAction → Bool
  | .startEdu .. => true
  | .stepStart .. => true
  | .thread .. => true
  | _ => false

/-- The thread of this control block acts. -/
def EduAction.isBy (p : Ptr) : EduAction → Bool
  | .thread q _ => q = p
  | _ => false

/-- The requests to an EDU whose `startEDU` has returned `EDB_OK`, oldest first. -/
def started (id : EduId) (trace : EduTrace) : List (EduType × Nat) :=
  trace.flatMap fun t => acceptedBy id t.reply

/-- The calls of the entry function by the thread of an EDU, oldest first. -/
def entered (id : EduId) (trace : EduTrace) : List (EduType × Nat) :=
  trace.flatMap fun t => servedBy id t.reply

/-- The own steps that are left, at most, until the thread calls the entry function, if it
has a request, and until it comes back from `returnEDU`, if it is on its way there. -/
def EduPc.stepsLeft : EduPc → Nat
  | .sleeping => 9
  | .timedOut => 8
  | .loop => 7
  | .testing => 6
  | .marking => 5
  | .blocked => 4
  | .receiving _ => 3
  | .took _ => 2
  | .calling _ => 1
  | .left => 5
  | .returning .lookup => 4
  | .returning (.flags _) => 3
  | .returning .size => 2
  | .returning .destroy => 1
  | .returning .deactivate => 1
  | .inEntry => 0
  | .exited => 0

theorem EduPc.stepsLeft_le (pc : EduPc) : pc.stepsLeft ≤ 9 := by
  cases pc with
  | returning stage => cases stage <;> simp [stepsLeft]
  | _ => simp [stepsLeft]

theorem EduAction.isSession_of_isUndisturbed {action : EduAction}
    (undisturbed : action.isUndisturbed = true) : action.isSession = true := by
  cases action with
  | startEdu type arg => rfl
  | stepStart c granted => rfl
  | thread q choice => rfl
  | _ => cases undisturbed

namespace EduMgr

variable {s : EduMgr} {id : EduId}

/-! ### Sections that cannot fail to return -/

theorem waitEdu_isSome (live : ∀ p, s.Queued id p → ∃ cb, s.blocks p = some cb) :
    (s.waitEdu id).isSome = true := by
  unfold waitEdu
  split
  · rfl
  · next p found =>
      rcases live p (.inl found) with ⟨cb, block⟩
      simp only [block, Option.bind_some]
      split_ifs <;> rfl

theorem destroyEdu_isSome (live : ∀ p, s.Queued id p → ∃ cb, s.blocks p = some cb) :
    (s.destroyEdu id).isSome = true := by
  unfold destroyEdu
  split
  · split
    · rfl
    · next p found =>
        rcases live p (.inr found) with ⟨cb, block⟩
        simp only [block, Option.bind_some]
        split_ifs <;> rfl
  · next p found =>
      rcases live p (.inl found) with ⟨cb, block⟩
      simp only [block, Option.bind_some]
      split_ifs <;> rfl

theorem deactivateEdu_isSome (live : ∀ p, s.Queued id p → ∃ cb, s.blocks p = some cb) :
    (s.deactivateEdu id).isSome = true := by
  unfold deactivateEdu
  split
  · split <;> rfl
  · next p found =>
      rcases live p (.inl found) with ⟨cb, block⟩
      simp only [block, Option.bind_some]
      split_ifs <;> rfl

theorem returnEdu_isSome {maxPool : Nat} {force : Bool} (stage : ReturnStage)
    (live : ∀ p, s.Queued id p → ∃ cb, s.blocks p = some cb) :
    (s.returnEdu maxPool id force stage).isSome = true := by
  cases stage with
  | lookup =>
      simp only [returnEdu]
      split
      · rfl
      · next p found =>
          rcases live p (queued_of_find found) with ⟨cb, block⟩
          rw [block]
          rfl
  | flags type =>
      simp only [returnEdu]
      split_ifs <;> rfl
  | size =>
      simp only [returnEdu]
      split_ifs <;> rfl
  | destroy => rw [returnEdu, Option.isSome_map, destroyEdu_isSome live]
  | deactivate => rw [returnEdu, Option.isSome_map, deactivateEdu_isSome live]

end EduMgr

namespace EduSystem

variable {s s' : EduSystem} {maxPool : Nat} {reply : EduReply} {action : EduAction}
  {p : Ptr} {t : EduThread} {cb : ControlBlock} {owed : List (EduType × Nat)}

/-! ### Runs without a force -/

/-- Nothing is forced, and no thread has read a force. -/
structure Calm (s : EduSystem) : Prop where
  blocks : ∀ {p cb}, s.mgr.blocks p = some cb → cb.isForced = false
  threads : ∀ {p t}, s.threads p = some t → t.isForced = false

theorem init_calm : init.Calm where
  blocks found := by cases found
  threads found := by cases found

theorem Calm.readsForceApart (calm : s.Calm) (action : EduAction) : s.ReadsForceApart action where
  timedOut p t cb acts found here block forced := by
    cases (calm.blocks block).symm.trans forced
  select c granted call id p m t acts found here result thread := calm.threads thread

/-- A thread reads a force only from its own control block. -/
theorem threadStep_isForced {pc : EduPc} {choice : EduChoice} {q : Ptr} {u : EduThread}
    (calm : s.Calm) (found : s.threads p = some t)
    (step : ThreadStep s maxPool p t pc choice reply s') (there : s'.threads q = some u) :
    u.isForced = false := by
  have unread : t.isForced = false := calm.threads found
  cases step with
  | forced block forced => cases (calm.blocks block).symm.trans forced
  | activated result => exact calm.threads there
  | waited result => exact calm.threads there
  | _ =>
      rcases threads_setThread (s := { s with mgr := _ }) there with old | ⟨rfl, rfl⟩
      · exact calm.threads old
      · exact unread

theorem Calm.step (calm : s.Calm) (undisturbed : action.isUndisturbed = true)
    (completes : exec maxPool action s = some (reply, s')) : s'.Calm where
  blocks {p cb} block := by
    rcases exec_change completes with ⟨label, change, permits⟩
    rcases change.block block with ⟨-, -, unforced⟩ | ⟨before, old, same | rfl, -⟩
    · exact unforced
    · exact same.trans (calm.blocks old)
    · have forced : forces action = true := permits
      cases action with
      | forceUserEdu id => cases undisturbed
      | forceEdus property => cases undisturbed
      | _ => cases forced
  threads {p t} there := by
    cases exec_step completes with
    | start found staged step =>
        cases step with
        | spawned =>
            rcases threads_setThread (s := s) there with old | ⟨rfl, rfl⟩
            · exact calm.threads old
            · rfl
        | _ => exact calm.threads there
    | thread found here step => exact threadStep_isForced calm found step there
    | _ => exact calm.threads there

/-- What holds in a run without a force. -/
structure Undisturbed (s : EduSystem) : Prop where
  life : s.Lifecycle
  calm : s.Calm

theorem init_undisturbed : init.Undisturbed := ⟨Lifecycle.init, init_calm⟩

namespace Undisturbed

theorem step (quiet : s.Undisturbed) (undisturbed : action.isUndisturbed = true)
    (completes : exec maxPool action s = some (reply, s')) : s'.Undisturbed where
  life := quiet.life.step (EduAction.isSession_of_isUndisturbed undisturbed)
    (quiet.calm.readsForceApart action) completes
  calm := quiet.calm.step undisturbed completes

theorem advances (quiet : s.Undisturbed) (undisturbed : action.isUndisturbed = true)
    (completes : exec maxPool action s = some (reply, s')) (phase : EduPhase s p owed) :
    Advances s' reply p owed :=
  quiet.life.advances (EduAction.isSession_of_isUndisturbed undisturbed)
    (quiet.calm.readsForceApart action) completes phase

/-! ### Requests -/

/-- Every EDU that a reply names has a control block of its own. -/
theorem reply_named (quiet : s.Undisturbed) (undisturbed : action.isUndisturbed = true)
    (completes : exec maxPool action s = some (reply, s')) :
    acceptedBy 0 reply = [] ∧ servedBy 0 reply = [] := by
  cases action with
  | startEdu type arg =>
      cases completes
      exact ⟨rfl, rfl⟩
  | stepStart c granted =>
      rcases Option.bind_eq_some_iff.mp completes with ⟨call, found, stepped⟩
      have step := stepStart_step stepped
      generalize staged : call.stage = stage at step
      cases step with
      | posted result =>
          have named := quiet.life.structured.starts found (by rw [staged]; rfl)
          exact ⟨by simp [acceptedBy, named.1], rfl⟩
      | _ => exact ⟨rfl, rfl⟩
  | thread q choice =>
      rcases Option.bind_eq_some_iff.mp completes with ⟨t, found, stepped⟩
      have others : acceptedBy 0 reply = [] ∧ _ := threadStep_reply (stepThread_step stepped)
      refine ⟨others.1, others.2 ?_⟩
      rw [(quiet.life.structured.threads found).1]
      exact Nat.succ_ne_zero _
  | _ => cases undisturbed

end Undisturbed

theorem phase_owes (phase : EduPhase s p owed) : owed.length ≤ 1 := by
  cases phase with
  | waiting thread waits marks awaits => cases awaits <;> simp
  | @serving cb t free run empty thread serves =>
      cases t.pc with
      | receiving event => exact Nat.le_refl _
      | took event => exact Nat.le_refl _
      | calling arg => exact Nat.le_refl _
      | _ => exact Nat.zero_le _
  | _ => exact Nat.zero_le _

/-- The event queue holds at most one event. -/
theorem phase_queue (phase : EduPhase s p owed) (block : s.mgr.blocks p = some cb) :
    cb.queue.length ≤ 1 := by
  cases phase with
  | absent left thread free => cases left.block.symm.trans block
  | creating claimed stage run typed entry status empty thread =>
      cases run.block.symm.trans block
      simp [empty]
  | waiting thread waits marks awaits =>
      cases awaits with
      | chosen claimed stage run typed status empty =>
          cases run.block.symm.trans block
          simp [empty]
      | pending free run status queued =>
          cases run.block.symm.trans block
          simp [queued]
      | pooled free idle agent empty =>
          cases idle.block.symm.trans block
          simp [empty]
  | serving free run empty thread serves =>
      cases run.block.symm.trans block
      simp [empty]
  | retiring free idle thread forced returning early empty =>
      cases idle.block.symm.trans block
      simp [empty]
  | gone left thread ended free => cases left.block.symm.trans block

/-- The control block of a thread that has not ended is there. -/
theorem phase_block (phase : EduPhase s p owed) (found : s.threads p = some t)
    (alive : t.pc ≠ .exited) : ∃ cb, s.mgr.blocks p = some cb := by
  cases phase with
  | absent left thread free => cases found.symm.trans thread
  | creating claimed stage run typed entry status empty thread =>
      exact ⟨_, run.block⟩
  | waiting thread waits marks awaits =>
      cases awaits with
      | chosen claimed stage run typed status empty => exact ⟨_, run.block⟩
      | pending free run status queued => exact ⟨_, run.block⟩
      | pooled free idle agent empty => exact ⟨_, idle.block⟩
  | serving free run empty thread serves => exact ⟨_, run.block⟩
  | retiring free idle thread forced returning early empty => exact ⟨_, idle.block⟩
  | gone left thread ended free =>
      cases found.symm.trans thread
      exact absurd ended alive

/-- A thread that has not ended can always go on. -/
theorem Undisturbed.goesOn (quiet : s.Undisturbed) (maxPool : Nat)
    (found : s.threads p = some t) (alive : t.pc ≠ .exited) :
    ∃ choice, (exec maxPool (.thread p choice) s).isSome = true := by
  rcases quiet.life.phases p with ⟨owed, phase⟩
  rcases phase_block phase found alive with ⟨cb, block⟩
  have live : ∀ q, s.mgr.Queued t.id q → ∃ cb, s.mgr.blocks q = some cb := by
    intro q queued
    rw [(quiet.life.structured.threads found).1] at queued
    cases Nat.succ.inj (quiet.life.structured.mgr.queued queued).1
    exact ⟨cb, block⟩
  simp only [exec, found, Option.bind_some]
  cases here : t.pc with
  | loop => exact ⟨.goOn, by simp [stepThread, block]⟩
  | testing => exact ⟨.goOn, by simp [stepThread, EduMgr.status, block]⟩
  | marking => exact ⟨.goOn, by simp [stepThread, EduMgr.markWaiting, block]⟩
  | receiving event => exact ⟨.goOn, by simp [stepThread, EduMgr.endWait, block]⟩
  | blocked =>
      cases queued : cb.queue with
      | nil => exact ⟨.goOn, by simp [stepThread, block, queued]⟩
      | cons event rest =>
          exact ⟨.take, by simp [stepThread, stepTake, EduMgr.takeEvent, block, queued]⟩
  | sleeping => exact ⟨.timeOut, rfl⟩
  | timedOut => exact ⟨.goOn, by simp [stepThread, block]⟩
  | took event =>
      refine ⟨.goOn, ?_⟩
      simp only [stepThread]
      split_ifs
      · rw [Option.isSome_map, EduMgr.waitEdu_isSome live]
      · rfl
  | calling arg =>
      refine ⟨.goOn, ?_⟩
      simp only [stepThread]
      split_ifs <;> rfl
  | inEntry => exact ⟨.goOn, rfl⟩
  | left => exact ⟨.goOn, by rw [stepThread, Option.isSome_map, EduMgr.waitEdu_isSome live]⟩
  | returning stage =>
      exact ⟨.goOn, by rw [stepThread, Option.isSome_map, EduMgr.returnEdu_isSome stage live]⟩
  | exited => exact absurd here alive

/-! ### How long a thread takes -/

/-- The own steps that are left to the thread of a control block. -/
def stepsLeft (s : EduSystem) (p : Ptr) : Nat := (s.threads p).elim 0 fun t => t.pc.stepsLeft

theorem stepsLeft_thread (found : s.threads p = some t) : s.stepsLeft p = t.pc.stepsLeft := by
  rw [stepsLeft, found, Option.elim_some]

theorem stepsLeft_setThread (s : EduSystem) (p : Ptr) (t : EduThread) :
    (s.setThread p t).stepsLeft p = t.pc.stepsLeft :=
  stepsLeft_thread (Function.update_self ..)

theorem stepsLeft_le (s : EduSystem) (p : Ptr) : s.stepsLeft p ≤ 9 := by
  unfold stepsLeft
  cases s.threads p with
  | none => exact Nat.zero_le _
  | some t => exact t.pc.stepsLeft_le

/-- The other EDUs and the calls leave a thread where it stands. -/
theorem Undisturbed.thread_kept (quiet : s.Undisturbed)
    (undisturbed : action.isUndisturbed = true)
    (completes : exec maxPool action s = some (reply, s')) (found : s.threads p = some t)
    (other : action.isBy p = false) : s'.threads p = some t := by
  cases action with
  | startEdu type arg =>
      cases completes
      exact found
  | stepStart c granted =>
      rcases Option.bind_eq_some_iff.mp completes with ⟨call, called, stepped⟩
      have step := stepStart_step stepped
      generalize staged : call.stage = stage at step
      cases step with
      | @spawned id q =>
          rcases eq_or_ne p q with rfl | apart
          · rcases quiet.life.phases p with ⟨owed, phase⟩
            have creates : target call.stage = some (id, p) := by rw [staged]; rfl
            rcases (phase_claimed phase called creates).2.2 with
              ⟨-, thread, -⟩ | ⟨posts, -⟩
            · cases found.symm.trans thread
            · cases staged.symm.trans posts
          · exact (Function.update_of_ne apart ..).trans found
      | _ => exact found
  | thread q choice =>
      rcases Option.bind_eq_some_iff.mp completes with ⟨u, acts, stepped⟩
      have apart : p ≠ q := fun same => by simp [EduAction.isBy, same] at other
      exact (threadStep_threads (stepThread_step stepped) apart).trans found
  | _ => cases undisturbed

/-- A thread with a request calls the entry function or comes closer to it. -/
theorem threadStep_owing {pc : EduPc} {choice : EduChoice} (quiet : s.Undisturbed)
    (phase : EduPhase s p owed) (owes : owed ≠ []) (found : s.threads p = some t)
    (here : t.pc = pc) (step : ThreadStep s maxPool p t pc choice reply s') :
    servedBy (p + 1) reply ≠ [] ∨ s'.stepsLeft p < pc.stepsLeft := by
  cases step with
  | looped block => exact .inr (by simp [stepsLeft_setThread, EduPc.stepsLeft])
  | tested block =>
      rw [stepsLeft_setThread]
      dsimp only
      split <;> exact .inr (by simp [EduPc.stepsLeft])
  | marked result => exact .inr (by simp [stepsLeft_setThread, EduPc.stepsLeft])
  | received result => exact .inr (by simp [stepsLeft_setThread, EduPc.stepsLeft])
  | slept block empty =>
      rcases phase_waiting phase found (by rw [here]; rfl) with ⟨cb, attends, -, awaits⟩
      cases awaits with
      | chosen claimed stage run typed status empty => exact absurd rfl owes
      | pending free run status queued =>
          cases block.symm.trans run.block
          cases queued.symm.trans empty
      | pooled free idle agent empty => exact absurd rfl owes
  | took waits result =>
      rw [stepsLeft_setThread]
      rcases waits with rfl | rfl <;> exact .inr (by simp [EduPc.stepsLeft])
  | ranOut => exact .inr (by simp [stepsLeft_setThread, EduPc.stepsLeft])
  | forced block forced => cases (quiet.calm.blocks block).symm.trans forced
  | again block unforced => exact .inr (by simp [stepsLeft_setThread, EduPc.stepsLeft])
  | resumed unforced resume result =>
      exact .inr (by simp [stepsLeft_setThread, EduPc.stepsLeft])
  | dismissed other =>
      rcases phase_serving phase found here rfl (by simp) (by simp) with ⟨cb, held, rfl⟩
      have serves := held.serves
      rw [here] at serves
      rcases serves with ⟨⟨arg, rfl⟩, running⟩
      exact absurd ⟨held.thread.unforced, rfl⟩ other
  | entered entry =>
      rw [(quiet.life.structured.threads found).1]
      exact .inl (by simp [servedBy])
  | skipped entry =>
      rcases phase_serving phase found here rfl (by simp) (by simp) with ⟨cb, held, rfl⟩
      rw [held.thread.typed, held.thread.entry] at entry
      cases entry
  | wentOn result => exact absurd (phase_returning phase found here).1 owes
  | gaveBack result => exact absurd (phase_returning phase found here).1 owes
  | _ =>
      rcases phase_serving phase found here rfl (by simp) (by simp) with ⟨cb, held, rfl⟩
      exact absurd rfl owes

/-- A request to the EDU has been accepted and not yet served. -/
structure Owes (s : EduSystem) (p : Ptr) : Prop where
  quiet : s.Undisturbed
  owes : ∃ owed, EduPhase s p owed ∧ owed ≠ []

/-- The thread of the EDU is on its way through `returnEDU`. -/
structure Leaves (s : EduSystem) (p : Ptr) : Prop where
  quiet : s.Undisturbed
  leaves : ∃ t, s.threads p = some t ∧ (t.pc = .left ∨ ∃ stage, t.pc = .returning stage)

theorem Owes.thread (owes : s.Owes p) : ∃ t, s.threads p = some t ∧ 0 < t.pc.stepsLeft := by
  rcases owes.owes with ⟨owed, phase, some_⟩
  cases phase with
  | @waiting cb t owed thread waits awaits =>
      refine ⟨t, thread.thread, ?_⟩
      cases here : t.pc <;> simp [here, EduPc.waits, EduPc.stepsLeft] at waits ⊢
  | @serving cb t free run empty thread serves =>
      refine ⟨t, thread.thread, ?_⟩
      cases here : t.pc <;> simp [here, owedAt, EduPc.stepsLeft] at some_ ⊢
  | _ => exact absurd rfl some_

theorem Owes.remains (owes : s.Owes p) : 0 < s.stepsLeft p := by
  rcases owes.thread with ⟨t, found, positive⟩
  rwa [stepsLeft_thread found]

/-- Every step serves the request or brings the thread closer to it, if it is its own. -/
theorem Owes.step (owes : s.Owes p) (undisturbed : action.isUndisturbed = true)
    (completes : exec maxPool action s = some (reply, s')) :
    servedBy (p + 1) reply ≠ [] ∨
      s'.Owes p ∧ s'.stepsLeft p + (action.isBy p).toNat ≤ s.stepsLeft p := by
  rcases owes.thread with ⟨t, found, -⟩
  rcases owes.owes with ⟨owed, phase, some_⟩
  rcases owes.quiet.advances undisturbed completes phase with ⟨after, next, balance⟩
  cases served : servedBy (p + 1) reply with
  | cons first rest => exact .inl (by simp)
  | nil =>
      refine .inr ⟨⟨owes.quiet.step undisturbed completes, after, next, ?_⟩, ?_⟩
      · rw [served, List.nil_append] at balance
        rw [← balance]
        exact List.append_ne_nil_of_left_ne_nil some_ _
      · rw [stepsLeft_thread found]
        cases own : action.isBy p with
        | false =>
            have kept := owes.quiet.thread_kept undisturbed completes found own
            rw [stepsLeft_thread kept]
            exact Nat.le_refl _
        | true =>
            cases action with
            | thread q choice =>
                cases of_decide_eq_true own
                rcases Option.bind_eq_some_iff.mp completes with ⟨u, acts, stepped⟩
                cases found.symm.trans acts
                rcases threadStep_owing owes.quiet phase some_ found rfl
                  (stepThread_step stepped) with serves | closer
                · exact absurd served serves
                · exact closer
            | _ => cases own

/-- A thread on its way through `returnEDU` comes back from it or comes closer to that. -/
theorem threadStep_leaving {pc : EduPc} {choice : EduChoice} (named : t.id = p + 1)
    (leaves : pc = .left ∨ ∃ stage, pc = .returning stage)
    (step : ThreadStep s maxPool p t pc choice reply s') :
    (∃ rc destroyed, reply = .gaveBack (p + 1) rc destroyed) ∨
      s'.stepsLeft p < pc.stepsLeft ∧
        ∃ u stage, s'.threads p = some u ∧ u.pc = .returning stage := by
  cases step with
  | leaving result =>
      exact .inr ⟨by simp [stepsLeft_setThread, EduPc.stepsLeft], _, _,
        Function.update_self .., rfl⟩
  | wentOn result =>
      refine .inr ⟨?_, _, _, Function.update_self .., rfl⟩
      rw [stepsLeft_setThread]
      rcases (EduMgr.returnEdu_goesOn result).2 with
        ⟨rfl, q, other, -, -, rfl⟩ | ⟨type, rfl, rfl | ⟨rfl, -⟩⟩ | ⟨rfl, rfl | ⟨rfl, -⟩⟩ <;>
        simp [EduPc.stepsLeft]
  | gaveBack result =>
      rw [named]
      exact .inl ⟨_, _, rfl⟩
  | took waits result =>
      rcases waits with rfl | rfl <;> rcases leaves with same | ⟨stage, same⟩ <;> cases same
  | _ => rcases leaves with same | ⟨stage, same⟩ <;> cases same

theorem Leaves.remains (leaves : s.Leaves p) : 0 < s.stepsLeft p := by
  rcases leaves.leaves with ⟨t, found, here | ⟨stage, here⟩⟩
  · rw [stepsLeft_thread found, here]
    decide
  · rw [stepsLeft_thread found, here]
    cases stage <;> simp [EduPc.stepsLeft]

theorem Leaves.step (leaves : s.Leaves p) (undisturbed : action.isUndisturbed = true)
    (completes : exec maxPool action s = some (reply, s')) :
    (∃ rc destroyed, reply = .gaveBack (p + 1) rc destroyed) ∨
      s'.Leaves p ∧ s'.stepsLeft p + (action.isBy p).toNat ≤ s.stepsLeft p := by
  rcases leaves.leaves with ⟨t, found, here⟩
  rw [stepsLeft_thread found]
  have quiet := leaves.quiet.step undisturbed completes
  cases own : action.isBy p with
  | false =>
      have kept := leaves.quiet.thread_kept undisturbed completes found own
      rw [stepsLeft_thread kept]
      exact .inr ⟨⟨quiet, t, kept, here⟩, Nat.le_refl _⟩
  | true =>
      cases action with
      | thread q choice =>
          cases of_decide_eq_true own
          rcases Option.bind_eq_some_iff.mp completes with ⟨u, acts, stepped⟩
          cases found.symm.trans acts
          rcases threadStep_leaving (leaves.quiet.life.structured.threads found).1 here
            (stepThread_step stepped) with back | ⟨closer, u, stage, there, returning⟩
          · exact .inl back
          · exact .inr ⟨⟨quiet, u, there, .inr ⟨stage, returning⟩⟩, closer⟩
      | _ => cases own

/-! ### Giving an EDU back -/

/-- How `returnEDU` leaves an EDU that its thread gives back. -/
inductive GivenBack (s : EduSystem) (id : EduId) : Bool → Prop where
  | destroyed {p : Ptr} {t : EduThread} (run : s.mgr.runQueue.lookup id = none)
      (idle : s.mgr.idleQueue.lookup id = none) (thread : s.threads p = some t)
      (named : t.id = id) (ended : t.pc = .exited) : GivenBack s id true
  | pooled {p : Ptr} {cb : ControlBlock} (idle : s.mgr.idleQueue.lookup id = some p)
      (block : s.mgr.blocks p = some cb) (status : cb.status = .idle) : GivenBack s id false

theorem Undisturbed.givenBack {id : EduId} {rc : ReturnCode} {destroyed : Bool}
    (quiet : s.Undisturbed) (undisturbed : action.isUndisturbed = true)
    (completes : exec maxPool action s = some (.gaveBack id rc destroyed, s')) :
    GivenBack s' id destroyed := by
  cases action with
  | startEdu type arg => cases completes
  | stepStart c granted =>
      rcases Option.bind_eq_some_iff.mp completes with ⟨call, called, stepped⟩
      have step := stepStart_step stepped
      generalize call.stage = stage at step
      cases step
  | thread p choice =>
      rcases Option.bind_eq_some_iff.mp completes with ⟨t, found, stepped⟩
      rcases quiet.life.phases p with ⟨owed, phase⟩
      have step := stepThread_step stepped
      generalize here : t.pc = pc at step
      cases step with
      | gaveBack result =>
          have named := (quiet.life.structured.threads found).1
          rcases (threadStep_gaveBack quiet.life.structured phase found here result).2 with
            ⟨rfl, left⟩ | ⟨rfl, cb, idle⟩
          · rw [named]
            exact .destroyed left.run left.idle (Function.update_self ..) rfl rfl
          · rw [named]
            exact .pooled idle.found idle.block idle.idle
  | _ => cases undisturbed

/-- From the call of its entry function until it is given back, an EDU is not in the idle
queue. -/
theorem Undisturbed.notIdle (quiet : s.Undisturbed) (found : s.threads p = some t)
    (busy : t.pc = .inEntry ∨ t.pc = .left ∨ ∃ stage, t.pc = .returning stage) :
    s.mgr.idleQueue.lookup (p + 1) = none := by
  rcases quiet.life.phases p with ⟨owed, phase⟩
  have serves : (∃ cb, s.Serves p cb t) ∨ t.isForced = true := by
    rcases busy with here | here | ⟨stage, here⟩
    · rcases phase_serving phase found here rfl (by simp) (by simp) with ⟨cb, held, -⟩
      exact .inl ⟨cb, held⟩
    · rcases phase_serving phase found here rfl (by simp) (by simp) with ⟨cb, held, -⟩
      exact .inl ⟨cb, held⟩
    · rcases (phase_returning phase found here).2 with held | ⟨cb, -, -, forced, -⟩
      · exact .inl held
      · exact .inr forced
  rcases serves with ⟨cb, held⟩ | forced
  · exact quiet.life.structured.mgr.apart held.run.found
  · cases (quiet.calm.threads found).symm.trans forced

end EduSystem

/-! ### Whole runs -/

/-- The runs without a force. -/
abbrev UndisturbedRun (maxPool : Nat) (start : EduSystem) (trace : EduTrace) (s : EduSystem) :
    Prop :=
  Run (EduSystem.exec maxPool) (fun _ _ action => action.isUndisturbed = true) start trace s

namespace UndisturbedRun

variable {maxPool : Nat} {trace later : EduTrace} {s s' : EduSystem} {p : Ptr}

theorem undisturbed (run : UndisturbedRun maxPool .init trace s) : s.Undisturbed := by
  induction run with
  | start => exact EduSystem.init_undisturbed
  | step past guard completes ih => exact ih.step guard completes

/-- What an EDU owes is what it has accepted and not yet served. -/
theorem balance (run : UndisturbedRun maxPool .init trace s) (p : Ptr) :
    ∃ owed, EduPhase s p owed ∧
      started (p + 1) trace = entered (p + 1) trace ++ owed := by
  induction run with
  | start => exact ⟨[], .absent ⟨rfl, rfl, rfl⟩ rfl (fun c call id found => by cases found), rfl⟩
  | step past guard completes ih =>
      rcases ih with ⟨owed, phase, same⟩
      rcases (undisturbed past).advances guard completes phase with ⟨after, next, moved⟩
      refine ⟨after, next, ?_⟩
      simp only [started, entered, List.flatMap_append, List.flatMap_singleton] at same ⊢
      rw [same, List.append_assoc, List.append_assoc, moved]

theorem started_zero (run : UndisturbedRun maxPool .init trace s) :
    started 0 trace = [] ∧ entered 0 trace = [] := by
  induction run with
  | start => exact ⟨rfl, rfl⟩
  | step past guard completes ih =>
      have unnamed := (undisturbed past).reply_named guard completes
      simp only [started, entered, List.flatMap_append, List.flatMap_singleton] at ih ⊢
      rw [ih.1, ih.2, unnamed.1, unnamed.2]
      exact ⟨rfl, rfl⟩

/-- Nine steps of the EDU's own thread later, all that was accepted has been served. -/
theorem served (run : UndisturbedRun maxPool .init trace s)
    (goesOn : UndisturbedRun maxPool s later s')
    (enough : 9 ≤ later.countP (EduAction.isBy p ·.action)) :
    started (p + 1) trace <+: entered (p + 1) (trace ++ later) := by
  rcases balance run p with ⟨owed, phase, same⟩
  rcases balance (Run.append run goesOn) p with ⟨after, -, final⟩
  have longer : entered (p + 1) (trace ++ later) =
      entered (p + 1) trace ++ entered (p + 1) later := by
    simp [entered]
  rcases eq_or_ne owed [] with rfl | owes
  · rw [longer, same, List.append_nil]
    exact List.prefix_append ..
  · have done : ∃ t ∈ later, servedBy (p + 1) t.reply ≠ [] :=
      Run.done_within (EduSystem.Owes · p) (EduAction.isBy p) (EduSystem.stepsLeft · p)
        EduSystem.Owes.step EduSystem.Owes.remains goesOn ⟨undisturbed run, owed, phase, owes⟩
        (Nat.le_trans (s.stepsLeft_le p) enough)
    have some_ : 1 ≤ (entered (p + 1) later).length := by
      rcases done with ⟨t, member, serves⟩
      rw [entered, Nat.one_le_iff_ne_zero, ne_eq, List.length_eq_zero_iff,
        List.flatMap_eq_nil_iff]
      exact fun none => serves (none t member)
    have accepted : started (p + 1) trace <+: started (p + 1) (trace ++ later) := by
      rw [started, started, List.flatMap_append]
      exact List.prefix_append ..
    have answered : entered (p + 1) (trace ++ later) <+: started (p + 1) (trace ++ later) := by
      rw [final]
      exact List.prefix_append ..
    apply List.prefix_of_prefix_length_le accepted answered
    rw [same, longer, List.length_append, List.length_append]
    exact Nat.add_le_add_left (Nat.le_trans (EduSystem.phase_owes phase) some_) _

/-- Five steps of its own after the entry function has returned, a thread has given its
EDU back. -/
theorem returned {t : EduThread} (run : UndisturbedRun maxPool .init trace s)
    (found : s.threads p = some t) (here : t.pc = .left)
    (goesOn : UndisturbedRun maxPool s later s')
    (enough : 5 ≤ later.countP (EduAction.isBy p ·.action)) :
    ∃ u ∈ later, ∃ rc destroyed, u.reply = .gaveBack (p + 1) rc destroyed := by
  have five : s.stepsLeft p = 5 := by
    rw [EduSystem.stepsLeft_thread found, here]
    rfl
  exact Run.done_within (EduSystem.Leaves · p) (EduAction.isBy p) (EduSystem.stepsLeft · p)
    EduSystem.Leaves.step EduSystem.Leaves.remains goesOn ⟨undisturbed run, t, found, .inl here⟩
    (five ▸ enough)

theorem givenBack (run : UndisturbedRun maxPool .init trace s) :
    ∀ t ∈ trace, ∀ id rc destroyed, t.reply = .gaveBack id rc destroyed →
      EduSystem.GivenBack t.post id destroyed := by
  induction run with
  | start => exact fun t member => by cases member
  | step past guard completes ih =>
      rw [List.forall_mem_append, List.forall_mem_singleton]
      refine ⟨ih, ?_⟩
      rintro id rc destroyed rfl
      exact (undisturbed past).givenBack guard completes

end UndisturbedRun

/-- The life of EDUs without a force.  What an EDU's thread has served is what `startEDU`
has accepted for the EDU, in order, but for one request; that one is served within nine steps
of the thread, which can always go on; and from the call of the entry function on, the EDU
is in the idle queue again only when `returnEDU` has put it there, idle, within five steps
of the thread, unless it has destroyed the EDU. -/
structure Sessions (maxPool : Nat) (trace : EduTrace) (s : EduSystem) : Prop where
  matched : ∀ id, ∃ pending, started id trace = entered id trace ++ pending ∧
    pending.length ≤ 1
  served : ∀ p later s', UndisturbedRun maxPool s later s' →
    9 ≤ later.countP (EduAction.isBy p ·.action) →
      started (p + 1) trace <+: entered (p + 1) (trace ++ later)
  goesOn : ∀ p t, s.threads p = some t → t.pc ≠ .exited →
    ∃ choice, (EduSystem.exec maxPool (.thread p choice) s).isSome = true
  events : ∀ p cb, s.mgr.blocks p = some cb → cb.queue.length ≤ 1
  busy : ∀ p t, s.threads p = some t →
    t.pc = .inEntry ∨ t.pc = .left ∨ (∃ stage, t.pc = .returning stage) →
      s.mgr.idleQueue.lookup (p + 1) = none
  returned : ∀ p t later s', s.threads p = some t → t.pc = .left →
    UndisturbedRun maxPool s later s' → 5 ≤ later.countP (EduAction.isBy p ·.action) →
      ∃ u ∈ later, ∃ rc destroyed, u.reply = .gaveBack (p + 1) rc destroyed
  givenBack : ∀ t ∈ trace, ∀ id rc destroyed, t.reply = .gaveBack id rc destroyed →
    EduSystem.GivenBack t.post id destroyed

/-- Every accepted request is served once and only once. -/
theorem sessions_served {maxPool : Nat} {trace : EduTrace} {s : EduSystem}
    (run : UndisturbedRun maxPool .init trace s) : Sessions maxPool trace s where
  matched id := by
    cases id with
    | zero =>
        have unnamed := run.started_zero
        exact ⟨[], by rw [unnamed.1, unnamed.2, List.append_nil], Nat.zero_le _⟩
    | succ p =>
        rcases run.balance p with ⟨owed, phase, same⟩
        exact ⟨owed, same, EduSystem.phase_owes phase⟩
  served p later s' goesOn enough := run.served goesOn enough
  goesOn p t found alive := run.undisturbed.goesOn maxPool found alive
  events p cb block := by
    rcases run.balance p with ⟨owed, phase, -⟩
    exact EduSystem.phase_queue phase block
  busy p t found here := run.undisturbed.notIdle found here
  returned p t later s' found here goesOn enough := run.returned found here goesOn enough
  givenBack := run.givenBack

/-- A session of an agent, and a second request that takes the agent from the pool. -/
def secondSession : List EduAction :=
  agentSession ++ .startEdu .agent 8 :: List.replicate 3 (.stepStart 1 true)

theorem sessions_served_second :
    ∃ trace s, UndisturbedRun 5 .init trace s ∧
      (s.mgr.blocks 0).map ControlBlock.queue = some [resumeEvent 8] ∧ Sessions 5 trace s := by
  have ends : (Run.follow (EduSystem.exec 5) (fun _ action => action.isUndisturbed)
      secondSession .init).map (fun s => (s.mgr.blocks 0).map ControlBlock.queue) =
        some (some [resumeEvent 8]) := rfl
  rcases Option.map_eq_some_iff.mp ends with ⟨s, followed, posted⟩
  rcases Run.of_follow id .start followed with ⟨trace, run⟩
  exact ⟨_, s, run, posted, sessions_served run⟩

end EmeraldDb
