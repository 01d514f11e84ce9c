/-
Module: EmeraldDb.Proofs.EduForce
Purpose: The forced flag of a control block outlives the session it was aimed at, unless
  no forced EDU is ever idle.
Trusted boundary: none
Main exports: EduMgr.PoolUnforced, EduSystem.poolsUnforced, selected_unforced,
  forcedAgent_selected
-/
import EmeraldDb.Proofs.EduStructure

namespace EmeraldDb

namespace EduMgr

variable {s s' : EduMgr} {id key : EduId} {p : Ptr} {rc : ReturnCode} {label : EduLabel}

/-- No control block in the idle queue is forced. -/
def PoolUnforced (s : EduMgr) : Prop :=
  ∀ id p cb, s.idleQueue.lookup id = some p → s.blocks p = some cb → cb.isForced = false

/-- A key that a loop over a queue stops at. -/
theorem firstKey_stops {q : EduQueue} {stop : ControlBlock → Bool}
    (first : s.firstKey q stop = some key) :
    ∃ p, q.lookup key = some p ∧ ∀ cb, s.blocks p = some cb → stop cb = true := by
  have member := Finset.mem_filter.mp (Finset.mem_of_min first)
  rcases Option.isSome_iff_exists.mp (Finmap.lookup_isSome.mpr (Finmap.mem_keys.mp member.1)) with
    ⟨p, found⟩
  refine ⟨p, found, fun cb block => ?_⟩
  simpa [found, block] using member.2

/-- A loop that finds nothing to stop at has seen no deleted control block. -/
theorem firstKey_none {q : EduQueue} {stop : ControlBlock → Bool}
    (none : s.firstKey q stop = none) (found : q.lookup key = some p) :
    ∃ cb, s.blocks p = some cb ∧ stop cb = false := by
  have member : key ∈ q.keys :=
    Finmap.mem_keys.mpr (Finmap.lookup_isSome.mp (found ▸ rfl))
  have passed : ¬ (((q.lookup key).bind s.blocks).all stop = true) := fun stops =>
    Finset.eq_empty_iff_forall_notMem.mp (Finset.min_eq_top.mp none) key
      (Finset.mem_filter.mpr ⟨member, stops⟩)
  rw [found, Option.bind_some] at passed
  cases block : s.blocks p with
  | none => simp [block] at passed
  | some cb => exact ⟨cb, rfl, by simpa [block] using passed⟩

/-- The EDU that forceUserEDU forces stands in a queue under the given id. -/
theorem forceKey_forces (structured : s.Structured) {q : EduQueue}
    (queued : ∀ p, q.lookup key = some p → s.Queued key p)
    (first : s.firstKey q (fun cb => cb.id = id) = some key)
    (forced : s.forceKey q key = some s') :
    ∃ p cb, s.Queued id p ∧ s.blocks p = some cb ∧
      s' = s.setBlock p { cb with isForced := true } := by
  rcases firstKey_stops first with ⟨p, found, stops⟩
  simp only [forceKey, found, Option.bind_some, Option.map_eq_some_iff] at forced
  rcases forced with ⟨cb, block, rfl⟩
  have named : cb.id = id := by simpa using stops cb block
  have same : key = id := by
    rw [(structured.queued (queued p found)).1, ← (structured.allocated block).1, named]
  exact ⟨p, cb, same ▸ queued p found, block, rfl⟩

/-- forceUserEDU forces the EDU with the given id, unless there is none or it is a system
EDU. -/
theorem forceUserEdu_forces (structured : s.Structured)
    (result : s.forceUserEdu id = some (rc, s')) :
    s' = s ∧ (s.isSystemEdu id = true ∨ ∀ p, ¬ s.Queued id p) ∨
      s.isSystemEdu id = false ∧ ∃ p cb, s.Queued id p ∧ s.blocks p = some cb ∧
        s' = s.setBlock p { cb with isForced := true } := by
  have unnamed : ∀ {q : EduQueue}, (∀ p, q.lookup id = some p → s.Queued id p) →
      s.firstKey q (fun cb => cb.id = id) = none → ∀ p, q.lookup id ≠ some p := by
    intro q queued none p found
    rcases firstKey_none none found with ⟨cb, block, other⟩
    have named := (structured.allocated block).1.trans (structured.queued (queued p found)).1.symm
    simp [named] at other
  unfold forceUserEdu at result
  split at result
  · next system =>
      cases result
      exact .inl ⟨rfl, .inl system⟩
  · next user =>
      have user : s.isSystemEdu id = false := by simpa using user
      split at result
      · next key first =>
          rcases Option.map_eq_some_iff.mp result with ⟨after, forced, same⟩
          cases same
          exact .inr ⟨user, forceKey_forces structured (fun p found => .inl found) first forced⟩
      · next noRun =>
          split at result
          · next key first =>
              rcases Option.map_eq_some_iff.mp result with ⟨after, forced, same⟩
              cases same
              exact .inr ⟨user,
                forceKey_forces structured (fun p found => .inr found) first forced⟩
          · next noIdle =>
              cases result
              refine .inl ⟨rfl, .inr fun p queued => ?_⟩
              rcases queued with ran | idled
              · exact unnamed (fun p found => .inl found) noRun p ran
              · exact unnamed (fun p found => .inr found) noIdle p idled

/-- The flag of idle EDUs changes by a force, or an EDU is pooled with its flag. -/
theorem Change.poolUnforced (change : Change s label s') (unforced : s.PoolUnforced)
    (calm : label ≠ .force)
    (pools : ∀ id p cb, label = .pool id → s.runQueue.lookup id = some p →
      s.blocks p = some cb → cb.status = .waiting ∨ cb.status = .creating →
        cb.isForced = false) : s'.PoolUnforced := by
  intro id p cb idled block
  rcases change.block block with ⟨-, -, fresh⟩ | ⟨before, old, same | forced, -⟩
  · exact fresh
  · rw [same]
    rcases change.idled idled with was | ⟨rfl, ran⟩
    · exact unforced id p before was old
    · cases change with
      | pool found here waits =>
          cases found.symm.trans ran
          cases here.symm.trans old
          exact pools id p before rfl ran old waits
  · exact absurd forced calm

/-- An EDU that is pooled takes its flag with it. -/
theorem deactivateEdu_unforced {cb : ControlBlock} (result : s.deactivateEdu id = some (rc, s'))
    (unforced : s'.PoolUnforced) (ran : s.runQueue.lookup id = some p)
    (block : s.blocks p = some cb) (waits : cb.status = .waiting ∨ cb.status = .creating) :
    cb.isForced = false := by
  have busy : cb.status ≠ .idle := by
    rcases waits with waits | waits <;> simp [waits]
  have ready : ¬ (cb.status ≠ .waiting ∧ cb.status ≠ .creating) := by tauto
  simp only [deactivateEdu, ran, block, Option.bind_some, if_neg busy, if_neg ready,
    Option.some.injEq, Prod.mk.injEq] at result
  rcases result with ⟨-, rfl⟩
  exact unforced id p { cb with status := .idle } (by simp [setBlock, moveToIdle])
    (Function.update_self ..)

/-- Forcing an EDU that is not idle. -/
theorem PoolUnforced.force {cb : ControlBlock} (unforced : s.PoolUnforced)
    (structured : s.Structured) (queued : s.Queued id p)
    (absent : s.idleQueue.lookup id = none) :
    (s.setBlock p { cb with isForced := true }).PoolUnforced := by
  intro key q other idled block
  rcases blocks_setBlock block with ⟨rfl, -⟩ | old
  · rw [(structured.queued queued).1, ← (structured.idled idled).1] at absent
    cases absent.symm.trans idled
  · exact unforced key q other idled old

end EduMgr

namespace EduSystem

variable {s s' : EduSystem} {maxPool : Nat} {reply : EduReply} {action : EduAction}
  {id : EduId} {p : Ptr}

/-- If this is the section that pools an EDU, the EDU is not forced. -/
def stagePoolsUnforced (s : EduSystem) (id : EduId) : ReturnStage → Bool
  | .deactivate =>
      ((s.mgr.runQueue.lookup id).bind s.mgr.blocks).all fun cb =>
        !(cb.isForced && (cb.status = .waiting || cb.status = .creating))
  | _ => true

/-- No EDU is forced while it is idle, and none is pooled while it is forced. -/
def poolsUnforced (s : EduSystem) : EduAction → Bool
  | .forceUserEdu id => s.mgr.isSystemEdu id || (s.mgr.idleQueue.lookup id).isNone
  | .stepReturn r =>
      (s.returns r).all fun call => s.stagePoolsUnforced call.id call.stage
  | .thread p _ =>
      (s.threads p).all fun t =>
        match t.pc with
        | .returning stage => s.stagePoolsUnforced t.id stage
        | _ => true
  | _ => true

theorem stagePoolsUnforced_deactivate {cb : ControlBlock}
    (meets : s.stagePoolsUnforced id .deactivate = true)
    (ran : s.mgr.runQueue.lookup id = some p) (block : s.mgr.blocks p = some cb)
    (waits : cb.status = .waiting ∨ cb.status = .creating) : cb.isForced = false := by
  rcases waits with waits | waits <;>
    simpa [stagePoolsUnforced, ran, block, waits] using meets

theorem Pools.unforced {cb : ControlBlock} (pools : s.Pools action id)
    (meets : s.poolsUnforced action = true) (ran : s.mgr.runQueue.lookup id = some p)
    (block : s.mgr.blocks p = some cb)
    (waits : cb.status = .waiting ∨ cb.status = .creating) : cb.isForced = false := by
  rcases pools with ⟨r, call, rfl, found, rfl, staged⟩ | ⟨q, t, rfl, found, rfl, staged⟩
  · simp only [poolsUnforced, found, Option.all_some, staged] at meets
    exact stagePoolsUnforced_deactivate meets ran block waits
  · simp only [poolsUnforced, found, Option.all_some, staged] at meets
    exact stagePoolsUnforced_deactivate meets ran block waits

/-- The actions before the shutdown, which forces all EDUs at once. -/
def beforeShutdown : EduAction → Bool
  | .forceEdus _ => false
  | _ => true

theorem poolUnforced_of_meets (structured : s.Structured) (unforced : s.mgr.PoolUnforced)
    (early : beforeShutdown action = true) (meets : s.poolsUnforced action = true)
    (completes : exec maxPool action s = some (reply, s')) : s'.mgr.PoolUnforced := by
  cases forcing : forces action with
  | false =>
      rcases exec_change completes with ⟨label, change, permits⟩
      apply change.poolUnforced unforced
      · rintro rfl
        cases forcing.symm.trans permits
      · rintro id p cb rfl ran block waits
        exact permits.unforced meets ran block waits
  | true =>
      cases action with
      | forceEdus property => cases early
      | forceUserEdu id =>
          rcases Option.map_eq_some_iff.mp completes with ⟨⟨rc, mgr⟩, forced, same⟩
          cases same
          rcases EduMgr.forceUserEdu_forces structured.mgr forced with
            ⟨rfl, -⟩ | ⟨user, p, cb, queued, block, rfl⟩
          · exact unforced
          · apply unforced.force structured.mgr queued
            simpa [poolsUnforced, user] using meets
      | _ => cases forcing

theorem stagePoolsUnforced_of_returnEdu {force : Bool} {stage : ReturnStage}
    {outcome : ReturnOutcome} {mgr : EduMgr}
    (result : s.mgr.returnEdu maxPool id force stage = some (outcome, mgr))
    (unforced : mgr.PoolUnforced) : s.stagePoolsUnforced id stage = true := by
  cases stage with
  | deactivate =>
      rcases Option.map_eq_some_iff.mp result with ⟨⟨rc, after⟩, deactivated, same⟩
      cases same
      rw [stagePoolsUnforced, Option.all_eq_true]
      intro cb found
      rcases Option.bind_eq_some_iff.mp found with ⟨p, ran, block⟩
      cases flag : cb.isForced with
      | false => rfl
      | true =>
          have rests : ¬ (cb.status = .waiting ∨ cb.status = .creating) := fun waits => by
            cases flag.symm.trans
              (EduMgr.deactivateEdu_unforced deactivated unforced ran block waits)
          simpa using rests
  | _ => rfl

/-- The condition is exact for the pool: a step that does not meet it leaves a forced EDU
in the idle queue. -/
theorem meets_of_poolUnforced (structured : s.Structured) (unforced : s'.mgr.PoolUnforced)
    (completes : exec maxPool action s = some (reply, s')) : s.poolsUnforced action = true := by
  cases action with
  | forceUserEdu id =>
      rcases Option.map_eq_some_iff.mp completes with ⟨⟨rc, mgr⟩, forced, same⟩
      cases same
      simp only [poolsUnforced, Bool.or_eq_true, Option.isNone_iff_eq_none]
      rcases EduMgr.forceUserEdu_forces structured.mgr forced with
        ⟨-, system | absent⟩ | ⟨-, p, cb, queued, block, rfl⟩
      · exact .inl system
      · exact .inr (Option.eq_none_iff_forall_ne_some.mpr fun p found => absent p (.inr found))
      · refine .inr (Option.eq_none_iff_forall_ne_some.mpr fun q found => ?_)
        have same : q = p := Nat.succ.inj
          ((structured.mgr.idled found).1.symm.trans (structured.mgr.queued queued).1)
        cases same
        have kept := unforced id p { cb with isForced := true } found (Function.update_self ..)
        cases kept
  | stepReturn r =>
      rcases Option.bind_eq_some_iff.mp completes with ⟨call, found, stepped⟩
      rcases Option.map_eq_some_iff.mp stepped with ⟨⟨outcome, mgr⟩, returned, same⟩
      have after : s'.mgr = mgr := by
        cases outcome <;> cases same <;> rfl
      rw [after] at unforced
      simp only [poolsUnforced, found, Option.all_some]
      exact stagePoolsUnforced_of_returnEdu returned unforced
  | thread p choice =>
      rcases Option.bind_eq_some_iff.mp completes with ⟨t, found, stepped⟩
      have step := stepThread_step stepped
      simp only [poolsUnforced, found, Option.all_some]
      generalize t.pc = pc at step
      cases step with
      | wentOn result => exact stagePoolsUnforced_of_returnEdu result unforced
      | gaveBack result => exact stagePoolsUnforced_of_returnEdu result unforced
      | took waits result => rcases waits with rfl | rfl <;> rfl
      | _ => rfl
  | _ => rfl

theorem init_poolUnforced : init.mgr.PoolUnforced := by
  intro id p cb found
  cases found

end EduSystem

/-- Before the shutdown, no idle EDU is ever forced exactly if none is forced while it is
idle and none is pooled while it is forced. -/
theorem EduRun.poolUnforced_iff {maxPool : Nat} {trace : EduTrace} {s : EduSystem}
    {allowed : EduTrace → EduSystem → EduAction → Prop} (run : EduRun maxPool allowed trace s)
    (early : ∀ {trace s action}, allowed trace s action →
      EduSystem.beforeShutdown action = true) :
    ((∀ t ∈ trace, t.post.mgr.PoolUnforced) ↔
        ∀ t ∈ trace, t.pre.poolsUnforced t.action = true) ∧
      ((∀ t ∈ trace, t.post.mgr.PoolUnforced) → s.mgr.PoolUnforced) :=
  run.holds_iff EduRun.structured EduSystem.init_poolUnforced
    fun structured unforced guard completes =>
      ⟨fun after => EduSystem.meets_of_poolUnforced structured after completes,
        fun meets => EduSystem.poolUnforced_of_meets structured unforced (early guard) meets
          completes⟩

/-- If no EDU is forced while it is idle and none is pooled while it is forced, every EDU
that startEDU takes from the pool is unforced. -/
theorem selected_unforced {maxPool : Nat} {trace : EduTrace} {s : EduSystem}
    (run : EduRun maxPool
      (fun _ s action =>
        EduSystem.beforeShutdown action = true ∧ s.poolsUnforced action = true) trace s)
    {type : EduType} {id : EduId} {p : Ptr} {mgr : EduMgr}
    (selects : s.mgr.selectIdle type = some (.chosen id p, mgr)) :
    ∃ cb, s.mgr.blocks p = some cb ∧ cb.isForced = false := by
  have exact_ := EduRun.poolUnforced_iff run And.left
  have unforced := exact_.2 (exact_.1.mpr fun t member => (run.forall_guard t member).2)
  rcases EduMgr.selectIdle_chosen selects with ⟨cb, found, block, -⟩
  exact ⟨cb, block, unforced id p cb found block⟩

theorem selected_unforced_session :
    ∃ trace s mgr cb, EduRun 5
      (fun _ s action =>
        EduSystem.beforeShutdown action = true ∧ s.poolsUnforced action = true) trace s ∧
      s.mgr.selectIdle .agent = some (.chosen 1 0, mgr) ∧ s.mgr.blocks 0 = some cb ∧
      cb.isForced = false := by
  have ends : (Run.follow (EduSystem.exec 5)
      (fun s action => EduSystem.beforeShutdown action && s.poolsUnforced action)
      agentSession .init).map (fun s => (s.mgr.selectIdle .agent).map Prod.fst) =
        some (some (.chosen 1 0)) := rfl
  rcases Option.map_eq_some_iff.mp ends with ⟨s, followed, selected⟩
  rcases Option.map_eq_some_iff.mp selected with ⟨⟨selection, mgr⟩, selects, rfl⟩
  rcases Run.of_follow (fun passes => by simpa using passes) .start followed with
    ⟨trace, run⟩
  rcases selected_unforced run selects with ⟨cb, block, unforced⟩
  exact ⟨_, s, mgr, cb, run, selects, block, unforced⟩

/-- An agent is forced during its session; after the session it is pooled, and the next
startEDU of an agent has passed its first test. -/
def forcedSessionRun : List EduAction :=
  .startEdu .agent 7 :: List.replicate 6 (.stepStart 0 true) ++
    List.replicate 3 (.thread 0 .goOn) ++ .thread 0 .take ::
    List.replicate 3 (.thread 0 .goOn) ++ .forceUserEdu 1 ::
    List.replicate 6 (.thread 0 .goOn) ++ [.startEdu .agent 8, .stepStart 1 true]

/-- The forced EDU is what startEDU takes from the pool for the new session. -/
theorem forcedAgent_selected :
    ∃ trace s mgr cb, EduRun 5 (fun _ _ action => EduSystem.beforeShutdown action = true)
        trace s ∧
      s.mgr.selectIdle .agent = some (.chosen 1 0, mgr) ∧ s.mgr.blocks 0 = some cb ∧
      cb.isForced = true := by
  have ends : (Run.follow (EduSystem.exec 5) (fun _ action => EduSystem.beforeShutdown action)
      forcedSessionRun .init).map (fun s =>
        ((s.mgr.selectIdle .agent).map Prod.fst, (s.mgr.blocks 0).map ControlBlock.isForced)) =
        some (some (.chosen 1 0), some true) := rfl
  rcases Option.map_eq_some_iff.mp ends with ⟨s, followed, seen⟩
  rcases Option.map_eq_some_iff.mp (congrArg Prod.fst seen) with ⟨⟨selection, mgr⟩, selects, rfl⟩
  rcases Option.map_eq_some_iff.mp (congrArg Prod.snd seen) with ⟨cb, block, forced⟩
  rcases Run.of_follow id .start followed with ⟨trace, run⟩
  exact ⟨_, s, mgr, cb, run, selects, block, forced⟩

end EmeraldDb
