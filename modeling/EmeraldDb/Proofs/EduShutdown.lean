/-
Module: EmeraldDb.Proofs.EduShutdown
Purpose: When the queues stay empty after _destroyAll has returned.
Trusted boundary: none
Main exports: EduSystem.Closed, EduServer.Shut, quiesce_final_iff
-/
import EmeraldDb.Pmd.EduShutdown
import EmeraldDb.Proofs.EduFlags
import EmeraldDb.Proofs.EduStructure

namespace EmeraldDb

theorem queue_eq_empty {q : EduQueue} (none : ∀ id p, q.lookup id ≠ some p) : q = ∅ := by
  apply Finmap.ext_lookup
  intro id
  rw [Finmap.lookup_empty]
  exact Option.eq_none_iff_forall_ne_some.mpr (none id)

theorem EduMgr.insertEdu_succeeds {s : EduMgr} (structured : s.Structured) (type : EduType) :
    ∃ mgr, s.insertEdu type = (some (s.nextId, s.nextPtr), mgr) ∧
      mgr.runQueue.lookup s.nextId = some s.nextPtr := by
  have fresh := structured.fresh
  refine ⟨_, by rw [insertEdu, if_neg (by simp [fresh.1]), if_neg (by simp [fresh.2])], ?_⟩
  exact Finmap.lookup_insert _

namespace EduSystem

variable {s s' : EduSystem} {maxPool : Nat} {reply : EduReply} {action : EduAction}

theorem startStep_creates {c : Nat} {call : StartCall} {stage : StartStage} {granted : Bool}
    (found : s.starts c = some call) (staged : call.stage = stage)
    (step : StartStep s c call stage granted reply s') :
    ∃ label, s.mgr.Change label s'.mgr ∧
      (label = .create → ∃ c call, s.starts c = some call ∧ call.stage = .createInsert) := by
  cases step with
  | chose result => exact ⟨_, EduMgr.selectIdle_change result, nofun⟩
  | placed result =>
      exact ⟨_, (EduMgr.insertEdu_change result).2, fun _ => ⟨c, call, found, staged⟩⟩
  | failed result => exact ⟨_, EduMgr.rollbackEdu_change result, nofun⟩
  | posted result => exact ⟨_, EduMgr.postEvent_change result, nofun⟩
  | _ => exact ⟨.keep, .refl _, nofun⟩

/-- A new EDU comes only from a call of `startEDU` that has passed both of its tests. -/
theorem exec_creates (completes : exec maxPool action s = some (reply, s')) :
    ∃ label, s.mgr.Change label s'.mgr ∧
      (label = .create → ∃ c call, s.starts c = some call ∧ call.stage = .createInsert) := by
  cases action with
  | startEdu type arg =>
      cases completes
      exact ⟨.keep, .refl _, nofun⟩
  | stepStart c granted =>
      rcases Option.bind_eq_some_iff.mp completes with ⟨call, found, stepped⟩
      exact startStep_creates found rfl (stepStart_step stepped)
  | returnEdu id force =>
      cases completes
      exact ⟨.keep, .refl _, nofun⟩
  | stepReturn r =>
      rcases Option.bind_eq_some_iff.mp completes with ⟨call, found, stepped⟩
      rcases Option.map_eq_some_iff.mp stepped with ⟨⟨outcome, mgr⟩, returned, same⟩
      cases outcome with
      | goesOn next =>
          cases same
          cases (EduMgr.returnEdu_goesOn returned).1
          exact ⟨.keep, .refl _, nofun⟩
      | returns rc destroyed =>
          cases same
          rcases EduMgr.returnEdu_change returned with kept | destroyed | ⟨-, pooled⟩
          · exact ⟨_, kept, nofun⟩
          · exact ⟨_, destroyed, nofun⟩
          · exact ⟨_, pooled, nofun⟩
  | activateEdu id =>
      rcases Option.map_eq_some_iff.mp completes with ⟨⟨rc, mgr⟩, activated, same⟩
      cases same
      rcases EduMgr.activateEdu_change activated with kept | marked | reused
      · exact ⟨_, kept, nofun⟩
      · exact ⟨_, marked, nofun⟩
      · exact ⟨_, reused, nofun⟩
  | waitEdu id =>
      rcases Option.map_eq_some_iff.mp completes with ⟨⟨rc, mgr⟩, waited, same⟩
      cases same
      rcases EduMgr.waitEdu_change waited with kept | marked
      · exact ⟨_, kept, nofun⟩
      · exact ⟨_, marked, nofun⟩
  | forceUserEdu id =>
      rcases Option.map_eq_some_iff.mp completes with ⟨⟨rc, mgr⟩, forced, same⟩
      cases same
      rcases EduMgr.forceUserEdu_change forced with kept | forced
      · exact ⟨_, kept, nofun⟩
      · exact ⟨_, forced, nofun⟩
  | postEduPost id event =>
      rcases Option.map_eq_some_iff.mp completes with ⟨⟨rc, mgr⟩, posted, same⟩
      cases same
      rcases EduMgr.postEduPost_change posted with kept | ⟨p, -, posted⟩
      · exact ⟨_, kept, nofun⟩
      · exact ⟨_, posted, nofun⟩
  | forceEdus property =>
      cases completes
      exact ⟨_, EduMgr.forceEdus_change property, nofun⟩
  | thread p choice =>
      rcases Option.bind_eq_some_iff.mp completes with ⟨t, found, stepped⟩
      rcases threadStep_change found rfl (stepThread_step stepped) with
        ⟨label, change, -, concerns⟩
      refine ⟨label, change, ?_⟩
      rintro rfl
      exact concerns.elim
  | _ =>
      cases completes
      exact ⟨.keep, .keep rfl rfl rfl rfl rfl, nofun⟩

/-- A call of `startEDU` passes its second test only while the manager is not quiesced. -/
theorem exec_passes {c : Nat} {call : StartCall} (quiesced : s.mgr.isQuiesced = true)
    (completes : exec maxPool action s = some (reply, s')) (there : s'.starts c = some call)
    (passed : call.stage = .createInsert) : s.starts c = some call := by
  cases exec_step completes with
  | called =>
      rcases eq_or_ne c s.nextStart with rfl | apart
      · cases (Function.update_self ..).symm.trans there
        cases passed
      · exact (Function.update_of_ne apart ..).symm.trans there
  | start found staged step =>
      cases step with
      | ready open_ entry => cases quiesced.symm.trans open_
      | tested open_ => cases quiesced.symm.trans open_
      | noneIdle result =>
          rcases starts_setStart there with old | ⟨rfl, rfl⟩
          · exact old
          · cases passed
      | chose result =>
          rcases starts_setStart (s := { s with mgr := _ }) there with old | ⟨rfl, rfl⟩
          · exact old
          · cases passed
      | placed result =>
          rcases starts_setStart (s := { s with mgr := _ }) there with old | ⟨rfl, rfl⟩
          · exact old
          · cases passed
      | spawned =>
          rcases starts_setStart (s := s.setThread _ _) there with old | ⟨rfl, rfl⟩
          · exact old
          · cases passed
      | _ => exact (starts_endStart (s := { s with mgr := _ }) there).2
  | thread found here step => rwa [threadStep_starts step] at there
  | _ => exact there

/-- The queues are empty, and no call of `startEDU` can get past its tests any more. -/
structure Closed (s : EduSystem) : Prop where
  quiesced : s.mgr.isQuiesced = true
  run : s.mgr.runQueue = ∅
  idle : s.mgr.idleQueue = ∅
  passed : ∀ c call, s.starts c = some call → call.stage ≠ .createInsert

theorem Closed.step (closed : s.Closed)
    (completes : exec maxPool action s = some (reply, s')) : s'.Closed := by
  rcases exec_creates completes with ⟨label, change, creates⟩
  have empty : ∀ id p, ¬ s'.mgr.Queued id p := by
    intro id p queued
    rcases change.queued queued with (ran | idled) | ⟨created, -⟩
    · rw [closed.run] at ran
      cases ran
    · rw [closed.idle] at idled
      cases idled
    · rcases creates created with ⟨c, call, found, staged⟩
      exact closed.passed c call found staged
  constructor
  · exact exec_isQuiesced completes closed.quiesced
  · exact queue_eq_empty fun id p found => empty id p (.inl found)
  · exact queue_eq_empty fun id p found => empty id p (.inr found)
  · intro c call there staged
    exact closed.passed c call (exec_passes closed.quiesced completes there staged) staged

/-- A call of `startEDU` that has passed its tests places its EDU, whatever the flag. -/
theorem places (structured : s.Structured) (maxPool : Nat) {c : Nat} {call : StartCall}
    (found : s.starts c = some call) (staged : call.stage = .createInsert) :
    ∃ s', exec maxPool (.stepStart c true) s = some (.nothing, s') ∧ s'.mgr.runQueue ≠ ∅ := by
  rcases EduMgr.insertEdu_succeeds structured.mgr call.type with ⟨mgr, inserted, placed⟩
  refine ⟨{ s with mgr := mgr }.setStart c call (.createThread s.mgr.nextId s.mgr.nextPtr),
    by simp [exec, found, stepStart, staged, inserted], ?_⟩
  intro empty
  have none : mgr.runQueue = ∅ := empty
  rw [none] at placed
  cases placed

end EduSystem

namespace EduServer

variable {s s' : EduServer} {maxPool : Nat} {reply : EduReply} {action : ServerAction}

/-- The flag is set once `_destroyAll` has got to its first count. -/
def counts : DestroyStage → Bool
  | .setDestroyed => false
  | .setQuiesced => false
  | _ => true

/-- What holds in every run of the server. -/
structure Sound (s : EduServer) : Prop where
  structured : s.sys.Structured
  quiesced : ∀ stage, s.destroyAll = some stage → counts stage = true →
    s.sys.mgr.isQuiesced = true

theorem init_sound : init.Sound where
  structured := EduSystem.init_structured
  quiesced stage begun := by cases begun

/-- A step of `_destroyAll` acts on the manager as one of its own calls, or not at all, and
goes on to its counts only with the flag set. -/
theorem stepDestroyAll_acts {stage : DestroyStage} (maxPool : Nat)
    (result : s.stepDestroyAll stage = some (reply, s')) :
    (s'.sys = s.sys ∨
      ∃ action, EduSystem.exec maxPool action s.sys = some (.nothing, s'.sys)) ∧
    ∀ next, s'.destroyAll = some next → counts next = true →
      counts stage = true ∨ s'.sys.mgr.isQuiesced = true := by
  cases stage with
  | setDestroyed =>
      cases result
      refine ⟨.inr ⟨.setDestroyed, rfl⟩, ?_⟩
      rintro next ⟨⟩ counting
      cases counting
  | setQuiesced =>
      cases result
      exact ⟨.inr ⟨.setQuiesced, rfl⟩, fun _ _ _ => .inr rfl⟩
  | countUser n =>
      simp only [stepDestroyAll] at result
      split_ifs at result <;> cases result <;> exact ⟨.inl rfl, fun _ _ _ => .inl rfl⟩
  | forceUser n =>
      cases result
      exact ⟨.inr ⟨.forceEdus EduMgr.eduUser, rfl⟩, fun _ _ _ => .inl rfl⟩
  | countAll n =>
      simp only [stepDestroyAll] at result
      split_ifs at result <;> cases result <;> exact ⟨.inl rfl, fun _ _ _ => .inl rfl⟩
  | forceAll n =>
      cases result
      exact ⟨.inr ⟨.forceEdus EduMgr.eduAll, rfl⟩, fun _ _ _ => .inl rfl⟩
  | returned => cases result

theorem Sound.step (sound : s.Sound) (completes : exec maxPool action s = some (reply, s')) :
    s'.Sound := by
  cases action with
  | edu action =>
      rcases Option.map_eq_some_iff.mp completes with ⟨⟨other, sys⟩, stepped, same⟩
      cases same
      exact ⟨sound.structured.step stepped, fun stage stands counting =>
        EduSystem.exec_isQuiesced stepped (sound.quiesced stage stands counting)⟩
  | callDestroyAll =>
      simp only [exec] at completes
      split_ifs at completes
      cases completes
      refine ⟨sound.structured, ?_⟩
      rintro stage ⟨⟩ counting
      cases counting
  | stepDestroyAll =>
      rcases Option.bind_eq_some_iff.mp completes with ⟨stage, stands, stepped⟩
      rcases stepDestroyAll_acts maxPool stepped with ⟨acts, flagged⟩
      constructor
      · rcases acts with same | ⟨action, acted⟩
        · rw [same]
          exact sound.structured
        · exact sound.structured.step acted
      · intro next there counting
        rcases flagged next there counting with counted | quiesced
        · have quiesced := sound.quiesced stage stands counted
          rcases acts with same | ⟨action, acted⟩
          · rwa [same]
          · exact EduSystem.exec_isQuiesced acted quiesced
        · exact quiesced

/-- Whoever runs `_destroyAll` keeps a closed system closed, and so do all the others. -/
theorem exec_closed (closed : s.sys.Closed)
    (completes : exec maxPool action s = some (reply, s')) : s'.sys.Closed := by
  cases action with
  | edu action =>
      rcases Option.map_eq_some_iff.mp completes with ⟨⟨other, sys⟩, stepped, same⟩
      cases same
      exact closed.step stepped
  | callDestroyAll =>
      simp only [exec] at completes
      split_ifs at completes
      cases completes
      exact closed
  | stepDestroyAll =>
      rcases Option.bind_eq_some_iff.mp completes with ⟨stage, stands, stepped⟩
      rcases (stepDestroyAll_acts maxPool stepped).1 with same | ⟨action, acted⟩
      · rwa [same]
      · exact closed.step acted

/-- No EDU is counted only where none is in a queue. -/
theorem queues_empty_of_count (none : s.sys.mgr.getEduCount EduMgr.eduAll = 0) :
    s.sys.mgr.runQueue = ∅ ∧ s.sys.mgr.idleQueue = ∅ := by
  have keys : s.sys.mgr.runQueue.keys = ∅ ∧ s.sys.mgr.idleQueue.keys = ∅ := by
    simpa [EduMgr.getEduCount, EduMgr.eduAll, Bool.or_not_self] using none
  constructor
  · exact queue_eq_empty fun id p found => by
      have member := Finmap.mem_keys.mpr (Finmap.mem_of_lookup_eq_some found)
      rw [keys.1] at member
      cases member
  · exact queue_eq_empty fun id p found => by
      have member := Finmap.mem_keys.mpr (Finmap.mem_of_lookup_eq_some found)
      rw [keys.2] at member
      cases member

/-- `_destroyAll` returns when it has counted no EDU. -/
theorem returns_counted (returns : exec maxPool .stepDestroyAll s = some (.returned edbOk, s')) :
    (∃ n, s.destroyAll = some (.countAll n)) ∧ s'.sys = s.sys ∧
      s.sys.mgr.getEduCount EduMgr.eduAll = 0 := by
  rcases Option.bind_eq_some_iff.mp returns with ⟨stage, stands, stepped⟩
  cases stage with
  | countAll n =>
      simp only [stepDestroyAll] at stepped
      split_ifs at stepped with none
      · cases stepped
        exact ⟨⟨n, stands⟩, rfl, none⟩
      · cases stepped
      · cases stepped
  | countUser n =>
      simp only [stepDestroyAll] at stepped
      split_ifs at stepped <;> cases stepped
  | _ => cases stepped

end EduServer

theorem ServerRun.sound {maxPool : Nat} {trace : ServerTrace} {s : EduServer}
    (run : ServerRun maxPool .init trace s) : s.Sound := by
  induction run with
  | start => exact EduServer.init_sound
  | step past guard completes ih => exact ih.step completes

theorem ServerRun.closed {maxPool : Nat} {trace : ServerTrace} {start s : EduServer}
    (run : ServerRun maxPool start trace s) (closed : start.sys.Closed) : s.sys.Closed := by
  induction run with
  | start => exact closed
  | step past guard completes ih => exact EduServer.exec_closed ih completes

/-- The queues stay empty after _destroyAll has returned, in every run, exactly if at its
last count no call of startEDU stands between its second test of the quiesced flag and the
run queue. -/
theorem quiesce_final_iff {maxPool : Nat} {trace : ServerTrace} {s s' : EduServer}
    (run : ServerRun maxPool .init trace s)
    (returns : EduServer.exec maxPool .stepDestroyAll s = some (.returned edbOk, s')) :
    (∀ later final, ServerRun maxPool s' later final →
      final.sys.mgr.runQueue = ∅ ∧ final.sys.mgr.idleQueue = ∅) ↔
    ∀ c call, s.sys.starts c = some call → call.stage ≠ .createInsert := by
  rcases EduServer.returns_counted returns with ⟨⟨n, stands⟩, same, none⟩
  constructor
  · intro stays c call found staged
    rw [← same] at found
    rcases EduSystem.places (run.sound.step returns).structured maxPool found staged with
      ⟨sys, completes, placed⟩
    have inserts : EduServer.exec maxPool (.edu (.stepStart c true)) s' =
        some (.nothing, { s' with sys := sys }) := by
      simp only [EduServer.exec, completes, Option.map_some]
    exact placed (stays _ _ (Run.start.step trivial inserts)).1
  · intro passed later final goesOn
    have empty := EduServer.queues_empty_of_count none
    have closed : s'.sys.Closed := by
      rw [same]
      exact ⟨run.sound.quiesced _ stands rfl, empty.1, empty.2, passed⟩
    have after := goesOn.closed closed
    exact ⟨after.run, after.idle⟩

/-- _destroyAll up to its last count, on a server without EDUs. -/
def shutdownRun : List ServerAction :=
  .callDestroyAll :: List.replicate 3 .stepDestroyAll

/-- _destroyAll forces an idle agent, which is about to destroy its EDU. -/
def forcedAgentRun : List ServerAction :=
  agentSession.map .edu ++ .callDestroyAll :: List.replicate 4 .stepDestroyAll ++
    .edu (.thread 0 .goOn) :: .edu (.thread 0 .timeOut) ::
      List.replicate 3 (.edu (.thread 0 .goOn))

/-- The agent gives its EDU back before the last count. -/
theorem quiesce_final_iff_forcedAgent :
    ∃ trace s s', ServerRun 5 .init trace s ∧
      (∃ t ∈ trace, t.reply = .gaveBack 1 edbOk true) ∧
      EduServer.exec 5 .stepDestroyAll s = some (.returned edbOk, s') ∧
      ((∀ later final, ServerRun 5 s' later final →
          final.sys.mgr.runQueue = ∅ ∧ final.sys.mgr.idleQueue = ∅) ↔
        ∀ c call, s.sys.starts c = some call → call.stage ≠ .createInsert) := by
  have ends : (Run.follow (EduServer.exec 5) (fun _ _ => true) forcedAgentRun .init).bind
      (fun s₀ => (EduServer.exec 5 (.edu (.thread 0 .goOn)) s₀).bind fun (back, s₁) =>
        (EduServer.exec 5 .stepDestroyAll s₁).bind fun (_, s) =>
          (EduServer.exec 5 .stepDestroyAll s).map fun (last, _) => (back, last)) =
        some (.gaveBack 1 edbOk true, .returned edbOk) := rfl
  rcases Option.bind_eq_some_iff.mp ends with ⟨s₀, followed, ends⟩
  rcases Option.bind_eq_some_iff.mp ends with ⟨⟨back, s₁⟩, gives, ends⟩
  rcases Option.bind_eq_some_iff.mp ends with ⟨⟨reply, s⟩, counts, ends⟩
  rcases Option.map_eq_some_iff.mp ends with ⟨⟨last, s'⟩, returns, same⟩
  cases same
  have past : ServerRun 5 .init [] .init := .start
  rcases Run.of_follow (fun _ => trivial) past followed with ⟨trace, run⟩
  have counted := (run.step trivial gives).step trivial counts
  exact ⟨_, s, s', counted,
    ⟨_, List.mem_append_left _ (List.mem_append_right _ (List.mem_singleton_self _)), rfl⟩,
    returns, quiesce_final_iff counted returns⟩

/-- A call of startEDU passes both tests; then _destroyAll runs up to its last count. -/
def lateStartRun : List ServerAction :=
  .edu (.startEdu .agent 7) :: List.replicate 3 (.edu (.stepStart 0 true)) ++ shutdownRun

/-- The call of startEDU places its EDU after _destroyAll has returned. -/
theorem lateStart_placed :
    ∃ trace s s' later final, ServerRun 5 .init trace s ∧
      EduServer.exec 5 .stepDestroyAll s = some (.returned edbOk, s') ∧
      ServerRun 5 s' later final ∧ final.sys.mgr.runQueue.lookup 1 = some 0 := by
  have ends : (Run.follow (EduServer.exec 5) (fun _ _ => true) lateStartRun .init).bind
      (fun s => (EduServer.exec 5 .stepDestroyAll s).bind fun (reply, s') =>
        (EduServer.exec 5 (.edu (.stepStart 0 true)) s').map fun (_, final) =>
          (reply, final.sys.mgr.runQueue.lookup 1)) =
        some (.returned edbOk, some 0) := rfl
  rcases Option.bind_eq_some_iff.mp ends with ⟨s, followed, counted⟩
  rcases Option.bind_eq_some_iff.mp counted with ⟨⟨reply, s'⟩, returns, placed⟩
  rcases Option.map_eq_some_iff.mp placed with ⟨⟨other, final⟩, completes, same⟩
  cases congrArg Prod.fst same
  have past : ServerRun 5 .init [] .init := .start
  rcases Run.of_follow (fun _ => trivial) past followed with ⟨trace, run⟩
  exact ⟨_, s, s', _, final, run, returns, Run.start.step trivial completes,
    congrArg Prod.snd same⟩

end EmeraldDb
