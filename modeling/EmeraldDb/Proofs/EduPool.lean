/-
Module: EmeraldDb.Proofs.EduPool
Purpose: The idle queue never holds more EDUs than the maximal pool, although the size is
  compared in one critical section and the EDU moved in a later one.
Trusted boundary: none
Main exports: EduSystem.PoolBound, EduSystem.Reserved, idleQueue_card_le
-/
import EmeraldDb.Proofs.EduStructure

namespace EmeraldDb

namespace EduSystem

variable {s s' : EduSystem} {maxPool : Nat} {reply : EduReply} {action : EduAction}
  {id : EduId}

/-- An EDU that is idle, or at work with a call of `returnEDU` on it that has passed the
comparison of the size and not yet moved it. -/
def PoolBound (s : EduSystem) (id : EduId) : Prop :=
  id ∈ s.mgr.idleQueue.keys ∨ id ∈ s.mgr.runQueue.keys ∧ s.Returning id .deactivate

theorem mem_keys_iff (q : EduQueue) : id ∈ q.keys ↔ ∃ p, q.lookup id = some p := by
  rw [Finmap.mem_keys, ← Finmap.lookup_isSome, Option.isSome_iff_exists]

/-- An EDU becomes bound for the pool by passing the comparison, or not at all. -/
theorem PoolBound.step (structured : s.Structured)
    (completes : exec maxPool action s = some (reply, s')) (bound : s'.PoolBound id) :
    s.PoolBound id ∨ s.mgr.size ≤ maxPool ∧ s'.mgr = s.mgr := by
  rcases exec_change completes with ⟨label, change, permits⟩
  rcases bound with idle | ⟨run, returning⟩
  · rcases (mem_keys_iff _).mp idle with ⟨p, found⟩
    rcases change.idled found with old | ⟨rfl, ran⟩
    · exact .inl (.inl ((mem_keys_iff _).mpr ⟨p, old⟩))
    · exact .inl (.inr ⟨(mem_keys_iff _).mpr ⟨p, ran⟩, permits.returning⟩)
  · rcases (mem_keys_iff _).mp run with ⟨p, found⟩
    rcases exec_returning completes returning with old | start | ⟨force, before, old, went⟩
    · rcases change.ran found with ran | ⟨-, idled⟩ | ⟨-, new, -⟩
      · exact .inl (.inr ⟨(mem_keys_iff _).mpr ⟨p, ran⟩, old⟩)
      · exact .inl (.inl ((mem_keys_iff _).mpr ⟨p, idled⟩))
      · exact absurd new (Nat.ne_of_lt (structured.returning old (by simp)))
    · cases start
    · rcases EduMgr.returnEdu_goesOn went with
        ⟨same, ⟨-, q, cb, -, -, next⟩ | ⟨type, -, next | ⟨next, -⟩⟩ | ⟨-, next | ⟨-, fits⟩⟩⟩
      · cases next
      · cases next
      · cases next
      · cases next
      · exact .inr ⟨fits, same⟩

/-- There is room in the pool for all EDUs that are in it or bound for it. -/
def Reserved (maxPool : Nat) (s : EduSystem) : Prop :=
  ∃ places : Finset EduId, places.card ≤ maxPool ∧ ∀ id, s.PoolBound id → id ∈ places

theorem init_reserved : Reserved maxPool init := by
  refine ⟨∅, Nat.zero_le _, fun id bound => ?_⟩
  rcases bound with idle | ⟨run, -⟩
  · exact idle
  · exact run

theorem Reserved.step (reserved : Reserved maxPool s) (structured : s.Structured)
    (completes : exec maxPool action s = some (reply, s')) : Reserved maxPool s' := by
  by_cases fits : s.mgr.size ≤ maxPool ∧ s'.mgr = s.mgr
  · -- the comparison counts the EDU itself and all those that are bound for the pool
    refine ⟨s.mgr.runQueue.keys ∪ s.mgr.idleQueue.keys,
      (Finset.card_union_le _ _).trans fits.1, fun id bound => ?_⟩
    unfold PoolBound at bound
    rw [fits.2] at bound
    rcases bound with idle | ⟨run, -⟩
    · exact Finset.mem_union_right _ idle
    · exact Finset.mem_union_left _ run
  · rcases reserved with ⟨places, room, covers⟩
    refine ⟨places, room, fun id bound => ?_⟩
    rcases bound.step structured completes with old | fit
    · exact covers id old
    · exact absurd fit fits

end EduSystem

/-- The pool never exceeds its bound. -/
theorem idleQueue_card_le {maxPool : Nat}
    {allowed : EduTrace → EduSystem → EduAction → Prop} {trace : EduTrace} {s : EduSystem}
    (run : EduRun maxPool allowed trace s) : s.mgr.idleQueue.keys.card ≤ maxPool := by
  have reserved : s.Reserved maxPool := by
    induction run with
    | start => exact EduSystem.init_reserved
    | step past guard completes ih => exact ih.step (EduRun.structured past) completes
  rcases reserved with ⟨places, room, covers⟩
  exact (Finset.card_le_card fun id idle => covers id (.inl idle)).trans room

theorem idleQueue_card_le_one :
    ∃ trace s, EduRun 1 (fun _ _ _ => True) trace s ∧ s.mgr.idleQueue.lookup 1 = some 0 ∧
      s.mgr.idleQueue.keys.card ≤ 1 := by
  have ends : (Run.follow (EduSystem.exec 1) (fun _ _ => true) agentSession .init).map
      (fun s => s.mgr.idleQueue.lookup 1) = some (some 0) := rfl
  rcases Option.map_eq_some_iff.mp ends with ⟨s, followed, idled⟩
  rcases Run.of_follow (fun _ => trivial) .start followed with ⟨trace, run⟩
  exact ⟨_, s, run, idled, idleQueue_card_le run⟩

end EmeraldDb
