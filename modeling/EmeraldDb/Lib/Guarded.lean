/-
Module: EmeraldDb.Lib.Guarded
Purpose: Shared objects whose calls do their work under one mutex.  While the mutex is free the
  object stands for the abstract state; the call that holds it may leave the object unfinished.
  Such calls are linearizable.
Trusted boundary: none
Main exports: Guarded, GuardedCoupled, Guarded.simulates
-/
import EmeraldDb.Lib.Linearizable

variable {Object Op Env Position Reply Abstract : Type}

/-- Code whose calls work under one mutex.  `rests` says which abstract state an object stands
for that nobody works on, and `under` what a call has made of it that holds the mutex. -/
structure Guarded (code : ObjectCode Object Op Env Position Reply)
    (holds : Position → Bool) (held : Object → Bool)
    (spec : Abstract → Op → Reply → Abstract → Prop) (taken : Position → Option Reply)
    (rests : Object → Abstract → Prop) (under : Op → Position → Object → Abstract → Prop) :
    Prop where
  entered : ∀ op, taken (code.enter op) = none ∧ holds (code.enter op) = false
  finished : ∀ position reply, code.result position = some reply →
    taken position = some reply ∧ holds position = false
  /-- without the mutex, a step takes it or does nothing to the object -/
  outside : ∀ {t op env object position position' object'}, holds position = false →
    code.step t op env object position = some (position', object') →
      taken position' = taken position ∧
        (object' = object ∧ holds position' = false ∨
          held object = false ∧ held object' = true ∧ holds position' = true ∧
            ∀ a, rests object a → under op position' object' a)
  /-- with the mutex, a step keeps it or gives it back, and may be the one that shows -/
  inside : ∀ {t op env object position position' object' a}, holds position = true →
    held object = true → under op position object a →
      code.step t op env object position = some (position', object') →
        ∃ a', (taken position' = taken position ∧ a' = a ∨
            ∃ reply, taken position = none ∧ taken position' = some reply ∧ spec a op reply a') ∧
          (holds position' = true ∧ held object' = true ∧ under op position' object' a' ∨
            holds position' = false ∧ held object' = false ∧ rests object' a')

section Coupled

variable {holds : Position → Bool} {held : Object → Bool} {rests : Object → Abstract → Prop}
  {under : Op → Position → Object → Abstract → Prop}

/-- One thread at most holds the mutex, and the object is as its place in the call tells. -/
structure GuardedCoupled (holds : Position → Bool) (held : Object → Bool)
    (rests : Object → Abstract → Prop) (under : Op → Position → Object → Abstract → Prop)
    (threads : Threads Object Op Position) (a : Abstract) : Prop where
  owned : LockOwned holds held threads
  free : held threads.object = false → rests threads.object a
  working : ∀ t op position, threads.inside t = some (op, position) → holds position = true →
    under op position threads.object a

theorem GuardedCoupled.start {object : Object} {a : Abstract} (free : held object = false)
    (initially : rests object a) :
    GuardedCoupled holds held rests under (.start object) a where
  owned := .start free
  free _ := initially
  working := nofun

variable {threads : Threads Object Op Position} {a a' : Abstract} {t : Nat}

/-- A thread that begins a call or returns. -/
theorem GuardedCoupled.stand {stand : Option (Op × Position)}
    (coupled : GuardedCoupled holds held rests under threads a)
    (without : ¬ threads.Holds holds t)
    (still : ∀ op position, stand = some (op, position) → holds position = false) :
    GuardedCoupled holds held rests under (threads.move threads.object t stand) a where
  owned := coupled.owned.outside without still
  free := coupled.free
  working := by
    intro u op position inside has
    by_cases mine : u = t
    · subst mine
      rw [Threads.move_inside_self] at inside
      rw [still op position inside] at has
      cases has
    · rw [Threads.move_inside_of_ne _ _ _ mine] at inside
      exact coupled.working u op position inside has

/-- A thread that moves within a call: nobody else holds the mutex, or the object is left
alone. -/
theorem GuardedCoupled.move {object : Object} {op : Op} {position position' : Position}
    (coupled : GuardedCoupled holds held rests under threads a)
    (inside : threads.inside t = some (op, position))
    (step : LockStep (held threads.object) (held object) (holds position) (holds position'))
    (alone : ∀ u, u ≠ t → threads.Holds holds u → object = threads.object ∧ a' = a)
    (free : held object = false → rests object a')
    (working : holds position' = true → under op position' object a') :
    GuardedCoupled holds held rests under (threads.move object t (some (op, position'))) a' where
  owned := coupled.owned.step inside step
  free := free
  working := by
    intro u op' place inside' has
    by_cases mine : u = t
    · subst mine
      rw [Threads.move_inside_self] at inside'
      cases inside'
      exact working has
    · rw [Threads.move_inside_of_ne _ _ _ mine] at inside'
      obtain ⟨rfl, rfl⟩ := alone u mine ⟨op', place, inside', has⟩
      exact coupled.working u op' place inside' has

end Coupled

/-- Calls that work under one mutex simulate the sequential object. -/
theorem Guarded.simulates {code : ObjectCode Object Op Env Position Reply}
    {holds : Position → Bool} {held : Object → Bool}
    {spec : Abstract → Op → Reply → Abstract → Prop} {taken : Position → Option Reply}
    {rests : Object → Abstract → Prop} {under : Op → Position → Object → Abstract → Prop}
    (guarded : Guarded code holds held spec taken rests under) (start : Abstract) :
    Simulates code (fun _ _ _ => True) spec start taken
      (GuardedCoupled holds held rests under) where
  entered op := (guarded.entered op).1
  finished position reply returned := (guarded.finished position reply returned).1
  call := by
    intro trace threads order a t op coupled _ _ outside
    refine coupled.stand ?_ ?_
    · rintro ⟨op', position, inside, -⟩
      rw [outside] at inside
      cases inside
    · rintro op' position ⟨⟩
      exact (guarded.entered op).2
  step := by
    intro threads a t op env position position' object coupled inside step
    cases mine : holds position with
    | false =>
        obtain ⟨same, ⟨rfl, without⟩ | ⟨wasFree, isHeld, has, works⟩⟩ := guarded.outside mine step
        · refine .inl ⟨same, coupled.move inside (.inl ⟨rfl, without.trans mine.symm⟩)
            (fun _ _ _ => ⟨rfl, rfl⟩) coupled.free ?_⟩
          intro has
          rw [without] at has
          cases has
        · have nobody : ∀ u, ¬ threads.Holds holds u := by
            intro u other
            rw [coupled.owned.owned.mpr ⟨u, other⟩] at wasFree
            cases wasFree
          refine .inl ⟨same, coupled.move inside (.inr (.inl ⟨wasFree, isHeld, has⟩))
            (fun u _ other => absurd other (nobody u)) ?_ ?_⟩
          · intro free
            rw [isHeld] at free
            cases free
          · intro _
            exact works a (coupled.free wasFree)
    | true =>
        have me : threads.Holds holds t := ⟨op, position, inside, mine⟩
        have isHeld := coupled.owned.owned.mpr ⟨t, me⟩
        have alone : ∀ {a'}, ∀ u, u ≠ t → threads.Holds holds u →
            object = threads.object ∧ a' = a :=
          fun u other has => absurd (coupled.owned.unique u t has me) other
        obtain ⟨a', shows, ends⟩ := guarded.inside mine isHeld
          (coupled.working t op position inside mine) step
        have coupled' : GuardedCoupled holds held rests under
            (threads.move object t (some (op, position'))) a' := by
          rcases ends with ⟨has, still, works⟩ | ⟨without, free, rests⟩
          · refine coupled.move inside ?_ alone ?_ fun _ => works
            · exact .inl ⟨still.trans isHeld.symm, has.trans mine.symm⟩
            · intro free
              rw [still] at free
              cases free
          · refine coupled.move inside (.inr (.inr ⟨mine, without, free⟩)) alone
              (fun _ => rests) ?_
            intro has
            rw [without] at has
            cases has
        rcases shows with ⟨same, rfl⟩ | ⟨reply, untaken, takes, allows⟩
        · exact .inl ⟨same, coupled'⟩
        · exact .inr ⟨reply, a', untaken, takes, allows, coupled'⟩
  ret := by
    intro threads a t op position reply coupled inside returned
    refine coupled.stand ?_ nofun
    rintro ⟨op', position', inside', has⟩
    rw [inside] at inside'
    cases inside'
    rw [(guarded.finished position reply returned).2] at has
    cases has
