/-
Module: EmeraldDb.Lib.Caller
Purpose: Threads that serve requests over a shared object: each request is prepared without the
  object, then makes at most one call of it, and its answer is made of the reply.  If the calls
  of the object are linearizable, so are the requests.
Trusted boundary: none
Main exports: Preparation, CallerPosition, ObjectCode.calledBy, Threads.inner, CallerSpec,
  Simulates.calledBy
-/
import EmeraldDb.Lib.Linearizable

variable {Object Op Env Position Reply Abstract Request Answer : Type}

/-- What a request comes to without the object. -/
inductive Preparation (Op Reply Answer : Type) where
  | answered (answer : Answer)
  | calls (op : Op) (conclude : Reply → Option Answer)

/-- Where a thread stands in a request. -/
inductive CallerPosition (Op Position Reply Answer : Type) where
  | before
  | inside (op : Op) (position : Position) (conclude : Reply → Option Answer)
  | after (answer : Answer)

/-- The next step of a request. -/
def callerStep (code : ObjectCode Object Op Env Position Reply)
    (prepare : Request → Option (Preparation Op Reply Answer)) (t : Nat) (request : Request)
    (env : Env) (object : Object) :
    CallerPosition Op Position Reply Answer →
      Option (CallerPosition Op Position Reply Answer × Object)
  | .before =>
      (prepare request).map fun prepared =>
        match prepared with
        | .answered answer => (.after answer, object)
        | .calls op conclude => (.inside op (code.enter op) conclude, object)
  | .inside op position conclude =>
      match code.result position with
      | some reply => (conclude reply).map fun answer => (.after answer, object)
      | none =>
          (code.step t op env object position).map fun (position, object) =>
            (.inside op position conclude, object)
  | .after _ => none

/-- The answer, at the end of a request. -/
def callerResult : CallerPosition Op Position Reply Answer → Option Answer
  | .after answer => some answer
  | _ => none

/-- Requests that are served over the object. -/
def ObjectCode.calledBy (code : ObjectCode Object Op Env Position Reply)
    (prepare : Request → Option (Preparation Op Reply Answer)) :
    ObjectCode Object Request Env (CallerPosition Op Position Reply Answer) Answer where
  enter _ := .before
  step := callerStep code prepare
  result := callerResult

/-- Requests one after the other: each makes at most one step of the object. -/
inductive CallerSpec (prepare : Request → Option (Preparation Op Reply Answer))
    (spec : Abstract → Op → Reply → Abstract → Prop) (a : Abstract) :
    Request → Answer → Abstract → Prop where
  | answered {request : Request} {answer : Answer}
      (prepared : prepare request = some (.answered answer)) : CallerSpec prepare spec a
        request answer a
  | called {request : Request} {op : Op} {conclude : Reply → Option Answer} {reply : Reply}
      {answer : Answer} {next : Abstract} (prepared : prepare request = some (.calls op conclude))
      (step : spec a op reply next) (concluded : conclude reply = some answer) :
      CallerSpec prepare spec a request answer next

/-! ### The calls inside the requests -/

/-- The call of the object that a request is in. -/
def CallerPosition.inner :
    CallerPosition Op Position Reply Answer → Option (Op × Position)
  | .inside op position _ => some (op, position)
  | _ => none

/-- The object and the calls of it, without the requests around them. -/
def Threads.inner (threads : Threads Object Request (CallerPosition Op Position Reply Answer)) :
    Threads Object Op Position :=
  ⟨threads.object, fun t => (threads.inside t).bind fun stand => stand.2.inner⟩

section Inner

variable {threads : Threads Object Request (CallerPosition Op Position Reply Answer)}
  {object : Object} {t : Nat} {request : Request}
  {position : CallerPosition Op Position Reply Answer}

theorem Threads.inner_inside (inside : threads.inside t = some (request, position)) :
    threads.inner.inside t = position.inner := by
  change (threads.inside t).bind _ = _
  rw [inside, Option.bind_some]

theorem Threads.inner_outside (outside : threads.inside t = none) :
    threads.inner.inside t = none := by
  change (threads.inside t).bind _ = _
  rw [outside, Option.bind_none]

theorem Threads.inner_move (threads : Threads Object Request
      (CallerPosition Op Position Reply Answer)) (object : Object) (t : Nat)
    (stand : Option (Request × CallerPosition Op Position Reply Answer)) :
    (threads.move object t stand).inner =
      threads.inner.move object t (stand.bind fun stand => stand.2.inner) := by
  rw [inner, move, move]
  congr 1
  funext u
  by_cases mine : u = t
  · subst mine
    simp
  · simp [Function.update_of_ne mine, inner]

/-- A thread that does not touch the object moves outside of its calls. -/
theorem Threads.inner_stay (outside : threads.inner.inside t = none)
    (stand : Option (Request × CallerPosition Op Position Reply Answer))
    (still : (stand.bind fun stand => stand.2.inner) = none) :
    (threads.move threads.object t stand).inner = threads.inner := by
  rw [inner_move, still]
  have same : Function.update threads.inner.inside t none = threads.inner.inside := by
    rw [← outside]
    exact Function.update_eq_self t _
  rw [move, same]
  rfl

end Inner

/-! ### Linearizability -/

/-- A request that is in a call has prepared that call. -/
structure CallerCoupled (prepare : Request → Option (Preparation Op Reply Answer))
    (coupled : Threads Object Op Position → Abstract → Prop)
    (threads : Threads Object Request (CallerPosition Op Position Reply Answer))
    (a : Abstract) : Prop where
  inner : coupled threads.inner a
  prepared : ∀ t request op position conclude,
    threads.inside t = some (request, .inside op position conclude) →
      prepare request = some (.calls op conclude)

/-- The answer of a request, from the step on in which its call takes effect. -/
def callerTaken (taken : Position → Option Reply) :
    CallerPosition Op Position Reply Answer → Option Answer
  | .before => none
  | .inside _ position conclude => (taken position).bind conclude
  | .after answer => some answer

section Coupled

variable {prepare : Request → Option (Preparation Op Reply Answer)}
  {coupled : Threads Object Op Position → Abstract → Prop}
  {threads : Threads Object Request (CallerPosition Op Position Reply Answer)} {a a' : Abstract}
  {object : Object} {t : Nat} {request : Request}
  {position : CallerPosition Op Position Reply Answer}

/-- A thread moves; the call it is in afterwards, if any, is the one that its request has
prepared. -/
theorem CallerCoupled.move (before : CallerCoupled prepare coupled threads a)
    {stand : Option (Request × CallerPosition Op Position Reply Answer)}
    (inner : coupled (threads.move object t stand).inner a')
    (prepared : ∀ request op position conclude,
      stand = some (request, .inside op position conclude) →
        prepare request = some (.calls op conclude)) :
    CallerCoupled prepare coupled (threads.move object t stand) a' where
  inner := inner
  prepared := by
    intro u request op position conclude inside
    by_cases mine : u = t
    · subst mine
      rw [Threads.move_inside_self] at inside
      exact prepared request op position conclude inside
    · rw [Threads.move_inside_of_ne _ _ _ mine] at inside
      exact before.prepared u request op position conclude inside

/-- A thread moves outside of its calls. -/
theorem CallerCoupled.stay (before : CallerCoupled prepare coupled threads a)
    (outside : threads.inner.inside t = none)
    {stand : Option (Request × CallerPosition Op Position Reply Answer)}
    (still : (stand.bind fun stand => stand.2.inner) = none) :
    CallerCoupled prepare coupled (threads.move threads.object t stand) a := by
  refine before.move ?_ ?_
  · rw [Threads.inner_stay outside stand still]
    exact before.inner
  · rintro request op position conclude rfl
    cases still

end Coupled

/-- Requests over a linearizable object simulate the sequential object, one request at a time,
if every prepared call may be made and every reply gives an answer. -/
theorem Simulates.calledBy {code : ObjectCode Object Op Env Position Reply}
    {allowed : ThreadTrace Object Op Env Position Reply → Threads Object Op Position →
      ThreadAction Op Env → Prop}
    {spec : Abstract → Op → Reply → Abstract → Prop} {start : Abstract}
    {taken : Position → Option Reply} {coupled : Threads Object Op Position → Abstract → Prop}
    (simulates : Simulates code allowed spec start taken coupled)
    {prepare : Request → Option (Preparation Op Reply Answer)}
    (calls : ∀ {threads a t request op conclude}, coupled threads a →
      prepare request = some (.calls op conclude) → threads.inside t = none →
        coupled (threads.move threads.object t (some (op, code.enter op))) a)
    (concludes : ∀ {request op conclude a reply a'}, prepare request = some (.calls op conclude) →
      spec a op reply a' → ∃ answer, conclude reply = some answer) :
    Simulates (code.calledBy prepare) (fun _ _ _ => True) (CallerSpec prepare spec) start
      (callerTaken taken) (CallerCoupled prepare coupled) where
  entered _ := rfl
  finished position answer ended := by
    cases position with
    | before => cases ended
    | inside op position conclude => cases ended
    | after answer' => exact ended
  call := by
    intro trace threads order a t request before _ _ outside
    exact before.stay (Threads.inner_outside outside) rfl
  step := by
    intro threads a t request env position position' object before inside step
    cases position with
    | before =>
        have outside := Threads.inner_inside inside
        obtain ⟨prepared, done, same⟩ := Option.map_eq_some_iff.mp step
        cases prepared with
        | answered answer =>
            cases same
            exact .inr ⟨answer, a, rfl, rfl, .answered done, before.stay outside rfl⟩
        | calls op conclude =>
            cases same
            refine .inl ⟨?_, before.move ?_ ?_⟩
            · change (taken (code.enter op)).bind conclude = none
              rw [simulates.entered, Option.bind_none]
            · rw [Threads.inner_move]
              exact calls before.inner done outside
            · rintro request' op' position' conclude' ⟨⟩
              exact done
    | inside op position conclude =>
        have calling := Threads.inner_inside inside
        have prepared := before.prepared t request op position conclude inside
        change callerStep code prepare t request env threads.object
          (.inside op position conclude) = some (position', object) at step
        rw [callerStep] at step
        split at step
        next reply returned =>
          obtain ⟨answer, concluded, same⟩ := Option.map_eq_some_iff.mp step
          cases same
          refine .inl ⟨?_, before.move ?_ nofun⟩
          · rw [callerTaken, callerTaken, simulates.finished position reply returned,
              Option.bind_some, concluded]
          · rw [Threads.inner_move]
            exact simulates.ret before.inner calling returned
        next =>
          obtain ⟨⟨position'', object'⟩, stepped, same⟩ := Option.map_eq_some_iff.mp step
          cases same
          have moved {a' : Abstract} (inner : coupled
              (threads.inner.move object t (some (op, position''))) a') :
              CallerCoupled prepare coupled (threads.move object t
                (some (request, .inside op position'' conclude))) a' := by
            refine before.move ?_ ?_
            · rw [Threads.inner_move]
              exact inner
            · rintro request' op' place conclude' ⟨⟩
              exact prepared
          rcases simulates.step before.inner calling stepped with
            ⟨hidden, inner⟩ | ⟨reply, a', untaken, takes, allows, inner⟩
          · refine .inl ⟨?_, moved inner⟩
            rw [callerTaken, callerTaken, hidden]
          · obtain ⟨answer, concluded⟩ := concludes prepared allows
            refine .inr ⟨answer, a', ?_, ?_, .called prepared allows concluded, moved inner⟩
            · rw [callerTaken, untaken, Option.bind_none]
            · rw [callerTaken, takes, Option.bind_some, concluded]
    | after answer => cases step
  ret := by
    intro threads a t request position answer before inside ended
    cases position with
    | before => cases ended
    | inside op position conclude => cases ended
    | after answer' => exact before.stay (Threads.inner_inside inside) rfl
