/-
Module: EmeraldDb.Lib.IdStore
Purpose: Stores that hand out identifiers.  A put takes an identifier that was
  never allocated, a delete empties a live one, and neither ever frees an
  identifier, so what a history of events says about an identifier is what the
  store holds under it.
Trusted boundary: none
Main exports: StoreEvent, IdStore, IdStore.Step, StoreEvent.contents,
  IdStore.Follows, IdStore.Follows.step, IdStore.Holds
-/
import Mathlib.Logic.Function.Basic
import Mathlib.Data.List.Basic

/-- What one completed action did to a store. -/
inductive StoreEvent (Id Value : Type) where
  | put (id : Id) (value : Value)
  | delete (id : Id)
  | keep

/-- The abstract store: which identifiers were ever handed out, and what is held
under them.  Only allocated identifiers hold a value. -/
structure IdStore (Id Value : Type) where
  allocated : Id → Prop
  contents : Id → Option Value
  held : ∀ id value, contents id = some value → allocated id

variable {Id Value : Type}

namespace StoreEvent

/-- The identifiers a history handed out. -/
def issued : List (StoreEvent Id Value) → List Id
  | [] => []
  | put id _ :: events => id :: issued events
  | delete _ :: events => issued events
  | keep :: events => issued events

/-- The identifiers a history deleted. -/
def deleted : List (StoreEvent Id Value) → List Id
  | [] => []
  | put _ _ :: events => deleted events
  | delete id :: events => id :: deleted events
  | keep :: events => deleted events

/-- What one event makes of the values held. -/
def apply [DecidableEq Id] (held : Id → Option Value) :
    StoreEvent Id Value → Id → Option Value
  | put id value => Function.update held id (some value)
  | delete id => Function.update held id none
  | keep => held

/-- What a history, oldest event first, says is held under each identifier. -/
def contents [DecidableEq Id] (events : List (StoreEvent Id Value)) :
    Id → Option Value :=
  events.foldl apply fun _ => none

/-- An event about another identifier does not change what is held. -/
theorem apply_other [DecidableEq Id] {event : StoreEvent Id Value} {id : Id}
    (held : Id → Option Value) (notPut : ∀ value, event ≠ .put id value)
    (notDeleted : event ≠ .delete id) : event.apply held id = held id := by
  cases event with
  | put other value =>
      refine Function.update_of_ne ?_ _ _
      rintro rfl
      exact notPut value rfl
  | delete other =>
      refine Function.update_of_ne ?_ _ _
      rintro rfl
      exact notDeleted rfl
  | keep => rfl

theorem issued_append (events more : List (StoreEvent Id Value)) :
    issued (events ++ more) = issued events ++ issued more := by
  induction events with
  | nil => rfl
  | cons event events ih =>
      cases event with
      | put id value => simp [issued, ih]
      | delete id => simp [issued, ih]
      | keep => simp [issued, ih]

theorem deleted_append (events more : List (StoreEvent Id Value)) :
    deleted (events ++ more) = deleted events ++ deleted more := by
  induction events with
  | nil => rfl
  | cons event events ih =>
      cases event with
      | put id value => simp [deleted, ih]
      | delete id => simp [deleted, ih]
      | keep => simp [deleted, ih]

@[simp] theorem contents_append_singleton [DecidableEq Id]
    (events : List (StoreEvent Id Value)) (event : StoreEvent Id Value) :
    contents (events ++ [event]) = event.apply (contents events) := by
  simp [contents]

end StoreEvent

namespace IdStore

open StoreEvent

/-- The steps of the abstract store. -/
inductive Step (store : IdStore Id Value) :
    StoreEvent Id Value → IdStore Id Value → Prop where
  | put {store' : IdStore Id Value} (id : Id) (value : Value)
      (fresh : ¬ store.allocated id)
      (allocated : ∀ other, store'.allocated other ↔ other = id ∨ store.allocated other)
      (here : store'.contents id = some value)
      (elsewhere : ∀ other, other ≠ id → store'.contents other = store.contents other) :
      Step store (.put id value) store'
  | delete {store' : IdStore Id Value} (id : Id) (value : Value)
      (live : store.contents id = some value)
      (allocated : ∀ other, store'.allocated other ↔ store.allocated other)
      (here : store'.contents id = none)
      (elsewhere : ∀ other, other ≠ id → store'.contents other = store.contents other) :
      Step store (.delete id) store'
  | keep {store' : IdStore Id Value}
      (allocated : ∀ other, store'.allocated other ↔ store.allocated other)
      (same : ∀ other, store'.contents other = store.contents other) :
      Step store .keep store'

/-- A step behind one that does not show is a step from the start. -/
theorem Step.keep_trans {store store' store'' : IdStore Id Value}
    {event : StoreEvent Id Value} (hidden : Step store .keep store')
    (step : Step store' event store'') : Step store event store'' := by
  cases hidden with
  | keep sameIds sameValues =>
      cases step with
      | put id value fresh allocated here elsewhere =>
          refine .put id value (fun was => fresh ((sameIds id).mpr was)) ?_ here ?_
          · intro other
            rw [allocated, sameIds]
          · intro other distinct
            rw [elsewhere other distinct, sameValues]
      | delete id value live allocated here elsewhere =>
          refine .delete id value ((sameValues id).symm.trans live) ?_ here ?_
          · intro other
            rw [allocated, sameIds]
          · intro other distinct
            rw [elsewhere other distinct, sameValues]
      | keep allocated same =>
          refine .keep ?_ ?_
          · intro other
            rw [allocated, sameIds]
          · intro other
            rw [same, sameValues]

/-- No step takes an identifier back. -/
theorem Step.allocated_mono {store store' : IdStore Id Value} {event : StoreEvent Id Value}
    (step : Step store event store') {id : Id} (was : store.allocated id) :
    store'.allocated id := by
  cases step with
  | put _ _ _ allocated _ _ => exact (allocated id).mpr (.inr was)
  | delete _ _ _ allocated _ _ => exact (allocated id).mpr was
  | keep allocated _ => exact (allocated id).mpr was

/-- Nothing happened. -/
theorem Step.refl (store : IdStore Id Value) : Step store .keep store :=
  .keep (fun _ => Iff.rfl) (fun _ => rfl)

/-- The store is where a history of events leads: it holds what the history says,
everything issued is allocated, and what was deleted stays empty. -/
structure Follows [DecidableEq Id] (events : List (StoreEvent Id Value))
    (store : IdStore Id Value) : Prop where
  holds : ∀ id, store.contents id = StoreEvent.contents events id
  allocation : ∀ id, store.allocated id ↔ id ∈ issued events
  emptied : ∀ id ∈ deleted events, id ∈ issued events ∧ store.contents id = none

namespace Follows

variable [DecidableEq Id]

/-- The empty history leads to the empty store. -/
theorem nil {store : IdStore Id Value} (unallocated : ∀ id, ¬ store.allocated id) :
    Follows [] store where
  holds := by
    intro id
    cases value : store.contents id with
    | none => rfl
    | some value' => exact absurd (store.held id value' value) (unallocated id)
  allocation := fun id => iff_of_false (unallocated id) List.not_mem_nil
  emptied := fun id member => absurd member List.not_mem_nil

/-- A fresh identifier is one the history never issued. -/
theorem fresh {events : List (StoreEvent Id Value)} {store store' : IdStore Id Value}
    {id : Id} {value : Value} (follows : Follows events store)
    (step : Step store (.put id value) store') : id ∉ StoreEvent.issued events := by
  cases step with
  | put _ _ fresh _ _ _ => exact fun member => fresh ((follows.allocation id).mpr member)

/-- One step of the store extends the history by its event. -/
theorem step {events : List (StoreEvent Id Value)} {store store' : IdStore Id Value}
    {event : StoreEvent Id Value} (follows : Follows events store)
    (step : Step store event store') : Follows (events ++ [event]) store' := by
  cases step with
  | put id value fresh allocated here elsewhere =>
      refine ⟨?_, ?_, ?_⟩
      · intro other
        rw [contents_append_singleton]
        by_cases same : other = id
        · subst same
          simpa [apply] using here
        · simpa [apply, same] using (elsewhere other same).trans (follows.holds other)
      · intro other
        rw [allocated, follows.allocation, issued_append]
        simp [StoreEvent.issued, or_comm]
      · intro other member
        rw [deleted_append] at member
        have before : other ∈ StoreEvent.deleted events := by
          simpa [StoreEvent.deleted] using member
        obtain ⟨wasIssued, empty⟩ := follows.emptied other before
        have distinct : other ≠ id := by
          rintro rfl
          exact fresh ((follows.allocation other).mpr wasIssued)
        exact ⟨by simp [issued_append, wasIssued], (elsewhere other distinct).trans empty⟩
  | delete id value live allocated here elsewhere =>
      refine ⟨?_, ?_, ?_⟩
      · intro other
        rw [contents_append_singleton]
        by_cases same : other = id
        · subst same
          simpa [apply] using here
        · simpa [apply, same] using (elsewhere other same).trans (follows.holds other)
      · intro other
        rw [allocated, follows.allocation, issued_append]
        simp [StoreEvent.issued]
      · intro other member
        rw [deleted_append] at member
        rw [issued_append]
        by_cases same : other = id
        · subst same
          have wasIssued := (follows.allocation other).mp (store.held other value live)
          exact ⟨by simp [wasIssued], here⟩
        · have before : other ∈ StoreEvent.deleted events := by
            simpa [StoreEvent.deleted, same] using member
          obtain ⟨wasIssued, empty⟩ := follows.emptied other before
          exact ⟨by simp [wasIssued], (elsewhere other same).trans empty⟩
  | keep allocated same =>
      refine ⟨?_, ?_, ?_⟩
      · intro other
        rw [contents_append_singleton]
        exact (same other).trans (follows.holds other)
      · intro other
        rw [allocated, follows.allocation, issued_append]
        simp [StoreEvent.issued]
      · intro other member
        rw [deleted_append] at member
        have before : other ∈ StoreEvent.deleted events := by
          simpa [StoreEvent.deleted] using member
        obtain ⟨wasIssued, empty⟩ := follows.emptied other before
        exact ⟨by simp [issued_append, wasIssued], (same other).trans empty⟩

end Follows

/-- The store holds exactly these values, each under an identifier of its own, and no other
identifier was handed out. -/
structure Holds (store : IdStore Id Value) (entries : List (Id × Value)) : Prop where
  distinct : (entries.map Prod.fst).Nodup
  live : ∀ entry ∈ entries, store.contents entry.1 = some entry.2
  known : ∀ id, store.allocated id → id ∈ entries.map Prod.fst

namespace Holds

variable {store store' : IdStore Id Value} {entries : List (Id × Value)}

theorem nil (unallocated : ∀ id, ¬ store.allocated id) : Holds store [] where
  distinct := List.nodup_nil
  live _ member := absurd member List.not_mem_nil
  known id allocated := absurd allocated (unallocated id)

theorem keep (holds : Holds store entries) (step : Step store .keep store') :
    Holds store' entries := by
  cases step with
  | keep allocated same =>
      refine ⟨holds.distinct, ?_, ?_⟩
      · intro entry member
        rw [same, holds.live entry member]
      · intro id taken
        exact holds.known id ((allocated id).mp taken)

/-- A put adds one entry, under an identifier that was not there. -/
theorem put {id : Id} {value : Value} (holds : Holds store entries)
    (step : Step store (.put id value) store') : Holds store' (entries ++ [(id, value)]) := by
  cases step with
  | put _ _ fresh allocated here elsewhere =>
      have other (entry : Id × Value) (member : entry ∈ entries) : entry.1 ≠ id := by
        intro same
        exact fresh (same ▸ store.held _ _ (holds.live entry member))
      refine ⟨?_, ?_, ?_⟩
      · rw [List.map_append, List.map_singleton, List.nodup_append]
        refine ⟨holds.distinct, by simp, ?_⟩
        intro known member new single
        obtain ⟨entry, inside, rfl⟩ := List.mem_map.mp member
        rw [List.mem_singleton.mp single]
        exact other entry inside
      · intro entry member
        rcases List.mem_append.mp member with before | new
        · rw [elsewhere _ (other entry before), holds.live entry before]
        · rw [List.mem_singleton.mp new, here]
      · intro known taken
        rw [List.map_append, List.map_singleton, List.mem_append, List.mem_singleton]
        rcases (allocated known).mp taken with same | before
        · exact .inr same
        · exact .inl (holds.known known before)

end Holds

end IdStore
