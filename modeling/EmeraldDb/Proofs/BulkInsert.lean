/-
Module: EmeraldDb.Proofs.BulkInsert
Purpose: What an acknowledged bulk insert has stored.
Trusted boundary: none
Main exports: AllSucceed, BulkApplied, bulkInsert_applied_iff
-/
import EmeraldDb.Proofs.AgentRequest
import EmeraldDb.Proofs.Placement

namespace EmeraldDb

open ByteMemory

section Request

variable {Store : Type} {env : AgentEnv Store} {m : Mem} {store : Store}

/-- The calls were made one after the other, and each returned `EDB_OK`. -/
def AllSucceed (runtime : Runtime Store) : List RtnCall → Store → Store → Prop
  | [], before, after => before = after
  | call :: calls, before, after =>
      ∃ between, runtime.call call before = some (.returns edbOk, between) ∧
        AllSucceed runtime calls between after

/-- When the reply carries `EDB_OK`, `rtnInsert` has succeeded for each object in order. -/
def BulkApplied (env : AgentEnv Store) (m : Mem) (result : MsgBuffer) (store : Store)
    (objs : List BsonObj) : Prop :=
  ∀ out, pmdProcessAgentRequest env m result store = some out → RepliesWith out edbOk →
    out.calls = objs.map (fun obj => .insert obj.bytes) ∧
      AllSucceed env.runtime out.calls store out.store

/-- An insert of no object is not answered: the server follows a NULL start. -/
theorem dispatch_insert_nil {size : Nat} {data : List UInt8}
    (lower : sizeofMsgInsert ≤ size) (fits : size < 2147483648)
    (spelled : Spells m [(size : Int), opInsert, (0 : Nat)] data) :
    dispatch env m store = none := by
  have header : sizeofMsgHeader = 8 := rfl
  have insert : sizeofMsgInsert = 12 := rfl
  have length := messageLen_of_spells fits spelled
  have code : opCode m = opInsert := opCode_of_spells (by decide) (by decide) spelled
  have extracted := msgExtractCounted_of_spells lower fits (by decide) (by decide)
    (by decide) spelled
  rw [if_pos rfl] at extracted
  rw [dispatch, length, code, if_neg (by omega), if_pos rfl, processInsert,
    msgExtractInsert, extracted]

/-- An insert of some objects is the insert of the first one. -/
theorem bulkApplied_cons {result : MsgBuffer} (room : ResultBuffer result)
    (code : opCode m = opInsert) {first : BsonObj} {rest : List BsonObj}
    (dispatched : dispatch env m store = performCall env (.insert first.bytes) store) :
    BulkApplied env m result store (first :: rest) ↔
      rest = [] ∨
        ∀ after, env.runtime.call (.insert first.bytes) store ≠
          some (.returns edbOk, after) := by
  cases called : env.runtime.call (.insert first.bytes) store with
  | none =>
      rw [performCall, called] at dispatched
      constructor
      · intro _
        exact Or.inr fun after => (Option.some_ne_none _).symm
      · intro _ out processed
        rw [pmdProcessAgentRequest, dispatched] at processed
        cases processed
  | some answer =>
      rw [performCall, called] at dispatched
      obtain ⟨completion, after⟩ := answer
      cases completion with
      | throws =>
          dsimp only at dispatched
          constructor
          · intro _
            exact Or.inr fun _ same => by cases same
          · intro _ out processed success
            obtain ⟨out', processed', -, -, reply⟩ :=
              process_of_done room dispatched rfl edbInvalidArg_int.1 edbInvalidArg_int.2
            obtain rfl : out' = out := Option.some.inj (processed'.symm.trans processed)
            rcases reply with ⟨-, failure⟩ | ⟨cannot, -⟩
            · have differ : edbOk ≠ edbInvalidArg := by decide
              exact absurd (success.unique failure) differ
            · rw [code] at cannot
              exact absurd room.canReply cannot
      | returns rc =>
          dsimp only at dispatched
          obtain ⟨low, high⟩ := env.runtime.int called
          obtain ⟨out, processed, calls, stored, reply⟩ :=
            process_of_done room dispatched rfl low high
          have replies : RepliesWith out rc := by
            rcases reply with ⟨-, replies⟩ | ⟨cannot, -⟩
            · exact replies
            · rw [code] at cannot
              exact absurd room.canReply cannot
          constructor
          · intro applied
            by_cases ok : rc = edbOk
            · left
              subst ok
              have all := (applied out processed replies).1
              rw [calls, List.map_cons] at all
              exact List.map_eq_nil_iff.mp (List.cons.inj all).2.symm
            · right
              intro other same
              cases same
              exact ok rfl
          · rintro (alone | failed) out' processed' success
            · subst alone
              obtain rfl : out = out' := Option.some.inj (processed.symm.trans processed')
              obtain rfl : rc = edbOk := replies.unique success
              refine ⟨calls, ?_⟩
              rw [calls, stored]
              exact ⟨after, called, rfl⟩
            · obtain rfl : out = out' := Option.some.inj (processed.symm.trans processed')
              obtain rfl : rc = edbOk := replies.unique success
              exact absurd rfl (failed after)

/-- A bulk insert is applied as acknowledged exactly when it has at most one object or
the insert of the first one does not succeed. -/
theorem bulkInsert_applied_iff {objs : List BsonObj} {realloc : Option Mem}
    {buffer sent result : MsgBuffer} (prints : ∀ obj ∈ objs, env.Prints obj)
    (keyed : ∀ obj ∈ objs, obj.StartsWithKey) (int : buffer.allocated < 2147483648)
    (built : msgBuildInsertAll realloc objs buffer = some (edbOk, sent))
    (received : Received sent m) (room : ResultBuffer result) :
    BulkApplied env m result store objs ↔
      objs.length ≤ 1 ∨
        ∀ first ∈ objs.head?, ∀ after,
          env.runtime.call (.insert first.bytes) store ≠ some (.returns edbOk, after) := by
  obtain ⟨fits, written⟩ := msgBuildAll_spells int built
  have counted := length_le_objectBytes objs
  have spelled := received.spells fits
    (by rw [List.length_append, intBytes_length]; rfl) written
  have code : opCode m = opInsert := opCode_of_spells (by decide) (by decide) spelled
  cases objs with
  | nil =>
      have stuck : dispatch env m store = none :=
        dispatch_insert_nil (Nat.le_add_right _ _) fits spelled
      constructor
      · intro _
        exact Or.inl (Nat.zero_le 1)
      · intro _ out processed
        rw [pmdProcessAgentRequest, stuck] at processed
        cases processed
  | cons first rest =>
      have some_object : 0 < (first :: rest).length := Nat.succ_pos rest.length
      have dispatched : dispatch env m store = performCall env (.insert first.bytes) store :=
        dispatch_insert (prints first List.mem_cons_self) (keyed first List.mem_cons_self)
          (Nat.le_add_right _ _) fits some_object (by omega) spelled
      have few : (first :: rest).length ≤ 1 ↔ rest = [] := by
        rw [List.length_cons, ← List.length_eq_zero_iff]
        omega
      rw [bulkApplied_cons room code dispatched, few]
      simp only [List.head?_cons, Option.mem_def, Option.some.injEq, forall_eq']

end Request

/-! ### An acknowledged loss -/

theorem binDataRecord_startsWithKey : (binDataRecord [] (by decide)).StartsWithKey where
  long := by
    rw [binDataRecord_objsize]
    decide
  key := by decide

/-- The insert of one record is applied as acknowledged. -/
theorem bulkInsert_applied_iff_one : ∃ (file : DmsFile) (sent : MsgBuffer),
    msgBuildInsertAll (some fun _ => 0) [binDataRecord [] (by decide)] clientBuffer =
        some (edbOk, sent) ∧
      BulkApplied .plain sent.contents agentResult file [binDataRecord [] (by decide)] := by
  obtain ⟨file, -⟩ := exists_fresh
  have fits : sizeofMsgInsert + (objectBytes [binDataRecord [] (by decide)]).length <
      2147483648 := by decide
  obtain ⟨sent, wrote, -⟩ := counted_roundTrip clientBuffer_sound (fun _ => 0) opInsert
    (by decide) (by decide) fits
  have keyed : ∀ obj ∈ [binDataRecord [] (by decide)], obj.StartsWithKey := by
    intro obj member
    rw [List.mem_singleton.mp member]
    exact binDataRecord_startsWithKey
  have applied : BulkApplied .plain sent.contents agentResult file
      [binDataRecord [] (by decide)] :=
    (bulkInsert_applied_iff (fun obj _ => AgentEnv.plain_prints obj) keyed (by decide)
      wrote.returned rfl agentResult_resultBuffer).mpr (Or.inl (by decide))
  exact ⟨file, sent, wrote.returned, applied⟩

/-- Of two records only the first is inserted, and the reply says `EDB_OK`. -/
theorem bulkInsert_loses_second : ∃ (file : DmsFile) (sent : MsgBuffer),
    msgBuildInsertAll (some fun _ => 0)
        [binDataRecord [] (by decide), binDataRecord [] (by decide)] clientBuffer =
        some (edbOk, sent) ∧
      ¬ BulkApplied .plain sent.contents agentResult file
        [binDataRecord [] (by decide), binDataRecord [] (by decide)] := by
  obtain ⟨start, trace, file, -, -, -, long⟩ :=
    exists_lengthened (fun _ _ _ => True) (fun _ _ _ => trivial) 1 (by decide)
  have size := binDataRecord_objsize [] (by decide)
  obtain ⟨out, rid, after, inserted, -⟩ :=
    long.insert (binDataRecord_hasKey [] (by decide)) (by rw [size]; decide) []
  have called : (rtn []).call (.insert (binDataRecord [] (by decide)).bytes) file =
      some (.returns edbOk, after) := by
    rw [rtn_insert, rtnInsert, inserted, Option.map_some]
    exact congrArg (fun rc => some (Completion.returns rc, after))
      (toI32_of_lt edbOk_int.1 edbOk_int.2)
  obtain ⟨length, granted⟩ := msgBuildAll_granted clientBuffer_sound (fun _ => 0) opInsert
    [binDataRecord [] (by decide), binDataRecord [] (by decide)] (by decide)
  obtain ⟨sent, wrote, spelled⟩ :=
    wrote_of_granted clientBuffer_sound (by decide) length granted
  have code : opCode sent.contents = opInsert :=
    opCode_of_spells (by decide) (by decide) spelled
  have dispatched : dispatch .plain sent.contents file =
      performCall .plain (.insert (binDataRecord [] (by decide)).bytes) file :=
    dispatch_insert (AgentEnv.plain_prints _) binDataRecord_startsWithKey
      (Nat.le_add_right _ _) (by decide) (by decide) (by decide) spelled
  refine ⟨file, sent, wrote.returned, ?_⟩
  rw [bulkApplied_cons agentResult_resultBuffer code dispatched]
  rintro (alone | failed)
  · cases alone
  · exact failed after called

end EmeraldDb
