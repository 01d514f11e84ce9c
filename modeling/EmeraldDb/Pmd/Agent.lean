/-
Module: EmeraldDb.Pmd.Agent
Purpose: pmdProcessAgentRequest: how the server reads one request, which runtime call
  it makes and what it puts into the reply buffer.
Trusted boundary: human-reviewed spec; the prints of BSONObj, the runtime and realloc
  answer through the environment
Main exports: AgentEnv, Processed, dispatch, AgentOutcome, pmdProcessAgentRequest
-/
import EmeraldDb.Msg.Message
import EmeraldDb.Rtn.Rtn

namespace EmeraldDb

open ByteMemory

/-! ### The snapshot object -/

def ascii (text : List Char) : List UInt8 :=
  text.map fun letter => UInt8.ofNat letter.toNat

/-- `BSONObjBuilder::append` of a string. -/
def bsonString (name value : List Char) : List UInt8 :=
  2 :: ascii name ++ [0] ++ u32Bytes (value.length + 1) ++ ascii value ++ [0]

/-- `BSONObjBuilder::append` of an `int`. -/
def bsonInt (name : List Char) (value : Nat) : List UInt8 :=
  16 :: ascii name ++ [0] ++ u32Bytes value

/-- The elements of the snapshot reply. -/
def snapshotElements : List UInt8 :=
  bsonString ['h', 'e', 'l', 'l', 'o'] ['w', 'o', 'r', 'l', 'd'] ++
  bsonInt ['n', 'u', 'm', 'b', 'e', 'r'] 1 ++
  bsonInt ['i', 'n', 's', 'e', 'r', 't', 'T', 'i', 'm', 'e', 's'] 100 ++
  bsonInt ['d', 'e', 'l', 'T', 'i', 'm', 'e', 's'] 1000 ++
  bsonInt ['q', 'u', 'e', 'r', 'y', 'T', 'i', 'm', 'e', 's'] 2000 ++
  bsonInt ['s', 'e', 'r', 'v', 'e', 'r', 'R', 'u', 'n', 'T', 'i', 'm', 'e', 's'] 100

/-- The object a snapshot request is answered with. -/
def snapshotObject : BsonObj where
  bytes := u32Bytes (snapshotElements.length + 5) ++ snapshotElements ++ [0]
  headed := by decide
  size_le := by decide
  size_eq := by decide

/-! ### One request -/

/-- What the server's surroundings answer.  `toString` of the object at an address is
evaluated for the log, whatever the log level is.  `firstElement` is the print of the element
behind a size that is not valid; what it throws is caught.  A print without an answer ends the
process. -/
structure AgentEnv (Store : Type) where
  runtime : Runtime Store
  toString : Mem → Nat → Option (Completion Unit)
  firstElement : Mem → Nat → Option Unit
  realloc : Option Mem

/-- The first field of the object at an address is named `_id`; the end-of-object
element has the empty name. -/
def firstFieldIsKey (m : Mem) (a : Nat) : Bool :=
  m (a + 4) ≠ 0 && readBytes m (a + 5) 4 = gKeyFieldName ++ [0]

/-- Where processing stands when the reply is built. -/
structure Processed (Store : Type) where
  rc : ReturnCode
  disconnect : Bool
  retObj : BsonObj
  calls : List RtnCall
  store : Store

section Request

variable {Store : Type}

/-- A request that made no runtime call. -/
def Processed.idle (rc : ReturnCode) (store : Store) : Processed Store :=
  ⟨rc, false, .empty, [], store⟩

/-- Make a runtime call; an exception is answered with `EDB_INVALIDARG`. -/
def performCall (env : AgentEnv Store) (call : RtnCall) (store : Store) :
    Option (Processed Store) :=
  match env.runtime.call call store with
  | none => none
  | some (.returns rc, store) => some ⟨rc, false, .empty, [call], store⟩
  | some (.throws, store) => some ⟨edbInvalidArg, false, .empty, [call], store⟩

/-- Go on after the log line that prints the object at an address. -/
def afterToString (env : AgentEnv Store) (m : Mem) (a : Nat) (store : Store)
    (next : Option (Processed Store)) : Option (Processed Store) :=
  match env.toString m a with
  | none => none
  | some .throws => some (.idle edbInvalidArg store)
  | some (.returns ()) => next

/-- `_assertInvalid`, in the constructor of an object: print the first element and throw. -/
def assertInvalid (env : AgentEnv Store) (m : Mem) (a : Nat) (store : Store) :
    Option (Processed Store) :=
  (env.firstElement m a).map fun () => .idle edbInvalidArg store

/-- The `OP_INSERT` branch.  It looks at one object, whatever `recordNum` is, and
follows a NULL start. -/
def processInsert (env : AgentEnv Store) (m : Mem) (store : Store) :
    Option (Processed Store) :=
  match msgExtractInsert m with
  | .error _ => some (.idle edbInvalidArg store)
  | .ok (_, none) => none
  | .ok (_, some start) =>
      match bsonObjAt m start with
      | none => assertInvalid env m start store
      | some insertor =>
          afterToString env m start store
            -- operator* of the iterator asserts that there is an element; the assert is C's
            (if insertor.length < 5 then none
            else if firstFieldIsKey m start = false then some (.idle edbNoId store)
            else performCall env (.insert insertor) store)

/-- The `OP_QUERY` and `OP_DELETE` branches: extract the key, print it and make the
runtime call. -/
def processKey (env : AgentEnv Store)
    (extract : Mem → Completion (Except ReturnCode (List UInt8)))
    (call : List UInt8 → RtnCall) (m : Mem) (store : Store) : Option (Processed Store) :=
  match extract m with
  | .throws => assertInvalid env m sizeofMsgHeader store
  | .returns (.error _) => some (.idle edbInvalidArg store)
  | .returns (.ok recordID) =>
      afterToString env m sizeofMsgHeader store (performCall env (call recordID) store)

/-- The `OP_QUERY` branch. -/
def processQuery (env : AgentEnv Store) : Mem → Store → Option (Processed Store) :=
  processKey env msgExtractQuery .find

/-- The `OP_DELETE` branch, which extracts with `msgExtractQuery`. -/
def processDelete (env : AgentEnv Store) : Mem → Store → Option (Processed Store) :=
  processKey env msgExtractQuery .remove

/-- From the header to the label `done`. -/
def dispatch (env : AgentEnv Store) (m : Mem) (store : Store) : Option (Processed Store) :=
  if messageLen m < sizeofMsgHeader then some (.idle edbInvalidArg store)
  else if opInsert = opCode m then processInsert env m store
  else if opQuery = opCode m then processQuery env m store
  else if opDelete = opCode m then processDelete env m store
  else if opSnapshot = opCode m then
    some { Processed.idle edbOk store with retObj := snapshotObject }
  else if opCommand = opCode m then some (.idle edbOk store)
  else if opDisconnect = opCode m then
    some { Processed.idle edbOk store with disconnect := true }
  else some (.idle edbInvalidArg store)

/-- What `pmdProcessAgentRequest` hands back, with the runtime calls it made.  `built`
is the code `msgBuildReply` returned, which the function ignores. -/
structure AgentOutcome (Store : Type) where
  rc : ReturnCode
  disconnect : Bool
  calls : List RtnCall
  store : Store
  result : MsgBuffer
  built : Option ReturnCode

/-- The object a reply carries: only these two operations send one. -/
def replyObject (code : Int) (retObj : BsonObj) : Option BsonObj :=
  if code = opSnapshot ∨ code = opQuery then some retObj else none

/-- `pmdProcessAgentRequest` on the received bytes `m`. -/
def pmdProcessAgentRequest (env : AgentEnv Store) (m : Mem) (result : MsgBuffer)
    (store : Store) : Option (AgentOutcome Store) :=
  (dispatch env m store).bind fun done =>
    if done.disconnect then
      some ⟨done.rc, true, done.calls, done.store, result, none⟩
    else
      (msgBuildReply env.realloc done.rc (replyObject (opCode m) done.retObj) result).map
        fun (built, result) =>
          ⟨done.rc, false, done.calls, done.store, result, some built⟩

end Request

end EmeraldDb
