/-
Module: EmeraldDb.Proofs.Json
Purpose: The semantic actions of the JSON grammar, made on one ObjectBuilder, build the document
  that the text denotes, whatever alternatives of the grammar were tried in vain before.
Trusted boundary: none
Main exports: run_append, tried_run, strActions_run, value_run, members_run, fromActions_iff
-/
import EmeraldDb.Bson.Json
import EmeraldDb.Proofs.BsonStream

namespace EmeraldDb

open ByteMemory

/-! ### One computation after another -/

/-- Two computations fail together, and otherwise show the same. -/
def Agrees {α β γ : Type} (see : α → β) (tell : γ → β) (x : Option α) (y : Option γ) : Prop :=
  x.map see = y.map tell

theorem Agrees.bind {α β γ α' β' γ' : Type} {see : α → β} {tell : γ → β} {see' : α' → β'}
    {tell' : γ' → β'} {x : Option α} {y : Option γ} {next : α → Option α'}
    {next' : γ → Option γ'} (same : Agrees see tell x y)
    (agree : ∀ a c, see a = tell c → Agrees see' tell' (next a) (next' c)) :
    Agrees see' tell' (x.bind next) (y.bind next') := by
  cases x with
  | none =>
      cases y with
      | none => rfl
      | some c => cases same
  | some a =>
      cases y with
      | none => cases same
      | some c => exact agree a c (Option.some.inj same)

theorem Agrees.bind_same {α β α' γ' : Type} {see : α' → β} {tell : γ' → β} (x : Option α)
    {next : α → Option α'} {next' : α → Option γ'}
    (agree : ∀ a, Agrees see tell (next a) (next' a)) :
    Agrees see tell (x.bind next) (x.bind next') := by
  cases x with
  | none => rfl
  | some a => exact agree a

theorem ObjectBuilder.run_append (b : ObjectBuilder) (first second : List JsonAction) :
    b.run (first ++ second) = (b.run first).bind fun b => b.run second := by
  induction first generalizing b with
  | nil => rfl
  | cons action rest ih =>
      rw [List.cons_append, ObjectBuilder.run, ObjectBuilder.run, Option.bind_assoc]
      exact congrArg _ (funext fun b => ih b)

theorem ObjectBuilder.run_singleton (b : ObjectBuilder) (action : JsonAction) :
    b.run [action] = b.perform action :=
  Option.bind_fun_some (b.perform action)

/-! ### What is stored -/

theorem Stored.perform_isSome (stored : Stored) (action : StoringAction) :
    (stored.perform action).isSome = action.passes := by
  cases action with
  | chE c =>
      rw [perform, Option.isSome_map]
      rfl
  | binDataBinary encoded =>
      rw [perform, Base64.decode, StoringAction.passes]
      split <;> rename_i whole <;> simp [whole]
  | _ => rfl

/-- The alternatives that were tried leave the builders alone. -/
theorem tried_run (b : ObjectBuilder) (tried : List StoringAction) :
    (b.run (tried.map .store)).map (·.stack) =
      if tried.all StoringAction.passes then some b.stack else none := by
  induction tried generalizing b with
  | nil => rfl
  | cons action rest ih =>
      have passes := b.stored.perform_isSome action
      rw [List.map_cons, ObjectBuilder.run, ObjectBuilder.perform, List.all_cons, ← passes]
      cases b.stored.perform action with
      | none => rfl
      | some stored => exact ih _

/-- The items of a string are collected. -/
theorem chars_run (b : ObjectBuilder) (chars : List JsonChar) :
    b.run (chars.map fun c => .store c.action) = (textOf chars).map fun text =>
      { b with stored := { b.stored with ss := b.stored.ss ++ text } } := by
  induction chars generalizing b with
  | nil =>
      rw [textOf, Option.map_some, List.append_nil]
      rfl
  | cons c rest ih =>
      have one : b.stored.perform c.action = c.bytes.map fun bytes =>
          { b.stored with ss := b.stored.ss ++ bytes } := by
        cases c with
        | plain c => rfl
        | escaped letter =>
            rw [JsonChar.action, Stored.perform, JsonChar.bytes, Option.map_map]
            rfl
        | unicode first second => rfl
      rw [List.map_cons, ObjectBuilder.run, ObjectBuilder.perform, one, textOf]
      cases c.bytes with
      | none => rfl
      | some bytes =>
          rw [Option.map_some, Option.map_some, Option.bind_some, ih, Option.bind_some,
            Option.map_map]
          simp only [List.append_assoc, Function.comp_def]

/-- A string is collected from its opening quote on; then comes the action on the string. -/
theorem strActions_run (b : ObjectBuilder) (chars : List JsonChar) (last : JsonAction) :
    b.run (strActions chars last) = (textOf chars).bind fun text =>
      ObjectBuilder.perform { b with stored := { b.stored with ss := text } } last := by
  rw [strActions, List.cons_append, ObjectBuilder.run, ObjectBuilder.perform, Stored.perform,
    Option.map_some, Option.bind_some, ObjectBuilder.run_append, chars_run, Option.bind_map]
  simp only [Function.comp_def, List.nil_append, ObjectBuilder.run_singleton]

/-- The name that a field gets. -/
theorem name_run (b : ObjectBuilder) (name : JsonName) :
    (b.run name.actions).map (·.stack) = name.text.map b.stack.setFieldName := by
  cases name with
  | unquoted text => rfl
  | quoted chars =>
      rw [JsonName.actions, strActions_run, JsonName.text]
      cases textOf chars with
      | none => rfl
      | some text =>
          rw [Option.bind_some, Option.bind_some, ObjectBuilder.perform]
          split <;> rfl

/-! ### What is appended -/

/-- A field that is written in the buffer, documents in place. -/
def streamField (buffer : BufBuilder) (name : List UInt8) (value : BsonValue) :
    Option BufBuilder :=
  (buffer.appendChar value.type).bind fun b =>
    (b.appendStr name).bind fun b => streamValue b value

theorem streamFields_cons (buffer : BufBuilder) (name : List UInt8) (value : BsonValue)
    (rest : BsonFields) : streamFields buffer (.cons name value rest) =
      (streamField buffer name value).bind fun b => streamFields b rest := by
  rw [streamFields, streamField, Option.bind_assoc]
  simp only [Option.bind_assoc]

theorem BuilderStack.append_eq {s : BuilderStack} {back : BuilderFrame}
    {outer : List BuilderFrame} (frames : s.frames = back :: outer) {value : BsonValue}
    (apart : ∀ b, appendValue b value = streamValue b value) :
    s.append value = (streamField s.buffer (cString back.fieldName) value).map fun buffer =>
      { buffer := buffer, frames := back :: outer } := by
  rw [append, startField, frames]
  simp only [streamField, apart, Option.bind_assoc, Option.map_bind, Function.comp_def]

theorem ObjectBuilder.append_last (b : ObjectBuilder) (value : BsonValue) :
    (((b.append value).bind fun b => b.run []).map (·.stack)) = b.stack.append value := by
  rw [append]
  cases b.stack.append value <;> rfl

theorem ObjectBuilder.appendString_stack (b : ObjectBuilder) (value : BsonValue) :
    (b.appendString value).map (·.stack) = b.stack.append value := by
  rw [appendString]
  cases b.stack.append value <;> rfl

/-- Actions whose last one appends a value. -/
theorem append_agrees {b : ObjectBuilder} {back : BuilderFrame} {outer : List BuilderFrame}
    (frames : b.stack.frames = back :: outer) {denoted : Option BsonValue} {value : BsonValue}
    {result : Option ObjectBuilder} (denotes : denoted = some value)
    (apart : ∀ b, appendValue b value = streamValue b value)
    (appended : result.map (·.stack) = b.stack.append value) :
    Agrees (·.stack) (fun buffer => ⟨buffer, back :: outer⟩) result
      (denoted.bind (streamField b.stack.buffer (cString back.fieldName))) := by
  rw [Agrees, appended, denotes, Option.bind_some, BuilderStack.append_eq frames apart]

/-! ### Documents -/

/-- What the fields of a document leave unchanged, and the buffer: where the last builder began,
and the builders behind it. -/
def ObjectBuilder.inside (b : ObjectBuilder) : BufBuilder × Option Nat × List BuilderFrame :=
  (b.stack.buffer, b.stack.frames.head?.map (·.offset), b.stack.frames.tail)

theorem frames_of_inside {b : ObjectBuilder} {buffer : BufBuilder} {offset : Nat}
    {outer : List BuilderFrame} (same : b.inside = (buffer, some offset, outer)) :
    ∃ name index, b.stack = ⟨buffer, ⟨offset, name, index⟩ :: outer⟩ := by
  obtain ⟨⟨_, frames⟩, _⟩ := b
  cases frames with
  | nil => cases same
  | cons back rest =>
      cases same
      exact ⟨_, _, rfl⟩

theorem ObjectBuilder.inside_of_frames {b : ObjectBuilder} {back : BuilderFrame}
    {outer : List BuilderFrame} (frames : b.stack.frames = back :: outer) :
    b.inside = (b.stack.buffer, some back.offset, outer) := by
  rw [inside, frames]
  rfl

/-- The fields of a document may be determined before or after the builder is made. -/
theorem streamField_document (buffer : BufBuilder) (name : List UInt8) (kind : DocumentKind)
    (fields : Option BsonFields) :
    (fields.map (BsonValue.document kind)).bind (streamField buffer name) =
      ((buffer.appendChar kind.typeCode).bind fun b => b.appendStr name).bind fun buffer =>
        (buffer.append [0, 0, 0, 0]).bind fun sub =>
          (fields.bind (streamFields sub)).bind fun sub =>
            doneAt sub buffer.contents.length := by
  cases fields with
  | none => simp only [Option.map_none, Option.bind_none, Option.bind_fun_none]
  | some fields =>
      simp only [Option.map_some, Option.bind_some, streamField, streamValue, inPlace,
        BsonValue.type, Option.bind_assoc]

/-- A document: the actions between its brackets, which start and end a builder. -/
theorem document_agrees {b : ObjectBuilder} {back : BuilderFrame} {outer : List BuilderFrame}
    (frames : b.stack.frames = back :: outer) {kind : DocumentKind} {start finish : JsonAction}
    {inner : List JsonAction} {fields : Option BsonFields} (name : List UInt8)
    (named : BuilderStack → BuilderStack)
    (starts : b.perform start =
      (b.stack.pushDocument kind).map fun stack => { b with stack := named stack })
    (first : ∀ buffer offset, named ⟨buffer, ⟨offset, [], 0⟩ :: back :: outer⟩ =
      ⟨buffer, ⟨offset, name, 0⟩ :: back :: outer⟩)
    (finishes : ∀ b : ObjectBuilder,
      b.perform finish = b.stack.pop.map fun popped => { b with stack := popped.2 })
    (agree : ∀ (b : ObjectBuilder) (offset : Nat),
      b.stack.frames = ⟨offset, name, 0⟩ :: back :: outer →
        Agrees (·.inside) (fun buffer => (buffer, some offset, back :: outer)) (b.run inner)
          (fields.bind (streamFields b.stack.buffer))) :
    Agrees (·.stack) (fun buffer => ⟨buffer, back :: outer⟩)
      (b.run (start :: inner ++ [finish]))
      ((fields.map (BsonValue.document kind)).bind
        (streamField b.stack.buffer (cString back.fieldName))) := by
  rw [streamField_document, List.cons_append, ObjectBuilder.run, starts, BuilderStack.pushDocument,
    BuilderStack.startField, frames]
  simp only [Option.map_bind, Function.comp_def, Option.map_map, Option.bind_assoc,
    Option.bind_map, BuilderStack.push, frames, first, ObjectBuilder.run_append,
    ObjectBuilder.run_singleton]
  -- the same type, name and room for the size
  refine Agrees.bind_same _ fun typed => ?_
  refine Agrees.bind_same _ fun buffer => ?_
  refine Agrees.bind_same _ fun sub => ?_
  rw [← Option.bind_assoc fields (streamFields sub)]
  refine (agree ⟨⟨sub, _⟩, b.stored⟩ buffer.contents.length rfl).bind ?_
  intro after buffer same
  obtain ⟨last, index, stack⟩ := frames_of_inside same
  rw [finishes, stack, BuilderStack.pop, Agrees, Option.map_map, Option.map_map]
  rfl

/-! ### Fields -/

/-- A field and the ones behind it may be determined before or after it is written. -/
theorem streamFields_bind (buffer : BufBuilder) (name : List UInt8) (passed : Bool)
    (value : Option BsonValue) (rest : Option BsonFields) :
    (if passed then value.bind fun value => rest.map fun rest => BsonFields.cons name value rest
      else none).bind (streamFields buffer) =
      (if passed then some buffer else none).bind fun buffer =>
        (value.bind (streamField buffer name)).bind fun buffer =>
          rest.bind (streamFields buffer) := by
  cases passed with
  | false => rfl
  | true =>
      cases value with
      | none => rfl
      | some value =>
          cases rest with
          | none => simp
          | some rest => simp [streamFields_cons]

/-- A field behind its name: what was tried in vain, the value, and the fields behind it. -/
theorem field_agrees {b : ObjectBuilder} {back : BuilderFrame} {outer : List BuilderFrame}
    (frames : b.stack.frames = back :: outer) (tried : List StoringAction) {value : JsonValue}
    {restActions : List JsonAction} {rest : Option BsonFields}
    (agree : ∀ b : ObjectBuilder, b.stack.frames = back :: outer →
      Agrees (·.stack) (fun buffer => ⟨buffer, back :: outer⟩) (b.run value.actions)
        (value.value.bind (streamField b.stack.buffer (cString back.fieldName))))
    (agreeRest : ∀ b : ObjectBuilder, b.stack.frames = back :: outer →
      Agrees (·.inside) (fun buffer => (buffer, some back.offset, outer)) (b.run restActions)
        (rest.bind (streamFields b.stack.buffer))) :
    Agrees (·.inside) (fun buffer => (buffer, some back.offset, outer))
      (b.run (tried.map .store ++ value.actions ++ restActions))
      ((if tried.all StoringAction.passes then
          value.value.bind fun value =>
            rest.map fun rest => .cons (cString back.fieldName) value rest
        else none).bind (streamFields b.stack.buffer)) := by
  rw [streamFields_bind, List.append_assoc, ObjectBuilder.run_append]
  have kept : Agrees (·.stack) (fun buffer => ⟨buffer, back :: outer⟩)
      (b.run (tried.map .store))
      (if tried.all StoringAction.passes then some b.stack.buffer else none) := by
    rw [Agrees, tried_run]
    split
    · rw [Option.map_some, ← frames]
    · rfl
  refine kept.bind ?_
  intro b buffer same
  rw [ObjectBuilder.run_append]
  have written := agree b (by rw [same])
  rw [same] at written
  refine written.bind ?_
  intro b buffer same
  have behind := agreeRest b (by rw [same])
  rwa [same] at behind

/-! ### Every text -/

theorem cString_numeral (n : Nat) : cString (Decimal.numeral n) = Decimal.numeral n := by
  apply cString_of_plain
  intro zero
  exact absurd ((Decimal.numeral_digits n).2.1 0 zero) (by decide)

theorem intNumber_apart (num : Int64) (b : BufBuilder) :
    appendValue b (intNumber num) = streamValue b (intNumber num) := by
  unfold intNumber
  split <;> rfl

mutual

/-- The actions of a value write the value under the current name. -/
theorem value_run (value : JsonValue) {b : ObjectBuilder} {back : BuilderFrame}
    {outer : List BuilderFrame} (frames : b.stack.frames = back :: outer) :
    Agrees (·.stack) (fun buffer => ⟨buffer, back :: outer⟩) (b.run value.actions)
      (value.value.bind (streamField b.stack.buffer (cString back.fieldName))) := by
  cases value with
  | str chars =>
      rw [JsonValue.actions, strActions_run, JsonValue.value]
      cases textOf chars with
      | none => rfl
      | some text =>
          exact append_agrees frames rfl (fun _ => rfl)
            (ObjectBuilder.appendString_stack ⟨_, _⟩ _)
  | number bits => exact append_agrees frames rfl (fun _ => rfl) (b.append_last _)
  | integer num => exact append_agrees frames rfl (intNumber_apart num) (b.append_last _)
  | array elements =>
      refine document_agrees frames (Decimal.numeral 0) BuilderStack.nameFromIndex rfl
        (fun _ _ => rfl) (fun _ => rfl) ?_
      intro b offset frames
      exact elements_run elements frames
  | bool val =>
      cases val <;> exact append_agrees frames rfl (fun _ => rfl) (b.append_last _)
  | null => exact append_agrees frames rfl (fun _ => rfl) (b.append_last _)
  | date v =>
      exact append_agrees frames rfl (fun _ => rfl) (ObjectBuilder.append_last ⟨_, _⟩ _)
  | oid id =>
      exact append_agrees frames rfl (fun _ => rfl) (ObjectBuilder.append_last ⟨_, _⟩ _)
  | bindata binary subtype =>
      rw [JsonValue.value, JsonValue.actions, ObjectBuilder.run, ObjectBuilder.perform,
        Stored.perform, Base64.decode]
      split
      · exact append_agrees frames rfl (fun _ => rfl) (ObjectBuilder.append_last ⟨_, _⟩ _)
      · rfl
  | dbref ns id =>
      rw [JsonValue.value, JsonValue.actions, ObjectBuilder.run_append, strActions_run]
      cases textOf ns with
      | none => rfl
      | some text =>
          exact append_agrees frames rfl (fun _ => rfl) (ObjectBuilder.append_last ⟨_, _⟩ _)
  | regex pattern options =>
      rw [JsonValue.value, JsonValue.actions, ObjectBuilder.run_append, strActions_run]
      cases textOf pattern with
      | none => rfl
      | some text =>
          exact append_agrees frames rfl (fun _ => rfl) (ObjectBuilder.append_last ⟨_, _⟩ _)
  | object members =>
      refine document_agrees frames [] id ?_ (fun _ _ => rfl) (fun _ => rfl) ?_
      · rw [ObjectBuilder.perform, frames]
        rfl
      · intro b offset frames
        exact members_run members frames

/-- The actions of the members write the fields of the object. -/
theorem members_run (members : JsonMembers) {b : ObjectBuilder} {back : BuilderFrame}
    {outer : List BuilderFrame} (frames : b.stack.frames = back :: outer) :
    Agrees (·.inside) (fun buffer => (buffer, some back.offset, outer)) (b.run members.actions)
      (members.fields.bind (streamFields b.stack.buffer)) := by
  cases members with
  | nil =>
      rw [Agrees, JsonMembers.fields, Option.bind_some, streamFields, Option.map_some,
        ← ObjectBuilder.inside_of_frames frames]
      rfl
  | cons name tried value rest =>
      rw [JsonMembers.actions, JsonMembers.fields, List.append_assoc, List.append_assoc,
        ObjectBuilder.run_append, Option.bind_assoc]
      have named : Agrees (·.stack) b.stack.setFieldName (b.run name.actions) name.text :=
        name_run b name
      refine named.bind ?_
      intro after text same
      rw [BuilderStack.setFieldName, frames] at same
      have fields := field_agrees (b := after) (by rw [same]) tried
        (fun b frames => value_run value frames) (fun b frames => members_run rest frames)
      rw [List.append_assoc, same] at fields
      exact fields

/-- The actions of the elements write the fields of the array, whose names are the indexes. -/
theorem elements_run (elements : JsonElements) {b : ObjectBuilder} {offset i : Nat}
    {outer : List BuilderFrame} (frames : b.stack.frames = ⟨offset, Decimal.numeral i, i⟩ :: outer) :
    Agrees (·.inside) (fun buffer => (buffer, some offset, outer)) (b.run elements.actions)
      ((elements.fields i).bind (streamFields b.stack.buffer)) := by
  cases elements with
  | nil =>
      rw [Agrees, JsonElements.fields, Option.bind_some, streamFields, Option.map_some,
        ← ObjectBuilder.inside_of_frames frames]
      rfl
  | cons tried value rest =>
      have fields := field_agrees frames tried (fun b frames => value_run value frames)
        (fun b frames => moreElements_run rest frames)
      rw [cString_numeral] at fields
      exact fields

theorem moreElements_run (elements : JsonElements) {b : ObjectBuilder} {offset i : Nat}
    {name : List UInt8} {outer : List BuilderFrame}
    (frames : b.stack.frames = ⟨offset, name, i⟩ :: outer) :
    Agrees (·.inside) (fun buffer => (buffer, some offset, outer)) (b.run elements.moreActions)
      ((elements.fields (i + 1)).bind (streamFields b.stack.buffer)) := by
  cases elements with
  | nil =>
      rw [Agrees, JsonElements.fields, Option.bind_some, streamFields, Option.map_some,
        ← ObjectBuilder.inside_of_frames frames]
      rfl
  | cons tried value rest =>
      have next : b.perform .arrayNext = some ⟨⟨b.stack.buffer,
          ⟨offset, Decimal.numeral (i + 1), i + 1⟩ :: outer⟩, b.stored⟩ := by
        rw [ObjectBuilder.perform, BuilderStack.nextIndex, frames]
        rfl
      rw [JsonElements.moreActions, ObjectBuilder.run, next, Option.bind_some]
      have fields := field_agrees (b := ⟨⟨b.stack.buffer,
          ⟨offset, Decimal.numeral (i + 1), i + 1⟩ :: outer⟩, b.stored⟩) rfl tried
        (fun b frames => value_run value frames) (fun b frames => moreElements_run rest frames)
      rw [cString_numeral] at fields
      exact fields

end

/-- The actions of a text and `pop` make the object of the document in one buffer. -/
theorem fromActions_eq (stored : Stored) (members : JsonMembers) :
    fromActions stored members.objectActions = members.fields.bind streamObject := by
  have built : members.fields.bind streamObject = newBuilder.bind fun b =>
      (members.fields.bind (streamFields b)).bind finishObject := by
    cases members.fields with
    | none => rfl
    | some fields => rfl
  have agree : Agrees id id (fromActions stored members.objectActions)
      (newBuilder.bind fun b => (members.fields.bind (streamFields b)).bind finishObject) := by
    rw [fromActions, JsonMembers.objectActions, ObjectBuilder.run, ObjectBuilder.perform]
    simp only [List.isEmpty_nil, if_true, BuilderStack.init, Option.map_map, Option.bind_map,
      Option.bind_assoc]
    refine Agrees.bind_same _ fun first => ?_
    rw [← Option.bind_assoc members.fields (streamFields first)]
    refine (members_run members rfl).bind ?_
    intro b buffer same
    obtain ⟨name, index, stack⟩ := frames_of_inside same
    rw [stack, BuilderStack.pop]
    cases finishObject buffer with
    | none => rfl
    | some object => rfl
  rwa [built, ← Option.map_id_apply (x := fromActions stored members.objectActions),
    ← Option.map_id_apply (x := newBuilder.bind _)]

/-- An object is made of a text exactly if no assertion fires and the document that the text
denotes is not too large; then it is the object of that document, whatever alternatives the
parser tried in vain and whatever the builder held before. -/
theorem fromActions_iff (stored : Stored) (members : JsonMembers)
    (short : ∀ fields, members.fields = some fields → fields.Short) (object : List UInt8) :
    fromActions stored members.objectActions = some object ↔
      ∃ fields, members.fields = some fields ∧ object = documentBytes fields.bytes ∧
        (documentBytes fields.bytes).length ≤ bsonObjMaxInternalSize := by
  rw [fromActions_eq, Option.bind_eq_some_iff]
  apply exists_congr
  intro fields
  exact and_congr_right fun denoted =>
    (built_iff (streamFields_appended fields) object).trans
      (BsonFields.written_iff (short fields denoted) object)

/-- What the grammar matches in `{ a : [ null ], b : { c : 7 } }`, where a string was tried in
front of the 7. -/
def nestedMembers : JsonMembers :=
  .cons (.unquoted [97]) [] (.array (.cons [] .null .nil))
    (.cons (.unquoted [98]) []
      (.object (.cons (.unquoted [99]) [.chClear] (.integer 7) .nil)) .nil)

theorem nestedMembers_fields : nestedMembers.fields = some nestedDocument := rfl

/-- The nested document is made of its text, whatever the string collected before. -/
theorem fromActions_iff_nested :
    fromActions ⟨[34], [], ⟨List.replicate 12 0, rfl⟩, [], 0, [], [], 0⟩
      nestedMembers.objectActions = some (documentBytes nestedDocument.bytes) := by
  refine (fromActions_iff _ nestedMembers ?_ _).mpr
    ⟨nestedDocument, nestedMembers_fields, rfl, by decide⟩
  rintro fields ⟨⟩
  exact nestedDocument_short

end EmeraldDb
