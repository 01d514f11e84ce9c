/-
Module: EmeraldDb.Proofs.StaleBytes
Purpose: The frames whose answer does depend on what earlier requests left in the
  receive buffer.
Trusted boundary: none
Main exports: frame_isolated_iff
-/
import EmeraldDb.Proofs.RequestIsolation

namespace EmeraldDb

open ByteMemory

theorem afterToString_throws {Store : Type} {env : AgentEnv Store} {m : Mem} {a : Nat}
    {store : Store} {next : Option (Processed Store)}
    (throws : env.toString m a = some .throws) :
    afterToString env m a store next = some (.idle edbInvalidArg store) := by
  rw [afterToString, throws]

theorem assertInvalid_prints {Store : Type} {env : AgentEnv Store} {m : Mem} {a : Nat}
    {store : Store} (prints : env.firstElement m a = some ()) :
    assertInvalid env m a store = some (.idle edbInvalidArg store) := by
  rw [assertInvalid, prints]
  rfl

theorem afterToString_returns {Store : Type} {env : AgentEnv Store} {m : Mem} {a : Nat}
    {store : Store} {next : Option (Processed Store)}
    (printed : env.toString m a = some (.returns ())) :
    afterToString env m a store next = next := by
  rw [afterToString, printed]

namespace Frame

variable {frame : Frame} {m m' : Mem} {wellFormed : BsonObj → Prop}
  {element : List UInt8 → Prop} {start : Nat} {toString : Mem → Nat → Option (Completion Unit)}
  {firstElement : Mem → Nat → Option Unit}

/-! ### Two answers of one server -/

/-- A server whose runtime accepts everything. -/
def accepting (toString : Mem → Nat → Option (Completion Unit))
    (firstElement : Mem → Nat → Option Unit) : AgentEnv Unit where
  runtime :=
    { call := fun _ store => some (.returns edbOk, store)
      int := by
        intro request store rc after called
        cases called
        exact edbOk_int }
  toString := toString
  firstElement := firstElement
  realloc := none

/-- What the client gets to see. -/
def answerTo (toString : Mem → Nat → Option (Completion Unit))
    (firstElement : Mem → Nat → Option Unit) (m : Mem) :
    Option (List RtnCall × Option (List UInt8)) :=
  (dispatch (accepting toString firstElement) m ()).map (answer (opCode m))

/-- An isolated frame gets the same answer whatever lies behind it. -/
theorem Isolated.answerTo_eq (isolated : frame.Isolated wellFormed element)
    (upper : frame.length ≤ 2147479551)
    (prints : (accepting toString firstElement).PrintsWithin wellFormed element) (fills : frame.Fills m)
    (fills' : frame.Fills m') : answerTo toString firstElement m = answerTo toString firstElement m' := by
  have same := isolated Unit (accepting toString firstElement) () (fun _ => 0) (fun _ => 0) m m'
    agentResult agentResult prints (fills.arrives upper) (fills'.arrives upper)
    agentResult_resultBuffer agentResult_resultBuffer
  rw [process_observed agentResult_resultBuffer,
    process_observed agentResult_resultBuffer] at same
  exact same

/-- Where a claimed object starts tells the operation. -/
theorem objectAt_cases (claimed : frame.objectAt = some start) :
    (start = sizeofMsgInsert ∧ frame.opCode? = some opInsert ∧
        sizeofMsgInsert ≤ frame.length ∧ frame.intAt 8 ≠ 0) ∨
      (start = sizeofMsgHeader ∧ frame.opCode? = some opQuery) := by
  rw [objectAt] at claimed
  split at claimed
  next insert => exact Or.inl ⟨(Option.some.inj claimed).symm, insert⟩
  next =>
    split at claimed
    next query => exact Or.inr ⟨(Option.some.inj claimed).symm, query⟩
    next => cases claimed

theorem dispatch_insert_branch {Store : Type} {env : AgentEnv Store} {store : Store}
    (named : frame.opCode? = some opInsert) (fills : frame.Fills m) :
    dispatch env m store = processInsert env m store := by
  have long := opCode?_long named
  have length := fills.messageLen
  rw [dispatch, if_neg (by omega), fills.opCode named, if_pos rfl]

theorem dispatch_query_branch {Store : Type} {env : AgentEnv Store} {store : Store}
    (named : frame.opCode? = some opQuery) (fills : frame.Fills m) :
    dispatch env m store = processQuery env m store := by
  have long := opCode?_long named
  have length := fills.messageLen
  rw [dispatch, if_neg (by omega), fills.opCode named, if_neg (by decide), if_pos rfl]

/-- An object without a valid size, or one that cannot be printed, is refused. -/
theorem answerTo_refused (claimed : frame.objectAt = some start) (fills : frame.Fills m)
    (refused : bsonObjAt m start = none ∧ firstElement m start = some () ∨
      bsonObjAt m start ≠ none ∧ (accepting toString firstElement).toString m start = some .throws) :
    answerTo toString firstElement m =
      some ([], some (replyMessage edbInvalidArg (replyObject (opCode m) .empty))) := by
  have idle : dispatch (accepting toString firstElement) m () = some (.idle edbInvalidArg ()) := by
    rcases objectAt_cases claimed with ⟨rfl, named, long, counted⟩ | ⟨rfl, named⟩
    · rw [dispatch_insert_branch named fills, processInsert_read fills named long counted]
      rcases refused with ⟨none_found, prints⟩ | ⟨found, throws⟩
      · rw [none_found]
        exact assertInvalid_prints prints
      · obtain ⟨bytes, found⟩ := Option.ne_none_iff_exists'.mp found
        rw [found]
        dsimp only
        exact afterToString_throws throws
    · rw [dispatch_query_branch named fills, processQuery_read fills named]
      rcases refused with ⟨none_found, prints⟩ | ⟨found, throws⟩
      · rw [none_found]
        exact assertInvalid_prints prints
      · obtain ⟨bytes, found⟩ := Option.ne_none_iff_exists'.mp found
        rw [found]
        dsimp only
        exact afterToString_throws throws
  rw [answerTo, idle]
  rfl

/-- The call for an object that was printed. -/
theorem answerTo_query (named : frame.opCode? = some opQuery) (fills : frame.Fills m)
    {bytes : List UInt8} (found : bsonObjAt m sizeofMsgHeader = some bytes)
    (printed : (accepting toString firstElement).toString m sizeofMsgHeader = some (.returns ())) :
    ∃ reply, answerTo toString firstElement m = some ([.find bytes], reply) := by
  have performed : dispatch (accepting toString firstElement) m () =
      some ⟨edbOk, false, .empty, [.find bytes], ()⟩ := by
    rw [dispatch_query_branch named fills, processQuery_read fills named, found]
    dsimp only
    rw [afterToString_returns printed]
    rfl
  rw [answerTo, performed]
  exact ⟨_, rfl⟩

theorem answerTo_insert (claimed : frame.objectAt = some sizeofMsgInsert)
    (named : frame.opCode? = some opInsert) (fills : frame.Fills m) {bytes : List UInt8}
    (found : bsonObjAt m sizeofMsgInsert = some bytes) (long : 5 ≤ bytes.length)
    (printed : (accepting toString firstElement).toString m sizeofMsgInsert = some (.returns ())) :
    if firstFieldIsKey m sizeofMsgInsert = false then
      answerTo toString firstElement m = some ([], some (replyMessage edbNoId none))
    else ∃ reply, answerTo toString firstElement m = some ([.insert bytes], reply) := by
  have read : dispatch (accepting toString firstElement) m () =
      if firstFieldIsKey m sizeofMsgInsert = false then some (.idle edbNoId ())
      else some ⟨edbOk, false, .empty, [.insert bytes], ()⟩ := by
    rcases objectAt_cases claimed with ⟨-, -, room, counted⟩ | ⟨other, -⟩
    · rw [dispatch_insert_branch named fills, processInsert_read fills named room counted,
        found]
      dsimp only
      rw [afterToString_returns printed, if_neg (by omega)]
      rfl
    · exact absurd other (by decide)
  rw [answerTo, read, fills.opCode named]
  split
  · rfl
  · exact ⟨_, rfl⟩

/-- A refusal and a printed object of five bytes or more are told apart. -/
theorem Isolated.not_refused (isolated : frame.Isolated wellFormed element)
    (upper : frame.length ≤ 2147479551)
    (prints : (accepting toString firstElement).PrintsWithin wellFormed element)
    (claimed : frame.objectAt = some start) (fills : frame.Fills m) (fills' : frame.Fills m')
    (refused : bsonObjAt m start = none ∧ firstElement m start = some () ∨
      bsonObjAt m start ≠ none ∧ (accepting toString firstElement).toString m start = some .throws)
    {bytes : List UInt8} (found : bsonObjAt m' start = some bytes) (long : 5 ≤ bytes.length)
    (printed : (accepting toString firstElement).toString m' start = some (.returns ())) : False := by
  have same := isolated.answerTo_eq upper prints fills fills'
  rw [answerTo_refused claimed fills refused] at same
  rcases objectAt_cases claimed with ⟨rfl, named, -⟩ | ⟨rfl, named⟩
  · have accepted := answerTo_insert claimed named fills' found long printed
    split at accepted
    next =>
      rw [accepted, fills.opCode named] at same
      revert same
      decide
    next =>
      obtain ⟨reply, accepted⟩ := accepted
      rw [accepted] at same
      cases same
  · obtain ⟨reply, accepted⟩ := answerTo_query named fills' found printed
    rw [accepted] at same
    cases same

/-! ### Bytes behind the frame -/

/-- The frame with other bytes from an address on. -/
def patched (frame : Frame) (a : Nat) (bytes : List UInt8) : Mem :=
  writeBytes frame.image a bytes

theorem fills_patched {a : Nat} (behind : frame.length < a) (bytes : List UInt8) :
    frame.Fills (frame.patched a bytes) :=
  fills_of_sameOn (sameOn_writeBytes (Or.inl behind))

theorem patched_before {a x : Nat} {bytes : List UInt8} (before : x < a) :
    frame.patched a bytes x = frame.image x := writeBytes_outside (Or.inl before)

theorem patched_here (frame : Frame) (a : Nat) (byte : UInt8) (bytes : List UInt8) :
    frame.patched a (byte :: bytes) a = byte := by
  have inside : 0 < (byte :: bytes).length := Nat.succ_pos _
  exact writeBytes_inside (a := a) inside

/-- A valid size. -/
theorem bsonSizeAt_of_word {a size : Nat} (word : readU32 m a = size) (positive : 0 < size)
    (valid : size ≤ 16793600) : bsonSizeAt m a = some size := by
  have maximum : bsonObjMaxInternalSize = 16793600 := rfl
  have int : intAtAddress m a = size := by
    rw [intAtAddress, word]
    exact toI32_of_lt (by omega) (by omega)
  have accepted : bsonIsValid (size : Int) = true := by
    simp only [bsonIsValid, maximum, Bool.and_eq_true, decide_eq_true_eq]
    omega
  rw [bsonSizeAt, int, if_pos accepted, Int.toNat_natCast]

/-- A size that is too large. -/
theorem bsonSizeAt_of_large {a size : Nat} (word : readU32 m a = size)
    (large : 16793600 < size) (int : size < 2147483648) : bsonSizeAt m a = none := by
  have maximum : bsonObjMaxInternalSize = 16793600 := rfl
  have same : intAtAddress m a = size := by
    rw [intAtAddress, word]
    exact toI32_of_lt (by omega) (by omega)
  have refused : ¬ bsonIsValid (size : Int) = true := by
    simp only [bsonIsValid, maximum, Bool.and_eq_true, decide_eq_true_eq]
    omega
  rw [bsonSizeAt, same, if_neg refused]

theorem bsonObjAt_of_size {a size : Nat} (sized : bsonSizeAt m a = some size) :
    bsonObjAt m a = some (readBytes m a size) := by
  rw [bsonObjAt, sized, Option.map_some]

theorem bsonObjAt_of_none {a : Nat} (sized : bsonSizeAt m a = none) :
    bsonObjAt m a = none := by
  rw [bsonObjAt, sized, Option.map_none]

/-- A print that always succeeds. -/
def printed : Mem → Nat → Option (Completion Unit) := fun _ _ => some (.returns ())

def quiet : Mem → Nat → Option Unit := fun _ _ => some ()

theorem printed_returns (m : Mem) (a : Nat) :
    (accepting printed quiet).toString m a = some (.returns ()) := rfl

theorem printed_within (wellFormed : BsonObj → Prop) (element : List UInt8 → Prop) :
    (accepting printed quiet).PrintsWithin wellFormed element where
  small _ _ _ _ _ := rfl
  own _ _ _ _ _ _ _ := rfl
  eoo _ _ _ := rfl
  ownElement _ _ _ _ _ _ _ := rfl

/-- The size of the object is in the frame: otherwise the last byte of it could make it
valid or not. -/
theorem Isolated.headed (isolated : frame.Isolated wellFormed element)
    (upper : frame.length ≤ 2147479551) (claimed : frame.objectAt = some start) :
    start + 4 ≤ frame.length + 1 := by
  by_contra short
  have b0 := (frame.image start).toNat_lt
  have b1 := (frame.image (start + 1)).toNat_lt
  obtain ⟨low, known⟩ : ∃ low, low = (frame.image start).toNat +
      256 * (frame.image (start + 1)).toNat := ⟨_, rfl⟩
  have word (byte : UInt8) : readU32 (frame.patched (start + 3) [byte]) start =
      low + 16777216 * byte.toNat := by
    have third : frame.image (start + 2) = 0 := frame.image_behind (by omega)
    have zero : (0 : UInt8).toNat = 0 := rfl
    rw [readU32, patched_before (by omega), patched_before (by omega),
      patched_before (by omega), patched_here, third, zero, known]
    omega
  have refused : bsonObjAt (frame.patched (start + 3) [2]) start = none := by
    have two : (2 : UInt8).toNat = 2 := rfl
    apply bsonObjAt_of_none
    apply bsonSizeAt_of_large (word 2) <;> omega
  obtain ⟨byte, size, sized, long, valid⟩ : ∃ (byte : UInt8) (size : Nat),
      readU32 (frame.patched (start + 3) [byte]) start = size ∧ 5 ≤ size ∧
        size ≤ 16793600 := by
    by_cases enough : 5 ≤ low
    · exact ⟨0, low, word 0, enough, by omega⟩
    · have one : (1 : UInt8).toNat = 1 := rfl
      exact ⟨1, low + 16777216, word 1, by omega, by omega⟩
  have found := bsonObjAt_of_size (bsonSizeAt_of_word sized (by omega) valid)
  exact isolated.not_refused upper (printed_within wellFormed element) claimed
    (fills_patched (by omega) [2]) (fills_patched (by omega) [byte]) (Or.inl ⟨refused, rfl⟩) found
    (by rwa [readBytes_length]) rfl

/-- An object that is to be printed, where the byte behind the terminator belongs to it or
the object is not well formed, and that byte is not zero. -/
def Troubled (frame : Frame) (wellFormed : BsonObj → Prop) (start size : Nat) (m : Mem)
    (a : Nat) : Prop :=
  a = start ∧ m (frame.length + 1) ≠ 0 ∧ bsonSizeAt m a = some size ∧
    (frame.length + 1 < start + size ∨
      ¬ ∃ obj, wellFormed obj ∧ readBytes m a obj.objsize = obj.bytes)

/-- A well-formed object has its trouble with it. -/
theorem Troubled.own {size a : Nat} (troubled : frame.Troubled wellFormed start size m a)
    {obj : BsonObj} (formed : wellFormed obj) (inside : start ≤ frame.length + 1)
    (spelled : readBytes m a obj.objsize = obj.bytes)
    (spelled' : readBytes m' a obj.objsize = obj.bytes) :
    frame.Troubled wellFormed start size m' a := by
  obtain ⟨rfl, nonzero, sized, covers | malformed⟩ := troubled
  · have length := obj.selfSized m a spelled
    rw [sized, Option.some.injEq] at length
    have size_eq : obj.bytes.length = obj.objsize := rfl
    obtain ⟨i, place⟩ : ∃ i, frame.length + 1 = a + i := ⟨frame.length + 1 - a, by omega⟩
    have below : i < (readBytes m a obj.objsize).length := by
      rw [readBytes_length]
      omega
    have below' : i < (readBytes m' a obj.objsize).length := by
      rw [readBytes_length]
      omega
    have byte := readBytes_getElem m a obj.objsize i below
    have byte' := readBytes_getElem m' a obj.objsize i below'
    simp only [spelled, spelled'] at byte byte'
    have sized' := obj.selfSized m' a spelled'
    rw [← length] at sized'
    refine ⟨rfl, ?_, sized', Or.inl covers⟩
    rw [place] at nonzero ⊢
    rw [← byte', byte]
    exact nonzero
  · exact absurd ⟨obj, formed, spelled⟩ malformed

open Classical in
/-- A print that fails on such an object. -/
noncomputable def troubledPrint (frame : Frame) (wellFormed : BsonObj → Prop)
    (start size : Nat) : Mem → Nat → Option (Completion Unit) := fun m a =>
  if frame.Troubled wellFormed start size m a then some .throws else some (.returns ())

theorem troubledPrint_within {size : Nat} (large : 5 < size)
    (inside : start ≤ frame.length + 1) :
    (accepting (frame.troubledPrint wellFormed start size) quiet).PrintsWithin wellFormed element where
  small := by
    intro m a other sized few
    have fine : ¬ frame.Troubled wellFormed start size m a := by
      rintro ⟨-, -, same, -⟩
      rw [sized, Option.some.injEq] at same
      omega
    exact if_neg fine
  own := by
    intro obj formed m m' a spelled spelled'
    have same : frame.Troubled wellFormed start size m a ↔
        frame.Troubled wellFormed start size m' a :=
      ⟨fun troubled => troubled.own formed inside spelled spelled',
        fun troubled => troubled.own formed inside spelled' spelled⟩
    by_cases troubled : frame.Troubled wellFormed start size m a
    · exact (if_pos troubled).trans (if_pos (same.mp troubled)).symm
    · exact (if_neg troubled).trans (if_neg fun other => troubled (same.mpr other)).symm
  eoo _ _ _ := rfl
  ownElement _ _ _ _ _ _ _ := rfl

/-- A printed object with elements is well formed and lies within the frame and the
terminator. -/
theorem Isolated.within (isolated : frame.Isolated wellFormed element)
    (upper : frame.length ≤ 2147479551) (claimed : frame.objectAt = some start)
    (headed : start + 4 ≤ frame.length + 1) {size : Nat}
    (sized : bsonSizeAt frame.image start = some size) (large : 5 < size) :
    start + size ≤ frame.length + 1 ∧
      ∃ obj, wellFormed obj ∧ readBytes frame.image start obj.objsize = obj.bytes := by
  by_contra outside
  have fills : frame.Fills (frame.patched (frame.length + 1) [1]) :=
    fills_patched (Nat.lt_succ_self _) [1]
  have sized' : bsonSizeAt (frame.patched (frame.length + 1) [1]) start = some size := by
    rw [fills.bsonSizeAt_image headed, sized]
  have zero : frame.image (frame.length + 1) = 0 := frame.image_behind (Nat.le_succ _)
  have fine : ¬ frame.Troubled wellFormed start size frame.image start := by
    rintro ⟨-, nonzero, -⟩
    exact nonzero zero
  have troubled : frame.Troubled wellFormed start size
      (frame.patched (frame.length + 1) [1]) start := by
    refine ⟨rfl, ?_, sized', ?_⟩
    · rw [patched_here]
      decide
    · by_cases covers : frame.length + 1 < start + size
      · exact Or.inl covers
      · right
        rintro ⟨obj, formed, spelled⟩
        have length := obj.selfSized _ start spelled
        rw [sized', Option.some.injEq] at length
        have size_eq : obj.bytes.length = obj.objsize := rfl
        apply outside
        refine ⟨by omega, obj, formed, ?_⟩
        rw [← spelled]
        exact (fills.image_sameOn.readBytes_eq (Nat.zero_le start) (by omega)).symm
  have found := bsonObjAt_of_size sized
  have found' := bsonObjAt_of_size sized'
  have refused : bsonObjAt (frame.patched (frame.length + 1) [1]) start ≠ none := by
    rw [found']
    exact Option.some_ne_none _
  exact isolated.not_refused upper (troubledPrint_within large (by omega)) claimed fills
    frame.fills_image (Or.inr ⟨refused, if_pos troubled⟩) found
    (by rw [readBytes_length]; omega) (if_neg fine)

/-- An object of five bytes lies within the frame and the terminator as well. -/
theorem Isolated.within_small (isolated : frame.Isolated wellFormed element)
    (upper : frame.length ≤ 2147479551) (claimed : frame.objectAt = some start)
    (headed : start + 4 ≤ frame.length + 1) {size : Nat}
    (sized : bsonSizeAt frame.image start = some size) (small : size ≤ 5) :
    start + size ≤ frame.length + 1 := by
  by_contra outside
  obtain rfl : size = 5 := by omega
  have place : frame.length + 1 = start + 4 := by omega
  have zero : frame.image (start + 4) = 0 := frame.image_behind (by omega)
  obtain ⟨key, name⟩ : ∃ key : List UInt8, key = [1, 95, 105, 100, 0] := ⟨_, rfl⟩
  have behind : frame.length < start + 4 := by omega
  have fills : frame.Fills (frame.patched (start + 4) key) := fills_patched behind key
  have sized' : bsonSizeAt (frame.patched (start + 4) key) start = some 5 := by
    rw [fills.bsonSizeAt_image headed, sized]
  have found := bsonObjAt_of_size sized
  have found' := bsonObjAt_of_size sized'
  have same := isolated.answerTo_eq upper (printed_within wellFormed element) frame.fills_image fills
  have type : frame.patched (start + 4) key (start + 4) = 1 := by
    rw [name]
    exact patched_here frame (start + 4) 1 [95, 105, 100, 0]
  rcases objectAt_cases claimed with ⟨rfl, named, -⟩ | ⟨rfl, named⟩
  · have named_not : firstFieldIsKey frame.image sizeofMsgInsert = false := by
      simp only [firstFieldIsKey, zero, ne_eq, not_true_eq_false, decide_false,
        Bool.false_and]
    have named_key : ¬ firstFieldIsKey (frame.patched (sizeofMsgInsert + 4) key)
        sizeofMsgInsert = false := by
      have letters : readBytes (frame.patched (sizeofMsgInsert + 4) key)
          (sizeofMsgInsert + 4 + 1) 4 = (key.drop 1).take 4 :=
        readBytes_writeBytes_inside (by rw [name]; decide)
      rw [firstFieldIsKey, type, letters, name]
      decide
    have refused := answerTo_insert claimed named frame.fills_image found
      (by rw [readBytes_length]) (printed_returns _ _)
    have accepted := answerTo_insert claimed named fills found'
      (by rw [readBytes_length]) (printed_returns _ _)
    rw [if_pos named_not] at refused
    rw [if_neg named_key] at accepted
    obtain ⟨reply, accepted⟩ := accepted
    rw [refused, accepted] at same
    cases same
  · obtain ⟨reply, answered⟩ :=
      answerTo_query named frame.fills_image found (printed_returns _ _)
    obtain ⟨reply', answered'⟩ := answerTo_query named fills found' (printed_returns _ _)
    rw [answered, answered'] at same
    have bytes : readBytes frame.image sizeofMsgHeader 5 =
        readBytes (frame.patched (sizeofMsgHeader + 4) key) sizeofMsgHeader 5 := by
      have calls := congrArg Prod.fst (Option.some.inj same)
      exact RtnCall.find.inj (List.cons.inj calls).1
    have last := congrArg (·.getD 4 0) bytes
    have read (m : Mem) : (readBytes m sizeofMsgHeader 5).getD 4 0 = m (sizeofMsgHeader + 4) :=
      rfl
    simp only [read, zero, type] at last
    revert last
    decide

/-- An element behind a size that is not valid, where the byte behind the terminator is not
zero and no well-formed element ends before it. -/
def TroubledFirst (frame : Frame) (element : List UInt8 → Prop) (start : Nat) (m : Mem)
    (a : Nat) : Prop :=
  a = start ∧ m (frame.length + 1) ≠ 0 ∧ m (a + 4) ≠ 0 ∧
    ¬ ∃ bytes, element bytes ∧ a + 4 + bytes.length ≤ frame.length + 1 ∧
      readBytes m (a + 4) bytes.length = bytes

/-- A well-formed element has its trouble with it. -/
theorem TroubledFirst.own {a : Nat} (troubled : frame.TroubledFirst element start m a)
    {bytes : List UInt8} (formed : element bytes) (inside : start + 4 ≤ frame.length + 1)
    (spelled : readBytes m (a + 4) bytes.length = bytes)
    (spelled' : readBytes m' (a + 4) bytes.length = bytes) :
    frame.TroubledFirst element start m' a := by
  obtain ⟨rfl, nonzero, typed, malformed⟩ := troubled
  have covers : frame.length + 1 < a + 4 + bytes.length :=
    Nat.lt_of_not_le fun ends => malformed ⟨bytes, formed, ends, spelled⟩
  have same : SameOn (a + 4) (a + 4 + bytes.length) m m' := by
    intro x lower below
    obtain ⟨i, rfl⟩ := Nat.exists_eq_add_of_le lower
    have first := readBytes_getElem m (a + 4) bytes.length i (by rw [readBytes_length]; omega)
    have second := readBytes_getElem m' (a + 4) bytes.length i (by rw [readBytes_length]; omega)
    rw [← first, ← second]
    simp only [spelled, spelled']
  refine ⟨rfl, ?_, ?_, ?_⟩
  · rw [same (frame.length + 1) inside covers]
    exact nonzero
  · rw [same (a + 4) (Nat.le_refl _) (by omega)]
    exact typed
  · rintro ⟨other, otherFormed, ends, here⟩
    refine malformed ⟨other, otherFormed, ends, ?_⟩
    rw [← same.readBytes_eq (Nat.le_refl _) (by omega)]
    exact here

open Classical in
/-- A print that does not come back from such an element. -/
noncomputable def troubledFirst (frame : Frame) (element : List UInt8 → Prop) (start : Nat) :
    Mem → Nat → Option Unit := fun m a =>
  if frame.TroubledFirst element start m a then none else some ()

theorem troubledFirst_within (inside : start + 4 ≤ frame.length + 1) :
    (accepting printed (frame.troubledFirst element start)).PrintsWithin wellFormed element where
  small _ _ _ _ _ := rfl
  own _ _ _ _ _ _ _ := rfl
  eoo := by
    intro m a last
    have fine : ¬ frame.TroubledFirst element start m a := by
      rintro ⟨-, -, typed, -⟩
      exact typed last
    exact if_neg fine
  ownElement := by
    intro bytes formed m m' a spelled spelled'
    have same : frame.TroubledFirst element start m a ↔ frame.TroubledFirst element start m' a :=
      ⟨fun troubled => troubled.own formed inside spelled spelled',
        fun troubled => troubled.own formed inside spelled' spelled⟩
    by_cases troubled : frame.TroubledFirst element start m a
    · exact (if_pos troubled).trans (if_pos (same.mp troubled)).symm
    · exact (if_neg troubled).trans (if_neg fun other => troubled (same.mpr other)).symm

/-- A process that does not come back from a print gives no answer. -/
theorem answerTo_lost (claimed : frame.objectAt = some start) (fills : frame.Fills m)
    (missing : bsonObjAt m start = none) (lost : firstElement m start = none) :
    answerTo toString firstElement m = none := by
  have ends : dispatch (accepting toString firstElement) m () = none := by
    rcases objectAt_cases claimed with ⟨rfl, named, long, counted⟩ | ⟨rfl, named⟩
    · rw [dispatch_insert_branch named fills, processInsert_read fills named long counted,
        missing]
      dsimp only
      rw [assertInvalid]
      exact congrArg _ lost
    · rw [dispatch_query_branch named fills, processQuery_read fills named, missing]
      dsimp only
      rw [assertInvalid]
      exact congrArg _ lost
  rw [answerTo, ends]
  rfl

/-- What is printed behind a size that is not valid lies within the frame and the
terminator. -/
theorem Isolated.first (isolated : frame.Isolated wellFormed element)
    (upper : frame.length ≤ 2147479551) (claimed : frame.objectAt = some start)
    (headed : start + 4 ≤ frame.length + 1) (missing : bsonSizeAt frame.image start = none) :
    frame.FirstFixed element start := by
  by_contra outside
  have fills : frame.Fills (frame.patched (frame.length + 1) [1]) :=
    fills_patched (Nat.lt_succ_self _) [1]
  have missing' : bsonSizeAt (frame.patched (frame.length + 1) [1]) start = none := by
    rw [fills.bsonSizeAt_image headed, missing]
  have zero : frame.image (frame.length + 1) = 0 := frame.image_behind (Nat.le_succ _)
  have one : frame.patched (frame.length + 1) [1] (frame.length + 1) = 1 :=
    patched_here frame (frame.length + 1) 1 []
  have fine : ¬ frame.TroubledFirst element start frame.image start := by
    rintro ⟨-, nonzero, -⟩
    exact nonzero zero
  have troubled : frame.TroubledFirst element start
      (frame.patched (frame.length + 1) [1]) start := by
    refine ⟨rfl, ?_, ?_, ?_⟩
    · rw [one]
      decide
    · by_cases last : start + 4 = frame.length + 1
      · rw [last, one]
        decide
      · -- the type lies within the frame and the terminator, and is not that of the end
        rw [patched_before (by omega)]
        exact fun typed => outside (.inl ⟨by omega, typed⟩)
    · rintro ⟨bytes, formed, ends, spelled⟩
      refine outside (.inr ⟨bytes, formed, ends, ?_⟩)
      rw [← fills.image_sameOn.readBytes_eq (Nat.zero_le _) (by omega)]
      exact spelled
  have same := isolated.answerTo_eq upper (troubledFirst_within headed) frame.fills_image fills
  rw [answerTo_refused claimed frame.fills_image
      (.inl ⟨bsonObjAt_of_none missing, if_neg fine⟩),
    answerTo_lost claimed fills (bsonObjAt_of_none missing') (if_pos troubled)] at same
  cases same

/-- A frame without a complete header is refused. -/
theorem answerTo_short (fills : frame.Fills m) (short : frame.length < sizeofMsgHeader) :
    answerTo toString firstElement m =
      some ([], some (replyMessage edbInvalidArg (replyObject (opCode m) .empty))) := by
  have length := fills.messageLen
  rw [answerTo, dispatch, if_pos (by omega)]
  rfl

/-- The operation code is decided where it matters for the reply. -/
theorem Isolated.shape (isolated : frame.Isolated wellFormed element)
    (upper : frame.length ≤ 2147479551) : frame.ShapeFixed := by
  rintro short ⟨named, fifth⟩
  have header : sizeofMsgHeader = 8 := rfl
  have sixth : frame.image 6 = 0 := frame.image_behind (by omega)
  have seventh : frame.image 7 = 0 := frame.image_behind (by omega)
  have fills : frame.Fills (frame.patched 7 [1]) := fills_patched (by omega) [1]
  have same := isolated.answerTo_eq upper (printed_within wellFormed element) frame.fills_image fills
  have shown : replyObject (opCode frame.image) .empty = some .empty := by
    rw [replyObject_eq, if_pos ⟨named, fifth, sixth, seventh⟩]
  have plain : replyObject (opCode (frame.patched 7 [1])) .empty = none := by
    rw [replyObject_eq, if_neg]
    rintro ⟨-, -, -, zero⟩
    rw [patched_here] at zero
    revert zero
    decide
  rw [answerTo_short frame.fills_image (by omega), answerTo_short fills (by omega), shown,
    plain] at same
  revert same
  decide

end Frame

/-- Requests on one connection do not see each other's bytes exactly for the confined
frames: the reply has the same shape, and the object that the server reads, or what it prints
of one without a valid size, lies within the frame and its terminator. -/
theorem frame_isolated_iff (wellFormed : BsonObj → Prop) (element : List UInt8 → Prop)
    (frame : Frame) :
    frame.Isolated wellFormed element ↔ frame.Confined wellFormed element := by
  constructor
  · intro isolated
    by_cases upper : frame.length ≤ 2147479551
    · right
      refine ⟨isolated.shape upper, ?_⟩
      intro start claimed
      have headed := isolated.headed upper claimed
      refine ⟨headed, ?_, isolated.first upper claimed headed⟩
      intro size sized
      by_cases small : size ≤ 5
      · exact ⟨isolated.within_small upper claimed headed sized small, Or.inl small⟩
      · obtain ⟨inside, object⟩ :=
          isolated.within upper claimed headed sized (Nat.not_le.mp small)
        exact ⟨inside, Or.inr object⟩
    · exact Or.inl (Nat.not_le.mp upper)
  · exact Frame.Confined.isolated

/-! ### A key of the request before -/

/-- A frame that fits is written over what the buffer held. -/
theorem Frame.receivePacket_fits (frame : Frame) {buffer : ReceiveBuffer}
    (fits : (frame.length : Int) + 1 ≤ buffer.receiveBufferSize)
    (upper : frame.length ≤ 2147479551) :
    buffer.receivePacket ⟨frame.length, none, frame.body⟩ =
      some ((frame.length : Int),
        { buffer with contents := writeBytes buffer.contents 0 (frame.bytes ++ [0]) }) := by
  have headed := frame.headed
  have same : frame.length = frame.bytes.length := rfl
  have next : toI32 ((frame.length : Int) + 1) = frame.length + 1 :=
    toI32_of_lt (by omega) (by omega)
  have size : (frame.body.length : Int) = frame.length - 4 := by
    rw [frame.body_length]
    omega
  have reserved : buffer.reserve frame.length none =
      .ok { buffer with contents := writeU32 buffer.contents 0 frame.length } := by
    rw [ReceiveBuffer.reserve]
    dsimp only
    rw [frame.toI32_length, next, if_neg (by omega), if_neg (by omega)]
  have front := writeBytes_append buffer.contents 0 frame.lengthBytes frame.body
  have whole := writeBytes_append buffer.contents 0 frame.bytes [0]
  rw [frame.lengthBytes_append_body, frame.lengthBytes_length, Nat.zero_add] at front
  rw [Nat.zero_add] at whole
  rw [ReceiveBuffer.receivePacket]
  dsimp only
  rw [reserved, frame.toI32_length]
  show (ReceiveBuffer.receiveBody _ frame.body _).bind _ = _
  rw [ReceiveBuffer.receiveBody, if_pos size, Int.toNat_natCast, writeU32,
    frame.u32Bytes_length_eq, front]
  dsimp only
  rw [← whole]
  rfl

/-- A query for `{ _id: n }`. -/
def earlierQuery (n : UInt8) : Frame where
  bytes := [22, 0, 0, 0, 4, 0, 0, 0, 14, 0, 0, 0, 16, 95, 105, 100, 0, n, 0, 0, 0, 0]
  headed := by rw [List.length_cons]; exact Nat.le_add_left 4 18
  declared := rfl
  int := by show 22 < 2147483648; decide

/-- A query frame that breaks off in the name of its key. -/
def truncatedQuery : Frame where
  bytes := [16, 0, 0, 0, 4, 0, 0, 0, 14, 0, 0, 0, 16, 95, 105, 100]
  headed := by decide
  declared := by decide
  int := by decide

/-- The first buffer. -/
def firstBuffer (contents : Mem) : ReceiveBuffer := ⟨4096, 4096, contents⟩

/-- After two queries that leave the store alone, the server looks for the key that the
earlier one asked for. -/
theorem truncatedQuery_leaks : ∃ (file : DmsFile) (buffer one buffer' two : ReceiveBuffer),
    file.Fresh ∧
    Connection (fun _ => 0) [⟨.init fun _ => 0, ⟨22, none, (earlierQuery 1).body⟩, 22,
      buffer⟩] buffer ∧
    buffer.receivePacket ⟨16, none, truncatedQuery.body⟩ = some (16, one) ∧
    Connection (fun _ => 0) [⟨.init fun _ => 0, ⟨22, none, (earlierQuery 2).body⟩, 22,
      buffer'⟩] buffer' ∧
    buffer'.receivePacket ⟨16, none, truncatedQuery.body⟩ = some (16, two) ∧
    (pmdProcessAgentRequest .plain one.contents agentResult file).map observed ≠
      (pmdProcessAgentRequest .plain two.contents agentResult file).map observed := by
  obtain ⟨file, fresh⟩ := exists_fresh
  have first (n : UInt8) : (ReceiveBuffer.init fun _ => 0).receivePacket
      ⟨22, none, (earlierQuery n).body⟩ =
        some (22, firstBuffer (writeBytes (fun _ => 0) 0 ((earlierQuery n).bytes ++ [0]))) :=
    (earlierQuery n).receivePacket_fits (show (22 : Int) + 1 ≤ 4096 by decide)
      (show 22 ≤ 2147479551 by decide)
  have second (contents : Mem) : (firstBuffer contents).receivePacket
      ⟨16, none, truncatedQuery.body⟩ =
        some (16, firstBuffer (writeBytes contents 0 (truncatedQuery.bytes ++ [0]))) :=
    truncatedQuery.receivePacket_fits (show (16 : Int) + 1 ≤ 4096 by decide)
      (show 16 ≤ 2147479551 by decide)
  have looks (n : UInt8) : dispatch .plain (writeBytes (writeBytes (fun _ => 0) 0
      ((earlierQuery n).bytes ++ [0])) 0 (truncatedQuery.bytes ++ [0])) file =
        some ⟨edbOk, false, .empty, [.find [14, 0, 0, 0, 16, 95, 105, 100, 0, n, 0, 0, 0, 0]],
          file⟩ := by
    have fills := truncatedQuery.fills_written
      (writeBytes (fun _ => 0) 0 ((earlierQuery n).bytes ++ [0]))
    have named : truncatedQuery.opCode? = some opQuery := by decide
    have sized : bsonSizeAt (writeBytes (writeBytes (fun _ => 0) 0
        ((earlierQuery n).bytes ++ [0])) 0 (truncatedQuery.bytes ++ [0])) sizeofMsgHeader =
          some 14 := Frame.bsonSizeAt_of_word rfl (by decide) (by decide)
    rw [Frame.dispatch_query_branch named fills, Frame.processQuery_read fills named,
      Frame.bsonObjAt_of_size sized]
    rfl
  refine ⟨file, _, _, _, _, fresh, .step .start trivial (first 1), second _,
    .step .start trivial (first 2), second _, ?_⟩
  have granted : AgentEnv.plain = { AgentEnv.plain with realloc := some fun _ => 0 } := rfl
  rw [granted, process_observed agentResult_resultBuffer,
    process_observed agentResult_resultBuffer]
  show (dispatch .plain _ file).map _ ≠ (dispatch .plain _ file).map _
  intro same
  have calls : (dispatch .plain (writeBytes (writeBytes (fun _ => 0) 0
      ((earlierQuery 1).bytes ++ [0])) 0 (truncatedQuery.bytes ++ [0])) file).map
        Processed.calls = (dispatch .plain (writeBytes (writeBytes (fun _ => 0) 0
      ((earlierQuery 2).bytes ++ [0])) 0 (truncatedQuery.bytes ++ [0])) file).map
        Processed.calls := by
    have fsts := congrArg (Option.map Prod.fst) same
    rwa [Option.map_map, Option.map_map] at fsts
  rw [looks 1, looks 2] at calls
  have keys := RtnCall.find.inj (List.cons.inj (Option.some.inj calls)).1
  revert keys
  decide

end EmeraldDb
