/-
Module: EmeraldDb.Proofs.MessageBounds
Purpose: Which requests the extractors accept although the message does not contain
  the objects it claims.
Trusted boundary: none
Main exports: RequestKind, AcceptsOnlyContained, Overclaims,
  acceptsOnlyContained_iff
-/
import EmeraldDb.Proofs.MessageCodec

namespace EmeraldDb

open ByteMemory

/-- The messages a server may be sent objects in. -/
inductive RequestKind where
  | insert
  | query
  | delete
  | command
deriving DecidableEq, Repr

namespace RequestKind

/-- The size of the fixed part. -/
def header : RequestKind → Nat
  | .insert | .command => sizeofMsgInsert
  | .query | .delete => sizeofMsgHeader

def code : RequestKind → Int
  | .insert => opInsert
  | .query => opQuery
  | .delete => opDelete
  | .command => opCommand

/-- The number of objects the message claims: its count field, or the one key. -/
def claimed (m : Mem) : RequestKind → Int
  | .insert | .command => intAtAddress m 8
  | .query | .delete => 1

/-- The claimed number of objects and their start, when the extractor returns `EDB_OK`. -/
def extract (m : Mem) : RequestKind → Option (Int × Option Nat)
  | .insert => (msgExtractInsert m).toOption
  | .command => (msgExtractCommand m).toOption
  | .query => accepted (msgExtractQuery m)
  | .delete => accepted (msgExtractDelete m)
where
  accepted : Completion (Except ReturnCode (List UInt8)) → Option (Int × Option Nat)
    | .returns (.ok _) => some (1, some sizeofMsgHeader)
    | _ => none

end RequestKind

/-- The start is not NULL, at least one object is claimed, and the declared sizes of
the claimed objects end within the first `messageLen` bytes, with the words that state them.
An object without a valid size is none that a message could contain. -/
def ContainsObjects (m : Mem) (count : Int) (start : Option Nat) : Prop :=
  ∃ pos objects, start = some pos ∧ 1 ≤ count ∧
    objectsFrom m count.toNat pos = some objects ∧
      (pos + objects.flatten.length : Nat) ≤ messageLen m ∧
        ∀ front object rest, objects = front ++ object :: rest →
          (pos + front.flatten.length + 4 : Nat) ≤ messageLen m

/-- An extractor that returns `EDB_OK` was given a message that contains the objects it
claims.  The caller builds an object from the start, whatever stands there. -/
def AcceptsOnlyContained (kind : RequestKind) (m : Mem) : Prop :=
  ∀ count start, kind.extract m = some (count, start) → ContainsObjects m count start

/-- How a message may claim objects it does not contain. -/
inductive Overclaims (m : Mem) (header : Nat) (count : Int) : Prop where
  /-- no object is claimed: the start is NULL -/
  | noObject (zero : count = 0)
  /-- a negative number of objects is claimed -/
  | negative (below : count < 0)
  /-- one of the claimed objects states no valid size -/
  | broken (positive : 1 ≤ count) (stuck : objectsFrom m count.toNat header = none)
  /-- the declared sizes run past `messageLen` -/
  | truncated {objects : List (List UInt8)} (positive : 1 ≤ count)
      (found : objectsFrom m count.toNat header = some objects)
      (past : messageLen m < (header + objects.flatten.length : Nat))
  /-- the word with the size of an object runs past `messageLen` -/
  | headless {front rest : List (List UInt8)} {object : List UInt8} (positive : 1 ≤ count)
      (found : objectsFrom m count.toNat header = some (front ++ object :: rest))
      (past : messageLen m < (header + front.flatten.length + 4 : Nat))

/-- What one extracted pair says, whichever extractor returned it. -/
theorem contains_iff_not_overclaims (m : Mem) (header : Nat) (count : Int) :
    ContainsObjects m count (if 0 = count then none else some header) ↔
      ¬ Overclaims m header count := by
  constructor
  · rintro ⟨pos, objects, start, positive, found, fits, words⟩ overclaims
    rw [if_neg (by omega)] at start
    cases start
    cases overclaims with
    | noObject zero => omega
    | negative below => omega
    | broken _ stuck =>
        rw [stuck] at found
        cases found
    | truncated _ found' past =>
        rw [found] at found'
        cases found'
        omega
    | headless _ found' past =>
        rw [found] at found'
        have inside := words _ _ _ (Option.some.inj found')
        omega
  · intro sound
    have nonzero : ¬ count = 0 := fun zero => sound (.noObject zero)
    have nonnegative : ¬ count < 0 := fun below => sound (.negative below)
    have positive : 1 ≤ count := by omega
    rw [if_neg (Ne.symm nonzero)]
    cases found : objectsFrom m count.toNat header with
    | none => exact absurd (Overclaims.broken positive found) sound
    | some objects =>
        have fits := Int.not_lt.mp fun past => sound (.truncated positive found past)
        refine ⟨header, objects, rfl, positive, found, fits, ?_⟩
        rintro front object rest rfl
        exact Int.not_lt.mp fun past => sound (.headless positive found past)

/-- The extractors look at `messageLen` and `opCode` only. -/
theorem extract_counted_eq (m : Mem) (code : Int) (count : Int) (start : Option Nat) :
    (msgExtractCounted code m).toOption = some (count, start) ↔
      (sizeofMsgInsert ≤ messageLen m ∧ opCode m = code) ∧ count = intAtAddress m 8 ∧
        start = if 0 = count then none else some sizeofMsgInsert := by
  unfold msgExtractCounted
  by_cases short : messageLen m < sizeofMsgInsert
  · rw [if_pos short]
    constructor
    · intro impossible
      cases impossible
    · rintro ⟨⟨long, _⟩, _⟩
      omega
  · rw [if_neg short]
    by_cases other : opCode m ≠ code
    · rw [if_pos other]
      constructor
      · intro impossible
        cases impossible
      · rintro ⟨⟨_, same⟩, _⟩
        exact absurd same other
    · rw [if_neg other]
      constructor
      · intro extracted
        obtain ⟨rfl, rfl⟩ := Prod.mk.inj (Option.some.inj extracted)
        exact ⟨⟨by omega, by simpa using other⟩, rfl, rfl⟩
      · rintro ⟨_, rfl, rfl⟩
        rfl

/-- The extractors of a key accept what the counted ones would, with one object, if the
object has a valid size. -/
theorem extract_key_eq (m : Mem) (code : Int) (count : Int) (start : Option Nat) :
    RequestKind.extract.accepted (msgExtractKey code m) = some (count, start) ↔
      (sizeofMsgHeader ≤ messageLen m ∧ opCode m = code) ∧
        (bsonSizeAt m sizeofMsgHeader).isSome ∧ count = 1 ∧ start = some sizeofMsgHeader := by
  unfold msgExtractKey
  by_cases short : messageLen m < sizeofMsgHeader
  · rw [if_pos short]
    constructor
    · intro impossible
      cases impossible
    · rintro ⟨⟨long, _⟩, _⟩
      omega
  · rw [if_neg short]
    by_cases other : opCode m ≠ code
    · rw [if_pos other]
      constructor
      · intro impossible
        cases impossible
      · rintro ⟨⟨_, same⟩, _⟩
        exact absurd same other
    · rw [if_neg other, bsonObjAt]
      cases size : bsonSizeAt m sizeofMsgHeader with
      | none =>
          constructor
          · intro impossible
            cases impossible
          · rintro ⟨_, isSome, _⟩
            cases isSome
      | some length =>
          constructor
          · intro extracted
            obtain ⟨rfl, rfl⟩ := Prod.mk.inj (Option.some.inj extracted)
            exact ⟨⟨by omega, by simpa using other⟩, rfl, rfl, rfl⟩
          · rintro ⟨_, _, rfl, rfl⟩
            rfl

/-- The extractor returns `EDB_OK`: the header passes the two checks that every extractor
makes, and where the extractor builds the object itself, that has a valid size. -/
structure Accepted (kind : RequestKind) (m : Mem) : Prop where
  length : kind.header ≤ messageLen m
  code : opCode m = kind.code
  key : kind = .query ∨ kind = .delete → (bsonSizeAt m sizeofMsgHeader).isSome

/-- What an extractor returns with `EDB_OK`. -/
theorem extract_eq (kind : RequestKind) (m : Mem) (count : Int) (start : Option Nat) :
    kind.extract m = some (count, start) ↔
      Accepted kind m ∧ count = kind.claimed m ∧
        start = if 0 = count then none else some kind.header := by
  cases kind with
  | insert =>
      rw [RequestKind.extract, msgExtractInsert, extract_counted_eq]
      exact and_congr_left' ⟨fun accepted => ⟨accepted.1, accepted.2, nofun⟩,
        fun accepted => ⟨accepted.length, accepted.code⟩⟩
  | command =>
      rw [RequestKind.extract, msgExtractCommand, extract_counted_eq]
      exact and_congr_left' ⟨fun accepted => ⟨accepted.1, accepted.2, nofun⟩,
        fun accepted => ⟨accepted.length, accepted.code⟩⟩
  | query =>
      rw [RequestKind.extract, msgExtractQuery, extract_key_eq]
      constructor
      · rintro ⟨⟨long, same⟩, sized, rfl, rfl⟩
        exact ⟨⟨long, same, fun _ => sized⟩, rfl, rfl⟩
      · rintro ⟨accepted, rfl, rfl⟩
        exact ⟨⟨accepted.length, accepted.code⟩, accepted.key (.inl rfl), rfl, rfl⟩
  | delete =>
      rw [RequestKind.extract, msgExtractDelete, extract_key_eq]
      constructor
      · rintro ⟨⟨long, same⟩, sized, rfl, rfl⟩
        exact ⟨⟨long, same, fun _ => sized⟩, rfl, rfl⟩
      · rintro ⟨accepted, rfl, rfl⟩
        exact ⟨⟨accepted.length, accepted.code⟩, accepted.key (.inr rfl), rfl, rfl⟩

/-- An extractor is sound on exactly the messages that it refuses and those that do not claim
more than they contain. -/
theorem acceptsOnlyContained_iff (kind : RequestKind) (m : Mem) :
    AcceptsOnlyContained kind m ↔
      ¬ (Accepted kind m ∧ Overclaims m kind.header (kind.claimed m)) := by
  rw [not_and, ← contains_iff_not_overclaims]
  constructor
  · intro sound accepted
    exact sound _ _ ((extract_eq kind m _ _).mpr ⟨accepted, rfl, rfl⟩)
  · intro sound count start extracted
    obtain ⟨accepted, rfl, rfl⟩ := (extract_eq kind m count start).mp extracted
    exact sound accepted

/-- An insert of 12 bytes that claims one object; the buffer goes on with an object that
an earlier request left there. -/
def truncatedInsert : Mem :=
  writeBytes (fun _ => 0) 0 (intBytes [12, opInsert, 1] ++ objectBytes [BsonObj.empty])

/-- The bare header of an insert is accepted although it contains no object. -/
theorem truncatedInsert_accepted : ¬ AcceptsOnlyContained .insert truncatedInsert := by
  have spelled : Spells truncatedInsert [12, opInsert, 1]
      (objectBytes [BsonObj.empty]) :=
    Spells.of_written
  have length : messageLen truncatedInsert = 12 := messageLen_of_spells (by decide) spelled
  have count : intAtAddress truncatedInsert 8 = 1 :=
    Spells.int_eq [12, opInsert] (by decide) (by decide) spelled
  have extracted : RequestKind.insert.extract truncatedInsert =
      some (1, some sizeofMsgInsert) :=
    (extract_counted_eq truncatedInsert opInsert 1 _).mpr
      ⟨⟨by rw [length]; decide, opCode_of_spells (by decide) (by decide) spelled⟩,
        count.symm, rfl⟩
  have first : objectsFrom truncatedInsert (1 : Int).toNat sizeofMsgInsert =
      some ([BsonObj.empty].map BsonObj.bytes) := by
    have found := objectsFrom_of_spelled spelled.data_eq
    exact found
  intro sound
  obtain ⟨pos, objects, start, _, found, fits, -⟩ :=
    sound 1 _ extracted
  cases start
  cases first.symm.trans found
  rw [length] at fits
  exact absurd fits (by decide)

end EmeraldDb
