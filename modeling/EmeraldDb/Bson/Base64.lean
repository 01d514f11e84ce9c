/-
Module: EmeraldDb.Bson.Base64
Purpose: The base64 text of binary data, as jsonString writes it and fromjson reads it.
Trusted boundary: human-reviewed spec
Main exports: Base64.encode, Base64.decode
-/
import Mathlib.Data.List.Basic

namespace EmeraldDb.Base64

/-- `Alphabet::encode`. -/
def alphabet : List UInt8 :=
  ("ABCDEFGHIJKLMNOPQRSTUVWXYZ" ++ "abcdefghijklmnopqrstuvwxyz" ++ "0123456789" ++
    "+/").toList.map Char.toUInt8

/-- `Alphabet::decode`: the array holds zero for characters outside the alphabet. -/
def decodeChar (c : UInt8) : UInt8 :=
  if c ∈ alphabet then UInt8.ofNat (alphabet.idxOf c) else 0

/-- `Alphabet::e`. -/
def e (x : UInt8) : UInt8 := alphabet.getD (x &&& 0x3f).toNat 0

/-- The loop of `encode`; it breaks off in the middle of a group of which one or two bytes
are left. -/
def encodeGroups : List UInt8 → List UInt8
  | [] => []
  | [a] => [e (a >>> 2), e (a <<< 4)]
  | [a, b] => [e (a >>> 2), e (a <<< 4 ||| b >>> 4 &&& 0xf), e ((b &&& 0xf) <<< 2)]
  | a :: b :: c :: data =>
      [e (a >>> 2), e (a <<< 4 ||| b >>> 4 &&& 0xf), e ((b &&& 0xf) <<< 2 ||| c >>> 6 &&& 0x3),
        e (c &&& 0x3f)] ++ encodeGroups data

/-- `encode`, with the padding behind the loop. -/
def encode (data : List UInt8) : List UInt8 :=
  encodeGroups data ++
    if data.length % 3 = 1 then [61, 61] else if data.length % 3 = 2 then [61] else []

/-- `buf`, for the four values that `alphabet.decode` gives. -/
def groupBytes (v0 v1 v2 v3 : UInt8) : List UInt8 :=
  [((v0 <<< 2) &&& (0xfc : UInt8)) ||| ((v1 >>> 4) &&& (0x3 : UInt8)),
    ((v1 <<< 4) &&& (0xf0 : UInt8)) ||| ((v2 >>> 2) &&& (0xf : UInt8)),
    ((v2 <<< 6) &&& (0xc0 : UInt8)) ||| (v3 &&& 0x3f)]

/-- `len`, which the padding tells. -/
def groupLength (start2 start3 : UInt8) : Nat :=
  if start3 = 61 then if start2 = 61 then 1 else 2 else 3

/-- The loop of `decode`. -/
def decodeGroups : List UInt8 → List UInt8
  | start0 :: start1 :: start2 :: start3 :: data =>
      (groupBytes (decodeChar start0) (decodeChar start1) (decodeChar start2)
        (decodeChar start3)).take (groupLength start2 start3) ++
        decodeGroups data
  | _ => []

/-- `decode`; `none` is the assertion. -/
def decode (s : List UInt8) : Option (List UInt8) :=
  if s.length % 4 = 0 then some (decodeGroups s) else none

end EmeraldDb.Base64
