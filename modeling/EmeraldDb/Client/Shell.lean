/-
Module: EmeraldDb.Client.Shell
Purpose: How the shell of edb.cpp reads a command into _cmdBuffer and splits it.
Trusted boundary: human-reviewed spec; the prompts are not modelled, and every access of
  _cmdBuffer is checked against its size, every access of a string against its length
Main exports: Edb.getchar, Edb.strlen, Edb.readLine, Edb.readInput, Edb.split, Edb.prompt
-/
import EmeraldDb.Lib.ByteMemory

namespace EmeraldDb

open ByteMemory

namespace Edb

/-- `CMD_BUFFER_SIZE`. -/
def cmdBufferSize : Nat := 512

def space : UInt8 := 32
def tab : UInt8 := 9
def backSlant : UInt8 := 92
def newLine : UInt8 := 10

/-- `getchar`: the next character; `none` is EOF, which it answers from then on. -/
def getchar : List UInt8 → Option UInt8 × List UInt8
  | [] => (none, [])
  | ch :: input => (some ch, input)

/-- `ch` as a `char`; EOF is -1. -/
def toChar : Option UInt8 → UInt8
  | none => 255
  | some ch => ch

/-- Store into `_cmdBuffer`.  A store behind its end has no result. -/
def store (cmdBuffer : Mem) (i : Nat) (ch : UInt8) : Option Mem :=
  if i < cmdBufferSize then some (writeBytes cmdBuffer i [ch]) else none

/-- `strlen` from index `p` on.  Without a zero it would read on behind the end. -/
def strlen (cmdBuffer : Mem) (p : Nat) : Option Nat :=
  (List.range (cmdBufferSize - p)).find? fun i => cmdBuffer (p + i) = 0

/-- The loop of `readLine`, with the calls of `getchar` that are left.  EOF is stored like
a character. -/
def readChars (p : Nat) :
    Nat → Nat → Mem → List UInt8 → Option (Mem × List UInt8)
  | 0, _, _, _ => none
  | calls + 1, len, cmdBuffer, input =>
      let (ch, input) := getchar input
      if ch = some newLine then some (cmdBuffer, input)
      else if ch = some backSlant then readChars p calls len cmdBuffer input
      else
        (store cmdBuffer (p + len) (toChar ch)).bind fun cmdBuffer =>
          readChars p calls (len + 1) cmdBuffer input

/-- `readLine(&_cmdBuffer[p], length)`, which does not look at `length`. -/
def readLine (calls p _length : Nat) (cmdBuffer : Mem) (input : List UInt8) :
    Option (Mem × List UInt8) :=
  (readChars p calls 0 cmdBuffer input).bind fun (cmdBuffer, input) =>
    (strlen cmdBuffer p).bind fun len =>
      (store cmdBuffer (p + len) 0).map fun cmdBuffer => (cmdBuffer, input)

/-- The loop of `readInput` over continuation lines, with the passes that are left.
`curBufLen` stays what it was before the loop; at 0 the test reads `_cmdBuffer[-1]`. -/
def readMore (calls curBufLen : Nat) :
    Nat → Mem → List UInt8 → Option (Mem × List UInt8)
  | 0, _, _ => none
  | passes + 1, cmdBuffer, input =>
      if curBufLen = 0 then none
      else if cmdBuffer (curBufLen - 1) = backSlant ∧ 0 < cmdBufferSize - curBufLen then
        (readLine calls (curBufLen - 1) (cmdBufferSize - curBufLen) cmdBuffer input).bind
          fun (cmdBuffer, input) => readMore calls curBufLen passes cmdBuffer input
      else some (cmdBuffer, input)

/-- The last loop of `readInput`. -/
def replaceTabs (cmdBuffer : Mem) (curBufLen : Nat) : Mem := fun i =>
  if i < curBufLen ∧ cmdBuffer i = tab then space else cmdBuffer i

/-- `readInput`, with a bound on the characters it asks for in one line, and on the
continuation lines.  `none`: it leaves `_cmdBuffer`, or it goes on longer than that. -/
def readInput (bound : Nat) (input : List UInt8) : Option (Mem × List UInt8) :=
  (readLine bound 0 (cmdBufferSize - 1) (fun _ => 0) input).bind fun (cmdBuffer, input) =>
    (strlen cmdBuffer 0).bind fun curBufLen =>
      (readMore bound curBufLen bound cmdBuffer input).bind fun (cmdBuffer, input) =>
        (strlen cmdBuffer 0).map fun curBufLen => (replaceTabs cmdBuffer curBufLen, input)

/-! ### Splitting a command

A string is far shorter than 2^64, so the positions of type `size_t` do not wrap. -/

/-- `text[pos]` of a constant string: a null character stands at its end, and behind that
there is nothing to read. -/
def charAt (text : List UInt8) (pos : Nat) : Option UInt8 := (text ++ [0])[pos]?

/-- `text.substr(pos, n)`, which throws when `pos` is behind the end. -/
def substr (text : List UInt8) (pos n : Nat) : Option (List UInt8) :=
  if pos ≤ text.length then some ((text.drop pos).take n) else none

/-- The inner loop of `split`, with the turns that are left.  It reads the character before
it checks the position. -/
def skipToken (text : List UInt8) (delim : UInt8) : Nat → Nat → Option Nat
  | 0, _ => none
  | turns + 1, pos =>
      (charAt text pos).bind fun ch =>
        if ch ≠ delim ∧ pos < text.length then skipToken text delim turns (pos + 1)
        else some pos

/-- The outer loop of `split`, with the rounds that are left. -/
def splitFrom (text : List UInt8) (delim : UInt8) (turns : Nat) :
    Nat → Nat → List (List UInt8) → Option (List (List UInt8))
  | 0, _, _ => none
  | rounds + 1, first, result =>
      if first < text.length then
        (skipToken text delim turns first).bind fun pos =>
          (substr text first (pos - first)).bind fun str =>
            splitFrom text delim turns rounds (pos + 1) (result ++ [str])
      else some result

/-- `split`, with a bound on the turns of each loop.  `none`: it reads outside the text, or
it goes on longer than that. -/
def split (bound : Nat) (text : List UInt8) (delim : UInt8) (result : List (List UInt8)) :
    Option (List (List UInt8)) :=
  splitFrom text delim bound bound 0 result

/-- What `prompt` looks up, and the options for it. -/
structure CommandLine where
  cmd : List UInt8
  optionVec : List (List UInt8)
deriving DecidableEq

/-- The loop of `prompt` over the tokens: the first one is the command. -/
def takeTokens : List (List UInt8) → Nat → CommandLine → CommandLine
  | [], _, line => line
  | str :: textVec, count, line =>
      if count = 0 then takeTokens textVec (count + 1) { line with cmd := str }
      else takeTokens textVec count { line with optionVec := line.optionVec ++ [str] }

/-- The string in `_cmdBuffer`. -/
def textInput (cmdBuffer : Mem) : Option (List UInt8) :=
  (strlen cmdBuffer 0).map (readBytes cmdBuffer 0)

/-- `prompt` up to the lookup of the command, with the bound of `readInput` and `split`. -/
def prompt (bound : Nat) (input : List UInt8) : Option (CommandLine × List UInt8) :=
  (readInput bound input).bind fun (cmdBuffer, input) =>
    (textInput cmdBuffer).bind fun text =>
      (split bound text space []).map fun textVec =>
        (takeTokens textVec 0 { cmd := [], optionVec := [] }, input)

end Edb

end EmeraldDb
