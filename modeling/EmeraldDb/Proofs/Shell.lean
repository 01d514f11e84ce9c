/-
Module: EmeraldDb.Proofs.Shell
Purpose: Which inputs readInput reads safely, and what it makes of continuation lines.
Trusted boundary: none
Main exports: Edb.kept, Edb.Readable, Edb.readInput_some, Edb.readInput_line,
  readInput_safe_iff, emptyLine_outside, continuation_kept_iff, continuation_lost
-/
import Mathlib.Data.List.Basic
import EmeraldDb.Client.Shell
import EmeraldDb.Lib.CString

namespace EmeraldDb

open ByteMemory

namespace Edb

variable {p bound calls passes curBufLen : Nat} {cmdBuffer cmdBuffer' : Mem}
  {input input' line stored : List UInt8}

/-! ### One line -/

/-- What `readLine` stores of a line. -/
def kept (line : List UInt8) : List UInt8 := line.filter (· ≠ backSlant)

theorem kept_cons_backSlant : kept (backSlant :: line) = kept line :=
  List.filter_cons_of_neg (by simp)

theorem kept_cons {ch : UInt8} (other : ch ≠ backSlant) : kept (ch :: line) = ch :: kept line :=
  List.filter_cons_of_pos (by simpa using other)

theorem backSlant_notMem_kept : backSlant ∉ kept line := by
  simp [kept]

theorem store_some {i : Nat} {ch : UInt8} (stores : store cmdBuffer i ch = some cmdBuffer') :
    i < cmdBufferSize ∧ cmdBuffer' = writeBytes cmdBuffer i [ch] := by
  unfold store at stores
  split at stores
  next inside => exact ⟨inside, (Option.some.inj stores).symm⟩
  next => cases stores

/-- A loop that ends has read a line and stored what is kept of it, inside the buffer. -/
theorem readChars_some {len : Nat}
    (ends : readChars p calls len cmdBuffer input = some (cmdBuffer', input')) :
    ∃ line, input = line ++ newLine :: input' ∧ newLine ∉ line ∧ line.length < calls ∧
      (kept line = [] ∨ p + len + (kept line).length ≤ cmdBufferSize) ∧
      cmdBuffer' = writeBytes cmdBuffer (p + len) (kept line) := by
  induction calls generalizing len cmdBuffer input with
  | zero => cases ends
  | succ calls ih =>
      cases input with
      | nil =>
          -- EOF is stored, and no newline comes after it
          simp only [readChars, getchar, reduceCtorEq, if_false, Option.bind_eq_some_iff] at ends
          rcases ends with ⟨next, -, ends⟩
          rcases ih ends with ⟨line, read, -⟩
          simp at read
      | cons ch input =>
          simp only [readChars, getchar, Option.some.injEq] at ends
          split_ifs at ends with ended dropped
          · cases ends
            exact ⟨[], by rw [ended]; rfl, by simp, Nat.succ_pos _, .inl rfl,
              (writeBytes_nil _ _).symm⟩
          · rcases ih ends with ⟨line, rfl, plain, enough, room, stored⟩
            subst dropped
            refine ⟨backSlant :: line, rfl, ?_, Nat.succ_lt_succ enough, ?_, ?_⟩
            · exact List.not_mem_cons_of_ne_of_not_mem (by decide) plain
            · rwa [kept_cons_backSlant]
            · rwa [kept_cons_backSlant]
          · rcases Option.bind_eq_some_iff.mp ends with ⟨next, stores, ends⟩
            rcases store_some stores with ⟨inside, rfl⟩
            rcases ih ends with ⟨line, rfl, plain, enough, room, rfl⟩
            refine ⟨ch :: line, rfl, ?_, Nat.succ_lt_succ enough, ?_, ?_⟩
            · exact List.not_mem_cons_of_ne_of_not_mem (fun same => ended same.symm) plain
            · rw [kept_cons dropped, List.length_cons]
              rcases room with nothing | room
              · rw [nothing, List.length_nil]
                omega
              · omega
            · rw [kept_cons dropped]
              exact writeBytes_append cmdBuffer (p + len) [ch] (kept line)

/-- A line whose kept part fits is read, with a call of `getchar` for each character. -/
theorem readChars_line {len : Nat} (plain : newLine ∉ line) (enough : line.length < calls)
    (room : p + len + (kept line).length ≤ cmdBufferSize) :
    readChars p calls len cmdBuffer (line ++ newLine :: input) =
      some (writeBytes cmdBuffer (p + len) (kept line), input) := by
  induction line generalizing calls len cmdBuffer with
  | nil =>
      obtain ⟨calls, rfl⟩ := Nat.exists_eq_add_of_lt enough
      simp [readChars, getchar, kept, writeBytes_nil]
  | cons ch line ih =>
      have other := List.ne_of_not_mem_cons plain
      replace plain := List.not_mem_of_not_mem_cons plain
      cases calls with
      | zero => cases enough
      | succ calls =>
          replace enough := Nat.lt_of_succ_lt_succ enough
          by_cases dropped : ch = backSlant
          · subst dropped
            rw [kept_cons_backSlant] at room ⊢
            simp only [List.cons_append, readChars, getchar, Option.some.injEq,
              if_neg (Ne.symm other), if_true]
            exact ih plain enough room
          · rw [kept_cons dropped] at room ⊢
            rw [List.length_cons] at room
            have inside : p + len < cmdBufferSize := by omega
            simp only [List.cons_append, readChars, getchar, Option.some.injEq,
              if_neg (Ne.symm other), if_neg dropped, store, if_pos inside, Option.bind_some,
              toChar]
            rw [ih plain enough (by omega)]
            exact congrArg (fun buffer => some (buffer, input))
              (writeBytes_append cmdBuffer (p + len) [ch] (kept line))

/-! ### A whole command -/

/-- A stored line ends within the buffer, and there is something before its end. -/
structure Readable (stored : List UInt8) : Prop where
  fits : stored.length ≤ cmdBufferSize
  starts : 0 < (cString stored).length
  ends : (cString stored).length < cmdBufferSize

/-- `strlen` answers the first index with a zero. -/
theorem strlen_eq_some {n : Nat} :
    strlen cmdBuffer 0 = some n ↔
      cmdBuffer n = 0 ∧ n < cmdBufferSize ∧ ∀ i < n, cmdBuffer i ≠ 0 := by
  simp only [strlen, Nat.zero_add, Nat.sub_zero, List.find?_range_eq_some, decide_eq_true_eq,
    List.mem_range, Bool.not_eq_true', decide_eq_false_iff_not]

theorem strlen_ofBytes (stored : List UInt8) {n : Nat} :
    strlen (ofBytes stored) 0 = some n ↔ (cString stored).length = n ∧ n < cmdBufferSize := by
  rw [strlen_eq_some]
  constructor
  · rintro ⟨zero, below, before⟩
    refine ⟨Nat.le_antisymm ?_ ?_, below⟩
    · by_contra longer
      exact getD_ne_zero (Nat.lt_of_not_le longer) zero
    · by_contra shorter
      exact before _ (Nat.lt_of_not_le shorter) (getD_cString_length stored)
  · rintro ⟨rfl, below⟩
    exact ⟨getD_cString_length stored, below, fun i inside => getD_ne_zero inside⟩

/-- The terminator that `readLine` writes is there already. -/
theorem store_terminator (stored : List UInt8) (inside : (cString stored).length < cmdBufferSize) :
    store (ofBytes stored) (cString stored).length 0 = some (ofBytes stored) := by
  have terminated : ofBytes stored (cString stored).length = 0 := getD_cString_length stored
  rw [store, if_pos inside, writeBytes_of_spelled]
  simp [readBytes, terminated]

/-- No character in the buffer is a backslash. -/
theorem ofBytes_kept_ne (line : List UInt8) (i : Nat) : ofBytes (kept line) i ≠ backSlant := by
  rcases Nat.lt_or_ge i (kept line).length with inside | behind
  · rw [ofBytes, List.getD_eq_getElem _ _ inside]
    intro same
    exact backSlant_notMem_kept (same ▸ List.getElem_mem inside)
  · rw [ofBytes, List.getD_eq_default _ _ behind]
    decide

/-- So the loop over continuation lines ends before it has begun. -/
theorem readMore_kept (positive : 0 < curBufLen) :
    readMore calls curBufLen (passes + 1) (ofBytes (kept line)) input =
      some (ofBytes (kept line), input) := by
  rw [readMore, if_neg (Nat.ne_of_gt positive), if_neg]
  exact fun continued => ofBytes_kept_ne line _ continued.1

/-- What `readInput` makes of a line. -/
def command (line : List UInt8) : Mem :=
  replaceTabs (ofBytes (kept line)) (cString (kept line)).length

/-- A `readInput` that returns has read one line. -/
theorem readInput_some (returned : readInput bound input = some (cmdBuffer, input')) :
    ∃ line, input = line ++ newLine :: input' ∧ newLine ∉ line ∧ line.length < bound ∧
      Readable (kept line) ∧ cmdBuffer = command line := by
  cases bound with
  | zero => cases returned
  | succ bound =>
      simp only [readInput, readLine, Option.bind_eq_some_iff, Option.map_eq_some_iff,
        Prod.exists, Prod.mk.injEq] at returned
      rcases returned with ⟨buffer, rest, ⟨stored, rest, read, len, measured, buffer,
        terminated, rfl, rfl⟩, curBufLen, again, buffer, rest, continued, last, measured',
        rfl, rfl⟩
      rcases readChars_some read with ⟨line, rfl, plain, enough, room, rfl⟩
      rw [Nat.zero_add, writeBytes_zeros] at measured terminated
      rcases (strlen_ofBytes _).mp measured with ⟨rfl, ends⟩
      rw [Nat.zero_add, store_terminator _ ends] at terminated
      cases terminated
      rcases (strlen_ofBytes _).mp again with ⟨rfl, -⟩
      have starts : 0 < (cString (kept line)).length := by
        by_contra empty
        rw [readMore, if_pos (Nat.eq_zero_of_not_pos empty)] at continued
        cases continued
      rw [readMore_kept starts] at continued
      cases continued
      rcases (strlen_ofBytes _).mp measured' with ⟨rfl, -⟩
      have fits : (kept line).length ≤ cmdBufferSize := by
        rcases room with nothing | room
        · exact nothing ▸ Nat.zero_le _
        · simpa using room
      exact ⟨line, rfl, plain, enough, ⟨fits, starts, ends⟩, rfl⟩

/-- A readable line is read when enough characters may be asked for. -/
theorem readInput_line (plain : newLine ∉ line) (readable : Readable (kept line))
    (enough : line.length < bound) :
    readInput bound (line ++ newLine :: input) = some (command line, input) := by
  have room : 0 + 0 + (kept line).length ≤ cmdBufferSize := by simpa using readable.fits
  have read : readChars 0 bound 0 (fun _ => 0) (line ++ newLine :: input) =
      some (ofBytes (kept line), input) := by
    rw [readChars_line plain enough room, Nat.zero_add, writeBytes_zeros]
  have measured : strlen (ofBytes (kept line)) 0 = some (cString (kept line)).length :=
    (strlen_ofBytes _).mpr ⟨rfl, readable.ends⟩
  obtain ⟨passes, rfl⟩ := Nat.exists_eq_add_of_lt enough
  simp only [readInput, readLine, read, Option.bind_some, measured, Nat.zero_add,
    store_terminator _ readable.ends, Option.map_some, readMore_kept readable.starts]
  rfl

/-! ### Safe inputs -/

/-- `readInput` returns without having left `_cmdBuffer`, which then holds a string. -/
def ReadsSafely (input : List UInt8) : Prop :=
  ∃ bound cmdBuffer input', readInput bound input = some (cmdBuffer, input') ∧
    ∃ i, i < cmdBufferSize ∧ cmdBuffer i = 0

/-- The characters before the first newline. -/
def firstLine (input : List UInt8) : List UInt8 := input.takeWhile (· ≠ newLine)

theorem firstLine_append (plain : newLine ∉ line) :
    firstLine (line ++ newLine :: input) = line :=
  takeWhile_ne_append plain input

theorem command_end (line : List UInt8) : command line (cString (kept line)).length = 0 := by
  rw [command, replaceTabs, if_neg fun inside => Nat.lt_irrefl _ inside.1]
  exact getD_cString_length (kept line)

theorem ReadsSafely.readable (safe : ReadsSafely input) :
    newLine ∈ input ∧ Readable (kept (firstLine input)) := by
  rcases safe with ⟨bound, cmdBuffer, input', returned, -⟩
  rcases readInput_some returned with ⟨line, rfl, plain, -, readable, -⟩
  rw [firstLine_append plain]
  exact ⟨by simp, readable⟩

end Edb

/-- A command is read safely exactly if it ends with a newline, and its first line, without
the backslashes, begins with a character other than NUL and has its end in the buffer. -/
theorem readInput_safe_iff (input : List UInt8) :
    Edb.ReadsSafely input ↔
      Edb.newLine ∈ input ∧ Edb.Readable (Edb.kept (Edb.firstLine input)) := by
  constructor
  · exact fun safe => safe.readable
  · rintro ⟨ended, readable⟩
    obtain ⟨line, rest, rfl, plain⟩ := List.eq_append_cons_of_mem ended
    rw [Edb.firstLine_append plain] at readable
    exact ⟨line.length + 1, _, rest, Edb.readInput_line plain readable (Nat.lt_succ_self _),
      _, readable.ends, Edb.command_end line⟩

/-- An empty line, an input without a newline, and a line that is longer than the buffer. -/
theorem emptyLine_outside :
    ¬ Edb.ReadsSafely [Edb.newLine] ∧ ¬ Edb.ReadsSafely [97] ∧
      ¬ Edb.ReadsSafely (List.replicate 513 97 ++ [Edb.newLine]) := by
  refine ⟨fun safe => ?_, fun safe => ?_, fun safe => ?_⟩
  · exact absurd safe.readable.2.starts (by decide)
  · exact absurd safe.readable.1 (by decide)
  · have fits := safe.readable.2.fits
    have plain : Edb.newLine ∉ List.replicate 513 (97 : UInt8) := by
      intro member
      exact absurd (List.eq_of_mem_replicate member) (by decide)
    have all : Edb.kept (List.replicate 513 97) = List.replicate 513 97 := by
      rw [Edb.kept, List.filter_replicate_of_pos (by decide)]
    rw [Edb.firstLine_append plain, all, List.length_replicate] at fits
    exact absurd fits (by decide)

namespace Edb

/-! ### Continuation lines -/

/-- A tab becomes a space. -/
def spaced (ch : UInt8) : UInt8 := if ch = tab then space else ch

/-- What the lines are typed for: the trailing backslash of every line but the last is a
sign that the command goes on. -/
def joined : List (List UInt8) → List UInt8
  | [] => []
  | [last] => last
  | line :: next :: more => line.dropLast ++ joined (next :: more)

/-- The lines as they come from the keyboard. -/
def typed (lines : List (List UInt8)) : List UInt8 := lines.flatMap (· ++ [newLine])

/-- Lines that are typed as one command. -/
structure Continued (lines : List (List UInt8)) : Prop where
  nonempty : lines ≠ []
  each : ∀ line ∈ lines, line ≠ [] ∧ newLine ∉ line
  continues : ∀ line ∈ lines.dropLast, line.getLast? = some backSlant
  stops : ∀ last, lines.getLast? = some last → last.getLast? ≠ some backSlant
  short : lines.flatten.length < cmdBufferSize - 1

/-- `readInput` leaves the joined lines in `_cmdBuffer`, with spaces for the tabs. -/
def KeepsText (lines : List (List UInt8)) (rest : List UInt8) : Prop :=
  ∃ bound cmdBuffer input', readInput bound (typed lines ++ rest) = some (cmdBuffer, input') ∧
    readBytes cmdBuffer 0 ((joined lines).length + 1) = (joined lines).map spaced ++ [0]

/-- The part of the joined lines that comes from the first line. -/
def firstPart : List (List UInt8) → List UInt8
  | [] => []
  | [line] => line
  | line :: _ :: _ => line.dropLast

/-- The part that comes from the other lines. -/
def laterPart : List (List UInt8) → List UInt8
  | _ :: next :: more => joined (next :: more)
  | _ => []

theorem joined_eq (lines : List (List UInt8)) : joined lines = firstPart lines ++ laterPart lines := by
  match lines with
  | [] => rfl
  | [_] => exact (List.append_nil _).symm
  | _ :: _ :: _ => rfl

/-- What `readInput` has made of a stored line. -/
theorem replaceTabs_apply (stored : List UInt8) (i : Nat) :
    replaceTabs (ofBytes stored) (cString stored).length i =
      if i < (cString stored).length then spaced (ofBytes stored i) else ofBytes stored i := by
  unfold replaceTabs spaced
  split_ifs <;> simp_all

theorem spaced_ne {ch : UInt8} (other : ch ≠ backSlant) : spaced ch ≠ backSlant := by
  unfold spaced
  split
  · decide
  · exact other

theorem spaced_eq_zero {ch : UInt8} (zero : spaced ch = 0) : ch = 0 := by
  unfold spaced at zero
  split at zero
  · exact absurd zero (by decide)
  · exact zero

/-- A memory spells a text with spaces for its tabs and a zero behind it. -/
theorem spells_iff {m : Mem} (text : List UInt8) :
    readBytes m 0 (text.length + 1) = text.map spaced ++ [0] ↔
      ∀ i ≤ text.length, m i = spaced (ofBytes text i) := by
  have wanted (i : Nat) (inside : i < (text.map spaced ++ [0]).length) :
      (text.map spaced ++ [0])[i] = spaced (ofBytes text i) := by
    rw [List.getElem_append]
    split
    next within =>
      rw [List.length_map] at within
      rw [List.getElem_map, ofBytes, List.getD_eq_getElem _ _ within]
    next behind =>
      rw [List.length_map] at behind
      rw [ofBytes, List.getD_eq_default _ _ (Nat.le_of_not_lt behind)]
      simp [spaced, tab]
  have length : (text.map spaced ++ [0]).length = text.length + 1 := by simp
  constructor
  · intro spelled i below
    have inside : i < (readBytes m 0 (text.length + 1)).length := by
      rw [readBytes_length]
      exact Nat.lt_succ_of_le below
    have here := readBytes_getElem m 0 (text.length + 1) i inside
    rw [Nat.zero_add] at here
    rw [← here, ← wanted i (by omega)]
    exact List.getElem_of_eq spelled inside
  · intro agree
    apply List.ext_getElem
    · rw [readBytes_length, length]
    · intro i left right
      rw [readBytes_getElem, Nat.zero_add, wanted i right]
      exact agree i (by omega)

/-- The first line is kept whole, and nothing that counts comes after it. -/
structure Unbroken (lines : List (List UInt8)) : Prop where
  plain : backSlant ∉ firstPart lines
  starts : 0 < (cString (firstPart lines)).length
  tabs : tab ∉ (firstPart lines).drop (cString (firstPart lines)).length
  later : ∀ ch ∈ laterPart lines, ch = 0

variable {text later : List UInt8} {lines : List (List UInt8)}

theorem ofBytes_front {i : Nat} (inside : i < text.length) :
    ofBytes (text ++ later) i = ofBytes text i :=
  List.getD_append _ _ _ _ inside

theorem ofBytes_behind {i : Nat} (behind : text.length ≤ i) : ofBytes text i = 0 :=
  List.getD_eq_default _ _ behind

/-- A backslash in the text would have to be in the buffer. -/
theorem plain_of_spelled
    (agree : ∀ i ≤ (text ++ later).length,
      replaceTabs (ofBytes (kept text)) (cString (kept text)).length i =
        spaced (ofBytes (text ++ later) i)) : backSlant ∉ text := by
  intro member
  obtain ⟨i, inside, same⟩ := List.getElem_of_mem member
  have wanted : ofBytes (text ++ later) i = backSlant := by
    rw [ofBytes_front inside, ofBytes, List.getD_eq_getElem _ _ inside, same]
  have here := agree i (by rw [List.length_append]; omega)
  rw [wanted, replaceTabs_apply] at here
  split at here
  · exact spaced_ne (ofBytes_kept_ne text i) here
  · exact ofBytes_kept_ne text i here

theorem kept_of_plain (plain : backSlant ∉ text) : kept text = text :=
  List.filter_eq_self.mpr (all_ne_of_notMem plain)

/-- The buffer spells the text and what comes later exactly if the text has no tab that the
last loop does not reach, and only zeros come later. -/
theorem spelled_iff :
    (∀ i ≤ (text ++ later).length,
      replaceTabs (ofBytes text) (cString text).length i = spaced (ofBytes (text ++ later) i)) ↔
      tab ∉ text.drop (cString text).length ∧ ∀ ch ∈ later, ch = 0 := by
  have reach := cString_length_le text
  constructor
  · intro agree
    constructor
    · intro member
      obtain ⟨k, inside, same⟩ := List.getElem_of_mem member
      rw [List.length_drop] at inside
      rw [List.getElem_drop] at same
      have within : (cString text).length + k < text.length := by omega
      have here := agree ((cString text).length + k) (by rw [List.length_append]; omega)
      rw [replaceTabs_apply, if_neg (by omega), ofBytes_front within, ofBytes,
        List.getD_eq_getElem _ _ within, same] at here
      exact absurd here (by decide)
    · intro ch member
      obtain ⟨k, inside, same⟩ := List.getElem_of_mem member
      have here := agree (text.length + k) (by rw [List.length_append]; omega)
      have wanted : ofBytes (text ++ later) (text.length + k) = ch := by
        rw [ofBytes, List.getD_append_right _ _ _ _ (by omega), Nat.add_sub_cancel_left,
          List.getD_eq_getElem _ _ inside, same]
      rw [replaceTabs_apply, if_neg (by omega), ofBytes_behind (by omega), wanted] at here
      exact spaced_eq_zero here.symm
  · rintro ⟨tabs, zeros⟩ i -
    rw [replaceTabs_apply]
    rcases Nat.lt_or_ge i text.length with within | behind
    · rw [ofBytes_front within]
      split
      next => rfl
      next unreached =>
        have other : ofBytes text i ≠ tab := by
          intro same
          rw [ofBytes, List.getD_eq_getElem _ _ within] at same
          apply tabs
          rw [← same]
          exact List.mem_drop_iff_getElem.mpr ⟨i - (cString text).length, by omega, by
            simp only [Nat.add_sub_cancel' (Nat.le_of_not_lt unreached)]⟩
        rw [spaced, if_neg other]
    · have zero : ofBytes (text ++ later) i = 0 := by
        rw [ofBytes, List.getD_append_right _ _ _ _ behind]
        rcases Nat.lt_or_ge (i - text.length) later.length with inside | past
        · rw [List.getD_eq_getElem _ _ inside]
          exact zeros _ (List.getElem_mem inside)
        · exact List.getD_eq_default _ _ past
      rw [if_neg (by omega), zero, ofBytes_behind behind]
      rfl

/-- The characters that are typed begin with the first line, of which `readLine` keeps
what it keeps of its part of the text. -/
theorem Continued.first (continued : Continued lines) (rest : List UInt8) :
    ∃ first input, typed lines ++ rest = first ++ newLine :: input ∧ newLine ∉ first ∧
      kept first = kept (firstPart lines) ∧ (kept first).length + 1 < cmdBufferSize := by
  match lines, continued with
  | [], continued => exact absurd rfl continued.nonempty
  | first :: more, continued =>
      refine ⟨first, typed more ++ rest, by simp [typed], (continued.each first (by simp)).2,
        ?_, ?_⟩
      · match more, continued with
        | [], continued => rfl
        | next :: more, continued =>
            have ends := continued.continues first (by simp)
            have whole := List.dropLast_append_getLast? backSlant ends
            rw [firstPart]
            conv => lhs; rw [← whole]
            simp [kept]
      · have short := continued.short
        have dropped : (kept first).length ≤ first.length := List.length_filter_le _ _
        rw [List.flatten_cons, List.length_append] at short
        omega

theorem KeepsText.unbroken {rest : List UInt8} (continued : Continued lines)
    (keeps : KeepsText lines rest) : Unbroken lines := by
  obtain ⟨first, input, begins, noNewLine, same, short⟩ := continued.first rest
  rw [KeepsText, begins, joined_eq] at keeps
  rcases keeps with ⟨bound, cmdBuffer, input', returned, spelled⟩
  obtain ⟨line, split, plainLine, -, readable, rfl⟩ := readInput_some returned
  obtain rfl : first = line := by
    have one := congrArg firstLine split
    rwa [firstLine_append noNewLine, firstLine_append plainLine] at one
  have agree := (spells_iff _).mp spelled
  rw [command, same] at agree
  have plain := plain_of_spelled agree
  rw [kept_of_plain plain] at agree same
  obtain ⟨tabs, later⟩ := spelled_iff.mp agree
  exact ⟨plain, same ▸ readable.starts, tabs, later⟩

theorem Unbroken.keepsText (unbroken : Unbroken lines) (continued : Continued lines)
    (rest : List UInt8) : KeepsText lines rest := by
  obtain ⟨first, input, begins, noNewLine, same, short⟩ := continued.first rest
  have reach := cString_length_le (kept first)
  rw [kept_of_plain unbroken.plain] at same
  have readable : Readable (kept first) := ⟨by omega, same ▸ unbroken.starts, by omega⟩
  rw [KeepsText, begins, joined_eq]
  refine ⟨first.length + 1, _, input, readInput_line noNewLine readable (Nat.lt_succ_self _),
    (spells_iff _).mpr ?_⟩
  rw [command, same]
  exact spelled_iff.mpr ⟨unbroken.tabs, unbroken.later⟩

theorem joined_ne_nil (nonempty : lines ≠ []) (each : ∀ line ∈ lines, line ≠ []) :
    joined lines ≠ [] := by
  induction lines with
  | nil => exact absurd rfl nonempty
  | cons line more ih =>
      cases more with
      | nil => exact each line (by simp)
      | cons next more =>
          intro empty
          exact ih (by simp) (fun other member => each other (by simp [member]))
            (List.append_eq_nil_iff.mp empty).2

/-- For a text without NULs this is one line without a backslash. -/
theorem unbroken_iff_single (continued : Continued lines) (text : 0 ∉ joined lines) :
    Unbroken lines ↔ ∃ line, lines = [line] ∧ backSlant ∉ line := by
  match lines, continued with
  | [], continued => exact absurd rfl continued.nonempty
  | [line], continued =>
      have whole : cString line = line := cString_of_plain text
      constructor
      · exact fun unbroken => ⟨line, rfl, unbroken.plain⟩
      · rintro ⟨same, single, plain⟩
        cases single
        refine ⟨plain, ?_, ?_, by simp [laterPart]⟩
        · rw [firstPart, whole]
          exact List.length_pos_iff.mpr (continued.each line (by simp)).1
        · rw [firstPart, whole, List.drop_length]
          exact List.not_mem_nil
  | first :: next :: more, continued =>
      refine iff_of_false (fun unbroken => ?_) (by simp)
      have each : ∀ line ∈ next :: more, line ≠ [] := fun line member =>
        (continued.each line (List.mem_cons_of_mem first member)).1
      obtain ⟨ch, member⟩ := List.exists_mem_of_ne_nil _
        (joined_ne_nil (List.cons_ne_nil next more) each)
      obtain rfl := unbroken.later ch member
      exact text (List.mem_append_right _ member)

end Edb

/-- The continued lines end up in the buffer exactly if the first one is kept whole and the
others bring nothing. -/
theorem continuation_kept_iff {lines : List (List UInt8)} (rest : List UInt8)
    (continued : Edb.Continued lines) : Edb.KeepsText lines rest ↔ Edb.Unbroken lines :=
  ⟨fun keeps => keeps.unbroken continued, fun unbroken => unbroken.keepsText continued rest⟩

/-- One line. -/
theorem continuation_kept_single :
    Edb.KeepsText [[97, 9, 98]] [] ↔ Edb.Unbroken [[97, 9, 98]] :=
  continuation_kept_iff [] ⟨by decide, by decide, by decide, by decide, by decide⟩

/-- A command on two lines comes without its second line, and a backslash inside a line is
lost. -/
theorem continuation_lost :
    Edb.Continued [[97, 98, 92], [99]] ∧ ¬ Edb.KeepsText [[97, 98, 92], [99]] [] ∧
      Edb.Continued [[97, 92, 98]] ∧ ¬ Edb.KeepsText [[97, 92, 98]] [] := by
  have twoLines : Edb.Continued [[97, 98, 92], [99]] :=
    ⟨by decide, by decide, by decide, by simp [Edb.backSlant], by decide⟩
  have oneLine : Edb.Continued [[97, 92, 98]] :=
    ⟨by decide, by decide, by decide, by simp [Edb.backSlant], by decide⟩
  refine ⟨twoLines, fun keeps => ?_, oneLine, fun keeps => ?_⟩
  · exact absurd ((keeps.unbroken twoLines).later 99 (by decide)) (by decide)
  · exact (keeps.unbroken oneLine).plain (by decide)

end EmeraldDb
