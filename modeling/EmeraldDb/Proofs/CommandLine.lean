/-
Module: EmeraldDb.Proofs.CommandLine
Purpose: That splitting a command loses nothing, and which command and options a typed line
  comes to.
Trusted boundary: none
Main exports: Edb.skipToken_token, Edb.splitFrom_eq, Edb.split_eq, Edb.prompt_line,
  Edb.prompt_some, Edb.prompt_words, split_losesNothing
-/
import EmeraldDb.Lib.Delimited
import EmeraldDb.Proofs.Shell

namespace EmeraldDb

open ByteMemory Delimited

namespace Edb

variable {bound turns rounds first : Nat} {delim : UInt8} {token rest text : List UInt8}
  {result : List (List UInt8)}

/-! ### The inner loop -/

/-- The character at the end of a part is the first one of the rest, or the terminator. -/
theorem charAt_append (before rest : List UInt8) :
    charAt (before ++ rest) before.length = some (rest.headD 0) := by
  rw [charAt, List.append_assoc, List.getElem?_append_right (Nat.le_refl _), Nat.sub_self]
  cases rest <;> rfl

/-- The inner loop stops where the token does. -/
theorem skipToken_end (before : List UInt8) (ended : rest = [] ∨ rest.head? = some delim) :
    skipToken (before ++ rest) delim (turns + 1) before.length = some before.length := by
  rw [skipToken, charAt_append, Option.bind_some, if_neg]
  rintro ⟨other, inside⟩
  rcases ended with rfl | here
  · rw [List.append_nil] at inside
    exact Nat.lt_irrefl _ inside
  · rw [List.headD_eq_head?_getD, here] at other
    exact other rfl

/-- From its first character the inner loop passes over a token. -/
theorem skipToken_token (before : List UInt8) (plain : delim ∉ token)
    (ended : rest = [] ∨ rest.head? = some delim) (enough : token.length < turns) :
    skipToken (before ++ (token ++ rest)) delim turns before.length =
      some (before.length + token.length) := by
  induction token generalizing before turns with
  | nil =>
      obtain ⟨turns, rfl⟩ := Nat.exists_eq_add_of_lt enough
      exact skipToken_end before ended
  | cons ch token ih =>
      cases turns with
      | zero => cases enough
      | succ turns =>
          have other := List.ne_of_not_mem_cons plain
          have inside : before.length < (before ++ (ch :: token ++ rest)).length := by
            simp
          rw [skipToken, charAt_append, Option.bind_some, if_pos ⟨other.symm, inside⟩]
          have later := ih (before ++ [ch]) (List.not_mem_of_not_mem_cons plain)
            (Nat.lt_of_succ_lt_succ enough)
          rw [List.length_append, List.length_singleton, List.append_assoc] at later
          rw [List.length_cons, Nat.add_comm token.length 1, ← Nat.add_assoc]
          exact later

/-! ### The outer loop -/

theorem substr_token (before token rest : List UInt8) :
    substr (before ++ (token ++ rest)) before.length
      (before.length + token.length - before.length) = some token := by
  rw [substr, if_pos (by simp), List.drop_left, Nat.add_sub_cancel_left, List.take_left]

theorem splitFrom_end (ended : text.length ≤ first) :
    splitFrom text delim turns (rounds + 1) first result = some result := by
  rw [splitFrom, if_neg (Nat.not_lt.mpr ended)]

/-- One round of the outer loop takes one token. -/
theorem splitFrom_token (rounds : Nat) (before : List UInt8) (result : List (List UInt8))
    (plain : delim ∉ token) (nonempty : token ++ rest ≠ [])
    (ended : rest = [] ∨ rest.head? = some delim) (enough : token.length < turns) :
    splitFrom (before ++ (token ++ rest)) delim turns (rounds + 1) before.length result =
      splitFrom (before ++ (token ++ rest)) delim turns rounds
        (before.length + token.length + 1) (result ++ [token]) := by
  have inside : before.length < (before ++ (token ++ rest)).length := by
    have positive := List.length_pos_of_ne_nil nonempty
    rw [List.length_append]
    omega
  rw [splitFrom, if_pos inside, skipToken_token before plain ended enough, Option.bind_some,
    substr_token, Option.bind_some]

/-- The last token may lack its delimiter: the next round would start behind the end. -/
theorem splitFrom_last (before : List UInt8) (result : List (List UInt8))
    (plain : delim ∉ token) (nonempty : token ≠ []) (enough : token.length < turns) :
    splitFrom (before ++ token) delim turns (rounds + 2) before.length result =
      some (result ++ [token]) := by
  have whole : token ++ [] ≠ [] := by rwa [List.append_nil]
  have round := splitFrom_token (rounds + 1) before result plain whole (.inl rfl) enough
  rw [List.append_nil] at round
  rw [round, splitFrom_end]
  rw [List.length_append]
  exact Nat.le_succ _

/-- The outer loop, from the start of a token, appends the tokens of what is left. -/
theorem splitFrom_eq (before : List UInt8) (result : List (List UInt8))
    (enough : rest.length < turns) (more : rest.length < rounds) :
    splitFrom (before ++ rest) delim turns rounds before.length result =
      some (result ++ tokens delim rest) := by
  induction rounds generalizing before rest result with
  | zero => cases more
  | succ rounds ih =>
      by_cases empty : rest = []
      · subst empty
        rw [splitFrom_end (by simp), tokens, List.append_nil]
      · by_cases further : delim ∈ rest
        · obtain ⟨token, later, rfl, plain⟩ := List.eq_append_cons_of_mem further
          rw [List.length_append, List.length_cons] at enough more
          have inTurns : token.length < turns ∧ later.length < turns := by omega
          have inRounds : later.length < rounds := by omega
          rw [splitFrom_token rounds before result plain empty (.inr rfl) inTurns.1,
            tokens_append plain]
          have next := ih (before ++ (token ++ [delim])) (result ++ [token]) inTurns.2 inRounds
          simp only [List.append_assoc, List.length_append, List.length_singleton,
            List.singleton_append, ← Nat.add_assoc] at next
          exact next
        · have positive := List.length_pos_of_ne_nil empty
          obtain ⟨rounds, rfl⟩ : ∃ left, rounds = left + 1 := ⟨rounds - 1, by omega⟩
          rw [splitFrom_last before result further empty enough, tokens_of_plain empty further]

/-- `split` appends the tokens of the text. -/
theorem split_eq (delim : UInt8) (result : List (List UInt8)) (enough : text.length < bound) :
    split bound text delim result = some (result ++ tokens delim text) :=
  splitFrom_eq [] result enough enough

/-! ### From the keyboard to the command -/

variable {line input input' cmd : List UInt8} {optionVec : List (List UInt8)}
  {commandLine : CommandLine}

/-- What `prompt` splits. -/
def commandText (line : List UInt8) : List UInt8 := (cString (kept line)).map spaced

theorem strlen_command (readable : Readable (kept line)) :
    strlen (command line) 0 = some (cString (kept line)).length := by
  refine strlen_eq_some.mpr ⟨command_end line, readable.ends, ?_⟩
  intro i inside zero
  rw [command, replaceTabs_apply, if_pos inside] at zero
  exact getD_ne_zero inside (spaced_eq_zero zero)

theorem textInput_command (readable : Readable (kept line)) :
    textInput (command line) = some (commandText line) := by
  rw [textInput, strlen_command readable, Option.map_some]
  apply congrArg some
  have length : (commandText line).length = (cString (kept line)).length := List.length_map _
  apply List.ext_getElem
  · rw [readBytes_length, length]
  · intro i left right
    rw [length] at right
    have before : (cString (kept line))[i] = ofBytes (kept line) i := by
      have within : i < (kept line).length := Nat.lt_of_lt_of_le right (cString_length_le _)
      rw [ofBytes, List.getD_eq_getElem _ _ within]
      exact (List.takeWhile_prefix _).getElem right
    rw [readBytes_getElem, Nat.zero_add, command, replaceTabs_apply, if_pos right]
    simp only [commandText, List.getElem_map, before]

theorem takeTokens_options (textVec : List (List UInt8)) (line : CommandLine) (count : Nat) :
    takeTokens textVec (count + 1) line =
      { line with optionVec := line.optionVec ++ textVec } := by
  induction textVec generalizing line with
  | nil => rw [takeTokens, List.append_nil]
  | cons str textVec ih =>
      rw [takeTokens, if_neg (Nat.succ_ne_zero count), ih, List.append_assoc]
      rfl

/-- The first token is looked up, and the others go with it. -/
theorem takeTokens_cons (cmd : List UInt8) (optionVec : List (List UInt8)) :
    takeTokens (cmd :: optionVec) 0 { cmd := [], optionVec := [] } =
      { cmd := cmd, optionVec := optionVec } := by
  rw [takeTokens, if_pos rfl, takeTokens_options]
  rfl

theorem commandText_length_le (line : List UInt8) : (commandText line).length ≤ line.length := by
  rw [commandText, List.length_map]
  exact (cString_length_le _).trans (List.length_filter_le _ _)

/-- Something is typed on a readable line, so there is a command. -/
theorem commandText_ne_nil (readable : Readable (kept line)) : commandText line ≠ [] := by
  intro empty
  have nothing : (cString (kept line)).length = 0 := by
    rw [← List.length_map spaced]
    exact congrArg List.length empty
  exact Nat.ne_of_gt readable.starts nothing

/-- A readable line becomes a command with options, which are the tokens of its text. -/
theorem prompt_line (plain : newLine ∉ line) (readable : Readable (kept line))
    (enough : line.length < bound)
    (splits : tokens space (commandText line) = cmd :: optionVec) :
    prompt bound (line ++ newLine :: input) =
      some ({ cmd := cmd, optionVec := optionVec }, input) := by
  have short := Nat.lt_of_le_of_lt (commandText_length_le line) enough
  simp only [prompt, readInput_line plain readable enough, Option.bind_some,
    textInput_command readable, split_eq space [] short, splits, List.nil_append,
    Option.map_some, takeTokens_cons]

/-- Nothing of a line is lost on its way to the command that `prompt` looks up: command and
options spell it, with spaces for the tabs. -/
theorem prompt_some (returned : prompt bound input = some (commandLine, input')) :
    ∃ line, input = line ++ newLine :: input' ∧ newLine ∉ line ∧ Readable (kept line) ∧
      (∀ token ∈ commandLine.cmd :: commandLine.optionVec, space ∉ token) ∧
      write space (commandLine.cmd :: commandLine.optionVec) =
        closed space (commandText line) := by
  have ran := returned
  rw [prompt] at ran
  rcases Option.bind_eq_some_iff.mp ran with ⟨⟨cmdBuffer, rest⟩, read, -⟩
  rcases readInput_some read with ⟨line, rfl, plain, enough, readable, -⟩
  cases splits : tokens space (commandText line) with
  | nil => exact absurd (tokens_eq_nil_iff.mp splits) (commandText_ne_nil readable)
  | cons cmd optionVec =>
      rw [prompt_line plain readable enough splits] at returned
      cases returned
      refine ⟨line, rfl, plain, readable, ?_, ?_⟩
      · intro token member
        rw [← splits] at member
        exact notMem_of_mem_tokens member
      · rw [← splits]
        exact write_tokens space (commandText line)

/-- A line that the shell takes as it is. -/
structure Verbatim (line : List UInt8) : Prop where
  starts : line ≠ []
  fits : line.length < cmdBufferSize
  plain : ∀ ch ∈ line, ch ≠ newLine ∧ ch ≠ backSlant ∧ ch ≠ tab ∧ ch ≠ 0

theorem Verbatim.kept_eq (verbatim : Verbatim line) : kept line = line :=
  kept_of_plain fun member => (verbatim.plain _ member).2.1 rfl

theorem Verbatim.cString_eq (verbatim : Verbatim line) : cString line = line :=
  cString_of_plain fun member => (verbatim.plain _ member).2.2.2 rfl

theorem Verbatim.readable (verbatim : Verbatim line) : Readable (kept line) := by
  rw [verbatim.kept_eq]
  refine ⟨Nat.le_of_lt verbatim.fits, ?_, ?_⟩
  · rw [verbatim.cString_eq]
    exact List.length_pos_of_ne_nil verbatim.starts
  · rw [verbatim.cString_eq]
    exact verbatim.fits

theorem Verbatim.commandText_eq (verbatim : Verbatim line) : commandText line = line := by
  rw [commandText, verbatim.kept_eq, verbatim.cString_eq]
  have same : ∀ ch ∈ line, spaced ch = id ch := fun ch member =>
    if_neg (verbatim.plain ch member).2.2.1
  rw [List.map_congr_left same, List.map_id]

/-- Words that are typed with a space between each two reach the command as they are. -/
theorem prompt_words (verbatim : Verbatim line) (enough : line.length < bound)
    (words : ∀ word ∈ cmd :: optionVec, space ∉ word)
    (typed : write space (cmd :: optionVec) = closed space line) :
    prompt bound (line ++ newLine :: input) =
      some ({ cmd := cmd, optionVec := optionVec }, input) := by
  have plain : newLine ∉ line := fun member => (verbatim.plain _ member).1 rfl
  apply prompt_line plain verbatim.readable enough
  rw [verbatim.commandText_eq]
  exact (eq_tokens words typed).symm

end Edb

/-- `split` ends, with at most one turn more of each loop than the text is long, and appends
tokens without the delimiter that spell the text when each is followed by it. -/
theorem split_losesNothing (text : List UInt8) (delim : UInt8) (result : List (List UInt8)) :
    ∃ appended : List (List UInt8),
      (∀ bound, text.length < bound →
        Edb.split bound text delim result = some (result ++ appended)) ∧
      (∀ token ∈ appended, delim ∉ token) ∧
      appended.flatMap (· ++ [delim]) =
        (if text = [] ∨ text.getLast? = some delim then text else text ++ [delim]) ∧
      (text = [] → appended = []) := by
  refine ⟨tokens delim text, ?_, ?_, ?_, ?_⟩
  · intro bound enough
    exact Edb.split_eq delim result enough
  · intro token member
    exact notMem_of_mem_tokens member
  · exact write_tokens delim text
  · intro empty
    exact tokens_eq_nil_iff.mpr empty

end EmeraldDb
