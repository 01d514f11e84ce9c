/-
Module: EmeraldDb.Lib.Delimited
Purpose: Texts as tokens that a delimiter ends: writing the tokens, reading them back, and
  that the two determine each other.
Trusted boundary: none
Main exports: Delimited.write, Delimited.closed, Delimited.tokens, Delimited.write_tokens,
  Delimited.tokens_write, Delimited.eq_tokens
-/
import Mathlib.Data.List.Basic

namespace Delimited

variable {α : Type} {delim : α} {text token rest : List α} {list : List (List α)}

/-- Each token, followed by the delimiter. -/
def write (delim : α) (list : List (List α)) : List α := list.flatMap (· ++ [delim])

theorem write_cons (delim : α) (token : List α) (list : List (List α)) :
    write delim (token :: list) = token ++ delim :: write delim list := by
  rw [write, List.flatMap_cons, List.append_assoc]
  rfl

variable [DecidableEq α]

/-- A text whose last token has its delimiter. -/
def closed (delim : α) (text : List α) : List α :=
  if text = [] ∨ text.getLast? = some delim then text else text ++ [delim]

/-- The tokens of a text; the last one may lack its delimiter. -/
def tokens (delim : α) : List α → List (List α)
  | [] => []
  | ch :: text =>
      if ch = delim then [] :: tokens delim text
      else
        match tokens delim text with
        | [] => [[ch]]
        | token :: list => (ch :: token) :: list

theorem closed_nil : closed delim [] = [] := if_pos (.inl rfl)

theorem closed_cons (ch : α) (nonempty : text ≠ []) :
    closed delim (ch :: text) = ch :: closed delim text := by
  have last : (ch :: text).getLast? = text.getLast? := List.getLast?_cons_of_ne_nil nonempty
  unfold closed
  rw [last]
  by_cases ended : text.getLast? = some delim
  · rw [if_pos (.inr ended), if_pos (.inr ended)]
  · rw [if_neg (by simp [ended]), if_neg (by simp [ended, nonempty])]
    rfl

/-- A text without a character has no token, and no other has none. -/
theorem tokens_eq_nil_iff : tokens delim text = [] ↔ text = [] := by
  cases text with
  | nil => exact ⟨fun _ => rfl, fun _ => rfl⟩
  | cons ch text =>
      unfold tokens
      split
      · simp
      · split <;> simp

/-- No token has the delimiter in it. -/
theorem notMem_of_mem_tokens (member : token ∈ tokens delim text) : delim ∉ token := by
  induction text generalizing token with
  | nil => cases member
  | cons ch text ih =>
      unfold tokens at member
      split at member
      next =>
        rcases List.mem_cons.mp member with rfl | later
        · exact List.not_mem_nil
        · exact ih later
      next other =>
        split at member
        next =>
          rw [List.mem_singleton.mp member]
          exact List.not_mem_cons_of_ne_of_not_mem (Ne.symm other) List.not_mem_nil
        next first list read =>
          rw [read] at ih
          rcases List.mem_cons.mp member with rfl | later
          · exact List.not_mem_cons_of_ne_of_not_mem (Ne.symm other) (ih List.mem_cons_self)
          · exact ih (List.mem_cons_of_mem _ later)

/-- Writing the tokens of a text gives the text, closed. -/
theorem write_tokens (delim : α) (text : List α) :
    write delim (tokens delim text) = closed delim text := by
  induction text with
  | nil => exact closed_nil.symm
  | cons ch text ih =>
      by_cases last : text = []
      · subst last
        by_cases same : ch = delim
        · simp [tokens, write, closed, same]
        · simp [tokens, write, closed, same]
      · rw [closed_cons ch last, ← ih, tokens]
        split
        next same => rw [write_cons, same, List.nil_append]
        next =>
          split
          next none_left => exact absurd (tokens_eq_nil_iff.mp none_left) last
          next token list read => rw [read, write_cons, write_cons, List.cons_append]

/-! ### Reading token by token -/

/-- The first token ends at its delimiter. -/
theorem tokens_append (plain : delim ∉ token) (rest : List α) :
    tokens delim (token ++ delim :: rest) = token :: tokens delim rest := by
  induction token with
  | nil => exact if_pos rfl
  | cons ch token ih =>
      have other := List.ne_of_not_mem_cons plain
      rw [List.cons_append, tokens, if_neg other.symm, ih (List.not_mem_of_not_mem_cons plain)]

/-- A text without the delimiter is one token. -/
theorem tokens_of_plain (nonempty : text ≠ []) (plain : delim ∉ text) :
    tokens delim text = [text] := by
  induction text with
  | nil => exact absurd rfl nonempty
  | cons ch text ih =>
      have other := List.ne_of_not_mem_cons plain
      by_cases last : text = []
      · subst last
        exact if_neg other.symm
      · rw [tokens, if_neg other.symm, ih last (List.not_mem_of_not_mem_cons plain)]

/-- Reading what was written gives the tokens back. -/
theorem tokens_write (plain : ∀ token ∈ list, delim ∉ token) :
    tokens delim (write delim list) = list := by
  induction list with
  | nil => rfl
  | cons token list ih =>
      rw [write_cons, tokens_append (plain token List.mem_cons_self),
        ih fun other member => plain other (List.mem_cons_of_mem _ member)]

/-- No other list of tokens spells the text. -/
theorem eq_tokens (plain : ∀ token ∈ list, delim ∉ token)
    (spells : write delim list = closed delim text) : list = tokens delim text := by
  rw [← tokens_write plain, spells, ← write_tokens delim text]
  exact tokens_write fun _ => notMem_of_mem_tokens

end Delimited
