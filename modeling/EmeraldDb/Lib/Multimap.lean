/-
Module: EmeraldDb.Lib.Multimap
Purpose: Ordered multimaps in the manner of std::multimap.  Entries stay in key
  order, equal keys keep their insertion order, and the multiset of entries is
  what each operation is specified by.
Trusted boundary: none
Main exports: Multimap, Multimap.insert, Multimap.eraseOne, Multimap.upperBound
-/
import Mathlib.Order.Lattice
import Mathlib.Data.List.Basic

variable {K V : Type} [LinearOrder K]

/-- A list of entries in key order.  The order is carried as a field, so every
value of the type can be searched from the left. -/
structure Multimap (K V : Type) [LinearOrder K] where
  entries : List (K × V)
  ordered : entries.Pairwise fun first second => first.1 ≤ second.1

namespace Multimap

/-- The map with no entry. -/
def empty : Multimap K V where
  entries := []
  ordered := .nil

/-- Place an entry behind every entry whose key is not larger, as
`std::multimap::insert` does. -/
def insertEntry (entry : K × V) : List (K × V) → List (K × V)
  | [] => [entry]
  | head :: rest =>
      if entry.1 < head.1 then entry :: head :: rest
      else head :: insertEntry entry rest

theorem insertEntry_perm (entry : K × V) (entries : List (K × V)) :
    (insertEntry entry entries).Perm (entry :: entries) := by
  induction entries with
  | nil => exact .refl _
  | cons head rest ih =>
      unfold insertEntry
      split
      · exact .refl _
      · exact (ih.cons head).trans (.swap entry head rest)

theorem insertEntry_ordered {entry : K × V} {entries : List (K × V)}
    (ordered : entries.Pairwise fun first second => first.1 ≤ second.1) :
    (insertEntry entry entries).Pairwise
      fun first second => first.1 ≤ second.1 := by
  induction entries with
  | nil => simp [insertEntry]
  | cons head rest ih =>
      obtain ⟨below, tail⟩ := List.pairwise_cons.mp ordered
      unfold insertEntry
      split
      next before =>
        refine List.pairwise_cons.mpr ⟨?_, ordered⟩
        intro other member
        rcases List.mem_cons.mp member with rfl | inRest
        · exact le_of_lt before
        · exact le_trans (le_of_lt before) (below other inRest)
      next behind =>
        refine List.pairwise_cons.mpr ⟨?_, ih tail⟩
        intro other member
        rcases List.mem_cons.mp ((insertEntry_perm entry rest).mem_iff.mp member)
          with rfl | inRest
        · exact le_of_not_gt behind
        · exact below other inRest

/-- Add one entry; entries with an equal key stay in front of it. -/
def insert (m : Multimap K V) (key : K) (value : V) : Multimap K V where
  entries := insertEntry (key, value) m.entries
  ordered := insertEntry_ordered m.ordered

/-- Erase the first entry of `equal_range(key)` that holds `value`, if any. -/
def eraseOne [DecidableEq V] (m : Multimap K V) (key : K) (value : V) :
    Multimap K V where
  entries := m.entries.erase (key, value)
  ordered := m.ordered.sublist List.erase_sublist

/-- The first entry whose key is larger than `key`; `none` is `end()`. -/
def upperBound (m : Multimap K V) (key : K) : Option (K × V) :=
  m.entries.find? fun entry => decide (key < entry.1)

/-- The number of entries. -/
def size (m : Multimap K V) : Nat := m.entries.length

theorem insert_perm (m : Multimap K V) (key : K) (value : V) :
    (m.insert key value).entries.Perm ((key, value) :: m.entries) :=
  insertEntry_perm (key, value) m.entries

/-- Every list of entries is that of a map. -/
theorem exists_perm (entries : List (K × V)) : ∃ m : Multimap K V, m.entries.Perm entries := by
  induction entries with
  | nil => exact ⟨empty, .refl _⟩
  | cons entry entries ih =>
      obtain ⟨m, listed⟩ := ih
      exact ⟨m.insert entry.1 entry.2, (m.insert_perm entry.1 entry.2).trans (listed.cons entry)⟩

/-- Replacing a present entry by another one is a cons over the rest. -/
theorem eraseOne_insert_perm [DecidableEq V] {m : Multimap K V} {key key' : K}
    {value value' : V} {rest : List (K × V)}
    (split : m.entries.Perm ((key, value) :: rest)) :
    ((m.eraseOne key value).insert key' value').entries.Perm
      ((key', value') :: rest) := by
  have erased : (m.entries.erase (key, value)).Perm rest := by
    simpa using split.erase (key, value)
  exact (insert_perm _ key' value').trans (erased.cons (key', value'))

/-- A found entry is in the map and its key is the least one above the bound. -/
theorem upperBound_some {m : Multimap K V} {key : K} {entry : K × V}
    (found : m.upperBound key = some entry) :
    entry ∈ m.entries ∧ key < entry.1 ∧
      ∀ other ∈ m.entries, key < other.1 → entry.1 ≤ other.1 := by
  obtain ⟨holds, before, after, split, skipped⟩ :=
    List.find?_eq_some_iff_append.mp found
  refine ⟨List.mem_of_find?_eq_some found, by simpa using holds, ?_⟩
  intro other member above
  have ordered := m.ordered
  rw [split] at member ordered
  rcases List.mem_append.mp member with early | late
  · have := skipped other early
    simp [above] at this
  · rcases List.mem_cons.mp late with rfl | inAfter
    · exact le_refl _
    · have tail := (List.pairwise_append.mp ordered).2.1
      exact (List.pairwise_cons.mp tail).1 other inAfter

/-- The search fails exactly when no key is larger than the bound. -/
theorem upperBound_eq_none {m : Multimap K V} {key : K} :
    m.upperBound key = none ↔ ∀ entry ∈ m.entries, entry.1 ≤ key := by
  simp [upperBound]

end Multimap
