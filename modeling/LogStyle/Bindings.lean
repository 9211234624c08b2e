/-!
# Bindings

A finite map as the list of what was bound, the newest binding first. A key that is bound again is
hidden by its newer binding.

* `Bindings.insert`, `Bindings.get?`: bind a key, look a key up.
* `Bindings.keys`, `Bindings.size`: the bound keys, each once, and their number.
-/

namespace LogStyle

/-- Keys bound to values, the newest binding first. -/
structure Bindings (κ : Type u) (α : Type v) where
  entries : List (κ × α)
  deriving Repr

namespace Bindings

variable {κ : Type u} {α : Type v} [DecidableEq κ]

def empty : Bindings κ α := ⟨[]⟩

def insert (b : Bindings κ α) (k : κ) (a : α) : Bindings κ α := ⟨(k, a) :: b.entries⟩

/-- The newest value of a key in a list of bindings. -/
def find? (k : κ) : List (κ × α) → Option α
  | [] => none
  | (k', a) :: rest => if k = k' then some a else find? k rest

def get? (b : Bindings κ α) (k : κ) : Option α := find? k b.entries

def contains (b : Bindings κ α) (k : κ) : Bool := (b.get? k).isSome

/-- The bound keys, each once, the one that was bound last first. -/
def keys (b : Bindings κ α) : List κ := (b.entries.map (·.1)).eraseDups

def size (b : Bindings κ α) : Nat := b.keys.length

/-- Forgets every binding of a key. -/
def erase (b : Bindings κ α) (k : κ) : Bindings κ α := ⟨b.entries.filter (·.1 ≠ k)⟩

/-- Binds the keys of a list from left to right. -/
def ofList (entries : List (κ × α)) : Bindings κ α := ⟨entries.reverse⟩

@[simp] theorem get?_empty (k : κ) : (empty : Bindings κ α).get? k = none := rfl

@[simp] theorem get?_insert (b : Bindings κ α) (k k' : κ) (a : α) :
    (b.insert k a).get? k' = if k' = k then some a else b.get? k' := rfl

end Bindings

end LogStyle
