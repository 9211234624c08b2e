import LogStyle.Text.Split

/-!
# Sets of code points

A set of code points is kept as closed ranges in increasing order, so that the tables of character
properties can be written down as they are published and classes of a pattern can be combined.

* `CodeSet.contains`, `CodeSet.mem`: membership of a number, of a character.
* `CodeSet.parse`: reads a table of ranges.
* `CodeSet.insert`, `union`, `compl`, `inter`, `diff`, `symmDiff`: the set operations.
-/

namespace LogStyle

/-- Code points, as closed ranges in increasing order that do not touch. -/
structure CodeSet where
  ranges : List (Nat × Nat)
  deriving DecidableEq, Repr

namespace CodeSet

/-- The largest code point. -/
def lastCode : Nat := 0x10FFFF

/-- Membership in increasing ranges: a range that starts later ends the search. -/
def within : List (Nat × Nat) → Nat → Bool
  | [], _ => false
  | (lo, hi) :: rest, n => if n < lo then false else if n ≤ hi then true else within rest n

def contains (s : CodeSet) (n : Nat) : Bool := within s.ranges n

def mem (s : CodeSet) (c : Char) : Bool := s.contains c.toNat

/-- A number that no range covers is not in the set, sorted or not. -/
theorem within_eq_false {n : Nat} :
    ∀ {rs : List (Nat × Nat)}, (∀ r ∈ rs, n < r.1 ∨ r.2 < n) → within rs n = false
  | [], _ => rfl
  | (lo, hi) :: rest, h => by
    have h0 := h (lo, hi) List.mem_cons_self
    have ih := @within_eq_false n rest fun r hr => h r (List.mem_cons_of_mem _ hr)
    unfold within
    split
    · rfl
    · split
      · simp at h0; omega
      · exact ih

def empty : CodeSet := ⟨[]⟩

def singleton (n : Nat) : CodeSet := ⟨[(n, n)]⟩

def range (lo hi : Nat) : CodeSet := ⟨[(lo, hi)]⟩

/-- Adds a range, joining it with the ranges that it meets or touches. -/
def insertRange (lo hi : Nat) : List (Nat × Nat) → List (Nat × Nat)
  | [] => [(lo, hi)]
  | (a, b) :: rest =>
    if hi + 1 < a then (lo, hi) :: (a, b) :: rest
    else if b + 1 < lo then (a, b) :: insertRange lo hi rest
    else insertRange (min lo a) (max hi b) rest

def insert (s : CodeSet) (lo hi : Nat) : CodeSet := ⟨insertRange lo hi s.ranges⟩

def union (s t : CodeSet) : CodeSet := t.ranges.foldl (fun u r => u.insert r.1 r.2) s

/-- The gaps between increasing ranges, from `next` on. -/
def gaps (next : Nat) : List (Nat × Nat) → List (Nat × Nat)
  | [] => if next ≤ lastCode then [(next, lastCode)] else []
  | (lo, hi) :: rest =>
    if next < lo then (next, lo - 1) :: gaps (hi + 1) rest else gaps (hi + 1) rest

def compl (s : CodeSet) : CodeSet := ⟨gaps 0 s.ranges⟩

def inter (s t : CodeSet) : CodeSet := (s.compl.union t.compl).compl

def diff (s t : CodeSet) : CodeSet := s.inter t.compl

def symmDiff (s t : CodeSet) : CodeSet := (s.union t).diff (s.inter t)

/-- The smallest set that holds every listed range, in whatever order they come. -/
def ofRanges (rs : List (Nat × Nat)) : CodeSet := rs.foldl (fun u r => u.insert r.1 r.2) empty

/-- The value of hexadecimal digits in lower case; any other character counts as zero. -/
def hexValue (digits : List Char) : Nat :=
  digits.foldl
    (fun n c => n * 16 + if c.toNat < 58 then c.toNat - 48 else c.toNat - 87)
    0

/-- Reads rows of ranges such as `30-39 5f 61-7a`, all in increasing order. -/
def parse (rows : List String) : CodeSet :=
  ⟨(rows.flatMap fun row => Text.split ' ' row.toList).filterMap fun item =>
    match (Text.split '-' item).map hexValue with
    | [n] => some (n, n)
    | [lo, hi] => some (lo, hi)
    | _ => none⟩

end CodeSet

end LogStyle
