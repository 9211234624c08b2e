import LogStyle.Toml.Value

/-!
# Tables under construction

A document defines its tables piece by piece. How a table came to be decides what may still be
added to it: a table is opened by a header at most once, dotted keys extend only what dotted keys
made, and a value that is a table is closed.

* `Item.open?`, `Item.openElement?`: a header of a table, of an element of an array of tables.
* `Item.assign?`: a key and its value.
* `Item.value`: the finished value.
-/

namespace LogStyle.Toml

/-- How a table came to be. -/
inductive Origin where
  /-- It is the document or has a header. -/
  | header
  /-- It is on the way to a table with a header. -/
  | implicit
  /-- Dotted keys mention it. -/
  | dotted
  deriving DecidableEq, Repr

/-- A part of a document under construction. -/
inductive Item where
  | value (v : Value)
  | table (origin : Origin) (entries : List (String × Item))
  | tables (elements : List Item)
  deriving Repr, Inhabited

abbrev Entries := List (String × Item)

/-- Sets the item of a key; a new key goes to the end. -/
def Entries.set (key : String) (item : Item) : Entries → Entries
  | [] => [(key, item)]
  | (k, i) :: rest => if k = key then (k, item) :: rest else (k, i) :: set key item rest

namespace Item

/-- The empty document. -/
def root : Item := table .header []

/-- Changes the table at the end of a path. Tables on the way are made as needed, and of an array
of tables the last element is meant. Dotted keys may not pass through a table with a header. -/
def update? (dotted : Bool) (change : Origin → Entries → Option Item) :
    (path : List String) → Item → Option Item
  | [], table origin entries => change origin entries
  | key :: path, table origin entries =>
    let put := fun item => table origin (Entries.set key item entries)
    match entries.lookup key with
    | none =>
      (update? dotted change path (table (if dotted then .dotted else .implicit) [])).map put
    | some (value _) => none
    | some (tables elements) =>
      match elements.reverse with
      | [] => none
      | last :: before =>
        (update? dotted change path last).map fun last => put (tables (last :: before).reverse)
    | some (table o inner) =>
      if dotted && o = .header then none
      else (update? dotted change path (table o inner)).map put
  | _, _ => none

/-- Adds an entry to the table at the end of a dotted path. A table that dotted keys lead to holds
only what dotted keys add. -/
def assign? (path : List String) (key : String) (v : Value) : Item → Option Item :=
  update? true
    (fun origin entries =>
      if decide (origin = .dotted) == path.isEmpty || (entries.lookup key).isSome then none
      else some (table origin (Entries.set key (value v) entries)))
    path

/-- Opens the table of a header: a new one, or one that only led to other tables. -/
def open? (path : List String) (key : String) : Item → Option Item :=
  update? false
    (fun origin entries =>
      match entries.lookup key with
      | none => some (table origin (Entries.set key (table .header []) entries))
      | some (table .implicit inner) =>
        some (table origin (Entries.set key (table .header inner) entries))
      | some _ => none)
    path

/-- Opens a new element of an array of tables. -/
def openElement? (path : List String) (key : String) : Item → Option Item :=
  update? false
    (fun origin entries =>
      let put := fun elements => table origin (Entries.set key (tables elements) entries)
      match entries.lookup key with
      | none => some (put [root])
      | some (tables elements) => some (put (elements ++ [root]))
      | some _ => none)
    path

mutual

/-- The finished value. -/
def toValue : Item → Value
  | value v => v
  | table _ entries => .table (entryValues entries)
  | tables elements => .array (values elements)

def values : List Item → List Value
  | [] => []
  | item :: rest => item.toValue :: values rest

def entryValues : List (String × Item) → List (String × Value)
  | [] => []
  | (key, item) :: rest => (key, item.toValue) :: entryValues rest

end

end Item

end LogStyle.Toml
