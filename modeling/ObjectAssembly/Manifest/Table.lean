/-!
# Table — the tables of a manifest

A manifest is a tree of tables in the TOML format.  Tables are made by headings, by headings of
tables inside of them, by dotted keys and by braces, and how a table came to be decides what may
still be added to it: a heading opens a table once, a dotted key extends only what dotted keys made
or headings implied, and braces close a table for good.  A key is never assigned twice.
-/

namespace ObjectAssembly

/-- How a table came to be. -/
inductive TableOrigin
  | heading
  | implied
  | dotted
  | braces
  deriving DecidableEq, Repr

/-- A value in a manifest.  Numbers, dates and arrays are plain; of an array of tables the last one
is kept, which is the one that can still grow. -/
inductive ManifestValue
  | text (s : String)
  | truth (b : Bool)
  | plain
  | table (origin : TableOrigin) (entries : List (String × ManifestValue))
  | tables (last : List (String × ManifestValue))
  deriving Repr

/-- The entries of a table, in order. -/
abbrev ManifestTable := List (String × ManifestValue)

namespace ManifestValue

/-- The value, if it is a text. -/
def text? : ManifestValue → Option String
  | text s => some s
  | _ => none

/-- The value, if it is a truth value. -/
def truth? : ManifestValue → Option Bool
  | truth b => some b
  | _ => none

/-- The entries, if it is a single table. -/
def entries? : ManifestValue → Option ManifestTable
  | table _ entries => some entries
  | _ => none

/-- The value under a key, if it is a single table that has one. -/
def get? (v : ManifestValue) (key : String) : Option ManifestValue :=
  v.entries?.bind (·.lookup key)

end ManifestValue

namespace ManifestTable

/-- Puts a value under a key: where the key stands already, or else at the end. -/
def put (key : String) (v : ManifestValue) : ManifestTable → ManifestTable
  | [] => [(key, v)]
  | (k, w) :: rest => if k = key then (key, v) :: rest else (k, w) :: put key v rest

/-! ### Dotted keys -/

/-- The table that a dotted key goes on in, from what stands under its first part, and what is put
back there.  A table that was only implied counts from then on as made by dotted keys; the last
table of an array is passed through, but gets no value itself. -/
def dottedStep (last : Bool) :
    Option ManifestValue → Option (ManifestTable × (ManifestTable → ManifestValue))
  | none => some ([], .table .dotted)
  | some (.table .implied inner) | some (.table .dotted inner) => some (inner, .table .dotted)
  | some (.tables inner) => if last then none else some (inner, .tables)
  | some _ => none

/-- Assigns a value to a key, which may have further parts. -/
def assign (v : ManifestValue) : String → List String → ManifestTable → Option ManifestTable
  | key, [], t => if (t.lookup key).isSome then none else some (t ++ [(key, v)])
  | key, next :: keys, t => do
    let (inner, back) ← dottedStep keys.isEmpty (t.lookup key)
    let inner ← assign v next keys inner
    pure (put key (back inner) t)

/-! ### Headings -/

/-- The table that a heading goes on in, from what stands under one of its keys, and what is put
back there. -/
def headingStep : Option ManifestValue → Option (ManifestTable × (ManifestTable → ManifestValue))
  | none => some ([], .table .implied)
  | some (.table .braces _) => none
  | some (.table origin inner) => some (inner, .table origin)
  | some (.tables last) => some (last, .tables)
  | some _ => none

/-- Edits the table under the keys of a heading. -/
def within (edit : ManifestTable → Option ManifestTable) :
    List String → ManifestTable → Option ManifestTable
  | [], t => edit t
  | key :: keys, t => do
    let (inner, back) ← headingStep (t.lookup key)
    let inner ← within edit keys inner
    pure (put key (back inner) t)

/-- Opens a table.  One that other headings implied moves to the end. -/
def openTable (key : String) (t : ManifestTable) : Option ManifestTable :=
  match t.lookup key with
  | none => some (t ++ [(key, .table .heading [])])
  | some (.table .implied inner) =>
    some (t.filter (·.1 ≠ key) ++ [(key, .table .heading inner)])
  | some _ => none

/-- Opens a further table of an array. -/
def openElement (key : String) (t : ManifestTable) : Option ManifestTable :=
  match t.lookup key with
  | none | some (.tables _) => some (put key (.tables []) t)
  | some _ => none

end ManifestTable

end ObjectAssembly
