/-!
# Toml — Value

TOML values, and tables as they grow while a document is read.  A table remembers how it came about,
because that decides whether later lines may still add to it.

* `Toml.insert`: a value under a dotted key, as one line of a table gives it.
* `Toml.within`: a change to the table that a row of names leads to.
* `Toml.openTable`, `Toml.openAnother`: what headers do.
-/

namespace TrafficGate

/-- How a table came about: in braces, under a header of its own, on the way to another header, or on
the way to the last part of a dotted key. -/
inductive Toml.Origin where
  | braces | header | onWay | dotted
  deriving DecidableEq, Repr, Inhabited

/-- A TOML value.  Floats and moments keep their spelling; `repeated` are the tables under one
repeated header. -/
inductive Toml where
  | text (s : String)
  | integer (n : Int)
  | float (spelling : String)
  | flag (b : Bool)
  | moment (spelling : String)
  | array (items : List Toml)
  | table (origin : Toml.Origin) (entries : List (String × Toml))
  | repeated (tables : List (List (String × Toml)))
  deriving Repr, Inhabited

namespace Toml

/-- The entries of a table. -/
abbrev Entries := List (String × Toml)

/-- The entries with another value under a key. -/
def put (entries : Entries) (key : String) (value : Toml) : Entries :=
  if entries.any (·.1 = key) then entries.map fun e => if e.1 = key then (key, value) else e
  else entries ++ [(key, value)]

/-- The entries with a value under a dotted key.  Nothing may stand there yet.  On the way only tables
that no header and no braces closed may be entered, and the value itself goes into a table that a
dotted key made, or into the one that the line stands in. -/
def insert : List String → Toml → Entries → Option Entries
  | [], _, _ => none
  | [key], value, entries =>
    if (entries.lookup key).isSome then none else some (put entries key value)
  | key :: next :: rest, value, entries =>
    match entries.lookup key with
    | none => (insert (next :: rest) value []).map fun sub => put entries key (.table .dotted sub)
    | some (.table .dotted sub) =>
      (insert (next :: rest) value sub).map fun sub => put entries key (.table .dotted sub)
    | some (.table .onWay sub) =>
      if rest = [] then none
      else (insert (next :: rest) value sub).map fun sub => put entries key (.table .onWay sub)
    | some (.repeated tables) =>
      if rest = [] then none
      else tables.getLast?.bind fun sub =>
        (insert (next :: rest) value sub).map fun sub =>
          put entries key (.repeated (tables.dropLast ++ [sub]))
    | some _ => none

/-- The entries with a change made to the table that the names lead to.  Missing tables are made on
the way, and of repeated tables the last one is entered. -/
def within : List String → (Entries → Option Entries) → Entries → Option Entries
  | [], change, entries => change entries
  | key :: path, change, entries =>
    match entries.lookup key with
    | none => (within path change []).map fun sub => put entries key (.table .onWay sub)
    | some (.table .braces _) => none
    | some (.table origin sub) =>
      (within path change sub).map fun sub => put entries key (.table origin sub)
    | some (.repeated tables) =>
      tables.getLast?.bind fun sub =>
        (within path change sub).map fun sub =>
          put entries key (.repeated (tables.dropLast ++ [sub]))
    | some _ => none

/-- A header opens a table that is not there yet, or that was only on the way so far. -/
def openTable (key : String) (entries : Entries) : Option Entries :=
  match entries.lookup key with
  | none => some (put entries key (.table .header []))
  | some (.table .onWay sub) => some (put entries key (.table .header sub))
  | some _ => none

/-- A repeated header opens one more table. -/
def openAnother (key : String) (entries : Entries) : Option Entries :=
  match entries.lookup key with
  | none => some (put entries key (.repeated [[]]))
  | some (.repeated tables) => some (put entries key (.repeated (tables ++ [[]])))
  | some _ => none

end Toml

end TrafficGate
