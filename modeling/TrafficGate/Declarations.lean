import TrafficGate.Guard
import TrafficGate.Properties

/-!
# Declarations

The table of declared components and their guards, and how it is stored.

A layout says under which keys a gate stores its declarations: one key for the list of the names,
and per dimension of the guard a stem, to which a dot and a name are appended.

* `Declarations.blocked`: what is blocked when only some declared components are present.
* `Layout.encode`, `Layout.decode`: declarations as properties, and back.
* `Layout.plan`: the writes that bring stored properties in line with the declarations.
-/

namespace TrafficGate

/-- The guard of each declared component, by name. -/
abbrev Declarations (G : Type) := Table G

variable {G : Type} [Guard G]

/-- Everything guarded by a declaration whose name is not live. -/
def Declarations.blocked (declarations : Declarations G) (isLive : String → Bool) : G :=
  let absent := declarations.entries.filter fun (name, _) => !isLive name
  Guard.collapse (absent.foldl (fun pending (_, guard) => Guard.union pending guard) Guard.empty)

/-- The keys under which a gate stores its declarations. -/
structure Layout where
  /-- The key of the list of names. -/
  listKey : String
  /-- The stem of the keys of each dimension. -/
  stems : List String
  deriving DecidableEq, Repr, Inhabited

/-- The keys of the packet gate. -/
def Layout.packets : Layout where
  listKey := "interceptors.required"
  stems := ["interceptor.blocking.event", "interceptor.blocking.type"]

/-- The keys of the room gate. -/
def Layout.rooms : Layout where
  listKey := "muc.listeners.required"
  stems := ["muc.listener.blocking.event"]

namespace Layout

/-- The key of one dimension of one declaration. -/
def key (layout : Layout) (dimension : Nat) (name : String) : String :=
  layout.stems.getD dimension "" ++ "." ++ name

/-- What follows the stem is a dot and a name. -/
def isDottedName (rest : String) : Bool :=
  match rest.toList with
  | '.' :: _ :: _ => true
  | _ => false

/-- The key belongs to the layout. -/
def owns (layout : Layout) (key : String) : Bool :=
  key = layout.listKey || layout.stems.any fun stem => (Text.afterStem stem key).any isDottedName

/-! ### Declarations as properties -/

/-- The properties of one declaration: its dimensions that are not empty. -/
def guardEntries (layout : Layout) (name : String) (guard : G) : List (String × String) :=
  (List.range (Guard.dimensions G)).filterMap fun dimension =>
    let value := Guard.encode (Guard.collapse guard) dimension
    if value = "" then none else some (layout.key dimension name, value)

/-- The declarations as the properties that the layout owns. -/
def encode (layout : Layout) (declarations : Declarations G) : Properties :=
  if declarations.isEmpty then Table.empty
  else Table.ofList <|
    (layout.listKey, Text.joined "," declarations.keys) ::
      declarations.entries.flatMap fun (name, guard) => layout.guardEntries name guard

/-- The guard stored for a name: each dimension from its property, empty where there is none. -/
def decodeGuard (layout : Layout) (properties : Properties) (name : String) :
    G × List UnknownCategory :=
  let (guard, unknown) := (List.range (Guard.dimensions G)).foldl
    (fun (guard, unknown) dimension =>
      match properties.get? (layout.key dimension name) with
      | none => (guard, unknown)
      | some raw =>
        let (guard, more) := Guard.decode guard dimension raw
        (guard, unknown ++ more))
    ((Guard.empty : G), [])
  (Guard.collapse guard, unknown)

/-- The names in the stored list. -/
def storedNames (layout : Layout) (properties : Properties) : List String :=
  match properties.get? layout.listKey with
  | none => []
  | some list => Text.tokens list

/-- The declarations that are stored, and the unknown tokens met. -/
def decode (layout : Layout) (properties : Properties) : Declarations G × List UnknownCategory :=
  let read := (layout.storedNames properties).map fun name =>
    (name, layout.decodeGuard (G := G) properties name)
  (Table.ofList (read.map fun (name, guard, _) => (name, guard)),
    read.flatMap fun (_, _, unknown) => unknown)

/-- The writes that bring the stored properties in line with the declarations: first the keys of the
layout that are stored and not wanted are removed, then those with another value, or none, are set. -/
def plan (layout : Layout) (declarations : Declarations G) (stored : Properties) : List Write :=
  let wanted := layout.encode declarations
  (stored.keys.filter fun key => layout.owns key && !wanted.contains key).map Write.remove ++
    (wanted.entries.filter fun (key, value) => stored.get? key ≠ some value).map
      fun (key, value) => Write.set key value

end Layout

end TrafficGate
