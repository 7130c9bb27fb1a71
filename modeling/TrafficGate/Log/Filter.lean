import TrafficGate.Log
import TrafficGate.Log.Pattern.Reader
import TrafficGate.Text.Pieces

/-!
# Log — Filter

Which entries are written down.  A filter is a list of directives with commas between them; each
allows entries up to a level, either all of them or those of the parts of the program whose target
starts with a text, and may ask for a field, also for one whose value matches a pattern.  The most
specific directive for an entry decides.

* `Filter.parse`: reads a filter.
* `Filter.admits`: an entry is written.
-/

namespace TrafficGate

namespace Log

/-- How much is written: nothing, or the entries of a level and of more severe ones. -/
abbrev Limit := Option Level

/-- The entries of the level are within the limit. -/
def Limit.admits (limit : Limit) (level : Level) : Bool :=
  limit.any fun most => level.detail ≤ most.detail

/-- The number that digits spell, with or without a plus sign. -/
def ordinal? (s : String) : Option Nat :=
  match s.toList with
  | '+' :: c :: cs => Text.number? 10 (c :: cs)
  | c :: cs => Text.number? 10 (c :: cs)
  | [] => none

/-- The limit that a word or a number from 0 to 5 stands for; no text at all stands for errors. -/
def Limit.ofText? (s : String) : Option Limit :=
  if s = "" then some (some .error)
  else match ordinal? s with
    | some n => ((none :: Level.all.map some : List Limit))[n]?
    | none =>
      if Text.sameIgnoringCase s "off" then some none
      else (Level.all.find? fun level => Text.sameIgnoringCase s level.name).map some

end Log

/-- Why a text is no filter. -/
inductive FilterError where
  | badDirective
  | badLevel
  | badField (cause : PatternError)
  deriving DecidableEq, Repr, Inhabited

/-- The wording of the error. -/
def FilterError.message : FilterError → String
  | .badDirective => "invalid filter directive"
  | .badLevel =>
    "error parsing level filter: expected one of \"off\", \"error\", \"warn\", " ++
      "\"info\", \"debug\", \"trace\", or a number 0-5"
  | .badField cause => "invalid field filter: " ++ cause.message

/-- One directive: the front of the targets, the span and the field that it asks for, and the limit.
A field may be asked for with a value. -/
structure Directive where
  target : Option String := none
  span : Option String := none
  field : Option (String × Option String) := none
  limit : Log.Limit := some .trace
  deriving DecidableEq, Repr, Inhabited

namespace Directive

/-- What is being read, with the place where it starts. -/
inductive Stage where
  | start
  | front (place : Nat)
  | span (place : Nat)
  | field (place : Nat)
  | fields
  | closed
  | limit (place : Nat)
  deriving DecidableEq, Repr, Inhabited

/-- The characters with the places of their first bytes, where the first one stands at `n`. -/
def withPlaces (n : Nat) : List Char → List (Char × Nat)
  | [] => []
  | c :: cs => (c, n) :: withPlaces (n + c.utf8Size) cs

/-- The text between two places. -/
def slice (cs : List Char) (start finish : Nat) : String :=
  String.ofList <| ((withPlaces 0 cs).filter fun (_, n) => start ≤ n && n < finish).map (·.1)

/-- The text from a place on. -/
def rest (cs : List Char) (start : Nat) : String :=
  String.ofList <| ((withPlaces 0 cs).filter fun (_, n) => start ≤ n).map (·.1)

/-- A directive may start with the character. -/
def mayStart (c : Char) : Bool := c = '-' || c = ':' || c = '_' || Text.isAlphanumeric c

/-- The characters are an exponent, or none. -/
def isExponent : List Char → Bool
  | [] => true
  | e :: rest =>
    let digits := match rest with
      | '+' :: rest | '-' :: rest => rest
      | rest => rest
    (e = 'e' || e = 'E') && !digits.isEmpty && digits.all Char.isDigit

/-- The text of a number: digits with or without a sign, decimal places and an exponent, or a word
for what no digits spell. -/
def isNumber (s : String) : Bool :=
  let unsigned := match s.toList with
    | '+' :: rest | '-' :: rest => rest
    | cs => cs
  let (whole, rest) := unsigned.span Char.isDigit
  let (places, rest) := match rest with
    | '.' :: rest => rest.span Char.isDigit
    | rest => ([], rest)
  ["inf", "infinity", "nan"].any (Text.sameIgnoringCase (String.ofList unsigned)) ||
    (!(whole ++ places).isEmpty && isExponent rest)

/-- The field that a text asks for.  A value that is no number is a pattern. -/
def fieldOf (s : String) : Except FilterError (String × Option String) :=
  match Text.pieces '=' s with
  | name :: value :: _ =>
    if isNumber value then .ok (name, some value)
    else match Pattern.parse value with
      | .ok _ => .ok (name, some value)
      | .error e => .error (.badField e)
  | _ => .ok (s, none)

/-- The directive after one more character of the text, and what is being read then. -/
def step (cs : List Char) (d : Directive) (stage : Stage) (place : Nat) (c : Char) :
    Except FilterError (Directive × Stage) :=
  match stage with
  | .start =>
    if c = '[' then .ok (d, .span (place + 1))
    else if mayStart c then .ok (d, .front place)
    else .error .badDirective
  | .front start =>
    if c = '=' then .ok ({ d with target := some (slice cs start place) }, .limit (place + 1))
    else if c = '[' then .ok ({ d with target := some (slice cs start place) }, .span (place + 1))
    else .ok (d, .front start)
  | .span start =>
    if c = ']' then .ok ({ d with span := some (slice cs start place) }, .closed)
    else if c = '\x7b' then
      let name := slice cs start place
      .ok ({ d with span := if name = "" then none else some name }, .field (place + 1))
    else .ok (d, .span start)
  | .field start =>
    if c = '\x7d' then
      let field := slice cs start place
      if field = "" then .error .badDirective
      else (fieldOf field).map fun field => ({ d with field := some field }, .fields)
    else .ok (d, .field start)
  | .fields => if c = ']' then .ok (d, .closed) else .error .badDirective
  | .closed => if c = '=' then .ok (d, .limit (place + 1)) else .error .badDirective
  | .limit start => .ok (d, .limit start)

/-- The directive when the text ends. -/
def finish (cs : List Char) (d : Directive) : Stage → Except FilterError Directive
  | .front start =>
    let word := rest cs start
    match Log.Limit.ofText? word with
    | some limit => .ok { d with target := none, limit }
    | none => .ok { d with target := some word, limit := some .trace }
  | .limit start =>
    let word := rest cs start
    if word = "" then .ok { d with limit := some .trace }
    else match Log.Limit.ofText? word with
      | some limit => .ok { d with limit }
      | none => .error .badLevel
  | .closed => .ok d
  | _ => .error .badDirective

/-- Reads a directive.  The characters and the places of their bytes are those of the text without
blanks around it, while the parts are cut from the text as it stands. -/
def parse (s : String) : Except FilterError Directive := do
  let cs := s.toList
  let (d, stage) ← (withPlaces 0 (Text.trimChars cs)).foldlM
    (fun (d, stage) (c, place) => step cs d stage place c) (({} : Directive), Stage.start)
  finish cs d stage

/-- The directive asks for nothing but a target and the presence of a field. -/
def isStatic (d : Directive) : Bool := d.span.isNone && d.field.all (·.2.isNone)

/-- The directive is about the entry. -/
def covers (d : Directive) (entry : Log.Entry) : Bool :=
  d.target.all (fun front => (Text.afterStem front entry.source.target).isSome) &&
    d.field.all fun (name, _) => name = "message" || entry.fields.any (·.1 = name)

/-- The first directive is at least as specific as the second: it has a longer target, or else asks
for a field. -/
def outranks (d e : Directive) : Bool :=
  let length (d : Directive) : Nat := d.target.elim 0 (·.length + 1)
  let field (d : Directive) : String := d.field.elim "" (·.1)
  if length d = length e then field e ≤ field d else length e < length d

end Directive

/-- A filter: its directives, in their order. -/
structure Filter where
  directives : List Directive
  deriving DecidableEq, Repr, Inhabited

namespace Filter

/-- Reads a filter.  One without directives lets errors through. -/
def parse (s : String) : Except FilterError Filter := do
  let directives ← ((Text.pieces ',' s).filter (· ≠ "")).mapM Directive.parse
  return ⟨if directives.isEmpty then [{ limit := some .error }] else directives⟩

/-- The filter of the first text if it is there and can be read, else that of the second one. -/
def choose (preferred : Option String) (otherwise : String) : Except FilterError Filter :=
  match preferred.map parse with
  | some (.ok filter) => .ok filter
  | _ => parse otherwise

/-- The most specific directive for an entry, and of several the last one. -/
def deciding (filter : Filter) (entry : Log.Entry) : Option Directive :=
  (filter.directives.filter fun d => d.isStatic && d.covers entry).foldl
    (fun best d => if best.all d.outranks then some d else best) none

/-- The entry is written. -/
def admits (filter : Filter) (entry : Log.Entry) : Bool :=
  (filter.deciding entry).any (·.limit.admits entry.level)

end Filter

end TrafficGate
