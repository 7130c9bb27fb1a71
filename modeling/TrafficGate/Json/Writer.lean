import TrafficGate.Json.Value
import TrafficGate.Table

/-!
# Json — Writer

Writes JSON texts: compact ones for any value, and indented ones for tables of texts.
-/

namespace TrafficGate.Json

/-- A hexadecimal digit, small letters. -/
def hexDigit (n : Nat) : Char := if n < 10 then Char.ofNat (48 + n) else Char.ofNat (87 + n)

/-- One character of a string literal: the quote, the backslash and the control characters are
escaped, everything else stands for itself. -/
def quotedChar (c : Char) : List Char :=
  match c with
  | '"' => ['\\', '"']
  | '\\' => ['\\', '\\']
  | '\x08' => ['\\', 'b']
  | '\x0c' => ['\\', 'f']
  | '\n' => ['\\', 'n']
  | '\r' => ['\\', 'r']
  | '\t' => ['\\', 't']
  | c =>
    if c.toNat < 0x20 then ['\\', 'u', '0', '0', hexDigit (c.toNat / 16), hexDigit (c.toNat % 16)]
    else [c]

/-- A string literal. -/
def quoted (s : String) : List Char := '"' :: s.toList.flatMap quotedChar ++ ['"']

/-- The text of a literal; one that spells no text is written as a lone surrogate escape. -/
def literalChars : Literal → List Char
  | .text s => quoted s
  | .unpaired => "\"\\ud800\"".toList

mutual

/-- The compact text of a value. -/
def chars : Json → List Char
  | .null => "null".toList
  | .bool true => "true".toList
  | .bool false => "false".toList
  | .number digits => digits.toList
  | .string literal => literalChars literal
  | .array items => '[' :: itemChars items ++ [']']
  | .object members => '\x7b' :: memberChars members ++ ['\x7d']

/-- The items of an array with commas between them. -/
def itemChars : List Json → List Char
  | [] => []
  | [item] => chars item
  | item :: rest => chars item ++ ',' :: itemChars rest

/-- The members of an object with commas between them. -/
def memberChars : List (Literal × Json) → List Char
  | [] => []
  | [(key, value)] => literalChars key ++ ':' :: chars value
  | (key, value) :: rest => literalChars key ++ ':' :: chars value ++ ',' :: memberChars rest

end

/-- The compact text of a value. -/
def render (j : Json) : String := String.ofList (chars j)

/-- A text as a value. -/
def ofText (s : String) : Json := .string (.text s)

/-- An optional value: null if there is none. -/
def ofOption {α : Type} (write : α → Json) (value : Option α) : Json := value.elim .null write

/-- An object with the given fields. -/
def ofFields (fields : List (String × Json)) : Json :=
  .object (fields.map fun (field, value) => (.text field, value))

/-- One line of an indented table. -/
def tableLine (entry : String × String) : List Char :=
  ' ' :: ' ' :: quoted entry.1 ++ ':' :: ' ' :: quoted entry.2

/-- A table of texts as an object with a line for each entry. -/
def renderTable (table : Table String) : String :=
  match table.entries with
  | [] => "\x7b\x7d"
  | entries =>
    String.ofList ('\x7b' :: '\n' :: ",\n".toList.intercalate (entries.map tableLine) ++ ['\n', '\x7d'])

end TrafficGate.Json
