import TrafficGate.Text.Printable

/-!
# Text — Inspect

The inspection form of values, as log lines show them: records as `Name { field: value }`, lists in
square brackets, sets in braces, texts in quotes, an optional value as `Some(value)` or `None`.
-/

namespace TrafficGate.Text.Inspect

/-- The digits of a number in base sixteen, small letters. -/
def hexDigits (n : Nat) : String := String.ofList (Nat.toDigits 16 n)

/-- One character inside quotes: the quote, the backslash, tab, line feed, carriage return and NUL
have two-character escapes, other characters without a printed form show their code point. -/
def quotedChar (c : Char) : String :=
  match c with
  | '"' => "\\\""
  | '\\' => "\\\\"
  | '\n' => "\\n"
  | '\r' => "\\r"
  | '\t' => "\\t"
  | _ =>
    if c.toNat = 0 then "\\0"
    else if isPrintable c then String.singleton c
    else "\\u\x7b" ++ hexDigits c.toNat ++ "\x7d"

/-- A text in quotes. -/
def text (s : String) : String :=
  "\"" ++ String.join (s.toList.map quotedChar) ++ "\""

/-- An optional value, given its inspection form. -/
def option : Option String → String
  | none => "None"
  | some shown => "Some(" ++ shown ++ ")"

/-- A list, given the inspection forms of its members. -/
def list (members : List String) : String := "[" ++ ", ".intercalate members ++ "]"

/-- A set, given the inspection forms of its members. -/
def set (members : List String) : String := "\x7b" ++ ", ".intercalate members ++ "\x7d"

/-- A record, given its name and the inspection forms of its fields. -/
def record (name : String) (fields : List (String × String)) : String :=
  name ++ " \x7b " ++ ", ".intercalate (fields.map fun (field, shown) => field ++ ": " ++ shown)
    ++ " \x7d"

end TrafficGate.Text.Inspect
