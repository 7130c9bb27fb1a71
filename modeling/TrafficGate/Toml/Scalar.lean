import TrafficGate.Text.Digits
import TrafficGate.Toml.Value

/-!
# Toml — Scalar

Reads the values of a TOML document that hold no others: texts in their four spellings, numbers, flags
and moments.  Line ends are single line feeds here.
-/

namespace TrafficGate.Toml

/-- Reads something at the front of a text, and says what is left. -/
abbrev Reader (α : Type) := List Char → Option (α × List Char)

/-- Space or tab. -/
def isGap (c : Char) : Bool := c = ' ' || c = '\t'

/-- The rest after spaces and tabs. -/
def skipGap (cs : List Char) : List Char := cs.dropWhile isGap

/-- The character may stand in texts and comments: a tab, or no control character of ASCII. -/
def isPlain (c : Char) : Bool := c = '\t' || (0x20 ≤ c.toNat && c.toNat ≠ 0x7F)

/-! ### Texts -/

/-- The character of a two-character escape. -/
def escape? : Char → Option Char
  | 'b' => some '\x08'
  | 'f' => some '\x0c'
  | 'n' => some '\n'
  | 'r' => some '\r'
  | 't' => some '\t'
  | '"' => some '"'
  | '\\' => some '\\'
  | _ => none

/-- A text with escapes, from behind its opening quote. -/
def readText : Reader (List Char)
  | '"' :: rest => some ([], rest)
  | '\\' :: 'u' :: a :: b :: c :: d :: rest => do
    let x ← Text.codePoint? [a, b, c, d]
    let (cs, rest) ← readText rest
    return (x :: cs, rest)
  | '\\' :: 'U' :: a :: b :: c :: d :: e :: f :: g :: h :: rest => do
    let x ← Text.codePoint? [a, b, c, d, e, f, g, h]
    let (cs, rest) ← readText rest
    return (x :: cs, rest)
  | '\\' :: e :: rest => do
    let x ← escape? e
    let (cs, rest) ← readText rest
    return (x :: cs, rest)
  | c :: rest =>
    if isPlain c then (readText rest).map fun (cs, rest) => (c :: cs, rest) else none
  | [] => none

/-- Nothing but spaces and tabs is left in the line. -/
def endsLine (cs : List Char) : Bool := (skipGap cs).head? = some '\n'

/-- A text of several lines with escapes, from behind its opening quotes and the line feed that may
follow them.  A backslash at the end of a line takes the blanks and line feeds behind it away; these
are being passed over while `joining`.  Up to two quotes may stand before the closing ones. -/
def readLongText (joining : Bool) : Reader (List Char)
  | '"' :: '"' :: '"' :: '"' :: '"' :: rest => some (['"', '"'], rest)
  | '"' :: '"' :: '"' :: '"' :: rest => some (['"'], rest)
  | '"' :: '"' :: '"' :: rest => some ([], rest)
  | '\\' :: 'u' :: a :: b :: c :: d :: rest => do
    let x ← Text.codePoint? [a, b, c, d]
    let (cs, rest) ← readLongText false rest
    return (x :: cs, rest)
  | '\\' :: 'U' :: a :: b :: c :: d :: e :: f :: g :: h :: rest => do
    let x ← Text.codePoint? [a, b, c, d, e, f, g, h]
    let (cs, rest) ← readLongText false rest
    return (x :: cs, rest)
  | '\\' :: e :: rest =>
    if e = '\n' ∨ isGap e ∧ endsLine rest then readLongText true rest
    else do
      let x ← escape? e
      let (cs, rest) ← readLongText false rest
      return (x :: cs, rest)
  | c :: rest =>
    if joining ∧ (isGap c ∨ c = '\n') then readLongText true rest
    else if isPlain c ∨ c = '\n' then
      (readLongText false rest).map fun (cs, rest) => (c :: cs, rest)
    else none
  | [] => none

/-- A text without escapes, from behind its opening quote. -/
def readLiteral : Reader (List Char)
  | '\'' :: rest => some ([], rest)
  | c :: rest =>
    if isPlain c then (readLiteral rest).map fun (cs, rest) => (c :: cs, rest) else none
  | [] => none

/-- A text of several lines without escapes, like `readLongText`. -/
def readLongLiteral : Reader (List Char)
  | '\'' :: '\'' :: '\'' :: '\'' :: '\'' :: rest => some (['\'', '\''], rest)
  | '\'' :: '\'' :: '\'' :: '\'' :: rest => some (['\''], rest)
  | '\'' :: '\'' :: '\'' :: rest => some ([], rest)
  | c :: rest =>
    if isPlain c ∨ c = '\n' then
      (readLongLiteral rest).map fun (cs, rest) => (c :: cs, rest)
    else none
  | [] => none

/-- The rest after a line feed, if one stands in front. -/
def skipLineFeed : List Char → List Char
  | '\n' :: rest => rest
  | cs => cs

/-- A text in one of its four spellings. -/
def readString : Reader String
  | '"' :: '"' :: '"' :: rest => ofChars (readLongText false (skipLineFeed rest))
  | '"' :: rest => ofChars (readText rest)
  | '\'' :: '\'' :: '\'' :: rest => ofChars (readLongLiteral (skipLineFeed rest))
  | '\'' :: rest => ofChars (readLiteral rest)
  | _ => none
where
  /-- The characters as a text. -/
  ofChars : Option (List Char × List Char) → Option (String × List Char) :=
    Option.map fun (cs, rest) => (String.ofList cs, rest)

/-! ### Numbers -/

/-- Further digits; an underscore may stand in front of each. -/
def moreDigits (base : Nat) : List Char → List Char × List Char
  | '_' :: c :: rest =>
    if Text.isDigitOf base c then
      let (digits, rest) := moreDigits base rest
      (c :: digits, rest)
    else ([], '_' :: c :: rest)
  | c :: rest =>
    if Text.isDigitOf base c then
      let (digits, rest) := moreDigits base rest
      (c :: digits, rest)
    else ([], c :: rest)
  | [] => ([], [])

/-- At least one digit. -/
def readDigits (base : Nat) : Reader (List Char)
  | c :: rest =>
    if Text.isDigitOf base c then
      let (digits, rest) := moreDigits base rest
      some (c :: digits, rest)
    else none
  | [] => none

/-- A sign, if there is one. -/
def readSign : List Char → List Char × List Char
  | '+' :: rest => (['+'], rest)
  | '-' :: rest => (['-'], rest)
  | cs => ([], cs)

/-- The sign and the digits of a whole number; no zero in front of another digit. -/
def readWhole (cs : List Char) : Option (List Char × List Char × List Char) :=
  match readSign cs with
  | (sign, '0' :: rest) => some (sign, ['0'], rest)
  | (sign, rest) => (readDigits 10 rest).map fun (digits, rest) => (sign, digits, rest)

/-- A whole number in another base than ten; it has no sign. -/
def readBased (base : Nat) (cs : List Char) : Option (Toml × List Char) := do
  let (digits, rest) ← readDigits base cs
  let n ← Text.number? base digits
  if n < Nat.pow 2 63 then some (.integer n, rest) else none

/-- A whole number from `-2 ^ 63` to `2 ^ 63 - 1`. -/
def readInteger : Reader Toml
  | '0' :: 'x' :: rest => readBased 16 rest
  | '0' :: 'o' :: rest => readBased 8 rest
  | '0' :: 'b' :: rest => readBased 2 rest
  | cs => do
    let (sign, digits, rest) ← readWhole cs
    let n ← Text.number? 10 digits
    if sign = ['-'] then if n ≤ Nat.pow 2 63 then some (.integer (-n), rest) else none
    else if n < Nat.pow 2 63 then some (.integer n, rest)
    else none

/-- The decimal places of a float. -/
def readPlaces : Reader (List Char)
  | '.' :: rest => readDigits 10 rest
  | _ => none

/-- The sign and the digits of the exponent of a float. -/
def readExponent : Reader (List Char × List Char)
  | c :: rest =>
    if c = 'e' ∨ c = 'E' then
      let (sign, rest) := readSign rest
      (readDigits 10 rest).map fun (digits, rest) => ((sign, digits), rest)
    else none
  | [] => none

/-- The number that the digits spell, times a power of ten, is so large that it is infinite as a double
of 64 bits: at least half a unit of the last place above the largest finite one. -/
def overflows (digits : List Char) (exponent : Int) : Bool :=
  let limit := Nat.pow 2 1024 - Nat.pow 2 970
  let n := (Text.number? 10 digits).getD 0
  if n = 0 then false
  else
    let size := (toString n).length + exponent
    if size ≤ 308 then false
    else if 310 ≤ size then true
    else if 0 ≤ exponent then limit ≤ n * Nat.pow 10 exponent.toNat
    else limit * Nat.pow 10 (-exponent).toNat ≤ n

/-- A float: a whole number with decimal places, an exponent, or both.  One that is too large must have
a minus. -/
def readFloat (cs : List Char) : Option (Toml × List Char) := do
  let (sign, whole, rest) ← readWhole cs
  let places := readPlaces rest
  let (places, rest) := places.getD ([], rest)
  let exponent := readExponent rest
  if places = [] ∧ exponent.isNone then none
  else
    let ((down, power), rest) := exponent.getD (([], []), rest)
    let n : Int := (Text.number? 10 power).getD 0
    let scale := (if down = ['-'] then -n else n) - places.length
    if sign ≠ ['-'] ∧ overflows (whole ++ places) scale then none
    else some (.float (String.ofList (cs.take (cs.length - rest.length))), rest)

/-- An infinite float, or one that is not a number. -/
def readSpecial (cs : List Char) : Option (Toml × List Char) :=
  match readSign cs with
  | (sign, 'i' :: 'n' :: 'f' :: rest) => some (.float (String.ofList (sign ++ "inf".toList)), rest)
  | (sign, 'n' :: 'a' :: 'n' :: rest) => some (.float (String.ofList (sign ++ "nan".toList)), rest)
  | _ => none

/-! ### Moments -/

/-- A number of two digits within bounds. -/
def readTwo (least most : Nat) : Reader Nat
  | a :: b :: rest => do
    let n ← Text.number? 10 [a, b]
    if least ≤ n ∧ n ≤ most then some (n, rest) else none
  | _ => none

/-- The rest after a character that has to stand in front. -/
def after (c : Char) : List Char → Option (List Char)
  | d :: rest => if c = d then some rest else none
  | [] => none

/-- The number of days in a month. -/
def monthLength (year month : Nat) : Nat :=
  if month = 2 then
    if year % 4 = 0 ∧ (year % 100 ≠ 0 ∨ year % 400 = 0) then 29 else 28
  else if month ∈ [4, 6, 9, 11] then 30
  else 31

/-- The rest after a date. -/
def skipDate : List Char → Option (List Char)
  | a :: b :: c :: d :: rest => do
    let year ← Text.number? 10 [a, b, c, d]
    let (month, rest) ← readTwo 1 12 (← after '-' rest)
    let (_, rest) ← readTwo 1 (monthLength year month) (← after '-' rest)
    return rest
  | _ => none

/-- The rest after a time of the day, which may be a leap second and have decimal places. -/
def skipTime (cs : List Char) : Option (List Char) := do
  let (_, rest) ← readTwo 0 23 cs
  let (_, rest) ← readTwo 0 59 (← after ':' rest)
  let (_, rest) ← readTwo 0 60 (← after ':' rest)
  match after '.' rest with
  | none => return rest
  | some places =>
    match places.dropWhile Char.isDigit with
    | rest' => return if rest'.length < places.length then rest' else rest

/-- The rest after the distance from universal time. -/
def skipOffset : List Char → Option (List Char)
  | c :: rest =>
    if c = 'Z' ∨ c = 'z' then some rest
    else if c = '+' ∨ c = '-' then do
      let (_, rest) ← readTwo 0 23 rest
      let (_, rest) ← readTwo 0 59 (← after ':' rest)
      return rest
    else none
  | [] => none

/-- The rest after a time behind a date. -/
def skipDayTime : List Char → Option (List Char)
  | c :: rest =>
    if c ∈ ['T', 't', ' '] then (skipTime rest).map fun rest => (skipOffset rest).getD rest else none
  | [] => none

/-- A date, a time of the day, or both, and then with or without a distance from universal time. -/
def readMoment (cs : List Char) : Option (Toml × List Char) := do
  let rest ← match skipDate cs with
    | some rest => some ((skipDayTime rest).getD rest)
    | none => skipTime cs
  return (.moment (String.ofList (cs.take (cs.length - rest.length))), rest)

/-! ### All of them -/

/-- A value that holds no others. -/
def readScalar : Reader Toml
  | 't' :: 'r' :: 'u' :: 'e' :: rest => some (.flag true, rest)
  | 'f' :: 'a' :: 'l' :: 's' :: 'e' :: rest => some (.flag false, rest)
  | cs =>
    ((readString cs).map fun (s, rest) => (.text s, rest)).or <|
      (readMoment cs).or <| (readFloat cs).or <| (readSpecial cs).or (readInteger cs)

end TrafficGate.Toml
