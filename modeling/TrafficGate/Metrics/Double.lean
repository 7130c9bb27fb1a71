/-!
# Metrics — Double

Whole numbers as gauges show them: rounded to 53 significant bits, ties to even, and written with the
fewest digits that still tell the rounded number from its neighbours, filled up with zeros.
-/

namespace TrafficGate.Metrics

/-- A number of 53 bits or fewer, shifted left. -/
structure Rounded where
  mantissa : Nat
  shift : Nat
  deriving DecidableEq, Repr, Inhabited

/-- The whole number that is meant. -/
def Rounded.value (r : Rounded) : Nat := r.mantissa * Nat.pow 2 r.shift

/-- The number rounded to 53 significant bits, ties to even. -/
def roundTo53 (n : Nat) : Rounded :=
  let shift := Nat.log2 n + 1 - 53
  if shift = 0 then ⟨n, 0⟩
  else
    let unit := Nat.pow 2 shift
    let quotient := n / unit
    let twice := 2 * (n % unit)
    let mantissa :=
      if unit < twice ∨ (twice = unit ∧ quotient % 2 = 1) then quotient + 1 else quotient
    if mantissa = Nat.pow 2 53 then ⟨Nat.pow 2 52, shift + 1⟩ else ⟨mantissa, shift⟩

/-- Numbers that round to `r` are told by four times their value: the ends of their interval count
when the mantissa is even, and the interval is narrower below a power of two. -/
def Rounded.admits (r : Rounded) (n : Nat) : Bool :=
  let unit := Nat.pow 2 r.shift
  let below := if r.mantissa = Nat.pow 2 52 then unit else 2 * unit
  let low := 4 * r.value - below
  let high := 4 * r.value + 2 * unit
  if r.mantissa % 2 = 0 then low ≤ 4 * n && 4 * n ≤ high else low < 4 * n && 4 * n < high

/-- The multiple of `grid` that stands for `r`, if one rounds to it; the nearer of two. -/
def Rounded.onGrid? (r : Rounded) (grid : Nat) : Option Nat :=
  let low := r.value / grid * grid
  let high := low + grid
  match r.admits low, r.admits high with
  | false, false => none
  | true, false => some low
  | false, true => some high
  | true, true => if r.value - low ≤ high - r.value then some low else some high

/-- The coarsest power of ten, from `10 ^ digits` down, with a multiple that rounds to `r`. -/
def Rounded.shortest (r : Rounded) : Nat → Nat
  | 0 => r.value
  | digits + 1 =>
    match r.onGrid? (Nat.pow 10 (digits + 1)) with
    | some n => n
    | none => r.shortest digits

/-- The number as gauges show it. -/
def render (n : Nat) : String :=
  let r := roundTo53 n
  if r.shift = 0 then toString n else toString (r.shortest (toString r.value).length)

end TrafficGate.Metrics
