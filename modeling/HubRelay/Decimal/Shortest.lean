/-!
# The shortest decimal of a binary fraction

A positive double is `m · 2 ^ e`. The reals that round to it form an interval around it, closed
when `m` is even. Among the decimals of one digit, then of two, and so on up to seventeen, the
first grid with a point in the interval gives the shortest decimal that reads back; of two points
the nearer one is taken. On each grid only the two neighbours of the value need to be tried, since
an interval around the value that holds any point of the grid holds one of them.

All of this is exact arithmetic on natural numbers. The values compared are brought to one
denominator.
-/

set_option autoImplicit false

namespace HubRelay.Decimal

/-- The decimal `digits · 10 ^ exponent`. -/
structure Scaled where
  digits : Nat
  exponent : Int
deriving DecidableEq, Repr

/-- A double as the interval of the reals that round to it. The bounds and the value have the
denominator `denominator`. -/
structure Interval where
  low : Nat
  value : Nat
  high : Nat
  denominator : Nat
  /-- Whether the bounds belong to the interval. -/
  closed : Bool
deriving Repr

/-- The interval of `mantissa · 2 ^ exponent`. Below a power of two the doubles are twice as dense,
unless they have reached the least exponent. -/
def Interval.ofBinary (mantissa : Nat) (exponent : Int) : Interval :=
  let unit := 1 <<< exponent.toNat
  let value := 4 * mantissa * unit
  let dense := mantissa == 0x10000000000000 && exponent != -1074
  { low := value - (if dense then unit else 2 * unit)
    value := value
    high := value + 2 * unit
    denominator := 4 <<< (-exponent).toNat
    closed := mantissa % 2 == 0 }

/-- Whether the decimal lies in the interval. -/
def Interval.holds (i : Interval) (d : Scaled) : Bool :=
  let point := d.digits * Nat.pow 10 d.exponent.toNat * i.denominator
  let scale := Nat.pow 10 (-d.exponent).toNat
  if i.closed then i.low * scale ≤ point && point ≤ i.high * scale
  else i.low * scale < point && point < i.high * scale

/-- The least `p` with the value below `10 ^ p`. -/
def Interval.magnitude (i : Interval) : Int :=
  if i.denominator ≤ i.value then (Nat.toDigits 10 (i.value / i.denominator)).length
  else 1 - ((Nat.toDigits 10 (i.denominator / i.value)).length : Int)

/-- The nearest point in the interval on the grid of the multiples of `10 ^ exponent`, if there is
one. Of two points at the same distance the even one is taken. -/
def Interval.nearest? (i : Interval) (exponent : Int) : Option Scaled :=
  let numerator := i.value * Nat.pow 10 (-exponent).toNat
  let denominator := i.denominator * Nat.pow 10 exponent.toNat
  let below : Scaled := ⟨numerator / denominator, exponent⟩
  let above : Scaled := ⟨numerator / denominator + 1, exponent⟩
  let rest := 2 * (numerator % denominator)
  let lower := rest < denominator || (rest == denominator && below.digits % 2 == 0)
  match i.holds below, i.holds above with
  | true, true => some (if lower then below else above)
  | true, false => some below
  | false, true => some above
  | false, false => none

/-- The shortest decimal in the interval with at most `digits + count` digits, trying `digits`
digits first. -/
def Interval.shortestFrom (i : Interval) (magnitude : Int) (digits : Nat) : Nat → Scaled
  | 0 => ⟨i.value / i.denominator, 0⟩
  | count + 1 =>
    match i.nearest? (magnitude - digits) with
    | some found => found
    | none => i.shortestFrom magnitude (digits + 1) count

/-- The shortest decimal that rounds to `mantissa · 2 ^ exponent`. -/
def shortest (mantissa : Nat) (exponent : Int) : Scaled :=
  let i := Interval.ofBinary mantissa exponent
  i.shortestFrom i.magnitude 1 17

end HubRelay.Decimal
