import HubRelay.Decimal.Shortest

/-!
# The text of a floating point number

A finite double is written by its shortest decimal. It is written out in positional form when its
decimal point falls among its first sixteen digits or at most five places before the first one, and
always with at least one digit after the point; otherwise in scientific form, with a point only if
there are several digits, and with the sign of the exponent.
-/

set_option autoImplicit false

namespace HubRelay.Decimal

/-- The decimal without trailing zeros among its digits. -/
def Scaled.strip (d : Scaled) (fuel : Nat) : Scaled :=
  match fuel with
  | 0 => d
  | fuel + 1 =>
    if d.digits ≠ 0 ∧ d.digits % 10 = 0 then strip ⟨d.digits / 10, d.exponent + 1⟩ fuel else d

/-- An exponent as scientific form writes it. -/
def exponentText (exponent : Int) : String :=
  (if exponent < 0 then "e-" else "e+") ++ toString exponent.natAbs

/-- The text of a positive decimal. -/
def Scaled.text (d : Scaled) : String :=
  let digits := Nat.toDigits 10 d.digits
  let point := digits.length + d.exponent
  if 0 ≤ d.exponent ∧ point ≤ 16 then
    String.ofList (digits ++ List.replicate d.exponent.toNat '0') ++ ".0"
  else if 0 < point ∧ point ≤ 16 then
    String.ofList (digits.take point.toNat) ++ "." ++ String.ofList (digits.drop point.toNat)
  else if -5 < point ∧ point ≤ 0 then
    "0." ++ String.ofList (List.replicate (-point).toNat '0' ++ digits)
  else
    let exponent := exponentText (point - 1)
    match digits with
    | [only] => only.toString ++ exponent
    | first :: rest => first.toString ++ "." ++ String.ofList rest ++ exponent
    | [] => exponent

/-- The text of a finite double. -/
def floatText (x : Float) : String :=
  let bits := x.toBits.toNat
  let sign := if bits >>> 63 == 1 then "-" else ""
  let fraction := bits % 0x10000000000000
  let exponent : Nat := (bits >>> 52) % 0x800
  if exponent == 0 && fraction == 0 then sign ++ "0.0"
  else if exponent == 0 then sign ++ ((shortest fraction (-1074)).strip 17).text
  else sign ++ ((shortest (0x10000000000000 + fraction) ((exponent : Int) - 1075)).strip 17).text

end HubRelay.Decimal
