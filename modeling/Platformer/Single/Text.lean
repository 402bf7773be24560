import Platformer.Single.Basic

/-! # Writing single precision numbers in decimal

Two forms are written: the whole number nearest to the value, and the shortest decimal that reads
back as the same number.

* **`Single.wholeText`** — the exact value rounded to a whole number, a half going to the even
  neighbour; a negative number keeps its sign even when it rounds to zero.
* **`Single.shortest`** — of the decimals with the fewest digits that round to the given magnitude,
  the one nearest to it, the larger of two equally near ones.
* **`Single.text`** — that decimal, positional from `0.0001` up to below `10 ^ 16` with at least
  one digit after the point, otherwise with an exponent. -/

namespace Platformer

-- a power of a natural is the one of core, whatever else is imported
attribute [local instance (high)] instPowNat

namespace Single

/-- A minus sign for a negative number. -/
def signText (negative : Bool) : String := if negative then "-" else ""

/-- The exact value rounded to a whole number, a half going to the even neighbour. -/
def wholeText : Single → String
  | .nan _ => "NaN"
  | .infinite s => signText s ++ "inf"
  | .finite s m _ => signText s ++ toString (divEven m stepsPerOne)

/-! ### The shortest decimal -/

/-- The decimal number `digits * 10 ^ exponent`. -/
structure Decimal where
  digits : Nat
  exponent : Int
deriving DecidableEq, Repr

/-- The numerator of a decimal, over a power of ten. -/
def Decimal.num (d : Decimal) : Nat := d.digits * 10 ^ d.exponent.toNat

/-- The power of ten below a decimal. -/
def Decimal.den (d : Decimal) : Nat := 10 ^ (-d.exponent).toNat

/-- Whether a decimal rounds to the magnitude of the given count of steps. -/
def Decimal.readsAs (d : Decimal) (steps : Nat) : Bool :=
  nearest 24 (d.num * stepsPerOne) d.den == steps

/-- The decimal with no zeros at the end of its digits, at most `fuel` of which are dropped. -/
def Decimal.trim : (fuel : Nat) → Decimal → Decimal
  | 0, d => d
  | fuel + 1, d =>
    if d.digits ≠ 0 ∧ d.digits % 10 = 0 then Decimal.trim fuel ⟨d.digits / 10, d.exponent + 1⟩
    else d

/-- The exponent of the leading decimal digit of a positive count of steps, found from a guess that
is not too large by climbing at most `fuel` times. -/
def leadingExponent (steps : Nat) : (fuel : Nat) → (guess : Int) → Int
  | 0, e => e
  | fuel + 1, e =>
    if 10 ^ (e + 1).toNat * stepsPerOne ≤ steps * 10 ^ (-(e + 1)).toNat then
      leadingExponent steps fuel (e + 1)
    else e

/-- The decimal on the grid of `10 ^ exponent` that reads as the magnitude, if one of the two
around it does: the nearer one, and the upper one of a tie. -/
def onDecimalGrid? (steps : Nat) (exponent : Int) : Option Decimal :=
  let num := steps * 10 ^ (-exponent).toNat
  let den := stepsPerOne * 10 ^ exponent.toNat
  let below : Decimal := ⟨num / den, exponent⟩
  let above : Decimal := ⟨num / den + 1, exponent⟩
  let nearer := if 2 * (num % den) < den then [below, above] else [above, below]
  nearer.find? (·.readsAs steps)

/-- The first decimal that reads as the magnitude on grids from `exponent` down to finer ones. -/
def shortestFrom (steps : Nat) : (fuel : Nat) → (exponent : Int) → Decimal
  | 0, e => ⟨0, e⟩
  | fuel + 1, e => (onDecimalGrid? steps e).getD (shortestFrom steps fuel (e - 1))

/-- The shortest decimal that reads as a positive magnitude; nine digits always suffice. -/
def shortest (steps : Nat) : Decimal :=
  (shortestFrom steps 10 (leadingExponent steps 90 (-46))).trim 10

/-! ### Layout -/

/-- The digits of a decimal with a point, with at least one digit on each side of it. -/
def Decimal.positional (d : Decimal) : String :=
  let digits := toString d.digits
  let places := (-d.exponent).toNat
  if 0 ≤ d.exponent then digits ++ String.ofList (List.replicate d.exponent.toNat '0') ++ ".0"
  else
    let padded := List.replicate (places + 1 - digits.length) '0' ++ digits.toList
    String.ofList (padded.take (padded.length - places)) ++ "." ++
      String.ofList (padded.drop (padded.length - places))

/-- A decimal with one digit before the point and the power of ten it is multiplied by. -/
def Decimal.scientific (d : Decimal) : String :=
  let digits := (toString d.digits).toList
  let fraction := digits.drop 1
  String.ofList (digits.take 1) ++ (if fraction.isEmpty then "" else "." ++ String.ofList fraction)
    ++ "e" ++ toString (d.exponent + fraction.length)

/-- Whether a positive magnitude is written without an exponent. The bounds are the numbers nearest
to `0.0001` and `10 ^ 16`. -/
def isPositional (steps : Nat) : Bool :=
  nearest 24 stepsPerOne (10 ^ (4 : Nat)) ≤ steps &&
    steps < nearest 24 (10 ^ (16 : Nat) * stepsPerOne) 1

/-- The shortest decimal text of a number. -/
def text : Single → String
  | .nan _ => "NaN"
  | .infinite s => signText s ++ "inf"
  | .finite s m _ =>
    if m = 0 then signText s ++ "0.0"
    else
      let d := shortest m
      signText s ++ (if isPositional m then d.positional else d.scientific)

end Single

end Platformer
