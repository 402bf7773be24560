import Platformer.Single.Text

/-! # Numerals

The numbers of a JSON text as they are written, and what they are read as.

* **`Numeral`** — a sign, digits before and after the point, and an exponent.
* **`Numeral.toNat?`** — the natural below a limit that a numeral without point, exponent and sign
  writes.
* **`Numeral.toSingle?`** — the single precision number of a numeral. An integer of at most 64 bits
  is rounded once. Any other numeral is first read as a double precision number, by a product or
  quotient of its leading digits with a power of ten, and that number is then rounded; a numeral
  beyond the double precision numbers has no value.
* **`Numeral.ofSingle?`** — the shortest numeral of a finite number. -/

namespace Platformer

-- a power of a natural is the one of core, whatever else is imported
attribute [local instance (high)] instPowNat

/-- A number as it is written. -/
structure Numeral where
  negative : Bool
  /-- The digits before the point. -/
  whole : List Nat
  /-- The digits after the point; none if there is no point. -/
  fraction : List Nat
  exponent : Option Int
deriving DecidableEq, Repr

namespace Numeral

/-- Whether there is neither a point nor an exponent. -/
def isInteger (n : Numeral) : Bool := n.fraction.isEmpty && n.exponent.isNone

/-! ### The leading digits -/

/-- Appends digits to a number while it keeps within 64 bits, and returns the digits left over. -/
def absorb : List Nat → Nat → Nat × List Nat
  | [], n => (n, [])
  | d :: ds, n => if 10 * n + d < UInt64.size then absorb ds (10 * n + d) else (n, d :: ds)

/-- The leading digits as a number of at most 64 bits, and the power of ten that the numeral has
beyond them. Later digits only count as places. -/
def leading (n : Numeral) : Nat × Int :=
  let (digits, skipped) := absorb n.whole 0
  let (digits, dropped) := absorb n.fraction digits
  let places : Int := n.fraction.length - dropped.length
  (digits, skipped.length - places + n.exponent.getD 0)

/-- The value of an integer of at most 64 bits, without its sign. -/
def integer? (n : Numeral) : Option Nat :=
  match n.isInteger, absorb n.whole 0 with
  | true, (digits, []) => some digits
  | _, _ => none

/-- The natural below a limit that a numeral writes. -/
def toNat? (limit : Nat) (n : Numeral) : Option Nat :=
  if n.negative then none else n.integer?.filter (· < limit)

/-! ### Double precision -/

/-- The count of smallest steps of the double precision numbers in one. -/
def wideStepsPerOne : Nat := 2 ^ (1074 : Nat)

/-- The double precision number nearest to a quotient of step counts. -/
def wide (num den : Nat) : Nat := nearest 53 num den

/-- The double precision number nearest to a natural. -/
def wideOfNat (n : Nat) : Nat := wide (n * wideStepsPerOne) 1

/-- The rounded product of two double precision numbers, if it is finite. -/
def wideMul? (a b : Nat) : Option Nat :=
  let product := wide (a * b) wideStepsPerOne
  if product < 2 ^ (1024 : Nat) * wideStepsPerOne then some product else none

/-- The rounded quotient of two double precision numbers. -/
def wideDiv (a b : Nat) : Nat := wide (a * wideStepsPerOne) b

/-- The greatest power of ten among the double precision numbers. -/
def widestPower : Nat := 308

/-- A natural times a power of ten as a double precision number, formed by one product, or by at
most two quotients; what is smaller than they reach is zero. -/
def scale? (digits : Nat) (exponent : Int) : Option Nat :=
  let base := wideOfNat digits
  let power (e : Int) : Nat := wideOfNat (10 ^ e.toNat)
  if base = 0 then some 0
  else if 0 ≤ exponent then
    if exponent ≤ widestPower then wideMul? base (power exponent) else none
  else if -widestPower ≤ exponent then some (wideDiv base (power (-exponent)))
  else if -2 * widestPower ≤ exponent then
    some (wideDiv (wideDiv base (power widestPower)) (power (-exponent - widestPower)))
  else some 0

/-! ### Single precision -/

/-- The single precision number of a numeral. -/
def toSingle? (n : Numeral) : Option Single :=
  match n.integer?.filter fun i => !n.negative || i ≤ 2 ^ (63 : Nat) with
  | some i => some (.round n.negative (i * stepsPerOne) 1)
  | none =>
    let (digits, exponent) := n.leading
    (scale? digits exponent).map fun steps =>
      .round n.negative (steps * stepsPerOne) wideStepsPerOne

/-- The shortest numeral of a finite number. It has an exponent, which tells it from an integer. -/
def ofSingle? : Single → Option Numeral
  | .finite s m _ =>
    let d := if m = 0 then ⟨0, 0⟩ else Single.shortest m
    some ⟨s, (Nat.toDigits 10 d.digits).map (·.toNat - '0'.toNat), [], some d.exponent⟩
  | _ => none

/-- The numeral of a natural. -/
def ofNat (n : Nat) : Numeral :=
  ⟨false, (Nat.toDigits 10 n).map (·.toNat - '0'.toNat), [], none⟩

/-- The text of a numeral. -/
def text (n : Numeral) : String :=
  let digits (ds : List Nat) : String := String.join (ds.map toString)
  Single.signText n.negative ++ digits n.whole ++
    (if n.fraction.isEmpty then "" else "." ++ digits n.fraction) ++
    (match n.exponent with
      | some e => "e" ++ toString e
      | none => "")

end Numeral

end Platformer
