import Platformer.Single.Basic

/-! # Arithmetic of single precision numbers

Each operation forms its exact result as a quotient of step counts and rounds it once. Only the
cases with an infinity, a not-a-number or a zero divisor need rules of their own.

* **`+`, `-`, `*`, `/`, `Single.sqrt`** — the five rounded operations. A sum of opposite numbers is
  the positive zero; a product or quotient of signed zeros takes the combined sign. A result that
  has no value is the positive not-a-number.
* **`Single.floor`, `Single.modulo`** — exact operations: the greatest whole number not above, and
  the remainder that is not negative.
* **`Single.min`, `Single.clamp?`, `Single.positivePart`** — selections; a not-a-number gives way
  to the other operand of `min`, and a clamp without a valid upper bound has no result.
* **`Single.toNat`** — truncation to a natural, kept within a limit. -/

namespace Platformer

namespace Single

/-! ### Sign -/

/-- Whether the sign is negative. -/
def isNegative : Single → Bool
  | .nan s => s
  | .infinite s => s
  | .finite s _ _ => s

/-- The number with the opposite sign. -/
def neg : Single → Single
  | .nan s => .nan !s
  | .infinite s => .infinite !s
  | .finite s m h => .finite (!s) m h

instance : Neg Single := ⟨neg⟩

/-- The number without its sign. -/
def abs : Single → Single
  | .nan _ => .nan false
  | .infinite _ => .infinite false
  | .finite _ m h => .finite false m h

/-- One with the sign of the number; a not-a-number stays as it is. -/
def sign : Single → Single
  | .nan s => .nan s
  | x => if x.isNegative then -1 else 1

/-! ### The rounded operations -/

/-- The rounded sum. -/
def add : Single → Single → Single
  | .finite s a _, .finite t b _ => ofSteps (s && t) (signed s a + signed t b)
  | .infinite s, .infinite t => if s = t then .infinite s else .nan false
  | .infinite s, .finite .. => .infinite s
  | .finite .., .infinite t => .infinite t
  | _, _ => .nan false

/-- The rounded product. -/
def mul : Single → Single → Single
  | .finite s a _, .finite t b _ => round (s ^^ t) (a * b) stepsPerOne
  | .infinite s, .infinite t => .infinite (s ^^ t)
  | .infinite s, .finite t b _ => if b = 0 then .nan false else .infinite (s ^^ t)
  | .finite s a _, .infinite t => if a = 0 then .nan false else .infinite (s ^^ t)
  | _, _ => .nan false

/-- The rounded quotient. -/
def div : Single → Single → Single
  | .finite s a _, .finite t b _ =>
    if b = 0 then (if a = 0 then .nan false else .infinite (s ^^ t))
    else round (s ^^ t) (a * stepsPerOne) b
  | .infinite s, .finite t _ _ => .infinite (s ^^ t)
  | .finite s _ _, .infinite t => round (s ^^ t) 0 1
  | _, _ => .nan false

instance : Add Single := ⟨add⟩

instance : Sub Single := ⟨fun x y => x + -y⟩

instance : Mul Single := ⟨mul⟩

instance : Div Single := ⟨div⟩

/-- The rounded square root. The root of the exact square count is irrational or whole, so a half
step above its floor stands for every irrational one. -/
def sqrt : Single → Single
  | .finite s m h =>
    if m = 0 then .finite s m h
    else if s then .nan false
    else
      let square := m * stepsPerOne
      let r := root square
      if r * r = square then round false r 1 else round false (2 * r + 1) 2
  | .infinite false => .infinite false
  | _ => .nan false

/-! ### Exact operations -/

/-- The greatest whole number that does not exceed the number. -/
def floor : Single → Single
  | .finite s m _ => ofSteps s (signed s m / stepsPerOne * stepsPerOne)
  | x => x

/-- The remainder of a division toward zero, with the sign of the dividend. -/
def remainder : Single → Single → Single
  | .finite s a _, .finite _ b _ => if b = 0 then .nan false else round s (a % b) 1
  | .finite s a h, .infinite _ => .finite s a h
  | _, _ => .nan false

/-- The remainder brought into the range from zero up to the divisor. -/
def modulo (x y : Single) : Single :=
  let r := x.remainder y
  if r < 0 then r + y.abs else r

/-- The part of the number before its point as a natural, from zero up to a limit. -/
def toNat (limit : Nat) : Single → Nat
  | .nan _ => 0
  | .infinite s => if s then 0 else limit
  | .finite s m _ => if s then 0 else Nat.min limit (m / stepsPerOne)

/-! ### Selections -/

/-- The smaller of two numbers; a not-a-number gives way to the other operand. -/
def min (x y : Single) : Single :=
  if x.isNaN then y else if y < x then y else x

/-- The number where it is above zero, otherwise zero. -/
def positivePart (x : Single) : Single := if 0 < x then x else 0

/-- The number brought between zero and an upper bound, if the bound is a number not below zero.
A not-a-number stays as it is. -/
def clamp? (x upper : Single) : Option Single :=
  if 0 ≤ upper then
    let raised := if x < 0 then 0 else x
    some (if upper < raised then upper else raised)
  else none

end Single

end Platformer
