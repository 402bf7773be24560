import Platformer.Rounding

/-! # Single precision numbers

The numbers of the game are IEEE 754 single precision numbers: 24 significant bits, exponents from
`2 ^ -149` to `2 ^ 127`, signed zeros, two infinities and two not-a-numbers, which differ only in
sign. A finite number is held exactly, as a sign and a count of steps of `2 ^ -149`, the smallest
positive number of the format. Exact arithmetic on such counts is arithmetic on integers, and an
operation is its exact result put through one rounding function.

* **`Single`** — the numbers; a finite one carries the proof that its count fits the format.
* **`Single.round`** — the number nearest to a quotient of two counts, ties to even; past the
  greatest finite number it is an infinity.
* **`Single.rank?`** — the position of a number on the line of counts, the two infinities at its
  ends; nothing for a not-a-number. `<` and `≤` compare positions, so both zeros are equal and
  every comparison with a not-a-number is false.
* **`Single.totalRank`** — a finer position for sorting, which tells the two zeros apart and puts
  the negative not-a-number first and the positive one last. -/

namespace Platformer

-- a power of a natural is the one of core, whatever else is imported
attribute [local instance (high)] instPowNat

/-- The count of smallest steps in one: a single precision number is a multiple of `2 ^ -149`. -/
def stepsPerOne : Nat := 2 ^ (149 : Nat)

/-- The first count of steps beyond the finite numbers, `2 ^ 128` in steps. -/
def overflowSteps : Nat := 2 ^ (277 : Nat)

/-- A count of steps that is a finite magnitude of the format: below the overflow threshold, and
with at most 24 significant bits. -/
structure OnGrid (steps : Nat) : Prop where
  lt_overflow : steps < overflowSteps
  dvd : 2 ^ (steps.log2 - 23) ∣ steps

instance (steps : Nat) : Decidable (OnGrid steps) :=
  decidable_of_iff (steps < overflowSteps ∧ 2 ^ (steps.log2 - 23) ∣ steps)
    ⟨fun h => ⟨h.1, h.2⟩, fun h => ⟨h.1, h.2⟩⟩

/-- A single precision number. -/
inductive Single where
  /-- A number without a value, which is unordered; that of an operation without a result is the
  positive one. -/
  | nan (negative : Bool)
  /-- Positive or negative infinity. -/
  | infinite (negative : Bool)
  /-- The number of `steps` steps of `2 ^ -149` with a sign; zero has either sign. -/
  | finite (negative : Bool) (steps : Nat) (onGrid : OnGrid steps)
deriving DecidableEq

namespace Single

/-! ### Rounding into the format -/

/-- The number nearest to `num / den` steps, ties to even, with the given sign. -/
def round (negative : Bool) (num den : Nat) : Single :=
  if h : nearest 24 num den < overflowSteps then
    .finite negative (nearest 24 num den) ⟨h, two_pow_dvd_nearest (by decide) num den⟩
  else .infinite negative

/-- The number nearest to a whole count of steps with a sign; `negativeZero` is the sign of a
result of zero. -/
def ofSteps (negativeZero : Bool) (steps : Int) : Single :=
  round (steps < 0 || (steps == 0 && negativeZero)) steps.natAbs 1

/-- The number nearest to the quotient of two naturals. -/
def ofRatio (num den : Nat) : Single := round false (num * stepsPerOne) den

/-- The number nearest to a natural. -/
def ofNat (n : Nat) : Single := ofRatio n 1

instance (n : Nat) : OfNat Single n := ⟨ofNat n⟩

instance : OfScientific Single where
  ofScientific mantissa negativeExponent exponent :=
    if negativeExponent then ofRatio mantissa (10 ^ exponent)
    else ofNat (mantissa * 10 ^ exponent)

instance : Inhabited Single := ⟨0⟩

/-! ### The value of a number -/

/-- A count of steps with a sign. -/
def signed (negative : Bool) (steps : Nat) : Int := if negative then -steps else steps

/-- Whether the number is neither an infinity nor a not-a-number. -/
def isFinite : Single → Bool
  | .finite .. => true
  | _ => false

/-- Whether the number is a not-a-number, of either sign. -/
def isNaN : Single → Bool
  | .nan _ => true
  | _ => false

/-- Whether the number is one of the two zeros. -/
def isZero : Single → Bool
  | .finite _ 0 _ => true
  | _ => false

/-! ### Order -/

/-- The position of a number on the line of step counts, with the infinities just beyond the
finite numbers; a not-a-number has no position. -/
def rank? : Single → Option Int
  | .nan _ => none
  | .infinite s => some (signed s overflowSteps)
  | .finite s m _ => some (signed s m)

/-- Whether both numbers have a position and the first lies strictly before the second. -/
def lt (x y : Single) : Bool :=
  match x.rank?, y.rank? with
  | some a, some b => a < b
  | _, _ => false

/-- Whether both numbers have a position and the first does not lie after the second. -/
def le (x y : Single) : Bool :=
  match x.rank?, y.rank? with
  | some a, some b => a ≤ b
  | _, _ => false

instance : LT Single := ⟨fun x y => x.lt y = true⟩

instance : LE Single := ⟨fun x y => x.le y = true⟩

instance (x y : Single) : Decidable (x < y) := inferInstanceAs (Decidable (x.lt y = true))

instance (x y : Single) : Decidable (x ≤ y) := inferInstanceAs (Decidable (x.le y = true))

/-- The position of a number in the order used for sorting: the negative zero comes just before
the positive zero, the negative not-a-number before negative infinity and the positive one after
positive infinity. -/
def totalRank : Single → Int
  | .nan true => -overflowSteps - 2
  | .nan false => overflowSteps + 1
  | .infinite true => -overflowSteps - 1
  | .infinite false => overflowSteps
  | .finite true m _ => -m - 1
  | .finite false m _ => m

/-- A number lies before another exactly when both have positions in that order. -/
theorem lt_iff {x y : Single} :
    x < y ↔ ∃ a b, x.rank? = some a ∧ y.rank? = some b ∧ a < b := by
  show x.lt y = true ↔ _
  unfold lt
  cases x.rank? <;> cases y.rank? <;> simp

/-- A number lies before or at another exactly when both have positions in that order. -/
theorem le_iff {x y : Single} :
    x ≤ y ↔ ∃ a b, x.rank? = some a ∧ y.rank? = some b ∧ a ≤ b := by
  show x.le y = true ↔ _
  unfold le
  cases x.rank? <;> cases y.rank? <;> simp

/-- Nothing lies before itself. -/
theorem lt_irrefl (x : Single) : ¬ x < x := by
  rw [lt_iff]
  rintro ⟨a, b, ha, hb, hab⟩
  rw [ha] at hb
  cases hb
  omega

/-- The order of positions is transitive. -/
theorem lt_trans {x y z : Single} (hxy : x < y) (hyz : y < z) : x < z := by
  rw [lt_iff] at *
  obtain ⟨a, b, ha, hb, hab⟩ := hxy
  obtain ⟨b', c, hb', hc, hbc⟩ := hyz
  rw [hb] at hb'
  cases hb'
  exact ⟨a, c, ha, hc, by omega⟩

end Single

end Platformer
