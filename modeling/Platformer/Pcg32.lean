import Platformer.Fault
import Platformer.Single.Arithmetic
import Platformer.Single.Bits

/-! # The random generator

A permuted congruential generator with 64 bits of state and 32-bit output. Every draw is a function
of the generator that returns the value together with the generator to use next.

* **`Pcg32`** — the state and the increment; **`Pcg32.ofSeed`** expands one word into both.
* **`Pcg32.next`** — one 32-bit output.
* **`Pcg32.below`** — a natural below a positive bound, by widening multiplication with a second
  output to remove most of the bias; `Pcg32.below_lt` says that the bound holds.
* **`Pcg32.unit`**, **`Pcg32.between`**, **`Pcg32.coin`** — a fraction of one, a number from a
  range, and a fair flag. -/

namespace Platformer

-- a power of a natural is the one of core, whatever else is imported
attribute [local instance (high)] instPowNat

/-- A generator: its state moves on with each output and its increment stays. -/
structure Pcg32 where
  state : UInt64
  increment : UInt64
deriving DecidableEq

namespace Pcg32

/-- The multiplier of the congruential step. -/
def multiplier : UInt64 := 6364136223846793005

/-- The output of a state: its high bits folded together, turned right by its top five bits. -/
def permute (state : UInt64) : UInt32 :=
  let folded := (((state >>> 18) ^^^ state) >>> 27).toUInt32
  let turn := (state >>> 59).toUInt32
  (folded >>> turn) ||| (folded <<< ((32 - turn) &&& 31))

/-- One 32-bit output. -/
def next (g : Pcg32) : UInt32 × Pcg32 :=
  (permute g.state, { g with state := g.state * multiplier + g.increment })

/-- One step of the congruential sequence that spreads a seed over a whole generator. -/
def spread (z : UInt64) : UInt64 := z * multiplier + 11634580027462260723

/-- The 64-bit word of a low and a high half. -/
def joinWords (low high : UInt32) : UInt64 := low.toUInt64 ||| (high.toUInt64 <<< 32)

/-- The generator of a seed. The outputs of four steps from the seed give its first state and its
increment, which is made odd. -/
def ofSeed (seed : UInt64) : Pcg32 :=
  let z₁ := spread seed
  let z₂ := spread z₁
  let z₃ := spread z₂
  let z₄ := spread z₃
  let increment := joinWords (permute z₃) (permute z₄) ||| 1
  { state := (joinWords (permute z₁) (permute z₂) + increment) * multiplier + increment, increment }

/-! ### Draws -/

/-- A natural below `n`. The high half of the product of an output with `n` is the draw; when the
low half leaves it in doubt, the product of a second output decides whether one is carried. -/
def below (g : Pcg32) (n : Nat) (_positive : 0 < n := by decide) : Nat × Pcg32 :=
  let (word, g) := g.next
  let product := word.toNat * n
  let high := product / 2 ^ (32 : Nat)
  let low := product % 2 ^ (32 : Nat)
  if 2 ^ (32 : Nat) - n < low then
    let (word, g) := g.next
    (high + (low + word.toNat * n / 2 ^ (32 : Nat)) / 2 ^ (32 : Nat), g)
  else (high, g)

/-- A draw lies below its bound, for bounds of at most 32 bits. -/
theorem below_lt (g : Pcg32) {n : Nat} (positive : 0 < n) (hn : n ≤ 2 ^ (32 : Nat)) :
    (g.below n positive).1 < n := by
  have hword : ∀ w : UInt32, w.toNat * n + n ≤ n * 2 ^ (32 : Nat) := fun w => by
    have := Nat.mul_le_mul_right n (Nat.succ_le_of_lt w.toNat_lt)
    rw [Nat.succ_mul, Nat.mul_comm (2 ^ (32 : Nat)) n] at this
    exact this
  simp only [below]
  have h₁ := hword g.next.1
  have h₂ := hword g.next.2.next.1
  generalize g.next.1.toNat * n = p at *
  generalize g.next.2.next.1.toNat * n = q at *
  split <;> simp only <;> omega

/-- A multiple of `2 ^ -24` from zero up to below one. -/
def unit (g : Pcg32) : Single × Pcg32 :=
  let (word, g) := g.next
  (.ofRatio (word.toNat / 2 ^ (8 : Nat)) (2 ^ (24 : Nat)), g)

/-- A number from `low` up to `high`: a number from one up to two, less one, stretched over the
width of the range. A range whose width is not finite is a fault. -/
def between (g : Pcg32) (low high : Single) : Except Fault (Single × Pcg32) :=
  let width := high - low
  if width.isFinite then
    let (word, g) := g.next
    let stretched := Single.ofBits ((0x3f800000 : UInt32) ||| (word >>> 9))
    .ok ((stretched - 1) * width + low, g)
  else .error .speedRange

/-- A flag that is set in half of the draws: the top bit of two outputs is clear. -/
def coin (g : Pcg32) : Bool × Pcg32 :=
  let (_, g) := g.next
  let (high, g) := g.next
  (high < 0x80000000, g)

end Pcg32

end Platformer
