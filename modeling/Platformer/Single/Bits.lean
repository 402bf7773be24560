import Platformer.Single.Basic

/-! # The 32-bit form of single precision numbers

A number travels as a 32-bit word: a sign bit, eight bits of exponent and 23 bits of fraction.
With magnitudes held as counts of the smallest step the exponent field and the fraction run on
into one another, so that the word of a finite number is its leading 24 bits plus `2 ^ 23` for each
bit dropped below them.

* **`Single.toBits`**, **`Single.ofBits`** — the word of a number and the number of a word. Of a
  word for a not-a-number only the sign is read; those written are `7fc00000` and `ffc00000`. -/

namespace Platformer

-- a power of a natural is the one of core, whatever else is imported
attribute [local instance (high)] instPowNat

namespace Single

/-- The word of a number without its sign bit. -/
def magnitudeBits : Single → Nat
  | .nan _ => 0x7fc00000
  | .infinite _ => 0x7f800000
  | .finite _ m _ =>
    let shift := gridShift 24 m
    shift * 2 ^ (23 : Nat) + m >>> shift

/-- The 32-bit word of a number. -/
def toBits (x : Single) : UInt32 :=
  let sign := match x with
    | .nan s => if s then 2 ^ (31 : Nat) else 0
    | .infinite s => if s then 2 ^ (31 : Nat) else 0
    | .finite s _ _ => if s then 2 ^ (31 : Nat) else 0
  UInt32.ofNat (sign + x.magnitudeBits)

/-- The number of a 32-bit word. -/
def ofBits (word : UInt32) : Single :=
  let negative := word.toNat / 2 ^ (31 : Nat) == 1
  let exponent := word.toNat / 2 ^ (23 : Nat) % 2 ^ (8 : Nat)
  let fraction := word.toNat % 2 ^ (23 : Nat)
  if exponent = 0 then round negative fraction 1
  else if exponent = 255 then (if fraction = 0 then .infinite negative else .nan negative)
  else round negative ((2 ^ (23 : Nat) + fraction) <<< (exponent - 1)) 1

end Single

end Platformer
