import Platformer.Single.Text

/-! # Faults

A run can only go wrong through its tuning. This file names the two ways.

* **`Fault`** — the causes; **`Fault.message`** — their wording.
* **`bind_eq_ok`**, **`ok_bind`**, **`error_bind`** — two computations in a row and the result of the
  first. -/

namespace Platformer

/-- The ways in which a tuning stops a run. -/
inductive Fault where
  /-- A frame time was clamped to an upper bound that is negative or not a number. -/
  | clampBound (upper : Single)
  /-- A speed was drawn from a range whose width is not finite. -/
  | speedRange
deriving DecidableEq

/-- The wording of a fault. -/
def Fault.message : Fault → String
  | .clampBound upper => "min > max, or either was NaN. min = 0.0, max = " ++ upper.text
  | .speedRange => "called `Result::unwrap()` on an `Err` value: NonFinite"

/-- Two computations in a row have a result only through a result of the first. -/
theorem bind_eq_ok {ε α β : Type} {x : Except ε α} {f : α → Except ε β} {b : β}
    (h : x >>= f = .ok b) : ∃ a, x = .ok a ∧ f a = .ok b := by
  cases x with
  | error e => cases h
  | ok a => exact ⟨a, rfl, h⟩

/-- A computation after one with a result is the computation from that result. -/
theorem ok_bind {ε α β : Type} {x : Except ε α} {a : α} (h : x = .ok a) (f : α → Except ε β) :
    x >>= f = f a := by
  rw [h]
  rfl

/-- No computation follows a fault. -/
theorem error_bind {ε α β : Type} {x : Except ε α} {e : ε} (h : x = .error e)
    (f : α → Except ε β) : x >>= f = .error e := by
  rw [h]
  rfl

end Platformer
