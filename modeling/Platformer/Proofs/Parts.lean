import Platformer.Proofs.Magnitude

/-! # Counting in parts of one

A number that is a whole count of parts, a power of two of which make one, is given by its count. While
the counts keep to 24 bits, sums and products of such numbers are not rounded, in whatever order and
however often they are formed.

* **`Single.Exactly`** — a finite number with a given value.
* **`Single.IsParts`** — a whole count of parts; **`Single.IsParts.add`**, **`Single.IsParts.mul`**,
  **`Single.IsParts.div_two_pow`** — the operations on counts. -/

namespace Platformer

namespace Single

/-- **A finite number with a given value.** Where the value is that of an operation on exact numbers,
the operation has not been rounded. -/
structure Exactly (x : Single) (q : ℚ) : Prop where
  isFinite : x.isFinite = true
  value_eq : x.value = q

instance (x : Single) (q : ℚ) : Decidable (x.Exactly q) :=
  decidable_of_iff (x.isFinite = true ∧ x.value = q) ⟨fun h => ⟨h.1, h.2⟩, fun h => ⟨h.1, h.2⟩⟩

/-- **A whole count of parts**, `2 ^ k` of which make one. -/
def IsParts (k : ℕ) (n : ℤ) (x : Single) : Prop := x.Exactly (n / 2 ^ k)

instance (k : ℕ) (n : ℤ) (x : Single) : Decidable (x.IsParts k n) :=
  inferInstanceAs (Decidable (x.Exactly _))

variable {x y : Single} {k l : ℕ} {m n : ℤ}

/-- A count of at most 24 bits is not rounded. -/
theorem rounded_parts (hn : |n| ≤ 2 ^ 24) (hk : k ≤ 149) : rounded (n / 2 ^ k) = n / 2 ^ k := by
  obtain ⟨x, -, hvalue⟩ := exists_value_eq hn hk
  rw [← hvalue, rounded_value]

/-- A number whose value is rounded from a count of at most 24 bits is that count. -/
theorem isParts_of_value_eq (hx : x.isNaN = false) (hvalue : x.value = rounded (n / 2 ^ k))
    (hn : |n| ≤ 2 ^ 24) (hk : k ≤ 149) : x.IsParts k n := by
  rw [rounded_parts hn hk] at hvalue
  have hbits : |(n : ℚ)| ≤ (2 ^ 24 : ℕ) := by exact_mod_cast hn
  have hshare : |x.value| ≤ |(n : ℚ)| := by
    rw [hvalue, abs_div, abs_of_pos (by positivity : (0 : ℚ) < 2 ^ k)]
    exact div_le_self (abs_nonneg _) (one_le_pow₀ one_le_two)
  exact ⟨isFinite_of_abs_value_le hx le_rfl (hshare.trans hbits), hvalue⟩

/-- A natural of at most 24 bits is a count of ones. -/
theorem isParts_ofNat {n : ℕ} (hn : n ≤ 2 ^ 24) : (ofNat n).IsParts 0 n :=
  ⟨isFinite_ofNat hn, by rw [value_ofNat hn, Int.cast_natCast, pow_zero, div_one]⟩

namespace IsParts

/-- **A sum of counts** of the same parts is exact. -/
theorem add (hx : x.IsParts k m) (hy : y.IsParts k n) (h : |m + n| ≤ 2 ^ 24) (hk : k ≤ 149) :
    (x + y).IsParts k (m + n) := by
  refine isParts_of_value_eq (isNaN_add (isNaN_of_isFinite hx.isFinite) hy.isFinite) ?_ h hk
  rw [value_add hx.isFinite hy.isFinite, hx.value_eq, hy.value_eq, ← add_div, Int.cast_add]

/-- **A product of counts** is exact; its parts are those of one factor divided among those of the
other. -/
theorem mul (hx : x.IsParts k m) (hy : y.IsParts l n) (h : |m * n| ≤ 2 ^ 24) (hk : k + l ≤ 149) :
    (x * y).IsParts (k + l) (m * n) := by
  refine isParts_of_value_eq (isNaN_mul hx.isFinite hy.isFinite) ?_ h hk
  rw [value_mul hx.isFinite hy.isFinite, hx.value_eq, hy.value_eq, div_mul_div_comm, ← pow_add,
    Int.cast_mul]

/-- **A quotient by a power of two** is exact, as the same count of smaller parts. -/
theorem div_two_pow (hx : x.IsParts k n) (hy : y.Exactly (2 ^ l)) (hn : |n| ≤ 2 ^ 24)
    (hk : k + l ≤ 149) : (x / y).IsParts (k + l) n := by
  have hpos : 0 < y.value := by
    rw [hy.value_eq]
    positivity
  refine isParts_of_value_eq (isNaN_div (isNaN_of_isFinite hx.isFinite) hy.isFinite hpos) ?_ hn hk
  rw [value_div hx.isFinite hy.isFinite hpos.ne', hx.value_eq, hy.value_eq, div_div, ← pow_add]

end IsParts

end Single

end Platformer
