/-! # Rounding a quotient of whole numbers

* **`Rounding.half`** — what becomes of an exact half;
* **`Rounding.divide`** — the nearest whole number to a quotient; `divide_exact` and
  `divide_within_half` say that it is within half a unit. -/

namespace WeatherBus

namespace Rounding

/-- The two ways to decide an exact half. -/
inductive Half where
  | toEven
  | up
deriving DecidableEq, Repr

/-- The whole number nearest to `n / d`, an exact half decided by `half`. -/
def divide (half : Half) (n d : Nat) : Nat :=
  let q := n / d
  let twice := 2 * (n % d)
  if twice < d then q
  else if d < twice then q + 1
  else match half with
    | .up => q + 1
    | .toEven => if q % 2 = 0 then q else q + 1

/-- A whole quotient is not rounded. -/
theorem divide_exact (half : Half) (n : Nat) {d : Nat} (hd : 0 < d) :
    divide half (n * d) d = n := by
  simp only [divide, Nat.mul_div_cancel _ hd, Nat.mul_mod_left, Nat.mul_zero, if_pos hd]

/-- The result is within half a unit of the quotient. -/
theorem divide_within_half (half : Half) (n : Nat) {d : Nat} (hd : 0 < d) :
    2 * n ≤ 2 * (divide half n d * d) + d ∧ 2 * (divide half n d * d) ≤ 2 * n + d := by
  have hn : d * (n / d) + n % d = n := Nat.div_add_mod n d
  have hm : n % d < d := Nat.mod_lt n hd
  have hc : n / d * d = d * (n / d) := Nat.mul_comm _ _
  have hs : (n / d + 1) * d = d * (n / d) + d := by rw [Nat.add_mul, Nat.one_mul, hc]
  simp only [divide]
  split
  · rw [hc]
    omega
  · split
    · rw [hs]
      omega
    · cases half with
      | up =>
        simp only [hs]
        omega
      | toEven =>
        simp only
        split
        · rw [hc]
          omega
        · rw [hs]
          omega

end Rounding

end WeatherBus
