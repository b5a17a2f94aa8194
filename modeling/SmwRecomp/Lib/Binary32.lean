import Mathlib.Data.Nat.Log
import Mathlib.Tactic.Linarith

/-!
# The binary32 nearest to a dyadic number

The bits of the single-precision float nearest to `m / 2 ^ s`, ties to even.

* `roundEven` — division by a power of two, rounded.
* `nearest` — the bits; the exponent and the rounded mantissa are added, so that a carry moves on to
  the next exponent.
* `nearest_mono` — rounding keeps the order; `nearest_lt` — and stays below the infinities.
-/

set_option autoImplicit false

namespace SmwRecomp

/-- `m / 2 ^ k`, rounded to the nearest, ties to even. -/
def roundEven (m k : Nat) : Nat :=
  if 2 ^ k < 2 * (m % 2 ^ k) ∨ (2 ^ k = 2 * (m % 2 ^ k) ∧ m / 2 ^ k % 2 = 1) then m / 2 ^ k + 1
    else m / 2 ^ k

/-- The mantissa with its leading bit, for a number of `length` bits. -/
def mantissa (length m : Nat) : Nat := if length ≤ 24 then m * 2 ^ (24 - length)
    else roundEven m (length - 24)

/-- The bits of the float nearest to `m / 2 ^ s`; the exponent of `m` is `126 + length - s`. -/
def nearest (s m : Nat) : Nat :=
  if m = 0 then 0 else (125 + (Nat.log2 m + 1) - s) * 2 ^ 23 + mantissa (Nat.log2 m + 1) m

theorem roundEven_le (m k : Nat) : m / 2 ^ k ≤ roundEven m k ∧ roundEven m k ≤ m / 2 ^ k + 1 := by
  unfold roundEven
  split
  · exact ⟨Nat.le_succ _, Nat.le_refl _⟩
  · exact ⟨Nat.le_refl _, Nat.le_succ _⟩

theorem roundEven_mono {m n : Nat} (h : m ≤ n) (k : Nat) : roundEven m k ≤ roundEven n k := by
  have hdiv : m / 2 ^ k ≤ n / 2 ^ k := Nat.div_le_div_right h
  rcases Nat.lt_or_eq_of_le hdiv with hlt | heq
  · calc roundEven m k ≤ m / 2 ^ k + 1 := (roundEven_le m k).2
      _ ≤ n / 2 ^ k := hlt
      _ ≤ roundEven n k := (roundEven_le n k).1
  · -- The same quotient: what is left over decides.
    have hm := Nat.div_add_mod m (2 ^ k)
    have hn := Nat.div_add_mod n (2 ^ k)
    rw [heq] at hm
    have hleft : m % 2 ^ k ≤ n % 2 ^ k := by omega
    unfold roundEven
    rw [heq]
    split
    · rename_i hup
      rw [if_pos]
      omega
    · split
      · exact Nat.le_succ _
      · exact Nat.le_refl _

theorem mantissa_mono {m n : Nat} (h : m ≤ n) (length : Nat) :
    mantissa length m ≤ mantissa length n := by
  unfold mantissa
  split
  · exact Nat.mul_le_mul_right _ h
  · exact roundEven_mono h _

/-- A mantissa has 24 bits, or is the next power. -/
theorem mantissa_bounds {length m : Nat} (hpos : 0 < length) (hlow : 2 ^ (length - 1) ≤ m)
    (hhigh : m < 2 ^ length) :
    2 ^ 23 ≤ mantissa length m ∧ mantissa length m ≤ 2 ^ 24 := by
  unfold mantissa
  split
  · have hlow' := Nat.mul_le_mul_right (2 ^ (24 - length)) hlow
    have hhigh' := Nat.mul_le_mul_right (2 ^ (24 - length)) (Nat.le_of_lt hhigh)
    rw [← Nat.pow_add] at hlow' hhigh'
    rw [show length - 1 + (24 - length) = 23 by omega] at hlow'
    rw [show length + (24 - length) = 24 by omega] at hhigh'
    exact ⟨hlow', hhigh'⟩
  · obtain ⟨hdown, hup⟩ := roundEven_le m (length - 24)
    have hpow : 0 < 2 ^ (length - 24) := Nat.two_pow_pos _
    have hquot : 2 ^ 23 ≤ m / 2 ^ (length - 24) := by
      rw [Nat.le_div_iff_mul_le hpow, ← Nat.pow_add, show 23 + (length - 24) = length - 1 by omega]
      exact hlow
    have hsmall : m / 2 ^ (length - 24) < 2 ^ 24 := by
      rw [Nat.div_lt_iff_lt_mul hpow, ← Nat.pow_add, show 24 + (length - 24) = length by omega]
      exact hhigh
    omega

theorem mantissa_log2 {m : Nat} (hm : m ≠ 0) :
    2 ^ 23 ≤ mantissa (Nat.log2 m + 1) m ∧ mantissa (Nat.log2 m + 1) m ≤ 2 ^ 24 :=
  mantissa_bounds (Nat.succ_pos _) (Nat.log2_self_le hm) Nat.lt_log2_self

/-- The larger of two numbers is not rounded below the other. -/
theorem nearest_mono {s m n : Nat} (hs : s ≤ 126) (h : m ≤ n) : nearest s m ≤ nearest s n := by
  unfold nearest
  split
  · exact Nat.zero_le _
  rename_i hm
  have hn : n ≠ 0 := by omega
  rw [if_neg hn]
  obtain ⟨-, hhigh⟩ := mantissa_log2 hm
  obtain ⟨hlow, -⟩ := mantissa_log2 hn
  have hlog : m.log2 ≤ n.log2 := by
    rw [Nat.le_log2 hn]
    exact Nat.le_trans (Nat.log2_self_le hm) h
  rcases Nat.lt_or_eq_of_le hlog with hlt | heq
  · have hstep : 125 + (m.log2 + 1) - s + 1 ≤ 125 + (n.log2 + 1) - s := by omega
    have hmul := Nat.mul_le_mul_right (2 ^ 23) hstep
    omega
  · rw [heq]
    exact Nat.add_le_add_left (mantissa_mono h _) _

/-- A number below the largest power is finite. -/
theorem nearest_lt {s m : Nat} (h : m < 2 ^ (s + 127)) : nearest s m < 255 * 2 ^ 23 := by
  unfold nearest
  split
  · decide
  rename_i hm
  obtain ⟨-, hhigh⟩ := mantissa_log2 hm
  have hlog : m.log2 < s + 127 := (Nat.log2_lt hm).2 h
  have hstep : 125 + (m.log2 + 1) - s ≤ 252 := by omega
  have hmul := Nat.mul_le_mul_right (2 ^ 23) hstep
  omega

/-! One, a third of the largest frame count, and a tie. -/

example : nearest 14 16384 = 0x3f800000 := by decide +kernel

example : nearest 0 (2 ^ 24 + 1) = 0x4b800000 ∧ nearest 0 (2 ^ 24 + 3) = 0x4b800002 := by
  decide +kernel

end SmwRecomp
