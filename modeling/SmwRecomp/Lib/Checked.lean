import Mathlib.Algebra.Order.Ring.Int
import Mathlib.Data.Nat.Bitwise

/-!
# Checked machine operations

Reads of an array and sums of `int`s, each with what may go wrong with it.

* `peek`, `poke`, `int32` — a read and a write within an array, a value that fits an `int`;
  `wrap32`, one that wraps.
* `and_low`, `and_field`, `or_low` — masks and alternatives of words as quotients and remainders.
-/

set_option autoImplicit false

namespace SmwRecomp

/-- What a run can come to other than an answer; `spins` stands for a loop that does not end. -/
inductive Fault where
  | outOfBounds
  | overflow
  | spins
  deriving DecidableEq, Repr

abbrev Checked := Except Fault

/-- A read of an array of `n` elements. -/
def peek {α : Type} (n : Nat) (memory : Nat → α) (i : Nat) : Checked α :=
  if i < n then .ok (memory i) else .error .outOfBounds

/-- A write into an array of `n` elements. -/
def poke {α : Type} (n : Nat) (memory : Nat → α) (i : Nat) (a : α) : Checked (Nat → α) :=
  if i < n then .ok (Function.update memory i a) else .error .outOfBounds

/-- A value computed in `int`. -/
def int32 (n : Int) : Checked Int := if -2147483648 ≤ n ∧ n ≤ 2147483647 then .ok n
    else .error .overflow

/-- A value computed in `int` where the target wraps it. -/
def wrap32 (n : Int) : Int := n.bmod 4294967296

theorem wrap32_of_fits {n : Int} (hlow : -2147483648 ≤ n) (hhigh : n ≤ 2147483647) : wrap32 n = n :=
  Int.bmod_eq_of_le (by omega) (by omega)

section Checked

variable {α β : Type}

@[simp] theorem checked_bind (a : α) (f : α → Checked β) : (Except.ok a >>= f : Checked β) = f a :=
  rfl

@[simp] theorem fault_bind (e : Fault) (f : α → Checked β) :
    (Except.error e >>= f : Checked β) = .error e := rfl

@[simp] theorem checked_pure (a : α) : (pure a : Checked α) = .ok a := rfl

theorem checked_bind_ok {m : Checked α} {f : α → Checked β} {b : β} (h : m >>= f = .ok b) :
    ∃ a, m = .ok a ∧ f a = .ok b := by
  cases m with
  | error e => cases h
  | ok a => exact ⟨a, rfl, h⟩

theorem checked_ite_ok {c : Prop} [Decidable c] {m m' : Checked α} {b : α}
    (h : (if c then m else m') = .ok b) :
    (c ∧ m = .ok b) ∨ (¬ c ∧ m' = .ok b) := by
  split at h
  · exact .inl ⟨by assumption, h⟩
  · exact .inr ⟨by assumption, h⟩

/-- A run goes through when each of its steps does. -/
theorem checked_bind_total {m : Checked α} {f : α → Checked β} (hm : ∃ a, m = .ok a)
    (hf : ∀ a, ∃ b, f a = .ok b) :
    ∃ b, m >>= f = .ok b := by
  obtain ⟨a, rfl⟩ := hm
  exact hf a

theorem checked_ite_total {c : Prop} [Decidable c] {m m' : Checked α} (hm : c → ∃ a, m = .ok a)
    (hm' : ¬ c → ∃ a, m' = .ok a) : ∃ a, (if c then m else m') = .ok a := by
  split
  · exact hm (by assumption)
  · exact hm' (by assumption)

theorem peek_ok {n : Nat} {memory : Nat → α} {i : Nat} (h : i < n) :
    peek n memory i = .ok (memory i) := if_pos h

theorem int32_ok {n : Int} (h : -2147483648 ≤ n ∧ n ≤ 2147483647) : int32 n = .ok n := if_pos h

theorem int32_eq_ok {n m : Int} (h : int32 n = .ok m) :
    m = n ∧ -2147483648 ≤ n ∧ n ≤ 2147483647 := by
  unfold int32 at h
  split at h
  · cases h
    exact ⟨rfl, by assumption⟩
  · cases h

end Checked

/-! ## Words -/

theorem and_low (n k : Nat) : n &&& (2 ^ k - 1) = n % 2 ^ k := Nat.and_two_pow_sub_one_eq_mod n k

/-- The bits of a field of a word. -/
theorem and_field (n k w : Nat) : n &&& (2 ^ w - 1) * 2 ^ k = n / 2 ^ k % 2 ^ w * 2 ^ k := by
  rw [← Nat.and_two_pow_sub_one_eq_mod, ← Nat.shiftRight_eq_div_pow, ← Nat.shiftLeft_eq,
    ← Nat.shiftLeft_eq]
  apply Nat.eq_of_testBit_eq
  intro i
  simp only [Nat.testBit_and, Nat.testBit_shiftLeft, Nat.testBit_shiftRight]
  by_cases hi : k ≤ i
  · have hsum : k + (i - k) = i := by omega
    simp [hi, hsum]
  · simp [hi]

theorem or_low {a b k : Nat} (h : b < 2 ^ k) : a * 2 ^ k ||| b = a * 2 ^ k + b := by
  rw [Nat.mul_comm, ← Nat.two_pow_add_eq_or_of_lt h]

end SmwRecomp
