import Mathlib.Data.Nat.Bitwise
import Mathlib.Tactic.Ring

/-!
# Numbers as lists of bits

The bits of a number, the most significant first.

* `msbBits`, `ofMsb` — the low bits of a number, and the number of some bits.
* `msbBits_add`, `msbBits_byte` — a number cut at a bit, and one with a byte behind it.
* `ofMsb_msbBits` — the bits of a number are the number, modulo their weight.
-/

set_option autoImplicit false

namespace SmwRecomp

/-- The low `w` bits of a number. -/
def msbBits : Nat → Nat → List Bool
  | 0, _ => []
  | w + 1, n => n.testBit w :: msbBits w n

def ofMsb (bits : List Bool) : Nat := bits.foldl (fun n b => 2 * n + b.toNat) 0

@[simp] theorem msbBits_length (w n : Nat) : (msbBits w n).length = w := by
  induction w with
  | zero => rfl
  | succ w ih => rw [msbBits, List.length_cons, ih]

theorem msbBits_congr {w m n : Nat} (h : ∀ i < w, m.testBit i = n.testBit i) :
    msbBits w m = msbBits w n := by
  induction w with
  | zero => rfl
  | succ w ih =>
      rw [msbBits, msbBits, h w (Nat.lt_succ_self w), ih fun i hi => h i (Nat.lt_succ_of_lt hi)]

theorem msbBits_add (a b n : Nat) : msbBits (a + b) n = msbBits a (n >>> b) ++ msbBits b n := by
  induction a with
  | zero => rw [Nat.zero_add, msbBits, List.nil_append]
  | succ a ih =>
      rw [Nat.succ_add, msbBits, msbBits, ih, Nat.testBit_shiftRight, Nat.add_comm b a,
      List.cons_append]

/-- A byte behind a number stands behind its bits. -/
theorem msbBits_byte (w n : Nat) {byte : Nat} (h : byte < 256) :
    msbBits (w + 8) (n <<< 8 ||| byte) = msbBits w n ++ msbBits 8 byte := by
  have hhigh : (n <<< 8 ||| byte) >>> 8 = n := by
    rw [Nat.shiftRight_or_distrib, Nat.shiftLeft_shiftRight, Nat.shiftRight_eq_div_pow,
      Nat.div_eq_of_lt h, Nat.or_zero]
  have hlow : msbBits 8 (n <<< 8 ||| byte) = msbBits 8 byte := by
    refine msbBits_congr fun i hi => ?_
    rw [Nat.testBit_or, Nat.testBit_shiftLeft, decide_eq_false (by omega), Bool.false_and,
      Bool.false_or]
  rw [msbBits_add, hhigh, hlow]

theorem ofMsb_append (a b : List Bool) : ofMsb (a ++ b) = ofMsb a * 2 ^ b.length + ofMsb b := by
  have hfold : ∀ (b : List Bool) (n : Nat), b.foldl (fun n b => 2 * n + b.toNat) n =
    n * 2 ^ b.length + ofMsb b := by
    intro b
    induction b with
    | nil => exact fun n => by simp [ofMsb]
    | cons x b ih =>
        intro n
        have hcons : ofMsb (x :: b) = (2 * 0 + x.toNat) * 2 ^ b.length + ofMsb b := ih _
        rw [List.foldl_cons, ih, hcons, List.length_cons, Nat.pow_succ]
        ring
  have happend : ofMsb (a ++ b) = b.foldl (fun n b => 2 * n + b.toNat) (ofMsb a) :=
    List.foldl_append ..
  rw [happend, hfold]

theorem ofMsb_msbBits (w n : Nat) : ofMsb (msbBits w n) = n % 2 ^ w := by
  induction w with
  | zero => rw [Nat.pow_zero, Nat.mod_one]; rfl
  | succ w ih =>
      have hcons : msbBits (w + 1) n = [n.testBit w] ++ msbBits w n := rfl
      have hbit : ofMsb [n.testBit w] = n / 2 ^ w % 2 := by
        rw [← Nat.toNat_testBit]
        exact Nat.zero_add _
      rw [hcons, ofMsb_append, ih, hbit, msbBits_length, Nat.pow_succ, Nat.mod_mul]
      ring

end SmwRecomp
