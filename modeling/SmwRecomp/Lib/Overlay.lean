import Mathlib.Data.List.Basic

/-!
# Buffers that grow

Writes into a buffer that is filled up with a default element where a write reaches past its end.

* `padTo` — a buffer of at least some length.
* `overlay` — a write that grows the buffer; `overlay_getD` reads it back.
* `getD_ext` — two buffers of one length that agree everywhere.
* `foldl_set_eq_overlay` — the loop that writes element by element.
-/

set_option autoImplicit false

namespace SmwRecomp

variable {α : Type} {d : α}

/-- At least `n` elements, filled up with `d`. -/
def padTo (d : α) (n : Nat) (xs : List α) : List α := xs ++ List.replicate (n - xs.length) d

@[simp] theorem padTo_length (n : Nat) (xs : List α) : (padTo d n xs).length = max xs.length n := by
  simp [padTo]
  omega

theorem padTo_of_le {n : Nat} {xs : List α} (h : n ≤ xs.length) : padTo d n xs = xs := by
  simp [padTo, Nat.sub_eq_zero_of_le h]

theorem padTo_getD (n : Nat) (xs : List α) (j : Nat) : (padTo d n xs).getD j d = xs.getD j d := by
  simp only [padTo, List.getD_eq_getElem?_getD]
  by_cases hj : j < xs.length
  · rw [List.getElem?_append_left hj]
  · rw [List.getElem?_append_right (Nat.not_lt.1 hj), List.getElem?_replicate,
      List.getElem?_eq_none (Nat.not_lt.1 hj)]
    split <;> rfl

/-- `ys` written from index `i`, the buffer grown as far as that takes. -/
def overlay (d : α) (xs : List α) (i : Nat) (ys : List α) : List α :=
  let grown := padTo d (i + ys.length) xs
  grown.take i ++ (ys ++ grown.drop (i + ys.length))

@[simp] theorem overlay_length (xs : List α) (i : Nat) (ys : List α) :
    (overlay d xs i ys).length = max xs.length (i + ys.length) := by
  simp [overlay]
  omega

/-- A buffer made large enough beforehand. -/
theorem overlay_padTo (xs : List α) (i : Nat) (ys : List α) :
    overlay d (padTo d (i + ys.length) xs) i ys = overlay d xs i ys := by
  unfold overlay
  have hlarge : i + ys.length ≤ (padTo d (i + ys.length) xs).length := by
    rw [padTo_length]
    omega
  rw [padTo_of_le hlarge]

theorem overlay_getD (xs : List α) (i : Nat) (ys : List α) (j : Nat) :
    (overlay d xs i ys).getD j d =
      if i ≤ j ∧ j < i + ys.length then ys.getD (j - i) d else xs.getD j d := by
  have hpad := padTo_getD (d := d) (i + ys.length) xs j
  have hlen : ((padTo d (i + ys.length) xs).take i).length = i := by
    rw [List.length_take, padTo_length]
    omega
  rw [List.getD_eq_getElem?_getD] at hpad ⊢
  unfold overlay
  dsimp only
  by_cases hi : i ≤ j
  · rw [List.getElem?_append_right (by omega), hlen]
    by_cases hj : j < i + ys.length
    · rw [if_pos ⟨hi, hj⟩, List.getElem?_append_left (by omega), List.getD_eq_getElem?_getD]
    · rw [if_neg (fun h => hj h.2), List.getElem?_append_right (by omega),
        List.getElem?_drop, ← hpad]
      congr 2
      omega
  · rw [if_neg (fun h => hi h.1), List.getElem?_append_left (by omega), List.getElem?_take,
      if_pos (by omega), hpad]

/-- Two buffers of one length that agree at every index. -/
theorem getD_ext {xs ys : List α} (hlen : xs.length = ys.length)
    (h : ∀ j, xs.getD j d = ys.getD j d) :
    xs = ys := by
  refine List.ext_getElem hlen fun j hx hy => ?_
  have hj := h j
  simpa [List.getD_eq_getElem?_getD, hx, hy] using hj

/-- Writing one element after the other. -/
theorem foldl_set_eq_overlay (v : α) : ∀ (n : Nat) (xs : List α) (i : Nat), i + n ≤ xs.length →
    (List.range' i n).foldl (fun xs j => xs.set j v) xs = overlay d xs i (List.replicate n v)
  | 0, xs, i, h => by
    simp [overlay, padTo_of_le (by omega : i ≤ xs.length)]
  | n + 1, xs, i, h => by
    rw [List.range'_succ, List.foldl_cons, foldl_set_eq_overlay v n (xs.set i v) (i + 1)
      (by simp; omega)]
    refine getD_ext (d := d) (by simp; omega) fun j => ?_
    rw [overlay_getD, overlay_getD, List.getD_eq_getElem?_getD (l := xs.set i v), List.getElem?_set,
      List.length_replicate, List.length_replicate]
    by_cases hij : i = j
    · subst hij
      rw [if_neg (by omega), if_pos rfl, if_pos (by omega), if_pos (by omega)]
      simp
    · rw [if_neg hij, ← List.getD_eq_getElem?_getD]
      by_cases hin : i + 1 ≤ j ∧ j < i + 1 + n
      · rw [if_pos hin, if_pos (by omega)]
        simp [List.getD_eq_getElem?_getD, List.getElem?_replicate]
        rw [if_pos (by omega), if_pos (by omega)]
      · rw [if_neg hin, if_neg (by omega)]

end SmwRecomp
