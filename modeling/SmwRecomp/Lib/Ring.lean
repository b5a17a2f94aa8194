import Mathlib.Data.List.DropRight
import Mathlib.Logic.Function.Basic

/-!
# A ring that keeps the end of a log

The entry of position `i` of a log lies in the cell `i % cap`, until the entry `cap` positions on
takes its place.

* `RingHolds` — the cells hold the last `cap` entries of the log, at the positions they vouch for.
* `RingHolds.push`, `RingHolds.amend`, `RingHolds.skip` — a new entry, a change of the newest one,
  and a change the ring misses.
* `RingHolds.read` — cells read in the order of their positions are the end of the log.
-/

set_option autoImplicit false

namespace SmwRecomp

variable {α : Type} {cap : Nat} {kept : Nat → Prop} {ring : Nat → α} {log : List α}

/-- The cells hold the entries of the last `cap` positions that are `kept`. -/
def RingHolds (cap : Nat) (kept : Nat → Prop) (ring : Nat → α) (log : List α) : Prop :=
  ∀ (i : Nat) (hi : i < log.length), log.length ≤ i + cap → kept i → ring (i % cap) = log[i]

/-- A change of the newest entry of a log; an empty one has none. -/
def amendLast (f : α → α) (log : List α) : List α :=
  match log.getLast? with
  | none => log
  | some e => log.dropLast ++ [f e]

@[simp] theorem amendLast_nil (f : α → α) : amendLast f ([] : List α) = [] := rfl

@[simp] theorem amendLast_snoc (f : α → α) (log : List α) (e : α) :
    amendLast f (log ++ [e]) = log ++ [f e] := by
  simp [amendLast]

@[simp] theorem length_amendLast (f : α → α) (log : List α) :
    (amendLast f log).length = log.length := by
  rcases List.eq_nil_or_concat log with rfl | ⟨log, e, rfl⟩
  · rfl
  · rw [List.concat_eq_append, amendLast_snoc, List.length_append, List.length_append]
    rfl

theorem RingHolds.nil : RingHolds cap kept ring [] := by
  intro i hi
  cases hi

/-- Two positions less than `cap` apart have different cells. -/
theorem cell_ne {i j : Nat} (hij : i < j) (hcap : j < i + cap) : i % cap ≠ j % cap := by
  intro h
  have hsub : (j - i) % cap = 0 := Nat.sub_mod_eq_zero_of_mod_eq h.symm
  rw [Nat.mod_eq_of_lt (by omega)] at hsub
  omega

/-- The entry goes where that of `cap` positions ago lay. -/
theorem RingHolds.push (h : RingHolds cap kept ring log) (e : α) :
    RingHolds cap kept (Function.update ring (log.length % cap) e) (log ++ [e]) := by
  intro i hi hwindow hkept
  rw [List.length_append, List.length_singleton] at hi hwindow
  rcases Nat.lt_succ_iff_lt_or_eq.1 hi with hlt | rfl
  · rw [Function.update_of_ne (cell_ne hlt (by omega)), List.getElem_append_left hlt]
    exact h i hlt (by omega) hkept
  · rw [Function.update_self, List.getElem_concat_length rfl]

/-- A change of the newest entry, made in its cell. -/
theorem RingHolds.amend {e : α} (h : RingHolds cap kept ring (log ++ [e])) (e' : α) :
    RingHolds cap kept (Function.update ring (log.length % cap) e') (log ++ [e']) := by
  intro i hi hwindow hkept
  rw [List.length_append, List.length_singleton] at hi hwindow
  rcases Nat.lt_succ_iff_lt_or_eq.1 hi with hlt | rfl
  · have hold :=
      h i (by rw [List.length_append]; exact hi) (by rw [List.length_append]; exact hwindow) hkept
    rw [List.getElem_append_left hlt] at hold
    rw [Function.update_of_ne (cell_ne hlt (by omega)), List.getElem_append_left hlt]
    exact hold
  · rw [Function.update_self, List.getElem_concat_length rfl]

/-- A change of the newest entry that the ring misses, where it does not vouch for it. -/
theorem RingHolds.skip {e : α} (h : RingHolds cap kept ring (log ++ [e]))
    (hmissed : ¬ kept log.length) (e' : α) :
    RingHolds cap kept ring (log ++ [e']) := by
  intro i hi hwindow hkept
  rw [List.length_append, List.length_singleton] at hi hwindow
  rcases Nat.lt_succ_iff_lt_or_eq.1 hi with hlt | rfl
  · have hold :=
      h i (by rw [List.length_append]; exact hi) (by rw [List.length_append]; exact hwindow) hkept
    rw [List.getElem_append_left hlt] at hold ⊢
    exact hold
  · exact absurd hkept hmissed

/-- The cells of the last `n` positions, in order. -/
theorem RingHolds.read (h : RingHolds cap kept ring log) {n : Nat} (hn : n ≤ log.length)
    (hcap : n ≤ cap)
    (hkept : ∀ i, log.length - n ≤ i → i < log.length → kept i) :
    (List.range n).map (fun i => ring ((log.length - n + i) % cap)) = log.rtake n := by
  have hlength : (log.rtake n).length = n := by
    unfold List.rtake
    rw [List.length_drop]
    omega
  refine List.ext_getElem (by rw [List.length_map, List.length_range, hlength]) fun i hi hi' => ?_
  rw [hlength] at hi'
  rw [List.getElem_map, List.getElem_range,
    h (log.length - n + i) (by omega) (by omega) (hkept _ (by omega) (by omega))]
  exact (List.getElem_drop ..).symm

end SmwRecomp
