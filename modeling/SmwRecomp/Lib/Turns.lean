import Mathlib.Data.List.Basic
import Mathlib.Algebra.Order.Ring.Nat

/-!
# Lists as runs of a mark

A list cut behind every element that is not the mark: how many marks stand before it, and the
element. A loop that counts the marks and then looks at what follows them takes these as its turns.

* `ofTurns_turnsOf`, `turnsOf_le` — nothing is lost, and no run is longer than the list.
* `turnsOf_run` — a run and the element behind it are the first turn.
* `Turns` — the shape of the turns, to do induction on.
-/

set_option autoImplicit false

namespace SmwRecomp

variable {α : Type} [DecidableEq α]

def turnsOf (mark : α) : List α → List (Nat × Option α)
  | [] => []
  | a :: rest =>
    if a = mark then
      match turnsOf mark rest with
      | [] => [(1, none)]
      | (n, next) :: turns => (n + 1, next) :: turns
    else (0, some a) :: turnsOf mark rest

omit [DecidableEq α] in
/-- The elements of a turn. -/
def ofTurn (mark : α) (turn : Nat × Option α) : List α :=
  List.replicate turn.1 mark ++ turn.2.toList

/-- Turns end at an element, the last one perhaps at the end of the list. -/
inductive Turns (mark : α) : List (Nat × Option α) → Prop where
  | nil : Turns mark []
  | last (n : Nat) : Turns mark [(n + 1, none)]
  | cons (n : Nat) {a : α} {turns : List (Nat × Option α)} :
      a ≠ mark → Turns mark turns → Turns mark ((n, some a) :: turns)

theorem turnsOf_cons_mark (mark : α) (rest : List α) : turnsOf mark (mark :: rest) =
    match turnsOf mark rest with
    | [] => [(1, none)]
    | (n, next) :: turns => (n + 1, next) :: turns := if_pos rfl

theorem turnsOf_cons {mark a : α} (ha : a ≠ mark) (rest : List α) :
    turnsOf mark (a :: rest) = (0, some a) :: turnsOf mark rest := if_neg ha

theorem ofTurns_turnsOf (mark : α) (xs : List α) :
    (turnsOf mark xs).flatMap (ofTurn mark) = xs := by
  induction xs with
  | nil => rfl
  | cons a rest ih =>
      by_cases ha : a = mark
      · subst ha
        rw [turnsOf_cons_mark]
        cases hturns : turnsOf a rest with
        | nil =>
            rw [hturns] at ih
            rw [← ih]
            rfl
        | cons turn turns =>
            rw [hturns] at ih
            conv_rhs => rw [← ih]
            rfl
      · rw [turnsOf_cons ha, List.flatMap_cons, ih]
        rfl

/-- No run is longer than the list. -/
theorem turnsOf_le {mark : α} {xs : List α} {turn : Nat × Option α} (h : turn ∈ turnsOf mark xs) :
    turn.1 ≤ xs.length := by
  have hturn : (ofTurn mark turn).length ≤ ((turnsOf mark xs).flatMap (ofTurn mark)).length :=
    (List.sublist_flatten_of_mem (List.mem_map_of_mem h)).length_le
  rw [ofTurns_turnsOf] at hturn
  unfold ofTurn at hturn
  rw [List.length_append, List.length_replicate] at hturn
  omega

theorem turnsOf_turns (mark : α) (xs : List α) : Turns mark (turnsOf mark xs) := by
  induction xs with
  | nil => exact .nil
  | cons a rest ih =>
      by_cases ha : a = mark
      · subst ha
        rw [turnsOf_cons_mark]
        generalize turnsOf a rest = turns at ih
        cases ih with
        | nil => exact .last 0
        | last n => exact .last (n + 1)
        | cons n hnext hturns => exact .cons (n + 1) hnext hturns
      · rw [turnsOf_cons ha]
        exact .cons 0 ha ih

theorem turnsOf_run (mark : α) (n : Nat) {a : α} (ha : a ≠ mark) (rest : List α) :
    turnsOf mark (List.replicate n mark ++ a :: rest) = (n, some a) :: turnsOf mark rest := by
  induction n with
  | zero => exact turnsOf_cons ha rest
  | succ n ih => rw [List.replicate_succ, List.cons_append, turnsOf_cons_mark, ih]

theorem turnsOf_marks (mark : α) (n : Nat) :
    turnsOf mark (List.replicate (n + 1) mark) = [(n + 1, none)] := by
  induction n with
  | zero => exact turnsOf_cons_mark mark []
  | succ n ih => rw [List.replicate_succ, turnsOf_cons_mark, ih]

end SmwRecomp
