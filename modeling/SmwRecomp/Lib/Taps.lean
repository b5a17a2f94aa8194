import Mathlib.Algebra.Notation.Defs
import Mathlib.Order.Basic
import Mathlib.Tactic.Common

/-!
# Taps of a held signal

A signal holds one value per frame, `0` when nothing is held.

* `Edge` — the frames at which a value that was not held is taken up.
* `Second` — the edges that complete a pair: same value as the edge right before, close enough to
  it, and that edge does not complete a pair itself.
* `Full` — the frames whose hold was taken up by such an edge.
* `second_iff`, `full_edge`, `full_held`, `full_neutral` — the rules by which a recogniser follows
  them frame by frame.
-/

set_option autoImplicit false

namespace SmwRecomp

variable {α : Type} [Zero α] (d : Nat → α) (window : Nat)

/-- What is held in the frame before; nothing at the start. -/
def before : Nat → α
  | 0 => 0
  | t + 1 => d t

def Edge (t : Nat) : Prop := d t ≠ 0 ∧ d t ≠ before d t

/-- `e` is the last edge in front of frame `t`. -/
def LastEdge (t e : Nat) : Prop := e < t ∧ Edge d e ∧ ∀ u, e < u → u < t → ¬ Edge d u

/-- The edge at `t` is the second of a pair; an edge belongs to one pair at most. -/
def Second (t : Nat) : Prop :=
  Edge d t ∧ ∃ e, ∃ _ : e < t, LastEdge d t e ∧ d e = d t ∧ t ≤ e + window ∧ ¬ Second e
termination_by t

/-- The hold that frame `t` is part of was taken up at `b`. -/
def Began (t b : Nat) : Prop := b ≤ t ∧ Edge d b ∧ ∀ u, b < u → u ≤ t → d u = d b

def Full (t : Nat) : Prop := ∃ b, Began d t b ∧ Second d window b

/-- `Full` of the frame in front of `t`. -/
def FullBefore : Nat → Prop
  | 0 => False
  | t + 1 => Full d window t

variable {d window} {t e b : Nat}

theorem LastEdge.unique {e' : Nat} (h : LastEdge d t e) (h' : LastEdge d t e') : e = e' := by
  obtain ⟨hlt, hedge, hnone⟩ := h
  obtain ⟨hlt', hedge', hnone'⟩ := h'
  rcases Nat.lt_trichotomy e e' with hl | rfl | hl
  · exact absurd hedge' (hnone e' hl hlt')
  · rfl
  · exact absurd hedge (hnone' e hl hlt)

theorem lastEdge_edge (h : Edge d t) : LastEdge d (t + 1) t :=
  ⟨Nat.lt_succ_self t, h, fun u hu hu' => by omega⟩

theorem lastEdge_quiet (h : ¬ Edge d t) : LastEdge d (t + 1) e ↔ LastEdge d t e := by
  constructor
  · rintro ⟨hlt, hedge, hnone⟩
    have hne : e ≠ t := fun heq => h (heq ▸ hedge)
    exact ⟨by omega, hedge, fun u hu hu' => hnone u hu (by omega)⟩
  · rintro ⟨hlt, hedge, hnone⟩
    refine ⟨by omega, hedge, fun u hu hu' => ?_⟩
    rcases Nat.lt_or_eq_of_le (Nat.le_of_lt_succ hu') with hlt' | rfl
    · exact hnone u hu hlt'
    · exact h

/-- Whether an edge completes a pair is decided by the edge right before it. -/
theorem second_iff (hedge : Edge d t) (hlast : LastEdge d t e) :
    Second d window t ↔ d e = d t ∧ t ≤ e + window ∧ ¬ Second d window e := by
  rw [Second]
  constructor
  · rintro ⟨_, e', _, hlast', h⟩
    rwa [hlast.unique hlast']
  · intro h
    exact ⟨hedge, e, hlast.1, hlast, h⟩

theorem Second.last (h : Second d window t) :
    ∃ e, LastEdge d t e ∧ d e = d t ∧ t ≤ e + window ∧ ¬ Second d window e := by
  rw [Second] at h
  obtain ⟨_, e, _, h⟩ := h
  exact ⟨e, h⟩

/-- The hold of a frame was taken up at one frame only. -/
theorem Began.unique {b' : Nat} (h : Began d t b) (h' : Began d t b') : b = b' := by
  -- the later of the two would be no edge
  have hlater : ∀ {x y : Nat}, Began d t x → Began d t y → ¬ x < y := by
    rintro x y ⟨_, _, hheld⟩ ⟨hy, hedge, _⟩ hlt
    refine hedge.2 ?_
    obtain ⟨z, rfl⟩ : ∃ z, y = z + 1 := ⟨y - 1, by omega⟩
    have hnow := hheld (z + 1) hlt hy
    show d (z + 1) = d z
    rcases Nat.lt_or_eq_of_le (Nat.le_of_lt_succ hlt) with hz | rfl
    · rw [hnow, hheld z hz (by omega)]
    · exact hnow
  have := hlater h h'
  have := hlater h' h
  omega

theorem full_edge (h : Edge d t) : Full d window t ↔ Second d window t := by
  have hbegan : Began d t t := ⟨Nat.le_refl t, h, fun u hu hu' => by omega⟩
  constructor
  · rintro ⟨b, hb, hsecond⟩
    rwa [hb.unique hbegan] at hsecond
  · exact fun hsecond => ⟨t, hbegan, hsecond⟩

theorem full_neutral (h : d t = 0) : ¬ Full d window t := by
  rintro ⟨b, ⟨hb, hedge, hheld⟩, _⟩
  rcases Nat.lt_or_eq_of_le hb with hlt | rfl
  · exact hedge.1 ((hheld t hlt (Nat.le_refl t)).symm.trans h)
  · exact hedge.1 h

/-- What is still held keeps the standing it was taken up with. -/
theorem full_held (hheld : d t ≠ 0) (hquiet : ¬ Edge d t) :
    Full d window t ↔ FullBefore d window t := by
  have hsame : d t = before d t := by
    by_contra hne
    exact hquiet ⟨hheld, hne⟩
  cases t with
  | zero => exact absurd hsame hheld
  | succ t =>
    have hsame' : d (t + 1) = d t := hsame
    constructor
    · rintro ⟨b, ⟨hb, hedge, hkeep⟩, hsecond⟩
      have hne : b ≠ t + 1 := fun heq => hquiet (heq ▸ hedge)
      exact ⟨b, ⟨by omega, hedge, fun u hu hu' => hkeep u hu (by omega)⟩, hsecond⟩
    · rintro ⟨b, ⟨hb, hedge, hkeep⟩, hsecond⟩
      refine ⟨b, ⟨by omega, hedge, fun u hu hu' => ?_⟩, hsecond⟩
      have hnow : d t = d b := by
        rcases Nat.lt_or_eq_of_le hb with hlt | rfl
        · exact hkeep t hlt (Nat.le_refl t)
        · rfl
      rcases Nat.lt_or_eq_of_le hu' with hlt | rfl
      · exact hkeep u hu (by omega)
      · exact hsame'.trans hnow

end SmwRecomp
