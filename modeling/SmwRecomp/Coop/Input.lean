import SmwRecomp.Coop.Session
import Mathlib.Data.List.Induction

/-!
# Button edges

`coop_player_input` over a run of frames: the latch and the last effective word against the words
that were held.

* `inputRun` — the calls of a run, each with the life state set before it.
* `Tracks` — what the two stored words are, bit by bit, after a word was held; `input_step` — one
  call.
* `pressed_iff` — a press is a rising edge of the held word, in play or outside the mask.
-/

set_option autoImplicit false

namespace SmwRecomp.Coop

/-- Bit `b` of a word of buttons. -/
def button (w : UInt32) (b : Nat) : Bool := w.toBitVec.getLsbD b

section Button

variable {v w : UInt32} {b : Nat}

@[simp] theorem button_and : button (v &&& w) b = (button v b && button w b) := by
  simp [button]

@[simp] theorem button_or : button (v ||| w) b = (button v b || button w b) := by
  simp [button]

theorem button_lt (h : button w b = true) : b < 32 := by
  by_contra hb
  rw [button, BitVec.getLsbD_of_ge _ _ (by omega)] at h
  cases h

/-- Taking bits away. -/
theorem button_and_not : button (v &&& ~~~w) b = (button v b && !button w b) := by
  cases hv : button v b with
  | false => rw [button_and, hv, Bool.false_and, Bool.false_and]
  | true =>
      have hb := button_lt hv
      simp [button, hb] at hv ⊢
      simp [hv]

@[simp] theorem button_zero : button 0 b = false := by
  simp [button]

end Button

/-! ## One call -/

/-- One call, with the life state set before it. -/
def inputCall (mask : UInt32) (p : CoopPlayer) (c : CEnum CoopLifeState × UInt32) : CoopPlayer :=
  coopPlayerInput { p with life := c.1 } c.2 mask

/-- The stored words after `held` was held: nothing of a button that is up; of one that is down the
effective word has it, or the latch withholds it. -/
structure Tracks (mask held : UInt32) (p : CoopPlayer) : Prop where
  up : ∀ b, button held b = false → button p.heldInput b = false ∧ button p.actionLatch b = false
  down : ∀ b, button held b = true →
    button p.heldInput b = true ∨ button p.actionLatch b = true ∧ button mask b = true

theorem tracks_init (mask : UInt32) (i : Nat) : Tracks mask 0 (initPlayer i) := by
  constructor
  · intro b _
    exact ⟨button_zero, button_zero⟩
  · intro b h
    rw [button_zero] at h
    cases h

/-- The words one call stores, bit by bit. -/
theorem inputCall_button (mask : UInt32) (p : CoopPlayer)
    (c : CEnum CoopLifeState × UInt32) (b : Nat) :
    button (inputCall mask p c).heldInput b =
        (button c.2 b && !(button p.actionLatch b && button c.2 b && button mask b)) ∧
      button (inputCall mask p c).actionLatch b =
        ((button p.actionLatch b && button c.2 b) ||
          (!decide (c.1 = .is .playing) && (button c.2 b && button mask b))) ∧
      button (inputCall mask p c).pressedInput b =
        (button (inputCall mask p c).heldInput b && !button p.heldInput b &&
          (decide (c.1 = .is .playing) || !button mask b)) := by
  unfold inputCall coopPlayerInput
  dsimp only
  by_cases hlife : c.1 = .is .playing
  · rw [if_neg (by simp [hlife])]
    simp only [button_and_not, hlife]
    simp
  · rw [if_pos hlife]
    simp only [button_and_not, hlife]
    simp

/-- One call tracks the new word, and reports its rising edges. -/
theorem input_step {mask held : UInt32} {p : CoopPlayer} (h : Tracks mask held p)
    (c : CEnum CoopLifeState × UInt32) :
    Tracks mask c.2 (inputCall mask p c) ∧
      ∀ b, button (inputCall mask p c).pressedInput b = true ↔
        (button c.2 b = true ∧ button held b = false) ∧
        (button mask b = false ∨ c.1 = .is .playing) := by
  refine ⟨⟨?_, ?_⟩, ?_⟩
  · intro b hb
    obtain ⟨hheld, hlatch, -⟩ := inputCall_button mask p c b
    rw [hheld, hlatch, hb]
    simp
  · intro b hb
    obtain ⟨hheld, hlatch, -⟩ := inputCall_button mask p c b
    rw [hheld, hlatch, hb]
    cases button p.actionLatch b <;> cases button mask b <;> simp
  · intro b
    obtain ⟨hheld, -, hpressed⟩ := inputCall_button mask p c b
    rw [hpressed, hheld]
    cases hb : button held b with
    | false =>
        obtain ⟨hup, hlatch⟩ := h.up b hb
        rw [hup, hlatch]
        cases button c.2 b <;> cases button mask b <;> simp
    | true =>
        -- what is still down was in the effective word, or the latch withholds it now
        rcases h.down b hb with hdown | ⟨hlatch, hmask⟩
        · rw [hdown]
          simp
        · rw [hlatch, hmask]
          cases button c.2 b <;> simp

/-! ## Runs -/

/-- The record after a run of calls. -/
def inputRun (mask : UInt32) (p : CoopPlayer) (calls : List (CEnum CoopLifeState × UInt32)) :
    CoopPlayer :=
  calls.foldl (inputCall mask) p

theorem inputRun_concat (mask : UInt32) (p : CoopPlayer)
    (calls : List (CEnum CoopLifeState × UInt32))
    (c : CEnum CoopLifeState × UInt32) :
    inputRun mask p (calls ++ [c]) = inputCall mask (inputRun mask p calls) c :=
  List.foldl_concat _ _ _ _

/-- The word held last, none before the first call. -/
def lastHeld (calls : List (CEnum CoopLifeState × UInt32)) : UInt32 :=
  match calls.getLast? with
  | some c => c.2
  | none => 0

theorem inputRun_tracks (mask : UInt32) (i : Nat) (calls : List (CEnum CoopLifeState × UInt32)) :
    Tracks mask (lastHeld calls) (inputRun mask (initPlayer i) calls) := by
  induction calls using List.reverseRecOn with
  | nil => exact tracks_init mask i
  | append_singleton calls c ih =>
      unfold lastHeld
      rw [inputRun_concat, List.getLast?_concat]
      exact (input_step ih c).1

/-- Whatever words are held and whatever life states are set, a call of a run reports exactly the
rising edges of the word that is held, those of the mask in play only. -/
theorem pressed_iff (i : Nat) (mask : UInt32) (calls : List (CEnum CoopLifeState × UInt32))
    (n : Nat)
    (h : n < calls.length) (b : Nat) :
    button (inputRun mask (initPlayer i) (calls.take (n + 1))).pressedInput b = true ↔
      (button calls[n].2 b = true ∧ button (lastHeld (calls.take n)) b = false) ∧
        (button mask b = false ∨ calls[n].1 = .is .playing) := by
  rw [← List.take_append_getElem h, inputRun_concat]
  exact (input_step (inputRun_tracks mask i (calls.take n)) calls[n]).2 b

/-- A masked button held through a bubble, let go in play and pressed again. -/
theorem pressed_iff_bubble :
    button (inputRun 0x80 (initPlayer 1) ([(.is .deathBubble, 0x81), (.is .deathBubble, 0x81),
    (.is .playing, 0x81), (.is .playing, 0x81), (.is .playing, 1), (.is .playing, 0x81)].take
      (5 + 1))).pressedInput 7 =
      true := by
  rw [pressed_iff 1 0x80 _ 5 (by decide) 7]
  decide

end SmwRecomp.Coop
