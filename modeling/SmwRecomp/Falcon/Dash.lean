import SmwRecomp.Lib.Taps
import Mathlib.Algebra.Order.Ring.Rat
import Mathlib.Algebra.Order.Ring.Abs
import Mathlib.Tactic.NormNum

/-!
# The double-tap dash

`src/overrides/falcon/falcon_smw_adapter.c`: `smw_falcon_input` and `smw_falcon_reset_dash_taps`.

* `DashTaps`, `DashTaps.tick` — the recogniser and what one frame's direction does to it.
* `smwFalconInput` — one call of the function; the sticks are the exact values of the source's
  floats.
* `Tracks` — what the recogniser knows of the directions fed to it so far.
* `dash_double_tap` — the magnitude of the stick at every frame of every run.
-/

set_option autoImplicit false

namespace SmwRecomp.Falcon

/-- `SMW_FALCON_DASH_DOUBLE_TAP_FRAMES`. -/
def SMW_FALCON_DASH_DOUBLE_TAP_FRAMES : Nat := 15

/-- `io_controller_hold1`, `io_controller_press1`, `io_controller_hold2`, `io_controller_press2`. -/
structure Controllers where
  hold1 : UInt8
  press1 : UInt8
  hold2 : UInt8
  press2 : UInt8

/-- `s_foreign_pad`, without the carry bridge. -/
structure ForeignPad extends Controllers where
  valid : Bool

structure ForeignInput where
  stickX : ℚ
  stickY : ℚ
  jumpPressed : Bool
  jumpHeld : Bool
  downPressed : Bool
  attackPressed : Bool
  specialPressed : Bool
  rawButtons : Nat

structure DashTaps where
  firstDir : Int
  prevDir : Int
  fullHold : Bool
  specialGracePending : Bool
  ignoreUntilRelease : Bool
  tapAge : Nat

structure InputState where
  taps : DashTaps
  pad : ForeignPad
  lastInputDirection : Int

/-- `smw_falcon_reset_dash_taps`. -/
def smwFalconResetDashTaps : DashTaps := ⟨0, 0, false, false, false, 0⟩

/-- `(hold1 & 0x01) ? 1 : (hold1 & 0x02) ? -1 : 0`. -/
def direction (hold1 : UInt8) : Int :=
  if hold1 &&& 0x01 ≠ 0 then 1 else if hold1 &&& 0x02 ≠ 0 then -1 else 0

namespace DashTaps

/-- The first tap ages; past the window it is forgotten. -/
def age (s : DashTaps) : DashTaps :=
  if s.firstDir ≠ 0 then
    if s.tapAge < SMW_FALCON_DASH_DOUBLE_TAP_FRAMES then { s with tapAge := s.tapAge + 1 }
    else { s with firstDir := 0 }
  else s

/-- The branch on `s_dash_ignore_until_release`. -/
def press (s : DashTaps) (direction : Int) : DashTaps :=
  if s.ignoreUntilRelease then
    { s with
      fullHold := false
      ignoreUntilRelease := if direction = 0 then false else s.ignoreUntilRelease }
  else if direction = 0 then { s with fullHold := false }
  else if direction ≠ s.prevDir then
    if direction = s.firstDir ∧ s.tapAge ≤ SMW_FALCON_DASH_DOUBLE_TAP_FRAMES then
      { s with fullHold := true, firstDir := 0, tapAge := 0 }
    else { s with fullHold := false, firstDir := direction, tapAge := 0 }
  else s

def tick (s : DashTaps) (direction : Int) : DashTaps :=
  { s.age.press direction with prevDir := direction }

end DashTaps

/-- The pad the call reads: the captured one, or the controller registers. -/
def ForeignPad.read (pad : ForeignPad) (io : Controllers) : Controllers :=
  if pad.valid then pad.toControllers else io

/-- `smw_falcon_input`; `underwater` is `flag_underwater_level`. -/
def smwFalconInput (s : InputState) (io : Controllers) (underwater : UInt8) :
    ForeignInput × InputState :=
  let c := s.pad.read io
  let specialPress := c.press1 &&& 0x40 ≠ 0
  let direction := direction c.hold1
  let taps := s.taps.tick direction
  let stickY : ℚ := if c.hold1 &&& 0x08 ≠ 0 then 1 else if c.hold1 &&& 0x04 ≠ 0 then -1 else 0
  let steered := direction ≠ 0 ∨ stickY ≠ 0
  let raw := c.hold1.toNat ||| c.hold2.toNat <<< 8
  ({ stickX := if direction = 0 then 0 else direction * (if taps.fullHold then 1 else 1 / 2)
     stickY := stickY
     jumpPressed := c.press1 &&& 0x80 ≠ 0
     jumpHeld := c.hold1 &&& 0x80 ≠ 0
     downPressed := c.press1 &&& 0x04 ≠ 0
     attackPressed := c.press2 &&& 0x40 ≠ 0
     -- a directionless edge waits one frame
     specialPressed := if specialPress then decide steered else taps.specialGracePending
     rawButtons := if underwater ≠ 0 then raw ||| 0x10000000 else raw },
   { taps := { taps with specialGracePending := decide (specialPress ∧ ¬ steered) }
     pad := { s.pad with valid := false }
     lastInputDirection := direction })

/-! ## Runs -/

/-- One frame: what `$00:D5F2` left in the pad, the registers at `$00:DC2D`, and whether the tick
started a turn, which suppresses the press until its release. -/
structure InputFrame where
  pad : ForeignPad
  io : Controllers
  underwater : UInt8
  turned : Bool

namespace InputFrame

def dir (f : InputFrame) : Int := direction (f.pad.read f.io).hold1

def input (f : InputFrame) (s : InputState) : ForeignInput × InputState :=
  smwFalconInput { s with pad := f.pad } f.io f.underwater

def step (f : InputFrame) (s : InputState) : InputState :=
  let s := (f.input s).2
  if f.turned then { s with taps := { s.taps with ignoreUntilRelease := true } } else s

end InputFrame

/-- The state in front of frame `n`, from a reset. -/
def inputState (s : InputState) (frames : Nat → InputFrame) : Nat → InputState
  | 0 => { s with taps := smwFalconResetDashTaps }
  | n + 1 => (frames n).step (inputState s frames n)

/-- What frame `n` hands to the controller. -/
def inputAt (s : InputState) (frames : Nat → InputFrame) (n : Nat) : ForeignInput :=
  ((frames n).input (inputState s frames n)).1

/-- The directions fed to the recogniser. -/
def directions (frames : Nat → InputFrame) (n : Nat) : Int := (frames n).dir

theorem direction_cases (hold1 : UInt8) :
    direction hold1 = 0 ∨ direction hold1 = 1 ∨ direction hold1 = -1 := by
  unfold direction
  split_ifs <;> simp

theorem step_taps (f : InputFrame) (s : InputState) (h : f.turned = false) :
    (f.step s).taps = { s.taps.tick f.dir with
      specialGracePending := (f.step s).taps.specialGracePending } := by
  unfold InputFrame.step
  rw [h]
  rfl

/-! ## What the recogniser knows -/

/-- The open tap: none that the next edge could complete, or the last edge and its age. -/
def OpenTap (d : Nat → Int) (n : Nat) (firstDir : Int) (age : Nat → Prop) : Prop :=
  (firstDir = 0 ∧
    ∀ e, LastEdge d n e → Second d SMW_FALCON_DASH_DOUBLE_TAP_FRAMES e ∨
      e + SMW_FALCON_DASH_DOUBLE_TAP_FRAMES < n) ∨
  ∃ e, LastEdge d n e ∧ ¬ Second d SMW_FALCON_DASH_DOUBLE_TAP_FRAMES e ∧ firstDir = d e ∧ age e

/-- **What the recogniser knows** of the directions in front of frame `n`. -/
structure Tracks (d : Nat → Int) (n : Nat) (s : DashTaps) : Prop where
  prev : s.prevDir = before d n
  ignore : s.ignoreUntilRelease = false
  hold : s.fullHold = true ↔ FullBefore d SMW_FALCON_DASH_DOUBLE_TAP_FRAMES n
  tap : OpenTap d n s.firstDir fun e =>
    e + s.tapAge + 1 = n ∧ s.tapAge ≤ SMW_FALCON_DASH_DOUBLE_TAP_FRAMES

theorem Tracks.aged {d : Nat → Int} {n : Nat} {s : DashTaps} (h : Tracks d n s) :
    OpenTap d n s.age.firstDir fun e =>
      e + s.age.tapAge = n ∧ s.age.tapAge ≤ SMW_FALCON_DASH_DOUBLE_TAP_FRAMES := by
  unfold DashTaps.age
  rcases h.tap with ⟨hzero, hnone⟩ | ⟨e, hlast, hopen, hdir, hage, hle⟩
  · rw [if_neg (not_not.2 hzero)]
    exact Or.inl ⟨hzero, hnone⟩
  · have hne : s.firstDir ≠ 0 := hdir ▸ hlast.2.1.1
    rw [if_pos hne]
    split_ifs with hlt
    · exact Or.inr ⟨e, hlast, hopen, hdir, by show e + (s.tapAge + 1) = n; omega, hlt⟩
    · -- the edge is now more than a window old, and it is still the last one
      refine Or.inl ⟨rfl, fun e' hlast' => Or.inr ?_⟩
      have := hlast.unique hlast'
      omega

@[simp] theorem age_prevDir (s : DashTaps) : s.age.prevDir = s.prevDir := by
  unfold DashTaps.age
  split_ifs <;> rfl

@[simp] theorem age_ignore (s : DashTaps) : s.age.ignoreUntilRelease = s.ignoreUntilRelease := by
  unfold DashTaps.age
  split_ifs <;> rfl

@[simp] theorem age_fullHold (s : DashTaps) : s.age.fullHold = s.fullHold := by
  unfold DashTaps.age
  split_ifs <;> rfl

/-- A frame without an edge leaves the open tap as it is. -/
theorem OpenTap.quiet {d : Nat → Int} {n a : Nat} {f : Int} (hquiet : ¬ Edge d n)
    (h : OpenTap d n f fun e => e + a = n ∧ a ≤ SMW_FALCON_DASH_DOUBLE_TAP_FRAMES) :
    OpenTap d (n + 1) f fun e => e + a + 1 = n + 1 ∧ a ≤ SMW_FALCON_DASH_DOUBLE_TAP_FRAMES := by
  rcases h with ⟨hzero, hnone⟩ | ⟨e, hlast, hopen, hdir, hage, hle⟩
  · refine Or.inl ⟨hzero, fun e hlast => ?_⟩
    rcases hnone e ((lastEdge_quiet hquiet).1 hlast) with hs | hold
    · exact Or.inl hs
    · exact Or.inr (by omega)
  · exact Or.inr ⟨e, (lastEdge_quiet hquiet).2 hlast, hopen, hdir, by omega, hle⟩

/-- An edge completes a pair iff the open tap has its direction. -/
theorem OpenTap.second {d : Nat → Int} {n a : Nat} {f : Int} (hedge : Edge d n)
    (h : OpenTap d n f fun e => e + a = n ∧ a ≤ SMW_FALCON_DASH_DOUBLE_TAP_FRAMES) :
    Second d SMW_FALCON_DASH_DOUBLE_TAP_FRAMES n ↔
      d n = f ∧ a ≤ SMW_FALCON_DASH_DOUBLE_TAP_FRAMES := by
  rcases h with ⟨hzero, hnone⟩ | ⟨e, hlast, hopen, hdir, hage, hle⟩
  · constructor
    · intro hs
      obtain ⟨e, hlast, _, hnear, hfirst⟩ := hs.last
      rcases hnone e hlast with hs' | hold
      · exact absurd hs' hfirst
      · omega
    · rintro ⟨heq, _⟩
      exact absurd (heq.trans hzero) hedge.1
  · rw [second_iff hedge hlast, hdir]
    constructor
    · rintro ⟨heq, _, _⟩
      exact ⟨heq.symm, hle⟩
    · rintro ⟨heq, _⟩
      exact ⟨heq.symm, by omega, hopen⟩

/-- **One frame**: the recogniser keeps track, and its hold latch is that of the frame. -/
theorem Tracks.tick {d : Nat → Int} {n : Nat} {s : DashTaps} (h : Tracks d n s) :
    Tracks d (n + 1) (s.tick (d n)) := by
  have hignore : s.age.ignoreUntilRelease = false := (age_ignore s).trans h.ignore
  have hprev : s.age.prevDir = before d n := (age_prevDir s).trans h.prev
  have htap := h.aged
  unfold DashTaps.tick DashTaps.press
  rw [hignore, if_neg Bool.false_ne_true]
  by_cases hzero : d n = 0
  · rw [if_pos hzero]
    refine ⟨rfl, rfl, ?_, htap.quiet fun hedge => hedge.1 hzero⟩
    exact ⟨fun hf => absurd hf Bool.false_ne_true, fun hf => absurd hf (full_neutral hzero)⟩
  · rw [if_neg hzero]
    by_cases hne : d n ≠ s.age.prevDir
    · rw [if_pos hne]
      have hedge : Edge d n := ⟨hzero, hprev ▸ hne⟩
      have hsecond := htap.second hedge
      split_ifs with hpair
      · -- a completed pair leaves no open tap
        refine ⟨rfl, rfl, ?_, Or.inl ⟨rfl, fun e hlast => Or.inl ?_⟩⟩
        · exact ⟨fun _ => (full_edge hedge).2 (hsecond.2 hpair), fun _ => rfl⟩
        · rw [hlast.unique (lastEdge_edge hedge)]
          exact hsecond.2 hpair
      · have hfirst := mt hsecond.1 hpair
        refine ⟨rfl, rfl, ?_, Or.inr ⟨n, lastEdge_edge hedge, hfirst, rfl, rfl, Nat.zero_le _⟩⟩
        exact ⟨fun hf => absurd hf Bool.false_ne_true,
          fun hf => absurd ((full_edge hedge).1 hf) hfirst⟩
    · rw [if_neg hne]
      have hquiet : ¬ Edge d n := fun hedge => hne (hprev ▸ hedge.2)
      refine ⟨rfl, hignore, ?_, htap.quiet hquiet⟩
      show s.age.fullHold = true ↔ _
      rw [age_fullHold, h.hold]
      exact (full_held hzero hquiet).symm

theorem tracks_reset (d : Nat → Int) : Tracks d 0 smwFalconResetDashTaps :=
  ⟨rfl, rfl, ⟨fun h => absurd h Bool.false_ne_true, False.elim⟩,
    Or.inl ⟨rfl, fun _ hlast => absurd hlast.1 (Nat.not_lt_zero _)⟩⟩

/-- The recogniser keeps track over every run in which no turn suppresses a press. -/
theorem tracks_run (s : InputState) (frames : Nat → InputFrame) (n : Nat)
    (hturn : ∀ t < n, (frames t).turned = false) :
    Tracks (directions frames) n (inputState s frames n).taps := by
  induction n with
  | zero => exact tracks_reset _
  | succ n ih =>
    have htick := (ih fun t ht => hturn t (by omega)).tick
    have hstep := step_taps (frames n) (inputState s frames n) (hturn n (Nat.lt_succ_self n))
    show Tracks _ _ ((frames n).step (inputState s frames n)).taps
    rw [hstep]
    exact ⟨htick.prev, htick.ignore, htick.hold, htick.tap⟩

theorem stick_of_hold (f : InputFrame) (s : InputState) :
    |(f.input s).1.stickX| =
      if f.dir = 0 then 0 else if (s.taps.tick f.dir).fullHold then 1 else 1 / 2 := by
  show |(if f.dir = 0 then 0
    else (f.dir : ℚ) * (if (s.taps.tick f.dir).fullHold then 1 else 1 / 2))| = _
  by_cases hzero : f.dir = 0
  · rw [if_pos hzero, if_pos hzero, abs_zero]
  · have habs : |(f.dir : ℚ)| = 1 := by
      rcases direction_cases (f.pad.read f.io).hold1 with h | h | h
      · exact absurd h hzero
      · rw [show f.dir = 1 from h]; norm_num
      · rw [show f.dir = -1 from h]; norm_num
    rw [if_neg hzero, if_neg hzero, abs_mul, habs, one_mul]
    split_ifs
    · exact abs_one
    · norm_num

/-- **Double tap**: from a reset, while no turn suppresses a press, the stick is full exactly in the
frames whose hold was taken up by the second edge of a pair, half in every other held frame and zero
at neutral. -/
theorem dash_double_tap (s : InputState) (frames : Nat → InputFrame) (n : Nat)
    (hturn : ∀ t < n, (frames t).turned = false) :
    (|(inputAt s frames n).stickX| = 1 ↔
      ∃ b, Began (directions frames) n b ∧ Second (directions frames) 15 b) ∧
    (directions frames n ≠ 0 →
      (¬ ∃ b, Began (directions frames) n b ∧ Second (directions frames) 15 b) →
      |(inputAt s frames n).stickX| = 1 / 2) ∧
    (directions frames n = 0 → (inputAt s frames n).stickX = 0) := by
  have htrack := (tracks_run s frames n hturn).tick
  have hhold : ((inputState s frames n).taps.tick (frames n).dir).fullHold = true ↔
      Full (directions frames) 15 n := htrack.hold
  have hstick := stick_of_hold (frames n) (inputState s frames n)
  refine ⟨?_, fun hheld hnone => ?_, fun hzero => ?_⟩
  · show |((frames n).input (inputState s frames n)).1.stickX| = 1 ↔ _
    rw [hstick]
    by_cases hzero : (frames n).dir = 0
    · rw [if_pos hzero]
      exact ⟨fun h => absurd h (by norm_num), fun h => absurd h (full_neutral hzero)⟩
    · rw [if_neg hzero, ← Full, ← hhold]
      split_ifs with hfull
      · exact ⟨fun _ => hfull, fun _ => rfl⟩
      · exact ⟨fun h => absurd h (by norm_num), fun h => absurd h hfull⟩
  · show |((frames n).input (inputState s frames n)).1.stickX| = 1 / 2
    rw [hstick, if_neg (show (frames n).dir ≠ 0 from hheld), if_neg fun hfull =>
      hnone (hhold.1 hfull)]
  · exact if_pos hzero

/-- Right, released, and right again from the third frame on. -/
def tapTwice (n : Nat) : InputFrame :=
  ⟨⟨⟨if n = 1 then 0x00 else 0x01, 0, 0, 0⟩, true⟩, ⟨0, 0, 0, 0⟩, 0, false⟩

theorem dash_double_tap_third :
    |(inputAt ⟨smwFalconResetDashTaps, ⟨⟨0, 0, 0, 0⟩, false⟩, 0⟩ tapTwice 2).stickX| = 1 := by
  have hd0 : directions tapTwice 0 = 1 := by decide
  have hd1 : directions tapTwice 1 = 0 := by decide
  have hd2 : directions tapTwice 2 = 1 := by decide
  have hedge : Edge (directions tapTwice) 2 := by
    refine ⟨by rw [hd2]; decide, ?_⟩
    show directions tapTwice 2 ≠ directions tapTwice 1
    rw [hd1, hd2]
    decide
  have hlast : LastEdge (directions tapTwice) 2 0 := by
    refine ⟨by decide, ⟨by rw [hd0]; decide, by rw [hd0]; decide⟩, fun u hu hu' hedge' => ?_⟩
    obtain rfl : u = 1 := by omega
    exact hedge'.1 hd1
  have hfirst : ¬ Second (directions tapTwice) 15 0 := fun h => by
    obtain ⟨e, he, _⟩ := h.last
    exact Nat.not_lt_zero e he.1
  refine (dash_double_tap _ tapTwice 2 fun _ _ => rfl).1.2 ⟨2, ⟨Nat.le_refl 2, hedge, ?_⟩, ?_⟩
  · intro u hu hu'
    omega
  · exact (second_iff hedge hlast).2 ⟨hd0.trans hd2.symm, by decide, hfirst⟩

end SmwRecomp.Falcon
