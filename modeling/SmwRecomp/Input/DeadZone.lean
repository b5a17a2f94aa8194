import Mathlib.Data.List.Induction
import Mathlib.Tactic.Linarith
import SmwRecomp.Input.Gamepads

/-!
# The stick's dead zone

What `HandleGamepadAxisInput` makes of a stick, over runs of the events of the main loop.

* `stickOf` — where a slot's stick stands, as the steps of a run report it.
* `stick_eq` — the two axes a slot keeps are where its stick stands.
* `Exact` — no direction is reported exactly inside the circle, and every signed operation of the
  test fits its type.
* `exact_iff` — every event of the left stick is exact unless both axes stand at their minimum,
  where the sum of the squares is one more than an `int` holds.
-/

set_option autoImplicit false

namespace SmwRecomp.Input

open Config

abbrev PadStep := Pads × PadEvent × Pads

/-- The values of an axis event are those of a `Sint16`. -/
def Int16Event : PadEvent → Prop
  | .axis _ _ value => -32768 ≤ value ∧ value ≤ 32767
  | _ => True

/-- The event is one of the left stick of the slot's gamepad. -/
def LeftStick (s : Pads) (k : Fin 2) : PadEvent → Prop
  | .axis id .leftX _ | .axis id .leftY _ => getGamepadInfo s id = some k
  | _ => False

/-- The stick's position after a step: an axis where it last reported, both at rest in a cleared
slot. -/
def moveStick (c : PadConfig) (k : Fin 2) (p : Int × Int) (x : PadStep) : Int × Int :=
  match x.2.1 with
  | .axis id .leftX value => if getGamepadInfo x.1 id = some k then (value, p.2) else p
  | .axis id .leftY value => if getGamepadInfo x.1 id = some k then (p.1, value) else p
  | e => if clearedSlot c x.1 e = some k then (0, 0) else p

def stickOf (c : PadConfig) (k : Fin 2) (steps : List PadStep) : Int × Int :=
  steps.foldl (moveStick c k) (0, 0)

theorem stickOf_snoc (c : PadConfig) (k : Fin 2) (steps : List PadStep) (x : PadStep) :
    stickOf c k (steps ++ [x]) = moveStick c k (stickOf c k steps) x := by
  unfold stickOf
  rw [List.foldl_append]
  rfl

/-- The stick stands strictly inside the circle of the dead zone. -/
def Inside (deadzone : UInt8) (p : Int × Int) : Prop :=
  p.1 ^ 2 + p.2 ^ 2 < (deadzone.toNat * 32767 / 100 : Int) ^ 2

def FitsInt (n : Int) : Prop := -2 ^ 31 ≤ n ∧ n < 2 ^ 31

/-- Every signed operation of the test gives a value of an `int`. -/
def TestFits (deadzone : UInt8) (p : Int × Int) : Prop :=
  FitsInt (deadzone.toNat * 32767) ∧ FitsInt (dzRadius deadzone) ∧
    FitsInt (dzRadius deadzone * dzRadius deadzone) ∧
    FitsInt (p.1 * p.1) ∧ FitsInt (p.2 * p.2) ∧ FitsInt (p.1 * p.1 + p.2 * p.2)

/-- The slot reports no direction exactly inside the circle, and the test computes in range. -/
def Exact (deadzone : UInt8) (gi : GamepadInfo) (p : Int × Int) : Prop :=
  (gi.axisButtons = 0 ↔ Inside deadzone p) ∧ TestFits deadzone p

/-! ## The axes a slot keeps -/

def stick (gi : GamepadInfo) : Int × Int := (gi.lastAxisX, gi.lastAxisY)

theorem set_stick {s : Pads} {k : Fin 2} {gi : GamepadInfo} (h : stick gi = stick (s.gamepad k))
    (k' : Fin 2) :
    stick ((s.set k gi).gamepad k') = stick (s.gamepad k') := by
  rw [set_gamepad]
  split
  case isTrue heq =>
    subst heq
    exact h
  case isFalse => rfl

theorem sendLastCmd_stick {c : PadConfig} {s : Pads} {k : Fin 2} {gi : GamepadInfo} {b : GamepadBtn}
    {pressed : Bool}
    (h : stick gi = stick (s.gamepad k)) (k' : Fin 2) :
    stick ((sendLastCmd c s k gi b pressed).gamepad k') = stick (s.gamepad k') := by
  have hgamepad : (sendLastCmd c s k gi b pressed).gamepad = (s.set k gi).gamepad := by
    unfold sendLastCmd setPadButtonOrFallthrough
    split
    · split <;> rfl
    · rfl
  rw [hgamepad]
  exact set_stick h k'

/-- A button moves no stick. -/
theorem handleGamepadInput_stick {c : PadConfig} {s s' : Pads} {k : Fin 2} {b : GamepadBtn}
    {pressed : Bool}
    (h : handleGamepadInput c s k b pressed = .ok s') (k' : Fin 2) :
    stick (s'.gamepad k') = stick (s.gamepad k') := by
  unfold handleGamepadInput at h
  by_cases hsame : bit (s.gamepad k).modifiers b = pressed
  · rw [if_pos hsame] at h
    cases h
    rfl
  · rw [if_neg hsame] at h
    cases pressed with
    | true =>
        simp only [if_true] at h
        cases hfind : findCmdForGamepadButton c.map ⟨b + (s.gamepad k).index * kGamepadBtnCount, by
            simp only [kGamepadBtnCount]; omega⟩ ((s.gamepad k).modifiers ^^^ mask b) with
        | error halt =>
            rw [hfind] at h
            cases h
        | ok cmd =>
            rw [hfind] at h
            cases h
            refine sendLastCmd_stick ?_ k'
            rfl
    | false =>
        cases h
        refine sendLastCmd_stick ?_ k'
        rfl

theorem handleTrigger_stick {c : PadConfig} {s s' : Pads} {k : Fin 2} {axis : SdlAxis} {value : Int}
    (haxis : axis ≠ .leftX ∧ axis ≠ .leftY) (h : handleGamepadAxisInput c s k axis value = .ok s')
    (k' : Fin 2) :
    stick (s'.gamepad k') = stick (s.gamepad k') := by
  cases axis with
  | leftX => exact absurd rfl haxis.1
  | leftY => exact absurd rfl haxis.2
  | triggerLeft | triggerRight =>
      simp only [handleGamepadAxisInput] at h
      split at h
      · exact handleGamepadInput_stick h k'
      · cases h
        rfl
  | other =>
      cases h
      rfl

theorem clear_stick {s : Pads} {j : Fin 2} {gi : GamepadInfo}
    (hgi : stick gi = (0, 0)) (k : Fin 2) :
    stick ((s.set j gi).gamepad k) = if some j = some k then (0, 0) else stick (s.gamepad k) := by
  rw [set_gamepad]
  by_cases hk : k = j
  · subst hk
    rw [if_pos rfl, if_pos rfl, hgi]
  · rw [if_neg hk, if_neg fun h => hk (Option.some.inj h).symm]

/-- One event moves the stick of a slot as the event says. -/
theorem handlePadEvent_stick {c : PadConfig} {s s' : Pads} {e : PadEvent}
    (h : handlePadEvent c s e = .ok s')
    (k : Fin 2) : stick (s'.gamepad k) = moveStick c k (stick (s.gamepad k)) (s, e, s') := by
  cases e with
  | added controller =>
      rcases controller with _ | ⟨id, playerIndex⟩
      · cases h
        rfl
      · simp only [handlePadEvent, openOneGamepad_eq] at h
        simp only [moveStick]
        cases hslot : clearedSlot c s (.added (some (id, playerIndex))) with
        | none =>
            rw [hslot] at h
            cases h
            rfl
        | some j =>
            rw [hslot] at h
            cases h
            exact clear_stick rfl k
  | removed id =>
      change stick (s'.gamepad k) = if getGamepadInfo s id = some k then (0, 0)
        else stick (s.gamepad k)
      simp only [handlePadEvent] at h
      cases hid : getGamepadInfo s id with
      | none =>
          rw [hid] at h
          cases h
          rfl
      | some j =>
          rw [hid] at h
          cases h
          exact clear_stick rfl k
  | axis id axis value =>
      cases hid : getGamepadInfo s id with
      | none =>
          simp only [handlePadEvent, hid] at h
          cases h
          cases axis <;> simp [moveStick, hid, clearedSlot]
      | some j =>
          simp only [handlePadEvent, hid] at h
          cases axis with
          | leftX | leftY =>
              cases h
              rw [set_gamepad]
              by_cases hk : k = j
              · subst hk
                simp [moveStick, hid, stick]
              · have hne : ¬ j = k := fun heq => hk heq.symm
                simp [moveStick, hid, hk, hne]
          | triggerLeft | triggerRight | other => exact handleTrigger_stick (by decide) h k
  | button id button pressed =>
      change stick (s'.gamepad k) = stick (s.gamepad k)
      cases hid : getGamepadInfo s id with
      | none =>
          simp only [handlePadEvent, hid] at h
          cases h
          rfl
      | some j =>
          simp only [handlePadEvent, hid] at h
          cases hb : remapSdlButton button with
          | none =>
              rw [hb] at h
              cases h
              rfl
          | some b =>
              rw [hb] at h
              exact handleGamepadInput_stick h k

/-- In a run from two empty slots, a slot keeps where its stick stands. -/
theorem stick_eq {c : PadConfig} {host : Host} {t : Pads} {steps : List PadStep}
    (h : Run (fun s e s' => handlePadEvent c s e = .ok s') (.start host) steps t) (k : Fin 2) :
    stick (t.gamepad k) = stickOf c k steps :=
  h.history (P := fun steps t => stick (t.gamepad k) = stickOf c k steps) rfl fun before u e v
    hu hstep => by
    rw [stickOf_snoc, ← hu]
    exact handlePadEvent_stick hstep k

/-- The axes stay those of a `Sint16`. -/
theorem stickOf_int16 {c : PadConfig} {k : Fin 2} {steps : List PadStep}
    (h : ∀ x ∈ steps, Int16Event x.2.1) :
    (-32768 ≤ (stickOf c k steps).1 ∧ (stickOf c k steps).1 ≤ 32767) ∧
      -32768 ≤ (stickOf c k steps).2 ∧ (stickOf c k steps).2 ≤ 32767 := by
  induction steps using List.reverseRecOn with
  | nil => simp [stickOf]
  | append_singleton steps x ih =>
      obtain ⟨hx, hy⟩ := ih fun y hy => h y (List.mem_append_left _ hy)
      have hvalue := h x (List.mem_append_right _ (List.mem_singleton_self x))
      rw [stickOf_snoc]
      obtain ⟨s, e, s'⟩ := x
      cases e with
      | axis id axis value =>
          cases axis with
          | leftX =>
              simp only [moveStick]
              split
              · exact ⟨hvalue, hy⟩
              · exact ⟨hx, hy⟩
          | leftY =>
              simp only [moveStick]
              split
              · exact ⟨hx, hvalue⟩
              · exact ⟨hx, hy⟩
          | triggerLeft | triggerRight | other => exact ⟨hx, hy⟩
      | added controller | removed id | button id button pressed =>
          simp only [moveStick]
          split
          · decide
          · exact ⟨hx, hy⟩

/-! ## The test -/

theorem kSegmentToButtons_ne_zero (angle : UInt8) :
    kSegmentToButtons.getD (angle >>> 5).toNat 0 ≠ 0 := by
  have hlt : (angle >>> 5).toNat < 8 := by
    have := angle.toNat_lt
    rw [UInt8.toNat_shiftRight, Nat.shiftRight_eq_div_pow]
    exact Nat.div_lt_of_lt_mul this
  generalize (angle >>> 5).toNat = i at hlt
  revert i
  decide

/-- After an event of its left stick a slot reports no direction where the wrapped sum says so. -/
theorem axisButtons_eq_zero {c : PadConfig} {s s' : Pads} {e : PadEvent} {k : Fin 2}
    (h : handlePadEvent c s e = .ok s') (hleft : LeftStick s k e) :
    (s'.gamepad k).axisButtons = 0 ↔
      wrap32 ((stick (s'.gamepad k)).1 * (stick (s'.gamepad k)).1 + (stick (s'.gamepad k)).2 *
        (stick (s'.gamepad k)).2) <
        dzRadius (c.deadzone k) * dzRadius (c.deadzone k) := by
  have htest : ∀ {test : Prop} [Decidable test] {angle : UInt8},
      (if test then kSegmentToButtons.getD (angle >>> 5).toNat 0 else 0) = (0 : UInt8) ↔
      ¬ test := by
    intro test _ angle
    split
    case isTrue ht => exact iff_of_false (kSegmentToButtons_ne_zero angle) (not_not_intro ht)
    case isFalse hf => exact iff_of_true rfl hf
  match e, hleft with
  | .axis id .leftX value, hid | .axis id .leftY value, hid =>
      simp only [LeftStick] at hid
      simp only [handlePadEvent, hid] at h
      cases h
      rw [set_gamepad, if_pos rfl]
      exact htest.trans not_le

theorem dzRadius_le {deadzone : UInt8} (h : deadzone.toNat ≤ 100) :
    0 ≤ dzRadius deadzone ∧ dzRadius deadzone ≤ 32767 := by
  unfold dzRadius
  omega

theorem sq_le_of_int16 {n : Int} (hlow : -32768 ≤ n) (hhigh : n ≤ 32767) : n * n ≤ 1073741824 := by
  nlinarith

theorem sq_le_of_inner {n : Int} (hlow : -32768 < n) (hhigh : n ≤ 32767) : n * n ≤ 1073676289 := by
  nlinarith

/-- One corner apart, the sum of the squares fits an `int`. -/
theorem sum_fits {p : Int × Int} (hx : -32768 ≤ p.1 ∧ p.1 ≤ 32767) (hy : -32768 ≤ p.2 ∧ p.2 ≤ 32767)
    (hp : p ≠ (-32768, -32768)) : p.1 * p.1 + p.2 * p.2 ≤ 2147483647 := by
  have hxx := sq_le_of_int16 hx.1 hx.2
  have hyy := sq_le_of_int16 hy.1 hy.2
  by_cases hcorner : p.1 = -32768
  · have hy' : p.2 ≠ -32768 := fun h => hp (Prod.ext hcorner h)
    have := sq_le_of_inner (lt_of_le_of_ne hy.1 hy'.symm) hy.2
    omega
  · have := sq_le_of_inner (lt_of_le_of_ne hx.1 (Ne.symm hcorner)) hx.2
    omega

/-- The test against the wrapped sum is exact but at the corner. -/
theorem exact_of_test {deadzone : UInt8} {gi : GamepadInfo} {p : Int × Int}
    (hdz : deadzone.toNat ≤ 100)
    (hx : -32768 ≤ p.1 ∧ p.1 ≤ 32767) (hy : -32768 ≤ p.2 ∧ p.2 ≤ 32767)
    (htest : gi.axisButtons = 0 ↔ wrap32 (p.1 * p.1 + p.2 * p.2) < dzRadius deadzone *
      dzRadius deadzone) :
    Exact deadzone gi p ↔ p ≠ (-32768, -32768) := by
  constructor
  · rintro ⟨-, -, -, -, -, -, -, hsum⟩ rfl
    exact absurd hsum (by decide)
  · intro hp
    obtain ⟨hr0, hr1⟩ := dzRadius_le hdz
    have hrr : dzRadius deadzone * dzRadius deadzone ≤ 1073676289 := sq_le_of_inner (by omega) hr1
    have hrr0 := mul_self_nonneg (dzRadius deadzone)
    have hxx := sq_le_of_int16 hx.1 hx.2
    have hyy := sq_le_of_int16 hy.1 hy.2
    have hxx0 := mul_self_nonneg p.1
    have hyy0 := mul_self_nonneg p.2
    have hsum := sum_fits hx hy hp
    refine ⟨?_, ?_⟩
    · rw [htest, wrap32_of_fits (by omega) hsum]
      unfold Inside
      rw [sq, sq, sq]
      rfl
    · unfold TestFits FitsInt
      refine ⟨?_, ?_, ?_, ?_, ?_, ?_⟩ <;> omega

/-- In a run from two empty slots, with `Sint16` values and a dead zone of at most 100 percent. -/
theorem exact_iff {c : PadConfig} {host : Host} {t : Pads} {steps : List PadStep}
    (hdz : ∀ k, (c.deadzone k).toNat ≤ 100)
    (h : Run (fun s e s' => handlePadEvent c s e = .ok s') (.start host) steps t)
    (hvalues : ∀ x ∈ steps, Int16Event x.2.1) {before after : List PadStep} {s s' : Pads}
    {e : PadEvent} {k : Fin 2}
    (hsteps : steps = before ++ (s, e, s') :: after) (hleft : LeftStick s k e) :
    Exact (c.deadzone k) (s'.gamepad k) (stickOf c k (before ++ [(s, e, s')])) ↔
      stickOf c k (before ++ [(s, e, s')]) ≠ (-32768, -32768) := by
  subst hsteps
  obtain ⟨hbefore, hstep, -⟩ := h.split
  have hstick := stick_eq (hbefore.append (.cons hstep (.nil s'))) k
  obtain ⟨hx, hy⟩ := stickOf_int16 (c := c) (k := k) fun x (hx : x ∈ before ++ [(s, e, s')]) =>
    hvalues x (by
    rw [List.append_cons]
    exact List.mem_append_left _ hx)
  refine exact_of_test (hdz k) hx hy ?_
  rw [← hstick]
  exact axisButtons_eq_zero hstep hleft

/-- A gamepad in the first slot. -/
def plugged : Pads := openOneGamepad oneButton (.start quiet) 7 0

section

local instance leftSlot : NeZero 2 := ⟨Nat.succ_ne_zero 1⟩

/-- Its stick pushed to the right. -/
def pushed : Pads :=
  plugged.set 0 { plugged.gamepad 0 with lastAxisX := 20000, axisButtons := 0x80 }

end

def pushRight : List PadStep :=
  [(.start quiet, .added (some (7, 0)), plugged), (plugged, .axis 7 .leftX 20000, pushed)]

theorem exact_iff_right :
    Run (fun s e s' => handlePadEvent oneButton s e = .ok s') (.start quiet) pushRight pushed ∧
    (Exact (oneButton.deadzone 0) (pushed.gamepad 0) (stickOf oneButton 0 pushRight) ↔
      stickOf oneButton 0 pushRight ≠ (-32768, -32768)) := by
  have hrun : Run (fun s e s' => handlePadEvent oneButton s e = .ok s')
    (.start quiet) pushRight pushed :=
    .cons rfl (.cons rfl (.nil _))
  have hvalues : ∀ x ∈ pushRight, Int16Event x.2.1 := by simp [pushRight, Int16Event]
  have hslot : LeftStick plugged 0 (.axis 7 .leftX 20000) := rfl
  have hdz : ∀ k, (oneButton.deadzone k).toNat ≤ 100 := by decide
  have hsteps : pushRight =
      [(.start quiet, .added (some (7, 0)), plugged)] ++ (plugged, .axis 7 .leftX 20000, pushed) ::
        [] := rfl
  have hexact := exact_iff hdz hrun hvalues hsteps hslot
  exact ⟨hrun, hexact⟩

/-- Both axes at their minimum: no direction, however small the dead zone. -/
theorem silent_corner : ∃ steps t,
    Run (fun s e s' => handlePadEvent oneButton s e = .ok s') (.start quiet) steps t ∧
      steps.map (fun x => x.2.1) = [.added (some (7, 0)), .axis 7 .leftX (-32768),
        .axis 7 .leftY (-32768)] ∧
      (t.gamepad 0).axisButtons = 0 ∧ ¬ Inside (oneButton.deadzone 0) (stickOf oneButton 0 steps) ∧
      ¬ Exact (oneButton.deadzone 0) (t.gamepad 0) (stickOf oneButton 0 steps) := by
  refine ⟨[_, _, _], _, .cons rfl (.cons rfl (.cons rfl (.nil _))), rfl, by decide, ?_, ?_⟩
  · unfold Inside
    decide
  · rintro ⟨-, -, -, -, -, -, -, hsum⟩
    exact absurd hsum (by decide)

end SmwRecomp.Input
