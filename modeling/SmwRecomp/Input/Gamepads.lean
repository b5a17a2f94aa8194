import SmwRecomp.Config.GamepadMap
import SmwRecomp.Input.Commands
import SmwRecomp.Lib.Checked

/-!
# Gamepads

Model of the controller events of the main loop (`main.c`): `OpenOneGamepad`, `GetGamepadInfo`,
`HandleGamepadInput`, `HandleGamepadAxisInput`, `SetPadButtonOrFallthrough`.

* Two slots of gamepads, each with the buttons it holds (`modifiers`) and the command every button
  was pressed as (`lastCmd`); one word `padButtons` of the controller bits they set.
* `OwnsBit` — a slot's gamepad holds a button that was pressed as the command of a bit.
* `noStuckInput_iff` — over a run of events every bit stays owned exactly when no slot is cleared
  under a button whose bit is still set: unplugging a gamepad, and giving its slot to another,
  forget what it holds without releasing it.

The angle of the stick is a float computation, and a parameter. The sum of the two squares of an
axis event is an `int`, which wraps at the corner where both axes stand at -32768.
-/

set_option autoImplicit false

namespace SmwRecomp.Input

open Config

abbrev GamepadBtn := Fin 17

local instance buttons : NeZero 17 := ⟨Nat.succ_ne_zero 16⟩
local instance slots : NeZero 2 := ⟨Nat.succ_ne_zero 1⟩

def kGamepadBtnL2 : GamepadBtn := 15
def kGamepadBtnR2 : GamepadBtn := 16

/-- The buttons SDL knows. -/
inductive SdlButton where
  | a | b | x | y | back | guide | start | leftStick | rightStick | leftShoulder | rightShoulder
  | dpadUp | dpadDown | dpadLeft | dpadRight | other
  deriving DecidableEq, Repr

def remapSdlButton : SdlButton → Option GamepadBtn
  | .a => some 0
  | .b => some 1
  | .x => some 2
  | .y => some 3
  | .back => some 4
  | .guide => some 5
  | .start => some 6
  | .leftStick => some 7
  | .rightStick => some 8
  | .leftShoulder => some 9
  | .rightShoulder => some 10
  | .dpadUp => some 11
  | .dpadDown => some 12
  | .dpadLeft => some 13
  | .dpadRight => some 14
  | .other => none

inductive SdlAxis where
  | leftX | leftY | triggerLeft | triggerRight | other
  deriving DecidableEq, Repr

structure GamepadInfo where
  modifiers : UInt32
  joystickId : Int
  index : Fin 2
  axisButtons : UInt8
  lastCmd : GamepadBtn → UInt16
  lastAxisX : Int
  lastAxisY : Int

/-- `memset(gi, 0, sizeof(GamepadInfo))`. -/
def GamepadInfo.zero : GamepadInfo := ⟨0, 0, 0, 0, fun _ => 0, 0, 0⟩

structure Pads where
  gamepad : Fin 2 → GamepadInfo
  padButtons : UInt32
  host : Host

/-- The start of the main loop: both slots empty. -/
def Pads.start (host : Host) : Pads :=
  ⟨fun _ => { GamepadInfo.zero with joystickId := -1 }, 0, host⟩

/-- What the handlers are given: the session, the bindings, the configuration of the slots and the
stick's angle. -/
structure PadConfig where
  session : Session
  map : GamepadMap
  enableGamepad : Fin 2 → Bool
  deadzone : Fin 2 → UInt8
  angle : Int → Int → UInt8

def getGamepadInfo (s : Pads) (id : Nat) : Option (Fin 2) :=
  if (s.gamepad 0).joystickId = id then some 0
  else if (s.gamepad 1).joystickId = id then some 1
  else none

def Pads.set (s : Pads) (k : Fin 2) (gi : GamepadInfo) : Pads :=
  { s with gamepad := Function.update s.gamepad k gi }

/-- The slots in the order they are tried; the first try takes the slot even if it is occupied. -/
def foundIdx (c : PadConfig) (s : Pads) (playerIndex : Int) : Option (Fin 2) :=
  let preferred := (playerIndex % 256).toNat
  if h : preferred < 2 ∧ c.enableGamepad (Fin.ofNat 2 preferred) then some ⟨preferred, h.1⟩
  else if c.enableGamepad 0 ∧ (s.gamepad 0).joystickId = -1 then some 0
  else if c.enableGamepad 1 ∧ (s.gamepad 1).joystickId = -1 then some 1
  else none

/-- `OpenOneGamepad` of a controller that SDL opens, with its instance id and its player index. -/
def openOneGamepad (c : PadConfig) (s : Pads) (id : Nat) (playerIndex : Int) : Pads :=
  match getGamepadInfo s id with
  | some _ => s
  | none =>
    match foundIdx c s playerIndex with
    | some k => s.set k { GamepadInfo.zero with index := k, joystickId := id }
    | none => s

def setPadButtonOrFallthrough (c : PadConfig) (s : Pads) (j : Nat) (pressed : Bool) : Pads :=
  match controlBit j with
  | some k => { s with padButtons := assignBit s.padButtons k pressed }
  | none => { s with host := handleCommand c.session s.host j pressed }

/-- The slot's record is stored, and the command the button was pressed as takes effect. -/
def sendLastCmd (c : PadConfig) (s : Pads) (k : Fin 2) (gi : GamepadInfo) (button : GamepadBtn)
    (pressed : Bool) : Pads :=
  if gi.lastCmd button ≠ 0 then setPadButtonOrFallthrough c (s.set k gi)
    (gi.lastCmd button).toNat pressed
  else s.set k gi

/-- The second gamepad has the second half of the buttons. -/
theorem gamepadHalf (button : GamepadBtn) (gi : GamepadInfo) :
    (button : Nat) + (gi.index : Nat) * kGamepadBtnCount < kGamepadBtnCount * 2 := by
  simp only [kGamepadBtnCount]
  omega

def handleGamepadInput (c : PadConfig) (s : Pads) (k : Fin 2) (button : GamepadBtn)
    (pressed : Bool) : Outcome Pads :=
  let gi := s.gamepad k
  if bit gi.modifiers button = pressed then .ok s
  else do
    let gi := { gi with modifiers := gi.modifiers ^^^ mask button }
    let gi ←
      if pressed then do
        let cmd ← findCmdForGamepadButton c.map
          ⟨button + gi.index * kGamepadBtnCount, by exact gamepadHalf button gi⟩ gi.modifiers
        .ok { gi with lastCmd := Function.update gi.lastCmd button cmd }
      else .ok gi
    .ok (sendLastCmd c s k gi button pressed)

/-- Up, right, down and left are the bits 4, 7, 5 and 6. -/
def kSegmentToButtons : List UInt8 := [0x10, 0x90, 0x80, 0xA0, 0x20, 0x60, 0x40, 0x50]

/-- The radius of the dead zone, as a share of the stick's range. -/
def dzRadius (deadzone : UInt8) : Int := deadzone.toNat * 32767 / 100

def handleGamepadAxisInput (c : PadConfig) (s : Pads) (k : Fin 2) (axis : SdlAxis) (value : Int) :
    Outcome Pads :=
  let gi := s.gamepad k
  match axis with
  | .leftX | .leftY =>
    let gi := if axis = .leftX then { gi with lastAxisX := value }
      else { gi with lastAxisY := value }
    let radius := dzRadius (c.deadzone k)
    let buttons :=
      if wrap32 (gi.lastAxisX * gi.lastAxisX + gi.lastAxisY * gi.lastAxisY) ≥ radius * radius then
        kSegmentToButtons.getD ((c.angle gi.lastAxisY gi.lastAxisX + 16 + 64) >>> 5).toNat 0
      else 0
    .ok (s.set k { gi with axisButtons := buttons })
  | .triggerLeft | .triggerRight =>
    if value < 12000 ∨ value ≥ 16000 then
      handleGamepadInput c s k (if axis = .triggerLeft then kGamepadBtnL2 else kGamepadBtnR2)
        (decide (value ≥ 12000))
    else .ok s
  | .other => .ok s

/-- The controller events; an added device that is no controller, or cannot be opened, comes to
nothing. -/
inductive PadEvent where
  | added (controller : Option (Nat × Int))
  | removed (id : Nat)
  | axis (id : Nat) (axis : SdlAxis) (value : Int)
  | button (id : Nat) (button : SdlButton) (pressed : Bool)
  deriving DecidableEq, Repr

def handlePadEvent (c : PadConfig) (s : Pads) : PadEvent → Outcome Pads
  | .added none => .ok s
  | .added (some (id, playerIndex)) => .ok (openOneGamepad c s id playerIndex)
  | .removed id =>
    match getGamepadInfo s id with
    | some k => .ok (s.set k { GamepadInfo.zero with joystickId := -1 })
    | none => .ok s
  | .axis id axis value =>
    match getGamepadInfo s id with
    | some k => handleGamepadAxisInput c s k axis value
    | none => .ok s
  | .button id button pressed =>
    match getGamepadInfo s id with
    | some k =>
      match remapSdlButton button with
      | some b => handleGamepadInput c s k b pressed
      | none => .ok s
    | none => .ok s

/-! ## Who owns a bit -/

def Holds (gi : GamepadInfo) (b : GamepadBtn) : Prop :=
  gi.joystickId ≠ -1 ∧ bit gi.modifiers b = true

/-- The gamepad of the slot holds a button that was pressed as the command of the bit. -/
def OwnsBit (gi : GamepadInfo) (i : Nat) : Prop :=
  ∃ b, Holds gi b ∧ controlBit (gi.lastCmd b).toNat = some i

/-- Every controller bit that is set belongs to a held button; none is set where no button is held.
-/
def NoStuckInput (s : Pads) : Prop :=
  (∀ i, bit s.padButtons i = true → ∃ k, OwnsBit (s.gamepad k) i) ∧
    ((∀ k b, ¬ Holds (s.gamepad k) b) → s.padButtons = 0)

theorem noStuckInput_of_owned {s : Pads}
    (h : ∀ i, bit s.padButtons i = true → ∃ k, OwnsBit (s.gamepad k) i) :
    NoStuckInput s := by
  refine ⟨h, fun hnone => eq_zero_of_bits fun i => ?_⟩
  rw [← Bool.not_eq_true]
  intro hi
  obtain ⟨k, b, hb, -⟩ := h i hi
  exact hnone k b hb

/-- The slot an event clears: that of the removed gamepad, or the one the added gamepad is given. -/
def clearedSlot (c : PadConfig) (s : Pads) : PadEvent → Option (Fin 2)
  | .added (some (id, playerIndex)) => if getGamepadInfo s id = none then foundIdx c s playerIndex
      else none
  | .removed id => getGamepadInfo s id
  | _ => none

/-- Where an event clears a slot, every set bit of a button held there belongs to the other slot
too. -/
def ClearsNoBit (c : PadConfig) (s : Pads) (e : PadEvent) : Prop :=
  ∀ k, clearedSlot c s e = some k → ∀ i, OwnsBit (s.gamepad k) i → bit s.padButtons i = true →
    ∃ k', k' ≠ k ∧ OwnsBit (s.gamepad k') i

theorem bit_toggle (w : UInt32) (b : GamepadBtn) (i : Nat) :
    bit (w ^^^ mask b) i = if b.val = i then !bit w i else bit w i := by
  have hmask := bit_mask b.val i
  have hlt : b.val < 32 := Nat.lt_of_lt_of_le b.isLt (by decide)
  unfold bit at hmask ⊢
  rw [UInt32.toBitVec_xor, BitVec.getLsbD_xor, hmask]
  by_cases hi : b.val = i
  · simp [hi, hi ▸ hlt]
  · simp [hi]

theorem getGamepadInfo_occupied {s : Pads} {id : Nat} {k : Fin 2}
    (h : getGamepadInfo s id = some k) :
    (s.gamepad k).joystickId ≠ -1 := by
  unfold getGamepadInfo at h
  split at h
  · cases h
    omega
  · split at h
    · cases h
      omega
    · cases h

@[simp] theorem set_padButtons (s : Pads) (k : Fin 2) (gi : GamepadInfo) :
    (s.set k gi).padButtons = s.padButtons := rfl

theorem set_gamepad (s : Pads) (k k' : Fin 2) (gi : GamepadInfo) :
    (s.set k gi).gamepad k' = if k' = k then gi else s.gamepad k' := by
  by_cases h : k' = k
  · subst h
    simp [Pads.set]
  · simp [Pads.set, h]

/-- A slot is cleared: the bits stay owned exactly when the other slot owns those it held. -/
theorem noStuck_clear {s : Pads} {k : Fin 2} {gi : GamepadInfo} (hs : NoStuckInput s)
    (hgi : gi.modifiers = 0) :
    NoStuckInput (s.set k gi) ↔ ∀ i, OwnsBit (s.gamepad k) i → bit s.padButtons i = true →
      ∃ k', k' ≠ k ∧ OwnsBit (s.gamepad k') i := by
  have hnone : ∀ i, ¬ OwnsBit gi i := by
    rintro i ⟨b, ⟨-, hb⟩, -⟩
    rw [hgi, bit_zero] at hb
    cases hb
  have howns : ∀ k' i, OwnsBit ((s.set k gi).gamepad k') i ↔ k' ≠ k ∧ OwnsBit (s.gamepad k') i := by
    intro k' i
    rw [set_gamepad]
    by_cases hk : k' = k
    · simp [hk, hnone]
    · simp [hk]
  constructor
  · intro h i _ hi
    obtain ⟨k', hk'⟩ := h.1 i hi
    exact ⟨k', (howns k' i).1 hk'⟩
  · intro h
    refine noStuckInput_of_owned ?_
    intro i hi
    obtain ⟨k', hk'⟩ := hs.1 i hi
    by_cases hk : k' = k
    · subst hk
      obtain ⟨k'', hk''⟩ := h i hk' hi
      exact ⟨k'', (howns k'' i).2 hk''⟩
    · exact ⟨k', (howns k' i).2 ⟨hk, hk'⟩⟩

/-- What another button of the gamepad owns, it goes on owning. -/
theorem owns_update {gi gi' : GamepadInfo} {b : GamepadBtn} {i : Nat} (h : OwnsBit gi i)
    (hb : ¬ (Holds gi b ∧ controlBit (gi.lastCmd b).toNat = some i))
    (hid : gi'.joystickId = gi.joystickId)
    (hbits : ∀ b', b' ≠ b → bit gi'.modifiers b' = bit gi.modifiers b')
    (hcmds : ∀ b', b' ≠ b → gi'.lastCmd b' = gi.lastCmd b') : OwnsBit gi' i := by
  obtain ⟨b', ⟨hocc, hheld⟩, hcmd⟩ := h
  have hne : b' ≠ b := by
    rintro rfl
    exact hb ⟨⟨hocc, hheld⟩, hcmd⟩
  refine ⟨b', ⟨hid ▸ hocc, ?_⟩, ?_⟩
  · rw [hbits b' hne]
    exact hheld
  · rw [hcmds b' hne]
    exact hcmd

/-- The command of a button that goes down or up: its bit is the button's, the others stay owned. -/
theorem noStuck_assign {c : PadConfig} {s : Pads} {k : Fin 2} {gi : GamepadInfo} {b : GamepadBtn}
    {pressed : Bool}
    (hcmd : gi.lastCmd b ≠ 0 → pressed = true → Holds gi b)
    (hkeep : ∀ i, controlBit (gi.lastCmd b).toNat ≠ some i → bit s.padButtons i = true →
      ∃ k', OwnsBit ((s.set k gi).gamepad k') i) :
    NoStuckInput (sendLastCmd c s k gi b pressed) := by
  have hzero : gi.lastCmd b = 0 → controlBit (gi.lastCmd b).toNat = none := by
    intro h
    rw [h]
    decide
  unfold sendLastCmd
  split
  case isFalse h =>
    rw [not_not] at h
    refine noStuckInput_of_owned fun i hi => hkeep i ?_ hi
    rw [hzero h]
    exact nofun
  case isTrue h =>
    unfold setPadButtonOrFallthrough
    cases hbit : controlBit (gi.lastCmd b).toNat with
    | none =>
        refine noStuckInput_of_owned fun i hi => hkeep i ?_ hi
        rw [hbit]
        exact nofun
    | some i₀ =>
        refine noStuckInput_of_owned fun i hi => ?_
        change bit (assignBit s.padButtons i₀ pressed) i = true at hi
        rw [bit_assign (controlBit_lt hbit)] at hi
        by_cases hi₀ : i₀ = i
        · rw [if_pos hi₀] at hi
          subst hi₀
          refine ⟨k, b, ?_, ?_⟩
          · change Holds ((s.set k gi).gamepad k) b
            rw [set_gamepad, if_pos rfl]
            exact hcmd h hi
          · change controlBit (((s.set k gi).gamepad k).lastCmd b).toNat = some i₀
            rw [set_gamepad, if_pos rfl]
            exact hbit
        · rw [if_neg hi₀] at hi
          exact hkeep i (by rw [hbit]; exact fun heq => hi₀ (Option.some.inj heq)) hi

/-- What a slot owned stays owned when its record is replaced by one that owns it. -/
theorem owned_set {s : Pads} {k : Fin 2} {gi : GamepadInfo} {i : Nat}
    (h : ∃ k', OwnsBit (s.gamepad k') i)
    (hk : OwnsBit (s.gamepad k) i → OwnsBit gi i) : ∃ k', OwnsBit ((s.set k gi).gamepad k') i := by
  obtain ⟨k', hk'⟩ := h
  refine ⟨k', ?_⟩
  rw [set_gamepad]
  split
  case isTrue heq =>
    subst heq
    exact hk hk'
  case isFalse => exact hk'

/-- A button that goes down or up leaves every set bit with an owner. -/
theorem handleGamepadInput_noStuck {c : PadConfig} {s s' : Pads} {k : Fin 2} {b : GamepadBtn}
    {pressed : Bool}
    (hs : NoStuckInput s) (hk : (s.gamepad k).joystickId ≠ -1)
    (h : handleGamepadInput c s k b pressed = .ok s') : NoStuckInput s' := by
  unfold handleGamepadInput at h
  by_cases hsame : bit (s.gamepad k).modifiers b = pressed
  · rw [if_pos hsame] at h
    cases h
    exact hs
  · rw [if_neg hsame] at h
    have hothers : ∀ b' : GamepadBtn, b' ≠ b →
        bit ((s.gamepad k).modifiers ^^^ mask b) b' = bit (s.gamepad k).modifiers b' := by
      intro b' hb'
      rw [bit_toggle, if_neg fun heq => hb' (Fin.ext heq.symm)]
    have hself : bit ((s.gamepad k).modifiers ^^^ mask b) b = !bit (s.gamepad k).modifiers b := by
      rw [bit_toggle, if_pos rfl]
    cases pressed with
    | true =>
        have hup : bit (s.gamepad k).modifiers b = false := by simpa using hsame
        simp only [if_true] at h
        cases hfind : findCmdForGamepadButton c.map
            ⟨b + (s.gamepad k).index * kGamepadBtnCount, gamepadHalf b (s.gamepad k)⟩
            ((s.gamepad k).modifiers ^^^ mask b) with
        | error halt =>
            rw [hfind] at h
            cases h
        | ok cmd =>
            rw [hfind] at h
            simp only [outcome_bind] at h
            cases h
            refine noStuck_assign (fun _ _ => ⟨hk, by rw [hself, hup]; rfl⟩) fun i _ hi => ?_
            refine owned_set (hs.1 i hi) fun hown => ?_
            refine owns_update (b := b) hown ?_ rfl hothers
              (fun b' hb' => Function.update_of_ne hb' _ _)
            rintro ⟨⟨-, hheld⟩, -⟩
            rw [hup] at hheld
            cases hheld
    | false =>
        simp only [Bool.false_eq_true, if_false, outcome_bind] at h
        cases h
        refine noStuck_assign (fun _ hp => nomatch hp) fun i hne hi => ?_
        refine owned_set (hs.1 i hi) fun hown => ?_
        exact owns_update (b := b) hown (fun hb => hne hb.2) rfl hothers (fun _ _ => rfl)

theorem handleGamepadAxisInput_noStuck {c : PadConfig} {s s' : Pads} {k : Fin 2}
    {axis : SdlAxis} {value : Int}
    (hs : NoStuckInput s) (hk : (s.gamepad k).joystickId ≠ -1)
    (h : handleGamepadAxisInput c s k axis value = .ok s') : NoStuckInput s' := by
  have hstick : ∀ gi : GamepadInfo, gi.modifiers = (s.gamepad k).modifiers →
    gi.lastCmd = (s.gamepad k).lastCmd →
      gi.joystickId = (s.gamepad k).joystickId → NoStuckInput (s.set k gi) := by
    intro gi hmod hcmd hid
    refine noStuckInput_of_owned fun i hi => owned_set (hs.1 i hi) ?_
    rintro ⟨b, ⟨hocc, hheld⟩, hbit⟩
    exact ⟨b, ⟨hid ▸ hocc, hmod ▸ hheld⟩, hcmd ▸ hbit⟩
  cases axis with
  | leftX =>
      cases h
      exact hstick _ rfl rfl rfl
  | leftY =>
      cases h
      exact hstick _ rfl rfl rfl
  | triggerLeft =>
      simp only [handleGamepadAxisInput] at h
      split at h
      · exact handleGamepadInput_noStuck hs hk h
      · cases h
        exact hs
  | triggerRight =>
      simp only [handleGamepadAxisInput] at h
      split at h
      · exact handleGamepadInput_noStuck hs hk h
      · cases h
        exact hs
  | other =>
      cases h
      exact hs

/-! ## Events -/

theorem clearsNoBit_none {c : PadConfig} {s : Pads} {e : PadEvent} (h : clearedSlot c s e = none) :
    ClearsNoBit c s e := by
  intro k hk
  rw [h] at hk
  cases hk

theorem clearsNoBit_some {c : PadConfig} {s : Pads} {e : PadEvent} {k : Fin 2}
    (h : clearedSlot c s e = some k) :
    ClearsNoBit c s e ↔ ∀ i, OwnsBit (s.gamepad k) i → bit s.padButtons i = true →
      ∃ k', k' ≠ k ∧ OwnsBit (s.gamepad k') i := by
  unfold ClearsNoBit
  rw [h]
  constructor
  · exact fun hall => hall k rfl
  · rintro hone k' ⟨⟩
    exact hone

theorem openOneGamepad_eq (c : PadConfig) (s : Pads) (id : Nat) (playerIndex : Int) :
    openOneGamepad c s id playerIndex =
      match clearedSlot c s (.added (some (id, playerIndex))) with
      | some k => s.set k { GamepadInfo.zero with index := k, joystickId := id }
      | none => s := by
  simp only [openOneGamepad, clearedSlot]
  cases hid : getGamepadInfo s id with
  | some k => simp
  | none => simp

/-- One event: no bit is left without an owner exactly where no slot is cleared under one. -/
theorem handlePadEvent_noStuck {c : PadConfig} {s s' : Pads} {e : PadEvent} (hs : NoStuckInput s)
    (h : handlePadEvent c s e = .ok s') : NoStuckInput s' ↔ ClearsNoBit c s e := by
  have hkept : ∀ {s'}, NoStuckInput s' → clearedSlot c s e = none →
    (NoStuckInput s' ↔ ClearsNoBit c s e) :=
    fun hs' hnone => ⟨fun _ => clearsNoBit_none hnone, fun _ => hs'⟩
  cases e with
  | added controller =>
      rcases controller with _ | ⟨id, playerIndex⟩
      · cases h
        exact hkept hs rfl
      · simp only [handlePadEvent, openOneGamepad_eq] at h
        cases hslot : clearedSlot c s (.added (some (id, playerIndex))) with
        | none =>
            rw [hslot] at h
            cases h
            exact hkept hs hslot
        | some k =>
            rw [hslot] at h
            cases h
            rw [clearsNoBit_some hslot]
            exact noStuck_clear hs rfl
  | removed id =>
      cases hid : getGamepadInfo s id with
      | none =>
          simp only [handlePadEvent, hid] at h
          cases h
          exact hkept hs hid
      | some k =>
          simp only [handlePadEvent, hid] at h
          cases h
          have hslot : clearedSlot c s (.removed id) = some k := hid
          rw [clearsNoBit_some hslot]
          exact noStuck_clear hs rfl
  | axis id axis value =>
      cases hid : getGamepadInfo s id with
      | none =>
          simp only [handlePadEvent, hid] at h
          cases h
          exact hkept hs rfl
      | some k =>
          simp only [handlePadEvent, hid] at h
          exact hkept (handleGamepadAxisInput_noStuck hs (getGamepadInfo_occupied hid) h) rfl
  | button id button pressed =>
      cases hid : getGamepadInfo s id with
      | none =>
          simp only [handlePadEvent, hid] at h
          cases h
          exact hkept hs rfl
      | some k =>
          cases hb : remapSdlButton button with
          | none =>
              simp only [handlePadEvent, hid, hb] at h
              cases h
              exact hkept hs rfl
          | some b =>
              simp only [handlePadEvent, hid, hb] at h
              exact hkept (handleGamepadInput_noStuck hs (getGamepadInfo_occupied hid) h) rfl

theorem start_noStuck (host : Host) : NoStuckInput (.start host) :=
  noStuckInput_of_owned fun i hi => by
    rw [show (Pads.start host).padButtons = 0 from rfl, bit_zero] at hi
    cases hi

/-- In a run of controller events from two empty slots. -/
theorem noStuckInput_iff {c : PadConfig} {host : Host} {t : Pads}
    {steps : List (Pads × PadEvent × Pads)}
    (h : Run (fun s e s' => handlePadEvent c s e = .ok s') (.start host) steps t) :
    (∀ x ∈ steps, NoStuckInput x.2.2) ↔ ∀ x ∈ steps, ClearsNoBit c x.1 x.2.1 :=
  h.always_iff (fun _ _ _ hstep hs => handlePadEvent_noStuck hs hstep) (start_noStuck host)

/-! The A button of the first gamepad bound to the A of the first player, alone. -/

def oneButton : PadConfig where
  session := offline
  map := (gamepadMapAddAll .empty [⟨⟨0, by decide⟩, 0, 7⟩]).1
  enableGamepad _ := true
  deadzone _ := 30
  angle _ _ := 0

/-- A gamepad is plugged in and its button goes down. -/
theorem noStuckInput_iff_press : ∃ steps t,
    Run (fun s e s' => handlePadEvent oneButton s e = .ok s') (.start quiet) steps t ∧
      steps.map (fun x => x.2.1) = [.added (some (7, 0)), .button 7 .a true] ∧
      ((∀ x ∈ steps, NoStuckInput x.2.2) ↔ ∀ x ∈ steps, ClearsNoBit oneButton x.1 x.2.1) :=
  ⟨[_, _], _, .cons rfl (.cons rfl (.nil _)), rfl,
    noStuckInput_iff (.cons rfl (.cons rfl (.nil _)))⟩

/-- It is unplugged while its button is down: the bit stays set and no gamepad is left. -/
theorem stuck_after_unplug : ∃ t,
    [.added (some (7, 0)), .button 7 .a true, .removed 7].foldlM (handlePadEvent oneButton)
      (.start quiet) = .ok t ∧
      ¬ NoStuckInput t := by
  refine ⟨_, rfl, fun h => absurd (h.2 ?_) (by decide)⟩
  rintro k b ⟨-, hb⟩
  revert k b
  decide

end SmwRecomp.Input
