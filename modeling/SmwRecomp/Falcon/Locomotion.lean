import SmwRecomp.Falcon.States
import SmwRecomp.Foreign.Controller
import Mathlib.Algebra.Order.Ring.Rat
import Mathlib.Algebra.Order.Group.Unbundled.Abs

/-!
# Captain Falcon's locomotion

`src/src/mods/falcon/falcon_locomotion.c`, and what `cf_tick` of
`src/src/mods/falcon/captain_falcon_foreign.c` does to the fighter around a tick.

* `FalconFighter` — the fighter; doubles are rationals, and the frame counters, which only go up by
  one from zero, are naturals.
* `SourceMath` — the square root of the C library and the root motion of the owner's cache.
* `falconTick`, `falconResolve` — one tick, and one answer of the host's collision.
* `emitAttack` — the hit volume of a state at a frame.
-/

set_option autoImplicit false

namespace SmwRecomp.Falcon

open Foreign (ForeignAirCause)
open FalconState

/-! ## Attributes -/

def A_WALK_SPEED_MUL : ℚ := 0.32
def A_TRACTION : ℚ := 1.8
def A_DASH_SPEED : ℚ := 80
def A_DASH_DECEL : ℚ := 6
def A_RUN_SPEED : ℚ := 75
def A_KNEEBEND_LENGTH : Nat := 4
def A_JUMP_VEL_X : ℚ := 0.31
def A_JUMP_HEIGHT_MUL : ℚ := 1
def A_JUMP_HEIGHT_BASE : ℚ := 24
def SMW_GROUNDED_JUMP_LAUNCH_SCALE : ℚ := 0.6324555320336759
def SMW_AERIAL_JUMP_LAUNCH_SCALE : ℚ := 0.8944271909999159
def A_JUMPAERIAL_VEL_X : ℚ := 0.35
def A_JUMPAERIAL_HEIGHT : ℚ := 0.9
def A_AIR_ACCEL : ℚ := 0.04
def A_AIR_SPEED_MAX_X : ℚ := 31
def A_AIR_FRICTION : ℚ := 0.2
def A_GRAVITY : ℚ := 3.4
def A_TVEL_BASE : ℚ := 66
def A_TVEL_FAST : ℚ := 100
def A_JUMPS_MAX : Nat := 2
def A_DASH_TO_RUN : Nat := 16

def DIVE_TURN_STICK_MIN : Nat := 18
def DIVE_AIR_ACCEL_MUL : ℚ := 1.1
def DIVE_AIR_SPEED_MAX_MUL : ℚ := 0.8
def DIVE_FALL_DRIFT : ℚ := 0.72
def DIVE_LANDING_ANIM_RATE : ℚ := 0.65
def DIVE_LANDING_SOURCE_LENGTH : ℚ := 11

def C_STICK_MAX : ℚ := 80
def C_WALKMIDDLE_STICK_MIN : Nat := 26
def C_WALKFAST_STICK_MIN : Nat := 62
def C_DASH_STICK_MIN : Nat := 56
def C_DASH_BUFFER_TICS : UInt8 := 3
def C_DASH_DECELERATE_BEGIN : Nat := 7
def C_RUN_STICK_MIN : Int := 50
def C_TURN_STICK_MIN : Int := -20
def C_TURNRUN_STICK_MIN : Int := -30
def C_KNEEBEND_STICK_MIN : Int := 53
def C_KNEEBEND_RUN_STICK_MIN : Int := 44
def C_KNEEBEND_BUFFER_TICS : UInt8 := 3
def C_KNEEBEND_SHORTHOP_FRAMES : Nat := 3
def C_KNEEBEND_JUMP_F_OR_B : Int := -10
def C_KNEEBEND_BTN_SHORT_FORCE : ℚ := 9
def C_KNEEBEND_BTN_LONG_FORCE : ℚ := 17
def C_KNEEBEND_BTN_SHORT_MIN : ℚ := 36
def C_KNEEBEND_BTN_LONG_MIN : ℚ := 63
def C_KNEEBEND_BTN_HEIGHT_CLAMP : ℚ := 77
def C_FASTFALL_STICK_MIN : Int := -53
def C_FASTFALL_BUFFER_TICS : UInt8 := 4
def C_AIRDRIFT_CLAMP_RANGE_MIN : Nat := 8
def C_STICKBUFFER_TICS_MAX : UInt8 := 254
def C_LANDING_INTERRUPT_BEGIN : Nat := 4
def C_STICK_DEADZONE : Int := 20

def TURN_FLAG_FRAME : Nat := 4
def TURNRUN_FLAG_FRAME : Nat := 19

/-- `s_state_length`; zero is a looping state. -/
def stateLength : FalconState → ℚ
  | wait => 0
  | walkSlow => 85
  | walkMiddle => 95
  | walkFast => 64
  | dash => 21
  | .run => 14
  | runBrake => 6
  | turn => 4
  | turnRun => 19
  | kneebend => A_KNEEBEND_LENGTH
  | jumpF => 30
  | jumpB => 30
  | jumpAerialF => 6
  | jumpAerialB => 6
  | fall => 0
  | fallAerial => 0
  | landingLight => 8
  | landingHeavy => 16
  | jab => 21
  | ftilt => 29
  | attackAirN => 49
  | attackAirF => 44
  | attackAirB => 35
  | falconPunchGround => 89
  | falconPunchAir => 89
  | falconKickGround => 85
  | falconKickGroundAir => 30
  | falconKickLanding => 45
  | falconKickAir => 50
  | falconKickBound => 60
  | falconDiveGround => 65
  | falconDiveAir => 65
  | falconDiveCatch => 16
  | falconDiveThrow => 60
  | falconDiveFall => 0
  | falconDiveLanding => DIVE_LANDING_SOURCE_LENGTH / DIVE_LANDING_ANIM_RATE
  | attackAirLw => 40

/-- `is_air_state`. -/
def isAirState : FalconState → Bool
  | jumpF | jumpB | jumpAerialF | jumpAerialB | fall | fallAerial
  | attackAirN | attackAirF | attackAirB | attackAirLw
  | falconPunchAir | falconKickGroundAir | falconKickAir | falconKickBound
  | falconDiveGround | falconDiveAir | falconDiveCatch | falconDiveThrow | falconDiveFall => true
  | _ => false

/-! ## Data -/

/-- `FalconInputRaw`. -/
structure FalconInputRaw where
  stickX : Int
  stickY : Int
  jumpHeld : Bool
  jumpPressed : Bool
  attackPressed : Bool
  specialPressed : Bool
  unlimitedJumps : Bool

/-- `FalconCollision`; `hit_floor` is not read. -/
structure FalconCollision where
  actualDx : ℚ
  actualDy : ℚ
  grounded : Bool
  hitCeiling : Bool
  hitWall : Bool
  attackConnected : Bool
  hasImposedVy : Bool
  imposedVy : ℚ

/-- `KB_INPUT_NONE`, `KB_INPUT_STICK`, `KB_INPUT_BUTTON`. -/
inductive KbInput where
  | none
  | stick
  | button
  deriving DecidableEq

structure FalconFighter where
  state : FalconState
  animFrame : Nat
  stateFrame : Nat
  velGroundX : ℚ
  velAirX : ℚ
  velAirY : ℚ
  posX : ℚ
  posY : ℚ
  lr : Int
  isFastfall : Bool
  jumpsUsed : Nat
  grounded : Bool
  hostAirCause : ForeignAirCause
  tapStickX : UInt8
  tapStickY : UInt8
  stickPrevX : Int
  stickPrevY : Int
  kneebendAnimFrame : Nat
  kneebendJumpForce : Int
  kneebendInputSource : KbInput
  kneebendIsShorthop : Bool
  turnFlag1 : Bool
  turnLrDash : Int
  turnLrTurn : Int
  motionFlag1 : Bool
  specialhiVelX : ℚ
  specialhiVelY : ℚ

/-- `sqrt`, and `smw_falcon_presentation_root_delta`. -/
structure SourceMath where
  sqrt : ℚ → ℚ
  rootDelta : String → Nat → Option (ℚ × ℚ)

namespace FalconFighter

/-- `falcon_reset`. -/
def reset : FalconFighter where
  state := wait
  animFrame := 0
  stateFrame := 0
  velGroundX := 0
  velAirX := 0
  velAirY := 0
  posX := 0
  posY := 0
  lr := 1
  isFastfall := false
  jumpsUsed := 0
  grounded := true
  hostAirCause := .none
  tapStickX := C_STICKBUFFER_TICS_MAX
  tapStickY := C_STICKBUFFER_TICS_MAX
  stickPrevX := 0
  stickPrevY := 0
  kneebendAnimFrame := 0
  kneebendJumpForce := 0
  kneebendInputSource := .none
  kneebendIsShorthop := false
  turnFlag1 := false
  turnLrDash := 0
  turnLrTurn := 0
  motionFlag1 := false
  specialhiVelX := 0
  specialhiVelY := 0

/-- `set_status`. -/
def setStatus (f : FalconFighter) (state : FalconState) : FalconFighter :=
  { f with state, animFrame := 0, stateFrame := 0 }

/-- `anim_ended`. -/
def animEnded (f : FalconFighter) : Bool :=
  0 < stateLength f.state ∧ stateLength f.state ≤ f.animFrame

/-- The animation advances before the procs observe it. -/
def advance (f : FalconFighter) : FalconFighter :=
  { f with animFrame := f.animFrame + 1, stateFrame := f.stateFrame + 1 }

/-! ## Physics -/

/-- The value moves to zero by `friction`, and stops there. -/
def toZero (v friction : ℚ) : ℚ :=
  if v < 0 then if v + friction > 0 then 0 else v + friction
  else if v - friction < 0 then 0 else v - friction

/-- The value is kept in `[-cap, cap]`. -/
def clampTo (v cap : ℚ) : ℚ := if v < -cap then -cap else if v > cap then cap else v

/-- `phys_ground_friction`. -/
def physGroundFriction (f : FalconFighter) (friction : ℚ) : FalconFighter :=
  { f with velGroundX := toZero f.velGroundX friction }

/-- `phys_ground_vel_abs_stick`. -/
def physGroundVelAbsStick (f : FalconFighter) (stickX : Int) (vel friction : ℚ) : FalconFighter :=
  let v := stickX.natAbs * vel
  { f with
    velGroundX :=
      if f.velGroundX < v then v
      else if f.velGroundX - friction < v then v else f.velGroundX - friction }

/-- `phys_check_set_fastfall`. -/
def physCheckSetFastfall (f : FalconFighter) (stickY : Int) : FalconFighter :=
  if ¬ f.isFastfall ∧ f.velAirY < 0 ∧ stickY ≤ C_FASTFALL_STICK_MIN ∧
      f.tapStickY < C_FASTFALL_BUFFER_TICS then
    { f with isFastfall := true, tapStickY := C_STICKBUFFER_TICS_MAX }
  else f

/-- `phys_fastfall` or `phys_gravity`. -/
def physFall (f : FalconFighter) : FalconFighter :=
  { f with
    velAirY :=
      if f.isFastfall then -A_TVEL_FAST
      else if f.velAirY - A_GRAVITY < -A_TVEL_BASE then -A_TVEL_BASE else f.velAirY - A_GRAVITY }

/-- One step of a speed that is over the cap: it loses 1, and stops at the cap. -/
def bleed (v cap : ℚ) : ℚ :=
  let w := v + if v ≥ 0 then -1 else 1
  if |w| < cap then if w ≥ 0 then cap else -cap else w

/-- The stick pushes the speed, up to the cap. -/
def drift (v : ℚ) (stickX : Int) (accel cap : ℚ) : ℚ :=
  if C_AIRDRIFT_CLAMP_RANGE_MIN ≤ stickX.natAbs then clampTo (v + stickX * accel) cap else v

/-- The horizontal half of an air tick: over the cap drift and friction are both skipped. -/
def airSpeed (v : ℚ) (stickX : Int) (accel cap : ℚ) : ℚ :=
  if |v| > cap then bleed v cap else toZero (drift v stickX accel cap) A_AIR_FRICTION

/-- `phys_air_tick`, and `phys_falcon_dive_fall` with its own cap. -/
def physAirTick (f : FalconFighter) (i : FalconInputRaw) (cap : ℚ) : FalconFighter :=
  let f := (f.physCheckSetFastfall i.stickY).physFall
  { f with velAirX := airSpeed f.velAirX i.stickX A_AIR_ACCEL cap }

/-- `phys_falcon_dive_launch`. -/
def physFalconDiveLaunch (f : FalconFighter) (i : FalconInputRaw) : FalconFighter :=
  let vel := airSpeed f.specialhiVelX i.stickX (A_AIR_ACCEL * DIVE_AIR_ACCEL_MUL)
    (A_AIR_SPEED_MAX_X * DIVE_AIR_SPEED_MAX_MUL)
  { f with specialhiVelX := vel, specialhiVelY := 0, velAirX := vel, velAirY := 0 }

/-! ## State entry -/

/-- `enter_wait`. -/
def enterWait (f : FalconFighter) : FalconFighter := { f with grounded := true }.setStatus wait

/-- `walk_status_for`. -/
def walkStatusFor (stickX : Int) : FalconState :=
  if C_WALKFAST_STICK_MIN ≤ stickX.natAbs then walkFast
  else if C_WALKMIDDLE_STICK_MIN ≤ stickX.natAbs then walkMiddle
  else walkSlow

/-- `enter_dash`. -/
def enterDash (f : FalconFighter) (flag : Bool) : FalconFighter :=
  { f with velGroundX := A_DASH_SPEED, tapStickX := C_STICKBUFFER_TICS_MAX, motionFlag1 := flag }
    |>.setStatus dash

/-- `enter_run`. -/
def enterRun (f : FalconFighter) : FalconFighter :=
  { f with velGroundX := A_RUN_SPEED }.setStatus .run

/-- `enter_run_brake`. -/
def enterRunBrake (f : FalconFighter) (flag : Bool) : FalconFighter :=
  { f with motionFlag1 := flag }.setStatus runBrake

/-- `enter_turn`. -/
def enterTurn (f : FalconFighter) (lrDash : Int) : FalconFighter :=
  { f with motionFlag1 := false, turnFlag1 := false, turnLrDash := lrDash, turnLrTurn := -f.lr }
    |>.setStatus turn

/-- `enter_turn_run`. -/
def enterTurnRun (f : FalconFighter) : FalconFighter :=
  { f with turnFlag1 := false }.setStatus turnRun

/-- `enter_kneebend`. -/
def enterKneebend (f : FalconFighter) (stickY : Int) (inputSource : KbInput) : FalconFighter :=
  { f with
    kneebendJumpForce := stickY
    kneebendAnimFrame := 0
    kneebendInputSource := inputSource
    kneebendIsShorthop := false }.setStatus kneebend

/-- `jump_force_button`. -/
def jumpForceButton (m : SourceMath) (stickX : Int) (isShorthop : Bool) : ℚ × ℚ :=
  let velX : ℚ := stickX.natAbs
  let sq := m.sqrt (1 - velX / C_STICK_MAX * (velX / C_STICK_MAX))
  let force := if isShorthop then C_KNEEBEND_BTN_SHORT_FORCE else C_KNEEBEND_BTN_LONG_FORCE
  let mn := if isShorthop then C_KNEEBEND_BTN_SHORT_MIN else C_KNEEBEND_BTN_LONG_MIN
  let velY := force * sq + mn
  let velY := if velX * velX + velY * velY > C_STICK_MAX * C_STICK_MAX then
    m.sqrt (C_STICK_MAX * C_STICK_MAX - velX * velX) else velY
  let velY := if velY < mn then mn else velY
  let velY := if velY > C_KNEEBEND_BTN_HEIGHT_CLAMP then C_KNEEBEND_BTN_HEIGHT_CLAMP else velY
  (if 0 ≤ stickX then velX else -velX, velY)

/-- The force `enter_jump` launches with, sideways and up. -/
def jumpForce (m : SourceMath) (f : FalconFighter) (i : FalconInputRaw) : ℚ × ℚ :=
  if f.kneebendInputSource = .button then jumpForceButton m i.stickX f.kneebendIsShorthop
  else (i.stickX, if f.kneebendJumpForce < C_KNEEBEND_STICK_MIN then C_KNEEBEND_STICK_MIN
    else f.kneebendJumpForce)

/-- `enter_jump`. -/
def enterJump (m : SourceMath) (f : FalconFighter) (i : FalconInputRaw) : FalconFighter :=
  let force := jumpForce m f i
  let launch := force.2 * A_JUMP_HEIGHT_MUL + A_JUMP_HEIGHT_BASE
  { f with
    grounded := false
    velAirY :=
    if f.kneebendInputSource = KbInput.button then launch * SMW_GROUNDED_JUMP_LAUNCH_SCALE
      else launch
    velAirX := force.1 * A_JUMP_VEL_X
    tapStickY := C_STICKBUFFER_TICS_MAX
    jumpsUsed := 1 }.setStatus (if i.stickX * f.lr > C_KNEEBEND_JUMP_F_OR_B then jumpF else jumpB)

/-- `enter_jump_aerial`. -/
def enterJumpAerial (f : FalconFighter) (i : FalconInputRaw) : FalconFighter :=
  { f with
    grounded := false
    velAirY := (C_STICK_MAX * A_JUMP_HEIGHT_MUL + A_JUMP_HEIGHT_BASE) * A_JUMPAERIAL_HEIGHT *
      SMW_AERIAL_JUMP_LAUNCH_SCALE
    velAirX := i.stickX * A_JUMPAERIAL_VEL_X
    jumpsUsed := f.jumpsUsed + 1
    tapStickY := C_STICKBUFFER_TICS_MAX }.setStatus
      (if i.stickX * f.lr ≥ C_KNEEBEND_JUMP_F_OR_B then jumpAerialF else jumpAerialB)

/-- `enter_fall`. -/
def enterFall (f : FalconFighter) : FalconFighter :=
  { f with grounded := false, velAirX := clampTo f.velAirX A_AIR_SPEED_MAX_X }.setStatus
    (if A_JUMPS_MAX ≤ f.jumpsUsed then fallAerial else fall)

/-- The fighter is on the ground, and carries its air speed over. -/
def settle (f : FalconFighter) : FalconFighter :=
  { f with grounded := true, velGroundX := f.velAirX * f.lr, velAirX := 0, velAirY := 0 }

/-- `enter_landing`. -/
def enterLanding (f : FalconFighter) : FalconFighter :=
  { f.settle with jumpsUsed := 0, isFastfall := false }.setStatus
    (if f.isFastfall ∧ f.velAirY ≤ -A_TVEL_FAST then landingHeavy else landingLight)

/-- `is_falcon_kick_wall_state`. -/
def isFalconKickWallState (state : FalconState) : Bool :=
  state = falconKickGround ∨ state = falconKickGroundAir ∨ state = falconKickAir

/-- `enter_falcon_kick_wall_stop`. -/
def enterFalconKickWallStop (f : FalconFighter) (grounded : Bool) : FalconFighter :=
  let f := { f with velGroundX := 0, velAirX := 0, velAirY := 0 }
  if grounded then f.enterWait else f.enterFall

/-- `enter_falcon_dive`. -/
def enterFalconDive (f : FalconFighter) (fromGround : Bool) : FalconFighter :=
  { f with
    grounded := false
    jumpsUsed := A_JUMPS_MAX
    isFastfall := false
    velGroundX := 0
    velAirX := 0
    velAirY := 0
    specialhiVelX := 0
    specialhiVelY := 0 }.setStatus (if fromGround then falconDiveGround else falconDiveAir)

/-- `enter_falcon_dive_catch`. -/
def enterFalconDiveCatch (f : FalconFighter) : FalconFighter :=
  { f with grounded := false, velAirX := 0, velAirY := 0, specialhiVelX := 0, specialhiVelY := 0 }
    |>.setStatus falconDiveCatch

/-- `enter_falcon_dive_throw`. -/
def enterFalconDiveThrow (f : FalconFighter) : FalconFighter :=
  { f with grounded := false, velAirX := 0, velAirY := 0 }.setStatus falconDiveThrow

/-- `enter_falcon_dive_fall`. -/
def enterFalconDiveFall (f : FalconFighter) : FalconFighter :=
  { f with
    grounded := false
    jumpsUsed := A_JUMPS_MAX
    velAirX := clampTo f.velAirX (A_AIR_SPEED_MAX_X * DIVE_FALL_DRIFT) }.setStatus falconDiveFall

/-- `enter_falcon_dive_landing`. -/
def enterFalconDiveLanding (f : FalconFighter) : FalconFighter :=
  { f.settle with jumpsUsed := 0, isFastfall := false }.setStatus falconDiveLanding

/-- A neutral special turns Falcon to the stick. -/
def turnToStick (f : FalconFighter) (i : FalconInputRaw) : FalconFighter :=
  { f with lr := if i.stickX * f.lr < 0 then -f.lr else f.lr }

/-- `enter_ground_special` and `enter_air_special`. -/
def enterSpecial (f : FalconFighter) (i : FalconInputRaw) (fromGround : Bool) : FalconFighter :=
  if i.stickY ≤ -40 then f.setStatus (if fromGround then falconKickGround else falconKickAir)
  else if i.stickY ≥ 40 then f.enterFalconDive fromGround
  else (f.turnToStick i).setStatus (if fromGround then falconPunchGround else falconPunchAir)

/-! ## Interrupt checks -/

/-- `check_ground_special`, `check_air_special`; a check that holds gives the fighter it leaves. -/
def checkSpecial (f : FalconFighter) (i : FalconInputRaw) (fromGround : Bool) :
    Option FalconFighter :=
  if i.specialPressed then some (f.enterSpecial i fromGround) else none

def checkGroundSpecial (f : FalconFighter) (i : FalconInputRaw) : Option FalconFighter :=
  f.checkSpecial i true

def checkAirSpecial (f : FalconFighter) (i : FalconInputRaw) : Option FalconFighter :=
  f.checkSpecial i false

def checkGroundAttack (f : FalconFighter) (i : FalconInputRaw) : Option FalconFighter :=
  if ¬ i.attackPressed then none
  -- up and down tilts are reserved
  else if 20 ≤ i.stickY.natAbs then some f
  else if 20 ≤ i.stickX.natAbs then
    some ({ f with lr := if i.stickX < 0 then -1 else 1 }.setStatus ftilt)
  else some (f.setStatus jab)

def checkAirAttack (f : FalconFighter) (i : FalconInputRaw) : Option FalconFighter :=
  if ¬ i.attackPressed then none
  else if i.stickY ≤ -20 then some (f.setStatus attackAirLw)
  -- the up-air is reserved
  else if i.stickY ≥ 20 then some f
  else if 20 ≤ i.stickX.natAbs then
    some (f.setStatus (if i.stickX * f.lr ≥ 0 then attackAirF else attackAirB))
  else some (f.setStatus attackAirN)

def checkDash (f : FalconFighter) (i : FalconInputRaw) : Option FalconFighter :=
  if C_DASH_STICK_MIN ≤ i.stickX.natAbs ∧ f.tapStickX < C_DASH_BUFFER_TICS then
    if i.stickX * f.lr < 0 then some (f.enterTurn (-f.lr))
    else some ({ f with lr := if i.stickX ≥ 0 then 1 else -1 }.enterDash true)
  else none

def checkTurn (f : FalconFighter) (i : FalconInputRaw) : Option FalconFighter :=
  if i.stickX * f.lr ≤ C_TURN_STICK_MIN then some (f.enterTurn 0) else none

def checkWalk (f : FalconFighter) (i : FalconInputRaw) : Option FalconFighter :=
  if i.stickX * f.lr ≥ 8 then some (f.setStatus (walkStatusFor i.stickX)) else none

def checkWait (f : FalconFighter) (i : FalconInputRaw) : Option FalconFighter :=
  if i.stickX * f.lr < 0 ∨ i.stickX.natAbs < 8 then some f.enterWait else none

/-- `kneebend_input_type`. -/
def kneebendInputType (f : FalconFighter) (i : FalconInputRaw) (fromRun : Bool) : KbInput :=
  let stickOk : Bool := if fromRun then i.stickY > C_KNEEBEND_RUN_STICK_MIN
    else i.stickY ≥ C_KNEEBEND_STICK_MIN
  if stickOk ∧ f.tapStickY ≤ C_KNEEBEND_BUFFER_TICS then KbInput.stick
  else if i.jumpPressed then KbInput.button
  else KbInput.none

def checkKneebend (f : FalconFighter) (i : FalconInputRaw) (fromRun : Bool) :
    Option FalconFighter :=
  let src := f.kneebendInputType i fromRun
  if src ≠ .none then some (f.enterKneebend i.stickY src) else none

/-- A button edge or a buffered up-stick. -/
def wantsJump (f : FalconFighter) (i : FalconInputRaw) : Bool :=
  (i.stickY ≥ C_KNEEBEND_STICK_MIN ∧ f.tapStickY ≤ C_KNEEBEND_BUFFER_TICS) ∨ i.jumpPressed

def checkJumpAerial (f : FalconFighter) (i : FalconInputRaw) : Option FalconFighter :=
  if ¬ i.unlimitedJumps ∧ A_JUMPS_MAX ≤ f.jumpsUsed then none
  else if f.wantsJump i then some (f.enterJumpAerial i)
  else none

def checkRunFromDash (f : FalconFighter) (i : FalconInputRaw) : Option FalconFighter :=
  if A_DASH_TO_RUN ≤ f.animFrame ∧ f.animFrame < A_DASH_TO_RUN + 1 ∧
      i.stickX * f.lr ≥ C_RUN_STICK_MIN then some f.enterRun
  else none

def checkRunBrakeFromRun (f : FalconFighter) (i : FalconInputRaw) : Option FalconFighter :=
  if i.stickX * f.lr < C_RUN_STICK_MIN then some (f.enterRunBrake true) else none

def checkTurnRunFromRun (f : FalconFighter) (i : FalconInputRaw) : Option FalconFighter :=
  if i.stickX * f.lr ≤ C_TURNRUN_STICK_MIN then some f.enterTurnRun else none

/-! ## The procs of a state -/

/-- Falcon turns once the motion script raises its flag. -/
def turnAt (f : FalconFighter) (frame : Nat) : FalconFighter :=
  if ¬ f.turnFlag1 ∧ frame ≤ f.animFrame then
    { f with turnFlag1 := true, lr := -f.lr, velGroundX := -f.velGroundX }
  else f

/-- The jumpsquat counts a frame, and notices a released button. -/
def squat (f : FalconFighter) (i : FalconInputRaw) : FalconFighter :=
  let frame := f.kneebendAnimFrame + 1
  { f with
    kneebendAnimFrame := frame
    kneebendIsShorthop := f.kneebendIsShorthop ∨ (f.kneebendInputSource = .button ∧
      frame ≤ C_KNEEBEND_SHORTHOP_FRAMES ∧ ¬ i.jumpHeld) }

/-- The lunge of an aerial Punch. -/
def lunge (f : FalconFighter) : FalconFighter :=
  if f.state = falconPunchAir ∧ f.stateFrame = 40 then { f with velAirX := 65 * f.lr } else f

/-- The stick may turn the Dive at its frame 13. -/
def diveTurn (f : FalconFighter) (i : FalconInputRaw) : FalconFighter :=
  if f.stateFrame = 13 ∧ DIVE_TURN_STICK_MIN < i.stickX.natAbs then
    { f with lr := if i.stickX < 0 then -1 else 1 }
  else f

/-- What follows a state whose animation is over. -/
def whenEnded (f : FalconFighter) (next : FalconFighter → FalconFighter) : FalconFighter :=
  if f.animEnded then next f else f

/-- `proc_update`. -/
def procUpdate (m : SourceMath) (f : FalconFighter) (i : FalconInputRaw) : FalconFighter :=
  match f.state with
  | dash => f.whenEnded fun f => { f with velGroundX := f.velGroundX * 0.75 }.enterWait
  | turn => (f.turnAt TURN_FLAG_FRAME).whenEnded enterWait
  | turnRun => (f.turnAt TURNRUN_FLAG_FRAME).whenEnded enterRun
  | kneebend =>
    let f := f.squat i
    if A_KNEEBEND_LENGTH ≤ f.kneebendAnimFrame then f.enterJump m i else f
  | runBrake | landingLight | landingHeavy | falconDiveLanding => f.whenEnded enterWait
  | jab | ftilt | falconPunchGround | falconKickGround => f.whenEnded enterWait
  | falconKickLanding => f.whenEnded enterWait
  | jumpF | jumpB | jumpAerialF | jumpAerialB => f.whenEnded enterFall
  | attackAirN | attackAirF | attackAirB | attackAirLw
  | falconPunchAir | falconKickAir | falconKickBound => f.lunge.whenEnded enterFall
  | falconKickGroundAir => f.whenEnded fun f => if f.grounded then f.enterWait else f.enterFall
  | falconDiveGround | falconDiveAir => (f.diveTurn i).whenEnded enterFalconDiveFall
  | falconDiveCatch => f.whenEnded enterFalconDiveThrow
  | falconDiveThrow => f.whenEnded enterFall
  | _ => f

/-- What a state on the ground checks first: the specials and the attacks. -/
def checkGroundCombat (f : FalconFighter) (i : FalconInputRaw) : Option FalconFighter :=
  f.checkGroundSpecial i <|> f.checkGroundAttack i

/-- The checks of `FL_WAIT`, and of a landing that may be interrupted. -/
def checkGround (f : FalconFighter) (i : FalconInputRaw) : Option FalconFighter :=
  f.checkGroundCombat i <|> f.checkKneebend i false <|> f.checkDash i <|> f.checkTurn i <|>
    f.checkWalk i

/-- The tier of the walk, chosen again without a restart. -/
def walkAgain (f : FalconFighter) (i : FalconInputRaw) : FalconFighter :=
  { f with state := walkStatusFor i.stickX }

/-- A turn becomes a dash. -/
def checkTurnDash (f : FalconFighter) (i : FalconInputRaw) : Option FalconFighter :=
  if f.turnFlag1 ∧ f.turnLrDash ≠ 0 ∧ i.stickX * f.turnLrTurn ≥ C_DASH_STICK_MIN ∧
      f.tapStickX < C_DASH_BUFFER_TICS then some (f.enterDash false)
  else none

/-- The peak of the stick is the force of the jump. -/
def peak (f : FalconFighter) (i : FalconInputRaw) : FalconFighter :=
  { f with
    kneebendJumpForce :=
      if f.kneebendJumpForce < i.stickY then i.stickY else f.kneebendJumpForce }

/-- The checks of a jump or a fall. -/
def checkAir (f : FalconFighter) (i : FalconInputRaw) : Option FalconFighter :=
  f.checkAirSpecial i <|> f.checkAirAttack i <|> f.checkJumpAerial i

/-- `proc_interrupt`. -/
def procInterrupt (f : FalconFighter) (i : FalconInputRaw) : FalconFighter :=
  match f.state with
  | wait => (f.checkGround i).getD f
  | walkSlow | walkMiddle | walkFast =>
    (f.checkGroundCombat i <|> f.checkKneebend i false <|> f.checkDash i <|> f.checkWait i).getD
      (f.walkAgain i)
  | dash =>
    (f.checkGroundCombat i <|>
      -- a dash again only with the stick away from the front
      (if 5 < f.animFrame ∧ f.animFrame ≤ 20 ∧ i.stickX * f.lr < 0 then f.checkDash i else none) <|>
      f.checkKneebend i true <|> f.checkRunFromDash i).getD f
  | .run =>
    (f.checkGroundCombat i <|> f.checkKneebend i true <|> f.checkTurnRunFromRun i <|>
      f.checkRunBrakeFromRun i).getD f
  | runBrake =>
    (f.checkGroundCombat i <|> f.checkKneebend i true <|>
      (if f.motionFlag1 ∧ f.animFrame ≤ 4 then f.checkTurnRunFromRun i else none)).getD f
  | turn => (f.checkGroundCombat i <|> f.checkKneebend i false <|> f.checkTurnDash i).getD f
  | turnRun => (f.checkGroundCombat i <|> f.checkKneebend i true).getD f
  | kneebend => f.peak i
  | landingLight | landingHeavy =>
    if f.animFrame < C_LANDING_INTERRUPT_BEGIN then f else (f.checkGround i).getD f
  | jumpF | jumpB | jumpAerialF | jumpAerialB | fall | fallAerial => (f.checkAir i).getD f
  | _ => f

/-- `proc_physics`. -/
def procPhysics (f : FalconFighter) (i : FalconInputRaw) : FalconFighter :=
  match f.state with
  | wait | turn | kneebend | landingLight | landingHeavy | falconDiveLanding
  | jab | ftilt | falconPunchGround => f.physGroundFriction (1 * A_TRACTION)
  | walkSlow | walkMiddle | walkFast =>
    f.physGroundVelAbsStick i.stickX A_WALK_SPEED_MUL A_TRACTION
  | dash => if C_DASH_DECELERATE_BEGIN ≤ f.animFrame then f.physGroundFriction A_DASH_DECEL else f
  | runBrake => f.physGroundFriction (A_TRACTION * 1.25)
  | jumpF | jumpB | jumpAerialF | jumpAerialB | fall | fallAerial
  | attackAirN | attackAirF | attackAirB | attackAirLw
  | falconPunchAir => f.physAirTick i A_AIR_SPEED_MAX_X
  | falconKickGroundAir =>
    if ¬ f.grounded ∧ 16 ≤ f.stateFrame then f.physAirTick i A_AIR_SPEED_MAX_X else f
  | falconDiveGround | falconDiveAir => f.physFalconDiveLaunch i
  | falconDiveCatch => { f with velAirX := 0, velAirY := 0 }
  | falconDiveFall => f.physAirTick i (A_AIR_SPEED_MAX_X * DIVE_FALL_DRIFT)
  | _ => f

end FalconFighter

open FalconFighter

/-! ## One tick -/

/-- One axis of `update_tap_buffers`. -/
def tapped (tap : UInt8) (stick previous : Int) : UInt8 :=
  let tap :=
    if stick ≥ C_STICK_DEADZONE then if previous ≥ C_STICK_DEADZONE then tap + 1 else 1
    else if stick ≤ -C_STICK_DEADZONE then if previous ≤ -C_STICK_DEADZONE then tap + 1 else 1
    else C_STICKBUFFER_TICS_MAX
  if tap > C_STICKBUFFER_TICS_MAX then C_STICKBUFFER_TICS_MAX else tap

/-- `update_tap_buffers`. -/
def updateTapBuffers (f : FalconFighter) (i : FalconInputRaw) : FalconFighter :=
  { f with
    tapStickX := tapped f.tapStickX i.stickX f.stickPrevX
    tapStickY := tapped f.tapStickY i.stickY f.stickPrevY
    stickPrevX := i.stickX
    stickPrevY := i.stickY }

/-- The states that were forced into the air before the host knows. -/
def forceAir (f : FalconFighter) : FalconFighter :=
  if (f.state = falconKickBound ∧ f.stateFrame = 0) ∨
      (f.state = falconDiveGround ∧ f.stateFrame ≤ 15) then { f with grounded := false }
  else f

/-- The host started a jump: the button path at full height. -/
def hostLaunch (m : SourceMath) (f : FalconFighter) (i : FalconInputRaw) : FalconFighter :=
  enterJump m
    { f with kneebendInputSource := .button, kneebendIsShorthop := false, kneebendJumpForce := i.stickY }
    i

/-- The Kick lost its floor; from frame 32 it continues in the air. -/
def kickLosesFloor (f : FalconFighter) : FalconFighter :=
  let f := { f with grounded := false, jumpsUsed := 1 }
  if 32 ≤ f.stateFrame then f.setStatus falconKickGroundAir else f

/-- `falcon_tick` adopts what the host reports of the ground. -/
def reconcile (m : SourceMath) (f : FalconFighter) (i : FalconInputRaw) : FalconFighter :=
  if ¬ f.grounded ∧ f.state = falconKickGround then kickLosesFloor f
  else if ¬ f.grounded ∧ ¬ isAirState f.state then
    if f.hostAirCause = .launched then hostLaunch m f i
    else { f.enterFall with jumpsUsed := 0 }
  else if f.grounded ∧ isAirState f.state then
    if f.state = falconKickGroundAir then f
    else if f.state = falconPunchAir then { f.settle with state := falconPunchGround }
    else if f.state = falconKickAir then f.enterWait
    else if f.state = falconDiveFall then f.enterFalconDiveLanding
    else f.enterLanding
  else f

/-- The fighter as `proc_interrupt` finds it in a tick. -/
def beforeInterrupt (m : SourceMath) (f : FalconFighter) (i : FalconInputRaw) : FalconFighter :=
  (reconcile m (forceAir (updateTapBuffers f i)) i).advance.procUpdate m i

/-- `falcon_tick`, the fighter. -/
def falconTick (m : SourceMath) (f : FalconFighter) (i : FalconInputRaw) : FalconFighter :=
  ((beforeInterrupt m f i).procInterrupt i).procPhysics i

/-- `cf_root_motion_animation`. -/
def rootMotionAnimation (f : FalconFighter) : Option String :=
  match f.state with
  | falconKickGround => some "DownSpecial"
  | falconKickGroundAir =>
    if f.grounded ∨ f.stateFrame < 16 then some "VelocityXDownSpecialAir" else none
  | falconKickLanding => some "LandingDownSpecial"
  | falconKickAir => some "DownSpecialAir"
  | falconKickBound => some "FalconDiveEnd1"
  | falconDiveGround => some "FalconDive"
  | falconDiveAir => some "FalconDiveEnd2"
  | falconDiveThrow => some "FalconDiveEnd1"
  | _ => none

/-- The root motion replaces the velocity of the tick. -/
def rootMotion (m : SourceMath) (f : FalconFighter) : FalconFighter :=
  match (rootMotionAnimation f).bind (m.rootDelta · f.stateFrame) with
  | none => f
  | some (deltaY, deltaZ) =>
    let diveLaunch := f.state = falconDiveGround ∨ f.state = falconDiveAir
    if ¬ f.grounded then
      { f with
        velAirX := deltaZ * f.lr + if diveLaunch then f.specialhiVelX else 0
        velAirY := deltaY + if diveLaunch then f.specialhiVelY else 0 }
    else { f with velGroundX := deltaZ }

/-- `cf_tick`, the fighter: the host's ground, a tick and the root motion. -/
def cfTick (m : SourceMath) (f : FalconFighter) (grounded : Bool) (airCause : ForeignAirCause)
    (i : FalconInputRaw) : FalconFighter :=
  rootMotion m (falconTick m { f with grounded, hostAirCause := airCause } i)

/-! ## Hit volumes -/

/-- `FalconAttack`. -/
structure FalconAttack where
  offsetX : ℚ
  offsetY : ℚ
  width : ℚ
  height : ℚ
  damage : Int
  knockbackX : ℚ
  knockbackY : ℚ
  breakBlocks : Bool
  contactOnly : Bool
  active : Bool

/-- What `memset` leaves of an attack. -/
def FalconAttack.clear : FalconAttack := ⟨0, 0, 0, 0, 0, 0, 0, false, false, false⟩

/-- `set_attack` in the frames from `first` up to `last`. -/
def setAttack (t first last : Nat) (x y w h : ℚ) (damage : Int) (kx ky : ℚ) (breakBlocks : Bool) :
    FalconAttack :=
  if first ≤ t ∧ t < last then ⟨x, y, w, h, damage, kx, ky, breakBlocks, false, true⟩ else .clear

/-- `emit_attack`. -/
def emitAttack (state : FalconState) (t : Nat) : FalconAttack :=
  match state with
  | jab => setAttack t 5 9 210 220 280 180 3 35 20 false
  | ftilt => setAttack t 9 16 250 220 380 220 13 65 28 false
  | attackAirN => setAttack t 4 28 40 250 600 320 (if t < 8 then 16 else 13) 55 42 false
  | attackAirF =>
    if 7 ≤ t ∧ t < 13 then setAttack t 7 13 260 250 380 280 10 52 32 false
    else setAttack t 21 29 260 220 400 260 12 60 35 false
  | attackAirB => setAttack t 7 19 (-250) 240 390 280 16 (-72) 34 false
  | attackAirLw => setAttack t 7 25 0 (-60) 500 400 14 0 (-80) true
  | falconPunchGround | falconPunchAir => setAttack t 42 56 350 100 700 650 25 105 55 true
  | falconKickGround | falconKickAir => setAttack t 12 32 336 40 630 600 15 82 25 true
  | falconKickLanding => setAttack t 0 2 0 140 400 280 12 20 20 true
  | falconDiveGround | falconDiveAir =>
    let attack := setAttack t 13 45 350 100 700 650 20 0 82 false
    { attack with contactOnly := attack.active }
  | _ => .clear

/-! ## Collision -/

/-- The part of `falcon_resolve` on the host's floor under a fighter in the air. -/
def touchDown (f : FalconFighter) : FalconFighter :=
  if f.state = falconKickGround ∨ f.state = falconKickGroundAir then f.settle
  else if f.state = falconPunchAir then { f.settle with state := falconPunchGround }
  else if f.state = falconKickAir then f.enterWait
  else if f.state = falconDiveFall then f.enterFalconDiveLanding
  else f.enterLanding

/-- What a contact does to the air speed. -/
def airContact (f : FalconFighter) (hit : FalconCollision) : FalconFighter :=
  let velAirY := if hit.hitCeiling ∧ f.velAirY > 0 then 0 else f.velAirY
  { f with
    velAirX := if hit.hitWall then 0 else f.velAirX
    velAirY := if hit.hasImposedVy then hit.imposedVy else velAirY }

/-- `falcon_resolve` for a fighter in the air. -/
def resolveAir (f : FalconFighter) (hit : FalconCollision) : FalconFighter :=
  let f := airContact f hit
  let rises := hit.hasImposedVy ∧ hit.imposedVy > 0
  if hit.grounded ∧ f.state = falconDiveGround ∧ f.stateFrame ≤ 15 then { f with grounded := false }
  else if hit.grounded ∧ ¬ rises then touchDown f
  else if rises then { f with grounded := false }
  else { f with grounded := hit.grounded }

/-- The floor is gone under a fighter on the ground. -/
def walkOff (f : FalconFighter) (hit : FalconCollision) : FalconFighter :=
  let f := { f with velAirX := f.velGroundX * f.lr }
  let f := if f.state = falconKickGround then kickLosesFloor f else f.enterFall
  { f with velAirY := if hit.hasImposedVy then hit.imposedVy else f.velAirY }

/-- `falcon_resolve` for a fighter on the ground. -/
def resolveGround (f : FalconFighter) (hit : FalconCollision) : FalconFighter :=
  let f := { f with velGroundX := if hit.hitWall then 0 else f.velGroundX }
  if ¬ hit.grounded then walkOff f hit else { f with grounded := hit.grounded }

/-- The host's motion; a Kick at a wall keeps its own. -/
def moved (f : FalconFighter) (hit : FalconCollision) : FalconFighter :=
  { f with
    posX := if hit.hitWall ∧ isFalconKickWallState f.state then f.posX else f.posX + hit.actualDx
    posY := f.posY + hit.actualDy }

/-- `falcon_resolve`. -/
def falconResolve (f : FalconFighter) (hit : FalconCollision) : FalconFighter :=
  let g := moved f hit
  if hit.attackConnected ∧ (f.state = falconDiveGround ∨ f.state = falconDiveAir) then
    g.enterFalconDiveCatch
  else if hit.hitWall ∧ isFalconKickWallState f.state then g.enterFalconKickWallStop hit.grounded
  else if ¬ f.grounded then resolveAir g hit
  else resolveGround g hit

end SmwRecomp.Falcon
