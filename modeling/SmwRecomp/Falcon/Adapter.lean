import SmwRecomp.Falcon.Dash
import SmwRecomp.Falcon.States
import SmwRecomp.Foreign.Controller

/-!
# The host boundary of the Falcon controller

`src/overrides/falcon/falcon_smw_adapter.c`: the seams of one player frame that touch the airborne
flag, the pending frame or the forced departure.

* `Host` — guest RAM, the foreign layer and the adapter's statics during one call.
* `Host.setInAir` — every store to `player_in_air_flag`; `airWrites` keeps what was stored.
* `Controller` — what a controller answers during a call; nothing is assumed of it.
* `beforePhysics`, `beforeCrushCheck`, `afterPhysics`, `beforeNormalSprites`, `onStateLoaded` — the
  seams.
-/

set_option autoImplicit false

namespace SmwRecomp.Falcon

open Foreign (ForeignOwnership ForeignJumpPhase ForeignAirCause)

/-- `SMW_FALCON_DEPARTURE_MAX_FRAMES`. -/
def SMW_FALCON_DEPARTURE_MAX_FRAMES : Nat := 16

/-- `SMW_FALCON_WALL_SAFETY_FRAMES`. -/
def SMW_FALCON_WALL_SAFETY_FRAMES : Nat := 12

/-- `SMW_FALCON_WALL_OOB_MAX_DELTA`. -/
def SMW_FALCON_WALL_OOB_MAX_DELTA : Int := 64

/-! ## Records -/

/-- Guest RAM, under the names of `variables.h`. -/
structure Ram where
  miscGameMode : UInt8
  playerCurrentState : UInt8
  flagAboutToWarpInPipe : UInt8
  playerPipeAction : UInt8
  timerEndLevel : UInt8
  timerEndLevelViaKeyhole : UInt8
  playerXpos : UInt16
  playerYpos : UInt16
  playerSubXpos : UInt8
  playerSubYpos : UInt8
  playerXspeed : UInt8
  playerYspeed : UInt8
  playerSubXspeed : UInt8
  playerSubYspeed : UInt8
  playerInAirFlag : UInt8
  playerFacingDirection : UInt8
  playerBlockedFlags : UInt8

/-- `ForeignState`, without its floats but for the side it faces. -/
structure FighterState where
  state : CEnum FalconState
  facingRight : Bool
  grounded : Bool
  airCause : ForeignAirCause
  jumpPhase : ForeignJumpPhase

/-- `ForeignMoveResult`: the sign of `requested_dx`, and what `clamp_speed` makes of the requests.
-/
structure MoveResult where
  heading : Int
  xspeed : UInt8
  yspeed : UInt8
  forceAirborne : Bool

/-- What the active controller answers: to a selection (`none` is a refused one), to a resolution
and to a tick. -/
structure Controller where
  select : Option FighterState
  resolve : FighterState → FighterState
  tick : ForeignInput → FighterState → MoveResult × FighterState

structure ForeignLayer where
  active : Bool
  ownership : ForeignOwnership
  state : FighterState
  controller : Controller

/-- `s_step_wall_*`. -/
structure StepWall where
  latched : Bool
  direction : Int
  x : UInt16
  y : UInt16
  subX : UInt8
  subY : UInt8
  inAir : UInt8
  blocked : UInt8
  facing : UInt8

/-- `s_wall_safety_*`. -/
structure WallSafety where
  recentFrames : Nat
  hazardArmed : Bool
  valid : Bool
  x : UInt16
  y : UInt16
  subX : UInt8
  subY : UInt8
  facing : UInt8
  blocked : UInt8

/-- `s_x_before`, `s_y_before`, `s_sub_x_before`, `s_sub_y_before`, `s_in_air_before`. -/
structure Before where
  x : UInt16
  y : UInt16
  subX : UInt8
  subY : UInt8
  inAir : UInt8

/-- The adapter's statics. -/
structure Adapter where
  pending : Bool
  forceAirbornePending : Bool
  forceAirborneFrames : Nat
  stepWall : StepWall
  wallSafety : WallSafety
  before : Before
  lastMove : MoveResult
  lastInputDirection : Int

structure Host where
  ram : Ram
  foreign : ForeignLayer
  s : Adapter
  airWrites : List UInt8

/-! ## Parts -/

/-- `(int8_t)value`. -/
def signed8 (value : UInt8) : Int := value.toInt8.toInt

/-- `(int16_t)(a - b)`. -/
def delta16 (a b : UInt16) : Int := (a - b).toInt16.toInt

/-- `smw_falcon_playable`. -/
def smwFalconPlayable (r : Ram) : Bool :=
  let activePipeHandoff :=
    r.flagAboutToWarpInPipe ≠ 0 ∨ (r.playerPipeAction ≠ 0 ∧ r.playerPipeAction < 4)
  r.miscGameMode = 0x14 ∧ r.playerCurrentState = 0 ∧ ¬ activePipeHandoff ∧ r.timerEndLevel = 0 ∧
    r.timerEndLevelViaKeyhole = 0

/-- `smw_falcon_ground_run_wall_state`. -/
def smwFalconGroundRunWallState (state : CEnum FalconState) : Bool :=
  state = .is .dash ∨ state = .is .run ∨ state = .is .turnRun

namespace Host

/-- `player_in_air_flag = value`. -/
def setInAir (h : Host) (value : UInt8) : Host :=
  { h with
    ram := { h.ram with playerInAirFlag := value }
    airWrites := value :: h.airWrites }

/-- `smw_falcon_clear_step_wall_latch`. -/
def clearStepWallLatch (h : Host) : Host :=
  { h with s := { h.s with
    stepWall := { h.s.stepWall with latched := false, direction := 0, blocked := 0 } } }

/-- `smw_falcon_restore_step_wall_latch`. -/
def restoreStepWallLatch (h : Host) : Host :=
  let w := h.s.stepWall
  let h := h.setInAir w.inAir
  { h with ram := { h.ram with
    playerXpos := w.x
    playerYpos := w.y
    playerSubXpos := w.subX
    playerSubYpos := w.subY
    playerSubXspeed := 0
    playerSubYspeed := 0
    playerXspeed := 0
    playerYspeed := 0
    playerFacingDirection := w.facing
    playerBlockedFlags := (h.ram.playerBlockedFlags &&& 0xE0) ||| w.blocked } }

/-- The wall becomes the latched one, and is restored at once. -/
def latchWall (h : Host) (w : StepWall) : Host :=
  { h with s := { h.s with stepWall := w } }.restoreStepWallLatch

/-- `smw_falcon_install_step_wall_latch`. -/
def installStepWallLatch (h : Host) (blockedFlags : UInt8) : Host :=
  h.latchWall {
    latched := true
    direction := h.s.lastInputDirection
    x := h.s.before.x
    y := h.s.before.y
    subX := h.s.before.subX
    subY := h.s.before.subY
    inAir := h.s.before.inAir
    facing := h.ram.playerFacingDirection
    blocked := (blockedFlags &&& 0x03) ||| 0x04 }

/-- `smw_falcon_install_current_step_wall_latch`. -/
def installCurrentStepWallLatch (h : Host) (direction : Int) (blockedFlags : UInt8) : Host :=
  h.latchWall {
    latched := true
    direction := direction
    x := h.ram.playerXpos
    y := h.ram.playerYpos
    subX := h.ram.playerSubXpos
    subY := h.ram.playerSubYpos
    inAir := h.ram.playerInAirFlag
    facing := h.ram.playerFacingDirection
    blocked := (blockedFlags &&& 0x03) ||| 0x04 }

/-- `smw_falcon_note_wall_safety_context`. -/
def noteWallSafetyContext (h : Host) : Host :=
  let safety := h.s.wallSafety
  let r := h.ram
  let safety :=
    if r.playerInAirFlag = 0 ∧ (r.playerBlockedFlags &&& 0x03 ≠ 0 ∨ h.s.stepWall.latched) then
      { safety with hazardArmed := true, recentFrames := SMW_FALCON_WALL_SAFETY_FRAMES }
    else if safety.recentFrames ≠ 0 then { safety with recentFrames := safety.recentFrames - 1 }
    else if r.playerInAirFlag = 0 ∧ r.playerBlockedFlags &&& 0x04 ≠ 0 ∧
        ¬ smwFalconGroundRunWallState h.foreign.state.state then
      { safety with hazardArmed := false }
    else safety
  { h with s := { h.s with wallSafety := safety } }

/-- `smw_falcon_remember_wall_safe_ground`. -/
def rememberWallSafeGround (h : Host) : Host :=
  let r := h.ram
  if ¬ h.foreign.active ∨ h.foreign.ownership ≠ .foreign ∨ r.miscGameMode ≠ 0x14 ∨
      r.playerCurrentState ≠ 0 ∨ r.playerInAirFlag ≠ 0 ∨ r.playerBlockedFlags &&& 0x04 = 0 ∨
      r.playerXpos ≥ 0xF000 then h
  else
    { h with s := { h.s with
      wallSafety := { h.s.wallSafety with
        valid := true
        x := r.playerXpos
        y := r.playerYpos
        subX := r.playerSubXpos
        subY := r.playerSubYpos
        facing := r.playerFacingDirection
        blocked := (r.playerBlockedFlags &&& 0x03) ||| 0x04 } } }

/-- `smw_falcon_wall_safety_should_restore`. -/
def wallSafetyShouldRestore (h : Host) : Bool :=
  let r := h.ram
  let safety := h.s.wallSafety
  if ¬ safety.valid ∨ ¬ h.foreign.active ∨ r.miscGameMode ≠ 0x14 then false
  else
    let dx := delta16 r.playerXpos safety.x
    let dy := delta16 r.playerYpos safety.y
    if r.playerCurrentState = 9 then
      safety.hazardArmed ∨ safety.recentFrames ≠ 0 ∨ r.playerXpos ≥ 0xF000
    else if r.playerXpos ≥ 0xF000 then true
    else if ¬ safety.hazardArmed ∧ safety.recentFrames = 0 then false
    else if dx > SMW_FALCON_WALL_OOB_MAX_DELTA ∨ dx < -SMW_FALCON_WALL_OOB_MAX_DELTA then true
    else if dy > 24 ∧ r.playerInAirFlag ≠ 0 then true
    else r.playerInAirFlag ≠ 0 ∧ r.playerBlockedFlags &&& 0x03 ≠ 0

/-- `smw_falcon_reseed`. -/
def reseed (h : Host) (state : FighterState) : Host :=
  { h with foreign := { h.foreign with state := { state with
    grounded := h.ram.playerInAirFlag = 0
    airCause := .none
    facingRight := h.ram.playerFacingDirection ≠ 0 } } }

/-- `snes_foreign_resolve`: only an active controller that owns movement is told. -/
def resolve (h : Host) : Host :=
  if h.foreign.active ∧ h.foreign.ownership = .foreign then
    { h with foreign := { h.foreign with state := h.foreign.controller.resolve h.foreign.state } }
  else h

/-- `s_pending = 0; s_force_airborne_pending = 0; s_force_airborne_frames = 0`. -/
def dropDeparture (h : Host) : Host :=
  { h with s := { h.s with
    pending := false
    forceAirbornePending := false
    forceAirborneFrames := 0 } }

/-- The remembered place, standing, with the blocked flags `restoreBlocked`. -/
def standSafely (h : Host) (restoreBlocked : UInt8) : Host :=
  let safety := h.s.wallSafety
  let h := h.setInAir 0
  { h with
    ram := { h.ram with
      playerCurrentState := 0
      playerXpos := safety.x
      playerYpos := safety.y
      playerSubXpos := safety.subX
      playerSubYpos := safety.subY
      playerXspeed := 0
      playerYspeed := 0
      playerSubXspeed := 0
      playerSubYspeed := 0
      playerFacingDirection := safety.facing
      playerBlockedFlags := restoreBlocked }
    foreign := { h.foreign with ownership := .foreign } }

/-- `smw_falcon_restore_wall_safe_ground`. -/
def restoreWallSafeGround (h : Host) : Host :=
  if h.wallSafetyShouldRestore then
    let safety := h.s.wallSafety
    let observedSide := h.ram.playerBlockedFlags &&& 0x03
    let restoreBlocked :=
      (if observedSide ≠ 0 then observedSide else safety.blocked &&& 0x03) ||| 0x04
    let direction : Int :=
      if restoreBlocked &&& 0x01 ≠ 0 then 1
      else if restoreBlocked &&& 0x02 ≠ 0 then -1
      else if safety.facing ≠ 0 then 1 else -1
    let h := h.standSafely restoreBlocked
    let h := if h.foreign.active then (h.reseed h.foreign.state).resolve else h
    let h := (h.installCurrentStepWallLatch direction restoreBlocked).dropDeparture
    { h with s := { h.s with
      wallSafety := { h.s.wallSafety with
        hazardArmed := true
        recentFrames := SMW_FALCON_WALL_SAFETY_FRAMES } } }
  else h

/-- `s_force_airborne_pending = 0; s_force_airborne_frames = 0`. -/
def endDeparture (h : Host) : Host :=
  { h with s := { h.s with forceAirbornePending := false, forceAirborneFrames := 0 } }

/-- `s_force_airborne_pending = 1; s_force_airborne_frames = 0`. -/
def startDeparture (h : Host) : Host :=
  { h with s := { h.s with forceAirbornePending := true, forceAirborneFrames := 0 } }

/-- `smw_falcon_hold_departure_edge`. -/
def holdDepartureEdge (h : Host) (advanceTimeout : Bool) : Host :=
  if ¬ h.s.forceAirbornePending then h
  else
    let frames := if advanceTimeout then h.s.forceAirborneFrames + 1 else h.s.forceAirborneFrames
    if advanceTimeout ∧ frames > SMW_FALCON_DEPARTURE_MAX_FRAMES then
      h.endDeparture
    else
      let h := { h with s := { h.s with forceAirborneFrames := frames } }.setInAir 1
      if signed8 h.ram.playerYspeed ≥ 0 then
        { h with ram := { h.ram with playerYspeed := 0xF0 } }
      else h

end Host

/-! ## The seam in front of the native physics -/

/-- The sign of a stick. -/
def heldDirection (stick : ℚ) : Int :=
  if stick > 0 then 1 else if stick < 0 then -1 else 0

/-- What a frame brings to `SmwFalconBeforePhysics`: the sampled input and the Dive snap. -/
structure Tick where
  input : ForeignInput
  snapX : UInt16
  snapY : UInt16

/-- `s_wall_safety_recent_frames = 0; s_wall_safety_hazard_armed = 0; s_wall_safety_valid = 0`. -/
def Host.forgetWallSafety (h : Host) : Host :=
  { h with s := { h.s with
    wallSafety :=
      { h.s.wallSafety with recentFrames := 0, hazardArmed := false, valid := false } } }

/-- Movement that was the controller's becomes the script's. -/
def Host.handOver (h : Host) : Host :=
  { h with foreign := { h.foreign with
    ownership := if h.foreign.ownership = .foreign then .scripted else h.foreign.ownership } }

/-- Movement that was not the controller's is reclaimed; `false` when the selection is refused. -/
def Host.reclaim (h : Host) : Host × Bool :=
  if h.foreign.ownership ≠ .foreign then
    let h := h.clearStepWallLatch
    match h.foreign.controller.select with
    | none => (h, false)
    | some state =>
      let h := h.reseed state
      ({ h with foreign := { h.foreign with ownership := .foreign } }, true)
  else (h, true)

/-- `smw_falcon_snap_dive_toward_target`. -/
def Host.snapDive (h : Host) (t : Tick) : Host :=
  { h with ram := { h.ram with
    playerXpos := h.ram.playerXpos + t.snapX
    playerYpos := h.ram.playerYpos + t.snapY } }

/-- `SmwFalconBeforePhysics` up to the pre-tick hold; the flag says whether the call goes on. -/
def beforeTick (h : Host) (t : Tick) : Host × Bool :=
  let h := h.restoreWallSafeGround
  if ¬ h.foreign.active then (h.clearStepWallLatch.forgetWallSafety, false)
  else if ¬ smwFalconPlayable h.ram then
    (h.handOver.dropDeparture.clearStepWallLatch, false)
  else
    let reclaimed := h.reclaim
    if ¬ reclaimed.2 then reclaimed
    else
      let h := (reclaimed.1.noteWallSafetyContext.rememberWallSafeGround).snapDive t
      (if h.s.forceAirbornePending then h.holdDepartureEdge true else h, true)

/-- A fresh press into the wall the player stands at latches it, and is not handed on. -/
def seedHeldWall (h : Host) (input : ForeignInput) : Host × ForeignInput :=
  let direction := heldDirection input.stickX
  let expectedSide : UInt8 := if direction > 0 then 0x01 else if direction < 0 then 0x02 else 0
  if ¬ h.s.stepWall.latched ∧ h.foreign.state.grounded ∧ h.ram.playerInAirFlag = 0 ∧
      expectedSide ≠ 0 ∧ h.ram.playerBlockedFlags &&& 0x04 ≠ 0 ∧
      h.ram.playerBlockedFlags &&& 0x03 = expectedSide then
    (h.installCurrentStepWallLatch direction h.ram.playerBlockedFlags, { input with stickX := 0 })
  else (h, input)

/-- A latched wall is released, or keeps the stick at neutral. -/
def heldWall (h : Host) (input : ForeignInput) : Host × ForeignInput :=
  if h.s.stepWall.latched then
    if heldDirection input.stickX ≠ h.s.stepWall.direction ∨ input.jumpPressed ∨
        ¬ h.foreign.state.grounded ∨ h.ram.playerInAirFlag ≠ h.s.stepWall.inAir then
      (h.clearStepWallLatch, input)
    else (h, { input with stickX := 0 })
  else (h, input)

/-- What the controller is told of the ground, and the direction that was sampled. -/
def Host.tellGround (h : Host) (input : ForeignInput) : Host :=
  let state := h.foreign.state
  let airCause : ForeignAirCause :=
    if state.grounded ∧ h.ram.playerInAirFlag ≠ 0 then
      if signed8 h.ram.playerYspeed < 0 then .launched else .fell
    else .none
  { h with
    foreign := { h.foreign with state := { state with
      airCause := airCause
      grounded := h.ram.playerInAirFlag = 0 } }
    s := { h.s with lastInputDirection := heldDirection input.stickX } }

/-- From the input to the tick of the controller, which owns movement by then. -/
def controllerTick (h : Host) (t : Tick) : Host :=
  let seeded := seedHeldWall (h.tellGround t.input) t.input
  let stopped := heldWall seeded.1 seeded.2
  let h := stopped.1
  let answer := h.foreign.controller.tick stopped.2 h.foreign.state
  { h with foreign := { h.foreign with state := answer.2 }, s := { h.s with lastMove := answer.1 } }

/-- The snapshot `SmwFalconAfterPhysics` measures against, and the velocities of the frame. -/
def commitVelocity (h : Host) : Host :=
  if h.s.stepWall.latched then
    let h := h.restoreStepWallLatch
    let w := h.s.stepWall
    { h with s := { h.s with before := ⟨w.x, w.y, w.subX, w.subY, w.inAir⟩, pending := true } }
  else
    let r := h.ram
    { h with
      s := { h.s with
        before := ⟨r.playerXpos, r.playerYpos, r.playerSubXpos, r.playerSubYpos, r.playerInAirFlag⟩
        pending := true }
      ram := { r with
        playerXspeed := h.s.lastMove.xspeed
        playerYspeed := h.s.lastMove.yspeed
        playerSubXspeed := 0
        playerSubYspeed := 0
        playerFacingDirection := if h.foreign.state.facingRight then 1 else 0 } }

/-- The controller asks for a departure. -/
def Host.requestsDeparture (h : Host) : Bool :=
  h.s.lastMove.forceAirborne ∨ h.foreign.state.jumpPhase = .launch

/-- The departure edge after the velocities were committed. -/
def armDeparture (h : Host) : Host :=
  let departureStarted : Bool := h.requestsDeparture ∧ ¬ h.s.forceAirbornePending
  let h := if departureStarted then h.startDeparture else h
  if h.s.forceAirbornePending then h.holdDepartureEdge departureStarted else h

/-- `SmwFalconBeforePhysics`. -/
def beforePhysics (h : Host) (t : Tick) : Host :=
  let r := beforeTick h t
  if r.2 then armDeparture (commitVelocity (controllerTick r.1 t).noteWallSafetyContext) else r.1

/-! ## The seams behind it -/

/-- A grounded Kick stops where the tick found it. -/
def Host.stopAtWall (h : Host) (blockedFlags : UInt8) : Host :=
  let b := h.s.before
  let h := h.setInAir b.inAir
  { h with ram := { h.ram with
    playerXpos := b.x
    playerYpos := b.y
    playerSubXpos := b.subX
    playerSubYpos := b.subY
    playerSubXspeed := 0
    playerSubYspeed := 0
    playerXspeed := 0
    playerYspeed := 0
    playerBlockedFlags := blockedFlags } }

/-- `SmwFalconBeforeCrushCheck`. -/
def beforeCrushCheck (h : Host) : Host :=
  let r := h.ram
  let b := h.s.before
  let dy := delta16 r.playerYpos b.y
  let state := h.foreign.state
  let groundedKick : Bool := state.grounded ∧ state.state = .is .falconKickGround
  let motionDirection := h.s.lastMove.heading
  let expectedSide : UInt8 := if motionDirection > 0 then 0x01 else 0x02
  if ¬ h.s.pending ∨ ¬ h.foreign.active ∨ h.foreign.ownership ≠ .foreign ∨ ¬ smwFalconPlayable r ∨
      r.playerBlockedFlags &&& 0x1C ≠ 0x1C ∨ b.inAir ≠ 0 ∨ dy < -1 ∨ dy > 1 then h
  else if ¬ state.grounded ∨ motionDirection = 0 ∨
      (¬ groundedKick ∧ ¬ smwFalconGroundRunWallState state.state) then h
  else if r.playerBlockedFlags &&& 0x03 ≠ expectedSide then h
  else if groundedKick then
    (h.stopAtWall ((r.playerBlockedFlags &&& 0x03) ||| 0x04)).resolve.dropDeparture
  else h.installStepWallLatch r.playerBlockedFlags

/-- Native collision accepted the departure: airborne after a whole pixel up, below no ceiling. -/
def Host.liftAccepted (h : Host) : Bool :=
  h.s.pending ∧ h.foreign.ownership = .foreign ∧ h.s.forceAirbornePending ∧
    delta16 h.ram.playerYpos h.s.before.y < 0 ∧ h.ram.playerInAirFlag ≠ 0 ∧
    h.ram.playerBlockedFlags &&& 0x08 = 0

def Host.withRam (h : Host) (ram : Ram) : Host := { h with ram := ram }

/-- `s_pending = 0`. -/
def Host.settle (h : Host) : Host := { h with s := { h.s with pending := false } }

/-- `SmwFalconAfterPhysics`; `combat` is what the native routines of `smw_falcon_apply_combat_once`
leave of RAM. -/
def afterPhysics (h : Host) (combat : Ram → Ram) : Host :=
  if ¬ h.s.pending ∨ h.foreign.ownership ≠ .foreign then h
  else
    let grounded : Bool := ¬ h.s.forceAirbornePending ∧ h.ram.playerInAirFlag = 0
    let h := if h.liftAccepted then h.endDeparture else h
    let state := h.foreign.state
    let sideBits := h.ram.playerBlockedFlags &&& 0x03
    let expectedSide : UInt8 := if h.foreign.active ∧ ¬ state.facingRight then 0x02 else 0x01
    let h :=
      if h.foreign.active ∧ grounded ∧ sideBits ≠ 0 ∧ h.s.before.inAir = 0 ∧
          smwFalconGroundRunWallState state.state ∧ h.s.lastInputDirection ≠ 0 ∧
          h.s.lastInputDirection = (if state.facingRight then 1 else -1) ∧
          sideBits = expectedSide then
        h.installStepWallLatch h.ram.playerBlockedFlags
      else h
    (h.withRam (combat h.ram)).resolve.restoreWallSafeGround.rememberWallSafeGround.settle

/-- `smw_falcon_finish_skipped_direct_air_kick_landing`. -/
def finishSkippedDirectAirKickLanding (h : Host) : Host :=
  if ¬ h.s.pending ∨ h.s.forceAirbornePending ∨ h.ram.playerInAirFlag ≠ 0 ∨ ¬ h.foreign.active ∨
      ¬ smwFalconPlayable h.ram ∨ h.foreign.ownership ≠ .foreign ∨
      h.foreign.state.state ≠ .is .falconKickAir then h
  else
    h.resolve.settle

/-- `SmwFalconBeforeNormalSprites`. -/
def beforeNormalSprites (h : Host) : Host :=
  finishSkippedDirectAirKickLanding h.restoreWallSafeGround

/-- `SmwFalconOnStateLoaded`. -/
def onStateLoaded (h : Host) : Host :=
  let h := h.dropDeparture.forgetWallSafety.clearStepWallLatch
  { h with s := { h.s with lastInputDirection := 0, lastMove := ⟨0, 0, 0, false⟩ } }

end SmwRecomp.Falcon
