import SmwRecomp.Coop.Types
import SmwRecomp.Lib.Keyed
import Mathlib.Data.List.Sort

/-!
# The co-op session operations

`src/src/mods/coop/coop_session.c`, function by function.

* A function that returns `bool` and writes `*s` returns the pair; null pointers are not modelled,
  except that a session without players stands for `s->players == NULL`.
* A `CoopPlayer *` obtained from `coop_player` is the record found; writing through it is
  `putPlayer`.
* `int64_t` intermediates are `Int` and the squared distances `Nat`: none of them can leave its
  64-bit type.
* `qsort` is insertion sort by `compare_event`; the order is total on whole records, so every
  sorting routine returns the same array.
-/

set_option autoImplicit false

namespace SmwRecomp.Coop

def sizeofCoopPlayer : Nat := 80
def sizeofCoopEvent : Nat := 32
def sizeofCoopAction : Nat := 16
def sizeofCoopPlayerId : Nat := 4

/-! ## Storage -/

/-- The doubling loop of `grow`; 64 doublings exhaust `size_t`. -/
def growNext : Nat → Nat → Nat → Nat
  | 0, next, _ => next
  | fuel + 1, next, count =>
    if next < count then
      if next > SIZE_MAX / 2 then count else growNext fuel (next * 2) count
    else next

/-- `grow`: the capacity after room for `count` records was asked for, `none` when refused. -/
def grow (allocator : Allocator) (capacity count stride : Nat) : Option Nat × Allocator :=
  if count ≤ capacity then (some capacity, allocator)
  else if count > SIZE_MAX / stride then (none, allocator)
  else
    let next := growNext 64 (if capacity = 0 then 16 else capacity) count
    let next := if next > SIZE_MAX / stride then count else next
    match allocator.request with
    | (true, rest) => (some next, rest)
    | (false, rest) => (none, rest)

/-- A player as `coop_session_init` writes it over its zeroed record. -/
def initPlayer (i : Nat) : CoopPlayer where
  id := UInt32.ofNat i
  character := UInt32.ofNat i
  life := .is .playing
  power := .is .small
  reserve := 0
  x := 0
  y := 0
  halfWidth := 8
  height := 16
  starTicks := 0
  protectionTicks := 0
  recoveryTicks := 0
  separationTicks := 0
  mount := COOP_NO_ENTITY
  heldObject := COOP_NO_ENTITY
  heldInput := 0
  pressedInput := 0
  actionLatch := 0
  connected := true
  grounded := false
  swimming := false
  supportedFlight := false
  behindFence := false
  checkpointUpgrade := false

def initCamera : CoopCamera where
  x := 0
  y := 0
  width := 0
  height := 0
  roomWidth := 0
  roomHeight := 0
  previousCenterX := 0
  previousCenterY := 0
  travelX := 0
  travelY := 0
  leader := COOP_NO_PLAYER
  initialized := false
  autoscroll := false

/-- `coop_session_init`. -/
def coopSessionInit (allocator : Allocator) (count : Nat) (hz : UInt32) : Option CoopSession :=
  if count < 2 ∨ count ≥ COOP_NO_PLAYER.toNat ∨ count > SIZE_MAX / sizeofCoopPlayer ∨ hz = 0 ∨
      hz > 1000 then none
  else
    match allocator.request with
    | (false, _) => none
    | (true, rest) => some {
        players := (List.range count).map initPlayer
        primary := 0
        camera := initCamera
        frame := 0
        ticksPerSecond := hz
        lives := 5
        coins := 0
        score := 0
        dragonCoins := 0
        bonusStars := 0
        checkpoint := 0
        levelTicks := 0
        outcome := .is .continue
        advancing := false
        inputBlocked := false
        failed := false
        resolved := false
        events := []
        eventCapacity := 0
        actions := []
        actionCapacity := 0
        allocator := rest }

/-! ## Players -/

/-- `coop_player` and `coop_player_const`. -/
def coopPlayer (s : CoopSession) (id : CoopPlayerId) : Option CoopPlayer :=
  findKey CoopPlayer.id id s.players

/-- A write through the pointer `coop_player` returned. -/
def putPlayer (s : CoopSession) (p : CoopPlayer) : CoopSession :=
  { s with players := putKey CoopPlayer.id p s.players }

/-- `coop_active_count`. -/
def coopActiveCount (s : CoopSession) : Nat :=
  s.players.countP (fun p => p.life = .is .playing)

/-- `emit`. -/
def emit (s : CoopSession) (kind : CoopActionKind) (player : CoopPlayerId) (entity : CoopEntityId)
    (value : UInt32) : CoopSession :=
  if s.actions.length = SIZE_MAX then { s with failed := true }
  else
    match grow s.allocator s.actionCapacity (s.actions.length + 1) sizeofCoopAction with
    | (none, rest) => { s with failed := true, allocator := rest }
    | (some capacity, rest) =>
      { s with actions := s.actions ++ [⟨.is kind, player, entity, value⟩],
               actionCapacity := capacity, allocator := rest }

/-! ## Frames and events -/

/-- The timers one advancing frame counts down. -/
def tickPlayer (p : CoopPlayer) : CoopPlayer :=
  { p with
    starTicks := if p.starTicks = 0 then 0 else p.starTicks - 1
    protectionTicks := if p.protectionTicks = 0 then 0 else p.protectionTicks - 1
    recoveryTicks := if p.recoveryTicks = 0 then 0 else p.recoveryTicks - 1 }

/-- `coop_session_begin_frame`. -/
def coopSessionBeginFrame (s : CoopSession) (advances : Bool) : Bool × CoopSession :=
  if s.players = [] ∨ s.failed then (false, s)
  else
    let blocked := s.players.any (fun p => !p.connected)
    let s := { s with
      events := [], actions := [], resolved := false, inputBlocked := blocked,
      advancing := advances && !blocked && decide (s.outcome = .is .continue) }
    if !s.advancing then (true, s)
    else (true, { s with frame := s.frame + 1, players := s.players.map tickPlayer })

/-- The test at the head of `coop_session_event`: whether the event may be stored. -/
def eventAllowed (s : CoopSession) (event : CoopEvent) : Bool :=
  !(s.inputBlocked || s.failed || s.resolved || decide (s.outcome ≠ .is .continue) ||
    (!s.advancing && decide (event.kind ≠ .is .exit)) ||
    (decide (event.player ≠ COOP_NO_PLAYER) && (coopPlayer s event.player).isNone) ||
    decide (event.kind.toWord > Enumeration.code CoopEventKind.exit) ||
    decide (event.kind.toWord < Enumeration.code CoopEventKind.pickup))

/-- `coop_session_event`. -/
def coopSessionEvent (s : CoopSession) (event : CoopEvent) : Bool × CoopSession :=
  if !eventAllowed s event then (false, s)
  else if s.events.length = SIZE_MAX then (false, { s with failed := true })
  else
    match grow s.allocator s.eventCapacity (s.events.length + 1) sizeofCoopEvent with
    | (none, rest) => (false, { s with failed := true, allocator := rest })
    | (some capacity, rest) =>
      (true, { s with events := s.events ++ [event], eventCapacity := capacity, allocator := rest })

def UINT64_MAX : Nat := 2 ^ 64 - 1

/-- `distance2`: the squared distance, saturating. -/
def distance2 (ax ay bx byy : Int32) : Nat :=
  let dx := ax.toInt - bx.toInt
  let dy := ay.toInt - byy.toInt
  let x := dx.natAbs * dx.natAbs
  let y := dy.natAbs * dy.natAbs
  if UINT64_MAX - x < y then UINT64_MAX else x + y

/-- `coop_player_precedes`. -/
def coopPlayerPrecedes (s : CoopSession) (a b : CoopPlayerId) : Bool :=
  if a = b then false
  else if a = s.primary then true
  else if b = s.primary then false
  else decide (a < b)

/-- The order of `compare_event`: field by field, the first difference decides. -/
def compareEvent (a b : CoopEvent) : Ordering :=
  (compare a.kind.toWord b.kind.toWord).then <|
  (compare a.entity b.entity).then <|
  (compare a.player b.player).then <|
  (compare a.value b.value).then <|
  (compare a.flags b.flags).then
  (compare a.distanceSquared b.distanceSquared)

/-- `qsort` of the frame's events. -/
def sortEvents (events : List CoopEvent) : List CoopEvent :=
  events.insertionSort (fun a b => (compareEvent a b).isLE)

/-! ## Resolution -/

/-- `if (p->held_object != COOP_NO_ENTITY) emit(... DROP_OBJECT ...)`. -/
def dropHeld (s : CoopSession) (p : CoopPlayer) : CoopSession :=
  if p.heldObject ≠ COOP_NO_ENTITY then emit s .dropObject p.id p.heldObject 0 else s

/-- `if (p->mount != COOP_NO_ENTITY) emit(... DETACH_MOUNT ...)`. -/
def detachMount (s : CoopSession) (p : CoopPlayer) : CoopSession :=
  if p.mount ≠ COOP_NO_ENTITY then emit s .detachMount p.id p.mount 0 else s

/-- The record of a player that has just died. -/
def deadPlayer (p : CoopPlayer) : CoopPlayer :=
  { p with
    heldObject := COOP_NO_ENTITY, mount := COOP_NO_ENTITY, life := .is .dying, power := .is .small,
    starTicks := 0, protectionTicks := 0, separationTicks := 0, checkpointUpgrade := false }

/-- `die`, on the record `p` that `coop_player` returned. -/
def die (s : CoopSession) (p : CoopPlayer) : CoopSession :=
  if p.life ≠ .is .playing then s
  else
    emit (putPlayer (detachMount (dropHeld s p) p) (deadPlayer p)) .death p.id COOP_NO_ENTITY 0

/-- What the first loop of `coop_session_resolve` collects. -/
structure Terminal where
  exit : Option CoopEvent
  timeout : Bool
  goalStars : UInt32
  deriving DecidableEq, Repr

/-- First loop: terminal events. -/
def terminalStep (s : CoopSession) (t : Terminal) (e : CoopEvent) : Terminal :=
  let t := if e.kind = .is .timeout then { t with timeout := true } else t
  if e.kind ≠ .is .exit then t
  else
    let t := if e.value > t.goalStars then { t with goalStars := e.value } else t
    match t.exit with
    | none => { t with exit := some e }
    | some x =>
      if (e.flags &&& COOP_EVENT_SECRET) > (x.flags &&& COOP_EVENT_SECRET) ∨
          ((e.flags &&& COOP_EVENT_SECRET) = (x.flags &&& COOP_EVENT_SECRET) ∧
            coopPlayerPrecedes s e.player x.player) then { t with exit := some e }
      else t

/-- Second loop: lethal hits precede nonlethal reserve drops and catch-up. -/
def lethalStep (s : CoopSession) (e : CoopEvent) : CoopSession :=
  match coopPlayer s e.player with
  | none => s
  | some p =>
    if e.kind = .is .death ∨ (e.kind = .is .damage ∧ e.flags &&& COOP_EVENT_LETHAL ≠ 0) then die s p
    else s

/-- State of the inner loop over one pickup or contact group. -/
structure Contest where
  winner : Option CoopEvent
  bounced : CoopPlayerId
  session : CoopSession

/-- Whether contender `v` displaces the present winner. -/
def beats (s : CoopSession) (v : CoopEvent) : Option CoopEvent → Bool
  | none => true
  | some w =>
    decide (v.distanceSquared < w.distanceSquared) ||
      (decide (v.distanceSquared = w.distanceSquared) && coopPlayerPrecedes s v.player w.player)

def Contest.contend (g : Contest) (v : CoopEvent) : Contest :=
  if beats g.session v g.winner then { g with winner := some v } else g

/-- A stomping contender bounces, once for consecutive events of one player. -/
def Contest.bounce (e : CoopEvent) (g : Contest) (v : CoopEvent) : Contest :=
  if e.kind = .is .enemyContact ∧ v.flags &&& COOP_EVENT_STOMP ≠ 0 ∧ g.bounced ≠ v.player then
    { g with session := emit g.session .stompBounce v.player v.entity 0, bounced := v.player }
  else g

/-- One event `v` of the group that `e` opens. -/
def contestStep (e : CoopEvent) (g : Contest) (v : CoopEvent) : Contest :=
  match coopPlayer g.session v.player with
  | none => g
  | some actor => if actor.life ≠ .is .playing then g else (g.contend v).bounce e v

/-- The `PICKUP` and `ENEMY_CONTACT` cases for the whole group that `e` opens. -/
def contest (s : CoopSession) (e : CoopEvent) (group : List CoopEvent) : CoopSession :=
  let g := group.foldl (contestStep e) ⟨none, COOP_NO_PLAYER, s⟩
  match g.winner with
  | none => g.session
  | some w =>
    emit g.session (if e.kind = .is .pickup then .pickup else .enemyDamage) w.player
      w.entity w.value

/-- Whether `v` continues the group `e` opens. -/
def sameGroup (e v : CoopEvent) : Bool := decide (v.kind = e.kind) && decide (v.entity = e.entity)

/-- The checkpoint's effect on one player. -/
def checkpointPlayer (a : CoopPlayer) : CoopPlayer :=
  { a with
    power := if a.power = .is .small then .is .big else a.power
    checkpointUpgrade := if a.life ≠ .is .playing then true else a.checkpointUpgrade }

/-- Loop state of the third loop. -/
structure Pass where
  session : CoopSession
  switchDone : Bool
  checkpointDone : Bool

def dropReserve (s : CoopSession) (p : CoopPlayer) : CoopSession :=
  if p.reserve ≠ 0 then emit s .dropReserve p.id COOP_NO_ENTITY p.reserve else s

/-- The record of a player that has just taken nonlethal damage. -/
def damagedPlayer (s : CoopSession) (p : CoopPlayer) : CoopPlayer :=
  { p with reserve := 0, power := .is .small, protectionTicks := s.ticksPerSecond * 2 }

/-- `case COOP_EVENT_DAMAGE`, on the player the event names. -/
def damageStep (s : CoopSession) (e : CoopEvent) (p : CoopPlayer) : CoopSession :=
  if p.life ≠ .is .playing ∨ p.starTicks ≠ 0 ∨ p.protectionTicks ≠ 0 then s
  else if e.flags &&& COOP_EVENT_LETHAL ≠ 0 then s
  else emit (putPlayer (dropReserve s p) (damagedPlayer s p)) .damage p.id COOP_NO_ENTITY 0

/-- `case COOP_EVENT_DEATH_FINISHED`. -/
def deathFinishedStep (s : CoopSession) (p : CoopPlayer) : CoopSession :=
  if p.life = .is .dying then
    putPlayer s { p with life := .is .deathBubble, recoveryTicks := s.ticksPerSecond * 3 }
  else s

/-- `case COOP_EVENT_CHECKPOINT`, the first of the frame. -/
def checkpointStep (s : CoopSession) (e : CoopEvent) : CoopSession :=
  emit { s with checkpoint := e.value, players := s.players.map checkpointPlayer }
    .checkpoint e.player e.entity e.value

/-- Third loop, one iteration: the new state and how many further events it has consumed. -/
def eventStep (g : Pass) (e : CoopEvent) (rest : List CoopEvent) : Pass × Nat :=
  match e.kind with
  | .is .pickup | .is .enemyContact =>
    let tail := rest.takeWhile (sameGroup e)
    ({ g with session := contest g.session e (e :: tail) }, tail.length)
  | .is .onOff =>
    ({ g with
      session := if !g.switchDone then emit g.session .onOff e.player e.entity 0 else g.session
      switchDone := true }, 0)
  | .is .checkpoint =>
    if g.checkpointDone then (g, 0)
    else ({ g with session := checkpointStep g.session e, checkpointDone := true }, 0)
  | .is .damage =>
    match coopPlayer g.session e.player with
    | none => (g, 0)
    | some p => ({ g with session := damageStep g.session e p }, 0)
  | .is .deathFinished =>
    match coopPlayer g.session e.player with
    | none => (g, 0)
    | some p => ({ g with session := deathFinishedStep g.session p }, 0)
  | _ => (g, 0)

/-- Third loop; the counter is the jump `i = end - 1` past a group already arbitrated. -/
def eventLoop : Pass → Nat → List CoopEvent → Pass
  | g, _, [] => g
  | g, skip + 1, _ :: rest => eventLoop g skip rest
  | g, 0, e :: rest => eventLoop (eventStep g e rest).1 (eventStep g e rest).2 rest

/-- A valid clear, won by event `x`. -/
def clearLevel (s : CoopSession) (x : CoopEvent) (goalStars : UInt32) : CoopSession :=
  emit { s with outcome := .is .clear } .exit x.player x.entity
    ((x.flags &&& COOP_EVENT_SECRET) ||| (goalStars <<< 8))

/-- The team's life charge. -/
def chargeLife (s : CoopSession) : CoopSession :=
  let lives := if s.lives ≠ 0 then s.lives - 1 else s.lives
  emit { s with lives := lives, outcome := .is (if lives ≠ 0 then .retry else .gameOver) }
    (if lives ≠ 0 then .retry else .gameOver) COOP_NO_PLAYER COOP_NO_ENTITY s.checkpoint

/-- The terminal outcome. -/
def finishFrame (s : CoopSession) (t : Terminal) : CoopSession :=
  match t.exit with
  | some x => clearLevel s x t.goalStars
  | none => if t.timeout ∨ coopActiveCount s = 0 then chargeLife s else s

/-- The passes of `coop_session_resolve` over the sorted events. -/
def resolvePasses (s : CoopSession) : CoopSession :=
  let t := s.events.foldl (terminalStep s) ⟨none, false, 0⟩
  let s := s.events.foldl lethalStep s
  let s := (eventLoop ⟨s, false, false⟩ 0 s.events).session
  finishFrame s t

/-- The session as the passes find it: marked, its events in the order of `compare_event`. -/
def beginResolve (s : CoopSession) : CoopSession :=
  { s with
    resolved := true
    events := if s.events.length > 1 then sortEvents s.events else s.events }

/-- `coop_session_resolve`. -/
def coopSessionResolve (s : CoopSession) : Bool × CoopSession :=
  if s.failed then (false, s)
  else if s.outcome ≠ .is .continue ∨ s.resolved then (true, s)
  else if !s.advancing ∧ s.events = [] then (true, s)
  else (!(resolvePasses (beginResolve s)).failed, resolvePasses (beginResolve s))

/-! ## Input -/

/-- `coop_player_input`. -/
def coopPlayerInput (p : CoopPlayer) (held actionMask : UInt32) : CoopPlayer :=
  let latch := p.actionLatch &&& held
  let effective := held &&& ~~~(latch &&& actionMask)
  let pressed := effective &&& ~~~p.heldInput
  if p.life ≠ .is .playing then
    { p with actionLatch := latch ||| (held &&& actionMask), heldInput := effective,
             pressedInput := pressed &&& ~~~actionMask }
  else { p with actionLatch := latch, heldInput := effective, pressedInput := pressed }

/-! ## Camera -/

/-- `clamp64`, with the cast back to `int32_t`. -/
def clamp64 (n : Int) (lo hi : Int32) : Int32 :=
  if n < lo.toInt then lo else if n > hi.toInt then hi else Int32.ofInt n

def CoopPlayer.left (p : CoopPlayer) : Int := p.x.toInt - p.halfWidth.toInt
def CoopPlayer.right (p : CoopPlayer) : Int := p.x.toInt + p.halfWidth.toInt
def CoopPlayer.top (p : CoopPlayer) : Int := p.y.toInt - p.height.toInt.tdiv 2
def CoopPlayer.bottom (p : CoopPlayer) : Int := p.y.toInt + p.height.toInt.tdiv 2

/-- The group's bounding box while `coop_camera_frame` collects it. -/
structure Extent where
  left : Int
  right : Int
  top : Int
  bottom : Int
  active : Nat

def INT32_MAX : Int := 2 ^ 31 - 1
def INT32_MIN : Int := -2 ^ 31
def INT64_MIN : Int := -2 ^ 63

def extentStep (b : Extent) (p : CoopPlayer) : Extent :=
  if p.life ≠ .is .playing then b
  else
    { left := if p.left < b.left then p.left else b.left
      right := if p.right > b.right then p.right else b.right
      top := if p.top < b.top then p.top else b.top
      bottom := if p.bottom > b.bottom then p.bottom else b.bottom
      active := b.active + 1 }

/-- The leader loop: the foremost player along the travel direction. -/
def leaderStep (s : CoopSession) (horizontal : Bool) (travel : Int32)
    (best : Option CoopPlayer × Int) (p : CoopPlayer) : Option CoopPlayer × Int :=
  if p.life ≠ .is .playing then best
  else
    let progress := (if horizontal then p.x else p.y).toInt * travel.toInt
    match best.1 with
    | none => (some p, progress)
    | some leader =>
      if progress > best.2 ∨ (progress = best.2 ∧ coopPlayerPrecedes s p.id leader.id) then
        (some p, progress)
      else best

/-- The sign of a centre movement, kept when there is none. -/
def travelSign (d : Int) (old : Int32) : Int32 := if d = 0 then old else if d > 0 then 1 else -1

/-- The part of `coop_camera_frame` behind `if (!active) return true`. -/
def frameGroup (s : CoopSession) (box : Extent) : CoopSession :=
  let c := s.camera
  let cx := Int32.ofInt ((box.left + box.right).tdiv 2)
  let cy := Int32.ofInt ((box.top + box.bottom).tdiv 2)
  let dx := cx.toInt - c.previousCenterX.toInt
  let dy := cy.toInt - c.previousCenterY.toInt
  let fits := box.right - box.left ≤ (c.width - 32).toInt ∧
    box.bottom - box.top ≤ (c.height - 32).toInt
  let c := if c.initialized ∧ fits then
      { c with travelX := travelSign dx c.travelX, travelY := travelSign dy c.travelY }
    else c
  let c := { c with previousCenterX := cx, previousCenterY := cy, initialized := true }
  let horizontal := decide (box.right - box.left - (c.width - 32).toInt ≥
    box.bottom - box.top - (c.height - 32).toInt)
  let travel := if horizontal then c.travelX else c.travelY
  let leader := (s.players.foldl (leaderStep s horizontal travel) (none, INT64_MIN)).1
  let focus := if fits then (COOP_NO_PLAYER, cx, cy)
    else match leader with
      | some p => (p.id, p.x, p.y)
      | none => (COOP_NO_PLAYER, cx, cy)  -- not reached: some player is active
  let c := { c with leader := focus.1 }
  let c := if c.autoscroll then c
    else { c with
      x := clamp64 (focus.2.1.toInt - (c.width / 2).toInt) 0
        (if c.roomWidth > c.width then c.roomWidth - c.width else 0)
      y := clamp64 (focus.2.2.toInt - (c.height / 2).toInt) 0
        (if c.roomHeight > c.height then c.roomHeight - c.height else 0) }
  { s with camera := c }

/-- `coop_camera_frame`. -/
def coopCameraFrame (s : CoopSession) (w h rw rh : Int32) (autoscroll : Bool) :
    Bool × CoopSession :=
  if s.failed ∨ w < 32 ∨ h < 32 ∨ rw < 1 ∨ rh < 1 then (false, s)
  else
    let resized := s.camera.width ≠ w ∨ s.camera.height ≠ h
    let s := { s with
      camera := { s.camera with
        width := w, height := h, roomWidth := rw, roomHeight := rh, autoscroll := autoscroll }
      players := if resized then s.players.map (fun p => { p with separationTicks := 0 })
        else s.players }
    let box : Extent := s.players.foldl extentStep ⟨INT32_MAX, INT32_MIN, INT32_MAX, INT32_MIN, 0⟩
    if box.active = 0 then (true, s) else (true, frameGroup s box)

/-- Whether a player's box leaves the frame. -/
def outsideFrame (c : CoopCamera) (p : CoopPlayer) : Bool :=
  decide (p.left < c.x.toInt) || decide (p.right > c.x.toInt + c.width.toInt) ||
    decide (p.top < c.y.toInt) || decide (p.bottom > c.y.toInt + c.height.toInt)

/-- The loop of `coop_camera_check_separation`: the session its emissions leave, the players
already visited and the running `active` count. -/
def separationLoop (resized : Bool) (s : CoopSession) (active : Nat) :
    List CoopPlayer → CoopSession × List CoopPlayer
  | [] => (s, [])
  | p :: rest =>
    if p.life ≠ .is .playing then
      let r := separationLoop resized s active rest
      (r.1, p :: r.2)
    else if !outsideFrame s.camera p ∨ p.id = s.camera.leader ∨ active ≤ 1 then
      let r := separationLoop resized s active rest
      (r.1, { p with separationTicks := 0 } :: r.2)
    else if resized then
      let r := separationLoop resized s active rest
      (r.1, p :: r.2)
    else if p.separationTicks + 1 < s.ticksPerSecond then
      let r := separationLoop resized s active rest
      (r.1, { p with separationTicks := p.separationTicks + 1 } :: r.2)
    else
      let r := separationLoop resized (dropHeld s p) (active - 1) rest
      (r.1, { p with heldObject := COOP_NO_ENTITY, life := .is .catchupBubble,
                     recoveryTicks := s.ticksPerSecond / 2, separationTicks := 0 } :: r.2)

/-- `coop_camera_check_separation`. -/
def coopCameraCheckSeparation (s : CoopSession) (resized : Bool) : Bool × CoopSession :=
  if s.failed then (false, s)
  else if !s.advancing ∨ s.outcome ≠ .is .continue ∨ s.camera.autoscroll then (true, s)
  else
    let r := separationLoop resized s (coopActiveCount s) s.players
    let s := { r.1 with players := r.2 }
    (!s.failed, s)

/-- `coop_camera_update`. -/
def coopCameraUpdate (s : CoopSession) (w h rw rh : Int32) (autoscroll : Bool) :
    Bool × CoopSession :=
  let resized := decide (s.camera.width ≠ w) || decide (s.camera.height ≠ h)
  match coopCameraFrame s w h rw rh autoscroll with
  | (false, s) => (false, s)
  | (true, s) => coopCameraCheckSeparation s resized

/-! ## Recovery and restart -/

/-- `CoopSafePlacement`.  The context pointer may lead back to the session, so the query also sees
the session as it is when it is asked. -/
abbrev CoopSafePlacement := CoopSession → CoopPlayer → CoopPlayer → Option (Int32 × Int32)

/-- The best placement found so far: anchor, squared distance, position. -/
abbrev Placement := CoopPlayerId × Nat × Int32 × Int32

/-- The inner loop of `coop_session_recover` over the anchors. -/
def placementStep (s : CoopSession) (safe : CoopSafePlacement) (p : CoopPlayer)
    (best : Placement) (anchor : CoopPlayerId) : Placement :=
  match coopPlayer s anchor with
  | none => best  -- not reached: anchors are players of the session
  | some a =>
    match safe s p a with
    | none => best
    | some (x, y) =>
      let d := distance2 p.x p.y x y
      if best.1 = COOP_NO_PLAYER ∨ d < best.2.1 ∨
          (d = best.2.1 ∧ coopPlayerPrecedes s a.id best.1) then (a.id, d, x, y)
      else best

/-- The record of a player returned to play at `(x, y)`. -/
def returnPlayer (s : CoopSession) (p : CoopPlayer) (x y : Int32) : CoopPlayer :=
  let p := if p.life = .is .deathBubble then
      { p with power := .is (if p.checkpointUpgrade then .big else .small),
               protectionTicks := 2 * s.ticksPerSecond }
    else p
  { p with life := .is .playing, x := x, y := y, checkpointUpgrade := false, pressedInput := 0 }

/-- One bubbled player of the loop of `coop_session_recover`. -/
def recoverStep (safe : CoopSafePlacement) (anchors : List CoopPlayerId) (s : CoopSession)
    (i : Nat) : CoopSession :=
  match s.players[i]? with
  | none => s
  | some p =>
    if (p.life ≠ .is .deathBubble ∧ p.life ≠ .is .catchupBubble) ∨ p.recoveryTicks ≠ 0 then s
    else
      let best := anchors.foldl (placementStep s safe p) (COOP_NO_PLAYER, UINT64_MAX, 0, 0)
      if best.1 = COOP_NO_PLAYER then s
      else
        emit { s with players := s.players.set i (returnPlayer s p best.2.2.1 best.2.2.2) }
          .recover p.id COOP_NO_ENTITY best.1

/-- `coop_session_recover`. -/
def coopSessionRecover (s : CoopSession) (safe : CoopSafePlacement) : Bool × CoopSession :=
  if s.failed then (false, s)
  else if !s.advancing ∨ s.outcome ≠ .is .continue then (true, s)
  else if s.players.length > SIZE_MAX / sizeofCoopPlayerId then (false, s)
  else
    match s.allocator.request with
    | (false, rest) => (false, { s with failed := true, allocator := rest })
    | (true, rest) =>
      let s := { s with allocator := rest }
      -- Anchors are fixed before any player returns.
      let anchors := (s.players.filter (fun p => p.life = .is .playing)).map CoopPlayer.id
      let s := (List.range s.players.length).foldl (recoverStep safe anchors) s
      (!s.failed, s)

/-- `coop_session_restart`. -/
def coopSessionRestart (s : CoopSession) : CoopSession :=
  { s with
    players := s.players.map fun p => { p with
      life := .is .playing, power := .is .small, mount := COOP_NO_ENTITY,
      heldObject := COOP_NO_ENTITY, starTicks := 0, protectionTicks := 0, recoveryTicks := 0,
      separationTicks := 0, checkpointUpgrade := false, pressedInput := 0 }
    outcome := .is .continue
    events := []
    actions := []
    camera := { s.camera with initialized := false, leader := COOP_NO_PLAYER } }

end SmwRecomp.Coop
