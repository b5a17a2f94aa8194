import SmwRecomp.Coop.Session
import SmwRecomp.Lib.Bytes

/-!
# Session snapshots

`src/src/mods/coop/coop_state.c`: the bidirectional stream, the check `valid`, saving and loading.

* A buffer is its bytes; `capacity` and `size` are its length.  A read or write outside it is the
  stop `outOfBounds`, a refusal (`return false`) the stop `refused`.
* What a refused save leaves in the caller's buffer is not modelled.
* A load answers the session its caller holds afterwards: the candidate, or the old one untouched.
-/

set_option autoImplicit false

namespace SmwRecomp.Coop

def HEADER_SIZE : Nat := 136
def PLAYER_SIZE : Nat := 96
def EVENT_SIZE : Nat := 28
def ACTION_SIZE : Nat := 16
def COOP_STATE_MAGIC : UInt32 := 0x504f4f43
def COOP_STATE_VERSION : UInt32 := 1

/-! ## The stream -/

/-- `Stream`; `pos` is the field `at`. -/
structure Stream where
  p : Bytes
  pos : Nat
  size : Nat
  error : Bool
  loading : Bool

abbrev StreamM := StateT Stream (Except Stop)

/-- `word`. -/
def word (value : UInt32) : StreamM UInt32 := fun s =>
  if s.pos > s.size ∨ s.size - s.pos < 4 then .ok (0, { s with error := true })
  else if s.loading then
    match fetch32 s.p s.pos with
    | .ok value => .ok (value, { s with pos := s.pos + 4 })
    | .error stop => .error stop
  else
    match store s.p s.pos (le32 value) with
    | .ok p => .ok (value, { s with p := p, pos := s.pos + 4 })
    | .error stop => .error stop

/-- `wide`. -/
def wide (value : UInt64) : StreamM UInt64 := do
  let lo ← word value.toUInt32
  let hi ← word (value >>> 32).toUInt32
  return lo.toUInt64 ||| (hi.toUInt64 <<< 32)

/-- `s->error = true` when `bad`. -/
def markError (bad : Bool) : StreamM Unit := fun s => .ok ((), { s with error := s.error || bad })

/-- `boolean`. -/
def boolean (value : Bool) : StreamM Bool := do
  let v ← word (if value then 1 else 0)
  markError (decide (v > 1))
  return v != 0

/-- `signed_word`. -/
def signedWord (value : Int32) : StreamM Int32 := do
  let v ← word value.toUInt32
  return if v ≤ 0x7FFFFFFF then v.toInt32 else -1 - (0xFFFFFFFF - v).toInt32

/-- `word` on an enumeration field. -/
def enumWord {α : Type} [Enumeration α] (value : CEnum α) : StreamM (CEnum α) := do
  let v ← word value.toWord
  return CEnum.ofWord v

def crcBit (crc : UInt32) : UInt32 := (crc >>> 1) ^^^ (0xedb88320 &&& (0 - (crc &&& 1)))

def crcByte (crc : UInt32) (b : UInt8) : UInt32 := crcBit^[8] (crc ^^^ b.toUInt32)

/-- `checksum`. -/
def checksum (data : Bytes) : UInt32 := ~~~(data.foldl crcByte 0xFFFFFFFF)

/-- `encoded_size`. -/
def encodedSize (players events actions : Nat) : Nat :=
  let n := HEADER_SIZE + 4
  if players > (SIZE_MAX - n) / PLAYER_SIZE then 0
  else
    let n := n + players * PLAYER_SIZE
    if events > (SIZE_MAX - n) / EVENT_SIZE then 0
    else
      let n := n + events * EVENT_SIZE
      if actions > (SIZE_MAX - n) / ACTION_SIZE then 0 else n + actions * ACTION_SIZE

/-- `coop_session_save_size`. -/
def coopSessionSaveSize (s : CoopSession) : Nat :=
  if s.players = [] ∨ s.players.length ≥ COOP_NO_PLAYER.toNat ∨ s.events.length > UINT32_MAX ∨
      s.actions.length > UINT32_MAX then 0
  else encodedSize s.players.length s.events.length s.actions.length

/-! ## `stream_session` -/

/-- The session's own fields and its camera. -/
def streamFields (s : CoopSession) : StreamM CoopSession := do
  let primary ← word s.primary
  let ticksPerSecond ← word s.ticksPerSecond
  let frame ← wide s.frame
  let lives ← word s.lives
  let coins ← word s.coins
  let score ← word s.score
  let dragonCoins ← word s.dragonCoins
  let bonusStars ← word s.bonusStars
  let checkpoint ← word s.checkpoint
  let levelTicks ← word s.levelTicks
  let outcome ← enumWord s.outcome
  let advancing ← boolean s.advancing
  let inputBlocked ← boolean s.inputBlocked
  let failed ← boolean s.failed
  let resolved ← boolean s.resolved
  let x ← signedWord s.camera.x
  let y ← signedWord s.camera.y
  let width ← signedWord s.camera.width
  let height ← signedWord s.camera.height
  let roomWidth ← signedWord s.camera.roomWidth
  let roomHeight ← signedWord s.camera.roomHeight
  let previousCenterX ← signedWord s.camera.previousCenterX
  let previousCenterY ← signedWord s.camera.previousCenterY
  let travelX ← signedWord s.camera.travelX
  let travelY ← signedWord s.camera.travelY
  let leader ← word s.camera.leader
  let initialized ← boolean s.camera.initialized
  let autoscroll ← boolean s.camera.autoscroll
  return { s with
    primary, ticksPerSecond, frame, lives, coins, score, dragonCoins, bonusStars, checkpoint,
    levelTicks, outcome, advancing, inputBlocked, failed, resolved
    camera := { x, y, width, height, roomWidth, roomHeight, previousCenterX, previousCenterY,
                travelX, travelY, leader, initialized, autoscroll } }

def streamPlayer (p : CoopPlayer) : StreamM CoopPlayer := do
  let id ← word p.id
  let character ← word p.character
  let life ← enumWord p.life
  let power ← enumWord p.power
  let reserve ← word p.reserve
  let x ← signedWord p.x
  let y ← signedWord p.y
  let halfWidth ← signedWord p.halfWidth
  let height ← signedWord p.height
  let starTicks ← word p.starTicks
  let protectionTicks ← word p.protectionTicks
  let recoveryTicks ← word p.recoveryTicks
  let separationTicks ← word p.separationTicks
  let mount ← word p.mount
  let heldObject ← word p.heldObject
  let heldInput ← word p.heldInput
  let pressedInput ← word p.pressedInput
  let actionLatch ← word p.actionLatch
  let connected ← boolean p.connected
  let grounded ← boolean p.grounded
  let swimming ← boolean p.swimming
  let supportedFlight ← boolean p.supportedFlight
  let behindFence ← boolean p.behindFence
  let checkpointUpgrade ← boolean p.checkpointUpgrade
  return { id, character, life, power, reserve, x, y, halfWidth, height, starTicks,
           protectionTicks, recoveryTicks, separationTicks, mount, heldObject, heldInput,
           pressedInput, actionLatch, connected, grounded, swimming, supportedFlight, behindFence,
           checkpointUpgrade }

def streamEvent (e : CoopEvent) : StreamM CoopEvent := do
  let kind ← enumWord e.kind
  let player ← word e.player
  let entity ← word e.entity
  let value ← word e.value
  let flags ← word e.flags
  let distanceSquared ← wide e.distanceSquared
  return { kind, player, entity, value, flags, distanceSquared }

def streamAction (a : CoopAction) : StreamM CoopAction := do
  let kind ← enumWord a.kind
  let player ← word a.player
  let entity ← word a.entity
  let value ← word a.value
  return { kind, player, entity, value }

/-- A counted loop over an array. -/
def streamEach {α : Type} (stream : α → StreamM α) : List α → StreamM (List α)
  | [] => return []
  | a :: as => do
    let a ← stream a
    let as ← streamEach stream as
    return a :: as

/-- `stream_session`; its answer `!w->error` is read off the stream. -/
def streamSession (s : CoopSession) : StreamM CoopSession := do
  let s ← streamFields s
  let players ← streamEach streamPlayer s.players
  let events ← streamEach streamEvent s.events
  let actions ← streamEach streamAction s.actions
  return { s with players, events, actions }

/-! ## `valid` -/

def validHeader (s : CoopSession) : Bool :=
  !(decide (s.ticksPerSecond = 0) || decide (s.ticksPerSecond > 1000) ||
    decide (s.outcome.toWord > Enumeration.code CoopOutcome.clear) ||
    (coopPlayer s s.primary).isNone ||
    (decide (s.camera.leader ≠ COOP_NO_PLAYER) && (coopPlayer s s.camera.leader).isNone))

def validCamera (c : CoopCamera) : Bool :=
  !(c.initialized && (decide (c.width < 32) || decide (c.height < 32) ||
      decide (c.roomWidth < 1) || decide (c.roomHeight < 1))) &&
  !(decide (c.travelX < -1) || decide (c.travelX > 1) || decide (c.travelY < -1) ||
    decide (c.travelY > 1))

def validPlayer (p : CoopPlayer) : Bool :=
  !(decide (p.id = COOP_NO_PLAYER) ||
    decide (p.life.toWord > Enumeration.code CoopLifeState.catchupBubble) ||
    decide (p.power.toWord > Enumeration.code CoopPower.fire) || decide (p.reserve > 4) ||
    decide (p.halfWidth < 1) || decide (p.halfWidth > 256) || decide (p.height < 1) ||
    decide (p.height > 512))

/-- Whether two players share an id, a mount or a held object. -/
def clash (p q : CoopPlayer) : Bool :=
  decide (p.id = q.id) || (decide (p.mount ≠ COOP_NO_ENTITY) && decide (p.mount = q.mount)) ||
    (decide (p.heldObject ≠ COOP_NO_ENTITY) && decide (p.heldObject = q.heldObject))

def validPlayers : List CoopPlayer → Bool
  | [] => true
  | p :: rest => validPlayer p && rest.all (fun q => !clash p q) && validPlayers rest

/-- An addressee is nobody or a player of the session. -/
def validAddressee (s : CoopSession) (id : CoopPlayerId) : Bool :=
  !(decide (id ≠ COOP_NO_PLAYER) && (coopPlayer s id).isNone)

def validEvent (s : CoopSession) (e : CoopEvent) : Bool :=
  !decide (e.kind.toWord > Enumeration.code CoopEventKind.exit) && validAddressee s e.player

def validAction (s : CoopSession) (a : CoopAction) : Bool :=
  !decide (a.kind.toWord > Enumeration.code CoopActionKind.gameOver) && validAddressee s a.player

/-- `valid`. -/
def valid (s : CoopSession) : Bool :=
  validHeader s && validCamera s.camera && validPlayers s.players && s.events.all (validEvent s) &&
    s.actions.all (validAction s)

/-! ## Save and load -/

/-- `count ? malloc(...) : NULL`, which fails only when it asked. -/
def allocateIf (needed : Bool) (allocator : Allocator) : Bool × Allocator :=
  if needed then allocator.request else (true, allocator)

/-- The five words in front of `stream_session`. -/
def saveHeader (s : CoopSession) : StreamM Unit := do
  let _ ← word COOP_STATE_MAGIC
  let _ ← word COOP_STATE_VERSION
  let _ ← word (UInt32.ofNat s.players.length)
  let _ ← word (UInt32.ofNat s.events.length)
  let _ ← word (UInt32.ofNat s.actions.length)

/-- `coop_session_save`, with the answers its three `malloc`s get. -/
def coopSessionSave (s : CoopSession) (allocator : Allocator) (data : Bytes) :
    Except Stop Bytes := do
  let size := coopSessionSaveSize s
  refuseIf (size = 0 ∨ data.length < size ∨ valid s = false)
  let (_, w) ← (saveHeader s).run ⟨data, 0, size - 4, false, false⟩
  let (players, allocator) := allocator.request
  let (events, allocator) := allocateIf (s.events ≠ []) allocator
  let (actions, _) := allocateIf (s.actions ≠ []) allocator
  refuseIf (!players || !events || !actions)
  let (_, w) ← (streamSession s).run w
  refuseIf (w.error ∨ w.pos ≠ size - 4)
  let (_, w) ← (word (checksum (w.p.take (size - 4)))).run { w with size := size }
  refuseIf w.error
  return w.p

/-- The five words as a load reads them; `none` for a foreign magic or version. -/
def loadHeader : StreamM (Option (UInt32 × UInt32 × UInt32)) := do
  if (← word 0) ≠ COOP_STATE_MAGIC then return none
  if (← word 0) ≠ COOP_STATE_VERSION then return none
  let count ← word 0
  let events ← word 0
  let actions ← word 0
  return some (count, events, actions)

/-- A record of the arrays `calloc` returns. -/
def zeroEvent : CoopEvent := ⟨.is .pickup, 0, 0, 0, 0, 0⟩

def zeroAction : CoopAction := ⟨.is .pickup, 0, 0, 0⟩

/-- The session `coop_session_load` decodes into, its arrays of the announced lengths.  The byte
counts it compares with `SIZE_MAX` are products below `2 ^ 37`, so that test refuses nothing. -/
def loadCandidate (allocator : Allocator) (count events actions : UInt32) : Option CoopSession := do
  let s ← coopSessionInit allocator count.toNat 60
  let (eventsGranted, allocator) := allocateIf (events ≠ 0) s.allocator
  let (actionsGranted, allocator) := allocateIf (actions ≠ 0) allocator
  if !eventsGranted || !actionsGranted then none
  else some { s with
    events := List.replicate events.toNat zeroEvent
    eventCapacity := events.toNat
    actions := List.replicate actions.toNat zeroAction
    actionCapacity := actions.toNat
    allocator := allocator }

/-- `coop_session_load` up to the checksum: the announced counts, and the stream behind them. -/
def openSession (data : Bytes) : Except Stop ((UInt32 × UInt32 × UInt32) × Stream) := do
  let size := data.length
  refuseIf (size < HEADER_SIZE + PLAYER_SIZE * 2 + 4)
  match ← loadHeader.run ⟨data, 0, size, false, true⟩ with
  | (none, _) => .error .refused
  | (some (count, events, actions), r) =>
    refuseIf (encodedSize count.toNat events.toNat actions.toNat ≠ size)
    let (sum, _) ← (word 0).run { r with pos := size - 4 }
    refuseIf (sum ≠ checksum (data.take (size - 4)))
    return ((count, events, actions), r)

/-- The candidate `coop_session_load` builds from `data`. -/
def readSession (data : Bytes) (allocator : Allocator) : Except Stop CoopSession := do
  let ((count, events, actions), r) ← openSession data
  match loadCandidate allocator count events actions with
  | none => .error .refused
  | some candidate =>
    let (candidate, r) ← (streamSession candidate).run { r with size := r.size - 4 }
    refuseIf (r.error ∨ r.pos ≠ r.size ∨ valid candidate = false)
    return candidate

/-- What a transactional load leaves behind: its candidate, or the destination as it was. -/
def deliver {σ : Type} (destination : σ) : Except Stop σ → Except Stop (Bool × σ)
  | .ok candidate => .ok (true, candidate)
  | .error .refused => .ok (false, destination)
  | .error stop => .error stop

/-- `coop_session_load`. -/
def coopSessionLoad (s : CoopSession) (data : Bytes) (allocator : Allocator) :
    Except Stop (Bool × CoopSession) :=
  deliver s (readSession data allocator)

end SmwRecomp.Coop
