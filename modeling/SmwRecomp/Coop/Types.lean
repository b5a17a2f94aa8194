import SmwRecomp.Lib.CEnum

/-!
# The co-op session record

The data model of `src/src/mods/coop/coop_session.h`: players, camera, frame events, actions and
the session that holds them.

* Enumeration objects are `CEnum`s, so the words a hostile snapshot stores in them are represented.
* `uint32_t`, `int32_t` and `uint64_t` fields are `UInt32`, `Int32` and `UInt64`; a `size_t` count
  is the length of its list.
* `Allocator` is not a field of the C record: it is the answers `malloc`, `calloc` and `realloc`
  will give to the coming requests, so that every pattern of allocation failures is a session.
-/

set_option autoImplicit false

namespace SmwRecomp.Coop

abbrev CoopPlayerId := UInt32
abbrev CoopEntityId := UInt32

def COOP_NO_PLAYER : CoopPlayerId := 0xFFFFFFFF
def COOP_NO_ENTITY : CoopEntityId := 0xFFFFFFFF

/-- `SIZE_MAX` of the 64-bit targets. -/
def SIZE_MAX : Nat := 2 ^ 64 - 1

/-- `UINT32_MAX` as a count. -/
def UINT32_MAX : Nat := 2 ^ 32 - 1

inductive CoopLifeState where
  | playing
  | dying
  | deathBubble
  | catchupBubble
  deriving DecidableEq, Repr, Inhabited

inductive CoopPower where
  | small
  | big
  | cape
  | fire
  deriving DecidableEq, Repr, Inhabited

inductive CoopOutcome where
  | continue
  | retry
  | gameOver
  | clear
  deriving DecidableEq, Repr, Inhabited

inductive CoopEventKind where
  | pickup
  | enemyContact
  | onOff
  | checkpoint
  | damage
  | death
  | deathFinished
  | timeout
  | exit
  deriving DecidableEq, Repr, Inhabited

inductive CoopActionKind where
  | pickup
  | enemyDamage
  | stompBounce
  | onOff
  | checkpoint
  | damage
  | dropReserve
  | dropObject
  | detachMount
  | death
  | recover
  | exit
  | retry
  | gameOver
  deriving DecidableEq, Repr, Inhabited

instance : Enumeration CoopLifeState where
  code
    | .playing => 0
    | .dying => 1
    | .deathBubble => 2
    | .catchupBubble => 3
  constants := [.playing, .dying, .deathBubble, .catchupBubble]
  mem_constants := by intro a; cases a <;> decide
  code_injective := by intro a b; cases a <;> cases b <;> decide

instance : Enumeration CoopPower where
  code
    | .small => 0
    | .big => 1
    | .cape => 2
    | .fire => 3
  constants := [.small, .big, .cape, .fire]
  mem_constants := by intro a; cases a <;> decide
  code_injective := by intro a b; cases a <;> cases b <;> decide

instance : Enumeration CoopOutcome where
  code
    | .continue => 0
    | .retry => 1
    | .gameOver => 2
    | .clear => 3
  constants := [.continue, .retry, .gameOver, .clear]
  mem_constants := by intro a; cases a <;> decide
  code_injective := by intro a b; cases a <;> cases b <;> decide

instance : Enumeration CoopEventKind where
  code
    | .pickup => 0
    | .enemyContact => 1
    | .onOff => 2
    | .checkpoint => 3
    | .damage => 4
    | .death => 5
    | .deathFinished => 6
    | .timeout => 7
    | .exit => 8
  constants := [.pickup, .enemyContact, .onOff, .checkpoint, .damage, .death, .deathFinished,
    .timeout, .exit]
  mem_constants := by intro a; cases a <;> decide
  code_injective := by intro a b; cases a <;> cases b <;> decide

instance : Enumeration CoopActionKind where
  code
    | .pickup => 0
    | .enemyDamage => 1
    | .stompBounce => 2
    | .onOff => 3
    | .checkpoint => 4
    | .damage => 5
    | .dropReserve => 6
    | .dropObject => 7
    | .detachMount => 8
    | .death => 9
    | .recover => 10
    | .exit => 11
    | .retry => 12
    | .gameOver => 13
  constants := [.pickup, .enemyDamage, .stompBounce, .onOff, .checkpoint, .damage, .dropReserve,
    .dropObject, .detachMount, .death, .recover, .exit, .retry, .gameOver]
  mem_constants := by intro a; cases a <;> decide
  code_injective := by intro a b; cases a <;> cases b <;> decide

structure CoopPlayer where
  id : CoopPlayerId
  character : UInt32
  life : CEnum CoopLifeState
  power : CEnum CoopPower
  reserve : UInt32
  /-- Actor centre in world pixels. -/
  x : Int32
  y : Int32
  halfWidth : Int32
  height : Int32
  starTicks : UInt32
  protectionTicks : UInt32
  recoveryTicks : UInt32
  separationTicks : UInt32
  mount : CoopEntityId
  heldObject : CoopEntityId
  heldInput : UInt32
  pressedInput : UInt32
  actionLatch : UInt32
  connected : Bool
  grounded : Bool
  swimming : Bool
  supportedFlight : Bool
  behindFence : Bool
  checkpointUpgrade : Bool
  deriving DecidableEq, Repr, Inhabited

structure CoopCamera where
  x : Int32
  y : Int32
  width : Int32
  height : Int32
  roomWidth : Int32
  roomHeight : Int32
  previousCenterX : Int32
  previousCenterY : Int32
  travelX : Int32
  travelY : Int32
  leader : CoopPlayerId
  initialized : Bool
  autoscroll : Bool
  deriving DecidableEq, Repr, Inhabited

structure CoopEvent where
  kind : CEnum CoopEventKind
  player : CoopPlayerId
  entity : CoopEntityId
  value : UInt32
  flags : UInt32
  distanceSquared : UInt64
  deriving DecidableEq, Repr, Inhabited

def COOP_EVENT_SECRET : UInt32 := 1
def COOP_EVENT_STOMP : UInt32 := 2
def COOP_EVENT_LETHAL : UInt32 := 4

structure CoopAction where
  kind : CEnum CoopActionKind
  player : CoopPlayerId
  entity : CoopEntityId
  value : UInt32
  deriving DecidableEq, Repr, Inhabited

/-- The answers the allocator will give to the coming requests; past the end of the list every
request is granted. -/
abbrev Allocator := List Bool

/-- One request: whether it is granted, and the answers left for the requests after it. -/
def Allocator.request : Allocator → Bool × Allocator
  | [] => (true, [])
  | answer :: rest => (answer, rest)

/-- No coming request is refused. -/
def Allocator.Granted (allocator : Allocator) : Prop := ∀ answer ∈ allocator, answer = true

theorem Allocator.granted_nil : Allocator.Granted [] := fun _ h => nomatch h

theorem Allocator.Granted.request {allocator : Allocator} (h : allocator.Granted) :
    ∃ rest, allocator.request = (true, rest) ∧ Granted rest := by
  cases allocator with
  | nil => exact ⟨[], rfl, h⟩
  | cons answer rest =>
      refine ⟨rest, ?_, fun a ha => h a (List.mem_cons_of_mem _ ha)⟩
      rw [← h answer List.mem_cons_self]
      rfl

structure CoopSession where
  players : List CoopPlayer
  primary : CoopPlayerId
  camera : CoopCamera
  frame : UInt64
  ticksPerSecond : UInt32
  lives : UInt32
  coins : UInt32
  score : UInt32
  dragonCoins : UInt32
  bonusStars : UInt32
  checkpoint : UInt32
  levelTicks : UInt32
  outcome : CEnum CoopOutcome
  advancing : Bool
  inputBlocked : Bool
  failed : Bool
  resolved : Bool
  events : List CoopEvent
  eventCapacity : Nat
  actions : List CoopAction
  actionCapacity : Nat
  allocator : Allocator
  deriving DecidableEq, Repr, Inhabited

end SmwRecomp.Coop
