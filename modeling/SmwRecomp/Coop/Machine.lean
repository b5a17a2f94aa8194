import SmwRecomp.Coop.Session
import SmwRecomp.Lib.Bytes
import SmwRecomp.Lib.Table
import Mathlib.Data.Vector.Basic

/-!
# The native co-op machine

The data model of `src/src/mods/coop/coop_machine.h` and the operations of `coop_machine.c` on its
tables: actors, entities, Yoshi sources, placed eggs and the camera focus.

* A picture count and its array of pieces are one list, the pieces that count.
* Fixed arrays of bytes and pixels are vectors of that length.
* The answers of the allocator are those of the machine's session.
-/

set_option autoImplicit false

namespace SmwRecomp.Coop

/-! ## The player's guest image -/

/-- `coop_player_fields.def`: address and byte count of each field. -/
def guestFields : List (UInt16 × UInt16) :=
  [(0x0015, 5), (0x0071, 17), (0x0088, 16), (0x00d1, 4), (0x0d82, 25), (0x0dc2, 1), (0x13da, 23),
   (0x13f3, 1), (0x13f9, 3), (0x1402, 1), (0x1405, 5), (0x140d, 2), (0x1410, 1), (0x1419, 1),
   (0x141e, 1), (0x1470, 2), (0x148f, 2), (0x1492, 1), (0x1496, 13), (0x14a4, 3), (0x14a9, 2),
   (0x1697, 1), (0x185c, 1), (0x1878, 1), (0x187a, 1), (0x188a, 2), (0x1891, 1), (0x18b5, 1),
   (0x18bd, 2), (0x18c2, 1), (0x18d2, 2), (0x18dc, 1), (0x18e3, 1)]

/-- The sum of the byte counts. -/
def COOP_GUEST_BYTES : Nat := 144

example : (guestFields.map (fun f => f.2.toNat)).sum = COOP_GUEST_BYTES := by decide

/-! ## Records -/

def COOP_BODY_PIECES : Nat := 7
def COOP_PIECE_PIXELS : Nat := 256
def COOP_MOUNT_PIECES : Nat := 16
def COOP_MOUNT_BYTES : Nat := 21
def COOP_FIREBALL_SLOTS : Nat := 2
def COOP_FIREBALL_BYTES : Nat := 12

structure CoopVisualPiece where
  x : Int32
  y : Int32
  width : UInt32
  height : UInt32
  priority : UInt32
  math : UInt32
  slot : UInt32
  pixels : List.Vector UInt16 COOP_PIECE_PIXELS
  deriving DecidableEq

structure CoopFireball where
  id : CoopEntityId
  guest : List.Vector UInt8 COOP_FIREBALL_BYTES
  pending : List CoopVisualPiece
  visible : List CoopVisualPiece
  deriving DecidableEq

structure CoopActor where
  player : CoopPlayerId
  inputSeat : UInt32
  guest : List.Vector UInt8 COOP_GUEST_BYTES
  pending : List CoopVisualPiece
  visible : List CoopVisualPiece
  fireballs : List.Vector CoopFireball COOP_FIREBALL_SLOTS
  /-- Zero means none. -/
  storedMount : CoopEntityId
  storedMountColor : UInt32
  deriving DecidableEq

def COOP_ENTITY_NORMAL : UInt32 := 0
def COOP_ENTITY_EXTENDED : UInt32 := 1

def COOP_ENTITY_HELD : UInt32 := 1
def COOP_ENTITY_RIDDEN : UInt32 := 2
def COOP_ENTITY_PROJECTILE : UInt32 := 4
def COOP_ENTITY_ATTACHED : UInt32 := 8

structure CoopEntity where
  id : CoopEntityId
  kind : UInt32
  slot : UInt32
  type : UInt32
  owner : CoopPlayerId
  target : CoopPlayerId
  flags : UInt32
  mountValid : Bool
  mount : List.Vector UInt8 COOP_MOUNT_BYTES
  pending : List CoopVisualPiece
  visible : List CoopVisualPiece
  deriving DecidableEq

structure CoopYoshiSource where
  level : UInt32
  layer : UInt32
  x : UInt32
  y : UInt32
  tile : UInt32
  uses : UInt32
  deriving DecidableEq, Repr

structure CoopPlacedEgg where
  level : UInt32
  x : UInt32
  y : UInt32
  loadIndex : UInt32
  uses : UInt32
  /-- Zero when no unhatched egg is allocated. -/
  egg : CoopEntityId
  deriving DecidableEq, Repr

structure CoopMachine where
  session : CoopSession
  actors : List CoopActor
  room : UInt32
  previousMode : UInt32
  roomInitialized : Bool
  entities : List CoopEntity
  entityCapacity : Nat
  nextEntity : UInt32
  level : UInt32
  focusX : Int32
  focusY : Int32
  focusCenterX : Int32
  focusCenterY : Int32
  focusCount : UInt32
  focusInitialized : Bool
  focusHold : Bool
  mountsInitialized : Bool
  fireballsInitialized : Bool
  entrancePrepared : Bool
  sources : List CoopYoshiSource
  sourceCapacity : Nat
  placedEggs : List CoopPlacedEgg
  placedCapacity : Nat

/-! ## Initialisation -/

def sizeofCoopActor : Nat := 9936

def zeroFireball : CoopFireball where
  id := 0
  guest := List.Vector.replicate _ 0
  pending := []
  visible := []

/-- A record of the zeroed actor array. -/
def zeroActor : CoopActor where
  player := 0
  inputSeat := 0
  guest := List.Vector.replicate _ 0
  pending := []
  visible := []
  fireballs := List.Vector.replicate _ zeroFireball
  storedMount := 0
  storedMountColor := 0

/-- The zeroed machine around a session and its actors, as `coop_machine_init` completes it. -/
def freshMachine (session : CoopSession) (actors : List CoopActor) : CoopMachine where
  session := session
  actors := actors
  room := 0
  previousMode := 0
  roomInitialized := false
  entities := []
  entityCapacity := 0
  nextEntity := 1
  level := 0xFFFFFFFF
  focusX := 0
  focusY := 0
  focusCenterX := 0
  focusCenterY := 0
  focusCount := 0
  focusInitialized := false
  focusHold := false
  mountsInitialized := false
  fireballsInitialized := false
  entrancePrepared := false
  sources := []
  sourceCapacity := 0
  placedEggs := []
  placedCapacity := 0

/-- The actor of seat `i`. -/
def initActor (i : Nat) (p : CoopPlayer) : CoopActor :=
  { zeroActor with player := p.id, inputSeat := UInt32.ofNat i }

/-- `coop_machine_init`. -/
def coopMachineInit (allocator : Allocator) (count : Nat) : Option CoopMachine :=
  if count > UINT32_MAX ∨ count > SIZE_MAX / sizeofCoopActor then none
  else
    match coopSessionInit allocator count 60 with
    | none => none
    | some session =>
      match session.allocator.request with
      | (false, _) => none
      | (true, rest) =>
        some (freshMachine { session with allocator := rest } (session.players.mapIdx initActor))

/-! ## Tables -/

/-- `coop_machine_actor`. -/
def coopMachineActor (m : CoopMachine) (player : CoopPlayerId) : Option CoopActor :=
  findKey CoopActor.player player m.actors

/-- `coop_machine_entity`. -/
def coopMachineEntity (m : CoopMachine) (id : CoopEntityId) : Option CoopEntity :=
  findKey CoopEntity.id id m.entities

/-- `coop_machine_entity_slot`. -/
def coopMachineEntitySlot (m : CoopMachine) (kind slot : UInt32) : Option CoopEntity :=
  findKey (fun e : CoopEntity => (e.kind, e.slot)) (kind, slot) m.entities

/-- Actors and players correspond by id. -/
def ActorsMatch (m : CoopMachine) : Prop :=
  (m.actors.map CoopActor.player).Perm (m.session.players.map CoopPlayer.id)

/-- A player after `id` has left the table. -/
def CoopPlayer.forget (p : CoopPlayer) (id : CoopEntityId) : CoopPlayer :=
  { p with
    heldObject := if p.heldObject = id then COOP_NO_ENTITY else p.heldObject
    mount := if p.mount = id then COOP_NO_ENTITY else p.mount }

/-- A placed egg after `id` has left the table. -/
def CoopPlacedEgg.forget (s : CoopPlacedEgg) (id : CoopEntityId) : CoopPlacedEgg :=
  { s with egg := if s.egg = id then 0 else s.egg }

/-- `coop_machine_forget_entity`. -/
def coopMachineForgetEntity (m : CoopMachine) (id : CoopEntityId) : CoopMachine :=
  match indexKey CoopEntity.id id m.entities with
  | none => m
  | some i => { m with
      placedEggs := m.placedEggs.map (CoopPlacedEgg.forget · id)
      session := { m.session with players := m.session.players.map (CoopPlayer.forget · id) }
      entities := swapRemove i m.entities }

/-- `entity_slot_valid`. -/
def entitySlotValid (kind slot : UInt32) : Bool :=
  (decide (kind = COOP_ENTITY_NORMAL) && decide (slot < 12)) ||
    (decide (kind = COOP_ENTITY_EXTENDED) && decide (slot < 10))

/-- `*e=(CoopEntity){...}` of a spawn. -/
def spawnedEntity (id kind slot type : UInt32) : CoopEntity where
  id := id
  kind := kind
  slot := slot
  type := type
  owner := COOP_NO_PLAYER
  target := COOP_NO_PLAYER
  flags := 0
  mountValid := false
  mount := List.Vector.replicate _ 0
  pending := []
  visible := []

/-- `m` with the answers left after a request. -/
def CoopMachine.withAllocator (m : CoopMachine) (allocator : Allocator) : CoopMachine :=
  { m with session := { m.session with allocator := allocator } }

/-- Doubling growth of a machine table: the new capacity, `none` when `realloc` fails. -/
def growTable (allocator : Allocator) (length capacity first : Nat) : Option Nat × Allocator :=
  if length = capacity then
    match allocator.request with
    | (true, rest) => (some (if capacity ≠ 0 then capacity * 2 else first), rest)
    | (false, rest) => (none, rest)
  else (some capacity, allocator)

/-- `coop_machine_spawn_entity`; the new entity is the last of the table. -/
def coopMachineSpawnEntity (m : CoopMachine) (kind slot type : UInt32) :
    Option CoopEntity × CoopMachine :=
  if entitySlotValid kind slot = false ∨ type > 255 ∨ m.nextEntity = COOP_NO_ENTITY then (none, m)
  else
    match growTable m.session.allocator m.entities.length m.entityCapacity 16 with
    | (none, rest) => (none, m.withAllocator rest)
    | (some capacity, rest) =>
      let m := { m.withAllocator rest with entityCapacity := capacity }
      let m := match coopMachineEntitySlot m kind slot with
        | some old => coopMachineForgetEntity m old.id
        | none => m
      let e := spawnedEntity m.nextEntity kind slot type
      (some e, { m with entities := m.entities ++ [e], nextEntity := m.nextEntity + 1 })

def CoopYoshiSource.key (s : CoopYoshiSource) : UInt32 × UInt32 × UInt32 × UInt32 :=
  (s.level, s.layer, s.x, s.y)

def CoopPlacedEgg.key (s : CoopPlacedEgg) : UInt32 × UInt32 × UInt32 := (s.level, s.x, s.y)

def sizeofCoopYoshiSource : Nat := 24
def sizeofCoopPlacedEgg : Nat := 24

/-- The guard in front of the doubling `realloc` of a source or egg table. -/
def tableTooLarge (length capacity stride : Nat) : Bool :=
  decide (length = capacity) && (decide (capacity * 2 > SIZE_MAX) ||
    decide ((if capacity ≠ 0 then capacity * 2 else 8) > SIZE_MAX / stride))

/-- `coop_yoshi_source`: the record with this key, created on demand. -/
def coopYoshiSource (m : CoopMachine) (level layer x y tile : UInt32) :
    Option CoopYoshiSource × CoopMachine :=
  match findKey CoopYoshiSource.key (level, layer, x, y) m.sources with
  | some s => (some s, m)
  | none =>
    if tableTooLarge m.sources.length m.sourceCapacity sizeofCoopYoshiSource then (none, m)
    else
      match growTable m.session.allocator m.sources.length m.sourceCapacity 8 with
      | (none, rest) => (none, m.withAllocator rest)
      | (some capacity, rest) =>
        let s : CoopYoshiSource := ⟨level, layer, x, y, tile, 0⟩
        (some s, { m.withAllocator rest with
          sources := m.sources ++ [s], sourceCapacity := capacity })

/-- `coop_placed_egg`: the record with this key, created on demand. -/
def coopPlacedEgg (m : CoopMachine) (level x y loadIndex : UInt32) :
    Option CoopPlacedEgg × CoopMachine :=
  match findKey CoopPlacedEgg.key (level, x, y) m.placedEggs with
  | some s => (some s, m)
  | none =>
    if tableTooLarge m.placedEggs.length m.placedCapacity sizeofCoopPlacedEgg then (none, m)
    else
      match growTable m.session.allocator m.placedEggs.length m.placedCapacity 8 with
      | (none, rest) => (none, m.withAllocator rest)
      | (some capacity, rest) =>
        let s : CoopPlacedEgg := ⟨level, x, y, loadIndex, 0, 0⟩
        (some s, { m.withAllocator rest with
          placedEggs := m.placedEggs ++ [s], placedCapacity := capacity })

/-! ## Focus -/

/-- `focus_step`. -/
def focusStep (value : Int) : Int32 := if value < -4 then -4 else if value > 4 then 4
    else Int32.ofInt value

/-- `coop_machine_focus`. -/
def coopMachineFocus (m : CoopMachine) (x y : Int32) (active : UInt32) : CoopMachine :=
  if active = 0 then m
  else
    let m := if !m.focusInitialized then
        { m with focusX := x, focusY := y, focusInitialized := true }
      else
        let hold := if active ≠ m.focusCount then decide (active < m.focusCount) else m.focusHold
        let dx := if active = m.focusCount then focusStep (x.toInt - m.focusCenterX.toInt) else 0
        let dy := if active = m.focusCount then focusStep (y.toInt - m.focusCenterY.toInt) else 0
        let dx := if !hold then focusStep (x.toInt - m.focusX.toInt) else dx
        let dy := if !hold then focusStep (y.toInt - m.focusY.toInt) else dy
        { m with focusHold := hold, focusX := m.focusX + dx, focusY := m.focusY + dy }
    { m with focusCount := active, focusCenterX := x, focusCenterY := y }

end SmwRecomp.Coop
