import SmwRecomp.Coop.State
import SmwRecomp.Coop.Entities
import SmwRecomp.Coop.Guest
import SmwRecomp.Lib.Wire

/-!
# Machine snapshots

`coop_machine_save_size`, `coop_machine_save` and `coop_machine_load` of
`src/src/mods/coop/coop_machine.c`.

* An offset `at` that advances record by record is a `Cursor`; a fixed offset behind `at` is the
  next word.
* `crc` is the `checksum` of session snapshots.
* What a refused save leaves in the caller's buffer is not modelled.
-/

set_option autoImplicit false

namespace SmwRecomp.Coop

def HEADER : Nat := 64
def ACTOR_HEADER : Nat := 16
def PIECE_BYTES : Nat := 28 + COOP_PIECE_PIXELS * 2
def ENTITY_HEADER : Nat := 16
def ENTITY_BYTES : Nat := 28
def FOCUS_BYTES : Nat := 32
def TRAILER : Nat := 4

/-- Four characters in front of a section. -/
abbrev Tag := List.Vector UInt8 4

def tag (a b c d : Char) : Tag := ⟨[a.toUInt8, b.toUInt8, c.toUInt8, d.toUInt8], rfl⟩

/-- The version `coop_machine_save` writes. -/
def machineVersion : UInt32 := 8

/-- `rom_id`: the SHA-256 of the stock US ROM. -/
def romId : List.Vector UInt8 32 :=
  ⟨[0x08, 0x38, 0xe5, 0x31, 0xfe, 0x22, 0xc0, 0x77, 0x52, 0x8f, 0xeb, 0xe1, 0x4c, 0xb3, 0xff, 0x7c,
    0x49, 0x2f, 0x1f, 0x5f, 0xa8, 0xde, 0x35, 0x41, 0x92, 0xbd, 0xff, 0x71, 0x37, 0xc2, 0x7f, 0x5b],
    rfl⟩

/-- `layout_id`: a changed ownership mask must not silently reinterpret an old image. -/
def layoutId : UInt32 :=
  guestFields.foldl (fun h f =>
    (((h ^^^ f.1.toUInt32) * 16777619) ^^^ f.2.toUInt32) * 16777619) 2166136261

/-! ## Size -/

/-- `if (c) return 0;`. -/
def zeroIf (c : Prop) [Decidable c] : Option Unit := if c then none else some ()

/-- A loop that adds the bytes of each record to `n`: the counts of the record must fit its arrays,
and the sum a `size_t`. -/
def addSizes {α : Type} (fits : α → Bool) (bytes : α → Nat) : List α → Nat → Option Nat
  | [], n => some n
  | a :: as, n => do
    zeroIf (fits a = false)
    zeroIf (bytes a > SIZE_MAX - n)
    addSizes fits bytes as (n + bytes a)

/-- Two picture counts within an array's bound. -/
def countsFit (bound : Nat) (pending visible : List CoopVisualPiece) : Bool :=
  !(decide (pending.length > bound) || decide (visible.length > bound))

def picturesBytes (pending visible : List CoopVisualPiece) : Nat :=
  (pending.length + visible.length) * PIECE_BYTES

/-- The entities whose mount section is written. -/
def CoopMachine.mounts (m : CoopMachine) : List CoopEntity :=
  m.entities.filter CoopEntity.mountValid

/-- `coop_machine_save_size`, with `none` for its early `return 0`. -/
def machineSize (m : CoopMachine) : Option Nat := do
  let actors := m.actors.length
  zeroIf (actors ≠ m.session.players.length ∨ actors > UINT32_MAX)
  let core := coopSessionSaveSize m.session
  zeroIf (core = 0 ∨ core > UINT32_MAX ∨ core > SIZE_MAX - HEADER - TRAILER ∨
    actors > (SIZE_MAX - HEADER - TRAILER - core) / (ACTOR_HEADER + COOP_GUEST_BYTES))
  let n := HEADER + core + actors * (ACTOR_HEADER + COOP_GUEST_BYTES) + TRAILER
  let n ← addSizes (fun a : CoopActor => countsFit COOP_BODY_PIECES a.pending a.visible)
    (fun a => picturesBytes a.pending a.visible) m.actors n
  zeroIf (m.entities.length > UINT32_MAX ∨ n > SIZE_MAX - ENTITY_HEADER ∨
    m.entities.length > (SIZE_MAX - n - ENTITY_HEADER) / ENTITY_BYTES)
  let n := n + (ENTITY_HEADER + m.entities.length * ENTITY_BYTES)
  zeroIf (n > SIZE_MAX - FOCUS_BYTES)
  let n := n + FOCUS_BYTES
  zeroIf (n > SIZE_MAX - 16 ∨ m.sources.length > UINT32_MAX ∨
    m.sources.length > (SIZE_MAX - n - 16) / 24)
  let n := n + (16 + m.sources.length * 24)
  let n ← addSizes (fun e : CoopEntity => countsFit COOP_MOUNT_PIECES e.pending e.visible)
    (fun e => 12 + COOP_MOUNT_BYTES + picturesBytes e.pending e.visible) m.mounts n
  zeroIf (n > SIZE_MAX - 16 ∨ actors > (SIZE_MAX - n - 16) / (4 + COOP_FIREBALL_SLOTS * 24))
  let n := n + (16 + actors * (4 + COOP_FIREBALL_SLOTS * 24))
  let n ← addSizes (fun f : CoopFireball => countsFit 1 f.pending f.visible)
    (fun f => picturesBytes f.pending f.visible) m.fireballs n
  zeroIf (n > SIZE_MAX - 16 ∨ actors > (SIZE_MAX - n - 16) / 12)
  let n := n + (16 + actors * 12)
  zeroIf (n > SIZE_MAX - 8 ∨ m.placedEggs.length > UINT32_MAX ∨
    m.placedEggs.length > (SIZE_MAX - n - 8) / 24)
  return n + 8 + m.placedEggs.length * 24

/-- `coop_machine_save_size`. -/
def coopMachineSaveSize (m : CoopMachine) : Nat := (machineSize m).getD 0

/-! ## Save -/

/-- `piece_valid`. -/
def pieceValid (v : CoopVisualPiece) : Bool :=
  (decide (v.width = 8) || decide (v.width = 16)) && decide (v.height = v.width) &&
    decide (v.priority ≤ 3) && decide (v.math ≤ 1) && decide (v.slot < 128)

def putFlag (b : Bool) : CursorM Unit := put32 (if b then 1 else 0)

def putCount {α : Type} (xs : List α) : CursorM Unit := put32 (UInt32.ofNat xs.length)

/-- `save_piece`, behind the check of each picture loop. -/
def savePiece (v : CoopVisualPiece) : CursorM Unit := do
  refuse (pieceValid v = false)
  put32 v.x.toUInt32
  put32 v.y.toUInt32
  put32 v.width
  put32 v.height
  put32 v.priority
  put32 v.math
  put32 v.slot
  putBytes (v.pixels.toList.flatMap le16)

def saveActor (a : CoopActor) : CursorM Unit := do
  put32 a.player
  put32 a.inputSeat
  putCount a.pending
  putCount a.visible
  putBytes a.guest.toList
  putEach savePiece a.pending
  putEach savePiece a.visible

def saveEntity (e : CoopEntity) : CursorM Unit := do
  put32 e.id
  put32 e.kind
  put32 e.slot
  put32 e.type
  put32 e.owner
  put32 e.target
  put32 e.flags

def saveMount (e : CoopEntity) : CursorM Unit := do
  put32 e.id
  putCount e.pending
  putCount e.visible
  putBytes e.mount.toList
  putEach savePiece e.pending
  putEach savePiece e.visible

def saveSource (s : CoopYoshiSource) : CursorM Unit := do
  put32 s.level
  put32 s.layer
  put32 s.x
  put32 s.y
  put32 s.tile
  put32 s.uses

def saveFireball (f : CoopFireball) : CursorM Unit := do
  put32 f.id
  putBytes f.guest.toList
  putCount f.pending
  putCount f.visible
  putEach savePiece f.pending
  putEach savePiece f.visible

def saveFireballs (a : CoopActor) : CursorM Unit := do
  put32 a.player
  putEach saveFireball a.fireballs.toList

def saveStoredMount (a : CoopActor) : CursorM Unit := do
  put32 a.player
  put32 a.storedMount
  put32 a.storedMountColor

def saveEgg (s : CoopPlacedEgg) : CursorM Unit := do
  put32 s.level
  put32 s.x
  put32 s.y
  put32 s.loadIndex
  put32 s.uses
  put32 s.egg

def saveHead (m : CoopMachine) : CursorM Unit := do
  putBytes (tag 'C' 'N' 'R' '1').toList
  put32 machineVersion
  putBytes romId.toList
  put32 (UInt32.ofNat (coopSessionSaveSize m.session))
  putCount m.actors
  put32 layoutId
  put32 m.room
  put32 m.previousMode
  putFlag m.roomInitialized

def saveEntities (m : CoopMachine) : CursorM Unit := do
  putBytes (tag 'E' 'N' 'T' '1').toList
  putCount m.entities
  put32 m.nextEntity
  put32 m.level
  putEach saveEntity m.entities

def saveFocus (m : CoopMachine) : CursorM Unit := do
  putBytes (tag 'C' 'A' 'M' '1').toList
  put32 m.focusX.toUInt32
  put32 m.focusY.toUInt32
  put32 m.focusCenterX.toUInt32
  put32 m.focusCenterY.toUInt32
  put32 m.focusCount
  putFlag m.focusInitialized
  putFlag m.focusHold

def saveMounts (m : CoopMachine) : CursorM Unit := do
  putBytes (tag 'Y' 'S' 'H' '1').toList
  putCount m.mounts
  putCount m.sources
  putFlag m.mountsInitialized
  putEach saveMount m.mounts
  putEach saveSource m.sources

def saveProjectiles (m : CoopMachine) : CursorM Unit := do
  putBytes (tag 'P' 'J' 'T' '1').toList
  putCount m.actors
  put32 (UInt32.ofNat COOP_FIREBALL_SLOTS)
  putFlag m.fireballsInitialized
  putEach saveFireballs m.actors

def saveStoredMounts (m : CoopMachine) : CursorM Unit := do
  putBytes (tag 'M' 'T' 'R' '1').toList
  putCount m.actors
  putFlag m.entrancePrepared
  put32 0
  putEach saveStoredMount m.actors

def saveEggs (m : CoopMachine) : CursorM Unit := do
  putBytes (tag 'P' 'E' 'G' '1').toList
  putCount m.placedEggs
  putEach saveEgg m.placedEggs

/-- `coop_machine_save` up to the checksum; `allocator` answers the session's requests. -/
def saveMachine (m : CoopMachine) (allocator : Allocator) : CursorM Unit := do
  saveHead m
  putWith (coopSessionSaveSize m.session) (coopSessionSave m.session allocator)
  putEach saveActor m.actors
  saveEntities m
  saveFocus m
  saveMounts m
  saveProjectiles m
  saveStoredMounts m
  saveEggs m

/-- `coop_machine_save`. -/
def coopMachineSave (m : CoopMachine) (allocator : Allocator) (data : Bytes) :
    Except Stop Bytes := do
  let n := coopMachineSaveSize m
  refuseIf (n = 0 ∨ data.length < n ∨ entitiesValid m = false)
  let (_, c) ← (saveMachine m allocator).run ⟨data, 0⟩
  let (_, c) ← (put32 (checksum (c.p.take c.pos))).run c
  return c.p

/-! ## Load -/

/-- `return false` and `goto fail`. -/
def reject {α : Type} : CursorM α := fun _ => .error .refused

/-- A callee of the load. -/
def callee {α : Type} (r : Except Stop α) : CursorM α := fun c =>
  match r with
  | .ok a => .ok (a, c)
  | .error stop => .error stop

def nextTag (t : Tag) : CursorM Unit := do
  let u ← nextVector 4
  refuse (u ≠ t)

/-- A word that holds a `bool`. -/
def nextFlag : CursorM Bool := do
  let w ← next32
  refuse (w > 1)
  return w != 0

/-- A `uint32_t` count read into the field `n`, checked against its bound. -/
def nextCount (bound : Nat) : CursorM UInt32 := do
  let n ← next32
  refuse (n.toNat > bound)
  return n

/-- `if (n) calloc(n, ...)`, answered by the machine's allocator. -/
def allocate (n : UInt32) (m : CoopMachine) : CursorM CoopMachine :=
  match allocateIf (n ≠ 0) m.session.allocator with
  | (true, rest) => pure (m.withAllocator rest)
  | (false, _) => reject

/-- `load_piece`, behind the check of each picture loop. -/
def loadPiece : CursorM CoopVisualPiece := do
  need TRAILER PIECE_BYTES
  let x ← next32
  let y ← next32
  let width ← next32
  let height ← next32
  let priority ← next32
  let math ← next32
  let slot ← next32
  let pixels ← nextHalves COOP_PIECE_PIXELS
  let v : CoopVisualPiece := ⟨x.toInt32, y.toInt32, width, height, priority, math, slot, pixels⟩
  refuse (pieceValid v = false)
  return v

structure MachineHead where
  version : UInt32
  core : UInt32
  count : UInt32
  room : UInt32
  previousMode : UInt32
  roomInitialized : Bool

def loadHead : CursorM MachineHead := do
  nextTag (tag 'C' 'N' 'R' '1')
  let version ← next32
  refuse (version < 2 ∨ version > 8)
  let rom ← nextVector 32
  refuse (rom ≠ romId)
  let core ← next32
  let count ← next32
  let layout ← next32
  refuse (layout ≠ layoutId)
  let room ← next32
  let previousMode ← next32
  refuse (previousMode > 0x29)
  let roomInitialized ← nextFlag
  return ⟨version, core, count, room, previousMode, roomInitialized⟩

/-- What a carried object, a ridden mount or an attached balloon leaves in the guest image. -/
def ownedAddresses : List UInt16 := [0x1470, 0x148f, 0x187a, 0x13f3, 0x1891]

/-- One turn of the actor loop; `before` are the actors read so far.  Legacy images have no entity
ownership: version 2 imports only states that own nothing. -/
def loadActor (version : UInt32) (session : CoopSession) (before : List CoopActor) :
    CursorM CoopActor := do
  need TRAILER (ACTOR_HEADER + COOP_GUEST_BYTES)
  let player ← next32
  let inputSeat ← next32
  let pending ← nextCount COOP_BODY_PIECES
  let visible ← nextCount COOP_BODY_PIECES
  refuse ((coopPlayer session player).isNone)
  refuse (∃ b ∈ before, player = b.player ∨ inputSeat = b.inputSeat)
  let guest ← nextVector COOP_GUEST_BYTES
  refuse (version = 2 ∧ ∃ address ∈ ownedAddresses, (coopGuestPeek guest address).getD 0 ≠ 0)
  let pending ← nextEach loadPiece pending.toNat
  let visible ← nextEach loadPiece visible.toNat
  return { zeroActor with player, inputSeat, guest, pending, visible }

def loadActors (version : UInt32) (session : CoopSession) :
    List CoopActor → Nat → CursorM (List CoopActor)
  | before, 0 => return before
  | before, n + 1 => do
    let a ← loadActor version session before
    loadActors version session (before ++ [a]) n

def loadEntity : CursorM CoopEntity := do
  let id ← next32
  let kind ← next32
  let slot ← next32
  let type ← next32
  let owner ← next32
  let target ← next32
  let flags ← next32
  return { spawnedEntity id kind slot type with owner, target, flags }

def loadEntities (version : UInt32) (m : CoopMachine) : CursorM CoopMachine := do
  need TRAILER ENTITY_HEADER
  nextTag (tag 'E' 'N' 'T' '1')
  let count ← next32
  let nextEntity ← next32
  let level ← next32
  let tail := if version ≥ 4 then FOCUS_BYTES else 0
  need TRAILER tail
  refuse (count > 22)
  let r ← room (TRAILER + tail)
  refuse (count.toNat > r / ENTITY_BYTES)
  let m ← allocate count m
  let entities ← nextEach loadEntity count.toNat
  return { m with entities, entityCapacity := count.toNat, nextEntity, level }

/-- A coordinate of the focus. -/
def coordinateValid (x : Int32) : Bool := decide (0 ≤ x.toInt) && decide (x.toInt ≤ 65535)

def loadFocus (m : CoopMachine) : CursorM CoopMachine := do
  need TRAILER FOCUS_BYTES
  nextTag (tag 'C' 'A' 'M' '1')
  let focusX ← next32
  let focusY ← next32
  let focusCenterX ← next32
  let focusCenterY ← next32
  let focusCount ← next32
  refuse (focusCount.toNat > m.actors.length)
  let focusInitialized ← nextFlag
  let focusHold ← nextFlag
  let m := { m with
    focusX := focusX.toInt32, focusY := focusY.toInt32, focusCenterX := focusCenterX.toInt32
    focusCenterY := focusCenterY.toInt32, focusCount, focusInitialized, focusHold }
  refuse (coordinateValid m.focusX = false ∨ coordinateValid m.focusY = false ∨
    coordinateValid m.focusCenterX = false ∨ coordinateValid m.focusCenterY = false)
  return m

/-- One turn of the mount loop, on the entity table. -/
def loadMount (entities : List CoopEntity) : CursorM (List CoopEntity) := do
  need TRAILER (12 + COOP_MOUNT_BYTES)
  let id ← next32
  match findKey CoopEntity.id id entities with
  | none => reject
  | some e =>
    refuse (e.mountValid = true)
    let pending ← nextCount COOP_MOUNT_PIECES
    let visible ← nextCount COOP_MOUNT_PIECES
    let mount ← nextVector COOP_MOUNT_BYTES
    let pending ← nextEach loadPiece pending.toNat
    let visible ← nextEach loadPiece visible.toNat
    return putKey CoopEntity.id { e with mountValid := true, mount, pending, visible } entities

def loadMounts : Nat → List CoopEntity → CursorM (List CoopEntity)
  | 0, entities => return entities
  | n + 1, entities => do
    let entities ← loadMount entities
    loadMounts n entities

def loadSource : CursorM CoopYoshiSource := do
  let level ← next32
  let layer ← next32
  let x ← next32
  let y ← next32
  let tile ← next32
  let uses ← next32
  return ⟨level, layer, x, y, tile, uses⟩

def loadYoshi (m : CoopMachine) : CursorM CoopMachine := do
  need TRAILER 16
  nextTag (tag 'Y' 'S' 'H' '1')
  let mounts ← next32
  let sources ← next32
  let mountsInitialized ← nextFlag
  refuse (mounts > 12 ∨ mounts.toNat > m.entities.length)
  let entities ← loadMounts mounts.toNat m.entities
  let r ← room TRAILER
  refuse (sources.toNat > r / 24 ∨ sources.toNat > SIZE_MAX / sizeofCoopYoshiSource)
  let m ← allocate sources m
  let table ← nextEach loadSource sources.toNat
  return { m with
    mountsInitialized, entities, sources := table, sourceCapacity := sources.toNat }

def loadFireball : CursorM CoopFireball := do
  need TRAILER 24
  let id ← next32
  let guest ← nextVector COOP_FIREBALL_BYTES
  let pending ← nextCount 1
  let visible ← nextCount 1
  let pending ← nextEach loadPiece pending.toNat
  let visible ← nextEach loadPiece visible.toNat
  return ⟨id, guest, pending, visible⟩

def loadFireballs (a : CoopActor) : CursorM CoopActor := do
  need TRAILER 4
  let player ← next32
  refuse (player ≠ a.player)
  let f ← loadFireball
  let g ← loadFireball
  return { a with fireballs := ⟨[f, g], rfl⟩ }

def loadProjectiles (m : CoopMachine) : CursorM CoopMachine := do
  need TRAILER 16
  nextTag (tag 'P' 'J' 'T' '1')
  let count ← next32
  refuse (count.toNat ≠ m.actors.length)
  let slots ← next32
  refuse (slots ≠ UInt32.ofNat COOP_FIREBALL_SLOTS)
  let fireballsInitialized ← nextFlag
  let actors ← nextFor loadFireballs m.actors
  return { m with fireballsInitialized, actors }

def loadStoredMount (a : CoopActor) : CursorM CoopActor := do
  let player ← next32
  refuse (player ≠ a.player)
  let storedMount ← next32
  let storedMountColor ← next32
  return { a with storedMount, storedMountColor }

def loadStoredMounts (m : CoopMachine) : CursorM CoopMachine := do
  need TRAILER 16
  nextTag (tag 'M' 'T' 'R' '1')
  let count ← next32
  refuse (count.toNat ≠ m.actors.length)
  let entrancePrepared ← nextFlag
  let zero ← next32
  refuse (zero ≠ 0)
  let r ← room TRAILER
  refuse (m.actors.length > r / 12)
  let actors ← nextFor loadStoredMount m.actors
  return { m with entrancePrepared, actors }

def loadEgg : CursorM CoopPlacedEgg := do
  let level ← next32
  let x ← next32
  let y ← next32
  let loadIndex ← next32
  let uses ← next32
  let egg ← next32
  return ⟨level, x, y, loadIndex, uses, egg⟩

def loadEggs (m : CoopMachine) : CursorM CoopMachine := do
  need TRAILER 8
  nextTag (tag 'P' 'E' 'G' '1')
  let eggs ← next32
  let r ← room TRAILER
  refuse (eggs.toNat > r / 24 ∨ eggs.toNat > SIZE_MAX / sizeofCoopPlacedEgg)
  let m ← allocate eggs m
  let placedEggs ← nextEach loadEgg eggs.toNat
  return { m with placedEggs, placedCapacity := eggs.toNat }

/-- `if (version >= first) { ... }`. -/
def since (first version : UInt32) (load : CoopMachine → CursorM CoopMachine) (m : CoopMachine) :
    CursorM CoopMachine :=
  if version ≥ first then load m else pure m

/-- The session and the actors, in the machine `tmp` that `coop_machine_load` fills. -/
def loadRoster (h : MachineHead) (allocator : Allocator) : CursorM CoopMachine := do
  let r ← room TRAILER
  refuse (h.core.toNat > r)
  let r ← room (TRAILER + h.core.toNat)
  refuse (h.count.toNat > r / (ACTOR_HEADER + COOP_GUEST_BYTES))
  let core ← nextVector h.core.toNat
  let session ← callee (readSession core.toList allocator)
  refuse (session.players.length ≠ h.count.toNat ∨ h.count.toNat > SIZE_MAX / sizeofCoopActor)
  let m ← allocate h.count (freshMachine session [])
  let actors ← loadActors h.version session [] h.count.toNat
  return { m with
    actors, room := h.room, previousMode := h.previousMode, roomInitialized := h.roomInitialized }

/-- The sections in front of the checksum. -/
def loadSections (allocator : Allocator) : CursorM CoopMachine := do
  let h ← loadHead
  let m ← loadRoster h allocator
  let m ← since 3 h.version (loadEntities h.version) m
  let m ← since 4 h.version loadFocus m
  let m ← since 5 h.version loadYoshi m
  let m ← since 6 h.version loadProjectiles m
  let m ← since 7 h.version loadStoredMounts m
  since 8 h.version loadEggs m

/-- The machine `coop_machine_load` builds from `data`. -/
def readMachine (data : Bytes) (allocator : Allocator) : Except Stop CoopMachine := do
  let size := data.length
  refuseIf (size < HEADER + TRAILER)
  let sum ← fetch32 data (size - 4)
  refuseIf (sum ≠ checksum (data.take (size - 4)))
  let (m, c) ← (loadSections allocator).run ⟨data, 0⟩
  refuseIf (c.pos ≠ size - TRAILER ∨ entitiesValid m = false)
  return m

/-- `coop_machine_load`. -/
def coopMachineLoad (m : CoopMachine) (data : Bytes) (allocator : Allocator) :
    Except Stop (Bool × CoopMachine) :=
  deliver m (readMachine data allocator)

end SmwRecomp.Coop
