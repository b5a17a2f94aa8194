import SmwRecomp.Coop.Resync

/-!
# Room transitions

`carry_through_room` and `load_room_sprites` of `src/src/mods/coop/coop_simulation.c`.  Ridden
mounts are parked with their riders, the departed room is forgotten except for what is carried, and
the mounts come back in other slots.

* The ROM's room loader is a parameter; the host substitutes `carryThroughRoom` for the cleanup the
  loader calls.
* `enterRoom` — up to the loader's return; `settleRider` — one actor in the new room.
-/

set_option autoImplicit false

namespace SmwRecomp.Coop

variable {κ : Type}

/-! ## Mounts in guest memory -/

/-- `mount_fields`. -/
def mountFields : List Nat :=
  [0xdc1, 0x13c7, 0x1410, 0x141e, 0x14a3, 0x18ac, 0x18ad, 0x18ae, 0x18af, 0x18b0, 0x18b1, 0x18b2,
   0x18b3, 0x18d4, 0x18d5, 0x18d6, 0x18da, 0x18de, 0x18e7, 0x18e8, 0x191c]

/-- `coop_mount_capture`. -/
def coopMountCapture (e : CoopEntity) (ram : Ram) : CoopEntity :=
  { e with mount := ⟨mountFields.map ram, rfl⟩, mountValid := true }

/-- What a mount keeps of its fields; nothing without a valid mount. -/
def mountBytes : Option CoopEntity → List UInt8
  | some e => if e.mountValid then e.mount.toList else List.replicate COOP_MOUNT_BYTES 0
  | none => List.replicate COOP_MOUNT_BYTES 0

/-- `coop_mount_bind`. -/
def coopMountBind (e : Option CoopEntity) (ram : Ram) : Ram :=
  let ram := (mountFields.zip (mountBytes e)).foldl (fun ram f => Ram.put ram f.1 f.2) ram
  let slot := match e with
    | some e => (e.slot + 1).toUInt8
    | none => 0
  (ram.put 0x18df slot).put 0x18e2 slot

/-- `actor_mount`. -/
def actorMount (m : CoopMachine) (player : CoopPlayerId) : Option CoopEntity := do
  let p ← coopPlayer m.session player
  coopMachineEntity m p.mount

/-- `normal_entity`, with the type the slot has in guest memory. -/
def normalEntity (m : CoopMachine) (ram : Ram) (slot : UInt32) (reset : Bool) :
    Option (CoopEntity × CoopMachine) :=
  let type := (ram (0x9e + slot.toNat)).toUInt32
  match if reset then none else coopMachineEntitySlot m COOP_ENTITY_NORMAL slot with
  | some e => some ({ e with type := type }, putEntity m { e with type := type })
  | none =>
    match coopMachineSpawnEntity m COOP_ENTITY_NORMAL slot type with
    | (some e, m) => some (e, m)
    | (none, _) => none

/-- `restore_primary_mount`. -/
def restorePrimaryMount (st : Stage κ) : Option (Stage κ) := do
  let a ← coopMachineActor st.machine st.machine.session.primary
  let e := actorMount st.machine a.player
  let ram := coopMountBind e st.ram
  if e.isNone ∧ a.storedMount ≠ 0 then
    some { st with ram := (ram.put 0xdc1 1).put 0x13c7 a.storedMountColor.toUInt8 }
  else some { st with ram := ram }

/-! ## Carried sprites -/

/-- The state of a sprite slot. -/
def Ram.status (ram : Ram) (slot : Nat) : UInt8 := ram (0x14c8 + slot)

structure Transport where
  entity : CoopEntity
  x : UInt32
  y : UInt32
  palette : UInt8

/-- The two bytes of a position. -/
def Ram.position (ram : Ram) (low high slot : Nat) : UInt32 :=
  (ram (low + slot)).toUInt32 ||| ((ram (high + slot)).toUInt32 <<< 8)

/-- One slot of the first loop: a carried sprite is copied and taken off the room. -/
def liftStep (m : CoopMachine) (acc : List Transport × Ram) (slot : Nat) :
    Option (List Transport × Ram) :=
  let ram := acc.2
  if ram.status slot ≠ 0x0b then some acc
  else
    match coopMachineEntitySlot m COOP_ENTITY_NORMAL (UInt32.ofNat slot) with
    | none => none
    | some e =>
      if e.owner = COOP_NO_PLAYER then none
      else some (acc.1 ++ [⟨e, ram.position 0xe4 0x14e0 slot, ram.position 0xd8 0x14d4 slot,
        ram (0x15f6 + slot)⟩], ram.put (0x14c8 + slot) 0)

def liftCarried (m : CoopMachine) (ram : Ram) : Option (List Transport × Ram) :=
  (List.range 12).foldlM (liftStep m) ([], ram)

/-- `while(m->entity_count)coop_machine_forget_entity(m,m->entities[0].id)`; each turn removes one.
-/
def forgetLoop : Nat → CoopMachine → CoopMachine
  | 0, m => m
  | fuel + 1, m =>
    match m.entities with
    | [] => m
    | e :: _ => forgetLoop fuel (coopMachineForgetEntity m e.id)

def forgetAll (m : CoopMachine) : CoopMachine := forgetLoop m.entities.length m

/-- The sprite tables of a slot, as a carried sprite arrives in it. -/
def landRam (t : Transport) (slot : Nat) (ram : Ram) : Ram :=
  let ram := (ram.put (0x14c8 + slot) 0x0b).put (0x9e + slot) t.entity.type.toUInt8
  let ram := (ram.put (0xe4 + slot) t.x.toUInt8).put (0x14e0 + slot) (t.x >>> 8).toUInt8
  (ram.put (0xd8 + slot) t.y.toUInt8).put (0x14d4 + slot) (t.y >>> 8).toUInt8

/-- The record of a carried entity in its new slot, and its owner's reference. -/
def landEntity (m : CoopMachine) (t : Transport) (slot : Nat) : Option CoopMachine :=
  let e := { t.entity with slot := UInt32.ofNat slot }
  let m := { m with entities := m.entities ++ [e] }
  if e.flags = COOP_ENTITY_HELD then
    match coopPlayer m.session e.owner with
    | none => none
    | some p => some { m with session := putPlayer m.session { p with heldObject := e.id } }
  else some m

/-- One turn of the second loop. -/
def landStep (emu : Emulator κ) (completed : κ) (slot : Nat) (t : Transport) (st : Stage κ) :
    Option (Stage κ) := do
  let st := Stage.restore emu completed { st with ram := landRam t slot st.ram }
  let st ← emu.guestJsr 0x07f7d2 (UInt32.ofNat slot) st
  let m ← landEntity st.machine t slot
  some { st with machine := m, ram := st.ram.put (0x15f6 + slot) t.palette }

def landCarried (emu : Emulator κ) (completed : κ) : Nat → List Transport → Stage κ →
    Option (Stage κ)
  | _, [], st => some st
  | slot, t :: carried, st => do
    let st ← landStep emu completed slot t st
    landCarried emu completed (slot + 1) carried st

/-- The registers and the scratch bytes a native sequence leaves. -/
def Stage.complete (emu : Emulator κ) (completed st : Stage κ) : Stage κ :=
  let st := Stage.restore emu completed.emulator st
  { st with ram := st.ram.write 0 (completed.ram.bytes 0 16) }

/-- `carry_through_room`. -/
def carryThroughRoom (emu : Emulator κ) (st : Stage κ) : Option (Stage κ) := do
  let (carried, ram) ← liftCarried st.machine st.ram
  let completed ← emu.guestJsr 0x02abf2 0 { st with ram := ram }
  let after ← landCarried emu completed.emulator 0 carried
    { completed with machine := forgetAll completed.machine }
  some (Stage.complete emu completed after)

/-! ## The room loader -/

/-- The ROM's loader at 02:A751: up to the cleanup at 02:ABF2, for which the host substitutes
`carry_through_room`, and from its return on. -/
structure RoomLoader (κ : Type) where
  enter : Stage κ → Option (Stage κ)
  leave : Stage κ → Option (Stage κ)

def putActor (m : CoopMachine) (a : CoopActor) : CoopMachine :=
  { m with actors := putKey CoopActor.player a m.actors }

/-- One turn of the first loop of `load_room_sprites`: a ridden mount is parked with its rider. -/
def parkMount (st : Stage κ) (player : CoopPlayerId) : Option (Stage κ) := do
  let a ← coopMachineActor st.machine player
  match actorMount st.machine player with
  | none => some st
  | some e =>
    if a.storedMount ≠ 0 then none
    else
      let color := if e.mountValid then (e.mount.get ⟨1, by decide⟩).toUInt32
        else (st.ram 0x13c7).toUInt32
      let m := putActor st.machine { a with storedMount := e.id, storedMountColor := color }
      some { st with machine := coopMachineForgetEntity m e.id }

/-- The primary's Yoshi, when only the native carry flag tells of it. -/
def adoptCarryFlag (st : Stage κ) : Option (Stage κ) := do
  let m := st.machine
  let primary ← coopMachineActor m m.session.primary
  if primary.storedMount = 0 ∧ st.ram 0xdc1 ≠ 0 then
    if m.nextEntity = COOP_NO_ENTITY then none
    else
      let a := { primary with storedMount := m.nextEntity, storedMountColor := (st.ram 0x13c7).toUInt32 }
      some { st with machine := putActor { m with nextEntity := m.nextEntity + 1 } a }
  else some st

/-- `load_room_sprites` up to the return of the loader. -/
def enterRoom (emu : Emulator κ) (loader : RoomLoader κ) (st : Stage κ) : Option (Stage κ) := do
  let st ← (st.machine.actors.map CoopActor.player).foldlM parkMount st
  let st ← adoptCarryFlag st
  let st ← loader.enter st
  let st ← carryThroughRoom emu st
  loader.leave st

/-- Whether the room admits mounts. -/
def mountsAllowed (ram : Ram) : Bool := ram 0x1b9b = 0

/-- The record of a mount that has come back to its rider. -/
def returnedMount (e : CoopEntity) (a : CoopActor) (ram : Ram) : CoopEntity :=
  coopMountCapture
    { e with id := a.storedMount, owner := a.player, flags := COOP_ENTITY_RIDDEN } ram

/-- The record of the slot's new entity and the references to it. -/
def remount (m : CoopMachine) (ram : Ram) (slot : UInt32) (player : CoopPlayerId) :
    Option CoopMachine := do
  let (e, m) ← normalEntity m ram slot true
  let a ← coopMachineActor m player
  let p ← coopPlayer m.session player
  let f := returnedMount e a ram
  let m := { m with entities := m.entities.map (fun (g : CoopEntity) => if g.id = e.id then f else g) }
  let m := { m with session := putPlayer m.session { p with mount := f.id } }
  some (putActor m { a with storedMount := 0, storedMountColor := 0 })

/-- The slot in which the entrance has put a mount. -/
def entranceSlot (ram : Ram) : UInt32 :=
  if ram 0x18e2 ≠ 0 then (ram 0x18e2).toUInt32 - 1 else 12

/-- The mount entrance of one rider. -/
def mountRider (emu : Emulator κ) (completed : Stage κ) (a : CoopActor) (st : Stage κ) :
    Option (Stage κ) := do
  let ram := (st.ram.put 0xdc1 1).put 0x13c7 a.storedMountColor.toUInt8
  let st := Stage.complete emu completed { st with ram := ram }
  let st ← emu.guestJsr 0x00fc7a 0 st
  let slot := entranceSlot st.ram
  if slot ≥ 12 ∨ st.ram (0x9e + slot.toNat) ≠ 0x35 ∨ st.ram.status slot.toNat ≠ 8 then none
  else
    let m ← remount st.machine st.ram slot a.player
    some { st with machine := m }

/-- A stored mount comes back where the room admits mounts. -/
def returnMount (emu : Emulator κ) (completed : Stage κ) (a : CoopActor) (st : Stage κ) :
    Option (Stage κ) :=
  if a.storedMount ≠ 0 ∧ mountsAllowed completed.ram = true then mountRider emu completed a st
  else some st

/-- Guest memory as an actor enters the room. -/
def entranceRam (entry : List.Vector UInt8 COOP_GUEST_BYTES) (m : CoopMachine) (a : CoopActor)
    (p : CoopPlayer) (ram : Ram) : Ram :=
  let ram := coopMountBind none (coopGuestBind entry ram)
  let ram := (ram.put 0x187a 0).put 0x188b 0
  let ram := if m.roomInitialized = true ∨ a.player ≠ m.session.primary then
    (ram.put 0x19 p.power.toWord.toUInt8).put 0xdc2 p.reserve.toUInt8 else ram
  if ram 0x71 = 0x0a then ram.put 0x88 (if a.storedMount ≠ 0 then 0x0f else 0) else ram

/-- The actor's pictures are those of the room it has left. -/
def clearPictures (m : CoopMachine) (player : CoopPlayerId) : Option CoopMachine := do
  let a ← coopMachineActor m player
  some (putActor m { a with pending := [], visible := [] })

/-- One turn of the second loop of `load_room_sprites`. -/
def settleRider (emu : Emulator κ) (completed : Stage κ) (st : Stage κ) (player : CoopPlayerId) :
    Option (Stage κ) := do
  let a ← coopMachineActor st.machine player
  let p ← coopPlayer st.machine.session player
  let entry := coopGuestCapture completed.ram
  let st := { st with ram := entranceRam entry st.machine a p st.ram }
  let st ← returnMount emu completed a st
  let st ← capture st player
  let m ← clearPictures st.machine player
  some { st with machine := m }

/-- `load_room_sprites` from the return of the loader on. -/
def settleRoom (emu : Emulator κ) (completed : Stage κ) : Option (Stage κ) := do
  let st ← (completed.machine.actors.map CoopActor.player).foldlM
    (settleRider emu completed) completed
  let st :=
    Stage.complete emu completed { st with machine := { st.machine with entrancePrepared := true } }
  let st ← bindPrimary st
  restorePrimaryMount st

/-- `load_room_sprites`. -/
def loadRoomSprites (emu : Emulator κ) (loader : RoomLoader κ) (st : Stage κ) :
    Option (Stage κ) := do
  let st ← enterRoom emu loader st
  settleRoom emu st

end SmwRecomp.Coop
