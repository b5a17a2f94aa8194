import SmwRecomp.Coop.MachineLoad

/-!
# The runtime of the native co-op mode

The static state of `src/src/mods/coop/coop_runtime.c` and what sets it: the choice of a player
count, the reset of a session, and a snapshot that is checked, streamed past and committed by three
separate calls of the framework. The checks of a loaded machine against guest memory are those of
`coop_machine.c`.

* A null snapshot is the empty one.
* What `RtlSnapshotGuestLayout` answers, whether a save can be queued and the file of the last
  choice are arguments.
* `Runtime.perform` — the calls, with the answer each gives.
-/

set_option autoImplicit false

namespace SmwRecomp.Coop

def PRODUCT_PLAYERS : Nat := 2

structure Runtime where
  enabled : Bool
  choosing : Bool
  filesChosen : Bool
  disconnected : Bool
  selectedCount : Nat
  /-- The live machine; `none` is a zeroed one. -/
  machine : Option CoopMachine
  staged : Option CoopMachine
  stagedSize : Nat
  stagedConsumed : Bool

namespace Runtime

/-- `SmwCoopEnable`. -/
def enable (on : Bool) : Runtime where
  enabled := on
  choosing := false
  filesChosen := false
  disconnected := false
  selectedCount := 0
  machine := none
  staged := none
  stagedSize := 0
  stagedConsumed := false

/-- `SmwCoopActive`. -/
def active (r : Runtime) : Bool := r.enabled && decide (r.selectedCount > 1)

/-- `SmwCoopPersistenceReady`. -/
def persistenceReady (r : Runtime) : Bool :=
  !r.enabled || (decide (r.selectedCount ≠ 0) && !r.choosing)

/-! ## The player count -/

/-- `choose_storage`; `queued` is the answer of `SmwCoopQueueStorage`. -/
def chooseStorage (r : Runtime) (count : Nat) (allocator : Allocator) (queued : Bool) :
    Bool × Runtime :=
  if count ≠ 1 ∧ count ≠ PRODUCT_PLAYERS then (false, r)
  else
    let next := if count > 1 then coopMachineInit allocator count else none
    if count > 1 ∧ next.isNone then (false, r)
    else if count ≠ r.selectedCount ∧ r.selectedCount ≠ 0 ∧ queued = false then (false, r)
    else (true, { r with machine := next, selectedCount := count })

/-- `SmwCoopPrepareStorage`; `saved` is the first character of the file of the last choice. -/
def prepareStorage (r : Runtime) (saved : Option Char) (allocator : Allocator) (queued : Bool) :
    Bool × Runtime :=
  if r.enabled = false then (true, r)
  else if saved = some '1' then r.chooseStorage 1 allocator queued
  else if saved = some '2' then r.chooseStorage 2 allocator queued
  else (false, r)

/-- `SmwCoopGuestHook` at `FILE_ENTER`. -/
def fileEnter (r : Runtime) : Runtime :=
  if r.enabled = true ∧ r.filesChosen = false then { r with choosing := true } else r

/-- `SmwCoopGuestHook` at the player count menu; `x` is the cursor. -/
def menuChoice (r : Runtime) (x : UInt8) (allocator : Allocator) (queued : Bool) : Runtime :=
  if r.enabled = true ∧ r.choosing = true then
    match r.chooseStorage (x.toNat + 1) allocator queued with
    | (true, r) => { r with choosing := false, filesChosen := true }
    | (false, r) => r
  else r

/-- `SmwCoopResetSession`. -/
def resetSession (r : Runtime) (allocator : Allocator) : Runtime :=
  if r.enabled = false then r
  else
    let r := { r with filesChosen := false, choosing := false, disconnected := false }
    if r.selectedCount > 1 then
      match coopMachineInit allocator r.selectedCount with
      | some next => { r with machine := some next }
      | none => r
    else r

end Runtime

/-! ## A machine against guest memory -/

/-- `coop_mount_mouth_active`. -/
def coopMountMouthActive (ram : Ram) (slot : Nat) : Bool :=
  if slot ≥ 12 then false
  else
    let status := ram (0x14c8 + slot)
    let type := ram (0x9e + slot)
    (decide (status = 8) && decide (type = 0x35)) ||
      (decide (status ≥ 9) && decide (status ≤ 11) && decide (type = 0x2d) &&
        decide (ram (0x163e + slot) > 0x20))

def CoopEntity.mountByte (e : CoopEntity) (i : Nat) : UInt8 := e.mount.toList.getD i 0

/-- Two bytes of a mount image, rounded down to a tile. -/
def CoopEntity.mountTile (e : CoopEntity) (low high : Nat) : Nat :=
  let word := (e.mountByte low).toNat + 256 * (e.mountByte high).toNat
  word - word % 16

/-- `coop_mount_pending_berry`. -/
def coopMountPendingBerry (e : CoopEntity) (ram : Ram) : Option (Nat × Nat) :=
  if e.kind ≠ COOP_ENTITY_NORMAL ∨ e.type ≠ 0x35 ∨ e.slot ≥ 12 ∨ e.mountValid = false ∨
      ram (0x14c8 + e.slot.toNat) ≠ 8 ∨ ram (0x1564 + e.slot.toNat) = 0 ∨
      e.mountByte 15 = 0 then none
  else some (e.mountTile 9 10, e.mountTile 11 12)

/-- Two delayed bites of one world tile. -/
def berriesDistinct (ram : Ram) (entities : List CoopEntity) : Bool :=
  decide (entities.filterMap fun e => coopMountPendingBerry e ram).Nodup

/-- Who owns the last entity of a sprite slot. -/
def slotOwner (entities : List CoopEntity) (slot : Nat) : CoopPlayerId :=
  entities.foldl (fun rider e =>
    if e.kind = COOP_ENTITY_NORMAL ∧ e.slot.toNat = slot then e.owner else rider) COOP_NO_PLAYER

/-- One slot of the loop of `coop_machine_mouths_valid`: the objects referenced so far. -/
def mouthPass (entities : List CoopEntity) (ram : Ram) (referenced : List Nat) (slot : Nat) :
    Option (List Nat) :=
  if coopMountMouthActive ram slot = false then some referenced
  else
    let object := (ram (0x160e + slot)).toNat
    if object ≥ 0x80 then
      -- A pending meal needs real food.
      if ram (0x9e + slot) = 0x2d then none else some referenced
    else if object ≥ 12 ∨ object = slot ∨ object ∈ referenced then none
    else if ram (0x9e + object) = 0x2c ∨ ram (0x9e + object) = 0x2d ∨
      ram (0x9e + object) = 0x35 then none
    else
      let rider := slotOwner entities slot
      if entities.any
        (fun e => decide (e.kind = COOP_ENTITY_NORMAL) && decide (e.slot.toNat = object) &&
          decide (e.flags &&& (COOP_ENTITY_HELD ||| COOP_ENTITY_ATTACHED) ≠ 0) &&
            decide (e.owner ≠ rider))
      then none
      else some (object :: referenced)

/-- `coop_machine_mouths_valid`. -/
def coopMachineMouthsValid (m : CoopMachine) (ram : Ram) : Bool :=
  berriesDistinct ram m.entities && ((List.range 12).foldlM (mouthPass m.entities ram) []).isSome

/-- The loop body of `coop_machine_placed_eggs_valid`. -/
def eggAgrees (m : CoopMachine) (ram : Ram) (s : CoopPlacedEgg) : Bool :=
  if s.egg = 0 then true
  else
    match lastEntity m s.egg with
    | none => false
    | some egg =>
      let slot := egg.slot.toNat
      let status := ram (0x14c8 + slot)
      let coordinate (low high : Nat) : Nat :=
        (ram (low + slot)).toNat + 256 * (ram (high + slot)).toNat
      if slot ≥ 12 then false
      else if ram (0x9e + slot) ≠ 0x2c ∨ (status ≠ 1 ∧ status ≠ 8) ∨
          coordinate 0xe4 0x14e0 ≠ s.x.toNat ∨ coordinate 0xd8 0x14d4 ≠ s.y.toNat then false
      else !(decide (status = 8) && decide (ram (0x187b + slot) = 0) &&
        (decide (s.uses = 0) ||
          (decide (ram (0x151c + slot) ≠ 0x2d) && decide (ram (0x151c + slot) ≠ 0x78))))

/-- `coop_machine_placed_eggs_valid`. -/
def coopMachinePlacedEggsValid (m : CoopMachine) (ram : Ram) : Bool :=
  m.placedEggs.all (eggAgrees m ram)

/-! ## Snapshots -/

/-- `RtlSnapshotGuestLayout`: the version, the offset of guest memory and the size of the guest's
part of a snapshot. -/
structure GuestLayout where
  version : UInt32
  ramOffset : Nat
  guest : Nat

/-- `SmwStateSharedExtraSize` while co-op is active. -/
def sharedExtraSize : Nat := 4 + 8 + 4 + 128 + 1

def cnre : Tag := tag 'C' 'N' 'R' 'E'

/-- The guest's bytes in a snapshot of a saved version: version 10 appends one to version 9, and
every other mismatch is refused. -/
def guestBytes (layout : GuestLayout) (savedVersion : UInt32) : Except Stop Nat :=
  if layout.version = 10 ∧ savedVersion = 9 ∧ layout.guest ≠ 0 then .ok (layout.guest - 1)
  else if savedVersion ≠ layout.version then .error .refused
  else .ok layout.guest

/-- The machine that `SmwCoopSnapshotPreflight` stages while co-op is active, and its size. -/
def readStaged (selected : Nat) (layout : GuestLayout) (allocator : Allocator) (p : Bytes) :
    Except Stop (CoopMachine × Nat) := do
  let size := p.length
  let extra := sharedExtraSize
  refuseIf (size < 16)
  let footer ← fetchBytes p (size - 4) 4
  refuseIf (footer ≠ cnre.toList)
  let savedVersion ← fetch32 p 4
  let magic ← fetch32 p 0
  refuseIf (magic ≠ 0x52544c53)
  let guest ← guestBytes layout savedVersion
  let n ← fetch32 p (size - 8)
  refuseIf (guest = 0 ∨ guest > size ∨ extra > size - guest ∨ size - guest - extra < 8 ∨
    n.toNat ≠ size - guest - extra - 8)
  let combined ← fetch32 p guest
  let renderer ← fetch32 p (guest + 4)
  let version ← fetch32 p (guest + 8)
  refuseIf (combined ≠ 0x31434d53 ∨ renderer ≠ 0x53574d53 ∨ version ≠ 1)
  let data ← fetchBytes p (guest + extra) n.toNat
  let m ← readMachine data allocator
  refuseIf (m.actors.length ≠ selected ∨ layout.ramOffset > guest ∨
    guest - layout.ramOffset < 0x20000)
  let wram ← fetchBytes p layout.ramOffset 0x20000
  let ram : Ram := fun i => wram.getD i 0
  refuseIf (coopMachineMouthsValid m ram = false ∨ coopMachinePlacedEggsValid m ram = false)
  return (m, n.toNat)

/-- `while(left)`: the loop of `SmwCoopLoadExtra` that reads the stream away. -/
def discard (left : Nat) (stream : Bytes) : Bytes :=
  if left = 0 then stream
  else
    let n := if left > 256 then 256 else left
    discard (left - n) (stream.drop n)
termination_by left
decreasing_by
  split <;> omega

namespace Runtime

/-- `SmwCoopSnapshotPreflight`. -/
def snapshotPreflight (r : Runtime) (layout : GuestLayout) (allocator : Allocator) (data : Bytes) :
    Except Stop (Bool × Runtime) :=
  let r := { r with staged := none, stagedSize := 0, stagedConsumed := false }
  if r.active = false then .ok (!r.enabled || r.persistenceReady, r)
  else deliver r ((readStaged r.selectedCount layout allocator data).map fun (m, n) =>
    { r with staged := some m, stagedSize := n })

/-- `SmwCoopSaveExtra`: what it puts on the stream, nothing while co-op is not active; `none` is
`RtlStateStreamFail`. -/
def saveExtra (r : Runtime) (allocator : Allocator) : Except Stop (Option Bytes) :=
  match r.active, r.machine with
  | true, some m =>
    let n := coopMachineSaveSize m
    if n = 0 ∨ n > UINT32_MAX then .ok none
    else
      match allocator.request with
      | (false, _) => .ok none
      | (true, rest) =>
        match coopMachineSave m rest (List.replicate n 0) with
        | .ok p => .ok (some (p ++ (le32 (UInt32.ofNat n) ++ cnre.toList)))
        | .error .refused => .ok none
        | .error stop => .error stop
  | true, none => .ok none
  | false, _ => .ok (some [])

/-- `SmwCoopLoadExtra`: the rest of the stream, and the state. -/
def loadExtra (r : Runtime) (stream : Bytes) : Bytes × Runtime :=
  if r.active = false ∨ r.stagedSize = 0 then (stream, r)
  else (discard (r.stagedSize + 8) stream, { r with stagedConsumed := true })

/-- `SmwCoopStateLoaded`. -/
def stateLoaded (r : Runtime) : Runtime :=
  let r :=
    if r.active = true ∧ r.stagedConsumed = true then { r with
      machine := r.staged, staged := none
      choosing := false, disconnected := false, filesChosen := true }
    else r
  { r with stagedSize := 0, stagedConsumed := false }

/-! ## Calls -/

inductive Call where
  | enable (on : Bool)
  | chooseStorage (count : Nat) (allocator : Allocator) (queued : Bool)
  | prepareStorage (saved : Option Char) (allocator : Allocator) (queued : Bool)
  | fileEnter
  | menuChoice (x : UInt8) (allocator : Allocator) (queued : Bool)
  | resetSession (allocator : Allocator)
  | snapshotPreflight (layout : GuestLayout) (allocator : Allocator) (data : Bytes)
  | loadExtra (stream : Bytes)
  | stateLoaded
  /-- A frame of the game moves the live machine and looks for missing controllers. -/
  | frame (move : CoopMachine → CoopMachine) (disconnected : Bool)

/-- A call: its answer and the state behind it. -/
def perform (r : Runtime) : Call → Except Stop (Bool × Runtime)
  | .enable on => .ok (true, enable on)
  | .chooseStorage count allocator queued => .ok (r.chooseStorage count allocator queued)
  | .prepareStorage saved allocator queued => .ok (r.prepareStorage saved allocator queued)
  | .fileEnter => .ok (true, r.fileEnter)
  | .menuChoice x allocator queued => .ok (true, r.menuChoice x allocator queued)
  | .resetSession allocator => .ok (true, r.resetSession allocator)
  | .snapshotPreflight layout allocator data => r.snapshotPreflight layout allocator data
  | .loadExtra stream => .ok (true, (r.loadExtra stream).2)
  | .stateLoaded => .ok (true, r.stateLoaded)
  | .frame move disconnected => .ok (true, { r with machine := r.machine.map move, disconnected })

/-- The step of a run: a call that is answered. -/
def Answers (r : Runtime) (call : Call) (t : Runtime) : Prop :=
  ∃ answer, r.perform call = .ok (answer, t)

end Runtime

end SmwRecomp.Coop
