import SmwRecomp.Lib.CEnum
import SmwRecomp.Lib.Run
import SmwRecomp.Lib.Wire
import Mathlib.Logic.Function.Basic

/-!
# Foreign controllers

`src/src/foreign_controller.c`: the registry of host-side movement controllers, the state the core
owns, its trace, and the snapshot codec; and the save callbacks of
`src/src/mods/falcon/captain_falcon_foreign.c`.

* Floating-point fields are their bit patterns.
* A `ForeignController *` is an index into a table; what the controllers keep for themselves is
  their `memory`.
* What a controller does in a frame, and what is traced of it, is left to its callbacks.
-/

set_option autoImplicit false

namespace SmwRecomp.Foreign

/-! ## Records -/

inductive ForeignOwnership where
  | native
  | foreign
  | scripted
  deriving DecidableEq, Repr, Inhabited

instance : Enumeration ForeignOwnership where
  code
    | .native => 0
    | .foreign => 1
    | .scripted => 2
  constants := [.native, .foreign, .scripted]
  mem_constants a := by cases a <;> decide
  code_injective a b := by cases a <;> cases b <;> decide

inductive ForeignAirCause where
  | none
  | launched
  | fell
  deriving DecidableEq, Repr, Inhabited

instance : Enumeration ForeignAirCause where
  code
    | .none => 0
    | .launched => 1
    | .fell => 2
  constants := [.none, .launched, .fell]
  mem_constants a := by cases a <;> decide
  code_injective a b := by cases a <;> cases b <;> decide

inductive ForeignJumpPhase where
  | none
  | charging
  | launch
  deriving DecidableEq, Repr, Inhabited

instance : Enumeration ForeignJumpPhase where
  code
    | .none => 0
    | .charging => 1
    | .launch => 2
  constants := [.none, .charging, .launch]
  mem_constants a := by cases a <;> decide
  code_injective a b := by cases a <;> cases b <;> decide

structure ForeignState where
  state : Int32
  stateFrame : UInt32
  x : UInt64
  y : UInt64
  vx : UInt64
  vy : UInt64
  facing : UInt32
  grounded : Int32
  fastFall : Int32
  airCause : CEnum ForeignAirCause
  jumpPhase : CEnum ForeignJumpPhase
  deriving DecidableEq

/-- `memset(&s_state, 0, sizeof(s_state))`. -/
def zeroState : ForeignState := ⟨0, 0, 0, 0, 0, 0, 0, 0, 0, .is .none, .is .none⟩

/-- The bits of `1.0f`. -/
def oneFloat : UInt32 := 0x3f800000

/-- A controller; `π` is what its own module keeps, `ι` and `ρ` what a tick and a resolution tell
it. -/
structure ForeignController (π ι ρ : Type) where
  id : Bytes
  reset : Option (ForeignState → π → ForeignState × π)
  tick : ι → ForeignState → π → ForeignState × π
  resolve : Option (ρ → ForeignState → π → ForeignState × π)
  saveVersion : UInt32
  /-- The payload, if it fits the capacity. -/
  serialize : Option (ForeignState → π → Nat → Option Bytes)
  /-- Whether the payload is accepted, and what is left either way. -/
  deserialize : Option (ForeignState → π → Bytes → UInt32 → Bool × ForeignState × π)

/-- `s_ftring` and `s_ftring_head`. -/
structure Trace (ε : Type) where
  ring : Nat → ε
  head : UInt32

def FOREIGN_MAX_CONTROLLERS : Nat := 16
def FTRING_N : UInt32 := 16384
def FOREIGN_SAVE_MAGIC : UInt32 := 0x53434653
def FOREIGN_SAVE_FORMAT_VERSION : UInt16 := 1
def FOREIGN_SAVE_MAX_ID : Nat := 96
def FOREIGN_SAVE_FIXED_SIZE : Nat := 80
def SNES_FOREIGN_SAVE_MAX_PAYLOAD : Nat := 4096

/-- The static state of the core; `κ` are pointers to controllers, `ε` entries of the trace. -/
structure Core (κ π ε : Type) where
  controllers : List κ
  active : Option κ
  state : ForeignState
  ownership : CEnum ForeignOwnership
  trace : Trace ε
  memory : κ → π

variable {κ π ι ρ ε : Type} [DecidableEq κ] [Inhabited ε]

/-- `ftring_clear`. -/
def Trace.cleared : Trace ε := ⟨fun _ => default, 0⟩

/-- `snes_foreign_trace_push`. -/
def Trace.push (t : Trace ε) (entry : ε) : Trace ε :=
  ⟨Function.update t.ring (t.head &&& (FTRING_N - 1)).toNat entry, t.head + 1⟩

/-- A change of `latest_trace`. -/
def Trace.amend (t : Trace ε) (f : ε → ε) : Trace ε :=
  if t.head = 0 then t
  else
    let latest := ((t.head - 1) &&& (FTRING_N - 1)).toNat
    ⟨Function.update t.ring latest (f (t.ring latest)), t.head⟩

/-! ## The registry -/

section Registry

variable (table : κ → ForeignController π ι ρ)

/-- `find_controller`. -/
def findController (controllers : List κ) (id : Bytes) : Option κ :=
  controllers.find? (fun k => decide ((table k).id = id))

/-- `controller_has_valid_save_callbacks`. -/
def validSaveCallbacks (c : ForeignController π ι ρ) : Bool :=
  if c.serialize.isNone && c.deserialize.isNone then decide (c.saveVersion = 0)
  else c.serialize.isSome && c.deserialize.isSome

namespace Core

/-- `snes_foreign_register`, of a controller that has a `tick`. -/
def register (s : Core κ π ε) (k : κ) : Bool × Core κ π ε :=
  if (table k).id = [] then (false, s)
  else
    match s.controllers.find? (fun j => decide ((table j).id = (table k).id)) with
    | some j => (decide (j = k), s)
    | none =>
      if s.controllers.length ≥ FOREIGN_MAX_CONTROLLERS then (false, s)
      else (true, { s with controllers := s.controllers ++ [k] })

/-- `snes_foreign_select`; a null identity is the empty one. -/
def select (s : Core κ π ε) (id : Bytes) : Bool × Core κ π ε :=
  if id = [] then (true, { s with active := none, state := zeroState })
  else
    match findController table s.controllers id with
    | none => (false, s)
    | some k =>
      let s := { s with active := some k, state := { zeroState with facing := oneFloat } }
      match (table k).reset with
      | none => (true, s)
      | some reset =>
        let (state, own) := reset s.state (s.memory k)
        (true, { s with state, memory := Function.update s.memory k own })

/-- `snes_foreign_tick`, with the entry it traces. -/
def tick (s : Core κ π ε) (input : ι) (entry : ε) : Core κ π ε :=
  match s.active with
  | none => { s with trace := s.trace.push entry }
  | some k =>
    if s.ownership ≠ .is .foreign then { s with trace := s.trace.push entry }
    else
      let (state, own) := (table k).tick input s.state (s.memory k)
      { s with state, memory := Function.update s.memory k own, trace := s.trace.push entry }

/-- `snes_foreign_resolve`, with what it notes in the trace. -/
def resolve (s : Core κ π ε) (hit : ρ) (note : ε → ε) : Core κ π ε :=
  let s := { s with trace := s.trace.amend note }
  match s.active with
  | none => s
  | some k =>
    match (table k).resolve with
    | none => s
    | some f =>
      if s.ownership ≠ .is .foreign then s
      else
        let (state, own) := f hit s.state (s.memory k)
        { s with state, memory := Function.update s.memory k own }

end Core

/-! ## Saving -/

/-- The range check of the ownership. -/
def ownershipInvalid (w : UInt32) : Bool := decide (w > 2)

/-- `snes_foreign_save` up to the buffer: identity, version and payload of the active controller. -/
def payloadOf (s : Core κ π ε) : Option (Bytes × UInt32 × Bytes) :=
  match s.active with
  | none => some ([], 0, [])
  | some k =>
    let c := table k
    if c.id.length = 0 ∨ c.id.length > FOREIGN_SAVE_MAX_ID ∨ validSaveCallbacks c = false then none
    else
      match c.serialize with
      | none => some (c.id, 0, [])
      | some serialize =>
        match serialize s.state (s.memory k) SNES_FOREIGN_SAVE_MAX_PAYLOAD with
        | none => none
        | some payload =>
          if payload.length > SNES_FOREIGN_SAVE_MAX_PAYLOAD then none
          else some (c.id, c.saveVersion, payload)

/-- The fields of the core's state. -/
def writeState (s : ForeignState) : CursorM Unit := do
  put32 s.state.toUInt32
  put32 s.stateFrame
  put64 s.x
  put64 s.y
  put64 s.vx
  put64 s.vy
  put32 s.facing
  put32 s.grounded.toUInt32
  put32 s.fastFall.toUInt32
  put32 s.airCause.toWord
  put32 s.jumpPhase.toWord

def writeSnapshot (s : Core κ π ε) (id : Bytes) (version : UInt32) (payload : Bytes) :
    CursorM Unit := do
  put32 FOREIGN_SAVE_MAGIC
  put16 FOREIGN_SAVE_FORMAT_VERSION
  put16 (UInt16.ofNat id.length)
  put32 s.ownership.toWord
  writeState s.state
  put32 version
  put32 (UInt32.ofNat payload.length)
  putBytes id
  putBytes payload

/-- `snes_foreign_save` into a buffer of its capacity: the buffer and `*out_size`, `none` when it
fails. -/
def snesForeignSave (s : Core κ π ε) (dst : Bytes) : Except Stop (Option (Bytes × Nat)) :=
  if ownershipInvalid s.ownership.toWord then .ok none
  else
    match payloadOf table s with
    | none => .ok none
    | some (id, version, payload) =>
      let total := FOREIGN_SAVE_FIXED_SIZE + id.length + payload.length
      if total > dst.length then .ok none
      else do
        let (_, c) ← (writeSnapshot s id version payload).run ⟨dst, 0⟩
        return some (c.p, total)

/-! ## Loading -/

def readState : CursorM ForeignState := do
  let state ← next32
  let stateFrame ← next32
  let x ← next64
  let y ← next64
  let vx ← next64
  let vy ← next64
  let facing ← next32
  let grounded ← next32
  let fastFall ← next32
  let airCause ← next32
  let jumpPhase ← next32
  return ⟨state.toInt32, stateFrame, x, y, vx, vy, facing, grounded.toInt32, fastFall.toInt32,
    .ofWord airCause, .ofWord jumpPhase⟩

/-- The part of a snapshot in front of the identity. -/
structure Head where
  idLength : UInt16
  ownership : CEnum ForeignOwnership
  state : ForeignState
  version : UInt32
  payloadSize : UInt32

def readHead : CursorM Head := do
  let magic ← next32
  refuse (magic ≠ FOREIGN_SAVE_MAGIC)
  let format ← next16
  refuse (format ≠ FOREIGN_SAVE_FORMAT_VERSION)
  let idLength ← next16
  refuse (idLength.toNat > FOREIGN_SAVE_MAX_ID)
  let ownership ← next32
  refuse (ownershipInvalid ownership = true)
  let state ← readState
  let version ← next32
  let payloadSize ← next32
  return ⟨idLength, .ofWord ownership, state, version, payloadSize⟩

/-- The assignments at the end of `snes_foreign_load`. -/
def Core.commit (s : Core κ π ε) (active : Option κ) (state : ForeignState)
    (ownership : CEnum ForeignOwnership) : Core κ π ε :=
  { s with active, state, ownership, trace := .cleared }

/-- `snes_foreign_load` behind the head: the controller's own part. -/
def loadPayload (s : Core κ π ε) (h : Head) (id payload : Bytes) : Bool × Core κ π ε :=
  if h.idLength = 0 then
    if h.version ≠ 0 ∨ h.payloadSize ≠ 0 then (false, s)
      else (true, s.commit none h.state h.ownership)
  else
    match findController table s.controllers id with
    | none => (false, s)
    | some k =>
      if validSaveCallbacks (table k) = false then (false, s)
      else
        match (table k).serialize, (table k).deserialize with
        | some _, some deserialize =>
          if h.version ≠ (table k).saveVersion then (false, s)
          else
            let (accepted, state, own) := deserialize h.state (s.memory k) payload h.version
            let s := { s with memory := Function.update s.memory k own }
            if accepted then (true, s.commit (some k) state h.ownership) else (false, s)
        | _, _ =>
          if h.version ≠ 0 ∨ h.payloadSize ≠ 0 then (false, s)
          else (true, s.commit (some k) h.state h.ownership)

/-- `snes_foreign_load`. -/
def snesForeignLoad (s : Core κ π ε) (src : Bytes) : Except Stop (Bool × Core κ π ε) :=
  if src.length < FOREIGN_SAVE_FIXED_SIZE then .ok (false, s)
  else
    match readHead.run ⟨src, 0⟩ with
    | .error .refused => .ok (false, s)
    | .error stop => .error stop
    | .ok (h, c) =>
      if h.payloadSize.toNat > SNES_FOREIGN_SAVE_MAX_PAYLOAD ∨
          FOREIGN_SAVE_FIXED_SIZE + h.idLength.toNat + h.payloadSize.toNat ≠ src.length
          then .ok (false, s)
      else do
        let id ← fetchBytes src c.pos h.idLength.toNat
        let payload ← fetchBytes src (c.pos + h.idLength.toNat) h.payloadSize.toNat
        return loadPayload table s h id payload

/-! ## Runs -/

inductive Act (κ π ι ρ ε : Type) where
  | register (k : κ)
  | select (id : Bytes)
  | setOwnership (ownership : CEnum ForeignOwnership)
  | tick (input : ι) (entry : ε)
  | resolve (hit : ρ) (note : ε → ε)
  | note (note : ε → ε)
  /-- The host writes through `snes_foreign_state`. -/
  | write (state : ForeignState)
  /-- A controller's own module works. -/
  | work (k : κ) (own : π)
  | load (src : Bytes)

/-- The state behind an act; a load that left its bytes would have none. -/
def Core.next (s : Core κ π ε) : Act κ π ι ρ ε → Option (Core κ π ε)
  | .register k => some (s.register table k).2
  | .select id => some (s.select table id).2
  | .setOwnership ownership => some { s with ownership }
  | .tick input entry => some (s.tick table input entry)
  | .resolve hit note => some (s.resolve table hit note)
  | .note note => some { s with trace := s.trace.amend note }
  | .write state => if s.active.isSome then some { s with state } else none
  | .work k own => some { s with memory := Function.update s.memory k own }
  | .load src =>
    match snesForeignLoad table s src with
    | .ok (_, t) => some t
    | .error _ => none

def Core.Step (s : Core κ π ε) (act : Act κ π ι ρ ε) (t : Core κ π ε) : Prop :=
  s.next table act = some t

end Registry

/-- Before anything is registered. -/
def Core.start (memory : κ → π) : Core κ π ε where
  controllers := []
  active := none
  state := zeroState
  ownership := .is .native
  trace := .cleared
  memory := memory

/-! ## Captain Falcon -/

/-- `sizeof(FalconFighter)`: all scalars, saved as they lie in memory. -/
def sizeofFalconFighter : Nat := 152

abbrev FalconFighter := List.Vector UInt8 sizeofFalconFighter

def FALCON_SAVESTATE_VERSION : UInt8 := 4

/-- `falcon_serialize`. -/
def falconSerialize (f : FalconFighter) (cap : Nat) : Option Bytes :=
  if cap < 1 + sizeofFalconFighter then none else some (FALCON_SAVESTATE_VERSION :: f.toList)

/-- `falcon_deserialize`. -/
def falconDeserialize (bytes : Bytes) : Option FalconFighter :=
  match bytes with
  | [] => none
  | version :: raw =>
    if h : raw.length = sizeofFalconFighter then
      if version ≠ FALCON_SAVESTATE_VERSION then none else some ⟨raw, h⟩
    else none

/-- `cf_serialize`. -/
def cfSerialize (_state : ForeignState) (f : FalconFighter) (capacity : Nat) : Option Bytes :=
  if capacity > 2 ^ 31 - 1 then none else falconSerialize f capacity

/-- `cf_deserialize`: into a local first, so that a bad blob leaves the live fighter. -/
def cfDeserialize (state : ForeignState) (f : FalconFighter) (src : Bytes) (version : UInt32) :
    Bool × ForeignState × FalconFighter :=
  if version ≠ 1 ∨ src.length > 2 ^ 31 - 1 then (false, state, f)
  else
    match falconDeserialize src with
    | none => (false, state, f)
    | some candidate => (true, state, candidate)

/-- The save part of `k_captain_falcon`, whatever its movement is. -/
def captainFalcon (id : Bytes) (reset : ForeignState → FalconFighter → ForeignState × FalconFighter)
    (tick : ι → ForeignState → FalconFighter → ForeignState × FalconFighter)
    (resolve : ρ → ForeignState → FalconFighter → ForeignState × FalconFighter) :
    ForeignController FalconFighter ι ρ where
  id := id
  reset := some reset
  tick := tick
  resolve := some resolve
  saveVersion := 1
  serialize := some cfSerialize
  deserialize := some cfDeserialize

end SmwRecomp.Foreign
