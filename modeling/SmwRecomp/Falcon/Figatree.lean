import SmwRecomp.Lib.Binary32
import SmwRecomp.Lib.Dict
import SmwRecomp.Falcon.Blob
import Mathlib.Data.List.Perm.Subperm

/-!
# From the animation scripts to the blob

`_decode_script` and `_write_anims` of `src/tools/owner_ssb64/decode_intermediates.py`,
`_track_segments` and `collect_animations` of `src/tools/owner_ssb64/bake_falcon_runtime.py`.

* `decodeScript` — the commands of a joint, out of the bytes of a file.
* `Stream` — what `_track_segments` keeps of the tracks of a joint; a number is in units of `1 /
  16384`, of which every number here is a whole multiple, and a frame is a whole number.
* `collectAnimations` — the tables of all animations.
* `Compiled` — what holds of the segments of a track at any time; `BakedAnimations.Fits` — what the
  loader asks of the tables.
* `decoded_animations_load` — whatever the files hold, what is collected from them is loaded.
-/

set_option autoImplicit false

namespace SmwRecomp.Falcon

/-! ## Scripts -/

inductive TrackName where
  | rotX
  | rotY
  | rotZ
  | traI
  | traX
  | traY
  | traZ
  | scaX
  | scaY
  | scaZ
  deriving DecidableEq

/-- In the order of their bits. -/
def TRACK_NAMES : List TrackName :=
  [.rotX, .rotY, .rotZ, .traI, .traX, .traY, .traZ, .scaX, .scaY, .scaZ]

inductive OpName where
  | ending
  | block
  | setValBlock
  | setVal
  | setValRateBlock
  | setValRate
  | setTargetRate
  | setVal0RateBlock
  | setVal0Rate
  | setValAfterBlock
  | setValAfter
  | loop
  | setFlags
  deriving DecidableEq

def OP_NAMES : Nat → Option OpName
  | 0 => some .ending
  | 1 => some .block
  | 2 => some .setValBlock
  | 3 => some .setVal
  | 4 => some .setValRateBlock
  | 5 => some .setValRate
  | 6 => some .setTargetRate
  | 7 => some .setVal0RateBlock
  | 8 => some .setVal0Rate
  | 9 => some .setValAfterBlock
  | 10 => some .setValAfter
  | 13 => some .loop
  | 14 => some .setFlags
  | _ => none

def OP_PAYLOAD_WORDS : Nat → Option Nat
  | 2 | 3 => some 1
  | 4 | 5 => some 2
  | 6 | 7 | 8 | 9 | 10 => some 1
  | _ => none

/-- A value, or a list of a value and a rate. -/
inductive Payload where
  | one (value : Int)
  | two (value rate : Int)

/-- A command, as it stands in the JSON file. -/
structure FigOp where
  op : OpName
  dur : Option Nat
  tracks : List TrackName
  payload : List (TrackName × Payload)

/-- `_u16`. -/
def u16At (raw : Bytes) (i : Nat) : Option Nat :=
  match raw.drop i with
  | a :: b :: _ => some (a.toNat * 256 + b.toNat)
  | _ => none

/-- `_s16`. -/
def s16At (raw : Bytes) (i : Nat) : Option Int :=
  (u16At raw i).map fun w : Nat => if w < 2 ^ 15 then (w : Int) else w - 2 ^ 16

/-- `struct.unpack_from(">I", raw, i)`. -/
def u32At (raw : Bytes) (i : Nat) : Option Nat := do
  let high ← u16At raw i
  let low ← u16At raw (i + 2)
  return high * 65536 + low

/-- `_token_offset`. -/
def tokenOffset (word : Nat) : Option Nat :=
  if word = 0 ∨ word >>> 16 = 0x0E00 then none
  else if (word &&& 0xFFFF) * 4 = 0 then none else some ((word &&& 0xFFFF) * 4)

def flaggedTracks (flags : Nat) : List TrackName :=
  (TRACK_NAMES.zipIdx.filter fun t => flags.testBit t.2).map Prod.fst

/-- The words of one track, and where the next ones are. -/
def readPayload (raw : Bytes) (words cursor : Nat) : Option (Payload × Nat) :=
  if words = 2 then do
    let value ← s16At raw cursor
    let rate ← s16At raw (cursor + 2)
    return (.two value rate, cursor + 4)
  else do
    let value ← s16At raw cursor
    return (.one value, cursor + 2)

def readPayloads (raw : Bytes) (words : Nat) : List TrackName → Nat →
    Option (List (TrackName × Payload) × Nat)
  | [], cursor => some ([], cursor)
  | t :: ts, cursor => do
    let (payload, cursor) ← readPayload raw words cursor
    let (payloads, cursor) ← readPayloads raw words ts cursor
    return ((t, payload) :: payloads, cursor)

/-- The duration, which a command with the toggle has. -/
def readDur (raw : Bytes) (toggle cursor : Nat) : Option (Option Nat) :=
  if toggle = 0 then some none else (u16At raw cursor).map some

/-- `_decode_script`, from the command at `cursor` on; `none` where it raises. -/
def decodeScript (raw : Bytes) : Nat → Nat → List FigOp → Option (List FigOp)
  | 0, _, _ => none
  | n + 1, cursor, ops => do
    let command ← u16At raw cursor
    let opcode := command >>> 11
    let flags := command >>> 1 &&& 0x3FF
    let toggle := command &&& 1
    if opcode = 0 then return ops ++ [⟨.ending, none, [], []⟩]
    if opcode = 13 then
      let _ ← s16At raw (cursor + 2)
      -- some files keep an `End` behind the loop
      return ops ++ ⟨.loop, none, [], []⟩ :: if u16At raw (cursor + 4) = some 0
        then [⟨.ending, none, [], []⟩] else []
    let name ← OP_NAMES opcode
    let dur ← readDur raw toggle (cursor + 2)
    let cursor := cursor + 2 + 2 * toggle
    if opcode = 1 ∨ opcode = 14 then decodeScript raw n cursor (ops ++ [⟨name, dur, [], []⟩])
    else
      let words ← OP_PAYLOAD_WORDS opcode
      let (payload, cursor) ← readPayloads raw words (flaggedTracks flags) cursor
      decodeScript raw n cursor (ops ++ [⟨name, dur, flaggedTracks flags, payload⟩])

/-- A joint of an animation; one without a script has no commands. -/
structure JointScript where
  slot : Nat
  ops : List FigOp

def decodeJoint (raw : Bytes) (slot : Nat) : Option JointScript := do
  let word ← u32At raw (slot * 4)
  match tokenOffset word with
  | none => return ⟨slot, []⟩
  | some target => return ⟨slot, ← decodeScript raw 4096 target []⟩

structure AnimationData where
  name : String
  joints : List JointScript

def ANIM_SPECS : List (Nat × String × Nat) := [
  (1512, "Wait", 25), (1513, "Walk1", 25), (1514, "Walk2", 25), (1515, "Walk3", 25),
    (1517, "Dash", 25), (1518, "Run", 25),
  (1519, "RunBrake", 25), (1520, "Turn", 25), (1521, "TurnRun", 26), (1522, "JumpF", 25),
    (1523, "JumpB", 26),
  (1524, "JumpAerialF", 25), (1525, "JumpAerialB", 26), (1526, "Fall", 25),
    (1527, "FallAerial", 25),
  (1554, "FallSpecial", 25), (1528, "Crouch_kneebend", 25), (1529, "CrouchIdle", 25),
    (1530, "CrouchEnd", 25),
  (1531, "LandingAirX", 25), (1516, "WalkEnd", 25), (1619, "Jab1", 25), (1628, "AttackS3", 25),
    (1638, "AttackAirN", 25),
  (1639, "AttackAirF", 25), (1640, "AttackAirB", 25), (1642, "AttackAirD", 25),
    (1652, "FalconPunchGround", 26),
  (1653, "FalconPunchAir", 25), (1654, "DownSpecial", 26), (1655, "VelocityXDownSpecialAir", 26),
  (1656, "LandingDownSpecial", 26), (1657, "DownSpecialAir", 26), (1658, "FalconDive", 26),
  (1659, "CatchingEnemyWhileDiving", 26), (1660, "FalconDiveEnd1", 26),
    (1661, "FalconDiveEnd2", 26)]

/-- `_write_anims`; `reloc` are the files by their ids. -/
def writeAnims (reloc : Nat → Option Bytes) : Option (List AnimationData) :=
  ANIM_SPECS.mapM fun (id, name, count) => do
    let raw ← reloc id
    let joints ← (List.range count).mapM (decodeJoint raw)
    return ⟨name, joints⟩

/-! ## Segments -/

def TRACK_IDS : TrackName → Option Nat
  | .rotX => some 0
  | .rotY => some 1
  | .rotZ => some 2
  | .traI => none
  | .traX => some 3
  | .traY => some 4
  | .traZ => some 5
  | .scaX => some 6
  | .scaY => some 7
  | .scaZ => some 8

/-- `raw_to_units`. -/
def rawToUnits : TrackName → Int → Int
  | .rotX, raw | .rotY, raw | .rotZ, raw => raw * 32
  | .traI, raw => raw
  | .traX, raw | .traY, raw | .traZ, raw => raw * 4096
  | .scaX, raw | .scaY, raw | .scaZ, raw => raw * 4

/-- `raw_to_rate_units`. -/
def rawToRateUnits : TrackName → Int → Int
  | .rotX, raw | .rotY, raw | .rotZ, raw => raw * 32
  | .traI, raw => raw
  | .traX, raw | .traY, raw | .traZ, raw => raw * 512
  | .scaX, raw | .scaY, raw | .scaZ, raw => raw * 2

def INTERP_HOLD : Nat := 0
def INTERP_LINEAR : Nat := 1
def INTERP_CUBIC : Nat := 2
def INTERP_STEP : Nat := 3

structure AObj where
  target : Int
  rate : Int

/-- A segment before it is packed. -/
structure RawSegment where
  frame : Nat
  duration : Nat
  base : Int
  target : Int
  rateBase : Int
  rateTarget : Int
  kind : Nat

structure Stream where
  states : Dict TrackName AObj
  segments : Dict TrackName (List RawSegment)
  frame : Nat

/-- `state_for`. -/
def Stream.stateFor (s : Stream) (track : TrackName) : AObj := (s.states.get? track).getD ⟨0, 0⟩

/-- `opname.endswith("Block")`. -/
def OpName.isBlock : OpName → Bool
  | .block | .setValBlock | .setValRateBlock | .setVal0RateBlock | .setValAfterBlock => true
  | _ => false

/-- The rate and the curve a command leads to. -/
def OpName.curve (op : OpName) (track : TrackName) (payload : Payload) : Option (Int × Nat) :=
  match op with
  | .setValRateBlock | .setValRate =>
    match payload with
    | .two _ rate => some (rawToRateUnits track rate, INTERP_CUBIC)
    | .one _ => none
  | .setVal0RateBlock | .setVal0Rate => some (0, INTERP_CUBIC)
  | .setValAfterBlock | .setValAfter => some (0, INTERP_STEP)
  | _ => some (0, INTERP_LINEAR)

def Payload.value : Payload → Int
  | .one value => value
  | .two value _ => value

/-- `segments.setdefault(track, []).append(q)`. -/
def Stream.append (s : Stream) (track : TrackName) (q : RawSegment) :
    Dict TrackName (List RawSegment) :=
  s.segments.set track ((s.segments.get? track).getD [] ++ [q])

/-- A `SetTargetRate` at a track. -/
def Stream.setRate (op : FigOp) (s : Stream) (track : TrackName) : Option Stream := do
  match ← op.payload.lookup track with
  | .one raw =>
      return { s with states := s.states.set track { s.stateFor track with rate := rawToRateUnits track raw } }
  | .two .. => none

/-- A command that sets the target of a track. -/
def Stream.setTarget (op : FigOp) (duration : Nat) (s : Stream) (track : TrackName) :
    Option Stream := do
  let payload ← op.payload.lookup track
  let target := rawToUnits track payload.value
  let state := s.stateFor track
  let (rateTarget, kind) ← op.op.curve track payload
  return {
    s with
    segments := if 0 < duration then
      s.append track ⟨s.frame, duration, state.target, target, state.rate, rateTarget, kind⟩
        else s.segments
    states := s.states.set track ⟨target, rateTarget⟩ }

/-- One command. -/
def Stream.step (s : Stream) (op : FigOp) : Option Stream :=
  let duration := op.dur.getD 0
  match op.op with
  | .block => some { s with frame := s.frame + duration }
  | .setTargetRate => op.tracks.foldlM (Stream.setRate op) s
  | .ending | .loop | .setFlags => some s
  | _ => do
    let s ← op.tracks.foldlM (Stream.setTarget op duration) s
    return if op.op.isBlock ∧ 0 < duration then { s with frame := s.frame + duration } else s

/-- The record of a track that was only initialized. -/
def Stream.hold (s : Stream) (e : TrackName × AObj) : Stream :=
  if (s.segments.get? e.1).getD [] = [] then
    { s with segments := s.append e.1 ⟨0, 0, e.2.target, e.2.target, e.2.rate, e.2.rate, INTERP_HOLD⟩ }
  else s

/-- `_track_segments`. -/
def trackSegments (ops : List FigOp) : Option (Dict TrackName (List RawSegment) × Nat) := do
  let s ← ops.foldlM Stream.step ⟨.empty, .empty, 0⟩
  return ((s.states.entries.foldl Stream.hold s).segments, s.frame)

/-! ## Tables -/

/-- `struct.pack("<f")` of `n / 16384`. -/
def packF (n : Int) : F32 := UInt32.ofNat (nearest 14 n.natAbs) ||| if n < 0 then 0x80000000 else 0

def packFrame (n : Nat) : F32 := packF (n * 16384)

def RawSegment.packed (q : RawSegment) : Segment :=
  ⟨packFrame q.frame, packFrame q.duration, packF q.base, packF q.target, packF q.rateBase,
    packF q.rateTarget, UInt32.ofNat q.kind⟩

def AUXILIARY_ROOT_ANIMS : List String :=
  ["TurnRun", "JumpB", "JumpAerialB", "FalconPunchGround", "DownSpecial", "VelocityXDownSpecialAir",
    "LandingDownSpecial", "DownSpecialAir", "FalconDive", "FalconDiveEnd1", "FalconDiveEnd2"]

def LOOPING_ANIMS : List String := ["Wait", "Walk1", "Walk2", "Walk3", "Run", "CrouchIdle"]

/-- The joint of a stream; nothing where it is skipped. -/
def jointIndex (name : String) (slot : Nat) : Option Nat :=
  let index := if name ∈ AUXILIARY_ROOT_ANIMS then if slot = 0 then 0xFFFF else slot - 1 else slot
  if index ≠ 0xFFFF ∧ ¬ index < 26 then none else some index

/-- One track of a joint. -/
def collectTrack (joint : Nat) (c : BakedAnimations) (e : TrackName × List RawSegment) :
    BakedAnimations :=
  match TRACK_IDS e.1 with
  | none => c
  | some kind =>
    if e.2 = [] then c
    else { c with
      segments := c.segments ++ e.2.map RawSegment.packed
      tracks := c.tracks ++ [⟨joint, kind, c.segments.length, e.2.length⟩] }

/-- One joint of an animation, and how long the animation is up to it. -/
def collectJoint (name : String) (c : BakedAnimations × Nat) (joint : JointScript) :
    Option (BakedAnimations × Nat) :=
  match jointIndex name joint.slot with
  | none => some c
  | some index => do
    let (segments, frame) ← trackSegments joint.ops
    return (segments.entries.foldl (collectTrack index) c.1, max c.2 frame)

def collectAnimation (c : BakedAnimations) (data : AnimationData) : Option BakedAnimations := do
  let (c', duration) ← data.joints.foldlM (collectJoint data.name) (c, 0)
  return { c' with animations := c'.animations ++
    [⟨data.name.toList, packFrame (if 0 < duration then duration else 1),
    data.name ∈ LOOPING_ANIMS, c.tracks.length, c'.tracks.length - c.tracks.length⟩] }

/-- `collect_animations`; `none` where a payload is not what a command needs. -/
def collectAnimations (manifest : List AnimationData) : Option BakedAnimations :=
  manifest.foldlM collectAnimation ⟨[], [], []⟩

/-! ## Decoded scripts -/

/-- A half word with its sign. -/
def Small (n : Int) : Prop := -2 ^ 15 ≤ n ∧ n < 2 ^ 15

def Payload.Small : Payload → Prop
  | .one value => Falcon.Small value
  | .two value rate => Falcon.Small value ∧ Falcon.Small rate

/-- As many words as a command has. -/
def Payload.Worded (words : Nat) : Payload → Prop
  | .one _ => words ≠ 2
  | .two .. => words = 2

/-- The payload a command needs. -/
def OpName.Needs : OpName → Payload → Prop
  | .setValRateBlock, p | .setValRate, p => p.Worded 2
  | .setTargetRate, p => p.Worded 1
  | _, _ => True

structure FigOp.Good (op : FigOp) : Prop where
  dur : ∀ d ∈ op.dur, d < 2 ^ 16
  payload : ∀ t ∈ op.tracks, ∃ p, op.payload.lookup t = some p ∧ p.Small ∧ op.op.Needs p

section Decoding

variable {raw : Bytes}

theorem u16At_lt {i w : Nat} (h : u16At raw i = some w) : w < 2 ^ 16 := by
  unfold u16At at h
  split at h
  · rename_i a b _ _
    cases h
    have ha := a.toNat_lt
    have hb := b.toNat_lt
    omega
  · cases h

theorem s16At_small {i : Nat} {v : Int} (h : s16At raw i = some v) : Small v := by
  obtain ⟨w, hw, rfl⟩ := Option.map_eq_some_iff.1 h
  have hlt := u16At_lt hw
  unfold Small
  split <;> omega

theorem readPayload_good {words cursor next : Nat} {p : Payload}
    (h : readPayload raw words cursor = some (p, next)) :
    p.Small ∧ p.Worded words := by
  unfold readPayload at h
  split at h
  · rename_i htwo
    obtain ⟨value, hvalue, h⟩ := Option.bind_eq_some_iff.1 h
    obtain ⟨rate, hrate, h⟩ := Option.bind_eq_some_iff.1 h
    cases h
    exact ⟨⟨s16At_small hvalue, s16At_small hrate⟩, htwo⟩
  · rename_i htwo
    obtain ⟨value, hvalue, h⟩ := Option.bind_eq_some_iff.1 h
    cases h
    exact ⟨s16At_small hvalue, htwo⟩

/-- Every track has its words. -/
theorem readPayloads_good {words : Nat} :
    ∀ {ts : List TrackName} {cursor next : Nat} {ps : List (TrackName × Payload)},
    readPayloads raw words ts cursor = some (ps, next) →
      ∀ t ∈ ts, ∃ p, ps.lookup t = some p ∧ p.Small ∧ p.Worded words
  | [], _, _, _, _ => fun _ ht => absurd ht List.not_mem_nil
  | t :: ts, cursor, next, ps, h => by
    obtain ⟨⟨p, after⟩, hp, h⟩ := Option.bind_eq_some_iff.1 h
    obtain ⟨⟨rest, last⟩, hrest, h⟩ := Option.bind_eq_some_iff.1 h
    cases h
    intro u hu
    by_cases hut : u = t
    · exact ⟨p, by rw [hut, List.lookup_cons_self], readPayload_good hp⟩
    · obtain ⟨q, hq, hgood⟩ := readPayloads_good hrest u ((List.mem_cons.1 hu).resolve_left hut)
      exact ⟨q, by rw [List.lookup_cons, beq_eq_false_iff_ne.2 hut, hq], hgood⟩

theorem needs_of_worded {opcode words : Nat} {name : OpName} {p : Payload}
    (hname : OP_NAMES opcode = some name)
    (hwords : OP_PAYLOAD_WORDS opcode = some words) (hp : p.Worded words) : name.Needs p := by
  unfold OP_PAYLOAD_WORDS at hwords
  split at hwords <;> cases hwords <;> cases hname <;> first | exact trivial | exact hp

theorem readDur_lt {toggle cursor : Nat} {dur : Option Nat}
    (h : readDur raw toggle cursor = some dur) :
    ∀ d ∈ dur, d < 2 ^ 16 := by
  intro d hd
  unfold readDur at h
  split at h
  · cases h
    cases hd
  · obtain ⟨w, hw, rfl⟩ := Option.map_eq_some_iff.1 h
    cases hd
    exact u16At_lt hw

theorem good_bare (name : OpName) {dur : Option Nat} (h : ∀ d ∈ dur, d < 2 ^ 16) :
    FigOp.Good ⟨name, dur, [], []⟩ :=
  ⟨h, fun _ ht => absurd ht List.not_mem_nil⟩

theorem good_snoc {ops : List FigOp} {last : FigOp} (hops : ∀ op ∈ ops, op.Good)
    (hlast : last.Good) :
    ∀ op ∈ ops ++ [last], op.Good := by
  rw [List.forall_mem_append, List.forall_mem_singleton]
  exact ⟨hops, hlast⟩

/-- What is decoded has what its commands need, and is at most two commands longer than the limit.
-/
theorem decodeScript_good : ∀ {n cursor : Nat} {ops decoded : List FigOp}, (∀ op ∈ ops, op.Good) →
    decodeScript raw n cursor ops = some decoded → (∀ op ∈ decoded, op.Good) ∧
    decoded.length ≤ ops.length + n + 1 := by
  intro n
  induction n with
  | zero =>
    intro cursor ops decoded _ h
    cases h
  | succ n ih =>
    intro cursor ops decoded hops h
    have hnone : ∀ d ∈ (none : Option Nat), d < 2 ^ 16 :=
      fun d hd => absurd hd (Option.not_mem_none d)
    obtain ⟨command, -, h⟩ := Option.bind_eq_some_iff.1 h
    dsimp only at h
    split at h
    · cases h
      refine ⟨good_snoc hops (good_bare _ hnone), ?_⟩
      rw [List.length_append, List.length_singleton]
      omega
    split at h
    · obtain ⟨offset, -, h⟩ := Option.bind_eq_some_iff.1 h
      cases h
      split
      · rw [List.append_cons]
        refine ⟨good_snoc (good_snoc hops (good_bare _ hnone)) (good_bare _ hnone), ?_⟩
        rw [List.length_append, List.length_append, List.length_singleton, List.length_singleton]
        omega
      · refine ⟨good_snoc hops (good_bare _ hnone), ?_⟩
        rw [List.length_append, List.length_singleton]
        omega
    · obtain ⟨name, hname, h⟩ := Option.bind_eq_some_iff.1 h
      obtain ⟨dur, hdur, h⟩ := Option.bind_eq_some_iff.1 h
      have hshort := readDur_lt hdur
      have hlonger : ∀ op : FigOp, (ops ++ [op]).length + n + 1 = ops.length + (n + 1) + 1 := by
        intro op
        rw [List.length_append, List.length_singleton]
        omega
      split at h
      · obtain ⟨hgood, hlength⟩ := ih (good_snoc hops (good_bare name hshort)) h
        exact ⟨hgood, hlonger _ ▸ hlength⟩
      · obtain ⟨words, hwords, h⟩ := Option.bind_eq_some_iff.1 h
        obtain ⟨⟨payload, next⟩, hpayload, h⟩ := Option.bind_eq_some_iff.1 h
        obtain ⟨hgood, hlength⟩ := ih (good_snoc hops ⟨hshort, fun t ht => by
          obtain ⟨p, hp, hsmall, hworded⟩ := readPayloads_good hpayload t ht
          exact ⟨p, hp, hsmall, needs_of_worded hname hwords hworded⟩⟩) h
        exact ⟨hgood, hlonger _ ▸ hlength⟩

end Decoding

/-! ## Segments of a stream -/

/-- What a half word comes to in units. -/
def Wide (n : Int) : Prop := -2 ^ 27 ≤ n ∧ n ≤ 2 ^ 27

structure RawSegment.Ok (q : RawSegment) (clock : Nat) : Prop where
  frame : q.frame ≤ clock
  duration : q.duration < 2 ^ 16
  base : Wide q.base
  target : Wide q.target
  rateBase : Wide q.rateBase
  rateTarget : Wide q.rateTarget
  kind : q.kind ≤ 3

/-- The segments of a track while the stream stands at `clock`: there are some, in the order of
their frames. -/
structure Compiled (clock : Nat) (qs : List RawSegment) : Prop where
  nonempty : qs ≠ []
  ordered : qs.Pairwise fun p q => p.frame ≤ q.frame
  each : ∀ q ∈ qs, q.Ok clock

theorem RawSegment.Ok.mono {q : RawSegment} {clock later : Nat} (h : q.Ok clock)
    (hlater : clock ≤ later) : q.Ok later :=
  ⟨Nat.le_trans h.frame hlater, h.duration, h.base, h.target, h.rateBase, h.rateTarget, h.kind⟩

theorem Compiled.mono {clock later : Nat} {qs : List RawSegment} (h : Compiled clock qs)
    (hlater : clock ≤ later) :
    Compiled later qs := ⟨h.nonempty, h.ordered, fun q hq => (h.each q hq).mono hlater⟩

theorem compiled_single {clock : Nat} {q : RawSegment} (hq : q.Ok clock) : Compiled clock [q] :=
  ⟨List.cons_ne_nil _ _, List.pairwise_singleton _ _, List.forall_mem_singleton.2 hq⟩

theorem Compiled.append {clock : Nat} {qs : List RawSegment} {q : RawSegment}
    (h : Compiled clock qs) (hq : q.Ok clock)
    (hnow : q.frame = clock) : Compiled clock (qs ++ [q]) := by
  refine ⟨List.append_ne_nil_of_right_ne_nil _ (List.cons_ne_nil _ _), ?_, ?_⟩
  · rw [List.pairwise_append]
    refine ⟨h.ordered, List.pairwise_singleton _ _, fun p hp r hr => ?_⟩
    rw [List.mem_singleton.1 hr, hnow]
    exact (h.each p hp).frame
  · rw [List.forall_mem_append, List.forall_mem_singleton]
    exact ⟨h.each, hq⟩

structure Stream.Ok (s : Stream) : Prop where
  states : ∀ e ∈ s.states.entries, Wide e.2.target ∧ Wide e.2.rate
  segments : ∀ e ∈ s.segments.entries, Compiled s.frame e.2

theorem wide_zero : Wide 0 := ⟨by decide, by decide⟩

theorem rawToUnits_wide {raw : Int} (t : TrackName) (h : Small raw) : Wide (rawToUnits t raw) := by
  obtain ⟨hlow, hhigh⟩ := h
  unfold Wide
  cases t <;> simp only [rawToUnits] <;> omega

theorem rawToRateUnits_wide {raw : Int} (t : TrackName) (h : Small raw) :
    Wide (rawToRateUnits t raw) := by
  obtain ⟨hlow, hhigh⟩ := h
  unfold Wide
  cases t <;> simp only [rawToRateUnits] <;> omega

section Steps

variable {s : Stream} {op : FigOp}

theorem Stream.Ok.stateFor (h : s.Ok) (t : TrackName) :
    Wide (s.stateFor t).target ∧ Wide (s.stateFor t).rate := by
  unfold Stream.stateFor
  cases hget : s.states.get? t with
  | none => exact ⟨wide_zero, wide_zero⟩
  | some o => exact h.states _ (Dict.mem_of_get? hget)

theorem Stream.Ok.setState (h : s.Ok) {t : TrackName} {o : AObj} (htarget : Wide o.target)
    (hrate : Wide o.rate) :
    ∀ e ∈ (s.states.set t o).entries, Wide e.2.target ∧ Wide e.2.rate := by
  intro e he
  rcases Dict.mem_set he with rfl | he
  · exact ⟨htarget, hrate⟩
  · exact h.states e he

theorem Stream.Ok.append (h : s.Ok) {t : TrackName} {q : RawSegment} (hq : q.Ok s.frame)
    (hnow : q.frame = s.frame ∨ (s.segments.get? t).getD [] = []) :
    ∀ e ∈ (s.append t q).entries, Compiled s.frame e.2 := by
  intro e he
  rcases Dict.mem_set he with rfl | he
  · cases hget : s.segments.get? t with
    | none => exact compiled_single hq
    | some qs =>
      have hcompiled := h.segments _ (Dict.mem_of_get? hget)
      refine hcompiled.append hq (hnow.resolve_right fun hnil => hcompiled.nonempty ?_)
      rwa [hget] at hnil
  · exact h.segments e he

theorem setRate_ok (hop : op.Good) (hname : op.op = .setTargetRate) {t : TrackName}
    (ht : t ∈ op.tracks) (h : s.Ok) :
    ∃ s', s.setRate op t = some s' ∧ s'.Ok ∧ s'.frame = s.frame := by
  obtain ⟨p, hp, hsmall, hneeds⟩ := hop.payload t ht
  rw [hname] at hneeds
  cases p with
  | two value rate =>
    have htwo : (1 : Nat) = 2 := hneeds
    exact absurd htwo (by decide)
  | one value =>
    unfold Stream.setRate
    rw [hp]
    exact ⟨_, rfl, ⟨h.setState (h.stateFor t).1 (rawToRateUnits_wide t hsmall), h.segments⟩, rfl⟩

theorem curve_some {name : OpName} {p : Payload} (t : TrackName) (hsmall : p.Small)
    (hneeds : name.Needs p) :
    ∃ rate kind, name.curve t p = some (rate, kind) ∧ Wide rate ∧ kind ≤ 3 := by
  cases name
  case setValRateBlock | setValRate =>
    cases p with
    | one value => exact absurd rfl hneeds
    | two value rate => exact ⟨_, _, rfl, rawToRateUnits_wide t hsmall.2, by decide⟩
  all_goals exact ⟨_, _, rfl, wide_zero, by decide⟩

theorem payload_value {p : Payload} (h : p.Small) : Small p.value := by
  cases p with
  | one value => exact h
  | two value rate => exact h.1

theorem setTarget_ok (hop : op.Good) {duration : Nat} (hduration : duration < 2 ^ 16)
    {t : TrackName} (ht : t ∈ op.tracks)
    (h : s.Ok) : ∃ s', s.setTarget op duration t = some s' ∧ s'.Ok ∧ s'.frame = s.frame := by
  obtain ⟨p, hp, hsmall, hneeds⟩ := hop.payload t ht
  obtain ⟨rate, kind, hcurve, hrate, hkind⟩ := curve_some t hsmall hneeds
  have htarget := rawToUnits_wide t (payload_value hsmall)
  obtain ⟨hbase, hrateBase⟩ := h.stateFor t
  unfold Stream.setTarget
  rw [hp, Option.bind_eq_bind, Option.bind_some]
  dsimp only
  rw [hcurve]
  refine ⟨_, rfl, ⟨h.setState htarget hrate, ?_⟩, rfl⟩
  dsimp only
  split
  · exact h.append ⟨Nat.le_refl _, hduration, hbase, htarget, hrateBase, hrate, hkind⟩ (.inl rfl)
  · exact h.segments

/-- One command goes through, and moves the clock by its own duration at most. -/
theorem step_ok (hop : op.Good) (h : s.Ok) : ∃ s', s.step op = some s' ∧ s'.Ok ∧
    s'.frame ≤ s.frame + 2 ^ 16 := by
  have hduration : op.dur.getD 0 < 2 ^ 16 := by
    cases hdur : op.dur with
    | none => decide
    | some d => exact hop.dur d hdur
  have hlater : ∀ {s : Stream}, s.Ok →
    Stream.Ok { s with frame := s.frame + op.dur.getD 0 } := fun h =>
    ⟨h.states, fun e he => (h.segments e he).mono (Nat.le_add_right _ _)⟩
  have hsets : ∃ s', (do
      let s ← op.tracks.foldlM (Stream.setTarget op (op.dur.getD 0)) s
      return if op.op.isBlock ∧ 0 < op.dur.getD 0 then { s with frame := s.frame + op.dur.getD 0 }
        else s) = some s' ∧
      s'.Ok ∧ s'.frame ≤ s.frame + 2 ^ 16 := by
    obtain ⟨s', hrun, hok, hframe⟩ :=
      foldlM_some (I := fun s' : Stream => s'.Ok ∧ s'.frame = s.frame)
      (fun s' t ht ⟨hok, hsame⟩ => by
        obtain ⟨s'', hset, hok', hsame'⟩ := setTarget_ok hop hduration ht hok
        exact ⟨s'', hset, hok', hsame'.trans hsame⟩) ⟨h, rfl⟩
    rw [hrun]
    refine ⟨_, rfl, ?_⟩
    split
    · refine ⟨hlater hok, ?_⟩
      dsimp only
      omega
    · exact ⟨hok, by omega⟩
  unfold Stream.step
  dsimp only
  cases hname : op.op with
  | block =>
    refine ⟨_, rfl, hlater h, ?_⟩
    dsimp only
    omega
  | setTargetRate =>
    obtain ⟨s', hrun, hok, hframe⟩ :=
      foldlM_some (I := fun s' : Stream => s'.Ok ∧ s'.frame = s.frame)
      (fun s' t ht ⟨hok, hsame⟩ => by
        obtain ⟨s'', hset, hok', hsame'⟩ := setRate_ok hop hname ht hok
        exact ⟨s'', hset, hok', hsame'.trans hsame⟩) ⟨h, rfl⟩
    exact ⟨s', hrun, hok, by omega⟩
  | ending | loop | setFlags => exact ⟨s, rfl, h, Nat.le_add_right _ _⟩
  | setValBlock | setVal | setValRateBlock | setValRate | setVal0RateBlock | setVal0Rate
      | setValAfterBlock | setValAfter =>
    rw [hname] at hsets
    exact hsets

/-- A whole stream goes through. -/
theorem steps_ok : ∀ {ops : List FigOp} {s : Stream}, (∀ op ∈ ops, op.Good) → s.Ok →
    ∃ s', ops.foldlM Stream.step s = some s' ∧ s'.Ok ∧ s'.frame ≤ s.frame + 2 ^ 16 * ops.length
  | [], s, _, h => ⟨s, rfl, h, Nat.le_add_right _ _⟩
  | op :: ops, s, hops, h => by
    rw [List.forall_mem_cons] at hops
    obtain ⟨s', hstep, hok, hframe⟩ := step_ok hops.1 h
    obtain ⟨s'', hrun, hok', hframe'⟩ := steps_ok hops.2 hok
    refine ⟨s'', ?_, hok', ?_⟩
    · rw [List.foldlM_cons, hstep]
      exact hrun
    · rw [List.length_cons]
      omega

theorem hold_ok (h : s.Ok) {e : TrackName × AObj} (he : Wide e.2.target ∧ Wide e.2.rate) :
    (s.hold e).Ok ∧ (s.hold e).frame = s.frame := by
  unfold Stream.hold
  split
  · rename_i hnil
    exact ⟨⟨h.states,
      h.append ⟨Nat.zero_le _, Nat.two_pow_pos _, he.1, he.1, he.2, he.2, Nat.zero_le _⟩
      (.inr hnil)⟩, rfl⟩
  · exact ⟨h, rfl⟩

theorem holds_ok : ∀ {es : List (TrackName × AObj)} {s : Stream},
    (∀ e ∈ es, Wide e.2.target ∧ Wide e.2.rate) → s.Ok →
    (es.foldl Stream.hold s).Ok ∧ (es.foldl Stream.hold s).frame = s.frame
  | [], _, _, h => ⟨h, rfl⟩
  | e :: es, s, hes, h => by
    rw [List.forall_mem_cons] at hes
    obtain ⟨hok, hframe⟩ := hold_ok h hes.1
    obtain ⟨hok', hframe'⟩ := holds_ok hes.2 hok
    exact ⟨hok', hframe'.trans hframe⟩

/-- What a decoded script is compiled to. -/
theorem trackSegments_ok {ops : List FigOp} (hops : ∀ op ∈ ops, op.Good) : ∃ segments frame,
    trackSegments ops = some (segments, frame) ∧ (∀ e ∈ segments.entries, Compiled frame e.2) ∧
    frame ≤ 2 ^ 16 * ops.length := by
  have hstart : Stream.Ok ⟨.empty, .empty, 0⟩ :=
    ⟨fun _ he => absurd he List.not_mem_nil, fun _ he => absurd he List.not_mem_nil⟩
  obtain ⟨s, hrun, hok, hframe⟩ := steps_ok hops hstart
  obtain ⟨hheld, hsame⟩ := holds_ok hok.states hok
  refine ⟨_, s.frame, ?_, hsame ▸ hheld.segments, ?_⟩
  · unfold trackSegments
    rw [hrun]
    rfl
  · dsimp only at hframe
    omega

end Steps


/-! ## Packed segments -/

theorem isFinite_or {x sign : UInt32} (hx : x.toNat < 255 * 2 ^ 23)
    (hsign : sign &&& 0x7f800000 = 0) :
    isFinite (x ||| sign) = true := by
  refine decide_eq_true fun heq => ?_
  have hdistrib : (x ||| sign) &&& 0x7f800000 = (x &&& 0x7f800000) ||| (sign &&& 0x7f800000) :=
    UInt32.toBitVec_inj.1 BitVec.and_or_distrib_right
  rw [hdistrib, hsign, UInt32.or_zero] at heq
  have hle : x.toNat &&& (0x7f800000 : UInt32).toNat ≤ x.toNat := Nat.and_le_left
  rw [← UInt32.toNat_and, heq] at hle
  exact absurd hx (Nat.not_lt.2 hle)

theorem f32Key_of_lt {x : UInt32} (hx : x.toNat < 2 ^ 31) : f32Key x = x.toNat := by
  have hsign : x &&& 0x80000000 = 0 := by
    rw [← UInt32.toNat_inj, UInt32.toNat_and]
    refine Nat.eq_of_testBit_eq fun i => ?_
    have hbit : (0x80000000 : UInt32).toNat.testBit i = decide (31 = i) :=
      Nat.testBit_two_pow (n := 31)
    rw [Nat.testBit_and, hbit]
    by_cases hi : 31 = i
    · rw [← hi, Nat.testBit_lt_two_pow hx]
      rfl
    · rw [decide_eq_false hi, Bool.and_false]
      exact (Nat.zero_testBit i).symm
  unfold f32Key
  rw [if_pos hsign]

theorem nearest_toNat {m : Nat} (hm : m < 2 ^ 141) :
    (UInt32.ofNat (nearest 14 m)).toNat = nearest 14 m := by
  have hlt : nearest 14 m < 255 * 2 ^ 23 := nearest_lt hm
  exact ofNat32_toNat (by omega)

/-- Numbers of this size are packed as finite floats. -/
theorem isFinite_packF {n : Int} (hn : n.natAbs < 2 ^ 141) : isFinite (packF n) = true := by
  refine isFinite_or ?_ ?_
  · rw [nearest_toNat hn]
    exact nearest_lt hn
  · split <;> rfl

theorem packFrame_eq (n : Nat) : packFrame n = UInt32.ofNat (nearest 14 (n * 16384)) := by
  have hn : ¬ (n : Int) * 16384 < 0 := by omega
  have habs : ((n : Int) * 16384).natAbs = n * 16384 := by omega
  unfold packFrame packF
  rw [if_neg hn, habs, UInt32.or_zero]

/-- Packed frames keep their order. -/
theorem packFrame_mono {m n : Nat} (h : m ≤ n) (hn : n < 2 ^ 100) :
    f32Lt (packFrame n) (packFrame m) = false := by
  have hnear : nearest 14 (n * 16384) < 255 * 2 ^ 23 := nearest_lt (by omega)
  have hmono : nearest 14 (m * 16384) ≤ nearest 14 (n * 16384) :=
    nearest_mono (by decide) (by omega)
  have hkey : ∀ k, k ≤ n → f32Key (packFrame k) = nearest 14 (k * 16384) := by
    intro k hk
    have hnat : (UInt32.ofNat (nearest 14 (k * 16384))).toNat = nearest 14 (k * 16384) :=
      nearest_toNat (by omega)
    have hless : nearest 14 (k * 16384) ≤ nearest 14 (n * 16384) :=
      nearest_mono (by decide) (by omega)
    rw [packFrame_eq, f32Key_of_lt (by omega), hnat]
  refine decide_eq_false ?_
  rintro ⟨-, -, hlt⟩
  rw [hkey n (Nat.le_refl n), hkey m h] at hlt
  omega

theorem packFrame_fits {n : Nat} (hn : n < 2 ^ 100) : isFinite (packFrame n) = true ∧
    f32Lt (packFrame n) 0 = false :=
  ⟨isFinite_packF (by omega), packFrame_mono (Nat.zero_le n) hn⟩

theorem Wide.finite {n : Int} (h : Wide n) : isFinite (packF n) = true := by
  obtain ⟨hlow, hhigh⟩ := h
  exact isFinite_packF (by omega)

theorem RawSegment.Ok.fits {q : RawSegment} {clock : Nat} (h : q.Ok clock)
    (hclock : clock < 2 ^ 100) : q.packed.Fits := by
  have hframe := h.frame
  have hduration := h.duration
  refine ⟨packFrame_fits (by omega), packFrame_fits (by omega), h.base.finite, h.target.finite,
    h.rateBase.finite, h.rateTarget.finite, ?_⟩
  have hkind := h.kind
  rw [UInt32.le_iff_toNat_le]
  show (UInt32.ofNat q.kind).toNat ≤ 3
  rw [ofNat32_toNat (by omega)]
  exact hkind

/-! ## The tables -/

theorem BakedAnimation.Fits.mono {a : BakedAnimation} {n m : Nat} (h : a.Fits n)
    (hnm : n ≤ m) : a.Fits m :=
  ⟨h.name, h.duration, Nat.le_trans h.range hnm⟩

theorem BakedTrack.Fits.append {t : BakedTrack} {segments : List Segment} (h : t.Fits segments)
    (more : List Segment) :
    t.Fits (segments ++ more) := by
  have hrange := h.range
  refine ⟨h.joint, h.kind, h.count, ?_, fun j hone hj => ?_⟩
  · rw [List.length_append]
    omega
  · obtain ⟨before, here, hbefore, hhere, horder⟩ := h.ordered j hone hj
    refine ⟨before, here, ?_, ?_, horder⟩
    · rwa [List.getElem?_append_left (by omega)]
    · rwa [List.getElem?_append_left (by omega)]

/-- The table entry of a track whose segments come last. -/
theorem track_fits {joint kind clock : Nat} {qs : List RawSegment} {segments : List Segment}
    (hjoint : joint < FALCON_JOINTS ∨ joint = 0xffff) (hkind : kind ≤ 8) (hqs : Compiled clock qs)
    (hclock : clock < 2 ^ 100) :
    BakedTrack.Fits ⟨joint, kind, segments.length, qs.length⟩
      (segments ++ qs.map RawSegment.packed) := by
  refine ⟨hjoint, hkind, List.length_pos_of_ne_nil hqs.nonempty, ?_, fun j hone hj => ?_⟩
  · rw [List.length_append, List.length_map]
  · dsimp only at hj ⊢
    have hat : ∀ i, (segments ++ qs.map RawSegment.packed)[segments.length + i]? =
      (qs.map RawSegment.packed)[i]? := by
      intro i
      rw [List.getElem?_append_right (Nat.le_add_right _ _), Nat.add_sub_cancel_left]
    have hless : j - 1 < j := by omega
    have hbefore : j - 1 < qs.length := by omega
    refine ⟨qs[j - 1].packed, qs[j].packed, ?_, ?_, ?_⟩
    · rw [Nat.add_sub_assoc hone, hat, List.getElem?_map, List.getElem?_eq_getElem hbefore]
      rfl
    · rw [hat, List.getElem?_map, List.getElem?_eq_getElem hj]
      rfl
    · have hlate := (hqs.each qs[j] (List.getElem_mem hj)).frame
      exact packFrame_mono (List.pairwise_iff_getElem.1 hqs.ordered (j - 1) j hbefore hj hless)
        (by omega)

/-- What is collected so far, whatever follows. -/
structure Collected (c : BakedAnimations) : Prop where
  animation : ∀ a ∈ c.animations, a.Fits c.tracks.length
  track : ∀ t ∈ c.tracks, t.Fits c.segments
  segment : ∀ s ∈ c.segments, s.Fits

/-- `n` tracks at most are added, and no animation. -/
structure Grows (c : BakedAnimations) (n : Nat) (c' : BakedAnimations) : Prop where
  collected : Collected c'
  animations : c'.animations = c.animations
  more : c.tracks.length ≤ c'.tracks.length
  fewer : c'.tracks.length ≤ c.tracks.length + n

section Collecting

variable {c : BakedAnimations}

theorem Grows.refl (h : Collected c) : Grows c 0 c := ⟨h, rfl, Nat.le_refl _, Nat.le_refl _⟩

theorem Grows.trans {c₁ c₂ : BakedAnimations} {m n : Nat} (h₁ : Grows c m c₁) (h₂ : Grows c₁ n c₂) :
    Grows c (m + n) c₂ := by
  refine ⟨h₂.collected, h₂.animations.trans h₁.animations, Nat.le_trans h₁.more h₂.more, ?_⟩
  have hfirst := h₁.fewer
  have hsecond := h₂.fewer
  omega

theorem Grows.mono {c' : BakedAnimations} {m n : Nat} (h : Grows c m c') (hmn : m ≤ n) :
    Grows c n c' :=
  ⟨h.collected, h.animations, h.more, Nat.le_trans h.fewer (Nat.add_le_add_left hmn _)⟩

theorem track_ids_le {t : TrackName} {kind : Nat} (h : TRACK_IDS t = some kind) : kind ≤ 8 := by
  cases t <;> cases h <;> decide

theorem collectTrack_grows (hc : Collected c) {joint clock : Nat}
    (hjoint : joint < FALCON_JOINTS ∨ joint = 0xffff)
    (hclock : clock < 2 ^ 100) {e : TrackName × List RawSegment} (he : Compiled clock e.2) :
    Grows c 1 (collectTrack joint c e) := by
  unfold collectTrack
  split
  · exact (Grows.refl hc).mono (Nat.zero_le 1)
  · rename_i kind hkind
    rw [if_neg he.nonempty]
    refine ⟨⟨fun a ha => (hc.animation a ha).mono ?_, ?_, ?_⟩, rfl, ?_, ?_⟩
    · rw [List.length_append]
      exact Nat.le_add_right _ _
    · rw [List.forall_mem_append, List.forall_mem_singleton]
      exact ⟨fun t ht => (hc.track t ht).append _, track_fits hjoint (track_ids_le hkind) he hclock⟩
    · rw [List.forall_mem_append, List.forall_mem_map]
      exact ⟨hc.segment, fun q hq => (he.each q hq).fits hclock⟩
    · rw [List.length_append]
      exact Nat.le_add_right _ _
    · rw [List.length_append, List.length_singleton]

theorem collectTracks_grows {joint clock : Nat} (hjoint : joint < FALCON_JOINTS ∨ joint = 0xffff)
    (hclock : clock < 2 ^ 100) :
    ∀ {es : List (TrackName × List RawSegment)} {c : BakedAnimations}, Collected c →
    (∀ e ∈ es, Compiled clock e.2) →
      Grows c es.length (es.foldl (collectTrack joint) c)
  | [], _, hc, _ => Grows.refl hc
  | e :: es, c, hc, hes => by
    rw [List.forall_mem_cons] at hes
    have hfirst := collectTrack_grows hc hjoint hclock hes.1
    have hrest := collectTracks_grows hjoint hclock hfirst.collected hes.2
    rw [List.length_cons, Nat.add_comm]
    exact hfirst.trans hrest

/-- A joint has at most as many tracks as there are names. -/
theorem tracks_length {α : Type} (d : Dict TrackName α) : d.entries.length ≤ 10 := by
  have hsub : d.entries.map Prod.fst ⊆ TRACK_NAMES := fun t _ => by cases t <;> decide
  have hle := (List.subperm_of_subset d.nodup hsub).length_le
  rwa [List.length_map] at hle

theorem jointIndex_fits {name : String} {slot index : Nat} (h : jointIndex name slot = some index) :
    index < FALCON_JOINTS ∨ index = 0xffff := by
  unfold jointIndex at h
  extract_lets i at h
  split at h
  · cases h
  · rename_i hkept
    have hi : i = index := Option.some.inj h
    have hsmall : FALCON_JOINTS = 26 := rfl
    omega

/-- The commands of a joint, as `_decode_script` leaves them. -/
structure JointScript.Good (joint : JointScript) : Prop where
  ops : ∀ op ∈ joint.ops, op.Good
  length : joint.ops.length ≤ 4097

theorem collectJoint_grows (hc : Collected c) {duration : Nat} (hduration : duration < 2 ^ 30)
    (name : String)
    {joint : JointScript} (hjoint : joint.Good) :
    ∃ c' duration', collectJoint name (c, duration) joint = some (c', duration') ∧
      Grows c 10 c' ∧ duration' < 2 ^ 30 := by
  unfold collectJoint
  cases hindex : jointIndex name joint.slot with
  | none => exact ⟨c, duration, rfl, (Grows.refl hc).mono (Nat.zero_le 10), hduration⟩
  | some index =>
    obtain ⟨segments, frame, hrun, hcompiled, hframe⟩ := trackSegments_ok hjoint.ops
    have hlength := hjoint.length
    refine ⟨segments.entries.foldl (collectTrack index) c, max duration frame, ?_, ?_, by omega⟩
    · dsimp only
      rw [hrun]
      rfl
    · exact (collectTracks_grows (jointIndex_fits hindex) (by omega) hc hcompiled).mono
        (tracks_length segments)

theorem collectJoints_grows (name : String) :
    ∀ {joints : List JointScript} {c : BakedAnimations} {duration : Nat},
    Collected c → duration < 2 ^ 30 → (∀ joint ∈ joints, joint.Good) →
      ∃ c' duration', joints.foldlM (collectJoint name) (c, duration) = some (c', duration') ∧
        Grows c (10 * joints.length) c' ∧ duration' < 2 ^ 30
  | [], c, duration, hc, hduration, _ => ⟨c, duration, rfl, Grows.refl hc, hduration⟩
  | joint :: joints, c, duration, hc, hduration, hjoints => by
    rw [List.forall_mem_cons] at hjoints
    obtain ⟨c₁, duration₁, hstep, hgrows₁, hduration₁⟩ :=
      collectJoint_grows hc hduration name hjoints.1
    obtain ⟨c₂, duration₂, hrun, hgrows₂, hduration₂⟩ :=
      collectJoints_grows name hgrows₁.collected hduration₁ hjoints.2
    refine ⟨c₂, duration₂, ?_, (hgrows₁.trans hgrows₂).mono ?_, hduration₂⟩
    · rw [List.foldlM_cons, hstep]
      exact hrun
    · rw [List.length_cons]
      omega

/-- What `_write_anims` leaves of a file. -/
structure AnimationData.Good (data : AnimationData) : Prop where
  name : data.name.toList ≠ [] ∧ data.name.toList.length ≤ 31 ∧ ∀ ch ∈ data.name.toList,
    32 ≤ ch.toNat ∧ ch.toNat ≤ 126
  joints : ∀ joint ∈ data.joints, joint.Good
  count : data.joints.length ≤ 26

/-- One animation is added, with its tracks. -/
theorem collectAnimation_ok (hc : Collected c) {data : AnimationData} (hdata : data.Good) :
    ∃ c', collectAnimation c data = some c' ∧ Collected c' ∧
      c'.animations.map BakedAnimation.name = c.animations.map BakedAnimation.name ++
        [data.name.toList] ∧
      c'.tracks.length ≤ c.tracks.length + 260 := by
  obtain ⟨c₁, duration, hrun, hgrows, hduration⟩ :=
    collectJoints_grows data.name hc (Nat.two_pow_pos 30) hdata.joints
  have hmore := hgrows.more
  have hfewer := hgrows.fewer
  have hcount := hdata.count
  have hanimation : BakedAnimation.Fits
    ⟨data.name.toList, packFrame (if 0 < duration then duration else 1),
      data.name ∈ LOOPING_ANIMS, c.tracks.length, c₁.tracks.length - c.tracks.length⟩
        c₁.tracks.length := by
    refine ⟨hdata.name, packFrame_fits ?_, ?_⟩
    · split <;> omega
    · show c.tracks.length + (c₁.tracks.length - c.tracks.length) ≤ c₁.tracks.length
      omega
  unfold collectAnimation
  rw [hrun]
  refine ⟨_, rfl, ⟨?_, hgrows.collected.track, hgrows.collected.segment⟩, ?_, ?_⟩
  · rw [List.forall_mem_append, List.forall_mem_singleton]
    exact ⟨hgrows.collected.animation, hanimation⟩
  · dsimp only
    rw [List.map_append, hgrows.animations]
    rfl
  · dsimp only
    omega

theorem collectAnimations_ok :
    ∀ {manifest : List AnimationData} {c : BakedAnimations}, Collected c →
    (∀ data ∈ manifest, data.Good) → ∃ c', manifest.foldlM collectAnimation c = some c' ∧
    Collected c' ∧
      c'.animations.map BakedAnimation.name =
        c.animations.map BakedAnimation.name ++ manifest.map (fun data => data.name.toList) ∧
      c'.tracks.length ≤ c.tracks.length + 260 * manifest.length
  | [], c, hc, _ => ⟨c, rfl, hc, (List.append_nil _).symm, Nat.le_refl _⟩
  | data :: manifest, c, hc, hmanifest => by
    rw [List.forall_mem_cons] at hmanifest
    obtain ⟨c₁, hstep, hc₁, hnames₁, hlength₁⟩ := collectAnimation_ok hc hmanifest.1
    obtain ⟨c₂, hrun, hc₂, hnames₂, hlength₂⟩ := collectAnimations_ok hc₁ hmanifest.2
    refine ⟨c₂, ?_, hc₂, ?_, ?_⟩
    · rw [List.foldlM_cons, hstep]
      exact hrun
    · rw [hnames₂, hnames₁, List.append_assoc]
      rfl
    · rw [List.length_cons]
      omega

end Collecting

/-! ## Decoded files -/

theorem decodeJoint_good {raw : Bytes} {slot : Nat} {joint : JointScript}
    (h : decodeJoint raw slot = some joint) :
    joint.Good := by
  obtain ⟨word, -, h⟩ := Option.bind_eq_some_iff.1 h
  split at h
  · cases h
    exact ⟨fun _ hop => absurd hop List.not_mem_nil, Nat.zero_le _⟩
  · obtain ⟨ops, hops, h⟩ := Option.bind_eq_some_iff.1 h
    cases h
    obtain ⟨hgood, hlength⟩ := decodeScript_good (fun _ hop => absurd hop List.not_mem_nil) hops
    exact ⟨hgood, Nat.le_trans hlength (Nat.le_of_eq (Nat.zero_add 4097))⟩

theorem specs_named : ∀ spec ∈ ANIM_SPECS, spec.2.1.toList ≠ [] ∧ spec.2.1.toList.length ≤ 31 ∧
    (spec.2.1.toList.all fun ch => 32 ≤ ch.toNat ∧ ch.toNat ≤ 126) = true ∧ spec.2.2 ≤ 26 := by
  decide +kernel

theorem specs_distinct : (ANIM_SPECS.map fun spec => spec.2.1.toList).Nodup := by decide +kernel

section Files

variable {reloc : Nat → Option Bytes} {manifest : List AnimationData}

theorem decodeJoint_slot {raw : Bytes} {slot : Nat} {joint : JointScript}
    (h : decodeJoint raw slot = some joint) :
    joint.slot = slot := by
  obtain ⟨word, -, h⟩ := Option.bind_eq_some_iff.1 h
  split at h
  · cases h
    rfl
  · obtain ⟨ops, -, h⟩ := Option.bind_eq_some_iff.1 h
    cases h
    rfl

/-- The name and the joints of a file that is read. -/
theorem writeAnims_read {spec : Nat × String × Nat} {data : AnimationData} (h : (do
      let raw ← reloc spec.1
      let joints ← (List.range spec.2.2).mapM (decodeJoint raw)
      return (⟨spec.2.1, joints⟩ : AnimationData)) = some data) :
    data.name = spec.2.1 ∧ data.joints.length = spec.2.2 ∧ ∀ joint ∈ data.joints, joint.Good := by
  obtain ⟨raw, -, h⟩ := Option.bind_eq_some_iff.1 h
  obtain ⟨joints, hjoints, h⟩ := Option.bind_eq_some_iff.1 h
  cases h
  have hslots : joints.map JointScript.slot = (List.range spec.2.2).map id :=
    map_of_mapM (fun slot joint hjoint => decodeJoint_slot hjoint) hjoints
  refine ⟨rfl, ?_, fun joint hjoint => ?_⟩
  · rw [← List.length_map JointScript.slot, hslots, List.length_map, List.length_range]
  · obtain ⟨slot, -, hdecoded⟩ := mem_of_mapM hjoints joint hjoint
    exact decodeJoint_good hdecoded

theorem writeAnims_good (h : writeAnims reloc = some manifest) : ∀ data ∈ manifest, data.Good := by
  intro data hdata
  obtain ⟨spec, hspec, hread⟩ := mem_of_mapM h data hdata
  obtain ⟨hname, hlength, hjoints⟩ := writeAnims_read hread
  obtain ⟨hne, hshort, hprintable, hcount⟩ := specs_named spec hspec
  refine ⟨?_, hjoints, hlength ▸ hcount⟩
  rw [hname]
  exact ⟨hne, hshort, fun ch hch => of_decide_eq_true (List.all_eq_true.1 hprintable ch hch)⟩

theorem writeAnims_names (h : writeAnims reloc = some manifest) :
    manifest.map (fun data => data.name.toList) = ANIM_SPECS.map fun spec => spec.2.1.toList :=
  map_of_mapM (fun spec data hread => by rw [(writeAnims_read hread).1]) h

/-- What is collected from the files is within the limits of the loader when the segments are not
too many. -/
theorem collectAnimations_fits (h : writeAnims reloc = some manifest) :
    ∃ c, collectAnimations manifest = some c ∧
    (c.segments.length ≤ MAX_SEGMENTS.toNat → c.Fits) := by
  have hempty : Collected ⟨[], [], []⟩ :=
    ⟨fun _ h => absurd h List.not_mem_nil, fun _ h => absurd h List.not_mem_nil,
      fun _ h => absurd h List.not_mem_nil⟩
  obtain ⟨c, hrun, hc, hnames, htracks⟩ := collectAnimations_ok hempty (writeAnims_good h)
  have hspecs := writeAnims_names h
  have hmanifest : manifest.length = 37 := by
    have hlength := congrArg List.length hspecs
    rwa [List.length_map, List.length_map] at hlength
  rw [List.map_nil, List.nil_append, hspecs] at hnames
  have hanimations : c.animations.length = 37 := by
    have hlength := congrArg List.length hnames
    rwa [List.length_map, List.length_map] at hlength
  refine ⟨c, hrun, fun hsegments => ⟨?_, ?_, hsegments, hnames ▸ specs_distinct, hc.animation,
    hc.track, hc.segment⟩⟩
  · rw [hanimations]
    exact ⟨by decide, by decide⟩
  · rw [hmanifest] at htracks
    exact Nat.le_trans htracks (by decide)

/-- Whatever the files hold that the decoder takes, the baker collects it within the limits of the
loader and writes it, and the loader takes what is written, exactly when it is not too long and the
model does not lie flat. -/
theorem decoded_animations_load {M : Type} (g : Geometry M) (h : writeAnims reloc = some manifest) :
    ∃ c, collectAnimations manifest = some c ∧ (c.segments.length ≤ MAX_SEGMENTS.toNat →
      c.Fits ∧ ∀ m : BakedModel, m.Fits → ∃ data, writeBlob ⟨m, c⟩ = some data ∧
      ∀ q, parse g data = .ok q ↔
        q = Baked.loaded ⟨m, c⟩ ∧ data.length ≤ MAX_BLOB_BYTES ∧ Tall g (Baked.loaded ⟨m, c⟩)) := by
  obtain ⟨c, hrun, hfits⟩ := collectAnimations_fits h
  refine ⟨c, hrun, fun hsegments => ⟨hfits hsegments, fun m hm => ?_⟩⟩
  exact written_blob_loads g ⟨m, c⟩ ⟨hm, hfits hsegments⟩

end Files

/-! Every file turns its first joint and moves it, and leaves the others alone. -/

def turningFile : Bytes :=
  [0, 0, 0, 26] ++ List.replicate 100 0 ++ [0x20, 0x23, 0, 10, 2, 0, 0, 0, 0, 4, 0, 1, 0x10, 0x03,
    0, 5, 1, 0, 0, 0]

theorem turningFile_loads : ∃ manifest c, writeAnims (fun _ => some turningFile) = some manifest ∧
    collectAnimations manifest = some c ∧ c.segments.length = 111 ∧ c.Fits ∧
    ∃ data, writeBlob ⟨waitingModel.toBakedModel, c⟩ = some data ∧
    ∀ q, parse stillGeometry data = .ok q ↔
      q = Baked.loaded ⟨waitingModel.toBakedModel, c⟩ ∧ data.length ≤ MAX_BLOB_BYTES ∧
        Tall stillGeometry (Baked.loaded ⟨waitingModel.toBakedModel, c⟩) := by
  have hsegments : ((writeAnims fun _ => some turningFile).bind fun manifest =>
      (collectAnimations manifest).map fun c => c.segments.length) = some 111 := by decide +kernel
  obtain ⟨manifest, hmanifest, hsegments⟩ := Option.bind_eq_some_iff.1 hsegments
  obtain ⟨c, hc, hload⟩ := decoded_animations_load stillGeometry hmanifest
  rw [hc] at hsegments
  have hsegments : c.segments.length = 111 := Option.some.inj hsegments
  obtain ⟨hfits, hload⟩ := hload (by rw [hsegments]; decide)
  exact ⟨manifest, c, hmanifest, hc, hsegments, hfits, hload _ waitingModel_fits.toModel⟩

end SmwRecomp.Falcon
