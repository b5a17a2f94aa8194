import SmwRecomp.Lib.Flagged

/-!
# The presentation blob

`src/src/mods/falcon/falcon_presentation.c`: the loader.

* A float is its bits, compared as IEEE 754 has it; what the source computes in floats is a
  parameter (`Geometry`).
* `FalconPresentation` — the tables a blob is copied into, each as long as it is allocated.
* `readTables` — the walk over the blob; most checks only clear the flag.
* `orderTracks` — the check that the segments of a track are in order.
* `parse` — the loader; `refused` is its `bad`.
-/

set_option autoImplicit false

namespace SmwRecomp.Falcon

open Flagged

def FALCON_VERSION : UInt32 := 4
def FALCON_JOINTS : Nat := 26
def FALCON_ROOT : UInt16 := 0xffff
def MAX_BLOB_BYTES : Nat := 64 * 1024 * 1024
def MAX_TRIANGLES : UInt32 := 10000
def MAX_TEXTURES : UInt32 := 256
def MAX_ANIMATIONS : UInt32 := 128
def MAX_TRACKS : UInt32 := 100000
def MAX_SEGMENTS : UInt32 := 1000000

/-- `FALCON_MAGIC` and the zero behind it. -/
def FALCON_MAGIC : Bytes := [0x46, 0x4C, 0x43, 0x4E, 0x36, 0x34, 0x42, 0]

/-! ## Floats -/

/-- The bits of a `float`. -/
abbrev F32 := UInt32

/-- `isfinite`. -/
def isFinite (v : F32) : Bool := v &&& 0x7f800000 ≠ 0x7f800000

def isNan (v : F32) : Bool := v &&& 0x7fffffff > 0x7f800000

/-- The order of the floats that are numbers. -/
def f32Key (v : F32) : Int :=
  if v &&& 0x80000000 = 0 then v.toNat else -(v &&& 0x7fffffff).toNat

def f32Lt (a b : F32) : Bool := ¬ isNan a ∧ ¬ isNan b ∧ f32Key a < f32Key b

def f32Le (a b : F32) : Bool := ¬ isNan a ∧ ¬ isNan b ∧ f32Key a ≤ f32Key b

/-! ## Tables -/

/-- `float[3]`. -/
structure V3 where
  x : F32
  y : F32
  z : F32

structure Joint where
  parent : Int
  t : V3
  r : V3
  s : V3
  first : UInt32
  count : UInt32

structure Vertex where
  p : V3
  u : F32
  v : F32

structure Triangle where
  joint : UInt16
  texture : UInt16
  v0 : Vertex
  v1 : Vertex
  v2 : Vertex

/-- `pixels` are the bytes of `w * h` words. -/
structure Texture where
  w : UInt16
  h : UInt16
  pixels : Bytes

structure Animation where
  name : Bytes
  duration : F32
  loop : UInt32
  first : UInt32
  count : UInt32

structure Track where
  joint : UInt16
  kind : UInt16
  first : UInt32
  count : UInt32

structure Segment where
  frame : F32
  duration : F32
  base : F32
  target : F32
  rate0 : F32
  rate1 : F32
  kind : UInt32

/-! What `calloc` leaves in the tables. -/

def V3.zero : V3 := ⟨0, 0, 0⟩
def Joint.zero : Joint := ⟨0, .zero, .zero, .zero, 0, 0⟩
def Vertex.zero : Vertex := ⟨.zero, 0, 0⟩
def Triangle.zero : Triangle := ⟨0, 0, .zero, .zero, .zero⟩
def Texture.zero : Texture := ⟨0, 0, []⟩
def Animation.zero : Animation := ⟨List.replicate 32 0, 0, 0, 0, 0⟩
def Track.zero : Track := ⟨0, 0, 0, 0⟩
def Segment.zero : Segment := ⟨0, 0, 0, 0, 0, 0, 0⟩

/-- The counts at the front of the blob. -/
structure Header where
  trianglesN : UInt32
  texturesN : UInt32
  animsN : UInt32
  tracksN : UInt32
  segmentsN : UInt32
  punchFirst : UInt32

structure FalconPresentation extends Header where
  joints : List Joint
  triangles : List Triangle
  textures : List Texture
  anims : List Animation
  tracks : List Track
  segments : List Segment

/-! ## Records -/

/-- `range_ok`. -/
def rangeOk (first count total : UInt32) : Bool := first ≤ total ∧ count ≤ total - first

/-- `f32`. -/
def readF32 (p : Bytes) : FlaggedM F32 := do
  let v ← read32 p
  flagIf (isFinite v = false)
  return v

def readV3 (p : Bytes) : FlaggedM V3 := do
  let x ← readF32 p
  let y ← readF32 p
  let z ← readF32 p
  return ⟨x, y, z⟩

def readHeader (p : Bytes) : FlaggedM Header := do
  let joints ← read32 p
  let trianglesN ← read32 p
  let texturesN ← read32 p
  let animsN ← read32 p
  let tracksN ← read32 p
  let segmentsN ← read32 p
  let punchFirst ← read32 p
  let punchCount ← read32 p
  giveUpIf (joints.toNat ≠ FALCON_JOINTS ∨ trianglesN = 0 ∨ trianglesN > MAX_TRIANGLES ∨
    texturesN = 0 ∨ texturesN > MAX_TEXTURES ∨ animsN = 0 ∨ animsN > MAX_ANIMATIONS ∨
    tracksN > MAX_TRACKS ∨ segmentsN > MAX_SEGMENTS ∨ punchCount ≠ 3 ∨
    rangeOk punchFirst 3 texturesN = false ∨ rangeOk (punchFirst + 3) 2 texturesN = false)
  return ⟨trianglesN, texturesN, animsN, tracksN, segmentsN, punchFirst⟩

def readJoint (p : Bytes) (h : Header) (i : Nat) : FlaggedM Joint := do
  let parent ← read32 p
  let t ← readV3 p
  let r ← readV3 p
  let s ← readV3 p
  let first ← read32 p
  let count ← read32 p
  flagIf (parent.toInt32.toInt < -1 ∨ parent.toInt32.toInt ≥ i ∨
    rangeOk first count h.trianglesN = false)
  return ⟨parent.toInt32.toInt, t, r, s, first, count⟩

def readVertex (p : Bytes) : FlaggedM Vertex := do
  let position ← readV3 p
  let u ← readF32 p
  let v ← readF32 p
  return ⟨position, u, v⟩

def readTriangle (p : Bytes) (h : Header) : FlaggedM Triangle := do
  let joint ← read16 p
  let texture ← read16 p
  let v0 ← readVertex p
  let v1 ← readVertex p
  let v2 ← readVertex p
  flagIf (joint.toNat ≥ FALCON_JOINTS ∨ (texture ≠ FALCON_ROOT ∧ texture.toUInt32 ≥ h.texturesN))
  return ⟨joint, texture, v0, v1, v2⟩

/-- `r.n - r.at`. -/
def remaining (p : Bytes) : FlaggedM Nat := fun c => .ok (p.length - c.pos, c)

def readTexture (p : Bytes) : FlaggedM Texture := do
  let w ← read16 p
  let h ← read16 p
  let n ← read32 p
  let left ← remaining p
  giveUpIf (w = 0 ∨ h = 0 ∨ w > 4096 ∨ h > 4096 ∨ w.toNat * h.toNat * 4 ≠ n.toNat ∨
    n.toNat > MAX_BLOB_BYTES ∨ n.toNat > left)
  let pixels ← readBytes p n.toNat
  giveUpIf (pixels = none)
  return ⟨w, h, pixels.getD []⟩

/-- The string in a `char[]`. -/
def cString (name : Bytes) : Bytes := name.takeWhile (· ≠ 0)

/-- `name_ok`, from the character at `i` on. -/
def nameOk (i : Nat) : Bytes → Bool
  | [] => false
  | b :: bs => if b = 0 then 0 < i else if b < 32 ∨ b > 126 then false else nameOk (i + 1) bs

/-- The comparison of a name with those before it. -/
def flagSameName (table : List Animation) (name : Bytes) (j : Nat) : FlaggedM Unit := do
  let other ← StateT.lift (entry table j)
  flagIf (cString name = cString other.name)

def readAnimation (p : Bytes) (h : Header) (i : Nat) (table : List Animation) :
    FlaggedM Animation := do
  let bytes ← readBytes p 32
  let name := bytes.getD (List.replicate 32 0)
  flagIf (0 ∉ name)
  let name := name.set 31 0
  let duration ← readF32 p
  let loop ← read32 p
  let first ← read32 p
  let count ← read32 p
  flagIf (nameOk 0 name = false ∨ f32Lt duration 0 = true ∨ loop > 1 ∨
    rangeOk first count h.tracksN = false)
  (List.range i).forM (flagSameName table name)
  return ⟨name, duration, loop, first, count⟩

def readTrack (p : Bytes) (h : Header) : FlaggedM Track := do
  let joint ← read16 p
  let kind ← read16 p
  let first ← read32 p
  let count ← read32 p
  flagIf ((joint.toNat ≥ FALCON_JOINTS ∧ joint ≠ FALCON_ROOT) ∨ kind > 8 ∨ count = 0 ∨
    rangeOk first count h.segmentsN = false)
  return ⟨joint, kind, first, count⟩

def readSegment (p : Bytes) : FlaggedM Segment := do
  let frame ← readF32 p
  let duration ← readF32 p
  let base ← readF32 p
  let target ← readF32 p
  let rate0 ← readF32 p
  let rate1 ← readF32 p
  let kind ← read32 p
  flagIf (f32Lt frame 0 = true ∨ f32Lt duration 0 = true ∨ kind > 3)
  return ⟨frame, duration, base, target, rate0, rate1, kind⟩

/-! ## The walk -/

/-- How many entries `calloc` gets for a count that may be zero. -/
def allocated (n : UInt32) : Nat := if n = 0 then 1 else n.toNat

/-- What `parse` reads behind the version. -/
def readTables (p : Bytes) : FlaggedM FalconPresentation := do
  let h ← readHeader p
  let joints ← fill .zero FALCON_JOINTS FALCON_JOINTS fun i _ => readJoint p h i
  let triangles ← fill .zero h.trianglesN.toNat h.trianglesN.toNat fun _ _ => readTriangle p h
  let textures ← fill .zero h.texturesN.toNat h.texturesN.toNat fun _ _ => readTexture p
  let anims ← fill .zero h.animsN.toNat h.animsN.toNat (readAnimation p h)
  let tracks ← fill .zero (allocated h.tracksN) h.tracksN.toNat fun _ _ => readTrack p h
  let segments ← fill .zero (allocated h.segmentsN) h.segmentsN.toNat fun _ _ => readSegment p
  return ⟨h, joints, triangles, textures, anims, tracks, segments⟩

/-- One comparison of the order check; the index is computed in `uint32_t`. -/
def orderSegment (segments : List Segment) (t : Track) (ok : Bool) (j : Nat) :
    Except Stop Bool := do
  let here ← entry segments (t.first + UInt32.ofNat j).toNat
  let before ← entry segments (t.first + UInt32.ofNat j - 1).toNat
  return ok && !f32Lt here.frame before.frame

def orderTrack (tables : FalconPresentation) (ok : Bool) (i : Nat) : Except Stop Bool := do
  let t ← entry tables.tracks i
  (List.range' 1 (t.count.toNat - 1)).foldlM (orderSegment tables.segments t) ok

def orderTracks (tables : FalconPresentation) (ok : Bool) : Except Stop Bool :=
  (List.range tables.tracksN.toNat).foldlM (orderTrack tables) ok

/-! ## The bind pose -/

/-- What the loader computes in floats; `M` is `Mat4`. -/
structure Geometry (M : Type) where
  /-- `local`. -/
  transform : V3 → V3 → V3 → M
  mul : M → M → M
  point : M → V3 → V3
  /-- `bind_max[1] - bind_min[1] < 1.0f`, of the corners of all triangles. -/
  flat : List V3 → Bool

/-- `t`, `r` and `s` of every joint. -/
structure Pose where
  t : List V3
  r : List V3
  s : List V3

variable {M : Type} (g : Geometry M) (p : FalconPresentation)

/-- The pose the joints were read in. -/
def bindPose : Except Stop Pose := do
  let joints ← (List.range FALCON_JOINTS).mapM (entry p.joints)
  return ⟨joints.map (·.t), joints.map (·.r), joints.map (·.s)⟩

/-- One turn of `matrices`; `out` is what is computed so far. -/
def matrixAt (pose : Pose) (out : List M) (i : Nat) : Except Stop (List M) := do
  let t ← entry pose.t i
  let r ← entry pose.r i
  let s ← entry pose.s i
  let m := g.transform t r s
  let joint ← entry p.joints i
  if joint.parent < 0 then return out ++ [m]
  else
    let parent ← entry out joint.parent.toNat
    return out ++ [g.mul parent m]

/-- `matrices`. -/
def matrices (pose : Pose) : Except Stop (List M) :=
  (List.range FALCON_JOINTS).foldlM (matrixAt g p pose) []

/-- The corners of a triangle in the world. -/
def cornersOf (world : List M) (i : Nat) : Except Stop (List V3) := do
  let q ← entry p.triangles i
  let m ← entry world q.joint.toNat
  return [g.point m q.v0.p, g.point m q.v1.p, g.point m q.v2.p]

/-- The corners of all triangles, as `bounds` goes over them. -/
def corners (world : List M) : Except Stop (List V3) := do
  let each ← (List.range p.trianglesN.toNat).mapM (cornersOf g p world)
  return each.flatten

/-- `parse`, up to the tables as the blob has them. -/
def tablesOf (data : Bytes) : Except Stop (FalconPresentation × Cursor) := do
  refuseIf (data.length < 44 ∨ data.length > MAX_BLOB_BYTES)
  let (magic, c) ← readBytes data 8 ⟨0, true⟩
  refuseIf (magic ≠ some FALCON_MAGIC)
  let (version, c) ← read32 data c
  refuseIf (version ≠ FALCON_VERSION)
  readTables data c

/-- `parse`. -/
def parse (data : Bytes) : Except Stop FalconPresentation := do
  let (p, c) ← tablesOf data
  let ok ← orderTracks p c.ok
  refuseIf (ok = false ∨ c.pos ≠ data.length)
  let pose ← bindPose p
  let world ← matrices g p pose
  let all ← corners g p world
  refuseIf (g.flat all = true)
  return p

/-! ## What the walk knows -/

theorem rangeOk_iff {first count total : UInt32} :
    rangeOk first count total = true ↔ first.toNat + count.toNat ≤ total.toNat := by
  unfold rangeOk
  rw [decide_eq_true_eq, UInt32.le_iff_toNat_le, UInt32.le_iff_toNat_le]
  constructor
  · rintro ⟨hfirst, hcount⟩
    rw [UInt32.toNat_sub_of_le _ _ (UInt32.le_iff_toNat_le.2 hfirst)] at hcount
    omega
  · intro h
    have hfirst : first.toNat ≤ total.toNat := by omega
    refine ⟨hfirst, ?_⟩
    rw [UInt32.toNat_sub_of_le _ _ (UInt32.le_iff_toNat_le.2 hfirst)]
    omega

section Records

variable (data : Bytes) (h : Header)

theorem walks_readF32 : Walks data (readF32 data) (fun _ => True) fun _ => True :=
  walks_read32.step fun _ => (Walks.flagIf.mono (fun _ h => h) fun _ _ _ => trivial).step fun _ =>
    Walks.pure trivial trivial

theorem walks_readV3 : Walks data (readV3 data) (fun _ => True) fun _ => True :=
  (walks_readF32 data).step fun _ => (walks_readF32 data).step fun _ =>
    (walks_readF32 data).step fun _ => Walks.pure trivial trivial

theorem walks_readVertex : Walks data (readVertex data) (fun _ => True) fun _ => True :=
  (walks_readV3 data).step fun _ => (walks_readF32 data).step fun _ =>
    (walks_readF32 data).step fun _ => Walks.pure trivial trivial

/-- All five effect textures are there. -/
theorem walks_readHeader : Walks data (readHeader data)
    (fun h => h.punchFirst.toNat + 5 ≤ h.texturesN.toNat) fun _ => True := by
  refine walks_read32.step fun joints => walks_read32.step fun trianglesN => ?_
  refine walks_read32.step fun texturesN => walks_read32.step fun animsN => ?_
  refine walks_read32.step fun tracksN => walks_read32.step fun segmentsN => ?_
  refine walks_read32.step fun punchFirst => walks_read32.step fun punchCount => ?_
  refine Walks.giveUpIf.bind fun _ hgood => Walks.pure ?_ fun _ => trivial
  simp only [not_or, Bool.not_eq_false] at hgood
  obtain ⟨-, -, -, -, hmax, -, -, -, -, -, hthree, htwo⟩ := hgood
  rw [rangeOk_iff] at hthree htwo
  have hsmall : texturesN.toNat ≤ 256 := UInt32.le_iff_toNat_le.1 (UInt32.not_lt.1 hmax)
  have hthree' : punchFirst.toNat + 3 ≤ texturesN.toNat := hthree
  rw [UInt32.toNat_add] at htwo
  have htwo' : (punchFirst.toNat + 3) % 2 ^ 32 + 2 ≤ texturesN.toNat := htwo
  rw [Nat.mod_eq_of_lt (by omega)] at htwo'
  exact htwo'

theorem walks_readJoint (i : Nat) : Walks data (readJoint data h i) (fun _ => True)
    fun joint => -1 ≤ joint.parent ∧ joint.parent < i := by
  refine walks_read32.step fun parent => (walks_readV3 data).step fun t => ?_
  refine (walks_readV3 data).step fun r => (walks_readV3 data).step fun s => ?_
  refine walks_read32.step fun first => walks_read32.step fun count => ?_
  refine Walks.flagIf.bind fun _ _ => Walks.pure trivial fun hgood => ?_
  simp only [not_or, Int.not_lt, ge_iff_le, Int.not_le] at hgood
  exact ⟨hgood.1, hgood.2.1⟩

theorem walks_readTriangle : Walks data (readTriangle data h) (fun _ => True)
    fun q => q.joint.toNat < FALCON_JOINTS ∧
      (q.texture = FALCON_ROOT ∨ q.texture.toNat < h.texturesN.toNat) := by
  refine walks_read16.step fun joint => walks_read16.step fun texture => ?_
  refine (walks_readVertex data).step fun _ => (walks_readVertex data).step fun _ => ?_
  refine (walks_readVertex data).step fun _ => ?_
  refine Walks.flagIf.bind fun _ _ => Walks.pure trivial fun hgood => ?_
  simp only [not_or, not_and, ge_iff_le, Nat.not_le, UInt32.not_le] at hgood
  refine ⟨hgood.1, or_iff_not_imp_left.2 fun htexture => ?_⟩
  exact UInt32.lt_iff_toNat_lt.1 (hgood.2 htexture)

theorem walks_remaining : Walks data (remaining data) (fun _ => True) fun _ => True := fun c hc =>
  .inr ⟨_, c, rfl, hc, trivial, fun hok => ⟨hok, trivial⟩⟩

/-- A texture has a pixel, and all of them. -/
structure TextureOk (q : Texture) : Prop where
  w : 0 < q.w.toNat
  h : 0 < q.h.toNat
  pixels : q.pixels.length = q.w.toNat * q.h.toNat * 4

theorem walks_readTexture : Walks data (readTexture data) TextureOk fun _ => True := by
  refine walks_read16.step fun w => walks_read16.step fun h => walks_read32.step fun n => ?_
  refine (walks_remaining data).step fun left => Walks.giveUpIf.bind fun _ hgood => ?_
  refine (walks_readBytes n.toNat).bind fun pixels hpixels => ?_
  refine Walks.giveUpIf.bind fun _ hread => Walks.pure ?_ fun _ _ _ => trivial
  simp only [not_or, ne_eq, not_not] at hgood
  obtain ⟨hw, hh, -, -, hsize, -⟩ := hgood
  obtain ⟨bs, hbs⟩ := Option.ne_none_iff_exists'.1 hread
  refine ⟨Nat.pos_of_ne_zero fun hzero => hw ?_, Nat.pos_of_ne_zero fun hzero => hh ?_, ?_⟩
  · exact UInt16.toNat_inj.1 hzero
  · exact UInt16.toNat_inj.1 hzero
  · rw [hbs, hsize]
    exact hpixels bs hbs

theorem walks_readAnimation {i : Nat} {table : List Animation} (hi : i ≤ table.length) :
    Walks data (readAnimation data h i table) (fun _ => True)
      fun a => a.first.toNat + a.count.toNat ≤ h.tracksN.toNat := by
  refine ((walks_readBytes 32).mono (fun _ _ => trivial) fun _ _ h => h).step fun bytes => ?_
  refine (Walks.flagIf.mono (fun _ h => h) fun _ _ _ => trivial).step fun _ => ?_
  refine (walks_readF32 data).step fun duration => walks_read32.step fun loop => ?_
  refine walks_read32.step fun first => walks_read32.step fun count => ?_
  refine Walks.flagIf.bind fun _ _ => ?_
  have hnames : Walks data ((List.range i).forM
      (flagSameName table ((bytes.getD (List.replicate 32 0)).set 31 0))) (fun _ => True)
      fun _ => True := by
    refine walks_forM fun j hj => ?_
    obtain ⟨other, _, hother⟩ := entry_of_lt (Nat.lt_of_lt_of_le (List.mem_range.1 hj) hi)
    exact (walks_lift hother trivial trivial).step fun _ =>
      Walks.flagIf.mono (fun _ h => h) fun _ _ _ => trivial
  refine hnames.step fun _ => Walks.pure trivial fun hgood => ?_
  simp only [not_or, Bool.not_eq_false] at hgood
  exact rangeOk_iff.1 hgood.2.2.2

/-- A track moves a joint or the root, and has segments. -/
structure TrackOk (h : Header) (q : Track) : Prop where
  joint : q.joint.toNat < FALCON_JOINTS ∨ q.joint = FALCON_ROOT
  kind : q.kind.toNat ≤ 8
  count : 0 < q.count.toNat
  range : q.first.toNat + q.count.toNat ≤ h.segmentsN.toNat

theorem walks_readTrack : Walks data (readTrack data h) (fun _ => True) (TrackOk h) := by
  refine walks_read16.step fun joint => walks_read16.step fun kind => ?_
  refine walks_read32.step fun first => walks_read32.step fun count => ?_
  refine Walks.flagIf.bind fun _ _ => Walks.pure trivial fun hgood => ?_
  simp only [not_or, not_and, not_not, Bool.not_eq_false] at hgood
  obtain ⟨hjoint, hkind, hcount, hrange⟩ := hgood
  refine ⟨?_, ?_, Nat.pos_of_ne_zero fun hzero => hcount (UInt32.toNat_inj.1 hzero),
    rangeOk_iff.1 hrange⟩
  · exact or_iff_not_imp_left.2 fun h => hjoint (Nat.le_of_not_lt h)
  · exact UInt16.le_iff_toNat_le.1 (UInt16.not_lt.1 hkind)

theorem walks_readSegment : Walks data (readSegment data) (fun _ => True) fun _ => True := by
  refine (walks_readF32 data).step fun _ => (walks_readF32 data).step fun _ => ?_
  refine (walks_readF32 data).step fun _ => (walks_readF32 data).step fun _ => ?_
  refine (walks_readF32 data).step fun _ => (walks_readF32 data).step fun _ => ?_
  exact walks_read32.step fun _ => (Walks.flagIf.mono (fun _ h => h) fun _ _ _ => trivial).step
    fun _ => Walks.pure trivial trivial

end Records

/-! ## What the loader hands out -/

/-- The tables have the sizes that the counts say; every effect texture is one of them. -/
structure Shape (p : FalconPresentation) : Prop where
  joints : p.joints.length = FALCON_JOINTS
  triangles : p.triangles.length = p.trianglesN.toNat
  textures : p.textures.length = p.texturesN.toNat
  anims : p.anims.length = p.animsN.toNat
  tracks : p.tracks.length = allocated p.tracksN
  segments : p.segments.length = allocated p.segmentsN
  pixels : ∀ q ∈ p.textures, TextureOk q
  effects : p.punchFirst.toNat + 5 ≤ p.texturesN.toNat

/-- Every record refers to what is there. -/
structure Sound (p : FalconPresentation) : Prop where
  parent : ∀ (i : Nat) (joint : Joint), p.joints[i]? = some joint → -1 ≤ joint.parent ∧
    joint.parent < i
  triangle : ∀ q ∈ p.triangles, q.joint.toNat < FALCON_JOINTS ∧
    (q.texture = FALCON_ROOT ∨ q.texture.toNat < p.texturesN.toNat)
  animation : ∀ a ∈ p.anims, a.first.toNat + a.count.toNat ≤ p.tracksN.toNat
  track : ∀ i < p.tracksN.toNat, ∀ t, p.tracks[i]? = some t → TrackOk p.toHeader t

/-- The segments of a track are in the order of their frames. -/
def Ordered (p : FalconPresentation) (t : Track) : Prop :=
  ∀ j, 1 ≤ j → j < t.count.toNat → ∃ before here,
    p.segments[t.first.toNat + j - 1]? = some before ∧ p.segments[t.first.toNat + j]? = some here ∧
      f32Lt here.frame before.frame = false

structure WellFormed (p : FalconPresentation) : Prop extends Shape p, Sound p where
  ordered : ∀ i < p.tracksN.toNat, ∀ t, p.tracks[i]? = some t → Ordered p t

theorem le_allocated (n : UInt32) : n.toNat ≤ allocated n := by
  unfold allocated
  split
  · rename_i h
    rw [h]
    exact Nat.zero_le 1
  · exact Nat.le_refl _

theorem forall_mem_of_filled {α : Type} {table : List α} {n : Nat} {P : α → Prop}
    (hlen : table.length = n) (h : ∀ i < n, ∀ a, table[i]? = some a → P a) : ∀ a ∈ table, P a := by
  intro a ha
  obtain ⟨i, hi⟩ := List.mem_iff_getElem?.1 ha
  have hin : i < table.length := (List.getElem?_eq_some_iff.1 hi).1
  exact h i (hlen ▸ hin) a hi

/-- The walk over the blob stays inside, and knows what it checked. -/
theorem walks_readTables (data : Bytes) : Walks data (readTables data) Shape Sound := by
  refine (walks_readHeader data).bind fun h hh => ?_
  refine Walks.mono ?_ (fun _ h => h) fun _ _ h _ => h
  refine (walks_fill (Nat.le_refl _) fun i _ _ _ => walks_readJoint data h i).bind
    fun joints hjoints => ?_
  refine (walks_fill (Nat.le_refl _) fun _ _ _ _ => walks_readTriangle data h).bind
    fun triangles htriangles => ?_
  refine (walks_fill (Nat.le_refl _) fun _ _ _ _ => walks_readTexture data).bind
    fun textures htextures => ?_
  refine (walks_fill (Nat.le_refl _) fun i hi table hlen =>
    walks_readAnimation data h (hlen ▸ Nat.le_of_lt hi)).bind fun anims hanims => ?_
  refine (walks_fill (le_allocated _) fun _ _ _ _ => walks_readTrack data h).bind
    fun tracks htracks => ?_
  refine (walks_fill (le_allocated _) fun _ _ _ _ => walks_readSegment data).bind
    fun segments hsegments => ?_
  refine Walks.pure
    ⟨hjoints.1, htriangles.1, htextures.1, hanims.1, htracks.1, hsegments.1, ?_, hh⟩ ?_
  · refine forall_mem_of_filled htextures.1 fun i hi q hq => ?_
    obtain ⟨a, ha, hok⟩ := htextures.2 i hi
    rw [hq] at ha
    cases ha
    exact hok
  · intro _ htrack hanim _ htriangle hjoint
    refine ⟨fun i joint hi => ?_, forall_mem_of_filled htriangles.1 htriangle,
      forall_mem_of_filled hanims.1 hanim, htrack⟩
    exact hjoint i (hjoints.1 ▸ (List.getElem?_eq_some_iff.1 hi).1) joint hi

/-- The blob's tracks of two segments and more stay in the segment table. -/
def TracksFit (data : Bytes) : Prop :=
  ∀ p c, tablesOf data = .ok (p, c) → ∀ i < p.tracksN.toNat, ∀ t, p.tracks[i]? = some t →
    t.count.toNat ≤ 1 ∨ rangeOk t.first t.count p.segmentsN = true

theorem tablesOf_contained (data : Bytes) :
    Contained (tablesOf data) fun r => Shape r.1 ∧ r.2.pos ≤ data.length ∧
    (r.2.ok = true → Sound r.1) := by
  unfold tablesOf
  refine Contained.refuse fun _ => ?_
  rcases (walks_readBytes (p := data) 8) ⟨0, true⟩ (Nat.zero_le _) with h | ⟨magic, c, h, hc, -⟩
  · exact .inl (by rw [h, error_bind])
  rw [h, ok_bind]
  refine Contained.refuse fun _ => ?_
  rcases (walks_read32 (p := data)) c hc with h | ⟨version, c, h, hc, -⟩
  · exact .inl (by rw [h, error_bind])
  rw [h, ok_bind]
  refine Contained.refuse fun _ => ?_
  rcases walks_readTables data c hc with h | ⟨p, c, h, hc, hshape, hsound⟩
  · exact .inl h
  · exact .inr ⟨(p, c), h, hshape, hc, fun hok => (hsound hok).2⟩

/-! ## The order check -/

/-- The two segments a comparison reads are there. -/
def Reaches (segments : List Segment) (t : Track) (j : Nat) : Prop :=
  (t.first + UInt32.ofNat j).toNat < segments.length ∧
    (t.first + UInt32.ofNat j - 1).toNat < segments.length

/-- The comparison, where both segments are there. -/
def inOrder (segments : List Segment) (t : Track) (j : Nat) : Bool :=
  match segments[(t.first + UInt32.ofNat j).toNat]?, segments[(t.first + UInt32.ofNat j - 1).toNat]?
    with
  | some here, some before => !f32Lt here.frame before.frame
  | _, _ => false

theorem orderSegment_of_reaches {segments : List Segment} {t : Track} {j : Nat}
    (h : Reaches segments t j) (ok : Bool) :
    orderSegment segments t ok j = .ok (ok && inOrder segments t j) := by
  obtain ⟨here, hhere, hentry⟩ := entry_of_lt h.1
  obtain ⟨before, hbefore, hentry'⟩ := entry_of_lt h.2
  unfold orderSegment inOrder
  rw [hentry, hentry', hhere, hbefore]
  rfl

theorem orderSegment_of_not_reaches {segments : List Segment} {t : Track} {j : Nat}
    (h : ¬ Reaches segments t j) (ok : Bool) :
    orderSegment segments t ok j = .error .outOfBounds := by
  unfold orderSegment
  rcases Nat.lt_or_ge (t.first + UInt32.ofNat j).toNat segments.length with hhere | hhere
  · obtain ⟨here, -, hentry⟩ := entry_of_lt hhere
    rw [hentry, ok_bind, entry_of_le (Nat.le_of_not_lt fun hbefore => h ⟨hhere, hbefore⟩),
      error_bind]
  · rw [entry_of_le hhere, error_bind]

theorem toNat_index {first : UInt32} {j : Nat} (h : first.toNat + j < 2 ^ 32) :
    (first + UInt32.ofNat j).toNat = first.toNat + j := by
  have hj : j < UInt32.size := by
    have : UInt32.size = 2 ^ 32 := rfl
    omega
  rw [UInt32.toNat_add, UInt32.toNat_ofNat_of_lt' hj, Nat.mod_eq_of_lt h]

theorem toNat_index_before {first : UInt32} {j : Nat} (hj : 1 ≤ j) (h : first.toNat + j < 2 ^ 32) :
    (first + UInt32.ofNat j - 1).toNat = first.toNat + j - 1 := by
  have hone : (1 : UInt32).toNat = 1 := rfl
  have hsum := toNat_index h
  rw [UInt32.toNat_sub_of_le, hsum, hone]
  rw [UInt32.le_iff_toNat_le, hsum, hone]
  omega

theorem allocated_lt (n : UInt32) : allocated n < 2 ^ 32 := by
  unfold allocated
  split
  · decide
  · exact n.toNat_lt

/-- The segments of a track that fits are all reached. -/
theorem reaches_of_fits {p : FalconPresentation} (hp : Shape p) {t : Track}
    (h : t.count.toNat ≤ 1 ∨ rangeOk t.first t.count p.segmentsN = true) {j : Nat}
    (hj : j ∈ List.range' 1 (t.count.toNat - 1)) : Reaches p.segments t j := by
  obtain ⟨hone, hless⟩ := List.mem_range'_1.1 hj
  have hrange : t.first.toNat + t.count.toNat ≤ p.segmentsN.toNat :=
    h.elim (fun h => absurd hless (by omega)) rangeOk_iff.1
  have hlen : p.segmentsN.toNat ≤ p.segments.length := hp.segments ▸ le_allocated _
  have hsmall := p.segmentsN.toNat_lt
  unfold Reaches
  rw [toNat_index (by omega), toNat_index_before hone (by omega)]
  omega

/-- A track all of whose segments are reached fits. -/
theorem fits_of_reaches {p : FalconPresentation} (hp : Shape p) {t : Track}
    (h : ∀ j ∈ List.range' 1 (t.count.toNat - 1), Reaches p.segments t j) :
    t.count.toNat ≤ 1 ∨ rangeOk t.first t.count p.segmentsN = true := by
  by_cases hcount : t.count.toNat ≤ 1
  · exact .inl hcount
  right
  have hlen := hp.segments
  have hsmall := allocated_lt p.segmentsN
  have hall : ∀ j, j < t.count.toNat → t.first.toNat + j < p.segments.length := by
    intro j
    induction j with
    | zero =>
      intro _
      have hfirst := (h 1 (List.mem_range'_1.2 ⟨Nat.le_refl 1, by omega⟩)).2
      have hback : t.first + UInt32.ofNat 1 - 1 = t.first := by
        show t.first + 1 - 1 = t.first
        exact UInt32.add_sub_cancel ..
      rwa [hback] at hfirst
    | succ j ih =>
      intro hj
      have hbefore := ih (by omega)
      have hnext := (h (j + 1) (List.mem_range'_1.2 ⟨by omega, by omega⟩)).1
      rwa [toNat_index (by omega)] at hnext
  have hlast := hall (t.count.toNat - 1) (by omega)
  have hcounted : allocated p.segmentsN = p.segmentsN.toNat := by
    unfold allocated at hlen ⊢
    split
    · rename_i hzero
      rw [if_pos hzero] at hlen
      omega
    · rfl
  rw [rangeOk_iff]
  omega

/-- The order check of one track that fits. -/
theorem orderTrack_of_fits {p : FalconPresentation} (hp : Shape p) {t : Track} {i : Nat}
    (ht : p.tracks[i]? = some t)
    (h : t.count.toNat ≤ 1 ∨ rangeOk t.first t.count p.segmentsN = true)
    (ok : Bool) :
    orderTrack p ok i =
      .ok (ok && (List.range' 1 (t.count.toNat - 1)).all (inOrder p.segments t)) := by
  unfold orderTrack
  rw [entry_ok ht, ok_bind]
  exact foldlM_and ok fun b j hj => orderSegment_of_reaches (reaches_of_fits hp h hj) b

/-- The order check of a track that does not fit reads a segment that is not there. -/
theorem orderTrack_of_not_fits {p : FalconPresentation} (hp : Shape p) {t : Track} {i : Nat}
    (ht : p.tracks[i]? = some t)
    (h : ¬ (t.count.toNat ≤ 1 ∨ rangeOk t.first t.count p.segmentsN = true)) (ok : Bool) :
    orderTrack p ok i = .error .outOfBounds := by
  unfold orderTrack
  rw [entry_ok ht, ok_bind]
  refine foldlM_outOfBounds ok (fun b j _ => ?_) ?_
  · by_cases hj : Reaches p.segments t j
    · exact .inl ⟨_, orderSegment_of_reaches hj b⟩
    · exact .inr (orderSegment_of_not_reaches hj b)
  · have hsome := mt (fits_of_reaches hp) h
    simp only [not_forall] at hsome
    obtain ⟨j, hj, hbad⟩ := hsome
    exact ⟨j, hj, orderSegment_of_not_reaches hbad⟩

/-- The flag of a track by its index. -/
def trackInOrder (p : FalconPresentation) (i : Nat) : Bool :=
  match p.tracks[i]? with
  | some t => (List.range' 1 (t.count.toNat - 1)).all (inOrder p.segments t)
  | none => false

theorem exists_track {p : FalconPresentation} (hp : Shape p) {i : Nat} (hi : i < p.tracksN.toNat) :
    ∃ t, p.tracks[i]? = some t := by
  have hin : i < p.tracks.length := Nat.lt_of_lt_of_le hi (hp.tracks ▸ le_allocated _)
  exact ⟨p.tracks[i], List.getElem?_eq_getElem hin⟩

/-- The order check goes through when every track fits. -/
theorem orderTracks_of_fits {p : FalconPresentation} (hp : Shape p)
    (h : ∀ i < p.tracksN.toNat, ∀ t, p.tracks[i]? = some t →
      t.count.toNat ≤ 1 ∨ rangeOk t.first t.count p.segmentsN = true) (ok : Bool) :
    orderTracks p ok = .ok (ok && (List.range p.tracksN.toNat).all (trackInOrder p)) := by
  refine foldlM_and ok fun b i hi => ?_
  obtain ⟨t, ht⟩ := exists_track hp (List.mem_range.1 hi)
  rw [orderTrack_of_fits hp ht (h i (List.mem_range.1 hi) t ht)]
  unfold trackInOrder
  rw [ht]

/-- The order check leaves the segment table when some track does not fit. -/
theorem orderTracks_of_not_fits {p : FalconPresentation} (hp : Shape p)
    (h : ¬ ∀ i < p.tracksN.toNat, ∀ t, p.tracks[i]? = some t →
      t.count.toNat ≤ 1 ∨ rangeOk t.first t.count p.segmentsN = true) (ok : Bool) :
    orderTracks p ok = .error .outOfBounds := by
  refine foldlM_outOfBounds ok (fun b i hi => ?_) ?_
  · obtain ⟨t, ht⟩ := exists_track hp (List.mem_range.1 hi)
    by_cases hfits : t.count.toNat ≤ 1 ∨ rangeOk t.first t.count p.segmentsN = true
    · exact .inl ⟨_, orderTrack_of_fits hp ht hfits b⟩
    · exact .inr (orderTrack_of_not_fits hp ht hfits b)
  · simp only [not_forall] at h
    obtain ⟨i, hi, t, ht, hbad⟩ := h
    exact ⟨i, List.mem_range.2 hi, orderTrack_of_not_fits hp ht hbad⟩

/-- What passed the check is in order. -/
theorem ordered_of_check {p : FalconPresentation} (hp : Shape p) (hsound : Sound p)
    (h : (List.range p.tracksN.toNat).all (trackInOrder p) = true) :
    ∀ i < p.tracksN.toNat, ∀ t, p.tracks[i]? = some t → Ordered p t := by
  intro i hi t ht j hone hj
  have htrack := List.all_eq_true.1 h i (List.mem_range.2 hi)
  unfold trackInOrder at htrack
  rw [ht] at htrack
  have hmem : j ∈ List.range' 1 (t.count.toNat - 1) := List.mem_range'_1.2 ⟨hone, by omega⟩
  have hchecked := List.all_eq_true.1 htrack j hmem
  have hrange := (hsound.track i hi t ht).range
  have hsmall := p.segmentsN.toNat_lt
  have hlen : p.segmentsN.toNat ≤ p.segments.length := hp.segments ▸ le_allocated _
  have hin : t.first.toNat + j < p.segments.length := by omega
  have hbelow : t.first.toNat + j - 1 < p.segments.length := by omega
  obtain ⟨here, hhere, -⟩ := entry_of_lt hin
  obtain ⟨before, hbefore, -⟩ := entry_of_lt hbelow
  refine ⟨before, here, hbefore, hhere, ?_⟩
  unfold inOrder at hchecked
  rw [toNat_index (by omega), toNat_index_before hone (by omega), hhere, hbefore] at hchecked
  rwa [Bool.not_eq_true'] at hchecked

/-! ## The pose of well-formed tables -/

/-- A pose has a place for every joint. -/
structure PoseOk (pose : Pose) : Prop where
  t : pose.t.length = FALCON_JOINTS
  r : pose.r.length = FALCON_JOINTS
  s : pose.s.length = FALCON_JOINTS

theorem bindPose_ok {p : FalconPresentation} (hp : Shape p) :
    ∃ pose, bindPose p = .ok pose ∧ PoseOk pose := by
  obtain ⟨joints, hjoints, hlen, -⟩ := mapM_ok (f := entry p.joints) (P := fun _ => True)
    (l := List.range FALCON_JOINTS) fun i hi => by
      obtain ⟨a, -, ha⟩ := entry_of_lt (hp.joints.symm ▸ List.mem_range.1 hi : i < p.joints.length)
      exact ⟨a, ha, trivial⟩
  unfold bindPose
  rw [hjoints, ok_bind]
  rw [List.length_range] at hlen
  exact ⟨_, rfl, (List.length_map ..).trans hlen, (List.length_map ..).trans hlen,
    (List.length_map ..).trans hlen⟩

section Matrices

variable {M : Type} {g : Geometry M} {p : FalconPresentation}

/-- The matrix of a joint is computed from the one of its parent, which precedes it. -/
theorem matrixAt_ok (hp : WellFormed p) {pose : Pose} (hpose : PoseOk pose) {out : List M}
    (hout : out.length < FALCON_JOINTS) :
    ∃ next, matrixAt g p pose out out.length = .ok next ∧ next.length = out.length + 1 := by
  obtain ⟨t, -, ht⟩ := entry_of_lt (hpose.t.symm ▸ hout : out.length < pose.t.length)
  obtain ⟨r, -, hr⟩ := entry_of_lt (hpose.r.symm ▸ hout : out.length < pose.r.length)
  obtain ⟨s, -, hs⟩ := entry_of_lt (hpose.s.symm ▸ hout : out.length < pose.s.length)
  obtain ⟨joint, hjoint, hentry⟩ :=
    entry_of_lt (hp.joints.symm ▸ hout : out.length < p.joints.length)
  unfold matrixAt
  rw [ht, ok_bind, hr, ok_bind, hs, ok_bind, hentry, ok_bind]
  split
  · exact ⟨_, rfl, List.length_append⟩
  · have hparent := (hp.parent out.length joint hjoint).2
    have hin : joint.parent.toNat < out.length := by omega
    obtain ⟨parent, -, hbefore⟩ := entry_of_lt hin
    rw [hbefore, ok_bind]
    exact ⟨_, rfl, List.length_append⟩

theorem matrices_ok (hp : WellFormed p) {pose : Pose} (hpose : PoseOk pose) :
    ∃ world, matrices g p pose = .ok world ∧ world.length = FALCON_JOINTS := by
  have hrun : ∀ n ≤ FALCON_JOINTS, ∃ out,
      (List.range n).foldlM (matrixAt g p pose) [] = .ok out ∧ out.length = n := by
    intro n
    induction n with
    | zero => exact fun _ => ⟨[], rfl, rfl⟩
    | succ n ih =>
      intro hn
      obtain ⟨out, hout, hlen⟩ := ih (Nat.le_of_succ_le hn)
      have hroom : out.length < FALCON_JOINTS := by omega
      obtain ⟨next, hnext, hnext'⟩ := matrixAt_ok (g := g) hp hpose hroom
      rw [hlen] at hnext hnext'
      refine ⟨next, ?_, hnext'⟩
      rw [List.range_succ, List.foldlM_append, hout, ok_bind, List.foldlM_cons, hnext]
      rfl
  exact hrun FALCON_JOINTS (Nat.le_refl _)

theorem cornersOf_ok (hp : WellFormed p) {world : List M} (hworld : world.length = FALCON_JOINTS)
    {i : Nat} (hi : i < p.trianglesN.toNat) : ∃ each, cornersOf g p world i = .ok each := by
  obtain ⟨q, hq, hentry⟩ := entry_of_lt (hp.triangles.symm ▸ hi : i < p.triangles.length)
  have hjoint := (hp.triangle q (List.mem_of_getElem? hq)).1
  obtain ⟨m, -, hm⟩ := entry_of_lt (hworld.symm ▸ hjoint : q.joint.toNat < world.length)
  unfold cornersOf
  rw [hentry, ok_bind, hm, ok_bind]
  exact ⟨_, rfl⟩

theorem corners_ok (hp : WellFormed p) {world : List M} (hworld : world.length = FALCON_JOINTS) :
    ∃ all, corners g p world = .ok all := by
  obtain ⟨each, heach, -, -⟩ := mapM_ok (f := cornersOf g p world) (P := fun _ => True)
    (l := List.range p.trianglesN.toNat) fun i hi => by
      obtain ⟨b, hb⟩ := cornersOf_ok hp hworld (List.mem_range.1 hi)
      exact ⟨b, hb, trivial⟩
  unfold corners
  rw [heach]
  exact ⟨_, rfl⟩

/-- The loader refuses its blob or hands out well-formed tables when the tracks fit. -/
theorem parse_contained {data : Bytes} (hfit : TracksFit data) :
    Contained (parse g data) WellFormed := by
  unfold parse
  rcases tablesOf_contained data with h | ⟨⟨p, c⟩, h, hshape, hpos, hsound⟩
  · exact .inl (by rw [h, error_bind])
  dsimp only at hshape hpos hsound
  rw [h, ok_bind]
  dsimp only
  rw [orderTracks_of_fits hshape (hfit p c h), ok_bind]
  refine Contained.refuse fun hgood => ?_
  rw [not_or, Bool.not_eq_false, Bool.and_eq_true] at hgood
  obtain ⟨⟨hok, hordered⟩, -⟩ := hgood
  have hp : WellFormed p := ⟨hshape, hsound hok, ordered_of_check hshape (hsound hok) hordered⟩
  obtain ⟨pose, hpose, hposed⟩ := bindPose_ok hshape
  obtain ⟨world, hworld, hlen⟩ := matrices_ok (g := g) hp hposed
  obtain ⟨all, hall⟩ := corners_ok (g := g) hp hlen
  rw [hpose, ok_bind, hworld, ok_bind, hall, ok_bind]
  exact Contained.refuse fun _ => .inr ⟨p, rfl, hp⟩

/-- The loader reads a segment that is not there when a track does not fit. -/
theorem parse_outOfBounds {data : Bytes} (hfit : ¬ TracksFit data) :
    parse g data = .error .outOfBounds := by
  unfold TracksFit at hfit
  simp only [not_forall] at hfit
  obtain ⟨p, c, htables, i, hi, t, ht, hbad⟩ := hfit
  rcases tablesOf_contained data with h | ⟨r, h, hshape, -, -⟩
  · rw [htables] at h
    cases h
  rw [htables] at h
  cases h
  unfold parse
  rw [htables, ok_bind]
  dsimp only
  rw [orderTracks_of_not_fits hshape (fun hall => hbad (hall i hi t ht)), error_bind]

end Matrices

end SmwRecomp.Falcon
