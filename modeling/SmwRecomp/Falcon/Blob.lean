import SmwRecomp.Falcon.Presentation

/-!
# Baking the presentation blob

`write_blob` of `src/tools/owner_ssb64/bake_falcon_runtime.py`, and the loader of
`falcon_presentation.c` behind it.

* `packH`, `packI`, `packInt` — `struct.pack`, which refuses what has no room.
* `Baked`, `writeBlob` — what the baker has collected, and the bytes it writes.
* `Baked.loaded` — the tables these bytes stand for; `Fits` — the limits of the loader.
* `takes_readTables` — the walk over the bytes; `written_blob_loads` — what is written is loaded.

Floats are the binary32 values that are packed.
-/

set_option autoImplicit false

namespace SmwRecomp.Falcon

open Flagged

/-! ## What the baker writes -/

/-- `struct.pack("<H", n)`. -/
def packH (n : Nat) : Option Bytes := if n < 2 ^ 16 then some (le16 (UInt16.ofNat n)) else none

/-- `struct.pack("<I", n)`. -/
def packI (n : Nat) : Option Bytes := if n < 2 ^ 32 then some (le32 (UInt32.ofNat n)) else none

/-- `struct.pack("<i", n)`. -/
def packInt (n : Int) : Option Bytes :=
  if -2 ^ 31 ≤ n ∧ n < 2 ^ 31 then some (le32 (Int32.ofInt n).toUInt32) else none

structure BakedJoint where
  parent : Option Int
  translate : V3
  rotate : V3
  scale : V3
  firstTri : Nat
  triCount : Nat

structure BakedTriangle where
  joint : Nat
  texture : Nat
  v0 : Vertex
  v1 : Vertex
  v2 : Vertex

structure BakedTexture where
  width : Nat
  height : Nat
  pixels : Bytes

structure BakedAnimation where
  name : List Char
  duration : F32
  loop : Bool
  firstTrack : Nat
  trackCount : Nat

structure BakedTrack where
  joint : Nat
  kind : Nat
  firstSegment : Nat
  segmentCount : Nat

/-- What `collect_model` and the two collectors of effect textures return. -/
structure BakedModel where
  joints : List BakedJoint
  triangles : List BakedTriangle
  textures : List BakedTexture
  effectTextures : List BakedTexture
  kickEffectTextures : List BakedTexture

/-- What `collect_animations` returns. -/
structure BakedAnimations where
  animations : List BakedAnimation
  tracks : List BakedTrack
  segments : List Segment

structure Baked extends BakedModel, BakedAnimations

def V3.image (v : V3) : Bytes := [le32 v.x, le32 v.y, le32 v.z].flatten

def Vertex.image (v : Vertex) : Bytes := [v.p.image, le32 v.u, le32 v.v].flatten

def writeJoint (j : BakedJoint) : Option Bytes := do
  let parent ← packInt (j.parent.getD (-1))
  let firstTri ← packI j.firstTri
  let triCount ← packI j.triCount
  return [parent, j.translate.image, j.rotate.image, j.scale.image, firstTri, triCount].flatten

def writeTriangle (q : BakedTriangle) : Option Bytes := do
  let joint ← packH q.joint
  let texture ← packH q.texture
  return [joint, texture, q.v0.image, q.v1.image, q.v2.image].flatten

def writeTexture (q : BakedTexture) : Option Bytes := do
  let width ← packH q.width
  let height ← packH q.height
  let size ← packI q.pixels.length
  return [width, height, size, q.pixels].flatten

/-- `name.encode("ascii")`. -/
def encodeAscii (name : List Char) : Option Bytes :=
  if name.all (fun c => c.toNat < 128) then some (name.map fun c => c.toNat.toUInt8) else none

/-- The name in its field. -/
def nameField (encoded : Bytes) : Bytes :=
  encoded.take 31 ++ List.replicate (32 - (encoded.take 31).length) 0

def writeAnimation (a : BakedAnimation) : Option Bytes := do
  let encoded ← encodeAscii a.name
  let firstTrack ← packI a.firstTrack
  let trackCount ← packI a.trackCount
  return [nameField encoded, le32 a.duration, le32 (if a.loop then 1 else 0), firstTrack,
    trackCount].flatten

def writeTrack (t : BakedTrack) : Option Bytes := do
  let joint ← packH t.joint
  let kind ← packH t.kind
  let firstSegment ← packI t.firstSegment
  let segmentCount ← packI t.segmentCount
  return [joint, kind, firstSegment, segmentCount].flatten

def Segment.image (s : Segment) : Bytes :=
  [le32 s.frame, le32 s.duration, le32 s.base, le32 s.target, le32 s.rate0, le32 s.rate1,
    le32 s.kind].flatten

/-- All textures, those of the effects last. -/
def BakedModel.allTextures (b : BakedModel) : List BakedTexture :=
  b.textures ++ b.effectTextures ++ b.kickEffectTextures

/-- The counts behind the magic. -/
def Baked.counts (b : Baked) : List Nat :=
  [FALCON_VERSION.toNat, b.joints.length, b.triangles.length, b.allTextures.length,
    b.animations.length, b.tracks.length, b.segments.length, b.textures.length,
    b.effectTextures.length]

/-- `write_blob`; `none` where `struct.pack` or the encoding raises. -/
def writeBlob (b : Baked) : Option Bytes := do
  let counts ← b.counts.mapM packI
  let joints ← b.joints.mapM writeJoint
  let triangles ← b.triangles.mapM writeTriangle
  let textures ← b.allTextures.mapM writeTexture
  let animations ← b.animations.mapM writeAnimation
  let tracks ← b.tracks.mapM writeTrack
  return FALCON_MAGIC ++
    (counts.flatten ++ (joints.flatten ++ (triangles.flatten ++ (textures.flatten ++
    (animations.flatten ++ (tracks.flatten ++ b.segments.flatMap Segment.image))))))

/-! ## What the loader should hold -/

def BakedJoint.loaded (j : BakedJoint) : Joint :=
  ⟨j.parent.getD (-1), j.translate, j.rotate, j.scale, UInt32.ofNat j.firstTri,
    UInt32.ofNat j.triCount⟩

def BakedTriangle.loaded (q : BakedTriangle) : Triangle :=
  ⟨UInt16.ofNat q.joint, UInt16.ofNat q.texture, q.v0, q.v1, q.v2⟩

def BakedTexture.loaded (q : BakedTexture) : Texture :=
  ⟨UInt16.ofNat q.width, UInt16.ofNat q.height, q.pixels⟩

def BakedAnimation.loaded (a : BakedAnimation) : Animation :=
  ⟨nameField (a.name.map fun c => c.toNat.toUInt8), a.duration, if a.loop then 1 else 0,
    UInt32.ofNat a.firstTrack, UInt32.ofNat a.trackCount⟩

def BakedTrack.loaded (t : BakedTrack) : Track :=
  ⟨UInt16.ofNat t.joint, UInt16.ofNat t.kind, UInt32.ofNat t.firstSegment,
    UInt32.ofNat t.segmentCount⟩

/-- A table of the loader, which has an entry even when nothing is counted. -/
def padded {α : Type} (zero : α) (xs : List α) : List α := if xs = [] then [zero] else xs

def Baked.header (b : Baked) : Header where
  trianglesN := UInt32.ofNat b.triangles.length
  texturesN := UInt32.ofNat b.allTextures.length
  animsN := UInt32.ofNat b.animations.length
  tracksN := UInt32.ofNat b.tracks.length
  segmentsN := UInt32.ofNat b.segments.length
  punchFirst := UInt32.ofNat b.textures.length

def Baked.loaded (b : Baked) : FalconPresentation where
  toHeader := b.header
  joints := b.joints.map BakedJoint.loaded
  triangles := b.triangles.map BakedTriangle.loaded
  textures := b.allTextures.map BakedTexture.loaded
  anims := b.animations.map BakedAnimation.loaded
  tracks := padded .zero (b.tracks.map BakedTrack.loaded)
  segments := padded .zero b.segments

/-! ## The limits of the loader -/

def V3.Finite (v : V3) : Prop := isFinite v.x = true ∧ isFinite v.y = true ∧ isFinite v.z = true

def Vertex.Finite (v : Vertex) : Prop := v.p.Finite ∧ isFinite v.u = true ∧ isFinite v.v = true

instance (v : V3) : Decidable v.Finite := inferInstanceAs (Decidable (_ ∧ _))

instance (v : Vertex) : Decidable v.Finite := inferInstanceAs (Decidable (_ ∧ _))

/-- The parent of a joint precedes it, and its triangles are there. -/
structure BakedJoint.Fits (j : BakedJoint) (i triangles : Nat) : Prop where
  parent : -1 ≤ j.parent.getD (-1) ∧ j.parent.getD (-1) < i
  translate : j.translate.Finite
  rotate : j.rotate.Finite
  scale : j.scale.Finite
  range : j.firstTri + j.triCount ≤ triangles

structure BakedTriangle.Fits (q : BakedTriangle) (textures : Nat) : Prop where
  joint : q.joint < FALCON_JOINTS
  texture : q.texture = 0xffff ∨ q.texture < textures
  v0 : q.v0.Finite
  v1 : q.v1.Finite
  v2 : q.v2.Finite

structure BakedTexture.Fits (q : BakedTexture) : Prop where
  width : 0 < q.width ∧ q.width ≤ 4096
  height : 0 < q.height ∧ q.height ≤ 4096
  pixels : q.pixels.length = q.width * q.height * 4

structure BakedAnimation.Fits (a : BakedAnimation) (tracks : Nat) : Prop where
  name : a.name ≠ [] ∧ a.name.length ≤ 31 ∧ ∀ c ∈ a.name, 32 ≤ c.toNat ∧ c.toNat ≤ 126
  duration : isFinite a.duration = true ∧ f32Lt a.duration 0 = false
  range : a.firstTrack + a.trackCount ≤ tracks

structure BakedTrack.Fits (t : BakedTrack) (segments : List Segment) : Prop where
  joint : t.joint < FALCON_JOINTS ∨ t.joint = 0xffff
  kind : t.kind ≤ 8
  count : 0 < t.segmentCount
  range : t.firstSegment + t.segmentCount ≤ segments.length
  ordered : ∀ j, 1 ≤ j → j < t.segmentCount →
    ∃ before here, segments[t.firstSegment + j - 1]? = some before ∧
    segments[t.firstSegment + j]? = some here ∧ f32Lt here.frame before.frame = false

structure Segment.Fits (s : Segment) : Prop where
  frame : isFinite s.frame = true ∧ f32Lt s.frame 0 = false
  duration : isFinite s.duration = true ∧ f32Lt s.duration 0 = false
  base : isFinite s.base = true
  target : isFinite s.target = true
  rate0 : isFinite s.rate0 = true
  rate1 : isFinite s.rate1 = true
  kind : s.kind ≤ 3

structure BakedModel.Fits (b : BakedModel) : Prop where
  joints : b.joints.length = FALCON_JOINTS
  triangles : 0 < b.triangles.length ∧ b.triangles.length ≤ MAX_TRIANGLES.toNat
  textures : b.allTextures.length ≤ MAX_TEXTURES.toNat
  effects : b.effectTextures.length = 3 ∧ b.kickEffectTextures.length = 2
  joint : ∀ (i : Nat) (j : BakedJoint), b.joints[i]? = some j →
    BakedJoint.Fits j i b.triangles.length
  triangle : ∀ q ∈ b.triangles, q.Fits b.allTextures.length
  texture : ∀ q ∈ b.allTextures, q.Fits

structure BakedAnimations.Fits (b : BakedAnimations) : Prop where
  animations : 0 < b.animations.length ∧ b.animations.length ≤ MAX_ANIMATIONS.toNat
  tracks : b.tracks.length ≤ MAX_TRACKS.toNat
  segments : b.segments.length ≤ MAX_SEGMENTS.toNat
  names : (b.animations.map BakedAnimation.name).Nodup
  animation : ∀ a ∈ b.animations, a.Fits b.tracks.length
  track : ∀ t ∈ b.tracks, t.Fits b.segments
  segment : ∀ s ∈ b.segments, s.Fits

structure Baked.Fits (b : Baked) : Prop extends
  toModel : BakedModel.Fits b.toBakedModel, toAnimations : BakedAnimations.Fits b.toBakedAnimations

/-! ## The bytes of the tables -/

def Joint.image (q : Joint) : Bytes :=
  [le32 (Int32.ofInt q.parent).toUInt32, q.t.image, q.r.image, q.s.image, le32 q.first,
    le32 q.count].flatten

def Triangle.image (q : Triangle) : Bytes :=
  [le16 q.joint, le16 q.texture, q.v0.image, q.v1.image, q.v2.image].flatten

def Texture.image (q : Texture) : Bytes :=
  [le16 q.w, le16 q.h, le32 (UInt32.ofNat q.pixels.length), q.pixels].flatten

def Animation.image (a : Animation) : Bytes :=
  [a.name, le32 a.duration, le32 a.loop, le32 a.first, le32 a.count].flatten

def Track.image (t : Track) : Bytes :=
  [le16 t.joint, le16 t.kind, le32 t.first, le32 t.count].flatten

def Header.image (h : Header) : Bytes :=
  [le32 (UInt32.ofNat FALCON_JOINTS), le32 h.trianglesN, le32 h.texturesN, le32 h.animsN,
    le32 h.tracksN, le32 h.segmentsN, le32 h.punchFirst, le32 3].flatten

theorem packH_of_lt {n : Nat} (h : n < 2 ^ 16) : packH n = some (le16 (UInt16.ofNat n)) := if_pos h

theorem packI_of_lt {n : Nat} (h : n < 2 ^ 32) : packI n = some (le32 (UInt32.ofNat n)) := if_pos h

theorem ofNat16_toNat {n : Nat} (h : n < 2 ^ 16) : (UInt16.ofNat n).toNat = n :=
  UInt16.toNat_ofNat_of_lt' h

theorem ofNat32_toNat {n : Nat} (h : n < 2 ^ 32) : (UInt32.ofNat n).toNat = n :=
  UInt32.toNat_ofNat_of_lt' h

/-! ## What is written -/

section Writes

theorem writeJoint_eq {j : BakedJoint} {i n : Nat} (h : j.Fits i n) (hi : i < 2 ^ 31)
    (hn : n < 2 ^ 32) :
    writeJoint j = some j.loaded.image := by
  obtain ⟨hlow, hhigh⟩ := h.parent
  have hrange := h.range
  unfold writeJoint
  rw [packInt, if_pos ⟨by omega, by omega⟩, packI_of_lt (by omega), packI_of_lt (by omega)]
  rfl

theorem writeTriangle_eq {q : BakedTriangle} {n : Nat} (h : q.Fits n) (hn : n < 2 ^ 16) :
    writeTriangle q = some q.loaded.image := by
  have hjoint : q.joint < 26 := h.joint
  have htexture := h.texture
  unfold writeTriangle
  rw [packH_of_lt (by omega), packH_of_lt (by omega)]
  rfl

theorem BakedTexture.Fits.size {q : BakedTexture} (h : q.Fits) : q.pixels.length < 2 ^ 32 := by
  have hsize := Nat.mul_le_mul h.width.2 h.height.2
  rw [h.pixels]
  omega

theorem writeTexture_eq {q : BakedTexture} (h : q.Fits) : writeTexture q = some q.loaded.image := by
  have hwidth := h.width.2
  have hheight := h.height.2
  unfold writeTexture
  rw [packH_of_lt (by omega), packH_of_lt (by omega), packI_of_lt h.size]
  rfl

theorem writeAnimation_eq {a : BakedAnimation} {n : Nat} (h : a.Fits n) (hn : n < 2 ^ 32) :
    writeAnimation a = some a.loaded.image := by
  have hrange := h.range
  have hascii : a.name.all (fun c => c.toNat < 128) = true := by
    rw [List.all_eq_true]
    intro c hc
    have hhigh := (h.name.2.2 c hc).2
    exact decide_eq_true (by omega)
  unfold writeAnimation encodeAscii
  rw [if_pos hascii, packI_of_lt (by omega), packI_of_lt (by omega)]
  rfl

theorem writeTrack_eq {t : BakedTrack} {segments : List Segment} (h : t.Fits segments)
    (hn : segments.length < 2 ^ 32) :
    writeTrack t = some t.loaded.image := by
  have hjoint := h.joint
  have hsmall : FALCON_JOINTS = 26 := rfl
  have hkind := h.kind
  have hrange := h.range
  unfold writeTrack
  rw [packH_of_lt (by omega), packH_of_lt (by omega), packI_of_lt (by omega),
    packI_of_lt (by omega)]
  rfl

end Writes

section Blob

variable {b : Baked}

theorem Baked.Fits.small (h : b.Fits) : b.triangles.length ≤ 10000 ∧ b.allTextures.length ≤ 256 ∧
    b.animations.length ≤ 128 ∧ b.tracks.length ≤ 100000 ∧ b.segments.length ≤ 1000000 :=
  ⟨h.triangles.2, h.textures, h.animations.2, h.tracks, h.segments⟩

/-- The bytes behind the magic and the version. -/
def Baked.body (b : Baked) : Bytes :=
  b.header.image ++
    (b.loaded.joints.flatMap Joint.image ++ (b.loaded.triangles.flatMap Triangle.image ++
    (b.loaded.textures.flatMap Texture.image ++ (b.loaded.anims.flatMap Animation.image ++
      ((b.tracks.map BakedTrack.loaded).flatMap Track.image ++ b.segments.flatMap Segment.image)))))

theorem mapM_image {α β : Type} (write : α → Option Bytes) (loaded : α → β)
    (image : β → Bytes) {xs : List α}
    (h : ∀ x ∈ xs, write x = some (image (loaded x))) :
    ∃ bytes, xs.mapM write = some bytes ∧ bytes.flatten = (xs.map loaded).flatMap image := by
  refine ⟨_, mapM_some h, ?_⟩
  rw [List.flatMap_map, List.flatMap_def]

theorem counts_packed (h : b.Fits) : ∃ counts, b.counts.mapM packI = some counts ∧
    counts.flatten = le32 FALCON_VERSION ++ b.header.image := by
  obtain ⟨htriangles, htextures, hanimations, htracks, hsegments⟩ := h.small
  have heffects := h.effects.1
  have hfirst : b.textures.length ≤ b.allTextures.length := by
    unfold BakedModel.allTextures
    rw [List.length_append, List.length_append]
    omega
  refine ⟨_, mapM_some (g := fun n => le32 (UInt32.ofNat n)) ?_, ?_⟩
  · intro n hn
    refine packI_of_lt ?_
    have hjoints : b.joints.length = 26 := h.joints
    have hversion : FALCON_VERSION.toNat = 4 := rfl
    unfold Baked.counts at hn
    simp only [List.mem_cons, List.not_mem_nil, or_false] at hn
    omega
  · unfold Baked.counts
    rw [h.joints, heffects]
    rfl

theorem writeBlob_eq (h : b.Fits) :
    writeBlob b = some (FALCON_MAGIC ++ (le32 FALCON_VERSION ++ b.body)) := by
  obtain ⟨htriangles, htextures, -, htracks, hsegments⟩ := h.small
  obtain ⟨counts, hcounts, hheader⟩ := counts_packed h
  obtain ⟨joints, hjoints, hjointBytes⟩ := mapM_image writeJoint BakedJoint.loaded Joint.image
    fun j (hj : j ∈ b.joints) => by
      obtain ⟨i, hi⟩ := List.mem_iff_getElem?.1 hj
      have hin : i < FALCON_JOINTS := h.joints ▸ (List.getElem?_eq_some_iff.1 hi).1
      have hsmall : FALCON_JOINTS = 26 := rfl
      exact writeJoint_eq (h.joint i j hi) (by omega) (by omega)
  obtain ⟨triangles, htrianglesM, htriangleBytes⟩ :=
    mapM_image writeTriangle BakedTriangle.loaded Triangle.image
    fun q (hq : q ∈ b.triangles) => writeTriangle_eq (h.triangle q hq) (by omega)
  obtain ⟨textures, htexturesM, htextureBytes⟩ :=
    mapM_image writeTexture BakedTexture.loaded Texture.image
    fun q (hq : q ∈ b.allTextures) => writeTexture_eq (h.texture q hq)
  obtain ⟨animations, hanimationsM, hanimationBytes⟩ :=
    mapM_image writeAnimation BakedAnimation.loaded Animation.image
    fun a (ha : a ∈ b.animations) =>
      writeAnimation_eq (h.animation a ha) (by omega)
  obtain ⟨tracks, htracksM, htrackBytes⟩ := mapM_image writeTrack BakedTrack.loaded Track.image
    fun t (ht : t ∈ b.tracks) => writeTrack_eq (h.track t ht) (by omega)
  unfold writeBlob
  rw [hcounts, hjoints, htrianglesM, htexturesM, hanimationsM, htracksM]
  show some (FALCON_MAGIC ++
    (counts.flatten ++ (joints.flatten ++ (triangles.flatten ++ (textures.flatten ++
    (animations.flatten ++ (tracks.flatten ++ b.segments.flatMap Segment.image))))))) = _
  rw [hheader, hjointBytes, htriangleBytes, htextureBytes, hanimationBytes, htrackBytes,
    List.append_assoc]
  rfl

end Blob

/-! ## What is read back -/

section Reads

theorem takes_readF32 {v : F32} (h : isFinite v = true) : Takes readF32 (le32 v) v := by
  have hread :=
    (takes_read32 v).bind (f := fun w _ => flagIf (isFinite w = false) >>= fun _ => pure w)
    ((takes_flagIf (by rw [h]; exact Bool.noConfusion)).check (Takes.pure v))
  rwa [List.append_nil] at hread

theorem takes_readV3 {v : V3} (h : v.Finite) : Takes readV3 v.image v := by
  unfold readV3 V3.image
  exact (takes_readF32 h.1).field <| (takes_readF32 h.2.1).field <|
    (takes_readF32 h.2.2).field <| Takes.pure v

theorem takes_readVertex {v : Vertex} (h : v.Finite) : Takes readVertex v.image v := by
  unfold readVertex Vertex.image
  exact (takes_readV3 h.1).field <| (takes_readF32 h.2.1).field <|
    (takes_readF32 h.2.2).field <| Takes.pure v

/-- The limits on the counts. -/
structure Header.Fits (h : Header) : Prop where
  triangles : h.trianglesN ≠ 0 ∧ h.trianglesN ≤ MAX_TRIANGLES
  textures : h.texturesN ≠ 0 ∧ h.texturesN ≤ MAX_TEXTURES
  anims : h.animsN ≠ 0 ∧ h.animsN ≤ MAX_ANIMATIONS
  tracks : h.tracksN ≤ MAX_TRACKS
  segments : h.segmentsN ≤ MAX_SEGMENTS
  effects : rangeOk h.punchFirst 3 h.texturesN = true ∧
    rangeOk (h.punchFirst + 3) 2 h.texturesN = true

theorem takes_readHeader {h : Header} (hh : h.Fits) : Takes readHeader h.image h := by
  have hgood : ¬ ((UInt32.ofNat FALCON_JOINTS).toNat ≠ FALCON_JOINTS ∨ h.trianglesN = 0 ∨
    h.trianglesN > MAX_TRIANGLES ∨
      h.texturesN = 0 ∨ h.texturesN > MAX_TEXTURES ∨ h.animsN = 0 ∨ h.animsN > MAX_ANIMATIONS ∨
      h.tracksN > MAX_TRACKS ∨ h.segmentsN > MAX_SEGMENTS ∨ (3 : UInt32) ≠ 3 ∨
      rangeOk h.punchFirst 3 h.texturesN = false ∨
      rangeOk (h.punchFirst + 3) 2 h.texturesN = false) := by
    simp only [not_or, gt_iff_lt, UInt32.not_lt, Bool.not_eq_false, ne_eq, not_not]
    exact ⟨rfl, hh.triangles.1, hh.triangles.2, hh.textures.1, hh.textures.2, hh.anims.1,
      hh.anims.2, hh.tracks, hh.segments, trivial, hh.effects.1, hh.effects.2⟩
  unfold readHeader Header.image
  exact (takes_read32 _).field <| (takes_read32 _).field <| (takes_read32 _).field <|
    (takes_read32 _).field <| (takes_read32 _).field <| (takes_read32 _).field <|
    (takes_read32 _).field <| (takes_read32 _).field <|
    (takes_giveUpIf hgood).check <| Takes.pure h

variable {h : Header}

theorem takes_readJoint {i : Nat} {q : Joint} (hparent : -1 ≤ q.parent ∧ q.parent < i)
    (hi : i < 2 ^ 31)
    (ht : q.t.Finite) (hr : q.r.Finite) (hs : q.s.Finite)
    (hrange : rangeOk q.first q.count h.trianglesN = true) :
    Takes (fun p => readJoint p h i) q.image q := by
  obtain ⟨hlow, hhigh⟩ := hparent
  have hback : (Int32.ofInt q.parent).toUInt32.toInt32.toInt = q.parent := by
    rw [Int32.toInt32_toUInt32, Int32.toInt_ofInt_of_le (by omega) (by omega)]
  have hgood : ¬ ((Int32.ofInt q.parent).toUInt32.toInt32.toInt < -1 ∨
      (Int32.ofInt q.parent).toUInt32.toInt32.toInt ≥ i ∨
      rangeOk q.first q.count h.trianglesN = false) := by
    rw [hback, hrange]
    rintro (h | h | h)
    · omega
    · omega
    · cases h
  have hjoint : (⟨(Int32.ofInt q.parent).toUInt32.toInt32.toInt, q.t, q.r, q.s, q.first, q.count⟩ :
    Joint) = q := by
    rw [hback]
  unfold readJoint Joint.image
  exact (takes_read32 _).field <| (takes_readV3 ht).field <| (takes_readV3 hr).field <|
    (takes_readV3 hs).field <| (takes_read32 _).field <| (takes_read32 _).field <|
    (takes_flagIf hgood).check <| Eq.mp (congrArg (Takes _ []) hjoint) (Takes.pure _)

theorem takes_readTriangle {q : Triangle} (hjoint : q.joint.toNat < FALCON_JOINTS)
    (htexture : q.texture = FALCON_ROOT ∨ q.texture.toUInt32 < h.texturesN) (h0 : q.v0.Finite)
    (h1 : q.v1.Finite)
    (h2 : q.v2.Finite) : Takes (fun p => readTriangle p h) q.image q := by
  have hgood : ¬ (q.joint.toNat ≥ FALCON_JOINTS ∨
    (q.texture ≠ FALCON_ROOT ∧ q.texture.toUInt32 ≥ h.texturesN)) := by
    rintro (hj | ⟨hne, hge⟩)
    · omega
    · exact UInt32.not_le.2 (htexture.resolve_left hne) hge
  unfold readTriangle Triangle.image
  exact (takes_read16 _).field <| (takes_read16 _).field <| (takes_readVertex h0).field <|
    (takes_readVertex h1).field <| (takes_readVertex h2).field <|
    (takes_flagIf hgood).check <| Takes.pure q

/-- How much is left is asked before the bytes are taken. -/
theorem takes_remaining {β : Type} {f : Nat → Bytes → FlaggedM β} {bs : Bytes} {b : β}
    (hf : ∀ left, bs.length ≤ left → Takes (f left) bs b) :
    Takes (fun p => remaining p >>= fun left => f left p) bs b := by
  intro pre post
  refine hf ((pre ++ (bs ++ post)).length - pre.length) ?_ pre post
  rw [List.length_append, List.length_append]
  omega

theorem takes_readTexture {q : Texture} (hw : 0 < q.w.toNat ∧ q.w.toNat ≤ 4096)
    (hh : 0 < q.h.toNat ∧ q.h.toNat ≤ 4096)
    (hpixels : q.pixels.length = q.w.toNat * q.h.toNat * 4) : Takes readTexture q.image q := by
  have hsize : q.pixels.length ≤ 4096 * 4096 * 4 := by
    have := Nat.mul_le_mul hw.2 hh.2
    omega
  have hn : (UInt32.ofNat q.pixels.length).toNat = q.pixels.length := ofNat32_toNat (by omega)
  have hw0 : q.w ≠ 0 := fun h0 => by
    rw [h0] at hw
    exact absurd hw.1 (by decide)
  have hh0 : q.h ≠ 0 := fun h0 => by
    rw [h0] at hh
    exact absurd hh.1 (by decide)
  have htail : ∀ left, q.pixels.length ≤ left → ¬ (q.w = 0 ∨ q.h = 0 ∨ q.w > 4096 ∨ q.h > 4096 ∨
      q.w.toNat * q.h.toNat * 4 ≠ (UInt32.ofNat q.pixels.length).toNat ∨
      (UInt32.ofNat q.pixels.length).toNat > MAX_BLOB_BYTES ∨
      (UInt32.ofNat q.pixels.length).toNat > left) := by
    intro left hleft
    rw [hn]
    rintro (h | h | h | h | h | h | h)
    · exact hw0 h
    · exact hh0 h
    · exact absurd (UInt16.lt_iff_toNat_lt.1 h) (Nat.not_lt.2 hw.2)
    · exact absurd (UInt16.lt_iff_toNat_lt.1 h) (Nat.not_lt.2 hh.2)
    · exact h hpixels.symm
    · exact absurd h (Nat.not_lt.2 hsize)
    · omega
  unfold readTexture Texture.image
  refine (takes_read16 _).field <| (takes_read16 _).field <| (takes_read32 _).field <|
    takes_remaining fun left hleft => ?_
  rw [List.flatten_singleton] at hleft
  exact (takes_giveUpIf (htail left hleft)).check <| (takes_readBytes hn.symm).field <|
    (takes_giveUpIf (by simp)).check <| Takes.pure q

theorem takes_readTrack {t : Track} (ht : TrackOk h t) :
    Takes (fun p => readTrack p h) t.image t := by
  have hgood : ¬ ((t.joint.toNat ≥ FALCON_JOINTS ∧ t.joint ≠ FALCON_ROOT) ∨
    t.kind > 8 ∨ t.count = 0 ∨
      rangeOk t.first t.count h.segmentsN = false) := by
    rw [rangeOk_iff.2 ht.range]
    rintro (⟨hge, hne⟩ | hkind | hcount | hrange)
    · exact absurd (ht.joint.resolve_right hne) (Nat.not_lt.2 hge)
    · exact absurd (UInt16.lt_iff_toNat_lt.1 hkind) (Nat.not_lt.2 ht.kind)
    · have hpos := ht.count
      rw [hcount] at hpos
      exact absurd hpos (by decide)
    · cases hrange
  unfold readTrack Track.image
  exact (takes_read16 _).field <| (takes_read16 _).field <| (takes_read32 _).field <|
    (takes_read32 _).field <| (takes_flagIf hgood).check <| Takes.pure t

theorem takes_readSegment {q : Segment} (hq : q.Fits) : Takes readSegment q.image q := by
  have hgood : ¬ (f32Lt q.frame 0 = true ∨ f32Lt q.duration 0 = true ∨ q.kind > 3) := by
    rw [hq.frame.2, hq.duration.2]
    rintro (h | h | h)
    · cases h
    · cases h
    · exact UInt32.not_lt.2 hq.kind h
  unfold readSegment Segment.image
  exact (takes_readF32 hq.frame.1).field <| (takes_readF32 hq.duration.1).field <|
    (takes_readF32 hq.base).field <| (takes_readF32 hq.target).field <|
    (takes_readF32 hq.rate0).field <| (takes_readF32 hq.rate1).field <|
    (takes_read32 _).field <| (takes_flagIf hgood).check <| Takes.pure q

/-! ### Names -/

/-- A name that stands in its field with zeros behind it. -/
structure Named (name : Bytes) : Prop where
  length : name.length = 32
  last : name.set 31 0 = name
  zero : 0 ∈ name
  ok : nameOk 0 name = true

theorem nameOk_append {i : Nat} {rest : Bytes} : ∀ {bs : Bytes}, (∀ b ∈ bs, 32 ≤ b ∧ b ≤ 126) →
    0 < i + bs.length →
    nameOk i (bs ++ 0 :: rest) = true
  | [], _, hi => by
    rw [List.length_nil, Nat.add_zero] at hi
    simp [nameOk, hi]
  | b :: bs, h, _ => by
    rw [List.forall_mem_cons] at h
    obtain ⟨⟨hlow, hhigh⟩, hrest⟩ := h
    have hne : b ≠ 0 := by
      rintro rfl
      exact absurd hlow (by decide)
    have hprint : ¬ (b < 32 ∨ b > 126) := by
      rintro (hb | hb)
      · exact UInt8.not_lt.2 hlow hb
      · exact UInt8.not_lt.2 hhigh hb
    rw [List.cons_append, nameOk, if_neg hne, if_neg hprint]
    exact nameOk_append hrest (by omega)

theorem nameField_eq {encoded : Bytes} (h : encoded.length ≤ 31) :
    nameField encoded = encoded ++ 0 :: List.replicate (31 - encoded.length) 0 := by
  unfold nameField
  rw [List.take_of_length_le h, ← List.replicate_succ]
  congr 2
  omega

theorem named_nameField {encoded : Bytes} (hne : encoded ≠ []) (hlength : encoded.length ≤ 31)
    (hprint : ∀ b ∈ encoded, 32 ≤ b ∧ b ≤ 126) : Named (nameField encoded) where
  length := by
    rw [nameField_eq hlength, List.length_append, List.length_cons, List.length_replicate]
    omega
  last := by
    rw [nameField_eq hlength, List.set_append_right _ _ hlength, ← List.replicate_succ,
      List.set_replicate_self]
  zero := by
    rw [nameField_eq hlength]
    simp
  ok := by
    rw [nameField_eq hlength]
    refine nameOk_append hprint ?_
    have := List.length_pos_iff.2 hne
    omega

theorem cString_nameField {encoded : Bytes} (hlength : encoded.length ≤ 31)
    (hprint : ∀ b ∈ encoded, 32 ≤ b ∧ b ≤ 126) :
    cString (nameField encoded) = encoded := by
  have hne : ∀ b ∈ encoded, (decide (b ≠ 0)) = true := by
    intro b hb
    rw [decide_eq_true_eq]
    rintro rfl
    exact absurd (hprint 0 hb).1 (by decide)
  unfold cString
  rw [nameField_eq hlength, List.takeWhile_append_of_pos hne, List.takeWhile_cons_of_neg (by simp),
    List.append_nil]

theorem takes_readAnimation {a : Animation} (hname : Named a.name)
    (hfinite : isFinite a.duration = true)
    (hduration : f32Lt a.duration 0 = false) (hloop : a.loop ≤ 1)
    (hrange : rangeOk a.first a.count h.tracksN = true)
    {front rest : List Animation} (hfresh : ∀ other ∈ front, cString a.name ≠ cString other.name) :
    Takes (fun p => readAnimation p h front.length (front ++ rest)) a.image a := by
  have hterminated : ¬ 0 ∉ (some a.name).getD (List.replicate 32 0) := not_not.2 hname.zero
  have hgood : ¬ (nameOk 0 (a.name.set 31 0) = false ∨ f32Lt a.duration 0 = true ∨ a.loop > 1 ∨
      rangeOk a.first a.count h.tracksN = false) := by
    rw [hname.last, hname.ok, hduration, hrange]
    rintro (h | h | h | h)
    · cases h
    · cases h
    · exact UInt32.not_lt.2 hloop h
    · cases h
  have hnames : Takes
    (fun _ => (List.range front.length).forM (flagSameName (front ++ rest) (a.name.set 31 0))) []
    () := by
    refine takes_forM fun j hj => ?_
    have hj := List.mem_range.1 hj
    have hentry : entry (front ++ rest) j = .ok front[j] := entry_ok (by
      rw [List.getElem?_append_left hj, List.getElem?_eq_getElem hj])
    refine (takes_lift hentry).check (takes_flagIf ?_)
    rw [hname.last]
    exact hfresh _ (List.getElem_mem hj)
  have hrecord : (⟨a.name.set 31 0, a.duration, a.loop, a.first, a.count⟩ : Animation) = a := by
    rw [hname.last]
  unfold readAnimation Animation.image
  exact (takes_readBytes hname.length).field <| (takes_flagIf hterminated).check <|
    (takes_readF32 hfinite).field <| (takes_read32 _).field <| (takes_read32 _).field <|
    (takes_read32 _).field <| (takes_flagIf hgood).check <|
    hnames.check <| Eq.mp (congrArg (Takes _ []) hrecord) (Takes.pure _)

end Reads

/-! ## The tables -/

section Load

variable {b : Baked}

theorem rangeOk_ofNat {first count total : Nat} (h : first + count ≤ total) (ht : total < 2 ^ 32) :
    rangeOk (UInt32.ofNat first) (UInt32.ofNat count) (UInt32.ofNat total) = true := by
  rw [rangeOk_iff, ofNat32_toNat (by omega), ofNat32_toNat (by omega), ofNat32_toNat ht]
  exact h

theorem ofNat_le {n : Nat} {limit : UInt32} (h : n ≤ limit.toNat) : UInt32.ofNat n ≤ limit := by
  rw [UInt32.le_iff_toNat_le, ofNat32_toNat (Nat.lt_of_le_of_lt h limit.toNat_lt)]
  exact h

theorem ofNat_ne_zero {n : Nat} {limit : UInt32} (hpos : 0 < n) (h : n ≤ limit.toNat) :
    UInt32.ofNat n ≠ 0 := by
  intro hzero
  have hn := ofNat32_toNat (Nat.lt_of_le_of_lt h limit.toNat_lt)
  rw [hzero] at hn
  exact absurd hn (by have : (0 : UInt32).toNat = 0 := rfl; omega)

theorem Baked.Fits.textures_length (h : b.Fits) : b.textures.length + 5 = b.allTextures.length := by
  obtain ⟨hpunch, hkick⟩ := h.effects
  unfold BakedModel.allTextures
  rw [List.length_append, List.length_append]
  omega

theorem Baked.Fits.header (h : b.Fits) : b.header.Fits := by
  have hfive := h.textures_length
  have hsmall := h.textures
  have hmax : MAX_TEXTURES.toNat = 256 := rfl
  refine ⟨⟨ofNat_ne_zero h.triangles.1 h.triangles.2, ofNat_le h.triangles.2⟩,
    ⟨ofNat_ne_zero (by omega) h.textures, ofNat_le h.textures⟩,
    ⟨ofNat_ne_zero h.animations.1 h.animations.2, ofNat_le h.animations.2⟩, ofNat_le h.tracks,
    ofNat_le h.segments, ?_, ?_⟩
  · show rangeOk _ (UInt32.ofNat 3) _ = true
    exact rangeOk_ofNat (by omega) (by omega)
  · have hsum : b.header.punchFirst + 3 = UInt32.ofNat (b.textures.length + 3) := by
      show UInt32.ofNat b.textures.length + UInt32.ofNat 3 = _
      rw [UInt32.ofNat_add]
    rw [hsum]
    show rangeOk _ (UInt32.ofNat 2) _ = true
    exact rangeOk_ofNat (by omega) (by omega)

theorem padded_eq {α : Type} {zero : α} {xs : List α} {n : UInt32} (h : n.toNat = xs.length) :
    padded zero xs = xs ++ List.replicate (allocated n - xs.length) zero := by
  unfold padded allocated
  by_cases hnil : xs = []
  · have hzero : n = 0 := UInt32.toNat_inj.1 (by rw [h, hnil]; rfl)
    rw [if_pos hnil, if_pos hzero, hnil]
    rfl
  · have hne : n ≠ 0 := by
      rintro rfl
      exact hnil (List.length_eq_zero_iff.1 h.symm)
    rw [if_neg hnil, if_neg hne, h, Nat.sub_self, List.replicate_zero, List.append_nil]

/-- A table whose records do not depend on each other. -/
theorem takes_table {α : Type} (zero : α) {n : UInt32} {read : Bytes → FlaggedM α}
    {image : α → Bytes} {xs : List α}
    (hn : n.toNat = xs.length) (hread : ∀ x ∈ xs, Takes read (image x) x) :
    Takes (fun p => fill zero n.toNat n.toNat fun _ _ => read p) (xs.flatMap image) xs := by
  have hfill := takes_fill zero xs.length (fun p _ _ => read p) image (Nat.le_refl _)
    fun front x back (hxs : xs = front ++ x :: back) _ _ => hread x (by rw [hxs]; simp)
  rw [Nat.sub_self, List.replicate_zero, List.append_nil] at hfill
  rwa [hn]

theorem takes_padded {α : Type} (zero : α) {n : UInt32} {read : Bytes → FlaggedM α}
    {image : α → Bytes} {xs : List α}
    (hn : n.toNat = xs.length) (hread : ∀ x ∈ xs, Takes read (image x) x) :
    Takes (fun p => fill zero (allocated n) n.toNat fun _ _ => read p) (xs.flatMap image)
      (padded zero xs) := by
  have hfill := takes_fill zero (allocated n) (fun p _ _ => read p) image (hn ▸ le_allocated n)
    fun front x back (hxs : xs = front ++ x :: back) _ _ => hread x (by rw [hxs]; simp)
  rwa [← padded_eq hn, ← hn] at hfill

theorem takes_joints (h : b.Fits) :
    Takes (fun p => fill .zero FALCON_JOINTS FALCON_JOINTS fun i _ => readJoint p b.header i)
    (b.loaded.joints.flatMap Joint.image) b.loaded.joints := by
  obtain ⟨htriangles, -⟩ := h.small
  have hlength : (b.joints.map BakedJoint.loaded).length = FALCON_JOINTS := by
    rw [List.length_map, h.joints]
  have hfill :=
    takes_fill .zero FALCON_JOINTS (fun p i _ => readJoint p b.header i) Joint.image
    (Nat.le_of_eq hlength)
    fun front x back hxs _ _ => by
      have hx : (b.joints.map BakedJoint.loaded)[front.length]? = some x := by
        rw [hxs, List.getElem?_append_right (Nat.le_refl _), Nat.sub_self, List.getElem?_cons_zero]
      obtain ⟨j, hj, rfl⟩ := Option.map_eq_some_iff.1 (List.getElem?_map .. ▸ hx)
      have hin : front.length < FALCON_JOINTS := h.joints ▸ (List.getElem?_eq_some_iff.1 hj).1
      have hsmall : FALCON_JOINTS = 26 := rfl
      have hfits := h.joint _ _ hj
      exact takes_readJoint hfits.parent (by omega) hfits.translate hfits.rotate hfits.scale
        (rangeOk_ofNat hfits.range (by omega))
  rw [hlength, Nat.sub_self, List.replicate_zero, List.append_nil] at hfill
  exact hfill

theorem takes_triangles (h : b.Fits) :
    Takes (fun p => fill .zero b.header.trianglesN.toNat b.header.trianglesN.toNat
    fun _ _ => readTriangle p b.header) (b.loaded.triangles.flatMap Triangle.image)
      b.loaded.triangles := by
  obtain ⟨htriangles, htextures, -⟩ := h.small
  refine takes_table Triangle.zero ?_ fun q hq => ?_
  · show (UInt32.ofNat b.triangles.length).toNat = (b.triangles.map BakedTriangle.loaded).length
    rw [ofNat32_toNat (by omega), List.length_map]
  · obtain ⟨t, ht, rfl⟩ := List.mem_map.1 hq
    have hfits := h.triangle t ht
    have hjoint : t.joint < 26 := hfits.joint
    refine takes_readTriangle ?_ ?_ hfits.v0 hfits.v1 hfits.v2
    · show (UInt16.ofNat t.joint).toNat < FALCON_JOINTS
      rw [ofNat16_toNat (by omega)]
      exact hfits.joint
    · refine hfits.texture.imp (fun hroot => ?_) fun hlt => ?_
      · show UInt16.ofNat t.texture = FALCON_ROOT
        rw [hroot]
        rfl
      · show (UInt16.ofNat t.texture).toUInt32 < UInt32.ofNat b.allTextures.length
        rw [UInt32.lt_iff_toNat_lt, UInt16.toNat_toUInt32, ofNat16_toNat (by omega),
          ofNat32_toNat (by omega)]
        exact hlt

theorem takes_textures (h : b.Fits) :
    Takes (fun p => fill .zero b.header.texturesN.toNat b.header.texturesN.toNat
    fun _ _ => readTexture p) (b.loaded.textures.flatMap Texture.image) b.loaded.textures := by
  obtain ⟨-, htextures, -⟩ := h.small
  refine takes_table Texture.zero ?_ fun q hq => ?_
  · show (UInt32.ofNat b.allTextures.length).toNat = (b.allTextures.map BakedTexture.loaded).length
    rw [ofNat32_toNat (by omega), List.length_map]
  · obtain ⟨t, ht, rfl⟩ := List.mem_map.1 hq
    have hfits := h.texture t ht
    have hwidth := hfits.width
    have hheight := hfits.height
    have hw : t.loaded.w.toNat = t.width := ofNat16_toNat (by omega)
    have hh : t.loaded.h.toNat = t.height := ofNat16_toNat (by omega)
    refine takes_readTexture (hw ▸ hwidth) (hh ▸ hheight) ?_
    rw [hw, hh]
    exact hfits.pixels

/-- The character of a name as it is encoded. -/
theorem toNat_toUInt8 {c : Char} (h : c.toNat < 256) : c.toNat.toUInt8.toNat = c.toNat :=
  UInt8.toNat_ofNat_of_lt' h

theorem BakedAnimation.Fits.encoded {a : BakedAnimation} {n : Nat} (h : a.Fits n) :
    ∀ b ∈ a.name.map fun c => c.toNat.toUInt8, 32 ≤ b ∧ b ≤ 126 := by
  intro b hb
  obtain ⟨c, hmem, rfl⟩ := List.mem_map.1 hb
  obtain ⟨hlow, hhigh⟩ := h.name.2.2 c hmem
  rw [UInt8.le_iff_toNat_le, UInt8.le_iff_toNat_le, toNat_toUInt8 (by omega)]
  exact ⟨hlow, hhigh⟩

theorem BakedAnimation.Fits.named {a : BakedAnimation} {n : Nat} (h : a.Fits n) :
    Named a.loaded.name := by
  obtain ⟨hne, hlength, -⟩ := h.name
  exact named_nameField (fun hnil => hne (List.map_eq_nil_iff.1 hnil))
    (by rwa [List.length_map]) h.encoded

theorem BakedAnimation.Fits.cString {a : BakedAnimation} {n : Nat} (h : a.Fits n) :
    cString a.loaded.name = a.name.map fun c => c.toNat.toUInt8 :=
  cString_nameField (by rw [List.length_map]; exact h.name.2.1) h.encoded

/-- The encoding is read back. -/
theorem BakedAnimation.Fits.decoded {a : BakedAnimation} {n : Nat} (h : a.Fits n) :
    (Falcon.cString a.loaded.name).map (fun b => Char.ofNat b.toNat) = a.name := by
  rw [h.cString, List.map_map]
  refine (List.map_congr_left fun c hc => ?_).trans (List.map_id a.name)
  have hhigh := (h.name.2.2 c hc).2
  show Char.ofNat c.toNat.toUInt8.toNat = c
  rw [toNat_toUInt8 (by omega), Char.ofNat_toNat]

/-- Two names of a table differ as strings. -/
theorem names_differ {a c : BakedAnimation} {n : Nat} (ha : a.Fits n) (hc : c.Fits n)
    (hne : a.name ≠ c.name) :
    cString a.loaded.name ≠ cString c.loaded.name := by
  intro heq
  refine hne ?_
  rw [← ha.decoded, heq, hc.decoded]

theorem takes_anims (h : b.Fits) :
    Takes (fun p => fill .zero b.header.animsN.toNat b.header.animsN.toNat
    (readAnimation p b.header)) (b.loaded.anims.flatMap Animation.image) b.loaded.anims := by
  obtain ⟨-, -, hanims, htracks, -⟩ := h.small
  have hlength : b.header.animsN.toNat = (b.animations.map BakedAnimation.loaded).length := by
    show (UInt32.ofNat b.animations.length).toNat = _
    rw [ofNat32_toNat (by omega), List.length_map]
  have hfill :=
    takes_fill Animation.zero b.header.animsN.toNat (fun p => readAnimation p b.header)
    Animation.image
    (Nat.le_of_eq hlength.symm) fun front x back hxs rest _ => by
      obtain ⟨fronts, tail, hsplit, hfront, htail⟩ := List.map_eq_append_iff.1 hxs
      obtain ⟨a, backs, rfl, ha, -⟩ := List.map_eq_cons_iff.1 htail
      have hmem : a ∈ b.animations := by rw [hsplit]; simp
      have hfits := h.animation a hmem
      have hfresh : ∀ other ∈ front, cString x.name ≠ cString other.name := by
        intro other hother
        rw [← hfront] at hother
        obtain ⟨c, hc, rfl⟩ := List.mem_map.1 hother
        have hnodup := h.names
        rw [hsplit, List.map_append, List.map_cons, List.nodup_append] at hnodup
        rw [← ha]
        refine names_differ hfits
          (h.animation c (by rw [hsplit]; exact List.mem_append_left _ hc)) fun heq => ?_
        exact hnodup.2.2 c.name (List.mem_map_of_mem hc) a.name List.mem_cons_self heq.symm
      subst ha
      refine takes_readAnimation (h := b.header) hfits.named hfits.duration.1 hfits.duration.2 ?_
        (rangeOk_ofNat hfits.range (by omega)) hfresh
      show (if a.loop then (1 : UInt32) else 0) ≤ 1
      split <;> decide
  rw [hlength, Nat.sub_self, List.replicate_zero, List.append_nil] at hfill
  rw [hlength]
  exact hfill

theorem BakedTrack.Fits.loaded (h : b.Fits) {t : BakedTrack} (ht : t.Fits b.segments) :
    TrackOk b.header t.loaded := by
  obtain ⟨-, -, -, -, hsegments⟩ := h.small
  have hkind := ht.kind
  have hrange := ht.range
  refine ⟨ht.joint.imp (fun hlt => ?_) fun hroot => ?_, ?_, ?_, ?_⟩
  · have hsmall : FALCON_JOINTS = 26 := rfl
    show (UInt16.ofNat t.joint).toNat < FALCON_JOINTS
    rw [ofNat16_toNat (by omega)]
    exact hlt
  · show UInt16.ofNat t.joint = FALCON_ROOT
    rw [hroot]
    rfl
  · show (UInt16.ofNat t.kind).toNat ≤ 8
    rw [ofNat16_toNat (by omega)]
    exact hkind
  · show 0 < (UInt32.ofNat t.segmentCount).toNat
    rw [ofNat32_toNat (by omega)]
    exact ht.count
  · show (UInt32.ofNat t.firstSegment).toNat + (UInt32.ofNat t.segmentCount).toNat ≤
      (UInt32.ofNat b.segments.length).toNat
    rw [ofNat32_toNat (by omega), ofNat32_toNat (by omega), ofNat32_toNat (by omega)]
    exact hrange

theorem takes_tracks (h : b.Fits) :
    Takes (fun p => fill .zero (allocated b.header.tracksN) b.header.tracksN.toNat
    fun _ _ => readTrack p b.header) ((b.tracks.map BakedTrack.loaded).flatMap Track.image)
      b.loaded.tracks := by
  obtain ⟨-, -, -, htracks, -⟩ := h.small
  refine takes_padded Track.zero ?_ fun q hq => ?_
  · show (UInt32.ofNat b.tracks.length).toNat = (b.tracks.map BakedTrack.loaded).length
    rw [ofNat32_toNat (by omega), List.length_map]
  · obtain ⟨t, ht, rfl⟩ := List.mem_map.1 hq
    exact takes_readTrack (BakedTrack.Fits.loaded h (h.track t ht))

theorem takes_segments (h : b.Fits) :
    Takes (fun p => fill .zero (allocated b.header.segmentsN) b.header.segmentsN.toNat
    fun _ _ => readSegment p) (b.segments.flatMap Segment.image) b.loaded.segments := by
  obtain ⟨-, -, -, -, hsegments⟩ := h.small
  exact takes_padded Segment.zero (ofNat32_toNat (by omega)) fun q hq =>
    takes_readSegment (h.segment q hq)

/-- The walk takes the bytes behind the version and delivers the tables they stand for. -/
theorem takes_readTables (h : b.Fits) : Takes readTables b.body b.loaded := by
  have hrest := (takes_tracks h).bind (f := fun tracks p =>
    fill .zero (allocated b.header.segmentsN) b.header.segmentsN.toNat
      (fun _ _ => readSegment p) >>= fun segments =>
      pure (⟨b.header, b.loaded.joints, b.loaded.triangles, b.loaded.textures, b.loaded.anims,
        tracks, segments⟩ :
        FalconPresentation)) ((takes_segments h).bind (Takes.pure _))
  rw [List.append_nil] at hrest
  unfold readTables Baked.body
  exact (takes_readHeader h.header).bind <| (takes_joints h).bind <| (takes_triangles h).bind <|
    (takes_textures h).bind <| (takes_anims h).bind hrest

/-! ## The loader on what was written -/

/-- The corners of the bind pose do not lie flat. -/
def Tall {M : Type} (g : Geometry M) (p : FalconPresentation) : Prop :=
  ∃ pose world all, bindPose p = .ok pose ∧ matrices g p pose = .ok world ∧
    corners g p world = .ok all ∧
    g.flat all = false

theorem length_padded {α : Type} {zero : α} {xs : List α} {n : UInt32} (h : n.toNat = xs.length) :
    (padded zero xs).length = allocated n := by
  have hroom := le_allocated n
  rw [padded_eq h, List.length_append, List.length_replicate]
  omega

theorem padded_getElem? {α : Type} {zero a : α} {xs : List α} {i : Nat} (hi : i < xs.length)
    (h : (padded zero xs)[i]? = some a) :
    xs[i]? = some a := by
  have hne : xs ≠ [] := List.ne_nil_of_length_pos (Nat.lt_of_le_of_lt (Nat.zero_le i) hi)
  rwa [padded, if_neg hne] at h

theorem getElem?_padded {α : Type} (zero : α) {a : α} {xs : List α} {i : Nat}
    (h : xs[i]? = some a) :
    (padded zero xs)[i]? = some a := by
  have hne : xs ≠ [] := by
    rintro rfl
    cases h
  rwa [padded, if_neg hne]

theorem Baked.Fits.shape (h : b.Fits) : Shape b.loaded := by
  obtain ⟨htriangles, htextures, hanims, htracks, hsegments⟩ := h.small
  have hfive := h.textures_length
  refine ⟨?_, ?_, ?_, ?_, ?_, ?_, ?_, ?_⟩
  · exact (List.length_map ..).trans h.joints
  · exact (List.length_map ..).trans (ofNat32_toNat (by omega)).symm
  · exact (List.length_map ..).trans (ofNat32_toNat (by omega)).symm
  · exact (List.length_map ..).trans (ofNat32_toNat (by omega)).symm
  · refine length_padded ?_
    rw [List.length_map]
    exact ofNat32_toNat (by omega)
  · exact length_padded (ofNat32_toNat (by omega))
  · intro q hq
    obtain ⟨t, ht, rfl⟩ := List.mem_map.1 hq
    have hfits := h.texture t ht
    have hwidth := hfits.width
    have hheight := hfits.height
    have hw : t.loaded.w.toNat = t.width := ofNat16_toNat (by omega)
    have hh : t.loaded.h.toNat = t.height := ofNat16_toNat (by omega)
    exact ⟨hw ▸ hwidth.1, hh ▸ hheight.1, by rw [hw, hh]; exact hfits.pixels⟩
  · show (UInt32.ofNat b.textures.length).toNat + 5 ≤ (UInt32.ofNat b.allTextures.length).toNat
    rw [ofNat32_toNat (by omega), ofNat32_toNat (by omega)]
    omega

/-- A counted track of the table is one that was baked. -/
theorem Baked.Fits.track_loaded (h : b.Fits) {i : Nat} (hi : i < b.header.tracksN.toNat) {t : Track}
    (ht : b.loaded.tracks[i]? = some t) : ∃ baked : BakedTrack, baked.Fits b.segments ∧
    t = baked.loaded := by
  obtain ⟨-, -, -, htracks, -⟩ := h.small
  have hcount : b.header.tracksN.toNat = b.tracks.length := ofNat32_toNat (by omega)
  have hin : i < (b.tracks.map BakedTrack.loaded).length := by rwa [List.length_map, ← hcount]
  have hmap := padded_getElem? hin ht
  rw [List.getElem?_map] at hmap
  obtain ⟨baked, hbaked, rfl⟩ := Option.map_eq_some_iff.1 hmap
  exact ⟨baked, h.track baked (List.mem_of_getElem? hbaked), rfl⟩

theorem Baked.Fits.sound (h : b.Fits) : Sound b.loaded := by
  obtain ⟨-, htextures, -, htracks, -⟩ := h.small
  refine ⟨fun i joint hi => ?_, fun q hq => ?_, fun a ha => ?_, fun i hi t ht => ?_⟩
  · obtain ⟨j, hj, rfl⟩ := Option.map_eq_some_iff.1 ((List.getElem?_map ..).symm.trans hi)
    exact (h.joint i j hj).parent
  · obtain ⟨t, ht, rfl⟩ := List.mem_map.1 hq
    have hfits := h.triangle t ht
    have hjoint : t.joint < 26 := hfits.joint
    refine ⟨?_, hfits.texture.imp (fun hroot => ?_) fun hlt => ?_⟩
    · show (UInt16.ofNat t.joint).toNat < FALCON_JOINTS
      rw [ofNat16_toNat (by omega)]
      exact hjoint
    · show UInt16.ofNat t.texture = FALCON_ROOT
      rw [hroot]
      rfl
    · show (UInt16.ofNat t.texture).toNat < (UInt32.ofNat b.allTextures.length).toNat
      rw [ofNat16_toNat (by omega), ofNat32_toNat (by omega)]
      exact hlt
  · obtain ⟨c, hc, rfl⟩ := List.mem_map.1 ha
    have hrange := (h.animation c hc).range
    show (UInt32.ofNat c.firstTrack).toNat + (UInt32.ofNat c.trackCount).toNat ≤
      (UInt32.ofNat b.tracks.length).toNat
    rw [ofNat32_toNat (by omega), ofNat32_toNat (by omega), ofNat32_toNat (by omega)]
    exact hrange
  · obtain ⟨baked, hfits, rfl⟩ := h.track_loaded hi ht
    exact hfits.loaded h

/-- The frames of the segments were in order when they were baked. -/
theorem Baked.Fits.wellFormed (h : b.Fits) : WellFormed b.loaded := by
  refine ⟨h.shape, h.sound, fun i hi t ht => ?_⟩
  obtain ⟨baked, hfits, rfl⟩ := h.track_loaded hi ht
  obtain ⟨-, -, -, -, hsegments⟩ := h.small
  have hrange := hfits.range
  have hfirst : baked.loaded.first.toNat = baked.firstSegment := ofNat32_toNat (by omega)
  have hcount : baked.loaded.count.toNat = baked.segmentCount := ofNat32_toNat (by omega)
  intro j hone hj
  rw [hcount] at hj
  obtain ⟨before, here, hbefore, hhere, horder⟩ := hfits.ordered j hone hj
  refine ⟨before, here, ?_, ?_, horder⟩
  · rw [hfirst]
    exact getElem?_padded Segment.zero hbefore
  · rw [hfirst]
    exact getElem?_padded Segment.zero hhere

/-- What is in order passes the check. -/
theorem check_of_wellFormed {p : FalconPresentation} (hp : WellFormed p) :
    (List.range p.tracksN.toNat).all (trackInOrder p) = true := by
  rw [List.all_eq_true]
  intro i hi
  obtain ⟨t, ht⟩ := exists_track hp.toShape (List.mem_range.1 hi)
  unfold trackInOrder
  rw [ht]
  dsimp only
  rw [List.all_eq_true]
  intro j hj
  obtain ⟨hone, hless⟩ := List.mem_range'_1.1 hj
  have hsmall := p.segmentsN.toNat_lt
  have hrange := (hp.track i (List.mem_range.1 hi) t ht).range
  obtain ⟨before, here, hbefore, hhere, horder⟩ :=
    hp.ordered i (List.mem_range.1 hi) t ht j hone (by omega)
  unfold inOrder
  rw [toNat_index (by omega), toNat_index_before hone (by omega), hhere, hbefore]
  dsimp only
  rw [horder]
  rfl

theorem tablesOf_body (h : b.Fits)
    (hsize : (FALCON_MAGIC ++ (le32 FALCON_VERSION ++ b.body)).length ≤ MAX_BLOB_BYTES) :
    tablesOf (FALCON_MAGIC ++ (le32 FALCON_VERSION ++ b.body)) =
      .ok (b.loaded, ⟨(FALCON_MAGIC ++ (le32 FALCON_VERSION ++ b.body)).length, true⟩) := by
  have hmagic : readBytes (FALCON_MAGIC ++ (le32 FALCON_VERSION ++ b.body)) 8 ⟨0, true⟩ =
      .ok (some FALCON_MAGIC, ⟨FALCON_MAGIC.length, true⟩) :=
    takes_readBytes (rfl : FALCON_MAGIC.length = 8) [] (le32 FALCON_VERSION ++ b.body)
  have hversion := takes_read32 FALCON_VERSION FALCON_MAGIC b.body
  have htables := takes_readTables h (FALCON_MAGIC ++ le32 FALCON_VERSION) []
  rw [List.append_nil, List.append_assoc, ← List.length_append, List.append_assoc] at htables
  rw [← List.length_append] at hversion
  have hlong : ¬ ((FALCON_MAGIC ++ (le32 FALCON_VERSION ++ b.body)).length < 44 ∨
      (FALCON_MAGIC ++ (le32 FALCON_VERSION ++ b.body)).length > MAX_BLOB_BYTES) := by
    have hheader : b.header.image.length = 32 := rfl
    have height : FALCON_MAGIC.length = 8 := rfl
    rintro (hshort | hmore)
    · unfold Baked.body at hshort
      rw [List.length_append, List.length_append, List.length_append, le32_length] at hshort
      omega
    · exact absurd hmore (Nat.not_lt.2 hsize)
  unfold tablesOf
  rw [refuseIf_neg hlong, ok_bind]
  rw [hmagic, ok_bind]
  dsimp only
  rw [refuseIf_neg (fun hne => hne rfl), ok_bind, hversion, ok_bind]
  dsimp only
  rw [refuseIf_neg (fun hne => hne rfl), ok_bind]
  exact htables

/-- What is written within the limits is read back, and refused only for the height of the model. -/
theorem parse_body {M : Type} {g : Geometry M} {b : Baked} (h : b.Fits)
    (hsize : (FALCON_MAGIC ++ (le32 FALCON_VERSION ++ b.body)).length ≤ MAX_BLOB_BYTES) :
    ∃ pose world all, bindPose b.loaded = .ok pose ∧ matrices g b.loaded pose = .ok world ∧
      corners g b.loaded world = .ok all ∧
      parse g (FALCON_MAGIC ++ (le32 FALCON_VERSION ++ b.body)) =
        refuseIf (g.flat all = true) >>= fun _ => Except.ok b.loaded := by
  have hp := h.wellFormed
  obtain ⟨pose, hpose, hposed⟩ := bindPose_ok hp.toShape
  obtain ⟨world, hworld, hlen⟩ := matrices_ok (g := g) hp hposed
  obtain ⟨all, hall⟩ := corners_ok (g := g) hp hlen
  refine ⟨pose, world, all, hpose, hworld, hall, ?_⟩
  unfold parse
  rw [tablesOf_body h hsize, ok_bind]
  dsimp only
  rw [orderTracks_of_fits hp.toShape fun i hi t ht =>
    .inr (rangeOk_iff.2 (hp.track i hi t ht).range), ok_bind,
    check_of_wellFormed hp,
    refuseIf_neg (fun hbad => hbad.elim Bool.noConfusion fun hne => hne rfl), ok_bind, hpose,
    ok_bind, hworld, ok_bind, hall, ok_bind]
  rfl

/-- A model is tall by the one way there is to place its corners. -/
theorem tall_iff {M : Type} {g : Geometry M} {p : FalconPresentation} {pose : Pose} {world : List M}
    {all : List V3}
    (hpose : bindPose p = .ok pose) (hworld : matrices g p pose = .ok world)
    (hall : corners g p world = .ok all) :
    Tall g p ↔ ¬ g.flat all = true := by
  constructor
  · rintro ⟨pose', world', all', hpose', hworld', hall', htall⟩
    cases hpose.symm.trans hpose'
    cases hworld.symm.trans hworld'
    cases hall.symm.trans hall'
    rw [htall]
    exact Bool.noConfusion
  · intro htall
    exact ⟨pose, world, all, hpose, hworld, hall, Bool.not_eq_true _ ▸ htall⟩

/-- What is written within the limits is loaded as it was baked, exactly when the file is not too
long and the model does not lie flat; it is loaded as nothing else. -/
theorem written_blob_loads {M : Type} (g : Geometry M) (b : Baked) (h : b.Fits) :
    ∃ data, writeBlob b = some data ∧
      ∀ q, parse g data = .ok q ↔ q = b.loaded ∧ data.length ≤ MAX_BLOB_BYTES ∧
      Tall g b.loaded := by
  refine ⟨_, writeBlob_eq h, fun q => ?_⟩
  by_cases hsize : (FALCON_MAGIC ++ (le32 FALCON_VERSION ++ b.body)).length ≤ MAX_BLOB_BYTES
  · obtain ⟨pose, world, all, hpose, hworld, hall, hparse⟩ := parse_body (g := g) h hsize
    rw [hparse, tall_iff hpose hworld hall]
    by_cases hflat : g.flat all = true
    · rw [refuseIf_pos hflat, error_bind]
      refine ⟨fun hload => ?_, fun hgood => absurd hflat hgood.2.2⟩
      cases hload
    · rw [refuseIf_neg hflat, ok_bind]
      exact ⟨fun hload => ⟨(Except.ok.inj hload).symm, hsize, hflat⟩,
        fun hgood => congrArg Except.ok hgood.1.symm⟩
  · refine ⟨fun hload => ?_, fun hgood => absurd hgood.2.1 hsize⟩
    unfold parse tablesOf at hload
    rw [refuseIf_pos (Or.inr (Nat.lt_of_not_le hsize)), error_bind, error_bind] at hload
    cases hload

end Load

/-! A model of one upright triangle that waits. -/

def atRest : V3 := ⟨0, 0, 0⟩

def unscaled : V3 := ⟨0x3f800000, 0x3f800000, 0x3f800000⟩

def waitingModel : Baked where
  joints :=
    ⟨none, atRest, atRest, unscaled, 0, 1⟩ :: List.replicate 25
    ⟨some 0, atRest, atRest, unscaled, 1, 0⟩
  triangles := [⟨0, 0xffff, ⟨atRest, 0, 0⟩, ⟨⟨0, 0x40000000, 0⟩, 0, 0⟩, ⟨⟨0x40000000, 0, 0⟩, 0, 0⟩⟩]
  textures := []
  effectTextures := List.replicate 3 ⟨1, 1, [0, 0, 0, 0]⟩
  kickEffectTextures := List.replicate 2 ⟨1, 1, [0, 0, 0, 0]⟩
  animations := [⟨['W', 'a', 'i', 't'], 0x3f800000, true, 0, 1⟩]
  tracks := [⟨0, 4, 0, 2⟩]
  segments := [⟨0, 0x3f800000, 0, 0x3f800000, 0, 0, 1⟩, ⟨0x3f800000, 0, 0x3f800000, 0, 0, 0, 1⟩]

/-- The float arithmetic where no joint moves anything. -/
def stillGeometry : Geometry Unit where
  transform := fun _ _ _ => ()
  mul := fun _ _ => ()
  point := fun _ v => v
  flat := fun corners => decide (∀ c ∈ corners, ∀ d ∈ corners, c.y = d.y)

theorem waitingModel_fits : waitingModel.Fits where
  joints := rfl
  triangles := by decide
  textures := by decide
  effects := by decide
  animations := by decide
  tracks := by decide
  segments := by decide
  names := by decide
  joint := by
    rintro (_ | i) j hj
    · cases hj
      exact ⟨by decide, by decide, by decide, by decide, by decide⟩
    · have hlimb :=
        List.eq_of_mem_replicate (List.mem_of_getElem? (List.getElem?_cons_succ.symm.trans hj))
      subst hlimb
      exact ⟨⟨by decide,
        Int.natCast_pos.2 (Nat.succ_pos i)⟩, by decide, by decide, by decide, by decide⟩
  triangle := by
    rintro q hq
    rw [List.mem_singleton.1 hq]
    exact ⟨by decide, by decide, by decide, by decide, by decide⟩
  texture := by
    intro q hq
    have hq : q = ⟨1, 1, [0, 0, 0, 0]⟩ := by
      rcases List.mem_append.1 hq with hq | hq
      · exact List.eq_of_mem_replicate hq
      · exact List.eq_of_mem_replicate hq
    subst hq
    exact ⟨by decide, by decide, rfl⟩
  animation := by
    intro a ha
    rw [List.mem_singleton.1 ha]
    refine ⟨⟨List.cons_ne_nil _ _, by decide, ?_⟩, by decide, by decide⟩
    simp
  track := by
    intro t ht
    rw [List.mem_singleton.1 ht]
    refine ⟨by decide, by decide, by decide, by decide, fun j hone htwo => ?_⟩
    have hj : j = 1 := Nat.le_antisymm (Nat.le_of_lt_succ htwo) hone
    subst hj
    exact ⟨_, _, rfl, rfl, by decide⟩
  segment := by
    intro s hs
    rcases List.mem_pair.1 hs with rfl | rfl
    · exact ⟨by decide, by decide, by decide, by decide, by decide, by decide, by decide⟩
    · exact ⟨by decide, by decide, by decide, by decide, by decide, by decide, by decide⟩

theorem waitingModel_tall : Tall stillGeometry waitingModel.loaded := ⟨_, _, _, rfl, rfl, rfl, rfl⟩

theorem waitingModel_loads : ∃ data, writeBlob waitingModel = some data ∧ parse stillGeometry data =
    .ok waitingModel.loaded := by
  obtain ⟨data, hdata, hload⟩ := written_blob_loads stillGeometry waitingModel waitingModel_fits
  refine ⟨data, hdata, (hload _).2 ⟨rfl, ?_, waitingModel_tall⟩⟩
  rw [writeBlob_eq waitingModel_fits] at hdata
  cases hdata
  decide +kernel

end SmwRecomp.Falcon
