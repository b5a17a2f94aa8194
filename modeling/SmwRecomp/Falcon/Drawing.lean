import SmwRecomp.Falcon.Presentation
import Mathlib.Algebra.Order.Ring.Int

/-!
# Drawing from the presentation tables

`src/src/mods/falcon/falcon_presentation.c`: what samples and draws an accepted blob.

* `Canvas` — what the drawing computes in floats.
* `sample`, `rootDelta`, `draw` — each access to a table, to the pixels of a texture and to the
  framebuffer is checked.
* `Drawable` — no access leaves its table.
* `load_in_bounds_iff` — the loader and what draws from its tables stay inside iff the tracks fit.
-/

set_option autoImplicit false

namespace SmwRecomp.Falcon

open Flagged

/-! ## Poses and targets -/

inductive FalconPresentationState where
  | idle
  | walk
  | run
  | jump
  | fall
  | punch
  | kick
  | kickAir
  | dive
  | diveCatch
  | diveThrow
  | jab
  | ftilt
  | nair
  | fair
  | bair
  | dair
  deriving DecidableEq

/-- `FalconPresentationPose`. -/
structure PresentationPose where
  state : FalconPresentationState
  frame : F32
  facingRight : Bool

/-- `FalconPresentationTarget`, without its framebuffer. -/
structure PresentationTarget where
  width : Int
  height : Int
  pitchPixels : Int
  anchorX : F32
  anchorY : F32
  scale : F32
  yawDegrees : F32
  tumbleRadians : F32
  tumbleCenterY : F32

/-- `PV`. -/
structure PV where
  x : F32
  y : F32
  z : F32
  u : F32
  v : F32

/-- Three corners on the screen. -/
structure Face where
  a : PV
  b : PV
  c : PV

def FALCON_PRESENT_JOINT_PUNCH_HAND : Nat := 13
def FALCON_PRESENT_JOINT_KICK_EFFECT : Nat := 19

/-- What the drawing computes in floats. -/
structure Canvas (M : Type) extends Geometry M where
  sub : F32 → F32 → F32
  fmod : F32 → F32 → F32
  /-- The curve of kind 1 at `e`. -/
  linear : Segment → F32 → F32
  /-- The curve of kind 2 at `e`. -/
  hermite : Segment → F32 → F32
  /-- `(y - py) * 1.05f`. -/
  rootStep : F32 → F32 → F32
  /-- `stable_projected_scale`, of the corners of the bind pose. -/
  stableScale : PresentationTarget → List V3 → F32
  /-- A corner on the screen, given all corners, the scale and the facing. -/
  project : PresentationTarget → List V3 → F32 → Bool → V3 → F32 → F32 → PV
  /-- A joint on the screen. -/
  screen : PresentationTarget → List V3 → F32 → Bool → M → F32 × F32
  depth : Face → F32
  /-- The rounded box of a face, unless its area is too small. -/
  span : Face → Option (Int × Int × Int × Int)
  /-- The rounded texture coordinates at a pixel, if the face covers it. -/
  texel : Face → Int → Int → Option (Int × Int)
  /-- `(unsigned)frame`. -/
  toUnsigned : F32 → UInt32
  /-- The faces of an effect card at a joint. -/
  card : PresentationPose → PresentationTarget → F32 × F32 → Texture → List Face
  /-- The colours and faces of `dive_particles`. -/
  particles : PresentationPose → PresentationTarget → List (UInt32 × List Face)

variable {M : Type} (g : Canvas M) (p : FalconPresentation)

/-! ## Animations -/

/-- `find`. -/
def findAnim (name : Bytes) : Except Stop (Option Animation) :=
  firstAnswer (fun i => do
    let a ← entry p.anims i
    return if cString a.name = name then some a else none) (List.range p.animsN.toNat)

/-- One turn of the loop of `sample`; nothing is a `continue`. -/
def sampleAt (t : Track) (frame : F32) (i : Nat) : Except Stop (Option F32) := do
  let q ← entry p.segments (t.first.toNat + i)
  if f32Lt frame q.frame then
    if i ≠ 0 then
      let before ← entry p.segments (t.first.toNat + i - 1)
      return some before.target
    else return some q.base
  else if f32Le q.duration 0 then return none
  else
    let e := g.sub frame q.frame
    return if f32Le e q.duration then
      some (if q.kind = 1 then g.linear q e
        else if q.kind = 2 then g.hermite q e
        else if q.kind = 3 ∧ f32Le q.duration e then q.target else q.base)
    else none

/-- `sample`. -/
def sample (t : Track) (frame : F32) : Except Stop F32 := do
  let s ← entry p.segments t.first.toNat
  if f32Le frame s.frame then return s.base
  match ← firstAnswer (sampleAt g p t frame) (List.range t.count.toNat) with
  | some v => return v
  | none =>
    let last ← entry p.segments (t.first.toNat + (t.count - 1).toNat)
    return last.target

/-- What `falcon_presentation_root_delta` has found of the root: `y`, `z`, each with the frame
before. -/
abbrev RootFound := Option (F32 × F32) × Option (F32 × F32)

/-- A turn of its loop. -/
def rootAt (a : Animation) (frame old : F32) (found : RootFound) (i : Nat) :
    Except Stop RootFound := do
  let t ← entry p.tracks (a.first.toNat + i)
  if t.joint ≠ FALCON_ROOT then return found
  if t.kind = 4 ∨ t.kind = 5 then
    let here ← sample g p t frame
    let before ← sample g p t old
    return if t.kind = 4 then (some (here, before), found.2) else (found.1, some (here, before))
  else return found

/-- `falcon_presentation_root_delta`; `old` is the frame before. -/
def rootDelta (name : Bytes) (frame old : F32) : Except Stop (Option (F32 × F32)) := do
  match ← findAnim p name with
  | none => return none
  | some a =>
    let frame := if f32Lt a.duration frame then a.duration else frame
    let old := if f32Lt a.duration old then a.duration else old
    let found ← (List.range a.count.toNat).foldlM (rootAt g p a frame old) (none, none)
    let step (o : Option (F32 × F32)) : F32 := (o.map fun v => g.rootStep v.1 v.2).getD 0
    return if found.1.isNone ∧ found.2.isNone then none else some (step found.1, step found.2)

/-- The bytes of a string literal. -/
def literal (s : String) : Bytes := s.toList.map fun c => UInt8.ofNat c.toNat

/-- `falcon_presentation_animation`. -/
def presentationAnimation : FalconPresentationState → Bytes
  | .walk => literal "Walk2"
  | .run => literal "Run"
  | .jump => literal "JumpF"
  | .fall => literal "Fall"
  | .punch => literal "FalconPunchGround"
  | .kick => literal "DownSpecial"
  | .kickAir => literal "DownSpecialAir"
  | .dive => literal "FalconDive"
  | .diveCatch => literal "CatchingEnemyWhileDiving"
  | .diveThrow => literal "FalconDiveEnd1"
  | .jab => literal "Jab1"
  | .ftilt => literal "AttackS3"
  | .nair => literal "AttackAirN"
  | .fair => literal "AttackAirF"
  | .bair => literal "AttackAirB"
  | .dair => literal "AttackAirD"
  | .idle => literal "Wait"

/-- The animation of a pose, or `Wait`. -/
def animationOf (pose : PresentationPose) : Except Stop (Option Animation) := do
  match ← findAnim p (presentationAnimation pose.state) with
  | some a => return some a
  | none => findAnim p (literal "Wait")

/-- `v[k] = x`. -/
def V3.put (v : V3) (k : Nat) (x : F32) : Except Stop V3 :=
  match k with
  | 0 => .ok { v with x := x }
  | 1 => .ok { v with y := x }
  | 2 => .ok { v with z := x }
  | _ => .error .outOfBounds

/-- `table[joint][k] = x`. -/
def putAxis (table : List V3) (joint k : Nat) (x : F32) : Except Stop (List V3) := do
  let v ← entry table joint
  let v ← v.put k x
  putEntry table joint v

/-- A track moves its joint. -/
def animateAt (a : Animation) (frame : F32) (pose : Pose) (i : Nat) : Except Stop Pose := do
  let q ← entry p.tracks (a.first.toNat + i)
  let v ← sample g p q frame
  if q.joint = FALCON_ROOT then return pose
  if q.kind < 3 then
    let r ← putAxis pose.r q.joint.toNat q.kind.toNat v
    return { pose with r := r }
  else if q.kind < 6 then
    let t ← putAxis pose.t q.joint.toNat (q.kind.toNat - 3) v
    return { pose with t := t }
  else
    let s ← putAxis pose.s q.joint.toNat (q.kind.toNat - 6) v
    return { pose with s := s }

/-- The bind pose moved to a frame of the animation. -/
def animate (a : Animation) (frame : F32) : Except Stop Pose := do
  let pose ← bindPose p
  let frame := if a.loop ≠ 0 ∧ f32Lt 0 a.duration then g.fmod frame a.duration
    else if f32Lt a.duration frame then a.duration else frame
  (List.range a.count.toNat).foldlM (animateAt g p a frame) pose

/-! ## The mesh -/

/-- `stable_projected_scale`. -/
def stableProjectedScale (target : PresentationTarget) : Except Stop F32 := do
  let pose ← bindPose p
  let world ← matrices g.toGeometry p pose
  let all ← corners g.toGeometry p world
  return g.stableScale target all

/-- `falcon_presentation_joint_screen_position`. -/
def jointScreenPosition (pose : PresentationPose) (target : PresentationTarget) (joint : Nat) :
    Except Stop (Option (F32 × F32)) := do
  if FALCON_JOINTS ≤ joint then return none
  match ← animationOf p pose with
  | none => return none
  | some a =>
    let posed ← animate g p a pose.frame
    let world ← matrices g.toGeometry p posed
    let all ← corners g.toGeometry p world
    let scale ← stableProjectedScale g p target
    if f32Le scale 0 then return none
    let m ← entry world joint
    return some (g.screen target all scale pose.facingRight m)

/-- `DrawTriangle`. -/
structure DrawTriangle where
  face : Face
  texture : Texture
  depth : F32

/-- The texture of a triangle, or the grey one. -/
def textureOf (q : Triangle) : Except Stop Texture :=
  if q.texture = FALCON_ROOT then .ok ⟨1, 1, le32 0xff3060c8⟩ else entry p.textures q.texture.toNat

/-- The face of a triangle. -/
def drawTriangle (pose : PresentationPose) (target : PresentationTarget) (world : List M)
    (all : List V3) (scale : F32) (i : Nat) : Except Stop DrawTriangle := do
  let q ← entry p.triangles i
  let texture ← textureOf p q
  let m ← entry world q.joint.toNat
  let corner (v : Vertex) : PV :=
    g.project target all scale pose.facingRight (g.point m v.p) v.u v.v
  let face : Face := ⟨corner q.v0, corner q.v1, corner q.v2⟩
  return ⟨face, texture, g.depth face⟩

/-- The inner loop of the sort; the sorted part is seen from its end. -/
def insertDraw (key : DrawTriangle) : List DrawTriangle → List DrawTriangle
  | [] => [key]
  | d :: sorted => if f32Lt d.depth key.depth then d :: insertDraw key sorted
      else key :: d :: sorted

/-- The insertion sort: farther faces first, equal ones in the order of the blob. -/
def painterOrder (draws : List DrawTriangle) : List DrawTriangle :=
  (draws.foldl (fun sorted key => insertDraw key sorted) []).reverse

/-! ## Pixels -/

/-- `over`; one channel. -/
def overChannel (d s shift : UInt32) : UInt32 :=
  let a := s >>> 24
  ((s >>> shift &&& 255) * a + (d >>> shift &&& 255) * (255 - a) + 127) / 255

/-- `over`. -/
def overPixel (d s : UInt32) : UInt32 :=
  (0xff000000 : UInt32) ||| (overChannel d s 16 <<< 16) ||| (overChannel d s 8 <<< 8) |||
    overChannel d s 0

/-- `if (v < 0) v = 0; if (v >= n) v = n - 1;`. -/
def clampIndex (v n : Int) : Int :=
  let v := if v < 0 then 0 else v
  if v ≥ n then n - 1 else v

/-- The integers from `first` to `last`. -/
def upTo (first last : Int) : List Int :=
  (List.range (last - first + 1).toNat).map fun (i : Nat) => first + i

/-- A pixel of `tri`. -/
def triPixel (target : PresentationTarget) (texture : Texture) (face : Face)
    (framebuffer : List UInt32) (xy : Int × Int) : Except Stop (List UInt32) := do
  match g.texel face xy.1 xy.2 with
  | none => return framebuffer
  | some (u, v) =>
    let tx := clampIndex u texture.w.toNat
    let ty := clampIndex v texture.h.toNat
    let q ← fetch32 texture.pixels (4 * (ty * texture.w.toNat + tx)).toNat
    if q >>> 24 = 0 then return framebuffer
    let i := (xy.2 * target.pitchPixels + xy.1).toNat
    let d ← entry framebuffer i
    putEntry framebuffer i (overPixel d q)

/-- The pixels of the part of a box that is on the target, row by row. -/
def triPixels (target : PresentationTarget) (box : Int × Int × Int × Int) : List (Int × Int) :=
  let x0 := if box.1 < 0 then 0 else box.1
  let x1 := if box.2.1 ≥ target.width then target.width - 1 else box.2.1
  let y0 := if box.2.2.1 < 0 then 0 else box.2.2.1
  let y1 := if box.2.2.2 ≥ target.height then target.height - 1 else box.2.2.2
  (upTo y0 y1).flatMap fun y => (upTo x0 x1).map fun x => (x, y)

/-- `tri`. -/
def tri (target : PresentationTarget) (texture : Texture) (framebuffer : List UInt32)
    (face : Face) :
    Except Stop (List UInt32) :=
  match g.span face with
  | none => .ok framebuffer
  | some box => (triPixels target box).foldlM (triPixel g target texture face) framebuffer

def tris (target : PresentationTarget) (texture : Texture) (framebuffer : List UInt32)
    (faces : List Face) : Except Stop (List UInt32) :=
  faces.foldlM (tri g target texture) framebuffer

/-! ## Effects -/

/-- 12, 32, 42 and 55 as floats. -/
def f32Twelve : F32 := 0x41400000
def f32ThirtyTwo : F32 := 0x42000000
def f32FortyTwo : F32 := 0x42280000
def f32FiftyFive : F32 := 0x425c0000

/-- `first <= frame && frame < last`. -/
def frameIn (frame first last : F32) : Bool := f32Le first frame ∧ f32Lt frame last

/-- A card of an effect texture at a joint. -/
def effectCard (pose : PresentationPose) (target : PresentationTarget) (joint : Nat)
    (index : UInt32)
    (framebuffer : List UInt32) : Except Stop (List UInt32) := do
  let q ← entry p.textures index.toNat
  match ← jointScreenPosition g p pose target joint with
  | none => return framebuffer
  | some xy => tris g target q framebuffer (g.card pose target xy q)

/-- A particle is a card of one pixel. -/
def particleCard (target : PresentationTarget) (framebuffer : List UInt32)
    (particle : UInt32 × List Face) : Except Stop (List UInt32) :=
  tris g target ⟨1, 1, le32 particle.1⟩ framebuffer particle.2

/-- `effect`. -/
def effect (pose : PresentationPose) (target : PresentationTarget) (framebuffer : List UInt32) :
    Except Stop (List UInt32) :=
  if pose.state = .punch ∧ frameIn pose.frame f32FortyTwo f32FiftyFive then
    effectCard g p pose target FALCON_PRESENT_JOINT_PUNCH_HAND
      (p.punchFirst + (g.toUnsigned pose.frame - 42) % 3) framebuffer
  else if (pose.state = .kick ∨ pose.state = .kickAir) ∧
      frameIn pose.frame f32Twelve f32ThirtyTwo then
    effectCard g p pose target FALCON_PRESENT_JOINT_KICK_EFFECT
      (p.punchFirst + 3 + (g.toUnsigned pose.frame - 12) % 2) framebuffer
  else (g.particles pose target).foldlM (particleCard g target) framebuffer

/-- `falcon_presentation_draw`; nothing stands for the answer 0. -/
def draw (pose : PresentationPose) (target : PresentationTarget) (framebuffer : List UInt32) :
    Except Stop (Option (List UInt32)) := do
  if target.width ≤ 0 ∨ target.height ≤ 0 ∨ target.pitchPixels < target.width then return none
  match ← animationOf p pose with
  | none => return none
  | some a =>
    let posed ← animate g p a pose.frame
    let world ← matrices g.toGeometry p posed
    let all ← corners g.toGeometry p world
    let scale ← stableProjectedScale g p target
    if f32Le scale 0 then return none
    let draws ← (List.range p.trianglesN.toNat).mapM (drawTriangle g p pose target world all scale)
    let framebuffer ← (painterOrder draws).foldlM
      (fun framebuffer d => tri g target d.texture framebuffer d.face) framebuffer
    let framebuffer ← effect g p pose target framebuffer
    return some framebuffer

/-! ## Sampling stays inside -/

section Sampling

variable {g p} (hp : WellFormed p)
include hp

theorem segment_there {t : Track} (ht : TrackOk p.toHeader t) {i : Nat} (hi : i < t.count.toNat) :
    t.first.toNat + i < p.segments.length := by
  have hrange := ht.range
  have hlen : p.segmentsN.toNat ≤ p.segments.length := hp.segments ▸ le_allocated _
  omega

theorem sampleAt_delivers {t : Track} (ht : TrackOk p.toHeader t) (frame : F32) {i : Nat}
    (hi : i < t.count.toNat) : Delivers (sampleAt g p t frame i) fun _ => True := by
  refine (delivers_entry (segment_there hp ht hi)).bind fun q _ => ?_
  refine Delivers.ite (fun _ => Delivers.ite (fun hi' => ?_) fun _ =>
    Delivers.pure trivial) fun _ =>
    Delivers.ite (fun _ => Delivers.pure trivial) fun _ => Delivers.pure trivial
  have hbefore := segment_there hp ht (i := i - 1) (by omega)
  have hindex : t.first.toNat + i - 1 = t.first.toNat + (i - 1) := by omega
  rw [hindex]
  exact (delivers_entry hbefore).bind fun _ _ => Delivers.pure trivial

/-- The sample of a track at any frame reads segments of the track only. -/
theorem sample_delivers {t : Track} (ht : TrackOk p.toHeader t) (frame : F32) :
    Delivers (sample g p t frame) fun _ => True := by
  have hcount := ht.count
  refine (delivers_entry (segment_there hp ht hcount)).bind fun s _ => ?_
  refine Delivers.ite (fun _ => Delivers.pure trivial) fun _ => ?_
  refine Delivers.bind (delivers_firstAnswer (P := fun _ => True) fun i hi => ?_) fun o _ => ?_
  · obtain ⟨v, hv, _⟩ := sampleAt_delivers (g := g) hp ht frame (List.mem_range.1 hi)
    exact ⟨v, hv, fun _ _ => trivial⟩
  · cases o with
    | some v => exact Delivers.pure trivial
    | none =>
      have hone : (t.count - 1).toNat = t.count.toNat - 1 :=
        UInt32.toNat_sub_of_le _ _ (UInt32.le_iff_toNat_le.2 hcount)
      rw [hone]
      exact (delivers_entry (segment_there hp ht (by omega))).bind fun _ _ => Delivers.pure trivial

/-- An animation found is one of the table. -/
theorem findAnim_delivers (name : Bytes) :
    Delivers (findAnim p name) fun o => ∀ a ∈ o, a ∈ p.anims := by
  refine delivers_firstAnswer fun i hi => ?_
  refine (delivers_entry (hp.anims.symm ▸ List.mem_range.1 hi : i < p.anims.length)).bind
    fun a ha => Delivers.pure fun b hb => ?_
  split at hb
  · cases hb
    exact List.mem_of_getElem? ha
  · cases hb

/-- The tracks of an animation are there, and fit. -/
theorem track_there {a : Animation} (ha : a ∈ p.anims) {i : Nat} (hi : i < a.count.toNat) :
    Delivers (entry p.tracks (a.first.toNat + i)) (TrackOk p.toHeader) := by
  have hrange := hp.animation a ha
  have hlen : p.tracksN.toNat ≤ p.tracks.length := hp.tracks ▸ le_allocated _
  have hin : a.first.toNat + i < p.tracks.length := by omega
  obtain ⟨t, ht, hentry⟩ := entry_of_lt hin
  exact ⟨t, hentry, hp.track _ (by omega) t ht⟩

theorem rootDelta_delivers (name : Bytes) (frame old : F32) :
    Delivers (rootDelta g p name frame old) fun _ => True := by
  refine (findAnim_delivers hp name).bind fun o ho => ?_
  cases o with
  | none => exact Delivers.pure trivial
  | some a =>
    refine (delivers_foldlM (I := fun _ => True) (fun found i hi _ => ?_) trivial).bind
      fun _ _ => Delivers.pure trivial
    refine (track_there hp (ho a rfl) (List.mem_range.1 hi)).bind fun t ht => ?_
    refine Delivers.ite (fun _ => Delivers.pure trivial) fun _ =>
      Delivers.ite (fun _ => ?_) fun _ =>
      Delivers.pure trivial
    exact (sample_delivers hp ht _).bind fun _ _ => (sample_delivers hp ht _).bind fun _ _ =>
      Delivers.pure trivial

theorem animationOf_delivers (pose : PresentationPose) :
    Delivers (animationOf p pose) fun o => ∀ a ∈ o, a ∈ p.anims := by
  refine (findAnim_delivers hp _).bind fun o ho => ?_
  cases o with
  | some a => exact Delivers.pure ho
  | none => exact findAnim_delivers hp _

omit hp in
theorem put_delivers (v : V3) {k : Nat} (hk : k < 3) (x : F32) :
    Delivers (v.put k x) fun _ => True := by
  match k, hk with
  | 0, _ => exact ⟨_, rfl, trivial⟩
  | 1, _ => exact ⟨_, rfl, trivial⟩
  | 2, _ => exact ⟨_, rfl, trivial⟩

omit hp in
theorem putAxis_delivers {table : List V3} (hlen : table.length = FALCON_JOINTS) {joint k : Nat}
    (hjoint : joint < FALCON_JOINTS) (hk : k < 3) (x : F32) :
    Delivers (putAxis table joint k x) fun table' => table'.length = FALCON_JOINTS := by
  have hin : joint < table.length := hlen.symm ▸ hjoint
  refine (delivers_entry hin).bind fun v _ => (put_delivers v hk x).bind fun v _ => ?_
  obtain ⟨table', hput, hsame⟩ := delivers_putEntry v hin
  exact ⟨table', hput, hsame.trans hlen⟩

theorem animateAt_delivers {a : Animation} (ha : a ∈ p.anims) (frame : F32) {pose : Pose}
    (hpose : PoseOk pose) {i : Nat} (hi : i < a.count.toNat) :
    Delivers (animateAt g p a frame pose i) PoseOk := by
  refine (track_there hp ha hi).bind fun q hq => (sample_delivers hp hq frame).bind fun v _ => ?_
  refine Delivers.ite (fun _ => Delivers.pure hpose) fun hroot => ?_
  have hjoint := hq.joint.resolve_right hroot
  have hkind := hq.kind
  refine Delivers.ite (fun hr => ?_) fun hr => Delivers.ite (fun ht => ?_) fun ht => ?_
  · have hr' : q.kind.toNat < 3 := UInt16.lt_iff_toNat_lt.1 hr
    exact (putAxis_delivers hpose.r hjoint hr' v).bind fun r hlen =>
      Delivers.pure ⟨hpose.t, hlen, hpose.s⟩
  · have ht' : q.kind.toNat < 6 := UInt16.lt_iff_toNat_lt.1 ht
    exact (putAxis_delivers hpose.t hjoint (by omega) v).bind fun t hlen =>
      Delivers.pure ⟨hlen, hpose.r, hpose.s⟩
  · exact (putAxis_delivers hpose.s hjoint (by omega) v).bind fun s hlen =>
      Delivers.pure ⟨hpose.t, hpose.r, hlen⟩

theorem animate_delivers {a : Animation} (ha : a ∈ p.anims) (frame : F32) :
    Delivers (animate g p a frame) PoseOk :=
  Delivers.bind (bindPose_ok hp.toShape) fun _ hpose =>
    delivers_foldlM (fun _ _ hi h => animateAt_delivers hp ha _ h (List.mem_range.1 hi)) hpose

theorem stableProjectedScale_delivers (target : PresentationTarget) :
    Delivers (stableProjectedScale g p target) fun _ => True := by
  refine Delivers.bind (bindPose_ok hp.toShape) fun pose hpose => ?_
  refine Delivers.bind (matrices_ok hp hpose) fun world hworld => ?_
  obtain ⟨all, hall⟩ := corners_ok (g := g.toGeometry) hp hworld
  exact Delivers.bind ⟨all, hall, trivial⟩ fun _ (_ : True) => Delivers.pure trivial

theorem jointScreenPosition_delivers (pose : PresentationPose) (target : PresentationTarget)
    (joint : Nat) : Delivers (jointScreenPosition g p pose target joint) fun _ => True := by
  refine Delivers.ite (fun _ => Delivers.pure trivial) fun hjoint => ?_
  refine (animationOf_delivers hp pose).bind fun o ho => ?_
  cases o with
  | none => exact Delivers.pure trivial
  | some a =>
    refine (animate_delivers hp (ho a rfl) _).bind fun posed hposed => ?_
    refine Delivers.bind (matrices_ok hp hposed) fun world hworld => ?_
    obtain ⟨all, hall⟩ := corners_ok (g := g.toGeometry) hp hworld
    refine Delivers.bind ⟨all, hall, trivial⟩ fun all (_ : True) => ?_
    refine (stableProjectedScale_delivers hp target).bind fun scale _ => ?_
    refine Delivers.ite (fun _ => Delivers.pure trivial) fun _ => ?_
    exact (delivers_entry (by omega)).bind fun _ _ => Delivers.pure trivial

end Sampling

/-! ## Drawing stays inside -/

section Pixels

variable {g} {target : PresentationTarget}

theorem clampIndex_in {v n : Int} (hn : 0 < n) : 0 ≤ clampIndex v n ∧ clampIndex v n < n := by
  unfold clampIndex
  dsimp only
  split <;> split <;> omega

theorem mem_upTo {first last x : Int} (h : x ∈ upTo first last) : first ≤ x ∧ x ≤ last := by
  obtain ⟨i, hi, rfl⟩ := List.mem_map.1 h
  have hless := List.mem_range.1 hi
  omega

/-- A pixel of a triangle is on the target. -/
theorem mem_triPixels {box : Int × Int × Int × Int} {xy : Int × Int}
    (h : xy ∈ triPixels target box) :
    0 ≤ xy.1 ∧ xy.1 < target.width ∧ 0 ≤ xy.2 ∧ xy.2 < target.height := by
  obtain ⟨y, hy, hmem⟩ := List.mem_flatMap.1 h
  obtain ⟨x, hx, rfl⟩ := List.mem_map.1 hmem
  have hrow := mem_upTo hy
  have hcolumn := mem_upTo hx
  dsimp only at hrow hcolumn ⊢
  split at hrow <;> split at hrow <;> split at hcolumn <;> split at hcolumn <;> omega

/-- The framebuffer holds the rows of the target. -/
structure FramebufferOk (target : PresentationTarget) (framebuffer : List UInt32) : Prop where
  pitch : target.width ≤ target.pitchPixels
  rows : target.height * target.pitchPixels ≤ framebuffer.length

/-- The pixel of a row and column in a table of rows. -/
theorem row_index {x y width height pitch : Int} (hx : 0 ≤ x) (hx' : x < width) (hy : 0 ≤ y)
    (hy' : y < height) (hpitch : width ≤ pitch) :
    0 ≤ y * pitch + x ∧ y * pitch + x < height * pitch := by
  have hrow : (y + 1) * pitch ≤ height * pitch :=
    Int.mul_le_mul_of_nonneg_right (by omega) (by omega)
  have hzero : 0 ≤ y * pitch := Int.mul_nonneg hy (by omega)
  rw [Int.add_mul, Int.one_mul] at hrow
  omega

theorem texel_delivers {texture : Texture} (ht : TextureOk texture) (u v : Int) :
    Delivers (fetch32 texture.pixels (4 * (clampIndex v texture.h.toNat * texture.w.toNat +
      clampIndex u texture.w.toNat)).toNat) fun _ => True := by
  have hx := clampIndex_in (v := u) (Int.natCast_pos.2 ht.w)
  have hy := clampIndex_in (v := v) (Int.natCast_pos.2 ht.h)
  have hindex := row_index hx.1 hx.2 hy.1 hy.2 (Int.le_refl _)
  have hsize : (texture.pixels.length : Int) = texture.h.toNat * texture.w.toNat * 4 := by
    rw [ht.pixels, Nat.mul_comm texture.w.toNat]
    push_cast
    rfl
  obtain ⟨w, hw⟩ := fetch32_ok (p := texture.pixels) (i := (4 * (clampIndex v texture.h.toNat *
    texture.w.toNat + clampIndex u texture.w.toNat)).toNat) (by omega)
  exact ⟨w, hw, trivial⟩

theorem triPixel_delivers {texture : Texture} (ht : TextureOk texture) (face : Face)
    {framebuffer : List UInt32} (hf : FramebufferOk target framebuffer) {xy : Int × Int}
    (hx : 0 ≤ xy.1) (hx' : xy.1 < target.width) (hy : 0 ≤ xy.2) (hy' : xy.2 < target.height) :
    Delivers (triPixel g target texture face framebuffer xy) (FramebufferOk target) := by
  unfold triPixel
  split
  · exact Delivers.pure hf
  · refine (texel_delivers ht _ _).bind fun q _ => Delivers.ite (fun _ => Delivers.pure hf) fun _ =>
      ?_
    have hindex := row_index hx hx' hy hy' hf.pitch
    have hrows := hf.rows
    have hin : (xy.2 * target.pitchPixels + xy.1).toNat < framebuffer.length := by omega
    refine (delivers_entry hin).bind fun d _ => ?_
    obtain ⟨framebuffer', hput, hlen⟩ := delivers_putEntry (overPixel d q) hin
    exact ⟨framebuffer', hput, hf.pitch, hlen ▸ hrows⟩

theorem tri_delivers {texture : Texture} (ht : TextureOk texture) {framebuffer : List UInt32}
    (hf : FramebufferOk target framebuffer) (face : Face) :
    Delivers (tri g target texture framebuffer face) (FramebufferOk target) := by
  unfold tri
  split
  · exact Delivers.pure hf
  · refine delivers_foldlM (fun framebuffer xy hxy h => ?_) hf
    obtain ⟨hx, hx', hy, hy'⟩ := mem_triPixels hxy
    exact triPixel_delivers ht face h hx hx' hy hy'

theorem tris_delivers {texture : Texture} (ht : TextureOk texture) {framebuffer : List UInt32}
    (hf : FramebufferOk target framebuffer) (faces : List Face) :
    Delivers (tris g target texture framebuffer faces) (FramebufferOk target) :=
  delivers_foldlM (fun _ face _ h => tri_delivers ht h face) hf

/-- A texture of one pixel. -/
theorem textureOk_pixel (color : UInt32) : TextureOk ⟨1, 1, le32 color⟩ :=
  ⟨Nat.one_pos, Nat.one_pos, rfl⟩

theorem mem_insertDraw {d key : DrawTriangle} : ∀ {sorted : List DrawTriangle},
    d ∈ insertDraw key sorted → d = key ∨ d ∈ sorted
  | [], h => .inl (List.mem_singleton.1 h)
  | s :: sorted, h => by
    unfold insertDraw at h
    split at h
    · rcases List.mem_cons.1 h with rfl | h
      · exact .inr List.mem_cons_self
      · exact (mem_insertDraw h).imp_right (List.mem_cons_of_mem _)
    · exact List.mem_cons.1 h

/-- The sort draws nothing new. -/
theorem mem_painterOrder {d : DrawTriangle} {draws : List DrawTriangle}
    (h : d ∈ painterOrder draws) :
    d ∈ draws := by
  have hrun : ∀ (draws sorted : List DrawTriangle),
      d ∈ draws.foldl (fun sorted key => insertDraw key sorted) sorted → d ∈ draws ∨
      d ∈ sorted := by
    intro draws
    induction draws with
    | nil => exact fun _ h => .inr h
    | cons key draws ih =>
      intro sorted h
      rcases ih _ h with h | h
      · exact .inl (List.mem_cons_of_mem _ h)
      · rcases mem_insertDraw h with rfl | h
        · exact .inl List.mem_cons_self
        · exact .inr h
  exact (hrun draws [] (List.mem_reverse.1 h)).resolve_right List.not_mem_nil

end Pixels

section Scene

variable {g p} {target : PresentationTarget} (hp : WellFormed p)
include hp

theorem texture_there {i : Nat} (hi : i < p.texturesN.toNat) :
    Delivers (entry p.textures i) TextureOk := by
  obtain ⟨q, hq, hentry⟩ := entry_of_lt (hp.textures.symm ▸ hi : i < p.textures.length)
  exact ⟨q, hentry, hp.pixels q (List.mem_of_getElem? hq)⟩

theorem drawTriangle_delivers (pose : PresentationPose) {world : List M}
    (hworld : world.length = FALCON_JOINTS) (all : List V3) (scale : F32) {i : Nat}
    (hi : i < p.trianglesN.toNat) :
    Delivers (drawTriangle g p pose target world all scale i) fun d => TextureOk d.texture := by
  refine (delivers_entry (hp.triangles.symm ▸ hi : i < p.triangles.length)).bind fun q hq => ?_
  obtain ⟨hjoint, htexture⟩ := hp.triangle q (List.mem_of_getElem? hq)
  have htextured : Delivers (textureOf p q) TextureOk := by
    refine Delivers.ite (fun _ => Delivers.pure (textureOk_pixel _)) fun hroot => ?_
    exact texture_there hp (htexture.resolve_left hroot)
  refine htextured.bind fun texture htexture => ?_
  exact (delivers_entry (hworld.symm ▸ hjoint)).bind fun m _ => Delivers.pure htexture

theorem effectCard_delivers (pose : PresentationPose) (joint : Nat) {index : UInt32}
    (hindex : index.toNat < p.texturesN.toNat) {framebuffer : List UInt32}
    (hf : FramebufferOk target framebuffer) :
    Delivers (effectCard g p pose target joint index framebuffer) (FramebufferOk target) := by
  refine (texture_there hp hindex).bind fun q hq => ?_
  refine (jointScreenPosition_delivers hp pose target joint).bind fun o _ => ?_
  cases o with
  | none => exact Delivers.pure hf
  | some xy => exact tris_delivers hq hf _

/-- An effect texture is one of the five behind `punch_first`. -/
theorem effect_index {k : UInt32} (hk : k.toNat < 5) :
    (p.punchFirst + k).toNat < p.texturesN.toNat := by
  have heffects := hp.effects
  have hsmall := p.texturesN.toNat_lt
  rw [UInt32.toNat_add, Nat.mod_eq_of_lt (by omega)]
  omega

theorem effect_delivers (pose : PresentationPose) {framebuffer : List UInt32}
    (hf : FramebufferOk target framebuffer) :
    Delivers (effect g p pose target framebuffer) (FramebufferOk target) := by
  refine Delivers.ite (fun _ => ?_) fun _ => Delivers.ite (fun _ => ?_) fun _ => ?_
  · have hthree : ((g.toUnsigned pose.frame - 42) % 3).toNat < 3 := by
      rw [UInt32.toNat_mod]
      exact Nat.mod_lt _ (by decide)
    exact effectCard_delivers hp pose _ (effect_index hp (by omega)) hf
  · have htwo : (3 + (g.toUnsigned pose.frame - 12) % 2).toNat < 5 := by
      have hmod : ((g.toUnsigned pose.frame - 12) % 2).toNat < 2 := by
        rw [UInt32.toNat_mod]
        exact Nat.mod_lt _ (by decide)
      have hthree : (3 : UInt32).toNat = 3 := rfl
      rw [UInt32.toNat_add, hthree]
      omega
    rw [UInt32.add_assoc]
    exact effectCard_delivers hp pose _ (effect_index hp htwo) hf
  · exact delivers_foldlM (fun _ particle _ h => tris_delivers (textureOk_pixel _) h _) hf

/-- Drawing reads and writes inside its tables, whatever the pose and the target. -/
theorem draw_delivers (pose : PresentationPose) {framebuffer : List UInt32}
    (hrows : target.height * target.pitchPixels ≤ framebuffer.length) :
    Delivers (draw g p pose target framebuffer) fun _ => True := by
  refine Delivers.ite (fun _ => Delivers.pure trivial) fun hsize => ?_
  rw [not_or, not_or, Int.not_lt] at hsize
  have hf : FramebufferOk target framebuffer := ⟨hsize.2.2, hrows⟩
  refine (animationOf_delivers hp pose).bind fun o ho => ?_
  cases o with
  | none => exact Delivers.pure trivial
  | some a =>
    refine (animate_delivers hp (ho a rfl) _).bind fun posed hposed => ?_
    refine Delivers.bind (matrices_ok hp hposed) fun world hworld => ?_
    obtain ⟨all, hall⟩ := corners_ok (g := g.toGeometry) hp hworld
    refine Delivers.bind ⟨all, hall, trivial⟩ fun all (_ : True) => ?_
    refine (stableProjectedScale_delivers hp target).bind fun scale _ => ?_
    refine Delivers.ite (fun _ => Delivers.pure trivial) fun _ => ?_
    refine Delivers.bind (delivers_mapM fun i hi =>
      drawTriangle_delivers hp pose hworld all scale (List.mem_range.1 hi)) fun draws hdraws => ?_
    refine Delivers.bind (delivers_foldlM (fun framebuffer d hd h =>
      tri_delivers (hdraws.2 d (mem_painterOrder hd)) h d.face) hf) fun framebuffer hf => ?_
    exact (effect_delivers hp pose hf).bind fun _ _ => Delivers.pure trivial

end Scene

/-! ## The loader is in bounds -/

/-- What samples and draws from the tables indexes none of them out of range. -/
structure Drawable (g : Canvas M) (p : FalconPresentation) : Prop where
  matrices : ∀ pose, PoseOk pose → ∃ world, matrices g.toGeometry p pose = .ok world
  sample : ∀ i < p.tracksN.toNat, ∀ t, p.tracks[i]? = some t →
    ∀ frame, ∃ v, sample g p t frame = .ok v
  rootDelta : ∀ name frame old, ∃ step, rootDelta g p name frame old = .ok step
  draw : ∀ (pose : PresentationPose) (target : PresentationTarget) (framebuffer : List UInt32),
    target.height * target.pitchPixels ≤ framebuffer.length →
      ∃ drawn, draw g p pose target framebuffer = .ok drawn

theorem WellFormed.drawable {p : FalconPresentation} (hp : WellFormed p) (g : Canvas M) :
    Drawable g p where
  matrices _ hpose := (matrices_ok hp hpose).imp fun _ h => h.1
  sample i hi t ht frame := (sample_delivers hp (hp.track i hi t ht) frame).imp fun _ h => h.1
  rootDelta name frame old := (rootDelta_delivers hp name frame old).imp fun _ h => h.1
  draw pose _ _ hrows := (draw_delivers hp pose hrows).imp fun _ h => h.1

/-- The loader never leaves the blob or a table, and accepts only well-formed tables that can be
sampled and drawn from, if and only if no track of two segments or more leaves the segment table. -/
theorem load_in_bounds_iff (g : Canvas M) (data : Bytes) :
    Contained (parse g.toGeometry data) (fun p => WellFormed p ∧ Drawable g p) ↔
    TracksFit data := by
  constructor
  · intro h
    by_contra hfit
    rw [parse_outOfBounds hfit] at h
    rcases h with h | ⟨p, h, -⟩ <;> cases h
  · intro hfit
    rcases parse_contained (g := g.toGeometry) hfit with h | ⟨p, h, hp⟩
    · exact .inl h
    · exact .inr ⟨p, h, hp, hp.drawable g⟩

/-! ## A blob that is rejected too late -/

def zeros (n : Nat) : Bytes := List.replicate n 0

/-- A joint that does not move. -/
def restingJoint (parent : UInt32) : Bytes := le32 parent ++ zeros 44

/-- One triangle, five textures of one pixel, one animation, and a track of two segments where there
are none. -/
def overrunBlob : Bytes :=
  FALCON_MAGIC ++ packed [FALCON_VERSION, 26, 1, 5, 1, 1, 0, 0, 3] ++
    (restingJoint 0xffffffff ++ (List.replicate 25 (restingJoint 0)).flatten) ++ zeros 64 ++
    (List.replicate 5 (le16 1 ++ le16 1 ++ le32 4 ++ zeros 4)).flatten ++ (0x61 :: zeros 47) ++
    (le16 0 ++ le16 0 ++ le32 0 ++ le32 2)

/-- The order check leaves the segment table. -/
def overruns (data : Bytes) : Bool :=
  match tablesOf data with
  | .ok (p, c) => orderTracks p c.ok = .error .outOfBounds
  | .error _ => false

theorem parse_of_overruns {M : Type} (g : Geometry M) {data : Bytes} (h : overruns data = true) :
    parse g data = .error .outOfBounds := by
  unfold overruns at h
  unfold parse
  split at h
  · rename_i p c htables
    rw [htables, ok_bind]
    dsimp only
    rw [of_decide_eq_true h, error_bind]
  · exact absurd h Bool.false_ne_true

/-- Float arithmetic that comes to zero; the parser stops before any. -/
def zeroCanvas : Canvas Unit :=
  { transform := fun _ _ _ => ()
    mul := fun _ _ => ()
    point := fun _ v => v
    flat := fun _ => false
    sub := fun x _ => x
    fmod := fun x _ => x
    linear := fun _ e => e
    hermite := fun _ e => e
    rootStep := fun y _ => y
    stableScale := fun _ _ => 0
    project := fun _ _ _ _ _ u v => ⟨0, 0, 0, u, v⟩
    screen := fun _ _ _ _ _ => (0, 0)
    depth := fun _ => 0
    span := fun _ => none
    texel := fun _ _ _ => none
    toUnsigned := fun frame => frame
    card := fun _ _ _ _ => []
    particles := fun _ _ => [] }

set_option maxRecDepth 10000 in
theorem load_out_of_bounds : parse zeroCanvas.toGeometry overrunBlob = .error .outOfBounds ∧
    ¬ Contained (parse zeroCanvas.toGeometry overrunBlob) fun p =>
    WellFormed p ∧ Drawable zeroCanvas p := by
  have hoverruns : overruns overrunBlob = true := by decide +kernel
  have h := parse_of_overruns zeroCanvas.toGeometry hoverruns
  refine ⟨h, fun hin => ?_⟩
  rw [h] at hin
  rcases hin with hin | ⟨p, hin, -⟩ <;> cases hin

end SmwRecomp.Falcon
