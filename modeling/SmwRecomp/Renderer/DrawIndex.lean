import SmwRecomp.Coop.Guest
import SmwRecomp.Lib.Buckets
import SmwRecomp.Lib.Run

/-!
# The actor draw index

The recording of draws in `src/src/smw_renderer.c`: `SmwRendererRecordOam`,
`SmwRendererRecordSprite`, `SmwRendererRecordSpriteTile`, `SmwRendererBeginActor`,
`SmwRendererEndActor`, `SmwRendererResetScene` and `SmwRendererLatchFrame`.

* `QSort` — the sort of the C library: some arrangement that the comparator accepts.
* `drawLog` — what the actors drew since the draws were last latched, in the order it was appended.
* `Partitions` — the ranges of `draw_start` are the draws of the slots, each in that order.
* `partitions_latch` — a latch that is not reused leaves such an index of up to `2 ^ 32` draws.

The guest is anything that writes its memory. The raster lines, and running out of memory, are left
out.
-/

set_option autoImplicit false

namespace SmwRecomp.Renderer

open SmwRecomp.Coop (Ram)

/-! ## Recording -/

structure OamOwner where
  x : Int
  position : UInt16
  attr : UInt16
  valid : Bool
  deriving DecidableEq, Repr

def OamOwner.zero : OamOwner := ⟨0, 0, 0, false⟩

structure SpriteOwner where
  x : Int
  y : Int
  valid : Bool
  exact : Bool
  deriving DecidableEq, Repr

def SpriteOwner.zero : SpriteOwner := ⟨0, 0, false, false⟩

structure SpriteDraw where
  image : OamOwner
  slot : Fin 128
  high : Nat
  kind : Nat
  actor : Nat
  order : UInt32
  deriving DecidableEq, Repr

/-- The draws up to the count; what lies behind it in the buffer is never read. -/
structure DrawList where
  items : List SpriteDraw
  capacity : Nat

def DrawList.count (l : DrawList) : Nat := l.items.length

structure ActorDraw where
  active : Bool
  kind : Nat
  index : Nat
  before : Nat → UInt8
  exact : Fin 128 → OamOwner
  inferred : Fin 64 → SpriteOwner

def ActorDraw.zero : ActorDraw := ⟨false, 0, 0, fun _ => 0, fun _ => .zero, fun _ => .zero⟩

/-- The static state that the draws depend on, with `g_ram` and the setting `enabled`. -/
structure DrawState where
  ram : Ram
  enabled : Bool
  frameRam : Ram
  pending : Fin 128 → OamOwner
  latched : Fin 128 → OamOwner
  spriteOwners : Fin 64 → SpriteOwner
  pendingDraws : DrawList
  latchedDraws : DrawList
  drawStart : Nat → Nat
  actorDraw : ActorDraw
  actorsRan : Bool
  levelScene : Bool

def DrawState.start (ram : Ram) (enabled : Bool) : DrawState :=
  ⟨ram, enabled, fun _ => 0, fun _ => .zero, fun _ => .zero, fun _ => .zero, ⟨[], 0⟩, ⟨[], 0⟩,
    fun _ => 0, .zero, false, false⟩

/-- A cast to `int8_t`. -/
def int8 (n : Int) : Int := n.bmod 256

def recordOam (s : DrawState) (slot : Nat) (x : Int) (pos attr : UInt16) : DrawState :=
  if h : slot < 128 then
    let owner : OamOwner := ⟨x, pos, attr, true⟩
    let s := { s with pending := Function.update s.pending ⟨slot, h⟩ owner }
    if s.actorDraw.active then
      { s with actorDraw := { s.actorDraw with exact := Function.update s.actorDraw.exact ⟨slot, h⟩ owner } }
    else s
  else s

def recordSpritePiece (x y : Int) (s : DrawState) (piece : Fin 64) : DrawState :=
  let s :=
    if (s.spriteOwners piece).exact then s
    else { s with spriteOwners := Function.update s.spriteOwners piece ⟨x, y, true, false⟩ }
  if s.actorDraw.active && !(s.actorDraw.inferred piece).exact then
    { s with actorDraw := { s.actorDraw with
        inferred := Function.update s.actorDraw.inferred piece ⟨x, y, true, false⟩ } }
  else s

/-- The indices `first`, `first + 4`, … below the end. -/
def recordSprite (s : DrawState) (slot : Nat) (x y : Int) (first last : Nat) : DrawState :=
  if slot < 12 ∧ first < last ∧ last ≤ 256 then
    (List.range ((last - first + 3) / 4)).foldl
      (fun s i => recordSpritePiece x y s (Fin.ofNat 64 ((first + 4 * i) / 4))) s
  else s

def recordSpriteTile (s : DrawState) (piece : Nat) (x y : Int) : DrawState :=
  if h : piece < 64 then
    let s := { s with spriteOwners := Function.update s.spriteOwners ⟨piece, h⟩ ⟨x, y, true, true⟩ }
    if s.actorDraw.active then
      { s with actorDraw := { s.actorDraw with
          inferred := Function.update s.actorDraw.inferred ⟨piece, h⟩ ⟨x, y, true, true⟩ } }
    else s
  else s

/-- `append_draw`. -/
def DrawList.append (l : DrawList) (draw : SpriteDraw) : DrawList :=
  let capacity := if l.count = l.capacity then if l.capacity ≠ 0 then l.capacity * 2 else 128
    else l.capacity
  ⟨l.items ++ [{ draw with order := UInt32.ofNat l.count }], capacity⟩

/-- The image of a slot that the actor drew: none where it is hidden, or not the actor's. -/
def actorImage (ram : Ram) (a : ActorDraw) (slot : Fin 128) : Option OamOwner :=
  let pos := ram.read16 (0x200 + slot * 4)
  let attr := ram.read16 (0x202 + slot * 4)
  let image (x : Int) : OamOwner := ⟨x, UInt16.ofNat pos, UInt16.ofNat attr, true⟩
  if pos / 256 = 240 then none
  else
    let owner := a.exact slot
    if owner.valid then some (image (owner.x + int8 (pos % 256 - owner.position.toNat % 256)))
    else if slot.val < 64 then none
    else
      let owner := a.inferred (Fin.ofNat 64 (slot - 64))
      let unchanged := (List.range 4).all fun i =>
        a.before (slot * 4 + i) = ram (0x200 + slot * 4 + i)
      if !owner.valid || (!owner.exact && unchanged) then none
      else
        let dx := int8 (pos % 256 - owner.x % 256)
        let dy := int8 (pos / 256 - owner.y % 256)
        if dx.natAbs > 64 ∨ dy.natAbs > 64 then none else some (image (owner.x + dx))

/-- The draw of a slot of the actor. -/
def actorSlotDraw (s : DrawState) (slot : Fin 128) : Option SpriteDraw :=
  (actorImage s.ram s.actorDraw slot).map fun image =>
    ⟨image, slot, (s.ram (0x420 + slot)).toNat % 4, s.actorDraw.kind, s.actorDraw.index, 0⟩

def endActorSlot (s : DrawState) (slot : Fin 128) : DrawState :=
  match actorSlotDraw s slot with
  | none => s
  | some draw =>
    { s with pending := Function.update s.pending slot draw.image, pendingDraws := s.pendingDraws.append draw }

def endActor (s : DrawState) : DrawState :=
  if s.actorDraw.active then
    let s := (List.finRange 128).foldl endActorSlot s
    { s with actorDraw := { s.actorDraw with active := false } }
  else s

def beginActor (s : DrawState) (kind index : Nat) : DrawState :=
  let s := endActor s
  if kind > 1 ∨ index ≥ (if kind ≠ 0 then 10 else 12) then s
  else
    { s with
      actorDraw :=
        { ActorDraw.zero with active := true, kind, index, before := fun i => s.ram (0x200 + i) }
      actorsRan := true }

def resetScene (s : DrawState) : DrawState :=
  { s with
    levelScene := false
    pending := fun _ => .zero
    latched := fun _ => .zero
    spriteOwners := fun _ => .zero
    actorDraw := { s.actorDraw with active := false }
    actorsRan := false
    pendingDraws := { s.pendingDraws with items := [] }
    latchedDraws := { s.latchedDraws with items := [] }
    drawStart := fun _ => 0 }

/-! ## The latch -/

/-- `compare_draw`. -/
def compareDraw (x y : SpriteDraw) : Int :=
  if x.slot ≠ y.slot then if x.slot < y.slot then -1 else 1
  else if x.order < y.order then -1
  else if x.order ≠ y.order then 1 else 0

/-- `qsort` with `compare_draw`: where the comparator answers 0 nothing is said about the order. -/
structure QSort where
  sort : List SpriteDraw → List SpriteDraw
  perm : ∀ l, (sort l).Perm l
  sorted : ∀ l, (sort l).Pairwise fun x y => compareDraw x y ≤ 0

/-- The scene of a latch: levels keep it through the fades that other scenes share. -/
def sceneAfter (s : DrawState) : Bool :=
  let mode := s.ram 0x100
  if mode = 0x13 ∨ mode = 0x14 then true
  else if mode ≠ 0x0b ∧ mode ≠ 0x0f ∧ mode ≠ 0x15 ∧ mode ≠ 0x18 then false
  else s.levelScene

/-- `reuse_draws` of a latch, once the actor that still draws has ended. -/
def reuseDraws (s : DrawState) : Bool :=
  sceneAfter s && !s.actorsRan && s.pendingDraws.count = 0 &&
    (List.range 512).all fun i => s.frameRam (0x200 + i) = s.ram (0x200 + i)

/-- A generic piece is bound to its completed image. -/
def bindPiece (ram : Ram) (owners : Fin 64 → SpriteOwner) (pending : Fin 128 → OamOwner)
    (piece : Fin 64) :
    Fin 128 → OamOwner :=
  let owner := owners piece
  let slot : Fin 128 := ⟨64 + piece, by omega⟩
  let pos := ram.read16 (0x300 + piece * 4)
  let attr := ram.read16 (0x302 + piece * 4)
  if !owner.valid || (pending slot).valid || pos / 256 = 240 then pending
  else
    let dx := int8 (pos % 256 - owner.x % 256)
    let dy := int8 (pos / 256 - owner.y % 256)
    if dx.natAbs > 64 ∨ dy.natAbs > 64 then pending
    else Function.update pending slot ⟨owner.x + dx, UInt16.ofNat pos, UInt16.ofNat attr, true⟩

/-- The last image of a slot, while the same image is still there. -/
def keepLatched (ram : Ram) (latched pending : Fin 128 → OamOwner) (slot : Fin 128) : OamOwner :=
  let last := latched slot
  if !(pending slot).valid && last.valid && last.position.toNat = ram.read16 (0x200 + slot * 4) &&
      last.attr.toNat = ram.read16 (0x202 + slot * 4) then last
  else pending slot

/-- The pass over the sorted draws that finds where each slot starts. -/
def indexDraws (items : List SpriteDraw) (drawStart : Nat → Nat) : Nat → Nat :=
  ((List.range 129).foldl (fun (next, drawStart) slot =>
    let next := next + ((items.drop next).takeWhile fun draw => draw.slot.val < slot).length
    (next, Function.update drawStart slot next)) (0, drawStart)).2

/-- The draws change places: what was pending is latched, sorted and indexed. -/
def latchDraws (q : QSort) (s : DrawState) : DrawState :=
  let items := if s.pendingDraws.count > 1 then q.sort s.pendingDraws.items
    else s.pendingDraws.items
  { s with
    latchedDraws := { s.pendingDraws with items }
    pendingDraws := s.latchedDraws
    drawStart := indexDraws items s.drawStart }

def latchFrame (q : QSort) (s : DrawState) : DrawState :=
  let s := endActor s
  let reuse := reuseDraws s
  let mode := s.ram 0x100
  let levelScene := sceneAfter s
  let fadingLevel := levelScene && mode ≠ 0x13 && mode ≠ 0x14
  let pending := (List.finRange 64).foldl (bindPiece s.ram s.spriteOwners) s.pending
  let pending := if fadingLevel || reuse then keepLatched s.ram s.latched pending else pending
  let s := { s with
    frameRam := if s.enabled then s.ram else s.frameRam
    levelScene
    latched := pending
    pending := fun _ => .zero
    spriteOwners := fun _ => .zero }
  let s := if reuse then s else latchDraws q s
  { s with pendingDraws := { s.pendingDraws with items := [] }, actorsRan := false }

/-! ## Runs -/

inductive DrawEvent where
  | guest (ram : Ram)
  | recordOam (slot : Nat) (x : Int) (pos attr : UInt16)
  | recordSprite (slot : Nat) (x y : Int) (first last : Nat)
  | recordSpriteTile (piece : Nat) (x y : Int)
  | beginActor (kind index : Nat)
  | endActor
  | resetScene
  | latchFrame

def drawStep (q : QSort) (s : DrawState) : DrawEvent → DrawState
  | .guest ram => { s with ram }
  | .recordOam slot x pos attr => recordOam s slot x pos attr
  | .recordSprite slot x y first last => recordSprite s slot x y first last
  | .recordSpriteTile piece x y => recordSpriteTile s piece x y
  | .beginActor kind index => beginActor s kind index
  | .endActor => endActor s
  | .resetScene => resetScene s
  | .latchFrame => latchFrame q s

/-- What the actor that still draws appends when it ends. -/
def actorDraws (s : DrawState) : List SpriteDraw :=
  if s.actorDraw.active then (List.finRange 128).filterMap (actorSlotDraw s) else []

abbrev DrawStep := DrawState × DrawEvent × DrawState

/-- The draws appended since the last latch or reset, behind a step. -/
def logDraws (log : List SpriteDraw) (x : DrawStep) : List SpriteDraw :=
  match x.2.1 with
  | .beginActor _ _ | .endActor => log ++ actorDraws x.1
  | .resetScene | .latchFrame => []
  | _ => log

def drawLog (steps : List DrawStep) : List SpriteDraw := steps.foldl logDraws []

/-- The range of a slot in the latched draws. -/
def slotRange (s : DrawState) (slot : Nat) : List SpriteDraw :=
  (s.latchedDraws.items.drop (s.drawStart slot)).take (s.drawStart (slot + 1) - s.drawStart slot)

/-- The ranges cover the list without overlap; each holds the draws of its slot, in the order of the
log. -/
structure Partitions (log : List SpriteDraw) (s : DrawState) : Prop where
  first : s.drawStart 0 = 0
  mono : ∀ slot, slot < 128 → s.drawStart slot ≤ s.drawStart (slot + 1)
  last : s.drawStart 128 = s.latchedDraws.count
  ranges : ∀ slot : Fin 128, (slotRange s slot).map (fun draw => { draw with order := 0 }) =
    log.filter fun draw => draw.slot = slot
  empty : ∀ slot : Fin 128, (∀ draw ∈ log, draw.slot ≠ slot) →
    s.drawStart slot = s.drawStart (slot + 1)

/-! ## What is pending -/

/-- The list holds the draws of the log, numbered in their order. -/
structure Records (l : DrawList) (log : List SpriteDraw) : Prop where
  draws : l.items.map (fun draw => { draw with order := 0 }) = log
  orders : l.items.map SpriteDraw.order = (List.range l.count).map UInt32.ofNat

theorem Records.nil (capacity : Nat) : Records ⟨[], capacity⟩ [] := ⟨rfl, rfl⟩

theorem Records.append {l : DrawList} {log : List SpriteDraw} (h : Records l log)
    {draw : SpriteDraw}
    (hdraw : draw.order = 0) : Records (l.append draw) (log ++ [draw]) := by
  refine ⟨?_, ?_⟩
  · unfold DrawList.append
    rw [List.map_append, h.draws, List.map_singleton, ← hdraw]
  · unfold DrawList.append DrawList.count
    rw [List.map_append, h.orders, List.length_append, List.length_singleton, List.range_succ,
      List.map_append]
    rfl

theorem Records.append_all {draws : List SpriteDraw} (hdraws : ∀ draw ∈ draws, draw.order = 0) :
    ∀ {l : DrawList} {log : List SpriteDraw}, Records l log →
    Records (draws.foldl DrawList.append l) (log ++ draws) := by
  induction draws with
  | nil =>
      intro l log h
      rwa [List.append_nil]
  | cons draw draws ih =>
      intro l log h
      obtain ⟨hdraw, hdraws⟩ := List.forall_mem_cons.1 hdraws
      have := ih hdraws (h.append hdraw)
      rwa [List.append_assoc] at this

theorem actorSlotDraw_order {s : DrawState} {slot : Fin 128} {draw : SpriteDraw}
    (h : actorSlotDraw s slot = some draw) :
    draw.order = 0 := by
  unfold actorSlotDraw at h
  obtain ⟨image, -, rfl⟩ := Option.map_eq_some_iff.1 h
  rfl

theorem actorDraws_order {s : DrawState} : ∀ draw ∈ actorDraws s, draw.order = 0 := by
  intro draw hdraw
  unfold actorDraws at hdraw
  split at hdraw
  · obtain ⟨slot, -, hslot⟩ := List.mem_filterMap.1 hdraw
    exact actorSlotDraw_order hslot
  · cases hdraw

/-- The slots of an actor are drawn from the memory and the record it ends with. -/
theorem endActorSlots (slots : List (Fin 128)) : ∀ s : DrawState,
    (slots.foldl endActorSlot s).pendingDraws =
      (slots.filterMap (actorSlotDraw s)).foldl DrawList.append s.pendingDraws := by
  induction slots with
  | nil => exact fun _ => rfl
  | cons slot slots ih =>
      intro s
      rw [List.foldl_cons, ih]
      cases hdraw : actorSlotDraw s slot with
      | none =>
          rw [List.filterMap_cons_none hdraw, endActorSlot, hdraw]
      | some draw =>
          rw [List.filterMap_cons_some hdraw, endActorSlot, hdraw]
          rfl

theorem endActor_draws (s : DrawState) :
    (endActor s).pendingDraws = (actorDraws s).foldl DrawList.append s.pendingDraws := by
  unfold endActor actorDraws
  split
  · exact endActorSlots _ s
  · rfl

theorem Records.endActor {s : DrawState} {log : List SpriteDraw} (h : Records s.pendingDraws log) :
    Records (endActor s).pendingDraws (log ++ actorDraws s) := by
  rw [endActor_draws]
  exact h.append_all actorDraws_order

theorem beginActor_draws (s : DrawState) (kind index : Nat) :
    (beginActor s kind index).pendingDraws = (endActor s).pendingDraws := by
  unfold beginActor
  dsimp only
  generalize (if kind ≠ 0 then 10 else 12) = bound
  split <;> rfl

theorem recordOam_draws (s : DrawState) (slot : Nat) (x : Int) (pos attr : UInt16) :
    (recordOam s slot x pos attr).pendingDraws = s.pendingDraws := by
  unfold recordOam
  split
  · dsimp only
    split <;> rfl
  · rfl

theorem recordSpritePiece_draws (x y : Int) (s : DrawState) (piece : Fin 64) :
    (recordSpritePiece x y s piece).pendingDraws = s.pendingDraws := by
  unfold recordSpritePiece
  dsimp only
  split <;> split <;> rfl

theorem recordSprite_draws (s : DrawState) (slot : Nat) (x y : Int) (first last : Nat) :
    (recordSprite s slot x y first last).pendingDraws = s.pendingDraws := by
  unfold recordSprite
  split
  · generalize List.range _ = steps
    induction steps generalizing s with
    | nil => rfl
    | cons i steps ih => rw [List.foldl_cons, ih, recordSpritePiece_draws]
  · rfl

theorem recordSpriteTile_draws (s : DrawState) (piece : Nat) (x y : Int) :
    (recordSpriteTile s piece x y).pendingDraws = s.pendingDraws := by
  unfold recordSpriteTile
  split
  · dsimp only
    split <;> rfl
  · rfl

/-- One event adds to the pending draws what it adds to the log. -/
theorem Records.step {q : QSort} {s : DrawState} {log : List SpriteDraw}
    (h : Records s.pendingDraws log) (e : DrawEvent) :
    Records (drawStep q s e).pendingDraws (logDraws log (s, e, drawStep q s e)) := by
  cases e with
  | guest ram => exact h
  | recordOam slot x pos attr =>
      rw [show drawStep q s (.recordOam slot x pos attr) = recordOam s slot x pos attr from rfl,
        recordOam_draws]
      exact h
  | recordSprite slot x y first last =>
      rw [show drawStep q s (.recordSprite slot x y first last) = recordSprite s slot x y first last
        from rfl, recordSprite_draws]
      exact h
  | recordSpriteTile piece x y =>
      rw [show drawStep q s (.recordSpriteTile piece x y) = recordSpriteTile s piece x y from rfl,
        recordSpriteTile_draws]
      exact h
  | beginActor kind index =>
      rw [show drawStep q s (.beginActor kind index) = beginActor s kind index from rfl,
        beginActor_draws]
      exact h.endActor
  | endActor => exact h.endActor
  | resetScene => exact .nil _
  | latchFrame => exact .nil _

/-- In every run from the reset renderer. -/
theorem records_run {q : QSort} {ram : Ram} {enabled : Bool} {s : DrawState} {steps : List DrawStep}
    (h : Run (fun s e s' => drawStep q s e = s') (.start ram enabled) steps s) :
    Records s.pendingDraws (drawLog steps) := by
  refine h.history (P := fun steps s => Records s.pendingDraws (drawLog steps)) (.nil 0) ?_
  rintro before u e v hu rfl
  unfold drawLog at hu ⊢
  rw [List.foldl_append]
  exact hu.step e

/-! ## The index -/

/-- One pass, each start found from the one before. -/
theorem indexDraws_eq (items : List SpriteDraw) (drawStart : Nat → Nat) {slot : Nat}
    (h : slot ≤ 128) :
    indexDraws items drawStart slot = bucketStart (fun draw => draw.slot.val) items slot := by
  have hpass : ∀ n, ∃ next starts, (List.range n).foldl (fun (next, drawStart) slot =>
      let next := next + ((items.drop next).takeWhile fun draw => draw.slot.val < slot).length
      (next, Function.update drawStart slot next)) (0, drawStart) = (next, starts) ∧
        next = bucketStart (fun draw => draw.slot.val) items (n - 1) ∧
          ∀ k < n, starts k = bucketStart (fun draw => draw.slot.val) items k := by
    intro n
    induction n with
    | zero => exact ⟨0, drawStart, rfl, (bucketStart_zero items).symm, (fun k hk => nomatch hk)⟩
    | succ n ih =>
        obtain ⟨next, starts, hrun, hnext, hstarts⟩ := ih
        have hadd := bucketStart_add (fun draw : SpriteDraw => draw.slot.val) items (Nat.sub_le n 1)
        rw [← hnext] at hadd
        rw [List.range_succ, List.foldl_append, hrun]
        refine ⟨_, _, rfl, hadd, fun k hk => ?_⟩
        rcases Nat.lt_succ_iff_lt_or_eq.1 hk with hlt | rfl
        · rw [Function.update_of_ne (Nat.ne_of_lt hlt)]
          exact hstarts k hlt
        · rw [Function.update_self]
          exact hadd
  obtain ⟨next, starts, hrun, -, hstarts⟩ := hpass 129
  unfold indexDraws
  rw [hrun]
  exact hstarts slot (by omega)

/-- The comparator orders by slot, and by number within a slot. -/
theorem compareDraw_le {x y : SpriteDraw} : compareDraw x y ≤ 0 ↔
    x.slot.val < y.slot.val ∨ x.slot.val = y.slot.val ∧ x.order.toNat ≤ y.order.toNat := by
  unfold compareDraw
  by_cases hslot : x.slot = y.slot
  · rw [if_neg (not_not_intro hslot), hslot]
    by_cases hlt : x.order < y.order
    · rw [if_pos hlt]
      exact iff_of_true (by decide) (.inr ⟨rfl, Nat.le_of_lt (UInt32.lt_iff_toNat_lt.1 hlt)⟩)
    · have hle : y.order.toNat ≤ x.order.toNat := Nat.le_of_not_lt fun h =>
        hlt (UInt32.lt_iff_toNat_lt.2 h)
      rw [if_neg hlt]
      by_cases heq : x.order = y.order
      · simp [heq]
      · have hne : x.order.toNat ≠ y.order.toNat := fun h => heq (UInt32.toNat_inj.1 h)
        rw [if_pos heq]
        omega
  · have hne : x.slot.val ≠ y.slot.val := fun h => hslot (Fin.ext h)
    rw [if_pos hslot]
    by_cases hlt : x.slot < y.slot
    · have : x.slot.val < y.slot.val := hlt
      rw [if_pos hlt]
      omega
    · have : ¬ x.slot.val < y.slot.val := hlt
      rw [if_neg hlt]
      omega

/-- Up to `2 ^ 32` draws have each its own number, in their order. -/
theorem Records.increasing {l : DrawList} {log : List SpriteDraw} (h : Records l log)
    (hcount : l.count ≤ 2 ^ 32) :
    l.items.Pairwise fun x y => x.order.toNat < y.order.toNat := by
  have hrange : ((List.range l.count).map UInt32.ofNat).Pairwise fun m n => m.toNat < n.toNat := by
    refine List.pairwise_map.2 (List.pairwise_lt_range.imp_of_mem fun {m n} hm hn hlt => ?_)
    have hm := List.mem_range.1 hm
    have hn := List.mem_range.1 hn
    rw [UInt32.toNat_ofNat_of_lt' (by simp only [UInt32.size]; omega),
      UInt32.toNat_ofNat_of_lt' (by simp only [UInt32.size]; omega)]
    exact hlt
  rw [← h.orders, List.pairwise_map] at hrange
  exact hrange

/-- The draws that are latched: those pending, in an order that the comparator accepts. -/
def sortDraws (q : QSort) (l : DrawList) : List SpriteDraw :=
  if l.count > 1 then q.sort l.items else l.items

theorem sortDraws_perm (q : QSort) (l : DrawList) : (sortDraws q l).Perm l.items := by
  unfold sortDraws
  split
  · exact q.perm _
  · exact .rfl

theorem sortDraws_sorted (q : QSort) (l : DrawList) :
    (sortDraws q l).Pairwise fun x y => x.slot.val < y.slot.val ∨ x.slot.val = y.slot.val ∧
    x.order.toNat ≤ y.order.toNat := by
  unfold sortDraws
  split
  case isTrue => exact (q.sorted _).imp compareDraw_le.1
  case isFalse h =>
    unfold DrawList.count at h
    match hitems : l.items, h with
    | [], _ => exact .nil
    | [draw], _ => exact List.pairwise_singleton _ _
    | _ :: _ :: _, h => exact absurd (Nat.succ_lt_succ (Nat.succ_pos _)) h

/-- What a latch that is not reused leaves of the draws. -/
structure LatchedFrom (q : QSort) (l : DrawList) (s : DrawState) : Prop where
  items : s.latchedDraws.items = sortDraws q l
  starts : ∀ slot ≤ 128, s.drawStart slot = bucketStart (fun draw => draw.slot.val)
    (sortDraws q l) slot

theorem latchFrame_latched {q : QSort} {s : DrawState} (h : reuseDraws (endActor s) = false) :
    LatchedFrom q (endActor s).pendingDraws (latchFrame q s) := by
  unfold latchFrame
  simp only [h]
  exact ⟨rfl, fun slot hslot => indexDraws_eq _ _ hslot⟩

theorem LatchedFrom.range_eq {q : QSort} {l : DrawList} {s : DrawState} (h : LatchedFrom q l s)
    (slot : Fin 128) :
    slotRange s slot = (sortDraws q l).filter fun draw => draw.slot.val = slot.val := by
  have hbucket := bucket_eq (fun draw : SpriteDraw => draw.slot.val)
    ((sortDraws_sorted q l).imp fun h => h.elim Nat.le_of_lt fun h => Nat.le_of_eq h.1) slot.val
  unfold slotRange
  rw [h.items, h.starts _ (by omega), h.starts _ (by omega), hbucket]

theorem LatchedFrom.partitions {q : QSort} {l : DrawList} {log : List SpriteDraw} {s : DrawState}
    (h : LatchedFrom q l s) (hl : Records l log) (hcount : log.length ≤ 2 ^ 32) :
    Partitions log s := by
  have hlength : l.items.length = log.length := by rw [← hl.draws, List.length_map]
  have hsorted := sortDraws_sorted q l
  have hranges : ∀ slot : Fin 128, slotRange s slot = l.items.filter fun draw =>
    draw.slot = slot := by
    intro slot
    have hstable :=
      stable_sort (fun draw : SpriteDraw => draw.slot.val) (sortDraws_perm q l) hsorted
      (hl.increasing (Nat.le_trans (Nat.le_of_eq hlength) hcount)) slot.val
    rw [h.range_eq, hstable]
    simp only [Fin.ext_iff]
  have hlast : s.drawStart 128 = s.latchedDraws.count := by
    rw [h.starts 128 (Nat.le_refl _), DrawList.count, h.items]
    exact bucketStart_all fun draw _ => draw.slot.isLt
  have hmono : ∀ slot, slot < 128 → s.drawStart slot ≤ s.drawStart (slot + 1) := by
    intro slot hslot
    rw [h.starts _ (by omega), h.starts _ (by omega)]
    exact bucketStart_mono _ (Nat.le_succ _)
  have hdraws : ∀ slot : Fin 128, (slotRange s slot).map (fun draw => { draw with order := 0 }) =
      log.filter fun draw => draw.slot = slot := by
    intro slot
    rw [hranges, ← hl.draws, List.filter_map]
    rfl
  refine ⟨?_, hmono, hlast, hdraws, ?_⟩
  · rw [h.starts 0 (Nat.zero_le _), bucketStart_zero]
  · intro slot hnone
    have hnil : log.filter (fun draw => decide (draw.slot = slot)) = [] :=
      List.filter_eq_nil_iff.2 fun draw hdraw => by simpa using hnone draw hdraw
    have hempty : (slotRange s slot).length = 0 := by
      rw [← List.length_map fun draw : SpriteDraw => { draw with order := 0 }, hdraws, hnil,
        List.length_nil]
    have hle : s.drawStart (slot + 1) ≤ s.latchedDraws.items.length := by
      rw [h.starts _ (by omega), h.items]
      exact bucketStart_le _ _
    have := hmono slot slot.isLt
    unfold slotRange at hempty
    rw [List.length_take, List.length_drop] at hempty
    omega

/-- In every run, a latch that is not reused indexes the draws appended since the last one. -/
theorem partitions_latch {q : QSort} {ram : Ram} {enabled : Bool} {s : DrawState}
    {steps : List DrawStep}
    (h : Run (fun s e s' => drawStep q s e = s') (.start ram enabled) steps s)
    (hnew : reuseDraws (endActor s) = false)
    (hcount : (drawLog steps ++ actorDraws s).length ≤ 2 ^ 32) :
    Partitions (drawLog steps ++ actorDraws s) (latchFrame q s) :=
  (latchFrame_latched hnew).partitions (records_run h).endActor hcount

/-! ## Draws of one slot

A turn of an actor that draws one tile, all other slots hidden. -/

def tileRam : Ram := fun a => if 0x204 ≤ a ∧ a < 0x400 then 240 else 0

def actorTurn (index : Nat) : List DrawEvent := [.beginActor 0 index, .recordOam 0 0 0 0, .endActor]

def tileDraw (index : Nat) : SpriteDraw := ⟨⟨0, 0, 0, true⟩, 0, 0, 0, index, 0⟩

/-- Between two turns. -/
structure Idle (s : DrawState) : Prop where
  ram : s.ram = tileRam
  inactive : s.actorDraw.active = false

theorem Idle.endActor {s : DrawState} (h : Idle s) : endActor s = s := by
  unfold SmwRecomp.Renderer.endActor
  rw [if_neg (by rw [h.inactive]; exact Bool.false_ne_true)]

theorem Idle.draws {s : DrawState} (h : Idle s) : actorDraws s = [] := by
  unfold actorDraws
  rw [if_neg (by rw [h.inactive]; exact Bool.false_ne_true)]

theorem endActor_ram (s : DrawState) : (endActor s).ram = s.ram := by
  have hslots : ∀ (slots : List (Fin 128)) (s : DrawState),
    (slots.foldl endActorSlot s).ram = s.ram := by
    intro slots
    induction slots with
    | nil => exact fun _ => rfl
    | cons slot slots ih =>
        intro s
        rw [List.foldl_cons, ih, endActorSlot]
        split <;> rfl
  unfold endActor
  split
  · exact hslots _ s
  · rfl

theorem endActor_inactive (s : DrawState) : (endActor s).actorDraw.active = false := by
  unfold endActor
  split
  case isTrue => rfl
  case isFalse h => exact Bool.eq_false_iff.2 h

/-- The one tile of the slot an actor recorded. -/
theorem tile_drawn {s : DrawState} {index : Nat} (hram : s.ram = tileRam)
    (hactive : s.actorDraw.active = true)
    (hkind : s.actorDraw.kind = 0) (hindex : s.actorDraw.index = index)
    (hexact : s.actorDraw.exact 0 = ⟨0, 0, 0, true⟩) : actorDraws s = [tileDraw index] := by
  have hfirst : actorSlotDraw s 0 = some (tileDraw index) := by
    unfold actorSlotDraw actorImage
    rw [hram, hexact, hkind, hindex]
    rfl
  have hhidden : ∀ slot : Fin 127, actorSlotDraw s slot.succ = none := by
    intro slot
    have hlow : tileRam (0x200 + slot.succ.val * 4) = 240 := by
      unfold tileRam
      rw [if_pos (by rw [Fin.val_succ]; omega)]
    have hhigh : tileRam (0x200 + slot.succ.val * 4 + 1) = 240 := by
      unfold tileRam
      rw [if_pos (by rw [Fin.val_succ]; omega)]
    unfold actorSlotDraw actorImage Ram.read16
    rw [hram, hlow, hhigh]
    rfl
  unfold actorDraws
  have hrest : (List.finRange 127).filterMap (actorSlotDraw s ∘ Fin.succ) = [] :=
    List.filterMap_eq_nil_iff.2 fun slot _ => hhidden slot
  rw [if_pos hactive, List.finRange_succ, List.filterMap_cons_some hfirst,
    List.filterMap_map, hrest]

/-- A turn logs its tile. -/
theorem Idle.turn {q : QSort} {s : DrawState} (h : Idle s) {index : Nat} (hindex : index < 12)
    (log : List SpriteDraw) :
    (traceOf (drawStep q) s (actorTurn index)).foldl logDraws log = log ++ [tileDraw index] ∧
      Idle ((actorTurn index).foldl (drawStep q) s) := by
  have hbegin : beginActor s 0 index = { s with
      actorDraw :=
        { ActorDraw.zero with active := true, kind := 0, index, before := fun i => s.ram (0x200 + i) }
      actorsRan := true } := by
    unfold beginActor
    rw [h.endActor, if_neg (by simpa using hindex)]
  refine ⟨?_, ?_, endActor_inactive _⟩
  · simp only [actorTurn, traceOf, List.foldl_cons, List.foldl_nil, logDraws, h.draws,
      List.append_nil, drawStep, hbegin]
    exact congrArg (log ++ ·) (tile_drawn h.ram rfl rfl rfl rfl)
  · simp only [actorTurn, List.foldl_cons, List.foldl_nil, drawStep, hbegin]
    rw [endActor_ram]
    exact h.ram

/-- Turns of one actor, and then one of another. -/
def actorTurns (n : Nat) : List DrawEvent := (List.replicate n (actorTurn 0)).flatten ++ actorTurn 1

theorem Idle.turns {q : QSort} (n : Nat) : ∀ {s : DrawState}, Idle s → ∀ log,
    (traceOf (drawStep q) s (actorTurns n)).foldl logDraws log = log ++ List.replicate n
      (tileDraw 0) ++ [tileDraw 1] ∧
      Idle ((actorTurns n).foldl (drawStep q) s) := by
  induction n with
  | zero =>
      intro s h log
      rw [List.replicate_zero, List.append_nil]
      exact h.turn (by decide) log
  | succ n ih =>
      intro s h log
      obtain ⟨hlog, hidle⟩ := h.turn (q := q) (show 0 < 12 by decide) log
      obtain ⟨hlog', hidle'⟩ := ih hidle (log ++ [tileDraw 0])
      have hturns : actorTurns (n + 1) = actorTurn 0 ++ actorTurns n := rfl
      rw [hturns, traceOf_append, List.foldl_append, List.foldl_append, hlog, hlog']
      refine ⟨?_, hidle'⟩
      rw [List.replicate_succ, List.append_assoc log]
      rfl

/-- What a run of turns leaves to the latch. -/
theorem turns_run (q : QSort) (n : Nat) : ∃ steps s,
    Run (fun s e s' => drawStep q s e = s') (.start tileRam true) steps s ∧
    reuseDraws (endActor s) = false ∧
      drawLog steps ++ actorDraws s = List.replicate n (tileDraw 0) ++ [tileDraw 1] := by
  obtain ⟨hlog, hidle⟩ := Idle.turns (q := q) n (s := .start tileRam true) ⟨rfl, rfl⟩ []
  have hrun : Run (fun s e s' => drawStep q s e = s') (.start tileRam true)
      (traceOf (drawStep q) (.start tileRam true) (actorTurns n))
        ((actorTurns n).foldl (drawStep q) (.start tileRam true)) :=
    .trace (fun _ _ => rfl) _ _
  refine ⟨_, _, hrun, ?_, ?_⟩
  · have hcount := congrArg List.length (records_run hrun).draws
    rw [drawLog, hlog, List.length_map, List.nil_append, List.length_append, List.length_singleton]
      at hcount
    have hpending :
      decide (((actorTurns n).foldl (drawStep q) (.start tileRam true)).pendingDraws.count = 0) =
      false :=
      decide_eq_false (by rw [DrawList.count, hcount]; exact Nat.succ_ne_zero _)
    rw [hidle.endActor, reuseDraws, hpending, Bool.and_false, Bool.false_and]
  · rw [hidle.draws, List.append_nil]
    exact hlog

/-- Of more than `2 ^ 32` draws of a slot the last goes by the number of the first. -/
theorem LatchedFrom.misplaced {q : QSort} {l : DrawList} {a b : SpriteDraw} {s : DrawState}
    {n : Nat} (h : LatchedFrom q l s)
    (hn : n = 4294967296) (hl : Records l (List.replicate n a ++ [b])) (hne : a ≠ b)
    (hslot : a.slot = b.slot) :
    ¬ Partitions (List.replicate n a ++ [b]) s := by
  intro hp
  have hlog : ∀ draw ∈ List.replicate n a ++ [b], draw.slot = b.slot := by
    intro draw hdraw
    rcases List.mem_append.1 hdraw with hdraw | hdraw
    · rw [List.eq_of_mem_replicate hdraw, hslot]
    · rw [List.mem_singleton.1 hdraw]
  have hslots : ∀ draw ∈ l.items, draw.slot = b.slot := by
    intro draw hdraw
    have := hlog { draw with order := 0 } (hl.draws ▸ List.mem_map_of_mem hdraw)
    exact this
  -- the pending draws end with the odd one, whose number is back at 0
  obtain ⟨first, last, hitems, hfirst, hlast⟩ := List.map_eq_append_iff.1 hl.draws
  obtain ⟨y, rfl⟩ : ∃ y, last = [y] :=
    List.length_eq_one_iff.1 (by simpa using congrArg List.length hlast)
  have hlength : first.length = n := by simpa using congrArg List.length hfirst
  have hnumbers : first.map SpriteDraw.order = (List.range n).map UInt32.ofNat ∧
    y.order = UInt32.ofNat n := by
    have horders := hl.orders
    rw [DrawList.count, hitems, List.length_append, List.length_singleton, hlength, List.range_succ,
      List.map_append, List.map_append] at horders
    obtain ⟨hinit, htail⟩ := List.append_inj' horders rfl
    exact ⟨hinit, List.singleton_inj.1 htail⟩
  have hyorder : y.order = 0 := by
    rw [hnumbers.2, hn]
    rfl
  -- the sorted draws would have to end with it as well, behind the draw of number 1
  have hall : slotRange s b.slot = sortDraws q l := by
    rw [h.range_eq, List.filter_eq_self.2 fun draw hdraw => ?_]
    rw [hslots draw ((sortDraws_perm q l).mem_iff.1 hdraw)]
    exact decide_eq_true rfl
  have hsame := hp.ranges b.slot
  rw [hall,
    List.filter_eq_self.2 fun draw hdraw => by rw [hlog draw hdraw]; exact decide_eq_true rfl]
    at hsame
  obtain ⟨init, tail, hsorted, -, htail⟩ := List.map_eq_append_iff.1 hsame
  obtain ⟨x, rfl⟩ : ∃ x, tail = [x] :=
    List.length_eq_one_iff.1 (by simpa using congrArg List.length htail)
  have hmem : ∀ draw, draw ∈ sortDraws q l ↔ draw ∈ first ∨ draw = y := by
    intro draw
    rw [(sortDraws_perm q l).mem_iff, hitems, List.mem_append, List.mem_singleton]
  have hx : x = y := by
    refine ((hmem x).1 (by rw [hsorted]; simp)).resolve_left fun hmem => hne ?_
    have hclear := List.eq_of_mem_replicate (hfirst ▸ List.mem_map_of_mem hmem)
    exact hclear.symm.trans (List.singleton_inj.1 htail)
  obtain ⟨z, hz, hzorder⟩ : ∃ z ∈ first, z.order = 1 := by
    have hone : UInt32.ofNat 1 ∈ (List.range n).map UInt32.ofNat :=
      List.mem_map_of_mem (List.mem_range.2 (by omega))
    rw [← hnumbers.1] at hone
    obtain ⟨z, hz, hzorder⟩ := List.mem_map.1 hone
    exact ⟨z, hz, hzorder⟩
  have hzinit : z ∈ init := by
    have hzmem := (hmem z).2 (.inl hz)
    rw [hsorted, List.mem_append, List.mem_singleton] at hzmem
    refine hzmem.resolve_right fun heq => ?_
    rw [heq, hx, hyorder] at hzorder
    exact absurd hzorder (by decide)
  have hpairs := sortDraws_sorted q l
  rw [hsorted] at hpairs
  have hzx := (List.pairwise_append.1 hpairs).2.2 z hzinit x (List.mem_singleton_self x)
  rw [hx, hzorder, hyorder, hslots z (by rw [hitems]; exact List.mem_append_left _ hz),
    hslots y (by rw [hitems]; simp)] at hzx
  rcases hzx with hlt | ⟨-, hle⟩
  · exact absurd hlt (Nat.lt_irrefl _)
  · exact absurd hle (by decide)

/-- `qsort` as a merge sort. -/
def mergeDraws : QSort where
  sort l := l.mergeSort fun x y => decide (compareDraw x y ≤ 0)
  perm l := List.mergeSort_perm l _
  sorted l := by
    have htrans : ∀ x y z : SpriteDraw, decide (compareDraw x y ≤ 0) = true →
      decide (compareDraw y z ≤ 0) = true →
        decide (compareDraw x z ≤ 0) = true := by
      intro x y z hxy hyz
      rw [decide_eq_true_eq, compareDraw_le] at hxy hyz ⊢
      omega
    have htotal : ∀ x y : SpriteDraw,
      (decide (compareDraw x y ≤ 0) || decide (compareDraw y x ≤ 0)) = true := by
      intro x y
      rw [Bool.or_eq_true, decide_eq_true_eq, decide_eq_true_eq, compareDraw_le, compareDraw_le]
      omega
    exact (List.pairwise_mergeSort htrans htotal l).imp of_decide_eq_true

/-- Two actors in turn draw a tile. -/
theorem partitions_latch_turns : ∃ steps s,
    Run (fun s e s' => drawStep mergeDraws s e = s') (.start tileRam true) steps s ∧
      drawLog steps ++ actorDraws s = [tileDraw 0, tileDraw 1] ∧
      Partitions (drawLog steps ++ actorDraws s) (latchFrame mergeDraws s) := by
  obtain ⟨steps, s, hrun, hnew, hlog⟩ := turns_run mergeDraws 1
  refine ⟨steps, s, hrun, hlog, partitions_latch hrun hnew ?_⟩
  rw [hlog]
  decide

/-- An actor draws a tile `2 ^ 32` times before another draws it: the other's is latched among the
first. -/
theorem misplaced_draw : ∃ steps s,
    Run (fun s e s' => drawStep mergeDraws s e = s') (.start tileRam true) steps s ∧
    reuseDraws (endActor s) = false ∧
      ¬ Partitions (drawLog steps ++ actorDraws s) (latchFrame mergeDraws s) := by
  obtain ⟨steps, s, hrun, hnew, hlog⟩ := turns_run mergeDraws 4294967296
  have hrecords := (records_run hrun).endActor
  rw [hlog] at hrecords
  refine ⟨steps, s, hrun, hnew, ?_⟩
  rw [hlog]
  exact (latchFrame_latched hnew).misplaced rfl hrecords (by decide) rfl

end SmwRecomp.Renderer
