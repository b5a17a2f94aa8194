import SmwRecomp.Falcon.States
import SmwRecomp.Lib.Recall
import Mathlib.Algebra.Order.Ring.Rat
import Mathlib.Algebra.Order.Group.Unbundled.Abs

/-!
# The destructive volume of a Falcon special

`src/src/mods/falcon/smw_falcon_combat_apply.c`: `apply_native_blocks` and what it calls; the boxes
and the break test of `src/src/mods/falcon/smw_falcon_combat_policy.c`.

* `blockBreakVolumes`, `tiles` — the boxes of a move, and the 16-pixel tiles a sweep visits in one.
* `applyNativeBlocks` — one call; doubles are rationals, `fl` rounds where an operation may be
  inexact, and `answers` is what the native Map16 lookups of the call leave in `$1693`, in order.
* `candidates` — the tiles the call finds to break, in order, whatever it remembers of them.
* `breaks_once_iff` — when no tile is broken twice, however doubles are rounded.
* `binary64` — the rounding of the machine, for the fixed inputs.
-/

set_option autoImplicit false

namespace SmwRecomp.Falcon

/-! ## Boxes -/

/-- `SmwFalconAabb`. -/
structure Aabb where
  left : ℚ
  top : ℚ
  right : ℚ
  bottom : ℚ

/-- `ForeignAttackHitbox`, without knockback and damage. -/
structure ForeignAttackHitbox where
  offsetX : ℚ
  offsetY : ℚ
  width : ℚ
  height : ℚ
  flags : UInt32
  active : Bool

/-- `FOREIGN_ATTACK_BREAK_BLOCKS`. -/
def FOREIGN_ATTACK_BREAK_BLOCKS : UInt32 := 1

/-- `FOREIGN_ATTACK_CONTACT_ONLY`. -/
def FOREIGN_ATTACK_CONTACT_ONLY : UInt32 := 2

/-- `SMW_FALCON_SOURCE_TO_WORLD`, before it is rounded to a double. -/
def SMW_FALCON_SOURCE_TO_WORLD : ℚ := 8 / 100

/-- `smw_falcon_attack_world_aabb`; `fl` rounds the result of an operation to a double. -/
def attackWorldAabb (fl : ℚ → ℚ) (attack : ForeignAttackHitbox)
    (playerX playerY facing : ℚ) : Aabb :=
  if ¬ attack.active ∨ attack.width ≤ 0 ∨ attack.height ≤ 0 then ⟨0, 0, 0, 0⟩
  else
    let side : ℚ := if facing < 0 then -1 else 1
    let scale := fl SMW_FALCON_SOURCE_TO_WORLD
    let centerX := fl (fl (playerX + 8) + fl (fl (side * attack.offsetX) * scale))
    let centerY := fl (fl (playerY + 32) - fl (attack.offsetY * scale))
    let halfWidth := fl (fl (attack.width * scale) / 2)
    let halfHeight := fl (fl (attack.height * scale) / 2)
    ⟨fl (centerX - halfWidth), fl (centerY - halfHeight), fl (centerX + halfWidth),
      fl (centerY + halfHeight)⟩

/-- `smw_falcon_aabb_overlaps`. -/
def Aabb.overlaps (a b : Aabb) : Bool :=
  a.left < b.right ∧ a.right > b.left ∧ a.top < b.bottom ∧ a.bottom > b.top

/-- `block_intersects_attack`. -/
def blockIntersectsAttack (hit : Aabb) (x y : Int) : Bool :=
  hit.overlaps ⟨x, y, x + 16, y + 16⟩

/-! ## Blocks -/

/-- `SmwFalconMap16Class`. -/
inductive Map16Class where
  | brick
  | turnBlock
  | questionBlock
  | pipe
  | scenery
  | unknown
  deriving DecidableEq

/-- `smw_falcon_can_break_map16`. -/
def canBreakMap16 (attack : ForeignAttackHitbox) (cls : Map16Class) : Bool :=
  attack.active ∧ attack.flags &&& FOREIGN_ATTACK_BREAK_BLOCKS ≠ 0 ∧
    (cls = .brick ∨ cls = .turnBlock)

/-- `map16_low_class`. -/
def map16LowClass (low : UInt8) : Map16Class := if low = 0x1E then .turnBlock else .unknown

/-- What the call reads of guest RAM: `$94`, `$96`, `$9A`, `$98`, `$04`, `$1693`. -/
structure BlockScene where
  playerX : UInt16
  playerY : UInt16
  touchX : UInt16
  touchY : UInt16
  action : UInt8
  map16Current : UInt8

/-- `native_collision_block_class`. -/
def nativeCollisionBlockClass (scene : BlockScene) : Map16Class :=
  if scene.action = 7 then .brick
  else if scene.map16Current = 0x1E then .turnBlock
  else .unknown

/-- `SmwFalconCombatLedger`. -/
structure CombatLedger where
  moveState : CEnum FalconState
  active : Bool
  hadSpriteContact : Bool
  blockApplied : Bool
  blockFieldFrames : Nat
  hitSlots : UInt16
  newHitSlots : UInt16
  diveLatchedSlot : Int
  diveLatchedId : UInt8

/-- `SMW_FALCON_KICK_BLOCK_FIELD_FRAMES`. -/
def SMW_FALCON_KICK_BLOCK_FIELD_FRAMES : Nat := 12

/-- `SMW_FALCON_BLOCK_MAX_Y`. -/
def SMW_FALCON_BLOCK_MAX_Y : Int := 0x1F00

/-- The capacity of `broken_coords`. -/
def brokenCoordCapacity : Nat := 64

/-! ## Moves -/

/-- `block_sweep_can_repeat`. -/
def blockSweepCanRepeat (moveState : CEnum FalconState) : Bool :=
  moveState = .is .falconKickGround ∨ moveState = .is .falconKickGroundAir ∨
    moveState = .is .falconKickAir ∨ moveState = .is .falconKickLanding

/-- `block_sweep_is_diagonal_kick`. -/
def blockSweepIsDiagonalKick (moveState : CEnum FalconState) : Bool :=
  moveState = .is .falconKickAir ∨ moveState = .is .falconKickLanding

/-- The Punch on the ground or in the air. -/
def isFalconPunch (moveState : CEnum FalconState) : Bool :=
  moveState = .is .falconPunchGround ∨ moveState = .is .falconPunchAir

/-- `0.001`, before it is rounded to a double. -/
def thousandth : ℚ := 1 / 1000

/-- The attack has this offset and size, up to a thousandth. -/
def attackIs (fl : ℚ → ℚ) (attack : ForeignAttackHitbox)
    (offsetX offsetY width height : ℚ) : Bool :=
  |fl (attack.offsetX - offsetX)| < fl thousandth ∧
    |fl (attack.offsetY - offsetY)| < fl thousandth ∧
    |fl (attack.width - width)| < fl thousandth ∧ |fl (attack.height - height)| < fl thousandth

/-- `attack_is_main_falcon_kick`. -/
def attackIsMainFalconKick (fl : ℚ → ℚ) (attack : ForeignAttackHitbox) : Bool :=
  attackIs fl attack 336 40 630 600

/-- `attack_is_falcon_kick`. -/
def attackIsFalconKick (fl : ℚ → ℚ) (attack : ForeignAttackHitbox) : Bool :=
  attackIs fl attack 336 40 630 600 ∨ attackIs fl attack 0 140 400 280

/-- `attack_is_falcon_punch`. -/
def attackIsFalconPunch (fl : ℚ → ℚ) (attack : ForeignAttackHitbox) : Bool :=
  attackIs fl attack 350 100 700 650

/-- `block_move_state_for_attack`. -/
def blockMoveStateForAttack (fl : ℚ → ℚ) (attack : ForeignAttackHitbox)
    (moveState : CEnum FalconState) :
    CEnum FalconState :=
  if blockSweepCanRepeat moveState ∨ isFalconPunch moveState then moveState
  else if attackIsMainFalconKick fl attack then .is .falconKickGroundAir
  else if attackIsFalconKick fl attack ∨ (attack.flags &&& FOREIGN_ATTACK_BREAK_BLOCKS ≠ 0 ∧
      ¬ attackIsFalconPunch fl attack) then .is .falconKickLanding
  else moveState

/-- `block_break_volumes`. -/
def blockBreakVolumes (fl : ℚ → ℚ) (attack : ForeignAttackHitbox) (moveState : CEnum FalconState)
    (playerX playerY facing : ℚ) : List Aabb :=
  let hit := attackWorldAabb fl attack playerX playerY facing
  let right : Bool := ¬ facing < 0
  if blockSweepIsDiagonalKick moveState then
    -- two slabs down the way of the boot
    if right then
      [hit, ⟨playerX + 4, playerY + 16, playerX + 80, playerY + 56⟩,
        ⟨playerX + 32, playerY + 48, playerX + 112, playerY + 104⟩]
    else
      [hit, ⟨playerX - 64, playerY + 16, playerX + 12, playerY + 56⟩,
        ⟨playerX - 96, playerY + 48, playerX - 16, playerY + 104⟩]
  else if isFalconPunch moveState then
    let hit := { hit with top := fl (hit.top - 16), bottom := fl (hit.bottom + 8) }
    if right then [hit, ⟨playerX + 4, playerY - 32, playerX + 64, playerY + 64⟩]
    else [hit, ⟨playerX - 64, playerY - 32, playerX + 12, playerY + 64⟩]
  else if moveState = .is .falconKickGround then
    let hit := { hit with top := fl (hit.top - 4), bottom := fl (hit.bottom + 4) }
    if right then [hit, ⟨playerX + 4, playerY + 8, playerX + 128, playerY + 56⟩]
    else [hit, ⟨playerX - 112, playerY + 8, playerX + 12, playerY + 56⟩]
  else [hit]

/-! ## Tiles -/

/-- `((int)floor(q)) & ~15`. -/
def aligned (q : ℚ) : Int := q.floor / 16 * 16

/-- `for (v = first; v <= last; v += 16)`. -/
def everySixteen (first last : Int) : List Int :=
  (List.range ((last - first) / 16 + 1).toNat).map fun i => first + 16 * (i : Int)

/-- The tiles between two corners, row by row. -/
def tilesBetween (startX endX startY endY : Int) : List (Int × Int) :=
  (everySixteen startY endY).flatMap fun y => (everySixteen startX endX).map fun x => (x, y)

/-- The tiles a sweep visits in a box. -/
def tiles (fl : ℚ → ℚ) (hit : Aabb) : List (Int × Int) :=
  tilesBetween (aligned hit.left) (aligned (fl (hit.right - fl thousandth))) (aligned hit.top)
    (aligned (fl (hit.bottom - fl thousandth)))

/-- `is_ground_punch_support_block`. -/
def isGroundPunchSupportBlock (moveState : CEnum FalconState) (playerY : ℚ) (nativeTouchY : Int)
    (x y : Int) : Bool :=
  moveState = .is .falconPunchGround ∧ y = nativeTouchY ∧ (y : ℚ) ≥ playerY + 24 ∧ x ≥ 0

/-- `is_direct_sweep_tile`. -/
def isDirectSweepTile (moveState : CEnum FalconState) (playerX playerY facing : ℚ)
    (x y : Int) : Bool :=
  if ¬ isFalconPunch moveState then true
  else
    let topY := aligned (playerY - 32)
    let bottomY := aligned (playerY + 64)
    let originX := aligned playerX
    if y < topY ∨ y > bottomY then false
    else if facing < 0 then x ≥ originX - 48 ∧ x ≤ originX - 16
    else x ≥ originX + 16 ∧ x ≤ originX + 48

/-- `is_aerial_kick_direct_tile`; `anchorY` is the touched row its caller passes. -/
def isAerialKickDirectTile (moveState : CEnum FalconState) (nativeTouchX anchorY : Int) (facing : ℚ)
    (x y : Int) : Bool :=
  if ¬ blockSweepIsDiagonalKick moveState then false
  else if y < anchorY ∨ y > anchorY + 80 then false
  else
    let depth := (y - anchorY) / 16
    let reach := 32 + depth * 16
    if depth < 0 ∨ depth > 5 then false
    else if facing < 0 then x ≤ nativeTouchX ∧ x ≥ nativeTouchX - reach
    else x ≥ nativeTouchX ∧ x ≤ nativeTouchX + reach

/-- `kick_direct_anchor_y`. -/
def kickDirectAnchorY (moveState : CEnum FalconState) (nativeTouchY : Int) (playerY : ℚ) : Int :=
  if ¬ blockSweepIsDiagonalKick moveState then nativeTouchY
  else
    let footRow := aligned (playerY + 32)
    if nativeTouchY < footRow then footRow else nativeTouchY

/-! ## One call -/

/-- The locals a call computes before its sweeps. -/
structure BlockCall where
  fl : ℚ → ℚ
  attack : ForeignAttackHitbox
  facing : ℚ
  moveState : CEnum FalconState
  playerX : ℚ
  playerY : ℚ
  touchX : Int
  touchY : Int
  anchorY : Int
  volumes : List Aabb

def BlockScene.call (fl : ℚ → ℚ) (scene : BlockScene) (attack : ForeignAttackHitbox) (facing : ℚ)
    (ledger : CombatLedger) : BlockCall :=
  let moveState := blockMoveStateForAttack fl attack ledger.moveState
  let playerX : ℚ := scene.playerX.toNat
  let playerY : ℚ := scene.playerY.toNat
  let touchY : Int := scene.touchY.toNat / 16 * 16
  { fl := fl
    attack := attack
    facing := facing
    moveState := moveState
    playerX := playerX
    playerY := playerY
    touchX := scene.touchX.toNat / 16 * 16
    touchY := touchY
    anchorY := kickDirectAnchorY moveState touchY playerY
    volumes := blockBreakVolumes fl attack moveState playerX playerY facing }

/-- The break list of a call and the number of lookups it has made. -/
structure Sweep where
  memory : Recall (Int × Int)
  lookups : Nat

namespace BlockCall

/-- The touched tile carries a Punch on the ground. -/
def supports (b : BlockCall) (x y : Int) : Bool :=
  isGroundPunchSupportBlock b.moveState b.playerY b.touchY x y

/-- The tiles of a box the first sweep asks the game about. -/
def asks (b : BlockCall) (hit : Aabb) (c : Int × Int) : Bool :=
  ¬ (c.1 < 0 ∨ c.2 < 0 ∨ c.2 ≥ SMW_FALCON_BLOCK_MAX_Y ∨
    (blockSweepCanRepeat b.moveState ∧ c.2 < b.anchorY) ∨
    ¬ isDirectSweepTile b.moveState b.playerX b.playerY b.facing c.1 c.2 ∨
    ¬ blockIntersectsAttack hit c.1 c.2) ∧
  ¬ (c.1 = b.touchX ∧ b.supports c.1 c.2)

/-- The tiles of a box the direct sweep breaks unasked. -/
def takes (b : BlockCall) (hit : Aabb) (c : Int × Int) : Bool :=
  ¬ (c.2 < 0 ∨ c.2 ≥ SMW_FALCON_BLOCK_MAX_Y) ∧
  ¬ (c.1 < 0 ∨ ¬ isDirectSweepTile b.moveState b.playerX b.playerY b.facing c.1 c.2 ∨
    ¬ blockIntersectsAttack hit c.1 c.2 ∨ (c.1 = b.touchX ∧ b.supports c.1 c.2))

/-- The tiles the way of an aerial Kick takes unasked. -/
def takesAerial (b : BlockCall) (c : Int × Int) : Bool :=
  ¬ (c.2 < 0 ∨ c.2 ≥ SMW_FALCON_BLOCK_MAX_Y) ∧
  ¬ (c.1 < 0 ∨ ¬ isAerialKickDirectTile b.moveState b.touchX b.anchorY b.facing c.1 c.2)

/-- The tiles in front of the touched one, five rows down. -/
def aerialTiles (b : BlockCall) : List (Int × Int) :=
  let startX := if b.facing < 0 then b.touchX - 112 else b.touchX
  let endX := if b.facing < 0 then b.touchX else b.touchX + 112
  tilesBetween (startX / 16 * 16) (endX / 16 * 16) b.anchorY (b.anchorY + 80)

/-- A tile is broken unless it is remembered, and remembered while there is room. -/
def breakTile (r : Recall (Int × Int)) (c : Int × Int) : Recall (Int × Int) :=
  r.visit brokenCoordCapacity c

/-- The first sweep at one tile. -/
def confirm (b : BlockCall) (answers : Nat → UInt8) (s : Sweep) (c : Int × Int) : Sweep :=
  let cls := map16LowClass (answers s.lookups)
  { memory := if canBreakMap16 b.attack cls then breakTile s.memory c else s.memory
    lookups := s.lookups + 1 }

/-- The first sweep, over every box. -/
def confirmSweep (b : BlockCall) (answers : Nat → UInt8) : Sweep :=
  b.volumes.foldl (fun s hit =>
    (tiles b.fl hit).foldl (fun s c => if b.asks hit c then b.confirm answers s c else s) s)
      ⟨.empty, 0⟩

/-- The touched tile is broken when no tile was: at the first box it lies in. -/
def breakTouched (b : BlockCall) (r : Recall (Int × Int)) : Recall (Int × Int) :=
  if ¬ b.supports b.touchX b.touchY ∧
      b.volumes.any fun hit => blockIntersectsAttack hit b.touchX b.touchY then
    r.handle brokenCoordCapacity (b.touchX, b.touchY)
  else r

/-- The direct sweep, over every box and then along an aerial Kick. -/
def directSweep (b : BlockCall) (r : Recall (Int × Int)) : Recall (Int × Int) :=
  let r := b.volumes.foldl (fun r hit =>
    (tiles b.fl hit).foldl (fun r c => if b.takes hit c then breakTile r c else r) r) r
  if blockSweepIsDiagonalKick b.moveState then
    b.aerialTiles.foldl (fun r c => if b.takesAerial c then breakTile r c else r) r
  else r

end BlockCall

/-- The tiles a call breaks, in order, and the ledger it leaves. -/
structure BlockOutcome where
  broken : List (Int × Int)
  ledger : CombatLedger

/-- `apply_native_blocks`. -/
def applyNativeBlocks (fl : ℚ → ℚ) (scene : BlockScene) (attack : ForeignAttackHitbox) (facing : ℚ)
    (ledger : CombatLedger) (answers : Nat → UInt8) : BlockOutcome :=
  if attack.flags &&& FOREIGN_ATTACK_BREAK_BLOCKS = 0 then ⟨[], ledger⟩
  else
    let b := scene.call fl attack facing ledger
    let canRepeat := blockSweepCanRepeat b.moveState
    let nativeAuthorized := canBreakMap16 attack (nativeCollisionBlockClass scene)
    let field : Bool := canRepeat ∧ ¬ nativeAuthorized ∧ ledger.blockFieldFrames > 0
    let ledger :=
      if canRepeat ∧ nativeAuthorized then
        { ledger with blockFieldFrames := SMW_FALCON_KICK_BLOCK_FIELD_FRAMES }
      else if field then { ledger with blockFieldFrames := ledger.blockFieldFrames - 1 }
      else ledger
    let confirmed := (b.confirmSweep answers).memory
    let repeated : Bool := confirmed.handled ≠ [] ∧ canRepeat
    let ledger :=
      if repeated then { ledger with blockFieldFrames := SMW_FALCON_KICK_BLOCK_FIELD_FRAMES }
      else ledger
    let touched :=
      if confirmed.handled = [] ∧ nativeAuthorized then b.breakTouched confirmed else confirmed
    let swept := if nativeAuthorized ∨ field ∨ repeated then b.directSweep touched else touched
    ⟨swept.handled, ledger⟩

/-- `(uint16_t)x`, `(uint16_t)y`: the tile the native routines are told to break. -/
def touchedTile (c : Int × Int) : UInt16 × UInt16 := (UInt16.ofInt c.1, UInt16.ofInt c.2)

/-! ## The tiles a call finds -/

namespace BlockCall

/-- The tiles the first sweep asks the game about, in order. -/
def asked (b : BlockCall) : List (Int × Int) :=
  b.volumes.flatMap fun hit => (tiles b.fl hit).filter (b.asks hit)

/-- The asked tiles the game answers to be breakable. -/
def confirmedTiles (b : BlockCall) (answers : Nat → UInt8) : List (Int × Int) :=
  (b.asked.zipIdx.filter fun p => canBreakMap16 b.attack (map16LowClass (answers p.2))).map Prod.fst

/-- The touched tile, if it lies in a box and carries no Punch. -/
def touchedTiles (b : BlockCall) : List (Int × Int) :=
  if ¬ b.supports b.touchX b.touchY ∧
      b.volumes.any fun hit => blockIntersectsAttack hit b.touchX b.touchY then
    [(b.touchX, b.touchY)]
  else []

/-- The tiles of the direct sweep. -/
def directTiles (b : BlockCall) : List (Int × Int) :=
  (b.volumes.flatMap fun hit => (tiles b.fl hit).filter (b.takes hit)) ++
    if blockSweepIsDiagonalKick b.moveState then b.aerialTiles.filter b.takesAerial else []

end BlockCall

/-- The tiles a call finds to break, in order and with repetitions. -/
def candidates (fl : ℚ → ℚ) (scene : BlockScene) (attack : ForeignAttackHitbox) (facing : ℚ)
    (ledger : CombatLedger) (answers : Nat → UInt8) : List (Int × Int) :=
  if attack.flags &&& FOREIGN_ATTACK_BREAK_BLOCKS = 0 then []
  else
    let b := scene.call fl attack facing ledger
    let canRepeat := blockSweepCanRepeat b.moveState
    let nativeAuthorized := canBreakMap16 attack (nativeCollisionBlockClass scene)
    let field : Bool := canRepeat ∧ ¬ nativeAuthorized ∧ ledger.blockFieldFrames > 0
    let confirmed := b.confirmedTiles answers
    let touched := if confirmed = [] ∧ nativeAuthorized then b.touchedTiles else []
    let repeated : Bool := confirmed ≠ [] ∧ canRepeat
    confirmed ++ touched ++ if nativeAuthorized ∨ field ∨ repeated then b.directTiles else []

/-! ## What is broken -/

theorem visitAll_append (capacity : Nat) (l m : List (Int × Int)) :
    Recall.visitAll capacity (l ++ m) = m.foldl (Recall.visit capacity)
      (Recall.visitAll capacity l) := by
  unfold Recall.visitAll
  rw [List.foldl_append]

theorem handled_nil_iff (capacity : Nat) (l : List (Int × Int)) :
    (Recall.visitAll capacity l).handled = [] ↔ l = [] := by
  constructor
  · intro h
    refine List.eq_nil_iff_forall_not_mem.2 fun c hc => ?_
    have := (Recall.mem_handled capacity l c).2 hc
    rw [h] at this
    cases this
  · rintro rfl
    rfl

namespace BlockCall

/-- The first sweep breaks what it asks about and is answered to be breakable. -/
theorem confirmSweep_recall (b : BlockCall) (answers : Nat → UInt8) :
    (b.confirmSweep answers).memory = Recall.visitAll brokenCoordCapacity
      (b.confirmedTiles answers) := by
  have hflat : b.confirmSweep answers = b.asked.foldl (b.confirm answers) ⟨.empty, 0⟩ := by
    unfold confirmSweep asked
    rw [List.foldl_flatMap]
    congr 1
    funext s hit
    rw [List.foldl_filter]
  have hrun : ∀ l : List (Int × Int), l.foldl (b.confirm answers) ⟨.empty, 0⟩ =
      ⟨Recall.visitAll brokenCoordCapacity ((l.zipIdx.filter fun p =>
        canBreakMap16 b.attack (map16LowClass (answers p.2))).map Prod.fst), l.length⟩ := by
    intro l
    induction l using List.reverseRecOn with
    | nil => rfl
    | append_singleton l c ih =>
      rw [List.foldl_append, ih, List.zipIdx_append, List.filter_append, List.map_append,
        visitAll_append]
      simp only [List.foldl_cons, List.foldl_nil, List.zipIdx_singleton, Nat.zero_add,
        List.length_append, List.length_singleton]
      unfold confirm breakTile
      by_cases hbreak : canBreakMap16 b.attack (map16LowClass (answers l.length)) = true
      · rw [List.filter_cons_of_pos (by simpa using hbreak)]
        simp only [if_pos hbreak]
        rfl
      · rw [List.filter_cons_of_neg (by simpa using hbreak)]
        simp only [if_neg hbreak]
        rfl
  rw [hflat, hrun]
  rfl

theorem breakTouched_eq (b : BlockCall) :
    b.breakTouched .empty = b.touchedTiles.foldl breakTile .empty := by
  unfold breakTouched touchedTiles
  split <;> rfl

theorem directSweep_eq (b : BlockCall) (r : Recall (Int × Int)) :
    b.directSweep r = b.directTiles.foldl breakTile r := by
  have hboxes : ∀ r : Recall (Int × Int), b.volumes.foldl (fun r hit =>
      (tiles b.fl hit).foldl (fun r c => if b.takes hit c then breakTile r c else r) r) r =
      (b.volumes.flatMap fun hit => (tiles b.fl hit).filter (b.takes hit)).foldl breakTile r := by
    intro r
    rw [List.foldl_flatMap]
    congr 1
    funext s hit
    rw [List.foldl_filter]
  unfold directSweep directTiles
  rw [List.foldl_append, hboxes]
  dsimp only
  split
  · rw [List.foldl_filter]
  · rfl

end BlockCall

/-- A call breaks the tiles it finds, as far as it remembers them. -/
theorem broken_eq (fl : ℚ → ℚ) (scene : BlockScene) (attack : ForeignAttackHitbox) (facing : ℚ)
    (ledger : CombatLedger) (answers : Nat → UInt8) :
    (applyNativeBlocks fl scene attack facing ledger answers).broken =
      (Recall.visitAll brokenCoordCapacity
        (candidates fl scene attack facing ledger answers)).handled := by
  unfold applyNativeBlocks candidates
  split
  · rfl
  · dsimp only
    rw [(scene.call fl attack facing ledger).confirmSweep_recall answers]
    simp only [ne_eq, handled_nil_iff]
    have htouched : (if (scene.call fl attack facing ledger).confirmedTiles answers = [] ∧
          canBreakMap16 attack (nativeCollisionBlockClass scene) = true then
        (scene.call fl attack facing ledger).breakTouched (Recall.visitAll brokenCoordCapacity
          ((scene.call fl attack facing ledger).confirmedTiles answers))
        else Recall.visitAll brokenCoordCapacity
          ((scene.call fl attack facing ledger).confirmedTiles answers)) =
        Recall.visitAll brokenCoordCapacity
          ((scene.call fl attack facing ledger).confirmedTiles answers ++
          if (scene.call fl attack facing ledger).confirmedTiles answers = [] ∧
            canBreakMap16 attack (nativeCollisionBlockClass scene) = true then
            (scene.call fl attack facing ledger).touchedTiles else []) := by
      split
      · rename_i hnone
        rw [hnone.1]
        exact (scene.call fl attack facing ledger).breakTouched_eq
      · rw [List.append_nil]
    rw [htouched]
    split
    · rw [BlockCall.directSweep_eq]
      exact congrArg Recall.handled (visitAll_append _ _ _).symm
    · rw [List.append_nil]

/-- **Broken once**: a call tells the native routines no tile twice iff every tile it finds more
than once is among the first sixty-four different ones, and no two tiles it finds are 65536 pixels
apart. -/
theorem breaks_once_iff (fl : ℚ → ℚ) (scene : BlockScene)
    (attack : ForeignAttackHitbox) (facing : ℚ)
    (ledger : CombatLedger) (answers : Nat → UInt8) :
    ((applyNativeBlocks fl scene attack facing ledger answers).broken.map touchedTile).Nodup ↔
      (∀ c, Revisited (candidates fl scene attack facing ledger answers) c →
        rank (candidates fl scene attack facing ledger answers) c < brokenCoordCapacity) ∧
      ∀ c ∈ candidates fl scene attack facing ledger answers,
        ∀ c' ∈ candidates fl scene attack facing ledger answers,
          touchedTile c = touchedTile c' → c = c' := by
  rw [broken_eq, ← handled_nodup_iff]
  have hmem :=
    Recall.mem_handled brokenCoordCapacity (candidates fl scene attack facing ledger answers)
  constructor
  · intro h
    have hnodup := List.Nodup.of_map touchedTile h
    refine ⟨hnodup, fun c hc c' hc' heq => ?_⟩
    exact List.inj_on_of_nodup_map h ((hmem c).2 hc) ((hmem c').2 hc') heq
  · rintro ⟨hnodup, hinj⟩
    exact hnodup.map_on fun c hc c' hc' heq => hinj c ((hmem c).1 hc) c' ((hmem c').1 hc') heq

/-- The nearest whole number, ties to even. -/
def nearestEven (q : ℚ) : Int :=
  let n := (q + 1 / 2).floor
  if (n : ℚ) = q + 1 / 2 ∧ n % 2 = 1 then n - 1 else n

/-- `2 ^ k`. -/
def twoPow (k : Int) : ℚ := if k < 0 then 1 / (2 ^ k.natAbs : Nat) else (2 ^ k.natAbs : Nat)

/-- The double nearest to a number, ties to even: 53 bits, and none below `2 ^ -1074`; infinities
apart. -/
def binary64 (q : ℚ) : ℚ :=
  let up : Int := q.den.log2 + 52 - q.num.natAbs.log2
  let up := if |q| * twoPow up < twoPow 52 then up + 1 else up
  let up := min up 1074
  nearestEven (q * twoPow up) / twoPow up

/-- A hitbox of 160 by 80 pixels, which covers eleven by six tiles. -/
def wideKick : ForeignAttackHitbox := ⟨0, 0, 2000, 1000, FOREIGN_ATTACK_BREAK_BLOCKS, true⟩

/-- The ledger of a Kick that has just left the ground. -/
def kickLedger : CombatLedger := ⟨.is .falconKickGroundAir, true, false, false, 0, 0, 0, -1, 0⟩

/-- In a field of turn blocks the last two tiles of a wide Kick are broken again by the direct
sweep. -/
theorem breaks_twice :
    ¬ ∀ scene attack facing ledger answers,
      ((applyNativeBlocks binary64 scene attack facing ledger answers).broken.map
        touchedTile).Nodup := by
  intro h
  have htwice :
    ¬ ((applyNativeBlocks binary64 ⟨0x100, 0x100, 0x100, 0xF0, 0, 0x1E⟩ wideKick 1 kickLedger
      fun _ => 0x1E).broken.map touchedTile).Nodup := by decide +kernel
  exact htwice (h _ _ _ _ _)

/-! Rounding decides about a column of tiles: the left edge of this box is 208 to the reals. -/

example : (attackWorldAabb id ⟨105, 0, 1610, 1400, 1, true⟩ 0x100 0x100 1).left = 208 ∧
    aligned (attackWorldAabb binary64 ⟨105, 0, 1610, 1400, 1, true⟩ 0x100 0x100 1).left = 192 := by
  decide +kernel

end SmwRecomp.Falcon
