import SmwRecomp.Coop.Guest
import SmwRecomp.Lib.Checked

/-!
# Terrain queries

`src/src/mods/coop/coop_terrain.c`: Map16 collision data read out of guest memory, and the placement
query over it.

* `int`s and `unsigned`s are `Int`s and `Nat`s; what may leave `int` or an array is `Checked`.
* The loops over cells run on fuel that a run past it reports, so that their end is a theorem.
-/

set_option autoImplicit false

namespace SmwRecomp.Coop

/-- `sizeof` the guest's memory. -/
def ramSize : Nat := 0x20000

structure CoopTerrain where
  ram : Ram
  rom : Nat → UInt8
  romSize : Nat
  session : Option CoopSession
  entities : List CoopEntity

namespace CoopTerrain

variable (t : CoopTerrain)

/-- `t->ram[address]`. -/
def byte (address : Nat) : Checked Nat := do
  let b ← peek ramSize t.ram address
  return b.toNat

/-- `rom8`. -/
def rom8 (address : Nat) : Checked (Option Nat) :=
  if address &&& 0xffff < 0x8000 then .ok none
  else
    let offset := (address >>> 16 &&& 0x7f) * 0x8000 + (address &&& 0x7fff)
    if offset ≥ t.romSize then .ok none
    else do
      let b ← peek t.romSize t.rom offset
      return some b.toNat

/-! ## Map16 blocks -/

/-- The screen of a pixel and its block's offset in the screen's Map16 data. -/
def cell (layer : Nat) (x y : Int) : Checked (Option (Nat × Nat)) := do
  if layer > 1 ∨ x < 0 ∨ y < 0 then return none
  let mode ← t.byte 0x5b
  let vertical := mode &&& (1 <<< layer) ≠ 0
  let screen := (if vertical then y else x).toNat >>> 8
  let limit ← if layer ≠ 0 then (if vertical then .ok 14 else .ok 16) else t.byte 0x5d
  if screen ≥ limit ∨ screen ≥ 32 ∨ (if vertical then x ≥ 512 else y ≥ 432) then return none
  let index := (y.toNat &&& 0xf0) ||| (x.toNat &&& 255) >>> 4
  return some (screen, index + ((if vertical then x else y).toNat &&& 0xff00))

/-- The tables of the low and the high bytes of the screens' addresses. -/
def tables (layer : Nat) (vertical : Bool) : Nat × Nat :=
  if vertical then (if layer ≠ 0 then (0xba8e, 0xbaca) else (0xba80, 0xbabc))
  else if layer ≠ 0 then (0xba70, 0xbaac) else (0xba60, 0xba9c)

/-- `RemapBlocks` (`$00:F545`): the effect of the switches, read and not run. -/
def remap (pSwitch silver : Nat) (b : Nat) : Nat :=
  if b < 256 then
    if b = 0x29 ∧ pSwitch ≠ 0 then 0x24
    else if (b = 0x2b ∧ pSwitch ≠ 0) ∨ (b ≥ 0xec ∧ b < 0xfc) then 0x132
    else b
  else if (b = 0x132 ∧ pSwitch ≠ 0) ∨ (b = 0x12f ∧ silver ≠ 0) then 0x2b
  else b

/-- The block at an address of the Map16 planes. -/
def blockAt (address : Nat) : Checked (Option Nat) := do
  if address < 0xc800 ∨ address > 0xffff then return none
  let low ← t.byte address
  let high ← t.byte (address + 0x10000)
  let b := low ||| high <<< 8
  if b ≥ 512 then return none
  let pSwitch ← t.byte 0x14ad
  let silver ← t.byte 0x14ae
  return some (remap pSwitch silver b)

/-- `coop_terrain_block`. -/
def block (layer : Nat) (x y : Int) : Checked (Option Nat) := do
  match ← t.cell layer x y with
  | none => return none
  | some (screen, index) =>
    let mode ← t.byte 0x5b
    let (lo, hi) := tables layer (mode &&& (1 <<< layer) ≠ 0)
    match ← t.rom8 (lo + screen) with
    | none => return none
    | some l =>
      match ← t.rom8 (hi + screen) with
      | none => return none
      | some h => t.blockAt (l + h <<< 8 + index)

/-! ## Clearance -/

/-- `dangerous`. -/
def dangerous (b : Nat) : Bool :=
  let tileset := (t.ram 0x1931).toNat
  if b = 5 ∨ b = 0x12f ∨ b ≥ 0x1fb then true
  else if (tileset = 5 ∨ tileset = 13) ∧ b ≥ 0x159 ∧ b ≤ 0x15b then true
  else if tileset = 1 ∧ (b = 0x15c ∨ (b ≥ 0x166 ∧ b < 0x16a)) then true
  else (tileset = 3 ∨ tileset = 14) ∧ b ≥ 0x1d2

/-- What `body_clear` lets a body be in. -/
def passable (b : Nat) (water : Bool) : Bool :=
  if b < 256 then !(b < 5 && !water) else !decide (b ≥ 0x111)

/-- One row of `body_clear`, from `x` on. -/
def rowClear (layer : Nat) (right y : Int) (water : Bool) : Nat → Int → Checked Bool
  | 0, _ => .error .spins
  | fuel + 1, x => do
    if x > right then return true
    match ← t.block layer x y with
    | none => return false
    | some b =>
      if t.dangerous b || !passable b water then return false
      let next ← int32 (x / 16 * 16 + 16)
      rowClear layer right y water fuel (if next > right ∧ x ≠ right then right else next)

/-- The rows of `body_clear`, from `y` on. -/
def rowsClear (layer : Nat) (left right feet : Int) (water : Bool) : Nat → Int → Checked Bool
  | 0, _ => .error .spins
  | fuel + 1, y => do
    if y ≥ feet then return true
    if !(← t.rowClear layer right y water ((right - left).toNat + 2) left) then return false
    let next ← int32 (y / 16 * 16 + 16)
    rowsClear layer left right feet water fuel
      (if next ≥ feet ∧ y ≠ feet - 1 then feet - 1 else next)

/-- `body_clear`. -/
def bodyClear (layer : Nat) (left right top feet : Int) (water : Bool) : Checked Bool :=
  t.rowsClear layer left right feet water ((feet - top).toNat + 1) top

/-- `footing`. -/
def footing (layer : Nat) (x feet : Int) : Checked Bool := do
  match ← t.block layer x feet with
  | none => return false
  | some b =>
    let tileset := (t.ram 0x1931).toNat
    if t.dangerous b then return false
    -- Lava in the underground tilesets is no floor.
    if (tileset = 3 ∨ tileset = 14) ∧ b ≥ 0x159 ∧ b ≤ 0x15b then return false
    return decide (b ≥ 0x100) && decide (b < 0x16e) && decide (feet % 16 = 0)

/-! ## Sprites -/

/-- A 16-bit coordinate in two tables of a sprite slot. -/
def coordinate (low high slot : Nat) : Int :=
  ((t.ram (low + slot)).toNat + 256 * (t.ram (high + slot)).toNat : Nat)

/-- `rider_owns_sprite`. -/
def riderOwnsSprite (slot : Nat) : Bool :=
  match t.session with
  | none => false
  | some session =>
    decide (t.ram (0x9e + slot) = 0x35) && decide (t.ram (0x14c8 + slot) = 8) &&
      t.entities.any fun e =>
        decide (e.kind = COOP_ENTITY_NORMAL) && decide (e.slot.toNat = slot) &&
          decide (e.type = 0x35) &&
          decide (e.flags = COOP_ENTITY_RIDDEN) &&
          match coopPlayer session e.owner with
          | none => false
          | some p => decide (p.mount = e.id) &&
            (decide (p.life = .is .playing) || decide (p.life = .is .deathBubble) ||
              decide (p.life = .is .catchupBubble))

/-- `platform_footing`. -/
def platformFooting (slot : Nat) (left right feet : Int) : Checked Bool := do
  if t.ram (0x14c8 + slot) ≠ 8 ∨ t.ram (0x9e + slot) < 0x55 ∨ t.ram (0x9e + slot) > 0x59
    then return false
  if feet ≠ t.coordinate 0xd8 0x14d4 slot + 1 then return false
  let clip := (t.ram (0x1662 + slot)).toNat &&& 0x3f
  match ← t.rom8 (0x03b56c + clip) with
  | none => return false
  | some dx =>
    match ← t.rom8 (0x03b5a8 + clip) with
    | none => return false
    | some width =>
      let x := t.coordinate 0xe4 0x14e0 slot + (Int8.ofNat dx).toInt
      return decide (width ≠ 0) && decide (left ≥ x) && decide (right < x + width)

/-- One sprite of `clear_of_sprites`. -/
def clearOfSprite (left right top feet : Int) (i : Nat) : Checked Bool := do
  if t.ram (0x14c8 + i) < 8 then return true
  if t.riderOwnsSprite i then return true
  if ← t.platformFooting i left right feet then return true
  let x := t.coordinate 0xe4 0x14e0 i
  let y := t.coordinate 0xd8 0x14d4 i
  return !(decide (right ≥ x - 16) && decide (left < x + 48) && decide (feet > y - 16) &&
    decide (top < y + 48))

/-- One extended object of `clear_of_sprites`. -/
def clearOfExtended (left right top feet : Int) (i : Nat) : Bool :=
  if t.ram (0x170b + i) = 0 then true
  else
    let x := t.coordinate 0x171f 0x1733 i
    let y := t.coordinate 0x1715 0x1729 i
    !(decide (right ≥ x - 8) && decide (left < x + 24) && decide (feet > y - 8) &&
      decide (top < y + 24))

end CoopTerrain

/-- A loop that returns `false` at the first refusal. -/
def allOk {α : Type} (check : α → Checked Bool) : List α → Checked Bool
  | [] => .ok true
  | a :: as => do
    if !(← check a) then return false
    allOk check as

/-- A loop that collects whether one of them holds. -/
def anyOk {α : Type} (check : α → Checked Bool) : List α → Checked Bool
  | [] => .ok false
  | a :: as => do
    let here ← check a
    let rest ← anyOk check as
    return here || rest

namespace CoopTerrain

variable (t : CoopTerrain)

/-- `clear_of_sprites`. -/
def clearOfSprites (left right top feet : Int) : Checked Bool := do
  if !(← allOk (t.clearOfSprite left right top feet) (List.range 12)) then return false
  return (List.range 10).all (t.clearOfExtended left right top feet)

/-! ## Placement -/

/-- The pose of a returning player: height, clearance and half width. -/
def pose (returning : CoopPlayer) : Int × Int × Int :=
  let mounted := returning.mount ≠ COOP_NO_ENTITY
  let height := if returning.checkpointUpgrade = true ∨ returning.power ≠ .is .small then 26 else 12
  let height := if mounted then (if height = 26 then 32 else 24) else height
  (height, if mounted then 48 else height, if mounted then 16 else 6)

/-- A layer that `safe_at` looks at. -/
def enabled (layer : Nat) : Bool :=
  if layer = 0 then decide (t.ram 0x5b &&& 0x40 = 0) else decide (t.ram 0x5b &&& 0x80 ≠ 0)

/-- The offset of a layer, `(int16_t)`. -/
def layerOffset (layer : Nat) : Int × Int :=
  if layer = 0 then (0, 0)
    else ((Int16.ofNat (t.ram.read16 0x26)).toInt, (Int16.ofNat (t.ram.read16 0x28)).toInt)

/-- One layer of `safe_at`: `none` when the body is not clear, else whether the feet have a floor.
-/
def layerSupport (left right top feet : Int) (water : Bool) (layer : Nat) :
    Checked (Option Bool) := do
  if !t.enabled layer then return some false
  let (dx, dy) := t.layerOffset layer
  let l ← int32 (left + dx)
  let r ← int32 (right + dx)
  let u ← int32 (top + dy)
  let f ← int32 (feet + dy)
  if !(← t.bodyClear layer l r u f water) then return none
  if !(← t.footing layer l f) then return some false
  return some (← t.footing layer r f)

/-- The other players of `safe_at`. -/
def clearOfPlayer (returning : CoopPlayer) (left right top feet : Int) (p : CoopPlayer) :
    Checked Bool := do
  if p.id = returning.id ∨ p.life ≠ .is .playing then return true
  let otherHalf := if p.mount ≠ COOP_NO_ENTITY then 16 else p.halfWidth.toInt
  let otherHeight := if p.mount ≠ COOP_NO_ENTITY then 48 else p.height.toInt
  let otherFeet ← int32 (p.y.toInt + p.height.toInt.tdiv 2)
  let near ← int32 (p.x.toInt - otherHalf)
  let near ← int32 (near - 4)
  if right < near then return true
  let far ← int32 (p.x.toInt + otherHalf)
  let far ← int32 (far + 4)
  if left > far then return true
  let otherTop ← int32 (otherFeet - otherHeight)
  return !(decide (feet > otherTop) && decide (top < otherFeet))

/-- `safe_at`. -/
def safeAt (returning anchor : CoopPlayer) (center : Int) : Checked (Option (Int × Int)) := do
  let (height, clearance, half) := pose returning
  let feet ← int32 (anchor.y.toInt + anchor.height.toInt.tdiv 2)
  let left ← int32 (center - half)
  let right ← int32 (center + half)
  let right ← int32 (right - 1)
  if left < 0 ∨ feet < clearance then return none
  let top := feet - clearance
  let water := anchor.swimming
  match ← t.layerSupport left right top feet water 0 with
  | none => return none
  | some support0 =>
    match ← t.layerSupport left right top feet water 1 with
    | none => return none
    | some support1 =>
      let platform ← anyOk (fun i => t.platformFooting i left right feet) (List.range 12)
      if !(support0 || support1 || platform) && !water then return none
      if !(← t.clearOfSprites left right top feet) then return none
      let players := match t.session with
        | some s => s.players
        | none => []
      if !(← allOk (clearOfPlayer returning left right top feet) players) then return none
      return some (center, feet - height.tdiv 2)

def offsets : List Int := [24, -24, 40, -40, 56, -56]

/-- The loop of `coop_terrain_safe` over the offsets. -/
def firstSafe (returning anchor : CoopPlayer) : List Int → Checked (Option (Int × Int))
  | [] => .ok none
  | d :: ds => do
    let center ← int32 (anchor.x.toInt + d)
    match ← t.safeAt returning anchor center with
    | some place => return some place
    | none => firstSafe returning anchor ds

/-- `coop_terrain_safe`. -/
def safe (returning anchor : CoopPlayer) : Checked (Option (Int × Int)) :=
  if anchor.life ≠ .is .playing then .ok none else t.firstSafe returning anchor offsets

end CoopTerrain

end SmwRecomp.Coop
