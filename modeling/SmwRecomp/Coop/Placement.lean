import SmwRecomp.Coop.Acceptance

/-!
# Landing

* `coopGuestPlacePlayer` — `coop_guest_place_player` of `src/src/mods/coop/coop_guest.c`;
  `read_place` — what `coop_guest_read_player` makes of what it wrote.
* `committed` — the record of a returned player as `recover_and_frame` has it placed.
* `Lands` — it stands where it was cleared to, its feet level with the anchor's; `lands_iff` — when
  it does.
-/

set_option autoImplicit false

namespace SmwRecomp.Coop

/-! ## Placing -/

/-- `put16`. -/
def Ram.put16 (ram : Ram) (address : Nat) (value : UInt32) : Ram :=
  (ram.put address value.toUInt8).put (address + 1) (value >>> 8).toUInt8

/-- A chain of assignments of zero. -/
def Ram.clear (ram : Ram) (addresses : List Nat) : Ram :=
  addresses.foldl (fun ram a => ram.put a 0) ram

/-- The position, equipment and pose of `coop_guest_place_player`. -/
def posePlayer (p : CoopPlayer) (ram : Ram) : Ram :=
  let ram := ram.put16 0x94 (p.x - 8).toUInt32
  let ram := ((ram.put 0x19 p.power.toWord.toUInt8).put 0xdc2 p.reserve.toUInt8).put 0x73 0
  let shape := clipShape ram
  ram.put16 0x96
    (p.y - Int32.ofNat (clipY.getD shape 0) - Int32.ofNat (clipHeight.getD shape 0 / 2)).toUInt32

/-- `coop_guest_place_player`. -/
def coopGuestPlacePlayer (p : CoopPlayer) (ram : Ram) : Ram :=
  let ram := posePlayer p ram
  let ram := ram.write 0xd1 (ram.bytes 0x94 4)
  let ram := ram.clear [0x7d, 0x7c, 0x7b, 0x7a, 0x13dc, 0x13da, 0x1496, 0x71]
  let ram := ram.put 0x1497 (if p.protectionTicks > 255 then 255 else p.protectionTicks).toUInt8
  let ram := ram.clear [0x140d, 0x1408, 0x1407]
  ram.put 0x72 (if p.grounded then 0 else 0x24)

/-! ## Words -/

theorem read16_put16 (ram : Ram) (a : Nat) (v : UInt32) :
    (ram.put16 a v).read16 a = v.toNat % 65536 := by
  have hhigh : (v >>> 8).toNat = v.toNat / 256 := by
    rw [UInt32.toNat_shiftRight, Nat.shiftRight_eq_div_pow]
    rfl
  unfold Ram.read16 Ram.put16 Ram.put
  rw [if_neg (by omega), if_pos rfl, if_pos rfl, UInt32.toNat_toUInt8, UInt32.toNat_toUInt8, hhigh]
  omega

theorem toNat_toUInt32 (v : Int32) : (v.toUInt32.toNat : Int) = v.toInt % 4294967296 := by
  rw [← Int32.toNat_toBitVec, ← Int32.toInt_toBitVec, BitVec.toInt_eq_toNat_bmod]
  have hlt := v.toBitVec.isLt
  rw [show (4294967296 : Int) = ((2 ^ 32 : Nat) : Int) from rfl, Int.bmod_emod]
  omega

theorem sub_emod (v : Int32) {c : Nat} (h : c < 2147483648) :
    (v - Int32.ofNat c).toInt % 65536 = (v.toInt - c) % 65536 := by
  rw [Int32.toInt_sub, Int32.toInt_ofNat_of_lt h]
  have hword := Int.bmod_emod (x := v.toInt - c) (m := 2 ^ 32)
  omega

/-- A word of guest memory that an `int` was written to. -/
theorem read16_put16_sub (ram : Ram) (a : Nat) (v : Int32) :
    ((ram.put16 a v.toUInt32).read16 a : Int) = v.toInt % 65536 := by
  have hword := toNat_toUInt32 v
  rw [read16_put16]
  omega

/-! ## Reading back -/

/-- The shape of a body: tall or not, mounted or not. -/
def bodyShape (tall mounted : Bool) : Nat := (if tall then 0 else 1) + (if mounted then 2 else 0)

def bodyHeight (tall mounted : Bool) : Nat := clipHeight.getD (bodyShape tall mounted) 0

/-- From the top of the pose's frame to the feet. -/
def reach (mounted : Bool) : Nat := if mounted then 48 else 32

theorem clipY_getD (tall mounted : Bool) :
    clipY.getD (bodyShape tall mounted) 0 + bodyHeight tall mounted / 2 +
      bodyHeight tall mounted / 2 = reach mounted := by
  cases tall <;> cases mounted <;> rfl

/-- Tall and short bodies differ by more than a pixel in the half. -/
theorem bodyHeight_half_inj {tall tall' mounted : Bool}
    (h : bodyHeight tall mounted / 2 = bodyHeight tall' mounted / 2) :
    tall = tall' := by
  cases tall <;> cases tall' <;> cases mounted <;> first | rfl | cases h

/-- The power written makes a body tall. -/
def tallPower (p : CoopPlayer) : Bool := p.power.toWord.toUInt8 ≠ 0

/-- The feet of a record, `y + height / 2`. -/
def feetOf (p : CoopPlayer) : Int := p.y.toInt + p.height.toInt.tdiv 2

theorem read_shape (ram : Ram) :
    clipShape ram = bodyShape (ram 0x73 = 0 ∧ ram 0x19 ≠ 0) (ram 0x187a ≠ 0) := by
  unfold clipShape bodyShape
  by_cases hduck : ram 0x73 = 0 <;> by_cases hpower : ram 0x19 = 0 <;>
    by_cases hmount : ram 0x187a = 0 <;>
    simp [hduck, hpower, hmount]

theorem clipHeight_le (tall mounted : Bool) :
    bodyHeight tall mounted ≤ 32 ∧ clipY.getD (bodyShape tall mounted) 0 ≤ 24 := by
  cases tall <;> cases mounted <;> decide

theorem tdiv_two (n : Nat) : (n : Int).tdiv 2 = (n / 2 : Nat) := by
  rw [Int.tdiv_eq_ediv_of_nonneg (Int.natCast_nonneg n)]
  omega

/-- The record that is read of a body. -/
theorem read_body (p : CoopPlayer) {ram : Ram} {tall mounted : Bool}
    (hshape : clipShape ram = bodyShape tall mounted) :
    (coopGuestReadPlayer p ram).x.toInt = ram.read16 0x94 + 8 ∧
    (coopGuestReadPlayer p ram).y.toInt = ram.read16 0x96 +
      (reach mounted - (bodyHeight tall mounted / 2 : Nat)) ∧
    (coopGuestReadPlayer p ram).height.toInt = bodyHeight tall mounted := by
  have hbounds := clipHeight_le tall mounted
  have hreach := clipY_getD tall mounted
  have hx := read16_lt ram 0x94
  have hy := read16_lt ram 0x96
  unfold coopGuestReadPlayer
  simp only [hshape]
  rw [← bodyHeight, Int32.toInt_ofNat_of_lt (by omega), Int32.toInt_ofNat_of_lt (by omega),
    Int32.toInt_ofNat_of_lt (by omega)]
  omega

/-- A record that was read has its feet at the reach of its pose. -/
theorem read_feet (p : CoopPlayer) (ram : Ram) :
    feetOf (coopGuestReadPlayer p ram) = ram.read16 0x96 + reach (ram 0x187a ≠ 0) := by
  obtain ⟨-, hy, hheight⟩ := read_body p (read_shape ram)
  unfold feetOf
  rw [hy, hheight, tdiv_two]
  omega

/-! ## What a placement leaves -/

/-- What a player's record is read from stays as it was posed. -/
theorem place_posed (p : CoopPlayer) (ram : Ram) {a : Nat}
    (ha : a ∈ [0x94, 0x95, 0x96, 0x97, 0x19, 0x73, 0x187a]) :
    coopGuestPlacePlayer p ram a = posePlayer p ram a := by
  unfold coopGuestPlacePlayer
  generalize posePlayer p ram = ram'
  simp only [List.mem_cons, List.not_mem_nil, or_false] at ha
  obtain rfl | rfl | rfl | rfl | rfl | rfl | rfl := ha <;> rfl

theorem read16_congr {ram ram' : Ram} {a : Nat} (hlow : ram a = ram' a)
    (hhigh : ram (a + 1) = ram' (a + 1)) :
    ram.read16 a = ram'.read16 a := by
  unfold Ram.read16
  rw [hlow, hhigh]

theorem place_shape (p : CoopPlayer) (ram : Ram) :
    clipShape (coopGuestPlacePlayer p ram) = bodyShape (tallPower p) (ram 0x187a ≠ 0) := by
  rw [read_shape, place_posed p ram (by simp), place_posed p ram (by simp),
    place_posed p ram (by simp)]
  have hduck : posePlayer p ram 0x73 = 0 := rfl
  have hpower : posePlayer p ram 0x19 = p.power.toWord.toUInt8 := rfl
  have hmount : posePlayer p ram 0x187a = ram 0x187a := rfl
  rw [hduck, hpower, hmount]
  unfold tallPower
  simp

theorem place_x (p : CoopPlayer) (ram : Ram) :
    ((coopGuestPlacePlayer p ram).read16 0x94 : Int) = (p.x.toInt - 8) % 65536 := by
  have hput := read16_put16_sub ram 0x94 (p.x - 8)
  rw [show (8 : Int32) = Int32.ofNat 8 from rfl, sub_emod p.x (by decide)] at hput
  rw [read16_congr (place_posed p ram (by simp)) (place_posed p ram (by simp))]
  exact hput

theorem place_y (p : CoopPlayer) (ram : Ram) :
    ((coopGuestPlacePlayer p ram).read16 0x96 : Int) =
      (p.y.toInt -
        (reach (ram 0x187a ≠ 0) -
        (bodyHeight (tallPower p) (ram 0x187a ≠ 0) / 2 : Nat))) % 65536 := by
  have hshape : clipShape
    ((((ram.put16 0x94 (p.x - 8).toUInt32).put 0x19 p.power.toWord.toUInt8).put 0xdc2
      p.reserve.toUInt8).put 0x73 0) = bodyShape (tallPower p) (ram 0x187a ≠ 0) := place_shape p ram
  have hreach := clipY_getD (tallPower p) (ram 0x187a ≠ 0)
  have hbounds := clipHeight_le (tallPower p) (ram 0x187a ≠ 0)
  rw [read16_congr (place_posed p ram (by simp)) (place_posed p ram (by simp))]
  unfold posePlayer
  dsimp only
  rw [hshape, read16_put16_sub, ← bodyHeight, sub_emod _ (by omega)]
  have htop :=
    sub_emod p.y (c := clipY.getD (bodyShape (tallPower p) (ram 0x187a ≠ 0)) 0) (by omega)
  omega

/-- What is read after a player was placed. -/
theorem read_place (back p : CoopPlayer) (ram : Ram) :
    let r := coopGuestReadPlayer back (coopGuestPlacePlayer p ram)
    let height := bodyHeight (tallPower p) (ram 0x187a ≠ 0)
    r.x.toInt = (p.x.toInt - 8) % 65536 + 8 ∧
    r.y.toInt = (p.y.toInt - (reach (ram 0x187a ≠ 0) - (height / 2 : Nat))) % 65536 +
      (reach (ram 0x187a ≠ 0) - (height / 2 : Nat)) ∧
    r.height.toInt = height := by
  obtain ⟨hx, hy, hheight⟩ := read_body back (place_shape p ram)
  rw [place_x] at hx
  rw [place_y] at hy
  exact ⟨hx, hy, hheight⟩

/-! ## Landing -/

/-- A record that `coop_session_recover` returns: a death bubble is small but for a checkpoint, and
has no mount. -/
def Returns (p : CoopPlayer) : Prop :=
  (p.life = .is .deathBubble ∧ (p.checkpointUpgrade = false → p.power = .is .small) ∧
    p.mount = COOP_NO_ENTITY) ∨
    p.life = .is .catchupBubble

/-- The record of a returned player as `recover_and_frame` has it placed. -/
def committed (s : CoopSession) (returning anchor : CoopPlayer) (x y : Int) : CoopPlayer :=
  { returnPlayer s returning (Int32.ofInt x) (Int32.ofInt y) with
    grounded := anchor.grounded
    swimming := anchor.swimming
    behindFence := anchor.behindFence }

/-- Guest memory with the mount flag of a returning player. -/
def mountFlag (returning : CoopPlayer) (ram : Ram) : Ram :=
  ram.put 0x187a (if returning.mount ≠ COOP_NO_ENTITY then 1 else 0)

/-- Placed and read back, a returned player stands at `(x, y)`, its feet level with the anchor's. -/
def Lands (s : CoopSession) (returning anchor back : CoopPlayer) (ram : Ram) (x y : Int) : Prop :=
  let landed :=
    coopGuestReadPlayer back
    (coopGuestPlacePlayer (committed s returning anchor x y) (mountFlag returning ram))
  landed.x.toInt = x ∧ landed.y.toInt = y ∧ feetOf landed = feetOf anchor

/-- The position is a guest word from the pose's left edge and from its top, and the pose cleared
for is the pose written. -/
def Landable (returning anchor : CoopPlayer) (x : Int) : Prop :=
  (8 ≤ x ∧ x ≤ 65543) ∧ (returning.mount = COOP_NO_ENTITY → feetOf anchor ≤ 65567) ∧
    (returning.life = .is .catchupBubble →
      ((returning.checkpointUpgrade = true ∨ returning.power ≠ .is .small) ↔
        returning.power.toWord.toUInt8 ≠ 0))

section Landing

open CoopTerrain

variable {s : CoopSession} {returning anchor back : CoopPlayer} {ram : Ram} {x y : Int}

/-- The body that `safe_at` clears is tall. -/
def tallPose (p : CoopPlayer) : Bool := p.checkpointUpgrade = true ∨ p.power ≠ .is .small

def mounted (p : CoopPlayer) : Bool := p.mount ≠ COOP_NO_ENTITY

theorem pose_height (p : CoopPlayer) : (pose p).1 = bodyHeight (tallPose p) (mounted p) ∧
    (mounted p = true → (pose p).2.1 = 48) := by
  unfold pose mounted tallPose
  by_cases htall : p.checkpointUpgrade = true ∨ p.power ≠ .is .small <;> by_cases hmount : p.mount ≠
    COOP_NO_ENTITY <;>
    simp [htall, hmount, bodyHeight, bodyShape, clipHeight]

theorem committed_power : (committed s returning anchor x y).power =
    if returning.life = .is .deathBubble
      then .is (if returning.checkpointUpgrade then .big else .small) else returning.power := by
  unfold committed returnPlayer
  split <;> rfl

/-- The two poses are one exactly when the power written is that of the pose that was cleared. -/
theorem tall_iff (s : CoopSession) (anchor : CoopPlayer) (x y : Int) (h : Returns returning) :
    tallPose returning = tallPower (committed s returning anchor x y) ↔
    (returning.life = .is .catchupBubble →
      ((returning.checkpointUpgrade = true ∨ returning.power ≠ .is .small) ↔
        returning.power.toWord.toUInt8 ≠ 0)) := by
  unfold tallPose tallPower
  rw [committed_power]
  obtain ⟨hdeath, hsmall, -⟩ | hcatchup := h
  · cases hupgrade : returning.checkpointUpgrade with
    | true => simp [hdeath, Enumeration.code]
    | false => simp [hdeath, hsmall hupgrade, Enumeration.code]
  · rw [if_neg (by simp [hcatchup]), decide_eq_decide]
    exact ⟨fun hsame _ => hsame, fun hsame => hsame hcatchup⟩

theorem mountFlag_mounted (returning : CoopPlayer) (ram : Ram) :
    (decide (mountFlag returning ram 0x187a ≠ 0) : Bool) = mounted returning := by
  unfold mountFlag mounted Ram.put
  by_cases hmount : returning.mount = COOP_NO_ENTITY <;> simp [hmount]

/-- What is read after a returned player was placed. -/
theorem read_committed (s : CoopSession) (returning anchor back : CoopPlayer) (ram : Ram)
    (hx : -2147483648 ≤ x ∧ x < 2147483648) (hy : -2147483648 ≤ y ∧ y < 2147483648) :
    let landed := coopGuestReadPlayer back
      (coopGuestPlacePlayer (committed s returning anchor x y) (mountFlag returning ram))
    let height := bodyHeight (tallPower (committed s returning anchor x y)) (mounted returning)
    landed.x.toInt = (x - 8) % 65536 + 8 ∧
    landed.y.toInt = (y - (reach (mounted returning) - (height / 2 : Nat))) % 65536 +
      (reach (mounted returning) - (height / 2 : Nat)) ∧
    feetOf landed = landed.y.toInt + (height / 2 : Nat) := by
  obtain ⟨hlandedX, hlandedY, hheight⟩ :=
    read_place back (committed s returning anchor x y) (mountFlag returning ram)
  rw [mountFlag_mounted] at hlandedY hheight
  have hposX : (committed s returning anchor x y).x.toInt = x := Int32.toInt_ofInt_of_le hx.1 hx.2
  have hposY : (committed s returning anchor x y).y.toInt = y := Int32.toInt_ofInt_of_le hy.1 hy.2
  rw [hposX] at hlandedX
  rw [hposY] at hlandedY
  refine ⟨hlandedX, hlandedY, ?_⟩
  unfold feetOf
  rw [hheight, tdiv_two]

end Landing

/-- A returned player stands where it was cleared to, its feet level with the anchor's, exactly when
it is landable. -/
theorem lands_iff (t : CoopTerrain) (s : CoopSession) (returning p back : CoopPlayer)
    (image ram : Ram) (x y : Int)
    (hreturns : Returns returning)
    (hsafe : t.safe returning (coopGuestReadPlayer p image) = .ok (some (x, y))) :
    Lands s returning (coopGuestReadPlayer p image) back ram x y ↔
    Landable returning (coopGuestReadPlayer p image) x := by
  obtain ⟨⟨d, hd, hcenter⟩, hlevel, hchecks⟩ := CoopTerrain.safe_checks hsafe
  obtain ⟨hanchorX, -⟩ := read_body p (read_shape image)
  have hfeet := read_feet p image
  generalize hanchor : coopGuestReadPlayer p image = anchor at *
  have hoffset : -56 ≤ d ∧ d ≤ 56 := by
    unfold CoopTerrain.offsets at hd
    simp only [List.mem_cons, List.not_mem_nil, or_false] at hd
    omega
  have hwordX := read16_lt image 0x94
  have hwordY := read16_lt image 0x96
  obtain ⟨hpose, hclearance⟩ := pose_height returning
  have hhalf := CoopTerrain.pose_half returning
  obtain ⟨hleft, htop⟩ := hchecks.fits
  have hx : x - (CoopTerrain.pose returning).2.2 ≥ 0 := hleft
  have hclear : feetOf anchor - (CoopTerrain.pose returning).2.1 ≥ 0 := htop
  have hy : y = feetOf anchor -
    (bodyHeight (tallPose returning) (mounted returning) / 2 : Nat) := by
    rw [hlevel, hpose, tdiv_two]
    rfl
  have hbounds := clipHeight_le (tallPose returning) (mounted returning)
  have hreachA : 32 ≤ reach (image 0x187a ≠ 0) ∧ reach (image 0x187a ≠ 0) ≤ 48 := by
    unfold reach
    split <;> decide
  obtain ⟨hlandedX, hlandedY, hlandedFeet⟩ :=
    read_committed s returning anchor back ram (x := x) (y := y)
    (by omega) (by omega)
  unfold Lands Landable
  dsimp only
  rw [← tall_iff s anchor x y hreturns, hlandedX, hlandedFeet, hlandedY]
  have hbounds' := clipHeight_le (tallPower (committed s returning anchor x y)) (mounted returning)
  constructor
  · rintro ⟨hsameX, hsameY, hsameFeet⟩
    have hhalves : bodyHeight (tallPose returning) (mounted returning) / 2 =
        bodyHeight (tallPower (committed s returning anchor x y)) (mounted returning) / 2 := by
        omega
    have htall := bodyHeight_half_inj hhalves
    refine ⟨by omega, fun hmount => ?_, htall⟩
    have hreach : reach (mounted returning) = 32 := by simp [reach, mounted, hmount]
    rw [htall] at hy
    omega
  · rintro ⟨hword, hhigh, htall⟩
    rw [htall] at hy
    -- The words that the pose is written to hold the position: above, the clearance is at least the
    -- reach.
    have hrange : (reach (mounted returning) : Int) ≤ feetOf anchor ∧
      feetOf anchor - reach (mounted returning) ≤ 65535 := by
      by_cases hmount : returning.mount = COOP_NO_ENTITY
      · have hreach : reach (mounted returning) = 32 := by simp [reach, mounted, hmount]
        have hlow := hhigh hmount
        omega
      · have hmounted : mounted returning = true := by simp [mounted, hmount]
        have hreach : reach (mounted returning) = 48 := by simp [reach, hmounted]
        rw [hclearance hmounted] at hclear
        omega
    omega

/-- The guest image of a tall player with its feet at 160. -/
def standingAt (x : UInt8) : Ram := fun a => if a = 0x94 then x else if a = 0x96 then 128
    else if a = 0x19 then 1 else 0

/-- A death bubble lands on the floor of the open room. -/
theorem lands_openRoom :
    Lands default CoopTerrain.smallBubble
    (coopGuestReadPlayer CoopTerrain.tallAnchor (standingAt 92))
    CoopTerrain.smallBubble (standingAt 92) 124 154 := by
  have hsafe : CoopTerrain.openRoom.safe CoopTerrain.smallBubble
    (coopGuestReadPlayer CoopTerrain.tallAnchor (standingAt 92)) =
      .ok (some (124, 154)) := by decide +kernel
  refine (lands_iff CoopTerrain.openRoom default _ _ _ _ _ 124 154 (.inl ?_) hsafe).mpr
    ⟨?_, ?_, ?_⟩ <;> decide

/-- The open room with a block in its fourth column. -/
def walledRoom : CoopTerrain :=
  { CoopTerrain.openRoom with ram := fun a => if a = 0x1c893 then 1 else CoopTerrain.openRoom.ram a }

/-- At the left edge of a level a body fits whose pose's frame begins outside of it. -/
theorem lands_wraps :
    ¬ ∀ (t : CoopTerrain) (s : CoopSession) (returning p back : CoopPlayer)
    (image ram : Ram) (x y : Int),
    Returns returning → t.safe returning (coopGuestReadPlayer p image) = .ok (some (x, y)) →
    Lands s returning (coopGuestReadPlayer p image) back ram x y := by
  intro h
  have hsafe : walledRoom.safe CoopTerrain.smallBubble
    (coopGuestReadPlayer CoopTerrain.tallAnchor (standingAt 22)) =
      .ok (some (6, 154)) := by decide +kernel
  obtain ⟨hx, -⟩ :=
    h walledRoom default CoopTerrain.smallBubble CoopTerrain.tallAnchor CoopTerrain.smallBubble
    (standingAt 22)
    (standingAt 22) 6 154 (.inl (by decide)) hsafe
  revert hx
  decide +kernel

end SmwRecomp.Coop
