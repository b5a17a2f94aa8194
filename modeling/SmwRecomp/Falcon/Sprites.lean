import SmwRecomp.Coop.Guest
import SmwRecomp.Falcon.Blocks

/-!
# Sprite targets of a Falcon move

`src/src/mods/falcon/smw_falcon_combat_apply.c`: the ledger, the targets of an attack, the capture
of a Dive and its release.

* `ledgerUpdate` — what a move, active or not, makes of the ledger.
* `combatApply`, `releaseDive` — one call; `accepted` lists the slots whose native consequence it
  accepted.
* `Struck` — what the loop over the slots does to the masks.

`NativeRoutines` are the guest's, each with the return frame pushed for it; doubles are rationals.
-/

set_option autoImplicit false

namespace SmwRecomp.Falcon

open FalconState

/-! ## Addresses -/

def SMW_PLAYER_X : Nat := 0x94
def SMW_PLAYER_Y : Nat := 0x96
def SMW_TOUCH_Y : Nat := 0x98
def SMW_TOUCH_X : Nat := 0x9A
def SMW_SPR_NUMBER : Nat := 0x9E
def SMW_SPR_STATUS : Nat := 0x14C8
def SMW_SPR_Y_LO : Nat := 0xD8
def SMW_SPR_X_LO : Nat := 0xE4
def SMW_SPR_Y_HI : Nat := 0x14D4
def SMW_SPR_X_HI : Nat := 0x14E0
def SMW_SPR_TWEAKER_B : Nat := 0x1662
def SMW_SPR_TWEAKER_C : Nat := 0x166E
def SMW_SPR_TWEAKER_D : Nat := 0x167A
def SMW_MINOR_SPRITE_PROC_INDEX : Nat := 0x15E9
def SMW_MAP16_CURRENT : Nat := 0x1693
def SMW_IO_SFX_1DF9 : Nat := 0x1DF9

def SMW_SPRITE_SLOTS : Nat := 12
def SMW_SCRATCH_COUNT : Nat := 16
def SMW_RAM_SIZE : Nat := 0x20000

/-! ## The ledger -/

/-- `1u << slot`. -/
def slotBit (slot : Nat) : UInt16 := 1 <<< UInt16.ofNat slot

def CombatLedger.hit (ledger : CombatLedger) (slot : Nat) : Bool :=
  ledger.hitSlots &&& slotBit slot ≠ 0

/-- What `memset` and the store behind it leave: no slot is latched. -/
def CombatLedger.cleared : CombatLedger := ⟨.is wait, false, false, false, 0, 0, 0, -1, 0⟩

/-- The Punch in the air is the one on the ground. -/
def carriedPunch (moveState : CEnum FalconState) : CEnum FalconState :=
  if moveState = .is falconPunchAir then .is falconPunchGround else moveState

def capturing (moveState : CEnum FalconState) : Bool :=
  moveState = .is falconDiveCatch ∨ moveState = .is falconDiveThrow

/-- `smw_falcon_combat_ledger_update`. -/
def ledgerUpdate (ledger : CombatLedger) (moveState : CEnum FalconState) (attackActive : Bool) :
    CombatLedger :=
  let moveState := carriedPunch moveState
  if ¬ attackActive ∧ ledger.diveLatchedSlot ≥ 0 ∧ capturing moveState then
    { ledger with active := true, moveState }
  else if ¬ attackActive then .cleared
  else if ¬ ledger.active ∨ ledger.moveState ≠ moveState
    then { CombatLedger.cleared with active := true, moveState }
  else ledger

/-! ## Targets -/

/-- `SmwFalconSpriteConsequence`. -/
inductive SpriteConsequence where
  | none
  | spin
  | starKill
  deriving DecidableEq

/-- `sprite_target_consequence`. -/
def spriteTargetConsequence (ram : Coop.Ram) (slot : Nat) : SpriteConsequence :=
  let status := ram (SMW_SPR_STATUS + slot)
  let id := ram (SMW_SPR_NUMBER + slot)
  let tweakerB := ram (SMW_SPR_TWEAKER_B + slot)
  let tweakerC := ram (SMW_SPR_TWEAKER_C + slot)
  let tweakerD := ram (SMW_SPR_TWEAKER_D + slot)
  if status = 8 ∧ id = 0x9F ∧ tweakerB = 0xB6 ∧ tweakerC = 0x31 ∧ tweakerD = 0x01 then .spin
  else if status = 8 ∧ id = 0x91 ∧ tweakerB = 0x0D ∧ tweakerC = 0x0B ∧ tweakerD = 0xF9
    then .starKill
  else if status = 8 ∧ id = 0x1F ∧ tweakerB = 0x81 ∧ tweakerC = 0x4F ∧ tweakerD = 0x02
    then .starKill
  else if (status ≠ 8 ∧ status ≠ 9 ∧ status ≠ 10) ∨ tweakerC &&& 0x20 ≠ 0 ∨
    tweakerD &&& 0x02 ≠ 0 then .none
  else if status = 9 ∨ status = 10 then if id ≥ 0x04 ∧ id ≤ 0x07 then .spin else .none
  else if id ≤ 0x09 ∨ id = 0x0F ∨ id = 0x10 ∨ id = 0x11 then .spin
  else .none

/-- `sprite_is_dive_catch_target`. -/
def spriteIsDiveCatchTarget (ram : Coop.Ram) (slot : Nat) : Bool :=
  ram (SMW_SPR_STATUS + slot) = 8 ∧ spriteTargetConsequence ram slot = .spin ∧
    ram (SMW_SPR_NUMBER + slot) ≠ 0x9F

def spriteXpos (ram : Coop.Ram) (slot : Nat) : Nat :=
  (ram (SMW_SPR_X_LO + slot)).toNat + 256 * (ram (SMW_SPR_X_HI + slot)).toNat
def spriteYpos (ram : Coop.Ram) (slot : Nat) : Nat :=
  (ram (SMW_SPR_Y_LO + slot)).toNat + 256 * (ram (SMW_SPR_Y_HI + slot)).toNat

/-- `SmwFalconNativeSpriteClip`. -/
structure NativeSpriteClip where
  index : UInt8
  xOffset : Int
  yOffset : Int
  width : Nat
  height : Nat

/-- `k_big_target_clips`. -/
def bigTargetClips : List NativeSpriteClip :=
  [⟨0x01, 2, 3, 12, 21⟩, ⟨0x36, 8, 8, 52, 46⟩, ⟨0x0D, 0, -4, 15, 16⟩]

/-- `sprite_bounds`. -/
def spriteBounds (ram : Coop.Ram) (slot : Nat) : Aabb :=
  let x : ℚ := spriteXpos ram slot
  let y : ℚ := spriteYpos ram slot
  let id := ram (SMW_SPR_NUMBER + slot)
  let clipIndex := ram (SMW_SPR_TWEAKER_B + slot) &&& 0x3F
  let big := bigTargetClips.find? fun clip => clip.index = clipIndex ∧
    ((id = 0x1F ∧ clipIndex = 0x01) ∨ (id = 0x9F ∧ clipIndex = 0x36) ∨
      (id = 0x91 ∧ clipIndex = 0x0D))
  match big with
  | some clip =>
    ⟨x + clip.xOffset, y + clip.yOffset, x + clip.xOffset + clip.width,
      y + clip.yOffset + clip.height⟩
  | none => ⟨x, y, x + 16, y + if ram (SMW_SPR_STATUS + slot) = 8 then 24 else 16⟩

/-! ## Native consequences -/

/-- The routines of the guest, entered with the slot in X. -/
structure NativeRoutines where
  killNormalSprite : Nat → Coop.Ram → Coop.Ram
  setNorSprStatus04 : Nat → Coop.Ram → Coop.Ram
  spawnSpinJumpStars : Nat → Coop.Ram → Coop.Ram
  checkPlayerToNormalSpriteColl : Nat → Coop.Ram → Coop.Ram

/-- `ram_effect_hash`. -/
def ramEffectHash (ram : Coop.Ram) : UInt32 :=
  (List.range' SMW_SCRATCH_COUNT (SMW_RAM_SIZE - SMW_SCRATCH_COUNT)).foldl
    (fun hash address => (hash ^^^ (ram address).toUInt32) * 16777619) 2166136261

/-- `invoke_native_sprite_consequence`. -/
def invokeNativeSpriteConsequence (native : NativeRoutines) (slot : Nat)
    (consequence : SpriteConsequence) (ram : Coop.Ram) : Coop.Ram :=
  if consequence = .starKill then native.killNormalSprite slot ram
  else
    let ram := ram.put SMW_MINOR_SPRITE_PROC_INDEX (UInt8.ofNat slot)
    let ram := native.setNorSprStatus04 slot ram
    let ram := native.spawnSpinJumpStars slot ram
    let ram := native.checkPlayerToNormalSpriteColl slot ram
    ram.put SMW_IO_SFX_1DF9 8

/-- A routine with the scratch bytes cleared for it, and they and the slot selector put back behind
it. -/
def transact (routine : Coop.Ram → Coop.Ram) (ram : Coop.Ram) : Coop.Ram :=
  let after := routine fun a => if a < SMW_SCRATCH_COUNT then 0 else ram a
  fun a => if a < SMW_SCRATCH_COUNT ∨ a = SMW_MINOR_SPRITE_PROC_INDEX then ram a else after a

/-- The ledger and the RAM in a call, and the slots whose consequence it has accepted. -/
structure Strike where
  ledger : CombatLedger
  ram : Coop.Ram
  accepted : List Nat

def Strike.accept (k : Strike) (slot : Nat) : Strike :=
  { k with
    ledger := { k.ledger with
      hitSlots := k.ledger.hitSlots ||| slotBit slot
      newHitSlots := k.ledger.newHitSlots ||| slotBit slot }
    accepted := k.accepted ++ [slot] }

/-- One slot in `apply_sprite_targets`. -/
def strikeSlot (native : NativeRoutines) (hit : Aabb) (k : Strike) (slot : Nat) : Strike :=
  let consequence := spriteTargetConsequence k.ram slot
  if k.ledger.hit slot ∨ consequence = .none ∨ ¬ hit.overlaps (spriteBounds k.ram slot) then k
  else
    let ram := transact (invokeNativeSpriteConsequence native slot consequence) k.ram
    if ram (SMW_SPR_STATUS + slot) = k.ram (SMW_SPR_STATUS + slot) ∧
      ramEffectHash ram = ramEffectHash k.ram then
      { k with ram }
    else { k with ram }.accept slot

/-- The volume of an attack in the world. -/
def attackVolume (fl : ℚ → ℚ) (ram : Coop.Ram) (attack : ForeignAttackHitbox) (facing : ℚ) : Aabb :=
  attackWorldAabb fl attack (ram.read16 SMW_PLAYER_X) (ram.read16 SMW_PLAYER_Y) facing

/-- `apply_sprite_targets`. -/
def applySpriteTargets (fl : ℚ → ℚ) (native : NativeRoutines) (ram : Coop.Ram)
    (attack : ForeignAttackHitbox) (facing : ℚ)
    (ledger : CombatLedger) : Strike :=
  (List.range SMW_SPRITE_SLOTS).foldl (strikeSlot native (attackVolume fl ram attack facing))
    ⟨ledger, ram, []⟩

/-- `latch_dive_target`, and whether it captured. -/
def latchDiveTarget (fl : ℚ → ℚ) (ram : Coop.Ram) (attack : ForeignAttackHitbox) (facing : ℚ)
    (ledger : CombatLedger) : CombatLedger × Bool :=
  if ledger.diveLatchedSlot ≥ 0 then (ledger, false)
  else
    let target := (List.range SMW_SPRITE_SLOTS).find? fun slot =>
      spriteIsDiveCatchTarget ram slot && (attackVolume fl ram attack facing).overlaps
        (spriteBounds ram slot)
    match target with
    | none => (ledger, false)
    | some slot =>
      ({ ledger with
          diveLatchedSlot := slot
          diveLatchedId := ram (SMW_SPR_NUMBER + slot)
          newHitSlots := ledger.newHitSlots ||| slotBit slot }, true)

def blockScene (ram : Coop.Ram) : BlockScene :=
  { playerX := UInt16.ofNat (ram.read16 SMW_PLAYER_X)
    playerY := UInt16.ofNat (ram.read16 SMW_PLAYER_Y)
    touchX := UInt16.ofNat (ram.read16 SMW_TOUCH_X)
    touchY := UInt16.ofNat (ram.read16 SMW_TOUCH_Y)
    action := ram 0x04
    map16Current := ram SMW_MAP16_CURRENT }

/-- `smw_falcon_combat_apply_blocks_only`, and the block route of `smw_falcon_combat_apply`. -/
def applyBlocks (fl : ℚ → ℚ) (ram : Coop.Ram) (answers : Nat → UInt8) (attack : ForeignAttackHitbox)
    (facing : ℚ) (ledger : CombatLedger) :
    CombatLedger :=
  if ¬ attack.active ∨ ¬ ledger.active ∨ ledger.hadSpriteContact ∨
    (ledger.blockApplied ∧ ¬ blockSweepCanRepeat ledger.moveState) then
    ledger
  else
    let outcome := applyNativeBlocks fl (blockScene ram) attack facing ledger answers
    if outcome.broken ≠ [] then { outcome.ledger with blockApplied := true } else outcome.ledger

/-- `smw_falcon_combat_apply`. -/
def combatApply (fl : ℚ → ℚ) (native : NativeRoutines) (ram : Coop.Ram) (answers : Nat → UInt8)
    (attack : ForeignAttackHitbox) (facing : ℚ)
    (ledger : CombatLedger) : CombatLedger × List Nat :=
  if ¬ attack.active ∨ ¬ ledger.active then (ledger, [])
  else
    let ledger := { ledger with newHitSlots := 0 }
    if attack.flags &&& FOREIGN_ATTACK_CONTACT_ONLY ≠ 0 then
      let (ledger, captured) := latchDiveTarget fl ram attack facing ledger
      ({ ledger with hadSpriteContact := ledger.hadSpriteContact || captured }, [])
    else
      let strike := applySpriteTargets fl native ram attack facing ledger
      if strike.accepted ≠ [] then ({ strike.ledger with hadSpriteContact := true },
        strike.accepted)
      else (applyBlocks fl strike.ram answers attack facing strike.ledger, [])

/-- `smw_falcon_combat_release_dive`. -/
def releaseDive (ram : Coop.Ram) (ledger : CombatLedger) : CombatLedger × List Nat :=
  if ledger.diveLatchedSlot < 0 ∨ ledger.diveLatchedSlot ≥ SMW_SPRITE_SLOTS then (ledger, [])
  else
    let slot := ledger.diveLatchedSlot.toNat
    let released := { ledger with diveLatchedSlot := -1, diveLatchedId := 0 }
    if spriteIsDiveCatchTarget ram slot ∧ ram (SMW_SPR_NUMBER + slot) = ledger.diveLatchedId then
      ({ released with
          hitSlots := ledger.hitSlots ||| slotBit slot
          newHitSlots := ledger.newHitSlots ||| slotBit slot }, [slot])
    else (released, [])

/-! ## What a call does to the masks -/

theorem and_or_right (a b c : UInt16) : (a ||| b) &&& c = (a &&& c) ||| (b &&& c) := by
  apply UInt16.toBitVec_inj.1
  ext i
  simp only [UInt16.toBitVec_and, UInt16.toBitVec_or, BitVec.getElem_and, BitVec.getElem_or,
    Bool.and_or_distrib_right]

theorem hit_iff (ledger : CombatLedger) (slot : Nat) : ledger.hit slot = true ↔
    ledger.hitSlots &&& slotBit slot ≠ 0 :=
  decide_eq_true_iff

/-- A call over the slots leaves the move and the capture, and marks the slots it has accepted. -/
structure Struck (ledger ledger' : CombatLedger) (accepted : List Nat) : Prop where
  active : ledger'.active = ledger.active
  moveState : ledger'.moveState = ledger.moveState
  latched : ledger'.diveLatchedSlot = ledger.diveLatchedSlot
  kept : ∀ slot, ledger.hit slot = true → ledger'.hit slot = true
  fresh : ∀ slot ∈ accepted, ledger.hit slot = false ∧ ledger'.hit slot = true
  nodup : accepted.Nodup
  idle : accepted = [] → ledger'.hitSlots = ledger.hitSlots

theorem Struck.refl (ledger : CombatLedger) : Struck ledger ledger [] :=
  ⟨rfl, rfl, rfl, fun _ h => h, fun _ h => absurd h List.not_mem_nil, List.nodup_nil, fun _ => rfl⟩

/-- The fields beside the masks do not matter. -/
theorem Struck.of_same {ledger ledger' ledger'' : CombatLedger} {accepted : List Nat}
    (h : Struck ledger ledger' accepted)
    (hactive : ledger''.active = ledger'.active) (hmove : ledger''.moveState = ledger'.moveState)
    (hlatched : ledger''.diveLatchedSlot = ledger'.diveLatchedSlot)
    (hslots : ledger''.hitSlots = ledger'.hitSlots) :
    Struck ledger ledger'' accepted := by
  have hhit : ∀ slot, ledger''.hit slot = ledger'.hit slot := fun slot => by
    unfold CombatLedger.hit
    rw [hslots]
  refine ⟨hactive.trans h.active, hmove.trans h.moveState, hlatched.trans h.latched,
    fun slot hslot => ?_, fun slot hslot => ?_, h.nodup, fun hnone => hslots.trans (h.idle hnone)⟩
  · rw [hhit]
    exact h.kept slot hslot
  · rw [hhit]
    exact h.fresh slot hslot

theorem Struck.accept {ledger : CombatLedger} {k : Strike} {slot : Nat}
    (h : Struck ledger k.ledger k.accepted)
    (hslot : slot < SMW_SPRITE_SLOTS) (hfree : k.ledger.hit slot = false) :
    Struck ledger (k.accept slot).ledger (k.accept slot).accepted := by
  have hkept : ∀ i, k.ledger.hit i = true → (k.accept slot).ledger.hit i = true := by
    intro i hi
    rw [hit_iff] at hi ⊢
    change (k.ledger.hitSlots ||| slotBit slot) &&& slotBit i ≠ 0
    rw [and_or_right]
    exact fun hzero => hi (UInt16.or_eq_zero_iff.1 hzero).1
  have hmarked : (k.accept slot).ledger.hit slot = true := by
    have hbit : ∀ i : Fin 12, slotBit i.val &&& slotBit i.val ≠ 0 := by decide
    rw [hit_iff]
    change (k.ledger.hitSlots ||| slotBit slot) &&& slotBit slot ≠ 0
    rw [and_or_right]
    exact fun hzero => hbit ⟨slot, hslot⟩ (UInt16.or_eq_zero_iff.1 hzero).2
  have hnew : slot ∉ k.accepted := by
    intro hmem
    rw [(h.fresh slot hmem).2] at hfree
    cases hfree
  have hbefore : ledger.hit slot = false := by
    rw [← Bool.not_eq_true]
    intro hhit
    rw [h.kept slot hhit] at hfree
    cases hfree
  refine ⟨h.active, h.moveState, h.latched, fun i hi => hkept i (h.kept i hi), fun i hi => ?_, ?_,
    fun hnone => ?_⟩
  · rcases List.mem_append.1 hi with hi | hi
    · exact ⟨(h.fresh i hi).1, hkept i (h.fresh i hi).2⟩
    · rw [List.mem_singleton.1 hi]
      exact ⟨hbefore, hmarked⟩
  · exact List.nodup_append.2 ⟨h.nodup, List.nodup_singleton slot, fun i hi j hj hij => by
      rw [List.mem_singleton.1 hj] at hij
      exact hnew (hij ▸ hi)⟩
  · exact absurd (List.append_eq_nil_iff.1 hnone).2 (List.cons_ne_nil _ _)

theorem Struck.strikeSlot {native : NativeRoutines} {hit : Aabb} {ledger : CombatLedger}
    {k : Strike} {slot : Nat}
    (h : Struck ledger k.ledger k.accepted) (hslot : slot < SMW_SPRITE_SLOTS) :
    Struck ledger (strikeSlot native hit k slot).ledger
      (strikeSlot native hit k slot).accepted := by
  unfold Falcon.strikeSlot
  dsimp only
  split
  case isTrue => exact h
  case isFalse hadmitted =>
    have hfree : k.ledger.hit slot = false := by
      rw [← Bool.not_eq_true]
      exact fun hhit => hadmitted (.inl hhit)
    split
    case isTrue => exact h
    case isFalse => exact Struck.accept (k := { k with ram := _ }) h hslot hfree

theorem applySpriteTargets_struck (fl : ℚ → ℚ) (native : NativeRoutines) (ram : Coop.Ram)
    (attack : ForeignAttackHitbox) (facing : ℚ)
    (ledger : CombatLedger) :
    Struck ledger (applySpriteTargets fl native ram attack facing ledger).ledger
      (applySpriteTargets fl native ram attack facing ledger).accepted := by
  have hloop : ∀ (slots : List Nat), (∀ slot ∈ slots, slot < SMW_SPRITE_SLOTS) → ∀ k : Strike,
      Struck ledger k.ledger k.accepted →
        Struck ledger (slots.foldl (strikeSlot native (attackVolume fl ram attack facing)) k).ledger
          (slots.foldl (strikeSlot native (attackVolume fl ram attack facing)) k).accepted := by
    intro slots
    induction slots with
    | nil => exact fun _ _ h => h
    | cons slot slots ih =>
        intro hslots k h
        rw [List.forall_mem_cons] at hslots
        exact ih hslots.2 _ (h.strikeSlot hslots.1)
  exact hloop _ (fun _ => List.mem_range.1) _ (.refl ledger)

theorem applyNativeBlocks_ledger (fl : ℚ → ℚ) (scene : BlockScene) (attack : ForeignAttackHitbox)
    (facing : ℚ) (ledger : CombatLedger)
    (answers : Nat → UInt8) :
    ∃ n, (applyNativeBlocks fl scene attack facing ledger answers).ledger =
      { ledger with blockFieldFrames := n } := by
  have hkept : ∀ {c : Prop} [Decidable c] {l : CombatLedger} (n : Nat),
    (∃ k, l = { ledger with blockFieldFrames := k }) →
      ∃ k, (if c then { l with blockFieldFrames := n } else l) =
        { ledger with blockFieldFrames := k } := by
    rintro c _ l n ⟨k, rfl⟩
    split
    · exact ⟨n, rfl⟩
    · exact ⟨k, rfl⟩
  unfold applyNativeBlocks
  by_cases hflag : attack.flags &&& FOREIGN_ATTACK_BREAK_BLOCKS = 0
  · rw [if_pos hflag]
    exact ⟨ledger.blockFieldFrames, rfl⟩
  · rw [if_neg hflag]
    refine hkept _ ?_
    split
    · exact ⟨_, rfl⟩
    · split
      · exact ⟨_, rfl⟩
      · exact ⟨ledger.blockFieldFrames, rfl⟩

theorem Struck.applyBlocks {ledger ledger' : CombatLedger} {accepted : List Nat}
    (h : Struck ledger ledger' accepted) (fl : ℚ → ℚ) (ram : Coop.Ram)
    (answers : Nat → UInt8) (attack : ForeignAttackHitbox) (facing : ℚ) :
    Struck ledger (applyBlocks fl ram answers attack facing ledger') accepted := by
  obtain ⟨n, hledger⟩ := applyNativeBlocks_ledger fl (blockScene ram) attack facing ledger' answers
  unfold Falcon.applyBlocks
  dsimp only
  rw [hledger]
  split
  · exact h
  · split
    · exact h.of_same rfl rfl rfl rfl
    · exact h.of_same rfl rfl rfl rfl

/-- A volume that only catches may latch one slot, and accepts nothing. -/
theorem latchDiveTarget_spec (fl : ℚ → ℚ) (ram : Coop.Ram) (attack : ForeignAttackHitbox)
    (facing : ℚ) (ledger : CombatLedger) :
    (latchDiveTarget fl ram attack facing ledger).1.active = ledger.active ∧
      (latchDiveTarget fl ram attack facing ledger).1.moveState = ledger.moveState ∧
      (latchDiveTarget fl ram attack facing ledger).1.hitSlots = ledger.hitSlots := by
  unfold latchDiveTarget
  dsimp only
  split
  · exact ⟨rfl, rfl, rfl⟩
  · split
    · exact ⟨rfl, rfl, rfl⟩
    · exact ⟨rfl, rfl, rfl⟩

/-- A call without an active attack does nothing, one that only catches leaves the masks, and
another strikes. -/
theorem combatApply_cases (fl : ℚ → ℚ) (native : NativeRoutines) (ram : Coop.Ram)
    (answers : Nat → UInt8) (attack : ForeignAttackHitbox)
    (facing : ℚ) (ledger : CombatLedger) :
    combatApply fl native ram answers attack facing ledger = (ledger, []) ∨
      (attack.active = true ∧ ledger.active = true ∧
        ((attack.flags &&& FOREIGN_ATTACK_CONTACT_ONLY ≠ 0 ∧
          (combatApply fl native ram answers attack facing ledger).2 = [] ∧
            (combatApply fl native ram answers attack facing ledger).1.active = ledger.active ∧
            (combatApply fl native ram answers attack facing ledger).1.moveState =
              ledger.moveState ∧
            (combatApply fl native ram answers attack facing ledger).1.hitSlots = ledger.hitSlots) ∨
          (attack.flags &&& FOREIGN_ATTACK_CONTACT_ONLY = 0 ∧
            Struck ledger (combatApply fl native ram answers attack facing ledger).1
              (combatApply fl native ram answers attack facing ledger).2))) := by
  unfold combatApply
  by_cases hidle : ¬ attack.active = true ∨ ¬ ledger.active = true
  · exact .inl (if_pos hidle)
  · rw [if_neg hidle]
    rw [not_or, not_not, not_not] at hidle
    refine .inr ⟨hidle.1, hidle.2, ?_⟩
    dsimp only
    by_cases hcontact : attack.flags &&& FOREIGN_ATTACK_CONTACT_ONLY ≠ 0
    · rw [if_pos hcontact]
      obtain ⟨hactive, hmove, hslots⟩ :=
        latchDiveTarget_spec fl ram attack facing { ledger with newHitSlots := 0 }
      exact .inl ⟨hcontact, rfl, hactive, hmove, hslots⟩
    · rw [if_neg hcontact]
      refine .inr ⟨not_not.1 hcontact, ?_⟩
      have hstruck :=
        applySpriteTargets_struck fl native ram attack facing { ledger with newHitSlots := 0 }
      have hstart : ∀ {ledger' : CombatLedger} {accepted : List Nat},
        Struck { ledger with newHitSlots := 0 } ledger' accepted →
          Struck ledger ledger' accepted :=
        fun h => ⟨h.active, h.moveState, h.latched, h.kept, h.fresh, h.nodup, h.idle⟩
      by_cases haccepted :
        (applySpriteTargets fl native ram attack facing { ledger with newHitSlots := 0 }).accepted ≠
        []
      · rw [if_pos haccepted]
        exact (hstart hstruck).of_same rfl rfl rfl rfl
      · rw [if_neg haccepted]
        rw [not_not.1 haccepted] at hstruck
        exact (hstart hstruck).applyBlocks fl _ _ _ _

/-- A release lets go of the capture, and accepts its slot at most. -/
theorem releaseDive_cases (ram : Coop.Ram) (ledger : CombatLedger) :
    releaseDive ram ledger = (ledger, []) ∨
      (0 ≤ ledger.diveLatchedSlot ∧ (releaseDive ram ledger).1.diveLatchedSlot = -1 ∧
        (releaseDive ram ledger).1.active = ledger.active ∧ (releaseDive ram ledger).1.moveState =
          ledger.moveState ∧
        (releaseDive ram ledger).2.Nodup) := by
  unfold releaseDive
  by_cases hnone : ledger.diveLatchedSlot < 0 ∨ ledger.diveLatchedSlot ≥ SMW_SPRITE_SLOTS
  · exact .inl (if_pos hnone)
  · rw [if_neg hnone]
    refine .inr ⟨by omega, ?_⟩
    dsimp only
    split
    · exact ⟨rfl, rfl, rfl, List.nodup_singleton _⟩
    · exact ⟨rfl, rfl, rfl, List.nodup_nil⟩

/-- The four things an update can do. -/
theorem ledgerUpdate_cases (ledger : CombatLedger) (moveState : CEnum FalconState)
    (attackActive : Bool) :
    (attackActive = false ∧ 0 ≤ ledger.diveLatchedSlot ∧ capturing (carriedPunch moveState) = true ∧
        ledgerUpdate ledger moveState attackActive =
          { ledger with active := true, moveState := carriedPunch moveState }) ∨
      (attackActive = false ∧ ledgerUpdate ledger moveState attackActive = .cleared) ∨
      (attackActive = true ∧ (ledger.active = true → ledger.moveState ≠ carriedPunch moveState) ∧
        ledgerUpdate ledger moveState attackActive =
          { CombatLedger.cleared with active := true, moveState := carriedPunch moveState }) ∨
      (attackActive = true ∧ ledger.active = true ∧ ledger.moveState = carriedPunch moveState ∧
        ledgerUpdate ledger moveState attackActive = ledger) := by
  unfold ledgerUpdate
  dsimp only
  cases attackActive with
  | false =>
      by_cases hheld : ¬ false = true ∧ ledger.diveLatchedSlot ≥ 0 ∧
        capturing (carriedPunch moveState) = true
      · rw [if_pos hheld]
        exact .inl ⟨rfl, hheld.2.1, hheld.2.2, rfl⟩
      · rw [if_neg hheld]
        exact .inr (.inl ⟨rfl, if_pos Bool.false_ne_true⟩)
  | true =>
      rw [if_neg fun hheld => hheld.1 rfl, if_neg fun hidle => hidle rfl]
      by_cases hnew : ¬ ledger.active = true ∨ ledger.moveState ≠ carriedPunch moveState
      · exact .inr
          (.inr (.inl ⟨rfl, fun hactive => hnew.resolve_left (not_not_intro hactive), if_pos hnew⟩))
      · rw [if_neg hnew]
        rw [not_or, not_not, ne_eq, not_not] at hnew
        exact .inr (.inr (.inr ⟨rfl, hnew.1, hnew.2, rfl⟩))

end SmwRecomp.Falcon
