import Mathlib.Logic.Function.Basic
import Mathlib.Data.List.Induction
import Mathlib.Data.List.Nodup
import Mathlib.Tactic.Ring

/-!
# Reanchoring a group of sprites

`ppu_oam_x`, `ppu_oam_set_xy` and `smw_falcon_presentation_reanchor_ppu_oam_group` of
`src/src/mods/falcon/smw_falcon_presentation_runtime.c`, over the two tables of a PPU's OAM.

* `setXy_spec` — a store moves one slot, and nothing else of the tables.
* `Moved` — the visible entries of a group translated by one vector, all else as it was.
* `reanchor_moved` — every group is moved so, by the anchor less the middle of its unsigned box.
* `reanchors_iff` — the box as it stands on the screen is centred on the anchor unless a group
  narrower than the screen straddles its left edge.
-/

set_option autoImplicit false

namespace SmwRecomp.Falcon

/-- `oam` and `highOam` of a `Ppu`. -/
structure PpuOam where
  oam : Nat → UInt16
  highOam : Nat → UInt8

/-- `ppu_oam_x`. -/
def ppuOamX (ppu : PpuOam) (slot : Nat) : Nat :=
  (ppu.oam (slot * 2) &&& 0xff).toNat |||
    ((ppu.highOam (slot / 4) >>> UInt8.ofNat (slot % 4 * 2)) &&& 1).toNat <<< 8

def ppuOamY (ppu : PpuOam) (slot : Nat) : Nat := (ppu.oam (slot * 2) >>> 8).toNat

/-- `(unsigned)n & 0xff`. -/
def lowByte (n : Int) : UInt16 := UInt16.ofNat (n % 256).toNat

/-- `ppu_oam_set_xy`. -/
def ppuOamSetXy (ppu : PpuOam) (slot : Nat) (x y : Int) : PpuOam :=
  let mask : UInt8 := 1 <<< UInt8.ofNat (slot % 4 * 2)
  let word := (ppu.oam (slot * 2) &&& (0xff00 : UInt16)) ||| lowByte x
  let word := (word &&& (0x00ff : UInt16)) ||| (lowByte y <<< 8)
  let high := ppu.highOam (slot / 4)
  let high := if x % 512 ≥ 256 then high ||| mask else high &&& ~~~mask
  ⟨Function.update ppu.oam (slot * 2) word, Function.update ppu.highOam (slot / 4) high⟩

/-- The box of the visible entries, as the loop finds it. -/
structure Bounds where
  minX : Int
  maxX : Int
  minY : Int
  maxY : Int

def boundSlot (ppu : PpuOam) (b : Bounds) (slot : Nat) : Bounds :=
  let x : Int := ppuOamX ppu slot
  let y : Int := ppuOamY ppu slot
  if y ≥ 224 then b
  else
    ⟨if x < b.minX then x else b.minX, if x > b.maxX then x else b.maxX,
      if y < b.minY then y else b.minY, if y > b.maxY then y else b.maxY⟩

def reanchorSlot (b : Bounds) (anchorX anchorY : Int) (ppu : PpuOam) (slot : Nat) : PpuOam :=
  let x : Int := ppuOamX ppu slot
  let y : Int := ppuOamY ppu slot
  if y ≥ 224 then ppu
  else ppuOamSetXy ppu slot (x + anchorX - (b.minX + b.maxX) / 2)
    (y + anchorY - (b.minY + b.maxY) / 2)

/-- `smw_falcon_presentation_reanchor_ppu_oam_group`. -/
def reanchorPpuOamGroup (ppu : PpuOam) (first count : Nat) (anchorX anchorY : Int) : PpuOam :=
  if count = 0 ∨ first ≥ 128 ∨ count > 128 - first then ppu
  else
    let slots := (List.range count).map (first + ·)
    let b := slots.foldl (boundSlot ppu) ⟨512, -1, 256, -1⟩
    if b.maxX < b.minX ∨ b.maxY < b.minY then ppu
    else slots.foldl (reanchorSlot b anchorX anchorY) ppu

/-! ## The tables -/

/-- A bit of an entry of the high table. -/
def tableBit (high : UInt8) (i : Nat) : Bool := high.toNat.testBit i

/-- The size bit that a slot keeps beside the ninth bit of its x. -/
def sizeBit (ppu : PpuOam) (slot : Nat) : Bool :=
  tableBit (ppu.highOam (slot / 4)) (slot % 4 * 2 + 1)

def ninthBit (ppu : PpuOam) (slot : Nat) : Bool := tableBit (ppu.highOam (slot / 4)) (slot % 4 * 2)

theorem tableBit_mask {k i : Nat} (hk : k < 8) (hi : i < 8) :
    tableBit ((1 : UInt8) <<< UInt8.ofNat k) i = decide (i = k) := by
  have hall : ∀ k i : Fin 8, tableBit ((1 : UInt8) <<< UInt8.ofNat k.val) i.val =
    decide (i.val = k.val) := by decide
  exact hall ⟨k, hk⟩ ⟨i, hi⟩

theorem tableBit_or (a b : UInt8) (i : Nat) :
    tableBit (a ||| b) i = (tableBit a i || tableBit b i) := by
  unfold tableBit
  rw [UInt8.toNat_or, Nat.testBit_or]

theorem tableBit_and_not {i : Nat} (a b : UInt8) (hi : i < 8) :
    tableBit (a &&& ~~~b) i = (tableBit a i && !tableBit b i) := by
  have hnot : tableBit (~~~b) i = !tableBit b i := by
    change (~~~b).toBitVec.getLsbD i = !b.toBitVec.getLsbD i
    rw [UInt8.toBitVec_not, BitVec.getLsbD_not, decide_eq_true hi, Bool.true_and]
  rw [← hnot]
  unfold tableBit
  rw [UInt8.toNat_and, Nat.testBit_and]

theorem shifted_bit (high : UInt8) {i : Nat} (hi : i < 8) :
    ((high >>> UInt8.ofNat i) &&& 1).toNat = (tableBit high i).toNat := by
  have hshift : (UInt8.ofNat i).toNat % 8 = i := by
    rw [UInt8.toNat_ofNat_of_lt' (by simp only [UInt8.size]; omega), Nat.mod_eq_of_lt hi]
  unfold tableBit
  rw [UInt8.toNat_and, UInt8.toNat_shiftRight, hshift, Nat.toNat_testBit, Nat.shiftRight_eq_div_pow]
  exact Nat.and_one_is_mod _

theorem ppuOamX_eq (ppu : PpuOam) (slot : Nat) :
    ppuOamX ppu slot = (ppu.oam (slot * 2)).toNat % 256 + 256 * (ninthBit ppu slot).toNat := by
  have hlow : (ppu.oam (slot * 2) &&& 0xff).toNat = (ppu.oam (slot * 2)).toNat % 2 ^ 8 := by
    rw [UInt16.toNat_and]
    exact Nat.and_two_pow_sub_one_eq_mod _ 8
  have hlt : (ppu.oam (slot * 2)).toNat % 2 ^ 8 < 2 ^ 8 := Nat.mod_lt _ (by decide)
  unfold ppuOamX
  rw [shifted_bit _ (by omega), hlow, Nat.or_comm, ← Nat.shiftLeft_add_eq_or_of_lt hlt,
    Nat.shiftLeft_eq]
  unfold ninthBit
  omega

theorem ppuOamX_lt (ppu : PpuOam) (slot : Nat) : ppuOamX ppu slot < 512 := by
  rw [ppuOamX_eq]
  cases ninthBit ppu slot <;> simp only [Bool.toNat_true, Bool.toNat_false] <;> omega

theorem lowByte_toNat (n : Int) : (lowByte n).toNat = (n % 256).toNat :=
  UInt16.toNat_ofNat_of_lt' (by simp only [UInt16.size]; omega)

theorem ppuOamY_eq (ppu : PpuOam) (slot : Nat) :
    ppuOamY ppu slot = (ppu.oam (slot * 2)).toNat / 256 := by
  unfold ppuOamY
  rw [UInt16.toNat_shiftRight]
  exact Nat.shiftRight_eq_div_pow _ 8

/-- The word of a slot once both bytes are stored. -/
theorem stored_word (word : UInt16) (x y : Int) :
    (((word &&& (0xff00 : UInt16)) ||| lowByte x) &&& (0x00ff : UInt16) ||| lowByte y <<< 8).toNat =
      (y % 256).toNat * 256 + (x % 256).toNat := by
  have hx : (lowByte x).toNat < 2 ^ 8 := by
    rw [lowByte_toNat]
    omega
  have hlow : (((word &&& 0xff00) ||| lowByte x) &&& 0x00ff).toNat = (lowByte x).toNat := by
    have hmask : (word.toNat &&& 65280) % 2 ^ 8 = 0 := by
      rw [Nat.and_mod_two_pow]
      exact Nat.and_zero _
    rw [UInt16.toNat_and, UInt16.toNat_or, UInt16.toNat_and]
    change ((word.toNat &&& 65280) ||| (lowByte x).toNat) &&& (2 ^ 8 - 1) = _
    rw [Nat.and_two_pow_sub_one_eq_mod, Nat.or_mod_two_pow, hmask, Nat.zero_or, Nat.mod_eq_of_lt hx]
  have hhigh : (lowByte y <<< 8).toNat = (y % 256).toNat <<< 8 := by
    rw [UInt16.toNat_shiftLeft, lowByte_toNat]
    change (y % 256).toNat <<< 8 % 2 ^ 16 = _
    rw [Nat.shiftLeft_eq]
    omega
  rw [UInt16.toNat_or, hlow, hhigh, Nat.or_comm, ← Nat.shiftLeft_add_eq_or_of_lt hx,
    Nat.shiftLeft_eq, lowByte_toNat]

/-! ## Entries -/

/-- All that the tables say of a slot; `tile` is its word of tile and attributes. -/
structure OamEntry where
  x : Nat
  y : Nat
  tile : UInt16
  size : Bool
  deriving DecidableEq, Repr

def oamEntry (ppu : PpuOam) (slot : Nat) : OamEntry :=
  ⟨ppuOamX ppu slot, ppuOamY ppu slot, ppu.oam (slot * 2 + 1), sizeBit ppu slot⟩

/-- The bits of a slot in the high table after a store. -/
theorem setXy_bits (ppu : PpuOam) (slot other : Nat) (x y : Int) :
    sizeBit (ppuOamSetXy ppu slot x y) other = sizeBit ppu other ∧
      ninthBit (ppuOamSetXy ppu slot x y) other = if other = slot then decide (x % 512 ≥ 256)
      else ninthBit ppu other := by
  unfold sizeBit ninthBit ppuOamSetXy
  dsimp only
  by_cases hbyte : other / 4 = slot / 4
  · rw [hbyte, Function.update_self]
    have hsize : ¬ other % 4 * 2 + 1 = slot % 4 * 2 := by omega
    have hninth : other % 4 * 2 = slot % 4 * 2 ↔ other = slot := by omega
    split
    case isTrue hx =>
      rw [tableBit_or, tableBit_or, tableBit_mask (by omega) (by omega),
        tableBit_mask (by omega) (by omega), decide_eq_false hsize, Bool.or_false,
        decide_eq_true hx]
      refine ⟨rfl, ?_⟩
      by_cases heq : other = slot
      · rw [if_pos heq, decide_eq_true (hninth.2 heq), Bool.or_true]
      · rw [if_neg heq, decide_eq_false (mt hninth.1 heq), Bool.or_false]
    case isFalse hx =>
      rw [tableBit_and_not _ _ (by omega), tableBit_and_not _ _ (by omega),
        tableBit_mask (by omega) (by omega), tableBit_mask (by omega) (by omega),
        decide_eq_false hsize, Bool.not_false, Bool.and_true, decide_eq_false hx]
      refine ⟨rfl, ?_⟩
      by_cases heq : other = slot
      · rw [if_pos heq, decide_eq_true (hninth.2 heq), Bool.not_true, Bool.and_false]
      · rw [if_neg heq, decide_eq_false (mt hninth.1 heq), Bool.not_false, Bool.and_true]
  · have hne : other ≠ slot := fun heq => hbyte (heq ▸ rfl)
    rw [Function.update_of_ne hbyte, if_neg hne]
    exact ⟨rfl, rfl⟩

/-- A store moves its slot, and leaves every other one. -/
theorem setXy_spec (ppu : PpuOam) (slot other : Nat) (x y : Int) :
    oamEntry (ppuOamSetXy ppu slot x y) other =
      if other = slot then { oamEntry ppu slot with x := (x % 512).toNat, y := (y % 256).toNat }
        else oamEntry ppu other := by
  obtain ⟨hsize, hninth⟩ := setXy_bits ppu slot other x y
  have htile : (ppuOamSetXy ppu slot x y).oam (other * 2 + 1) = ppu.oam (other * 2 + 1) :=
    Function.update_of_ne (by omega) _ _
  unfold oamEntry
  rw [hsize, htile, ppuOamX_eq, hninth, ppuOamY_eq]
  by_cases heq : other = slot
  · subst heq
    have hword : ((ppuOamSetXy ppu other x y).oam (other * 2)).toNat = (y % 256).toNat * 256 +
      (x % 256).toNat := by
      refine (congrArg UInt16.toNat (Function.update_self ..)).trans ?_
      exact stored_word _ x y
    rw [if_pos rfl, if_pos rfl, hword]
    have hx : ((y % 256).toNat * 256 + (x % 256).toNat) % 256 + 256 *
      (decide (x % 512 ≥ 256)).toNat = (x % 512).toNat := by
      by_cases hninth : x % 512 ≥ 256
      · rw [decide_eq_true hninth, Bool.toNat_true]
        omega
      · rw [decide_eq_false hninth, Bool.toNat_false]
        omega
    have hy : ((y % 256).toNat * 256 + (x % 256).toNat) / 256 = (y % 256).toNat := by omega
    rw [hx, hy]
  · have hword : (ppuOamSetXy ppu slot x y).oam (other * 2) = ppu.oam (other * 2) :=
      Function.update_of_ne (by omega) _ _
    rw [if_neg heq, if_neg heq, hword, ← ppuOamX_eq, ← ppuOamY_eq]

/-! ## Groups -/

/-- A group of slots that the function accepts. -/
structure SlotGroup where
  first : Nat
  count : Nat
  pos : 0 < count
  within : first + count ≤ 128

def SlotGroup.slots (g : SlotGroup) : List Nat := (List.range g.count).map (g.first + ·)

/-- The slots of the group that are on the screen's lines. -/
def SlotGroup.visible (g : SlotGroup) (ppu : PpuOam) : List Nat := g.slots.filter fun slot =>
    ppuOamY ppu slot < 224

/-- The visible entries of the group are translated by one vector, all else is as it was. -/
structure Moved (ppu ppu' : PpuOam) (g : SlotGroup) (dx dy : Int) : Prop where
  visible : ∀ slot ∈ g.slots, ppuOamY ppu slot < 224 → oamEntry ppu' slot =
    { oamEntry ppu slot with
      x := ((ppuOamX ppu slot + dx) % 512).toNat, y := ((ppuOamY ppu slot + dy) % 256).toNat }
  hidden : ∀ slot ∈ g.slots, 224 ≤ ppuOamY ppu slot → oamEntry ppu' slot = oamEntry ppu slot
  outside : ∀ slot, slot ∉ g.slots → oamEntry ppu' slot = oamEntry ppu slot

/-- An x as the screen shows it: from 256 on it lies off the left edge. -/
def signedX (ppu : PpuOam) (slot : Nat) : Int := if ppuOamX ppu slot < 256 then ppuOamX ppu slot
    else ppuOamX ppu slot - 512

/-- The least and the greatest of some values. -/
structure Spans (values : List Int) (lo hi : Int) : Prop where
  lo_mem : lo ∈ values
  hi_mem : hi ∈ values
  bounds : ∀ v ∈ values, lo ≤ v ∧ v ≤ hi

/-- The translation brings the middle of the group's box to the anchor, up to the rounding of one
halving. -/
def Centres (ppu : PpuOam) (g : SlotGroup) (dx dy anchorX anchorY : Int) : Prop :=
  ∀ xlo xhi ylo yhi : Int, Spans ((g.visible ppu).map (signedX ppu)) xlo xhi →
    Spans ((g.visible ppu).map fun slot => (ppuOamY ppu slot : Int)) ylo yhi → xhi - xlo < 256 →
      (xlo + xhi + 2 * dx - 2 * anchorX).natAbs ≤ 1 ∧ (ylo + yhi + 2 * dy - 2 * anchorY).natAbs ≤ 1

/-- The group is moved rigidly onto the anchor. -/
def Reanchors (ppu ppu' : PpuOam) (g : SlotGroup) (anchorX anchorY : Int) : Prop :=
  ∃ dx dy, Moved ppu ppu' g dx dy ∧ Centres ppu g dx dy anchorX anchorY

/-- Some entries lie off the left edge and some not, less than a screen apart. -/
def Straddles (ppu : PpuOam) (g : SlotGroup) : Prop :=
  (∃ slot ∈ g.visible ppu, ppuOamX ppu slot < 256) ∧
    (∃ slot ∈ g.visible ppu, 256 ≤ ppuOamX ppu slot) ∧
    ∀ a ∈ g.visible ppu, ∀ b ∈ g.visible ppu, signedX ppu b - signedX ppu a < 256

instance (ppu : PpuOam) (g : SlotGroup) : Decidable (Straddles ppu g) :=
  inferInstanceAs (Decidable (_ ∧ _ ∧ _))

/-! ## The box -/

theorem Spans.snoc {values : List Int} {lo hi : Int} (h : Spans values lo hi) (v : Int) :
    Spans (values ++ [v]) (if v < lo then v else lo) (if v > hi then v else hi) := by
  have hmem : v ∈ values ++ [v] := List.mem_append_right _ (List.mem_singleton_self v)
  refine ⟨?_, ?_, fun w hw => ?_⟩
  · split
    · exact hmem
    · exact List.mem_append_left _ h.lo_mem
  · split
    · exact hmem
    · exact List.mem_append_left _ h.hi_mem
  · have hlohi := h.bounds lo h.lo_mem
    rcases List.mem_append.1 hw with hw | hw
    · have := h.bounds w hw
      split <;> split <;> omega
    · rw [List.mem_singleton.1 hw]
      split <;> split <;> omega

theorem Spans.single (v : Int) : Spans [v] v v :=
  ⟨List.mem_singleton_self v, List.mem_singleton_self v, fun w hw => by
    rw [List.mem_singleton.1 hw]
    omega⟩

theorem exists_spans (values : List Int) (h : values ≠ []) : ∃ lo hi, Spans values lo hi := by
  induction values using List.reverseRecOn with
  | nil => exact absurd rfl h
  | append_singleton values v ih =>
      by_cases hnil : values = []
      · subst hnil
        exact ⟨v, v, .single v⟩
      · obtain ⟨lo, hi, hspans⟩ := ih hnil
        exact ⟨_, _, hspans.snoc v⟩

/-- What the first loop finds. -/
theorem bounds_spec (ppu : PpuOam) (slots : List Nat) {b : Bounds}
    (hb : slots.foldl (boundSlot ppu) ⟨512, -1, 256, -1⟩ = b) :
    let visible := slots.filter fun slot => ppuOamY ppu slot < 224
    (visible = [] ∧ b = ⟨512, -1, 256, -1⟩) ∨
      Spans (visible.map fun slot => (ppuOamX ppu slot : Int)) b.minX b.maxX ∧
        Spans (visible.map fun slot => (ppuOamY ppu slot : Int)) b.minY b.maxY := by
  subst hb
  induction slots using List.reverseRecOn with
  | nil => exact .inl ⟨rfl, rfl⟩
  | append_singleton slots slot ih =>
      dsimp only at ih ⊢
      rw [List.foldl_append, List.filter_append, List.foldl_cons, List.foldl_nil]
      generalize slots.foldl (boundSlot ppu) ⟨512, -1, 256, -1⟩ = b at ih
      by_cases hy : ppuOamY ppu slot < 224
      · have hvisible : ¬ (ppuOamY ppu slot : Int) ≥ 224 := by omega
        rw [List.filter_cons_of_pos (by simpa using hy), List.filter_nil, boundSlot,
          if_neg hvisible]
        refine .inr ?_
        rcases ih with ⟨hnone, rfl⟩ | ⟨hx, hy⟩
        · have hlt := ppuOamX_lt ppu slot
          dsimp only
          rw [hnone, if_pos (by omega), if_pos (by omega), if_pos (by omega), if_pos (by omega)]
          exact ⟨.single _, .single _⟩
        · rw [List.map_append, List.map_append]
          exact ⟨hx.snoc _, hy.snoc _⟩
      · have hhidden : (ppuOamY ppu slot : Int) ≥ 224 := by omega
        rw [List.filter_cons_of_neg (by simpa using hy), List.filter_nil, List.append_nil,
          boundSlot, if_pos hhidden]
        exact ih

/-! ## The moves -/

theorem reanchorSlot_spec (b : Bounds) (anchorX anchorY : Int) (ppu : PpuOam) (slot other : Nat) :
    oamEntry (reanchorSlot b anchorX anchorY ppu slot) other =
      if other = slot ∧ ppuOamY ppu slot < 224 then
        { oamEntry ppu slot with
          x := ((ppuOamX ppu slot + (anchorX - (b.minX + b.maxX) / 2)) % 512).toNat
          y := ((ppuOamY ppu slot + (anchorY - (b.minY + b.maxY) / 2)) % 256).toNat }
      else oamEntry ppu other := by
  unfold reanchorSlot
  by_cases hy : ppuOamY ppu slot < 224
  · have hvisible : ¬ (ppuOamY ppu slot : Int) ≥ 224 := by omega
    rw [if_neg hvisible, setXy_spec, add_sub_assoc, add_sub_assoc]
    simp only [hy, and_true]
  · have hhidden : (ppuOamY ppu slot : Int) ≥ 224 := by omega
    rw [if_pos hhidden, if_neg fun h => hy h.2]

/-- Each slot of a group is moved once, from where it was. -/
theorem reanchorSlots_spec (b : Bounds) (anchorX anchorY : Int) {slots : List Nat}
    (hslots : slots.Nodup) (other : Nat) :
    ∀ ppu : PpuOam, oamEntry (slots.foldl (reanchorSlot b anchorX anchorY) ppu) other =
      if other ∈ slots ∧ ppuOamY ppu other < 224 then
        { oamEntry ppu other with
          x := ((ppuOamX ppu other + (anchorX - (b.minX + b.maxX) / 2)) % 512).toNat
          y := ((ppuOamY ppu other + (anchorY - (b.minY + b.maxY) / 2)) % 256).toNat }
      else oamEntry ppu other := by
  induction slots with
  | nil => exact fun _ => rfl
  | cons slot slots ih =>
      intro ppu
      obtain ⟨hfresh, hslots⟩ := List.nodup_cons.1 hslots
      have hstep := reanchorSlot_spec b anchorX anchorY ppu slot other
      rw [List.foldl_cons, ih hslots]
      by_cases heq : other = slot
      · subst heq
        rw [if_neg fun h => hfresh h.1, hstep]
        simp
      · rw [if_neg fun h => heq h.1] at hstep
        have hx : ppuOamX (reanchorSlot b anchorX anchorY ppu slot) other = ppuOamX ppu other :=
          congrArg OamEntry.x hstep
        have hy : ppuOamY (reanchorSlot b anchorX anchorY ppu slot) other = ppuOamY ppu other :=
          congrArg OamEntry.y hstep
        rw [hstep, hx, hy]
        simp [heq]

theorem SlotGroup.slots_nodup (g : SlotGroup) : g.slots.Nodup :=
  List.Nodup.map (fun _ _ h => Nat.add_left_cancel h) List.nodup_range

theorem SlotGroup.reanchor_eq (g : SlotGroup) {ppu : PpuOam} {anchorX anchorY : Int} {b : Bounds}
    (hb : g.slots.foldl (boundSlot ppu) ⟨512, -1, 256, -1⟩ = b) :
    reanchorPpuOamGroup ppu g.first g.count anchorX anchorY =
      if b.maxX < b.minX ∨ b.maxY < b.minY then ppu
        else g.slots.foldl (reanchorSlot b anchorX anchorY) ppu := by
  have hpos := g.pos
  have hwithin := g.within
  subst hb
  unfold reanchorPpuOamGroup
  rw [if_neg (by omega)]
  rfl

/-- A group with visible entries is moved by the anchor less the middle of the unsigned box; one
without stays. -/
theorem reanchor_moved (ppu : PpuOam) (g : SlotGroup) (anchorX anchorY : Int) :
    (g.visible ppu = [] ∧ reanchorPpuOamGroup ppu g.first g.count anchorX anchorY = ppu) ∨
      ∃ b : Bounds, Spans ((g.visible ppu).map fun slot => (ppuOamX ppu slot : Int)) b.minX b.maxX ∧
        Spans ((g.visible ppu).map fun slot => (ppuOamY ppu slot : Int)) b.minY b.maxY ∧
        Moved ppu (reanchorPpuOamGroup ppu g.first g.count anchorX anchorY) g
          (anchorX - (b.minX + b.maxX) / 2) (anchorY - (b.minY + b.maxY) / 2) := by
  obtain ⟨b, hb⟩ : ∃ b, g.slots.foldl (boundSlot ppu) ⟨512, -1, 256, -1⟩ = b := ⟨_, rfl⟩
  rw [g.reanchor_eq hb]
  rcases bounds_spec ppu g.slots hb with ⟨hnone, rfl⟩ | ⟨hx, hy⟩
  · exact .inl ⟨hnone, if_pos (.inl (by decide))⟩
  · have hxle := (hx.bounds _ hx.lo_mem).2
    have hyle := (hy.bounds _ hy.lo_mem).2
    have hspec := fun slot => reanchorSlots_spec b anchorX anchorY g.slots_nodup slot ppu
    rw [if_neg (by omega)]
    refine .inr ⟨b, hx, hy, fun slot hslot hvisible => ?_, fun slot _ hhidden => ?_,
      fun slot hslot => ?_⟩
    · rw [hspec, if_pos ⟨hslot, hvisible⟩]
    · rw [hspec, if_neg fun h => Nat.not_lt.2 hhidden h.2]
    · rw [hspec, if_neg fun h => hslot h.1]

/-- A translation is the same a screen width on. -/
theorem Moved.shift {ppu ppu' : PpuOam} {g : SlotGroup} {dx dy : Int} (h : Moved ppu ppu' g dx dy) :
    Moved ppu ppu' g (dx + 512) dy := by
  refine ⟨fun slot hslot hvisible => ?_, h.hidden, h.outside⟩
  rw [h.visible slot hslot hvisible, ← add_assoc, Int.add_emod_right]

theorem SlotGroup.mem_visible {g : SlotGroup} {ppu : PpuOam} {slot : Nat}
    (h : slot ∈ g.visible ppu) :
    slot ∈ g.slots ∧ ppuOamY ppu slot < 224 :=
  ⟨(List.mem_filter.1 h).1, of_decide_eq_true (List.mem_filter.1 h).2⟩

/-- The unsigned box is the box on the screen, or lies a screen width further on, unless the group
straddles the edge. -/
theorem spans_signed {ppu : PpuOam} {visible : List Nat} {lo hi xlo xhi : Int}
    (h : Spans (visible.map fun slot => (ppuOamX ppu slot : Int)) lo hi)
    (hs : Spans (visible.map (signedX ppu)) xlo xhi)
    (hside : (∀ slot ∈ visible, ppuOamX ppu slot < 256) ∨ ∀ slot ∈ visible,
      256 ≤ ppuOamX ppu slot) :
    (lo = xlo ∧ hi = xhi) ∨ (lo = xlo + 512 ∧ hi = xhi + 512) := by
  obtain ⟨a, ha, rfl⟩ := List.mem_map.1 h.lo_mem
  obtain ⟨b, hb, rfl⟩ := List.mem_map.1 h.hi_mem
  obtain ⟨c, hc, rfl⟩ := List.mem_map.1 hs.lo_mem
  obtain ⟨d, hd, rfl⟩ := List.mem_map.1 hs.hi_mem
  have hac := hs.bounds _ (List.mem_map_of_mem ha)
  have hbd := hs.bounds _ (List.mem_map_of_mem hb)
  have hca := h.bounds _ (List.mem_map_of_mem hc)
  have hdb := h.bounds _ (List.mem_map_of_mem hd)
  rcases hside with hside | hside
  · have hsigned : ∀ slot ∈ visible, signedX ppu slot = ppuOamX ppu slot := fun slot hslot =>
      if_pos (hside slot hslot)
    rw [hsigned a ha, hsigned b hb, hsigned c hc, hsigned d hd] at *
    omega
  · have hsigned : ∀ slot ∈ visible, signedX ppu slot = ppuOamX ppu slot - 512 :=
      fun slot hslot => if_neg (Nat.not_lt.2 (hside slot hslot))
    rw [hsigned a ha, hsigned b hb, hsigned c hc, hsigned d hd] at *
    omega

/-- Two spans of the same values are the same. -/
theorem Spans.unique {values : List Int} {lo hi lo' hi' : Int} (h : Spans values lo hi)
    (h' : Spans values lo' hi') :
    lo = lo' ∧ hi = hi' :=
  ⟨le_antisymm (h.bounds _ h'.lo_mem).1 (h'.bounds _ h.lo_mem).1,
    le_antisymm (h'.bounds _ h.hi_mem).2 (h.bounds _ h'.hi_mem).2⟩

/-- A group that does not straddle the edge is centred. -/
theorem reanchors_of_not_straddles (ppu : PpuOam) (g : SlotGroup) (anchorX anchorY : Int)
    (h : ¬ Straddles ppu g) :
    Reanchors ppu (reanchorPpuOamGroup ppu g.first g.count anchorX anchorY) g anchorX anchorY := by
  rcases reanchor_moved ppu g anchorX anchorY with ⟨hnone, hsame⟩ | ⟨b, hx, hy, hmoved⟩
  · refine ⟨0, 0,
      ⟨fun slot hslot hvisible => ?_, fun slot _ _ => by rw [hsame], fun slot _ => by rw [hsame]⟩,
      ?_⟩
    · have hmem : slot ∈ g.visible ppu := List.mem_filter.2 ⟨hslot, decide_eq_true hvisible⟩
      rw [hnone] at hmem
      cases hmem
    · intro xlo xhi ylo yhi hspans
      rw [hnone] at hspans
      cases hspans.lo_mem
  · by_cases hside : (∀ slot ∈ g.visible ppu, ppuOamX ppu slot < 256) ∨ ∀ slot ∈ g.visible ppu,
      256 ≤ ppuOamX ppu slot
    · obtain ⟨lo, hi, hs⟩ := exists_spans ((g.visible ppu).map (signedX ppu)) (by
        intro hnil
        have := hx.lo_mem
        rw [List.map_eq_nil_iff.1 hnil] at this
        cases this)
      rcases spans_signed hx hs hside with ⟨hlo, hhi⟩ | ⟨hlo, hhi⟩
      · refine ⟨_, _, hmoved, fun xlo xhi ylo yhi hxs hys _ => ?_⟩
        obtain ⟨rfl, rfl⟩ := hs.unique hxs
        obtain ⟨rfl, rfl⟩ := hy.unique hys
        omega
      · refine ⟨_, _, hmoved.shift, fun xlo xhi ylo yhi hxs hys _ => ?_⟩
        obtain ⟨rfl, rfl⟩ := hs.unique hxs
        obtain ⟨rfl, rfl⟩ := hy.unique hys
        omega
    · rw [not_or] at hside
      push Not at hside
      obtain ⟨⟨left, hleft, hleftX⟩, right, hright, hrightX⟩ := hside
      refine ⟨_, _, hmoved, fun xlo xhi ylo yhi hxs hys hwidth => absurd ?_ h⟩
      refine ⟨⟨right, hright, hrightX⟩, ⟨left, hleft, hleftX⟩, fun a ha c hc => ?_⟩
      have := hxs.bounds _ (List.mem_map_of_mem ha)
      have := hxs.bounds _ (List.mem_map_of_mem hc)
      omega

/-- A narrow group that straddles the edge has its unsigned middle half a screen away. -/
theorem not_reanchors_of_straddles (ppu : PpuOam) (g : SlotGroup) (anchorX anchorY : Int)
    (h : Straddles ppu g) :
    ¬ Reanchors ppu (reanchorPpuOamGroup ppu g.first g.count anchorX anchorY) g
      anchorX anchorY := by
  rintro ⟨dx, dy, hmoved, hcentres⟩
  obtain ⟨⟨right, hright, hrightX⟩, ⟨left, hleft, hleftX⟩, hnarrow⟩ := h
  rcases reanchor_moved ppu g anchorX anchorY with ⟨hnone, -⟩ | ⟨b, hx, hy, hcode⟩
  · rw [hnone] at hleft
    cases hleft
  · obtain ⟨xlo, xhi, hs⟩ := exists_spans ((g.visible ppu).map (signedX ppu)) (by
      intro hnil
      rw [List.map_eq_nil_iff.1 hnil] at hleft
      cases hleft)
    -- the translation of the code and the one that would centre agree on an entry
    obtain ⟨hslot, hvisible⟩ := g.mem_visible hright
    have hsame :=
      (hcode.visible right hslot hvisible).symm.trans (hmoved.visible right hslot hvisible)
    have hxs := congrArg OamEntry.x hsame
    dsimp only at hxs
    -- the unsigned box runs from an entry on the screen to one off its left edge
    obtain ⟨a, ha, hlo⟩ := List.mem_map.1 hx.lo_mem
    obtain ⟨c, hc, hhi⟩ := List.mem_map.1 hx.hi_mem
    obtain ⟨e, he, hxlo⟩ := List.mem_map.1 hs.lo_mem
    obtain ⟨f, hf, hxhi⟩ := List.mem_map.1 hs.hi_mem
    have hloLe := hx.bounds _ (List.mem_map_of_mem hright)
    have hhiGe := hx.bounds _ (List.mem_map_of_mem hleft)
    have hsa := hs.bounds _ (List.mem_map_of_mem ha)
    have hsc := hs.bounds _ (List.mem_map_of_mem hc)
    have hwidth := hnarrow e he f hf
    rw [hxlo, hxhi] at hwidth
    have hmiddle := (hcentres xlo xhi _ _ hs hy hwidth).1
    have hclt := ppuOamX_lt ppu c
    have hsignedA : signedX ppu a = b.minX := by
      unfold signedX
      rw [if_pos (by omega)]
      exact hlo
    have hsignedC : signedX ppu c = b.maxX - 512 := by
      unfold signedX
      rw [if_neg (by omega)]
      omega
    rw [hsignedA] at hsa
    rw [hsignedC] at hsc
    omega

theorem reanchors_iff (ppu : PpuOam) (g : SlotGroup) (anchorX : Fin 512) (anchorY : Fin 256) :
    Reanchors ppu (reanchorPpuOamGroup ppu g.first g.count anchorX.val anchorY.val) g
      anchorX.val anchorY.val ↔
      ¬ Straddles ppu g :=
  ⟨fun h hstraddles => not_reanchors_of_straddles ppu g _ _ hstraddles h,
    reanchors_of_not_straddles ppu g _ _⟩

/-- Two tiles of a shell across the left edge. -/
def shellAtEdge : PpuOam :=
  ⟨fun i => if i = 0 then 0x64f8 else if i = 2 then 0x6408 else 0xf000, fun i => if i = 0
    then 1 else 0⟩

def shellPair : SlotGroup := ⟨0, 2, by decide, by decide⟩

/-- It is reanchored to the middle of the screen, and comes to lie half a screen away. -/
theorem astray_at_edge : Straddles shellAtEdge shellPair ∧
    ¬ Reanchors shellAtEdge (reanchorPpuOamGroup shellAtEdge 0 2 128 100) shellPair 128 100 := by
  have hstraddles : Straddles shellAtEdge shellPair := by decide
  exact ⟨hstraddles, not_reanchors_of_straddles _ shellPair _ _ hstraddles⟩

end SmwRecomp.Falcon
