import SmwRecomp.Coop.Terrain

/-!
# Clearance by cells and by pixels

`body_clear` looks at one pixel of every cell of sixteen that a rectangle meets.

* `cell_eq`, `block_ok`, `block_congr` — a block query reads within its arrays, and is one answer
  for a whole cell.
* `Passable` — a pixel a body may cover; `rowClear_iff`, `rowsClear_iff` — the two loops.
* `bodyClear_iff` — the answer is that of all pixels.
-/

set_option autoImplicit false

namespace SmwRecomp.Coop

namespace CoopTerrain

variable {t : CoopTerrain}

/-! ## Block queries -/

theorem byte_ok {address : Nat} (h : address < ramSize) :
    t.byte address = .ok (t.ram address).toNat := by
  unfold byte
  rw [peek_ok h]
  rfl

theorem rom8_ok (address : Nat) : ∃ r, t.rom8 address = .ok r := by
  unfold rom8
  split
  · exact ⟨_, rfl⟩
  · dsimp only
    split
    · exact ⟨_, rfl⟩
    · rename_i hsize
      rw [peek_ok (by omega)]
      exact ⟨_, rfl⟩

/-- A layer whose screens are stacked. -/
def vertical (t : CoopTerrain) (layer : Nat) : Bool := (t.ram 0x5b).toNat &&& (1 <<< layer) ≠ 0

/-- The screens of a layer. -/
def screens (t : CoopTerrain) (layer : Nat) : Nat :=
  if layer ≠ 0 then (if t.vertical layer then 14 else 16) else (t.ram 0x5d).toNat

/-- The room that the pixel is in, and its place there, by quotients and remainders. -/
def place (t : CoopTerrain) (layer x y : Nat) : Option (Nat × Nat) :=
  let along := if t.vertical layer then y else x
  let across := if t.vertical layer then x else y
  if along / 256 ≥ t.screens layer ∨ along / 256 ≥ 32 ∨
    (if t.vertical layer then x ≥ 512 else y ≥ 432) then none
  else some (along / 256, y / 16 % 16 * 16 + x / 16 % 16 + across / 256 % 256 * 256)

theorem index_eq (x y across : Nat) : (y &&& 0xf0 ||| (x &&& 255) >>> 4) + (across &&& 0xff00) =
    y / 16 % 16 * 16 + x / 16 % 16 + across / 256 % 256 * 256 := by
  have hrow : y &&& 0xf0 = y / 16 % 16 * 16 := and_field y 4 4
  have hcolumn : (x &&& 255) >>> 4 = x / 16 % 16 := by
    rw [show 255 = 2 ^ 8 - 1 from rfl, and_low, Nat.shiftRight_eq_div_pow]
    omega
  have hhalf : across &&& 0xff00 = across / 256 % 256 * 256 := and_field across 8 8
  rw [hrow, hcolumn, hhalf, show 16 = 2 ^ 4 from rfl, or_low (Nat.mod_lt _ (by decide))]

/-- Where a query looks, in one expression. -/
theorem cell_eq (layer : Nat) (x y : Int) :
    t.cell layer x y =
      .ok (if layer > 1 ∨ x < 0 ∨ y < 0 then none else t.place layer x.toNat y.toNat) := by
  unfold cell
  by_cases hout : layer > 1 ∨ x < 0 ∨ y < 0
  · rw [if_pos hout, if_pos hout]
    rfl
  · rw [if_neg hout, if_neg hout]
    rw [not_or, not_or] at hout
    obtain ⟨-, hx, hy⟩ := hout
    have hbit : ((t.ram 0x5b).toNat &&& (1 <<< layer) ≠ 0) ↔ t.vertical layer = true := by
      unfold vertical
      exact (decide_eq_true_iff).symm
    have hrange : (if t.vertical layer = true then x ≥ 512 else y ≥ 432) ↔
        if t.vertical layer = true then x.toNat ≥ 512 else y.toNat ≥ 432 := by
      split <;> omega
    have halong : (if t.vertical layer = true then y else x).toNat >>> 8 =
        (if t.vertical layer = true then y.toNat else x.toNat) / 256 := by
      rw [Nat.shiftRight_eq_div_pow]
      split <;> rfl
    have hacross : (if t.vertical layer = true then x else y).toNat = if t.vertical layer = true
      then x.toNat else y.toNat := by
      split <;> rfl
    rw [byte_ok (by decide), byte_ok (by decide)]
    simp only [checked_bind, checked_pure, hbit, hrange, halong, hacross, index_eq,
      ← apply_ite Except.ok]
    unfold place screens
    by_cases hlayer : layer ≠ 0
    · simp only [if_pos hlayer]
    · simp only [if_neg hlayer]

theorem place_bounds {layer x y screen index : Nat} (h : t.place layer x y = some (screen, index)) :
    screen < 32 ∧ index < 0x10000 ∧ x < 8192 ∧ y < 8192 := by
  obtain ⟨hin, hat⟩ := Option.ite_none_left_eq_some.mp h
  cases hat
  cases hv : t.vertical layer <;> simp only [hv, if_true, if_false, Bool.false_eq_true] at hin ⊢ <;>
    omega

/-- Pixels of one cell are at one place. -/
theorem place_congr {layer x x' y y' : Nat} (hx : x / 16 = x' / 16) (hy : y / 16 = y' / 16) :
    t.place layer x y = t.place layer x' y' := by
  have hx2 : x / 256 = x' / 256 := by omega
  have hy2 : y / 256 = y' / 256 := by omega
  have hwide : x ≥ 512 ↔ x' ≥ 512 := by omega
  have htall : y ≥ 432 ↔ y' ≥ 432 := by omega
  unfold place
  cases t.vertical layer <;>
    simp only [if_true, if_false, Bool.false_eq_true, hx, hy, hx2, hy2, hwide, htall]

theorem cell_congr {layer : Nat} {x x' y y' : Int} (hx : x / 16 = x' / 16) (hy : y / 16 = y' / 16) :
    t.cell layer x y = t.cell layer x' y' := by
  have hleft : x < 0 ↔ x' < 0 := by omega
  have hover : y < 0 ↔ y' < 0 := by omega
  have hplace : t.place layer x.toNat y.toNat = t.place layer x'.toNat y'.toNat :=
    place_congr (by omega) (by omega)
  rw [cell_eq, cell_eq, hplace]
  simp only [hleft, hover]

/-- Whatever the address, the planes are read within guest memory. -/
theorem blockAt_ok (address : Nat) : ∃ r, t.blockAt address = .ok r := by
  unfold blockAt
  split
  · exact ⟨_, rfl⟩
  · have hlow : address < ramSize := by
      unfold ramSize
      omega
    have hhigh : address + 0x10000 < ramSize := by
      unfold ramSize
      omega
    simp only [byte_ok hlow, byte_ok hhigh, byte_ok (show 0x14ad < ramSize by decide),
      byte_ok (show 0x14ae < ramSize by decide), checked_bind, checked_pure, ← apply_ite Except.ok]
    exact ⟨_, rfl⟩

/-- A block query reads within its arrays. -/
theorem block_ok (layer : Nat) (x y : Int) : ∃ r, t.block layer x y = .ok r := by
  unfold block
  refine checked_bind_total ⟨_, cell_eq layer x y⟩ fun r => ?_
  cases r with
  | none => exact ⟨_, rfl⟩
  | some found =>
    refine checked_bind_total ⟨_, byte_ok (by decide)⟩ fun mode => ?_
    refine checked_bind_total (rom8_ok _) fun low => ?_
    cases low with
    | none => exact ⟨_, rfl⟩
    | some l =>
      refine checked_bind_total (rom8_ok _) fun high => ?_
      cases high with
      | none => exact ⟨_, rfl⟩
      | some h => exact blockAt_ok _

/-- One answer for a whole cell. -/
theorem block_congr {layer : Nat} {x x' y y' : Int} (hx : x / 16 = x' / 16)
    (hy : y / 16 = y' / 16) :
    t.block layer x y = t.block layer x' y' := by
  unfold block
  rw [cell_congr hx hy]

theorem block_bounds {layer b : Nat} {x y : Int} (h : t.block layer x y = .ok (some b)) :
    0 ≤ x ∧ x < 8192 ∧ 0 ≤ y ∧ y < 8192 := by
  unfold block at h
  rw [cell_eq, checked_bind] at h
  split at h
  · cases h
  · rename_i screen index hplace
    obtain ⟨hin, hplace⟩ := Option.ite_none_left_eq_some.mp hplace
    have hbounds := place_bounds hplace
    omega

/-! ## Pixels -/

/-- A pixel that a body may cover. -/
def Passable (t : CoopTerrain) (layer : Nat) (water : Bool) (x y : Int) : Prop :=
  ∃ b, t.block layer x y = .ok (some b) ∧ t.dangerous b = false ∧ passable b water = true

theorem Passable.bounds {layer : Nat} {water : Bool} {x y : Int} (h : t.Passable layer water x y) :
    0 ≤ x ∧ x < 8192 ∧ 0 ≤ y ∧ y < 8192 := by
  obtain ⟨b, hblock, -⟩ := h
  exact block_bounds hblock

theorem Passable.congr {layer : Nat} {water : Bool} {x x' y y' : Int} (hx : x / 16 = x' / 16)
    (hy : y / 16 = y' / 16)
    (h : t.Passable layer water x y) : t.Passable layer water x' y' := by
  obtain ⟨b, hblock, hsafe⟩ := h
  exact ⟨b, by rw [← block_congr hx hy, hblock], hsafe⟩

theorem not_passable {b : Nat} {layer : Nat} {water : Bool} {x y : Int}
    (hblock : t.block layer x y = .ok (some b)) :
    ¬ t.Passable layer water x y ↔ (t.dangerous b || !passable b water) = true := by
  constructor
  · intro hnot
    cases hd : t.dangerous b with
    | true => rfl
    | false =>
      cases hp : passable b water with
      | false => rfl
      | true => exact absurd ⟨b, hblock, hd, hp⟩ hnot
  · rintro hor ⟨b', hblock', hdangerous, hpassable⟩
    rw [hblock] at hblock'
    cases hblock'
    simp [hdangerous, hpassable] at hor

/-! ## Rows -/

section Row

variable {layer fuel : Nat} {right x y : Int} {water : Bool}

theorem rowClear_end (h : x > right) : t.rowClear layer right y water (fuel + 1) x = .ok true :=
  if_pos h

theorem rowClear_refuses (h : ¬ x > right) (hnot : ¬ t.Passable layer water x y) :
    t.rowClear layer right y water (fuel + 1) x = .ok false := by
  obtain ⟨r, hblock⟩ := t.block_ok layer x y
  unfold rowClear
  rw [if_neg h, hblock, checked_bind]
  cases r with
  | none => rfl
  | some b => exact if_pos ((not_passable hblock).mp hnot)

/-- From a passable pixel to the next cell, or to the last pixel when that is nearer. -/
theorem rowClear_goes (h : ¬ x > right) (hpass : t.Passable layer water x y) :
    t.rowClear layer right y water (fuel + 1) x =
      t.rowClear layer right y water fuel (if x / 16 * 16 + 16 > right ∧ x ≠ right then right
        else x / 16 * 16 + 16) := by
  obtain ⟨b, hblock, hsafe⟩ := id hpass
  have hbounds := hpass.bounds
  rw [rowClear.eq_2, if_neg h, hblock, checked_bind]
  dsimp only
  rw [if_neg (fun hbad => (not_passable hblock).mpr hbad hpass), int32_ok (by omega), checked_bind]

/-- A row is walked to its end, or to a pixel that is not passable. -/
theorem rowClear_iff (hfuel : (right + 1 - x).toNat < fuel) :
    ∃ r, t.rowClear layer right y water fuel x = .ok r ∧
    (r = true ↔ ∀ x', x ≤ x' → x' ≤ right → t.Passable layer water x' y) := by
  induction fuel generalizing x with
  | zero => omega
  | succ fuel ih =>
    by_cases hend : x > right
    · refine ⟨true, rowClear_end hend, fun _ x' hfrom hto => ?_, fun _ => rfl⟩
      omega
    · by_cases hpass : t.Passable layer water x y
      · -- The pixels up to the next one looked at are in the cell of this one.
        rw [rowClear_goes hend hpass]
        obtain ⟨r, hr, hall⟩ :=
          @ih (if x / 16 * 16 + 16 > right ∧ x ≠ right then right else x / 16 * 16 + 16)
          (by split <;> omega)
        refine ⟨r, hr, hall.trans ⟨fun h x' hfrom hto => ?_, fun h x' hfrom hto => h x' ?_ hto⟩⟩
        · by_cases hsame : x' / 16 = x / 16
          · exact hpass.congr hsame.symm rfl
          · refine h x' ?_ hto
            split <;> omega
        · split at hfrom <;> omega
      · refine ⟨false, rowClear_refuses hend hpass, fun h => ?_, fun h => ?_⟩
        · cases h
        · exact absurd (h x (Int.le_refl x) (by omega)) hpass

end Row

/-! ## Bodies -/

/-- The pixels of a body. -/
def BodyPassable (t : CoopTerrain) (layer : Nat) (left right top feet : Int)
    (water : Bool) : Prop :=
  ∀ x y, left ≤ x → x ≤ right → top ≤ y → y < feet → t.Passable layer water x y

section Body

variable {layer fuel : Nat} {left right y feet : Int} {water : Bool}

/-- A row is clear when its pixels are passable, and no other row of its cells is looked at. -/
theorem row_ok (layer : Nat) (left right y : Int) (water : Bool) :
    ∃ r, t.rowClear layer right y water ((right - left).toNat + 2) left = .ok r ∧
      (r = true ↔ ∀ x, left ≤ x → x ≤ right → t.Passable layer water x y) :=
  rowClear_iff (by omega)

theorem rowsClear_end (h : y ≥ feet) : t.rowsClear layer left right feet water (fuel + 1) y =
    .ok true := if_pos h

theorem rowsClear_refuses (h : ¬ y ≥ feet)
    (hrow : ¬ ∀ x, left ≤ x → x ≤ right → t.Passable layer water x y) :
    t.rowsClear layer left right feet water (fuel + 1) y = .ok false := by
  obtain ⟨r, hr, hall⟩ := t.row_ok layer left right y water
  cases r with
  | false =>
    rw [rowsClear.eq_2, if_neg h, hr]
    rfl
  | true => exact absurd (hall.mp rfl) hrow

/-- From a clear row to the next row of cells, or to the last row when that is nearer. -/
theorem rowsClear_goes (h : ¬ y ≥ feet) (hempty : left ≤ right ∨ feet ≤ 2147483632)
    (hlow : -2147483648 ≤ y)
    (hrow : ∀ x, left ≤ x → x ≤ right → t.Passable layer water x y) :
    t.rowsClear layer left right feet water (fuel + 1) y =
      t.rowsClear layer left right feet water fuel
      (if y / 16 * 16 + 16 ≥ feet ∧ y ≠ feet - 1 then feet - 1 else y / 16 * 16 + 16) := by
  have hfits : -2147483648 ≤ y / 16 * 16 + 16 ∧ y / 16 * 16 + 16 ≤ 2147483647 := by
    cases hempty with
    | inl hwide =>
      have hbounds := (hrow left (Int.le_refl left) hwide).bounds
      omega
    | inr hhigh => omega
  obtain ⟨r, hr, hall⟩ := t.row_ok layer left right y water
  rw [rowsClear.eq_2, if_neg h, hr, hall.mpr hrow, checked_bind]
  rw [if_neg (show ¬ (!true) = true by decide), int32_ok hfits, checked_bind]

theorem rowsClear_iff (hempty : left ≤ right ∨ feet ≤ 2147483632) (hlow : -2147483648 ≤ y)
    (hfuel : (feet - y).toNat < fuel) :
    ∃ r, t.rowsClear layer left right feet water fuel y = .ok r ∧
    (r = true ↔ t.BodyPassable layer left right y feet water) := by
  induction fuel generalizing y with
  | zero => omega
  | succ fuel ih =>
    by_cases hend : y ≥ feet
    · refine ⟨true, rowsClear_end hend, fun _ x y' _ _ hfrom hto => ?_, fun _ => rfl⟩
      omega
    · by_cases hrow : ∀ x, left ≤ x → x ≤ right → t.Passable layer water x y
      · rw [rowsClear_goes hend hempty hlow hrow]
        obtain ⟨r, hr, hall⟩ :=
          @ih (if y / 16 * 16 + 16 ≥ feet ∧ y ≠ feet - 1 then feet - 1 else y / 16 * 16 + 16)
          (by split <;> omega) (by split <;> omega)
        refine ⟨r, hr,
          hall.trans ⟨fun h x y' hx hx' hfrom hto => ?_, fun h x y' hx hx' hfrom hto =>
          h x y' hx hx' ?_ hto⟩⟩
        · by_cases hsame : y' / 16 = y / 16
          · exact (hrow x hx hx').congr rfl hsame.symm
          · refine h x y' hx hx' ?_ hto
            split <;> omega
        · split at hfrom <;> omega
      · refine ⟨false, rowsClear_refuses hend hrow, fun h => ?_, fun h => ?_⟩
        · cases h
        · exact absurd (fun x hx hx' => h x y hx hx' (Int.le_refl y) (by omega)) hrow

end Body

theorem bodyClear_exact (t : CoopTerrain) (layer : Nat) {left right top feet : Int} (water : Bool)
    (hempty : left ≤ right ∨ feet ≤ top ∨ feet ≤ 2147483632) (hlow : -2147483648 ≤ top) :
    ∃ r, t.bodyClear layer left right top feet water = .ok r ∧
    (r = true ↔ t.BodyPassable layer left right top feet water) := by
  unfold bodyClear
  by_cases hnone : feet ≤ top
  · refine ⟨true, rowsClear_end hnone, fun _ x y _ _ hfrom hto => ?_, fun _ => rfl⟩
    omega
  · exact rowsClear_iff (by omega) hlow (by omega)

/-- Looking at one pixel of every cell is looking at all pixels, and the walk ends; a body with no
columns must leave room for the step past its last row. -/
theorem bodyClear_iff (t : CoopTerrain) (layer : Nat) (left right top feet : Int32) (water : Bool)
    (hempty : left.toInt ≤ right.toInt ∨ feet.toInt ≤ top.toInt ∨ feet.toInt ≤ 2147483632) :
    ∃ r, t.bodyClear layer left.toInt right.toInt top.toInt feet.toInt water = .ok r ∧
      (r = true ↔ t.BodyPassable layer left.toInt right.toInt top.toInt feet.toInt water) :=
  bodyClear_exact t layer water hempty top.le_toInt

/-- A room of one screen, all of it air over a floor at 160. -/
def openRoom : CoopTerrain where
  ram a := if a = 0x5d then 1 else if 0xc800 ≤ a ∧ a < 0xc9b0 then 0x25 else if 0x1c8a0 ≤ a ∧
    a < 0x1c8b0 then 1 else 0
  rom a := if a = 0x3a9c then 0xc8 else 0
  romSize := 0x80000
  session := none
  entities := []

/-- A body over two columns and three rows of cells, none of its edges on theirs. -/
theorem bodyClear_iff_openRoom : openRoom.BodyPassable 0 8 24 8 40 false := by
  obtain ⟨r, hr, hall⟩ := bodyClear_iff openRoom 0 8 24 8 40 false (.inl (by decide))
  have hclear : openRoom.bodyClear 0 8 24 8 40 false = .ok true := by rfl
  rw [show (8 : Int32).toInt = 8 from rfl, show (24 : Int32).toInt = 24 from rfl,
    show (40 : Int32).toInt = 40 from rfl, hclear] at hr
  cases hr
  exact hall.mp rfl

/-- A body with no columns, its feet past the last row of cells that `int` has. -/
theorem bodyClear_overflows :
    ¬ ∀ (t : CoopTerrain) (layer : Nat) (left right top feet : Int32) (water : Bool),
    ∃ r, t.bodyClear layer left.toInt right.toInt top.toInt feet.toInt water = .ok r ∧
      (r = true ↔ t.BodyPassable layer left.toInt right.toInt top.toInt feet.toInt water) := by
  intro h
  obtain ⟨r, hr, -⟩ := h openRoom 0 1 0 2147483646 2147483647 false
  have hover : openRoom.bodyClear 0 1 0 2147483646 2147483647 false = .error .overflow := by rfl
  cases hover.symm.trans hr

end CoopTerrain

end SmwRecomp.Coop
