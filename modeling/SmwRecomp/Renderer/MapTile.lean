import SmwRecomp.Coop.Clearance

/-!
# The two readers of Map16 data

* `smwRendererMapTile` — `SmwRendererMapTile` of `src/src/smw_renderer.c`, over the 128 KiB of guest
  memory and a ROM.
* `smwRendererMapTile_ok` — it reads within both.
* `map_readers` — it looks where `coop_terrain_block` looks, and both stay within their arrays.
-/

set_option autoImplicit false

namespace SmwRecomp.Renderer

open SmwRecomp.Coop (Ram CoopTerrain ramSize)

/-- `read16` of an array of `n` bytes. -/
def read16 (n : Nat) (r : Nat → UInt8) (a : Nat) : Checked Nat := do
  let low ← peek n r a
  let high ← peek n r (a + 1)
  return low.toNat ||| high.toNat <<< 8

/-- `g_rom` and its size. -/
structure GlobalRom where
  bytes : Option (Nat → UInt8)
  size : Nat

/-- `rom16`. -/
def rom16 (rom : GlobalRom) (bank a : Nat) : Checked Nat :=
  match rom.bytes with
  | none => .ok 0
  | some bytes =>
    if a < 0x8000 ∨ a > 0xfffe ∨ bank > 15 then .ok 0
      else read16 rom.size bytes (bank <<< 15 ||| (a &&& 0x7fff))

/-- The screen of a pixel and its block's offset in the screen's Map16 data. -/
def mapCell (ram : Ram) (layer : Nat) (x y : Int) : Checked (Option (Nat × Nat)) := do
  let mode ← peek ramSize ram 0x1925
  if layer > 1 ∨ mode ≥ 32 ∨ x < 0 ∨ y < 0 then return none
  let orientation ← peek ramSize ram 0x5b
  if orientation.toNat &&& (1 <<< layer) ≠ 0 then
    if x ≥ 512 ∨ y ≥ 0x1c00 then return none
    return some (y.toNat >>> 8, (x.toNat >>> 8) * 256 + ((y.toNat &&& 255) >>> 4) * 16 +
      ((x.toNat &&& 255) >>> 4))
  else
    let last ← peek ramSize ram 0x5e
    if x ≥ ((last.toNat : Int) + 1) * 256 ∨ y ≥ 432 then return none
    return some (x.toNat >>> 8, (y.toNat >>> 4) * 16 + ((x.toNat &&& 255) >>> 4))

/-- The definition of a block: `$05877E` rewrites the eight pipe pointers for the strip that is
streamed. -/
def definition (ram : Ram) (rom : GlobalRom) (layer x block : Nat) : Checked Nat := do
  let address ← read16 ramSize ram (0xfbe + block * 2)
  let orientation ← peek ramSize ram 0x5b
  let tileset ← peek ramSize ram 0x1931
  if orientation.toNat &&& (1 <<< layer) = 0 ∧ tileset < 0x10 ∧ block ≥ 0x133 ∧ block ≤ 0x13a then
    let pipes ← rom16 rom 5 (0x8776 + ((x >>> 8) &&& 3) * 2)
    return pipes + (block - 0x133) * 8
  return address

/-- `SmwRendererMapTile`. -/
def smwRendererMapTile (ram : Ram) (rom : GlobalRom) (layer : Nat) (x y : Int) :
    Checked (Option Nat) := do
  match ← mapCell ram layer x y with
  | none => return none
  | some (screen, index) =>
    let mode ← peek ramSize ram 0x1925
    let table ← rom16 rom 0 ((if layer ≠ 0 then 0xbde8 else 0xbda8) + mode.toNat * 2)
    if table = 0 then return none
    let low ← rom16 rom 0 (table + screen * 3)
    if low < 0xc800 ∨ low + index > 0xffff then return none
    let blockLow ← peek ramSize ram (low + index)
    let blockHigh ← peek ramSize ram (0x10000 + low + index)
    let block := blockLow.toNat ||| blockHigh.toNat <<< 8
    if block ≥ 512 then return none
    let address ← definition ram rom layer x.toNat block
    let address :=
      address + ((if x.toNat &&& 8 ≠ 0 then 4 else 0) + (if y.toNat &&& 8 ≠ 0 then 2 else 0))
    if address < 0x8000 ∨ address > 0xfffe then return none
    let tileset ← peek ramSize ram 0x1931
    let tile ← rom16 rom (if tileset ≥ 0x10 then 5 else 13) address
    return some (tile % 0x10000)

/-! ## Reads -/

theorem read16_ok {n a : Nat} (r : Nat → UInt8) (h : a + 1 < n) : ∃ v, read16 n r a = .ok v := by
  unfold read16
  rw [peek_ok (by omega), peek_ok h]
  exact ⟨_, rfl⟩

theorem rom16_ok {rom : GlobalRom} (hsize : 0x80000 ≤ rom.size) (bank a : Nat) :
    ∃ v, rom16 rom bank a = .ok v := by
  unfold rom16
  cases rom.bytes with
  | none => exact ⟨_, rfl⟩
  | some bytes =>
    dsimp only
    split
    · exact ⟨_, rfl⟩
    · have hoffset : bank <<< 15 ||| (a &&& 0x7fff) = bank * 2 ^ 15 + a % 2 ^ 15 := by
        rw [Nat.shiftLeft_eq, show 0x7fff = 2 ^ 15 - 1 from rfl, and_low,
          or_low (Nat.mod_lt _ (by decide))]
      refine read16_ok bytes ?_
      rw [hoffset]
      omega

theorem peek_total {n a : Nat} (ram : Ram) (h : a < n) : ∃ v, peek n ram a = .ok v := ⟨_, peek_ok h⟩

theorem mapCell_ok (ram : Ram) (layer : Nat) (x y : Int) : ∃ r, mapCell ram layer x y = .ok r := by
  unfold mapCell
  refine checked_bind_total (peek_total ram (by decide)) fun mode => ?_
  split
  · exact ⟨_, rfl⟩
  · refine checked_bind_total (peek_total ram (by decide)) fun orientation => ?_
    split
    · split <;> exact ⟨_, rfl⟩
    · refine checked_bind_total (peek_total ram (by decide)) fun last => ?_
      split <;> exact ⟨_, rfl⟩

theorem definition_ok {ram : Ram} {rom : GlobalRom} (hsize : 0x80000 ≤ rom.size)
    (layer x : Nat) {block : Nat}
    (hblock : block < 512) : ∃ v, definition ram rom layer x block = .ok v := by
  unfold definition
  refine checked_bind_total (read16_ok ram (by unfold ramSize; omega)) fun address => ?_
  refine checked_bind_total (peek_total ram (by decide)) fun orientation => ?_
  refine checked_bind_total (peek_total ram (by decide)) fun tileset => ?_
  split
  · refine checked_bind_total (rom16_ok hsize _ _) fun pipes => ?_
    exact ⟨_, rfl⟩
  · exact ⟨_, rfl⟩

/-- Whatever the guest's memory and the ROM hold, a query of the renderer reads within both. -/
theorem smwRendererMapTile_ok {ram : Ram} {rom : GlobalRom} (hsize : 0x80000 ≤ rom.size)
    (layer : Nat) (x y : Int) :
    ∃ r, smwRendererMapTile ram rom layer x y = .ok r := by
  unfold smwRendererMapTile
  refine checked_bind_total (mapCell_ok ram layer x y) fun found => ?_
  cases found with
  | none => exact ⟨_, rfl⟩
  | some place =>
    refine checked_bind_total (peek_total ram (by decide)) fun mode => ?_
    refine checked_bind_total (rom16_ok hsize _ _) fun table => ?_
    split
    · exact ⟨_, rfl⟩
    · refine checked_bind_total (rom16_ok hsize _ _) fun low => ?_
      split
      · exact ⟨_, rfl⟩
      · rename_i hlow
        refine checked_bind_total (peek_total ram (by unfold ramSize; omega)) fun blockLow => ?_
        refine checked_bind_total (peek_total ram (by unfold ramSize; omega)) fun blockHigh => ?_
        dsimp only
        split
        · exact ⟨_, rfl⟩
        · rename_i hblock
          refine checked_bind_total (definition_ok hsize layer _ (by omega)) fun address => ?_
          refine checked_ite_total (fun _ => ⟨_, rfl⟩) fun _ => ?_
          refine checked_bind_total (peek_total ram (by decide)) fun tileset => ?_
          exact checked_bind_total (rom16_ok hsize _ _) fun tile => ⟨_, rfl⟩

/-! ## The two readers -/

/-- The cell of a pixel on stacked screens. -/
theorem index_stacked {x y : Nat} (hx : x < 512) :
    y / 16 % 16 * 16 + x / 16 % 16 + x / 256 % 256 * 256 =
    x / 2 ^ 8 * 256 + y % 2 ^ 8 / 2 ^ 4 * 16 + x % 2 ^ 8 / 2 ^ 4 := by
  omega

/-- The cell of a pixel on screens in a row. -/
theorem index_abreast {x y : Nat} (hy : y < 432) :
    y / 16 % 16 * 16 + x / 16 % 16 + y / 256 % 256 * 256 =
    y / 2 ^ 4 * 16 + x % 2 ^ 8 / 2 ^ 4 := by
  omega

/-- Where both look, they look at one cell. -/
theorem mapCell_agrees {t : CoopTerrain} {layer : Nat} {x y : Int} {here there : Nat × Nat}
    (hcoop : t.cell layer x y = .ok (some here))
    (hrenderer : mapCell t.ram layer x y = .ok (some there)) : here = there := by
  rw [CoopTerrain.cell_eq] at hcoop
  obtain ⟨hin, hplace⟩ := Option.ite_none_left_eq_some.mp (Except.ok.inj hcoop)
  obtain ⟨hroom, hhere⟩ := Option.ite_none_left_eq_some.mp hplace
  cases hhere
  have hbit : ((t.ram 0x5b).toNat &&& (1 <<< layer) ≠ 0) ↔ t.vertical layer = true := by
    unfold CoopTerrain.vertical
    exact (decide_eq_true_iff).symm
  have hmask : 255 = 2 ^ 8 - 1 := rfl
  unfold mapCell at hrenderer
  rw [peek_ok (by decide), peek_ok (by decide), peek_ok (by decide)] at hrenderer
  simp only [checked_bind, checked_pure, hbit, hmask, and_low, Nat.shiftRight_eq_div_pow]
    at hrenderer
  split at hrenderer
  · cases hrenderer
  · cases hv : t.vertical layer with
    | true =>
      simp only [hv, if_true] at hrenderer ⊢
      split at hrenderer
      · cases hrenderer
      · rename_i hrange
        cases hrenderer
        rw [index_stacked (by omega)]
    | false =>
      simp only [hv, if_false, Bool.false_eq_true] at hrenderer ⊢
      split at hrenderer
      · cases hrenderer
      · rename_i hrange
        cases hrenderer
        rw [index_abreast (by omega)]

/-- Both readers, over the same guest memory: each reads within its arrays at every pixel, and
pixels that both accept are looked up on the same screen, at the same offset. -/
theorem map_readers (t : CoopTerrain) (rom : GlobalRom) (layer : Nat) (x y : Int32) :
    (∃ r, t.block layer x.toInt y.toInt = .ok r) ∧
    (0x80000 ≤ rom.size → ∃ r, smwRendererMapTile t.ram rom layer x.toInt y.toInt = .ok r) ∧
    ∀ block tile, t.block layer x.toInt y.toInt = .ok (some block) →
      smwRendererMapTile t.ram rom layer x.toInt y.toInt = .ok (some tile) →
      ∃ screen index, t.cell layer x.toInt y.toInt = .ok (some (screen, index)) ∧
        mapCell t.ram layer x.toInt y.toInt = .ok (some (screen, index)) := by
  refine ⟨t.block_ok layer _ _, fun hsize => smwRendererMapTile_ok hsize layer _ _,
    fun block tile hblock htile => ?_⟩
  obtain ⟨found, hcell, hrest⟩ := checked_bind_ok hblock
  obtain ⟨found', hcell', hrest'⟩ := checked_bind_ok htile
  cases found with
  | none => cases hrest
  | some here =>
    cases found' with
    | none => cases hrest'
    | some there =>
      obtain rfl := mapCell_agrees hcell hcell'
      exact ⟨here.1, here.2, hcell, hcell'⟩

/-- A room of one screen whose air has a definition. -/
def drawnRoom : CoopTerrain :=
  { CoopTerrain.openRoom with ram := fun a => if a = 0x1009 then 0x80 else CoopTerrain.openRoom.ram a }

/-- A ROM whose first level mode has its screens at `0xc800`. -/
def drawnRom : GlobalRom :=
  ⟨some fun a => if a = 0x3da9 then 0x81 else if a = 0x101 then 0xc8 else 0, 0x80000⟩

theorem map_readers_drawnRoom :
    (∃ r, smwRendererMapTile drawnRoom.ram drawnRom 0 (24 : Int32).toInt (40 : Int32).toInt =
      .ok r) ∧
    ∃ screen index, drawnRoom.cell 0 (24 : Int32).toInt (40 : Int32).toInt =
      .ok (some (screen, index)) ∧
      mapCell drawnRoom.ram 0 (24 : Int32).toInt (40 : Int32).toInt =
        .ok (some (screen, index)) := by
  obtain ⟨-, hread, hsame⟩ := map_readers drawnRoom drawnRom 0 24 40
  have hblock : drawnRoom.block 0 (24 : Int32).toInt (40 : Int32).toInt = .ok (some 0x25) := by
    decide +kernel
  have htile : smwRendererMapTile drawnRoom.ram drawnRom 0 (24 : Int32).toInt (40 : Int32).toInt =
    .ok (some 0) := by decide +kernel
  exact ⟨hread (by decide), hsame 0x25 0 hblock htile⟩

end SmwRecomp.Renderer
