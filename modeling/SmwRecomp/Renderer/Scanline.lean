import SmwRecomp.Renderer.DrawIndex
import SmwRecomp.Renderer.MapTile
import SmwRecomp.Renderer.Spawns

/-!
# Drawing a captured frame

`SmwRendererDraw` of `src/src/smw_renderer.c` with what it calls.

* `View` — the viewport and where the native picture is in it; `smwViewOffset_bounds` — it is within
  it.
* `background`, `sprites`, `compose` — a pixel of a layer, the sprites of a line, and what is shown
  of them.
* `piece_columns` — what a sprite piece leaves in the columns; `sprites_column` — the first opaque
  piece in the order of the slots is what is seen.
* `view_covariant` — below the status bar, what two views of one frame both show they show alike.

The extra objects that co-op adds are drawn by other code, a parameter that is told the column's
native coordinate.
-/

set_option autoImplicit false

namespace SmwRecomp.Renderer

open SmwRecomp.Coop (Ram)

/-! ## The view -/

/-- `g_smw_viewport`, without its aspect, and `native_x`. -/
structure View where
  width : Int
  extra : Int
  nativeX : Int
  deriving DecidableEq, Repr

/-- The native picture is within the view. -/
structure View.Ok (v : View) : Prop where
  left : 0 ≤ v.nativeX
  right : v.nativeX + 256 ≤ v.width

/-- A native coordinate that the view shows. -/
def View.Shows (v : View) (x : Int) : Prop := 0 ≤ x + v.nativeX ∧ x + v.nativeX < v.width

/-! ## Captured lines -/

/-- The registers of the PPU that are read; `bigTiles` is `PPU_bigTiles`. -/
structure PpuRegs where
  inidisp : UInt8
  bgmode : UInt8
  bigTiles : Nat → Bool
  mosaic : UInt8
  obsel : UInt8
  bgXsc : Nat → UInt8
  bgTileAdr : UInt16
  hScroll : Nat → UInt16
  vScroll : Nat → UInt16
  screenEnabled : Nat → UInt8
  screenWindowed : Nat → UInt8
  windowsel : UInt32
  window1left : UInt8
  window1right : UInt8
  window2left : UInt8
  window2right : UInt8
  wbgobjlog : UInt16
  cgwsel : UInt8
  cgadsub : UInt8
  fixedColor : UInt16

/-- `PpuOverlayCapture`; `remove` is `kPpuOverlayFlag_RemoveFromGame`. -/
structure OverlayCapture where
  remove : Bool
  x0 : Int
  x1 : Int
  y0 : Int
  y1 : Int
  oamFirst : Nat
  oamCount : Nat

/-- An entry of `lines`, with those of `obj_capture` and `bg3_capture`. -/
structure ScanLine where
  regs : PpuRegs
  palette : Nat → UInt16
  oam : Nat → UInt16
  high : Nat → UInt8
  vram : Nat → UInt16
  objCapture : OverlayCapture
  bg3Capture : OverlayCapture

/-- A column of `objects`, `object_colors` and `object_order`. -/
structure ObjectColumn where
  pixel : Nat
  color : Nat
  order : Nat

/-- The static state that a frame is drawn from. `extraObjects` is `PpuComposeExtraObjects`, at a
line and a native coordinate. -/
structure Frame where
  ram : Ram
  rom : GlobalRom
  levelScene : Bool
  captureFailed : Bool
  captured : Nat
  lines : Nat → ScanLine
  latched : Fin 128 → OamOwner
  latchedDraws : List SpriteDraw
  drawStart : Nat → Nat
  extraObjectCount : Nat
  extraObjects : Nat → Int → ObjectColumn → ObjectColumn

/-! ## Backgrounds -/

/-- A byte of `frame_ram`. -/
def Frame.byte (f : Frame) (a : Nat) : Nat := (f.ram a).toNat

/-- `world_layer`. -/
def Frame.worldLayer (f : Frame) (layer : Nat) : Bool :=
  layer = 0 ∨ (layer = 1 ∧ f.byte 0x1925 < 32 ∧ (0x800081fe : Nat).testBit (f.byte 0x1925))

/-- `background_shift`. -/
def Frame.backgroundShift (f : Frame) (v : View) : Int :=
  if f.worldLayer 1 = true ∨ f.byte 0x5b &&& 1 ≠ 0 then 0
  else if f.byte 0x1413 = 0 then v.nativeX
  else if f.byte 0x1413 = 1 then 0
  else
    let camera : Int := f.ram.read16 0x1a
    let origin := camera - v.nativeX
    v.nativeX + origin.tdiv 2 - camera.tdiv 2

/-- `tile_pixel`. -/
def tilePixel (vram : Nat → UInt16) (address x y bpp : Nat) : Nat :=
  let a := (address + y) &&& 0x7fff
  let shift := 7 - x
  let bits := (vram a).toNat >>> shift
  let pixel := (bits &&& 1) ||| (bits >>> 7 &&& 2)
  if bpp = 4 then
    let bits := (vram ((a + 8) &&& 0x7fff)).toNat >>> shift
    pixel ||| ((bits &&& 1) <<< 2 ||| (bits >>> 5 &&& 8))
  else pixel

/-- Where the status bar has the column of the view; nothing between its groups. -/
def hudColumn (v : View) (x : Int) : Option Int :=
  let sx := x + v.nativeX
  if sx < 112 then some sx
  else if sx ≥ v.width - 112 then some (sx - (v.width - 256))
  else if sx ≥ v.extra + 112 ∧ sx < v.extra + 144 then some (sx - v.extra)
  else none

/-- A scroll register against the camera, as a signed number. -/
def scrollDelta (scroll camera : Nat) : Int := ((scroll : Int) - camera + 512) % 1024 - 512

/-- The tile under a point of the tilemap that `sc` describes. -/
def mapAddress (sc tx ty : Nat) : Nat :=
  let addr := (sc &&& 0xfc) * 256 + (tx &&& 31) + (ty &&& 31) * 32
  let addr := if sc &&& 1 ≠ 0 ∧ tx &&& 32 ≠ 0 then addr + 1024 else addr
  if sc &&& 2 ≠ 0 ∧ ty &&& 32 ≠ 0 then addr + (if sc &&& 1 ≠ 0 then 2048 else 1024) else addr

/-- The pixel of a tile at a point of the layer. -/
def layerPixel (l : ScanLine) (layer size : Nat) (tile : Nat) (px py : Int) : Nat :=
  let p := l.regs
  let bpp := if layer = 2 then 2 else 4
  let cx := (px % size).toNat
  let cy := (py % size).toNat
  let cx := if tile &&& 0x4000 ≠ 0 then size - 1 - cx else cx
  let cy := if tile &&& 0x8000 ≠ 0 then size - 1 - cy else cy
  let number := ((tile &&& 1023) + cx / 8 + (cy / 8) * 16) &&& 1023
  let base := (p.bgTileAdr.toNat >>> (layer * 4) &&& 15) * 4096
  let pixel := tilePixel l.vram (base + number * (bpp * 4)) (cx &&& 7) (cy &&& 7) bpp
  if pixel = 0 then 0
  else
    let priority := if tile &&& 0x2000 ≠ 0 then [12, 11, 3].getD layer 0 else [8, 7, 1].getD layer 0
    let priority := if layer = 2 ∧ tile &&& 0x2000 ≠ 0 ∧ p.bgmode.toNat &&& 8 ≠ 0
      then 15 else priority
    (priority <<< 12) ||| (layer <<< 8) ||| ((tile >>> 10 &&& 7) * 2 ^ bpp) ||| pixel

/-- `background` from the column that is sampled. -/
def sampled (f : Frame) (l : ScanLine) (layer : Nat) (x : Int) (y : Nat) : Checked Nat := do
  let p := l.regs
  if layer = 2 ∧ (y ≤ 40 ∨ f.byte 0x1426 ≠ 0) ∧ (x < 0 ∨ x ≥ 256) then return 0
  if layer = 2 ∧ 1 ≤ y ∧ y ≤ 224 ∧ l.bg3Capture.remove = true ∧ x ≥ l.bg3Capture.x0 ∧
    x < l.bg3Capture.x1 ∧
      (y : Int) ≥ l.bg3Capture.y0 ∧ (y : Int) < l.bg3Capture.y1 then return 0
  let size := if p.bigTiles layer then 16 else 8
  let m : Nat := p.mosaic.toNat / 16 + 1
  let mosaic := p.mosaic.toNat.testBit layer
  let x := if mosaic then x - ((x.tmod m + m).tmod m) else x
  let y := if mosaic then y - y % m else y
  let px := (x + (p.hScroll layer).toNat) % 1024
  let py := ((y : Int) + (p.vScroll layer).toNat) % 1024
  let tile :=
    (l.vram (mapAddress (p.bgXsc layer).toNat (px.toNat / size) (py.toNat / size) &&& 0x7fff)).toNat
  if (x < 0 ∨ x ≥ 256) ∧ f.worldLayer layer = true ∧ size = 8 then
    let camx := f.ram.read16 (0x1a + layer * 4)
    let camy := f.ram.read16 (0x1c + layer * 4)
    let wx := camx + x + scrollDelta (p.hScroll layer).toNat camx
    let wy := camy + y + scrollDelta (p.vScroll layer).toNat camy
    match ← smwRendererMapTile f.ram f.rom layer wx wy with
    | none => return 0
    | some tile =>
      return layerPixel l layer size (if layer = 1 ∧ f.byte 0x1931 = 3 then tile ||| 0x1000
        else tile) wx wy
  else return layerPixel l layer size tile px py

/-- `background`; the status bar is put together from its native groups. -/
def background (f : Frame) (v : View) (l : ScanLine) (layer : Nat) (x : Int) (y : Nat) :
    Checked Nat :=
  match if layer = 2 ∧ y ≤ 40 then hudColumn v x else some x with
  | none => .ok 0
  | some x => sampled f l layer x y

/-! ## Sprites -/

/-- `sprite_sizes`. -/
def spriteSizes : Nat → Nat × Nat
  | 0 => (8, 16)
  | 1 => (8, 32)
  | 2 => (8, 64)
  | 3 => (16, 32)
  | 4 => (16, 64)
  | 5 => (32, 64)
  | _ => (16, 32)

def spriteSize (p : PpuRegs) (hi : Nat) : Nat :=
  let sizes := spriteSizes (p.obsel.toNat / 32)
  if hi / 2 % 2 = 0 then sizes.1 else sizes.2

/-- What `sprite_piece` is told of a piece. -/
structure Piece where
  slot : Nat
  pos : Nat
  attr : Nat
  hi : Nat
  x : Int

/-- The row of the piece that is on a line. -/
def Piece.row (q : Piece) (y : Nat) : Nat := (((y : Int) - (q.pos / 256 : Nat)) % 256).toNat

/-- The item of the status bar's box, at its native position. -/
def Frame.reserveItem (f : Frame) (q : Piece) : Bool :=
  (q.slot = 56 ∨ q.slot = 0) ∧ q.pos = 0x0f78 ∧ 1 ≤ f.byte 0xdc2 ∧ f.byte 0xdc2 ≤ 4 ∧
    q.attr &&& 255 = [0x24, 0x26, 0x48, 0x0e].getD (f.byte 0xdc2 - 1) 0

/-- The coordinate the piece is drawn at. -/
def Frame.pieceX (f : Frame) (v : View) (q : Piece) : Int :=
  if f.reserveItem q then q.x + (v.extra - v.nativeX) else q.x

/-- An overlay region has the column of the piece. -/
def removed (c : OverlayCapture) (q : Piece) (y col : Nat) : Bool :=
  c.remove ∧ (y : Int) ≥ c.y0 ∧ (y : Int) < c.y1 ∧ c.oamFirst ≤ q.slot ∧
    q.slot < c.oamFirst + c.oamCount ∧
    q.x + col ≥ c.x0 ∧ q.x + col < c.x1

/-- The pixel of the piece's tile. -/
def Piece.pixel (q : Piece) (l : ScanLine) (y col : Nat) : Nat :=
  let p := l.regs
  let size := spriteSize p q.hi
  let row := if q.attr &&& 0x8000 ≠ 0 then size - 1 - q.row y else q.row y
  let base := (p.obsel.toNat &&& 7) * 8192
  let base := if q.attr &&& 256 ≠ 0 then base + ((p.obsel.toNat >>> 3 &&& 3) + 1) * 4096 else base
  let cx := if q.attr &&& 0x4000 ≠ 0 then size - 1 - col else col
  let tile := ((q.attr &&& 255) / 16 + row / 8 &&& 15) <<< 4 ||| ((q.attr &&& 15) + cx / 8 &&& 15)
  tilePixel l.vram (base + tile * 16) (cx &&& 7) (row &&& 7) 4

/-- What an opaque pixel of the piece puts into `objects`. -/
def Piece.object (q : Piece) (pixel : Nat) : Nat :=
  let palette := 128 + (q.attr >>> 9 &&& 7) * 16
  let priority := (q.attr >>> 12 &&& 3) * 4 + 2
  let layer := if q.attr &&& 0x800 ≠ 0 then 4 else 6
  (priority <<< 12) ||| (layer <<< 8) ||| palette ||| pixel

/-- One column of the loop of `sprite_piece`. -/
def pieceColumn (f : Frame) (v : View) (l : ScanLine) (y : Nat) (q : Piece)
    (columns : Nat → ObjectColumn) (col : Nat) :
    Nat → ObjectColumn :=
  let dest := f.pieceX v q + col + v.nativeX
  if removed l.objCapture q y col then columns
  else if dest < 0 ∨ dest ≥ v.width then columns
  else if q.pixel l y col = 0 then columns
  else
    let old := columns dest.toNat
    Function.update columns dest.toNat
      ⟨q.object (q.pixel l y col), old.color, if f.extraObjectCount ≠ 0 then q.slot <<< 32
        else old.order⟩

/-- `sprite_piece`. -/
def spritePiece (f : Frame) (v : View) (l : ScanLine) (y : Nat) (columns : Nat → ObjectColumn)
    (q : Piece) : Nat → ObjectColumn :=
  let size := spriteSize l.regs q.hi
  if q.row y ≥ size then columns else (List.range size).foldl (pieceColumn f v l y q) columns

/-- The draws of a slot in the order they were made. -/
def Frame.slotDraws (f : Frame) (slot : Nat) : List SpriteDraw :=
  (f.latchedDraws.drop (f.drawStart slot)).take (f.drawStart (slot + 1) - f.drawStart slot)

def drawPiece (slot : Nat) (d : SpriteDraw) : Piece :=
  ⟨slot, d.image.position.toNat, d.image.attr.toNat, d.high, d.image.x⟩

/-- The piece of the hardware's own OAM: at the coordinate of its owner, or at its own where that is
in the native picture. -/
def nativePiece (f : Frame) (l : ScanLine) (slot : Fin 128) (pos attr hi : Nat) : List Piece :=
  let owner := f.latched slot
  let x : Int := (pos % 256 : Nat) - (hi % 2 * 256 : Nat)
  if owner.valid = true ∧ owner.position.toNat = pos ∧ owner.attr.toNat = attr
    then [⟨slot, pos, attr, hi, owner.x⟩]
  else if x + spriteSize l.regs hi ≤ 0 ∨ x ≥ 256 then []
  else [⟨slot, pos, attr, hi, x⟩]

/-- The pieces of a slot in the order they are drawn; OAM adds its own unless it is the image of a
draw. -/
def slotPieces (f : Frame) (l : ScanLine) (slot : Fin 128) : List Piece :=
  let pos := (l.oam (slot.val * 2)).toNat
  let attr := (l.oam (slot.val * 2 + 1)).toNat
  let hi := (l.high (slot.val / 4)).toNat >>> (slot.val % 4 * 2) &&& 3
  let draws := f.slotDraws slot
  draws.map (drawPiece slot) ++
    if draws.any fun d => d.image.position.toNat = pos ∧ d.image.attr.toNat = attr ∧
      d.high = hi then []
    else nativePiece f l slot pos attr hi

/-- All pieces in the order they are drawn: the last slot first. -/
def framePieces (f : Frame) (l : ScanLine) : List Piece :=
  (List.finRange 128).reverse.flatMap (slotPieces f l)

/-- `sprites`: what `objects` and its companions hold for a column of the view. -/
def sprites (f : Frame) (v : View) (l : ScanLine) (y : Nat) (sx : Nat) : ObjectColumn :=
  let blank : ObjectColumn := ⟨0, 0, 2 ^ 64 - 1⟩
  let column := (framePieces f l).foldl (spritePiece f v l y) (fun _ => blank) sx
  if f.extraObjectCount ≠ 0 then f.extraObjects y (sx - v.nativeX) column else column

/-! ## Composition -/

/-- `window_condition`. -/
def windowCondition (mode : Nat) (inside : Bool) : Bool :=
  mode = 3 ∨ (mode = 1 ∧ inside = false) ∨ (mode = 2 ∧ inside = true)

/-- A column is between the edges of a window; an edge at the border of the native picture is one of
the view. -/
def between (v : View) (left right : UInt8) (x : Int) : Bool :=
  let l : Int := if left ≠ 0 then left.toNat else -v.nativeX
  let r : Int := if right = 255 then v.width - v.nativeX - 1 else right.toNat
  x ≥ l ∧ x ≤ r

/-- `window`. -/
def window (p : PpuRegs) (v : View) (layer : Nat) (x : Int) : Bool :=
  let flags := p.windowsel.toNat >>> (layer * 4) &&& 15
  if flags &&& 10 = 0 then false
  else
    let a := between v p.window1left p.window1right x != decide (flags &&& 1 ≠ 0)
    let b := between v p.window2left p.window2right x != decide (flags &&& 4 ≠ 0)
    if flags &&& 2 = 0 then decide (flags &&& 8 ≠ 0) && b
    else if flags &&& 8 = 0 then a
    else
      match p.wbgobjlog.toNat >>> (layer * 2) &&& 3 with
      | 0 => a || b
      | 1 => a && b
      | 2 => a != b
      | _ => a == b

/-- `pixel_colour`. -/
def pixelColour (f : Frame) (l : ScanLine) (pixel : Nat) (column : ObjectColumn) : Nat :=
  let layer := pixel >>> 8 &&& 15
  if f.extraObjectCount ≠ 0 ∧ (layer = 4 ∨ layer = 6) ∧ column.color &&& 0x8000 ≠ 0
    then column.color &&& 0x7fff
  else (l.palette (pixel &&& 255)).toNat

/-- A component after colour math, before the brightness. -/
def blend (p : PpuRegs) (math clipped half : Bool) (rgb other component : Nat) : Nat :=
  let c : Int := if clipped then 0 else (rgb >>> (component * 5) &&& 31 : Nat)
  if math then
    let second : Int := (other >>> (component * 5) &&& 31 : Nat)
    let c := if p.cgadsub.toNat &&& 128 ≠ 0 then c - second else c + second
    let c := if c < 0 then 0 else c
    let c := if half then c / 2 else c
    (if c > 31 then 31 else c).toNat
  else c.toNat

/-- `colour`; `brightness` are the levels of `inidisp`. -/
def colour (f : Frame) (l : ScanLine) (main sub : Nat) (inside : Bool)
    (column : ObjectColumn) : Nat :=
  let p := l.regs
  let rgb := pixelColour f l main column
  let layer := main >>> 8 &&& 15
  let clipped := windowCondition (p.cgwsel.toNat >>> 6) inside
  let math :=
    !windowCondition (p.cgwsel.toNat >>> 4 &&& 3) inside && (p.cgadsub.toNat &&& 63).testBit layer
  let half := math && decide (p.cgadsub.toNat &&& 64 ≠ 0) && !clipped
  let second := math && decide (p.cgwsel.toNat &&& 2 ≠ 0)
  let other := if second && decide (sub &&& 255 ≠ 0) then pixelColour f l sub column
    else p.fixedColor.toNat
  let half := half && !(second && decide (sub &&& 255 = 0))
  let brightness (i : Nat) : Nat := (i <<< 3 ||| i >>> 2) * (p.inidisp.toNat &&& 15) / 15
  (List.range 3).foldl (fun result component =>
    result ||| brightness (blend p math clipped half rgb other component) <<< (16 - component * 8))
      0

/-- One of the two screens of `compose`. -/
def screen (p : PpuRegs) (v : View) (bg : Nat → Nat) (object : Nat) (x : Int) (sub : Nat) : Nat :=
  let shown (layer : Nat) : Bool := (p.screenEnabled sub).toNat.testBit layer &&
    !((p.screenWindowed sub).toNat.testBit layer && window p v layer x)
  let best :=
    (List.range 3).foldl (fun best layer => if shown layer && decide (bg layer > best) then bg layer
    else best) 0x500
  if shown 4 && decide (object > best) then object else best

/-- `compose`. -/
def compose (f : Frame) (v : View) (l : ScanLine) (bg : Nat → Nat) (column : ObjectColumn)
    (x : Int) : Nat :=
  colour f l (screen l.regs v bg column.pixel x 0) (screen l.regs v bg column.pixel x 1)
    (window l.regs v 5 x) column

/-! ## The frame -/

/-- The line is not drawn from the capture: the native picture is shown. -/
def Frame.usesStock (f : Frame) (v : View) (l : ScanLine) : Bool :=
  v.width = 256 ∨ f.levelScene = false ∨ f.captureFailed = true ∨ f.captured ≠ 224 ∨
    l.regs.bgmode.toNat &&& 7 ≠ 1

/-- `dst[sx]` on a line; `stock` is the native picture. -/
def drawPixel (f : Frame) (v : View) (stock : Nat → Nat → Nat) (y sx : Nat) : Checked Nat := do
  let l := f.lines y
  let x := (sx : Int) - v.nativeX
  if f.usesStock v l then return if 0 ≤ x ∧ x < 256 then stock y x.toNat else 0
  if l.regs.inidisp.toNat &&& 128 ≠ 0 then return 0
  let bg0 ← background f v l 0 x (y + 1)
  let bg1 ← background f v l 1 (x + f.backgroundShift v) (y + 1)
  let bg2 ← background f v l 2 x (y + 1)
  return compose f v l (fun layer => [bg0, bg1, bg2].getD layer 0) (sprites f v l y sx) x

/-- `SmwRendererDraw`. -/
def smwRendererDraw (f : Frame) (v : View) (stock : Nat → Nat → Nat) : Checked (List (List Nat)) :=
  (List.range 224).mapM fun y => (List.range v.width.toNat).mapM (drawPixel f v stock y)


/-! ## The native picture in the view -/

/-- The view `SmwRendererBeginFrame` sets. -/
def Frame.beginView (f : Frame) (video : Video) : View where
  width := video.width
  extra := video.extra
  nativeX := if f.levelScene = true ∧ f.byte 0x5b &&& 1 = 0 then
    smwViewOffset video (f.ram.read16 0x1a) ((f.byte 0x5e + 1) * 256 : Nat) else video.extra

theorem smwViewOffset_bounds {video : Video} {camera levelWidth : Int}
    (hwidth : 256 ≤ video.width) :
    0 ≤ smwViewOffset video camera levelWidth ∧ smwViewOffset video camera levelWidth + 256 ≤
      video.width := by
  unfold smwViewOffset
  extract_lets origin last origin₁ origin₂ offset offset₁
  have hoffset : 0 ≤ offset₁ := by
    rcases lt_or_ge offset 0 with hless | hmore
    · exact le_of_eq (if_pos hless).symm
    · exact le_of_le_of_eq hmore (if_neg (not_lt.2 hmore)).symm
  split <;> omega

theorem beginView_ok (f : Frame) {video : Video} (hextra : 0 ≤ video.extra)
    (hwidth : video.extra + 256 ≤ video.width) :
    (f.beginView video).Ok := by
  have hbounds :=
    @smwViewOffset_bounds video (f.ram.read16 0x1a) ((f.byte 0x5e + 1) * 256 : Nat) (by omega)
  have hnative : 0 ≤ (f.beginView video).nativeX ∧ (f.beginView video).nativeX + 256 ≤
    video.width := by
    unfold Frame.beginView
    dsimp only
    split
    · exact hbounds
    · exact ⟨hextra, hwidth⟩
  exact ⟨hnative.1, hnative.2⟩

/-! ## What a piece leaves -/

/-- What a piece drawn at `px` puts at a native coordinate; `none` where it is clear, cut out or not
there. -/
def pieceAt (l : ScanLine) (y : Nat) (q : Piece) (px x : Int) : Option Nat :=
  let col := (x - px).toNat
  if 0 ≤ x - px ∧ x - px < spriteSize l.regs q.hi ∧ q.row y < spriteSize l.regs q.hi ∧
      removed l.objCapture q y col = false ∧ q.pixel l y col ≠ 0
      then some (q.object (q.pixel l y col)) else none

/-- A column under a piece. -/
def paint (f : Frame) (q : Piece) (object : Option Nat) (old : ObjectColumn) : ObjectColumn :=
  match object with
  | none => old
  | some pixel => ⟨pixel, old.color, if f.extraObjectCount ≠ 0 then q.slot <<< 32 else old.order⟩

section Columns

variable {f : Frame} {v : View} {l : ScanLine} {y : Nat}

/-- The first `n` columns of a piece: each is its own column of the view. -/
theorem piece_columns (q : Piece) (columns : Nat → ObjectColumn) {sx : Nat}
    (hsx : (sx : Int) < v.width) (n : Nat) :
    (List.range n).foldl (pieceColumn f v l y q) columns sx =
      let col := (sx : Int) - v.nativeX - f.pieceX v q
      if 0 ≤ col ∧ col < n ∧ removed l.objCapture q y col.toNat = false ∧
        q.pixel l y col.toNat ≠ 0 then
        paint f q (some (q.object (q.pixel l y col.toNat))) (columns sx)
      else columns sx := by
  induction n with
  | zero => exact (if_neg fun h => by omega).symm
  | succ n ih =>
    rw [List.range_succ, List.foldl_append, List.foldl_cons, List.foldl_nil]
    dsimp only at ih ⊢
    generalize (List.range n).foldl (pieceColumn f v l y q) columns = before at ih ⊢
    by_cases hhere : (sx : Int) - v.nativeX - f.pieceX v q = n
    · -- The last column is this one, and no earlier one was.
      rw [if_neg (by omega)] at ih
      have hdest : f.pieceX v q + n + v.nativeX = sx := by omega
      rw [hhere, Int.toNat_natCast]
      unfold pieceColumn
      dsimp only
      rw [hdest, Int.toNat_natCast]
      by_cases hcut : removed l.objCapture q y n = true
      · rw [if_pos hcut, ih, if_neg fun h => by simp [hcut] at h]
      · rw [if_neg hcut, if_neg (by omega)]
        by_cases hclear : q.pixel l y n = 0
        · rw [if_pos hclear, ih, if_neg fun h => h.2.2.2 hclear]
        · rw [if_neg hclear, Function.update_self, ih]
          exact (if_pos ⟨by omega, by omega, Bool.eq_false_iff.2 hcut, hclear⟩).symm
    · have hsame : pieceColumn f v l y q before n sx = before sx := by
        unfold pieceColumn
        dsimp only
        split
        · rfl
        · split
          · rfl
          · split
            · rfl
            · exact Function.update_of_ne (by omega) _ _
      rw [hsame, ih]
      by_cases hin : 0 ≤ (sx : Int) - v.nativeX - f.pieceX v q ∧
        (sx : Int) - v.nativeX - f.pieceX v q < n
      · have hin' : (sx : Int) - v.nativeX - f.pieceX v q < (n + 1 : Nat) := by omega
        simp only [hin.1, hin.2, hin', true_and]
      · rw [if_neg fun h => hin ⟨h.1, h.2.1⟩, if_neg fun h => hin ⟨h.1, by omega⟩]

theorem spritePiece_column (q : Piece) (columns : Nat → ObjectColumn) {sx : Nat}
    (hsx : (sx : Int) < v.width) :
    spritePiece f v l y columns q sx = paint f q (pieceAt l y q (f.pieceX v q) (sx - v.nativeX))
      (columns sx) := by
  unfold spritePiece pieceAt
  dsimp only
  split
  · rename_i hrow
    rw [if_neg fun h => Nat.not_lt.2 hrow h.2.2.1]
    rfl
  · rename_i hrow
    rw [piece_columns q columns hsx]
    dsimp only
    split
    · rename_i hsolid
      rw [if_pos ⟨hsolid.1, hsolid.2.1, Nat.not_le.1 hrow, hsolid.2.2⟩]
    · rename_i hclear
      rw [if_neg fun h => hclear ⟨h.1, h.2.1, h.2.2.2⟩]
      rfl

/-- The pieces one after the other. -/
theorem pieces_column {sx : Nat} (hsx : (sx : Int) < v.width) :
    ∀ (qs : List Piece) (columns : Nat → ObjectColumn),
    qs.foldl (spritePiece f v l y) columns sx =
      qs.foldl (fun column q => paint f q (pieceAt l y q (f.pieceX v q) (sx - v.nativeX)) column)
        (columns sx)
  | [], _ => rfl
  | q :: qs, columns => by
    rw [List.foldl_cons, List.foldl_cons, pieces_column hsx qs, spritePiece_column q columns hsx]

/-- The pieces in front first: the lower slots, in a slot the OAM's own, and then what was drawn
last. -/
def frontToBack (f : Frame) (l : ScanLine) : List Piece :=
  (List.finRange 128).flatMap fun slot => (slotPieces f l slot).reverse

/-- The first piece that is opaque at a native coordinate, and what it puts there. -/
def foremostPiece (f : Frame) (v : View) (l : ScanLine) (y : Nat) (x : Int) :
    Option (Piece × Nat) :=
  (frontToBack f l).findSome? fun q => (pieceAt l y q (f.pieceX v q) x).map fun object =>
    (q, object)

/-- A column with one piece in it, or with none; the slot is kept where co-op has objects to put
between. -/
def pieceColumnOf (f : Frame) : Option (Piece × Nat) → ObjectColumn
  | none => ⟨0, 0, 2 ^ 64 - 1⟩
  | some (q, object) => ⟨object, 0, if f.extraObjectCount ≠ 0 then q.slot <<< 32 else 2 ^ 64 - 1⟩

/-- A piece hides what was there. -/
theorem paint_some (q : Piece) (object : Nat) (hidden : Option (Piece × Nat)) :
    paint f q (some object) (pieceColumnOf f hidden) = pieceColumnOf f (some (q, object)) := by
  cases hidden with
  | none => rfl
  | some hidden => by_cases hextra : f.extraObjectCount = 0 <;> simp [paint, pieceColumnOf, hextra]

/-- The last piece that is opaque is seen, and nothing of the ones it hides. -/
theorem paint_last (at' : Piece → Option Nat) : ∀ qs : List Piece,
    qs.reverse.foldl (fun column q => paint f q (at' q) column) (pieceColumnOf f none) =
      pieceColumnOf f (qs.findSome? fun q => (at' q).map fun object => (q, object))
  | [] => rfl
  | q :: qs => by
    rw [List.reverse_cons, List.foldl_append, List.foldl_cons, List.foldl_nil, List.findSome?_cons,
      paint_last at' qs]
    cases at' q with
    | none => rfl
    | some object => exact paint_some q object _

/-- What the sprites leave in a column is the first piece of the lowest slots that is opaque there,
alone; co-op's objects are put to it. -/
theorem sprites_column {sx : Nat} (hsx : (sx : Int) < v.width) :
    sprites f v l y sx =
      if f.extraObjectCount ≠ 0 then
        f.extraObjects y (sx - v.nativeX) (pieceColumnOf f (foremostPiece f v l y (sx - v.nativeX)))
      else pieceColumnOf f (foremostPiece f v l y (sx - v.nativeX)) := by
  have hpieces : framePieces f l = (frontToBack f l).reverse := by
    unfold framePieces frontToBack
    rw [List.reverse_flatMap]
    simp only [Function.comp_def, List.reverse_reverse]
  have hseen : (framePieces f l).foldl (spritePiece f v l y) (fun _ => pieceColumnOf f none) sx =
      pieceColumnOf f (foremostPiece f v l y (sx - v.nativeX)) := by
    rw [pieces_column hsx, hpieces]
    exact paint_last _ _
  rw [← hseen]
  rfl

end Columns

/-! ## Two views of a frame -/

section Views

variable {f : Frame} {v v' : View} {l : ScanLine} {y : Nat}

/-- Lines below the status bar, and below the item in its box. -/
def Below (l : ScanLine) (y : Nat) : Prop :=
  40 ≤ y ∧ y < 224 ∧ (l.regs.obsel.toNat / 32 = 0 ∨ 79 ≤ y)

theorem spriteSize_le (p : PpuRegs) (hi : Nat) :
    spriteSize p hi ≤ 64 ∧ (p.obsel.toNat / 32 = 0 → spriteSize p hi ≤ 16) := by
  unfold spriteSize
  refine ⟨?_, fun hsmall => ?_⟩
  · dsimp only
    unfold spriteSizes
    split <;> split <;> decide
  · rw [hsmall]
    dsimp only [spriteSizes]
    split <;> decide

/-- The item in the box has no row there. -/
theorem reserveItem_above {q : Piece} (hy : Below l y) (hitem : f.reserveItem q = true) :
    ¬ q.row y < spriteSize l.regs q.hi := by
  obtain ⟨hlow, hhigh, hsize⟩ := hy
  obtain ⟨-, hpos, -⟩ := of_decide_eq_true hitem
  obtain ⟨hlarge, hsmall⟩ := spriteSize_le l.regs q.hi
  have hrow : q.row y = y - 15 := by
    unfold Piece.row
    rw [hpos]
    omega
  rw [hrow]
  rcases hsize with hsize | hsize
  · have hle := hsmall hsize
    omega
  · omega

theorem pieceAt_view (hy : Below l y) (q : Piece) (x : Int) :
    pieceAt l y q (f.pieceX v q) x = pieceAt l y q (f.pieceX v' q) x := by
  by_cases hitem : f.reserveItem q = true
  · have hnone : ∀ px, pieceAt l y q px x = none := fun px => if_neg fun h =>
      reserveItem_above hy hitem h.2.2.1
    rw [hnone, hnone]
  · unfold Frame.pieceX
    rw [if_neg hitem, if_neg hitem]

theorem sprites_view (hy : Below l y) {sx sx' : Nat} (hsx : (sx : Int) < v.width)
    (hsx' : (sx' : Int) < v'.width)
    (hx : (sx : Int) - v.nativeX = sx' - v'.nativeX) :
    sprites f v l y sx = sprites f v' l y sx' := by
  unfold sprites
  dsimp only
  rw [pieces_column hsx, pieces_column hsx', hx]
  simp only [@pieceAt_view f v v' l y hy]

/-- An edge of the view is beyond what both views show. -/
theorem between_view {x : Int} (h : v.Shows x) (h' : v'.Shows x) (left right : UInt8) :
    between v left right x = between v' left right x := by
  obtain ⟨hlow, hhigh⟩ := h
  obtain ⟨hlow', hhigh'⟩ := h'
  unfold between
  dsimp only
  refine decide_eq_decide.2 (and_congr ?_ ?_)
  · split
    · rfl
    · exact iff_of_true (by omega) (by omega)
  · split
    · exact iff_of_true (by omega) (by omega)
    · rfl

theorem window_view {x : Int} (h : v.Shows x) (h' : v'.Shows x) (p : PpuRegs) (layer : Nat) :
    window p v layer x = window p v' layer x := by
  unfold window
  rw [between_view h h', between_view h h']

theorem compose_view {x : Int} (h : v.Shows x) (h' : v'.Shows x) (bg : Nat → Nat)
    (column : ObjectColumn) :
    compose f v l bg column x = compose f v' l bg column x := by
  unfold compose screen
  simp only [window_view h h']

theorem background_view (hy : 40 < y) (layer : Nat) (x : Int) :
    background f v l layer x y = background f v' l layer x y := by
  have hfull : ¬ (layer = 2 ∧ y ≤ 40) := fun h => Nat.not_le.2 hy h.2
  unfold background
  rw [if_neg hfull, if_neg hfull]

/-- A point that two views show is the same in both, as long as the far background moves with
neither. -/
theorem drawPixel_view {stock : Nat → Nat → Nat} (hy : Below (f.lines y) y)
    (hstock : v.width = 256 ↔ v'.width = 256)
    (hshift : f.backgroundShift v = f.backgroundShift v') {sx sx' : Nat}
    (hsx : (sx : Int) < v.width)
    (hsx' : (sx' : Int) < v'.width) (hx : (sx : Int) - v.nativeX = sx' - v'.nativeX) :
    drawPixel f v stock y sx = drawPixel f v' stock y sx' := by
  have hshows : v.Shows (sx - v.nativeX) := ⟨by omega, by omega⟩
  have hshows' : v'.Shows (sx - v.nativeX) := ⟨by omega, by omega⟩
  have huses : f.usesStock v (f.lines y) = f.usesStock v' (f.lines y) := by
    unfold Frame.usesStock
    simp only [hstock]
  have hbelow : 40 < y + 1 := Nat.lt_succ_of_le hy.1
  unfold drawPixel
  dsimp only
  rw [huses, hshift, sprites_view hy hsx hsx' hx]
  simp only [@background_view f v v' _ _ hbelow, compose_view hshows hshows']
  rw [hx]

end Views

/-! ## Whole pictures -/

/-- A loop that collects goes through when its turns do, and collects what they answer. -/
theorem checked_mapM {α β : Type} {g : α → Checked β} :
    ∀ {xs : List α}, (∀ a ∈ xs, ∃ b, g a = .ok b) →
    ∃ bs, xs.mapM g = .ok bs ∧ bs.map Except.ok = xs.map g
  | [], _ => ⟨[], rfl, rfl⟩
  | x :: xs, h => by
    rw [List.forall_mem_cons] at h
    obtain ⟨⟨b, hb⟩, hrest⟩ := h
    obtain ⟨bs, hbs, hmap⟩ := checked_mapM hrest
    refine ⟨b :: bs, ?_, ?_⟩
    · rw [List.mapM_cons, hb, checked_bind, hbs, checked_bind, checked_pure]
    · rw [List.map_cons, List.map_cons, hb, hmap]

/-- A point of a picture. -/
def pixelOf (picture : List (List Nat)) (y sx : Nat) : Option Nat :=
  picture[y]?.bind fun row => row[sx]?

section Pictures

variable {f : Frame} (hsize : 0x80000 ≤ f.rom.size)

include hsize

theorem sampled_total (l : ScanLine) (layer : Nat) (x : Int) (y : Nat) :
    ∃ p, sampled f l layer x y = .ok p := by
  unfold sampled
  extract_lets p size m mosaic column row px py tile camx camy wx wy
  split
  · exact ⟨_, rfl⟩
  · split
    · exact ⟨_, rfl⟩
    · split
      · refine checked_bind_total (smwRendererMapTile_ok hsize layer wx wy) fun tile => ?_
        cases tile <;> exact ⟨_, rfl⟩
      · exact ⟨_, rfl⟩

theorem background_total (v : View) (l : ScanLine) (layer : Nat) (x : Int) (y : Nat) :
    ∃ p, background f v l layer x y = .ok p := by
  unfold background
  split
  · exact ⟨0, rfl⟩
  · exact sampled_total hsize l layer _ y

theorem drawPixel_total (v : View) (stock : Nat → Nat → Nat) (y sx : Nat) :
    ∃ p, drawPixel f v stock y sx = .ok p := by
  unfold drawPixel
  dsimp only
  split
  · exact ⟨_, rfl⟩
  · split
    · exact ⟨_, rfl⟩
    · refine checked_bind_total (background_total hsize v _ 0 _ _) fun bg0 => ?_
      refine checked_bind_total (background_total hsize v _ 1 _ _) fun bg1 => ?_
      refine checked_bind_total (background_total hsize v _ 2 _ _) fun bg2 => ?_
      exact ⟨_, rfl⟩

/-- A frame is drawn without leaving the ROM or the guest's memory, one point after the other. -/
theorem smwRendererDraw_points (v : View) (stock : Nat → Nat → Nat) :
    ∃ picture, smwRendererDraw f v stock = .ok picture ∧
    ∀ y sx : Nat, y < 224 → (sx : Int) < v.width →
      ∃ p, drawPixel f v stock y sx = .ok p ∧ pixelOf picture y sx = some p := by
  have hrow : ∀ y ∈ List.range 224, ∃ row, (List.range v.width.toNat).mapM (drawPixel f v stock y) =
    .ok row := by
    intro y _
    obtain ⟨row, hrow, -⟩ := checked_mapM fun sx (_ : sx ∈ List.range v.width.toNat) =>
      drawPixel_total hsize v stock y sx
    exact ⟨row, hrow⟩
  obtain ⟨picture, hpicture, hrows⟩ := checked_mapM hrow
  refine ⟨picture, hpicture, fun y sx hy hsx => ?_⟩
  obtain ⟨row, hrow, hpixels⟩ :=
    checked_mapM fun sx (_ : sx ∈ List.range v.width.toNat) => drawPixel_total hsize v stock y sx
  obtain ⟨p, hp⟩ := drawPixel_total hsize v stock y sx
  refine ⟨p, hp, ?_⟩
  have hat : picture[y]? = some row := by
    have hlookup : (picture.map Except.ok)[y]? = _ := congrArg (fun rows => rows[y]?) hrows
    rw [List.getElem?_map, List.getElem?_map, List.getElem?_range hy, Option.map_some, hrow]
      at hlookup
    obtain ⟨row', hrow', heq⟩ := Option.map_eq_some_iff.1 hlookup
    rw [hrow', Except.ok.inj heq]
  have hpixel : row[sx]? = some p := by
    have hlookup : (row.map Except.ok)[sx]? = _ := congrArg (fun pixels => pixels[sx]?) hpixels
    rw [List.getElem?_map, List.getElem?_map, List.getElem?_range (by omega), Option.map_some, hp]
      at hlookup
    obtain ⟨p', hp', heq⟩ := Option.map_eq_some_iff.1 hlookup
    rw [hp', Except.ok.inj heq]
  unfold pixelOf
  rw [hat, Option.bind_some, hpixel]

/-- Below the status bar two views of a frame agree on all they both show, wherever each has the
native picture, as long as the far background moves with neither or with both alike. -/
theorem view_covariant (v v' : View) (stock : Nat → Nat → Nat)
    (hstock : v.width = 256 ↔ v'.width = 256)
    (hshift : f.backgroundShift v = f.backgroundShift v') : ∃ picture picture',
    smwRendererDraw f v stock = .ok picture ∧ smwRendererDraw f v' stock = .ok picture' ∧
      ∀ y sx sx' : Nat, Below (f.lines y) y → (sx : Int) < v.width → (sx' : Int) < v'.width →
        (sx : Int) - v.nativeX = sx' - v'.nativeX → ∃ p, pixelOf picture y sx = some p ∧
        pixelOf picture' y sx' = some p := by
  obtain ⟨picture, hpicture, hpoints⟩ := smwRendererDraw_points hsize v stock
  obtain ⟨picture', hpicture', hpoints'⟩ := smwRendererDraw_points hsize v' stock
  refine ⟨picture, picture', hpicture, hpicture', fun y sx sx' hy hsx hsx' hx => ?_⟩
  obtain ⟨p, hp, hat⟩ := hpoints y sx hy.2.1 hsx
  obtain ⟨p', hp', hat'⟩ := hpoints' y sx' hy.2.1 hsx'
  rw [drawPixel_view hy hstock hshift hsx hsx' hx, hp'] at hp
  cases hp
  exact ⟨p, hat, hat'⟩

end Pictures

/-! A frame of one repeated tile, in two views. -/

def tiledLine : ScanLine where
  regs := {
    inidisp := 15, bgmode := 1, bigTiles := fun _ => false, mosaic := 0, obsel := 0, bgXsc :=
    fun _ => 0, bgTileAdr := 0
    hScroll := fun _ => 0, vScroll := fun _ => 0, screenEnabled :=
    fun sub => if sub = 0 then 0x11 else 0
    screenWindowed := fun _ => 0, windowsel := 0, window1left := 0, window1right :=
    0, window2left := 0, window2right := 0
    wbgobjlog := 0, cgwsel := 0, cgadsub := 0, fixedColor := 0 }
  palette := fun i => UInt16.ofNat i
  oam := fun _ => 0
  high := fun _ => 0
  vram := fun _ => 0xffff
  objCapture := ⟨false, 0, 0, 0, 0, 0, 0⟩
  bg3Capture := ⟨false, 0, 0, 0, 0, 0, 0⟩

def tiledFrame : Frame where
  ram := fun _ => 0
  rom := ⟨none, 0x80000⟩
  levelScene := true
  captureFailed := false
  captured := 224
  lines := fun _ => tiledLine
  latched := fun _ => .zero
  latchedDraws := []
  drawStart := fun _ => 0
  extraObjectCount := 0
  extraObjects := fun _ _ column => column

/-- The fourth slot's sprite stands apart, the sixth slot's too, but that one has been drawn twice
more, over the eighth slot's. -/
def crowdedLine : ScanLine :=
  { tiledLine with
    oam := fun i =>
      [(6, 0x0064), (7, 0x0200), (10, 0x0040), (11, 0x0400), (14, 0x0030), (15, 0x0600)].lookup i
      |>.getD 0xf000 }

def crowdedFrame : Frame :=
  { tiledFrame with
    latchedDraws :=
      [⟨⟨38, 0x0026, 0x0800, true⟩, ⟨5, by decide⟩, 0, 0, 0, 0⟩,
        ⟨⟨42, 0x002a, 0x0a00, true⟩, ⟨5, by decide⟩, 0, 0, 0, 1⟩]
    drawStart := fun slot => if slot ≤ 5 then 0 else 2 }

/-- The later draw hides the earlier one, and both hide the eighth slot's sprite; it is seen beside
them. -/
theorem crowded_sprites : (sprites crowdedFrame ⟨342, 43, 43⟩ crowdedLine 3 86).pixel = 0x24df ∧
    (sprites crowdedFrame ⟨342, 43, 43⟩ crowdedLine 3 83).pixel = 0x24cf ∧
    (sprites crowdedFrame ⟨342, 43, 43⟩ crowdedLine 3 92).pixel = 0x24df ∧
    (sprites crowdedFrame ⟨342, 43, 43⟩ crowdedLine 3 95).pixel = 0x26bf := by
  rw [@sprites_column crowdedFrame ⟨342, 43, 43⟩ crowdedLine 3 86 (by decide),
    @sprites_column crowdedFrame ⟨342, 43, 43⟩ crowdedLine 3 83 (by decide),
    @sprites_column crowdedFrame ⟨342, 43, 43⟩ crowdedLine 3 92 (by decide),
    @sprites_column crowdedFrame ⟨342, 43, 43⟩ crowdedLine 3 95 (by decide)]
  decide +kernel

/-- The point stands at the 93rd column of one view and at the 70th of the other. -/
theorem tiledFrame_covariant :
    ∃ picture picture',
    smwRendererDraw { tiledFrame with ram := fun a => if a = 0x1413 then 1 else 0 }
      ⟨342, 43, 43⟩ (fun _ _ => 0) = .ok picture ∧
    smwRendererDraw { tiledFrame with ram := fun a => if a = 0x1413 then 1 else 0 } ⟨458, 101, 20⟩
      (fun _ _ => 0) = .ok picture' ∧
    ∃ p, pixelOf picture 100 93 = some p ∧ pixelOf picture' 100 70 = some p := by
  obtain ⟨picture, picture', hpicture, hpicture', hsame⟩ := view_covariant
    (f := { tiledFrame with ram := fun a => if a = 0x1413 then 1 else 0 }) (Nat.le_refl _)
      ⟨342, 43, 43⟩ ⟨458, 101, 20⟩
    (fun _ _ => 0) (iff_of_false (by decide) (by decide)) rfl
  exact ⟨picture, picture', hpicture, hpicture',
    hsame 100 93 70 ⟨by decide, by decide, .inr (by decide)⟩ (by decide) (by decide)
    rfl⟩

end SmwRecomp.Renderer
