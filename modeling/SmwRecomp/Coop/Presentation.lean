import SmwRecomp.Coop.Contacts
import SmwRecomp.Coop.MachineState
import SmwRecomp.Coop.Ordered
import SmwRecomp.Lib.Rank
import SmwRecomp.Renderer.Scanline

/-!
# What is shown of the party

`src/src/mods/coop/coop_presentation.c`: the pieces the ROM draws for one actor are captured with
their colours, and the frame's additional objects are prepared from them.

* `capturePieces` — the pieces of one draw; `captured_as_drawn` — they are the slots shown, in
  order, as the renderer would draw them (`Captured`).
* `presentationPrepare` — the objects of a frame; `prepare_total` — they stay within their buffers.
* `seen_foremost` — of overlapping players the first in precedence is seen.
* `boxes_apart` — every player has a reserve box of its own; `prepare_perm` — nothing depends on the
  roster's arrangement.

Sums of coordinates are exact. What the PPU makes of the objects is other code.
-/

set_option autoImplicit false

namespace SmwRecomp.Coop

open SmwRecomp.Renderer (int8 tilePixel mapAddress)

/-! ## Capture -/

/-- What is read of `g_ppu`; scroll, tilemap and tiles are those of the third background. -/
structure Ppu where
  vram : Nat → UInt16
  cgram : Nat → UInt16
  obsel : UInt8
  hScroll : UInt16
  vScroll : UInt16
  bgXsc : UInt8
  bgTileAdr : UInt16

/-- Words from guest memory for the places from `place` on. -/
def uploadWords (ram : Ram) (source place n : Nat) : List (Nat × UInt16) :=
  (List.range n).map fun j => (place + j, UInt16.ofNat (ram.read16 ((source + j * 2) &&& 0xffff)))

def store (memory : Nat → UInt16) (words : List (Nat × UInt16)) : Nat → UInt16 :=
  words.foldl (fun memory w => Function.update memory w.1 w.2) memory

/-- `picture`: video memory with the tiles that the next NMI would upload. -/
def playerPicture (ppu : Ppu) (ram : Ram) : Nat → UInt16 :=
  let rows := (List.range 2).flatMap fun row =>
    (List.range ((ram 0xd84).toNat / 2)).flatMap fun pair =>
    uploadWords ram (ram.read16 (0xd85 + row * 10 + pair * 2))
      (0x6000 + row * 0x100 + pair * 2 * 16) 32
  store ppu.vram (rows ++ uploadWords ram (ram.read16 0xd99) 0x67f0 16)

/-- `palette`; `none` is the fatal error. -/
def playerPalette (ppu : Ppu) (ram rom : Ram) : Option (Nat → UInt16) :=
  if ram 0xd84 = 0 then some ppu.cgram
  else
    let pal := ram.read16 0xd82
    if pal < 0x8000 ∨ pal > 0xffec then none
    else some (store ppu.cgram ((List.range 10).map fun i =>
      (0x86 + i, UInt16.ofNat (rom.read16 ((pal &&& 0x7fff) + i * 2)))))

/-- The pixel of an object tile from its two words. -/
def planarPixel (vram : Nat → UInt16) (address shift : Nat) : Nat :=
  let bits := ((vram address).toNat ||| (vram ((address + 8) &&& 0x7fff)).toNat <<< 16) >>> shift
  (bits &&& 1) ||| (bits >>> 7 &&& 2) ||| (bits >>> 14 &&& 4) ||| (bits >>> 21 &&& 8)

/-- Where the tiles of objects are; `second` is the bit that selects the other table. -/
def objectBase (obsel : UInt8) (second : Bool) : Nat :=
  let base := (obsel.toNat &&& 7) * 8192
  if second then base + ((obsel.toNat >>> 3 &&& 3) + 1) * 4096 else base

/-- A pixel of a piece, opaque or 0. -/
def piecePixel (ppu : Ppu) (picture palette : Nat → UInt16) (attr size y x : Nat) : UInt16 :=
  let row := if attr &&& 0x8000 ≠ 0 then size - 1 - y else y
  let col := if attr &&& 0x4000 ≠ 0 then size - 1 - x else x
  let tile := ((attr &&& 255) / 16 + row / 8 &&& 15) <<< 4 ||| ((attr &&& 15) + col / 8 &&& 15)
  let address := (objectBase ppu.obsel (attr &&& 256 ≠ 0) + tile * 16 + (row &&& 7)) &&& 0x7fff
  let pixel := planarPixel picture address (7 - (col &&& 7))
  if pixel = 0 then 0 else (0x8000 : UInt16) ||| palette (128 + (attr >>> 9 &&& 7) * 16 + pixel)

/-- The pixels of a piece, row by row. -/
def piecePixels (ppu : Ppu) (picture palette : Nat → UInt16) (attr size : Nat) : List UInt16 :=
  (List.range COOP_PIECE_PIXELS).map fun i =>
    if i / 16 < size ∧ i % 16 < size then piecePixel ppu picture palette attr size (i / 16) (i % 16)
      else 0

theorem piecePixels_length (ppu : Ppu) (picture palette : Nat → UInt16) (attr size : Nat) :
    (piecePixels ppu picture palette attr size).length = COOP_PIECE_PIXELS := by
  unfold piecePixels
  rw [List.length_map, List.length_range]

/-- The coordinate nearest to the origin that has this low byte. -/
def nearOrigin (origin : Int) (low : Nat) : Int := origin + int8 (low - origin % 256)

def slotSize (ram : Ram) (slot : Nat) : Nat := if ram (0x420 + slot) &&& 2 ≠ 0 then 16 else 8

/-- The piece in a slot of the OAM. -/
def slotPiece (ppu : Ppu) (ram : Ram) (picture palette : Nat → UInt16) (originX originY : Int)
    (slot : Nat) :
    CoopVisualPiece :=
  let pos := ram.read16 (0x200 + slot * 4)
  let attr := ram.read16 (0x202 + slot * 4)
  let size := slotSize ram slot
  { x := Int32.ofInt (nearOrigin originX (pos &&& 255))
    y := Int32.ofInt (nearOrigin originY (pos / 256))
    width := UInt32.ofNat size
    height := UInt32.ofNat size
    priority := UInt32.ofNat (attr >>> 12 &&& 3)
    math := if attr &&& 0x800 ≠ 0 then 1 else 0
    slot := UInt32.ofNat slot
    pixels :=
    ⟨piecePixels ppu picture palette attr size, piecePixels_length ppu picture palette attr size⟩ }

/-- The slots of the primary's own body. -/
def bodySlot (ram rom : Ram) (slot : Nat) : Prop :=
  let first := (0x100 + (rom (0xe2b6 - 0x8000 + (ram 0x13f9).toNat)).toNat) / 4
  first ≤ slot ∧ slot < first + 7

instance (ram rom : Ram) (slot : Nat) : Decidable (bodySlot ram rom slot) :=
  inferInstanceAs (Decidable (_ ∧ _))

/-- One turn of the loop of `capture_pieces`. -/
def captureSlot (ppu : Ppu) (ram rom : Ram) (palette : Nat → UInt16) (capacity : Nat)
    (primary : Bool)
    (originX originY : Int) (pieces : List CoopVisualPiece) (slot : Nat) :
    Option (List CoopVisualPiece) :=
  if primary = true ∧ ram 0x13f9 > 3 then none
  else if primary = true ∧ ¬ bodySlot ram rom slot then some pieces
  else if ram.read16 (0x200 + slot * 4) / 256 = 0xf0 then some pieces
  else if pieces.length = capacity then none
  else some (pieces ++ [slotPiece ppu ram (playerPicture ppu ram) palette originX originY slot])

/-- `capture_pieces`; `none` is a fatal error. -/
def capturePieces (ppu : Ppu) (ram rom : Ram) (capacity : Nat) (primary : Bool)
    (originX originY : Int) :
    Option (List CoopVisualPiece) := do
  if (ram 0xd84).toNat > 10 ∨ (ram 0xd84).toNat % 2 = 1 then none
  let palette ← playerPalette ppu ram rom
  (List.range 128).foldlM (captureSlot ppu ram rom palette capacity primary originX originY) []

/-- A cast to `int16_t`. -/
def int16 (n : Int) : Int := n.bmod 65536

/-- `capture_visual`. -/
def captureVisual (ppu : Ppu) (ram rom : Ram) (primary : Bool) : Option (List CoopVisualPiece) :=
  capturePieces ppu ram rom COOP_BODY_PIECES primary (int16 (ram.read16 0x94 - ram.read16 0x1a))
    (int16 (ram.read16 0x96 - ram.read16 0x1c))

/-- `SmwCoopCaptureMount`, at the mount's position in the level. -/
def captureMount (ppu : Ppu) (ram rom : Ram) (x y : Int) : Option (List CoopVisualPiece) :=
  capturePieces ppu ram rom COOP_MOUNT_PIECES false (x - ram.read16 0x1a) (y - ram.read16 0x1c)

/-- `SmwCoopCaptureFireball`. -/
def captureFireball (ppu : Ppu) (ram rom : Ram) (x y : Int) : Option (List CoopVisualPiece) :=
  capturePieces ppu ram rom 1 false (int16 (x - ram.read16 0x1a)) (int16 (y - ram.read16 0x1c))

/-! ## Pictures of the status bar -/

def DECOR_WIDTH : Nat := 32
def DECOR_HEIGHT : Nat := 40
def DRAW_PIXELS : Nat := DECOR_WIDTH * DECOR_HEIGHT

/-- Rows and columns in the order of two nested loops. -/
def grid (rows cols : Nat) : List (Nat × Nat) :=
  (List.range rows).flatMap fun y => (List.range cols).map fun x => (y, x)

/-- Nested loops that write at most one pixel a turn. -/
def plot (rows cols : Nat) (pixel : Nat → Nat → Option (Nat × UInt16)) (pixels : Nat → UInt16) :
    Checked (Nat → UInt16) :=
  (grid rows cols).foldlM (fun pixels c =>
    (pixel c.1 c.2).elim (.ok pixels) fun w => poke DRAW_PIXELS pixels w.1 w.2) pixels

/-- `digits`. -/
def digits : List Nat :=
  [0x7b6f, 0x2492, 0x73e7, 0x73cf, 0x5bc9, 0x79cf, 0x79ef, 0x7249, 0x7bef, 0x7bcf]

/-- `number`. -/
def number (stride : Nat) (x : Int) (y n : Nat) (color : UInt16) (pixels : Nat → UInt16) :
    Checked (Nat → UInt16) := do
  let pixels ← if n > 9 then number stride (x - 4) y (n / 10) color pixels else .ok pixels
  plot 5 3 (fun row col =>
    if x + col ≥ 0 ∧ x + col < stride ∧ (digits.getD (n % 10) 0).testBit (14 - row * 3 - col) then
      some ((y + row) * stride + (x + col).toNat, color)
    else none) pixels

def identityColor (p : CoopPlayer) : UInt16 := if p.character = 0 then 0x801f
    else if p.character = 1 then 0x83e0 else 0xffff

/-- `identity`. -/
def identity (stride y : Nat) (p : CoopPlayer) (pixels : Nat → UInt16) :
    Checked (Nat → UInt16) := do
  let letter : List Nat := [6, 5, 6, 4, 4]
  let pixels ← plot 5 3 (fun row col =>
    if letter.getD row 0 &&& 4 >>> col ≠ 0 then some ((y + row) * stride + 7 + col, identityColor p)
      else none) pixels
  number stride 13 y (p.id + 1).toNat (identityColor p) pixels

/-- The colour of a pixel of the third background; `none` where it is clear. -/
def hudColor (ppu : Ppu) (sourceX y x : Nat) : Option UInt16 :=
  let px := (sourceX + x + ppu.hScroll.toNat) &&& 1023
  let py := (y + 1 + ppu.vScroll.toNat) &&& 1023
  let tile := (ppu.vram (mapAddress ppu.bgXsc.toNat (px >>> 3) (py >>> 3) &&& 0x7fff)).toNat
  let col := if tile &&& 0x4000 ≠ 0 then 7 - (px &&& 7) else px &&& 7
  let row := if tile &&& 0x8000 ≠ 0 then 7 - (py &&& 7) else py &&& 7
  let base := (ppu.bgTileAdr.toNat >>> 8 &&& 15) * 4096
  let pixel := tilePixel ppu.vram (base + (tile &&& 1023) * 8) col row 2
  if pixel = 0 then none
    else some ((0x8000 : UInt16) ||| ppu.cgram ((tile >>> 10 &&& 7) * 4 + pixel))

/-- `hud_picture`. -/
def hudPicture (ppu : Ppu) (sourceX : Nat) (pixels : Nat → UInt16) : Checked (Nat → UInt16) :=
  plot 40 32 (fun y x => (hudColor ppu sourceX y x).map fun color =>
    (y * DECOR_WIDTH + x, color)) pixels

/-- The colour of a pixel of the item in the box. -/
def itemColor (ppu : Ppu) (tile attr y x : Nat) : Option UInt16 :=
  let t := ((tile >>> 4) + y / 8 &&& 15) <<< 4 ||| ((tile &&& 15) + x / 8 &&& 15)
  let address := (objectBase ppu.obsel (attr &&& 1 ≠ 0) + t * 16 + (y &&& 7)) &&& 0x7fff
  let pixel := planarPixel ppu.vram address (7 - (x &&& 7))
  if pixel = 0 then none
    else some ((0x8000 : UInt16) ||| ppu.cgram (128 + (attr >>> 1 &&& 7) * 16 + pixel))

/-- The item, where the player has one. -/
def itemPicture (ppu : Ppu) (ram rom : Ram) (p : CoopPlayer) (pixels : Nat → UInt16) :
    Checked (Nat → UInt16) :=
  let item := p.reserve.toNat
  if 1 ≤ item ∧ item ≤ 4 then
    let tile := (rom (0x8dfa - 0x8000 + item - 1)).toNat
    let attr := if item = 3 then (rom (0x8dfe - 0x8000 + ((ram 0x13).toNat >>> 1 &&& 3))).toNat
      else (rom (0x8e02 - 0x8000 + item - 1)).toNat
    plot 16 16 (fun y x => (itemColor ppu tile attr y x).map fun color =>
      ((y + 15) * DECOR_WIDTH + x + 8, color)) pixels
  else .ok pixels

/-- The badge of a box: a letter for the two original characters, else the player's number. -/
def badge (p : CoopPlayer) (pixels : Nat → UInt16) : Checked (Nat → UInt16) :=
  if p.character < 2 then do
    let letters : List Nat := if p.character = 0 then [17, 27, 21, 17, 17] else [16, 16, 16, 16, 31]
    let pixels ← plot 7 7 (fun y x => some ((y + 8) * DECOR_WIDTH + (x + 3), 0x8000)) pixels
    plot 5 5 (fun y x =>
      if letters.getD y 0 &&& 16 >>> x ≠ 0 then
        some ((y + 9) * DECOR_WIDTH + x + 4, if p.character = 0 then 0x801f else 0x83e0)
      else none) pixels
  else identity DECOR_WIDTH 1 p pixels

/-- `reserve_picture`. -/
def reservePicture (ppu : Ppu) (ram rom : Ram) (p : CoopPlayer) (pixels : Nat → UInt16) :
    Checked (Nat → UInt16) := do
  let pixels ← hudPicture ppu 112 pixels
  let pixels ← itemPicture ppu ram rom p pixels
  badge p pixels

/-- `bubble_picture`. -/
def bubblePicture (p : CoopPlayer) (pixels : Nat → UInt16) : Checked (Nat → UInt16) := do
  let pixels ← plot 24 24 (fun y x =>
    let dx := (x : Int) * 2 - 23
    let dy := (y : Int) * 2 - 23
    let d := dx * dx + dy * dy
    if d < 23 * 23 ∧ d > 19 * 19 then some (y * 24 + x, if d > 21 * 21 then 0x8000 else 0xffa8)
      else none) pixels
  let pixels ← plot 3 3 (fun y x => some ((y + 5) * 24 + (x + 6), 0xffff)) pixels
  identity 24 11 p pixels

/-! ## The objects of a frame -/

/-- `PpuExtraObject`. -/
structure ExtraObject where
  x : Int
  y : Int
  width : UInt16
  height : UInt16
  stride : Nat
  priority : UInt8
  math : UInt8
  slot : UInt8
  id : UInt32
  pixels : Nat → UInt16

/-- What a frame is prepared from: the scene that is drawn, and where the native picture is in it.
-/
structure Projection where
  levelScene : Bool
  width : Int
  native : Int
  ppu : Ppu
  ram : Ram
  rom : Ram

def CoopVisualPiece.pixel (v : CoopVisualPiece) (i : Nat) : UInt16 := v.pixels.toList.getD i 0

/-- A piece is opaque at a point. -/
def CoopVisualPiece.solidAt (q : CoopVisualPiece) (x y : Int) : Bool :=
  let dx := x - q.x.toInt
  let dy := y - q.y.toInt
  dx ≥ 0 ∧ dy ≥ 0 ∧ dx < q.width.toNat ∧ dy < q.height.toNat ∧
    q.pixel (dy * 16 + dx).toNat &&& 0x8000 ≠ 0

/-- The actor shows an opaque pixel of the priority at a point. -/
def CoopActor.solidAt (a : CoopActor) (priority : UInt32) (x y : Int) : Bool :=
  a.visible.any fun q => q.priority = priority && q.solidAt x y

/-- `covered`. -/
def covered (m : CoopMachine) (a : CoopActor) (v : CoopVisualPiece) (x y : Int) : Bool :=
  m.actors.any fun other =>
    !(decide (other.player = a.player)) && coopPlayerPrecedes m.session other.player a.player &&
    other.solidAt v.priority x y

/-- An object of a piece that was captured. -/
def pieceObject (v : CoopVisualPiece) (id : UInt32) (pixels : Nat → UInt16) : ExtraObject where
  x := v.x.toInt
  y := v.y.toInt
  width := v.width.toUInt16
  height := v.height.toUInt16
  stride := 16
  priority := v.priority.toUInt8
  math := v.math.toUInt8
  slot := v.slot.toUInt8
  id := id
  pixels := pixels

def fireballObjects (m : CoopMachine) : List (Checked ExtraObject) :=
  m.actors.flatMap fun a => a.fireballs.toList.flatMap fun f =>
    (f.visible.take 1).map fun v => .ok (pieceObject v f.id v.pixel)

def entityObjects (m : CoopMachine) : List (Checked ExtraObject) :=
  m.entities.flatMap fun e => e.visible.map fun v => .ok (pieceObject v e.id v.pixel)

/-- The picture of a body piece without what others cover of it. -/
def bodyPicture (m : CoopMachine) (a : CoopActor) (v : CoopVisualPiece) : Checked (Nat → UInt16) :=
  plot v.height.toNat v.width.toNat (fun y x =>
    if covered m a v (v.x.toInt + x) (v.y.toInt + y) then some (y * 16 + x, 0) else none) v.pixel

def bodyObject (m : CoopMachine) (a : CoopActor) (v : CoopVisualPiece) : Checked ExtraObject := do
  let pixels ← bodyPicture m a v
  return pieceObject v (a.player + 1) pixels

/-- The bodies; the primary's is drawn by the guest. -/
def bodyObjects (m : CoopMachine) : List (Checked ExtraObject) :=
  m.actors.flatMap fun a => if a.player = m.session.primary then []
    else a.visible.map (bodyObject m a)

/-- The columns of reserve boxes. -/
def reserveColumns (width : Int) (actors : Nat) : Nat :=
  let columns := ((width - 192).tdiv 32 % 2 ^ 64).toNat
  let columns := if columns = 0 then 1 else columns
  if columns > actors then actors else columns

def reserveStart (width : Int) (columns : Nat) : Int :=
  let start := width.tdiv 2 - (columns * 32 / 2 : Nat)
  if start < 112 then 112 else start

/-- Where TIME goes. -/
def timerStart (width : Int) (columns : Nat) : Int :=
  let timer := width - 112
  let stop := reserveStart width columns + (columns * 32 : Nat)
  if timer < stop - 8 then stop - 8 else timer

/-- An object of the status bar. -/
def decorObject (x y : Int) (size : UInt16 × UInt16) (stride : Nat) (id : UInt32)
    (pixels : Nat → UInt16) : ExtraObject where
  x := x
  y := y
  width := size.1
  height := size.2
  stride := stride
  priority := 3
  math := 0
  slot := 0
  id := id
  pixels := pixels

def timerObject (m : CoopMachine) (p : Projection) : Checked ExtraObject := do
  let pixels ← hudPicture p.ppu 144 fun _ => 0
  return decorObject (timerStart p.width (reserveColumns p.width m.actors.length) - p.native) 0
    (32, 40) 32 1 pixels

/-- `rank` of a player. -/
def reserveRank (m : CoopMachine) (id : CoopPlayerId) : Nat :=
  rankIn (coopPlayerPrecedes m.session) (m.actors.map CoopActor.player) id

/-- Where the reserve box of a player goes. -/
def boxPlace (m : CoopMachine) (p : Projection) (id : CoopPlayerId) : Int × Int :=
  let columns := reserveColumns p.width m.actors.length
  let place := cell columns (reserveRank m id)
  (reserveStart p.width columns + (place.1 * 32 : Nat) - p.native, (place.2 * 40 : Nat))

def boxObject (m : CoopMachine) (p : Projection) (q : CoopPlayer) : Checked ExtraObject := do
  let pixels ← reservePicture p.ppu p.ram p.rom q fun _ => 0
  return decorObject (boxPlace m p q.id).1 (boxPlace m p q.id).2 (32, 40) 32 (q.id + 1) pixels

/-- One turn of `coop_nearest_player`, with the distance of the winner. -/
def nearestStep (s : CoopSession) (x y : Int32) (matchFence behindFence : Bool)
    (best : CoopPlayerId × Nat)
    (p : CoopPlayer) : CoopPlayerId × Nat :=
  if p.life ≠ .is .playing ∨ (matchFence = true ∧ p.behindFence ≠ behindFence) then best
  else
    let d := distance2 x y p.x p.y
    if best.1 = COOP_NO_PLAYER ∨ d < best.2 ∨ (d = best.2 ∧ coopPlayerPrecedes s p.id best.1 = true)
      then (p.id, d) else best

/-- `coop_nearest_player`. -/
def coopNearestPlayer (s : CoopSession) (x y : Int32) (matchFence behindFence : Bool) :
    CoopPlayerId :=
  (s.players.foldl (nearestStep s x y matchFence behindFence) (COOP_NO_PLAYER, UINT64_MAX)).1

/-- Where the bubble or the warning of a player is shown beside a survivor. -/
def bubblePlace (m : CoopMachine) (p : Projection) (q survivor : CoopPlayer)
    (bubble : Bool) : Int × Int :=
  let x : Int := survivor.x.toInt - p.ram.read16 0x1a + 20 + (reserveRank m q.id * 26 : Nat)
  let y : Int := survivor.y.toInt - p.ram.read16 0x1c - 56
  let x := if bubble then x else if q.x.toInt < survivor.x.toInt then 4 - p.native
    else p.width - 28 - p.native
  let x := if x < 4 - p.native then 4 - p.native else x
  let x := if x > p.width - 28 - p.native then p.width - 28 - p.native else x
  let y := if y < 44 then 44 else y
  let y := if y > 188 then 188 else y
  (x, y + (m.session.frame.toNat / 8 % 4 : Nat) - 2)

/-- The bubble or the warning of a player, where one is due. -/
def bubbleObjects (m : CoopMachine) (p : Projection) (q : CoopPlayer) :
    List (Checked ExtraObject) :=
  let bubble : Bool := q.life = .is .deathBubble ∨ q.life = .is .catchupBubble
  if bubble = false ∧ q.separationTicks = 0 then []
  else if m.session.outcome ≠ .is .continue then []
  else
    match coopPlayer m.session (coopNearestPlayer m.session q.x q.y false false) with
    | none => []
    | some survivor =>
      let place := bubblePlace m p q survivor bubble
      [do let pixels ← bubblePicture q fun _ => 0
          return decorObject place.1 place.2 (24, 24) 24 (q.id + 1) pixels]

/-- The status bar of one actor. -/
def playerObjects (m : CoopMachine) (p : Projection) (a : CoopActor) : List (Checked ExtraObject) :=
  match coopPlayer m.session a.player with
  | none => []
  | some q => boxObject m p q :: bubbleObjects m p q

def hudObjects (m : CoopMachine) (p : Projection) : List (Checked ExtraObject) :=
  timerObject m p :: m.actors.flatMap (playerObjects m p)

/-- The room that is made for the objects. -/
def objectCount (m : CoopMachine) (p : Projection) : Nat :=
  let level := m.roomInitialized && p.levelScene
  (m.actors.map fun a => (if a.player = m.session.primary then 0 else a.visible.length) +
    (if level then 2 else 0) +
      (a.fireballs.toList.map fun f => f.visible.length).sum).sum +
    (if level then 1 else 0) + (m.entities.map fun e => e.visible.length).sum

/-- `objects[at++]`, with the picture that goes with it. -/
def push (capacity : Nat) (objects : List ExtraObject) (object : Checked ExtraObject) :
    Checked (List ExtraObject) := do
  let object ← object
  if objects.length < capacity then .ok (objects ++ [object]) else .error .outOfBounds

/-- `SmwCoopPresentationPrepare`, without the overlay regions. -/
def presentationPrepare (m : CoopMachine) (p : Projection) : Checked (List ExtraObject) :=
  let hud := if m.roomInitialized && p.levelScene then hudObjects m p else []
  (fireballObjects m ++ entityObjects m ++ bodyObjects m ++ hud).foldlM (push (objectCount m p)) []

/-! ## What is captured -/

section Capture

variable {ppu : Ppu} {ram rom : Ram} {palette : Nat → UInt16} {capacity : Nat} {primary : Bool}
  {originX originY : Int}

/-- The slots that a draw shows. -/
def slotShown (ram rom : Ram) (primary : Bool) (slot : Nat) : Prop :=
  (primary = true → bodySlot ram rom slot) ∧ ram.read16 (0x200 + slot * 4) / 256 ≠ 0xf0

instance (ram rom : Ram) (primary : Bool) (slot : Nat) :
    Decidable (slotShown ram rom primary slot) :=
  inferInstanceAs (Decidable (_ ∧ _))

/-- One turn adds the piece of a slot that is shown, where there is room. -/
theorem captureSlot_some {pieces pieces' : List CoopVisualPiece} {slot : Nat}
    (hroom : pieces.length ≤ capacity)
    (h : captureSlot ppu ram rom palette capacity primary originX originY pieces slot =
      some pieces') :
    pieces'.length ≤ capacity ∧ pieces' = pieces ++ ([slot].filter (slotShown ram rom primary)).map
      (slotPiece ppu ram (playerPicture ppu ram) palette originX originY) := by
  have hkeep : ¬ slotShown ram rom primary slot → ([slot].filter (slotShown ram rom primary)).map
      (slotPiece ppu ram (playerPicture ppu ram) palette originX originY) = [] := fun hno => by
    rw [List.filter_cons_of_neg (by simpa using hno), List.filter_nil, List.map_nil]
  unfold captureSlot at h
  split at h
  · cases h
  · split at h
    · rename_i hother
      cases h
      rw [hkeep fun hshown => hother.2 (hshown.1 hother.1), List.append_nil]
      exact ⟨hroom, rfl⟩
    · rename_i hbody
      split at h
      · rename_i hidden
        cases h
        rw [hkeep fun hshown => hshown.2 hidden, List.append_nil]
        exact ⟨hroom, rfl⟩
      · rename_i hvisible
        split at h
        · cases h
        · rename_i hfree
          cases h
          have hshown : slotShown ram rom primary slot :=
            ⟨fun hprimary => Decidable.not_not.1 fun hno => hbody ⟨hprimary, hno⟩, hvisible⟩
          rw [List.filter_cons_of_pos (by simpa using hshown), List.filter_nil,
            List.map_cons, List.map_nil]
          refine ⟨?_, rfl⟩
          rw [List.length_append, List.length_singleton]
          omega

theorem captureSlots_some : ∀ (slots : List Nat) {pieces pieces' : List CoopVisualPiece},
    pieces.length ≤ capacity →
    slots.foldlM (captureSlot ppu ram rom palette capacity primary originX originY) pieces =
      some pieces' →
    pieces'.length ≤ capacity ∧ pieces' = pieces ++ (slots.filter (slotShown ram rom primary)).map
      (slotPiece ppu ram (playerPicture ppu ram) palette originX originY)
  | [], _, _, hroom, h => by
    cases h
    exact ⟨hroom, (List.append_nil _).symm⟩
  | slot :: slots, _, _, hroom, h => by
    rw [List.foldlM_cons] at h
    obtain ⟨middle, hfirst, hrest⟩ := Option.bind_eq_some_iff.1 h
    obtain ⟨hroom', hmiddle⟩ := captureSlot_some hroom hfirst
    obtain ⟨hend, hpieces⟩ := captureSlots_some slots hroom' hrest
    refine ⟨hend, ?_⟩
    rw [hpieces, hmiddle, List.append_assoc, ← List.map_append, ← List.filter_append,
      List.singleton_append]

/-- What a capture yields: the pieces of the shown slots, in their order, and no more than there is
room for. -/
theorem capturePieces_some {pieces : List CoopVisualPiece}
    (h : capturePieces ppu ram rom capacity primary originX originY = some pieces) :
    pieces.length ≤ capacity ∧ ∃ palette, playerPalette ppu ram rom = some palette ∧
      pieces = ((List.range 128).filter (slotShown ram rom primary)).map
        (slotPiece ppu ram (playerPicture ppu ram) palette originX originY) := by
  unfold capturePieces at h
  split at h
  · cases h
  · obtain ⟨palette, hpalette, hslots⟩ := Option.bind_eq_some_iff.1 h
    obtain ⟨hlength, hpieces⟩ := captureSlots_some (List.range 128) (Nat.zero_le _) hslots
    exact ⟨hlength, palette, hpalette, hpieces⟩

theorem slotSize_cases (ram : Ram) (slot : Nat) :
    slotSize ram slot = 8 ∨ slotSize ram slot = 16 := by
  unfold slotSize
  split
  · exact .inr rfl
  · exact .inl rfl

theorem slotPiece_valid (picture : Nat → UInt16) {slot : Nat} (hslot : slot < 128) :
    pieceValid (slotPiece ppu ram picture palette originX originY slot) = true := by
  unfold pieceValid slotPiece
  simp only [Bool.and_eq_true, Bool.or_eq_true, decide_eq_true_eq]
  refine ⟨⟨⟨⟨?_, trivial⟩, ?_⟩, ?_⟩, ?_⟩
  · rcases slotSize_cases ram slot with h | h
    · exact .inl (by rw [h]; rfl)
    · exact .inr (by rw [h]; rfl)
  · have hand : ram.read16 (0x202 + slot * 4) >>> 12 &&& 3 ≤ 3 := Nat.and_le_right
    rw [UInt32.le_iff_toNat_le, UInt32.toNat_ofNat']
    exact le_trans (Nat.mod_le _ _) hand
  · split <;> decide
  · rw [UInt32.lt_iff_toNat_lt, UInt32.toNat_ofNat']
    exact lt_of_le_of_lt (Nat.mod_le _ _) hslot

/-- A coordinate has the low byte it was made from, and is within half a turn of the origin. -/
theorem nearOrigin_spec (origin : Int) {low : Nat} (hlow : low < 256) :
    nearOrigin origin low % 256 = low ∧
    origin - 128 ≤ nearOrigin origin low ∧ nearOrigin origin low ≤ origin + 127 := by
  unfold nearOrigin int8
  rw [Int.bmod_def]
  split <;> omega

end Capture

/-! ## As the renderer draws it -/

/-- Four planes of two words, one bit of each. -/
theorem planes_eq {lo hi s : Nat} (hlo : lo < 65536) (hs : s ≤ 7) :
    ((lo ||| hi <<< 16) >>> s &&& 1 ||| ((lo ||| hi <<< 16) >>> s >>> 7 &&& 2) |||
      ((lo ||| hi <<< 16) >>> s >>> 14 &&& 4) ||| ((lo ||| hi <<< 16) >>> s >>> 21 &&& 8)) =
    (lo >>> s &&& 1 ||| (lo >>> s >>> 7 &&& 2)) |||
      ((hi >>> s &&& 1) <<< 2 ||| (hi >>> s >>> 5 &&& 8)) := by
  have hlow : ∀ i, 16 ≤ i → lo.testBit i = false := fun i hi =>
    Nat.testBit_lt_two_pow (lt_of_lt_of_le hlo (Nat.pow_le_pow_right (show 0 < 2 by decide) hi))
  have hone : ∀ i, Nat.testBit 1 i = decide (0 = i) :=
    fun i => Nat.testBit_two_pow (n := 0) (m := i)
  have htwo : ∀ i, Nat.testBit 2 i = decide (1 = i) :=
    fun i => Nat.testBit_two_pow (n := 1) (m := i)
  have hfour : ∀ i, Nat.testBit 4 i = decide (2 = i) :=
    fun i => Nat.testBit_two_pow (n := 2) (m := i)
  have height : ∀ i, Nat.testBit 8 i = decide (3 = i) :=
    fun i => Nat.testBit_two_pow (n := 3) (m := i)
  refine Nat.eq_of_testBit_eq fun i => ?_
  simp only [Nat.testBit_or, Nat.testBit_and, Nat.testBit_shiftRight, Nat.testBit_shiftLeft, hone,
    htwo, hfour, height]
  rcases i with _ | _ | _ | _ | i
  · simp
    omega
  · simp [show ¬ 16 ≤ s + 8 by omega]
  · simp [hlow]
  · simp [hlow, Nat.add_comm, show s + 24 - 16 = s + 8 by omega]
  · simp

/-- The two decoders of object tiles agree. -/
theorem planarPixel_eq (vram : Nat → UInt16) (address x y : Nat) :
    planarPixel vram ((address + y) &&& 0x7fff) (7 - x) = tilePixel vram address x y 4 := by
  unfold planarPixel tilePixel
  dsimp only
  rw [if_pos rfl]
  exact planes_eq (UInt16.toNat_lt _) (Nat.sub_le 7 x)

theorem tilePixel_lt (vram : Nat → UInt16) (address x y : Nat) :
    tilePixel vram address x y 4 < 16 := by
  rw [← planarPixel_eq]
  unfold planarPixel
  dsimp only
  refine Nat.or_lt_two_pow (n := 4) (Nat.or_lt_two_pow (Nat.or_lt_two_pow ?_ ?_) ?_) ?_
  · exact lt_of_le_of_lt Nat.and_le_right (by decide)
  · exact lt_of_le_of_lt Nat.and_le_right (by decide)
  · exact lt_of_le_of_lt Nat.and_le_right (by decide)
  · exact lt_of_le_of_lt Nat.and_le_right (by decide)

/-- The piece that `sprite_piece` is told of a slot. -/
def oamPiece (ram : Ram) (slot : Nat) (x : Int) : Renderer.Piece where
  slot := slot
  pos := ram.read16 (0x200 + slot * 4)
  attr := ram.read16 (0x202 + slot * 4)
  hi := (ram (0x420 + slot)).toNat &&& 3
  x := x

theorem sizeBit (hi : UInt8) : (hi.toNat &&& 3) / 2 % 2 = 0 ↔ hi &&& 2 = 0 := by
  have hbits : ∀ n < 4, n / 2 % 2 = 0 ↔ n &&& 2 = 0 := by decide
  have hlow : hi.toNat &&& 3 &&& 2 = hi.toNat &&& 2 := Nat.and_assoc _ 3 2
  rw [hbits _ (lt_of_le_of_lt Nat.and_le_right (by decide)), hlow, ← UInt8.toNat_inj,
    UInt8.toNat_and]
  rfl

theorem spriteSize_eq {p : Renderer.PpuRegs} (hsmall : p.obsel.toNat / 32 = 0) (ram : Ram)
    (slot : Nat) :
    Renderer.spriteSize p ((ram (0x420 + slot)).toNat &&& 3) = slotSize ram slot := by
  have hsizes : Renderer.spriteSizes 0 = (8, 16) := rfl
  unfold Renderer.spriteSize slotSize
  rw [hsmall, hsizes]
  dsimp only
  by_cases hbit : ram (0x420 + slot) &&& 2 = 0
  · rw [if_pos ((sizeBit _).2 hbit), if_neg (not_not.2 hbit)]
  · rw [if_neg fun h => hbit ((sizeBit _).1 h), if_pos hbit]

/-- The colour index that `sprite_piece` leaves. -/
theorem object_index {attr pixel : Nat} (hpixel : pixel < 16) {q : Renderer.Piece}
    (hattr : q.attr = attr) :
    q.object pixel &&& 255 = 128 + (attr >>> 9 &&& 7) * 16 + pixel := by
  have hpalette : attr >>> 9 &&& 7 < 8 := lt_of_le_of_lt Nat.and_le_right (by decide)
  have hhigh : ∀ n : Nat, n <<< 12 &&& 255 = 0 := fun n => by
    rw [Nat.shiftLeft_eq]
    exact (and_low _ 8).trans (by omega)
  have hmiddle : ∀ n : Nat, n <<< 8 &&& 255 = 0 := fun n => by
    rw [Nat.shiftLeft_eq]
    exact (and_low _ 8).trans (by omega)
  have hlow : ∀ k < 8, ∀ n < 16, 128 + k * 16 &&& 255 ||| n &&& 255 = 128 + k * 16 + n := by decide
  unfold Renderer.Piece.object
  dsimp only
  rw [hattr, Nat.and_or_distrib_right, Nat.and_or_distrib_right, Nat.and_or_distrib_right, hhigh,
    hmiddle, Nat.zero_or, Nat.zero_or]
  exact hlow _ hpalette _ hpixel

/-- The renderer's pixel in the terms of the capture. -/
theorem pixel_eq (q : Renderer.Piece) (l : Renderer.ScanLine) {y col size row : Nat}
    (hsize : Renderer.spriteSize l.regs q.hi = size) (hrow : q.row y = row) : q.pixel l y col =
      let row := if q.attr &&& 0x8000 ≠ 0 then size - 1 - row else row
      let col := if q.attr &&& 0x4000 ≠ 0 then size - 1 - col else col
      let tile :=
        ((q.attr &&& 255) / 16 + row / 8 &&& 15) <<< 4 ||| ((q.attr &&& 15) + col / 8 &&& 15)
      planarPixel l.vram
        ((objectBase l.regs.obsel (q.attr &&& 256 ≠ 0) + tile * 16 + (row &&& 7)) &&& 0x7fff)
        (7 - (col &&& 7)) := by
  subst hsize hrow
  extract_lets row col tile
  rw [planarPixel_eq]
  unfold Renderer.Piece.pixel objectBase
  simp only [decide_eq_true_eq]
  rfl

theorem piecePixel_eq {ppu : Ppu} {ram : Ram} {l : Renderer.ScanLine} {palette : Nat → UInt16}
    (hsmall : ppu.obsel.toNat / 32 = 0) (hobsel : l.regs.obsel = ppu.obsel) (slot : Nat) (x : Int)
    {row col y : Nat}
    (hrow : (oamPiece ram slot x).row y = row) :
    piecePixel ppu l.vram palette (ram.read16 (0x202 + slot * 4)) (slotSize ram slot) row col =
      if (oamPiece ram slot x).pixel l y col = 0 then 0
      else (0x8000 : UInt16) ||| palette
        ((oamPiece ram slot x).object ((oamPiece ram slot x).pixel l y col) &&& 255) := by
  have hsize : Renderer.spriteSize l.regs (oamPiece ram slot x).hi = slotSize ram slot :=
    spriteSize_eq (by rw [hobsel]; exact hsmall) ram slot
  have hlt : (oamPiece ram slot x).pixel l y col < 16 := by
    unfold Renderer.Piece.pixel
    exact tilePixel_lt _ _ _ _
  rw [object_index hlt rfl, pixel_eq _ l hsize hrow, hobsel]
  rfl

theorem slotPiece_pixel (ppu : Ppu) (ram : Ram) (picture palette : Nat → UInt16)
    (originX originY : Int) (slot : Nat)
    {row col : Nat} (hrow : row < slotSize ram slot) (hcol : col < slotSize ram slot) :
    (slotPiece ppu ram picture palette originX originY slot).pixel (row * 16 + col) =
      piecePixel ppu picture palette (ram.read16 (0x202 + slot * 4))
        (slotSize ram slot) row col := by
  have hsize : slotSize ram slot ≤ 16 := by
    rcases slotSize_cases ram slot with h | h <;> omega
  have hdiv : (row * 16 + col) / 16 = row := by omega
  have hmod : (row * 16 + col) % 16 = col := by omega
  show (piecePixels ppu picture palette _ _).getD (row * 16 + col) 0 = _
  unfold piecePixels
  rw [List.getD_eq_getElem?_getD, List.getElem?_map,
    List.getElem?_range (by unfold COOP_PIECE_PIXELS; omega),
    Option.map_some, Option.getD_some, hdiv, hmod, if_pos ⟨hrow, hcol⟩]

/-- The coordinate is the one with this low byte that is nearest to the origin. -/
def Nearest (origin : Int) (low : Nat) (coordinate : Int32) : Prop :=
  ∃ x : Int, coordinate = Int32.ofInt x ∧ x % 256 = low ∧ origin - 128 ≤ x ∧ x ≤ origin + 127

theorem nearOrigin_nearest (origin : Int) {low : Nat} (hlow : low < 256) :
    Nearest origin low (Int32.ofInt (nearOrigin origin low)) :=
  ⟨_, rfl, nearOrigin_spec origin hlow⟩

/-- The piece is what `sprite_piece` makes of the slot on lines of these registers and this video
memory: in place, size, priority and colour math, and pixel by pixel in the palette. -/
structure Captured (l : Renderer.ScanLine) (palette : Nat → UInt16) (ram : Ram)
    (origin : Int × Int) (slot : Nat)
    (v : CoopVisualPiece) : Prop where
  valid : pieceValid v = true
  slot_eq : v.slot = UInt32.ofNat slot
  x_nearest : Nearest origin.1 (ram.read16 (0x200 + slot * 4) &&& 255) v.x
  y_nearest : Nearest origin.2 (ram.read16 (0x200 + slot * 4) / 256) v.y
  width_eq : v.width = UInt32.ofNat (Renderer.spriteSize l.regs (oamPiece ram slot v.x.toInt).hi)
  height_eq : v.height = UInt32.ofNat (Renderer.spriteSize l.regs (oamPiece ram slot v.x.toInt).hi)
  priority_eq : v.priority = UInt32.ofNat (ram.read16 (0x202 + slot * 4) >>> 12 &&& 3)
  math_eq : v.math = if ram.read16 (0x202 + slot * 4) &&& 0x800 ≠ 0 then 1 else 0
  pixel_eq : ∀ y col, (oamPiece ram slot v.x.toInt).row y < slotSize ram slot →
    col < slotSize ram slot →
    v.pixel ((oamPiece ram slot v.x.toInt).row y * 16 + col) =
      if (oamPiece ram slot v.x.toInt).pixel l y col = 0 then 0
      else (0x8000 : UInt16) |||
        palette ((oamPiece ram slot v.x.toInt).object
          ((oamPiece ram slot v.x.toInt).pixel l y col) &&& 255)

theorem slotPiece_captured {ppu : Ppu} {l : Renderer.ScanLine} (hsmall : ppu.obsel.toNat / 32 = 0)
    (hobsel : l.regs.obsel = ppu.obsel) (palette : Nat → UInt16) (ram : Ram)
    (origin : Int × Int) {slot : Nat}
    (hslot : slot < 128) :
    Captured l palette ram origin slot
      (slotPiece ppu ram l.vram palette origin.1 origin.2 slot) := by
  have hsize : ∀ x, Renderer.spriteSize l.regs (oamPiece ram slot x).hi =
    slotSize ram slot := fun x =>
    spriteSize_eq (by rw [hobsel]; exact hsmall) ram slot
  have hhigh : ram.read16 (0x200 + slot * 4) / 256 < 256 := by
    have hword := read16_lt ram (0x200 + slot * 4)
    omega
  refine ⟨slotPiece_valid _ hslot, rfl,
    nearOrigin_nearest _ (lt_of_le_of_lt Nat.and_le_right (by decide)),
    nearOrigin_nearest _ hhigh, by rw [hsize]; rfl, by
    rw [hsize]; rfl, rfl, rfl, fun y col hrow hcol => ?_⟩
  rw [slotPiece_pixel ppu ram l.vram palette origin.1 origin.2 slot hrow hcol]
  exact piecePixel_eq hsmall hobsel slot _ rfl

/-- The draws that are captured. -/
inductive Draw where
  | visual (primary : Bool)
  | mount (x y : Int)
  | fireball (x y : Int)

def Draw.capture (ppu : Ppu) (ram rom : Ram) : Draw → Option (List CoopVisualPiece)
  | .visual primary => captureVisual ppu ram rom primary
  | .mount x y => captureMount ppu ram rom x y
  | .fireball x y => captureFireball ppu ram rom x y

/-- The room for the pieces. -/
def Draw.capacity : Draw → Nat
  | .visual _ => COOP_BODY_PIECES
  | .mount _ _ => COOP_MOUNT_PIECES
  | .fireball _ _ => 1

def Draw.primary : Draw → Bool
  | .visual primary => primary
  | .mount _ _ => false
  | .fireball _ _ => false

/-- Where on the screen the drawn one is. -/
def Draw.origin (ram : Ram) : Draw → Int × Int
  | .visual _ =>
      (int16 (ram.read16 0x94 - ram.read16 0x1a), int16 (ram.read16 0x96 - ram.read16 0x1c))
  | .mount x y => (x - ram.read16 0x1a, y - ram.read16 0x1c)
  | .fireball x y => (int16 (x - ram.read16 0x1a), int16 (y - ram.read16 0x1c))

theorem Draw.capture_eq (ppu : Ppu) (ram rom : Ram) (d : Draw) : d.capture ppu ram rom =
    capturePieces ppu ram rom d.capacity d.primary (d.origin ram).1 (d.origin ram).2 := by
  cases d <;> rfl

/-- What a draw captures fits its place, and is one piece for each slot shown, in the order of the
slots. Each is what the renderer makes of its slot, from the tiles and the palette that the next NMI
would upload. -/
theorem captured_as_drawn {ppu : Ppu} {ram rom : Ram} (d : Draw) {pieces : List CoopVisualPiece}
    (h : d.capture ppu ram rom = some pieces) (hsmall : ppu.obsel.toNat / 32 = 0)
    {l : Renderer.ScanLine}
    (hobsel : l.regs.obsel = ppu.obsel) (hvram : l.vram = playerPicture ppu ram) :
    pieces.length ≤ d.capacity ∧
      ∃ palette, playerPalette ppu ram rom = some palette ∧
        List.Forall₂ (Captured l palette ram (d.origin ram))
          ((List.range 128).filter (slotShown ram rom d.primary)) pieces := by
  rw [Draw.capture_eq] at h
  obtain ⟨hlength, palette, hpalette, rfl⟩ := capturePieces_some h
  refine ⟨hlength, palette, hpalette, ?_⟩
  rw [List.forall₂_map_right_iff, List.forall₂_same, ← hvram]
  intro slot hslot
  exact slotPiece_captured hsmall hobsel palette ram _
    (List.mem_range.1 (List.mem_filter.1 hslot).1)

/-- The player stands at (32, 64) on the screen. Two slots are shown: one of four tiles, turned both
ways, and one of one tile. -/
def twoSlots : Ram := fun a =>
  if a = 0xd84 then 10
  else if a = 0xd83 then 0x80
  else if a = 0xd86 then 0x20
  else if a = 0xd90 then 0x21
  else if a = 0x94 then 32
  else if a = 0x96 then 64
  else if a = 0x200 then 30
  else if a = 0x201 then 60
  else if a = 0x203 then 0xf0
  else if a = 0x420 then 2
  else if a = 0x204 then 250
  else if a = 0x205 then 3
  else if a = 0x207 then 0x0c
  else if 0x206 < a ∧ a < 0x400 ∧ a % 4 = 1 then 0xf0
  else if 0x2000 ≤ a ∧ a < 0x2200 then UInt8.ofNat (a * 7)
  else 0

def shadedRom : Ram := fun a => UInt8.ofNat (a + 3)

def plainPpu : Ppu := ⟨fun _ => 0xffff, fun i => UInt16.ofNat i, 3, 0, 0, 0, 0⟩

/-- A line that is drawn from the tiles of the next upload. -/
def drawnLine (ppu : Ppu) (ram : Ram) : Renderer.ScanLine :=
  { Renderer.tiledLine with
    vram := playerPicture ppu ram
    regs := { Renderer.tiledLine.regs with obsel := ppu.obsel } }

theorem drawnLine_vram (ppu : Ppu) (ram : Ram) : (drawnLine ppu ram).vram = playerPicture ppu ram :=
  rfl

theorem nearest_eq {origin : Int} {low : Nat} {coordinate : Int32}
    (h : Nearest origin low coordinate) (x : Int)
    (hlow : x % 256 = low) (hnear : origin - 128 ≤ x ∧ x ≤ origin + 127) :
    coordinate = Int32.ofInt x := by
  obtain ⟨x', rfl, hlow', hleft, hright⟩ := h
  rw [show x' = x by omega]

/-- The corner of the turned picture has a colour of the palette that is to be uploaded. -/
theorem twoSlots_captured : ∃ v w, captureVisual plainPpu twoSlots shadedRom false = some [v, w] ∧
    (v.x = 30 ∧ v.y = 60 ∧ v.width = 16 ∧ v.priority = 3 ∧ v.pixel 0 = 0x8c0b ∧ v.pixel 2 = 0) ∧
    w.x = -6 ∧ w.y = 3 ∧ w.height = 8 ∧ w.math = 1 ∧ w.pixel 1 = 0x80ec := by
  obtain ⟨pieces, hcapture⟩ := Option.isSome_iff_exists.1
    (show (captureVisual plainPpu twoSlots shadedRom false).isSome = true by decide +kernel)
  have hshown : (List.range 128).filter (slotShown twoSlots shadedRom false) = [0, 1] := by
    decide +kernel
  obtain ⟨-, palette, hpalette, hpieces⟩ := captured_as_drawn (.visual false) hcapture (by decide)
    (l := drawnLine plainPpu twoSlots) rfl (drawnLine_vram plainPpu twoSlots)
  have hcolors : (playerPalette plainPpu twoSlots shadedRom).map (fun p => (p 0x8a, p 0xec)) =
    some (0xc0b, 0xec) := by
    decide +kernel
  rw [hpalette, Option.map_some] at hcolors
  obtain ⟨hfirst, hsecond⟩ := Prod.mk.inj (Option.some.inj hcolors)
  rw [show Draw.primary (.visual false) = false from rfl, hshown] at hpieces
  obtain ⟨v, rest, hv, hrest, rfl⟩ := List.forall₂_cons_left_iff.1 hpieces
  obtain ⟨w, rest, hw, hnil, rfl⟩ := List.forall₂_cons_left_iff.1 hrest
  cases List.forall₂_nil_left_iff.1 hnil
  have hvx : v.x = 30 := (nearest_eq hv.x_nearest 30 (by decide) (by decide)).trans (by decide)
  have hvy : v.y = 60 := (nearest_eq hv.y_nearest 60 (by decide) (by decide)).trans (by decide)
  have hwx : w.x = -6 := (nearest_eq hw.x_nearest (-6) (by decide) (by decide)).trans (by decide)
  have hwy : w.y = 3 := (nearest_eq hw.y_nearest 3 (by decide) (by decide)).trans (by decide)
  have hcorner := hv.pixel_eq 60 0
  have hclear := hv.pixel_eq 60 2
  have hother := hw.pixel_eq 3 1
  rw [hvx] at hcorner hclear
  rw [hwx] at hother
  refine ⟨v, w, hcapture, ⟨hvx, hvy, ?_, ?_, ?_, ?_⟩, hwx, hwy, ?_, ?_, ?_⟩
  · rw [hv.width_eq, hvx]
    decide +kernel
  · rw [hv.priority_eq]
    decide +kernel
  · refine (hcorner (by decide +kernel) (by decide +kernel)).trans ?_
    rw [if_neg (by decide +kernel), show (oamPiece twoSlots 0 (Int32.toInt 30)).object
      ((oamPiece twoSlots 0 (Int32.toInt 30)).pixel (drawnLine plainPpu twoSlots) 60 0) &&& 255 =
        0x8a by decide +kernel,
      hfirst]
    decide
  · exact (hclear (by decide +kernel) (by decide +kernel)).trans (if_pos (by decide +kernel))
  · rw [hw.height_eq, hwx]
    decide +kernel
  · rw [hw.math_eq]
    decide +kernel
  · refine (hother (by decide +kernel) (by decide +kernel)).trans ?_
    rw [if_neg (by decide +kernel), show (oamPiece twoSlots 1 (Int32.toInt (-6))).object
      ((oamPiece twoSlots 1 (Int32.toInt (-6))).pixel (drawnLine plainPpu twoSlots) 3 1) &&& 255 =
        0xec by decide +kernel,
      hsecond]
    decide

/-! ## Loops over pixels -/

theorem mem_grid {rows cols y x : Nat} : (y, x) ∈ grid rows cols ↔ y < rows ∧ x < cols := by
  unfold grid
  simp only [List.mem_flatMap, List.mem_range, List.mem_map, Prod.mk.injEq]
  constructor
  · rintro ⟨y', hy, x', hx, rfl, rfl⟩
    exact ⟨hy, hx⟩
  · rintro ⟨hy, hx⟩
    exact ⟨y, hy, x, hx, rfl, rfl⟩

section Plot

variable {rows cols : Nat} {pixel : Nat → Nat → Option (Nat × UInt16)}

/-- Every pixel the loops write is one of a picture. -/
def Within (rows cols : Nat) (pixel : Nat → Nat → Option (Nat × UInt16)) : Prop :=
  ∀ y x, y < rows → x < cols → ∀ w ∈ pixel y x, w.1 < DRAW_PIXELS

theorem plot_cells (h : Within rows cols pixel) :
    ∀ (cells : List (Nat × Nat)) (pixels : Nat → UInt16),
    (∀ c ∈ cells, c ∈ grid rows cols) → ∃ pixels',
      cells.foldlM (fun pixels c => (pixel c.1 c.2).elim (.ok pixels) fun w =>
        poke DRAW_PIXELS pixels w.1 w.2) pixels =
        .ok pixels' ∧ ∀ i, (pixels' i = pixels i ∧ ∀ c ∈ cells, ∀ w ∈ pixel c.1 c.2, w.1 ≠ i) ∨
          ∃ c ∈ cells, (i, pixels' i) ∈ pixel c.1 c.2
  | [], pixels, _ => ⟨pixels, rfl, fun i => .inl ⟨rfl, fun c hc => absurd hc List.not_mem_nil⟩⟩
  | c :: cells, pixels, hin => by
    rw [List.forall_mem_cons] at hin
    obtain ⟨hy, hx⟩ := mem_grid.1 hin.1
    rw [List.foldlM_cons]
    cases hturn : pixel c.1 c.2 with
    | none =>
        obtain ⟨pixels', hpixels', hspec⟩ := plot_cells h cells pixels hin.2
        refine ⟨pixels', hpixels', fun i => (hspec i).imp ?_ ?_⟩
        · rintro ⟨hkept, hno⟩
          exact ⟨hkept,
            List.forall_mem_cons.2 ⟨fun w hw => absurd (hturn.symm.trans hw) (by simp), hno⟩⟩
        · rintro ⟨c', hc', hw⟩
          exact ⟨c', List.mem_cons_of_mem _ hc', hw⟩
    | some w =>
        obtain ⟨pixels', hpixels', hspec⟩ :=
          plot_cells h cells (Function.update pixels w.1 w.2) hin.2
        have hpoke : poke DRAW_PIXELS pixels w.1 w.2 = .ok (Function.update pixels w.1 w.2) :=
          if_pos (h _ _ hy hx w hturn)
        refine ⟨pixels', ?_, fun i => ?_⟩
        · rw [Option.elim_some, hpoke, checked_bind]
          exact hpixels'
        · rcases hspec i with ⟨hkept, hno⟩ | ⟨c', hc', hw⟩
          · by_cases hi : w.1 = i
            · -- The last turn to write the pixel.
              subst hi
              rw [Function.update_self] at hkept
              exact .inr ⟨c, List.mem_cons_self, hturn.trans (by rw [hkept])⟩
            · rw [Function.update_of_ne (Ne.symm hi)] at hkept
              refine .inl ⟨hkept, List.forall_mem_cons.2 ⟨fun w' hw' => ?_, hno⟩⟩
              cases hturn.symm.trans hw'
              exact hi
          · exact .inr ⟨c', List.mem_cons_of_mem _ hc', hw⟩

/-- Loops within the picture go through, and every pixel is as it was or as some turn wrote it. -/
theorem plot_spec (h : Within rows cols pixel) (pixels : Nat → UInt16) :
    ∃ pixels', plot rows cols pixel pixels = .ok pixels' ∧
    ∀ i, (pixels' i = pixels i ∧ ∀ y x, y < rows → x < cols → ∀ w ∈ pixel y x, w.1 ≠ i) ∨
      ∃ y x, y < rows ∧ x < cols ∧ (i, pixels' i) ∈ pixel y x := by
  obtain ⟨pixels', hpixels', hspec⟩ := plot_cells h (grid rows cols) pixels fun _ hc => hc
  refine ⟨pixels', hpixels', fun i => (hspec i).imp ?_ ?_⟩
  · rintro ⟨hkept, hno⟩
    exact ⟨hkept, fun y x hy hx => hno (y, x) (mem_grid.2 ⟨hy, hx⟩)⟩
  · rintro ⟨c, hc, hw⟩
    exact ⟨c.1, c.2, (mem_grid.1 hc).1, (mem_grid.1 hc).2, hw⟩

theorem plot_total (h : Within rows cols pixel) (pixels : Nat → UInt16) :
    ∃ pixels', plot rows cols pixel pixels = .ok pixels' :=
  (plot_spec h pixels).imp fun _ hspec => hspec.1

end Plot

/-! ## The pictures stay within their buffers -/

theorem number_total {stride y : Nat} (hplace : (y + 5) * stride ≤ DRAW_PIXELS)
    (color : UInt16) (n : Nat) :
    ∀ (x : Int) (pixels : Nat → UInt16), ∃ pixels', number stride x y n color pixels =
      .ok pixels' := by
  induction n using Nat.strong_induction_on with
  | _ n ih =>
    intro x pixels
    have hdigit : ∀ pixels, ∃ pixels', plot 5 3 (fun row col =>
        if x + col ≥ 0 ∧ x + col < stride ∧
          (digits.getD (n % 10) 0).testBit (14 - row * 3 - col) then
          some ((y + row) * stride + (x + col).toNat, color)
        else none) pixels = .ok pixels' := by
      refine plot_total fun row col hrow _ w hw => ?_
      -- The digit is clipped at the sides of the picture.
      obtain ⟨hin, hw⟩ := Option.mem_ite_none_right.1 hw
      cases hw
      have hrows : (y + row + 1) * stride ≤ (y + 5) * stride := Nat.mul_le_mul_right _ (by omega)
      rw [Nat.succ_mul] at hrows
      dsimp only
      omega
    rw [number]
    split
    · exact checked_bind_total (ih (n / 10) (by omega) (x - 4) pixels) hdigit
    · exact hdigit pixels

theorem identity_total {stride y : Nat} (hstride : 10 ≤ stride)
    (hplace : (y + 5) * stride ≤ DRAW_PIXELS) (p : CoopPlayer)
    (pixels : Nat → UInt16) : ∃ pixels', identity stride y p pixels = .ok pixels' := by
  unfold identity
  refine checked_bind_total (plot_total (fun row col hrow hcol w hw => ?_) pixels) fun pixels =>
    number_total hplace _ _ 13 pixels
  obtain ⟨-, hw⟩ := Option.mem_ite_none_right.1 hw
  cases hw
  have hrows : (y + row + 1) * stride ≤ (y + 5) * stride := Nat.mul_le_mul_right _ (by omega)
  rw [Nat.succ_mul] at hrows
  dsimp only
  omega

theorem hudPicture_total (ppu : Ppu) (sourceX : Nat) (pixels : Nat → UInt16) :
    ∃ pixels', hudPicture ppu sourceX pixels = .ok pixels' := by
  refine plot_total (fun y x hy hx w hw => ?_) pixels
  obtain ⟨color, -, rfl⟩ := Option.map_eq_some_iff.1 hw
  unfold DRAW_PIXELS DECOR_WIDTH DECOR_HEIGHT
  dsimp only
  omega

theorem itemPicture_total (ppu : Ppu) (ram rom : Ram) (p : CoopPlayer) (pixels : Nat → UInt16) :
    ∃ pixels', itemPicture ppu ram rom p pixels = .ok pixels' := by
  unfold itemPicture
  extract_lets item tile attr
  split
  · refine plot_total (fun y x hy hx w hw => ?_) pixels
    obtain ⟨color, -, rfl⟩ := Option.map_eq_some_iff.1 hw
    unfold DRAW_PIXELS DECOR_WIDTH DECOR_HEIGHT
    dsimp only
    omega
  · exact ⟨pixels, rfl⟩

theorem badge_total (p : CoopPlayer) (pixels : Nat → UInt16) :
    ∃ pixels', badge p pixels = .ok pixels' := by
  unfold badge
  split
  · refine checked_bind_total (plot_total (fun y x hy hx w hw => ?_) pixels) fun pixels =>
      plot_total (fun y x hy hx w hw => ?_) pixels
    · cases hw
      unfold DRAW_PIXELS DECOR_WIDTH DECOR_HEIGHT
      dsimp only
      omega
    · obtain ⟨-, hw⟩ := Option.mem_ite_none_right.1 hw
      cases hw
      unfold DRAW_PIXELS DECOR_WIDTH DECOR_HEIGHT
      dsimp only
      omega
  · exact identity_total (by decide) (by decide) p pixels

theorem reservePicture_total (ppu : Ppu) (ram rom : Ram) (p : CoopPlayer) (pixels : Nat → UInt16) :
    ∃ pixels', reservePicture ppu ram rom p pixels = .ok pixels' :=
  checked_bind_total (hudPicture_total ppu 112 pixels) fun pixels =>
    checked_bind_total (itemPicture_total ppu ram rom p pixels) (badge_total p)

theorem bubblePicture_total (p : CoopPlayer) (pixels : Nat → UInt16) :
    ∃ pixels', bubblePicture p pixels = .ok pixels' := by
  unfold bubblePicture
  refine checked_bind_total (plot_total (fun y x hy hx w hw => ?_) pixels) fun pixels =>
    checked_bind_total (plot_total (fun y x hy hx w hw => ?_) pixels) fun pixels =>
      identity_total (by decide) (by decide) p pixels
  · obtain ⟨-, hw⟩ := Option.mem_ite_none_right.1 hw
    cases hw
    unfold DRAW_PIXELS DECOR_WIDTH DECOR_HEIGHT
    dsimp only
    omega
  · cases hw
    unfold DRAW_PIXELS DECOR_WIDTH DECOR_HEIGHT
    dsimp only
    omega

/-! ## The objects stay within their buffer -/

/-- What is shown of an actor can be drawn. -/
def CoopActor.Drawable (a : CoopActor) : Prop := ∀ v ∈ a.visible, pieceValid v = true

/-- An object's opaque points. -/
def ExtraObject.solidAt (o : ExtraObject) (x y : Int) : Prop :=
  x ≥ o.x ∧ y ≥ o.y ∧ x - o.x < o.width.toNat ∧ y - o.y < o.height.toNat ∧
    o.pixels ((y - o.y) * o.stride + (x - o.x)).toNat &&& 0x8000 ≠ 0

theorem pieceValid_size {v : CoopVisualPiece} (h : pieceValid v = true) :
    v.width.toNat ≤ 16 ∧ v.height.toNat ≤ 16 ∧
    v.priority.toNat ≤ 3 := by
  unfold pieceValid at h
  simp only [Bool.and_eq_true, Bool.or_eq_true, decide_eq_true_eq] at h
  obtain ⟨⟨⟨⟨hwidth, hheight⟩, hpriority⟩, -⟩, -⟩ := h
  rw [hheight]
  refine ⟨?_, ?_, UInt32.le_iff_toNat_le.1 hpriority⟩ <;>
  · rcases hwidth with h | h <;> rw [h] <;> decide

section Prepare

variable {m : CoopMachine} {p : Projection}

/-- A body piece keeps the pixels that no one covers. -/
theorem bodyPicture_spec {v : CoopVisualPiece} (h : pieceValid v = true) (a : CoopActor) :
    ∃ pixels, bodyPicture m a v = .ok pixels ∧ ∀ y x, y < v.height.toNat → x < v.width.toNat →
      pixels (y * 16 + x) = if covered m a v (v.x.toInt + x) (v.y.toInt + y) then 0
      else v.pixel (y * 16 + x) := by
  obtain ⟨hwidth, hheight, -⟩ := pieceValid_size h
  have hwithin : Within v.height.toNat v.width.toNat fun y x =>
      if covered m a v (v.x.toInt + x) (v.y.toInt + y) then some (y * 16 + x, 0)
        else none := fun y x hy hx w hw => by
    obtain ⟨-, hw⟩ := Option.mem_ite_none_right.1 hw
    cases hw
    unfold DRAW_PIXELS DECOR_WIDTH DECOR_HEIGHT
    dsimp only
    omega
  obtain ⟨pixels, hpixels, hspec⟩ := plot_spec hwithin v.pixel
  refine ⟨pixels, hpixels, fun y x hy hx => ?_⟩
  rcases hspec (y * 16 + x) with ⟨hkept, hno⟩ | ⟨y', x', hy', hx', hw⟩
  · rw [hkept, if_neg fun hcovered => ?_]
    exact hno y x hy hx (y * 16 + x, 0) (Option.mem_ite_none_right.2 ⟨hcovered, rfl⟩) rfl
  · obtain ⟨hcovered, hw⟩ := Option.mem_ite_none_right.1 hw
    have hplace : y' * 16 + x' = y * 16 + x := congrArg Prod.fst (Option.some.inj hw)
    have hzero : (0 : UInt16) = pixels (y * 16 + x) := congrArg Prod.snd (Option.some.inj hw)
    obtain rfl : y' = y := by omega
    obtain rfl : x' = x := by omega
    rw [if_pos hcovered, hzero]

theorem bodyObject_spec {v : CoopVisualPiece} (h : pieceValid v = true) (a : CoopActor) :
    ∃ o, bodyObject m a v = .ok o ∧
    o.priority = v.priority.toUInt8 ∧ ∀ x y, o.solidAt x y ↔ v.solidAt x y = true ∧
    covered m a v x y = false := by
  obtain ⟨pixels, hpixels, hspec⟩ := bodyPicture_spec (m := m) h a
  obtain ⟨hwidth, hheight, -⟩ := pieceValid_size h
  have hwidth' : v.width.toUInt16.toNat = v.width.toNat := by
    rw [UInt32.toNat_toUInt16]
    omega
  have hheight' : v.height.toUInt16.toNat = v.height.toNat := by
    rw [UInt32.toNat_toUInt16]
    omega
  refine ⟨pieceObject v (a.player + 1) pixels, ?_, rfl, fun x y => ?_⟩
  · unfold bodyObject
    rw [hpixels, checked_bind, checked_pure]
  · unfold ExtraObject.solidAt CoopVisualPiece.solidAt pieceObject
    simp only [decide_eq_true_eq, hwidth', hheight']
    by_cases hin : 0 ≤ x - v.x.toInt ∧ 0 ≤ y - v.y.toInt ∧ x - v.x.toInt < v.width.toNat ∧
      y - v.y.toInt < v.height.toNat
    · obtain ⟨hx, hy, hx', hy'⟩ := hin
      have hcol : ((x - v.x.toInt).toNat : Int) = x - v.x.toInt := Int.toNat_of_nonneg hx
      have hrow : ((y - v.y.toInt).toNat : Int) = y - v.y.toInt := Int.toNat_of_nonneg hy
      have hindex : ((y - v.y.toInt) * (16 : Nat) + (x - v.x.toInt)).toNat =
          (y - v.y.toInt).toNat * 16 + (x - v.x.toInt).toNat := by omega
      have hindex' : ((y - v.y.toInt) * 16 + (x - v.x.toInt)).toNat =
          (y - v.y.toInt).toNat * 16 + (x - v.x.toInt).toNat := by omega
      have hpixel := hspec (y - v.y.toInt).toNat (x - v.x.toInt).toNat (by omega) (by omega)
      rw [hcol, hrow, show v.x.toInt + (x - v.x.toInt) = x by omega,
        show v.y.toInt + (y - v.y.toInt) = y by omega] at hpixel
      rw [hindex, hindex', hpixel]
      cases hcovered : covered m a v x y with
      | true => simp
      | false =>
          rw [if_neg Bool.false_ne_true]
          constructor
          · rintro ⟨-, -, -, -, hsolid⟩
            exact ⟨⟨hx, hy, hx', hy', hsolid⟩, rfl⟩
          · rintro ⟨⟨-, -, -, -, hsolid⟩, -⟩
            exact ⟨by omega, by omega, hx', hy', hsolid⟩
    · refine iff_of_false (fun h => hin ?_) fun h => hin ⟨h.1.1, h.1.2.1, h.1.2.2.1, h.1.2.2.2.1⟩
      obtain ⟨hx, hy, hx', hy', -⟩ := h
      exact ⟨by omega, by omega, hx', hy'⟩

theorem decor_total {picture : Checked (Nat → UInt16)} (h : ∃ pixels, picture = .ok pixels)
    (make : (Nat → UInt16) → ExtraObject) :
    ∃ o, (do let pixels ← picture; return make pixels) = .ok o := by
  obtain ⟨pixels, rfl⟩ := h
  exact ⟨make pixels, rfl⟩

theorem hudObjects_total : ∀ o ∈ hudObjects m p, ∃ e, o = .ok e := by
  unfold hudObjects
  rw [List.forall_mem_cons]
  refine ⟨decor_total (hudPicture_total _ _ _) _, fun o ho => ?_⟩
  obtain ⟨a, -, ho⟩ := List.mem_flatMap.1 ho
  unfold playerObjects at ho
  split at ho
  · exact absurd ho List.not_mem_nil
  · rcases List.mem_cons.1 ho with rfl | ho
    · exact decor_total (reservePicture_total _ _ _ _ _) _
    · unfold bubbleObjects at ho
      dsimp only at ho
      split at ho
      · exact absurd ho List.not_mem_nil
      · split at ho
        · exact absurd ho List.not_mem_nil
        · split at ho
          · exact absurd ho List.not_mem_nil
          · rw [List.mem_singleton.1 ho]
            exact decor_total (bubblePicture_total _ _) _

/-- All objects of a frame. -/
def frameObjects (m : CoopMachine) (p : Projection) : List (Checked ExtraObject) :=
  fireballObjects m ++ entityObjects m ++ bodyObjects m ++ if m.roomInitialized && p.levelScene
    then hudObjects m p else []

theorem frameObjects_total (hdraw : ∀ a ∈ m.actors, a.Drawable) :
    ∀ o ∈ frameObjects m p, ∃ e, o = .ok e := by
  intro o ho
  unfold frameObjects at ho
  simp only [List.mem_append] at ho
  rcases ho with ((ho | ho) | ho) | ho
  · obtain ⟨a, -, ho⟩ := List.mem_flatMap.1 ho
    obtain ⟨f, -, ho⟩ := List.mem_flatMap.1 ho
    obtain ⟨v, -, rfl⟩ := List.mem_map.1 ho
    exact ⟨_, rfl⟩
  · obtain ⟨e, -, ho⟩ := List.mem_flatMap.1 ho
    obtain ⟨v, -, rfl⟩ := List.mem_map.1 ho
    exact ⟨_, rfl⟩
  · obtain ⟨a, ha, ho⟩ := List.mem_flatMap.1 ho
    split at ho
    · exact absurd ho List.not_mem_nil
    · obtain ⟨v, hv, rfl⟩ := List.mem_map.1 ho
      obtain ⟨e, he, -⟩ := bodyObject_spec (m := m) (hdraw a ha v hv) a
      exact ⟨e, he⟩
  · split at ho
    · exact hudObjects_total o ho
    · exact absurd ho List.not_mem_nil

theorem bubbleObjects_length (q : CoopPlayer) : (bubbleObjects m p q).length ≤ 1 := by
  unfold bubbleObjects
  dsimp only
  split
  · exact Nat.zero_le _
  · split
    · exact Nat.zero_le _
    · split
      · exact Nat.zero_le _
      · exact Nat.le_refl _

theorem playerObjects_length (a : CoopActor) : (playerObjects m p a).length ≤ 2 := by
  unfold playerObjects
  split
  · exact Nat.zero_le _
  · rw [List.length_cons]
    exact Nat.succ_le_succ (bubbleObjects_length _)

/-- Sums over one list add up. -/
theorem sum_le {α : Type} {f g : α → Nat} (h : ∀ a, f a ≤ g a) (xs : List α) :
    (xs.map f).sum ≤ (xs.map g).sum := by
  induction xs with
  | nil => exact Nat.le_refl _
  | cons a xs ih =>
      rw [List.map_cons, List.map_cons, List.sum_cons, List.sum_cons]
      exact Nat.add_le_add (h a) ih

theorem sum_add {α : Type} (f g : α → Nat) (xs : List α) :
    (xs.map fun a => f a + g a).sum = (xs.map f).sum + (xs.map g).sum := by
  induction xs with
  | nil => rfl
  | cons a xs ih =>
      simp only [List.map_cons, List.sum_cons, ih]
      omega

/-- There is room for every object. -/
theorem frameObjects_length : (frameObjects m p).length ≤ objectCount m p := by
  have hfire : (fireballObjects m).length ≤
    (m.actors.map fun a => (a.fireballs.toList.map fun f => f.visible.length).sum).sum := by
    unfold fireballObjects
    rw [List.length_flatMap]
    refine sum_le (fun a => ?_) m.actors
    rw [List.length_flatMap]
    refine sum_le (fun f => ?_) a.fireballs.toList
    rw [List.length_map, List.length_take]
    exact Nat.min_le_right _ _
  have hentities : (entityObjects m).length = (m.entities.map fun e => e.visible.length).sum := by
    unfold entityObjects
    rw [List.length_flatMap]
    simp only [List.length_map]
  have hbodies : (bodyObjects m).length =
    (m.actors.map fun a => if a.player = m.session.primary then 0 else a.visible.length).sum := by
    unfold bodyObjects
    rw [List.length_flatMap]
    refine congrArg List.sum (List.map_congr_left fun a _ => ?_)
    split
    · rfl
    · exact List.length_map _
  have hhud : (hudObjects m p).length ≤ (m.actors.map fun _ => 2).sum + 1 := by
    unfold hudObjects
    rw [List.length_cons, List.length_flatMap]
    exact Nat.succ_le_succ (sum_le (fun a => playerObjects_length a) m.actors)
  unfold frameObjects objectCount
  dsimp only
  rw [sum_add, sum_add, List.length_append, List.length_append, List.length_append]
  cases hlevel : m.roomInitialized && p.levelScene with
  | false =>
      simp only [Bool.false_eq_true, if_false, List.length_nil]
      omega
  | true =>
      simp only [if_true]
      omega

theorem foldlM_push {capacity : Nat} :
    ∀ (xs : List (Checked ExtraObject)) (objects : List ExtraObject),
    (∀ o ∈ xs, ∃ e, o = .ok e) → objects.length + xs.length ≤ capacity →
      xs.foldlM (push capacity) objects = .ok (objects ++ xs.filterMap Except.toOption)
  | [], objects, _, _ => congrArg Except.ok (List.append_nil objects).symm
  | o :: xs, objects, htotal, hroom => by
    rw [List.forall_mem_cons] at htotal
    obtain ⟨⟨e, rfl⟩, hrest⟩ := htotal
    rw [List.length_cons] at hroom
    have hpush : push capacity objects (.ok e) = .ok (objects ++ [e]) := if_pos (by omega)
    rw [List.foldlM_cons, hpush, checked_bind, foldlM_push xs (objects ++ [e]) hrest
      (by rw [List.length_append, List.length_singleton]; omega), List.append_assoc]
    rfl

/-- The frame is prepared without a write outside its buffers, and is made of the objects in their
order. -/
theorem prepare_total (hdraw : ∀ a ∈ m.actors, a.Drawable) :
    presentationPrepare m p = .ok ((frameObjects m p).filterMap Except.toOption) :=
  foldlM_push (frameObjects m p) [] (frameObjects_total hdraw)
    (by rw [List.length_nil, Nat.zero_add]; exact frameObjects_length)

end Prepare

/-! ## Overlapping players -/

section Overlap

variable {m : CoopMachine} {p : Projection}

theorem covered_iff {a : CoopActor} {v : CoopVisualPiece} {x y : Int} : covered m a v x y = true ↔
    ∃ b ∈ m.actors, actorBefore m b a = true ∧ b.solidAt v.priority x y = true := by
  unfold covered actorBefore
  simp only [List.any_eq_true, Bool.and_eq_true, Bool.not_eq_true', decide_eq_false_iff_not]
  constructor
  · rintro ⟨b, hb, ⟨-, hbefore⟩, hsolid⟩
    exact ⟨b, hb, hbefore, hsolid⟩
  · rintro ⟨b, hb, hbefore, hsolid⟩
    refine ⟨b, hb, ⟨fun heq => ?_, hbefore⟩, hsolid⟩
    rw [heq, precedes_irrefl] at hbefore
    cases hbefore

/-- The objects of an actor's body. -/
def bodiesOf (m : CoopMachine) (a : CoopActor) : List ExtraObject :=
  (a.visible.map (bodyObject m a)).filterMap Except.toOption

theorem mem_bodiesOf {a : CoopActor} {o : ExtraObject} :
    o ∈ bodiesOf m a ↔ ∃ v ∈ a.visible, bodyObject m a v = .ok o := by
  unfold bodiesOf
  rw [List.mem_filterMap]
  constructor
  · rintro ⟨c, hc, ho⟩
    obtain ⟨v, hv, rfl⟩ := List.mem_map.1 hc
    refine ⟨v, hv, ?_⟩
    cases hbody : bodyObject m a v with
    | error e =>
        rw [hbody] at ho
        cases ho
    | ok o' =>
        rw [hbody] at ho
        rw [Option.some.inj ho]
  · rintro ⟨v, hv, ho⟩
    exact ⟨_, List.mem_map_of_mem hv, by rw [ho]; rfl⟩

/-- An actor's objects show what the actor shows and no earlier one covers. -/
theorem bodiesOf_solid {a : CoopActor} (hdraw : a.Drawable) {priority : UInt32}
    (hpriority : priority ≤ 3) {x y : Int} :
    (∃ o ∈ bodiesOf m a, o.priority = priority.toUInt8 ∧ o.solidAt x y) ↔
    a.solidAt priority x y = true ∧
      ∀ b ∈ m.actors, actorBefore m b a = true → b.solidAt priority x y = false := by
  have hsmall := UInt32.le_iff_toNat_le.1 hpriority
  have hsame : ∀ v ∈ a.visible, v.priority.toUInt8 = priority.toUInt8 ↔
    v.priority = priority := fun v hv => by
    obtain ⟨-, -, hv'⟩ := pieceValid_size (hdraw v hv)
    rw [← UInt8.toNat_inj, ← UInt32.toNat_inj, UInt32.toNat_toUInt8, UInt32.toNat_toUInt8]
    have hthree : (3 : UInt32).toNat = 3 := rfl
    omega
  have huncovered : ∀ v : CoopVisualPiece, v.priority = priority → (covered m a v x y = false ↔
      ∀ b ∈ m.actors, actorBefore m b a = true → b.solidAt priority x y = false) := fun v hv => by
    rw [← Bool.not_eq_true, covered_iff, hv]
    constructor
    · intro hno b hb hbefore
      rw [← Bool.not_eq_true]
      exact fun hsolid => hno ⟨b, hb, hbefore, hsolid⟩
    · rintro hall ⟨b, hb, hbefore, hsolid⟩
      rw [hall b hb hbefore] at hsolid
      cases hsolid
  unfold CoopActor.solidAt
  simp only [List.any_eq_true, Bool.and_eq_true, decide_eq_true_eq]
  constructor
  · rintro ⟨o, ho, hpr, hsolid⟩
    obtain ⟨v, hv, hbody⟩ := mem_bodiesOf.1 ho
    obtain ⟨o', hbody', hpr', hspec⟩ := bodyObject_spec (m := m) (hdraw v hv) a
    rw [hbody] at hbody'
    cases hbody'
    have hprv := (hsame v hv).1 (hpr'.symm.trans hpr)
    obtain ⟨hvsolid, hfree⟩ := (hspec x y).1 hsolid
    exact ⟨⟨v, hv, hprv, hvsolid⟩, (huncovered v hprv).1 hfree⟩
  · rintro ⟨⟨v, hv, hprv, hvsolid⟩, hall⟩
    obtain ⟨o, hbody, hpr, hspec⟩ := bodyObject_spec (m := m) (hdraw v hv) a
    refine ⟨o, mem_bodiesOf.2 ⟨v, hv, hbody⟩, ?_,
      (hspec x y).2 ⟨hvsolid, (huncovered v hprv).2 hall⟩⟩
    rw [hpr, hprv]

/-- The bodies are prepared together, the rest of the frame in front of them or behind. -/
theorem frameObjects_bodies : (frameObjects m p).filterMap Except.toOption =
    (fireballObjects m ++ entityObjects m).filterMap Except.toOption ++
      (m.actors.flatMap fun a => if a.player = m.session.primary then [] else bodiesOf m a) ++
        (if m.roomInitialized && p.levelScene then hudObjects m p else []).filterMap
          Except.toOption := by
  have hbodies : (bodyObjects m).filterMap Except.toOption =
      m.actors.flatMap fun a => if a.player = m.session.primary then [] else bodiesOf m a := by
    unfold bodyObjects
    rw [List.filterMap_flatMap]
    refine congrArg (fun f => m.actors.flatMap f) (funext fun a => ?_)
    split
    · rfl
    · rfl
  unfold frameObjects
  rw [List.filterMap_append, List.filterMap_append, hbodies]

/-- Of the players that show an opaque pixel of one priority at a point only the first in precedence
is seen there: the prepared bodies of the others are clear, and the guest draws the primary. -/
theorem seen_foremost (hids : (m.actors.map CoopActor.player).Nodup)
    (hdraw : ∀ a ∈ m.actors, a.Drawable) :
    ∃ (front : List ExtraObject) (bodies : CoopActor → List ExtraObject) (back : List ExtraObject),
      presentationPrepare m p = .ok (front ++
        (m.actors.flatMap fun a => if a.player = m.session.primary then [] else bodies a) ++ back) ∧
      ∀ priority ≤ (3 : UInt32), ∀ x y : Int, ∃ first,
        Foremost (actorBefore m) (m.actors.filter fun a => a.solidAt priority x y) first ∧
          ∀ a ∈ m.actors, (∃ o ∈ bodies a, o.priority = priority.toUInt8 ∧ o.solidAt x y) ↔
          first = some a := by
  refine ⟨_, bodiesOf m, _, (prepare_total hdraw).trans (congrArg Except.ok frameObjects_bodies),
    fun priority hpriority x y => ?_⟩
  have hstrict := actorBefore_strict m
  have hdecides : Decides (actorBefore m) (m.actors.filter fun a => a.solidAt priority x y) :=
    precedes_decides m.session ((List.filter_sublist.map CoopActor.player).nodup hids)
  obtain ⟨first, hforemost⟩ : ∃ first,
    Foremost (actorBefore m) (m.actors.filter fun a => a.solidAt priority x y) first :=
    ⟨_, least_foremost hstrict hdecides⟩
  refine ⟨first, hforemost, fun a ha => ?_⟩
  rw [bodiesOf_solid (hdraw a ha) hpriority]
  obtain ⟨hnone, hfirst⟩ := hforemost
  constructor
  · rintro ⟨hsolid, hfree⟩
    have hmem : a ∈ m.actors.filter fun a => a.solidAt priority x y :=
      List.mem_filter.2 ⟨ha, hsolid⟩
    cases first with
    | none =>
        rw [hnone.1 rfl] at hmem
        exact absurd hmem List.not_mem_nil
    | some w =>
        obtain ⟨hw, hleast⟩ := hfirst w rfl
        by_cases heq : a = w
        · rw [heq]
        · -- The first would cover the actor.
          obtain ⟨hw', hsolid'⟩ := List.mem_filter.1 hw
          rw [hfree w hw' (hleast a hmem heq)] at hsolid'
          cases hsolid'
  · intro hsome
    obtain ⟨hmem, hleast⟩ := hfirst a hsome
    refine ⟨(List.mem_filter.1 hmem).2, fun b hb hbefore => ?_⟩
    rw [← Bool.not_eq_true]
    intro hsolid
    by_cases heq : b = a
    · rw [heq] at hbefore
      exact absurd hbefore (by rw [hstrict.irrefl a]; exact Bool.false_ne_true)
    · exact absurd hbefore
        (by rw [hstrict.asymm (hleast b (List.mem_filter.2 ⟨hb, hsolid⟩) heq)]; exact Bool.false_ne_true)

end Overlap

def squarePiece (x : Int32) : CoopVisualPiece :=
  ⟨x, 0, 8, 8, 2, 0, 0, List.Vector.replicate _ 0xffff⟩

def showing (player : CoopPlayerId) (visible : List CoopVisualPiece) : CoopActor where
  player := player
  inputSeat := player
  guest := List.Vector.replicate _ 0
  pending := []
  visible := visible
  fireballs := List.Vector.replicate _ zeroFireball
  storedMount := 0
  storedMountColor := 0

/-- The primary shows nothing; of the others the second stands a little to the left. -/
def crowd : CoopMachine :=
  { pairMachine with
    session := { pairSession with players := [initPlayer 0, initPlayer 1, initPlayer 2] }
    roomInitialized := true
    actors := [showing 0 [], showing 2 [squarePiece 0], showing 1 [squarePiece 4]] }

def plainProjection : Projection := ⟨true, 256, 0, plainPpu, fun _ => 0, fun _ => 0⟩

theorem crowd_drawable : ∀ a ∈ crowd.actors, a.Drawable := by
  unfold CoopActor.Drawable
  decide +kernel

theorem crowd_seen :
    ∃ (front : List ExtraObject) (bodies : CoopActor → List ExtraObject) (back : List ExtraObject),
    presentationPrepare crowd plainProjection = .ok (front ++
      (crowd.actors.flatMap fun a => if a.player = crowd.session.primary then [] else bodies a) ++
        back) ∧
    (∃ o ∈ bodies (showing 1 [squarePiece 4]), o.priority = 2 ∧ o.solidAt 5 0) ∧
    ¬ ∃ o ∈ bodies (showing 2 [squarePiece 0]), o.priority = 2 ∧ o.solidAt 5 0 := by
  obtain ⟨front, bodies, back, hprepare, hseen⟩ :=
    seen_foremost (m := crowd) (p := plainProjection) (by decide +kernel) crowd_drawable
  obtain ⟨first, ⟨hnone, hfirst⟩, hshown⟩ := hseen 2 (by decide +kernel) 5 0
  have hfilter : crowd.actors.filter (fun a => a.solidAt 2 5 0) =
    [showing 2 [squarePiece 0], showing 1 [squarePiece 4]] := by
    decide +kernel
  have hfirst : first = some (showing 1 [squarePiece 4]) := by
    rw [hfilter] at hnone hfirst
    cases first with
    | none => exact absurd (hnone.1 rfl) (List.cons_ne_nil _ _)
    | some w =>
        obtain ⟨hw, hleast⟩ := hfirst w rfl
        rcases List.mem_cons.1 hw with rfl | hw
        · exact absurd (hleast (showing 1 [squarePiece 4]) (by decide +kernel) (by decide +kernel))
            (by decide +kernel)
        · rw [List.mem_singleton.1 hw]
  refine ⟨front, bodies, back, hprepare, (hshown _ (by decide +kernel)).2 hfirst, fun hother => ?_⟩
  have heq := (hshown _ (by decide +kernel)).1 hother
  rw [hfirst] at heq
  exact absurd heq (by decide +kernel)

/-! ## The reserve boxes -/

section Boxes

variable {m : CoopMachine} {p : Projection}

theorem reserveColumns_pos (width : Int) {actors : Nat} (h : 0 < actors) :
    0 < reserveColumns width actors := by
  unfold reserveColumns
  extract_lets columns columns'
  have hpos : 0 < columns' := by
    rcases Nat.eq_zero_or_pos columns with hzero | hpos
    · exact lt_of_lt_of_eq Nat.one_pos (if_pos hzero).symm
    · exact lt_of_lt_of_eq hpos (if_neg (Nat.pos_iff_ne_zero.1 hpos)).symm
  split
  · exact h
  · exact hpos

theorem precedence_strict (s : CoopSession) : Strict (coopPlayerPrecedes s) := precedes_strict id s

/-- Every player has a reserve box of its own: no two meet, all are right of the counters at the
left, and TIME is behind them but for the clear edge of its picture. -/
theorem boxes_apart (hids : (m.actors.map CoopActor.player).Nodup) : ∀ a ∈ m.actors,
    112 ≤ (boxPlace m p a.player).1 + p.native ∧
      (boxPlace m p a.player).1 + p.native + 32 ≤
        timerStart p.width (reserveColumns p.width m.actors.length) + 8 ∧
      ∀ b ∈ m.actors, b ≠ a → (boxPlace m p a.player).1 + 32 ≤ (boxPlace m p b.player).1 ∨
        (boxPlace m p b.player).1 + 32 ≤ (boxPlace m p a.player).1 ∨
        (boxPlace m p a.player).2 + 40 ≤ (boxPlace m p b.player).2 ∨
        (boxPlace m p b.player).2 + 40 ≤ (boxPlace m p a.player).2 := by
  intro a ha
  have hcolumns : 0 < reserveColumns p.width m.actors.length :=
    reserveColumns_pos _ (List.length_pos_of_mem ha)
  have hstart : 112 ≤ reserveStart p.width (reserveColumns p.width m.actors.length) := by
    unfold reserveStart
    dsimp only
    split <;> omega
  have htimer : reserveStart p.width (reserveColumns p.width m.actors.length) +
      (reserveColumns p.width m.actors.length * 32 : Nat) ≤
        timerStart p.width (reserveColumns p.width m.actors.length) + 8 := by
    unfold timerStart
    dsimp only
    split <;> omega
  have hcolumn := cell_column hcolumns (reserveRank m a.player)
  unfold boxPlace
  dsimp only
  refine ⟨by omega, by omega, fun b hb hne => ?_⟩
  have hrank : reserveRank m a.player ≠ reserveRank m b.player := fun heq => by
    have hids' : Decides (coopPlayerPrecedes m.session) (m.actors.map CoopActor.player) :=
      @precedes_decides CoopPlayerId id m.session _ (by rw [List.map_id]; exact hids)
    have hplayer :=
      rankIn_inj (precedence_strict m.session) hids' (List.mem_map_of_mem ha)
      (List.mem_map_of_mem hb) heq
    exact hne (List.inj_on_of_nodup_map hids hb ha hplayer.symm)
  have hcell : cell (reserveColumns p.width m.actors.length) (reserveRank m a.player) ≠
      cell (reserveColumns p.width m.actors.length) (reserveRank m b.player) :=
      fun heq => hrank (cell_inj heq)
  generalize cell (reserveColumns p.width m.actors.length) (reserveRank m a.player) =
    place at hcell ⊢
  generalize cell (reserveColumns p.width m.actors.length) (reserveRank m b.player) =
    place' at hcell ⊢
  have hdiffer : place.1 ≠ place'.1 ∨ place.2 ≠ place'.2 := by
    by_contra hsame
    rw [not_or, not_not, not_not] at hsame
    exact hcell (Prod.ext hsame.1 hsame.2)
  omega

end Boxes

theorem crowd_boxes :
    (boxPlace crowd plainProjection 2).1 + 32 ≤ (boxPlace crowd plainProjection 1).1 ∨
    (boxPlace crowd plainProjection 1).1 + 32 ≤ (boxPlace crowd plainProjection 2).1 ∨
    (boxPlace crowd plainProjection 2).2 + 40 ≤ (boxPlace crowd plainProjection 1).2 ∨
    (boxPlace crowd plainProjection 1).2 + 40 ≤ (boxPlace crowd plainProjection 2).2 :=
  (boxes_apart (m := crowd) (p := plainProjection) (by decide +kernel) (showing 2 [squarePiece 0])
    (by decide +kernel)).2.2
    (showing 1 [squarePiece 4]) (by decide +kernel) (by decide +kernel)

/-- The third player's box is in the second row. -/
example : boxPlace crowd plainProjection 2 = (112, 40) := by decide

/-! ## Another arrangement of the roster -/

section Arrangement

variable {m : CoopMachine} {p : Projection} {actors : List CoopActor}

theorem reserveRank_perm (hperm : actors.Perm m.actors) (id : CoopPlayerId) :
    reserveRank { m with actors := actors } id = reserveRank m id :=
  rankIn_perm (hperm.map CoopActor.player) id

theorem covered_perm (hperm : actors.Perm m.actors) :
    covered { m with actors := actors } = covered m := by
  funext a v x y
  exact hperm.any_eq

theorem frameObjects_perm (hperm : actors.Perm m.actors) :
    (frameObjects { m with actors := actors } p).Perm (frameObjects m p) := by
  have hlength : actors.length = m.actors.length := hperm.length_eq
  have hbody : bodyObject { m with actors := actors } = bodyObject m := by
    unfold bodyObject bodyPicture
    rw [covered_perm hperm]
  have hplace : boxPlace { m with actors := actors } = boxPlace m := by
    unfold boxPlace
    simp only [reserveRank_perm hperm, hlength]
  have hbubble : bubblePlace { m with actors := actors } = bubblePlace m := by
    unfold bubblePlace
    simp only [reserveRank_perm hperm]
  have hbox : boxObject { m with actors := actors } = boxObject m := by
    unfold boxObject
    rw [hplace]
  have hbubbles : bubbleObjects { m with actors := actors } = bubbleObjects m := by
    unfold bubbleObjects
    rw [hbubble]
  have hplayer : playerObjects { m with actors := actors } = playerObjects m := by
    unfold playerObjects
    rw [hbox, hbubbles]
  have hhud : (hudObjects { m with actors := actors } p).Perm (hudObjects m p) := by
    unfold hudObjects timerObject
    rw [hplayer, hlength]
    exact (hperm.flatMap_right _).cons _
  have hbodies : (bodyObjects { m with actors := actors }).Perm (bodyObjects m) := by
    unfold bodyObjects
    rw [hbody]
    exact hperm.flatMap_right _
  have hfire : (fireballObjects { m with actors := actors }).Perm (fireballObjects m) :=
    hperm.flatMap_right _
  unfold frameObjects
  refine ((hfire.append (List.Perm.refl _)).append hbodies).append ?_
  split
  · exact hhud
  · exact List.Perm.refl _

/-- The roster may be arranged in any way: the same objects are prepared, with the same pictures. -/
theorem prepare_perm (hdraw : ∀ a ∈ m.actors, a.Drawable) (hperm : actors.Perm m.actors) :
    ∃ objects objects',
    presentationPrepare { m with actors := actors } p = .ok objects ∧ presentationPrepare m p =
      .ok objects' ∧
      objects.Perm objects' :=
  ⟨_, _, prepare_total fun a ha => hdraw a (hperm.mem_iff.1 ha), prepare_total hdraw,
    (frameObjects_perm hperm).filterMap _⟩

end Arrangement

theorem crowd_rearranged : ∃ objects objects',
    presentationPrepare { crowd with actors := crowd.actors.reverse } plainProjection =
      .ok objects ∧
      presentationPrepare crowd plainProjection = .ok objects' ∧ objects.Perm objects' :=
  prepare_perm crowd_drawable (List.reverse_perm _)

end SmwRecomp.Coop
