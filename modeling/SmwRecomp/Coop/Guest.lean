import SmwRecomp.Coop.Machine

/-!
# The guest image of a player

`src/src/mods/coop/coop_guest.c`: the fields of `coop_player_fields.def` copied out of guest memory
and back, looked up by address, and read into a player's record.
-/

set_option autoImplicit false

namespace SmwRecomp.Coop

/-! ## Guest memory -/

/-- `g_ram`. -/
abbrev Ram := Nat → UInt8

def Ram.put (ram : Ram) (address : Nat) (value : UInt8) : Ram :=
  fun i => if i = address then value else ram i

/-- `memcpy(ram + address, bytes, size)`. -/
def Ram.write (ram : Ram) (address : Nat) (bytes : List UInt8) : Ram :=
  fun i => if address ≤ i ∧ i < address + bytes.length then bytes.getD (i - address) 0 else ram i

/-- `memcpy(bytes, ram + address, size)`. -/
def Ram.bytes (ram : Ram) (address size : Nat) : List UInt8 :=
  (List.range size).map (fun i => ram (address + i))

/-- `read16`. -/
def Ram.read16 (ram : Ram) (address : Nat) : Nat :=
  (ram address).toNat + 256 * (ram (address + 1)).toNat

theorem read16_lt (ram : Ram) (a : Nat) : ram.read16 a < 65536 := by
  have hlow := (ram a).toNat_lt
  have hhigh := (ram (a + 1)).toNat_lt
  unfold Ram.read16
  omega

/-! ## Fields -/

def captureFields (ram : Ram) : List (UInt16 × UInt16) → List UInt8
  | [] => []
  | (address, size) :: fields => ram.bytes address.toNat size.toNat ++ captureFields ram fields

theorem captureFields_length (ram : Ram) : ∀ fields : List (UInt16 × UInt16),
    (captureFields ram fields).length = (fields.map (fun f => f.2.toNat)).sum
  | [] => rfl
  | (address, size) :: fields => by
    unfold captureFields
    rw [List.length_append, captureFields_length ram fields, List.map_cons,
      List.sum_cons, Ram.bytes, List.length_map, List.length_range]

/-- `coop_guest_capture`. -/
def coopGuestCapture (ram : Ram) : List.Vector UInt8 COOP_GUEST_BYTES :=
  ⟨captureFields ram guestFields, (captureFields_length ram guestFields).trans (by decide)⟩

/-- `$18E3` is shared challenge progress: guest memory keeps its own copy. -/
def bindFields : List (UInt16 × UInt16) → List UInt8 → Ram → Ram
  | [], _, ram => ram
  | (address, size) :: fields, bytes, ram =>
    bindFields fields (bytes.drop size.toNat)
      (if address ≠ 0x18e3 then ram.write address.toNat (bytes.take size.toNat) else ram)

/-- `coop_guest_bind`. -/
def coopGuestBind (guest : List.Vector UInt8 COOP_GUEST_BYTES) (ram : Ram) : Ram :=
  bindFields guestFields guest.toList ram

def peekFields : List (UInt16 × UInt16) → List UInt8 → UInt16 → Option UInt8
  | [], _, _ => none
  | (first, size) :: fields, bytes, address =>
    if address ≥ first ∧ address - first < size then bytes[(address - first).toNat]?
    else peekFields fields (bytes.drop size.toNat) address

/-- `coop_guest_peek`. -/
def coopGuestPeek (guest : List.Vector UInt8 COOP_GUEST_BYTES) (address : UInt16) : Option UInt8 :=
  peekFields guestFields guest.toList address

/-! ## The player's record -/

/-- `clip_shape`, and the two tables it indexes. -/
def clipShape (ram : Ram) : Nat :=
  (if ram 0x73 ≠ 0 ∨ ram 0x19 = 0 then 1 else 0) + (if ram 0x187a ≠ 0 then 2 else 0)

def clipY : List Nat := [6, 20, 16, 24]
def clipHeight : List Nat := [26, 12, 32, 24]

/-- `coop_guest_read_player`. -/
def coopGuestReadPlayer (p : CoopPlayer) (ram : Ram) : CoopPlayer :=
  let height := clipHeight.getD (clipShape ram) 0
  { p with
    power := .ofWord (ram 0x19).toUInt32
    reserve := (ram 0xdc2).toUInt32
    protectionTicks := (ram 0x1497).toUInt32
    starTicks := (ram 0x1490).toUInt32 * 4
    halfWidth := 6
    height := Int32.ofNat height
    x := Int32.ofNat (ram.read16 0x94 + 8)
    y := Int32.ofNat (ram.read16 0x96 + clipY.getD (clipShape ram) 0 + height / 2)
    grounded := decide (ram 0x77 &&& 4 ≠ 0) || decide (ram 0x1471 ≠ 0)
    swimming := decide (ram 0x75 ≠ 0)
    supportedFlight := decide (ram 0x1407 ≠ 0) || decide (ram 0x1891 ≠ 0)
    behindFence := decide (ram 0x13f9 ≠ 0) }

end SmwRecomp.Coop
