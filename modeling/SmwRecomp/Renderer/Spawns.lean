import SmwRecomp.Lib.Wire

/-!
# The expanded-view spawn guard

* `SpawnState`, `smwRendererSpawnFrame`, `smwRendererSaveExtra`, `smwRendererLoadExtra`,
  `smwRendererStateLoaded` — the guard's memory and its life across frames and saves.
* `placementHasSlot`, `leftMargin`, `InRegion` — the allocator's pools and the activation region.
* `settle`, `consider`, `spawnScan` — one call of the hook at $02A82E, in the order of the source.
* `visited_settle`, `visited_spawnScan`, `offered_spawnScan` — what one call makes of one record.
* `saved_loaded` — what is saved is loaded back, whatever the host held.
-/

set_option autoImplicit false

namespace SmwRecomp.Renderer

/-! ## The guest and the host -/

/-- The registers the scan reads, and what `cpu_read8` delivers. -/
structure CpuState where
  X : UInt16
  Y : UInt16
  D : UInt16
  read8 : UInt8 → UInt16 → UInt8

/-- The fields of `g_smw_video` and `g_smw_viewport` the scan reads. -/
structure Video where
  enabled : Bool
  adaptiveSpawns : Bool
  width : Int
  extra : Int

/-- `cpu_read8` at an address of 24 bits. -/
def cpuRead8 (c : CpuState) (address : Nat) : UInt8 :=
  c.read8 (UInt8.ofNat (address / 65536)) (UInt16.ofNat address)

def r8 (c : CpuState) (a : Nat) : UInt8 := c.read8 0x7e (UInt16.ofNat a)

def r16 (c : CpuState) (a : Nat) : UInt16 := ofLe16 (r8 c a) (r8 c (a + 1))

def active (v : Video) (c : CpuState) : Prop := v.enabled = true ∧ 256 < v.width ∧ r8 c 0x100 = 0x14

instance (v : Video) (c : CpuState) : Decidable (active v c) := inferInstanceAs (Decidable (_ ∧ _))

def smwViewOffset (v : Video) (camera levelWidth : Int) : Int :=
  let origin := camera - v.extra
  let last := if levelWidth > v.width then levelWidth - v.width else 0
  let origin := if origin > last then last else origin
  let origin := if origin < 0 then 0 else origin
  let offset := camera - origin
  let offset := if offset < 0 then 0 else offset
  if offset > v.width - 256 then v.width - 256 else offset

def leftMargin (v : Video) (c : CpuState) : Int :=
  if r8 c 0x5b &&& 1 ≠ 0 then v.extra
  else smwViewOffset v (r16 c 0x1a).toNat (((r8 c 0x5e).toNat + 1) * 256)

/-- The extra slot of the ghost house preset, or nothing. -/
def ghostHouseSpare (c : CpuState) (id : UInt8) : Option Nat :=
  if id ≠ 0x38 ∧ id ≠ 0x39 then none
  else if r8 c 0x1692 ≠ 0x11 ∨ r8 c 0x5b &&& 1 ≠ 0 then none
  else [8, 9].find? fun slot => r8 c (0x14c8 + slot) = 0

/-- The pool the ROM's tables give a sprite: its first slot, and the one below its last. -/
def allocatorBounds (c : CpuState) (memory : Nat) (id : UInt8) (x : Nat) : UInt8 × UInt8 :=
  let bounds :=
    (c.read8 2 (UInt16.ofNat (0xa773 + memory)), c.read8 2 (UInt16.ofNat (0xa7ac + memory)))
  let bounds :=
    if id = c.read8 2 (UInt16.ofNat (0xa7d2 + memory)) then
      (c.read8 2 (UInt16.ofNat (0xa786 + memory)), c.read8 2 (UInt16.ofNat (0xa7bf + memory)))
    else bounds
  if id = c.read8 2 (UInt16.ofNat (0xa7e4 + memory)) ∧ (id ≠ 0x64 ∨ x &&& 0x10 ≠ 0) then
    (c.read8 2 (UInt16.ofNat (0xa799 + memory)), 255)
  else bounds

def placementHasSlot (c : CpuState) (id : UInt8) (x : Nat) : Bool :=
  if (0xc9 ≤ id ∧ id < 0xda) ∨ id = 0xe0 ∨ 0xe1 ≤ id ∨ id = 0x7b then true
  else
    let memory := (r8 c 0x1692).toNat
    if memory ≥ 19 then true
    else
      let (top, bottom) := allocatorBounds c memory id x
      let last : Int := if bottom = 255 then -1 else bottom.toNat
      if top ≥ 12 ∨ last ≥ top.toNat then true
      -- no slot from 12 on is ever looked at
      else if (List.range 12).any fun slot =>
          decide (last < slot ∧ slot ≤ top.toNat) && decide (r8 c (0x14c8 + slot) = 0) then true
      else decide (top = 5 ∧ bottom = 255) &&
        (ghostHouseSpare c (if id = 0xde then 0x39 else id)).isSome

/-! ## The guard's memory -/

structure SpawnState where
  list : UInt32
  visited : List.Vector UInt8 128
  pending : UInt8
  deriving DecidableEq

def resetSpawns : SpawnState := ⟨0, List.Vector.replicate 128 0, 255⟩

/-- The mark of a record. -/
def SpawnState.mark (s : SpawnState) (record : Nat) : UInt8 := s.visited.toList.getD record 0

def SpawnState.setMark (s : SpawnState) (record : Nat) (mark : UInt8) : SpawnState :=
  { s with visited := ⟨s.visited.toList.set record mark, by rw [List.length_set, s.visited.toList_length]⟩ }

section Mark

variable {s : SpawnState} {record other : Nat} {mark : UInt8}

@[simp] theorem setMark_list : (s.setMark record mark).list = s.list := rfl
@[simp] theorem setMark_pending : (s.setMark record mark).pending = s.pending := rfl
@[simp] theorem mark_pending {p : UInt8} : ({ s with pending := p } : SpawnState).mark record =
    s.mark record := rfl

@[simp] theorem mark_setMark (h : record < 128) : (s.setMark record mark).mark record = mark := by
  have hlen : record < s.visited.toList.length := by rwa [s.visited.toList_length]
  show (s.visited.toList.set record mark).getD record 0 = mark
  rw [List.getD_eq_getElem?_getD, List.getElem?_set_self hlen]
  rfl

theorem mark_setMark_ne (h : record ≠ other) :
    (s.setMark record mark).mark other = s.mark other := by
  show (s.visited.toList.set record mark).getD other 0 = s.visited.toList.getD other 0
  simp [List.getD_eq_getElem?_getD, h]

@[simp] theorem mark_resetSpawns {list : UInt32} :
    ({ resetSpawns with list := list } : SpawnState).mark record = 0 := by
  show (List.replicate 128 (0 : UInt8)).getD record 0 = 0
  rw [List.getD_eq_getElem?_getD, List.getElem?_replicate]
  split <;> rfl

end Mark

/-- The frames on which `SmwRendererSpawnFrame` forgets everything. -/
def Forgets (v : Video) (gameMode screenMode : UInt8) : Prop :=
  v.enabled = false ∨ v.adaptiveSpawns = false ∨ v.width ≤ 256 ∨ gameMode ≠ 0x14 ∨
    screenMode &&& 1 ≠ 0

instance (v : Video) (gameMode screenMode : UInt8) : Decidable (Forgets v gameMode screenMode) :=
  inferInstanceAs (Decidable (_ ∨ _))

/-- `gameMode` and `screenMode` are the bytes at $0100 and $5B. -/
def smwRendererSpawnFrame (s : SpawnState) (v : Video) (gameMode screenMode : UInt8) : SpawnState :=
  if Forgets v gameMode screenMode then resetSpawns else s

/-! ## Saves -/

/-- The guard's statics. -/
structure SpawnHost where
  spawnState : SpawnState
  restoredSpawn : SpawnState
  restoredExtra : Bool

def smwRendererSaveExtra (s : SpawnState) : CursorM Unit := do
  put32 0x53574d53
  put32 1
  put32 s.list
  putBytes s.visited.toList
  putBytes [s.pending]

def smwRendererLoadExtra (h : SpawnHost) : CursorM SpawnHost := do
  let magic ← next32
  let version ← next32
  if magic ≠ 0x53574d53 ∨ version ≠ 1 then return { h with restoredExtra := false }
  else
    let list ← next32
    let visited ← nextVector 128
    let pending ← nextVector 1
    return { h with restoredSpawn := ⟨list, visited, pending.head⟩, restoredExtra := true }

def smwRendererStateLoaded (h : SpawnHost) : SpawnHost :=
  { h with spawnState := if h.restoredExtra then h.restoredSpawn else resetSpawns, restoredExtra := false }

/-- The chunk a save of the state holds. -/
def spawnChunk (s : SpawnState) : Except Stop Bytes := do
  let (_, c) ← smwRendererSaveExtra s ⟨List.replicate 141 0, 0⟩
  return c.p

/-- A chunk loaded into a running host. -/
def loadChunk (h : SpawnHost) (chunk : Bytes) : Except Stop SpawnHost := do
  let (h, _) ← smwRendererLoadExtra h ⟨chunk, 0⟩
  return smwRendererStateLoaded h

theorem spawnChunk_eq (s : SpawnState) :
    spawnChunk s = .ok (words [0x53574d53, 1, s.list] (s.visited.toList ++ [s.pending])) := by
  have hwrites : Writes (smwRendererSaveExtra s)
      (words [0x53574d53, 1, s.list] (s.visited.toList ++ [s.pending])) :=
    Writes.word (Writes.word (Writes.word ((writes_putBytes _).bind (writes_putBytes _))))
  have h := hwrites [] (List.replicate 141 0) [] (by simp)
  simp only [List.nil_append, List.append_nil, List.length_nil] at h
  unfold spawnChunk
  rw [h]
  rfl

/-- What is saved is loaded back, whatever the host held. -/
theorem saved_loaded (s : SpawnState) (h : SpawnHost) :
    ∃ chunk, spawnChunk s = .ok chunk ∧
      loadChunk h chunk =
        .ok { h with spawnState := s, restoredSpawn := s, restoredExtra := false } := by
  refine ⟨_, spawnChunk_eq s, ?_⟩
  have hreads : Reads 0 (smwRendererLoadExtra h)
      (words [0x53574d53, 1, s.list] (s.visited.toList ++ [s.pending]))
      { h with restoredSpawn := s, restoredExtra := true } := by
    refine Reads.word (Reads.word ?_)
    rw [if_neg (by decide)]
    refine Reads.word ?_
    show Reads 0 _ (s.visited.toList ++ [s.pending]) _
    refine Reads.vector ?_
    have hlast := Reads.vector (k := 0) (v := (⟨[s.pending], rfl⟩ : List.Vector UInt8 1)) (b := [])
      (f := fun pending => (pure { h with
        restoredSpawn := ⟨s.list, s.visited, pending.head⟩, restoredExtra :=
          true } : CursorM SpawnHost))
      (Reads.pure _)
    exact hlast
  have hload := hreads [] [] (Nat.zero_le _)
  simp only [List.nil_append, List.append_nil, List.length_nil] at hload
  unfold loadChunk
  rw [hload]
  rfl

/-! ## The hook -/

/-- A sprite record of the list. -/
structure SpriteRecord where
  a : UInt8
  b : UInt8
  id : UInt8

def SpriteRecord.x (r : SpriteRecord) : Nat :=
  (((r.a &&& 2) <<< 3) ||| (r.b &&& 15)).toNat * 256 + (r.b &&& 0xf0).toNat

/-- Generators, scroll commands and scene effects: the ids that keep the native frontier. -/
def SpriteRecord.Scenic (r : SpriteRecord) : Prop := (0xcb ≤ r.id ∧ r.id < 0xda) ∨ 0xe1 ≤ r.id

instance (r : SpriteRecord) : Decidable r.Scenic := inferInstanceAs (Decidable (_ ∨ _))

/-- `pointer`, the list the level's sprites are read from. -/
def spriteList (c : CpuState) : UInt32 :=
  (r16 c (c.D.toNat + 0xce)).toUInt32 ||| ((r8 c (c.D.toNat + 0xd0)).toUInt32 <<< 16)

/-- The record `Y` stands at. -/
def currentRecord (c : CpuState) : SpriteRecord :=
  let address := (spriteList c).toNat + c.Y.toNat
  ⟨cpuRead8 c address, cpuRead8 c (address + 1), cpuRead8 c (address + 2)⟩

/-- The load flag of a record. -/
def loadFlag (c : CpuState) (record : Nat) : UInt8 := r8 c (0x1938 + record)

/-- The activation region, over the position of the current record. -/
def InRegion (v : Video) (c : CpuState) : Prop :=
  ((currentRecord c).x : Int) ≥ (r16 c 0x1a).toNat - leftMargin v c - 32 ∧
    ((currentRecord c).x : Int) < (r16 c 0x1a).toNat + v.width - leftMargin v c + 32

instance (v : Video) (c : CpuState) : Decidable (InRegion v c) :=
  inferInstanceAs (Decidable (_ ∧ _))

/-- The column native scrolling reveals. -/
def nativeFrontier (c : CpuState) : Int :=
  let direction := r8 c 0x55
  let edge : Int := (r16 c 0x1a).toNat + if direction = 0 then -48
    else if direction = 2 then 288 else 0
  -- `edge & ~15`
  edge / 16 * 16

/-- Another list forgets everything; the record offered last is consumed if its load flag is set by
now. -/
def settle (s : SpawnState) (c : CpuState) : SpawnState :=
  let s := if s.list ≠ spriteList c then { resetSpawns with list := spriteList c } else s
  let previous := s.pending.toNat
  let s := { s with pending := 255 }
  if previous < 128 ∧ loadFlag c previous ≠ 0 then s.setMark previous 1 else s

/-- The guard on an ordinary record with a load flag: whether it stays visible. -/
def consider (v : Video) (s : SpawnState) (c : CpuState) : SpawnState × Bool :=
  let record := c.X.toNat
  if ¬ InRegion v c then (s.setMark record 0, false)
  else
    let s := if loadFlag c record ≠ 0 then s.setMark record 1 else s
    if s.mark record ≠ 0 then
      (if loadFlag c record = 0 ∧ s.mark record ≠ 2 then s.setMark record 2 else s, false)
    else if !placementHasSlot c (currentRecord c).id (currentRecord c).x then (s, false)
    else ({ s with pending := UInt8.ofNat record }, true)

/-- The visible records, and what the scan makes of the current one. -/
def visible (v : Video) (s : SpawnState) (c : CpuState) : SpawnState × Bool :=
  if (currentRecord c).Scenic then (s, decide (((currentRecord c).x : Int) = nativeFrontier c))
  else if c.X.toNat < 128 then consider v s c
  else (s, decide (InRegion v c))

/-- The bytes the hook stores at `D` and `D + 1`: the low and the high byte of a column, or no
column at all. -/
structure Column where
  low : UInt8
  high : UInt8

def spawnScan (v : Video) (s : SpawnState) (c : CpuState) : SpawnState × Option Column :=
  let s := settle s c
  if (currentRecord c).a = 255 then (s, none)
  else
    let x := (currentRecord c).x
    let (s, visible) := visible v s c
    (s, some ⟨UInt8.ofNat (x &&& 0xf0), if visible then UInt8.ofNat (x / 256) else 255⟩)

/-- The conditions under which the hook at $02A82E scans. -/
def Scanning (v : Video) (c : CpuState) : Prop :=
  active v c ∧ v.adaptiveSpawns = true ∧ v.extra ≠ 0 ∧ r8 c 0x5b &&& 1 = 0

instance (v : Video) (c : CpuState) : Decidable (Scanning v c) :=
  inferInstanceAs (Decidable (_ ∧ _))

/-- The hook at $02A82E: the guard's state behind it, and what it stores. -/
def smwRendererGuestHook (v : Video) (s : SpawnState) (c : CpuState) : SpawnState × Option Column :=
  if Scanning v c then spawnScan v s c else (s, none)

/-- The loader is handed the record: a column is stored, not the value no screen has. -/
def offered (v : Video) (s : SpawnState) (c : CpuState) : Bool :=
  match (smwRendererGuestHook v s c).2 with
  | some column => column.high ≠ 255
  | none => false

/-! ## One call and one record -/

section Call

variable {v : Video} {s : SpawnState} {c : CpuState} {r : Nat}

theorem SpriteRecord.x_lt (record : SpriteRecord) : record.x / 256 < 32 := by
  have hhigh : (((record.a &&& 2) <<< 3) ||| (record.b &&& 15)).toNat < 2 ^ 5 := by
    have ha : ((record.a &&& 2) <<< 3).toNat < 2 ^ 5 := by
      have : (record.a &&& 2).toNat ≤ 2 := by
        rw [UInt8.toNat_and]
        exact Nat.and_le_right
      rw [UInt8.toNat_shiftLeft, Nat.shiftLeft_eq]
      refine Nat.lt_of_le_of_lt (Nat.mod_le _ _) ?_
      show (record.a &&& 2).toNat * 8 < 32
      omega
    have hb : (record.b &&& 15).toNat < 2 ^ 5 := by
      rw [UInt8.toNat_and]
      exact Nat.lt_of_le_of_lt Nat.and_le_right (by decide)
    rw [UInt8.toNat_or]
    exact Nat.or_lt_two_pow ha hb
  have hlow : (record.b &&& 0xf0).toNat < 256 := UInt8.toNat_lt _
  unfold SpriteRecord.x
  omega

/-- Every column of the level is one the loader acts on. -/
theorem SpriteRecord.high_ne (record : SpriteRecord) : UInt8.ofNat (record.x / 256) ≠ 255 := by
  intro h
  have hx := record.x_lt
  have h := congrArg UInt8.toNat h
  rw [UInt8.toNat_ofNat_of_lt' (Nat.lt_trans hx (by decide))] at h
  have : (255 : UInt8).toNat = 255 := rfl
  omega

/-- The marks behind `settle`. -/
theorem mark_settle (hr : r < 128) : (settle s c).mark r =
    if s.list ≠ spriteList c then 0 else if s.pending.toNat = r ∧ loadFlag c r ≠ 0 then 1
      else s.mark r := by
  unfold settle
  dsimp only
  by_cases hlist : s.list ≠ spriteList c
  · rw [if_pos hlist, if_pos hlist]
    split
    · rename_i h
      have hpending : (255 : UInt8).toNat < 128 := h.1
      exact absurd hpending (by decide)
    · exact mark_resetSpawns
  · rw [if_neg hlist, if_neg hlist]
    by_cases hpending : s.pending.toNat = r
    · rw [hpending]
      by_cases hflag : loadFlag c r ≠ 0
      · rw [if_pos ⟨hr, hflag⟩, if_pos ⟨rfl, hflag⟩, mark_setMark hr]
      · rw [if_neg (fun h => hflag h.2), if_neg (fun h => hflag h.2), mark_pending]
    · have hother : ¬ (s.pending.toNat = r ∧ loadFlag c r ≠ 0) := fun h => hpending h.1
      rw [if_neg hother]
      split
      · rw [mark_setMark_ne hpending, mark_pending]
      · rw [mark_pending]

/-- A record whose flag is clear is not consumed by `settle`. -/
theorem settle_fresh (hr : r < 128) (hmark : s.mark r = 0) (hflag : loadFlag c r = 0) :
    (settle s c).mark r = 0 := by
  rw [mark_settle hr]
  simp [hmark, hflag]

theorem guestHook_idle (h : ¬ Scanning v c) : (smwRendererGuestHook v s c).1 = s := by
  unfold smwRendererGuestHook
  rw [if_neg h]

/-- The state behind a scanning call. -/
theorem guestHook_state (h : Scanning v c) : (smwRendererGuestHook v s c).1 =
    if (currentRecord c).a = 255 then settle s c else (visible v (settle s c) c).1 := by
  unfold smwRendererGuestHook spawnScan
  rw [if_pos h]
  dsimp only
  split <;> rfl

theorem offered_iff : offered v s c = true ↔
    Scanning v c ∧ (currentRecord c).a ≠ 255 ∧ (visible v (settle s c) c).2 = true := by
  unfold offered smwRendererGuestHook spawnScan
  by_cases hscan : Scanning v c
  · rw [if_pos hscan]
    by_cases hend : (currentRecord c).a = 255
    · simp [hend]
    · cases hvisible : (visible v (settle s c) c).2 with
      | false => simp [hscan, hend, hvisible]
      | true => simp [hscan, hend, hvisible, (currentRecord c).high_ne]
  · simp [hscan]

/-- The scan of an ordinary record is the guard's. -/
theorem visible_ordinary (hr : c.X.toNat < 128) (hid : ¬ (currentRecord c).Scenic) :
    visible v s c = consider v s c := by
  unfold visible
  rw [if_neg hid, if_pos hr]

/-- The marks of the other records stay. -/
theorem mark_consider_ne (h : c.X.toNat ≠ r) : (consider v s c).1.mark r = s.mark r := by
  have hset : ∀ (t : SpawnState) (m : UInt8), (t.setMark c.X.toNat m).mark r = t.mark r :=
    fun _ _ => mark_setMark_ne h
  unfold consider
  dsimp only
  split
  · exact hset s 0
  · split <;> split <;> (try split) <;> simp only [mark_pending, hset]

theorem mark_visible_ne (h : c.X.toNat ≠ r) : (visible v s c).1.mark r = s.mark r := by
  unfold visible
  split
  · rfl
  · split
    · exact mark_consider_ne h
    · rfl

/-- A consumed record inside the region stays consumed, and is not handed over. -/
theorem consider_consumed (hr : c.X.toNat < 128) (hin : InRegion v c)
    (h : loadFlag c c.X.toNat ≠ 0 ∨ s.mark c.X.toNat ≠ 0) :
    (consider v s c).1.mark c.X.toNat ≠ 0 ∧ (consider v s c).2 = false := by
  unfold consider
  dsimp only
  rw [if_neg (not_not_intro hin)]
  by_cases hflag : loadFlag c c.X.toNat ≠ 0
  · have hone : (s.setMark c.X.toNat 1).mark c.X.toNat ≠ 0 := by
      rw [mark_setMark hr]
      decide
    rw [if_pos hflag, if_pos hone, if_neg (fun h => hflag h.1)]
    exact ⟨hone, rfl⟩
  · have hmark := h.resolve_left hflag
    rw [if_neg hflag, if_pos hmark]
    refine ⟨?_, rfl⟩
    dsimp only
    split
    · rw [mark_setMark hr]
      decide
    · exact hmark

/-- An unconsumed record inside the region is handed over when its pool has a slot. -/
theorem consider_fresh (hin : InRegion v c) (hflag : loadFlag c c.X.toNat = 0)
    (hmark : s.mark c.X.toNat = 0) :
    consider v s c = if placementHasSlot c (currentRecord c).id (currentRecord c).x
      then ({ s with pending := UInt8.ofNat c.X.toNat }, true) else (s, false) := by
  unfold consider
  dsimp only
  rw [if_neg (not_not_intro hin), if_neg (not_not_intro hflag), if_neg (not_not_intro hmark)]
  cases placementHasSlot c (currentRecord c).id (currentRecord c).x <;> rfl

theorem consider_outside (hin : ¬ InRegion v c) :
    consider v s c = (s.setMark c.X.toNat 0, false) := by
  unfold consider
  dsimp only
  rw [if_pos hin]

end Call

end SmwRecomp.Renderer
