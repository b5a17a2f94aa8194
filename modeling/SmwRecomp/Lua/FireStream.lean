import Mathlib.Data.Bool.Count
import Mathlib.Data.List.FinRange
import SmwRecomp.Coop.Guest
import SmwRecomp.Lib.Run

/-!
# The projectile stream of the Lua playground

`src/src/lua_fire_stream.c`: `reset`, the command that sets the rate, and `smw_fire_stream_tick`
with `spawn`, `update`, the bus of the interpreted code and the merge into the live RAM.

* `Native` — what the interpreter does with a projectile: any sequence of reads and writes of its
  bus, and how it ends.
* `Housed` — every throw of a tick occupies the first free slot or finds all of them occupied, and
  the tick runs exactly the projectiles that are in flight behind its throws.
* `Progress` — a rate `r` asks for `n * r / 60` projectiles in `n` ticks; each takes a slot or is
  dropped.
* `Isolated`, `Withheld` — what a tick may change in the live RAM, and what one with a fault may.
* `fire_stream` — all of it, in every run after a reset.

Counters are numbers modulo their width. The live RAM is set before the first tick.
-/

set_option autoImplicit false

namespace SmwRecomp.Lua

open SmwRecomp.Coop (Ram)

def poolSize : Nat := 256
def wramSize : Nat := 0x20000
def fieldCount : Nat := 12

abbrev Slot := Fin poolSize

def fields : List Nat :=
  [0x170b, 0x1715, 0x171f, 0x1729, 0x1733, 0x173d, 0x1747, 0x1751, 0x175b, 0x1765, 0x176f, 0x1779]

structure Projectile where
  field : Nat → UInt8
  tile : UInt8
  attr : UInt8
  size : UInt8
  sx : UInt8
  sy : UInt8
  drawn : Bool
  age : Nat

/-- `memset(p, 0, sizeof(*p))`. -/
def Projectile.zero : Projectile := ⟨fun _ => 0, 0, 0, 0, 0, 0, false, 0⟩

/-- The static state, with the RAM that `live` points to. -/
structure FireStream where
  pool : Slot → Projectile
  shadow : Ram
  dirty : Nat → Bool
  live : Ram
  rate : Nat
  credit : Nat
  peak : Nat
  active : Nat
  ticks : Nat
  spawned : Nat
  dropped : Nat
  collisions : Nat
  opcodes : Nat
  failed : Bool
  error : Option (String × Nat)

/-- The ROM that the bus reads. -/
structure Cart where
  bytes : Nat → UInt8
  size : Nat

/-! ## The bus -/

def fault (s : FireStream) (operation : String) (address : Nat) : FireStream :=
  { s with error := if s.failed then s.error else some (operation, address), failed := true }

def ramAddress (a : UInt32) : Option Nat :=
  if a ≥ 0x7e0000 ∧ a ≤ 0x7fffff then some (a - 0x7e0000).toNat
  else if (a &&& 0x7f0000) < 0x400000 ∧ (a &&& 0xffff) < 0x2000 then some (a &&& 0x1fff).toNat
  else none

def readBus (cart : Cart) (s : FireStream) (address : UInt32) : UInt8 × FireStream :=
  match ramAddress address with
  | some a => (s.shadow a, s)
  | none =>
    let offset := (((address &&& 0x7f0000) >>> 1) ||| (address &&& 0x7fff)).toNat
    if (address &&& 0xffff) ≥ 0x8000 ∧ offset < cart.size then (cart.bytes offset, s)
    else (0, fault s "read" address.toNat)

def writeBus (s : FireStream) (address : UInt32) (value : UInt8) : FireStream :=
  match ramAddress address with
  | none => fault s "write" address.toNat
  | some a => { s with shadow := s.shadow.put a value, dirty := Function.update s.dirty a true }

/-- Normal sprite state, score sprites, player score, and sound requests. -/
def persistent (a : Nat) : Bool :=
  (a ≥ 0x9e && a ≤ 0xef) || (a ≥ 0x14c8 && a < 0x1692) || (a ≥ 0x16e1 && a < 0x170b) ||
    (a ≥ 0x187b && a < 0x1887) ||
    (a ≥ 0x190f && a < 0x191b) || (a ≥ 0x1fd6 && a < 0x1fee) || (a ≥ 0x0f34 && a < 0x0f3a) ||
      (a ≥ 0x1df9 && a ≤ 0x1dfc)

inductive BusAccess where
  | read (address : UInt32)
  | write (address : UInt32) (value : UInt8)

/-- How the loop over the instructions ends: at the balanced return, or at a fault on top of the
bus's own. -/
inductive Ending where
  | returned
  | waiting (pc : Nat)
  | limit (pc : Nat)

/-- What the interpreter does with one projectile. -/
structure Native where
  accesses : List BusAccess
  instructions : Nat
  ending : Ending

def access (cart : Cart) (s : FireStream) : BusAccess → FireStream
  | .read address => (readBus cart s address).2
  | .write address value => writeBus s address value

def execute (cart : Cart) (native : Native) (s : FireStream) : FireStream :=
  let s := native.accesses.foldl (access cart) s
  let s := { s with opcodes := (s.opcodes + (native.instructions + 1)) % 2 ^ 64 }
  match native.ending with
  | .returned => s
  | .waiting pc => fault s "wait/stop" pc
  | .limit pc => fault s "instruction limit" pc

/-! ## Ticks -/

/-- `reset`; the live RAM, and what the private memory held, stay. -/
def reset (s : FireStream) : FireStream :=
  { s with
    pool := fun _ => .zero
    rate := 0
    credit := 0
    peak := 0
    active := 0
    ticks := 0
    spawned := 0
    dropped := 0
    collisions := 0
    opcodes := 0
    failed := false
    error := none }

/-- The command `fire_stream` with a number: refused out of range and after a fault. -/
def setRate (s : FireStream) (requested : Int) : FireStream :=
  if requested < 0 ∨ requested > 1000 ∨ s.failed then s
    else { s with rate := requested.toNat, credit := 0 }

def freeSlot (pool : Slot → Projectile) : Option Slot := (List.finRange poolSize).find? fun i =>
    (pool i).field 0 = 0

/-- The projectile that leaves the player's hand. -/
def thrown (live : Ram) (subframe count : Nat) : Projectile :=
  let right := live 0x76 ≠ 0
  let offset : Int := (subframe * 3 / count : Nat)
  let x := ((live.read16 0x94 + (if right then 8 + offset else -offset)) % 65536).toNat
  let y := (live.read16 0x96 + 8) % 65536
  let field : List UInt8 :=
    [5, UInt8.ofNat y, UInt8.ofNat x, UInt8.ofNat (y / 256), UInt8.ofNat (x / 256), 0x30,
      if right then 3 else 0xfd, 0, 0, 0, 0, live 0x13f9]
  { Projectile.zero with field := fun j => field.getD j 0 }

def spawn (count : Nat) (s : FireStream) (subframe : Nat) : FireStream :=
  match freeSlot s.pool with
  | some i =>
    { s with
      pool := Function.update s.pool i (thrown s.live subframe count)
      spawned := (s.spawned + 1) % 2 ^ 64 }
  | none => { s with dropped := (s.dropped + 1) % 2 ^ 64 }

/-- The player's power and pose of a throw, and its sound. -/
def throwPose (s : FireStream) : FireStream :=
  let live := (s.live.put 0x19 3).put 0x149c 10
  { s with live := if s.ticks % 6 = 0 then live.put 0x1dfc 6 else live }

/-- The throws of a tick: the whole part of the credit. -/
def throwProjectiles (s : FireStream) : FireStream :=
  let credit := s.credit + s.rate
  let count := credit / 60
  let s := { s with credit := credit % 60 }
  let s := (List.range count).foldl (spawn count) s
  if count ≠ 0 then throwPose s else s

/-- What `update` stores before the code runs. -/
def prepare (i : Slot) (s : FireStream) : FireStream :=
  let stored := (List.range fieldCount).foldl
    (fun shadow j => shadow.put (fields.getD j 0 + 9) ((s.pool i).field j)) s.shadow
  let stored := (stored.put 0x15e9 9).put 0x13 (s.live 0x13 + UInt8.ofNat i)
  { s with shadow := ((stored.put 0x02fd 0xf0).put 0x1fe 0xff).put 0x1ff 0x7f }

/-- What `update` reads back. -/
def collect (i : Slot) (s : FireStream) : FireStream :=
  let old := s.pool i
  let field (j : Nat) : UInt8 := if j < fieldCount then s.shadow (fields.getD j 0 + 9) else 0
  let expired := old.age + 1 > 600
  let p : Projectile :=
    { field := fun j => if expired ∧ j = 0 then 0 else field j
      tile := s.shadow 0x02fe
      attr := s.shadow 0x02ff
      size := s.shadow 0x045f
      sx := s.shadow 0x02fc
      sy := s.shadow 0x02fd
      drawn := decide (field 0 ≠ 0 ∧ s.shadow 0x02fd < 0xf0 ∧ ¬ expired)
      age := old.age + 1 }
  { s with pool := Function.update s.pool i p }

def update (cart : Cart) (native : Native) (s : FireStream) (i : Slot) : FireStream :=
  collect i (execute cart native (prepare i s))

/-- One turn of the loop over the pool; after a fault it is over. -/
def updateSlot (cart : Cart) (native : Slot → Native) (s : FireStream) (i : Slot) : FireStream :=
  if s.failed then s
  else if (s.pool i).field 0 = 0 then s
  else
    let s := update cart (native i) s i
    if s.failed then s
    else if (s.pool i).field 0 ≠ 0 then { s with active := s.active + 1 }
    else s

def merged (s : FireStream) (a : Nat) : Bool := a < wramSize && s.dirty a && persistent a

/-- The consequences that last. -/
def merge (s : FireStream) : FireStream :=
  let hits := (List.range wramSize).countP fun a =>
    merged s a && (a ≥ 0x9e && a < 0xaa && s.live a != 0x21 && s.shadow a == 0x21)
  { s with
    collisions := (s.collisions + hits) % 2 ^ 64
    live := fun a => if merged s a then s.shadow a else s.live a
    peak := max s.peak s.active }

/-- What a tick meets: the RAM as the game left it, and what the code of each projectile does. -/
structure Tick where
  ram : Ram
  native : Slot → Native

/-- Whether a tick throws: a rate is set and the player is in ordinary state. -/
def throwing (s : FireStream) (ram : Ram) : Bool := s.rate ≠ 0 && ram 0x71 = 0

/-- A tick up to the updates: the throws, and a private copy of the RAM. -/
def throwPhase (s : FireStream) : FireStream :=
  let s := { s with ticks := (s.ticks + 1) % 2 ^ 32 }
  let s := if throwing s s.live then throwProjectiles s else s
  { s with shadow := s.live, dirty := fun _ => false, active := 0 }

def updatePhase (cart : Cart) (native : Slot → Native) (s : FireStream) : FireStream :=
  (List.finRange poolSize).foldl (updateSlot cart native) s

/-- `smw_fire_stream_tick`. -/
def fireTick (cart : Cart) (s : FireStream) (t : Tick) : FireStream :=
  let s := { s with live := t.ram }
  if s.failed then s
  else if s.live 0x100 ≠ 0x14 ∨ s.live 0x109 ≠ 0
    then { s with pool := fun _ => .zero, active := 0, credit := 0 }
  else if s.live 0x9d ≠ 0 ∨ s.live 0x13d4 ≠ 0 then s
  else if s.rate = 0 ∧ s.active = 0 then s
  else
    let s := updatePhase cart t.native (throwPhase s)
    if s.failed then { s with rate := 0 } else merge s

/-! ## What a run is asked for -/

/-- Level mode, not paused, the player in ordinary state. -/
def Ordinary (ram : Ram) : Prop := ram 0x100 = 0x14 ∧ ram 0x109 = 0 ∧ ram 0x9d = 0 ∧
    ram 0x13d4 = 0 ∧ ram 0x71 = 0

def throwCount (s : FireStream) : Nat := (s.credit + s.rate) / 60

/-- The state in which a tick begins to throw. -/
def throwStart (s : FireStream) (t : Tick) : FireStream :=
  { s with live := t.ram, ticks := (s.ticks + 1) % 2 ^ 32, credit := (s.credit + s.rate) % 60 }

/-- A throw: the state before it, its subframe, and the state it leaves. -/
abbrev Throw := FireStream × Nat × FireStream

/-- The throws of a tick, one after the other. -/
def tickThrows (s : FireStream) (t : Tick) : List Throw :=
  if s.failed = false ∧ t.ram 0x100 = 0x14 ∧ t.ram 0x109 = 0 ∧ t.ram 0x9d = 0 ∧ t.ram 0x13d4 = 0 ∧
      throwing s t.ram = true then
    traceOf (spawn (throwCount s)) (throwStart s t) (List.range (throwCount s))
  else []

/-- The slots with a projectile in flight. -/
def liveCount (s : FireStream) : Nat :=
  (List.finRange poolSize).countP fun i => (s.pool i).field 0 ≠ 0

/-- The throw occupies the first free slot with the projectile that leaves the hand. -/
def Placed (ram : Ram) (count : Nat) (y : Throw) : Prop :=
  ∃ i : Slot, (y.1.pool i).field 0 = 0 ∧ (∀ j < i, (y.1.pool j).field 0 ≠ 0) ∧
    y.2.2.pool = Function.update y.1.pool i (thrown ram y.2.1 count)

/-- The throw finds every slot occupied, and leaves them. -/
def Lost (y : Throw) : Prop := (∀ i, (y.1.pool i).field 0 ≠ 0) ∧ y.2.2.pool = y.1.pool

/-- The throw leaves one more projectile in flight. -/
def gained (y : Throw) : Bool := decide (liveCount y.2.2 = liveCount y.1 + 1)

abbrev FireStep := FireStream × Tick × FireStream

/-- For each throw of a run whether there is one more projectile behind it. -/
def throwLog (steps : List FireStep) : List Bool :=
  steps.flatMap fun x => (tickThrows x.1 x.2.1).map gained

/-- The pool behind the throws of a tick. -/
def thrownPool (x : FireStep) : Slot → Projectile :=
  (((tickThrows x.1 x.2.1).getLast?.map fun y => y.2.2).getD x.1).pool

/-- Every throw is placed or lost; a slot that is free behind the throws stays so, and without a
fault each projectile in flight is run once. -/
structure Housed (x : FireStep) : Prop where
  throws : ∀ y ∈ tickThrows x.1 x.2.1, Placed x.2.1.ram (throwCount x.1) y ∨ Lost y
  free : ∀ i, (thrownPool x i).field 0 = 0 → x.2.2.pool i = thrownPool x i
  run : x.2.2.failed = false → ∀ i, (thrownPool x i).field 0 ≠ 0 →
    (x.2.2.pool i).age = (thrownPool x i).age + 1

/-- The bytes that a tick with a throw sets itself. -/
def ThrowByte (s : FireStream) (a : Nat) (value : UInt8) : Prop :=
  throwCount s ≠ 0 ∧ ((a = 0x19 ∧ value = 3) ∨ (a = 0x149c ∧ value = 10) ∨ (a = 0x1dfc ∧ value = 6))

/-- A tick changes only what lasts, and the bytes of a throw. -/
def Isolated (x : FireStep) : Prop :=
  ∀ a, x.2.2.live a ≠ x.2.1.ram a → persistent a = true ∨ ThrowByte x.1 a (x.2.2.live a)

/-- A tick in which the code of a projectile faults changes only the bytes of a throw. -/
def Withheld (x : FireStep) : Prop :=
  x.1.failed = false → x.2.2.failed = true → ∀ a, x.2.2.live a ≠ x.2.1.ram a →
    ThrowByte x.1 a (x.2.2.live a)

/-! ## Updates -/

/-- What the private execution leaves alone. -/
structure SameGame (s t : FireStream) : Prop where
  live : t.live = s.live
  rate : t.rate = s.rate
  credit : t.credit = s.credit
  spawned : t.spawned = s.spawned
  dropped : t.dropped = s.dropped

theorem SameGame.refl (s : FireStream) : SameGame s s := ⟨rfl, rfl, rfl, rfl, rfl⟩

theorem SameGame.trans {s t u : FireStream} (h : SameGame s t) (h' : SameGame t u) : SameGame s u :=
  ⟨h'.live.trans h.live, h'.rate.trans h.rate, h'.credit.trans h.credit, h'.spawned.trans h.spawned,
    h'.dropped.trans h.dropped⟩

/-- The game and the pool are left alone. -/
structure Private (s t : FireStream) : Prop extends SameGame s t where
  pool : t.pool = s.pool
  active : t.active = s.active

theorem Private.refl (s : FireStream) : Private s s := ⟨.refl s, rfl, rfl⟩

theorem Private.trans {s t u : FireStream} (h : Private s t) (h' : Private t u) : Private s u :=
  ⟨h.toSameGame.trans h'.toSameGame, h'.pool.trans h.pool, h'.active.trans h.active⟩

theorem private_fault (s : FireStream) (operation : String) (address : Nat) :
    Private s (fault s operation address) :=
  ⟨⟨rfl, rfl, rfl, rfl, rfl⟩, rfl, rfl⟩

theorem readBus_private (cart : Cart) (s : FireStream) (address : UInt32) :
    Private s (readBus cart s address).2 := by
  unfold readBus
  cases ramAddress address with
  | some a => exact .refl s
  | none =>
      dsimp only
      split
      · exact .refl s
      · exact private_fault s _ _

theorem writeBus_private (s : FireStream) (address : UInt32) (value : UInt8) :
    Private s (writeBus s address value) := by
  unfold writeBus
  cases ramAddress address with
  | some a => exact ⟨⟨rfl, rfl, rfl, rfl, rfl⟩, rfl, rfl⟩
  | none => exact private_fault s _ _

theorem access_private (cart : Cart) (s : FireStream) (x : BusAccess) :
    Private s (access cart s x) := by
  cases x with
  | read address => exact readBus_private cart s address
  | write address value => exact writeBus_private s address value

theorem execute_private (cart : Cart) (native : Native) (s : FireStream) :
    Private s (execute cart native s) := by
  have haccesses : ∀ (accesses : List BusAccess) (s : FireStream),
    Private s (accesses.foldl (access cart) s) := by
    intro accesses
    induction accesses with
    | nil => exact .refl
    | cons x accesses ih => exact fun s => (access_private cart s x).trans (ih _)
  have hran : Private s { native.accesses.foldl (access cart) s with
      opcodes :=
        ((native.accesses.foldl (access cart) s).opcodes + (native.instructions + 1)) % 2 ^ 64 } :=
    (haccesses native.accesses s).trans ⟨⟨rfl, rfl, rfl, rfl, rfl⟩, rfl, rfl⟩
  unfold execute
  dsimp only
  cases native.ending with
  | returned => exact hran
  | waiting pc => exact hran.trans (private_fault _ _ _)
  | limit pc => exact hran.trans (private_fault _ _ _)

theorem update_spec (cart : Cart) (native : Native) (s : FireStream) (i : Slot) :
    SameGame s (update cart native s i) ∧
    (∀ j, j ≠ i → (update cart native s i).pool j = s.pool j) ∧
      (update cart native s i).active = s.active := by
  have hprepared : Private s (prepare i s) := ⟨⟨rfl, rfl, rfl, rfl, rfl⟩, rfl, rfl⟩
  have hran := hprepared.trans (execute_private cart native (prepare i s))
  refine ⟨hran.toSameGame.trans ⟨rfl, rfl, rfl, rfl, rfl⟩, fun j hj => ?_, hran.active⟩
  exact (Function.update_of_ne hj _ _).trans (congrFun hran.pool j)

theorem update_age (cart : Cart) (native : Native) (s : FireStream) (i : Slot) :
    ((update cart native s i).pool i).age = (s.pool i).age + 1 := by
  have hprepared : Private s (prepare i s) := ⟨⟨rfl, rfl, rfl, rfl, rfl⟩, rfl, rfl⟩
  have hran := hprepared.trans (execute_private cart native (prepare i s))
  unfold update collect
  dsimp only
  rw [Function.update_self]
  exact congrArg (fun p : Projectile => p.age + 1) (congrFun hran.pool i)

theorem updateSlot_game (cart : Cart) (native : Slot → Native) (s : FireStream) (i : Slot) :
    SameGame s (updateSlot cart native s i) := by
  obtain ⟨hgame, -, -⟩ := update_spec cart (native i) s i
  unfold updateSlot
  split
  · exact .refl s
  · split
    · exact .refl s
    · dsimp only
      split
      · exact hgame
      · split
        · exact hgame.trans ⟨rfl, rfl, rfl, rfl, rfl⟩
        · exact hgame

theorem updatePhase_game (cart : Cart) (native : Slot → Native) (s : FireStream) :
    SameGame s (updatePhase cart native s) := by
  unfold updatePhase
  generalize List.finRange poolSize = slots
  induction slots generalizing s with
  | nil => exact .refl s
  | cons i slots ih => exact (updateSlot_game cart native s i).trans (ih _)

theorem updateSlot_failed {cart : Cart} {native : Slot → Native} {s : FireStream} {i : Slot}
    (h : s.failed = true) :
    updateSlot cart native s i = s := if_pos h

/-- After a fault the loop does nothing. -/
theorem updateSlots_failed {cart : Cart} {native : Slot → Native} (slots : List Slot)
    {s : FireStream}
    (h : s.failed = true) : slots.foldl (updateSlot cart native) s = s := by
  induction slots with
  | nil => rfl
  | cons i slots ih => rw [List.foldl_cons, updateSlot_failed h, ih]

/-- A turn without a fault counts its slot if it is live, and leaves the others. -/
theorem updateSlot_active {cart : Cart} {native : Slot → Native} {s : FireStream} {i : Slot}
    (h : (updateSlot cart native s i).failed = false) :
    (updateSlot cart native s i).active =
        s.active + (if ((updateSlot cart native s i).pool i).field 0 ≠ 0 then 1 else 0) ∧
      ∀ j, j ≠ i → (updateSlot cart native s i).pool j = s.pool j := by
  obtain ⟨-, hpool, hactive⟩ := update_spec cart (native i) s i
  unfold updateSlot at h ⊢
  by_cases hfailed : s.failed = true
  · rw [if_pos hfailed] at h
    rw [hfailed] at h
    cases h
  · rw [if_neg hfailed] at h ⊢
    by_cases hfree : (s.pool i).field 0 = 0
    · rw [if_pos hfree] at h ⊢
      rw [if_neg (not_not_intro hfree)]
      exact ⟨rfl, fun _ _ => rfl⟩
    · rw [if_neg hfree] at h ⊢
      dsimp only at h ⊢
      by_cases hfault : (update cart (native i) s i).failed = true
      · rw [if_pos hfault, hfault] at h
        cases h
      · rw [if_neg hfault] at h ⊢
        by_cases hlive : ((update cart (native i) s i).pool i).field 0 ≠ 0
        · rw [if_pos hlive]
          refine ⟨?_, hpool⟩
          rw [if_pos hlive, hactive]
        · rw [if_neg hlive, if_neg hlive, hactive]
          exact ⟨rfl, hpool⟩

/-- A turn leaves the other slots and a free one; without a fault it runs a projectile once. -/
theorem updateSlot_pool (cart : Cart) (native : Slot → Native) (s : FireStream) (i : Slot) :
    (∀ j, j ≠ i ∨ (s.pool j).field 0 = 0 → (updateSlot cart native s i).pool j = s.pool j) ∧
      ((updateSlot cart native s i).failed = false → (s.pool i).field 0 ≠ 0 →
        ((updateSlot cart native s i).pool i).age = (s.pool i).age + 1) := by
  obtain ⟨-, hpool, -⟩ := update_spec cart (native i) s i
  have hage := update_age cart (native i) s i
  unfold updateSlot
  by_cases hfailed : s.failed = true
  · rw [if_pos hfailed]
    refine ⟨fun _ _ => rfl, fun hfinal => ?_⟩
    rw [hfailed] at hfinal
    cases hfinal
  · rw [if_neg hfailed]
    by_cases hfree : (s.pool i).field 0 = 0
    · rw [if_pos hfree]
      exact ⟨fun _ _ => rfl, fun _ hlive => absurd hfree hlive⟩
    · rw [if_neg hfree]
      have hother : ∀ j, j ≠ i ∨ (s.pool j).field 0 = 0 → (update cart (native i) s i).pool j =
        s.pool j := by
        rintro j (hj | hj)
        · exact hpool j hj
        · exact hpool j fun heq => hfree (heq ▸ hj)
      dsimp only
      split
      · exact ⟨hother, fun _ _ => hage⟩
      · split
        · exact ⟨hother, fun _ _ => hage⟩
        · exact ⟨hother, fun _ _ => hage⟩

/-- The loop leaves the slots that are free when it begins. -/
theorem updateSlots_free (cart : Cart) (native : Slot → Native) {i : Slot} (slots : List Slot) :
    ∀ s : FireStream, (s.pool i).field 0 = 0 → (slots.foldl (updateSlot cart native) s).pool i =
      s.pool i := by
  induction slots with
  | nil => exact fun _ _ => rfl
  | cons j slots ih =>
      intro s hfree
      have hstep := (updateSlot_pool cart native s j).1 i (.inr hfree)
      rw [List.foldl_cons, ih _ (by rw [hstep]; exact hfree), hstep]

/-- Without a fault the loop runs each projectile in flight once. -/
theorem updateSlots_age (cart : Cart) (native : Slot → Native) {i : Slot} (slots : List Slot)
    (hnodup : slots.Nodup) :
    ∀ s : FireStream, (slots.foldl (updateSlot cart native) s).failed = false →
    (s.pool i).field 0 ≠ 0 →
      (i ∈ slots → ((slots.foldl (updateSlot cart native) s).pool i).age = (s.pool i).age + 1) ∧
        (i ∉ slots → (slots.foldl (updateSlot cart native) s).pool i = s.pool i) := by
  induction slots with
  | nil => exact fun _ _ _ => ⟨fun hi => absurd hi List.not_mem_nil, fun _ => rfl⟩
  | cons j slots ih =>
      intro s hfinal hlive
      obtain ⟨hfresh, hslots⟩ := List.nodup_cons.1 hnodup
      obtain ⟨hother, hage⟩ := updateSlot_pool cart native s j
      rw [List.foldl_cons] at hfinal ⊢
      have hstep : (updateSlot cart native s j).failed = false := by
        rw [← Bool.not_eq_true]
        intro hfault
        rw [updateSlots_failed slots hfault, hfault] at hfinal
        cases hfinal
      by_cases hij : i = j
      · subst hij
        have hrest : (slots.foldl (updateSlot cart native) (updateSlot cart native s i)).pool i =
            (updateSlot cart native s i).pool i := by
          by_cases hfree : ((updateSlot cart native s i).pool i).field 0 = 0
          · exact updateSlots_free cart native slots _ hfree
          · exact (ih hslots _ hfinal hfree).2 hfresh
        refine ⟨fun _ => ?_, fun hi => absurd List.mem_cons_self hi⟩
        rw [hrest]
        exact hage hstep hlive
      · have hsame := hother i (.inl hij)
        have hrest := ih hslots (updateSlot cart native s j) hfinal (by rw [hsame]; exact hlive)
        rw [hsame] at hrest
        refine ⟨fun hi => hrest.1 ((List.mem_cons.1 hi).resolve_left hij),
          fun hi => hrest.2 fun hmem => ?_⟩
        exact hi (List.mem_cons_of_mem j hmem)

/-- Without a fault the loop counts the live projectiles. -/
theorem updatePhase_active {cart : Cart} {native : Slot → Native} {s : FireStream}
    (h : (updatePhase cart native s).failed = false) (hstart : s.active = 0) :
    (updatePhase cart native s).active = liveCount (updatePhase cart native s) := by
  have hslots : ∀ (slots : List Slot), slots.Nodup → ∀ s : FireStream,
      (slots.foldl (updateSlot cart native) s).failed = false →
        (slots.foldl (updateSlot cart native) s).active =
            s.active + slots.countP
              (fun i => ((slots.foldl (updateSlot cart native) s).pool i).field 0 ≠ 0) ∧
          ∀ j, j ∉ slots → (slots.foldl (updateSlot cart native) s).pool j = s.pool j := by
    intro slots
    induction slots with
    | nil => exact fun _ s _ => ⟨rfl, fun _ _ => rfl⟩
    | cons i slots ih =>
        intro hnodup s hfinal
        obtain ⟨hfresh, hnodup⟩ := List.nodup_cons.1 hnodup
        rw [List.foldl_cons] at hfinal ⊢
        obtain ⟨hactive, hpool⟩ := ih hnodup _ hfinal
        have hstep : (updateSlot cart native s i).failed = false := by
          rw [← Bool.not_eq_true]
          intro hfault
          rw [updateSlots_failed slots hfault, hfault] at hfinal
          cases hfinal
        obtain ⟨hactive', hpool'⟩ := updateSlot_active hstep
        refine ⟨?_, fun j hj => ?_⟩
        · rw [hactive, hactive', List.countP_cons, hpool i hfresh]
          simp only [decide_eq_true_eq]
          omega
        · rw [List.mem_cons, not_or] at hj
          rw [hpool j hj.2, hpool' j hj.1]
  unfold liveCount
  unfold updatePhase at h ⊢
  obtain ⟨hactive, -⟩ := hslots (List.finRange poolSize) (List.nodup_finRange poolSize) s h
  rw [hactive, hstart, Nat.zero_add]

/-! ## Throws -/

theorem thrown_occupied (ram : Ram) (subframe count : Nat) :
    (thrown ram subframe count).field 0 ≠ 0 := by
  have hfive : (thrown ram subframe count).field 0 = 5 := rfl
  rw [hfive]
  decide

theorem freeSlot_some {pool : Slot → Projectile} {i : Slot} (h : freeSlot pool = some i) :
    (pool i).field 0 = 0 ∧ ∀ j < i, (pool j).field 0 ≠ 0 := by
  unfold freeSlot at h
  obtain ⟨hfree, k, hk, hget, hbefore⟩ := List.find?_eq_some_iff_getElem.1 h
  refine ⟨of_decide_eq_true hfree, fun j hj => ?_⟩
  rw [List.getElem_finRange] at hget
  have hjk : j.val < k := by
    have hval : k = i.val := congrArg Fin.val hget
    rw [hval]
    exact hj
  have hskip := hbefore j.val hjk
  rw [List.getElem_finRange] at hskip
  simpa using hskip

theorem freeSlot_none {pool : Slot → Projectile} (h : freeSlot pool = none) (i : Slot) :
    (pool i).field 0 ≠ 0 := by
  have hfull := List.find?_eq_none.1 h i (List.mem_finRange i)
  simpa using hfull

theorem liveCount_congr {s t : FireStream} (h : t.pool = s.pool) : liveCount t = liveCount s := by
  unfold liveCount
  rw [h]

/-- An occupied slot more. -/
theorem liveCount_update {s t : FireStream} {i : Slot} {p : Projectile}
    (hfree : (s.pool i).field 0 = 0)
    (hp : p.field 0 ≠ 0) (h : t.pool = Function.update s.pool i p) :
    liveCount t = liveCount s + 1 := by
  have hperm := List.perm_cons_erase (List.mem_finRange i)
  have hrest : ((List.finRange poolSize).erase i).countP (fun j => (t.pool j).field 0 ≠ 0) =
      ((List.finRange poolSize).erase i).countP fun j => (s.pool j).field 0 ≠ 0 := by
    refine List.countP_congr fun j hj => ?_
    have hne : j ≠ i := (((List.nodup_finRange poolSize).mem_erase_iff).1 hj).1
    rw [h, Function.update_of_ne hne]
  have hnew : (t.pool i).field 0 ≠ 0 := by
    rw [h, Function.update_self]
    exact hp
  unfold liveCount
  rw [hperm.countP_eq, hperm.countP_eq, List.countP_cons_of_pos (by simpa using hnew),
    List.countP_cons_of_neg (by simpa using hfree), hrest]

/-- A throw is placed, or lost. -/
theorem spawn_cases (count : Nat) (s : FireStream) (subframe : Nat) :
    (Placed s.live count (s, subframe, spawn count s subframe) ∧
        liveCount (spawn count s subframe) = liveCount s + 1 ∧
        (spawn count s subframe).spawned = (s.spawned + 1) % 2 ^ 64 ∧
        (spawn count s subframe).dropped = s.dropped) ∨
      (Lost (s, subframe, spawn count s subframe) ∧
        liveCount (spawn count s subframe) = liveCount s ∧
        (spawn count s subframe).spawned = s.spawned ∧
        (spawn count s subframe).dropped = (s.dropped + 1) % 2 ^ 64) := by
  cases hslot : freeSlot s.pool with
  | some i =>
      obtain ⟨hfree, hbefore⟩ := freeSlot_some hslot
      have hspawn : spawn count s subframe =
          { s with
            pool := Function.update s.pool i (thrown s.live subframe count)
            spawned := (s.spawned + 1) % 2 ^ 64 } := by
        unfold spawn
        rw [hslot]
      rw [hspawn]
      exact .inl ⟨⟨i, hfree, hbefore, rfl⟩, liveCount_update hfree (thrown_occupied _ _ _) rfl, rfl,
        rfl⟩
  | none =>
      have hspawn : spawn count s subframe = { s with dropped := (s.dropped + 1) % 2 ^ 64 } := by
        unfold spawn
        rw [hslot]
      rw [hspawn]
      exact .inr ⟨⟨freeSlot_none hslot, rfl⟩, liveCount_congr rfl, rfl, rfl⟩

theorem spawn_live (count : Nat) (s : FireStream) (subframe : Nat) :
    (spawn count s subframe).live = s.live := by
  unfold spawn
  split <;> rfl

/-- Throws change the pool, and the counters by their outcomes. -/
structure Thrown (s t : FireStream) (outcomes : List Bool) : Prop where
  live : t.live = s.live
  rate : t.rate = s.rate
  credit : t.credit = s.credit
  failed : t.failed = s.failed
  ticks : t.ticks = s.ticks
  flying : liveCount t = liveCount s + outcomes.count true
  spawned : ∀ n, s.spawned = n % 2 ^ 64 → t.spawned = (n + outcomes.count true) % 2 ^ 64
  dropped : ∀ n, s.dropped = n % 2 ^ 64 → t.dropped = (n + outcomes.count false) % 2 ^ 64

theorem Thrown.trans {s t u : FireStream} {outcomes outcomes' : List Bool} (h : Thrown s t outcomes)
    (h' : Thrown t u outcomes') : Thrown s u (outcomes ++ outcomes') where
  live := h'.live.trans h.live
  rate := h'.rate.trans h.rate
  credit := h'.credit.trans h.credit
  failed := h'.failed.trans h.failed
  ticks := h'.ticks.trans h.ticks
  flying := by rw [h'.flying, h.flying, List.count_append, Nat.add_assoc]
  spawned n hn := by rw [h'.spawned _ (h.spawned n hn), List.count_append, Nat.add_assoc]
  dropped n hn := by rw [h'.dropped _ (h.dropped n hn), List.count_append, Nat.add_assoc]

theorem spawn_thrown (count : Nat) (s : FireStream) (subframe : Nat) :
    Thrown s (spawn count s subframe) [gained (s, subframe, spawn count s subframe)] := by
  have hkept : (spawn count s subframe).rate = s.rate ∧ (spawn count s subframe).credit = s.credit ∧
      (spawn count s subframe).failed = s.failed ∧ (spawn count s subframe).ticks = s.ticks := by
    unfold spawn
    split <;> exact ⟨rfl, rfl, rfl, rfl⟩
  obtain ⟨hrate, hcredit, hfailed, hticks⟩ := hkept
  rcases spawn_cases count s subframe with ⟨-, hlive, hspawned, hdropped⟩
    | ⟨-, hlive, hspawned, hdropped⟩
  · have hgained : gained (s, subframe, spawn count s subframe) = true := decide_eq_true hlive
    rw [hgained]
    refine ⟨spawn_live _ _ _, hrate, hcredit, hfailed, hticks, hlive, fun n hn => ?_,
      fun n hn => ?_⟩
    · rw [hspawned, hn, Nat.mod_add_mod]
      rfl
    · rw [hdropped, hn]
      rfl
  · have hgained : gained (s, subframe, spawn count s subframe) = false := by
      refine decide_eq_false fun hmore => ?_
      exact absurd (hlive.symm.trans hmore) (Nat.ne_of_lt (Nat.lt_succ_self _))
    rw [hgained]
    refine ⟨spawn_live _ _ _, hrate, hcredit, hfailed, hticks, hlive, fun n hn => ?_,
      fun n hn => ?_⟩
    · rw [hspawned, hn]
      rfl
    · rw [hdropped, hn, Nat.mod_add_mod]
      rfl

theorem spawns_thrown (count : Nat) (subframes : List Nat) : ∀ s : FireStream,
    Thrown s (subframes.foldl (spawn count) s)
      ((traceOf (spawn count) s subframes).map gained) := by
  induction subframes with
  | nil => exact fun s => ⟨rfl, rfl, rfl, rfl, rfl, rfl, fun _ hn => hn, fun _ hn => hn⟩
  | cons subframe subframes ih => exact fun s => (spawn_thrown count s subframe).trans (ih _)

/-- Every throw of a row is placed or lost, in the RAM the row began with. -/
theorem spawns_housed (count : Nat) (subframes : List Nat) (s : FireStream) :
    ∀ y ∈ traceOf (spawn count) s subframes, Placed s.live count y ∨ Lost y := by
  have hrun : Run (fun a k b => spawn count a k = b) s (traceOf (spawn count) s subframes) _ :=
    Run.trace (fun _ _ => rfl) subframes s
  have hlive : ∀ a k b, spawn count a k = b → a.live = s.live → b.live = s.live := by
    rintro a k b rfl ha
    exact (spawn_live count a k).trans ha
  rintro ⟨a, k, b⟩ hy
  obtain ⟨rfl, ha⟩ := hrun.step_mem hlive rfl a k b hy
  rw [← ha]
  exact (spawn_cases count a k).imp And.left And.left

theorem throwPose_live (s : FireStream) {a : Nat} (h : (throwPose s).live a ≠ s.live a) :
    (a = 0x19 ∧ (throwPose s).live a = 3) ∨ (a = 0x149c ∧ (throwPose s).live a = 10) ∨
      (a = 0x1dfc ∧ (throwPose s).live a = 6) := by
  have hposed : ((s.live.put 0x19 3).put 0x149c 10) a ≠ s.live a →
      (a = 0x19 ∧ ((s.live.put 0x19 3).put 0x149c 10) a = 3) ∨
        (a = 0x149c ∧ ((s.live.put 0x19 3).put 0x149c 10) a = 10) := by
    intro h
    unfold Ram.put at h ⊢
    by_cases hpose : a = 0x149c
    · exact .inr ⟨hpose, if_pos hpose⟩
    · by_cases hpower : a = 0x19
      · exact .inl ⟨hpower, by rw [if_neg hpose, if_pos hpower]⟩
      · rw [if_neg hpose, if_neg hpower] at h
        exact absurd rfl h
  unfold throwPose at h ⊢
  dsimp only at h ⊢
  split at h
  case isTrue hsound =>
    rw [if_pos hsound]
    by_cases hsfx : a = 0x1dfc
    · exact .inr (.inr ⟨hsfx, if_pos hsfx⟩)
    · have hkept : (((s.live.put 0x19 3).put 0x149c 10).put 0x1dfc 6) a =
        ((s.live.put 0x19 3).put 0x149c 10) a := if_neg hsfx
      rw [hkept] at h ⊢
      exact (hposed h).imp_right .inl
  case isFalse hsilent =>
    rw [if_neg hsilent]
    exact (hposed h).imp_right .inl

/-- What the throws of a tick do. -/
structure Throws (s : FireStream) (t : Tick) (u : FireStream) (outcomes : List Bool) : Prop where
  rate : u.rate = s.rate
  credit : u.credit = (s.credit + s.rate) % 60
  failed : u.failed = s.failed
  flying : liveCount u = liveCount s + outcomes.count true
  spawned : ∀ n, s.spawned = n % 2 ^ 64 → u.spawned = (n + outcomes.count true) % 2 ^ 64
  dropped : ∀ n, s.dropped = n % 2 ^ 64 → u.dropped = (n + outcomes.count false) % 2 ^ 64
  live : ∀ a, u.live a ≠ t.ram a → ThrowByte s a (u.live a)

theorem throwPhase_throwing {s : FireStream} {t : Tick} (h : throwing s t.ram = true) :
    Throws s t (throwPhase { s with live := t.ram })
        ((traceOf (spawn (throwCount s)) (throwStart s t) (List.range (throwCount s))).map gained) ∧
      (throwPhase { s with live := t.ram }).pool =
        ((List.range (throwCount s)).foldl (spawn (throwCount s)) (throwStart s t)).pool := by
  have hspawns := spawns_thrown (throwCount s) (List.range (throwCount s)) (throwStart s t)
  have hphase : throwPhase { s with live := t.ram } =
      let u := (List.range (throwCount s)).foldl (spawn (throwCount s)) (throwStart s t)
      let u := if throwCount s ≠ 0 then throwPose u else u
      { u with shadow := u.live, dirty := fun _ => false, active := 0 } := by
    have hthrowing : throwing { s with live := t.ram, ticks := (s.ticks + 1) % 2 ^ 32 } t.ram =
      true := h
    unfold throwPhase
    dsimp only
    rw [if_pos hthrowing]
    rfl
  rw [hphase]
  generalize (List.range (throwCount s)).foldl (spawn (throwCount s)) (throwStart s t) =
    u at hspawns
  dsimp only
  have hlive : u.live = t.ram := hspawns.live
  split
  case isTrue hcount =>
    refine ⟨⟨hspawns.rate, hspawns.credit, hspawns.failed, hspawns.flying, hspawns.spawned,
      hspawns.dropped, fun a ha => ⟨hcount, ?_⟩⟩, rfl⟩
    refine throwPose_live u ?_
    rw [hlive]
    exact ha
  case isFalse =>
    refine ⟨⟨hspawns.rate, hspawns.credit, hspawns.failed, hspawns.flying, hspawns.spawned,
      hspawns.dropped, fun a ha => absurd (congrFun hlive a) ha⟩, rfl⟩

theorem throwPhase_idle {s : FireStream} (h : throwing s s.live = false) :
    throwPhase s =
      { s with ticks := (s.ticks + 1) % 2 ^ 32, shadow := s.live, dirty := fun _ => false, active := 0 } := by
  have hidle : ¬ throwing { s with ticks := (s.ticks + 1) % 2 ^ 32 } s.live = true := by
    rw [Bool.not_eq_true]
    exact h
  unfold throwPhase
  dsimp only
  rw [if_neg hidle]

/-! ## Ticks -/

/-- What a tick that throws and updates comes to. -/
def finish (s : FireStream) : FireStream := if s.failed then { s with rate := 0 } else merge s

/-- A tick does nothing to the game, or runs all its phases. -/
theorem fireTick_cases (cart : Cart) (s : FireStream) (t : Tick) :
    ((fireTick cart s t).live = t.ram ∧ (fireTick cart s t).failed = s.failed) ∨
      fireTick cart s t =
        finish (updatePhase cart t.native (throwPhase { s with live := t.ram })) := by
  unfold fireTick
  dsimp only
  split
  · exact .inl ⟨rfl, rfl⟩
  · split
    · exact .inl ⟨rfl, rfl⟩
    · split
      · exact .inl ⟨rfl, rfl⟩
      · split
        · exact .inl ⟨rfl, rfl⟩
        · exact .inr rfl

/-- The RAM before the merge differs by the bytes of a throw. -/
theorem updatePhase_live (cart : Cart) (s : FireStream) (t : Tick) {a : Nat}
    (h : (updatePhase cart t.native (throwPhase { s with live := t.ram })).live a ≠ t.ram a) :
    ThrowByte s a ((updatePhase cart t.native (throwPhase { s with live := t.ram })).live a) := by
  rw [(updatePhase_game cart t.native _).live] at h ⊢
  cases hthrow : throwing { s with live := t.ram } t.ram with
  | true => exact (throwPhase_throwing hthrow).1.live a h
  | false =>
      rw [throwPhase_idle hthrow] at h
      exact absurd rfl h

/-- After a fault nothing is merged, otherwise what lasts. -/
theorem finish_live {s : FireStream} {a : Nat} (h : (finish s).live a ≠ s.live a) :
    s.failed = false ∧ persistent a = true := by
  unfold finish at h
  split at h
  case isTrue => exact absurd rfl h
  case isFalse hfailed =>
    refine ⟨Bool.eq_false_iff.2 hfailed, ?_⟩
    by_cases hmerged : merged s a = true
    · unfold merged at hmerged
      rw [Bool.and_eq_true] at hmerged
      exact hmerged.2
    · exact absurd (if_neg hmerged) h

theorem finish_failed (s : FireStream) : (finish s).failed = s.failed := by
  unfold finish
  split <;> rfl

theorem isolated (cart : Cart) (s : FireStream) (t : Tick) :
    Isolated (s, t, fireTick cart s t) := by
  intro a ha
  rcases fireTick_cases cart s t with ⟨hlive, -⟩ | htick
  · exact absurd (congrFun hlive a) ha
  · have hphases := updatePhase_live cart s t (a := a)
    change (fireTick cart s t).live a ≠ t.ram a at ha
    change _ ∨ ThrowByte s a ((fireTick cart s t).live a)
    rw [htick] at ha ⊢
    generalize updatePhase cart t.native (throwPhase { s with live := t.ram }) = u at ha hphases ⊢
    by_cases hkept : (finish u).live a = u.live a
    · rw [hkept] at ha ⊢
      exact .inr (hphases ha)
    · exact .inl (finish_live hkept).2

theorem withheld (cart : Cart) (s : FireStream) (t : Tick) :
    Withheld (s, t, fireTick cart s t) := by
  intro hstart hfault a ha
  rcases fireTick_cases cart s t with ⟨hlive, -⟩ | htick
  · exact absurd (congrFun hlive a) ha
  · have hphases := updatePhase_live cart s t (a := a)
    change (fireTick cart s t).live a ≠ t.ram a at ha
    change (fireTick cart s t).failed = true at hfault
    change ThrowByte s a ((fireTick cart s t).live a)
    rw [htick] at ha hfault ⊢
    generalize updatePhase cart t.native (throwPhase { s with live := t.ram }) =
      u at ha hphases hfault ⊢
    rw [finish_failed] at hfault
    by_cases hkept : (finish u).live a = u.live a
    · rw [hkept] at ha ⊢
      exact hphases ha
    · rw [(finish_live hkept).1] at hfault
      cases hfault

/-! ## Runs -/

/-- The state of a stream after `n` ticks at a rate, without a fault. -/
structure Progress (r n : Nat) (log : List Bool) (s : FireStream) : Prop where
  rate : s.rate = r
  credit : s.credit = n * r % 60
  asked : log.length = n * r / 60
  spawned : s.spawned = log.count true % 2 ^ 64
  dropped : s.dropped = log.count false % 2 ^ 64
  active : s.active = liveCount s

theorem fireTick_ordinary {cart : Cart} {s : FireStream} {t : Tick} (hs : s.failed = false)
    (ht : Ordinary t.ram) :
    fireTick cart s t =
      if s.rate = 0 ∧ s.active = 0 then { s with live := t.ram }
      else finish (updatePhase cart t.native (throwPhase { s with live := t.ram })) := by
  obtain ⟨hmode, hstage, hlock, hpause, -⟩ := ht
  have hlevel : ¬ (t.ram 0x100 ≠ 0x14 ∨ t.ram 0x109 ≠ 0) := by
    rw [hmode, hstage]
    decide
  have hrunning : ¬ (t.ram 0x9d ≠ 0 ∨ t.ram 0x13d4 ≠ 0) := by
    rw [hlock, hpause]
    decide
  unfold fireTick
  dsimp only
  rw [if_neg (by rw [hs]; exact Bool.false_ne_true), if_neg hlevel, if_neg hrunning]
  rfl

theorem fireTick_failed {cart : Cart} {s : FireStream} {t : Tick}
    (h : (fireTick cart s t).failed = false) :
    s.failed = false := by
  rw [← Bool.not_eq_true]
  intro hs
  have hstopped : fireTick cart s t = { s with live := t.ram } := if_pos hs
  rw [hstopped] at h
  exact absurd (hs.symm.trans h) (by decide)

/-! ## Where a tick puts its projectiles -/

/-- A tick throws when nothing holds it back. -/
theorem tickThrows_of {s : FireStream} {t : Tick} (hs : s.failed = false) (ht : Ordinary t.ram)
    (hthrow : throwing s t.ram = true) :
    tickThrows s t = traceOf (spawn (throwCount s)) (throwStart s t) (List.range (throwCount s)) :=
  if_pos ⟨hs, ht.1, ht.2.1, ht.2.2.1, ht.2.2.2.1, hthrow⟩

theorem tickThrows_idle {s : FireStream} {t : Tick} (h : throwing s t.ram = false) :
    tickThrows s t = [] := if_neg fun hall => by
  rw [h] at hall
  exact absurd hall.2.2.2.2.2 Bool.false_ne_true

theorem tickThrows_failed {s : FireStream} (t : Tick) (h : s.failed = true) :
    tickThrows s t = [] := if_neg fun hall => by
  rw [h] at hall
  exact absurd hall.1.symm Bool.false_ne_true

theorem thrownPool_nil {s : FireStream} {t : Tick} (u : FireStream) (h : tickThrows s t = []) :
    thrownPool (s, t, u) = s.pool := by
  unfold thrownPool
  dsimp only
  rw [h]
  rfl

theorem thrownPool_traced {s : FireStream} {t : Tick} (u : FireStream)
    (h : tickThrows s t = traceOf (spawn (throwCount s)) (throwStart s t)
      (List.range (throwCount s))) :
    thrownPool (s, t, u) =
      ((List.range (throwCount s)).foldl (spawn (throwCount s)) (throwStart s t)).pool := by
  have hlast := traceOf_last (spawn (throwCount s)) (List.range (throwCount s)) (throwStart s t)
  rw [← h] at hlast
  rw [← hlast]
  unfold thrownPool
  dsimp only
  cases (tickThrows s t).getLast? <;> rfl

/-- No throw, or all of a row. -/
theorem tickThrows_cases (s : FireStream) (t : Tick) :
    tickThrows s t = [] ∨
      tickThrows s t = traceOf (spawn (throwCount s)) (throwStart s t)
        (List.range (throwCount s)) := by
  unfold tickThrows
  split
  · exact .inr rfl
  · exact .inl rfl

/-- The projectiles in flight behind the throws. -/
theorem thrownPool_flying (s : FireStream) (t : Tick) (u : FireStream) :
    liveCount { s with pool := thrownPool (s, t, u) } =
      liveCount s + ((tickThrows s t).map gained).count true := by
  rcases tickThrows_cases s t with hnone | htrace
  · rw [thrownPool_nil u hnone, hnone]
    rfl
  · have hspawns := spawns_thrown (throwCount s) (List.range (throwCount s)) (throwStart s t)
    have hbehind : liveCount { s with pool := thrownPool (s, t, u) } =
        liveCount ((List.range (throwCount s)).foldl (spawn (throwCount s)) (throwStart s t)) :=
      liveCount_congr (thrownPool_traced u htrace)
    rw [hbehind, htrace, hspawns.flying]
    rfl

/-- Every throw of a tick is placed, or lost. -/
theorem tickThrows_housed (s : FireStream) (t : Tick) :
    ∀ y ∈ tickThrows s t, Placed t.ram (throwCount s) y ∨ Lost y := by
  rcases tickThrows_cases s t with hnone | htrace
  · rw [hnone]
    exact fun y hy => absurd hy List.not_mem_nil
  · rw [htrace]
    exact spawns_housed (throwCount s) (List.range (throwCount s)) (throwStart s t)

theorem finish_pool (s : FireStream) : (finish s).pool = s.pool := by
  unfold finish
  split <;> rfl

theorem throwPhase_pool {s : FireStream} {t : Tick} (u : FireStream) (hs : s.failed = false)
    (ht : Ordinary t.ram) : (throwPhase { s with live := t.ram }).pool = thrownPool (s, t, u) := by
  cases hthrow : throwing s t.ram with
  | true =>
      rw [(throwPhase_throwing hthrow).2]
      exact (thrownPool_traced u (tickThrows_of hs ht hthrow)).symm
  | false =>
      rw [throwPhase_idle (s := { s with live := t.ram }) hthrow,
        thrownPool_nil u (tickThrows_idle hthrow)]

/-- A tick that goes through its phases updates the pool its throws leave. -/
theorem fireTick_pool (cart : Cart) {s : FireStream} {t : Tick} (u : FireStream)
    (hs : s.failed = false)
    (ht : Ordinary t.ram) (hruns : ¬ (s.rate = 0 ∧ s.active = 0)) :
    ∃ v : FireStream, v.pool = thrownPool (s, t, u) ∧
      (fireTick cart s t).pool = (updatePhase cart t.native v).pool ∧
      (fireTick cart s t).failed = (updatePhase cart t.native v).failed := by
  refine ⟨throwPhase { s with live := t.ram }, throwPhase_pool u hs ht, ?_⟩
  rw [fireTick_ordinary hs ht, if_neg hruns, finish_pool, finish_failed]
  exact ⟨rfl, rfl⟩

/-- Of a tick that leaves the pool, with no throw and with a fault or no projectile in flight. -/
theorem Housed.still {s u : FireStream} {t : Tick} (hnone : tickThrows s t = [])
    (hpool : u.pool = s.pool)
    (hfree : u.failed = false → liveCount s = 0) : Housed (s, t, u) where
  throws := tickThrows_housed s t
  free i _ := by
    rw [thrownPool_nil u hnone]
    exact congrFun hpool i
  run hfinal i hlive := by
    rw [thrownPool_nil u hnone] at hlive
    have hone := List.countP_eq_zero.1 (hfree hfinal) i (List.mem_finRange i)
    exact absurd (decide_eq_true hlive) hone

/-- Of a tick that updates the pool its throws leave. -/
theorem Housed.ran {cart : Cart} {s u v : FireStream} {t : Tick}
    (hv : v.pool = thrownPool (s, t, u))
    (hpool : u.pool = (updatePhase cart t.native v).pool)
    (hfailed : u.failed = (updatePhase cart t.native v).failed) : Housed (s, t, u) where
  throws := tickThrows_housed s t
  free i hfree := by
    have hlast : u.pool i = (updatePhase cart t.native v).pool i := congrFun hpool i
    unfold updatePhase at hlast
    rw [← hv] at hfree ⊢
    rw [hlast, updateSlots_free cart t.native _ v hfree]
  run hfinal i hlive := by
    have hlast : u.pool i = (updatePhase cart t.native v).pool i := congrFun hpool i
    unfold updatePhase at hfailed hlast
    rw [← hv] at hlive ⊢
    have hage := updateSlots_age cart t.native _ (List.nodup_finRange poolSize) v
      (hfailed.symm.trans hfinal) hlive
    rw [hlast]
    exact hage.1 (List.mem_finRange i)

/-- A stream that counts no projectile has none in flight. -/
theorem housed {cart : Cart} {s : FireStream} {t : Tick} (ht : Ordinary t.ram)
    (hcounted : s.failed = false → s.active = liveCount s) : Housed (s, t, fireTick cart s t) := by
  by_cases hs : s.failed = true
  · have hstopped : fireTick cart s t = { s with live := t.ram } := if_pos hs
    rw [hstopped]
    refine .still (tickThrows_failed t hs) rfl fun hfinal => ?_
    exact absurd (hs.symm.trans hfinal) (by decide)
  · rw [Bool.not_eq_true] at hs
    by_cases hstill : s.rate = 0 ∧ s.active = 0
    · -- nothing is in flight, and nothing is thrown
      have hidle : throwing s t.ram = false := by
        unfold throwing
        rw [hstill.1]
        rfl
      rw [fireTick_ordinary hs ht, if_pos hstill]
      exact .still (tickThrows_idle hidle) rfl fun _ => (hcounted hs).symm.trans hstill.2
    · obtain ⟨v, hv, hpool, hfailed⟩ := fireTick_pool cart (fireTick cart s t) hs ht hstill
      exact .ran hv hpool hfailed

/-- A tick has no more projectiles in flight than there were, and it has placed. -/
theorem Housed.flying {s u : FireStream} {t : Tick} (h : Housed (s, t, u)) :
    liveCount u ≤ liveCount s + ((tickThrows s t).map gained).count true := by
  rw [← thrownPool_flying s t u]
  refine List.countP_mono_left fun i _ hlive => ?_
  have hlive : (u.pool i).field 0 ≠ 0 := of_decide_eq_true hlive
  refine decide_eq_true fun hfree => hlive ?_
  rw [h.free i hfree]
  exact hfree

/-- The part of a tick behind the throws. -/
theorem Progress.finish {r n : Nat} {log : List Bool} {cart : Cart} {native : Slot → Native}
    {s : FireStream}
    (hrate : s.rate = r) (hcredit : s.credit = n * r % 60) (hasked : log.length = n * r / 60)
    (hspawned : s.spawned = log.count true % 2 ^ 64)
    (hdropped : s.dropped = log.count false % 2 ^ 64)
    (hactive : s.active = 0) (hfinal : (Lua.finish (updatePhase cart native s)).failed = false) :
    Progress r n log (Lua.finish (updatePhase cart native s)) := by
  have hgame := updatePhase_game cart native s
  have hcount : (updatePhase cart native s).failed = false → s.active = 0 →
      (updatePhase cart native s).active = liveCount (updatePhase cart native s) :=
      updatePhase_active
  rw [finish_failed] at hfinal
  generalize updatePhase cart native s = u at hgame hcount hfinal ⊢
  have hmerge : Lua.finish u = merge u := if_neg (by rw [hfinal]; exact Bool.false_ne_true)
  rw [hmerge]
  exact ⟨hgame.rate.trans hrate, hgame.credit.trans hcredit, hasked, hgame.spawned.trans hspawned,
    hgame.dropped.trans hdropped, hcount hfinal hactive⟩

/-- One ordinary tick: the remainder of the credit carries over. -/
theorem Progress.tick {r n : Nat} {log : List Bool} {cart : Cart} {s : FireStream} {t : Tick}
    (h : Progress r n log s) (hs : s.failed = false) (ht : Ordinary t.ram)
    (hfinal : (fireTick cart s t).failed = false) :
    Progress r (n + 1) (log ++ (tickThrows s t).map gained) (fireTick cart s t) := by
  have hcredit := h.credit
  have hasked := h.asked
  have hthrowing : throwing s t.ram = decide (s.rate ≠ 0) := by
    unfold throwing
    rw [ht.2.2.2.2]
    exact Bool.and_true _
  rw [fireTick_ordinary hs ht] at hfinal ⊢
  by_cases hrate : s.rate = 0
  · -- no rate: the projectiles in flight go on, and nothing is thrown
    have hzero : r = 0 := h.rate.symm.trans hrate
    subst hzero
    have hidle : throwing s t.ram = false := hthrowing.trans (decide_eq_false (not_not_intro hrate))
    rw [tickThrows_idle hidle, List.map_nil, List.append_nil]
    rw [Nat.mul_zero] at hcredit hasked
    by_cases hstill : s.rate = 0 ∧ s.active = 0
    · rw [if_pos hstill]
      exact ⟨h.rate, hcredit, hasked, h.spawned, h.dropped, h.active⟩
    · rw [if_neg hstill] at hfinal ⊢
      rw [throwPhase_idle (s := { s with live := t.ram }) hidle] at hfinal ⊢
      exact .finish h.rate hcredit hasked h.spawned h.dropped rfl hfinal
  · have hthrow : throwing s t.ram = true := hthrowing.trans (decide_eq_true hrate)
    obtain ⟨hthrows, -⟩ := throwPhase_throwing hthrow
    have htrace : tickThrows s t =
        traceOf (spawn (throwCount s)) (throwStart s t) (List.range (throwCount s)) :=
      tickThrows_of hs ht hthrow
    rw [← htrace] at hthrows
    have hlength : ((tickThrows s t).map gained).length = throwCount s := by
      rw [List.length_map, htrace, traceOf_length, List.length_range]
    have hphase : (throwPhase { s with live := t.ram }).active = 0 := rfl
    have hmul : (n + 1) * r = n * r + r := Nat.succ_mul n r
    have hcount : throwCount s = (n * r % 60 + r) / 60 := by
      unfold throwCount
      rw [hcredit, h.rate]
    rw [if_neg fun hstill => hrate hstill.1] at hfinal ⊢
    refine .finish (hthrows.rate.trans h.rate) ?_ ?_ ?_ ?_ hphase hfinal
    · rw [hthrows.credit, hcredit, h.rate, hmul, Nat.mod_add_mod]
    · rw [List.length_append, hlength, hcount, hasked, hmul]
      omega
    · rw [List.count_append]
      exact hthrows.spawned _ h.spawned
    · rw [List.count_append]
      exact hthrows.dropped _ h.dropped

theorem Progress.start (s : FireStream) {r : Nat} (hr : r ≤ 1000) :
    Progress r 0 [] (setRate (reset s) r) := by
  have hset : setRate (reset s) r = { reset s with rate := r, credit := 0 } := by
    have hrange : ¬ ((r : Int) < 0 ∨ (r : Int) > 1000 ∨ (reset s).failed = true) := by
      rintro (hlow | hhigh | hfailed)
      · omega
      · omega
      · exact Bool.false_ne_true hfailed
    exact if_neg hrange
  rw [hset]
  refine ⟨rfl, (congrArg (· % 60) (Nat.zero_mul r)).symm, (congrArg (· / 60) (Nat.zero_mul r)).symm,
    rfl, rfl, ?_⟩
  have hfree : ∀ i : Slot, ¬ decide (((reset s).pool i).field 0 ≠ 0) = true :=
    fun _ => Bool.false_ne_true
  exact (List.countP_eq_zero.2 fun i _ => hfree i).symm

theorem throwLog_concat (steps : List FireStep) (x : FireStep) :
    throwLog (steps ++ [x]) = throwLog steps ++ (tickThrows x.1 x.2.1).map gained := by
  unfold throwLog
  rw [List.flatMap_append, List.flatMap_singleton]

/-- What a run of ordinary ticks comes to. -/
structure Streamed (r : Nat) (steps : List FireStep) (s : FireStream) : Prop where
  progress : s.failed = false → Progress r steps.length (throwLog steps) s
  flying : liveCount s ≤ (throwLog steps).count true
  told : ∀ x ∈ steps, Housed x ∧ Isolated x ∧ Withheld x

theorem Streamed.start (s : FireStream) {r : Nat} (hr : r ≤ 1000) :
    Streamed r [] (setRate (reset s) r) where
  progress _ := .start s hr
  flying := by
    rw [← (Progress.start s hr).active]
    unfold setRate
    split <;> exact Nat.le_refl 0
  told _ hx := absurd hx List.not_mem_nil

/-- One ordinary tick more. -/
theorem Streamed.step {r : Nat} {steps : List FireStep} {cart : Cart} {s : FireStream} {t : Tick}
    (h : Streamed r steps s) (ht : Ordinary t.ram) :
    Streamed r (steps ++ [(s, t, fireTick cart s t)]) (fireTick cart s t) := by
  have hhoused : Housed (s, t, fireTick cart s t) := housed ht fun hs => (h.progress hs).active
  refine ⟨fun hfinal => ?_, ?_, fun x hx => ?_⟩
  · rw [List.length_append, throwLog_concat]
    exact (h.progress (fireTick_failed hfinal)).tick (fireTick_failed hfinal) ht hfinal
  · rw [throwLog_concat, List.count_append]
    exact hhoused.flying.trans (Nat.add_le_add_right h.flying _)
  · rcases List.mem_append.1 hx with hx | hx
    · exact h.told x hx
    · rw [List.mem_singleton.1 hx]
      exact ⟨hhoused, isolated cart s t, withheld cart s t⟩

/-- Ordinary ticks after a reset and a rate: without a fault as many projectiles are asked for as
the rate says, and each is counted as spawned where a free slot becomes occupied by it, as dropped
where none is free; no more are in flight than were placed and than there are slots, and every tick
is isolated. -/
theorem fire_stream {cart : Cart} {s₀ s : FireStream} {steps : List FireStep} (r : Nat)
    (hr : r ≤ 1000)
    (h : Run (fun s t s' => fireTick cart s t = s') (setRate (reset s₀) r) steps s)
    (hordinary : ∀ x ∈ steps, Ordinary x.2.1.ram) :
    (s.failed = false → (throwLog steps).count true + (throwLog steps).count false =
      steps.length * r / 60 ∧
        s.spawned = (throwLog steps).count true % 2 ^ 64 ∧
        s.dropped = (throwLog steps).count false % 2 ^ 64 ∧
        s.credit < 60 ∧ s.active = liveCount s) ∧
      liveCount s ≤ (throwLog steps).count true ∧ liveCount s ≤ poolSize ∧
      ∀ x ∈ steps, Housed x ∧ Isolated x ∧ Withheld x := by
  have hstreamed := h.history
    (P := fun steps s => (∀ x ∈ steps, Ordinary x.2.1.ram) → Streamed r steps s)
    (fun _ => .start s₀ hr) ?_ hordinary
  · refine ⟨fun hs => ?_, hstreamed.flying, ?_, hstreamed.told⟩
    · have hend := hstreamed.progress hs
      refine ⟨?_, hend.spawned, hend.dropped, ?_, hend.active⟩
      · rw [List.count_true_add_count_false, hend.asked]
      · rw [hend.credit]
        exact Nat.mod_lt _ (by decide)
    · exact List.countP_le_length.trans (List.length_finRange (n := poolSize)).le
  · rintro before u t v hbefore hstep hall
    subst hstep
    rw [List.forall_mem_append, List.forall_mem_singleton] at hall
    exact (hbefore hall.1).step hall.2

def unset : FireStream :=
  { pool := fun _ => .zero
    shadow := fun _ => 0
    dirty := fun _ => false
    live := fun _ => 0
    rate := 0
    credit := 0
    peak := 0
    active := 0
    ticks := 0
    spawned := 0
    dropped := 0
    collisions := 0
    opcodes := 0
    failed := false
    error := none }

/-- A tick of a level in which the code of each projectile hurts the enemy of slot 0. -/
def levelTick : Tick :=
  { ram := fun a => if a = 0x100 then 0x14 else 0
    native := fun _ => ⟨[.read 0x028000, .write 0x7e14c8 2, .write 0x7e0300 1], 40, .returned⟩ }

def playground : Cart := ⟨fun _ => 0x60, 0x80000⟩

/-- Two ticks at 90 fireballs a second ask for three. -/
theorem fire_stream_two :
    let steps := traceOf (fireTick playground) (setRate (reset unset) 90) [levelTick, levelTick]
    let s := [levelTick, levelTick].foldl (fireTick playground) (setRate (reset unset) 90)
    (throwLog steps).count true + (throwLog steps).count false = 3 ∧
    liveCount s ≤ (throwLog steps).count true ∧
      liveCount s ≤ poolSize ∧ ∀ x ∈ steps, Housed x ∧ Isolated x ∧ Withheld x := by
  have hrun :=
    Run.trace (f := fireTick playground) (fun _ _ => rfl) [levelTick, levelTick]
    (setRate (reset unset) 90)
  have hordinary : ∀ x ∈ traceOf (fireTick playground) (setRate (reset unset) 90)
    [levelTick, levelTick],
      Ordinary x.2.1.ram := by
    have hlevel : Ordinary levelTick.ram := ⟨rfl, rfl, rfl, rfl, rfl⟩
    intro x hx
    rcases List.mem_cons.1 hx with rfl | hx
    · exact hlevel
    · rw [List.mem_singleton.1 hx]
      exact hlevel
  obtain ⟨hrate, hplaced, hlive, htold⟩ := fire_stream 90 (by decide) hrun hordinary
  have hclean :
    ([levelTick, levelTick].foldl (fireTick playground) (setRate (reset unset) 90)).failed =
    false := by
    decide +kernel
  exact ⟨(hrate hclean).1, hplaced, hlive, htold⟩

end SmwRecomp.Lua
