import SmwRecomp.Lib.Run
import SmwRecomp.Renderer.Spawns
import Mathlib.Logic.Function.Basic

/-!
# Runs of the spawn guard beside the native loader

* `Loader`, `LoaderOp`, `LoaderStep` — the guard, the load flags and the record the native loader
  works on: calls of the hook, allocations that succeed, flags that native code clears, frames, and
  saves loaded back.
* `Offers`, `Leaves`, `Resets`, `Allocates` — what a step means for one record.
* `Consumed.step`, `Fresh.step` — a record that is consumed stays so, and so does one that is not,
  step by step.
* `spawn_guard` — the laws over whole runs.
-/

set_option autoImplicit false

namespace SmwRecomp.Renderer

/-! ## The system -/

/-- `flags` are the load flags at $1938; `loading` is the record the native loader has in hand. -/
structure Loader where
  spawn : SpawnState
  flags : Nat → UInt8
  loading : Option Nat

inductive LoaderOp where
  | hook (v : Video) (c : CpuState)
  | allocate (flag : UInt8)
  | clear (record : Nat)
  | frame (v : Video) (gameMode screenMode : UInt8)
  | reload (host : SpawnHost)

/-- The record the loader takes up behind the hook; where the hook does not scan, it goes by its own
frontier. -/
def taken (v : Video) (s : SpawnState) (c : CpuState) : Option Nat :=
  if Scanning v c ∧ offered v s c = false then none else some c.X.toNat

inductive LoaderStep : Loader → LoaderOp → Loader → Prop where
  /-- The hook finds the load flags as they are. -/
  | hook (a : Loader) (v : Video) (c : CpuState) (hflags : ∀ i < 128, loadFlag c i = a.flags i) :
      LoaderStep a (.hook v c)
        { a with spawn := (smwRendererGuestHook v a.spawn c).1, loading := taken v a.spawn c }
  /-- The loader found a slot for the record in hand, and sets its flag. -/
  | allocate (a : Loader) (record : Nat) (flag : UInt8) (hloading : a.loading = some record)
    (hflag : flag ≠ 0) :
      LoaderStep a (.allocate flag)
        { a with flags := Function.update a.flags record flag, loading := none }
  | clear (a : Loader) (record : Nat) :
      LoaderStep a (.clear record) { a with flags := Function.update a.flags record 0 }
  | frame (a : Loader) (v : Video) (gameMode screenMode : UInt8) :
      LoaderStep a (.frame v gameMode screenMode)
        { a with spawn := smwRendererSpawnFrame a.spawn v gameMode screenMode }
  /-- The state is saved, and loaded into a host that holds anything. -/
  | reload (a : Loader) (host loaded : SpawnHost) (chunk : Bytes)
    (hsave : spawnChunk a.spawn = .ok chunk)
      (hload : loadChunk host chunk = .ok loaded) :
      LoaderStep a (.reload host) { a with spawn := loaded.spawnState }

abbrev LoaderEvent := Loader × LoaderOp × Loader

/-! ## What a step means for one record -/

/-- A call that scans a record of the list. -/
def Scans (v : Video) (c : CpuState) (r : Nat) : Prop :=
  Scanning v c ∧ (currentRecord c).a ≠ 255 ∧ c.X.toNat = r

def HookScans : LoaderEvent → Prop
  | (_, .hook v c, _) => Scanning v c
  | _ => False

def Offers (r : Nat) : LoaderEvent → Prop
  | (a, .hook v c, _) => c.X.toNat = r ∧ offered v a.spawn c = true
  | _ => False

/-- The scan finds the record outside the region. -/
def Leaves (r : Nat) : LoaderEvent → Prop
  | (_, .hook v c, _) => Scans v c r ∧ ¬ InRegion v c
  | _ => False

/-- The scan finds the record inside the region, and a slot for it. -/
def Returns (r : Nat) : LoaderEvent → Prop
  | (_, .hook v c, _) =>
    Scans v c r ∧ InRegion v c ∧ placementHasSlot c (currentRecord c).id (currentRecord c).x = true
  | _ => False

/-- The guard forgets everything: on a frame outside the level, or at another list. -/
def Resets : LoaderEvent → Prop
  | (a, .hook v c, _) => Scanning v c ∧ a.spawn.list ≠ spriteList c
  | (_, .frame v gameMode screenMode, _) => Forgets v gameMode screenMode
  | _ => False

/-- The hook sees the load flag of the record set. -/
def SeesFlag (r : Nat) : LoaderEvent → Prop
  | (_, .hook v c, _) => Scanning v c ∧ loadFlag c r ≠ 0
  | _ => False

/-- An allocation of the record succeeds. -/
def Allocates (r : Nat) : LoaderEvent → Prop
  | (a, .allocate _, _) => a.loading = some r
  | _ => False

/-- Wherever the record is scanned, it is one the guard is about. -/
def Ordinary (r : Nat) : LoaderEvent → Prop
  | (_, .hook v c, _) => Scans v c r → ¬ (currentRecord c).Scenic
  | _ => True

/-! ## One step -/

section Step

variable {a b : Loader} {op : LoaderOp} {r : Nat}

/-- A save that is loaded back changes nothing. -/
theorem reload_iff {host : SpawnHost} : LoaderStep a (.reload host) b ↔ b = a := by
  obtain ⟨chunk, hsave, hload⟩ := saved_loaded a.spawn host
  constructor
  · intro h
    cases h with
    | reload _ loaded chunk' hsave' hload' =>
        cases Except.ok.inj (hsave.symm.trans hsave')
        cases Except.ok.inj (hload.symm.trans hload')
        rfl
  · intro h
    subst h
    exact .reload b host _ chunk hsave hload

/-- A record is consumed while its mark is set. -/
theorem Consumed.hook {v : Video} {c : CpuState} {s : SpawnState} (hr : r < 128)
    (hmark : s.mark r ≠ 0 ∨ (s.pending.toNat = r ∧ loadFlag c r ≠ 0))
    (hscan : Scanning v c) (hlist : s.list = spriteList c)
    (hid : Scans v c r → ¬ (currentRecord c).Scenic)
    (hstay : ¬ (Scans v c r ∧ ¬ InRegion v c)) :
    (smwRendererGuestHook v s c).1.mark r ≠ 0 ∧ ¬ (c.X.toNat = r ∧ offered v s c = true) := by
  have hsettled : (settle s c).mark r ≠ 0 := by
    rw [mark_settle hr, if_neg (not_not_intro hlist)]
    split
    · decide
    · rename_i hnone
      exact hmark.resolve_right hnone
  rw [guestHook_state hscan, offered_iff]
  by_cases hend : (currentRecord c).a = 255
  · rw [if_pos hend]
    exact ⟨hsettled, fun h => h.2.2.1 hend⟩
  · rw [if_neg hend]
    by_cases hx : c.X.toNat = r
    · have hscans : Scans v c r := ⟨hscan, hend, hx⟩
      have hin : InRegion v c := Classical.not_not.1 fun h => hstay ⟨hscans, h⟩
      subst hx
      rw [visible_ordinary hr (hid hscans)]
      obtain ⟨hkept, hhidden⟩ := consider_consumed hr hin (.inr hsettled)
      exact ⟨hkept, fun h => Bool.false_ne_true (hhidden.symm.trans h.2.2.2)⟩
    · rw [mark_visible_ne hx]
      exact ⟨hsettled, fun h => hx h.1⟩

/-- The mark of a consumed record outlives every step that neither finds it outside nor resets the
guard. -/
theorem Consumed.step (hr : r < 128) (h : LoaderStep a op b) (hmark : a.spawn.mark r ≠ 0)
    (hid : Ordinary r (a, op, b)) (hleaves : ¬ Leaves r (a, op, b))
    (hresets : ¬ Resets (a, op, b)) :
    b.spawn.mark r ≠ 0 ∧ ¬ Offers r (a, op, b) := by
  cases h with
  | hook v c hflags =>
      by_cases hscan : Scanning v c
      · have hlist : a.spawn.list = spriteList c := Classical.not_not.1 fun h => hresets ⟨hscan, h⟩
        exact Consumed.hook hr (.inl hmark) hscan hlist hid hleaves
      · show (smwRendererGuestHook v a.spawn c).1.mark r ≠ 0 ∧ _
        rw [guestHook_idle hscan]
        exact ⟨hmark, fun h => hscan (offered_iff.1 h.2).1⟩
  | allocate record flag hloading hflag => exact ⟨hmark, id⟩
  | clear record => exact ⟨hmark, id⟩
  | frame v gameMode screenMode =>
      have hkeeps : ¬ Forgets v gameMode screenMode := hresets
      show (smwRendererSpawnFrame a.spawn v gameMode screenMode).mark r ≠ 0 ∧ _
      unfold smwRendererSpawnFrame
      rw [if_neg hkeeps]
      exact ⟨hmark, id⟩
  | reload host loaded chunk hsave hload =>
      have hsame := reload_iff.1 (LoaderStep.reload a host loaded chunk hsave hload)
      rw [hsame]
      exact ⟨hmark, id⟩

/-- Steps between two scanning calls leave the guard alone, unless they reset it. -/
theorem quiet_step (h : LoaderStep a op b) (hquiet : ¬ HookScans (a, op, b))
    (hresets : ¬ Resets (a, op, b)) :
    b.spawn = a.spawn := by
  cases h with
  | hook v c hflags => exact guestHook_idle hquiet
  | allocate record flag hloading hflag => rfl
  | clear record => rfl
  | frame v gameMode screenMode => exact if_neg hresets
  | reload host loaded chunk hsave hload =>
      rw [reload_iff.1 (LoaderStep.reload a host loaded chunk hsave hload)]

/-- Neither consumed nor flagged. -/
def Fresh (r : Nat) (s : Loader) : Prop := s.spawn.mark r = 0 ∧ s.flags r = 0

/-- What an offer leaves: the record in hand, not consumed, its flag clear. -/
theorem offered_fresh (hr : r < 128) (h : LoaderStep a op b) (hid : Ordinary r (a, op, b))
    (hoffers : Offers r (a, op, b)) : b.spawn.pending.toNat = r ∧ Fresh r b := by
  cases h with
  | hook v c hflags =>
      obtain ⟨hx, hoffered⟩ := hoffers
      obtain ⟨hscan, hend, hvisible⟩ := offered_iff.1 hoffered
      subst hx
      have hid := hid ⟨hscan, hend, rfl⟩
      have hstate := guestHook_state (s := a.spawn) hscan
      rw [if_neg hend, visible_ordinary hr hid] at hstate
      rw [visible_ordinary hr hid] at hvisible
      have hin : InRegion v c := by
        refine Classical.not_not.1 fun hin => ?_
        rw [consider_outside hin] at hvisible
        cases hvisible
      have hclear : ¬ (loadFlag c c.X.toNat ≠ 0 ∨ (settle a.spawn c).mark c.X.toNat ≠ 0) := fun h =>
        Bool.false_ne_true ((consider_consumed hr hin h).2.symm.trans hvisible)
      rw [not_or, Classical.not_not, Classical.not_not] at hclear
      obtain ⟨hflag, hmark⟩ := hclear
      rw [consider_fresh hin hflag hmark] at hstate hvisible
      cases hslot : placementHasSlot c (currentRecord c).id (currentRecord c).x with
      | false => simp [hslot] at hvisible
      | true =>
          rw [hslot, if_pos rfl] at hstate
          unfold Fresh
          dsimp only
          rw [hstate]
          refine ⟨UInt8.toNat_ofNat_of_lt' (Nat.lt_trans hr (by decide)), hmark, ?_⟩
          rw [← hflags _ hr, hflag]
  | allocate => exact hoffers.elim
  | clear => exact hoffers.elim
  | frame => exact hoffers.elim
  | reload => exact hoffers.elim

end Step

/-! ## The laws -/

section Laws

variable {r : Nat}

/-- A flag seen set in time consumes the record on the spot. -/
theorem Consumed.seen {a b : Loader} {op : LoaderOp} (hr : r < 128) (h : LoaderStep a op b)
    (hpending : a.spawn.pending.toNat = r) (hsees : SeesFlag r (a, op, b))
    (hid : Ordinary r (a, op, b))
    (hleaves : ¬ Leaves r (a, op, b)) (hresets : ¬ Resets (a, op, b)) :
    b.spawn.mark r ≠ 0 ∧ ¬ Offers r (a, op, b) := by
  cases h with
  | hook v c hflags =>
      obtain ⟨hscan, hflag⟩ := hsees
      have hlist : a.spawn.list = spriteList c := Classical.not_not.1 fun h => hresets ⟨hscan, h⟩
      exact Consumed.hook hr (.inr ⟨hpending, hflag⟩) hscan hlist hid hleaves
  | allocate => exact hsees.elim
  | clear => exact hsees.elim
  | frame => exact hsees.elim
  | reload => exact hsees.elim

theorem consumed_run (hr : r < 128) {a t : Loader} {steps : List LoaderEvent}
    (h : Run LoaderStep a steps t)
    (hmark : a.spawn.mark r ≠ 0) (hid : ∀ x ∈ steps, Ordinary r x)
    (hstay : ∀ x ∈ steps, ¬ Leaves r x ∧ ¬ Resets x) : ∀ x ∈ steps, ¬ Offers r x := by
  induction h with
  | nil =>
      intro x hx
      cases hx
  | cons hstep _ ih =>
      rw [List.forall_mem_cons] at hid hstay ⊢
      obtain ⟨hkept, hnot⟩ := Consumed.step hr hstep hmark hid.1 hstay.1.1 hstay.1.2
      exact ⟨hnot, ih hkept hid.2 hstay.2⟩

theorem quiet_run {a t : Loader} {steps : List LoaderEvent} (h : Run LoaderStep a steps t)
    (hquiet : ∀ x ∈ steps, ¬ HookScans x) (hresets : ∀ x ∈ steps, ¬ Resets x) :
    t.spawn = a.spawn := by
  induction h with
  | nil => rfl
  | cons hstep _ ih =>
      rw [List.forall_mem_cons] at hquiet hresets
      rw [ih hquiet.2 hresets.2, quiet_step hstep hquiet.1 hresets.1]

/-- While no allocation of the record succeeds it stays fresh, whatever else happens. -/
theorem Fresh.step {a b : Loader} {op : LoaderOp} (hr : r < 128) (h : LoaderStep a op b)
    (hfresh : Fresh r a)
    (hid : Ordinary r (a, op, b)) (hfails : ¬ Allocates r (a, op, b)) : Fresh r b := by
  obtain ⟨hmark, hflag⟩ := hfresh
  cases h with
  | hook v c hflags =>
      refine ⟨?_, hflag⟩
      show (smwRendererGuestHook v a.spawn c).1.mark r = 0
      by_cases hscan : Scanning v c
      · have hclear : loadFlag c r = 0 := (hflags r hr).trans hflag
        have hsettled : (settle a.spawn c).mark r = 0 := settle_fresh hr hmark hclear
        rw [guestHook_state hscan]
        by_cases hend : (currentRecord c).a = 255
        · rwa [if_pos hend]
        · rw [if_neg hend]
          by_cases hx : c.X.toNat = r
          · subst hx
            rw [visible_ordinary hr (hid ⟨hscan, hend, rfl⟩)]
            by_cases hin : InRegion v c
            · rw [consider_fresh hin hclear hsettled]
              split <;> exact hsettled
            · rw [consider_outside hin]
              exact mark_setMark hr
          · rwa [mark_visible_ne hx]
      · rwa [guestHook_idle hscan]
  | allocate record flag hloading hflag' =>
      have hne : r ≠ record := fun h => hfails (h ▸ hloading)
      exact ⟨hmark, (Function.update_of_ne hne _ _).trans hflag⟩
  | clear record =>
      refine ⟨hmark, ?_⟩
      show Function.update a.flags record 0 r = 0
      by_cases hrecord : r = record
      · rw [hrecord, Function.update_self]
      · rw [Function.update_of_ne hrecord, hflag]
  | frame v gameMode screenMode =>
      refine ⟨?_, hflag⟩
      show (smwRendererSpawnFrame a.spawn v gameMode screenMode).mark r = 0
      unfold smwRendererSpawnFrame
      split
      · exact mark_resetSpawns
      · exact hmark
  | reload host loaded chunk hsave hload =>
      rw [reload_iff.1 (LoaderStep.reload a host loaded chunk hsave hload)]
      exact ⟨hmark, hflag⟩

theorem fresh_run (hr : r < 128) {a t : Loader} {steps : List LoaderEvent}
    (h : Run LoaderStep a steps t)
    (hfresh : Fresh r a) (hid : ∀ x ∈ steps, Ordinary r x) (hfails : ∀ x ∈ steps, ¬ Allocates r x) :
    Fresh r t ∧ ∀ x ∈ steps, Fresh r x.2.2 := by
  induction h with
  | nil => exact ⟨hfresh, fun _ hx => nomatch hx⟩
  | cons hstep _ ih =>
      rw [List.forall_mem_cons] at hid hfails ⊢
      have hnext := Fresh.step hr hstep hfresh hid.1 hfails.1
      obtain ⟨hlast, hall⟩ := ih hnext hid.2 hfails.2
      exact ⟨hlast, hnext, hall⟩

/-- A fresh record is offered at every scan inside the region with a slot. -/
theorem Fresh.offered {a b : Loader} {op : LoaderOp} (hr : r < 128) (h : LoaderStep a op b)
    (hfresh : Fresh r a)
    (hid : Ordinary r (a, op, b)) (hreturns : Returns r (a, op, b)) : Offers r (a, op, b) := by
  cases h with
  | hook v c hflags =>
      obtain ⟨hscans, hin, hslot⟩ := hreturns
      obtain ⟨hscan, hend, hx⟩ := hscans
      subst hx
      have hclear : loadFlag c c.X.toNat = 0 := (hflags _ hr).trans hfresh.2
      have hsettled : (settle a.spawn c).mark c.X.toNat = 0 := settle_fresh hr hfresh.1 hclear
      refine ⟨rfl, offered_iff.2 ⟨hscan, hend, ?_⟩⟩
      rw [visible_ordinary hr (hid ⟨hscan, hend, rfl⟩), consider_fresh hin hclear hsettled, hslot]
      rfl
  | allocate => exact hreturns.elim
  | clear => exact hreturns.elim
  | frame => exact hreturns.elim
  | reload => exact hreturns.elim

/-- A loaded record is not offered twice in one visit, a record that could not be loaded is offered
again, and a save loaded back leaves the rest of the run as it was. -/
theorem spawn_guard {r : Nat} (hr : r < 128) :
    (∀ (a t : Loader) (offer seen : LoaderEvent) (mid rest : List LoaderEvent),
      Run LoaderStep a (offer :: (mid ++ seen :: rest)) t →
      (∀ x ∈ offer :: (mid ++ seen :: rest), Ordinary r x) → Offers r offer →
      (∀ x ∈ mid, ¬ HookScans x) → SeesFlag r seen →
      (∀ x ∈ mid ++ seen :: rest, ¬ Leaves r x ∧ ¬ Resets x) →
      ∀ x ∈ seen :: rest, ¬ Offers r x) ∧
    (∀ (a t : Loader) (offer again : LoaderEvent) (gap : List LoaderEvent),
      Run LoaderStep a (offer :: (gap ++ [again])) t →
      (∀ x ∈ offer :: (gap ++ [again]), Ordinary r x) → Offers r offer →
      (∀ x ∈ gap, ¬ Allocates r x) → Returns r again →
      (∀ x ∈ offer :: gap, x.2.2.spawn.mark r = 0) ∧ Offers r again) ∧
    (∀ (a : Loader) (host : SpawnHost), (∃ b, LoaderStep a (.reload host) b) ∧
      ∀ b, LoaderStep a (.reload host) b → ∀ steps t, Run LoaderStep b steps t ↔
      Run LoaderStep a steps t) := by
  refine ⟨?_, ?_, ?_⟩
  · intro a t offer seen mid rest hrun hid hoffers hquiet hsees hstay
    rw [List.forall_mem_cons, List.forall_mem_append, List.forall_mem_cons] at hid
    rw [List.forall_mem_append, List.forall_mem_cons] at hstay
    obtain ⟨hidOffer, -, hidSeen, hidRest⟩ := hid
    obtain ⟨hstayMid, hstaySeen, hstayRest⟩ := hstay
    cases hrun with
    | cons hoffer hrun =>
        obtain ⟨u, op, w⟩ := seen
        obtain ⟨hmid, hseen, hrest⟩ := hrun.split
        have hpending := (offered_fresh hr hoffer hidOffer hoffers).1
        rw [← quiet_run hmid hquiet fun x hx => (hstayMid x hx).2] at hpending
        obtain ⟨hmark, hnot⟩ :=
          Consumed.seen hr hseen hpending hsees hidSeen hstaySeen.1 hstaySeen.2
        rw [List.forall_mem_cons]
        exact ⟨hnot, consumed_run hr hrest hmark hidRest hstayRest⟩
  · intro a t offer again gap hrun hid hoffers hfails hreturns
    rw [List.forall_mem_cons, List.forall_mem_append, List.forall_mem_singleton] at hid
    obtain ⟨hidOffer, hidGap, hidAgain⟩ := hid
    cases hrun with
    | cons hoffer hrun =>
        obtain ⟨u, op, w⟩ := again
        obtain ⟨hgap, hagain, -⟩ := hrun.split
        have hfresh := (offered_fresh hr hoffer hidOffer hoffers).2
        obtain ⟨hlast, hall⟩ := fresh_run hr hgap hfresh hidGap hfails
        rw [List.forall_mem_cons]
        exact ⟨⟨hfresh.1, fun x hx => (hall x hx).1⟩,
          Fresh.offered hr hagain hlast hidAgain hreturns⟩
  · intro a host
    refine ⟨⟨a, reload_iff.2 rfl⟩, ?_⟩
    intro b hb steps t
    rw [reload_iff.1 hb]

end Laws

/-! ## A Koopa, and a scroll command -/

section Example

/-- A level of 32 screens whose list at $02:8000 holds one record, at x = 832 or, for a scroll
command, at x = 288. -/
def guestMemory (id flag : UInt8) (camera : UInt16) (bank : UInt8) (a : UInt16) : UInt8 :=
  if bank = 0x7e then
    if a = 0x100 then 0x14 else if a = 0x5e then 31 else if a = 0xcf then 0x80
      else if a = 0xd0 then 2
    else if a = 0x55 then 2 else if a = 0x1a then camera.toUInt8
      else if a = 0x1b then (camera >>> 8).toUInt8
    else if a = 0x1938 then flag else 0
  else if bank = 2 then
    if a = 0x8001 then 0x71 else if a = 0x8002 then (if id = 1 then 0x43 else 0x21)
      else if a = 0x8003 then id
    else if a = 0x8004 then 255 else 0
  else 0

/-- The call at the record, and the one at the end of the list. -/
def atRecord (id flag : UInt8) (camera : UInt16) : CpuState := ⟨0, 1, 0, guestMemory id flag camera⟩
def atEnd (id flag : UInt8) (camera : UInt16) : CpuState := ⟨1, 4, 0, guestMemory id flag camera⟩

def wideView : Video := ⟨true, true, 1118, 431⟩

def loaderStart : Loader := ⟨resetSpawns, fun _ => 0, none⟩

def Loader.hooked (a : Loader) (c : CpuState) : Loader :=
  { a with spawn := (smwRendererGuestHook wideView a.spawn c).1, loading := taken wideView a.spawn c }

def Loader.allocated (a : Loader) : Loader :=
  { a with flags := Function.update a.flags 0 1, loading := none }

def Loader.cleared (a : Loader) : Loader := { a with flags := Function.update a.flags 0 0 }

/-- A visit: the record is offered and loaded, its flag is seen set and then cleared, and it is
scanned again. -/
def offerStep (id : UInt8) : LoaderEvent :=
  (loaderStart, .hook wideView (atRecord id 0 0), loaderStart.hooked (atRecord id 0 0))

def loadStep (id : UInt8) : LoaderEvent :=
  ((offerStep id).2.2, .allocate 1, (offerStep id).2.2.allocated)

def seenStep (id : UInt8) : LoaderEvent :=
  ((loadStep id).2.2, .hook wideView (atEnd id 1 0), (loadStep id).2.2.hooked (atEnd id 1 0))

def clearStep (id : UInt8) : LoaderEvent := ((seenStep id).2.2, .clear 0, (seenStep id).2.2.cleared)

def rescanStep (id : UInt8) : LoaderEvent :=
  ((clearStep id).2.2, .hook wideView (atRecord id 0 0),
    (clearStep id).2.2.hooked (atRecord id 0 0))

theorem visit_run {id : UInt8} (hid : id = 1 ∨ id = 0xe1) : Run LoaderStep loaderStart
    (offerStep id :: ([loadStep id] ++ seenStep id :: [clearStep id, rescanStep id]))
      (rescanStep id).2.2 := by
  refine .cons (.hook _ _ _ ?_) (.cons (.allocate _ 0 1 ?_ (by decide))
    (.cons (.hook _ _ _ ?_) (.cons (.clear _ 0) (.cons (.hook _ _ _ ?_) (.nil _)))))
  all_goals rcases hid with rfl | rfl <;> decide +kernel

/-- The record is never outside the region, and the guard is never reset. -/
theorem visit_stays {id : UInt8} (hid : id = 1 ∨ id = 0xe1) :
    ∀ x ∈ [loadStep id] ++ seenStep id :: [clearStep id, rescanStep id], ¬ Leaves 0 x ∧
    ¬ Resets x := by
  have hseen : ¬ Leaves 0 (seenStep id) ∧ ¬ Resets (seenStep id) := by
    have hx : (1 : UInt16).toNat ≠ 0 := by decide
    refine ⟨fun h => hx h.1.2.2, fun h => h.2 ?_⟩
    rcases hid with rfl | rfl <;> decide +kernel
  have hrescan : ¬ Leaves 0 (rescanStep id) ∧ ¬ Resets (rescanStep id) := by
    refine ⟨fun h => h.2 ?_, fun h => h.2 ?_⟩ <;> rcases hid with rfl | rfl <;> decide +kernel
  intro x hx
  simp only [List.cons_append, List.nil_append, List.mem_cons, List.not_mem_nil, or_false] at hx
  rcases hx with rfl | rfl | rfl | rfl
  · exact ⟨fun h => h, fun h => h⟩
  · exact hseen
  · exact ⟨fun h => h, fun h => h⟩
  · exact hrescan

theorem visit_seen {id : UInt8} (hid : id = 1 ∨ id = 0xe1) : SeesFlag 0 (seenStep id) := by
  rcases hid with rfl | rfl <;> exact ⟨by decide +kernel, by decide +kernel⟩

/-- The same record when no slot is free: its flag stays clear, and the next sweep comes to it
again. -/
def failStep : LoaderEvent :=
  ((offerStep 1).2.2, .hook wideView (atEnd 1 0 0), (offerStep 1).2.2.hooked (atEnd 1 0 0))

def retryStep : LoaderEvent :=
  (failStep.2.2, .hook wideView (atRecord 1 0 0), failStep.2.2.hooked (atRecord 1 0 0))

/-- The Koopa whose flag native code cleared is not offered again; the one that found no slot is. -/
theorem spawn_guard_koopa : ¬ Offers 0 (rescanStep 1) ∧ Offers 0 retryStep := by
  have hguard := spawn_guard (r := 0) (by decide)
  have hfirst : Offers 0 (offerStep 1) := ⟨rfl, by decide +kernel⟩
  have hrescan : Ordinary 0 (offerStep 1) ∧ Ordinary 0 (rescanStep 1) ∧ Ordinary 0 retryStep :=
    ⟨fun _ => by decide +kernel, fun _ => by decide +kernel, fun _ => by decide +kernel⟩
  constructor
  · refine hguard.1 _ _ _ _ _ _ (visit_run (.inl rfl)) ?_ hfirst ?_ (visit_seen (.inl rfl))
      (visit_stays (.inl rfl)) _
      (by simp)
    · intro x hx
      simp only [List.cons_append, List.nil_append, List.mem_cons, List.not_mem_nil, or_false] at hx
      rcases hx with rfl | rfl | rfl | rfl | rfl
      · exact hrescan.1
      · trivial
      · exact fun h => absurd h.2.2 (by decide)
      · trivial
      · exact hrescan.2.1
    · intro x hx
      rw [List.mem_singleton.1 hx]
      exact fun h => h
  · have hrun : Run LoaderStep loaderStart (offerStep 1 :: ([failStep] ++ [retryStep]))
      retryStep.2.2 :=
      .cons (.hook _ _ _ (by decide +kernel)) (.cons (.hook _ _ _ (by decide +kernel))
        (.cons (.hook _ _ _ (by decide +kernel)) (.nil _)))
    have hreturns : Returns 0 retryStep :=
      ⟨⟨by decide +kernel, by decide +kernel, rfl⟩, by decide +kernel, by decide +kernel⟩
    refine (hguard.2.1 _ _ _ _ _ hrun ?_ hfirst ?_ hreturns).2
    · intro x hx
      simp only [List.cons_append, List.nil_append, List.mem_cons, List.not_mem_nil, or_false] at hx
      rcases hx with rfl | rfl | rfl
      · exact hrescan.1
      · exact fun h => absurd h.2.2 (by decide)
      · exact hrescan.2.2
    · intro x hx
      rw [List.mem_singleton.1 hx]
      exact fun h => h

/-- A scroll command keeps its native frontier, and is offered twice in one visit. -/
theorem frontier_offered_twice :
    ¬ ∀ (a t : Loader) (offer seen : LoaderEvent) (mid rest : List LoaderEvent),
    Run LoaderStep a (offer :: (mid ++ seen :: rest)) t → Offers 0 offer →
    (∀ x ∈ mid, ¬ HookScans x) →
    SeesFlag 0 seen → (∀ x ∈ mid ++ seen :: rest, ¬ Leaves 0 x ∧ ¬ Resets x) →
    ∀ x ∈ seen :: rest, ¬ Offers 0 x := by
  intro hclaim
  have hvisit := hclaim _ _ _ _ _ _ (visit_run (.inr rfl)) ⟨rfl, by decide +kernel⟩
  refine hvisit ?_ (visit_seen (.inr rfl)) (visit_stays (.inr rfl)) (rescanStep 0xe1) (by simp)
    ⟨rfl, by decide +kernel⟩
  intro x hx
  rw [List.mem_singleton.1 hx]
  exact fun h => h

end Example

end SmwRecomp.Renderer
