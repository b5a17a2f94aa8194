import SmwRecomp.Lib.Run
import SmwRecomp.Config.KeyMap

/-!
# Commands and the keyboard

Model of `HandleCommand` and `HandleInput` (`main.c`), and of the turbo key over a run of key
events.

* `handleCommand` — what a command does to the input word, to turbo and to the rest of the host.
* `TurboRun` — the host together with the keys that engaged turbo and have not been up since.
* `turbo_ends_iff` — turbo ends with its key in a run exactly when no release of the last such key
  is looked up as another command: the release is looked up under the modifiers held then.
-/

set_option autoImplicit false

namespace SmwRecomp.Input

open Config

/-! ## The words of controller bits -/

def mask (k : Nat) : UInt32 := ⟨BitVec.twoPow 32 k⟩

def bit (w : UInt32) (i : Nat) : Bool := w.toBitVec.getLsbD i

/-- `pressed ? (w | m) : (w & ~m)`. -/
def assignBit (w : UInt32) (k : Nat) (pressed : Bool) : UInt32 :=
  if pressed then w ||| mask k else w &&& ~~~ mask k

theorem bit_mask (k i : Nat) : bit (mask k) i = decide (k < 32 ∧ k = i) := by
  unfold bit mask
  rw [BitVec.getLsbD_twoPow]
  by_cases hk : k < 32 <;> by_cases hi : k = i <;> simp [hk, hi]

theorem bit_assign {w : UInt32} {k : Nat} (hk : k < 32) (pressed : Bool) (i : Nat) :
    bit (assignBit w k pressed) i = if k = i then pressed else bit w i := by
  have hmask := bit_mask k i
  unfold bit at hmask ⊢
  unfold assignBit
  by_cases hi : k = i
  · subst hi
    cases pressed <;> simp [hmask, hk]
  · cases pressed
    · simp [hmask, hi]
      exact fun h => BitVec.lt_of_getLsbD h
    · simp [hmask, hi]

theorem bit_zero (i : Nat) : bit 0 i = false := by simp [bit]

theorem eq_zero_of_bits {w : UInt32} (h : ∀ i, bit w i = false) : w = 0 := by
  apply UInt32.toBitVec_inj.1
  apply BitVec.eq_of_getLsbD_eq
  intro i _
  exact (h i).trans (bit_zero i).symm

/-! ## Commands -/

def kKbdRemap : List Nat := [4, 5, 6, 7, 2, 3, 8, 0, 9, 1, 10, 11]

/-- The bit of the input word that a controller command stands for; those of the second player
follow the twelve of the first. -/
def controlBit (j : Nat) : Option Nat :=
  if kKeysControls ≤ j ∧ j ≤ kKeysControlsLast then some (kKbdRemap.getD (j - kKeysControls) 0)
  else if kKeysControlsP2 ≤ j ∧ j ≤ kKeysControlsP2Last
    then some (12 + kKbdRemap.getD (j - kKeysControlsP2) 0)
  else none

theorem controlBit_lt {j k : Nat} (h : controlBit j = some k) : k < 32 := by
  have hremap : ∀ i, kKbdRemap.getD i 0 ≤ 11 := by
    intro i
    rw [List.getD_eq_getElem?_getD]
    cases hi : kKbdRemap[i]? with
    | none => decide
    | some r =>
        have hall : ∀ r ∈ kKbdRemap, r ≤ 11 := by decide
        exact hall r (List.mem_of_getElem? hi)
  unfold controlBit at h
  split at h
  · cases h
    exact Nat.lt_of_le_of_lt (hremap _) (by decide)
  · split at h
    · cases h
      exact Nat.lt_of_le_of_lt (Nat.add_le_add_left (hremap _) 12) (by decide)
    · cases h

/-- What a command asks of other parts of the program. -/
inductive Request where
  | load (slot : Nat)
  | save (slot : Nat)
  | reset
  | windowScale (step : Int)
  | volume (step : Int)
  deriving DecidableEq, Repr

/-- What `HandleCommand` writes. -/
structure Host where
  inputState : UInt32
  turbo : Bool
  paused : Bool
  cursor : Bool
  fullscreen : Bool
  displayPerf : Bool
  newRenderer : Bool
  requests : List Request
  deriving DecidableEq, Repr

/-- What it asks: whether a netplay session is active and takes over loads and saves, and whether
saves are ready. -/
structure Session where
  netplayActive : Bool
  requestLoad : Nat → Bool
  requestSave : Nat → Bool
  persistenceReady : Bool

/-- The commands that act when they are pressed. -/
def pressCommand (n : Session) (h : Host) (j : Nat) : Host :=
  if j ≤ kKeysSaveLast ∧ !n.persistenceReady then h
  else if j ≤ kKeysLoadLast then
    if n.requestLoad (j - kKeysLoad) then h
      else { h with requests := h.requests ++ [.load (j - kKeysLoad)] }
  else if j ≤ kKeysSaveLast then
    if n.requestSave (j - kKeysSave) then h
      else { h with requests := h.requests ++ [.save (j - kKeysSave)] }
  else if j = kKeysFullscreen then { h with fullscreen := !h.fullscreen, cursor := !h.cursor }
  else if j = kKeysReset then
    if n.netplayActive then h else { h with requests := h.requests ++ [.reset] }
  else if j = kKeysPause ∨ j = kKeysPauseDimmed then
    if n.netplayActive then h else { h with paused := !h.paused }
  else if j = kKeysWindowBigger then { h with requests := h.requests ++ [.windowScale 1] }
  else if j = kKeysWindowSmaller then { h with requests := h.requests ++ [.windowScale (-1)] }
  else if j = kKeysDisplayPerf then { h with displayPerf := !h.displayPerf }
  else if j = kKeysToggleRenderer then { h with newRenderer := !h.newRenderer }
  else if j = kKeysVolumeUp then { h with requests := h.requests ++ [.volume 1] }
  else if j = kKeysVolumeDown then { h with requests := h.requests ++ [.volume (-1)] }
  else h

def handleCommand (n : Session) (h : Host) (j : Nat) (pressed : Bool) : Host :=
  if j < kKeysControls then h
  else
    match controlBit j with
    | some k => { h with inputState := assignBit h.inputState k pressed }
    | none =>
      if j = kKeysTurbo then
        if n.netplayActive then h else { h with turbo := pressed }
      else if !pressed then h
      else pressCommand n h j

def handleInput (n : Session) (m : KeyMap) (h : Host) (code : UInt32) (mod : UInt16)
    (pressed : Bool) : Outcome Host := do
  let j ← findCmdForSdlKey m code mod
  if j ≠ 0 then .ok (handleCommand n h j.toNat pressed) else .ok h

/-! ## Turbo -/

/-- Only the turbo command changes turbo. -/
theorem handleCommand_turbo (n : Session) (h : Host) (j : Nat) (pressed : Bool) :
    (handleCommand n h j pressed).turbo = if j = kKeysTurbo ∧ n.netplayActive = false then pressed
    else h.turbo := by
  by_cases hj : j = kKeysTurbo
  · subst hj
    unfold handleCommand
    rw [if_neg (by decide), show controlBit kKeysTurbo = none from by decide]
    dsimp only
    rw [if_pos rfl]
    cases n.netplayActive <;> simp
  · have hother : ¬ (j = kKeysTurbo ∧ n.netplayActive = false) := fun h => hj h.1
    rw [if_neg hother]
    have hpress : (pressCommand n h j).turbo = h.turbo := by
      unfold pressCommand
      simp only [apply_ite Host.turbo, ite_self]
    unfold handleCommand
    cases controlBit j with
    | some k => simp only [apply_ite Host.turbo, ite_self]
    | none => simp only [if_neg hj, apply_ite Host.turbo, hpress, ite_self]

structure KeyEvent where
  code : UInt32
  mod : UInt16
  pressed : Bool
  deriving DecidableEq, Repr

/-- The host, and the keys whose press was the turbo command and that have not been up since. -/
structure TurboRun where
  host : Host
  engaging : List UInt32
  deriving DecidableEq, Repr

/-- The keys that engage turbo after an event that was looked up as the command `j`. -/
def engagingAfter (n : Session) (engaging : List UInt32) (e : KeyEvent) (j : Nat) : List UInt32 :=
  if e.pressed then if j = kKeysTurbo ∧ n.netplayActive = false then e.code :: engaging
    else engaging
  else engaging.filter (· ≠ e.code)

def keyStep (n : Session) (m : KeyMap) (s : TurboRun) (e : KeyEvent) : Outcome TurboRun := do
  let j ← findCmdForSdlKey m e.code e.mod
  let host ← handleInput n m s.host e.code e.mod e.pressed
  .ok ⟨host, engagingAfter n s.engaging e j.toNat⟩

/-- Turbo is off when no key that engaged it is held. -/
def TurboEnds (s : TurboRun) : Prop := s.engaging = [] → s.host.turbo = false

/-- Where an event releases the last key that engaged turbo, it is looked up as the turbo command.
-/
def ReleasedAsTurbo (n : Session) (m : KeyMap) (s : TurboRun) (e : KeyEvent) : Prop :=
  e.pressed = false → s.host.turbo = true → (∀ k ∈ s.engaging, k = e.code) →
    n.netplayActive = false ∧ ∃ j, findCmdForSdlKey m e.code e.mod = .ok j ∧ j.toNat = kKeysTurbo

theorem keyStep_turbo {n : Session} {m : KeyMap} {s s' : TurboRun} {e : KeyEvent}
    (h : keyStep n m s e = .ok s') :
    ∃ j, findCmdForSdlKey m e.code e.mod = .ok j ∧
    s'.engaging = engagingAfter n s.engaging e j.toNat ∧
      s'.host.turbo = if j.toNat = kKeysTurbo ∧ n.netplayActive = false then e.pressed
      else s.host.turbo := by
  unfold keyStep handleInput at h
  cases hj : findCmdForSdlKey m e.code e.mod with
  | error halt =>
      rw [hj] at h
      cases h
  | ok j =>
      rw [hj] at h
      refine ⟨j, rfl, ?_⟩
      by_cases hz : j = 0
      · subst hz
        cases h
        exact ⟨rfl, (if_neg fun hcmd => absurd hcmd.1 (by decide)).symm⟩
      · simp only [outcome_bind, if_pos hz] at h
        cases h
        exact ⟨rfl, handleCommand_turbo n s.host j.toNat e.pressed⟩

/-- One event: turbo goes on ending with its keys exactly where the last of them is released as
turbo. -/
theorem keyStep_ends {n : Session} {m : KeyMap} {s s' : TurboRun} {e : KeyEvent}
    (h : keyStep n m s e = .ok s')
    (hs : TurboEnds s) : TurboEnds s' ↔ ReleasedAsTurbo n m s e := by
  obtain ⟨j, hj, hengaging, hturbo⟩ := keyStep_turbo h
  unfold TurboEnds ReleasedAsTurbo
  rw [hengaging, hturbo]
  unfold engagingAfter
  cases hp : e.pressed with
  | true =>
      simp only [if_true]
      by_cases hcmd : j.toNat = kKeysTurbo ∧ n.netplayActive = false
      · simp [hcmd]
      · have hkeep : s.engaging = [] → s.host.turbo = false := hs
        simpa [hcmd] using hkeep
  | false =>
      have hempty : (s.engaging.filter (· ≠ e.code)) = [] ↔ ∀ k ∈ s.engaging, k = e.code := by
        rw [List.filter_eq_nil_iff]
        simp
      simp only [Bool.false_eq_true, if_false, hempty]
      by_cases hcmd : j.toNat = kKeysTurbo ∧ n.netplayActive = false
      · rw [if_pos hcmd]
        exact ⟨fun _ _ _ _ => ⟨hcmd.2, j, hj, hcmd.1⟩, fun _ _ => rfl⟩
      · rw [if_neg hcmd]
        constructor
        · intro hend _ hon hlast
          rw [hend hlast] at hon
          cases hon
        · intro hrelease hlast
          by_contra hon
          obtain ⟨hnet, j', hj', hturbo'⟩ := hrelease trivial (by simpa using hon) hlast
          rw [hj] at hj'
          cases hj'
          exact hcmd ⟨hturbo', hnet⟩

/-- In a run of key events from turbo off. -/
theorem turbo_ends_iff {n : Session} {m : KeyMap} {s t : TurboRun}
    {steps : List (TurboRun × KeyEvent × TurboRun)}
    (h : Run (fun s e s' => keyStep n m s e = .ok s') s steps t) (hs : s.host.turbo = false) :
    (∀ x ∈ steps, TurboEnds x.2.2) ↔ ∀ x ∈ steps, ReleasedAsTurbo n m x.1 x.2.1 :=
  h.always_iff (fun _ _ _ hstep hends => keyStep_ends hstep hends) (fun _ => hs)

/-! The Tab key bound to turbo, alone. -/

def offline : Session := ⟨false, fun _ => false, fun _ => false, true⟩

def quiet : Host := ⟨0, false, false, true, false, false, false, []⟩

def tabMap : KeyMap :=
  match keyMapHashAddAll .empty [(remapSdlKeycode SDLK_TAB, 69)] with
  | .ok b => b.map
  | .error _ => .empty

def tabDown : KeyEvent := ⟨SDLK_TAB, 0, true⟩

/-- Tab pressed and released without modifiers. -/
theorem turbo_ends_iff_tab :
    (∀ x ∈ [((⟨quiet, []⟩ : TurboRun), tabDown,
      (⟨{ quiet with turbo := true }, [SDLK_TAB]⟩ : TurboRun)),
        (⟨{ quiet with turbo := true }, [SDLK_TAB]⟩, ⟨SDLK_TAB, 0, false⟩, ⟨quiet, []⟩)],
        TurboEnds x.2.2) ↔
      ∀ x ∈ [((⟨quiet, []⟩ : TurboRun), tabDown,
        (⟨{ quiet with turbo := true }, [SDLK_TAB]⟩ : TurboRun)),
        (⟨{ quiet with turbo := true }, [SDLK_TAB]⟩, ⟨SDLK_TAB, 0, false⟩, ⟨quiet, []⟩)],
        ReleasedAsTurbo offline tabMap x.1 x.2.1 :=
  turbo_ends_iff (n := offline) (m := tabMap) (t := ⟨quiet, []⟩)
    (.cons (by decide) (.cons (by decide) (.nil _))) rfl

/-- Tab pressed alone, Shift pressed, and then both released, Tab first: turbo stays on with no key
held. -/
theorem turbo_stuck_under_shift : ∃ t,
    [tabDown, ⟨SDLK_LSHIFT, 1, true⟩, ⟨SDLK_TAB, 1, false⟩, ⟨SDLK_LSHIFT, 0, false⟩].foldlM
      (keyStep offline tabMap)
      ⟨quiet, []⟩ = .ok t ∧ ¬ TurboEnds t :=
  ⟨⟨{ quiet with turbo := true }, []⟩, by decide, fun h => by cases h rfl⟩

end SmwRecomp.Input
