import SmwRecomp.Lib.Run
import Mathlib.Data.List.GetD
import Mathlib.Logic.Function.Basic

/-!
# The raster capture and its shortcut

* `SnapshotStore` — the store of VRAM images, which the renderer is linked with;
  `SnapshotStore.Lawful` — what it relies on: an image equals the VRAM it was taken of and is the
  last of the store, and images stay as they are.
* `Ppu`, `RasterState`, `smwRendererBeginFrame`, `smwRendererBeginHardwareRaster`,
  `smwRendererHardwareVramChanged`, `smwRendererCaptureLine` — the capture, for every build of it.
* `World`, `RasterOp` — the renderer among PPUs that anything may write to or replace between two
  lines; `Seen` is bookkeeping, which nothing but `Announced` reads.
* `Trusted` — when the shortcut may be taken, the last image is what the PPU held at the last
  captured line.
* `raster_capture_exact` — what a line of a frame holds, from its capture to the end of the frame.
-/

set_option autoImplicit false

namespace SmwRecomp.Renderer

/-! ## The parts -/

/-- `SnesRasterSnapshotStore`: images `ι` of VRAM contents `V`. -/
structure SnapshotStore (σ ι V : Type) where
  /-- `SnesRasterSnapshotBegin`. -/
  start : σ → Bool × σ
  /-- `SnesRasterSnapshotCapture`; the flag asks it to compare with the last image first. -/
  capture : σ → V → Bool → σ × Option ι
  images : σ → List ι
  contents : σ → ι → V

structure SnapshotStore.Lawful {σ ι V : Type} (S : SnapshotStore σ ι V) : Prop where
  captured : ∀ s vram compare s' image, S.capture s vram compare = (s', some image) →
    S.contents s' image = vram ∧ (S.images s').getLast? = some image
  kept : ∀ s vram compare, ∀ image ∈ S.images s, image ∈ S.images (S.capture s vram compare).1 ∧
    S.contents (S.capture s vram compare).1 image = S.contents s image

/-- `registers` are the saved registers, the palette, the two OAM tables and the overlay captures.
-/
structure Ppu (V ρ : Type) where
  vram : V
  vramWriteCount : UInt32
  widescreenLineEnhancer : Bool
  registers : ρ

/-- `SMW_RASTER_TRACK_WRITES`, `SMW_RASTER_FULL_COPY` and `SNESRECOMP_TRACE`. -/
structure Build where
  trackWrites : Bool
  fullCopy : Bool
  trace : Bool

structure RasterLine (ρ ι : Type) where
  registers : ρ
  vram : Option ι

structure HardwareRaster (P : Type) where
  ppu : Option P
  writes : UInt32
  tracking : Bool
  uncertain : Bool

/-- The statics of the renderer; a line that was never captured is `none`. -/
structure RasterState (P ρ σ ι : Type) where
  snapshots : σ
  captureFailed : Bool
  hardwareRaster : HardwareRaster P
  lines : Nat → Option (RasterLine ρ ι)
  captured : UInt32

section Capture

variable {P V ρ σ ι : Type} [DecidableEq P] (B : Build) (S : SnapshotStore σ ι V)

def RasterState.untracked (s : RasterState P ρ σ ι) : RasterState P ρ σ ι :=
  { s with hardwareRaster := { s.hardwareRaster with tracking := false } }

def smwRendererBeginFrame (enabled : Bool) (s : RasterState P ρ σ ι) : RasterState P ρ σ ι :=
  let s := { s.untracked with captured := 0 }
  if !enabled then s
  else { s with captureFailed := !(S.start s.snapshots).1, snapshots := (S.start s.snapshots).2 }

/-- `p` is the PPU's address and what it holds. -/
def smwRendererBeginHardwareRaster (s : RasterState P ρ σ ι) (p : Option (P × Ppu V ρ)) :
    RasterState P ρ σ ι :=
  match p with
  | some (q, ppu) =>
    if B.trackWrites && !B.trace then
      { s with hardwareRaster := ⟨some q, ppu.vramWriteCount, !ppu.widescreenLineEnhancer, true⟩ }
    else s.untracked
  | none => s.untracked

def smwRendererHardwareVramChanged (s : RasterState P ρ σ ι) : RasterState P ρ σ ι :=
  { s with hardwareRaster := { s.hardwareRaster with uncertain := true } }

/-- The lines a capture is taken of. -/
def Captures (enabled : Bool) (s : RasterState P ρ σ ι) (line : Int) : Prop :=
  s.captureFailed = false ∧ enabled = true ∧ 1 ≤ line ∧ line ≤ 224

instance (enabled : Bool) (s : RasterState P ρ σ ι) (line : Int) :
    Decidable (Captures enabled s line) :=
  inferInstanceAs (Decidable (_ ∧ _))

/-- Another PPU, or a callback that may draw anything, ends the trust in the write count. -/
def HardwareRaster.checked (hr : HardwareRaster P) (q : P) (ppu : Ppu V ρ) : HardwareRaster P :=
  if B.trackWrites = true ∧ (hr.ppu ≠ some q ∨ ppu.widescreenLineEnhancer = true)
    then { hr with tracking := false }
  else hr

/-- The condition for taking the last image again. -/
def Shortcut (hr : HardwareRaster P) (captured : UInt32) (ppu : Ppu V ρ) : Prop :=
  B.trackWrites = true ∧ B.fullCopy = false ∧ hr.tracking = true ∧ hr.uncertain = false ∧
    captured ≠ 0 ∧
    hr.writes = ppu.vramWriteCount

instance (hr : HardwareRaster P) (captured : UInt32) (ppu : Ppu V ρ) :
    Decidable (Shortcut B hr captured ppu) :=
  inferInstanceAs (Decidable (_ ∧ _))

/-- The image of a line: the last one, or one captured anew. -/
def lineImage (hr : HardwareRaster P) (s : RasterState P ρ σ ι) (ppu : Ppu V ρ) : σ × Option ι :=
  if Shortcut B hr s.captured ppu then (s.snapshots, (S.images s.snapshots).getLast?)
  else S.capture s.snapshots ppu.vram (!B.fullCopy)

def smwRendererCaptureLine (enabled : Bool) (s : RasterState P ρ σ ι) (p : Option (P × Ppu V ρ))
    (line : Int) :
    RasterState P ρ σ ι :=
  match p with
  | none => s
  | some (q, ppu) =>
    if ¬ Captures enabled s line then s
    else
      let hr := s.hardwareRaster.checked B q ppu
      let (snapshots, image) := lineImage B S hr s ppu
      let hr := if B.trackWrites then { hr with writes := ppu.vramWriteCount, uncertain := false }
        else hr
      let lines := Function.update s.lines (line - 1).toNat (some ⟨ppu.registers, image⟩)
      { snapshots, hardwareRaster := hr, lines
        captureFailed := image.isNone
        captured := if image.isNone then s.captured else s.captured + 1 }

end Capture

/-! ## The system -/

/-- What a PPU held at the last captured line, and whether a change was marked since. -/
structure Seen (P V : Type) where
  ppu : P
  vram : V
  vramWriteCount : UInt32
  marked : Bool

structure World (P V ρ σ ι : Type) where
  renderer : RasterState P ρ σ ι
  enabled : Bool
  ppus : P → Ppu V ρ
  seen : Option (Seen P V)

inductive RasterOp (P V ρ : Type) where
  | beginFrame
  | beginHardwareRaster (p : Option P)
  | endHardwareRaster
  | hardwareVramChanged
  | captureLine (p : Option P) (line : Int)
  | resetScene
  | enable (enabled : Bool)
  /-- A PPU is written to, or replaced where it stands. -/
  | write (p : P) (ppu : Ppu V ρ)

section World

variable {P V ρ σ ι : Type} [DecidableEq P] (B : Build) (S : SnapshotStore σ ι V)

def World.at (w : World P V ρ σ ι) (p : Option P) : Option (P × Ppu V ρ) :=
  p.map fun q => (q, w.ppus q)

def RasterOp.next (w : World P V ρ σ ι) : RasterOp P V ρ → World P V ρ σ ι
  | .beginFrame => { w with renderer := smwRendererBeginFrame S w.enabled w.renderer }
  | .beginHardwareRaster p =>
      { w with renderer := smwRendererBeginHardwareRaster B w.renderer (w.at p) }
  | .endHardwareRaster => { w with renderer := w.renderer.untracked }
  | .hardwareVramChanged =>
    { w with renderer := smwRendererHardwareVramChanged w.renderer
             seen := w.seen.map fun seen => { seen with marked := true } }
  | .captureLine none _ => w
  | .captureLine (some q) line =>
    { w with renderer := smwRendererCaptureLine B S w.enabled w.renderer (w.at (some q)) line
             seen := if Captures w.enabled w.renderer line then
               some ⟨q, (w.ppus q).vram, (w.ppus q).vramWriteCount, false⟩ else w.seen }
  | .resetScene => { w with renderer := w.renderer.untracked }
  | .enable enabled => { w with enabled }
  | .write p ppu => { w with ppus := Function.update w.ppus p ppu }

abbrev RasterEvent (P V ρ σ ι : Type) := World P V ρ σ ι × RasterOp P V ρ × World P V ρ σ ι

def rasterStep (a : World P V ρ σ ι) (op : RasterOp P V ρ) (b : World P V ρ σ ι) : Prop :=
  b = op.next B S a

/-- The program starts with nothing captured and nothing tracked. -/
def rasterStart (snapshots : σ) (enabled : Bool) (ppus : P → Ppu V ρ) : World P V ρ σ ι :=
  ⟨⟨snapshots, false, ⟨none, 0, false, false⟩, fun _ => none, 0⟩, enabled, ppus, none⟩

/-- At a line captured of the PPU of the line before, while it is tracked: its VRAM is what it was,
or its write count is not, or the change was marked. -/
def Announced : RasterEvent P V ρ σ ι → Prop
  | (a, .captureLine (some q) line, _) =>
    Captures a.enabled a.renderer line → a.renderer.hardwareRaster.tracking = true →
      ∀ seen, a.seen = some seen → seen.ppu = q → (a.ppus q).vram = seen.vram ∨
        (a.ppus q).vramWriteCount ≠ seen.vramWriteCount ∨ seen.marked = true
  | _ => True

/-- Another frame, or another capture of the line. -/
def Overwrites (line : Int) : RasterEvent P V ρ σ ι → Prop
  | (_, .beginFrame, _) => True
  | (a, .captureLine (some _) other, _) => Captures a.enabled a.renderer other ∧ other = line
  | _ => False

/-- Each change of a VRAM, by itself, moves the write count or is marked before the next line. -/
def EachAnnounced (steps : List (RasterEvent P V ρ σ ι)) : Prop :=
  ∀ before a q ppu b after, steps = before ++ (a, .write q ppu, b) :: after →
    a.renderer.hardwareRaster.tracking = true → ppu.vram ≠ (a.ppus q).vram →
      ppu.vramWriteCount ≠ (a.ppus q).vramWriteCount ∨
      ∃ between c d rest, after = between ++ (c, .hardwareVramChanged, d) :: rest ∧
        ∀ x ∈ between, ∀ p line, x.2.1 ≠ .captureLine p line

end World

/-! ## The shortcut is safe -/

section Untracked

variable {P V ρ σ ι : Type} {B : Build} {S : SnapshotStore σ ι V} {w : World P V ρ σ ι}

/-- What the last captured line leaves behind for the shortcut. -/
structure Trusted (B : Build) (S : SnapshotStore σ ι V) (w : World P V ρ σ ι) : Prop where
  tracks : w.renderer.hardwareRaster.tracking = true → B.trackWrites = true
  last : w.renderer.hardwareRaster.tracking = true → w.renderer.hardwareRaster.uncertain = false →
    w.renderer.captureFailed = false → w.renderer.captured ≠ 0 → ∃ seen image, w.seen = some seen ∧
      w.renderer.hardwareRaster.ppu = some seen.ppu ∧
      w.renderer.hardwareRaster.writes = seen.vramWriteCount ∧ seen.marked = false ∧
      (S.images w.renderer.snapshots).getLast? = some image ∧
      S.contents w.renderer.snapshots image = seen.vram

/-- Nothing is claimed of a raster that is not tracked. -/
theorem Trusted.of_untracked (h : w.renderer.hardwareRaster.tracking = false) : Trusted B S w where
  tracks ht := absurd (h.symm.trans ht) Bool.false_ne_true
  last ht := absurd (h.symm.trans ht) Bool.false_ne_true

theorem trusted_start (snapshots : σ) (enabled : Bool) (ppus : P → Ppu V ρ) :
    Trusted B S (rasterStart snapshots enabled ppus : World P V ρ σ ι) := .of_untracked rfl

/-- Taking an image disturbs none of the store. -/
theorem lineImage_kept (hS : S.Lawful) {hr : HardwareRaster P} {s : RasterState P ρ σ ι}
    {ppu : Ppu V ρ} {image : ι}
    (h : image ∈ S.images s.snapshots) : image ∈ S.images (lineImage B S hr s ppu).1 ∧
      S.contents (lineImage B S hr s ppu).1 image = S.contents s.snapshots image := by
  unfold lineImage
  split
  · exact ⟨h, rfl⟩
  · exact hS.kept _ _ _ image h

end Untracked

section Trusted

variable {P V ρ σ ι : Type} [DecidableEq P] {B : Build} {S : SnapshotStore σ ι V}

section Checked

variable {hr : HardwareRaster P} {q : P} {ppu : Ppu V ρ}

@[simp] theorem checked_writes : (hr.checked B q ppu).writes = hr.writes := by
  unfold HardwareRaster.checked
  split <;> rfl

@[simp] theorem checked_uncertain : (hr.checked B q ppu).uncertain = hr.uncertain := by
  unfold HardwareRaster.checked
  split <;> rfl

@[simp] theorem checked_ppu : (hr.checked B q ppu).ppu = hr.ppu := by
  unfold HardwareRaster.checked
  split <;> rfl

/-- A raster still tracked behind the check is the one of this PPU. -/
theorem checked_tracking (h : (hr.checked B q ppu).tracking = true) :
    hr.tracking = true ∧ (B.trackWrites = true → hr.ppu = some q) := by
  unfold HardwareRaster.checked at h
  by_cases hlost : B.trackWrites = true ∧ (hr.ppu ≠ some q ∨ ppu.widescreenLineEnhancer = true)
  · rw [if_pos hlost] at h
    cases h
  · rw [if_neg hlost] at h
    refine ⟨h, fun htrack => ?_⟩
    by_cases hppu : hr.ppu = some q
    · exact hppu
    · exact absurd ⟨htrack, .inl hppu⟩ hlost

end Checked

/-- The image a line of the PPU at `q` is given, and the store behind it. -/
abbrev World.image (B : Build) (S : SnapshotStore σ ι V) (w : World P V ρ σ ι) (q : P) :
    σ × Option ι :=
  lineImage B S (w.renderer.hardwareRaster.checked B q (w.ppus q)) w.renderer (w.ppus q)

variable {w : World P V ρ σ ι} {q : P} {line : Int}

theorem next_captured (h : Captures w.enabled w.renderer line) :
    RasterOp.next B S w (.captureLine (some q) line) =
      { w with
        renderer :=
          { snapshots := (w.image B S q).1
            captureFailed := (w.image B S q).2.isNone
            hardwareRaster := if B.trackWrites then
                { w.renderer.hardwareRaster.checked B q (w.ppus q) with
                  writes := (w.ppus q).vramWriteCount, uncertain := false }
              else w.renderer.hardwareRaster.checked B q (w.ppus q)
            lines := Function.update w.renderer.lines (line - 1).toNat
              (some ⟨(w.ppus q).registers, (w.image B S q).2⟩)
            captured := if (w.image B S q).2.isNone then w.renderer.captured
            else w.renderer.captured + 1 }
        seen := some ⟨q, (w.ppus q).vram, (w.ppus q).vramWriteCount, false⟩ } := by
  unfold RasterOp.next World.at
  dsimp only [Option.map_some]
  rw [if_pos h]
  unfold smwRendererCaptureLine
  dsimp only
  rw [if_neg (not_not_intro h)]

theorem next_uncaptured (h : ¬ Captures w.enabled w.renderer line) :
    RasterOp.next B S w (.captureLine (some q) line) = w := by
  unfold RasterOp.next World.at
  dsimp only [Option.map_some]
  rw [if_neg h]
  unfold smwRendererCaptureLine
  dsimp only
  rw [if_pos h]

/-- The image of a line shows the VRAM, whichever way it came, and is the last of the store. -/
theorem image_exact (hS : S.Lawful) (h : Trusted B S w)
    (hcaptures : Captures w.enabled w.renderer line)
    {b : World P V ρ σ ι} (hannounced : Announced (w, .captureLine (some q) line, b)) {image : ι}
    (himage : (w.image B S q).2 = some image) :
    S.contents (w.image B S q).1 image = (w.ppus q).vram ∧ (S.images (w.image B S q).1).getLast? =
      some image := by
  unfold World.image lineImage at himage ⊢
  by_cases hshort : Shortcut B (w.renderer.hardwareRaster.checked B q (w.ppus q))
    w.renderer.captured (w.ppus q)
  · rw [if_pos hshort] at himage ⊢
    obtain ⟨htrackWrites, -, htracking, huncertain, hcaptured, hwrites⟩ := hshort
    rw [checked_uncertain] at huncertain
    rw [checked_writes] at hwrites
    obtain ⟨htracking, hppu⟩ := checked_tracking htracking
    obtain ⟨seen, last, hseen, hseenPpu, hcount, hmarked, hlast, hcontents⟩ :=
      h.last htracking huncertain hcaptures.1 hcaptured
    have hq : seen.ppu = q := Option.some.inj (hseenPpu.symm.trans (hppu htrackWrites))
    -- the count is what it was and nothing was marked, so the VRAM is what it was
    have hsame : (w.ppus q).vram = seen.vram := by
      rcases hannounced hcaptures htracking seen hseen hq with hvram | hne | hmark
      · exact hvram
      · exact absurd (hwrites.symm.trans hcount) hne
      · exact absurd (hmarked.symm.trans hmark) Bool.false_ne_true
    have hisLast : last = image := Option.some.inj (hlast.symm.trans himage)
    subst hisLast
    exact ⟨hcontents.trans hsame.symm, hlast⟩
  · rw [if_neg hshort] at himage ⊢
    exact hS.captured _ _ _ _ _ (Prod.ext rfl himage)

theorem Trusted.captureLine (hS : S.Lawful) (h : Trusted B S w) {b : World P V ρ σ ι}
    (hannounced : Announced (w, .captureLine (some q) line, b)) :
    Trusted B S (RasterOp.next B S w (.captureLine (some q) line)) := by
  by_cases hcaptures : Captures w.enabled w.renderer line
  · rw [next_captured hcaptures]
    by_cases htrackWrites : B.trackWrites = true
    · constructor
      · intro _
        exact htrackWrites
      · dsimp only
        rw [if_pos htrackWrites]
        intro htracking _ hfailed _
        cases himage : (w.image B S q).2 with
        | none => rw [himage] at hfailed; cases hfailed
        | some image =>
            obtain ⟨hcontents, hlast⟩ := image_exact hS h hcaptures hannounced himage
            refine ⟨_, image, rfl, ?_, rfl, rfl, hlast, hcontents⟩
            rw [← (checked_tracking htracking).2 htrackWrites]
            exact checked_ppu
    · refine .of_untracked ?_
      dsimp only
      rw [if_neg htrackWrites]
      by_contra htracking
      exact htrackWrites (h.tracks (checked_tracking (Bool.not_eq_false _ ▸ htracking)).1)
  · rw [next_uncaptured hcaptures]
    exact h

theorem Trusted.step (hS : S.Lawful) {op : RasterOp P V ρ} {a b : World P V ρ σ ι}
    (hstep : rasterStep B S a op b)
    (h : Trusted B S a) (hannounced : Announced (a, op, b)) : Trusted B S b := by
  subst hstep
  cases op with
  | beginFrame =>
      refine .of_untracked ?_
      show (smwRendererBeginFrame S a.enabled a.renderer).hardwareRaster.tracking = false
      unfold smwRendererBeginFrame
      dsimp only
      split <;> rfl
  | beginHardwareRaster p =>
      cases p with
      | none => exact .of_untracked rfl
      | some q =>
          show Trusted B S
            { a with renderer := smwRendererBeginHardwareRaster B a.renderer (some (q, a.ppus q)) }
          unfold smwRendererBeginHardwareRaster
          dsimp only
          split
          · rename_i hbuild
            exact ⟨fun _ => (Bool.and_eq_true_iff.1 hbuild).1, fun _ huncertain =>
              nomatch huncertain⟩
          · exact .of_untracked rfl
  | endHardwareRaster => exact .of_untracked rfl
  | hardwareVramChanged => exact ⟨h.tracks, fun _ huncertain => nomatch huncertain⟩
  | captureLine p line =>
      cases p with
      | none => exact h
      | some q => exact h.captureLine hS hannounced
  | resetScene => exact .of_untracked rfl
  | enable enabled => exact ⟨h.tracks, h.last⟩
  | write q ppu => exact ⟨h.tracks, h.last⟩

end Trusted

/-! ## A line to the end of its frame -/

section Line

variable {P V ρ σ ι : Type} [DecidableEq P] {B : Build} {S : SnapshotStore σ ι V}

/-- The line is recorded with these registers and an image that shows this VRAM. -/
def Shows (S : SnapshotStore σ ι V) (line : Int) (registers : ρ) (vram : V)
    (w : World P V ρ σ ι) : Prop :=
  ∃ image, w.renderer.lines (line - 1).toNat = some ⟨registers, some image⟩ ∧
    image ∈ S.images w.renderer.snapshots ∧ S.contents w.renderer.snapshots image = vram

variable {a b : World P V ρ σ ι} {op : RasterOp P V ρ} {line : Int}

theorem trusted_run (hS : S.Lawful) {s t : World P V ρ σ ι} {steps : List (RasterEvent P V ρ σ ι)}
    (hrun : Run (rasterStep B S) s steps t) (h : Trusted B S s)
    (hannounced : ∀ x ∈ steps, Announced x) :
    Trusted B S t := by
  induction hrun with
  | nil => exact h
  | cons hstep _ ih =>
      rw [List.forall_mem_cons] at hannounced
      exact ih (h.step hS hstep hannounced.1) hannounced.2

/-- A line that is captured shows what the PPU holds. -/
theorem captured_shows (hS : S.Lawful) (h : Trusted B S a) {q : P}
    (hstep : rasterStep B S a (.captureLine (some q) line) b)
    (hannounced : Announced (a, .captureLine (some q) line, b))
    (hcaptures : Captures a.enabled a.renderer line)
    (hsuccess : b.renderer.captureFailed = false) :
    Shows S line (a.ppus q).registers (a.ppus q).vram b := by
  unfold rasterStep at hstep
  rw [next_captured hcaptures] at hstep
  subst hstep
  cases himage : (a.image B S q).2 with
  | none =>
      dsimp only at hsuccess
      rw [himage] at hsuccess
      cases hsuccess
  | some image =>
      obtain ⟨hcontents, hlast⟩ := image_exact hS h hcaptures hannounced himage
      refine ⟨image, ?_, List.mem_of_getLast? hlast, hcontents⟩
      dsimp only
      rw [Function.update_self]

theorem Shows.step (hS : S.Lawful) {registers : ρ} {vram : V} (hstep : rasterStep B S a op b)
    (hline : 1 ≤ line) (hkeeps : ¬ Overwrites line (a, op, b)) (h : Shows S line registers vram a) :
    Shows S line registers vram b := by
  subst hstep
  cases op with
  | beginFrame => exact absurd trivial hkeeps
  | beginHardwareRaster p =>
      cases p with
      | none => exact h
      | some q =>
          show Shows S line registers vram
            { a with renderer := smwRendererBeginHardwareRaster B a.renderer (some (q, a.ppus q)) }
          unfold smwRendererBeginHardwareRaster
          dsimp only
          split <;> exact h
  | endHardwareRaster => exact h
  | hardwareVramChanged => exact h
  | captureLine p other =>
      cases p with
      | none => exact h
      | some q =>
          by_cases hcaptures : Captures a.enabled a.renderer other
          · have hother : other ≠ line := fun heq => hkeeps ⟨hcaptures, heq⟩
            have hslot : (line - 1).toNat ≠ (other - 1).toNat := by
              have := hcaptures.2.2.1
              omega
            obtain ⟨image, hrecorded, hmem, hcontents⟩ := h
            have hkept : image ∈ S.images (a.image B S q).1 ∧
                S.contents (a.image B S q).1 image = S.contents a.renderer.snapshots image :=
                lineImage_kept hS hmem
            obtain ⟨hmem', hsame⟩ := hkept
            rw [next_captured hcaptures]
            refine ⟨image, ?_, hmem', hsame.trans hcontents⟩
            dsimp only
            rw [Function.update_of_ne hslot, hrecorded]
          · rw [next_uncaptured hcaptures]
            exact h
  | resetScene => exact h
  | enable enabled => exact h
  | write q ppu => exact h

theorem shows_run (hS : S.Lawful) {registers : ρ} {vram : V} {s t : World P V ρ σ ι}
    {steps : List (RasterEvent P V ρ σ ι)} (hrun : Run (rasterStep B S) s steps t)
    (hline : 1 ≤ line)
    (hframe : ∀ x ∈ steps, ¬ Overwrites line x) (h : Shows S line registers vram s) :
    Shows S line registers vram t := by
  induction hrun with
  | nil => exact h
  | cons hstep _ ih =>
      rw [List.forall_mem_cons] at hframe
      exact ih hframe.2 (h.step hS hstep hline hframe.1)

/-- A line recorded in any run shows, to the end of its frame, the VRAM and the registers of the
moment it was captured. -/
theorem raster_capture_exact (hS : S.Lawful) (snapshots : σ) (enabled : Bool) (ppus : P → Ppu V ρ)
    {t : World P V ρ σ ι} {before rest : List (RasterEvent P V ρ σ ι)} {q : P}
    (hrun : Run (rasterStep B S) (rasterStart snapshots enabled ppus)
      (before ++ (a, .captureLine (some q) line, b) :: rest) t)
    (hannounced : ∀ x ∈ before ++ (a, .captureLine (some q) line, b) :: rest, Announced x)
    (hcaptures : Captures a.enabled a.renderer line) (hsuccess : b.renderer.captureFailed = false)
    (hframe : ∀ x ∈ rest, ¬ Overwrites line x) :
    Shows S line (a.ppus q).registers (a.ppus q).vram t := by
  obtain ⟨hbefore, hstep, hrest⟩ := hrun.split
  rw [List.forall_mem_append, List.forall_mem_cons] at hannounced
  obtain ⟨htold, hline, -⟩ := hannounced
  have htrusted : Trusted B S a :=
    trusted_run hS hbefore (trusted_start snapshots enabled ppus) htold
  exact shows_run hS hrest hcaptures.2.2.1 hframe
    (captured_shows hS htrusted hstep hline hcaptures hsuccess)

end Line

/-! ## A store, and two frames -/

section Example

/-- Images in the order they were taken, 224 at most; one equal to the last is that one. -/
def snapshotList : SnapshotStore (List Nat) Nat Nat where
  start _ := (true, [])
  capture s vram compare :=
    if compare = true ∧ s.getLast? = some vram then (s, some (s.length - 1))
    else if s.length < 224 then (s ++ [vram], some s.length)
    else (s, none)
  images s := List.range s.length
  contents s image := s.getD image 0

theorem snapshotList_lawful : snapshotList.Lawful where
  captured := by
    intro s vram compare s' image h
    unfold snapshotList at h ⊢
    dsimp only at h ⊢
    split at h
    · rename_i hlast
      cases h
      have hne : s ≠ [] := by
        rintro rfl
        cases hlast.2
      have hpos := List.length_pos_of_ne_nil hne
      have hlast := hlast.2
      rw [List.getLast?_eq_getElem?] at hlast
      exact ⟨by rw [List.getD_eq_getElem?_getD, hlast]; rfl, by
        rw [List.getLast?_range, if_neg (by omega)]⟩
    · split at h
      · cases h
        refine ⟨by simp, ?_⟩
        rw [List.length_append, List.length_singleton, List.getLast?_range, if_neg (by omega)]
        rfl
      · cases h
  kept := by
    intro s vram compare image h
    unfold snapshotList at h ⊢
    dsimp only at h ⊢
    have hlt := List.mem_range.1 h
    split
    · exact ⟨h, rfl⟩
    · split
      · refine ⟨List.mem_range.2 (by rw [List.length_append]; omega), ?_⟩
        exact List.getD_append _ _ _ _ hlt
      · exact ⟨h, rfl⟩

def shippedBuild : Build := ⟨true, false, false⟩

abbrev OnePpu := World Unit Nat Unit (List Nat) Nat

def rasterNext : OnePpu → RasterOp Unit Nat Unit → OnePpu := RasterOp.next shippedBuild snapshotList

def oneStart : OnePpu := rasterStart [] true fun _ => ⟨0, 0, false, ()⟩

/-- Tracking begins, and a line is captured. -/
def firstLine : List (RasterOp Unit Nat Unit) :=
  [.beginFrame, .beginHardwareRaster (some ()), .captureLine (some ()) 1]

theorem raster_run (ops : List (RasterOp Unit Nat Unit)) (s : OnePpu) :
    Run (rasterStep shippedBuild snapshotList) s (traceOf rasterNext s ops)
      (ops.foldl rasterNext s) :=
  @Run.trace _ _ (rasterStep shippedBuild snapshotList) rasterNext (fun _ _ => rfl) ops s

def oneLine : OnePpu := firstLine.foldl rasterNext oneStart

/-- A port write, and the line behind it. -/
def thirdLine : List (RasterOp Unit Nat Unit) :=
  [.write () ⟨1, 1, false, ()⟩, .captureLine (some ()) 3]

def twoLines : OnePpu := rasterNext oneLine (.captureLine (some ()) 2)

/-- The second line takes the image of the first; the third, behind a port write, gets its own. -/
theorem raster_capture_exact_shortcut :
    (thirdLine.foldl rasterNext twoLines).renderer.snapshots = [0, 1] ∧
    Shows snapshotList 2 () 0 (thirdLine.foldl rasterNext twoLines) := by
  refine ⟨rfl, ?_⟩
  have hrun : Run (rasterStep shippedBuild snapshotList) oneStart
      (traceOf rasterNext oneStart firstLine ++
        (oneLine, .captureLine (some ()) 2, twoLines) :: traceOf rasterNext twoLines thirdLine)
      (thirdLine.foldl rasterNext twoLines) :=
    (raster_run firstLine oneStart).append (.cons rfl (raster_run thirdLine twoLines))
  refine raster_capture_exact snapshotList_lawful [] true _ hrun ?_ (by decide +kernel) rfl ?_
  · intro x hx
    simp only [traceOf, firstLine, thirdLine, List.cons_append, List.nil_append, List.mem_cons,
      List.not_mem_nil, or_false] at hx
    rcases hx with rfl | rfl | rfl | rfl | rfl | rfl
    · trivial
    · trivial
    · intro _ _ seen hseen
      cases hseen
    · intro _ _ seen hseen _
      cases Option.some.inj hseen
      exact .inl rfl
    · trivial
    · intro _ _ seen hseen _
      cases Option.some.inj hseen
      exact .inr (.inl (by decide))
  · intro x hx
    simp only [traceOf, thirdLine, List.mem_cons, List.not_mem_nil, or_false] at hx
    rcases hx with rfl | rfl
    · exact id
    · exact fun h => absurd h.2 (by decide)

/-- A port write, and a PPU replaced where it stands that brings the old write count with it. -/
def restored : List (RasterOp Unit Nat Unit) :=
  firstLine ++ [.write () ⟨1, 1, false, ()⟩, .write () ⟨2, 0, false, ()⟩]

/-- Each of two changes moves the write count, and the second moves it back: the line shows neither.
-/
theorem write_count_restored :
    ¬ ∀ (before rest : List (RasterEvent Unit Nat Unit (List Nat) Nat)) (a b t : OnePpu)
    (line : Int), Run (rasterStep shippedBuild snapshotList) oneStart
      (before ++ (a, .captureLine (some ()) line, b) :: rest) t →
    EachAnnounced (before ++ (a, .captureLine (some ()) line, b) :: rest) →
    Captures a.enabled a.renderer line → b.renderer.captureFailed = false →
    (∀ x ∈ rest, ¬ Overwrites line x) → Shows snapshotList line () (a.ppus ()).vram t := by
  intro hclaim
  let a := restored.foldl rasterNext oneStart
  let b := rasterNext a (.captureLine (some ()) 2)
  have hrun : Run (rasterStep shippedBuild snapshotList) oneStart
      (traceOf rasterNext oneStart restored ++ [(a, .captureLine (some ()) 2, b)]) b :=
    (raster_run restored oneStart).append (.cons rfl (.nil _))
  have hannounced : EachAnnounced
    (traceOf rasterNext oneStart restored ++ [(a, .captureLine (some ()) 2, b)]) := by
    intro before c q ppu d after hsplit _ _
    have hmem : (c, RasterOp.write q ppu, d) ∈
        traceOf rasterNext oneStart restored ++ [(a, .captureLine (some ()) 2, b)] := by
      rw [hsplit]
      exact List.mem_append_right _ List.mem_cons_self
    simp only [traceOf, restored, firstLine, List.cons_append, List.nil_append, List.mem_cons,
      List.not_mem_nil, or_false] at hmem
    rcases hmem with h | h | h | h | h | h
    all_goals cases h
    · exact .inl (by decide)
    · exact .inl (by decide)
  obtain ⟨image, hline, -, hcontents⟩ := hclaim _ _ _ _ _ _ hrun hannounced (by decide +kernel) rfl
    (fun _ h => nomatch h)
  cases Option.some.inj hline
  cases hcontents

end Example

end SmwRecomp.Renderer
