import SmwRecomp.Falcon.Adapter

/-!
# The forced departure is bounded

* `Visit`, `Frame` — the seams between two ticks and the tick, each with the RAM and the foreign
  layer it finds; native code and the controllers are free between them.
* `Frame.held` — the adapter stored an airborne flag in the frame.
* `Tame` — a part of the adapter that stores the flag only to put the player on the ground.
* `held_spec` — what a frame that holds the flag does to the departure and its age.
* `departure_bounded` — the bound, while no departure is asked for again in the call that gives it
  up.
-/

set_option autoImplicit false

namespace SmwRecomp.Falcon

/-! ## Runs -/

inductive Seam where
  | crushCheck
  | afterPhysics (combat : Ram → Ram)
  | normalSprites
  | stateLoaded

structure Visit where
  seam : Seam
  ram : Ram
  foreign : ForeignLayer

namespace Visit

def host (v : Visit) (s : Adapter) : Host := ⟨v.ram, v.foreign, s, []⟩

def run (v : Visit) (s : Adapter) : Host :=
  match v.seam with
  | .crushCheck => beforeCrushCheck (v.host s)
  | .afterPhysics combat => afterPhysics (v.host s) combat
  | .normalSprites => beforeNormalSprites (v.host s)
  | .stateLoaded => onStateLoaded (v.host s)

/-- In this visit native collision accepts the departure. -/
def accepts (v : Visit) (s : Adapter) : Bool :=
  match v.seam with
  | .afterPhysics _ => (v.host s).liftAccepted
  | _ => false

end Visit

/-- The statics after some visits. -/
def visited (s : Adapter) : List Visit → Adapter
  | [] => s
  | v :: visits => visited (v.run s).s visits

/-- Every airborne flag the visits stored. -/
def visitWrites (s : Adapter) : List Visit → List UInt8
  | [] => []
  | v :: visits => (v.run s).airWrites ++ visitWrites (v.run s).s visits

/-- One of the visits accepts the departure. -/
def liftedBy (s : Adapter) : List Visit → Bool
  | [] => false
  | v :: visits => v.accepts s || liftedBy (v.run s).s visits

/-- A player frame: what was visited since the last tick, and the tick. -/
structure Frame where
  visits : List Visit
  ram : Ram
  foreign : ForeignLayer
  tick : Tick

namespace Frame

def start (f : Frame) (s : Adapter) : Host := ⟨f.ram, f.foreign, visited s f.visits, []⟩

def step (f : Frame) (s : Adapter) : Host := beforePhysics (f.start s) f.tick

/-- The adapter stored an airborne flag since the last tick. -/
def held (f : Frame) (s : Adapter) : Prop :=
  ∃ w ∈ visitWrites s f.visits ++ (f.step s).airWrites, w ≠ 0

/-- The frame starts with a departure pending and drops it before the controller is asked, without
native collision having accepted it: it timed out, or the player was put back on the ground. -/
def GivesUp (f : Frame) (s : Adapter) : Prop :=
  s.forceAirbornePending = true ∧ liftedBy s f.visits = false ∧
    (beforeTick (f.start s) f.tick).1.s.forceAirbornePending = false

/-- The controller is asked in the frame, and it asks for a departure. -/
def Requests (f : Frame) (s : Adapter) : Prop :=
  (beforeTick (f.start s) f.tick).2 = true ∧
    (controllerTick (beforeTick (f.start s) f.tick).1 f.tick).requestsDeparture = true

end Frame

/-- The statics in front of frame `n`. -/
def adapterAt (s : Adapter) (frames : Nat → Frame) : Nat → Adapter
  | 0 => s
  | n + 1 => ((frames n).step (adapterAt s frames n)).s

/-- `len` frames in a row hold the flag, and no lift is accepted between two of them. -/
def Pinned (s : Adapter) (frames : Nat → Frame) (n len : Nat) : Prop :=
  (∀ i < len, (frames (n + i)).held (adapterAt s frames (n + i))) ∧
    ∀ i, i + 1 < len →
      liftedBy (adapterAt s frames (n + i + 1)) (frames (n + i + 1)).visits = false

/-- The statics a program starts with. -/
def startAdapter : Adapter where
  pending := false
  forceAirbornePending := false
  forceAirborneFrames := 0
  stepWall := ⟨false, 0, 0, 0, 0, 0, 0, 0, 0⟩
  wallSafety := ⟨0, false, false, 0, 0, 0, 0, 0, 0⟩
  before := ⟨0, 0, 0, 0, 0⟩
  lastMove := ⟨0, 0, 0, false⟩
  lastInputDirection := 0

/-! ## Parts that store no airborne flag -/

/-- A held wall was latched on the ground. -/
def Adapter.Grounded (s : Adapter) : Prop := s.stepWall.latched = true → s.stepWall.inAir = 0

/-- The departure and its age. -/
def Adapter.edge (s : Adapter) : Bool × Nat := (s.forceAirbornePending, s.forceAirborneFrames)

/-- A part of the adapter that can only lose the departure and ground the player. -/
structure Tame (h h' : Host) : Prop where
  writes : ∀ w ∈ h'.airWrites, w ∈ h.airWrites ∨ w = 0
  edge : h'.s.edge = h.s.edge ∨ h'.s.forceAirbornePending = false
  grounded : h.s.Grounded → h'.s.Grounded

theorem pending_of_edge {s t : Adapter} (h : s.edge = t.edge) :
    s.forceAirbornePending = t.forceAirbornePending := congrArg Prod.fst h

theorem frames_of_edge {s t : Adapter} (h : s.edge = t.edge) :
    s.forceAirborneFrames = t.forceAirborneFrames := congrArg Prod.snd h

namespace Tame

variable {h h' h'' : Host}

theorem refl (h : Host) : Tame h h := ⟨fun _ hw => Or.inl hw, Or.inl rfl, id⟩

theorem trans (first : Tame h h') (second : Tame h' h'') : Tame h h'' := by
  refine ⟨fun w hw => ?_, ?_, fun hg => second.grounded (first.grounded hg)⟩
  · rcases second.writes w hw with hin | hzero
    · exact first.writes w hin
    · exact Or.inr hzero
  · rcases second.edge with hsame | hlost
    · rcases first.edge with hsame' | hlost'
      · exact Or.inl (hsame.trans hsame')
      · exact Or.inr ((pending_of_edge hsame).trans hlost')
    · exact Or.inr hlost

/-- What leaves the stores and the latch alone, and the departure alone or lost. -/
theorem of_same (hw : h'.airWrites = h.airWrites) (hl : h'.s.stepWall = h.s.stepWall)
    (he : h'.s.edge = h.s.edge ∨ h'.s.forceAirbornePending = false) : Tame h h' := by
  refine ⟨fun w hin => Or.inl (hw ▸ hin), he, fun hg => ?_⟩
  unfold Adapter.Grounded
  rw [hl]
  exact hg

/-- What follows a tame part and leaves the stores and the latch alone. -/
theorem then_same (first : Tame h h') (hw : h''.airWrites = h'.airWrites)
    (hl : h''.s.stepWall = h'.s.stepWall)
    (he : h''.s.edge = h'.s.edge ∨ h''.s.forceAirbornePending = false) : Tame h h'' :=
  first.trans (of_same hw hl he)

theorem ite {p : Prop} [Decidable p] (first : p → Tame h h') (second : Tame h h'') :
    Tame h (if p then h' else h'') := by
  by_cases hp : p
  · rw [if_pos hp]
    exact first hp
  · rw [if_neg hp]
    exact second

theorem clearStepWallLatch (h : Host) : Tame h h.clearStepWallLatch :=
  ⟨fun _ hw => Or.inl hw, Or.inl rfl, fun _ hl => absurd hl Bool.false_ne_true⟩

theorem setInAir (h : Host) {value : UInt8} (hzero : value = 0) : Tame h (h.setInAir value) := by
  refine ⟨fun w hw => ?_, Or.inl rfl, id⟩
  rcases List.mem_cons.1 hw with rfl | hin
  · exact Or.inr hzero
  · exact Or.inl hin

theorem restoreStepWallLatch (h : Host) (hzero : h.s.stepWall.inAir = 0) :
    Tame h h.restoreStepWallLatch :=
  (setInAir h hzero).then_same rfl rfl (Or.inl rfl)

theorem latchWall (h : Host) (w : StepWall) (hzero : w.inAir = 0) : Tame h (h.latchWall w) := by
  refine ⟨fun v hv => ?_, Or.inl rfl, fun _ _ => hzero⟩
  rcases List.mem_cons.1 hv with rfl | hin
  · exact Or.inr hzero
  · exact Or.inl hin

theorem installStepWallLatch (h : Host) (blocked : UInt8) (hzero : h.s.before.inAir = 0) :
    Tame h (h.installStepWallLatch blocked) := latchWall h _ hzero

theorem installCurrentStepWallLatch (h : Host) (direction : Int) (blocked : UInt8)
    (hzero : h.ram.playerInAirFlag = 0) :
    Tame h (h.installCurrentStepWallLatch direction blocked) := latchWall h _ hzero

theorem dropDeparture (h : Host) : Tame h h.dropDeparture := of_same rfl rfl (Or.inr rfl)

theorem forgetWallSafety (h : Host) : Tame h h.forgetWallSafety := of_same rfl rfl (Or.inl rfl)

theorem noteWallSafetyContext (h : Host) : Tame h h.noteWallSafetyContext :=
  of_same rfl rfl (Or.inl rfl)

theorem rememberWallSafeGround (h : Host) : Tame h h.rememberWallSafeGround := by
  unfold Host.rememberWallSafeGround
  extract_lets r
  split_ifs
  · exact refl h
  · exact of_same rfl rfl (Or.inl rfl)

theorem resolve (h : Host) : Tame h h.resolve := by
  unfold Host.resolve
  split_ifs
  · exact of_same rfl rfl (Or.inl rfl)
  · exact refl h

theorem restoreWallSafeGround (h : Host) : Tame h h.restoreWallSafeGround := by
  unfold Host.restoreWallSafeGround
  split
  · extract_lets safety observed blocked direction stood told dropped
    have hstood : Tame h stood := (setInAir h rfl).then_same rfl rfl (Or.inl rfl)
    have htold : Tame stood told ∧ told.ram.playerInAirFlag = 0 := by
      unfold told
      split
      · have hseeded : Tame stood (stood.reseed stood.foreign.state) := of_same rfl rfl (Or.inl rfl)
        refine ⟨hseeded.trans (Tame.resolve _), ?_⟩
        unfold Host.resolve
        split_ifs <;> rfl
      · exact ⟨refl _, rfl⟩
    have hlatched := Tame.installCurrentStepWallLatch told direction blocked htold.2
    exact ((hstood.trans htold.1).trans (hlatched.trans (Tame.dropDeparture _))).then_same rfl rfl
      (Or.inl rfl)
  · exact refl h

theorem reclaim (h : Host) : Tame h h.reclaim.1 := by
  unfold Host.reclaim
  split
  · dsimp only
    split
    · exact Tame.clearStepWallLatch h
    · exact (Tame.clearStepWallLatch h).then_same rfl rfl (Or.inl rfl)
  · exact refl h

end Tame

/-! ## The tick -/

/-- Up to the pre-tick hold the call is tame; a call that goes on ages a pending departure. -/
theorem beforeTick_spec (h : Host) (t : Tick) :
    ((beforeTick h t).2 = false ∧ Tame h (beforeTick h t).1) ∨
    ((beforeTick h t).2 = true ∧ ∃ h', Tame h h' ∧ (beforeTick h t).1 =
      if h'.s.forceAirbornePending then h'.holdDepartureEdge true else h') := by
  have hrestored := Tame.restoreWallSafeGround h
  unfold beforeTick
  extract_lets restored reclaimed snapped
  split
  · exact Or.inl
      ⟨rfl, (hrestored.trans (Tame.clearStepWallLatch _)).trans (Tame.forgetWallSafety _)⟩
  split
  · have hscripted : Tame h restored.handOver := hrestored.then_same rfl rfl (Or.inl rfl)
    exact Or.inl ⟨rfl, (hscripted.trans (Tame.dropDeparture _)).trans (Tame.clearStepWallLatch _)⟩
  have hreclaimed := hrestored.trans (Tame.reclaim _)
  split
  · rename_i hgoes
    exact Or.inl ⟨by simpa using hgoes, hreclaimed⟩
  · refine Or.inr ⟨rfl, snapped, ?_, rfl⟩
    exact ((hreclaimed.trans (Tame.noteWallSafetyContext _)).trans
      (Tame.rememberWallSafeGround _)).then_same rfl rfl (Or.inl rfl)

theorem tame_heldWall (h : Host) (input : ForeignInput) : Tame h (heldWall h input).1 := by
  unfold heldWall
  split
  · split
    · exact Tame.clearStepWallLatch h
    · exact Tame.refl h
  · exact Tame.refl h

theorem tame_seedHeldWall (h : Host) (input : ForeignInput) : Tame h (seedHeldWall h input).1 := by
  unfold seedHeldWall
  extract_lets direction side
  split
  · rename_i hwall
    exact Tame.installCurrentStepWallLatch h _ _ hwall.2.2.1
  · exact Tame.refl h

theorem tame_controllerTick (h : Host) (t : Tick) : Tame h (controllerTick h t) := by
  have htold : Tame h (h.tellGround t.input) := Tame.of_same rfl rfl (Or.inl rfl)
  have hseeded := htold.trans (tame_seedHeldWall _ t.input)
  exact (hseeded.trans (tame_heldWall _ _)).then_same rfl rfl (Or.inl rfl)

/-- The tick leaves the departure as it is. -/
theorem controllerTick_edge (h : Host) (t : Tick) : (controllerTick h t).s.edge = h.s.edge := by
  have hseed : ∀ h : Host, ∀ input, (seedHeldWall h input).1.s.edge = h.s.edge := by
    intro h input
    unfold seedHeldWall
    extract_lets
    split <;> rfl
  have hheld : ∀ h : Host, ∀ input, (heldWall h input).1.s.edge = h.s.edge := by
    intro h input
    unfold heldWall
    split
    · split <;> rfl
    · rfl
  exact (hheld _ _).trans (hseed _ _)

theorem tame_commitVelocity (h : Host) (hg : h.s.Grounded) : Tame h (commitVelocity h) := by
  unfold commitVelocity
  split
  · rename_i hlatched
    exact (Tame.restoreStepWallLatch h (hg hlatched)).then_same rfl rfl (Or.inl rfl)
  · exact Tame.of_same rfl rfl (Or.inl rfl)

theorem commitVelocity_edge (h : Host) : (commitVelocity h).s.edge = h.s.edge := by
  unfold commitVelocity
  split <;> rfl

theorem commitVelocity_requests (h : Host) :
    (commitVelocity h).requestsDeparture = h.requestsDeparture := by
  unfold commitVelocity
  split <;> rfl

/-! ## The hold -/

theorem hold_timeout {h : Host} (hp : h.s.forceAirbornePending = true)
    (hold : SMW_FALCON_DEPARTURE_MAX_FRAMES ≤ h.s.forceAirborneFrames) :
    Tame h (h.holdDepartureEdge true) ∧
    (h.holdDepartureEdge true).s.forceAirbornePending = false := by
  unfold Host.holdDepartureEdge
  extract_lets frames raised
  have hlate : frames > SMW_FALCON_DEPARTURE_MAX_FRAMES := Nat.lt_succ_of_le hold
  rw [if_neg (not_not.2 hp), if_pos ⟨rfl, hlate⟩]
  exact ⟨Tame.of_same rfl rfl (Or.inr rfl), rfl⟩

theorem hold_ages {h : Host} (hp : h.s.forceAirbornePending = true)
    (hyoung : h.s.forceAirborneFrames < SMW_FALCON_DEPARTURE_MAX_FRAMES) :
    (h.holdDepartureEdge true).s =
      { h.s with forceAirborneFrames := h.s.forceAirborneFrames + 1 } := by
  unfold Host.holdDepartureEdge
  extract_lets frames raised
  have hearly : ¬ (true = true ∧ frames > SMW_FALCON_DEPARTURE_MAX_FRAMES) :=
    fun hlate => absurd hlate.2 (Nat.not_lt.2 hyoung)
  rw [if_neg (not_not.2 hp), if_neg hearly]
  split <;> rfl

theorem hold_keeps {h : Host} (hp : h.s.forceAirbornePending = true) :
    (h.holdDepartureEdge false).s = h.s := by
  unfold Host.holdDepartureEdge
  extract_lets frames raised
  rw [if_neg (not_not.2 hp), if_neg fun hlate => absurd hlate.1 Bool.false_ne_true]
  split <;> rfl

/-- What the end of the call does: it keeps a pending departure, starts one, or does nothing. -/
theorem armDeparture_cases (h : Host) :
    (h.s.forceAirbornePending = true ∧ (armDeparture h).s = h.s) ∨
    (h.s.forceAirbornePending = false ∧ h.requestsDeparture = true ∧
      (armDeparture h).s = { h.s with forceAirbornePending := true, forceAirborneFrames := 1 }) ∨
    (h.s.forceAirbornePending = false ∧ h.requestsDeparture = false ∧ armDeparture h = h) := by
  unfold armDeparture
  extract_lets started armed
  cases hp : h.s.forceAirbornePending with
  | true =>
    have hnone : started = false := by
      unfold started
      rw [hp]
      simp
    have harmed : armed = h := by
      unfold armed
      rw [hnone]
      rfl
    rw [harmed, hnone, if_pos hp]
    exact Or.inl ⟨rfl, hold_keeps hp⟩
  | false =>
    cases hr : h.requestsDeparture with
    | true =>
      have hstarted : started = true := by
        unfold started
        rw [hp, hr]
        simp
      have harmed : armed.s =
        { h.s with forceAirbornePending := true, forceAirborneFrames := 0 } := by
        unfold armed
        rw [hstarted]
        rfl
      have hpending : armed.s.forceAirbornePending = true := by rw [harmed]
      have hyoung : armed.s.forceAirborneFrames < SMW_FALCON_DEPARTURE_MAX_FRAMES := by
        rw [harmed]
        exact Nat.succ_pos 15
      rw [if_pos hpending, hstarted, hold_ages hpending hyoung, harmed]
      exact Or.inr (Or.inl ⟨rfl, rfl, rfl⟩)
    | false =>
      have hnone : started = false := by
        unfold started
        rw [hr]
        simp
      have harmed : armed = h := by
        unfold armed
        rw [hnone]
        rfl
      rw [harmed, hp]
      exact Or.inr (Or.inr ⟨rfl, rfl, rfl⟩)

/-- The pre-tick hold ends a departure that is as old as the bound, and ages a younger one. -/
theorem beforeTick_cases (h : Host) (t : Tick) :
    ((beforeTick h t).2 = false ∧ Tame h (beforeTick h t).1) ∨
    ((beforeTick h t).2 = true ∧ Tame h (beforeTick h t).1 ∧
      (beforeTick h t).1.s.forceAirbornePending = false) ∨
    ((beforeTick h t).2 = true ∧ ∃ h', Tame h h' ∧ h'.s.forceAirbornePending = true ∧
      h'.s.forceAirborneFrames < SMW_FALCON_DEPARTURE_MAX_FRAMES ∧
      (beforeTick h t).1.s =
        { h'.s with forceAirborneFrames := h'.s.forceAirborneFrames + 1 }) := by
  rcases beforeTick_spec h t with hstop | ⟨hgo, h', htame, heq⟩
  · exact Or.inl hstop
  · refine Or.inr ?_
    rw [heq]
    cases hp : h'.s.forceAirbornePending with
    | false => exact Or.inl ⟨hgo, htame, hp⟩
    | true =>
      rw [if_pos rfl]
      rcases Nat.lt_or_ge h'.s.forceAirborneFrames SMW_FALCON_DEPARTURE_MAX_FRAMES
        with hyoung | hold
      · exact Or.inr ⟨hgo, h', htame, hp, hyoung, hold_ages hp hyoung⟩
      · have hended := hold_timeout hp hold
        exact Or.inl ⟨hgo, htame.trans hended.1, hended.2⟩

/-! ## The visits -/

theorem tame_crushCheck (h : Host) : Tame h (beforeCrushCheck h) := by
  unfold beforeCrushCheck
  extract_lets r b dy state kick motion side
  split
  · exact Tame.refl h
  rename_i hgate
  have hzero : b.inAir = 0 := by
    by_contra hne
    exact hgate (Or.inr (Or.inr (Or.inr (Or.inr (Or.inr (Or.inl hne))))))
  split
  · exact Tame.refl h
  split
  · exact Tame.refl h
  split
  · have hstopped : Tame h (h.stopAtWall ((r.playerBlockedFlags &&& 0x03) ||| 0x04)) :=
      (Tame.setInAir h hzero).then_same rfl rfl (Or.inl rfl)
    exact (hstopped.trans (Tame.resolve _)).trans (Tame.dropDeparture _)
  · exact Tame.installStepWallLatch h _ hzero

theorem tame_afterPhysics (h : Host) (combat : Ram → Ram) : Tame h (afterPhysics h combat) := by
  unfold afterPhysics
  split
  · exact Tame.refl h
  extract_lets grounded lifted state side expected latched
  have hlifted : Tame h lifted := by
    unfold lifted
    split
    · exact Tame.of_same rfl rfl (Or.inr rfl)
    · exact Tame.refl h
  have hlatched : Tame lifted latched := by
    unfold latched
    exact Tame.ite (fun hwall => Tame.installStepWallLatch lifted _ hwall.2.2.2.1)
      (Tame.refl lifted)
  have hfought : Tame latched (latched.withRam (combat latched.ram)) :=
    Tame.of_same rfl rfl (Or.inl rfl)
  have hsettled := ((hfought.trans (Tame.resolve _)).trans (Tame.restoreWallSafeGround _)).trans
    (Tame.rememberWallSafeGround _)
  exact ((hlifted.trans hlatched).trans hsettled).then_same rfl rfl (Or.inl rfl)

theorem tame_normalSprites (h : Host) : Tame h (beforeNormalSprites h) := by
  refine (Tame.restoreWallSafeGround h).trans ?_
  show Tame _ (finishSkippedDirectAirKickLanding _)
  unfold finishSkippedDirectAirKickLanding
  split
  · exact Tame.refl _
  · exact (Tame.resolve _).then_same rfl rfl (Or.inl rfl)

theorem tame_stateLoaded (h : Host) : Tame h (onStateLoaded h) := by
  have hforgotten := (Tame.dropDeparture h).trans (Tame.forgetWallSafety _)
  exact (hforgotten.trans (Tame.clearStepWallLatch _)).then_same rfl rfl (Or.inl rfl)

theorem Visit.tame (v : Visit) (s : Adapter) : Tame (v.host s) (v.run s) := by
  unfold Visit.run
  split
  · exact tame_crushCheck _
  · exact tame_afterPhysics _ _
  · exact tame_normalSprites _
  · exact tame_stateLoaded _

/-- Between two ticks the adapter only grounds the player, and a departure is at most lost. -/
theorem visits_spec (visits : List Visit) : ∀ s : Adapter, s.Grounded →
    (∀ w ∈ visitWrites s visits, w = 0) ∧ (visited s visits).Grounded ∧
      ((visited s visits).edge = s.edge ∨ (visited s visits).forceAirbornePending = false) := by
  induction visits with
  | nil => exact fun s hg => ⟨(fun _ hw => nomatch hw), hg, Or.inl rfl⟩
  | cons v visits ih =>
    intro s hg
    have hv := v.tame s
    obtain ⟨hwrites, hgrounded, hedge⟩ := ih (v.run s).s (hv.grounded hg)
    refine ⟨fun w hw => ?_, hgrounded, ?_⟩
    · rcases List.mem_append.1 hw with hin | hin
      · exact (hv.writes w hin).resolve_left (List.not_mem_nil)
      · exact hwrites w hin
    · rcases hedge with hsame | hlost
      · rcases hv.edge with hsame' | hlost'
        · exact Or.inl (hsame.trans hsame')
        · exact Or.inr ((pending_of_edge hsame).trans hlost')
      · exact Or.inr hlost

/-! ## Frames -/

/-- The call up to its departure edge. -/
def Frame.committed (f : Frame) (s : Adapter) : Host :=
  commitVelocity (controllerTick (beforeTick (f.start s) f.tick).1 f.tick).noteWallSafetyContext

namespace Frame

theorem committed_edge (f : Frame) (s : Adapter) :
    (f.committed s).s.edge = (beforeTick (f.start s) f.tick).1.s.edge :=
  (commitVelocity_edge _).trans (controllerTick_edge _ _)

theorem committed_requests (f : Frame) (s : Adapter) :
    (f.committed s).requestsDeparture =
      (controllerTick (beforeTick (f.start s) f.tick).1 f.tick).requestsDeparture :=
  commitVelocity_requests _

theorem committed_tame (f : Frame) (s : Adapter)
    (hg : (beforeTick (f.start s) f.tick).1.s.Grounded) :
    Tame (beforeTick (f.start s) f.tick).1 (f.committed s) := by
  have htick := (tame_controllerTick (beforeTick (f.start s) f.tick).1 f.tick).trans
    (Tame.noteWallSafetyContext _)
  exact htick.trans (tame_commitVelocity _ (htick.grounded hg))

end Frame

/-- **What a frame that holds the flag does**: a departure is pending behind it and not older than
the bound; one that was pending and is not given up has grown one frame older. -/
theorem held_spec {f : Frame} {s : Adapter} (hg : s.Grounded) (hheld : f.held s) :
    (f.step s).s.forceAirbornePending = true ∧ 1 ≤ (f.step s).s.forceAirborneFrames ∧
      (f.step s).s.forceAirborneFrames ≤ SMW_FALCON_DEPARTURE_MAX_FRAMES ∧
      (s.forceAirbornePending = true → liftedBy s f.visits = false →
        (f.GivesUp s → ¬ f.Requests s) →
        (f.step s).s.forceAirborneFrames = s.forceAirborneFrames + 1) := by
  obtain ⟨hvisits, hgrounded, hedge⟩ := visits_spec f.visits s hg
  have hstored : ∃ w ∈ (f.step s).airWrites, w ≠ 0 := by
    obtain ⟨w, hw, hne⟩ := hheld
    rcases List.mem_append.1 hw with hin | hin
    · exact absurd (hvisits w hin) hne
    · exact ⟨w, hin, hne⟩
  -- a call that is tame to its end holds nothing
  have hnot : ∀ h, Tame (f.start s) h → ¬ ∃ w ∈ h.airWrites, w ≠ 0 := by
    rintro h htame ⟨w, hw, hne⟩
    exact hne ((htame.writes w hw).resolve_left List.not_mem_nil)
  rcases beforeTick_cases (f.start s) f.tick with ⟨hstop, htame⟩ | ⟨hgo, htame, hlost⟩ |
    ⟨hgo, aged, haged, hpending, hyoung, hpre⟩
  · have hstep : f.step s = (beforeTick (f.start s) f.tick).1 :=
      if_neg fun h => absurd (hstop.symm.trans h) Bool.false_ne_true
    exact absurd (hstep ▸ hstored) (hnot _ htame)
  all_goals
    have hstep : f.step s = armDeparture (f.committed s) := if_pos hgo
  · -- nothing is pending: the flag is stored only for a departure that starts now
    have hnone : (f.committed s).s.forceAirbornePending = false :=
      (pending_of_edge (f.committed_edge s)).trans hlost
    rcases armDeparture_cases (f.committed s) with ⟨hp, _⟩ | ⟨_, hreq, hs⟩ | ⟨_, _, hsame⟩
    · exact absurd (hnone.symm.trans hp) Bool.false_ne_true
    · rw [hstep, hs]
      refine ⟨rfl, Nat.le_refl 1, Nat.succ_pos 15, fun hp hl hnorearm => ?_⟩
      exact absurd ⟨hgo, (f.committed_requests s).symm.trans hreq⟩ (hnorearm ⟨hp, hl, hlost⟩)
    · have hcommitted := htame.trans (f.committed_tame s (htame.grounded hgrounded))
      exact absurd ((hstep.trans hsame) ▸ hstored) (hnot _ hcommitted)
  · have hedge' : (f.committed s).s.edge = (true, aged.s.forceAirborneFrames + 1) := by
      rw [f.committed_edge s, hpre]
      unfold Adapter.edge
      rw [hpending]
    rcases armDeparture_cases (f.committed s) with ⟨_, hs⟩ | ⟨hp, _⟩ | ⟨hp, _⟩
    · rw [hstep, hs, show (f.committed s).s.forceAirbornePending = true
        from congrArg Prod.fst hedge',
        show (f.committed s).s.forceAirborneFrames = aged.s.forceAirborneFrames + 1 from
          congrArg Prod.snd hedge']
      refine ⟨rfl, Nat.succ_pos _, hyoung, fun _ _ _ => ?_⟩
      -- it was pending all the way, so its age is that of the frame before
      have hstart : aged.s.edge = (visited s f.visits).edge :=
        haged.edge.resolve_right fun h => absurd (hpending.symm.trans h) Bool.noConfusion
      have hbefore : (visited s f.visits).edge = s.edge :=
        hedge.resolve_right fun h =>
          absurd (hpending.symm.trans ((pending_of_edge hstart).trans h)) Bool.noConfusion
      rw [frames_of_edge (hstart.trans hbefore)]
    all_goals exact absurd ((congrArg Prod.fst hedge').symm.trans hp) Bool.noConfusion

/-- Every frame keeps the latch of a held wall on the ground. -/
theorem Frame.step_grounded (f : Frame) {s : Adapter} (hg : s.Grounded) :
    (f.step s).s.Grounded := by
  have hstart := (visits_spec f.visits s hg).2.1
  have hdone : (beforeTick (f.start s) f.tick).1.s.Grounded →
    (armDeparture (f.committed s)).s.Grounded := by
    intro hbefore
    have hcommitted := (f.committed_tame s hbefore).grounded hbefore
    rcases armDeparture_cases (f.committed s) with ⟨_, hs⟩ | ⟨_, _, hs⟩ | ⟨_, _, hs⟩
    all_goals
      rw [hs]
      exact hcommitted
  rcases beforeTick_cases (f.start s) f.tick with ⟨hstop, htame⟩ | ⟨hgo, htame, _⟩ |
    ⟨hgo, aged, haged, _, _, hpre⟩
  · rw [show f.step s = (beforeTick (f.start s) f.tick).1 from
      if_neg fun h => absurd (hstop.symm.trans h) Bool.false_ne_true]
    exact htame.grounded hstart
  · rw [show f.step s = armDeparture (f.committed s) from if_pos hgo]
    exact hdone (htame.grounded hstart)
  · rw [show f.step s = armDeparture (f.committed s) from if_pos hgo]
    refine hdone ?_
    rw [hpre]
    exact haged.grounded hstart

theorem grounded_run (frames : Nat → Frame) (n : Nat) :
    (adapterAt startAdapter frames n).Grounded := by
  induction n with
  | zero => exact fun h => absurd h Bool.false_ne_true
  | succ n ih => exact (frames n).step_grounded ih

/-- Along a hold the departure grows older every frame, and no older than the bound. -/
theorem pinned_age {frames : Nat → Frame} {n len : Nat}
    (hnorearm : ∀ m, (frames m).GivesUp (adapterAt startAdapter frames m) →
      ¬ (frames m).Requests (adapterAt startAdapter frames m))
    (h : Pinned startAdapter frames n len) (i : Nat) (hi : i < len) :
    (adapterAt startAdapter frames (n + i + 1)).forceAirbornePending = true ∧
      i + 1 ≤ (adapterAt startAdapter frames (n + i + 1)).forceAirborneFrames ∧
      (adapterAt startAdapter frames (n + i + 1)).forceAirborneFrames ≤
        SMW_FALCON_DEPARTURE_MAX_FRAMES := by
  induction i with
  | zero =>
    obtain ⟨hp, hone, hmax, _⟩ := held_spec (grounded_run frames (n + 0)) (h.1 0 hi)
    exact ⟨hp, hone, hmax⟩
  | succ i ih =>
    obtain ⟨hp, hage, _⟩ := ih (by omega)
    obtain ⟨hp', _, hmax', hgrow⟩ := held_spec (grounded_run frames (n + (i + 1))) (h.1 (i + 1) hi)
    have hgrown := hgrow hp (h.2 i hi) (hnorearm _)
    refine ⟨hp', ?_, hmax'⟩
    calc i + 1 + 1 ≤ (adapterAt startAdapter frames (n + i + 1)).forceAirborneFrames + 1 :=
          Nat.succ_le_succ hage
      _ = _ := hgrown.symm

/-- **The departure is bounded**: in a run in which no frame asks again for the departure it gives
up, the adapter holds the airborne flag for no more than the bound and one frame in a row, unless
native collision accepts a lift between two of them. -/
theorem departure_bounded (frames : Nat → Frame)
    (hnorearm : ∀ m, (frames m).GivesUp (adapterAt startAdapter frames m) →
      ¬ (frames m).Requests (adapterAt startAdapter frames m))
    (n len : Nat) (h : Pinned startAdapter frames n len) :
    len ≤ SMW_FALCON_DEPARTURE_MAX_FRAMES + 1 := by
  cases len with
  | zero => exact Nat.zero_le _
  | succ len =>
    obtain ⟨_, hage, hmax⟩ := pinned_age hnorearm h len (Nat.lt_succ_self len)
    omega

/-- Standing on the floor in ordinary play. -/
def standingRam : Ram where
  miscGameMode := 0x14
  playerCurrentState := 0
  flagAboutToWarpInPipe := 0
  playerPipeAction := 0
  timerEndLevel := 0
  timerEndLevelViaKeyhole := 0
  playerXpos := 0x100
  playerYpos := 0x140
  playerSubXpos := 0
  playerSubYpos := 0
  playerXspeed := 0
  playerYspeed := 0
  playerSubXspeed := 0
  playerSubYspeed := 0
  playerInAirFlag := 0
  playerFacingDirection := 1
  playerBlockedFlags := 0x04

/-- A fighter that stands and asks for nothing but a departure, in every frame. -/
def departingLayer (active : Bool) : ForeignLayer where
  active := active
  ownership := .foreign
  state := ⟨.is .wait, true, true, .none, .none⟩
  controller := {
    select := none
    resolve := id
    tick := fun _ state => (⟨0, 0, 0, true⟩, state) }

/-- A frame in which native collision put the player back on the floor. -/
def floorFrame (active : Bool) : Frame where
  visits := [⟨.afterPhysics id, standingRam, departingLayer active⟩]
  ram := standingRam
  foreign := departingLayer active
  tick := ⟨⟨0, 0, false, false, false, false, false, 0⟩, 0, 0⟩

/-- Without an active controller the call ends before the tick. -/
theorem beforeTick_inactive {h : Host} (t : Tick) (hinactive : h.foreign.active = false) :
    (beforeTick h t).2 = false := by
  have hstays : h.restoreWallSafeGround = h := by
    refine if_neg fun hrestore => absurd (hrestore.symm.trans (if_pos ?_)) Bool.noConfusion
    exact Or.inr (Or.inl (by rw [hinactive]; exact Bool.false_ne_true))
  unfold beforeTick
  rw [hstays, if_pos (by rw [hinactive]; exact Bool.false_ne_true)]

/-- The controller is deselected after three frames of a departure. -/
def deselected (m : Nat) : Frame := floorFrame (decide (m < 3))

theorem departure_bounded_deselected :
    Pinned startAdapter deselected 0 3 ∧ 3 ≤ SMW_FALCON_DEPARTURE_MAX_FRAMES + 1 := by
  have hlift : ∀ i < 2, liftedBy (adapterAt startAdapter deselected (0 + i + 1))
      (deselected (0 + i + 1)).visits = false := by decide +kernel
  have hheld : ∀ i < 3, (visitWrites (adapterAt startAdapter deselected (0 + i))
      (deselected (0 + i)).visits ++ ((deselected (0 + i)).step
        (adapterAt startAdapter deselected (0 + i))).airWrites).any (· ≠ 0) = true := by
    decide +kernel
  have hkept : ∀ m < 3, (adapterAt startAdapter deselected m).forceAirbornePending = false ∨
      (beforeTick ((deselected m).start (adapterAt startAdapter deselected m))
        (deselected m).tick).1.s.forceAirbornePending = true := by
    decide +kernel
  have hpinned : Pinned startAdapter deselected 0 3 := by
    refine ⟨fun i hi => ?_, fun i hi => hlift i (Nat.lt_of_succ_lt_succ hi)⟩
    obtain ⟨w, hw, hne⟩ := List.any_eq_true.1 (hheld i hi)
    exact ⟨w, hw, of_decide_eq_true hne⟩
  refine ⟨hpinned, departure_bounded deselected (fun m hgives hasks => ?_) 0 3 hpinned⟩
  rcases Nat.lt_or_ge m 3 with hlt | hge
  · rcases hkept m hlt with hnone | hkeeps
    · exact absurd (hgives.1.symm.trans hnone) Bool.noConfusion
    · exact absurd (hgives.2.2.symm.trans hkeeps) Bool.noConfusion
  · have hstops :=
      beforeTick_inactive (h := (deselected m).start (adapterAt startAdapter deselected m))
      (deselected m).tick (decide_eq_false (Nat.not_lt.2 hge))
    exact absurd (hasks.1.symm.trans hstops) Bool.noConfusion

theorem departure_unbounded :
    ¬ ∀ frames n len, Pinned startAdapter frames n len →
    len ≤ SMW_FALCON_DEPARTURE_MAX_FRAMES + 1 := by
  intro h
  have hlift : ∀ i < 17, liftedBy (adapterAt startAdapter (fun _ => floorFrame true) (0 + i + 1))
      (floorFrame true).visits = false := by decide +kernel
  have hheld : ∀ i < 18, (visitWrites (adapterAt startAdapter (fun _ => floorFrame true) (0 + i))
      (floorFrame true).visits ++ ((floorFrame true).step
        (adapterAt startAdapter (fun _ => floorFrame true) (0 + i))).airWrites).any
          (· ≠ 0) = true := by
    decide +kernel
  have hpinned : Pinned startAdapter (fun _ => floorFrame true) 0 18 := by
    refine ⟨fun i hi => ?_, fun i hi => hlift i (Nat.lt_of_succ_lt_succ hi)⟩
    obtain ⟨w, hw, hne⟩ := List.any_eq_true.1 (hheld i hi)
    exact ⟨w, hw, of_decide_eq_true hne⟩
  exact absurd (h _ 0 18 hpinned) (by decide)

end SmwRecomp.Falcon
