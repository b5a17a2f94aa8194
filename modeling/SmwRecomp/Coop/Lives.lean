import SmwRecomp.Coop.Order
import SmwRecomp.Lib.Run

/-!
# Lives and outcome over whole runs

* `Ledger` — the fields that no pass of `coop_session_resolve`, no camera operation and no recovery
  writes: lives and outcome, the clocks, the frame's flags and its stored events.
* `coopSessionResolve_cases` — everything one resolution can do to it.
* `LivesInv` — the invariant of the runs without restart.
* `team_life_run` — at most one life is charged, at the resolve that ends the attempt; a clear
  wins over every death of its frame; an ended attempt is frozen.
-/

set_option autoImplicit false

namespace SmwRecomp.Coop

/-! ## The ledger -/

structure Ledger where
  lives : UInt32
  outcome : CEnum CoopOutcome
  frame : UInt64
  primary : CoopPlayerId
  ticksPerSecond : UInt32
  advancing : Bool
  inputBlocked : Bool
  resolved : Bool
  events : List CoopEvent

def CoopSession.ledger (s : CoopSession) : Ledger :=
  ⟨s.lives, s.outcome, s.frame, s.primary, s.ticksPerSecond, s.advancing, s.inputBlocked,
    s.resolved, s.events⟩

section Ledger

variable {s : CoopSession}

@[simp] theorem ledger_emit (kind : CoopActionKind) (player : CoopPlayerId) (entity : CoopEntityId)
    (value : UInt32) : (emit s kind player entity value).ledger = s.ledger := by
  simp [CoopSession.ledger]

@[simp] theorem ledger_putPlayer (p : CoopPlayer) : (putPlayer s p).ledger = s.ledger := rfl

@[simp] theorem ledger_dropHeld (p : CoopPlayer) : (dropHeld s p).ledger = s.ledger := by
  unfold dropHeld; split <;> simp

@[simp] theorem ledger_detachMount (p : CoopPlayer) : (detachMount s p).ledger = s.ledger := by
  unfold detachMount; split <;> simp

@[simp] theorem ledger_dropReserve (p : CoopPlayer) : (dropReserve s p).ledger = s.ledger := by
  unfold dropReserve; split <;> simp

@[simp] theorem ledger_die (p : CoopPlayer) : (die s p).ledger = s.ledger := by
  unfold die; split <;> simp

@[simp] theorem ledger_lethalStep (e : CoopEvent) : (lethalStep s e).ledger = s.ledger := by
  unfold lethalStep
  split
  · rfl
  · split <;> simp

theorem ledger_lethalPass (es : List CoopEvent) : ∀ {s : CoopSession},
    (es.foldl lethalStep s).ledger = s.ledger := by
  induction es with
  | nil => intro s; rfl
  | cons e es ih => intro s; rw [List.foldl_cons, ih, ledger_lethalStep]

theorem ledger_contestStep (e : CoopEvent) (g : Contest) (v : CoopEvent) :
    (contestStep e g v).session.ledger = g.session.ledger := by
  have hcontend : (g.contend v).session = g.session := by unfold Contest.contend; split <;> rfl
  unfold contestStep
  split
  · rfl
  split
  · rfl
  · unfold Contest.bounce
    split
    · rw [ledger_emit, hcontend]
    · rw [hcontend]

theorem ledger_contest (e : CoopEvent) (group : List CoopEvent) :
    (contest s e group).ledger = s.ledger := by
  have hfold : ∀ (group : List CoopEvent) (g : Contest),
      (group.foldl (contestStep e) g).session.ledger = g.session.ledger := by
    intro group
    induction group with
    | nil => intro g; rfl
    | cons v group ih => intro g; rw [List.foldl_cons, ih, ledger_contestStep]
  unfold contest
  dsimp only
  split
  · rw [hfold]
  · rw [ledger_emit, hfold]

@[simp] theorem ledger_damageStep (e : CoopEvent) (p : CoopPlayer) :
    (damageStep s e p).ledger = s.ledger := by
  unfold damageStep
  split
  · rfl
  split
  · rfl
  · simp

@[simp] theorem ledger_deathFinishedStep (p : CoopPlayer) :
    (deathFinishedStep s p).ledger = s.ledger := by
  unfold deathFinishedStep; split <;> simp

@[simp] theorem ledger_checkpointStep (e : CoopEvent) : (checkpointStep s e).ledger = s.ledger := by
  unfold checkpointStep; rw [ledger_emit]; rfl

theorem ledger_eventStep (g : Pass) (e : CoopEvent) (rest : List CoopEvent) :
    (eventStep g e rest).1.session.ledger = g.session.ledger := by
  unfold eventStep
  split
  · exact ledger_contest _ _
  · exact ledger_contest _ _
  · dsimp only; split <;> simp
  · split <;> simp
  · split <;> simp
  · split <;> simp
  · rfl

theorem ledger_eventLoop : ∀ (es : List CoopEvent) (g : Pass) (skip : Nat),
    (eventLoop g skip es).session.ledger = g.session.ledger
  | [], g, skip => by cases skip <;> rfl
  | _ :: es, g, skip + 1 => ledger_eventLoop es g skip
  | e :: es, g, 0 => by
    unfold eventLoop
    rw [ledger_eventLoop es, ledger_eventStep]

end Ledger

/-! ## One resolution -/

/-- An exit event among the frame's events. -/
def HasExit (es : List CoopEvent) : Prop := ∃ e ∈ es, e.kind = .is .exit

theorem terminalStep_exit (s : CoopSession) (t : Terminal) (e : CoopEvent) :
    (terminalStep s t e).exit.isSome ↔ t.exit.isSome ∨ e.kind = .is .exit := by
  have htimeout : ∀ t : Terminal,
      (if e.kind = .is .timeout then { t with timeout := true } else t).exit = t.exit := by
    intro t; split <;> rfl
  unfold terminalStep
  dsimp only
  split
  · rename_i hk
    rw [htimeout]
    simp [hk]
  · rename_i hk
    rw [not_ne_iff] at hk
    simp only [hk, or_true, iff_true]
    split
    · rfl
    · rename_i x hx
      split
      · rfl
      · rw [hx]; rfl

theorem terminal_exit (s : CoopSession) (es : List CoopEvent) : ∀ t : Terminal,
    (es.foldl (terminalStep s) t).exit.isSome ↔ t.exit.isSome ∨ HasExit es := by
  induction es with
  | nil => intro t; simp [HasExit]
  | cons e es ih =>
      intro t
      rw [List.foldl_cons, ih, terminalStep_exit]
      simp [HasExit, or_assoc]

/-- The three ways a frame can end. -/
inductive FrameEnd where
  | cleared
  | lifeCharged
  | continued

/-- What a frame end does to the ledger. -/
def FrameEnd.apply : FrameEnd → Ledger → Ledger
  | .cleared, l => { l with outcome := .is .clear }
  | .lifeCharged, l =>
    let lives := if l.lives ≠ 0 then l.lives - 1 else l.lives
    { l with lives := lives, outcome := .is (if lives ≠ 0 then .retry else .gameOver) }
  | .continued, l => l

theorem finishFrame_ledger (s : CoopSession) (t : Terminal) :
    ∃ fin : FrameEnd, (finishFrame s t).ledger = fin.apply s.ledger ∧
      (fin = .cleared ↔ t.exit.isSome) := by
  unfold finishFrame
  split
  · rename_i x hx
    exact ⟨.cleared, by unfold clearLevel; rw [ledger_emit]; rfl, by simp [hx]⟩
  · rename_i hx
    split
    · exact ⟨.lifeCharged, by unfold chargeLife; rw [ledger_emit]; rfl, by simp [hx]⟩
    · exact ⟨.continued, rfl, by simp [hx]⟩

theorem beginResolve_hasExit (s : CoopSession) :
    HasExit (beginResolve s).events ↔ HasExit s.events := by
  have hperm : (beginResolve s).events.Perm s.events := by
    unfold beginResolve
    dsimp only
    split
    · exact List.perm_insertionSort _ _
    · exact List.Perm.refl _
  exact ⟨fun ⟨e, he, hk⟩ => ⟨e, hperm.mem_iff.1 he, hk⟩,
    fun ⟨e, he, hk⟩ => ⟨e, hperm.mem_iff.2 he, hk⟩⟩

theorem resolvePasses_ledger (s : CoopSession) :
    ∃ fin : FrameEnd, (resolvePasses s).ledger = fin.apply s.ledger ∧
      (fin = .cleared ↔ HasExit s.events) := by
  obtain ⟨fin, hl, hx⟩ := finishFrame_ledger
    (eventLoop ⟨s.events.foldl lethalStep s, false, false⟩ 0
      (s.events.foldl lethalStep s).events).session
    (s.events.foldl (terminalStep s) ⟨none, false, 0⟩)
  refine ⟨fin, ?_, ?_⟩
  · unfold resolvePasses
    dsimp only
    rw [hl, ledger_eventLoop, ledger_lethalPass]
  · rw [hx, terminal_exit]
    simp

/-- **Everything a resolution can do**: nothing, when it refuses or has nothing to do, or one
frame end, which is a clear exactly when an exit event is stored. -/
theorem coopSessionResolve_cases (s : CoopSession) :
    ((coopSessionResolve s).2 = s ∧
      (s.failed = true ∨ s.outcome ≠ .is .continue ∨ s.resolved = true ∨ s.events = [])) ∨
    (s.failed = false ∧ s.outcome = .is .continue ∧ s.resolved = false ∧
      (coopSessionResolve s).2 = resolvePasses (beginResolve s) ∧
      ∃ fin : FrameEnd, (coopSessionResolve s).2.ledger = fin.apply (beginResolve s).ledger ∧
        (fin = .cleared ↔ HasExit s.events)) := by
  unfold coopSessionResolve
  split
  · rename_i h; exact Or.inl ⟨rfl, Or.inl h⟩
  rename_i hfailed
  split
  · rename_i h; exact Or.inl ⟨rfl, Or.inr (h.imp id Or.inl)⟩
  rename_i hcont
  split
  · rename_i h; exact Or.inl ⟨rfl, Or.inr (Or.inr (Or.inr h.2))⟩
  · rw [not_or, not_ne_iff] at hcont
    obtain ⟨fin, hl, hx⟩ := resolvePasses_ledger (beginResolve s)
    exact Or.inr ⟨by simpa using hfailed, hcont.1, by simpa using hcont.2, rfl, fin, hl,
      hx.trans (beginResolve_hasExit s)⟩

/-! ## The other operations -/

theorem ledger_putPlayers (s : CoopSession) (players : List CoopPlayer) :
    CoopSession.ledger { s with players := players } = s.ledger := rfl

theorem ledger_coopCameraFrame (s : CoopSession) (w h rw rh : Int32) (autoscroll : Bool) :
    (coopCameraFrame s w h rw rh autoscroll).2.ledger = s.ledger := by
  unfold coopCameraFrame
  split
  · rfl
  · extract_lets resized camera s₁ box
    have hcamera : s₁.ledger = s.ledger := rfl
    split
    · exact hcamera
    · exact hcamera

theorem ledger_separationLoop (resized : Bool) : ∀ (ps : List CoopPlayer) (s : CoopSession)
    (active : Nat), (separationLoop resized s active ps).1.ledger = s.ledger
  | [], s, active => rfl
  | p :: ps, s, active => by
    unfold separationLoop
    dsimp only
    split
    · exact ledger_separationLoop resized ps s active
    split
    · exact ledger_separationLoop resized ps s active
    split
    · exact ledger_separationLoop resized ps s active
    split
    · exact ledger_separationLoop resized ps s active
    · rw [ledger_separationLoop resized ps, ledger_dropHeld]

theorem ledger_coopCameraCheckSeparation (s : CoopSession) (resized : Bool) :
    (coopCameraCheckSeparation s resized).2.ledger = s.ledger := by
  unfold coopCameraCheckSeparation
  split
  · rfl
  split
  · rfl
  · exact ledger_separationLoop resized _ s _

theorem ledger_coopCameraUpdate (s : CoopSession) (w h rw rh : Int32) (autoscroll : Bool) :
    (coopCameraUpdate s w h rw rh autoscroll).2.ledger = s.ledger := by
  have hframe := ledger_coopCameraFrame s w h rw rh autoscroll
  unfold coopCameraUpdate
  dsimp only
  split
  · rename_i t heq; rw [heq] at hframe; exact hframe
  · rename_i t heq
    rw [heq] at hframe
    rw [ledger_coopCameraCheckSeparation]
    exact hframe

theorem ledger_recoverStep (safe : CoopSafePlacement) (anchors : List CoopPlayerId)
    (s : CoopSession) (i : Nat) : (recoverStep safe anchors s i).ledger = s.ledger := by
  unfold recoverStep
  split
  · rfl
  split
  · rfl
  dsimp only
  split
  · rfl
  · rw [ledger_emit, ledger_putPlayers]

theorem ledger_coopSessionRecover (s : CoopSession) (safe : CoopSafePlacement) :
    (coopSessionRecover s safe).2.ledger = s.ledger := by
  have hfold : ∀ (anchors : List CoopPlayerId) (is : List Nat) (s : CoopSession),
      (is.foldl (recoverStep safe anchors) s).ledger = s.ledger := by
    intro anchors is
    induction is with
    | nil => intro s; rfl
    | cons i is ih => intro s; rw [List.foldl_cons, ih, ledger_recoverStep]
  unfold coopSessionRecover
  split
  · rfl
  split
  · rfl
  split
  · rfl
  split
  · rfl
  · dsimp only
    rw [hfold]
    rfl

/-! ## Runs -/

/-- The operations of an attempt: everything but `coop_session_restart`. -/
inductive FrameOp where
  | beginFrame (advances : Bool)
  | event (e : CoopEvent)
  | resolve
  | playerInput (id : CoopPlayerId) (held actionMask : UInt32)
  | cameraUpdate (w h rw rh : Int32) (autoscroll : Bool)
  | recover (safe : CoopSafePlacement)

/-- `coop_player_input` on the session's player `id`. -/
def inputPlayer (s : CoopSession) (id : CoopPlayerId) (held actionMask : UInt32) : CoopSession :=
  match coopPlayer s id with
  | none => s
  | some p => putPlayer s (coopPlayerInput p held actionMask)

def FrameOp.apply (s : CoopSession) : FrameOp → CoopSession
  | .beginFrame advances => (coopSessionBeginFrame s advances).2
  | .event e => (coopSessionEvent s e).2
  | .resolve => (coopSessionResolve s).2
  | .playerInput id held actionMask => inputPlayer s id held actionMask
  | .cameraUpdate w h rw rh autoscroll => (coopCameraUpdate s w h rw rh autoscroll).2
  | .recover safe => (coopSessionRecover s safe).2

def FrameOp.step (s : CoopSession) (op : FrameOp) (s' : CoopSession) : Prop := s' = op.apply s

theorem FrameOp.run_trace (s : CoopSession) (ops : List FrameOp) :
    Run FrameOp.step s (traceOf FrameOp.apply s ops) (ops.foldl FrameOp.apply s) :=
  have hstep : ∀ a op, FrameOp.step a op (op.apply a) := fun _ _ => rfl
  Run.trace hstep ops s

theorem ledger_inputPlayer (s : CoopSession) (id : CoopPlayerId) (held actionMask : UInt32) :
    (inputPlayer s id held actionMask).ledger = s.ledger := by
  unfold inputPlayer; split <;> rfl

/-- Beginning a frame clears what the last one stored; only a session in play advances. -/
theorem coopSessionBeginFrame_cases (s : CoopSession) (advances : Bool) :
    coopSessionBeginFrame s advances = (false, s) ∨
    ((coopSessionBeginFrame s advances).1 = true ∧ ∃ (blocked advancing : Bool) (frame : UInt64)
        (players : List CoopPlayer),
      (coopSessionBeginFrame s advances).2 = { s with
        events := [], actions := [], resolved := false, inputBlocked := blocked,
        advancing := advancing, frame := frame, players := players } ∧
      (players = s.players ∨ players = s.players.map tickPlayer) ∧
      (advancing = true → s.outcome = .is .continue) ∧
      (advancing = false → frame = s.frame)) := by
  unfold coopSessionBeginFrame
  split
  · exact Or.inl rfl
  · right
    dsimp only
    split
    · rename_i hadv
      rw [Bool.not_eq_true'] at hadv
      refine ⟨rfl, _, _, _, _, rfl, Or.inl rfl, fun h => ?_, fun _ => rfl⟩
      rw [hadv] at h; cases h
    · rename_i hadv
      rw [Bool.not_eq_true', Bool.not_eq_false] at hadv
      refine ⟨rfl, _, _, _, _, rfl, Or.inr rfl, fun _ => ?_, fun h => ?_⟩
      · simp only [Bool.and_eq_true, decide_eq_true_eq] at hadv
        exact hadv.2
      · rw [hadv] at h; cases h

theorem coopSessionEvent_cases (s : CoopSession) (e : CoopEvent) :
    (coopSessionEvent s e).2.ledger = s.ledger ∨
    (eventAllowed s e = true ∧
      (coopSessionEvent s e).2.ledger = { s.ledger with events := s.events ++ [e] }) := by
  unfold coopSessionEvent
  split
  · exact Or.inl rfl
  rename_i hallowed
  split
  · exact Or.inl rfl
  split
  · exact Or.inl rfl
  · exact Or.inr ⟨by simpa using hallowed, rfl⟩

/-- What an operation other than a resolution can do: leave the ledger alone, begin a frame, or
store an event. -/
theorem FrameOp.apply_cases (s : CoopSession) (op : FrameOp) (hop : op ≠ .resolve) :
    (op.apply s).ledger = s.ledger ∨
    ((op.apply s).events = [] ∧ (op.apply s).lives = s.lives ∧ (op.apply s).outcome = s.outcome ∧
      (s.outcome ≠ .is .continue → (op.apply s).frame = s.frame)) ∨
    (∃ e, eventAllowed s e = true ∧
      (op.apply s).ledger = { s.ledger with events := s.events ++ [e] }) := by
  cases op with
  | resolve => exact absurd rfl hop
  | beginFrame advances =>
      rcases coopSessionBeginFrame_cases s advances with h
        | ⟨-, _, advancing, frame, _, h, -, ha, hf⟩
      · left
        rw [FrameOp.apply, h]
      · right; left
        rw [FrameOp.apply, h]
        refine ⟨rfl, rfl, rfl, fun hout => hf ?_⟩
        rw [← Bool.not_eq_true]
        exact fun hadv => hout (ha hadv)
  | event e =>
      rcases coopSessionEvent_cases s e with h | h
      · exact Or.inl h
      · exact Or.inr (Or.inr ⟨e, h⟩)
  | playerInput id held actionMask => exact Or.inl (ledger_inputPlayer s id held actionMask)
  | cameraUpdate w h rw rh autoscroll =>
      exact Or.inl (ledger_coopCameraUpdate s w h rw rh autoscroll)
  | recover safe => exact Or.inl (ledger_coopSessionRecover s safe)

/-- Lives and outcome change in a resolution only. -/
theorem FrameOp.keeps_lives (s : CoopSession) (op : FrameOp) (hop : op ≠ .resolve) :
    (op.apply s).lives = s.lives ∧ (op.apply s).outcome = s.outcome := by
  rcases op.apply_cases s hop with h | ⟨_, hl, ho, _⟩ | ⟨_, _, h⟩
  · exact ⟨congrArg Ledger.lives h, congrArg Ledger.outcome h⟩
  · exact ⟨hl, ho⟩
  · exact ⟨congrArg Ledger.lives h, congrArg Ledger.outcome h⟩

/-- The full counter while the attempt is in play; a stored exit not yet arbitrated, or won. -/
structure LivesInv (s : CoopSession) : Prop where
  lives : s.outcome = .is .continue → s.lives = 5
  exit : HasExit s.events →
    (s.outcome = .is .continue ∧ s.resolved = false) ∨ s.outcome = .is .clear

theorem coopSessionInit_livesInv {allocator : Allocator} {count : Nat} {hz : UInt32}
    {s : CoopSession} (h : coopSessionInit allocator count hz = some s) : LivesInv s := by
  unfold coopSessionInit at h
  split at h
  · cases h
  split at h
  · cases h
  · cases h
    exact ⟨fun _ => rfl, fun ⟨_, he, _⟩ => nomatch he⟩

/-- A resolution from a session of a run, by the way it ends the frame. -/
theorem LivesInv.resolve_cases {s : CoopSession} (h : LivesInv s) :
    (coopSessionResolve s).2 = s ∨
    (s.outcome = .is .continue ∧ (coopSessionResolve s).2.outcome = .is .clear ∧
      (coopSessionResolve s).2.lives = s.lives) ∨
    (s.outcome = .is .continue ∧ (coopSessionResolve s).2.outcome = .is .retry ∧
      s.lives = 5 ∧ (coopSessionResolve s).2.lives = 4 ∧
      ¬ HasExit (coopSessionResolve s).2.events ∧ ¬ HasExit s.events) ∨
    (s.outcome = .is .continue ∧ (coopSessionResolve s).2.outcome = .is .continue ∧
      (coopSessionResolve s).2.lives = s.lives ∧ ¬ HasExit (coopSessionResolve s).2.events ∧
      ¬ HasExit s.events) := by
  rcases coopSessionResolve_cases s with ⟨hs, -⟩ | ⟨-, hcont, -, -, fin, hl, hx⟩
  · exact Or.inl hs
  right
  have hout := congrArg Ledger.outcome hl
  have hlives := congrArg Ledger.lives hl
  have hev := congrArg Ledger.events hl
  have hkeep : ∀ fin : FrameEnd, (fin.apply (beginResolve s).ledger).events =
      (beginResolve s).events := by
    intro fin; cases fin <;> rfl
  have hexit : HasExit (coopSessionResolve s).2.events ↔ HasExit s.events := by
    rw [show (coopSessionResolve s).2.events = (beginResolve s).events from hev.trans (hkeep fin),
      beginResolve_hasExit]
  have hfive := h.lives hcont
  cases fin with
  | cleared => exact Or.inl ⟨hcont, hout, hlives⟩
  | lifeCharged =>
      have hno : ¬ HasExit s.events := fun he => by cases hx.2 he
      have hcount : (if s.lives ≠ 0 then s.lives - 1 else s.lives) = 4 := by rw [hfive]; rfl
      refine Or.inr (Or.inl ⟨hcont, ?_, hfive, ?_, fun he => hno (hexit.1 he), hno⟩)
      · refine hout.trans ?_
        show CEnum.is (if (if s.lives ≠ 0 then s.lives - 1 else s.lives) ≠ 0 then _ else _) = _
        rw [hcount]; rfl
      · exact hlives.trans hcount
  | continued =>
      have hno : ¬ HasExit s.events := fun he => by cases hx.2 he
      exact Or.inr (Or.inr ⟨hcont, hout.trans hcont, hlives, fun he => hno (hexit.1 he), hno⟩)

theorem LivesInv.apply {s : CoopSession} (h : LivesInv s) (op : FrameOp) :
    LivesInv (op.apply s) := by
  by_cases hop : op = .resolve
  · subst hop
    show LivesInv (coopSessionResolve s).2
    rcases h.resolve_cases with hs | ⟨_, ho, _⟩ | ⟨_, ho, _, _, hno, _⟩ | ⟨hc, ho, hl, hno, _⟩
    · rw [hs]; exact h
    · exact ⟨fun hc => by (rw [ho] at hc; cases hc), fun _ => Or.inr ho⟩
    · exact ⟨fun hc => by (rw [ho] at hc; cases hc), fun he => absurd he hno⟩
    · exact ⟨fun _ => hl.trans (h.lives hc), fun he => absurd he hno⟩
  · rcases op.apply_cases s hop with hl | ⟨hev, hl, ho, _⟩ | ⟨e, hallowed, hl⟩
    · have hlives : (op.apply s).lives = s.lives := congrArg Ledger.lives hl
      have hout : (op.apply s).outcome = s.outcome := congrArg Ledger.outcome hl
      have hres : (op.apply s).resolved = s.resolved := congrArg Ledger.resolved hl
      have hev : (op.apply s).events = s.events := congrArg Ledger.events hl
      exact ⟨by rw [hlives, hout]; exact h.lives, by rw [hout, hres, hev]; exact h.exit⟩
    · exact ⟨by rw [hl, ho]; exact h.lives, by rw [hev]; exact fun ⟨_, he, _⟩ => nomatch he⟩
    · have hlives : (op.apply s).lives = s.lives := congrArg Ledger.lives hl
      have hout : (op.apply s).outcome = s.outcome := congrArg Ledger.outcome hl
      have hres : (op.apply s).resolved = s.resolved := congrArg Ledger.resolved hl
      refine ⟨by rw [hlives, hout]; exact h.lives, fun _ => Or.inl ?_⟩
      -- Only an unresolved frame of an attempt in play stores an event.
      rw [hout, hres]
      simp only [eventAllowed, Bool.not_eq_true', Bool.or_eq_false_iff, decide_eq_false_iff_not,
        not_not] at hallowed
      exact ⟨hallowed.1.1.1.1.2, hallowed.1.1.1.1.1.2⟩

theorem FrameOp.step_livesInv (a : CoopSession) (op : FrameOp) (b : CoopSession)
    (h : FrameOp.step a op b) (ha : LivesInv a) : LivesInv b := by
  rw [h]; exact ha.apply op

/-- Whether a step changed the team's lives counter. -/
def changesLives (r : CoopSession × FrameOp × CoopSession) : Bool :=
  decide (r.2.2.lives ≠ r.1.lives)

/-- What one step of a run does to lives and outcome. -/
structure LifeStep (a : CoopSession) (op : FrameOp) (b : CoopSession) : Prop where
  /-- The counter moves precisely when the attempt is lost. -/
  charged : b.lives ≠ a.lives ↔ op = .resolve ∧ a.outcome = .is .continue ∧
    (b.outcome = .is .retry ∨ b.outcome = .is .gameOver)
  by_one : b.lives ≠ a.lives → b.lives.toNat + 1 = a.lives.toNat ∧
    (b.outcome = .is .gameOver ↔ b.lives = 0)
  exit_wins : op = .resolve → a.failed = false → HasExit a.events →
    b.outcome = .is .clear ∧ b.lives = a.lives
  ended : a.outcome ≠ .is .continue → b.outcome = a.outcome ∧ b.lives = a.lives ∧
    b.frame = a.frame ∧ (∀ e, coopSessionEvent a e = (false, a)) ∧ (op = .resolve → b = a)

theorem coopSessionEvent_ended {s : CoopSession} (h : s.outcome ≠ .is .continue) (e : CoopEvent) :
    coopSessionEvent s e = (false, s) := by
  have hrefused : eventAllowed s e = false := by simp [eventAllowed, h]
  unfold coopSessionEvent
  rw [hrefused]
  rfl

theorem coopSessionResolve_ended {s : CoopSession} (h : s.outcome ≠ .is .continue) :
    (coopSessionResolve s).2 = s := by
  rcases coopSessionResolve_cases s with ⟨hs, -⟩ | ⟨-, hcont, -⟩
  · exact hs
  · exact absurd hcont h

/-- A resolution that finds a stored exit clears the level, or has already cleared it. -/
theorem LivesInv.exit_wins {s : CoopSession} (h : LivesInv s) (hfailed : s.failed = false)
    (hexit : HasExit s.events) :
    (coopSessionResolve s).2.outcome = .is .clear ∧ (coopSessionResolve s).2.lives = s.lives := by
  rcases h.exit hexit with ⟨hcont, hres⟩ | hclear
  · rcases coopSessionResolve_cases s with ⟨-, hwhy⟩ | ⟨-, -, -, -, fin, hl, hx⟩
    · obtain ⟨e, he, -⟩ := hexit
      rcases hwhy with hf | ho | hr | hnil
      · rw [hf] at hfailed; cases hfailed
      · exact absurd hcont ho
      · rw [hr] at hres; cases hres
      · rw [hnil] at he; cases he
    · rw [hx.2 hexit] at hl
      exact ⟨congrArg Ledger.outcome hl, congrArg Ledger.lives hl⟩
  · rw [coopSessionResolve_ended (by rw [hclear]; exact fun h => nomatch h)]
    exact ⟨hclear, rfl⟩

theorem LivesInv.lifeStep {a : CoopSession} (h : LivesInv a) (op : FrameOp) :
    LifeStep a op (op.apply a) := by
  by_cases hop : op = .resolve
  · subst hop
    show LifeStep a .resolve (coopSessionResolve a).2
    have hended : a.outcome ≠ .is .continue → (coopSessionResolve a).2 = a :=
      coopSessionResolve_ended
    refine ⟨?_, ?_, fun _ => h.exit_wins, fun hout => ?_⟩
    · rcases h.resolve_cases with hs | ⟨_, ho, hl⟩ | ⟨hc, ho, hfive, hl, _⟩ | ⟨_, ho, hl, _⟩
      · rw [hs]
        refine ⟨fun hne => absurd rfl hne, ?_⟩
        rintro ⟨_, hc, ho | ho⟩ <;> (rw [hc] at ho; cases ho)
      · simp [ho, hl]
      · simp [ho, hl, hc, hfive]
      · simp [ho, hl]
    · rcases h.resolve_cases with hs | ⟨_, _, hl⟩ | ⟨_, ho, hfive, hl, _⟩ | ⟨_, _, hl, _⟩
      · intro hne; exact absurd (by rw [hs]) hne
      · intro hne; exact absurd hl hne
      · intro _; rw [ho, hl, hfive]; decide
      · intro hne; exact absurd hl hne
    · rw [hended hout]
      exact ⟨rfl, rfl, rfl, coopSessionEvent_ended hout, fun _ => rfl⟩
  · obtain ⟨hl, ho⟩ := op.keeps_lives a hop
    refine ⟨?_, fun hne => absurd hl hne, fun hr => absurd hr hop, fun hout => ?_⟩
    · exact ⟨fun hne => absurd hl hne, fun hr => absurd hr.1 hop⟩
    · refine ⟨ho, hl, ?_, coopSessionEvent_ended hout, fun hr => absurd hr hop⟩
      rcases op.apply_cases a hop with hled | ⟨_, _, _, hf⟩ | ⟨_, _, hled⟩
      · exact congrArg Ledger.frame hled
      · exact hf hout
      · exact congrArg Ledger.frame hled

/-- **Life and outcome over whole runs.**  From initialisation and without restart the counter
changes at most once, and every step of the run is a `LifeStep`. -/
theorem team_life_run {allocator : Allocator} {count : Nat} {hz : UInt32} {s₀ s : CoopSession}
    {steps : List (CoopSession × FrameOp × CoopSession)}
    (hinit : coopSessionInit allocator count hz = some s₀) (hrun : Run FrameOp.step s₀ steps s) :
    steps.countP changesLives ≤ 1 ∧ ∀ a op b, (a, op, b) ∈ steps → LifeStep a op b := by
  have hinv := coopSessionInit_livesInv hinit
  have hlife : ∀ {a op b}, FrameOp.step a op b → LivesInv a → LifeStep a op b :=
    fun {a op _} hst ha => by rw [hst]; exact ha.lifeStep op
  refine ⟨?_, fun a op b hm => ?_⟩
  · -- the flag that a life charge sets: the attempt has ended
    refine (Run.once (D := fun s => s.outcome ≠ .is .continue) FrameOp.step_livesInv ?_ ?_ hrun
      hinv).1
    · intro a op b hst ha hended
      rw [((hlife hst ha).ended hended).1]
      exact hended
    · intro a op b hst ha hch
      obtain ⟨-, hcont, hlost⟩ := (hlife hst ha).charged.1 (of_decide_eq_true hch)
      refine ⟨not_not.2 hcont, fun hc => ?_⟩
      rcases hlost with ho | ho <;> (rw [ho] at hc; cases hc)
  · obtain ⟨hst, ha⟩ := hrun.step_mem FrameOp.step_livesInv hinv a op b hm
    exact hlife hst ha

/-- A frame that runs out of time. -/
def lostAttempt : List FrameOp :=
  [.beginFrame true, .event ⟨.is .timeout, COOP_NO_PLAYER, COOP_NO_ENTITY, 0, 0, 0⟩, .resolve]

theorem lost_inits : (coopSessionInit [] 2 60).isSome = true := by decide

def lostSession : CoopSession := (coopSessionInit [] 2 60).get lost_inits

theorem lostSession_init : coopSessionInit [] 2 60 = some lostSession := (Option.some_get _).symm

theorem team_life_run_timeout :
    (lostAttempt.foldl FrameOp.apply lostSession).lives = 4 ∧
    (traceOf FrameOp.apply lostSession lostAttempt).countP changesLives ≤ 1 ∧
    ∀ a op b, (a, op, b) ∈ traceOf FrameOp.apply lostSession lostAttempt → LifeStep a op b :=
  ⟨by decide, team_life_run lostSession_init (FrameOp.run_trace lostSession lostAttempt)⟩

/-- An exit is stored, then `coop_session_recover` cannot allocate its anchors. -/
def starvedAttempt : List FrameOp :=
  [.beginFrame true, .event ⟨.is .exit, 0, COOP_NO_ENTITY, 0, 0, 0⟩, .recover (fun _ _ _ => none),
    .resolve]

def starvedSession : CoopSession := (coopSessionInit [true, true, false] 2 60).get (by decide)

/-- The resolve of a session marked failed leaves a stored exit unanswered. -/
theorem exit_unanswered_after_failed_allocation :
    coopSessionInit [true, true, false] 2 60 = some starvedSession ∧
    Run FrameOp.step starvedSession (traceOf FrameOp.apply starvedSession starvedAttempt)
      (starvedAttempt.foldl FrameOp.apply starvedSession) ∧
    ∃ a b, (a, .resolve, b) ∈ traceOf FrameOp.apply starvedSession starvedAttempt ∧
      HasExit a.events ∧ b.outcome ≠ .is .clear :=
  ⟨(Option.some_get _).symm, FrameOp.run_trace _ _,
    (starvedAttempt.take 3).foldl FrameOp.apply starvedSession,
    starvedAttempt.foldl FrameOp.apply starvedSession, by simp [starvedAttempt, traceOf],
    ⟨⟨.is .exit, 0, COOP_NO_ENTITY, 0, 0, 0⟩, by decide, rfl⟩, by decide⟩

end SmwRecomp.Coop
