import SmwRecomp.Coop.Reach

/-!
# A disconnected controller freezes the game

`input_blocked` of `src/src/mods/coop/coop_session.c`, as the other operations honour it.

* `Frozen` — a session no operation of a frame can move: `begin_frame` has found a controller
  missing, or the session has failed.
* `disconnect_freezes` — over every run of frame operations behind a `begin_frame`.
-/

set_option autoImplicit false

namespace SmwRecomp.Coop

/-- Some controller is missing. -/
def Disconnected (s : CoopSession) : Prop := ∃ p ∈ s.players, p.connected = false

/-- The calls of a frame. -/
inductive SessionOp.OfFrame : SessionOp → Prop where
  | beginFrame (advances : Bool) : OfFrame (.beginFrame advances)
  | event (e : CoopEvent) : OfFrame (.event e)
  | resolve : OfFrame .resolve
  | checkSeparation (resized : Bool) : OfFrame (.checkSeparation resized)
  | recover (safe : CoopSafePlacement) : OfFrame (.recover safe)

/-- What `begin_frame` leaves while a controller is missing. -/
structure Blocked (s : CoopSession) : Prop where
  disconnected : Disconnected s
  working : s.failed = false
  inputBlocked : s.inputBlocked = true
  advancing : s.advancing = false
  resolved : s.resolved = false
  events : s.events = []
  actions : s.actions = []

def Frozen (s : CoopSession) : Prop := s.failed = true ∨ Blocked s

section Freeze

variable {s t : CoopSession}

theorem Disconnected.blocked (h : Disconnected s) :
    s.players.any (fun p => !p.connected) = true := by
  obtain ⟨p, hp, hmissing⟩ := h
  exact List.any_eq_true.2 ⟨p, hp, by rw [hmissing]; rfl⟩

theorem Disconnected.players (h : Disconnected s) : s.players ≠ [] := by
  obtain ⟨p, hp, -⟩ := h
  exact List.ne_nil_of_mem hp

theorem beginFrame_failed (h : s.failed = true) (advances : Bool) :
    coopSessionBeginFrame s advances = (false, s) := if_pos (Or.inr h)

/-- With a controller missing a frame begins with the lists emptied and nothing else. -/
theorem beginFrame_disconnected (h : Disconnected s) (hworking : s.failed = false)
    (advances : Bool) :
    coopSessionBeginFrame s advances = (true, { s with
      events := [], actions := [], resolved := false, inputBlocked := true, advancing :=
      false }) := by
  unfold coopSessionBeginFrame
  rw [if_neg (by simp [h.players, hworking]), h.blocked]
  simp

theorem beginFrame_frozen (h : Disconnected s) (advances : Bool) :
    Frozen (coopSessionBeginFrame s advances).2 := by
  cases hfailed : s.failed with
  | true =>
      rw [beginFrame_failed hfailed]
      exact Or.inl hfailed
  | false =>
      rw [beginFrame_disconnected h hfailed]
      exact Or.inr ⟨h, hfailed, rfl, rfl, rfl, rfl, rfl⟩

/-- Every event is rejected. -/
theorem Frozen.event (h : Frozen s) (e : CoopEvent) : coopSessionEvent s e = (false, s) := by
  have hrejected : eventAllowed s e = false := by
    rcases h with hfailed | hblocked
    · simp [eventAllowed, hfailed]
    · simp [eventAllowed, hblocked.inputBlocked]
  unfold coopSessionEvent
  rw [hrejected]
  rfl

theorem Frozen.beginFrame (h : Frozen s) (advances : Bool) :
    (coopSessionBeginFrame s advances).2 = s := by
  rcases h with hfailed | hblocked
  · rw [beginFrame_failed hfailed]
  · rw [beginFrame_disconnected hblocked.disconnected hblocked.working]
    obtain ⟨-, -, hinput, hadvancing, hresolved, hevents, hactions⟩ := hblocked
    cases s
    cases hinput
    cases hadvancing
    cases hresolved
    cases hevents
    cases hactions
    rfl

theorem Frozen.resolve (h : Frozen s) : (coopSessionResolve s).2 = s := by
  unfold coopSessionResolve
  rcases h with hfailed | hblocked
  · rw [if_pos hfailed]
  · have hidle : !s.advancing ∧ s.events = [] := ⟨by rw [hblocked.advancing]; rfl, hblocked.events⟩
    rw [if_neg (by rw [hblocked.working]; decide)]
    by_cases hdone : s.outcome ≠ .is .continue ∨ s.resolved = true
    · rw [if_pos hdone]
    · rw [if_neg hdone, if_pos hidle]

theorem Frozen.checkSeparation (h : Frozen s) (resized : Bool) :
    (coopCameraCheckSeparation s resized).2 = s := by
  unfold coopCameraCheckSeparation
  rcases h with hfailed | hblocked
  · rw [if_pos hfailed]
  · rw [if_neg (by rw [hblocked.working]; decide),
      if_pos (Or.inl (by rw [hblocked.advancing]; rfl))]

theorem Frozen.recover (h : Frozen s) (safe : CoopSafePlacement) :
    (coopSessionRecover s safe).2 = s := by
  unfold coopSessionRecover
  rcases h with hfailed | hblocked
  · rw [if_pos hfailed]
  · rw [if_neg (by rw [hblocked.working]; decide),
      if_pos (Or.inl (by rw [hblocked.advancing]; rfl))]

/-- No call of a frame moves a frozen session. -/
theorem Frozen.step {op : SessionOp} (h : Frozen s) (hop : op.OfFrame)
    (hstep : SessionOp.step s op t) :
    t = s := by
  cases hop with
  | beginFrame advances => exact Eq.trans hstep (h.beginFrame advances)
  | event e => exact Eq.trans hstep (by rw [h.event e])
  | resolve => exact Eq.trans hstep h.resolve
  | checkSeparation resized => exact Eq.trans hstep (h.checkSeparation resized)
  | recover safe => exact Eq.trans hstep (h.recover safe)

theorem Frozen.run {steps : List (CoopSession × SessionOp × CoopSession)} (h : Frozen s)
    (hrun : Run SessionOp.step s steps t) (hops : ∀ x ∈ steps, x.2.1.OfFrame) :
    t = s ∧ ∀ x ∈ steps, x.2.2 = s := by
  induction hrun with
  | nil => exact ⟨rfl, fun _ hx => absurd hx List.not_mem_nil⟩
  | @cons s s' t op steps hstep _ ih =>
      rw [List.forall_mem_cons] at hops
      have hstays : s' = s := h.step hops.1 hstep
      subst hstays
      obtain ⟨hend, hall⟩ := ih h hops.2
      exact ⟨hend, List.forall_mem_cons.2 ⟨rfl, hall⟩⟩

/-- The next frame does not see what a blocked one left in the lists and marks. -/
theorem beginFrame_forgets {players : List CoopPlayer} (hplayers : players ≠ [])
    (hworking : s.failed = false) (advances : Bool) :
    coopSessionBeginFrame { s with
      players := players
      events := []
      actions := []
      resolved := false
      inputBlocked := true
      advancing := false } advances =
        coopSessionBeginFrame { s with players := players } advances := by
  have hgo : ¬ (players = [] ∨ s.failed = true) := by simp [hplayers, hworking]
  unfold coopSessionBeginFrame
  rw [if_neg hgo, if_neg hgo]

/-- Whatever the records are when the game goes on, the frame that went nowhere leaves no trace. -/
theorem beginFrame_resumes {players : List CoopPlayer} (hmissing : Disconnected s)
    (hplayers : players ≠ [])
    (advances advances' : Bool) :
    coopSessionBeginFrame
      { (coopSessionBeginFrame s advances).2 with players := players } advances' =
      coopSessionBeginFrame { s with players := players } advances' := by
  obtain hfailed | hworking := Bool.eq_false_or_eq_true s.failed
  · rw [beginFrame_failed hfailed]
  · rw [beginFrame_disconnected hmissing hworking]
    exact beginFrame_forgets hplayers hworking advances'

end Freeze

/-- The game as the players know it: nothing of it has moved. -/
structure SameGame (s t : CoopSession) : Prop where
  frame : t.frame = s.frame
  lives : t.lives = s.lives
  outcome : t.outcome = s.outcome
  checkpoint : t.checkpoint = s.checkpoint
  players : t.players = s.players

theorem beginFrame_sameGame {s : CoopSession} (h : Disconnected s) (advances : Bool) :
    SameGame s (coopSessionBeginFrame s advances).2 := by
  cases hfailed : s.failed with
  | true =>
      rw [beginFrame_failed hfailed]
      exact ⟨rfl, rfl, rfl, rfl, rfl⟩
  | false =>
      rw [beginFrame_disconnected h hfailed]
      exact ⟨rfl, rfl, rfl, rfl, rfl⟩

/-- **A missing controller freezes the game** of any session.  Whatever calls of a frame follow a
`begin_frame`: in every state the game is as it was and every event is rejected; and once the
controllers are back, whatever the records are then, the next frame begins as if there had been no
call. -/
theorem disconnect_freezes {s t : CoopSession}
    {pause : List (CoopSession × SessionOp × CoopSession)}
    {advances : Bool} (hmissing : Disconnected s)
    (hpause : Run SessionOp.step (coopSessionBeginFrame s advances).2 pause t)
    (hops : ∀ x ∈ pause, x.2.1.OfFrame) :
    (∀ u, u = (coopSessionBeginFrame s advances).2 ∨ (∃ x ∈ pause, u = x.2.2) →
      SameGame s u ∧ ∀ e, coopSessionEvent u e = (false, u)) ∧
    SameGame s t ∧
    ∀ players : List CoopPlayer, players.map CoopPlayer.id = s.players.map CoopPlayer.id →
      ∀ advances', coopSessionBeginFrame { t with players := players } advances' =
        coopSessionBeginFrame { s with players := players } advances' := by
  have hfrozen := beginFrame_frozen hmissing advances
  have hsame := beginFrame_sameGame hmissing advances
  obtain ⟨hend, hall⟩ := hfrozen.run hpause hops
  refine ⟨fun u hu => ?_, by rw [hend]; exact hsame, fun players hids advances' => ?_⟩
  · have hstays : u = (coopSessionBeginFrame s advances).2 := by
      rcases hu with hu | ⟨x, hx, hu⟩
      · exact hu
      · exact hu.trans (hall x hx)
    rw [hstays]
    exact ⟨hsame, hfrozen.event⟩
  · -- the roster stays, so there is somebody to begin the frame for
    have hplayers : players ≠ [] := by
      intro hnone
      rw [hnone, List.map_nil, eq_comm, List.map_eq_nil_iff] at hids
      exact hmissing.players hids
    rw [hend]
    exact beginFrame_resumes hmissing hplayers advances advances'

/-- The pair, the second controller pulled out during a frame. -/
def unpluggedPlayers : List CoopPlayer := [initPlayer 0, { initPlayer 1 with connected := false }]

def unpluggedSession : CoopSession :=
  { (coopSessionBeginFrame pairSession true).2 with players := unpluggedPlayers }

theorem disconnect_freezes_unplugged : ∃ t,
    coopSessionResolve (coopSessionBeginFrame unpluggedSession true).2 = (true, t) ∧
    SameGame unpluggedSession t ∧
      (coopSessionBeginFrame { t with players := pairSession.players } true).2.frame =
        unpluggedSession.frame + 1 := by
  have hresolve : Run SessionOp.step (coopSessionBeginFrame unpluggedSession true).2
      [((coopSessionBeginFrame unpluggedSession true).2, .resolve,
        (coopSessionResolve (coopSessionBeginFrame unpluggedSession true).2).2)] _ :=
          .cons rfl (.nil _)
  obtain ⟨-, hsame, hresumes⟩ := disconnect_freezes (s := unpluggedSession)
    ⟨_, List.mem_cons_of_mem _ List.mem_cons_self, rfl⟩ hresolve
    (fun x hx => List.mem_singleton.1 hx ▸ .resolve)
  have hframe := congrArg (fun r => r.2.frame) (hresumes pairSession.players (by decide) true)
  exact ⟨_, Prod.ext (by decide) rfl, hsame, hframe.trans (by decide)⟩

end SmwRecomp.Coop
