import SmwRecomp.Coop.Separation
import SmwRecomp.Coop.Emissions

/-!
# The patience of the separation check

* `CameraOp`, `CameraOp.next` — the frames, the camera and the checks, between which players move
  and the host places the camera at will.
* `counts`, `clears` — the steps that bring a player nearer to its bubble, and those that start it
  over.
* `Waits` — every player in play has as many counting steps behind it, since the last clearing one,
  as its timer says; kept by every step (`Waits.step`).
* `separation_patience` — what follows for a check at the end of any run.
-/

set_option autoImplicit false

namespace SmwRecomp.Coop

/-! ## Runs -/

/-- What a player does between two calls: anything but changing its id, its life or its separation
timer. -/
structure Movement where
  apply : CoopPlayer → CoopPlayer
  id : ∀ p, (apply p).id = p.id
  life : ∀ p, (apply p).life = p.life
  separationTicks : ∀ p, (apply p).separationTicks = p.separationTicks

inductive CameraOp where
  | beginFrame (advances : Bool)
  | cameraFrame (w h rw rh : Int32) (autoscroll : Bool)
  | checkSeparation (resized : Bool)
  | move (m : Movement)
  | place (x y : Int32)

def CameraOp.next (s : CoopSession) : CameraOp → CoopSession
  | .beginFrame advances => (coopSessionBeginFrame s advances).2
  | .cameraFrame w h rw rh autoscroll => (coopCameraFrame s w h rw rh autoscroll).2
  | .checkSeparation resized => (coopCameraCheckSeparation s resized).2
  | .move m => { s with players := s.players.map m.apply }
  | .place x y => { s with camera := { s.camera with x := x, y := y } }

abbrev CameraStep := CoopSession × CameraOp × CoopSession

def cameraStep (a : CoopSession) (op : CameraOp) (b : CoopSession) : Prop := b = op.next a

instance (s : CoopSession) : Decidable (Idle s) := inferInstanceAs (Decidable (_ ∨ _))

/-- How many players are still in play when the loop of the check comes to a player. -/
def standing (s : CoopSession) (resized : Bool) (id : CoopPlayerId) : Nat :=
  coopActiveCount s - (bubbled s.camera s.ticksPerSecond resized (coopActiveCount s)
    (s.players.takeWhile fun p => decide (p.id ≠ id))).length

/-- The check finds the player outside the frame, neither the leader nor the only one in play. -/
def finds (s : CoopSession) (resized : Bool) (id : CoopPlayerId) : Bool :=
  match coopPlayer s id with
  | none => false
  | some p => decide (Strayed s.camera p) && decide (1 < standing s resized id)

/-- A check of a running, not resized frame that finds the player outside. -/
def counts (id : CoopPlayerId) : CameraStep → Bool
  | (a, .checkSeparation resized, _) => !resized && decide (¬ Idle a) && finds a resized id
  | _ => false

/-- A check of a running frame that finds the player inside, leading or alone; or a change of the
view's size. -/
def clears (id : CoopPlayerId) : CameraStep → Bool
  | (a, .checkSeparation resized, _) => decide (¬ Idle a) && alive a id && !finds a resized id
  | (a, .cameraFrame w h rw rh autoscroll, _) =>
    (coopCameraFrame a w h rw rh autoscroll).1 &&
      (decide (a.camera.width ≠ w) || decide (a.camera.height ≠ h))
  | _ => false

/-- `n` counting steps since the last clearing one. -/
def Waited (id : CoopPlayerId) (steps : List CameraStep) (n : Nat) : Prop :=
  ∃ before recent, steps = before ++ recent ∧ (∀ x ∈ recent, clears id x = false) ∧
    recent.countP (counts id) = n

section Waited

variable {id : CoopPlayerId} {steps : List CameraStep} {n : Nat} {x : CameraStep}

theorem Waited.start (id : CoopPlayerId) (steps : List CameraStep) : Waited id steps 0 :=
  ⟨steps, [], (List.append_nil _).symm, (fun _ h => nomatch h), rfl⟩

theorem Waited.snoc (h : Waited id steps n) (hclears : clears id x = false) :
    Waited id (steps ++ [x]) (n + if counts id x = true then 1 else 0) := by
  obtain ⟨before, recent, rfl, hall, hcount⟩ := h
  refine ⟨before, recent ++ [x], List.append_assoc _ _ _, ?_, ?_⟩
  · intro y hy
    rcases List.mem_append.1 hy with hy | hy
    · exact hall y hy
    · rw [List.mem_singleton.1 hy]
      exact hclears
  · rw [List.countP_append, hcount, List.countP_singleton]

end Waited

/-! ## One check -/

section Check

variable {s : CoopSession} {resized : Bool} {id : CoopPlayerId}

/-- The record of one player behind the loop. -/
theorem findKey_separateAll {c : CoopCamera} {ticks : UInt32} (id : CoopPlayerId)
    (ps : List CoopPlayer) : ∀ active,
    findKey CoopPlayer.id id (separateAll c ticks resized active ps) =
      (findKey CoopPlayer.id id ps).map (separate c ticks resized
        (active -
          (bubbled c ticks resized active (ps.takeWhile fun p => decide (p.id ≠ id))).length)) := by
  induction ps with
  | nil =>
      intro active
      rfl
  | cons p ps ih =>
      intro active
      rw [separateAll_cons]
      unfold findKey
      rw [separate_id]
      by_cases hid : p.id = id
      · have hfront : (p :: ps).takeWhile (fun p => decide (p.id ≠ id)) = [] := by
          rw [List.takeWhile_cons_of_neg (by simp [hid])]
        rw [if_pos hid, if_pos hid, hfront]
        rfl
      · have hfront : (p :: ps).takeWhile (fun p => decide (p.id ≠ id)) =
            p :: ps.takeWhile fun p => decide (p.id ≠ id) :=
            List.takeWhile_cons_of_pos (by simp [hid])
        rw [if_neg hid, if_neg hid, hfront, bubbled_cons, ih]
        split
        · rw [List.length_cons, Nat.add_comm, Nat.sub_add_eq]
        · rfl

theorem coopPlayer_checked (s : CoopSession) (resized : Bool) (id : CoopPlayerId) :
    coopPlayer (checked s resized) id =
      (coopPlayer s id).map (separate s.camera s.ticksPerSecond resized (standing s resized id)) :=
  findKey_separateAll id s.players _

/-- Every bubble leaves somebody in play. -/
theorem bubbled_length {c : CoopCamera} {ticks : UInt32} (ps : List CoopPlayer) :
    ∀ active, 0 < active →
    (bubbled c ticks resized active ps).length < active := by
  induction ps with
  | nil =>
      intro active hactive
      exact hactive
  | cons p ps ih =>
      intro active hactive
      rw [bubbled_cons]
      split
      · rename_i hbubbles
        have hone : 1 < active := hbubbles.2.1
        have hrest := ih (active - 1) (by omega)
        rw [List.length_cons]
        omega
      · exact ih active hactive

theorem separate_playing {c : CoopCamera} {ticks : UInt32} {active : Nat} {p : CoopPlayer} :
    (separate c ticks resized active p).life = .is .playing ↔
      p.life = .is .playing ∧ ¬ Bubbles c ticks resized active p := by
  unfold separate
  by_cases hlife : p.life = .is .playing
  · rw [if_neg (by simp [hlife])]
    by_cases hlost : ¬ Strayed c p ∨ active ≤ 1
    · have hnone : ¬ Bubbles c ticks resized active p := by
        rintro ⟨hdue, hactive, -⟩
        rcases hlost with h | h
        · exact h hdue.1
        · omega
      rw [if_pos hlost]
      exact ⟨fun _ => ⟨hlife, hnone⟩, fun _ => hlife⟩
    · rw [if_neg hlost]
      have hactive : 1 < active := Nat.lt_of_not_le fun h => hlost (Or.inr h)
      by_cases hresized : resized = true
      · have hnone : ¬ Bubbles c ticks resized active p := by
          rintro ⟨-, -, h⟩
          rw [hresized] at h
          cases h
        rw [if_pos hresized]
        exact ⟨fun _ => ⟨hlife, hnone⟩, fun _ => hlife⟩
      · rw [if_neg hresized]
        by_cases hdue : Due c ticks p
        · rw [if_pos hdue]
          refine ⟨(fun h => nomatch h), fun h => absurd ⟨hdue, hactive, ?_⟩ h.2⟩
          simpa using hresized
        · rw [if_neg hdue]
          exact ⟨fun _ => ⟨hlife, fun h => hdue h.1⟩, fun _ => hlife⟩
  · rw [if_pos hlife]
    exact ⟨fun h => absurd h hlife, fun h => h.1⟩

/-- Who is in play before the loop is in play or in a bubble behind it. -/
theorem separateAll_active {c : CoopCamera} {ticks : UInt32} (ps : List CoopPlayer) : ∀ active,
    (separateAll c ticks resized active ps).countP (fun p => decide (p.life = .is .playing)) +
      (bubbled c ticks resized active ps).length = ps.countP fun p =>
      decide (p.life = .is .playing) := by
  induction ps with
  | nil =>
      intro active
      rfl
  | cons p ps ih =>
      intro active
      rw [separateAll_cons, bubbled_cons, List.countP_cons, List.countP_cons]
      simp only [decide_eq_true_eq, separate_playing]
      by_cases hbubbles : Bubbles c ticks resized active p
      · have hlife : p.life = .is .playing := hbubbles.1.1.1
        have hrest := ih (active - 1)
        rw [if_pos hbubbles, if_pos hbubbles, if_neg fun h => h.2 hbubbles, if_pos hlife,
          List.length_cons]
        omega
      · have hrest := ih active
        rw [if_neg hbubbles, if_neg hbubbles]
        by_cases hlife : p.life = .is .playing
        · rw [if_pos ⟨hlife, hbubbles⟩, if_pos hlife]
          omega
        · rw [if_neg fun h => hlife h.1, if_neg hlife]
          omega

/-- A check never bubbles the last player in play. -/
theorem check_active (h : 0 < coopActiveCount s) :
    0 < coopActiveCount (coopCameraCheckSeparation s resized).2 := by
  by_cases hidle : Idle s
  · rw [check_idle hidle]
    exact h
  · rw [check_checked hidle]
    have hcount :=
      @separateAll_active resized s.camera s.ticksPerSecond s.players (coopActiveCount s)
    have hlt := @bubbled_length resized s.camera s.ticksPerSecond s.players _ h
    change _ = coopActiveCount s at hcount
    show 0 < (separateAll s.camera s.ticksPerSecond resized (coopActiveCount s) s.players).countP
      fun p => decide (p.life = .is .playing)
    omega

/-- Whom a check bubbles. -/
theorem bubbledBy_check (h : BubbledBy s (coopCameraCheckSeparation s resized).2 id) :
    ∃ p, coopPlayer s id = some p ∧ ¬ Idle s ∧
      Bubbles s.camera s.ticksPerSecond resized (standing s resized id) p := by
  obtain ⟨p, q, hp, hlife, hq, hbubble⟩ := h
  by_cases hidle : Idle s
  · rw [check_idle hidle, hp] at hq
    cases hq
    rw [hlife] at hbubble
    cases hbubble
  · rw [check_checked hidle, coopPlayer_checked, hp] at hq
    cases hq
    refine ⟨p, hp, hidle, ?_⟩
    by_contra hnone
    rw [separate_playing.2 ⟨hlife, hnone⟩] at hbubble
    cases hbubble

end Check

/-! ## The timers over a run -/

/-- A player in play has waited as long as its timer says, and not to the limit. -/
structure Waits (steps : List CameraStep) (s : CoopSession) : Prop where
  ticks : s.ticksPerSecond ≤ 1000
  below : ∀ id p, coopPlayer s id = some p → p.life = .is .playing →
    p.separationTicks < s.ticksPerSecond
  waited : ∀ id p, coopPlayer s id = some p → p.life = .is .playing →
    Waited id steps p.separationTicks.toNat

section Waits

variable {s : CoopSession} {steps : List CameraStep}

/-- Below the limit a timer does not wrap. -/
theorem toNat_succ {a b : UInt32} (h : a < b) : (a + 1).toNat = a.toNat + 1 := by
  have hone : (1 : UInt32).toNat = 1 := rfl
  have hb := b.toNat_lt
  rw [UInt32.lt_iff_toNat_lt] at h
  rw [UInt32.toNat_add, hone]
  exact Nat.mod_eq_of_lt (by omega)

/-- A step that leaves life and timer of every player, and neither clears nor counts. -/
theorem Waits.pass (h : Waits steps s) {op : CameraOp} {t : CoopSession}
    (hticks : t.ticksPerSecond = s.ticksPerSecond)
    (hplayers : ∀ id q, coopPlayer t id = some q → ∃ p, coopPlayer s id = some p ∧ q.life = p.life ∧
      q.separationTicks = p.separationTicks)
    (hquiet : ∀ id, clears id (s, op, t) = false ∧ counts id (s, op, t) = false) :
    Waits (steps ++ [(s, op, t)]) t := by
  refine ⟨hticks ▸ h.ticks, ?_, ?_⟩
  · intro id q hq hlife
    obtain ⟨p, hp, hsame, htimer⟩ := hplayers id q hq
    rw [htimer, hticks]
    exact h.below id p hp (hsame.symm.trans hlife)
  · intro id q hq hlife
    obtain ⟨p, hp, hsame, htimer⟩ := hplayers id q hq
    have hwaited := (h.waited id p hp (hsame.symm.trans hlife)).snoc (hquiet id).1
    rw [(hquiet id).2, if_neg Bool.false_ne_true, Nat.add_zero] at hwaited
    rw [htimer]
    exact hwaited

theorem coopCameraFrame_players (s : CoopSession) (w h rw rh : Int32) (autoscroll : Bool) :
    (coopCameraFrame s w h rw rh autoscroll).2.players =
      if (coopCameraFrame s w h rw rh autoscroll).1 = true ∧
        (s.camera.width ≠ w ∨ s.camera.height ≠ h) then
        s.players.map rested
      else s.players := by
  unfold coopCameraFrame
  split
  · rw [if_neg fun h => Bool.false_ne_true h.1]
  · extract_lets resized camera s₁ box
    have hplayers : s₁.players = if resized then s.players.map rested else s.players := rfl
    split
    · rw [hplayers]
      simp only [true_and]
      rfl
    · show s₁.players = _
      rw [hplayers]
      simp only [true_and]
      rfl

theorem Waits.check (h : Waits steps s) (resized : Bool) :
    Waits (steps ++ [(s, .checkSeparation resized, (coopCameraCheckSeparation s resized).2)])
      (coopCameraCheckSeparation s resized).2 := by
  by_cases hidle : Idle s
  · rw [check_idle hidle]
    refine h.pass rfl (fun id q hq => ⟨q, hq, rfl, rfl⟩) ?_
    intro id
    simp [clears, counts, hidle]
  · have hticks : (coopCameraCheckSeparation s resized).2.ticksPerSecond = s.ticksPerSecond :=
      congrArg Ledger.ticksPerSecond (ledger_coopCameraCheckSeparation s resized)
    have hstep : ∀ id q, coopPlayer (coopCameraCheckSeparation s resized).2 id = some q →
      q.life = .is .playing →
        q.separationTicks < s.ticksPerSecond ∧
          Waited id
            (steps ++ [(s, .checkSeparation resized, (coopCameraCheckSeparation s resized).2)])
            q.separationTicks.toNat := by
      intro id q hq hlife
      rw [check_checked hidle, coopPlayer_checked] at hq
      obtain ⟨p, hp, rfl⟩ := Option.map_eq_some_iff.1 hq
      obtain ⟨hplaying, hnone⟩ := separate_playing.1 hlife
      have hbelow := h.below id p hp hplaying
      have hwaited := h.waited id p hp hplaying
      have hpos : 0 < s.ticksPerSecond := by
        rw [UInt32.lt_iff_toNat_lt] at hbelow ⊢
        exact Nat.lt_of_le_of_lt (Nat.zero_le _) hbelow
      unfold separate
      rw [if_neg (by simp [hplaying])]
      by_cases hlost : ¬ Strayed s.camera p ∨ standing s resized id ≤ 1
      · rw [if_pos hlost]
        exact ⟨hpos, Waited.start id _⟩
      · have hactive : 1 < standing s resized id := Nat.lt_of_not_le fun h => hlost (Or.inr h)
        have hstrayed : Strayed s.camera p := not_not.1 fun h => hlost (Or.inl h)
        have hfinds : finds s resized id = true := by
          unfold finds
          rw [hp]
          simp [hstrayed, hactive]
        have hkeeps : clears id (s, .checkSeparation resized,
          (coopCameraCheckSeparation s resized).2) = false := by
          simp [clears, hfinds]
        have hnext := hwaited.snoc hkeeps
        rw [if_neg hlost]
        by_cases hresized : resized = true
        · have hcounts : counts id (s, .checkSeparation resized,
            (coopCameraCheckSeparation s resized).2) = false := by
            simp [counts, hresized]
          rw [hcounts, if_neg Bool.false_ne_true] at hnext
          rw [if_pos hresized]
          exact ⟨hbelow, hnext⟩
        · have hcounts : counts id (s, .checkSeparation resized,
            (coopCameraCheckSeparation s resized).2) = true := by
            have hresized : resized = false := by simpa using hresized
            subst hresized
            simp [counts, hidle, hfinds]
          have hpatient : ¬ Due s.camera s.ticksPerSecond p := by
            intro hdue
            exact hnone ⟨hdue, hactive, by simpa using hresized⟩
          have hless : p.separationTicks + 1 < s.ticksPerSecond := not_not.1 fun h =>
            hpatient ⟨hstrayed, h⟩
          rw [hcounts, if_pos rfl, ← toNat_succ hbelow] at hnext
          rw [if_neg hresized, if_neg hpatient]
          exact ⟨hless, hnext⟩
    refine ⟨hticks ▸ h.ticks, ?_, fun id q hq hlife => (hstep id q hq hlife).2⟩
    intro id q hq hlife
    rw [hticks]
    exact (hstep id q hq hlife).1

theorem Waits.cameraFrame (h : Waits steps s) (width height rw rh : Int32) (autoscroll : Bool) :
    Waits (steps ++ [(s, .cameraFrame width height rw rh autoscroll,
      (coopCameraFrame s width height rw rh autoscroll).2)])
        (coopCameraFrame s width height rw rh autoscroll).2 := by
  have hticks : (coopCameraFrame s width height rw rh autoscroll).2.ticksPerSecond =
    s.ticksPerSecond :=
    congrArg Ledger.ticksPerSecond (ledger_coopCameraFrame s width height rw rh autoscroll)
  have hplayers := coopCameraFrame_players s width height rw rh autoscroll
  by_cases hsize : (coopCameraFrame s width height rw rh autoscroll).1 = true ∧
      (s.camera.width ≠ width ∨ s.camera.height ≠ height)
  · rw [if_pos hsize] at hplayers
    have hrested : ∀ id q, coopPlayer (coopCameraFrame s width height rw rh autoscroll).2 id =
      some q →
        q.life = .is .playing → ∃ p, coopPlayer s id = some p ∧ p.life = .is .playing ∧
        q.separationTicks = 0 := by
      intro id q hq hlife
      unfold coopPlayer at hq
      have hid : ∀ p : CoopPlayer, (rested p).id = p.id := fun _ => rfl
      rw [hplayers, findKey_map hid] at hq
      obtain ⟨p, hp, rfl⟩ := Option.map_eq_some_iff.1 hq
      exact ⟨p, hp, hlife, rfl⟩
    refine ⟨hticks ▸ h.ticks, ?_, ?_⟩
    · intro id q hq hlife
      obtain ⟨p, hp, hplaying, hzero⟩ := hrested id q hq hlife
      have hbelow := h.below id p hp hplaying
      rw [hticks, hzero]
      rw [UInt32.lt_iff_toNat_lt] at hbelow ⊢
      exact Nat.lt_of_le_of_lt (Nat.zero_le _) hbelow
    · intro id q hq hlife
      obtain ⟨-, -, -, hzero⟩ := hrested id q hq hlife
      rw [hzero]
      exact Waited.start id _
  · rw [if_neg hsize] at hplayers
    refine h.pass hticks ?_ ?_
    · intro id q hq
      unfold coopPlayer at hq
      rw [hplayers] at hq
      exact ⟨q, hq, rfl, rfl⟩
    · intro id
      refine ⟨?_, rfl⟩
      unfold clears
      rw [Bool.and_eq_false_iff]
      by_cases hcall : (coopCameraFrame s width height rw rh autoscroll).1 = true
      · right
        have hsame : ¬ (s.camera.width ≠ width ∨ s.camera.height ≠ height) :=
          fun h => hsize ⟨hcall, h⟩
        simpa [not_or] using hsame
      · left
        simpa using hcall

theorem Waits.beginFrame (h : Waits steps s) (advances : Bool) :
    Waits (steps ++ [(s, .beginFrame advances, (coopSessionBeginFrame s advances).2)])
      (coopSessionBeginFrame s advances).2 := by
  obtain ⟨hticks, hplayers⟩ : (coopSessionBeginFrame s advances).2.ticksPerSecond =
    s.ticksPerSecond ∧
      ((coopSessionBeginFrame s advances).2.players = s.players ∨
        (coopSessionBeginFrame s advances).2.players = s.players.map tickPlayer) := by
    unfold coopSessionBeginFrame
    split
    · exact ⟨rfl, Or.inl rfl⟩
    · dsimp only
      split
      · exact ⟨rfl, Or.inl rfl⟩
      · exact ⟨rfl, Or.inr rfl⟩
  refine h.pass hticks ?_ fun id => ⟨rfl, rfl⟩
  intro id q hq
  unfold coopPlayer at hq
  rcases hplayers with hplayers | hplayers
  · rw [hplayers] at hq
    exact ⟨q, hq, rfl, rfl⟩
  · have hid : ∀ p : CoopPlayer, (tickPlayer p).id = p.id := fun _ => rfl
    rw [hplayers, findKey_map hid] at hq
    obtain ⟨p, hp, rfl⟩ := Option.map_eq_some_iff.1 hq
    exact ⟨p, hp, rfl, rfl⟩

/-- Every step keeps the timers true. -/
theorem Waits.step (before : List CameraStep) (a : CoopSession) (op : CameraOp) (b : CoopSession)
    (h : Waits before a)
    (hstep : cameraStep a op b) : Waits (before ++ [(a, op, b)]) b := by
  subst hstep
  cases op with
  | beginFrame advances => exact h.beginFrame advances
  | cameraFrame w height rw rh autoscroll => exact h.cameraFrame w height rw rh autoscroll
  | checkSeparation resized => exact h.check resized
  | move m =>
      refine h.pass rfl ?_ fun id => ⟨rfl, rfl⟩
      intro id q hq
      unfold CameraOp.next coopPlayer at hq
      rw [findKey_map m.id] at hq
      obtain ⟨p, hp, rfl⟩ := Option.map_eq_some_iff.1 hq
      exact ⟨p, hp, m.life p, m.separationTicks p⟩
  | place x y => exact h.pass rfl (fun id q hq => ⟨q, hq, rfl, rfl⟩) fun id => ⟨rfl, rfl⟩

theorem Waits.init {allocator : Allocator} {count : Nat} {hz : UInt32}
    (hinit : coopSessionInit allocator count hz = some s) : Waits [] s := by
  obtain ⟨hpos, hle⟩ := (coopSessionInit_valid hinit).ticks
  obtain ⟨-, -, -, -, hplayers, -⟩ := coopSessionInit_some hinit
  have hzero : ∀ id p, coopPlayer s id = some p → p.separationTicks = 0 := by
    intro id p hp
    have hmem := coopPlayer_mem hp
    rw [hplayers] at hmem
    obtain ⟨i, -, rfl⟩ := List.mem_map.1 hmem
    rfl
  refine ⟨hle, ?_, ?_⟩
  · intro id p hp _
    rw [hzero id p hp]
    exact UInt32.pos_iff_ne_zero.2 hpos
  · intro id p hp _
    rw [hzero id p hp]
    exact Waited.start id _

/-- **Separation never ends the game and never acts early.**  After any run from initialisation, a
check that starts with somebody in play ends with somebody in play; it bubbles no leader; and it
bubbles only players that it finds outside the frame, for the last of as many checks as the limit
says since the last one that cleared the timer. -/
theorem separation_patience {allocator : Allocator} {count : Nat} {hz : UInt32} {s₀ : CoopSession}
    (hinit : coopSessionInit allocator count hz = some s₀) (hrun : Run cameraStep s₀ steps s)
    (resized : Bool) :
    (0 < coopActiveCount s → 0 < coopActiveCount (coopCameraCheckSeparation s resized).2) ∧
    ∀ id, BubbledBy s (coopCameraCheckSeparation s resized).2 id →
      id ≠ s.camera.leader ∧
      counts id (s, .checkSeparation resized, (coopCameraCheckSeparation s resized).2) = true ∧
      ∃ before recent, steps = before ++ recent ∧ (∀ x ∈ recent, clears id x = false) ∧
        recent.countP (counts id) + 1 = s.ticksPerSecond.toNat := by
  have hwaits : Waits steps s := hrun.history (Waits.init hinit) Waits.step
  refine ⟨check_active, ?_⟩
  intro id hbubbled
  obtain ⟨p, hp, hidle, hdue, hactive, hresized⟩ := bubbledBy_check hbubbled
  obtain ⟨hstrayed, hlimit⟩ := hdue
  have hid := coopPlayer_id hp
  have hfinds : finds s resized id = true := by
    unfold finds
    rw [hp]
    simp [hstrayed, hactive]
  have hbelow := hwaits.below id p hp hstrayed.1
  obtain ⟨before, recent, hsteps, hclears, hcount⟩ := hwaits.waited id p hp hstrayed.1
  refine ⟨hid ▸ hstrayed.2.2, ?_, before, recent, hsteps, hclears, ?_⟩
  · subst hresized
    simp [counts, hidle, hfinds]
  · rw [hcount]
    have hone := toNat_succ hbelow
    rw [UInt32.lt_iff_toNat_lt] at hbelow
    rw [UInt32.lt_iff_toNat_lt, hone] at hlimit
    omega

end Waits

/-- A pair at two ticks a second that strays under a far camera for two running checks, between
which the camera comes back for a check while the game stands still. -/
def strayingOps : List CameraOp :=
  [.cameraFrame 256 224 512 432 false, .place 1000 1000, .beginFrame true, .checkSeparation false,
    .beginFrame false, .place (-100) (-100), .checkSeparation false, .place 1000 1000,
    .beginFrame true]

def briefSession : CoopSession := (coopSessionInit [] 2 2).get (by decide)

def strayedSession : CoopSession := strayingOps.foldl CameraOp.next briefSession

def strayingSteps : List CameraStep := traceOf CameraOp.next briefSession strayingOps

theorem strayingRun : Run cameraStep briefSession strayingSteps strayedSession :=
  @Run.trace _ _ cameraStep CameraOp.next (fun _ _ => rfl) strayingOps briefSession

theorem separation_patience_straying :
    (0 < coopActiveCount strayedSession →
      0 < coopActiveCount (coopCameraCheckSeparation strayedSession false).2) ∧
    ∀ id, BubbledBy strayedSession (coopCameraCheckSeparation strayedSession false).2 id →
      id ≠ strayedSession.camera.leader ∧
      counts id (strayedSession, .checkSeparation false,
        (coopCameraCheckSeparation strayedSession false).2) = true ∧
      ∃ before recent, strayingSteps = before ++ recent ∧ (∀ x ∈ recent, clears id x = false) ∧
        recent.countP (counts id) + 1 = strayedSession.ticksPerSecond.toNat :=
  separation_patience (Option.some_get _).symm strayingRun false

/-- The check bubbles a player that was inside at the call before: that call came while the game
stood still, and looked at nobody. -/
theorem bubbled_behind_idle_check :
    BubbledBy strayedSession (coopCameraCheckSeparation strayedSession false).2 0 ∧
    ∃ before a b after p, strayingSteps = before ++ (a, .checkSeparation false, b) :: after ∧
      coopPlayer a 0 = some p ∧ p.life = .is .playing ∧ outsideFrame a.camera p = false ∧
      after.countP (counts 0) + 1 < strayedSession.ticksPerSecond.toNat := by
  refine ⟨?_, strayingSteps.take 6, (strayingOps.take 6).foldl CameraOp.next briefSession,
    (strayingOps.take 7).foldl CameraOp.next briefSession, strayingSteps.drop 7,
    (coopPlayer ((strayingOps.take 6).foldl CameraOp.next briefSession) 0).get (by decide), rfl,
    (Option.some_get _).symm, by decide, by decide, by decide⟩
  exact ⟨(coopPlayer strayedSession 0).get (by decide),
    (coopPlayer (coopCameraCheckSeparation strayedSession false).2 0).get (by decide),
    (Option.some_get _).symm, by decide, (Option.some_get _).symm, by decide⟩

end SmwRecomp.Coop
