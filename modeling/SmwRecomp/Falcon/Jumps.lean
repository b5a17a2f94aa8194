import SmwRecomp.Falcon.Locomotion

/-!
# The jump budget

* `Event`, `play` — what happens to a fighter, in any order: a tick with the host's ground, or a
  collision.
* `AerialOnce` — of the events from one that leaves the fighter in the air to the next landing, at
  most one enters the aerial jump.
* `Spent` — in the air with no jump left.
* `Paid` — no aerial jump is asked for with the counter at zero.
* `aerial_once_iff` — a run pays for its jumps iff no next event anywhere in it is a second aerial
  jump.
-/

set_option autoImplicit false

namespace SmwRecomp.Falcon

open Foreign (ForeignAirCause)
open FalconState FalconFighter

/-! ## Runs -/

inductive Event where
  | tick (grounded : Bool) (airCause : ForeignAirCause) (input : FalconInputRaw)
  | resolve (hit : FalconCollision)

namespace Event

/-- The host reports the player on the ground. -/
def onGround : Event → Bool
  | tick grounded _ _ => grounded
  | resolve _ => false

def unlimited : Event → Bool
  | tick _ _ i => i.unlimitedJumps
  | resolve _ => false

def step (m : SourceMath) (f : FalconFighter) : Event → FalconFighter
  | tick grounded airCause i => cfTick m f grounded airCause i
  | resolve hit => falconResolve f hit

end Event

def play (m : SourceMath) (f : FalconFighter) (events : List Event) : FalconFighter :=
  events.foldl (Event.step m) f

def jumpAerialState (state : FalconState) : Bool := state = jumpAerialF ∨ state = jumpAerialB

/-- The fighter has just entered the aerial jump. -/
def Fresh (f : FalconFighter) : Prop := jumpAerialState f.state ∧ f.stateFrame = 0

instance (f : FalconFighter) : Decidable (Fresh f) := inferInstanceAs (Decidable (_ ∧ _))

/-- The event is a tick that enters the aerial jump. -/
def entersAerial (m : SourceMath) (f : FalconFighter) : Event → Bool
  | .tick grounded airCause i => Fresh (cfTick m f grounded airCause i)
  | .resolve _ => false

/-- How many of the events enter the aerial jump. -/
def entries (m : SourceMath) (f : FalconFighter) : List Event → Nat
  | [] => 0
  | e :: events => (if entersAerial m f e then 1 else 0) + entries m (e.step m f) events

/-- No event lands the fighter. -/
def aloft (m : SourceMath) (f : FalconFighter) : List Event → Bool
  | [] => true
  | e :: events => !e.onGround && !(e.step m f).grounded && aloft m (e.step m f) events

/-- Between leaving the ground and landing the aerial jump is entered at most once. -/
def AerialOnce (m : SourceMath) (f : FalconFighter) (events : List Event) : Prop :=
  ∀ before leave spell after, events = before ++ leave :: (spell ++ after) →
    (leave.step m (play m f before)).grounded = false →
    aloft m (leave.step m (play m f before)) spell = true →
    entries m (play m f before) (leave :: spell) ≤ 1

/-! ## What a tick leaves alone -/

/-- The two agree in the state, its frames, the ground and the counter. -/
structure Same (f g : FalconFighter) : Prop where
  state : g.state = f.state
  stateFrame : g.stateFrame = f.stateFrame
  grounded : g.grounded = f.grounded
  jumpsUsed : g.jumpsUsed = f.jumpsUsed
  animFrame : g.animFrame = f.animFrame

theorem Same.refl (f : FalconFighter) : Same f f := ⟨rfl, rfl, rfl, rfl, rfl⟩

theorem Same.fresh {f g : FalconFighter} (h : Same f g) : Fresh g ↔ Fresh f := by
  unfold Fresh
  rw [h.state, h.stateFrame]

theorem Same.ite {f g h : FalconFighter} {P : Prop} [Decidable P] (hg : Same f g) (hh : Same f h) :
    Same f (if P then g else h) := by
  split
  · exact hg
  · exact hh

theorem same_physGroundFriction (f : FalconFighter) (friction : ℚ) :
    Same f (f.physGroundFriction friction) := ⟨rfl, rfl, rfl, rfl, rfl⟩

theorem same_physGroundVelAbsStick (f : FalconFighter) (stickX : Int) (vel friction : ℚ) :
    Same f (f.physGroundVelAbsStick stickX vel friction) := ⟨rfl, rfl, rfl, rfl, rfl⟩

theorem same_physAirTick (f : FalconFighter) (i : FalconInputRaw) (cap : ℚ) :
    Same f (f.physAirTick i cap) := by
  unfold physAirTick physCheckSetFastfall
  dsimp only [physFall]
  split <;> exact ⟨rfl, rfl, rfl, rfl, rfl⟩

theorem same_physFalconDiveLaunch (f : FalconFighter) (i : FalconInputRaw) :
    Same f (f.physFalconDiveLaunch i) := ⟨rfl, rfl, rfl, rfl, rfl⟩

/-- The physics of a state only change the speeds and the fast fall. -/
theorem same_procPhysics (f : FalconFighter) (i : FalconInputRaw) : Same f (f.procPhysics i) := by
  unfold procPhysics
  split
  all_goals first
    | exact Same.refl f
    | exact same_physGroundFriction f _
    | exact same_physGroundVelAbsStick f _ _ _
    | exact same_physAirTick f i _
    | exact same_physFalconDiveLaunch f i
    | exact ⟨rfl, rfl, rfl, rfl, rfl⟩
    | exact Same.ite (same_physGroundFriction f _) (Same.refl f)
    | exact Same.ite (same_physAirTick f i _) (Same.refl f)

theorem same_rootMotion (m : SourceMath) (f : FalconFighter) : Same f (rootMotion m f) := by
  unfold rootMotion
  split
  · exact Same.refl f
  · exact Same.ite ⟨rfl, rfl, rfl, rfl, rfl⟩ ⟨rfl, rfl, rfl, rfl, rfl⟩

/-- After `proc_interrupt` a tick changes nothing of these. -/
theorem same_cfTick (m : SourceMath) (f : FalconFighter) (grounded : Bool)
    (airCause : ForeignAirCause) (i : FalconInputRaw) :
    Same ((beforeInterrupt m { f with grounded, hostAirCause := airCause } i).procInterrupt i)
      (cfTick m f grounded airCause i) := by
  have hphysics := same_procPhysics
    ((beforeInterrupt m { f with grounded, hostAirCause := airCause } i).procInterrupt i) i
  have hroot := same_rootMotion m (falconTick m { f with grounded, hostAirCause := airCause } i)
  exact ⟨hroot.state.trans hphysics.state, hroot.stateFrame.trans hphysics.stateFrame,
    hroot.grounded.trans hphysics.grounded, hroot.jumpsUsed.trans hphysics.jumpsUsed,
    hroot.animFrame.trans hphysics.animFrame⟩

/-! ## Only the check enters the aerial jump -/

theorem not_fresh_setStatus (f : FalconFighter) {state : FalconState}
    (h : jumpAerialState state = false) : ¬ Fresh (f.setStatus state) := by
  intro hfresh
  have haerial : jumpAerialState state = true := hfresh.1
  rw [h] at haerial
  exact Bool.false_ne_true haerial

theorem not_fresh_of_frame {f : FalconFighter} (h : f.stateFrame ≠ 0) : ¬ Fresh f := fun hfresh =>
  h hfresh.2

theorem not_fresh_whenEnded {f : FalconFighter} {next : FalconFighter → FalconFighter}
    (hf : f.stateFrame ≠ 0) (hnext : ¬ Fresh (next f)) : ¬ Fresh (f.whenEnded next) := by
  unfold whenEnded
  split
  · exact hnext
  · exact not_fresh_of_frame hf

theorem not_fresh_enterFall (f : FalconFighter) : ¬ Fresh f.enterFall := by
  unfold enterFall
  apply not_fresh_setStatus
  split <;> rfl

theorem not_fresh_enterJump (m : SourceMath) (f : FalconFighter) (i : FalconInputRaw) :
    ¬ Fresh (f.enterJump m i) := by
  unfold enterJump
  apply not_fresh_setStatus
  split <;> rfl

theorem stateFrame_turnAt (f : FalconFighter) (frame : Nat) :
    (f.turnAt frame).stateFrame = f.stateFrame := by
  unfold turnAt
  split <;> rfl

theorem stateFrame_lunge (f : FalconFighter) : f.lunge.stateFrame = f.stateFrame := by
  unfold lunge
  split <;> rfl

theorem stateFrame_diveTurn (f : FalconFighter) (i : FalconInputRaw) :
    (f.diveTurn i).stateFrame = f.stateFrame := by
  unfold diveTurn
  split <;> rfl

/-- `proc_update` never enters the aerial jump. -/
theorem not_fresh_procUpdate (m : SourceMath) {f : FalconFighter} (i : FalconInputRaw)
    (hf : f.stateFrame ≠ 0) : ¬ Fresh (f.procUpdate m i) := by
  have hlunge := stateFrame_lunge f
  have hdive := stateFrame_diveTurn f i
  unfold procUpdate
  split
  all_goals first
    | exact not_fresh_of_frame hf
    | exact not_fresh_whenEnded hf (not_fresh_setStatus _ rfl)
    | exact not_fresh_whenEnded hf (not_fresh_enterFall f)
    | exact not_fresh_whenEnded (hlunge ▸ hf) (not_fresh_enterFall _)
    | exact not_fresh_whenEnded (hdive ▸ hf) (not_fresh_setStatus _ rfl)
    | exact not_fresh_whenEnded (stateFrame_turnAt f _ ▸ hf) (not_fresh_setStatus _ rfl)
    | skip
  case h_4 =>
    dsimp only
    split
    · exact not_fresh_enterJump m _ i
    · exact not_fresh_of_frame hf
  case h_25 =>
    apply not_fresh_whenEnded hf
    split
    · exact not_fresh_setStatus _ rfl
    · exact not_fresh_enterFall f

/-- What holds of the fighter and of whatever a chain of checks gives holds of the outcome. -/
theorem of_checks {P : FalconFighter → Prop} {f : FalconFighter} {checks : Option FalconFighter}
    (hchecks : ∀ g ∈ checks, P g) (hf : P f) : P (checks.getD f) := by
  cases checks with
  | none => exact hf
  | some g => exact hchecks g rfl

theorem mem_orElse {first second : Option FalconFighter} {g : FalconFighter}
    (h : g ∈ (first <|> second)) : g ∈ first ∨ first = none ∧ g ∈ second := by
  cases first with
  | none => exact .inr ⟨rfl, by simpa using h⟩
  | some _ => exact .inl (by simpa using h)

theorem of_orElse {P : FalconFighter → Prop} {first second : Option FalconFighter}
    (hfirst : ∀ g ∈ first, P g) (hsecond : ∀ g ∈ second, P g) : ∀ g ∈ (first <|> second), P g :=
  fun g hg => (mem_orElse hg).elim (hfirst g) fun h => hsecond g h.2

theorem of_check {P : FalconFighter → Prop} {c : Prop} [Decidable c] {next : FalconFighter}
    (hnext : c → P next) : ∀ g ∈ (if c then some next else none), P g := by
  intro g hg
  split at hg
  · cases hg
    exact hnext ‹c›
  · cases hg

theorem not_fresh_enterSpecial (f : FalconFighter) (i : FalconInputRaw) (fromGround : Bool) :
    ¬ Fresh (f.enterSpecial i fromGround) := by
  unfold enterSpecial
  split
  · exact not_fresh_setStatus _ (by cases fromGround <;> rfl)
  · split
    · exact not_fresh_setStatus _ (by cases fromGround <;> rfl)
    · exact not_fresh_setStatus _ (by cases fromGround <;> rfl)

theorem not_fresh_checkSpecial (f : FalconFighter) (i : FalconInputRaw) (fromGround : Bool) :
    ∀ g ∈ f.checkSpecial i fromGround, ¬ Fresh g :=
  of_check fun _ => not_fresh_enterSpecial f i fromGround

theorem not_fresh_checkGroundAttack {f : FalconFighter} (i : FalconInputRaw) (hf : ¬ Fresh f) :
    ∀ g ∈ f.checkGroundAttack i, ¬ Fresh g := by
  intro g hg
  unfold checkGroundAttack at hg
  split at hg
  · cases hg
  · split at hg
    · cases hg
      exact hf
    · split at hg
      · cases hg
        exact not_fresh_setStatus _ rfl
      · cases hg
        exact not_fresh_setStatus _ rfl

theorem not_fresh_checkAirAttack {f : FalconFighter} (i : FalconInputRaw) (hf : ¬ Fresh f) :
    ∀ g ∈ f.checkAirAttack i, ¬ Fresh g := by
  intro g hg
  unfold checkAirAttack at hg
  split at hg
  · cases hg
  · split at hg
    · cases hg
      exact not_fresh_setStatus _ rfl
    · split at hg
      · cases hg
        exact hf
      · split at hg
        · cases hg
          apply not_fresh_setStatus
          split <;> rfl
        · cases hg
          exact not_fresh_setStatus _ rfl

theorem not_fresh_checkDash (f : FalconFighter) (i : FalconInputRaw) :
    ∀ g ∈ f.checkDash i, ¬ Fresh g := by
  intro g hg
  unfold checkDash at hg
  split at hg
  · split at hg
    · cases hg
      exact not_fresh_setStatus _ rfl
    · cases hg
      exact not_fresh_setStatus _ rfl
  · cases hg

theorem not_fresh_checkWalk (f : FalconFighter) (i : FalconInputRaw) :
    ∀ g ∈ f.checkWalk i, ¬ Fresh g := by
  apply of_check
  intro _
  apply not_fresh_setStatus
  unfold walkStatusFor
  split
  · rfl
  · split <;> rfl

theorem not_fresh_checkKneebend (f : FalconFighter) (i : FalconInputRaw) (fromRun : Bool) :
    ∀ g ∈ f.checkKneebend i fromRun, ¬ Fresh g :=
  of_check fun _ => not_fresh_setStatus _ rfl

theorem not_fresh_checkGroundCombat {f : FalconFighter} (i : FalconInputRaw) (hf : ¬ Fresh f) :
    ∀ g ∈ f.checkGroundCombat i, ¬ Fresh g :=
  of_orElse (not_fresh_checkSpecial f i true) (not_fresh_checkGroundAttack i hf)

theorem not_fresh_checkGround {f : FalconFighter} (i : FalconInputRaw) (hf : ¬ Fresh f) :
    ∀ g ∈ f.checkGround i, ¬ Fresh g := by
  refine of_orElse (not_fresh_checkGroundCombat i hf) ?_
  refine of_orElse (not_fresh_checkKneebend f i false) ?_
  refine of_orElse (not_fresh_checkDash f i) ?_
  exact of_orElse (of_check fun _ => not_fresh_setStatus _ rfl) (not_fresh_checkWalk f i)

/-- The states whose checks end in the aerial jump. -/
def checksAir (state : FalconState) : Bool :=
  state = jumpF ∨ state = jumpB ∨ state = jumpAerialF ∨ state = jumpAerialB ∨ state = fall ∨
    state = fallAerial

/-- `proc_interrupt` comes to the aerial jump, and the player asks for it. -/
def asksAerialJump (f : FalconFighter) (i : FalconInputRaw) : Bool :=
  checksAir f.state ∧ ¬ i.specialPressed ∧ ¬ i.attackPressed ∧ f.wantsJump i

theorem checkAir_of_asks {f : FalconFighter} {i : FalconInputRaw} (h : asksAerialJump f i = true) :
    f.checkAir i = f.checkJumpAerial i := by
  unfold asksAerialJump at h
  simp only [decide_eq_true_eq] at h
  obtain ⟨_, hspecial, hattack, _⟩ := h
  unfold checkAir checkAirSpecial checkSpecial checkAirAttack
  rw [if_neg hspecial, if_pos hattack]
  rfl

theorem procInterrupt_of_checksAir {f : FalconFighter} (i : FalconInputRaw)
    (h : checksAir f.state = true) : f.procInterrupt i = (f.checkAir i).getD f := by
  unfold checksAir at h
  simp only [decide_eq_true_eq] at h
  unfold procInterrupt
  obtain h | h | h | h | h | h := h <;> rw [h]

theorem attack_of_checkAirAttack {f : FalconFighter} {i : FalconInputRaw}
    (h : f.checkAirAttack i = none) : ¬ i.attackPressed = true := by
  intro hattack
  unfold checkAirAttack at h
  rw [if_neg (not_not.2 hattack)] at h
  split at h
  · cases h
  · split at h
    · cases h
    · split at h <;> cases h

/-- The checks of the air enter the aerial jump only when it is asked for and allowed. -/
theorem fresh_checkAir {f : FalconFighter} {i : FalconInputRaw} (hstate : checksAir f.state = true)
    (hf : ¬ Fresh f) : ∀ g ∈ f.checkAir i, Fresh g →
      asksAerialJump f i = true ∧ (i.unlimitedJumps = true ∨ f.jumpsUsed < A_JUMPS_MAX) ∧
        g = f.enterJumpAerial i := by
  intro g hg hfresh
  obtain hspecial | ⟨hspecial, hg⟩ := mem_orElse hg
  · exact absurd hfresh (not_fresh_checkSpecial f i false g hspecial)
  obtain hattack | ⟨hattack, hg⟩ := mem_orElse hg
  · exact absurd hfresh (not_fresh_checkAirAttack i hf g hattack)
  have hspecial : ¬ i.specialPressed = true := by
    intro hpressed
    unfold checkAirSpecial checkSpecial at hspecial
    rw [if_pos hpressed] at hspecial
    cases hspecial
  unfold checkJumpAerial at hg
  split at hg
  · cases hg
  · rename_i hbudget
    split at hg
    · rename_i hwants
      cases hg
      refine ⟨?_, ?_, rfl⟩
      · unfold asksAerialJump
        exact decide_eq_true ⟨hstate, hspecial, attack_of_checkAirAttack hattack, hwants⟩
      · by_cases hunlimited : i.unlimitedJumps = true
        · exact .inl hunlimited
        · exact .inr (Nat.lt_of_not_le fun hused => hbudget ⟨hunlimited, hused⟩)
    · cases hg

/-- `proc_interrupt` enters the aerial jump only when it is asked for and allowed. -/
theorem fresh_procInterrupt {f : FalconFighter} {i : FalconInputRaw} (hf : ¬ Fresh f)
    (hfresh : Fresh (f.procInterrupt i)) :
    asksAerialJump f i = true ∧ (i.unlimitedJumps = true ∨ f.jumpsUsed < A_JUMPS_MAX) ∧
      f.procInterrupt i = f.enterJumpAerial i := by
  by_cases hstate : checksAir f.state = true
  · rw [procInterrupt_of_checksAir i hstate] at hfresh ⊢
    exact of_checks (fresh_checkAir hstate hf) (fun h => absurd h hf) hfresh
  -- no other state enters it
  refine absurd hfresh ?_
  have hcombat := not_fresh_checkGroundCombat i hf
  have hground := not_fresh_checkGround i hf
  unfold procInterrupt
  split
  case h_1 => exact of_checks hground hf
  case h_2 | h_3 | h_4 =>
    refine of_checks (of_orElse hcombat ?_) ?_
    · refine of_orElse (not_fresh_checkKneebend f i false) ?_
      exact of_orElse (not_fresh_checkDash f i) (of_check fun _ => not_fresh_setStatus _ rfl)
    · rintro ⟨haerial, -⟩
      revert haerial
      unfold walkAgain walkStatusFor
      dsimp only
      split
      · exact Bool.false_ne_true
      · split <;> exact Bool.false_ne_true
  case h_5 =>
    refine of_checks (of_orElse hcombat ?_) hf
    refine of_orElse ?_ (of_orElse (not_fresh_checkKneebend f i true)
      (of_check fun _ => not_fresh_setStatus _ rfl))
    split
    · exact not_fresh_checkDash f i
    · exact fun g hg => nomatch hg
  case h_6 =>
    refine of_checks (of_orElse hcombat (of_orElse (not_fresh_checkKneebend f i true) ?_)) hf
    exact of_orElse (of_check fun _ => not_fresh_setStatus _ rfl)
      (of_check fun _ => not_fresh_setStatus _ rfl)
  case h_7 =>
    refine of_checks (of_orElse hcombat (of_orElse (not_fresh_checkKneebend f i true) ?_)) hf
    split
    · exact of_check fun _ => not_fresh_setStatus _ rfl
    · exact fun g hg => nomatch hg
  case h_8 =>
    refine of_checks (of_orElse hcombat (of_orElse (not_fresh_checkKneebend f i false) ?_)) hf
    exact of_check fun _ => not_fresh_setStatus _ rfl
  case h_9 => exact of_checks (of_orElse hcombat (not_fresh_checkKneebend f i true)) hf
  case h_10 => exact hf
  case h_11 | h_12 =>
    split
    · exact hf
    · exact of_checks hground hf
  all_goals first
    | exact hf
    | exact absurd (by rw [‹f.state = _›]; rfl) hstate

/-! ## A spent fighter -/

/-- In the air with no jump left. -/
structure Spent (f : FalconFighter) : Prop where
  air : isAirState f.state = true
  up : f.grounded = false
  used : A_JUMPS_MAX ≤ f.jumpsUsed

theorem Same.spent {f g : FalconFighter} (h : Same f g) (hf : Spent f) : Spent g :=
  ⟨h.state ▸ hf.air, h.grounded ▸ hf.up, h.jumpsUsed ▸ hf.used⟩

theorem Spent.not_of_ground {f : FalconFighter} (hf : Spent f) {state : FalconState}
    (h : f.state = state) (hground : isAirState state = false) : False := by
  rw [← h, hf.air] at hground
  exact Bool.false_ne_true hground.symm

theorem Spent.setStatus {f : FalconFighter} {state : FalconState} (hup : f.grounded = false)
    (hused : A_JUMPS_MAX ≤ f.jumpsUsed) (hair : isAirState state = true) :
    Spent (f.setStatus state) :=
  ⟨hair, hup, hused⟩

theorem Spent.enterFall {f : FalconFighter} (hused : A_JUMPS_MAX ≤ f.jumpsUsed) :
    Spent f.enterFall := by
  unfold FalconFighter.enterFall
  exact Spent.setStatus rfl hused (by split <;> rfl)

theorem Spent.whenEnded {f : FalconFighter} {next : FalconFighter → FalconFighter} (hf : Spent f)
    (hnext : Spent (next f)) : Spent (f.whenEnded next) := by
  unfold FalconFighter.whenEnded
  split
  · exact hnext
  · exact hf

theorem same_lunge (f : FalconFighter) : Same f f.lunge := by
  unfold lunge
  exact Same.ite ⟨rfl, rfl, rfl, rfl, rfl⟩ (Same.refl f)

theorem same_diveTurn (f : FalconFighter) (i : FalconInputRaw) : Same f (f.diveTurn i) := by
  unfold diveTurn
  exact Same.ite ⟨rfl, rfl, rfl, rfl, rfl⟩ (Same.refl f)

/-- `proc_update` lands no fighter in the air and gives no jump back. -/
theorem Spent.procUpdate {f : FalconFighter} (m : SourceMath) (i : FalconInputRaw) (hf : Spent f) :
    Spent (f.procUpdate m i) := by
  have hlunge := (same_lunge f).spent hf
  have hdive := (same_diveTurn f i).spent hf
  unfold FalconFighter.procUpdate
  split
  all_goals first
    | exact (hf.not_of_ground ‹f.state = _› (by decide)).elim
    | exact hf
    | exact hf.whenEnded (Spent.enterFall hf.used)
    | exact hlunge.whenEnded (Spent.enterFall hlunge.used)
    | exact hdive.whenEnded (Spent.setStatus rfl (Nat.le_refl _) rfl)
    | exact hf.whenEnded (Spent.setStatus rfl hf.used rfl)
    | skip
  case h_25 =>
    apply hf.whenEnded
    rw [if_neg (by rw [hf.up]; exact Bool.false_ne_true)]
    exact Spent.enterFall hf.used

theorem Spent.enterSpecial {f : FalconFighter} (i : FalconInputRaw) (hf : Spent f) :
    Spent (f.enterSpecial i false) := by
  unfold FalconFighter.enterSpecial
  split
  · exact Spent.setStatus hf.up hf.used rfl
  · split
    · exact Spent.setStatus rfl (Nat.le_refl _) rfl
    · exact Spent.setStatus hf.up hf.used rfl

theorem Spent.checkAirAttack {f : FalconFighter} (i : FalconInputRaw) (hf : Spent f) :
    ∀ g ∈ f.checkAirAttack i, Spent g := by
  intro g hg
  unfold FalconFighter.checkAirAttack at hg
  split at hg
  · cases hg
  · split at hg
    · cases hg
      exact Spent.setStatus hf.up hf.used rfl
    · split at hg
      · cases hg
        exact hf
      · split at hg
        · cases hg
          exact Spent.setStatus hf.up hf.used (by split <;> rfl)
        · cases hg
          exact Spent.setStatus hf.up hf.used rfl

theorem checkJumpAerial_spent {f : FalconFighter} {i : FalconInputRaw} (hf : Spent f)
    (hlimited : i.unlimitedJumps = false) : f.checkJumpAerial i = none := by
  unfold checkJumpAerial
  rw [if_pos ⟨by rw [hlimited]; exact Bool.false_ne_true, hf.used⟩]

theorem Spent.procInterrupt {f : FalconFighter} {i : FalconInputRaw} (hf : Spent f)
    (hlimited : i.unlimitedJumps = false) : Spent (f.procInterrupt i) := by
  have hair : ∀ g ∈ f.checkAir i, Spent g := by
    refine of_orElse (of_check fun _ => hf.enterSpecial i) ?_
    refine of_orElse (hf.checkAirAttack i) ?_
    rw [checkJumpAerial_spent hf hlimited]
    exact fun g hg => nomatch hg
  unfold FalconFighter.procInterrupt
  split
  all_goals first
    | exact (hf.not_of_ground ‹f.state = _› (by decide)).elim
    | exact of_checks hair hf
    | exact hf

/-- What the host says of the ground changes nothing of a fighter that is in the air and stays
there. -/
theorem reconcile_of_air (m : SourceMath) {f : FalconFighter} (i : FalconInputRaw)
    (hair : isAirState f.state = true) (hup : f.grounded = false) : reconcile m f i = f := by
  have hkick : f.state ≠ falconKickGround := by
    intro h
    rw [h] at hair
    exact Bool.false_ne_true hair
  unfold reconcile
  rw [if_neg (fun h => hkick h.2), if_neg (fun h => h.2 hair), if_neg]
  rw [hup]
  exact fun h => Bool.false_ne_true h.1

theorem same_forceAir {f : FalconFighter} (hup : f.grounded = false) : Same f (forceAir f) := by
  unfold forceAir
  exact Same.ite ⟨rfl, rfl, hup.symm, rfl, rfl⟩ (Same.refl f)

/-- The fighter a tick of a fighter in the air starts from, when the host leaves it there. -/
theorem same_before (f : FalconFighter) (airCause : ForeignAirCause) (i : FalconInputRaw)
    (hup : f.grounded = false) :
    Same f (forceAir
      (updateTapBuffers { f with grounded := false, hostAirCause := airCause } i)) := by
  have h := same_forceAir
    (f := updateTapBuffers { f with grounded := false, hostAirCause := airCause } i) rfl
  exact ⟨h.state, h.stateFrame, h.grounded.trans hup.symm, h.jumpsUsed, h.animFrame⟩

theorem Spent.beforeInterrupt {f : FalconFighter} (m : SourceMath) (airCause : ForeignAirCause)
    (i : FalconInputRaw) (hf : Spent f) :
    Spent (beforeInterrupt m { f with grounded := false, hostAirCause := airCause } i) := by
  have hbefore := (same_before f airCause i hf.up).spent hf
  unfold Falcon.beforeInterrupt
  rw [reconcile_of_air m i hbefore.air hbefore.up]
  exact Spent.procUpdate m i ⟨hbefore.air, hbefore.up, hbefore.used⟩

theorem not_fresh_beforeInterrupt (m : SourceMath) (f : FalconFighter) (i : FalconInputRaw) :
    ¬ Fresh (beforeInterrupt m f i) := by
  unfold beforeInterrupt
  exact not_fresh_procUpdate m i (Nat.succ_ne_zero _)

/-- A tick that leaves a spent fighter in the air leaves it spent. -/
theorem Spent.cfTick {f : FalconFighter} (m : SourceMath) (airCause : ForeignAirCause)
    {i : FalconInputRaw} (hlimited : i.unlimitedJumps = false) (hf : Spent f) :
    Spent (cfTick m f false airCause i) ∧ ¬ Fresh (cfTick m f false airCause i) := by
  have hsame := same_cfTick m f false airCause i
  have hbefore := hf.beforeInterrupt m airCause i
  refine ⟨hsame.spent (hbefore.procInterrupt hlimited), fun hfresh => ?_⟩
  obtain ⟨_, hallowed, _⟩ := fresh_procInterrupt (not_fresh_beforeInterrupt m _ i)
    (hsame.fresh.1 hfresh)
  rw [hlimited] at hallowed
  exact hallowed.elim Bool.false_ne_true fun hless => absurd hbefore.used (Nat.not_le_of_lt hless)

theorem grounded_touchDown (f : FalconFighter) : (touchDown f).grounded = true := by
  unfold touchDown
  split
  · rfl
  · split
    · rfl
    · split
      · rfl
      · split <;> rfl

/-- A contact that does not land a spent fighter leaves it spent. -/
theorem Spent.falconResolve {f : FalconFighter} {hit : FalconCollision} (hf : Spent f)
    (hup : (falconResolve f hit).grounded = false) : Spent (falconResolve f hit) := by
  unfold Falcon.falconResolve at hup ⊢
  dsimp only at hup ⊢
  split
  · exact Spent.setStatus rfl hf.used rfl
  rename_i hconnected
  rw [if_neg hconnected] at hup
  split
  · rename_i hwall
    rw [if_pos hwall] at hup
    unfold enterFalconKickWallStop at hup ⊢
    dsimp only at hup ⊢
    split
    · rename_i hfloor
      rw [if_pos hfloor] at hup
      exact absurd hup (by simp [enterWait, FalconFighter.setStatus])
    · exact Spent.enterFall hf.used
  rename_i hwall
  rw [if_neg hwall] at hup
  have hfree : ¬ f.grounded = true := by rw [hf.up]; exact Bool.false_ne_true
  rw [if_pos hfree] at hup ⊢
  unfold resolveAir at hup ⊢
  dsimp only at hup ⊢
  split
  · exact ⟨hf.air, rfl, hf.used⟩
  rename_i hstartup
  rw [if_neg hstartup] at hup
  split
  · rename_i hland
    rw [if_pos hland] at hup
    exact absurd hup (by rw [grounded_touchDown]; exact Bool.noConfusion)
  rename_i hland
  rw [if_neg hland] at hup
  split
  · exact ⟨hf.air, rfl, hf.used⟩
  · rename_i hrises
    rw [if_neg hrises] at hup
    exact ⟨hf.air, hup, hf.used⟩

/-! ## The budget -/

/-- An aerial jump is asked for only while the counter shows one: a fighter that left the ground
without a jump has none to show. -/
def Paid (m : SourceMath) (f : FalconFighter) : Event → Prop
  | .tick grounded airCause i =>
    let g := beforeInterrupt m { f with grounded, hostAirCause := airCause } i
    asksAerialJump g i = true → g.jumpsUsed ≠ 0
  | .resolve _ => True

theorem play_append (m : SourceMath) (f : FalconFighter) (first second : List Event) :
    play m f (first ++ second) = play m (play m f first) second := List.foldl_append

theorem Spent.step {m : SourceMath} {f : FalconFighter} {e : Event} (hf : Spent f)
    (hlimited : e.unlimited = false) (hair : e.onGround = false)
    (hup : (e.step m f).grounded = false) : Spent (e.step m f) ∧ entersAerial m f e = false := by
  cases e with
  | tick grounded airCause i =>
    obtain rfl : grounded = false := hair
    obtain ⟨hspent, hstale⟩ := hf.cfTick m airCause hlimited
    exact ⟨hspent, decide_eq_false hstale⟩
  | resolve hit => exact ⟨hf.falconResolve hup, rfl⟩

/-- A spent fighter enters no aerial jump before it lands. -/
theorem Spent.entries {m : SourceMath} {events : List Event} :
    ∀ {f : FalconFighter}, Spent f → (∀ e ∈ events, e.unlimited = false) →
      aloft m f events = true → entries m f events = 0 := by
  induction events with
  | nil => intro _ _ _ _; rfl
  | cons e events ih =>
    intro f hf hlimited haloft
    unfold aloft at haloft
    simp only [Bool.and_eq_true, Bool.not_eq_true'] at haloft
    obtain ⟨⟨hair, hup⟩, hrest⟩ := haloft
    obtain ⟨hspent, hstale⟩ := hf.step (hlimited e (List.mem_cons_self ..)) hair hup
    unfold Falcon.entries
    rw [hstale, ih hspent (fun e' he' => hlimited e' (List.mem_cons_of_mem _ he')) hrest]
    rfl

/-- A paid aerial jump is the last. -/
theorem spent_of_enters {m : SourceMath} {f : FalconFighter} {e : Event}
    (henters : entersAerial m f e = true) (hpaid : Paid m f e) : Spent (e.step m f) := by
  cases e with
  | resolve hit => exact absurd henters Bool.false_ne_true
  | tick grounded airCause i =>
    have hsame := same_cfTick m f grounded airCause i
    obtain ⟨hasks, _, hentered⟩ := fresh_procInterrupt (not_fresh_beforeInterrupt m _ i)
      (hsame.fresh.1 (of_decide_eq_true henters))
    refine hsame.spent ?_
    rw [hentered]
    exact Spent.setStatus rfl (Nat.succ_le_succ (Nat.pos_of_ne_zero (hpaid hasks)))
      (by split <;> rfl)

/-- Of a spell all of whose events but the last are paid for, at most one event enters the aerial
jump. -/
theorem entries_le_one {m : SourceMath} {spell : List Event} :
    ∀ {f : FalconFighter} {leave : Event},
      (∀ e ∈ spell, e.unlimited = false) →
      (∀ before e next after, leave :: spell = before ++ e :: next :: after →
        Paid m (play m f before) e) →
      aloft m (leave.step m f) spell = true → entries m f (leave :: spell) ≤ 1 := by
  induction spell with
  | nil =>
    intro f leave _ _ _
    unfold entries entries
    split <;> simp
  | cons e spell ih =>
    intro f leave hlimited hpaid haloft
    have hrest : entries m (leave.step m f) (e :: spell) ≤ 1 := by
      refine ih (fun e' he' => hlimited e' (List.mem_cons_of_mem _ he'))
        (fun before e' next after h => ?_) ?_
      · exact hpaid (leave :: before) e' next after (by rw [h]; rfl)
      · unfold aloft at haloft
        simp only [Bool.and_eq_true] at haloft
        exact haloft.2
    unfold entries
    by_cases henters : entersAerial m f leave = true
    · have hspent := spent_of_enters henters (hpaid [] leave e spell rfl)
      rw [hspent.entries hlimited haloft, if_pos henters]
    · rw [if_neg henters]
      omega

/-- The player presses jump in the air with nothing else. -/
def pressJump : FalconInputRaw := ⟨0, 0, true, true, false, false, false⟩

theorem enters_of_asks {m : SourceMath} {f : FalconFighter} {grounded : Bool}
    {airCause : ForeignAirCause} {i : FalconInputRaw} {g : FalconFighter}
    (hg : g = beforeInterrupt m { f with grounded, hostAirCause := airCause } i)
    (hasks : asksAerialJump g i = true) (hroom : g.jumpsUsed < A_JUMPS_MAX) :
    Same (g.enterJumpAerial i) (cfTick m f grounded airCause i) := by
  have hsame := same_cfTick m f grounded airCause i
  rw [← hg] at hsame
  have hstate : checksAir g.state = true ∧ g.wantsJump i = true := by
    unfold asksAerialJump at hasks
    simp only [decide_eq_true_eq] at hasks
    exact ⟨hasks.1, hasks.2.2.2⟩
  rw [procInterrupt_of_checksAir i hstate.1, checkAir_of_asks hasks] at hsame
  unfold checkJumpAerial at hsame
  rw [if_neg (fun h => absurd h.2 (Nat.not_le_of_lt hroom)), if_pos hstate.2] at hsame
  exact hsame

theorem procUpdate_of_new (m : SourceMath) {f : FalconFighter} (i : FalconInputRaw)
    (hstate : jumpAerialState f.state = true) (hnew : f.animFrame = 1) : f.procUpdate m i = f := by
  have hrunning : f.whenEnded enterFall = f := by
    unfold whenEnded animEnded
    rw [hnew]
    rcases of_decide_eq_true hstate with h | h <;> rw [h] <;> rfl
  unfold procUpdate
  rcases of_decide_eq_true hstate with h | h <;> rw [h] <;> exact hrunning

/-- One press right after an aerial jump that left the counter at one enters it again. -/
theorem enters_again {m : SourceMath} {f : FalconFighter} (hstate : jumpAerialState f.state = true)
    (hup : f.grounded = false) (hnew : f.animFrame = 0) (hused : f.jumpsUsed = 1) :
    entersAerial m f (.tick false .none pressJump) = true ∧
      ((Event.tick false .none pressJump).step m f).grounded = false := by
  have hbefore := same_before f .none pressJump hup
  have hair : isAirState f.state = true := by
    rcases of_decide_eq_true hstate with h | h <;> rw [h] <;> rfl
  obtain ⟨g, hg⟩ : ∃ g, g = beforeInterrupt m { f with grounded := false, hostAirCause := .none }
    pressJump := ⟨_, rfl⟩
  have hadvance : g = (forceAir (updateTapBuffers
      { f with grounded := false, hostAirCause := .none } pressJump)).advance := by
    rw [hg]
    unfold beforeInterrupt
    rw [reconcile_of_air m pressJump ((congrArg isAirState hbefore.state).trans hair)
      (hbefore.grounded.trans hup)]
    refine procUpdate_of_new m pressJump ?_ ?_
    · exact (congrArg jumpAerialState hbefore.state).trans hstate
    · exact congrArg (· + 1) (hbefore.animFrame.trans hnew)
  have hgstate : g.state = f.state := by rw [hadvance]; exact hbefore.state
  have hgused : g.jumpsUsed = 1 := by rw [hadvance]; exact hbefore.jumpsUsed.trans hused
  have hasks : asksAerialJump g pressJump = true := by
    refine decide_eq_true ⟨?_, Bool.false_ne_true, Bool.false_ne_true, decide_eq_true (.inr rfl)⟩
    rw [hgstate]
    rcases of_decide_eq_true hstate with h | h <;> rw [h] <;> rfl
  have hsame := enters_of_asks hg hasks (by rw [hgused]; decide)
  refine ⟨decide_eq_true (hsame.fresh.2 ⟨?_, rfl⟩), hsame.grounded⟩
  unfold enterJumpAerial
  exact decide_eq_true (by split <;> simp [FalconFighter.setStatus])

/-- An aerial jump that is not paid for can be followed by a second one. -/
theorem twice_of_unpaid {m : SourceMath} {f : FalconFighter} {e : Event} (h : ¬ Paid m f e) :
    (e.step m f).grounded = false ∧
      aloft m (e.step m f) [.tick false .none pressJump] = true ∧
      entries m f [e, .tick false .none pressJump] = 2 := by
  cases e with
  | resolve hit => exact absurd trivial h
  | tick grounded airCause i =>
    obtain ⟨g, hg⟩ : ∃ g, g = beforeInterrupt m { f with grounded, hostAirCause := airCause } i :=
      ⟨_, rfl⟩
    unfold Paid at h
    dsimp only at h
    rw [← hg, Classical.not_imp, not_not] at h
    obtain ⟨hasks, hzero⟩ := h
    have hsame := enters_of_asks hg hasks (by rw [hzero]; decide)
    have hstate : jumpAerialState (cfTick m f grounded airCause i).state = true := by
      rw [hsame.state]
      unfold enterJumpAerial
      exact decide_eq_true (by split <;> simp [FalconFighter.setStatus])
    have hused : (cfTick m f grounded airCause i).jumpsUsed = 1 := by
      rw [hsame.jumpsUsed]
      exact congrArg (· + 1) hzero
    have hagain := enters_again (m := m) hstate hsame.grounded hsame.animFrame hused
    change entersAerial m (Event.step m f (.tick grounded airCause i)) _ = true ∧
      (Event.step m (Event.step m f (.tick grounded airCause i)) _).grounded = false at hagain
    have hfirst : entersAerial m f (.tick grounded airCause i) = true :=
      decide_eq_true ⟨hstate, hsame.stateFrame⟩
    refine ⟨hsame.grounded, ?_, ?_⟩
    · unfold aloft aloft
      rw [hagain.2]
      rfl
    · unfold entries entries entries
      rw [hfirst, hagain.1]
      rfl

theorem prefix_of_snoc {before : List Event} {e : Event} {first : List Event} {x y : Event}
    {rest : List Event} (h : before ++ [e] = first ++ x :: y :: rest) :
    ∃ after, before = first ++ x :: after := by
  obtain ⟨after, last, hlast⟩ : ∃ after last, y :: rest = after ++ [last] :=
    ⟨(y :: rest).dropLast, (y :: rest).getLast (List.cons_ne_nil _ _),
      (List.dropLast_append_getLast _).symm⟩
  rw [hlast, ← List.cons_append, ← List.append_assoc] at h
  exact ⟨after, (List.append_inj' h rfl).1⟩

/-- Without the unlimited option, no next event anywhere in a run makes a second aerial jump in one
stay in the air if and only if the run asks for no aerial jump with the counter at zero. -/
theorem aerial_once_iff (m : SourceMath) (f : FalconFighter) (events : List Event)
    (hlimited : ∀ e ∈ events, e.unlimited = false) :
    (∀ before after next, events = before ++ after → next.unlimited = false →
        AerialOnce m f (before ++ [next])) ↔
      ∀ before e after, events = before ++ e :: after → Paid m (play m f before) e := by
  constructor
  · intro honce before e after hevents
    by_contra hunpaid
    obtain ⟨hup, haloft, htwice⟩ := twice_of_unpaid hunpaid
    have h := honce (before ++ [e]) after (.tick false .none pressJump) (by rw [hevents]; simp) rfl
      before e [.tick false .none pressJump] [] (by simp) hup haloft
    rw [htwice] at h
    exact absurd h (by decide)
  · intro hpaid before after next hevents hnext b leave spell a hsplit _ haloft
    refine entries_le_one (fun e he => ?_) (fun b' e y a' hspell => ?_) haloft
    · have hmem : e ∈ before ++ [next] := by
        rw [hsplit]
        simp [he]
      rcases List.mem_append.1 hmem with h | h
      · exact hlimited e (by rw [hevents]; exact List.mem_append_left _ h)
      · rw [List.mem_singleton.1 h]
        exact hnext
    · have hwhole : before ++ [next] = (b ++ b') ++ e :: y :: (a' ++ a) := by
        rw [hsplit, ← List.cons_append, hspell]
        simp
      obtain ⟨t, ht⟩ := prefix_of_snoc hwhole
      rw [← play_append]
      exact hpaid (b ++ b') e (t ++ after) (by rw [hevents, ht]; simp)

/-- An owner's cache that is absent, and the square root of one. -/
def withoutCache : SourceMath := ⟨fun x => x, fun _ _ => none⟩

/-- A host that launches Falcon while jump is pressed: the aerial jump follows in the same tick, and
another press in the next makes no second one. -/
theorem aerial_once_host_launch :
    AerialOnce withoutCache .reset [.tick false .launched pressJump,
      .tick false .none pressJump] := by
  have hlimited : ∀ e ∈ [Event.tick false .launched pressJump], e.unlimited = false :=
    fun e he => by rw [List.mem_singleton.1 he]; rfl
  refine (aerial_once_iff withoutCache .reset [.tick false .launched pressJump] hlimited).2 ?_
    [.tick false .launched pressJump] [] (.tick false .none pressJump) rfl rfl
  intro before e after h
  cases before with
  | nil =>
    obtain ⟨rfl, -⟩ := List.cons.inj h
    intro _
    decide +kernel
  | cons x l => exact absurd (congrArg List.length h) (by simp)

/-- A contact with nothing. -/
def noContact : FalconCollision := ⟨0, 0, false, false, false, false, false, 0⟩

/-- The player touches nothing. -/
def noPress : FalconInputRaw := ⟨0, 0, false, false, false, false, false⟩

/-- Falcon walks off a ledge, and jumps twice in the air. -/
def walkOffAndJumpTwice : List Event :=
  [.tick true .none noPress, .resolve noContact, .tick false .none pressJump, .resolve noContact,
    .tick false .none noPress, .resolve noContact, .tick false .none pressJump]

theorem aerial_twice_after_ledge : (∀ e ∈ walkOffAndJumpTwice, e.unlimited = false) ∧
    ¬ AerialOnce withoutCache .reset walkOffAndJumpTwice := by
  refine ⟨by simp [walkOffAndJumpTwice, Event.unlimited, noPress, pressJump], fun h => ?_⟩
  have hspell := h [.tick true .none noPress] (.resolve noContact)
    [.tick false .none pressJump, .resolve noContact, .tick false .none noPress, .resolve noContact,
      .tick false .none pressJump] [] rfl (by decide +kernel) (by decide +kernel)
  exact absurd hspell (by decide +kernel)

end SmwRecomp.Falcon
