import SmwRecomp.Falcon.Locomotion
import SmwRecomp.Falcon.Sprites
import SmwRecomp.Lib.Run

/-!
# One consequence for a move and a slot

`src/overrides/falcon/falcon_smw_adapter.c`: where it updates the combat ledger and consults it,
with the fighter whose states and hit volumes it is given.

* `CombatEvent` — the ticks, the collisions and the seams, in any order and any number in a frame;
  what the guest's RAM holds at a seam is free.
* `ledgerCall`, `struck` — the update an event makes, and the slots whose native consequence it
  accepts.
* `Ends` — an update that ends a move.
* `Orderly` — the ledger, the last move and the fighter belong together.
* `consequences_of_moves` — between two consequences for one slot a move ends.
* `two_phases` — an aerial attack with two hit phases is two moves to the ledger.
-/

set_option autoImplicit false

namespace SmwRecomp.Falcon

open FalconState FalconFighter
open Foreign (ForeignAirCause)

/-! ## The adapter -/

/-- The attack that `cf_tick` reports. -/
def FalconAttack.hitbox (a : FalconAttack) : ForeignAttackHitbox :=
  { offsetX := a.offsetX
    offsetY := a.offsetY
    width := a.width
    height := a.height
    flags := (if a.breakBlocks then FOREIGN_ATTACK_BREAK_BLOCKS else 0) |||
      (if a.contactOnly then FOREIGN_ATTACK_CONTACT_ONLY else 0)
    active := a.active }

def noAttack : ForeignAttackHitbox := ⟨0, 0, 0, 0, 0, false⟩

/-- `s_combat_ledger`, the state and the attack of `s_last_move`, and the fighter. -/
structure Combat where
  fighter : FalconFighter
  move : FalconState
  attack : ForeignAttackHitbox
  ledger : CombatLedger

/-- Before the first tick; the updates while no mod is active have cleared the ledger. -/
def Combat.start (fighter : FalconFighter) : Combat := ⟨fighter, wait, noAttack, .cleared⟩

inductive CombatEvent where
  /-- `SmwFalconBeforePhysics` with a tick of the controller. -/
  | tick (grounded : Bool) (airCause : ForeignAirCause) (input : FalconInputRaw)
  /-- The same where the controller refuses the tick. -/
  | stall
  /-- The same without an active or playable mod. -/
  | drop
  /-- A save state was loaded, and the fighter with it. -/
  | load (fighter : FalconFighter)
  /-- `smw_falcon_apply_combat_once` past its gate. -/
  | strike (ram : Coop.Ram) (answers : Nat → UInt8)
  /-- `SmwFalconOnPlayerBlockCode` past its gate. -/
  | blockCode (ram : Coop.Ram) (answers : Nat → UInt8)
  /-- `snes_foreign_resolve`. -/
  | resolve (hit : FalconCollision)
  /-- The end of a Kick that landed without its collision callback. -/
  | landed
  /-- The end of `SmwFalconBeforeNormalSprites` after a catch. -/
  | caught

/-- `smw_falcon_apply_combat_once`. -/
def applyCombatOnce (fl : ℚ → ℚ) (native : NativeRoutines) (s : Combat) (ram : Coop.Ram)
    (answers : Nat → UInt8) : CombatLedger × List Nat :=
  let isDiveThrowRelease := s.fighter.state = falconDiveThrow ∧ s.fighter.stateFrame = 0
  if ¬ s.attack.active ∧ ¬ isDiveThrowRelease then (s.ledger, [])
  else if isDiveThrowRelease then releaseDive ram s.ledger
  else combatApply fl native ram answers s.attack s.fighter.lr s.ledger

/-- The state of the last move is replaced, without an attack. -/
def Combat.settle (s : Combat) (move : FalconState) : Combat :=
  { s with move, attack := noAttack, ledger := ledgerUpdate s.ledger (.is move) false }

def combatStep (fl : ℚ → ℚ) (m : SourceMath) (native : NativeRoutines) (s : Combat) :
    CombatEvent → Combat
  | .tick grounded airCause input =>
    let fighter := cfTick m s.fighter grounded airCause input
    let attack := (emitAttack fighter.state fighter.stateFrame).hitbox
    ⟨fighter, fighter.state, attack, ledgerUpdate s.ledger (.is fighter.state) attack.active⟩
  | .stall => { s with move := wait, attack := noAttack }
  | .drop => { s with ledger := ledgerUpdate s.ledger (.is wait) false }
  | .load fighter => ⟨fighter, wait, noAttack, ledgerUpdate s.ledger (.is wait) false⟩
  | .strike ram answers => { s with ledger := (applyCombatOnce fl native s ram answers).1 }
  | .blockCode ram answers =>
      { s with ledger := applyBlocks fl ram answers s.attack s.fighter.lr s.ledger }
  | .resolve hit => { s with fighter := falconResolve s.fighter hit }
  | .landed => if s.fighter.state = wait then s.settle wait else s
  | .caught => if s.fighter.state = falconDiveCatch then s.settle falconDiveCatch else s

/-! ## Consequences and moves -/

/-- The slots whose native consequence an event accepts. -/
def struck (fl : ℚ → ℚ) (native : NativeRoutines) (s : Combat) : CombatEvent → List Nat
  | .strike ram answers => (applyCombatOnce fl native s ram answers).2
  | _ => []

/-- The move an event updates the ledger for, and whether it has an active attack. -/
def ledgerCall (m : SourceMath) (s : Combat) : CombatEvent → Option (FalconState × Bool)
  | .tick grounded airCause input =>
    let fighter := cfTick m s.fighter grounded airCause input
    some (fighter.state, (emitAttack fighter.state fighter.stateFrame).active)
  | .drop | .load _ => some (wait, false)
  | .landed => if s.fighter.state = wait then some (wait, false) else none
  | .caught => if s.fighter.state = falconDiveCatch then some (falconDiveCatch, false) else none
  | _ => none

def diving (moveState : CEnum FalconState) : Bool :=
  moveState = .is falconDiveGround ∨ moveState = .is falconDiveAir

/-- The update is for another move with an active attack, or for none; the Catch and Throw of a Dive
go on with it. -/
def Ends (move : CEnum FalconState) (call : FalconState × Bool) : Prop :=
  if call.2 then carriedPunch (.is call.1) ≠ move
  else ¬ (capturing (.is call.1) = true ∧ (diving move = true ∨ capturing move = true))

/-! ## Hit volumes -/

theorem capturing_carried (state : FalconState) :
    capturing (carriedPunch (.is state)) = capturing (.is state) := by
  cases state <;> rfl

theorem diving_carried (state : FalconState) :
    diving (carriedPunch (.is state)) = diving (.is state) := by
  cases state <;> rfl

theorem setAttack_contactOnly (t first last : Nat) (x y w h : ℚ) (damage : Int) (kx ky : ℚ)
    (breakBlocks : Bool) :
    (setAttack t first last x y w h damage kx ky breakBlocks).contactOnly = false := by
  unfold setAttack
  split <;> rfl

/-- The volume of a Dive, and no other, only catches; a Catch or Throw has none. -/
theorem emitAttack_spec (state : FalconState) (t : Nat) (h : (emitAttack state t).active = true) :
    (emitAttack state t).contactOnly = diving (.is state) ∧ capturing (.is state) = false := by
  cases state
  case falconDiveGround | falconDiveAir => exact ⟨h, rfl⟩
  case jab | ftilt | attackAirN | attackAirB | attackAirLw | falconPunchGround | falconPunchAir
    | falconKickGround
      | falconKickAir | falconKickLanding => exact ⟨setAttack_contactOnly .., rfl⟩
  case attackAirF =>
    refine ⟨?_, rfl⟩
    unfold emitAttack
    dsimp only
    split
    · exact setAttack_contactOnly ..
    · exact setAttack_contactOnly ..
  all_goals exact absurd h Bool.false_ne_true

theorem hitbox_contact (a : FalconAttack) : a.hitbox.flags &&& FOREIGN_ATTACK_CONTACT_ONLY ≠ 0 ↔
    a.contactOnly = true := by
  have hflags : ∀ breakBlocks contactOnly : Bool,
      ((if breakBlocks then FOREIGN_ATTACK_BREAK_BLOCKS else 0) |||
        (if contactOnly then FOREIGN_ATTACK_CONTACT_ONLY else 0)) &&&
        FOREIGN_ATTACK_CONTACT_ONLY ≠ 0 ↔ contactOnly = true := by decide
  exact hflags a.breakBlocks a.contactOnly

/-! ## The fighter under collisions -/

theorem enterFall_state (f : FalconFighter) : f.enterFall.state ≠ falconDiveThrow := by
  change (if A_JUMPS_MAX ≤ f.jumpsUsed then fallAerial else fall) ≠ falconDiveThrow
  split <;> decide

theorem enterLanding_state (f : FalconFighter) : f.enterLanding.state ≠ falconDiveThrow := by
  change (if f.isFastfall ∧ f.velAirY ≤ -A_TVEL_FAST then landingHeavy else landingLight) ≠
    falconDiveThrow
  split <;> decide

theorem touchDown_state {f : FalconFighter} (h : f.state ≠ falconDiveThrow) :
    (touchDown f).state ≠ falconDiveThrow := by
  unfold touchDown
  split
  · exact h
  · split
    · exact (by decide : falconPunchGround ≠ falconDiveThrow)
    · split
      · exact (by decide : wait ≠ falconDiveThrow)
      · split
        · exact (by decide : falconDiveLanding ≠ falconDiveThrow)
        · exact enterLanding_state f

theorem resolveAir_state {f : FalconFighter} (hit : FalconCollision)
    (h : f.state ≠ falconDiveThrow) :
    (resolveAir f hit).state ≠ falconDiveThrow := by
  have hcontact : (airContact f hit).state ≠ falconDiveThrow := h
  unfold resolveAir
  dsimp only
  split
  · exact hcontact
  · split
    · exact touchDown_state hcontact
    · split
      · exact hcontact
      · exact hcontact

theorem resolveGround_state {f : FalconFighter} (hit : FalconCollision)
    (h : f.state ≠ falconDiveThrow) :
    (resolveGround f hit).state ≠ falconDiveThrow := by
  unfold resolveGround
  dsimp only
  split
  · unfold walkOff
    dsimp only
    split
    · unfold kickLosesFloor
      dsimp only
      split
      · exact (by decide : falconKickGroundAir ≠ falconDiveThrow)
      · exact h
    · exact enterFall_state _
  · exact h

/-- Only a tick enters the Throw. -/
theorem falconResolve_state {f : FalconFighter} (hit : FalconCollision)
    (h : f.state ≠ falconDiveThrow) :
    (falconResolve f hit).state ≠ falconDiveThrow := by
  have hmoved : (moved f hit).state ≠ falconDiveThrow := h
  unfold falconResolve
  dsimp only
  split
  · exact (by decide : falconDiveCatch ≠ falconDiveThrow)
  · split
    · unfold enterFalconKickWallStop
      dsimp only
      split
      · exact (by decide : wait ≠ falconDiveThrow)
      · exact enterFall_state _
    · split
      · exact resolveAir_state hit hmoved
      · exact resolveGround_state hit hmoved

/-! ## Order -/

/-- A captured slot and a Dive keep the masks empty, and no Throw begins during a Dive. -/
structure LedgerOrder (ledger : CombatLedger) (state : FalconState) : Prop where
  latched : 0 ≤ ledger.diveLatchedSlot → ledger.active = true ∧ ledger.hitSlots = 0 ∧
    (diving ledger.moveState = true ∨ capturing ledger.moveState = true)
  dive : ledger.active = true → diving ledger.moveState = true → ledger.hitSlots = 0 ∧
    state ≠ falconDiveThrow

/-- The ledger, the last move and the fighter belong together. -/
structure Orderly (s : Combat) : Prop extends LedgerOrder s.ledger s.fighter.state where
  move : s.ledger.active = true → s.attack.active = true →
    s.ledger.moveState = carriedPunch (.is s.move)
  contact : s.attack.active = true →
    (s.attack.flags &&& FOREIGN_ATTACK_CONTACT_ONLY ≠ 0 ↔ diving (.is s.move) = true)
  attacking : s.attack.active = true → capturing (.is s.move) = false

theorem LedgerOrder.cleared (state : FalconState) : LedgerOrder .cleared state :=
  ⟨fun h => absurd h (by decide), fun h => absurd h Bool.false_ne_true⟩

/-- An update keeps the order, when its state is the fighter's or there is no active attack. -/
theorem LedgerOrder.update {ledger : CombatLedger} {state move state' : FalconState}
    {attackActive : Bool}
    (h : LedgerOrder ledger state) (hmove : attackActive = true → state' = move) :
    LedgerOrder (ledgerUpdate ledger (.is move) attackActive) state' := by
  have hdiving : ∀ {moveState : CEnum FalconState}, moveState = carriedPunch (.is move) →
    diving moveState = true →
      attackActive = true → state' ≠ falconDiveThrow := by
    rintro moveState rfl hdive hactive rfl
    rw [diving_carried, ← hmove hactive] at hdive
    exact absurd hdive (by decide)
  rcases ledgerUpdate_cases ledger (.is move) attackActive with
    ⟨-, hlatched, hcapture, hledger⟩ | ⟨-, hledger⟩ | ⟨hactive, -, hledger⟩
      | ⟨hactive, hledgerActive, hsame, hledger⟩
  · rw [hledger]
    have hnone : diving (carriedPunch (.is move)) = true → False := by
      rw [capturing_carried] at hcapture
      rw [diving_carried]
      cases move <;> first | exact absurd hcapture (by decide) | decide
    exact ⟨fun _ => ⟨rfl, (h.latched hlatched).2.1, .inr hcapture⟩,
      fun _ hdive => absurd hdive hnone⟩
  · rw [hledger]
    exact .cleared state'
  · rw [hledger]
    exact ⟨fun hlatched => absurd hlatched (by decide : ¬ (0 : Int) ≤ -1),
      fun _ hdive => ⟨rfl, hdiving rfl hdive hactive⟩⟩
  · rw [hledger]
    exact ⟨h.latched, fun hled hdive => ⟨(h.dive hled hdive).1, hdiving hsame hdive hactive⟩⟩

/-- Without an active attack nothing is asked of the last move. -/
theorem Orderly.of_idle {s : Combat} (h : LedgerOrder s.ledger s.fighter.state)
    (hidle : s.attack.active = false) : Orderly s :=
  ⟨h, fun _ hactive => absurd (hidle.symm.trans hactive) Bool.false_ne_true,
    fun hactive => absurd (hidle.symm.trans hactive) Bool.false_ne_true,
    fun hactive => absurd (hidle.symm.trans hactive) Bool.false_ne_true⟩

/-- A part of an event that leaves the last move, and the ledger its move, keeps the rest of the
order. -/
theorem Orderly.of_ledger {s s' : Combat} (h : Orderly s)
    (hledger : LedgerOrder s'.ledger s'.fighter.state)
    (hmove : s'.move = s.move) (hattack : s'.attack = s.attack)
    (hsame : s'.ledger.active = true → s.ledger.active = true ∧
      s'.ledger.moveState = s.ledger.moveState) : Orderly s' := by
  refine ⟨hledger, fun hled hactive => ?_, fun hactive => ?_, fun hactive => ?_⟩
  · rw [hattack] at hactive
    obtain ⟨hled, hstate⟩ := hsame hled
    rw [hstate, hmove]
    exact h.move hled hactive
  · rw [hattack] at hactive ⊢
    rw [hmove]
    exact h.contact hactive
  · rw [hattack] at hactive
    rw [hmove]
    exact h.attacking hactive

variable {fl : ℚ → ℚ}

/-- A seam consults the ledger: its move and activity stay. -/
theorem applyCombatOnce_cases (native : NativeRoutines) (s : Combat) (ram : Coop.Ram)
    (answers : Nat → UInt8) :
    applyCombatOnce fl native s ram answers = (s.ledger, []) ∨
      (s.fighter.state = falconDiveThrow ∧ 0 ≤ s.ledger.diveLatchedSlot ∧
        (applyCombatOnce fl native s ram answers).1.diveLatchedSlot = -1 ∧
        (applyCombatOnce fl native s ram answers).1.active = s.ledger.active ∧
        (applyCombatOnce fl native s ram answers).1.moveState = s.ledger.moveState ∧
        (applyCombatOnce fl native s ram answers).2.Nodup) ∨
      (s.attack.active = true ∧ s.ledger.active = true ∧
        ((s.attack.flags &&& FOREIGN_ATTACK_CONTACT_ONLY ≠ 0 ∧
          (applyCombatOnce fl native s ram answers).2 = [] ∧
            (applyCombatOnce fl native s ram answers).1.active = s.ledger.active ∧
            (applyCombatOnce fl native s ram answers).1.moveState = s.ledger.moveState ∧
            (applyCombatOnce fl native s ram answers).1.hitSlots = s.ledger.hitSlots) ∨
          (s.attack.flags &&& FOREIGN_ATTACK_CONTACT_ONLY = 0 ∧
            Struck s.ledger (applyCombatOnce fl native s ram answers).1
              (applyCombatOnce fl native s ram answers).2))) := by
  unfold applyCombatOnce
  dsimp only
  split
  · exact .inl rfl
  · split
    case isTrue hrelease =>
      exact (releaseDive_cases ram s.ledger).imp_right fun h => .inl ⟨hrelease.1, h⟩
    case isFalse =>
      exact (combatApply_cases fl native ram answers s.attack s.fighter.lr s.ledger).imp_right .inr

theorem Orderly.strike {s : Combat} (h : Orderly s) (native : NativeRoutines) (ram : Coop.Ram)
    (answers : Nat → UInt8) :
    Orderly { s with ledger := (applyCombatOnce fl native s ram answers).1 } := by
  rcases applyCombatOnce_cases native s ram answers with
    hnone | ⟨hthrow, -, hreleased, hactive, hmove, -⟩
      | ⟨hattack, hledger, ⟨hcontact, -, hactive, hmove, hslots⟩ | ⟨hplain, hstruck⟩⟩
  · rw [hnone]
    exact h
  · -- a Throw's release: the ledger was in no Dive
    refine h.of_ledger ⟨fun hlatched => ?_, fun hled hdive => ?_⟩ rfl rfl fun hled =>
      ⟨hactive ▸ hled, hmove⟩
    · rw [hreleased] at hlatched
      exact absurd hlatched (by decide)
    · rw [hmove] at hdive
      exact absurd hthrow (h.dive (hactive ▸ hled) hdive).2
  · -- a volume that only catches is a Dive's
    have hdive : diving s.ledger.moveState = true := by
      rw [h.move hledger hattack, diving_carried]
      exact (h.contact hattack).1 hcontact
    refine h.of_ledger
      ⟨fun _ => ⟨hactive.trans hledger, hslots.trans (h.dive hledger hdive).1,
      .inl (hmove ▸ hdive)⟩,
      fun _ _ => ⟨hslots.trans (h.dive hledger hdive).1, (h.dive hledger hdive).2⟩⟩ rfl rfl
      fun hled => ⟨hactive ▸ hled, hmove⟩
  · -- any other is not
    have hnodive : ¬ diving s.ledger.moveState = true := by
      rw [h.move hledger hattack, diving_carried]
      exact fun hdive => (h.contact hattack).2 hdive hplain
    have hnocapture : ¬ capturing s.ledger.moveState = true := by
      rw [h.move hledger hattack, capturing_carried, h.attacking hattack]
      exact Bool.false_ne_true
    refine h.of_ledger ⟨fun hlatched => ?_, fun _ hdive => ?_⟩ rfl rfl fun hled =>
      ⟨hstruck.active ▸ hled, hstruck.moveState⟩
    · rw [hstruck.latched] at hlatched
      exact (h.latched hlatched).2.2.elim (fun hdive => absurd hdive hnodive) fun hcapture =>
        absurd hcapture hnocapture
    · rw [hstruck.moveState] at hdive
      exact absurd hdive hnodive

/-- The block route accepts nothing. -/
theorem Orderly.blocks {s : Combat} {ledger : CombatLedger} (h : Orderly s)
    (hstruck : Struck s.ledger ledger []) :
    Orderly { s with ledger } := by
  refine h.of_ledger ⟨fun hlatched => ?_, fun hled hdive => ?_⟩ rfl rfl fun hled =>
    ⟨hstruck.active ▸ hled, hstruck.moveState⟩
  · rw [hstruck.latched] at hlatched
    rw [hstruck.active, hstruck.idle rfl, hstruck.moveState]
    exact h.latched hlatched
  · rw [hstruck.active] at hled
    rw [hstruck.moveState] at hdive
    rw [hstruck.idle rfl]
    exact h.dive hled hdive

/-- A state without an attack. -/
theorem Orderly.settle {s : Combat} (h : Orderly s) (move : FalconState) :
    Orderly (s.settle move) :=
  .of_idle (h.toLedgerOrder.update fun hactive => absurd hactive Bool.false_ne_true) rfl

theorem ledgerUpdate_wait (ledger : CombatLedger) :
    ledgerUpdate ledger (.is wait) false = .cleared := by
  rcases ledgerUpdate_cases ledger (.is wait) false with
    ⟨-, -, hcapture, -⟩ | ⟨-, hledger⟩ | ⟨hactive, -⟩ | ⟨hactive, -⟩
  · exact absurd hcapture (by decide)
  · exact hledger
  · exact absurd hactive Bool.false_ne_true
  · exact absurd hactive Bool.false_ne_true

/-- A cleared ledger asks nothing of the rest. -/
theorem Orderly.of_cleared {s : Combat} (h : Orderly s) :
    Orderly { s with ledger := ledgerUpdate s.ledger (.is wait) false } := by
  rw [ledgerUpdate_wait]
  exact h.of_ledger (.cleared _) rfl rfl fun hled => absurd hled Bool.false_ne_true

theorem Orderly.tick {s : Combat} (h : Orderly s) (m : SourceMath) (native : NativeRoutines)
    (grounded : Bool)
    (airCause : ForeignAirCause) (input : FalconInputRaw) :
    Orderly (combatStep fl m native s (.tick grounded airCause input)) := by
  unfold combatStep
  dsimp only
  generalize cfTick m s.fighter grounded airCause input = fighter
  have hspec := emitAttack_spec fighter.state fighter.stateFrame
  refine ⟨h.toLedgerOrder.update fun _ => rfl, fun _ hactive => ?_, fun hactive => ?_,
    fun hactive => (hspec hactive).2⟩
  · rcases ledgerUpdate_cases s.ledger (.is fighter.state)
      (emitAttack fighter.state fighter.stateFrame).hitbox.active with
      ⟨hidle, -⟩ | ⟨hidle, -⟩ | ⟨-, -, hledger⟩ | ⟨-, -, hsame, hledger⟩
    · exact absurd (hidle.symm.trans hactive) Bool.false_ne_true
    · exact absurd (hidle.symm.trans hactive) Bool.false_ne_true
    · exact congrArg CombatLedger.moveState hledger
    · exact (congrArg CombatLedger.moveState hledger).trans hsame
  · rw [hitbox_contact, (hspec hactive).1]

theorem Orderly.step {s : Combat} (h : Orderly s) (m : SourceMath) (native : NativeRoutines)
    (e : CombatEvent) :
    Orderly (combatStep fl m native s e) := by
  cases e with
  | tick grounded airCause input => exact h.tick m native grounded airCause input
  | stall => exact .of_idle h.toLedgerOrder rfl
  | drop => exact h.of_cleared
  | load fighter =>
      refine .of_idle ?_ rfl
      change LedgerOrder (ledgerUpdate s.ledger (.is wait) false) fighter.state
      rw [ledgerUpdate_wait]
      exact .cleared _
  | strike ram answers => exact h.strike native ram answers
  | blockCode ram answers =>
      exact h.blocks ((Struck.refl s.ledger).applyBlocks fl ram answers s.attack s.fighter.lr)
  | resolve hit =>
      exact h.of_ledger
        ⟨h.latched, fun hled hdive =>
        ⟨(h.dive hled hdive).1, falconResolve_state hit (h.dive hled hdive).2⟩⟩
        rfl rfl fun hled => ⟨hled, rfl⟩
  | landed =>
      unfold combatStep
      dsimp only
      split
      · exact h.settle wait
      · exact h
  | caught =>
      unfold combatStep
      dsimp only
      split
      · exact h.settle falconDiveCatch
      · exact h

theorem Orderly.start (fighter : FalconFighter) : Orderly (.start fighter) :=
  .of_idle (.cleared _) rfl

/-! ## Between two consequences -/

/-- What an accepted consequence leaves until its move ends: the slot is marked, or the capture is
spent. -/
def Holds (move : CEnum FalconState) (slot : Nat) (ledger : CombatLedger) : Prop :=
  (diving move = false ∧ capturing move = false ∧ ledger.active = true ∧ ledger.moveState = move ∧
    ledger.hit slot = true) ∨
    (capturing move = true ∧ ledger.diveLatchedSlot < 0 ∧
      (ledger.active = true → capturing ledger.moveState = true))

/-- A strike that is no capture is of a move that has none. -/
theorem Orderly.plain {s : Combat} (h : Orderly s) (hattack : s.attack.active = true)
    (hledger : s.ledger.active = true)
    (hplain : s.attack.flags &&& FOREIGN_ATTACK_CONTACT_ONLY = 0) :
    diving s.ledger.moveState = false ∧ capturing s.ledger.moveState = false := by
  rw [h.move hledger hattack, diving_carried, capturing_carried]
  refine ⟨?_, h.attacking hattack⟩
  rw [← Bool.not_eq_true]
  exact fun hdive => (h.contact hattack).2 hdive hplain

theorem struck_cases {native : NativeRoutines} {s : Combat} {e : CombatEvent} {slot : Nat}
    (h : slot ∈ struck fl native s e) :
    ∃ ram answers, e = .strike ram answers ∧
    slot ∈ (applyCombatOnce fl native s ram answers).2 := by
  cases e with
  | strike ram answers => exact ⟨ram, answers, rfl, h⟩
  | _ => exact absurd h List.not_mem_nil

theorem holds_of_struck {m : SourceMath} {native : NativeRoutines} {s : Combat} {e : CombatEvent}
    {slot : Nat} (h : Orderly s)
    (hslot : slot ∈ struck fl native s e) :
    Holds s.ledger.moveState slot (combatStep fl m native s e).ledger := by
  obtain ⟨ram, answers, rfl, hmem⟩ := struck_cases hslot
  change Holds s.ledger.moveState slot (applyCombatOnce fl native s ram answers).1
  rcases applyCombatOnce_cases native s ram answers with
    hnone | ⟨hthrow, hlatched, hreleased, hactive, hmove, -⟩
      | ⟨hattack, hledger, ⟨-, hnone, -⟩ | ⟨hplain, hstruck⟩⟩
  · rw [hnone] at hmem
    exact absurd hmem List.not_mem_nil
  · -- released: the move is a Catch or a Throw, for a Dive is no Throw
    obtain ⟨hled, -, hmoves⟩ := h.latched hlatched
    have hcapture : capturing s.ledger.moveState = true := hmoves.resolve_left fun hdive =>
      (h.dive hled hdive).2 hthrow
    refine .inr ⟨hcapture, ?_, fun _ => hmove ▸ hcapture⟩
    rw [hreleased]
    decide
  · rw [hnone] at hmem
    exact absurd hmem List.not_mem_nil
  · obtain ⟨hdive, hcapture⟩ := h.plain hattack hledger hplain
    exact .inl ⟨hdive, hcapture, hstruck.active.trans hledger, hstruck.moveState,
      (hstruck.fresh slot hmem).2⟩

/-- While it holds, the slot accepts nothing. -/
theorem Holds.not_struck {native : NativeRoutines} {s : Combat} {e : CombatEvent}
    {move : CEnum FalconState} {slot : Nat}
    (h : Orderly s) (hholds : Holds move slot s.ledger) : slot ∉ struck fl native s e := by
  intro hslot
  obtain ⟨ram, answers, rfl, hmem⟩ := struck_cases hslot
  rcases applyCombatOnce_cases native s ram answers with
    hnone | ⟨-, hlatched, -⟩ | ⟨hattack, hledger, ⟨-, hnone, -⟩ | ⟨hplain, hstruck⟩⟩
  · rw [hnone] at hmem
    exact absurd hmem List.not_mem_nil
  · obtain ⟨-, -, hmoves⟩ := h.latched hlatched
    rcases hholds with ⟨hdive, hcapture, -, hmove, -⟩ | ⟨-, hspent, -⟩
    · rw [hmove, hdive, hcapture] at hmoves
      exact hmoves.elim Bool.false_ne_true Bool.false_ne_true
    · omega
  · rw [hnone] at hmem
    exact absurd hmem List.not_mem_nil
  · rcases hholds with ⟨-, -, -, -, hhit⟩ | ⟨-, -, hcapture⟩
    · exact absurd ((hstruck.fresh slot hmem).1.symm.trans hhit) Bool.false_ne_true
    · exact absurd ((h.plain hattack hledger hplain).2.symm.trans (hcapture hledger))
        Bool.false_ne_true

theorem hit_congr {ledger ledger' : CombatLedger} (h : ledger'.hitSlots = ledger.hitSlots)
    (slot : Nat) :
    ledger'.hit slot = ledger.hit slot := by
  unfold CombatLedger.hit
  rw [h]

theorem Holds.update {ledger : CombatLedger} {move : CEnum FalconState} {slot : Nat}
    {call : FalconState × Bool}
    (h : Holds move slot ledger) (hgoes : ¬ Ends move call)
    (hvolume : call.2 = true → capturing (.is call.1) = false) :
    Holds move slot (ledgerUpdate ledger (.is call.1) call.2) := by
  obtain ⟨state, attackActive⟩ := call
  unfold Ends at hgoes
  dsimp only at hgoes hvolume ⊢
  cases attackActive with
  | true =>
      rw [if_pos rfl, ne_eq, not_not] at hgoes
      rcases h with ⟨hdive, hcapture, hactive, hmove, hhit⟩ | ⟨hcapture, -⟩
      · have hkept : ledgerUpdate ledger (.is state) true = ledger := by
          rcases ledgerUpdate_cases ledger (.is state) true with ⟨hidle, -⟩ | ⟨hidle, -⟩
            | ⟨-, hother, -⟩ | ⟨-, -, -, hledger⟩
          · cases hidle
          · cases hidle
          · exact absurd (hmove.trans hgoes.symm) (hother hactive)
          · exact hledger
        rw [hkept]
        exact .inl ⟨hdive, hcapture, hactive, hmove, hhit⟩
      · rw [← hgoes, capturing_carried, hvolume rfl] at hcapture
        cases hcapture
  | false =>
      rw [if_neg Bool.false_ne_true, not_not] at hgoes
      rcases h with ⟨hdive, hcapture, -⟩ | ⟨hcapture, hspent, -⟩
      · rw [hdive, hcapture] at hgoes
        exact absurd hgoes.2 (by decide)
      · rcases ledgerUpdate_cases ledger (.is state) false with ⟨-, hlatched, -⟩ | ⟨-, hledger⟩
          | ⟨hactive, -⟩ | ⟨hactive, -⟩
        · omega
        · rw [hledger]
          exact .inr ⟨hcapture, by decide, fun hactive => absurd hactive Bool.false_ne_true⟩
        · cases hactive
        · cases hactive

theorem Holds.strike {native : NativeRoutines} {s : Combat} {move : CEnum FalconState} {slot : Nat}
    (h : Orderly s)
    (hholds : Holds move slot s.ledger) (ram : Coop.Ram) (answers : Nat → UInt8) :
    Holds move slot (applyCombatOnce fl native s ram answers).1 := by
  rcases applyCombatOnce_cases native s ram answers with
    hnone | ⟨-, hlatched, -⟩
      | ⟨hattack, hledger, ⟨-, -, hactive, hmoveState, hslots⟩ | ⟨hplain, hstruck⟩⟩
  · rw [hnone]
    exact hholds
  · obtain ⟨-, -, hmoves⟩ := h.latched hlatched
    rcases hholds with ⟨hdive, hcapture, -, hmove, -⟩ | ⟨-, hspent, -⟩
    · rw [hmove, hdive, hcapture] at hmoves
      exact absurd hmoves (by decide)
    · omega
  · rcases hholds with ⟨hdive, hcapture, -, hmove, hhit⟩ | ⟨-, -, hcapture⟩
    · exact .inl ⟨hdive, hcapture, hactive.trans hledger, hmoveState.trans hmove,
        (hit_congr hslots slot).trans hhit⟩
    · -- an active attack is of no Catch or Throw
      have hmove := hcapture hledger
      rw [h.move hledger hattack, capturing_carried, h.attacking hattack] at hmove
      cases hmove
  · rcases hholds with ⟨hdive, hcapture, -, hmove, hhit⟩ | ⟨-, -, hcapture⟩
    · exact .inl ⟨hdive, hcapture, hstruck.active.trans hledger, hstruck.moveState.trans hmove,
        hstruck.kept slot hhit⟩
    · exact absurd ((h.plain hattack hledger hplain).2.symm.trans (hcapture hledger))
        Bool.false_ne_true

/-- An event that calls for an update makes it, with an active attack only for a state that has a
volume. -/
theorem ledger_called {m : SourceMath} (native : NativeRoutines) {s : Combat} {e : CombatEvent}
    {call : FalconState × Bool}
    (h : ledgerCall m s e = some call) :
    (combatStep fl m native s e).ledger = ledgerUpdate s.ledger (.is call.1) call.2 ∧
      (call.2 = true → capturing (.is call.1) = false) := by
  cases e with
  | tick grounded airCause input =>
      cases h
      exact ⟨rfl, fun hactive => (emitAttack_spec _ _ hactive).2⟩
  | drop =>
      cases h
      exact ⟨rfl, fun hactive => absurd hactive Bool.false_ne_true⟩
  | load fighter =>
      cases h
      exact ⟨rfl, fun hactive => absurd hactive Bool.false_ne_true⟩
  | landed =>
      unfold ledgerCall at h
      unfold combatStep
      dsimp only at h ⊢
      split at h
      · cases h
        rw [if_pos (by assumption)]
        exact ⟨rfl, fun hactive => absurd hactive Bool.false_ne_true⟩
      · cases h
  | caught =>
      unfold ledgerCall at h
      unfold combatStep
      dsimp only at h ⊢
      split at h
      · cases h
        rw [if_pos (by assumption)]
        exact ⟨rfl, fun hactive => absurd hactive Bool.false_ne_true⟩
      · cases h
  | stall => cases h
  | strike ram answers => cases h
  | blockCode ram answers => cases h
  | resolve hit => cases h

theorem Holds.step {m : SourceMath} {native : NativeRoutines} {s : Combat} {e : CombatEvent}
    {move : CEnum FalconState}
    {slot : Nat} (h : Orderly s) (hholds : Holds move slot s.ledger)
    (hgoes : ∀ call, ledgerCall m s e = some call → ¬ Ends move call) :
    Holds move slot (combatStep fl m native s e).ledger := by
  cases hcall : ledgerCall m s e with
  | some call =>
      obtain ⟨hledger, hvolume⟩ := ledger_called native hcall
      rw [hledger]
      exact hholds.update (hgoes call hcall) hvolume
  | none =>
      cases e with
      | tick grounded airCause input => cases hcall
      | drop => cases hcall
      | load fighter => cases hcall
      | stall => exact hholds
      | resolve hit => exact hholds
      | strike ram answers => exact hholds.strike h ram answers
      | blockCode ram answers =>
          have hstruck := (Struck.refl s.ledger).applyBlocks fl ram answers s.attack s.fighter.lr
          rcases hholds with ⟨hdive, hcapture, hactive, hmove, hhit⟩ | ⟨hcapture, hspent, hmoves⟩
          · exact .inl ⟨hdive, hcapture, hstruck.active.trans hactive,
              hstruck.moveState.trans hmove, hstruck.kept slot hhit⟩
          · refine .inr ⟨hcapture, hstruck.latched.symm ▸ hspent, fun hactive => ?_⟩
            exact hstruck.moveState.symm ▸ hmoves (hstruck.active ▸ hactive)
      | landed =>
          unfold ledgerCall at hcall
          unfold combatStep
          dsimp only at hcall ⊢
          split at hcall
          · cases hcall
          · rw [if_neg (by assumption)]
            exact hholds
      | caught =>
          unfold ledgerCall at hcall
          unfold combatStep
          dsimp only at hcall ⊢
          split at hcall
          · cases hcall
          · rw [if_neg (by assumption)]
            exact hholds

theorem holds_run {m : SourceMath} {native : NativeRoutines} {s t : Combat}
    {steps : List (Combat × CombatEvent × Combat)}
    {move : CEnum FalconState} {slot : Nat}
    (h : Run (fun s e s' => combatStep fl m native s e = s') s steps t) (hs : Orderly s)
    (hholds : Holds move slot s.ledger)
    (hgoes : ∀ z ∈ steps, ∀ call, ledgerCall m z.1 z.2.1 = some call → ¬ Ends move call) :
    Orderly t ∧ Holds move slot t.ledger := by
  induction h with
  | nil => exact ⟨hs, hholds⟩
  | cons hstep _ ih =>
      rw [List.forall_mem_cons] at hgoes
      subst hstep
      exact ih (hs.step m native _) (hholds.step hs hgoes.1) hgoes.2

theorem struck_nodup (native : NativeRoutines) (s : Combat) (e : CombatEvent) :
    (struck fl native s e).Nodup := by
  cases e with
  | strike ram answers =>
      change (applyCombatOnce fl native s ram answers).2.Nodup
      rcases applyCombatOnce_cases native s ram answers with
        hnone | ⟨-, -, -, -, -, hnodup⟩ | ⟨-, -, ⟨-, hnone, -⟩ | ⟨-, hstruck⟩⟩
      · rw [hnone]
        exact List.nodup_nil
      · exact hnodup
      · rw [hnone]
        exact List.nodup_nil
      · exact hstruck.nodup
  | _ => exact List.nodup_nil

/-- An update that does not go on with the active move of the ledger leaves no slot marked. -/
theorem Orderly.eligible {s : Combat} (h : Orderly s) {call : FalconState × Bool}
    (hother : call.2 = true → s.ledger.active = true →
      s.ledger.moveState ≠ carriedPunch (.is call.1)) :
    (ledgerUpdate s.ledger (.is call.1) call.2).hitSlots = 0 := by
  rcases ledgerUpdate_cases s.ledger (.is call.1) call.2 with
    ⟨-, hlatched, -, hledger⟩ | ⟨-, hledger⟩ | ⟨-, -, hledger⟩ | ⟨hactive, hled, hsame, -⟩
  · rw [hledger]
    exact (h.latched hlatched).2.1
  · rw [hledger]
    rfl
  · rw [hledger]
    rfl
  · exact absurd hsame (hother hactive hled)

/-- A call accepts one consequence for a slot at most, between two for one slot the move has ended,
and an update for another move makes every slot eligible. -/
theorem consequences_of_moves (fl : ℚ → ℚ) (m : SourceMath) (native : NativeRoutines)
    {fighter : FalconFighter} {s : Combat}
    {steps : List (Combat × CombatEvent × Combat)}
    (h : Run (fun s e s' => combatStep fl m native s e = s') (.start fighter) steps s) :
    (∀ x ∈ steps, (struck fl native x.1 x.2.1).Nodup) ∧
      (∀ a x b y c slot, steps = a ++ x :: (b ++ y :: c) → slot ∈ struck fl native x.1 x.2.1 →
        slot ∈ struck fl native y.1 y.2.1 →
        ∃ z ∈ b, ∃ call, ledgerCall m z.1 z.2.1 = some call ∧ Ends x.1.ledger.moveState call) ∧
      ∀ z ∈ steps, ∀ call, ledgerCall m z.1 z.2.1 = some call →
        (call.2 = true → z.1.ledger.active = true →
          z.1.ledger.moveState ≠ carriedPunch (.is call.1)) →
          z.2.2.ledger.hitSlots = 0 := by
  have horder : ∀ a l b, combatStep fl m native a l = b → Orderly a → Orderly b := by
    rintro a l _ rfl ha
    exact ha.step m native l
  refine ⟨fun x _ => struck_nodup native _ _, ?_, ?_⟩
  · rintro a ⟨u, e, v⟩ b ⟨u', e', v'⟩ c slot rfl hfirst hsecond
    by_contra hnone
    push Not at hnone
    obtain ⟨hbefore, hstep, hafter⟩ := Run.split h
    obtain ⟨hbetween, -, -⟩ := Run.split hafter
    have hu : Orderly u := hbefore.invariant horder (.start fighter)
    subst hstep
    obtain ⟨hu', hholds⟩ :=
      holds_run hbetween (hu.step m native e) (holds_of_struck hu hfirst) hnone
    exact hholds.not_struck hu' hsecond
  · rintro ⟨u, e, v⟩ hz call hcall hother
    obtain ⟨hstep, hu⟩ := h.step_mem horder (.start fighter) u e v hz
    subst hstep
    change (combatStep fl m native u e).ledger.hitSlots = 0
    rw [(ledger_called native hcall).1]
    exact hu.eligible hother

/-! ## Two hit phases -/

/-- Square root and root motion that are not asked for. -/
def noSource : SourceMath := ⟨fun _ => 0, fun _ _ => none⟩

/-- The guest's routines as far as they decide about a target: its status. -/
def spinKill : NativeRoutines :=
  { killNormalSprite := fun slot ram => ram.put (SMW_SPR_STATUS + slot) 2
    setNorSprStatus04 := fun slot ram => ram.put (SMW_SPR_STATUS + slot) 4
    spawnSpinJumpStars := fun _ ram => ram
    checkPlayerToNormalSpriteColl := fun _ ram => ram }

/-- A Koopa in slot 0 before the player. -/
def koopaAhead : Coop.Ram := fun a =>
  if a = SMW_PLAYER_X + 1 ∨ a = SMW_PLAYER_Y + 1 ∨ a = SMW_SPR_X_HI ∨ a = SMW_SPR_Y_HI then 1
  else if a = SMW_SPR_STATUS then 8
  else if a = SMW_SPR_NUMBER then 4
  else if a = SMW_SPR_X_LO then 0x18
  else if a = SMW_SPR_Y_LO then 4
  else 0

/-- In the air, with the stick ahead and perhaps the attack button. -/
def aerialTick (attackPressed : Bool) : CombatEvent :=
  .tick false .fell ⟨40, 0, false, false, attackPressed, false, false⟩

/-- A forward aerial from its first frame to the second of its two hit phases, with a Koopa ahead in
both. -/
def forwardAerial : List CombatEvent :=
  [aerialTick false, aerialTick true] ++ List.replicate 7 (aerialTick false) ++
    [.strike koopaAhead fun _ => 0] ++ List.replicate 14 (aerialTick false) ++
      [.strike koopaAhead fun _ => 0]

/-- The frames between the two hit phases clear the ledger: slot 0 accepts twice in one forward
aerial. -/
theorem two_phases :
    let steps := traceOf (combatStep binary64 noSource spinKill) (.start .reset) forwardAerial
    ((steps.drop 1).all fun x => (ledgerCall noSource x.1 x.2.1).all fun call => call.1 =
      attackAirF) = true ∧
      (steps.flatMap fun x => struck binary64 spinKill x.1 x.2.1) = [0, 0] := by
  decide +kernel

/-- Between those two consequences the ledger is updated without an active attack. -/
theorem consequences_of_moves_aerial :
    let steps := traceOf (combatStep binary64 noSource spinKill) (.start .reset) forwardAerial
    (steps.flatMap fun x => struck binary64 spinKill x.1 x.2.1).length = 2 ∧
    (∀ x ∈ steps, (struck binary64 spinKill x.1 x.2.1).Nodup) ∧
      ∀ a x b y c, steps = a ++ x :: (b ++ y :: c) → 0 ∈ struck binary64 spinKill x.1 x.2.1 →
      0 ∈ struck binary64 spinKill y.1 y.2.1 →
        ∃ z ∈ b, ∃ call, ledgerCall noSource z.1 z.2.1 = some call ∧
        Ends x.1.ledger.moveState call := by
  have hrun :=
    Run.trace (f := combatStep binary64 noSource spinKill) (fun _ _ => rfl) forwardAerial
    (.start .reset)
  obtain ⟨hnodup, hends, -⟩ := consequences_of_moves binary64 noSource spinKill hrun
  exact ⟨by decide +kernel, hnodup, fun a x b y c => hends a x b y c 0⟩

end SmwRecomp.Falcon
