import SmwRecomp.Coop.EntityRuns
import SmwRecomp.Coop.Fates
import SmwRecomp.Coop.Guest

/-!
# The end of a frame that clears the level

`apply_object_drops`, `apply_checkpoint` and `apply_clear` of `src/src/mods/coop/coop_simulation.c`:
the host takes from fallen players what the action list names, and a clear brings every player back
into play.

* A guest routine is a parameter; `Die`, and a lookup the code never expects to fail, is `none`.
* An actor pointer is the actor's player id, for a machine has one actor for each player.
* `SameOwnership` — no ownership record differs; guest routines are assumed to keep it.
* `applyObjectDrops_entities` — exactly the entities the actions name are released.
* `applyClear_resets` — every player that has an actor is reset.
-/

set_option autoImplicit false

namespace SmwRecomp.Coop

/-! ## The stage -/

/-- What the end of a frame works on. `emulator` is the processor and everything else that native
code only passes on. -/
structure Stage (κ : Type) where
  machine : CoopMachine
  ram : Ram
  goalContact : Bool
  goalActor : CoopPlayerId
  goalEntity : CoopEntityId
  goalStars : UInt8
  frozenGoalScore : UInt32
  emulator : κ

/-- The emulator: `guest_jsr` to an entry with a slot in the index register, and
`restore_registers`. -/
structure Emulator (κ : Type) where
  guestJsr : UInt32 → UInt32 → Stage κ → Option (Stage κ)
  restoreRegisters : κ → κ → κ

variable {κ : Type}

def Stage.restore (emu : Emulator κ) (caller : κ) (st : Stage κ) : Stage κ :=
  { st with emulator := emu.restoreRegisters st.emulator caller }

/-- `capture`. -/
def capture (st : Stage κ) (player : CoopPlayerId) : Option (Stage κ) :=
  match coopMachineActor st.machine player, coopPlayer st.machine.session player with
  | some a, some p => some { st with machine := { st.machine with
      actors :=
        putKey CoopActor.player { a with guest := coopGuestCapture st.ram } st.machine.actors
      session := putPlayer st.machine.session (coopGuestReadPlayer p st.ram) } }
  | _, _ => none

/-- `coop_guest_bind(&primary_actor(m)->guest, g_ram)`. -/
def bindPrimary (st : Stage κ) : Option (Stage κ) :=
  match coopMachineActor st.machine st.machine.session.primary with
  | none => none
  | some a => some { st with ram := coopGuestBind a.guest st.ram }

/-- A write through the pointer `coop_machine_entity` returned. -/
def putEntity (m : CoopMachine) (e : CoopEntity) : CoopMachine :=
  { m with entities := putKey CoopEntity.id e m.entities }

/-! ## Object drops -/

/-- `COOP_ACTION_DETACH_MOUNT`. -/
def detachAction (st : Stage κ) (action : CoopAction) : Option (Stage κ) :=
  match coopMachineEntity st.machine action.entity, coopMachineActor st.machine action.player with
  | some e, some a =>
    if e.flags = COOP_ENTITY_RIDDEN ∧ e.owner = action.player then
      let ram := coopGuestBind a.guest (st.ram.put (0xc2 + e.slot.toNat) 0)
      capture { st with
        machine := putEntity st.machine e.released
        ram := (ram.put 0x187a 0).put 0x188b 0 } action.player
    else some st
  | _, _ => some st

/-- The native release of a sprite in the carried state, with Down held: drop rather than throw. -/
def dropCall (emu : Emulator κ) (caller : κ) (slot : UInt32) (st : Stage κ) : Option (Stage κ) :=
  if st.ram (0x14c8 + slot.toNat) ≠ 0x0b then some st
  else do
    let input := st.ram.bytes 0x15 4
    let ram := (((st.ram.put 0x15 4).put 0x16 0).put 0x17 0).put 0x18 0
    let st := Stage.restore emu caller { st with ram := ram.put 0x15e9 slot.toUInt8 }
    let st ← emu.guestJsr 0x01a015 slot st
    some { st with ram := st.ram.write 0x15 input }

/-- `COOP_ACTION_DROP_OBJECT`. -/
def dropAction (emu : Emulator κ) (caller : κ) (st : Stage κ) (action : CoopAction) :
    Option (Stage κ) :=
  match coopMachineEntity st.machine action.entity with
  | none => some st
  | some e =>
    if e.owner ≠ action.player ∨ e.flags ≠ COOP_ENTITY_HELD then some st
    else do
      let a ← coopMachineActor st.machine action.player
      let st ← dropCall emu caller e.slot { st with ram := coopGuestBind a.guest st.ram }
      let st ← capture { st with ram := (st.ram.put 0x1470 0).put 0x148f 0 } action.player
      match coopMachineEntity st.machine action.entity with
      | none => some st
      | some e =>
        let (session, e) := releaseOwner st.machine.session e
        some { st with machine := putEntity { st.machine with session := session } e }

/-- One turn of the loop over the actions. -/
def applyAction (emu : Emulator κ) (caller : κ) (st : Stage κ) (action : CoopAction) :
    Option (Stage κ) :=
  if action.kind = .is .detachMount then detachAction st action
  else if action.kind = .is .dropObject then dropAction emu caller st action
  else some st

/-- The scratch bytes and the sprite index a native call sequence gives back. -/
def Stage.giveBack (emu : Emulator κ) (before st : Stage κ) : Stage κ :=
  let st := Stage.restore emu before.emulator st
  { st with ram := (st.ram.write 0 (before.ram.bytes 0 16)).put 0x15e9 (before.ram 0x15e9) }

/-- `apply_object_drops`; a guest routine does not emit actions. -/
def applyObjectDrops (emu : Emulator κ) (st : Stage κ) : Option (Stage κ) := do
  let after ← st.machine.session.actions.foldlM (applyAction emu st.emulator) st
  bindPrimary (Stage.giveBack emu st after)

/-! ## Checkpoints -/

/-- One turn of the loop of `apply_checkpoint`. -/
def checkpointImage (st : Stage κ) (player : CoopPlayerId) : Option (Stage κ) := do
  let a ← coopMachineActor st.machine player
  let p ← coopPlayer st.machine.session player
  let power : CEnum CoopPower := if p.life = .is .dying then .is .small else p.power
  capture { st with ram := (coopGuestBind a.guest st.ram).put 0x19 power.toWord.toUInt8 } player

/-- `apply_checkpoint`. -/
def applyCheckpoint (st : Stage κ) : Option (Stage κ) :=
  if st.machine.session.actions.any (fun a => decide (a.kind = .is .checkpoint)) then do
    let st ← (st.machine.actors.map CoopActor.player).foldlM checkpointImage st
    bindPrimary st
  else some st

/-! ## Clears -/

/-- One turn of the loop of `settle_keyhole_bonus`. -/
def creditLoop (emu : Emulator κ) : Nat → Stage κ → Option (Stage κ)
  | 0, st => some st
  | fuel + 1, st =>
    if st.ram 0x1900 = 0 then some st
    else do
      let st ← emu.guestJsr 0x05cf05 0 st
      creditLoop emu fuel st

/-- The accepted life reward; the native counter is credited before its popup. -/
def creditReward (emu : Emulator κ) (st : Stage κ) : Option (Stage κ) :=
  if st.goalStars ≠ 0x50 then some st
  else if st.frozenGoalScore ≥ 6 then none
  else do
    let after ← emu.guestJsr 0x02ae03 st.frozenGoalScore st
    some { after with ram := after.ram.put (0x16ff + after.frozenGoalScore.toNat) 0x29 }

/-- `settle_keyhole_bonus`. -/
def settleKeyholeBonus (emu : Emulator κ) (st : Stage κ) : Option (Stage κ) := do
  let st ← creditReward emu st
  let frame := st.ram 0x13
  let st ← creditLoop emu 50 { st with ram := st.ram.put 0x13 (st.ram 0x13 &&& 0xfc) }
  if st.ram 0x1900 ≠ 0 then none else some { st with ram := st.ram.put 0x13 frame }

/-- The routine of an accepted goal: its entry, by sprite type. -/
def goalEntry (type : UInt8) : Option UInt32 :=
  if type = 0x7b then some 0x01c0e7 else if type = 0x4a then some 0x018778
  else if type = 0x0e then some 0x01e210 else none

/-- The goal's own routine: the sprite type, zero without a sprite. -/
def commitGoal (emu : Emulator κ) (exit : CoopAction) (st : Stage κ) : Option (UInt8 × Stage κ) :=
  if exit.entity = COOP_NO_ENTITY then some (0, st)
  else do
    let type := st.ram (0x9e + exit.entity.toNat)
    let entry ← goalEntry type
    let st ← emu.guestJsr entry exit.entity { st with ram := st.ram.put 0x15e9 exit.entity.toUInt8 }
    some (type, st)

/-- The tape's accepted bonus, when another goal has won the tie. -/
def commitBonus (emu : Emulator κ) (type : UInt8) (st : Stage κ) : Option (Stage κ) :=
  if type ≠ 0x7b ∧ st.goalContact = true then do
    let bonus ← coopMachineActor st.machine st.goalActor
    let ram := (coopGuestBind bonus.guest st.ram).put 0x15e9 st.goalEntity.toUInt8
    let hit := 0x1602 + st.goalEntity.toNat
    let st ← emu.guestJsr 0x01c109 st.goalEntity
      { st with ram := ram.put hit (ram hit + 1), frozenGoalScore := 6 }
    let st ← capture st bonus.player
    if type = 0x0e then settleKeyholeBonus emu st else some st
  else some st

/-- The best survivor so far. -/
def survivorStep (s : CoopSession) (best : Option CoopActor) (a : CoopActor) : Option CoopActor :=
  if (coopPlayer s a.player).any (fun p => decide (p.life = .is .playing)) = true ∧
      best.all (fun b => coopPlayerPrecedes s a.player b.player) = true then some a
  else best

/-- The actor whose image returning players are rebuilt from. -/
def clearAnchor (m : CoopMachine) (winner : CoopActor) : CoopActor :=
  if (coopPlayer m.session winner.player).all (fun p => decide (p.life = .is .playing)) then winner
  else (m.actors.foldl (survivorStep m.session) none).getD winner

/-- The record a clear leaves of a player. -/
def clearedPlayer (p : CoopPlayer) : CoopPlayer :=
  { p with
    mount := if p.life ≠ .is .playing then COOP_NO_ENTITY else p.mount
    heldObject := if p.life ≠ .is .playing then COOP_NO_ENTITY else p.heldObject
    life := .is .playing
    recoveryTicks := 0
    separationTicks := 0
    checkpointUpgrade := false }

def clearedPower (p : CoopPlayer) : CEnum CoopPower :=
  if p.life = .is .dying ∨ p.life = .is .deathBubble then .is .small else p.power

/-- Guest memory as the captured image of a cleared player is taken from it. -/
def clearedRam (entry : List.Vector UInt8 COOP_GUEST_BYTES) (a : CoopActor) (p : CoopPlayer)
    (ram : Ram) : Ram :=
  let ram := coopGuestBind (if p.life ≠ .is .playing then entry else a.guest) ram
  let ram := (ram.put 0x19 (clearedPower p).toWord.toUInt8).put 0xdc2 p.reserve.toUInt8
  let ram := ((((ram.put 0x71 0).put 0x78 0).put 0x1490 0).put 0x1496 0).put 0x1497 0
  if p.life ≠ .is .playing then (((ram.put 0x187a 0).put 0x1470 0).put 0x1471 0).put 0x148f 0
    else ram

/-- One turn of the loop that resets the party. -/
def clearStep (entry : List.Vector UInt8 COOP_GUEST_BYTES) (st : Stage κ) (player : CoopPlayerId) :
    Option (Stage κ) := do
  let a ← coopMachineActor st.machine player
  let p ← coopPlayer st.machine.session player
  capture { st with
    machine := { st.machine with session := putPlayer st.machine.session (clearedPlayer p) }
    ram := clearedRam entry a p st.ram } player

/-- `apply_clear`. -/
def applyClear (emu : Emulator κ) (st : Stage κ) : Option (Stage κ) :=
  match st.machine.session.actions.reverse.find? (fun a => decide (a.kind = .is .exit)) with
  | none => some st
  | some exit =>
    if exit.entity ≠ COOP_NO_ENTITY ∧ exit.entity ≥ 12 then none
    else do
      let winner ← coopMachineActor st.machine exit.player
      let (type, after) ← commitGoal emu exit { st with ram := coopGuestBind winner.guest st.ram }
      let after ← capture after exit.player
      let after ← commitBonus emu type after
      let after := Stage.giveBack emu st after
      let winner ← coopMachineActor after.machine exit.player
      let anchor := clearAnchor after.machine winner
      let after ← (after.machine.actors.map CoopActor.player).foldlM (clearStep anchor.guest) after
      bindPrimary after

/-- What `SmwCoopSimulationEnd` runs after the resolution. -/
def applyActionsAndClear (emu : Emulator κ) (st : Stage κ) : Option (Stage κ) := do
  let st ← applyObjectDrops emu st
  let st ← applyCheckpoint st
  applyClear emu st

/-! ## Ownership records -/

/-- What the host's ownership records say about a player. -/
structure Holding where
  id : CoopPlayerId
  life : CEnum CoopLifeState
  heldObject : CoopEntityId
  mount : CoopEntityId

def CoopPlayer.holding (p : CoopPlayer) : Holding := ⟨p.id, p.life, p.heldObject, p.mount⟩

/-- Everything `entities_valid` reads apart from the entities and what players hold. -/
structure SameTables (m n : CoopMachine) : Prop extends SameActors m n where
  next : n.nextEntity = m.nextEntity
  sources : n.sources = m.sources
  eggs : n.placedEggs = m.placedEggs
  roster : n.session.players.map CoopPlayer.id = m.session.players.map CoopPlayer.id
  actions : n.session.actions = m.session.actions

structure SameHoldings (m n : CoopMachine) : Prop extends SameTables m n where
  holdings : n.session.players.map CoopPlayer.holding = m.session.players.map CoopPlayer.holding

/-- No ownership record differs. -/
structure SameOwnership (m n : CoopMachine) : Prop extends SameHoldings m n where
  entities : n.entities = m.entities

/-- Guest routines leave ownership records, lives and actions alone. -/
def Emulator.KeepsOwnership (emu : Emulator κ) : Prop :=
  ∀ entry slot st st', emu.guestJsr entry slot st = some st' → SameOwnership st.machine st'.machine

theorem SameActors.trans {a b c : CoopMachine} (h : SameActors a b) (h' : SameActors b c) :
    SameActors a c :=
  ⟨h'.actors.trans h.actors, h'.fireballs.trans h.fireballs, h'.level.trans h.level⟩

theorem SameTables.refl (m : CoopMachine) : SameTables m m :=
  { actors := rfl, fireballs := rfl, level := rfl, next := rfl, sources := rfl, eggs := rfl,
    roster := rfl, actions := rfl }

theorem SameTables.trans {a b c : CoopMachine} (h : SameTables a b) (h' : SameTables b c) :
    SameTables a c :=
  { h.toSameActors.trans h'.toSameActors with
    next := h'.next.trans h.next
    sources := h'.sources.trans h.sources
    eggs := h'.eggs.trans h.eggs
    roster := h'.roster.trans h.roster
    actions := h'.actions.trans h.actions }

theorem SameHoldings.refl (m : CoopMachine) : SameHoldings m m :=
  { SameTables.refl m with holdings := rfl }

theorem SameHoldings.trans {a b c : CoopMachine} (h : SameHoldings a b) (h' : SameHoldings b c) :
    SameHoldings a c :=
  { h.toSameTables.trans h'.toSameTables with holdings := h'.holdings.trans h.holdings }

theorem SameOwnership.refl (m : CoopMachine) : SameOwnership m m :=
  { SameHoldings.refl m with entities := rfl }

theorem SameOwnership.trans {a b c : CoopMachine} (h : SameOwnership a b) (h' : SameOwnership b c) :
    SameOwnership a c :=
  { h.toSameHoldings.trans h'.toSameHoldings with entities := h'.entities.trans h.entities }

/-- A player is found under the same id, holding the same. -/
theorem SameHoldings.player {m n : CoopMachine} (h : SameHoldings m n) {id : CoopPlayerId}
    {p : CoopPlayer} (hp : coopPlayer m.session id = some p) :
    ∃ q, coopPlayer n.session id = some q ∧ q.holding = p.holding := by
  have hfind : ∀ k : CoopMachine, (coopPlayer k.session id).map CoopPlayer.holding =
      findKey Holding.id id (k.session.players.map CoopPlayer.holding) := fun k =>
    (findKey_map (f := CoopPlayer.holding) (show ∀ p : CoopPlayer, Holding.id p.holding = p.id
      from fun _ => rfl) id
      k.session.players).symm
  have heq : (coopPlayer n.session id).map CoopPlayer.holding = some p.holding := by
    rw [hfind, h.holdings, ← hfind, hp]
    rfl
  exact Option.map_eq_some_iff.1 heq

theorem SameActors.actor_isSome {m n : CoopMachine} (h : SameActors m n) (player : CoopPlayerId) :
    (coopMachineActor n player).isSome = (coopMachineActor m player).isSome := by
  have hkeys : ∀ k : CoopMachine, k.actors.map CoopActor.player =
      (k.actors.map CoopActor.belongings).map Belongings.player := fun k => by
    rw [List.map_map]; rfl
  exact findKey_isSome_of_keys (by rw [hkeys, hkeys, h.actors])

/-- Capturing an actor's image writes no ownership record. -/
theorem capture_same {st st' : Stage κ} {player : CoopPlayerId} (h : capture st player = some st') :
    SameOwnership st.machine st'.machine := by
  unfold capture at h
  split at h
  · rename_i a p ha hp
    cases h
    have hplayer : a.player = player := (findKey_some ha).2
    have hfind : findKey CoopActor.player a.player st.machine.actors = some a := by
      rw [hplayer]; exact ha
    have hid : findKey CoopPlayer.id p.id st.machine.session.players = some p := by
      rw [coopPlayer_id hp]; exact hp
    exact {
      actors := map_putKey (a := a) (b := { a with guest := coopGuestCapture st.ram }) rfl hfind
      fireballs := rfl
      level := rfl
      next := rfl
      sources := rfl
      eggs := rfl
      roster := map_key_putKey _ _
      actions := rfl
      holdings := map_putKey (a := p) (b := coopGuestReadPlayer p st.ram) rfl hid
      entities := rfl }
  · cases h

theorem bindPrimary_machine {st st' : Stage κ} (h : bindPrimary st = some st') :
    st'.machine = st.machine := by
  unfold bindPrimary at h
  split at h
  · cases h
  · cases h; rfl

/-! ## What the drops release -/

/-- `action` releases `e`. -/
def Releases (action : CoopAction) (e : CoopEntity) : Prop :=
  e.id = action.entity ∧ e.owner = action.player ∧
    (action.kind = .is .detachMount ∧ e.flags = COOP_ENTITY_RIDDEN ∨
      action.kind = .is .dropObject ∧ e.flags = COOP_ENTITY_HELD)

instance (action : CoopAction) : DecidablePred (Releases action) :=
  fun _ => inferInstanceAs (Decidable (_ ∧ _ ∧ _))

/-- A released entity is not released again. -/
theorem not_releases_released (action : CoopAction) (e : CoopEntity) :
    ¬ Releases action e.released := by
  rintro ⟨-, -, ⟨-, hf⟩ | ⟨-, hf⟩⟩
  · exact absurd hf (by show (0 : UInt32) ≠ _; decide)
  · exact absurd hf (by show (0 : UInt32) ≠ _; decide)

/-- Nothing named, nothing released. -/
theorem releases_none {action : CoopAction} {entities : List CoopEntity}
    (h : ∀ e ∈ entities, ¬ Releases action e) :
    entities = entities.map (fun e => if Releases action e then e.released else e) := by
  conv_lhs => rw [← List.map_id entities]
  exact List.map_congr_left fun e he => (if_neg (h e he)).symm

/-- Only the entity the action names can be released. -/
theorem releases_unique {m : CoopMachine} (hids : (m.entities.map CoopEntity.id).Nodup)
    {action : CoopAction} {e : CoopEntity} (he : coopMachineEntity m action.entity = some e) :
    ∀ f ∈ m.entities, Releases action f → f = e := by
  intro f hf hr
  obtain ⟨hmem, hid⟩ := findKey_some he
  exact List.inj_on_of_nodup_map hids hf hmem (hr.1.trans hid.symm)

/-- Writing the released record is releasing what the action names. -/
theorem releases_put {m : CoopMachine} (hids : (m.entities.map CoopEntity.id).Nodup)
    {action : CoopAction} {e : CoopEntity} (he : coopMachineEntity m action.entity = some e)
    (hr : Releases action e) : putKey CoopEntity.id e.released m.entities =
      m.entities.map (fun e => if Releases action e then e.released else e) := by
  have hput : putKey CoopEntity.id e.released m.entities =
      m.entities.map (fun f => if f.id = e.released.id then e.released else f) := putKey_eq_map hids
  rw [hput]
  refine List.map_congr_left fun f hf => ?_
  by_cases hid : f.id = e.released.id
  · have hfe : f = e := List.inj_on_of_nodup_map hids hf (findKey_some he).1 hid
    rw [if_pos hid, hfe, if_pos hr]
  · rw [if_neg hid, if_neg fun h => hid (releases_unique hids he f hf h ▸ rfl)]

theorem SameHoldings.putEntity (m : CoopMachine) (e : CoopEntity) :
    SameHoldings m (putEntity m e) :=
  { SameHoldings.refl m with }

theorem detachAction_releases {st st' : Stage κ} {action : CoopAction}
    (hids : (st.machine.entities.map CoopEntity.id).Nodup) (hkind : action.kind = .is .detachMount)
    (hactor : (coopMachineActor st.machine action.player).isSome)
    (h : detachAction st action = some st') :
    SameHoldings st.machine st'.machine ∧ st'.machine.entities =
      st.machine.entities.map (fun e => if Releases action e then e.released else e) := by
  obtain ⟨a, ha⟩ := Option.isSome_iff_exists.1 hactor
  unfold detachAction at h
  rw [ha] at h
  cases he : coopMachineEntity st.machine action.entity with
  | none =>
      rw [he] at h
      cases h
      exact ⟨SameHoldings.refl _, releases_none fun e hmem hr => findKey_eq_none.1 he e hmem hr.1⟩
  | some e =>
      rw [he] at h
      dsimp only at h
      split at h
      · rename_i hcase
        have hr : Releases action e := ⟨(findKey_some he).2, hcase.2, Or.inl ⟨hkind, hcase.1⟩⟩
        have hcapture := capture_same h
        exact ⟨(SameHoldings.putEntity st.machine e.released).trans hcapture.toSameHoldings,
          hcapture.entities.trans (releases_put hids he hr)⟩
      · rename_i hcase
        cases h
        refine ⟨SameHoldings.refl _, releases_none fun f hf hr => ?_⟩
        have hfe := releases_unique hids he f hf hr
        subst hfe
        rcases hr with ⟨-, howner, ⟨-, hflags⟩ | ⟨hdrop, -⟩⟩
        · exact hcase ⟨hflags, howner⟩
        · rw [hkind] at hdrop
          cases hdrop

theorem dropCall_same {emu : Emulator κ} (hemu : emu.KeepsOwnership) {caller : κ} {slot : UInt32}
    {st st' : Stage κ} (h : dropCall emu caller slot st = some st') :
    SameOwnership st.machine st'.machine := by
  unfold dropCall at h
  split at h
  · cases h
    exact SameOwnership.refl _
  · obtain ⟨st₁, hjsr, h⟩ := Option.bind_eq_some_iff.1 h
    have hsame := hemu _ _ _ _ hjsr
    cases h
    exact hsame

theorem releaseOwner_absent {s : CoopSession} {e : CoopEntity}
    (h : ∀ p, coopPlayer s e.owner = some p → p.heldObject ≠ e.id) : (releaseOwner s e).1 = s := by
  unfold releaseOwner
  cases hp : coopPlayer s e.owner with
  | none => rfl
  | some p => exact if_neg (h p hp)

theorem dropAction_releases {emu : Emulator κ} (hemu : emu.KeepsOwnership) {caller : κ}
    {st st' : Stage κ} {action : CoopAction} (hids : (st.machine.entities.map CoopEntity.id).Nodup)
    (hnamed : ∀ e ∈ st.machine.entities, e.id ≠ COOP_NO_ENTITY)
    (hkind : action.kind = .is .dropObject)
    (hempty : ∀ q, coopPlayer st.machine.session action.player = some q →
      q.heldObject = COOP_NO_ENTITY)
    (h : dropAction emu caller st action = some st') :
    SameHoldings st.machine st'.machine ∧ st'.machine.entities =
      st.machine.entities.map (fun e => if Releases action e then e.released else e) := by
  unfold dropAction at h
  split at h
  · rename_i he
    cases h
    exact ⟨SameHoldings.refl _, releases_none fun e hmem hr => findKey_eq_none.1 he e hmem hr.1⟩
  rename_i e he
  split at h
  · rename_i hcase
    cases h
    refine ⟨SameHoldings.refl _, releases_none fun f hf hr => ?_⟩
    have hfe := releases_unique hids he f hf hr
    subst hfe
    rcases hr with ⟨-, howner, ⟨hdetach, -⟩ | ⟨-, hflags⟩⟩
    · rw [hkind] at hdetach
      cases hdetach
    · exact hcase.elim (fun hne => hne howner) fun hne => hne hflags
  rename_i hcase
  rw [not_or, not_ne_iff, not_ne_iff] at hcase
  obtain ⟨howner, hflags⟩ := hcase
  have hr : Releases action e := ⟨(findKey_some he).2, howner, Or.inr ⟨hkind, hflags⟩⟩
  obtain ⟨a, -, h⟩ := Option.bind_eq_some_iff.1 h
  obtain ⟨st₁, hcall, h⟩ := Option.bind_eq_some_iff.1 h
  obtain ⟨st₂, hcapture, h⟩ := Option.bind_eq_some_iff.1 h
  have hsame₁ := dropCall_same hemu hcall
  have hcaptured := capture_same hcapture
  have hsame₂ : SameOwnership st.machine st₂.machine := hsame₁.trans hcaptured
  have hfound : coopMachineEntity st₂.machine action.entity = some e := by
    unfold coopMachineEntity
    rw [hsame₂.entities]
    exact he
  have hkept : (releaseOwner st₂.machine.session e).1 = st₂.machine.session := by
    refine releaseOwner_absent fun q hq heq => ?_
    rw [howner] at hq
    have hpresent : (coopPlayer st.machine.session action.player).isSome := by
      unfold coopPlayer at hq ⊢
      rw [findKey_isSome_of_keys hsame₂.roster.symm]
      exact Option.isSome_iff_exists.2 ⟨q, hq⟩
    obtain ⟨p, hp⟩ := Option.isSome_iff_exists.1 hpresent
    obtain ⟨q', hq', hholding⟩ := hsame₂.toSameHoldings.player hp
    cases hq.symm.trans hq'
    have hheld : q.heldObject = p.heldObject := congrArg Holding.heldObject hholding
    exact hnamed e (findKey_some he).1 (heq.symm.trans (hheld.trans (hempty p hp)))
  rw [hfound] at h
  dsimp only at h
  rw [hkept] at h
  cases h
  refine ⟨hsame₂.toSameHoldings.trans (SameHoldings.putEntity st₂.machine e.released), ?_⟩
  show putKey CoopEntity.id e.released st₂.machine.entities = _
  rw [hsame₂.entities]
  exact releases_put hids he hr

/-- The machine is ready for `action`: it names a player with an actor and, if it drops an object, a
player that no longer holds one. -/
structure Droppable (m : CoopMachine) (action : CoopAction) : Prop where
  actor : action.kind = .is .detachMount → (coopMachineActor m action.player).isSome
  empty : action.kind = .is .dropObject →
    ∀ q, coopPlayer m.session action.player = some q → q.heldObject = COOP_NO_ENTITY

theorem Droppable.same {m n : CoopMachine} {action : CoopAction} (h : Droppable m action)
    (hsame : SameHoldings m n) : Droppable n action := by
  refine ⟨fun hk => by rw [hsame.actor_isSome]; exact h.actor hk, fun hk q hq => ?_⟩
  have hpresent : (coopPlayer m.session action.player).isSome := by
    unfold coopPlayer at hq ⊢
    rw [findKey_isSome_of_keys hsame.roster.symm]
    exact Option.isSome_iff_exists.2 ⟨q, hq⟩
  obtain ⟨p, hp⟩ := Option.isSome_iff_exists.1 hpresent
  obtain ⟨q', hq', hholding⟩ := hsame.player hp
  cases hq.symm.trans hq'
  have hheld : q.heldObject = p.heldObject := congrArg Holding.heldObject hholding
  exact hheld.trans (h.empty hk p hp)

theorem applyAction_releases {emu : Emulator κ} (hemu : emu.KeepsOwnership) {caller : κ}
    {st st' : Stage κ} {action : CoopAction} (hids : (st.machine.entities.map CoopEntity.id).Nodup)
    (hnamed : ∀ e ∈ st.machine.entities, e.id ≠ COOP_NO_ENTITY) (hd : Droppable st.machine action)
    (h : applyAction emu caller st action = some st') :
    SameHoldings st.machine st'.machine ∧ st'.machine.entities =
      st.machine.entities.map (fun e => if Releases action e then e.released else e) := by
  unfold applyAction at h
  split at h
  · rename_i hkind
    exact detachAction_releases hids hkind (hd.actor hkind) h
  rename_i hdetach
  split at h
  · rename_i hkind
    exact dropAction_releases hemu hids hnamed hkind (hd.empty hkind) h
  · rename_i hdrop
    cases h
    refine ⟨SameHoldings.refl _, releases_none fun e _ hr => ?_⟩
    rcases hr with ⟨-, -, ⟨hk, -⟩ | ⟨hk, -⟩⟩
    · exact hdetach hk
    · exact hdrop hk

/-- The loop over the actions releases exactly the entities they name. -/
theorem applyActions_releases {emu : Emulator κ} (hemu : emu.KeepsOwnership) {caller : κ} :
    ∀ (actions : List CoopAction) {st st' : Stage κ},
    (st.machine.entities.map CoopEntity.id).Nodup →
      (∀ e ∈ st.machine.entities, e.id ≠ COOP_NO_ENTITY) → (∀ a ∈ actions, Droppable st.machine a) →
      actions.foldlM (applyAction emu caller) st = some st' →
      SameHoldings st.machine st'.machine ∧ st'.machine.entities = st.machine.entities.map
        (fun e => if ∃ a ∈ actions, Releases a e then e.released else e)
  | [], st, st', _, _, _, h => by
    cases h
    exact ⟨SameHoldings.refl _, by simp⟩
  | action :: actions, st, st', hids, hnamed, hd, h => by
    obtain ⟨st₁, haction, h⟩ := Option.bind_eq_some_iff.1 h
    rw [List.forall_mem_cons] at hd
    obtain ⟨hsame, hentities⟩ := applyAction_releases hemu hids hnamed hd.1 haction
    have hids₁ : (st₁.machine.entities.map CoopEntity.id).Nodup := by
      rw [hentities, List.map_map]
      refine (List.map_congr_left fun e _ => ?_).symm ▸ hids
      show (if Releases action e then e.released else e).id = e.id
      split <;> rfl
    have hnamed₁ : ∀ e ∈ st₁.machine.entities, e.id ≠ COOP_NO_ENTITY := by
      intro e he
      rw [hentities] at he
      obtain ⟨f, hf, rfl⟩ := List.mem_map.1 he
      have hid : (if Releases action f then f.released else f).id = f.id := by split <;> rfl
      rw [hid]
      exact hnamed f hf
    obtain ⟨hsame', hentities'⟩ := applyActions_releases hemu actions hids₁ hnamed₁
      (fun a ha => (hd.2 a ha).same hsame) h
    refine ⟨hsame.trans hsame', ?_⟩
    rw [hentities', hentities, List.map_map]
    refine List.map_congr_left fun e _ => ?_
    show (if ∃ a ∈ actions, Releases a (if Releases action e then e.released else e) then
      (if Releases action e then e.released else e).released
      else if Releases action e then e.released else e) = _
    by_cases hr : Releases action e
    · have hlater : ¬ ∃ a ∈ actions, Releases a e.released := fun ⟨a, _, ha⟩ =>
        not_releases_released a e ha
      have hnow : ∃ a ∈ action :: actions, Releases a e := ⟨action, List.mem_cons_self, hr⟩
      rw [if_pos hr, if_neg hlater, if_pos hnow]
    · rw [if_neg hr]
      have hiff : (∃ a ∈ action :: actions, Releases a e) ↔ ∃ a ∈ actions, Releases a e := by
        simp [hr]
      simp only [hiff]

theorem applyObjectDrops_entities {emu : Emulator κ} (hemu : emu.KeepsOwnership) {st st' : Stage κ}
    (hids : (st.machine.entities.map CoopEntity.id).Nodup)
    (hnamed : ∀ e ∈ st.machine.entities, e.id ≠ COOP_NO_ENTITY)
    (hd : ∀ a ∈ st.machine.session.actions, Droppable st.machine a)
    (h : applyObjectDrops emu st = some st') :
    SameHoldings st.machine st'.machine ∧ st'.machine.entities = st.machine.entities.map
      (fun e => if ∃ a ∈ st.machine.session.actions, Releases a e then e.released else e) := by
  obtain ⟨after, hloop, hbind⟩ := Option.bind_eq_some_iff.1 h
  have hreleased := applyActions_releases hemu _ hids hnamed hd hloop
  rw [bindPrimary_machine hbind]
  exact hreleased

theorem checkpointImages_same : ∀ (players : List CoopPlayerId) {st st' : Stage κ},
    players.foldlM checkpointImage st = some st' → SameOwnership st.machine st'.machine
  | [], st, st', h => by cases h; exact SameOwnership.refl _
  | player :: players, st, st', h => by
    obtain ⟨st₁, hstep, h⟩ := Option.bind_eq_some_iff.1 h
    obtain ⟨a, -, hstep⟩ := Option.bind_eq_some_iff.1 hstep
    obtain ⟨p, -, hstep⟩ := Option.bind_eq_some_iff.1 hstep
    have hcapture := capture_same hstep
    exact SameOwnership.trans hcapture (checkpointImages_same players h)

theorem applyCheckpoint_same {st st' : Stage κ} (h : applyCheckpoint st = some st') :
    SameOwnership st.machine st'.machine := by
  unfold applyCheckpoint at h
  split at h
  · obtain ⟨st₁, hloop, hbind⟩ := Option.bind_eq_some_iff.1 h
    rw [bindPrimary_machine hbind]
    exact checkpointImages_same _ hloop
  · cases h
    exact SameOwnership.refl _

/-! ## What a clear resets -/

theorem clearedPlayer_holding {p q : CoopPlayer} (h : q.holding = p.holding) :
    (clearedPlayer q).holding = (clearedPlayer p).holding := by
  have hid : q.id = p.id := congrArg Holding.id h
  have hlife : q.life = p.life := congrArg Holding.life h
  have hheld : q.heldObject = p.heldObject := congrArg Holding.heldObject h
  have hmount : q.mount = p.mount := congrArg Holding.mount h
  simp only [CoopPlayer.holding, clearedPlayer, hid, hlife, hheld, hmount]

theorem clearedPlayer_twice (p : CoopPlayer) :
    (clearedPlayer (clearedPlayer p)).holding = (clearedPlayer p).holding := by
  simp [CoopPlayer.holding, clearedPlayer]

/-- The players of `players` have been reset, everything else is as it was. -/
structure Resets (players : List CoopPlayerId) (m n : CoopMachine) :
    Prop extends SameTables m n where
  entities : n.entities = m.entities
  player : ∀ id p, coopPlayer m.session id = some p → ∃ q, coopPlayer n.session id = some q ∧
    q.holding = (if id ∈ players then clearedPlayer p else p).holding

theorem SameOwnership.resets {m n : CoopMachine} (h : SameOwnership m n) : Resets [] m n :=
  { h.toSameTables with
    entities := h.entities
    player := fun id p hp => by
      rw [if_neg List.not_mem_nil]
      exact h.toSameHoldings.player hp }

theorem Resets.trans {xs ys : List CoopPlayerId} {a b c : CoopMachine} (h : Resets xs a b)
    (h' : Resets ys b c) : Resets (xs ++ ys) a c :=
  { h.toSameTables.trans h'.toSameTables with
    entities := h'.entities.trans h.entities
    player := fun id p hp => by
      obtain ⟨q, hq, hpq⟩ := h.player id p hp
      obtain ⟨r, hr, hqr⟩ := h'.player id q hq
      refine ⟨r, hr, ?_⟩
      rw [hqr]
      by_cases hx : id ∈ xs
      · rw [if_pos hx] at hpq
        rw [if_pos (List.mem_append_left ys hx)]
        split
        · rw [clearedPlayer_holding hpq, clearedPlayer_twice]
        · exact hpq
      · rw [if_neg hx] at hpq
        have hmem : id ∈ xs ++ ys ↔ id ∈ ys := by simp [hx]
        simp only [hmem]
        split
        · exact clearedPlayer_holding hpq
        · exact hpq }

theorem clearStep_resets {entry : List.Vector UInt8 COOP_GUEST_BYTES} {st st' : Stage κ}
    {player : CoopPlayerId} (h : clearStep entry st player = some st') :
    Resets [player] st.machine st'.machine := by
  obtain ⟨a, -, h⟩ := Option.bind_eq_some_iff.1 h
  obtain ⟨p, hp, h⟩ := Option.bind_eq_some_iff.1 h
  have hcapture := capture_same h
  have hid : (clearedPlayer p).id = player := (findKey_some hp).2
  refine {
    actors := hcapture.actors
    fireballs := hcapture.fireballs
    level := hcapture.level
    next := hcapture.next
    sources := hcapture.sources
    eggs := hcapture.eggs
    roster := hcapture.roster.trans (putPlayer_ids (clearedPlayer p))
    actions := hcapture.actions
    entities := hcapture.entities
    player := fun id p' hp' => ?_ }
  have hput := coopPlayer_putPlayer (s := st.machine.session) (clearedPlayer p) id
  rw [hp'] at hput
  by_cases heq : id = player
  · rw [if_pos (heq.trans hid.symm)] at hput
    obtain ⟨q, hq, hholding⟩ := hcapture.toSameHoldings.player hput
    rw [heq, hp] at hp'
    cases hp'
    exact ⟨q, hq, by rw [if_pos (List.mem_singleton.2 heq)]; exact hholding⟩
  · rw [if_neg fun h => heq (h.trans hid)] at hput
    obtain ⟨q, hq, hholding⟩ := hcapture.toSameHoldings.player hput
    exact ⟨q, hq, by rw [if_neg fun h => heq (List.mem_singleton.1 h)]; exact hholding⟩

theorem clearLoop_resets {entry : List.Vector UInt8 COOP_GUEST_BYTES} :
    ∀ (players : List CoopPlayerId) {st st' : Stage κ},
      players.foldlM (clearStep entry) st = some st' → Resets players st.machine st'.machine
  | [], st, st', h => by
    cases h
    exact (SameOwnership.refl _).resets
  | player :: players, st, st', h => by
    obtain ⟨st₁, hstep, h⟩ := Option.bind_eq_some_iff.1 h
    exact (clearStep_resets hstep).trans (clearLoop_resets players h)

section Commit

variable {emu : Emulator κ}

theorem creditLoop_same (hemu : emu.KeepsOwnership) : ∀ (fuel : Nat) {st st' : Stage κ},
    creditLoop emu fuel st = some st' → SameOwnership st.machine st'.machine
  | 0, st, st', h => by cases h; exact SameOwnership.refl _
  | fuel + 1, st, st', h => by
    unfold creditLoop at h
    split at h
    · cases h
      exact SameOwnership.refl _
    · obtain ⟨st₁, hjsr, h⟩ := Option.bind_eq_some_iff.1 h
      exact (hemu _ _ _ _ hjsr).trans (creditLoop_same hemu fuel h)

theorem creditReward_same (hemu : emu.KeepsOwnership) {st st' : Stage κ}
    (h : creditReward emu st = some st') : SameOwnership st.machine st'.machine := by
  unfold creditReward at h
  split at h
  · cases h
    exact SameOwnership.refl _
  split at h
  · cases h
  · obtain ⟨st₁, hjsr, h⟩ := Option.bind_eq_some_iff.1 h
    have hsame := hemu _ _ _ _ hjsr
    cases h
    exact hsame

theorem settleKeyholeBonus_same (hemu : emu.KeepsOwnership) {st st' : Stage κ}
    (h : settleKeyholeBonus emu st = some st') : SameOwnership st.machine st'.machine := by
  obtain ⟨st₁, hreward, h⟩ := Option.bind_eq_some_iff.1 h
  obtain ⟨st₂, hloop, h⟩ := Option.bind_eq_some_iff.1 h
  have hcredit := creditLoop_same hemu 50 hloop
  have hsame := (creditReward_same hemu hreward).trans hcredit
  split at h
  · cases h
  · cases h
    exact hsame

theorem commitGoal_same (hemu : emu.KeepsOwnership) {exit : CoopAction} {type : UInt8}
    {st st' : Stage κ} (h : commitGoal emu exit st = some (type, st')) :
    SameOwnership st.machine st'.machine := by
  unfold commitGoal at h
  split at h
  · cases h
    exact SameOwnership.refl _
  · obtain ⟨entry, -, h⟩ := Option.bind_eq_some_iff.1 h
    obtain ⟨st₁, hjsr, h⟩ := Option.bind_eq_some_iff.1 h
    have hsame := hemu _ _ _ _ hjsr
    cases h
    exact hsame

theorem commitBonus_same (hemu : emu.KeepsOwnership) {type : UInt8} {st st' : Stage κ}
    (h : commitBonus emu type st = some st') : SameOwnership st.machine st'.machine := by
  unfold commitBonus at h
  split at h
  · obtain ⟨bonus, -, h⟩ := Option.bind_eq_some_iff.1 h
    obtain ⟨st₁, hjsr, h⟩ := Option.bind_eq_some_iff.1 h
    obtain ⟨st₂, hcapture, h⟩ := Option.bind_eq_some_iff.1 h
    have hjsr := hemu _ _ _ _ hjsr
    have hsame := hjsr.trans (capture_same hcapture)
    split at h
    · exact hsame.trans (settleKeyholeBonus_same hemu h)
    · cases h
      exact hsame
  · cases h
    exact SameOwnership.refl _

/-- A clear resets every player that has an actor. -/
theorem applyClear_resets (hemu : emu.KeepsOwnership) {st st' : Stage κ}
    (hexit : ∃ a ∈ st.machine.session.actions, a.kind = .is .exit)
    (h : applyClear emu st = some st') :
    Resets (st.machine.actors.map CoopActor.player) st.machine st'.machine := by
  unfold applyClear at h
  split at h
  · rename_i hnone
    obtain ⟨a, ha, hkind⟩ := hexit
    rw [List.find?_eq_none] at hnone
    exact absurd (decide_eq_true hkind) (hnone a (List.mem_reverse.2 ha))
  rename_i exit _
  split at h
  · cases h
  obtain ⟨winner, -, h⟩ := Option.bind_eq_some_iff.1 h
  obtain ⟨⟨type, st₁⟩, hgoal, h⟩ := Option.bind_eq_some_iff.1 h
  obtain ⟨st₂, hcapture, h⟩ := Option.bind_eq_some_iff.1 h
  obtain ⟨st₃, hbonus, h⟩ := Option.bind_eq_some_iff.1 h
  obtain ⟨winner', -, h⟩ := Option.bind_eq_some_iff.1 h
  obtain ⟨st₄, hloop, h⟩ := Option.bind_eq_some_iff.1 h
  have hgoal := commitGoal_same hemu hgoal
  have hsame := (hgoal.trans (capture_same hcapture)).trans (commitBonus_same hemu hbonus)
  have hreset := clearLoop_resets _ hloop
  have hkeys : ∀ k : CoopMachine, k.actors.map CoopActor.player =
      (k.actors.map CoopActor.belongings).map Belongings.player := fun k => by
    rw [List.map_map]; rfl
  have hactors : (Stage.giveBack emu st st₃).machine.actors.map CoopActor.player =
      st.machine.actors.map CoopActor.player := by
    rw [hkeys, hkeys st.machine]
    exact congrArg (List.map Belongings.player) hsame.actors
  rw [hactors] at hreset
  rw [bindPrimary_machine h]
  exact hsame.resets.trans hreset

end Commit

end SmwRecomp.Coop
