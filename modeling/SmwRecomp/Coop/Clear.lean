import SmwRecomp.Coop.FrameEnd

/-!
# Ownership over a clear

Resolution, object drops, checkpoint and clear together, from a machine whose frame has begun.

* `ClearingFrame` — such a frame end; `ClearingFrame.spec` — what it does to ownership records.
* `clear_keeps_ownership` — it leaves ownership consistent exactly when no player that was out of
  play still owned something.
-/

set_option autoImplicit false

namespace SmwRecomp.Coop

variable {κ : Type}

/-! ## The whole frame end -/

/-- `p` with what the players after the frame say about its holdings. -/
def settledPlayer (after : List CoopPlayer) (p : CoopPlayer) : CoopPlayer :=
  match findKey CoopPlayer.id p.id after with
  | none => p
  | some q => { q with
      id := p.id
      heldObject := if q.heldObject = COOP_NO_ENTITY then COOP_NO_ENTITY else p.heldObject
      mount := if q.mount = COOP_NO_ENTITY then COOP_NO_ENTITY else p.mount }

theorem settledPlayer_clears (after : List CoopPlayer) : Clears (settledPlayer after) := by
  refine ⟨fun p => ?_, fun p => ?_, fun p => ?_⟩ <;> unfold settledPlayer <;> split
  · rfl
  · rfl
  · exact Or.inl rfl
  · rename_i q _
    exact (Classical.em (q.heldObject = COOP_NO_ENTITY)).elim (fun h => Or.inr (if_pos h))
      fun h => Or.inl (if_neg h)
  · exact Or.inl rfl
  · rename_i q _
    exact (Classical.em (q.mount = COOP_NO_ENTITY)).elim (fun h => Or.inr (if_pos h))
      fun h => Or.inl (if_neg h)

/-- A record that kept or lost what it held is the settled one. -/
theorem settledPlayer_eq {after : List CoopPlayer} {p q : CoopPlayer}
    (hq : findKey CoopPlayer.id p.id after = some q)
    (held : q.heldObject = p.heldObject ∨ q.heldObject = COOP_NO_ENTITY)
    (mount : q.mount = p.mount ∨ q.mount = COOP_NO_ENTITY) : settledPlayer after p = q := by
  have hheld : (if q.heldObject = COOP_NO_ENTITY then COOP_NO_ENTITY else p.heldObject) =
    q.heldObject := by
    split
    · rename_i h; exact h.symm
    · rename_i h; exact (held.resolve_right h).symm
  have hmount : (if q.mount = COOP_NO_ENTITY then COOP_NO_ENTITY else p.mount) = q.mount := by
    split
    · rename_i h; exact h.symm
    · rename_i h; exact (mount.resolve_right h).symm
  unfold settledPlayer
  rw [hq]
  dsimp only
  rw [hheld, hmount, ← (findKey_some hq).2]

theorem players_settled {before after : List CoopPlayer} (hnd : (before.map CoopPlayer.id).Nodup)
    (hids : after.map CoopPlayer.id = before.map CoopPlayer.id)
    (h : ∀ p ∈ before, settledPlayer after p = ((findKey CoopPlayer.id p.id after).getD p)) :
    after = before.map (settledPlayer after) := by
  have hlen : after.length = before.length := by
    have hlen := congrArg List.length hids
    rwa [List.length_map, List.length_map] at hlen
  refine List.ext_getElem (by rw [List.length_map, hlen]) fun i hi hi' => ?_
  rw [List.length_map] at hi'
  have hid : (after[i]).id = (before[i]).id := by
    have hget := congrArg (fun l => l[i]?) hids
    simpa [List.getElem?_map, hi, hi'] using hget
  have hfind : findKey CoopPlayer.id (before[i]).id after = some after[i] := by
    rw [← hid]
    exact findKey_of_mem (hids ▸ hnd) (List.getElem_mem hi)
  rw [List.getElem_map, h _ (List.getElem_mem hi'), hfind]
  rfl

section FrameEnd

variable {emu : Emulator κ} {m : CoopMachine} {s : CoopSession} {st st' : Stage κ}

/-- A frame end that clears the level, from a machine whose frame has just been resolved. -/
structure ClearingFrame (emu : Emulator κ) (m : CoopMachine) (s : CoopSession) (st st' : Stage κ) :
    Prop where
  tables : EntitiesValid m
  roster : (m.session.players.map CoopPlayer.id).Nodup
  actors : ActorsMatch m
  begun : m.session.actions = []
  resolved : coopSessionResolve m.session = (true, s)
  exit : ∃ a ∈ s.actions, a.kind = .is .exit
  stage : st.machine = { m with session := s }
  guest : emu.KeepsOwnership
  runs : applyActionsAndClear emu st = some st'

theorem coopSessionResolve_success {s t : CoopSession} (h : coopSessionResolve s = (true, t)) :
    t.failed = false := by
  unfold coopSessionResolve at h
  split at h
  · cases h
  rename_i hfailed
  split at h
  · cases h; simpa using hfailed
  split at h
  · cases h; simpa using hfailed
  · obtain ⟨hsuccess, hresult⟩ := Prod.mk.inj h
    rw [← hresult]
    simpa using hsuccess

theorem ClearingFrame.settles (h : ClearingFrame emu m s st st') : Settles m.session s := by
  have hsettles := coopSessionResolve_settles m.session
  rw [h.resolved] at hsettles
  exact hsettles

/-- Every action that takes something names a player that has just fallen. -/
theorem ClearingFrame.accounted (h : ClearingFrame emu m s st st') {a : CoopAction}
    (ha : a ∈ s.actions)
    (hkind : a.kind = .is .dropObject ∨ a.kind = .is .detachMount) : Accounted m.session s a := by
  rcases h.settles.taken a ha hkind with hold | haccounted
  · rw [h.begun] at hold
    cases hold
  · exact haccounted

theorem ClearingFrame.actor (h : ClearingFrame emu m s st st') {id : CoopPlayerId} {p : CoopPlayer}
    (hp : coopPlayer m.session id = some p) : id ∈ m.actors.map CoopActor.player := by
  rw [h.actors.mem_iff, ← coopPlayer_id hp]
  exact List.mem_map_of_mem (coopPlayer_mem hp)

/-- What the frame end does to the ownership records. -/
theorem ClearingFrame.spec (h : ClearingFrame emu m s st st') :
    SameTables { m with session := s } st'.machine ∧
    st'.machine.entities =
      m.entities.map (fun e => if ∃ a ∈ s.actions, Releases a e then e.released else e) ∧
    ∀ id p, coopPlayer m.session id = some p → ∃ q r, coopPlayer s id = some q ∧ Fate s p q ∧
      coopPlayer st'.machine.session id = some r ∧ r.holding = (clearedPlayer q).holding := by
  obtain ⟨st₁, hdrops, hruns⟩ := Option.bind_eq_some_iff.1 h.runs
  obtain ⟨st₂, hcheckpoint, hclear⟩ := Option.bind_eq_some_iff.1 hruns
  have hdroppable : ∀ a ∈ st.machine.session.actions, Droppable st.machine a := by
    intro a ha
    rw [h.stage] at ha ⊢
    refine ⟨fun hk => ?_, fun hk q hq => ?_⟩
    · obtain ⟨p, -, hp, -⟩ := h.accounted ha (Or.inr hk)
      exact findKey_isSome.2 (List.mem_map.1 (h.actor hp))
    · obtain ⟨-, q', -, -, -, hq', hfallen⟩ := h.accounted ha (Or.inl hk)
      cases hq.symm.trans hq'
      exact hfallen.held
  have hnamed : ∀ e ∈ st.machine.entities, e.id ≠ COOP_NO_ENTITY := by
    intro e he heq
    rw [h.stage] at he
    have hlt : e.id.toNat < m.nextEntity.toNat := (h.tables.entities e he).id.2
    have hbound := m.nextEntity.toNat_lt
    rw [heq, show COOP_NO_ENTITY.toNat = 4294967295 from rfl] at hlt
    omega
  obtain ⟨hsame₁, hentities⟩ := applyObjectDrops_entities h.guest
    (by rw [h.stage]; exact h.tables.ids) hnamed hdroppable hdrops
  have hsame₂ := applyCheckpoint_same hcheckpoint
  have hsame := hsame₁.trans hsame₂.toSameHoldings
  rw [h.stage] at hsame hentities
  have hexit : ∃ a ∈ st₂.machine.session.actions, a.kind = .is .exit := by
    rw [hsame.actions]
    exact h.exit
  have hreset := applyClear_resets h.guest hexit hclear
  refine ⟨hsame.toSameTables.trans hreset.toSameTables,
    (hreset.entities.trans hsame₂.entities).trans hentities, fun id p hp => ?_⟩
  obtain ⟨q, hq, hfate⟩ := h.settles.fate id p hp
  obtain ⟨q₂, hq₂, hholding⟩ := hsame.player hq
  obtain ⟨r, hr, hcleared⟩ := hreset.player id q₂ hq₂
  have hactor : id ∈ st₂.machine.actors.map CoopActor.player := by
    have hsome := hsame.actor_isSome id
    have hfound : (coopMachineActor { m with session := s } id).isSome :=
      findKey_isSome.2 (List.mem_map.1 (h.actor hp))
    rw [hfound] at hsome
    obtain ⟨a, ha, hid⟩ := findKey_isSome.1 hsome
    exact List.mem_map.2 ⟨a, ha, hid⟩
  rw [if_pos hactor] at hcleared
  exact ⟨q, r, hq, hfate, hr, hcleared.trans (clearedPlayer_holding hholding)⟩

/-- A player out of play that still owns something. -/
def StrandedOwner (p : CoopPlayer) : Prop :=
  p.life ≠ .is .playing ∧ (p.heldObject ≠ COOP_NO_ENTITY ∨ p.mount ≠ COOP_NO_ENTITY)

/-- What a player holds after the frame end: nothing if it fell or was out of play, else the same.
-/
theorem ClearingFrame.holding (h : ClearingFrame emu m s st st') {id : CoopPlayerId}
    {p : CoopPlayer}
    (hp : coopPlayer m.session id = some p) : ∃ r, coopPlayer st'.machine.session id = some r ∧
      (r.heldObject = COOP_NO_ENTITY ∧ r.mount = COOP_NO_ENTITY ∧
          (p.life = .is .playing → ∀ a, Takes p a → a ∈ s.actions) ∨
        r.heldObject = p.heldObject ∧ r.mount = p.mount ∧ p.life = .is .playing) := by
  obtain ⟨q, r, -, hfate, hr, hholding⟩ := h.spec.2.2 id p hp
  have hheld : r.heldObject = (clearedPlayer q).heldObject := congrArg Holding.heldObject hholding
  have hmount : r.mount = (clearedPlayer q).mount := congrArg Holding.mount hholding
  refine ⟨r, hr, ?_⟩
  cases hfate with
  | kept held mount life =>
      by_cases hplay : q.life = .is .playing
      · refine Or.inr ⟨hheld.trans ((if_neg (not_not.2 hplay)).trans held),
          hmount.trans ((if_neg (not_not.2 hplay)).trans mount), life.1 hplay⟩
      · exact Or.inl ⟨hheld.trans (if_pos hplay), hmount.trans (if_pos hplay),
          fun hp => absurd (life.2 hp) hplay⟩
  | fell life fallen told =>
      exact Or.inl ⟨hheld.trans (if_pos fallen.life), hmount.trans (if_pos fallen.life),
        fun _ => told (coopSessionResolve_success h.resolved)⟩

/-- A stranded owner loses its record but not the entity. -/
theorem ClearingFrame.not_valid (h : ClearingFrame emu m s st st') {p : CoopPlayer}
    (hp : p ∈ m.session.players) (hs : StrandedOwner p) : ¬ EntitiesValid st'.machine := by
  intro hvalid
  obtain ⟨hsame, hentities, -⟩ := h.spec
  have hfound : coopPlayer m.session p.id = some p := findKey_of_mem h.roster hp
  obtain ⟨r, hr, hlost⟩ := h.holding hfound
  have hempty : r.heldObject = COOP_NO_ENTITY ∧ r.mount = COOP_NO_ENTITY := by
    rcases hlost with ⟨hheld, hmount, -⟩ | ⟨-, -, hplay⟩
    · exact ⟨hheld, hmount⟩
    · exact absurd hplay hs.1
  -- the player is out of play, so no action names it and its entity stays owned
  have hstays : ∀ e ∈ m.entities, e.owner = p.id → e ∈ st'.machine.entities := by
    intro e he howner
    rw [hentities]
    refine List.mem_map.2 ⟨e, he, if_neg ?_⟩
    rintro ⟨a, ha, -, hplayer, hkind⟩
    obtain ⟨p', -, hp', hlife, -⟩ := h.accounted ha (hkind.symm.imp And.left And.left)
    rw [← hplayer, howner, hfound] at hp'
    cases hp'
    exact hs.1 hlife
  have hnamed : ∀ e ∈ st'.machine.entities, e.id ≠ COOP_NO_ENTITY := by
    intro e he heq
    have hlt : e.id.toNat < st'.machine.nextEntity.toNat := (hvalid.entities e he).id.2
    have hbound := st'.machine.nextEntity.toNat_lt
    rw [heq, show COOP_NO_ENTITY.toNat = 4294967295 from rfl] at hlt
    omega
  have howned := h.tables.players p hp
  rcases hs.2 with hne | hne
  · obtain ⟨e, he, howner, -, hflags⟩ := howned.held hne
    have hmem := hstays e he howner
    rw [← howner] at hr
    exact hnamed e hmem (((hvalid.entities e hmem).held hflags r hr).symm.trans hempty.1)
  · obtain ⟨e, he, howner, -, hflags⟩ := howned.mount hne
    have hmem := hstays e he howner
    rw [← howner] at hr
    exact hnamed e hmem (((hvalid.entities e hmem).ridden hflags r hr).symm.trans hempty.2)

/-- Without stranded owners the player's record and the entity lose together. -/
theorem ClearingFrame.valid (h : ClearingFrame emu m s st st')
    (hs : ∀ p ∈ m.session.players, ¬ StrandedOwner p) : EntitiesValid st'.machine := by
  obtain ⟨hsame, hentities, -⟩ := h.spec
  have hroster : st'.machine.session.players.map CoopPlayer.id =
    m.session.players.map CoopPlayer.id :=
    hsame.roster.trans h.settles.ids
  have hfound : ∀ p ∈ m.session.players, coopPlayer m.session p.id = some p := fun p hp =>
    findKey_of_mem h.roster hp
  have hsettled : ∀ p ∈ m.session.players, ∀ r, coopPlayer st'.machine.session p.id = some r →
      settledPlayer st'.machine.session.players p = r := by
    intro p hp r hr
    obtain ⟨r', hr', hcases⟩ := h.holding (hfound p hp)
    cases hr.symm.trans hr'
    rcases hcases with ⟨hheld, hmount, -⟩ | ⟨hheld, hmount, -⟩
    · exact settledPlayer_eq hr (Or.inr hheld) (Or.inr hmount)
    · exact settledPlayer_eq hr (Or.inl hheld) (Or.inl hmount)
  have hplayers : st'.machine.session.players =
      m.session.players.map (settledPlayer st'.machine.session.players) := by
    refine players_settled h.roster hroster fun p hp => ?_
    obtain ⟨r, hr, -⟩ := h.holding (hfound p hp)
    exact (hsettled p hp r hr).trans (congrArg (Option.getD · p) hr).symm
  have hsameActors : SameActors m st'.machine := ⟨hsame.actors, hsame.fireballs, hsame.level⟩
  refine (release_valid h.tables (fun e => ∃ a ∈ s.actions, Releases a e) hsameActors hsame.next
    hsame.sources hsame.eggs hentities (settledPlayer_clears _) hplayers ?_ ?_).1
  · rintro e he ⟨a, ha, -, hplayer, hkind⟩
    have hflags : e.flags ≠ 0 := by
      rcases hkind with ⟨-, hf⟩ | ⟨-, hf⟩ <;> rw [hf] <;> decide
    refine ⟨hflags, fun p hp howner => ?_⟩
    obtain ⟨p', q, hp', -, -, hq, hfallen⟩ := h.accounted ha (hkind.symm.imp And.left And.left)
    rw [← hplayer, howner, hfound p hp] at hp'
    cases hp'
    obtain ⟨q', r, hq', -, hr, hholding⟩ := h.spec.2.2 p.id p (hfound p hp)
    rw [← hplayer, howner] at hq
    cases hq.symm.trans hq'
    have hheld : r.heldObject = (clearedPlayer q).heldObject := congrArg Holding.heldObject hholding
    have hmount : r.mount = (clearedPlayer q).mount := congrArg Holding.mount hholding
    rw [hsettled p hp r hr]
    exact ⟨fun _ _ => hheld.trans (if_pos hfallen.life),
      fun _ _ => hmount.trans (if_pos hfallen.life)⟩
  · intro e he hkept p hp
    have hid := coopPlayer_id hp
    have hmem := coopPlayer_mem hp
    have hvalid := h.tables.entities e he
    have hnamed : e.id ≠ COOP_NO_ENTITY := by
      intro heq
      have hlt : e.id.toNat < m.nextEntity.toNat := hvalid.id.2
      have hbound := m.nextEntity.toNat_lt
      rw [heq, show COOP_NO_ENTITY.toNat = 4294967295 from rfl] at hlt
      omega
    obtain ⟨r, hr, hcases⟩ := h.holding (hfound p hmem)
    rw [hsettled p hmem r hr]
    -- a player that lost this entity was told, or was stranded
    rcases hcases with ⟨-, -, htold⟩ | ⟨hheld, hmount, -⟩
    · refine ⟨fun hf => absurd ?_ hkept, fun hf => absurd ?_ hkept⟩
      · have hpheld := hvalid.held hf p hp
        have hplay : p.life = .is .playing := by
          by_contra hout
          exact hs p hmem ⟨hout, Or.inl (hpheld ▸ hnamed)⟩
        exact ⟨_, htold hplay _ (Or.inl ⟨hpheld ▸ hnamed, rfl⟩), hpheld.symm, hid.symm,
          Or.inr ⟨rfl, hf⟩⟩
      · have hpmount := hvalid.ridden hf p hp
        have hplay : p.life = .is .playing := by
          by_contra hout
          exact hs p hmem ⟨hout, Or.inr (hpmount ▸ hnamed)⟩
        exact ⟨_, htold hplay _ (Or.inr ⟨hpmount ▸ hnamed, rfl⟩), hpmount.symm, hid.symm,
          Or.inl ⟨rfl, hf⟩⟩
    · exact ⟨fun _ => hheld, fun _ => hmount⟩

/-- **A clear leaves ownership consistent exactly when no stranded player owned anything**: then,
and only then, `entities_valid` holds again at the frame boundary. -/
theorem clear_keeps_ownership (htables : entitiesValid m = true)
    (hroster : (m.session.players.map CoopPlayer.id).Nodup) (hactors : ActorsMatch m)
    (hbegun : m.session.actions = []) (hresolve : coopSessionResolve m.session = (true, s))
    (hexit : ∃ a ∈ s.actions, a.kind = .is .exit) (hstage : st.machine = { m with session := s })
    (hguest : emu.KeepsOwnership) (hruns : applyActionsAndClear emu st = some st') :
    entitiesValid st'.machine = true ↔
      ∀ p ∈ m.session.players, p.life ≠ .is .playing →
        p.heldObject = COOP_NO_ENTITY ∧ p.mount = COOP_NO_ENTITY := by
  have h : ClearingFrame emu m s st st' :=
    ⟨entitiesValid_iff.1 htables, hroster, hactors, hbegun, hresolve, hexit, hstage, hguest, hruns⟩
  rw [entitiesValid_iff]
  constructor
  · intro hvalid p hp hlife
    by_contra howns
    refine h.not_valid hp ⟨hlife, ?_⟩ hvalid
    by_cases hheld : p.heldObject = COOP_NO_ENTITY
    · exact Or.inr fun hmount => howns ⟨hheld, hmount⟩
    · exact Or.inl hheld
  · intro hnone
    refine h.valid fun p hp hs => ?_
    obtain ⟨hheld, hmount⟩ := hnone p hp hs.1
    exact hs.2.elim (fun hne => hne hheld) fun hne => hne hmount

end FrameEnd

/-! ## Two clears -/

/-- An emulator whose guest routines do nothing. -/
def idleEmulator : Emulator Unit := ⟨fun _ _ st => some st, fun now _ => now⟩

theorem idleEmulator_keeps : idleEmulator.KeepsOwnership := by
  intro entry slot st st' h
  cases h
  exact SameOwnership.refl _

/-- The second of two players rides entity 1; the first one's exit is stored. -/
def ridingMachine (life : CoopLifeState) (events : List CoopEvent) : CoopMachine :=
  let m := freshMachine pairSession (pairSession.players.mapIdx initActor)
  { m with
    session := { m.session with
      players := [initPlayer 0, { initPlayer 1 with life := .is life, mount := 1 }]
      advancing := true
      events := ⟨.is .exit, 0, COOP_NO_ENTITY, 0, 0, 0⟩ :: events }
    entities := [{ spawnedEntity 1 COOP_ENTITY_NORMAL 4 0x35 with
      owner := 1, flags := COOP_ENTITY_RIDDEN }]
    nextEntity := 2
    mountsInitialized := true }

def resolvedStage (m : CoopMachine) : Stage Unit where
  machine := { m with session := (coopSessionResolve m.session).2 }
  ram := fun _ => 0
  goalContact := false
  goalActor := COOP_NO_PLAYER
  goalEntity := COOP_NO_ENTITY
  goalStars := 0
  frozenGoalScore := 6
  emulator := ()

/-- The rider is killed in the frame of the exit. -/
def killedRider : CoopMachine :=
  ridingMachine .playing [⟨.is .death, 1, COOP_NO_ENTITY, 0, COOP_EVENT_LETHAL, 0⟩]

/-- The rider is in a catch-up bubble. -/
def bubbleRider : CoopMachine := ridingMachine .catchupBubble []

theorem killedRider_runs :
    ∃ st, applyActionsAndClear idleEmulator (resolvedStage killedRider) = some st :=
  Option.isSome_iff_exists.1 (by decide)

theorem clear_keeps_ownership_killed : ∃ st,
    applyActionsAndClear idleEmulator (resolvedStage killedRider) = some st ∧
      entitiesValid st.machine = true := by
  obtain ⟨st, hst⟩ := killedRider_runs
  have hiff :=
    clear_keeps_ownership (m := killedRider) (by decide) (by decide) (List.Perm.refl _) rfl
    (Prod.ext_iff.2 ⟨by decide, rfl⟩) (by decide) rfl idleEmulator_keeps hst
  exact ⟨st, hst, hiff.2 (by decide)⟩

/-- A bubble that still rides leaves a ridden mount that nobody rides. -/
theorem bubble_mount_breaks_ownership :
    entitiesValid bubbleRider = true ∧ valid bubbleRider.session = true ∧ ActorsMatch bubbleRider ∧
    bubbleRider.session.actions = [] ∧ (coopSessionResolve bubbleRider.session).1 = true ∧
    (∃ a ∈ (coopSessionResolve bubbleRider.session).2.actions, a.kind = .is .exit) ∧
    idleEmulator.KeepsOwnership ∧
    ∃ st, applyActionsAndClear idleEmulator (resolvedStage bubbleRider) = some st ∧
      entitiesValid st.machine = false := by
  have hruns : (applyActionsAndClear idleEmulator (resolvedStage bubbleRider)).map
      (fun st => entitiesValid st.machine) = some false := by decide
  exact ⟨by decide, by decide, List.Perm.refl _, rfl, by decide, by decide, idleEmulator_keeps,
    Option.map_eq_some_iff.1 hruns⟩

end SmwRecomp.Coop
