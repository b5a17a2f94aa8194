import SmwRecomp.Coop.RoomCarry
import Mathlib.Data.List.Pairwise
import Mathlib.Tactic.IntervalCases

/-!
# A room transition keeps identities

* `spawn_free` — a spawn in a free slot forgets nothing.
* `Remounts` — one rider gets its mount back, under the identity it stored.
* `Settled` — the riders so far; `settleRoom_settles` — all of them.
* `room_transition` — `load_room_sprites` as a whole.
-/

set_option autoImplicit false

namespace SmwRecomp.Coop

variable {κ : Type} {m n m₀ : CoopMachine}

/-! ## One mount comes back -/

theorem spawn_free {kind slot type : UInt32} {e : CoopEntity}
    (hfree : coopMachineEntitySlot m kind slot = none)
    (hspawn : coopMachineSpawnEntity m kind slot type = (some e, n)) :
    ∃ capacity rest, entitySlotValid kind slot = true ∧ type ≤ 255 ∧ m.nextEntity ≠ COOP_NO_ENTITY ∧
      e = spawnedEntity m.nextEntity kind slot type ∧
      n = { m.withAllocator rest with
        entityCapacity := capacity, entities := m.entities ++ [e], nextEntity :=
        m.nextEntity + 1 } := by
  unfold coopMachineSpawnEntity at hspawn
  split at hspawn
  · cases hspawn
  rename_i hguard
  rw [not_or, not_or, Bool.not_eq_false, UInt32.not_lt] at hguard
  split at hspawn
  · cases hspawn
  rename_i capacity rest _
  have hslot : coopMachineEntitySlot { m.withAllocator rest with entityCapacity := capacity } kind
    slot = none :=
    hfree
  dsimp only at hspawn
  rw [hslot] at hspawn
  obtain ⟨he, hn⟩ := Prod.mk.inj hspawn
  cases he
  exact ⟨capacity, rest, hguard.1, hguard.2.1, hguard.2.2, rfl, hn.symm⟩

/-- What `remount` makes of the tables. -/
structure Remount (m n : CoopMachine) (a : CoopActor) (p : CoopPlayer) (f : CoopEntity) : Prop where
  next : n.nextEntity = m.nextEntity + 1
  room : m.nextEntity ≠ COOP_NO_ENTITY
  sources : n.sources = m.sources
  eggs : n.placedEggs = m.placedEggs
  level : n.level = m.level
  fireballs : n.fireballsInitialized = m.fireballsInitialized
  actors : n.actors = putKey CoopActor.player
    { a with storedMount := 0, storedMountColor := 0 } m.actors
  players : n.session.players = putKey CoopPlayer.id { p with mount := f.id } m.session.players
  entities : n.entities = m.entities ++ [f]

theorem remount_eq {ram : Ram} {slot : UInt32} {P : CoopPlayerId} {a : CoopActor} {p : CoopPlayer}
    (h : EntitiesValid m) (hfree : coopMachineEntitySlot m COOP_ENTITY_NORMAL slot = none)
    (ha : coopMachineActor m P = some a) (hp : coopPlayer m.session P = some p)
    (hrun : remount m ram slot P = some n) :
    ∃ f, Remount m n a p f ∧ f = returnedMount (spawnedEntity m.nextEntity COOP_ENTITY_NORMAL slot
      (ram (0x9e + slot.toNat)).toUInt32) a ram ∧
      entitySlotValid COOP_ENTITY_NORMAL slot = true := by
  obtain ⟨⟨e, m₁⟩, hnormal, hrun⟩ := Option.bind_eq_some_iff.1 hrun
  obtain ⟨a', ha', hrun⟩ := Option.bind_eq_some_iff.1 hrun
  obtain ⟨p', hp', hrun⟩ := Option.bind_eq_some_iff.1 hrun
  have hspawn : coopMachineSpawnEntity m COOP_ENTITY_NORMAL slot
    (ram (0x9e + slot.toNat)).toUInt32 =
      (some e, m₁) := by
    unfold normalEntity at hnormal
    rw [if_pos rfl] at hnormal
    dsimp only at hnormal
    split at hnormal
    · rename_i e' m' heq
      cases hnormal
      exact heq
    · cases hnormal
  obtain ⟨capacity, rest, hslot, -, hroom, he, rfl⟩ := spawn_free hfree hspawn
  have hsame : a' = a := Option.some.inj (ha'.symm.trans ha)
  have hsamep : p' = p := Option.some.inj (hp'.symm.trans hp)
  subst hsame hsamep
  refine ⟨returnedMount e a' ram, ?_, by rw [he], hslot⟩
  have hnew : ∀ g ∈ m.entities, ¬ g.id = e.id := by
    intro g hg heq
    have hlt := (h.entities g hg).id.2
    rw [heq, he] at hlt
    exact UInt32.lt_irrefl _ hlt
  have hentities : (m.entities ++ [e]).map (fun g : CoopEntity =>
      if g.id = e.id then returnedMount e a' ram else g) =
        m.entities ++ [returnedMount e a' ram] := by
    rw [List.map_append, List.map_cons, List.map_nil, if_pos rfl]
    conv_rhs => rw [← List.map_id m.entities]
    congr 1
    exact List.map_congr_left fun g hg => if_neg (hnew g hg)
  cases hrun
  exact ⟨rfl, hroom, rfl, rfl, rfl, rfl, rfl, rfl, hentities⟩

/-- `a` has given its stored mount away, and an identity has been used up. -/
def unstored (m : CoopMachine) (a : CoopActor) : CoopMachine :=
  putActor { m with nextEntity := m.nextEntity + 1 }
    { a with storedMount := 0, storedMountColor := 0 }

theorem unstored_valid (h : Standing m) {a : CoopActor} (ha : a ∈ m.actors)
    (hroom : m.nextEntity ≠ COOP_NO_ENTITY) : EntitiesValid (unstored m a) := by
  have hlt := lt_succ_of_ne hroom
  refine stored_valid h.tables h.actorKeys ha (UInt32.le_of_lt hlt) (fun h0 => ?_)
    ⟨by decide, fun _ => rfl⟩ (fun hne => absurd rfl hne) (fun hne => absurd rfl hne)
    (fun hne => absurd rfl hne) (fun hne => absurd rfl hne) fun hne => absurd rfl hne
  rw [h0] at hlt
  exact absurd hlt (Nat.not_lt_zero _)

theorem mem_unstored (h : Standing m) {a b : CoopActor} (hb : b ∈ (unstored m a).actors) :
    (b.player = a.player ∧ b.storedMount = 0) ∨ (b ∈ m.actors ∧ b.player ≠ a.player) := by
  have hput : (unstored m a).actors = m.actors.map (fun c => if c.player = a.player then
      { a with storedMount := 0, storedMountColor := 0 } else c) := putKey_eq_map h.actorKeys
  rw [hput] at hb
  obtain ⟨c, hc, rfl⟩ := List.mem_map.1 hb
  by_cases hp : c.player = a.player
  · rw [if_pos hp]
    exact Or.inl ⟨rfl, rfl⟩
  · rw [if_neg hp]
    exact Or.inr ⟨hc, hp⟩

/-- The stored identity of one actor is not another's. -/
theorem EntitiesValid.stored_ne (h : EntitiesValid m) {a b : CoopActor} (ha : a ∈ m.actors)
    (hb : b ∈ m.actors) (hab : b ≠ a) (hne : a.storedMount ≠ 0) :
    b.storedMount ≠ a.storedMount := by
  have hsymm : Std.Symm
    (fun a b : CoopActor => (b.storedMount ≠ 0 → a.storedMount ≠ b.storedMount) ∧
      (a.storedMount ≠ 0 → b.storedMount ≠ a.storedMount)) := ⟨fun _ _ h => ⟨h.2, h.1⟩⟩
  exact (h.storedApart.forall hb ha hab).1 hne

section Remount

variable {a : CoopActor} {p : CoopPlayer} {slot : UInt32} {ram : Ram} {P : CoopPlayerId}
  {f : CoopEntity}

theorem Remount.adds (h : Remount m n a p f) (hm : Standing m)
    (hp : coopPlayer m.session P = some p)
    (howner : f.owner = P) (hflags : f.flags = COOP_ENTITY_RIDDEN) : Adds (unstored m a) n f := by
  refine ⟨⟨?_, h.fireballs, h.level⟩, h.sources, h.eggs, UInt32.le_of_eq h.next.symm,
    h.entities, ?_⟩
  · rw [h.actors]
    rfl
  · show n.session.players = m.session.players.map (CoopPlayer.claimed f)
    have hfound : coopPlayer m.session f.owner = some p := by
      rw [howner]
      exact hp
    have hid : p.id = f.owner := (coopPlayer_id hp).trans howner.symm
    rw [← putKey_claimed hm.roster hfound, claimed_ridden_eq hflags hid]
    exact h.players

/-- What getting its mount back does to a rider, and to the others. -/
structure Remounts (m n : CoopMachine) (P : CoopPlayerId) (id : CoopEntityId) : Prop where
  standing : Standing n
  roster : n.session.players.map CoopPlayer.id = m.session.players.map CoopPlayer.id
  actors : n.actors.map CoopActor.player = m.actors.map CoopActor.player
  entities : ∀ e ∈ m.entities, e ∈ n.entities
  player : ∀ P' p, coopPlayer m.session P' = some p → ∃ q, coopPlayer n.session P' = some q ∧
    q.mount = if P' = P then id else p.mount
  stored : ∀ P' b, coopMachineActor m P' = some b → ∃ c, coopMachineActor n P' = some c ∧
    c.storedMount = if P' = P then 0 else b.storedMount

theorem returnedMount_sound (hm : Standing m) (ha : coopMachineActor m P = some a)
    (hp : coopPlayer m.session P = some p) (hstored : a.storedMount ≠ 0)
    (hslot : entitySlotValid COOP_ENTITY_NORMAL slot = true)
    (htype : ram (0x9e + slot.toNat) = 0x35) :
    Sound m (returnedMount (spawnedEntity m.nextEntity COOP_ENTITY_NORMAL slot
      (ram (0x9e + slot.toNat)).toUInt32) a ram) := by
  obtain ⟨hmem, hplayer⟩ := findKey_some ha
  have hnobody : a.player ≠ COOP_NO_PLAYER := by
    rw [hplayer, ← coopPlayer_id hp]
    exact hm.named p (coopPlayer_mem hp)
  have hpresent : Present m.session.players a.player :=
    ⟨p, coopPlayer_mem hp, (coopPlayer_id hp).trans hplayer.symm⟩
  rw [htype]
  exact {
    mount := fun _ => ⟨rfl, rfl⟩
    id := ⟨hstored, (hm.tables.stored a hmem).id hstored⟩
    slot := hslot
    type := by show (0x35 : UInt8).toUInt32 ≤ 255; decide
    flags := ⟨by show COOP_ENTITY_RIDDEN &&& ~~~15 = 0; decide,
      fun _ => by show COOP_ENTITY_RIDDEN &&& (COOP_ENTITY_RIDDEN - 1) = 0; decide⟩
    owner := fun _ => hpresent
    target := fun hne => absurd rfl hne
    owned := ⟨fun heq => absurd heq hnobody,
      fun h0 => absurd h0 (by decide : COOP_ENTITY_RIDDEN ≠ 0)⟩
    normal := fun _ => rfl }

theorem returnedMount_new (hm : Standing m) (ha : coopMachineActor m P = some a)
    (hstored : a.storedMount ≠ 0) (hfree : coopMachineEntitySlot m COOP_ENTITY_NORMAL slot = none)
    {e : CoopEntity} (he : e.kind = COOP_ENTITY_NORMAL ∧ e.slot = slot) :
    New (unstored m a) (returnedMount e a ram) := by
  obtain ⟨hmem, hplayer⟩ := findKey_some ha
  have hvalid := hm.tables.stored a hmem
  have hfireballs : (unstored m a).fireballs = m.fireballs :=
    putActor_fireballs (m := { m with nextEntity := m.nextEntity + 1 }) hm.actorKeys hmem rfl rfl
  constructor
  · exact hvalid.entity hstored
  · intro g hg heq
    refine findKey_eq_none.1 hfree g hg (heq.trans ?_)
    show (e.kind, e.slot) = (COOP_ENTITY_NORMAL, slot)
    rw [he.1, he.2]
  · intro b hb hne
    rcases mem_unstored hm hb with ⟨-, h0⟩ | ⟨hb, hother⟩
    · exact absurd h0 hne
    · exact hm.tables.stored_ne hmem hb (fun heq => hother (by rw [heq])) hstored
  · intro g hg _
    rw [hfireballs] at hg
    exact hvalid.fireball hstored g hg
  · intro hflags
    exact absurd hflags (by show COOP_ENTITY_RIDDEN ≠ COOP_ENTITY_HELD; decide)
  · intro _ q hq
    obtain ⟨q', hq', hmount⟩ := hvalid.rider hstored
    have hsame : q = q' := Option.some.inj (hq.symm.trans hq')
    rw [hsame]
    exact hmount
  · intro _ b hb hsame
    rcases mem_unstored hm hb with ⟨-, h0⟩ | ⟨-, hother⟩
    · exact h0
    · exact absurd hsame hother

theorem remount_remounts (hm : Standing m) (ha : coopMachineActor m P = some a)
    (hstored : a.storedMount ≠ 0) (hfree : coopMachineEntitySlot m COOP_ENTITY_NORMAL slot = none)
    (htype : ram (0x9e + slot.toNat) = 0x35) (hrun : remount m ram slot P = some n) :
    Remounts m n P a.storedMount := by
  obtain ⟨hmem, hplayer⟩ := findKey_some ha
  obtain ⟨p, hp⟩ := hm.actors.player ha
  obtain ⟨f, hremount, hf, hslot⟩ := remount_eq hm.tables hfree ha hp hrun
  have hfid : f.id = a.storedMount := by rw [hf]; rfl
  have hfowner : f.owner = P := by rw [hf]; exact hplayer
  have hfflags : f.flags = COOP_ENTITY_RIDDEN := by rw [hf]; rfl
  have hadds := hremount.adds hm hp hfowner hfflags
  have hroster : n.session.players.map CoopPlayer.id = m.session.players.map CoopPlayer.id :=
    hadds.roster
  have hactors : n.actors.map CoopActor.player = m.actors.map CoopActor.player := by
    rw [hremount.actors]
    exact map_key_putKey _ _
  have hnext : m.nextEntity ≤ n.nextEntity := by
    rw [hremount.next]
    exact UInt32.le_of_lt (lt_succ_of_ne hremount.room)
  have hsound : Sound n f := by
    rw [hf]
    exact (returnedMount_sound hm ha hp hstored hslot htype).mono hroster hnext
  have hnew : New (unstored m a) f := by
    rw [hf]
    exact returnedMount_new hm ha hstored hfree ⟨rfl, rfl⟩
  have hvalid := adds_valid (unstored_valid hm hmem hremount.room) hadds hsound hnew
  refine ⟨hm.of_tables hvalid hroster hactors, hroster, hactors,
    fun e he => hadds.mem.2 (Or.inl he), fun P' q hq => ?_, fun P' b hb => ?_⟩
  · refine ⟨q.claimed f, ?_, ?_⟩
    · rw [hadds.player]
      show (coopPlayer m.session P').map (CoopPlayer.claimed f) = _
      rw [hq]
      rfl
    · rw [q.claimed_mount, coopPlayer_id hq, hfowner, hfflags, hfid]
      simp
  · have hfind : coopMachineActor n P' = if P' = a.player then
        (coopMachineActor m P').map (fun _ => { a with storedMount := 0, storedMountColor := 0 })
        else coopMachineActor m P' := by
      unfold coopMachineActor
      rw [hremount.actors]
      exact findKey_putKey _ P' m.actors
    rw [hfind, hplayer, hb]
    by_cases hsame : P' = P
    · rw [if_pos hsame, if_pos hsame]
      exact ⟨_, rfl, rfl⟩
    · rw [if_neg hsame, if_neg hsame]
      exact ⟨b, rfl, rfl⟩

end Remount

/-! ## Everybody settles -/

/-- The mount entrance puts its Yoshi in a slot no entity occupies. -/
def Emulator.SpawnsFree (emu : Emulator κ) : Prop :=
  ∀ st st', emu.guestJsr 0x00fc7a 0 st = some st' →
    coopMachineEntitySlot st'.machine COOP_ENTITY_NORMAL (entranceSlot st'.ram) = none

variable {emu : Emulator κ}

theorem clearPictures_same {P : CoopPlayerId} (h : clearPictures m P = some n) :
    SameOwnership m n := by
  obtain ⟨a, ha, h⟩ := Option.bind_eq_some_iff.1 h
  cases h
  have hfind : findKey CoopActor.player a.player m.actors = some a := by
    rw [(findKey_some ha).2]
    exact ha
  exact { SameOwnership.refl m with
    actors := map_putKey (a := a) (b := { a with pending := [], visible := [] }) rfl hfind }

theorem mountRider_remounts {completed st st' : Stage κ} {P : CoopPlayerId} {a : CoopActor}
    (hemu : emu.KeepsOwnership) (hspawn : emu.SpawnsFree) (h : Standing st.machine)
    (ha : coopMachineActor st.machine P = some a) (hstored : a.storedMount ≠ 0)
    (hrun : mountRider emu completed a st = some st') :
    ∃ m, SameOwnership st.machine m ∧ Remounts m st'.machine P a.storedMount := by
  obtain ⟨st₁, hjsr, hrun⟩ := Option.bind_eq_some_iff.1 hrun
  have hsame : SameOwnership st.machine st₁.machine := (hemu _ _ _ _ hjsr :)
  dsimp only at hrun
  split at hrun
  · cases hrun
  rename_i hguard
  rw [not_or, not_or, not_ne_iff, not_ne_iff] at hguard
  obtain ⟨n, hremount, hrun⟩ := Option.bind_eq_some_iff.1 hrun
  cases hrun
  obtain ⟨b, hb, hmount⟩ := hsame.toSameActors.storedMount ha
  rw [(findKey_some ha).2] at hremount
  rw [← hmount] at hstored ⊢
  exact ⟨st₁.machine, hsame,
    remount_remounts (h.same hsame) hb hstored (hspawn _ _ hjsr) hguard.2.1 hremount⟩

/-- The riders in `done` have been seen to; `allowed` says whether the room admits mounts. -/
structure Settled (m₀ : CoopMachine) (allowed : Bool) (done : List CoopPlayerId)
    (m : CoopMachine) : Prop where
  standing : Standing m
  roster : m.session.players.map CoopPlayer.id = m₀.session.players.map CoopPlayer.id
  actors : m.actors.map CoopActor.player = m₀.actors.map CoopActor.player
  entities : ∀ e ∈ m₀.entities, e ∈ m.entities
  fate : ∀ P a, coopMachineActor m₀ P = some a → a.storedMount ≠ 0 →
    (∃ b, coopMachineActor m P = some b ∧ b.storedMount = a.storedMount ∧
      (P ∈ done → allowed = false)) ∨
    (allowed = true ∧ ∃ q, coopPlayer m.session P = some q ∧ q.mount = a.storedMount)

theorem Settled.start (h : Standing m) (allowed : Bool) : Settled m allowed [] m :=
  ⟨h, rfl, rfl, fun _ he => he, fun _ a ha _ =>
    Or.inl ⟨a, ha, rfl, fun hP => absurd hP List.not_mem_nil⟩⟩

theorem Settled.same {allowed : Bool} {done : List CoopPlayerId} (h : Settled m₀ allowed done m)
    (hsame : SameOwnership m n) : Settled m₀ allowed done n := by
  refine ⟨h.standing.same hsame, hsame.roster.trans h.roster,
    hsame.toSameActors.players.trans h.actors, fun e he =>
    hsame.entities ▸ h.entities e he, fun P a ha hne => ?_⟩
  rcases h.fate P a ha hne with ⟨b, hb, hmount, hdone⟩ | ⟨hallowed, q, hq, hmount⟩
  · obtain ⟨c, hc, hsamestored⟩ := hsame.toSameActors.storedMount hb
    exact Or.inl ⟨c, hc, hsamestored.trans hmount, hdone⟩
  · obtain ⟨r, hr, hholding⟩ := hsame.toSameHoldings.player hq
    have hmountr : r.mount = q.mount := congrArg Holding.mount hholding
    exact Or.inr ⟨hallowed, r, hr, hmountr.trans hmount⟩

/-- A rider that keeps what it has stored: nothing, or the room admits no mounts. -/
theorem Settled.pass {allowed : Bool} {done : List CoopPlayerId} (h : Settled m₀ allowed done m)
    {P : CoopPlayerId} {b : CoopActor} (hb : coopMachineActor m P = some b)
    (hstays : b.storedMount ≠ 0 → allowed = false) : Settled m₀ allowed (done ++ [P]) m := by
  refine ⟨h.standing, h.roster, h.actors, h.entities, fun P' a ha hne => ?_⟩
  rcases h.fate P' a ha hne with ⟨c, hc, hmount, hdone⟩ | hrides
  · refine Or.inl ⟨c, hc, hmount, fun hP => ?_⟩
    rcases List.mem_append.1 hP with hP | hP
    · exact hdone hP
    · rw [List.mem_singleton.1 hP] at hc
      cases hb.symm.trans hc
      exact hstays (by rw [hmount]; exact hne)
  · exact Or.inr hrides

/-- A rider that gets its mount back. -/
theorem Settled.mount {done : List CoopPlayerId} (h₀ : EntitiesValid m₀)
    (h : Settled m₀ true done m)
    {P : CoopPlayerId}
    {b : CoopActor} (hb : coopMachineActor m P = some b) (hstored : b.storedMount ≠ 0)
    (hremounts : Remounts m n P b.storedMount) : Settled m₀ true (done ++ [P]) n := by
  refine ⟨hremounts.standing, hremounts.roster.trans h.roster, hremounts.actors.trans h.actors,
    fun e he => hremounts.entities e (h.entities e he), fun P' a ha hne => ?_⟩
  have hvalid := h.standing.tables
  obtain ⟨p, hp, hfoot⟩ := (hvalid.stored b (findKey_some hb).1).rider hstored
  rw [(findKey_some hb).2] at hp
  rcases h.fate P' a ha hne with ⟨c, hc, hmount, hdone⟩ | ⟨-, q, hq, hmount⟩
  · by_cases hsame : P' = P
    · rw [hsame] at hc
      cases hb.symm.trans hc
      obtain ⟨q, hq, hnow⟩ := hremounts.player P p hp
      rw [if_pos rfl] at hnow
      exact Or.inr ⟨rfl, q, hsame ▸ hq, hnow.trans hmount⟩
    · obtain ⟨d, hd, hnow⟩ := hremounts.stored P' c hc
      rw [if_neg hsame] at hnow
      refine Or.inl ⟨d, hd, hnow.trans hmount, fun hP => ?_⟩
      rcases List.mem_append.1 hP with hP | hP
      · exact hdone hP
      · exact absurd (List.mem_singleton.1 hP) hsame
  · have hother : P' ≠ P := by
      -- who stores a mount rides none
      intro hsame
      rw [hsame, hp] at hq
      cases hq
      refine ne_noEntity_of_lt ((h₀.stored a (findKey_some ha).1).id hne) ?_
      rw [← hmount]
      exact hfoot
    obtain ⟨r, hr, hnow⟩ := hremounts.player P' q hq
    rw [if_neg hother] at hnow
    exact Or.inr ⟨rfl, r, hr, hnow.trans hmount⟩

theorem settleRider_settles {completed st st' : Stage κ} {done : List CoopPlayerId}
    {P : CoopPlayerId}
    (hemu : emu.KeepsOwnership) (hspawn : emu.SpawnsFree) (h₀ : EntitiesValid m₀)
    (h : Settled m₀ (mountsAllowed completed.ram) done st.machine)
    (hstep : settleRider emu completed st P = some st') :
    Settled m₀ (mountsAllowed completed.ram) (done ++ [P]) st'.machine := by
  obtain ⟨a, ha, hstep⟩ := Option.bind_eq_some_iff.1 hstep
  obtain ⟨p, -, hstep⟩ := Option.bind_eq_some_iff.1 hstep
  obtain ⟨st₁, hreturn, hstep⟩ := Option.bind_eq_some_iff.1 hstep
  obtain ⟨st₂, hcapture, hstep⟩ := Option.bind_eq_some_iff.1 hstep
  obtain ⟨n, hclear, hstep⟩ := Option.bind_eq_some_iff.1 hstep
  cases hstep
  refine Settled.same ?_ ((capture_same hcapture).trans (clearPictures_same hclear))
  unfold returnMount at hreturn
  split at hreturn
  · rename_i hmounts
    obtain ⟨m, hsame, hremounts⟩ :=
      mountRider_remounts hemu hspawn (by exact h.standing) (by exact ha)
      hmounts.1 hreturn
    obtain ⟨b, hb, hmount⟩ := hsame.toSameActors.storedMount ha
    rw [hmounts.2] at h ⊢
    rw [← hmount] at hremounts
    exact (h.same hsame).mount h₀ hb (by rw [hmount]; exact hmounts.1) hremounts
  · rename_i hmounts
    cases hreturn
    refine h.pass ha fun hne => ?_
    rw [← Bool.not_eq_true]
    exact fun hallowed => hmounts ⟨hne, hallowed⟩

theorem restorePrimaryMount_machine {st st' : Stage κ} (h : restorePrimaryMount st = some st') :
    st'.machine = st.machine := by
  obtain ⟨a, -, h⟩ := Option.bind_eq_some_iff.1 h
  dsimp only at h
  split at h <;> cases h <;> rfl

theorem settleRoom_settles {completed st' : Stage κ} (hemu : emu.KeepsOwnership)
    (hspawn : emu.SpawnsFree)
    (h : Standing completed.machine) (hrun : settleRoom emu completed = some st') :
    Settled completed.machine (mountsAllowed completed.ram)
      (completed.machine.actors.map CoopActor.player) st'.machine := by
  obtain ⟨st₁, hloop, hrun⟩ := Option.bind_eq_some_iff.1 hrun
  obtain ⟨st₂, hbind, hrestore⟩ := Option.bind_eq_some_iff.1 hrun
  have hsettled := foldlM_prefix (P := fun done (s : Stage κ) =>
    Settled completed.machine (mountsAllowed completed.ram) done s.machine)
    (fun done s P s' hs hstep => settleRider_settles hemu hspawn h.tables hs hstep)
    (Settled.start h _) hloop
  rw [List.nil_append] at hsettled
  rw [restorePrimaryMount_machine hrestore, bindPrimary_machine hbind]
  exact hsettled.same { SameOwnership.refl st₁.machine with }

/-! ## The transition -/

/-- Who an entity's identity is named by, its record tells. -/
theorem EntitiesValid.held_iff (h : EntitiesValid m) {e : CoopEntity} (he : e ∈ m.entities)
    {P : CoopPlayerId} {p : CoopPlayer} (hp : coopPlayer m.session P = some p) :
    p.heldObject = e.id ↔ e.owner = P ∧ e.flags = COOP_ENTITY_HELD := by
  constructor
  · intro heq
    have hne : p.heldObject ≠ COOP_NO_ENTITY := heq ▸ h.named e he
    obtain ⟨f, hf, howner, hid, hflags⟩ := (h.players p (coopPlayer_mem hp)).held hne
    have hfe : f = e := List.inj_on_of_nodup_map h.ids hf he (hid.trans heq)
    rw [← hfe]
    exact ⟨howner.trans (coopPlayer_id hp), hflags⟩
  · rintro ⟨howner, hflags⟩
    exact (h.entities e he).held hflags p (by rw [howner]; exact hp)

/-- The identities of the entities and of the stored mounts. -/
def CoopMachine.identities (m : CoopMachine) : List CoopEntityId :=
  m.entities.map CoopEntity.id ++ (m.actors.map CoopActor.storedMount).filter
    (fun id => decide (id ≠ 0))

theorem EntitiesValid.identities_nodup (h : EntitiesValid m) : m.identities.Nodup := by
  unfold CoopMachine.identities
  rw [List.nodup_append]
  refine ⟨h.ids, ?_, ?_⟩
  · show List.Pairwise _ _
    rw [List.pairwise_filter, List.pairwise_map]
    exact h.storedApart.imp fun hab _ hb => hab.1 (of_decide_eq_true hb)
  · intro id hid id' hid' heq
    obtain ⟨e, he, rfl⟩ := List.mem_map.1 hid
    obtain ⟨hmem, hne⟩ := List.mem_filter.1 hid'
    obtain ⟨a, ha, rfl⟩ := List.mem_map.1 hmem
    exact (h.stored a ha).entity (of_decide_eq_true hne) e he heq

/-- What a rider of `m` has in `n`: its mount, or where the room admits none, the mount stored. -/
def KeepsMount (m n : CoopMachine) (allowed : Bool) : Prop :=
  ∀ P p, coopPlayer m.session P = some p → p.mount ≠ COOP_NO_ENTITY →
    (allowed = true ∧ ∃ q, coopPlayer n.session P = some q ∧ q.mount = p.mount ∧
      ∃ f ∈ n.entities, f.id = p.mount ∧ f.owner = P ∧ f.flags = COOP_ENTITY_RIDDEN) ∨
    (allowed = false ∧ ∃ b, coopMachineActor n P = some b ∧ b.storedMount = p.mount)

/-- A carried entity, wherever it is now, held by the same player. -/
def KeepsCarried (m n : CoopMachine) (e : CoopEntity) : Prop :=
  ∃ f ∈ n.entities, f.id = e.id ∧ f.type = e.type ∧ f.owner = e.owner ∧ f.flags = e.flags ∧
    ∀ P p q, coopPlayer m.session P = some p → coopPlayer n.session P = some q →
      (p.heldObject = e.id ↔ q.heldObject = f.id)

/-- **A room transition keeps identities.** -/
theorem room_transition {loader : RoomLoader κ} {st st' : Stage κ} (hemu : emu.KeepsOwnership)
    (hspawn : emu.SpawnsFree) (hloader : loader.KeepsOwnership)
    (hvalid : entitiesValid st.machine = true)
    (hroster : (st.machine.session.players.map CoopPlayer.id).Nodup)
    (hnamed : ∀ p ∈ st.machine.session.players, p.id ≠ COOP_NO_PLAYER)
    (hactors : ActorsMatch st.machine)
    (hrun : loadRoomSprites emu loader st = some st') :
    entitiesValid st'.machine = true ∧
      (∀ e, Carried st.machine st.ram e → KeepsCarried st.machine st'.machine e) ∧
      (∃ entered, enterRoom emu loader st = some entered ∧
        KeepsMount st.machine st'.machine (mountsAllowed entered.ram)) ∧
      st'.machine.identities.Nodup := by
  have h₀ : EntitiesValid st.machine := entitiesValid_iff.1 hvalid
  have h : Standing st.machine := ⟨h₀, hroster, hnamed, hactors⟩
  obtain ⟨entered, henter, hsettle⟩ := Option.bind_eq_some_iff.1 hrun
  obtain ⟨hready, hcarried⟩ := enterRoom_spec hemu hloader h henter
  have hsettled := settleRoom_settles hemu hspawn hready.standing hsettle
  have h₁ := hsettled.standing.tables
  refine ⟨entitiesValid_iff.2 h₁, fun e he => ?_, ⟨entered, henter, fun P p hp hne => ?_⟩,
    h₁.identities_nodup⟩
  · obtain ⟨f, hf, hmoved⟩ := hcarried e he
    have hmem := hsettled.entities f hf
    have hid : f.id = e.id := by rw [hmoved]
    have howner : f.owner = e.owner := by rw [hmoved]
    have hflags : f.flags = e.flags := by rw [hmoved]
    refine ⟨f, hmem, hid, by rw [hmoved], howner, hflags, fun P p q hp hq => ?_⟩
    rw [h₀.held_iff he.mem hp, h₁.held_iff hmem hq, howner, hflags]
  · obtain ⟨a, ha, hstored⟩ := hready.stored P p hp hne
    have hzero := h₀.mount_ne_zero hp hne
    rcases hsettled.fate P a ha (by rw [hstored]; exact hzero) with
      ⟨b, hb, hmount, hdone⟩ | ⟨hallowed, q, hq, hmount⟩
    · have hactor : P ∈ entered.machine.actors.map CoopActor.player := by
        rw [← (findKey_some ha).2]
        exact List.mem_map_of_mem (findKey_some ha).1
      exact Or.inr ⟨hdone hactor, b, hb, hmount.trans hstored⟩
    · have hrides : q.mount ≠ COOP_NO_ENTITY := by
        rw [hmount, hstored]
        exact hne
      obtain ⟨f, hf, howner, hid, hflags⟩ := (h₁.players q (coopPlayer_mem hq)).mount hrides
      exact Or.inl ⟨hallowed, q, hq, hmount.trans hstored, f, hf, hid.trans (hmount.trans hstored),
        howner.trans (coopPlayer_id hq), hflags⟩

/-! ## A crew changes rooms -/

/-- Guest memory once a Yoshi has arrived in `slot`. -/
def yoshiRam (ram : Ram) (slot : Nat) : Ram :=
  ((ram.put 0x18e2 (slot + 1).toUInt8).put (0x9e + slot) 0x35).put (0x14c8 + slot) 8

/-- An emulator whose mount entrance takes the highest free slot. -/
def yoshiEmulator : Emulator Unit where
  guestJsr := fun entry _ st =>
    if entry = 0x00fc7a then
      (((List.range 12).reverse).find? fun slot =>
        (coopMachineEntitySlot st.machine COOP_ENTITY_NORMAL (UInt32.ofNat slot)).isNone).map
          fun slot => { st with ram := yoshiRam st.ram slot }
    else some st
  restoreRegisters := fun now _ => now

theorem entranceSlot_yoshi (ram : Ram) {slot : Nat} (h : slot < 12) :
    entranceSlot (yoshiRam ram slot) = UInt32.ofNat slot := by
  have hslot : yoshiRam ram slot 0x18e2 = (slot + 1).toUInt8 := by
    unfold yoshiRam Ram.put
    rw [if_neg (by omega), if_neg (by omega), if_pos rfl]
  unfold entranceSlot
  rw [hslot]
  interval_cases slot <;> decide

theorem yoshiEmulator_spawns : yoshiEmulator.SpawnsFree := by
  intro st st' h
  obtain ⟨slot, hslot, rfl⟩ := Option.map_eq_some_iff.1 (show _ = some st' from h)
  have hfree := List.find?_some hslot
  have hmem := List.mem_of_find?_eq_some hslot
  rw [List.mem_reverse, List.mem_range] at hmem
  show coopMachineEntitySlot st.machine COOP_ENTITY_NORMAL (entranceSlot (yoshiRam st.ram slot)) =
    none
  rw [entranceSlot_yoshi st.ram hmem]
  exact Option.isNone_iff_eq_none.1 hfree

theorem yoshiEmulator_keeps : yoshiEmulator.KeepsOwnership := by
  intro entry slot st st' h
  unfold yoshiEmulator at h
  dsimp only at h
  split at h
  · obtain ⟨s, -, rfl⟩ := Option.map_eq_some_iff.1 h
    exact { SameOwnership.refl st.machine with }
  · cases h
    exact SameOwnership.refl _

/-- A loader that does nothing of its own. -/
def plainLoader : RoomLoader Unit := ⟨some, some⟩

theorem plainLoader_keeps : plainLoader.KeepsOwnership := by
  constructor
  · intro st st' h
    cases h
    exact SameOwnership.refl _
  · intro st st' h slot _
    cases h
    rfl
  · intro st st' h
    cases h
    exact SameOwnership.refl _

/-- The crew at the door: the third carries the sprite of slot 5. -/
def crewStage : Stage Unit where
  machine := crewMachine
  ram := fun address => if address = 0x14c8 + 5 then 0x0b else 0
  goalContact := false
  goalActor := COOP_NO_PLAYER
  goalEntity := COOP_NO_ENTITY
  goalStars := 0
  frozenGoalScore := 0
  emulator := ()

theorem room_transition_crew : ∃ st, loadRoomSprites yoshiEmulator plainLoader crewStage = some st ∧
    entitiesValid st.machine = true ∧
    (∀ e, Carried crewMachine crewStage.ram e → KeepsCarried crewMachine st.machine e) ∧
    st.machine.entities.map CoopEntity.id = [2, 1] ∧ st.machine.identities.Nodup := by
  have hruns : (loadRoomSprites yoshiEmulator plainLoader crewStage).map
      (fun st => st.machine.entities.map CoopEntity.id) = some [2, 1] := by decide +kernel
  obtain ⟨st, hst, hids⟩ := Option.map_eq_some_iff.1 hruns
  obtain ⟨hvalid, hcarried, -, hapart⟩ := room_transition yoshiEmulator_keeps yoshiEmulator_spawns
    plainLoader_keeps (by decide) (by decide) (by decide)
    (show ActorsMatch crewStage.machine from List.Perm.refl _) hst
  exact ⟨st, hst, hvalid, hcarried, hids, hapart⟩

end SmwRecomp.Coop
