import SmwRecomp.Coop.Entities
import SmwRecomp.Coop.Reach

/-!
# Entity tables over whole runs

Spawning, forgetting, looking up and retiring keep the tables of a machine consistent, from
`coop_machine_init` on and in any order.

* `retireReleasedObjects` — `retire_released_objects` of `coop_simulation.c` over any guest memory.
* `Clears`, `Fresh` — what an operation may do to the players' references and to the identities.
* `forget_valid`, `release_valid`, `spawn_valid`, ... — each operation keeps `EntitiesValid`.
* `entity_tables` — every reachable machine passes `entities_valid`, no reference dangles, and an
  identity that has left the table never returns.
-/

set_option autoImplicit false

namespace SmwRecomp.Coop

/-! ## Retiring -/

/-- `e->owner=COOP_NO_PLAYER;e->flags=0`. -/
def CoopEntity.released (e : CoopEntity) : CoopEntity :=
  { e with owner := COOP_NO_PLAYER, flags := 0 }

/-- `release_owner`: the session and the entity after it. -/
def releaseOwner (s : CoopSession) (e : CoopEntity) : CoopSession × CoopEntity :=
  let s := match coopPlayer s e.owner with
    | some p =>
      if p.heldObject = e.id then putPlayer s { p with heldObject := COOP_NO_ENTITY } else s
    | none => s
  (s, e.released)

/-- The loop of `retire_released_objects` from index `i` on. -/
def retireLoop (ram : Nat → UInt8) : Nat → Nat → CoopMachine → CoopMachine
  | 0, _, m => m
  | fuel + 1, i, m =>
    match m.entities[i]? with
    | none => m
    | some e =>
      if e.kind = COOP_ENTITY_NORMAL then
        if ram (0x14c8 + e.slot.toNat) = 0 then
          retireLoop ram fuel i (coopMachineForgetEntity m e.id)
        else if ram (0x14c8 + e.slot.toNat) ≠ 0x0b ∧
            hasFlag e.flags (COOP_ENTITY_HELD ||| COOP_ENTITY_ATTACHED) = true then
          let (session, e) := releaseOwner m.session e
          retireLoop ram fuel (i + 1) { m with session := session, entities := m.entities.set i e }
        else retireLoop ram fuel (i + 1) m
      else retireLoop ram fuel (i + 1) m

/-- `retire_released_objects`; each turn of its loop removes an entity or passes one. -/
def retireReleasedObjects (ram : Nat → UInt8) (m : CoopMachine) : CoopMachine :=
  retireLoop ram m.entities.length 0 m

/-! ## What an operation may touch -/

/-- A change of the players that at most clears what they own. -/
structure Clears (g : CoopPlayer → CoopPlayer) : Prop where
  same : ∀ p, (g p).id = p.id
  held : ∀ p, (g p).heldObject = p.heldObject ∨ (g p).heldObject = COOP_NO_ENTITY
  mount : ∀ p, (g p).mount = p.mount ∨ (g p).mount = COOP_NO_ENTITY

theorem Clears.refl : Clears (fun p => p) :=
  ⟨fun _ => rfl, fun _ => Or.inl rfl, fun _ => Or.inl rfl⟩

theorem Clears.forget (id : CoopEntityId) : Clears (CoopPlayer.forget · id) := by
  refine ⟨fun _ => rfl, fun p => ?_, fun p => ?_⟩
  · by_cases h : p.heldObject = id
    · exact Or.inr (if_pos h)
    · exact Or.inl (if_neg h)
  · by_cases h : p.mount = id
    · exact Or.inr (if_pos h)
    · exact Or.inl (if_neg h)

/-- The identities of `n` are those of `m` or newer, and so is its counter. -/
structure Fresh (m n : CoopMachine) : Prop where
  next : m.nextEntity ≤ n.nextEntity
  ids : ∀ e ∈ n.entities, (∃ f ∈ m.entities, f.id = e.id) ∨ m.nextEntity ≤ e.id

theorem Fresh.refl (m : CoopMachine) : Fresh m m :=
  ⟨UInt32.le_refl _, fun e he => Or.inl ⟨e, he, rfl⟩⟩

theorem Fresh.trans {a b c : CoopMachine} (hab : Fresh a b) (hbc : Fresh b c) : Fresh a c := by
  refine ⟨UInt32.le_trans hab.next hbc.next, fun e he => ?_⟩
  rcases hbc.ids e he with ⟨f, hf, hid⟩ | hle
  · rw [← hid]
    exact hab.ids f hf
  · exact Or.inr (UInt32.le_trans hab.next hle)

/-- The part of an actor that `entities_valid` looks at. -/
structure Belongings where
  player : CoopPlayerId
  storedMount : CoopEntityId
  storedMountColor : UInt32
  fireballs : List.Vector CoopFireball COOP_FIREBALL_SLOTS

def CoopActor.belongings (a : CoopActor) : Belongings :=
  ⟨a.player, a.storedMount, a.storedMountColor, a.fireballs⟩

/-- Two actors do not store the same mount. -/
def BelongApart (a b : Belongings) : Prop :=
  (b.storedMount ≠ 0 → a.storedMount ≠ b.storedMount) ∧
    (a.storedMount ≠ 0 → b.storedMount ≠ a.storedMount)

/-- What the operations on tables never touch. -/
structure SameActors (m n : CoopMachine) : Prop where
  actors : n.actors.map CoopActor.belongings = m.actors.map CoopActor.belongings
  fireballs : n.fireballsInitialized = m.fireballsInitialized
  level : n.level = m.level

theorem SameActors.length {m n : CoopMachine} (h : SameActors m n) :
    n.actors.length = m.actors.length := by
  have hlen := congrArg List.length h.actors
  rwa [List.length_map, List.length_map] at hlen

theorem SameActors.mem {m n : CoopMachine} (h : SameActors m n) {b : CoopActor}
    (hb : b ∈ n.actors) :
    ∃ a ∈ m.actors, a.belongings = b.belongings := by
  have hmem : b.belongings ∈ m.actors.map CoopActor.belongings := h.actors ▸ List.mem_map_of_mem hb
  exact List.mem_map.1 hmem

theorem SameActors.fireballs_eq {m n : CoopMachine} (h : SameActors m n) :
    n.fireballs = m.fireballs := by
  have hflat : ∀ k : CoopMachine, k.fireballs =
      (k.actors.map CoopActor.belongings).flatMap (fun a => a.fireballs.toList) := fun k =>
    (List.flatMap_map CoopActor.belongings (fun b : Belongings => b.fireballs.toList) k.actors).symm
  rw [hflat, hflat, h.actors]

section Frame

variable {m n : CoopMachine} {g : CoopPlayer → CoopPlayer}

theorem clears_addressee (hg : Clears g) (hplayers : n.session.players = m.session.players.map g)
    {a : CoopPlayerId} (h : Addressee m.session.players a) : Addressee n.session.players a := by
  refine h.of_ids ?_
  rw [hplayers, List.map_map]
  exact List.map_congr_left fun p _ => hg.same p

theorem clears_player (hg : Clears g) (hplayers : n.session.players = m.session.players.map g)
    (a : CoopPlayerId) : coopPlayer n.session a = (coopPlayer m.session a).map g := by
  unfold coopPlayer
  rw [hplayers]
  exact findKey_map hg.same a m.session.players

/-- An entity whose owner still owns it does not notice. -/
theorem EntityValid.clears {e : CoopEntity} (h : EntityValid m e) (hg : Clears g)
    (hplayers : n.session.players = m.session.players.map g) (hnext : m.nextEntity ≤ n.nextEntity)
    (hheld : e.flags = COOP_ENTITY_HELD →
      ∀ p, coopPlayer m.session e.owner = some p → (g p).heldObject = p.heldObject)
    (hridden : e.flags = COOP_ENTITY_RIDDEN →
      ∀ p, coopPlayer m.session e.owner = some p → (g p).mount = p.mount) : EntityValid n e := by
  have hfound : ∀ p, coopPlayer n.session e.owner = some p →
      ∃ q, coopPlayer m.session e.owner = some q ∧ g q = p := by
    intro p hp
    rw [clears_player hg hplayers] at hp
    exact Option.map_eq_some_iff.1 hp
  refine ⟨h.mount, ⟨h.id.1, UInt32.lt_of_lt_of_le h.id.2 hnext⟩, h.slot, h.type, h.flags,
    clears_addressee hg hplayers h.owner, clears_addressee hg hplayers h.target, h.owned, h.normal,
    fun hf p hp => ?_, fun hf p hp => ?_⟩
  · obtain ⟨q, hq, rfl⟩ := hfound p hp
    rw [hheld hf q hq]
    exact h.held hf q hq
  · obtain ⟨q, hq, rfl⟩ := hfound p hp
    rw [hridden hf q hq]
    exact h.ridden hf q hq

/-- Stored mounts stay outside the table. -/
theorem StoredMountValid.frame {a b : CoopActor} (h : StoredMountValid m a)
    (hab : a.belongings = b.belongings) (hsame : SameActors m n) (hfresh : Fresh m n)
    (hg : Clears g)
    (hplayers : n.session.players = m.session.players.map g) : StoredMountValid n b := by
  have hplayer : a.player = b.player := congrArg Belongings.player hab
  have hstored : a.storedMount = b.storedMount := congrArg Belongings.storedMount hab
  have hcolor : a.storedMountColor = b.storedMountColor := congrArg Belongings.storedMountColor hab
  have hrider := h.rider
  have hid := h.id
  have hentity := h.entity
  have hfireball := h.fireball
  rw [hstored] at hrider hid hentity hfireball
  refine ⟨by rw [← hcolor, ← hstored]; exact h.color, fun hne => ?_,
    fun hne => UInt32.lt_of_lt_of_le (hid hne) hfresh.next,
    fun hne e he heq => ?_, fun hne f hf => hfireball hne f (hsame.fireballs_eq ▸ hf)⟩
  · obtain ⟨p, hp, hmount⟩ := hrider hne
    refine ⟨g p, by rw [← hplayer, clears_player hg hplayers, hp]; rfl, ?_⟩
    rcases hg.mount p with heq | heq
    · rw [heq, hmount]
    · exact heq
  · rcases hfresh.ids e he with ⟨f, hf, hfid⟩ | hle
    · exact hentity hne f hf (hfid.trans heq)
    · exact UInt32.lt_irrefl _ (UInt32.lt_of_lt_of_le (hid hne) (heq ▸ hle))

/-- Fireballs stay outside the table. -/
theorem FireballValid.frame {f : CoopFireball} (h : FireballValid m f) (hsame : SameActors m n)
    (hfresh : Fresh m n) : FireballValid n f := by
  refine ⟨h.kind, UInt32.lt_of_lt_of_le h.id hfresh.next, by rw [hsame.fireballs]; exact h.idle,
    fun hne e he heq => ?_⟩
  rcases hfresh.ids e he with ⟨e', he', hid⟩ | hle
  · exact h.entity hne e' he' (heq.trans hid.symm)
  · exact UInt32.lt_irrefl _ (UInt32.lt_of_lt_of_le h.id (heq ▸ hle))

theorem PlacedEggValid.frame {s : CoopPlacedEgg} (h : PlacedEggValid m s) (hsame : SameActors m n)
    (heggs : ∀ e ∈ m.entities, IsEgg e s.egg → e ∈ n.entities) : PlacedEggValid n s := by
  refine ⟨h.level, h.x, h.y, h.aligned, h.loadIndex, by rw [hsame.length]; exact h.uses,
    fun hne => ?_⟩
  obtain ⟨hlevel, e, he, his⟩ := h.egg hne
  exact ⟨by rw [hsame.level]; exact hlevel, e, heggs e he his, his⟩

theorem Owned.mono {entities entities' : List CoopEntity} {p : CoopPlayer} (h : Owned entities p)
    (hsub : ∀ e ∈ entities, e ∈ entities') : Owned entities' p := by
  refine ⟨fun hne => ?_, fun hne => ?_⟩
  · obtain ⟨e, he, howned⟩ := h.held hne
    exact ⟨e, hsub e he, howned⟩
  · obtain ⟨e, he, howned⟩ := h.mount hne
    exact ⟨e, hsub e he, howned⟩

/-- What every operation on entities shares: it is enough to look at the tables. -/
theorem EntitiesValid.frame (h : EntitiesValid m) (hsame : SameActors m n) (hfresh : Fresh m n)
    (hg : Clears g) (hplayers : n.session.players = m.session.players.map g)
    (hsources : ∀ s ∈ n.sources, SourceValid n.actors.length s)
    (hsourceKeys : (n.sources.map CoopYoshiSource.key).Nodup) (hnext : n.nextEntity ≠ 0)
    (hcount : n.entities.length ≤ 22) (hentities : ∀ e ∈ n.entities, EntityValid n e)
    (hids : (n.entities.map CoopEntity.id).Nodup)
    (hslots : (n.entities.map (fun e => (e.kind, e.slot))).Nodup)
    (heggs : ∀ s ∈ n.placedEggs, PlacedEggValid n s)
    (hkeys : (n.placedEggs.map CoopPlacedEgg.key).Nodup)
    (hreferences : n.placedEggs.Pairwise (fun t s => s.egg ≠ 0 → s.egg ≠ t.egg))
    (howned : ∀ p ∈ n.session.players, Owned n.entities p) : EntitiesValid n where
  count := hcount
  next := hnext
  level := by rw [hsame.level]; exact h.level
  entities := hentities
  ids := hids
  slots := hslots
  sources := hsources
  sourceKeys := hsourceKeys
  eggs := heggs
  eggKeys := hkeys
  eggReferences := hreferences
  players := howned
  stored b hb := by
    obtain ⟨a, ha, hab⟩ := hsame.mem hb
    exact (h.stored a ha).frame hab hsame hfresh hg hplayers
  storedApart := by
    have hmap :=
      List.pairwise_map.2 (show m.actors.Pairwise (fun a b => BelongApart a.belongings b.belongings)
      from h.storedApart)
    rw [← hsame.actors] at hmap
    exact List.pairwise_map.1 hmap
  fireballs f hf := (h.fireballs f (hsame.fireballs_eq ▸ hf)).frame hsame hfresh
  fireballsApart := by rw [hsame.fireballs_eq]; exact h.fireballsApart

/-- Entities are not concerned when neither they nor the players change. -/
theorem EntitiesValid.sameEntities (h : EntitiesValid m) (hsame : SameActors m n)
    (hplayers : n.session.players = m.session.players) (hentities : n.entities = m.entities)
    (hnext : n.nextEntity = m.nextEntity)
    (hsources : ∀ s ∈ n.sources, SourceValid n.actors.length s)
    (hsourceKeys : (n.sources.map CoopYoshiSource.key).Nodup)
    (heggs : ∀ s ∈ n.placedEggs, PlacedEggValid n s)
    (hkeys : (n.placedEggs.map CoopPlacedEgg.key).Nodup)
    (hreferences : n.placedEggs.Pairwise (fun t s => s.egg ≠ 0 → s.egg ≠ t.egg)) :
    EntitiesValid n := by
  have hmap : n.session.players = m.session.players.map (fun p => p) := by
    rw [hplayers, List.map_id']
  have hfresh : Fresh m n :=
    ⟨UInt32.le_of_eq hnext.symm, fun e he => Or.inl ⟨e, hentities ▸ he, rfl⟩⟩
  refine h.frame hsame hfresh Clears.refl hmap hsources hsourceKeys (by rw [hnext]; exact h.next)
    (by rw [hentities]; exact h.count) (fun e he => ?_) (by rw [hentities]; exact h.ids)
    (by rw [hentities]; exact h.slots) heggs hkeys hreferences (fun p hp => ?_)
  · have hvalid := h.entities e (hentities ▸ he)
    exact hvalid.clears Clears.refl hmap hfresh.next (fun _ _ _ => rfl) fun _ _ _ => rfl
  · rw [hentities]
    exact h.players p (hplayers ▸ hp)

/-- Allocator answers and capacities are not looked at. -/
theorem EntitiesValid.storage (h : EntitiesValid m) (hsame : SameActors m n)
    (hplayers : n.session.players = m.session.players) (hentities : n.entities = m.entities)
    (hnext : n.nextEntity = m.nextEntity) (hsources : n.sources = m.sources)
    (heggs : n.placedEggs = m.placedEggs) : EntitiesValid n :=
  h.sameEntities hsame hplayers hentities hnext (by rw [hsources, hsame.length]; exact h.sources)
    (by rw [hsources]; exact h.sourceKeys)
    (fun s hs => (h.eggs s (heggs ▸ hs)).frame hsame fun e he _ => hentities ▸ he)
    (by rw [heggs]; exact h.eggKeys) (by rw [heggs]; exact h.eggReferences)

end Frame

/-! ## Forgetting -/

section Forget

variable {m : CoopMachine}

/-- Forgetting an absent identity does nothing; else one record goes and its references with it. -/
theorem forget_cases (m : CoopMachine) (id : CoopEntityId) :
    (coopMachineForgetEntity m id = m ∧ ∀ e ∈ m.entities, e.id ≠ id) ∨
    ∃ i e, m.entities[i]? = some e ∧ e.id = id ∧ coopMachineForgetEntity m id = { m with
      placedEggs := m.placedEggs.map (CoopPlacedEgg.forget · id)
      session := { m.session with players := m.session.players.map (CoopPlayer.forget · id) }
      entities := swapRemove i m.entities } := by
  unfold coopMachineForgetEntity
  cases hi : indexKey CoopEntity.id id m.entities with
  | none => exact Or.inl ⟨rfl, indexKey_eq_none.1 hi⟩
  | some i =>
      obtain ⟨e, he, hid⟩ := indexKey_eq_some hi
      exact Or.inr ⟨i, e, he, hid, rfl⟩

theorem Owned.forget {entities rest : List CoopEntity} {id : CoopEntityId} {p : CoopPlayer}
    (h : Owned entities p) (hrest : ∀ e ∈ entities, e.id ≠ id → e ∈ rest) :
    Owned rest (p.forget id) := by
  refine ⟨fun hne => ?_, fun hne => ?_⟩
  · rcases (Clears.forget id).held p with heq | heq
    · rw [heq] at hne ⊢
      obtain ⟨e, he, howner, hid, hflags⟩ := h.held hne
      refine ⟨e, hrest e he fun h => ?_, howner, hid, hflags⟩
      have hnone : (p.forget id).heldObject = COOP_NO_ENTITY := if_pos (hid.symm.trans h)
      exact hne (heq.symm.trans hnone)
    · exact absurd heq hne
  · rcases (Clears.forget id).mount p with heq | heq
    · rw [heq] at hne ⊢
      obtain ⟨e, he, howner, hid, hflags⟩ := h.mount hne
      refine ⟨e, hrest e he fun h => ?_, howner, hid, hflags⟩
      have hnone : (p.forget id).mount = COOP_NO_ENTITY := if_pos (hid.symm.trans h)
      exact hne (heq.symm.trans hnone)
    · exact absurd heq hne

theorem CoopPlacedEgg.forget_cases (s : CoopPlacedEgg) (id : CoopEntityId) :
    (s.forget id).egg = 0 ∨ ((s.forget id).egg = s.egg ∧ s.egg ≠ id) := by
  unfold CoopPlacedEgg.forget
  by_cases h : s.egg = id
  · exact Or.inl (if_pos h)
  · exact Or.inr ⟨if_neg h, h⟩

theorem forget_valid (h : EntitiesValid m) (id : CoopEntityId) :
    EntitiesValid (coopMachineForgetEntity m id) ∧ Fresh m (coopMachineForgetEntity m id) ∧
      (∀ e ∈ (coopMachineForgetEntity m id).entities, e ∈ m.entities ∧ e.id ≠ id) := by
  rcases forget_cases m id with ⟨hforget, habsent⟩ | ⟨i, e, he, rfl, hforget⟩
  · rw [hforget]
    exact ⟨h, Fresh.refl m, fun e he => ⟨he, habsent e he⟩⟩
  have hmem : ∀ f, f ∈ swapRemove i m.entities ↔ f ∈ m.entities ∧ f.id ≠ e.id :=
    fun f => mem_swapRemove he h.ids
  have hlen := swapRemove_length he
  have hcount := h.count
  rw [hforget]
  have hfresh : Fresh m { m with
      placedEggs := m.placedEggs.map (CoopPlacedEgg.forget · e.id)
      session := { m.session with players := m.session.players.map (CoopPlayer.forget · e.id) }
      entities := swapRemove i m.entities } :=
    ⟨UInt32.le_refl _, fun f hf => Or.inl ⟨f, ((hmem f).1 hf).1, rfl⟩⟩
  refine ⟨h.frame ⟨rfl, rfl, rfl⟩ hfresh (Clears.forget e.id) rfl h.sources h.sourceKeys h.next
    (by show (swapRemove i m.entities).length ≤ 22; omega) (fun f hf => ?_)
      (swapRemove_nodup he h.ids)
    (swapRemove_nodup he h.slots) (fun s hs => ?_) ?_ ?_ (fun p hp => ?_), hfresh, fun f hf =>
    (hmem f).1 hf⟩
  · obtain ⟨hfm, hne⟩ := (hmem f).1 hf
    have hvalid := h.entities f hfm
    exact hvalid.clears (Clears.forget e.id) rfl (UInt32.le_refl _)
      (fun hf q hq => if_neg fun heq => hne ((hvalid.held hf q hq).symm.trans heq))
      fun hf q hq => if_neg fun heq => hne ((hvalid.ridden hf q hq).symm.trans heq)
  · obtain ⟨t, ht, rfl⟩ := List.mem_map.1 hs
    have hegg := h.eggs t ht
    refine ⟨hegg.level, hegg.x, hegg.y, hegg.aligned, hegg.loadIndex, hegg.uses, fun hne => ?_⟩
    rcases CoopPlacedEgg.forget_cases t e.id with hzero | ⟨heq, hkept⟩
    · exact absurd hzero hne
    · rw [heq] at hne ⊢
      obtain ⟨hlevel, f, hf, his⟩ := hegg.egg hne
      exact ⟨hlevel, f, (hmem f).2 ⟨hf, fun hid => hkept (his.id.symm.trans hid)⟩, his⟩
  · show ((m.placedEggs.map (CoopPlacedEgg.forget · e.id)).map CoopPlacedEgg.key).Nodup
    rw [List.map_map]
    exact h.eggKeys
  · refine List.pairwise_map.2 (h.eggReferences.imp fun {t s} hts hne => ?_)
    rcases CoopPlacedEgg.forget_cases s e.id with hzero | ⟨heq, -⟩
    · exact absurd hzero hne
    · rw [heq] at hne ⊢
      rcases CoopPlacedEgg.forget_cases t e.id with hzero | ⟨heqt, -⟩
      · rw [hzero]; exact hne
      · rw [heqt]; exact hts hne
  · obtain ⟨q, hq, rfl⟩ := List.mem_map.1 hp
    exact (h.players q hq).forget fun f hf hne => (hmem f).2 ⟨hf, hne⟩

end Forget

/-! ## Releasing -/

section Release

variable {m n : CoopMachine} {g : CoopPlayer → CoopPlayer}

theorem EntityValid.released {e : CoopEntity} (h : EntityValid m e) (hg : Clears g)
    (hplayers : n.session.players = m.session.players.map g) (hnext : m.nextEntity ≤ n.nextEntity) :
    EntityValid n e.released :=
  ⟨h.mount, ⟨h.id.1, UInt32.lt_of_lt_of_le h.id.2 hnext⟩, h.slot, h.type,
    ⟨by show (0 : UInt32) &&& ~~~15 = 0; decide, fun hne => absurd rfl hne⟩, fun hne =>
    absurd rfl hne, clears_addressee hg hplayers h.target, ⟨fun _ => rfl, fun _ => rfl⟩,
    fun hne => absurd (by show (0 : UInt32) &&& _ = 0; decide) hne,
    fun hf => absurd hf (by show (0 : UInt32) ≠ _; decide),
    fun hf => absurd hf (by show (0 : UInt32) ≠ _; decide)⟩

/-- Releasing the entities `D` selects, while exactly their owners lose them. -/
theorem release_valid (h : EntitiesValid m) (D : CoopEntity → Prop) [DecidablePred D]
    (hsame : SameActors m n) (hnext : n.nextEntity = m.nextEntity)
    (hsources : n.sources = m.sources)
    (heggs : n.placedEggs = m.placedEggs)
    (hentities : n.entities = m.entities.map (fun e => if D e then e.released else e))
    (hg : Clears g) (hplayers : n.session.players = m.session.players.map g)
    (howner : ∀ e ∈ m.entities, D e → e.flags ≠ 0 ∧ ∀ p ∈ m.session.players, e.owner = p.id →
      (e.flags = COOP_ENTITY_HELD → e.id = p.heldObject → (g p).heldObject = COOP_NO_ENTITY) ∧
      (e.flags = COOP_ENTITY_RIDDEN → e.id = p.mount → (g p).mount = COOP_NO_ENTITY))
    (hkept : ∀ e ∈ m.entities, ¬ D e → ∀ p, coopPlayer m.session e.owner = some p →
      (e.flags = COOP_ENTITY_HELD → (g p).heldObject = p.heldObject) ∧
      (e.flags = COOP_ENTITY_RIDDEN → (g p).mount = p.mount)) :
    EntitiesValid n ∧ Fresh m n := by
  have hcases : ∀ f ∈ n.entities, ∃ e ∈ m.entities, D e ∧ f = e.released ∨ ¬ D e ∧ f = e := by
    intro f hf
    rw [hentities] at hf
    obtain ⟨e, he, rfl⟩ := List.mem_map.1 hf
    refine ⟨e, he, ?_⟩
    by_cases hd : D e
    · exact Or.inl ⟨hd, if_pos hd⟩
    · exact Or.inr ⟨hd, if_neg hd⟩
  have hstays : ∀ e ∈ m.entities, ¬ D e → e ∈ n.entities := by
    intro e he hd
    rw [hentities]
    exact List.mem_map.2 ⟨e, he, if_neg hd⟩
  have hkeys : ∀ {β : Type} (f : CoopEntity → β), (∀ e, f e.released = f e) →
      n.entities.map f = m.entities.map f := by
    intro β f hf
    rw [hentities, List.map_map]
    refine List.map_congr_left fun e _ => ?_
    show f (if D e then e.released else e) = f e
    split
    · exact hf e
    · rfl
  have hfresh : Fresh m n := by
    refine ⟨UInt32.le_of_eq hnext.symm, fun f hf => Or.inl ?_⟩
    obtain ⟨e, he, ⟨-, rfl⟩ | ⟨-, rfl⟩⟩ := hcases f hf
    · exact ⟨e, he, rfl⟩
    · exact ⟨f, he, rfl⟩
  refine ⟨h.frame hsame hfresh hg hplayers (by rw [hsources, hsame.length]; exact h.sources)
    (by rw [hsources]; exact h.sourceKeys) (by rw [hnext]; exact h.next)
    (by rw [hentities, List.length_map]; exact h.count) (fun f hf => ?_)
    (by rw [hkeys CoopEntity.id fun _ => rfl]; exact h.ids)
    (by rw [hkeys (fun e => (e.kind, e.slot)) fun _ => rfl]; exact h.slots) (fun s hs => ?_)
    (by rw [heggs]; exact h.eggKeys) (by rw [heggs]; exact h.eggReferences) (fun p hp => ?_),
    hfresh⟩
  · obtain ⟨e, he, ⟨-, rfl⟩ | ⟨hd, rfl⟩⟩ := hcases f hf
    · exact (h.entities e he).released hg hplayers hfresh.next
    · exact (h.entities f he).clears hg hplayers hfresh.next
        (fun hf p hp => (hkept f he hd p hp).1 hf)
        fun hf p hp => (hkept f he hd p hp).2 hf
  · refine (h.eggs s (heggs ▸ hs)).frame hsame fun e he his => hstays e he fun hd => ?_
    exact (howner e he hd).1 his.flags
  · rw [hplayers] at hp
    obtain ⟨q, hq, rfl⟩ := List.mem_map.1 hp
    have howned := h.players q hq
    refine ⟨fun hne => ?_, fun hne => ?_⟩ <;> rw [hg.same]
    · have hkeep := (hg.held q).resolve_right hne
      obtain ⟨e, he, how, hid, hflags⟩ := howned.held (hkeep ▸ hne)
      rw [hkeep]
      refine ⟨e, hstays e he fun hd => ?_, how, hid, hflags⟩
      have hcleared := ((howner e he hd).2 q hq how).1 hflags hid
      exact hne hcleared
    · have hkeep := (hg.mount q).resolve_right hne
      obtain ⟨e, he, how, hid, hflags⟩ := howned.mount (hkeep ▸ hne)
      rw [hkeep]
      refine ⟨e, hstays e he fun hd => ?_, how, hid, hflags⟩
      have hcleared := ((howner e he hd).2 q hq how).2 hflags hid
      exact hne hcleared

/-- What `release_owner` does to each player. -/
def CoopPlayer.released (e : CoopEntity) (p : CoopPlayer) : CoopPlayer :=
  if p.id = e.owner ∧ p.heldObject = e.id then { p with heldObject := COOP_NO_ENTITY } else p

theorem CoopPlayer.released_mount (e : CoopEntity) (p : CoopPlayer) :
    (p.released e).mount = p.mount := by
  unfold CoopPlayer.released
  split <;> rfl

theorem Clears.released (e : CoopEntity) : Clears (CoopPlayer.released e) := by
  refine ⟨fun p => ?_, fun p => ?_, fun p => Or.inl (p.released_mount e)⟩ <;>
    unfold CoopPlayer.released <;> split
  · rfl
  · rfl
  · exact Or.inr rfl
  · exact Or.inl rfl

theorem releaseOwner_players {s : CoopSession} (hroster : (s.players.map CoopPlayer.id).Nodup)
    (e : CoopEntity) : (releaseOwner s e).1.players = s.players.map (CoopPlayer.released e) := by
  have hsame : (∀ p ∈ s.players, ¬ (p.id = e.owner ∧ p.heldObject = e.id)) →
      s.players = s.players.map (CoopPlayer.released e) := by
    intro h
    conv_lhs => rw [← List.map_id s.players]
    exact List.map_congr_left fun p hp => (if_neg (h p hp)).symm
  unfold releaseOwner
  cases hp : coopPlayer s e.owner with
  | none => exact hsame fun p hp' h => findKey_eq_none.1 hp p hp' h.1
  | some p =>
      obtain ⟨hmem, hid⟩ := findKey_some hp
      have honly : ∀ q ∈ s.players, q.id = e.owner → q = p := fun q hq hqid =>
        Option.some.inj ((findKey_of_mem hroster hq).symm.trans (hqid ▸ hp))
      show (if p.heldObject = e.id then putPlayer s { p with heldObject := COOP_NO_ENTITY }
        else s).players = _
      by_cases hheld : p.heldObject = e.id
      · rw [if_pos hheld]
        show putKey CoopPlayer.id { p with heldObject := COOP_NO_ENTITY } s.players = _
        rw [putKey_eq_map hroster]
        refine List.map_congr_left fun q hq => ?_
        unfold CoopPlayer.released
        by_cases hqid : q.id = e.owner
        · rw [honly q hq hqid, if_pos rfl, if_pos ⟨hid, hheld⟩]
        · rw [if_neg fun h => hqid (h.trans hid), if_neg fun h => hqid h.1]
      · rw [if_neg hheld]
        exact hsame fun q hq h => hheld (honly q hq h.1 ▸ h.2)

/-- `release_owner` on a held or attached entity of the table. -/
theorem releaseOwner_valid (h : EntitiesValid m)
    (hroster : (m.session.players.map CoopPlayer.id).Nodup) {i : Nat} {e : CoopEntity}
    (he : m.entities[i]? = some e) (hflags : e.flags ≠ 0) (hridden : e.flags ≠ COOP_ENTITY_RIDDEN) :
    EntitiesValid { m with
      session := (releaseOwner m.session e).1, entities := m.entities.set i e.released } ∧
    Fresh m { m with
      session := (releaseOwner m.session e).1, entities := m.entities.set i e.released } := by
  have hmem := List.mem_of_getElem? he
  have honly : ∀ f ∈ m.entities, f.id = e.id → f = e := fun f hf hid =>
    List.inj_on_of_nodup_map h.ids hf hmem hid
  refine release_valid h (fun f => f.id = e.id) ⟨rfl, rfl, rfl⟩ rfl rfl rfl ?_ (Clears.released e)
    (releaseOwner_players hroster e) (fun f hf hid => ?_) (fun f hf hid p hp => ?_)
  · show m.entities.set i e.released = _
    rw [set_eq_map h.ids he]
    refine List.map_congr_left fun f hf => ?_
    by_cases hid : f.id = e.id
    · rw [if_pos hid, if_pos hid, honly f hf hid]
    · rw [if_neg hid, if_neg hid]
  · rw [honly f hf hid]
    refine ⟨hflags, fun p _ how => ⟨fun _ hheld => ?_, fun hr => absurd hr hridden⟩⟩
    unfold CoopPlayer.released
    rw [if_pos ⟨how.symm, hheld.symm⟩]
  · refine ⟨fun hf' => ?_, fun _ => p.released_mount e⟩
    unfold CoopPlayer.released
    rw [if_neg fun hcase => hid ?_]
    exact ((h.entities f hf).held hf' p hp).symm.trans hcase.2

end Release

/-! ## Spawning -/

section Spawn

variable {m : CoopMachine}

theorem entitySlotValid_toNat {kind slot : UInt32} (h : entitySlotValid kind slot = true) :
    kind.toNat = 0 ∧ slot.toNat < 12 ∨ kind.toNat = 1 ∧ slot.toNat < 10 := by
  unfold entitySlotValid at h
  simp only [Bool.or_eq_true, Bool.and_eq_true, decide_eq_true_eq] at h
  rcases h with ⟨hkind, hslot⟩ | ⟨hkind, hslot⟩
  · exact Or.inl ⟨congrArg UInt32.toNat hkind, hslot⟩
  · exact Or.inr ⟨congrArg UInt32.toNat hkind, hslot⟩

/-- The place of an entity among the 22 guest sprite slots. -/
def CoopEntity.place (e : CoopEntity) : Nat := 12 * e.kind.toNat + e.slot.toNat

theorem place_lt {e : CoopEntity} (h : entitySlotValid e.kind e.slot = true) : e.place < 22 := by
  unfold CoopEntity.place
  have := entitySlotValid_toNat h
  omega

theorem place_inj {e f : CoopEntity} (he : entitySlotValid e.kind e.slot = true)
    (hf : entitySlotValid f.kind f.slot = true) (h : e.place = f.place) :
    (e.kind, e.slot) = (f.kind, f.slot) := by
  unfold CoopEntity.place at h
  have he' := entitySlotValid_toNat he
  have hf' := entitySlotValid_toNat hf
  have hkind : e.kind = f.kind := UInt32.toNat_inj.1 (by omega)
  have hslot : e.slot = f.slot := UInt32.toNat_inj.1 (by omega)
  rw [hkind, hslot]

/-- Distinct valid places leave room for 22 entities. -/
theorem length_le_of_slots {entities : List CoopEntity}
    (hvalid : ∀ e ∈ entities, entitySlotValid e.kind e.slot = true)
    (hslots : (entities.map (fun e => (e.kind, e.slot))).Nodup) : entities.length ≤ 22 := by
  have hplaces : (entities.map CoopEntity.place).Nodup := by
    refine List.pairwise_map.2 ((List.pairwise_map.1 hslots).imp_of_mem ?_)
    intro e f he hf hne heq
    exact hne (place_inj (hvalid e he) (hvalid f hf) heq)
  exact length_le_of_keys hplaces fun e he => place_lt (hvalid e he)

/-- A new entity in a free slot. -/
theorem append_valid (h : EntitiesValid m) {kind slot type : UInt32}
    (hslot : entitySlotValid kind slot = true) (htype : type ≤ 255)
    (hroom : m.nextEntity ≠ COOP_NO_ENTITY)
    (hfree : ∀ e ∈ m.entities, (e.kind, e.slot) ≠ (kind, slot)) {n : CoopMachine}
    (hn : n = { m with entities := m.entities ++ [spawnedEntity m.nextEntity kind slot type],
                       nextEntity := m.nextEntity + 1 }) : EntitiesValid n ∧ Fresh m n := by
  have hlt : m.nextEntity < m.nextEntity + 1 := by
    have hne : m.nextEntity.toNat ≠ COOP_NO_ENTITY.toNat := fun h => hroom (UInt32.toNat_inj.1 h)
    have hbound := m.nextEntity.toNat_lt
    rw [UInt32.lt_iff_toNat_lt, UInt32.toNat_add]
    rw [show COOP_NO_ENTITY.toNat = 4294967295 from rfl] at hne
    rw [show (1 : UInt32).toNat = 1 from rfl]
    omega
  have hsame : SameActors m n := by rw [hn]; exact ⟨rfl, rfl, rfl⟩
  have hplayers : n.session.players = m.session.players := by rw [hn]
  have hmap : n.session.players = m.session.players.map (fun p => p) := by
    rw [hplayers, List.map_id']
  have hentities : n.entities = m.entities ++ [spawnedEntity m.nextEntity kind slot type] := by
    rw [hn]
  have hnext : n.nextEntity = m.nextEntity + 1 := by rw [hn]
  have hmem : ∀ e, e ∈ n.entities ↔ e ∈ m.entities ∨
    e = spawnedEntity m.nextEntity kind slot type :=
    fun e => by rw [hentities, List.mem_append, List.mem_singleton]
  have hfresh : Fresh m n := by
    refine ⟨UInt32.le_of_lt (hnext ▸ hlt), fun e he => ?_⟩
    rcases (hmem e).1 he with he | rfl
    · exact Or.inl ⟨e, he, rfl⟩
    · exact Or.inr (UInt32.le_refl _)
  have hvalid : ∀ e ∈ n.entities, EntityValid n e := by
    intro e he
    rcases (hmem e).1 he with he | rfl
    · exact (h.entities e he).clears Clears.refl hmap hfresh.next (fun _ _ _ => rfl) fun _ _ _ =>
        rfl
    · refine ⟨(fun hm => nomatch hm), ⟨h.next, hnext ▸ hlt⟩, hslot, htype,
        ⟨by show (0 : UInt32) &&& ~~~15 = 0; decide, fun hne => absurd rfl hne⟩,
        fun hne => absurd rfl hne, fun hne => absurd rfl hne, ⟨fun _ => rfl, fun _ => rfl⟩,
        fun hne => absurd (by show (0 : UInt32) &&& _ = 0; decide) hne,
        fun hf => absurd hf (by show (0 : UInt32) ≠ _; decide),
        fun hf => absurd hf (by show (0 : UInt32) ≠ _; decide)⟩
  have hslots : (n.entities.map (fun e => (e.kind, e.slot))).Nodup := by
    rw [hentities, List.map_append, List.map_cons, List.map_nil, ← List.concat_eq_append,
      List.nodup_concat]
    refine ⟨fun hmem => ?_, h.slots⟩
    obtain ⟨e, he, heq⟩ := List.mem_map.1 hmem
    exact hfree e he heq
  refine ⟨h.frame hsame hfresh Clears.refl hmap (by rw [hn]; exact h.sources)
    (by rw [hn]; exact h.sourceKeys) (fun hz => ?_)
    (length_le_of_slots (fun e he => (hvalid e he).slot) hslots) hvalid ?_ hslots (fun s hs => ?_)
    (by rw [hn]; exact h.eggKeys) (by rw [hn]; exact h.eggReferences) (fun p hp => ?_), hfresh⟩
  · rw [hnext] at hz
    rw [hz] at hlt
    exact UInt32.not_lt_zero hlt
  · rw [hentities, List.map_append, List.map_cons, List.map_nil, ← List.concat_eq_append,
      List.nodup_concat]
    refine ⟨fun hmem => ?_, h.ids⟩
    obtain ⟨e, he, heq⟩ := List.mem_map.1 hmem
    exact UInt32.lt_irrefl _ (heq ▸ (h.entities e he).id.2)
  · have hs : s ∈ m.placedEggs := by rw [hn] at hs; exact hs
    exact (h.eggs s hs).frame hsame fun e he _ => (hmem e).2 (Or.inl he)
  · exact (h.players p (hplayers ▸ hp)).mono fun e he => (hmem e).2 (Or.inl he)

theorem forget_next (m : CoopMachine) (id : CoopEntityId) :
    (coopMachineForgetEntity m id).nextEntity = m.nextEntity := by
  rcases forget_cases m id with ⟨h, -⟩ | ⟨i, e, -, -, h⟩ <;> rw [h]

theorem spawn_valid (h : EntitiesValid m) (kind slot type : UInt32) :
    EntitiesValid (coopMachineSpawnEntity m kind slot type).2 ∧
      Fresh m (coopMachineSpawnEntity m kind slot type).2 := by
  unfold coopMachineSpawnEntity
  split
  · exact ⟨h, Fresh.refl m⟩
  rename_i hguard
  simp only [not_or, Bool.not_eq_false, gt_iff_lt, UInt32.not_lt] at hguard
  obtain ⟨hslot, htype, hroom⟩ := hguard
  split
  · rename_i rest _
    exact ⟨h.storage ⟨rfl, rfl, rfl⟩ rfl rfl rfl rfl rfl, ⟨UInt32.le_refl _, (Fresh.refl m).ids⟩⟩
  rename_i capacity rest _
  have hm : EntitiesValid { m.withAllocator rest with entityCapacity := capacity } :=
    h.storage ⟨rfl, rfl, rfl⟩ rfl rfl rfl rfl rfl
  have hfresh : Fresh m { m.withAllocator rest with entityCapacity := capacity } :=
    ⟨UInt32.le_refl _, (Fresh.refl m).ids⟩
  have hnext : ({ m.withAllocator rest with entityCapacity := capacity } : CoopMachine).nextEntity =
    m.nextEntity := rfl
  generalize ({ m.withAllocator rest with entityCapacity := capacity } : CoopMachine) =
    m' at hm hfresh hnext
  dsimp only
  cases hold : coopMachineEntitySlot m' kind slot with
  | none =>
      obtain ⟨hvalid, hnew⟩ :=
        append_valid hm hslot htype (hnext ▸ hroom) (findKey_eq_none.1 hold) rfl
      exact ⟨hvalid, hfresh.trans hnew⟩
  | some old =>
      obtain ⟨hmem, hplace⟩ := findKey_some hold
      obtain ⟨hforget, hless, hgone⟩ := forget_valid hm old.id
      have hfree : ∀ e ∈ (coopMachineForgetEntity m' old.id).entities, (e.kind, e.slot) ≠
        (kind, slot) := by
        intro e he heq
        obtain ⟨hem, hne⟩ := hgone e he
        have hsame := List.inj_on_of_nodup_map hm.slots hem hmem (heq.trans hplace.symm)
        exact hne (congrArg CoopEntity.id hsame)
      obtain ⟨hvalid, hnew⟩ := append_valid hforget hslot htype
        (by rw [forget_next, hnext]; exact hroom) hfree rfl
      exact ⟨hvalid, hfresh.trans (hless.trans hnew)⟩

end Spawn

/-! ## Lookups that create on demand -/

section Lookup

variable {m : CoopMachine}

theorem yoshiSource_valid (h : EntitiesValid m) {level layer x y tile : UInt32}
    (hkey : SourceValid 0 ⟨level, layer, x, y, tile, 0⟩) :
    EntitiesValid (coopYoshiSource m level layer x y tile).2 ∧
      Fresh m (coopYoshiSource m level layer x y tile).2 := by
  unfold coopYoshiSource
  split
  · exact ⟨h, Fresh.refl m⟩
  rename_i hnone
  split
  · exact ⟨h, Fresh.refl m⟩
  split
  · exact ⟨h.storage ⟨rfl, rfl, rfl⟩ rfl rfl rfl rfl rfl, ⟨UInt32.le_refl _, (Fresh.refl m).ids⟩⟩
  refine ⟨h.sameEntities ⟨rfl, rfl, rfl⟩ rfl rfl rfl (fun s hs => ?_) ?_
    (fun s hs => (h.eggs s hs).frame ⟨rfl, rfl, rfl⟩ fun e he _ => he) h.eggKeys h.eggReferences,
    ⟨UInt32.le_refl _, (Fresh.refl m).ids⟩⟩
  · rcases List.mem_append.1 hs with hs | hs
    · exact h.sources s hs
    · rw [List.mem_singleton.1 hs]
      exact ⟨hkey.level, hkey.layer, hkey.x, hkey.y, hkey.aligned, hkey.tile, Nat.zero_le _⟩
  · show ((m.sources ++ [(⟨level, layer, x, y, tile, 0⟩ : CoopYoshiSource)]).map
      CoopYoshiSource.key).Nodup
    rw [List.map_append, List.map_cons, List.map_nil, ← List.concat_eq_append, List.nodup_concat]
    refine ⟨fun hmem => ?_, h.sourceKeys⟩
    obtain ⟨s, hs, heq⟩ := List.mem_map.1 hmem
    exact findKey_eq_none.1 hnone s hs heq

theorem placedEgg_valid (h : EntitiesValid m) {level x y loadIndex : UInt32}
    (hkey : PlacedEggValid m ⟨level, x, y, loadIndex, 0, 0⟩) :
    EntitiesValid (coopPlacedEgg m level x y loadIndex).2 ∧
      Fresh m (coopPlacedEgg m level x y loadIndex).2 := by
  unfold coopPlacedEgg
  split
  · exact ⟨h, Fresh.refl m⟩
  rename_i hnone
  split
  · exact ⟨h, Fresh.refl m⟩
  split
  · exact ⟨h.storage ⟨rfl, rfl, rfl⟩ rfl rfl rfl rfl rfl, ⟨UInt32.le_refl _, (Fresh.refl m).ids⟩⟩
  refine ⟨h.sameEntities ⟨rfl, rfl, rfl⟩ rfl rfl rfl h.sources h.sourceKeys (fun s hs => ?_) ?_ ?_,
    ⟨UInt32.le_refl _, (Fresh.refl m).ids⟩⟩
  · rcases List.mem_append.1 hs with hs | hs
    · exact (h.eggs s hs).frame ⟨rfl, rfl, rfl⟩ fun e he _ => he
    · rw [List.mem_singleton.1 hs]
      exact hkey.frame ⟨rfl, rfl, rfl⟩ fun e he _ => he
  · show ((m.placedEggs ++ [(⟨level, x, y, loadIndex, 0, 0⟩ : CoopPlacedEgg)]).map
      CoopPlacedEgg.key).Nodup
    rw [List.map_append, List.map_cons, List.map_nil, ← List.concat_eq_append, List.nodup_concat]
    refine ⟨fun hmem => ?_, h.eggKeys⟩
    obtain ⟨s, hs, heq⟩ := List.mem_map.1 hmem
    exact findKey_eq_none.1 hnone s hs heq
  · refine List.pairwise_append.2 ⟨h.eggReferences, List.pairwise_singleton _ _,
      fun t _ s hs hne => ?_⟩
    rw [List.mem_singleton.1 hs] at hne
    exact absurd rfl hne

end Lookup

/-! ## Retiring keeps the tables -/

/-- A consistent machine with a roster of distinct players. -/
structure Consistent (m : CoopMachine) : Prop where
  tables : EntitiesValid m
  roster : (m.session.players.map CoopPlayer.id).Nodup

/-- One operation: the result is consistent and its identities are fresh. -/
structure Advances (m n : CoopMachine) : Prop where
  consistent : Consistent n
  fresh : Fresh m n

theorem forget_roster (m : CoopMachine) (id : CoopEntityId) :
    (coopMachineForgetEntity m id).session.players.map CoopPlayer.id =
      m.session.players.map CoopPlayer.id := by
  rcases forget_cases m id with ⟨h, -⟩ | ⟨i, e, -, -, h⟩
  · rw [h]
  · rw [h]
    show (m.session.players.map (CoopPlayer.forget · id)).map CoopPlayer.id = _
    rw [List.map_map]
    rfl

theorem forget_advances {m : CoopMachine} (h : Consistent m) (id : CoopEntityId) :
    Advances m (coopMachineForgetEntity m id) := by
  obtain ⟨hvalid, hfresh, -⟩ := forget_valid h.tables id
  exact ⟨⟨hvalid, by rw [forget_roster]; exact h.roster⟩, hfresh⟩

theorem release_advances {m : CoopMachine} (h : Consistent m) {i : Nat} {e : CoopEntity}
    (he : m.entities[i]? = some e)
    (hflags : hasFlag e.flags (COOP_ENTITY_HELD ||| COOP_ENTITY_ATTACHED) = true) :
    Advances m { m with
      session := (releaseOwner m.session e).1, entities := m.entities.set i e.released } := by
  have hmask : e.flags &&& (COOP_ENTITY_HELD ||| COOP_ENTITY_ATTACHED) ≠ 0 :=
    of_decide_eq_true hflags
  have hzero : e.flags ≠ 0 := fun h0 => hmask (by rw [h0]; decide)
  have hridden : e.flags ≠ COOP_ENTITY_RIDDEN := fun h2 => hmask (by rw [h2]; decide)
  obtain ⟨hvalid, hfresh⟩ := releaseOwner_valid h.tables h.roster he hzero hridden
  refine ⟨⟨hvalid, ?_⟩, hfresh⟩
  show ((releaseOwner m.session e).1.players.map CoopPlayer.id).Nodup
  rw [releaseOwner_players h.roster, List.map_map]
  have hids : CoopPlayer.id ∘ CoopPlayer.released e = CoopPlayer.id :=
    funext (Clears.released e).same
  rw [hids]
  exact h.roster

theorem Advances.refl {m : CoopMachine} (h : Consistent m) : Advances m m := ⟨h, Fresh.refl m⟩

theorem Advances.trans {a b c : CoopMachine} (hab : Advances a b) (hbc : Advances b c) :
    Advances a c := ⟨hbc.consistent, hab.fresh.trans hbc.fresh⟩

theorem retireLoop_advances (ram : Nat → UInt8) : ∀ (fuel i : Nat) {m : CoopMachine}, Consistent m →
    Advances m (retireLoop ram fuel i m)
  | 0, _, m, h => Advances.refl h
  | fuel + 1, i, m, h => by
    unfold retireLoop
    split
    · exact Advances.refl h
    rename_i e he
    split
    · split
      · have hstep := forget_advances h e.id
        exact hstep.trans (retireLoop_advances ram fuel i hstep.consistent)
      · split
        · rename_i hrelease
          have hstep := release_advances h he hrelease.2
          exact hstep.trans (retireLoop_advances ram fuel (i + 1) hstep.consistent)
        · exact retireLoop_advances ram fuel (i + 1) h
    · exact retireLoop_advances ram fuel (i + 1) h

theorem forget_length {m : CoopMachine} {i : Nat} {e : CoopEntity} (he : m.entities[i]? = some e) :
    (coopMachineForgetEntity m e.id).entities.length + 1 = m.entities.length := by
  rcases forget_cases m e.id with ⟨-, habsent⟩ | ⟨j, f, hf, -, hforget⟩
  · exact absurd rfl (habsent e (List.mem_of_getElem? he))
  · rw [hforget]
    exact swapRemove_length hf

/-- The bound on the turns of the loop is generous: more turns change nothing. -/
theorem retireLoop_done (ram : Nat → UInt8) : ∀ (fuel i : Nat) (m : CoopMachine),
    m.entities.length ≤ fuel + i → ∀ more, retireLoop ram (fuel + more) i m =
      retireLoop ram fuel i m
  | 0, i, m, h, more => by
    have hend : m.entities[i]? = none := List.getElem?_eq_none (by omega)
    cases more with
    | zero => rfl
    | succ more =>
        show retireLoop ram (0 + more + 1) i m = m
        unfold retireLoop
        rw [hend]
  | fuel + 1, i, m, h, more => by
    rw [Nat.add_right_comm fuel 1 more]
    unfold retireLoop
    cases he : m.entities[i]? with
    | none => rfl
    | some e =>
        have hlen := forget_length he
        dsimp only
        rw [retireLoop_done ram fuel i _ (by omega) more,
          retireLoop_done ram fuel (i + 1) m (by omega) more,
          retireLoop_done ram fuel (i + 1) _ (by rw [List.length_set]; omega) more]

/-! ## Runs -/

/-- Any change of ownership records outside these operations that leaves `entities_valid` true. -/
structure HostClaim (m n : CoopMachine) : Prop where
  valid : entitiesValid n = true
  ids : n.entities.map CoopEntity.id = m.entities.map CoopEntity.id
  next : n.nextEntity = m.nextEntity
  roster : n.session.players.map CoopPlayer.id = m.session.players.map CoopPlayer.id

inductive TableOp where
  | spawn (kind slot type : UInt32)
  | forget (id : CoopEntityId)
  | yoshiSource (level layer x y tile : UInt32)
  | placedEgg (level x y loadIndex : UInt32)
  | retire (ram : Nat → UInt8)
  | claim (n : CoopMachine)

/-- One operation; keys of sources and eggs are in the ranges `entities_valid` allows. -/
def TableOp.step (m : CoopMachine) : TableOp → CoopMachine → Prop
  | .spawn kind slot type, n => n = (coopMachineSpawnEntity m kind slot type).2
  | .forget id, n => n = coopMachineForgetEntity m id
  | .yoshiSource level layer x y tile, n =>
    SourceValid 0 ⟨level, layer, x, y, tile, 0⟩ ∧ n = (coopYoshiSource m level layer x y tile).2
  | .placedEgg level x y loadIndex, n =>
    PlacedEggValid m ⟨level, x, y, loadIndex, 0, 0⟩ ∧ n = (coopPlacedEgg m level x y loadIndex).2
  | .retire ram, n => n = retireReleasedObjects ram m
  | .claim n', n => HostClaim m n' ∧ n = n'

theorem HostClaim.advances {m n : CoopMachine} (hc : HostClaim m n) (h : Consistent m) :
    Advances m n := by
  refine ⟨⟨entitiesValid_iff.1 hc.valid, by rw [hc.roster]; exact h.roster⟩,
    UInt32.le_of_eq hc.next.symm, fun e he => Or.inl ?_⟩
  have hmem : e.id ∈ m.entities.map CoopEntity.id := hc.ids ▸ List.mem_map_of_mem he
  exact List.mem_map.1 hmem

theorem spawn_roster (m : CoopMachine) (kind slot type : UInt32) :
    (coopMachineSpawnEntity m kind slot type).2.session.players.map CoopPlayer.id =
      m.session.players.map CoopPlayer.id := by
  unfold coopMachineSpawnEntity
  split
  · rfl
  split
  · rfl
  dsimp only
  split
  · exact forget_roster _ _
  · rfl

/-- Looking up or creating a record leaves the session's players alone. -/
theorem lookup_roster (m : CoopMachine) (level layer x y tile loadIndex : UInt32) :
    (coopYoshiSource m level layer x y tile).2.session.players = m.session.players ∧
      (coopPlacedEgg m level x y loadIndex).2.session.players = m.session.players := by
  constructor
  · unfold coopYoshiSource
    split
    · rfl
    split
    · rfl
    split <;> rfl
  · unfold coopPlacedEgg
    split
    · rfl
    split
    · rfl
    split <;> rfl

/-- One operation from a consistent machine. -/
theorem TableOp.step_advances {m n : CoopMachine} {op : TableOp} (hstep : TableOp.step m op n)
    (h : Consistent m) : Advances m n := by
  cases op with
  | spawn kind slot type =>
      rw [hstep]
      obtain ⟨hvalid, hfresh⟩ := spawn_valid h.tables kind slot type
      exact ⟨⟨hvalid, by rw [spawn_roster]; exact h.roster⟩, hfresh⟩
  | forget id => rw [hstep]; exact forget_advances h id
  | yoshiSource level layer x y tile =>
      obtain ⟨hkey, rfl⟩ := hstep
      obtain ⟨hvalid, hfresh⟩ := yoshiSource_valid h.tables hkey
      exact ⟨⟨hvalid, by rw [(lookup_roster m level layer x y tile 0).1]; exact h.roster⟩, hfresh⟩
  | placedEgg level x y loadIndex =>
      obtain ⟨hkey, rfl⟩ := hstep
      obtain ⟨hvalid, hfresh⟩ := placedEgg_valid h.tables hkey
      exact ⟨⟨hvalid, by rw [(lookup_roster m level 0 x y 0 loadIndex).2]; exact h.roster⟩, hfresh⟩
  | retire ram => rw [hstep]; exact retireLoop_advances ram _ 0 h
  | claim n' =>
      obtain ⟨hc, rfl⟩ := hstep
      exact hc.advances h

theorem coopMachineInit_some {allocator : Allocator} {count : Nat} {m : CoopMachine}
    (h : coopMachineInit allocator count = some m) : ∃ session rest,
      coopSessionInit allocator count 60 = some session ∧
      m = freshMachine { session with allocator := rest } (session.players.mapIdx initActor) := by
  unfold coopMachineInit at h
  split at h
  · cases h
  split at h
  · cases h
  rename_i session hsession
  split at h
  · cases h
  · cases h
    exact ⟨session, _, hsession, rfl⟩

/-- Actors and pictures of a fresh machine are empty. -/
theorem freshMachine_valid {session : CoopSession} (players : List CoopPlayer)
    (howned : ∀ p ∈ session.players, p.heldObject = COOP_NO_ENTITY ∧ p.mount = COOP_NO_ENTITY) :
    EntitiesValid (freshMachine session (players.mapIdx initActor)) := by
  have hactor : ∀ a ∈ players.mapIdx initActor, a.storedMount = 0 ∧ a.storedMountColor = 0 ∧
      ∀ f ∈ a.fireballs.toList, f = zeroFireball := by
    intro a ha
    obtain ⟨i, hi, rfl⟩ := List.mem_mapIdx.1 ha
    refine ⟨rfl, rfl, fun f hf => ?_⟩
    exact (List.mem_replicate.1 hf).2
  have hfireball : ∀ f ∈ (freshMachine session (players.mapIdx initActor)).fireballs,
    f = zeroFireball := by
    intro f hf
    obtain ⟨a, ha, hfa⟩ := mem_fireballs.1 hf
    exact (hactor a ha).2.2 f hfa
  refine ⟨Nat.zero_le 22, by show (1 : UInt32) ≠ 0; decide, Or.inl rfl, (fun e he => nomatch he),
    List.nodup_nil, List.nodup_nil, (fun s hs => nomatch hs), List.nodup_nil,
    (fun s hs => nomatch hs), List.nodup_nil, List.Pairwise.nil,
    fun p hp => ?_, fun a ha => ?_, ?_, fun f hf => ?_, ?_⟩
  · exact ⟨fun hne => absurd (howned p hp).1 hne, fun hne => absurd (howned p hp).2 hne⟩
  · obtain ⟨hmount, hcolor, -⟩ := hactor a ha
    exact ⟨by rw [hcolor]; exact ⟨by decide, fun _ => rfl⟩, fun hne => absurd hmount hne,
      fun hne => absurd hmount hne, fun hne => absurd hmount hne, fun hne => absurd hmount hne⟩
  · refine List.pairwise_of_forall_mem_list fun a ha b hb => ?_
    exact ⟨fun hne => absurd (hactor b hb).1 hne, fun hne => absurd (hactor a ha).1 hne⟩
  · rw [hfireball f hf]
    exact ⟨Or.inl rfl, by show (0 : UInt32) < 1; decide, fun _ => ⟨rfl, rfl, rfl⟩,
      fun hne => absurd rfl hne⟩
  · refine List.pairwise_of_forall_mem_list fun g hg f hf hne => ?_
    rw [hfireball f hf] at hne
    exact absurd rfl hne

theorem coopMachineInit_consistent {allocator : Allocator} {count : Nat} {m : CoopMachine}
    (h : coopMachineInit allocator count = some m) : Consistent m := by
  obtain ⟨session, rest, hsession, rfl⟩ := coopMachineInit_some h
  obtain ⟨-, -, -, -, hplayers, -⟩ := coopSessionInit_some hsession
  refine ⟨freshMachine_valid session.players fun p hp => ?_,
    (coopSessionInit_valid hsession).distinct⟩
  have hp : p ∈ session.players := hp
  rw [hplayers] at hp
  obtain ⟨i, -, rfl⟩ := List.mem_map.1 hp
  exact ⟨rfl, rfl⟩

/-- An identity handed out earlier and no longer in the table. -/
def Retired (id : CoopEntityId) (m : CoopMachine) : Prop :=
  id < m.nextEntity ∧ ∀ e ∈ m.entities, e.id ≠ id

theorem Retired.advances {id : CoopEntityId} {m n : CoopMachine} (hr : Retired id m)
    (h : Fresh m n) : Retired id n := by
  refine ⟨UInt32.lt_of_lt_of_le hr.1 h.next, fun e he heq => ?_⟩
  rcases h.ids e he with ⟨f, hf, hid⟩ | hle
  · exact hr.2 f hf (hid.trans heq)
  · exact UInt32.lt_irrefl _ (UInt32.lt_of_lt_of_le hr.1 (heq ▸ hle))

theorem run_advances {m n : CoopMachine} {steps : List (CoopMachine × TableOp × CoopMachine)}
    (hrun : Run TableOp.step m steps n) (h : Consistent m) : Advances m n := by
  induction hrun with
  | nil => exact Advances.refl h
  | cons hstep _ ih =>
      have hadv := TableOp.step_advances hstep h
      exact hadv.trans (ih hadv.consistent)

/-- **The entity tables of every reachable machine are consistent**: `entities_valid` holds, one
entity per slot, distinct identities, no dangling reference; and an identity that was in the table
and has left it does not return. -/
theorem entity_tables {allocator : Allocator} {count : Nat} {m₀ m : CoopMachine}
    {steps : List (CoopMachine × TableOp × CoopMachine)}
    (hinit : coopMachineInit allocator count = some m₀) (hrun : Run TableOp.step m₀ steps m) :
    entitiesValid m = true ∧
    (m.entities.map (fun e => (e.kind, e.slot))).Nodup ∧ (m.entities.map CoopEntity.id).Nodup ∧
    (∀ p ∈ m.session.players,
      (p.heldObject ≠ COOP_NO_ENTITY → ∃ e ∈ m.entities, e.id = p.heldObject) ∧
      (p.mount ≠ COOP_NO_ENTITY → ∃ e ∈ m.entities, e.id = p.mount)) ∧
    (∀ s ∈ m.placedEggs, s.egg ≠ 0 → ∃ e ∈ m.entities, e.id = s.egg) ∧
    ∀ steps₁ n₁ steps₂ n₂, Run TableOp.step m steps₁ n₁ → Run TableOp.step n₁ steps₂ n₂ →
      ∀ e ∈ m.entities, (∀ f ∈ n₁.entities, f.id ≠ e.id) → ∀ f ∈ n₂.entities, f.id ≠ e.id := by
  have h := (run_advances hrun (coopMachineInit_consistent hinit)).consistent
  refine ⟨entitiesValid_iff.2 h.tables, h.tables.slots, h.tables.ids,
    fun p hp => ⟨fun hne => ?_, fun hne => ?_⟩, fun s hs hne =>
    ?_, fun steps₁ n₁ steps₂ n₂ hrun₁ hrun₂ e he hgone => ?_⟩
  · obtain ⟨e, he, -, hid, -⟩ := (h.tables.players p hp).held hne
    exact ⟨e, he, hid⟩
  · obtain ⟨e, he, -, hid, -⟩ := (h.tables.players p hp).mount hne
    exact ⟨e, he, hid⟩
  · obtain ⟨-, e, he, his⟩ := (h.tables.eggs s hs).egg hne
    exact ⟨e, he, his.id⟩
  · have h₁ := run_advances hrun₁ h
    have hretired : Retired e.id n₁ :=
      ⟨UInt32.lt_of_lt_of_le (h.tables.entities e he).id.2 h₁.fresh.next, hgone⟩
    exact (hretired.advances (run_advances hrun₂ h₁.consistent).fresh).2

/-- Two players, freshly initialised. -/
def pairMachine : CoopMachine := freshMachine pairSession (pairSession.players.mapIdx initActor)

theorem pairMachine_init : coopMachineInit [] 2 = some pairMachine := rfl

/-- A shell in slot 3. -/
def shellMachine : CoopMachine := (coopMachineSpawnEntity pairMachine COOP_ENTITY_NORMAL 3 0x04).2

/-- The first player has picked the shell up. -/
def carriedMachine : CoopMachine :=
  { shellMachine with
    session := { shellMachine.session with
      players := [{ initPlayer 0 with heldObject := 1 }, initPlayer 1] }
    entities :=
    [{ spawnedEntity 1 COOP_ENTITY_NORMAL 3 0x04 with owner := 0, flags := COOP_ENTITY_HELD }] }

/-- Another sprite has taken slot 3. -/
def replacedMachine : CoopMachine :=
  (coopMachineSpawnEntity carriedMachine COOP_ENTITY_NORMAL 3 0x0f).2

theorem replacedMachine_run : Run TableOp.step pairMachine
    [(pairMachine, .spawn COOP_ENTITY_NORMAL 3 0x04, shellMachine),
     (shellMachine, .claim carriedMachine, carriedMachine),
     (carriedMachine, .spawn COOP_ENTITY_NORMAL 3 0x0f, replacedMachine)] replacedMachine :=
  have hspawn : TableOp.step pairMachine (.spawn COOP_ENTITY_NORMAL 3 0x04) shellMachine := rfl
  have hclaim : TableOp.step shellMachine (.claim carriedMachine) carriedMachine :=
    ⟨⟨by decide, rfl, rfl, rfl⟩, rfl⟩
  have hreplace : TableOp.step carriedMachine (.spawn COOP_ENTITY_NORMAL 3 0x0f) replacedMachine :=
    rfl
  .cons hspawn (.cons hclaim (.cons hreplace (.nil _)))

theorem entity_tables_replaced : entitiesValid replacedMachine = true ∧
    replacedMachine.session.players = [initPlayer 0, initPlayer 1] :=
  ⟨(entity_tables pairMachine_init replacedMachine_run).1, by decide⟩

end SmwRecomp.Coop
