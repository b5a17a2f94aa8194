import SmwRecomp.Coop.Room
import SmwRecomp.Lib.Run

/-!
# Parking the mounts

The two changes a room transition makes to the tables, and its first loop.

* `Sound` — what `entities_valid` asks of a record by itself.
* `stored_valid`, `adds_valid` — storing a mount, adding a record with its owner's reference.
* `Parked`, `parkLoop_ready` — every rider is on foot, its mount stored.
-/

set_option autoImplicit false

namespace SmwRecomp.Coop

variable {κ : Type}

/-! ## Changes of the tables -/

section Tables

variable {m n : CoopMachine}

/-- What `entities_valid` asks of a record apart from its owner's references. -/
structure Sound (m : CoopMachine) (e : CoopEntity) : Prop where
  mount : e.mountValid = true → e.kind = COOP_ENTITY_NORMAL ∧ e.type = 0x35
  id : e.id ≠ 0 ∧ e.id < m.nextEntity
  slot : entitySlotValid e.kind e.slot = true
  type : e.type ≤ 255
  flags : e.flags &&& ~~~15 = 0 ∧ (e.flags ≠ 0 → e.flags &&& (e.flags - 1) = 0)
  owner : Addressee m.session.players e.owner
  target : Addressee m.session.players e.target
  owned : e.owner = COOP_NO_PLAYER ↔ e.flags = 0
  normal : e.flags &&& (COOP_ENTITY_HELD ||| COOP_ENTITY_RIDDEN ||| COOP_ENTITY_ATTACHED) ≠ 0 →
    e.kind = COOP_ENTITY_NORMAL

theorem EntityValid.sound {e : CoopEntity} (h : EntityValid m e) : Sound m e :=
  ⟨h.mount, h.id, h.slot, h.type, h.flags, h.owner, h.target, h.owned, h.normal⟩

theorem Sound.valid {e : CoopEntity} (h : Sound m e)
    (hheld : e.flags = COOP_ENTITY_HELD → ∀ p, coopPlayer m.session e.owner = some p →
      p.heldObject = e.id)
    (hridden : e.flags = COOP_ENTITY_RIDDEN → ∀ p, coopPlayer m.session e.owner = some p →
      p.mount = e.id) :
    EntityValid m e :=
  ⟨h.mount, h.id, h.slot, h.type, h.flags, h.owner, h.target, h.owned, h.normal, hheld, hridden⟩

theorem Sound.mono {e : CoopEntity} (h : Sound m e)
    (hroster : n.session.players.map CoopPlayer.id = m.session.players.map CoopPlayer.id)
    (hnext : m.nextEntity ≤ n.nextEntity) : Sound n e :=
  ⟨h.mount, ⟨h.id.1, UInt32.lt_of_lt_of_le h.id.2 hnext⟩, h.slot, h.type, h.flags,
    h.owner.of_ids hroster, h.target.of_ids hroster, h.owned, h.normal⟩

/-- Writing an actor with the same fireballs leaves the fireballs alone. -/
theorem putActor_fireballs (hactors : (m.actors.map CoopActor.player).Nodup) {a b : CoopActor}
    (ha : a ∈ m.actors) (hplayer : b.player = a.player) (hsame : b.fireballs = a.fireballs) :
    (putActor m b).fireballs = m.fireballs := by
  unfold CoopMachine.fireballs putActor
  dsimp only
  rw [putKey_eq_map hactors, List.flatMap_map]
  refine List.flatMap_congr fun c hc => ?_
  split
  · rename_i hp
    rw [hsame, List.inj_on_of_nodup_map hactors hc ha (hp.trans hplayer)]
  · rfl

/-- An actor's stored mount changes: to none, or to an identity nothing else has, of a player that
rides nothing. -/
theorem stored_valid (h : EntitiesValid m) (hactors : (m.actors.map CoopActor.player).Nodup)
    {a : CoopActor} (ha : a ∈ m.actors) {id : CoopEntityId} {color : UInt32} {next : UInt32}
    (hnext : m.nextEntity ≤ next) (hpositive : next ≠ 0)
    (hcolor : color ≤ 255 ∧ (id = 0 → color = 0))
    (hrider : id ≠ 0 → ∃ p, coopPlayer m.session a.player = some p ∧ p.mount = COOP_NO_ENTITY)
    (hid : id ≠ 0 → id < next) (hentity : id ≠ 0 → ∀ e ∈ m.entities, e.id ≠ id)
    (hstored : id ≠ 0 → ∀ b ∈ m.actors, b.storedMount ≠ id)
    (hfireball : id ≠ 0 → ∀ f ∈ m.fireballs, f.id ≠ id) :
    EntitiesValid
      (putActor { m with nextEntity := next }
      { a with storedMount := id, storedMountColor := color }) := by
  have hput : putKey CoopActor.player
    { a with storedMount := id, storedMountColor := color } m.actors =
      m.actors.map (fun b => if b.player = a.player then
        { a with storedMount := id, storedMountColor := color } else b) := putKey_eq_map hactors
  have hfireballs : (putActor { m with nextEntity := next }
      { a with storedMount := id, storedMountColor := color }).fireballs = m.fireballs :=
    putActor_fireballs (m := { m with nextEntity := next }) hactors ha rfl rfl
  refine ⟨h.count, hpositive, h.level, fun e he => ?_, h.ids, h.slots, fun s hs => ?_, h.sourceKeys,
    fun s hs => ?_, h.eggKeys, h.eggReferences, h.players, fun b hb => ?_, ?_, fun f hf => ?_, ?_⟩
  · have he := h.entities e he
    have hsound : Sound (putActor { m with nextEntity := next }
        { a with storedMount := id, storedMountColor := color }) e := he.sound.mono rfl hnext
    exact hsound.valid he.held he.ridden
  · have hlen : (putKey CoopActor.player { a with storedMount := id, storedMountColor := color }
        m.actors).length = m.actors.length := putKey_length _ _
    show SourceValid (putKey CoopActor.player _ m.actors).length s
    rw [hlen]
    exact h.sources s hs
  · have hs := h.eggs s hs
    have hlen : (putKey CoopActor.player { a with storedMount := id, storedMountColor := color }
        m.actors).length = m.actors.length := putKey_length _ _
    refine ⟨hs.level, hs.x, hs.y, hs.aligned, hs.loadIndex, ?_, hs.egg⟩
    show s.uses.toNat ≤ (putKey CoopActor.player _ m.actors).length
    rw [hlen]
    exact hs.uses
  · rcases mem_putKey hb with rfl | hb
    · exact ⟨hcolor, hrider, hid, hentity, by rw [hfireballs]; exact hfireball⟩
    · have hb := h.stored b hb
      exact ⟨hb.color, hb.rider, fun hne => UInt32.lt_of_lt_of_le (hb.id hne) hnext, hb.entity,
        by rw [hfireballs]; exact hb.fireball⟩
  · -- two records of the roster are different actors, so at most one of them has changed
    show (putKey CoopActor.player _ m.actors).Pairwise _
    rw [hput, List.pairwise_map]
    refine (h.storedApart.and (List.pairwise_map.1 hactors)).imp_of_mem ?_
    rintro b c hb hc ⟨⟨hbc, hcb⟩, hne⟩
    split <;> split
    · rename_i hpb hpc
      exact absurd (hpb.trans hpc.symm) (Ne.symm hne)
    · exact ⟨fun hid heq => hstored hid b hb heq,
        fun hb' heq => hstored (fun h0 => hb' (heq.symm.trans h0)) b hb heq.symm⟩
    · exact ⟨fun hc' heq => hstored (fun h0 => hc' (heq.symm.trans h0)) c hc heq.symm,
        fun hid heq => hstored hid c hc heq⟩
    · exact ⟨hbc, hcb⟩
  · rw [hfireballs] at hf
    have hf := h.fireballs f hf
    exact ⟨hf.kind, UInt32.lt_of_lt_of_le hf.id hnext, hf.idle, hf.entity⟩
  · rw [hfireballs]
    exact h.fireballsApart

/-- What the owner of `e` refers to. -/
def CoopPlayer.claimed (e : CoopEntity) (p : CoopPlayer) : CoopPlayer :=
  if p.id = e.owner then { p with
    heldObject := if e.flags = COOP_ENTITY_HELD then e.id else p.heldObject
    mount := if e.flags = COOP_ENTITY_RIDDEN then e.id else p.mount }
  else p

@[simp] theorem CoopPlayer.claimed_id (e : CoopEntity) (p : CoopPlayer) :
    (p.claimed e).id = p.id := by
  unfold CoopPlayer.claimed
  split <;> rfl

theorem CoopPlayer.claimed_held (e : CoopEntity) (p : CoopPlayer) : (p.claimed e).heldObject =
    if p.id = e.owner ∧ e.flags = COOP_ENTITY_HELD then e.id else p.heldObject := by
  unfold CoopPlayer.claimed
  by_cases hid : p.id = e.owner <;> simp [hid]

theorem CoopPlayer.claimed_mount (e : CoopEntity) (p : CoopPlayer) : (p.claimed e).mount =
    if p.id = e.owner ∧ e.flags = COOP_ENTITY_RIDDEN then e.id else p.mount := by
  unfold CoopPlayer.claimed
  by_cases hid : p.id = e.owner <;> simp [hid]

/-- `n` is `m` with the record `e` and its owner's reference. -/
structure Adds (m n : CoopMachine) (e : CoopEntity) : Prop where
  actors : SameActors m n
  sources : n.sources = m.sources
  eggs : n.placedEggs = m.placedEggs
  next : m.nextEntity ≤ n.nextEntity
  entities : n.entities = m.entities ++ [e]
  players : n.session.players = m.session.players.map (CoopPlayer.claimed e)

/-- What makes `e` new in `m`. -/
structure New (m : CoopMachine) (e : CoopEntity) : Prop where
  id : ∀ f ∈ m.entities, f.id ≠ e.id
  slot : ∀ f ∈ m.entities, (f.kind, f.slot) ≠ (e.kind, e.slot)
  stored : ∀ a ∈ m.actors, a.storedMount ≠ 0 → a.storedMount ≠ e.id
  fireball : ∀ f ∈ m.fireballs, f.id ≠ 0 → f.id ≠ e.id
  held : e.flags = COOP_ENTITY_HELD →
    ∀ p, coopPlayer m.session e.owner = some p → p.heldObject = COOP_NO_ENTITY
  ridden : e.flags = COOP_ENTITY_RIDDEN →
    ∀ p, coopPlayer m.session e.owner = some p → p.mount = COOP_NO_ENTITY
  rider : e.flags = COOP_ENTITY_RIDDEN → ∀ a ∈ m.actors, a.player = e.owner → a.storedMount = 0

section Adds

variable {e : CoopEntity}

theorem Adds.roster (h : Adds m n e) :
    n.session.players.map CoopPlayer.id = m.session.players.map CoopPlayer.id := by
  rw [h.players, List.map_map]
  exact List.map_congr_left fun p _ => p.claimed_id e

theorem Adds.player (h : Adds m n e) (id : CoopPlayerId) :
    coopPlayer n.session id = (coopPlayer m.session id).map (CoopPlayer.claimed e) := by
  unfold coopPlayer
  rw [h.players]
  exact findKey_map (fun p => p.claimed_id e) id m.session.players

theorem Adds.mem (h : Adds m n e) {f : CoopEntity} : f ∈ n.entities ↔ f ∈ m.entities ∨ f = e := by
  rw [h.entities, List.mem_append, List.mem_singleton]

/-- A record that was there keeps its owner's reference. -/
theorem Adds.kept (h : Adds m n e) (hm : EntitiesValid m) (hnew : New m e) {f : CoopEntity}
    (hf : f ∈ m.entities) : EntityValid n f := by
  have hvalid := hm.entities f hf
  have hnamed := hm.named f hf
  refine (hvalid.sound.mono h.roster h.next).valid (fun hheld q hq => ?_) fun hridden q hq => ?_
  · rw [h.player] at hq
    obtain ⟨p, hp, rfl⟩ := Option.map_eq_some_iff.1 hq
    have hpf := hvalid.held hheld p hp
    rw [p.claimed_held]
    split
    · rename_i hclaim
      have hempty := hnew.held hclaim.2 p (by rw [← hclaim.1, coopPlayer_id hp]; exact hp)
      exact absurd (hpf.symm.trans hempty) hnamed
    · exact hpf
  · rw [h.player] at hq
    obtain ⟨p, hp, rfl⟩ := Option.map_eq_some_iff.1 hq
    have hpf := hvalid.ridden hridden p hp
    rw [p.claimed_mount]
    split
    · rename_i hclaim
      have hempty := hnew.ridden hclaim.2 p (by rw [← hclaim.1, coopPlayer_id hp]; exact hp)
      exact absurd (hpf.symm.trans hempty) hnamed
    · exact hpf

/-- The new record has its owner's reference. -/
theorem Adds.added (h : Adds m n e) (he : Sound n e) : EntityValid n e := by
  refine he.valid (fun hheld q hq => ?_) fun hridden q hq => ?_
  · rw [h.player] at hq
    obtain ⟨p, hp, rfl⟩ := Option.map_eq_some_iff.1 hq
    rw [p.claimed_held, if_pos ⟨coopPlayer_id hp, hheld⟩]
  · rw [h.player] at hq
    obtain ⟨p, hp, rfl⟩ := Option.map_eq_some_iff.1 hq
    rw [p.claimed_mount, if_pos ⟨coopPlayer_id hp, hridden⟩]

theorem Adds.owned (h : Adds m n e) {p : CoopPlayer} (hp : Owned m.entities p) :
    Owned n.entities (p.claimed e) := by
  have hstays : ∀ f ∈ m.entities, f ∈ n.entities := fun f hf => h.mem.2 (Or.inl hf)
  refine ⟨fun hne => ?_, fun hne => ?_⟩
  · rw [p.claimed_held] at hne ⊢
    rw [p.claimed_id]
    split at hne
    · rename_i hclaim
      rw [if_pos hclaim]
      exact ⟨e, h.mem.2 (Or.inr rfl), hclaim.1.symm, rfl, hclaim.2⟩
    · rename_i hclaim
      rw [if_neg hclaim]
      obtain ⟨f, hf, howned⟩ := hp.held hne
      exact ⟨f, hstays f hf, howned⟩
  · rw [p.claimed_mount] at hne ⊢
    rw [p.claimed_id]
    split at hne
    · rename_i hclaim
      rw [if_pos hclaim]
      exact ⟨e, h.mem.2 (Or.inr rfl), hclaim.1.symm, rfl, hclaim.2⟩
    · rename_i hclaim
      rw [if_neg hclaim]
      obtain ⟨f, hf, howned⟩ := hp.mount hne
      exact ⟨f, hstays f hf, howned⟩

theorem Adds.storedMount (h : Adds m n e) (hnew : New m e) {a b : CoopActor} (ha : a ∈ m.actors)
    (hab : a.belongings = b.belongings) (hvalid : StoredMountValid m a) : StoredMountValid n b := by
  have hplayer : b.player = a.player := (congrArg Belongings.player hab).symm
  have hstored : b.storedMount = a.storedMount := (congrArg Belongings.storedMount hab).symm
  have hcolor : b.storedMountColor = a.storedMountColor :=
    (congrArg Belongings.storedMountColor hab).symm
  constructor
  · rw [hcolor, hstored]
    exact hvalid.color
  · intro hne
    rw [hstored] at hne
    obtain ⟨p, hp, hmount⟩ := hvalid.rider hne
    refine ⟨p.claimed e, by rw [hplayer, h.player, hp]; rfl, ?_⟩
    rw [p.claimed_mount, if_neg]
    · exact hmount
    · rintro ⟨howner, hflags⟩
      exact hne (hnew.rider hflags a ha ((coopPlayer_id hp).symm.trans howner))
  · intro hne
    rw [hstored] at hne ⊢
    exact UInt32.lt_of_lt_of_le (hvalid.id hne) h.next
  · intro hne f hf
    rw [hstored] at hne ⊢
    rcases h.mem.1 hf with hf | rfl
    · exact hvalid.entity hne f hf
    · exact fun heq => hnew.stored a ha hne heq.symm
  · intro hne
    rw [hstored] at hne ⊢
    rw [h.actors.fireballs_eq]
    exact hvalid.fireball hne

theorem adds_valid (hm : EntitiesValid m) (h : Adds m n e) (he : Sound n e) (hnew : New m e) :
    EntitiesValid n := by
  have hvalid : ∀ f ∈ n.entities, EntityValid n f := by
    intro f hf
    rcases h.mem.1 hf with hf | rfl
    · exact h.kept hm hnew hf
    · exact h.added he
  have hkeys : ∀ {β : Type} (key : CoopEntity → β), (m.entities.map key).Nodup →
      (∀ f ∈ m.entities, key f ≠ key e) → (n.entities.map key).Nodup := by
    intro β key hnd hne
    rw [h.entities, List.map_append, List.map_cons, List.map_nil, ← List.concat_eq_append,
      List.nodup_concat]
    refine ⟨fun hmem => ?_, hnd⟩
    obtain ⟨f, hf, heq⟩ := List.mem_map.1 hmem
    exact hne f hf heq
  have hslots := hkeys (fun e => (e.kind, e.slot)) hm.slots hnew.slot
  constructor
  · exact length_le_of_slots (fun f hf => (hvalid f hf).slot) hslots
  · intro hzero
    have hle := h.next
    rw [hzero, UInt32.le_iff_toNat_le] at hle
    exact hm.next (UInt32.toNat_inj.1 (Nat.le_zero.1 hle))
  · rw [h.actors.level]
    exact hm.level
  · exact hvalid
  · exact hkeys CoopEntity.id hm.ids hnew.id
  · exact hslots
  · rw [h.sources, h.actors.length]
    exact hm.sources
  · rw [h.sources]
    exact hm.sourceKeys
  · intro s hs
    exact (hm.eggs s (h.eggs ▸ hs)).frame h.actors fun f hf _ => h.mem.2 (Or.inl hf)
  · rw [h.eggs]
    exact hm.eggKeys
  · rw [h.eggs]
    exact hm.eggReferences
  · intro q hq
    rw [h.players] at hq
    obtain ⟨p, hp, rfl⟩ := List.mem_map.1 hq
    exact h.owned (hm.players p hp)
  · intro b hb
    obtain ⟨a, ha, hab⟩ := h.actors.mem hb
    exact h.storedMount hnew ha hab (hm.stored a ha)
  · have hmap :=
      List.pairwise_map.2 (show m.actors.Pairwise (fun a b => BelongApart a.belongings b.belongings)
      from hm.storedApart)
    rw [← h.actors.actors] at hmap
    exact List.pairwise_map.1 hmap
  · intro f hf
    rw [h.actors.fireballs_eq] at hf
    have hball := hm.fireballs f hf
    refine ⟨hball.kind, UInt32.lt_of_lt_of_le hball.id h.next, ?_, fun hne g hg => ?_⟩
    · rw [h.actors.fireballs]
      exact hball.idle
    · rcases h.mem.1 hg with hg | rfl
      · exact hball.entity hne g hg
      · exact hnew.fireball f hf hne
  · rw [h.actors.fireballs_eq]
    exact hm.fireballsApart

end Adds

end Tables

/-! ## Parking the mounts -/

/-- A machine in which tables, roster and actors fit together. -/
structure Standing (m : CoopMachine) : Prop where
  tables : EntitiesValid m
  roster : (m.session.players.map CoopPlayer.id).Nodup
  named : ∀ p ∈ m.session.players, p.id ≠ COOP_NO_PLAYER
  actors : ActorsMatch m

section Parking

variable {m n : CoopMachine}

theorem Standing.actorKeys (h : Standing m) : (m.actors.map CoopActor.player).Nodup :=
  (List.Perm.nodup_iff h.actors).2 h.roster

/-- The part of `Standing` that is about identities of players and actors alone. -/
theorem Standing.of_tables (h : Standing m) (htables : EntitiesValid n)
    (hroster : n.session.players.map CoopPlayer.id = m.session.players.map CoopPlayer.id)
    (hactors : n.actors.map CoopActor.player = m.actors.map CoopActor.player) : Standing n := by
  refine ⟨htables, by rw [hroster]; exact h.roster, fun q hq => ?_, ?_⟩
  · have hmem : q.id ∈ m.session.players.map CoopPlayer.id := hroster ▸ List.mem_map_of_mem hq
    obtain ⟨p, hp, hid⟩ := List.mem_map.1 hmem
    rw [← hid]
    exact h.named p hp
  · unfold ActorsMatch
    rw [hroster, hactors]
    exact h.actors

theorem SameActors.players (h : SameActors m n) :
    n.actors.map CoopActor.player = m.actors.map CoopActor.player := by
  have hkeys : ∀ k : CoopMachine, k.actors.map CoopActor.player =
      (k.actors.map CoopActor.belongings).map Belongings.player := fun k => by
    rw [List.map_map]; rfl
  rw [hkeys, h.actors, ← hkeys]

theorem Standing.same (h : Standing m) (hsame : SameOwnership m n) : Standing n :=
  h.of_tables (h.tables.same h.roster hsame) hsame.roster hsame.toSameActors.players

/-- The stored mount of an actor, where no ownership record differs. -/
theorem SameActors.storedMount (h : SameActors m n) {P : CoopPlayerId} {a : CoopActor}
    (ha : coopMachineActor m P = some a) :
    ∃ b, coopMachineActor n P = some b ∧ b.storedMount = a.storedMount := by
  have hfind : ∀ k : CoopMachine, (coopMachineActor k P).map CoopActor.belongings =
      findKey Belongings.player P (k.actors.map CoopActor.belongings) := fun k =>
    (findKey_map (f := CoopActor.belongings) (show ∀ a : CoopActor, Belongings.player a.belongings =
      a.player from fun _ => rfl) P
      k.actors).symm
  have heq : (coopMachineActor n P).map CoopActor.belongings = some a.belongings := by
    rw [hfind, h.actors, ← hfind, ha]
    rfl
  obtain ⟨b, hb, hbelongings⟩ := Option.map_eq_some_iff.1 heq
  exact ⟨b, hb, congrArg Belongings.storedMount hbelongings⟩

theorem forget_putActor (m : CoopMachine) (a : CoopActor) (id : CoopEntityId) :
    coopMachineForgetEntity (putActor m a) id = putActor (coopMachineForgetEntity m id) a := by
  unfold coopMachineForgetEntity putActor
  dsimp only
  cases indexKey CoopEntity.id id m.entities <;> rfl

theorem forget_actors (m : CoopMachine) (id : CoopEntityId) :
    (coopMachineForgetEntity m id).actors = m.actors := by
  rcases forget_cases m id with ⟨h, -⟩ | ⟨i, e, -, -, h⟩ <;> rw [h]

theorem forget_player {e : CoopEntity} (he : e ∈ m.entities) (P : CoopPlayerId) :
    coopPlayer (coopMachineForgetEntity m e.id).session P =
      (coopPlayer m.session P).map (CoopPlayer.forget · e.id) := by
  rcases forget_cases m e.id with ⟨-, habsent⟩ | ⟨i, f, -, -, h⟩
  · exact absurd rfl (habsent e he)
  · rw [h]
    unfold coopPlayer
    exact findKey_map (f := (CoopPlayer.forget · e.id)) (fun _ => rfl) P m.session.players

theorem coopMachineActor_putActor (a : CoopActor) (P : CoopPlayerId) :
    coopMachineActor (putActor m a) P =
      if P = a.player then (coopMachineActor m P).map (fun _ => a) else coopMachineActor m P :=
  findKey_putKey a P m.actors

/-- A rider's mount, found through its record. -/
theorem EntitiesValid.rider (h : EntitiesValid m) {P : CoopPlayerId} {q : CoopPlayer}
    {e : CoopEntity}
    (hq : coopPlayer m.session P = some q) (he : coopMachineEntity m q.mount = some e) :
    e.id = q.mount ∧ e.owner = P ∧ e.flags = COOP_ENTITY_RIDDEN := by
  obtain ⟨hmem, hid⟩ := findKey_some he
  have hne : q.mount ≠ COOP_NO_ENTITY := hid ▸ h.named e hmem
  obtain ⟨f, hf, howner, hfid, hflags⟩ := (h.players q (coopPlayer_mem hq)).mount hne
  have hsame : f = e := List.inj_on_of_nodup_map h.ids hf hmem (hfid.trans hid.symm)
  rw [← hsame]
  exact ⟨hfid, howner.trans (coopPlayer_id hq), hflags⟩

theorem EntitiesValid.mount_found (h : EntitiesValid m) {P : CoopPlayerId} {q : CoopPlayer}
    (hq : coopPlayer m.session P = some q) (hne : q.mount ≠ COOP_NO_ENTITY) :
    (coopMachineEntity m q.mount).isSome := by
  obtain ⟨e, he, -, hid, -⟩ := (h.players q (coopPlayer_mem hq)).mount hne
  exact findKey_isSome.2 ⟨e, he, hid⟩

theorem byte_le (b : UInt8) : b.toUInt32 ≤ 255 := by
  rw [UInt32.le_iff_toNat_le, UInt8.toNat_toUInt32]
  exact Nat.le_of_lt_succ b.toNat_lt

/-- What parking the mount of `P` does. -/
structure Parks (m n : CoopMachine) (P : CoopPlayerId) (id : CoopEntityId) : Prop where
  standing : Standing n
  roster : n.session.players.map CoopPlayer.id = m.session.players.map CoopPlayer.id
  actors : n.actors.map CoopActor.player = m.actors.map CoopActor.player
  entities : ∀ e ∈ n.entities, e ∈ m.entities
  player : ∀ P' p, coopPlayer m.session P' = some p → ∃ q, coopPlayer n.session P' = some q ∧
    q.mount = if P' = P then COOP_NO_ENTITY else p.mount
  stored : ∀ P' a, coopMachineActor m P' = some a → ∃ b, coopMachineActor n P' = some b ∧
    b.storedMount = if P' = P then id else a.storedMount

theorem park_parks (h : Standing m) {P : CoopPlayerId} {q : CoopPlayer} {a : CoopActor}
    {e : CoopEntity}
    (hq : coopPlayer m.session P = some q) (he : coopMachineEntity m q.mount = some e)
    (ha : coopMachineActor m P = some a) {color : UInt32} (hcolor : color ≤ 255) :
    Parks m (coopMachineForgetEntity
      (putActor m { a with storedMount := e.id, storedMountColor := color }) e.id) P e.id := by
  obtain ⟨hid, howner, hflags⟩ := h.tables.rider hq he
  have hmem := (findKey_some he).1
  obtain ⟨hamem, haplayer⟩ := findKey_some ha
  have hentity := h.tables.entities e hmem
  obtain ⟨hforget, -, hgone⟩ := forget_valid h.tables e.id
  have hzero : e.id ≠ 0 := hentity.id.1
  have hplayer := forget_player hmem
  have hempty : (q.forget e.id).mount = COOP_NO_ENTITY := if_pos hid.symm
  have hactors := forget_actors m e.id
  have hnext := forget_next m e.id
  have hroster := forget_roster m e.id
  rw [forget_putActor]
  generalize coopMachineForgetEntity m e.id = m₁ at hforget hgone hplayer hactors hnext hroster ⊢
  have hvalid : EntitiesValid (putActor { m₁ with nextEntity := m₁.nextEntity }
      { a with storedMount := e.id, storedMountColor := color }) := by
    refine stored_valid hforget (by rw [hactors]; exact h.actorKeys) (by rw [hactors]; exact hamem)
      (UInt32.le_refl _) hforget.next ⟨hcolor, fun h0 => absurd h0 hzero⟩
        (fun _ => ?_) (fun _ => ?_)
      (fun _ f hf => (hgone f hf).2) (fun _ b hb heq => ?_) fun _ f hf heq => ?_
    · exact ⟨q.forget e.id, by rw [haplayer, hplayer, hq]; rfl, hempty⟩
    · rw [hnext]
      exact hentity.id.2
    · rw [hactors] at hb
      exact (h.tables.stored b hb).entity (heq ▸ hzero) e hmem heq.symm
    · have hball : f ∈ m.fireballs := by
        unfold CoopMachine.fireballs at hf ⊢
        rwa [hactors] at hf
      exact (h.tables.fireballs f hball).entity (heq ▸ hzero) e hmem heq
  have hkeys : (putActor m₁
      { a with storedMount := e.id, storedMountColor := color }).actors.map CoopActor.player =
      m.actors.map CoopActor.player := by
    unfold putActor
    rw [map_key_putKey, hactors]
  refine ⟨h.of_tables hvalid hroster hkeys, hroster, hkeys, fun f hf => (hgone f hf).1,
    fun P' p hp => ?_, fun P' b hb => ?_⟩
  · refine ⟨p.forget e.id, (hplayer P').trans (by rw [hp]; rfl), ?_⟩
    by_cases hsame : P' = P
    · rw [hsame, hq] at hp
      cases hp
      rw [if_pos hsame]
      exact hempty
    · rw [if_neg hsame]
      refine if_neg fun heq => hsame ?_
      have hfound : coopMachineEntity m p.mount = some e := by rw [heq, hid]; exact he
      exact (h.tables.rider hp hfound).2.1.symm.trans howner
  · rw [coopMachineActor_putActor]
    have hfind : coopMachineActor m₁ P' = some b := by
      unfold coopMachineActor
      rw [hactors]
      exact hb
    by_cases hsame : P' = P
    · rw [if_pos (hsame.trans haplayer.symm), hfind]
      exact ⟨_, rfl, (if_pos hsame).symm⟩
    · rw [if_neg fun heq => hsame (heq.trans haplayer), hfind]
      exact ⟨b, rfl, (if_neg hsame).symm⟩

/-- The mounts of the riders in `done` have been parked. -/
structure Parked (m₀ : CoopMachine) (done : List CoopPlayerId) (m : CoopMachine) : Prop where
  standing : Standing m
  roster : m.session.players.map CoopPlayer.id = m₀.session.players.map CoopPlayer.id
  actors : m.actors.map CoopActor.player = m₀.actors.map CoopActor.player
  entities : ∀ e ∈ m.entities, e ∈ m₀.entities
  waiting : ∀ P p, P ∉ done → coopPlayer m₀.session P = some p →
    ∃ q, coopPlayer m.session P = some q ∧ q.mount = p.mount
  dismounted : ∀ P q, P ∈ done → coopPlayer m.session P = some q → q.mount = COOP_NO_ENTITY
  stored : ∀ P p, P ∈ done → coopPlayer m₀.session P = some p → p.mount ≠ COOP_NO_ENTITY →
    ∃ b, coopMachineActor m P = some b ∧ b.storedMount = p.mount

theorem Parked.start (h : Standing m) : Parked m [] m :=
  ⟨h, rfl, rfl, fun _ he => he, fun _ p _ hp => ⟨p, hp, rfl⟩,
    fun _ _ hP => absurd hP List.not_mem_nil, fun _ _ hP => absurd hP List.not_mem_nil⟩

theorem parkMount_parked {m₀ : CoopMachine} {done : List CoopPlayerId} {st st' : Stage κ}
    {P : CoopPlayerId} (h : Parked m₀ done st.machine) (hstep : parkMount st P = some st') :
    Parked m₀ (done ++ [P]) st'.machine ∧ st'.ram = st.ram := by
  obtain ⟨a, ha, hstep⟩ := Option.bind_eq_some_iff.1 hstep
  have htables := h.standing.tables
  cases hmount : actorMount st.machine P with
  | none =>
      rw [hmount] at hstep
      cases hstep
      have hwalks : ∀ q, coopPlayer st.machine.session P = some q → q.mount = COOP_NO_ENTITY := by
        intro q hq
        by_contra hne
        obtain ⟨e, he⟩ := Option.isSome_iff_exists.1 (htables.mount_found hq hne)
        have hsome : actorMount st.machine P = some e := Option.bind_eq_some_iff.2 ⟨q, hq, he⟩
        rw [hmount] at hsome
        cases hsome
      refine ⟨⟨h.standing, h.roster, h.actors, h.entities, fun P' p hP hp => ?_,
        fun P' q hP hq => ?_, fun P' p hP hp hne => ?_⟩, rfl⟩
      · exact h.waiting P' p (fun hm => hP (List.mem_append_left _ hm)) hp
      · rcases List.mem_append.1 hP with hP | hP
        · exact h.dismounted P' q hP hq
        · rw [List.mem_singleton.1 hP] at hq
          exact hwalks q hq
      · by_cases hdone : P' ∈ done
        · exact h.stored P' p hdone hp hne
        · obtain ⟨q, hq, hsame⟩ := h.waiting P' p hdone hp
          rw [List.mem_singleton.1 ((List.mem_append.1 hP).resolve_left hdone)] at hq
          exact absurd (hsame.symm.trans (hwalks q hq)) hne
  | some e =>
      obtain ⟨q, hq, he⟩ := Option.bind_eq_some_iff.1 hmount
      obtain ⟨hid, -, -⟩ := htables.rider hq he
      have hne : q.mount ≠ COOP_NO_ENTITY := hid ▸ htables.named e (findKey_some he).1
      have hnew : P ∉ done := fun hP => hne (h.dismounted P q hP hq)
      rw [hmount] at hstep
      dsimp only at hstep
      split at hstep
      · cases hstep
      cases hstep
      have hcolor : (if e.mountValid then (e.mount.get ⟨1, by decide⟩).toUInt32
          else (st.ram 0x13c7).toUInt32) ≤ 255 := by
        split <;> exact byte_le _
      have hparks := park_parks h.standing hq he ha hcolor
      refine ⟨⟨hparks.standing, hparks.roster.trans h.roster, hparks.actors.trans h.actors,
        fun f hf => h.entities f (hparks.entities f hf), fun P' p hP hp =>
        ?_, fun P' q' hP hq' => ?_, fun P' p hP hp hne' => ?_⟩, rfl⟩
      · rw [List.mem_append, not_or, List.mem_singleton] at hP
        obtain ⟨r, hr, hsame⟩ := h.waiting P' p hP.1 hp
        obtain ⟨r', hr', hmount'⟩ := hparks.player P' r hr
        rw [if_neg hP.2] at hmount'
        exact ⟨r', hr', hmount'.trans hsame⟩
      · obtain ⟨r, hr⟩ := coopPlayer_of_ids hparks.roster hq'
        obtain ⟨r', hr', hmount'⟩ := hparks.player P' r hr
        cases hq'.symm.trans hr'
        by_cases hsame : P' = P
        · rw [if_pos hsame] at hmount'
          exact hmount'
        · rw [if_neg hsame] at hmount'
          have hP := (List.mem_append.1 hP).resolve_right fun hm => hsame (List.mem_singleton.1 hm)
          exact hmount'.trans (h.dismounted P' r hP hr)
      · by_cases hsame : P' = P
        · obtain ⟨b, hb, hstored⟩ := hparks.stored P a ha
          rw [if_pos rfl] at hstored
          rw [hsame] at hp ⊢
          obtain ⟨q', hq', hmount'⟩ := h.waiting P p hnew hp
          cases hq.symm.trans hq'
          exact ⟨b, hb, hstored.trans (hid.trans hmount')⟩
        · have hP := (List.mem_append.1 hP).resolve_right fun hm => hsame (List.mem_singleton.1 hm)
          obtain ⟨b, hb, hbp⟩ := h.stored P' p hP hp hne'
          obtain ⟨b', hb', hstored⟩ := hparks.stored P' b hb
          rw [if_neg hsame] at hstored
          exact ⟨b', hb', hstored.trans hbp⟩

/-- Everybody is on foot, and every rider's mount is stored with it. -/
structure Ready (m₀ m : CoopMachine) : Prop where
  standing : Standing m
  roster : m.session.players.map CoopPlayer.id = m₀.session.players.map CoopPlayer.id
  actors : m.actors.map CoopActor.player = m₀.actors.map CoopActor.player
  dismounted : ∀ P q, coopPlayer m.session P = some q → q.mount = COOP_NO_ENTITY
  stored : ∀ P p, coopPlayer m₀.session P = some p → p.mount ≠ COOP_NO_ENTITY →
    ∃ b, coopMachineActor m P = some b ∧ b.storedMount = p.mount

theorem Ready.same {m₀ : CoopMachine} (h : Ready m₀ m) (hsame : SameOwnership m n) :
    Ready m₀ n := by
  refine ⟨h.standing.same hsame, hsame.roster.trans h.roster,
    hsame.toSameActors.players.trans h.actors, fun P q hq => ?_, fun P p hp hne => ?_⟩
  · obtain ⟨r, hr⟩ := coopPlayer_of_ids hsame.roster hq
    obtain ⟨q', hq', hholding⟩ := hsame.toSameHoldings.player hr
    cases hq.symm.trans hq'
    have hmount : q.mount = r.mount := congrArg Holding.mount hholding
    exact hmount.trans (h.dismounted P r hr)
  · obtain ⟨b, hb, hstored⟩ := h.stored P p hp hne
    obtain ⟨c, hc, hsamestored⟩ := hsame.toSameActors.storedMount hb
    exact ⟨c, hc, hsamestored.trans hstored⟩

theorem parkLoop_ready {st st' : Stage κ} (h : Standing st.machine)
    (hrun : (st.machine.actors.map CoopActor.player).foldlM parkMount st = some st') :
    Ready st.machine st'.machine ∧ (∀ e ∈ st'.machine.entities, e ∈ st.machine.entities) ∧
      st'.ram = st.ram := by
  have hloop := foldlM_prefix (P := fun done (s : Stage κ) =>
    Parked st.machine done s.machine ∧ s.ram = st.ram) (fun done s P s' hs hstep => by
      obtain ⟨hparked, hram⟩ := parkMount_parked hs.1 hstep
      exact ⟨hparked, hram.trans hs.2⟩) ⟨Parked.start h, rfl⟩ hrun
  rw [List.nil_append] at hloop
  obtain ⟨hparked, hram⟩ := hloop
  have hall : ∀ P p, coopPlayer st.machine.session P = some p →
      P ∈ st.machine.actors.map CoopActor.player := by
    intro P p hp
    rw [h.actors.mem_iff, ← coopPlayer_id hp]
    exact List.mem_map_of_mem (coopPlayer_mem hp)
  refine ⟨⟨hparked.standing, hparked.roster, hparked.actors, fun P q hq => ?_,
    fun P p hp hne => ?_⟩, hparked.entities, hram⟩
  · obtain ⟨p, hp⟩ := coopPlayer_of_ids hparked.roster hq
    exact hparked.dismounted P q (hall P p hp) hq
  · exact hparked.stored P p (hall P p hp) hp hne

end Parking

end SmwRecomp.Coop
