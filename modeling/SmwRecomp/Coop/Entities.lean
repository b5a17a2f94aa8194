import SmwRecomp.Coop.Machine
import SmwRecomp.Coop.Valid

/-!
# Entity tables

`entities_valid` of `src/src/mods/coop/coop_machine.c`, check by check, and the structure
`EntitiesValid` it decides.

* A nested loop over the records before the current one is a `scan`.
* `entitiesValid_iff` — the check is the structure.
-/

set_option autoImplicit false

namespace SmwRecomp.Coop

/-! ## The check -/

def hasFlag (flags mask : UInt32) : Bool := decide (flags &&& mask ≠ 0)

/-- The body of the entity loop; `before` are the entities with smaller index. -/
def entityValid (m : CoopMachine) (before : List CoopEntity) (e : CoopEntity) : Bool :=
  !(e.mountValid && (decide (e.kind ≠ COOP_ENTITY_NORMAL) || decide (e.type ≠ 0x35))) &&
  !(decide (e.id = 0) || decide (e.id ≥ m.nextEntity) || !entitySlotValid e.kind e.slot ||
    decide (e.type > 255) || hasFlag e.flags (~~~15) ||
    (decide (e.owner ≠ COOP_NO_PLAYER) && (coopPlayer m.session e.owner).isNone) ||
    (decide (e.target ≠ COOP_NO_PLAYER) && (coopPlayer m.session e.target).isNone) ||
    (decide (e.owner = COOP_NO_PLAYER) != decide (e.flags = 0))) &&
  !(decide (e.flags ≠ 0) && hasFlag e.flags (e.flags - 1)) &&
  !(hasFlag e.flags (COOP_ENTITY_HELD ||| COOP_ENTITY_RIDDEN ||| COOP_ENTITY_ATTACHED) &&
    decide (e.kind ≠ COOP_ENTITY_NORMAL)) &&
  !((decide (e.flags = COOP_ENTITY_HELD) &&
      (coopPlayer m.session e.owner).any (fun p => decide (p.heldObject ≠ e.id))) ||
    (decide (e.flags = COOP_ENTITY_RIDDEN) &&
      (coopPlayer m.session e.owner).any (fun p => decide (p.mount ≠ e.id)))) &&
  before.all (fun f => !(decide (e.id = f.id) ||
    (decide (e.kind = f.kind) && decide (e.slot = f.slot))))

def sourceValid (m : CoopMachine) (before : List CoopYoshiSource) (s : CoopYoshiSource) : Bool :=
  !(decide (s.level ≥ 512) || decide (s.layer > 1) || decide (s.x > 65535) ||
    decide (s.y > 65535) ||
    hasFlag (s.x ||| s.y) 15 || decide (s.tile < 256) || decide (s.tile ≥ 512) ||
    decide (s.uses.toNat > m.actors.length)) &&
  before.all (fun t => !(decide (s.level = t.level) && decide (s.layer = t.layer) &&
    decide (s.x = t.x) && decide (s.y = t.y)))

/-- The last entity with this id, as the egg loop searches it. -/
def lastEntity (m : CoopMachine) (id : CoopEntityId) : Option CoopEntity :=
  findKey CoopEntity.id id m.entities.reverse

/-- Whether the egg record's entity is an unowned egg of the current level. -/
def eggReferenceValid (m : CoopMachine) (s : CoopPlacedEgg) : Bool :=
  decide (s.level = m.level) &&
  match lastEntity m s.egg with
  | none => false
  | some egg => decide (egg.kind = COOP_ENTITY_NORMAL) && decide (egg.type = 0x2c) &&
      decide (egg.owner = COOP_NO_PLAYER) && decide (egg.flags = 0)

def placedEggValid (m : CoopMachine) (before : List CoopPlacedEgg) (s : CoopPlacedEgg) : Bool :=
  !(decide (s.level ≥ 512) || decide (s.x > 65535) || decide (s.y > 65535) || hasFlag
    (s.x ||| s.y) 15 ||
    (decide (s.loadIndex ≥ 128) && decide (s.loadIndex ≠ 255)) ||
    decide (s.uses.toNat > m.actors.length)) &&
  (decide (s.egg = 0) || eggReferenceValid m s) &&
  before.all (fun t => !((decide (s.level = t.level) && decide (s.x = t.x) && decide (s.y = t.y)) ||
    (decide (s.egg ≠ 0) && decide (s.egg = t.egg))))

/-- The body of the player loop: what the player owns, an entity confirms. -/
def ownershipValid (m : CoopMachine) (p : CoopPlayer) : Bool :=
  (decide (p.heldObject = COOP_NO_ENTITY) || m.entities.any (fun e =>
    decide (e.owner = p.id) && decide (e.id = p.heldObject) &&
      decide (e.flags = COOP_ENTITY_HELD))) &&
  (decide (p.mount = COOP_NO_ENTITY) || m.entities.any (fun e =>
    decide (e.owner = p.id) && decide (e.id = p.mount) && decide (e.flags = COOP_ENTITY_RIDDEN)))

/-- The body of the actor loop over stored mounts; `before` and `after` are the other actors. -/
def storedMountValid (m : CoopMachine) (before : List CoopActor) (a : CoopActor)
    (after : List CoopActor) : Bool :=
  !(decide (a.storedMountColor > 255) ||
    (decide (a.storedMount = 0) && decide (a.storedMountColor ≠ 0))) &&
  (decide (a.storedMount = 0) ||
    (match coopPlayer m.session a.player with
      | none => false
      | some p => decide (p.mount = COOP_NO_ENTITY)) &&
    decide (a.storedMount < m.nextEntity) &&
    m.entities.all (fun e => decide (e.id ≠ a.storedMount)) &&
    (before ++ after).all (fun b => decide (b.storedMount ≠ a.storedMount)) &&
    m.actors.all (fun b => b.fireballs.toList.all (fun f => decide (f.id ≠ a.storedMount))))

/-- `guest[0]`, the kind of the extended sprite. -/
def CoopFireball.kind (f : CoopFireball) : UInt8 := f.guest.head

/-- The body of the fireball loop; `before` are the fireballs already seen. -/
def fireballValid (m : CoopMachine) (before : List CoopFireball) (f : CoopFireball) : Bool :=
  !(decide (f.kind ≠ 0) && decide (f.kind ≠ 1) && decide (f.kind ≠ 5)) &&
  !(decide (f.id ≥ m.nextEntity) || ((decide (f.id = 0) || !m.fireballsInitialized) &&
    (decide (f.kind ≠ 0) || decide (f.pending ≠ []) || decide (f.visible ≠ [])))) &&
  (decide (f.id = 0) ||
    m.entities.all (fun e => decide (f.id ≠ e.id)) && before.all (fun g => decide (f.id ≠ g.id)))

/-- All fireballs, actor by actor. -/
def CoopMachine.fireballs (m : CoopMachine) : List CoopFireball :=
  m.actors.flatMap (fun a => a.fireballs.toList)

/-- `entities_valid`. -/
def entitiesValid (m : CoopMachine) : Bool :=
  !(decide (m.entities.length > 22) || decide (m.nextEntity = 0) ||
    (decide (m.level ≠ 0xFFFFFFFF) && decide (m.level ≥ 512))) &&
  scan (fun before e _ => entityValid m before e) [] m.entities &&
  scan (fun before s _ => sourceValid m before s) [] m.sources &&
  scan (fun before s _ => placedEggValid m before s) [] m.placedEggs &&
  m.session.players.all (ownershipValid m) &&
  scan (storedMountValid m) [] m.actors &&
  scan (fun before f _ => fireballValid m before f) [] m.fireballs

/-! ## The structure -/

structure EntityValid (m : CoopMachine) (e : CoopEntity) : Prop where
  mount : e.mountValid = true → e.kind = COOP_ENTITY_NORMAL ∧ e.type = 0x35
  id : e.id ≠ 0 ∧ e.id < m.nextEntity
  slot : entitySlotValid e.kind e.slot = true
  type : e.type ≤ 255
  flags : e.flags &&& ~~~15 = 0 ∧ (e.flags ≠ 0 → e.flags &&& (e.flags - 1) = 0)
  owner : Addressee m.session.players e.owner
  target : Addressee m.session.players e.target
  owned : e.owner = COOP_NO_PLAYER ↔ e.flags = 0
  normal : e.flags &&& (COOP_ENTITY_HELD ||| COOP_ENTITY_RIDDEN ||| COOP_ENTITY_ATTACHED) ≠ 0 →
    e.kind = COOP_ENTITY_NORMAL
  held : e.flags = COOP_ENTITY_HELD →
    ∀ p, coopPlayer m.session e.owner = some p → p.heldObject = e.id
  ridden : e.flags = COOP_ENTITY_RIDDEN →
    ∀ p, coopPlayer m.session e.owner = some p → p.mount = e.id

structure SourceValid (actors : Nat) (s : CoopYoshiSource) : Prop where
  level : s.level < 512
  layer : s.layer ≤ 1
  x : s.x ≤ 65535
  y : s.y ≤ 65535
  aligned : (s.x ||| s.y) &&& 15 = 0
  tile : 256 ≤ s.tile ∧ s.tile < 512
  uses : s.uses.toNat ≤ actors

/-- An unowned, unhatched egg of the table. -/
structure IsEgg (e : CoopEntity) (id : CoopEntityId) : Prop where
  id : e.id = id
  kind : e.kind = COOP_ENTITY_NORMAL
  type : e.type = 0x2c
  owner : e.owner = COOP_NO_PLAYER
  flags : e.flags = 0

structure PlacedEggValid (m : CoopMachine) (s : CoopPlacedEgg) : Prop where
  level : s.level < 512
  x : s.x ≤ 65535
  y : s.y ≤ 65535
  aligned : (s.x ||| s.y) &&& 15 = 0
  loadIndex : s.loadIndex < 128 ∨ s.loadIndex = 255
  uses : s.uses.toNat ≤ m.actors.length
  egg : s.egg ≠ 0 → s.level = m.level ∧ ∃ e ∈ m.entities, IsEgg e s.egg

/-- What a player owns, an entity confirms. -/
structure Owned (entities : List CoopEntity) (p : CoopPlayer) : Prop where
  held : p.heldObject ≠ COOP_NO_ENTITY →
    ∃ e ∈ entities, e.owner = p.id ∧ e.id = p.heldObject ∧ e.flags = COOP_ENTITY_HELD
  mount : p.mount ≠ COOP_NO_ENTITY →
    ∃ e ∈ entities, e.owner = p.id ∧ e.id = p.mount ∧ e.flags = COOP_ENTITY_RIDDEN

structure StoredMountValid (m : CoopMachine) (a : CoopActor) : Prop where
  color : a.storedMountColor ≤ 255 ∧ (a.storedMount = 0 → a.storedMountColor = 0)
  rider : a.storedMount ≠ 0 →
    ∃ p, coopPlayer m.session a.player = some p ∧ p.mount = COOP_NO_ENTITY
  id : a.storedMount ≠ 0 → a.storedMount < m.nextEntity
  entity : a.storedMount ≠ 0 → ∀ e ∈ m.entities, e.id ≠ a.storedMount
  fireball : a.storedMount ≠ 0 → ∀ f ∈ m.fireballs, f.id ≠ a.storedMount

structure FireballValid (m : CoopMachine) (f : CoopFireball) : Prop where
  kind : f.kind = 0 ∨ f.kind = 1 ∨ f.kind = 5
  id : f.id < m.nextEntity
  idle : f.id = 0 ∨ m.fireballsInitialized = false → f.kind = 0 ∧ f.pending = [] ∧ f.visible = []
  entity : f.id ≠ 0 → ∀ e ∈ m.entities, f.id ≠ e.id

structure EntitiesValid (m : CoopMachine) : Prop where
  count : m.entities.length ≤ 22
  next : m.nextEntity ≠ 0
  level : m.level = 0xFFFFFFFF ∨ m.level < 512
  entities : ∀ e ∈ m.entities, EntityValid m e
  ids : (m.entities.map CoopEntity.id).Nodup
  slots : (m.entities.map (fun e => (e.kind, e.slot))).Nodup
  sources : ∀ s ∈ m.sources, SourceValid m.actors.length s
  sourceKeys : (m.sources.map CoopYoshiSource.key).Nodup
  eggs : ∀ s ∈ m.placedEggs, PlacedEggValid m s
  eggKeys : (m.placedEggs.map CoopPlacedEgg.key).Nodup
  eggReferences : m.placedEggs.Pairwise (fun t s => s.egg ≠ 0 → s.egg ≠ t.egg)
  players : ∀ p ∈ m.session.players, Owned m.entities p
  stored : ∀ a ∈ m.actors, StoredMountValid m a
  storedApart : m.actors.Pairwise (fun a b => (b.storedMount ≠ 0 → a.storedMount ≠ b.storedMount) ∧
    (a.storedMount ≠ 0 → b.storedMount ≠ a.storedMount))
  fireballs : ∀ f ∈ m.fireballs, FireballValid m f
  fireballsApart : m.fireballs.Pairwise (fun g f => f.id ≠ 0 → f.id ≠ g.id)

theorem hasFlag_eq_false {flags mask : UInt32} : hasFlag flags mask = false ↔
    flags &&& mask = 0 := by
  unfold hasFlag
  rw [decide_eq_false_iff_not, not_ne_iff]

theorem optionAny_false {α : Type} {o : Option α} {q : α → Bool} :
    o.any q = false ↔ ∀ a, o = some a → q a = false := by
  cases o <;> simp

/-- Pairwise different keys, as the loops compare them. -/
theorem pairwise_key {α κ : Type} {key : α → κ} {xs : List α} :
    xs.Pairwise (fun y x => key y ≠ key x) ↔ (xs.map key).Nodup := List.pairwise_map.symm

theorem entityValid_iff {m : CoopMachine} {before : List CoopEntity} {e : CoopEntity} :
    entityValid m before e = true ↔ EntityValid m e ∧
      ∀ f ∈ before, f.id ≠ e.id ∧ (f.kind, f.slot) ≠ (e.kind, e.slot) := by
  have howner := @validAddressee_iff m.session e.owner
  have htarget := @validAddressee_iff m.session e.target
  unfold validAddressee at howner htarget
  rw [Bool.not_eq_true'] at howner htarget
  unfold entityValid
  simp only [Bool.and_eq_true, Bool.not_eq_true', Bool.or_eq_false_iff, howner, htarget,
    List.all_eq_true, Bool.and_eq_false_imp, bne_eq_false_iff_eq, decide_eq_decide,
    optionAny_false, decide_eq_true_eq, decide_eq_false_iff_not, not_ne_iff, Bool.not_eq_false',
    hasFlag, ge_iff_le, gt_iff_lt, UInt32.not_le, UInt32.not_lt]
  constructor
  · rintro ⟨⟨⟨⟨⟨hmount, ⟨⟨⟨⟨⟨⟨hid, hnext⟩, hslot⟩, htype⟩, hmask⟩, hown⟩, htgt⟩, howned⟩, hbit⟩,
      hnormal⟩, hheld, hridden⟩, hbefore⟩
    refine ⟨⟨hmount, ⟨hid, hnext⟩, hslot, htype, ⟨hmask, hbit⟩, hown, htgt, howned, hnormal, hheld,
      hridden⟩, fun f hf => ⟨fun h => (hbefore f hf).1 h.symm, fun h => ?_⟩⟩
    obtain ⟨hk, hs⟩ := Prod.ext_iff.1 h
    exact (hbefore f hf).2 hk.symm hs.symm
  · rintro ⟨h, hbefore⟩
    refine ⟨⟨⟨⟨⟨h.mount, ⟨⟨⟨⟨⟨⟨h.id.1, h.id.2⟩, h.slot⟩, h.type⟩, h.flags.1⟩, h.owner⟩, h.target⟩,
      h.owned⟩, h.flags.2⟩, h.normal⟩, h.held, h.ridden⟩,
      fun f hf => ⟨fun he => (hbefore f hf).1 he.symm,
        fun hk hs => (hbefore f hf).2 ?_⟩⟩
    rw [hk, hs]

theorem sourceValid_iff {m : CoopMachine} {before : List CoopYoshiSource} {s : CoopYoshiSource} :
    sourceValid m before s = true ↔ SourceValid m.actors.length s ∧
    ∀ t ∈ before, t.key ≠ s.key := by
  unfold sourceValid
  simp only [Bool.and_eq_true, Bool.not_eq_true', Bool.or_eq_false_iff, hasFlag_eq_false,
    List.all_eq_true, Bool.and_eq_false_imp, decide_eq_true_eq, decide_eq_false_iff_not, ge_iff_le,
    gt_iff_lt, UInt32.not_le, UInt32.not_lt, Nat.not_lt, CoopYoshiSource.key, ne_eq, Prod.mk.injEq]
  constructor
  · rintro ⟨⟨⟨⟨⟨⟨⟨⟨hlevel, hlayer⟩, hx⟩, hy⟩, haligned⟩, hlow⟩, hhigh⟩, huses⟩, hbefore⟩
    exact ⟨⟨hlevel, hlayer, hx, hy, haligned, ⟨hlow, hhigh⟩, huses⟩, fun t ht h =>
      hbefore t ht ⟨⟨h.1.symm, h.2.1.symm⟩, h.2.2.1.symm⟩ h.2.2.2.symm⟩
  · rintro ⟨h, hbefore⟩
    exact ⟨⟨⟨⟨⟨⟨⟨⟨h.level, h.layer⟩, h.x⟩, h.y⟩, h.aligned⟩, h.tile.1⟩, h.tile.2⟩, h.uses⟩,
      fun t ht hk hy => hbefore t ht ⟨hk.1.1.symm, hk.1.2.symm, hk.2.symm, hy.symm⟩⟩

theorem eggReferenceValid_iff {m : CoopMachine} {s : CoopPlacedEgg}
    (hids : (m.entities.map CoopEntity.id).Nodup) :
    eggReferenceValid m s = true ↔ s.level = m.level ∧ ∃ e ∈ m.entities, IsEgg e s.egg := by
  have hlast : lastEntity m s.egg = coopMachineEntity m s.egg :=
    (findKey_perm hids (List.reverse_perm m.entities).symm s.egg).symm
  unfold eggReferenceValid
  rw [Bool.and_eq_true, decide_eq_true_eq, hlast]
  refine and_congr_right fun _ => ?_
  constructor
  · intro h
    split at h
    · cases h
    · rename_i egg hegg
      obtain ⟨hmem, hid⟩ := findKey_some hegg
      simp only [Bool.and_eq_true, decide_eq_true_eq] at h
      exact ⟨egg, hmem, hid, h.1.1.1, h.1.1.2, h.1.2, h.2⟩
  · rintro ⟨e, hmem, he⟩
    have hfound : coopMachineEntity m s.egg = some e := by
      rw [← he.id]
      exact findKey_of_mem hids hmem
    simp only [hfound, he.kind, he.type, he.owner, he.flags, decide_true, Bool.and_true]

theorem placedEggValid_iff {m : CoopMachine} {before : List CoopPlacedEgg} {s : CoopPlacedEgg}
    (hids : (m.entities.map CoopEntity.id).Nodup) :
    placedEggValid m before s = true ↔ PlacedEggValid m s ∧
      ∀ t ∈ before, t.key ≠ s.key ∧ (s.egg ≠ 0 → s.egg ≠ t.egg) := by
  unfold placedEggValid
  simp only [Bool.and_eq_true, Bool.not_eq_true', Bool.or_eq_false_iff, hasFlag_eq_false,
    List.all_eq_true, Bool.and_eq_false_imp, decide_eq_true_eq, decide_eq_false_iff_not, ge_iff_le,
    gt_iff_lt, UInt32.not_le, UInt32.not_lt, Nat.not_lt, CoopPlacedEgg.key, ne_eq, Prod.mk.injEq,
    Bool.or_eq_true, eggReferenceValid_iff hids, not_not]
  constructor
  · rintro ⟨⟨⟨⟨⟨⟨⟨hlevel, hx⟩, hy⟩, haligned⟩, hload⟩, huses⟩, hegg⟩, hbefore⟩
    refine ⟨⟨hlevel, hx, hy, haligned, ?_, huses, fun hne => hegg.resolve_left hne⟩, fun t ht =>
      ⟨fun h => (hbefore t ht).1 ⟨h.1.symm, h.2.1.symm⟩ h.2.2.symm, (hbefore t ht).2⟩⟩
    by_cases hlt : s.loadIndex < 128
    · exact Or.inl hlt
    · exact Or.inr (hload (UInt32.not_lt.1 hlt))
  · rintro ⟨h, hbefore⟩
    refine ⟨⟨⟨⟨⟨⟨⟨h.level, h.x⟩, h.y⟩, h.aligned⟩, fun hge => ?_⟩, h.uses⟩, ?_⟩, fun t ht =>
      ⟨fun hk hy => (hbefore t ht).1 ⟨hk.1.symm, hk.2.symm, hy.symm⟩, (hbefore t ht).2⟩⟩
    · exact h.loadIndex.resolve_left (UInt32.not_lt.2 hge)
    · exact (Classical.em (s.egg = 0)).imp_right h.egg

theorem ownershipValid_iff {m : CoopMachine} {p : CoopPlayer} :
    ownershipValid m p = true ↔ Owned m.entities p := by
  unfold ownershipValid
  simp only [Bool.and_eq_true, Bool.or_eq_true, decide_eq_true_eq, List.any_eq_true]
  constructor
  · rintro ⟨hheld, hmount⟩
    exact ⟨fun hne => by simpa [and_assoc] using hheld.resolve_left hne,
      fun hne => by simpa [and_assoc] using hmount.resolve_left hne⟩
  · intro h
    exact ⟨(Classical.em _).imp_right fun hne => by simpa [and_assoc] using h.held hne,
      (Classical.em _).imp_right fun hne => by simpa [and_assoc] using h.mount hne⟩

theorem mem_fireballs {m : CoopMachine} {f : CoopFireball} :
    f ∈ m.fireballs ↔ ∃ a ∈ m.actors, f ∈ a.fireballs.toList := List.mem_flatMap

theorem storedMountValid_iff {m : CoopMachine} {before after : List CoopActor} {a : CoopActor} :
    storedMountValid m before a after = true ↔ StoredMountValid m a ∧
      ∀ b ∈ before ++ after, a.storedMount ≠ 0 → b.storedMount ≠ a.storedMount := by
  have hrider : (match coopPlayer m.session a.player with
      | none => false
      | some p => decide (p.mount = COOP_NO_ENTITY)) = true ↔
      ∃ p, coopPlayer m.session a.player = some p ∧ p.mount = COOP_NO_ENTITY := by
    cases coopPlayer m.session a.player <;> simp
  unfold storedMountValid
  simp only [Bool.and_eq_true, Bool.not_eq_true', Bool.or_eq_false_iff, Bool.or_eq_true, hrider,
    List.all_eq_true, Bool.and_eq_false_imp, decide_eq_true_eq, decide_eq_false_iff_not, gt_iff_lt,
    UInt32.not_lt, not_not, ne_eq]
  constructor
  · rintro ⟨hcolor, hstored⟩
    refine ⟨⟨hcolor, fun hne => ?_, fun hne => ?_, fun hne => ?_, fun hne f hf => ?_⟩,
      fun b hb hne => ?_⟩ <;>
      obtain ⟨⟨⟨⟨hr, hid⟩, hentity⟩, hothers⟩, hfireball⟩ := hstored.resolve_left hne
    · exact hr
    · exact hid
    · exact hentity
    · obtain ⟨b, hb, hfb⟩ := mem_fireballs.1 hf
      exact hfireball b hb f hfb
    · exact hothers b hb
  · rintro ⟨h, hothers⟩
    refine ⟨h.color, (Classical.em (a.storedMount = 0)).imp_right fun hne => ?_⟩
    exact ⟨⟨⟨⟨h.rider hne, h.id hne⟩, h.entity hne⟩, fun b hb => hothers b hb hne⟩,
      fun b hb f hf => h.fireball hne f (mem_fireballs.2 ⟨b, hb, hf⟩)⟩

theorem fireballValid_iff {m : CoopMachine} {before : List CoopFireball} {f : CoopFireball} :
    fireballValid m before f = true ↔ FireballValid m f ∧ ∀ g ∈ before, f.id ≠ 0 → f.id ≠ g.id := by
  unfold fireballValid
  simp only [Bool.and_eq_true, Bool.not_eq_true', Bool.or_eq_false_iff, Bool.or_eq_true,
    List.all_eq_true, Bool.and_eq_false_imp, decide_eq_true_eq, decide_eq_false_iff_not, ge_iff_le,
    UInt32.not_le, not_not, ne_eq, Bool.and_eq_false_imp]
  constructor
  · rintro ⟨⟨hkind, hid, hidle⟩, hapart⟩
    refine ⟨⟨?_, hid, fun h => ?_, fun hne => (hapart.resolve_left hne).1⟩, fun g hg hne =>
      (hapart.resolve_left hne).2 g hg⟩
    · by_cases h0 : f.kind = 0
      · exact Or.inl h0
      · by_cases h1 : f.kind = 1
        · exact Or.inr (Or.inl h1)
        · exact Or.inr (Or.inr (hkind ⟨h0, h1⟩))
    · obtain ⟨⟨hk, hpending⟩, hvisible⟩ := hidle h
      exact ⟨hk, hpending, hvisible⟩
  · rintro ⟨h, hapart⟩
    refine ⟨⟨fun hne => (h.kind.resolve_left hne.1).resolve_left hne.2, h.id, fun hidle =>
      ⟨⟨(h.idle hidle).1, (h.idle hidle).2.1⟩, (h.idle hidle).2.2⟩⟩,
      (Classical.em (f.id = 0)).imp_right fun hne => ⟨h.entity hne, fun g hg => hapart g hg hne⟩⟩

/-! ## The check is the structure -/

theorem entitiesValid_iff {m : CoopMachine} : entitiesValid m = true ↔ EntitiesValid m := by
  have hentities := scan_before (fun before e (_ : List CoopEntity) =>
    @entityValid_iff m before e) m.entities
  have hsources := scan_before (fun before s (_ : List CoopYoshiSource) =>
    @sourceValid_iff m before s) m.sources
  have hactors :=
    scan_around (fun before a after => @storedMountValid_iff m before after a) m.actors
  have hfireballs := scan_before (fun before f (_ : List CoopFireball) =>
    @fireballValid_iff m before f) m.fireballs
  have heggs := fun hids => scan_before (fun before s (_ : List CoopPlacedEgg) =>
    @placedEggValid_iff m before s hids) m.placedEggs
  rw [List.pairwise_and_iff, @pairwise_key _ _ CoopEntity.id,
    show m.entities.Pairwise (fun y e => (y.kind, y.slot) ≠ (e.kind, e.slot)) ↔
      (m.entities.map (fun e => (e.kind, e.slot))).Nodup from pairwise_key] at hentities
  rw [@pairwise_key _ _ CoopYoshiSource.key] at hsources
  simp only [List.pairwise_and_iff, @pairwise_key _ _ CoopPlacedEgg.key] at heggs
  unfold entitiesValid
  simp only [Bool.and_eq_true, hentities, hsources, hactors, hfireballs, List.all_eq_true,
    ownershipValid_iff, Bool.not_eq_true', Bool.or_eq_false_iff, decide_eq_false_iff_not, gt_iff_lt,
    Nat.not_lt, Bool.and_eq_false_imp, decide_eq_true_eq, ge_iff_le, UInt32.not_le]
  constructor
  · rintro ⟨⟨⟨⟨⟨⟨⟨⟨hcount, hnext⟩, hlevel⟩, hentity, hids, hslots⟩, hsource, hskeys⟩, hegg⟩,
      hplayers⟩, hstored, hapart⟩, hfireball, hfapart⟩
    obtain ⟨hegg, hekeys, hrefs⟩ := (heggs hids).1 hegg
    exact ⟨hcount, hnext, (Classical.em _).imp_right hlevel, hentity, hids, hslots, hsource, hskeys,
      hegg, hekeys, hrefs, hplayers, hstored, hapart, hfireball, hfapart⟩
  · intro h
    exact ⟨⟨⟨⟨⟨⟨⟨⟨h.count, h.next⟩, h.level.resolve_left⟩, h.entities, h.ids, h.slots⟩, h.sources,
      h.sourceKeys⟩, (heggs h.ids).2 ⟨h.eggs, h.eggKeys, h.eggReferences⟩⟩, h.players⟩,
      h.stored, h.storedApart⟩, h.fireballs, h.fireballsApart⟩

end SmwRecomp.Coop
