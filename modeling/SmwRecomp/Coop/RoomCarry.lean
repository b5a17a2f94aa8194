import SmwRecomp.Coop.RoomRuns

/-!
# Carrying through a room

`carry_through_room`: what the room forgets and what it takes over.

* `Ready.forgetAll` — the departed room is forgotten; stored mounts stay.
* `Lifted` — the carried sprites, slot by slot, with their records.
* `Landed` — the records in their new slots; their owners refer to them again.
* `enterRoom_spec` — up to the loader's return.
-/

set_option autoImplicit false

namespace SmwRecomp.Coop

variable {κ : Type} {m n m₀ : CoopMachine}

/-! ## The carry flag -/

theorem ActorsMatch.player (h : ActorsMatch m) {P : CoopPlayerId} {a : CoopActor}
    (ha : coopMachineActor m P = some a) : ∃ p, coopPlayer m.session P = some p := by
  obtain ⟨hmem, hid⟩ := findKey_some ha
  have hplayer : P ∈ m.session.players.map CoopPlayer.id := by
    rw [← h.mem_iff, ← hid]
    exact List.mem_map_of_mem hmem
  exact Option.isSome_iff_exists.1 (findKey_isSome.2 (List.mem_map.1 hplayer))

theorem lt_succ_of_ne {x : UInt32} (h : x ≠ COOP_NO_ENTITY) : x < x + 1 := by
  have hne : x.toNat ≠ 4294967295 := fun heq => h (UInt32.toNat_inj.1 heq)
  have hbound := x.toNat_lt
  rw [UInt32.lt_iff_toNat_lt, UInt32.toNat_add]
  show x.toNat < (x.toNat + 1) % 2 ^ 32
  omega

/-- A ridden mount has a proper identity. -/
theorem EntitiesValid.mount_ne_zero (h : EntitiesValid m) {P : CoopPlayerId} {p : CoopPlayer}
    (hp : coopPlayer m.session P = some p) (hne : p.mount ≠ COOP_NO_ENTITY) : p.mount ≠ 0 := by
  obtain ⟨e, he, -, hid, -⟩ := (h.players p (coopPlayer_mem hp)).mount hne
  rw [← hid]
  exact (h.entities e he).id.1

/-- The machine of a stage, its tables as `Ready` leaves them. -/
theorem Ready.putActor (h : Ready m₀ m) {n : CoopMachine} (hvalid : EntitiesValid n)
    (hplayers : n.session.players = m.session.players)
    (hactors : n.actors.map CoopActor.player = m.actors.map CoopActor.player)
    (hstored : ∀ P a, coopMachineActor m P = some a → a.storedMount ≠ 0 →
      ∃ b, coopMachineActor n P = some b ∧ b.storedMount = a.storedMount)
    (h₀ : EntitiesValid m₀) : Ready m₀ n := by
  have hroster : n.session.players.map CoopPlayer.id = m.session.players.map CoopPlayer.id := by
    rw [hplayers]
  refine ⟨h.standing.of_tables hvalid hroster hactors, hroster.trans h.roster,
    hactors.trans h.actors, fun P q hq => ?_, fun P p hp hne => ?_⟩
  · unfold coopPlayer at hq
    rw [hplayers] at hq
    exact h.dismounted P q hq
  · obtain ⟨a, ha, hmount⟩ := h.stored P p hp hne
    obtain ⟨b, hb, hsame⟩ := hstored P a ha (by rw [hmount]; exact h₀.mount_ne_zero hp hne)
    exact ⟨b, hb, hsame.trans hmount⟩

theorem adoptCarryFlag_ready {st st' : Stage κ} (h₀ : EntitiesValid m₀) (h : Ready m₀ st.machine)
    (hstep : adoptCarryFlag st = some st') :
    Ready m₀ st'.machine ∧ st'.machine.entities = st.machine.entities ∧ st'.ram = st.ram := by
  obtain ⟨a, ha, hstep⟩ := Option.bind_eq_some_iff.1 hstep
  split at hstep
  · rename_i hadopt
    split at hstep
    · cases hstep
    rename_i hroom
    cases hstep
    refine ⟨?_, rfl, rfl⟩
    have htables := h.standing.tables
    obtain ⟨hamem, haplayer⟩ := findKey_some ha
    have hlt := lt_succ_of_ne hroom
    have hbelow : ∀ id : UInt32, id < st.machine.nextEntity → id ≠ st.machine.nextEntity := by
      intro id hid heq
      rw [heq] at hid
      exact UInt32.lt_irrefl _ hid
    have hvalid : EntitiesValid (Coop.putActor
        { st.machine with nextEntity := st.machine.nextEntity + 1 }
        { a with storedMount := st.machine.nextEntity
                 storedMountColor := (st.ram 0x13c7).toUInt32 }) := by
      refine stored_valid htables h.standing.actorKeys hamem (UInt32.le_of_lt hlt) (fun h0 => ?_)
        ⟨byte_le _, fun h0 => absurd h0 htables.next⟩ (fun _ => ?_) (fun _ => hlt)
        (fun _ e he => hbelow _ (htables.entities e he).id.2) (fun _ b hb heq => ?_)
        fun _ f hf => hbelow _ (htables.fireballs f hf).id
      · rw [h0] at hlt
        exact absurd hlt (Nat.not_lt_zero _)
      · obtain ⟨p, hp⟩ := h.standing.actors.player ha
        rw [haplayer]
        exact ⟨p, hp, h.dismounted _ p hp⟩
      · have hid := (htables.stored b hb).id (by rw [heq]; exact htables.next)
        exact hbelow _ hid heq
    refine h.putActor hvalid rfl (map_key_putKey _ _) (fun P b hb hne => ?_) h₀
    rw [coopMachineActor_putActor]
    have hother : P ≠ a.player := by
      intro heq
      rw [heq, haplayer, ha] at hb
      cases hb
      exact hne hadopt.1
    rw [if_neg hother]
    exact ⟨b, hb, rfl⟩
  · cases hstep
    exact ⟨h, rfl, rfl⟩

/-! ## Forgetting the room -/

theorem Ready.forget (h : Ready m₀ m) (id : CoopEntityId) :
    Ready m₀ (coopMachineForgetEntity m id) := by
  obtain ⟨hvalid, -, -⟩ := forget_valid h.standing.tables id
  have hroster := forget_roster m id
  have hactors := forget_actors m id
  refine ⟨h.standing.of_tables hvalid hroster (by rw [hactors]), hroster.trans h.roster,
    (by rw [hactors]; exact h.actors), fun P q hq => ?_, fun P p hp hne => ?_⟩
  · rcases forget_cases m id with ⟨hforget, -⟩ | ⟨i, e, he, rfl, -⟩
    · rw [hforget] at hq
      exact h.dismounted P q hq
    · rw [forget_player (List.mem_of_getElem? he)] at hq
      obtain ⟨p, hp, rfl⟩ := Option.map_eq_some_iff.1 hq
      show (if p.mount = e.id then COOP_NO_ENTITY else p.mount) = COOP_NO_ENTITY
      rw [h.dismounted P p hp]
      split <;> rfl
  · unfold coopMachineActor
    rw [hactors]
    exact h.stored P p hp hne

theorem forgetLoop_ready : ∀ (fuel : Nat) {m : CoopMachine}, Ready m₀ m → m.entities.length ≤ fuel →
    Ready m₀ (forgetLoop fuel m) ∧ (forgetLoop fuel m).entities = [] ∧
      (forgetLoop fuel m).nextEntity = m.nextEntity
  | 0, m, h, hlen => ⟨h, List.eq_nil_of_length_eq_zero (Nat.le_zero.1 hlen), rfl⟩
  | fuel + 1, m, h, hlen => by
    unfold forgetLoop
    split
    · rename_i hempty
      exact ⟨h, hempty, rfl⟩
    · rename_i e rest hentities
      have hfirst : m.entities[0]? = some e := by
        rw [hentities]
        rfl
      have hshorter := forget_length hfirst
      obtain ⟨hready, hnone, hnext⟩ := forgetLoop_ready fuel (h.forget e.id) (by omega)
      exact ⟨hready, hnone, hnext.trans (forget_next m e.id)⟩

theorem forgetLoop_actors : ∀ (fuel : Nat) (m : CoopMachine), SameActors m (forgetLoop fuel m)
  | 0, m => ⟨rfl, rfl, rfl⟩
  | fuel + 1, m => by
    unfold forgetLoop
    split
    · exact ⟨rfl, rfl, rfl⟩
    · rename_i e rest hentities
      refine SameActors.trans ?_ (forgetLoop_actors fuel _)
      rcases forget_cases m e.id with ⟨h, -⟩ | ⟨i, f, -, -, h⟩ <;> rw [h] <;> exact ⟨rfl, rfl, rfl⟩

theorem forgetAll_actors (m : CoopMachine) : SameActors m (forgetAll m) := forgetLoop_actors _ m

/-- The room is forgotten, with everything its players held of it. -/
theorem Ready.forgetAll (h : Ready m₀ m) : Ready m₀ (forgetAll m) ∧ (forgetAll m).entities = [] ∧
    (forgetAll m).nextEntity = m.nextEntity :=
  forgetLoop_ready m.entities.length h (Nat.le_refl _)

theorem Standing.emptyHanded (h : Standing m) (hnone : m.entities = []) {P : CoopPlayerId}
    {p : CoopPlayer} (hp : coopPlayer m.session P = some p) : p.heldObject = COOP_NO_ENTITY := by
  by_contra hne
  obtain ⟨e, he, -⟩ := (h.tables.players p (coopPlayer_mem hp)).held hne
  rw [hnone] at he
  cases he

/-! ## Lifting the carried sprites -/

/-- The first `k` slots have been looked at. -/
structure Lifted (m : CoopMachine) (ram : Ram) (k : Nat) (acc : List Transport × Ram) : Prop where
  slots : acc.1.map (fun t => t.entity.slot.toNat) =
    (List.range k).filter (fun s => ram.status s = 0x0b)
  entities : ∀ t ∈ acc.1, t.entity ∈ m.entities ∧ t.entity.kind = COOP_ENTITY_NORMAL ∧
    t.entity.owner ≠ COOP_NO_PLAYER
  rest : ∀ slot, k ≤ slot → acc.2.status slot = ram.status slot

theorem liftStep_lifted {ram : Ram} {k : Nat} {acc acc' : List Transport × Ram} (hk : k < 12)
    (h : Lifted m ram k acc) (hstep : liftStep m acc k = some acc') :
    Lifted m ram (k + 1) acc' := by
  have hstatus := h.rest k (Nat.le_refl k)
  have hrange : (List.range (k + 1)).filter (fun s => ram.status s = 0x0b) =
      (List.range k).filter (fun s => ram.status s = 0x0b) ++ if ram.status k = 0x0b
      then [k] else [] := by
    rw [List.range_succ, List.filter_append]
    by_cases hc : ram.status k = 0x0b <;> simp [hc]
  unfold liftStep at hstep
  dsimp only at hstep
  rw [hstatus] at hstep
  split at hstep
  · rename_i hc
    cases hstep
    refine ⟨?_, h.entities, fun slot hslot => h.rest slot (by omega)⟩
    rw [hrange, if_neg hc, List.append_nil]
    exact h.slots
  · rename_i hc
    split at hstep
    · cases hstep
    rename_i e he
    split at hstep
    · cases hstep
    rename_i howner
    cases hstep
    obtain ⟨hmem, hkey⟩ := findKey_some he
    obtain ⟨hkind, hslot⟩ := Prod.mk.inj hkey
    have hnat : e.slot.toNat = k := by
      rw [hslot]
      exact UInt32.toNat_ofNat_of_lt' (Nat.lt_trans hk (by decide))
    refine ⟨?_, fun t ht => ?_, fun slot hslot' => ?_⟩
    · rw [hrange, if_pos (not_not.1 hc), List.map_append, h.slots]
      simp [hnat]
    · rcases List.mem_append.1 ht with ht | ht
      · exact h.entities t ht
      · rw [List.mem_singleton.1 ht]
        exact ⟨hmem, hkind, howner⟩
    · have hne : 0x14c8 + slot ≠ 0x14c8 + k := by omega
      have hkept : (acc.2.put (0x14c8 + k) 0).status slot = acc.2.status slot := if_neg hne
      rw [hkept]
      exact h.rest slot (by omega)

theorem liftLoop_lifted {ram : Ram} : ∀ (k : Nat) {acc : List Transport × Ram}, k ≤ 12 →
    (List.range k).foldlM (liftStep m) ([], ram) = some acc → Lifted m ram k acc
  | 0, acc, _, hrun => by
    cases hrun
    exact ⟨rfl, (fun _ ht => nomatch ht), fun _ _ => rfl⟩
  | k + 1, acc, hk, hrun => by
    rw [List.range_succ, List.foldlM_append] at hrun
    obtain ⟨acc', hfirst, hlast⟩ := Option.bind_eq_some_iff.1 hrun
    have hstep : liftStep m acc' k = some acc := by simpa using hlast
    exact liftStep_lifted (by omega) (liftLoop_lifted k (by omega) hfirst) hstep

/-- The record of a carried sprite. -/
structure Carried (m : CoopMachine) (ram : Ram) (e : CoopEntity) : Prop where
  mem : e ∈ m.entities
  kind : e.kind = COOP_ENTITY_NORMAL
  status : ram.status e.slot.toNat = 0x0b

theorem EntitiesValid.normal_slot (h : EntitiesValid m) {e : CoopEntity} (he : e ∈ m.entities)
    (hkind : e.kind = COOP_ENTITY_NORMAL) : e.slot.toNat < 12 := by
  have hvalid := entitySlotValid_toNat (h.entities e he).slot
  rw [hkind, show COOP_ENTITY_NORMAL.toNat = 0 from rfl] at hvalid
  omega

/-- What is lifted is carried and owned, and no carried sprite stays. -/
theorem liftCarried_spec {ram ram' : Ram} {carried : List Transport}
    (hrun : liftCarried m ram = some (carried, ram')) :
    (∀ t ∈ carried, Carried m ram t.entity ∧ t.entity.owner ≠ COOP_NO_PLAYER) ∧
      (∀ slot < 12, ram.status slot = 0x0b → ∃ t ∈ carried, t.entity.slot.toNat = slot) ∧
      (carried.map (fun t => t.entity.slot.toNat)).Nodup ∧ carried.length ≤ 12 := by
  have hlifted : Lifted m ram 12 (carried, ram') := liftLoop_lifted 12 (Nat.le_refl _) hrun
  have hslots : carried.map (fun t => t.entity.slot.toNat) =
      (List.range 12).filter (fun s => ram.status s = 0x0b) := hlifted.slots
  have hslot : ∀ s, (∃ t ∈ carried, t.entity.slot.toNat = s) ↔ s < 12 ∧ ram.status s = 0x0b := by
    intro s
    rw [← List.mem_map (f := fun t : Transport => t.entity.slot.toNat), hslots, List.mem_filter,
      List.mem_range, decide_eq_true_eq]
  refine ⟨fun t ht => ?_, fun slot hlt hstatus => (hslot slot).2 ⟨hlt, hstatus⟩, ?_, ?_⟩
  · obtain ⟨hmem, hkind, howner⟩ := hlifted.entities t ht
    exact ⟨⟨hmem, hkind, ((hslot _).1 ⟨t, ht, rfl⟩).2⟩, howner⟩
  · rw [hslots]
    exact List.nodup_range.filter _
  · have hlen := congrArg List.length hslots
    rw [List.length_map] at hlen
    rw [hlen]
    exact Nat.le_trans (List.length_filter_le _ _) (Nat.le_of_eq List.length_range)

/-! ## Landing -/

/-- The record of a carried entity in its new slot. -/
def Transport.landed (t : Transport) (slot : Nat) : CoopEntity :=
  { t.entity with slot := UInt32.ofNat slot }

theorem claimed_none {e : CoopEntity} (hheld : e.flags ≠ COOP_ENTITY_HELD)
    (hridden : e.flags ≠ COOP_ENTITY_RIDDEN) (p : CoopPlayer) : p.claimed e = p := by
  unfold CoopPlayer.claimed
  rw [if_neg hheld, if_neg hridden]
  split <;> rfl

theorem claimed_held_eq {e : CoopEntity} (hheld : e.flags = COOP_ENTITY_HELD) {p : CoopPlayer}
    (howner : p.id = e.owner) : p.claimed e = { p with heldObject := e.id } := by
  have hridden : e.flags ≠ COOP_ENTITY_RIDDEN := by
    rw [hheld]
    decide
  unfold CoopPlayer.claimed
  rw [if_pos howner, if_pos hheld, if_neg hridden]

theorem claimed_ridden_eq {e : CoopEntity} (hridden : e.flags = COOP_ENTITY_RIDDEN) {p : CoopPlayer}
    (howner : p.id = e.owner) : p.claimed e = { p with mount := e.id } := by
  have hheld : e.flags ≠ COOP_ENTITY_HELD := by
    rw [hridden]
    decide
  unfold CoopPlayer.claimed
  rw [if_pos howner, if_neg hheld, if_pos hridden]

theorem claimed_other {e : CoopEntity} {p : CoopPlayer} (hother : p.id ≠ e.owner) :
    p.claimed e = p :=
  if_neg hother

/-- Writing the owner's record is claiming for the whole roster. -/
theorem putKey_claimed {s : CoopSession} (hroster : (s.players.map CoopPlayer.id).Nodup)
    {e : CoopEntity}
    {p : CoopPlayer} (hp : coopPlayer s e.owner = some p) :
    putKey CoopPlayer.id (p.claimed e) s.players = s.players.map (CoopPlayer.claimed e) := by
  rw [putKey_eq_map hroster]
  refine List.map_congr_left fun q hq => ?_
  have howner := coopPlayer_id hp
  rw [p.claimed_id]
  split
  · rename_i hid
    rw [List.inj_on_of_nodup_map hroster hq (coopPlayer_mem hp) hid]
  · rename_i hid
    exact (claimed_other fun heq => hid (heq.trans howner.symm)).symm

theorem landEntity_adds {t : Transport} {slot : Nat}
    (hroster : (m.session.players.map CoopPlayer.id).Nodup)
    (hridden : t.entity.flags ≠ COOP_ENTITY_RIDDEN) (hland : landEntity m t slot = some n) :
    Adds m n (t.landed slot) := by
  unfold landEntity at hland
  dsimp only at hland
  split at hland
  · rename_i hheld
    split at hland
    · cases hland
    rename_i p hp
    cases hland
    have hp : coopPlayer m.session (t.landed slot).owner = some p := hp
    refine ⟨⟨rfl, rfl, rfl⟩, rfl, rfl, UInt32.le_refl _, rfl, ?_⟩
    have hclaim : p.claimed (t.landed slot) = { p with heldObject := t.entity.id } :=
      claimed_held_eq hheld (coopPlayer_id hp)
    rw [← putKey_claimed hroster hp, hclaim]
    rfl
  · rename_i hheld
    cases hland
    refine ⟨⟨rfl, rfl, rfl⟩, rfl, rfl, UInt32.le_refl _, rfl, ?_⟩
    have hsame : CoopPlayer.claimed (t.landed slot) = id :=
      funext fun p => claimed_none (e := t.landed slot) hheld hridden p
    rw [hsame, List.map_id]

/-- What is known of the sprites still to land, all lifted from `m`. -/
structure InTransport (m : CoopMachine) (carried : List Transport) : Prop where
  entities : ∀ t ∈ carried, t.entity ∈ m.entities
  kind : ∀ t ∈ carried, t.entity.kind = COOP_ENTITY_NORMAL
  owned : ∀ t ∈ carried, t.entity.owner ≠ COOP_NO_PLAYER
  apart : (carried.map (fun t => t.entity.id)).Nodup

theorem InTransport.tail {t : Transport} {carried : List Transport}
    (h : InTransport m (t :: carried)) :
    InTransport m carried := by
  have hapart := h.apart
  rw [List.map_cons, List.nodup_cons] at hapart
  exact ⟨fun u hu => h.entities u (List.mem_cons_of_mem _ hu),
    fun u hu => h.kind u (List.mem_cons_of_mem _ hu), fun u hu =>
    h.owned u (List.mem_cons_of_mem _ hu), hapart.2⟩

/-- A carried sprite is not ridden: everybody is on foot. -/
theorem Ready.unridden (h : Ready m₀ m) {e : CoopEntity} (he : e ∈ m.entities)
    (howner : e.owner ≠ COOP_NO_PLAYER) : e.flags ≠ COOP_ENTITY_RIDDEN := by
  intro hflags
  have hvalid := h.standing.tables.entities e he
  obtain ⟨p, hp⟩ := Option.isSome_iff_exists.1 (findKey_isSome.2 (hvalid.owner howner))
  exact h.standing.tables.named e he ((hvalid.ridden hflags p hp).symm.trans (h.dismounted _ p hp))

/-- Midway: `n` after `slot` sprites have landed, `carried` still to come. -/
structure Landing (m₀ m : CoopMachine) (slot : Nat) (carried : List Transport)
    (n : CoopMachine) : Prop where
  ready : Ready m₀ n
  actors : SameActors m n
  roster : n.session.players.map CoopPlayer.id = m.session.players.map CoopPlayer.id
  next : m.nextEntity ≤ n.nextEntity
  slots : ∀ f ∈ n.entities, f.slot.toNat < slot
  fresh : ∀ t ∈ carried, ∀ f ∈ n.entities, f.id ≠ t.entity.id
  waiting : ∀ t ∈ carried, t.entity.flags = COOP_ENTITY_HELD →
    ∀ p, coopPlayer n.session t.entity.owner = some p → p.heldObject = COOP_NO_ENTITY

theorem Sound.landed {t : Transport} {slot : Nat} (h : Sound m t.entity)
    (hkind : t.entity.kind = COOP_ENTITY_NORMAL) (hslot : slot < 12) : Sound m (t.landed slot) := by
  refine ⟨h.mount, h.id, ?_, h.type, h.flags, h.owner, h.target, h.owned, h.normal⟩
  show entitySlotValid t.entity.kind (UInt32.ofNat slot) = true
  have hlt : UInt32.ofNat slot < 12 := by
    rw [UInt32.lt_iff_toNat_lt, UInt32.toNat_ofNat_of_lt' (Nat.lt_trans hslot (by decide))]
    exact hslot
  simp [entitySlotValid, hkind, hlt]

theorem SameActors.storedMounts (h : SameActors m n) {b : CoopActor} (hb : b ∈ n.actors) :
    ∃ a ∈ m.actors, a.storedMount = b.storedMount := by
  obtain ⟨a, ha, hab⟩ := h.mem hb
  exact ⟨a, ha, congrArg Belongings.storedMount hab⟩

theorem Landing.new {slot : Nat} {t : Transport} {carried : List Transport}
    (h : Landing m₀ m slot (t :: carried) n)
    (hm : Ready m₀ m) (ht : InTransport m (t :: carried)) (hslot : slot < 12) :
    New n (t.landed slot) := by
  have hfirst := List.mem_cons_self (a := t) (l := carried)
  have hridden := hm.unridden (ht.entities t hfirst) (ht.owned t hfirst)
  constructor
  · exact h.fresh t hfirst
  · intro f hf heq
    have hbelow := h.slots f hf
    have hsame : f.slot = UInt32.ofNat slot := congrArg Prod.snd heq
    rw [hsame, UInt32.toNat_ofNat_of_lt' (Nat.lt_trans hslot (by decide))] at hbelow
    exact Nat.lt_irrefl _ hbelow
  · intro b hb hne heq
    obtain ⟨a, ha, hstored⟩ := h.actors.storedMounts hb
    rw [← hstored] at hne heq
    exact (hm.standing.tables.stored a ha).entity hne t.entity (ht.entities t hfirst) heq.symm
  · intro f hf hne
    rw [h.actors.fireballs_eq] at hf
    exact (hm.standing.tables.fireballs f hf).entity hne t.entity (ht.entities t hfirst)
  · exact h.waiting t hfirst
  · exact fun hflags => absurd hflags hridden
  · exact fun hflags => absurd hflags hridden

theorem Ready.adds {e : CoopEntity} (h : Ready m₀ m) (hadds : Adds m n e) (hvalid : EntitiesValid n)
    (hridden : e.flags ≠ COOP_ENTITY_RIDDEN) : Ready m₀ n := by
  refine ⟨h.standing.of_tables hvalid hadds.roster hadds.actors.players,
    hadds.roster.trans h.roster, hadds.actors.players.trans h.actors, fun P q hq =>
    ?_, fun P p hp hne => ?_⟩
  · rw [hadds.player] at hq
    obtain ⟨p, hp, rfl⟩ := Option.map_eq_some_iff.1 hq
    rw [p.claimed_mount, if_neg fun hclaim => hridden hclaim.2]
    exact h.dismounted P p hp
  · obtain ⟨a, ha, hmount⟩ := h.stored P p hp hne
    obtain ⟨b, hb, hsame⟩ := hadds.actors.storedMount ha
    exact ⟨b, hb, hsame.trans hmount⟩

/-- One sprite lands. -/
theorem Landing.land {slot : Nat} {t : Transport} {carried : List Transport} {n' : CoopMachine}
    (h : Landing m₀ m slot (t :: carried) n) (hm : Ready m₀ m) (ht : InTransport m (t :: carried))
    (hslot : slot < 12) (hadds : Adds n n' (t.landed slot)) :
    Landing m₀ m (slot + 1) carried n' := by
  have hfirst := List.mem_cons_self (a := t) (l := carried)
  have hentity := ht.entities t hfirst
  have hridden := hm.unridden hentity (ht.owned t hfirst)
  have hvalid := hm.standing.tables.entities t.entity hentity
  have hsound : Sound n' (t.landed slot) := (hvalid.sound.landed (ht.kind t hfirst) hslot).mono
    (hadds.roster.trans h.roster) (UInt32.le_trans h.next hadds.next)
  have htables : EntitiesValid n' :=
    adds_valid h.ready.standing.tables hadds hsound (h.new hm ht hslot)
  have happart := ht.apart
  rw [List.map_cons, List.nodup_cons] at happart
  have hother : ∀ u ∈ carried, t.entity.id ≠ u.entity.id := fun u hu heq =>
    happart.1 (List.mem_map.2 ⟨u, hu, heq.symm⟩)
  refine ⟨h.ready.adds hadds htables hridden, h.actors.trans hadds.actors,
    hadds.roster.trans h.roster, UInt32.le_trans h.next hadds.next, fun f hf => ?_, fun u hu f hf =>
    ?_, fun u hu hheld q hq => ?_⟩
  · rcases hadds.mem.1 hf with hf | rfl
    · exact Nat.lt_succ_of_lt (h.slots f hf)
    · show (UInt32.ofNat slot).toNat < slot + 1
      rw [UInt32.toNat_ofNat_of_lt' (Nat.lt_trans hslot (by decide))]
      exact Nat.lt_succ_self slot
  · rcases hadds.mem.1 hf with hf | rfl
    · exact h.fresh u (List.mem_cons_of_mem _ hu) f hf
    · exact hother u hu
  · rw [hadds.player] at hq
    obtain ⟨p, hp, rfl⟩ := Option.map_eq_some_iff.1 hq
    rw [p.claimed_held, if_neg]
    · exact h.waiting u (List.mem_cons_of_mem _ hu) hheld p hp
    · -- a player holds one object, so two held sprites have two owners
      rintro ⟨hid, hflags⟩
      have huentity := ht.entities u (List.mem_cons_of_mem _ hu)
      obtain ⟨r, hr⟩ := coopPlayer_of_ids h.roster hp
      have howner : t.entity.owner = u.entity.owner := (hid.symm.trans (coopPlayer_id hp) : _)
      have hheldt := hvalid.held hflags r (by rw [howner]; exact hr)
      have hheldu := (hm.standing.tables.entities u.entity huentity).held hheld r hr
      exact hother u hu (hheldt.symm.trans hheldu)

theorem Landing.same {slot : Nat} {carried : List Transport} {n' : CoopMachine}
    (h : Landing m₀ m slot carried n) (hsame : SameOwnership n n') :
    Landing m₀ m slot carried n' := by
  refine ⟨h.ready.same hsame, h.actors.trans hsame.toSameActors, hsame.roster.trans h.roster,
    by rw [hsame.next]; exact h.next, ?_, ?_, fun t ht hheld q hq => ?_⟩
  · rw [hsame.entities]
    exact h.slots
  · rw [hsame.entities]
    exact h.fresh
  · obtain ⟨p, hp⟩ := coopPlayer_of_ids hsame.roster hq
    obtain ⟨q', hq', hholding⟩ := hsame.toSameHoldings.player hp
    cases hq.symm.trans hq'
    have hheldq : q.heldObject = p.heldObject := congrArg Holding.heldObject hholding
    exact hheldq.trans (h.waiting t ht hheld p hp)

/-- A record and where it has gone: all but the slot is the same. -/
def Moved (e f : CoopEntity) : Prop := f = { e with slot := f.slot }

variable {emu : Emulator κ} {completed : κ}

theorem landStep_lands {slot : Nat} {t : Transport} {carried : List Transport} {st st' : Stage κ}
    (hemu : emu.KeepsOwnership) (h : Landing m₀ m slot (t :: carried) st.machine) (hm : Ready m₀ m)
    (ht : InTransport m (t :: carried)) (hslot : slot < 12)
    (hstep : landStep emu completed slot t st = some st') :
    Landing m₀ m (slot + 1) carried st'.machine ∧
      st'.machine.entities = st.machine.entities ++ [t.landed slot] := by
  obtain ⟨st₁, hjsr, hstep⟩ := Option.bind_eq_some_iff.1 hstep
  obtain ⟨n, hland, hstep⟩ := Option.bind_eq_some_iff.1 hstep
  cases hstep
  have hsame : SameOwnership st.machine st₁.machine := (hemu _ _ _ _ hjsr :)
  have h₁ := h.same hsame
  have hfirst := List.mem_cons_self (a := t) (l := carried)
  have hadds := landEntity_adds h₁.ready.standing.roster
    (hm.unridden (ht.entities t hfirst) (ht.owned t hfirst)) hland
  refine ⟨h₁.land hm ht hslot hadds, ?_⟩
  rw [← hsame.entities]
  exact hadds.entities

theorem landCarried_lands (hemu : emu.KeepsOwnership) (hm : Ready m₀ m) :
    ∀ {carried : List Transport} {slot : Nat} {st st' : Stage κ},
      Landing m₀ m slot carried st.machine → InTransport m carried → slot + carried.length ≤ 12 →
      landCarried emu completed slot carried st = some st' →
      Ready m₀ st'.machine ∧ (∀ e ∈ st.machine.entities, e ∈ st'.machine.entities) ∧
        ∀ t ∈ carried, ∃ f ∈ st'.machine.entities, Moved t.entity f
  | [], slot, st, st', h, _, _, hrun => by
    cases hrun
    exact ⟨h.ready, fun _ he => he, (fun _ ht => nomatch ht)⟩
  | t :: carried, slot, st, st', h, ht, hlen, hrun => by
    rw [List.length_cons] at hlen
    obtain ⟨st₁, hstep, hrun⟩ := Option.bind_eq_some_iff.1 hrun
    obtain ⟨h₁, hentities⟩ := landStep_lands hemu h hm ht (by omega) hstep
    obtain ⟨hready, hkept, hmoved⟩ := landCarried_lands hemu hm h₁ ht.tail (by omega) hrun
    refine ⟨hready, fun e he => hkept e ?_, fun u hu => ?_⟩
    · rw [hentities]
      exact List.mem_append_left _ he
    · rcases List.mem_cons.1 hu with rfl | hu
      · refine ⟨u.landed slot, hkept _ ?_, rfl⟩
        rw [hentities]
        exact List.mem_append_right _ (List.mem_singleton.2 rfl)
      · exact hmoved u hu

/-! ## Up to the loader's return -/

theorem InTransport.of_lift {ram ram' : Ram} {carried : List Transport} (h : EntitiesValid m)
    (hlift : liftCarried m ram = some (carried, ram')) : InTransport m carried := by
  obtain ⟨hcarried, -, hslots, -⟩ := liftCarried_spec hlift
  refine ⟨fun t ht => (hcarried t ht).1.mem, fun t ht => (hcarried t ht).1.kind,
    fun t ht => (hcarried t ht).2, ?_⟩
  refine List.pairwise_map.2 ((List.pairwise_map.1 hslots).imp_of_mem ?_)
  intro t u ht hu hslot hid
  have hsame := List.inj_on_of_nodup_map h.ids (hcarried t ht).1.mem (hcarried u hu).1.mem hid
  exact hslot (by rw [hsame])

theorem carryThroughRoom_ready {st st' : Stage κ} (hemu : emu.KeepsOwnership)
    (h : Ready m₀ st.machine) (hrun : carryThroughRoom emu st = some st') :
    Ready m₀ st'.machine ∧ ∀ slot < 12, st.ram.status slot = 0x0b →
    ∃ e, Carried st.machine st.ram e ∧
      e.slot.toNat = slot ∧ ∃ f ∈ st'.machine.entities, Moved e f := by
  obtain ⟨⟨carried, ram⟩, hlift, hrun⟩ := Option.bind_eq_some_iff.1 hrun
  obtain ⟨st₁, hcleanup, hrun⟩ := Option.bind_eq_some_iff.1 hrun
  obtain ⟨st₂, hland, hrun⟩ := Option.bind_eq_some_iff.1 hrun
  cases hrun
  have hsame : SameOwnership st.machine st₁.machine := (hemu _ _ _ _ hcleanup :)
  have h₁ := h.same hsame
  obtain ⟨hready, hnone, hnext⟩ := h₁.forgetAll
  obtain ⟨hcarried, hfound, -, hlen⟩ := liftCarried_spec hlift
  have hactors : SameActors st₁.machine (forgetAll st₁.machine) := forgetAll_actors _
  have hstart : Landing m₀ st.machine 0 carried (forgetAll st₁.machine) := by
    refine ⟨hready, hsame.toSameActors.trans hactors, hready.roster.trans h.roster.symm, ?_, ?_, ?_,
      fun t _ _ p hp => hready.standing.emptyHanded hnone hp⟩
    · rw [hnext, hsame.next]
      exact UInt32.le_refl _
    · rw [hnone]
      exact fun _ hf => nomatch hf
    · rw [hnone]
      exact fun _ _ _ hf => nomatch hf
  obtain ⟨hdone, -, hmoved⟩ := landCarried_lands hemu h hstart (.of_lift h.standing.tables hlift)
    (by rw [Nat.zero_add]; exact hlen) hland
  refine ⟨hdone, fun slot hlt hstatus => ?_⟩
  obtain ⟨t, ht, hslot⟩ := hfound slot hlt hstatus
  exact ⟨t.entity, (hcarried t ht).1, hslot, hmoved t ht⟩

/-- The ROM's loader changes no ownership record, and no sprite before its cleanup. -/
structure RoomLoader.KeepsOwnership (loader : RoomLoader κ) : Prop where
  enter : ∀ st st', loader.enter st = some st' → SameOwnership st.machine st'.machine
  sprites : ∀ st st', loader.enter st = some st' → ∀ slot < 12, st'.ram.status slot =
    st.ram.status slot
  leave : ∀ st st', loader.leave st = some st' → SameOwnership st.machine st'.machine

theorem enterRoom_spec {loader : RoomLoader κ} {st st' : Stage κ} (hemu : emu.KeepsOwnership)
    (hloader : loader.KeepsOwnership) (h : Standing st.machine)
    (hrun : enterRoom emu loader st = some st') :
    Ready st.machine st'.machine ∧
      ∀ e, Carried st.machine st.ram e → ∃ f ∈ st'.machine.entities, Moved e f := by
  obtain ⟨st₁, hpark, hrun⟩ := Option.bind_eq_some_iff.1 hrun
  obtain ⟨st₂, hadopt, hrun⟩ := Option.bind_eq_some_iff.1 hrun
  obtain ⟨st₃, henter, hrun⟩ := Option.bind_eq_some_iff.1 hrun
  obtain ⟨st₄, hcarry, hleave⟩ := Option.bind_eq_some_iff.1 hrun
  obtain ⟨h₁, hparked, hram₁⟩ := parkLoop_ready h hpark
  obtain ⟨h₂, hentities₂, hram₂⟩ := adoptCarryFlag_ready h.tables h₁ hadopt
  have hsame₃ := hloader.enter _ _ henter
  obtain ⟨h₄, hcarried⟩ := carryThroughRoom_ready hemu (h₂.same hsame₃) hcarry
  have hsame₅ := hloader.leave _ _ hleave
  refine ⟨h₄.same hsame₅, fun e he => ?_⟩
  have hlt := h.tables.normal_slot he.mem he.kind
  have hstatus : st₃.ram.status e.slot.toNat = 0x0b := by
    rw [hloader.sprites _ _ henter _ hlt, hram₂, hram₁]
    exact he.status
  obtain ⟨g, hg, hslot, f, hf, hmoved⟩ := hcarried _ hlt hstatus
  -- the slot's record was there from the start
  have hmem : g ∈ st.machine.entities := by
    refine hparked g ?_
    rw [← hentities₂, ← hsame₃.entities]
    exact hg.mem
  have hge : g = e := by
    refine List.inj_on_of_nodup_map h.tables.slots hmem he.mem ?_
    rw [hg.kind, he.kind, UInt32.toNat_inj.1 hslot]
  rw [hge] at hmoved
  exact ⟨f, hsame₅.entities ▸ hf, hmoved⟩

end SmwRecomp.Coop
