import SmwRecomp.Coop.MachineImage

/-!
# Loading hostile machine bytes

* `Loaded` — what holds of the machine a load fills, after every section.
* `within_loadSections` — whatever the bytes, the load stays inside them and keeps `Loaded`.
* `readMachine_cases` — a load refuses, or delivers a machine that can be saved again.
* `hostile_loads` — the session's and the machine's load on arbitrary bytes.
-/

set_option autoImplicit false

namespace SmwRecomp.Coop

/-! ## What a load fills -/

/-- An entity as a load leaves it: without a mount its pictures are those of the zeroed table. -/
def CoopEntity.restored (e : CoopEntity) : CoopEntity :=
  if e.mountValid then e
  else { e with mount := List.Vector.replicate _ 0, pending := [], visible := [] }

/-- What an image keeps of a machine; `allocator` are the answers left after the load. -/
def CoopMachine.restored (m : CoopMachine) (allocator : Allocator) : CoopMachine :=
  { m with
    session := m.session.reloaded allocator
    entities := m.entities.map CoopEntity.restored
    entityCapacity := m.entities.length
    sourceCapacity := m.sources.length
    placedCapacity := m.placedEggs.length }

structure EntityLoaded (e : CoopEntity) : Prop where
  pictures : e.mountValid = true → Pictures COOP_MOUNT_PIECES e.pending e.visible
  restored : e.restored = e

structure Loaded (m : CoopMachine) : Prop where
  savable : Savable m
  focus : FocusInRange m
  compact : Compact m
  session : m.session = m.session.reloaded m.session.allocator
  entities : ∀ e ∈ m.entities, EntityLoaded e
  entityCapacity : m.entityCapacity = m.entities.length
  sourceCapacity : m.sourceCapacity = m.sources.length
  placedCapacity : m.placedCapacity = m.placedEggs.length

theorem Loaded.restored {m : CoopMachine} (h : Loaded m) (allocator : Allocator) :
    m.restored allocator = m.withAllocator allocator := by
  have hentities : m.entities.map CoopEntity.restored = m.entities := by
    conv_rhs => rw [← List.map_id m.entities]
    exact List.map_congr_left fun e he => (h.entities e he).restored
  have hsession : m.session.reloaded allocator = { m.session with allocator := allocator } := by
    conv_rhs => rw [h.session]
    rfl
  rw [CoopMachine.restored, hentities, hsession, ← h.entityCapacity, ← h.sourceCapacity,
    ← h.placedCapacity]
  rfl

/-! ## Small readers -/

section Small

variable {β : Type} {r : Nat} {Q : β → Nat → Prop}

theorem Within.reject : Within TRAILER (reject : CursorM β) r Q := fun _ _ => Or.inl rfl

theorem Within.tag {t : Tag} {f : Unit → CursorM β} (h : 4 ≤ r)
    (hf : Within TRAILER (f ()) (r - 4) Q) : Within TRAILER (nextTag t >>= f) r Q := by
  unfold nextTag
  rw [bind_assoc]
  exact Within.vector h fun _ => Within.refuse fun _ => hf

theorem Within.flag {f : Bool → CursorM β} (h : 4 ≤ r)
    (hf : ∀ b, Within TRAILER (f b) (r - 4) Q) : Within TRAILER (nextFlag >>= f) r Q := by
  unfold nextFlag
  rw [bind_assoc]
  refine Within.word h fun w => ?_
  rw [bind_assoc]
  refine Within.refuse fun _ => ?_
  rw [pure_bind]
  exact hf _

theorem Within.count {bound : Nat} {f : UInt32 → CursorM β} (h : 4 ≤ r)
    (hf : ∀ n : UInt32, n.toNat ≤ bound → Within TRAILER (f n) (r - 4) Q) :
    Within TRAILER (nextCount bound >>= f) r Q := by
  unfold nextCount
  rw [bind_assoc]
  refine Within.word h fun w => ?_
  rw [bind_assoc]
  refine Within.refuse fun hw => ?_
  rw [pure_bind]
  exact hf _ (Nat.not_lt.1 hw)

theorem Within.allocate {n : UInt32} {m : CoopMachine} {f : CoopMachine → CursorM β}
    (hf : ∀ allocator, Within TRAILER (f (m.withAllocator allocator)) r Q) :
    Within TRAILER (allocate n m >>= f) r Q := by
  unfold Coop.allocate
  rcases allocateIf (n ≠ 0) m.session.allocator with ⟨_ | _, rest⟩
  · exact (Within.reject (Q := fun _ _ => False)).bind fun _ _ h => h.elim
  · rw [pure_bind]
    exact hf rest

end Small

theorem within_loadPiece {r : Nat} :
    Within TRAILER loadPiece r (fun v _ => pieceValid v = true ∧ True) := by
  unfold loadPiece
  refine Within.need fun h => ?_
  have hsize : 540 ≤ r := h
  refine Within.word (by omega) fun x => Within.word (by omega) fun y =>
    Within.word (by omega) fun width =>
    Within.word (by omega) fun height => Within.word (by omega) fun priority =>
    Within.word (by omega) fun math => Within.word (by omega) fun slot =>
    Within.halves (by unfold COOP_PIECE_PIXELS; omega) fun pixels => Within.refuse fun hv =>
      Within.pure ?_
  exact ⟨Bool.eq_true_of_not_eq_false hv, trivial⟩

theorem within_pieces {r n : Nat} : Within TRAILER (nextEach loadPiece n) r
    (fun vs _ => vs.length = n ∧ ∀ v ∈ vs, pieceValid v = true) :=
  (within_nextEach (I := fun _ _ => True) (fun _ _ _ => within_loadPiece) trivial).mono
    fun _ _ h => ⟨h.1, h.2.1⟩

/-- The two picture loops, after their counts were checked. -/
theorem Within.pictures {β : Type} {r bound : Nat} {Q : β → Nat → Prop} {pending visible : UInt32}
    (hp : pending.toNat ≤ bound) (hv : visible.toNat ≤ bound)
    {f : List CoopVisualPiece → List CoopVisualPiece → CursorM β}
    (hf : ∀ ps vs r', Pictures bound ps vs → Within TRAILER (f ps vs) r' Q) :
    Within TRAILER (nextEach loadPiece pending.toNat >>= fun ps =>
      nextEach loadPiece visible.toNat >>= fun vs => f ps vs) r Q := by
  refine within_pieces.bind fun ps _ hps => within_pieces.bind fun vs r' hvs => hf ps vs r' ?_
  refine ⟨hps.1 ▸ hp, hvs.1 ▸ hv, fun v hm => ?_⟩
  exact (List.mem_append.1 hm).elim (hps.2 v) (hvs.2 v)

/-! ## Header and roster -/

structure HeadLoaded (h : MachineHead) : Prop where
  version : 2 ≤ h.version ∧ h.version ≤ 8
  mode : h.previousMode ≤ 0x29

theorem within_loadHead {r : Nat} (hr : 64 ≤ r) :
    Within TRAILER loadHead r (fun h _ => HeadLoaded h) := by
  unfold loadHead
  refine Within.tag (by omega) <| Within.word (by omega) fun version =>
    Within.refuse fun hversion => ?_
  refine Within.vector (by omega) fun rom => Within.refuse fun _ => ?_
  refine Within.word (by omega) fun core => Within.word (by omega) fun count =>
    Within.word (by omega) fun layout => Within.refuse fun _ => Within.word (by omega) fun room =>
    Within.word (by omega) fun mode => Within.refuse fun hmode => ?_
  refine Within.flag (by omega) fun initialized => Within.pure ⟨?_, UInt32.not_lt.1 hmode⟩
  rw [not_or] at hversion
  exact ⟨UInt32.not_lt.1 hversion.1, UInt32.not_lt.1 hversion.2⟩

/-- An actor as the actor loop leaves it. -/
structure ActorLoaded (session : CoopSession) (a : CoopActor) : Prop where
  player : (coopPlayer session a.player).isSome
  pictures : Pictures COOP_BODY_PIECES a.pending a.visible
  fireballs : a.fireballs = List.Vector.replicate _ zeroFireball

/-- The actors read so far. -/
structure ActorsLoaded (session : CoopSession) (as : List CoopActor) : Prop where
  each : ∀ a ∈ as, ActorLoaded session a
  players : (as.map CoopActor.player).Nodup
  seats : (as.map CoopActor.inputSeat).Nodup

theorem ActorsLoaded.append {session : CoopSession} {as : List CoopActor} {a : CoopActor}
    (h : ActorsLoaded session as) (ha : ActorLoaded session a)
    (hnew : ¬ ∃ b ∈ as, a.player = b.player ∨ a.inputSeat = b.inputSeat) :
    ActorsLoaded session (as ++ [a]) := by
  have hplayer : a.player ∉ as.map CoopActor.player := fun hm => by
    obtain ⟨b, hb, hp⟩ := List.mem_map.1 hm
    exact hnew ⟨b, hb, Or.inl hp.symm⟩
  have hseat : a.inputSeat ∉ as.map CoopActor.inputSeat := fun hm => by
    obtain ⟨b, hb, hp⟩ := List.mem_map.1 hm
    exact hnew ⟨b, hb, Or.inr hp.symm⟩
  refine ⟨fun b hb => ?_, ?_, ?_⟩
  · rcases List.mem_append.1 hb with hb | hb
    · exact h.each b hb
    · rw [List.mem_singleton.1 hb]
      exact ha
  · rw [List.map_append, List.map_singleton, List.nodup_append]
    refine ⟨h.players, List.nodup_singleton _, fun x hx y hy => ?_⟩
    rw [List.mem_singleton.1 hy]
    exact fun he => hplayer (he ▸ hx)
  · rw [List.map_append, List.map_singleton, List.nodup_append]
    refine ⟨h.seats, List.nodup_singleton _, fun x hx y hy => ?_⟩
    rw [List.mem_singleton.1 hy]
    exact fun he => hseat (he ▸ hx)

theorem within_loadActor {version : UInt32} {session : CoopSession}
    {before : List CoopActor} {r : Nat}
    (hbefore : ActorsLoaded session before) : Within TRAILER (loadActor version session before) r
      (fun a _ => ActorsLoaded session (before ++ [a])) := by
  unfold loadActor
  refine Within.need fun h => ?_
  have hsize : 160 ≤ r := h
  refine Within.word (by omega) fun player => Within.word (by omega) fun seat =>
    Within.count (by omega) fun pending hp => Within.count (by omega) fun visible hv => ?_
  refine Within.refuse fun hplayer => Within.refuse fun hnew => ?_
  refine Within.vector (by unfold COOP_GUEST_BYTES; omega) fun guest => Within.refuse fun _ => ?_
  refine Within.pictures hp hv fun ps vs r' hpictures => Within.pure ?_
  refine hbefore.append ⟨?_, hpictures, rfl⟩ hnew
  rwa [Option.isNone_iff_eq_none, ← ne_eq, Option.ne_none_iff_isSome] at hplayer

theorem within_loadActors {version : UInt32} {session : CoopSession} :
    ∀ {n : Nat} {before : List CoopActor} {r : Nat}, ActorsLoaded session before →
    Within TRAILER (loadActors version session before n) r
      (fun as _ => ActorsLoaded session as ∧ as.length = before.length + n)
  | 0, _, _, h => Within.pure ⟨h, rfl⟩
  | n + 1, before, _, h => (within_loadActor h).bind fun a r' ha =>
    (within_loadActors ha).mono fun as _ has => by
      refine ⟨has.1, has.2.trans ?_⟩
      rw [List.length_append, List.length_singleton]
      omega

/-- Distinct players of the session, as many as it has. -/
theorem ActorsLoaded.actorsMatch {m : CoopMachine} (h : ActorsLoaded m.session m.actors)
    (hlen : m.actors.length = m.session.players.length) : ActorsMatch m := by
  have hsub : m.actors.map CoopActor.player ⊆ m.session.players.map CoopPlayer.id := by
    intro id hid
    obtain ⟨a, ha, rfl⟩ := List.mem_map.1 hid
    obtain ⟨p, hp, he⟩ := findKey_isSome.1 (h.each a ha).player
    exact List.mem_map.2 ⟨p, hp, he⟩
  refine (List.subperm_of_subset h.players hsub).perm_of_length_le ?_
  rw [List.length_map, List.length_map, hlen]

theorem zeroPictures {bound : Nat} : Pictures bound [] [] :=
  ⟨Nat.zero_le _, Nat.zero_le _, fun _ h => nomatch h⟩

/-- The machine behind the actors. -/
theorem loaded_roster (session : CoopSession) {actors : List CoopActor} {head : MachineHead}
    (hvalid : valid session = true) (hs : Storable session)
    (hsession : session = session.reloaded session.allocator)
    (hcore : (sessionImage session).length ≤ UINT32_MAX) (hactors : ActorsLoaded session actors)
    (hlen : actors.length = session.players.length) (hhead : HeadLoaded head) :
    Loaded { freshMachine session [] with
      actors := actors, room := head.room, previousMode := head.previousMode
      roomInitialized := head.roomInitialized } := by
  have hballs : ∀ a ∈ actors, ∀ f ∈ a.fireballs.toList, Pictures 1 f.pending f.visible := by
    intro a ha f hf
    rw [(hactors.each a ha).fireballs] at hf
    rw [List.eq_of_mem_replicate (show f ∈ List.replicate 2 zeroFireball from hf)]
    exact zeroPictures
  refine ⟨⟨hvalid, hs.two, ActorsLoaded.actorsMatch hactors hlen, hactors.seats, fun a ha =>
    (hactors.each a ha).pictures, fun f hf => ?_, fun _ h => (nomatch h), hhead.mode,
    Nat.zero_le _⟩, ⟨rfl, rfl, rfl, rfl⟩, ⟨hcore, Nat.zero_le _, Nat.zero_le _⟩, hsession,
    fun _ h => (nomatch h), rfl, rfl, rfl⟩
  obtain ⟨a, ha, hfa⟩ := mem_fireballs.1 hf
  exact hballs a ha f hfa

theorem within_loadRoster {head : MachineHead} {allocator : Allocator} {r : Nat}
    (hhead : HeadLoaded head) :
    Within TRAILER (loadRoster head allocator) r (fun m _ => Loaded m) := by
  unfold loadRoster
  refine Within.remaining <| Within.refuse fun hcore => ?_
  have hroom : head.core.toNat ≤ r := by omega
  refine Within.room hroom <| Within.refuse fun hcount => Within.vector hroom fun core => ?_
  rcases readSession_cases core.toList allocator with hr
    | ⟨session, hr, himage, hvalid, hs, hsession⟩
  · rw [hr]
    exact (Within.reject (Q := fun _ _ => False)).bind fun _ _ h => h.elim
  rw [hr]
  refine (Within.pure (Q := fun s _ => s = session) rfl).bind fun s _ he => ?_
  subst he
  refine Within.refuse fun hplayers => ?_
  rw [not_or, not_not] at hplayers
  refine Within.allocate fun rest => ?_
  have hrest : ActorsLoaded s [] := ⟨fun _ h => (nomatch h), List.nodup_nil, List.nodup_nil⟩
  refine (within_loadActors hrest).bind fun actors _ hactors => Within.pure ?_
  have hlen : actors.length = s.players.length := by
    rw [hactors.2, hplayers.1, List.length_nil, Nat.zero_add]
  have hsize : (sessionImage s).length ≤ UINT32_MAX := by
    rw [← himage, core.toList_length]
    exact Nat.le_of_lt_succ head.core.toNat_lt
  have hreloaded : ({ s with allocator := rest } : CoopSession) =
      CoopSession.reloaded { s with allocator := rest } rest := by
    rw [hsession]
    rfl
  exact loaded_roster { s with allocator := rest } hvalid ⟨hs.two, hs.players, hs.events,
    hs.actions⟩ hreloaded hsize ⟨fun a ha =>
    ⟨(hactors.1.each a ha).player, (hactors.1.each a ha).pictures,
      (hactors.1.each a ha).fireballs⟩, hactors.1.players, hactors.1.seats⟩ hlen hhead

/-! ## Sections -/

section Sections

variable {m : CoopMachine} {r : Nat}

theorem CoopMachine.mounts_eq_nil {m : CoopMachine} (h : ∀ e ∈ m.entities, e.mountValid = false) :
    m.mounts = [] :=
  List.filter_eq_nil_iff.2 fun e he => by rw [h e he]; exact Bool.false_ne_true

theorem within_loadEntity {n r : Nat} (h : (n + 1) * ENTITY_BYTES ≤ r) : Within TRAILER loadEntity r
    (fun e r' => (e.mountValid = false ∧ EntityLoaded e) ∧ n * ENTITY_BYTES ≤ r') := by
  rw [Nat.succ_mul] at h
  unfold ENTITY_BYTES at h ⊢
  unfold loadEntity
  refine Within.word (by omega) fun id => Within.word (by omega) fun kind =>
    Within.word (by omega) fun slot =>
    Within.word (by omega) fun type => Within.word (by omega) fun owner =>
    Within.word (by omega) fun target => Within.word (by omega) fun flags => Within.pure ?_
  exact ⟨⟨rfl, fun h => (nomatch h), rfl⟩, by omega⟩

theorem within_loadEntities {version : UInt32} (hm : Loaded m) :
    Within TRAILER (loadEntities version m) r (fun m' _ => Loaded m') := by
  unfold loadEntities
  refine Within.need fun h => ?_
  have hheader : 16 ≤ r := h
  refine Within.tag (by omega) <| Within.word (by omega) fun count =>
    Within.word (by omega) fun next =>
    Within.word (by omega) fun level => Within.need fun htail => Within.refuse fun hmax => ?_
  refine Within.room htail <| Within.refuse fun hcount => Within.allocate fun rest => ?_
  have hroom : count.toNat * ENTITY_BYTES ≤ r - 4 - 4 - 4 - 4 := by
    have := Nat.mul_le_of_le_div _ _ _ (Nat.not_lt.1 hcount)
    omega
  refine (within_nextEach (I := fun n r => n * ENTITY_BYTES ≤ r) (fun _ _ => within_loadEntity)
    hroom).bind fun entities _ he => Within.pure ?_
  obtain ⟨hlen, hentities, -⟩ := he
  have hs := hm.savable
  refine ⟨⟨hs.session, hs.players, hs.actors, hs.seats, hs.bodies, hs.fireballs, ?_, hs.mode,
    hs.focusCount⟩, ⟨hm.focus.x, hm.focus.y, hm.focus.centerX, hm.focus.centerY⟩,
    ⟨hm.compact.session, hm.compact.sources, hm.compact.eggs⟩, ?_, fun e he =>
    (hentities e he).2, hlen.symm, hm.sourceCapacity, hm.placedCapacity⟩
  · intro e he
    rw [CoopMachine.mounts_eq_nil fun e he => (hentities e he).1] at he
    cases he
  · exact congrArg (fun s : CoopSession => { s with allocator := rest }) hm.session

theorem within_loadFocus (hm : Loaded m) :
    Within TRAILER (loadFocus m) r (fun m' _ => Loaded m') := by
  unfold loadFocus
  refine Within.need fun h => ?_
  have hsize : 32 ≤ r := h
  refine Within.tag (by omega) <| Within.word (by omega) fun x => Within.word (by omega) fun y =>
    Within.word (by omega) fun cx => Within.word (by omega) fun cy =>
      Within.word (by omega) fun count =>
    Within.refuse fun hcount => Within.flag (by omega) fun initialized =>
      Within.flag (by omega) fun hold =>
    Within.refuse fun hrange => Within.pure ?_
  simp only [not_or, Bool.not_eq_false] at hrange
  have hs := hm.savable
  rw [Nat.not_lt, hs.actors.length] at hcount
  exact ⟨⟨hs.session, hs.players, hs.actors, hs.seats, hs.bodies, hs.fireballs, hs.mounts, hs.mode,
    hcount⟩, ⟨hrange.1, hrange.2.1, hrange.2.2.1, hrange.2.2.2⟩,
    ⟨hm.compact.session, hm.compact.sources, hm.compact.eggs⟩, hm.session, hm.entities,
    hm.entityCapacity, hm.sourceCapacity, hm.placedCapacity⟩

theorem within_loadMount {entities : List CoopEntity} (h : ∀ e ∈ entities, EntityLoaded e) :
    Within TRAILER (loadMount entities) r
      (fun table _ => (∀ e ∈ table, EntityLoaded e) ∧ table.length = entities.length) := by
  unfold loadMount
  refine Within.need fun hsize => ?_
  unfold COOP_MOUNT_BYTES at hsize
  refine Within.word (by omega) fun id => ?_
  cases findKey CoopEntity.id id entities with
  | none => exact Within.reject
  | some e =>
      refine Within.refuse fun _ => Within.count (by omega) fun pending hp =>
        Within.count (by omega) fun visible hv =>
          Within.vector (by unfold COOP_MOUNT_BYTES; omega) fun mount =>
        Within.pictures hp hv fun ps vs r' hpictures =>
          Within.pure ⟨fun f hf => ?_, putKey_length _ _⟩
      rcases mem_putKey hf with rfl | hf
      · exact ⟨fun _ => hpictures, rfl⟩
      · exact h f hf

theorem within_loadMounts : ∀ {n : Nat} {entities : List CoopEntity} {r : Nat},
    (∀ e ∈ entities, EntityLoaded e) → Within TRAILER (loadMounts n entities) r
      (fun table _ => (∀ e ∈ table, EntityLoaded e) ∧ table.length = entities.length)
  | 0, _, _, h => Within.pure ⟨h, rfl⟩
  | _ + 1, _, _, h => (within_loadMount h).bind fun _ _ ht =>
    (within_loadMounts ht.1).mono fun _ _ h' => ⟨h'.1, h'.2.trans ht.2⟩

theorem within_loadSource {n r : Nat} (h : (n + 1) * 24 ≤ r) :
    Within TRAILER loadSource r (fun _ r' => True ∧ n * 24 ≤ r') := by
  unfold loadSource
  exact Within.word (by omega) fun level => Within.word (by omega) fun layer =>
    Within.word (by omega) fun x => Within.word (by omega) fun y =>
      Within.word (by omega) fun tile =>
    Within.word (by omega) fun uses => Within.pure ⟨trivial, by omega⟩

theorem within_loadYoshi (hm : Loaded m) :
    Within TRAILER (loadYoshi m) r (fun m' _ => Loaded m') := by
  unfold loadYoshi
  refine Within.need fun h => ?_
  refine Within.tag (by omega) <| Within.word (by omega) fun mounts =>
    Within.word (by omega) fun sources =>
    Within.flag (by omega) fun initialized => Within.refuse fun _ => ?_
  refine (within_loadMounts hm.entities).bind fun entities r' hentities => ?_
  refine Within.remaining <| Within.refuse fun hsources => ?_
  have hroom : sources.toNat * 24 ≤ r' := by
    have := Nat.mul_le_of_le_div _ _ _ (Nat.not_lt.1 (not_or.1 hsources).1)
    omega
  refine Within.allocate fun rest => ?_
  refine (within_nextEach (I := fun n r => n * 24 ≤ r) (fun _ _ => within_loadSource) hroom).bind
    fun table _ ht => Within.pure ?_
  have hs := hm.savable
  refine ⟨⟨hs.session, hs.players, hs.actors, hs.seats, hs.bodies, hs.fireballs,
    fun e he => ?_, hs.mode, hs.focusCount⟩,
    ⟨hm.focus.x, hm.focus.y, hm.focus.centerX, hm.focus.centerY⟩,
    ⟨hm.compact.session, ?_, hm.compact.eggs⟩, ?_, hentities.1,
    hm.entityCapacity.trans hentities.2.symm, ht.1.symm, hm.placedCapacity⟩
  · obtain ⟨he, hvalid⟩ := List.mem_filter.1 he
    exact (hentities.1 e he).pictures hvalid
  · show table.length ≤ UINT32_MAX
    rw [ht.1]
    exact Nat.le_of_lt_succ sources.toNat_lt
  · exact congrArg (fun s : CoopSession => { s with allocator := rest }) hm.session

/-- What the later sections keep of an actor. -/
structure SameBody (a b : CoopActor) : Prop where
  player : b.player = a.player
  seat : b.inputSeat = a.inputSeat
  pending : b.pending = a.pending
  visible : b.visible = a.visible

theorem forall₂_map_eq {α β : Type} {f : α → β} {R : α → α → Prop} (hR : ∀ a b, R a b → f b = f a) :
    ∀ {as bs : List α}, List.Forall₂ R as bs → bs.map f = as.map f
  | [], [], .nil => rfl
  | _ :: _, _ :: _, .cons h hs => by
      rw [List.map_cons, List.map_cons, hR _ _ h, forall₂_map_eq hR hs]

theorem forall₂_right {α : Type} {R : α → α → Prop} : ∀ {as bs : List α}, List.Forall₂ R as bs →
    ∀ b ∈ bs, ∃ a ∈ as, R a b
  | [], [], .nil, _, h => nomatch h
  | a :: _, _ :: _, .cons h hs, b, hb => by
    rcases List.mem_cons.1 hb with rfl | hb
    · exact ⟨a, List.mem_cons_self, h⟩
    · obtain ⟨a, ha, hab⟩ := forall₂_right hs b hb
      exact ⟨a, List.mem_cons_of_mem _ ha, hab⟩

/-- The machine with actors that kept their bodies. -/
theorem Loaded.withActors {actors : List CoopActor} (hm : Loaded m)
    (hbody : List.Forall₂ SameBody m.actors actors)
    (hballs : ∀ a ∈ actors, ∀ f ∈ a.fireballs.toList, Pictures 1 f.pending f.visible)
    (fireballsInitialized entrancePrepared : Bool) :
    Loaded { m with
      actors := actors, fireballsInitialized := fireballsInitialized
      entrancePrepared := entrancePrepared } := by
  have hs := hm.savable
  have hplayers : actors.map CoopActor.player = m.actors.map CoopActor.player :=
    forall₂_map_eq (fun _ _ h => h.player) hbody
  have hseats : actors.map CoopActor.inputSeat = m.actors.map CoopActor.inputSeat :=
    forall₂_map_eq (fun _ _ h => h.seat) hbody
  refine ⟨⟨hs.session, hs.players, ?_, ?_, fun b hb => ?_, fun f hf => ?_, hs.mounts, hs.mode,
    hs.focusCount⟩, ⟨hm.focus.x, hm.focus.y, hm.focus.centerX, hm.focus.centerY⟩,
    ⟨hm.compact.session, hm.compact.sources, hm.compact.eggs⟩, hm.session, hm.entities,
    hm.entityCapacity, hm.sourceCapacity, hm.placedCapacity⟩
  · have h := hs.actors
    unfold ActorsMatch at h ⊢
    rwa [← hplayers] at h
  · have h := hs.seats
    rwa [← hseats] at h
  · obtain ⟨a, ha, hab⟩ := forall₂_right hbody b hb
    rw [hab.pending, hab.visible]
    exact hs.bodies a ha
  · obtain ⟨a, ha, hfa⟩ := mem_fireballs.1 hf
    exact hballs a ha f hfa

theorem within_loadFireball :
    Within TRAILER loadFireball r (fun f _ => Pictures 1 f.pending f.visible) := by
  unfold loadFireball
  refine Within.need fun h => ?_
  refine Within.word (by omega) fun id =>
    Within.vector (by unfold COOP_FIREBALL_BYTES; omega) fun guest =>
    Within.count (by unfold COOP_FIREBALL_BYTES; omega) fun pending hp =>
    Within.count (by unfold COOP_FIREBALL_BYTES; omega) fun visible hv =>
    Within.pictures hp hv fun ps vs _ hpictures => Within.pure hpictures

theorem within_loadFireballs (a : CoopActor) : Within TRAILER (loadFireballs a) r (fun b _ =>
    (SameBody a b ∧ ∀ f ∈ b.fireballs.toList, Pictures 1 f.pending f.visible) ∧ True) := by
  unfold loadFireballs
  refine Within.need fun h => Within.word h fun player => Within.refuse fun _ => ?_
  refine within_loadFireball.bind fun f _ hf => within_loadFireball.bind fun g _ hg =>
    Within.pure ?_
  refine ⟨⟨⟨rfl, rfl, rfl, rfl⟩, fun b hb => ?_⟩, trivial⟩
  have hb : b ∈ [f, g] := hb
  rw [List.mem_pair] at hb
  rcases hb with rfl | rfl
  · exact hf
  · exact hg

theorem within_loadProjectiles (hm : Loaded m) :
    Within TRAILER (loadProjectiles m) r (fun m' _ => Loaded m') := by
  unfold loadProjectiles
  refine Within.need fun h => ?_
  refine Within.tag (by omega) <| Within.word (by omega) fun count => Within.refuse fun _ =>
    Within.word (by omega) fun slots => Within.refuse fun _ =>
      Within.flag (by omega) fun initialized => ?_
  refine (within_nextFor (I := fun _ _ => True)
    (fun a _ _ _ => within_loadFireballs a) trivial).bind
    fun actors _ hactors => Within.pure ?_
  refine hm.withActors (hactors.1.imp fun _ _ h => h.1)
    (fun b hb => ?_) initialized m.entrancePrepared
  obtain ⟨a, -, hab⟩ := forall₂_right hactors.1 b hb
  exact hab.2

theorem within_loadStoredMount {n : Nat} (a : CoopActor) (h : (n + 1) * 12 ≤ r) :
    Within TRAILER (loadStoredMount a) r (fun b r' =>
      (SameBody a b ∧ b.fireballs = a.fireballs) ∧ n * 12 ≤ r') := by
  unfold loadStoredMount
  refine Within.word (by omega) fun player => Within.refuse fun _ =>
    Within.word (by omega) fun stored =>
    Within.word (by omega) fun color => Within.pure ?_
  exact ⟨⟨⟨rfl, rfl, rfl, rfl⟩, rfl⟩, by omega⟩

theorem within_loadStoredMounts (hm : Loaded m) :
    Within TRAILER (loadStoredMounts m) r (fun m' _ => Loaded m') := by
  unfold loadStoredMounts
  refine Within.need fun h => ?_
  refine Within.tag (by omega) <| Within.word (by omega) fun count => Within.refuse fun _ =>
    Within.flag (by omega) fun prepared => Within.word (by omega) fun zero =>
      Within.refuse fun _ => ?_
  refine Within.remaining <| Within.refuse fun hroom => ?_
  have hsize := Nat.mul_le_of_le_div _ _ _ (Nat.not_lt.1 hroom)
  refine (within_nextFor (I := fun n r => n * 12 ≤ r) (fun a _ _ => within_loadStoredMount a)
    (show m.actors.length * 12 ≤ _ by omega)).bind fun actors _ hactors => Within.pure ?_
  refine hm.withActors (hactors.1.imp fun _ _ h => h.1)
    (fun b hb f hf => ?_) m.fireballsInitialized prepared
  obtain ⟨a, ha, hab⟩ := forall₂_right hactors.1 b hb
  rw [hab.2] at hf
  exact hm.savable.fireballs f (mem_fireballs.2 ⟨a, ha, hf⟩)

theorem within_loadEgg {n : Nat} (h : (n + 1) * 24 ≤ r) :
    Within TRAILER loadEgg r (fun _ r' => True ∧ n * 24 ≤ r') := by
  unfold loadEgg
  exact Within.word (by omega) fun level => Within.word (by omega) fun x =>
    Within.word (by omega) fun y =>
    Within.word (by omega) fun index => Within.word (by omega) fun uses =>
      Within.word (by omega) fun egg =>
    Within.pure ⟨trivial, by omega⟩

theorem within_loadEggs (hm : Loaded m) :
    Within TRAILER (loadEggs m) r (fun m' _ => Loaded m') := by
  unfold loadEggs
  refine Within.need fun h => ?_
  refine Within.tag (by omega) <| Within.word (by omega) fun eggs => ?_
  refine Within.remaining <| Within.refuse fun heggs => ?_
  have hroom : eggs.toNat * 24 ≤ r - 4 - 4 := by
    have := Nat.mul_le_of_le_div _ _ _ (Nat.not_lt.1 (not_or.1 heggs).1)
    omega
  refine Within.allocate fun rest => ?_
  refine (within_nextEach (I := fun n r => n * 24 ≤ r) (fun _ _ => within_loadEgg) hroom).bind
    fun table _ ht => Within.pure ?_
  have hs := hm.savable
  refine ⟨⟨hs.session, hs.players, hs.actors, hs.seats, hs.bodies, hs.fireballs, hs.mounts, hs.mode,
    hs.focusCount⟩, ⟨hm.focus.x, hm.focus.y, hm.focus.centerX, hm.focus.centerY⟩,
    ⟨hm.compact.session, hm.compact.sources, ?_⟩, ?_, hm.entities, hm.entityCapacity,
    hm.sourceCapacity, ht.1.symm⟩
  · show table.length ≤ UINT32_MAX
    rw [ht.1]
    exact Nat.le_of_lt_succ eggs.toNat_lt
  · exact congrArg (fun s : CoopSession => { s with allocator := rest }) hm.session

theorem within_since {first version : UInt32} {load : CoopMachine → CursorM CoopMachine}
    (hload : Within TRAILER (load m) r (fun m' _ => Loaded m')) (hm : Loaded m) :
    Within TRAILER (since first version load m) r (fun m' _ => Loaded m') := by
  unfold since
  split
  · exact hload
  · exact Within.pure hm

end Sections

theorem within_loadSections (allocator : Allocator) {r : Nat} (hr : 64 ≤ r) :
    Within TRAILER (loadSections allocator) r (fun m _ => Loaded m) := by
  unfold loadSections
  refine (within_loadHead hr).bind fun h _ hhead => (within_loadRoster hhead).bind fun m _ hm => ?_
  refine (within_since (within_loadEntities hm) hm).bind fun m _ hm => ?_
  refine (within_since (within_loadFocus hm) hm).bind fun m _ hm => ?_
  refine (within_since (within_loadYoshi hm) hm).bind fun m _ hm => ?_
  refine (within_since (within_loadProjectiles hm) hm).bind fun m _ hm => ?_
  refine (within_since (within_loadStoredMounts hm) hm).bind fun m _ hm => ?_
  exact within_since (within_loadEggs hm) hm

/-! ## Whatever the bytes -/

/-- A load refuses, or delivers a machine that can be saved again. -/
theorem readMachine_cases (data : Bytes) (allocator : Allocator) :
    readMachine data allocator = .error .refused ∨ ∃ m, readMachine data allocator = .ok m ∧
      Loaded m ∧ entitiesValid m = true := by
  unfold readMachine
  dsimp only
  by_cases hsize : data.length < HEADER + TRAILER
  · left
    rw [refuseIf_pos hsize, error_bind]
  have hlarge : 68 ≤ data.length := Nat.not_lt.1 hsize
  obtain ⟨sum, hsum⟩ := fetch32_ok (p := data) (i := data.length - 4) (by omega)
  rw [refuseIf_neg hsize, ok_bind, hsum, ok_bind]
  by_cases hcheck : sum ≠ checksum (data.take (data.length - 4))
  · left
    rw [refuseIf_pos hcheck, error_bind]
  rw [refuseIf_neg hcheck, ok_bind, StateT.run]
  rcases within_loadSections allocator (show 64 ≤ data.length - 4 by omega) ⟨data, 0⟩
    (by show 0 + (data.length - 4) + 4 = data.length; omega) with hstop | ⟨m, r, pos, hok, -, hm⟩
  · left
    rw [hstop, error_bind]
  · rw [hok, ok_bind]
    dsimp only
    by_cases hend : pos ≠ data.length - TRAILER ∨ entitiesValid m = false
    · left
      rw [refuseIf_pos hend, error_bind]
    · rw [refuseIf_neg hend, ok_bind]
      rw [not_or, Bool.not_eq_false] at hend
      exact Or.inr ⟨m, rfl, hm, hend.2⟩

/-- **Hostile bytes.**  On every byte string, and for every pattern of refused allocations, both
loads answer without a read outside the bytes and without a remaining size that wraps: a refusal
leaves the destination as it was, and what is accepted is a machine whose actors are its players,
with its own seats, pictures within their arrays and a valid entity table. -/
theorem hostile_loads (data : Bytes) (allocator : Allocator) :
    (∀ s : CoopSession, coopSessionLoad s data allocator = .ok (false, s) ∨
      ∃ t, coopSessionLoad s data allocator = .ok (true, t) ∧ valid t = true) ∧
    (∀ m : CoopMachine, coopMachineLoad m data allocator = .ok (false, m) ∨
      ∃ t, coopMachineLoad m data allocator = .ok (true, t) ∧ ActorsMatch t ∧
        (t.session.players.map CoopPlayer.id).Nodup ∧ (t.actors.map CoopActor.inputSeat).Nodup ∧
        (∀ a ∈ t.actors, a.pending.length ≤ COOP_BODY_PIECES ∧
          a.visible.length ≤ COOP_BODY_PIECES) ∧
        (∀ f ∈ t.fireballs, f.pending.length ≤ 1 ∧ f.visible.length ≤ 1) ∧
        (∀ e ∈ t.entities, e.pending.length ≤ COOP_MOUNT_PIECES ∧
          e.visible.length ≤ COOP_MOUNT_PIECES) ∧
        entitiesValid t = true) := by
  constructor
  · intro s
    rcases readSession_cases data allocator with hr | ⟨t, ht, -, hvalid, -⟩
    · exact Or.inl (by rw [coopSessionLoad, hr]; rfl)
    · exact Or.inr ⟨t, by rw [coopSessionLoad, ht]; rfl, hvalid⟩
  · intro m
    rcases readMachine_cases data allocator with hr | ⟨t, ht, hm, hvalid⟩
    · exact Or.inl (by rw [coopMachineLoad, hr]; rfl)
    · have hs := hm.savable
      refine Or.inr ⟨t, by rw [coopMachineLoad, ht]; rfl, hs.actors,
        (valid_iff.1 hs.session).distinct, hs.seats, fun a ha =>
        ⟨(hs.bodies a ha).pendingFits, (hs.bodies a ha).visibleFits⟩,
        fun f hf => ⟨(hs.fireballs f hf).pendingFits, (hs.fireballs f hf).visibleFits⟩, fun e he =>
        ?_, hvalid⟩
      have hloaded := hm.entities e he
      cases hmount : e.mountValid with
      | true => exact ⟨(hloaded.pictures hmount).pendingFits, (hloaded.pictures hmount).visibleFits⟩
      | false =>
          have hrestored := hloaded.restored
          rw [CoopEntity.restored, hmount] at hrestored
          rw [← hrestored]
          exact ⟨Nat.zero_le _, Nat.zero_le _⟩

end SmwRecomp.Coop
