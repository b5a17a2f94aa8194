import SmwRecomp.Coop.MachineLoad
import SmwRecomp.Coop.EntityRuns

/-!
# Machine snapshots, both directions

* `Reads` lemmas — what each section's reader makes of its image.
* `readMachine_image` — loading an image gives the machine back.
* `machine_codec` — a saved machine loads as an equal one.
* `old_versions_migrate` — whatever a load accepts is saved, and loads again as the same machine.
-/

set_option autoImplicit false

namespace SmwRecomp.Coop

/-! ## Small readers -/

section Small

variable {β : Type} {k : Nat} {bs : Bytes} {o : Option β}

theorem Reads.tag {t : Tag} {f : Unit → CursorM β} (h : Answers k (f ()) bs o) :
    Answers k (nextTag t >>= f) (t.toList ++ bs) o := by
  unfold nextTag
  rw [bind_assoc]
  exact Reads.vector (Reads.refuse (by simp) h)

theorem Reads.flag {c : Bool} {ws : List UInt32} {f : Bool → CursorM β}
    (h : Answers k (f c) (words ws bs) o) :
    Answers k (nextFlag >>= f) (words (boolWord c :: ws) bs) o := by
  unfold nextFlag
  rw [bind_assoc]
  refine Reads.word ?_
  rw [bind_assoc]
  refine Reads.refuse (by simpa using boolWord_small c) ?_
  rw [pure_bind, boolWord_ne]
  exact h

theorem countWord_toNat {α : Type} {xs : List α} (h : xs.length ≤ UINT32_MAX) :
    (countWord xs).toNat = xs.length :=
  UInt32.toNat_ofNat_of_lt' (Nat.lt_succ_of_le h)

theorem Reads.count {α : Type} {bound : Nat} {xs : List α} {ws : List UInt32}
    {f : UInt32 → CursorM β}
    (hbound : xs.length ≤ bound) (hmax : xs.length ≤ UINT32_MAX)
    (h : Answers k (f (countWord xs)) (words ws bs) o) :
    Answers k (nextCount bound >>= f) (words (countWord xs :: ws) bs) o := by
  unfold nextCount
  rw [bind_assoc]
  refine Reads.word ?_
  rw [bind_assoc]
  refine Reads.refuse (by rw [countWord_toNat hmax]; omega) ?_
  rw [pure_bind]
  exact h

theorem callee_ok {β : Type} (b : β) : callee (.ok b) = (pure b : CursorM β) := rfl

/-- With its requests granted an allocation only uses up an answer. -/
theorem allocate_granted {m : CoopMachine} (h : m.session.allocator.Granted) (n : UInt32) :
    ∃ rest, Allocator.Granted rest ∧ allocate n m = pure (m.withAllocator rest) := by
  obtain ⟨rest, hreq, hrest⟩ := allocateIf_granted h (decide (n ≠ 0))
  refine ⟨rest, hrest, ?_⟩
  unfold allocate
  rw [hreq]

end Small

theorem reads_loadPiece {k : Nat} (hk : TRAILER ≤ k) {v : CoopVisualPiece}
    (h : pieceValid v = true) :
    Reads k loadPiece (pieceImage v) v := by
  have hlen := pieceImage_length v
  unfold loadPiece
  refine Reads.need (by omega) ?_
  unfold pieceImage
  refine Reads.word <| Reads.word <| Reads.word <| Reads.word <| Reads.word <| Reads.word <|
    Reads.word ?_
  rw [show words [] (v.pixels.toList.flatMap le16) = v.pixels.toList.flatMap le16 ++ [] by
    rw [List.append_nil]; rfl]
  refine (reads_nextHalves (k := 0) v.pixels).bind (Nat.zero_le _) ?_
  rw [Int32.toInt32_toUInt32, Int32.toInt32_toUInt32]
  exact Reads.refuse (by rw [h]; exact Bool.noConfusion) (Reads.pure v)

/-- The two picture loops. -/
theorem Pictures.reads {β : Type} {bound : Nat} {pending visible : List CoopVisualPiece}
    (h : Pictures bound pending visible) (hmax : bound ≤ UINT32_MAX) {bs : Bytes} {b : β}
    {f : List CoopVisualPiece → List CoopVisualPiece → CursorM β}
    (hf : Reads TRAILER (f pending visible) bs b) :
    Reads TRAILER (nextEach loadPiece (countWord pending).toNat >>= fun ps =>
      nextEach loadPiece (countWord visible).toNat >>= fun vs => f ps vs)
      (picturesImage pending visible ++ bs) b := by
  rw [picturesImage, List.append_assoc, countWord_toNat (Nat.le_trans h.pendingFits hmax),
    countWord_toNat (Nat.le_trans h.visibleFits hmax)]
  refine (reads_nextEach (k := TRAILER) rfl fun v hv => reads_loadPiece (Nat.le_refl _)
    (h.valid v (List.mem_append_left _ hv))).bind (Nat.le_add_left _ _) ?_
  exact (reads_nextEach (k := TRAILER) rfl fun v hv => reads_loadPiece (Nat.le_refl _)
    (h.valid v (List.mem_append_right _ hv))).bind (Nat.le_add_left _ _) hf

/-! ## Header and roster -/

/-- The header of a machine's image. -/
def CoopMachine.head (m : CoopMachine) (version : UInt32) : MachineHead where
  version := version
  core := UInt32.ofNat (coopSessionSaveSize m.session)
  count := countWord m.actors
  room := m.room
  previousMode := m.previousMode
  roomInitialized := m.roomInitialized

/-- The versions `coop_machine_load` reads. -/
structure Supported (version : UInt32) : Prop where
  first : 2 ≤ version
  last : version ≤ 8

theorem supported_machineVersion : Supported machineVersion := ⟨by decide, by decide⟩

theorem reads_loadHead {k : Nat} {m : CoopMachine} {version : UInt32} (hversion : Supported version)
    (hmode : m.previousMode ≤ 0x29) : Reads k loadHead (headImage version m) (m.head version) := by
  have hold : ¬ (version < 2 ∨ version > 8) := by
    rw [not_or, UInt32.not_lt, gt_iff_lt, UInt32.not_lt]
    exact ⟨hversion.first, hversion.last⟩
  unfold loadHead headImage
  refine Reads.tag <| Reads.word <| Reads.refuse hold <| Reads.vector <| Reads.refuse (by simp) ?_
  refine Reads.word <| Reads.word <| Reads.word <| Reads.refuse (by simp) <| Reads.word <|
    Reads.word <| Reads.refuse (UInt32.not_lt.2 hmode) <| Reads.flag ?_
  exact Reads.pure (m.head version)

/-- What the actor loop reads of an actor. -/
def CoopActor.body (a : CoopActor) : CoopActor :=
  { zeroActor with
    player := a.player, inputSeat := a.inputSeat, guest := a.guest
    pending := a.pending, visible := a.visible }

@[simp] theorem CoopActor.body_player (a : CoopActor) : a.body.player = a.player := rfl

@[simp] theorem CoopActor.body_inputSeat (a : CoopActor) : a.body.inputSeat = a.inputSeat := rfl

/-- An actor that owns nothing, as version 2 asks. -/
def OwnsNothing (a : CoopActor) : Prop :=
  ∀ address ∈ ownedAddresses, (coopGuestPeek a.guest address).getD 0 = 0

theorem reads_loadActor {version : UInt32} {session : CoopSession} {before : List CoopActor}
    {a : CoopActor}
    (howned : version = 2 → OwnsNothing a)
    (hplayer : (coopPlayer session a.player).isSome)
    (hnew : ¬ ∃ b ∈ before, a.player = b.player ∨ a.inputSeat = b.inputSeat)
    (h : Pictures COOP_BODY_PIECES a.pending a.visible) :
    Reads TRAILER (loadActor version session before) (actorImage a) a.body := by
  have hlen := actorImage_length a
  have hmax : COOP_BODY_PIECES ≤ UINT32_MAX := by decide
  unfold loadActor
  refine Reads.need (by omega) ?_
  unfold actorImage
  refine Reads.word <| Reads.word <| Reads.count h.pendingFits (Nat.le_trans h.pendingFits hmax) <|
    Reads.count h.visibleFits (Nat.le_trans h.visibleFits hmax) ?_
  refine Reads.refuse (by rwa [Option.isNone_iff_eq_none, ← ne_eq, Option.ne_none_iff_isSome]) <|
    Reads.refuse hnew <| Reads.vector <| Reads.refuse ?_ ?_
  · rintro ⟨hversion, address, hmem, hne⟩
    exact hne (howned hversion address hmem)
  rw [← List.append_nil (picturesImage a.pending a.visible)]
  exact h.reads hmax (Reads.pure a.body)

theorem reads_loadActors {version : UInt32} {session : CoopSession} :
    ∀ {as before : List CoopActor},
    (∀ a ∈ as, version = 2 → OwnsNothing a) →
    (∀ a ∈ as, (coopPlayer session a.player).isSome ∧
    Pictures COOP_BODY_PIECES a.pending a.visible) →
    ((before ++ as).map CoopActor.player).Nodup → ((before ++ as).map CoopActor.inputSeat).Nodup →
    Reads TRAILER (loadActors version session before as.length) (as.flatMap actorImage)
      (before ++ as.map CoopActor.body)
  | [], before, _, _, _, _ => by
    rw [List.map_nil, List.append_nil]
    exact Reads.pure before
  | a :: as, before, howned, h, hplayers, hseats => by
    rw [List.forall_mem_cons] at howned h
    have hnew : ¬ ∃ b ∈ before, a.player = b.player ∨ a.inputSeat = b.inputSeat := by
      rintro ⟨b, hb, he | he⟩
      · rw [List.map_append, List.nodup_append] at hplayers
        exact hplayers.2.2 _ (List.mem_map_of_mem hb) _
          (List.mem_map_of_mem List.mem_cons_self) he.symm
      · rw [List.map_append, List.nodup_append] at hseats
        exact hseats.2.2 _ (List.mem_map_of_mem hb) _
          (List.mem_map_of_mem List.mem_cons_self) he.symm
    have hrest := @reads_loadActors version session as (before ++ [a.body]) howned.2 h.2
      (by simpa using hplayers) (by simpa using hseats)
    rw [List.append_assoc] at hrest
    exact (reads_loadActor howned.1 h.1.1 hnew h.1.2).bind (Nat.le_add_left _ _) hrest

/-- The machine behind the actors, with `allocator` left. -/
def CoopMachine.roster (m : CoopMachine) (allocator : Allocator) : CoopMachine :=
  { freshMachine (m.session.reloaded allocator) [] with
    actors := m.actors.map CoopActor.body, room := m.room, previousMode := m.previousMode
    roomInitialized := m.roomInitialized }

theorem reads_loadRoster {m : CoopMachine} (version : UInt32)
    (howned : version = 2 → ∀ a ∈ m.actors, OwnsNothing a)
    (h : Savable m) (hc : Compact m) {allocator : Allocator} (hg : allocator.Granted) :
    ∃ rest, Allocator.Granted rest ∧ Reads TRAILER (loadRoster (m.head version) allocator)
      (sessionImage m.session ++ m.actors.flatMap actorImage) (m.roster rest) := by
  have hs := h.storable hc
  have hlen := h.actors.length
  have hplayers := hs.players
  have hmax : COOP_NO_PLAYER.toNat = 4294967295 := rfl
  have hcore : (m.head version).core.toNat = (sessionImage m.session).length := by
    rw [← hs.saveSize]
    exact UInt32.toNat_ofNat_of_lt' (Nat.lt_succ_of_le (by rw [hs.saveSize]; exact hc.session))
  have hcount : (m.head version).count.toNat = m.actors.length :=
    countWord_toNat (by rw [hlen]; unfold UINT32_MAX; omega)
  obtain ⟨rest, hrest, hread⟩ := readSession_image h.session hs hg
  obtain ⟨rest', hrest', hallocate⟩ :=
    allocate_granted (m := freshMachine (m.session.reloaded rest) [])
    hrest (m.head version).count
  have hactors : Reads TRAILER (loadActors version (m.session.reloaded rest) [] m.actors.length)
      (m.actors.flatMap actorImage) (m.actors.map CoopActor.body) := by
    refine reads_loadActors (fun a ha hversion => howned hversion a ha)
      (fun a ha => ⟨?_, h.bodies a ha⟩) ?_ h.seats
    · refine findKey_isSome.2 ?_
      obtain ⟨p, hp, he⟩ := List.mem_map.1 ((List.Perm.mem_iff h.actors).1 (List.mem_map_of_mem ha))
      exact ⟨p, hp, he⟩
    · exact (List.Perm.nodup_iff h.actors).2 (valid_iff.1 h.session).distinct
  have hroom : m.actors.length * (ACTOR_HEADER + COOP_GUEST_BYTES) ≤
      (m.actors.flatMap actorImage).length := by
    rw [actorImages_length]
    omega
  let core : List.Vector UInt8 (m.head version).core.toNat := ⟨sessionImage m.session, hcore.symm⟩
  have hsplit : sessionImage m.session ++ m.actors.flatMap actorImage =
      core.toList ++ (m.actors.flatMap actorImage ++ []) := by rw [List.append_nil]; rfl
  refine ⟨rest', hrest', ?_⟩
  unfold loadRoster
  refine Reads.room (by omega) fun r hr => Reads.refuse ?_ ?_
  · rw [hcore]
    rw [List.length_append] at hr
    omega
  refine Reads.room (by rw [hcore, List.length_append]; omega) fun r hr => Reads.refuse ?_ ?_
  · rw [hcount, Nat.not_lt, Nat.le_div_iff_mul_le (by decide)]
    rw [hcore, List.length_append] at hr
    omega
  rw [hsplit]
  refine Reads.vector ?_
  rw [show core.toList = sessionImage m.session from rfl, hread]
  rw [callee_ok, pure_bind]
  refine Reads.refuse ?_ ?_
  · rw [hcount, hlen]
    rintro (hne | hlarge)
    · exact hne rfl
    · unfold SIZE_MAX sizeofCoopActor at hlarge
      omega
  rw [hallocate, pure_bind, hcount]
  exact hactors.bind (Nat.le_add_left _ _) (Reads.pure _)

/-! ## Sections -/

/-- What the entity section reads of an entity. -/
def CoopEntity.unmounted (e : CoopEntity) : CoopEntity :=
  { e with mountValid := false, mount := List.Vector.replicate _ 0, pending := [], visible := [] }

theorem reads_loadEntity {k : Nat} (e : CoopEntity) :
    Reads k loadEntity (entityImage e) e.unmounted := by
  unfold loadEntity entityImage
  exact Reads.word <| Reads.word <| Reads.word <| Reads.word <| Reads.word <| Reads.word <|
    Reads.word <| Reads.pure e.unmounted

theorem reads_each_entity {k : Nat} (es : List CoopEntity) :
    Reads k (nextEach loadEntity es.length) (es.flatMap entityImage)
      (es.map CoopEntity.unmounted) := by
  have h : Reads k (nextEach loadEntity es.length)
    ((es.map CoopEntity.unmounted).flatMap entityImage)
      (es.map CoopEntity.unmounted) := reads_nextEach (List.length_map _) fun e he => by
    obtain ⟨d, -, rfl⟩ := List.mem_map.1 he
    exact reads_loadEntity d.unmounted
  rwa [List.flatMap_map] at h

section Stages

variable (x m : CoopMachine) (allocator : Allocator)

/-- `x` with what the entity section holds of `m`. -/
def CoopMachine.takeEntities : CoopMachine :=
  { x.withAllocator allocator with
    entities := m.entities.map CoopEntity.unmounted, entityCapacity := m.entities.length
    nextEntity := m.nextEntity, level := m.level }

def CoopMachine.takeFocus : CoopMachine :=
  { x with
    focusX := m.focusX, focusY := m.focusY, focusCenterX := m.focusCenterX, focusCenterY :=
      m.focusCenterY
    focusCount := m.focusCount, focusInitialized := m.focusInitialized, focusHold := m.focusHold }

def CoopMachine.takeYoshi : CoopMachine :=
  { x.withAllocator allocator with
    mountsInitialized := m.mountsInitialized, entities := m.entities.map CoopEntity.restored
    sources := m.sources, sourceCapacity := m.sources.length }

/-- What is read of an actor up to the projectile section. -/
def CoopActor.armed (a : CoopActor) : CoopActor := { a.body with fireballs := a.fireballs }

def CoopMachine.takeProjectiles : CoopMachine :=
  { x with fireballsInitialized := m.fireballsInitialized, actors := m.actors.map CoopActor.armed }

def CoopMachine.takeStoredMounts : CoopMachine :=
  { x with entrancePrepared := m.entrancePrepared, actors := m.actors }

def CoopMachine.takeEggs : CoopMachine :=
  { x.withAllocator allocator with
    placedEggs := m.placedEggs, placedCapacity := m.placedEggs.length }

end Stages

section Sections

variable {m x : CoopMachine}

/-- The bytes of the focus section, which the entity section asks for beside its own. -/
def focusTail (version : UInt32) : Nat := if version ≥ 4 then FOCUS_BYTES else 0

theorem reads_loadEntities (version : UInt32) (hentities : m.entities.length ≤ 22)
    (hg : x.session.allocator.Granted) :
    ∃ rest, Allocator.Granted rest ∧ Reads (TRAILER + focusTail version) (loadEntities version x)
      (entitiesImage m) (x.takeEntities m rest) := by
  have hlen := entitiesImage_length m
  have hcount : (countWord m.entities).toNat = m.entities.length :=
    countWord_toNat (by unfold UINT32_MAX; omega)
  have hsmall : ¬ countWord m.entities > 22 := by
    rw [gt_iff_lt, UInt32.lt_iff_toNat_lt, hcount]
    exact Nat.not_lt.2 hentities
  obtain ⟨rest, hrest, hallocate⟩ := allocate_granted hg (countWord m.entities)
  refine ⟨rest, hrest, ?_⟩
  unfold loadEntities
  refine Reads.need (by omega) ?_
  unfold entitiesImage
  refine Reads.tag <| Reads.word <| Reads.word <| Reads.word ?_
  have himage : (words [] (m.entities.flatMap entityImage)).length = m.entities.length *
    ENTITY_BYTES :=
    flatMap_length_const entityImage_length m.entities
  dsimp only
  rw [show (if version ≥ 4 then FOCUS_BYTES else 0) = focusTail version from rfl]
  refine Reads.need (by omega) <| Reads.refuse hsmall <| Reads.room (by omega) fun r hr => ?_
  refine Reads.refuse ?_ ?_
  · rw [hcount, Nat.not_lt, Nat.le_div_iff_mul_le (by decide)]
    omega
  rw [hallocate, pure_bind, hcount]
  rw [show words [] (m.entities.flatMap entityImage) = m.entities.flatMap entityImage ++ [] by
    rw [List.append_nil]; rfl]
  exact (reads_each_entity m.entities).bind (Nat.le_add_left _ _) (Reads.pure _)

theorem reads_loadFocus {k : Nat} (hfocus : FocusInRange m)
    (hcount : m.focusCount.toNat ≤ x.actors.length)
    (hk : TRAILER ≤ k) : Reads k (loadFocus x) (focusImage m) (x.takeFocus m) := by
  have hlen := focusImage_length m
  unfold loadFocus
  refine Reads.need (by omega) ?_
  unfold focusImage
  refine Reads.tag <| Reads.word <| Reads.word <| Reads.word <| Reads.word <| Reads.word <|
    Reads.refuse (Nat.not_lt.2 hcount) <| Reads.flag <| Reads.flag ?_
  simp only [Int32.toInt32_toUInt32]
  refine Reads.refuse ?_ (Reads.pure _)
  simp [hfocus.x, hfocus.y, hfocus.centerX, hfocus.centerY]

@[simp] theorem CoopEntity.unmounted_id (e : CoopEntity) : e.unmounted.id = e.id := rfl

theorem reads_loadMount {front back : List CoopEntity} {e : CoopEntity}
    (hids : ((front ++ e.unmounted :: back).map CoopEntity.id).Nodup) (hmount : e.mountValid = true)
    (h : Pictures COOP_MOUNT_PIECES e.pending e.visible) :
    Reads TRAILER (loadMount (front ++ e.unmounted :: back)) (mountImage e)
      (front ++ e :: back) := by
  have hlen := mountImage_length e
  have hmax : COOP_MOUNT_PIECES ≤ UINT32_MAX := by decide
  have hfind : findKey CoopEntity.id e.id (front ++ e.unmounted :: back) = some e.unmounted :=
    findKey_of_mem hids (List.mem_append_right _ List.mem_cons_self)
  have hnew : e.id ∉ front.map CoopEntity.id := fun hm => by
    rw [List.map_append, List.nodup_append] at hids
    exact hids.2.2 _ hm _ (List.mem_map_of_mem List.mem_cons_self) rfl
  have hmounted : { e.unmounted with
      mountValid := true, mount := e.mount, pending := e.pending, visible := e.visible } = e := by
    rw [← hmount]
    rfl
  have hput : putKey CoopEntity.id { e.unmounted with
      mountValid := true, mount := e.mount, pending := e.pending, visible := e.visible }
      (front ++ e.unmounted :: back) = front ++ e :: back := by
    rw [hmounted]
    exact putKey_append e.unmounted_id hnew
  unfold loadMount
  refine Reads.need (by omega) ?_
  unfold mountImage
  refine Reads.word ?_
  rw [hfind]
  refine Reads.refuse Bool.noConfusion <|
    Reads.count h.pendingFits (Nat.le_trans h.pendingFits hmax) <|
    Reads.count h.visibleFits (Nat.le_trans h.visibleFits hmax) <| Reads.vector ?_
  rw [← List.append_nil (picturesImage e.pending e.visible)]
  refine h.reads hmax ?_
  rw [hput]
  exact Reads.pure _

/-- The mount loop turns the entities of the entity section into restored ones. -/
theorem reads_loadMounts : ∀ {es front : List CoopEntity},
    ((front ++ es).map CoopEntity.id).Nodup →
    (∀ e ∈ es.filter CoopEntity.mountValid, Pictures COOP_MOUNT_PIECES e.pending e.visible) →
    Reads TRAILER
      (loadMounts (es.filter CoopEntity.mountValid).length (front ++ es.map CoopEntity.unmounted))
      ((es.filter CoopEntity.mountValid).flatMap mountImage) (front ++ es.map CoopEntity.restored)
  | [], front, _, _ => Reads.pure _
  | e :: es, front, hids, h => by
    rw [List.map_cons, List.map_cons]
    cases hmount : e.mountValid with
    | true =>
        rw [List.filter_cons_of_pos hmount] at h ⊢
        rw [List.forall_mem_cons] at h
        have hrest := @reads_loadMounts es (front ++ [e]) (by simpa using hids) h.2
        rw [List.append_assoc, List.append_assoc] at hrest
        have hunmounted : (es.map CoopEntity.unmounted).map CoopEntity.id =
          es.map CoopEntity.id := by
          rw [List.map_map]; rfl
        have hread : Reads TRAILER (loadMount (front ++ e.unmounted :: es.map CoopEntity.unmounted))
            (mountImage e) (front ++ e :: es.map CoopEntity.unmounted) :=
          reads_loadMount (by simpa [hunmounted] using hids) hmount h.1
        rw [show e.restored = e by rw [CoopEntity.restored, hmount]; rfl]
        exact hread.bind (Nat.le_add_left _ _) hrest
    | false =>
        rw [List.filter_cons_of_neg (by rw [hmount]; exact Bool.noConfusion)] at h ⊢
        have hrest := @reads_loadMounts es (front ++ [e.unmounted]) (by simpa using hids) h
        rw [List.append_assoc, List.append_assoc] at hrest
        rw [show e.restored =
          e.unmounted by rw [CoopEntity.restored, CoopEntity.unmounted, hmount]; rfl]
        exact hrest

theorem reads_loadSource {k : Nat} (s : CoopYoshiSource) :
    Reads k loadSource (sourceImage s) s := by
  unfold loadSource sourceImage
  exact Reads.word <| Reads.word <| Reads.word <| Reads.word <| Reads.word <|
    Reads.word <| Reads.pure s

/-- A valid table has at most twelve mounts: they occupy distinct sprite slots. -/
theorem mounts_length_le (h : EntitiesValid m) : m.mounts.length ≤ 12 := by
  have hslot : ∀ e ∈ m.mounts, e.kind = COOP_ENTITY_NORMAL ∧ e.slot.toNat < 12 := by
    intro e he
    obtain ⟨he, hmount⟩ := List.mem_filter.1 he
    have hentity := h.entities e he
    have hkind := (hentity.mount hmount).1
    have hslot := hentity.slot
    rw [hkind, entitySlotValid] at hslot
    exact ⟨hkind, by simpa [COOP_ENTITY_NORMAL, COOP_ENTITY_EXTENDED, UInt32.lt_iff_toNat_lt] using hslot⟩
  have hkeys : (m.mounts.map (fun e => (e.kind, e.slot))).Nodup :=
    h.slots.sublist (List.filter_sublist.map _)
  refine length_le_of_keys (hkeys.of_map.map_on fun e he f hf hslots => ?_) fun e he =>
    (hslot e he).2
  refine List.inj_on_of_nodup_map hkeys he hf ?_
  rw [(hslot e he).1, (hslot f hf).1, UInt32.toNat_inj.1 hslots]

theorem reads_loadYoshi (h : Savable m) (hc : Compact m) (hv : EntitiesValid m)
    (hx : x.entities = m.entities.map CoopEntity.unmounted) (hg : x.session.allocator.Granted) :
    ∃ rest, Allocator.Granted rest ∧
      Reads TRAILER (loadYoshi x) (yoshiImage m) (x.takeYoshi m rest) := by
  have hlen := yoshiImage_length m
  have hcount := hv.count
  have htwelve := mounts_length_le hv
  have hmounts : (countWord m.mounts).toNat = m.mounts.length :=
    countWord_toNat (by unfold UINT32_MAX; omega)
  have hsources : (countWord m.sources).toNat = m.sources.length := countWord_toNat hc.sources
  have hmax := hc.sources
  have hfew : m.mounts.length ≤ x.entities.length := by
    rw [hx, List.length_map]
    exact List.length_filter_le _ _
  obtain ⟨rest, hrest, hallocate⟩ := allocate_granted hg (countWord m.sources)
  refine ⟨rest, hrest, ?_⟩
  unfold loadYoshi
  refine Reads.need (by omega) ?_
  unfold yoshiImage
  refine Reads.tag <| Reads.word <| Reads.word <| Reads.flag <| Reads.refuse ?_ ?_
  · rw [gt_iff_lt, UInt32.lt_iff_toNat_lt, hmounts]
    simp only [UInt32.reduceToNat]
    omega
  rw [hmounts, hx]
  have hloop : Reads TRAILER (loadMounts m.mounts.length (m.entities.map CoopEntity.unmounted))
      (m.mounts.flatMap mountImage) (m.entities.map CoopEntity.restored) := by
    have := @reads_loadMounts m.entities [] hv.ids h.mounts
    rwa [List.nil_append, List.nil_append] at this
  refine hloop.bind (Nat.le_add_left _ _) ?_
  have himage := flatMap_length_const sourceImage_length m.sources
  refine Reads.room (Nat.le_add_left _ _) fun r hr => Reads.refuse ?_ ?_
  · rw [hsources, not_or, Nat.not_lt, Nat.not_lt, Nat.le_div_iff_mul_le (by decide)]
    unfold UINT32_MAX at hmax
    unfold SIZE_MAX sizeofCoopYoshiSource
    omega
  rw [hallocate, pure_bind, hsources, ← List.append_nil (m.sources.flatMap sourceImage)]
  exact (reads_nextEach (k := TRAILER) rfl fun s _ => reads_loadSource s).bind (Nat.le_add_left _ _)
    (Reads.pure _)

theorem reads_loadFireball {f : CoopFireball} (h : Pictures 1 f.pending f.visible) :
    Reads TRAILER loadFireball (fireballImage f) f := by
  have hlen := fireballImage_length f
  have hmax : 1 ≤ UINT32_MAX := by decide
  unfold loadFireball
  refine Reads.need (by omega) ?_
  unfold fireballImage
  refine Reads.word <| Reads.vector <|
    Reads.count h.pendingFits (Nat.le_trans h.pendingFits hmax) <|
    Reads.count h.visibleFits (Nat.le_trans h.visibleFits hmax) ?_
  rw [show words [] (picturesImage f.pending f.visible) = picturesImage f.pending f.visible ++ [] by
    rw [List.append_nil]; rfl]
  exact h.reads hmax (Reads.pure f)

theorem reads_loadFireballs {a : CoopActor}
    (h : ∀ f ∈ a.fireballs.toList, Pictures 1 f.pending f.visible) :
    Reads TRAILER (loadFireballs a.body) (fireballsImage a) a.armed := by
  obtain ⟨f, g, hfg⟩ : ∃ f g, a.fireballs = ⟨[f, g], rfl⟩ := by
    match a.fireballs with
    | ⟨[f, g], _⟩ => exact ⟨f, g, rfl⟩
  have hlist : a.fireballs.toList = [f, g] := by rw [hfg]; rfl
  rw [hlist, List.forall_mem_cons, List.forall_mem_singleton] at h
  have hlen := fireballsImage_length a
  unfold loadFireballs
  refine Reads.need (by unfold COOP_FIREBALL_SLOTS at hlen; omega) ?_
  unfold fireballsImage
  refine Reads.word <| Reads.refuse (fun hne => hne rfl) ?_
  rw [hlist]
  refine (reads_loadFireball h.1).bind (Nat.le_add_left _ _) ?_
  refine (reads_loadFireball h.2).bind (Nat.le_add_left _ _) ?_
  rw [← hfg]
  exact Reads.pure a.armed

theorem reads_loadProjectiles (h : Savable m) (hactors : m.actors.length ≤ UINT32_MAX)
    (hx : x.actors = m.actors.map CoopActor.body) :
    Reads TRAILER (loadProjectiles x) (projectilesImage m) (x.takeProjectiles m) := by
  have hlen := projectilesImage_length m
  unfold loadProjectiles
  refine Reads.need (by omega) ?_
  unfold projectilesImage
  refine Reads.tag <| Reads.word <| Reads.refuse ?_ <| Reads.word <|
    Reads.refuse (fun hne => hne rfl) <| Reads.flag ?_
  · rw [countWord_toNat hactors, hx, List.length_map]
    exact fun hne => hne rfl
  have hloop : Reads TRAILER (nextFor loadFireballs x.actors)
      ((m.actors.map CoopActor.armed).flatMap fireballsImage) (m.actors.map CoopActor.armed) := by
    rw [hx]
    refine reads_nextFor ?_
    rw [List.forall₂_map_left_iff, List.forall₂_map_right_iff, List.forall₂_same]
    exact fun a ha => reads_loadFireballs fun f hf => h.fireballs f (mem_fireballs.2 ⟨a, ha, hf⟩)
  rw [List.flatMap_map] at hloop
  rw [show words [] (m.actors.flatMap fireballsImage) = m.actors.flatMap fireballsImage ++ [] by
    rw [List.append_nil]; rfl]
  exact hloop.bind (Nat.le_add_left _ _) (Reads.pure _)

theorem reads_loadStoredMounts (hactors : m.actors.length ≤ UINT32_MAX)
    (hx : x.actors = m.actors.map CoopActor.armed) :
    Reads TRAILER (loadStoredMounts x) (storedMountsImage m) (x.takeStoredMounts m) := by
  have hlen := storedMountsImage_length m
  have hsame : x.actors.length = m.actors.length := by rw [hx, List.length_map]
  unfold loadStoredMounts
  refine Reads.need (by omega) ?_
  unfold storedMountsImage
  refine Reads.tag <| Reads.word <| Reads.refuse ?_ <| Reads.flag <| Reads.word <|
    Reads.refuse (fun hne => hne rfl) ?_
  · rw [countWord_toNat hactors, hsame]
    exact fun hne => hne rfl
  have himage : (words [] (m.actors.flatMap storedMountImage)).length = m.actors.length * 12 :=
    flatMap_length_const storedMountImage_length m.actors
  refine Reads.room (Nat.le_add_left _ _) fun r hr => Reads.refuse ?_ ?_
  · rw [Nat.not_lt, Nat.le_div_iff_mul_le (by decide)]
    omega
  have hloop : Reads TRAILER (nextFor loadStoredMount x.actors) (m.actors.flatMap storedMountImage)
      m.actors := by
    rw [hx]
    refine reads_nextFor ?_
    rw [List.forall₂_map_left_iff, List.forall₂_same]
    intro a _
    unfold loadStoredMount storedMountImage
    exact Reads.word <| Reads.refuse (fun hne => hne rfl) <| Reads.word <|
      Reads.word <| Reads.pure a
  rw [show words [] (m.actors.flatMap storedMountImage) = m.actors.flatMap storedMountImage ++ [] by
    rw [List.append_nil]; rfl]
  exact hloop.bind (Nat.le_add_left _ _) (Reads.pure _)

theorem reads_loadEggs (hc : Compact m) (hg : x.session.allocator.Granted) :
    ∃ rest, Allocator.Granted rest ∧
      Reads TRAILER (loadEggs x) (eggsImage m) (x.takeEggs m rest) := by
  have hlen := eggsImage_length m
  have hmax := hc.eggs
  have heggs : (countWord m.placedEggs).toNat = m.placedEggs.length := countWord_toNat hmax
  obtain ⟨rest, hrest, hallocate⟩ := allocate_granted hg (countWord m.placedEggs)
  refine ⟨rest, hrest, ?_⟩
  unfold loadEggs
  refine Reads.need (by omega) ?_
  unfold eggsImage
  refine Reads.tag <| Reads.word ?_
  have himage : (words [] (m.placedEggs.flatMap eggImage)).length = m.placedEggs.length * 24 :=
    flatMap_length_const eggImage_length m.placedEggs
  refine Reads.room (Nat.le_add_left _ _) fun r hr => Reads.refuse ?_ ?_
  · rw [heggs, not_or, Nat.not_lt, Nat.not_lt, Nat.le_div_iff_mul_le (by decide)]
    unfold UINT32_MAX at hmax
    unfold SIZE_MAX sizeofCoopPlacedEgg
    omega
  rw [hallocate, pure_bind, heggs]
  rw [show words [] (m.placedEggs.flatMap eggImage) = m.placedEggs.flatMap eggImage ++ [] by
    rw [List.append_nil]; rfl]
  refine (reads_nextEach (k := TRAILER) rfl fun s _ => ?_).bind (Nat.le_add_left _ _) (Reads.pure _)
  unfold loadEgg eggImage
  exact Reads.word <| Reads.word <| Reads.word <| Reads.word <| Reads.word <|
    Reads.word <| Reads.pure s

end Sections

/-! ## The image -/

/-- A section that the image has from version `first` on. -/
theorem reads_since (first version : UInt32) {load : CoopMachine → CursorM CoopMachine} {k : Nat}
    {x y : CoopMachine} {bs : Bytes} {r : Allocator} (hr : r.Granted)
    (h : version ≥ first → ∃ rest, Allocator.Granted rest ∧
      Reads k (load (x.withAllocator r)) bs (y.withAllocator rest)) :
    ∃ rest, Allocator.Granted rest ∧ Reads k (since first version load (x.withAllocator r))
      (sectionSince first version bs) ((if version ≥ first then y else x).withAllocator rest) := by
  unfold since sectionSince
  by_cases hfirst : version ≥ first
  · rw [if_pos hfirst, if_pos hfirst, if_pos hfirst]
    exact h hfirst
  · rw [if_neg hfirst, if_neg hfirst, if_neg hfirst]
    exact ⟨r, hr, Reads.pure _⟩

/-! What an image of a version holds of a machine, section by section. -/

section Kept

variable (m : CoopMachine) (version : UInt32)

def CoopMachine.keptEntities : CoopMachine :=
  if version ≥ 3 then (m.roster []).takeEntities m [] else m.roster []

def CoopMachine.keptFocus : CoopMachine :=
  if version ≥ 4 then (m.keptEntities version).takeFocus m else m.keptEntities version

def CoopMachine.keptYoshi : CoopMachine :=
  if version ≥ 5 then (m.keptFocus version).takeYoshi m [] else m.keptFocus version

def CoopMachine.keptProjectiles : CoopMachine :=
  if version ≥ 6 then (m.keptYoshi version).takeProjectiles m else m.keptYoshi version

def CoopMachine.keptStoredMounts : CoopMachine :=
  if version ≥ 7 then (m.keptProjectiles version).takeStoredMounts m else m.keptProjectiles version

/-- What an image of the version keeps of a machine. -/
def CoopMachine.kept : CoopMachine :=
  if version ≥ 8 then (m.keptStoredMounts version).takeEggs m [] else m.keptStoredMounts version

variable {m version}

theorem CoopMachine.keptFocus_actors :
    (m.keptFocus version).actors = m.actors.map CoopActor.body := by
  unfold CoopMachine.keptFocus CoopMachine.keptEntities
  split <;> split <;> rfl

theorem CoopMachine.keptEntities_actors :
    (m.keptEntities version).actors = m.actors.map CoopActor.body := by
  unfold CoopMachine.keptEntities
  split <;> rfl

theorem CoopMachine.keptFocus_entities (h : version ≥ 3) :
    (m.keptFocus version).entities = m.entities.map CoopEntity.unmounted := by
  unfold CoopMachine.keptFocus CoopMachine.keptEntities
  rw [if_pos h]
  split <;> rfl

theorem CoopMachine.keptYoshi_actors :
    (m.keptYoshi version).actors = m.actors.map CoopActor.body := by
  unfold CoopMachine.keptYoshi
  split <;> exact m.keptFocus_actors

theorem CoopMachine.keptProjectiles_actors (h : version ≥ 6) :
    (m.keptProjectiles version).actors = m.actors.map CoopActor.armed := by
  unfold CoopMachine.keptProjectiles
  rw [if_pos h]
  rfl

/-- The current version keeps what a machine is restored from. -/
theorem CoopMachine.kept_machineVersion (allocator : Allocator) :
    (m.kept machineVersion).withAllocator allocator = m.restored allocator := by
  unfold CoopMachine.kept CoopMachine.keptStoredMounts CoopMachine.keptProjectiles
    CoopMachine.keptYoshi
    CoopMachine.keptFocus CoopMachine.keptEntities
  rw [if_pos (by decide), if_pos (by decide), if_pos (by decide), if_pos (by decide),
    if_pos (by decide), if_pos (by decide)]
  simp only [CoopMachine.takeEggs, CoopMachine.takeStoredMounts, CoopMachine.takeProjectiles,
    CoopMachine.takeYoshi, CoopMachine.takeFocus, CoopMachine.takeEntities, CoopMachine.roster,
    CoopMachine.restored, CoopMachine.withAllocator, freshMachine, CoopSession.reloaded]

end Kept

/-- The image of any version loads as what it keeps. -/
theorem reads_oldSections {m : CoopMachine} {version : UInt32} (hversion : Supported version)
    (howned : version = 2 → ∀ a ∈ m.actors, OwnsNothing a) (h : Savable m) (hf : FocusInRange m)
    (hc : Compact m)
    (hv : EntitiesValid m) {allocator : Allocator} (hg : allocator.Granted) :
    ∃ rest, Allocator.Granted rest ∧
      Reads TRAILER (loadSections allocator) (oldBody version m)
        ((m.kept version).withAllocator rest) := by
  have hplayers := (h.storable hc).players
  have hlen := h.actors.length
  have hmax : COOP_NO_PLAYER.toNat = 4294967295 := rfl
  have hactors : m.actors.length ≤ UINT32_MAX := by rw [hlen]; unfold UINT32_MAX; omega
  have hcount : m.focusCount.toNat ≤ (m.keptEntities version).actors.length := by
    rw [m.keptEntities_actors, List.length_map, hlen]
    exact h.focusCount
  obtain ⟨rest₂, hg₂, hroster⟩ := reads_loadRoster version howned h hc hg
  obtain ⟨rest₃, hg₃, hentities⟩ := reads_since 3 version (x := m.roster [])
    (y := (m.roster []).takeEntities m []) hg₂ fun _ => reads_loadEntities version hv.count hg₂
  obtain ⟨rest₄, hg₄, hfocus⟩ := reads_since 4 version (x := m.keptEntities version)
    (y := (m.keptEntities version).takeFocus m) hg₃ fun _ =>
      ⟨rest₃, hg₃, reads_loadFocus (m := m) (x := (m.keptEntities version).withAllocator rest₃) hf
        hcount (Nat.le_refl _)⟩
  obtain ⟨rest₅, hg₅, hyoshi⟩ := reads_since 5 version (x := m.keptFocus version)
    (y := (m.keptFocus version).takeYoshi m []) hg₄ fun hfive =>
      reads_loadYoshi (m := m) (x := (m.keptFocus version).withAllocator rest₄) h hc hv
        (m.keptFocus_entities (UInt32.le_trans (by decide) hfive)) hg₄
  obtain ⟨rest₆, hg₆, hprojectiles⟩ := reads_since 6 version (x := m.keptYoshi version)
    (y := (m.keptYoshi version).takeProjectiles m) hg₅ fun _ =>
      ⟨rest₅, hg₅,
        reads_loadProjectiles (m := m) (x := (m.keptYoshi version).withAllocator rest₅) h hactors
        m.keptYoshi_actors⟩
  obtain ⟨rest₇, hg₇, hstored⟩ := reads_since 7 version (x := m.keptProjectiles version)
    (y := (m.keptProjectiles version).takeStoredMounts m) hg₆ fun hseven =>
      ⟨rest₆, hg₆,
        reads_loadStoredMounts (m := m)
        (x := (m.keptProjectiles version).withAllocator rest₆) hactors
        (m.keptProjectiles_actors (UInt32.le_trans (by decide) hseven))⟩
  obtain ⟨rest, hrest, heggs⟩ := reads_since 8 version (x := m.keptStoredMounts version)
    (y := (m.keptStoredMounts version).takeEggs m []) hg₇ fun _ =>
      reads_loadEggs (m := m) (x := (m.keptStoredMounts version).withAllocator rest₇) hc hg₇
  have htail : focusTail version ≤ (sectionSince 4 version (focusImage m)).length := by
    have hfocusLength := focusImage_length m
    unfold focusTail sectionSince
    split
    · omega
    · exact Nat.zero_le _
  refine ⟨rest, hrest, ?_⟩
  unfold loadSections oldBody
  refine (reads_loadHead (k := 0) hversion h.mode).bind (Nat.zero_le _) ?_
  rw [← List.append_assoc]
  refine hroster.bind (Nat.le_add_left _ _) ?_
  refine hentities.bind (by rw [List.length_append]; omega) ?_
  refine hfocus.bind (Nat.le_add_left _ _) ?_
  refine hyoshi.bind (Nat.le_add_left _ _) ?_
  refine hprojectiles.bind (Nat.le_add_left _ _) ?_
  refine hstored.bind (Nat.le_add_left _ _) ?_
  exact heggs

/-- Restoring an entity touches only what it draws. -/
structure SameRecord (e f : CoopEntity) : Prop where
  id : f.id = e.id
  kind : f.kind = e.kind
  slot : f.slot = e.slot
  type : f.type = e.type
  owner : f.owner = e.owner
  target : f.target = e.target
  flags : f.flags = e.flags
  mountValid : f.mountValid = e.mountValid

theorem CoopEntity.restored_same (e : CoopEntity) : SameRecord e e.restored := by
  unfold CoopEntity.restored
  split <;> exact ⟨rfl, rfl, rfl, rfl, rfl, rfl, rfl, rfl⟩

theorem EntitiesValid.of_restored {m : CoopMachine} (h : EntitiesValid m) (allocator : Allocator) :
    EntitiesValid (m.restored allocator) := by
  have hmem : ∀ {p : CoopEntity → Prop}, (∀ e ∈ m.entities, p e.restored) →
      ∀ e ∈ m.entities.map CoopEntity.restored, p e := fun hp e he => by
    obtain ⟨d, hd, rfl⟩ := List.mem_map.1 he
    exact hp d hd
  refine ⟨?_, h.next, h.level, hmem fun e he => ?_, ?_, ?_, h.sources, h.sourceKeys,
    fun s hs => ?_, h.eggKeys, h.eggReferences, fun p hp =>
    ⟨fun hne => ?_, fun hne => ?_⟩, fun a ha => ?_, h.storedApart, fun f hf => ?_,
    h.fireballsApart⟩
  · show (m.entities.map CoopEntity.restored).length ≤ 22
    rw [List.length_map]
    exact h.count
  · have hs := e.restored_same
    have he := h.entities e he
    constructor
    · rw [hs.mountValid, hs.kind, hs.type]; exact he.mount
    · rw [hs.id]; exact he.id
    · rw [hs.kind, hs.slot]; exact he.slot
    · rw [hs.type]; exact he.type
    · rw [hs.flags]; exact he.flags
    · rw [hs.owner]; exact he.owner
    · rw [hs.target]; exact he.target
    · rw [hs.owner, hs.flags]; exact he.owned
    · rw [hs.flags, hs.kind]; exact he.normal
    · rw [hs.flags, hs.owner, hs.id]; exact he.held
    · rw [hs.flags, hs.owner, hs.id]; exact he.ridden
  · show ((m.entities.map CoopEntity.restored).map CoopEntity.id).Nodup
    have hids : m.entities.map (CoopEntity.id ∘ CoopEntity.restored) =
      m.entities.map CoopEntity.id :=
      List.map_congr_left fun e _ => e.restored_same.id
    rw [List.map_map, hids]
    exact h.ids
  · show ((m.entities.map CoopEntity.restored).map fun e => (e.kind, e.slot)).Nodup
    have hslots : m.entities.map ((fun e : CoopEntity => (e.kind, e.slot)) ∘ CoopEntity.restored) =
        m.entities.map (fun e => (e.kind, e.slot)) :=
      List.map_congr_left fun e _ => by
        rw [Function.comp_apply, e.restored_same.kind, e.restored_same.slot]
    rw [List.map_map, hslots]
    exact h.slots
  · have hegg := h.eggs s hs
    refine ⟨hegg.level, hegg.x, hegg.y, hegg.aligned, hegg.loadIndex, hegg.uses, fun hne => ?_⟩
    obtain ⟨hlevel, e, he, hids⟩ := hegg.egg hne
    have hsame := e.restored_same
    refine ⟨hlevel, e.restored, List.mem_map_of_mem he, ?_, ?_, ?_, ?_, ?_⟩
    · rw [hsame.id]; exact hids.id
    · rw [hsame.kind]; exact hids.kind
    · rw [hsame.type]; exact hids.type
    · rw [hsame.owner]; exact hids.owner
    · rw [hsame.flags]; exact hids.flags
  · obtain ⟨e, he, howner, hid, hflags⟩ := (h.players p hp).held hne
    have hsame := e.restored_same
    exact ⟨e.restored, List.mem_map_of_mem he, hsame.owner.trans howner, hsame.id.trans hid,
      hsame.flags.trans hflags⟩
  · obtain ⟨e, he, howner, hid, hflags⟩ := (h.players p hp).mount hne
    have hsame := e.restored_same
    exact ⟨e.restored, List.mem_map_of_mem he, hsame.owner.trans howner, hsame.id.trans hid,
      hsame.flags.trans hflags⟩
  · have hstored := h.stored a ha
    refine ⟨hstored.color, hstored.rider, hstored.id, fun hne => hmem fun e he => ?_,
      hstored.fireball⟩
    rw [e.restored_same.id]
    exact hstored.entity hne e he
  · have hball := h.fireballs f hf
    refine ⟨hball.kind, hball.id, hball.idle, fun hne => hmem fun e he => ?_⟩
    rw [e.restored_same.id]
    exact hball.entity hne e he

/-- The checks of `coop_machine_load` around the sections, on a sealed body. -/
theorem readMachine_sections {body : Bytes} {allocator : Allocator} {o : Option CoopMachine}
    (hbody : 64 ≤ body.length) (hread : Answers TRAILER (loadSections allocator) body o) :
    readMachine (sealBytes body) allocator = o.elim (.error .refused) fun t => do
      refuseIf (entitiesValid t = false)
      return t := by
  have hlen := sealBytes_length body
  have hsections : loadSections allocator ⟨sealBytes body, 0⟩ =
    answer ⟨sealBytes body, body.length⟩ o := by
    have := hread [] (le32 (checksum body)) (Nat.le_refl 4)
    rwa [List.nil_append, List.length_nil, Nat.zero_add] at this
  have hsum : fetch32 (sealBytes body) body.length = .ok (checksum body) := by
    have := fetch32_eq body [] (checksum body)
    rwa [List.append_nil] at this
  have htake : (sealBytes body).take body.length = body := List.take_left
  have hend : (sealBytes body).length - 4 = body.length := by
    rw [hlen, Nat.add_sub_cancel]
  unfold readMachine
  dsimp only
  rw [refuseIf_neg (by rw [hlen]; unfold HEADER TRAILER; omega), ok_bind, hend, hsum,
    ok_bind, htake, refuseIf_neg (fun hne => hne rfl), ok_bind, StateT.run, hsections]
  cases o with
  | none => rfl
  | some t =>
      unfold answer
      dsimp only
      rw [ok_bind, TRAILER, hend]
      simp

theorem oldBody_length_le (version : UInt32) (m : CoopMachine) :
    64 ≤ (oldBody version m).length := by
  rw [oldBody, List.length_append, headImage_length]
  unfold HEADER
  omega

theorem entitiesValid_withAllocator (m : CoopMachine) (allocator : Allocator) :
    entitiesValid (m.withAllocator allocator) = entitiesValid m := rfl

/-- Loading the image of a version gives back what it keeps, if that is a valid table of entities.
-/
theorem readMachine_old {m : CoopMachine} {version : UInt32} (hversion : Supported version)
    (howned : version = 2 → ∀ a ∈ m.actors, OwnsNothing a) (h : Savable m) (hf : FocusInRange m)
    (hc : Compact m)
    (hv : EntitiesValid m) (hkept : entitiesValid (m.kept version) = true) {allocator : Allocator}
    (hg : allocator.Granted) :
    ∃ rest, Allocator.Granted rest ∧
      readMachine (oldImage version m) allocator = .ok ((m.kept version).withAllocator rest) := by
  obtain ⟨rest, hrest, hread⟩ := reads_oldSections hversion howned h hf hc hv hg
  have hvalid : entitiesValid ((m.kept version).withAllocator rest) = true := by
    rw [entitiesValid_withAllocator, hkept]
  refine ⟨rest, hrest, ?_⟩
  rw [oldImage, readMachine_sections (oldBody_length_le version m) hread, Option.elim_some, hvalid]
  rfl

/-- Loading the image of a machine gives it back. -/
theorem readMachine_image {m : CoopMachine} (h : Savable m) (hf : FocusInRange m) (hc : Compact m)
    (hv : entitiesValid m = true) {allocator : Allocator} (hg : allocator.Granted) :
    ∃ rest, Allocator.Granted rest ∧ readMachine (machineImage m) allocator =
      .ok (m.restored rest) := by
  have hkept : entitiesValid (m.kept machineVersion) = true := by
    rw [← entitiesValid_withAllocator _ [], m.kept_machineVersion]
    exact entitiesValid_iff.2 ((entitiesValid_iff.1 hv).of_restored [])
  obtain ⟨rest, hrest, hload⟩ :=
    readMachine_old supported_machineVersion (fun hold => absurd hold (by decide))
    h hf hc (entitiesValid_iff.1 hv) hkept hg
  rw [m.kept_machineVersion, oldImage, oldBody_machineVersion] at hload
  exact ⟨rest, hrest, hload⟩

/-! ## Fresh machines -/

theorem initActors_player (players : List CoopPlayer) :
    (players.mapIdx initActor).map CoopActor.player = players.map CoopPlayer.id := by
  refine List.ext_getElem (by simp) fun i h₁ h₂ => ?_
  rw [List.getElem_map, List.getElem_mapIdx, List.getElem_map]
  rfl

theorem initActors_seat (players : List CoopPlayer) :
    (players.mapIdx initActor).map CoopActor.inputSeat =
      (List.range players.length).map UInt32.ofNat := by
  refine List.ext_getElem (by simp) fun i h₁ h₂ => ?_
  rw [List.getElem_map, List.getElem_mapIdx, List.getElem_map, List.getElem_range]
  rfl

/-- A freshly initialised machine can be saved. -/
theorem coopMachineInit_savable {allocator : Allocator} {count : Nat} {m : CoopMachine}
    (h : coopMachineInit allocator count = some m) : Savable m := by
  obtain ⟨session, rest, hsession, rfl⟩ := coopMachineInit_some h
  obtain ⟨htwo, hmax, -, -, hplayers, -⟩ := coopSessionInit_some hsession
  have hlen : session.players.length = count := by rw [hplayers, List.length_map, List.length_range]
  have hcount : COOP_NO_PLAYER.toNat = 4294967295 := rfl
  have hsize : UInt32.size = 4294967296 := rfl
  have hactor : ∀ a ∈ session.players.mapIdx initActor, a.pending = [] ∧ a.visible = [] ∧
      a.fireballs = List.Vector.replicate _ zeroFireball := by
    intro a ha
    obtain ⟨i, hi, rfl⟩ := List.mem_mapIdx.1 ha
    exact ⟨rfl, rfl, rfl⟩
  have hvalid : valid session = true := valid_iff.2 (coopSessionInit_valid hsession)
  have htwo : 2 ≤ session.players.length := by rw [hlen]; exact htwo
  refine ⟨hvalid, htwo, ?_, ?_, fun a ha => ?_, fun f hf => ?_,
    (fun _ h => nomatch h), by show (0 : UInt32) ≤ 0x29; decide,
    Nat.zero_le _⟩
  · exact List.Perm.of_eq (initActors_player session.players)
  · show ((session.players.mapIdx initActor).map CoopActor.inputSeat).Nodup
    rw [initActors_seat]
    refine List.nodup_range.map_on fun i hi j hj he => ?_
    rw [List.mem_range, hlen] at hi hj
    have := congrArg UInt32.toNat he
    rwa [UInt32.toNat_ofNat_of_lt' (by omega), UInt32.toNat_ofNat_of_lt' (by omega)] at this
  · obtain ⟨hp, hv, -⟩ := hactor a ha
    rw [hp, hv]
    exact zeroPictures
  · obtain ⟨a, ha, hfa⟩ := mem_fireballs.1 hf
    rw [(hactor a ha).2.2] at hfa
    rw [List.eq_of_mem_replicate (show f ∈ List.replicate 2 zeroFireball from hfa)]
    exact zeroPictures

theorem pairMachine_savable : Savable pairMachine := coopMachineInit_savable pairMachine_init

theorem pairMachine_focus : FocusInRange pairMachine := ⟨rfl, rfl, rfl, rfl⟩

theorem pairMachine_valid : EntitiesValid pairMachine :=
  (coopMachineInit_consistent pairMachine_init).tables

theorem pairMachine_compact : Compact pairMachine :=
  ⟨by rw [sessionImage_length]; decide, Nat.zero_le _, Nat.zero_le _⟩

/-- The pair's image loads. -/
theorem pairMachine_loads : ∃ t, coopMachineLoad pairMachine (machineImage pairMachine) [] =
    .ok (true, t) := by
  obtain ⟨rest, -, hload⟩ :=
    readMachine_image pairMachine_savable pairMachine_focus pairMachine_compact
    (entitiesValid_iff.2 pairMachine_valid) Allocator.granted_nil
  exact ⟨pairMachine.restored rest, by rw [coopMachineLoad, hload]; rfl⟩

/-! ## A machine in the middle of a game -/

/-- A tile of the given size. -/
def tilePiece (x y : Int32) (size slot : UInt32) : CoopVisualPiece :=
  ⟨x, y, size, size, 2, 1, slot, List.Vector.replicate _ 0x8421⟩

/-- The machine of the midgame session: a ridden Yoshi, a held shell, an egg and a fireball, with
what they draw. -/
def midgameMachine : CoopMachine :=
  { freshMachine midgameSession
      [{ zeroActor with
          player := 0, inputSeat := 2, guest := List.Vector.replicate _ 1
          pending := [tilePiece (-8) 0 16 4, tilePiece (-8) 16 16 5]
          visible := [tilePiece (-8) 8 8 6]
          fireballs := ⟨[⟨6, ⟨5 :: List.replicate 11 7, rfl⟩, [tilePiece 4 4 8 90], []⟩, zeroFireball], rfl⟩ },
        { zeroActor with
          player := 1, guest := List.Vector.replicate _ 2
          storedMount := 3, storedMountColor := 8 },
        { zeroActor with player := 2, inputSeat := 1, visible := [tilePiece 0 0 16 127] }] with
    room := 0x105
    previousMode := 0x14
    roomInitialized := true
    entities :=
      [⟨5, COOP_ENTITY_NORMAL, 2, 0x35, 0, COOP_NO_PLAYER, COOP_ENTITY_RIDDEN, true,
        List.Vector.replicate _ 9,
          [tilePiece (-16) 12 16 20], [tilePiece (-16) 12 16 21, tilePiece 0 20 8 22]⟩,
        ⟨4, COOP_ENTITY_NORMAL, 7, 0x04, 1, 0, COOP_ENTITY_HELD, false,
          List.Vector.replicate _ 0, [], []⟩,
        ⟨2, COOP_ENTITY_NORMAL, 0, 0x2c, COOP_NO_PLAYER, COOP_NO_PLAYER, 0, false,
          List.Vector.replicate _ 0, [], []⟩,
        ⟨1, COOP_ENTITY_EXTENDED, 3, 0x11, 0, 1, COOP_ENTITY_PROJECTILE, false,
          List.Vector.replicate _ 0, [], []⟩]
    entityCapacity := 16
    nextEntity := 7
    level := 0x105
    focusX := 800
    focusY := 250
    focusCenterX := 804
    focusCenterY := 246
    focusCount := 2
    focusInitialized := true
    focusHold := true
    mountsInitialized := true
    fireballsInitialized := true
    entrancePrepared := true
    sources := [⟨0x105, 0, 0x40, 0x150, 0x11d, 1⟩, ⟨0x0ff, 1, 0x200, 0x90, 0x124, 3⟩]
    sourceCapacity := 8
    placedEggs := [⟨0x105, 0x200, 0x140, 12, 1, 2⟩, ⟨0x013, 0x30, 0x60, 255, 0, 0⟩]
    placedCapacity := 8 }

/-- The same without entities and what a player owns, as the oldest images have it. -/
def unownedMachine : CoopMachine :=
  { midgameMachine with
    session := { midgameSession with
      players := midgameSession.players.map fun p =>
        { p with heldObject := COOP_NO_ENTITY, mount := COOP_NO_ENTITY } }
    actors := midgameMachine.actors.map fun a => { a with guest := List.Vector.replicate _ 0 }
    entities := []
    placedEggs := [] }

instance (bound : Nat) (pending visible : List CoopVisualPiece) :
    Decidable (Pictures bound pending visible) :=
  decidable_of_iff (pending.length ≤ bound ∧ visible.length ≤ bound ∧ ∀ v ∈ pending ++ visible,
    pieceValid v = true)
    ⟨fun h => ⟨h.1, h.2.1, h.2.2⟩, fun h => ⟨h.1, h.2, h.3⟩⟩

theorem midgameMachine_savable : Savable midgameMachine where
  session := midgameSession_valid
  players := by decide
  actors := List.Perm.refl _
  seats := by decide
  bodies := by decide +kernel
  fireballs := by decide +kernel
  mounts := by decide +kernel
  mode := by decide
  focusCount := by decide

theorem unownedMachine_savable : Savable unownedMachine where
  session := by decide +kernel
  players := by decide
  actors := List.Perm.refl _
  seats := by decide
  bodies := by decide +kernel
  fireballs := by decide +kernel
  mounts := by decide +kernel
  mode := by decide
  focusCount := by decide

theorem midgameMachine_focus : FocusInRange midgameMachine := ⟨rfl, rfl, rfl, rfl⟩

theorem unownedMachine_focus : FocusInRange unownedMachine := ⟨rfl, rfl, rfl, rfl⟩

theorem midgameMachine_compact : Compact midgameMachine :=
  ⟨by rw [sessionImage_length]; decide, by decide, by decide⟩

theorem unownedMachine_compact : Compact unownedMachine :=
  ⟨by rw [sessionImage_length]; decide, by decide, by decide⟩

theorem midgameMachine_valid : entitiesValid midgameMachine = true := by decide +kernel

/-! ## Where saving stops -/

/-- The pair's machine with `n` events of this frame. -/
def busyMachine (n : Nat) : CoopMachine :=
  { pairMachine with
    session := { pairSession with events := List.replicate n ⟨.is .exit, 0, 0, 0, 0, 0⟩ } }

theorem busyMachine_savable (n : Nat) : Savable (busyMachine n) := by
  have h := pairMachine_savable
  have hv := coopSessionInit_valid pairSession_init
  refine ⟨valid_iff.2 ⟨hv.ticks, hv.outcome, hv.primary, hv.leader, hv.camera, hv.ids,
    hv.distinct, hv.bodies, hv.apart, fun e he => ?_, hv.actions⟩, h.players, h.actors, h.seats,
    h.bodies, h.fireballs, h.mounts, h.mode, h.focusCount⟩
  rw [List.eq_of_mem_replicate he]
  exact ⟨by decide, fun _ => ⟨initPlayer 0, List.mem_cons_self, rfl⟩⟩

theorem busyMachine_events (n : Nat) : (busyMachine n).session.events.length = n :=
  List.length_replicate

/-- Cell `i` of the grid of level positions: level, column and row. -/
def gridLevel (i : Nat) : UInt32 := UInt32.ofNat (i / 2 ^ 24)

def gridX (i : Nat) : UInt32 := UInt32.ofNat (16 * (i % 4096))

def gridY (i : Nat) : UInt32 := UInt32.ofNat (16 * (i / 4096 % 4096))

structure GridCell (i : Nat) : Prop where
  level : (gridLevel i).toNat = i / 2 ^ 24
  x : (gridX i).toNat = 16 * (i % 4096)
  y : (gridY i).toNat = 16 * (i / 4096 % 4096)

theorem gridCell {i : Nat} (h : i < 2 ^ 32) : GridCell i := by
  have hsize : UInt32.size = 4294967296 := rfl
  exact ⟨UInt32.toNat_ofNat_of_lt' (by omega), UInt32.toNat_ofNat_of_lt' (by omega),
    UInt32.toNat_ofNat_of_lt' (by omega)⟩

theorem grid_injective {i j : Nat} (hi : i < 2 ^ 32) (hj : j < 2 ^ 32)
    (hl : gridLevel i = gridLevel j)
    (hx : gridX i = gridX j) (hy : gridY i = gridY j) : i = j := by
  have h₁ := congrArg UInt32.toNat hl
  have h₂ := congrArg UInt32.toNat hx
  have h₃ := congrArg UInt32.toNat hy
  rw [(gridCell hi).level, (gridCell hj).level] at h₁
  rw [(gridCell hi).x, (gridCell hj).x] at h₂
  rw [(gridCell hi).y, (gridCell hj).y] at h₃
  omega

structure GridValid (i : Nat) : Prop where
  level : gridLevel i < 512
  x : gridX i ≤ 65535
  y : gridY i ≤ 65535
  aligned : (gridX i ||| gridY i) &&& 15 = 0

theorem grid_valid {i : Nat} (h : i < 2 ^ 32) : GridValid i := by
  have hc := gridCell h
  refine ⟨?_, ?_, ?_, ?_⟩
  · rw [UInt32.lt_iff_toNat_lt, hc.level]
    show _ < 512
    omega
  · rw [UInt32.le_iff_toNat_le, hc.x]
    show _ ≤ 65535
    omega
  · rw [UInt32.le_iff_toNat_le, hc.y]
    show _ ≤ 65535
    omega
  · apply UInt32.toNat_inj.1
    rw [UInt32.toNat_and, UInt32.toNat_or, hc.x, hc.y]
    show _ &&& (2 ^ 4 - 1) = 0
    rw [Nat.and_two_pow_sub_one_eq_mod, Nat.or_mod_two_pow, Nat.mul_mod_right, Nat.mul_mod_right]
    rfl

/-- The pair's machine with `n` sources and `n` placed eggs, each in a cell of its own. -/
def crowdedMachine (sources eggs : Nat) : CoopMachine :=
  { pairMachine with
    sources := (List.range sources).map fun i => ⟨gridLevel i, 0, gridX i, gridY i, 256, 0⟩
    placedEggs := (List.range eggs).map fun i => ⟨gridLevel i, gridX i, gridY i, 0, 0, 0⟩ }

theorem crowdedMachine_sources (sources eggs : Nat) :
    (crowdedMachine sources eggs).sources.length = sources := by
  simp [crowdedMachine]

theorem crowdedMachine_eggs (sources eggs : Nat) :
    (crowdedMachine sources eggs).placedEggs.length = eggs := by
  simp [crowdedMachine]

theorem crowdedMachine_savable (sources eggs : Nat) : Savable (crowdedMachine sources eggs) := by
  have h := pairMachine_savable
  exact ⟨h.session, h.players, h.actors, h.seats, h.bodies, h.fireballs, h.mounts, h.mode,
    h.focusCount⟩

theorem crowdedMachine_valid {sources eggs : Nat} (hs : sources ≤ 2 ^ 32) (he : eggs ≤ 2 ^ 32) :
    EntitiesValid (crowdedMachine sources eggs) := by
  have h := pairMachine_valid
  refine ⟨h.count, h.next, h.level, (fun _ h => nomatch h), h.ids, h.slots, fun s hm => ?_, ?_,
    fun s hm => ?_, ?_, ?_, fun p hp => ⟨(h.players p hp).held, (h.players p hp).mount⟩, fun a ha =>
    ?_, h.storedApart, fun f hf => ?_, h.fireballsApart⟩
  · obtain ⟨i, hi, rfl⟩ := List.mem_map.1 hm
    have hg := grid_valid (Nat.lt_of_lt_of_le (List.mem_range.1 hi) hs)
    have htile : (256 : UInt32) ≤ 256 ∧ (256 : UInt32) < 512 := by decide
    exact ⟨hg.level, UInt32.zero_le, hg.x, hg.y, hg.aligned, htile, Nat.zero_le _⟩
  · show (((List.range sources).map _).map CoopYoshiSource.key).Nodup
    rw [List.map_map]
    refine List.nodup_range.map_on fun i hi j hj heq => ?_
    rw [List.mem_range] at hi hj
    simp only [Function.comp_apply, CoopYoshiSource.key, Prod.mk.injEq] at heq
    exact grid_injective (by omega) (by omega) heq.1 heq.2.2.1 heq.2.2.2
  · obtain ⟨i, hi, rfl⟩ := List.mem_map.1 hm
    have hg := grid_valid (Nat.lt_of_lt_of_le (List.mem_range.1 hi) he)
    have hindex : (0 : UInt32) < 128 ∨ (0 : UInt32) = 255 := by decide
    exact ⟨hg.level, hg.x, hg.y, hg.aligned, hindex, Nat.zero_le _, fun hne => absurd rfl hne⟩
  · show (((List.range eggs).map _).map CoopPlacedEgg.key).Nodup
    rw [List.map_map]
    refine List.nodup_range.map_on fun i hi j hj heq => ?_
    rw [List.mem_range] at hi hj
    simp only [Function.comp_apply, CoopPlacedEgg.key, Prod.mk.injEq] at heq
    exact grid_injective (by omega) (by omega) heq.1 heq.2.1 heq.2.2
  · refine List.pairwise_of_forall_mem_list fun t ht s hm hne => ?_
    obtain ⟨i, -, rfl⟩ := List.mem_map.1 hm
    exact absurd rfl hne
  · have hstored := h.stored a ha
    exact ⟨hstored.color, hstored.rider, hstored.id, hstored.entity, hstored.fireball⟩
  · have hball := h.fireballs f hf
    exact ⟨hball.kind, hball.id, hball.idle, hball.entity⟩

/-! ## The codec -/

/-- **Round trip.**  A machine that can be saved, whose session is encoded in fewer than `2 ^ 32`
bytes and whose source and egg tables have fewer than `2 ^ 32` records, is written into exactly
`coop_machine_save_size` bytes, and those bytes load as the machine an image keeps of it. -/
theorem machine_codec {m : CoopMachine} (h : Savable m) (hf : FocusInRange m) (hc : Compact m)
    (hv : entitiesValid m = true)
    {allocator allocator' : Allocator} (hg : allocator.Granted) (hg' : allocator'.Granted)
    {data : Bytes}
    (hdata : coopMachineSaveSize m ≤ data.length) :
    ∃ bytes, bytes.length = coopMachineSaveSize m ∧
      coopMachineSave m allocator data = .ok (bytes ++ data.drop bytes.length) ∧
      ∀ destination, ∃ rest, coopMachineLoad destination bytes allocator' =
        .ok (true, m.restored rest) := by
  obtain ⟨rest, -, hload⟩ := readMachine_image h hf hc hv hg'
  refine ⟨machineImage m, (coopMachineSaveSize_image h hc (entitiesValid_iff.1 hv).count).symm,
    coopMachineSave_image h hc hv hg hdata, fun destination => ⟨rest, ?_⟩⟩
  rw [coopMachineLoad, hload]
  rfl

theorem machine_codec_midgame : ∃ bytes rest, bytes.length = coopMachineSaveSize midgameMachine ∧
    coopMachineLoad pairMachine bytes [] = .ok (true, midgameMachine.restored rest) := by
  have hdata : coopMachineSaveSize midgameMachine ≤
      (List.replicate (coopMachineSaveSize midgameMachine) (0 : UInt8)).length := by
      rw [List.length_replicate]
  obtain ⟨bytes, hlen, -, hload⟩ := machine_codec midgameMachine_savable midgameMachine_focus
    midgameMachine_compact midgameMachine_valid Allocator.granted_nil Allocator.granted_nil hdata
  obtain ⟨rest, hrest⟩ := hload pairMachine
  exact ⟨bytes, rest, hlen, hrest⟩

/-- Machines with every other property that are not saved: the session's storage is refused, its
image is longer than a word can tell, or a table has more records than a word can tell. -/
theorem machine_codec_refusals :
    (Savable pairMachine ∧ FocusInRange pairMachine ∧ entitiesValid pairMachine = true ∧
      ∀ data bytes, coopMachineSave pairMachine [false] data ≠ .ok bytes) ∧
    (∃ m, Savable m ∧ FocusInRange m ∧ entitiesValid m = true ∧
      (sessionImage m.session).length > UINT32_MAX ∧
      ∀ allocator data, coopMachineSave m allocator data = .error .refused) ∧
    (∃ m, Savable m ∧ FocusInRange m ∧ entitiesValid m = true ∧ m.sources.length > UINT32_MAX ∧
      ∀ allocator data, coopMachineSave m allocator data = .error .refused) ∧
    (∃ m, Savable m ∧ FocusInRange m ∧ entitiesValid m = true ∧ m.placedEggs.length > UINT32_MAX ∧
      ∀ allocator data, coopMachineSave m allocator data = .error .refused) := by
  have hrefused : ∀ {m : CoopMachine}, 2 ≤ m.session.players.length → ¬ Compact m →
      ∀ allocator data, coopMachineSave m allocator data = .error .refused := by
    intro m htwo hc
    exact coopMachineSave_sizeless (Classical.not_not.1 fun hne => hc (.of_saveSize htwo hne))
  have hpair : 2 ≤ pairSession.players.length := by decide
  have hmax : UINT32_MAX < 2 ^ 32 := by decide
  have hv := pairMachine_valid
  have hevents := busyMachine_events (2 ^ 28)
  have hbusy : (sessionImage (busyMachine (2 ^ 28)).session).length > UINT32_MAX := by
    rw [sessionImage_length, hevents]
    unfold UINT32_MAX
    omega
  have hsources : (crowdedMachine (2 ^ 32) 0).sources.length > UINT32_MAX := by
    rw [crowdedMachine_sources]
    exact hmax
  have heggs : (crowdedMachine 0 (2 ^ 32)).placedEggs.length > UINT32_MAX := by
    rw [crowdedMachine_eggs]
    exact hmax
  have hf := pairMachine_focus
  refine ⟨⟨pairMachine_savable, hf, entitiesValid_iff.2 hv, coopMachineSave_starved pairMachine⟩,
    ⟨busyMachine (2 ^ 28), busyMachine_savable _, ⟨hf.x, hf.y, hf.centerX, hf.centerY⟩,
      entitiesValid_iff.2 ?_, hbusy, hrefused hpair fun hc =>
      absurd hc.session (Nat.not_le.2 hbusy)⟩,
    ⟨crowdedMachine (2 ^ 32) 0, crowdedMachine_savable _ _, ⟨hf.x, hf.y, hf.centerX, hf.centerY⟩,
      entitiesValid_iff.2
      (crowdedMachine_valid (Nat.le_refl _) (Nat.zero_le _)), hsources,
      hrefused hpair fun hc => absurd hc.sources (Nat.not_le.2 hsources)⟩,
    ⟨crowdedMachine 0 (2 ^ 32), crowdedMachine_savable _ _, ⟨hf.x, hf.y, hf.centerX, hf.centerY⟩,
      entitiesValid_iff.2
      (crowdedMachine_valid (Nat.zero_le _) (Nat.le_refl _)), heggs,
      hrefused hpair fun hc => absurd hc.eggs (Nat.not_le.2 heggs)⟩⟩
  exact freshMachine_valid pairSession.players fun p hp => ⟨((by decide :
    ∀ p ∈ pairSession.players, p.heldObject = COOP_NO_ENTITY) p hp), ((by decide :
    ∀ p ∈ pairSession.players, p.mount = COOP_NO_ENTITY) p hp)⟩

/-- **Migration.**  Whatever bytes a load accepts, of any version, the machine it delivers is saved,
and the bytes written load as the same machine. -/
theorem old_versions_migrate {bytes data : Bytes} {destination t : CoopMachine}
    {allocator allocator' allocator'' : Allocator}
    (hload : coopMachineLoad destination bytes allocator = .ok (true, t)) (hg : allocator'.Granted)
    (hg' : allocator''.Granted) (hdata : coopMachineSaveSize t ≤ data.length) :
    ∃ image, image.length = coopMachineSaveSize t ∧
      coopMachineSave t allocator' data = .ok (image ++ data.drop image.length) ∧
      ∀ destination', ∃ rest, coopMachineLoad destination' image allocator'' =
        .ok (true, t.withAllocator rest) := by
  rcases readMachine_cases bytes allocator with hr | ⟨u, hu, hm, hv⟩
  · have := deliver_ok hload
    rw [hr] at this
    cases this
  · have hsame := deliver_ok hload
    rw [hu] at hsame
    cases hsame
    obtain ⟨rest, -, hback⟩ := readMachine_image hm.savable hm.focus hm.compact hv hg'
    refine ⟨machineImage t, (coopMachineSaveSize_image hm.savable hm.compact
      (entitiesValid_iff.1 hv).count).symm, coopMachineSave_image hm.savable hm.compact hv hg hdata,
      fun destination' => ⟨rest, ?_⟩⟩
    rw [coopMachineLoad, hback, hm.restored]
    rfl

/-- The image of that version loads, and the machine it delivers is written and loads as the same
machine. -/
def Migrates (version : UInt32) (m : CoopMachine) : Prop := ∃ t image rest,
  coopMachineLoad pairMachine (oldImage version m) [] = .ok (true, t) ∧
  coopMachineSave t [] (List.replicate (coopMachineSaveSize t) 0) = .ok image ∧
  coopMachineLoad pairMachine (image.take (coopMachineSaveSize t)) [] =
    .ok (true, t.withAllocator rest)

theorem old_versions_migrate_midgame : Migrates 2 unownedMachine ∧ Migrates 3 midgameMachine ∧
    Migrates 4 midgameMachine ∧ Migrates 5 midgameMachine ∧ Migrates 6 midgameMachine ∧
    Migrates 7 midgameMachine := by
  have hmigrates : ∀ {version : UInt32} {m : CoopMachine} {rest : Allocator},
      readMachine (oldImage version m) [] = .ok ((m.kept version).withAllocator rest) →
      Migrates version m := by
    intro version m rest hread
    have hloaded : coopMachineLoad pairMachine (oldImage version m) [] =
        .ok (true, (m.kept version).withAllocator rest) := by
      rw [coopMachineLoad, hread]
      rfl
    have hdata : coopMachineSaveSize ((m.kept version).withAllocator rest) ≤
        (List.replicate (coopMachineSaveSize ((m.kept version).withAllocator rest))
          (0 : UInt8)).length := by
      rw [List.length_replicate]
    obtain ⟨image, hlen, hsave, hload⟩ :=
      old_versions_migrate hloaded Allocator.granted_nil Allocator.granted_nil hdata
    obtain ⟨rest', hrest⟩ := hload pairMachine
    exact ⟨_, _, rest', hloaded, hsave, by rw [← hlen, List.take_left]; exact hrest⟩
  have hmidgame : ∀ {version : UInt32}, Supported version → version ≠ 2 →
      entitiesValid (midgameMachine.kept version) = true → Migrates version midgameMachine := by
    intro version hversion hnew hkept
    obtain ⟨rest, -, hread⟩ :=
      readMachine_old hversion (fun hold => absurd hold hnew) midgameMachine_savable
      midgameMachine_focus midgameMachine_compact (entitiesValid_iff.1 midgameMachine_valid) hkept
      Allocator.granted_nil
    exact hmigrates hread
  have hnothing : (unownedMachine.actors.all fun a =>
      ownedAddresses.all fun address => (coopGuestPeek a.guest address).getD 0 = 0) = true := by
    decide +kernel
  have hunowned : ∀ a ∈ unownedMachine.actors, OwnsNothing a := fun a ha address haddress =>
    of_decide_eq_true (List.all_eq_true.1 (List.all_eq_true.1 hnothing a ha) address haddress)
  obtain ⟨rest, -, hread⟩ :=
    readMachine_old (show Supported 2 from ⟨by decide, by decide⟩) (fun _ => hunowned)
    unownedMachine_savable unownedMachine_focus unownedMachine_compact
      (entitiesValid_iff.1 (by decide +kernel)) (by decide +kernel)
    Allocator.granted_nil
  exact ⟨hmigrates hread, hmidgame ⟨by decide, by decide⟩ (by decide) (by decide +kernel),
    hmidgame ⟨by decide, by decide⟩ (by decide) (by decide +kernel),
    hmidgame ⟨by decide, by decide⟩ (by decide) (by decide +kernel),
    hmidgame ⟨by decide, by decide⟩ (by decide) (by decide +kernel),
    hmidgame ⟨by decide, by decide⟩ (by decide) (by decide +kernel)⟩

/-- A machine a load has just accepted is not saved when the session's storage is refused. -/
theorem loaded_machine_unsaved : ∃ bytes t, coopMachineLoad pairMachine bytes [] = .ok (true, t) ∧
    ∀ data image, coopMachineSave t [false] data ≠ .ok image := by
  obtain ⟨t, ht⟩ := pairMachine_loads
  exact ⟨_, t, ht, coopMachineSave_starved t⟩

end SmwRecomp.Coop
