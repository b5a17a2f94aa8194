import SmwRecomp.Coop.Clear

/-!
# Both sides of ownership

The session clears its own records and tells the host through the action list, which
`apply_object_drops` replays twice a frame.

* `HandsOver` — every record the session cleared is in the action list, and nothing else is.
* `Spent` — an action that has been applied, or whose player has let go: replaying it is harmless.
* `DropsPass.valid`, `DropsPass.resynced` — one replay brings the entity tables back in line.
* `ownership_resyncs` — the two replays of a frame.
-/

set_option autoImplicit false

namespace SmwRecomp.Coop

/-! ## What the session hands over -/

def dropOf (p : CoopPlayer) : CoopAction := ⟨.is .dropObject, p.id, p.heldObject, 0⟩

def detachOf (p : CoopPlayer) : CoopAction := ⟨.is .detachMount, p.id, p.mount, 0⟩

/-- A reference is kept, or cleared with the host told. -/
def Yielded (t : CoopSession) (before after : CoopEntityId) (told : CoopAction) : Prop :=
  after = before ∨
    after = COOP_NO_ENTITY ∧ (before ≠ COOP_NO_ENTITY → t.failed = false → told ∈ t.actions)

structure Yields (t : CoopSession) (p q : CoopPlayer) : Prop where
  held : Yielded t p.heldObject q.heldObject (dropOf p)
  mount : Yielded t p.mount q.mount (detachOf p)

/-- `a` takes from a player of `s` what it no longer has in `t`. -/
def Justified (s t : CoopSession) (a : CoopAction) : Prop :=
  ∃ p q, coopPlayer s a.player = some p ∧ coopPlayer t a.player = some q ∧
    (a = dropOf p ∧ q.heldObject = COOP_NO_ENTITY ∨ a = detachOf p ∧ q.mount = COOP_NO_ENTITY)

structure HandsOver (s t : CoopSession) : Prop where
  ids : t.players.map CoopPlayer.id = s.players.map CoopPlayer.id
  player : ∀ id p, coopPlayer s id = some p → ∃ q, coopPlayer t id = some q ∧ Yields t p q
  taken : ∀ a ∈ t.actions, a.kind = .is .dropObject ∨ a.kind = .is .detachMount →
    a ∈ s.actions ∨ Justified s t a

/-- The player `a` names has nothing left of what `a` takes. -/
structure Spent (s : CoopSession) (a : CoopAction) : Prop where
  drop : a.kind = .is .dropObject →
    ∃ q, coopPlayer s a.player = some q ∧ q.heldObject = COOP_NO_ENTITY
  detach : a.kind = .is .detachMount →
    ∃ q, coopPlayer s a.player = some q ∧ q.mount = COOP_NO_ENTITY

section Sessions

variable {s t : CoopSession}

theorem Yielded.empty {before after : CoopEntityId} {told : CoopAction}
    (h : Yielded t before after told) (hempty : before = COOP_NO_ENTITY) :
    after = COOP_NO_ENTITY := by
  rcases h with h | ⟨h, -⟩
  · exact h.trans hempty
  · exact h

theorem Yields.settled {players : List CoopPlayer} {p r : CoopPlayer}
    (hr : findKey CoopPlayer.id p.id players = some r) (hy : Yields t p r) :
    settledPlayer players p = r :=
  settledPlayer_eq hr (hy.held.imp_right And.left) (hy.mount.imp_right And.left)

/-- What has been applied stays harmless, and what is new names a cleared record. -/
theorem HandsOver.spent (h : HandsOver s t) (hs : ∀ a ∈ s.actions, Spent s a) :
    ∀ a ∈ t.actions, Spent t a := by
  intro a ha
  have hcases : a.kind = .is .dropObject ∨ a.kind = .is .detachMount → Spent t a := by
    intro hkind
    rcases h.taken a ha hkind with hold | ⟨p, q, -, hq, hnew⟩
    · have hspent := hs a hold
      constructor
      · intro hk
        obtain ⟨p, hp, hempty⟩ := hspent.drop hk
        obtain ⟨q, hq, hy⟩ := h.player _ p hp
        exact ⟨q, hq, hy.held.empty hempty⟩
      · intro hk
        obtain ⟨p, hp, hempty⟩ := hspent.detach hk
        obtain ⟨q, hq, hy⟩ := h.player _ p hp
        exact ⟨q, hq, hy.mount.empty hempty⟩
    · rcases hnew with ⟨rfl, hempty⟩ | ⟨rfl, hempty⟩
      · exact ⟨fun _ => ⟨q, hq, hempty⟩, (fun hk => by cases hk)⟩
      · exact ⟨(fun hk => by cases hk), fun _ => ⟨q, hq, hempty⟩⟩
  exact ⟨fun hk => (hcases (Or.inl hk)).drop hk, fun hk => (hcases (Or.inr hk)).detach hk⟩

/-- A resolution takes everything from those who fall. -/
theorem Settles.handsOver (h : Settles s t) : HandsOver s t := by
  refine ⟨h.ids, fun id p hp => ?_, fun a ha hkind => (h.taken a ha hkind).imp_right ?_⟩
  · obtain ⟨q, hq, hfate⟩ := h.fate id p hp
    refine ⟨q, hq, ?_⟩
    cases hfate with
    | kept held mount => exact ⟨Or.inl held, Or.inl mount⟩
    | fell _ fallen told =>
        exact ⟨Or.inr ⟨fallen.held, fun hne hf => told hf _ (Or.inl ⟨hne, rfl⟩)⟩,
          Or.inr ⟨fallen.mount, fun hne hf => told hf _ (Or.inr ⟨hne, rfl⟩)⟩⟩
  · rintro ⟨p, q, hp, -, htakes, hq, hfallen⟩
    refine ⟨p, q, hp, hq, htakes.imp ?_ ?_⟩
    · exact fun h => ⟨h.2, hfallen.held⟩
    · exact fun h => ⟨h.2, hfallen.mount⟩

end Sessions

/-! ## Separation -/

/-- What the separation loop makes of a player: a bubble drops what it holds and keeps its mount. -/
structure Parted (t : CoopSession) (p q : CoopPlayer) : Prop where
  same : q.id = p.id
  mount : q.mount = p.mount
  held : Yielded t p.heldObject q.heldObject (dropOf p)

/-- The loop over `ps`: `t` are its emissions, `qs` the players. -/
structure Parts (s t : CoopSession) (ps qs : List CoopPlayer) : Prop where
  failed : s.failed = true → t.failed = true
  kept : ∀ a ∈ s.actions, a ∈ t.actions
  players : List.Forall₂ (Parted t) ps qs
  taken : ∀ a ∈ t.actions, a ∈ s.actions ∨
    ∃ p ∈ ps, ∃ q ∈ qs, a = dropOf p ∧ q.id = p.id ∧ q.heldObject = COOP_NO_ENTITY

/-- A player passed with its references as they are. -/
theorem Parts.pass {s t : CoopSession} {ps qs : List CoopPlayer} (h : Parts s t ps qs)
    {p q : CoopPlayer} (hid : q.id = p.id) (hmount : q.mount = p.mount)
    (hheld : q.heldObject = p.heldObject) : Parts s t (p :: ps) (q :: qs) := by
  refine ⟨h.failed, h.kept, .cons ⟨hid, hmount, Or.inl hheld⟩ h.players, fun a ha => ?_⟩
  refine (h.taken a ha).imp_right ?_
  rintro ⟨p', hp', q', hq', hnew⟩
  exact ⟨p', List.mem_cons_of_mem _ hp', q', List.mem_cons_of_mem _ hq', hnew⟩

/-- What `dropHeld` records. -/
theorem dropHeld_told (s : CoopSession) (p : CoopPlayer) :
    (s.failed = true → (dropHeld s p).failed = true) ∧
    (∀ a ∈ s.actions, a ∈ (dropHeld s p).actions) ∧
    (∀ a ∈ (dropHeld s p).actions, a ∈ s.actions ∨ a = dropOf p) ∧
    ((dropHeld s p).failed = false → p.heldObject ≠ COOP_NO_ENTITY →
      dropOf p ∈ (dropHeld s p).actions) := by
  unfold dropHeld
  split
  · obtain ⟨hf, ha⟩ := emit_kept (s := s) .dropObject p.id p.heldObject 0
    exact ⟨hf, ha, fun a h => emit_mem h, fun h _ => emit_told h⟩
  · rename_i heq
    exact ⟨fun h => h, fun _ h => h, fun _ h => Or.inl h, fun _ hne => absurd hne heq⟩

theorem separationLoop_parts (resized : Bool) :
    ∀ (ps : List CoopPlayer) (s : CoopSession) (active : Nat),
    Parts s (separationLoop resized s active ps).1 ps (separationLoop resized s active ps).2
  | [], s, active => ⟨id, fun _ h => h, .nil, fun _ h => Or.inl h⟩
  | p :: ps, s, active => by
    unfold separationLoop
    dsimp only
    split
    · exact (separationLoop_parts resized ps s active).pass rfl rfl rfl
    split
    · exact (separationLoop_parts resized ps s active).pass rfl rfl rfl
    split
    · exact (separationLoop_parts resized ps s active).pass rfl rfl rfl
    split
    · exact (separationLoop_parts resized ps s active).pass rfl rfl rfl
    · -- the bubble: its drop is recorded before the loop goes on
      obtain ⟨hfailed, hkept, hmem, htold⟩ := dropHeld_told s p
      have h := separationLoop_parts resized ps (dropHeld s p) (active - 1)
      refine ⟨fun hs => h.failed (hfailed hs), fun a ha => h.kept a (hkept a ha),
        .cons ⟨rfl, rfl, Or.inr ⟨rfl, fun hne hf => h.kept _ (htold ?_ hne)⟩⟩ h.players, fun a ha =>
        ?_⟩
      · cases hs : (dropHeld s p).failed with
        | false => rfl
        | true => rw [h.failed hs] at hf; cases hf
      · rcases h.taken a ha with hold | ⟨p', hp', q', hq', hnew⟩
        · refine (hmem a hold).imp_right fun heq => ?_
          exact ⟨p, List.mem_cons_self, _, List.mem_cons_self, heq, rfl, rfl⟩
        · exact Or.inr ⟨p', List.mem_cons_of_mem _ hp', q', List.mem_cons_of_mem _ hq', hnew⟩

theorem coopCameraCheckSeparation_handsOver {s : CoopSession}
    (hroster : (s.players.map CoopPlayer.id).Nodup)
    (resized : Bool) : HandsOver s (coopCameraCheckSeparation s resized).2 := by
  have hself : HandsOver s s := (Settles.refl s).handsOver
  unfold coopCameraCheckSeparation
  split
  · exact hself
  split
  · exact hself
  have h := separationLoop_parts resized s.players s (coopActiveCount s)
  dsimp only
  generalize separationLoop resized s (coopActiveCount s) s.players = r at h ⊢
  have hids : r.2.map CoopPlayer.id = s.players.map CoopPlayer.id := by
    have hmap : List.Forall₂ (fun p q : CoopPlayer => p.id = q.id) s.players r.2 :=
      h.players.imp fun p q hpq => hpq.same.symm
    rw [← List.forall₂_eq_eq_eq, List.forall₂_map_left_iff, List.forall₂_map_right_iff]
    exact hmap.flip.imp fun q p hqp => hqp.symm
  have hplayer : ∀ id p, coopPlayer s id = some p →
      ∃ q, findKey CoopPlayer.id id r.2 = some q ∧ Parted r.1 p q := fun id p hp =>
    findKey_forall₂ (fun _ _ hpq => hpq.same) h.players hp
  refine ⟨hids, fun id p hp => ?_, fun a ha hkind => (h.taken a ha).imp_right ?_⟩
  · obtain ⟨q, hq, hparted⟩ := hplayer id p hp
    exact ⟨q, hq, hparted.held, Or.inl hparted.mount⟩
  · rintro ⟨p, hp, q, hq, rfl, hid, hempty⟩
    refine ⟨p, q, findKey_of_mem hroster hp, ?_, Or.inl ⟨rfl, hempty⟩⟩
    show findKey CoopPlayer.id p.id r.2 = some q
    rw [← hid]
    exact findKey_of_mem (hids ▸ hroster) hq

theorem coopCameraCheckSeparation_success {s t : CoopSession} {resized : Bool}
    (h : coopCameraCheckSeparation s resized = (true, t)) : t.failed = false := by
  unfold coopCameraCheckSeparation at h
  split at h
  · cases h
  rename_i hfailed
  split at h
  · cases h
    simpa using hfailed
  · obtain ⟨hsuccess, hresult⟩ := Prod.mk.inj h
    rw [← hresult]
    simpa using hsuccess

/-! ## One replay -/

variable {κ : Type} {emu : Emulator κ} {m n : CoopMachine} {s : CoopSession} {st st' : Stage κ}

/-- From `m`, the session has become `s`, and `apply_object_drops` has run. -/
structure DropsPass (emu : Emulator κ) (m : CoopMachine) (s : CoopSession)
    (st st' : Stage κ) : Prop where
  tables : EntitiesValid m
  roster : (m.session.players.map CoopPlayer.id).Nodup
  actors : ActorsMatch m
  spent : ∀ a ∈ m.session.actions, Spent m.session a
  hands : HandsOver m.session s
  success : s.failed = false
  stage : st.machine = { m with session := s }
  guest : emu.KeepsOwnership
  runs : applyObjectDrops emu st = some st'

/-- Everything the session cleared between `m` and `n` has been released on the entity side, and an
entity is as it was or released, and then its owner has let go of it. -/
structure Resynced (m n : CoopMachine) : Prop where
  held : ∀ id p q, coopPlayer m.session id = some p → coopPlayer n.session id = some q →
    p.heldObject ≠ COOP_NO_ENTITY → q.heldObject = COOP_NO_ENTITY →
    ∃ e ∈ n.entities, e.id = p.heldObject ∧ e.owner = COOP_NO_PLAYER ∧ e.flags = 0
  mount : ∀ id p q, coopPlayer m.session id = some p → coopPlayer n.session id = some q →
    p.mount ≠ COOP_NO_ENTITY → q.mount = COOP_NO_ENTITY →
    ∃ e ∈ n.entities, e.id = p.mount ∧ e.owner = COOP_NO_PLAYER ∧ e.flags = 0
  entities : ∀ e ∈ m.entities, e ∈ n.entities ∨ e.released ∈ n.entities ∧
    ∀ q, coopPlayer n.session e.owner = some q → q.heldObject ≠ e.id ∧ q.mount ≠ e.id

/-- An identity below another one is not the reserved one. -/
theorem ne_noEntity_of_lt {x y : UInt32} (h : x < y) : x ≠ COOP_NO_ENTITY := by
  intro heq
  have hlt := UInt32.lt_iff_toNat_lt.1 h
  have hbound := y.toNat_lt
  rw [heq, show COOP_NO_ENTITY.toNat = 4294967295 from rfl] at hlt
  omega

theorem EntitiesValid.named (h : EntitiesValid m) : ∀ e ∈ m.entities, e.id ≠ COOP_NO_ENTITY :=
  fun e he => ne_noEntity_of_lt (h.entities e he).id.2

theorem ActorsMatch.actor (h : ActorsMatch m) {id : CoopPlayerId} {p : CoopPlayer}
    (hp : coopPlayer m.session id = some p) : (coopMachineActor m id).isSome := by
  have hmem : id ∈ m.actors.map CoopActor.player := by
    rw [h.mem_iff, ← coopPlayer_id hp]
    exact List.mem_map_of_mem (coopPlayer_mem hp)
  exact findKey_isSome.2 (List.mem_map.1 hmem)

theorem Spent.same {a : CoopAction} (h : Spent m.session a) (hsame : SameHoldings m n) :
    Spent n.session a := by
  constructor
  · intro hk
    obtain ⟨q, hq, hempty⟩ := h.drop hk
    obtain ⟨r, hr, hholding⟩ := hsame.player hq
    have hheld : r.heldObject = q.heldObject := congrArg Holding.heldObject hholding
    exact ⟨r, hr, hheld.trans hempty⟩
  · intro hk
    obtain ⟨q, hq, hempty⟩ := h.detach hk
    obtain ⟨r, hr, hholding⟩ := hsame.player hq
    have hmount : r.mount = q.mount := congrArg Holding.mount hholding
    exact ⟨r, hr, hmount.trans hempty⟩

theorem ActorsMatch.same (h : ActorsMatch m) (hactors : SameActors m n)
    (hroster : n.session.players.map CoopPlayer.id = m.session.players.map CoopPlayer.id) :
    ActorsMatch n := by
  have hkeys : ∀ k : CoopMachine, k.actors.map CoopActor.player =
      (k.actors.map CoopActor.belongings).map Belongings.player := fun k => by
    rw [List.map_map]; rfl
  unfold ActorsMatch
  rw [hkeys, hactors.actors, ← hkeys, hroster]
  exact h

/-- The tables stay in line while no ownership record differs. -/
theorem EntitiesValid.same (h : EntitiesValid m) (hnd : (m.session.players.map CoopPlayer.id).Nodup)
    (hsame : SameOwnership m n) : EntitiesValid n := by
  have hkept : ∀ p ∈ m.session.players, ∃ q, findKey CoopPlayer.id p.id n.session.players = some q ∧
      Yields n.session p q := by
    intro p hp
    obtain ⟨q, hq, hholding⟩ := hsame.toSameHoldings.player (findKey_of_mem hnd hp)
    exact ⟨q, hq, Or.inl (congrArg Holding.heldObject hholding),
      Or.inl (congrArg Holding.mount hholding)⟩
  have hplayers : n.session.players = m.session.players.map (settledPlayer n.session.players) := by
    refine players_settled hnd hsame.roster fun p hp => ?_
    obtain ⟨q, hq, hy⟩ := hkept p hp
    rw [hy.settled hq, hq]
    rfl
  refine (release_valid h (fun _ => False) hsame.toSameActors hsame.next hsame.sources hsame.eggs ?_
    (settledPlayer_clears _) hplayers (fun _ _ hf => hf.elim) fun e _ _ p hp => ?_).1
  · rw [hsame.entities]
    simp
  · obtain ⟨q, hq, hholding⟩ := hsame.toSameHoldings.player (findKey_of_mem hnd (coopPlayer_mem hp))
    have hheld : q.heldObject = p.heldObject := congrArg Holding.heldObject hholding
    have hmount : q.mount = p.mount := congrArg Holding.mount hholding
    rw [settledPlayer_eq hq (Or.inl hheld) (Or.inl hmount)]
    exact ⟨fun _ => hheld, fun _ => hmount⟩

namespace DropsPass

theorem spec (h : DropsPass emu m s st st') : SameHoldings { m with session := s } st'.machine ∧
    st'.machine.entities =
      m.entities.map (fun e => if ∃ a ∈ s.actions, Releases a e then e.released else e) := by
  have hspent := h.hands.spent h.spent
  have hdroppable : ∀ a ∈ st.machine.session.actions, Droppable st.machine a := by
    intro a ha
    rw [h.stage] at ha ⊢
    refine ⟨fun hk => ?_, fun hk q hq => ?_⟩
    · obtain ⟨q, hq, -⟩ := (hspent a ha).detach hk
      have hpresent : (coopPlayer m.session a.player).isSome := by
        unfold coopPlayer at hq ⊢
        rw [findKey_isSome_of_keys h.hands.ids.symm]
        exact Option.isSome_iff_exists.2 ⟨q, hq⟩
      obtain ⟨p, hp⟩ := Option.isSome_iff_exists.1 hpresent
      exact h.actors.actor hp
    · obtain ⟨q', hq', hempty⟩ := (hspent a ha).drop hk
      cases hq.symm.trans hq'
      exact hempty
  have hdrops := applyObjectDrops_entities h.guest (by rw [h.stage]; exact h.tables.ids)
    (by rw [h.stage]; exact h.tables.named) hdroppable h.runs
  rw [h.stage] at hdrops
  exact hdrops

/-- A player's references after the pass. -/
theorem player (h : DropsPass emu m s st st') {id : CoopPlayerId} {p : CoopPlayer}
    (hp : coopPlayer m.session id = some p) :
    ∃ r, coopPlayer st'.machine.session id = some r ∧ Yields s p r := by
  obtain ⟨q, hq, hy⟩ := h.hands.player id p hp
  obtain ⟨r, hr, hholding⟩ := h.spec.1.player hq
  have hheld : r.heldObject = q.heldObject := congrArg Holding.heldObject hholding
  have hmount : r.mount = q.mount := congrArg Holding.mount hholding
  refine ⟨r, hr, ?_, ?_⟩
  · rw [hheld]; exact hy.held
  · rw [hmount]; exact hy.mount

theorem spent_after (h : DropsPass emu m s st st') : ∀ a ∈ s.actions, Spent st'.machine.session a :=
  fun a ha => (h.hands.spent h.spent a ha).same h.spec.1

/-- A released entity: its owner has let go of it, and has nothing else under its identity. -/
theorem released (h : DropsPass emu m s st st') {e : CoopEntity}
    (hr : ∃ a ∈ s.actions, Releases a e) {r : CoopPlayer}
    (hfound : coopPlayer st'.machine.session e.owner = some r) :
    (e.flags = COOP_ENTITY_HELD → r.heldObject = COOP_NO_ENTITY) ∧
    (e.flags = COOP_ENTITY_RIDDEN → r.mount = COOP_NO_ENTITY) := by
  obtain ⟨a, ha, -, howner, hkind⟩ := hr
  have hspent := h.spent_after a ha
  rw [howner] at hfound
  rcases hkind with ⟨hk, hf⟩ | ⟨hk, hf⟩
  · obtain ⟨q, hq, hempty⟩ := hspent.detach hk
    cases hfound.symm.trans hq
    exact ⟨fun hf' => absurd (hf.symm.trans hf') (by decide), fun _ => hempty⟩
  · obtain ⟨q, hq, hempty⟩ := hspent.drop hk
    cases hfound.symm.trans hq
    exact ⟨fun _ => hempty, fun hf' => absurd (hf.symm.trans hf') (by decide)⟩

/-- What the host is told of a cleared reference releases the entity. -/
theorem told (h : DropsPass emu m s st st') {p r : CoopPlayer} (hy : Yields s p r) :
    (p.heldObject ≠ COOP_NO_ENTITY → r.heldObject = COOP_NO_ENTITY →
      ∃ a ∈ s.actions, ∀ e : CoopEntity, e.id = p.heldObject → e.owner = p.id →
        e.flags = COOP_ENTITY_HELD → Releases a e) ∧
    (p.mount ≠ COOP_NO_ENTITY → r.mount = COOP_NO_ENTITY →
      ∃ a ∈ s.actions, ∀ e : CoopEntity, e.id = p.mount → e.owner = p.id →
        e.flags = COOP_ENTITY_RIDDEN → Releases a e) := by
  constructor
  · intro hne hempty
    rcases hy.held with hkept | ⟨-, htold⟩
    · exact absurd (hkept.symm.trans hempty) hne
    · exact ⟨dropOf p, htold hne h.success, fun e hid howner hf => ⟨hid, howner, Or.inr ⟨rfl, hf⟩⟩⟩
  · intro hne hempty
    rcases hy.mount with hkept | ⟨-, htold⟩
    · exact absurd (hkept.symm.trans hempty) hne
    · exact ⟨detachOf p, htold hne h.success, fun e hid howner hf =>
        ⟨hid, howner, Or.inl ⟨rfl, hf⟩⟩⟩

theorem sameActors (h : DropsPass emu m s st st') : SameActors m st'.machine :=
  ⟨h.spec.1.actors, h.spec.1.fireballs, h.spec.1.level⟩

theorem roster_after (h : DropsPass emu m s st st') :
    st'.machine.session.players.map CoopPlayer.id = m.session.players.map CoopPlayer.id :=
  h.spec.1.roster.trans h.hands.ids

theorem valid (h : DropsPass emu m s st st') : EntitiesValid st'.machine := by
  have hfound : ∀ p ∈ m.session.players, coopPlayer m.session p.id = some p := fun p hp =>
    findKey_of_mem h.roster hp
  have hplayers : st'.machine.session.players =
      m.session.players.map (settledPlayer st'.machine.session.players) := by
    refine players_settled h.roster h.roster_after fun p hp => ?_
    obtain ⟨r, hr, hy⟩ := h.player (hfound p hp)
    exact (hy.settled hr).trans (congrArg (Option.getD · p) hr).symm
  refine (release_valid h.tables (fun e => ∃ a ∈ s.actions, Releases a e) h.sameActors h.spec.1.next
    h.spec.1.sources h.spec.1.eggs h.spec.2 (settledPlayer_clears _) hplayers ?_ ?_).1
  · intro e he hr
    have hflags : e.flags ≠ 0 := by
      obtain ⟨a, -, -, -, ⟨-, hf⟩ | ⟨-, hf⟩⟩ := hr <;> rw [hf] <;> decide
    refine ⟨hflags, fun p hp howner => ?_⟩
    obtain ⟨r, hfind, hy⟩ := h.player (hfound p hp)
    rw [hy.settled hfind]
    rw [← howner] at hfind
    obtain ⟨hheld, hridden⟩ := h.released hr hfind
    exact ⟨fun hf _ => hheld hf, fun hf _ => hridden hf⟩
  · intro e he hkept p hp
    have hid := coopPlayer_id hp
    have hentity := h.tables.entities e he
    have hnamed := h.tables.named e he
    obtain ⟨r, hfind, hy⟩ := h.player (hfound p (coopPlayer_mem hp))
    obtain ⟨hheld, hridden⟩ := h.told hy
    rw [hy.settled hfind]
    -- a reference that was cleared would have released the entity
    constructor
    · intro hf
      have hp' := hentity.held hf p hp
      rcases hy.held with hsame | ⟨hempty, -⟩
      · exact hsame
      · obtain ⟨a, ha, hreleases⟩ := hheld (hp' ▸ hnamed) hempty
        exact absurd ⟨a, ha, hreleases e hp'.symm hid.symm hf⟩ hkept
    · intro hf
      have hp' := hentity.ridden hf p hp
      rcases hy.mount with hsame | ⟨hempty, -⟩
      · exact hsame
      · obtain ⟨a, ha, hreleases⟩ := hridden (hp' ▸ hnamed) hempty
        exact absurd ⟨a, ha, hreleases e hp'.symm hid.symm hf⟩ hkept

/-- An entity the actions name is in the table, released. -/
theorem mem_released (h : DropsPass emu m s st st') {e : CoopEntity} (he : e ∈ m.entities)
    (hr : ∃ a ∈ s.actions, Releases a e) : e.released ∈ st'.machine.entities := by
  rw [h.spec.2]
  exact List.mem_map.2 ⟨e, he, if_pos hr⟩

theorem resynced (h : DropsPass emu m s st st') : Resynced m st'.machine := by
  have hyields : ∀ {id : CoopPlayerId} {p r : CoopPlayer}, coopPlayer m.session id = some p →
      coopPlayer st'.machine.session id = some r → Yields s p r := by
    intro id p r hp hr
    obtain ⟨r', hr', hy⟩ := h.player hp
    cases hr.symm.trans hr'
    exact hy
  refine ⟨fun id p q hp hq hne hempty => ?_, fun id p q hp hq hne hempty => ?_, fun e he => ?_⟩
  · obtain ⟨a, ha, hreleases⟩ := (h.told (hyields hp hq)).1 hne hempty
    obtain ⟨e, he, howner, hid, hf⟩ := (h.tables.players p (coopPlayer_mem hp)).held hne
    exact ⟨e.released, h.mem_released he ⟨a, ha, hreleases e hid howner hf⟩, hid, rfl, rfl⟩
  · obtain ⟨a, ha, hreleases⟩ := (h.told (hyields hp hq)).2 hne hempty
    obtain ⟨e, he, howner, hid, hf⟩ := (h.tables.players p (coopPlayer_mem hp)).mount hne
    exact ⟨e.released, h.mem_released he ⟨a, ha, hreleases e hid howner hf⟩, hid, rfl, rfl⟩
  · by_cases hr : ∃ a ∈ s.actions, Releases a e
    · refine Or.inr ⟨h.mem_released he hr, fun q hq => ?_⟩
      have hnamed := h.tables.named e he
      -- what the tables say the owner holds or rides under this identity is this entity
      have howned := h.valid.players q (coopPlayer_mem hq)
      have hback : ∀ f ∈ st'.machine.entities, f.id = e.id → f = e.released := fun f hf hid =>
        List.inj_on_of_nodup_map h.valid.ids hf (h.mem_released he hr) hid
      constructor
      · intro heq
        obtain ⟨f, hf, -, hid, hflags⟩ := howned.held (heq ▸ hnamed)
        rw [hback f hf (hid.trans heq)] at hflags
        exact absurd hflags (by show (0 : UInt32) ≠ 1; decide)
      · intro heq
        obtain ⟨f, hf, -, hid, hflags⟩ := howned.mount (heq ▸ hnamed)
        rw [hback f hf (hid.trans heq)] at hflags
        exact absurd hflags (by show (0 : UInt32) ≠ 2; decide)
    · left
      rw [h.spec.2]
      exact List.mem_map.2 ⟨e, he, if_neg hr⟩

end DropsPass

/-! ## Both replays of a frame -/

/-- **Ownership is back in line twice a frame.**  From valid tables and an action list without
pending drops: after the resolution and the object drops, and, whatever the host does in between
that leaves ownership alone, again after the separation check and the second replay of the same
list, the tables are valid, what the session cleared is released, and nothing is released that its
owner still has. -/
theorem ownership_resyncs {s₁ s₂ : CoopSession} {st₀ st₁ st₂ st₃ : Stage κ} {resized : Bool}
    (htables : entitiesValid m = true) (hroster : (m.session.players.map CoopPlayer.id).Nodup)
    (hactors : ActorsMatch m) (hspent : ∀ a ∈ m.session.actions, Spent m.session a)
    (hguest : emu.KeepsOwnership) (hresolve : coopSessionResolve m.session = (true, s₁))
    (hstage : st₀.machine = { m with session := s₁ }) (hdrops : applyObjectDrops emu st₀ = some st₁)
    (hbetween : SameOwnership st₁.machine n)
    (hseparation : coopCameraCheckSeparation n.session resized = (true, s₂))
    (hstage' : st₂.machine = { n with session := s₂ })
    (hdrops' : applyObjectDrops emu st₂ = some st₃) :
    (entitiesValid st₁.machine = true ∧ Resynced m st₁.machine) ∧
      entitiesValid st₃.machine = true ∧ Resynced n st₃.machine := by
  have hsettles := coopSessionResolve_settles m.session
  rw [hresolve] at hsettles
  have hfirst : DropsPass emu m s₁ st₀ st₁ :=
    ⟨entitiesValid_iff.1 htables, hroster, hactors, hspent, hsettles.handsOver,
      coopSessionResolve_success hresolve, hstage, hguest, hdrops⟩
  have hids : n.session.players.map CoopPlayer.id = m.session.players.map CoopPlayer.id :=
    hbetween.roster.trans hfirst.roster_after
  have hroster₁ : (st₁.machine.session.players.map CoopPlayer.id).Nodup := by
    rw [hfirst.roster_after]
    exact hroster
  have hroster' : (n.session.players.map CoopPlayer.id).Nodup := by
    rw [hids]
    exact hroster
  have hspent' : ∀ a ∈ n.session.actions, Spent n.session a := by
    intro a ha
    rw [hbetween.actions, hfirst.spec.1.actions] at ha
    exact (hfirst.spent_after a ha).same hbetween.toSameHoldings
  have hhands := coopCameraCheckSeparation_handsOver hroster' resized
  rw [hseparation] at hhands
  have hsecond : DropsPass emu n s₂ st₂ st₃ :=
    ⟨hfirst.valid.same hroster₁ hbetween, hroster',
      hactors.same (hfirst.sameActors.trans hbetween.toSameActors) hids, hspent', hhands,
      coopCameraCheckSeparation_success hseparation, hstage', hguest, hdrops'⟩
  exact ⟨⟨entitiesValid_iff.2 hfirst.valid, hfirst.resynced⟩, entitiesValid_iff.2 hsecond.valid,
    hsecond.resynced⟩

/-! ## A frame of three -/

/-- Of three players the second, riding entity 1, is killed this frame; the third, holding entity 2,
has been out of the frame for almost a second. -/
def crewMachine : CoopMachine :=
  let crew := [initPlayer 0, { initPlayer 1 with mount := 1 },
    { initPlayer 2 with heldObject := 2, x := 1000, separationTicks := 59 }]
  { freshMachine pairSession (crew.mapIdx initActor) with
    session := { pairSession with
      players := crew
      advancing := true
      events := [⟨.is .death, 1, COOP_NO_ENTITY, 0, COOP_EVENT_LETHAL, 0⟩] }
    entities := [
      { spawnedEntity 1 COOP_ENTITY_NORMAL 4 0x35 with owner := 1, flags := COOP_ENTITY_RIDDEN },
      { spawnedEntity 2 COOP_ENTITY_NORMAL 5 0x0d with owner := 2, flags := COOP_ENTITY_HELD }]
    nextEntity := 3 }

def separatedStage (resized : Bool) (st : Stage Unit) : Stage Unit :=
  { st with machine := { st.machine with
      session := (coopCameraCheckSeparation st.machine.session resized).2 } }

theorem crewMachine_runs :
    ∃ st, applyObjectDrops idleEmulator (resolvedStage crewMachine) = some st ∧
    (coopCameraCheckSeparation st.machine.session false).1 = true ∧
    ∃ st', applyObjectDrops idleEmulator (separatedStage false st) = some st' ∧
      st'.machine.entities.map CoopEntity.owner = [COOP_NO_PLAYER, COOP_NO_PLAYER] := by
  obtain ⟨st, hst⟩ : ∃ st, applyObjectDrops idleEmulator (resolvedStage crewMachine) = some st :=
    Option.isSome_iff_exists.1 (by decide)
  have hends : ((applyObjectDrops idleEmulator (resolvedStage crewMachine)).map fun st =>
      ((coopCameraCheckSeparation st.machine.session false).1,
        (applyObjectDrops idleEmulator (separatedStage false st)).map fun st =>
          st.machine.entities.map CoopEntity.owner)) =
      some (true, some [COOP_NO_PLAYER, COOP_NO_PLAYER]) := by decide
  rw [hst, Option.map_some, Option.some.injEq, Prod.mk.injEq] at hends
  obtain ⟨st', hst', howners⟩ := Option.map_eq_some_iff.1 hends.2
  exact ⟨st, hst, hends.1, st', hst', howners⟩

theorem ownership_resyncs_crew : ∃ st st' : Stage Unit,
    (entitiesValid st.machine = true ∧ Resynced crewMachine st.machine) ∧
    entitiesValid st'.machine = true ∧ Resynced st.machine st'.machine ∧
    st'.machine.entities.map CoopEntity.owner = [COOP_NO_PLAYER, COOP_NO_PLAYER] := by
  obtain ⟨st, hst, hseparation, st', hst', howners⟩ := crewMachine_runs
  obtain ⟨hresolved, hseparated, hresynced⟩ :=
    ownership_resyncs (m := crewMachine) (n := st.machine)
    (by decide) (by decide) (List.Perm.refl _) (fun a ha => nomatch ha) idleEmulator_keeps
    (Prod.ext_iff.2 ⟨by decide, rfl⟩) (show (resolvedStage crewMachine).machine = _ from rfl) hst
    (SameOwnership.refl st.machine) (Prod.ext_iff.2 ⟨hseparation, rfl⟩)
    (show (separatedStage false st).machine = _ from rfl) hst'
  exact ⟨st, st', hresolved, hseparated, hresynced, howners⟩

end SmwRecomp.Coop
