import SmwRecomp.Coop.Lives

/-!
# What a resolution takes away

Ownership over one `coop_session_resolve`: a player keeps what it owns, or falls out of play and
loses everything, and then the action list tells the host about each thing lost.

* `Fallen`, `Takes` — a player that lost everything, the actions that say so.
* `Fate`, `Settles` — what becomes of each player; `Settles` composes.
* `coopSessionResolve_settles` — a resolution settles.
-/

set_option autoImplicit false

namespace SmwRecomp.Coop

/-! ## Fates -/

/-- Out of play and owning nothing. -/
structure Fallen (q : CoopPlayer) : Prop where
  life : q.life ≠ .is .playing
  held : q.heldObject = COOP_NO_ENTITY
  mount : q.mount = COOP_NO_ENTITY

/-- The actions that tell the host to take from `p` what it owns. -/
def Takes (p : CoopPlayer) (a : CoopAction) : Prop :=
  p.heldObject ≠ COOP_NO_ENTITY ∧ a = ⟨.is .dropObject, p.id, p.heldObject, 0⟩ ∨
  p.mount ≠ COOP_NO_ENTITY ∧ a = ⟨.is .detachMount, p.id, p.mount, 0⟩

theorem Takes.player {p : CoopPlayer} {a : CoopAction} (h : Takes p a) : a.player = p.id := by
  rcases h with ⟨-, rfl⟩ | ⟨-, rfl⟩ <;> rfl

/-- What has become of `p` in session `t`. -/
inductive Fate (t : CoopSession) (p q : CoopPlayer) : Prop where
  | kept (held : q.heldObject = p.heldObject) (mount : q.mount = p.mount)
      (life : q.life = .is .playing ↔ p.life = .is .playing)
  | fell (life : p.life = .is .playing) (fallen : Fallen q)
      (told : t.failed = false → ∀ a, Takes p a → a ∈ t.actions)

/-- An action of `t` that takes something from a player of `s` takes it from a fallen one. -/
def Accounted (s t : CoopSession) (a : CoopAction) : Prop :=
  ∃ p q, coopPlayer s a.player = some p ∧ p.life = .is .playing ∧ Takes p a ∧
    coopPlayer t a.player = some q ∧ Fallen q

structure Settles (s t : CoopSession) : Prop where
  ids : t.players.map CoopPlayer.id = s.players.map CoopPlayer.id
  failed : s.failed = true → t.failed = true
  actions : ∀ a ∈ s.actions, a ∈ t.actions
  fate : ∀ id p, coopPlayer s id = some p → ∃ q, coopPlayer t id = some q ∧ Fate t p q
  taken : ∀ a ∈ t.actions, a.kind = .is .dropObject ∨ a.kind = .is .detachMount →
    a ∈ s.actions ∨ Accounted s t a

theorem Settles.refl (s : CoopSession) : Settles s s :=
  ⟨rfl, id, fun _ h => h, fun _ p hp => ⟨p, hp, .kept rfl rfl Iff.rfl⟩, fun _ h _ => Or.inl h⟩

theorem Fallen.fate {t : CoopSession} {q r : CoopPlayer} (h : Fallen q) (hr : Fate t q r) :
    Fallen r := by
  cases hr with
  | kept held mount life =>
      exact ⟨fun hl => h.life (life.1 hl), held.trans h.held, mount.trans h.mount⟩
  | fell life => exact absurd life h.life

theorem Settles.trans {s t u : CoopSession} (h : Settles s t) (h' : Settles t u) : Settles s u := by
  have hfailed : u.failed = false → t.failed = false := fun hu => by
    cases ht : t.failed with
    | false => rfl
    | true => rw [h'.failed ht] at hu; exact hu
  refine ⟨h'.ids.trans h.ids, fun hs => h'.failed (h.failed hs),
    fun a ha => h'.actions a (h.actions a ha), fun id p hp => ?_, fun a ha hkind => ?_⟩
  · obtain ⟨q, hq, hpq⟩ := h.fate id p hp
    obtain ⟨r, hr, hqr⟩ := h'.fate id q hq
    refine ⟨r, hr, ?_⟩
    cases hpq with
    | kept held mount life =>
        cases hqr with
        | kept held' mount' life' =>
            exact .kept (held'.trans held) (mount'.trans mount) (life'.trans life)
        | fell life' fallen told =>
            refine .fell (life.1 life') fallen fun hu a ha => told hu a ?_
            have hid : q.id = p.id := (findKey_some hq).2.trans (findKey_some hp).2.symm
            unfold Takes
            rw [held, mount, hid]
            exact ha
    | fell life fallen told =>
        exact .fell life (fallen.fate hqr) fun hu a ha => h'.actions a (told (hfailed hu) a ha)
  · rcases h'.taken a ha hkind with hat | ⟨q, r, hq, hlife, htakes, hr, hfallen⟩
    · rcases h.taken a hat hkind with has | ⟨p, q, hp, hlife, htakes, hq, hfallen⟩
      · exact Or.inl has
      · obtain ⟨r, hr, hqr⟩ := h'.fate a.player q hq
        exact Or.inr ⟨p, r, hp, hlife, htakes, hr, hfallen.fate hqr⟩
    · have hpresent : (coopPlayer s a.player).isSome := by
        unfold coopPlayer
        rw [findKey_isSome_of_keys h.ids.symm]
        exact Option.isSome_iff_exists.2 ⟨q, hq⟩
      obtain ⟨p, hp⟩ := Option.isSome_iff_exists.1 hpresent
      obtain ⟨q', hq', hpq⟩ := h.fate a.player p hp
      cases hq.symm.trans hq'
      cases hpq with
      | kept held mount life =>
          refine Or.inr ⟨p, r, hp, life.1 hlife, ?_, hr, hfallen⟩
          have hid : q.id = p.id := (findKey_some hq).2.trans (findKey_some hp).2.symm
          unfold Takes at htakes ⊢
          rw [held, mount, hid] at htakes
          exact htakes
      | fell _ fallen _ => exact absurd hlife fallen.life

/-! ## Building blocks -/

section Blocks

variable {s : CoopSession}

/-- A change of the players that keeps lives and ownership. -/
theorem settles_players {t : CoopSession} (hactions : t.actions = s.actions)
    (hfailed : t.failed = s.failed)
    (hids : t.players.map CoopPlayer.id = s.players.map CoopPlayer.id)
    (h : ∀ id p, coopPlayer s id = some p → ∃ q, coopPlayer t id = some q ∧
      q.heldObject = p.heldObject ∧ q.mount = p.mount ∧
      (q.life = .is .playing ↔ p.life = .is .playing)) : Settles s t := by
  refine ⟨hids, fun hs => hfailed.trans hs, fun a ha => hactions ▸ ha, fun id p hp => ?_,
    fun a ha _ => Or.inl (hactions ▸ ha)⟩
  obtain ⟨q, hq, held, mount, life⟩ := h id p hp
  exact ⟨q, hq, .kept held mount life⟩

/-- Changes outside players, actions and the failure flag. -/
theorem settles_of_eq {t : CoopSession} (hplayers : t.players = s.players)
    (hactions : t.actions = s.actions) (hfailed : t.failed = s.failed) : Settles s t :=
  settles_players hactions hfailed (by rw [hplayers]) fun id p hp =>
    ⟨p, by unfold coopPlayer; rw [hplayers]; exact hp, rfl, rfl, Iff.rfl⟩

theorem settles_putPlayer {id : CoopPlayerId} {p q : CoopPlayer} (hp : coopPlayer s id = some p)
    (hid : q.id = p.id) (held : q.heldObject = p.heldObject) (mount : q.mount = p.mount)
    (life : q.life = .is .playing ↔ p.life = .is .playing) : Settles s (putPlayer s q) := by
  refine settles_players rfl rfl (putPlayer_ids q) fun id' p' hp' => ?_
  rw [coopPlayer_putPlayer]
  split
  · rename_i heq
    have hsame : p' = p := by
      rw [heq, hid, coopPlayer_id hp] at hp'
      exact Option.some.inj (hp'.symm.trans hp)
    rw [hp', hsame]
    exact ⟨q, rfl, held, mount, life⟩
  · exact ⟨p', hp', rfl, rfl, Iff.rfl⟩

theorem emit_kept (kind : CoopActionKind) (player : CoopPlayerId) (entity : CoopEntityId)
    (value : UInt32) : (s.failed = true → (emit s kind player entity value).failed = true) ∧
    ∀ a ∈ s.actions, a ∈ (emit s kind player entity value).actions := by
  rcases emit_recorded s kind player entity value with ⟨hf, ha⟩ | ⟨hf, ha⟩
  · exact ⟨fun _ => hf, fun a h => ha ▸ h⟩
  · exact ⟨fun hs => hf.trans hs, fun a h => by rw [ha]; exact List.mem_append_left _ h⟩

theorem emit_mem {kind : CoopActionKind} {player : CoopPlayerId} {entity : CoopEntityId}
    {value : UInt32} {a : CoopAction} (h : a ∈ (emit s kind player entity value).actions) :
    a ∈ s.actions ∨ a = ⟨.is kind, player, entity, value⟩ := by
  rcases emit_recorded s kind player entity value with ⟨-, ha⟩ | ⟨-, ha⟩ <;> rw [ha] at h
  · exact Or.inl h
  · exact (List.mem_append.1 h).imp_right List.mem_singleton.1

theorem settles_emit (kind : CoopActionKind) (player : CoopPlayerId) (entity : CoopEntityId)
    (value : UInt32) (hdrop : kind ≠ .dropObject) (hdetach : kind ≠ .detachMount) :
    Settles s (emit s kind player entity value) := by
  obtain ⟨hfailed, hactions⟩ := emit_kept (s := s) kind player entity value
  refine ⟨by rw [emit_players], hfailed, hactions,
    fun id p hp => ⟨p, by rw [coopPlayer_emit]; exact hp, .kept rfl rfl Iff.rfl⟩, fun a ha hkind =>
    ?_⟩
  rcases emit_mem ha with ha | rfl
  · exact Or.inl ha
  · rcases hkind with hk | hk <;> cases hk
    · exact absurd rfl hdrop
    · exact absurd rfl hdetach

theorem emit_told {kind : CoopActionKind} {player : CoopPlayerId} {entity : CoopEntityId}
    {value : UInt32} (h : (emit s kind player entity value).failed = false) :
    ⟨.is kind, player, entity, value⟩ ∈ (emit s kind player entity value).actions := by
  rcases emit_recorded s kind player entity value with ⟨hf, -⟩ | ⟨-, ha⟩
  · rw [hf] at h; cases h
  · rw [ha]; exact List.mem_append_right _ (List.mem_singleton.2 rfl)

/-- The two conditional emissions of `die`: what they record is what `Takes` asks for. -/
theorem release_emissions (s : CoopSession) (p : CoopPlayer) :
    (s.failed = true → (detachMount (dropHeld s p) p).failed = true) ∧
    (∀ a ∈ s.actions, a ∈ (detachMount (dropHeld s p) p).actions) ∧
    (∀ a ∈ (detachMount (dropHeld s p) p).actions, a ∈ s.actions ∨ Takes p a) ∧
    ((detachMount (dropHeld s p) p).failed = false →
      ∀ a, Takes p a → a ∈ (detachMount (dropHeld s p) p).actions) := by
  have hdrop : (s.failed = true → (dropHeld s p).failed = true) ∧
      (∀ a ∈ s.actions, a ∈ (dropHeld s p).actions) ∧
      (∀ a ∈ (dropHeld s p).actions, a ∈ s.actions ∨
        p.heldObject ≠ COOP_NO_ENTITY ∧ a = ⟨.is .dropObject, p.id, p.heldObject, 0⟩) ∧
      ((dropHeld s p).failed = false → p.heldObject ≠ COOP_NO_ENTITY →
        ⟨.is .dropObject, p.id, p.heldObject, 0⟩ ∈ (dropHeld s p).actions) := by
    unfold dropHeld
    split
    · rename_i hne
      obtain ⟨hf, ha⟩ := emit_kept (s := s) .dropObject p.id p.heldObject 0
      exact ⟨hf, ha, fun a h => (emit_mem h).imp_right fun h => ⟨hne, h⟩, fun h _ => emit_told h⟩
    · rename_i heq
      exact ⟨fun h => h, fun _ h => h, fun _ h => Or.inl h, fun _ hne => absurd hne heq⟩
  obtain ⟨hf₁, ha₁, hmem₁, htold₁⟩ := hdrop
  generalize dropHeld s p = s₁ at hf₁ ha₁ hmem₁ htold₁ ⊢
  unfold detachMount
  split
  · rename_i hne
    obtain ⟨hf, ha⟩ := emit_kept (s := s₁) .detachMount p.id p.mount 0
    refine ⟨fun h => hf (hf₁ h), fun a h => ha a (ha₁ a h), fun a h => ?_, fun h a htakes => ?_⟩
    · rcases emit_mem h with h | h
      · exact (hmem₁ a h).imp_right Or.inl
      · exact Or.inr (Or.inr ⟨hne, h⟩)
    · have hs₁ : s₁.failed = false := by
        cases hc : s₁.failed with
        | false => rfl
        | true => rw [hf hc] at h; exact h
      rcases htakes with ⟨hheld, rfl⟩ | ⟨-, rfl⟩
      · exact ha _ (htold₁ hs₁ hheld)
      · exact emit_told h
  · rename_i heq
    refine ⟨hf₁, ha₁, fun a h => (hmem₁ a h).imp_right Or.inl, fun h a htakes => ?_⟩
    rcases htakes with ⟨hheld, rfl⟩ | ⟨hne, -⟩
    · exact htold₁ h hheld
    · exact absurd hne heq

theorem deadPlayer_fallen (p : CoopPlayer) : Fallen (deadPlayer p) :=
  ⟨(fun h => nomatch h), rfl, rfl⟩

theorem settles_die {id : CoopPlayerId} {p : CoopPlayer} (hp : coopPlayer s id = some p) :
    Settles s (die s p) := by
  unfold die
  split
  · exact Settles.refl s
  rename_i hlife
  rw [not_ne_iff] at hlife
  obtain ⟨hfailed, hactions, hmem, htold⟩ := release_emissions s p
  have hplayers : (detachMount (dropHeld s p) p).players = s.players := by
    unfold detachMount dropHeld
    split <;> split <;> simp
  generalize detachMount (dropHeld s p) p = s₂ at hfailed hactions hmem htold hplayers ⊢
  obtain ⟨hf, ha⟩ := emit_kept (s := putPlayer s₂ (deadPlayer p)) .death p.id COOP_NO_ENTITY 0
  have hput : ∀ id',
    coopPlayer (emit (putPlayer s₂ (deadPlayer p)) .death p.id COOP_NO_ENTITY 0) id' =
      if id' = p.id then (coopPlayer s id').map (fun _ => deadPlayer p) else coopPlayer s id' := by
    intro id'
    rw [coopPlayer_emit, coopPlayer_putPlayer]
    unfold coopPlayer
    rw [hplayers]
    rfl
  have hself : coopPlayer s p.id = some p := by rw [coopPlayer_id hp]; exact hp
  refine ⟨by rw [emit_players, putPlayer_ids, hplayers], fun h => hf (hfailed h),
    fun a h => ha a (hactions a h), fun id' p' hp' => ?_, fun a h hkind => ?_⟩
  · rw [hput, hp']
    split
    · rename_i heq
      rw [heq, hself] at hp'
      cases hp'
      refine ⟨deadPlayer p, rfl, .fell hlife (deadPlayer_fallen p) fun h a htakes =>
        ha a (htold ?_ a htakes)⟩
      cases hc : s₂.failed with
      | false => rfl
      | true => rw [hf hc] at h; exact h
    · exact ⟨p', rfl, .kept rfl rfl Iff.rfl⟩
  · rcases emit_mem h with h | rfl
    · refine (hmem a h).imp_right fun htakes =>
        ⟨p, deadPlayer p, ?_, hlife, htakes, ?_, deadPlayer_fallen p⟩
      · rw [htakes.player]; exact hself
      · rw [hput, if_pos htakes.player, htakes.player, hself]; rfl
    · rcases hkind with hk | hk <;> cases hk

end Blocks

/-! ## The passes -/

section Passes

variable {s : CoopSession}

theorem settles_lethalStep (e : CoopEvent) : Settles s (lethalStep s e) := by
  unfold lethalStep
  split
  · exact Settles.refl s
  · rename_i p hp
    split
    · exact settles_die hp
    · exact Settles.refl s

theorem settles_lethalPass (es : List CoopEvent) : ∀ s : CoopSession,
    Settles s (es.foldl lethalStep s) := by
  induction es with
  | nil => exact Settles.refl
  | cons e es ih => exact fun s => (settles_lethalStep e).trans (ih (lethalStep s e))

theorem settles_contestStep (e : CoopEvent) (g : Contest) (v : CoopEvent) :
    Settles g.session (contestStep e g v).session := by
  have hcontend : (g.contend v).session = g.session := by unfold Contest.contend; split <;> rfl
  unfold contestStep
  split
  · exact Settles.refl _
  split
  · exact Settles.refl _
  unfold Contest.bounce
  split
  · rw [hcontend]
    exact settles_emit _ _ _ _ (by decide) (by decide)
  · rw [hcontend]
    exact Settles.refl _

theorem settles_contest (e : CoopEvent) (group : List CoopEvent) :
    Settles s (contest s e group) := by
  have hfold : ∀ (group : List CoopEvent) (g : Contest),
      Settles g.session (group.foldl (contestStep e) g).session := by
    intro group
    induction group with
    | nil => exact fun g => Settles.refl _
    | cons v group ih => exact fun g => (settles_contestStep e g v).trans (ih _)
  have hgroup := hfold group ⟨none, COOP_NO_PLAYER, s⟩
  unfold contest
  dsimp only
  split
  · exact hgroup
  · refine hgroup.trans (settles_emit _ _ _ _ ?_ ?_) <;> split <;> decide

theorem settles_damageStep (e : CoopEvent) {id : CoopPlayerId} {p : CoopPlayer}
    (hp : coopPlayer s id = some p) : Settles s (damageStep s e p) := by
  unfold damageStep
  split
  · exact Settles.refl s
  split
  · exact Settles.refl s
  have hreserve : Settles s (dropReserve s p) := by
    unfold dropReserve
    split
    · exact settles_emit _ _ _ _ (by decide) (by decide)
    · exact Settles.refl s
  have hfound : coopPlayer (dropReserve s p) id = some p := by
    unfold dropReserve
    split
    · rw [coopPlayer_emit]; exact hp
    · exact hp
  have hput := settles_putPlayer (q := damagedPlayer s p) hfound rfl rfl rfl Iff.rfl
  exact (hreserve.trans hput).trans (settles_emit .damage _ _ _ (by decide) (by decide))

theorem settles_deathFinishedStep {id : CoopPlayerId} {p : CoopPlayer}
    (hp : coopPlayer s id = some p) : Settles s (deathFinishedStep s p) := by
  unfold deathFinishedStep
  split
  · rename_i hdying
    refine settles_putPlayer hp rfl rfl rfl ⟨(fun h => nomatch h), fun h => ?_⟩
    rw [hdying] at h
    cases h
  · exact Settles.refl s

theorem settles_checkpointStep (e : CoopEvent) : Settles s (checkpointStep s e) := by
  have hmap : Settles s
    { s with checkpoint := e.value, players := s.players.map checkpointPlayer } := by
    refine settles_players rfl rfl ?_ fun id p hp => ?_
    · show (s.players.map checkpointPlayer).map CoopPlayer.id = _
      rw [List.map_map]
      rfl
    · refine ⟨checkpointPlayer p, ?_, rfl, rfl, Iff.rfl⟩
      show findKey CoopPlayer.id id (s.players.map checkpointPlayer) = _
      rw [findKey_map (f := checkpointPlayer) (fun _ => rfl)]
      exact congrArg (Option.map checkpointPlayer) hp
  exact hmap.trans (settles_emit _ _ _ _ (by decide) (by decide))

theorem settles_eventStep (g : Pass) (e : CoopEvent) (rest : List CoopEvent) :
    Settles g.session (eventStep g e rest).1.session := by
  unfold eventStep
  split
  · exact settles_contest _ _
  · exact settles_contest _ _
  · dsimp only
    split
    · exact settles_emit _ _ _ _ (by decide) (by decide)
    · exact Settles.refl _
  · split
    · exact Settles.refl _
    · exact settles_checkpointStep e
  · split
    · exact Settles.refl _
    · rename_i p hp; exact settles_damageStep e hp
  · split
    · exact Settles.refl _
    · rename_i p hp; exact settles_deathFinishedStep hp
  · exact Settles.refl _

theorem settles_eventLoop : ∀ (es : List CoopEvent) (g : Pass) (skip : Nat),
    Settles g.session (eventLoop g skip es).session
  | [], g, skip => by cases skip <;> exact Settles.refl _
  | _ :: es, g, skip + 1 => settles_eventLoop es g skip
  | e :: es, g, 0 => by
    unfold eventLoop
    exact (settles_eventStep g e es).trans (settles_eventLoop es _ _)

theorem settles_finishFrame (t : Terminal) : Settles s (finishFrame s t) := by
  unfold finishFrame
  split
  · have hclear : Settles s { s with outcome := .is .clear } := settles_of_eq rfl rfl rfl
    exact hclear.trans (settles_emit .exit _ _ _ (by decide) (by decide))
  split
  · have hkind : ∀ (c : Prop) [Decidable c] (k : CoopActionKind), CoopActionKind.retry ≠ k →
        CoopActionKind.gameOver ≠ k → (if c then CoopActionKind.retry else .gameOver) ≠ k := by
      intro c _ k hretry hover
      split
      · exact hretry
      · exact hover
    unfold chargeLife
    refine Settles.trans (settles_of_eq ?_ ?_ ?_)
      (settles_emit _ _ _ _ (hkind _ _ (by decide) (by decide))
      (hkind _ _ (by decide) (by decide))) <;> rfl
  · exact Settles.refl s

/-- **A resolution settles**: who falls loses everything, and the host is told. -/
theorem coopSessionResolve_settles (s : CoopSession) : Settles s (coopSessionResolve s).2 := by
  unfold coopSessionResolve
  split
  · exact Settles.refl s
  split
  · exact Settles.refl s
  split
  · exact Settles.refl s
  have hbegin : Settles s (beginResolve s) := settles_of_eq rfl rfl rfl
  refine hbegin.trans ?_
  unfold resolvePasses
  dsimp only
  exact ((settles_lethalPass _ _).trans (settles_eventLoop _ ⟨_, false, false⟩ 0)).trans
    (settles_finishFrame _)

end Passes

end SmwRecomp.Coop
