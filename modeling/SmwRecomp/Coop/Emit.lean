import SmwRecomp.Coop.Session

/-!
# What the building blocks of the session operations change

`emit` touches the action list and its storage only; `die`, `damageStep` and the other player
writes go through `putPlayer`.  The `@[simp]` lemmas here are the only place where `emit` is
unfolded.
-/

set_option autoImplicit false

namespace SmwRecomp.Coop

variable {s : CoopSession} {kind : CoopActionKind} {player : CoopPlayerId} {entity : CoopEntityId}
  {value : UInt32}

/-- `emit` changes the action list, its storage and the failure flag, nothing else. -/
theorem emit_eq (s : CoopSession) (kind : CoopActionKind) (player : CoopPlayerId)
    (entity : CoopEntityId) (value : UInt32) :
    ∃ failed actions capacity allocator,
      emit s kind player entity value =
        { s with failed := failed, actions := actions, actionCapacity := capacity, allocator := allocator } ∧
      (actions = s.actions ∨ actions = s.actions ++ [⟨.is kind, player, entity, value⟩]) ∧
      (s.failed = true → failed = true) ∧
      (failed = s.failed ∨ actions = s.actions) := by
  unfold emit
  split
  · exact ⟨_, _, _, _, rfl, Or.inl rfl, fun _ => rfl, Or.inr rfl⟩
  · split
    · exact ⟨_, _, _, _, rfl, Or.inl rfl, fun _ => rfl, Or.inr rfl⟩
    · exact ⟨_, _, _, _, rfl, Or.inr rfl, id, Or.inl rfl⟩

/-- An emission is recorded, unless it fails. -/
theorem emit_recorded (s : CoopSession) (kind : CoopActionKind) (player : CoopPlayerId)
    (entity : CoopEntityId) (value : UInt32) :
    (emit s kind player entity value).failed = true ∧
      (emit s kind player entity value).actions = s.actions ∨
    (emit s kind player entity value).failed = s.failed ∧
      (emit s kind player entity value).actions =
        s.actions ++ [⟨.is kind, player, entity, value⟩] := by
  unfold emit
  split
  · exact Or.inl ⟨rfl, rfl⟩
  · split
    · exact Or.inl ⟨rfl, rfl⟩
    · exact Or.inr ⟨rfl, rfl⟩

@[simp] theorem emit_players : (emit s kind player entity value).players = s.players := by
  obtain ⟨_, _, _, _, h, _⟩ := emit_eq s kind player entity value; rw [h]

@[simp] theorem emit_primary : (emit s kind player entity value).primary = s.primary := by
  obtain ⟨_, _, _, _, h, _⟩ := emit_eq s kind player entity value; rw [h]

@[simp] theorem emit_camera : (emit s kind player entity value).camera = s.camera := by
  obtain ⟨_, _, _, _, h, _⟩ := emit_eq s kind player entity value; rw [h]

@[simp] theorem emit_frame : (emit s kind player entity value).frame = s.frame := by
  obtain ⟨_, _, _, _, h, _⟩ := emit_eq s kind player entity value; rw [h]

@[simp] theorem emit_ticksPerSecond :
    (emit s kind player entity value).ticksPerSecond = s.ticksPerSecond := by
  obtain ⟨_, _, _, _, h, _⟩ := emit_eq s kind player entity value; rw [h]

@[simp] theorem emit_lives : (emit s kind player entity value).lives = s.lives := by
  obtain ⟨_, _, _, _, h, _⟩ := emit_eq s kind player entity value; rw [h]

@[simp] theorem emit_outcome : (emit s kind player entity value).outcome = s.outcome := by
  obtain ⟨_, _, _, _, h, _⟩ := emit_eq s kind player entity value; rw [h]

@[simp] theorem emit_checkpoint : (emit s kind player entity value).checkpoint = s.checkpoint := by
  obtain ⟨_, _, _, _, h, _⟩ := emit_eq s kind player entity value; rw [h]

@[simp] theorem emit_advancing : (emit s kind player entity value).advancing = s.advancing := by
  obtain ⟨_, _, _, _, h, _⟩ := emit_eq s kind player entity value; rw [h]

@[simp] theorem emit_inputBlocked :
    (emit s kind player entity value).inputBlocked = s.inputBlocked := by
  obtain ⟨_, _, _, _, h, _⟩ := emit_eq s kind player entity value; rw [h]

@[simp] theorem emit_resolved : (emit s kind player entity value).resolved = s.resolved := by
  obtain ⟨_, _, _, _, h, _⟩ := emit_eq s kind player entity value; rw [h]

@[simp] theorem emit_events : (emit s kind player entity value).events = s.events := by
  obtain ⟨_, _, _, _, h, _⟩ := emit_eq s kind player entity value; rw [h]

/-- An emission does not look at the players. -/
theorem emit_withPlayers (s : CoopSession) (players : List CoopPlayer) :
    emit { s with players := players } kind player entity value =
      { emit s kind player entity value with players := players } := by
  unfold emit
  dsimp only
  split
  · rfl
  · split <;> rfl

@[simp] theorem coopPlayer_emit (id : CoopPlayerId) :
    coopPlayer (emit s kind player entity value) id = coopPlayer s id := by
  unfold coopPlayer; rw [emit_players]

/-- The keys of the players survive a write through a player pointer. -/
@[simp] theorem putPlayer_ids (p : CoopPlayer) :
    (putPlayer s p).players.map CoopPlayer.id = s.players.map CoopPlayer.id :=
  map_key_putKey p s.players

theorem coopPlayer_id {id : CoopPlayerId} {p : CoopPlayer} (h : coopPlayer s id = some p) :
    p.id = id := (findKey_some h).2

theorem coopPlayer_mem {id : CoopPlayerId} {p : CoopPlayer} (h : coopPlayer s id = some p) :
    p ∈ s.players := (findKey_some h).1

/-- A roster with the same ids has a player under each of them. -/
theorem coopPlayer_of_ids {t : CoopSession}
    (hids : t.players.map CoopPlayer.id = s.players.map CoopPlayer.id)
    {id : CoopPlayerId} {q : CoopPlayer} (hq : coopPlayer t id = some q) :
    ∃ p, coopPlayer s id = some p := by
  refine Option.isSome_iff_exists.1 ?_
  unfold coopPlayer at hq ⊢
  rw [findKey_isSome_of_keys hids.symm]
  exact Option.isSome_iff_exists.2 ⟨q, hq⟩

theorem coopPlayer_putPlayer (p : CoopPlayer) (id : CoopPlayerId) :
    coopPlayer (putPlayer s p) id =
      if id = p.id then (coopPlayer s id).map (fun _ => p) else coopPlayer s id :=
  findKey_putKey p id s.players

end SmwRecomp.Coop
