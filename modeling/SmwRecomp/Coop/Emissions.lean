import SmwRecomp.Coop.Emit

/-!
# The emissions of an operation, in order

* `Emits s t as` — the operation from `s` to `t` asked for the actions `as`, and recorded them
  unless an allocation was refused on the way. It composes.
* `alive` — whether an id names a player in play.
* `Lethal`, `lethalPass_player`, `emits_lethalPass` — the lethal pass: who dies of it, and what it
  says.
-/

set_option autoImplicit false

namespace SmwRecomp.Coop

/-! ## Emissions -/

structure Emits (s t : CoopSession) (as : List CoopAction) : Prop where
  failed : s.failed = true → t.failed = true
  recorded : ∃ news, t.actions = s.actions ++ news ∧ news.Sublist as ∧
    (t.failed = false → news = as)

section Emits

variable {s t u : CoopSession} {as bs : List CoopAction}

theorem Emits.refl (s : CoopSession) : Emits s s [] :=
  ⟨id, [], (List.append_nil _).symm, List.Sublist.refl _, fun _ => rfl⟩

/-- A change outside the actions and the failure flag. -/
theorem Emits.of_eq (hactions : t.actions = s.actions) (hfailed : t.failed = s.failed) :
    Emits s t [] :=
  ⟨fun h => hfailed.trans h, [], by rw [hactions, List.append_nil],
    List.Sublist.refl _, fun _ => rfl⟩

theorem Emits.trans (h : Emits s t as) (h' : Emits t u bs) : Emits s u (as ++ bs) := by
  obtain ⟨news, hnews, hsub, hall⟩ := h.recorded
  obtain ⟨news', hnews', hsub', hall'⟩ := h'.recorded
  refine ⟨fun hs => h'.failed (h.failed hs), news ++ news', ?_, hsub.append hsub', ?_⟩
  · rw [hnews', hnews, List.append_assoc]
  · intro hu
    have ht : t.failed = false := by
      cases ht : t.failed with
      | false => rfl
      | true =>
          rw [h'.failed ht] at hu
          cases hu
    rw [hall ht, hall' hu]

theorem emits_emit (s : CoopSession) (kind : CoopActionKind) (player : CoopPlayerId)
    (entity : CoopEntityId)
    (value : UInt32) :
    Emits s (emit s kind player entity value) [⟨.is kind, player, entity, value⟩] := by
  rcases emit_recorded s kind player entity value with ⟨hfailed, hactions⟩ | ⟨hfailed, hactions⟩
  · refine ⟨fun _ => hfailed, [], ?_, List.nil_sublist _, ?_⟩
    · rw [hactions, List.append_nil]
    · intro hworking
      rw [hfailed] at hworking
      cases hworking
  · exact ⟨fun h => hfailed.trans h, _, hactions, List.Sublist.refl _, fun _ => rfl⟩

/-- What is asked for under a condition. -/
def asked (c : Prop) [Decidable c] (a : CoopAction) : List CoopAction := if c then [a] else []

theorem mem_asked {c : Prop} [Decidable c] {a b : CoopAction} : b ∈ asked c a ↔ c ∧ b = a := by
  unfold asked
  split
  · rename_i hc
    simp [hc]
  · rename_i hc
    simp [hc]

theorem emits_dropHeld (s : CoopSession) (p : CoopPlayer) : Emits s (dropHeld s p)
    (asked (p.heldObject ≠ COOP_NO_ENTITY) ⟨.is .dropObject, p.id, p.heldObject, 0⟩) := by
  unfold dropHeld asked
  split
  · exact emits_emit s _ _ _ _
  · exact Emits.refl s

theorem emits_detachMount (s : CoopSession) (p : CoopPlayer) : Emits s (detachMount s p)
    (asked (p.mount ≠ COOP_NO_ENTITY) ⟨.is .detachMount, p.id, p.mount, 0⟩) := by
  unfold detachMount asked
  split
  · exact emits_emit s _ _ _ _
  · exact Emits.refl s

theorem emits_dropReserve (s : CoopSession) (p : CoopPlayer) : Emits s (dropReserve s p)
    (asked (p.reserve ≠ 0) ⟨.is .dropReserve, p.id, COOP_NO_ENTITY, p.reserve⟩) := by
  unfold dropReserve asked
  split
  · exact emits_emit s _ _ _ _
  · exact Emits.refl s

end Emits

/-! ## The lethal pass -/

/-- Whether the id names a player in play. -/
def alive (s : CoopSession) (id : CoopPlayerId) : Bool :=
  match coopPlayer s id with
  | none => false
  | some p => decide (p.life = .is .playing)

/-- The events of the lethal pass. -/
def Lethal (e : CoopEvent) : Prop :=
  e.kind = .is .death ∨ (e.kind = .is .damage ∧ e.flags &&& COOP_EVENT_LETHAL ≠ 0)

instance (e : CoopEvent) : Decidable (Lethal e) := inferInstanceAs (Decidable (_ ∨ _))

/-- Some lethal event names the player. -/
def Doomed (es : List CoopEvent) (id : CoopPlayerId) : Prop := ∃ e ∈ es, e.player = id ∧ Lethal e

instance (es : List CoopEvent) (id : CoopPlayerId) : Decidable (Doomed es id) :=
  inferInstanceAs (Decidable (∃ e ∈ es, _))

section Lethal

variable {s : CoopSession}

theorem alive_of_coopPlayer {id : CoopPlayerId} {p : CoopPlayer} (h : coopPlayer s id = some p) :
    alive s id = true ↔ p.life = .is .playing := by
  unfold alive
  rw [h]
  exact decide_eq_true_iff

theorem alive_congr {t : CoopSession} (h : t.players = s.players) : alive t = alive s := by
  funext id
  unfold alive coopPlayer
  rw [h]

@[simp] theorem dropHeld_players (p : CoopPlayer) : (dropHeld s p).players = s.players := by
  unfold dropHeld
  split
  · exact emit_players
  · rfl

@[simp] theorem detachMount_players (p : CoopPlayer) : (detachMount s p).players = s.players := by
  unfold detachMount
  split
  · exact emit_players
  · rfl

@[simp] theorem dropReserve_players (p : CoopPlayer) : (dropReserve s p).players = s.players := by
  unfold dropReserve
  split
  · exact emit_players
  · rfl

/-- The kinds of the actions the lethal pass asks for. -/
def OfDeath (a : CoopAction) : Prop :=
  a.kind = .is .dropObject ∨ a.kind = .is .detachMount ∨ a.kind = .is .death

/-- The death of `id` among some actions. -/
def deathOf (id : CoopPlayerId) (a : CoopAction) : Bool :=
  decide (a.kind = .is .death ∧ a.player = id)

theorem die_player {id : CoopPlayerId} {p : CoopPlayer} (hp : coopPlayer s id = some p)
    (i : CoopPlayerId) :
    coopPlayer (die s p) i =
      if i = id ∧ p.life = .is .playing then (coopPlayer s i).map deadPlayer
        else coopPlayer s i := by
  unfold die
  by_cases hlife : p.life = .is .playing
  · rw [if_neg (by simp [hlife]), coopPlayer_emit, coopPlayer_putPlayer]
    have hid : (deadPlayer p).id = id := by
      rw [← coopPlayer_id hp]
      rfl
    have hplayers : coopPlayer (detachMount (dropHeld s p) p) i = coopPlayer s i := by
      unfold coopPlayer
      rw [detachMount_players, dropHeld_players]
    rw [hid, hplayers]
    by_cases hi : i = id
    · rw [if_pos hi, if_pos ⟨hi, hlife⟩, hi, hp]
      rfl
    · rw [if_neg hi, if_neg fun h => hi h.1]
  · rw [if_pos hlife, if_neg fun h => hlife h.2]

theorem emits_die {id : CoopPlayerId} {p : CoopPlayer} (hp : coopPlayer s id = some p) :
    ∃ as, Emits s (die s p) as ∧ (∀ a ∈ as, OfDeath a) ∧
      ∀ i, as.filter (deathOf i) = asked (i = id ∧ p.life = .is .playing)
        ⟨.is .death, id, COOP_NO_ENTITY, 0⟩ := by
  unfold die
  by_cases hlife : p.life = .is .playing
  · rw [if_neg (by simp [hlife])]
    have hrelease := (emits_dropHeld s p).trans (emits_detachMount (dropHeld s p) p)
    have hput : Emits (detachMount (dropHeld s p) p)
      (putPlayer (detachMount (dropHeld s p) p) (deadPlayer p)) [] :=
      Emits.of_eq rfl rfl
    have hemits := (hrelease.trans hput).trans
      (emits_emit (putPlayer (detachMount (dropHeld s p) p) (deadPlayer p)) .death p.id
        COOP_NO_ENTITY 0)
    refine ⟨_, hemits, ?_, ?_⟩
    · intro a ha
      rw [List.append_nil, List.mem_append, List.mem_append, mem_asked, mem_asked,
        List.mem_singleton] at ha
      rcases ha with (⟨-, rfl⟩ | ⟨-, rfl⟩) | rfl
      · exact Or.inl rfl
      · exact Or.inr (Or.inl rfl)
      · exact Or.inr (Or.inr rfl)
    · intro i
      have hheld :
        (asked (p.heldObject ≠ COOP_NO_ENTITY) ⟨.is .dropObject, p.id, p.heldObject, 0⟩).filter
          (deathOf i) = [] := by
        rw [List.filter_eq_nil_iff]
        intro a ha
        obtain ⟨-, rfl⟩ := mem_asked.1 ha
        simp [deathOf]
      have hmount : (asked (p.mount ≠ COOP_NO_ENTITY) ⟨.is .detachMount, p.id, p.mount, 0⟩).filter
          (deathOf i) = [] := by
        rw [List.filter_eq_nil_iff]
        intro a ha
        obtain ⟨-, rfl⟩ := mem_asked.1 ha
        simp [deathOf]
      rw [List.append_nil, List.filter_append, List.filter_append, hheld, hmount, coopPlayer_id hp]
      unfold asked
      by_cases hi : i = id
      · rw [if_pos ⟨hi, hlife⟩, hi]
        simp [deathOf]
      · rw [if_neg fun h => hi h.1]
        simp [deathOf, Ne.symm hi]
  · rw [if_pos hlife]
    refine ⟨[], Emits.refl s, (fun _ ha => nomatch ha), ?_⟩
    intro i
    rw [asked, if_neg fun h => hlife h.2]
    rfl

theorem lethalStep_eq (s : CoopSession) (e : CoopEvent) : lethalStep s e =
    match coopPlayer s e.player with
    | none => s
    | some p => if Lethal e then die s p else s := rfl

theorem lethalStep_player (e : CoopEvent) (i : CoopPlayerId) :
    coopPlayer (lethalStep s e) i =
      if e.player = i ∧ Lethal e ∧ alive s i = true then (coopPlayer s i).map deadPlayer
        else coopPlayer s i := by
  rw [lethalStep_eq]
  cases hp : coopPlayer s e.player with
  | none =>
      dsimp only
      split
      · rename_i h
        rw [← h.1, hp]
        rfl
      · rfl
  | some p =>
      dsimp only
      by_cases hlethal : Lethal e
      · rw [if_pos hlethal, die_player hp]
        by_cases hi : i = e.player
        · subst hi
          have halive := alive_of_coopPlayer hp
          by_cases hlife : p.life = .is .playing
          · rw [if_pos ⟨rfl, hlife⟩, if_pos ⟨rfl, hlethal, halive.2 hlife⟩]
          · rw [if_neg fun h => hlife h.2, if_neg fun h => hlife (halive.1 h.2.2)]
        · rw [if_neg fun h => hi h.1, if_neg fun h => hi h.1.symm]
      · rw [if_neg hlethal, if_neg fun h => hlethal h.2.1]

theorem lethalStep_alive (e : CoopEvent) (i : CoopPlayerId) :
    alive (lethalStep s e) i = true ↔ alive s i = true ∧ ¬ (e.player = i ∧ Lethal e) := by
  have hplayer := lethalStep_player (s := s) e i
  by_cases hhit : e.player = i ∧ Lethal e
  · by_cases hlive : alive s i = true
    · rw [if_pos ⟨hhit.1, hhit.2, hlive⟩] at hplayer
      have hdead : alive (lethalStep s e) i = false := by
        unfold alive
        rw [hplayer]
        cases coopPlayer s i with
        | none => rfl
        | some p => rfl
      simp [hdead, hhit.1, hhit.2]
    · rw [if_neg fun h => hlive h.2.2] at hplayer
      have hsame : alive (lethalStep s e) i = alive s i := by
        unfold alive
        rw [hplayer]
      simp [hsame, hlive]
  · rw [if_neg fun h => hhit ⟨h.1, h.2.1⟩] at hplayer
    have hsame : alive (lethalStep s e) i = alive s i := by
      unfold alive
      rw [hplayer]
    rw [hsame]
    exact ⟨fun h => ⟨h, hhit⟩, fun h => h.1⟩

theorem doomed_cons {e : CoopEvent} {es : List CoopEvent} {i : CoopPlayerId} :
    Doomed (e :: es) i ↔ (e.player = i ∧ Lethal e) ∨ Doomed es i := by
  unfold Doomed
  rw [List.exists_mem_cons_iff]

/-- A player in play that a lethal event names is dead behind the pass, any other is as it was. -/
theorem lethalPass_player (es : List CoopEvent) (i : CoopPlayerId) : ∀ s : CoopSession,
    coopPlayer (es.foldl lethalStep s) i =
      if Doomed es i ∧ alive s i = true then (coopPlayer s i).map deadPlayer
        else coopPlayer s i := by
  induction es with
  | nil =>
      intro s
      rw [if_neg (by simp [Doomed])]
      rfl
  | cons e es ih =>
      intro s
      rw [List.foldl_cons, ih, lethalStep_player]
      by_cases hlive : alive s i = true
      · by_cases hhit : e.player = i ∧ Lethal e
        · rw [if_neg fun h => (lethalStep_alive e i).1 h.2 |>.2 hhit,
            if_pos ⟨hhit.1, hhit.2, hlive⟩, if_pos ⟨doomed_cons.2 (Or.inl hhit), hlive⟩]
        · have hstill : alive (lethalStep s e) i = true := (lethalStep_alive e i).2 ⟨hlive, hhit⟩
          rw [if_neg fun h : e.player = i ∧ Lethal e ∧ _ => hhit ⟨h.1, h.2.1⟩]
          by_cases hrest : Doomed es i
          · rw [if_pos ⟨hrest, hstill⟩, if_pos ⟨doomed_cons.2 (Or.inr hrest), hlive⟩]
          · rw [if_neg fun h => hrest h.1, if_neg fun h => (doomed_cons.1 h.1).elim hhit hrest]
      · rw [if_neg fun h => hlive ((lethalStep_alive e i).1 h.2).1, if_neg fun h => hlive h.2.2,
          if_neg fun h => hlive h.2]

theorem lethalPass_alive (es : List CoopEvent) (i : CoopPlayerId) (s : CoopSession) :
    alive (es.foldl lethalStep s) i = true ↔ alive s i = true ∧ ¬ Doomed es i := by
  have hplayer := lethalPass_player es i s
  by_cases hdies : Doomed es i ∧ alive s i = true
  · rw [if_pos hdies] at hplayer
    have hdead : alive (es.foldl lethalStep s) i = false := by
      unfold alive
      rw [hplayer]
      cases coopPlayer s i with
      | none => rfl
      | some p => rfl
    simp [hdead, hdies.1]
  · rw [if_neg hdies] at hplayer
    have hsame : alive (es.foldl lethalStep s) i = alive s i := by
      unfold alive
      rw [hplayer]
    rw [hsame]
    exact ⟨fun h => ⟨h, fun hd => hdies ⟨hd, h⟩⟩, fun h => h.1⟩

theorem emits_lethalStep (e : CoopEvent) : ∃ as, Emits s (lethalStep s e) as ∧
    (∀ a ∈ as, OfDeath a) ∧
    ∀ i, as.filter (deathOf i) =
      asked ((e.player = i ∧ Lethal e) ∧ alive s i = true) ⟨.is .death, i, COOP_NO_ENTITY, 0⟩ := by
  have hnone : ∃ as, Emits s s as ∧ (∀ a ∈ as, OfDeath a) ∧ ∀ i, as.filter (deathOf i) = [] :=
    ⟨[], Emits.refl s, (fun _ ha => nomatch ha), fun _ => rfl⟩
  rw [lethalStep_eq]
  cases hp : coopPlayer s e.player with
  | none =>
      obtain ⟨as, hemits, hkinds, hdeaths⟩ := hnone
      refine ⟨as, hemits, hkinds, ?_⟩
      intro i
      rw [hdeaths, asked, if_neg]
      rintro ⟨⟨rfl, -⟩, halive⟩
      unfold alive at halive
      rw [hp] at halive
      cases halive
  | some p =>
      dsimp only
      by_cases hlethal : Lethal e
      · obtain ⟨as, hemits, hkinds, hdeaths⟩ := emits_die hp
        rw [if_pos hlethal]
        refine ⟨as, hemits, hkinds, ?_⟩
        intro i
        rw [hdeaths]
        unfold asked
        by_cases hi : i = e.player
        · subst hi
          have halive := alive_of_coopPlayer hp
          by_cases hlife : p.life = .is .playing
          · rw [if_pos ⟨rfl, hlife⟩, if_pos ⟨⟨rfl, hlethal⟩, halive.2 hlife⟩]
          · rw [if_neg fun h => hlife h.2, if_neg fun h => hlife (halive.1 h.2)]
        · rw [if_neg fun h => hi h.1, if_neg fun h => hi h.1.1.symm]
      · obtain ⟨as, hemits, hkinds, hdeaths⟩ := hnone
        rw [if_neg hlethal]
        refine ⟨as, hemits, hkinds, ?_⟩
        intro i
        rw [hdeaths, asked, if_neg fun h => hlethal h.1.2]

/-- The lethal pass says one death for every player it kills, and nothing but deaths and what they
take. -/
theorem emits_lethalPass (es : List CoopEvent) : ∀ s : CoopSession,
    ∃ as, Emits s (es.foldl lethalStep s) as ∧ (∀ a ∈ as, OfDeath a) ∧
      ∀ i, as.filter (deathOf i) =
        asked (Doomed es i ∧ alive s i = true) ⟨.is .death, i, COOP_NO_ENTITY, 0⟩ := by
  induction es with
  | nil =>
      intro s
      refine ⟨[], Emits.refl s, (fun _ ha => nomatch ha), ?_⟩
      intro i
      rw [asked, if_neg (by simp [Doomed])]
      rfl
  | cons e es ih =>
      intro s
      obtain ⟨as, hemits, hkinds, hdeaths⟩ := emits_lethalStep (s := s) e
      obtain ⟨bs, hemits', hkinds', hdeaths'⟩ := ih (lethalStep s e)
      refine ⟨as ++ bs, hemits.trans hemits', ?_, ?_⟩
      · intro a ha
        exact (List.mem_append.1 ha).elim (hkinds a) (hkinds' a)
      · intro i
        rw [List.filter_append, hdeaths, hdeaths']
        unfold asked
        by_cases hlive : alive s i = true
        · by_cases hhit : e.player = i ∧ Lethal e
          · rw [if_pos ⟨hhit, hlive⟩, if_neg fun h => (lethalStep_alive e i).1 h.2 |>.2 hhit,
              if_pos ⟨doomed_cons.2 (Or.inl hhit), hlive⟩, List.append_nil]
          · have hstill : alive (lethalStep s e) i = true := (lethalStep_alive e i).2 ⟨hlive, hhit⟩
            rw [if_neg fun h => hhit h.1, List.nil_append]
            by_cases hrest : Doomed es i
            · rw [if_pos ⟨hrest, hstill⟩, if_pos ⟨doomed_cons.2 (Or.inr hrest), hlive⟩]
            · rw [if_neg fun h => hrest h.1, if_neg fun h => (doomed_cons.1 h.1).elim hhit hrest]
        · rw [if_neg fun h => hlive h.2, if_neg fun h => hlive ((lethalStep_alive e i).1 h.2).1,
            if_neg fun h => hlive h.2]
          rfl

end Lethal

/-! ## The loop over the events -/

/-- In play, and neither starred nor protected. -/
def Vulnerable (p : CoopPlayer) : Prop :=
  p.life = .is .playing ∧ p.starTicks = 0 ∧ p.protectionTicks = 0

instance (p : CoopPlayer) : Decidable (Vulnerable p) := inferInstanceAs (Decidable (_ ∧ _))

/-- What a nonlethal hit asks for. -/
def hurtLog (p : CoopPlayer) : List CoopAction :=
  asked (p.reserve ≠ 0) ⟨.is .dropReserve, p.id, COOP_NO_ENTITY, p.reserve⟩ ++
    [⟨.is .damage, p.id, COOP_NO_ENTITY, 0⟩]

section Loop

variable {s : CoopSession}

theorem damageStep_eq (e : CoopEvent) (p : CoopPlayer) : damageStep s e p =
    if Vulnerable p ∧ e.flags &&& COOP_EVENT_LETHAL = 0 then
      emit (putPlayer (dropReserve s p) (damagedPlayer s p)) .damage p.id COOP_NO_ENTITY 0
    else s := by
  unfold damageStep
  by_cases hv : Vulnerable p
  · obtain ⟨hlife, hstar, hprotection⟩ := hv
    have hhit : ¬ (p.life ≠ .is .playing ∨ p.starTicks ≠ 0 ∨ p.protectionTicks ≠ 0) := by
      simp [hlife, hstar, hprotection]
    rw [if_neg hhit]
    by_cases hflags : e.flags &&& COOP_EVENT_LETHAL = 0
    · rw [if_neg (by simp [hflags]), if_pos ⟨⟨hlife, hstar, hprotection⟩, hflags⟩]
    · rw [if_pos hflags, if_neg fun h => hflags h.2]
  · have hspared : p.life ≠ .is .playing ∨ p.starTicks ≠ 0 ∨ p.protectionTicks ≠ 0 := by
      by_contra hnone
      simp only [not_or, not_ne_iff] at hnone
      exact hv hnone
    rw [if_pos hspared, if_neg fun h => hv h.1]

theorem emits_damageStep (e : CoopEvent) (p : CoopPlayer) : Emits s (damageStep s e p)
    (if Vulnerable p ∧ e.flags &&& COOP_EVENT_LETHAL = 0 then hurtLog p else []) := by
  rw [damageStep_eq]
  split
  · have hput : Emits (dropReserve s p) (putPlayer (dropReserve s p) (damagedPlayer s p)) [] :=
      Emits.of_eq rfl rfl
    have hemits := ((emits_dropReserve s p).trans hput).trans
      (emits_emit (putPlayer (dropReserve s p) (damagedPlayer s p)) .damage p.id COOP_NO_ENTITY 0)
    rw [List.append_nil] at hemits
    exact hemits
  · exact Emits.refl s

theorem damageStep_player (e : CoopEvent) {p : CoopPlayer} (hp : coopPlayer s e.player = some p)
    (i : CoopPlayerId) : coopPlayer (damageStep s e p) i =
      if i = e.player ∧ Vulnerable p ∧ e.flags &&& COOP_EVENT_LETHAL = 0
        then some (damagedPlayer s p)
      else coopPlayer s i := by
  have hplayers : coopPlayer (dropReserve s p) i = coopPlayer s i := by
    unfold coopPlayer
    rw [dropReserve_players]
  have hid : (damagedPlayer s p).id = e.player := by
    rw [← coopPlayer_id hp]
    rfl
  rw [damageStep_eq]
  by_cases hhit : Vulnerable p ∧ e.flags &&& COOP_EVENT_LETHAL = 0
  · rw [if_pos hhit, coopPlayer_emit, coopPlayer_putPlayer, hid, hplayers]
    by_cases hi : i = e.player
    · rw [if_pos hi, if_pos ⟨hi, hhit⟩, hi, hp]
      rfl
    · rw [if_neg hi, if_neg fun h => hi h.1]
  · rw [if_neg hhit, if_neg fun h => hhit h.2]

theorem emits_deathFinishedStep (p : CoopPlayer) : Emits s (deathFinishedStep s p) [] := by
  unfold deathFinishedStep
  split
  · exact Emits.of_eq rfl rfl
  · exact Emits.refl s

/-- The record of a player whose death is over. -/
def bubbledPlayer (s : CoopSession) (p : CoopPlayer) : CoopPlayer :=
  { p with life := .is .deathBubble, recoveryTicks := s.ticksPerSecond * 3 }

theorem deathFinishedStep_player {p : CoopPlayer} {id : CoopPlayerId}
    (hp : coopPlayer s id = some p)
    (i : CoopPlayerId) : coopPlayer (deathFinishedStep s p) i =
      if i = id ∧ p.life = .is .dying then some (bubbledPlayer s p) else coopPlayer s i := by
  have hid : (bubbledPlayer s p).id = id := by
    rw [← coopPlayer_id hp]
    rfl
  unfold deathFinishedStep
  by_cases hdying : p.life = .is .dying
  · rw [if_pos hdying]
    show coopPlayer (putPlayer s (bubbledPlayer s p)) i = _
    rw [coopPlayer_putPlayer, hid]
    by_cases hi : i = id
    · rw [if_pos hi, if_pos ⟨hi, hdying⟩, hi, hp]
      rfl
    · rw [if_neg hi, if_neg fun h => hi h.1]
  · rw [if_neg hdying, if_neg fun h => hdying h.2]

theorem emits_checkpointStep (e : CoopEvent) :
    Emits s (checkpointStep s e) [⟨.is .checkpoint, e.player, e.entity, e.value⟩] := by
  have hwrite :
      Emits s { s with checkpoint := e.value, players := s.players.map checkpointPlayer } [] :=
    Emits.of_eq rfl rfl
  exact hwrite.trans (emits_emit _ _ _ _ _)

theorem checkpointStep_player (e : CoopEvent) (i : CoopPlayerId) :
    coopPlayer (checkpointStep s e) i = (coopPlayer s i).map checkpointPlayer := by
  unfold checkpointStep
  rw [coopPlayer_emit]
  exact findKey_map (fun _ => rfl) i s.players

end Loop

end SmwRecomp.Coop
