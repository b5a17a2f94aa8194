import SmwRecomp.Coop.Contest

/-!
# One hit a player a frame

* `Struck` — what one player takes of a stretch of the loop over the events: a hit, when it can be
  hurt and is hit, and nothing otherwise. Stretches compose (`Struck.trans`): the first hit
  protects.
* `eventStep_hits`, `eventLoop_hits` — one iteration, and the whole loop.
* `resolvePasses_hits` — with the lethal pass in front, every player has one of three fates.
* `one_hit` — the whole resolution.
-/

set_option autoImplicit false

namespace SmwRecomp.Coop

/-- The deaths, the damage and the reserve drops of one player. -/
def hitOf (id : CoopPlayerId) (a : CoopAction) : Bool :=
  decide ((a.kind = .is .death ∨ a.kind = .is .damage ∨ a.kind = .is .dropReserve) ∧ a.player = id)

/-- A nonlethal hit on the player. -/
def Hurts (id : CoopPlayerId) (e : CoopEvent) : Prop :=
  e.kind = .is .damage ∧ e.player = id ∧ e.flags &&& COOP_EVENT_LETHAL = 0

instance (id : CoopPlayerId) (e : CoopEvent) : Decidable (Hurts id e) :=
  inferInstanceAs (Decidable (_ ∧ _))

/-- From the record `q` to the record `q'`, with or without a hit. -/
def Struck (hit : Prop) (id : CoopPlayerId) (as : List CoopAction) (q q' : CoopPlayer) : Prop :=
  (Vulnerable q ∧ hit) ∧ as.filter (hitOf id) = hurtLog q ∧ q'.reserve = 0 ∧ ¬ Vulnerable q' ∨
    ¬ (Vulnerable q ∧ hit) ∧ as.filter (hitOf id) = [] ∧ q'.reserve = q.reserve ∧
    (Vulnerable q' ↔ Vulnerable q)

/-! ## One iteration -/

section Step

variable {hit hit' : Prop} {id : CoopPlayerId} {as bs : List CoopAction} {q q' q'' : CoopPlayer}

theorem Struck.untouched (hhit : ¬ hit) (hlog : as.filter (hitOf id) = [])
    (hreserve : q'.reserve = q.reserve)
    (hvulnerable : Vulnerable q' ↔ Vulnerable q) : Struck hit id as q q' :=
  Or.inr ⟨fun h => hhit h.2, hlog, hreserve, hvulnerable⟩

theorem Struck.congr (h : Struck hit id as q q') (hiff : hit ↔ hit') : Struck hit' id as q q' := by
  unfold Struck at h ⊢
  rw [← hiff]
  exact h

/-- The hit of either stretch, once. -/
theorem Struck.trans (h : Struck hit id as q q') (h' : Struck hit' id bs q' q'')
    (hid : q'.id = q.id) :
    Struck (hit ∨ hit') id (as ++ bs) q q'' := by
  unfold Struck at h h' ⊢
  rw [List.filter_append]
  rcases h with ⟨⟨hvulnerable, hhit⟩, hlog, hreserve, hprotected⟩ | ⟨hspared, hlog, hreserve, hsame⟩
  · rcases h' with ⟨⟨hvulnerable', -⟩, -⟩ | ⟨-, hlog', hreserve', hsame'⟩
    · exact absurd hvulnerable' hprotected
    · left
      refine ⟨⟨hvulnerable, Or.inl hhit⟩, ?_, hreserve'.trans hreserve, ?_⟩
      · rw [hlog, hlog', List.append_nil]
      · rw [hsame']
        exact hprotected
  · have hlogs : hurtLog q' = hurtLog q := by
      unfold hurtLog
      rw [hreserve, hid]
    rcases h' with ⟨⟨hvulnerable', hhit'⟩, hlog', hreserve', hprotected⟩
      | ⟨hspared', hlog', hreserve', hsame'⟩
    · left
      refine ⟨⟨hsame.1 hvulnerable', Or.inr hhit'⟩, ?_, hreserve', hprotected⟩
      rw [hlog, hlog', hlogs, List.nil_append]
    · right
      refine ⟨?_, ?_, hreserve'.trans hreserve, hsame'.trans hsame⟩
      · rintro ⟨hvulnerable, hhit | hhit'⟩
        · exact hspared ⟨hvulnerable, hhit⟩
        · exact hspared' ⟨hsame.2 hvulnerable, hhit'⟩
      · rw [hlog, hlog', List.append_nil]

theorem filter_hits_nil
    (h : ∀ a ∈ as, a.kind ≠ .is .death ∧ a.kind ≠ .is .damage ∧ a.kind ≠ .is .dropReserve) :
    as.filter (hitOf id) = [] := by
  rw [List.filter_eq_nil_iff]
  intro a ha
  obtain ⟨hdeath, hdamage, hdrop⟩ := h a ha
  simp [hitOf, hdeath, hdamage, hdrop]

theorem filter_hurtLog (i : CoopPlayerId) :
    (hurtLog q).filter (hitOf i) = if q.id = i then hurtLog q else [] := by
  unfold hurtLog asked
  by_cases hi : q.id = i
  · by_cases hreserve : q.reserve ≠ 0
    · simp [hitOf, hi, hreserve]
    · simp [hitOf, hi, not_not.1 hreserve]
  · by_cases hreserve : q.reserve ≠ 0
    · simp [hitOf, hi, hreserve]
    · simp [hitOf, hi, not_not.1 hreserve]

/-- A hit takes the reserve and protects. -/
theorem damagedPlayer_protected {s : CoopSession} (hticks : s.ticksPerSecond * 2 ≠ 0)
    (p : CoopPlayer) :
    (damagedPlayer s p).reserve = 0 ∧ ¬ Vulnerable (damagedPlayer s p) :=
  ⟨rfl, fun h => hticks h.2.2⟩

/-- The players of `t` against those of `s`: `as` asks for a hit of whom it strikes. -/
def Strikes (hits : CoopPlayerId → Prop) (s t : CoopSession) (as : List CoopAction) : Prop :=
  Emits s t as ∧ ∀ id q, coopPlayer s id = some q →
    ∃ q', coopPlayer t id = some q' ∧ Struck (hits id) id as q q'

section Kinds

variable {s t : CoopSession} {e : CoopEvent}

/-- What leaves the players alone. -/
theorem quiet_strikes (hemits : Emits s t as) (hplayers : t.players = s.players)
    (hkind : e.kind ≠ .is .damage)
    (hothers : ∀ a ∈ as, a.kind ≠ .is .death ∧ a.kind ≠ .is .damage ∧ a.kind ≠ .is .dropReserve) :
    Strikes (Hurts · e) s t as := by
  refine ⟨hemits,
    fun id q hq =>
    ⟨q, ?_, Struck.untouched (fun h => hkind h.1) (filter_hits_nil hothers) rfl Iff.rfl⟩⟩
  unfold coopPlayer
  rw [hplayers]
  exact hq

theorem idle_strikes (hkind : e.kind ≠ .is .damage) : Strikes (Hurts · e) s s [] :=
  quiet_strikes (Emits.refl s) rfl hkind fun _ ha => nomatch ha

theorem contest_strikes {kind : CoopEventKind} (hkind : e.kind = .is kind)
    (hcontest : kind = .pickup ∨ kind = .enemyContact)
    (group : List CoopEvent) : ∃ as, Strikes (Hurts · e) s (contest s e group) as := by
  obtain ⟨hemits, hplayers, -⟩ := emits_contest (s := s) hkind hcontest group
  refine ⟨_, quiet_strikes hemits hplayers ?_ fun a ha => ?_⟩
  · rw [hkind]
    rcases hcontest with rfl | rfl <;> simp
  · unfold contestLog at ha
    rcases List.mem_append.1 ha with ha | ha
    · split at ha
      · obtain ⟨v, -, -, -, rfl⟩ := mem_bounces _ _ ha
        simp
      · cases ha
    · obtain ⟨w, -, -, rfl⟩ := mem_award ha
      rcases hcontest with rfl | rfl <;> simp [awardKind]

theorem checkpoint_strikes (hkind : e.kind = .is .checkpoint) :
    Strikes (Hurts · e) s (checkpointStep s e)
      [⟨.is .checkpoint, e.player, e.entity, e.value⟩] := by
  refine ⟨emits_checkpointStep e,
    fun id q hq => ⟨checkpointPlayer q, ?_, Struck.untouched ?_ ?_ rfl Iff.rfl⟩⟩
  · rw [checkpointStep_player, hq]
    rfl
  · intro h
    rw [h.1] at hkind
    cases hkind
  · exact filter_hits_nil (by simp)

/-- A damage event of nobody. -/
theorem absent_strikes (hp : coopPlayer s e.player = none) : Strikes (Hurts · e) s s [] := by
  refine ⟨Emits.refl s, fun id q hq => ⟨q, hq, Struck.untouched ?_ rfl rfl Iff.rfl⟩⟩
  rintro ⟨-, rfl, -⟩
  rw [hp] at hq
  cases hq

/-- A damage event hurts the player it names, if that one can be hurt and the event is not lethal.
-/
theorem damage_strikes (hticks : s.ticksPerSecond * 2 ≠ 0) (hkind : e.kind = .is .damage)
    {p : CoopPlayer}
    (hp : coopPlayer s e.player = some p) : Strikes (Hurts · e) s (damageStep s e p)
      (if Vulnerable p ∧ e.flags &&& COOP_EVENT_LETHAL = 0 then hurtLog p else []) := by
  refine ⟨emits_damageStep e p, fun id q hq => ?_⟩
  rw [damageStep_player e hp]
  by_cases hid : e.player = id
  · subst hid
    rw [hp] at hq
    cases hq
    by_cases hhit : Vulnerable p ∧ e.flags &&& COOP_EVENT_LETHAL = 0
    · rw [if_pos ⟨rfl, hhit⟩, if_pos hhit]
      refine ⟨_, rfl, Or.inl ⟨⟨hhit.1, hkind, rfl, hhit.2⟩, ?_, damagedPlayer_protected hticks p⟩⟩
      rw [filter_hurtLog, if_pos (coopPlayer_id hp)]
    · rw [if_neg fun h => hhit h.2, if_neg hhit]
      exact ⟨p, hp, Or.inr ⟨fun h => hhit ⟨h.1, h.2.2.2⟩, rfl, rfl, Iff.rfl⟩⟩
  · rw [if_neg fun h => hid h.1.symm]
    refine ⟨q, hq, Struck.untouched (fun h => hid h.2.1) ?_ rfl Iff.rfl⟩
    split
    · rw [filter_hurtLog, if_neg]
      rw [coopPlayer_id hp]
      exact hid
    · rfl

/-- Neither a dying player nor its bubble can be hurt. -/
theorem deathFinished_strikes (hkind : e.kind = .is .deathFinished) {p : CoopPlayer}
    (hp : coopPlayer s e.player = some p) : Strikes (Hurts · e) s (deathFinishedStep s p) [] := by
  refine ⟨emits_deathFinishedStep p, fun id q hq => ?_⟩
  have hother : ¬ Hurts id e := by
    intro h
    rw [h.1] at hkind
    cases hkind
  rw [deathFinishedStep_player hp]
  by_cases hdying : id = e.player ∧ p.life = .is .dying
  · obtain ⟨rfl, hdying⟩ := hdying
    rw [hp] at hq
    cases hq
    rw [if_pos ⟨rfl, hdying⟩]
    refine ⟨_, rfl, Struck.untouched hother rfl rfl ?_⟩
    simp [Vulnerable, bubbledPlayer, hdying]
  · rw [if_neg hdying]
    exact ⟨q, hq, Struck.untouched hother rfl rfl Iff.rfl⟩

end Kinds

/-- One iteration: only a nonlethal hit, on a player that can be hurt, does anything to a player. -/
theorem eventStep_hits (g : Pass) (e : CoopEvent) (rest : List CoopEvent)
    (hticks : g.session.ticksPerSecond * 2 ≠ 0) :
    ∃ as, Strikes (Hurts · e) g.session (eventStep g e rest).1.session as := by
  unfold eventStep
  split
  · rename_i hkind
    exact contest_strikes hkind (Or.inl rfl) _
  · rename_i hkind
    exact contest_strikes hkind (Or.inr rfl) _
  · rename_i hkind
    dsimp only
    split
    · exact ⟨_, quiet_strikes (emits_emit _ _ _ _ _) emit_players (by simp [hkind]) (by simp)⟩
    · exact ⟨_, idle_strikes (by simp [hkind])⟩
  · rename_i hkind
    split
    · exact ⟨_, idle_strikes (by simp [hkind])⟩
    · exact ⟨_, checkpoint_strikes hkind⟩
  · rename_i hkind
    cases hp : coopPlayer g.session e.player with
    | none => exact ⟨_, absent_strikes hp⟩
    | some p => exact ⟨_, damage_strikes hticks hkind hp⟩
  · rename_i hkind
    cases hp : coopPlayer g.session e.player with
    | none => exact ⟨_, idle_strikes (by simp [hkind])⟩
    | some p => exact ⟨_, deathFinished_strikes hkind hp⟩
  · rename_i hpickup hcontact honoff hcheckpoint hdamage hfinished
    exact ⟨_, idle_strikes hdamage⟩

/-- No hit is jumped over with a group. -/
theorem hurts_behind (g : Pass) (e : CoopEvent) (rest : List CoopEvent) (id : CoopPlayerId) :
    (∃ v ∈ rest.drop (eventStep g e rest).2, Hurts id v) ↔ ∃ v ∈ rest, Hurts id v := by
  by_cases hcontest : e.kind = .is .pickup ∨ e.kind = .is .enemyContact
  · obtain ⟨kind, he, hkind⟩ : ∃ kind, e.kind = .is kind ∧
      (kind = .pickup ∨ kind = .enemyContact) := by
      rcases hcontest with h | h
      · exact ⟨_, h, Or.inl rfl⟩
      · exact ⟨_, h, Or.inr rfl⟩
    rw [contestStep_pass g rest he hkind]
    dsimp only
    rw [drop_takeWhile_length]
    constructor
    · rintro ⟨v, hv, hhit⟩
      exact ⟨v, (List.dropWhile_sublist _).subset hv, hhit⟩
    · rintro ⟨v, hv, hhit⟩
      rw [← List.takeWhile_append_dropWhile (p := sameGroup e) (l := rest), List.mem_append] at hv
      rcases hv with hv | hv
      · have hsame := List.all_eq_true.1 List.all_takeWhile v hv
        rw [sameGroup_eq he, inGroup_iff, hhit.1] at hsame
        rcases hkind with rfl | rfl
        · cases hsame.1
        · cases hsame.1
      · exact ⟨v, hv, hhit⟩
  · rw [not_or] at hcontest
    rw [(emits_otherStep g rest hcontest.1 hcontest.2).2.1, List.drop_zero]

end Step

/-! ## The resolution -/

theorem Strikes.done (s : CoopSession) :
    Strikes (fun id => ∃ v ∈ ([] : List CoopEvent), Hurts id v) s s [] :=
  ⟨Emits.refl s, fun _ q hq => ⟨q, hq, Struck.untouched (by simp) rfl rfl Iff.rfl⟩⟩

/-- The loop over the events hits every player at most once. -/
theorem eventLoop_hits : ∀ (n : Nat) (es : List CoopEvent), es.length ≤ n → ∀ g : Pass,
    g.session.ticksPerSecond * 2 ≠ 0 →
    ∃ as, Strikes (fun id => ∃ v ∈ es, Hurts id v) g.session (eventLoop g 0 es).session as := by
  intro n
  induction n with
  | zero =>
      intro es hlen g _
      rw [List.length_eq_zero_iff.1 (Nat.le_zero.1 hlen)]
      exact ⟨[], Strikes.done g.session⟩
  | succ n ih =>
      intro es hlen g hticks
      cases es with
      | nil => exact ⟨[], Strikes.done g.session⟩
      | cons e rest =>
          obtain ⟨as, hemits, hstep⟩ := eventStep_hits g e rest hticks
          have hticks' : (eventStep g e rest).1.session.ticksPerSecond * 2 ≠ 0 := by
            have hsame : (eventStep g e rest).1.session.ticksPerSecond = g.session.ticksPerSecond :=
              congrArg Ledger.ticksPerSecond (ledger_eventStep g e rest)
            rw [hsame]
            exact hticks
          have hlen' : (rest.drop (eventStep g e rest).2).length ≤ n := by
            rw [List.length_drop]
            rw [List.length_cons] at hlen
            omega
          obtain ⟨bs, hemits', hrest⟩ := ih _ hlen' (eventStep g e rest).1 hticks'
          unfold eventLoop
          rw [eventLoop_drop]
          refine ⟨as ++ bs, hemits.trans hemits', ?_⟩
          intro id q hq
          obtain ⟨q', hq', hstruck⟩ := hstep id q hq
          obtain ⟨q'', hq'', hstruck'⟩ := hrest id q' hq'
          have hid : q'.id = q.id := (coopPlayer_id hq').trans (coopPlayer_id hq).symm
          refine ⟨q'', hq'', (hstruck.trans hstruck' hid).congr ?_⟩
          dsimp only
          rw [hurts_behind, List.exists_mem_cons_iff]

/-- In play, and named by a lethal event of the frame. -/
def Dies (t : CoopSession) (p : CoopPlayer) : Prop := p.life = .is .playing ∧ Doomed t.events p.id

instance (t : CoopSession) (p : CoopPlayer) : Decidable (Dies t p) :=
  inferInstanceAs (Decidable (_ ∧ _))

/-- Neither shielded nor dying, and named by a damage event of the frame. -/
def Hurt (t : CoopSession) (p : CoopPlayer) : Prop :=
  Vulnerable p ∧ ¬ Doomed t.events p.id ∧ ∃ e ∈ t.events, Hurts p.id e

instance (t : CoopSession) (p : CoopPlayer) : Decidable (Hurt t p) :=
  inferInstanceAs (Decidable (_ ∧ _))

/-- The damage of `id` among some actions. -/
def damageOf (id : CoopPlayerId) (a : CoopAction) : Bool :=
  decide (a.kind = .is .damage ∧ a.player = id)

/-- The reserve drops of `id` among some actions. -/
def reserveDropOf (id : CoopPlayerId) (a : CoopAction) : Bool :=
  decide (a.kind = .is .dropReserve ∧ a.player = id)

/-- What a resolution asks for about one player. -/
structure Asked (t : CoopSession) (as : List CoopAction) (p : CoopPlayer) : Prop where
  deaths : as.filter (deathOf p.id) = asked (Dies t p) ⟨.is .death, p.id, COOP_NO_ENTITY, 0⟩
  damages : as.filter (damageOf p.id) = asked (Hurt t p) ⟨.is .damage, p.id, COOP_NO_ENTITY, 0⟩
  drops : as.filter (reserveDropOf p.id) =
    asked (Hurt t p ∧ p.reserve ≠ 0) ⟨.is .dropReserve, p.id, COOP_NO_ENTITY, p.reserve⟩

/-- What a resolution does to one player, and records of it. -/
structure OneHit (t : CoopSession) (ok : Bool) (news : List CoopAction)
    (p q : CoopPlayer) : Prop where
  deaths : (news.filter (deathOf p.id)).length ≤ 1
  damages : (news.filter (damageOf p.id)).length ≤ 1
  never_both : news.filter (deathOf p.id) = [] ∨ news.filter (damageOf p.id) = []
  shielded : p.starTicks ≠ 0 ∨ p.protectionTicks ≠ 0 → news.filter (damageOf p.id) = []
  drops : ∀ a ∈ news.filter (reserveDropOf p.id), Hurt t p ∧ p.reserve ≠ 0 ∧ a.value = p.reserve
  told : ok = true → Asked t news p
  cleared : Hurt t p → q.reserve = 0
  kept : Dies t p → q.reserve = p.reserve

section Fates

variable {s t : CoopSession}

theorem filter_hits (id : CoopPlayerId) {P : CoopAction → Bool} (as : List CoopAction)
    (h : ∀ a, P a = true → hitOf id a = true) : as.filter P = (as.filter (hitOf id)).filter P := by
  rw [List.filter_filter]
  apply List.filter_congr
  intro a _
  cases hp : P a with
  | false => rfl
  | true => rw [h a hp]; rfl

/-- The three logs of a player are read off its hits. -/
theorem Asked.of_hits {as : List CoopAction} {p : CoopPlayer}
    (h : as.filter (hitOf p.id) =
      asked (Dies t p) ⟨.is .death, p.id, COOP_NO_ENTITY, 0⟩ ++
        if Hurt t p then hurtLog p else []) :
    Asked t as p := by
  constructor
  · rw [filter_hits p.id as, h]
    · by_cases hdies : Dies t p <;> by_cases hhurt : Hurt t p <;>
        by_cases hreserve : p.reserve = 0 <;>
        simp [asked, hurtLog, deathOf, hdies, hhurt, hreserve]
    · intro a ha
      simp only [deathOf, decide_eq_true_eq] at ha
      simp [hitOf, ha.1, ha.2]
  · rw [filter_hits p.id as, h]
    · by_cases hdies : Dies t p <;> by_cases hhurt : Hurt t p <;>
        by_cases hreserve : p.reserve = 0 <;>
        simp [asked, hurtLog, damageOf, hdies, hhurt, hreserve]
    · intro a ha
      simp only [damageOf, decide_eq_true_eq] at ha
      simp [hitOf, ha.1, ha.2]
  · rw [filter_hits p.id as, h]
    · by_cases hdies : Dies t p <;> by_cases hhurt : Hurt t p <;>
        by_cases hreserve : p.reserve = 0 <;>
        simp [asked, hurtLog, reserveDropOf, hdies, hhurt, hreserve]
    · intro a ha
      simp only [reserveDropOf, decide_eq_true_eq] at ha
      simp [hitOf, ha.1, ha.2]

theorem vulnerable_deadPlayer (p : CoopPlayer) : ¬ Vulnerable (deadPlayer p) := fun h => nomatch h.1

/-- Sorting the events changes neither whom they kill nor whom they hit. -/
theorem beginResolve_events (t : CoopSession) (id : CoopPlayerId) :
    (Doomed (beginResolve t).events id ↔ Doomed t.events id) ∧
      ((∃ v ∈ (beginResolve t).events, Hurts id v) ↔ ∃ v ∈ t.events, Hurts id v) := by
  obtain ⟨-, hperm⟩ := sorted_beginResolve t
  unfold Doomed
  simp only [hperm.mem_iff, and_self]

/-- A player's record behind the lethal pass. -/
def lethalFate (t : CoopSession) (p : CoopPlayer) : CoopPlayer :=
  if Dies t p then deadPlayer p else p

/-- The lethal pass kills who dies, and asks for that alone. -/
theorem lethalPass_fate (t : CoopSession) : ∃ as,
    Emits (beginResolve t) ((beginResolve t).events.foldl lethalStep (beginResolve t)) as ∧
    ∀ id p, coopPlayer t id = some p →
      coopPlayer ((beginResolve t).events.foldl lethalStep (beginResolve t)) id =
        some (lethalFate t p) ∧
      as.filter (hitOf id) = asked (Dies t p) ⟨.is .death, id, COOP_NO_ENTITY, 0⟩ := by
  obtain ⟨as, hdeaths, hkinds, hlog⟩ := emits_lethalPass (beginResolve t).events (beginResolve t)
  refine ⟨as, hdeaths, fun id p hp => ?_⟩
  have hsame : coopPlayer (beginResolve t) id = some p := hp
  have hdies : Doomed (beginResolve t).events id ∧ alive (beginResolve t) id = true ↔ Dies t p := by
    have hlive : alive (beginResolve t) id = true ↔ p.life = .is .playing :=
      alive_of_coopPlayer hsame
    rw [hlive, (beginResolve_events t id).1, ← coopPlayer_id hp]
    exact And.comm
  constructor
  · rw [lethalPass_player, hsame]
    unfold lethalFate
    by_cases h : Dies t p
    · rw [if_pos h, if_pos (hdies.2 h)]
      rfl
    · rw [if_neg h, if_neg fun hd => h (hdies.1 hd)]
  · have hdeath : as.filter (hitOf id) = as.filter (deathOf id) := by
      apply List.filter_congr
      intro a ha
      rcases hkinds a ha with hk | hk | hk <;> simp [hitOf, deathOf, hk]
    rw [hdeath, hlog id]
    unfold asked
    by_cases h : Dies t p
    · rw [if_pos h, if_pos (hdies.2 h)]
    · rw [if_neg h, if_neg fun hd => h (hdies.1 hd)]

theorem lethalFate_reserve (t : CoopSession) (p : CoopPlayer) :
    (lethalFate t p).reserve = p.reserve := by
  unfold lethalFate
  split <;> rfl

theorem lethalFate_hurtLog (t : CoopSession) (p : CoopPlayer) :
    hurtLog (lethalFate t p) = hurtLog p := by
  unfold lethalFate
  split <;> rfl

/-- Whoever the lethal pass killed can no longer be hurt, and whoever can be hurt is hit without a
lethal flag. -/
theorem lethalFate_hurt {id : CoopPlayerId} {p : CoopPlayer} (hp : coopPlayer t id = some p) :
    (Vulnerable (lethalFate t p) ∧ ∃ v ∈ (beginResolve t).events, Hurts id v) ↔ Hurt t p := by
  rw [(beginResolve_events t id).2, ← coopPlayer_id hp]
  unfold lethalFate Hurt
  by_cases hdies : Dies t p
  · rw [if_pos hdies]
    exact ⟨fun h => absurd h.1 (vulnerable_deadPlayer p), fun h => absurd hdies.2 h.2.1⟩
  · rw [if_neg hdies]
    constructor
    · rintro ⟨hvulnerable, hhit⟩
      exact ⟨hvulnerable, fun hd => hdies ⟨hvulnerable.1, hd⟩, hhit⟩
    · rintro ⟨hvulnerable, -, hhit⟩
      exact ⟨hvulnerable, hhit⟩

theorem Struck.log {hit c : Prop} [Decidable c] {id : CoopPlayerId} {as : List CoopAction}
    {q q' : CoopPlayer}
    (h : Struck hit id as q q') (hiff : Vulnerable q ∧ hit ↔ c) :
    as.filter (hitOf id) = (if c then hurtLog q else []) ∧ q'.reserve = if c then 0
    else q.reserve := by
  rcases h with ⟨hh, hlog, hreserve, -⟩ | ⟨hh, hlog, hreserve, -⟩
  · rw [if_pos (hiff.1 hh), if_pos (hiff.1 hh)]
    exact ⟨hlog, hreserve⟩
  · rw [if_neg fun hc => hh (hiff.2 hc), if_neg fun hc => hh (hiff.2 hc)]
    exact ⟨hlog, hreserve⟩

/-- Every player dies, is hurt or is spared. -/
theorem resolvePasses_hits (t : CoopSession) (hticks : t.ticksPerSecond * 2 ≠ 0) :
    ∃ as, Emits t (resolvePasses (beginResolve t)) as ∧ ∀ id p, coopPlayer t id = some p →
      ∃ q, coopPlayer (resolvePasses (beginResolve t)) id = some q ∧ Asked t as p ∧
        q.reserve = if Hurt t p then 0 else p.reserve := by
  have hbegin : Emits t (beginResolve t) [] := Emits.of_eq rfl rfl
  unfold resolvePasses
  dsimp only
  generalize (beginResolve t).events.foldl (terminalStep (beginResolve t)) ⟨none, false, 0⟩ = x
  obtain ⟨ds, hdeaths, hfates⟩ := lethalPass_fate t
  have hledger := ledger_lethalPass (beginResolve t).events (s := beginResolve t)
  have hevents : ((beginResolve t).events.foldl lethalStep (beginResolve t)).events =
    (beginResolve t).events :=
    congrArg Ledger.events hledger
  have hticks' : ((beginResolve t).events.foldl lethalStep (beginResolve t)).ticksPerSecond * 2 ≠
    0 := by
    have hsame : ((beginResolve t).events.foldl lethalStep (beginResolve t)).ticksPerSecond =
      t.ticksPerSecond :=
      congrArg Ledger.ticksPerSecond hledger
    rw [hsame]
    exact hticks
  generalize (beginResolve t).events.foldl lethalStep (beginResolve t) =
    s₁ at hdeaths hfates hevents hticks' ⊢
  rw [hevents]
  obtain ⟨as, hloop, hstruck⟩ :=
    eventLoop_hits _ (beginResolve t).events (Nat.le_refl _) ⟨s₁, false, false⟩ hticks'
  obtain ⟨⟨bs, hend, hkinds⟩, hplayers⟩ :=
    emits_finishFrame (eventLoop ⟨s₁, false, false⟩ 0 (beginResolve t).events).session x
  refine ⟨_, ((hbegin.trans hdeaths).trans hloop).trans hend, fun id p hp => ?_⟩
  obtain ⟨hfirst, hds⟩ := hfates id p hp
  obtain ⟨q, hq, hfate⟩ := hstruck id _ hfirst
  obtain ⟨has, hreserve⟩ := hfate.log (lethalFate_hurt hp)
  rw [lethalFate_hurtLog] at has
  rw [lethalFate_reserve] at hreserve
  have hbs : bs.filter (hitOf id) = [] := by
    apply filter_hits_nil
    intro a ha
    rcases hkinds a ha with hk | hk | hk <;> simp [hk]
  refine ⟨q, ?_, Asked.of_hits ?_, hreserve⟩
  · unfold coopPlayer
    rw [hplayers]
    exact hq
  · rw [List.nil_append, List.filter_append, List.filter_append, coopPlayer_id hp, hds, has, hbs,
      List.append_nil]

theorem asked_length {c : Prop} [Decidable c] (a : CoopAction) : (asked c a).length ≤ 1 := by
  unfold asked
  split <;> simp

/-- What is recorded of the logs of one player. -/
theorem Asked.oneHit {as news : List CoopAction} {p q : CoopPlayer} {ok : Bool} (h : Asked t as p)
    (hsub : news.Sublist as) (hall : ok = true → news = as)
    (hreserve : q.reserve = if Hurt t p then 0 else p.reserve) : OneHit t ok news p q := by
  have hdeaths := hsub.filter (deathOf p.id)
  have hdamages := hsub.filter (damageOf p.id)
  have hdrops := hsub.filter (reserveDropOf p.id)
  rw [h.deaths] at hdeaths
  rw [h.damages] at hdamages
  rw [h.drops] at hdrops
  have hnodamage : ¬ Hurt t p → news.filter (damageOf p.id) = [] := by
    intro hhurt
    rw [asked, if_neg hhurt] at hdamages
    exact List.sublist_nil.1 hdamages
  refine ⟨?_, ?_, ?_, ?_, ?_, ?_, ?_, ?_⟩
  · exact Nat.le_trans hdeaths.length_le (asked_length _)
  · exact Nat.le_trans hdamages.length_le (asked_length _)
  · by_cases hdies : Dies t p
    · exact Or.inr (hnodamage fun hhurt => hhurt.2.1 hdies.2)
    · rw [asked, if_neg hdies] at hdeaths
      exact Or.inl (List.sublist_nil.1 hdeaths)
  · intro hshield
    apply hnodamage
    rintro ⟨⟨-, hstar, hprotection⟩, -⟩
    rcases hshield with h | h
    · exact h hstar
    · exact h hprotection
  · intro a ha
    obtain ⟨⟨hhurt, hnonzero⟩, rfl⟩ := mem_asked.1 (hdrops.subset ha)
    exact ⟨hhurt, hnonzero, rfl⟩
  · intro hok
    rw [hall hok]
    exact h
  · intro hhurt
    rw [hreserve, if_pos hhurt]
  · intro hdies
    rw [hreserve, if_neg fun hhurt => hhurt.2.1 hdies.2]

theorem ticks_doubled (h : Valid s) : s.ticksPerSecond * 2 ≠ 0 := by
  obtain ⟨hpos, hle⟩ := h.ticks
  intro hzero
  have hzero := congrArg UInt32.toNat hzero
  have htwo : (2 : UInt32).toNat = 2 := rfl
  rw [UInt32.toNat_mul, htwo] at hzero
  have hnat : s.ticksPerSecond.toNat ≠ 0 := fun h => hpos (UInt32.toNat_inj.1 h)
  rw [UInt32.le_iff_toNat_le] at hle
  have hmax : (1000 : UInt32).toNat = 1000 := rfl
  have hnone : (0 : UInt32).toNat = 0 := rfl
  omega

/-- **One hit per player per frame.**  Whatever a frame's events, every player dies at most once or
is hurt at most once, never both, and not at all while shielded; its reserve is dropped with its
hurt and with nothing else. -/
theorem one_hit {ok : Bool} {r : CoopSession} {es : List CoopEvent} (hvalid : Valid s)
    (hbegun : s.events = []) (haccepted : acceptEvents s es = some t)
    (hresolve : coopSessionResolve t = (ok, r)) :
    t.events = es ∧ ∃ news, r.actions = t.actions ++ news ∧
      ∀ id p, coopPlayer t id = some p → ∃ q, coopPlayer r id = some q ∧ OneHit t ok news p q := by
  obtain ⟨hvalid', hevents, hcases⟩ := resolve_accepted hvalid hbegun haccepted hresolve
  refine ⟨hevents, ?_⟩
  rcases hcases with ⟨rfl, rfl⟩ | ⟨rfl, rfl⟩
  · refine ⟨[], (List.append_nil _).symm, ?_⟩
    intro id p hp
    have hdies : ¬ Dies r p := by
      rintro ⟨-, e, he, -⟩
      rw [hevents] at he
      cases he
    have hhurt : ¬ Hurt r p := by
      rintro ⟨-, -, e, he, -⟩
      rw [hevents] at he
      cases he
    have hasked : Asked r [] p := by
      apply Asked.of_hits
      rw [asked, if_neg hdies, if_neg hhurt]
      rfl
    refine ⟨p, hp, hasked.oneHit (List.Sublist.refl _) (fun _ => rfl) ?_⟩
    rw [if_neg hhurt]
  · obtain ⟨as, hemits, hfates⟩ := resolvePasses_hits t (ticks_doubled hvalid')
    obtain ⟨news, hnews, hsub, hall⟩ := hemits.recorded
    refine ⟨news, hnews, ?_⟩
    intro id p hp
    obtain ⟨q, hq, hasked, hreserve⟩ := hfates id p hp
    exact ⟨q, hq, hasked.oneHit hsub (fun hok => hall (by simpa using hok)) hreserve⟩

end Fates

/-- A begun frame of two players with a reserve each. -/
def reserveFrame (allocator : Allocator) : CoopSession :=
  let s := (coopSessionInit allocator 2 60).getD arbitrationSession
  (coopSessionBeginFrame
    { s with players := s.players.map fun p => { p with reserve := 1 } } true).2

/-- The first player is hurt twice, the second is hurt and killed. -/
def reserveEvents : List CoopEvent :=
  [⟨.is .damage, 0, COOP_NO_ENTITY, 0, 0, 0⟩, ⟨.is .damage, 1, COOP_NO_ENTITY, 0, 0, 0⟩,
   ⟨.is .damage, 0, COOP_NO_ENTITY, 0, 0, 0⟩, ⟨.is .death, 1, COOP_NO_ENTITY, 0, 0, 0⟩]

def reserveReady : CoopSession := (acceptEvents (reserveFrame []) reserveEvents).get (by decide)

theorem one_hit_reserve : reserveReady.events = reserveEvents ∧
    ∃ news, (coopSessionResolve reserveReady).2.actions = reserveReady.actions ++ news ∧
      ∀ id p, coopPlayer reserveReady id = some p →
        ∃ q, coopPlayer (coopSessionResolve reserveReady).2 id = some q ∧
          OneHit reserveReady (coopSessionResolve reserveReady).1 news p q :=
  one_hit (s := reserveFrame []) (valid_iff.1 (by decide)) rfl (Option.some_get _).symm rfl

/-- The same frame where the third allocation is refused. -/
def reserveRefused : CoopSession :=
  (acceptEvents (reserveFrame [true, true, false]) [⟨.is .damage, 0, COOP_NO_ENTITY, 0, 0, 0⟩]).get
    (by decide)

/-- The hurt player's reserve goes undropped where the action list cannot grow. -/
theorem drop_refused : Valid (reserveFrame [true, true, false]) ∧
    acceptEvents (reserveFrame [true, true, false]) [⟨.is .damage, 0, COOP_NO_ENTITY, 0, 0, 0⟩] =
      some reserveRefused ∧
    (∃ p, coopPlayer reserveRefused 0 = some p ∧ Hurt reserveRefused p ∧ p.reserve = 1) ∧
    (coopSessionResolve reserveRefused).2.actions.filter (reserveDropOf 0) = [] := by
  refine ⟨valid_iff.1 (by decide), (Option.some_get _).symm, ?_, by decide⟩
  exact ⟨(coopPlayer reserveRefused 0).get (by decide),
    (Option.some_get _).symm, by decide, by decide⟩

end SmwRecomp.Coop
