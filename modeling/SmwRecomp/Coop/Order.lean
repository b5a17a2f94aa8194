import SmwRecomp.Coop.Emit

/-!
# Frame resolution does not depend on arrival or storage order

* `sortEvents_perm` — `compare_event` is a total order on whole records, so `qsort` returns one
  array for every arrival order.
* `Reordered` — sessions that differ in the order of their stored events only.
  `acceptEvents_perm`: permuted inputs are accepted alike and lead to reordered sessions;
  `resolve_reordered`: resolution maps them to sessions that differ in nothing the game reads.
* `Rearranged` — sessions that differ in the storage order of their players only (ids distinct).
  Every pass of `coop_session_resolve` preserves it.
* `resolve_order_independent` — both directions together.
-/

set_option autoImplicit false

namespace SmwRecomp.Coop

/-! ## The order of `compare_event` -/

instance : Std.TransCmp compareEvent :=
  inferInstanceAs (Std.TransCmp
    (compareLex (compareOn fun a : CoopEvent => a.kind.toWord)
    (compareLex (compareOn fun a : CoopEvent => a.entity)
    (compareLex (compareOn fun a : CoopEvent => a.player)
    (compareLex (compareOn fun a : CoopEvent => a.value)
    (compareLex (compareOn fun a : CoopEvent => a.flags)
      (compareOn fun a : CoopEvent => a.distanceSquared)))))))

theorem eq_of_compareEvent {a b : CoopEvent} (h : compareEvent a b = .eq) : a = b := by
  simp only [compareEvent, Ordering.then_eq_eq, Std.LawfulEqOrd.compare_eq_iff_eq] at h
  obtain ⟨h1, h2, h3, h4, h5, h6⟩ := h
  cases a; cases b
  simp only at h1 h2 h3 h4 h5 h6
  rw [CEnum.toWord_injective h1, h2, h3, h4, h5, h6]

theorem compareEvent_swap (a b : CoopEvent) : compareEvent a b = (compareEvent b a).swap :=
  Std.OrientedCmp.eq_swap

theorem compareEvent_antisymm {a b : CoopEvent} (hab : (compareEvent a b).isLE)
    (hba : (compareEvent b a).isLE) : a = b := by
  refine eq_of_compareEvent ?_
  rw [compareEvent_swap] at hba
  cases h : compareEvent a b <;> simp_all

instance : Std.Total (fun a b : CoopEvent => (compareEvent a b).isLE = true) where
  total a b := by
    rw [compareEvent_swap b a]
    cases compareEvent a b <;> simp

instance : IsTrans CoopEvent (fun a b => (compareEvent a b).isLE = true) where
  trans _ _ _ := Std.TransCmp.isLE_trans

/-- **`qsort` returns one array for every arrival order.** -/
theorem sortEvents_perm {es es' : List CoopEvent} (h : es.Perm es') :
    sortEvents es = sortEvents es' := by
  have hsorted : ∀ es : List CoopEvent,
      (sortEvents es).Pairwise (fun a b => (compareEvent a b).isLE = true) :=
    fun es => List.pairwise_insertionSort _ es
  exact List.Perm.eq_of_pairwise (fun a b _ _ => compareEvent_antisymm) (hsorted es) (hsorted es')
    ((List.perm_insertionSort _ _).trans (h.trans (List.perm_insertionSort _ _).symm))

/-! ## Arrival order -/

/-- The same session up to the order of its stored events. -/
def Reordered (s s' : CoopSession) : Prop :=
  ∃ events, s' = { s with events := events } ∧ s.events.Perm events

theorem Reordered.refl (s : CoopSession) : Reordered s s := ⟨s.events, rfl, List.Perm.refl _⟩

theorem Reordered.trans {s s' s'' : CoopSession} (h : Reordered s s') (h' : Reordered s' s'') :
    Reordered s s'' := by
  obtain ⟨es, rfl, hp⟩ := h
  obtain ⟨es', rfl, hp'⟩ := h'
  exact ⟨es', rfl, hp.trans hp'⟩

/-- Feed a list of events to `coop_session_event`; `none` unless every one is accepted. -/
def acceptEvents : CoopSession → List CoopEvent → Option CoopSession
  | s, [] => some s
  | s, e :: es =>
    match coopSessionEvent s e with
    | (true, s') => acceptEvents s' es
    | (false, _) => none

/-- When `coop_session_event` accepts, and what it then leaves. -/
theorem coopSessionEvent_accepted {s s' : CoopSession} {e : CoopEvent} :
    coopSessionEvent s e = (true, s') ↔
      eventAllowed s e = true ∧ s.events.length ≠ SIZE_MAX ∧
        ∃ capacity rest,
          grow s.allocator s.eventCapacity (s.events.length + 1) sizeofCoopEvent =
            (some capacity, rest) ∧
          s' = { s with events := s.events ++ [e], eventCapacity := capacity, allocator := rest } := by
  unfold coopSessionEvent
  constructor
  · intro h
    split at h
    · cases h
    rename_i hallowed
    split at h
    · cases h
    rename_i hmax
    split at h
    · cases h
    rename_i capacity rest hgrow
    cases h
    exact ⟨by simpa using hallowed, hmax, capacity, rest, hgrow, rfl⟩
  · rintro ⟨hallowed, hmax, capacity, rest, hgrow, rfl⟩
    simp [hallowed, hmax, hgrow]

/-- Acceptance does not look at the order of the events already stored. -/
theorem coopSessionEvent_reordered {s s₁ t : CoopSession} {e : CoopEvent}
    (h : coopSessionEvent s e = (true, s₁)) (hr : Reordered s t) :
    ∃ t₁, coopSessionEvent t e = (true, t₁) ∧ Reordered s₁ t₁ := by
  obtain ⟨es, rfl, hp⟩ := hr
  obtain ⟨hallowed, hmax, capacity, rest, hgrow, rfl⟩ := coopSessionEvent_accepted.1 h
  refine ⟨_, coopSessionEvent_accepted.2 ⟨hallowed, ?_, capacity, rest, ?_, rfl⟩, ?_⟩
  · rw [← hp.length_eq]; exact hmax
  · rw [← hp.length_eq]; exact hgrow
  · exact ⟨_, rfl, hp.append_right [e]⟩

/-- Two accepted events may arrive in either order. -/
theorem coopSessionEvent_swap {s s₁ s₂ : CoopSession} {e f : CoopEvent}
    (he : coopSessionEvent s e = (true, s₁)) (hf : coopSessionEvent s₁ f = (true, s₂)) :
    ∃ t₁ t₂, coopSessionEvent s f = (true, t₁) ∧ coopSessionEvent t₁ e = (true, t₂) ∧
      Reordered s₂ t₂ := by
  obtain ⟨ha, hm, cap, rest, hg, rfl⟩ := coopSessionEvent_accepted.1 he
  obtain ⟨ha', hm', cap', rest', hg', rfl⟩ := coopSessionEvent_accepted.1 hf
  have hlen : (s.events ++ [e]).length = (s.events ++ [f]).length := by simp
  refine ⟨_, _, coopSessionEvent_accepted.2 ⟨ha', hm, cap, rest, hg, rfl⟩,
    coopSessionEvent_accepted.2 ⟨ha, ?_, cap', rest', ?_, rfl⟩, ?_⟩
  · simp only [List.length_append, List.length_cons, List.length_nil] at hm' ⊢
    exact hm'
  · simp only [List.length_append, List.length_cons, List.length_nil] at hg' ⊢
    exact hg'
  · refine ⟨_, rfl, ?_⟩
    simp only [List.append_assoc, List.singleton_append]
    exact (List.Perm.swap f e []).append_left s.events

theorem acceptEvents_cons {s s' : CoopSession} {e : CoopEvent} {es : List CoopEvent}
    (h : acceptEvents s (e :: es) = some s') :
    ∃ s₁, coopSessionEvent s e = (true, s₁) ∧ acceptEvents s₁ es = some s' := by
  rw [acceptEvents] at h
  split at h
  · rename_i s₁ hs; exact ⟨s₁, hs, h⟩
  · cases h

theorem acceptEvents_of_cons {s s₁ s' : CoopSession} {e : CoopEvent} {es : List CoopEvent}
    (he : coopSessionEvent s e = (true, s₁)) (h : acceptEvents s₁ es = some s') :
    acceptEvents s (e :: es) = some s' := by
  rw [acceptEvents, he]; exact h

/-- Accepted events lie behind the earlier ones, and nothing else of the session changes but the
room for them. -/
theorem acceptEvents_some (es : List CoopEvent) :
    ∀ {s s' : CoopSession}, acceptEvents s es = some s' →
    ∃ capacity rest,
    s' = { s with events := s.events ++ es, eventCapacity := capacity, allocator := rest } := by
  induction es with
  | nil =>
      intro s s' h
      cases h
      exact ⟨s.eventCapacity, s.allocator, by rw [List.append_nil]⟩
  | cons e es ih =>
      intro s s' h
      obtain ⟨s₁, he, h⟩ := acceptEvents_cons h
      obtain ⟨-, -, capacity, rest, -, rfl⟩ := coopSessionEvent_accepted.1 he
      obtain ⟨capacity', rest', rfl⟩ := ih h
      exact ⟨capacity', rest', by simp⟩

theorem acceptEvents_reordered (es : List CoopEvent) : ∀ {s t s' : CoopSession}, Reordered s t →
    acceptEvents s es = some s' → ∃ t', acceptEvents t es = some t' ∧ Reordered s' t' := by
  induction es with
  | nil => intro s t s' hr h; cases h; exact ⟨t, rfl, hr⟩
  | cons e es ih =>
      intro s t s' hr h
      obtain ⟨s₁, he, h⟩ := acceptEvents_cons h
      obtain ⟨t₁, he', hr₁⟩ := coopSessionEvent_reordered he hr
      obtain ⟨t', ht, hr'⟩ := ih hr₁ h
      exact ⟨t', acceptEvents_of_cons he' ht, hr'⟩

/-- **Every permutation of accepted inputs is accepted**, and leaves the same session up to the
order of the stored events. -/
theorem acceptEvents_perm {es es' : List CoopEvent} (hp : es.Perm es') :
    ∀ {s s' : CoopSession}, acceptEvents s es = some s' →
      ∃ t', acceptEvents s es' = some t' ∧ Reordered s' t' := by
  induction hp with
  | nil => intro s s' h; exact ⟨s', h, Reordered.refl s'⟩
  | cons e _ ih =>
      intro s s' h
      obtain ⟨s₁, he, h⟩ := acceptEvents_cons h
      obtain ⟨t', ht, hr⟩ := ih h
      exact ⟨t', acceptEvents_of_cons he ht, hr⟩
  | swap e f es =>
      intro s s' h
      obtain ⟨s₁, hf, h⟩ := acceptEvents_cons h
      obtain ⟨s₂, he, h⟩ := acceptEvents_cons h
      obtain ⟨t₁, t₂, he', hf', hr⟩ := coopSessionEvent_swap hf he
      -- the remaining events run from two sessions that are reorderings of each other
      obtain ⟨t', ht, hr'⟩ := acceptEvents_reordered es hr h
      exact ⟨t', acceptEvents_of_cons he' (acceptEvents_of_cons hf' ht), hr'⟩
  | trans _ _ ih₁ ih₂ =>
      intro s s' h
      obtain ⟨u, hu, hru⟩ := ih₁ h
      obtain ⟨t', ht, hrt⟩ := ih₂ hu
      exact ⟨t', ht, hru.trans hrt⟩

/-- The array the passes run over is the same for every arrival order. -/
theorem sorted_reordered {es es' : List CoopEvent} (h : es.Perm es') :
    (if es.length > 1 then sortEvents es else es) =
      if es'.length > 1 then sortEvents es' else es' := by
  rw [← h.length_eq]
  split
  · exact sortEvents_perm h
  · rename_i hlen
    match es, hlen with
    | [], _ => rw [List.nil_perm.1 h]
    | [e], _ => rw [List.singleton_perm.1 h]
    | _ :: _ :: _, hlen => simp at hlen

/-- Resolution maps reorderings to reorderings; past the early returns it maps them to one
session. -/
theorem resolve_reordered {s t : CoopSession} (h : Reordered s t) :
    (coopSessionResolve s).1 = (coopSessionResolve t).1 ∧
      Reordered (coopSessionResolve s).2 (coopSessionResolve t).2 := by
  have hr := h
  obtain ⟨es, rfl, hp⟩ := h
  have hnil : s.events = [] ↔ es = [] :=
    ⟨fun h => List.nil_perm.1 (h ▸ hp), fun h => List.perm_nil.1 (h ▸ hp)⟩
  have hbegin : beginResolve { s with events := es } = beginResolve s := by
    unfold beginResolve
    dsimp only
    rw [sorted_reordered hp]
  unfold coopSessionResolve
  rw [hbegin]
  dsimp only
  split
  · exact ⟨rfl, hr⟩
  split
  · exact ⟨rfl, hr⟩
  by_cases hidle : (!s.advancing) = true ∧ s.events = []
  · rw [if_pos hidle, if_pos ⟨hidle.1, hnil.1 hidle.2⟩]
    exact ⟨rfl, hr⟩
  · rw [if_neg hidle, if_neg fun h => hidle ⟨h.1, hnil.2 h.2⟩]
    exact ⟨rfl, Reordered.refl _⟩

/-! ## Storage order -/

/-- The same session up to the storage order of its players, whose ids are distinct. -/
def Rearranged (s s' : CoopSession) : Prop :=
  ∃ players, s' = { s with players := players } ∧ s.players.Perm players ∧
    (s.players.map CoopPlayer.id).Nodup

section Rearranged

variable {s s' : CoopSession}

theorem Rearranged.coopPlayer (h : Rearranged s s') (id : CoopPlayerId) :
    coopPlayer s' id = coopPlayer s id := by
  obtain ⟨ps, rfl, hp, hn⟩ := h
  exact (findKey_perm hn hp id).symm

theorem Rearranged.coopActiveCount (h : Rearranged s s') :
    coopActiveCount s' = coopActiveCount s := by
  obtain ⟨ps, rfl, hp, _⟩ := h
  exact (hp.countP_eq _).symm

theorem Rearranged.emit (h : Rearranged s s') (kind : CoopActionKind) (player : CoopPlayerId)
    (entity : CoopEntityId) (value : UInt32) :
    Rearranged (emit s kind player entity value) (emit s' kind player entity value) := by
  obtain ⟨ps, rfl, hp, hn⟩ := h
  exact ⟨ps, emit_withPlayers s ps, by simpa using hp, by simpa using hn⟩

theorem Rearranged.putPlayer (h : Rearranged s s') (p : CoopPlayer) :
    Rearranged (putPlayer s p) (putPlayer s' p) := by
  obtain ⟨ps, rfl, hp, hn⟩ := h
  exact ⟨_, rfl, putKey_perm hn hp, by rw [putPlayer_ids]; exact hn⟩

theorem Rearranged.dropHeld (h : Rearranged s s') (p : CoopPlayer) :
    Rearranged (dropHeld s p) (dropHeld s' p) := by
  unfold Coop.dropHeld
  split
  · exact h.emit _ _ _ _
  · exact h

theorem Rearranged.detachMount (h : Rearranged s s') (p : CoopPlayer) :
    Rearranged (detachMount s p) (detachMount s' p) := by
  unfold Coop.detachMount
  split
  · exact h.emit _ _ _ _
  · exact h

theorem Rearranged.die (h : Rearranged s s') (p : CoopPlayer) :
    Rearranged (die s p) (die s' p) := by
  unfold Coop.die
  split
  · exact h
  · exact (((h.dropHeld p).detachMount p).putPlayer _).emit _ _ _ _

theorem Rearranged.lethalStep (h : Rearranged s s') (e : CoopEvent) :
    Rearranged (lethalStep s e) (lethalStep s' e) := by
  unfold Coop.lethalStep
  rw [h.coopPlayer]
  split
  · exact h
  · split
    · exact h.die _
    · exact h

theorem Rearranged.lethalPass (h : Rearranged s s') (es : List CoopEvent) :
    Rearranged (es.foldl Coop.lethalStep s) (es.foldl Coop.lethalStep s') := by
  induction es generalizing s s' with
  | nil => exact h
  | cons e es ih => exact ih (h.lethalStep e)

theorem Rearranged.beats (h : Rearranged s s') (v : CoopEvent) (w : Option CoopEvent) :
    beats s' v w = beats s v w := by
  obtain ⟨ps, rfl, _⟩ := h; rfl

theorem Rearranged.terminalStep (h : Rearranged s s') : terminalStep s' = terminalStep s := by
  obtain ⟨ps, rfl, _⟩ := h; rfl

/-- The relation on the state of the inner loop over a group. -/
structure Contest.Rearranged (g g' : Contest) : Prop where
  winner : g'.winner = g.winner
  bounced : g'.bounced = g.bounced
  session : Coop.Rearranged g.session g'.session

theorem Contest.Rearranged.contend {g g' : Contest} (h : g.Rearranged g') (v : CoopEvent) :
    (g.contend v).Rearranged (g'.contend v) := by
  unfold Contest.contend
  rw [h.session.beats, h.winner]
  split
  · exact ⟨rfl, h.bounced, h.session⟩
  · exact h

theorem Contest.Rearranged.bounce {g g' : Contest} (h : g.Rearranged g') (e v : CoopEvent) :
    (g.bounce e v).Rearranged (g'.bounce e v) := by
  unfold Contest.bounce
  rw [h.bounced]
  split
  · exact ⟨h.winner, rfl, h.session.emit _ _ _ _⟩
  · exact h

theorem Contest.Rearranged.step {g g' : Contest} (h : g.Rearranged g') (e v : CoopEvent) :
    (contestStep e g v).Rearranged (contestStep e g' v) := by
  unfold contestStep
  rw [h.session.coopPlayer]
  split
  · exact h
  · split
    · exact h
    · exact (h.contend v).bounce e v

theorem Contest.Rearranged.fold {g g' : Contest} (h : g.Rearranged g') (e : CoopEvent)
    (group : List CoopEvent) :
    (group.foldl (contestStep e) g).Rearranged (group.foldl (contestStep e) g') := by
  induction group generalizing g g' with
  | nil => exact h
  | cons v group ih => exact ih (h.step e v)

theorem Rearranged.contest (h : Rearranged s s') (e : CoopEvent) (group : List CoopEvent) :
    Rearranged (contest s e group) (contest s' e group) := by
  have hstart : Contest.Rearranged ⟨none, COOP_NO_PLAYER, s⟩ ⟨none, COOP_NO_PLAYER, s'⟩ :=
    ⟨rfl, rfl, h⟩
  have hg := hstart.fold e group
  unfold Coop.contest
  dsimp only
  rw [hg.winner]
  split
  · exact hg.session
  · exact hg.session.emit _ _ _ _

theorem Rearranged.damageStep (h : Rearranged s s') (e : CoopEvent) (p : CoopPlayer) :
    Rearranged (damageStep s e p) (damageStep s' e p) := by
  have hrecord : damagedPlayer s' p = damagedPlayer s p := by obtain ⟨ps, rfl, _⟩ := h; rfl
  have hdrop : Rearranged (Coop.dropReserve s p) (Coop.dropReserve s' p) := by
    unfold Coop.dropReserve
    split
    · exact h.emit _ _ _ _
    · exact h
  unfold Coop.damageStep
  split
  · exact h
  split
  · exact h
  · rw [hrecord]
    exact (hdrop.putPlayer _).emit _ _ _ _

/-- The checkpoint writes every player alike. -/
theorem Rearranged.checkpointStep (h : Rearranged s s') (e : CoopEvent) :
    Rearranged (checkpointStep s e) (checkpointStep s' e) := by
  obtain ⟨ps, rfl, hp, hn⟩ := h
  refine Rearranged.emit ⟨_, rfl, hp.map _, ?_⟩ _ _ _ _
  rw [List.map_map]
  exact hn

theorem Rearranged.deathFinishedStep (h : Rearranged s s') (p : CoopPlayer) :
    Rearranged (deathFinishedStep s p) (deathFinishedStep s' p) := by
  have htps : s'.ticksPerSecond = s.ticksPerSecond := by obtain ⟨ps, rfl, _⟩ := h; rfl
  unfold Coop.deathFinishedStep
  rw [htps]
  split
  · exact h.putPlayer _
  · exact h

/-- The relation on the state of the third loop. -/
structure Pass.Rearranged (g g' : Pass) : Prop where
  session : Coop.Rearranged g.session g'.session
  switchDone : g'.switchDone = g.switchDone
  checkpointDone : g'.checkpointDone = g.checkpointDone

theorem Pass.Rearranged.step {g g' : Pass} (h : g.Rearranged g') (e : CoopEvent)
    (rest : List CoopEvent) :
    (eventStep g e rest).1.Rearranged (eventStep g' e rest).1 ∧
      (eventStep g' e rest).2 = (eventStep g e rest).2 := by
  unfold eventStep
  rw [h.session.coopPlayer]
  split
  · exact ⟨⟨h.session.contest _ _, h.switchDone, h.checkpointDone⟩, rfl⟩
  · exact ⟨⟨h.session.contest _ _, h.switchDone, h.checkpointDone⟩, rfl⟩
  · rw [h.switchDone]
    refine ⟨⟨?_, rfl, h.checkpointDone⟩, rfl⟩
    dsimp only
    split
    · exact h.session.emit _ _ _ _
    · exact h.session
  · rw [h.checkpointDone]
    split
    · exact ⟨h, rfl⟩
    · exact ⟨⟨h.session.checkpointStep e, h.switchDone, rfl⟩, rfl⟩
  · split
    · exact ⟨h, rfl⟩
    · exact ⟨⟨h.session.damageStep _ _, h.switchDone, h.checkpointDone⟩, rfl⟩
  · split
    · exact ⟨h, rfl⟩
    · exact ⟨⟨h.session.deathFinishedStep _, h.switchDone, h.checkpointDone⟩, rfl⟩
  · exact ⟨h, rfl⟩

theorem Pass.Rearranged.loop : ∀ (es : List CoopEvent) {g g' : Pass} (skip : Nat),
    g.Rearranged g' → (eventLoop g skip es).Rearranged (eventLoop g' skip es)
  | [], g, g', skip, h => by cases skip <;> exact h
  | _ :: es, g, g', skip + 1, h => Pass.Rearranged.loop es skip h
  | e :: es, g, g', 0, h => by
    obtain ⟨hstep, hskip⟩ := h.step e es
    unfold eventLoop
    rw [hskip]
    exact Pass.Rearranged.loop es _ hstep

theorem Rearranged.clearLevel (h : Rearranged s s') (x : CoopEvent) (goalStars : UInt32) :
    Rearranged (clearLevel s x goalStars) (clearLevel s' x goalStars) := by
  obtain ⟨ps, rfl, hp, hn⟩ := h
  have hset : Rearranged { s with outcome := .is .clear }
      { s with players := ps, outcome := .is .clear } := ⟨ps, rfl, hp, hn⟩
  exact hset.emit _ _ _ _

theorem Rearranged.chargeLife (h : Rearranged s s') :
    Rearranged (chargeLife s) (chargeLife s') := by
  obtain ⟨ps, rfl, hp, hn⟩ := h
  have hset (lives : UInt32) (outcome : CoopOutcome) :
      Rearranged { s with lives := lives, outcome := .is outcome }
        { s with players := ps, lives := lives, outcome := .is outcome } := ⟨ps, rfl, hp, hn⟩
  exact (hset _ _).emit _ _ _ _

theorem Rearranged.finishFrame (h : Rearranged s s') (t : Terminal) :
    Rearranged (finishFrame s t) (finishFrame s' t) := by
  unfold Coop.finishFrame
  rw [h.coopActiveCount]
  split
  · exact h.clearLevel _ _
  · split
    · exact h.chargeLife
    · exact h

theorem Rearranged.resolvePasses (h : Rearranged s s') :
    Rearranged (resolvePasses s) (resolvePasses s') := by
  have hev : s'.events = s.events := by obtain ⟨ps, rfl, _⟩ := h; rfl
  have hlethal := h.lethalPass s.events
  have hlev : (s.events.foldl Coop.lethalStep s').events =
      (s.events.foldl Coop.lethalStep s).events := by
    obtain ⟨ps, hps, _⟩ := hlethal; rw [hps]
  have hpass : Pass.Rearranged ⟨s.events.foldl Coop.lethalStep s, false, false⟩
      ⟨s.events.foldl Coop.lethalStep s', false, false⟩ := ⟨hlethal, rfl, rfl⟩
  unfold Coop.resolvePasses
  dsimp only
  rw [hev, hlev, h.terminalStep]
  exact (hpass.loop _ 0).session.finishFrame _

theorem Rearranged.resolve (h : Rearranged s s') :
    (coopSessionResolve s').1 = (coopSessionResolve s).1 ∧
      Rearranged (coopSessionResolve s).2 (coopSessionResolve s').2 := by
  have hbegin : Rearranged (beginResolve s) (beginResolve s') := by
    obtain ⟨ps, rfl, hp, hn⟩ := h
    exact ⟨ps, rfl, hp, hn⟩
  have hpasses := hbegin.resolvePasses
  have hfailed : (Coop.resolvePasses (beginResolve s')).failed =
      (Coop.resolvePasses (beginResolve s)).failed := by
    obtain ⟨ps, hps, _⟩ := hpasses; rw [hps]
  have hsame := h
  obtain ⟨ps, rfl, _⟩ := hsame
  unfold coopSessionResolve
  rw [hfailed]
  dsimp only
  split
  · exact ⟨rfl, h⟩
  split
  · exact ⟨rfl, h⟩
  split
  · exact ⟨rfl, h⟩
  · exact ⟨rfl, hpasses⟩

/-- The stored events, and whether they are accepted, do not depend on the players' order. -/
theorem Rearranged.acceptEvents (es : List CoopEvent) : ∀ {s s' s₁ : CoopSession}, Rearranged s s' →
    acceptEvents s es = some s₁ → ∃ s₁', acceptEvents s' es = some s₁' ∧ Rearranged s₁ s₁' := by
  induction es with
  | nil => intro s s' s₁ hr h; cases h; exact ⟨s', rfl, hr⟩
  | cons e es ih =>
      intro s s' s₁ hr h
      obtain ⟨t, he, h⟩ := acceptEvents_cons h
      have hfind := hr.coopPlayer e.player
      obtain ⟨ps, rfl, hp, hn⟩ := hr
      obtain ⟨ha, hm, cap, rest, hg, rfl⟩ := coopSessionEvent_accepted.1 he
      have ha' : eventAllowed { s with players := ps } e = true := by
        unfold eventAllowed at ha ⊢
        rw [hfind]
        exact ha
      have hstep : coopSessionEvent { s with players := ps } e = (true, { s with
          players := ps, events := s.events ++ [e], eventCapacity := cap, allocator := rest }) :=
        coopSessionEvent_accepted.2 ⟨ha', hm, cap, rest, hg, rfl⟩
      have hnext : Rearranged
          { s with events := s.events ++ [e], eventCapacity := cap, allocator := rest }
          { s with
            players := ps, events := s.events ++ [e], eventCapacity := cap, allocator := rest } :=
        ⟨ps, rfl, hp, hn⟩
      obtain ⟨s₁', h', hr'⟩ := ih hnext h
      exact ⟨s₁', acceptEvents_of_cons hstep h', hr'⟩

end Rearranged

/-! ## Order independence -/

/-- Two resolved frames agree in everything the game reads; players are compared by id. -/
structure SameResult (r r' : CoopSession) : Prop where
  actions : r'.actions = r.actions
  player : ∀ id, coopPlayer r' id = coopPlayer r id
  lives : r'.lives = r.lives
  checkpoint : r'.checkpoint = r.checkpoint
  outcome : r'.outcome = r.outcome

theorem Reordered.sameResult {s t : CoopSession} (h : Reordered s t) :
    SameResult s t ∧ t.players = s.players := by
  obtain ⟨es, rfl, _⟩ := h
  exact ⟨⟨rfl, fun _ => rfl, rfl, rfl, rfl⟩, rfl⟩

theorem Rearranged.sameResult {s t : CoopSession} (h : Rearranged s t) : SameResult s t := by
  have hplayer := h.coopPlayer
  obtain ⟨ps, rfl, _⟩ := h
  exact ⟨rfl, hplayer, rfl, rfl, rfl⟩

/-- **Order independence of frame resolution.**  From any begun frame, every permutation of an
accepted list of inputs is accepted and resolves to the same actions, players, lives, checkpoint
and outcome; and so does the same list after any permutation of the players array, player by
player id. -/
theorem resolve_order_independent :
    (∀ (s₀ s s₁ : CoopSession) (advances : Bool) (es es' : List CoopEvent),
      coopSessionBeginFrame s₀ advances = (true, s) → acceptEvents s es = some s₁ → es.Perm es' →
      ∃ t₁, acceptEvents s es' = some t₁ ∧
        SameResult (coopSessionResolve s₁).2 (coopSessionResolve t₁).2 ∧
        (coopSessionResolve t₁).2.players = (coopSessionResolve s₁).2.players) ∧
    (∀ (s₀ s s₁ : CoopSession) (advances : Bool) (es : List CoopEvent) (players : List CoopPlayer),
      coopSessionBeginFrame s₀ advances = (true, s) → acceptEvents s es = some s₁ →
      (s.players.map CoopPlayer.id).Nodup → s.players.Perm players →
      ∃ t₁, acceptEvents { s with players := players } es = some t₁ ∧
        SameResult (coopSessionResolve s₁).2 (coopSessionResolve t₁).2) := by
  refine ⟨?_, ?_⟩
  · intro s₀ s s₁ advances es es' _ hes hp
    obtain ⟨t₁, ht, hr⟩ := acceptEvents_perm hp hes
    exact ⟨t₁, ht, (resolve_reordered hr).2.sameResult⟩
  · intro s₀ s s₁ advances es players _ hes hnd hp
    have hr : Rearranged s { s with players := players } := ⟨players, rfl, hp, hnd⟩
    obtain ⟨t₁, ht, hr₁⟩ := hr.acceptEvents es hes
    exact ⟨t₁, ht, hr₁.resolve.2.sameResult⟩

/-- The contested pickup, double stomp and doubled switch of the arbitration test. -/
def arbitrationEvents : List CoopEvent :=
  [⟨.is .pickup, 0, 91, 2, 0, 16⟩, ⟨.is .pickup, 3, 91, 2, 0, 4⟩, ⟨.is .pickup, 2, 91, 2, 0, 4⟩,
   ⟨.is .enemyContact, 0, 5, 1, COOP_EVENT_STOMP, 0⟩,
   ⟨.is .enemyContact, 1, 5, 1, COOP_EVENT_STOMP, 0⟩, ⟨.is .onOff, 0, 4, 0, 0, 0⟩,
   ⟨.is .onOff, 2, 8, 0, 0, 0⟩]

/-- A session of four players at 60 ticks, before its first frame. -/
def arbitrationSession : CoopSession := (coopSessionInit [] 4 60).get (by decide)

def arbitrationFrame : CoopSession := (coopSessionBeginFrame arbitrationSession true).2

def arbitrationReady : CoopSession :=
  (acceptEvents arbitrationFrame arbitrationEvents).get (by decide)

theorem resolve_order_independent_arbitration :
    (∃ t₁, acceptEvents arbitrationFrame arbitrationEvents.reverse = some t₁ ∧
      SameResult (coopSessionResolve arbitrationReady).2 (coopSessionResolve t₁).2 ∧
      (coopSessionResolve t₁).2.players = (coopSessionResolve arbitrationReady).2.players) ∧
    (∃ t₁, acceptEvents { arbitrationFrame with players := arbitrationFrame.players.reverse }
        arbitrationEvents = some t₁ ∧
      SameResult (coopSessionResolve arbitrationReady).2 (coopSessionResolve t₁).2) :=
  ⟨resolve_order_independent.1 arbitrationSession arbitrationFrame arbitrationReady true
      arbitrationEvents arbitrationEvents.reverse rfl (Option.some_get _).symm
      (List.reverse_perm _).symm,
   resolve_order_independent.2 arbitrationSession arbitrationFrame arbitrationReady true
      arbitrationEvents arbitrationFrame.players.reverse rfl (Option.some_get _).symm
      (by decide) (List.reverse_perm _).symm⟩

end SmwRecomp.Coop
