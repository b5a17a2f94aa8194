import SmwRecomp.Coop.Snapshot
import SmwRecomp.Coop.Lives

/-!
# Every reachable session is valid

* `Successor` — what an operation makes of one player's record.
* `Keeps` — an operation keeps `Valid`, and makes successors of the players in place; it composes.
* `coopSessionResolve_keeps` and its siblings — each operation keeps.
* `reachable_saved` — from initialisation on, no sequence of operations and of host writes that
  respect the ranges leads to a session that a save refuses.
-/

set_option autoImplicit false

namespace SmwRecomp.Coop

/-! ## Successors -/

/-- The record `q` that an operation makes of `p`: same id, ranges kept, ownership kept or
released. -/
structure Successor (p q : CoopPlayer) : Prop where
  id : q.id = p.id
  body : ValidBody p → ValidBody q
  mount : q.mount = p.mount ∨ q.mount = COOP_NO_ENTITY
  held : q.heldObject = p.heldObject ∨ q.heldObject = COOP_NO_ENTITY

instance : Std.Refl Successor := ⟨fun _ => ⟨rfl, fun hb => hb, Or.inl rfl, Or.inl rfl⟩⟩

theorem Successor.trans {p q r : CoopPlayer} (h : Successor p q) (h' : Successor q r) :
    Successor p r := by
  refine ⟨h'.id.trans h.id, fun hb => h'.body (h.body hb), ?_, ?_⟩
  · rcases h'.mount with hm | hm
    · rw [hm]; exact h.mount
    · exact Or.inr hm
  · rcases h'.held with hm | hm
    · rw [hm]; exact h.held
    · exact Or.inr hm

/-- Players after an operation, in place. -/
abbrev Successors : List CoopPlayer → List CoopPlayer → Prop := List.Forall₂ Successor

theorem Successors.refl (ps : List CoopPlayer) : Successors ps ps := List.forall₂_refl ps

theorem Successors.trans {ps qs rs : List CoopPlayer} (h : Successors ps qs)
    (h' : Successors qs rs) : Successors ps rs := by
  induction h generalizing rs with
  | nil => exact h'
  | cons hpq _ ih =>
      cases h' with
      | cons hqr h' => exact .cons (hpq.trans hqr) (ih h')

theorem Successors.ids {ps qs : List CoopPlayer} (h : Successors ps qs) :
    qs.map CoopPlayer.id = ps.map CoopPlayer.id := by
  induction h with
  | nil => rfl
  | cons hpq _ ih => rw [List.map_cons, List.map_cons, hpq.id, ih]

theorem Successors.map {f : CoopPlayer → CoopPlayer} (hf : ∀ p, Successor p (f p))
    (ps : List CoopPlayer) : Successors ps (ps.map f) := by
  rw [Successors, List.forall₂_map_right_iff]
  exact List.forall₂_same.2 fun p _ => hf p

theorem Successors.set {q : CoopPlayer} : ∀ {ps : List CoopPlayer} {i : Nat},
    (∀ p, ps[i]? = some p → Successor p q) → Successors ps (ps.set i q)
  | [], _, _ => .nil
  | p :: _, 0, h => .cons (h p rfl) (Successors.refl _)
  | p :: _, _ + 1, h => .cons (Std.Refl.refl p) (Successors.set fun p' hp => h p' hp)

theorem Successors.put {p q : CoopPlayer} : ∀ {ps : List CoopPlayer},
    findKey CoopPlayer.id q.id ps = some p → Successor p q →
    Successors ps (putKey CoopPlayer.id q ps)
  | [], _, _ => .nil
  | x :: _, hfind, hpq => by
    unfold findKey at hfind
    unfold putKey
    split at hfind
    · rename_i hx
      cases hfind
      rw [if_pos hx]
      exact .cons hpq (Successors.refl _)
    · rename_i hx
      rw [if_neg hx]
      exact .cons (Std.Refl.refl x) (Successors.put hfind hpq)

theorem Successors.bodies {ps qs : List CoopPlayer} (h : Successors ps qs)
    (hb : ∀ p ∈ ps, ValidBody p) : ∀ q ∈ qs, ValidBody q := by
  induction h with
  | nil => exact hb
  | cons hpq _ ih =>
      rw [List.forall_mem_cons] at hb ⊢
      exact ⟨hpq.body hb.1, ih hb.2⟩

/-- An owner among the successors owned the same before. -/
theorem OwnsApart.successor {p q p' q' : CoopPlayer} (h : OwnsApart p q) (hp : Successor p p')
    (hq : Successor q q') : OwnsApart p' q' := by
  refine ⟨fun hne he => ?_, fun hne he => ?_⟩
  · have hp' := hp.mount.resolve_right hne
    have hq' := hq.mount.resolve_right (he ▸ hne)
    exact h.mount (hp' ▸ hne) (hp' ▸ hq' ▸ he)
  · have hp' := hp.held.resolve_right hne
    have hq' := hq.held.resolve_right (he ▸ hne)
    exact h.held (hp' ▸ hne) (hp' ▸ hq' ▸ he)

theorem Successors.forall_right {p p' : CoopPlayer} (hp : Successor p p') {ps qs : List CoopPlayer}
    (h : Successors ps qs) (ha : ∀ q ∈ ps, OwnsApart p q) : ∀ q ∈ qs, OwnsApart p' q := by
  induction h with
  | nil => exact fun _ h => nomatch h
  | cons hpq _ ih =>
      rw [List.forall_mem_cons] at ha ⊢
      exact ⟨ha.1.successor hp hpq, ih ha.2⟩

theorem Successors.apart {ps qs : List CoopPlayer} (h : Successors ps qs)
    (ha : ps.Pairwise OwnsApart) : qs.Pairwise OwnsApart := by
  induction h with
  | nil => exact ha
  | cons hpq htail ih =>
      rw [List.pairwise_cons] at ha ⊢
      exact ⟨Successors.forall_right hpq htail ha.1, ih ha.2⟩

/-! ## Keeping -/

theorem present_iff {players : List CoopPlayer} {id : CoopPlayerId} :
    Present players id ↔ id ∈ players.map CoopPlayer.id := by
  rw [List.mem_map]; rfl

theorem Addressee.of_ids {ps qs : List CoopPlayer} {id : CoopPlayerId}
    (hids : qs.map CoopPlayer.id = ps.map CoopPlayer.id) (h : Addressee ps id) :
    Addressee qs id := by
  intro hne
  rw [present_iff, hids, ← present_iff]
  exact h hne

theorem Present.addressee {ps : List CoopPlayer} {id : CoopPlayerId} (h : Present ps id) :
    Addressee ps id := fun _ => h

theorem addressee_nobody (ps : List CoopPlayer) : Addressee ps COOP_NO_PLAYER :=
  fun h => absurd rfl h

theorem Present.of_mem {ps : List CoopPlayer} {p : CoopPlayer} (h : p ∈ ps) : Present ps p.id :=
  ⟨p, h, rfl⟩

/-- An operation that keeps a valid session valid, and its players in place. -/
structure Keeps (s t : CoopSession) : Prop where
  players : Successors s.players t.players
  valid : Valid s → Valid t

theorem Keeps.refl (s : CoopSession) : Keeps s s := ⟨Successors.refl _, fun h => h⟩

theorem Keeps.trans {s t u : CoopSession} (h : Keeps s t) (h' : Keeps t u) : Keeps s u :=
  ⟨h.players.trans h'.players, fun hv => h'.valid (h.valid hv)⟩

theorem Keeps.addressee {s t : CoopSession} (h : Keeps s t) {id : CoopPlayerId}
    (ha : Addressee s.players id) : Addressee t.players id := ha.of_ids h.players.ids

/-- A loop keeps if each iteration does, under a condition that iterations preserve. -/
theorem Keeps.foldl {β : Type} {f : CoopSession → β → CoopSession} {C : CoopSession → β → Prop}
    (hC : ∀ s t x, Keeps s t → C s x → C t x) (hf : ∀ s x, C s x → Keeps s (f s x)) :
    ∀ (xs : List β) {s : CoopSession}, (∀ x ∈ xs, C s x) → Keeps s (xs.foldl f s)
  | [], s, _ => Keeps.refl s
  | x :: xs, s, h => by
    rw [List.forall_mem_cons] at h
    have hstep := hf s x h.1
    exact hstep.trans (Keeps.foldl hC hf xs fun y hy => hC _ _ y hstep (h.2 y hy))

variable {s : CoopSession}

theorem keeps_setPlayers {players : List CoopPlayer} (h : Successors s.players players) :
    Keeps s { s with players := players } := by
  refine ⟨h, fun hv => ?_⟩
  have hids := h.ids
  refine ⟨hv.ticks, hv.outcome, ?_, hv.leader.of_ids hids, hv.camera, ?_, ?_, h.bodies hv.bodies,
    h.apart hv.apart, fun e he => ?_, fun a ha => ?_⟩
  · rw [present_iff, hids, ← present_iff]; exact hv.primary
  · intro q hq hid
    have hmem : q.id ∈ s.players.map CoopPlayer.id := by
      rw [← hids]; exact List.mem_map_of_mem hq
    obtain ⟨p, hp, hpq⟩ := List.mem_map.1 hmem
    exact hv.ids p hp (hpq.trans hid)
  · rw [hids]; exact hv.distinct
  · exact ⟨(hv.events e he).kind, (hv.events e he).player.of_ids hids⟩
  · exact ⟨(hv.actions a ha).kind, (hv.actions a ha).player.of_ids hids⟩

theorem keeps_putPlayer {p q : CoopPlayer} (hfind : coopPlayer s q.id = some p)
    (h : Successor p q) : Keeps s (putPlayer s q) :=
  keeps_setPlayers (Successors.put hfind h)

theorem actionKind_le (kind : CoopActionKind) :
    Enumeration.code kind ≤ Enumeration.code CoopActionKind.gameOver := by
  cases kind <;> decide

theorem keeps_emit (kind : CoopActionKind) {player : CoopPlayerId} (entity : CoopEntityId)
    (value : UInt32) (h : Addressee s.players player) :
    Keeps s (emit s kind player entity value) := by
  obtain ⟨failed, actions, capacity, allocator, heq, hact, -, -⟩ :=
    emit_eq s kind player entity value
  rw [heq]
  refine ⟨Successors.refl _, fun hv => ?_⟩
  refine ⟨hv.ticks, hv.outcome, hv.primary, hv.leader, hv.camera, hv.ids, hv.distinct, hv.bodies,
    hv.apart, hv.events, fun a ha => ?_⟩
  rcases hact with rfl | rfl
  · exact hv.actions a ha
  · rcases List.mem_append.1 ha with ha | ha
    · exact hv.actions a ha
    · rw [List.mem_singleton.1 ha]
      exact ⟨actionKind_le kind, h⟩

/-! ## Resolution -/

theorem keeps_dropHeld {p : CoopPlayer} (h : Present s.players p.id) : Keeps s (dropHeld s p) := by
  unfold dropHeld
  split
  · exact keeps_emit _ _ _ h.addressee
  · exact Keeps.refl s

theorem keeps_detachMount {p : CoopPlayer} (h : Present s.players p.id) :
    Keeps s (detachMount s p) := by
  unfold detachMount
  split
  · exact keeps_emit _ _ _ h.addressee
  · exact Keeps.refl s

theorem keeps_dropReserve {p : CoopPlayer} (h : Present s.players p.id) :
    Keeps s (dropReserve s p) := by
  unfold dropReserve
  split
  · exact keeps_emit _ _ _ h.addressee
  · exact Keeps.refl s

theorem deadPlayer_successor (p : CoopPlayer) : Successor p (deadPlayer p) :=
  ⟨rfl, fun hb => ⟨by show (1 : UInt32) ≤ 3; decide, by show (0 : UInt32) ≤ 3; decide, hb.reserve,
    hb.halfWidth, hb.height⟩, Or.inr rfl, Or.inr rfl⟩

theorem coopPlayer_dropHeld (p : CoopPlayer) (id : CoopPlayerId) :
    coopPlayer (dropHeld s p) id = coopPlayer s id := by
  unfold dropHeld; split <;> simp

theorem coopPlayer_detachMount (p : CoopPlayer) (id : CoopPlayerId) :
    coopPlayer (detachMount s p) id = coopPlayer s id := by
  unfold detachMount; split <;> simp

theorem coopPlayer_dropReserve (p : CoopPlayer) (id : CoopPlayerId) :
    coopPlayer (dropReserve s p) id = coopPlayer s id := by
  unfold dropReserve; split <;> simp

/-- A record found under an id is found under its own. -/
theorem coopPlayer_self {id : CoopPlayerId} {p : CoopPlayer} (h : coopPlayer s id = some p) :
    coopPlayer s p.id = some p := by rw [coopPlayer_id h]; exact h

theorem keeps_die {id : CoopPlayerId} {p : CoopPlayer} (h : coopPlayer s id = some p) :
    Keeps s (die s p) := by
  unfold die
  split
  · exact Keeps.refl s
  · have hpresent : Present s.players p.id := Present.of_mem (coopPlayer_mem h)
    have hdrop := keeps_dropHeld hpresent
    have hdetach := hdrop.trans (keeps_detachMount
      (by rw [present_iff, hdrop.players.ids, ← present_iff]; exact hpresent))
    have hput := hdetach.trans (keeps_putPlayer (q := deadPlayer p)
      (by rw [coopPlayer_detachMount, coopPlayer_dropHeld]; exact coopPlayer_self h)
      (deadPlayer_successor p))
    exact hput.trans (keeps_emit _ _ _ (hput.addressee hpresent.addressee))

theorem keeps_lethalStep (e : CoopEvent) : Keeps s (lethalStep s e) := by
  unfold lethalStep
  split
  · exact Keeps.refl s
  · rename_i p hp
    split
    · exact keeps_die hp
    · exact Keeps.refl s

/-- The winner of a contest is a player. -/
def Contest.WinnerPresent (g : Contest) : Prop :=
  ∀ w, g.winner = some w → Present g.session.players w.player

theorem keeps_contestStep (e : CoopEvent) {g : Contest} (hw : g.WinnerPresent) (v : CoopEvent) :
    Keeps g.session (contestStep e g v).session ∧ (contestStep e g v).WinnerPresent := by
  unfold contestStep
  split
  · exact ⟨Keeps.refl _, hw⟩
  rename_i actor hactor
  split
  · exact ⟨Keeps.refl _, hw⟩
  have hv : Present g.session.players v.player := by
    have := Present.of_mem (coopPlayer_mem hactor)
    rwa [coopPlayer_id hactor] at this
  have hcontend : (g.contend v).session = g.session ∧ (g.contend v).WinnerPresent := by
    unfold Contest.contend
    split
    · exact ⟨rfl, fun w h => by cases h; exact hv⟩
    · exact ⟨rfl, hw⟩
  unfold Contest.bounce
  split
  · have hemit : Keeps (g.contend v).session
        (emit (g.contend v).session .stompBounce v.player v.entity 0) :=
      keeps_emit _ _ _ (by rw [hcontend.1]; exact hv.addressee)
    refine ⟨?_, fun w h => ?_⟩
    · show Keeps g.session (emit (g.contend v).session .stompBounce v.player v.entity 0)
      rw [hcontend.1] at hemit ⊢
      exact hemit
    · rw [emit_players]
      exact hcontend.2 w h
  · rw [hcontend.1]
    exact ⟨Keeps.refl _, hcontend.2⟩

theorem keeps_contest (e : CoopEvent) (group : List CoopEvent) : Keeps s (contest s e group) := by
  have hfold : ∀ (group : List CoopEvent) (g : Contest), g.WinnerPresent →
      Keeps g.session (group.foldl (contestStep e) g).session ∧
        (group.foldl (contestStep e) g).WinnerPresent := by
    intro group
    induction group with
    | nil => exact fun g hw => ⟨Keeps.refl _, hw⟩
    | cons v group ih =>
        intro g hw
        obtain ⟨hk, hw'⟩ := keeps_contestStep e hw v
        obtain ⟨hk', hw''⟩ := ih _ hw'
        exact ⟨hk.trans hk', hw''⟩
  obtain ⟨hk, hw⟩ := hfold group ⟨none, COOP_NO_PLAYER, s⟩ (fun w h => nomatch h)
  unfold contest
  dsimp only
  split
  · exact hk
  · rename_i w hwin
    exact hk.trans (keeps_emit _ _ _ (hw w hwin).addressee)

theorem damagedPlayer_successor (t : CoopSession) (p : CoopPlayer) :
    Successor p (damagedPlayer t p) :=
  ⟨rfl, fun hb => ⟨hb.life, by show (0 : UInt32) ≤ 3; decide, by show (0 : UInt32) ≤ 4; decide,
    hb.halfWidth, hb.height⟩, Or.inl rfl, Or.inl rfl⟩

theorem keeps_damageStep (e : CoopEvent) {id : CoopPlayerId} {p : CoopPlayer}
    (h : coopPlayer s id = some p) : Keeps s (damageStep s e p) := by
  unfold damageStep
  split
  · exact Keeps.refl s
  split
  · exact Keeps.refl s
  have hpresent : Present s.players p.id := Present.of_mem (coopPlayer_mem h)
  have hput := (keeps_dropReserve hpresent).trans (keeps_putPlayer (q := damagedPlayer s p)
    (by rw [coopPlayer_dropReserve]; exact coopPlayer_self h) (damagedPlayer_successor s p))
  exact hput.trans (keeps_emit _ _ _ (hput.addressee hpresent.addressee))

theorem keeps_deathFinishedStep {id : CoopPlayerId} {p : CoopPlayer}
    (h : coopPlayer s id = some p) : Keeps s (deathFinishedStep s p) := by
  unfold deathFinishedStep
  split
  · have hfind := coopPlayer_self h
    exact keeps_putPlayer (p := p) hfind ⟨rfl, fun hb => ⟨by show (2 : UInt32) ≤ 3; decide,
      hb.power, hb.reserve, hb.halfWidth, hb.height⟩, Or.inl rfl, Or.inl rfl⟩
  · exact Keeps.refl s

theorem checkpointPlayer_successor (p : CoopPlayer) : Successor p (checkpointPlayer p) := by
  refine ⟨rfl, fun hb => ⟨hb.life, ?_, hb.reserve, hb.halfWidth, hb.height⟩, Or.inl rfl, Or.inl rfl⟩
  unfold checkpointPlayer
  dsimp only
  split
  · decide
  · exact hb.power

theorem keeps_checkpointStep {e : CoopEvent} (h : Addressee s.players e.player) :
    Keeps s (checkpointStep s e) := by
  have hmap := keeps_setPlayers (Successors.map checkpointPlayer_successor s.players)
  have hfield : Keeps s
    { s with checkpoint := e.value, players := s.players.map checkpointPlayer } := by
    refine ⟨hmap.players, fun hv => ?_⟩
    have h := hmap.valid hv
    exact ⟨h.ticks, h.outcome, h.primary, h.leader, h.camera, h.ids, h.distinct, h.bodies, h.apart,
      h.events, h.actions⟩
  exact hfield.trans (keeps_emit _ _ _ (hfield.addressee h))

theorem keeps_eventStep (g : Pass) {e : CoopEvent} (rest : List CoopEvent)
    (h : Addressee g.session.players e.player) :
    Keeps g.session (eventStep g e rest).1.session := by
  unfold eventStep
  split
  · exact keeps_contest _ _
  · exact keeps_contest _ _
  · dsimp only
    split
    · exact keeps_emit _ _ _ h
    · exact Keeps.refl _
  · split
    · exact Keeps.refl _
    · exact keeps_checkpointStep h
  · split
    · exact Keeps.refl _
    · rename_i p hp; exact keeps_damageStep e hp
  · split
    · exact Keeps.refl _
    · rename_i p hp; exact keeps_deathFinishedStep hp
  · exact Keeps.refl _

theorem keeps_eventLoop : ∀ (es : List CoopEvent) (g : Pass) (skip : Nat),
    (∀ e ∈ es, Addressee g.session.players e.player) →
    Keeps g.session (eventLoop g skip es).session
  | [], g, skip, _ => by cases skip <;> exact Keeps.refl _
  | _ :: es, g, skip + 1, h => keeps_eventLoop es g skip fun e he => h e (List.mem_cons_of_mem _ he)
  | e :: es, g, 0, h => by
    rw [List.forall_mem_cons] at h
    have hstep := keeps_eventStep g es h.1
    unfold eventLoop
    exact hstep.trans (keeps_eventLoop es _ _ fun e he => hstep.addressee (h.2 e he))

/-- Changes outside what `valid` reads. -/
theorem keeps_of_eq {t : CoopSession} (hp : t.players = s.players)
    (hvalid : Valid s → Valid t) : Keeps s t := ⟨by rw [hp]; exact Successors.refl _, hvalid⟩

theorem terminalStep_exit_mem {es : List CoopEvent} {t : Terminal} {e : CoopEvent}
    (ht : ∀ x, t.exit = some x → x ∈ es) (he : e ∈ es) :
    ∀ x, (terminalStep s t e).exit = some x → x ∈ es := by
  have htimeout : ∀ x, (if e.kind = .is .timeout then { t with timeout := true } else t).exit =
    some x →
      x ∈ es := by
    intro x; split <;> exact ht x
  unfold terminalStep
  dsimp only
  split
  · exact htimeout
  · split
    · intro x hx; cases hx; exact he
    · rename_i y hy
      have hy' : (if e.kind = .is .timeout then { t with timeout := true } else t).exit =
        some y := by
        rw [← hy]; split <;> (split <;> rfl)
      split
      · intro x hx; cases hx; exact he
      · intro x hx; rw [hy] at hx; cases hx; exact htimeout y hy'

theorem terminal_exit_mem (s : CoopSession) (es all : List CoopEvent) (hsub : ∀ e ∈ es, e ∈ all) :
    ∀ t : Terminal, (∀ x, t.exit = some x → x ∈ all) →
      ∀ x, (es.foldl (terminalStep s) t).exit = some x → x ∈ all := by
  induction es with
  | nil => exact fun t ht => ht
  | cons e es ih =>
      intro t ht
      rw [List.forall_mem_cons] at hsub
      exact ih hsub.2 _ (terminalStep_exit_mem ht hsub.1)

theorem outcome_le (outcome : CoopOutcome) :
    Enumeration.code outcome ≤ Enumeration.code CoopOutcome.clear := by
  cases outcome <;> decide

theorem keeps_finishFrame {t : Terminal}
    (hx : ∀ x, t.exit = some x → Addressee s.players x.player) : Keeps s (finishFrame s t) := by
  unfold finishFrame
  split
  · rename_i x hexit
    have hclear : Keeps s { s with outcome := .is .clear } :=
      keeps_of_eq rfl fun h => ⟨h.ticks, outcome_le _, h.primary, h.leader, h.camera, h.ids,
        h.distinct, h.bodies, h.apart, h.events, h.actions⟩
    exact hclear.trans (keeps_emit _ _ _ (hx x hexit))
  · split
    · have hcharge : Keeps s { s with
          lives := if s.lives ≠ 0 then s.lives - 1 else s.lives
          outcome := .is (if (if s.lives ≠ 0 then s.lives - 1 else s.lives) ≠ 0 then .retry
            else .gameOver) } := by
        refine keeps_of_eq rfl fun h => ⟨h.ticks, ?_, h.primary, h.leader, h.camera, h.ids,
          h.distinct, h.bodies, h.apart, h.events, h.actions⟩
        exact outcome_le _
      exact hcharge.trans (keeps_emit _ _ _ (addressee_nobody _))
    · exact Keeps.refl s

theorem keeps_resolvePasses (h : ∀ e ∈ s.events, Addressee s.players e.player) :
    Keeps s (resolvePasses s) := by
  have hlethal : Keeps s (s.events.foldl lethalStep s) :=
    Keeps.foldl (C := fun _ _ => True) (fun _ _ _ _ h => h) (fun _ e _ => keeps_lethalStep e) _
      (fun _ _ => trivial)
  have hevents : (s.events.foldl lethalStep s).events = s.events :=
    congrArg Ledger.events (ledger_lethalPass s.events)
  have hloop :=
    hlethal.trans (keeps_eventLoop s.events ⟨s.events.foldl lethalStep s, false, false⟩ 0
    fun e he => hlethal.addressee (h e he))
  unfold resolvePasses
  dsimp only
  rw [hevents]
  refine hloop.trans (keeps_finishFrame fun x hx => hloop.addressee (h x ?_))
  exact terminal_exit_mem s s.events s.events (fun e he => he) _ (by intro x hx; cases hx) x hx

theorem sortEvents_mem {es : List CoopEvent} {e : CoopEvent} : e ∈ sortEvents es ↔ e ∈ es :=
  (List.perm_insertionSort _ _).mem_iff

theorem coopSessionResolve_keeps (h : Valid s) : Keeps s (coopSessionResolve s).2 := by
  have hbegin : Keeps s (beginResolve s) := by
    refine keeps_of_eq rfl fun _ =>
      ⟨h.ticks, h.outcome, h.primary, h.leader, h.camera, h.ids, h.distinct, h.bodies, h.apart,
      fun e he => h.events e ?_, h.actions⟩
    unfold beginResolve at he
    dsimp only at he
    split at he
    · exact sortEvents_mem.1 he
    · exact he
  rcases coopSessionResolve_cases s with ⟨hs, -⟩ | ⟨-, -, -, hs, -⟩
  · rw [hs]; exact Keeps.refl s
  · rw [hs]
    exact hbegin.trans (keeps_resolvePasses fun e he => ((hbegin.valid h).events e he).player)

/-! ## Frames, events and input -/

theorem tickPlayer_successor (p : CoopPlayer) : Successor p (tickPlayer p) :=
  ⟨rfl, fun hb => ⟨hb.life, hb.power, hb.reserve, hb.halfWidth, hb.height⟩, Or.inl rfl, Or.inl rfl⟩

theorem coopSessionBeginFrame_keeps (advances : Bool) :
    Keeps s (coopSessionBeginFrame s advances).2 := by
  rcases coopSessionBeginFrame_cases s advances with hs | ⟨-, _, _, _, players, hs, hp, -⟩
  · rw [hs]; exact Keeps.refl s
  · have hplayers : Successors s.players players := by
      rcases hp with rfl | rfl
      · exact Successors.refl _
      · exact Successors.map tickPlayer_successor _
    rw [hs]
    refine ⟨hplayers, fun h => ?_⟩
    have h := (keeps_setPlayers hplayers).valid h
    exact ⟨h.ticks, h.outcome, h.primary, h.leader, h.camera, h.ids, h.distinct, h.bodies, h.apart,
      (fun _ h => nomatch h), (fun _ h => nomatch h)⟩

/-- An allowed event is one `valid` accepts. -/
theorem eventAllowed_valid {e : CoopEvent} (h : eventAllowed s e = true) :
    ValidEvent s.players e := by
  simp only [eventAllowed, Bool.not_eq_true', Bool.or_eq_false_iff, decide_eq_false_iff_not,
    gt_iff_lt, UInt32.not_lt] at h
  refine ⟨h.1.2, validAddressee_iff.1 ?_⟩
  rw [validAddressee, h.1.1.2]
  rfl

/-- A refusal for want of storage. -/
theorem keeps_failed (failed : Bool) (allocator : Allocator) :
    Keeps s { s with failed := failed, allocator := allocator } :=
  keeps_of_eq rfl fun h => ⟨h.ticks, h.outcome, h.primary, h.leader, h.camera, h.ids, h.distinct,
    h.bodies, h.apart, h.events, h.actions⟩

theorem coopSessionEvent_keeps (e : CoopEvent) : Keeps s (coopSessionEvent s e).2 := by
  unfold coopSessionEvent
  split
  · exact Keeps.refl s
  rename_i hallowed
  split
  · exact keeps_failed true s.allocator
  split
  · exact keeps_failed true _
  · refine keeps_of_eq rfl fun h =>
      ⟨h.ticks, h.outcome, h.primary, h.leader, h.camera, h.ids, h.distinct, h.bodies, h.apart,
      fun f hf => ?_, h.actions⟩
    rcases List.mem_append.1 hf with hf | hf
    · exact h.events f hf
    · rw [List.mem_singleton.1 hf]
      rw [Bool.not_eq_true, Bool.not_eq_false'] at hallowed
      exact eventAllowed_valid hallowed

theorem coopPlayerInput_successor (p : CoopPlayer) (held actionMask : UInt32) :
    Successor p (coopPlayerInput p held actionMask) := by
  unfold coopPlayerInput
  dsimp only
  split
  · exact ⟨rfl, fun hb => ⟨hb.life, hb.power, hb.reserve, hb.halfWidth, hb.height⟩, Or.inl rfl,
      Or.inl rfl⟩
  · exact ⟨rfl, fun hb => ⟨hb.life, hb.power, hb.reserve, hb.halfWidth, hb.height⟩, Or.inl rfl,
      Or.inl rfl⟩

theorem inputPlayer_keeps (id : CoopPlayerId) (held actionMask : UInt32) :
    Keeps s (inputPlayer s id held actionMask) := by
  unfold inputPlayer
  split
  · exact Keeps.refl s
  · rename_i p hp
    have hsucc := coopPlayerInput_successor p held actionMask
    exact keeps_putPlayer (by rw [hsucc.id]; exact coopPlayer_self hp) hsucc

/-! ## Camera, recovery, restart -/

theorem travelSign_unit {d : Int} {old : Int32} (h : -1 ≤ old ∧ old ≤ 1) :
    -1 ≤ travelSign d old ∧ travelSign d old ≤ 1 := by
  unfold travelSign
  split
  · exact h
  · split <;> decide

/-- The leader the loop picks is nobody or a player of the list. -/
theorem leader_mem (horizontal : Bool) (travel : Int32) : ∀ (ps : List CoopPlayer)
    (best : Option CoopPlayer × Int) (all : List CoopPlayer), (∀ p ∈ ps, p ∈ all) →
    (∀ p, best.1 = some p → p ∈ all) →
    ∀ p, (ps.foldl (leaderStep s horizontal travel) best).1 = some p → p ∈ all
  | [], _, _, _, hb => hb
  | q :: ps, best, all, hps, hb => by
    rw [List.forall_mem_cons] at hps
    refine leader_mem horizontal travel ps _ all hps.2 ?_
    intro p hp
    unfold leaderStep at hp
    split at hp
    · exact hb p hp
    · extract_lets progress at hp
      split at hp
      · cases hp; exact hps.1
      · split at hp
        · cases hp; exact hps.1
        · exact hb p hp

theorem keeps_frameGroup (box : Extent)
    (hframe : 32 ≤ s.camera.width ∧ 32 ≤ s.camera.height ∧ 1 ≤ s.camera.roomWidth ∧
      1 ≤ s.camera.roomHeight) : Keeps s (frameGroup s box) := by
  refine keeps_of_eq rfl fun h => ?_
  unfold frameGroup
  extract_lets c cx cy dx dy fits c₁ c₂ horizontal travel leader focus c₃ c₄
  have hc₁ : (32 ≤ c₁.width ∧ 32 ≤ c₁.height ∧ 1 ≤ c₁.roomWidth ∧ 1 ≤ c₁.roomHeight) ∧
      (-1 ≤ c₁.travelX ∧ c₁.travelX ≤ 1) ∧ (-1 ≤ c₁.travelY ∧ c₁.travelY ≤ 1) := by
    by_cases hfit : c.initialized = true ∧ fits
    · have : c₁ =
        { c with travelX := travelSign dx c.travelX, travelY := travelSign dy c.travelY } :=
        if_pos hfit
      rw [this]
      exact ⟨hframe, travelSign_unit h.camera.travelX, travelSign_unit h.camera.travelY⟩
    · have : c₁ = c := if_neg hfit
      rw [this]
      exact ⟨hframe, h.camera.travelX, h.camera.travelY⟩
  have hfocus : Addressee s.players focus.1 := by
    by_cases hfit : fits
    · have : focus = (COOP_NO_PLAYER, cx, cy) := if_pos hfit
      rw [this]; exact addressee_nobody _
    · have hif : focus = _ := if_neg hfit
      cases hl : leader with
      | none => rw [hif, hl]; exact addressee_nobody _
      | some p =>
          rw [hif, hl]
          exact (Present.of_mem (leader_mem horizontal travel s.players (none, INT64_MIN) s.players
            (fun _ hp => hp) (fun _ hp => absurd hp.symm (Option.some_ne_none _)) p hl)).addressee
  have hc₄ : ValidCamera c₄ ∧ c₄.leader = focus.1 := by
    by_cases hauto : c₃.autoscroll = true
    · have : c₄ = c₃ := if_pos hauto
      rw [this]
      exact ⟨⟨fun _ => hc₁.1, hc₁.2.1, hc₁.2.2⟩, rfl⟩
    · have : c₄ = _ := if_neg hauto
      rw [this]
      exact ⟨⟨fun _ => hc₁.1, hc₁.2.1, hc₁.2.2⟩, rfl⟩
  exact ⟨h.ticks, h.outcome,
    h.primary, by show Addressee s.players c₄.leader; rw [hc₄.2]; exact hfocus,
    hc₄.1, h.ids, h.distinct, h.bodies, h.apart, h.events, h.actions⟩

theorem separation_successor (ticks : UInt32) (p : CoopPlayer) :
    Successor p { p with separationTicks := ticks } :=
  ⟨rfl, fun hb => ⟨hb.life, hb.power, hb.reserve, hb.halfWidth, hb.height⟩, Or.inl rfl, Or.inl rfl⟩

theorem coopCameraFrame_keeps (w h rw rh : Int32) (autoscroll : Bool) :
    Keeps s (coopCameraFrame s w h rw rh autoscroll).2 := by
  unfold coopCameraFrame
  split
  · exact Keeps.refl s
  rename_i hsize
  simp only [not_or, Int32.not_lt] at hsize
  obtain ⟨-, hw, hh, hrw, hrh⟩ := hsize
  extract_lets resized camera s₁ box
  have hplayers : Successors s.players s₁.players := by
    show Successors s.players (if resized then _ else s.players)
    split
    · exact Successors.map (separation_successor 0) _
    · exact Successors.refl _
  have hresized : Keeps s s₁ := by
    refine ⟨hplayers, fun h => ?_⟩
    have hset := (keeps_setPlayers hplayers).valid h
    exact ⟨hset.ticks, hset.outcome, hset.primary, hset.leader, ⟨fun _ => ⟨hw, hh, hrw, hrh⟩,
      h.camera.travelX, h.camera.travelY⟩, hset.ids, hset.distinct, hset.bodies, hset.apart,
      hset.events, hset.actions⟩
  split
  · exact hresized
  · exact hresized.trans (keeps_frameGroup box ⟨hw, hh, hrw, hrh⟩)

/-- The separation loop over a part of the players: emissions only in the session, successors in
the list. -/
theorem separationLoop_keeps (resized : Bool) : ∀ (ps : List CoopPlayer) (s : CoopSession)
    (active : Nat), (∀ p ∈ ps, Present s.players p.id) →
    Keeps s (separationLoop resized s active ps).1 ∧
      (separationLoop resized s active ps).1.players = s.players ∧
      Successors ps (separationLoop resized s active ps).2
  | [], s, _, _ => ⟨Keeps.refl s, rfl, .nil⟩
  | p :: ps, s, active, hps => by
    rw [List.forall_mem_cons] at hps
    unfold separationLoop
    dsimp only
    split
    · obtain ⟨hk, hp, hsucc⟩ := separationLoop_keeps resized ps s active hps.2
      exact ⟨hk, hp, .cons (Std.Refl.refl p) hsucc⟩
    split
    · obtain ⟨hk, hp, hsucc⟩ := separationLoop_keeps resized ps s active hps.2
      exact ⟨hk, hp, .cons (separation_successor _ p) hsucc⟩
    split
    · obtain ⟨hk, hp, hsucc⟩ := separationLoop_keeps resized ps s active hps.2
      exact ⟨hk, hp, .cons (Std.Refl.refl p) hsucc⟩
    split
    · obtain ⟨hk, hp, hsucc⟩ := separationLoop_keeps resized ps s active hps.2
      exact ⟨hk, hp, .cons (separation_successor _ p) hsucc⟩
    · have hdrop : (dropHeld s p).players = s.players := by unfold dropHeld; split <;> simp
      obtain ⟨hk, hp, hsucc⟩ := separationLoop_keeps resized ps (dropHeld s p) (active - 1)
        (by rw [hdrop]; exact hps.2)
      exact ⟨(keeps_dropHeld hps.1).trans hk, hp.trans hdrop, .cons ⟨rfl, fun hb =>
        ⟨by show (3 : UInt32) ≤ 3; decide, hb.power, hb.reserve, hb.halfWidth, hb.height⟩,
          Or.inl rfl,
        Or.inr rfl⟩ hsucc⟩

theorem coopCameraCheckSeparation_keeps (resized : Bool) :
    Keeps s (coopCameraCheckSeparation s resized).2 := by
  unfold coopCameraCheckSeparation
  split
  · exact Keeps.refl s
  split
  · exact Keeps.refl s
  · obtain ⟨hk, hp, hsucc⟩ := separationLoop_keeps resized s.players s (coopActiveCount s)
      fun p hp => Present.of_mem hp
    have hsucc : Successors (separationLoop resized s (coopActiveCount s) s.players).1.players
        (separationLoop resized s (coopActiveCount s) s.players).2 := by rw [hp]; exact hsucc
    exact hk.trans (keeps_setPlayers hsucc)

theorem returnPlayer_successor (t : CoopSession) (p : CoopPlayer) (x y : Int32) :
    Successor p (returnPlayer t p x y) := by
  unfold returnPlayer
  dsimp only
  split
  · refine ⟨rfl,
      fun hb => ⟨by show (0 : UInt32) ≤ 3; decide, ?_, hb.reserve, hb.halfWidth, hb.height⟩,
      Or.inl rfl, Or.inl rfl⟩
    dsimp only
    split <;> decide
  · exact ⟨rfl, fun hb => ⟨by show (0 : UInt32) ≤ 3; decide, hb.power, hb.reserve, hb.halfWidth,
      hb.height⟩, Or.inl rfl, Or.inl rfl⟩

theorem keeps_recoverStep (safe : CoopSafePlacement) (anchors : List CoopPlayerId) (i : Nat) :
    Keeps s (recoverStep safe anchors s i) := by
  unfold recoverStep
  split
  · exact Keeps.refl s
  rename_i p hp
  split
  · exact Keeps.refl s
  extract_lets best
  split
  · exact Keeps.refl s
  · have hset : Keeps s
      { s with players := s.players.set i (returnPlayer s p best.2.2.1 best.2.2.2) } :=
      keeps_setPlayers (Successors.set fun q hq => by
        rw [hp] at hq; cases hq; exact returnPlayer_successor s p _ _)
    exact hset.trans (keeps_emit _ _ _
      (hset.addressee (Present.of_mem (List.mem_of_getElem? hp)).addressee))

theorem coopSessionRecover_keeps (safe : CoopSafePlacement) :
    Keeps s (coopSessionRecover s safe).2 := by
  unfold coopSessionRecover
  split
  · exact Keeps.refl s
  split
  · exact Keeps.refl s
  split
  · exact Keeps.refl s
  split
  · exact keeps_failed true _
  · rename_i rest hreq
    exact (keeps_failed s.failed rest).trans (Keeps.foldl (C := fun _ _ => True)
      (fun _ _ _ _ h => h) (fun _ i _ => keeps_recoverStep safe _ i) _ (fun _ _ => trivial))

theorem coopSessionRestart_keeps : Keeps s (coopSessionRestart s) := by
  have hplayers := Successors.map (f := fun p : CoopPlayer => { p with
    life := .is .playing, power := .is .small, mount := COOP_NO_ENTITY, heldObject :=
      COOP_NO_ENTITY,
    starTicks := 0, protectionTicks := 0, recoveryTicks := 0, separationTicks := 0,
    checkpointUpgrade := false, pressedInput := 0 })
    (fun p => ⟨rfl, fun hb => ⟨by show (0 : UInt32) ≤ 3; decide, by show (0 : UInt32) ≤ 3; decide,
      hb.reserve, hb.halfWidth, hb.height⟩, Or.inr rfl, Or.inr rfl⟩) s.players
  refine ⟨hplayers, fun h => ?_⟩
  have hmap := (keeps_setPlayers hplayers).valid h
  exact ⟨hmap.ticks, outcome_le .continue, hmap.primary, addressee_nobody _,
    ⟨(fun hi => nomatch hi), hmap.camera.travelX, hmap.camera.travelY⟩, hmap.ids, hmap.distinct,
    hmap.bodies, hmap.apart, (fun _ h => nomatch h), (fun _ h => nomatch h)⟩

/-! ## Runs with host writes -/

/-- The host's own writes: ids stay, ranges and exclusive ownership are respected. -/
structure HostWrite (ps qs : List CoopPlayer) : Prop where
  ids : qs.map CoopPlayer.id = ps.map CoopPlayer.id
  bodies : ∀ q ∈ qs, ValidBody q
  apart : qs.Pairwise OwnsApart

inductive SessionOp where
  | beginFrame (advances : Bool)
  | event (e : CoopEvent)
  | resolve
  | playerInput (id : CoopPlayerId) (held actionMask : UInt32)
  | cameraFrame (w h rw rh : Int32) (autoscroll : Bool)
  | checkSeparation (resized : Bool)
  | recover (safe : CoopSafePlacement)
  | restart
  | hostWrite (players : List CoopPlayer)

def SessionOp.step (s : CoopSession) : SessionOp → CoopSession → Prop
  | .beginFrame advances, t => t = (coopSessionBeginFrame s advances).2
  | .event e, t => t = (coopSessionEvent s e).2
  | .resolve, t => t = (coopSessionResolve s).2
  | .playerInput id held actionMask, t => t = inputPlayer s id held actionMask
  | .cameraFrame w h rw rh autoscroll, t => t = (coopCameraFrame s w h rw rh autoscroll).2
  | .checkSeparation resized, t => t = (coopCameraCheckSeparation s resized).2
  | .recover safe, t => t = (coopSessionRecover s safe).2
  | .restart, t => t = coopSessionRestart s
  | .hostWrite players, t => HostWrite s.players players ∧ t = { s with players := players }

theorem HostWrite.valid {players : List CoopPlayer} (hw : HostWrite s.players players)
    (h : Valid s) : Valid { s with players := players } := by
  refine ⟨h.ticks, h.outcome, ?_, h.leader.of_ids hw.ids, h.camera, ?_, ?_, hw.bodies, hw.apart,
    fun e he => ⟨(h.events e he).kind, (h.events e he).player.of_ids hw.ids⟩,
    fun a ha => ⟨(h.actions a ha).kind, (h.actions a ha).player.of_ids hw.ids⟩⟩
  · rw [present_iff, hw.ids, ← present_iff]; exact h.primary
  · intro q hq hid
    have hmem : q.id ∈ s.players.map CoopPlayer.id := hw.ids ▸ List.mem_map_of_mem hq
    obtain ⟨p, hp, hpq⟩ := List.mem_map.1 hmem
    exact h.ids p hp (hpq.trans hid)
  · rw [hw.ids]; exact h.distinct

/-- One step keeps a session valid and its roster. -/
theorem SessionOp.step_valid {a b : CoopSession} {op : SessionOp} (hstep : SessionOp.step a op b)
    (h : Valid a) : Valid b ∧ b.players.map CoopPlayer.id = a.players.map CoopPlayer.id := by
  have hkeeps : ∀ {b : CoopSession}, Keeps a b →
      Valid b ∧ b.players.map CoopPlayer.id = a.players.map CoopPlayer.id :=
    fun hk => ⟨hk.valid h, hk.players.ids⟩
  cases op with
  | beginFrame advances => rw [hstep]; exact hkeeps (coopSessionBeginFrame_keeps advances)
  | event e => rw [hstep]; exact hkeeps (coopSessionEvent_keeps e)
  | resolve => rw [hstep]; exact hkeeps (coopSessionResolve_keeps h)
  | playerInput id held actionMask =>
      rw [hstep]; exact hkeeps (inputPlayer_keeps id held actionMask)
  | cameraFrame w h rw rh autoscroll =>
      rw [hstep]; exact hkeeps (coopCameraFrame_keeps w h rw rh autoscroll)
  | checkSeparation resized => rw [hstep]; exact hkeeps (coopCameraCheckSeparation_keeps resized)
  | recover safe => rw [hstep]; exact hkeeps (coopSessionRecover_keeps safe)
  | restart => rw [hstep]; exact hkeeps coopSessionRestart_keeps
  | hostWrite players =>
      obtain ⟨hw, rfl⟩ := hstep
      exact ⟨hw.valid h, hw.ids⟩

/-- A valid session whose roster came from initialisation. -/
structure Reachable (s : CoopSession) : Prop where
  valid : Valid s
  two : 2 ≤ s.players.length
  bounded : s.players.length < COOP_NO_PLAYER.toNat

theorem Reachable.step (a : CoopSession) (op : SessionOp) (b : CoopSession)
    (hstep : SessionOp.step a op b) (h : Reachable a) : Reachable b := by
  obtain ⟨hv, hids⟩ := SessionOp.step_valid hstep h.valid
  have hlen : b.players.length = a.players.length := by
    rw [← List.length_map CoopPlayer.id, hids, List.length_map]
  exact ⟨hv, by rw [hlen]; exact h.two, by rw [hlen]; exact h.bounded⟩

theorem Reachable.init {allocator : Allocator} {count : Nat} {hz : UInt32} {s : CoopSession}
    (h : coopSessionInit allocator count hz = some s) : Reachable s := by
  obtain ⟨hlo, hhi, -, -, hp, -⟩ := coopSessionInit_some h
  have hlen : s.players.length = count := by rw [hp, List.length_map, List.length_range]
  exact ⟨coopSessionInit_valid h, by rw [hlen]; exact hlo, by rw [hlen]; exact hhi⟩

/-- **Every reachable session is valid, and can be saved** as long as it stores fewer than
`2 ^ 32` events and actions, the buffer is large enough and the allocator grants the copies. -/
theorem reachable_saved {allocator : Allocator} {count : Nat} {hz : UInt32} {s₀ s : CoopSession}
    {steps : List (CoopSession × SessionOp × CoopSession)}
    (hinit : coopSessionInit allocator count hz = some s₀) (hrun : Run SessionOp.step s₀ steps s) :
    valid s = true ∧
    (s.events.length < 2 ^ 32 → s.actions.length < 2 ^ 32 →
      ∀ (allocator' : Allocator) (data : Bytes), allocator'.Granted →
        coopSessionSaveSize s ≤ data.length →
        ∃ bytes, coopSessionSave s allocator' data = .ok bytes) := by
  have h := hrun.invariant Reachable.step (Reachable.init hinit)
  have hvalid := valid_iff.2 h.valid
  exact ⟨hvalid, fun he ha allocator' data hg hdata =>
    ⟨_, coopSessionSave_image hvalid ⟨h.two, h.bounded, he, ha⟩ hg hdata⟩⟩

/-- The pair after the host has put one player on a mount. -/
def mountedPlayers : List CoopPlayer :=
  [{ initPlayer 0 with mount := 7, reserve := 2, power := .is .cape }, initPlayer 1]

def mountedSession : CoopSession := { pairSession with players := mountedPlayers }

def mountedFrame : CoopSession := (coopSessionBeginFrame mountedSession true).2

/-- The rider is hit. -/
def mountedHit : CoopEvent := ⟨.is .damage, 0, COOP_NO_ENTITY, 0, COOP_EVENT_LETHAL, 0⟩

def mountedEvent : CoopSession := (coopSessionEvent mountedFrame mountedHit).2

def mountedResult : CoopSession := (coopSessionResolve mountedEvent).2

theorem mountedPlayers_write : HostWrite pairSession.players mountedPlayers := by
  obtain ⟨-, -, hbodies, happ⟩ :=
    validPlayers_iff.1 (show validPlayers mountedPlayers = true by decide)
  exact ⟨by decide, hbodies, happ⟩

theorem mountedResult_run : Run SessionOp.step pairSession
    [(pairSession, .hostWrite mountedPlayers, mountedSession),
     (mountedSession, .beginFrame true, mountedFrame),
     (mountedFrame, .event mountedHit, mountedEvent),
     (mountedEvent, .resolve, mountedResult)] mountedResult :=
  have hwrite : SessionOp.step pairSession (.hostWrite mountedPlayers) mountedSession :=
    ⟨mountedPlayers_write, rfl⟩
  have hbegin : SessionOp.step mountedSession (.beginFrame true) mountedFrame := rfl
  have hevent : SessionOp.step mountedFrame (.event mountedHit) mountedEvent := rfl
  have hresolve : SessionOp.step mountedEvent .resolve mountedResult := rfl
  .cons hwrite (.cons hbegin (.cons hevent (.cons hresolve (.nil _))))

theorem reachable_saved_mounted : valid mountedResult = true ∧
    ∃ bytes, coopSessionSave mountedResult [] (List.replicate 1000 0) = .ok bytes := by
  have h := reachable_saved pairSession_init mountedResult_run
  exact ⟨h.1, h.2 (by decide) (by decide) [] _ Allocator.granted_nil
    (by rw [List.length_replicate]; decide)⟩

/-- An allocator that grants everything lets an array grow up to the end of `size_t`. -/
theorem grow_granted (capacity : Nat) {count stride : Nat} (h : count ≤ SIZE_MAX / stride) :
    ∃ next, grow [] capacity count stride = (some next, []) := by
  unfold grow
  split
  · exact ⟨_, rfl⟩
  · rw [if_neg (by omega)]
    exact ⟨_, rfl⟩

/-- An accepted event can be repeated as long as `size_t` counts it. -/
theorem run_events {e : CoopEvent} (n : Nat) : ∀ {s : CoopSession}, eventAllowed s e = true →
    s.allocator = [] → s.events.length + n ≤ SIZE_MAX / sizeofCoopEvent →
    ∃ steps t, Run SessionOp.step s steps t ∧ t.events = s.events ++ List.replicate n e := by
  induction n with
  | zero => intro s _ _ _; exact ⟨[], s, .nil s, (List.append_nil _).symm⟩
  | succ n ih =>
      intro s hallowed halloc hn
      obtain ⟨next, hgrow⟩ := grow_granted s.eventCapacity
        (show s.events.length + 1 ≤ SIZE_MAX / sizeofCoopEvent by omega)
      have hevent : (coopSessionEvent s e).2 =
          { s with events := s.events ++ [e], eventCapacity := next, allocator := [] } := by
        have hmax : s.events.length ≠ SIZE_MAX := by
          simp only [SIZE_MAX, sizeofCoopEvent] at hn ⊢; omega
        unfold coopSessionEvent
        rw [hallowed, halloc, hgrow, if_neg (by decide), if_neg hmax]
      obtain ⟨steps, t, hrun, ht⟩ := ih (s := { s with
          events := s.events ++ [e], eventCapacity := next, allocator := [] }) hallowed rfl
        (by show (s.events ++ [e]).length + n ≤ _; rw [List.length_append, List.length_singleton]; omega)
      have hstep : SessionOp.step s (.event e)
          { s with events := s.events ++ [e], eventCapacity := next, allocator := [] } :=
          hevent.symm
      refine ⟨_, t, .cons hstep hrun, ?_⟩
      rw [ht, List.replicate_succ, List.append_assoc]
      rfl

/-- A session that has accepted `2 ^ 32` events in one frame is refused, and so is any session
whose copy the allocator refuses. -/
theorem save_refused_by_count_or_allocation :
    coopSessionInit [] 2 60 = some pairSession ∧
    (∃ steps s, Run SessionOp.step pairSession steps s ∧
      ∀ allocator data, coopSessionSave s allocator data = .error .refused) ∧
    (∃ steps s, Run SessionOp.step pairSession steps s ∧
      ∀ data bytes, coopSessionSave s [false] data ≠ .ok bytes) := by
  refine ⟨pairSession_init, ?_, [], pairSession, .nil _, coopSessionSave_starved pairSession⟩
  obtain ⟨steps, t, hrun, ht⟩ := run_events (2 ^ 32)
    (s := (coopSessionBeginFrame pairSession true).2) (e := ⟨.is .exit, 0, 0, 0, 0, 0⟩) (by decide)
    (by decide) (by decide)
  have hbegin : SessionOp.step pairSession (.beginFrame true)
      (coopSessionBeginFrame pairSession true).2 := rfl
  refine ⟨_, t, .cons hbegin hrun, coopSessionSave_refused ?_⟩
  unfold coopSessionSaveSize
  rw [if_pos (Or.inr (Or.inr (Or.inl ?_)))]
  rw [ht, List.length_append, List.length_replicate, UINT32_MAX]
  omega

end SmwRecomp.Coop
