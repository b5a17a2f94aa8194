import SmwRecomp.Coop.Emissions
import SmwRecomp.Coop.Order
import SmwRecomp.Coop.Lives
import SmwRecomp.Coop.Reach
import SmwRecomp.Lib.Least

/-!
# Pickup and contact arbitration

* `eventBefore` — the order of the contenders: distance, then player precedence; a strict order.
* `contestLog` — what one group asks for: the bounces of its stomping contenders, and the award.
* `emits_contest` — the loop over a group asks for just that.
* `emits_eventLoop` — in the sorted list every group is one run, so the loop over all events answers
  every group once.
* `contact_arbitration` — the whole resolution.
-/

set_option autoImplicit false

namespace SmwRecomp.Coop

/-! ## The order of the contenders -/

theorem precedes_irrefl (s : CoopSession) (a : CoopPlayerId) :
    coopPlayerPrecedes s a a = false := by
  simp [coopPlayerPrecedes]

theorem precedes_trans (s : CoopSession) {a b c : CoopPlayerId}
    (hab : coopPlayerPrecedes s a b = true)
    (hbc : coopPlayerPrecedes s b c = true) : coopPlayerPrecedes s a c = true := by
  unfold coopPlayerPrecedes at hab hbc ⊢
  grind

theorem precedes_total (s : CoopSession) {a b : CoopPlayerId} (h : a ≠ b) :
    coopPlayerPrecedes s a b = true ∨ coopPlayerPrecedes s b a = true := by
  unfold coopPlayerPrecedes
  grind

/-- Contender `v` comes before contender `w`. -/
def eventBefore (s : CoopSession) (v w : CoopEvent) : Bool := beats s v (some w)

theorem eventBefore_iff {s : CoopSession} {v w : CoopEvent} : eventBefore s v w = true ↔
    v.distanceSquared < w.distanceSquared ∨
      (v.distanceSquared = w.distanceSquared ∧ coopPlayerPrecedes s v.player w.player = true) := by
  unfold eventBefore beats
  simp

theorem strict_eventBefore (s : CoopSession) : Strict (eventBefore s) where
  irrefl a := by
    simp [eventBefore, beats, precedes_irrefl]
  trans a b c hab hbc := by
    rw [eventBefore_iff] at hab hbc ⊢
    rcases hab with hab | ⟨hab, hpab⟩
    · rcases hbc with hbc | ⟨hbc, -⟩
      · exact Or.inl (UInt64.lt_trans hab hbc)
      · exact Or.inl (hbc ▸ hab)
    · rcases hbc with hbc | ⟨hbc, hpbc⟩
      · exact Or.inl (hab ▸ hbc)
      · exact Or.inr ⟨hab.trans hbc, precedes_trans s hpab hpbc⟩

/-! ## One group -/

/-- The bounces of a group, the last one given to `b`. -/
def bounces (s : CoopSession) : CoopPlayerId → List CoopEvent → List CoopAction
  | _, [] => []
  | b, v :: vs =>
    if alive s v.player = true ∧ v.flags &&& COOP_EVENT_STOMP ≠ 0 ∧ b ≠ v.player then
      ⟨.is .stompBounce, v.player, v.entity, 0⟩ :: bounces s v.player vs
    else bounces s b vs

def awardKind (kind : CoopEventKind) : CoopActionKind := if kind = .pickup then .pickup
    else .enemyDamage

/-- The award of a group. -/
def award (s : CoopSession) (kind : CoopEventKind) (group : List CoopEvent) : List CoopAction :=
  match least (eventBefore s) (group.filter fun v => alive s v.player) with
  | none => []
  | some w => [⟨.is (awardKind kind), w.player, w.entity, w.value⟩]

/-- All a group asks for. -/
def contestLog (s : CoopSession) (kind : CoopEventKind) (group : List CoopEvent) :
    List CoopAction :=
  (if kind = .enemyContact then bounces s COOP_NO_PLAYER group else []) ++ award s kind group

section Group

variable {s t : CoopSession}

theorem precedes_congr (h : t.primary = s.primary) :
    coopPlayerPrecedes t = coopPlayerPrecedes s := by
  funext a b
  unfold coopPlayerPrecedes
  rw [h]

theorem beats_congr (h : t.primary = s.primary) : beats t = beats s := by
  funext v w
  unfold beats
  rw [precedes_congr h]

/-- A group looks at who is in play and who is first, and at nothing else of the session. -/
theorem contestLog_congr (halive : alive t = alive s) (hprimary : t.primary = s.primary) :
    contestLog t = contestLog s := by
  have hbefore : eventBefore t = eventBefore s := by
    funext v w
    unfold eventBefore
    rw [beats_congr hprimary]
  have hbounces : ∀ (vs : List CoopEvent) (b : CoopPlayerId), bounces t b vs = bounces s b vs := by
    intro vs
    induction vs with
    | nil =>
        intro b
        rfl
    | cons v vs ih =>
        intro b
        unfold bounces
        rw [halive, ih, ih]
  funext kind group
  unfold contestLog award
  rw [hbefore, hbounces, halive]

theorem contestStep_eq (e : CoopEvent) (g : Contest) (v : CoopEvent) :
    contestStep e g v = if alive g.session v.player = true then (g.contend v).bounce e v
    else g := by
  unfold contestStep alive
  cases coopPlayer g.session v.player with
  | none => rfl
  | some p =>
      dsimp only
      by_cases hlife : p.life = .is .playing
      · rw [if_neg (by simp [hlife]), if_pos (by simp [hlife])]
      · rw [if_pos hlife, if_neg (by simp [hlife])]

theorem contend_eq (g : Contest) (v : CoopEvent) :
    g.contend v = { g with winner := keepLeast (eventBefore g.session) g.winner v } := by
  obtain ⟨winner, bounced, session⟩ := g
  unfold Contest.contend keepLeast eventBefore
  cases winner with
  | none => rfl
  | some w =>
      dsimp only
      split
      · rfl
      · rfl

/-- The loop over a group: the winner is a running minimum, and the session is told of the bounces.
-/
theorem contestFold (e : CoopEvent) (group : List CoopEvent) :
    ∀ g : Contest, g.session.players = s.players →
    g.session.primary = s.primary →
    (group.foldl (contestStep e) g).winner =
        (group.filter fun v => alive s v.player).foldl (keepLeast (eventBefore s)) g.winner ∧
      (group.foldl (contestStep e) g).session.players = s.players ∧
      (group.foldl (contestStep e) g).session.primary = s.primary ∧
      Emits g.session (group.foldl (contestStep e) g).session
        (if e.kind = .is .enemyContact then bounces s g.bounced group else []) := by
  induction group with
  | nil =>
      intro g hplayers hprimary
      refine ⟨rfl, hplayers, hprimary, ?_⟩
      unfold bounces
      rw [ite_self]
      exact Emits.refl g.session
  | cons v group ih =>
      intro g hplayers hprimary
      have hbefore : eventBefore g.session = eventBefore s := by
        funext v w
        unfold eventBefore
        rw [beats_congr hprimary]
      rw [List.foldl_cons, contestStep_eq, alive_congr hplayers]
      unfold bounces
      by_cases hlive : alive s v.player = true
      · have hkeeps : (v :: group).filter (fun v => alive s v.player) =
            v :: group.filter fun v => alive s v.player := List.filter_cons_of_pos hlive
        rw [if_pos hlive, hkeeps, List.foldl_cons, contend_eq, hbefore]
        unfold Contest.bounce
        dsimp only
        by_cases hcontact : e.kind = .is .enemyContact
        · by_cases hstomp : v.flags &&& COOP_EVENT_STOMP ≠ 0 ∧ g.bounced ≠ v.player
          · obtain ⟨hwinner, hp, hq, hemits⟩ := ih ⟨keepLeast (eventBefore s) g.winner v, v.player,
              emit g.session .stompBounce v.player v.entity 0⟩ (emit_players.trans hplayers)
              (emit_primary.trans hprimary)
            rw [if_pos hcontact] at hemits
            rw [if_pos ⟨hcontact, hstomp⟩, if_pos hcontact, if_pos ⟨hlive, hstomp⟩]
            exact ⟨hwinner, hp, hq, (emits_emit g.session _ _ _ _).trans hemits⟩
          · rw [if_neg fun h => hstomp h.2, if_pos hcontact, if_neg fun h => hstomp h.2]
            have hrest :=
              ih ⟨keepLeast (eventBefore s) g.winner v, g.bounced, g.session⟩ hplayers hprimary
            rw [if_pos hcontact] at hrest
            exact hrest
        · rw [if_neg fun h => hcontact h.1, if_neg hcontact]
          have hrest :=
            ih ⟨keepLeast (eventBefore s) g.winner v, g.bounced, g.session⟩ hplayers hprimary
          rw [if_neg hcontact] at hrest
          exact hrest
      · have hdrops : (v :: group).filter (fun v => alive s v.player) =
            group.filter fun v => alive s v.player := List.filter_cons_of_neg hlive
        have hsilent : ¬ (alive s v.player = true ∧ v.flags &&& COOP_EVENT_STOMP ≠ 0 ∧
          g.bounced ≠ v.player) :=
          fun h => hlive h.1
        rw [if_neg hlive, hdrops, if_neg hsilent]
        exact ih g hplayers hprimary

theorem emits_contest {e : CoopEvent} {kind : CoopEventKind} (hkind : e.kind = .is kind)
    (hcontest : kind = .pickup ∨ kind = .enemyContact) (group : List CoopEvent) :
    Emits s (contest s e group) (contestLog s kind group) ∧
    (contest s e group).players = s.players ∧
      (contest s e group).primary = s.primary := by
  obtain ⟨hwinner, hplayers, hprimary, hemits⟩ :=
    contestFold (s := s) e group ⟨none, COOP_NO_PLAYER, s⟩ rfl rfl
  have hbounces : (if e.kind = .is .enemyContact then bounces s COOP_NO_PLAYER group else []) =
      if kind = .enemyContact then bounces s COOP_NO_PLAYER group else [] := by
    rcases hcontest with rfl | rfl
    · simp [hkind]
    · simp [hkind]
  rw [hbounces] at hemits
  have haward : (if e.kind = .is .pickup then CoopActionKind.pickup else .enemyDamage) =
    awardKind kind := by
    rcases hcontest with rfl | rfl
    · simp [hkind, awardKind]
    · simp [hkind, awardKind]
  unfold contest contestLog award
  dsimp only
  rw [hwinner, haward]
  unfold least
  cases (group.filter fun v => alive s v.player).foldl (keepLeast (eventBefore s)) none with
  | none =>
      rw [List.append_nil]
      exact ⟨hemits, hplayers, hprimary⟩
  | some w =>
      exact ⟨hemits.trans (emits_emit _ _ _ _ _), emit_players.trans hplayers,
      emit_primary.trans hprimary⟩

end Group

/-! ## The runs of the sorted list -/

/-- The events of one group. -/
def inGroup (kind : CoopEventKind) (entity : CoopEntityId) (e : CoopEvent) : Bool :=
  decide (e.kind = .is kind) && decide (e.entity = entity)

/-- The actions that answer a group. -/
def answers (kind : CoopEventKind) (entity : CoopEntityId) (a : CoopAction) : Bool :=
  (decide (a.kind = .is (awardKind kind)) ||
    (decide (kind = .enemyContact) && decide (a.kind = .is .stompBounce))) &&
      decide (a.entity = entity)

/-- The other actions of the loop over the events. -/
def Consequence (a : CoopAction) : Prop :=
  a.kind = .is .onOff ∨ a.kind = .is .checkpoint ∨ a.kind = .is .damage ∨ a.kind = .is .dropReserve

section Runs

variable {s t : CoopSession} {kind : CoopEventKind} {entity : CoopEntityId}

theorem inGroup_iff {e : CoopEvent} : inGroup kind entity e = true ↔ e.kind = .is kind ∧
    e.entity = entity := by
  simp [inGroup]

theorem mem_bounces {a : CoopAction} (vs : List CoopEvent) : ∀ b, a ∈ bounces s b vs →
    ∃ v ∈ vs, alive s v.player = true ∧ v.flags &&& COOP_EVENT_STOMP ≠ 0 ∧
      a = ⟨.is .stompBounce, v.player, v.entity, 0⟩ := by
  induction vs with
  | nil =>
      intro b h
      cases h
  | cons v vs ih =>
      intro b h
      unfold bounces at h
      split at h
      · rename_i hbounce
        rcases List.mem_cons.1 h with rfl | h
        · exact ⟨v, List.mem_cons_self, hbounce.1, hbounce.2.1, rfl⟩
        · obtain ⟨w, hw, hrest⟩ := ih _ h
          exact ⟨w, List.mem_cons_of_mem _ hw, hrest⟩
      · obtain ⟨w, hw, hrest⟩ := ih _ h
        exact ⟨w, List.mem_cons_of_mem _ hw, hrest⟩

theorem mem_award {a : CoopAction} {group : List CoopEvent} (h : a ∈ award s kind group) :
    ∃ w ∈ group, alive s w.player = true ∧
    a = ⟨.is (awardKind kind), w.player, w.entity, w.value⟩ := by
  unfold award at h
  split at h
  · cases h
  · rename_i w hw
    obtain ⟨hmem, -⟩ := least_some (strict_eventBefore s) hw
    rw [List.mem_filter] at hmem
    exact ⟨w, hmem.1, hmem.2, List.mem_singleton.1 h⟩

/-- A group's own log answers it, and no other group. -/
theorem filter_contestLog {group : List CoopEvent}
    (hcontest : kind = .pickup ∨ kind = .enemyContact)
    (hgroup : ∀ v ∈ group, v.entity = entity) {kind' : CoopEventKind} {entity' : CoopEntityId}
    (hcontest' : kind' = .pickup ∨ kind' = .enemyContact) :
    (contestLog s kind group).filter (answers kind' entity') =
      if kind = kind' ∧ entity = entity' then contestLog s kind group else [] := by
  have hanswers : ∀ a ∈ contestLog s kind group, answers kind' entity' a = true ↔ kind = kind' ∧
    entity = entity' := by
    intro a ha
    unfold contestLog at ha
    rcases List.mem_append.1 ha with ha | ha
    · split at ha
      · rename_i hcontact
        obtain ⟨v, hv, -, -, rfl⟩ := mem_bounces _ _ ha
        subst hcontact
        rw [← hgroup v hv]
        rcases hcontest' with rfl | rfl <;> simp [answers, awardKind]
      · cases ha
    · obtain ⟨w, hw, -, rfl⟩ := mem_award ha
      rw [← hgroup w hw]
      rcases hcontest with rfl | rfl <;> rcases hcontest' with rfl | rfl <;>
        simp [answers, awardKind]
  split
  · rename_i hsame
    exact List.filter_eq_self.2 fun a ha => (hanswers a ha).2 hsame
  · rename_i hother
    exact List.filter_eq_nil_iff.2 fun a ha h => hother ((hanswers a ha).1 h)

theorem filter_consequences (hcontest : kind = .pickup ∨ kind = .enemyContact)
    {as : List CoopAction}
    (h : ∀ a ∈ as, Consequence a) : as.filter (answers kind entity) = [] := by
  rw [List.filter_eq_nil_iff]
  intro a ha
  rcases h a ha with hk | hk | hk | hk <;> rcases hcontest with rfl | rfl <;>
    simp [answers, awardKind, hk]

/-- When a property holds of a first part of a list, its run at the head is all there is. -/
theorem takeWhile_eq_filter {α : Type} {P : α → Bool} {l : List α}
    (hfirst : l.Pairwise fun x y => P y = true → P x = true) :
    l.takeWhile P = l.filter P ∧ (l.dropWhile P).filter P = [] := by
  induction l with
  | nil => exact ⟨rfl, rfl⟩
  | cons x l ih =>
      rw [List.pairwise_cons] at hfirst
      by_cases hx : P x = true
      · obtain ⟨htake, hdrop⟩ := ih hfirst.2
        rw [List.takeWhile_cons_of_pos hx, List.filter_cons_of_pos hx,
          List.dropWhile_cons_of_pos hx, htake]
        exact ⟨rfl, hdrop⟩
      · have hnone : l.filter P = [] := by
          rw [List.filter_eq_nil_iff]
          intro y hy hpy
          exact hx (hfirst.1 y hy hpy)
        rw [List.takeWhile_cons_of_neg hx, List.filter_cons_of_neg hx,
          List.dropWhile_cons_of_neg hx, List.filter_cons_of_neg hx, hnone]
        exact ⟨rfl, rfl⟩

theorem then_isLE {o o' : Ordering} (h : (o.then o').isLE = true) :
    o = .lt ∨ (o = .eq ∧ o'.isLE = true) := by
  cases o with
  | lt => exact Or.inl rfl
  | eq => exact Or.inr ⟨rfl, h⟩
  | gt => cases h

/-- The first three keys of `compare_event`. -/
theorem compareEvent_le {a b : CoopEvent} (h : (compareEvent a b).isLE = true) :
    a.kind.toWord < b.kind.toWord ∨ a.kind = b.kind ∧ (a.entity < b.entity ∨
      a.entity = b.entity ∧ a.player ≤ b.player) := by
  unfold compareEvent at h
  rcases then_isLE h with h | ⟨h, hrest⟩
  · exact Or.inl (Std.compare_eq_lt.1 h)
  right
  refine ⟨CEnum.toWord_injective (Std.LawfulEqOrd.compare_eq_iff_eq.1 h), ?_⟩
  rcases then_isLE hrest with h | ⟨h, hrest⟩
  · exact Or.inl (Std.compare_eq_lt.1 h)
  right
  refine ⟨Std.LawfulEqOrd.compare_eq_iff_eq.1 h, ?_⟩
  rcases then_isLE hrest with h | ⟨h, -⟩
  · exact UInt32.le_of_lt (Std.compare_eq_lt.1 h)
  · rw [Std.LawfulEqOrd.compare_eq_iff_eq.1 h]
    exact UInt32.le_refl _

/-- Between two events of a group the sorted list holds events of that group. -/
theorem inGroup_between {a b c : CoopEvent} (hab : (compareEvent a b).isLE = true)
    (hbc : (compareEvent b c).isLE = true) (ha : inGroup kind entity a = true)
    (hc : inGroup kind entity c = true) : inGroup kind entity b = true := by
  rw [inGroup_iff] at ha hc ⊢
  have hab := compareEvent_le hab
  have hbc := compareEvent_le hbc
  rw [ha.1, ha.2] at hab
  rw [hc.1, hc.2] at hbc
  grind

theorem sameGroup_eq {e : CoopEvent} (he : e.kind = .is kind) :
    sameGroup e = inGroup kind e.entity := by
  funext v
  rw [sameGroup, inGroup, he]

/-- In a sorted list the run that an event opens is its whole group. -/
theorem takeWhile_sameGroup {e : CoopEvent} (he : e.kind = .is kind) {rest : List CoopEvent}
    (hsorted : (e :: rest).Pairwise fun a b => (compareEvent a b).isLE = true) :
    rest.takeWhile (sameGroup e) = rest.filter (inGroup kind e.entity) ∧
      (rest.dropWhile (sameGroup e)).filter (inGroup kind e.entity) = [] := by
  rw [List.pairwise_cons] at hsorted
  rw [sameGroup_eq he]
  apply takeWhile_eq_filter
  apply List.Pairwise.imp_of_mem _ hsorted.2
  intro x y hx hy hxy hgroup
  exact inGroup_between (hsorted.1 x hx) hxy (inGroup_iff.2 ⟨he, rfl⟩) hgroup

theorem eventLoop_drop (es : List CoopEvent) : ∀ (g : Pass) (skip : Nat),
    eventLoop g skip es = eventLoop g 0 (es.drop skip) := by
  induction es with
  | nil =>
      intro g skip
      cases skip with
      | zero => rfl
      | succ skip => rfl
  | cons e es ih =>
      intro g skip
      cases skip with
      | zero => rfl
      | succ skip => exact ih g skip

theorem alive_eq_of_lives (h : ∀ i, (coopPlayer t i).map (fun p => decide (p.life = .is .playing)) =
    (coopPlayer s i).map fun p => decide (p.life = .is .playing)) : alive t = alive s := by
  have hdef : ∀ (u : CoopSession) i,
      alive u i = ((coopPlayer u i).map fun p => decide (p.life = .is .playing)).getD false := by
    intro u i
    unfold alive
    cases coopPlayer u i with
    | none => rfl
    | some p => rfl
  funext i
  rw [hdef, hdef, h]

theorem alive_damageStep (e : CoopEvent) {p : CoopPlayer} (hp : coopPlayer s e.player = some p) :
    alive (damageStep s e p) = alive s := by
  apply alive_eq_of_lives
  intro i
  rw [damageStep_player e hp]
  split
  · rename_i hhit
    rw [hhit.1, hp]
    rfl
  · rfl

theorem alive_deathFinishedStep {p : CoopPlayer} {id : CoopPlayerId}
    (hp : coopPlayer s id = some p) :
    alive (deathFinishedStep s p) = alive s := by
  apply alive_eq_of_lives
  intro i
  rw [deathFinishedStep_player hp]
  split
  · rename_i hdying
    rw [hdying.1, hp, Option.map_some, Option.map_some, hdying.2]
    rfl
  · rfl

theorem alive_checkpointStep (e : CoopEvent) : alive (checkpointStep s e) = alive s := by
  apply alive_eq_of_lives
  intro i
  rw [checkpointStep_player, Option.map_map]
  rfl

/-- Any other event asks for its consequence, and nobody enters or leaves play. -/
theorem emits_otherStep (g : Pass) {e : CoopEvent} (rest : List CoopEvent)
    (hpickup : e.kind ≠ .is .pickup) (hcontact : e.kind ≠ .is .enemyContact) :
    (∃ as, Emits g.session (eventStep g e rest).1.session as ∧ ∀ a ∈ as, Consequence a) ∧
      (eventStep g e rest).2 = 0 ∧ alive (eventStep g e rest).1.session = alive g.session := by
  have hnone : ∃ as, Emits g.session g.session as ∧ ∀ a ∈ as, Consequence a :=
    ⟨[], Emits.refl _, fun _ ha => nomatch ha⟩
  unfold eventStep
  split
  · rename_i hkind
    exact absurd hkind hpickup
  · rename_i hkind
    exact absurd hkind hcontact
  · dsimp only
    split
    · refine ⟨⟨_, emits_emit _ _ _ _ _, ?_⟩, rfl, alive_congr emit_players⟩
      intro a ha
      rw [List.mem_singleton.1 ha]
      exact Or.inl rfl
    · exact ⟨hnone, rfl, rfl⟩
  · split
    · exact ⟨hnone, rfl, rfl⟩
    · refine ⟨⟨_, emits_checkpointStep e, ?_⟩, rfl, alive_checkpointStep e⟩
      intro a ha
      rw [List.mem_singleton.1 ha]
      exact Or.inr (Or.inl rfl)
  · cases hp : coopPlayer g.session e.player with
    | none => exact ⟨hnone, rfl, rfl⟩
    | some p =>
        refine ⟨⟨_, emits_damageStep e p, ?_⟩, rfl, alive_damageStep e hp⟩
        intro a ha
        split at ha
        · unfold hurtLog at ha
          rw [List.mem_append, mem_asked, List.mem_singleton] at ha
          rcases ha with ⟨-, rfl⟩ | rfl
          · exact Or.inr (Or.inr (Or.inr rfl))
          · exact Or.inr (Or.inr (Or.inl rfl))
        · cases ha
  · cases hp : coopPlayer g.session e.player with
    | none => exact ⟨hnone, rfl, rfl⟩
    | some p =>
        exact ⟨⟨[], emits_deathFinishedStep p, fun _ ha => nomatch ha⟩, rfl,
        alive_deathFinishedStep hp⟩
  · exact ⟨hnone, rfl, rfl⟩

theorem contestStep_pass (g : Pass) {e : CoopEvent} (rest : List CoopEvent) (he : e.kind = .is kind)
    (hcontest : kind = .pickup ∨ kind = .enemyContact) : eventStep g e rest =
      ({ g with session := contest g.session e (e :: rest.takeWhile (sameGroup e)) },
        (rest.takeWhile (sameGroup e)).length) := by
  unfold eventStep
  rcases hcontest with rfl | rfl
  · rw [he]
  · rw [he]

theorem drop_takeWhile_length {α : Type} (P : α → Bool) (l : List α) :
    l.drop (l.takeWhile P).length = l.dropWhile P := by
  induction l with
  | nil => rfl
  | cons x l ih =>
      by_cases hx : P x = true
      · rw [List.takeWhile_cons_of_pos hx, List.dropWhile_cons_of_pos hx]
        exact ih
      · rw [List.takeWhile_cons_of_neg hx, List.dropWhile_cons_of_neg hx]
        rfl

theorem contestLog_nil (kind : CoopEventKind) : contestLog s kind [] = [] := by
  simp [contestLog, award, bounces, least_nil]

/-- The opened run and the rest together hold every group whole. -/
theorem contestLog_split {e : CoopEvent} (he : e.kind = .is kind) {rest : List CoopEvent}
    (hsorted : (e :: rest).Pairwise fun a b => (compareEvent a b).isLE = true)
    (kind' : CoopEventKind)
    (entity' : CoopEntityId) :
    (if kind = kind' ∧ e.entity = entity' then contestLog s kind (e :: rest.takeWhile (sameGroup e))
      else []) ++
        contestLog s kind' ((rest.dropWhile (sameGroup e)).filter (inGroup kind' entity')) =
      contestLog s kind' ((e :: rest).filter (inGroup kind' entity')) := by
  obtain ⟨htake, hdrop⟩ := takeWhile_sameGroup he hsorted
  by_cases hsame : kind = kind' ∧ e.entity = entity'
  · obtain ⟨rfl, rfl⟩ := hsame
    rw [if_pos ⟨rfl, rfl⟩, hdrop, contestLog_nil, List.append_nil,
      List.filter_cons_of_pos (inGroup_iff.2 ⟨he, rfl⟩), htake]
  · have hother : ∀ v, inGroup kind e.entity v = true → ¬ inGroup kind' entity' v = true := by
      intro v hv hv'
      rw [inGroup_iff] at hv hv'
      have hkind : kind = kind' := by
        have := hv.1.symm.trans hv'.1
        cases this
        rfl
      exact hsame ⟨hkind, hv.2.symm.trans hv'.2⟩
    have hrun : (rest.takeWhile (sameGroup e)).filter (inGroup kind' entity') = [] := by
      rw [htake, List.filter_eq_nil_iff]
      intro v hv
      exact hother v (List.mem_filter.1 hv).2
    rw [if_neg hsame, List.nil_append, List.filter_cons_of_neg (hother e (inGroup_iff.2 ⟨he, rfl⟩))]
    conv_rhs =>
      rw [← List.takeWhile_append_dropWhile (p := sameGroup e) (l := rest),
      List.filter_append, hrun, List.nil_append]

/-- The loop over sorted events answers every group with what the group asks for. -/
theorem emits_eventLoop (s : CoopSession) : ∀ (n : Nat) (es : List CoopEvent), es.length ≤ n →
    es.Pairwise (fun a b => (compareEvent a b).isLE = true) →
    ∀ g : Pass, alive g.session = alive s →
    g.session.primary = s.primary → ∃ as, Emits g.session (eventLoop g 0 es).session as ∧
      ∀ kind, kind = .pickup ∨ kind = .enemyContact → ∀ entity,
        as.filter (answers kind entity) = contestLog s kind (es.filter (inGroup kind entity)) := by
  intro n
  induction n with
  | zero =>
      intro es hlen _ g _ _
      rw [List.length_eq_zero_iff.1 (Nat.le_zero.1 hlen)]
      exact ⟨[], Emits.refl _, fun kind _ entity => (contestLog_nil kind).symm⟩
  | succ n ih =>
      intro es hlen hsorted g halive hprimary
      cases es with
      | nil => exact ⟨[], Emits.refl _, fun kind _ entity => (contestLog_nil kind).symm⟩
      | cons e rest =>
          have hlen : rest.length ≤ n := Nat.le_of_succ_le_succ hlen
          have hrest : rest.Pairwise fun a b => (compareEvent a b).isLE = true :=
            (List.pairwise_cons.1 hsorted).2
          unfold eventLoop
          rw [eventLoop_drop]
          by_cases hcontest : e.kind = .is .pickup ∨ e.kind = .is .enemyContact
          · obtain ⟨kind, he, hkind⟩ : ∃ kind, e.kind = .is kind ∧
              (kind = .pickup ∨ kind = .enemyContact) := by
              rcases hcontest with h | h
              · exact ⟨_, h, Or.inl rfl⟩
              · exact ⟨_, h, Or.inr rfl⟩
            obtain ⟨hemits, hplayers, hfirst⟩ :=
              emits_contest (s := g.session) he hkind (e :: rest.takeWhile (sameGroup e))
            rw [contestLog_congr halive hprimary] at hemits
            have hgroup : ∀ v ∈ e :: rest.takeWhile (sameGroup e), v.entity = e.entity := by
              rw [List.forall_mem_cons, (takeWhile_sameGroup he hsorted).1]
              exact ⟨rfl, fun v hv => (inGroup_iff.1 (List.mem_filter.1 hv).2).2⟩
            rw [contestStep_pass g rest he hkind]
            dsimp only
            rw [drop_takeWhile_length]
            obtain ⟨as, hemits', hanswers⟩ := ih (rest.dropWhile (sameGroup e))
              (Nat.le_trans (List.dropWhile_sublist _).length_le hlen)
                (hrest.sublist (List.dropWhile_sublist _))
              { g with session := contest g.session e (e :: rest.takeWhile (sameGroup e)) }
              ((alive_congr hplayers).trans halive) (hfirst.trans hprimary)
            refine ⟨_, hemits.trans hemits', ?_⟩
            intro kind' hkind' entity'
            rw [List.filter_append, filter_contestLog hkind hgroup hkind',
              hanswers kind' hkind' entity', contestLog_split he hsorted]
          · rw [not_or] at hcontest
            obtain ⟨⟨as, hemits, hkinds⟩, hskip, hsame⟩ :=
              emits_otherStep g rest hcontest.1 hcontest.2
            have hfirst : (eventStep g e rest).1.session.primary = g.session.primary :=
              congrArg Ledger.primary (ledger_eventStep g e rest)
            rw [hskip, List.drop_zero]
            obtain ⟨bs, hemits', hanswers⟩ :=
              ih rest hlen hrest (eventStep g e rest).1 (hsame.trans halive)
              (hfirst.trans hprimary)
            refine ⟨_, hemits.trans hemits', ?_⟩
            intro kind' hkind' entity'
            have hout : ¬ inGroup kind' entity' e = true := by
              intro h
              have := (inGroup_iff.1 h).1
              rcases hkind' with rfl | rfl
              · exact hcontest.1 this
              · exact hcontest.2 this
            rw [List.filter_append, filter_consequences hkind' hkinds, List.nil_append,
              hanswers kind' hkind' entity', List.filter_cons_of_neg hout]

/-- A stomping survivor of a group bounces once, however often it stomped. -/
theorem filter_bounces (id : CoopPlayerId) (vs : List CoopEvent) :
    ∀ b, (∀ v ∈ vs, v.entity = entity) →
    vs.Pairwise (fun v w => v.player ≤ w.player) → (alive s b = true → ∀ v ∈ vs, b ≤ v.player) →
    (bounces s b vs).filter (fun a => decide (a.player = id)) =
      if id ≠ b ∧ ∃ v ∈ vs, v.player = id ∧ alive s id = true ∧
        v.flags &&& COOP_EVENT_STOMP ≠ 0 then
        [⟨.is .stompBounce, id, entity, 0⟩]
      else [] := by
  induction vs with
  | nil =>
      intro b _ _ _
      rw [if_neg]
      · rfl
      · rintro ⟨-, v, hv, -⟩
        cases hv
  | cons v vs ih =>
      intro b hentity hsorted hfirst
      rw [List.forall_mem_cons] at hentity
      rw [List.pairwise_cons] at hsorted
      unfold bounces
      by_cases hbounce : alive s v.player = true ∧ v.flags &&& COOP_EVENT_STOMP ≠ 0 ∧ b ≠ v.player
      · rw [if_pos hbounce]
        have hrest := ih v.player hentity.2 hsorted.2 fun _ => hsorted.1
        obtain ⟨hlive, hstomp, hnew⟩ := hbounce
        by_cases hid : v.player = id
        · subst hid
          rw [List.filter_cons_of_pos (by simp), hrest, if_neg fun h => h.1 rfl,
            if_pos ⟨Ne.symm hnew, v, List.mem_cons_self, rfl, hlive, hstomp⟩, hentity.1]
        · rw [List.filter_cons_of_neg (by simp [hid]), hrest]
          congr 1
          rw [eq_iff_iff]
          constructor
          · rintro ⟨-, w, hw, hwid, halive, hwstomp⟩
            refine ⟨?_, w, List.mem_cons_of_mem _ hw, hwid, halive, hwstomp⟩
            rintro rfl
            have hle := hfirst halive v List.mem_cons_self
            have hge := hsorted.1 w hw
            rw [hwid] at hge
            exact hnew (UInt32.le_antisymm hle hge)
          · rintro ⟨-, w, hw, hwid, halive, hwstomp⟩
            rcases List.mem_cons.1 hw with rfl | hw
            · exact absurd hwid hid
            · exact ⟨Ne.symm hid, w, hw, hwid, halive, hwstomp⟩
      · rw [if_neg hbounce, ih b hentity.2 hsorted.2 fun h w hw =>
          hfirst h w (List.mem_cons_of_mem _ hw)]
        congr 1
        rw [eq_iff_iff]
        constructor
        · rintro ⟨hne, w, hw, hrest⟩
          exact ⟨hne, w, List.mem_cons_of_mem _ hw, hrest⟩
        · rintro ⟨hne, w, hw, hwid, halive, hwstomp⟩
          rcases List.mem_cons.1 hw with rfl | hw
          · exact absurd ⟨hwid ▸ halive, hwstomp, fun h => hne (hwid.symm.trans h.symm)⟩ hbounce
          · exact ⟨hne, w, hw, hwid, halive, hwstomp⟩

end Runs

/-! ## The resolution -/

/-- In play behind the lethal pass of the frame. -/
def Survives (t : CoopSession) (id : CoopPlayerId) : Prop :=
  alive t id = true ∧ ¬ Doomed t.events id

instance (t : CoopSession) (id : CoopPlayerId) : Decidable (Survives t id) :=
  inferInstanceAs (Decidable (_ ∧ _))

/-- The award of a group. -/
def awards (kind : CoopEventKind) (entity : CoopEntityId) (a : CoopAction) : Bool :=
  decide (a.kind = .is (awardKind kind) ∧ a.entity = entity)

/-- The bounce of a player off an entity. -/
def bounceOf (id : CoopPlayerId) (entity : CoopEntityId) (a : CoopAction) : Bool :=
  decide (a.kind = .is .stompBounce ∧ a.entity = entity ∧ a.player = id)

/-- A survivor contends in a group. -/
def Contends (t : CoopSession) (kind : CoopEventKind) (entity : CoopEntityId)
    (v : CoopEvent) : Prop :=
  v ∈ t.events ∧ inGroup kind entity v = true ∧ Survives t v.player

/-- One award for the first contender of the group, none without contenders. -/
def Awarded (t : CoopSession) (as : List CoopAction) (kind : CoopEventKind)
    (entity : CoopEntityId) : Prop :=
  (∃ w, Contends t kind entity w ∧ (∀ v, Contends t kind entity v → eventBefore t v w = false) ∧
      as.filter (awards kind entity) = [⟨.is (awardKind kind), w.player, entity, w.value⟩]) ∨
    (∀ v, ¬ Contends t kind entity v) ∧ as.filter (awards kind entity) = []

/-- Whether the player stomped on the entity. -/
def Stomped (t : CoopSession) (id : CoopPlayerId) (entity : CoopEntityId) : Prop :=
  ∃ v, Contends t .enemyContact entity v ∧ v.player = id ∧ v.flags &&& COOP_EVENT_STOMP ≠ 0

/-- One bounce for every stomping contender. -/
def Bounced (t : CoopSession) (as : List CoopAction) (id : CoopPlayerId)
    (entity : CoopEntityId) : Prop :=
  Stomped t id entity ∧ as.filter (bounceOf id entity) = [⟨.is .stompBounce, id, entity, 0⟩] ∨
    ¬ Stomped t id entity ∧ as.filter (bounceOf id entity) = []

section Resolution

variable {s t : CoopSession} {kind : CoopEventKind} {entity : CoopEntityId}

theorem sorted_beginResolve (s : CoopSession) :
    (beginResolve s).events.Pairwise (fun a b => (compareEvent a b).isLE = true) ∧
      (beginResolve s).events.Perm s.events := by
  unfold beginResolve
  dsimp only
  split
  · exact ⟨List.pairwise_insertionSort _ _, List.perm_insertionSort _ _⟩
  · rename_i hlen
    refine ⟨?_, List.Perm.refl _⟩
    cases hevents : s.events with
    | nil => exact List.Pairwise.nil
    | cons e es =>
        cases es with
        | nil => exact List.pairwise_singleton _ _
        | cons f es =>
            rw [hevents] at hlen
            simp at hlen

/-- The actions of the frame's end. -/
def OfEnd (a : CoopAction) : Prop :=
  a.kind = .is .exit ∨ a.kind = .is .retry ∨ a.kind = .is .gameOver

theorem emits_finishFrame (s : CoopSession) (x : Terminal) :
    (∃ as, Emits s (finishFrame s x) as ∧ ∀ a ∈ as, OfEnd a) ∧ (finishFrame s x).players =
      s.players := by
  unfold finishFrame
  split
  · rename_i e he
    have hclear : Emits s { s with outcome := .is .clear } [] := Emits.of_eq rfl rfl
    refine ⟨⟨_, hclear.trans (emits_emit _ _ _ _ _), ?_⟩, emit_players⟩
    intro a ha
    rw [List.nil_append, List.mem_singleton] at ha
    rw [ha]
    exact Or.inl rfl
  · split
    · unfold chargeLife
      dsimp only
      generalize (if s.lives ≠ 0 then s.lives - 1 else s.lives) = lives
      have hcharge : Emits s { s with
          lives := lives
          outcome := .is (if lives ≠ 0 then CoopOutcome.retry else .gameOver) } [] :=
            Emits.of_eq rfl rfl
      refine ⟨⟨_, hcharge.trans (emits_emit _ _ _ _ _), ?_⟩, emit_players⟩
      intro a ha
      rw [List.nil_append, List.mem_singleton] at ha
      rw [ha]
      by_cases hlives : lives ≠ 0
      · rw [if_pos hlives]
        exact Or.inr (Or.inl rfl)
      · rw [if_neg hlives]
        exact Or.inr (Or.inr rfl)
    · exact ⟨⟨[], Emits.refl s, fun _ ha => nomatch ha⟩, rfl⟩

/-- What the whole resolution asks for. -/
theorem emits_resolvePasses (t : CoopSession) :
    ∃ as s₁, Emits t (resolvePasses (beginResolve t)) as ∧
    (∀ id, alive s₁ id = true ↔ Survives t id) ∧ s₁.primary = t.primary ∧
    ∀ kind, kind = .pickup ∨ kind = .enemyContact → ∀ entity,
      as.filter (answers kind entity) =
        contestLog s₁ kind ((beginResolve t).events.filter (inGroup kind entity)) := by
  obtain ⟨hsorted, hperm⟩ := sorted_beginResolve t
  have hbegin : Emits t (beginResolve t) [] := Emits.of_eq rfl rfl
  have hdoomed : ∀ id, Doomed (beginResolve t).events id ↔ Doomed t.events id := by
    intro id
    unfold Doomed
    simp only [hperm.mem_iff]
  unfold resolvePasses
  dsimp only
  generalize (beginResolve t).events.foldl (terminalStep (beginResolve t)) ⟨none, false, 0⟩ = x
  obtain ⟨ds, hdeaths, hkinds, -⟩ := emits_lethalPass (beginResolve t).events (beginResolve t)
  have hprimary : ((beginResolve t).events.foldl lethalStep (beginResolve t)).primary = t.primary :=
    congrArg Ledger.primary (ledger_lethalPass (beginResolve t).events (s := beginResolve t))
  have halive := fun id => lethalPass_alive (beginResolve t).events id (beginResolve t)
  have hevents : ((beginResolve t).events.foldl lethalStep (beginResolve t)).events =
    (beginResolve t).events :=
    congrArg Ledger.events (ledger_lethalPass (beginResolve t).events (s := beginResolve t))
  generalize (beginResolve t).events.foldl lethalStep (beginResolve t) =
    s₁ at hdeaths hprimary halive hevents ⊢
  obtain ⟨as, hloop, hanswers⟩ :=
    emits_eventLoop s₁ _ (beginResolve t).events (Nat.le_refl _) hsorted
    ⟨s₁, false, false⟩ rfl rfl
  rw [hevents]
  obtain ⟨⟨bs, hend, hkinds'⟩, -⟩ :=
    emits_finishFrame (eventLoop ⟨s₁, false, false⟩ 0 (beginResolve t).events).session x
  refine ⟨_, s₁, (((hbegin.trans hdeaths).trans hloop).trans hend), ?_, hprimary, ?_⟩
  · intro id
    rw [halive, hdoomed]
    rfl
  · intro kind hkind entity
    have hds : ds.filter (answers kind entity) = [] := by
      rw [List.filter_eq_nil_iff]
      intro a ha
      rcases hkinds a ha with hk | hk | hk <;> rcases hkind with rfl | rfl <;>
        simp [answers, awardKind, hk]
    have hbs : bs.filter (answers kind entity) = [] := by
      rw [List.filter_eq_nil_iff]
      intro a ha
      rcases hkinds' a ha with hk | hk | hk <;> rcases hkind with rfl | rfl <;>
        simp [answers, awardKind, hk]
    rw [List.nil_append, List.filter_append, List.filter_append, hds, hbs,
      hanswers kind hkind entity, List.nil_append, List.append_nil]

/-- The parts of a group's log. -/
theorem filter_awards {group : List CoopEvent} (hkind : kind = .pickup ∨ kind = .enemyContact)
    (hgroup : ∀ v ∈ group, v.entity = entity) :
    (contestLog s kind group).filter (awards kind entity) = award s kind group ∧
      ∀ id, (contestLog s .enemyContact group).filter (bounceOf id entity) =
        (bounces s COOP_NO_PLAYER group).filter fun a => decide (a.player = id) := by
  have haward : ∀ k, ∀ a ∈ award s k group, a.kind = .is (awardKind k) ∧ a.entity = entity := by
    intro k a ha
    obtain ⟨w, hw, -, rfl⟩ := mem_award ha
    exact ⟨rfl, hgroup w hw⟩
  have hbounce : ∀ a ∈ bounces s COOP_NO_PLAYER group, a.kind = .is .stompBounce ∧
    a.entity = entity := by
    intro a ha
    obtain ⟨v, hv, -, -, rfl⟩ := mem_bounces _ _ ha
    exact ⟨rfl, hgroup v hv⟩
  constructor
  · unfold contestLog
    have hnone : (if kind = .enemyContact then bounces s COOP_NO_PLAYER group else []).filter
      (awards kind entity) = [] := by
      rw [List.filter_eq_nil_iff]
      intro a ha
      split at ha
      · rcases hkind with rfl | rfl <;> simp [awards, awardKind, (hbounce a ha).1]
      · cases ha
    rw [List.filter_append, hnone, List.nil_append, List.filter_eq_self]
    intro a ha
    exact decide_eq_true (haward kind a ha)
  · intro id
    unfold contestLog
    have hnone : (award s .enemyContact group).filter (bounceOf id entity) = [] := by
      rw [List.filter_eq_nil_iff]
      intro a ha
      simp [bounceOf, (haward _ a ha).1, awardKind]
    rw [List.filter_append, hnone, List.append_nil, if_pos rfl]
    apply List.filter_congr
    intro a ha
    simp [bounceOf, (hbounce a ha).1, (hbounce a ha).2]

/-- A filter that looks at actions that answer a group only, looks at the group's log only. -/
theorem filter_answers {P : CoopAction → Bool} {as : List CoopAction}
    (h : ∀ a, P a = true → answers kind entity a = true) :
    (as.filter (answers kind entity)).filter P = as.filter P := by
  rw [List.filter_filter]
  apply List.filter_congr
  intro a _
  cases hp : P a with
  | false => rfl
  | true => rw [h a hp]; rfl

theorem mem_group {e : CoopEvent} : e ∈ (beginResolve t).events.filter (inGroup kind entity) ↔
    e ∈ t.events ∧ inGroup kind entity e = true := by
  rw [List.mem_filter, (sorted_beginResolve t).2.mem_iff]

/-- Inside a group the sorted list is ordered by player. -/
theorem group_byPlayer (t : CoopSession) (kind : CoopEventKind) (entity : CoopEntityId) :
    ((beginResolve t).events.filter (inGroup kind entity)).Pairwise fun v w =>
    v.player ≤ w.player := by
  apply List.Pairwise.imp_of_mem _ ((sorted_beginResolve t).1.sublist List.filter_sublist)
  intro v w hv hw hle
  have hv := inGroup_iff.1 (List.mem_filter.1 hv).2
  have hw := inGroup_iff.1 (List.mem_filter.1 hw).2
  rcases compareEvent_le hle with h | ⟨-, h | ⟨-, h⟩⟩
  · rw [hv.1, hw.1] at h
    exact absurd h (UInt32.lt_irrefl _)
  · rw [hv.2, hw.2] at h
    exact absurd h (UInt32.lt_irrefl _)
  · exact h

/-- The actions answer the groups of the frame by who is in play behind the lethal pass, in `s`. -/
structure Arbitrated (t s : CoopSession) (as : List CoopAction) : Prop where
  live : ∀ id, alive s id = true ↔ Survives t id
  primary : s.primary = t.primary
  logs : ∀ kind, kind = .pickup ∨ kind = .enemyContact → ∀ entity,
    as.filter (answers kind entity) =
      contestLog s kind ((beginResolve t).events.filter (inGroup kind entity))

section Answered

variable {as : List CoopAction}

theorem group_entity : ∀ v ∈ (beginResolve t).events.filter (inGroup kind entity),
    v.entity = entity :=
  fun _ hv => (inGroup_iff.1 (List.mem_filter.1 hv).2).2

/-- The award goes to the first contender. -/
theorem Arbitrated.awarded (h : Arbitrated t s as) (hkind : kind = .pickup ∨ kind = .enemyContact) :
    Awarded t as kind entity := by
  have hbefore : eventBefore s = eventBefore t := by
    funext v w
    unfold eventBefore
    rw [beats_congr h.primary]
  have hcontends : ∀ v, v ∈ ((beginResolve t).events.filter (inGroup kind entity)).filter
    (fun v => alive s v.player) ↔
      Contends t kind entity v := by
    intro v
    rw [List.mem_filter, mem_group, h.live, and_assoc]
    rfl
  have hlog : as.filter (awards kind entity) =
    award s kind ((beginResolve t).events.filter (inGroup kind entity)) := by
    rw [← (filter_awards hkind group_entity).1, ← h.logs kind hkind entity, filter_answers]
    intro a ha
    simp only [awards, decide_eq_true_eq] at ha
    simp [answers, ha.1, ha.2]
  unfold award at hlog
  cases hwinner : least (eventBefore s)
      (((beginResolve t).events.filter (inGroup kind entity)).filter fun v => alive s v.player) with
  | none =>
      rw [hwinner] at hlog
      rw [least_eq_none (strict_eventBefore s)] at hwinner
      refine Or.inr ⟨?_, hlog⟩
      intro v hv
      rw [← hcontends, hwinner] at hv
      cases hv
  | some w =>
      rw [hwinner] at hlog
      obtain ⟨hmem, hleast⟩ := least_some (strict_eventBefore s) hwinner
      have hw := (hcontends w).1 hmem
      dsimp only at hlog
      rw [(inGroup_iff.1 hw.2.1).2] at hlog
      refine Or.inl ⟨w, hw, ?_, hlog⟩
      intro v hv
      rw [← hbefore]
      exact hleast v ((hcontends v).2 hv)

/-- Nobody is no player, so that every stomping survivor bounces. -/
theorem Arbitrated.bounced (h : Arbitrated t s as) (hnobody : coopPlayer t COOP_NO_PLAYER = none)
    (id : CoopPlayerId) :
    Bounced t as id entity := by
  have hgone : ¬ alive s COOP_NO_PLAYER = true := by
    rw [h.live]
    rintro ⟨hlive, -⟩
    simp [alive, hnobody] at hlive
  have hlog : as.filter (bounceOf id entity) =
      if id ≠ COOP_NO_PLAYER ∧ ∃ v ∈ (beginResolve t).events.filter (inGroup .enemyContact entity),
          v.player = id ∧ alive s id = true ∧ v.flags &&& COOP_EVENT_STOMP ≠ 0 then
        [⟨.is .stompBounce, id, entity, 0⟩]
      else [] := by
    rw [← filter_bounces id _ COOP_NO_PLAYER group_entity (group_byPlayer t .enemyContact entity)
        fun hlive => absurd hlive hgone,
      ← (filter_awards (Or.inr rfl) group_entity).2, ← h.logs .enemyContact (Or.inr rfl) entity,
      filter_answers]
    intro a ha
    simp only [bounceOf, decide_eq_true_eq] at ha
    simp [answers, ha.1, ha.2.1]
  have hstomped : (id ≠ COOP_NO_PLAYER ∧
    ∃ v ∈ (beginResolve t).events.filter (inGroup .enemyContact entity),
      v.player = id ∧ alive s id = true ∧ v.flags &&& COOP_EVENT_STOMP ≠ 0) ↔
      Stomped t id entity := by
    constructor
    · rintro ⟨-, v, hv, hid, hlive, hstomp⟩
      rw [mem_group] at hv
      exact ⟨v, ⟨hv.1, hv.2, hid ▸ (h.live id).1 hlive⟩, hid, hstomp⟩
    · rintro ⟨v, ⟨hv, hgroup, hlive⟩, hid, hstomp⟩
      rw [hid, ← h.live] at hlive
      refine ⟨?_, v, mem_group.2 ⟨hv, hgroup⟩, hid, hlive, hstomp⟩
      rintro rfl
      exact hgone hlive
  by_cases hcase : Stomped t id entity
  · rw [if_pos (hstomped.2 hcase)] at hlog
    exact Or.inl ⟨hcase, hlog⟩
  · rw [if_neg fun hs => hcase (hstomped.1 hs)] at hlog
    exact Or.inr ⟨hcase, hlog⟩

/-- Only a survivor is answered. -/
theorem Arbitrated.survives (h : Arbitrated t s as) {a : CoopAction} (ha : a ∈ as)
    (hkinds : a.kind = .is .pickup ∨ a.kind = .is .enemyDamage ∨ a.kind = .is .stompBounce) :
    Survives t a.player := by
  obtain ⟨kind, hkind, hanswer⟩ : ∃ kind, (kind = .pickup ∨ kind = .enemyContact) ∧
    answers kind a.entity a = true := by
    rcases hkinds with hk | hk | hk
    · exact ⟨.pickup, Or.inl rfl, by simp [answers, awardKind, hk]⟩
    · exact ⟨.enemyContact, Or.inr rfl, by simp [answers, awardKind, hk]⟩
    · exact ⟨.enemyContact, Or.inr rfl, by simp [answers, hk]⟩
  have hmem : a ∈ as.filter (answers kind a.entity) := List.mem_filter.2 ⟨ha, hanswer⟩
  rw [h.logs kind hkind, contestLog, List.mem_append] at hmem
  rw [← h.live]
  rcases hmem with hmem | hmem
  · split at hmem
    · obtain ⟨v, -, hlive, -, rfl⟩ := mem_bounces _ _ hmem
      exact hlive
    · cases hmem
  · obtain ⟨w, -, hlive, rfl⟩ := mem_award hmem
    exact hlive

end Answered

/-- Awards, bounces, and nothing for those out of play. -/
theorem resolvePasses_answers (t : CoopSession) (hnobody : coopPlayer t COOP_NO_PLAYER = none) :
    ∃ as, Emits t (resolvePasses (beginResolve t)) as ∧
      (∀ kind, kind = .pickup ∨ kind = .enemyContact → ∀ entity, Awarded t as kind entity) ∧
      (∀ id entity, Bounced t as id entity) ∧
      ∀ a ∈ as, a.kind = .is .pickup ∨ a.kind = .is .enemyDamage ∨ a.kind = .is .stompBounce →
        Survives t a.player := by
  obtain ⟨as, s, hemits, hlive, hprimary, hlogs⟩ := emits_resolvePasses t
  have h : Arbitrated t s as := ⟨hlive, hprimary, hlogs⟩
  exact ⟨as, hemits, fun _ hkind _ => h.awarded hkind, fun id _ => h.bounced hnobody id,
    fun _ ha hk => h.survives ha hk⟩

/-- A list of accepted events lies behind the earlier ones, in a session that is still open. -/
theorem acceptEvents_open (es : List CoopEvent) :
    ∀ {s t : CoopSession}, acceptEvents s es = some t → Valid s →
    Valid t ∧ t.players = s.players ∧ t.actions = s.actions ∧ t.events = s.events ++ es ∧
      (es ≠ [] → t.failed = false ∧ t.outcome = .is .continue ∧ t.resolved = false) := by
  induction es with
  | nil =>
      intro s t h hvalid
      cases h
      exact ⟨hvalid, rfl, rfl, (List.append_nil _).symm, fun h => absurd rfl h⟩
  | cons e es ih =>
      intro s t h hvalid
      obtain ⟨s₁, he, h⟩ := acceptEvents_cons h
      have hvalid₁ : Valid s₁ := by
        have hkeeps := (coopSessionEvent_keeps (s := s) e).valid hvalid
        rw [he] at hkeeps
        exact hkeeps
      obtain ⟨hallowed, -, capacity, rest, -, rfl⟩ := coopSessionEvent_accepted.1 he
      obtain ⟨hvalid', hplayers, hactions, hevents, hopen⟩ := ih h hvalid₁
      refine ⟨hvalid', hplayers, hactions, ?_, ?_⟩
      · rw [hevents, List.append_assoc, List.singleton_append]
      · intro _
        by_cases hnil : es = []
        · subst hnil
          cases h
          simp only [eventAllowed, Bool.not_eq_true', Bool.or_eq_false_iff, decide_eq_false_iff_not,
            ne_eq, not_not] at hallowed
          obtain ⟨⟨⟨⟨⟨⟨⟨-, hfailed⟩, hresolved⟩, houtcome⟩, -⟩, -⟩, -⟩, -⟩ := hallowed
          exact ⟨hfailed, houtcome, hresolved⟩
        · exact hopen hnil

/-- `coop_session_resolve` behind a begun frame: the passes run, or nothing was there to resolve. -/
theorem resolve_accepted {ok : Bool} {r : CoopSession} {es : List CoopEvent} (hvalid : Valid s)
    (hbegun : s.events = []) (haccepted : acceptEvents s es = some t)
    (hresolve : coopSessionResolve t = (ok, r)) :
    Valid t ∧ t.events = es ∧
      (es = [] ∧ r = t ∨ r = resolvePasses (beginResolve t) ∧ ok = !r.failed) := by
  obtain ⟨hvalid', -, -, hevents, hopen⟩ := acceptEvents_open es haccepted hvalid
  rw [hbegun, List.nil_append] at hevents
  refine ⟨hvalid', hevents, ?_⟩
  unfold coopSessionResolve at hresolve
  by_cases hnil : es = []
  · split at hresolve
    · cases hresolve
      exact Or.inl ⟨hnil, rfl⟩
    · split at hresolve
      · cases hresolve
        exact Or.inl ⟨hnil, rfl⟩
      · split at hresolve
        · cases hresolve
          exact Or.inl ⟨hnil, rfl⟩
        · cases hresolve
          exact Or.inr ⟨rfl, rfl⟩
  · obtain ⟨hfailed, houtcome, hresolved⟩ := hopen hnil
    rw [if_neg (by simp [hfailed]), if_neg (by simp [houtcome, hresolved]),
      if_neg (by simp [hevents, hnil])] at hresolve
    cases hresolve
    exact Or.inr ⟨rfl, rfl⟩

/-- Only a session that has failed is refused. -/
theorem coopSessionResolve_failed {r : CoopSession} (h : coopSessionResolve t = (false, r)) :
    r.failed = true := by
  unfold coopSessionResolve at h
  split at h
  · cases h
    assumption
  · split at h
    · cases h
    · split at h
      · cases h
      · obtain ⟨hfailed, rfl⟩ := Prod.mk.inj h
        rwa [Bool.not_eq_false'] at hfailed

theorem coopPlayer_nobody (h : Valid s) : coopPlayer s COOP_NO_PLAYER = none := by
  cases hp : coopPlayer s COOP_NO_PLAYER with
  | none => rfl
  | some p =>
      obtain ⟨q, hq, hid⟩ :=
        coopPlayer_isNone.1 (Option.isNone_eq_false_iff.2 (Option.isSome_of_mem hp))
      exact absurd hid (h.ids q hq)

/-- **Pickup and contact arbitration.**  Of a frame's accepted events, every group of pickups or of
contacts gets one award, for the least contender that survived the lethal pass, and every surviving
stomper one bounce; nothing of it goes to anyone else. The session records just that, less what a
refused allocation made it drop, and it has failed then. -/
theorem contact_arbitration {ok : Bool} {r : CoopSession} {es : List CoopEvent} (hvalid : Valid s)
    (hbegun : s.events = []) (haccepted : acceptEvents s es = some t)
    (hresolve : coopSessionResolve t = (ok, r)) :
    t.events = es ∧ (ok = false → r.failed = true) ∧
      ∃ as news, r.actions = t.actions ++ news ∧ news.Sublist as ∧ (ok = true → news = as) ∧
      (∀ kind, kind = .pickup ∨ kind = .enemyContact → ∀ entity, Awarded t as kind entity) ∧
      (∀ id entity, Bounced t as id entity) ∧
      ∀ a ∈ as, a.kind = .is .pickup ∨ a.kind = .is .enemyDamage ∨ a.kind = .is .stompBounce →
        Survives t a.player := by
  obtain ⟨hvalid', hevents, hcases⟩ := resolve_accepted hvalid hbegun haccepted hresolve
  have hfails : ok = false → r.failed = true :=
    fun hok => coopSessionResolve_failed (hok ▸ hresolve)
  refine ⟨hevents, hfails, ?_⟩
  rcases hcases with ⟨rfl, rfl⟩ | ⟨rfl, rfl⟩
  · have hnone : ∀ kind entity v, ¬ Contends r kind entity v := by
      rintro kind entity v ⟨hv, -⟩
      rw [hevents] at hv
      cases hv
    refine ⟨[], [], (List.append_nil _).symm, List.Sublist.refl _, fun _ => rfl, ?_, ?_,
      fun _ ha => nomatch ha⟩
    · intro kind _ entity
      exact Or.inr ⟨hnone kind entity, rfl⟩
    · intro id entity
      refine Or.inr ⟨?_, rfl⟩
      rintro ⟨v, hv, -⟩
      exact hnone _ _ v hv
  · obtain ⟨as, hemits, hawards, hbounces, hothers⟩ :=
      resolvePasses_answers t (coopPlayer_nobody hvalid')
    obtain ⟨news, hnews, hsub, hall⟩ := hemits.recorded
    refine ⟨as, news, hnews, hsub, ?_, hawards, hbounces, hothers⟩
    intro hok
    exact hall (by simpa using hok)

end Resolution

theorem contact_arbitration_arbitration : arbitrationReady.events = arbitrationEvents ∧
    ((coopSessionResolve arbitrationReady).1 = false →
      (coopSessionResolve arbitrationReady).2.failed = true) ∧
    ∃ as news, (coopSessionResolve arbitrationReady).2.actions = arbitrationReady.actions ++ news ∧
      news.Sublist as ∧ ((coopSessionResolve arbitrationReady).1 = true → news = as) ∧
      (∀ kind, kind = .pickup ∨ kind = .enemyContact → ∀ entity,
        Awarded arbitrationReady as kind entity) ∧
      (∀ id entity, Bounced arbitrationReady as id entity) ∧
      ∀ a ∈ as, a.kind = .is .pickup ∨ a.kind = .is .enemyDamage ∨ a.kind = .is .stompBounce →
        Survives arbitrationReady a.player :=
  contact_arbitration (s := arbitrationFrame) (valid_iff.1 (by decide)) rfl
    (Option.some_get _).symm rfl

/-- A pair of players whose third allocation is refused. -/
theorem refused_inits : (coopSessionInit [true, true, false] 2 60).isSome = true := by decide

def refusedSession : CoopSession := (coopSessionInit [true, true, false] 2 60).get refused_inits

def refusedFrame : CoopSession := (coopSessionBeginFrame refusedSession true).2

def refusedPickup : CoopEvent := ⟨.is .pickup, 0, 91, 2, 0, 16⟩

def refusedReady : CoopSession := (acceptEvents refusedFrame [refusedPickup]).get (by decide)

/-- The accepted pickup of a player in play goes unanswered where the action list cannot grow. -/
theorem award_refused : acceptEvents refusedFrame [refusedPickup] = some refusedReady ∧
    Contends refusedReady .pickup 91 refusedPickup ∧
    (coopSessionResolve refusedReady).1 = false ∧
    (coopSessionResolve refusedReady).2.actions = [] := by
  refine ⟨(Option.some_get _).symm, ?_, by decide, by decide⟩
  exact ⟨by decide, by decide, by decide, by decide⟩

end SmwRecomp.Coop
