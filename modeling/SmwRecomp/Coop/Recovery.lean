import SmwRecomp.Coop.Contest

/-!
# Recovery

`coop_session_recover` returns bubbles one after another, beside anchors that it noted before the
first.

* `Query` — a placement predicate that looks at the players only.
* `landing` — the least of the placements beside the anchors; `settle`, `announce` — what becomes of
  a player.
* `sweep` — all of them in turn, each asked about as the ones before it left the players.
* `recover_sweep` — the call is the sweep, and says so action by action.
-/

set_option autoImplicit false

namespace SmwRecomp.Coop

/-- A predicate of the players, a returning player and an anchor. -/
abbrev Query := List CoopPlayer → CoopPlayer → CoopPlayer → Option (Int32 × Int32)

def Query.safe (query : Query) : CoopSafePlacement := fun s p a => query s.players p a

/-- A bubble whose time has elapsed. -/
def elapsed (p : CoopPlayer) : Bool := (p.life = .is .deathBubble ∨ p.life = .is .catchupBubble) ∧
    p.recoveryTicks = 0

/-- The players in play. -/
def anchorsOf (ps : List CoopPlayer) : List CoopPlayer := ps.filter fun p => p.life = .is .playing

/-- The placement beside an anchor, if the predicate accepts one. -/
def candidate (query : Query) (ps : List CoopPlayer) (p a : CoopPlayer) : Option Placement :=
  (query ps p a).map fun place => (a.id, distance2 p.x p.y place.1 place.2, place.1, place.2)

/-- Nearer, or as near and beside the anchor that precedes. -/
def nearer (s : CoopSession) (c c' : Placement) : Bool :=
  c.2.1 < c'.2.1 ∨ (c.2.1 = c'.2.1 ∧ coopPlayerPrecedes s c.1 c'.1 = true)

def landing (s : CoopSession) (query : Query) (anchors ps : List CoopPlayer) (p : CoopPlayer) :
    Option Placement :=
  least (nearer s) (anchors.filterMap (candidate query ps p))

/-- What becomes of a player. -/
def settle (s : CoopSession) (query : Query) (anchors ps : List CoopPlayer)
    (p : CoopPlayer) : CoopPlayer :=
  match landing s query anchors ps p with
  | none => p
  | some c => if elapsed p then returnPlayer s p c.2.2.1 c.2.2.2 else p

/-- What is said of a player. -/
def announce (s : CoopSession) (query : Query) (anchors ps : List CoopPlayer) (p : CoopPlayer) :
    List CoopAction :=
  match landing s query anchors ps p with
  | none => []
  | some c => asked (elapsed p = true) ⟨.is .recover, p.id, COOP_NO_ENTITY, c.1⟩

/-- The players settled in turn: those that are, and those to come. -/
def sweep (s : CoopSession) (query : Query) (anchors : List CoopPlayer) :
    List CoopPlayer → List CoopPlayer → List CoopPlayer
  | settled, [] => settled
  | settled, p :: rest =>
      sweep s query anchors (settled ++ [settle s query anchors (settled ++ p :: rest) p]) rest

def sweepLog (s : CoopSession) (query : Query) (anchors : List CoopPlayer) :
    List CoopPlayer → List CoopPlayer → List CoopAction
  | _, [] => []
  | settled, p :: rest => announce s query anchors (settled ++ p :: rest) p ++
      sweepLog s query anchors (settled ++ [settle s query anchors (settled ++ p :: rest) p]) rest

section Recovery

variable {s t : CoopSession} {query : Query} {anchors ps : List CoopPlayer} {p a : CoopPlayer}

/-! ## One landing -/

theorem nearer_iff {c c' : Placement} : nearer s c c' = true ↔
    c.2.1 < c'.2.1 ∨ (c.2.1 = c'.2.1 ∧ coopPlayerPrecedes s c.1 c'.1 = true) := decide_eq_true_iff

theorem strict_nearer (s : CoopSession) : Strict (nearer s) where
  irrefl c := by
    simp [nearer, precedes_irrefl]
  trans a b c hab hbc := by
    rw [nearer_iff] at hab hbc ⊢
    rcases hab with hab | ⟨hab, hpab⟩
    · omega
    · rcases hbc with hbc | ⟨hbc, hpbc⟩
      · omega
      · exact Or.inr ⟨hab.trans hbc, precedes_trans s hpab hpbc⟩

theorem nearer_congr (h : t.primary = s.primary) : nearer t = nearer s := by
  funext c c'
  unfold nearer
  rw [precedes_congr h]

theorem mem_candidates {c : Placement} : c ∈ anchors.filterMap (candidate query ps p) ↔
    ∃ a ∈ anchors, ∃ x y, query ps p a = some (x, y) ∧ c = (a.id, distance2 p.x p.y x y, x, y) := by
  unfold candidate
  rw [List.mem_filterMap]
  constructor
  · rintro ⟨a, ha, hc⟩
    obtain ⟨⟨x, y⟩, hplace, rfl⟩ := Option.map_eq_some_iff.mp hc
    exact ⟨a, ha, x, y, hplace, rfl⟩
  · rintro ⟨a, ha, x, y, hplace, rfl⟩
    exact ⟨a, ha, by rw [hplace]; rfl⟩

theorem candidate_anchor {c : Placement} (h : candidate query ps p a = some c) : c.1 = a.id := by
  obtain ⟨place, -, rfl⟩ := Option.map_eq_some_iff.mp h
  rfl

theorem landing_congr (hprimary : t.primary = s.primary) :
    landing t query anchors ps p = landing s query anchors ps p := by
  unfold landing
  rw [nearer_congr hprimary]

/-- The placement that the inner loop holds; no anchor stands for none. -/
def held : Option Placement → Placement
  | none => (COOP_NO_PLAYER, UINT64_MAX, 0, 0)
  | some c => c

theorem placementStep_held {best : Option Placement} (ha : coopPlayer t a.id = some a)
    (hbest : ∀ c, best = some c → c.1 ≠ COOP_NO_PLAYER) :
    placementStep t query.safe p (held best) a.id =
      held (match candidate query t.players p a with
        | none => best
        | some c => keepLeast (nearer t) best c) := by
  unfold placementStep candidate Query.safe
  rw [ha]
  dsimp only
  cases query t.players p a with
  | none => rfl
  | some place =>
    cases best with
    | none => rfl
    | some b =>
      have hb := hbest b rfl
      simp only [held, hb, false_or, Option.map_some, keepLeast, nearer, decide_eq_true_eq]
      split <;> rfl

/-- The inner loop ends with the least placement. -/
theorem foldl_placementStep
    (hanchors : ∀ a ∈ anchors, coopPlayer t a.id = some a ∧ a.id ≠ COOP_NO_PLAYER) :
    ∀ best : Option Placement, (∀ c, best = some c → c.1 ≠ COOP_NO_PLAYER) →
      (anchors.map CoopPlayer.id).foldl (placementStep t query.safe p) (held best) =
        held ((anchors.filterMap (candidate query t.players p)).foldl
          (keepLeast (nearer t)) best) := by
  induction anchors with
  | nil =>
    intro best _
    rfl
  | cons a as ih =>
    intro best hbest
    rw [List.forall_mem_cons] at hanchors
    obtain ⟨⟨ha, hne⟩, has⟩ := hanchors
    rw [List.map_cons, List.foldl_cons, placementStep_held ha hbest, List.filterMap_cons]
    cases hcandidate : candidate query t.players p a with
    | none => exact ih has best hbest
    | some c =>
      rw [List.foldl_cons]
      apply ih has
      intro c' hc'
      obtain rfl | hbest' := keepLeast_mem hc'
      · rw [candidate_anchor hcandidate]
        exact hne
      · exact hbest c' hbest'

/-! ## One turn of the loop -/

theorem landing_anchor {c : Placement} (h : landing s query anchors ps p = some c) :
    c.1 ∈ anchors.map CoopPlayer.id := by
  obtain ⟨hmem, -⟩ := least_some (strict_nearer s) h
  obtain ⟨a, ha, x, y, -, rfl⟩ := mem_candidates.mp hmem
  exact List.mem_map_of_mem ha

theorem returnPlayer_id (s : CoopSession) (p : CoopPlayer) (x y : Int32) :
    (returnPlayer s p x y).id = p.id := by
  unfold returnPlayer
  split <;> rfl

theorem returnPlayer_congr (h : t.ticksPerSecond = s.ticksPerSecond) (x y : Int32) :
    returnPlayer t p x y = returnPlayer s p x y := by
  unfold returnPlayer
  rw [h]

theorem settle_id : (settle s query anchors ps p).id = p.id := by
  unfold settle
  split
  · rfl
  · split
    · exact returnPlayer_id s p _ _
    · rfl

theorem settle_stays (h : elapsed p = false) : settle s query anchors ps p = p := by
  unfold settle
  rw [h]
  split <;> rfl

theorem announce_stays (h : elapsed p = false) : announce s query anchors ps p = [] := by
  unfold announce asked
  rw [h]
  split <;> rfl

theorem elapsed_playing (h : p.life = .is .playing) : elapsed p = false := by
  simp [elapsed, h]

theorem not_elapsed_iff : elapsed p = false ↔
    (p.life ≠ .is .deathBubble ∧ p.life ≠ .is .catchupBubble) ∨ p.recoveryTicks ≠ 0 := by
  unfold elapsed
  rw [decide_eq_false_iff_not, not_and_or, not_or]

/-- What a turn of the loop keeps of the session. -/
structure Turn (s t : CoopSession) (as : List CoopAction) : Prop where
  primary : t.primary = s.primary
  ticks : t.ticksPerSecond = s.ticksPerSecond
  emits : Emits s t as

theorem Turn.trans {u : CoopSession} {as bs : List CoopAction} (h : Turn s t as)
    (h' : Turn t u bs) : Turn s u (as ++ bs) :=
  ⟨h'.primary.trans h.primary, h'.ticks.trans h.ticks, h.emits.trans h'.emits⟩

theorem settle_congr (h : t.primary = s.primary) (h' : t.ticksPerSecond = s.ticksPerSecond) :
    settle t query anchors ps p = settle s query anchors ps p ∧ announce t query anchors ps p =
      announce s query anchors ps p := by
  unfold settle announce
  rw [landing_congr h]
  simp only [returnPlayer_congr h', and_self]

/-- A turn of the loop settles one player, and says so. -/
theorem recoverStep_settle (query : Query) {settled rest : List CoopPlayer}
    (hplayers : t.players = settled ++ p :: rest)
    (hanchors : ∀ a ∈ anchors, coopPlayer t a.id = some a ∧ a.id ≠ COOP_NO_PLAYER) :
    (recoverStep query.safe (anchors.map CoopPlayer.id) t settled.length).players =
      settled ++ settle t query anchors t.players p :: rest ∧
    Turn t (recoverStep query.safe (anchors.map CoopPlayer.id) t settled.length)
      (announce t query anchors t.players p) := by
  have hp : t.players[settled.length]? = some p := by
    rw [hplayers, List.getElem?_append_right (Nat.le_refl _), Nat.sub_self]
    rfl
  have hbest : (anchors.map CoopPlayer.id).foldl (placementStep t query.safe p)
    (COOP_NO_PLAYER, UINT64_MAX, 0, 0) =
      held (landing t query anchors t.players p) :=
    foldl_placementStep hanchors none (fun c hc => by cases hc)
  unfold recoverStep
  rw [hp]
  dsimp only
  rw [hbest]
  cases hdue : elapsed p with
  | false =>
    rw [if_pos (not_elapsed_iff.mp hdue), settle_stays hdue, announce_stays hdue]
    exact ⟨hplayers, rfl, rfl, Emits.refl t⟩
  | true =>
    have hnot : ¬ ((p.life ≠ .is .deathBubble ∧ p.life ≠ .is .catchupBubble) ∨
      p.recoveryTicks ≠ 0) := fun h => by
      rw [not_elapsed_iff.mpr h] at hdue
      cases hdue
    rw [if_neg hnot]
    unfold settle announce
    cases hlanding : landing t query anchors t.players p with
    | none => exact ⟨hplayers, rfl, rfl, Emits.refl t⟩
    | some c =>
      obtain ⟨a, ha, hc⟩ := List.mem_map.mp (landing_anchor hlanding)
      have hne : c.1 ≠ COOP_NO_PLAYER := hc ▸ (hanchors a ha).2
      have hheld : held (some c) = c := rfl
      simp only [hheld, if_neg hne, if_pos hdue]
      refine ⟨?_, by simp, by simp, ?_⟩
      · rw [emit_players]
        dsimp only
        rw [hplayers, List.set_append_right _ _ (Nat.le_refl _), Nat.sub_self]
        rfl
      · unfold asked
        rw [if_pos hdue]
        have hset : Emits t
            { t with players := t.players.set settled.length (returnPlayer t p c.2.2.1 c.2.2.2) }
            [] :=
          Emits.of_eq rfl rfl
        exact hset.trans (emits_emit _ _ _ _ _)

/-! ## The whole loop -/

/-- The loop sweeps the players. -/
theorem foldl_recoverStep (s : CoopSession) (query : Query) (anchors : List CoopPlayer)
    (hnobody : ∀ a ∈ anchors, a.id ≠ COOP_NO_PLAYER)
    (hplaying : ∀ a ∈ anchors, a.life = .is .playing) :
    ∀ (rest settled : List CoopPlayer) (t : CoopSession), t.players = settled ++ rest →
      ((settled ++ rest).map CoopPlayer.id).Nodup → (∀ a ∈ anchors, a ∈ settled ++ rest) →
      t.primary = s.primary → t.ticksPerSecond = s.ticksPerSecond →
      ((List.range' settled.length rest.length).foldl
        (recoverStep query.safe (anchors.map CoopPlayer.id)) t).players =
        sweep s query anchors settled rest ∧
      Turn t ((List.range' settled.length rest.length).foldl
        (recoverStep query.safe (anchors.map CoopPlayer.id)) t)
        (sweepLog s query anchors settled rest) := by
  intro rest
  induction rest with
  | nil =>
    intro settled t hplayers _ _ _ _
    rw [List.append_nil] at hplayers
    exact ⟨hplayers, rfl, rfl, Emits.refl t⟩
  | cons p rest ih =>
    intro settled t hplayers hids hanchors hprimary hticks
    have hfound : ∀ a ∈ anchors, coopPlayer t a.id = some a ∧
      a.id ≠ COOP_NO_PLAYER := fun a ha => by
      refine ⟨?_, hnobody a ha⟩
      unfold coopPlayer
      rw [hplayers]
      exact findKey_of_mem hids (hanchors a ha)
    obtain ⟨hplayers', hturn⟩ := recoverStep_settle query hplayers hfound
    rw [hplayers, (settle_congr hprimary hticks).1] at hplayers'
    rw [hplayers, (settle_congr hprimary hticks).2] at hturn
    generalize hq : settle s query anchors (settled ++ p :: rest) p = q at hplayers'
    have hid : q.id = p.id := hq ▸ settle_id
    have hids' : ((settled ++ [q] ++ rest).map CoopPlayer.id).Nodup := by
      simpa [hid] using hids
    -- Anchors are in play, and stay as they are.
    have hanchors' : ∀ a ∈ anchors, a ∈ settled ++ [q] ++ rest := fun a ha => by
      have hin := hanchors a ha
      rw [List.mem_append, List.mem_cons] at hin
      rw [List.append_assoc, List.mem_append, List.singleton_append, List.mem_cons]
      refine hin.imp_right (Or.imp_left fun heq => ?_)
      rw [← hq, ← heq, settle_stays (elapsed_playing (hplaying a ha))]
    have hnext := ih (settled ++ [q]) _ (by rw [hplayers', List.append_assoc]; rfl) hids' hanchors'
      (hturn.primary.trans hprimary) (hturn.ticks.trans hticks)
    rw [List.length_append, List.length_singleton] at hnext
    rw [List.length_cons, List.range'_succ, List.foldl_cons, sweep, sweepLog, hq]
    exact ⟨hnext.1, hturn.trans hnext.2⟩

/-! ## The call -/

/-- The call comes to the loop: its list of anchors is granted. -/
def granted (s : CoopSession) : Bool :=
  !s.failed && decide (s.players.length ≤ SIZE_MAX / sizeofCoopPlayerId) && s.allocator.request.1

theorem recover_sweep (query : Query) (hids : (s.players.map CoopPlayer.id).Nodup)
    (hnobody : COOP_NO_PLAYER ∉ s.players.map CoopPlayer.id)
    (hadvancing : s.advancing = true) (hcontinue : s.outcome = .is .continue) :
    (coopSessionRecover s query.safe).2.players =
      (if granted s then sweep s query (anchorsOf s.players) [] s.players else s.players) ∧
    ((coopSessionRecover s query.safe).1 = true → granted s = true ∧
      (coopSessionRecover s query.safe).2.actions = s.actions ++ sweepLog s query
        (anchorsOf s.players) [] s.players) := by
  unfold coopSessionRecover granted
  by_cases hfailed : s.failed = true
  · rw [if_pos hfailed, hfailed]
    exact ⟨rfl, fun h => by cases h⟩
  · rw [if_neg hfailed, if_neg (by simp [hadvancing, hcontinue])]
    by_cases hlong : s.players.length > SIZE_MAX / sizeofCoopPlayerId
    · rw [if_pos hlong, decide_eq_false (Nat.not_le.mpr hlong), Bool.and_false]
      exact ⟨rfl, fun h => by cases h⟩
    · rw [if_neg hlong, decide_eq_true (Nat.not_lt.mp hlong)]
      cases hrequest : s.allocator.request with
      | mk ok allocator =>
        cases ok with
        | false =>
          rw [Bool.and_false]
          exact ⟨rfl, fun h => by cases h⟩
        | true =>
          have hmem : ∀ a ∈ anchorsOf s.players, a ∈ s.players ∧
            a.life = .is .playing := fun a ha => by
            simpa [anchorsOf] using ha
          have hloop := foldl_recoverStep s query (anchorsOf s.players)
            (fun a ha heq => hnobody (heq ▸ List.mem_map_of_mem (hmem a ha).1))
              (fun a ha => (hmem a ha).2) s.players []
            { s with allocator := allocator } rfl hids (fun a ha => (hmem a ha).1) rfl rfl
          rw [List.length_nil, ← List.range_eq_range'] at hloop
          obtain ⟨hplayers, -, -, hemits⟩ := hloop
          obtain ⟨news, hnews, -, hall⟩ := hemits.recorded
          have hgrant : (!s.failed && true && (true, allocator).1) = true := by simp [hfailed]
          rw [if_pos hgrant]
          refine ⟨hplayers, fun hok => ⟨hgrant, ?_⟩⟩
          rw [← hall ((Bool.not_eq_true' _).mp hok)]
          exact hnews

/-! ## Order -/

theorem decides_candidates (hids : (anchors.map CoopPlayer.id).Nodup) :
    Decides (nearer s) (anchors.filterMap (candidate query ps p)) := by
  intro c hc c' hc' hne
  obtain ⟨a, ha, x, y, hplace, rfl⟩ := mem_candidates.mp hc
  obtain ⟨b, hb, x', y', hplace', rfl⟩ := mem_candidates.mp hc'
  have hid : a.id ≠ b.id := fun heq => by
    obtain rfl : a = b := List.inj_on_of_nodup_map hids ha hb heq
    rw [hplace] at hplace'
    cases hplace'
    exact hne rfl
  rw [nearer_iff, nearer_iff]
  obtain hprec | hprec := precedes_total s hid
  · simp only [hprec, and_true]
    omega
  · simp only [hprec, and_true]
    omega

theorem landing_perm {anchors' : List CoopPlayer} (hids : (anchors.map CoopPlayer.id).Nodup)
    (hp : anchors.Perm anchors') :
    landing s query anchors ps p = landing s query anchors' ps p :=
  least_perm (strict_nearer s) (decides_candidates hids) (hp.filterMap _)

theorem landing_none : landing s query anchors ps p = none ↔
    ∀ a ∈ anchors, query ps p a = none := by
  unfold landing
  rw [least_eq_none (strict_nearer s), List.filterMap_eq_nil_iff]
  simp [candidate]

/-- The landing is beside an anchor, and nearer than what any other anchor has. -/
theorem landing_some {c : Placement} (h : landing s query anchors ps p = some c) :
    ∃ a ∈ anchors, ∃ x y, query ps p a = some (x, y) ∧ c = (a.id, distance2 p.x p.y x y, x, y) ∧
      ∀ b ∈ anchors, b.id ≠ a.id → ∀ x' y', query ps p b = some (x', y') →
        nearer s (a.id, distance2 p.x p.y x y, x, y) (b.id, distance2 p.x p.y x' y', x', y') =
          true := by
  obtain ⟨hmem, hleast⟩ := least_some (strict_nearer s) h
  obtain ⟨a, ha, x, y, hplace, rfl⟩ := mem_candidates.mp hmem
  refine ⟨a, ha, x, y, hplace, rfl, fun b hb hne x' y' hplace' => ?_⟩
  have hnot := hleast _ (mem_candidates.mpr ⟨b, hb, x', y', hplace', rfl⟩)
  rw [← Bool.not_eq_true, nearer_iff] at hnot
  rw [nearer_iff]
  dsimp only at hnot ⊢
  obtain hprec | hprec := precedes_total s hne
  · simp only [hprec, and_true] at hnot
    omega
  · simp only [hprec, and_true]
    omega

end Recovery

/-! ## A predicate of the returning player and the anchor -/

/-- What becomes of a bubble whose time has elapsed, and what is said of it: it is returned to the
nearest placement beside a player in play, or there is none. -/
def Recovered (s : CoopSession) (safe : CoopPlayer → CoopPlayer → Option (Int32 × Int32))
    (p q : CoopPlayer)
    (as : List CoopAction) : Prop :=
  (∃ a ∈ s.players, a.life = .is .playing ∧ ∃ x y, safe p a = some (x, y) ∧
    (∀ b ∈ s.players, b.life = .is .playing → b.id ≠ a.id → ∀ x' y', safe p b = some (x', y') →
      distance2 p.x p.y x y < distance2 p.x p.y x' y' ∨
        (distance2 p.x p.y x y = distance2 p.x p.y x' y' ∧ coopPlayerPrecedes s a.id b.id = true)) ∧
    q = returnPlayer s p x y ∧ as = [⟨.is .recover, p.id, COOP_NO_ENTITY, a.id⟩]) ∨
  ((∀ a ∈ s.players, a.life = .is .playing → safe p a = none) ∧ q = p ∧ as = [])

section Placement

variable {s : CoopSession} {safe : CoopPlayer → CoopPlayer → Option (Int32 × Int32)}
  {anchors : List CoopPlayer}

theorem sweep_alone : ∀ rest settled : List CoopPlayer,
    sweep s (fun _ => safe) anchors settled rest =
      settled ++ rest.map (settle s (fun _ => safe) anchors []) ∧
    sweepLog s (fun _ => safe) anchors settled rest =
      rest.flatMap (announce s (fun _ => safe) anchors [])
  | [], settled => ⟨(List.append_nil settled).symm, rfl⟩
  | p :: rest, settled => by
    obtain ⟨hplayers, hlog⟩ := sweep_alone rest (settled ++ [settle s (fun _ => safe) anchors [] p])
    rw [sweep, sweepLog, List.map_cons, List.flatMap_cons, ← hlog]
    refine ⟨hplayers.trans ?_, rfl⟩
    rw [List.append_assoc]
    rfl

theorem settle_perm {query : Query} {anchors' ps : List CoopPlayer} {p : CoopPlayer}
    (hids : (anchors.map CoopPlayer.id).Nodup)
    (hp : anchors.Perm anchors') : settle s query anchors ps p = settle s query anchors' ps p ∧
      announce s query anchors ps p = announce s query anchors' ps p := by
  unfold settle announce
  rw [landing_perm hids hp]
  exact ⟨rfl, rfl⟩

theorem anchorsOf_ids {ps : List CoopPlayer} (hids : (ps.map CoopPlayer.id).Nodup) :
    ((anchorsOf ps).map CoopPlayer.id).Nodup :=
  hids.sublist (List.filter_sublist.map CoopPlayer.id)

theorem recovered_settle {p : CoopPlayer} (hdue : elapsed p = true) :
    Recovered s safe p (settle s (fun _ => safe) (anchorsOf s.players) [] p)
      (announce s (fun _ => safe) (anchorsOf s.players) [] p) := by
  have hmem : ∀ a, a ∈ anchorsOf s.players ↔ a ∈ s.players ∧ a.life = .is .playing := fun a => by
    simp [anchorsOf]
  unfold settle announce asked
  cases hlanding : landing s (fun _ => safe) (anchorsOf s.players) [] p with
  | none =>
      exact .inr ⟨fun a ha hplaying => landing_none.mp hlanding a ((hmem a).mpr ⟨ha, hplaying⟩),
      rfl, rfl⟩
  | some c =>
    obtain ⟨a, ha, x, y, hplace, rfl, hnearest⟩ := landing_some hlanding
    obtain ⟨ha, hplaying⟩ := (hmem a).mp ha
    dsimp only
    rw [if_pos hdue, if_pos hdue]
    exact .inl ⟨a, ha, hplaying, x, y, hplace, fun b hb hbplaying hne x' y' hplace' =>
      nearer_iff.mp (hnearest b ((hmem b).mpr ⟨hb, hbplaying⟩) hne x' y' hplace'), rfl, rfl⟩

theorem announce_player {query : Query} {ps : List CoopPlayer} (p : CoopPlayer) :
    ∀ a ∈ announce s query anchors ps p, a.player = p.id := by
  intro a ha
  unfold announce at ha
  split at ha
  · cases ha
  · rw [mem_asked] at ha
    rw [ha.2]

theorem announce_kind {query : Query} {ps : List CoopPlayer} (p : CoopPlayer) :
    ∀ a ∈ announce s query anchors ps p, a.kind = .is .recover := by
  intro a ha
  unfold announce at ha
  split at ha
  · cases ha
  · rw [mem_asked] at ha
    rw [ha.2]

/-- The call, for any order of the players: player by player, and what is said of each. -/
theorem recover_alone (safe : CoopPlayer → CoopPlayer → Option (Int32 × Int32))
    {ps : List CoopPlayer} (hp : ps.Perm s.players) (hids : (s.players.map CoopPlayer.id).Nodup)
    (hnobody : COOP_NO_PLAYER ∉ s.players.map CoopPlayer.id) (hadvancing : s.advancing = true)
    (hcontinue : s.outcome = .is .continue) :
    (coopSessionRecover { s with players := ps } (fun _ => safe)).2.players =
      (if granted s then ps.map (settle s (fun _ => safe) (anchorsOf s.players) []) else ps) ∧
    ((coopSessionRecover { s with players := ps } (fun _ => safe)).1 = true → granted s = true ∧
      (coopSessionRecover { s with players := ps } (fun _ => safe)).2.actions =
        s.actions ++ ps.flatMap (announce s (fun _ => safe) (anchorsOf s.players) [])) := by
  have hids' : (ps.map CoopPlayer.id).Nodup := (hp.map CoopPlayer.id).nodup_iff.mpr hids
  have hrun := recover_sweep (s := { s with players := ps }) (fun _ => safe) hids'
    (fun hmem => hnobody ((hp.map CoopPlayer.id).mem_iff.mp hmem)) hadvancing hcontinue
  have hgranted : granted { s with players := ps } = granted s := by
    unfold granted
    dsimp only
    rw [hp.length_eq]
  have hanchors : (anchorsOf ps).Perm (anchorsOf s.players) := hp.filter _
  have hsettle : settle { s with players := ps } (fun _ => safe) (anchorsOf ps) [] =
      settle s (fun _ => safe) (anchorsOf s.players) [] := by
    funext p
    rw [(settle_congr (s := s) (t := { s with players := ps }) rfl rfl).1,
      (settle_perm (anchorsOf_ids hids') hanchors).1]
  have hannounce : announce { s with players := ps } (fun _ => safe) (anchorsOf ps) [] =
      announce s (fun _ => safe) (anchorsOf s.players) [] := by
    funext p
    rw [(settle_congr (s := s) (t := { s with players := ps }) rfl rfl).2,
      (settle_perm (anchorsOf_ids hids') hanchors).2]
  rw [hgranted, (sweep_alone ps []).1, (sweep_alone ps []).2, hsettle, hannounce] at hrun
  exact hrun

end Placement

/-- Each bubble whose time has elapsed goes to the nearest placement beside a player that was in
play when the call began, the anchor that precedes deciding between placements as near; nobody else
changes, and the order of the players does not matter. -/
theorem recovery_placement {s r : CoopSession}
    {safe : CoopPlayer → CoopPlayer → Option (Int32 × Int32)}
    (hids : (s.players.map CoopPlayer.id).Nodup)
    (hnobody : COOP_NO_PLAYER ∉ s.players.map CoopPlayer.id)
    (hadvancing : s.advancing = true) (hcontinue : s.outcome = .is .continue)
    (hr : coopSessionRecover s (fun _ => safe) = (true, r)) :
    (∃ log, r.actions = s.actions ++ log ∧ (∀ a ∈ log, a.kind = .is .recover) ∧
      r.players.map CoopPlayer.id = s.players.map CoopPlayer.id ∧
      ∀ p ∈ s.players, ∃ q, coopPlayer r p.id = some q ∧
        if elapsed p = true then Recovered s safe p q (log.filter fun a => a.player = p.id)
        else q = p ∧ (log.filter fun a => a.player = p.id) = []) ∧
    ∀ ps : List CoopPlayer, ps.Perm s.players →
      (∀ id, coopPlayer (coopSessionRecover { s with players := ps } (fun _ => safe)).2 id =
        coopPlayer r id) ∧
      ∀ r', coopSessionRecover { s with players := ps } (fun _ => safe) = (true, r') →
        ∀ id, (r'.actions.filter fun a => a.player = id) = r.actions.filter fun a =>
        a.player = id := by
  obtain ⟨hplayers, hactions⟩ :=
    recover_alone safe (List.Perm.refl s.players) hids hnobody hadvancing hcontinue
  obtain ⟨hgranted, hactions⟩ := hactions (by rw [hr])
  rw [hr, hgranted, if_pos rfl] at hplayers
  rw [hr] at hactions
  generalize hsettle : settle s (fun _ => safe) (anchorsOf s.players) [] = f at hplayers
  generalize hannounce : announce s (fun _ => safe) (anchorsOf s.players) [] = g at hactions
  have hf : ∀ p, (f p).id = p.id := fun p => hsettle ▸ settle_id
  have hg : ∀ p, ∀ a ∈ g p, a.player = p.id := hannounce ▸ announce_player
  have hpick : ∀ id, coopPlayer r id = (findKey CoopPlayer.id id s.players).map f := fun id => by
    unfold coopPlayer
    rw [hplayers, findKey_map hf]
  refine ⟨⟨s.players.flatMap g, hactions, ?_, ?_, fun p hp => ?_⟩, fun ps hperm =>
    ⟨fun id => ?_, fun r' hr' id => ?_⟩⟩
  · intro a ha
    obtain ⟨p, -, ha⟩ := List.mem_flatMap.mp ha
    rw [← hannounce] at ha
    exact announce_kind p a ha
  · rw [hplayers, List.map_map]
    exact List.map_congr_left fun p _ => hf p
  · rw [hpick, filter_flatMap_key hg p.id hids, findKey_of_mem hids hp]
    refine ⟨f p, rfl, ?_⟩
    cases hdue : elapsed p with
    | true =>
      rw [if_pos rfl, ← hsettle, ← hannounce]
      exact recovered_settle hdue
    | false =>
      rw [if_neg Bool.false_ne_true, ← hsettle, ← hannounce]
      exact ⟨settle_stays hdue, announce_stays hdue⟩
  · obtain ⟨hplayers', -⟩ := recover_alone safe hperm hids hnobody hadvancing hcontinue
    rw [hgranted, if_pos rfl, hsettle] at hplayers'
    rw [hpick]
    unfold coopPlayer
    rw [hplayers', findKey_map hf,
      findKey_perm ((hperm.map CoopPlayer.id).nodup_iff.mpr hids) hperm]
  · obtain ⟨-, hactions'⟩ := recover_alone safe hperm hids hnobody hadvancing hcontinue
    obtain ⟨-, hactions'⟩ := hactions' (by rw [hr'])
    rw [hr', hannounce] at hactions'
    rw [hactions, hactions', List.filter_append, List.filter_append, filter_flatMap_key hg id hids,
      filter_flatMap_key hg id ((hperm.map CoopPlayer.id).nodup_iff.mpr hids),
      findKey_perm ((hperm.map CoopPlayer.id).nodup_iff.mpr hids) hperm]

/-- A death bubble whose time has elapsed, between two players as far from it. -/
def tieFrame : CoopSession :=
  { (default : CoopSession) with
    players := [{ (default : CoopPlayer) with id := 0, life := .is .playing, x := 0 },
      { (default : CoopPlayer) with id := 1, life := .is .deathBubble, x := 74 },
      { (default : CoopPlayer) with id := 2, life := .is .playing, x := 100 }]
    primary := 2
    advancing := true }

/-- Each anchor has its place to the right of it. -/
def besideAnchor (_ a : CoopPlayer) : Option (Int32 × Int32) := some (a.x + 24, a.y)

theorem recovery_placement_tieFrame : ∃ log : List CoopAction, ∀ p ∈ tieFrame.players,
    elapsed p = true → ∃ q,
    coopPlayer (coopSessionRecover tieFrame (fun _ => besideAnchor)).2 p.id = some q ∧
      Recovered tieFrame besideAnchor p q (log.filter fun a => a.player = p.id) := by
  have hr : coopSessionRecover tieFrame (fun _ => besideAnchor) =
      (true, (coopSessionRecover tieFrame (fun _ => besideAnchor)).2) := Prod.ext (by decide) rfl
  obtain ⟨⟨log, -, -, -, hall⟩, -⟩ :=
    recovery_placement (by decide) (by decide) (by decide) (by decide) hr
  refine ⟨log, fun p hp hdue => ?_⟩
  obtain ⟨q, hq, hrecovered⟩ := hall p hp
  rw [if_pos hdue] at hrecovered
  exact ⟨q, hq, hrecovered⟩

/-- Once the outcome is decided nobody is returned, though the frame advances. -/
theorem recovery_waits :
    ¬ ∀ (s r : CoopSession) (safe : CoopPlayer → CoopPlayer → Option (Int32 × Int32)),
    (s.players.map CoopPlayer.id).Nodup → COOP_NO_PLAYER ∉ s.players.map CoopPlayer.id →
    s.advancing = true →
    coopSessionRecover s (fun _ => safe) = (true, r) → ∀ p ∈ s.players, elapsed p = true →
    (∃ a ∈ s.players, a.life = .is .playing ∧ safe p a ≠ none) → ∃ q, coopPlayer r p.id = some q ∧
    q.life = .is .playing := by
  intro h
  obtain ⟨q, hq, hplaying⟩ :=
    h { tieFrame with outcome := .is .clear } { tieFrame with outcome := .is .clear } besideAnchor
    (by decide) (by decide) (by decide) (by decide)
      { (default : CoopPlayer) with id := 1, life := .is .deathBubble, x := 74 }
    (by decide) (by decide)
      ⟨{ (default : CoopPlayer) with id := 0, life := .is .playing, x := 0 }, by decide, by decide,
      by decide⟩
  cases hq
  cases hplaying

end SmwRecomp.Coop
