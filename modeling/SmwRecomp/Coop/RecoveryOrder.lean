import SmwRecomp.Coop.Recovery

/-!
# Recovery and the order of the players

A predicate that looks at the players, as `coop_terrain_safe` does, sees the bubbles that returned
before.

* `alone` — where a bubble lands when it is asked about first; `Undisturbed` — no bubble lands
  elsewhere because of those that returned before it, in any order of the players.
* `order_free_iff` — the order does not matter exactly then.
-/

set_option autoImplicit false

namespace SmwRecomp.Coop

/-! ## Landing alone -/

/-- The place of a landing. -/
def spot (s : CoopSession) (query : Query) (ps : List CoopPlayer) (p : CoopPlayer) :
    Option (Int32 × Int32) :=
  (landing s query (anchorsOf s.players) ps p).map fun c => (c.2.2.1, c.2.2.2)

/-- Where a player lands when it comes first in the array. -/
def alone (s : CoopSession) (query : Query) (p : CoopPlayer) : Option (Int32 × Int32) :=
  spot s query (p :: s.players.erase p) p

/-- What becomes of a player that lands at a place. -/
def landAt (s : CoopSession) (p : CoopPlayer) : Option (Int32 × Int32) → CoopPlayer
  | none => p
  | some place => if elapsed p then returnPlayer s p place.1 place.2 else p

/-- The player as it would be had it been asked about first. -/
def returned (s : CoopSession) (query : Query) (p : CoopPlayer) : CoopPlayer :=
  landAt s p (alone s query p)

/-- In every order of the players, a due bubble that is asked about when those before it have
returned to where each lands alone lands where it does alone. -/
def Undisturbed (s : CoopSession) (query : Query) : Prop :=
  ∀ before p after, (before ++ p :: after).Perm s.players → elapsed p = true →
    spot s query (before.map (returned s query) ++ p :: after) p = alone s query p

/-- The life state and the position of a player. -/
def whereabouts (s : CoopSession) (id : CoopPlayerId) :
    Option (CEnum CoopLifeState × Int32 × Int32) :=
  (coopPlayer s id).map fun p => (p.life, p.x, p.y)

section Order

variable {s : CoopSession} {query : Query} {anchors ps : List CoopPlayer} {p : CoopPlayer}

theorem settle_landAt :
    settle s query (anchorsOf s.players) ps p = landAt s p (spot s query ps p) := by
  unfold settle spot
  cases landing s query (anchorsOf s.players) ps p <;> rfl

theorem landAt_stays (h : elapsed p = false) (place : Option (Int32 × Int32)) :
    landAt s p place = p := by
  cases place with
  | none => rfl
  | some place =>
    unfold landAt
    rw [h]
    rfl

theorem landAt_id (place : Option (Int32 × Int32)) : (landAt s p place).id = p.id := by
  cases place with
  | none => rfl
  | some place =>
    unfold landAt
    dsimp only
    split
    · exact returnPlayer_id s p _ _
    · rfl

theorem returnPlayer_place (s : CoopSession) (p : CoopPlayer) (x y : Int32) :
    (returnPlayer s p x y).life = .is .playing ∧ (returnPlayer s p x y).x = x ∧
    (returnPlayer s p x y).y = y := by
  unfold returnPlayer
  split <;> exact ⟨rfl, rfl, rfl⟩

/-- Where a bubble is tells whether it returned, and to where. -/
theorem landAt_inj (hdue : elapsed p = true) {place place' : Option (Int32 × Int32)}
    (h : ((landAt s p place).life, (landAt s p place).x, (landAt s p place).y) =
      ((landAt s p place').life, (landAt s p place').x, (landAt s p place').y)) : place =
        place' := by
  have hbubble : p.life ≠ .is .playing := fun hplaying => by
    rw [elapsed_playing hplaying] at hdue
    cases hdue
  have hsome : ∀ xy : Int32 × Int32, landAt s p (some xy) = returnPlayer s p xy.1 xy.2 :=
    fun xy => if_pos hdue
  have hplaces : ∀ xy : Int32 × Int32, ((landAt s p (some xy)).life, (landAt s p (some xy)).x,
    (landAt s p (some xy)).y) =
      (.is .playing, xy.1, xy.2) := fun xy => by
    obtain ⟨hlife, hx, hy⟩ := returnPlayer_place s p xy.1 xy.2
    rw [hsome, hlife, hx, hy]
  cases place with
  | none =>
    cases place' with
    | none => rfl
    | some xy =>
      rw [hplaces] at h
      exact absurd (Prod.ext_iff.mp h).1 hbubble
  | some xy =>
    cases place' with
    | none =>
      rw [hplaces] at h
      exact absurd (Prod.ext_iff.mp h).1.symm hbubble
    | some xy' =>
      rw [hplaces, hplaces] at h
      exact congrArg some (Prod.ext_iff.mp h).2

/-! ## The sweep -/

theorem sweep_prefix (s : CoopSession) (query : Query) (anchors : List CoopPlayer) :
    ∀ rest settled : List CoopPlayer, ∃ tail, sweep s query anchors settled rest = settled ++ tail ∧
    tail.map CoopPlayer.id = rest.map CoopPlayer.id
  | [], settled => ⟨[], (List.append_nil settled).symm, rfl⟩
  | p :: rest, settled => by
    obtain ⟨tail, htail, hids⟩ :=
      sweep_prefix s query anchors rest
      (settled ++ [settle s query anchors (settled ++ p :: rest) p])
    refine ⟨settle s query anchors (settled ++ p :: rest) p :: tail, ?_, ?_⟩
    · rw [sweep, htail, List.append_assoc]
      rfl
    · rw [List.map_cons, List.map_cons, hids, settle_id]

theorem sweep_ids (rest settled : List CoopPlayer) :
    (sweep s query anchors settled rest).map CoopPlayer.id =
      (settled ++ rest).map CoopPlayer.id := by
  obtain ⟨tail, htail, hids⟩ := sweep_prefix s query anchors rest settled
  rw [htail, List.map_append, List.map_append, hids]

theorem returned_id : (returned s query p).id = p.id := landAt_id _

theorem map_returned_ids (ps : List CoopPlayer) :
    (ps.map (returned s query)).map CoopPlayer.id = ps.map CoopPlayer.id := by
  rw [List.map_map]
  exact List.map_congr_left fun p _ => returned_id

/-- Nobody is disturbed: each player becomes what it would have become first. -/
theorem sweep_undisturbed (h : Undisturbed s query) :
    ∀ rest before : List CoopPlayer, (before ++ rest).Perm s.players →
    sweep s query (anchorsOf s.players) (before.map (returned s query)) rest =
      (before ++ rest).map (returned s query)
  | [], before, _ => by
    rw [List.append_nil]
    rfl
  | p :: rest, before, hperm => by
    have hsettle : settle s query (anchorsOf s.players) (before.map (returned s query) ++ p :: rest)
      p = returned s query p := by
      have hreturned : returned s query p = landAt s p (alone s query p) := rfl
      rw [settle_landAt, hreturned]
      cases hdue : elapsed p with
      | true => rw [h before p rest hperm hdue]
      | false => rw [landAt_stays hdue, landAt_stays hdue]
    have hnext := sweep_undisturbed h rest (before ++ [p]) (by rwa [List.append_assoc])
    rw [List.map_append, List.map_singleton] at hnext
    rw [sweep, hsettle, hnext, List.append_assoc]
    rfl

/-- If the sweep leaves every due player where it would have landed first, nobody was disturbed on
the way. -/
theorem sweep_spot : ∀ rest before : List CoopPlayer, ((before ++ rest).map CoopPlayer.id).Nodup →
    (∀ q ∈ rest, elapsed q = true →
      (findKey CoopPlayer.id q.id
        (sweep s query (anchorsOf s.players) (before.map (returned s query)) rest)).map
          (fun q => (q.life, q.x, q.y)) =
        some ((returned s query q).life, (returned s query q).x, (returned s query q).y)) →
    ∀ mid p after, rest = mid ++ p :: after → elapsed p = true →
      spot s query ((before ++ mid).map (returned s query) ++ p :: after) p = alone s query p
  | [], _, _, _, mid, p, after, hsplit, _ => by
    cases mid <;> cases hsplit
  | q :: rest, before, hids, hwhere, mid, p, after, hsplit, hdue => by
    have hreturned : returned s query q = landAt s q (alone s query q) := rfl
    generalize hsettled : before.map (returned s query) = settled at hwhere
    have hids' : ((settled ++ q :: rest).map CoopPlayer.id).Nodup := by
      rw [← hsettled, List.map_append, map_returned_ids, ← List.map_append]
      exact hids
    have hspot : elapsed q = true → spot s query (settled ++ q :: rest) q =
      alone s query q := fun hdueq => by
      obtain ⟨tail, htail, -⟩ := sweep_prefix s query (anchorsOf s.players) rest
        (settled ++ [settle s query (anchorsOf s.players) (settled ++ q :: rest) q])
      have hmem : settle s query (anchorsOf s.players) (settled ++ q :: rest) q ∈
          sweep s query (anchorsOf s.players) settled (q :: rest) := by
        rw [sweep, htail]
        simp
      have hfound : coopPlayer
        { s with players := sweep s query (anchorsOf s.players) settled (q :: rest) }
          (settle s query (anchorsOf s.players) (settled ++ q :: rest) q).id =
            some (settle s query (anchorsOf s.players) (settled ++ q :: rest) q) :=
        findKey_of_mem (by rw [sweep_ids]; exact hids') hmem
      rw [settle_id] at hfound
      unfold coopPlayer at hfound
      have hview := hwhere q List.mem_cons_self hdueq
      rw [hfound, hreturned, settle_landAt] at hview
      exact landAt_inj hdueq (Option.some.inj hview)
    have hsettle : settle s query (anchorsOf s.players) (settled ++ q :: rest) q =
      returned s query q := by
      rw [settle_landAt, hreturned]
      cases hdueq : elapsed q with
      | true => rw [hspot hdueq]
      | false => rw [landAt_stays hdueq, landAt_stays hdueq]
    cases mid with
    | nil =>
      cases hsplit
      rw [List.append_nil, hsettled]
      exact hspot hdue
    | cons m mid =>
      obtain ⟨rfl, hrest⟩ := List.cons.inj hsplit
      have hnext := sweep_spot rest (before ++ [q]) (by rwa [List.append_assoc])
        (fun q' hq' hdue' => by
        have hview := hwhere q' (List.mem_cons_of_mem q hq') hdue'
        rw [sweep, hsettle] at hview
        rw [List.map_append, List.map_singleton, hsettled]
        exact hview) mid p after hrest hdue
      rw [List.append_assoc] at hnext
      exact hnext

theorem sweep_congr {t : CoopSession} {anchors' : List CoopPlayer}
    (h : ∀ ps p, settle t query anchors' ps p = settle s query anchors ps p) :
    ∀ rest settled : List CoopPlayer,
      sweep t query anchors' settled rest = sweep s query anchors settled rest
  | [], _ => rfl
  | p :: rest, settled => by
    rw [sweep, sweep, h]
    exact sweep_congr h rest _

/-! ## The call -/

/-- The call on the players in some order. -/
theorem recover_order (query : Query) (hp : ps.Perm s.players)
    (hids : (s.players.map CoopPlayer.id).Nodup)
    (hnobody : COOP_NO_PLAYER ∉ s.players.map CoopPlayer.id) (hadvancing : s.advancing = true)
    (hcontinue : s.outcome = .is .continue) :
    (coopSessionRecover { s with players := ps } query.safe).2.players =
      if granted s then sweep s query (anchorsOf s.players) [] ps else ps := by
  have hids' : (ps.map CoopPlayer.id).Nodup := (hp.map CoopPlayer.id).nodup_iff.mpr hids
  have hrun := (recover_sweep (s := { s with players := ps }) query hids'
    (fun hmem => hnobody ((hp.map CoopPlayer.id).mem_iff.mp hmem)) hadvancing hcontinue).1
  have hgranted : granted { s with players := ps } = granted s := by
    unfold granted
    dsimp only
    rw [hp.length_eq]
  have hanchors : (anchorsOf ps).Perm (anchorsOf s.players) := hp.filter _
  have hsettle : ∀ ps' p, settle { s with players := ps } query (anchorsOf ps) ps' p =
      settle s query (anchorsOf s.players) ps' p := fun ps' p => by
    rw [(settle_congr (s := s) (t := { s with players := ps }) rfl rfl).1,
      (settle_perm (anchorsOf_ids hids') hanchors).1]
  rw [hgranted, sweep_congr hsettle] at hrun
  exact hrun

/-- A call that comes to no loop leaves the players. -/
theorem recover_stays (safe : CoopSafePlacement)
    (h : ¬ (s.advancing = true ∧ s.outcome = .is .continue)) :
    (coopSessionRecover s safe).2.players = s.players := by
  unfold coopSessionRecover
  split
  · rfl
  · rw [if_pos]
    cases hadvancing : s.advancing with
    | false => exact .inl (by decide)
    | true => exact .inr fun hcontinue => h ⟨hadvancing, hcontinue⟩

theorem whereabouts_perm {t t' : CoopSession} (hids : (t.players.map CoopPlayer.id).Nodup)
    (hp : t.players.Perm t'.players)
    (id : CoopPlayerId) : whereabouts t id = whereabouts t' id := by
  unfold whereabouts coopPlayer
  rw [findKey_perm hids hp]

/-- The player that comes first becomes what it becomes alone. -/
theorem whereabouts_first (query : Query) (hmem : p ∈ s.players)
    (hids : (s.players.map CoopPlayer.id).Nodup)
    (hnobody : COOP_NO_PLAYER ∉ s.players.map CoopPlayer.id) (hadvancing : s.advancing = true)
    (hcontinue : s.outcome = .is .continue) (hgranted : granted s = true) :
    whereabouts (coopSessionRecover { s with players := p :: s.players.erase p } query.safe).2
      p.id =
      some ((returned s query p).life, (returned s query p).x, (returned s query p).y) := by
  have hperm : (p :: s.players.erase p).Perm s.players := (List.perm_cons_erase hmem).symm
  have hplayers := recover_order query hperm hids hnobody hadvancing hcontinue
  obtain ⟨tail, htail, -⟩ := sweep_prefix s query (anchorsOf s.players) (s.players.erase p)
    [settle s query (anchorsOf s.players) (p :: s.players.erase p) p]
  have hsettle : settle s query (anchorsOf s.players) (p :: s.players.erase p) p =
    returned s query p := settle_landAt
  rw [if_pos hgranted, sweep, List.nil_append, List.nil_append, htail, hsettle] at hplayers
  unfold whereabouts coopPlayer
  rw [hplayers, List.singleton_append]
  have hfind : findKey CoopPlayer.id p.id (returned s query p :: tail) =
    some (returned s query p) := if_pos returned_id
  rw [hfind]
  rfl

/-- The order of the players does not matter exactly when nobody is disturbed. -/
theorem order_free_iff (hids : (s.players.map CoopPlayer.id).Nodup)
    (hnobody : COOP_NO_PLAYER ∉ s.players.map CoopPlayer.id) :
    (∀ ps : List CoopPlayer, ps.Perm s.players → ∀ id,
      whereabouts (coopSessionRecover { s with players := ps } query.safe).2 id =
        whereabouts (coopSessionRecover s query.safe).2 id) ↔
    (s.advancing = true → s.outcome = .is .continue → granted s = true → Undisturbed s query) := by
  constructor
  · intro hsame hadvancing hcontinue hgranted before p after hperm hdue
    have hids' : ((before ++ p :: after).map CoopPlayer.id).Nodup :=
      (hperm.map CoopPlayer.id).nodup_iff.mpr hids
    refine sweep_spot (before ++ p :: after) [] hids' (fun q hq _ => ?_) before p after rfl hdue
    have hmem := hperm.mem_iff.mp hq
    have hplayers := recover_order query hperm hids hnobody hadvancing hcontinue
    rw [if_pos hgranted] at hplayers
    -- The order in which `q` comes first tells where it is in every order.
    have hfirst := whereabouts_first query hmem hids hnobody hadvancing hcontinue hgranted
    rw [hsame _ (List.perm_cons_erase hmem).symm, ← hsame _ hperm] at hfirst
    rw [← hfirst, List.map_nil, ← hplayers]
    rfl
  · intro hundisturbed ps hperm id
    have hids' : (ps.map CoopPlayer.id).Nodup := (hperm.map CoopPlayer.id).nodup_iff.mpr hids
    by_cases hruns : s.advancing = true ∧ s.outcome = .is .continue
    · obtain ⟨hadvancing, hcontinue⟩ := hruns
      have hplayers := recover_order query hperm hids hnobody hadvancing hcontinue
      have hplayers' :=
        recover_order query (List.Perm.refl s.players) hids hnobody hadvancing hcontinue
      by_cases hgranted : granted s = true
      · have hsweep : ∀ {ps : List CoopPlayer}, ps.Perm s.players →
            sweep s query (anchorsOf s.players) [] ps = ps.map (returned s query) := fun {ps} hp =>
          sweep_undisturbed (hundisturbed hadvancing hcontinue hgranted) ps [] hp
        rw [if_pos hgranted, hsweep hperm] at hplayers
        rw [if_pos hgranted, hsweep (List.Perm.refl s.players)] at hplayers'
        apply whereabouts_perm
        · rw [hplayers, map_returned_ids]
          exact hids'
        · rw [hplayers]
          exact (hperm.map _).trans (List.Perm.of_eq hplayers'.symm)
      · rw [if_neg hgranted] at hplayers hplayers'
        exact whereabouts_perm (by rw [hplayers]; exact hids')
          (by rw [hplayers]; exact hperm.trans (List.Perm.of_eq hplayers'.symm))
          id
    · have hplayers := recover_stays (s := { s with players := ps }) query.safe hruns
      have hplayers' := recover_stays (s := s) query.safe hruns
      exact whereabouts_perm (by rw [hplayers]; exact hids')
        (by rw [hplayers, hplayers']; exact hperm) id

end Order

end SmwRecomp.Coop
