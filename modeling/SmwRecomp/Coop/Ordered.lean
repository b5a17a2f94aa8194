import SmwRecomp.Coop.Contest
import SmwRecomp.Coop.Machine
import SmwRecomp.Lib.Least

/-!
# Ordered actor traversal

`next_ordered_actor`, and the loops that call it once per actor: fireballs of a boss, owned
fireballs, the cape.

* `remaining` — the actors a scan considers; `nextOrderedActor_eq` — the scan takes the least of
  them.
* `traverse` — the loop of the projectile, boss and cape stages; `traverse_remaining` — it takes
  what is left, in order.
* `traversal_complete` — from the start it takes every actor once, the primary first and the rest by
  ascending id.
-/

set_option autoImplicit false

namespace SmwRecomp.Coop

/-- The order of two actors. -/
def actorBefore (m : CoopMachine) (a b : CoopActor) : Bool :=
  coopPlayerPrecedes m.session a.player b.player

/-- The actors after the one whose id is `previous`, all of them at the start. -/
def afterPrevious (m : CoopMachine) (previous : CoopPlayerId) (c : CoopActor) : Bool :=
  decide (previous = COOP_NO_PLAYER) || coopPlayerPrecedes m.session previous c.player

/-- `next_ordered_actor`; `none` is its fatal error. -/
def nextOrderedActor (m : CoopMachine) (previous : CoopPlayerId) : Option CoopActor :=
  m.actors.foldl (fun a candidate =>
    if afterPrevious m previous candidate then keepLeast (actorBefore m) a candidate else a) none

/-- A loop of as many turns, each with the id of the turn before. -/
def traverse (m : CoopMachine) : Nat → CoopPlayerId → Option (List CoopActor)
  | 0, _ => some []
  | n + 1, previous =>
    match nextOrderedActor m previous with
    | none => none
    | some a => (traverse m n a.player).map (a :: ·)

def remaining (m : CoopMachine) (previous : CoopPlayerId) : List CoopActor :=
  m.actors.filter (afterPrevious m previous)

theorem nextOrderedActor_eq (m : CoopMachine) (previous : CoopPlayerId) :
    nextOrderedActor m previous = least (actorBefore m) (remaining m previous) := by
  unfold nextOrderedActor least remaining
  rw [List.foldl_filter]

theorem remaining_start (m : CoopMachine) : remaining m COOP_NO_PLAYER = m.actors := by
  unfold remaining afterPrevious
  simp

theorem actorBefore_strict (m : CoopMachine) : Strict (actorBefore m) where
  irrefl a := precedes_irrefl m.session a.player
  trans _ _ _ hab hbc := precedes_trans m.session hab hbc

section Traversal

variable {m : CoopMachine} (hnodup : (m.actors.map CoopActor.player).Nodup)
  (hnobody : COOP_NO_PLAYER ∉ m.actors.map CoopActor.player)

include hnodup

theorem actors_decide {a b : CoopActor} (ha : a ∈ m.actors) (hb : b ∈ m.actors) (hne : a ≠ b) :
    actorBefore m a b = true ∨ actorBefore m b a = true := by
  apply precedes_total
  intro h
  exact hne (List.inj_on_of_nodup_map hnodup ha hb h)

include hnobody

/-- What is left after the least of what is left. -/
theorem remaining_next {previous : CoopPlayerId} {a : CoopActor}
    (h : least (actorBefore m) (remaining m previous) = some a) :
    remaining m a.player = (remaining m previous).filter fun c => decide (c ≠ a) := by
  obtain ⟨hmem, hleast⟩ := least_some (actorBefore_strict m) h
  obtain ⟨ha, hafter⟩ := List.mem_filter.1 hmem
  have hplayer : a.player ≠ COOP_NO_PLAYER := fun h => hnobody (h ▸ List.mem_map_of_mem ha)
  unfold remaining
  rw [List.filter_filter]
  apply List.filter_congr
  intro c hc
  unfold afterPrevious at hafter ⊢
  by_cases hca : c = a
  · subst hca
    simp [hplayer, precedes_irrefl]
  · cases hprev : decide (previous = COOP_NO_PLAYER) ||
      coopPlayerPrecedes m.session previous c.player with
    | true =>
        have hnot : actorBefore m c a = false := hleast c (List.mem_filter.2 ⟨hc, hprev⟩)
        have hbefore := (actors_decide hnodup ha hc (Ne.symm hca)).resolve_right (by simp [hnot])
        unfold actorBefore at hbefore
        simp [hca, hbefore]
    | false =>
        rw [Bool.or_eq_false_iff] at hprev
        rw [hprev.1, Bool.false_or] at hafter
        have hnot : coopPlayerPrecedes m.session a.player c.player = false := by
          cases hac : coopPlayerPrecedes m.session a.player c.player with
          | false => rfl
          | true =>
              rw [precedes_trans m.session hafter hac] at hprev
              cases hprev.2
        simp [hplayer, hnot]

/-- As many turns as actors are left take these, each before the next. -/
theorem traverse_remaining :
    ∀ (n : Nat) {previous : CoopPlayerId}, (remaining m previous).length = n →
    ∃ visited, traverse m n previous = some visited ∧ visited.Perm (remaining m previous) ∧
      visited.Pairwise fun a b => actorBefore m a b = true
  | 0, previous, hlength => by
    refine ⟨[], rfl, ?_, List.Pairwise.nil⟩
    rw [List.eq_nil_of_length_eq_zero hlength]
  | n + 1, previous, hlength => by
    cases hnext : least (actorBefore m) (remaining m previous) with
    | none =>
        rw [(least_eq_none (actorBefore_strict m)).1 hnext] at hlength
        cases hlength
    | some a =>
        obtain ⟨hmem, hleast⟩ := least_some (actorBefore_strict m) hnext
        have hrest := remaining_next hnodup hnobody hnext
        have hleft : (remaining m previous).Nodup := (List.Nodup.of_map _ hnodup).filter _
        have herase : remaining m a.player = (remaining m previous).erase a := by
          rw [hrest, hleft.erase_eq_filter]
          apply List.filter_congr
          intro c _
          by_cases hca : c = a
          · simp [hca]
          · simp [hca, bne]
        have hlen : (remaining m a.player).length = n := by
          rw [herase, List.length_erase_of_mem hmem, hlength]
          rfl
        obtain ⟨visited, hvisited, hperm, hsorted⟩ := traverse_remaining n hlen
        refine ⟨a :: visited, ?_, ?_, ?_⟩
        · rw [traverse, nextOrderedActor_eq, hnext]
          simp [hvisited]
        · rw [herase] at hperm
          exact (hperm.cons a).trans (List.perm_cons_erase hmem).symm
        · rw [List.pairwise_cons]
          refine ⟨?_, hsorted⟩
          intro c hc
          have hc := hperm.subset hc
          rw [hrest, List.mem_filter, decide_eq_true_eq] at hc
          obtain ⟨hc, hne⟩ := hc
          have hnot := hleast c hc
          have hboth :=
            actors_decide hnodup (List.mem_filter.1 hmem).1 (List.mem_filter.1 hc).1 (Ne.symm hne)
          exact hboth.resolve_right (by simp [hnot])

end Traversal

/-- The order of ids is strict and total; the loop never fails, and takes every actor once, the
primary first and the rest by ascending id. -/
theorem traversal_complete (m : CoopMachine) (hnodup : (m.actors.map CoopActor.player).Nodup)
    (hnobody : COOP_NO_PLAYER ∉ m.actors.map CoopActor.player)
    (hprimary : m.session.primary ∈ m.actors.map CoopActor.player) :
    (∀ a, coopPlayerPrecedes m.session a a = false) ∧
    (∀ a b c, coopPlayerPrecedes m.session a b = true → coopPlayerPrecedes m.session b c = true →
      coopPlayerPrecedes m.session a c = true) ∧
    (∀ a b, a ≠ b → coopPlayerPrecedes m.session a b = true ∨
      coopPlayerPrecedes m.session b a = true) ∧
    ∃ first rest, traverse m m.actors.length COOP_NO_PLAYER = some (first :: rest) ∧
    (first :: rest).Perm m.actors ∧
      first.player = m.session.primary ∧ rest.Pairwise fun a b => a.player < b.player := by
  refine ⟨precedes_irrefl m.session, fun a b c => precedes_trans m.session,
    fun a b => precedes_total m.session, ?_⟩
  obtain ⟨visited, hvisited, hperm, hsorted⟩ :=
    traverse_remaining hnodup hnobody m.actors.length (congrArg List.length (remaining_start m))
  rw [remaining_start] at hperm
  cases visited with
  | nil =>
      rw [List.nil_perm.1 hperm] at hprimary
      cases hprimary
  | cons first rest =>
      rw [List.pairwise_cons] at hsorted
      have hfirst : first.player = m.session.primary := by
        obtain ⟨p, hp, hplayer⟩ := List.mem_map.1 hprimary
        rcases List.mem_cons.1 (hperm.mem_iff.2 hp) with rfl | hrest
        · exact hplayer
        · by_contra hne
          have hbefore := hsorted.1 p hrest
          unfold actorBefore coopPlayerPrecedes at hbefore
          rw [hplayer, if_neg hne, if_neg hne, if_pos rfl] at hbefore
          cases hbefore
      refine ⟨first, rest, hvisited, hperm, hfirst, ?_⟩
      refine hsorted.2.imp_of_mem ?_
      intro a b ha hb hab
      -- the primary is the first, so neither of the two is
      have hnot : ∀ c ∈ rest, c.player ≠ m.session.primary := by
        intro c hc h
        have hbefore := hsorted.1 c hc
        unfold actorBefore at hbefore
        rw [h, ← hfirst, precedes_irrefl] at hbefore
        cases hbefore
      unfold actorBefore coopPlayerPrecedes at hab
      split at hab
      · cases hab
      · rw [if_neg (hnot a ha), if_neg (hnot b hb)] at hab
        exact of_decide_eq_true hab

/-- Three actors, the primary stored second. -/
def scatteredActors : CoopMachine :=
  freshMachine { (coopSessionInit [] 3 60).get (by decide) with primary := 7 }
    [initActor 0 { initPlayer 0 with id := 9 }, initActor 1 { initPlayer 1 with id := 7 },
      initActor 2 { initPlayer 2 with id := 3 }]

theorem traversal_complete_scattered : ∃ first rest,
    traverse scatteredActors scatteredActors.actors.length COOP_NO_PLAYER = some (first :: rest) ∧
      first.player = 7 ∧ rest.Pairwise fun a b => a.player < b.player := by
  obtain ⟨-, -, -, first, rest, htraverse, -, hfirst, hrest⟩ :=
    traversal_complete scatteredActors (by decide) (by decide) (by decide)
  exact ⟨first, rest, htraverse, hfirst, hrest⟩

end SmwRecomp.Coop
