import SmwRecomp.Coop.Contest
import SmwRecomp.Coop.EntityRuns
import SmwRecomp.Coop.Room
import Mathlib.Data.Bool.Basic
import Mathlib.Data.List.Nodup
import Mathlib.Order.Nat

/-!
# Native contacts

`collect_native_contacts`, `collect_chuck_contacts`, `collect_extended_contacts` and `collect_goal`
of `src/src/mods/coop/coop_simulation.c`: the ROM's contact query is run for every actor in play,
and one of the contacts wins.

* `collect` — the loop over the actors: the contacts in order, and the best of the eligible ones.
* `collect_eq`, `collect_perm` — the loop as a filter and a minimum; what becomes of them in another
  arrangement.
* `native_arbitration`, `chuck_arbitration`, `extended_arbitration`, `goal_arbitration` — who wins,
  and what every actor gets.

The ROM's queries are parameters, functions of the actor they are run for.
-/

set_option autoImplicit false

namespace SmwRecomp.Coop

/-! ## The loop over the actors -/

/-- `contacts` with `count`, and `winner`. -/
structure Collected (κ : Type) where
  contacts : List κ
  winner : Option κ

/-- The loops skip an actor that does not play. -/
def ofPlaying {κ : Type} (m : CoopMachine) (query : CoopActor → CoopPlayer → Option κ)
    (a : CoopActor) : Option κ :=
  (coopPlayer m.session a.player).bind fun p => if p.life = .is .playing then query a p else none

/-- `(uint64_t)(dx*dx+dy*dy)`. -/
def CoopPlayer.contactDistance (p : CoopPlayer) (point : Int × Int) : UInt64 :=
  let dx := p.x.toInt - point.1
  let dy := p.y.toInt - point.2
  UInt64.ofNat (dx * dx + dy * dy).toNat

/-- The point of a sprite that contacts are measured to. -/
def spritePoint (ram : Ram) (slot rise : Nat) : Int × Int :=
  ((ram.position 0xe4 0x14e0 slot).toNat + 8, (ram.position 0xd8 0x14d4 slot).toNat + rise)

section Collect

variable {κ : Type}

theorem ofPlaying_key {m : CoopMachine} {query : CoopActor → CoopPlayer → Option κ}
    (player : κ → CoopPlayerId)
    (h : ∀ a p c, query a p = some c → player c = a.player) (a : CoopActor) (c : κ)
    (hc : ofPlaying m query a = some c) :
    player c = a.player := by
  obtain ⟨p, -, hp⟩ := Option.bind_eq_some_iff.1 hc
  split at hp
  · exact h a p c hp
  · cases hp

/-- One turn of a loop over the actors. -/
def collectTurn (query : CoopActor → Option κ) (eligible : κ → Bool) (before : κ → κ → Bool)
    (g : Collected κ)
    (a : CoopActor) : Collected κ :=
  match query a with
  | none => g
  | some c => ⟨g.contacts ++ [c], if eligible c then keepLeast before g.winner c else g.winner⟩

/-- The loop, from the winner so far. -/
def collect (query : CoopActor → Option κ) (eligible : κ → Bool) (before : κ → κ → Bool)
    (winner : Option κ)
    (actors : List CoopActor) : Collected κ :=
  actors.foldl (collectTurn query eligible before) ⟨[], winner⟩

variable {query : CoopActor → Option κ} {eligible : κ → Bool} {before : κ → κ → Bool}

theorem collect_eq (winner : Option κ) (actors : List CoopActor) :
    collect query eligible before winner actors =
    ⟨actors.filterMap query, ((actors.filterMap query).filter eligible).foldl
      (keepLeast before) winner⟩ := by
  have hfold : ∀ (xs : List CoopActor) (g : Collected κ),
    xs.foldl (collectTurn query eligible before) g =
      ⟨g.contacts ++ xs.filterMap query,
        ((xs.filterMap query).filter eligible).foldl (keepLeast before) g.winner⟩ := by
    intro xs
    induction xs with
    | nil =>
        intro g
        simp
    | cons a xs ih =>
        intro g
        rw [List.foldl_cons, ih]
        unfold collectTurn
        cases hquery : query a with
        | none => rw [List.filterMap_cons_none hquery]
        | some c =>
            rw [List.filterMap_cons_some hquery, List.append_assoc, List.singleton_append]
            cases heligible : eligible c with
            | true => simp [heligible]
            | false => simp [heligible]
  exact hfold actors ⟨[], winner⟩

variable (query) in
/-- The contacts of actors with different ids have different ones. -/
theorem contacts_nodup {player : κ → CoopPlayerId}
    (hplayer : ∀ a c, query a = some c → player c = a.player)
    {actors : List CoopActor} (hids : (actors.map CoopActor.player).Nodup) :
    ((actors.filterMap query).map player).Nodup := by
  have hsub : ((actors.filterMap query).map player).Sublist (actors.map CoopActor.player) := by
    induction actors with
    | nil => exact List.Sublist.slnil
    | cons a actors ih =>
        rw [List.map_cons, List.nodup_cons] at hids
        cases hquery : query a with
        | none =>
            rw [List.filterMap_cons_none hquery]
            exact (ih hids.2).cons _
        | some c =>
            rw [List.filterMap_cons_some hquery, List.map_cons, List.map_cons, hplayer a c hquery]
            exact (ih hids.2).cons_cons _
  exact hids.sublist hsub

/-- And the contact under an actor's id is the actor's own. -/
theorem findKey_contacts {player : κ → CoopPlayerId}
    (hplayer : ∀ a c, query a = some c → player c = a.player)
    {actors : List CoopActor} (hids : (actors.map CoopActor.player).Nodup) {a : CoopActor}
    (ha : a ∈ actors) :
    findKey player a.player (actors.filterMap query) = query a := by
  cases hquery : query a with
  | none =>
      rw [findKey_eq_none]
      intro c hc hkey
      obtain ⟨b, hb, hbc⟩ := List.mem_filterMap.1 hc
      rw [hplayer b c hbc] at hkey
      rw [List.inj_on_of_nodup_map hids hb ha hkey, hquery] at hbc
      cases hbc
  | some c =>
      have hmem : c ∈ actors.filterMap query := List.mem_filterMap.2 ⟨a, ha, hquery⟩
      rw [← hplayer a c hquery]
      exact findKey_of_mem (contacts_nodup query hplayer hids) hmem

/-- Another arrangement of the actors makes the same choice among the same contacts. -/
theorem collect_perm (hstrict : Strict before) (winner : Option κ) {actors actors' : List CoopActor}
    (hdecides : Decides before ((actors.filterMap query).filter eligible))
    (hp : actors.Perm actors') :
    (collect query eligible before winner actors').contacts.Perm
      (collect query eligible before winner actors).contacts ∧
      (collect query eligible before winner actors').winner =
        (collect query eligible before winner actors).winner := by
  rw [collect_eq, collect_eq]
  have hcontacts : (actors.filterMap query).Perm (actors'.filterMap query) := hp.filterMap query
  exact ⟨hcontacts.symm,
    (foldl_keepLeast_perm hstrict hdecides (hcontacts.filter eligible) winner).symm⟩

theorem collect_foremost (hstrict : Strict before) {actors : List CoopActor}
    (hdecides : Decides before ((actors.filterMap query).filter eligible)) :
    Foremost before ((actors.filterMap query).filter eligible)
      (collect query eligible before none actors).winner := by
  rw [collect_eq]
  exact least_foremost hstrict hdecides

end Collect

/-- The order by player precedence decides between contacts of different players. -/
theorem precedes_decides {κ : Type} {player : κ → CoopPlayerId} (s : CoopSession) {xs : List κ}
    (hids : (xs.map player).Nodup) :
    Decides (fun v w => coopPlayerPrecedes s (player v) (player w)) xs := by
  intro v hv w hw hne
  apply precedes_total
  intro h
  exact hne (List.inj_on_of_nodup_map hids hv hw h)

theorem precedes_strict {κ : Type} (player : κ → CoopPlayerId) (s : CoopSession) :
    Strict fun v w => coopPlayerPrecedes s (player v) (player w) where
  irrefl _ := precedes_irrefl s _
  trans _ _ _ := precedes_trans s

/-! ## `collect_native_contacts` -/

inductive NativeContactKind where
  | none
  | star
  | bounce
  | side
  | slide
  | spin
  | stomp
  | pickup
  | loose
  | powerup
  deriving DecidableEq, Repr

structure NativeContact where
  actor : CoopPlayerId
  kind : NativeContactKind
  distance : UInt64
  deriving DecidableEq, Repr

/-- What an actor's turn records: `queried_contact` after the ROM's query, and the distance to the
sprite. -/
def nativeQuery (m : CoopMachine) (query : CoopActor → NativeContactKind) (point : Int × Int) :
    CoopActor → Option NativeContact :=
  ofPlaying m fun a p => if query a = .none then none
    else some ⟨a.player, query a, p.contactDistance point⟩

def contends (c : NativeContact) : Bool := decide (c.kind ≠ .side ∧ c.kind ≠ .bounce)

/-- When `c` replaces the winner so far. -/
def nativeBefore (s : CoopSession) (c winner : NativeContact) : Bool :=
  (decide (c.kind = .pickup) && decide (winner.kind ≠ .pickup)) ||
    ((decide (c.kind = .pickup) == decide (winner.kind = .pickup)) &&
      (decide (c.distance < winner.distance) ||
        (decide (c.distance = winner.distance) && coopPlayerPrecedes s c.actor winner.actor)))

/-- A call of `commit_contact`; `damages` is its mark in `damaged_entity`. -/
structure Commit where
  actor : CoopPlayerId
  entry : Nat
  winner : Bool
  bounceOnly : Bool
  damages : Bool
  deriving DecidableEq, Repr

def commitContact (entry : Nat) (winner bounceOnly : Bool) (c : NativeContact) : Commit where
  actor := c.actor
  entry := entry
  winner := winner
  bounceOnly := bounceOnly
  damages := winner && decide (c.kind = .star ∨ c.kind = .slide ∨ c.kind = .spin ∨ c.kind = .stomp)

def nativeEntry (powerup : Bool) : Nat := if powerup then 0x01c4ac else 0x01a7e4

/-- The response of a contact that did not win; 0 for none. -/
def loserEntry (kind : NativeContactKind) : Nat :=
  match kind with
  | .stomp => 0x01a947
  | .spin => 0x01a924
  | .bounce => 0x01a8d8
  | _ => 0

/-- What is done with the contacts of a sprite; `rests` says that its contact timer is set to 8. -/
structure Arbitration where
  winner : Option NativeContact
  commits : List Commit
  rests : Bool
  deriving DecidableEq, Repr

def sideCommit (c : NativeContact) : List Commit :=
  if c.kind = .side then [commitContact 0x01a8e6 false false c] else []

def loserCommit (winner : Option NativeContact) (c : NativeContact) : List Commit :=
  if some c = winner then []
  else if loserEntry c.kind = 0 then []
  else [commitContact (loserEntry c.kind) false true c]

/-- The commits: side damage first, then the winner, then the bounces. -/
def nativeCommits (powerup : Bool) (g : Collected NativeContact) : List Commit :=
  g.contacts.flatMap sideCommit ++ g.winner.toList.map
    (commitContact (nativeEntry powerup) true false) ++
    g.contacts.flatMap (loserCommit g.winner)

/-- `collect_native_contacts`; `none` when the caller is left to the ROM. -/
def collectNativeContacts (m : CoopMachine) (ram : Ram) (bound : Bool) (slot : Nat) (powerup : Bool)
    (query : CoopActor → NativeContactKind) : Option Arbitration :=
  if slot ≥ 12 ∨ (powerup = false ∧ ram (0x167a + slot) &&& 0x80 ≠ 0) ∨ bound = false then none
  else
    let g := collect (nativeQuery m query (spritePoint ram slot 8)) contends
      (nativeBefore m.session) none m.actors
    some {
      winner := g.winner
      commits := nativeCommits powerup g
      rests := decide (g.contacts ≠ []) && decide (ram (0x154c + slot) = 0) && g.winner.isNone }

/-- What one contact is answered with. -/
def nativeShare (powerup : Bool) (winner : Option NativeContact) (c : NativeContact) :
    List Commit :=
  if c.kind = .side then [commitContact 0x01a8e6 false false c]
  else if winner = some c then [commitContact (nativeEntry powerup) true false c]
  else if loserEntry c.kind = 0 then []
  else [commitContact (loserEntry c.kind) false true c]

theorem nativeQuery_actor {m : CoopMachine} {query : CoopActor → NativeContactKind}
    {point : Int × Int} (a : CoopActor)
    (c : NativeContact) (h : nativeQuery m query point a = some c) : c.actor = a.player := by
  refine ofPlaying_key NativeContact.actor (fun a p c hc => ?_) a c h
  split at hc
  · cases hc
  · obtain rfl := Option.some.inj hc
    rfl

theorem nativeBefore_eq (s : CoopSession) : nativeBefore s =
    byKey (fun c => decide (c.kind ≠ .pickup)) (byKey (fun c => c.distance.toNat)
      fun v w => coopPlayerPrecedes s v.actor w.actor) := by
  funext v w
  rw [Bool.eq_iff_iff, byKey_iff, byKey_iff, ← UInt64.lt_iff_toNat_lt, UInt64.toNat_inj]
  unfold nativeBefore
  by_cases hv : v.kind = .pickup <;> by_cases hw : w.kind = .pickup <;> simp [hv, hw]

theorem nativeBefore_strict (s : CoopSession) : Strict (nativeBefore s) := by
  rw [nativeBefore_eq]
  exact (precedes_strict NativeContact.actor s).byKey.byKey

theorem nativeBefore_decides (s : CoopSession) {xs : List NativeContact}
    (hids : (xs.map NativeContact.actor).Nodup) :
    Decides (nativeBefore s) xs := by
  rw [nativeBefore_eq]
  exact (precedes_decides s hids).byKey.byKey

/-- What is told a winner, picked out for one player. -/
theorem filter_winner {κ ρ : Type} (player : κ → CoopPlayerId) (tag : ρ → CoopPlayerId) {f : κ → ρ}
    [DecidableEq κ]
    (htag : ∀ c, tag (f c) = player c) {contacts : List κ} (hids : (contacts.map player).Nodup)
    {winner : Option κ}
    (hwinner : ∀ w ∈ winner, w ∈ contacts) (k : CoopPlayerId) :
    (winner.toList.map f).filter (fun r => tag r = k) =
      ((findKey player k contacts).map fun c => if winner = some c then [f c] else []).getD [] := by
  cases winner with
  | none => cases findKey player k contacts <;> simp
  | some w =>
      have hw := hwinner w rfl
      by_cases hk : player w = k
      · have hfind : findKey player k contacts = some w := hk ▸ findKey_of_mem hids hw
        simp [hfind, htag, hk]
      · cases hfind : findKey player k contacts with
        | none => simp [htag, hk]
        | some c =>
            have hne : w ≠ c := by
              rintro rfl
              exact hk (findKey_some hfind).2
            simp [htag, hk, hne]

theorem sideCommit_actor (c : NativeContact) : ∀ r ∈ sideCommit c, r.actor = c.actor := by
  intro r hr
  unfold sideCommit at hr
  split at hr
  · rw [List.mem_singleton.1 hr]
    rfl
  · cases hr

theorem loserCommit_actor (winner : Option NativeContact) (c : NativeContact) :
    ∀ r ∈ loserCommit winner c, r.actor = c.actor := by
  intro r hr
  unfold loserCommit at hr
  split at hr
  · cases hr
  · split at hr
    · cases hr
    · rw [List.mem_singleton.1 hr]
      rfl

theorem filter_nativeCommits (powerup : Bool) {g : Collected NativeContact}
    (hids : (g.contacts.map NativeContact.actor).Nodup)
    (hwinner : ∀ w ∈ g.winner, w ∈ g.contacts ∧ w.kind ≠ .side)
    (k : CoopPlayerId) : (nativeCommits powerup g).filter (fun r => r.actor = k) =
      ((findKey NativeContact.actor k g.contacts).map (nativeShare powerup g.winner)).getD [] := by
  have haward := filter_winner NativeContact.actor Commit.actor
    (f := commitContact (nativeEntry powerup) true false) (fun _ => rfl) hids
      (fun w hw => (hwinner w hw).1) k
  unfold nativeCommits
  rw [List.filter_append, List.filter_append, filter_flatMap_key sideCommit_actor k hids, haward,
    filter_flatMap_key (loserCommit_actor g.winner) k hids]
  cases findKey NativeContact.actor k g.contacts with
  | none => rfl
  | some c =>
      simp only [Option.map_some, Option.getD_some, nativeShare, sideCommit, loserCommit,
        eq_comm (a := some c)]
      by_cases hsides : c.kind = .side
      · have hlost : g.winner ≠ some c := fun h => (hwinner c h).2 hsides
        simp [hsides, hlost, loserEntry]
      · by_cases hwon : g.winner = some c
        · simp [hsides, hwon]
        · simp [hsides, hwon]

/-- The winner of a sprite is the first of the contenders, and every actor gets what its contact
asks for, in any arrangement of the actors. -/
theorem native_arbitration {m : CoopMachine} (hids : (m.actors.map CoopActor.player).Nodup)
    {actors : List CoopActor}
    (hp : m.actors.Perm actors) {ram : Ram} {bound : Bool} {slot : Nat} {powerup : Bool}
    {query : CoopActor → NativeContactKind} {r : Arbitration}
    (hr : collectNativeContacts m ram bound slot powerup query = some r) :
    Foremost (nativeBefore m.session)
      ((m.actors.filterMap (nativeQuery m query (spritePoint ram slot 8))).filter contends)
        r.winner ∧
    (∀ a ∈ m.actors, r.commits.filter (fun commit => commit.actor = a.player) =
      ((nativeQuery m query (spritePoint ram slot 8) a).map
        (nativeShare powerup r.winner)).getD []) ∧
    ∃ r', collectNativeContacts { m with actors := actors } ram bound slot powerup query = some r' ∧
      r'.winner = r.winner ∧ r'.commits.Perm r.commits ∧ r'.rests = r.rests := by
  have hcontacts :=
    contacts_nodup (nativeQuery m query (spritePoint ram slot 8)) nativeQuery_actor hids
  have hdecides : Decides (nativeBefore m.session)
      ((m.actors.filterMap (nativeQuery m query (spritePoint ram slot 8))).filter contends) :=
    nativeBefore_decides m.session (hcontacts.sublist (List.filter_sublist.map _))
  obtain ⟨hperm, hsame⟩ := collect_perm (nativeBefore_strict m.session) none hdecides hp
  have hfirst := collect_foremost (nativeBefore_strict m.session) hdecides
  unfold collectNativeContacts at hr ⊢
  split at hr
  · cases hr
  rename_i hopen
  cases hr
  rw [if_neg hopen]
  refine ⟨hfirst, ?_, _, rfl, hsame, ?_, ?_⟩
  · intro a ha
    rw [collect_eq] at hfirst ⊢
    dsimp only at hfirst ⊢
    rw [filter_nativeCommits powerup hcontacts, findKey_contacts nativeQuery_actor hids ha]
    intro w hw
    obtain ⟨hmem, heligible⟩ := List.mem_filter.1 (hfirst.2 w hw).1
    exact ⟨hmem, (of_decide_eq_true heligible).1⟩
  · show (nativeCommits powerup
      (collect (nativeQuery m query (spritePoint ram slot 8)) contends _ none actors)).Perm _
    unfold nativeCommits
    rw [hsame]
    exact ((hperm.flatMap_right _).append_right _).append (hperm.flatMap_right _)
  · show (decide
      ((collect (nativeQuery m query (spritePoint ram slot 8)) contends _ none actors).contacts ≠
      []) && _ &&
      (collect (nativeQuery m query (spritePoint ram slot 8)) contends _ none
        actors).winner.isNone) = _
    rw [hsame]
    congr 2
    exact decide_eq_decide.2
      (not_congr (by rw [← List.length_eq_zero_iff, ← List.length_eq_zero_iff, hperm.length_eq]))

/-- One player stomps, and the other touches the side. -/
theorem pair_stomp_and_side : ∃ r r', collectNativeContacts pairMachine (fun _ => 0) true 0 false
      (fun a => if a.player = 1 then .stomp else .side) = some r ∧
    collectNativeContacts { pairMachine with actors := pairMachine.actors.reverse }
      (fun _ => 0) true 0 false
      (fun a => if a.player = 1 then .stomp else .side) = some r' ∧ r'.winner = r.winner ∧
      r'.commits.Perm r.commits := by
  have hids : (pairMachine.actors.map CoopActor.player).Nodup := by decide
  obtain ⟨r, hr⟩ : ∃ r, collectNativeContacts pairMachine (fun _ => 0) true 0 false
      (fun a => if a.player = 1 then .stomp else .side) = some r := ⟨_, rfl⟩
  obtain ⟨-, -, r', hr', hwinner, hcommits, -⟩ :=
    native_arbitration hids (List.reverse_perm _).symm hr
  exact ⟨r, r', hr, hr', hwinner, hcommits⟩

/-! ## `collect_chuck_contacts` -/

/-- The carry of the ROM's clipping, the actor's star timer, and the relative height its position
query leaves. -/
structure ChuckQuery where
  carry : Bool
  star : UInt8
  height : UInt8
  deriving DecidableEq, Repr

def ChuckQuery.kind (q : ChuckQuery) : NativeContactKind :=
  if q.star ≠ 0 then .star else if (q.height - 0xec) &&& 0x80 ≠ 0 then .stomp else .side

def chuckQuery (m : CoopMachine) (query : CoopActor → ChuckQuery) (point : Int × Int) :
    CoopActor → Option NativeContact :=
  ofPlaying m fun a p =>
    if (query a).carry then some ⟨a.player, (query a).kind, p.contactDistance point⟩ else none

def chuckBefore (s : CoopSession) (c winner : NativeContact) : Bool :=
  decide (c.distance < winner.distance) ||
    (decide (c.distance = winner.distance) && coopPlayerPrecedes s c.actor winner.actor)

/-- A run of the ROM's response for one actor; `duplicate` when the enemy's state is put aside for
it. -/
structure ChuckResponse where
  actor : CoopPlayerId
  entry : Nat
  duplicate : Bool
  deriving DecidableEq, Repr

/-- The responses so far, and `damaged_entity` of the slot. -/
structure ChuckState where
  responses : List ChuckResponse
  damaged : CoopEntityId

/-- Whether a pass takes a contact up: side damage, then the winner, then the other stomps. -/
def chuckTakes (winner : Option NativeContact) (pass : Nat) (c : NativeContact) : Bool :=
  let side := decide (c.kind = .side)
  let win := decide (some c = winner)
  !((decide (pass = 0) && !side) || (decide (pass = 1) && !win) ||
    (decide (pass = 2) && (side || win || decide (c.kind ≠ .stomp))))

/-- The body of the loop; `entity` is the identity in the slot after the responses so far. -/
def chuckTurn (entity : List ChuckResponse → CoopEntityId) (winner : Option NativeContact)
    (pass : Nat) (g : ChuckState)
    (c : NativeContact) : ChuckState :=
  if chuckTakes winner pass c then
    let side := decide (c.kind = .side)
    let id := entity g.responses
    let duplicate := !side && (!decide (some c = winner) || decide (g.damaged = id))
    if duplicate = true ∧ c.kind = .star then g
    else {
      responses := g.responses ++ [⟨c.actor, if side then 0x02c810 else 0x02c79d, duplicate⟩]
      damaged := if duplicate = false ∧ side = false then id else g.damaged }
  else g

def chuckPass (entity : List ChuckResponse → CoopEntityId) (g : Collected NativeContact)
    (state : ChuckState) (pass : Nat) :
    ChuckState :=
  g.contacts.foldl (chuckTurn entity g.winner pass) state

/-- `collect_chuck_contacts`: the winner and the responses; `none` without a sprite or an actor,
which ends the program, and while the sprite's own timer runs. -/
def collectChuckContacts (m : CoopMachine) (ram : Ram) (bound : Bool) (slot : Nat)
    (query : CoopActor → ChuckQuery)
    (entity : List ChuckResponse → CoopEntityId) (damaged : CoopEntityId) :
    Option (Option NativeContact × ChuckState) :=
  if slot ≥ 12 ∨ bound = false ∨ ram (0x1564 + slot) ≠ 0 then none
  else
    let g := collect (chuckQuery m query (spritePoint ram slot 16))
      (fun c => decide (c.kind ≠ .side))
      (chuckBefore m.session) none m.actors
    some (g.winner, [0, 1, 2].foldl (chuckPass entity g) ⟨[], damaged⟩)

/-- What one contact is answered with: a winning star may find the enemy damaged already, and then
does nothing. -/
def ChuckShare (winner : Option NativeContact) (c : NativeContact)
    (responses : List ChuckResponse) : Prop :=
  if c.kind = .side then responses = [⟨c.actor, 0x02c810, false⟩]
  else if winner = some c then
    (∃ duplicate, responses = [⟨c.actor, 0x02c79d, duplicate⟩]) ∨ c.kind = .star ∧ responses = []
  else if c.kind = .stomp then responses = [⟨c.actor, 0x02c79d, true⟩]
  else responses = []

theorem chuckQuery_actor {m : CoopMachine} {query : CoopActor → ChuckQuery} {point : Int × Int}
    (a : CoopActor)
    (c : NativeContact) (h : chuckQuery m query point a = some c) : c.actor = a.player := by
  refine ofPlaying_key NativeContact.actor (fun a p c hc => ?_) a c h
  split at hc
  · obtain rfl := Option.some.inj hc
    rfl
  · cases hc

theorem distance_before {κ : Type} (distance : κ → UInt64) (player : κ → CoopPlayerId)
    (s : CoopSession) :
    (fun v w => decide (distance v < distance w) ||
      (decide (distance v = distance w) && coopPlayerPrecedes s (player v) (player w))) =
    byKey (fun c => (distance c).toNat) fun v w => coopPlayerPrecedes s (player v) (player w) := by
  funext v w
  rw [Bool.eq_iff_iff, byKey_iff, ← UInt64.lt_iff_toNat_lt, UInt64.toNat_inj]
  simp

theorem chuckBefore_strict (s : CoopSession) : Strict (chuckBefore s) := by
  show Strict fun v w => _
  exact distance_before NativeContact.distance NativeContact.actor s ▸
    (precedes_strict NativeContact.actor s).byKey

theorem chuckBefore_decides (s : CoopSession) {xs : List NativeContact}
    (hids : (xs.map NativeContact.actor).Nodup) :
    Decides (chuckBefore s) xs := by
  show Decides (fun v w => _) xs
  exact distance_before NativeContact.distance NativeContact.actor s ▸
    (precedes_decides s hids).byKey

/-- What a turn adds. -/
def chuckAnswer (entity : List ChuckResponse → CoopEntityId) (winner : Option NativeContact)
    (pass : Nat) (g : ChuckState)
    (c : NativeContact) : List ChuckResponse :=
  if chuckTakes winner pass c then
    let duplicate :=
      !decide (c.kind = .side) &&
      (!decide (some c = winner) || decide (g.damaged = entity g.responses))
    if duplicate = true ∧ c.kind = .star then []
    else [⟨c.actor, if decide (c.kind = .side) then 0x02c810 else 0x02c79d, duplicate⟩]
  else []

section Chuck

variable {entity : List ChuckResponse → CoopEntityId} {winner : Option NativeContact} {pass : Nat}

theorem chuckTurn_responses (g : ChuckState) (c : NativeContact) :
    (chuckTurn entity winner pass g c).responses =
      g.responses ++ chuckAnswer entity winner pass g c := by
  unfold chuckTurn chuckAnswer
  split
  · dsimp only
    split <;> simp
  · simp

theorem chuckAnswer_actor (g : ChuckState) (c : NativeContact) :
    ∀ r ∈ chuckAnswer entity winner pass g c, r.actor = c.actor := by
  intro r hr
  unfold chuckAnswer at hr
  split at hr
  · dsimp only at hr
    split at hr
    · cases hr
    · rw [List.mem_singleton.1 hr]
  · cases hr

/-- A pass adds for one player what it adds at the player's contact. -/
theorem filter_chuckPass (k : CoopPlayerId) :
    ∀ {contacts : List NativeContact} (state : ChuckState),
    (contacts.map NativeContact.actor).Nodup → ∃ state',
      (contacts.foldl (chuckTurn entity winner pass) state).responses.filter
        (fun r => r.actor = k) =
        state.responses.filter (fun r => r.actor = k) ++
          ((findKey NativeContact.actor k contacts).map
            (chuckAnswer entity winner pass state')).getD []
  | [], state, _ => ⟨state, by simp [findKey]⟩
  | c :: contacts, state, hids => by
    rw [List.map_cons, List.nodup_cons] at hids
    obtain ⟨state', hrest⟩ := filter_chuckPass k (chuckTurn entity winner pass state c) hids.2
    rw [List.foldl_cons, hrest, chuckTurn_responses, List.filter_append]
    have hfind : findKey NativeContact.actor k (c :: contacts) =
        if c.actor = k then some c else findKey NativeContact.actor k contacts := rfl
    rw [hfind]
    by_cases hk : c.actor = k
    · refine ⟨state, ?_⟩
      have hall : (chuckAnswer entity winner pass state c).filter (fun r => r.actor = k) =
          chuckAnswer entity winner pass state c :=
        List.filter_eq_self.2 fun r hr => by simp [chuckAnswer_actor state c r hr, hk]
      have hnone : findKey NativeContact.actor k contacts = none :=
        findKey_eq_none.2 fun b hb heq => hids.1 (hk.trans heq.symm ▸ List.mem_map_of_mem hb)
      simp [hall, hnone, hk]
    · refine ⟨state', ?_⟩
      have hnone : (chuckAnswer entity winner pass state c).filter (fun r => r.actor = k) = [] :=
        List.filter_eq_nil_iff.2 fun r hr => by simp [chuckAnswer_actor state c r hr, hk]
      rw [hnone, if_neg hk, List.append_nil]

theorem chuckAnswer_share (c : NativeContact) (hwinner : winner = some c → c.kind ≠ .side)
    (g g' g'' : ChuckState) :
    ChuckShare winner c (chuckAnswer entity winner 0 g c ++ chuckAnswer entity winner 1 g' c ++
      chuckAnswer entity winner 2 g'' c) := by
  unfold ChuckShare chuckAnswer chuckTakes
  simp only [eq_comm (a := some c)]
  by_cases hside : c.kind = .side
  · have hlost : winner ≠ some c := fun h => hwinner h hside
    simp [hside, hlost]
  · by_cases hwon : winner = some c
    · by_cases hstar : c.kind = .star
      · by_cases hagain : g'.damaged = entity g'.responses <;> simp [hwon, hstar, hagain]
      · simp [hside, hwon, hstar]
    · by_cases hstomp : c.kind = .stomp
      · simp [hwon, hstomp]
      · simp [hside, hwon, hstomp]

end Chuck

/-- The winner of a Chuck is the first attacker, whatever the arrangement of the actors; every actor
it touches from the side is hurt once, every other stomp bounces once and does no more. -/
theorem chuck_arbitration {m : CoopMachine} (hids : (m.actors.map CoopActor.player).Nodup)
    {actors : List CoopActor}
    (hp : m.actors.Perm actors) {ram : Ram} {bound : Bool} {slot : Nat}
    {query : CoopActor → ChuckQuery}
    {entity : List ChuckResponse → CoopEntityId} {damaged : CoopEntityId}
    {winner : Option NativeContact} {r : ChuckState}
    (hr : collectChuckContacts m ram bound slot query entity damaged = some (winner, r)) :
    Foremost (chuckBefore m.session)
      ((m.actors.filterMap (chuckQuery m query (spritePoint ram slot 16))).filter
      fun c => decide (c.kind ≠ .side)) winner ∧
    (∀ a ∈ m.actors,
      match chuckQuery m query (spritePoint ram slot 16) a with
      | none => r.responses.filter (fun response => response.actor = a.player) = []
      | some c =>
          ChuckShare winner c (r.responses.filter fun response => response.actor = a.player)) ∧
    ∃ r', collectChuckContacts { m with actors := actors } ram bound slot query entity damaged =
      some (winner, r') := by
  have hcontacts :=
    contacts_nodup (chuckQuery m query (spritePoint ram slot 16)) chuckQuery_actor hids
  have hdecides : Decides (chuckBefore m.session)
    ((m.actors.filterMap (chuckQuery m query (spritePoint ram slot 16))).filter
      fun c => decide (c.kind ≠ .side)) :=
    chuckBefore_decides m.session (hcontacts.sublist (List.filter_sublist.map _))
  obtain ⟨-, hsame⟩ := collect_perm (chuckBefore_strict m.session) none hdecides hp
  have hfirst := collect_foremost (chuckBefore_strict m.session) hdecides
  unfold collectChuckContacts at hr ⊢
  split at hr
  · cases hr
  rename_i hopen
  cases hr
  rw [if_neg hopen]
  refine ⟨hfirst, ?_, _, congrArg (fun w => some (w, _)) hsame⟩
  intro a ha
  rw [collect_eq] at hfirst ⊢
  dsimp only [List.foldl_cons, List.foldl_nil, chuckPass] at hfirst ⊢
  obtain ⟨g'', hlast⟩ := filter_chuckPass a.player _ hcontacts
  obtain ⟨g', hmiddle⟩ := filter_chuckPass a.player _ hcontacts
  obtain ⟨g, hstart⟩ := filter_chuckPass a.player _ hcontacts
  rw [hlast, hmiddle, hstart, findKey_contacts chuckQuery_actor hids ha]
  cases hquery : chuckQuery m query (spritePoint ram slot 16) a with
  | none => rfl
  | some c =>
      refine chuckAnswer_share c ?_ g g' g''
      intro hwon
      exact of_decide_eq_true (List.mem_filter.1 (hfirst.2 c hwon).1).2

/-- Both players stomp a Chuck. -/
theorem pair_on_chuck :
    ∃ winner r r', collectChuckContacts pairMachine (fun _ => 0) true 0 (fun _ => ⟨true, 0, 0⟩)
      (fun _ => 1) 0 = some (winner, r) ∧
    collectChuckContacts { pairMachine with actors := pairMachine.actors.reverse }
      (fun _ => 0) true 0
      (fun _ => ⟨true, 0, 0⟩) (fun _ => 1) 0 = some (winner, r') := by
  have hids : (pairMachine.actors.map CoopActor.player).Nodup := by decide
  obtain ⟨winner, r, hr⟩ : ∃ winner r, collectChuckContacts pairMachine (fun _ => 0) true 0
    (fun _ => ⟨true, 0, 0⟩)
      (fun _ => 1) 0 = some (winner, r) := ⟨_, _, rfl⟩
  obtain ⟨-, -, r', hr'⟩ := chuck_arbitration hids (List.reverse_perm _).symm hr
  exact ⟨winner, r, r', hr, hr'⟩

/-! ## `collect_extended_contacts` -/

structure ExtendedContact where
  actor : CoopPlayerId
  distance : UInt64
  star : Bool
  deriving DecidableEq, Repr

/-- What the ROM's stage leaves when it finds a contact: the clipping rectangle of the object, and
the star timer. -/
structure ExtendedQuery where
  star : UInt8
  left : UInt16
  top : UInt16
  width : UInt8
  height : UInt8
  deriving DecidableEq, Repr

def ExtendedQuery.center (q : ExtendedQuery) : Int × Int :=
  (q.left.toNat + q.width.toNat / 2, q.top.toNat + q.height.toNat / 2)

def extendedQuery (m : CoopMachine) (query : CoopActor → Option ExtendedQuery) :
    CoopActor → Option ExtendedContact :=
  ofPlaying m fun a p => (query a).map fun q =>
    ⟨a.player, p.contactDistance q.center, decide (q.star ≠ 0)⟩

def extendedBefore (s : CoopSession) (c winner : ExtendedContact) : Bool :=
  decide (c.distance < winner.distance) ||
    (decide (c.distance = winner.distance) && coopPlayerPrecedes s c.actor winner.actor)

/-- Whether a pass answers a contact. -/
def extendedTakes (coin : Bool) (winner : Option ExtendedContact) (pass : Nat)
    (c : ExtendedContact) : Bool :=
  let selected := if coin then decide (some c = winner) else if pass = 0 then !c.star
    else decide (some c = winner)
  !(coin && decide (pass = 0)) && selected

/-- `collect_extended_contacts`: the winner, and the actors the ROM's response is run for; `none`
without a slot. -/
def collectExtendedContacts (m : CoopMachine) (ram : Ram) (slot : Nat)
    (query : CoopActor → Option ExtendedQuery) :
    Option (Option ExtendedContact × List CoopPlayerId) :=
  if slot ≥ 10 then none
  else
    let coin := decide (ram (0x170b + slot) = 0x0a)
    let g := collect (extendedQuery m query) (fun c => coin || c.star)
      (extendedBefore m.session) none m.actors
    some (g.winner, [0, 1].flatMap fun pass =>
      (g.contacts.filter (extendedTakes coin g.winner pass)).map ExtendedContact.actor)

/-- How often one contact is answered: a coin is the winner's, a projectile hurts everyone without a
star and is destroyed by the winner. -/
def extendedShare (coin : Bool) (winner : Option ExtendedContact) (c : ExtendedContact) :
    List CoopPlayerId :=
  if coin = false ∧ c.star = false ∨ winner = some c then [c.actor] else []

theorem extendedQuery_actor {m : CoopMachine} {query : CoopActor → Option ExtendedQuery}
    (a : CoopActor) (c : ExtendedContact)
    (h : extendedQuery m query a = some c) : c.actor = a.player := by
  refine ofPlaying_key ExtendedContact.actor (fun a p c hc => ?_) a c h
  obtain ⟨q, -, rfl⟩ := Option.map_eq_some_iff.1 hc
  rfl

theorem extendedBefore_strict (s : CoopSession) : Strict (extendedBefore s) := by
  show Strict fun v w => _
  exact distance_before ExtendedContact.distance ExtendedContact.actor s ▸
    (precedes_strict ExtendedContact.actor s).byKey

theorem extendedBefore_decides (s : CoopSession) {xs : List ExtendedContact}
    (hids : (xs.map ExtendedContact.actor).Nodup) : Decides (extendedBefore s) xs := by
  show Decides (fun v w => _) xs
  exact distance_before ExtendedContact.distance ExtendedContact.actor s ▸
    (precedes_decides s hids).byKey

/-- What a pass answers, picked out for one player. -/
theorem filter_extendedPass {coin : Bool} {winner : Option ExtendedContact} {pass : Nat}
    {contacts : List ExtendedContact}
    (hids : (contacts.map ExtendedContact.actor).Nodup) (k : CoopPlayerId) :
    ((contacts.filter (extendedTakes coin winner pass)).map ExtendedContact.actor).filter
      (fun r => r = k) =
      ((findKey ExtendedContact.actor k contacts).map fun c =>
        if extendedTakes coin winner pass c then [c.actor] else []).getD [] := by
  have hactor : ∀ c : ExtendedContact,
    ∀ r ∈ (if extendedTakes coin winner pass c then [c.actor] else []),
      id r = c.actor := by
    intro c r hr
    split at hr
    · exact List.mem_singleton.1 hr
    · cases hr
  have hflat : (contacts.filter (extendedTakes coin winner pass)).map ExtendedContact.actor =
      contacts.flatMap fun c => if extendedTakes coin winner pass c then [c.actor] else [] := by
    induction contacts with
    | nil => rfl
    | cons c contacts ih =>
        rw [List.map_cons, List.nodup_cons] at hids
        rw [List.flatMap_cons, ← ih hids.2]
        cases htakes : extendedTakes coin winner pass c <;> simp [htakes]
  rw [hflat]
  exact filter_flatMap_key hactor k hids

theorem extendedTakes_share {coin : Bool} {winner : Option ExtendedContact} (c : ExtendedContact)
    (hwinner : winner = some c → (coin || c.star) = true) :
    (if extendedTakes coin winner 0 c then [c.actor] else []) ++
      (if extendedTakes coin winner 1 c then [c.actor] else []) =
      extendedShare coin winner c := by
  unfold extendedTakes extendedShare
  simp only [eq_comm (a := some c)]
  by_cases hwon : winner = some c
  · have hkind := hwinner hwon
    cases coin <;> cases hstar : c.star <;> simp_all
  · cases coin <;> cases c.star <;> simp [hwon]

/-- A cloud coin goes to the nearest actor alone; a projectile hurts every actor without a star, and
the nearest one with a star destroys it. -/
theorem extended_arbitration {m : CoopMachine} (hids : (m.actors.map CoopActor.player).Nodup)
    {actors : List CoopActor}
    (hp : m.actors.Perm actors) {ram : Ram} {slot : Nat} {query : CoopActor → Option ExtendedQuery}
    {winner : Option ExtendedContact} {answered : List CoopPlayerId}
    (hr : collectExtendedContacts m ram slot query = some (winner, answered)) :
    Foremost (extendedBefore m.session)
      ((m.actors.filterMap (extendedQuery m query)).filter fun c =>
      decide (ram (0x170b + slot) = 0x0a) || c.star) winner ∧
    (∀ a ∈ m.actors, answered.filter (fun r => r = a.player) = ((extendedQuery m query a).map
      (extendedShare (decide (ram (0x170b + slot) = 0x0a)) winner)).getD []) ∧
    ∃ answered', collectExtendedContacts { m with actors := actors } ram slot query =
      some (winner, answered') ∧
      answered'.Perm answered := by
  have hcontacts := contacts_nodup (extendedQuery m query) extendedQuery_actor hids
  have hdecides : Decides (extendedBefore m.session)
    ((m.actors.filterMap (extendedQuery m query)).filter fun c =>
      decide (ram (0x170b + slot) = 0x0a) || c.star) :=
    extendedBefore_decides m.session (hcontacts.sublist (List.filter_sublist.map _))
  obtain ⟨hperm, hsame⟩ := collect_perm (extendedBefore_strict m.session) none hdecides hp
  have hfirst := collect_foremost (extendedBefore_strict m.session) hdecides
  unfold collectExtendedContacts at hr ⊢
  split at hr
  · cases hr
  rename_i hopen
  cases hr
  rw [if_neg hopen]
  refine ⟨hfirst, ?_, _, congrArg (fun w => some (w, _)) hsame, ?_⟩
  · intro a ha
    rw [collect_eq] at hfirst ⊢
    dsimp only at hfirst ⊢
    rw [List.flatMap_cons, List.flatMap_singleton, List.filter_append,
      filter_extendedPass hcontacts, filter_extendedPass hcontacts,
      findKey_contacts extendedQuery_actor hids ha]
    cases hquery : extendedQuery m query a with
    | none => rfl
    | some c =>
        refine extendedTakes_share c ?_
        intro hwon
        exact (List.mem_filter.1 (hfirst.2 c hwon).1).2
  · refine List.Perm.flatMap_left _ fun pass _ => ?_
    show List.Perm (List.map _ (List.filter (extendedTakes _ (collect (extendedQuery m query) _
      (extendedBefore m.session) none actors).winner pass) (collect (extendedQuery m query) _
      (extendedBefore m.session) none actors).contacts)) _
    rw [hsame]
    exact (hperm.filter _).map _

/-- A projectile touches a player with a star and a player without. -/
theorem pair_under_fire :
    ∃ winner answered answered', collectExtendedContacts pairMachine (fun _ => 0) 0
      (fun a => some ⟨if a.player = 1 then 8 else 0, 0, 0, 8, 8⟩) = some (winner, answered) ∧
    collectExtendedContacts { pairMachine with actors := pairMachine.actors.reverse } (fun _ => 0) 0
      (fun a => some ⟨if a.player = 1 then 8 else 0, 0, 0, 8, 8⟩) = some (winner, answered') ∧
      answered'.Perm answered := by
  have hids : (pairMachine.actors.map CoopActor.player).Nodup := by decide
  obtain ⟨winner, answered, hr⟩ : ∃ winner answered, collectExtendedContacts pairMachine
    (fun _ => 0) 0
      (fun a => some ⟨if a.player = 1 then 8 else 0, 0, 0, 8, 8⟩) = some (winner, answered) :=
      ⟨_, _, rfl⟩
  obtain ⟨-, -, answered', hr', hanswered⟩ :=
    extended_arbitration hids (List.reverse_perm _).symm hr
  exact ⟨winner, answered, answered', hr, hr', hanswered⟩

/-! ## `collect_goal` -/

/-- What the ROM's clipping leaves for `record_goal`: the carry, and the two bytes its height is the
difference of. -/
structure GoalTouch where
  carry : Bool
  tape : UInt8
  y : UInt8
  deriving DecidableEq, Repr

/-- `goal_actor`, `goal_entity`, `goal_height`, `goal_stars`; without the carry it is an exit event
only. -/
structure GoalContact where
  actor : CoopPlayerId
  entity : Nat
  height : UInt8
  stars : UInt8
  carry : Bool
  deriving DecidableEq, Repr

/-- A call of `collect_goal` for the sprite in a slot; an actor whose crossing the ROM does not
accept is not recorded. -/
structure GoalCall where
  slot : Nat
  ram : Ram
  query : CoopActor → Option GoalTouch

def goalQuery (m : CoopMachine) (rom : Nat → UInt8) (call : GoalCall) :
    CoopActor → Option GoalContact :=
  ofPlaying m fun a _ => (call.query a).map fun touch =>
    let height := touch.tape - touch.y
    ⟨a.player, call.slot, height, if touch.carry then rom (0x3f1aa + (height >>> 2).toNat)
      else 0, touch.carry⟩

def goalBefore (s : CoopSession) (c goal : GoalContact) : Bool :=
  decide (goal.stars < c.stars) ||
    (decide (c.stars = goal.stars) && coopPlayerPrecedes s c.actor goal.actor)

def GoalContact.event (ram : Ram) (c : GoalContact) : CoopEvent where
  kind := .is .exit
  player := c.actor
  entity := UInt32.ofNat c.entity
  value := c.stars.toUInt32
  flags := if ram (0x187b + c.entity) &&& 4 ≠ 0 then COOP_EVENT_SECRET else 0
  distanceSquared := 0

/-- `collect_goal`, over the goal and the session so far; `none` where it dies, for a sprite without
the custom contact or at a crossing that `coop_session_event` refuses. -/
def collectGoal (m : CoopMachine) (rom : Nat → UInt8) (goal : Option GoalContact × CoopSession)
    (call : GoalCall) :
    Option (Option GoalContact × CoopSession) :=
  if goal.2.advancing = false then some goal
  else
    let g := collect (goalQuery { m with session := goal.2 } rom call) GoalContact.carry
      (goalBefore goal.2) goal.1 m.actors
    if g.contacts ≠ [] ∧ (call.slot ≥ 12 ∨ call.ram (0x167a + call.slot) &&& 0x80 = 0) then none
    else
      -- a stored event changes none of what the later queries of the loop read
      (acceptEvents goal.2 (g.contacts.map (GoalContact.event call.ram))).map fun s => (g.winner, s)

/-- The calls of a frame, which starts without a goal. -/
def collectGoals (m : CoopMachine) (rom : Nat → UInt8) (calls : List GoalCall) :
    Option (Option GoalContact × CoopSession) :=
  calls.foldlM (collectGoal m rom) (none, m.session)

section Goal

variable {m : CoopMachine} {rom : Nat → UInt8}

theorem goalQuery_actor {call : GoalCall} (a : CoopActor) (c : GoalContact)
    (h : goalQuery m rom call a = some c) :
    c.actor = a.player := by
  refine ofPlaying_key GoalContact.actor (fun a p c hc => ?_) a c h
  obtain ⟨touch, -, rfl⟩ := Option.map_eq_some_iff.1 hc
  rfl

theorem goalBefore_eq (s : CoopSession) : goalBefore s =
    byKey (fun c => OrderDual.toDual c.stars.toNat) fun v w =>
    coopPlayerPrecedes s v.actor w.actor := by
  funext v w
  rw [Bool.eq_iff_iff, byKey_iff, OrderDual.toDual_lt_toDual, OrderDual.toDual_inj,
    ← UInt8.lt_iff_toNat_lt, UInt8.toNat_inj]
  simp [goalBefore]

theorem goalBefore_strict (s : CoopSession) : Strict (goalBefore s) := by
  rw [goalBefore_eq]
  exact (precedes_strict GoalContact.actor s).byKey

theorem goalBefore_decides (s : CoopSession) {xs : List GoalContact}
    (hids : (xs.map GoalContact.actor).Nodup) :
    Decides (goalBefore s) xs := by
  rw [goalBefore_eq]
  exact (precedes_decides s hids).byKey

/-- The contacts of a call. -/
def goalContacts (m : CoopMachine) (rom : Nat → UInt8) (call : GoalCall) : List GoalContact :=
  m.actors.filterMap (goalQuery m rom call)

/-- The contacts of a frame that may win the goal. -/
def goalContenders (m : CoopMachine) (rom : Nat → UInt8) (calls : List GoalCall) :
    List GoalContact :=
  calls.flatMap fun call => (goalContacts m rom call).filter GoalContact.carry

/-- Of a session only what a stored event leaves alone matters to the goal. -/
structure SameParty (s t : CoopSession) : Prop where
  players : t.players = s.players
  primary : t.primary = s.primary
  advancing : t.advancing = s.advancing

theorem SameParty.goalQuery {s : CoopSession} (h : SameParty m.session s) (call : GoalCall) :
    goalQuery { m with session := s } rom call = Coop.goalQuery m rom call := by
  funext a
  simp only [Coop.goalQuery, ofPlaying, coopPlayer, h.players]

theorem SameParty.goalBefore {s : CoopSession} (h : SameParty m.session s) :
    goalBefore s = Coop.goalBefore m.session := by
  funext v w
  simp only [Coop.goalBefore, coopPlayerPrecedes, h.primary]

theorem SameParty.acceptEvents {s t u : CoopSession} (h : SameParty s t) {es : List CoopEvent}
    (hu : acceptEvents t es = some u) : SameParty s u ∧ u.events = t.events ++ es := by
  obtain ⟨capacity, rest, rfl⟩ := acceptEvents_some es hu
  exact ⟨⟨h.players, h.primary, h.advancing⟩, rfl⟩

theorem collectGoal_some (hadvancing : m.session.advancing = true)
    {goal goal' : Option GoalContact × CoopSession}
    (hparty : SameParty m.session goal.2) {call : GoalCall}
    (h : collectGoal m rom goal call = some goal') :
    goal'.1 = ((goalContacts m rom call).filter GoalContact.carry).foldl
      (keepLeast (goalBefore m.session)) goal.1 ∧
      SameParty m.session goal'.2 ∧
        goal'.2.events = goal.2.events ++ (goalContacts m rom call).map
          (GoalContact.event call.ram) := by
  unfold collectGoal at h
  rw [if_neg (by simp [hparty.advancing, hadvancing]), hparty.goalQuery, hparty.goalBefore,
    collect_eq] at h
  dsimp only at h
  split at h
  · cases h
  · obtain ⟨s, hs, rfl⟩ := Option.map_eq_some_iff.1 h
    exact ⟨rfl, hparty.acceptEvents hs⟩

/-- The goal is the least of all contacts of the calls, and every contact is an exit event. -/
theorem collectGoals_some (hadvancing : m.session.advancing = true) : ∀ {calls : List GoalCall}
    {goal goal' : Option GoalContact × CoopSession}, SameParty m.session goal.2 →
      calls.foldlM (collectGoal m rom) goal = some goal' →
      goal'.1 = (goalContenders m rom calls).foldl (keepLeast (goalBefore m.session)) goal.1 ∧
      goal'.2.events = goal.2.events ++
        calls.flatMap fun call => (goalContacts m rom call).map (GoalContact.event call.ram)
  | [], goal, goal', _, h => by
    obtain rfl := Option.some.inj h
    exact ⟨rfl, (List.append_nil _).symm⟩
  | call :: calls, goal, goal', hparty, h => by
    rw [List.foldlM_cons] at h
    obtain ⟨mid, hcall, hrest⟩ := Option.bind_eq_some_iff.1 h
    obtain ⟨hwinner, hparty', hevents⟩ := collectGoal_some hadvancing hparty hcall
    obtain ⟨hwinner', hevents'⟩ := collectGoals_some hadvancing hparty' hrest
    have hcontenders : goalContenders m rom (call :: calls) =
        (goalContacts m rom call).filter GoalContact.carry ++ goalContenders m rom calls := rfl
    rw [hwinner', hevents', hwinner, hevents, hcontenders, List.foldl_append, List.flatMap_cons,
      List.append_assoc]
    exact ⟨rfl, rfl⟩

/-- A call decides the same for another arrangement of the actors, and stores the same events in
another order. -/
theorem collectGoal_perm (hids : (m.actors.map CoopActor.player).Nodup) {actors : List CoopActor}
    (hp : m.actors.Perm actors)
    {goal goal' : Option GoalContact × CoopSession} {call : GoalCall}
    (h : collectGoal m rom goal call = some goal')
    {s : CoopSession} (hs : Reordered goal.2 s) : ∃ s',
      collectGoal { m with actors := actors } rom (goal.1, s) call = some (goal'.1, s') ∧
      Reordered goal'.2 s' := by
  obtain ⟨before, hbefore, -⟩ := id hs
  have hcontacts :=
    contacts_nodup (goalQuery { m with session := goal.2 } rom call) goalQuery_actor hids
  have hdecides : Decides (goalBefore goal.2)
      ((m.actors.filterMap (goalQuery { m with session := goal.2 } rom call)).filter
        GoalContact.carry) :=
    goalBefore_decides goal.2 (hcontacts.sublist (List.filter_sublist.map _))
  obtain ⟨hperm, hsame⟩ := collect_perm (goalBefore_strict goal.2) goal.1 hdecides hp
  have hquery : goalQuery { m with session := s, actors := actors } rom call =
      goalQuery { m with session := goal.2 } rom call := by
    rw [hbefore]
    rfl
  have horder : goalBefore s = goalBefore goal.2 := by
    rw [hbefore]
    rfl
  unfold collectGoal at h ⊢
  dsimp only at h ⊢
  rw [hquery, horder]
  split at h
  · obtain rfl := Option.some.inj h
    rename_i hidle
    exact ⟨s, if_pos (by rw [hbefore]; exact hidle), hs⟩
  rename_i hadvancing
  split at h
  · cases h
  rename_i hopen
  obtain ⟨after, hafter, rfl⟩ := Option.map_eq_some_iff.1 h
  have hopen' :
    ¬ ((collect (goalQuery { m with session := goal.2 } rom call) GoalContact.carry
    (goalBefore goal.2) goal.1
      actors).contacts ≠ [] ∧ (call.slot ≥ 12 ∨ call.ram (0x167a + call.slot) &&& 0x80 = 0)) := by
    refine fun hbad => hopen (hbad.imp_left fun hne hnil => hne ?_)
    rw [hnil] at hperm
    exact hperm.eq_nil
  -- the same events in the order of the other arrangement, and then behind the reordered ones
  obtain ⟨moved, hmoved, hmovedOrder⟩ :=
    acceptEvents_perm (hperm.symm.map (GoalContact.event call.ram)) hafter
  obtain ⟨s', hs', hs'Order⟩ := acceptEvents_reordered _ hs hmoved
  refine ⟨s', ?_, hmovedOrder.trans hs'Order⟩
  rw [if_neg (by rw [hbefore]; exact hadvancing), if_neg hopen', hs', ← hsame]
  rfl

/-- The calls of a frame decide the same for another arrangement of the actors. -/
theorem collectGoals_perm (hids : (m.actors.map CoopActor.player).Nodup) {actors : List CoopActor}
    (hp : m.actors.Perm actors) :
    ∀ {calls : List GoalCall} {goal goal' : Option GoalContact × CoopSession} {s : CoopSession},
      calls.foldlM (collectGoal m rom) goal = some goal' → Reordered goal.2 s → ∃ s',
        calls.foldlM (collectGoal { m with actors := actors } rom) (goal.1, s) =
          some (goal'.1, s') ∧
          Reordered goal'.2 s'
  | [], goal, goal', s, h, hs => by
    obtain rfl := Option.some.inj h
    exact ⟨s, rfl, hs⟩
  | call :: calls, goal, goal', s, h, hs => by
    rw [List.foldlM_cons] at h
    obtain ⟨mid, hcall, hrest⟩ := Option.bind_eq_some_iff.1 h
    obtain ⟨between, hcall', hbetween⟩ := collectGoal_perm hids hp hcall hs
    obtain ⟨s', hrest', hs'⟩ := collectGoals_perm hids hp hrest hbetween
    exact ⟨s', by rw [List.foldlM_cons, hcall']; exact hrest', hs'⟩

/-- Over an advancing frame the goal goes to the most stars, and then to the first player, whatever
the arrangement of the actors; and every crossing is stored as one exit event of the actor that made
it. -/
theorem goal_arbitration (hids : (m.actors.map CoopActor.player).Nodup) {actors : List CoopActor}
    (hp : m.actors.Perm actors)
    (hadvancing : m.session.advancing = true) {calls : List GoalCall} {goal : Option GoalContact}
    {s : CoopSession}
    (h : collectGoals m rom calls = some (goal, s)) :
    (goal = none ↔ goalContenders m rom calls = []) ∧
    (∀ c ∈ goal, c ∈ goalContenders m rom calls ∧ ∀ d ∈ goalContenders m rom calls,
      goalBefore m.session d c = false) ∧
    (∃ events, s.events = m.session.events ++ events ∧ ∀ a ∈ m.actors,
      events.filter (fun e => e.player = a.player) =
      calls.flatMap fun call =>
      ((goalQuery m rom call a).map (GoalContact.event call.ram)).toList) ∧
    ∃ s', collectGoals { m with actors := actors } rom calls = some (goal, s') ∧
    Reordered s s' := by
  obtain ⟨hgoal, hevents⟩ := collectGoals_some hadvancing ⟨rfl, rfl, rfl⟩ h
  dsimp only at hgoal hevents
  have hstrict := goalBefore_strict m.session
  refine ⟨?_, ?_, ⟨_, hevents, ?_⟩, ?_⟩
  · rw [hgoal]
    exact least_eq_none hstrict
  · intro c hc
    exact least_some hstrict (hgoal.symm.trans hc)
  · intro a ha
    have htag : ∀ (call : GoalCall) (c : GoalContact), ∀ e ∈ [c.event call.ram],
      CoopEvent.player e = c.actor := by
      intro call c e he
      rw [List.mem_singleton.1 he]
      rfl
    rw [List.filter_flatMap]
    refine List.flatMap_congr fun call _ => ?_
    have hcontacts := contacts_nodup (goalQuery m rom call) goalQuery_actor hids
    have hfind : findKey GoalContact.actor a.player (m.actors.filterMap (goalQuery m rom call)) =
      goalQuery m rom call a :=
      findKey_contacts goalQuery_actor hids ha
    rw [← hfind, goalContacts, ← List.flatMap_singleton' (List.map _ _), List.flatMap_map]
    rw [filter_flatMap_key (htag call) a.player hcontacts]
    cases findKey GoalContact.actor a.player (m.actors.filterMap (goalQuery m rom call)) <;> rfl
  · exact collectGoals_perm hids hp h (Reordered.refl _)

/-- Both players cross a tape, the second one touches it. -/
def tapeCrossing : GoalCall := ⟨3, fun _ => 0x80, fun a => some ⟨decide (a.player = 1), 16, 0⟩⟩

/-- A pair in a frame that advances, with room for its events. -/
def pairFrame : CoopMachine :=
  { pairMachine with session := { pairSession with advancing := true, eventCapacity := 16 } }

theorem pair_at_tape : ∃ goal s s', collectGoals pairFrame (fun _ => 1) [tapeCrossing] =
    some (goal, s) ∧
    goal.map GoalContact.actor = some 1 ∧ s.events.map CoopEvent.player = [0, 1] ∧
    collectGoals { pairFrame with actors := pairFrame.actors.reverse } (fun _ => 1) [tapeCrossing] =
      some (goal, s') ∧
    Reordered s s' := by
  have hids : (pairFrame.actors.map CoopActor.player).Nodup := by decide
  obtain ⟨goal, s, hr, hactor, hstored⟩ : ∃ goal s, collectGoals pairFrame (fun _ => 1)
    [tapeCrossing] = some (goal, s) ∧
      goal.map GoalContact.actor = some 1 ∧ s.events.map CoopEvent.player = [0, 1] :=
      ⟨_, _, rfl, rfl, rfl⟩
  obtain ⟨-, -, -, s', hr', hs'⟩ := goal_arbitration hids (List.reverse_perm _).symm rfl hr
  exact ⟨goal, s, s', hr, hactor, hstored, hr', hs'⟩

end Goal

end SmwRecomp.Coop
