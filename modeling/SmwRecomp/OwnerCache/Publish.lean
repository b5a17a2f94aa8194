import SmwRecomp.Lib.Run
import SmwRecomp.OwnerCache.Verify
import Mathlib.Logic.Function.Basic

/-!
# Publication of the owner cache

Any number of `_publish_immutable` calls, each with a staging directory of its own, aimed at one
target. A step is one rename, existence check, verification or quarantine of one call.

* `Pc`, `advance` — where a call stands, and its next step; `Publication`, `publishNext` — the
  target and all calls.
* `RenamesAlone` — no call publishes while another is between a refusing verdict and the quarantine
  it decides on.
* `Evicts`, `Published` — what must not happen to a verified cache, and what publication promises.
* `Orderly` — the invariant of the runs whose every step renames alone: a call needs two attempts at
  most.
* `eviction_follows` — a call that holds a stale verdict evicts, sooner or later.
* `publish_exact` — publication keeps its promises in exactly those runs.
-/

set_option autoImplicit false

namespace SmwRecomp.OwnerCache

/-! ## One call -/

/-- Where a call stands; `attempt` is the loop's counter. -/
inductive Pc where
  | publishing (attempt : Nat)
  | checking (attempt : Nat)
  | verifying (attempt : Nat)
  | quarantining (attempt : Nat)
  | removing
  | returning
  | returned
  | raised (e : PyError)
  deriving DecidableEq

def Pc.finished : Pc → Bool
  | .returned => true
  | .raised _ => true
  | _ => false

/-- The outcome of `verify_final_cache` at the target. -/
inductive Verdict where
  | accepted
  | refused
  | raised (e : PyError)
  deriving DecidableEq

variable {D P : Type}

/-- `os.rename(staging, target)`, and the end of the loop. -/
def tryRename (mine : D) (target : Option D) (attempt : Nat) : Option D × Pc :=
  if attempt ≥ 4
    then (target, .raised (.valueError "could not publish the rebuilt Falcon owner cache"))
  else match target with
    | none => (some mine, .returning)
    | some d => (some d, .checking attempt)

/-- `target.exists()`; the bare `raise` hands on what `os.rename` raised. -/
def checkExists (target : Option D) (attempt : Nat) : Option D × Pc :=
  if target.isSome then (target, .verifying attempt)
  else (target, if attempt = 3 then .raised (.other "FileExistsError")
    else .publishing (attempt + 1))

def verifyTarget (verify : Option D → Verdict) (target : Option D) (attempt : Nat) :
    Option D × Pc :=
  match verify target with
  | .accepted => (target, .removing)
  | .refused => (target, .quarantining attempt)
  | .raised e => (target, .raised e)

/-- The next step of a call that stands at `pc`, over the target's content; `mine` is its staging
directory. -/
def advance (verify : Option D → Verdict) (mine : D) (target : Option D) : Pc → Option D × Pc
  | .publishing attempt => tryRename mine target attempt
  | .checking attempt => checkExists target attempt
  | .verifying attempt => verifyTarget verify target attempt
  -- with nothing there, `os.rename` raises the `FileNotFoundError` that is caught
  | .quarantining attempt => (none, .publishing (attempt + 1))
  | .removing => (target, .returning)
  | .returning => (target, .returned)
  | .returned => (target, .returned)
  | .raised e => (target, .raised e)

/-! ## All calls -/

structure Publication (D P : Type) where
  target : Option D
  pc : P → Pc

section Machine

variable [DecidableEq P] (verify : Option D → Verdict) (staging : P → D)

/-- One step of the call `p`. -/
def publishNext (a : Publication D P) (p : P) : Option (Publication D P) :=
  if (a.pc p).finished then none
  else some ⟨(advance verify (staging p) a.target (a.pc p)).1,
    Function.update a.pc p (advance verify (staging p) a.target (a.pc p)).2⟩

def publishStep (a : Publication D P) (p : P) (b : Publication D P) : Prop :=
  publishNext verify staging a p = some b

def publishStart (target : Option D) : Publication D P := ⟨target, fun _ => .publishing 0⟩

abbrev PublishEvent (D P : Type) := Publication D P × P × Publication D P

def Quarantining (pc : Pc) : Prop := ∃ attempt, pc = .quarantining attempt

/-- The call's `os.rename(staging, target)` succeeds. -/
def Publishes : PublishEvent D P → Prop
  | (a, p, _) => a.target = none ∧ ∃ attempt < 4, a.pc p = .publishing attempt

/-- No call publishes between another's refusing verdict and its quarantine. -/
def RenamesAlone (x : PublishEvent D P) : Prop := Publishes x → ∀ q, ¬ Quarantining (x.1.pc q)

/-- A verified cache is renamed away. -/
def Evicts : PublishEvent D P → Prop
  | (a, p, _) => Quarantining (a.pc p) ∧ verify a.target = .accepted

/-- What publication promises of a run. -/
structure Published (steps : List (PublishEvent D P)) (t : Publication D P) : Prop where
  never_evicts : ∀ x ∈ steps, ¬ Evicts verify x
  returns_verified : ∀ x ∈ steps, x.1.pc x.2.1 = .returning → verify x.1.target = .accepted
  ends_verified : (∀ p, (t.pc p).finished = true) → verify t.target = .accepted

end Machine

section Machine

variable {verify : Option D → Verdict} {mine : D} {target : Option D} {pc : Pc}

/-- The target changes when a call publishes, and when one quarantines what it finds. -/
theorem advance_cases (verify : Option D → Verdict) (mine : D) (target : Option D) (pc : Pc) :
    (advance verify mine target pc).1 = target ∨
    (target = none ∧ (∃ attempt < 4, pc = .publishing attempt) ∧
      advance verify mine target pc = (some mine, .returning)) ∨
    (Quarantining pc ∧ (advance verify mine target pc).1 = none) := by
  cases pc with
  | publishing attempt =>
      show (tryRename mine target attempt).1 = target ∨
        (target = none ∧ _ ∧ tryRename mine target attempt = (some mine, .returning)) ∨ _
      unfold tryRename
      by_cases hlast : attempt ≥ 4
      · rw [if_pos hlast]
        exact .inl rfl
      · rw [if_neg hlast]
        cases target with
        | none => exact .inr (.inl ⟨rfl, ⟨attempt, by omega, rfl⟩, rfl⟩)
        | some d => exact .inl rfl
  | checking attempt =>
      refine .inl ?_
      show (checkExists target attempt).1 = target
      unfold checkExists
      split <;> rfl
  | verifying attempt =>
      refine .inl ?_
      show (verifyTarget verify target attempt).1 = target
      unfold verifyTarget
      split <;> rfl
  | quarantining attempt => exact .inr (.inr ⟨⟨attempt, rfl⟩, rfl⟩)
  | removing => exact .inl rfl
  | returning => exact .inl rfl
  | returned => exact .inl rfl
  | raised e => exact .inl rfl

/-! ## Orderly runs -/

/-- What holds of a call while no verdict goes stale: its second attempt finds the target absent or
verified. -/
def CallSound (verify : Option D → Verdict) (target : Option D) : Pc → Prop
  | .publishing attempt => attempt = 0 ∨ (attempt = 1 ∧ (target = none ∨ verify target = .accepted))
  | .checking attempt => attempt = 0 ∨ (attempt = 1 ∧ verify target = .accepted)
  | .verifying attempt => attempt = 0 ∨ (attempt = 1 ∧ verify target = .accepted)
  | .quarantining attempt => attempt = 0 ∧ verify target ≠ .accepted
  | .removing => verify target = .accepted
  | .returning => verify target = .accepted
  | .returned => verify target = .accepted
  | .raised _ => False

/-- Another call's publication suits every call that does not hold a refusing verdict. -/
theorem CallSound.published (h : CallSound verify target pc) {d : Option D}
    (hd : verify d = .accepted)
    (hpc : ¬ Quarantining pc) : CallSound verify d pc := by
  cases pc with
  | publishing attempt => exact h.imp id fun h => ⟨h.1, .inr hd⟩
  | checking attempt => exact h.imp id fun h => ⟨h.1, hd⟩
  | verifying attempt => exact h.imp id fun h => ⟨h.1, hd⟩
  | quarantining attempt => exact absurd ⟨attempt, rfl⟩ hpc
  | removing => exact hd
  | returning => exact hd
  | returned => exact hd
  | raised e => exact h

/-- Another call's quarantine of a refused cache suits every call. -/
theorem CallSound.quarantined (h : CallSound verify target pc) (habsent : verify none = .refused)
    (htarget : verify target ≠ .accepted) : CallSound verify none pc := by
  cases pc with
  | publishing attempt => exact h.imp id fun h => ⟨h.1, .inl rfl⟩
  | checking attempt => exact h.imp id fun h => absurd h.2 htarget
  | verifying attempt => exact h.imp id fun h => absurd h.2 htarget
  | quarantining attempt => exact ⟨h.1, by rw [habsent]; exact nofun⟩
  | removing => exact absurd h htarget
  | returning => exact absurd h htarget
  | returned => exact absurd h htarget
  | raised e => exact h

/-- A call's own step. -/
theorem CallSound.advance (h : CallSound verify target pc) (habsent : verify none = .refused)
    (hmine : verify (some mine) = .accepted) (hsettled : ∀ e, verify target ≠ .raised e) :
    CallSound verify (advance verify mine target pc).1 (advance verify mine target pc).2 := by
  have hnone : verify none ≠ .accepted := by rw [habsent]; exact nofun
  cases pc with
  | publishing attempt =>
      show CallSound verify (tryRename mine target attempt).1 (tryRename mine target attempt).2
      unfold tryRename
      have hlt : ¬ attempt ≥ 4 := by rcases h with h | h <;> omega
      rw [if_neg hlt]
      cases target with
      | none => exact hmine
      | some d => exact h.imp id fun h => ⟨h.1, h.2.resolve_left nofun⟩
  | checking attempt =>
      show CallSound verify (checkExists target attempt).1 (checkExists target attempt).2
      unfold checkExists
      cases target with
      | none =>
          rcases h with rfl | ⟨-, hverified⟩
          · exact .inr ⟨rfl, .inl rfl⟩
          · exact absurd hverified hnone
      | some d => exact h
  | verifying attempt =>
      show CallSound verify (verifyTarget verify target attempt).1
        (verifyTarget verify target attempt).2
      unfold verifyTarget
      cases hverify : verify target with
      | accepted => exact hverify
      | refused =>
          have hrefused : verify target ≠ .accepted := by rw [hverify]; exact nofun
          exact ⟨h.resolve_right fun h => hrefused h.2, hrefused⟩
      | raised e => exact absurd hverify (hsettled e)
  | quarantining attempt => exact .inr ⟨by rw [h.1], .inl rfl⟩
  | removing => exact h
  | returning => exact h
  | returned => exact h
  | raised e => exact h

theorem CallSound.finished (h : CallSound verify target pc) (hfinished : pc.finished = true) :
    verify target = .accepted := by
  cases pc with
  | returned => exact h
  | raised e => exact h.elim
  | publishing => cases hfinished
  | checking => cases hfinished
  | verifying => cases hfinished
  | quarantining => cases hfinished
  | removing => cases hfinished
  | returning => cases hfinished

/-- The target is absent, refused or verified, and every call is sound. -/
structure Orderly (verify : Option D → Verdict) (a : Publication D P) : Prop where
  settled : ∀ e, verify a.target ≠ .raised e
  calls : ∀ p, CallSound verify a.target (a.pc p)

/-- In an orderly state nothing verified is about to go, and a call that returns names a verified
cache. -/
theorem Orderly.published [Nonempty P] {t : Publication D P} {steps : List (PublishEvent D P)}
    (h : Orderly verify t) (hall : ∀ x ∈ steps, Orderly verify x.1) :
    Published verify steps t where
  never_evicts := by
    intro x hx hevicts
    obtain ⟨⟨attempt, hpc⟩, hverified⟩ := hevicts
    have hcall := (hall x hx).calls x.2.1
    rw [hpc] at hcall
    exact hcall.2 hverified
  returns_verified := by
    intro x hx hpc
    have hcall := (hall x hx).calls x.2.1
    rwa [hpc] at hcall
  ends_verified := by
    intro hfinished
    obtain ⟨p⟩ := ‹Nonempty P›
    exact (h.calls p).finished (hfinished p)

end Machine

section Runs

variable [DecidableEq P] {verify : Option D → Verdict} {staging : P → D}

variable {a b t : Publication D P} {p : P} {steps : List (PublishEvent D P)}

/-- The state behind a step. -/
theorem publishStep_eq (h : publishStep verify staging a p b) : (a.pc p).finished = false ∧
    b = ⟨(advance verify (staging p) a.target (a.pc p)).1,
      Function.update a.pc p (advance verify (staging p) a.target (a.pc p)).2⟩ := by
  unfold publishStep publishNext at h
  cases hfinished : (a.pc p).finished with
  | true => rw [hfinished] at h; cases h
  | false =>
      rw [hfinished] at h
      exact ⟨rfl, (Option.some.inj h).symm⟩

theorem Orderly.step (habsent : verify none = .refused)
    (hstaged : ∀ p, verify (some (staging p)) = .accepted)
    (h : Orderly verify a) (hstep : publishStep verify staging a p b)
    (halone : RenamesAlone (a, p, b)) :
    Orderly verify b := by
  obtain ⟨-, rfl⟩ := publishStep_eq hstep
  have hown := (h.calls p).advance habsent (hstaged p) h.settled
  have hcases := advance_cases verify (staging p) a.target (a.pc p)
  constructor
  · dsimp only
    intro e
    rcases hcases with hsame | ⟨-, -, hpublished⟩ | ⟨-, hnone⟩
    · rw [hsame]
      exact h.settled e
    · rw [hpublished, hstaged p]
      exact nofun
    · rw [hnone, habsent]
      exact nofun
  · intro q
    dsimp only
    by_cases hq : q = p
    · subst hq
      rw [Function.update_self]
      exact hown
    · rw [Function.update_of_ne hq]
      rcases hcases with hsame | ⟨htarget, hpublishing, hpublished⟩ | ⟨hquarantining, hnone⟩
      · rw [hsame]
        exact h.calls q
      · rw [hpublished]
        exact (h.calls q).published (hstaged p) (halone ⟨htarget, hpublishing⟩ q)
      · rw [hnone]
        obtain ⟨attempt, hpc⟩ := hquarantining
        have hrefused := h.calls p
        rw [hpc] at hrefused
        exact (h.calls q).quarantined habsent hrefused.2

theorem orderly_run (habsent : verify none = .refused)
    (hstaged : ∀ p, verify (some (staging p)) = .accepted)
    (hrun : Run (publishStep verify staging) a steps t) (h : Orderly verify a)
    (halone : ∀ x ∈ steps, RenamesAlone x) :
    Orderly verify t ∧ ∀ x ∈ steps, Orderly verify x.1 := by
  induction hrun with
  | nil => exact ⟨h, fun _ hx => nomatch hx⟩
  | cons hstep _ ih =>
      rw [List.forall_mem_cons] at halone ⊢
      obtain ⟨hlast, hall⟩ := ih (h.step habsent hstaged hstep halone.1) halone.2
      exact ⟨hlast, h, hall⟩

/-- A call that holds a refusing verdict over a verified cache evicts it, unless another does so
before. -/
theorem eviction_follows (habsent : verify none = .refused) {q : P}
    (hrun : Run (publishStep verify staging) a steps t)
    (hverified : verify a.target = .accepted) (hstale : Quarantining (a.pc q))
    (hfinished : (t.pc q).finished = true) :
    ∃ x ∈ steps, Evicts verify x := by
  induction hrun with
  | nil =>
      obtain ⟨attempt, hpc⟩ := hstale
      rw [hpc] at hfinished
      cases hfinished
  | @cons a b t p steps hstep _ ih =>
      by_cases hevicts : Evicts verify (a, p, b)
      · exact ⟨_, List.mem_cons_self, hevicts⟩
      · obtain ⟨-, hb⟩ := publishStep_eq hstep
        have hquiet : ¬ Quarantining (a.pc p) := fun h => hevicts ⟨h, hverified⟩
        have hsame : b.target = a.target := by
          rw [hb]
          rcases advance_cases verify (staging p) a.target (a.pc p) with hsame | ⟨hnone, -⟩
            | ⟨hquarantining, -⟩
          · exact hsame
          · rw [hnone, habsent] at hverified
            cases hverified
          · exact absurd hquarantining hquiet
        have hq : q ≠ p := fun h => hquiet (h ▸ hstale)
        have hpc : b.pc q = a.pc q := by
          rw [hb]
          exact Function.update_of_ne hq _ _
        obtain ⟨x, hx, hevicts⟩ := ih (hsame ▸ hverified) (hpc ▸ hstale) hfinished
        exact ⟨x, List.mem_cons_of_mem _ hx, hevicts⟩

/-- A complete run that evicts nothing publishes only when no verdict is held. -/
theorem alone_of_never_evicts (habsent : verify none = .refused)
    (hstaged : ∀ p, verify (some (staging p)) = .accepted)
    (hrun : Run (publishStep verify staging) a steps t)
    (hfinished : ∀ p, (t.pc p).finished = true) (hnever : ∀ x ∈ steps, ¬ Evicts verify x) :
    ∀ x ∈ steps, RenamesAlone x := by
  intro x hx hpublishes q hstale
  obtain ⟨before, after, rfl⟩ := List.append_of_mem hx
  obtain ⟨a, p, b⟩ := x
  obtain ⟨-, hstep, hrest⟩ := hrun.split
  obtain ⟨-, hb⟩ := publishStep_eq hstep
  obtain ⟨hnone, attempt, hlt, hpc⟩ := hpublishes
  have hadvance : advance verify (staging p) a.target (a.pc p) =
    (some (staging p), .returning) := by
    rw [hnone, hpc]
    show tryRename (staging p) none attempt = _
    unfold tryRename
    rw [if_neg (by omega)]
  rw [hadvance] at hb
  have hq : q ≠ p := by
    rintro rfl
    obtain ⟨other, hother⟩ := hstale
    cases hpc.symm.trans hother
  have hverified : verify b.target = .accepted := by
    rw [hb]
    exact hstaged p
  have hheld : Quarantining (b.pc q) := by
    rw [hb]
    dsimp only
    rwa [Function.update_of_ne hq]
  obtain ⟨y, hy, hevicts⟩ := eviction_follows habsent hrest hverified hheld (hfinished q)
  exact hnever y (List.mem_append_right _ (List.mem_cons_of_mem _ hy)) hevicts

/-! ## A target whose verification raises -/

/-- Where a call stands that has not heard from the verifier, or was stopped by it. -/
def Unheard : Pc → Prop
  | .publishing _ => True
  | .checking _ => True
  | .verifying _ => True
  | .raised _ => True
  | _ => False

/-- No call ever moves a directory whose verification raises anything but a `ValueError`. -/
theorem stuck_run (habsent : verify none = .refused) {e : PyError}
    (hrun : Run (publishStep verify staging) a steps t)
    (htarget : verify a.target = .raised e) (hcalls : ∀ p, Unheard (a.pc p)) :
    verify t.target = .raised e := by
  induction hrun with
  | nil => exact htarget
  | @cons a b t p steps hstep _ ih =>
      obtain ⟨-, rfl⟩ := publishStep_eq hstep
      have hsome : a.target ≠ none := by
        intro hnone
        rw [hnone, habsent] at htarget
        cases htarget
      have hown : (advance verify (staging p) a.target (a.pc p)).1 = a.target ∧
          Unheard (advance verify (staging p) a.target (a.pc p)).2 := by
        obtain ⟨d, hd⟩ := Option.ne_none_iff_exists'.1 hsome
        have hp := hcalls p
        cases hpc : a.pc p with
        | publishing attempt =>
            rw [hd]
            show (tryRename (staging p) (some d) attempt).1 = some d ∧
              Unheard (tryRename (staging p) (some d) attempt).2
            unfold tryRename
            split <;> exact ⟨rfl, trivial⟩
        | checking attempt =>
            rw [hd]
            exact ⟨rfl, trivial⟩
        | verifying attempt =>
            show (verifyTarget verify a.target attempt).1 = a.target ∧
              Unheard (verifyTarget verify a.target attempt).2
            unfold verifyTarget
            rw [htarget]
            exact ⟨rfl, trivial⟩
        | raised e => exact ⟨rfl, trivial⟩
        | quarantining attempt => rw [hpc] at hp; exact hp.elim
        | removing => rw [hpc] at hp; exact hp.elim
        | returning => rw [hpc] at hp; exact hp.elim
        | returned => rw [hpc] at hp; exact hp.elim
      refine ih (by dsimp only; rw [hown.1]; exact htarget) fun q => ?_
      dsimp only
      by_cases hq : q = p
      · subst hq
        rw [Function.update_self]
        exact hown.2
      · rw [Function.update_of_ne hq]
        exact hcalls q

end Runs

/-! ## Publication of a final cache -/

section Final

variable {β : Type} [DecidableEq P] [Nonempty P]

/-- `verify_final_cache(target, rom_sha1)`, as its caller takes it. -/
def finalVerdict (L : Library β) (romSha1 : String) (target : Option (CacheTree β)) : Verdict :=
  match verifyFinalCache L (target.getD ⟨false, false, [], []⟩) (some romSha1) with
  | .ok _ => .accepted
  | .error (.valueError _) => .refused
  | .error e => .raised e

theorem finalVerdict_absent (L : Library β) (romSha1 : String) :
    finalVerdict L romSha1 none = .refused := by
  unfold finalVerdict
  rw [Option.getD_none, verifyFinalCache_absent rfl]

/-- Publication keeps its promises in every run in which each call publishes while no other stands
between a refusing verdict and its quarantine, provided the directory found at the start is not one
whose verification raises; and in a complete run it keeps them only then. -/
theorem publish_exact (L : Library β) (romSha1 : String) (staging : P → CacheTree β)
    (hstaged : ∀ p, ∃ manifest, verifyFinalCache L (staging p) (some romSha1) = .ok manifest)
    (target : Option (CacheTree β)) :
    (∀ steps t, Run (publishStep (finalVerdict L romSha1) staging) (publishStart target) steps t →
      (∀ e, finalVerdict L romSha1 target ≠ .raised e) → (∀ x ∈ steps, RenamesAlone x) →
      Published (finalVerdict L romSha1) steps t) ∧
    (∀ steps t, Run (publishStep (finalVerdict L romSha1) staging) (publishStart target) steps t →
      (∀ p, (t.pc p).finished = true) → (Published (finalVerdict L romSha1) steps t ↔
        (∀ e, finalVerdict L romSha1 target ≠ .raised e) ∧ ∀ x ∈ steps, RenamesAlone x)) := by
  have habsent := finalVerdict_absent L romSha1
  have haccepted : ∀ p, finalVerdict L romSha1 (some (staging p)) = .accepted := by
    intro p
    obtain ⟨manifest, hok⟩ := hstaged p
    unfold finalVerdict
    rw [Option.getD_some, hok]
  have hpublished : ∀ steps t, Run (publishStep (finalVerdict L romSha1) staging)
    (publishStart target) steps t →
      (∀ e, finalVerdict L romSha1 target ≠ .raised e) → (∀ x ∈ steps, RenamesAlone x) →
      Published (finalVerdict L romSha1) steps t := by
    intro steps t hrun hraises halone
    have hstart : Orderly (finalVerdict L romSha1)
      (publishStart target : Publication (CacheTree β) P) :=
      ⟨hraises, fun _ => .inl rfl⟩
    obtain ⟨hlast, hall⟩ := orderly_run habsent haccepted hrun hstart halone
    exact hlast.published hall
  refine ⟨hpublished, fun steps t hrun hfinished =>
    ⟨fun h => ⟨?_, ?_⟩, fun h => hpublished steps t hrun h.1 h.2⟩⟩
  · intro e hraised
    have hend := stuck_run habsent hrun hraised fun _ => trivial
    rw [h.ends_verified hfinished] at hend
    cases hend
  · exact alone_of_never_evicts habsent haccepted hrun hfinished h.never_evicts

end Final

/-! ## Two publishers and a corrupt cache -/

section Example

/-- File contents by what they are. -/
inductive Content where
  | manifest
  | runtime
  | cue (name : String)
  | pcm (name : String)

def ROM_SHA1 : String := "e2929e10fccc0aa84e5776227e798abc07cedabf"

def approvedManifest : Json := .obj [("format", .str FINAL_FORMAT), ("recipe_version", .num 1),
  ("normalized_rom_sha1", .str ROM_SHA1),
  ("runtime", .obj [("file", .str RUNTIME_FILENAME), ("sha256", .str APPROVED_RUNTIME_SHA256)]),
  ("audio", .arr ( EXPECTED_AUDIO.map fun cue =>
    .obj [("file", .str ("audio/" ++ cue.1)), ("frames", .num cue.2.1),
      ("pcm_sha256", .str cue.2.2), ("sha256", .str ("the hash of " ++ cue.1))]))]

/-- The library over the approved contents. -/
def approvedLibrary : Library Content where
  sha256
    | .manifest => "the hash of manifest.json"
    | .runtime => APPROVED_RUNTIME_SHA256
    | .cue name => "the hash of " ++ name
    | .pcm name => (( EXPECTED_AUDIO.lookup name).map Prod.snd).getD ""
  length
    | .pcm name => 2 * (( EXPECTED_AUDIO.lookup name).map Prod.fst).getD 0
    | _ => 0
  loads
    | .manifest => .ok approvedManifest
    | _ => .error .unreadable
  wave
    | .cue name =>
        .ok ⟨1, 2, OUTPUT_RATE, "NONE", (( EXPECTED_AUDIO.lookup name).map Prod.fst).getD 0,
        .pcm name⟩
    | _ => .error "file does not start with RIFF id"

def approvedTree : CacheTree Content := ⟨true, false, ["audio"], [("manifest.json", .manifest),
  (RUNTIME_FILENAME, .runtime)] ++ EXPECTED_AUDIO.map fun cue => ("audio/" ++ cue.1, .cue cue.1)⟩

/-- A cache that lost its manifest. -/
def corruptTree : CacheTree Content := { approvedTree with files := approvedTree.files.tail }

abbrev TwoPublishers := Publication (CacheTree Content) Bool

def twoNext : TwoPublishers → Bool → Option TwoPublishers :=
  publishNext (finalVerdict approvedLibrary ROM_SHA1) fun _ => approvedTree

def twoStart : TwoPublishers := publishStart (some corruptTree)

/-- The run of the two publishers over a list of turns, with what was found out about it. -/
theorem two_run {labels : List Bool}
    {good : List (PublishEvent (CacheTree Content) Bool) × TwoPublishers → Bool}
    (h : (pathOf twoNext twoStart labels).any good = true) : ∃ steps t,
      Run (publishStep (finalVerdict approvedLibrary ROM_SHA1) fun _ => approvedTree)
        twoStart steps t ∧
        good (steps, t) = true := by
  obtain ⟨⟨steps, t⟩, hpath, hgood⟩ := (Option.any_eq_true _ _).1 h
  exact ⟨steps, t, Run.path hpath, hgood⟩

def Pc.quarantining? : Pc → Bool
  | .quarantining _ => true
  | _ => false

theorem not_quarantining {pc : Pc} (h : pc.quarantining? = false) : ¬ Quarantining pc := by
  rintro ⟨attempt, rfl⟩
  cases h

/-- Both calls are done, and whenever the target was absent none held a refusing verdict. -/
def repaired (r : List (PublishEvent (CacheTree Content) Bool) × TwoPublishers) : Bool :=
  r.1.all (fun x =>
    x.1.target.isSome || (!(x.1.pc false).quarantining? && !(x.1.pc true).quarantining?)) &&
    ((r.2.pc false).finished && (r.2.pc true).finished)

/-- Both calls are done, and a verified cache was quarantined after the first had returned. -/
def evicted (r : List (PublishEvent (CacheTree Content) Bool) × TwoPublishers) : Bool :=
  r.1.any (fun x => decide (x.1.pc false = .returned) && (decide (x.1.pc x.2.1 = .quarantining 0) &&
    decide (finalVerdict approvedLibrary ROM_SHA1 x.1.target = .accepted))) &&
    ((r.2.pc false).finished && (r.2.pc true).finished)

/-- The two trees, one publisher after the other, and two that both find the corrupt cache first. -/
theorem two_evaluated : finalVerdict approvedLibrary ROM_SHA1 (some approvedTree) = .accepted ∧
    finalVerdict approvedLibrary ROM_SHA1 (some corruptTree) = .refused ∧
    (pathOf twoNext twoStart [false, false, false, false, false, false, true, true, true, true,
      true]).any repaired ∧
    (pathOf twoNext twoStart [false, true, false, true, false, true, false, false, false, true,
      true, true]).any
      evicted := by
  decide +kernel

theorem approvedTree_verified :
    ∃ manifest, verifyFinalCache approvedLibrary approvedTree (some ROM_SHA1) = .ok manifest := by
  have haccepted := two_evaluated.1
  unfold finalVerdict at haccepted
  rw [Option.getD_some] at haccepted
  cases hverify : verifyFinalCache approvedLibrary approvedTree (some ROM_SHA1) with
  | ok manifest => exact ⟨manifest, rfl⟩
  | error e => cases e <;> rw [hverify] at haccepted <;> cases haccepted

/-- The first publisher moves the corrupt cache aside, and the second finds a good one. -/
theorem publish_exact_repair : ∃ steps t,
    Run (publishStep (finalVerdict approvedLibrary ROM_SHA1) fun _ => approvedTree)
      twoStart steps t ∧
      (∀ p, (t.pc p).finished = true) ∧
      Published (finalVerdict approvedLibrary ROM_SHA1) steps t := by
  obtain ⟨steps, t, hrun, hgood⟩ := two_run two_evaluated.2.2.1
  obtain ⟨halone, hfinished⟩ := Bool.and_eq_true_iff.1 hgood
  have hfinished : ∀ p, (t.pc p).finished = true :=
    Bool.forall_bool.2 (Bool.and_eq_true_iff.1 hfinished)
  have hraises : ∀ e, finalVerdict approvedLibrary ROM_SHA1 (some corruptTree) ≠ .raised e := by
    intro e
    rw [two_evaluated.2.1]
    exact nofun
  refine ⟨steps, t, hrun, hfinished,
    ((publish_exact approvedLibrary ROM_SHA1 (fun _ : Bool => approvedTree)
      (fun _ => approvedTree_verified)
      (some corruptTree)).2 steps t hrun hfinished).2 ⟨hraises, ?_⟩⟩
  intro x hx hpublishes
  have hx := List.all_eq_true.1 halone x hx
  rw [hpublishes.1, Option.isSome_none, Bool.false_or, Bool.and_eq_true_iff, Bool.not_eq_true',
    Bool.not_eq_true'] at hx
  exact Bool.forall_bool.2 ⟨not_quarantining hx.1, not_quarantining hx.2⟩

/-- The first publisher repairs the cache and has returned when the second acts on its verdict. -/
theorem stale_verdict_evicts : ∃ steps t,
    Run (publishStep (finalVerdict approvedLibrary ROM_SHA1) fun _ => approvedTree)
      twoStart steps t ∧
      (∀ p, (t.pc p).finished = true) ∧
      ∃ x ∈ steps, x.1.pc false = .returned ∧ Evicts (finalVerdict approvedLibrary ROM_SHA1) x := by
  obtain ⟨steps, t, hrun, hgood⟩ := two_run two_evaluated.2.2.2
  obtain ⟨hevicts, hfinished⟩ := Bool.and_eq_true_iff.1 hgood
  obtain ⟨x, hx, hevicts⟩ := List.any_eq_true.1 hevicts
  rw [Bool.and_eq_true_iff, Bool.and_eq_true_iff, decide_eq_true_iff, decide_eq_true_iff,
    decide_eq_true_iff] at hevicts
  exact ⟨steps, t, hrun, Bool.forall_bool.2 (Bool.and_eq_true_iff.1 hfinished), x, hx, hevicts.1,
    ⟨0, hevicts.2.1⟩, hevicts.2.2⟩

end Example

end SmwRecomp.OwnerCache
