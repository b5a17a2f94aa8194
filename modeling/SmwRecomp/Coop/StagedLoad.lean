import SmwRecomp.Coop.Runtime
import SmwRecomp.Coop.MachineCodec

/-!
# Staged snapshots are committed whole or not at all

* `Runtime.perform_cases` — what each call can do to the machines of the runtime.
* `Decoded` — the accepted preflight a staged machine comes from, and the calls behind it.
* `staged_commit` — over every order of calls: a commit delivers what the latest preflight decoded.
* `preflight_saved` — a preflight decodes what `SmwCoopSaveExtra` wrote.
-/

set_option autoImplicit false

namespace SmwRecomp.Coop

/-! ## One call -/

theorem contained_guestBytes (layout : GuestLayout) (savedVersion : UInt32) :
    Contained (guestBytes layout savedVersion) fun _ => True := by
  unfold guestBytes
  split
  · exact Or.inr ⟨_, rfl, trivial⟩
  · split
    · exact Or.inl rfl
    · exact Or.inr ⟨_, rfl, trivial⟩

theorem contained_readMachine (data : Bytes) (allocator : Allocator) :
    Contained (readMachine data allocator) fun _ => data ≠ [] := by
  rcases readMachine_cases data allocator with h | ⟨m, h, -⟩
  · exact Or.inl h
  · refine Or.inr ⟨m, h, fun hnil => ?_⟩
    rw [hnil, readMachine] at h
    cases h

/-- A preflight reads nothing outside its bytes: it refuses them, or decodes a machine with the
selected number of actors. -/
theorem contained_readStaged (selected : Nat) (layout : GuestLayout)
    (allocator : Allocator) (p : Bytes) :
    Contained (readStaged selected layout allocator p) fun r =>
    r.1.actors.length = selected ∧ r.2 ≠ 0 := by
  have hextra : sharedExtraSize = 145 := rfl
  unfold readStaged
  dsimp only
  apply Contained.refuse
  intro hsize
  apply Contained.fetchBytes (by omega)
  intro footer _
  apply Contained.refuse
  intro _
  apply Contained.fetch32 (by omega)
  intro savedVersion
  apply Contained.fetch32 (by omega)
  intro magic
  apply Contained.refuse
  intro _
  apply (contained_guestBytes layout savedVersion).bind
  intro guest _
  apply Contained.fetch32 (by omega)
  intro n
  apply Contained.refuse
  intro hroom
  apply Contained.fetch32 (by omega)
  intro combined
  apply Contained.fetch32 (by omega)
  intro renderer
  apply Contained.fetch32 (by omega)
  intro version
  apply Contained.refuse
  intro _
  apply Contained.fetchBytes (by omega)
  intro data hlen
  apply (contained_readMachine data allocator).bind
  intro m hdata
  apply Contained.refuse
  intro hram
  apply Contained.fetchBytes (by omega)
  intro wram _
  apply Contained.refuse
  intro _
  simp only [not_or, ne_eq, Classical.not_not] at hram
  refine Or.inr ⟨(m, n.toNat), rfl, hram.1, fun hzero => hdata ?_⟩
  exact List.length_eq_zero_iff.1 (hlen.trans hzero)

namespace Runtime

/-- A choice is refused, or replaces the machine. -/
theorem chooseStorage_cases (r : Runtime) (count : Nat) (allocator : Allocator) (queued : Bool) :
    r.chooseStorage count allocator queued = (false, r) ∨ (count ≤ PRODUCT_PLAYERS ∧ ∃ next,
      r.chooseStorage count allocator queued =
        (true, { r with machine := next, selectedCount := count })) := by
  have hproduct : PRODUCT_PLAYERS = 2 := rfl
  unfold chooseStorage
  split
  · exact Or.inl rfl
  · dsimp only
    generalize (if count > 1 then coopMachineInit allocator count else none) = next
    split
    · exact Or.inl rfl
    · split
      · exact Or.inl rfl
      · exact Or.inr ⟨by omega, _, rfl⟩

/-- What a preflight leaves: nothing staged when it refuses its bytes or co-op is not active, and
otherwise the machine it decoded. -/
theorem snapshotPreflight_cases (r : Runtime) (layout : GuestLayout) (allocator : Allocator)
    (data : Bytes) :
    (∃ answer, r.snapshotPreflight layout allocator data =
      .ok (answer, { r with staged := none, stagedSize := 0, stagedConsumed := false }) ∧
      (answer = true → r.active = false)) ∨
    ∃ m n, r.active = true ∧ readStaged r.selectedCount layout allocator data = .ok (m, n) ∧
      m.actors.length = r.selectedCount ∧ r.snapshotPreflight layout allocator data =
        .ok (true, { r with staged := some m, stagedSize := n, stagedConsumed := false }) := by
  unfold snapshotPreflight
  dsimp only
  split
  · rename_i hidle
    exact Or.inl ⟨_, rfl, fun _ => hidle⟩
  · rename_i hactive
    rcases contained_readStaged r.selectedCount layout allocator data with hr
      | ⟨⟨m, n⟩, hr, hactors, -⟩
    · exact Or.inl ⟨false, by rw [hr]; rfl, (fun h => nomatch h)⟩
    · exact Or.inr ⟨m, n, Bool.eq_true_of_not_eq_false hactive, hr, hactors, by rw [hr]; rfl⟩

/-- The calls that neither stage a machine nor end a load. -/
def Call.Keeps : Call → Prop
  | .enable _ | .snapshotPreflight .. | .stateLoaded => False
  | _ => True

variable {r t : Runtime} {call : Call} {answer : Bool}

/-- Such a call leaves what is staged, and marks it consumed only where it streams past it. -/
structure Kept (r : Runtime) (call : Call) (t : Runtime) : Prop where
  staged : t.staged = r.staged
  stagedSize : t.stagedSize = r.stagedSize
  consumed : t.stagedConsumed = r.stagedConsumed ∨
    (r.stagedSize ≠ 0 ∧ ∃ stream, call = .loadExtra stream)
  count : r.selectedCount ≤ PRODUCT_PLAYERS → t.selectedCount ≤ PRODUCT_PLAYERS

theorem Kept.same (call : Call) (hs : t.staged = r.staged) (hsize : t.stagedSize = r.stagedSize)
    (hc : t.stagedConsumed = r.stagedConsumed) (hcount : t.selectedCount = r.selectedCount) :
    Kept r call t :=
  ⟨hs, hsize, Or.inl hc, fun h => by rwa [hcount]⟩

theorem kept_chooseStorage (r : Runtime) (call : Call) (count : Nat) (allocator : Allocator)
    (queued : Bool) :
    Kept r call (r.chooseStorage count allocator queued).2 := by
  rcases r.chooseStorage_cases count allocator queued with h | ⟨hcount, next, h⟩
  · rw [h]
    exact .same call rfl rfl rfl rfl
  · rw [h]
    exact ⟨rfl, rfl, Or.inl rfl, fun _ => hcount⟩

theorem perform_kept (h : r.perform call = .ok (answer, t)) (hkeeps : call.Keeps) :
    Kept r call t := by
  cases call with
  | enable on => exact hkeeps.elim
  | snapshotPreflight layout allocator data => exact hkeeps.elim
  | stateLoaded => exact hkeeps.elim
  | chooseStorage count allocator queued =>
      have ht : (r.chooseStorage count allocator queued).2 = t :=
        congrArg Prod.snd (Except.ok.inj h)
      rw [← ht]
      exact kept_chooseStorage r _ count allocator queued
  | prepareStorage saved allocator queued =>
      have ht : (r.prepareStorage saved allocator queued).2 = t :=
        congrArg Prod.snd (Except.ok.inj h)
      rw [← ht, prepareStorage]
      split
      · exact .same _ rfl rfl rfl rfl
      · split
        · exact kept_chooseStorage r _ 1 allocator queued
        · split
          · exact kept_chooseStorage r _ 2 allocator queued
          · exact .same _ rfl rfl rfl rfl
  | fileEnter =>
      cases h
      unfold fileEnter
      split <;> exact .same _ rfl rfl rfl rfl
  | menuChoice x allocator queued =>
      cases h
      have hchoice :=
        kept_chooseStorage r (.menuChoice x allocator queued) (x.toNat + 1) allocator queued
      unfold menuChoice
      split
      · split
        · rename_i u hu
          rw [hu] at hchoice
          exact ⟨hchoice.staged, hchoice.stagedSize, hchoice.consumed, hchoice.count⟩
        · rename_i u hu
          rwa [hu] at hchoice
      · exact .same _ rfl rfl rfl rfl
  | resetSession allocator =>
      cases h
      unfold resetSession
      split
      · exact .same _ rfl rfl rfl rfl
      · dsimp only
        split
        · split <;> exact .same _ rfl rfl rfl rfl
        · exact .same _ rfl rfl rfl rfl
  | loadExtra stream =>
      cases h
      unfold loadExtra
      split
      · exact .same _ rfl rfl rfl rfl
      · rename_i hactive
        exact ⟨rfl, rfl, Or.inr ⟨fun hzero => hactive (Or.inr hzero), stream, rfl⟩, id⟩
  | frame move disconnected =>
      cases h
      exact .same _ rfl rfl rfl rfl

/-- The condition under which `SmwCoopStateLoaded` replaces the live machine. -/
def commits (r : Runtime) : Bool := r.active && r.stagedConsumed

theorem stateLoaded_commits (h : r.commits = true) : r.stateLoaded.machine = r.staged := by
  rw [commits, Bool.and_eq_true] at h
  unfold stateLoaded
  rw [if_pos h]

theorem stateLoaded_idle (h : r.commits = false) : r.stateLoaded.machine = r.machine := by
  have hidle : ¬ (r.active = true ∧ r.stagedConsumed = true) := by
    rw [← Bool.and_eq_true, ← commits, h]
    exact Bool.false_ne_true
  unfold stateLoaded
  rw [if_neg hidle]

/-- The answer to a call exists whatever it is. -/
theorem perform_total (r : Runtime) (call : Call) :
    ∃ answer t, r.perform call = .ok (answer, t) := by
  cases call with
  | snapshotPreflight layout allocator data =>
      rcases r.snapshotPreflight_cases layout allocator data with ⟨answer, h, -⟩
        | ⟨m, n, -, -, -, h⟩
      · exact ⟨answer, _, h⟩
      · exact ⟨true, _, h⟩
  | _ => exact ⟨_, _, rfl⟩

/-! ## Runs -/

abbrev Steps := List (Runtime × Call × Runtime)

/-- `before` ends with a preflight that accepted its bytes and decoded `m` from them, and with
`since`, in which nothing was staged or ended. -/
structure Decoded (before since : Steps) (m : CoopMachine) : Prop where
  preflight : ∃ earlier u layout allocator data n v,
    before = earlier ++ (u, .snapshotPreflight layout allocator data, v) :: since ∧
    u.snapshotPreflight layout allocator data = .ok (true, v) ∧
    readStaged u.selectedCount layout allocator data = .ok (m, n)
  latest : ∀ x ∈ since, x.2.1.Keeps

/-- The framework streamed past the staged machine. -/
def Streamed (steps : Steps) : Prop := ∃ x ∈ steps, ∃ stream, x.2.1 = .loadExtra stream

/-- Where the staged machine comes from, and what its flags record. -/
structure Traced (before : Steps) (r : Runtime) : Prop where
  count : r.selectedCount ≤ PRODUCT_PLAYERS
  consumed : r.stagedConsumed = true → r.stagedSize ≠ 0
  staged : r.stagedSize ≠ 0 → ∃ m since, Decoded before since m ∧ r.staged = some m ∧
    m.actors.length = PRODUCT_PLAYERS ∧ (r.stagedConsumed = true → Streamed since)

theorem Traced.nothing {before : Steps} (hcount : r.selectedCount ≤ PRODUCT_PLAYERS)
    (hsize : r.stagedSize = 0)
    (hconsumed : r.stagedConsumed = false) : Traced before r := by
  refine ⟨hcount, fun h => ?_, fun h => absurd hsize h⟩
  rw [hconsumed] at h
  cases h

theorem Traced.keep {before : Steps} (h : Traced before r) (hkept : Kept r call t)
    (hkeeps : call.Keeps) :
    Traced (before ++ [(r, call, t)]) t := by
  refine ⟨hkept.count h.count, fun hc => ?_, fun hsize => ?_⟩
  · rw [hkept.stagedSize]
    rcases hkept.consumed with hsame | ⟨hsize, -⟩
    · exact h.consumed (hsame ▸ hc)
    · exact hsize
  · rw [hkept.stagedSize] at hsize
    obtain ⟨m, since, ⟨⟨earlier, u, layout, allocator, data, n, v, hbefore, haccept, hread⟩,
      hlatest⟩, hstaged, hactors, hstreamed⟩ := h.staged hsize
    refine ⟨m, since ++ [(r, call, t)],
      ⟨⟨earlier, u, layout, allocator, data, n, v, ?_, haccept, hread⟩, ?_⟩,
      hkept.staged.trans hstaged, hactors, fun hc => ?_⟩
    · rw [hbefore, List.append_assoc, List.cons_append]
    · intro x hx
      rcases List.mem_append.1 hx with hx | hx
      · exact hlatest x hx
      · cases List.mem_singleton.1 hx
        exact hkeeps
    · rcases hkept.consumed with hsame | ⟨-, stream, hcall⟩
      · obtain ⟨x, hx, hload⟩ := hstreamed (hsame ▸ hc)
        exact ⟨x, List.mem_append_left _ hx, hload⟩
      · exact ⟨_, List.mem_append_right _ (List.mem_singleton_self _), stream, hcall⟩

theorem Traced.step {before : Steps} (h : Traced before r) (hcall : r.Answers call t) :
    Traced (before ++ [(r, call, t)]) t := by
  obtain ⟨answer, hcall⟩ := hcall
  cases call with
  | enable on =>
      cases hcall
      exact .nothing (Nat.zero_le _) rfl rfl
  | stateLoaded =>
      cases hcall
      refine .nothing ?_ rfl rfl
      unfold stateLoaded
      dsimp only
      split <;> exact h.count
  | snapshotPreflight layout allocator data =>
      rcases r.snapshotPreflight_cases layout allocator data with ⟨_, hp, -⟩
        | ⟨m, n, hactive, hread, hactors, hp⟩
      · rw [perform, hp] at hcall
        cases hcall
        exact .nothing h.count rfl rfl
      · have haccept := hp
        rw [perform, hp] at hcall
        cases hcall
        have hselected : r.selectedCount = PRODUCT_PLAYERS := by
          have hcount := h.count
          rw [active, Bool.and_eq_true, decide_eq_true_eq] at hactive
          unfold PRODUCT_PLAYERS at hcount ⊢
          omega
        refine ⟨h.count, (fun hc => nomatch hc),
          fun _ => ⟨m, [], ⟨⟨before, r, layout, allocator, data, n, _, rfl,
          haccept, hread⟩, (fun _ hx => nomatch hx)⟩, rfl, hactors.trans hselected,
          (fun hc => nomatch hc)⟩⟩
  | _ => exact h.keep (perform_kept hcall trivial) trivial

theorem traced {on : Bool} {steps : Steps} (h : Run Answers (enable on) steps t) : Traced steps t :=
  h.history (.nothing (Nat.zero_le _) rfl rfl) fun _ _ _ _ hu hcall => hu.step hcall

/-- Every order of calls is a run. -/
theorem answered : ∀ (calls : List Call) (r : Runtime), ∃ steps t, Run Answers r steps t ∧
    steps.map (fun x => x.2.1) = calls
  | [], r => ⟨[], r, .nil r, rfl⟩
  | call :: calls, r => by
    obtain ⟨answer, s, hcall⟩ := r.perform_total call
    obtain ⟨steps, t, hrun, hcalls⟩ := answered calls s
    exact ⟨(r, call, s) :: steps, t, .cons ⟨answer, hcall⟩ hrun, by rw [List.map_cons, hcalls]⟩

/-- A commit delivers what the latest preflight decoded. -/
theorem stateLoaded_decoded {before : Steps} (h : Traced before r) (hc : r.commits = true) :
    ∃ m since, Decoded before since m ∧ Streamed since ∧ r.stateLoaded.machine = some m ∧
      m.actors.length = r.selectedCount := by
  have hmachine := stateLoaded_commits hc
  rw [commits, Bool.and_eq_true] at hc
  obtain ⟨hactive, hconsumed⟩ := hc
  obtain ⟨m, since, hdecoded, hstaged, hactors, hstreamed⟩ := h.staged (h.consumed hconsumed)
  refine ⟨m, since, hdecoded, hstreamed hconsumed, hmachine.trans hstaged, hactors.trans ?_⟩
  have hcount := h.count
  rw [active, Bool.and_eq_true, decide_eq_true_eq] at hactive
  unfold PRODUCT_PLAYERS at hcount ⊢
  omega

/-- A preflight that a later commit goes back to is behind the end of the load before it. -/
theorem Decoded.after_load {before mid since : Steps} {m : CoopMachine} {u v : Runtime}
    (h : Decoded (before ++ (u, .stateLoaded, v) :: mid) since m) :
    ∃ w layout allocator data w', (w, Call.snapshotPreflight layout allocator data, w') ∈ mid ∧
      w.snapshotPreflight layout allocator data = .ok (true, w') := by
  obtain ⟨⟨earlier, w, layout, allocator, data, n, w', hsplit, haccept, -⟩, hlatest⟩ := h
  refine ⟨w, layout, allocator, data, w', ?_, haccept⟩
  rcases List.append_eq_append_iff.1 hsplit with ⟨rest, -, htail⟩ | ⟨rest, -, htail⟩
  · -- The load ended before the preflight.
    cases rest with
    | nil => cases htail
    | cons x rest =>
        cases htail
        exact List.mem_append_right _ (List.mem_cons_self)
  · -- The load ended behind the preflight, where nothing ends.
    cases rest with
    | nil => cases htail
    | cons x rest =>
        cases htail
        exact (hlatest (u, .stateLoaded, v) (List.mem_append_right _ List.mem_cons_self)).elim

/-- **Staged commit.**  Over every order of calls: the end of a load leaves the live machine, or it
replaces it with the machine that the latest preflight decoded, with as many actors as are selected,
after the stream has passed; between the end of a load and a later commit a preflight has accepted
bytes anew; and a preflight leaves the live machine, and when it refuses its bytes nothing staged.
-/
theorem staged_commit (on : Bool) (calls : List Call) :
    ∃ steps t, Run Answers (enable on) steps t ∧ steps.map (fun x => x.2.1) = calls ∧
      (∀ before u v after, steps = before ++ (u, .stateLoaded, v) :: after →
        (u.commits = false ∧ v.machine = u.machine) ∨
        (u.commits = true ∧ ∃ m since, Decoded before since m ∧ Streamed since ∧
          v.machine = some m ∧
          m.actors.length = u.selectedCount)) ∧
      (∀ before u v mid u' v' after,
        steps = before ++ (u, .stateLoaded, v) :: (mid ++ (u', .stateLoaded, v') :: after) →
        u'.commits = true → ∃ w layout allocator data w',
          (w, Call.snapshotPreflight layout allocator data, w') ∈ mid ∧
          w.snapshotPreflight layout allocator data = .ok (true, w')) ∧
      (∀ u layout allocator data v, (u, .snapshotPreflight layout allocator data, v) ∈ steps →
        v.machine = u.machine ∧ (u.snapshotPreflight layout allocator data = .ok (false, v) →
          v.staged = none ∧ v.stagedSize = 0 ∧ v.stagedConsumed = false)) := by
  obtain ⟨steps, t, hrun, hcalls⟩ := answered calls (enable on)
  have hload : ∀ before u v after, steps = before ++ (u, .stateLoaded, v) :: after →
      Traced before u ∧ v = u.stateLoaded := by
    intro before u v after hsteps
    rw [hsteps] at hrun
    obtain ⟨hbefore, ⟨_, hcall⟩, -⟩ := hrun.split
    cases hcall
    exact ⟨traced hbefore, rfl⟩
  refine ⟨steps, t, hrun, hcalls, fun before u v after hsteps => ?_, ?_, ?_⟩
  · obtain ⟨htraced, rfl⟩ := hload before u v after hsteps
    cases hc : u.commits with
    | false => exact Or.inl ⟨rfl, stateLoaded_idle hc⟩
    | true => exact Or.inr ⟨rfl, stateLoaded_decoded htraced hc⟩
  · intro before u v mid u' v' after hsteps hc
    obtain ⟨htraced, -⟩ := hload (before ++ (u, .stateLoaded, v) :: mid) u' v' after
      (by rw [hsteps, List.append_assoc, List.cons_append])
    obtain ⟨m, since, hdecoded, -⟩ := stateLoaded_decoded htraced hc
    exact hdecoded.after_load
  · intro u layout allocator data v hmem
    obtain ⟨before, after, hsteps⟩ := List.append_of_mem hmem
    rw [hsteps] at hrun
    obtain ⟨-, ⟨answer, hcall⟩, -⟩ := hrun.split
    rw [perform] at hcall
    rcases u.snapshotPreflight_cases layout allocator data with ⟨_, hp, -⟩ | ⟨m, n, -, -, -, hp⟩
    · rw [hp] at hcall
      cases hcall
      exact ⟨rfl, fun _ => ⟨rfl, rfl, rfl⟩⟩
    · rw [hp] at hcall
      cases hcall
      refine ⟨rfl, fun hreject => ?_⟩
      rw [hp] at hreject
      cases hreject

/-! ## What a save wrote -/

theorem discard_eq (left : Nat) (stream : Bytes) : discard left stream = stream.drop left := by
  fun_induction discard left stream with
  | case1 stream => rw [List.drop_zero]
  | case2 left stream hleft n ih =>
      have hn : n ≤ left := by
        subst n
        split <;> omega
      rw [ih, List.drop_drop, Nat.add_sub_of_le hn]

/-- The part of a snapshot in front of the roster: the guest's bytes and the shared extras, with the
tags a preflight looks for. -/
structure Prefix (layout : GuestLayout) where
  before : Bytes
  wram : Bytes
  after : Bytes
  extra : Bytes
  ram : 8 + before.length = layout.ramOffset
  wramSize : wram.length = 0x20000
  guest : 8 + before.length + wram.length + after.length = layout.guest
  extraSize : 12 + extra.length = sharedExtraSize

def Prefix.guestPart {layout : GuestLayout} (x : Prefix layout) : Bytes :=
  le32 0x52544c53 ++ (le32 layout.version ++ (x.before ++ (x.wram ++ x.after)))

def Prefix.extraPart {layout : GuestLayout} (x : Prefix layout) : Bytes :=
  le32 0x31434d53 ++ (le32 0x53574d53 ++ (le32 1 ++ x.extra))

variable {layout : GuestLayout}

theorem Prefix.guestPart_length (x : Prefix layout) : x.guestPart.length = layout.guest := by
  have hguest := x.guest
  unfold Prefix.guestPart
  simp only [List.length_append, le32_length]
  omega

theorem Prefix.extraPart_length (x : Prefix layout) : x.extraPart.length = sharedExtraSize := by
  have hextra := x.extraSize
  unfold Prefix.extraPart
  simp only [List.length_append, le32_length]
  omega

/-- A preflight decodes the image behind a prefix, with the footer `SmwCoopSaveExtra` adds. -/
theorem readStaged_image (x : Prefix layout) {m : CoopMachine} {image : Bytes} {selected : Nat}
    {allocator : Allocator} (hread : readMachine image allocator = .ok m)
    (hactors : m.actors.length = selected)
    (hsize : image.length ≤ UINT32_MAX)
    (hmouths : coopMachineMouthsValid m (fun i => x.wram.getD i 0) = true)
    (heggs : coopMachinePlacedEggsValid m (fun i => x.wram.getD i 0) = true) :
    readStaged selected layout allocator
      (x.guestPart ++
        (x.extraPart ++ (image ++ (le32 (UInt32.ofNat image.length) ++ cnre.toList)))) =
        .ok (m, image.length) := by
  have hg := x.guestPart_length
  have he := x.extraPart_length
  have hextra : sharedExtraSize = 145 := rfl
  have hram := x.ram
  have hwram := x.wramSize
  have hguest := x.guest
  have hn : (UInt32.ofNat image.length).toNat = image.length :=
    UInt32.toNat_ofNat_of_lt' (by unfold UINT32_MAX at hsize; show image.length < 2 ^ 32; omega)
  generalize hp : x.guestPart ++
    (x.extraPart ++ (image ++ (le32 (UInt32.ofNat image.length) ++ cnre.toList))) = p
  generalize htail : image ++ (le32 (UInt32.ofNat image.length) ++ cnre.toList) = tail at hp
  have hflat : p = le32 0x52544c53 ++ (le32 layout.version ++ (x.before ++ (x.wram ++
      (x.after ++ (x.extraPart ++ tail))))) := by
    rw [← hp, Prefix.guestPart]
    simp only [List.append_assoc]
  have htags : p = x.guestPart ++
    (le32 0x31434d53 ++ (le32 0x53574d53 ++ (le32 1 ++ (x.extra ++ tail)))) := by
    rw [← hp, Prefix.extraPart]
    simp only [List.append_assoc]
  rw [← htail] at hp
  have hlen : p.length = layout.guest + 145 + image.length + 8 := by
    rw [← hp]
    simp only [List.length_append, hg, he, le32_length, hextra]
    show layout.guest + (145 + (image.length + (4 + 4))) = layout.guest + 145 + image.length + 8
    omega
  have hfooter : fetchBytes p (p.length - 4) 4 = .ok cnre.toList :=
    fetchBytes_at (a := x.guestPart ++ (x.extraPart ++ (image ++ le32 (UInt32.ofNat image.length))))
      (b := [])
      (by rw [← hp]; simp only [List.append_assoc, List.append_nil])
      (by simp only [List.length_append, hg, he, le32_length, hextra]; omega) rfl
  have hversion : fetch32 p 4 = .ok layout.version :=
    fetch32_at (a := le32 0x52544c53) (by rw [hflat]) rfl
  have hmagic : fetch32 p 0 = .ok 0x52544c53 :=
    fetch32_at (a := []) (by rw [hflat, List.nil_append]) rfl
  have hcount : fetch32 p (p.length - 8) = .ok (UInt32.ofNat image.length) :=
    fetch32_at (a := x.guestPart ++ (x.extraPart ++ image)) (b := cnre.toList)
      (by rw [← hp]; simp only [List.append_assoc])
      (by simp only [List.length_append, hg, he, hextra]; omega)
  have hcombined : fetch32 p layout.guest = .ok 0x31434d53 :=
    fetch32_at (a := x.guestPart) htags hg.symm
  have hrenderer : fetch32 p (layout.guest + 4) = .ok 0x53574d53 :=
    fetch32_at (a := x.guestPart ++ le32 0x31434d53) (by rw [htags, List.append_assoc])
      (by simp only [List.length_append, hg, le32_length])
  have htag : fetch32 p (layout.guest + 8) = .ok 1 :=
    fetch32_at (a := x.guestPart ++ (le32 0x31434d53 ++ le32 0x53574d53))
      (by rw [htags, List.append_assoc, List.append_assoc])
        (by simp only [List.length_append, hg, le32_length])
  have himage : fetchBytes p (layout.guest + sharedExtraSize) image.length = .ok image :=
    fetchBytes_at (a := x.guestPart ++ x.extraPart) (by rw [← hp, List.append_assoc])
      (by simp only [List.length_append, hg, he]) rfl
  have hmemory : fetchBytes p layout.ramOffset 0x20000 = .ok x.wram :=
    fetchBytes_at (a := le32 0x52544c53 ++ (le32 layout.version ++ x.before))
      (by rw [hflat, List.append_assoc, List.append_assoc])
      (by simp only [List.length_append, le32_length]; omega) hwram.symm
  have hsame : guestBytes layout layout.version = .ok layout.guest := by
    unfold guestBytes
    rw [if_neg, if_neg (fun h => h rfl)]
    rintro ⟨hten, hnine, -⟩
    rw [hten] at hnine
    cases hnine
  unfold readStaged
  dsimp only
  rw [refuseIf_neg (by omega), ok_bind, hfooter, ok_bind, refuseIf_neg (fun h => h rfl), ok_bind,
    hversion, ok_bind, hmagic, ok_bind, refuseIf_neg (fun h => h rfl), ok_bind, hsame, ok_bind,
    hcount, ok_bind, hn, refuseIf_neg (by omega), ok_bind, hcombined, ok_bind, hrenderer, ok_bind,
    htag, ok_bind, refuseIf_neg (by decide), ok_bind, himage, ok_bind, hread, ok_bind,
    refuseIf_neg (by omega), ok_bind, hmemory, ok_bind, hmouths, heggs,
    refuseIf_neg (by decide), ok_bind]
  rfl

theorem loadExtra_staged (hactive : r.active = true) (hsize : r.stagedSize ≠ 0) (stream : Bytes) :
    r.loadExtra stream = (stream.drop (r.stagedSize + 8), { r with stagedConsumed := true }) := by
  unfold loadExtra
  rw [if_neg (not_or.2 ⟨by rw [hactive]; exact Bool.noConfusion, hsize⟩), discard_eq]

theorem machineImage_nonempty (m : CoopMachine) : (machineImage m).length ≠ 0 := by
  rw [machineImage, sealBytes_length]
  omega

/-- What `SmwCoopSaveExtra` puts on the stream for a machine that can be saved. -/
theorem saveExtra_image {m : CoopMachine} (hactive : r.active = true)
    (hmachine : r.machine = some m)
    (h : Savable m) (hc : Compact m) (hv : entitiesValid m = true)
    (hsize : coopMachineSaveSize m ≤ UINT32_MAX) :
    r.saveExtra [] = .ok (some (machineImage m ++
      (le32 (UInt32.ofNat (machineImage m).length) ++ cnre.toList))) := by
  have himage := coopMachineSaveSize_image h hc (entitiesValid_iff.1 hv).count
  have hdata : coopMachineSaveSize m ≤
    (List.replicate (coopMachineSaveSize m) (0 : UInt8)).length := by
    rw [List.length_replicate]
  have hsave := coopMachineSave_image h hc hv Allocator.granted_nil hdata
  rw [List.drop_eq_nil_of_le (by rw [List.length_replicate, himage]), List.append_nil] at hsave
  unfold saveExtra
  rw [hactive, hmachine]
  dsimp only
  rw [if_neg (not_or.2 ⟨by rw [himage]; exact machineImage_nonempty m, Nat.not_lt.2 hsize⟩)]
  unfold Allocator.request
  dsimp only
  rw [hsave, himage]

/-- **A save comes back.**  What `SmwCoopSaveExtra` wrote is accepted behind any prefix whose guest
memory the machine agrees with, streamed past to its last byte, and committed as the machine an
image keeps. -/
theorem preflight_saved (x : Prefix layout) {m : CoopMachine} {s : Runtime}
    (hsaver : s.active = true) (hmachine : s.machine = some m) (h : Savable m) (hf : FocusInRange m)
    (hc : Compact m) (hv : entitiesValid m = true) (hsize : coopMachineSaveSize m ≤ UINT32_MAX)
    (hactive : r.active = true) (hactors : m.actors.length = r.selectedCount)
    (hmouths : coopMachineMouthsValid (m.restored []) (fun i => x.wram.getD i 0) = true)
    (heggs : coopMachinePlacedEggsValid (m.restored []) (fun i => x.wram.getD i 0) = true) :
    ∃ bytes rest t, s.saveExtra [] = .ok (some bytes) ∧
      r.snapshotPreflight layout [] (x.guestPart ++ (x.extraPart ++ bytes)) = .ok (true, t) ∧
      ∀ tail, (t.loadExtra (bytes ++ tail)).1 = tail ∧
        (t.loadExtra (bytes ++ tail)).2.stateLoaded.machine = some (m.restored rest) := by
  obtain ⟨rest, -, hread⟩ := readMachine_image h hf hc hv Allocator.granted_nil
  have himage := coopMachineSaveSize_image h hc (entitiesValid_iff.1 hv).count
  have hstaged :=
    readStaged_image x hread (show (m.restored rest).actors.length = r.selectedCount from hactors)
    (by rwa [← himage]) hmouths heggs
  have hnot : ¬ r.active = false := by
    rw [hactive]
    exact Bool.noConfusion
  obtain ⟨t, ht, htactive, htstaged, htsize⟩ : ∃ t : Runtime,
      r.snapshotPreflight layout [] (x.guestPart ++ (x.extraPart ++
        (machineImage m ++ (le32 (UInt32.ofNat (machineImage m).length) ++ cnre.toList)))) =
          .ok (true, t) ∧
      t.active = true ∧ t.staged = some (m.restored rest) ∧
      t.stagedSize = (machineImage m).length := by
    refine ⟨{ r with
      staged := some (m.restored rest)
      stagedSize := (machineImage m).length
      stagedConsumed := false }, ?_, hactive, rfl, rfl⟩
    refine (if_neg hnot).trans ?_
    dsimp only
    rw [hstaged]
    rfl
  refine ⟨_, rest, t, saveExtra_image hsaver hmachine h hc hv hsize, ht, fun tail => ?_⟩
  rw [loadExtra_staged htactive (by rw [htsize]; exact machineImage_nonempty m)]
  constructor
  · refine List.drop_left' ?_
    rw [htsize]
    simp only [List.length_append, le32_length]
    rfl
  · refine (stateLoaded_commits ?_).trans htstaged
    rw [commits, Bool.and_eq_true]
    exact ⟨htactive, rfl⟩

/-- A guest that consists of its header and of cleared memory. -/
def clearedPrefix : Prefix ⟨10, 8, 8 + 0x20000⟩ where
  before := []
  wram := List.replicate 0x20000 0
  after := []
  extra := List.replicate 133 0
  ram := rfl
  wramSize := List.length_replicate
  guest := by rw [List.length_replicate]; rfl
  extraSize := by rw [List.length_replicate]; rfl

example : ∃ (r t : Runtime) (bytes : Bytes), r.machine = some pairMachine ∧
    r.snapshotPreflight ⟨10, 8, 8 + 0x20000⟩ [] bytes = .ok (true, t) := by
  have hcleared : (fun i => clearedPrefix.wram.getD i 0) = fun _ => 0 := by
    funext i
    show (List.replicate 0x20000 (0 : UInt8)).getD i 0 = 0
    rw [List.getD_eq_getElem?_getD, List.getElem?_replicate]
    split <;> rfl
  have hsize : coopMachineSaveSize pairMachine ≤ UINT32_MAX := by decide +kernel
  obtain ⟨bytes, rest, t, -, ht, -⟩ := preflight_saved clearedPrefix
    (r := ((enable true).chooseStorage 2 [] true).2)
      (s := ((enable true).chooseStorage 2 [] true).2)
    rfl rfl pairMachine_savable pairMachine_focus pairMachine_compact
      (entitiesValid_iff.2 pairMachine_valid)
    hsize rfl rfl (by rw [hcleared]; decide) (by rw [hcleared]; decide)
  exact ⟨_, t, _, rfl, ht⟩

end Runtime

end SmwRecomp.Coop
