import SmwRecomp.Hooks.Banked
import Mathlib.Data.List.Nodup
import Mathlib.Data.List.Perm.Basic
import Mathlib.Data.List.TakeWhile

/-!
# The order of the installers

The build runs the renderer's installer, the co-op installer and the override installer on every
bank, in this order.

* `coopApply_banked`, `rendererApply_banked`, `applyOverrides_banked` — each installer adds its own
  injections to a bank with any of the others'.
* `runs_banked` — any order puts all injections in, unless the renderer's installer comes upon an
  override.
* `installers_commute` — any order gives one text, save that one refusal; what another run of the
  first two makes of it.
-/

set_option autoImplicit false

namespace SmwRecomp.Hooks

variable {required : Nat → Bool} {rules hooks : List Rule} {alnum : Char → Bool}

/-! ## The lines before a site -/

/-- A line that was put in: it starts with a space, is no site and no header, and has a marker of
its own. -/
structure PutIn (x : Str) : Prop where
  proper : Proper x
  indented : ∃ r, x = ' ' :: r
  quiet : 'b' ∉ x ∧ '>' ∉ x

theorem putIn_inserted {i : Seam} (hi : i ∈ insertions) : PutIn (inserted i ++ ['\n']) := by
  obtain ⟨-, -, hb, hgt, htake, hprint⟩ := inserted_plain i hi
  constructor
  · exact ⟨_, rfl, fun c hc => isLineBreak_printable (hprint c hc)⟩
  · exact ⟨_, rfl⟩
  · constructor
    · simpa using hb
    · simpa using hgt

theorem putIn_coopHook (pc : Nat) : PutIn (coopHook pc ++ ['\n']) := by
  obtain ⟨hb, hgt⟩ := coopHook_plain pc
  constructor
  · exact coopHook_proper pc
  · exact ⟨_, rfl⟩
  · constructor
    · simpa using hb
    · simpa using hgt

theorem putIn_host {m : Mark} {x : Str} (hx : x ∈ hostBefore m) : PutIn x := by
  obtain ⟨i, hi, rfl⟩ := List.mem_map.1 hx
  exact putIn_inserted (List.mem_filter.1 hi).1

theorem putIn_coop {m : Mark} {x : Str} (hx : x ∈ coopBefore required m) : PutIn x := by
  obtain ⟨pc, -, rfl⟩ := List.mem_map.1 hx
  exact putIn_coopHook pc

theorem putIn_before {d : Done} {m : Mark} {x : Str} (hx : x ∈ before required d m) : PutIn x := by
  rcases List.mem_append.1 hx with h | h
  · split at h
    · exact putIn_host h
    · cases h
  · split at h
    · exact putIn_coop h
    · cases h

namespace PutIn

variable {x : Str} (hx : PutIn x)

include hx

theorem start {p : Str} {c : Char} (hc : c ≠ ' ') : ¬ c :: p <+: x := by
  obtain ⟨r, rfl⟩ := hx.indented
  exact fun h => hc (List.cons_prefix_cons.1 h).1

theorem nextFunc (cur : Option Str) : nextFunc cur x = cur := by
  have hnone : funcHeader x = none := lit_bind_none (hx.start (by decide))
  unfold Hooks.nextFunc
  rw [hnone]

theorem trace {digit : Char → Bool} {close : Str} : search (traceCall digit close) x = none :=
  traceCall_none fun h => hx.quiet.1 (h.subset (by decide))

theorem nextPlace (s : Place) : nextPlace alnum s x = s := by
  have hnone : nameMatch alnum x = none := lit_bind_none (hx.start (by decide))
  unfold Hooks.nextPlace
  rw [hnone, hx.trace]
  rfl

theorem hostLine (s : Place) : hostLine s x = [x] := by
  have hnone : ∀ i ∈ sites, i.at s x = false := fun i hi => Seam.at_quiet hi hx.quiet.1 hx.quiet.2
  have hinsert : insertionsAt s x = [] := by
    unfold insertionsAt
    rw [List.filter_eq_nil_iff]
    intro i hi
    simp [hnone i (List.mem_append_left _ hi)]
  have hobserve : observerAt s x = none := by
    unfold observerAt
    rw [List.getLast?_eq_none_iff, List.filter_eq_nil_iff]
    intro i hi
    simp [hnone i (List.mem_append_right _ hi)]
  unfold Hooks.hostLine
  rw [hinsert, hobserve]
  rfl

theorem patchLine {p : BlockPatch} (hp : p ∈ blockPatches) (cur : Option Str) :
    patchLine p cur x = [x] := by
  have hnone : p.at cur x = false := by
    by_contra h
    rw [Bool.not_eq_false] at h
    exact hx.quiet.1 ((BlockPatch.at_anchor h).subset (anchors_loud p hp).2)
  unfold Hooks.patchLine
  simp [hnone]

theorem coopLine : coopLine required x = [x] := by
  have hnone : coopSite required x = none := by
    unfold coopSite
    rw [hx.trace]
    rfl
  unfold Hooks.coopLine
  rw [hnone]

theorem defMatch : defMatch x = none := defMatch_none (hx.start (by decide))

theorem hookLine : hookLine rules hooks x = x := by
  obtain ⟨u, hu, -⟩ := hx.proper
  unfold Hooks.hookLine
  rw [lineHooks_none hx.defMatch, hu, List.dropLast_concat]
  rfl

end PutIn

/-! ## Markers -/

theorem bears_marker {marker x p : Str} (h : Bears marker x) (hmarker : marker ∈ markers)
    (hp : p ∈ markers)
    (hin : p <:+: x) : p = marker := by
  obtain ⟨-, hspace, -, hdash⟩ := markers_form p hp
  exact markers_apart p hp marker hmarker (h.in_marker hspace hdash hin)

theorem marker_line {marker x p : Str} (h : Bears marker x) (hmarker : marker ∈ markers)
    (hp : p ∈ markers)
    (hin : p <:+: x ++ ['\n']) : p = marker := by
  obtain ⟨hne, -, hnl, -⟩ := markers_form p hp
  exact bears_marker h hmarker hp ((infix_newline hne hnl).1 hin)

theorem patch_marker {p : BlockPatch} (hp : p ∈ blockPatches) : p.marker ∈ markers :=
  List.mem_append_right _ (List.mem_map_of_mem hp)

theorem patch_marker_ne :
    ∀ p ∈ blockPatches, p.marker ∉ ["/*WS-".toList, hostMarker, coopMarker, hookMarker] := by
  decide +kernel

theorem host_marker {m : Mark} {x p : Str} (hx : x ∈ hostBefore m) (hp : p ∈ markers)
    (hin : p <:+: x) : p = hostMarker := by
  obtain ⟨i, hi, rfl⟩ := List.mem_map.1 hx
  obtain ⟨-, hbears, -⟩ := inserted_plain i (List.mem_filter.1 hi).1
  exact marker_line hbears (by simp [markers]) hp hin

theorem coop_marker {m : Mark} {x p : Str} (hx : x ∈ coopBefore required m) (hp : p ∈ markers)
    (hin : p <:+: x) :
    p = coopMarker := by
  obtain ⟨pc, -, rfl⟩ := List.mem_map.1 hx
  exact marker_line (coopHook_bears pc) (by simp [markers]) hp hin

section Bank

variable (hsymbols : ∀ r ∈ rules ++ hooks, ∀ c ∈ r.symbol, isIdent c = true) {d : Done}
  (hd : ∀ p ∈ d.patched, p ∈ blockPatches)

include hsymbols hd

/-- A marker on a line is that of an injection in place. -/
theorem core_marker {m : Mark} (hm : Good required m) {p : Str} (hp : p ∈ markers)
    (hin : p <:+: core rules hooks d m) :
    (d.hooked = true ∧ (p = "/*WS-".toList → overridden rules m.line = true) ∧
      (p = hookMarker ∨ p = "/*WS-".toList)) ∨
      (∃ q ∈ d.patched, p = q.marker) ∨ d.host = true ∧ p = hostMarker := by
  obtain ⟨hne, hspace, hnl, -⟩ := markers_form p hp
  obtain ⟨x, hx, hin⟩ :=
    ((hm.infix_core hsymbols hd ⟨hnl, .inl hspace⟩ hne).1 hin).resolve_left (hm.unmarked p hp)
  unfold pieces at hx
  rcases List.mem_append.1 hx with h | h
  · split at h
    · rename_i hhooked
      rcases lineHooks_cases hsymbols h with ⟨hrule, s, hs, rfl⟩ | ⟨s, hs, rfl⟩
      · exact .inl ⟨hhooked, fun _ => hrule,
          .inr (override_marker p hp
            ((prologue_bears hs).in_marker hspace (markers_form p hp).2.2.2 hin))⟩
      · have hmine : p = hookMarker :=
          bears_marker (hookPrologue_bears hs) (by simp [markers]) hp hin
        exact .inl ⟨hhooked, fun h => absurd (hmine.symm.trans h) (by decide), .inl hmine⟩
    · cases h
  · rcases List.mem_append.1 h with h | h
    · obtain ⟨q, hq, rfl⟩ := List.mem_map.1 h
      have hq := (List.mem_filter.1 hq).1
      obtain ⟨-, -, -, -, -, hbears⟩ := blockPatches_quiet q (hd q hq)
      exact .inr (.inl ⟨q, hq, bears_marker hbears (patch_marker (hd q hq)) hp hin⟩)
    · split at h
      · rename_i hhost
        obtain ⟨o, ho, rfl⟩ := List.mem_map.1 h
        have hmem := (List.mem_filter.1 (List.mem_of_getLast? (Option.mem_toList.1 ho))).1
        obtain ⟨-, -, -, -, -, hbears⟩ := observers_quiet o hmem
        exact .inr (.inr ⟨hhost, bears_marker hbears (by simp [markers]) hp hin⟩)
      · cases h

theorem rendered_proper {m : Mark} (hm : Good required m) {x : Str}
    (hx : x ∈ rendered required rules hooks d m) :
    Proper x := by
  rcases List.mem_append.1 hx with h | h
  · exact (putIn_before h).proper
  · rw [List.mem_singleton.1 h]
    exact hm.core_proper hsymbols hd

theorem banked_proper {ms : List Mark} (hms : ∀ m ∈ ms, Good required m) :
    ∀ x ∈ ms.flatMap (rendered required rules hooks d), Proper x := by
  intro x hx
  obtain ⟨m, hm, hx⟩ := List.mem_flatMap.1 hx
  exact rendered_proper hsymbols hd (hms m hm) hx

/-! ## The co-op installer -/

theorem coop_core {m : Mark} (hm : Good required m) :
    coopLine required (core rules hooks d m) = coopBefore required m ++ [core rules hooks d m] := by
  have hsite : coopSite required (core rules hooks d m) = coopSite required m.line := by
    unfold coopSite
    rw [hm.trace hsymbols hd (by decide) (by decide) (by decide)]
  unfold coopLine coopBefore
  rw [hsite]
  cases coopSite required m.line <;> rfl

theorem coop_rendered {m : Mark} (hm : Good required m) :
    ((rendered required rules hooks d m).filter fun l => !decide (coopMarker <:+: l)).flatMap
      (coopLine required) =
      rendered required rules hooks { d with coop := true } m := by
  have hmarker : coopMarker ∈ markers := by simp [markers]
  have hcore : ¬ coopMarker <:+: core rules hooks d m := by
    intro hin
    rcases core_marker hsymbols hd hm hmarker hin with ⟨-, -, h⟩ | ⟨q, hq, h⟩ | ⟨-, h⟩
    · exact absurd h (by decide)
    · exact patch_marker_ne q (hd q hq) (by simp [← h])
    · exact absurd h (by decide)
  have hhost : ∀ x ∈ hostBefore m, ¬ coopMarker <:+: x := by
    intro x hx hin
    exact absurd (host_marker hx hmarker hin) (by decide)
  have hcoop : ∀ x ∈ coopBefore required m, coopMarker <:+: x := by
    intro x hx
    obtain ⟨pc, -, rfl⟩ := List.mem_map.1 hx
    have hmine : coopMarker <:+: coopHook pc :=
      List.infix_append' "    ".toList coopMarker (coopCall pc)
    exact hmine.trans (List.prefix_append _ _).isInfix
  have hfilter : (rendered required rules hooks d m).filter (fun l => !decide (coopMarker <:+: l)) =
      (if d.host then hostBefore m else []) ++ [core rules hooks d m] := by
    have hkept : (if d.host then hostBefore m else []).filter
      (fun l => !decide (coopMarker <:+: l)) =
        if d.host then hostBefore m else [] := by
      rw [List.filter_eq_self]
      intro x hx
      split at hx
      · simp [hhost x hx]
      · cases hx
    have hdropped : (if d.coop then coopBefore required m else []).filter
      (fun l => !decide (coopMarker <:+: l)) = [] := by
      rw [List.filter_eq_nil_iff]
      intro x hx
      split at hx
      · simp [hcoop x hx]
      · cases hx
    unfold rendered before
    rw [List.filter_append, List.filter_append, hkept, hdropped, List.append_nil]
    simp [hcore]
  have hpass : (if d.host then hostBefore m else []).flatMap (coopLine required) = if d.host
    then hostBefore m else [] := by
    have hsame : ∀ x ∈ (if d.host then hostBefore m else []), coopLine required x = [x] := by
      intro x hx
      split at hx
      · exact (putIn_host hx).coopLine
      · cases hx
    rw [List.flatMap_congr hsame, List.flatMap_singleton']
  rw [hfilter, List.flatMap_append, hpass, List.flatMap_singleton, coop_core hsymbols hd hm]
  unfold rendered before core pieces
  simp

theorem coopApply_banked {ms : List Mark} (hms : ∀ m ∈ ms, Good required m) :
    coopApply required (banked required rules hooks d ms) = banked required rules hooks
      { d with coop := true } ms := by
  unfold banked
  rw [coopApply_lines (banked_proper hsymbols hd hms), List.filter_flatMap, List.flatMap_assoc]
  congr 1
  exact List.flatMap_congr fun m hm => coop_rendered hsymbols hd (hms m hm)

/-! ## The renderer installer -/

omit hsymbols in
theorem nextFunc_core {m : Mark} (hm : Good required m) (cur : Option Str) :
    nextFunc cur (core rules hooks d m) = nextFunc cur m.line := by
  rw [nextFunc_eq, nextFunc_eq, hm.header hd fun b hb => (stopsAt_funcHeader hb).1]

theorem nextPlace_core {m : Mark} (hm : Good required m) (s : Place) :
    nextPlace alnum s (core rules hooks d m) = nextPlace alnum s m.line := by
  have htrace : search (traceCall isUpperHex [')']) (core rules hooks d m) =
    search (traceCall isUpperHex [')']) m.line :=
    hm.trace hsymbols hd (by decide) (by decide) (by decide)
  rw [nextPlace_eq, nextPlace_eq, hm.header hd fun b hb => (stopsAt_nameMatch alnum hb).1, htrace]

/-- What is behind a line once the observers are in. -/
theorem core_host {m : Mark} (hm : Good required m) (hhost : d.host = false) :
    ∃ v, (∀ c ∈ v, isLineBreak c = false) ∧ core rules hooks d m = v ++ ['\n'] ∧
      core rules hooks { d with host := true } m =
        v ++ (((observerAt m.place m.line).toList.map appended).flatten ++ ['\n']) := by
  obtain ⟨v, hv, hplain⟩ := hm.core_proper hsymbols hd
  refine ⟨v, hplain, hv, ?_⟩
  have hcore : core rules hooks d m = m.line.dropLast ++
    (pieces rules hooks d m).flatten ++ ['\n'] := by
    unfold core
    rw [List.append_assoc]
  rw [hcore] at hv
  rw [← List.append_cancel_right hv]
  unfold core pieces
  simp [hhost]

theorem hostLine_core {m : Mark} (hm : Good required m) (hhost : d.host = false) :
    hostLine m.place (core rules hooks d m) = hostBefore m ++
      [core rules hooks { d with host := true } m] := by
  have hinsert : insertionsAt m.place (core rules hooks d m) = insertionsAt m.place m.line :=
    List.filter_congr fun i hi => hm.seam hsymbols hd (List.mem_append_left _ hi) m.place
  have hobserve : observerAt m.place (core rules hooks d m) = observerAt m.place m.line := by
    unfold observerAt
    rw [List.filter_congr fun i hi => hm.seam hsymbols hd (List.mem_append_right _ hi) m.place]
  obtain ⟨v, hv, hcore, hnew⟩ := core_host hsymbols hd hm hhost
  unfold hostLine hostBefore
  rw [hinsert, hobserve, hnew, hcore, rstrip_line (by simp) (by decide) hv]
  cases observerAt m.place m.line <;> simp

/-- A pass over a bank without observers puts them in. -/
theorem hostPass (alnum : Char → Bool) {bank : List Str} (hhost : d.host = false) :
    ∀ {s : Place} {cur : Option Str},
    (∀ m ∈ marks alnum s cur bank, Good required m) →
    linePass (nextPlace alnum) hostLine s
      ((marks alnum s cur bank).flatMap (rendered required rules hooks d)) =
      (marks alnum s cur bank).flatMap (rendered required rules hooks { d with host := true }) := by
  induction bank with
  | nil => intro s cur _; rfl
  | cons l ls ih =>
      intro s cur hgood
      rw [marks, List.forall_mem_cons] at hgood
      obtain ⟨hm, hrest⟩ := hgood
      have hbefore : ∀ x ∈ before required d ⟨l, nextPlace alnum s l, nextFunc cur l⟩, PutIn x :=
        fun x hx => putIn_before hx
      have hlines : (if d.coop then coopBefore required ⟨l, nextPlace alnum s l, nextFunc cur l⟩
        else []) ++
          hostBefore ⟨l, nextPlace alnum s l, nextFunc cur l⟩ =
          before required { d with host := true } ⟨l, nextPlace alnum s l, nextFunc cur l⟩ := by
        unfold before
        rcases hm.lines with hnone | hnone
        · have hempty : hostBefore ⟨l, nextPlace alnum s l, nextFunc cur l⟩ = [] := by
            unfold hostBefore
            rw [hnone]
            rfl
          simp [hempty]
        · have hempty : coopBefore required ⟨l, nextPlace alnum s l, nextFunc cur l⟩ = [] := by
            unfold coopBefore
            rw [hnone]
            rfl
          simp [hempty]
      rw [marks, List.flatMap_cons, List.flatMap_cons, rendered, List.append_assoc, linePass_append,
        linePass_same fun x hx s => (hbefore x hx).hostLine s, foldl_same fun x hx s =>
        (hbefore x hx).nextPlace s, List.singleton_append, linePass,
          nextPlace_core hsymbols hd hm, ih hrest]
      have hcore := hostLine_core hsymbols hd hm hhost
      dsimp only at hcore ⊢
      rw [hcore, rendered, ← hlines]
      simp [before, hhost]

/-- No line that is kept starts with the renderer's marker. -/
theorem core_kept {m : Mark} (hm : Good required m) :
    isHostLine (core rules hooks d m) = false := by
  by_contra h
  rw [Bool.not_eq_false] at h
  have hmarker : hostMarker ∈ markers := by simp [markers]
  have hstart := isHostLine_prefix h
  obtain ⟨u, hu, hcore, -⟩ := hm.line_eq rules hooks d
  have htail : Tail ((pieces rules hooks d m).flatten ++ ['\n']) := tail_flatten fun x hx =>
    (hm.pieces_form hsymbols hd hx).1
  rw [hcore] at hstart
  by_cases hblank : u.dropWhile " \t".toList.contains = []
  · -- a blank line has nothing behind it
    have hpieces : pieces rules hooks d m = [] := by
      by_contra hne
      obtain ⟨b, hb, hmem⟩ := hm.busy hd hne
      have hloud : ∀ c ∈ [',', '>', '\x7b'], c ≠ '\n' ∧ " \t".toList.contains c = false := by decide
      rw [hu] at hmem
      have hin : b ∈ u := (List.mem_append.1 hmem).resolve_right fun h =>
        (hloud b hb).1 (List.mem_singleton.1 h)
      have hspace := List.dropWhile_eq_nil_iff.1 hblank b hin
      rw [(hloud b hb).2] at hspace
      cases hspace
    rw [hpieces, List.flatten_nil, List.nil_append,
      List.dropWhile_append_of_pos (List.dropWhile_eq_nil_iff.1 hblank)] at hstart
    exact absurd hstart (by decide)
  · have hdrop : (u ++ ((pieces rules hooks d m).flatten ++ ['\n'])).dropWhile
      " \t".toList.contains =
        u.dropWhile " \t".toList.contains ++ ((pieces rules hooks d m).flatten ++ ['\n']) := by
      rw [List.dropWhile_append, if_neg (by simpa using hblank)]
    have hclear : Clear hostMarker := by decide
    rw [hdrop, prefix_append_apart (hclear.apart htail)] at hstart
    refine hm.unmarked _ hmarker ?_
    rw [hu]
    exact hstart.isInfix.trans
      ((List.dropWhile_suffix _).isInfix.trans (List.prefix_append u ['\n']).isInfix)

theorem core_stripped {m : Mark} (hm : Good required m) (fuel : Nat) :
    stripInline (fuel + 1) (core rules hooks d m) =
      core rules hooks { d with host := false } m := by
  have hmarker : hostMarker ∈ markers := by simp [markers]
  have hd' : ∀ p ∈ ({ d with host := false } : Done).patched, p ∈ blockPatches := hd
  have hbare : ¬ hostMarker <:+: core rules hooks { d with host := false } m := by
    intro hin
    rcases core_marker hsymbols hd' hm hmarker hin with ⟨-, -, h⟩ | ⟨q, hq, h⟩ | ⟨h, -⟩
    · exact absurd h (by decide)
    · exact patch_marker_ne q (hd q hq) (by simp [← h])
    · cases h
  cases hhost : d.host with
  | false =>
      have hsame : ({ d with host := false } : Done) = d := by
        rw [← hhost]
      rw [hsame] at hbare ⊢
      exact stripInline_none hbare _
  | true =>
      have hsame : ({ d with host := true } : Done) = d := by
        rw [← hhost]
      obtain ⟨v, -, hcore, hnew⟩ := core_host hsymbols hd' hm rfl
      dsimp only at hnew
      rw [hsame] at hnew
      rw [hcore] at hbare ⊢
      rw [hnew]
      cases hobserve : observerAt m.place m.line with
      | none => exact stripInline_none hbare _
      | some o =>
          have ho : o ∈ observers := (List.mem_filter.1 (List.mem_of_getLast? hobserve)).1
          have hv : ¬ hostMarker <:+: v :=
            fun hin => hbare (hin.trans (List.prefix_append v ['\n']).isInfix)
          simpa using stripInline_appended ho hv fuel

theorem rendered_stripped {m : Mark} (hm : Good required m) :
    ((rendered required rules hooks d m).filter fun l => !isHostLine l).map
      (fun l => stripInline (l.length + 1) l) =
      rendered required rules hooks { d with host := false } m := by
  have hcoop : ∀ x ∈ coopBefore required m, ¬ hostMarker <:+: x := by
    intro x hx hin
    exact absurd (coop_marker hx (by simp [markers]) hin) (by decide)
  have hhost : ∀ x ∈ hostBefore m, isHostLine x = true := by
    intro x hx
    obtain ⟨i, hi, rfl⟩ := List.mem_map.1 hx
    exact (inserted_plain i (List.mem_filter.1 hi).1).1
  have hdropped : (if d.host then hostBefore m else []).filter (fun l => !isHostLine l) = [] := by
    rw [List.filter_eq_nil_iff]
    intro x hx
    split at hx
    · simp [hhost x hx]
    · cases hx
  have hkept : (if d.coop then coopBefore required m else []).filter (fun l => !isHostLine l) =
      if d.coop then coopBefore required m else [] := by
    rw [List.filter_eq_self]
    intro x hx
    split at hx
    · have hfalse : isHostLine x = false := by
        by_contra h
        rw [Bool.not_eq_false] at h
        exact hcoop x hx (( isHostLine_prefix h).isInfix.trans (List.dropWhile_suffix _).isInfix)
      simp [hfalse]
    · cases hx
  have hstrip : (if d.coop then coopBefore required m else []).map
    (fun l => stripInline (l.length + 1) l) =
      if d.coop then coopBefore required m else [] := by
    conv_rhs => rw [← List.map_id (if d.coop then coopBefore required m else [])]
    apply List.map_congr_left
    intro x hx
    split at hx
    · exact stripInline_none (hcoop x hx) _
    · cases hx
  unfold rendered before
  rw [List.filter_append, List.filter_append, hdropped, hkept, List.nil_append,
    List.map_append, hstrip]
  simp [core_kept hsymbols hd hm, core_stripped hsymbols hd hm]

theorem banked_unmarked {ms : List Mark} (hms : ∀ m ∈ ms, Good required m) {p : Str}
    (hp : p ∈ markers)
    (hhost : p ≠ hostMarker) (hcoop : p ≠ coopMarker)
    (hhook : d.hooked = true → p ≠ hookMarker ∧
      (p = "/*WS-".toList → ∀ m ∈ ms, overridden rules m.line = false))
    (hpatch : ∀ q ∈ d.patched, p ≠ q.marker) : ¬ p <:+: banked required rules hooks d ms := by
  obtain ⟨hne, -, hnl, -⟩ := markers_form p hp
  unfold banked
  rw [infix_flatten hne hnl (banked_proper hsymbols hd hms)]
  rintro ⟨x, hx, hin⟩
  obtain ⟨m, hm, hx⟩ := List.mem_flatMap.1 hx
  rcases List.mem_append.1 hx with h | h
  · rcases List.mem_append.1 h with h | h
    · split at h
      · exact hhost (host_marker h hp hin)
      · cases h
    · split at h
      · exact hcoop (coop_marker h hp hin)
      · cases h
  · rw [List.mem_singleton.1 h] at hin
    rcases core_marker hsymbols hd (hms m hm) hp hin with ⟨hhooked, hrule, h | h⟩
      | ⟨q, hq, h⟩ | ⟨-, h⟩
    · exact (hhook hhooked).1 h
    · have hfree := (hhook hhooked).2 h m hm
      rw [hrule h] at hfree
      cases hfree
    · exact hpatch q hq h
    · exact hhost h

theorem rendererApply_banked {bank : List Str} (hgood : ∀ m ∈ bankMarks alnum bank, Good required m)
    (hfree : d.hooked = true → ∀ m ∈ bankMarks alnum bank, overridden rules m.line = false) :
    rendererApply alnum (banked required rules hooks d (bankMarks alnum bank)) =
      some (banked required rules hooks { d with host := true } (bankMarks alnum bank)) := by
  have hlegacy : ¬ "/*WS-".toList <:+: banked required rules hooks d (bankMarks alnum bank) := by
    apply banked_unmarked hsymbols hd hgood (by simp [markers]) (by decide) (by decide)
    · exact fun hhooked => ⟨by decide, fun _ => hfree hhooked⟩
    · intro q hq h
      exact patch_marker_ne q (hd q hq) (by simp [← h])
  have hd' : ∀ p ∈ ({ d with host := false } : Done).patched, p ∈ blockPatches := hd
  have hstrip : rendererStrip (banked required rules hooks d (bankMarks alnum bank)) =
      banked required rules hooks { d with host := false } (bankMarks alnum bank) := by
    unfold rendererStrip banked
    rw [nlLines_flatten (banked_proper hsymbols hd hgood), List.filter_flatMap, List.map_flatMap]
    congr 1
    exact List.flatMap_congr fun m hm => rendered_stripped hsymbols hd (hgood m hm)
  have hpass := hostPass hsymbols hd' alnum rfl hgood
  unfold rendererApply
  rw [if_neg hlegacy, hstrip]
  unfold banked
  rw [splitlines_flatten (banked_proper hsymbols hd' hgood)]
  unfold bankMarks at hpass ⊢
  rw [hpass]

omit hsymbols hd in
/-- An override in place is what the renderer's installer takes for a legacy hook. -/
theorem rendererApply_overridden {ms : List Mark} (hhooked : d.hooked = true)
    {m : Mark} (hm : m ∈ ms)
    (hrule : overridden rules m.line = true) :
    rendererApply alnum (banked required rules hooks d ms) = none := by
  obtain ⟨r, hdef, hpick⟩ := (Option.any_eq_true _ _).1 hrule
  obtain ⟨s, hs⟩ := Option.isSome_iff_exists.1 hpick
  have hhook : prologue s ∈ lineHooks rules hooks m.line := by
    refine List.mem_flatMap.2 ⟨r, Option.mem_toList.2 hdef, List.mem_append_left _ ?_⟩
    rw [hs]
    exact List.mem_singleton_self _
  have hpiece : prologue s ∈ pieces rules hooks d m := by
    refine List.mem_append_left _ ?_
    rw [if_pos hhooked]
    exact hhook
  have hmark : "/*WS-".toList <:+: prologue s := List.infix_append' [' '] "/*WS-".toList _
  have hcore : prologue s <:+: core rules hooks d m :=
    (List.infix_of_mem_flatten hpiece).trans (List.infix_append' _ _ _)
  have hline : core rules hooks d m <:+: banked required rules hooks d ms :=
    List.infix_of_mem_flatten
      (List.mem_flatMap.2 ⟨m, hm, List.mem_append_right _ (List.mem_singleton_self _)⟩)
  exact if_pos (hmark.trans (hcore.trans hline))

/-! ## The override installer -/

theorem told_core {m : Mark} (hm : Good required m) : Told (core rules hooks d m) := by
  intro hstart
  obtain ⟨u, hu, hcore, -⟩ := hm.line_eq rules hooks d
  have htail : Tail ((pieces rules hooks d m).flatten ++ ['\n']) := tail_flatten fun x hx =>
    (hm.pieces_form hsymbols hd hx).1
  have hclear : Clear "RecompReturn".toList := by decide
  rw [hcore, prefix_append_apart (hclear.apart htail)] at hstart
  have hkeep : ∀ c, c ≠ '\n' → c ∈ m.line → c ∈ core rules hooks d m := by
    intro c hne hc
    rw [hu] at hc
    rw [hcore]
    exact List.mem_append_left _ ((List.mem_append.1 hc).resolve_right fun h =>
      hne (List.mem_singleton.1 h))
  have hline : "RecompReturn".toList <+: m.line := by
    rw [hu]
    exact hstart.trans (List.prefix_append u ['\n'])
  exact (hm.told hline).imp (hkeep _ (by decide)) (hkeep _ (by decide))

omit hsymbols in
theorem defMatch_core (rules hooks : List Rule) {m : Mark} (hm : Good required m) :
    (defMatch (core rules hooks d m)).map Prod.fst = (defMatch m.line).map Prod.fst := by
  refine hm.header hd fun b hb => inside_defMatch ?_
  have hsub : ∀ c ∈ [',', '>', '\x7b'], c ∈ [',', '>', ';', '\x7b'] := by decide
  exact hsub b hb

omit hsymbols in
theorem hookLine_core {m : Mark} (hm : Good required m) (hhooked : d.hooked = false) :
    hookLine rules hooks (core rules hooks d m) = core rules hooks { d with hooked := true } m := by
  have hline : lineHooks rules hooks (core rules hooks d m) = lineHooks rules hooks m.line :=
    lineHooks_congr (defMatch_core hd rules hooks hm)
  have hdrop : (core rules hooks d m).dropLast = m.line.dropLast ++
    (pieces rules hooks d m).flatten := by
    unfold core
    rw [← List.append_assoc, List.dropLast_concat]
  unfold hookLine
  rw [hline, hdrop]
  cases hdef : defMatch m.line with
  | some q =>
      have hbare := hm.defined hd rules hooks hdef
      have hhooks := hm.defined (d := { d with hooked := true }) hd rules hooks hdef
      rw [hhooked, if_neg Bool.false_ne_true] at hbare
      rw [core, hhooks, if_pos rfl, hbare]
      simp
  | none =>
      unfold core pieces
      simp [lineHooks_none hdef]

omit hsymbols in
/-- A definition has nothing behind it before its prologues. -/
theorem brace_core {m : Mark} (hm : Good required m) (hhooked : d.hooked = false)
    {r : Str × Str} {rest : Str}
    (h : defMatch (core rules hooks d m) = some (r, rest)) : rest = ['\n'] := by
  have hline := defMatch_core hd rules hooks hm
  rw [h, Option.map_some] at hline
  obtain ⟨⟨r', rest'⟩, hdef, -⟩ := Option.map_eq_some_iff.1 hline.symm
  have hpieces := hm.defined hd rules hooks hdef
  rw [hhooked, if_neg Bool.false_ne_true] at hpieces
  obtain ⟨u, hu, hcore, -⟩ := hm.line_eq rules hooks d
  have hsame : core rules hooks d m = m.line := by
    rw [hcore, hpieces, hu]
    rfl
  rw [hsame] at h
  exact hm.brace r rest h

theorem applyToText_banked {ms : List Mark} (hms : ∀ m ∈ ms, Good required m)
    (hhooked : d.hooked = false) :
    applyToText rules hooks (banked required rules hooks d ms) = banked required rules hooks
      { d with hooked := true } ms := by
  have hnot : d.hooked ≠ true := by
    rw [hhooked]
    exact Bool.false_ne_true
  have hmarker : ¬ hookMarker <:+: banked required rules hooks d ms := by
    apply banked_unmarked hsymbols hd hms (by simp [markers]) (by decide) (by decide)
    · exact fun h => absurd h hnot
    · intro q hq h
      exact patch_marker_ne q (hd q hq) (by simp [← h])
  have hlegacy : ¬ "/*WS-".toList <:+: banked required rules hooks d ms := by
    apply banked_unmarked hsymbols hd hms (by simp [markers]) (by decide) (by decide)
    · exact fun h => absurd h hnot
    · intro q hq h
      exact patch_marker_ne q (hd q hq) (by simp [← h])
  have hoverride : ¬ overrideMarker <:+: banked required rules hooks d ms := fun h =>
    hlegacy ((List.prefix_append "/*WS-".toList "OVERRIDE*/".toList).isInfix.trans h)
  have hlines : ∀ l ∈ ms.flatMap (rendered required rules hooks d), Proper l ∧ Told l := by
    intro l hl
    refine ⟨banked_proper hsymbols hd hms l hl, ?_⟩
    obtain ⟨m, hm, hl⟩ := List.mem_flatMap.1 hl
    rcases List.mem_append.1 hl with h | h
    · exact fun hstart => absurd hstart ((putIn_before h).start (by decide))
    · rw [List.mem_singleton.1 h]
      exact told_core hsymbols hd (hms m hm)
  have hdefs : ∀ l ∈ ms.flatMap (rendered required rules hooks d), ∀ r rest, defMatch l =
    some (r, rest) → rest = ['\n'] := by
    intro l hl r rest hdef
    obtain ⟨m, hm, hl⟩ := List.mem_flatMap.1 hl
    rcases List.mem_append.1 hl with h | h
    · rw [(putIn_before h).defMatch] at hdef
      cases hdef
    · rw [List.mem_singleton.1 h] at hdef
      exact brace_core hd (hms m hm) hhooked hdef
  unfold banked at hmarker hoverride ⊢
  rw [applyToText, subDefs_lines hlines hdefs hoverride hmarker (Nat.lt_succ_self _),
    List.map_flatMap]
  congr 1
  apply List.flatMap_congr
  intro m hm
  have hsame : (before required d m).map (hookLine rules hooks) = before required d m := by
    conv_rhs => rw [← List.map_id (before required d m)]
    exact List.map_congr_left fun x hx => (putIn_before hx).hookLine
  rw [rendered, List.map_append, hsame, List.map_singleton, hookLine_core hd (hms m hm) hhooked]
  rfl

theorem patchLine_core {m : Mark} (hm : Good required m) {p : BlockPatch} (hp : p ∈ blockPatches)
    (hnew : ∀ q ∈ d.patched, p.marker ≠ q.marker) :
    patchLine p m.func (core rules hooks d m) =
      [core rules hooks { d with patched := d.patched ++ [p] } m] := by
  have hmarker : ¬ p.marker <:+: core rules hooks d m := by
    intro hin
    rcases core_marker hsymbols hd hm (patch_marker hp) hin with ⟨-, -, h⟩ | ⟨q, hq, h⟩ | ⟨-, h⟩
    · exact patch_marker_ne p hp (by rcases h with h | h <;> simp [h])
    · exact hnew q hq h
    · exact patch_marker_ne p hp (by simp [h])
  have hline : ¬ p.marker <:+: m.line := hm.unmarked _ (patch_marker hp)
  have hat : p.at m.func (core rules hooks d m) = p.at m.func m.line := by
    unfold BlockPatch.at
    rw [decide_eq_decide.2 (hm.anchor hsymbols hd hp), decide_eq_false hmarker,
      decide_eq_false hline]
  obtain ⟨v, hv, hplain⟩ := hm.core_proper hsymbols hd
  unfold patchLine
  rw [hat]
  cases hsite : p.at m.func m.line with
  | false => simp [core, pieces, hsite]
  | true =>
      -- the line is no site of an observer, so the snippet comes last
      have hobserve : observerAt m.place m.line = none := by
        refine hm.ends.resolve_right fun h => ?_
        rw [h p hp] at hsite
        cases hsite
      have hcore : core rules hooks { d with patched := d.patched ++ [p] } m =
          m.line.dropLast ++ (pieces rules hooks d m).flatten ++ (p.snippet ++ ['\n']) := by
        unfold core pieces
        simp [hobserve, hsite]
      have hprefix : m.line.dropLast ++ (pieces rules hooks d m).flatten = v := by
        rw [core, ← List.append_assoc] at hv
        exact List.append_cancel_right hv
      rw [hcore, hprefix, hv, rstrip_line (by simp) (by decide) hplain]
      simp

theorem patchPass_banked {bank : List Str} {p : BlockPatch} (hp : p ∈ blockPatches)
    (hnew : ∀ q ∈ d.patched, p.marker ≠ q.marker) : ∀ {s : Place} {cur : Option Str},
    (∀ m ∈ marks alnum s cur bank, Good required m) →
    linePass nextFunc (patchLine p) cur
      ((marks alnum s cur bank).flatMap (rendered required rules hooks d)) =
      (marks alnum s cur bank).flatMap
        (rendered required rules hooks { d with patched := d.patched ++ [p] }) := by
  induction bank with
  | nil => intro s cur _; rfl
  | cons l ls ih =>
      intro s cur hgood
      rw [marks, List.forall_mem_cons] at hgood
      obtain ⟨hm, hrest⟩ := hgood
      have hbefore : ∀ x ∈ before required d ⟨l, nextPlace alnum s l, nextFunc cur l⟩, PutIn x :=
        fun x hx => putIn_before hx
      have hcore := patchLine_core hsymbols hd hm hp hnew
      rw [marks, List.flatMap_cons, List.flatMap_cons, rendered, List.append_assoc, linePass_append,
        linePass_same fun x hx s => (hbefore x hx).patchLine hp s, foldl_same fun x hx s =>
        (hbefore x hx).nextFunc s, List.singleton_append, linePass, nextFunc_core hd hm, ih hrest]
      dsimp only at hcore ⊢
      rw [hcore, rendered, List.append_assoc]
      rfl

omit hd in
theorem applyBlockPatches_banked {bank : List Str}
    (hgood : ∀ m ∈ bankMarks alnum bank, Good required m)
    (hnone : d.patched = []) :
    applyBlockPatches (banked required rules hooks d (bankMarks alnum bank)) =
      banked required rules hooks { d with patched := blockPatches } (bankMarks alnum bank) := by
  have hnodup := blockPatches_nodup
  -- the snippets that are in are those of a beginning of the list
  have hfold : ∀ todo done, done ++ todo = blockPatches →
      todo.foldl patchPass
        (banked required rules hooks { d with patched := done } (bankMarks alnum bank)) =
        banked required rules hooks { d with patched := blockPatches } (bankMarks alnum bank) := by
    intro todo
    induction todo with
    | nil =>
        intro done hall
        rw [List.append_nil] at hall
        rw [hall]
        rfl
    | cons p todo ih =>
        intro done hall
        have hp : p ∈ blockPatches := hall ▸ List.mem_append_right done List.mem_cons_self
        have hdone : ∀ q ∈ done, q ∈ blockPatches := fun q hq => hall ▸ List.mem_append_left _ hq
        have hnew : ∀ q ∈ done, p.marker ≠ q.marker := by
          intro q hq heq
          rw [← hall, List.map_append, List.map_cons] at hnodup
          exact List.disjoint_of_nodup_append hnodup (List.mem_map_of_mem hq)
            (heq ▸ List.mem_cons_self)
        have hpass : patchPass
          (banked required rules hooks { d with patched := done } (bankMarks alnum bank)) p =
            banked required rules hooks { d with patched := done ++ [p] }
              (bankMarks alnum bank) := by
          unfold banked
          rw [patchPass_lines
            (banked_proper (d := { d with patched := done }) hsymbols hdone hgood)]
          congr 1
          exact patchPass_banked (d := { d with patched := done }) hsymbols hdone hp hnew hgood
        rw [List.foldl_cons, hpass,
          ih (done ++ [p]) (by rw [List.append_assoc, List.singleton_append, hall])]
  have hstart : ({ d with patched := [] } : Done) = d := by
    rw [← hnone]
  have hrun := hfold blockPatches [] rfl
  rwa [hstart] at hrun

theorem applyOverrides_banked {bank : List Str}
    (hgood : ∀ m ∈ bankMarks alnum bank, Good required m)
    (hhooked : d.hooked = false) (hnone : d.patched = []) :
    applyOverrides rules hooks (banked required rules hooks d (bankMarks alnum bank)) =
      banked required rules hooks { d with hooked := true, patched := blockPatches }
        (bankMarks alnum bank) := by
  unfold applyOverrides
  rw [applyToText_banked hsymbols hd hgood hhooked]
  exact applyBlockPatches_banked (d := { d with hooked := true }) hsymbols hgood hnone

end Bank

/-! ## Any order -/

inductive Installer
  | overrides
  | renderer
  | coop
  deriving DecidableEq

def Installer.run (alnum : Char → Bool) (required : Nat → Bool) (rules hooks : List Rule) :
    Installer → Str → Option Str
  | .overrides, text => some (applyOverrides rules hooks text)
  | .renderer, text => rendererApply alnum text
  | .coop, text => some (coopApply required text)

def runAll (alnum : Char → Bool) (required : Nat → Bool) (rules hooks : List Rule)
    (order : List Installer) (text : Str) :
    Option Str :=
  order.foldlM (fun text i => i.run alnum required rules hooks text) text

def Done.add (d : Done) : Installer → Done
  | .overrides => { d with hooked := true, patched := blockPatches }
  | .renderer => { d with host := true }
  | .coop => { d with coop := true }

def Done.full : Done := ⟨true, blockPatches, true, true⟩

instance : RightCommutative Done.add where
  right_comm := by
    intro d i j
    cases i <;> cases j <;> rfl

/-- An override rule is for a definition of the bank. -/
def Overridden (rules : List Rule) (bank : List Str) : Prop := ∃ l ∈ bank, overridden rules l = true

instance (rules : List Rule) (bank : List Str) : Decidable (Overridden rules bank) :=
  inferInstanceAs (Decidable (∃ l ∈ bank, _))

/-- The renderer's installer is still to run when the override installer has. -/
def Late (hooked : Bool) (order : List Installer) : Prop :=
  (hooked = true ∧ .renderer ∈ order) ∨ [.overrides, .renderer].Sublist order

instance (hooked : Bool) (order : List Installer) : Decidable (Late hooked order) :=
  inferInstanceAs (Decidable (_ ∨ _))

theorem late_false {order : List Installer} :
    Late false order ↔ [.overrides, .renderer].Sublist order := by simp [Late]

theorem late_overrides {order : List Installer} : Late false (.overrides :: order) ↔
    Late true order := by
  simp [Late, List.sublist_cons_iff, or_comm]

theorem late_coop {order : List Installer} {hooked : Bool} : Late hooked (.coop :: order) ↔
    Late hooked order := by
  simp [Late, List.sublist_cons_iff]

theorem marks_line (alnum : Char → Bool) : ∀ (bank : List Str) (s : Place) (cur : Option Str),
    (marks alnum s cur bank).map Mark.line = bank
  | [], _, _ => rfl
  | l :: ls, s, cur => by rw [marks, List.map_cons, marks_line alnum ls]

theorem bankMarks_overridden {bank : List Str} :
    Overridden rules bank ↔ ∃ m ∈ bankMarks alnum bank, overridden rules m.line = true := by
  unfold Overridden
  conv_lhs => rw [← marks_line alnum bank ⟨[], []⟩ none]
  simp only [List.mem_map, exists_exists_and_eq_and]
  rfl

theorem banked_stock (rules hooks : List Rule) {bank : List Str}
    (hgood : ∀ m ∈ bankMarks alnum bank, Good required m) :
    banked required rules hooks ⟨false, [], false, false⟩ (bankMarks alnum bank) =
      bank.flatten := by
  have hlines : (bankMarks alnum bank).flatMap
    (rendered required rules hooks ⟨false, [], false, false⟩) =
      (bankMarks alnum bank).map Mark.line := by
    rw [← List.flatMap_singleton' ((bankMarks alnum bank).map Mark.line), List.flatMap_map]
    apply List.flatMap_congr
    intro m hm
    obtain ⟨u, hu, hcore, -⟩ := (hgood m hm).line_eq rules hooks ⟨false, [], false, false⟩
    have hsame : core rules hooks ⟨false, [], false, false⟩ m = m.line := by
      rw [hcore, hu]
      rfl
    rw [rendered, hsame]
    rfl
  unfold banked
  rw [hlines]
  exact congrArg List.flatten (marks_line alnum bank _ _)

section Run

variable {bank : List Str} (hgood : ∀ m ∈ bankMarks alnum bank, Good required m)
  (hsymbols : ∀ r ∈ rules ++ hooks, ∀ c ∈ r.symbol, isIdent c = true)

include hgood hsymbols

/-- One installer: it adds its injections, or it is the renderer's and there is an override. -/
theorem run_banked {d : Done} (hd : ∀ p ∈ d.patched, p ∈ blockPatches) (i : Installer)
    (hfirst : i = .overrides → d.hooked = false ∧ d.patched = []) :
    i.run alnum required rules hooks (banked required rules hooks d (bankMarks alnum bank)) =
      if Overridden rules bank ∧ d.hooked = true ∧ i = .renderer then none
      else some (banked required rules hooks (d.add i) (bankMarks alnum bank)) := by
  cases i with
  | overrides =>
      obtain ⟨hhooked, hnone⟩ := hfirst rfl
      rw [if_neg (by simp)]
      exact congrArg some (applyOverrides_banked hsymbols hd hgood hhooked hnone)
  | renderer =>
      split
      · rename_i hrefused
        obtain ⟨m, hm, hrule⟩ := bankMarks_overridden.1 hrefused.1
        exact rendererApply_overridden hrefused.2.1 hm hrule
      · rename_i hallowed
        refine rendererApply_banked hsymbols hd hgood fun hhooked m hm => ?_
        by_contra hrule
        rw [Bool.not_eq_false] at hrule
        exact hallowed ⟨bankMarks_overridden.2 ⟨m, hm, hrule⟩, hhooked, rfl⟩
  | coop =>
      rw [if_neg (by simp)]
      exact congrArg some (coopApply_banked hsymbols hd hgood)

/-- The installers one after another: all injections are in, or the renderer's came upon an
override. -/
theorem runs_banked : ∀ {order : List Installer} {d : Done}, (∀ p ∈ d.patched, p ∈ blockPatches) →
    order.Nodup →
    (.overrides ∈ order → d.hooked = false ∧ d.patched = []) →
    runAll alnum required rules hooks order (banked required rules hooks d (bankMarks alnum bank)) =
      if Overridden rules bank ∧ Late d.hooked order then none
      else some (banked required rules hooks (order.foldl Done.add d) (bankMarks alnum bank))
  | [], d, _, _, _ => by
    rw [if_neg (by simp [Late])]
    rfl
  | i :: order, d, hd, hnodup, hfirst => by
    rw [List.nodup_cons] at hnodup
    have hrun := run_banked hgood hsymbols hd i fun h => hfirst (h ▸ List.mem_cons_self)
    have hadd : ∀ p ∈ (d.add i).patched, p ∈ blockPatches := by
      cases i with
      | overrides => exact fun p hp => hp
      | renderer => exact hd
      | coop => exact hd
    have hrest : .overrides ∈ order → (d.add i).hooked = false ∧ (d.add i).patched = [] := by
      intro hmem
      cases i with
      | overrides => exact absurd hmem hnodup.1
      | renderer => exact hfirst (List.mem_cons_of_mem _ hmem)
      | coop => exact hfirst (List.mem_cons_of_mem _ hmem)
    rw [runAll, List.foldlM_cons, hrun, List.foldl_cons]
    by_cases hrefused : Overridden rules bank ∧ d.hooked = true ∧ i = .renderer
    · obtain ⟨hrule, hhooked, rfl⟩ := hrefused
      rw [if_pos ⟨hrule, hhooked, rfl⟩, if_pos ⟨hrule, .inl ⟨hhooked, List.mem_cons_self⟩⟩]
      rfl
    · rw [if_neg hrefused]
      refine (runs_banked hadd hnodup.2 hrest).trans
        (if_congr (and_congr_right fun hrule => ?_) rfl rfl)
      cases i with
      | overrides =>
          rw [(hfirst List.mem_cons_self).1, late_overrides]
          rfl
      | renderer =>
          have hhooked : d.hooked = false := by
            rw [← Bool.not_eq_true]
            exact fun h => hrefused ⟨hrule, h, rfl⟩
          have hsame : (d.add .renderer).hooked = d.hooked := rfl
          rw [hsame, hhooked, late_false, late_false, List.sublist_cons_iff]
          simp
      | coop => exact late_coop.symm

end Run

/-- In every order the installers make one text of a bank, save that the renderer's refuses what the
override installer leaves where a rule is for a definition. Another run of the co-op one leaves the
text, and one of the renderer's does where it is not refused. -/
theorem installers_commute {bank : List Str} (hgood : ∀ m ∈ bankMarks alnum bank, Good required m)
    (hsymbols : ∀ r ∈ rules ++ hooks, ∀ c ∈ r.symbol, isIdent c = true) :
    ∃ text, (∀ order : List Installer, order.Perm [.overrides, .renderer, .coop] →
        runAll alnum required rules hooks order bank.flatten =
          if Overridden rules bank ∧ [.overrides, .renderer].Sublist order then none
            else some text) ∧
      rendererApply alnum text = (if Overridden rules bank then none else some text) ∧
      coopApply required text = text := by
  have hfull : ∀ p ∈ Done.full.patched, p ∈ blockPatches := fun p hp => hp
  refine ⟨banked required rules hooks Done.full (bankMarks alnum bank), ?_, ?_, ?_⟩
  · intro order hperm
    have hnodup : order.Nodup := hperm.nodup_iff.2 (by simp)
    rw [← banked_stock rules hooks hgood,
      runs_banked hgood hsymbols (by simp) hnodup fun _ => ⟨rfl, rfl⟩,
      hperm.foldl_eq]
    exact if_congr (and_congr_right fun _ => late_false) rfl rfl
  · have hrun := run_banked hgood hsymbols hfull .renderer fun h => by cases h
    refine hrun.trans (if_congr ?_ rfl rfl)
    exact and_iff_left ⟨rfl, rfl⟩
  · exact coopApply_banked hsymbols hfull hgood

/-- Two definitions, with a block patch, a line before and an observer of the renderer's installer,
and a required site. -/
def contactBank : List Str :=
  ["RecompReturn Foo_M1X1(CpuState *cpu) \x7b\n".toList,
    "RecompReturn HandlePlayerLevelCollision_M1X1(CpuState *cpu) \x7b\n".toList,
    "    cpu_trace_block(cpu, 0x00E9FB);\n".toList, "    cpu_trace_block(cpu, 0x01A7EB);\n".toList,
    "    if (cpu->_flag_Z == 1) goto L_A7F7_M1X1; // $A7F7\n".toList,
    "    cpu_trace_block(cpu, 0x02A82E);\n".toList, "    cpu_trace_block(cpu, 0x018127);\n".toList]

def fooRule : Rule := ⟨"Foo".toList, "Bar".toList, none⟩

def collisionHook : Rule := ⟨"HandlePlayerLevelCollision".toList, "Hook".toList, none⟩

/-- Without an override all six orders make one text; with one, the three that run the renderer's
installer before it. -/
theorem installers_commute_contactBank :
    (∃ text, (∀ order : List Installer, order.Perm [.overrides, .renderer, .coop] →
        runAll (fun _ => false) (· == 0x018127) [] [collisionHook] order contactBank.flatten =
          some text) ∧
      rendererApply (fun _ => false) text = some text ∧ coopApply (· == 0x018127) text = text) ∧
    ∃ text, (∀ order : List Installer, order.Perm [.overrides, .renderer, .coop] →
        runAll (fun _ => false) (· == 0x018127) [fooRule]
          [collisionHook] order contactBank.flatten =
          if [.overrides, .renderer].Sublist order then none else some text) ∧
      rendererApply (fun _ => false) text = none ∧ coopApply (· == 0x018127) text = text := by
  have hgood : ∀ m ∈ bankMarks (fun _ => false) contactBank, Good (· == 0x018127) m := by
    decide +kernel
  have hfree : ¬ Overridden [] contactBank := by decide +kernel
  have hrule : Overridden [fooRule] contactBank := by decide +kernel
  have hfirst := @installers_commute _ [] [collisionHook] _ contactBank hgood (by decide)
  have hsecond := @installers_commute _ [fooRule] [collisionHook] _ contactBank hgood (by decide)
  simp only [hfree, false_and, if_false] at hfirst
  simp only [hrule, true_and, if_true] at hsecond
  exact ⟨hfirst, hsecond⟩

/-- Two installers whose order matters for a text. -/
def Clash (i j : Installer) (required : Nat → Bool) (rules hooks : List Rule) (text : Str) : Prop :=
  (i.run (fun _ => false) required rules hooks text).bind
    (j.run (fun _ => false) required rules hooks) ≠
    (j.run (fun _ => false) required rules hooks text).bind
      (i.run (fun _ => false) required rules hooks)

instance (i j : Installer) (required : Nat → Bool) (rules hooks : List Rule) (text : Str) :
    Decidable (Clash i j required rules hooks text) :=
  inferInstanceAs (Decidable (_ ≠ _))

/-- An override that applies leaves what the renderer's installer refuses. The order also matters
for a header on two lines, for text behind a definition's brace, for a hook or an override that is
no identifier and for a line that is a site of two installers. A form feed makes every run of the
renderer's installer add a line. -/
theorem orders_differ :
    runAll (fun _ => false) (fun _ => false) [⟨"Foo".toList, "Bar".toList, none⟩] []
      [.overrides, .renderer, .coop]
      "RecompReturn Foo_M1X1(CpuState *cpu) \x7b\n".toList = none ∧
    Clash .overrides .coop (· == 0x01) [] [⟨"Foo".toList, "Bar".toList, none⟩]
      "RecompReturn Foo_M1X1\n(CpuState *cpu) \x7b cpu_trace_block(cpu, 0x01);\n".toList ∧
    Clash .overrides .renderer (fun _ => false) []
      [⟨"GetDrawInfo".toList, "cpu_write8".toList, none⟩]
      "RecompReturn GetDrawInfo_M1X1(CpuState *cpu) \x7b 0x15c4 + (uint32)cpu->X\n".toList ∧
    Clash .overrides .coop (fun _ => false) [] [⟨"Foo".toList, "/*SMW-NATIVE-COOP*/".toList, none⟩]
      "RecompReturn Foo_M1X1(CpuState *cpu) \x7b\n".toList ∧
    Clash .overrides .coop (fun _ => false) [⟨"Foo".toList, "/*SMW-NATIVE-COOP*/".toList, none⟩] []
      "RecompReturn Foo_M1X1(CpuState *cpu) \x7b\n".toList ∧
    Clash .renderer .coop (· == 0x02a1a4) []
      [] "cpu_trace_block(cpu, 0x02A1A4); if (cpu->_flag_Z == 0)\n".toList ∧
    Clash .overrides .renderer (fun _ => false) [] []
      ("RecompReturn GetDrawInfoBoostMarioSpeed(CpuState *cpu) \x7b\n".toList ++
      "cpu_trace_block(cpu, 0x01AA41); cpu_write8(0x15c4 + (uint32)cpu->X)\n".toList) ∧
    (rendererApply (fun _ => false) "cpu_trace_block(cpu, 0x02A82E);\x0c\n".toList).bind
      (rendererApply fun _ => false) ≠
      rendererApply (fun _ => false) "cpu_trace_block(cpu, 0x02A82E);\x0c\n".toList := by
  refine ⟨?_, ?_, ?_, ?_, ?_, ?_, ?_, ?_⟩ <;> decide +kernel

end SmwRecomp.Hooks
