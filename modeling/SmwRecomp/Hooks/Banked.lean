import SmwRecomp.Hooks.Overrides
import SmwRecomp.Hooks.Renderer
import SmwRecomp.Hooks.Coop

/-!
# Banks with injections

* `Mark`, `bankMarks` — the lines of a stock bank, each with the function and the block it is in.
* `Done`, `rendered`, `banked` — the bank with some of the injections in place.
* `Good` — what a stock line must be.
* `Good.seam`, `Good.anchor`, `Good.trace`, `Good.header` — every installer sees on a line with
  injections what it sees without.
-/

set_option autoImplicit false

namespace SmwRecomp.Hooks

/-! ## Banks with injections -/

/-- A stock line, and where it is. -/
structure Mark where
  line : Str
  place : Place
  func : Option Str

def marks (alnum : Char → Bool) : Place → Option Str → List Str → List Mark
  | _, _, [] => []
  | s, f, l :: ls =>
    ⟨l, nextPlace alnum s l, nextFunc f l⟩ :: marks alnum (nextPlace alnum s l) (nextFunc f l) ls

def bankMarks (alnum : Char → Bool) (bank : List Str) : List Mark := marks alnum ⟨[], []⟩ none bank

/-- Which injections are in place. -/
structure Done where
  hooked : Bool
  patched : List BlockPatch
  host : Bool
  coop : Bool

/-- What is behind a line's text. -/
def pieces (rules hooks : List Rule) (d : Done) (m : Mark) : List Str :=
  (if d.hooked then lineHooks rules hooks m.line else []) ++
    ((d.patched.filter fun p => p.at m.func m.line).map BlockPatch.snippet ++
      (if d.host then (observerAt m.place m.line).toList.map appended else []))

def core (rules hooks : List Rule) (d : Done) (m : Mark) : Str :=
  m.line.dropLast ++ ((pieces rules hooks d m).flatten ++ ['\n'])

def hostBefore (m : Mark) : List Str := (insertionsAt m.place m.line).map fun i =>
    inserted i ++ ['\n']

def coopBefore (required : Nat → Bool) (m : Mark) : List Str :=
  (coopSite required m.line).toList.map fun pc => coopHook pc ++ ['\n']

/-- The lines before a line. -/
def before (required : Nat → Bool) (d : Done) (m : Mark) : List Str :=
  (if d.host then hostBefore m else []) ++ (if d.coop then coopBefore required m else [])

def rendered (required : Nat → Bool) (rules hooks : List Rule) (d : Done) (m : Mark) : List Str :=
  before required d m ++ [core rules hooks d m]

def banked (required : Nat → Bool) (rules hooks : List Rule) (d : Done) (ms : List Mark) : Str :=
  (ms.flatMap (rendered required rules hooks d)).flatten

/-! ## Stock lines -/

/-- What the installers mark their injections with, and the mark of the legacy ones. -/
def markers : List Str :=
  ["/*WS-".toList, hostMarker, coopMarker, hookMarker] ++ blockPatches.map BlockPatch.marker

/-- A stock line: it ends with its only line break and has no marker, a function header stands on
one line which a definition's brace ends, and it is no site of two installers. -/
structure Good (required : Nat → Bool) (m : Mark) : Prop where
  proper : Proper m.line
  unmarked : ∀ p ∈ markers, ¬ p <:+: m.line
  told : Told m.line
  brace : ∀ r rest, defMatch m.line = some (r, rest) → rest = ['\n']
  lines : insertionsAt m.place m.line = [] ∨ coopSite required m.line = none
  ends : observerAt m.place m.line = none ∨ ∀ p ∈ blockPatches, p.at m.func m.line = false

theorem good_iff {required : Nat → Bool} {m : Mark} : Good required m ↔
    Proper m.line ∧ (∀ p ∈ markers, ¬ p <:+: m.line) ∧ Told m.line ∧
      ((defMatch m.line).all fun q => decide (q.2 = ['\n'])) = true ∧
      (insertionsAt m.place m.line = [] ∨ coopSite required m.line = none) ∧
      (observerAt m.place m.line = none ∨ ∀ p ∈ blockPatches, p.at m.func m.line = false) := by
  have hbrace : (∀ r rest, defMatch m.line = some (r, rest) → rest = ['\n']) ↔
      ((defMatch m.line).all fun q => decide (q.2 = ['\n'])) = true := by
    cases defMatch m.line with
    | none => simp
    | some q =>
        obtain ⟨r, rest⟩ := q
        constructor
        · exact fun h => decide_eq_true (h r rest rfl)
        · rintro h _ _ ⟨⟩
          exact of_decide_eq_true h
  constructor
  · intro h
    exact ⟨h.proper, h.unmarked, h.told, hbrace.1 h.brace, h.lines, h.ends⟩
  · rintro ⟨hproper, hunmarked, htold, hdef, hlines, hends⟩
    exact ⟨hproper, hunmarked, htold, hbrace.2 hdef, hlines, hends⟩

instance (required : Nat → Bool) (m : Mark) : Decidable (Good required m) :=
  decidable_of_iff _ good_iff.symm

/-! ## The texts that are looked for, and the injections -/

def sites : List Seam := insertions ++ observers

def traceOpen : Str := "cpu_trace_block(cpu, 0x".toList

/-- What is looked for on a line. -/
def lineTexts : List Str :=
  sites.flatMap Seam.texts ++ blockPatches.map BlockPatch.anchor ++ [traceOpen]

/-- What goes behind lines other than definitions. -/
def tails : List Str := observers.map appended ++ blockPatches.map BlockPatch.snippet

theorem lineTexts_clear : ∀ p ∈ lineTexts, Clear p ∧ p ≠ [] := by decide +kernel

/-- The texts on a line that have neither `b` nor `>`. -/
def targets : List Str :=
  ["$A7F7".toList, "goto L_E49F".toList, "goto L_A287".toList, "goto L_9E93".toList,
    "cpu_write8".toList]

theorem lineTexts_loud : ∀ p ∈ lineTexts, 'b' ∈ p ∨ '>' ∈ p ∨ p ∈ targets := by decide +kernel

theorem sites_loud : ∀ i ∈ sites, (∃ p ∈ i.texts, ',' ∈ p ∨ '>' ∈ p) ∧
    ∃ p ∈ i.texts, 'b' ∈ p ∨ '>' ∈ p := by
  decide +kernel

theorem anchors_loud : ∀ p ∈ blockPatches, ',' ∈ p.anchor ∧ 'b' ∈ p.anchor := by decide +kernel

/-- An injection behind a line: its marker, and nothing the others look for. -/
def Quiet (marker x : Str) : Prop :=
  x.take 2 = [' ', '/'] ∧ 'b' ∉ x ∧ '>' ∉ x ∧ (∀ c ∈ x, 32 ≤ c.toNat ∧ c.toNat < 127) ∧
    (∀ p ∈ targets, ¬ p <:+: x) ∧
    Bears marker x

instance (marker x : Str) : Decidable (Quiet marker x) := inferInstanceAs (Decidable (_ ∧ _))

theorem observers_quiet : ∀ o ∈ observers, Quiet hostMarker (appended o) := by decide +kernel

theorem blockPatches_quiet : ∀ p ∈ blockPatches, Quiet p.marker p.snippet := by decide +kernel

theorem tails_quiet {x : Str} (hx : x ∈ tails) : ∃ marker, Quiet marker x := by
  rcases List.mem_append.1 hx with h | h
  · obtain ⟨o, ho, rfl⟩ := List.mem_map.1 h
    exact ⟨_, observers_quiet o ho⟩
  · obtain ⟨p, hp, rfl⟩ := List.mem_map.1 h
    exact ⟨_, blockPatches_quiet p hp⟩

theorem tails_silent {p x : Str} (hp : p ∈ lineTexts) (hx : x ∈ tails) : ¬ p <:+: x := by
  obtain ⟨_, -, hb, hgt, -, htargets, -⟩ := tails_quiet hx
  intro hin
  rcases lineTexts_loud p hp with hc | hc | hc
  · exact hb (hin.subset hc)
  · exact hgt (hin.subset hc)
  · exact htargets p hc hin

/-- A line that is put in before a site. -/
theorem inserted_plain : ∀ i ∈ insertions, isHostLine (inserted i ++ ['\n']) = true ∧
    Bears hostMarker (inserted i) ∧
    'b' ∉ inserted i ∧ '>' ∉ inserted i ∧ (inserted i).take 1 = [' '] ∧
    ∀ c ∈ inserted i, 32 ≤ c.toNat ∧ c.toNat < 127 := by
  decide +kernel

/-! ## Markers -/

theorem markers_form : ∀ p ∈ markers, p ≠ [] ∧ ' ' ∉ p ∧ '\n' ∉ p ∧ '-' ∈ p := by decide +kernel

theorem markers_apart : ∀ p ∈ markers, ∀ q ∈ markers, p <:+: q → p = q := by decide +kernel

theorem override_marker : ∀ p ∈ markers, p <:+: overrideMarker → p = "/*WS-".toList := by
  decide +kernel

theorem blockPatches_nodup : (blockPatches.map BlockPatch.marker).Nodup := by decide +kernel

/-! ## When a line is a site -/

theorem traceOpen_text : traceOpen ∈ lineTexts :=
  List.mem_append_right _ (List.mem_singleton_self _)

theorem Seam.at_loud {i : Seam} (hi : i ∈ sites) {s : Place} {l : Str} (h : i.at s l = true) :
    ',' ∈ l ∨ '>' ∈ l := by
  obtain ⟨p, hp, hchar⟩ := (sites_loud i hi).1
  have hin : p <:+: l := of_decide_eq_true (List.all_eq_true.1 (Bool.and_eq_true_iff.1 h).2 p hp)
  exact hchar.imp (hin.subset ·) (hin.subset ·)

theorem Seam.at_quiet {i : Seam} (hi : i ∈ sites) {s : Place} {l : Str} (hb : 'b' ∉ l)
    (hgt : '>' ∉ l) :
    i.at s l = false := by
  obtain ⟨p, hp, hchar⟩ := (sites_loud i hi).2
  by_contra h
  rw [Bool.not_eq_false] at h
  have hin : p <:+: l := of_decide_eq_true (List.all_eq_true.1 (Bool.and_eq_true_iff.1 h).2 p hp)
  rcases hchar with hchar | hchar
  · exact hb (hin.subset hchar)
  · exact hgt (hin.subset hchar)

theorem BlockPatch.at_anchor {p : BlockPatch} {f : Option Str} {l : Str} (h : p.at f l = true) :
    p.anchor <:+: l :=
  of_decide_eq_true (Bool.and_eq_true_iff.1 (Bool.and_eq_true_iff.1 h).1).1

/-- A line without a character of each text of every site is none. -/
theorem quiet_line {l : Str} (hcomma : ',' ∉ l) (hgt : '>' ∉ l) {s : Place} {f : Option Str} :
    observerAt s l = none ∧ ∀ p ∈ blockPatches, p.at f l = false := by
  constructor
  · unfold observerAt
    rw [List.getLast?_eq_none_iff, List.filter_eq_nil_iff]
    intro i hi h
    rcases Seam.at_loud (List.mem_append_right insertions hi) h with hc | hc
    · exact hcomma hc
    · exact hgt hc
  · intro p hp
    by_contra h
    rw [Bool.not_eq_false] at h
    exact hcomma ((BlockPatch.at_anchor h).subset (anchors_loud p hp).1)

/-- Nothing goes behind such a line but a prologue. -/
theorem quiet_pieces {rules hooks : List Rule} {d : Done} {m : Mark}
    (hd : ∀ p ∈ d.patched, p ∈ blockPatches)
    (hcomma : ',' ∉ m.line) (hgt : '>' ∉ m.line) :
    pieces rules hooks d m = if d.hooked then lineHooks rules hooks m.line else [] := by
  have hfilter : d.patched.filter (fun p => p.at m.func m.line) = [] := by
    rw [List.filter_eq_nil_iff]
    intro p hp h
    rw [(quiet_line hcomma hgt (s := m.place)).2 p (hd p hp)] at h
    cases h
  unfold pieces
  rw [hfilter, (quiet_line hcomma hgt (f := m.func)).1]
  cases d.host <;> simp

/-! ## What is behind a line -/

theorem pick_symbol {rules : List Rule} {base suffix symbol : Str}
    (h : pick rules base suffix = some symbol) :
    ∃ r ∈ rules, r.symbol = symbol := by
  unfold pick at h
  obtain ⟨r, hr, rfl⟩ := Option.map_eq_some_iff.1 h
  exact ⟨r, (List.mem_filter.1 (List.mem_of_find?_eq_some hr)).1, rfl⟩

/-- An override rule is for the line. -/
def overridden (rules : List Rule) (l : Str) : Bool :=
  ((defMatch l).map Prod.fst).any fun r => (pick rules r.1 r.2).isSome

theorem lineHooks_cases {rules hooks : List Rule}
    (hsymbols : ∀ r ∈ rules ++ hooks, ∀ c ∈ r.symbol, isIdent c = true)
    {l x : Str} (hx : x ∈ lineHooks rules hooks l) :
    (overridden rules l = true ∧ ∃ s, (∀ c ∈ s, isIdent c = true) ∧ x = prologue s) ∨
      ∃ s, (∀ c ∈ s, isIdent c = true) ∧ x = hookPrologue s := by
  rw [List.forall_mem_append] at hsymbols
  unfold lineHooks at hx
  obtain ⟨r, hdef, hx⟩ := List.mem_flatMap.1 hx
  rcases List.mem_append.1 hx with h | h
  · obtain ⟨s, hpick, rfl⟩ := Option.map_eq_some_iff.1 (Option.mem_toList.1 h)
    obtain ⟨rule, hrule, rfl⟩ := pick_symbol hpick
    refine .inl ⟨?_, _, hsymbols.1 rule hrule, rfl⟩
    unfold overridden
    rw [Option.mem_toList.1 hdef, Option.any_some, hpick]
    rfl
  · obtain ⟨s, hpick, rfl⟩ := Option.map_eq_some_iff.1 (Option.mem_toList.1 h)
    obtain ⟨rule, hrule, rfl⟩ := pick_symbol hpick
    exact .inr ⟨_, hsymbols.2 rule hrule, rfl⟩

theorem lineHooks_prologue {rules hooks : List Rule}
    (hsymbols : ∀ r ∈ rules ++ hooks, ∀ c ∈ r.symbol, isIdent c = true)
    {l x : Str} (hx : x ∈ lineHooks rules hooks l) : Prologue x := by
  rcases lineHooks_cases hsymbols hx with ⟨-, s, hs, rfl⟩ | ⟨s, hs, rfl⟩
  · exact ⟨s, hs, .inl rfl⟩
  · exact ⟨s, hs, .inr rfl⟩

section Line

variable {required : Nat → Bool} {rules hooks : List Rule} {m : Mark} (hm : Good required m)
  (hsymbols : ∀ r ∈ rules ++ hooks, ∀ c ∈ r.symbol, isIdent c = true)

include hm

/-- A definition is no site. -/
theorem Good.quiet {r : Str × Str} {rest : Str} (h : defMatch m.line = some (r, rest)) :
    ',' ∉ m.line ∧ '>' ∉ m.line ∧ '\x7b' ∈ m.line := by
  obtain rfl := hm.brace r rest h
  have hnot : ∀ b ∈ [',', '>', ';'], b ∉ m.line := by
    intro b hb hmem
    have hin : b ∈ ['\n'] := (stopsAt_defMatch hb).2 _ _ _ hmem h
    rw [List.mem_singleton.1 hin] at hb
    exact absurd hb (by decide)
  refine ⟨hnot _ (by simp), hnot _ (by simp), ?_⟩
  by_cases hstart : "RecompReturn".toList <+: m.line
  · exact (hm.told hstart).resolve_left (hnot _ (by simp))
  · rw [defMatch_none hstart] at h
    cases h

theorem Good.line_eq (rules hooks : List Rule) (d : Done) : ∃ u, m.line = u ++ ['\n'] ∧
    core rules hooks d m = u ++ ((pieces rules hooks d m).flatten ++ ['\n']) ∧
    ∀ c ∈ u, isLineBreak c = false := by
  obtain ⟨u, hu, hplain⟩ := hm.proper
  refine ⟨u, hu, ?_, hplain⟩
  unfold core
  rw [hu, List.dropLast_concat]

variable {d : Done} (hd : ∀ p ∈ d.patched, p ∈ blockPatches)

include hd

/-- Prologues are the only things that go behind a definition. -/
theorem Good.defined (rules hooks : List Rule) {r : Str × Str} {rest : Str}
    (h : defMatch m.line = some (r, rest)) :
    pieces rules hooks d m = if d.hooked then lineHooks rules hooks m.line else [] := by
  obtain ⟨hcomma, hgt, -⟩ := hm.quiet h
  exact quiet_pieces hd hcomma hgt

omit hm in
theorem pieces_tails (h : defMatch m.line = none) : ∀ x ∈ pieces rules hooks d m, x ∈ tails := by
  intro x hx
  unfold pieces at hx
  rw [lineHooks_none h] at hx
  simp only [ite_self, List.nil_append, List.mem_append, List.mem_map] at hx
  rcases hx with ⟨p, hp, rfl⟩ | hx
  · exact List.mem_append_right _ (List.mem_map_of_mem (hd p (List.mem_filter.1 hp).1))
  · split at hx
    · obtain ⟨o, ho, rfl⟩ := List.mem_map.1 hx
      have hlast : observerAt m.place m.line = some o := Option.mem_toList.1 ho
      have hmem := (List.mem_filter.1 (List.mem_of_getLast? hlast)).1
      exact List.mem_append_left _ (List.mem_map_of_mem hmem)
    · cases hx

include hsymbols

theorem Good.pieces_form {x : Str} (hx : x ∈ pieces rules hooks d m) :
    (∃ r, x = ' ' :: '/' :: r) ∧ ∀ c ∈ x, isLineBreak c = false := by
  cases hdef : defMatch m.line with
  | some q =>
      obtain ⟨r, rest⟩ := q
      rw [hm.defined hd rules hooks hdef] at hx
      split at hx
      · have hprologue := lineHooks_prologue hsymbols hx
        exact ⟨hprologue.spaced, hprologue.breaks⟩
      · cases hx
  | none =>
      obtain ⟨_, htake, -, -, hprint, -⟩ := tails_quiet (pieces_tails hd hdef x hx)
      have hx : x = ' ' :: '/' :: x.drop 2 := by
        conv_lhs => rw [← List.take_append_drop 2 x, htake]
        rfl
      exact ⟨⟨_, hx⟩, fun c hc => isLineBreak_printable (hprint c hc)⟩

/-! ## What is seen on a line -/

theorem Good.core_proper : Proper (core rules hooks d m) := by
  obtain ⟨u, -, hcore, hplain⟩ := hm.line_eq rules hooks d
  refine ⟨u ++ (pieces rules hooks d m).flatten, by rw [hcore, List.append_assoc], ?_⟩
  intro c hc
  rcases List.mem_append.1 hc with h | h
  · exact hplain c h
  · obtain ⟨x, hx, hcx⟩ := List.mem_flatten.1 h
    exact (hm.pieces_form hsymbols hd hx).2 c hcx

theorem Good.infix_core {p : Str} (hp : Clear p) (hne : p ≠ []) :
    p <:+: core rules hooks d m ↔ p <:+: m.line ∨ ∃ x ∈ pieces rules hooks d m, p <:+: x := by
  obtain ⟨u, hu, hcore, -⟩ := hm.line_eq rules hooks d
  have hline : p <:+: m.line ↔ p <:+: u := by
    have hnil : p <:+: u ++ (([] : List Str).flatten ++ ['\n']) ↔ p <:+: u ∨
      ∃ x ∈ ([] : List Str), p <:+: x :=
      infix_pieces hp hne (by simp)
    rw [hu]
    simpa using hnil
  rw [hcore, hline]
  exact infix_pieces hp hne fun x hx => (hm.pieces_form hsymbols hd hx).1

/-- A text that is looked for is on the line with its injections when it was there without. -/
theorem Good.core_text (hdef : defMatch m.line = none) {p : Str} (hp : p ∈ lineTexts) :
    p <:+: core rules hooks d m ↔ p <:+: m.line := by
  obtain ⟨hclear, hne⟩ := lineTexts_clear p hp
  rw [hm.infix_core hsymbols hd hclear hne]
  constructor
  · rintro (h | ⟨x, hx, h⟩)
    · exact h
    · exact absurd h (tails_silent hp (pieces_tails hd hdef x hx))
  · exact .inl

/-- A definition has no comma and no `>`, with its prologues or without. -/
theorem Good.core_lacks {r : Str × Str} {rest : Str} (hdef : defMatch m.line = some (r, rest)) :
    ',' ∉ core rules hooks d m ∧ '>' ∉ core rules hooks d m := by
  obtain ⟨hcomma, hgt, -⟩ := hm.quiet hdef
  obtain ⟨u, hu, hcore, -⟩ := hm.line_eq rules hooks d
  have hlacks : ∀ c, isIdent c = false → c ∉ prologue [] ++ hookPrologue [] →
    c ≠ '\n' → c ∉ m.line →
      c ∉ core rules hooks d m := by
    intro c hident hempty hnl hline hc
    rw [hu] at hline
    rw [hcore, hm.defined hd rules hooks hdef] at hc
    rcases List.mem_append.1 hc with h | h
    · exact hline (List.mem_append_left _ h)
    · rcases List.mem_append.1 h with h | h
      · obtain ⟨x, hx, hcx⟩ := List.mem_flatten.1 h
        split at hx
        · exact (lineHooks_prologue hsymbols hx).lacks hident hempty hcx
        · cases hx
      · exact hnl (List.mem_singleton.1 h)
  exact ⟨hlacks ',' (by decide) (by decide +kernel) (by decide) hcomma,
    hlacks '>' (by decide) (by decide +kernel) (by decide) hgt⟩

theorem Good.seam {i : Seam} (hi : i ∈ sites) (s : Place) :
    i.at s (core rules hooks d m) = i.at s m.line := by
  cases hdef : defMatch m.line with
  | none =>
      have htext : ∀ p ∈ i.texts, decide (p <:+: core rules hooks d m) =
        decide (p <:+: m.line) := by
        intro p hp
        have hin : p ∈ lineTexts :=
          List.mem_append_left _ (List.mem_append_left _ (List.mem_flatMap.2 ⟨i, hi, hp⟩))
        exact decide_eq_decide.2 (hm.core_text hsymbols hd hdef hin)
      unfold Seam.at
      congr 1
      rw [Bool.eq_iff_iff, List.all_eq_true, List.all_eq_true]
      constructor
      · intro h p hp
        rw [← htext p hp, h p hp]
      · intro h p hp
        rw [htext p hp, h p hp]
  | some q =>
      have hnone : ∀ l : Str, ',' ∉ l → '>' ∉ l → i.at s l = false := by
        intro l hcomma hgt
        by_contra h
        rw [Bool.not_eq_false] at h
        rcases Seam.at_loud hi h with hc | hc
        · exact hcomma hc
        · exact hgt hc
      obtain ⟨hcomma, hgt, -⟩ := hm.quiet hdef
      obtain ⟨hcore, hcore'⟩ := hm.core_lacks hsymbols hd hdef
      rw [hnone _ hcore hcore', hnone _ hcomma hgt]

theorem Good.anchor {p : BlockPatch} (hp : p ∈ blockPatches) :
    p.anchor <:+: core rules hooks d m ↔ p.anchor <:+: m.line := by
  cases hdef : defMatch m.line with
  | none =>
      have hin : p.anchor ∈ lineTexts :=
        List.mem_append_left _ (List.mem_append_right _ (List.mem_map_of_mem hp))
      exact hm.core_text hsymbols hd hdef hin
  | some q =>
      obtain ⟨hcomma, -⟩ := hm.quiet hdef
      have hcore := (hm.core_lacks hsymbols hd hdef).1
      have hanchor := (anchors_loud p hp).1
      exact ⟨fun h => absurd (h.subset hanchor) hcore, fun h => absurd (h.subset hanchor) hcomma⟩

theorem Good.trace {digit : Char → Bool} {close : Str} (hspace : digit ' ' = false)
    (hnl : digit '\n' = false)
    (hclose : Clear close) :
    search (traceCall digit close) (core rules hooks d m) =
      search (traceCall digit close) m.line := by
  cases hdef : defMatch m.line with
  | none =>
      obtain ⟨u, hu, hcore, -⟩ := hm.line_eq rules hooks d
      have hform : ∀ x ∈ pieces rules hooks d m, ∃ r, x = ' ' :: '/' :: r := fun x hx =>
        (hm.pieces_form hsymbols hd hx).1
      have hsilent : ¬ traceOpen <:+: [] ++ ((pieces rules hooks d m).flatten ++ ['\n']) := by
        rw [infix_pieces (by decide) (by decide) hform]
        rintro (h | ⟨x, hx, h⟩)
        · exact absurd h (by decide)
        · exact tails_silent traceOpen_text (pieces_tails hd hdef x hx) h
      rw [hcore, hu, traceCall_tail hspace hnl hclose (tail_flatten hform) hsilent,
        traceCall_tail hspace hnl hclose (.inl rfl) (by decide)]
  | some q =>
      have hnone : ∀ l : Str, ',' ∉ l → search (traceCall digit close) l = none := by
        intro l hcomma
        exact traceCall_none fun h => hcomma (h.subset (by decide))
      obtain ⟨hcomma, -⟩ := hm.quiet hdef
      rw [hnone _ (hm.core_lacks hsymbols hd hdef).1, hnone _ hcomma]

omit hsymbols in
/-- A line with something behind its text has a character no header gets past. -/
theorem Good.busy (hne : pieces rules hooks d m ≠ []) : ∃ b ∈ [',', '>', '\x7b'], b ∈ m.line := by
  cases hdef : defMatch m.line with
  | some q =>
      obtain ⟨-, -, hbrace⟩ := hm.quiet hdef
      exact ⟨_, by simp, hbrace⟩
  | none =>
      by_contra hno
      have hcomma : ',' ∉ m.line := fun h => hno ⟨',', by simp, h⟩
      have hgt : '>' ∉ m.line := fun h => hno ⟨'>', by simp, h⟩
      apply hne
      rw [quiet_pieces hd hcomma hgt, lineHooks_none hdef, ite_self]

omit hsymbols in
/-- What a matcher that no header gets past makes of the line does not change. -/
theorem Good.header {α : Type} {f : Scan Char α} (hf : ∀ b ∈ [',', '>', '\x7b'], Inside b f) :
    (f (core rules hooks d m)).map Prod.fst = (f m.line).map Prod.fst := by
  obtain ⟨u, hu, hcore, -⟩ := hm.line_eq rules hooks d
  by_cases hne : pieces rules hooks d m = []
  · rw [hcore, hne, hu]
    rfl
  · obtain ⟨b, hb, hmem⟩ := hm.busy hd hne
    have hin : b ∈ u := by
      rw [hu] at hmem
      rcases List.mem_append.1 hmem with h | h
      · exact h
      · rw [List.mem_singleton.1 h] at hb
        exact absurd hb (by decide)
    rw [hcore, hu, hf b hb _ _ hin, hf b hb _ _ hin]
    cases f u <;> rfl

end Line

end SmwRecomp.Hooks
