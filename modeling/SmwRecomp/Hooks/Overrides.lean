import SmwRecomp.Hooks.Text

/-!
# The override installer

`tools/apply_overrides.py`: prologues behind the opening brace of a function the manifest names, and
snippets at the end of lines of five functions.

* `defMatch`, `funcHeader` — `DEF_RE` and `_FUNC_HDR`.
* `subDefs`, `applyToText` — prologues; `patchPass`, `applyBlockPatches` — snippets.
* `subDefs_line` — a substitution over one line of a text; `patchPass_lines` — a pass over lines,
  whole line by line.
-/

set_option autoImplicit false

namespace SmwRecomp.Hooks

def overrideMarker : Str := "/*WS-OVERRIDE*/".toList

def hookMarker : Str := "/*SMW-HOOK*/".toList

/-- An entry of `BLOCK_PATCHES`. -/
structure BlockPatch where
  marker : Str
  funcMatch : Str
  anchor : Str
  snippet : Str

def falconAfterPhysics : BlockPatch where
  marker := "/*FALCON-AFTER-PHYSICS*/".toList
  funcMatch := "PlayerState00_00CD24_M1X1".toList
  anchor := "cpu_trace_block(cpu, 0x00CD36)".toList
  snippet :=
    " /*FALCON-AFTER-PHYSICS*/ \x7b".toList ++
    (" extern void".toList ++ (" SmwFalconAfterPhysics".toList ++
    ("(CpuState *cpu);".toList ++ " SmwFalconAfterPhysics(cpu); \x7d".toList)))

def falconBlockSweep : BlockPatch where
  marker := "/*FALCON-BLOCK-SWEEP*/".toList
  funcMatch := "RunPlayerBlockCode_00EE3A_M1X1".toList
  anchor := "cpu_trace_block(cpu, 0x00EE3A)".toList
  snippet :=
    " /*FALCON-BLOCK-SWEEP*/ \x7b".toList ++
    (" extern void".toList ++ (" SmwFalconOnPlayerBlockCode".toList ++
    ("(CpuState *cpu);".toList ++ " SmwFalconOnPlayerBlockCode(cpu); \x7d".toList)))

def falconStepCrush : BlockPatch where
  marker := "/*FALCON-STEP-CRUSH*/".toList
  funcMatch := "HandlePlayerLevelCollision_M1X1".toList
  anchor := "cpu_trace_block(cpu, 0x00E9FB)".toList
  snippet :=
    " /*FALCON-STEP-CRUSH*/ \x7b".toList ++
    (" extern void".toList ++ (" SmwFalconBeforeCrushCheck".toList ++
    ("(CpuState *cpu);".toList ++ " SmwFalconBeforeCrushCheck(cpu); \x7d".toList)))

def falconStompBounce : BlockPatch where
  marker := "/*FALCON-STOMP-BOUNCE*/".toList
  funcMatch := "BoostMarioSpeed".toList
  anchor := "cpu_trace_block(cpu, 0x01AA41)".toList
  snippet :=
    " /*FALCON-STOMP-BOUNCE*/ \x7b".toList ++
    (" extern void".toList ++ (" SmwFalconOnNativeStompBounce".toList ++
    ("(CpuState *cpu);".toList ++ " SmwFalconOnNativeStompBounce(cpu); \x7d".toList)))

def falconYoshiMount : BlockPatch where
  marker := "/*FALCON-YOSHI-MOUNT*/".toList
  funcMatch := "auto_01EC61".toList
  anchor := "cpu_trace_block(cpu, 0x01ED38)".toList
  snippet :=
    " /*FALCON-YOSHI-MOUNT*/ \x7b".toList ++
    (" extern int".toList ++ (" SmwFalconSkipYoshiMount".toList ++
    ("(CpuState *cpu);".toList ++
      (" if (SmwFalconSkipYoshiMount(cpu))".toList ++ " goto L_ED70_M1X1; \x7d".toList))))

def blockPatches : List BlockPatch :=
  [falconAfterPhysics, falconBlockSweep, falconStepCrush, falconStompBounce, falconYoshiMount]

/-! ## Headers -/

/-- `[A-Za-z_]` in front. -/
def identStart : Str → Bool
  | [] => false
  | c :: _ => !c.isDigit

/-- `_FUNC_HDR`. -/
def funcHeader : Scan Char Str := do
  lit "RecompReturn".toList
  let gap ← run isSpace
  ensure (gap ≠ [])
  let name ← run isIdent
  ensure (identStart name)
  let _ ← run isSpace
  lit ['(']
  let _ ← run isSpace
  lit "CpuState".toList
  return name

/-- `_M[01]X[01]`. -/
def variants : List Str := ["_M0X0".toList, "_M0X1".toList, "_M1X0".toList, "_M1X1".toList]

/-- `DEF_RE` up to the brace: the base name and the suffix, which is what the identifier ends with.
-/
def defHead : Scan Char (Str × Str) := do
  lit "RecompReturn".toList
  let gap ← run isSpace
  ensure (gap ≠ [])
  let name ← run isIdent
  let base := name.take (name.length - 5)
  let suffix := name.drop (name.length - 5)
  ensure (identStart base && variants.contains suffix)
  let _ ← run isSpace
  lit ['(']
  let _ ← run isSpace
  lit "CpuState".toList
  let _ ← run isSpace
  lit ['*']
  let _ ← run isSpace
  lit "cpu".toList
  let _ ← run isSpace
  lit [')']
  let _ ← run isSpace
  return (base, suffix)

/-- `DEF_RE`. -/
def defMatch : Scan Char (Str × Str) := do
  let r ← defHead
  lit ['\x7b']
  return r

/-! ## Prologues -/

/-- A line of the manifest. -/
structure Rule where
  base : Str
  symbol : Str
  variant : Option Str

def prologue (symbol : Str) : Str :=
  " /*WS-OVERRIDE*/ \x7b extern bool g_ws_active; extern RecompReturn ".toList ++ symbol ++
    "(CpuState *cpu); if (g_ws_active) return ".toList ++ symbol ++ "(cpu); \x7d".toList

def hookPrologue (symbol : Str) : Str :=
  " /*SMW-HOOK*/ \x7b extern void ".toList ++ symbol ++ "(CpuState *cpu); ".toList ++ symbol ++
    "(cpu); \x7d".toList

/-- The symbol of the first rule of the base whose variant is the suffix or left open. -/
def pick (rules : List Rule) (base suffix : Str) : Option Str :=
  ((rules.filter fun r => r.base == base).find? fun r =>
    r.variant == none || r.variant == some (suffix.drop 1)).map Rule.symbol

/-- What is put behind a definition's brace. -/
def injection (rules hooks : List Rule) (base suffix rest : Str) : Str :=
  let after := rest.take (overrideMarker.length + hookMarker.length + 4)
  (match pick rules base suffix with
    | some symbol => if overrideMarker <+: after.dropWhile isSpace then [] else prologue symbol
    | none => []) ++
  (match pick hooks base suffix with
    | some symbol => if hookMarker <:+: after then [] else hookPrologue symbol
    | none => [])

/-- `DEF_RE.sub`; the flag says that the place is the beginning of a line. -/
def subDefs (inject : Str → Str → Str → Str) : Nat → Bool → Str → Str
  | 0, _, t => t
  | _ + 1, _, [] => []
  | fuel + 1, true, c :: cs =>
    match defMatch (c :: cs) with
    | some ((base, suffix), rest) =>
      (c :: cs).take ((c :: cs).length - rest.length) ++ inject base suffix rest ++
        subDefs inject fuel false rest
    | none => c :: subDefs inject fuel (c == '\n') cs
  | fuel + 1, false, c :: cs => c :: subDefs inject fuel (c == '\n') cs

def applyToText (rules hooks : List Rule) (text : Str) : Str :=
  subDefs (injection rules hooks) (text.length + 1) true text

/-! ## Snippets -/

/-- `cur_func` behind a line. -/
def nextFunc (cur : Option Str) (line : Str) : Option Str :=
  match funcHeader line with
  | some (name, _) => some name
  | none => cur

theorem nextFunc_eq (cur : Option Str) (line : Str) :
    nextFunc cur line = ((funcHeader line).map Prod.fst <|> cur) := by
  unfold nextFunc
  cases funcHeader line <;> rfl

/-- The condition a snippet is appended on. -/
def BlockPatch.at (p : BlockPatch) (cur : Option Str) (line : Str) : Bool :=
  decide (p.anchor <:+: line) && !decide (p.marker <:+: line) && cur.any fun f =>
    f ≠ [] && decide (p.funcMatch <:+: f)

def patchLine (p : BlockPatch) (cur : Option Str) (line : Str) : List Str :=
  [if p.at cur line then rstrip ['\n'] line ++ p.snippet ++ ['\n'] else line]

/-- One round of the loop over `BLOCK_PATCHES`. -/
def patchPass (text : Str) (p : BlockPatch) : Str :=
  if p.anchor <:+: text then (linePass nextFunc (patchLine p) none (splitlines text)).flatten
    else text

def applyBlockPatches (text : Str) : Str := blockPatches.foldl patchPass text

/-- The installer on one bank. -/
def applyOverrides (rules hooks : List Rule) (text : Str) : Str :=
  applyBlockPatches (applyToText rules hooks text)

/-! ## What a header match sees -/

theorem stopsAt_funcHeader {b : Char} (hb : b ∈ [',', '>', '\x7b']) : StopsAt b funcHeader := by
  have hspace : isSpace b = false := by
    revert b
    decide
  have hident : isIdent b = false := by
    revert b
    decide
  have hlit : ∀ p ∈ ["RecompReturn".toList, ['('], "CpuState".toList], b ∉ p := by
    revert b
    decide
  unfold funcHeader
  refine (stopsAt_lit (hlit _ (by simp))).bind fun _ => ?_
  refine (stopsAt_run hspace).bind fun _ => ?_
  refine stopsAt_ensure.bind fun _ => ?_
  refine (stopsAt_run hident).bind fun _ => ?_
  refine stopsAt_ensure.bind fun _ => ?_
  refine (stopsAt_run hspace).bind fun _ => ?_
  refine (stopsAt_lit (hlit _ (by simp))).bind fun _ => ?_
  refine (stopsAt_run hspace).bind fun _ => ?_
  exact (stopsAt_lit (hlit _ (by simp))).bind fun _ => stopsAt_pure _

theorem stopsAt_defHead {b : Char} (hb : b ∈ [',', '>', ';', '\x7b']) : StopsAt b defHead := by
  have hspace : isSpace b = false := by
    revert b
    decide
  have hident : isIdent b = false := by
    revert b
    decide
  have hlit : ∀ p ∈ ["RecompReturn".toList, ['('], "CpuState".toList, ['*'], "cpu".toList, [')']],
    b ∉ p := by
    revert b
    decide
  unfold defHead
  refine (stopsAt_lit (hlit _ (by simp))).bind fun _ => ?_
  refine (stopsAt_run hspace).bind fun _ => ?_
  refine stopsAt_ensure.bind fun _ => ?_
  refine (stopsAt_run hident).bind fun _ => ?_
  refine stopsAt_ensure.bind fun _ => ?_
  refine (stopsAt_run hspace).bind fun _ => ?_
  refine (stopsAt_lit (hlit _ (by simp))).bind fun _ => ?_
  refine (stopsAt_run hspace).bind fun _ => ?_
  refine (stopsAt_lit (hlit _ (by simp))).bind fun _ => ?_
  refine (stopsAt_run hspace).bind fun _ => ?_
  refine (stopsAt_lit (hlit _ (by simp))).bind fun _ => ?_
  refine (stopsAt_run hspace).bind fun _ => ?_
  refine (stopsAt_lit (hlit _ (by simp))).bind fun _ => ?_
  refine (stopsAt_run hspace).bind fun _ => ?_
  refine (stopsAt_lit (hlit _ (by simp))).bind fun _ => ?_
  exact (stopsAt_run hspace).bind fun _ => stopsAt_pure _

theorem inside_defMatch {b : Char} (hb : b ∈ [',', '>', ';', '\x7b']) : Inside b defMatch :=
  (stopsAt_defHead hb).inside fun r => (inside_lit_one '\x7b').bind_pure r

theorem stopsAt_defMatch {b : Char} (hb : b ∈ [',', '>', ';']) : StopsAt b defMatch := by
  have hall : b ∈ [',', '>', ';', '\x7b'] := List.mem_append_left ['\x7b'] hb
  have hne : b ∉ ['\x7b'] := by
    revert b
    decide
  exact (stopsAt_defHead hall).bind fun _ => (stopsAt_lit hne).bind fun _ => stopsAt_pure _

theorem defMatch_none {l : Str} (h : ¬ "RecompReturn".toList <+: l) : defMatch l = none := by
  have hhead : defHead l = none := lit_bind_none h
  show Option.bind (defHead l) _ = none
  rw [hhead]
  rfl

/-- What a line must be for the text behind it not to matter to `DEF_RE`. -/
def Told (l : Str) : Prop := "RecompReturn".toList <+: l → ';' ∈ l ∨ '\x7b' ∈ l

instance (l : Str) : Decidable (Told l) := inferInstanceAs (Decidable (_ → _))

theorem defMatch_append {l : Str} (hl : Proper l) (htold : Told l) (y : Str) :
    defMatch (l ++ y) = (defMatch l).map fun q => (q.1, q.2 ++ y) := by
  by_cases hstart : "RecompReturn".toList <+: l
  · rcases htold hstart with hb | hb
    · exact inside_defMatch (by simp) l y hb
    · exact inside_defMatch (by simp) l y hb
  · obtain ⟨u, rfl, -⟩ := hl
    have hmiss : ¬ "RecompReturn".toList <+: u ++ ['\n'] ++ y := by
      intro hp
      rcases List.prefix_or_prefix_of_prefix hp (List.prefix_append (u ++ ['\n']) y) with h | h
      · exact hstart h
      · exact absurd (h.subset (List.mem_append_right u List.mem_cons_self)) (by decide)
    rw [defMatch_none hstart, defMatch_none hmiss]
    rfl

/-! ## Prologues, line by line -/

/-- The prologues for a definition, in a text without their markers. -/
def prologues (rules hooks : List Rule) (r : Str × Str) : List Str :=
  ((pick rules r.1 r.2).map prologue).toList ++ ((pick hooks r.1 r.2).map hookPrologue).toList

/-- The prologues that a line gets. -/
def lineHooks (rules hooks : List Rule) (l : Str) : List Str :=
  ((defMatch l).map Prod.fst).toList.flatMap (prologues rules hooks)

theorem lineHooks_none {rules hooks : List Rule} {l : Str} (h : defMatch l = none) :
    lineHooks rules hooks l = [] := by
  unfold lineHooks
  rw [h]
  rfl

theorem lineHooks_some {rules hooks : List Rule} {l : Str} {r : Str × Str} {rest : Str}
    (h : defMatch l = some (r, rest)) : lineHooks rules hooks l = prologues rules hooks r := by
  unfold lineHooks
  rw [h]
  exact List.flatMap_singleton ..

theorem lineHooks_congr {rules hooks : List Rule} {l l' : Str}
    (h : (defMatch l).map Prod.fst = (defMatch l').map Prod.fst) :
    lineHooks rules hooks l = lineHooks rules hooks l' := by
  unfold lineHooks
  rw [h]

theorem injection_eq {rules hooks : List Rule} {base suffix rest : Str}
    (hoverride : ¬ overrideMarker <:+: rest)
    (hmarker : ¬ hookMarker <:+: rest) :
    injection rules hooks base suffix rest = (prologues rules hooks (base, suffix)).flatten := by
  have hafter : ∀ n, ¬ hookMarker <:+: rest.take n :=
    fun n h => hmarker (h.trans (List.take_prefix n rest).isInfix)
  have hfront : ∀ n, ¬ overrideMarker <+: (rest.take n).dropWhile isSpace := fun n h =>
    hoverride
      (h.isInfix.trans
      ((List.dropWhile_suffix isSpace).isInfix.trans (List.take_prefix n rest).isInfix))
  unfold injection prologues
  cases pick rules base suffix <;> cases pick hooks base suffix <;> simp [hafter, hfront]

section SubDefs

variable {inject : Str → Str → Str → Str}

theorem subDefs_plain {y : Str} {fuel : Nat} : ∀ {u : Str}, '\n' ∉ u →
    subDefs inject (fuel + (u.length + 1)) false (u ++ '\n' :: y) =
      u ++ '\n' :: subDefs inject fuel true y
  | [], _ => rfl
  | c :: u, h => by
    rw [List.mem_cons, not_or] at h
    have hc : (c == '\n') = false := beq_false_of_ne (Ne.symm h.1)
    have hstep : subDefs inject (fuel + ((c :: u).length + 1)) false (c :: u ++ '\n' :: y) =
        c :: subDefs inject (fuel + (u.length + 1)) (c == '\n') (u ++ '\n' :: y) := rfl
    rw [hstep, hc, subDefs_plain h.2, List.cons_append]

theorem subDefs_none {t : Str} {fuel : Nat} (h : defMatch t = none) :
    subDefs inject fuel true t = subDefs inject fuel false t := by
  cases fuel with
  | zero => rfl
  | succ fuel =>
      cases t with
      | nil => rfl
      | cons c t =>
          rw [subDefs, h]
          rfl

theorem subDefs_some {t base suffix rest : Str} {fuel : Nat}
    (h : defMatch t = some ((base, suffix), rest)) :
    subDefs inject (fuel + 1) true t =
      t.take (t.length - rest.length) ++ inject base suffix rest ++
        subDefs inject fuel false rest := by
  cases t with
  | nil =>
      rw [defMatch_none (by decide)] at h
      cases h
  | cons c t => rw [subDefs, h]

end SubDefs

/-- A line with what is put behind the brace it ends with. -/
def hookLine (rules hooks : List Rule) (l : Str) : Str :=
  l.dropLast ++ ((lineHooks rules hooks l).flatten ++ ['\n'])

theorem subDefs_lines {rules hooks : List Rule} : ∀ {ls : List Str} {fuel : Nat},
    (∀ l ∈ ls, Proper l ∧ Told l) →
    (∀ l ∈ ls, ∀ r rest, defMatch l = some (r, rest) → rest = ['\n']) →
    ¬ overrideMarker <:+: ls.flatten → ¬ hookMarker <:+: ls.flatten → ls.flatten.length < fuel →
    subDefs (injection rules hooks) fuel true ls.flatten = (ls.map (hookLine rules hooks)).flatten
  | [], fuel, _, _, _, _, _ => by
    cases fuel <;> rfl
  | l :: ls, fuel, hlines, hdefs, hoverride, hmarker, hfuel => by
    rw [List.forall_mem_cons] at hlines hdefs
    obtain ⟨⟨⟨u, rfl, hu⟩, htold⟩, hrest⟩ := hlines
    have hnl : '\n' ∉ u := by
      intro h
      exact absurd (hu _ h) (by decide)
    have htext : ((u ++ ['\n']) :: ls).flatten = u ++ '\n' :: ls.flatten := by
      rw [List.flatten_cons, List.append_assoc, List.singleton_append]
    have hmatch := defMatch_append ⟨u, rfl, hu⟩ htold ls.flatten
    rw [List.append_assoc, List.singleton_append] at hmatch
    rw [htext] at hoverride hmarker hfuel ⊢
    rw [List.length_append, List.length_cons] at hfuel
    have htail : ls.flatten <:+: u ++ '\n' :: ls.flatten := ⟨u ++ ['\n'], [], by simp⟩
    have hoverrides : ¬ overrideMarker <:+: ls.flatten := fun h => hoverride (h.trans htail)
    have hmarkers : ¬ hookMarker <:+: ls.flatten := fun h => hmarker (h.trans htail)
    have hline : hookLine rules hooks (u ++ ['\n']) =
      u ++ ((lineHooks rules hooks (u ++ ['\n'])).flatten ++ ['\n']) := by
      rw [hookLine, List.dropLast_concat]
    rw [List.map_cons, List.flatten_cons, hline]
    cases hdef : defMatch (u ++ ['\n']) with
    | none =>
        obtain ⟨k, rfl⟩ : ∃ k, fuel = k + (u.length + 1) := ⟨fuel - (u.length + 1), by omega⟩
        rw [hdef] at hmatch
        rw [subDefs_none hmatch, subDefs_plain hnl, subDefs_lines hrest hdefs.2 hoverrides hmarkers
          (by omega), lineHooks_none hdef]
        simp
    | some r =>
        obtain ⟨⟨base, suffix⟩, rest⟩ := r
        obtain rfl := hdefs.1 _ _ hdef
        obtain ⟨k, rfl⟩ : ∃ k, fuel = k + 1 + 1 := ⟨fuel - 2, by omega⟩
        have hlength : 0 < u.length := by
          cases u with
          | nil =>
              rw [List.nil_append, defMatch_none (by decide)] at hdef
              cases hdef
          | cons c u => exact Nat.succ_pos u.length
        have hbehind : '\n' :: ls.flatten <:+: u ++ '\n' :: ls.flatten :=
          (List.suffix_append u _).isInfix
        have hplain : subDefs (injection rules hooks) (k + 1) false ('\n' :: ls.flatten) =
            '\n' :: subDefs (injection rules hooks) k true ls.flatten := rfl
        rw [hdef] at hmatch
        replace hmatch : defMatch (u ++ '\n' :: ls.flatten) =
          some ((base, suffix), '\n' :: ls.flatten) := hmatch
        rw [subDefs_some hmatch, injection_eq (fun h => hoverride (h.trans hbehind))
          (fun h => hmarker (h.trans hbehind)), hplain,
          subDefs_lines hrest hdefs.2 hoverrides hmarkers (by omega), lineHooks_some hdef]
        simp [List.append_assoc]

/-! ## What a prologue has -/

/-- A prologue of a symbol that is an identifier. -/
def Prologue (x : Str) : Prop :=
  ∃ symbol, (∀ c ∈ symbol, isIdent c = true) ∧ (x = prologue symbol ∨ x = hookPrologue symbol)

theorem Prologue.lacks {x : Str} (h : Prologue x) {c : Char} (hident : isIdent c = false)
    (hempty : c ∉ prologue [] ++ hookPrologue []) : c ∉ x := by
  obtain ⟨symbol, hsymbol, hx⟩ := h
  have hc : c ∉ symbol := by
    intro h
    rw [hsymbol c h] at hident
    cases hident
  rcases hx with rfl | rfl
  · unfold prologue at hempty ⊢
    simp only [List.mem_append, not_or] at hempty ⊢
    obtain ⟨⟨⟨⟨⟨h1, -⟩, h2⟩, -⟩, h3⟩, -⟩ := hempty
    exact ⟨⟨⟨⟨h1, hc⟩, h2⟩, hc⟩, h3⟩
  · unfold hookPrologue at hempty ⊢
    simp only [List.mem_append, not_or] at hempty ⊢
    obtain ⟨-, ⟨⟨⟨h1, -⟩, h2⟩, -⟩, h3⟩ := hempty
    exact ⟨⟨⟨⟨h1, hc⟩, h2⟩, hc⟩, h3⟩

theorem Prologue.spaced {x : Str} (h : Prologue x) : ∃ r, x = ' ' :: '/' :: r := by
  obtain ⟨symbol, -, rfl | rfl⟩ := h
  · exact ⟨_, rfl⟩
  · exact ⟨_, rfl⟩

theorem Prologue.breaks {x : Str} (h : Prologue x) : ∀ c ∈ x, isLineBreak c = false := by
  intro c hc
  by_contra hbreak
  have hall : ∀ d ∈ prologue [] ++ hookPrologue [], isLineBreak d = false := by decide +kernel
  have hbad : ∀ d, isLineBreak d = true → isIdent d = false := by
    intro d hd
    unfold isLineBreak at hd
    rw [List.contains_iff_mem] at hd
    have hident : ∀ n ∈ [0x0a, 0x0b, 0x0c, 0x0d, 0x1c, 0x1d, 0x1e, 0x85, 0x2028, 0x2029],
      isIdent (Char.ofNat n) = false := by
      decide
    have hd' := hident _ hd
    rwa [Char.ofNat_toNat] at hd'
  rw [Bool.not_eq_false] at hbreak
  refine h.lacks (hbad c hbreak) ?_ hc
  intro h
  rw [hall c h] at hbreak
  cases hbreak

section Bears

variable {symbol : Str} (hsymbol : ∀ c ∈ symbol, isIdent c = true)

include hsymbol

theorem symbol_dashless : '-' ∉ symbol := by
  intro h
  exact absurd (hsymbol _ h) (by decide)

theorem prologue_bears : Bears overrideMarker (prologue symbol) := by
  have hrest : '-' ∉ " \x7b extern bool g_ws_active; extern RecompReturn ".toList ++ (symbol ++
      ("(CpuState *cpu); if (g_ws_active) return ".toList ++
        (symbol ++ "(cpu); \x7d".toList))) := by
    simp [symbol_dashless hsymbol]
  have hcut : (prologue symbol).dropWhile (· == ' ') = overrideMarker ++
      (" \x7b extern bool g_ws_active; extern RecompReturn ".toList ++ (symbol ++
        ("(CpuState *cpu); if (g_ws_active) return ".toList ++
          (symbol ++ "(cpu); \x7d".toList)))) := by
    unfold prologue
    simp only [List.append_assoc]
    rfl
  unfold Bears
  rw [hcut, List.drop_left]
  exact ⟨(List.prefix_append_right_inj overrideMarker).2 ⟨_, rfl⟩, hrest⟩

theorem hookPrologue_bears : Bears hookMarker (hookPrologue symbol) := by
  have hrest : '-' ∉ " \x7b extern void ".toList ++
    (symbol ++ ("(CpuState *cpu); ".toList ++ (symbol ++ "(cpu); \x7d".toList))) := by
    simp [symbol_dashless hsymbol]
  have hcut : (hookPrologue symbol).dropWhile (· == ' ') = hookMarker ++
      (" \x7b extern void ".toList ++
        (symbol ++ ("(CpuState *cpu); ".toList ++ (symbol ++ "(cpu); \x7d".toList)))) := by
    unfold hookPrologue
    simp only [List.append_assoc]
    rfl
  unfold Bears
  rw [hcut, List.drop_left]
  exact ⟨(List.prefix_append_right_inj hookMarker).2 ⟨_, rfl⟩, hrest⟩

end Bears

/-! ## Snippets, line by line -/

/-- A pass leaves a text without the anchor as it is, whether it runs or not. -/
theorem patchPass_lines {p : BlockPatch} {ls : List Str} (hproper : ∀ l ∈ ls, Proper l) :
    patchPass ls.flatten p = (linePass nextFunc (patchLine p) none ls).flatten := by
  unfold patchPass
  split
  · rw [splitlines_flatten hproper]
  · rename_i hanchor
    rw [linePass_same]
    intro l hl cur
    have hline : ¬ p.anchor <:+: l := fun h => hanchor (h.trans (List.infix_of_mem_flatten hl))
    unfold patchLine BlockPatch.at
    simp [hline]

end SmwRecomp.Hooks
