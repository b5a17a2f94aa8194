import SmwRecomp.Hooks.Text

/-!
# The renderer installer

`tools/apply_renderer_hooks.py`: lines before six conditional jumps, and observers at the end of the
lines of some calls.

* `rendererStrip` — the injections of an earlier run out; `Place`, `nextPlace` — the function and
  the block a line is in.
* `Seam` — when a line is a site; `insertions`, `observers` — the sites; `hostLine`, `rendererApply`
  — the pass.
-/

set_option autoImplicit false

namespace SmwRecomp.Hooks

/-! ## What an earlier run left -/

def hostMarker : Str := "/*SMW-HOST*/".toList

def hostOpen : Str := hostMarker ++ " \x7b".toList

def hostClose : Str := " \x7d".toList

/-- `^[ \t]*/\*SMW-HOST\*/ \{[^\n]* \}\r?\n`, on one line. -/
def isHostLine (line : Str) : Bool :=
  let t := line.dropWhile " \t".toList.contains
  let inner := t.drop hostOpen.length
  decide (hostOpen <+: t) &&
    (decide (hostClose ++ ['\n'] <:+ inner) || decide (hostClose ++ ['\r', '\n'] <:+ inner))

/-- `re.sub(r' /\*SMW-HOST\*/ \{[^\n]*? \}', '', line)`; the fuel is enough when it exceeds the
line. -/
def stripInline : Nat → Str → Str
  | 0, line => line
  | fuel + 1, line =>
    match cut (' ' :: hostOpen) line with
    | none => line
    | some (before, inner) =>
      match cut hostClose inner with
      | none => line
      | some (_, after) => before ++ stripInline fuel after

def rendererStrip (text : Str) : Str :=
  (((nlLines text).filter fun l => !isHostLine l).map fun l => stripInline (l.length + 1) l).flatten

/-! ## Where a line is -/

/-- `name` and `block`. -/
structure Place where
  name : Str
  block : Str

/-- `RecompReturn (\w+)\(CpuState`. -/
def nameMatch (alnum : Char → Bool) : Scan Char Str := do
  lit "RecompReturn ".toList
  let name ← run (isWord alnum)
  ensure (name ≠ [])
  lit "(CpuState".toList
  return name

def nextPlace (alnum : Char → Bool) (s : Place) (line : Str) : Place where
  name := match nameMatch alnum line with
    | some (name, _) => name
    | none => s.name
  block := (search (traceCall isUpperHex [')']) line).getD s.block

theorem nextPlace_eq (alnum : Char → Bool) (s : Place) (line : Str) : nextPlace alnum s line =
    ⟨((nameMatch alnum line).map Prod.fst).getD s.name,
      (search (traceCall isUpperHex [')']) line).getD s.block⟩ := by
  unfold nextPlace
  cases nameMatch alnum line <;> rfl

/-! ## Sites -/

/-- A site: the call it gets, the places it is looked for in, and what its line has. -/
structure Seam where
  call : Str
  here : Place → Bool
  texts : List Str

def Seam.at (m : Seam) (s : Place) (line : Str) : Bool := m.here s && m.texts.all fun p =>
    decide (p <:+: line)

def guestHook (pc : Nat) : Str := "SmwRendererGuestHook(cpu, 0x".toList ++ hex6 pc ++ "u)".toList

def playerContact : Seam where
  call := guestHook 0x01A7F3
  here s := s.block == "01A7EB".toList
  texts := ["if (cpu->_flag_Z == 1)".toList, "$A7F7".toList]

def playerCull : Seam where
  call := guestHook 0x00E498
  here s := s.block == "00E482".toList
  texts := ["if (cpu->_flag_C == 1)".toList, "goto L_E49F".toList]

def baseballCull : Seam where
  call := guestHook 0x02A27E
  here s := decide ("ExtSpr0D_Baseball".toList <:+: s.name)
  texts := ["if (cpu->_flag_Z == 1)".toList, "goto L_A287".toList]

def wingCull : Seam where
  call := guestHook 0x019E6D
  here s := s.block == "019E3C".toList
  texts := ["if (cpu->_flag_Z == 0)".toList, "goto L_9E93".toList]

def frontier : Seam where
  call := guestHook 0x02A826
  here s := s.block == "02A823".toList
  texts := ["if (cpu->_flag_N == 1)".toList]

/-- Both public entries emit the same cull. -/
def fireball : Seam where
  call := guestHook 0x02A1BE
  here s := s.block == "02A1A4".toList || s.block == "02A1A7".toList
  texts := ["if (cpu->_flag_Z == 0)".toList]

/-- The sites that get a line before theirs. -/
def insertions : List Seam :=
  [playerContact, playerCull, baseballCull, wingCull, frontier, fireball]

def pcs : List Nat :=
  [0x02A82E, 0x01B844, 0x01AC7C, 0x02D076, 0x03B8A8, 0x02A204, 0x019E93, 0x019F5A,
    0x02A916, 0x02AFB3, 0x029B0C, 0x029B12, 0x02A2BE, 0x00E49A, 0x01F76C]

def optionalPcs : List Nat := [0x0180AF, 0x0180B2]

def observer (pc : Nat) : Seam where
  call := guestHook pc
  here _ := true
  texts := ["cpu_trace_block(cpu, 0x".toList ++ hex6 pc ++ ");".toList]

def draw : Seam where
  call := "SmwRendererDrawInfo(cpu)".toList
  here s := decide ("GetDrawInfo".toList <:+: s.name)
  texts := ["cpu_write8".toList, "0x15c4 + (uint32)cpu->X".toList]

def spriteAllocation : Seam where
  call := guestHook 0x0180E5
  here s := decide ("ProcessNormalSprites_GetNormalSpriteOAMIndex".toList <:+: s.name)
  texts := ["cpu_write8".toList, "0x15ea + (uint32)cpu->X".toList]

/-- The sites that get an observer behind their line; a later one replaces an earlier one. -/
def observers : List Seam := (pcs ++ optionalPcs).map observer ++ [draw, spriteAllocation]

/-! ## The pass -/

/-- The line before a site, up to its newline. -/
def inserted (m : Seam) : Str :=
  "    /*SMW-HOST*/ \x7b extern void ".toList ++
    ("SmwRendererGuestHook".toList ++ ("(CpuState *, uint32_t); ".toList ++
    (m.call ++ "; \x7d".toList)))

/-- What goes behind a line. -/
def appended (m : Seam) : Str :=
  let symbol := m.call.takeWhile (· != '(')
  let declaration := if "GuestHook".toList <:+ symbol then "CpuState *cpu, uint32_t pc".toList
    else "CpuState *cpu".toList
  ' ' :: (hostMarker ++
    (" \x7b extern void ".toList ++ (symbol ++ ('(' :: (declaration ++ ("); ".toList ++
    (m.call ++ "; \x7d".toList)))))))

def insertionsAt (s : Place) (line : Str) : List Seam := insertions.filter fun m => m.at s line

def observerAt (s : Place) (line : Str) : Option Seam :=
  (observers.filter fun m => m.at s line).getLast?

def hostLine (s : Place) (line : Str) : List Str :=
  (insertionsAt s line).map (fun m => inserted m ++ ['\n']) ++
    [match observerAt s line with
      | some m => rstrip ['\r', '\n'] line ++ appended m ++ ['\n']
      | none => line]

/-- `apply` of the renderer installer; it refuses a text with legacy hooks. -/
def rendererApply (alnum : Char → Bool) (text : Str) : Option Str :=
  if "/*WS-".toList <:+: text then none
  else some (linePass (nextPlace alnum) hostLine ⟨[], []⟩ (splitlines (rendererStrip text))).flatten

/-! ## What the matchers see -/

theorem stopsAt_nameMatch (alnum : Char → Bool) {b : Char} (hb : b ∈ [',', '>', '\x7b']) :
    StopsAt b (nameMatch alnum) := by
  have hascii : b.toNat < 128 ∧ isIdent b = false := by
    revert b
    decide
  have hlit : ∀ p ∈ ["RecompReturn ".toList, "(CpuState".toList], b ∉ p := by
    clear hascii
    revert b
    decide
  have hword : isWord alnum b = false := by
    unfold isWord
    rw [if_pos hascii.1, hascii.2]
  unfold nameMatch
  refine (stopsAt_lit (hlit _ (by simp))).bind fun _ => ?_
  refine (stopsAt_run hword).bind fun _ => ?_
  refine stopsAt_ensure.bind fun _ => ?_
  exact (stopsAt_lit (hlit _ (by simp))).bind fun _ => stopsAt_pure _

/-! ## What is taken out -/

theorem isHostLine_prefix {l : Str} (h : isHostLine l = true) :
    hostMarker <+: l.dropWhile " \t".toList.contains := by
  have hopen : hostOpen <+: l.dropWhile " \t".toList.contains :=
    of_decide_eq_true (Bool.and_eq_true_iff.1 h).1
  exact (List.prefix_append hostMarker _).trans hopen

theorem stripInline_none {l : Str} (h : ¬ hostMarker <:+: l) : ∀ fuel, stripInline fuel l = l
  | 0 => rfl
  | fuel + 1 => by
    have hopen : ¬ ' ' :: hostOpen <:+: l :=
      fun hin => h ((List.infix_append [' '] hostMarker _).trans hin)
    rw [stripInline, cut_none hopen]

/-- An observer, from its marker's brace to the end of the line. -/
theorem appended_closed : ∀ o ∈ observers, ' ' :: hostOpen <+: appended o ∧
    (cut hostClose ((appended o).drop (' ' :: hostOpen).length ++ ['\n'])).map Prod.snd =
      some ['\n'] := by
  decide +kernel

theorem stripInline_appended {o : Seam} (ho : o ∈ observers) {v : Str} (hv : ¬ hostMarker <:+: v)
    (fuel : Nat) :
    stripInline (fuel + 1) (v ++ (appended o ++ ['\n'])) = v ++ ['\n'] := by
  obtain ⟨⟨r, hr⟩, hclose⟩ := appended_closed o ho
  have hopen : ¬ ' ' :: hostOpen <:+: v :=
    fun hin => hv ((List.infix_append [' '] hostMarker _).trans hin)
  rw [← hr, List.drop_left] at hclose
  obtain ⟨⟨w, rest⟩, hcut, rfl⟩ := Option.map_eq_some_iff.1 hclose
  have hnewline : stripInline fuel ['\n'] = ['\n'] := stripInline_none (by decide) fuel
  rw [stripInline, ← hr, List.append_assoc, cut_append (by decide) (by decide) hopen]
  simp only [hcut, hnewline]

end SmwRecomp.Hooks
