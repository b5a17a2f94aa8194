import SmwRecomp.Config.Reload

/-!
# Writing the settings back

Model of `WriteConfigFile` of `config.c`, with `CfgBuf_EmitKV`, `CfgFlushSection` and
`CfgLineIsKey`.  The buffer is only ever appended to, so every part of the writer is the text it
adds.

* `rawLines` — what stands between the newlines of a text; `lineText` — such a line without its
  carriage return.
* `lineBuffer` — what the writer's `line[2048]` holds of it.
* `Launcher`, `kvs` — the settings the launcher owns and the entries made of them; the writer
  carries the list of the entries whose `done` is clear.
* `userLines` — the lines of a file that assign no owned key of their section.
* `writeConfigFile_keeps_iff` — they all survive exactly when each fits the buffer.
-/

set_option autoImplicit false

namespace SmwRecomp.Config

/-! ## Lines of a text -/

/-- A text that ends in a newline has no line behind it. -/
def rawLines : Text → List Text
  | [] => []
  | c :: cs =>
    if c = '\n' then [] :: rawLines cs
    else
      match rawLines cs with
      | [] => [[c]]
      | l :: ls => (c :: l) :: ls

/-- The terminator is the newline, and a carriage return in front of it or at the end of the file.
-/
def lineText (raw : Text) : Text := if raw.getLast? = some '\r' then raw.dropLast else raw

/-- A text of whole lines. -/
def Whole (t : Text) : Prop := t = [] ∨ t.getLast? = some '\n'

theorem rawLines_ne_nil {t : Text} (h : t ≠ []) : rawLines t ≠ [] := by
  cases t with
  | nil => exact absurd rfl h
  | cons c cs =>
      rw [rawLines]
      split
      · exact List.cons_ne_nil _ _
      · split <;> exact List.cons_ne_nil _ _

theorem rawLines_append : ∀ {a : Text} (b : Text), Whole a →
    rawLines (a ++ b) = rawLines a ++ rawLines b
  | [], _, _ => rfl
  | c :: cs, b, h => by
      have hlast : (c :: cs).getLast? = some '\n' := h.resolve_left (List.cons_ne_nil c cs)
      cases cs with
      | nil =>
          cases Option.some.inj hlast
          rfl
      | cons d ds =>
          have ih :=
            rawLines_append (a := d :: ds) b (.inr (by rwa [List.getLast?_cons_cons] at hlast))
          rw [List.cons_append, rawLines, rawLines, ih]
          split
          · rfl
          · cases hlines : rawLines (d :: ds) with
            | nil => exact absurd hlines (rawLines_ne_nil (List.cons_ne_nil d ds))
            | cons l ls => rfl

theorem rawLines_line : ∀ {l : Text}, '\n' ∉ l → rawLines (l ++ ['\n']) = [l]
  | [], _ => rfl
  | c :: cs, h => by
      rw [List.mem_cons, not_or] at h
      rw [List.cons_append, rawLines, if_neg (Ne.symm h.1), rawLines_line h.2]

theorem whole_line (l : Text) : Whole (l ++ ['\n']) := .inr List.getLast?_concat

theorem Whole.append {a b : Text} (ha : Whole a) (hb : Whole b) : Whole (a ++ b) := by
  rcases hb with rfl | hb
  · rwa [List.append_nil]
  · exact .inr (by rw [List.getLast?_append, hb]; rfl)

theorem Whole.flatMap {α : Type} {f : α → Text} (hf : ∀ a, Whole (f a)) (as : List α) :
    Whole (as.flatMap f) := by
  induction as with
  | nil => exact .inl rfl
  | cons a as ih => exact (hf a).append ih

theorem rawLines_flatMap {α : Type} {f : α → Text} (hf : ∀ a, Whole (f a)) (as : List α) :
    rawLines (as.flatMap f) = as.flatMap fun a => rawLines (f a) := by
  induction as with
  | nil => rfl
  | cons a as ih => rw [List.flatMap_cons, List.flatMap_cons, rawLines_append _ (hf a), ih]

theorem rawLines_newline {t : Text} : ∀ l ∈ rawLines t, '\n' ∉ l := by
  induction t with
  | nil => intro l hl; cases hl
  | cons c cs ih =>
      rw [rawLines]
      split
      · exact List.forall_mem_cons.2 ⟨List.not_mem_nil, ih⟩
      · next hc =>
        split
        · exact List.forall_mem_singleton.2 (by rw [List.mem_singleton]; exact Ne.symm hc)
        · next l ls hls =>
          rw [hls, List.forall_mem_cons] at ih
          refine List.forall_mem_cons.2 ⟨?_, ih.2⟩
          rw [List.mem_cons, not_or]
          exact ⟨Ne.symm hc, ih.1⟩

theorem rawLines_length {t : Text} : ∀ l ∈ rawLines t, l.length ≤ t.length := by
  induction t with
  | nil => intro l hl; cases hl
  | cons c cs ih =>
      rw [rawLines]
      split
      · exact List.forall_mem_cons.2 ⟨Nat.zero_le _, fun l hl => Nat.le_succ_of_le (ih l hl)⟩
      · split
        · exact List.forall_mem_singleton.2 (by simp)
        · next l ls hls =>
          rw [hls, List.forall_mem_cons] at ih
          exact List.forall_mem_cons.2
            ⟨Nat.succ_le_succ ih.1, fun l hl => Nat.le_succ_of_le (ih.2 l hl)⟩

/-! ## The entries -/

/-- The settings of `g_config` that the launcher owns; the texts are those of its character arrays.
-/
structure Launcher where
  windowScale : UInt8
  widescreenMode : UInt8
  linearFiltering : Bool
  enableAudio : Bool
  audioFreq : UInt16
  msu1Enabled : Bool
  msu1Dir : {s : Text // s.length < 512}
  enableGamepad : Fin 2 → Bool
  skipLauncher : Bool
  netplayPlayerName : {s : Text // s.length < 64}
  deadzone : Fin 2 → UInt8
  hasKeyboardControls : UInt8

structure CfgKV where
  «section» : Text
  key : Text
  val : Text
  deriving DecidableEq, Repr

def kWidescreenMode_Fixed16x9 : UInt8 := 1
def kWidescreenMode_Adaptive : UInt8 := 2

def widescreenModeName (mode : UInt8) : Text :=
  if mode = kWidescreenMode_Adaptive then "Adaptive".toList
  else if mode = kWidescreenMode_Fixed16x9 then "Fixed16x9".toList
  else "Standard".toList

/-- `snprintf` of a number. -/
def decimal (n : Nat) : Text := Nat.toDigits 10 n

def flagText (b : Bool) : Text := if b then "1".toList else "0".toList

def boolText (b : Bool) : Text := if b then "true".toList else "false".toList

section

local instance launcherSlots : NeZero 2 := ⟨Nat.succ_ne_zero 1⟩

/-- The entries behind that of the window scale. -/
def settings (cfg : Launcher) : List CfgKV :=
  [⟨"Graphics".toList, "Widescreen".toList, widescreenModeName cfg.widescreenMode⟩,
    ⟨"Graphics".toList, "LinearFiltering".toList, flagText cfg.linearFiltering⟩,
    ⟨"Sound".toList, "EnableAudio".toList, flagText cfg.enableAudio⟩,
    ⟨"Sound".toList, "AudioFreq".toList, decimal cfg.audioFreq.toNat⟩,
    ⟨"Sound".toList, "Msu1Enabled".toList, flagText cfg.msu1Enabled⟩,
    ⟨"Sound".toList, "Msu1Dir".toList, cfg.msu1Dir.val⟩,
    ⟨"GamepadMap".toList, "EnableGamepad1".toList, boolText (cfg.enableGamepad 0)⟩,
    ⟨"GamepadMap".toList, "EnableGamepad2".toList, boolText (cfg.enableGamepad 1)⟩,
    ⟨"General".toList, "SkipLauncher".toList, flagText cfg.skipLauncher⟩,
    ⟨"General".toList, "NetplayPlayerName".toList, cfg.netplayPlayerName.val⟩,
    ⟨"GamepadMap".toList, "Deadzone".toList, decimal (cfg.deadzone 0).toNat⟩,
    ⟨"GamepadMap".toList, "DeadzoneP2".toList, decimal (cfg.deadzone 1).toNat⟩,
    ⟨"GamepadMap".toList, "KeyboardPlayers".toList, decimal (cfg.hasKeyboardControls &&& 3).toNat⟩]

end

/-- The entries for a window scale and the other settings. -/
def entries (scale : Nat) (cfg : Launcher) : List CfgKV :=
  ⟨"Graphics".toList, "WindowScale".toList, decimal scale⟩ :: settings cfg

/-- The initial `kvs`; `val[600]` has room for every value. -/
def kvs (cfg : Launcher) : List CfgKV :=
  (entries (if cfg.windowScale = 0 then 3 else cfg.windowScale.toNat) cfg).map fun kv =>
    { kv with val := kv.val.take 599 }

/-! ## The writer -/

def cfgBufEmitKV (kv : CfgKV) : Text := kv.key ++ " = ".toList ++ kv.val ++ ['\n']

/-- What is appended on leaving a section, and the entries that are left. -/
def cfgFlushSection (u : Util) (todo : List CfgKV) (sec : Text) : Text × List CfgKV :=
  if sec = [] then ([], todo)
  else
    ((todo.filter fun kv => u.equalsNoCase sec kv.section).flatMap cfgBufEmitKV,
      todo.filter fun kv => !u.equalsNoCase sec kv.section)

/-- A line without the blanks and the comment mark in front. -/
def lineBody (line : Text) : Text :=
  match line.dropWhile isBlank with
  | '#' :: p => p.dropWhile isBlank
  | p => p

def cfgLineIsKey (u : Util) (line key : Text) : Bool :=
  match u.startsWithNoCase (lineBody line) key with
  | none => false
  | some r => (r.dropWhile isBlank).head? = some '='

/-- The section that a line opens, cut to `cur[64]`. -/
def headerName (line : Text) : Option Text :=
  match line.dropWhile isBlank with
  | '[' :: nm => some ((nm.takeWhile (· ≠ ']')).take 63)
  | _ => none

/-- The entry that a line of the section `cur` stands for. -/
def matchKey (u : Util) (todo : List CfgKV) (cur line : Text) : Option CfgKV :=
  if cur = [] then none else todo.find? fun kv =>
    u.equalsNoCase cur kv.section && cfgLineIsKey u line kv.key

/-- The sections that never appeared; one round for each entry. -/
def appendSections (u : Util) : Nat → List CfgKV → Text
  | 0, _ => []
  | _, [] => []
  | n + 1, kv :: rest =>
    "\n[".toList ++ kv.section ++ "]\n".toList ++
      ((kv :: rest).filter fun kv' => u.equalsNoCase kv'.section kv.section).flatMap cfgBufEmitKV ++
      appendSections u n (rest.filter fun kv' => !u.equalsNoCase kv'.section kv.section)

def lineBuffer (raw : Text) : Text := lineText (raw.take 2047)

def writeLines (u : Util) : List CfgKV → Text → List Text → Text
  | todo, cur, [] =>
    (cfgFlushSection u todo cur).1 ++ appendSections u todo.length (cfgFlushSection u todo cur).2
  | todo, cur, line :: lines =>
    match headerName line with
    | some name =>
      (cfgFlushSection u todo cur).1 ++ (line ++ ['\n']) ++ writeLines u
        (cfgFlushSection u todo cur).2 name lines
    | none =>
      match matchKey u todo cur line with
      | some kv => cfgBufEmitKV kv ++ writeLines u (todo.erase kv) cur lines
      | none => line ++ ['\n'] ++ writeLines u todo cur lines

/-- The text `WriteConfigFile` leaves in the file; a missing file has none, and a C string ends at a
null. -/
def writeConfigFile (u : Util) (cfg : Launcher) (file : Text) : Text :=
  writeLines u (kvs cfg) [] ((rawLines (file.takeWhile (· ≠ '\x00'))).map lineBuffer)

/-! ## The lines of the user -/

section User

variable {u : Util}

/-- The section and the name of every owned key. -/
def ownedKeys : List (Text × Text) :=
  [("Graphics".toList, "WindowScale".toList), ("Graphics".toList, "Widescreen".toList),
    ("Graphics".toList, "LinearFiltering".toList), ("Sound".toList, "EnableAudio".toList),
    ("Sound".toList, "AudioFreq".toList), ("Sound".toList, "Msu1Enabled".toList),
    ("Sound".toList, "Msu1Dir".toList), ("GamepadMap".toList, "EnableGamepad1".toList),
    ("GamepadMap".toList, "EnableGamepad2".toList), ("General".toList, "SkipLauncher".toList),
    ("General".toList, "NetplayPlayerName".toList), ("GamepadMap".toList, "Deadzone".toList),
    ("GamepadMap".toList, "DeadzoneP2".toList), ("GamepadMap".toList, "KeyboardPlayers".toList)]

/-- A line of the section `cur` that assigns an owned key of it, live or commented. -/
def owned (u : Util) (cur line : Text) : Bool :=
  decide (cur ≠ []) && ownedKeys.any fun k => u.equalsNoCase cur k.1 && cfgLineIsKey u line k.2

/-- The lines of the user among the lines of a file. -/
def userLines (u : Util) : Text → List Text → List Text
  | _, [] => []
  | cur, line :: lines =>
    match headerName line with
    | some name => line :: userLines u name lines
    | none => (if owned u cur line then [] else [line]) ++ userLines u cur lines

/-- The lines of the user in a file. -/
def userText (u : Util) (file : Text) : List Text := userLines u [] ((rawLines file).map lineText)

/-- A line that `line[2048]` holds; a carriage return at its end must leave room for that of the
terminator. -/
def Fits (line : Text) : Prop :=
  line.length ≤ 2047 ∧ (line.length = 2047 → line.getLast? ≠ some '\r')

theorem Fits.of_lt {line : Text} (h : line.length < 2047) : Fits line := ⟨by omega, by omega⟩

theorem lineText_isInitial (raw : Text) : lineText raw <+: raw := by
  unfold lineText
  split
  · exact List.dropLast_prefix raw
  · exact List.prefix_rfl

theorem lineBuffer_isInitial (raw : Text) : lineBuffer raw <+: raw :=
  (lineText_isInitial _).trans (List.take_prefix 2047 raw)

theorem fits_lineBuffer (raw : Text) : Fits (lineBuffer raw) := by
  have htake : (raw.take 2047).length ≤ 2047 := List.length_take_le _ _
  unfold lineBuffer lineText
  split
  case isTrue hlast =>
    refine .of_lt ?_
    have hne : raw.take 2047 ≠ [] := by
      intro hnil
      rw [hnil] at hlast
      cases hlast
    have hpos := List.length_pos_iff.2 hne
    rw [List.length_dropLast]
    omega
  case isFalse hlast => exact ⟨htake, fun _ => hlast⟩

/-- What fits is copied. -/
theorem lineBuffer_eq {raw : Text} (h : Fits (lineText raw)) : lineBuffer raw = lineText raw := by
  unfold lineBuffer
  by_cases hlast : raw.getLast? = some '\r'
  · have hne : raw ≠ [] := by
      intro hnil
      rw [hnil] at hlast
      cases hlast
    have htext : lineText raw = raw.dropLast := if_pos hlast
    rw [htext] at h ⊢
    have hlen : raw.dropLast.length = raw.length - 1 := List.length_dropLast
    have hpos := List.length_pos_iff.2 hne
    by_cases hlong : raw.length = 2048
    · have htake : raw.take 2047 = raw.dropLast := by
        rw [List.dropLast_eq_take, hlong]
      rw [htake]
      exact if_neg (h.2 (by omega))
    · rw [List.take_of_length_le (by have := h.1; omega)]
      exact if_pos hlast
  · have htext : lineText raw = raw := if_neg hlast
    rw [htext] at h ⊢
    rw [List.take_of_length_le h.1]
    exact htext

/-! ### What the writer adds of its own -/

theorem cfgBufEmitKV_whole (kv : CfgKV) : Whole (cfgBufEmitKV kv) := whole_line _

theorem sectionHeader_eq (kv : CfgKV) :
    "\n[".toList ++ kv.section ++ "]\n".toList = '\n' :: ('[' :: (kv.section ++ [']'])) ++
      ['\n'] := by simp

theorem sectionHeader_whole (kv : CfgKV) : Whole ("\n[".toList ++ kv.section ++ "]\n".toList) := by
  rw [sectionHeader_eq]
  exact whole_line _

/-- Entries of bounded size, as those of `kvs` are. -/
def Short (todo : List CfgKV) : Prop :=
  ∀ kv ∈ todo, kv.section.length ≤ 100 ∧ kv.key.length ≤ 100 ∧ kv.val.length ≤ 599

theorem Short.filter {todo : List CfgKV} (h : Short todo) (p : CfgKV → Bool) :
    Short (todo.filter p) :=
  fun kv hkv => h kv (List.mem_filter.1 hkv).1

theorem Short.flush {todo : List CfgKV} (h : Short todo) (sec : Text) :
    Short (cfgFlushSection u todo sec).2 := by
  unfold cfgFlushSection
  split
  · exact h
  · exact h.filter _

theorem Short.emit {todo : List CfgKV} (h : Short todo) :
    ∀ line ∈ rawLines (todo.flatMap cfgBufEmitKV), Fits line := by
  intro line hline
  rw [rawLines_flatMap cfgBufEmitKV_whole, List.mem_flatMap] at hline
  obtain ⟨kv, hkv, hline⟩ := hline
  obtain ⟨-, hkey, hval⟩ := h kv hkv
  have hlen := rawLines_length line hline
  have htext : (cfgBufEmitKV kv).length = kv.key.length + 3 + kv.val.length + 1 := by
    simp [cfgBufEmitKV]
    omega
  exact .of_lt (by omega)

theorem flush_whole (todo : List CfgKV) (sec : Text) : Whole (cfgFlushSection u todo sec).1 := by
  unfold cfgFlushSection
  split
  · exact .inl rfl
  · exact .flatMap cfgBufEmitKV_whole _

theorem Short.flush_fits {todo : List CfgKV} (h : Short todo) (sec : Text) :
    ∀ line ∈ rawLines (cfgFlushSection u todo sec).1, Fits line := by
  unfold cfgFlushSection
  split
  · intro line hline
    cases hline
  · exact (h.filter _).emit

theorem Short.append_fits : ∀ (n : Nat) {todo : List CfgKV}, Short todo →
    ∀ line ∈ rawLines (appendSections u n todo), Fits line
  | 0, _, _ => by
      intro line hline
      cases hline
  | n + 1, [], _ => by
      intro line hline
      cases hline
  | n + 1, kv :: rest, h => by
      have hrest : Short rest := fun kv' hkv' => h kv' (List.mem_cons_of_mem _ hkv')
      have hheader : ∀ line ∈ rawLines ("\n[".toList ++ kv.section ++ "]\n".toList), Fits line := by
        intro line hline
        have hlen := rawLines_length line hline
        have hsection := (h kv List.mem_cons_self).1
        rw [sectionHeader_eq] at hlen
        simp only [List.length_append, List.length_cons, List.length_nil] at hlen
        exact .of_lt (by omega)
      rw [appendSections, List.append_assoc, rawLines_append _ (sectionHeader_whole kv),
        rawLines_append _ (.flatMap cfgBufEmitKV_whole _), List.forall_mem_append,
        List.forall_mem_append]
      exact ⟨hheader, (h.filter _).emit, append_fits n (hrest.filter _)⟩

theorem matchKey_mem {todo : List CfgKV} {cur line : Text} {kv : CfgKV}
    (h : matchKey u todo cur line = some kv) :
    kv ∈ todo := by
  unfold matchKey at h
  split at h
  · cases h
  · exact List.mem_of_find?_eq_some h

/-- Every line of the text written fits, whatever the settings are. -/
theorem writeLines_fits : ∀ {lines : List Text} {todo : List CfgKV} {cur : Text}, Short todo →
    (∀ line ∈ lines, '\n' ∉ line ∧ Fits line) → ∀ line ∈ rawLines (writeLines u todo cur lines),
    Fits line := by
  intro lines
  induction lines with
  | nil =>
      intro todo cur h _
      rw [writeLines, rawLines_append _ (flush_whole todo cur), List.forall_mem_append]
      exact ⟨h.flush_fits cur, (h.flush cur).append_fits _⟩
  | cons line lines ih =>
      intro todo cur h hlines
      rw [List.forall_mem_cons] at hlines
      obtain ⟨⟨hplain, hfits⟩, hlines⟩ := hlines
      have hline : ∀ l ∈ rawLines (line ++ ['\n']), Fits l := by
        rw [rawLines_line hplain]
        exact List.forall_mem_singleton.2 hfits
      rw [writeLines]
      split
      · rw [List.append_assoc, rawLines_append _ (flush_whole todo cur),
          rawLines_append _ (whole_line line), List.forall_mem_append, List.forall_mem_append]
        exact ⟨h.flush_fits cur, hline, ih (h.flush cur) hlines⟩
      · split
        · next kv hkv =>
          have hone : Short [kv] := by
            intro kv' hkv'
            rw [List.mem_singleton.1 hkv']
            exact h kv (matchKey_mem hkv)
          have hemit := hone.emit
          rw [List.flatMap_singleton] at hemit
          rw [rawLines_append _ (cfgBufEmitKV_whole kv), List.forall_mem_append]
          exact ⟨hemit, ih (fun kv' hkv' => h kv' (List.mem_of_mem_erase hkv')) hlines⟩
        · rw [rawLines_append _ (whole_line line), List.forall_mem_append]
          exact ⟨hline, ih h hlines⟩

/-! ### What it keeps -/

theorem headerName_isSome {line : Text} : (headerName line).isSome = true ↔
    (line.dropWhile isBlank).head? = some '[' := by
  unfold headerName
  cases line.dropWhile isBlank with
  | nil => simp
  | cons c rest =>
      by_cases hc : c = '['
      · rw [hc]
        simp
      · rw [List.head?_cons]
        split
        · next nm heq =>
          cases heq
          exact absurd rfl hc
        · simp [hc]

theorem dropWhile_append_head {p : Char → Bool} {a : Text} (b : Text) {c : Char}
    (h : (a.dropWhile p).head? = some c) :
    ((a ++ b).dropWhile p).head? = some c := by
  rw [List.dropWhile_append]
  cases hdrop : a.dropWhile p with
  | nil =>
      rw [hdrop] at h
      cases h
  | cons d ds =>
      rw [hdrop] at h
      exact h

/-- A carriage return opens no section. -/
theorem headerName_lineText {raw : Text} (h : (headerName raw).isSome = true) :
    (headerName (lineText raw)).isSome = true := by
  unfold lineText
  split
  case isFalse => exact h
  case isTrue hlast =>
    have hraw : raw = raw.dropLast ++ ['\r'] := (List.dropLast_append_getLast? '\r' hlast).symm
    rw [headerName_isSome] at h ⊢
    rw [hraw, List.dropWhile_append] at h
    cases hdrop : raw.dropLast.dropWhile isBlank with
    | nil =>
        rw [hdrop] at h
        exact absurd h (by decide)
    | cons c rest =>
        rw [hdrop] at h
        exact h

/-- What the buffer cuts away opens no section either. -/
theorem headerName_lineBuffer {raw : Text} (h : (headerName (lineBuffer raw)).isSome = true) :
    (headerName (lineText raw)).isSome = true := by
  refine headerName_lineText ?_
  obtain ⟨rest, hraw⟩ := lineBuffer_isInitial raw
  rw [headerName_isSome] at h ⊢
  rw [← hraw]
  exact dropWhile_append_head rest h

/-- The entries still to be written are owned. -/
def Owned (todo : List CfgKV) : Prop := ∀ kv ∈ todo, (kv.section, kv.key) ∈ ownedKeys

theorem Owned.flush {todo : List CfgKV} (h : Owned todo) (sec : Text) :
    Owned (cfgFlushSection u todo sec).2 := by
  unfold cfgFlushSection
  split
  · exact h
  · exact fun kv hkv => h kv (List.mem_filter.1 hkv).1

theorem Owned.matched {todo : List CfgKV} (h : Owned todo) {cur line : Text} {kv : CfgKV}
    (hmatch : matchKey u todo cur line = some kv) : owned u cur line = true := by
  have hmem := matchKey_mem hmatch
  unfold matchKey at hmatch
  split at hmatch
  · cases hmatch
  · next hcur =>
    unfold owned
    rw [Bool.and_eq_true, decide_eq_true_eq, List.any_eq_true]
    have hfound : (u.equalsNoCase cur kv.section && cfgLineIsKey u line kv.key) = true :=
      List.find?_some
        (p := fun kv : CfgKV => u.equalsNoCase cur kv.section && cfgLineIsKey u line kv.key) hmatch
    exact ⟨hcur, _, h kv hmem, hfound⟩

/-- The lines of the user that fit are written, in their order. -/
theorem userLines_kept : ∀ {raws : List Text} {todo : List CfgKV} {cur : Text}, Owned todo →
    (∀ raw ∈ raws, '\n' ∉ raw) → (∀ line ∈ userLines u cur (raws.map lineText), Fits line) →
    List.Sublist (userLines u cur (raws.map lineText))
      (rawLines (writeLines u todo cur (raws.map lineBuffer))) := by
  intro raws
  induction raws with
  | nil => intro todo cur _ _ _; exact List.nil_sublist _
  | cons raw raws ih =>
      intro todo cur howned hplain hfits
      rw [List.forall_mem_cons] at hplain
      have hline : '\n' ∉ lineText raw :=
        fun hmem => hplain.1 ((lineText_isInitial raw).subset hmem)
      rw [List.map_cons, List.map_cons, userLines, writeLines]
      rw [List.map_cons, userLines] at hfits
      cases hname : headerName (lineText raw) with
      | some name =>
          rw [hname, List.forall_mem_cons] at hfits
          rw [lineBuffer_eq hfits.1, hname]
          dsimp only
          rw [List.append_assoc, rawLines_append _ (flush_whole todo cur),
            rawLines_append _ (whole_line _), rawLines_line hline]
          exact ((ih (howned.flush cur) hplain.2 hfits.2).cons_cons _).trans
            (List.sublist_append_right _ _)
      | none =>
          rw [hname, List.forall_mem_append] at hfits
          have hbuffer : headerName (lineBuffer raw) = none := by
            rw [← Option.not_isSome_iff_eq_none]
            intro hsome
            have hheader := headerName_lineBuffer hsome
            rw [hname] at hheader
            cases hheader
          rw [hbuffer]
          dsimp only
          have hnone : owned u cur (lineText raw) = false →
            matchKey u todo cur (lineText raw) = none := by
            intro hnot
            rw [← Option.not_isSome_iff_eq_none, Option.isSome_iff_exists]
            rintro ⟨kv, hkv⟩
            rw [howned.matched hkv] at hnot
            cases hnot
          cases howns : owned u cur (lineText raw) with
          | false =>
              -- a kept line is copied: nothing it could be taken for is owned
              rw [howns] at hfits
              rw [lineBuffer_eq (hfits.1 _ List.mem_cons_self), hnone howns]
              dsimp only
              rw [rawLines_append _ (whole_line _), rawLines_line hline]
              exact (ih howned hplain.2 hfits.2).cons_cons _
          | true =>
              rw [if_pos rfl, List.nil_append]
              split
              · next kv hkv =>
                rw [rawLines_append _ (cfgBufEmitKV_whole kv)]
                have hrest : Owned (todo.erase kv) := fun kv' hkv' =>
                  howned kv' (List.mem_of_mem_erase hkv')
                exact (ih hrest hplain.2 hfits.2).trans (List.sublist_append_right _ _)
              · rw [rawLines_append _ (whole_line _)]
                exact (ih howned hplain.2 hfits.2).trans (List.sublist_append_right _ _)

theorem kvs_owned (cfg : Launcher) : Owned (kvs cfg) := by
  have hkeys : (kvs cfg).map (fun kv => (kv.section, kv.key)) = ownedKeys := rfl
  intro kv hkv
  rw [← hkeys]
  exact List.mem_map_of_mem hkv

theorem kvs_short (cfg : Launcher) : Short (kvs cfg) := by
  have hnames : ∀ k ∈ ownedKeys, k.1.length ≤ 100 ∧ k.2.length ≤ 100 := by decide
  intro kv hkv
  obtain ⟨hsection, hkey⟩ := hnames _ (kvs_owned cfg kv hkv)
  obtain ⟨kv', -, rfl⟩ := List.mem_map.1 hkv
  exact ⟨hsection, hkey, List.length_take_le _ _⟩

theorem takeWhile_nul {file : Text} (h : '\x00' ∉ file) : file.takeWhile (· ≠ '\x00') = file := by
  rw [List.takeWhile_eq_self_iff]
  intro c hc
  exact decide_eq_true fun hnul => h (hnul ▸ hc)

/-- For all settings, every line of the user is in the text written, with all its bytes up to the
terminator and in the original order, exactly when all of them fit the buffer. -/
theorem writeConfigFile_keeps_iff (cfg : Launcher) (file : Text) (hnul : '\x00' ∉ file) :
    List.Sublist (userText u file) (rawLines (writeConfigFile u cfg file)) ↔
    ∀ line ∈ userText u file, Fits line := by
  unfold writeConfigFile userText
  rw [takeWhile_nul hnul]
  constructor
  · intro hkept line hline
    refine writeLines_fits (kvs_short cfg) (fun line hline => ?_) line (hkept.subset hline)
    obtain ⟨raw, hraw, rfl⟩ := List.mem_map.1 hline
    exact ⟨fun hmem => rawLines_newline raw hraw ((lineBuffer_isInitial raw).subset hmem),
      fits_lineBuffer raw⟩
  · exact userLines_kept (kvs_owned cfg) rawLines_newline

/-- A fresh configuration. -/
def launcherDefaults : Launcher where
  windowScale := 3
  widescreenMode := 0
  linearFiltering := false
  enableAudio := true
  audioFreq := 32040
  msu1Enabled := false
  msu1Dir := ⟨[], by decide⟩
  enableGamepad := fun _ => true
  skipLauncher := false
  netplayPlayerName := ⟨[], by decide⟩
  deadzone := fun _ => 30
  hasKeyboardControls := 1

end User

/-- A comment, a shader and a commented key. -/
theorem writeConfigFile_keeps_comment :
    List.Sublist (userText plainUtil "# mine\r\n[Graphics]\nShader = crt\n#Widescreen = 1".toList)
      (rawLines (writeConfigFile plainUtil launcherDefaults
        "# mine\r\n[Graphics]\nShader = crt\n#Widescreen = 1".toList)) :=
  (writeConfigFile_keeps_iff launcherDefaults _ (by decide)).2 (by
    have hlines : userText plainUtil "# mine\r\n[Graphics]\nShader = crt\n#Widescreen = 1".toList =
        ["# mine".toList, "[Graphics]".toList, "Shader = crt".toList] := by decide
    rw [hlines]
    intro line hline
    refine .of_lt ?_
    revert line hline
    decide)

/-- A comment of 2048 characters is cut. -/
theorem writeConfigFile_cuts :
    ¬ List.Sublist (userText plainUtil (List.replicate 2048 '#'))
      (rawLines (writeConfigFile plainUtil launcherDefaults (List.replicate 2048 '#'))) := by
  have hlines : userText plainUtil (List.replicate 2048 '#') = [List.replicate 2048 '#'] := by
    decide +kernel
  rw [hlines, List.singleton_sublist]
  intro hmem
  have hshort : ∀ line ∈
    rawLines (writeConfigFile plainUtil launcherDefaults (List.replicate 2048 '#')),
      line.length ≤ 2047 := by
    decide +kernel
  have hlen := hshort _ hmem
  rw [List.length_replicate] at hlen
  omega

end SmwRecomp.Config
