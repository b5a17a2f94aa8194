import SmwRecomp.Config.GamepadMap

/-!
# Reading the configuration

Model of the key and button bindings of `config.c`: `ParseKeyArray`, `ParseGamepadArray`,
`RegisterDefaultKeys`, `HandleIniConfig`, `ParseOneConfigFile`, `ParseConfigFile` and
`ConfigReloadKeyMap`.

* `Util` — the text functions of `util.c` and the key names of SDL, which are parameters.
* A file is the list of its lines as `NextLineStripComments` yields them, and the files are a
  function from names; `none` stands for a file that cannot be read.
* `Bindings` — the keyboard map, the gamepad map and what they have been given.  The scalar settings
  that `HandleIniConfig` stores otherwise are left out: no binding depends on them.
-/

set_option autoImplicit false

namespace SmwRecomp.Config

abbrev Text := List Char

/-- The functions of `util.c` the readers call, and `SDL_GetKeyFromName`. -/
structure Util where
  equalsNoCase : Text → Text → Bool
  /-- what follows the prefix -/
  startsWithNoCase : Text → Text → Option Text
  starts_length : ∀ s p r, startsWithNoCase s p = some r → s.length = p.length + r.length
  skipPrefix : Text → Text → Bool
  splitKeyValue : Text → Option (Text × Text)
  /-- the parts that `NextDelim` yields one after the other -/
  nextDelim : Char → Text → List Text
  nextPossiblyQuotedString : Text → Text
  replaceFilenameWithNewPath : Text → Text → Text
  getKeyFromName : Text → UInt32

/-! ## Names and defaults -/

structure KeyNameId where
  name : Text
  id : Nat
  size : Nat
  deriving DecidableEq, Repr

def kKeyNameId : List KeyNameId :=
  [⟨"Null".toList, kKeysNull, 65535⟩, ⟨"Controls".toList, kKeysControls, 12⟩,
    ⟨"ControlsP2".toList, kKeysControlsP2, 12⟩, ⟨"Load".toList, kKeysLoad, 20⟩,
    ⟨"Save".toList, kKeysSave, 20⟩, ⟨"Fullscreen".toList, kKeysFullscreen, 1⟩,
    ⟨"Reset".toList, kKeysReset, 1⟩, ⟨"Pause".toList, kKeysPause, 1⟩,
    ⟨"PauseDimmed".toList, kKeysPauseDimmed, 1⟩, ⟨"Turbo".toList, kKeysTurbo, 1⟩,
    ⟨"WindowBigger".toList, kKeysWindowBigger, 1⟩, ⟨"WindowSmaller".toList, kKeysWindowSmaller, 1⟩,
    ⟨"VolumeUp".toList, kKeysVolumeUp, 1⟩, ⟨"VolumeDown".toList, kKeysVolumeDown, 1⟩,
    ⟨"DisplayPerf".toList, kKeysDisplayPerf, 1⟩, ⟨"ToggleRenderer".toList, kKeysToggleRenderer, 1⟩]

/-- A key that SDL numbers by its scan code. -/
def scanCode (n : UInt32) : UInt16 := remapSdlKeycode (SDLK_SCANCODE_MASK ||| n)

/-- F1 to F10, under a modifier, and ten commands without a key. -/
def functionKeys (mod : UInt16) : List UInt16 :=
  (List.range 10).map (fun i => scanCode (58 + i.toUInt32) ||| mod) ++ List.replicate 10 0

/-- `kDefaultKbdControls`, indexed by command. -/
def kDefaultKbdControls : List UInt16 :=
  [0] ++
  [scanCode 82, scanCode 81, scanCode 80, scanCode 79, remapSdlKeycode SDLK_RSHIFT,
    remapSdlKeycode 13, remapSdlKeycode 'x'.val, remapSdlKeycode 'z'.val, remapSdlKeycode 's'.val,
    remapSdlKeycode 'a'.val, remapSdlKeycode 'c'.val, remapSdlKeycode 'v'.val] ++
  List.replicate 12 0 ++
  functionKeys 0 ++ functionKeys kKeyModShift ++
  [remapSdlKeycode 13 ||| kKeyModAlt, remapSdlKeycode 'r'.val ||| kKeyModCtrl,
    remapSdlKeycode 'p'.val ||| kKeyModShift, remapSdlKeycode 'p'.val, remapSdlKeycode SDLK_TAB, 0,
    0, remapSdlKeycode 'f'.val, remapSdlKeycode 'r'.val] ++
  [0, 0]

/-- `kDefaultGamepadCmds`: the button of each of the twelve controller commands. -/
def kDefaultGamepadCmds : List (Fin 17) := [11, 12, 13, 14, 4, 6, 1, 0, 3, 2, 9, 10]

def kGamepadKeyNames : List (Text × Fin 17) :=
  [("Back".toList, 4), ("Guide".toList, 5), ("Start".toList, 6), ("L3".toList, 7), ("R3".toList, 8),
    ("L1".toList, 9), ("R1".toList, 10), ("DpadUp".toList, 11), ("DpadDown".toList, 12),
    ("DpadLeft".toList, 13), ("DpadRight".toList, 14), ("L2".toList, 15), ("R2".toList, 16),
    ("Lb".toList, 9), ("Rb".toList, 10), ("A".toList, 0), ("B".toList, 1), ("X".toList, 2),
    ("Y".toList, 3)]

/-! ## Values -/

/-- The modifiers in front of a key name; every round takes a prefix off. -/
def keyPrefixes (u : Util) : Nat → UInt16 → Text → UInt16 × Text
  | 0, mods, s => (mods, s)
  | n + 1, mods, s =>
    if (u.startsWithNoCase s "Shift+".toList).isSome
      then keyPrefixes u n (mods ||| kKeyModShift) (s.drop 6)
    else if (u.startsWithNoCase s "Ctrl+".toList).isSome
      then keyPrefixes u n (mods ||| kKeyModCtrl) (s.drop 5)
    else if (u.startsWithNoCase s "Alt+".toList).isSome
      then keyPrefixes u n (mods ||| kKeyModAlt) (s.drop 4)
    else (mods, s)

/-- The key a part of a value names. -/
def keyOf (u : Util) (s : Text) : Option UInt16 :=
  if s = [] then none
  else
    let (mods, name) := keyPrefixes u s.length 0 s
    if u.getKeyFromName name = 0 then none
      else some (mods ||| remapSdlKeycode (u.getKeyFromName name))

/-- The additions `ParseKeyArray` makes, one for each part that names a key. -/
def keyCalls (u : Util) : List Text → Nat → Nat → List (UInt16 × UInt16)
  | [], _, _ => []
  | _, 0, _ => []
  | s :: parts, n + 1, cmd =>
    ((keyOf u s).map fun key => (key, cmd.toUInt16)).toList ++ keyCalls u parts n
      (if cmd ≠ 0 then cmd + 1 else cmd)

def parseKeyArray (u : Util) (b : Keyboard) (value : Text) (cmd size : Nat) : Outcome Keyboard :=
  keyMapHashAddAll b (keyCalls u (u.nextDelim ',' value) size cmd)

def parseGamepadButtonName (u : Util) (s : Text) : Option (Fin 17 × Text) :=
  kGamepadKeyNames.firstM fun k => (u.startsWithNoCase s k.1).map fun r => (k.2, r)

def isBlank (c : Char) : Bool := c = ' ' ∨ c = '\t'

/-- A button with the modifiers in front of it. -/
def buttonOf (u : Util) : Nat → UInt32 → Text → Option (Fin 17 × UInt32)
  | 0, _, _ => none
  | n + 1, mods, s =>
    match parseGamepadButtonName u s with
    | none => none
    | some (button, rest) =>
      match rest.dropWhile isBlank with
      | [] => some (button, mods)
      | '+' :: rest => buttonOf u n (mods ||| (1 : UInt32) <<< button.val.toUInt32) rest
      | _ => none

/-- The additions `ParseGamepadArray` makes. -/
def gamepadCalls (u : Util) (gamepad : Fin 2) : List Text → Nat → Nat → List GamepadCall
  | [], _, _ => []
  | _, 0, _ => []
  | s :: parts, n + 1, cmd =>
    ((buttonOf u (s.length + 1) 0 s).map fun (button, mods) =>
      ⟨⟨button + gamepad * kGamepadBtnCount, by simp only [kGamepadBtnCount]; omega⟩, mods,
        cmd.toUInt16⟩).toList ++
      gamepadCalls u gamepad parts n (if cmd ≠ 0 then cmd + 1 else cmd)

def parseGamepadArray (u : Util) (m : GamepadMap) (gamepad : Fin 2) (value : Text)
    (cmd size : Nat) : Outcome GamepadMap :=
  (gamepadCalls u gamepad (u.nextDelim ',' value) size cmd).foldlM gamepadMapAdd m

/-! ## Lines -/

/-- `has_keynameid` and the tables. -/
structure Bindings where
  keyboard : Keyboard
  hasKeyNameId : Nat → Bool
  gamepads : GamepadMap
  hasAssignedJoypadControls : UInt8

def Bindings.empty : Bindings := ⟨.empty, fun _ => false, .empty, 0⟩

def getIniSection (u : Util) (s : Text) : Int :=
  if u.equalsNoCase s "[KeyMap]".toList then 0
  else if u.equalsNoCase s "[Graphics]".toList then 1
  else if u.equalsNoCase s "[Sound]".toList then 2
  else if u.equalsNoCase s "[General]".toList then 3
  else if u.equalsNoCase s "[Features]".toList then 4
  else if u.equalsNoCase s "[GamepadMap]".toList then 5
  else -1

/-- The place of a name in `kKeyNameId`. -/
def findKeyName (u : Util) (key : Text) : Option (Nat × KeyNameId) :=
  (kKeyNameId.zipIdx.find? fun k => u.equalsNoCase key k.1.name).map fun k => (k.2, k.1)

def gamepadSettings : List Text :=
  ["KeyboardPlayers".toList, "EnableGamepad1".toList, "EnableGamepad2".toList, "Deadzone".toList,
    "DeadzoneP2".toList]

/-- `HandleIniConfig` of the key map: what it does to the keyboard, and the name it marks as given.
-/
def handleKeyMap (u : Util) (key value : Text) (b : Bindings) : Outcome Bindings :=
  match findKeyName u key with
  | none => .ok b
  | some (i, k) => do
    let keyboard ← parseKeyArray u b.keyboard value k.id k.size
    .ok { b with keyboard := keyboard, hasKeyNameId := Function.update b.hasKeyNameId i true }

def handleGamepadMap (u : Util) (key value : Text) (b : Bindings) : Outcome Bindings :=
  if gamepadSettings.any (u.equalsNoCase key) then .ok b
  else
    match findKeyName u key with
    | none => .ok b
    | some (_, k) => do
      let flag := if k.id = kKeysControls then 1 else if k.id = kKeysControlsP2 then 2 else 0
      let gamepads ← parseGamepadArray u b.gamepads (if k.id = kKeysControlsP2 then 1 else 0)
        value k.id k.size
      .ok { b with gamepads := gamepads, hasAssignedJoypadControls := b.hasAssignedJoypadControls ||| flag }

def handleIniConfig (u : Util) (section' : Int) (key value : Text) (b : Bindings) :
    Outcome Bindings :=
  if section' = 0 then handleKeyMap u key value b
  else if section' = 5 then handleGamepadMap u key value b
  else .ok b

/-! ## Files -/

abbrev Files := Text → Option (List Text)

/-- The file an include line names, as seen from `filename`. -/
def includeTarget (u : Util) (filename p : Text) : Option Text :=
  match p with
  | '!' :: rest =>
    if u.skipPrefix rest "include ".toList then
      some (u.replaceFilenameWithNewPath filename (u.nextPossiblyQuotedString (p.drop 8)))
    else none
  | _ => none

/-- One line of `ParseOneConfigFile`; `read` reads an included file and says whether it could. -/
def parseLine (u : Util) (read : Text → Bindings → Outcome (Option Bindings)) (filename : Text)
    (s : Int × Bindings) (p : Text) : Outcome (Int × Bindings) :=
  match p with
  | [] => .ok s
  | '[' :: _ => .ok (getIniSection u p, s.2)
  | _ =>
    match includeTarget u filename p with
    | some name => do
      let b ← read name s.2
      .ok (s.1, b.getD s.2)
    | none =>
      if s.1 = -2 then .ok s
      else
        match u.splitKeyValue p with
        | none => .ok s
        | some (key, value) =>
          if 0 ≤ s.1 then do
            let b ← handleIniConfig u s.1 key value s.2
            .ok (s.1, b)
          else .ok s

def parseFile (u : Util) (files : Files) (read : Text → Bindings → Outcome (Option Bindings))
    (filename : Text)
    (b : Bindings) : Outcome (Option Bindings) :=
  match files filename with
  | none => .ok none
  | some lines => do
    let s ← lines.foldlM (parseLine u read filename) (-2, b)
    .ok (some s.2)

/-- `ParseOneConfigFile`, with the number of levels of includes still allowed below the file. -/
def parseOneConfigFile (u : Util) (files : Files) : Nat → Text → Bindings →
    Outcome (Option Bindings)
  | 0 => parseFile u files fun _ _ => .ok none
  | n + 1 => parseFile u files (parseOneConfigFile u files n)

/-- The default keys of the names that were not given, the first entry of the table apart. -/
def defaultCalls (hasKeyNameId : Nat → Bool) : List (UInt16 × UInt16) :=
  (kKeyNameId.zipIdx.tail.filter fun k => !hasKeyNameId k.2).flatMap fun k =>
    (List.range k.1.size).map fun j =>
      (kDefaultKbdControls.getD (k.1.id + j) 0, (k.1.id + j).toUInt16)

def defaultGamepadCalls (gamepad : Fin 2) (cmd : Nat) : List GamepadCall :=
  kDefaultGamepadCmds.zipIdx.map fun (button, i) =>
    ⟨⟨button + gamepad * kGamepadBtnCount, by simp only [kGamepadBtnCount]; omega⟩, 0,
      (cmd + i).toUInt16⟩

def registerDefaultKeys (b : Bindings) : Outcome Bindings := do
  let keyboard ← keyMapHashAddAll b.keyboard (defaultCalls b.hasKeyNameId)
  let gamepads ←
    if b.hasAssignedJoypadControls &&& 1 = 0
      then (defaultGamepadCalls 0 kKeysControls).foldlM gamepadMapAdd b.gamepads
    else .ok b.gamepads
  let gamepads ←
    if b.hasAssignedJoypadControls &&& 2 = 0
      then (defaultGamepadCalls 1 kKeysControlsP2).foldlM gamepadMapAdd gamepads
    else .ok gamepads
  .ok { b with keyboard := keyboard, gamepads := gamepads }

def parseConfigFile (u : Util) (files : Files) (filename : Text) (b : Bindings) :
    Outcome Bindings := do
  let read ← parseOneConfigFile u files 11 filename b
  registerDefaultKeys (read.getD b)

/-- One line of `ConfigReloadKeyMap`. -/
def reloadLine (u : Util) (s : Bool × Bindings) (p : Text) : Outcome (Bool × Bindings) :=
  match p with
  | [] => .ok s
  | '[' :: _ => .ok (u.equalsNoCase p "[KeyMap]".toList, s.2)
  | _ =>
    if !s.1 then .ok s
    else
      match u.splitKeyValue p with
      | none => .ok s
      | some (key, value) => do
        let b ← handleIniConfig u 0 key value s.2
        .ok (s.1, b)

/-- `ConfigReloadKeyMap`: only the keyboard map and the names given for it are reset. -/
def configReloadKeyMap (u : Util) (files : Files) (filename : Text) (b : Bindings) :
    Outcome Bindings := do
  let assigned := b.keyboard.hasKeyboardControls
  let b := { b with keyboard := .empty, hasKeyNameId := fun _ => false }
  let b ←
    match files filename with
    | none => .ok b
    | some lines => do
      let s ← lines.foldlM (reloadLine u) (false, b)
      .ok s.2
  let keyboard ← keyMapHashAddAll b.keyboard (defaultCalls b.hasKeyNameId)
  .ok { b with keyboard := { keyboard with hasKeyboardControls := assigned } }

end SmwRecomp.Config
