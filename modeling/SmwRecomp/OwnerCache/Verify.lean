import Mathlib.Data.Rat.Defs

/-!
# Verification of a final owner cache

* `Json` — what `json.loads` delivers, with Python's equality against the values the verifier
  expects.
* `CacheTree` — one snapshot of a directory; `Library` — `hashlib`, `json` and `wave` over file
  contents.
* `readWav`, `verifyAudio`, `verifyFinalCache` — the verifier, every check in the order of the
  source.
* `PyError` — a `ValueError`, which the publisher catches, or anything else, which it does not.
-/

set_option autoImplicit false

namespace SmwRecomp.OwnerCache

inductive PyError where
  | valueError (message : String)
  | other (kind : String)
  deriving DecidableEq, Repr

/-- The keys of a dictionary are distinct. A number is an integer or a finite float: Python compares
them by value. -/
inductive Json where
  | null
  | bool (b : Bool)
  | num (q : Rat)
  | nonfinite
  | str (s : String)
  | arr (items : List Json)
  | obj (items : List (String × Json))

/-- `value == s`. -/
def Json.isStr (s : String) : Json → Bool
  | .str t => t == s
  | _ => false

/-- `value == n`; `True` is 1. -/
def Json.isNat (n : Nat) : Json → Bool
  | .num q => q == n
  | .bool b => b.toNat == n
  | _ => false

/-- `value == {key: expected, ...}`. -/
def Json.isDict (fields : List (String × (Json → Bool))) : Json → Bool
  | .obj items => items.length == fields.length && fields.all fun f => (items.lookup f.1).any f.2
  | _ => false

/-- The set comparison `a == b`. -/
def sameSet (a b : List String) : Bool := a.all b.contains && b.all a.contains

variable {β : Type}

/-- A path and what is below it, with `/` between the parts; nothing there is no directory. -/
structure CacheTree (β : Type) where
  directory : Bool
  symlinks : Bool
  directories : List String
  files : List (String × β)

structure Wave (β : Type) where
  channels : Nat
  sampleWidth : Nat
  frameRate : Nat
  compType : String
  frames : Nat
  pcm : β

/-- Reading a manifest fails with an `OSError` or a `JSONDecodeError`, which the verifier expects,
or otherwise. -/
inductive LoadError where
  | unreadable
  | raises (e : PyError)

structure Library (β : Type) where
  sha256 : β → String
  length : β → Nat
  loads : β → Except LoadError Json
  /-- `wave.open`, or the text of the error. -/
  wave : β → Except String (Wave β)

/-! ## The approved inventory -/

def FINAL_FORMAT : String := "smw-smash64-falcon-owner-cache"
def FINAL_RECIPE_VERSION : Nat := 1
def RUNTIME_FILENAME : String := "falcon_runtime.bin"
def APPROVED_RUNTIME_SHA256 : String :=
  "8a8e0ac01341584488dad5681ae7563f3142ee15915ff154f5e3122c57146a3e"
def OUTPUT_RATE : Nat := 44100

/-- The frames and the PCM hash of each cue. -/
def EXPECTED_AUDIO : List (String × Nat × String) := [
  ("falcon_dive_catch_fgm.wav", 6593,
    "854e7149472e8a57fba488013ee43e7a7418aa676ff34f5c02d1b2be681963ad"),
  ("falcon_dive_explosion_fgm.wav", 30396,
    "13d4cf67808b38c38807d17766e625a41c0aa6ac7364e16b90270388daa34cc4"),
  ("falcon_dive_launch_fgm.wav", 8945,
    "f1c39a977653576dafa3b1dcf555045b72085db959bae339ebe57511c30b01d9"),
  ("falcon_dive_voice.wav", 30683,
    "25c37937c449dc7ee1e2121db0aeb443fa20cf5155916b3a1152641968a94e98"),
  ("falcon_jump_effort.wav", 9614,
    "4a625de1e79ce193e105bb08b9307c0b06ede6f7dc0dab1ed5c35a154accaf30"),
  ("falcon_kick.wav", 36559, "965a076958350f649d13117d983cf0b8a791082facdd9835f42e6ac7981a7989"),
  ("falcon_kick_start_fgm.wav", 35754,
    "637ebd882d912d2a7e4b4d466c3c83e5b02b3e2e81f5f32b16307077340ddd94"),
  ("falcon_kick_swing_fgm.wav", 8249,
    "0bd5f000cb8a363be1de4ed114963c5377dc196d52584b79e048e8dcf7a4a128"),
  ("falcon_punch_falcon.wav", 24873,
    "b6ab6eb87bc95e7b38acaeb796e338f646bc1b7eb250a063013455a3158d8922"),
  ("falcon_punch_impact_fgm.wav", 49735,
    "05daa8a3791a37b89d4327d7e4b99b8ecf3079c1023a1e8e8ceb0fd257caf436"),
  ("falcon_punch_punch.wav", 41366,
    "496ac5d0762572fc1a649431c2aadb462effabda2d937d6ca39e1647cee803f6")]

def expectedRelativeFiles : List String :=
  ["manifest.json", RUNTIME_FILENAME] ++ EXPECTED_AUDIO.map fun cue => "audio/" ++ cue.1

/-! ## The checks -/

/-- `if not c: raise ValueError(message)`. -/
def require (c : Bool) (message : String) : Except PyError Unit :=
  if c then .ok () else .error (.valueError message)

/-- Opening a file. -/
def CacheTree.open (root : CacheTree β) (relative : String) : Except PyError β :=
  match root.files.lookup relative with
  | some content => .ok content
  | none => .error (.other "FileNotFoundError")

/-- `_read_wav`, over a path that ends in `name`. -/
def readWav (L : Library β) (name : String) (content : β) : Except PyError (Nat × String) :=
  match L.wave content with
  | .error exc => .error (.valueError ("invalid Falcon WAV " ++ name ++ ": " ++ exc))
  | .ok stream => do
    require (stream.channels == 1 && stream.sampleWidth == 2 && stream.frameRate == OUTPUT_RATE &&
      stream.compType == "NONE") (name ++ " is not 44.1 kHz mono PCM16")
    require (L.length stream.pcm == stream.frames * 2) ("truncated Falcon WAV " ++ name)
    return (stream.frames, L.sha256 stream.pcm)

/-- The loop over the manifest's audio entries. -/
def verifyAudio (L : Library β) (root : CacheTree β) : List String → List Json →
    Except PyError (List String)
  | seen, [] => .ok seen
  | seen, entry :: entries => do
    let .obj items := entry | .error (.valueError "invalid Falcon audio manifest entry")
    let some (.str relative) := items.lookup "file" |
      .error (.valueError "invalid Falcon audio manifest filename")
    require (relative.startsWith "audio/") "invalid Falcon audio manifest filename"
    let name := (relative.drop 6).toString
    let some (expectedFrames, expectedPcmHash) := EXPECTED_AUDIO.lookup name |
      .error (.valueError "duplicate or unknown Falcon audio manifest entry")
    require (!seen.contains name) "duplicate or unknown Falcon audio manifest entry"
    let content ← root.open relative
    let (frames, pcmHash) ← readWav L name content
    require (frames == expectedFrames && pcmHash == expectedPcmHash)
      ("final Falcon audio cue " ++ name ++ " failed PCM validation")
    require (entry.isDict [("file", Json.isStr relative), ("frames", Json.isNat frames),
        ("pcm_sha256", Json.isStr pcmHash), ("sha256", Json.isStr (L.sha256 content))])
      ("final Falcon audio manifest hash mismatch for " ++ name)
    verifyAudio L root (name :: seen) entries

/-- `verify_final_cache`, over one snapshot of a path outside the source tree. -/
def verifyFinalCache (L : Library β) (root : CacheTree β) (expectedRomSha1 : Option String) :
    Except PyError Json := do
  require root.directory "final Falcon cache is not a real directory"
  require (!root.symlinks) "final Falcon cache must not contain symbolic links"
  require (sameSet root.directories ["audio"]) "final Falcon cache contains unexpected directories"
  let some bytes :=
    root.files.lookup "manifest.json" | .error (.valueError "final Falcon cache has no manifest")
  let manifest ← match L.loads bytes with
    | .ok manifest => .ok manifest
    | .error .unreadable => .error (.valueError "final Falcon cache manifest is unreadable")
    | .error (.raises e) => .error e
  -- `manifest.get`, which only a dictionary has
  let .obj items := manifest | .error (.other "AttributeError")
  require ((items.lookup "format").any (Json.isStr FINAL_FORMAT) &&
    (items.lookup "recipe_version").any (Json.isNat FINAL_RECIPE_VERSION))
      "unsupported Falcon final-cache recipe"
  let some (.str romSha1) := items.lookup "normalized_rom_sha1" |
    .error (.valueError "final Falcon cache has no normalized ROM identity")
  require (romSha1.length == 40) "final Falcon cache has no normalized ROM identity"
  require (expectedRomSha1.all (· == romSha1)) "final Falcon cache belongs to a different owner ROM"
  require (sameSet (root.files.map Prod.fst) expectedRelativeFiles)
    "final Falcon cache contains missing or unexpected files"
  require ((items.lookup "runtime").any (Json.isDict
      [("file", Json.isStr RUNTIME_FILENAME), ("sha256", Json.isStr APPROVED_RUNTIME_SHA256)]))
    "final Falcon runtime manifest does not match the approved asset"
  let runtime ← root.open RUNTIME_FILENAME
  require (L.sha256 runtime == APPROVED_RUNTIME_SHA256) "final Falcon runtime blob hash mismatch"
  let some (.arr audio) :=
    items.lookup "audio" | .error (.valueError "final Falcon audio manifest is incomplete")
  require (audio.length == EXPECTED_AUDIO.length) "final Falcon audio manifest is incomplete"
  let seen ← verifyAudio L root [] audio
  require (sameSet seen ( EXPECTED_AUDIO.map Prod.fst))
    "final Falcon audio cue inventory is incomplete"
  return manifest

/-- Nothing there is refused like a corrupt cache. -/
theorem verifyFinalCache_absent {L : Library β} {root : CacheTree β}
    {expectedRomSha1 : Option String}
    (h : root.directory = false) : verifyFinalCache L root expectedRomSha1 =
      .error (.valueError "final Falcon cache is not a real directory") := by
  unfold verifyFinalCache require
  rw [h]
  rfl

end SmwRecomp.OwnerCache
