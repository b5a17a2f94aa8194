import Mathlib.Data.Bool.AllAny
import Mathlib.Data.List.Nodup
import SmwRecomp.Config.Reader

/-!
# Reloading the hotkeys against a fresh start

Both readers hand the lines of the key map to `HandleIniConfig` one after the other, so what they do
to the keyboard is the list of these assignments.

* `View` — what a list of assignments does: the additions to the map and the names given.
* `lineAssignments`, `assignments` — those of `ParseOneConfigFile`, included files in their places;
  `reloadAssignments` — those of `ConfigReloadKeyMap`, which takes an include line for one more
  assignment.
* `Undropped` — what the included files give to the key map is in the file's own lines and the
  defaults too.
* `reload_agrees_iff` — the two maps agree exactly then.
-/

set_option autoImplicit false

namespace SmwRecomp.Config

/-! ## What assignments do -/

section Assignments

variable (u : Util)

/-- The additions a list of assignments makes. -/
def keysOf (as : List (Text × Text)) : List (UInt16 × UInt16) :=
  as.flatMap fun a =>
    match findKeyName u a.1 with
    | none => []
    | some (_, k) => keyCalls u (u.nextDelim ',' a.2) k.size k.id

def mentions (as : List (Text × Text)) (i : Nat) : Bool :=
  as.any fun a => (findKeyName u a.1).any fun k => k.1 = i

theorem keysOf_append (as as' : List (Text × Text)) :
    keysOf u (as ++ as') = keysOf u as ++ keysOf u as' :=
  List.flatMap_append

theorem mentions_append (as as' : List (Text × Text)) (i : Nat) :
    mentions u (as ++ as') i = (mentions u as i || mentions u as' i) := List.any_append

/-- The assignments lead from the bindings `b` to `b'`, as far as the keyboard goes. -/
def View (b : Bindings) (as : List (Text × Text)) (b' : Bindings) : Prop :=
  keyMapHashAddAll b.keyboard (keysOf u as) = .ok b'.keyboard ∧
    ∀ i, b'.hasKeyNameId i = (b.hasKeyNameId i || mentions u as i)

variable {u}

theorem View.refl (b : Bindings) : View u b [] b := ⟨rfl, fun _ => (Bool.or_false _).symm⟩

theorem addAll_append {calls calls' : List (UInt16 × UInt16)} {b b' : Keyboard}
    (h : keyMapHashAddAll b calls = .ok b') :
    keyMapHashAddAll b (calls ++ calls') = keyMapHashAddAll b' calls' := by
  unfold keyMapHashAddAll at h ⊢
  rw [List.foldlM_append, h]
  rfl

theorem View.trans {b b' b'' : Bindings} {as as' : List (Text × Text)} (h : View u b as b')
    (h' : View u b' as' b'') :
    View u b (as ++ as') b'' := by
  refine ⟨?_, ?_⟩
  · rw [keysOf_append, addAll_append h.1]
    exact h'.1
  · intro i
    rw [h'.2 i, h.2 i, mentions_append, Bool.or_assoc]

/-- A change of the other bindings. -/
theorem View.of_eq {b b' : Bindings} (hk : b'.keyboard = b.keyboard)
    (hn : b'.hasKeyNameId = b.hasKeyNameId) :
    View u b [] b' := by
  refine ⟨?_, ?_⟩
  · rw [hk]
    rfl
  · intro i
    rw [hn]
    exact (Bool.or_false _).symm

/-- The bindings with the keyboard that a list of assignments leaves. -/
def Bindings.applied (u : Util) (b : Bindings) (as : List (Text × Text))
    (keyboard : Keyboard) : Bindings :=
  { b with keyboard := keyboard, hasKeyNameId := fun i => b.hasKeyNameId i || mentions u as i }

theorem handleKeyMap_eq (key value : Text) (b : Bindings) :
    handleKeyMap u key value b =
      (keyMapHashAddAll b.keyboard (keysOf u [(key, value)])).map (b.applied u [(key, value)]) := by
  unfold handleKeyMap
  cases hfind : findKeyName u key with
  | none =>
      have hkeys : keysOf u [(key, value)] = [] := by simp [keysOf, hfind]
      have hmentions : ∀ i, mentions u [(key, value)] i = false := by simp [mentions, hfind]
      rw [hkeys]
      simp [Bindings.applied, hmentions, keyMapHashAddAll, Except.map]
  | some k =>
      have hkeys : keysOf u [(key, value)] =
        keyCalls u (u.nextDelim ',' value) k.2.size k.2.id := by
        simp [keysOf, hfind]
      have hmentions : Function.update b.hasKeyNameId k.1 true =
          fun i => b.hasKeyNameId i || mentions u [(key, value)] i := by
        funext i
        by_cases hi : i = k.1
        · simp [mentions, hfind, hi]
        · simp [mentions, hfind, hi, Ne.symm hi]
      rw [hkeys]
      dsimp only
      rw [hmentions]
      unfold parseKeyArray
      cases keyMapHashAddAll b.keyboard (keyCalls u (u.nextDelim ',' value) k.2.size k.2.id) <;> rfl

theorem handleKeyMap_view {key value : Text} {b b' : Bindings}
    (h : handleKeyMap u key value b = .ok b') :
    View u b [(key, value)] b' := by
  rw [handleKeyMap_eq] at h
  cases hadd : keyMapHashAddAll b.keyboard (keysOf u [(key, value)]) with
  | error halt =>
      rw [hadd] at h
      cases h
  | ok keyboard =>
      rw [hadd] at h
      cases h
      exact ⟨hadd, fun _ => rfl⟩

theorem handleGamepadMap_view {key value : Text} {b b' : Bindings}
    (h : handleGamepadMap u key value b = .ok b') :
    View u b [] b' := by
  unfold handleGamepadMap at h
  split at h
  · cases h
    exact .refl b
  · split at h
    · cases h
      exact .refl b
    · next i k _ =>
        cases hadd : parseGamepadArray u b.gamepads (if k.id = kKeysControlsP2 then 1 else 0) value
          k.id k.size with
        | error halt =>
            rw [hadd] at h
            cases h
        | ok gamepads =>
            rw [hadd] at h
            cases h
            exact .of_eq rfl rfl

end Assignments

/-! ## The assignments of a file -/

section Lines

variable (u : Util)

/-- What `ParseOneConfigFile` hands to the key map, with that of the included files given by
`below`. -/
def lineAssignments (below : Text → List (Text × Text)) (filename : Text) :
    Int → List Text → List (Text × Text)
  | _, [] => []
  | sec, p :: lines =>
    match p with
    | [] => lineAssignments below filename sec lines
    | '[' :: _ => lineAssignments below filename (getIniSection u p) lines
    | _ =>
      (match includeTarget u filename p with
        | some name => below name
        | none => if sec = 0 then (u.splitKeyValue p).toList else []) ++
        lineAssignments below filename sec lines

def fileAssignments (files : Files) (below : Text → List (Text × Text)) (filename : Text) :
    List (Text × Text) :=
  match files filename with
  | none => []
  | some lines => lineAssignments u below filename (-2) lines

def assignments (files : Files) : Nat → Text → List (Text × Text)
  | 0 => fileAssignments u files fun _ => []
  | n + 1 => fileAssignments u files (assignments files n)

/-- What `ConfigReloadKeyMap` hands to the key map. -/
def reloadAssignments : Bool → List Text → List (Text × Text)
  | _, [] => []
  | inKeymap, p :: lines =>
    match p with
    | [] => reloadAssignments inKeymap lines
    | '[' :: _ => reloadAssignments (u.equalsNoCase p "[KeyMap]".toList) lines
    | _ => (if inKeymap then (u.splitKeyValue p).toList else []) ++ reloadAssignments inKeymap lines

variable {u}

/-- A line is blank, a section header, or something else. -/
theorem line_cases (p : Text) : p = [] ∨ (∃ rest, p = '[' :: rest) ∨
    (p ≠ [] ∧ ∀ rest, p ≠ '[' :: rest) := by
  cases p with
  | nil => exact .inl rfl
  | cons c rest =>
      by_cases hc : c = '['
      · exact .inr (.inl ⟨rest, by rw [hc]⟩)
      · refine .inr (.inr ⟨List.cons_ne_nil c rest, ?_⟩)
        rintro rest' ⟨⟩
        exact hc rfl

theorem parseLine_other {read : Text → Bindings → Outcome (Option Bindings)} {filename p : Text}
    {s : Int × Bindings}
    (hp : p ≠ [] ∧ ∀ rest, p ≠ '[' :: rest) :
    parseLine u read filename s p =
      match includeTarget u filename p with
      | some name => do
        let b ← read name s.2
        .ok (s.1, b.getD s.2)
      | none =>
        if s.1 = -2 then .ok s
        else
          match u.splitKeyValue p with
          | none => .ok s
          | some (key, value) =>
            if 0 ≤ s.1 then do
              let b ← handleIniConfig u s.1 key value s.2
              .ok (s.1, b)
            else .ok s := by
  unfold parseLine
  split
  · exact absurd rfl hp.1
  · exact absurd rfl (hp.2 _)
  · rfl

theorem lineAssignments_other {below : Text → List (Text × Text)} {filename p : Text} {sec : Int}
    {lines : List Text}
    (hp : p ≠ [] ∧ ∀ rest, p ≠ '[' :: rest) :
    lineAssignments u below filename sec (p :: lines) =
      (match includeTarget u filename p with
        | some name => below name
        | none => if sec = 0 then (u.splitKeyValue p).toList else []) ++
        lineAssignments u below filename sec lines := by
  rw [lineAssignments]
  · exact hp.1
  · exact hp.2

theorem handleIniConfig_view {sec : Int} {key value : Text} {b b' : Bindings}
    (h : handleIniConfig u sec key value b = .ok b') :
    View u b (if sec = 0 then [(key, value)] else []) b' := by
  unfold handleIniConfig at h
  by_cases hzero : sec = 0
  · rw [if_pos hzero] at h ⊢
    exact handleKeyMap_view h
  · rw [if_neg hzero] at h ⊢
    by_cases hfive : sec = 5
    · rw [if_pos hfive] at h
      exact handleGamepadMap_view h
    · rw [if_neg hfive] at h
      cases h
      exact .refl b

/-- The lines of a file, where the included files are read as their assignments say. -/
theorem lines_view {read : Text → Bindings → Outcome (Option Bindings)}
    {below : Text → List (Text × Text)}
    {filename : Text} (hread : ∀ name b r, read name b = .ok r → View u b (below name) (r.getD b)) :
    ∀ {lines : List Text} {s t : Int × Bindings},
    lines.foldlM (parseLine u read filename) s = .ok t →
      View u s.2 (lineAssignments u below filename s.1 lines) t.2 := by
  intro lines
  induction lines with
  | nil =>
      intro s t h
      cases h
      exact .refl s.2
  | cons p lines ih =>
      intro s t h
      rw [List.foldlM_cons] at h
      rcases line_cases p with rfl | ⟨rest, rfl⟩ | hp
      · exact ih h
      · exact ih (s := (getIniSection u ('[' :: rest), s.2)) h
      · rw [parseLine_other hp] at h
        rw [lineAssignments_other hp]
        cases htarget : includeTarget u filename p with
        | some name =>
            rw [htarget] at h
            dsimp only at h ⊢
            cases hr : read name s.2 with
            | error halt =>
                rw [hr] at h
                cases h
            | ok r =>
                rw [hr] at h
                exact (hread name s.2 r hr).trans (ih (s := (s.1, r.getD s.2)) h)
        | none =>
            rw [htarget] at h
            dsimp only at h ⊢
            by_cases hnone : s.1 = -2
            · rw [if_pos hnone] at h
              rw [if_neg (by omega)]
              exact ih h
            · rw [if_neg hnone] at h
              cases hkv : u.splitKeyValue p with
              | none =>
                  rw [hkv] at h
                  simp only [Option.toList_none, ite_self, List.nil_append]
                  exact ih h
              | some kv =>
                  rw [hkv] at h
                  dsimp only at h
                  by_cases hsec : 0 ≤ s.1
                  · rw [if_pos hsec] at h
                    cases hini : handleIniConfig u s.1 kv.1 kv.2 s.2 with
                    | error halt =>
                        rw [hini] at h
                        cases h
                    | ok b =>
                        rw [hini] at h
                        exact (handleIniConfig_view hini).trans (ih (s := (s.1, b)) h)
                  · rw [if_neg hsec] at h
                    rw [if_neg (by omega)]
                    exact ih h

theorem parseFile_view {files : Files} {read : Text → Bindings → Outcome (Option Bindings)}
    {below : Text → List (Text × Text)}
    (hread : ∀ name b r, read name b = .ok r → View u b (below name) (r.getD b)) {filename : Text}
    {b : Bindings}
    {r : Option Bindings} (h : parseFile u files read filename b = .ok r) :
    View u b (fileAssignments u files below filename) (r.getD b) := by
  unfold parseFile at h
  unfold fileAssignments
  cases hfile : files filename with
  | none =>
      rw [hfile] at h
      cases h
      exact .refl b
  | some lines =>
      rw [hfile] at h
      dsimp only at h ⊢
      cases hlines : lines.foldlM (parseLine u read filename) (-2, b) with
      | error halt =>
          rw [hlines] at h
          cases h
      | ok t =>
          rw [hlines] at h
          cases h
          exact lines_view hread (s := (-2, b)) hlines

theorem parseOneConfigFile_view {files : Files} :
    ∀ {n : Nat} {filename : Text} {b : Bindings} {r : Option Bindings},
    parseOneConfigFile u files n filename b = .ok r →
    View u b (assignments u files n filename) (r.getD b)
  | 0, _, _, _, h => by
      refine parseFile_view (fun name b r hr => ?_) h
      cases hr
      exact .refl b
  | n + 1, _, _, _, h => parseFile_view (fun _ _ _ hr => parseOneConfigFile_view hr) h

theorem reloadAssignments_other {inKeymap : Bool} {p : Text} {lines : List Text}
    (hp : p ≠ [] ∧ ∀ rest, p ≠ '[' :: rest) :
    reloadAssignments u inKeymap (p :: lines) =
      (if inKeymap then (u.splitKeyValue p).toList else []) ++
        reloadAssignments u inKeymap lines := by
  rw [reloadAssignments]
  · exact hp.1
  · exact hp.2

theorem reloadLine_other {p : Text} {s : Bool × Bindings} (hp : p ≠ [] ∧ ∀ rest, p ≠ '[' :: rest) :
    reloadLine u s p =
      if !s.1 then .ok s
      else
        match u.splitKeyValue p with
        | none => .ok s
        | some (key, value) => handleIniConfig u 0 key value s.2 >>= fun b => .ok (s.1, b) := by
  unfold reloadLine
  split
  · exact absurd rfl hp.1
  · exact absurd rfl (hp.2 _)
  · rfl

/-- What `ConfigReloadKeyMap` makes of the lines. -/
theorem reloadLines_eq : ∀ (lines : List Text) (s : Bool × Bindings),
    (lines.foldlM (reloadLine u) s).map Prod.snd =
      (keyMapHashAddAll s.2.keyboard (keysOf u (reloadAssignments u s.1 lines))).map
        (s.2.applied u (reloadAssignments u s.1 lines)) := by
  intro lines
  induction lines with
  | nil =>
      intro s
      simp [reloadAssignments, keysOf, mentions, Bindings.applied, keyMapHashAddAll, Except.map]
  | cons p lines ih =>
      intro s
      rw [List.foldlM_cons]
      rcases line_cases p with rfl | ⟨rest, rfl⟩ | hp
      · exact ih s
      · exact ih (u.equalsNoCase ('[' :: rest) "[KeyMap]".toList, s.2)
      · rw [reloadLine_other hp, reloadAssignments_other hp]
        cases hin : s.1 with
        | false =>
            simp only [Bool.not_false, if_true, outcome_bind, Bool.false_eq_true, if_false,
              List.nil_append]
            rw [← hin]
            exact ih s
        | true =>
            simp only [Bool.not_true, Bool.false_eq_true, if_false, if_true]
            cases hkv : u.splitKeyValue p with
            | none =>
                simp only [outcome_bind, Option.toList_none, List.nil_append]
                rw [← hin]
                exact ih s
            | some kv =>
                simp only [Option.toList_some]
                have hini : handleIniConfig u 0 kv.1 kv.2 s.2 = handleKeyMap u kv.1 kv.2 s.2 :=
                  if_pos rfl
                rw [hini, handleKeyMap_eq, keysOf_append]
                cases hadd : keyMapHashAddAll s.2.keyboard (keysOf u [(kv.1, kv.2)]) with
                | error halt =>
                    unfold keyMapHashAddAll at hadd ⊢
                    rw [List.foldlM_append, hadd]
                    rfl
                | ok keyboard =>
                    rw [addAll_append hadd]
                    refine (ih (true, s.2.applied u [(kv.1, kv.2)] keyboard)).trans ?_
                    dsimp only
                    have happly : ∀ keyboard', (s.2.applied u [(kv.1, kv.2)] keyboard).applied u
                        (reloadAssignments u true lines) keyboard' =
                        s.2.applied u ([(kv.1, kv.2)] ++ reloadAssignments u true lines)
                          keyboard' := by
                      intro keyboard'
                      simp only [Bindings.applied, mentions_append, Bool.or_assoc]
                    exact congrFun (congrArg Except.map (funext happly)) _

end Lines

/-! ## Included files -/

section Includes

variable {u : Util}

/-- The files that lines include. -/
def includes (u : Util) (filename : Text) (lines : List Text) : List Text :=
  lines.filterMap (includeTarget u filename)

theorem includes_cons (filename p : Text) (lines : List Text) :
    includes u filename (p :: lines) = (includeTarget u filename p).toList ++
      includes u filename lines := by
  unfold includes
  rw [List.filterMap_cons]
  cases includeTarget u filename p <;> rfl

/-- The lines of a file itself. -/
def ownAssignments (u : Util) (f : Text) (T : List Text) : List (Text × Text) :=
  lineAssignments u (fun _ => []) f (-2) T

/-- The assignments of the files that a file includes. -/
def includedAssignments (u : Util) (files : Files) (f : Text) (T : List Text) :
    List (Text × Text) :=
  (includes u f T).flatMap (assignments u files 10)

theorem lineAssignments_included {below : Text → List (Text × Text)} {filename g : Text}
    {a : Text × Text}
    (ha : a ∈ below g) : ∀ {lines : List Text} {sec : Int}, g ∈ includes u filename lines →
      a ∈ lineAssignments u below filename sec lines := by
  intro lines
  induction lines with
  | nil => intro sec hg; cases hg
  | cons p lines ih =>
      intro sec hg
      rw [includes_cons, List.mem_append] at hg
      rcases line_cases p with rfl | ⟨rest, rfl⟩ | hp
      · exact ih (hg.resolve_left List.not_mem_nil)
      · exact @ih (getIniSection u ('[' :: rest)) (hg.resolve_left List.not_mem_nil)
      · rw [lineAssignments_other hp, List.mem_append]
        rcases hg with hg | hg
        · rw [Option.mem_toList] at hg
          rw [hg]
          exact .inl ha
        · exact .inr (ih hg)

/-- A key that no included file binds is bound by the file's own lines, or not at all. -/
theorem firstAdded_own {below : Text → List (Text × Text)} {filename : Text} {key : UInt16} :
    ∀ {lines : List Text} (sec : Int),
    (∀ g ∈ includes u filename lines, ∀ c ∈ keysOf u (below g), c.1 ≠ key) →
      firstAdded (keysOf u (lineAssignments u below filename sec lines)) key =
        firstAdded (keysOf u (lineAssignments u (fun _ => []) filename sec lines)) key := by
  intro lines
  induction lines with
  | nil => intro sec _; rfl
  | cons p lines ih =>
      intro sec hbelow
      rw [includes_cons, List.forall_mem_append] at hbelow
      rcases line_cases p with rfl | ⟨rest, rfl⟩ | hp
      · exact ih sec hbelow.2
      · exact ih (getIniSection u ('[' :: rest)) hbelow.2
      · rw [lineAssignments_other hp, lineAssignments_other hp, keysOf_append, keysOf_append,
          firstAdded_append, firstAdded_append, ih sec hbelow.2]
        cases htarget : includeTarget u filename p with
        | none => rfl
        | some g =>
            rw [htarget] at hbelow
            dsimp only
            rw [firstAdded_eq_none.2 (hbelow.1 g List.mem_cons_self)]
            rfl

/-- The lines of a file name what its own lines name, and more. -/
theorem mentions_own {below : Text → List (Text × Text)} {filename : Text} {i : Nat} :
    ∀ {lines : List Text} {sec : Int},
    mentions u (lineAssignments u (fun _ => []) filename sec lines) i = true →
      mentions u (lineAssignments u below filename sec lines) i = true := by
  intro lines
  induction lines with
  | nil => exact fun h => h
  | cons p lines ih =>
      intro sec h
      rcases line_cases p with rfl | ⟨rest, rfl⟩ | hp
      · exact ih h
      · exact @ih (getIniSection u ('[' :: rest)) h
      · rw [lineAssignments_other hp, mentions_append, Bool.or_eq_true] at h ⊢
        rcases h with h | h
        · cases htarget : includeTarget u filename p with
          | none =>
              rw [htarget] at h
              exact .inl h
          | some g =>
              rw [htarget] at h
              cases h
        · exact .inr (ih h)

theorem getIniSection_keyMap (p : Text) : getIniSection u p = 0 ↔
    u.equalsNoCase p "[KeyMap]".toList = true := by
  unfold getIniSection
  split
  case isTrue h => exact ⟨fun _ => h, fun _ => rfl⟩
  case isFalse h =>
    refine ⟨fun hzero => ?_, fun hkey => absurd hkey h⟩
    repeat' split at hzero
    all_goals exact absurd hzero (by decide)

/-- Where no include line assigns to a key name, the reload sees what the lines of the file say. -/
theorem reload_lines (filename : Text) : ∀ (lines : List Text) (sec : Int),
    (∀ p ∈ lines, ∀ g, includeTarget u filename p = some g → ∀ key value,
      u.splitKeyValue p = some (key, value) →
      findKeyName u key = none) →
    keysOf u (reloadAssignments u (decide (sec = 0)) lines) =
        keysOf u (lineAssignments u (fun _ => []) filename sec lines) ∧
      ∀ i, mentions u (reloadAssignments u (decide (sec = 0)) lines) i =
        mentions u (lineAssignments u (fun _ => []) filename sec lines) i := by
  intro lines
  induction lines with
  | nil => intro sec _; exact ⟨rfl, fun _ => rfl⟩
  | cons p lines ih =>
      intro sec hname
      rw [List.forall_mem_cons] at hname
      rcases line_cases p with rfl | ⟨rest, rfl⟩ | hp
      · exact ih sec hname.2
      · have hsec : decide (getIniSection u ('[' :: rest) = 0) =
          u.equalsNoCase ('[' :: rest) "[KeyMap]".toList := by
          rw [Bool.eq_iff_iff, decide_eq_true_eq, getIniSection_keyMap]
        have hrest := ih (getIniSection u ('[' :: rest)) hname.2
        rw [hsec] at hrest
        exact hrest
      · obtain ⟨hkeys, hmentions⟩ := ih sec hname.2
        have hhead : keysOf u (if decide (sec = 0) then (u.splitKeyValue p).toList else []) =
              keysOf u (match includeTarget u filename p with
                | some _ => []
                | none => if sec = 0 then (u.splitKeyValue p).toList else []) ∧
            ∀ i, mentions u (if decide (sec = 0) then (u.splitKeyValue p).toList else []) i =
              mentions u (match includeTarget u filename p with
                | some _ => []
                | none => if sec = 0 then (u.splitKeyValue p).toList else []) i := by
          cases htarget : includeTarget u filename p with
          | none => simp only [decide_eq_true_eq]; exact ⟨trivial, fun _ => trivial⟩
          | some g =>
              cases hkv : u.splitKeyValue p with
              | none => simp [keysOf, mentions]
              | some kv =>
                  have hnone := hname.1 g htarget kv.1 kv.2 hkv
                  by_cases hsec : sec = 0 <;> simp [keysOf, mentions, hsec, hnone]
        rw [reloadAssignments_other hp, lineAssignments_other hp]
        refine ⟨?_, fun i => ?_⟩
        · rw [keysOf_append, keysOf_append, hhead.1, hkeys]
        · rw [mentions_append, mentions_append, hhead.2, hmentions]

end Includes

/-! ## The two maps -/

section Agreement

variable {u : Util} {f : Text} {T : List Text}

/-- What the readers rely on: a key keeps the exclamation mark of its line, and no name has one. -/
structure Reads (u : Util) : Prop where
  equal_mark : ∀ s t, u.equalsNoCase ('!' :: s) t = true → t.head? = some '!'
  split_mark : ∀ p key value, u.splitKeyValue ('!' :: p) = some (key, value) → key.head? = some '!'

theorem Reads.include_no_key (hu : Reads u) {p g key value : Text}
    (htarget : includeTarget u f p = some g)
    (hkv : u.splitKeyValue p = some (key, value)) : findKeyName u key = none := by
  have hp : ∃ rest, p = '!' :: rest := by
    unfold includeTarget at htarget
    split at htarget
    · exact ⟨_, rfl⟩
    · cases htarget
  obtain ⟨rest, rfl⟩ := hp
  have hmark := hu.split_mark rest key value hkv
  unfold findKeyName
  rw [Option.map_eq_none_iff, List.find?_eq_none]
  intro k hk hequal
  cases key with
  | nil => cases hmark
  | cons c key =>
      cases Option.some.inj hmark
      have hhead := hu.equal_mark key k.1.name hequal
      have hplain : ∀ k ∈ kKeyNameId.zipIdx, k.1.name.head? ≠ some '!' := by decide
      exact hplain k hk hhead

/-- All that is added to the empty map. -/
def additions (u : Util) (as : List (Text × Text)) : List (UInt16 × UInt16) :=
  keysOf u as ++ defaultCalls (mentions u as)

theorem outcome_bind_ok {α β : Type} {x : Outcome α} {next : α → Outcome β} {b : β}
    (h : x >>= next = .ok b) :
    ∃ a, x = .ok a ∧ next a = .ok b := by
  cases x with
  | error halt => cases h
  | ok a => exact ⟨a, rfl, h⟩

theorem registerDefaultKeys_keyboard {b b' : Bindings} (h : registerDefaultKeys b = .ok b') :
    keyMapHashAddAll b.keyboard (defaultCalls b.hasKeyNameId) = .ok b'.keyboard := by
  unfold registerDefaultKeys at h
  obtain ⟨keyboard, hkeyboard, h⟩ := outcome_bind_ok h
  rw [hkeyboard]
  dsimp only at h
  split at h <;> obtain ⟨gamepads, -, h⟩ := outcome_bind_ok h <;> split at h <;>
    obtain ⟨gamepads', -, h⟩ := outcome_bind_ok h <;> cases h <;> rfl

theorem parseConfigFile_map {files : Files} {b : Bindings}
    (h : parseConfigFile u files f .empty = .ok b) :
    keyMapHashAddAll .empty (additions u (assignments u files 11 f)) = .ok b.keyboard := by
  unfold parseConfigFile at h
  obtain ⟨r, hread, h⟩ := outcome_bind_ok h
  obtain ⟨hkeys, hnames⟩ := parseOneConfigFile_view hread
  have hgiven : (r.getD .empty).hasKeyNameId = mentions u (assignments u files 11 f) :=
    funext fun i => (hnames i).trans (Bool.false_or _)
  have hdefaults := registerDefaultKeys_keyboard h
  rw [hgiven] at hdefaults
  exact (addAll_append hkeys).trans hdefaults

theorem configReloadKeyMap_map {files : Files} (hf : files f = some T) (b : Bindings) :
    (configReloadKeyMap u files f b).map (fun b => b.keyboard.map) =
      (keyMapHashAddAll .empty (additions u (reloadAssignments u false T))).map Keyboard.map := by
  have hlines :=
    reloadLines_eq (u := u) T (false, { b with keyboard := .empty, hasKeyNameId := fun _ => false })
  unfold configReloadKeyMap
  rw [hf]
  dsimp only at hlines ⊢
  cases hrun : T.foldlM (reloadLine u)
    (false, { b with keyboard := .empty, hasKeyNameId := fun _ => false }) with
  | error halt =>
      rw [hrun] at hlines
      cases hkeys : keyMapHashAddAll .empty (keysOf u (reloadAssignments u false T)) with
      | ok keyboard =>
          rw [hkeys] at hlines
          cases hlines
      | error halt' =>
          rw [hkeys] at hlines
          cases hlines
          unfold additions
          unfold keyMapHashAddAll at hkeys ⊢
          rw [List.foldlM_append, hkeys]
          rfl
  | ok s =>
      rw [hrun] at hlines
      cases hkeys : keyMapHashAddAll .empty (keysOf u (reloadAssignments u false T)) with
      | error halt =>
          rw [hkeys] at hlines
          cases hlines
      | ok keyboard =>
          rw [hkeys] at hlines
          have hs : s.2 =
            Bindings.applied u { b with keyboard := .empty, hasKeyNameId := fun _ => false }
              (reloadAssignments u false T) keyboard := Except.ok.inj hlines
          have hgiven : s.2.hasKeyNameId = mentions u (reloadAssignments u false T) := by
            rw [hs]
            exact funext fun i => Bool.false_or _
          unfold additions
          rw [addAll_append hkeys, ← hgiven]
          simp only [outcome_bind, hs, Bindings.applied]
          cases keyMapHashAddAll keyboard
            (defaultCalls (fun i => false || mentions u (reloadAssignments u false T) i)) <;>
            rfl

theorem additions_reload (hu : Reads u) :
    additions u (reloadAssignments u false T) = additions u (ownAssignments u f T) := by
  obtain ⟨hkeys, hnames⟩ := reload_lines (u := u) f T (-2)
    fun p _ g htarget key value hkv => hu.include_no_key htarget hkv
  have hnone : decide ((-2 : Int) = 0) = false := rfl
  rw [hnone] at hkeys hnames
  unfold additions
  rw [hkeys, funext hnames]
  rfl

theorem assignments_self {files : Files} (hf : files f = some T) (n : Nat) :
    assignments u files (n + 1) f = lineAssignments u (assignments u files n) f (-2) T := by
  change fileAssignments u files (assignments u files n) f = _
  unfold fileAssignments
  rw [hf]

/-- A default gives a key to one command, which is not the first. -/
theorem defaultCalls_once {given given' : Nat → Bool} {c c' : UInt16 × UInt16}
    (hc : c ∈ defaultCalls given)
    (hc' : c' ∈ defaultCalls given') (hkey : c.1 ≠ 0) (hsame : c'.1 = c.1) : c' = c ∧ c.2 ≠ 0 := by
  have hkeys : (((defaultCalls fun _ => false).filter fun c => c.1 != 0).map Prod.fst).Nodup := by
    decide +kernel
  have hcommands : ∀ c ∈ defaultCalls fun _ => false, c.1 ≠ 0 → c.2 ≠ 0 :=
    List.all_iff_forall_prop.1 (by decide +kernel)
  have hall : ∀ {given : Nat → Bool} {c : UInt16 × UInt16}, c ∈ defaultCalls given →
    c ∈ defaultCalls fun _ => false := by
    intro given c hc
    obtain ⟨k, hk, hc⟩ := List.mem_flatMap.1 hc
    exact List.mem_flatMap.2 ⟨k, List.mem_filter.2 ⟨(List.mem_filter.1 hk).1, rfl⟩, hc⟩
  have hmem : c ∈ (defaultCalls fun _ => false).filter fun c => c.1 != 0 :=
    List.mem_filter.2 ⟨hall hc, bne_iff_ne.2 hkey⟩
  have hmem' : c' ∈ (defaultCalls fun _ => false).filter fun c => c.1 != 0 :=
    List.mem_filter.2 ⟨hall hc', bne_iff_ne.2 (hsame ▸ hkey)⟩
  exact ⟨List.inj_on_of_nodup_map hkeys hmem' hmem hsame, hcommands c (hall hc) hkey⟩

/-- A default that names leave is one that fewer names leave. -/
theorem defaultCalls_mono {given given' : Nat → Bool} (h : ∀ i, given i = true → given' i = true)
    {c : UInt16 × UInt16} (hc : c ∈ defaultCalls given') : c ∈ defaultCalls given := by
  obtain ⟨k, hk, hc⟩ := List.mem_flatMap.1 hc
  obtain ⟨hk, hfree⟩ := List.mem_filter.1 hk
  refine List.mem_flatMap.2 ⟨k, List.mem_filter.2 ⟨hk, ?_⟩, hc⟩
  cases hgiven : given k.2 with
  | false => rfl
  | true =>
      rw [h k.2 hgiven] at hfree
      exact hfree

/-- The reload loses nothing: what the file's own lines and the defaults add has room; a key that an
included file binds has its command from them too; and a default whose name only included files give
is bound by some line. -/
structure Undropped (u : Util) (files : Files) (f : Text) (T : List Text) : Prop where
  room : (keyed (additions u (ownAssignments u f T))).length ≤ 10240
  keys : ∀ c ∈ keysOf u (includedAssignments u files f T), c.1 ≠ 0 →
    (firstAdded (keysOf u (assignments u files 11 f)) c.1).getD 0 =
      (firstAdded (additions u (ownAssignments u f T)) c.1).getD 0
  defaults : ∀ c ∈ defaultCalls (mentions u (ownAssignments u f T)),
    c ∉ defaultCalls (mentions u (assignments u files 11 f)) → c.1 ≠ 0 →
      ∃ c' ∈ keysOf u (assignments u files 11 f), c'.1 = c.1

/-- The keys of the included files are among those of the file. -/
theorem keysOf_included {files : Files} (hf : files f = some T) {c : UInt16 × UInt16}
    (hc : c ∈ keysOf u (includedAssignments u files f T)) :
    c ∈ keysOf u (assignments u files 11 f) := by
  obtain ⟨a, ha, hc⟩ := List.mem_flatMap.1 hc
  obtain ⟨g, hg, ha⟩ := List.mem_flatMap.1 ha
  rw [assignments_self hf]
  exact List.mem_flatMap.2 ⟨a, lineAssignments_included ha hg, hc⟩

theorem firstAdded_unincluded {files : Files} (hf : files f = some T) {key : UInt16}
    (hkey : ∀ c ∈ keysOf u (includedAssignments u files f T), c.1 ≠ key) :
    firstAdded (keysOf u (assignments u files 11 f)) key =
      firstAdded (keysOf u (ownAssignments u f T)) key := by
  rw [assignments_self hf]
  refine firstAdded_own (-2) fun g hg c hc => hkey c ?_
  obtain ⟨a, ha, hc⟩ := List.mem_flatMap.1 hc
  exact List.mem_flatMap.2 ⟨a, List.mem_flatMap.2 ⟨g, hg, ha⟩, hc⟩

theorem additions_bound {as : List (Text × Text)} {key : UInt16}
    (h : firstAdded (keysOf u as) key ≠ none) :
    firstAdded (additions u as) key = firstAdded (keysOf u as) key := by
  obtain ⟨cmd, hcmd⟩ := Option.ne_none_iff_exists'.1 h
  unfold additions
  rw [firstAdded_append, hcmd]
  rfl

theorem additions_unbound {as : List (Text × Text)} {key : UInt16}
    (h : firstAdded (keysOf u as) key = none) :
    firstAdded (additions u as) key = firstAdded (defaultCalls (mentions u as)) key := by
  unfold additions
  rw [firstAdded_append, h]
  rfl

/-- A key that no line of the files binds is not bound by the own lines. -/
theorem firstAdded_unbound {files : Files} (hf : files f = some T) {key : UInt16}
    (h : firstAdded (keysOf u (assignments u files 11 f)) key = none) :
    firstAdded (keysOf u (ownAssignments u f T)) key = none := by
  rw [← firstAdded_unincluded hf fun c hc => firstAdded_eq_none.1 h c (keysOf_included hf hc)]
  exact h

theorem Undropped.lookup {files : Files} (hf : files f = some T) (h : Undropped u files f T)
    {key : UInt16}
    (hkey : key ≠ 0) : (firstAdded (additions u (ownAssignments u f T)) key).getD 0 =
      (firstAdded (additions u (assignments u files 11 f)) key).getD 0 := by
  by_cases hbound : firstAdded (keysOf u (assignments u files 11 f)) key = none
  · -- a default, if it is bound at all
    have hunbound := firstAdded_unbound hf hbound
    rw [additions_unbound hbound, additions_unbound hunbound]
    refine congrArg (fun cmd : Option UInt16 => cmd.getD 0) (Option.ext fun cmd => ?_)
    have hmono : ∀ {c : UInt16 × UInt16}, c ∈ defaultCalls (mentions u (assignments u files 11 f)) →
        c ∈ defaultCalls (mentions u (ownAssignments u f T)) := by
      refine defaultCalls_mono fun i hi => ?_
      rw [assignments_self hf]
      exact mentions_own hi
    have hfirst : ∀ {given : Nat → Bool}, firstAdded (defaultCalls given) key = some cmd ↔
        (key, cmd) ∈ defaultCalls given := by
      refine fun {given} => ⟨firstAdded_mem, fun hmem => ?_⟩
      cases hadded : firstAdded (defaultCalls given) key with
      | none => exact absurd rfl (firstAdded_eq_none.1 hadded _ hmem)
      | some cmd' =>
          exact congrArg (some ∘ Prod.snd)
            (defaultCalls_once hmem (firstAdded_mem hadded) hkey rfl).1
    rw [hfirst, hfirst]
    refine ⟨fun hmem => ?_, hmono⟩
    by_contra hgone
    obtain ⟨c', hc', hsame⟩ := h.defaults _ hmem hgone hkey
    exact firstAdded_eq_none.1 hbound c' hc' hsame
  · rw [additions_bound hbound]
    by_cases hincluded : ∃ c ∈ keysOf u (includedAssignments u files f T), c.1 = key
    · obtain ⟨c, hc, rfl⟩ := hincluded
      exact (h.keys c hc hkey).symm
    · have hown := firstAdded_unincluded hf fun c hc heq => hincluded ⟨c, hc, heq⟩
      rw [hown] at hbound ⊢
      rw [additions_bound hbound]

theorem undropped_of_lookup {files : Files} (hf : files f = some T)
    (hroom : (keyed (additions u (ownAssignments u f T))).length ≤ 10240)
    (h : ∀ key, key ≠ 0 → (firstAdded (additions u (ownAssignments u f T)) key).getD 0 =
      (firstAdded (additions u (assignments u files 11 f)) key).getD 0) :
        Undropped u files f T where
  room := hroom
  keys c hc hkey := by
    have hbound : firstAdded (keysOf u (assignments u files 11 f)) c.1 ≠ none := fun hnone =>
      firstAdded_eq_none.1 hnone c (keysOf_included hf hc) rfl
    rw [h c.1 hkey, additions_bound hbound]
  defaults c hc hgone hkey := by
    by_contra hnone
    push Not at hnone
    have hbound := firstAdded_eq_none.2 hnone
    have hsame := h c.1 hkey
    have hdropped : firstAdded (defaultCalls (mentions u (assignments u files 11 f))) c.1 =
      none := by
      refine firstAdded_eq_none.2 fun c' hc' heq => hgone ?_
      rw [← (defaultCalls_once hc hc' hkey heq).1]
      exact hc'
    rw [additions_unbound hbound, additions_unbound (firstAdded_unbound hf hbound), hdropped]
      at hsame
    cases hadded : firstAdded (defaultCalls (mentions u (ownAssignments u f T))) c.1 with
    | none => exact firstAdded_eq_none.1 hadded c hc rfl
    | some cmd =>
        obtain ⟨-, hcommand⟩ := defaultCalls_once (firstAdded_mem hadded) hc hkey rfl
        rw [hadded] at hsame
        exact hcommand hsame

theorem parseConfigFile_find {files : Files} {b : Bindings}
    (h : parseConfigFile u files f .empty = .ok b)
    {key : UInt16} (hkey : key ≠ 0) : keyMapHashFind b.keyboard.map key =
      .ok ((firstAdded (additions u (assignments u files 11 f)) key).getD 0) :=
  keyMapHashAddAll_find (parseConfigFile_map h) hkey

theorem configReloadKeyMap_find (hu : Reads u) {files : Files} (hf : files f = some T)
    {b r : Bindings}
    (h : configReloadKeyMap u files f b = .ok r) :
    (keyed (additions u (ownAssignments u f T))).length ≤ 10240 ∧ ∀ key, key ≠ 0 →
      keyMapHashFind r.keyboard.map key =
        .ok ((firstAdded (additions u (ownAssignments u f T)) key).getD 0) := by
  have hmap := configReloadKeyMap_map (u := u) hf b
  rw [h, additions_reload (f := f) hu] at hmap
  cases hadd : keyMapHashAddAll .empty (additions u (ownAssignments u f T)) with
  | error halt =>
      rw [hadd] at hmap
      cases hmap
  | ok keyboard =>
      rw [hadd] at hmap
      have hkeyboard : r.keyboard.map = keyboard.map := Except.ok.inj hmap
      have hlimit := keyMapHashAddAll_limit (b := .empty) Bound.empty (Nat.zero_le _) hadd
      refine ⟨hlimit, fun key hkey => ?_⟩
      rw [hkeyboard, keyMapHashAddAll_find hadd hkey]

theorem configReloadKeyMap_ok (hu : Reads u) {files : Files} (hf : files f = some T) (b : Bindings)
    (hroom : (keyed (additions u (ownAssignments u f T))).length ≤ 10240) :
    ∃ r, configReloadKeyMap u files f b = .ok r := by
  have hmap := configReloadKeyMap_map (u := u) hf b
  obtain ⟨keyboard, hadd, -⟩ := keyMapHashAddAll_spec (b := .empty)
    (additions u (ownAssignments u f T)) Bound.empty hroom
  rw [additions_reload (f := f) hu, hadd] at hmap
  cases hrun : configReloadKeyMap u files f b with
  | error halt =>
      rw [hrun] at hmap
      cases hmap
  | ok r => exact ⟨r, rfl⟩

/-- Where a start reads the files to the end, a reload gives every key the command it has after the
start, exactly when what the included files give to the key map is in the file's own lines and the
defaults too. -/
theorem reload_agrees_iff (hu : Reads u) {files : Files} (hf : files f = some T)
    {started : Bindings}
    (hstart : parseConfigFile u files f .empty = .ok started) (b : Bindings) :
    (∃ reloaded, configReloadKeyMap u files f b = .ok reloaded ∧ ∀ key, key ≠ 0 →
      keyMapHashFind reloaded.keyboard.map key = keyMapHashFind started.keyboard.map key) ↔
      Undropped u files f T := by
  constructor
  · rintro ⟨reloaded, hreload, hsame⟩
    obtain ⟨hroom, hfind⟩ := configReloadKeyMap_find hu hf hreload
    refine undropped_of_lookup hf hroom fun key hkey => ?_
    have hkeys := hsame key hkey
    rw [hfind key hkey, parseConfigFile_find hstart hkey] at hkeys
    exact Except.ok.inj hkeys
  · intro h
    obtain ⟨reloaded, hreload⟩ := configReloadKeyMap_ok hu hf b h.room
    obtain ⟨-, hfind⟩ := configReloadKeyMap_find hu hf hreload
    refine ⟨reloaded, hreload, fun key hkey => ?_⟩
    rw [hfind key hkey, parseConfigFile_find hstart hkey, h.lookup hf hkey]

end Agreement

/-! ## Two files -/

/-- Text functions for plain lines; SDL numbers a one-letter key by its letter. -/
def plainUtil : Util where
  equalsNoCase s t := decide (s.map Char.toLower = t.map Char.toLower)
  startsWithNoCase s p :=
    if (s.take p.length).map Char.toLower = p.map Char.toLower then some (s.drop p.length) else none
  starts_length := by
    intro s p r h
    split at h
    case isTrue hprefix =>
      have hlen := congrArg List.length hprefix
      cases h
      simp only [List.length_map, List.length_take, List.length_drop] at hlen ⊢
      omega
    case isFalse => cases h
  skipPrefix s p := p.isPrefixOf s
  splitKeyValue s :=
    if '=' ∈ s then
      some (((s.takeWhile (· ≠ '=')).reverse.dropWhile isBlank).reverse,
        (s.dropWhile (· ≠ '=')).tail.dropWhile isBlank)
    else none
  nextDelim c s := (s.splitOn c).map (List.dropWhile isBlank)
  nextPossiblyQuotedString s := s.dropWhile isBlank
  replaceFilenameWithNewPath f name := (f.reverse.dropWhile (· ≠ '/')).reverse ++ name
  getKeyFromName name :=
    match name with
    | [c] => c.toLower.val
    | _ => 0

theorem toLower_mark {c : Char} (h : c.toLower = '!') : c = '!' := by
  unfold Char.toLower at h
  split at h
  case isTrue hupper =>
    exfalso
    obtain ⟨hlow, hhigh⟩ := hupper
    have hval : c.val + ('a'.val - 'A'.val) = '!'.val := congrArg Char.val h
    have hc : c.val = '!'.val - ('a'.val - 'A'.val) := by rw [← hval, UInt32.add_sub_cancel]
    rw [hc] at hlow hhigh
    revert hlow hhigh
    decide
  case isFalse => exact h

theorem plainUtil_reads : Reads plainUtil where
  equal_mark s t h := by
    have hmap := of_decide_eq_true h
    cases t with
    | nil => cases hmap
    | cons c t =>
        rw [List.map_cons, List.map_cons] at hmap
        have hc : c.toLower = '!' := (List.cons.inj hmap).1.symm
        rw [List.head?_cons, toLower_mark hc]
  split_mark p key value h := by
    simp only [plainUtil] at h
    split at h
    · cases h
      have htake : ('!' :: p).takeWhile (· ≠ '=') = '!' :: p.takeWhile (· ≠ '=') := rfl
      have hmark : isBlank '!' = false := rfl
      rw [htake, List.reverse_cons, List.dropWhile_append, List.dropWhile_cons, hmark]
      split
      · rfl
      · rw [List.reverse_append]
        rfl
    · cases h

def hotkeyLines : List Text := ["[KeyMap]".toList, "Turbo = k".toList]

def includingLines : List Text := ["[KeyMap]".toList, "!include hotkeys.ini".toList]

/-- `config.ini` with the lines given, and `hotkeys.ini`. -/
def withHotkeys (T : List Text) : Files := fun g =>
  if g = "config.ini".toList then some T else if g = "hotkeys.ini".toList then some hotkeyLines
    else none

/-- The file binds the key itself before it includes `hotkeys.ini`, itself and a file that is
missing. -/
def bindingLines : List Text :=
  ["[KeyMap]".toList, "Turbo = k".toList, "!include hotkeys.ini".toList,
    "!include config.ini".toList, "!include missing.ini".toList]

theorem ok_of_isOk {α : Type} {x : Outcome α} (h : x.isOk = true) : ∃ a, x = .ok a := by
  cases x with
  | error halt => cases h
  | ok a => exact ⟨a, rfl⟩

/-- The key of `hotkeys.ini` is bound by the file itself. -/
theorem reload_agrees_iff_hotkeys : ∃ started reloaded,
    parseConfigFile plainUtil (withHotkeys bindingLines) "config.ini".toList .empty = .ok started ∧
    configReloadKeyMap plainUtil (withHotkeys bindingLines) "config.ini".toList started =
      .ok reloaded ∧
    ∀ key, key ≠ 0 → keyMapHashFind reloaded.keyboard.map key =
      keyMapHashFind started.keyboard.map key := by
  obtain ⟨started, hstart⟩ := ok_of_isOk
    (x := parseConfigFile plainUtil (withHotkeys bindingLines) "config.ini".toList .empty)
      (by decide +kernel)
  obtain ⟨reloaded, hreload, hsame⟩ :=
    (reload_agrees_iff plainUtil_reads (T := bindingLines) rfl hstart started).2
      ⟨by decide +kernel, List.all_iff_forall_prop.1 (by decide +kernel),
        List.all_iff_forall_prop.1 (by decide +kernel)⟩
  exact ⟨started, reloaded, hstart, hreload, hsame⟩

/-- The key of `hotkeys.ini` turns turbo on after a start, and nothing after a reload. -/
theorem reload_drops_included : ∃ p r key,
    parseConfigFile plainUtil (withHotkeys includingLines) "config.ini".toList .empty = .ok p ∧
    configReloadKeyMap plainUtil (withHotkeys includingLines) "config.ini".toList p = .ok r ∧
    keyMapHashFind p.keyboard.map key = .ok 69 ∧ keyMapHashFind r.keyboard.map key = .ok 0 := by
  have hrun :
      (parseConfigFile plainUtil (withHotkeys includingLines) "config.ini".toList .empty >>= fun p =>
        configReloadKeyMap plainUtil (withHotkeys includingLines) "config.ini".toList p >>= fun r =>
        keyMapHashFind p.keyboard.map (remapSdlKeycode 'k'.val) >>= fun started =>
        keyMapHashFind r.keyboard.map (remapSdlKeycode 'k'.val) >>= fun reloaded =>
        if started = 69 ∧ reloaded = 0 then .ok () else .error (.die "")).isOk = true := by
    decide +kernel
  obtain ⟨done, hrun⟩ := ok_of_isOk hrun
  obtain ⟨p, hp, hrun⟩ := outcome_bind_ok hrun
  obtain ⟨r, hr, hrun⟩ := outcome_bind_ok hrun
  obtain ⟨started, hstarted, hrun⟩ := outcome_bind_ok hrun
  obtain ⟨reloaded, hreloaded, hrun⟩ := outcome_bind_ok hrun
  split at hrun
  case isTrue h =>
    rw [h.1] at hstarted
    rw [h.2] at hreloaded
    exact ⟨p, r, remapSdlKeycode 'k'.val, hp, hr, hstarted, hreloaded⟩
  case isFalse => cases hrun

end SmwRecomp.Config
