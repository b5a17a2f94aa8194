import Mathlib.Data.List.Flatten
import SmwRecomp.Lib.Turns

/-!
# The command line of the cache helper

`run_cache_helper` of `src/src/mods/falcon/smw_falcon_presentation_runtime.c` on Windows, up to the
command line it starts the helper with, and the rules by which the C runtime of the helper splits
that line.

* `helperCommand` — the line; every store checks its place in the buffer.
* `helperCommand_writes` — no store misses the buffer, and what the line is.
* `splitCommand` — the rules.
* `arguments_survive` — what is quoted is split into the same arguments.

Strings are the bytes before their terminator. A count of backslashes is an `unsigned`.
-/

set_option autoImplicit false

namespace SmwRecomp.Falcon

abbrev quoteMark : UInt8 := 0x22
abbrev backslash : UInt8 := 0x5c
abbrev space : UInt8 := 0x20

/-! ## The code -/

/-- `sizeof(command)`. -/
def commandSize : Nat := 8192

inductive Unbuilt where
  | tooLong
  | outOfBounds
  deriving DecidableEq

abbrev Built := Except Unbuilt (List UInt8)

/-- `*out++ = byte`. -/
def store (command : List UInt8) (byte : UInt8) : Built :=
  if command.length < commandSize then .ok (command ++ [byte]) else .error .outOfBounds

def storeIf (c : Prop) [Decidable c] (command : List UInt8) (byte : UInt8) : Built :=
  if c then store command byte else .ok command

/-- A turn of the loop over an argument: the backslashes, and the character behind them. -/
def quoteTurn (command : List UInt8) (turn : Nat × Option UInt8) : Built := do
  let slashes := turn.1 % 2 ^ 32
  let escaped := if turn.2 = some quoteMark ∨ turn.2 = none then slashes * 2 % 2 ^ 32 else slashes
  if command.length + escaped + 4 ≥ commandSize then throw .tooLong
  let command ← (List.replicate escaped backslash).foldlM store command
  let command ← storeIf (turn.2 = some quoteMark) command backslash
  match turn.2 with
  | some character => store command character
  | none => pure command

def quoteArgument (command : List UInt8) (item : List UInt8 × Nat) : Built := do
  if command.length + 4 ≥ commandSize then throw .tooLong
  let command ← storeIf (item.2 ≠ 0) command space
  let command ← store command quoteMark
  let command ← (turnsOf backslash item.1).foldlM quoteTurn command
  store command quoteMark

/-- The command line with its terminator. -/
def helperCommand (argv : List (List UInt8)) : Built := do
  let command ← argv.zipIdx.foldlM quoteArgument []
  store command 0

/-- An ASCII literal. -/
def ascii (text : String) : List UInt8 := text.toList.map fun c => UInt8.ofNat c.toNat

/-- The arguments that the helper is started with. -/
def helperArgv (helper ownerRomPath root result : List UInt8) : List (List UInt8) :=
  [helper, ascii "--rom", ownerRomPath, ascii "--cache-root", root, ascii "--result-file", result]

/-! ## The rules of the C runtime -/

def isBlank (character : UInt8) : Bool := character = space || character = 0x09

structure Splitter where
  arguments : List (List UInt8)
  current : Option (List UInt8)
  quoted : Bool

def Splitter.add (s : Splitter) (bytes : List UInt8) : Splitter :=
  { s with current := some (s.current.getD [] ++ bytes) }

def Splitter.separate (s : Splitter) : Splitter :=
  { s with arguments := s.arguments ++ s.current.toList, current := none }

/-- A run of backslashes and what follows it. -/
def Splitter.turn (s : Splitter) : Nat × Option UInt8 → Splitter
  | (n, none) => s.add (List.replicate n backslash)
  | (n, some character) =>
    if character = quoteMark then
      let s := s.add (List.replicate (n / 2) backslash)
      if n % 2 = 1 then s.add [quoteMark] else { s with quoted := !s.quoted }
    else if isBlank character ∧ s.quoted = false
      then (if n = 0 then s else s.add (List.replicate n backslash)).separate
    else s.add (List.replicate n backslash ++ [character])

/-- The arguments behind the program name. -/
def splitArguments (line : List UInt8) : List (List UInt8) :=
  ((turnsOf backslash line).foldl Splitter.turn ⟨[], none, false⟩).separate.arguments

/-- The program name ends at its closing quote, or without quotes at a blank. -/
def splitCommand : List UInt8 → List (List UInt8)
  | [] => []
  | first :: line =>
    if first = quoteMark then
      line.takeWhile (· ≠ quoteMark) :: splitArguments ((line.dropWhile (· ≠ quoteMark)).drop 1)
    else
      (first :: line.takeWhile fun c => !isBlank c) :: splitArguments
        (line.dropWhile fun c => !isBlank c)

/-! ## The line -/

def turnText (turn : Nat × Option UInt8) : List UInt8 :=
  let slashes := turn.1 % 2 ^ 32
  List.replicate (if turn.2 = some quoteMark ∨ turn.2 = none then slashes * 2 % 2 ^ 32
    else slashes) backslash ++
      ((if turn.2 = some quoteMark then [backslash] else []) ++ turn.2.toList)

def argumentText (item : List UInt8 × Nat) : List UInt8 :=
  (if item.2 ≠ 0 then [space] else []) ++
    ([quoteMark] ++ ((turnsOf backslash item.1).flatMap turnText ++ [quoteMark]))

/-- A part of the program appends a text within a limit, or refuses for length. -/
def Writes (limit : Nat) (command text : List UInt8) : Built → Prop
  | .ok line => line = command ++ text ∧ line.length ≤ limit
  | .error e => e = .tooLong

theorem store_ok {command : List UInt8} (byte : UInt8) (h : command.length < 8192) :
    store command byte = .ok (command ++ [byte]) := if_pos h

theorem store_writes {limit : Nat} {command : List UInt8} (byte : UInt8)
    (h : command.length < limit) (hlimit : limit ≤ 8192) :
    Writes limit command [byte] (store command byte) := by
  rw [store_ok byte (by omega)]
  exact ⟨rfl, by rw [List.length_append, List.length_singleton]; exact h⟩

/-- A store that may be left out. -/
theorem storeIf_writes {limit : Nat} {command : List UInt8} (c : Prop) [Decidable c] (byte : UInt8)
    (h : command.length < limit) (hlimit : limit ≤ 8192) :
    Writes limit command (if c then [byte] else []) (storeIf c command byte) := by
  unfold storeIf
  split
  · exact store_writes byte h hlimit
  · exact ⟨(List.append_nil _).symm, Nat.le_of_lt h⟩

theorem stores_ok {bytes : List UInt8} :
    ∀ {command : List UInt8}, command.length + bytes.length ≤ 8192 →
    bytes.foldlM store command = .ok (command ++ bytes) := by
  induction bytes with
  | nil => exact fun _ => congrArg Except.ok (List.append_nil _).symm
  | cons byte bytes ih =>
      intro command h
      rw [List.length_cons] at h
      have hrest : (command ++ [byte]).length + bytes.length ≤ 8192 := by
        rw [List.length_append, List.length_singleton]
        omega
      rw [List.foldlM_cons, store_ok byte (by omega)]
      exact (ih hrest).trans (congrArg Except.ok (List.append_assoc _ _ _))

theorem Writes.bind {limit limit' : Nat} {command text text' : List UInt8} {built : Built}
    {next : List UInt8 → Built}
    (h : Writes limit command text built)
    (hnext : (command ++ text).length ≤ limit →
      Writes limit' (command ++ text) text' (next (command ++ text))) :
    Writes limit' command (text ++ text') (built >>= next) := by
  cases built with
  | error e => exact h
  | ok line =>
      obtain ⟨hline, hlimit⟩ := h
      subst hline
      have hdone := hnext hlimit
      change Writes limit' command (text ++ text') (next (command ++ text))
      cases hrest : next (command ++ text) with
      | error e =>
          rw [hrest] at hdone
          exact hdone
      | ok line' =>
          rw [hrest] at hdone
          exact ⟨hdone.1.trans (List.append_assoc _ _ _), hdone.2⟩

theorem quoteTurn_writes (command : List UInt8) (turn : Nat × Option UInt8) :
    Writes 8189 command (turnText turn) (quoteTurn command turn) := by
  obtain ⟨n, next⟩ := turn
  unfold quoteTurn turnText
  dsimp only
  generalize (if next = some quoteMark ∨ next = none then n % 2 ^ 32 * 2 % 2 ^ 32 else n % 2 ^ 32) =
    escaped
  by_cases hroom : command.length + escaped + 4 ≥ commandSize
  · rw [if_pos hroom]
    rfl
  · rw [if_neg hroom]
    have hsize : command.length + escaped < 8188 := by
      unfold commandSize at hroom
      omega
    have hslashes : Writes 8187 command (List.replicate escaped backslash)
        ((List.replicate escaped backslash).foldlM store command) := by
      rw [stores_ok (by rw [List.length_replicate]; omega)]
      refine ⟨rfl, ?_⟩
      rw [List.length_append, List.length_replicate]
      omega
    refine hslashes.bind fun hlength => ?_
    generalize command ++ List.replicate escaped backslash = command' at hlength ⊢
    have hmark :=
      storeIf_writes (next = some quoteMark) backslash (Nat.lt_succ_of_le hlength) (by omega)
    refine hmark.bind fun hlength' => ?_
    cases next with
    | some character => exact store_writes character (by omega) (by omega)
    | none => exact ⟨(List.append_nil _).symm, by omega⟩

theorem quoteTurns_writes (turns : List (Nat × Option UInt8)) :
    ∀ {command : List UInt8}, command.length ≤ 8189 →
    Writes 8189 command (turns.flatMap turnText) (turns.foldlM quoteTurn command) := by
  induction turns with
  | nil => exact fun h => ⟨(List.append_nil _).symm, h⟩
  | cons turn turns ih => exact fun _ => (quoteTurn_writes _ turn).bind fun h => ih h

theorem quoteArgument_writes (command : List UInt8) (item : List UInt8 × Nat) :
    Writes 8190 command (argumentText item) (quoteArgument command item) := by
  unfold quoteArgument argumentText
  by_cases hroom : command.length + 4 ≥ commandSize
  · rw [if_pos hroom]
    rfl
  · rw [if_neg hroom]
    have hsize : command.length < 8188 := by
      unfold commandSize at hroom
      omega
    have hblank := storeIf_writes (item.2 ≠ 0) space hsize (by omega)
    refine hblank.bind fun hlength => ?_
    have hopening := store_writes quoteMark (Nat.lt_succ_of_le hlength) (by omega)
    refine hopening.bind fun hlength' => ?_
    exact (quoteTurns_writes _ hlength').bind fun hlength'' =>
      store_writes quoteMark (by omega) (by omega)

theorem quoteArguments_writes (items : List (List UInt8 × Nat)) :
    ∀ {command : List UInt8}, command.length ≤ 8190 →
    Writes 8190 command (items.flatMap argumentText) (items.foldlM quoteArgument command) := by
  induction items with
  | nil => exact fun h => ⟨(List.append_nil _).symm, h⟩
  | cons item items ih => exact fun _ => (quoteArgument_writes _ item).bind fun h => ih h

/-- The stores stay within the buffer, and leave the text of each argument and the terminator. -/
theorem helperCommand_writes (argv : List (List UInt8)) :
    Writes 8191 [] (argv.zipIdx.flatMap argumentText ++ [0]) (helperCommand argv) :=
  (quoteArguments_writes argv.zipIdx (Nat.zero_le _)).bind fun h =>
    store_writes 0 (by omega) (by omega)

/-! ## Splitting it -/

/-- The `unsigned` counts of a turn do not wrap. -/
def CountedTurn (turn : Nat × Option UInt8) : Prop :=
  turn.1 * (if turn.2 = some quoteMark ∨ turn.2 = none then 2 else 1) < 2 ^ 32

/-- Every run of backslashes in an argument is shorter than 2^31 before a quote or the end, and than
2^32 elsewhere. -/
def Counted (argument : List UInt8) : Prop := ∀ turn ∈ turnsOf backslash argument, CountedTurn turn

theorem counted_of_length {argument : List UInt8} (h : argument.length < 2 ^ 31) :
    Counted argument := by
  intro turn hturn
  have hle := turnsOf_le hturn
  unfold CountedTurn
  split <;> omega

theorem turnText_doubled {n : Nat} {next : Option UInt8}
    (hnext : next = some quoteMark ∨ next = none)
    (h : CountedTurn (n, next)) : turnText (n, next) =
      List.replicate (n * 2) backslash ++
        ((if next = some quoteMark then [backslash] else []) ++ next.toList) := by
  unfold CountedTurn at h
  unfold turnText
  dsimp only at h ⊢
  rw [if_pos hnext] at h ⊢
  have hslashes : n % 2 ^ 32 * 2 % 2 ^ 32 = n * 2 := by omega
  rw [hslashes]

theorem turnText_plain {n : Nat} {character : UInt8} (hcharacter : character ≠ quoteMark)
    (h : CountedTurn (n, some character)) :
    turnText (n, some character) = List.replicate n backslash ++ [character] := by
  have hplain : ¬ (some character = some quoteMark ∨ some character = none) := by
    rintro (hquote | hend)
    · exact hcharacter (Option.some.inj hquote)
    · cases hend
  unfold CountedTurn at h
  unfold turnText
  dsimp only at h ⊢
  rw [if_neg hplain] at h ⊢
  rw [if_neg fun hquote => hplain (.inl hquote), Nat.mod_eq_of_lt (by omega)]
  rfl

theorem quoteMark_ne : quoteMark ≠ backslash := by decide

/-- Within quotes a character other than a quote stands for itself. -/
theorem Splitter.turn_quoted (arguments : List (List UInt8)) (current : List UInt8) (n : Nat)
    {character : UInt8}
    (h : character ≠ quoteMark) :
    Splitter.turn ⟨arguments, some current, true⟩ (n, some character) =
      ⟨arguments, some (current ++ (List.replicate n backslash ++ [character])), true⟩ := by
  have hinside : ¬ (isBlank character = true ∧ true = false) :=
    fun hblank => Bool.false_ne_true hblank.2.symm
  unfold Splitter.turn
  dsimp only
  rw [if_neg h, if_neg hinside]
  rfl

/-- An even number of backslashes before a quote: the quote is a delimiter. -/
theorem Splitter.turn_even (arguments : List (List UInt8)) (current : Option (List UInt8))
    (quoted : Bool) (n : Nat) :
    Splitter.turn ⟨arguments, current, quoted⟩ (n * 2, some quoteMark) =
      ⟨arguments, some (current.getD [] ++ List.replicate n backslash), !quoted⟩ := by
  have heven : ¬ n * 2 % 2 = 1 := by omega
  unfold Splitter.turn
  dsimp only
  rw [if_pos rfl, if_neg heven, Nat.mul_div_cancel n (by decide)]
  rfl

/-- An odd number: it is literal. -/
theorem Splitter.turn_odd (arguments : List (List UInt8)) (current : List UInt8)
    (quoted : Bool) (n : Nat) :
    Splitter.turn ⟨arguments, some current, quoted⟩ (n * 2 + 1, some quoteMark) =
      ⟨arguments, some (current ++ (List.replicate n backslash ++ [quoteMark])), quoted⟩ := by
  have hodd : (n * 2 + 1) % 2 = 1 := by omega
  have hhalf : (n * 2 + 1) / 2 = n := by omega
  unfold Splitter.turn
  dsimp only
  rw [if_pos rfl, if_pos hodd, hhalf]
  exact congrArg (fun bytes => Splitter.mk arguments (some bytes) quoted) (List.append_assoc _ _ _)

/-- From its opening quote to its closing one an argument is read back. -/
theorem body_split {turns : List (Nat × Option UInt8)} (h : Turns backslash turns)
    (hcounted : ∀ turn ∈ turns, CountedTurn turn)
    (arguments : List (List UInt8)) (rest : List UInt8) : ∀ current : List UInt8,
    (turnsOf backslash (turns.flatMap turnText ++ quoteMark :: rest)).foldl Splitter.turn
      ⟨arguments, some current, true⟩ =
      (turnsOf backslash rest).foldl Splitter.turn
        ⟨arguments, some (current ++ turns.flatMap (ofTurn backslash)), false⟩ := by
  induction h with
  | nil =>
      intro current
      rw [List.flatMap_nil, List.nil_append, turnsOf_cons quoteMark_ne, List.foldl_cons]
      exact congrArg (List.foldl _ · _) (Splitter.turn_even arguments (some current) true 0)
  | last n =>
      intro current
      rw [List.flatMap_singleton, List.flatMap_singleton,
        turnText_doubled (.inr rfl) (hcounted _ List.mem_cons_self)]
      have htext : List.replicate ((n + 1) * 2) backslash ++
          ((if (none : Option UInt8) = some quoteMark then [backslash] else []) ++
            (none : Option UInt8).toList) ++ quoteMark :: rest =
          List.replicate ((n + 1) * 2) backslash ++ quoteMark :: rest := by
        rw [List.append_assoc]
        rfl
      have hread : current ++ ofTurn backslash (n + 1, none) = current ++ List.replicate
        (n + 1) backslash :=
        congrArg _ (List.append_nil _)
      rw [htext, turnsOf_run backslash _ quoteMark_ne, List.foldl_cons, Splitter.turn_even, hread]
      rfl
  | @cons n character turns hcharacter hturns ih =>
      intro current
      rw [List.forall_mem_cons] at hcounted
      rw [List.flatMap_cons, List.flatMap_cons, List.append_assoc]
      have hread : current ++
        (ofTurn backslash (n, some character) ++ turns.flatMap (ofTurn backslash)) =
          current ++ (List.replicate n backslash ++ [character]) ++ turns.flatMap
            (ofTurn backslash) :=
        (List.append_assoc _ _ _).symm
      rw [hread, ← ih hcounted.2]
      by_cases hquote : character = quoteMark
      · subst hquote
        have htext : turnText (n, some quoteMark) ++ (turns.flatMap turnText ++ quoteMark :: rest) =
            List.replicate (n * 2 + 1) backslash ++ quoteMark ::
              (turns.flatMap turnText ++ quoteMark :: rest) := by
          rw [turnText_doubled (.inl rfl) hcounted.1, if_pos rfl, List.replicate_succ',
            List.append_assoc, List.append_assoc, List.append_assoc]
          rfl
        rw [htext, turnsOf_run backslash _ quoteMark_ne, List.foldl_cons, Splitter.turn_odd]
      · rw [turnText_plain hquote hcounted.1, List.append_assoc, List.singleton_append,
          turnsOf_run backslash _ hcharacter, List.foldl_cons, Splitter.turn_quoted _ _ _ hquote]

theorem arguments_split (items : List (List UInt8 × Nat)) :
    (∀ item ∈ items, item.2 ≠ 0 ∧ Counted item.1) →
    ∀ (arguments : List (List UInt8)) (current : Option (List UInt8)),
    ((turnsOf backslash (items.flatMap argumentText)).foldl Splitter.turn
      ⟨arguments, current, false⟩).separate.arguments =
      arguments ++ current.toList ++ items.map Prod.fst := by
  induction items with
  | nil => exact fun _ _ _ => (List.append_nil _).symm
  | cons item items ih =>
      intro hitems arguments current
      rw [List.forall_mem_cons] at hitems
      obtain ⟨⟨hbehind, hcounted⟩, hitems⟩ := hitems
      have htext : (item :: items).flatMap argumentText = space :: quoteMark ::
          ((turnsOf backslash item.1).flatMap turnText ++ quoteMark ::
            items.flatMap argumentText) := by
        have hitem : argumentText item =
          [space] ++
          ([quoteMark] ++ ((turnsOf backslash item.1).flatMap turnText ++ [quoteMark])) :=
          congrArg (· ++
            ([quoteMark] ++ ((turnsOf backslash item.1).flatMap turnText ++ [quoteMark])))
            (if_pos hbehind)
        rw [List.flatMap_cons, hitem, List.append_assoc, List.append_assoc, List.append_assoc]
        rfl
      have hseparated : Splitter.turn ⟨arguments, current, false⟩ (0, some space) =
        ⟨arguments ++ current.toList, none, false⟩ := rfl
      have hopened : Splitter.turn ⟨arguments ++ current.toList, none, false⟩ (0, some quoteMark) =
          ⟨arguments ++ current.toList, some [], true⟩ := Splitter.turn_even _ none false 0
      rw [htext, turnsOf_cons (by decide), turnsOf_cons quoteMark_ne, List.foldl_cons,
        List.foldl_cons, hseparated, hopened, body_split (turnsOf_turns backslash item.1) hcounted,
        ofTurns_turnsOf, ih hitems, List.map_cons, List.append_assoc]
      rfl

/-- A program name without quotes that does not end in a backslash is written as it is. -/
theorem program_text {turns : List (Nat × Option UInt8)} (h : Turns backslash turns)
    (hcounted : ∀ turn ∈ turns, CountedTurn turn)
    (hquote : quoteMark ∉ turns.flatMap (ofTurn backslash))
    (hend : (turns.flatMap (ofTurn backslash)).getLast? ≠ some backslash) :
    turns.flatMap turnText = turns.flatMap (ofTurn backslash) := by
  induction h with
  | nil => rfl
  | last n =>
      refine absurd ?_ hend
      rw [List.flatMap_singleton]
      unfold ofTurn
      rw [Option.toList_none, List.append_nil, List.replicate_succ', List.getLast?_concat]
  | @cons n character turns hcharacter hturns ih =>
      rw [List.forall_mem_cons] at hcounted
      rw [List.flatMap_cons, List.mem_append, not_or] at hquote
      rw [List.flatMap_cons] at hend
      have hplain : character ≠ quoteMark := by
        rintro rfl
        exact hquote.1 (List.mem_append_right _ List.mem_cons_self)
      have hrest : (turns.flatMap (ofTurn backslash)).getLast? ≠ some backslash := by
        intro hlast
        rw [List.getLast?_append, hlast] at hend
        exact hend rfl
      rw [List.flatMap_cons, List.flatMap_cons, ih hcounted.2 hquote.2 hrest,
        turnText_plain hplain hcounted.1]
      rfl

/-- Nothing is stored outside the buffer, and where the line is not refused, splitting it gives the
arguments back, provided that the backslashes of each can be counted. -/
theorem arguments_survive (program : List UInt8) (arguments : List (List UInt8)) :
    helperCommand (program :: arguments) ≠ .error .outOfBounds ∧
      ((∀ argument ∈ program :: arguments, Counted argument) → quoteMark ∉ program →
        program.getLast? ≠ some backslash →
        ∀ stored, helperCommand (program :: arguments) = .ok stored →
          splitCommand stored.dropLast = program :: arguments) := by
  have hwrites := helperCommand_writes (program :: arguments)
  refine ⟨fun houtside => ?_, fun hcounted hquote hend stored hstored => ?_⟩
  · rw [houtside] at hwrites
    cases hwrites
  · rw [hstored] at hwrites
    rw [List.forall_mem_cons] at hcounted
    have hprogram := ofTurns_turnsOf backslash program
    have hname : (turnsOf backslash program).flatMap turnText = program := by
      have htext := program_text (turnsOf_turns backslash program) hcounted.1
      rw [hprogram] at htext
      exact htext hquote hend
    have htext : stored.dropLast =
      quoteMark :: (program ++ quoteMark :: (arguments.zipIdx 1).flatMap argumentText) := by
      have hfirst : argumentText (program, 0) = quoteMark :: (program ++ [quoteMark]) := by
        unfold argumentText
        rw [hname]
        rfl
      rw [hwrites.1, List.nil_append, List.dropLast_concat, List.zipIdx_cons, List.flatMap_cons,
        hfirst, List.cons_append, List.append_assoc]
      rfl
    have hitems : ∀ item ∈ arguments.zipIdx 1, item.2 ≠ 0 ∧ Counted item.1 := by
      rintro ⟨argument, i⟩ hitem
      obtain ⟨hlow, -, hargument⟩ := List.mem_zipIdx hitem
      refine ⟨by omega, hcounted.2 _ ?_⟩
      rw [hargument]
      exact List.getElem_mem _
    have hkept : ∀ c ∈ program, decide (c ≠ quoteMark) = true := fun c hc =>
      decide_eq_true fun h => hquote (h ▸ hc)
    have htail : (program ++ quoteMark :: (arguments.zipIdx 1).flatMap argumentText).dropWhile
      (· ≠ quoteMark) =
        quoteMark :: (arguments.zipIdx 1).flatMap argumentText := by
      rw [List.dropWhile_append_of_pos hkept]
      rfl
    have hhead : (program ++ quoteMark :: (arguments.zipIdx 1).flatMap argumentText).takeWhile
      (· ≠ quoteMark) = program := by
      rw [List.takeWhile_append_of_pos hkept]
      exact List.append_nil _
    have hsplit : splitArguments ((arguments.zipIdx 1).flatMap argumentText) = arguments :=
      (arguments_split _ hitems [] none).trans (List.zipIdx_map_fst 1 arguments)
    rw [htext]
    have hsplitted : ∀ text, splitCommand (quoteMark :: text) =
        text.takeWhile (· ≠ quoteMark) :: splitArguments
          ((text.dropWhile (· ≠ quoteMark)).drop 1) := fun text => by
      unfold splitCommand
      exact if_pos rfl
    rw [hsplitted, hhead, htail, List.drop_one, List.tail_cons, hsplit]

/-- Blanks, a quote behind backslashes, a path that ends in one and an empty argument. -/
theorem arguments_survive_owner :
    let argv := helperArgv (ascii "C:\\a b\\h.exe") (ascii "D:\\\\\"y z") (ascii "E:\\") []
    ∃ stored, helperCommand argv = .ok stored ∧ splitCommand stored.dropLast = argv := by
  intro argv
  obtain ⟨stored, hstored⟩ : ∃ stored, helperCommand argv = .ok stored := ⟨_, by rfl⟩
  have hshort : argv.all fun argument => argument.length < 2 ^ 31 := by decide +kernel
  have hcounted : ∀ argument ∈ argv, Counted argument := fun argument hargument =>
    counted_of_length (of_decide_eq_true (List.all_eq_true.1 hshort argument hargument))
  exact ⟨stored, hstored, (arguments_survive _ _).2 hcounted (by decide +kernel)
    (by decide +kernel) stored hstored⟩

/-- An argument of 2^31 backslashes is doubled to none. -/
theorem lost_backslashes :
    let line := [quoteMark, 0x68, quoteMark, space, quoteMark, quoteMark]
    helperCommand [[0x68], List.replicate 2147483648 backslash] = .ok (line ++ [0]) ∧
      splitCommand line = [[0x68], []] ∧
      [[0x68], []] ≠ [[0x68], List.replicate 2147483648 backslash] := by
  have hlost : ∀ n, n = 2147483648 →
      helperCommand [[0x68], List.replicate n backslash] =
        .ok [quoteMark, 0x68, quoteMark, space, quoteMark, quoteMark, 0] ∧
        [[0x68], []] ≠ [[0x68], List.replicate n backslash] := by
    intro n hn
    obtain ⟨m, rfl⟩ : ∃ m, n = m + 1 := ⟨n - 1, by omega⟩
    have hescaped : (if (none : Option UInt8) = some quoteMark ∨ (none : Option UInt8) = none then
        (m + 1) % 2 ^ 32 * 2 % 2 ^ 32 else (m + 1) % 2 ^ 32) = 0 := by
      rw [if_pos (.inr rfl)]
      omega
    have hturn : quoteTurn [quoteMark, 0x68, quoteMark, space, quoteMark] (m + 1, none) =
        .ok [quoteMark, 0x68, quoteMark, space, quoteMark] := by
      unfold quoteTurn
      dsimp only
      rw [hescaped]
      rfl
    have hargument : quoteArgument [quoteMark, 0x68, quoteMark]
      (List.replicate (m + 1) backslash, 1) =
        .ok [quoteMark, 0x68, quoteMark, space, quoteMark, quoteMark] := by
      have hroom : quoteArgument [quoteMark, 0x68, quoteMark]
        (List.replicate (m + 1) backslash, 1) =
          ((turnsOf backslash (List.replicate (m + 1) backslash)).foldlM quoteTurn
            [quoteMark, 0x68, quoteMark, space, quoteMark] >>=
            fun command => store command quoteMark) := rfl
      rw [hroom, turnsOf_marks, List.foldlM_cons, hturn]
      rfl
    refine ⟨?_, fun h => ?_⟩
    · have hprogram : helperCommand [[0x68], List.replicate (m + 1) backslash] =
          (quoteArgument [quoteMark, 0x68, quoteMark] (List.replicate (m + 1) backslash, 1) >>=
            fun command =>
            store command 0) := by
        have hfirst : quoteArgument [] ([0x68], 0) = .ok [quoteMark, 0x68, quoteMark] := by rfl
        have hsecond : [(List.replicate (m + 1) backslash, 1)].foldlM quoteArgument
          [quoteMark, 0x68, quoteMark] =
            quoteArgument [quoteMark, 0x68, quoteMark] (List.replicate (m + 1) backslash, 1) :=
            List.foldlM_cons.trans (bind_pure _)
        unfold helperCommand
        rw [List.zipIdx_cons, List.zipIdx_singleton, List.foldlM_cons, hfirst, ← hsecond]
        rfl
      rw [hprogram, hargument]
      rfl
    · cases h
  exact ⟨(hlost _ rfl).1, by decide +kernel, (hlost _ rfl).2⟩

end SmwRecomp.Falcon
