/- Module: SthBoring/Lib/LaunchingTools
   source: the command lines of env (GNU coreutils) and find (GNU findutils)
   digest: Which programs a command line starts, and which files it changes by itself. -/

import Mathlib.Algebra.GroupWithZero.Nat
import Mathlib.Logic.Relation
import SthBoring.Lib.PyObject

set_option autoImplicit false
set_option relaxedAutoImplicit false

namespace SthBoring.Lib.LaunchingTools

open SthBoring.Lib.PyObject (ShlexMode shlexFrom shlexSplit unescape afterPlain isShlexSpace)
open SthBoring.Lib.PyValue (PyExc)

section Env

inductive OptionKind where
  | flag
  | operand
  | split
  | stops

def envLongOptions : List (String × OptionKind) :=
  [("argv0", .operand), ("block-signal", .flag), ("chdir", .operand), ("debug", .flag),
    ("default-signal", .flag), ("help", .stops), ("ignore-environment", .flag),
    ("ignore-signal", .flag), ("list-signal-handling", .flag), ("null", .flag),
    ("split-string", .split), ("unset", .operand), ("version", .stops)]

/-- A long option may be cut short where that leaves one candidate. -/
def longKind (name : List Char) : OptionKind :=
  match envLongOptions.find? (fun o => o.1.toList == name),
      envLongOptions.filter (fun o => name.isPrefixOf o.1.toList) with
  | some option, _ => option.2
  | none, [option] => option.2
  | none, _ => .stops

/-- The first option in a cluster that is no flag, with what follows it in the cluster. -/
def shortKind : List Char → OptionKind × List Char
  | [] => (.flag, [])
  | c :: cs =>
    if c = 'i' ∨ c = '0' ∨ c = 'v' then shortKind cs
    else if c = 'u' ∨ c = 'C' ∨ c = 'a' then (.operand, cs)
    else if c = 'S' then (.split, cs)
    else (.stops, cs)

/-- An option: its kind, and the operand that is attached to it. -/
def optionOf (word : String) : Option (OptionKind × Option (List Char)) :=
  match word.toList with
  | '-' :: '-' :: c :: cs =>
    let name := (c :: cs).takeWhile (· != '=')
    let value := (c :: cs).drop name.length
    some (longKind name, if value.isEmpty then none else some value.tail)
  | ['-', '-'] => none
  | '-' :: c :: cs =>
    let (kind, attached) := shortKind (c :: cs)
    some (kind, if attached.isEmpty then none else some attached)
  | _ => none

/-- What the options of env leave: nothing when env prints and ends or knows no such option,
another list of arguments when one is to be split into words. -/
inductive EnvRest where
  | stops
  | operands (words : List String)
  | respelled (words : List String)

/-- The words that take the place of `--split-string`. -/
def respell (text : List Char) (rest : List String) : EnvRest :=
  match shlexFrom .outside [] false text with
  | .ok words => .respelled (words ++ rest)
  | .error _ => .stops

def envOptions : List String → EnvRest
  | [] => .operands []
  | word :: rest =>
    match optionOf word with
    | none => .operands (if word = "-" ∨ word = "--" then rest else word :: rest)
    | some (.flag, _) => envOptions rest
    | some (.stops, _) => .stops
    | some (.operand, some _) => envOptions rest
    | some (.split, some text) => respell text rest
    | some (.operand, none) =>
      match rest with
      | [] => .stops
      | _ :: rest => envOptions rest
    | some (.split, none) =>
      match rest with
      | [] => .stops
      | text :: rest => respell text.toList rest

/-- The command of env, behind its `NAME=VALUE` operands. -/
def commandOf (operands : List String) : List String :=
  operands.dropWhile (fun word => word.toList.contains '=')

/-- The line env goes on with. Where it splits a text that is its own line, respelled. -/
def envLaunches (args : List String) : List (List String) :=
  match envOptions args with
  | .stops => []
  | .respelled words => ["env" :: words]
  | .operands words => if (commandOf words).isEmpty then [] else [commandOf words]

end Env

section Find

/-- How many words belong to a primary of find, those that launch aside. -/
def findOperands (word : String) : ℕ :=
  if word = "-fprintf" then 2
  else if word ∈ ["-amin", "-anewer", "-atime", "-cmin", "-cnewer", "-context", "-ctime",
      "-files0-from", "-fls", "-fprint", "-fprint0", "-fstype", "-gid", "-group", "-ilname",
      "-iname", "-inum", "-ipath", "-iregex", "-iwholename", "-links", "-lname", "-maxdepth",
      "-mindepth", "-mmin", "-mtime", "-name", "-path", "-perm", "-printf", "-regex",
      "-regextype", "-samefile", "-size", "-type", "-uid", "-used", "-user", "-wholename",
      "-xtype", "-D"] then 1
  else if "-newer".toList.isPrefixOf word.toList then 1
  else 0

def findLauncher (word : String) : Bool :=
  ["-exec", "-execdir", "-ok", "-okdir"].contains word

def findChanger (word : String) : Bool :=
  word == "-delete" || word == "-fls" || "-fprint".toList.isPrefixOf word.toList

inductive FindAction where
  | changes (word : String)
  | runs (line : List String)

/-- Skipping words that belong to a primary, or reading the line of one that launches. -/
inductive FindMode where
  | skip (n : ℕ)
  | line (launcher : String) (words : List String)

/-- A line ends with a semicolon, and where it takes many files with a plus behind the braces. -/
def endsLine (launcher : String) (words : List String) (word : String) : Bool :=
  word == ";" || (word == "+" && words.getLast? == some "\x7b\x7d" &&
    (launcher == "-exec" || launcher == "-execdir"))

/-- The actions of find's expression. What find itself would refuse is read as far as it goes. -/
def findActions : FindMode → List String → List FindAction
  | .skip _, [] => []
  | .line _ words, [] => [.runs words]
  | .skip (n + 1), _ :: rest => findActions (.skip n) rest
  | .skip 0, word :: rest =>
    if findLauncher word then findActions (.line word []) rest
    else if findChanger word then .changes word :: findActions (.skip (findOperands word)) rest
    else findActions (.skip (findOperands word)) rest
  | .line launcher words, word :: rest =>
    if endsLine launcher words word then .runs words :: findActions (.skip 0) rest
    else findActions (.line launcher (words ++ [word])) rest

end Find

section Lines

def linesOf (actions : List FindAction) : List (List String) :=
  actions.filterMap fun action =>
    match action with
    | .runs line => some line
    | .changes _ => none

/-- The lines that a line starts itself. Of the tools only env and find start any. -/
def launches : List String → List (List String)
  | [] => []
  | tool :: args =>
    if tool = "env" then envLaunches args
    else if tool = "find" then linesOf (findActions (.skip 0) args)
    else []

def FindAction.isChange : FindAction → Bool
  | .changes _ => true
  | .runs _ => false

/-- The line deletes or writes a file before anything it starts does. -/
def changesFiles : List String → Bool
  | [] => false
  | tool :: args => tool == "find" && (findActions (.skip 0) args).any FindAction.isChange

/-- The line, what it starts, what that starts, and so on. -/
def Starts : List String → List String → Prop :=
  Relation.ReflTransGen (fun line next => next ∈ launches line)

/-- Everything that is started is one of the programs, and no file is deleted or written. -/
def ReadOnly (programs : List String) (line : List String) : Prop :=
  ∀ started, Starts line started →
    (∀ program ∈ started.head?, program ∈ programs) ∧ changesFiles started = false

/-- Reading a line ahead: every line in it is led by one of the programs, and no find in it has
an action that changes files. -/
def harmless (programs : List String) : ℕ → List String → Bool
  | 0, _ => false
  | n + 1, line =>
    !changesFiles line && (launches line).all fun next =>
      next.head?.all (programs.contains ·) && harmless programs n next

end Lines

section Lengths

/-- The length of the words, with a separator each. -/
def cost (words : List String) : ℕ := (words.map (fun word => word.length + 1)).sum

@[simp] theorem cost_nil : cost [] = 0 := rfl

@[simp] theorem cost_cons (word : String) (words : List String) :
    cost (word :: words) = word.length + 1 + cost words := by
  simp [cost]

@[simp] theorem cost_append (words words' : List String) :
    cost (words ++ words') = cost words + cost words' := by
  simp [cost]

/-- Room that a mode leaves for the word that is being read. -/
def room : ShlexMode → ℕ
  | .outside => 0
  | .word => 0
  | .quote _ => 0
  | .escape _ => 1

@[simp] theorem room_outside : room .outside = 0 := rfl
@[simp] theorem room_word : room .word = 0 := rfl
@[simp] theorem room_quote (q : Char) : room (.quote q) = 0 := rfl
@[simp] theorem room_escape (back : Option Char) : room (.escape back) = 1 := rfl

theorem length_unescape (token : List Char) (back : Option Char) (c : Char) :
    (unescape token back c).length ≤ token.length + 2 := by
  unfold unescape
  split
  · simp
  · split <;> simp

private theorem cost_emit {token : List Char} {quoted : Bool} {rest : List String} :
    cost (if token.isEmpty && !quoted then rest else String.ofList token :: rest) ≤
      token.length + 1 + cost rest := by
  split <;> simp

theorem room_afterPlain (c : Char) : room (afterPlain c) ≤ 1 := by
  unfold afterPlain
  repeat' split
  all_goals simp [room]

/-- A character ends a word, or it makes the word that is being read one longer at most. -/
theorem shlexFrom_cons {mode : ShlexMode} {token text : List Char} {quoted : Bool} {c : Char}
    {words : List String} (h : shlexFrom mode token quoted (c :: text) = .ok words) :
    (∃ rest, shlexFrom .outside [] false text = .ok rest ∧
      words = if token.isEmpty && !quoted then rest else String.ofList token :: rest) ∨
    ∃ mode' token' quoted', shlexFrom mode' token' quoted' text = .ok words ∧
      token'.length + room mode' ≤ token.length + room mode + 1 := by
  have plain := room_afterPlain c
  cases mode with
  | outside =>
    rw [shlexFrom] at h
    split at h
    · exact .inr ⟨_, _, _, h, by simp⟩
    · split at h
      · exact .inr ⟨_, _, _, h, by simp⟩
      · exact .inr ⟨_, _, _, h, by simpa using le_add_left plain⟩
  | word =>
    rw [shlexFrom] at h
    split at h
    · cases rest : shlexFrom .outside [] false text with
      | error exc =>
        rw [rest] at h
        cases h
      | ok words' =>
        rw [rest] at h
        cases h
        exact .inl ⟨words', rfl, rfl⟩
    · split at h
      · exact .inr ⟨_, _, _, h, by simp⟩
      · exact .inr ⟨_, _, _, h, by simpa using plain⟩
  | quote q =>
    rw [shlexFrom] at h
    split at h
    · exact .inr ⟨_, _, _, h, by simp⟩
    · split at h
      · exact .inr ⟨_, _, _, h, by simp⟩
      · exact .inr ⟨_, _, _, h, by simp⟩
  | escape back =>
    have longer := length_unescape token back c
    cases back with
    | none =>
      rw [shlexFrom] at h
      exact .inr ⟨_, _, _, h, by simpa using longer⟩
    | some q =>
      rw [shlexFrom] at h
      exact .inr ⟨_, _, _, h, by simpa using longer⟩

/-- The words of a text are not longer than the text. -/
theorem cost_shlexFrom {mode : ShlexMode} {token : List Char} {quoted : Bool} {text : List Char}
    {words : List String} (h : shlexFrom mode token quoted text = .ok words) :
    cost words ≤ text.length + token.length + room mode + 1 := by
  induction text generalizing mode token quoted words with
  | nil =>
    cases mode with
    | outside =>
      cases h
      simp
    | word =>
      cases h
      refine cost_emit.trans ?_
      simp
    | quote q => cases h
    | escape back => cases h
  | cons c text ih =>
    rw [List.length_cons]
    rcases shlexFrom_cons h with ⟨rest, read, rfl⟩ | ⟨mode', token', quoted', read, longer⟩
    · have bound := ih read
      rw [List.length_nil, room_outside] at bound
      refine cost_emit.trans ?_
      omega
    · have bound := ih read
      omega

theorem length_shortKind (cs : List Char) : (shortKind cs).2.length ≤ cs.length := by
  induction cs with
  | nil => exact Nat.le_refl _
  | cons c cs ih =>
    unfold shortKind
    split
    · exact ih.trans (Nat.le_succ _)
    · repeat' split
      all_goals exact Nat.le_succ _

/-- What is attached to an option is shorter than the word. -/
theorem length_attached {word : String} {kind : OptionKind} {text : List Char}
    (h : optionOf word = some (kind, some text)) : text.length < word.length := by
  rw [← String.length_toList]
  unfold optionOf at h
  split at h
  · rename_i c cs chars
    rw [chars]
    dsimp only at h
    split at h
    · cases h
    · cases h
      have dropped : ((c :: cs).drop ((c :: cs).takeWhile (· != '=')).length).length ≤
          (c :: cs).length := by
        rw [List.length_drop]
        exact Nat.sub_le _ _
      rw [List.length_tail]
      simp only [List.length_cons] at dropped ⊢
      omega
  · cases h
  · rename_i c cs _ _ chars
    rw [chars]
    have suffix := length_shortKind (c :: cs)
    dsimp only at h
    split at h
    · cases h
    · cases h
      simp only [List.length_cons] at suffix ⊢
      omega
  · cases h

theorem respell_cases (text : List Char) (rest : List String) :
    respell text rest = .stops ∨
      ∃ words, respell text rest = .respelled words ∧ cost words ≤ text.length + 1 + cost rest := by
  unfold respell
  cases split : shlexFrom .outside [] false text with
  | error exc => exact .inl rfl
  | ok words =>
    refine .inr ⟨words ++ rest, rfl, ?_⟩
    have bound := cost_shlexFrom split
    simp at bound ⊢
    omega

/-- What the options leave is no longer than what they were read from, and shorter where it is to
be read again. -/
def EnvRest.Within (n : ℕ) : EnvRest → Prop
  | .stops => True
  | .operands words => cost words ≤ n
  | .respelled words => cost words < n

theorem EnvRest.Within.mono {n m : ℕ} {rest : EnvRest} (h : rest.Within n) (le : n ≤ m) :
    rest.Within m := by
  cases rest with
  | stops => trivial
  | operands words => exact Nat.le_trans h le
  | respelled words => exact Nat.lt_of_lt_of_le h le

theorem within_envOptions (args : List String) : (envOptions args).Within (cost args) := by
  fun_induction envOptions args with
  | case1 => exact Nat.le_refl 0
  | case2 word rest bare =>
    change cost _ ≤ _
    rw [cost_cons]
    split
    · omega
    · simp
  | case3 word rest _ flag ih => exact ih.mono (by simp)
  | case4 => trivial
  | case5 word rest _ operand ih => exact ih.mono (by simp)
  | case6 word rest text split =>
    have shorter := length_attached split
    rcases respell_cases text rest with stops | ⟨words, same, bound⟩
    · rw [stops]
      trivial
    · rw [same]
      change cost words < _
      rw [cost_cons]
      omega
  | case7 => trivial
  | case8 word operand rest _ ih =>
    refine ih.mono ?_
    simp only [cost_cons]
    omega
  | case9 => trivial
  | case10 word _ text rest =>
    rcases respell_cases text.toList rest with stops | ⟨words, same, bound⟩
    · rw [stops]
      trivial
    · rw [same]
      change cost words < _
      rw [cost_cons, cost_cons]
      rw [String.length_toList] at bound
      omega

/-- Respelling a line uses up the option that asked for it. -/
theorem cost_envLaunches {args line : List String} (h : line ∈ envLaunches args) :
    cost line < cost ("env" :: args) := by
  have within := within_envOptions args
  unfold envLaunches at h
  split at h
  · cases h
  · rename_i words same
    rw [same] at within
    rw [List.mem_singleton.mp h, cost_cons, cost_cons]
    exact Nat.add_lt_add_left within _
  · rename_i words same
    rw [same] at within
    split at h
    · cases h
    · rw [List.mem_singleton.mp h, cost_cons]
      have dropped : cost (commandOf words) ≤ cost words := by
        have suffix : commandOf words <:+ words := List.dropWhile_suffix _
        obtain ⟨assignments, parts⟩ := suffix
        rw [← congrArg cost parts, cost_append]
        exact Nat.le_add_left _ _
      have within : cost words ≤ cost args := within
      omega

/-- What a mode has in hand. -/
def FindMode.held : FindMode → ℕ
  | .skip _ => 0
  | .line _ words => cost words

theorem cost_findActions {mode : FindMode} {args line : List String}
    (h : line ∈ linesOf (findActions mode args)) : cost line ≤ cost args + mode.held := by
  fun_induction findActions mode args with
  | case1 => cases h
  | case2 launcher words =>
    rw [List.mem_singleton.mp h]
    exact Nat.le_add_left _ _
  | case3 n word rest ih =>
    have bound := ih h
    rw [cost_cons]
    change cost line ≤ cost rest + 0 at bound
    omega
  | case4 word rest launcher ih =>
    have bound := ih h
    rw [cost_cons]
    change cost line ≤ cost rest + 0 at bound
    omega
  | case5 word rest _ changer ih =>
    have bound := ih h
    rw [cost_cons]
    change cost line ≤ cost rest + 0 at bound
    omega
  | case6 word rest _ _ ih =>
    have bound := ih h
    rw [cost_cons]
    change cost line ≤ cost rest + 0 at bound
    omega
  | case7 launcher words word rest ends ih =>
    rw [cost_cons]
    rcases List.mem_cons.mp h with same | later
    · rw [same]
      exact Nat.le_add_left _ _
    · have bound := ih later
      change cost line ≤ cost rest + 0 at bound
      omega
  | case8 launcher words word rest _ ih =>
    have bound := ih h
    change cost line ≤ cost rest + cost (words ++ [word]) at bound
    change cost line ≤ _ + cost words
    simp only [cost_append, cost_cons, cost_nil] at bound ⊢
    omega

theorem cost_launches {line next : List String} (h : next ∈ launches line) :
    cost next < cost line := by
  cases line with
  | nil => cases h
  | cons tool args =>
    rw [launches] at h
    split at h
    · rename_i env
      rw [env]
      exact cost_envLaunches h
    · split at h
      · have bound := cost_findActions h
        rw [cost_cons]
        change cost next ≤ cost args + 0 at bound
        omega
      · cases h

end Lengths

section Reading

variable {programs : List String}

/-- A line only reads if it changes nothing itself, and what it starts is led by one of the
programs and only reads. -/
theorem readOnly_iff {line : List String} (led : ∀ program ∈ line.head?, program ∈ programs) :
    ReadOnly programs line ↔ changesFiles line = false ∧
      ∀ next ∈ launches line, (∀ program ∈ next.head?, program ∈ programs) ∧
        ReadOnly programs next := by
  constructor
  · intro reads
    refine ⟨(reads line .refl).2, fun next started => ⟨?_, ?_⟩⟩
    · exact (reads next (.single started)).1
    · intro last further
      exact reads last (.head started further)
  · rintro ⟨unchanged, each⟩ last starts
    rcases Relation.ReflTransGen.cases_head starts with rfl | ⟨next, started, further⟩
    · exact ⟨led, unchanged⟩
    · exact (each next started).2 last further

/-- Reading far enough ahead decides whether a line only reads. -/
theorem harmless_iff {n : ℕ} {line : List String} (far : cost line < n)
    (led : ∀ program ∈ line.head?, program ∈ programs) :
    harmless programs n line = true ↔ ReadOnly programs line := by
  induction n generalizing line with
  | zero => exact absurd far (Nat.not_lt_zero _)
  | succ n ih =>
    rw [readOnly_iff led, harmless, Bool.and_eq_true, Bool.not_eq_true', List.all_eq_true]
    refine and_congr_right fun _ => forall₂_congr fun next started => ?_
    rw [Bool.and_eq_true, Option.all_eq_true]
    have nearer : cost next < n := by
      have shorter := cost_launches started
      omega
    constructor
    · rintro ⟨leads, reads⟩
      have led' : ∀ program ∈ next.head?, program ∈ programs := fun program h =>
        List.contains_iff_mem.mp (leads program h)
      exact ⟨led', (ih nearer led').mp reads⟩
    · rintro ⟨led', reads⟩
      exact ⟨fun program h => List.contains_iff_mem.mpr (led' program h), (ih nearer led').mpr reads⟩

end Reading

end SthBoring.Lib.LaunchingTools
