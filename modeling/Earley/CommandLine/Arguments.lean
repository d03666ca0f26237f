/-
Earley.CommandLine.Arguments — the arguments of the command line.

The first argument that is no option names the command, and the rest belong to it. A command takes
the path of a grammar file and some options, in any order. Long options may be abbreviated as long
as they stay unambiguous, and take a value after an equals sign or as the next argument; short
options may be put together. Two hyphens end the options.

- `Command.ofArguments` reads a whole command line. It ends in a command, or in the reason to end
  the program at once: help was asked for, or the usage is wrong.
-/
import Earley.Text.Category

namespace Earley.CommandLine

/-- Where a text to cut into lexemes comes from. -/
inductive Source where
  | text (s : String)
  | file (path : String)
  deriving DecidableEq, Repr

/-- What the program can be asked to do. -/
inductive Command where
  /-- Sums up a grammar. -/
  | check (path : String) (debug : Bool)
  /-- Cuts a text into lexemes. -/
  | lex (path : String) (source : Source)
  /-- Judges lines, from a file or else from the standard input. -/
  | recognize (path : String) (input : Option String) (quiet debug : Bool)
  deriving DecidableEq, Repr

/-- Why the program ends before it does anything. -/
inductive Exit where
  | help
  | usage
  deriving DecidableEq, Repr

/-! ## Options -/

/-- What an option asks for. -/
inductive Switch where
  | help | debug | quiet | text | input
  deriving DecidableEq, Repr

/-- Whether an option has a value. -/
def Switch.takesValue : Switch → Bool
  | .text | .input => true
  | .help | .debug | .quiet => false

/-- The spellings of options. -/
abbrev Names := List (List Char × Switch)

/-- The spellings of the options before a command. -/
def mainNames : Names := [("-h".toList, .help), ("--help".toList, .help)]

/-- The spellings of the options of `check`. -/
def checkNames : Names := mainNames ++ [("-D".toList, .debug), ("--debug".toList, .debug)]

/-- The spellings of the options of `lex`. -/
def lexNames : Names := mainNames ++ [("--text".toList, .text), ("--input".toList, .input)]

/-- The spellings of the options of `recognize`. -/
def recognizeNames : Names :=
  mainNames ++ [("--input".toList, .input), ("-q".toList, .quiet), ("--quiet".toList, .quiet),
    ("-D".toList, .debug), ("--debug".toList, .debug)]

/-! ## Words -/

/-- What is written onto an option. -/
inductive Attached where
  | nothing
  /-- What follows a long option and an equals sign. -/
  | value (cs : List Char)
  /-- What follows a short option, with or without an equals sign. -/
  | joined (cs : List Char)
  deriving DecidableEq, Repr

/-- What an argument looks like. -/
inductive Word where
  | argument
  | switch (s : Switch) (attached : Attached)
  | unknownOption
  | ambiguousOption
  deriving DecidableEq, Repr

/-- Whether a word is a negative number. -/
def isNegativeNumber (w : List Char) : Bool :=
  let w := if w.getLast? = some '\n' then w.dropLast else w
  match w with
  | '-' :: digits =>
    let whole := digits.takeWhile Text.isDecimalDigit
    match digits.drop whole.length with
    | [] => !whole.isEmpty
    | '.' :: fraction => !fraction.isEmpty && fraction.all Text.isDecimalDigit
    | _ => false
  | _ => false

/-- The options that a word which is no option as it stands may mean: a long option by its
beginning, or a short one with more joined to it. -/
def readings (names : Names) (w : List Char) : List Word :=
  match w with
  | '-' :: '-' :: _ =>
    let beginning := w.takeWhile (· != '=')
    let attached : Attached :=
      if '=' ∈ w then .value (w.drop (beginning.length + 1)) else .nothing
    (names.filter fun (name, _) => beginning.isPrefixOf name).map fun (_, s) => .switch s attached
  | _ =>
    (names.filter fun (name, _) => name == w.take 2).map fun (_, s) =>
      .switch s (.joined (w.drop 2))

/-- What a word looks like. A word that begins with a hyphen is an argument nevertheless if it is
a lone hyphen, a negative number, or no option and has a space in it. -/
def classify (names : Names) (w : List Char) : Word :=
  if w.head? ≠ some '-' then .argument
  else
    match names.lookup w, names.lookup (w.takeWhile (· != '=')) with
    | some s, _ => .switch s .nothing
    | none, some s =>
      let more := (w.dropWhile (· != '=')).drop 1
      .switch s (if w.take 2 = ['-', '-'] then .value more else .joined more)
    | none, none =>
      if w.length = 1 then .argument
      else
        match readings names w with
        | [word] => word
        | _ :: _ :: _ => .ambiguousOption
        | [] => if isNegativeNumber w || w.contains ' ' then .argument else .unknownOption

/-- The short options that are joined to another one: at least one, and all of them known. -/
def joinedSwitches (names : Names) (cs : List Char) : Except Exit (List Switch) :=
  if cs.isEmpty then .error .usage
  else
    cs.mapM fun c =>
      match names.lookup ['-', c] with
      | some s => .ok s
      | none => .error .usage

/-! ## Reading arguments -/

/-- What the arguments of a command have asked for so far. -/
structure Settings where
  path : Option String := none
  debug : Bool := false
  quiet : Bool := false
  text : Option String := none
  input : Option String := none
  /-- Whether there was an argument too many. -/
  surplus : Bool := false
  deriving DecidableEq, Repr

namespace Settings

/-- Follows an option without a value. -/
def set (s : Settings) : Switch → Except Exit Settings
  | .help => .error .help
  | .debug => .ok { s with debug := true }
  | .quiet => .ok { s with quiet := true }
  | .text | .input => .error .usage

/-- Follows an option with a value. A text and an input exclude each other. -/
def setValue (s : Settings) (value : String) : Switch → Except Exit Settings
  | .text => if s.input.isSome then .error .usage else .ok { s with text := some value }
  | .input => if s.text.isSome then .error .usage else .ok { s with input := some value }
  | _ => .error .usage

/-- Takes in what follows two hyphens: the path, if there is none yet. -/
def afterHyphens (s : Settings) (atPath : Bool) (rest : List String) : Settings :=
  match s.path, rest with
  | none, [] => s
  | none, path :: more => { s with path := some path, surplus := s.surplus || !more.isEmpty }
  | some _, rest => { s with surplus := s.surplus || !(atPath && rest.isEmpty) }

end Settings

/-- Whether a word can be the value of an option. -/
def isValue (names : Names) (w : String) : Bool :=
  w != "--" && classify names w.toList == .argument

/-- Reads the arguments of a command in order. `atPath` tells whether the word before was the
path. -/
def readWords (names : Names) (atPath : Bool) (s : Settings) :
    List String → Except Exit Settings
  | [] => .ok s
  | w :: rest =>
    if w = "--" then .ok (s.afterHyphens atPath rest)
    else
      match classify names w.toList with
      | .argument =>
        if s.path.isNone then readWords names true { s with path := some w } rest
        else readWords names false { s with surplus := true } rest
      | .unknownOption => readWords names false { s with surplus := true } rest
      | .ambiguousOption => .error .usage
      | .switch sw (.value cs) => do
        readWords names false (← s.setValue (String.ofList cs) sw) rest
      | .switch sw (.joined cs) => do
        let more ← joinedSwitches names cs
        readWords names false (← (sw :: more).foldlM Settings.set s) rest
      | .switch sw .nothing =>
        if sw.takesValue then
          match rest with
          | [] => .error .usage
          | value :: rest =>
            if isValue names value then do
              readWords names false (← s.setValue value sw) rest
            else .error .usage
        else do readWords names false (← s.set sw) rest

/-- Reads the arguments of a command. No option may be ambiguous, whatever comes before it. -/
def readArguments (names : Names) (words : List String) : Except Exit Settings :=
  if (words.takeWhile (· != "--")).any fun w => classify names w.toList == .ambiguousOption then
    .error .usage
  else readWords names false {} words

namespace Command

/-- The command of a name with its arguments. -/
def ofName (name : String) (words : List String) : Except Exit Command := do
  let names ← match name with
    | "check" => pure checkNames
    | "lex" => pure lexNames
    | "recognize" => pure recognizeNames
    | _ => throw .usage
  let s ← readArguments names words
  match s.path, s.surplus with
  | some path, false =>
    match name, s.text, s.input with
    | "check", _, _ => return .check path s.debug
    | "lex", some text, _ => return .lex path (.text text)
    | "lex", none, some input => return .lex path (.file input)
    | "recognize", _, input => return .recognize path input s.quiet s.debug
    | _, _, _ => throw .usage
  | _, _ => throw .usage

/-- Reads a command line. An unknown option before the command is wrong usage, but help that is
asked for behind it is given. -/
def ofArguments : List String → Except Exit Command
  | [] => .error .usage
  | w :: rest =>
    if w = "--" then .error .usage
    else
      match classify mainNames w.toList with
      | .argument => ofName w rest
      | .unknownOption => do
        let _ ← ofArguments rest
        throw .usage
      | .switch .help .nothing => .error .help
      | .switch .help (.joined cs) => do
        let _ ← joinedSwitches mainNames cs
        throw .help
      | _ => .error .usage

end Command

end Earley.CommandLine
