/-
Earley.Regex.Basic — patterns, and what an engine has to answer about them.

A pattern is a text and the flags it is written with. Which texts are patterns, and what they match,
is for an engine to say; whatever uses patterns is written for any engine. All that an engine owes
is that its matches stay within the text.

- `Engine` is what is asked of an engine.
- `Regex.compile` is the pattern that a text and flags make, or what the engine has against it.
-/
namespace Earley

namespace Regex

/-! ## Flags -/

/-- The flags of a pattern, written `i`, `m`, `s`, `x` and `A`. -/
structure Flags where
  /-- Letters match their other case. -/
  ignoreCase : Bool := false
  /-- `^` and `$` match at every line. -/
  multiline : Bool := false
  /-- The dot matches the line feed as well. -/
  dotAll : Bool := false
  /-- Blanks and comments in the pattern mean nothing. -/
  verbose : Bool := false
  /-- Properties and case are those of ASCII. -/
  ascii : Bool := false
  deriving DecidableEq, Repr

/-- Turns on the flag of a letter. -/
def Flags.add (f : Flags) (letter : Char) : Flags :=
  match letter with
  | 'i' => { f with ignoreCase := true }
  | 'm' => { f with multiline := true }
  | 's' => { f with dotAll := true }
  | 'x' => { f with verbose := true }
  | 'A' => { f with ascii := true }
  | _ => f

/-- The flags that a text of flag letters turns on, in any order and with repetitions. -/
def Flags.ofLetters (letters : List Char) : Flags := letters.foldl Flags.add {}

/-- The letters of the flags that are on, each once. -/
def Flags.letters (f : Flags) : String :=
  String.ofList ((if f.ignoreCase then ['i'] else []) ++ (if f.multiline then ['m'] else []) ++
    (if f.dotAll then ['s'] else []) ++ (if f.verbose then ['x'] else []) ++
    (if f.ascii then ['A'] else []))

end Regex

/-! ## Patterns -/

/-- A pattern: its text and its flags. -/
structure Regex where
  source : String
  flags : Regex.Flags
  deriving DecidableEq, Repr

namespace Regex

/-- What is said against a text that is no pattern. -/
structure Invalid where
  message : String
  deriving DecidableEq, Repr

/-- An engine for patterns. -/
class Engine where
  /-- What is wrong with a pattern, if anything is. -/
  invalid? : Regex → Option Invalid
  /-- Where the match that begins at an offset ends, if there is one. -/
  matchEnd? : Regex → (text : Array Char) → (pos : Nat) → Option Nat
  /-- Whether some match spans the whole text. -/
  matchesWhole : Regex → (text : Array Char) → Bool
  /-- A match that begins within the text ends within it, and not before it begins. -/
  matchEnd?_bounds {r : Regex} {text : Array Char} {pos e : Nat} (hp : pos ≤ text.size)
    (h : matchEnd? r text pos = some e) : pos ≤ e ∧ e ≤ text.size

export Engine (invalid? matchEnd? matchesWhole matchEnd?_bounds)

/-- The pattern that a text and flags make. -/
def compile [Engine] (source : String) (flags : Flags) : Except Invalid Regex :=
  let r : Regex := ⟨source, flags⟩
  match r.invalid? with
  | none => .ok r
  | some reason => .error reason

end Regex

end Earley
