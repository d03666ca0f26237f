/-
Earley.Regex.Element — the elements of a pattern's notation.

`Element.read` reads one element: a character, a class, a quantifier, or one of the marks that open,
divide and close groups. What belongs together is decided in `Earley.Regex.Parser`.
-/
import Earley.Regex.Escape

namespace Earley.Regex

open Text (numberOf)

/-- What an opening parenthesis begins. -/
inductive Opening where
  | capture (name : Option String)
  | plain
  | atomic
  | look (behind negated : Bool)
  deriving DecidableEq, Repr

/-- An element of a pattern's notation. -/
inductive Element where
  | atom (n : Node Reference)
  | reference (r : Reference)
  | quantifier (least : Nat) (most : Option Nat) (preference : Preference)
  | opening (o : Opening)
  | bar
  | closing
  | comment
  deriving DecidableEq, Repr

/-! ## Classes -/

/-- Reads one item of a class, of which `c` is the first character and `pos` the offset behind
that. The result counts the characters read after `c`. -/
def readItem (flags : Flags) (pos : Nat) (c : Char) (rest : List Char) :
    Except Fault (Escape × Nat) :=
  if c = '\\' then Escape.read flags true pos rest else .ok (.char c.toNat, 0)

/-- Reads an item of a class or a range between two of them. A hyphen makes no range before the
closing bracket or next to a property. -/
def readMember (flags : Flags) (pos : Nat) (c : Char) (rest : List Char) :
    Except Fault (List Member × Nat) := do
  let hyphen := Member.single '-'.toNat
  match ← readItem flags pos c rest with
  | (.char first, n) =>
    match rest.drop n with
    | '-' :: ']' :: _ => return ([.single first, hyphen], n + 1)
    | '-' :: d :: rest' =>
      let (last, m) ← readItem flags (pos + n + 2) d rest'
      match last with
      | .char last =>
        if last < first then throw ⟨.badRange, pos + n + 2 + m⟩
        return ([.range first last], n + 2 + m)
      | .property p negated => return ([.single first, hyphen, .property p negated], n + 2 + m)
      | _ => return ([.single first, hyphen], n + 2 + m)
    | ['-'] => throw ⟨.unterminatedSet, pos + n + 1⟩
    | _ => return ([.single first], n)
  | (.property p negated, n) => return ([.property p negated], n)
  | (_, n) => return ([], n)

/-- Reads members up to the closing bracket; the first of them may be a closing bracket itself. -/
def readMembers (flags : Flags) (pos : Nat) (cs : List Char) : Except Fault (List Member × Nat) :=
  match cs with
  | [] => .error ⟨.unterminatedSet, pos⟩
  | c :: rest =>
    match readMember flags (pos + 1) c rest with
    | .error f => .error f
    | .ok (members, n) =>
      match rest.drop n with
      | ']' :: _ => .ok (members, n + 2)
      | _ =>
        match readMembers flags (pos + 1 + n) (rest.drop n) with
        | .error f => .error f
        | .ok (more, m) => .ok (members ++ more, 1 + n + m)
  termination_by cs.length
  decreasing_by simp only [List.length_drop, List.length_cons]; omega

/-- Reads a class behind its opening bracket. -/
def readSet (flags : Flags) (pos : Nat) (cs : List Char) : Except Fault (CharSet × Nat) :=
  match cs with
  | '^' :: rest => (readMembers flags (pos + 1) rest).map fun (ms, n) => (⟨true, ms⟩, n + 1)
  | _ => (readMembers flags pos cs).map fun (ms, n) => (⟨false, ms⟩, n)

/-! ## Quantifiers -/

/-- Reads what follows a count and says which of the allowed counts come first. -/
def readPreference (verbose : Bool) (rest : List Char) : Preference × Nat :=
  match significant verbose rest with
  | ('?', n) :: _ => (.lazy, n)
  | ('+', n) :: _ => (.possessive, n)
  | _ => (.greedy, 0)

/-- A quantifier, with its preference read from `rest`, in front of which `read` characters belong
to it already. -/
def Element.ofCounts (verbose : Bool) (least : Nat) (most : Option Nat) (read : Nat)
    (rest : List Char) : Element × Nat :=
  let (preference, n) := readPreference verbose (rest.drop read)
  (.quantifier least most preference, read + n)

/-- The counts in braces, if what follows an opening brace is that. -/
def readCounts? (verbose : Bool) (rest : List Char) : Option (Nat × Option Nat × Nat) :=
  let view := significant verbose rest
  let least := (takeSignificant Char.isDigit view).1
  match view.drop least.length with
  | (',', _) :: view =>
    let most := (takeSignificant Char.isDigit view).1
    match view.drop most.length with
    | ('}', n) :: _ =>
      some (numberOf 10 least, if most.isEmpty then none else some (numberOf 10 most), n)
    | _ => none
  | ('}', n) :: _ =>
    if least.isEmpty then none else some (numberOf 10 least, some (numberOf 10 least), n)
  | _ => none

/-- The least count that is refused. -/
def countLimit : Nat := 4294967295

/-- Reads what follows an opening brace: counts, or else the brace is a character. -/
def readBrace (verbose : Bool) (pos : Nat) (rest : List Char) : Except Fault (Element × Nat) :=
  match readCounts? verbose rest with
  | none => .ok (.atom (.chars (.single '{'.toNat)), 0)
  | some (least, most, n) =>
    if countLimit ≤ least ∨ most.any (countLimit ≤ ·) then .error ⟨.countTooBig, pos⟩
    else if most.any (· < least) then .error ⟨.countsReversed, pos⟩
    else .ok (Element.ofCounts verbose least most n rest)

/-! ## Groups -/

/-- A character that may begin the name of a group. -/
def isNameStart (c : Char) : Bool := c == '_' || Text.isLetter c || Text.isLetterNumber c

/-- Reads the name of a group and the character that has to end it. Only a reference may give a
number for a name. The result counts the characters read. -/
def readGroupName (verbose isReference : Bool) (pos : Nat) (stop : Char) (rest : List Char) :
    Except Fault (GroupName × Nat) := do
  let view := significant verbose rest
  let (name, _) := takeSignificant (fun c => c != ')' && c != '>') view
  let after := view.drop name.length
  let here := pos + ((after.head?.map (·.2 - 1)).getD rest.length)
  if name.isEmpty then throw ⟨.missingGroupName, here⟩
  let target ←
    if name.all Char.isDigit then
      if isReference && numberOf 10 name != 0 then pure (.index (numberOf 10 name))
      else throw ⟨.badGroupName, here⟩
    else if name.head?.any isNameStart && name.all Text.isIdentifierPart then
      pure (.name (String.ofList name))
    else throw ⟨.badGroupName, here⟩
  match after with
  | (c, n) :: _ => if c = stop then return (target, n) else throw ⟨.missing stop, here⟩
  | [] => throw ⟨.missing stop, here⟩

/-- Reads the name of a group that captures. -/
def readCapture (verbose : Bool) (pos : Nat) (rest : List Char) : Except Fault (Element × Nat) := do
  match ← readGroupName verbose false pos '>' rest with
  | (.name s, n) => return (.opening (.capture (some s)), n)
  | (.index _, n) => return (.opening (.capture none), n)

/-- The number of characters of a comment up to its closing parenthesis, which a backslash takes
the meaning from. -/
def commentLength? : List Char → Option Nat
  | [] => none
  | ')' :: _ => some 1
  | '\\' :: _ :: cs => (commentLength? cs).map (· + 2)
  | _ :: cs => (commentLength? cs).map (· + 1)

/-- Reads what follows `(?`. -/
def readExtension (verbose : Bool) (pos : Nat) (cs : List Char) : Except Fault (Element × Nat) :=
  match cs with
  | ':' :: _ => .ok (.opening .plain, 1)
  | '>' :: _ => .ok (.opening .atomic, 1)
  | '=' :: _ => .ok (.opening (.look false false), 1)
  | '!' :: _ => .ok (.opening (.look false true), 1)
  | '#' :: rest =>
    match commentLength? rest with
    | some n => .ok (.comment, n + 1)
    | none => .error ⟨.missing ')', pos + cs.length⟩
  | '<' :: rest =>
    match significant verbose rest with
    | ('=', n) :: _ => .ok (.opening (.look true false), n + 1)
    | ('!', n) :: _ => .ok (.opening (.look true true), n + 1)
    | _ => (readCapture verbose (pos + 1) rest).map fun (e, n) => (e, n + 1)
  | 'P' :: rest =>
    match significant verbose rest with
    | ('<', k) :: _ =>
      (readCapture verbose (pos + 1 + k) (rest.drop k)).map fun (e, n) => (e, n + k + 1)
    | ('=', k) :: _ =>
      (readGroupName verbose true (pos + 1 + k) ')' (rest.drop k)).map fun (target, n) =>
        (.reference ⟨target, pos + 1⟩, n + k + 1)
    | _ => .error ⟨.unknownExtension, pos + 1⟩
  | _ => .error ⟨.unknownExtension, pos⟩

/-- Reads what follows an opening parenthesis. -/
def readOpening (verbose : Bool) (pos : Nat) (cs : List Char) : Except Fault (Element × Nat) :=
  match cs with
  | '?' :: rest => (readExtension verbose (pos + 1) rest).map fun (e, n) => (e, n + 1)
  | '*' :: rest =>
    if (significant verbose rest).head?.any (·.1.isAlpha) then .error ⟨.unknownVerb, pos + 1⟩
    else .ok (.opening (.capture none), 0)
  | _ => .ok (.opening (.capture none), 0)

/-! ## Elements -/

/-- Reads the element whose first character is `c`, `pos` being the offset behind that. The result
counts the characters read after `c`. -/
def Element.read (flags : Flags) (pos : Nat) (c : Char) (rest : List Char) :
    Except Fault (Element × Nat) :=
  let verbose := flags.verbose
  match c with
  | '(' => readOpening verbose pos rest
  | ')' => .ok (.closing, 0)
  | '|' => .ok (.bar, 0)
  | '?' => .ok (Element.ofCounts verbose 0 (some 1) 0 rest)
  | '*' => .ok (Element.ofCounts verbose 0 none 0 rest)
  | '+' => .ok (Element.ofCounts verbose 1 none 0 rest)
  | '{' => readBrace verbose pos rest
  | '^' => .ok (.atom (.anchor (if flags.multiline then .lineStart else .textStart)), 0)
  | '$' => .ok (.atom (.anchor (if flags.multiline then .lineEnd else .finalLineEnd)), 0)
  | '.' => .ok (.atom (.chars (if flags.dotAll then .all else .withinLine)), 0)
  | '[' => (readSet flags pos rest).map fun (s, n) => (.atom (.chars s), n)
  | '\\' =>
    (Escape.read flags false pos rest).map fun (e, n) =>
      match e with
      | .char code => (.atom (.chars (.single code)), n)
      | .property p negated => (.atom (.chars ⟨false, [.property p negated]⟩), n)
      | .anchor a => (.atom (.anchor a), n)
      | .reference r => (.reference r, n)
  | c => .ok (.atom (.chars (.single c.toNat)), 0)

end Earley.Regex
