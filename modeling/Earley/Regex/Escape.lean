/-
Earley.Regex.Escape — what a backslash introduces, and the characters of a pattern that mean
something.

`significant` is the view that the notation is read through: with the flag `x` it leaves out blanks
and comments, and it tells for each remaining character how far one has read with it.
`Escape.read` reads what follows a backslash.
-/
import Earley.Regex.Fault
import Earley.Regex.Tree
import Earley.Text.Digit

namespace Earley.Regex

open Text (isOctalDigit isHexDigit numberOf)

/-! ## Significant characters -/

/-- The significant characters of `cs`, each with the number of characters up to and including it;
`skipped` characters stand before `cs`. -/
def significantFrom (verbose inComment : Bool) (skipped : Nat) : List Char → List (Char × Nat)
  | [] => []
  | c :: cs =>
    if inComment then significantFrom verbose (c != '\n') (skipped + 1) cs
    else if verbose && Text.isBlankOrSeparator c then
      significantFrom verbose false (skipped + 1) cs
    else if verbose && c == '#' then significantFrom verbose true (skipped + 1) cs
    else (c, skipped + 1) :: significantFrom verbose false (skipped + 1) cs

/-- The significant characters of a pattern, each with the number of characters up to and
including it. -/
def significant (verbose : Bool) (cs : List Char) : List (Char × Nat) :=
  significantFrom verbose false 0 cs

theorem lt_of_mem_significantFrom {verbose inComment : Bool} {skipped : Nat} {cs : List Char}
    {p : Char × Nat} (h : p ∈ significantFrom verbose inComment skipped cs) : skipped < p.2 := by
  induction cs generalizing inComment skipped with
  | nil => simp [significantFrom] at h
  | cons c cs ih =>
    rw [significantFrom] at h
    split at h
    · exact Nat.lt_of_succ_lt (ih h)
    split at h
    · exact Nat.lt_of_succ_lt (ih h)
    split at h
    · exact Nat.lt_of_succ_lt (ih h)
    · rcases List.mem_cons.1 h with rfl | h
      · exact Nat.lt_succ_self _
      · exact Nat.lt_of_succ_lt (ih h)

/-- Reading a significant character takes at least one character. -/
theorem pos_of_mem_significant {verbose : Bool} {cs : List Char} {p : Char × Nat}
    (h : p ∈ significant verbose cs) : 0 < p.2 :=
  lt_of_mem_significantFrom h

/-- The characters at the head of a view that satisfy `p`, and how far one has read with them. -/
def takeSignificant (p : Char → Bool) (view : List (Char × Nat)) : List Char × Nat :=
  let taken := view.takeWhile (p ·.1)
  (taken.map (·.1), (taken.getLast?.map (·.2)).getD 0)

/-! ## Escapes -/

/-- A group as a pattern names it. -/
inductive GroupName where
  | index (n : Nat)
  | name (s : String)
  deriving DecidableEq, Repr

/-- A reference to a group, and the offset that a complaint about it points to. -/
structure Reference where
  target : GroupName
  position : Nat
  deriving DecidableEq, Repr

/-- What a backslash can introduce. -/
inductive Escape where
  | char (codePoint : Nat)
  | property (p : Property) (negated : Bool)
  | anchor (a : Anchor)
  | reference (r : Reference)
  deriving DecidableEq, Repr

/-- The places that a letter stands for outside a class. -/
def anchorOfLetter? : Char → Option Anchor
  | 'A' => some .textStart
  | 'Z' => some .textEnd
  | 'b' => some .wordBoundary
  | 'B' => some .noWordBoundary
  | 'm' => some .wordStart
  | 'M' => some .wordEnd
  | _ => none

/-- The classes that a letter stands for. -/
def propertyOfLetter? : Char → Option Escape
  | 'd' => some (.property .digit false)
  | 'D' => some (.property .digit true)
  | 's' => some (.property .blank false)
  | 'S' => some (.property .blank true)
  | 'w' => some (.property .word false)
  | 'W' => some (.property .word true)
  | 'h' => some (.property .horizontalBlank false)
  | _ => none

/-- The control characters that a letter stands for. -/
def controlOfLetter? : Char → Option Nat
  | 'a' => some 0x07
  | 'b' => some 0x08
  | 'f' => some 0x0C
  | 'n' => some 0x0A
  | 'r' => some 0x0D
  | 't' => some 0x09
  | 'v' => some 0x0B
  | _ => none

/-- A name as it is compared: case, blanks, hyphens and underscores do not matter. -/
def standardName (name : List Char) : String :=
  String.ofList ((name.filter fun c => !(c == ' ' || c == '-' || c == '_')).map Char.toUpper)

/-- The property of a name. -/
def propertyOfName? (name : List Char) : Option Property :=
  match standardName name with
  | "L" | "LETTER" => some .letter
  | "LU" | "UPPERCASELETTER" => some .uppercase
  | "LL" | "LOWERCASELETTER" => some .lowercase
  | "N" | "NUMBER" => some .number
  | "P" | "PUNCT" | "PUNCTUATION" => some .punctuation
  | "ND" | "DECIMALNUMBER" | "DIGIT" => some .digit
  | _ => none

/-- Whether a name is that of the property whose values are the ones above. -/
def isGeneralCategory (name : List Char) : Bool :=
  standardName name == "GC" || standardName name == "GENERALCATEGORY"

/-- A character of a property's name. -/
def isPropertyNamePart (c : Char) : Bool :=
  c.isAlphanum || c == ' ' || c == '&' || c == '_' || c == '-' || c == '.'

namespace Escape

/-- A code point written with exactly `count` hexadecimal digits after a letter. The result counts
the characters read. -/
def readHex (verbose : Bool) (pos : Nat) (letter : Char) (count : Nat) (rest : List Char) :
    Except Fault (Escape × Nat) :=
  let (digits, read) := takeSignificant isHexDigit ((significant verbose rest).take count)
  if digits.length < count then .error ⟨.incompleteEscape (letter :: digits), pos⟩
  else if numberOf 16 digits ≥ 0x110000 then .error ⟨.escapeTooBig (letter :: digits), pos⟩
  else .ok (.char (numberOf 16 digits), read)

/-- A code point written with up to three octal digits, of which `first` is the first. -/
def readOctal (verbose : Bool) (pos : Nat) (first : Char) (rest : List Char) :
    Except Fault (Escape × Nat) :=
  let (digits, read) := takeSignificant isOctalDigit ((significant verbose rest).take 2)
  if isOctalDigit first then .ok (.char (numberOf 8 (first :: digits)), read)
  else .error ⟨.badEscape first, pos + read⟩

/-- Digits outside a class, of which `first` is the first and not zero: three octal digits write a
code point, and any others the number of a group, of one digit or two. -/
def readNumber (flags : Flags) (pos : Nat) (first : Char) (rest : List Char) : Escape × Nat :=
  let group (digits : List Char) (read : Nat) :=
    (Escape.reference ⟨.index (numberOf 10 digits), pos + read⟩, read)
  match (significant flags.verbose rest).takeWhile (·.1.isDigit) with
  | [] => group [first] 0
  | [(second, read)] => group [first, second] read
  | (second, read) :: (third, all) :: _ =>
    if [first, second, third].all isOctalDigit then
      let n := numberOf 8 [first, second, third]
      (.char (if flags.ascii then n % 0x100 else n % 0x200), all)
    else group [first, second] read

/-- The property of a name that may be qualified with the property that it is a value of. -/
def qualifiedProperty (qualifier : Option (List Char)) (name : List Char) :
    Except Cause Property :=
  match qualifier, propertyOfName? name with
  | none, some p | some [], some p => .ok p
  | none, none | some [], none => .error .unknownProperty
  | some q, p? =>
    if isGeneralCategory q then
      match p? with
      | some p => .ok p
      | none => .error .unknownPropertyValue
    else .error .unknownProperty

/-- A name in a view and the qualifier before it, which a colon or an equals sign ends, with the
view behind both. -/
def takePropertyName (view : List (Char × Nat)) :
    Option (List Char) × List Char × List (Char × Nat) :=
  let name := (takeSignificant isPropertyNamePart view).1
  let after := view.drop name.length
  match after with
  | (mark, _) :: view =>
    let value := (takeSignificant (fun c => isPropertyNamePart c || c == '/') view).1
    if (mark == ':' || mark == '=') && value.any (· != ' ') then
      (some name, value, view.drop value.length)
    else (none, name, after)
  | [] => (none, name, [])

/-- A property after `p` or `P`, in braces or abbreviated to one letter. What is no property at all
is the letter itself. -/
def readProperty (verbose : Bool) (pos : Nat) (letter : Char) (rest : List Char) :
    Except Fault (Escape × Nat) :=
  let literal := (Escape.char letter.toNat, 0)
  let named (qualifier : Option (List Char)) (name : List Char) (negated : Bool) (read : Nat) :
      Except Fault (Escape × Nat) :=
    match qualifiedProperty qualifier name with
    | .ok p => .ok (.property p ((letter == 'P') != negated), read)
    | .error cause => .error ⟨cause, pos + read⟩
  match significant verbose rest with
  | ('{', _) :: view =>
    let negated := (view.head?.map (·.1)) == some '^'
    match takePropertyName (if negated then view.drop 1 else view) with
    | (qualifier, name, ('}', read) :: _) => named qualifier name negated read
    | _ => .ok literal
  | (c, read) :: _ => if c ∈ "CLMNPSZ".toList then named none [c] false read else .ok literal
  | [] => .ok literal

/-- What follows an `N`: a name in braces, of which none is known, or else the letter is meant. -/
def readCharacterName (verbose : Bool) (pos : Nat) (rest : List Char) :
    Except Fault (Escape × Nat) :=
  let literal := (Escape.char 'N'.toNat, 0)
  match significant verbose rest with
  | ('{', k) :: _ =>
    let after := (rest.drop k).dropWhile fun c => c.isAlphanum || c == ' ' || c == '-'
    match significant verbose after with
    | ('}', n) :: _ => .error ⟨.unknownCharacter, pos + (rest.length - after.length) + n⟩
    | _ => .ok literal
  | _ => .ok literal

/-- Reads what follows a backslash, `pos` being the offset just after it. Inside a class blanks are
significant, digits are octal, and `b` is the backspace. The result counts the characters read. -/
def read (flags : Flags) (inSet : Bool) (pos : Nat) (cs : List Char) :
    Except Fault (Escape × Nat) :=
  let verbose := flags.verbose && !inSet
  match cs with
  | [] => .error ⟨.escapeAtEnd, pos⟩
  | c :: rest => do
    let (e, n) ←
      if c = 'x' then readHex verbose (pos + 1) c 2 rest
      else if c = 'u' then readHex verbose (pos + 1) c 4 rest
      else if c = 'U' then readHex verbose (pos + 1) c 8 rest
      else if c = 'p' ∨ c = 'P' then readProperty verbose (pos + 1) c rest
      else if c = 'N' then readCharacterName verbose (pos + 1) rest
      else if c.isDigit then
        if inSet || c == '0' then readOctal verbose (pos + 1) c rest
        else .ok (readNumber flags (pos + 1) c rest)
      else if c.isAlpha then
        match if inSet then none else anchorOfLetter? c with
        | some a => .ok (.anchor a, 0)
        | none =>
          match propertyOfLetter? c, controlOfLetter? c with
          | some e, _ => .ok (e, 0)
          | none, some n => .ok (.char n, 0)
          | none, none => .error ⟨.badEscape c, pos + 1⟩
      else .ok (.char c.toNat, 0)
    return (e, n + 1)

end Escape

end Earley.Regex
