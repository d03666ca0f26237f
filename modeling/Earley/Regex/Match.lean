/-
Earley.Regex.Match — matching by backtracking.

`Node.run` tries the ways to match a tree in order of preference and hands each to a continuation,
until the continuation accepts one. A place is an offset into the whole text, so that anchors and
backward looks see what lies before the start.

- `Node.matchEnd?` is the end of the preferred match that starts at an offset.
- `Node.matchesWhole` asks for any match that spans the text.
-/
import Earley.Regex.Tree

namespace Earley.Regex

/-! ## The text around a place -/

/-- Which way a part of a pattern consumes the text: a look behind goes backward. -/
inductive Direction where
  | forward | backward
  deriving DecidableEq, Repr

/-- The character that a step in a direction consumes. -/
def Direction.char? (d : Direction) (text : Array Char) (pos : Nat) : Option Char :=
  match d, pos with
  | .forward, _ => text[pos]?
  | .backward, 0 => none
  | .backward, p + 1 => text[p]?

/-- The place after a step in a direction. -/
def Direction.next (d : Direction) (pos : Nat) : Nat :=
  match d with
  | .forward => pos + 1
  | .backward => pos - 1

/-- Whether a word character stands just before a place. -/
def wordBefore (flags : Flags) (text : Array Char) (pos : Nat) : Bool :=
  (Direction.backward.char? text pos).any (Property.word.holdsUnder flags)

/-- Whether a word character stands just after a place. -/
def wordAfter (flags : Flags) (text : Array Char) (pos : Nat) : Bool :=
  (Direction.forward.char? text pos).any (Property.word.holdsUnder flags)

/-- Whether an anchor holds at a place. -/
def Anchor.holds (flags : Flags) (text : Array Char) (pos : Nat) : Anchor → Bool
  | .textStart => pos == 0
  | .lineStart => pos == 0 || text[pos - 1]? == some '\n'
  | .textEnd => pos == text.size
  | .lineEnd => pos == text.size || text[pos]? == some '\n'
  | .finalLineEnd => pos == text.size || (pos + 1 == text.size && text[pos]? == some '\n')
  | .wordBoundary => wordBefore flags text pos != wordAfter flags text pos
  | .noWordBoundary => wordBefore flags text pos == wordAfter flags text pos
  | .wordStart => !wordBefore flags text pos && wordAfter flags text pos
  | .wordEnd => wordBefore flags text pos && !wordAfter flags text pos

/-! ## Captures -/

/-- The offsets between which a group matched. -/
structure Span where
  start : Nat
  stop : Nat
  deriving DecidableEq, Repr

/-- A place, and what the groups captured on the way, the latest first. -/
structure State where
  pos : Nat
  captures : List (Nat × Span)
  deriving DecidableEq, Repr

/-- What a group captured last. -/
def State.capture? (s : State) (group : Nat) : Option Span := s.captures.lookup group

/-- Records that a group matched between two places. -/
def State.withCapture (s : State) (group p q : Nat) : State :=
  { s with captures := (group, ⟨min p q, max p q⟩) :: s.captures }

/-- Whether two characters count as the same under the flags. -/
def sameChar (flags : Flags) (a b : Char) : Bool := a == b || (flags.variants a).contains b

/-- Whether the text repeats, from `pos` on, what it has between the offsets of a span. -/
def repeatsAt (flags : Flags) (text : Array Char) (span : Span) (pos : Nat) : Bool :=
  (List.range (span.stop - span.start)).all fun i =>
    match text[span.start + i]?, text[pos + i]? with
    | some a, some b => sameChar flags a b
    | _, _ => false

/-- The place behind a repetition of a captured span, if the text has one at the place. -/
def Span.follow? (flags : Flags) (text : Array Char) (d : Direction) (span : Span) (pos : Nat) :
    Option Nat :=
  let length := span.stop - span.start
  match d with
  | .forward => if repeatsAt flags text span pos then some (pos + length) else none
  | .backward =>
    if length ≤ pos ∧ repeatsAt flags text span (pos - length) then some (pos - length) else none

/-! ## Backtracking -/

/-- A way to match: from a state, the first outcome that the continuation accepts. -/
abbrev Matcher := State → (State → Option State) → Option State

/-- Repeats a step at least `least` and at most `most` times, `count` of them being done. A step
that gains no ground ends the repetition. The fuel bounds the number of steps; one more than the
length of the text is enough, because each of the others gains a character. -/
def iterate (step : Matcher) (least : Nat) (most : Option Nat) (greedy : Bool) :
    (fuel count : Nat) → Matcher
  | 0, _, s, k => k s
  | fuel + 1, count, s, k =>
    let again (_ : Unit) := step s fun t =>
      if t.pos = s.pos then k t else iterate step least most greedy fuel (count + 1) t k
    if count < least then again ()
    else if most.any (· ≤ count) then k s
    else if greedy then (again ()).or (k s)
    else (k s).or (again ())

/-- Matches a tree from a state, in a direction. -/
def Node.run (flags : Flags) (text : Array Char) : Node Nat → Direction → Matcher
  | .empty, _, s, k => k s
  | .chars set, d, s, k =>
    match d.char? text s.pos with
    | some c => if set.contains flags c then k { s with pos := d.next s.pos } else none
    | none => none
  | .anchor a, _, s, k => if a.holds flags text s.pos then k s else none
  | .seq a b, .forward, s, k => a.run flags text .forward s fun t => b.run flags text .forward t k
  | .seq a b, .backward, s, k =>
    b.run flags text .backward s fun t => a.run flags text .backward t k
  | .alt a b, d, s, k => (a.run flags text d s k).or (b.run flags text d s k)
  | .repeated a least most .greedy, d, s, k =>
    iterate (a.run flags text d) least most true (text.size + 1) 0 s k
  | .repeated a least most .lazy, d, s, k =>
    iterate (a.run flags text d) least most false (text.size + 1) 0 s k
  | .repeated a least most .possessive, d, s, k =>
    (iterate (a.run flags text d) least most true (text.size + 1) 0 s some).bind k
  | .group n a, d, s, k => a.run flags text d s fun t => k (t.withCapture n s.pos t.pos)
  | .backreference n, d, s, k =>
    ((s.capture? n).bind fun span => span.follow? flags text d s.pos).bind fun pos =>
      k { s with pos }
  | .look behind negated a, _, s, k =>
    match a.run flags text (if behind then .backward else .forward) s some, negated with
    | some t, false => k { t with pos := s.pos }
    | none, true => k s
    | _, _ => none
  | .atomic a, d, s, k => (a.run flags text d s some).bind k

/-! ## Matching a text -/

/-- The end of the preferred match that starts at `pos`, if there is one. -/
def Node.matchEnd? (flags : Flags) (tree : Node Nat) (text : Array Char) (pos : Nat) : Option Nat :=
  (tree.run flags text .forward ⟨pos, []⟩ some).map (·.pos)

/-- Whether some match spans the whole text. -/
def Node.matchesWhole (flags : Flags) (tree : Node Nat) (text : Array Char) : Bool :=
  (tree.run flags text .forward ⟨0, []⟩ fun s => if s.pos = text.size then some s else none)
    |>.isSome

end Earley.Regex
