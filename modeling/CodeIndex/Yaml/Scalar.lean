import CodeIndex.Text.Digit
import CodeIndex.Yaml.Glyph

/-!
# Scalars within lines

A scalar is plain, between single quotes or between double quotes. It may go on over several
lines: blanks around the end of a line are dropped, a single line end becomes a space, and of
more line ends in a row the first is dropped.

* `plain?` reads a plain scalar. It ends before a colon or a number sign that stands apart, at
  a mark in the first column, and where a line is not indented as far as it has to be.
* `singleQuoted?` and `doubleQuoted?` read what stands between quotes.
-/

namespace CodeIndex.Yaml

open Text (NoLonger whole)

/-- How a scalar is written. -/
inductive Style where
  | plain
  | singleQuoted
  | doubleQuoted
  | literal
  | folded
deriving DecidableEq, Repr

/-! ## Gaps between words -/

/-- The blanks and the line ends between two words of a scalar. -/
structure Gap where
  blanks : List Char := []
  breaks : List Char := []

namespace Gap

/-- The gap with one more glyph in front. -/
def cons (g : Glyph) (gap : Gap) : Gap :=
  if isBreak g.char then { gap with breaks := g.char :: gap.breaks }
  else { gap with blanks := g.char :: gap.blanks }

/-- A line ends in the gap. -/
def isBroken (gap : Gap) : Bool := !gap.breaks.isEmpty

/-- What a gap stands for: its blanks on one line; else its line ends, of which the first is left
out and a lonely one becomes a space. Only line feeds are changed so. -/
def text (gap : Gap) : List Char :=
  match gap.breaks with
  | [] => gap.blanks
  | first :: more =>
    if first ≠ '\n' then first :: more
    else if more.isEmpty then [' ']
    else more

end Gap

/-- Takes blanks and line ends off a text. On a new line, no tab stands before the column from
which on the scalar may go on. -/
def takeGap? (least : Nat) (broken : Bool) : (text : List Glyph) → Option (Gap × NoLonger text)
  | [] => some ({}, whole [])
  | g :: rest =>
    if separates g.char then
      if broken && g.char == '\t' && g.column < least then none
      else
        match takeGap? least (broken || isBreak g.char) rest with
        | some (gap, behind) => some (gap.cons g, behind.cons g)
        | none => none
    else some ({}, whole (g :: rest))

/-- The gap that begins with a blank or a line end, of which the text behind is given. -/
def gapFrom? (least : Nat) (g : Glyph) (rest : List Glyph) : Option (Gap × NoLonger rest) :=
  match takeGap? least (isBreak g.char) rest with
  | some (gap, behind) => some (gap.cons g, behind)
  | none => none

/-! ## Plain scalars -/

/-- No word of a plain scalar goes on here: at the end, at a blank, at a colon that stands apart,
and between braces at an indicator. -/
def endsPlainWord (inFlow : Bool) : List Glyph → Bool
  | [] => true
  | g :: rest =>
    separates g.char || (g.char == ':' && endsWord rest) || (inFlow && isFlowIndicator g.char)

/-- A colon stands directly before an indicator. -/
def isTightColon : List Glyph → Bool
  | g :: next :: _ => g.char == ':' && (isFlowIndicator next.char || next.char == '?')
  | _ => false

/-- Takes the rest of a word of a plain scalar off a text. Between braces there is none with a
tight colon. -/
def takeWord? (inFlow : Bool) : (text : List Glyph) → Option (List Char × NoLonger text)
  | [] => some ([], whole [])
  | g :: rest =>
    if inFlow && isTightColon (g :: rest) then none
    else if endsPlainWord inFlow (g :: rest) then some ([], whole (g :: rest))
    else
      match takeWord? inFlow rest with
      | some (word, behind) => some (g.char :: word, behind.cons g)
      | none => none

/-- No word of a plain scalar begins behind a gap. -/
def endsPlain (inFlow : Bool) (least : Nat) (text : List Glyph) : Bool :=
  beginsMarker text || endsPlainWord inFlow text ||
    text.head?.any fun g => g.char == '#' || (!inFlow && decide (g.column < least))

/-- Reads a plain scalar from behind its first character, and says whether a line ended behind
its last word. -/
def plain? (inFlow : Bool) (least : Nat) (text : List Glyph) :
    Option ((List Char × Bool) × NoLonger text) :=
  match takeWord? inFlow text with
  | none => none
  | some (word, ⟨[], read⟩) => some ((word, false), ⟨[], read⟩)
  | some (word, ⟨g :: rest, read⟩) =>
    if !separates g.char then some ((word, false), ⟨g :: rest, read⟩)
    else
      match gapFrom? least g rest with
      | none => none
      | some (gap, ⟨behind, shorter⟩) =>
        have fits : behind.length < text.length := by
          simp only [List.length_cons] at read; omega
        if endsPlain inFlow least behind then
          some ((word, gap.isBroken), (whole behind).trans (Nat.le_of_lt fits))
        else
          match plain? inFlow least behind with
          | none => none
          | some ((more, broken), last) =>
            some ((word ++ gap.text ++ more, broken), last.trans (Nat.le_of_lt fits))
termination_by text.length

/-! ## Quoted scalars -/

/-- The escapes that stand for one character each, by the character behind the backslash. -/
def escapes : List (Char × Char) :=
  [('0', '\x00'), ('a', '\x07'), ('b', '\x08'), ('t', '\t'), ('\t', '\t'), ('n', '\n'),
    ('v', '\x0b'), ('f', '\x0c'), ('r', '\r'), ('e', '\x1b'), (' ', ' '), ('"', '"'),
    ('/', '/'), ('\\', '\\'), ('N', '\u0085'), ('_', '\u00A0'), ('L', '\u2028'),
    ('P', '\u2029')]

/-- The escapes by code, with the number of their hexadecimal digits. -/
def codeEscapes : List (Char × Nat) := [('x', 2), ('u', 4), ('U', 8)]

/-- The character with a code that is written in hexadecimal digits. -/
def charOfHex? (digits : List Char) : Option Char :=
  match Text.numeral? 16 digits with
  | some code => if code.isValidChar then some (Char.ofNat code) else none
  | none => none

/-- Reads what stands behind a backslash. The end of a line is dropped, and so are the blanks
that follow. -/
def escape? : (text : List Glyph) → Option (List Char × NoLonger text)
  | [] => none
  | g :: rest =>
    if isBreak g.char then
      match takeGap? 0 true rest with
      | some (gap, behind) => some (gap.breaks, behind.cons g)
      | none => none
    else
      match escapes.lookup g.char, codeEscapes.lookup g.char with
      | some c, _ => some ([c], Text.tail g rest)
      | none, some length =>
        let digits := (rest.take length).map (·.char)
        if digits.length < length then none
        else (charOfHex? digits).map fun c => ([c], (Text.skip length rest).cons g)
      | none, none => none

/-- A piece of a scalar in front of what is read behind it. The piece begins with a glyph. -/
def joined (piece : List Char) {text : List Glyph} (g : Glyph) (behind : NoLonger text) :
    Option (List Char × NoLonger behind.val) → Option (List Char × NoLonger (g :: text))
  | some (taken, rest) => some (piece ++ taken, (rest.trans behind.property).cons g)
  | none => none

/-- Reads a scalar in single quotes from behind the opening quote. A quote inside is written
twice. -/
def singleQuoted? (text : List Glyph) : Option (List Char × NoLonger text) :=
  if beginsMarker text then none
  else
    match text with
    | [] => none
    | g :: rest =>
      if separates g.char then
        match gapFrom? 0 g rest with
        | some (gap, behind) => joined gap.text g behind (singleQuoted? behind.val)
        | none => none
      else if g.char = '\'' then
        match rest with
        | [] => some ([], Text.tail g [])
        | next :: later =>
          if next.char = '\'' then
            joined ['\''] g (Text.tail next later) (singleQuoted? later)
          else some ([], Text.tail g (next :: later))
      else joined [g.char] g (whole rest) (singleQuoted? rest)
termination_by text.length
decreasing_by
  all_goals simp only [List.length_cons]
  · exact Nat.lt_succ_of_le behind.property
  · omega
  · omega

/-- Reads a scalar in double quotes from behind the opening quote. -/
def doubleQuoted? (text : List Glyph) : Option (List Char × NoLonger text) :=
  if beginsMarker text then none
  else
    match text with
    | [] => none
    | g :: rest =>
      if separates g.char then
        match gapFrom? 0 g rest with
        | some (gap, behind) => joined gap.text g behind (doubleQuoted? behind.val)
        | none => none
      else if g.char = '"' then some ([], Text.tail g rest)
      else if g.char = '\\' then
        match escape? rest with
        | some (piece, behind) => joined piece g behind (doubleQuoted? behind.val)
        | none => none
      else joined [g.char] g (whole rest) (doubleQuoted? rest)
termination_by text.length
decreasing_by
  all_goals simp only [List.length_cons]
  · exact Nat.lt_succ_of_le behind.property
  · exact Nat.lt_succ_of_le behind.property
  · omega

end CodeIndex.Yaml
