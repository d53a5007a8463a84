import CodeIndex.Yaml.Glyph

/-!
# Scalars in blocks of lines

A scalar may be the lines below a bar or a greater-than sign that are indented further than the
block around them. Behind a bar the lines are kept as they are (*literal*), behind a
greater-than sign they are joined as words are (*folded*). Two indicators may follow: how much
of the end is kept (`Chomp`), and how far the lines are indented, which is otherwise found out
from the first line that is not empty.

* `blockScalar?` reads such a scalar from behind the bar or the greater-than sign.
-/

namespace CodeIndex.Yaml

open Text (NoLonger whole skipWhile)

/-- How much of the line ends at the end of a scalar is kept: nothing, one, or all. -/
inductive Chomp where
  | strip
  | clip
  | keep
deriving DecidableEq, Repr

/-- The indicator of how much of the end is kept. -/
def chompOf? (c : Char) : Option Chomp :=
  if c = '-' then some .strip else if c = '+' then some .keep else none

/-- The indicator of how far the lines are indented. -/
def incrementOf? (c : Char) : Option Nat :=
  if '1' ≤ c ∧ c ≤ '9' then some (c.toNat - '0'.toNat) else none

/-- Takes an indicator off a text if it is there. -/
def indicator? {α : Type} (read : Char → Option α) (text : List Glyph) :
    Option α × NoLonger text :=
  match text with
  | [] => (none, whole [])
  | g :: rest =>
    match read g.char with
    | some found => (some found, Text.tail g rest)
    | none => (none, whole (g :: rest))

/-- Takes the indicators off a text, in either order. -/
def indicators (text : List Glyph) : (Option Chomp × Option Nat) × NoLonger text :=
  match indicator? chompOf? text with
  | (some chomp, ⟨rest, chomped⟩) =>
    match indicator? incrementOf? rest with
    | (increment, behind) => ((some chomp, increment), behind.trans chomped)
  | (none, _) =>
    match indicator? incrementOf? text with
    | (none, _) => ((none, none), whole text)
    | (some increment, ⟨rest, stepped⟩) =>
      match indicator? chompOf? rest with
      | (chomp, behind) => ((chomp, some increment), behind.trans stepped)

/-! ## Lines -/

/-- Empty lines, and how far the deepest of them and the line behind them are indented. -/
structure EmptyLines where
  breaks : List Char := []
  depth : Nat := 0

/-- Takes empty lines and the indentation of the line behind them off a text. Where the
indentation is known, it is taken off and no more. No tab stands in it. -/
def takeEmptyLines? (indent : Option Nat) :
    (text : List Glyph) → Option (EmptyLines × NoLonger text)
  | [] => some ({}, whole [])
  | g :: rest =>
    let inIndentation := indent.all fun column => decide (g.column < column)
    if inIndentation && g.char == '\t' then none
    else if (inIndentation && g.char == ' ') || isBreak g.char then
      match takeEmptyLines? indent rest with
      | none => none
      | some (lines, behind) =>
        let found : EmptyLines :=
          if isBreak g.char then ⟨g.char :: lines.breaks, max g.column lines.depth⟩ else lines
        some (found, behind.cons g)
    else some (⟨[], g.column⟩, whole (g :: rest))

/-- What stands between two lines: the end of the first one and the empty lines behind it. In a
folded scalar the end of a line is joined as between words, unless one of the lines begins with
a blank. -/
def join (folded : Bool) (ending empty : List Char) : List Char :=
  if folded && ending == ['\n'] then if empty.isEmpty then [' '] else empty
  else ending ++ empty

/-- The lines of a scalar that are left, and what stands behind them. -/
structure BlockLines where
  text : List Char
  ending : List Char
  empty : List Char

/-- Reads lines with the given indentation. The end of the line before, the empty lines behind
it, and whether it began with a blank are known. -/
def blockLines? (folded : Bool) (indent : Nat) (ending empty : List Char) (indented : Bool)
    (text : List Glyph) : Option (BlockLines × NoLonger text) :=
  match text with
  | [] => some (⟨[], ending, empty⟩, whole [])
  | g :: rest =>
    if g.column ≠ indent then some (⟨[], ending, empty⟩, whole (g :: rest))
    else
      let blank := isInlineBlank g.char
      let front := join (folded && !indented && !blank) ending empty
      let line := g.char :: (rest.takeWhile fun g => !isBreak g.char).map (·.char)
      match skipWhile (fun g => !isBreak g.char) rest with
      | ⟨[], _⟩ => some (⟨front ++ line, [], []⟩, ⟨[], Nat.zero_le _⟩)
      | ⟨lineEnd :: later, skipped⟩ =>
        match takeEmptyLines? (some indent) later with
        | none => none
        | some (lines, ⟨behind, shorter⟩) =>
          have fits : behind.length < (g :: rest).length := by
            simp only [List.length_cons] at *; omega
          match blockLines? folded indent [lineEnd.char] lines.breaks blank behind with
          | none => none
          | some (read, last) =>
            some ({ read with text := front ++ line ++ read.text },
              last.trans (Nat.le_of_lt fits))
termination_by text.length
decreasing_by exact fits

/-! ## Scalars -/

/-- Reads a scalar in a block of lines. The block around it is indented to a column, or there is
none; the lines are indented further, and at least by one space. -/
def blockScalar? (folded : Bool) (around : Option Nat) (text : List Glyph) :
    Option (List Char × NoLonger text) :=
  match indicators text with
  | ((chomp, increment), ⟨header, marked⟩) =>
    match skipLine? header with
    | none => none
    | some ⟨start, skipped⟩ =>
      let indent := increment.map (around.getD 0 + ·)
      match takeEmptyLines? indent start with
      | none => none
      | some (lines, ⟨content, begun⟩) =>
        let least := (around.map (· + 1)).getD 1
        let column := indent.getD (max lines.depth (max least 1))
        match blockLines? folded column [] lines.breaks false content with
        | none => none
        | some (read, behind) =>
          let kept :=
            match chomp.getD .clip with
            | .strip => []
            | .clip => read.ending
            | .keep => read.ending ++ read.empty
          some (read.text ++ kept, ((behind.trans begun).trans skipped).trans marked)

end CodeIndex.Yaml
