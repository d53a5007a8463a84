/-!
# Positions in a text

Offsets count characters from zero; lines and columns count from one, and an offset equal to
the length of the text is the position after its last character.

* A line ends after `\n` and after a `\r` that no `\n` follows (`endsLine`), so `\r\n` is one
  line end.
* `LineMap.ofText` records where every line starts, in characters and in bytes; a lookup is a
  binary search in that table.
* `LineMap.position`, `LineMap.span` and `LineMap.slice` answer for one offset and for a range.
-/

namespace CodeIndex

/-- A line and a column, both counted from one. -/
structure Position where
  line : Nat
  column : Nat
deriving DecidableEq, Repr

/-- A range of positions: where it starts and where it ends. -/
structure Span where
  startLine : Nat
  startColumn : Nat
  endLine : Nat
  endColumn : Nat
deriving DecidableEq, Repr

/-- The span between two positions, unless the second stands before the first. -/
def Span.between? (first last : Position) : Option Span :=
  if last.line < first.line ∨ last.line = first.line ∧ last.column < first.column then none
  else some ⟨first.line, first.column, last.line, last.column⟩

/-- Why offsets have no position. -/
inductive PositionError where
  | outOfRange (offset length : Nat)
  | inverted (first last : Nat)
deriving DecidableEq, Repr

/-- The wording of a position error. -/
def PositionError.message : PositionError → String
  | .outOfRange offset length => s!"offset {offset} is outside the text (length {length})"
  | .inverted first last => s!"range {first}..{last} ends before it starts"

/-! ## The table of lines -/

/-- Where a line starts, in characters and in bytes. -/
structure LineStart where
  chars : Nat
  bytes : Nat
deriving DecidableEq, Repr

/-- A line ends after the character `c`, when `rest` follows it. -/
def endsLine (c : Char) (rest : List Char) : Bool :=
  c == '\n' || (c == '\r' && rest.head? != some '\n')

/-- The table with the starts of the lines that a text begins after its first one. The text
begins at the given place. -/
def addLines (starts : Array LineStart) (chars bytes : Nat) : List Char → Array LineStart
  | [] => starts
  | c :: rest =>
    let chars := chars + 1
    let bytes := bytes + c.utf8Size
    addLines (if endsLine c rest then starts.push ⟨chars, bytes⟩ else starts) chars bytes rest

/-- A text with the table of its lines. -/
structure LineMap where
  text : String
  starts : Array LineStart
  length : Nat

/-- The table of a text. The first line starts at the beginning. -/
def LineMap.ofText (text : String) : LineMap :=
  ⟨text, addLines #[⟨0, 0⟩] 0 0 text.toList, text.length⟩

namespace LineMap

/-- Between `low` and `high`, the first entry of the table that starts after the offset.
The entries below `low` start at or before it, those from `high` on after it. -/
def firstAfter (map : LineMap) (offset low high : Nat) : Nat :=
  if low < high then
    let middle := low + (high - low) / 2
    match map.starts[middle]? with
    | some start =>
      if start.chars ≤ offset then map.firstAfter offset (middle + 1) high
      else map.firstAfter offset low middle
    | none => low
  else low
termination_by high - low
decreasing_by all_goals omega

/-- The index of the line that holds an offset: the last line that starts at or before it. -/
def lineIndex (map : LineMap) (offset : Nat) : Nat :=
  map.firstAfter offset 0 map.starts.size - 1

/-- Where a line starts. A line past the table starts at the beginning. -/
def lineStart (map : LineMap) (index : Nat) : LineStart := map.starts[index]?.getD ⟨0, 0⟩

/-- The largest line or column that is told apart: `2 ^ 32 - 1`. -/
def maxCoordinate : Nat := UInt32.size - 1

/-- The position of an offset that is not past the end of the text. -/
def position (map : LineMap) (offset : Nat) : Except PositionError Position :=
  if map.length < offset then .error (.outOfRange offset map.length)
  else
    let index := map.lineIndex offset
    .ok ⟨min (index + 1) maxCoordinate,
      min (offset - (map.lineStart index).chars + 1) maxCoordinate⟩

/-- The span of a range of offsets. -/
def span (map : LineMap) (first last : Nat) : Except PositionError Span :=
  if last < first then .error (.inverted first last)
  else do
    let start ← map.position first
    let stop ← map.position last
    match Span.between? start stop with
    | some span => .ok span
    | none => .error (.inverted first last)

/-- The place that lies a number of characters after another one. -/
def advance (text : String) (place : String.Pos.Raw) : Nat → String.Pos.Raw
  | 0 => place
  | count + 1 => advance text (place.next text) count

/-- The place in bytes of an offset that is not past the end of the text. -/
def place (map : LineMap) (offset : Nat) : Except PositionError String.Pos.Raw :=
  if map.length < offset then .error (.outOfRange offset map.length)
  else
    let start := map.lineStart (map.lineIndex offset)
    .ok (advance map.text ⟨start.bytes⟩ (offset - start.chars))

/-- The characters between two offsets. -/
def slice (map : LineMap) (first last : Nat) : Except PositionError String :=
  if last < first then .error (.inverted first last)
  else do
    let start ← map.place first
    let stop ← map.place last
    .ok (start.extract map.text stop)

end LineMap

end CodeIndex
