import CodeIndex.Text.Rest

/-!
# Glyphs

A YAML stream is read as a list of glyphs: characters that know where they stand. The ends of
lines are made alike on the way. A carriage return, a line feed, both in this order, and the
character U+0085 become a line feed; the separators U+2028 and U+2029 end lines too, but stay
what they are.

* `glyphs?` are the glyphs of a text, if all of its characters may stand in a stream;
* `beginsMarker` says whether a line begins with a mark that ends a document.
-/

namespace CodeIndex.Yaml

/-- A character with the number of characters before it, its line, and the number of characters
before it on its line. -/
structure Glyph where
  char : Char
  index : Nat
  line : Nat
  column : Nat
deriving DecidableEq, Repr

/-! ## Characters -/

/-- The mark that may stand at the beginning of a line. -/
def byteOrderMark : Char := '\uFEFF'

/-- May stand in a stream. -/
def isAllowed (c : Char) : Bool :=
  c == '\t' || c == '\n' || c == '\r' || c == '\u0085' || (' ' ≤ c && c ≤ '~') ||
    ('\u00A0' ≤ c && c ≤ '\uFFFD') || 0x10000 ≤ c.toNat

/-- Ends a line, once the ends of lines are alike. -/
def isBreak (c : Char) : Bool := c == '\n' || c == '\u2028' || c == '\u2029'

/-- Separates words on a line. -/
def isInlineBlank (c : Char) : Bool := c == ' ' || c == '\t'

/-- Separates words. -/
def separates (c : Char) : Bool := isInlineBlank c || isBreak c

/-- Separates the entries of a collection between brackets, or encloses them. -/
def isFlowIndicator (c : Char) : Bool :=
  c == ',' || c == '[' || c == ']' || c == '\x7b' || c == '\x7d'

/-- May stand in the name of an anchor, a handle or a directive. -/
def isWordChar (c : Char) : Bool := c.isAlphanum || c == '-' || c == '_'

/-! ## Streams -/

/-- The glyphs of a text, of which the first one stands at the given place. -/
def glyphsFrom (index line column : Nat) : List Char → List Glyph
  | [] => []
  | '\r' :: '\n' :: rest => ⟨'\n', index, line, column⟩ :: glyphsFrom (index + 2) (line + 1) 0 rest
  | c :: rest =>
    let unified := if c == '\r' || c == '\u0085' then '\n' else c
    ⟨unified, index, line, column⟩ ::
      if isBreak unified then glyphsFrom (index + 1) (line + 1) 0 rest
      else glyphsFrom (index + 1) line (column + 1) rest

/-- The glyphs of a text. -/
def glyphs? (text : String) : Option (List Glyph) :=
  if text.toList.all isAllowed then some (glyphsFrom 0 0 0 text.toList) else none

/-- The text ends, or a blank or a line end comes next. -/
def endsWord (text : List Glyph) : Bool := text.head?.all fun next => separates next.char

/-- A line begins with three times the given character, and these stand alone. -/
def beginsWith (mark : Char) : List Glyph → Bool
  | first :: second :: third :: rest =>
    first.column == 0 && first.char == mark && second.char == mark && third.char == mark &&
      endsWord rest
  | _ => false

/-- A line begins with a mark that ends one document or begins another. -/
def beginsMarker (text : List Glyph) : Bool := beginsWith '-' text || beginsWith '.' text

/-- What stands behind the end of a line on which nothing but a comment is left. -/
def skipLine? (text : List Glyph) : Option (Text.NoLonger text) :=
  match Text.skipWhile (fun g => isInlineBlank g.char) text with
  | ⟨[], blank⟩ => some ⟨[], blank⟩
  | ⟨g :: rest, blank⟩ =>
    if g.char = '#' then
      match Text.skipWhile (fun g => !isBreak g.char) rest with
      | ⟨[], comment⟩ => some (((Text.whole []).trans comment |>.cons g).trans blank)
      | ⟨next :: behind, comment⟩ =>
        some ((((Text.tail next behind).trans comment).cons g).trans blank)
    else if isBreak g.char then some ((Text.tail g rest).trans blank)
    else none

end CodeIndex.Yaml
