import CodeIndex.Yaml.BlockScalar
import CodeIndex.Yaml.Property
import CodeIndex.Yaml.Scalar

/-!
# Tokens

The tokens of a YAML stream that holds mappings of scalars: a block of lines, or entries between
braces. Sequences, and mappings inside of mappings, are refused.

What is read depends on where a line is indented and on what came before (`Scanner`):

* The entries of a block stand in one column. A token in an earlier column ends the block.
* A name needs no question mark in front of it. Whether a scalar is a name is known only at the
  colon behind it, which must be on the same line and at most 1024 characters behind the
  beginning of the name; the tokens that begin the entry are then put in before the name.
* A block or a name begins only at the beginning of a line, or behind a question mark or a
  colon that stands for itself.

`tokens?` are the tokens of a text.
-/

namespace CodeIndex.Yaml

open Text (NoLonger whole)

/-- The tokens of a stream. -/
inductive Token where
  | directive (directive : Directive)
  | documentStart
  | documentEnd
  | blockStart
  | blockEnd
  | flowStart
  | flowEnd
  | comma
  | key
  | value
  | alias (name : String)
  | anchor (name : String)
  | tag (tag : Tag)
  | scalar (style : Style) (text : String)
deriving DecidableEq, Repr

/-- A place where a name may have begun, with the number of tokens since. A name is required
where a token stands in the column of the block. -/
structure PossibleKey where
  place : Glyph
  required : Bool
  since : Nat := 0

/-- What is known between two tokens: the tokens so far, the last one first; the column of the
open block; whether a brace is open; whether a name may begin here; and where one may have
begun. -/
structure Scanner where
  tokens : List Token := []
  indent : Option Nat := none
  inFlow : Bool := false
  keyAllowed : Bool := true
  key : Option PossibleKey := none

/-- A plain scalar does not begin so, unless what follows belongs to a word. -/
def isIndicator (c : Char) : Bool :=
  separates c || isFlowIndicator c || c == '-' || c == '?' || c == ':' || c == '#' ||
    c == '&' || c == '*' || c == '!' || c == '|' || c == '>' || c == '\'' || c == '"' ||
    c == '%' || c == '@' || c == '\x60'

namespace Scanner

/-! ## Between tokens -/

/-- Skips blanks, line ends and comments, and says whether a name may begin behind them. At the
beginning of a line a byte order mark is skipped, and tabs are where no name may begin. -/
def skip (inFlow keyAllowed inComment : Bool) : (text : List Glyph) → Bool × NoLonger text
  | [] => (keyAllowed, whole [])
  | g :: rest =>
    let behind (keyAllowed inComment : Bool) : Bool × NoLonger (g :: rest) :=
      let skipped := skip inFlow keyAllowed inComment rest
      (skipped.1, skipped.2.cons g)
    if isBreak g.char then behind (keyAllowed || !inFlow) false
    else if inComment then behind keyAllowed true
    else if g.char = '#' then behind keyAllowed true
    else if g.char = ' ' ∨ (g.char = '\t' ∧ (inFlow || !keyAllowed) = true) ∨
      (g.char = byteOrderMark ∧ g.column = 0) then behind keyAllowed false
    else (keyAllowed, whole (g :: rest))

/-- The scanner with one more token. -/
def push (scanner : Scanner) (token : Token) : Scanner :=
  { scanner with
    tokens := token :: scanner.tokens
    key := scanner.key.map fun key => { key with since := key.since + 1 } }

/-- Ends the block. -/
def endBlock (scanner : Scanner) : Scanner :=
  if scanner.indent.isSome then { scanner.push .blockEnd with indent := none } else scanner

/-- Nothing that stands here continues a name. A name that is required is not given up. -/
def dropKey? (scanner : Scanner) : Option Scanner :=
  if scanner.key.any (·.required) then none else some { scanner with key := none }

/-- What becomes of the scanner where a token begins: a name that has become too long or is on an
earlier line is given up, and a block ends before its column. -/
def arrive? (scanner : Scanner) (g : Glyph) : Option Scanner := do
  let stale := scanner.key.any fun key =>
    key.place.line < g.line || key.place.index + 1024 < g.index
  let scanner ← if stale then scanner.dropKey? else some scanner
  if scanner.inFlow || scanner.indent.all (· ≤ g.column) then return scanner
  else return scanner.endBlock

/-- A name may begin with the token that begins here. -/
def noteKey? (scanner : Scanner) (g : Glyph) : Option Scanner :=
  if scanner.keyAllowed then
    scanner.dropKey?.map fun scanner =>
      { scanner with
        key := some ⟨g, !scanner.inFlow && scanner.indent == some g.column, 0⟩ }
  else some scanner

/-- The token of a value, with a name before it or none, behind which no name begins. -/
def leaf? (scanner : Scanner) (g : Glyph) : Option Scanner :=
  (scanner.noteKey? g).map fun scanner => { scanner with keyAllowed := false }

/-! ## Entries -/

/-- The tokens that begin an entry in a column, the last one first, and the column of the block
then. A block within a block is refused. -/
def openEntry? (scanner : Scanner) (column : Nat) : Option (List Token × Option Nat) :=
  if scanner.inFlow then some ([], none)
  else
    match scanner.indent with
    | none => some ([.blockStart], some column)
    | some indent => if indent < column then none else some ([], some indent)

/-- A question mark: a name follows, in a block of lines perhaps on lines of its own. -/
def keyToken? (scanner : Scanner) (g : Glyph) : Option Scanner :=
  if !scanner.inFlow && !scanner.keyAllowed then none
  else do
    let (opening, indent) ← scanner.openEntry? g.column
    let scanner ← scanner.dropKey?
    return { scanner with
      tokens := .key :: opening ++ scanner.tokens
      indent := indent
      keyAllowed := !scanner.inFlow }

/-- A colon: a value follows. The tokens that begin the entry are put in where its name began. -/
def valueToken? (scanner : Scanner) (g : Glyph) : Option Scanner :=
  match scanner.key with
  | some key => do
    let (opening, indent) ← scanner.openEntry? key.place.column
    return { scanner with
      tokens := .value :: scanner.tokens.take key.since ++ .key :: opening ++
        scanner.tokens.drop key.since
      indent := indent
      keyAllowed := false
      key := none }
  | none =>
    if !scanner.inFlow && !scanner.keyAllowed then none
    else do
      let (opening, indent) ← scanner.openEntry? g.column
      return { scanner with
        tokens := .value :: opening ++ scanner.tokens
        indent := indent
        keyAllowed := !scanner.inFlow }

/-- A brace or a comma that belongs to entries between braces, behind which a name may begin or
not. No brace is open within another, or within a block. -/
def flowToken? (scanner : Scanner) (token : Token) : Option Scanner :=
  match token with
  | .flowStart =>
    if scanner.inFlow || scanner.indent.isSome then none
    else some { scanner.push token with inFlow := true, keyAllowed := true, key := none }
  | .flowEnd =>
    if scanner.inFlow then
      some { scanner.push token with inFlow := false, keyAllowed := false, key := none }
    else none
  | _ =>
    if scanner.inFlow then some { scanner.push token with keyAllowed := true, key := none }
    else none

/-- A mark or a directive in the first column ends the block. -/
def endDocument? (scanner : Scanner) : Option Scanner :=
  if scanner.inFlow then none
  else scanner.endBlock.dropKey?.map fun scanner => { scanner with keyAllowed := false }

/-! ## Scalars -/

/-- The scanner with a scalar read. -/
def scalar (scanner : Scanner) (style : Style) (text : List Char) : Scanner :=
  scanner.push (.scalar style (String.ofList text))

/-- A scalar between quotes, from behind the opening quote. -/
def quoted? (scanner : Scanner) (g : Glyph) (rest : List Glyph) :
    Option (Scanner × NoLonger rest) := do
  let scanner ← scanner.leaf? g
  if g.char = '"' then
    let (text, behind) ← doubleQuoted? rest
    return (scanner.scalar .doubleQuoted text, behind)
  else
    let (text, behind) ← singleQuoted? rest
    return (scanner.scalar .singleQuoted text, behind)

/-- A scalar in a block of lines. A name may begin behind it. -/
def lines? (scanner : Scanner) (g : Glyph) (rest : List Glyph) :
    Option (Scanner × NoLonger rest) := do
  let scanner ← scanner.dropKey?
  let folded := g.char == '>'
  let (text, behind) ← blockScalar? folded scanner.indent rest
  return ({ scanner.scalar (if folded then .folded else .literal) text with keyAllowed := true },
    behind)

/-- A plain scalar with its first character. A name may begin behind it if it ends a line. -/
def plainScalar? (scanner : Scanner) (g : Glyph) (rest : List Glyph) :
    Option (Scanner × NoLonger rest) := do
  let scanner ← scanner.leaf? g
  let least := (scanner.indent.map (· + 1)).getD 0
  let ((text, broken), behind) ← plain? scanner.inFlow least rest
  return ({ scanner.scalar .plain (g.char :: text) with keyAllowed := broken }, behind)

/-! ## The whole stream -/

/-- Reads the token that begins with a character in the first column and ends a document. -/
def margin? (scanner : Scanner) (g : Glyph) (rest : List Glyph) :
    Option (Scanner × NoLonger rest) := do
  let scanner ← scanner.endDocument?
  if g.char = '%' then
    let (directive, behind) ← directive? rest
    return (scanner.push (.directive directive), behind)
  else
    let token := if g.char = '-' then .documentStart else .documentEnd
    return (scanner.push token, Text.skip 2 rest)

/-- Reads the token that begins with a character. -/
def token? (scanner : Scanner) (g : Glyph) (rest : List Glyph) :
    Option (Scanner × NoLonger rest) :=
  let alone (next : Option Scanner) : Option (Scanner × NoLonger rest) :=
    next.map (·, whole rest)
  let c := g.char
  let apart := endsWord rest
  if (c = '%' && g.column == 0) || beginsMarker (g :: rest) then scanner.margin? g rest
  else if c = '\x7b' then alone (scanner.flowToken? .flowStart)
  else if c = '\x7d' then alone (scanner.flowToken? .flowEnd)
  else if c = ',' then alone (scanner.flowToken? .comma)
  else if c = '?' && (scanner.inFlow || apart) then alone (scanner.keyToken? g)
  else if c = ':' && (scanner.inFlow || apart) then alone (scanner.valueToken? g)
  else if c = '*' || c = '&' then do
    let scanner ← scanner.leaf? g
    let (name, behind) ← anchor? rest
    return (scanner.push (if c = '*' then .alias name else .anchor name), behind)
  else if c = '!' then do
    let scanner ← scanner.leaf? g
    let (tag, behind) ← tag? scanner.inFlow rest
    return (scanner.push (.tag tag), behind)
  else if (c = '|' || c = '>') && !scanner.inFlow then scanner.lines? g rest
  else if c = '"' || c = '\'' then scanner.quoted? g rest
  else if !isIndicator c || (c = '-' && !apart) ||
    ((c = '?' || c = ':') && !scanner.inFlow && !apart) then scanner.plainScalar? g rest
  else none

/-- The tokens at the end of a stream, in order. -/
def finish? (scanner : Scanner) : Option (List Token) :=
  if scanner.inFlow then none
  else scanner.endBlock.dropKey?.map fun scanner => scanner.tokens.reverse

/-- Reads tokens up to the end of a text. -/
def run? (scanner : Scanner) (text : List Glyph) : Option (List Token) :=
  match skip scanner.inFlow scanner.keyAllowed false text with
  | (_, ⟨[], _⟩) => scanner.finish?
  | (keyAllowed, ⟨g :: rest, _⟩) =>
    match { scanner with keyAllowed := keyAllowed }.arrive? g with
    | none => none
    | some scanner =>
      match scanner.token? g rest with
      | none => none
      | some (scanner, ⟨behind, _⟩) => scanner.run? behind
termination_by text.length
decreasing_by simp only [List.length_cons] at *; omega

end Scanner

/-- The tokens of a text. -/
def tokens? (text : String) : Option (List Token) := (glyphs? text).bind (({} : Scanner).run?)

end CodeIndex.Yaml
