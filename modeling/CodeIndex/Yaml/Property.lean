import CodeIndex.Text.Digit
import CodeIndex.Yaml.Glyph

/-!
# Anchors, tags and directives

In front of a value may stand an anchor, which names it, and a tag, which says what it is. A tag
is a handle with a suffix; directives at the beginning of a document say what handles stand for.

* `anchor?`, `tag?` and `directive?` read these from behind their first character;
* `Handles.expand?` is what a tag stands for.

The text of a tag is a sequence of octets, each kept as the character with its number.
-/

namespace CodeIndex.Yaml

open Text (NoLonger whole skipWhile)

/-- The word in front of a text; it may be empty. -/
def word (text : List Glyph) : List Char :=
  (text.takeWhile fun g => isWordChar g.char).map (·.char)

/-- What stands behind the word in front of a text. -/
def behindWord (text : List Glyph) : NoLonger text := skipWhile (fun g => isWordChar g.char) text

/-- May stand behind the name of an anchor, apart from blanks and line ends. -/
def endsAnchor (c : Char) : Bool :=
  c == '?' || c == ':' || c == ',' || c == ']' || c == '\x7d' || c == '%' || c == '@' ||
    c == '\x60'

/-- Reads the name of an anchor. -/
def anchor? (text : List Glyph) : Option (String × NoLonger text) :=
  let rest := behindWord text
  if !(word text).isEmpty &&
    rest.val.head?.all fun g => separates g.char || endsAnchor g.char then
    some (String.ofList (word text), rest)
  else none

/-! ## Resource identifiers -/

/-- May stand in the suffix of a tag. -/
def isSuffixChar (c : Char) : Bool :=
  isWordChar c || c == ';' || c == '/' || c == '?' || c == ':' || c == '@' || c == '&' ||
    c == '=' || c == '+' || c == '$' || c == '.' || c == '!' || c == '~' || c == '*' ||
    c == '\'' || c == '(' || c == ')'

/-- May stand in a resource identifier that is written out. -/
def isResourceChar (c : Char) : Bool := isSuffixChar c || c == ',' || c == '[' || c == ']'

/-- The number of octets that follow the first octet of a character. -/
def trailing? (octet : Nat) : Option Nat :=
  if octet < 0x80 then some 0
  else if 0xC0 ≤ octet ∧ octet < 0xE0 then some 1
  else if 0xE0 ≤ octet ∧ octet < 0xF0 then some 2
  else if 0xF0 ≤ octet ∧ octet < 0xF8 then some 3
  else none

/-- The number of octets that are missing behind one, where some were missing before it. -/
def missingBehind? (missing octet : Nat) : Option Nat :=
  if missing = 0 then trailing? octet
  else if 0x80 ≤ octet ∧ octet < 0xC0 then some (missing - 1)
  else none

/-- Takes the octets of a resource identifier off a text. An octet may be written as a percent
sign and two hexadecimal digits; those of one character stand together. -/
def takeResource? (allowed : Char → Bool) (missing : Nat) :
    (text : List Glyph) → Option (List Char × NoLonger text)
  | [] => if missing = 0 then some ([], whole []) else none
  | g :: rest =>
    if g.char = '%' then
      match rest with
      | high :: low :: later =>
        match Text.numeral? 16 [high.char, low.char] with
        | none => none
        | some octet =>
          match missingBehind? missing octet with
          | none => none
          | some still =>
            match takeResource? allowed still later with
            | none => none
            | some (taken, behind) =>
              some (Char.ofNat octet :: taken, ((behind.cons low).cons high).cons g)
      | _ => none
    else if missing ≠ 0 then none
    else if allowed g.char then
      match takeResource? allowed 0 rest with
      | none => none
      | some (taken, behind) => some (g.char :: taken, behind.cons g)
    else some ([], whole (g :: rest))

/-- The octets before the first NUL. -/
def beforeNul (octets : List Char) : String := String.ofList (octets.takeWhile (· != '\x00'))

/-! ## Tags -/

/-- A tag as it is written. A tag without a handle is written out. -/
structure Tag where
  handle : String
  suffix : String
deriving DecidableEq, Repr

/-- A tag with a handle and the octets of its suffix. A suffix of its own comes without a name
for its handle; where it is empty, the tag is the exclamation mark alone. -/
def Tag.ofSuffix (octets : List Char) : Tag :=
  if (beforeNul octets).isEmpty then ⟨"", "!"⟩ else ⟨"!", beforeNul octets⟩

/-- Reads a tag that is written out, from behind its opening bracket. -/
def writtenTag? (text : List Glyph) : Option (Tag × NoLonger text) :=
  match takeResource? isResourceChar 0 text with
  | some (octets, ⟨close :: behind, read⟩) =>
    if octets.isEmpty || close.char != '>' then none
    else some (⟨"", beforeNul octets⟩, (Text.tail close behind).trans read)
  | _ => none

/-- Reads a tag from behind its exclamation mark, up to its end. Another exclamation mark behind
a word ends the handle of the tag; without one there is only a suffix. -/
def tagText? (text : List Glyph) : Option (Tag × NoLonger text) :=
  match behindWord text with
  | ⟨[], read⟩ => some (Tag.ofSuffix (word text), ⟨[], read⟩)
  | ⟨mark :: suffix, read⟩ =>
    if mark.char = '<' && (word text).isEmpty then
      match writtenTag? suffix with
      | some (tag, behind) => some (tag, (behind.cons mark).trans read)
      | none => none
    else if mark.char = '!' then
      match takeResource? isSuffixChar 0 suffix with
      | some (octets, behind) =>
        if octets.isEmpty then none
        else some (⟨"!" ++ String.ofList (word text) ++ "!", beforeNul octets⟩,
          (behind.cons mark).trans read)
      | none => none
    else
      match takeResource? isSuffixChar 0 text with
      | some (octets, behind) => some (Tag.ofSuffix octets, behind)
      | none => none

/-- Reads a tag from behind its exclamation mark. It stands alone; between braces a comma may
follow. -/
def tag? (inFlow : Bool) (text : List Glyph) : Option (Tag × NoLonger text) :=
  match tagText? text with
  | none => none
  | some (tag, ⟨rest, read⟩) =>
    if endsWord rest || (inFlow && rest.head?.any fun g => g.char == ',') then
      some (tag, ⟨rest, read⟩)
    else none

/-! ## Directives -/

/-- What stands at the beginning of a document: that it is of a known version, or what a handle
stands for. -/
inductive Directive where
  | version
  | handle (name stem : String)
deriving DecidableEq, Repr

/-- Takes a number of at most nine digits off a text. -/
def takeNumber? (text : List Glyph) : Option (Nat × NoLonger text) :=
  let digits := (text.takeWhile fun g => g.char.isDigit).map (·.char)
  if digits.isEmpty || 9 < digits.length then none
  else (Text.numeral? 10 digits).map (·, skipWhile (fun g => g.char.isDigit) text)

/-- Reads the version of a document: 1.1 or 1.2. -/
def version? (text : List Glyph) : Option (Directive × NoLonger text) :=
  match takeNumber? text with
  | some (1, ⟨dot :: rest, read⟩) =>
    if dot.char ≠ '.' then none
    else
      match takeNumber? rest with
      | some (minor, behind) =>
        if minor = 1 ∨ minor = 2 then some (.version, (behind.cons dot).trans read) else none
      | none => none
  | _ => none

/-- Reads a handle from behind its exclamation mark. A word in it ends with another one. -/
def handle? (text : List Glyph) : Option (String × NoLonger text) :=
  match behindWord text with
  | ⟨[], _⟩ => none
  | ⟨g :: rest, read⟩ =>
    if g.char = '!' then
      some ("!" ++ String.ofList (word text) ++ "!", (Text.tail g rest).trans read)
    else if (word text).isEmpty then some ("!", ⟨g :: rest, read⟩)
    else none

/-- Reads what a handle stands for: the handle, blanks, and the stem of its tags. -/
def handleStem? (text : List Glyph) : Option (Directive × NoLonger text) :=
  match text with
  | [] => none
  | mark :: rest =>
    if mark.char ≠ '!' then none
    else
      match handle? rest with
      | none => none
      | some (name, ⟨behind, named⟩) =>
        if !behind.head?.any fun g => isInlineBlank g.char then none
        else
          match skipWhile (fun g => isInlineBlank g.char) behind with
          | ⟨start, skipped⟩ =>
            match takeResource? isResourceChar 0 start with
            | none => none
            | some (octets, last) =>
              if octets.isEmpty || !endsWord last.val then none
              else some (.handle name (beforeNul octets),
                ((last.trans skipped).trans named).cons mark)

/-- Reads a directive from behind its percent sign, and the rest of its line. -/
def directive? (text : List Glyph) : Option (Directive × NoLonger text) :=
  match behindWord text with
  | ⟨behind, named⟩ =>
    match skipWhile (fun g => isInlineBlank g.char) behind with
    | ⟨start, skipped⟩ =>
      let read :=
        if !endsWord behind then none
        else if word text = "YAML".toList then version? start
        else if word text = "TAG".toList then handleStem? start
        else none
      match read with
      | none => none
      | some (directive, ⟨rest, shorter⟩) =>
        match skipLine? rest with
        | none => none
        | some last => some (directive, ((last.trans shorter).trans skipped).trans named)

/-! ## What tags stand for -/

/-- What the handles of a document stand for. -/
abbrev Handles := List (String × String)

namespace Handles

/-- What handles stand for that no directive mentions. -/
def standard : Handles := [("!", "!"), ("!!", "tag:yaml.org,2002:")]

/-- The handles with those of a directive. A document has one version, and gives a handle one
meaning. -/
def ofDirectives? (directives : List Directive) : Option Handles :=
  let own := directives.filterMap fun directive =>
    match directive with
    | .version => none
    | .handle name stem => some (name, stem)
  if directives.count .version ≤ 1 ∧ (own.map (·.1)).Nodup then some (own ++ standard) else none

/-- What a tag stands for: its suffix behind what its handle stands for. -/
def expand? (handles : Handles) (tag : Tag) : Option String :=
  if tag.handle.isEmpty then some tag.suffix
  else (handles.lookup tag.handle).map (· ++ tag.suffix)

end Handles

end CodeIndex.Yaml
