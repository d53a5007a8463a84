import CodeIndex.Yaml.Token

/-!
# Documents

A stream holds at most one document here, and the document one mapping from scalars to scalars.
A scalar that is left out is the empty plain scalar, and an alias stands for the scalar that its
anchor names. An empty document, and one whose content is an empty plain scalar, have no entries.

* `Node` is a name or a value as it is written: a scalar, perhaps with an anchor, or an alias;
* `resolve?` replaces the aliases;
* `mapping?` are the entries of the mapping that a text holds, in order, also those with the
  same name.
-/

namespace CodeIndex.Yaml

open Text (NoLonger Shorter whole)

/-- A scalar: how it is written, its tag, and its text. -/
structure Scalar where
  style : Style
  tag : Option String
  text : String
deriving DecidableEq, Repr

/-- A name or a value: a scalar with the name of its anchor, or an alias for one. -/
inductive Node where
  | scalar (anchor : Option String) (scalar : Scalar)
  | alias (name : String)
deriving DecidableEq, Repr

namespace Node

/-- The scalar that is left out. -/
def empty : Node := .scalar none ⟨.plain, none, ""⟩

/-! ## Nodes -/

/-- The anchor and the tag in front of a node, in either order. -/
structure Properties where
  anchor : Option String := none
  tag : Option Tag := none

/-- Takes the properties of a node off some tokens. -/
def properties (tokens : List Token) : Properties × NoLonger tokens :=
  match tokens with
  | .anchor name :: .tag tag :: rest => (⟨some name, some tag⟩, (Text.tail _ rest).cons _)
  | .tag tag :: .anchor name :: rest => (⟨some name, some tag⟩, (Text.tail _ rest).cons _)
  | .anchor name :: rest => (⟨some name, none⟩, Text.tail _ rest)
  | .tag tag :: rest => (⟨none, some tag⟩, Text.tail _ rest)
  | tokens => ({}, whole tokens)

/-- What the tag of a node stands for, if there is one. -/
def Properties.expand? (handles : Handles) (properties : Properties) : Option (Option String) :=
  match properties.tag with
  | none => some none
  | some tag => (handles.expand? tag).map some

/-- Reads an alias or a scalar. Where there are properties, the scalar may be left out. The
exclamation mark alone is no tag of a scalar that is there. -/
def read? (handles : Handles) (tokens : List Token) : Option (Node × Shorter tokens) :=
  match tokens with
  | .alias name :: rest => some (.alias name, ⟨rest, Nat.lt_succ_self _⟩)
  | tokens =>
    match properties tokens with
    | (found, ⟨rest, taken⟩) =>
      match found.expand? handles with
      | none => none
      | some tag =>
        match rest with
        | .scalar style text :: rest =>
          let tag := if tag = some "!" then none else tag
          some (.scalar found.anchor ⟨style, tag, text⟩,
            ⟨rest, Nat.lt_of_succ_le taken⟩)
        | rest =>
          if fits : rest.length < tokens.length then
            some (.scalar found.anchor ⟨.plain, tag, ""⟩, ⟨rest, fits⟩)
          else none

/-- Reads a node that may be left out before one of some tokens. -/
def readBefore? (handles : Handles) (ends : Token → Bool) (tokens : List Token) :
    Option (Node × NoLonger tokens) :=
  if tokens.head?.any ends then some (empty, whole tokens)
  else
    match read? handles tokens with
    | some (node, rest) => some (node, rest.noLonger)
    | none => none

end Node

/-! ## Entries -/

/-- An entry of a mapping: a name and a value. -/
abbrev Entry := Node × Node

/-- Reads the value behind a name, if there is one. -/
def value? (handles : Handles) (ends : Token → Bool) (tokens : List Token) :
    Option (Node × NoLonger tokens) :=
  match tokens with
  | .value :: rest =>
    match Node.readBefore? handles ends rest with
    | some (value, rest) => some (value, rest.cons _)
    | none => none
  | tokens => some (.empty, whole tokens)

/-- Ends a name or a value in a block. -/
def endsInBlock (token : Token) : Bool := token ∈ [.key, .value, .blockEnd]

/-- Ends a name between braces. -/
def endsNameInFlow (token : Token) : Bool := token ∈ [.value, .comma, .flowEnd]

/-- Ends a value between braces. -/
def endsValueInFlow (token : Token) : Bool := token ∈ [.comma, .flowEnd]

/-- Reads the entries of a block up to its end. -/
def blockEntries? (handles : Handles) (tokens : List Token) :
    Option (List Entry × List Token) :=
  match tokens with
  | .blockEnd :: rest => some ([], rest)
  | .key :: rest =>
    match Node.readBefore? handles endsInBlock rest with
    | none => none
    | some (name, ⟨behindName, _⟩) =>
      match value? handles endsInBlock behindName with
      | none => none
      | some (value, ⟨behind, _⟩) =>
        match blockEntries? handles behind with
        | none => none
        | some (entries, last) => some ((name, value) :: entries, last)
  | _ => none
termination_by tokens.length
decreasing_by simp only [List.length_cons]; omega

/-- Reads an entry between braces. Without a token for its name there is only a name. -/
def flowEntry? (handles : Handles) (tokens : List Token) : Option (Entry × NoLonger tokens) :=
  match tokens with
  | .key :: rest =>
    match Node.readBefore? handles endsNameInFlow rest with
    | none => none
    | some (name, ⟨behind, named⟩) =>
      match value? handles endsValueInFlow behind with
      | none => none
      | some (value, last) => some ((name, value), (last.trans named).cons _)
  | tokens =>
    match Node.read? handles tokens with
    | some (name, rest) => some ((name, .empty), rest.noLonger)
    | none => none

/-- Reads the entries between braces up to the closing one. A comma may stand behind the last
entry. -/
def flowEntries? (handles : Handles) (tokens : List Token) :
    Option (List Entry × List Token) :=
  if tokens.head? = some .flowEnd then some ([], tokens.tail)
  else
    match flowEntry? handles tokens with
    | some (entry, ⟨.comma :: rest, _⟩) =>
      match flowEntries? handles rest with
      | some (entries, last) => some (entry :: entries, last)
      | none => none
    | some (entry, ⟨.flowEnd :: rest, _⟩) => some ([entry], rest)
    | _ => none
termination_by tokens.length
decreasing_by simp only [List.length_cons] at *; omega

/-! ## Anchors -/

/-- The anchors of a document so far: the number of their names, the number of the last anchor
with a name, and what the last anchor with a number names, which may be no scalar. -/
structure Anchors where
  names : Nat := 0
  numbers : List (String × Nat) := []
  targets : List (Nat × Option Scalar) := []

/-- One more anchor. Its number is how many names there were before it; a name that is used
again thus makes two anchors share a number. -/
def Anchors.add (anchors : Anchors) (name : String) (target : Option Scalar) : Anchors where
  names := if (anchors.numbers.lookup name).isSome then anchors.names else anchors.names + 1
  numbers := (name, anchors.names) :: anchors.numbers
  targets := (anchors.names, target) :: anchors.targets

/-- The numbers of the anchors that some nodes refer to, in the place of each alias, and all
anchors. An alias refers to an anchor before it. -/
def number? (anchors : Anchors) : List Node → Option (List (Scalar ⊕ Nat) × Anchors)
  | [] => some ([], anchors)
  | .scalar anchor scalar :: rest => do
    let anchors :=
      match anchor with
      | none => anchors
      | some name => anchors.add name (some scalar)
    let (numbered, last) ← number? anchors rest
    return (.inl scalar :: numbered, last)
  | .alias name :: rest => do
    let number ← anchors.numbers.lookup name
    let (numbered, last) ← number? anchors rest
    return (.inr number :: numbered, last)

/-- The scalar that a node stands for. -/
def target? (anchors : Anchors) : Scalar ⊕ Nat → Option Scalar
  | .inl scalar => some scalar
  | .inr number => (anchors.targets.lookup number).join

/-- The pairs of neighbours in a list of names and values in turn. -/
def pairs : List Scalar → List (String × Scalar)
  | name :: value :: rest => (name.text, value) :: pairs rest
  | _ => []

/-- The entries with each alias replaced. The mapping itself may have an anchor. -/
def resolve? (anchor : Option String) (entries : List Entry) :
    Option (List (String × Scalar)) := do
  let outer : Anchors :=
    match anchor with
    | none => {}
    | some name => ({} : Anchors).add name none
  let (numbered, anchors) ← number? outer (entries.flatMap fun entry => [entry.1, entry.2])
  return pairs (← numbered.mapM (target? anchors))

/-! ## Documents -/

/-- Reads the content of a document, and gives the tokens behind it. -/
def content? (handles : Handles) (tokens : List Token) :
    Option (List (String × Scalar) × List Token) := do
  let (found, ⟨rest, _⟩) := Node.properties tokens
  let _ ← found.expand? handles
  match rest with
  | .blockStart :: rest =>
    let (entries, last) ← blockEntries? handles rest
    return (← resolve? found.anchor entries, last)
  | .flowStart :: rest =>
    let (entries, last) ← flowEntries? handles rest
    return (← resolve? found.anchor entries, last)
  | .scalar .. :: _ => none
  | rest => if found.anchor.isSome || found.tag.isSome then some ([], rest) else none

/-- Stands before or behind a document, and not in it. -/
def isOutside : Token → Bool
  | .directive _ => true
  | .documentStart => true
  | .documentEnd => true
  | _ => false

/-- The directives in front of some tokens, and the tokens behind them. -/
def leadingDirectives : List Token → List Directive × List Token
  | .directive directive :: rest =>
    let (later, behind) := leadingDirectives rest
    (directive :: later, behind)
  | tokens => ([], tokens)

/-- The entries of the mapping in the only document of a stream. Behind directives the document
begins with a mark; without them it may, and then it may also be empty. -/
def document? (tokens : List Token) : Option (List (String × Scalar)) := do
  let (directives, rest) := leadingDirectives tokens
  let handles ← Handles.ofDirectives? directives
  let (entries, behind) ←
    match rest with
    | .documentStart :: rest =>
      if rest.head?.all isOutside then some ([], rest) else content? handles rest
    | rest =>
      if !directives.isEmpty then none
      else if rest.isEmpty then some ([], [])
      else content? handles rest
  if behind.all (· == .documentEnd) then return entries else none

/-- The entries of the mapping that a text holds. -/
def mapping? (text : String) : Option (List (String × Scalar)) := (tokens? text).bind document?

end CodeIndex.Yaml
