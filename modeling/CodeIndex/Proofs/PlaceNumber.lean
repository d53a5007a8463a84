import CodeIndex.Proofs.Accounting
import CodeIndex.Proofs.Key
import CodeIndex.Text.Digit

/-!
# Numbers of places

A row for a place is numbered by the hash of a text with six parts: the file, the two offsets of the
place, the kind of the entity, how the place relates to it, and the hash of the entity.

* `PlaceParts.text_inj`: no part holds a colon, and each is told by its word, so the parts are read
  back from the text.
* `SourceUnit.Gives`: the row of a node. The row tells four of the parts and the node the other two
  (`AstNode.partsAt`); `Gives.id_eq`: its number is the hash of their text.
* `Gives.id_eq_iff`: two rows share a number if their parts are the same, or two different texts
  have one hash (`Collide`), and in no other case.
* `placeParts_readBack` puts this together for the rows of any two builds: a place where an entity
  is declared and one where it is used, or two places of it, are told apart by their texts.
-/

namespace CodeIndex

open Text

/-! ## The words of the parts -/

theorem FileId.toString_eq_iff {file file' : FileId} :
    toString file = toString file' ↔ file = file' := by
  rw [FileId.mk.injEq, ← Int64.toInt_inj]
  exact toString_int_inj

theorem EntityHash.toString_eq_iff {hash hash' : EntityHash} :
    toString hash = toString hash' ↔ hash = hash' := by
  rw [EntityHash.mk.injEq, ← Int64.toInt_inj]
  exact toString_int_inj

theorem SymbolKind.label_eq_iff {kind kind' : SymbolKind} :
    kind.label = kind'.label ↔ kind = kind' := by
  cases kind <;> cases kind' <;> decide

theorem AstKind.label_eq_iff {kind kind' : AstKind} : kind.label = kind'.label ↔ kind = kind' := by
  cases kind <;> cases kind' <;> decide

/-! ## The text of a number -/

/-- The parts of the text that the number of a place is made from. -/
structure PlaceParts where
  fileId : FileId
  start : Nat
  stop : Nat
  symbolKind : SymbolKind
  astKind : AstKind
  entityHash : EntityHash
deriving DecidableEq, Repr

namespace PlaceParts

variable {parts parts' : PlaceParts}

/-- The text that the number of a place with these parts is made from. -/
def text (parts : PlaceParts) : String :=
  AstNode.idText parts.fileId parts.start parts.stop parts.symbolKind parts.astKind
    parts.entityHash

/-- The words for the parts, in the order of the text. -/
def words (parts : PlaceParts) : List String :=
  [toString parts.fileId, toString parts.start, toString parts.stop, parts.symbolKind.label,
    parts.astKind.label, toString parts.entityHash]

theorem text_eq (parts : PlaceParts) : parts.text = ":".intercalate parts.words := rfl

theorem colon_not_mem (parts : PlaceParts) : ∀ word ∈ parts.words, ':' ∉ word.toList := by
  have signed (number : Int64) : ':' ∉ (toString number.toInt).toList :=
    not_mem_toString_int (by decide) (by decide)
  have offset (number : Nat) : ':' ∉ (toString number).toList := not_mem_toString (by decide)
  have symbol : ':' ∉ parts.symbolKind.label.toList := by cases parts.symbolKind <;> decide
  have ast : ':' ∉ parts.astKind.label.toList := by cases parts.astKind <;> decide
  simp only [words, List.forall_mem_cons, List.not_mem_nil, false_implies, implies_true, and_true]
  exact ⟨signed _, offset _, offset _, symbol, ast, signed _⟩

theorem words_inj : parts.words = parts'.words ↔ parts = parts' := by
  obtain ⟨file, start, stop, symbolKind, astKind, hash⟩ := parts
  obtain ⟨file', start', stop', symbolKind', astKind', hash'⟩ := parts'
  simp only [words, List.cons.injEq, and_true, FileId.toString_eq_iff, toString_inj,
    SymbolKind.label_eq_iff, AstKind.label_eq_iff, EntityHash.toString_eq_iff, PlaceParts.mk.injEq]

/-- The parts are read back from the text. -/
theorem text_inj : parts.text = parts'.text ↔ parts = parts' := by
  rw [text_eq, text_eq, intercalate_inj rfl parts.colon_not_mem parts'.colon_not_mem
    (List.cons_ne_nil _ _) (List.cons_ne_nil _ _), words_inj]

end PlaceParts

/-! ## Rows and their numbers -/

/-- Two different texts have one hash. -/
def Collide (text text' : String) : Prop := text ≠ text' ∧ hashText text = hashText text'

/-- The parts of the number of a row, where a node gives the row. -/
def AstNode.partsAt (row : AstNode) (node : SyntaxNode) : PlaceParts :=
  ⟨row.fileId, node.start, node.stop, row.symbolKind, row.astKind, row.entityHash⟩

namespace SourceUnit

/-- The row is what this node of the unit gives to the places of the build. -/
def Gives (config : Config) (unit : SourceUnit) (node : SyntaxNode) (row : AstNode) : Prop :=
  ∃ id, unit.node? id = some node ∧ row ∈ (unit.share config id node).records.astNodes

variable {config config' : Config} {unit unit' : SourceUnit} {node node' : SyntaxNode}
  {row row' : AstNode}

/-- The rows for places in a build are those that the nodes give. -/
theorem mem_astNodes_iff :
    row ∈ (unit.build config).records.astNodes ↔ ∃ node, unit.Gives config node row := by
  rw [build_records, RecordSet.concat_rows (·.astNodes) rfl fun _ _ => rfl, shares, List.map_map,
    List.flatMap_map, List.mem_flatMap]
  constructor
  · rintro ⟨⟨id, node⟩, present, given⟩
    exact ⟨node, id, mem_entries.mp present, given⟩
  · rintro ⟨node, id, present, given⟩
    exact ⟨(id, node), mem_entries.mpr present, given⟩

namespace Gives

/-- A row is numbered by the hash of the text of its parts. -/
theorem id_eq (gives : unit.Gives config node row) :
    row.id = ⟨hashText (row.partsAt node).text⟩ := by
  obtain ⟨id, present, given⟩ := gives
  rcases share_astNodes config unit id node with none | ⟨astNode, one, place⟩
  · rw [none] at given
    cases given
  · rw [one] at given
    obtain rfl := List.mem_singleton.mp given
    rw [place.id, ← place.fileId]
    rfl

theorem id_eq_iff (gives : unit.Gives config node row) (gives' : unit'.Gives config' node' row') :
    row.id = row'.id ↔ row.partsAt node = row'.partsAt node' ∨
      Collide (row.partsAt node).text (row'.partsAt node').text := by
  rw [gives.id_eq, gives'.id_eq, AstNodeId.mk.injEq, Collide, ne_eq, PlaceParts.text_inj]
  constructor
  · intro same
    by_cases parts : row.partsAt node = row'.partsAt node'
    · exact .inl parts
    · exact .inr ⟨parts, same⟩
  · rintro (parts | ⟨_, same⟩)
    · rw [parts]
    · exact same

/-- Rows with different parts that have one number have texts that collide. -/
theorem collide_of_ne (gives : unit.Gives config node row)
    (gives' : unit'.Gives config' node' row') (apart : row.partsAt node ≠ row'.partsAt node')
    (same : row.id = row'.id) : Collide (row.partsAt node).text (row'.partsAt node').text :=
  ((gives.id_eq_iff gives').mp same).resolve_left apart

end Gives

/-- The rows for places in the build of a unit, and their numbers.

* `rows`: the rows are those that nodes of the unit give.
* `numbered`: each one is numbered by the hash of the text of its parts.
* `shared`: a row of this or any other build has the same number if its parts are the same or the
  texts collide, and in no other case.
* `usage`: so where a row that declares an entity and a row that uses one have the same number, the
  texts collide; `site`: and so they do where the places lie in different files or begin or end at
  different offsets. In both the entity may be the same. -/
structure PlacesNumbered (config : Config) (unit : SourceUnit) : Prop where
  rows : ∀ row, row ∈ (unit.build config).records.astNodes ↔ ∃ node, unit.Gives config node row
  numbered : ∀ node row, unit.Gives config node row →
    row.id = ⟨hashText (row.partsAt node).text⟩
  shared : ∀ node row (config' : Config) (unit' : SourceUnit) node' row',
    unit.Gives config node row → unit'.Gives config' node' row' →
      (row.id = row'.id ↔ row.partsAt node = row'.partsAt node' ∨
        Collide (row.partsAt node).text (row'.partsAt node').text)
  usage : ∀ node row (config' : Config) (unit' : SourceUnit) node' row',
    unit.Gives config node row → unit'.Gives config' node' row' →
      row.isDeclaring = true → row'.isDeclaring = false → row.id = row'.id →
        Collide (row.partsAt node).text (row'.partsAt node').text
  site : ∀ node row (config' : Config) (unit' : SourceUnit) node' row',
    unit.Gives config node row → unit'.Gives config' node' row' →
      (row.fileId, node.start, node.stop) ≠ (row'.fileId, node'.start, node'.stop) →
        row.id = row'.id → Collide (row.partsAt node).text (row'.partsAt node').text

/-- The text of a number is its six parts with colons between them. Whatever the parts are, two
texts are equal exactly if all six parts are. So in the builds of any units the numbers of rows
agree where the parts do, and otherwise only where texts collide. -/
theorem placeParts_readBack (config : Config) (unit : SourceUnit) :
    (∀ parts : PlaceParts, parts.text =
      toString parts.fileId ++ ":" ++ toString parts.start ++ ":" ++ toString parts.stop ++ ":" ++
        parts.symbolKind.label ++ ":" ++ parts.astKind.label ++ ":" ++
        toString parts.entityHash) ∧
    (∀ parts parts' : PlaceParts, parts.text = parts'.text ↔
      parts.fileId = parts'.fileId ∧ parts.start = parts'.start ∧ parts.stop = parts'.stop ∧
        parts.symbolKind = parts'.symbolKind ∧ parts.astKind = parts'.astKind ∧
        parts.entityHash = parts'.entityHash) ∧
    PlacesNumbered config unit := by
  refine ⟨fun _ => rfl, ?_, ?_⟩
  · intro parts parts'
    rw [PlaceParts.text_inj, PlaceParts.mk.injEq]
  · exact {
      rows := fun _ => mem_astNodes_iff
      numbered := fun _ _ gives => gives.id_eq
      shared := fun _ _ _ _ _ _ gives gives' => gives.id_eq_iff gives'
      usage := by
        intro node row config' unit' node' row' gives gives' declares uses same
        refine gives.collide_of_ne gives' (fun parts => ?_) same
        have kinds : row.astKind = row'.astKind := congrArg PlaceParts.astKind parts
        rw [AstNode.isDeclaring, kinds, ← AstNode.isDeclaring, uses] at declares
        cases declares
      site := by
        intro node row config' unit' node' row' gives gives' elsewhere same
        refine gives.collide_of_ne gives' (fun parts => elsewhere ?_) same
        rw [Prod.mk.injEq, Prod.mk.injEq]
        exact ⟨congrArg PlaceParts.fileId parts, congrArg PlaceParts.start parts,
          congrArg PlaceParts.stop parts⟩ }

/-- A class with a method that calls itself twice. -/
def twoCalls : SourceUnit where
  fileId := ⟨-4⟩
  source := "class Base { void again() { again(); again(); } }"
  nodes := #[
    { start := 0, stop := 49,
      kind := .namedType { name := "Base", binding := some ⟨"p.Base", []⟩ } },
    { parent := some 0, start := 13, stop := 47,
      kind := .method { name := "again", returnType := some .void, hasBody := true } },
    { parent := some 1, start := 28, stop := 35,
      kind := .invocation
        { name := "again", target := some ⟨⟨"p.Base", []⟩, "again", "void", []⟩ } },
    { parent := some 1, start := 37, stop := 44,
      kind := .invocation
        { name := "again", target := some ⟨⟨"p.Base", []⟩, "again", "void", []⟩ } }]

/-- The method and the two calls of it are places of one entity with three numbers. -/
example :
    ((twoCalls.build {}).records.astNodes.tail.map (·.entityHash)).eraseDups.length = 1 ∧
      ((twoCalls.build {}).records.astNodes.tail.map (·.id)).eraseDups.length = 3 := by
  decide +kernel

end SourceUnit

end CodeIndex
