import CodeIndex.Proofs.TypeNesting
import CodeIndex.Text.Digit

/-!
# Names with offsets

A type in a method or lambda, and an anonymous class, has a dollar sign and its start offset in the
name that is made up for it. This is what that keeps apart.

* `nested_name`: the name of a nested type is the one around it (`NameAround`) with its segment
  behind.
* `append_offset_inj`: a text and the offset behind it are read back from both.
* `offsetNamed_names_eq_iff`: types that are named by their offsets have equal names only at equal
  offsets in types of equal names.
* `blockTypes_names_eq_iff`: so types in blocks of methods and lambdas stay apart. In a block
  outside of these, as that of an initializer, a type is named like a member, and two of one name
  can meet (`blockHomonyms_meet`).
-/

namespace CodeIndex

open Text

/-! ## Texts -/

/-- A text with an offset behind it gives both back: digits hold no dollar sign. -/
theorem append_offset_inj {before before' : String} {start start' : Nat} :
    before ++ "$" ++ toString start = before' ++ "$" ++ toString start' ↔
      before = before' ∧ start = start' := by
  constructor
  · intro same
    have split : before.toList ++ '$' :: (toString start).toList =
        before'.toList ++ '$' :: (toString start').toList := by
      simpa using congrArg String.toList same
    obtain ⟨sameBefore, sameDigits⟩ :=
      last_part_unique (not_mem_toString (by decide)) (not_mem_toString (by decide)) split
    exact ⟨String.toList_inj.mp sameBefore, toString_inj.mp (String.toList_inj.mp sameDigits)⟩
  · rintro ⟨rfl, rfl⟩
    rfl

/-- What ends in an offset does not end in a full stop. -/
theorem append_offset_ne_append_stop {before before' : String} {start : Nat} :
    before ++ "$" ++ toString start ≠ before' ++ "." := by
  intro same
  have lists : (before ++ "$").toList ++ (toString start).toList = before'.toList ++ ['.'] := by
    simpa using congrArg String.toList same
  have last := congrArg List.getLast? lists
  rw [List.getLast?_append_of_ne_nil _ (toList_toString_ne_nil start), List.getLast?_concat] at last
  exact not_mem_toString (by decide) (List.mem_of_getLast? last)

/-- A text that stands behind itself, moved by some characters, and goes on with a character
somewhere has that character among those that it was moved by. -/
theorem mem_of_moved {mark : Char} {text moved rest rest' : List Char} (far : moved ≠ [])
    (same : text ++ mark :: rest = moved ++ (text ++ rest')) : mark ∈ moved := by
  rcases List.append_eq_append_iff.mp same with ⟨middle, inMoved, after⟩ | ⟨middle, inText, after⟩
  · subst inMoved
    cases middle with
    | nil =>
        -- the text and what it was moved by are one
        rw [List.append_nil] at far ⊢
        obtain ⟨head, tail, rfl⟩ := List.exists_cons_of_ne_nil far
        rw [List.nil_append, List.cons_append, List.cons.injEq] at after
        exact after.1 ▸ List.mem_cons_self
    | cons head tail =>
        rw [List.cons_append, List.cons.injEq] at after
        exact List.mem_append_right text (after.1 ▸ List.mem_cons_self)
  · have shorter : middle.length < text.length := by
      have positive := List.length_pos_iff.mpr far
      rw [inText, List.length_append]
      omega
    rw [inText, List.append_assoc] at after
    exact mem_of_moved far after.symm
termination_by text.length

/-- Type parameters begin with a bracket, if there are any. -/
theorem typeParameterSuffix_eq (parameters : List String) :
    (typeParameterSuffix parameters).toList = [] ∨
      ∃ rest, (typeParameterSuffix parameters).toList = '<' :: rest := by
  unfold typeParameterSuffix
  cases parameters with
  | nil => exact .inl rfl
  | cons first rest => exact .inr ⟨(",".intercalate (first :: rest) ++ ">").toList, by simp⟩

/-- Type parameters do not stand behind a name that was moved by characters other than their
bracket. -/
theorem moved_eq_nil {text moved rest : List Char} {parameters : List String} (clean : '<' ∉ moved)
    (same : text ++ (typeParameterSuffix parameters).toList = moved ++ (text ++ rest)) :
    moved = [] := by
  by_contra far
  rcases typeParameterSuffix_eq parameters with none | ⟨inside, suffix⟩
  · rw [none, List.append_nil] at same
    have lengths := congrArg List.length same
    have positive := List.length_pos_iff.mpr far
    rw [List.length_append, List.length_append] at lengths
    omega
  · rw [suffix] at same
    exact clean (mem_of_moved far same)

/-- What stands before a simple name, and the type parameters behind it, are read back, if the
former holds no bracket that type parameters could begin with. -/
theorem append_typeParameterSuffix_inj {stem stem' name : String}
    {parameters parameters' : List String} (clean : '<' ∉ stem.toList)
    (clean' : '<' ∉ stem'.toList) :
    stem ++ name ++ typeParameterSuffix parameters =
        stem' ++ name ++ typeParameterSuffix parameters' ↔
      stem = stem' ∧ typeParameterSuffix parameters = typeParameterSuffix parameters' := by
  constructor
  · intro same
    have lists : stem.toList ++ (name.toList ++ (typeParameterSuffix parameters).toList) =
        stem'.toList ++ (name.toList ++ (typeParameterSuffix parameters').toList) := by
      simpa [List.append_assoc] using congrArg String.toList same
    have sameStem : stem.toList = stem'.toList := by
      rcases List.append_eq_append_iff.mp lists with
        ⟨moved, longer, behind⟩ | ⟨moved, longer, behind⟩
      · have cleanMoved : '<' ∉ moved := fun member =>
          clean' (longer ▸ List.mem_append_right _ member)
        rw [longer, moved_eq_nil cleanMoved behind, List.append_nil]
      · have cleanMoved : '<' ∉ moved := fun member =>
          clean (longer ▸ List.mem_append_right _ member)
        rw [longer, moved_eq_nil cleanMoved behind, List.append_nil]
    obtain rfl := String.toList_inj.mp sameStem
    exact ⟨rfl, (String.append_right_inj _).mp same⟩
  · rintro ⟨rfl, suffix⟩
    rw [suffix]

/-! ## Names of nested types -/

namespace SourceUnit

variable {unit : SourceUnit} {id outer : NodeId} {node : SyntaxNode} {identity : NodeIdentity}
  {name : String}

/-- The name of the type around a node. -/
def NameAround (unit : SourceUnit) (id : NodeId) (name : String) : Prop :=
  ∃ outer, unit.enclosingType? id = some outer ∧ unit.InwardName outer (.ok name)

/-- A nested type without a binding that has an identity has one name around it, and its own is that
with its segment behind. -/
theorem nested_name (present : unit.node? id = some node) (typeLike : node.kind.isTypeLike = true)
    (unbound : node.kind.typeBinding = none) (enclosed : unit.enclosingType? id = some outer)
    (identified : unit.typeIdentity id = .ok identity) :
    (∃ around, unit.NameAround id around) ∧
      ∀ around, unit.NameAround id around →
        identity.qualifiedName = around ++ unit.segment id node := by
  obtain ⟨named, _⟩ := name_of_typeIdentity present typeLike unbound identified
  have toOuter := (outer?_of_unbound present unbound).trans enclosed
  have onward : ¬ unit.ComesBack outer := mt (.of_outer toOuter) (not_comesBack_of_inwardName named)
  obtain ⟨outerNode, outerPresent, outerTypeLike⟩ := isTypeLike_of_enclosingType? enclosed
  obtain ⟨result, around⟩ := exists_inwardName outerPresent outerTypeLike keepsOff_nil onward
  have segment : unit.Appends id node (unit.segment id node) := (appends_iff typeLike).mpr rfl
  have both := named.unique (.nested present unbound enclosed segment around)
  obtain ⟨outerName, rfl, same⟩ := map_eq_ok_iff.mp both.symm
  refine ⟨⟨outerName, outer, enclosed, around⟩, ?_⟩
  rintro other ⟨_, enclosed', around'⟩
  obtain rfl := Option.some.inj (enclosed.symm.trans enclosed')
  obtain rfl := Except.ok.inj (around.unique around')
  exact same.symm

/-! ## Types that are named by their offsets -/

/-- A type without a binding whose start stands in its name: an anonymous class, or a named type in
a method or lambda inside of another type. It goes with the simple name, if there is one. -/
inductive OffsetNamed (unit : SourceUnit) (id : NodeId) (node : SyntaxNode) : Option String → Prop
  | anonymous {body : AnonymousClass} (present : unit.node? id = some node)
      (kind : node.kind = .anonymousClass body) (unbound : body.binding = none) :
      OffsetNamed unit id node none
  | localType {decl : TypeDecl} {outer : NodeId} (present : unit.node? id = some node)
      (kind : node.kind = .namedType decl) (unbound : decl.binding = none)
      (inType : unit.enclosingType? id = some outer) (inBody : unit.StandsInBody id) :
      OffsetNamed unit id node (some decl.name)

namespace OffsetNamed

variable {simple : Option String}

theorem present (named : unit.OffsetNamed id node simple) : unit.node? id = some node := by
  cases named <;> assumption

theorem typeLike (named : unit.OffsetNamed id node simple) : node.kind.isTypeLike = true := by
  rcases named with ⟨_, kind, _⟩ | ⟨_, kind, _, _, _⟩ <;> rw [kind] <;> rfl

theorem unbound (named : unit.OffsetNamed id node simple) : node.kind.typeBinding = none := by
  rcases named with ⟨_, kind, unbound⟩ | ⟨_, kind, unbound, _, _⟩ <;> rw [kind] <;> exact unbound

theorem segment_eq (named : unit.OffsetNamed id node simple) :
    unit.segment id node = "$" ++ toString node.start ++ simple.getD "" := by
  rcases named with ⟨_, kind, _⟩ | ⟨_, kind, _, _, inBody⟩
  · simp [segment, kind]
  · simp [segment, kind, isLocal_iff.mpr inBody]

theorem typeParameters_eq_nil (named : unit.OffsetNamed id node none) :
    node.kind.typeParameters = [] := by
  cases named with
  | anonymous _ kind _ => rw [kind]; rfl

/-- A type that is named by its offset and has an identity stands in another type. -/
theorem exists_outer (named : unit.OffsetNamed id node simple)
    (identified : unit.typeIdentity id = .ok identity) :
    ∃ outer, unit.enclosingType? id = some outer := by
  cases named with
  | localType _ _ _ inType _ => exact ⟨_, inType⟩
  | anonymous present kind unbound =>
      cases enclosed : unit.enclosingType? id with
      | some outer => exact ⟨outer, rfl⟩
      | none =>
          obtain ⟨rule, _⟩ := name_of_typeIdentity present (by rw [kind]; rfl)
            (by rw [kind]; exact unbound) identified
          cases rule.unique (.outermostAnonymous present kind unbound enclosed)

end OffsetNamed

/-- Two types that are named by their offsets, both without a simple name or both with the same, in
whichever units: their names are equal exactly when their offsets and the names around them are. So
are their canonical strings, if their type parameters are the same, as those of anonymous classes
always are. -/
theorem offsetNamed_names_eq_iff {unit unit' : SourceUnit} {id id' : NodeId}
    {node node' : SyntaxNode} {simple : Option String} {identity identity' : NodeIdentity}
    (named : unit.OffsetNamed id node simple) (named' : unit'.OffsetNamed id' node' simple)
    (identified : unit.typeIdentity id = .ok identity)
    (identified' : unit'.typeIdentity id' = .ok identity') :
    (∃ around, unit.NameAround id around) ∧ (∃ around', unit'.NameAround id' around') ∧
      ∀ around around', unit.NameAround id around → unit'.NameAround id' around' →
        (identity.qualifiedName = identity'.qualifiedName ↔
          node.start = node'.start ∧ around = around') ∧
        (simple = none ∨ node.kind.typeParameters = node'.kind.typeParameters →
          (identity.key.canonical = identity'.key.canonical ↔
            node.start = node'.start ∧ around = around')) := by
  obtain ⟨outer, enclosed⟩ := named.exists_outer identified
  obtain ⟨outer', enclosed'⟩ := named'.exists_outer identified'
  obtain ⟨exists_around, isNested⟩ :=
    nested_name named.present named.typeLike named.unbound enclosed identified
  obtain ⟨exists_around', isNested'⟩ :=
    nested_name named'.present named'.typeLike named'.unbound enclosed' identified'
  refine ⟨exists_around, exists_around', ?_⟩
  intro around around' isAround isAround'
  have names : identity.qualifiedName = identity'.qualifiedName ↔
      node.start = node'.start ∧ around = around' := by
    rw [isNested around isAround, isNested' around' isAround', named.segment_eq, named'.segment_eq,
      ← String.append_assoc, ← String.append_assoc, ← String.append_assoc, ← String.append_assoc,
      String.append_left_inj, append_offset_inj, and_comm]
  refine ⟨names, ?_⟩
  intro sameParameters
  have parameters : node.kind.typeParameters = node'.kind.typeParameters := by
    rcases sameParameters with rfl | same
    · rw [named.typeParameters_eq_nil, named'.typeParameters_eq_nil]
    · exact same
  obtain ⟨_, formed⟩ :=
    name_of_typeIdentity named.present named.typeLike named.unbound identified
  obtain ⟨_, formed'⟩ :=
    name_of_typeIdentity named'.present named'.typeLike named'.unbound identified'
  rw [(Key.ofType_eq_ok_iff.mp formed).2.2, (Key.ofType_eq_ok_iff.mp formed').2.2, parameters,
    String.append_left_inj, names]

end SourceUnit

/-- A class whose two methods each hold a class of one name, which begins with a digit and holds a
dollar sign, and an anonymous class. -/
def sameLocals : SourceUnit where
  fileId := ⟨1⟩
  source := "class A { m() { class 0$1 {} new Object() {} } n() { class 0$1 {} } }"
  nodes := #[
    { start := 0, stop := 68, kind := .namedType { name := "A", binding := some ⟨"A", []⟩ } },
    { parent := some 0, start := 1, stop := 30, kind := .method { name := "m", hasBody := true } },
    { parent := some 1, start := 2, stop := 28, kind := .namedType { name := "0$1" } },
    { parent := some 1, start := 29, stop := 44, kind := .anonymousClass {} },
    { parent := some 0, start := 47, stop := 66, kind := .method { name := "n", hasBody := true } },
    { parent := some 4, start := 20, stop := 64, kind := .namedType { name := "0$1" } }]

/-- The names of the two classes of `sameLocals` differ by one digit, and their strings are not
equal. -/
theorem sameLocals_apart :
    ∃ identity identity', sameLocals.OffsetNamed 2 sameLocals.nodes[2] (some "0$1") ∧
      sameLocals.OffsetNamed 5 sameLocals.nodes[5] (some "0$1") ∧
      sameLocals.typeIdentity 2 = .ok identity ∧ sameLocals.typeIdentity 5 = .ok identity' ∧
      identity.qualifiedName = "A$20$1" ∧ identity'.qualifiedName = "A$200$1" ∧
      identity.key.canonical ≠ identity'.key.canonical := by
  have first : sameLocals.OffsetNamed 2 sameLocals.nodes[2] (some "0$1") :=
    .localType rfl rfl rfl (by decide : sameLocals.enclosingType? 2 = some 0) (by decide)
  have second : sameLocals.OffsetNamed 5 sameLocals.nodes[5] (some "0$1") :=
    .localType rfl rfl rfl (by decide : sameLocals.enclosingType? 5 = some 0) (by decide)
  have outermost : sameLocals.node? 0 = some sameLocals.nodes[0] := rfl
  have named : sameLocals.InwardName 0 (.ok "A") := .bound outermost rfl
  have rule : sameLocals.InwardName 2 (.ok "A$20$1") :=
    .nested first.present rfl (by decide : sameLocals.enclosingType? 2 = some 0)
      (.localType rfl (by decide)) named
  have rule' : sameLocals.InwardName 5 (.ok "A$200$1") :=
    .nested second.present rfl (by decide : sameLocals.enclosingType? 5 = some 0)
      (.localType rfl (by decide)) named
  have identified : sameLocals.typeIdentity 2 = .ok ⟨⟨"A$20$1"⟩, "A$20$1", true⟩ :=
    SourceUnit.typeIdentity_eq_ok rfl rfl rfl rule
      (SourceUnit.not_comesBack_of_inwardName rule) rfl
  have identified' : sameLocals.typeIdentity 5 = .ok ⟨⟨"A$200$1"⟩, "A$200$1", true⟩ :=
    SourceUnit.typeIdentity_eq_ok rfl rfl rfl rule'
      (SourceUnit.not_comesBack_of_inwardName rule') rfl
  obtain ⟨_, _, names⟩ :=
    SourceUnit.offsetNamed_names_eq_iff first second identified identified'
  obtain ⟨_, strings⟩ := names "A" "A" ⟨0, by decide, named⟩ ⟨0, by decide, named⟩
  refine ⟨_, _, first, second, identified, identified', rfl, rfl, ?_⟩
  intro same
  exact absurd ((strings (.inr rfl)).mp same).1 (by decide)

namespace SourceUnit

variable {unit : SourceUnit} {id block : NodeId} {node : SyntaxNode} {decl : TypeDecl}
  {identity : NodeIdentity}

/-! ## Types in blocks -/

/-- A named type without a binding whose parent is a block inside of a type. -/
structure DeclaredInBlock (unit : SourceUnit) (id : NodeId) (node : SyntaxNode) (decl : TypeDecl)
    (block : NodeId) : Prop where
  present : unit.node? id = some node
  kind : node.kind = .namedType decl
  unbound : decl.binding = none
  parent : node.parent = some block
  isBlock : ∃ found, unit.node? block = some found ∧ found.kind = .other
  inType : ∃ outer, unit.enclosingType? block = some outer

namespace DeclaredInBlock

theorem typeLike (declared : unit.DeclaredInBlock id node decl block) :
    node.kind.isTypeLike = true := by
  rw [declared.kind]
  rfl

theorem typeBinding_eq_none (declared : unit.DeclaredInBlock id node decl block) :
    node.kind.typeBinding = none := by
  rw [declared.kind]
  exact declared.unbound

/-- Whatever a block does not pass is the same around the block and around a type in it. -/
theorem nearest?_eq (declared : unit.DeclaredInBlock id node decl block)
    {test : SyntaxNode → Bool} (fails : ∀ found, found.kind = .other → test found = false) :
    unit.nearest? test id = unit.nearest? test block := by
  obtain ⟨found, present, kind⟩ := declared.isBlock
  exact nearest?_of_fails ((parent?_of_present declared.present).trans declared.parent) present
    (fails found kind)

theorem enclosingType?_eq (declared : unit.DeclaredInBlock id node decl block) :
    unit.enclosingType? id = unit.enclosingType? block := by
  unfold enclosingType?
  rw [declared.nearest?_eq fun found kind => by rw [kind]; rfl]

theorem nameAround_iff (declared : unit.DeclaredInBlock id node decl block) {name : String} :
    unit.NameAround id name ↔ unit.NameAround block name := by
  unfold NameAround
  rw [declared.enclosingType?_eq]

theorem standsInBody_iff (declared : unit.DeclaredInBlock id node decl block) :
    unit.StandsInBody id ↔ unit.StandsInBody block := by
  unfold StandsInBody
  rw [← nearest?_eq_find?_ancestors unit (·.kind.isOwner),
    ← nearest?_eq_find?_ancestors unit (·.kind.isOwner),
    declared.nearest?_eq fun found kind => by rw [kind]; rfl]

end DeclaredInBlock

/-- What stands between the name around a block and the simple name of a type in it: the offset of
the type in a block of a method or lambda, and a full stop in any other block. -/
def blockJoint (unit : SourceUnit) (block : NodeId) (start : Nat) : String :=
  if unit.StandsInBody block then "$" ++ toString start else "."

theorem DeclaredInBlock.segment_eq (declared : unit.DeclaredInBlock id node decl block) :
    unit.segment id node = unit.blockJoint block node.start ++ decl.name := by
  unfold segment blockJoint
  rw [declared.kind]
  by_cases inBody : unit.StandsInBody block
  · simp [inBody, isLocal_iff.mpr (declared.standsInBody_iff.mpr inBody)]
  · simp [inBody, mt (fun isLocal => declared.standsInBody_iff.mp (isLocal_iff.mp isLocal)) inBody]

/-- A type in a block is named by the name around the block, if a key can be made from that. -/
theorem DeclaredInBlock.typeIdentity_eq_ok {around : String} {key : Key}
    (declared : unit.DeclaredInBlock id node decl block)
    (isAround : unit.NameAround block around)
    (formed : Key.ofType (around ++ (unit.blockJoint block node.start ++ decl.name))
      decl.typeParameters = .ok key) :
    unit.typeIdentity id =
      .ok ⟨key, around ++ (unit.blockJoint block node.start ++ decl.name), true⟩ := by
  obtain ⟨outer, enclosed, outerNamed⟩ := isAround
  have segment : unit.Appends id node (unit.blockJoint block node.start ++ decl.name) :=
    (appends_iff declared.typeLike).mpr declared.segment_eq.symm
  have named := InwardName.nested declared.present declared.typeBinding_eq_none
    (declared.enclosingType?_eq.trans enclosed) segment outerNamed
  refine SourceUnit.typeIdentity_eq_ok declared.present declared.typeLike
    declared.typeBinding_eq_none named (not_comesBack_of_inwardName named) ?_
  rw [declared.kind]
  exact formed

/-- At different offsets, texts before simple names are equal only outside of methods and lambdas,
and where the names around the blocks are. -/
theorem append_blockJoint_inj {unit' : SourceUnit} {block' : NodeId} {start start' : Nat}
    {around around' : String} (apart : start ≠ start') :
    around ++ unit.blockJoint block start = around' ++ unit'.blockJoint block' start' ↔
      ¬ unit.StandsInBody block ∧ ¬ unit'.StandsInBody block' ∧ around = around' := by
  unfold blockJoint
  by_cases inBody : unit.StandsInBody block
  · refine iff_of_false ?_ (fun outside => outside.1 inBody)
    rw [if_pos inBody, ← String.append_assoc]
    by_cases inBody' : unit'.StandsInBody block'
    · rw [if_pos inBody', ← String.append_assoc, append_offset_inj]
      exact fun same => apart same.2
    · rw [if_neg inBody']
      exact append_offset_ne_append_stop
  · by_cases inBody' : unit'.StandsInBody block'
    · refine iff_of_false ?_ (fun outside => outside.2.1 inBody')
      rw [if_neg inBody, if_pos inBody', ← String.append_assoc]
      exact append_offset_ne_append_stop.symm
    · rw [if_neg inBody, if_neg inBody', String.append_left_inj]
      simp [inBody, inBody']

theorem bracket_not_mem_blockJoint {start : Nat} : '<' ∉ (unit.blockJoint block start).toList := by
  unfold blockJoint
  split
  · simpa using not_mem_toString (n := start) (c := '<') (by decide)
  · decide

/-- Two types of one simple name in blocks, in whichever units, at different offsets. If one of the
blocks belongs to a method or lambda their names differ; if none does, as in initializers, the names
are equal exactly when the names around the blocks are. The canonical strings are equal exactly when
the names and the texts of the type parameters are, if the type parameters are the same or no name
around a block holds a bracket that they could begin with. -/
theorem blockTypes_names_eq_iff {unit unit' : SourceUnit} {id id' block block' : NodeId}
    {node node' : SyntaxNode} {decl decl' : TypeDecl} {identity identity' : NodeIdentity}
    (declared : unit.DeclaredInBlock id node decl block)
    (declared' : unit'.DeclaredInBlock id' node' decl' block') (sameName : decl.name = decl'.name)
    (apart : node.start ≠ node'.start) (identified : unit.typeIdentity id = .ok identity)
    (identified' : unit'.typeIdentity id' = .ok identity') :
    (∃ around, unit.NameAround block around) ∧ (∃ around', unit'.NameAround block' around') ∧
      ∀ around around', unit.NameAround block around → unit'.NameAround block' around' →
        (unit.StandsInBody block ∨ unit'.StandsInBody block' →
          identity.qualifiedName ≠ identity'.qualifiedName) ∧
        (¬ unit.StandsInBody block → ¬ unit'.StandsInBody block' →
          (identity.qualifiedName = identity'.qualifiedName ↔ around = around')) ∧
        (decl.typeParameters = decl'.typeParameters ∨
            '<' ∉ around.toList ∧ '<' ∉ around'.toList →
          (identity.key.canonical = identity'.key.canonical ↔
            identity.qualifiedName = identity'.qualifiedName ∧
              typeParameterSuffix decl.typeParameters =
                typeParameterSuffix decl'.typeParameters)) := by
  obtain ⟨outer, enclosed⟩ := declared.inType
  obtain ⟨outer', enclosed'⟩ := declared'.inType
  obtain ⟨exists_around, isNested⟩ := nested_name declared.present declared.typeLike
    declared.typeBinding_eq_none (declared.enclosingType?_eq.trans enclosed) identified
  obtain ⟨exists_around', isNested'⟩ := nested_name declared'.present declared'.typeLike
    declared'.typeBinding_eq_none (declared'.enclosingType?_eq.trans enclosed') identified'
  simp only [declared.nameAround_iff] at exists_around isNested
  simp only [declared'.nameAround_iff] at exists_around' isNested'
  refine ⟨exists_around, exists_around', ?_⟩
  intro around around' isAround isAround'
  have name : identity.qualifiedName =
      around ++ unit.blockJoint block node.start ++ decl'.name := by
    rw [isNested around isAround, declared.segment_eq, sameName, String.append_assoc]
  have name' : identity'.qualifiedName =
      around' ++ unit'.blockJoint block' node'.start ++ decl'.name := by
    rw [isNested' around' isAround', declared'.segment_eq, String.append_assoc]
  have names : identity.qualifiedName = identity'.qualifiedName ↔
      ¬ unit.StandsInBody block ∧ ¬ unit'.StandsInBody block' ∧ around = around' := by
    rw [name, name', String.append_left_inj, append_blockJoint_inj apart]
  refine ⟨?_, ?_, ?_⟩
  · rintro (inBody | inBody) same
    · exact (names.mp same).1 inBody
    · exact (names.mp same).2.1 inBody
  · intro outside outside'
    rw [names]
    simp [outside, outside']
  · intro unambiguous
    obtain ⟨_, formed⟩ := name_of_typeIdentity declared.present declared.typeLike
      declared.typeBinding_eq_none identified
    obtain ⟨_, formed'⟩ := name_of_typeIdentity declared'.present declared'.typeLike
      declared'.typeBinding_eq_none identified'
    rw [declared.kind] at formed
    rw [declared'.kind] at formed'
    rw [(Key.ofType_eq_ok_iff.mp formed).2.2, (Key.ofType_eq_ok_iff.mp formed').2.2]
    rcases unambiguous with same | ⟨clean, clean'⟩
    · simp [NodeKind.typeParameters, same, String.append_left_inj]
    · have stem : '<' ∉ (around ++ unit.blockJoint block node.start).toList := by
        simp [clean, bracket_not_mem_blockJoint]
      have stem' : '<' ∉ (around' ++ unit'.blockJoint block' node'.start).toList := by
        simp [clean', bracket_not_mem_blockJoint]
      rw [name, name', String.append_left_inj]
      exact append_typeParameterSuffix_inj stem stem'

end SourceUnit

/-- Four classes of one name in blocks: of a method of T, of a method of U, whose binding and whose
class's type parameters are made of brackets and dollar signs, and of two initializers of A. -/
def blockHomonyms : SourceUnit where
  fileId := ⟨1⟩
  source := "class T { void m() { class H {} } } class U { void n() { class H {} } } " ++
    "class A { { class H {} } { class H {} } }"
  nodes := #[
    { start := 0, stop := 35, kind := .namedType { name := "T", binding := some ⟨"T", []⟩ } },
    { parent := some 0, start := 10, stop := 33, kind := .method { name := "m", hasBody := true } },
    { parent := some 1, start := 19, stop := 33, kind := .other },
    { parent := some 2, start := 21, stop := 31,
      kind := .namedType { name := "H", typeParameters := ["a$57H<Q"] } },
    { start := 36, stop := 71,
      kind := .namedType { name := "U", binding := some ⟨"T$21H<a", []⟩ } },
    { parent := some 4, start := 46, stop := 69, kind := .method { name := "n", hasBody := true } },
    { parent := some 5, start := 55, stop := 69, kind := .other },
    { parent := some 6, start := 57, stop := 67,
      kind := .namedType { name := "H", typeParameters := ["Q"] } },
    { start := 72, stop := 113, kind := .namedType { name := "A", binding := some ⟨"A", []⟩ } },
    { parent := some 8, start := 82, stop := 96, kind := .other },
    { parent := some 9, start := 84, stop := 94, kind := .namedType { name := "H" } },
    { parent := some 8, start := 97, stop := 111, kind := .other },
    { parent := some 11, start := 99, stop := 109, kind := .namedType { name := "H" } }]

namespace blockHomonyms

open SourceUnit

theorem around_method : blockHomonyms.NameAround 2 "T" :=
  ⟨0, by decide, .bound (by rfl : blockHomonyms.node? 0 = some blockHomonyms.nodes[0]) rfl⟩

theorem around_method' : blockHomonyms.NameAround 6 "T$21H<a" :=
  ⟨4, by decide, .bound (by rfl : blockHomonyms.node? 4 = some blockHomonyms.nodes[4]) rfl⟩

theorem around_initializer : blockHomonyms.NameAround 9 "A" :=
  ⟨8, by decide, .bound (by rfl : blockHomonyms.node? 8 = some blockHomonyms.nodes[8]) rfl⟩

theorem around_initializer' : blockHomonyms.NameAround 11 "A" :=
  ⟨8, by decide, .bound (by rfl : blockHomonyms.node? 8 = some blockHomonyms.nodes[8]) rfl⟩

theorem inMethod : blockHomonyms.DeclaredInBlock 3 blockHomonyms.nodes[3]
    { name := "H", typeParameters := ["a$57H<Q"] } 2 :=
  ⟨rfl, rfl, rfl, rfl, ⟨_, rfl, rfl⟩, ⟨0, by decide⟩⟩

theorem inMethod' : blockHomonyms.DeclaredInBlock 7 blockHomonyms.nodes[7]
    { name := "H", typeParameters := ["Q"] } 6 :=
  ⟨rfl, rfl, rfl, rfl, ⟨_, rfl, rfl⟩, ⟨4, by decide⟩⟩

theorem inInitializer : blockHomonyms.DeclaredInBlock 10 blockHomonyms.nodes[10]
    { name := "H" } 9 :=
  ⟨rfl, rfl, rfl, rfl, ⟨_, rfl, rfl⟩, ⟨8, by decide⟩⟩

theorem inInitializer' : blockHomonyms.DeclaredInBlock 12 blockHomonyms.nodes[12]
    { name := "H" } 11 :=
  ⟨rfl, rfl, rfl, rfl, ⟨_, rfl, rfl⟩, ⟨8, by decide⟩⟩

theorem inMethod_identity :
    blockHomonyms.typeIdentity 3 = .ok ⟨⟨"T$21H<a$57H<Q>"⟩, "T$21H", true⟩ :=
  inMethod.typeIdentity_eq_ok around_method rfl

theorem inMethod_identity' :
    blockHomonyms.typeIdentity 7 = .ok ⟨⟨"T$21H<a$57H<Q>"⟩, "T$21H<a$57H", true⟩ :=
  inMethod'.typeIdentity_eq_ok around_method' rfl

theorem inInitializer_identity :
    blockHomonyms.typeIdentity 10 = .ok ⟨⟨"A.H"⟩, "A.H", true⟩ :=
  inInitializer.typeIdentity_eq_ok around_initializer rfl

theorem inInitializer_identity' :
    blockHomonyms.typeIdentity 12 = .ok ⟨⟨"A.H"⟩, "A.H", true⟩ :=
  inInitializer'.typeIdentity_eq_ok around_initializer' rfl

end blockHomonyms

/-- The strings of a class in a method and of one in an initializer differ. -/
theorem blockHomonyms_apart :
    blockHomonyms.StandsInBody 2 ∧ ¬ blockHomonyms.StandsInBody 9 ∧
      ∃ identity identity', blockHomonyms.typeIdentity 3 = .ok identity ∧
        blockHomonyms.typeIdentity 10 = .ok identity' ∧
        identity.qualifiedName ≠ identity'.qualifiedName ∧
        identity.key.canonical ≠ identity'.key.canonical := by
  have inBody : blockHomonyms.StandsInBody 2 := by decide
  obtain ⟨_, _, names⟩ := SourceUnit.blockTypes_names_eq_iff blockHomonyms.inMethod
    blockHomonyms.inInitializer rfl (by decide) blockHomonyms.inMethod_identity
    blockHomonyms.inInitializer_identity
  obtain ⟨differ, _, strings⟩ :=
    names "T" "A" blockHomonyms.around_method blockHomonyms.around_initializer
  have unlike := differ (.inl inBody)
  refine ⟨inBody, by decide, _, _, blockHomonyms.inMethod_identity,
    blockHomonyms.inInitializer_identity, unlike, ?_⟩
  intro same
  exact unlike ((strings (.inr (by decide))).mp same).1

/-- The classes in the two initializers have one name and one string. So have those in the methods
one string, of which one takes for type parameters what the other has in its name. -/
theorem blockHomonyms_meet :
    (∃ identity, blockHomonyms.DeclaredInBlock 10 blockHomonyms.nodes[10] { name := "H" } 9 ∧
      blockHomonyms.DeclaredInBlock 12 blockHomonyms.nodes[12] { name := "H" } 11 ∧
      blockHomonyms.nodes[10].start ≠ blockHomonyms.nodes[12].start ∧
      blockHomonyms.typeIdentity 10 = .ok identity ∧
      blockHomonyms.typeIdentity 12 = .ok identity) ∧
    ∃ identity identity',
      blockHomonyms.DeclaredInBlock 3 blockHomonyms.nodes[3]
        { name := "H", typeParameters := ["a$57H<Q"] } 2 ∧
      blockHomonyms.DeclaredInBlock 7 blockHomonyms.nodes[7]
        { name := "H", typeParameters := ["Q"] } 6 ∧
      blockHomonyms.nodes[3].start ≠ blockHomonyms.nodes[7].start ∧
      blockHomonyms.StandsInBody 2 ∧ blockHomonyms.StandsInBody 6 ∧
      blockHomonyms.typeIdentity 3 = .ok identity ∧
      blockHomonyms.typeIdentity 7 = .ok identity' ∧
      identity.key.canonical = identity'.key.canonical := by
  refine ⟨⟨_, blockHomonyms.inInitializer, blockHomonyms.inInitializer', by decide,
    blockHomonyms.inInitializer_identity, blockHomonyms.inInitializer_identity'⟩, ?_⟩
  exact ⟨_, _, blockHomonyms.inMethod, blockHomonyms.inMethod', by decide, by decide, by decide,
    blockHomonyms.inMethod_identity, blockHomonyms.inMethod_identity', rfl⟩

end CodeIndex
