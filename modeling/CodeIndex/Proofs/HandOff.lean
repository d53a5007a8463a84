import CodeIndex.HandOff.Decode
import CodeIndex.HandOff.Encode
import Mathlib

/-!
# Units that are handed over come through

Reading gives back what was written, for every part of a unit. Offsets and ids have to fit the
numbers that the format has for them, which is all that a unit can go wrong by (`SourceUnit.Fits`).

* `Restores` is a reader that gives back what was written;
* one lemma for each structure, from its parts to the whole: `restores_typeBinding`,
  `restores_typeRef`, and so on up to `restores_kind`, `restores_node` and `unit?_ofUnit`.
-/

namespace CodeIndex

/-! ## What fits the format -/

/-- The ids and offsets of a node fit the numbers of the format. -/
structure SyntaxNode.Fits (node : SyntaxNode) : Prop where
  parent : ∀ parent, node.parent = some parent → parent < UInt32.size
  start : node.start < UInt64.size
  stop : node.stop < UInt64.size

/-- The offsets of a problem fit the numbers of the format. -/
structure Problem.Fits (problem : Problem) : Prop where
  start : problem.start < UInt64.size
  stop : problem.stop < UInt64.size

/-- All ids and offsets of a unit fit the numbers of the format. -/
structure SourceUnit.Fits (unit : SourceUnit) : Prop where
  nodes : ∀ node ∈ unit.nodes.toList, node.Fits
  problems : ∀ problem ∈ unit.problems.toList, problem.Fits

namespace HandOff

/-! ## Readers that give back what was written -/

/-- What was written from a value is read as this value. -/
def Restores {α : Type} (decode : Json → Option α) (encode : α → Json) (value : α) : Prop :=
  decode (encode value) = some value

section Combinators

variable {α : Type} {decode : Json → Option α} {encode : α → Json}

theorem restores_listOf {values : List α} (each : ∀ value ∈ values, Restores decode encode value) :
    Restores (listOf decode) (ofList encode) values := by
  have all : (values.map encode).mapM decode = some values := by
    induction values with
    | nil => rfl
    | cons value rest ih =>
        have first : decode (encode value) = some value := each value List.mem_cons_self
        have later := ih fun other member => each other (.tail _ member)
        rw [List.map_cons, List.mapM_cons, first, later]
        rfl
  exact all

/-- A value that may be absent is restored if no value is written as nothing. -/
theorem restores_nullable {value : Option α} (present : ∀ given, encode given ≠ .null)
    (each : ∀ given ∈ value, Restores decode encode given) :
    Restores (nullable decode) (ofOption encode) value := by
  cases value with
  | none => rfl
  | some given =>
      have restored : decode (encode given) = some given := each given rfl
      rw [Restores, ofOption, nullable]
      · rw [restored]
        rfl
      · exact present given

end Combinators

theorem restores_string (text : String) : Restores Json.string? .string text := rfl

theorem restores_texts (texts : List String) : Restores texts? ofTexts texts :=
  restores_listOf fun text _ => restores_string text

theorem restores_natBelow {value bound : Nat} (fits : value < bound) :
    Restores (Json.natBelow? bound) ofNat value :=
  if_pos fits

theorem restores_modifiers (modifiers : Modifiers) :
    Restores modifiers? ofModifiers modifiers := by
  have bits : (ofModifiers modifiers).natBelow? UInt32.size = some modifiers.bits.toNat :=
    restores_natBelow modifiers.bits.toNat_lt
  rw [Restores, modifiers?, bits, Option.map_some, UInt32.ofNat_toNat]

theorem restores_fileId (file : FileId) :
    Restores fileId? (fun file => .integer file.value.toInt) file := by
  have within : Int64.minValue.toInt ≤ file.value.toInt ∧
      file.value.toInt ≤ Int64.maxValue.toInt :=
    ⟨file.value.minValue_le_toInt, file.value.toInt_le⟩
  simp only [Restores, fileId?, Json.integer?, if_pos within, Int64.ofInt_toInt]

theorem restores_typeKind (kind : TypeKind) :
    Restores typeKind? (fun kind => .string (typeKindName kind)) kind := by
  cases kind <;> rfl

/-! ## Structures -/

/-- The fields of an object whose members are exactly these fields. -/
theorem fields?_object {names : List String} {members : List (String × Json)}
    (listed : members.map (·.1) = names) (distinct : names.Nodup) :
    fields? names (.object members) = some fun name => members.lookup name := by
  have once : (names.all fun name =>
      members.countP (fun member => member.1 == name) ≤ 1) = true := by
    rw [List.all_eq_true]
    intro name _
    have count : members.countP (fun member => member.1 == name) = names.count name := by
      rw [← listed, List.count_eq_countP, List.countP_map]
      rfl
    rw [count]
    exact decide_eq_true (List.nodup_iff_count.mp distinct name)
  rw [fields?, if_pos once]

/-- A structure is restored if it is, once its fields are found by their names. -/
theorem restores_structure {α : Type} {decode : Json → Option α} {value : α}
    {names : List String} {members : List (String × Json)}
    {build : (String → Option Json) → Option α}
    (decodes : ∀ given, decode given = (fields? names given).bind build)
    (listed : members.map (·.1) = names) (distinct : names.Nodup)
    (built : build (fun name => members.lookup name) = some value) :
    decode (.object members) = some value := by
  rw [decodes, fields?_object listed distinct]
  exact built

section Fields

variable {α : Type} (decode : Json → Option α)

@[simp] theorem required_some (value : Json) : required decode (some value) = decode value := rfl

@[simp] theorem required_none : required decode none = none := rfl

@[simp] theorem withDefault_some (default : α) (value : Json) :
    withDefault default decode (some value) = decode value := rfl

@[simp] theorem withDefault_none (default : α) :
    withDefault default decode none = some default := rfl

@[simp] theorem string?_string (text : String) : Json.string? (.string text) = some text := rfl

@[simp] theorem bool?_bool (value : Bool) : Json.bool? (.bool value) = some value := rfl

end Fields

/-! ## Bindings and references -/

theorem restores_typeBinding (binding : TypeBinding) :
    Restores typeBinding? ofTypeBinding binding := by
  have parameters : texts? (ofTexts binding.typeParameters) = some binding.typeParameters :=
    restores_texts binding.typeParameters
  refine restores_structure (fun _ => rfl) rfl (by decide) ?_
  simp [List.lookup, parameters]

theorem restores_binding (binding : Option TypeBinding) :
    Restores (nullable typeBinding?) (ofOption ofTypeBinding) binding :=
  restores_nullable nofun fun given _ => restores_typeBinding given

theorem restores_typeRef (reference : TypeRef) : Restores typeRef? ofTypeRef reference := by
  have binding : nullable typeBinding? (ofOption ofTypeBinding reference.binding) =
      some reference.binding := restores_binding reference.binding
  refine restores_structure (fun _ => rfl) rfl (by decide) ?_
  simp [List.lookup, binding]

theorem restores_reference (reference : Option TypeRef) :
    Restores (nullable typeRef?) (ofOption ofTypeRef) reference :=
  restores_nullable nofun fun given _ => restores_typeRef given

theorem restores_references (references : List TypeRef) :
    Restores (listOf typeRef?) (ofList ofTypeRef) references :=
  restores_listOf fun reference _ => restores_typeRef reference

theorem restores_text (text : Option String) :
    Restores (nullable Json.string?) (ofOption .string) text :=
  restores_nullable nofun fun given _ => restores_string given

theorem restores_methodBinding (binding : MethodBinding) :
    Restores methodBinding? ofMethodBinding binding := by
  have declaringType : typeBinding? (ofTypeBinding binding.declaringType) =
      some binding.declaringType := restores_typeBinding binding.declaringType
  have parameterTypes : texts? (ofTexts binding.parameterTypes) = some binding.parameterTypes :=
    restores_texts binding.parameterTypes
  refine restores_structure (fun _ => rfl) rfl (by decide) ?_
  simp [List.lookup, declaringType, parameterTypes]

/-! ## Kinds -/

theorem restores_typeDecl (decl : TypeDecl) :
    typeDecl? (.object (kindMembers (.namedType decl))) = some decl := by
  have typeKind : typeKind? (.string (typeKindName decl.typeKind)) = some decl.typeKind :=
    restores_typeKind decl.typeKind
  have modifiers : modifiers? (ofModifiers decl.modifiers) = some decl.modifiers :=
    restores_modifiers decl.modifiers
  have parameters : texts? (ofTexts decl.typeParameters) = some decl.typeParameters :=
    restores_texts decl.typeParameters
  have binding : nullable typeBinding? (ofOption ofTypeBinding decl.binding) =
      some decl.binding := restores_binding decl.binding
  have superclass : nullable typeRef? (ofOption ofTypeRef decl.superclass) =
      some decl.superclass := restores_reference decl.superclass
  have interfaces : listOf typeRef? (ofList ofTypeRef decl.interfaces) = some decl.interfaces :=
    restores_references decl.interfaces
  refine restores_structure (fun _ => rfl) rfl (by decide) ?_
  simp [kindMembers, List.lookup, typeKind, modifiers, parameters, binding, superclass, interfaces]

theorem restores_anonymousClass (body : AnonymousClass) :
    anonymousClass? (.object (kindMembers (.anonymousClass body))) = some body := by
  have binding : nullable typeBinding? (ofOption ofTypeBinding body.binding) =
      some body.binding := restores_binding body.binding
  refine restores_structure (fun _ => rfl) rfl (by decide) ?_
  simp [kindMembers, binding]

theorem restores_methodDecl (decl : MethodDecl) :
    methodDecl? (.object (kindMembers (.method decl))) = some decl := by
  have modifiers : modifiers? (ofModifiers decl.modifiers) = some decl.modifiers :=
    restores_modifiers decl.modifiers
  have returnType : nullable typeRef? (ofOption ofTypeRef decl.returnType) =
      some decl.returnType := restores_reference decl.returnType
  have parameters : listOf typeRef? (ofList ofTypeRef decl.parameters) = some decl.parameters :=
    restores_references decl.parameters
  refine restores_structure (fun _ => rfl) rfl (by decide) ?_
  simp [kindMembers, List.lookup, modifiers, returnType, parameters]

theorem restores_fieldDecl (decl : FieldDecl) :
    fieldDecl? (.object (kindMembers (.field decl))) = some decl := by
  have modifiers : modifiers? (ofModifiers decl.modifiers) = some decl.modifiers :=
    restores_modifiers decl.modifiers
  have type : typeRef? (ofTypeRef decl.fieldType) = some decl.fieldType :=
    restores_typeRef decl.fieldType
  refine restores_structure (fun _ => rfl) rfl (by decide) ?_
  simp [kindMembers, List.lookup, modifiers, type]

theorem restores_enumConstant (decl : EnumConstantDecl) :
    enumConstant? (.object (kindMembers (.enumConstant decl))) = some decl := by
  refine restores_structure (fun _ => rfl) rfl (by decide) ?_
  simp [kindMembers]

theorem restores_variableDecl (decl : VariableDecl) :
    variableDecl? (.object (kindMembers (.localVariable decl))) = some decl := by
  have modifiers : modifiers? (ofModifiers decl.modifiers) = some decl.modifiers :=
    restores_modifiers decl.modifiers
  have type : typeRef? (ofTypeRef decl.variableType) = some decl.variableType :=
    restores_typeRef decl.variableType
  refine restores_structure (fun _ => rfl) rfl (by decide) ?_
  simp [kindMembers, List.lookup, modifiers, type]

theorem restores_lambdaDecl (decl : LambdaDecl) :
    lambdaDecl? (.object (kindMembers (.lambda decl))) = some decl := by
  have name : nullable Json.string? (ofOption .string decl.name) = some decl.name :=
    restores_text decl.name
  have returnType : nullable typeRef? (ofOption ofTypeRef decl.returnType) =
      some decl.returnType := restores_reference decl.returnType
  have parameters : listOf typeRef? (ofList ofTypeRef decl.parameters) = some decl.parameters :=
    restores_references decl.parameters
  refine restores_structure (fun _ => rfl) rfl (by decide) ?_
  simp [kindMembers, List.lookup, name, returnType, parameters]

theorem restores_invocation (call : Invocation) :
    invocation? (.object (kindMembers (.invocation call))) = some call := by
  have target : nullable methodBinding? (ofOption ofMethodBinding call.target) =
      some call.target :=
    restores_nullable nofun fun given _ => restores_methodBinding given
  refine restores_structure (fun _ => rfl) rfl (by decide) ?_
  simp [kindMembers, List.lookup, target]

/-- No kind has a member of its own that could be taken for its name. -/
theorem node_not_mem_kindMembers (kind : NodeKind) :
    ∀ member ∈ kindMembers kind, member.1 ≠ "node" := by
  cases kind <;> simp [kindMembers]

theorem tagged?_ofKind (kind : NodeKind) :
    tagged? (ofKind kind) = some (kindName kind, .object (kindMembers kind)) := by
  have others := node_not_mem_kindMembers kind
  have tag : (kindMembers kind).filter (fun member => member.1 == "node") = [] :=
    List.filter_eq_nil_iff.mpr fun member inside => by simpa using others member inside
  have rest : (kindMembers kind).filter (fun member => member.1 != "node") = kindMembers kind :=
    List.filter_eq_self.mpr fun member inside => by simpa using others member inside
  simp [ofKind, tagged?, tag, rest]

theorem restores_kind (kind : NodeKind) : Restores kind? ofKind kind := by
  rw [Restores, kind?, tagged?_ofKind]
  cases kind with
  | namedType decl => simp [kindName, restores_typeDecl]
  | anonymousClass body => simp [kindName, restores_anonymousClass]
  | method decl => simp [kindName, restores_methodDecl]
  | field decl => simp [kindName, restores_fieldDecl]
  | enumConstant decl => simp [kindName, restores_enumConstant]
  | localVariable decl => simp [kindName, restores_variableDecl]
  | lambda decl => simp [kindName, restores_lambdaDecl]
  | invocation call => simp [kindName, restores_invocation]
  | other => simp [kindName, isEmptyStructure]

/-! ## Units -/

theorem restores_node {node : SyntaxNode} (fits : node.Fits) : Restores node? ofNode node := by
  have parent : nullable nodeId? (ofOption ofNat node.parent) = some node.parent :=
    restores_nullable nofun fun id given => restores_natBelow (fits.parent id given)
  have start : offset? (ofNat node.start) = some node.start := restores_natBelow fits.start
  have stop : offset? (ofNat node.stop) = some node.stop := restores_natBelow fits.stop
  have docComment : nullable Json.string? (ofOption .string node.docComment) =
      some node.docComment := restores_text node.docComment
  have kind : kind? (ofKind node.kind) = some node.kind := restores_kind node.kind
  refine restores_structure (fun _ => rfl) rfl (by decide) ?_
  simp [List.lookup, parent, start, stop, docComment, kind]

theorem restores_problem {problem : Problem} (fits : problem.Fits) :
    Restores problem? ofProblem problem := by
  have start : offset? (ofNat problem.start) = some problem.start := restores_natBelow fits.start
  have stop : offset? (ofNat problem.stop) = some problem.stop := restores_natBelow fits.stop
  refine restores_structure (fun _ => rfl) rfl (by decide) ?_
  simp [List.lookup, start, stop]

/-- A unit that fits the format is read as it was written. -/
theorem unit?_ofUnit {unit : SourceUnit} (fits : unit.Fits) : unit? (ofUnit unit) = some unit := by
  have fileId : fileId? (.integer unit.fileId.value.toInt) = some unit.fileId :=
    restores_fileId unit.fileId
  have package : nullable Json.string? (ofOption .string unit.package) = some unit.package :=
    restores_text unit.package
  have nodes : listOf node? (ofList ofNode unit.nodes.toList) = some unit.nodes.toList :=
    restores_listOf fun node member => restores_node (fits.nodes node member)
  have problems : listOf problem? (ofList ofProblem unit.problems.toList) =
      some unit.problems.toList :=
    restores_listOf fun problem member => restores_problem (fits.problems problem member)
  refine restores_structure (fun _ => rfl) rfl (by decide) ?_
  simp [List.lookup, fileId, package, nodes, problems]

end HandOff

end CodeIndex
