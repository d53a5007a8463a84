import CodeIndex.Proofs.Identified

/-!
# Keys of fields and variables

A field has its type around it, its own type and its name in its string; a variable has the
method around it, its own type and its name. Outside of methods the type around a variable
takes the place of a method, and the strings of both kinds can meet.

* `field_variable_canonical_iff` says when they do, in every case.
* In a method or lambda the string of a variable holds the parameter list of that method; it is
  no string of a field unless the field's type, or the type around the field, has such a group
  in its name. In an initializer it is that of a field with the same type and name.
-/

namespace CodeIndex

/-- A bracketed group stands in the text, with a blank on either side. -/
def HoldsGroup (text : String) : Prop :=
  ∃ before inside after, text = before ++ " [" ++ inside ++ "] " ++ after

namespace Key

variable {enclosing enclosing' key key' : Key}

/-- A name without blanks is read back from behind the last blank. -/
theorem append_name_inj {before before' name name' : String} (clean : ' ' ∉ name.toList)
    (clean' : ' ' ∉ name'.toList) :
    before ++ " " ++ name = before' ++ " " ++ name' ↔ name = name' ∧ before = before' := by
  constructor
  · intro same
    have split : before.toList ++ ' ' :: name.toList = before'.toList ++ ' ' :: name'.toList := by
      simpa using congrArg String.toList same
    obtain ⟨sameBefore, sameName⟩ := last_part_unique clean clean' split
    exact ⟨String.toList_inj.mp sameName, String.toList_inj.mp sameBefore⟩
  · rintro ⟨rfl, rfl⟩
    rfl

theorem canonical_joined_three (first second third : String) :
    (joined [first, second, third]).canonical = first ++ " " ++ second ++ " " ++ third := by
  rw [joined_cons, joined_cons, canonical_joined_singleton]
  simp [String.append_assoc]

/-- The strings of a field and a variable are equal when the names are, and the texts before
the names. -/
theorem ofField_ofVariable_canonical_iff {fieldType fieldName variableType variableName : String}
    (fieldKeyed : ofField enclosing fieldType fieldName = .ok key)
    (variableKeyed : ofVariable enclosing' variableType variableName = .ok key') :
    key.canonical = key'.canonical ↔
      fieldName = variableName ∧
        enclosing.canonical ++ " " ++ fieldType = enclosing'.canonical ++ " " ++ variableType := by
  obtain ⟨_, fieldSimple, rfl⟩ := ofField_eq_ok_iff.mp fieldKeyed
  obtain ⟨_, variableSimple, rfl⟩ := ofVariable_eq_ok_iff.mp variableKeyed
  rw [canonical_joined_three, canonical_joined_three]
  exact append_name_inj (blank_not_mem_of_checkSimple fieldSimple)
    (blank_not_mem_of_checkSimple variableSimple)

/-- The string of a method ends in a blank and its bracketed parameter list. -/
theorem ofMethod_canonical {returnType name : String} {parameters : List String}
    {lambdaOffset : Option Nat}
    (keyed : ofMethod enclosing returnType name parameters lambdaOffset = .ok key) :
    ∃ before inside, key.canonical = before ++ " [" ++ inside ++ "]" := by
  have plain : ∀ outside, ofMethod enclosing returnType name parameters none = .ok outside →
      ∃ before inside, outside.canonical = before ++ " [" ++ inside ++ "]" := by
    intro outside formed
    obtain ⟨_, _, _, rfl⟩ := ofMethod_eq_ok_iff.mp formed
    refine ⟨enclosing.canonical ++ " " ++ returnType ++ " " ++ name,
      ", ".intercalate parameters, ?_⟩
    have opening : " [" = " " ++ "[" := rfl
    rw [Option.toList_none, List.map_nil, List.nil_append, joined_cons, joined_cons, joined_cons,
      canonical_joined_singleton, parameterList, opening]
    simp only [String.append_assoc]
  cases lambdaOffset with
  | none => exact plain key keyed
  | some offset =>
      obtain ⟨outside, formed, rfl⟩ := ofMethod_lambda.mp keyed
      obtain ⟨before, inside, canonical⟩ := plain outside formed
      refine ⟨toString offset ++ " " ++ before, inside, ?_⟩
      rw [canonical]
      simp [String.append_assoc]

end Key

/-! ## Fields and variables of a unit -/

section Unit

variable {unit : SourceUnit} {id : NodeId} {enclosing : Key}

/-- What a variable in a method or lambda has before its own type. -/
theorem enclosingMethodKey_holds_parameters {method : NodeId}
    (inMethod : unit.enclosingMethod? id = some method)
    (enclosed : unit.enclosingMethodKey id = .ok enclosing) :
    ∃ before inside, enclosing.canonical = before ++ " [" ++ inside ++ "]" := by
  unfold SourceUnit.enclosingMethodKey at enclosed
  simp only [inMethod] at enclosed
  obtain ⟨identity, identified, rfl⟩ := map_eq_ok_iff.mp enclosed
  obtain ⟨_, _, _, _, _, _, formed⟩ := SourceUnit.methodIdentity_key identified
  exact Key.ofMethod_canonical formed

/-- What a variable outside of any method has before its own type: the type around it. -/
theorem enclosingMethodKey_of_none (outside : unit.enclosingMethod? id = none)
    (enclosed : unit.enclosingMethodKey id = .ok enclosing) :
    ∃ owner, unit.enclosingTypeIdentity id = .ok owner ∧ enclosing = owner.key := by
  unfold SourceUnit.enclosingMethodKey at enclosed
  simp only [outside] at enclosed
  obtain ⟨owner, identified, rfl⟩ := map_eq_ok_iff.mp enclosed
  exact ⟨owner, identified, rfl⟩

end Unit

/-- When the strings of a field and a variable of one unit are equal.

In every case they are when the names are equal and the type around the field, followed by the
type of the field, reads as what the variable stands in, followed by the type of the variable;
with types that are written without blanks, all three parts are equal. In a method or lambda
that takes a group in brackets on the field's side. Outside of methods, with the same type
around both, it takes the same type and name. -/
theorem field_variable_canonical_iff {unit : SourceUnit} {field local' : NodeId}
    {fieldName localName : String} {fieldType localType : TypeRef}
    {fieldIdentity localIdentity : NodeIdentity}
    (fieldIdentified : unit.fieldIdentity field fieldName fieldType = .ok fieldIdentity)
    (localIdentified : unit.variableIdentity local' localName localType = .ok localIdentity) :
    ∃ owner enclosing, unit.enclosingTypeIdentity field = .ok owner ∧
      unit.enclosingMethodKey local' = .ok enclosing ∧
      (fieldIdentity.key.canonical = localIdentity.key.canonical ↔
        fieldName = localName ∧ owner.key.canonical ++ " " ++ fieldType.name =
          enclosing.canonical ++ " " ++ localType.name) ∧
      (' ' ∉ fieldType.name.toList → ' ' ∉ localType.name.toList →
        (fieldIdentity.key.canonical = localIdentity.key.canonical ↔
          fieldName = localName ∧ fieldType.name = localType.name ∧
            owner.key.canonical = enclosing.canonical)) ∧
      (∀ method, unit.enclosingMethod? local' = some method →
        ¬ HoldsGroup (owner.key.canonical ++ " " ++ fieldType.name) →
        fieldIdentity.key.canonical ≠ localIdentity.key.canonical) ∧
      (unit.enclosingMethod? local' = none →
        unit.enclosingType? local' = unit.enclosingType? field →
        (fieldIdentity.key.canonical = localIdentity.key.canonical ↔
          fieldName = localName ∧ fieldType.name = localType.name)) := by
  obtain ⟨owner, ownerFound, fieldKeyed⟩ := SourceUnit.fieldIdentity_key fieldIdentified
  obtain ⟨enclosing, enclosed, localKeyed⟩ := SourceUnit.variableIdentity_key localIdentified
  have meets := Key.ofField_ofVariable_canonical_iff fieldKeyed localKeyed
  refine ⟨owner, enclosing, ownerFound, enclosed, meets, ?_, ?_, ?_⟩
  · intro clean clean'
    rw [meets, Key.append_name_inj clean clean']
  · intro method inMethod plain same
    obtain ⟨before, inside, canonical⟩ := enclosingMethodKey_holds_parameters inMethod enclosed
    -- the blank between the method and the type of the variable closes the group
    refine plain ⟨before, inside, localType.name, ?_⟩
    have closing : "] " = "]" ++ " " := rfl
    rw [(meets.mp same).2, canonical, closing]
    simp only [String.append_assoc]
  · intro outside sameType
    obtain ⟨around, aroundFound, rfl⟩ := enclosingMethodKey_of_none outside enclosed
    have sameOwner : unit.enclosingTypeIdentity local' = unit.enclosingTypeIdentity field := by
      unfold SourceUnit.enclosingTypeIdentity
      rw [sameType]
    obtain rfl : around = owner :=
      Except.ok.inj (aroundFound.symm.trans (sameOwner.trans ownerFound))
    rw [meets, String.append_right_inj]

/-! ## Where the two kinds meet -/

/-- A class with a field, an initializer and a method that have a variable each, and a field
whose type is not resolved and reads like a method. -/
def sharedNames : SourceUnit where
  fileId := ⟨1⟩
  source := "class A int x; static int x; void m() int x; (void m [] int) x"
  nodes := #[
    { start := 0, stop := 61, kind := .namedType { name := "A", binding := some ⟨"A", []⟩ } },
    { parent := some 0, start := 8, stop := 13,
      kind := .field { name := "x", fieldType := ⟨"int", some ⟨"int", []⟩⟩ } },
    { parent := some 0, start := 15, stop := 27, kind := .other },
    { parent := some 2, start := 22, stop := 27,
      kind := .localVariable { name := "x", variableType := ⟨"int", some ⟨"int", []⟩⟩ } },
    { parent := some 0, start := 29, stop := 43,
      kind := .method { name := "m", returnType := some .void, hasBody := true } },
    { parent := some 4, start := 38, stop := 43,
      kind := .localVariable { name := "x", variableType := ⟨"int", some ⟨"int", []⟩⟩ } },
    { parent := some 0, start := 45, stop := 61,
      kind := .field { name := "x", fieldType := ⟨"void m [] int", none⟩ } }]

/-- In `sharedNames` the field and the variable of the method have different strings. -/
theorem field_apart_from_local :
    ∃ fieldIdentity localIdentity,
      sharedNames.fieldIdentity 1 "x" ⟨"int", some ⟨"int", []⟩⟩ = .ok fieldIdentity ∧
      sharedNames.variableIdentity 5 "x" ⟨"int", some ⟨"int", []⟩⟩ = .ok localIdentity ∧
      fieldIdentity.key.canonical ≠ localIdentity.key.canonical := by
  have fieldIdentified : sharedNames.fieldIdentity 1 "x" ⟨"int", some ⟨"int", []⟩⟩ =
      .ok ⟨⟨"A int x"⟩, "A.x", false⟩ := rfl
  have localIdentified : sharedNames.variableIdentity 5 "x" ⟨"int", some ⟨"int", []⟩⟩ =
      .ok ⟨⟨"A void m [] int x"⟩, "x", false⟩ := rfl
  obtain ⟨owner, enclosing, ownerFound, _, _, _, apart, _⟩ :=
    field_variable_canonical_iff fieldIdentified localIdentified
  refine ⟨_, _, fieldIdentified, localIdentified, apart 4 (by decide) ?_⟩
  have named : sharedNames.enclosingTypeIdentity 1 = .ok ⟨⟨"A"⟩, "A", false⟩ := rfl
  obtain rfl : owner = ⟨⟨"A"⟩, "A", false⟩ := Except.ok.inj (ownerFound.symm.trans named)
  rintro ⟨before, inside, after, text⟩
  have spelled : "A" ++ " " ++ "int" = before ++ " [" ++ inside ++ "] " ++ after := text
  have bracket : '[' ∈ ("A" ++ " " ++ "int").toList := by
    rw [spelled]
    simp
  exact absurd bracket (by decide)

/-- In `sharedNames` the first field has the string of the variable in the initializer, and the
second field has that of the variable in the method. -/
theorem field_meets_local :
    (∃ fieldIdentity localIdentity,
      sharedNames.fieldIdentity 1 "x" ⟨"int", some ⟨"int", []⟩⟩ = .ok fieldIdentity ∧
      sharedNames.variableIdentity 3 "x" ⟨"int", some ⟨"int", []⟩⟩ = .ok localIdentity ∧
      fieldIdentity.key.canonical = localIdentity.key.canonical) ∧
    ∃ fieldIdentity localIdentity,
      sharedNames.fieldIdentity 6 "x" ⟨"void m [] int", none⟩ = .ok fieldIdentity ∧
      sharedNames.variableIdentity 5 "x" ⟨"int", some ⟨"int", []⟩⟩ = .ok localIdentity ∧
      fieldIdentity.key.canonical = localIdentity.key.canonical :=
  ⟨⟨⟨⟨"A int x"⟩, "A.x", false⟩, ⟨⟨"A int x"⟩, "x", false⟩, rfl, rfl, rfl⟩,
    ⟨⟨"A void m [] int x"⟩, "A.x", true⟩, ⟨⟨"A void m [] int x"⟩, "x", false⟩, rfl, rfl, rfl⟩

end CodeIndex
