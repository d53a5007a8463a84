import CodeIndex.Proofs.HandOff

/-!
# Documents that hold the same unit

A document may leave out what is a default, and may say more than the format knows. Neither is
seen by a reader.

* `Field` is a field of a structure, with its default and what may be edited inside;
  `EditMembers` is one edit of an object: a default is left out, an unknown member is put in
  anywhere, or a field is edited inside. `EditUnit` puts the structures of the format together.
* `Respects` is a reader that gives the same value after an edit; `respects_structure` shows it for
  a structure, once and for all, and `respects_unit` for a whole unit.
* `restored_after_edits`: a unit that was written and then edited, any number of times and at any
  level, is read as it was.
-/

namespace CodeIndex.HandOff

/-! ## Edits -/

/-- One edit of a value. -/
abbrev Edit := Json → Json → Prop

/-- No edit at all. -/
def untouched : Edit := fun _ _ => False

/-- A field of a structure: its name, its default where it has one, and the edits of its value. -/
structure Field where
  name : String
  default? : Option Json
  edit : Edit

/-- One edit of the members of an object with the given fields. -/
inductive EditMembers (fields : List Field) : List (String × Json) → List (String × Json) → Prop
  | drop {before after : List (String × Json)} {field : Field} {value : Json} :
      field ∈ fields → field.default? = some value →
      EditMembers fields (before ++ (field.name, value) :: after) (before ++ after)
  | insert {before after : List (String × Json)} {name : String} {value : Json} :
      name ∉ fields.map (·.name) →
      EditMembers fields (before ++ after) (before ++ (name, value) :: after)
  | inside {before after : List (String × Json)} {field : Field} {value edited : Json} :
      field ∈ fields → field.edit value edited →
      EditMembers fields (before ++ (field.name, value) :: after)
        (before ++ (field.name, edited) :: after)

/-- One edit of a structure. -/
inductive EditObject (fields : List Field) : Edit
  | members {members edited : List (String × Json)} : EditMembers fields members edited →
      EditObject fields (.object members) (.object edited)

/-- One edit of one item of a list. -/
inductive EditItem (edit : Edit) : Edit
  | item {before after : List Json} {value edited : Json} : edit value edited →
      EditItem edit (.array (before ++ value :: after)) (.array (before ++ edited :: after))

/-! ## The structures of the format -/

def typeBindingFields : List Field :=
  [⟨"qualified_name", none, untouched⟩, ⟨"type_parameters", some (.array []), untouched⟩]

/-- A binding of a type, which may be absent. -/
def bindingField : Field := ⟨"binding", some .null, EditObject typeBindingFields⟩

def typeRefFields : List Field := [⟨"written", none, untouched⟩, bindingField]

def EditTypeRef : Edit := EditObject typeRefFields

def methodBindingFields : List Field :=
  [⟨"declaring_type", none, EditObject typeBindingFields⟩,
    ⟨"name", none, untouched⟩,
    ⟨"return_type", none, untouched⟩,
    ⟨"parameter_types", some (.array []), untouched⟩]

/-- The modifier bits of a declaration. -/
def modifiersField : Field := ⟨"modifiers", some (.integer 0), untouched⟩

/-- A flag that is not set by default. -/
def flagField (name : String) : Field := ⟨name, some (.bool false), untouched⟩

/-- A reference to a type, which may be absent. -/
def referenceField (name : String) : Field := ⟨name, some .null, EditTypeRef⟩

/-- Some references to types. -/
def referencesField (name : String) : Field := ⟨name, some (.array []), EditItem EditTypeRef⟩

def typeDeclFields : List Field :=
  [⟨"name", none, untouched⟩,
    ⟨"type_kind", some (.string "class"), untouched⟩,
    modifiersField,
    ⟨"type_parameters", some (.array []), untouched⟩,
    bindingField,
    referenceField "superclass",
    referencesField "interfaces"]

def methodDeclFields : List Field :=
  [⟨"name", none, untouched⟩,
    modifiersField,
    flagField "constructor",
    referenceField "return_type",
    referencesField "parameters",
    flagField "has_body"]

def fieldDeclFields : List Field :=
  [⟨"name", none, untouched⟩,
    modifiersField,
    ⟨"field_type", none, EditTypeRef⟩,
    flagField "has_initializer"]

def enumConstantFields : List Field := [⟨"name", none, untouched⟩]

def variableDeclFields : List Field :=
  [⟨"name", none, untouched⟩,
    modifiersField,
    ⟨"var_type", none, EditTypeRef⟩,
    flagField "has_initializer"]

def lambdaDeclFields : List Field :=
  [⟨"name", some .null, untouched⟩,
    referenceField "return_type",
    referencesField "parameters"]

def invocationFields : List Field :=
  [⟨"name", none, untouched⟩, ⟨"target", some .null, EditObject methodBindingFields⟩]

/-- The fields of the kind with a name. -/
def kindFields (name : String) : List Field :=
  if name = "type" then typeDeclFields
  else if name = "anonymous_class" then [bindingField]
  else if name = "method" then methodDeclFields
  else if name = "field" then fieldDeclFields
  else if name = "enum_constant" then enumConstantFields
  else if name = "variable" then variableDeclFields
  else if name = "lambda" then lambdaDeclFields
  else if name = "invocation" then invocationFields
  else []

/-- The name of a kind, which stands among its fields. -/
def tagField : Field := ⟨"node", none, untouched⟩

/-- One edit of a kind. Its name is one of the members that are known. -/
inductive EditKind : Edit
  | members {name : String} {members edited : List (String × Json)} :
      ("node", .string name) ∈ members →
      EditMembers (tagField :: kindFields name) members edited →
      EditKind (.object members) (.object edited)

def EditNode : Edit := EditObject
  [⟨"parent", some .null, untouched⟩,
    ⟨"start", none, untouched⟩,
    ⟨"end", none, untouched⟩,
    flagField "implicit",
    ⟨"doc_comment", some .null, untouched⟩,
    ⟨"kind", none, EditKind⟩]

def EditProblem : Edit := EditObject
  [⟨"message", none, untouched⟩,
    flagField "is_error",
    flagField "is_warning",
    ⟨"start", none, untouched⟩,
    ⟨"end", none, untouched⟩]

/-- One edit of a document, at any level. -/
def EditUnit : Edit := EditObject
  [⟨"file_id", none, untouched⟩,
    ⟨"label", some (.string ""), untouched⟩,
    ⟨"package", some .null, untouched⟩,
    ⟨"source", none, untouched⟩,
    ⟨"nodes", some (.array []), EditItem EditNode⟩,
    ⟨"problems", some (.array []), EditItem EditProblem⟩]

/-! ## Results that stay -/

/-- What the first gives, the second gives as well. -/
def Keeps {α : Type} (first second : Option α) : Prop :=
  ∀ value, first = some value → second = some value

namespace Keeps

variable {α β : Type}

theorem refl (result : Option α) : Keeps result result := fun _ given => given

theorem bind {first second : Option α} {next later : α → Option β} (keeps : Keeps first second)
    (each : ∀ value, Keeps (next value) (later value)) :
    Keeps (first.bind next) (second.bind later) := by
  intro result given
  obtain ⟨value, found, built⟩ := Option.bind_eq_some_iff.mp given
  exact Option.bind_eq_some_iff.mpr ⟨value, keeps value found, each value result built⟩

end Keeps

/-- A reader gives the same value after an edit. -/
def Respects {α : Type} (edit : Edit) (decode : Json → Option α) : Prop :=
  ∀ value edited, edit value edited → Keeps (decode value) (decode edited)

section Combinators

variable {α : Type} {decode : Json → Option α} {edit : Edit}

theorem respects_untouched : Respects untouched decode := fun _ _ edits => edits.elim

theorem respects_listOf (respects : Respects edit decode) :
    Respects (EditItem edit) (listOf decode) := by
  rintro _ _ ⟨edits⟩
  rename_i before after value edited
  have same : Keeps ((value :: after).mapM decode) ((edited :: after).mapM decode) := by
    rw [List.mapM_cons, List.mapM_cons]
    exact (respects value edited edits).bind fun _ => .refl _
  rw [listOf, listOf, List.mapM_append, List.mapM_append]
  exact Keeps.bind (.refl _) fun _ => same.bind fun _ => .refl _

/-- A value that may be absent is edited only where it is there. -/
theorem respects_nullable (respects : Respects edit decode)
    (present : ∀ value edited, edit value edited → value ≠ .null ∧ edited ≠ .null) :
    Respects edit (nullable decode) := by
  intro value edited edits
  have some_ {given : Json} (there : given ≠ .null) :
      nullable decode given = (decode given).map some := by
    cases given <;> first | rfl | exact absurd rfl there
  rw [some_ (present value edited edits).1, some_ (present value edited edits).2]
  intro result found
  obtain ⟨inner, decoded, rfl⟩ := Option.map_eq_some_iff.mp found
  rw [respects value edited edits inner decoded]
  rfl

theorem EditObject.present {fields : List Field} {value edited : Json}
    (edits : EditObject fields value edited) : value ≠ .null ∧ edited ≠ .null := by
  cases edits
  exact ⟨nofun, nofun⟩

end Combinators

/-! ## Structures -/

/-- What an edit of a structure does to the value of one field: nothing, or it leaves out the
default, or it edits the value. -/
inductive FieldStep (field : Field) : Option Json → Option Json → Prop
  | same (value : Option Json) : FieldStep field value value
  | dropped {value : Json} : field.default? = some value → FieldStep field (some value) none
  | edited {value edited : Json} : field.edit value edited →
      FieldStep field (some value) (some edited)

section Members

variable {before after : List (String × Json)} {name other : String} {value edited : Json}

theorem lookup_of_ne (apart : other ≠ name) :
    (before ++ (name, value) :: after).lookup other = (before ++ after).lookup other := by
  rw [List.lookup_append, List.lookup_append, List.lookup_cons, beq_false_of_ne apart]

theorem countP_of_ne (apart : other ≠ name) :
    (before ++ (name, value) :: after).countP (fun member => member.1 == other) =
      (before ++ after).countP fun member => member.1 == other := by
  rw [List.countP_append, List.countP_append, List.countP_cons_of_neg]
  exact ne_true_of_eq_false (beq_false_of_ne apart.symm)

/-- A member that is given once is found, and is not there without it. -/
theorem lookup_of_once
    (once : (before ++ (name, value) :: after).countP (fun member => member.1 == name) ≤ 1) :
    (before ++ (name, value) :: after).lookup name = some value ∧
      (before ++ after).lookup name = none := by
  simp only [List.countP_append, List.countP_cons, beq_self_eq_true, if_true] at once
  have nowhere {part : List (String × Json)}
      (none_ : part.countP (fun member => member.1 == name) = 0) : part.lookup name = none := by
    rw [List.lookup_eq_none_iff]
    intro member inside
    have apart := List.countP_eq_zero.mp none_ member inside
    exact bne_iff_ne.mpr fun same => apart (beq_iff_eq.mpr same.symm)
  have earlier : before.lookup name = none := nowhere (by omega)
  have behind : after.lookup name = none := nowhere (by omega)
  rw [List.lookup_append, List.lookup_append, earlier, behind, List.lookup_cons_self]
  exact ⟨rfl, rfl⟩

end Members

/-- The fields that are read from an object, in which none is given twice. -/
theorem fields?_object_eq_some {names : List String} {members : List (String × Json)}
    {field : String → Option Json} :
    fields? names (.object members) = some field ↔
      (∀ name ∈ names, members.countP (fun member => member.1 == name) ≤ 1) ∧
        field = fun name => members.lookup name := by
  rw [fields?]
  split
  · next once =>
      have each := List.all_eq_true.mp once
      simp only [Option.some.injEq]
      exact ⟨fun same => ⟨fun name inside => of_decide_eq_true (each name inside), same.symm⟩,
        fun read => read.2.symm⟩
  · next twice =>
      constructor
      · intro none_
        cases none_
      · intro read
        refine absurd (List.all_eq_true.mpr ?_) twice
        intro name inside
        exact decide_eq_true (read.1 name inside)

/-- No edit of an object gives a field more often than before. -/
theorem EditMembers.countP_le {fields : List Field} {members edited : List (String × Json)}
    (edits : EditMembers fields members edited) {name : String}
    (known : name ∈ fields.map (·.name)) :
    edited.countP (fun member => member.1 == name) ≤
      members.countP fun member => member.1 == name := by
  cases edits with
  | @drop before after field value =>
      exact ((List.sublist_cons_self _ after).append_left before).countP_le
  | @insert before after other value unknown =>
      have apart : name ≠ other := by
        rintro rfl
        exact unknown known
      exact Nat.le_of_eq (countP_of_ne apart)
  | inside => simp only [List.countP_append, List.countP_cons, Nat.le_refl]

/-- An edit is a step for every field that is given at most once. -/
theorem EditMembers.step {fields : List Field} {members edited : List (String × Json)}
    (edits : EditMembers fields members edited) (distinct : (fields.map (·.name)).Nodup)
    {known : Field} (inside : known ∈ fields)
    (once : members.countP (fun member => member.1 == known.name) ≤ 1) :
    FieldStep known (members.lookup known.name) (edited.lookup known.name) := by
  cases edits with
  | @drop before after field value member default =>
      by_cases here : known.name = field.name
      · obtain rfl := List.inj_on_of_nodup_map distinct inside member here
        obtain ⟨found, gone⟩ := lookup_of_once once
        rw [found, gone]
        exact .dropped default
      · rw [lookup_of_ne here]
        exact .same _
  | @insert before after other value unknown =>
      have apart : known.name ≠ other := by
        rintro rfl
        exact unknown (List.mem_map_of_mem inside)
      rw [lookup_of_ne apart]
      exact .same _
  | @inside before after field value edited member edits =>
      by_cases here : known.name = field.name
      · obtain rfl := List.inj_on_of_nodup_map distinct inside member here
        have again : (before ++ (known.name, edited) :: after).countP
            (fun member => member.1 == known.name) ≤ 1 := by
          simpa only [List.countP_append, List.countP_cons] using once
        rw [(lookup_of_once once).1, (lookup_of_once again).1]
        exact .edited edits
      · rw [lookup_of_ne here, lookup_of_ne here]
        exact .same _

/-- After an edit every field is still given at most once, and has made a step. -/
theorem fields?_of_edit {fields : List Field} {members edited : List (String × Json)}
    {field : String → Option Json} (distinct : (fields.map (·.name)).Nodup)
    (edits : EditMembers fields members edited)
    (read : fields? (fields.map (·.name)) (.object members) = some field) :
    ∃ later, fields? (fields.map (·.name)) (.object edited) = some later ∧
      ∀ known ∈ fields, FieldStep known (field known.name) (later known.name) := by
  obtain ⟨once, rfl⟩ := fields?_object_eq_some.mp read
  refine ⟨fun name => edited.lookup name, fields?_object_eq_some.mpr ⟨?_, rfl⟩, ?_⟩
  · intro name known
    exact Nat.le_trans (edits.countP_le known) (once name known)
  · intro known inside
    exact edits.step distinct inside (once known.name (List.mem_map_of_mem inside))

/-- A structure is read as before if each of its fields is. -/
theorem respects_structure {α : Type} {decode : Json → Option α} {fields : List Field}
    {names : List String} {build : (String → Option Json) → Option α}
    (decodes : ∀ given, decode given = (fields? names given).bind build)
    (listed : fields.map (·.name) = names) (distinct : names.Nodup)
    (steps : ∀ field later : String → Option Json,
      (∀ known ∈ fields, FieldStep known (field known.name) (later known.name)) →
        Keeps (build field) (build later)) :
    Respects (EditObject fields) decode := by
  subst listed
  rintro _ _ ⟨edits⟩
  rw [decodes, decodes]
  intro result given
  obtain ⟨field, read, built⟩ := Option.bind_eq_some_iff.mp given
  obtain ⟨later, again, stepped⟩ := fields?_of_edit distinct edits read
  rw [again]
  exact steps field later stepped result built

/-! ## Fields -/

namespace FieldStep

variable {α : Type} {decode : Json → Option α} {field : Field} {value edited : Option Json}

/-- A field that has to be given is not left out. -/
theorem required (step : FieldStep field value edited) (given : field.default? = none)
    (respects : Respects field.edit decode) :
    Keeps (HandOff.required decode value) (HandOff.required decode edited) := by
  cases step with
  | same => exact .refl _
  | dropped default =>
      rw [given] at default
      cases default
  | edited edits => exact respects _ _ edits

/-- A field that has a default is left out only where it holds the default. -/
theorem withDefault {default : α} {written : Json} (step : FieldStep field value edited)
    (given : field.default? = some written) (read : decode written = some default)
    (respects : Respects field.edit decode) :
    Keeps (HandOff.withDefault default decode value)
      (HandOff.withDefault default decode edited) := by
  cases step with
  | same => exact .refl _
  | dropped same =>
      rw [given] at same
      cases same
      rw [withDefault_some, read]
      exact .refl _
  | edited edits => exact respects _ _ edits

end FieldStep

/-! ## Bindings and references -/

theorem respects_typeBinding : Respects (EditObject typeBindingFields) typeBinding? := by
  refine respects_structure (fun _ => rfl) rfl (by decide) fun field later steps => ?_
  simp only [typeBindingFields, List.forall_mem_cons] at steps
  obtain ⟨name, parameters, _⟩ := steps
  exact Keeps.bind (name.required rfl respects_untouched) fun _ =>
    Keeps.bind (parameters.withDefault rfl rfl respects_untouched) fun _ => .refl _

theorem respects_binding : Respects bindingField.edit (nullable typeBinding?) :=
  respects_nullable respects_typeBinding fun _ _ => EditObject.present

theorem respects_typeRef : Respects EditTypeRef typeRef? := by
  refine respects_structure (fun _ => rfl) rfl (by decide) fun field later steps => ?_
  simp only [typeRefFields, List.forall_mem_cons] at steps
  obtain ⟨written, binding, _⟩ := steps
  exact Keeps.bind (written.required rfl respects_untouched) fun _ =>
    Keeps.bind (binding.withDefault rfl rfl respects_binding) fun _ => .refl _

theorem respects_reference : Respects EditTypeRef (nullable typeRef?) :=
  respects_nullable respects_typeRef fun _ _ => EditObject.present

theorem respects_references : Respects (EditItem EditTypeRef) (listOf typeRef?) :=
  respects_listOf respects_typeRef

theorem respects_methodBinding : Respects (EditObject methodBindingFields) methodBinding? := by
  refine respects_structure (fun _ => rfl) rfl (by decide) fun field later steps => ?_
  simp only [methodBindingFields, List.forall_mem_cons] at steps
  obtain ⟨declaringType, name, returnType, parameterTypes, _⟩ := steps
  exact Keeps.bind (declaringType.required rfl respects_typeBinding) fun _ =>
    Keeps.bind (name.required rfl respects_untouched) fun _ =>
    Keeps.bind (returnType.required rfl respects_untouched) fun _ =>
    Keeps.bind (parameterTypes.withDefault rfl rfl respects_untouched) fun _ => .refl _

/-! ## Kinds -/

theorem respects_typeDecl : Respects (EditObject typeDeclFields) typeDecl? := by
  refine respects_structure (fun _ => rfl) rfl (by decide) fun field later steps => ?_
  simp only [typeDeclFields, List.forall_mem_cons] at steps
  obtain ⟨name, typeKind, modifiers, parameters, binding, superclass, interfaces, _⟩ := steps
  exact Keeps.bind (name.required rfl respects_untouched) fun _ =>
    Keeps.bind (typeKind.withDefault rfl rfl respects_untouched) fun _ =>
    Keeps.bind (modifiers.withDefault rfl rfl respects_untouched) fun _ =>
    Keeps.bind (parameters.withDefault rfl rfl respects_untouched) fun _ =>
    Keeps.bind (binding.withDefault rfl rfl respects_binding) fun _ =>
    Keeps.bind (superclass.withDefault rfl rfl respects_reference) fun _ =>
    Keeps.bind (interfaces.withDefault rfl rfl respects_references) fun _ => .refl _

theorem respects_anonymousClass : Respects (EditObject [bindingField]) anonymousClass? := by
  refine respects_structure (fun _ => rfl) rfl (by decide) fun field later steps => ?_
  simp only [List.forall_mem_cons] at steps
  exact Keeps.bind (steps.1.withDefault rfl rfl respects_binding) fun _ => .refl _

theorem respects_methodDecl : Respects (EditObject methodDeclFields) methodDecl? := by
  refine respects_structure (fun _ => rfl) rfl (by decide) fun field later steps => ?_
  simp only [methodDeclFields, List.forall_mem_cons] at steps
  obtain ⟨name, modifiers, isConstructor, returnType, parameters, hasBody, _⟩ := steps
  exact Keeps.bind (name.required rfl respects_untouched) fun _ =>
    Keeps.bind (modifiers.withDefault rfl rfl respects_untouched) fun _ =>
    Keeps.bind (isConstructor.withDefault rfl rfl respects_untouched) fun _ =>
    Keeps.bind (returnType.withDefault rfl rfl respects_reference) fun _ =>
    Keeps.bind (parameters.withDefault rfl rfl respects_references) fun _ =>
    Keeps.bind (hasBody.withDefault rfl rfl respects_untouched) fun _ => .refl _

theorem respects_fieldDecl : Respects (EditObject fieldDeclFields) fieldDecl? := by
  refine respects_structure (fun _ => rfl) rfl (by decide) fun field later steps => ?_
  simp only [fieldDeclFields, List.forall_mem_cons] at steps
  obtain ⟨name, modifiers, type, hasInitializer, _⟩ := steps
  exact Keeps.bind (name.required rfl respects_untouched) fun _ =>
    Keeps.bind (modifiers.withDefault rfl rfl respects_untouched) fun _ =>
    Keeps.bind (type.required rfl respects_typeRef) fun _ =>
    Keeps.bind (hasInitializer.withDefault rfl rfl respects_untouched) fun _ => .refl _

theorem respects_enumConstant : Respects (EditObject enumConstantFields) enumConstant? := by
  refine respects_structure (fun _ => rfl) rfl (by decide) fun field later steps => ?_
  simp only [enumConstantFields, List.forall_mem_cons] at steps
  exact Keeps.bind (steps.1.required rfl respects_untouched) fun _ => .refl _

theorem respects_variableDecl : Respects (EditObject variableDeclFields) variableDecl? := by
  refine respects_structure (fun _ => rfl) rfl (by decide) fun field later steps => ?_
  simp only [variableDeclFields, List.forall_mem_cons] at steps
  obtain ⟨name, modifiers, type, hasInitializer, _⟩ := steps
  exact Keeps.bind (name.required rfl respects_untouched) fun _ =>
    Keeps.bind (modifiers.withDefault rfl rfl respects_untouched) fun _ =>
    Keeps.bind (type.required rfl respects_typeRef) fun _ =>
    Keeps.bind (hasInitializer.withDefault rfl rfl respects_untouched) fun _ => .refl _

theorem respects_lambdaDecl : Respects (EditObject lambdaDeclFields) lambdaDecl? := by
  refine respects_structure (fun _ => rfl) rfl (by decide) fun field later steps => ?_
  simp only [lambdaDeclFields, List.forall_mem_cons] at steps
  obtain ⟨name, returnType, parameters, _⟩ := steps
  exact Keeps.bind (name.withDefault rfl rfl respects_untouched) fun _ =>
    Keeps.bind (returnType.withDefault rfl rfl respects_reference) fun _ =>
    Keeps.bind (parameters.withDefault rfl rfl respects_references) fun _ => .refl _

theorem respects_invocation : Respects (EditObject invocationFields) invocation? := by
  refine respects_structure (fun _ => rfl) rfl (by decide) fun field later steps => ?_
  simp only [invocationFields, List.forall_mem_cons] at steps
  obtain ⟨name, target, _⟩ := steps
  have called : Respects (EditObject methodBindingFields) (nullable methodBinding?) :=
    respects_nullable respects_methodBinding fun _ _ => EditObject.present
  exact Keeps.bind (name.required rfl respects_untouched) fun _ =>
    Keeps.bind (target.withDefault rfl rfl called) fun _ => .refl _

/-- The kind with a name, from the structure of its fields. -/
def kindNamed? (name : String) (structure? : Json) : Option NodeKind := do
  if name = "type" then return .namedType (← typeDecl? structure?)
  else if name = "anonymous_class" then return .anonymousClass (← anonymousClass? structure?)
  else if name = "method" then return .method (← methodDecl? structure?)
  else if name = "field" then return .field (← fieldDecl? structure?)
  else if name = "enum_constant" then return .enumConstant (← enumConstant? structure?)
  else if name = "variable" then return .localVariable (← variableDecl? structure?)
  else if name = "lambda" then return .lambda (← lambdaDecl? structure?)
  else if name = "invocation" then return .invocation (← invocation? structure?)
  else if name = "other" ∧ isEmptyStructure structure? then return .other
  else none

theorem kind?_eq (value : Json) :
    kind? value = (tagged? value).bind fun (name, structure?) => kindNamed? name structure? := rfl

section Choice

variable {α β : Type} {fields others : List Field} {decode later : Json → Option α}

/-- Where the fields are chosen in the same way as the reader, only the chosen ones matter. -/
theorem respects_ite {test : Prop} [Decidable test] (first : Respects (EditObject fields) decode)
    (second : Respects (EditObject others) later) :
    Respects (EditObject (if test then fields else others))
      fun value => if test then decode value else later value := by
  by_cases holds : test
  · simp only [if_pos holds]
    exact first
  · simp only [if_neg holds]
    exact second

theorem Respects.bind {edit : Edit} (respects : Respects edit decode) (next : α → Option β) :
    Respects edit fun value => (decode value).bind next := fun value edited edits =>
  Keeps.bind (respects value edited edits) fun _ => .refl _

end Choice

theorem respects_other (name : String) :
    Respects (EditObject []) fun structure? =>
      if name = "other" ∧ isEmptyStructure structure? then some NodeKind.other else none := by
  intro value edited edits
  have empty : isEmptyStructure edited = isEmptyStructure value := by
    cases edits
    rfl
  simp only [empty]
  exact .refl _

theorem respects_kindNamed (name : String) :
    Respects (EditObject (kindFields name)) (kindNamed? name) :=
  respects_ite (respects_typeDecl.bind _) <|
    respects_ite (respects_anonymousClass.bind _) <|
    respects_ite (respects_methodDecl.bind _) <|
    respects_ite (respects_fieldDecl.bind _) <|
    respects_ite (respects_enumConstant.bind _) <|
    respects_ite (respects_variableDecl.bind _) <|
    respects_ite (respects_lambdaDecl.bind _) <|
    respects_ite (respects_invocation.bind _) (respects_other name)

theorem node_not_mem_kindFields (name : String) : "node" ∉ (kindFields name).map (·.name) := by
  unfold kindFields
  split_ifs <;> decide

/-- The members that hold the name of a kind. -/
def tags (members : List (String × Json)) : List (String × Json) :=
  members.filter fun member => member.1 == "node"

/-- The members besides the name of a kind. -/
def untagged (members : List (String × Json)) : List (String × Json) :=
  members.filter fun member => member.1 != "node"

section Tags

variable {before after : List (String × Json)} {name : String} {value : Json}

theorem tags_append : tags (before ++ after) = tags before ++ tags after := List.filter_append ..

theorem untagged_append : untagged (before ++ after) = untagged before ++ untagged after :=
  List.filter_append ..

theorem tags_of_ne (apart : name ≠ "node") :
    tags (before ++ (name, value) :: after) = tags before ++ tags after := by
  rw [tags, List.filter_append, List.filter_cons_of_neg]
  · rfl
  · exact ne_true_of_eq_false (beq_false_of_ne apart)

theorem untagged_of_ne (apart : name ≠ "node") :
    untagged (before ++ (name, value) :: after) =
      untagged before ++ (name, value) :: untagged after := by
  rw [untagged, List.filter_append, List.filter_cons_of_pos]
  · rfl
  · exact bne_iff_ne.mpr apart

end Tags

/-- An edit of a kind leaves its name, and is an edit of its other members. -/
theorem EditMembers.untagged {fields : List Field} {members edited : List (String × Json)}
    (edits : EditMembers (tagField :: fields) members edited)
    (plain : "node" ∉ fields.map (·.name)) :
    tags edited = tags members ∧
      EditMembers fields (HandOff.untagged members) (HandOff.untagged edited) := by
  have other {field : Field} (known : field ∈ fields) : field.name ≠ "node" := fun same =>
    plain (same ▸ List.mem_map_of_mem known)
  cases edits with
  | @drop before after field value member default =>
      rcases List.mem_cons.mp member with rfl | known
      · cases default
      · rw [tags_of_ne (other known), untagged_of_ne (other known), tags_append, untagged_append]
        exact ⟨rfl, .drop known default⟩
  | @insert before after name value unknown =>
      rw [List.map_cons, List.mem_cons, not_or] at unknown
      obtain ⟨noTag, outside⟩ := unknown
      rw [tags_of_ne noTag, untagged_of_ne noTag, tags_append, untagged_append]
      exact ⟨rfl, .insert outside⟩
  | @inside before after field value edited member edits =>
      rcases List.mem_cons.mp member with rfl | known
      · exact edits.elim
      · rw [tags_of_ne (other known), tags_of_ne (other known), untagged_of_ne (other known),
          untagged_of_ne (other known)]
        exact ⟨rfl, .inside known edits⟩

/-- A kind is read from an object with one member for its name. -/
theorem tagged?_object_eq_some {members : List (String × Json)} {name : String}
    {structure? : Json} :
    tagged? (.object members) = some (name, structure?) ↔
      (∃ key, tags members = [(key, .string name)]) ∧ structure? = .object (untagged members) := by
  unfold tagged? tags untagged
  constructor
  · intro found
    dsimp only at found
    split at found
    · next key given tag =>
        cases found
        exact ⟨⟨key, tag⟩, rfl⟩
    · cases found
  · rintro ⟨⟨key, tag⟩, rfl⟩
    simp only [tag]

theorem respects_kind : Respects EditKind kind? := by
  intro value edited edits
  cases edits with
  | @members name members edited tag edits =>
      obtain ⟨sameTag, others⟩ := edits.untagged (node_not_mem_kindFields name)
      rw [kind?_eq, kind?_eq]
      intro kind given
      obtain ⟨⟨found, structure?⟩, tagged, built⟩ := Option.bind_eq_some_iff.mp given
      obtain ⟨⟨key, only⟩, rfl⟩ := tagged?_object_eq_some.mp tagged
      have named : ("node", Json.string name) ∈ [(key, Json.string found)] :=
        only ▸ List.mem_filter.mpr ⟨tag, beq_self_eq_true _⟩
      rw [List.mem_singleton] at named
      cases named
      have again := tagged?_object_eq_some.mpr ⟨⟨_, sameTag.trans only⟩, rfl⟩
      refine Option.bind_eq_some_iff.mpr ⟨_, again, ?_⟩
      exact respects_kindNamed name _ _ ⟨others⟩ kind built

/-! ## Units -/

theorem respects_node : Respects EditNode node? := by
  refine respects_structure (fun _ => rfl) rfl (by decide) fun field later steps => ?_
  simp only [List.forall_mem_cons] at steps
  obtain ⟨parent, start, stop, isImplicit, docComment, kind, _⟩ := steps
  exact Keeps.bind (parent.withDefault rfl rfl respects_untouched) fun _ =>
    Keeps.bind (start.required rfl respects_untouched) fun _ =>
    Keeps.bind (stop.required rfl respects_untouched) fun _ =>
    Keeps.bind (isImplicit.withDefault rfl rfl respects_untouched) fun _ =>
    Keeps.bind (docComment.withDefault rfl rfl respects_untouched) fun _ =>
    Keeps.bind (kind.required rfl respects_kind) fun _ => .refl _

theorem respects_problem : Respects EditProblem problem? := by
  refine respects_structure (fun _ => rfl) rfl (by decide) fun field later steps => ?_
  simp only [List.forall_mem_cons] at steps
  obtain ⟨message, isError, isWarning, start, stop, _⟩ := steps
  exact Keeps.bind (message.required rfl respects_untouched) fun _ =>
    Keeps.bind (isError.withDefault rfl rfl respects_untouched) fun _ =>
    Keeps.bind (isWarning.withDefault rfl rfl respects_untouched) fun _ =>
    Keeps.bind (start.required rfl respects_untouched) fun _ =>
    Keeps.bind (stop.required rfl respects_untouched) fun _ => .refl _

theorem respects_unit : Respects EditUnit unit? := by
  refine respects_structure (fun _ => rfl) rfl (by decide) fun field later steps => ?_
  simp only [List.forall_mem_cons] at steps
  obtain ⟨fileId, label, package, source, nodes, problems, _⟩ := steps
  exact Keeps.bind (fileId.required rfl respects_untouched) fun _ =>
    Keeps.bind (label.withDefault rfl rfl respects_untouched) fun _ =>
    Keeps.bind (package.withDefault rfl rfl respects_untouched) fun _ =>
    Keeps.bind (source.required rfl respects_untouched) fun _ =>
    Keeps.bind (nodes.withDefault rfl rfl (respects_listOf respects_node)) fun _ =>
    Keeps.bind (problems.withDefault rfl rfl (respects_listOf respects_problem)) fun _ => .refl _

/-- A unit comes through its document. It is read as it was written, and also if the document is
edited in between: any fields that hold their defaults may be left out, and members that the
format does not know may be put in at any level, in any number and in any order. Only the name of
a kind is nothing to be put in twice. -/
theorem restored_after_edits {unit : SourceUnit} (fits : unit.Fits) :
    unit? (ofUnit unit) = some unit ∧
      ∀ document, Relation.ReflTransGen EditUnit (ofUnit unit) document →
        unit? document = some unit := by
  refine ⟨unit?_ofUnit fits, fun document edits => ?_⟩
  induction edits with
  | refl => exact unit?_ofUnit fits
  | tail _ edit ih => exact respects_unit _ _ edit unit ih

/-- A unit with one constant of an enum. -/
def constantUnit : SourceUnit :=
  ⟨⟨1⟩, "", none, "enum E \x7b A \x7d", #[⟨none, 9, 10, false, none, .enumConstant ⟨"A"⟩⟩], #[]⟩

/-- The document of this unit without its label, which is the default, and with a member in the
kind of its node that the format does not know. -/
def constantDocument : Json :=
  .object [("file_id", .integer 1),
    ("package", .null),
    ("source", .string "enum E \x7b A \x7d"),
    ("nodes", .array [.object [("parent", .null),
      ("start", .integer 9),
      ("end", .integer 10),
      ("implicit", .bool false),
      ("doc_comment", .null),
      ("kind", .object [("node", .string "enum_constant"),
        ("line", .integer 1),
        ("name", .string "A")])]]),
    ("problems", .array [])]

theorem constantDocument_read :
    constantUnit.Fits ∧ Relation.ReflTransGen EditUnit (ofUnit constantUnit) constantDocument ∧
      unit? constantDocument = some constantUnit := by
  have fits : constantUnit.Fits := {
    nodes := by
      intro node member
      cases List.mem_singleton.mp member
      exact ⟨nofun, by decide, by decide⟩
    problems := nofun }
  have kind : EditKind (ofKind (.enumConstant ⟨"A"⟩)) _ :=
    .members List.mem_cons_self
      (@EditMembers.insert _ [_] _ "line" (.integer 1) (by decide))
  have node : EditNode _ _ := .members (@EditMembers.inside _
    [("parent", .null), ("start", .integer 9), ("end", .integer 10), ("implicit", .bool false),
      ("doc_comment", .null)] [] ⟨"kind", none, EditKind⟩ _ _ (by simp) kind)
  have label : EditUnit (ofUnit constantUnit) _ := .members (@EditMembers.drop _ [_] _
    ⟨"label", some (.string ""), untouched⟩ _ (by simp) rfl)
  have nodes : EditUnit _ constantDocument := .members (@EditMembers.inside _ [_, _, _] _
    ⟨"nodes", some (.array []), EditItem EditNode⟩ _ _ (by simp)
    (@EditItem.item _ [] [] _ _ node))
  have edits : Relation.ReflTransGen EditUnit (ofUnit constantUnit) constantDocument :=
    .head label (.single nodes)
  exact ⟨fits, edits, (restored_after_edits fits).2 constantDocument edits⟩

end CodeIndex.HandOff
