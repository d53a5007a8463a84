import CodeIndex.Proofs.KeyCommand
import CodeIndex.Proofs.NameParts
import CodeIndex.Proofs.TypeParameters
import CodeIndex.Text.Lines

/-!
# Canonical strings are clean lines

Whatever a unit has for packages, names, written types, bindings and offsets: the canonical string
of what has a key is one line, with nothing at its ends to be trimmed away. Made-up names are no
exception, though their parts are not checked, since the whole name is.

* `CleanLine` says this of a text. What passes a check is a clean line.
* `Key.IsClean`: parts that are clean lines are joined to a clean string (`isClean_joined`), so keys
  of each kind are clean, those of methods, fields and variables if what these stand in has a clean
  one.
* `SourceUnit.Keyed` are the keys of a unit's nodes and of what these refer to;
  `keyed_cleanLine`: all of them are clean, and are read back as one line.
-/

namespace CodeIndex

open Text

/-! ## Clean lines -/

/-- The text is not empty, holds no control character, and neither begins nor ends with a blank. -/
structure CleanLine (text : List Char) : Prop where
  nonempty : text ≠ []
  printed : ∀ c ∈ text, isControl c = false
  first : ∀ c, text.head? = some c → isBlank c = false
  last : ∀ c, text.getLast? = some c → isBlank c = false

section Lines

variable {text behind : List Char} {value : String} {component : Component}

/-- A clean line stays one with text behind it that is printed and does not end in a blank. -/
theorem CleanLine.append (clean : CleanLine text) (printed : ∀ c ∈ behind, isControl c = false)
    (last : ∀ c, behind.getLast? = some c → isBlank c = false) : CleanLine (text ++ behind) where
  nonempty := List.append_ne_nil_of_left_ne_nil clean.nonempty behind
  printed := by
    intro c member
    rcases List.mem_append.mp member with before | after
    · exact clean.printed c before
    · exact printed c after
  first := by
    rw [List.head?_append_of_ne_nil _ clean.nonempty]
    exact clean.first
  last := by
    intro c atEnd
    cases end' : behind.getLast? with
    | none =>
        rw [List.getLast?_eq_none_iff.mp end', List.append_nil] at atEnd
        exact clean.last c atEnd
    | some other =>
        rw [List.getLast?_append, end', Option.some_or] at atEnd
        exact last c (end'.trans atEnd)

theorem CleanLine.append_space (clean : CleanLine text) (next : CleanLine behind) :
    CleanLine (text ++ ' ' :: behind) := by
  refine clean.append ?_ ?_
  · intro c member
    rcases List.mem_cons.mp member with rfl | inside
    · decide
    · exact next.printed c inside
  · rw [List.getLast?_cons_of_ne_nil next.nonempty]
    exact next.last

theorem cleanLine_of_visible (nonempty : text ≠ [])
    (visible : ∀ c ∈ text, isBlank c = false ∧ isControl c = false) : CleanLine text where
  nonempty := nonempty
  printed := fun c member => (visible c member).2
  first := fun c first => (visible c (List.mem_of_head? first)).1
  last := fun c last => (visible c (List.mem_of_getLast? last)).1

theorem cleanLine_of_checkSimple (passes : checkSimple component value = .ok ()) :
    CleanLine value.toList := by
  obtain ⟨nonempty, simple⟩ := checkSimple_eq_ok_iff.mp passes
  refine cleanLine_of_visible nonempty fun c member => ?_
  unfold isSimpleName at simple
  have visible := List.all_eq_true.mp simple c member
  simpa using visible

theorem cleanLine_of_checkQualified (passes : checkQualified component value = .ok ()) :
    CleanLine value.toList := by
  have qualified := (checkQualified_eq_ok_iff.mp passes).2
  obtain ⟨first, last, printed, _⟩ := isQualifiedName_iff.mp qualified
  exact ⟨ne_nil_of_checkQualified passes, printed, first, last⟩

theorem cleanLine_toString (offset : Nat) : CleanLine (toString offset).toList := by
  refine cleanLine_of_visible (toList_toString_ne_nil offset) fun c member => ?_
  obtain ⟨low, high⟩ := visible_of_isDigit (isDigit_of_mem_toString member)
  exact ⟨isBlank_of_visible low high, isControl_of_visible low high⟩

/-- Clean lines with printed text between them are printed. -/
theorem printed_intercalate {separator : String} {values : List String}
    (between : ∀ c ∈ separator.toList, isControl c = false)
    (clean : ∀ value ∈ values, CleanLine value.toList) :
    ∀ c ∈ (separator.intercalate values).toList, isControl c = false := by
  induction values with
  | nil => simp
  | cons value rest ih =>
      have first := (clean value List.mem_cons_self).printed
      cases rest with
      | nil => simpa using first
      | cons next rest =>
          have later := ih fun value member => clean value (List.mem_cons_of_mem _ member)
          rw [String.intercalate_cons_cons]
          simp only [String.toList_append, List.mem_append]
          rintro c ((inFirst | inBetween) | behind)
          · exact first c inFirst
          · exact between c inBetween
          · exact later c behind

end Lines

/-! ## Keys of each kind -/

namespace Key

variable {enclosing key : Key} {type name : String} {parameters : List String}
  {lambdaOffset : Option Nat}

/-- The canonical string is a clean line. -/
def IsClean (key : Key) : Prop := CleanLine key.canonical.toList

/-- The key is read back from a line as it was written. -/
theorem IsClean.linesOf_canonical (clean : key.IsClean) :
    linesOf key.canonical = [key.canonical] := by
  have oneLine : '\n' ∉ key.canonical.toList := by
    intro member
    exact absurd (clean.printed _ member) (by decide)
  have noReturn : key.canonical.toList.getLast? ≠ some '\r' := by
    intro atEnd
    exact absurd (clean.printed _ (List.mem_of_getLast? atEnd)) (by decide)
  simp [linesOf, pieces_of_not_mem oneLine, withoutReturn, noReturn]

/-- Clean parts are joined to a clean string. -/
theorem isClean_joined {first : String} {rest : List String}
    (clean : ∀ part ∈ first :: rest, CleanLine part.toList) : (joined (first :: rest)).IsClean := by
  induction rest generalizing first with
  | nil =>
      unfold IsClean
      rw [canonical_joined_singleton]
      exact clean first List.mem_cons_self
  | cons next rest ih =>
      have front := clean first List.mem_cons_self
      have behind := ih fun part member => clean part (List.mem_cons_of_mem first member)
      unfold IsClean
      rw [joined_cons]
      simpa using front.append_space behind

/-- A checked type and a checked name are clean parts. -/
theorem cleanLine_declared {component component' : Component}
    (typed : checkQualified component type = .ok ())
    (named : checkSimple component' name = .ok ()) :
    ∀ part ∈ [type, name], CleanLine part.toList :=
  List.forall_mem_cons.mpr ⟨cleanLine_of_checkQualified typed,
    List.forall_mem_singleton.mpr (cleanLine_of_checkSimple named)⟩

/-- The string of a type is accepted as a name. -/
theorem isClean_of_ofType (keyed : ofType name parameters = .ok key) : key.IsClean :=
  cleanLine_of_checkQualified (ofType_eq_ok_iff.mp (ofType_canonical keyed)).1

theorem cleanLine_parameterList {component : Component}
    (passes : checkAllQualified component parameters = .ok ()) :
    CleanLine (parameterList parameters).toList := by
  have between : ∀ c ∈ ", ".toList, isControl c = false :=
    List.forall_mem_cons.mpr ⟨by decide, List.forall_mem_singleton.mpr (by decide)⟩
  have printed : ∀ c ∈ (", ".intercalate parameters).toList, isControl c = false :=
    printed_intercalate between fun value member =>
      cleanLine_of_checkQualified (checkAllQualified_eq_ok_iff.mp passes value member)
  have opening : CleanLine ['['] :=
    cleanLine_of_visible (by decide) (List.forall_mem_singleton.mpr ⟨by decide, by decide⟩)
  have closed : (parameterList parameters).toList =
      ['['] ++ ((", ".intercalate parameters).toList ++ [']']) := by
    simp [parameterList]
  rw [closed]
  refine opening.append ?_ ?_
  · intro c member
    rcases List.mem_append.mp member with inside | atEnd
    · exact printed c inside
    · obtain rfl := List.mem_singleton.mp atEnd
      decide
  · intro c atEnd
    rw [List.getLast?_append, List.getLast?_singleton, Option.some_or] at atEnd
    obtain rfl := Option.some.inj atEnd
    decide

theorem isClean_of_ofMethod (clean : enclosing.IsClean)
    (keyed : ofMethod enclosing type name parameters lambdaOffset = .ok key) : key.IsClean := by
  obtain ⟨returns, named, takes, rfl⟩ := ofMethod_eq_ok_iff.mp keyed
  have signature : ∀ part ∈ [enclosing.canonical, type, name, parameterList parameters],
      CleanLine part.toList := by
    simp only [List.forall_mem_cons, List.not_mem_nil, false_implies, implies_true, and_true]
    exact ⟨clean, cleanLine_of_checkQualified returns, cleanLine_of_checkSimple named,
      cleanLine_parameterList takes⟩
  cases lambdaOffset with
  | none => exact isClean_joined signature
  | some offset =>
      exact isClean_joined (List.forall_mem_cons.mpr ⟨cleanLine_toString offset, signature⟩)

theorem isClean_of_ofEnumConstant (keyed : ofEnumConstant type name = .ok key) : key.IsClean := by
  obtain ⟨typed, named, rfl⟩ := ofEnumConstant_eq_ok_iff.mp keyed
  exact isClean_joined (cleanLine_declared typed named)

theorem isClean_of_ofField (clean : enclosing.IsClean)
    (keyed : ofField enclosing type name = .ok key) : key.IsClean := by
  obtain ⟨typed, named, rfl⟩ := ofField_eq_ok_iff.mp keyed
  exact isClean_joined (List.forall_mem_cons.mpr ⟨clean, cleanLine_declared typed named⟩)

theorem isClean_of_ofVariable (clean : enclosing.IsClean)
    (keyed : ofVariable enclosing type name = .ok key) : key.IsClean := by
  obtain ⟨typed, named, rfl⟩ := ofVariable_eq_ok_iff.mp keyed
  exact isClean_joined (List.forall_mem_cons.mpr ⟨clean, cleanLine_declared typed named⟩)

end Key

/-! ## Keys of a unit -/

theorem TypeRef.isClean_key {reference : TypeRef} {key : Key}
    (keyed : reference.key = .ok key) : key.IsClean := by
  unfold TypeRef.key at keyed
  cases bound : reference.binding with
  | none =>
      rw [bound] at keyed
      exact Key.isClean_of_ofType keyed
  | some binding =>
      rw [bound] at keyed
      exact Key.isClean_of_ofType keyed

theorem MethodBinding.isClean_key {target : MethodBinding} {key : Key}
    (keyed : target.key = .ok key) : key.IsClean := by
  obtain ⟨owner, owned, formed⟩ := bind_eq_ok_iff.mp keyed
  exact Key.isClean_of_ofMethod (Key.isClean_of_ofType owned) formed

namespace SourceUnit

variable {unit : SourceUnit} {id : NodeId} {identity : NodeIdentity} {key : Key}

theorem isClean_typeIdentity (identified : unit.typeIdentity id = .ok identity) :
    identity.key.IsClean := by
  obtain ⟨node, found, _⟩ := bind_eq_ok_iff.mp identified
  exact Key.isClean_of_ofType (typeIdentity_key (typeNode_eq_ok_iff.mp found).1 identified)

theorem isClean_enclosingTypeIdentity (identified : unit.enclosingTypeIdentity id = .ok identity) :
    identity.key.IsClean := by
  obtain ⟨_, _, identified⟩ := enclosingTypeIdentity_eq_ok_iff.mp identified
  exact isClean_typeIdentity identified

theorem isClean_methodIdentity (identified : unit.methodIdentity id = .ok identity) :
    identity.key.IsClean := by
  obtain ⟨_, _, owner, _, _, enclosed, keyed⟩ := methodIdentity_key identified
  exact Key.isClean_of_ofMethod (isClean_enclosingTypeIdentity enclosed) keyed

theorem isClean_enclosingMethodKey (keyed : unit.enclosingMethodKey id = .ok key) :
    key.IsClean := by
  unfold enclosingMethodKey at keyed
  cases enclosed : unit.enclosingMethod? id with
  | some method =>
      rw [enclosed] at keyed
      obtain ⟨_, identified, rfl⟩ := map_eq_ok_iff.mp keyed
      exact isClean_methodIdentity identified
  | none =>
      rw [enclosed] at keyed
      obtain ⟨_, identified, rfl⟩ := map_eq_ok_iff.mp keyed
      exact isClean_enclosingTypeIdentity identified

/-- The key is that of a node of the unit, for whichever name and type it is asked for, or that of
a method that is called or a type that is referred to. -/
inductive Keyed (unit : SourceUnit) : Key → Prop
  | type {id : NodeId} {identity : NodeIdentity}
      (identified : unit.typeIdentity id = .ok identity) : Keyed unit identity.key
  | method {id : NodeId} {identity : NodeIdentity}
      (identified : unit.methodIdentity id = .ok identity) : Keyed unit identity.key
  | field {id : NodeId} {name : String} {fieldType : TypeRef} {identity : NodeIdentity}
      (identified : unit.fieldIdentity id name fieldType = .ok identity) : Keyed unit identity.key
  | localVariable {id : NodeId} {name : String} {variableType : TypeRef} {identity : NodeIdentity}
      (identified : unit.variableIdentity id name variableType = .ok identity) :
      Keyed unit identity.key
  | enumConstant {id : NodeId} {name : String} {identity : NodeIdentity}
      (identified : unit.enumConstantIdentity id name = .ok identity) : Keyed unit identity.key
  | call {target : MethodBinding} {key : Key} (keyed : target.key = .ok key) : Keyed unit key
  | reference {reference : TypeRef} {key : Key} (keyed : reference.key = .ok key) : Keyed unit key

theorem Keyed.isClean (keyed : unit.Keyed key) : key.IsClean := by
  cases keyed with
  | type identified => exact isClean_typeIdentity identified
  | method identified => exact isClean_methodIdentity identified
  | field identified =>
      obtain ⟨owner, enclosed, formed⟩ := fieldIdentity_key identified
      exact Key.isClean_of_ofField (isClean_enclosingTypeIdentity enclosed) formed
  | localVariable identified =>
      obtain ⟨enclosing, enclosed, formed⟩ := variableIdentity_key identified
      exact Key.isClean_of_ofVariable (isClean_enclosingMethodKey enclosed) formed
  | enumConstant identified =>
      obtain ⟨owner, _, formed⟩ := enumConstantIdentity_key identified
      exact Key.isClean_of_ofEnumConstant formed
  | call keyed => exact MethodBinding.isClean_key keyed
  | reference keyed => exact TypeRef.isClean_key keyed

end SourceUnit

/-- Whatever stands in a unit, the string of each key of it is a clean line: it is not empty, holds
no control character and has no blank at its ends. Who reads it from a line has it whole. -/
theorem keyed_cleanLine {unit : SourceUnit} {key : Key} (keyed : unit.Keyed key) :
    CleanLine key.canonical.toList ∧ linesOf key.canonical = [key.canonical] :=
  ⟨keyed.isClean, keyed.isClean.linesOf_canonical⟩

/-- A generic class with a lambda, and in that a variable. The type parameter, the parameter of the
lambda and the type of the variable are written with blanks. -/
def wildcardCell : SourceUnit where
  fileId := ⟨1⟩
  source := "class Cell<K> { F f = (List<? super K> k) -> { Map<K, V> m; }; }"
  nodes := #[
    { start := 0, stop := 64,
      kind := .namedType { name := "Cell", binding := some ⟨"p.Cell", ["K extends V"]⟩ } },
    { parent := some 0, start := 22, stop := 61,
      kind := .lambda { parameters := [⟨"List<? super K>", none⟩] } },
    { parent := some 1, start := 47, stop := 59,
      kind := .localVariable { name := "m", variableType := ⟨"Map<K, V>", none⟩ } }]

/-- The string of the variable has blanks inside only. -/
theorem wildcardCell_cleanLine :
    ∃ identity, wildcardCell.variableIdentity 2 "m" ⟨"Map<K, V>", none⟩ = .ok identity ∧
      identity.key.canonical =
        "22 p.Cell<K extends V> void lambda [List<? super K>] Map<K, V> m" ∧
      CleanLine identity.key.canonical.toList ∧
      linesOf identity.key.canonical = [identity.key.canonical] := by
  have identified : wildcardCell.variableIdentity 2 "m" ⟨"Map<K, V>", none⟩ =
      .ok ⟨⟨"22 p.Cell<K extends V> void lambda [List<? super K>] Map<K, V> m"⟩, "m", true⟩ :=
    rfl
  exact ⟨_, identified, rfl, keyed_cleanLine (.localVariable identified)⟩

end CodeIndex
