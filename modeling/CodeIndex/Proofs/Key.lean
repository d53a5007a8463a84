import CodeIndex.NodeIdentity
import CodeIndex.Proofs.Result
import Mathlib.Data.List.Basic

/-!
# Canonical strings and their parts

When a key is formed and what its canonical string then is, one statement for each kind of key,
and how much of the parts the string gives back.

* `Key.ofType_eq_ok_iff`, `Key.ofMethod_eq_ok_iff`, `Key.ofEnumConstant_eq_ok_iff`,
  `Key.ofField_eq_ok_iff` and `Key.ofVariable_eq_ok_iff`: a key is formed when its parts pass their
  checks, and which string it then is.
* `Key.ofMethod_lambda`: the offset of a lambda stands in front of the key that the method has
  outside of lambdas.
* `last_part_unique`: a last part without separators is read back from the end of the string, and
  `intercalate_inj`: if no part holds one, all of them are read back.
* `Key.ofType_eq_error`: the key of a type is refused over its name or over a type parameter.
-/

namespace CodeIndex

open Text

/-! ## Checks -/

theorem checkSimple_eq_ok_iff {component : Component} {value : String} :
    checkSimple component value = .ok () ↔
      value.toList ≠ [] ∧ isSimpleName value.toList = true := by
  unfold checkSimple
  split
  · next isEmpty => simp_all
  · split
    · next nonempty simple => simp_all
    · next nonempty notSimple => simp_all

theorem checkQualified_eq_ok_iff {component : Component} {value : String} :
    checkQualified component value = .ok () ↔
      value.toList.all isBlank = false ∧ isQualifiedName value.toList = true := by
  unfold checkQualified
  split
  · next blank => simp_all
  · split
    · next shown qualified => simp_all
    · next shown notQualified => simp_all

theorem ne_nil_of_checkQualified {component : Component} {value : String}
    (passes : checkQualified component value = .ok ()) : value.toList ≠ [] := by
  intro empty
  have shown := (checkQualified_eq_ok_iff.mp passes).1
  rw [empty] at shown
  cases shown

/-- A check complains about the component that it was made for. -/
theorem checkQualified_eq_error {component : Component} {value : String} {error : IdentityError}
    (fails : checkQualified component value = .error error) :
    error = .empty component ∨ error = .malformed component value := by
  unfold checkQualified at fails
  split at fails
  · cases fails
    exact .inl rfl
  · split at fails
    · cases fails
    · cases fails
      exact .inr rfl

theorem checkAllQualified_eq_error {component : Component} {values : List String}
    {error : IdentityError} (fails : checkAllQualified component values = .error error) :
    ∃ value ∈ values, error = .empty component ∨ error = .malformed component value := by
  induction values with
  | nil => cases fails
  | cons value rest ih =>
      rw [checkAllQualified] at fails
      cases check : checkQualified component value with
      | error first =>
          rw [check] at fails
          cases fails
          exact ⟨value, List.mem_cons_self, checkQualified_eq_error check⟩
      | ok _ =>
          rw [check] at fails
          obtain ⟨bad, member, complaint⟩ := ih fails
          exact ⟨bad, List.mem_cons_of_mem value member, complaint⟩

theorem checkAllQualified_eq_ok_iff {component : Component} {values : List String} :
    checkAllQualified component values = .ok () ↔
      ∀ value ∈ values, checkQualified component value = .ok () := by
  induction values with
  | nil => simp [checkAllQualified]
  | cons value rest ih =>
      rw [checkAllQualified, check_bind_eq_ok_iff, ih]
      simp

/-- A simple name holds no blank. -/
theorem blank_not_mem_of_checkSimple {component : Component} {value : String}
    (passes : checkSimple component value = .ok ()) : ' ' ∉ value.toList := by
  intro member
  have simple := (checkSimple_eq_ok_iff.mp passes).2
  unfold isSimpleName at simple
  have clean := List.all_eq_true.mp simple ' ' member
  exact absurd clean (by decide)

/-! ## Joined parts -/

/-- Of two texts that end in a separator and a part without one, equal ones have equal last parts
and equal texts before. -/
theorem last_part_unique {separator : Char} {before before' last last' : List Char}
    (clean : separator ∉ last) (clean' : separator ∉ last')
    (same : before ++ separator :: last = before' ++ separator :: last') :
    before = before' ∧ last = last' := by
  -- if the texts before were of different lengths, one last part would hold the other's separator
  rcases List.append_eq_append_iff.mp same with ⟨middle, rest, split⟩ | ⟨middle, rest, split⟩
  · cases middle with
    | nil =>
        simp only [List.append_nil, List.nil_append, List.cons.injEq, true_and] at rest split
        exact ⟨rest.symm, split⟩
    | cons head tail =>
        simp only [List.cons_append, List.cons.injEq] at split
        exact absurd (split.2 ▸ List.mem_append_right tail List.mem_cons_self) clean
  · cases middle with
    | nil =>
        simp only [List.append_nil, List.nil_append, List.cons.injEq, true_and] at rest split
        exact ⟨rest, split.symm⟩
    | cons head tail =>
        simp only [List.cons_append, List.cons.injEq] at split
        exact absurd (split.2 ▸ List.mem_append_right tail List.mem_cons_self) clean'

section Intercalate

variable {joint : String} {separator : Char} {parts parts' : List String}

theorem splitOn_intercalate (single : joint.toList = [separator])
    (clean : ∀ part ∈ parts, separator ∉ part.toList) (nonempty : parts ≠ []) :
    (joint.intercalate parts).toList.splitOn separator = parts.map String.toList := by
  rw [String.toList_intercalate, single]
  exact List.splitOn_intercalate separator (by simpa using clean) (by simpa using nonempty)

/-- Parts without separators are read back from the text that they make with a separator between
every two of them. -/
theorem intercalate_inj (single : joint.toList = [separator])
    (clean : ∀ part ∈ parts, separator ∉ part.toList)
    (clean' : ∀ part ∈ parts', separator ∉ part.toList) (nonempty : parts ≠ [])
    (nonempty' : parts' ≠ []) :
    joint.intercalate parts = joint.intercalate parts' ↔ parts = parts' := by
  refine ⟨fun same => ?_, congrArg joint.intercalate⟩
  have pieces : parts.map String.toList = parts'.map String.toList := by
    rw [← splitOn_intercalate single clean nonempty, same,
      splitOn_intercalate single clean' nonempty']
  exact List.map_injective_iff.mpr (fun _ _ => String.toList_inj.mp) pieces

end Intercalate

namespace Key

theorem joined_cons (part next : String) (rest : List String) :
    joined (part :: next :: rest) = ⟨part ++ " " ++ (joined (next :: rest)).canonical⟩ :=
  congrArg Key.mk String.intercalate_cons_cons

theorem canonical_joined_singleton (part : String) : (joined [part]).canonical = part := by
  simp [joined]

/-! ## Keys of each kind -/

variable {enclosing key : Key}

theorem ofType_eq_ok_iff {name : String} {parameters : List String} :
    ofType name parameters = .ok key ↔
      checkQualified .typeName name = .ok () ∧
        checkAllQualified .typeParameter parameters = .ok () ∧
        key = ⟨name ++ typeParameterSuffix parameters⟩ := by
  unfold ofType
  simp only [check_bind_eq_ok_iff, pure_eq_ok_iff, eq_comm (a := key)]

/-- The key of a type is refused over its name or over one of its type parameters. -/
theorem ofType_eq_error {name : String} {parameters : List String} {error : IdentityError}
    (fails : ofType name parameters = .error error) :
    (error = .empty .typeName ∨ error = .malformed .typeName name) ∨
      ∃ parameter ∈ parameters,
        error = .empty .typeParameter ∨ error = .malformed .typeParameter parameter := by
  unfold ofType at fails
  cases named : checkQualified .typeName name with
  | error first =>
      rw [named] at fails
      cases fails
      exact .inl (checkQualified_eq_error named)
  | ok _ =>
      cases listed : checkAllQualified .typeParameter parameters with
      | error first =>
          rw [named, listed] at fails
          cases fails
          exact .inr (checkAllQualified_eq_error listed)
      | ok _ =>
          rw [named, listed] at fails
          cases fails

theorem ofMethod_eq_ok_iff {returnType name : String} {parameters : List String}
    {lambdaOffset : Option Nat} :
    ofMethod enclosing returnType name parameters lambdaOffset = .ok key ↔
      checkQualified .returnType returnType = .ok () ∧
        checkSimple .methodName name = .ok () ∧
        checkAllQualified .parameterType parameters = .ok () ∧
        key = joined (lambdaOffset.toList.map toString ++
          [enclosing.canonical, returnType, name, parameterList parameters]) := by
  unfold ofMethod
  cases lambdaOffset with
  | none =>
      simp only [check_bind_eq_ok_iff, pure_eq_ok_iff, eq_comm (a := key)]
      rfl
  | some offset =>
      simp only [check_bind_eq_ok_iff, pure_eq_ok_iff, eq_comm (a := key)]
      rfl

/-- Inside a lambda a method has the key that it has outside, behind the offset of the lambda. -/
theorem ofMethod_lambda {returnType name : String} {parameters : List String} {offset : Nat} :
    ofMethod enclosing returnType name parameters (some offset) = .ok key ↔
      ∃ outside, ofMethod enclosing returnType name parameters none = .ok outside ∧
        key = ⟨toString offset ++ " " ++ outside.canonical⟩ := by
  simp only [ofMethod_eq_ok_iff]
  constructor
  · rintro ⟨returns, named, takes, rfl⟩
    exact ⟨_, ⟨returns, named, takes, rfl⟩, joined_cons _ _ _⟩
  · rintro ⟨outside, ⟨returns, named, takes, rfl⟩, rfl⟩
    exact ⟨returns, named, takes, (joined_cons _ _ _).symm⟩

theorem ofEnumConstant_eq_ok_iff {enumName name : String} :
    ofEnumConstant enumName name = .ok key ↔
      checkQualified .enumName enumName = .ok () ∧ checkSimple .enumConstantName name = .ok () ∧
        key = joined [enumName, name] := by
  unfold ofEnumConstant
  simp only [check_bind_eq_ok_iff, pure_eq_ok_iff, eq_comm (a := key)]

theorem ofField_eq_ok_iff {fieldType name : String} :
    ofField enclosing fieldType name = .ok key ↔
      checkQualified .fieldType fieldType = .ok () ∧ checkSimple .fieldName name = .ok () ∧
        key = joined [enclosing.canonical, fieldType, name] := by
  unfold ofField
  simp only [check_bind_eq_ok_iff, pure_eq_ok_iff, eq_comm (a := key)]

theorem ofVariable_eq_ok_iff {variableType name : String} :
    ofVariable enclosing variableType name = .ok key ↔
      checkQualified .variableType variableType = .ok () ∧
        checkSimple .variableName name = .ok () ∧
        key = joined [enclosing.canonical, variableType, name] := by
  unfold ofVariable
  simp only [check_bind_eq_ok_iff, pure_eq_ok_iff, eq_comm (a := key)]

end Key

end CodeIndex
