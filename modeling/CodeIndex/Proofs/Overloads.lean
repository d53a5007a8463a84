import CodeIndex.Proofs.Key
import CodeIndex.Text.Digit
import Mathlib.Data.List.Basic

/-!
# Overloads

Methods of one type that differ in their return types, names, parameters or lambdas have different
canonical strings.

* `PlainSignature` names what a signature must not hold: a blank in the return type, a bracket in
  front of the name, a separator inside a parameter.
* `separated_inj`: parameters that hold no separator are read back from their list.
* `exists_eq_append_of_moved`: where an offset is put in front of some text and the same text is
  found without it, a word moves to the other end. So a method in a lambda, read as one outside of
  lambdas, has its return type for a name, and its name begins the list of parameters.
* `overload_canonical_iff`: equal canonical strings have equal parts, the offset included.
-/

namespace CodeIndex

open Text

/-! ## Reading from the front -/

/-- Of two texts that begin with a part without separators and a separator, equal ones have equal
first parts and equal texts behind. -/
theorem first_part_unique {separator : Char} {first first' rest rest' : List Char}
    (clean : separator ∉ first) (clean' : separator ∉ first')
    (same : first ++ separator :: rest = first' ++ separator :: rest') :
    first = first' ∧ rest = rest' := by
  have reversed : rest.reverse ++ separator :: first.reverse =
      rest'.reverse ++ separator :: first'.reverse := by
    simpa using congrArg List.reverse same
  obtain ⟨sameRest, sameFirst⟩ := last_part_unique (mt List.mem_reverse.mp clean)
    (mt List.mem_reverse.mp clean') reversed
  exact ⟨List.reverse_injective sameFirst, List.reverse_injective sameRest⟩

/-! ## Lists of parameters -/

/-- A comma with a space behind it stands in the text, as between two parameters. -/
def HoldsSeparator (text : List Char) : Prop := [',', ' '] <:+: text

instance (text : List Char) : Decidable (HoldsSeparator text) :=
  inferInstanceAs (Decidable ([',', ' '] <:+: text))

/-- Where one part begins with another one and a separator stands behind both, the parts are equal:
if one were longer, a separator would begin in it, or at the space of its own separator. -/
theorem longer_separated_unique {short long behind behind' more : List Char}
    (clean : ¬HoldsSeparator long) (longer : long = short ++ more)
    (split : ',' :: ' ' :: behind = more ++ ',' :: ' ' :: behind') :
    short = long ∧ behind = behind' := by
  match more with
  | [] =>
      simp only [List.nil_append, List.cons.injEq, true_and] at split
      exact ⟨(longer.trans (List.append_nil short)).symm, split⟩
  | [only] =>
      simp only [List.cons_append, List.nil_append, List.cons.injEq] at split
      exact absurd split.2.1 (by decide)
  | comma :: space :: more =>
      simp only [List.cons_append, List.cons.injEq] at split
      obtain ⟨rfl, rfl, _⟩ := split
      exact absurd ⟨short, more, by simp [longer]⟩ clean

theorem first_separated_unique {first first' rest rest' : List Char}
    (clean : ¬HoldsSeparator first) (clean' : ¬HoldsSeparator first')
    (same : first ++ ',' :: ' ' :: rest = first' ++ ',' :: ' ' :: rest') :
    first = first' ∧ rest = rest' := by
  rcases List.append_eq_append_iff.mp same with ⟨more, longer, split⟩ | ⟨more, longer, split⟩
  · exact longer_separated_unique clean' longer split
  · obtain ⟨sameFirst, sameRest⟩ := longer_separated_unique clean longer split
    exact ⟨sameFirst.symm, sameRest.symm⟩

theorem holdsSeparator_intercalate (first next : List Char) (rest : List (List Char)) :
    HoldsSeparator ([',', ' '].intercalate (first :: next :: rest)) :=
  ⟨first, [',', ' '].intercalate (next :: rest), by simp [List.intercalate_cons_cons]⟩

theorem intercalate_ne_nil {separator first : List Char} (rest : List (List Char))
    (nonempty : first ≠ []) : separator.intercalate (first :: rest) ≠ [] := by
  cases rest with
  | nil => simpa using nonempty
  | cons next rest => simp [List.intercalate_cons_cons, nonempty]

/-- Parts that are not empty and hold no separator are read back from the text that they make
when they are separated. -/
theorem separated_inj {parts parts' : List (List Char)}
    (clean : ∀ part ∈ parts, part ≠ [] ∧ ¬HoldsSeparator part)
    (clean' : ∀ part ∈ parts', part ≠ [] ∧ ¬HoldsSeparator part)
    (same : [',', ' '].intercalate parts = [',', ' '].intercalate parts') : parts = parts' := by
  induction parts generalizing parts' with
  | nil =>
      cases parts' with
      | nil => rfl
      | cons first' rest' =>
          exact absurd same.symm (intercalate_ne_nil rest' (clean' first' List.mem_cons_self).1)
  | cons first rest ih =>
      obtain ⟨nonempty, plain⟩ := clean first List.mem_cons_self
      cases parts' with
      | nil => exact absurd same (intercalate_ne_nil rest nonempty)
      | cons first' rest' =>
          obtain ⟨_, plain'⟩ := clean' first' List.mem_cons_self
          cases rest with
          | nil =>
              cases rest' with
              | nil => simpa using same
              | cons next' rest' =>
                  rw [List.intercalate_singleton] at same
                  exact absurd (same ▸ holdsSeparator_intercalate first' next' rest') plain
          | cons next rest =>
              cases rest' with
              | nil =>
                  rw [List.intercalate_singleton] at same
                  exact absurd (same ▸ holdsSeparator_intercalate first next rest) plain'
              | cons next' rest' =>
                  simp only [List.intercalate_cons_cons, List.append_assoc, List.cons_append,
                    List.nil_append] at same
                  obtain ⟨rfl, behind⟩ := first_separated_unique plain plain' same
                  rw [ih (fun part member => clean part (List.mem_cons_of_mem _ member))
                    (fun part member => clean' part (List.mem_cons_of_mem _ member)) behind]

theorem toList_parameterList (parameters : List String) :
    (parameterList parameters).toList =
      '[' :: ([',', ' '].intercalate (parameters.map String.toList) ++ [']']) := by
  simp [parameterList, String.toList_intercalate]

/-- Parameter types are read back from their list. -/
theorem parameterList_inj {parameters parameters' : List String}
    (clean : ∀ parameter ∈ parameters, parameter.toList ≠ [] ∧ ¬HoldsSeparator parameter.toList)
    (clean' : ∀ parameter ∈ parameters',
      parameter.toList ≠ [] ∧ ¬HoldsSeparator parameter.toList)
    (same : (parameterList parameters).toList = (parameterList parameters').toList) :
    parameters = parameters' := by
  rw [toList_parameterList, toList_parameterList, List.cons.injEq] at same
  have listed := List.append_cancel_right same.2
  refine List.map_injective_iff.mpr (fun _ _ => String.toList_inj.mp) (separated_inj ?_ ?_ listed)
  · simpa using clean
  · simpa using clean'

/-! ## Signatures -/

/-- What a signature must not hold for its parts to be told apart: a space in the return type, a
bracket at the beginning of the name, and a separator in a parameter type. -/
structure PlainSignature (returnType name : String) (parameters : List String) : Prop where
  returnType : ' ' ∉ returnType.toList
  name : name.toList.head? ≠ some '['
  parameters : ∀ parameter ∈ parameters, ¬HoldsSeparator parameter.toList

/-- The part of a method's string behind its enclosing type. -/
def signatureText (returnType name : String) (parameters : List String) : List Char :=
  returnType.toList ++ ' ' :: (name.toList ++ ' ' :: (parameterList parameters).toList)

/-- The part of a method's string in front of its enclosing type. -/
def offsetText : Option Nat → List Char
  | some offset => (toString offset).toList ++ [' ']
  | none => []

theorem space_not_mem_toString {offset : Nat} : ' ' ∉ (toString offset).toList :=
  not_mem_toString (by decide)

theorem nonempty_of_checkAllQualified {component : Component} {values : List String}
    (passes : checkAllQualified component values = .ok ()) :
    ∀ value ∈ values, value.toList ≠ [] := fun value member =>
  ne_nil_of_checkQualified (checkAllQualified_eq_ok_iff.mp passes value member)

theorem Key.toList_ofMethod {enclosing key : Key} {returnType name : String}
    {parameters : List String} {lambdaOffset : Option Nat}
    (keyed : ofMethod enclosing returnType name parameters lambdaOffset = .ok key) :
    key.canonical.toList = offsetText lambdaOffset ++
      (enclosing.canonical.toList ++ ' ' :: signatureText returnType name parameters) := by
  obtain ⟨_, _, _, rfl⟩ := ofMethod_eq_ok_iff.mp keyed
  cases lambdaOffset with
  | none => simp [joined_cons, canonical_joined_singleton, offsetText, signatureText]
  | some offset => simp [joined_cons, canonical_joined_singleton, offsetText, signatureText]

section Accepted

variable {enclosing enclosing' key key' : Key} {returnType returnType' name name' : String}
  {parameters parameters' : List String} {lambdaOffset lambdaOffset' : Option Nat}

/-- The text of a signature gives back its parts. -/
theorem signatureText_inj
    (keyed : Key.ofMethod enclosing returnType name parameters lambdaOffset = .ok key)
    (keyed' : Key.ofMethod enclosing' returnType' name' parameters' lambdaOffset' = .ok key')
    (plain : PlainSignature returnType name parameters)
    (plain' : PlainSignature returnType' name' parameters')
    (same : signatureText returnType name parameters =
      signatureText returnType' name' parameters') :
    returnType = returnType' ∧ name = name' ∧ parameters = parameters' := by
  obtain ⟨_, named, takes, _⟩ := Key.ofMethod_eq_ok_iff.mp keyed
  obtain ⟨_, named', takes', _⟩ := Key.ofMethod_eq_ok_iff.mp keyed'
  obtain ⟨sameReturn, behind⟩ := first_part_unique plain.returnType plain'.returnType same
  obtain ⟨sameName, sameList⟩ := first_part_unique (blank_not_mem_of_checkSimple named)
    (blank_not_mem_of_checkSimple named') behind
  have sameParameters := parameterList_inj
    (fun parameter member =>
      ⟨nonempty_of_checkAllQualified takes parameter member, plain.parameters parameter member⟩)
    (fun parameter member =>
      ⟨nonempty_of_checkAllQualified takes' parameter member, plain'.parameters parameter member⟩)
    sameList
  exact ⟨String.toList_inj.mp sameReturn, String.toList_inj.mp sameName, sameParameters⟩

/-- A text behind a word and a space that is found without these has another word at its end: the
spaces on both sides are counted. -/
theorem exists_eq_append_of_moved {word text rest rest' : List Char} (clean : ' ' ∉ word)
    (same : word ++ ' ' :: (text ++ ' ' :: rest) = text ++ ' ' :: rest') :
    ∃ moved, ' ' ∉ moved ∧ rest' = moved ++ ' ' :: rest := by
  have lists : (word ++ ' ' :: (text ++ [' '])) ++ rest = (text ++ [' ']) ++ rest' := by
    simpa using same
  rcases List.append_eq_append_iff.mp lists with ⟨more, longer, _⟩ | ⟨moved, longer, behind⟩
  · have lengths := congrArg List.length longer
    simp only [List.length_append, List.length_cons, List.length_nil] at lengths
    omega
  · rcases List.eq_nil_or_concat moved with rfl | ⟨front, last, rfl⟩
    · have lengths := congrArg List.length longer
      simp only [List.length_append, List.length_cons, List.length_nil] at lengths
      omega
    · have ends : (word ++ ' ' :: text) ++ [' '] = (text ++ ' ' :: front) ++ [last] := by
        simpa using longer
      obtain ⟨turned, space⟩ := List.append_inj' ends rfl
      obtain rfl := List.cons.inj space |>.1
      have spaces := congrArg (List.count ' ') turned
      rw [List.count_append, List.count_append, List.count_cons_self, List.count_cons_self,
        List.count_eq_zero.mpr clean] at spaces
      refine ⟨front, List.count_eq_zero.mp (by omega), by simpa using behind⟩

/-- A method in a lambda does not share its string with a method outside of lambdas. -/
theorem offset_ne_none {offset : Nat}
    (keyed : Key.ofMethod enclosing returnType name parameters (some offset) = .ok key)
    (keyed' : Key.ofMethod enclosing returnType' name' parameters' none = .ok key')
    (plain : PlainSignature returnType name parameters)
    (plain' : PlainSignature returnType' name' parameters') :
    key.canonical ≠ key'.canonical := by
  intro same
  obtain ⟨_, named, _, _⟩ := Key.ofMethod_eq_ok_iff.mp keyed
  obtain ⟨_, named', _, _⟩ := Key.ofMethod_eq_ok_iff.mp keyed'
  have lists := congrArg String.toList same
  rw [Key.toList_ofMethod keyed, Key.toList_ofMethod keyed'] at lists
  simp only [offsetText, List.append_assoc, List.cons_append, List.nil_append] at lists
  obtain ⟨moved, clean, behind⟩ := exists_eq_append_of_moved space_not_mem_toString lists
  obtain ⟨_, nameBehind⟩ := first_part_unique plain'.returnType clean behind
  obtain ⟨_, listBehind⟩ := first_part_unique (blank_not_mem_of_checkSimple named')
    plain.returnType nameBehind
  -- the name would stand where the list of parameters begins
  rw [toList_parameterList] at listBehind
  obtain ⟨head, tail, begins⟩ := List.exists_cons_of_ne_nil (checkSimple_eq_ok_iff.mp named).1
  rw [begins, List.cons_append, List.cons.injEq] at listBehind
  exact plain.name (by rw [begins, List.head?_cons, listBehind.1])

/-- Methods of one type with one string are in the same lambda, or both in none. -/
theorem offset_unique
    (keyed : Key.ofMethod enclosing returnType name parameters lambdaOffset = .ok key)
    (keyed' : Key.ofMethod enclosing returnType' name' parameters' lambdaOffset' = .ok key')
    (plain : PlainSignature returnType name parameters)
    (plain' : PlainSignature returnType' name' parameters')
    (same : key.canonical = key'.canonical) : lambdaOffset = lambdaOffset' := by
  match lambdaOffset, lambdaOffset' with
  | none, none => rfl
  | none, some offset' => exact absurd same.symm (offset_ne_none keyed' keyed plain' plain)
  | some offset, none => exact absurd same (offset_ne_none keyed keyed' plain plain')
  | some offset, some offset' =>
      have lists := congrArg String.toList same
      rw [Key.toList_ofMethod keyed, Key.toList_ofMethod keyed'] at lists
      simp only [offsetText, List.append_assoc, List.cons_append, List.nil_append] at lists
      obtain ⟨digits, _⟩ :=
        first_part_unique space_not_mem_toString space_not_mem_toString lists
      exact congrArg some (toString_inj.mp (String.toList_inj.mp digits))

/-- Overloads do not collide: with one enclosing type, plain signatures have equal canonical strings
only if return types, names, parameter lists and lambdas are equal, a lambda that is there and one
that is not included. -/
theorem overload_canonical_iff
    (keyed : Key.ofMethod enclosing returnType name parameters lambdaOffset = .ok key)
    (keyed' : Key.ofMethod enclosing returnType' name' parameters' lambdaOffset' = .ok key')
    (plain : PlainSignature returnType name parameters)
    (plain' : PlainSignature returnType' name' parameters') :
    key.canonical = key'.canonical ↔
      returnType = returnType' ∧ name = name' ∧ parameters = parameters' ∧
        lambdaOffset = lambdaOffset' := by
  constructor
  · intro same
    obtain rfl := offset_unique keyed keyed' plain plain' same
    have lists := congrArg String.toList same
    rw [Key.toList_ofMethod keyed, Key.toList_ofMethod keyed'] at lists
    have behind := List.append_cancel_left (List.append_cancel_left lists)
    obtain ⟨sameReturn, sameName, sameParameters⟩ :=
      signatureText_inj keyed keyed' plain plain' (List.cons.inj behind).2
    exact ⟨sameReturn, sameName, sameParameters, rfl⟩
  · rintro ⟨rfl, rfl, rfl, rfl⟩
    exact congrArg Key.canonical (Except.ok.inj (keyed.symm.trans keyed'))

end Accepted

/-- The same digit is the offset of a lambda and the return type of a method outside, in a type that
has it in its name. -/
theorem digitOverloads_apart :
    ∃ key key', Key.ofMethod ⟨"5 5"⟩ "int" "go" ["Map<K,V>", "? super T"] (some 5) = .ok key ∧
      Key.ofMethod ⟨"5 5"⟩ "5" "int" ["Map<K,V>", "? super T"] none = .ok key' ∧
      PlainSignature "int" "go" ["Map<K,V>", "? super T"] ∧
      PlainSignature "5" "int" ["Map<K,V>", "? super T"] ∧ key.canonical ≠ key'.canonical := by
  have keyed : Key.ofMethod ⟨"5 5"⟩ "int" "go" ["Map<K,V>", "? super T"] (some 5) =
      .ok ⟨"5 5 5 int go [Map<K,V>, ? super T]"⟩ := by decide +kernel
  have keyed' : Key.ofMethod ⟨"5 5"⟩ "5" "int" ["Map<K,V>", "? super T"] none =
      .ok ⟨"5 5 5 int [Map<K,V>, ? super T]"⟩ := by decide +kernel
  have plain : PlainSignature "int" "go" ["Map<K,V>", "? super T"] :=
    ⟨by decide, by decide, by decide +kernel⟩
  have plain' : PlainSignature "5" "int" ["Map<K,V>", "? super T"] :=
    ⟨by decide, by decide, by decide +kernel⟩
  refine ⟨⟨"5 5 5 int go [Map<K,V>, ? super T]"⟩, ⟨"5 5 5 int [Map<K,V>, ? super T]"⟩, keyed,
    keyed', plain, plain', ?_⟩
  intro same
  obtain ⟨_, _, _, offsets⟩ := (overload_canonical_iff keyed keyed' plain plain').mp same
  cases offsets

/-- A name that begins with a bracket can be read as the beginning of the parameters. -/
example : Key.ofMethod ⟨"5"⟩ "int" "[x" ["int"] (some 5) =
    Key.ofMethod ⟨"5"⟩ "5" "int" ["x [int"] none := by decide +kernel

end CodeIndex
