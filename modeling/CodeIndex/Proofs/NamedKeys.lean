import CodeIndex.Proofs.KeySeparation

/-!
# Keys that end in a name

The strings of enum constants, fields and variables end in a simple name. A blank may stand in what
comes before, in the name of an enum, in a type and in the string of what the field or variable
stands in, but never in a simple name, so the string is read from its end.

* `Key.Declares`: the key of a field or variable, by what it stands in, its type and its name.
* `Declares.canonical_iff`: the name is read back, and the text before it.
* `named_keys_decode`: enum constants are read back whole. So are fields and variables in something
  given; with types that hold no blanks, what they stand in is read back as well.
-/

namespace CodeIndex

namespace Key

/-- The key is that of a field, or of a variable, of this type and name, standing in this. -/
inductive Declares (enclosing : Key) (type name : String) (key : Key) : Prop
  | field (keyed : ofField enclosing type name = .ok key)
  | localVariable (keyed : ofVariable enclosing type name = .ok key)

namespace Declares

variable {enclosing enclosing' key key' : Key} {type type' name name' : String}

theorem canonical_eq (declares : Declares enclosing type name key) :
    key.canonical = enclosing.canonical ++ " " ++ type ++ " " ++ name := by
  rcases declares with keyed | keyed
  · obtain ⟨_, _, rfl⟩ := ofField_eq_ok_iff.mp keyed
    exact canonical_joined_three ..
  · obtain ⟨_, _, rfl⟩ := ofVariable_eq_ok_iff.mp keyed
    exact canonical_joined_three ..

theorem blank_not_mem_name (declares : Declares enclosing type name key) : ' ' ∉ name.toList := by
  rcases declares with keyed | keyed
  · exact blank_not_mem_of_checkSimple (ofField_eq_ok_iff.mp keyed).2.1
  · exact blank_not_mem_of_checkSimple (ofVariable_eq_ok_iff.mp keyed).2.1

/-- The name is what stands behind the last blank. -/
theorem canonical_iff (declares : Declares enclosing type name key)
    (declares' : Declares enclosing' type' name' key') :
    key.canonical = key'.canonical ↔
      name = name' ∧ enclosing.canonical ++ " " ++ type = enclosing'.canonical ++ " " ++ type' := by
  rw [declares.canonical_eq, declares'.canonical_eq]
  exact append_name_inj declares.blank_not_mem_name declares'.blank_not_mem_name

end Declares

/-- The name of an enum may hold blanks, that of a constant does not. -/
theorem ofEnumConstant_canonical_iff {enumName enumName' name name' : String} {key key' : Key}
    (keyed : ofEnumConstant enumName name = .ok key)
    (keyed' : ofEnumConstant enumName' name' = .ok key') :
    key.canonical = key'.canonical ↔ enumName = enumName' ∧ name = name' := by
  obtain ⟨_, simple, rfl⟩ := ofEnumConstant_eq_ok_iff.mp keyed
  obtain ⟨_, simple', rfl⟩ := ofEnumConstant_eq_ok_iff.mp keyed'
  simp only [joined_cons, canonical_joined_singleton]
  rw [append_name_inj (blank_not_mem_of_checkSimple simple) (blank_not_mem_of_checkSimple simple'),
    and_comm]

end Key

/-- What the strings of enum constants, fields and variables give back.

* Constants with equal strings have equal names and are of enums of equal names.
* Fields or variables with equal strings that stand in the same have equal types and equal names,
  whatever blanks the types hold.
* If the types hold no blanks, what they stand in has equal strings, too. -/
theorem named_keys_decode :
    (∀ {enumName enumName' name name' : String} {key key' : Key},
      Key.ofEnumConstant enumName name = .ok key → Key.ofEnumConstant enumName' name' = .ok key' →
      (key.canonical = key'.canonical ↔ enumName = enumName' ∧ name = name')) ∧
    ∀ {enclosing enclosing' : Key} {type type' name name' : String} {key key' : Key},
      Key.Declares enclosing type name key → Key.Declares enclosing' type' name' key' →
      (enclosing.canonical = enclosing'.canonical →
        (key.canonical = key'.canonical ↔ type = type' ∧ name = name')) ∧
      (' ' ∉ type.toList → ' ' ∉ type'.toList →
        (key.canonical = key'.canonical ↔
          enclosing.canonical = enclosing'.canonical ∧ type = type' ∧ name = name')) := by
  refine ⟨Key.ofEnumConstant_canonical_iff, ?_⟩
  intro enclosing enclosing' type type' name name' key key' declares declares'
  have meets := declares.canonical_iff declares'
  constructor
  · intro same
    rw [meets, same, String.append_right_inj, and_comm]
  · intro clean clean'
    rw [meets, Key.append_name_inj clean clean']
    tauto

/-- Constants of enums with blanks in their names, fields of types with blanks, and variables of
types without in methods with blanks: all are told apart. -/
theorem blanks_told_apart :
    (∃ key key', Key.ofEnumConstant "p.A RED" "RED" = .ok key ∧
      Key.ofEnumConstant "p.A" "RED" = .ok key' ∧ key.canonical ≠ key'.canonical) ∧
    (∃ key key', Key.ofField ⟨"A"⟩ "List<? super B>" "x" = .ok key ∧
      Key.ofField ⟨"A"⟩ "List<?  super B>" "x" = .ok key' ∧ key.canonical ≠ key'.canonical) ∧
    ∃ key key', Key.ofVariable ⟨"A void m [int] int"⟩ "int" "x" = .ok key ∧
      Key.ofVariable ⟨"A void m [int]"⟩ "int" "x" = .ok key' ∧ key.canonical ≠ key'.canonical := by
  obtain ⟨constants, declared⟩ := named_keys_decode
  have red : Key.ofEnumConstant "p.A RED" "RED" = .ok ⟨"p.A RED RED"⟩ := rfl
  have red' : Key.ofEnumConstant "p.A" "RED" = .ok ⟨"p.A RED"⟩ := rfl
  have field : Key.Declares ⟨"A"⟩ "List<? super B>" "x" ⟨"A List<? super B> x"⟩ := .field rfl
  have field' : Key.Declares ⟨"A"⟩ "List<?  super B>" "x" ⟨"A List<?  super B> x"⟩ := .field rfl
  have inOverload : Key.Declares ⟨"A void m [int] int"⟩ "int" "x" ⟨"A void m [int] int int x"⟩ :=
    .localVariable rfl
  have inMethod : Key.Declares ⟨"A void m [int]"⟩ "int" "x" ⟨"A void m [int] int x"⟩ :=
    .localVariable rfl
  refine ⟨⟨_, _, red, red', ?_⟩, ⟨_, _, rfl, rfl, ?_⟩, ⟨_, _, rfl, rfl, ?_⟩⟩
  · intro same
    exact absurd ((constants red red').mp same).1 (by decide)
  · intro same
    exact absurd (((declared field field').1 rfl).mp same).1 (by decide)
  · intro same
    exact absurd (((declared inOverload inMethod).2 (by decide) (by decide)).mp same).1 (by decide)

/-- A blank between two types may belong to what the field stands in, or to its type. -/
example : Key.ofField ⟨"A B"⟩ "C" "x" = Key.ofField ⟨"A"⟩ "B C" "x" := rfl

end CodeIndex
