import CodeIndex.Proofs.NameParts
import CodeIndex.Proofs.OffsetName

/-!
# Names of types and type parameters

The string of a type is its name with its type parameters behind it, in brackets and with commas
between them. The check of names and parameters lets brackets and commas pass, so where the name
ends, and where one parameter does, is not always to be seen.

* `isQualifiedName_append`: two accepted names with such a mark between them are an accepted name.
* `ofType_canonical`, `ofType_merged`: so the whole string of a type is an accepted name, of a type
  without parameters, and two parameters with a comma between them are an accepted one.
* `typeParameterSuffix_inj`: parameters without commas are read back.
* `names_of_canonical_eq`: types of equal strings have equal names, or one `GoesOn` with a bracket
  where the other ends.
* `typeKey_canonical_iff`: so a type is read back, if there is no bracket in its name and no comma
  in its parameters. Otherwise it may share its string with another one (`typeKeys_meet`).
-/

namespace CodeIndex

open Text

/-! ## Marks in names -/

/-- A mark is visible and no full stop, so that the check of a name has nothing against it. -/
structure IsMark (c : Char) : Prop where
  visible : isBlank c = false
  printed : isControl c = false
  notStop : c ≠ '.'

section Marks

variable {mark c : Char} {left right : List Char}

theorem head?_append_mark (first : (left ++ mark :: right).head? = some c) :
    left.head? = some c ∨ c = mark := by
  cases left with
  | nil => exact .inr (Option.some.inj first).symm
  | cons head tail => exact .inl first

theorem getLast?_append_mark (last : (left ++ mark :: right).getLast? = some c) :
    right.getLast? = some c ∨ c = mark := by
  rw [List.getLast?_append, List.getLast?_cons, Option.some_or] at last
  cases behind : right.getLast? with
  | none => exact .inr (by simpa [behind] using last.symm)
  | some other => exact .inl (by simpa [behind] using last)

/-- What is accepted on both sides of a mark is accepted with the mark in between; behind the mark
there may be nothing. -/
theorem isQualifiedName_append (isMark : IsMark mark) (accepted : isQualifiedName left = true)
    (accepted' : isQualifiedName right = true) :
    isQualifiedName (left ++ mark :: right) = true := by
  obtain ⟨first, _, printed, noStop, noStop', single⟩ := isQualifiedName_iff.mp accepted
  obtain ⟨_, last, printed', noStop'', noStop''', single'⟩ := isQualifiedName_iff.mp accepted'
  refine isQualifiedName_iff.mpr ⟨?_, ?_, ?_, ?_, ?_, ?_⟩
  · intro c atFirst
    rcases head?_append_mark atFirst with inLeft | rfl
    · exact first c inLeft
    · exact isMark.visible
  · intro c atLast
    rcases getLast?_append_mark atLast with inRight | rfl
    · exact last c inRight
    · exact isMark.visible
  · intro c member
    rcases List.mem_append.mp member with inLeft | behind
    · exact printed c inLeft
    · rcases List.mem_cons.mp behind with rfl | inRight
      · exact isMark.printed
      · exact printed' c inRight
  · intro atFirst
    rcases head?_append_mark atFirst with inLeft | isStop
    · exact noStop inLeft
    · exact isMark.notStop isStop.symm
  · intro atLast
    rcases getLast?_append_mark atLast with inRight | isStop
    · exact noStop''' inRight
    · exact isMark.notStop isStop.symm
  · refine Bool.eq_false_iff.mpr fun double => ?_
    rcases hasDoubleDot_append.mp double with inLeft | ⟨_, isStop⟩ | behind
    · rw [single] at inLeft
      cases inLeft
    · exact isMark.notStop (Option.some.inj isStop)
    · rcases hasDoubleDot_cons.mp behind with ⟨isStop, _⟩ | inRight
      · exact isMark.notStop isStop
      · rw [single'] at inRight
        cases inRight

/-- A text with a mark in it is not blank throughout. -/
theorem all_isBlank_append (isMark : IsMark mark) :
    (left ++ mark :: right).all isBlank = false := by
  simp [isMark.visible]

end Marks

/-- An accepted name is accepted with a mark behind it, and what is accepted or nothing behind
that. -/
theorem checkQualified_append {component other : Component} {mark : Char} {left text : String}
    {right : List Char} (isMark : IsMark mark) (passes : checkQualified component left = .ok ())
    (accepted : isQualifiedName right = true) (reads : text.toList = left.toList ++ mark :: right) :
    checkQualified other text = .ok () := by
  rw [checkQualified_eq_ok_iff, reads]
  exact ⟨all_isBlank_append isMark,
    isQualifiedName_append isMark (checkQualified_eq_ok_iff.mp passes).2 accepted⟩

theorem isMark_comma : IsMark ',' := ⟨by decide, by decide, by decide⟩

theorem isMark_opening : IsMark '<' := ⟨by decide, by decide, by decide⟩

theorem isMark_closing : IsMark '>' := ⟨by decide, by decide, by decide⟩

/-! ## Lists of type parameters -/

section Lists

variable {first second : String} {front back rest parameters parameters' : List String}

/-- Accepted parameters with commas between them are an accepted name. -/
theorem checkQualified_intercalate {component : Component}
    (passes : ∀ value ∈ first :: rest, checkQualified component value = .ok ()) :
    checkQualified component (",".intercalate (first :: rest)) = .ok () := by
  induction rest generalizing first with
  | nil => simpa using passes
  | cons next rest ih =>
      have behind := ih fun value member => passes value (List.mem_cons_of_mem first member)
      refine checkQualified_append isMark_comma (passes first List.mem_cons_self)
        (checkQualified_eq_ok_iff.mp behind).2 ?_
      simp [String.intercalate_cons_cons]

/-- A comma in a parameter reads like one between two. -/
theorem intercalate_merged :
    ",".intercalate (front ++ (first ++ "," ++ second) :: back) =
      ",".intercalate (front ++ first :: second :: back) := by
  induction front with
  | nil =>
      cases back with
      | nil => simp [String.intercalate_cons_cons]
      | cons next back => simp [String.intercalate_cons_cons, String.append_assoc]
  | cons head front ih =>
      rw [List.cons_append, List.cons_append, String.intercalate_cons_of_ne_nil (by simp),
        String.intercalate_cons_of_ne_nil (by simp), ih]

theorem typeParameterSuffix_cons :
    typeParameterSuffix (first :: rest) = "<" ++ ",".intercalate (first :: rest) ++ ">" := rfl

theorem typeParameterSuffix_merged :
    typeParameterSuffix (front ++ (first ++ "," ++ second) :: back) =
      typeParameterSuffix (front ++ first :: second :: back) := by
  unfold typeParameterSuffix
  rw [intercalate_merged]
  simp

theorem typeParameterSuffix_cons_ne_nil : typeParameterSuffix (first :: rest) ≠ "" := by
  intro empty
  have lists := congrArg String.toList empty
  simp [typeParameterSuffix_cons] at lists

theorem typeParameterSuffix_cons_inj {first' : String} {rest' : List String} :
    typeParameterSuffix (first :: rest) = typeParameterSuffix (first' :: rest') ↔
      ",".intercalate (first :: rest) = ",".intercalate (first' :: rest') := by
  rw [typeParameterSuffix_cons, typeParameterSuffix_cons, String.append_left_inj,
    String.append_right_inj]

/-- Accepted parameters are not empty, so there are some where there is text between the
brackets. -/
theorem typeParameterSuffix_eq_iff {component : Component}
    (passes : ∀ value ∈ parameters, checkQualified component value = .ok ())
    (passes' : ∀ value ∈ parameters', checkQualified component value = .ok ()) :
    typeParameterSuffix parameters = typeParameterSuffix parameters' ↔
      ",".intercalate parameters = ",".intercalate parameters' := by
  have shown : ∀ {first : String} {rest : List String},
      (∀ value ∈ first :: rest, checkQualified component value = .ok ()) →
      ",".intercalate (first :: rest) ≠ "" := by
    intro first rest passes empty
    exact ne_nil_of_checkQualified (checkQualified_intercalate passes) (by rw [empty]; rfl)
  match parameters, parameters' with
  | [], [] => simp
  | [], first :: rest =>
      exact iff_of_false typeParameterSuffix_cons_ne_nil.symm (shown passes').symm
  | first :: rest, [] => exact iff_of_false typeParameterSuffix_cons_ne_nil (shown passes)
  | first :: rest, first' :: rest' => exact typeParameterSuffix_cons_inj

/-- Parameters without commas are read back. -/
theorem typeParameterSuffix_inj (clean : ∀ parameter ∈ parameters, ',' ∉ parameter.toList)
    (clean' : ∀ parameter ∈ parameters', ',' ∉ parameter.toList) :
    typeParameterSuffix parameters = typeParameterSuffix parameters' ↔
      parameters = parameters' := by
  refine ⟨?_, congrArg typeParameterSuffix⟩
  intro same
  match parameters, parameters' with
  | [], [] => rfl
  | [], first :: rest => exact absurd same.symm typeParameterSuffix_cons_ne_nil
  | first :: rest, [] => exact absurd same typeParameterSuffix_cons_ne_nil
  | first :: rest, first' :: rest' =>
      exact (intercalate_inj rfl clean clean' (List.cons_ne_nil _ _) (List.cons_ne_nil _ _)).mp
        (typeParameterSuffix_cons_inj.mp same)

end Lists

/-! ## Types -/

section Types

variable {name name' : String} {parameters parameters' : List String} {key key' : Key}

/-- The string of a type is itself accepted as a name. -/
theorem ofType_canonical (keyed : Key.ofType name parameters = .ok key) :
    Key.ofType key.canonical [] = .ok key := by
  obtain ⟨named, listed, rfl⟩ := Key.ofType_eq_ok_iff.mp keyed
  refine Key.ofType_eq_ok_iff.mpr ⟨?_, rfl, by simp [typeParameterSuffix]⟩
  cases parameters with
  | nil => simpa [typeParameterSuffix] using named
  | cons first rest =>
      have inside := checkQualified_intercalate (checkAllQualified_eq_ok_iff.mp listed)
      have opened : checkQualified .typeName (name ++ "<" ++ ",".intercalate (first :: rest)) =
          .ok () :=
        checkQualified_append isMark_opening named (checkQualified_eq_ok_iff.mp inside).2 (by simp)
      have closed : (name ++ typeParameterSuffix (first :: rest)).toList =
          (name ++ "<" ++ ",".intercalate (first :: rest)).toList ++ ['>'] := by
        simp [typeParameterSuffix_cons]
      exact checkQualified_append isMark_closing opened rfl closed

/-- Two parameters of a type make one with a comma in it. -/
theorem ofType_merged {first second : String} {front back : List String}
    (keyed : Key.ofType name (front ++ first :: second :: back) = .ok key) :
    Key.ofType name (front ++ (first ++ "," ++ second) :: back) = .ok key := by
  obtain ⟨named, listed, rfl⟩ := Key.ofType_eq_ok_iff.mp keyed
  have passes := checkAllQualified_eq_ok_iff.mp listed
  have merged : checkQualified .typeParameter (first ++ "," ++ second) = .ok () :=
    checkQualified_append isMark_comma (passes first (by simp))
      (checkQualified_eq_ok_iff.mp (passes second (by simp))).2 (by simp)
  refine Key.ofType_eq_ok_iff.mpr ⟨named, checkAllQualified_eq_ok_iff.mpr ?_, ?_⟩
  · intro value member
    rcases List.mem_append.mp member with before | behind
    · exact passes value (by simp [before])
    · rcases List.mem_cons.mp behind with rfl | later
      · exact merged
      · exact passes value (by simp [later])
  · rw [typeParameterSuffix_merged]

/-- A name is another one that goes on with an opening bracket, as if type parameters followed. -/
def GoesOn (name shorter : String) : Prop := ∃ rest, name = shorter ++ "<" ++ rest

theorem GoesOn.bracket_mem (goesOn : GoesOn name name') : '<' ∈ name.toList := by
  obtain ⟨rest, rfl⟩ := goesOn
  simp

/-- Text that stands between a name and the type parameters of another one is the beginning of those
of the first. -/
theorem goesOn_of_moved {moved : List Char} (longer : name'.toList = name.toList ++ moved)
    (behind : (typeParameterSuffix parameters).toList =
      moved ++ (typeParameterSuffix parameters').toList) : name = name' ∨ GoesOn name' name := by
  cases moved with
  | nil => exact .inl (String.toList_inj.mp (by simpa using longer.symm))
  | cons head more =>
      rcases typeParameterSuffix_eq parameters with none | ⟨inside, suffix⟩
      · rw [none] at behind
        cases behind
      · rw [suffix, List.cons_append, List.cons.injEq] at behind
        obtain ⟨rfl, _⟩ := behind
        exact .inr ⟨String.ofList more, String.toList_inj.mp (by simpa using longer)⟩

/-- Types of equal strings have equal names, or one name goes on where the other ends. -/
theorem names_of_canonical_eq
    (same : name ++ typeParameterSuffix parameters = name' ++ typeParameterSuffix parameters') :
    name = name' ∨ GoesOn name name' ∨ GoesOn name' name := by
  have lists : name.toList ++ (typeParameterSuffix parameters).toList =
      name'.toList ++ (typeParameterSuffix parameters').toList := by
    simpa using congrArg String.toList same
  rcases List.append_eq_append_iff.mp lists with ⟨moved, longer, behind⟩ | ⟨moved, longer, behind⟩
  · rcases goesOn_of_moved longer behind with names | goesOn
    · exact .inl names
    · exact .inr (.inr goesOn)
  · rcases goesOn_of_moved longer behind with names | goesOn
    · exact .inl names.symm
    · exact .inr (.inl goesOn)

/-- When types have equal strings. Their names are equal, or one goes on with a bracket where the
other ends. If the names are equal, what stands between the brackets is. So without brackets in the
names and commas in the parameters, the names are equal and the parameters are.

With them it is otherwise: the string of any type is that of a type without parameters, and where
there are two parameters it is that of a type with one in place of both. -/
theorem typeKey_canonical_iff (keyed : Key.ofType name parameters = .ok key)
    (keyed' : Key.ofType name' parameters' = .ok key') :
    (key.canonical = key'.canonical → name = name' ∨ GoesOn name name' ∨ GoesOn name' name) ∧
    (name = name' → (key.canonical = key'.canonical ↔
      ",".intercalate parameters = ",".intercalate parameters')) ∧
    ('<' ∉ name.toList → '<' ∉ name'.toList →
      (∀ parameter ∈ parameters, ',' ∉ parameter.toList) →
      (∀ parameter ∈ parameters', ',' ∉ parameter.toList) →
      (key.canonical = key'.canonical ↔ name = name' ∧ parameters = parameters')) ∧
    Key.ofType key.canonical [] = .ok key ∧
    ∀ front first second back, parameters = front ++ first :: second :: back →
      Key.ofType name (front ++ (first ++ "," ++ second) :: back) = .ok key := by
  have asName := ofType_canonical keyed
  have merged : ∀ front first second back, parameters = front ++ first :: second :: back →
      Key.ofType name (front ++ (first ++ "," ++ second) :: back) = .ok key := by
    rintro front first second back rfl
    exact ofType_merged keyed
  obtain ⟨_, listed, rfl⟩ := Key.ofType_eq_ok_iff.mp keyed
  obtain ⟨_, listed', rfl⟩ := Key.ofType_eq_ok_iff.mp keyed'
  refine ⟨names_of_canonical_eq, ?_, ?_, asName, merged⟩
  · rintro rfl
    rw [String.append_right_inj, typeParameterSuffix_eq_iff (checkAllQualified_eq_ok_iff.mp listed)
      (checkAllQualified_eq_ok_iff.mp listed')]
  · intro clean clean' plain plain'
    constructor
    · intro same
      rcases names_of_canonical_eq same with rfl | goesOn | goesOn
      · rw [String.append_right_inj, typeParameterSuffix_inj plain plain'] at same
        exact ⟨rfl, same⟩
      · exact absurd goesOn.bracket_mem clean
      · exact absurd goesOn.bracket_mem clean'
    · rintro ⟨rfl, rfl⟩
      rfl

end Types

/-- A map and an entry of it: without brackets in the names and commas in the parameters they are
told apart. The string of the map is also accepted as a name. -/
theorem plainTypes_apart :
    ∃ key key', Key.ofType "p.Map" ["K", "? super V"] = .ok key ∧
      Key.ofType "p.Map.Entry" ["K", "? super V"] = .ok key' ∧ key.canonical ≠ key'.canonical ∧
      Key.ofType "p.Map<K,? super V>" [] = .ok key := by
  have keyed : Key.ofType "p.Map" ["K", "? super V"] = .ok ⟨"p.Map<K,? super V>"⟩ := rfl
  have keyed' : Key.ofType "p.Map.Entry" ["K", "? super V"] =
      .ok ⟨"p.Map.Entry<K,? super V>"⟩ := rfl
  obtain ⟨_, _, plain, asName, _⟩ := typeKey_canonical_iff keyed keyed'
  refine ⟨_, _, keyed, keyed', ?_, asName⟩
  intro same
  have parts := (plain (by decide) (by decide) (by decide) (by decide)).mp same
  exact absurd parts.1 (by decide)

/-- A pair with two type parameters, one with a single parameter that has a comma in it, and a type
with brackets in its name and no parameters are all accepted, with one string. -/
theorem typeKeys_meet :
    Key.ofType "Pair" ["K", "V"] = .ok ⟨"Pair<K,V>"⟩ ∧
      Key.ofType "Pair" ["K,V"] = .ok ⟨"Pair<K,V>"⟩ ∧
      Key.ofType "Pair<K,V>" [] = .ok ⟨"Pair<K,V>"⟩ ∧
      ["K", "V"] ≠ ["K,V"] ∧ "Pair" ≠ "Pair<K,V>" :=
  ⟨rfl, rfl, rfl, by decide, by decide⟩

end CodeIndex
