import CodeIndex.Proofs.TypeNesting
import CodeIndex.Text.Digit

/-!
# Flaws in parts of names

A name that is made up for a type is checked when it is whole. Its parts, the package, the simple
names of the types that are walked and the name of the first one with a binding, are not, and what
stands beside a part may cover what would be refused in it alone.

* `Flawed`: what the check of a whole name sees of a part in its place, and `Covered`: what it does
  not see there, but would in the part alone. `flawed_alone_iff`: what is flawed alone is refused.
* `flawed_append_iff`: two texts at a joint are flawed where one of them is in its place;
  `flawed_chars_iff`: so is a name where one of its parts is.
* `MadeOf`: the parts of the name that is made up for a type, from the outside in.
* `identity_fails_iff_flawed`: a type without a binding has no identity exactly where a part of its
  name is flawed in its place, or a type parameter is refused, or there is no name at all. An empty
  name behind an offset goes unnoticed (`namelessTypes_unnoticed`).
-/

namespace CodeIndex

open Text

/-! ## Flaws -/

/-- What a part of a name ends at: the end of the name, a full stop, or a dollar sign and an
offset. -/
inductive Joint where
  | edge
  | stop
  | offset
deriving DecidableEq, Repr

/-- The text at a joint inside of a name. -/
inductive Joint.Reads : Joint → List Char → Prop
  | stop : Reads .stop ['.']
  | offset (start : Nat) : Reads .offset ('$' :: (toString start).toList)

/-- What the check of a name sees of a text between two joints. -/
inductive Flawed (before : Joint) (text : List Char) (after : Joint) : Prop
  | control {c : Char} (member : c ∈ text) (isControl : isControl c = true)
  | doubleStop (double : hasDoubleDot text = true)
  | leadingBlank {c : Char} (atEdge : before = .edge) (first : text.head? = some c)
      (blank : isBlank c = true)
  | trailingBlank {c : Char} (atEdge : after = .edge) (last : text.getLast? = some c)
      (blank : isBlank c = true)
  | leadingStop (notOffset : before ≠ .offset) (first : text.head? = some '.')
  | trailingStop (notOffset : after ≠ .offset) (last : text.getLast? = some '.')
  | empty (notOffset : before ≠ .offset) (notOffset' : after ≠ .offset) (empty : text = [])

/-- What it does not see of a text between two joints, but would if the text stood alone. -/
inductive Covered (before : Joint) (text : List Char) (after : Joint) : Prop
  | leadingBlank {c : Char} (inside : before ≠ .edge) (first : text.head? = some c)
      (blank : isBlank c = true)
  | trailingBlank {c : Char} (inside : after ≠ .edge) (last : text.getLast? = some c)
      (blank : isBlank c = true)
  | leadingStop (offset : before = .offset) (first : text.head? = some '.')
  | trailingStop (offset : after = .offset) (last : text.getLast? = some '.')
  | empty (offset : before = .offset ∨ after = .offset) (empty : text = [])

section Flaws

variable {before after joint : Joint} {text rest middle : List Char}

/-- What the check asks of a name, whether or not it is blank. -/
theorem isQualifiedName_iff :
    isQualifiedName text = true ↔
      (∀ c, text.head? = some c → isBlank c = false) ∧
      (∀ c, text.getLast? = some c → isBlank c = false) ∧
      (∀ c ∈ text, isControl c = false) ∧
      text.head? ≠ some '.' ∧ text.getLast? ≠ some '.' ∧ hasDoubleDot text = false := by
  simp [isQualifiedName, isTrimmed, and_assoc, Option.any_eq_false]

/-- Of texts that stand alone the check refuses those that are flawed. -/
theorem flawed_alone_iff {component : Component} {value : String} :
    Flawed .edge value.toList .edge ↔ checkQualified component value ≠ .ok () := by
  rw [ne_eq, checkQualified_eq_ok_iff, isQualifiedName_iff]
  constructor
  · rintro flawed ⟨shown, first, last, printed, noStop, noStop', single⟩
    cases flawed with
    | control member isControl => exact absurd isControl (by simp [printed _ member])
    | doubleStop double => exact absurd double (by simp [single])
    | leadingBlank _ atFirst blank => exact absurd blank (by simp [first _ atFirst])
    | trailingBlank _ atLast blank => exact absurd blank (by simp [last _ atLast])
    | leadingStop _ atFirst => exact noStop atFirst
    | trailingStop _ atLast => exact noStop' atLast
    | empty _ _ empty => exact absurd shown (by simp [empty])
  · intro refused
    by_contra clean
    refine refused ⟨?_, ?_, ?_, ?_, ?_, ?_, ?_⟩
    · cases chars : value.toList with
      | nil => exact absurd (.empty (by decide) (by decide) chars) clean
      | cons head tail =>
          have shown : isBlank head = false :=
            Bool.eq_false_iff.mpr fun blank => clean (.leadingBlank rfl (chars ▸ rfl) blank)
          simp [shown]
    · exact fun c first => Bool.eq_false_iff.mpr fun blank => clean (.leadingBlank rfl first blank)
    · exact fun c last => Bool.eq_false_iff.mpr fun blank => clean (.trailingBlank rfl last blank)
    · exact fun c member => Bool.eq_false_iff.mpr fun control => clean (.control member control)
    · exact fun first => clean (.leadingStop (by decide) first)
    · exact fun last => clean (.trailingStop (by decide) last)
    · exact Bool.eq_false_iff.mpr fun double => clean (.doubleStop double)

/-- What is flawed alone is so in its place, or covered there. -/
theorem flawed_or_covered_iff :
    Flawed before text after ∨ Covered before text after ↔ Flawed .edge text .edge := by
  constructor
  · rintro (flawed | covered)
    · cases flawed with
      | control member isControl => exact .control member isControl
      | doubleStop double => exact .doubleStop double
      | leadingBlank _ first blank => exact .leadingBlank rfl first blank
      | trailingBlank _ last blank => exact .trailingBlank rfl last blank
      | leadingStop _ first => exact .leadingStop (by decide) first
      | trailingStop _ last => exact .trailingStop (by decide) last
      | empty _ _ empty => exact .empty (by decide) (by decide) empty
    · cases covered with
      | leadingBlank _ first blank => exact .leadingBlank rfl first blank
      | trailingBlank _ last blank => exact .trailingBlank rfl last blank
      | leadingStop _ first => exact .leadingStop (by decide) first
      | trailingStop _ last => exact .trailingStop (by decide) last
      | empty _ empty => exact .empty (by decide) (by decide) empty
  · intro alone
    cases alone with
    | control member isControl => exact .inl (.control member isControl)
    | doubleStop double => exact .inl (.doubleStop double)
    | leadingBlank _ first blank =>
        by_cases atEdge : before = .edge
        · exact .inl (.leadingBlank atEdge first blank)
        · exact .inr (.leadingBlank atEdge first blank)
    | trailingBlank _ last blank =>
        by_cases atEdge : after = .edge
        · exact .inl (.trailingBlank atEdge last blank)
        · exact .inr (.trailingBlank atEdge last blank)
    | leadingStop _ first =>
        by_cases offset : before = .offset
        · exact .inr (.leadingStop offset first)
        · exact .inl (.leadingStop offset first)
    | trailingStop _ last =>
        by_cases offset : after = .offset
        · exact .inr (.trailingStop offset last)
        · exact .inl (.trailingStop offset last)
    | empty _ _ empty =>
        by_cases offset : before = .offset ∨ after = .offset
        · exact .inr (.empty offset empty)
        · obtain ⟨notOffset, notOffset'⟩ := not_or.mp offset
          exact .inl (.empty notOffset notOffset' empty)

/-- Behind an offset nothing is no flaw. -/
theorem not_flawed_nil : ¬ Flawed .offset [] after := by
  intro flawed
  cases flawed with
  | control member => cases member
  | doubleStop double => cases double
  | leadingBlank _ first => cases first
  | trailingBlank _ last => cases last
  | leadingStop _ first => cases first
  | trailingStop _ last => cases last
  | empty notOffset => exact notOffset rfl

/-! ## Joints -/

namespace Joint.Reads

theorem ne_edge (reads : joint.Reads middle) : joint ≠ .edge := by
  cases reads <;> decide

theorem ne_nil (reads : joint.Reads middle) : middle ≠ [] := by
  cases reads <;> exact List.cons_ne_nil _ _

/-- Full stops, dollar signs and digits are visible. -/
theorem visible (reads : joint.Reads middle) {c : Char} (member : c ∈ middle) :
    0x21 ≤ c.toNat ∧ c.toNat ≤ 0x7E := by
  cases reads with
  | stop =>
      obtain rfl := List.mem_singleton.mp member
      decide
  | offset start =>
      rcases List.mem_cons.mp member with rfl | digit
      · decide
      · exact visible_of_isDigit (isDigit_of_mem_toString digit)

theorem isBlank_eq_false (reads : joint.Reads middle) {c : Char} (member : c ∈ middle) :
    isBlank c = false :=
  isBlank_of_visible (reads.visible member).1 (reads.visible member).2

theorem isControl_eq_false (reads : joint.Reads middle) {c : Char} (member : c ∈ middle) :
    isControl c = false :=
  isControl_of_visible (reads.visible member).1 (reads.visible member).2

theorem head?_eq_stop_iff (reads : joint.Reads middle) :
    middle.head? = some '.' ↔ joint ≠ .offset := by
  cases reads <;> simp

theorem getLast?_eq_stop_iff (reads : joint.Reads middle) :
    middle.getLast? = some '.' ↔ joint ≠ .offset := by
  cases reads with
  | stop => simp
  | offset start =>
      refine iff_of_false ?_ (fun notOffset => notOffset rfl)
      intro last
      rcases List.mem_cons.mp (List.mem_of_getLast? last) with dollar | digit
      · exact absurd dollar (by decide)
      · exact not_mem_toString (by decide) digit

theorem hasDoubleDot_eq_false (reads : joint.Reads middle) : hasDoubleDot middle = false := by
  cases reads with
  | stop => rfl
  | offset start =>
      refine Bool.eq_false_iff.mpr fun double => ?_
      rcases hasDoubleDot_cons.mp double with ⟨dollar, _⟩ | digits
      · exact absurd dollar (by decide)
      · exact not_mem_toString (by decide) (mem_of_hasDoubleDot digits)

/-- Two full stops stand side by side where two texts meet at a joint if they do in one of the
texts, or if the joint is a full stop and one of the texts has another one beside it. -/
theorem hasDoubleDot_append_iff (reads : joint.Reads middle) :
    hasDoubleDot (text ++ (middle ++ rest)) = true ↔
      hasDoubleDot text = true ∨ (joint ≠ .offset ∧ text.getLast? = some '.') ∨
        (joint ≠ .offset ∧ rest.head? = some '.') ∨ hasDoubleDot rest = true := by
  rw [hasDoubleDot_append, hasDoubleDot_append, reads.hasDoubleDot_eq_false,
    List.head?_append_of_ne_nil _ reads.ne_nil, reads.head?_eq_stop_iff, reads.getLast?_eq_stop_iff]
  simp [and_comm]

theorem head?_append_eq_some_iff (reads : joint.Reads middle) {c : Char} :
    (text ++ (middle ++ rest)).head? = some c ↔
      text.head? = some c ∨ text = [] ∧ middle.head? = some c := by
  cases text with
  | nil => simp [List.head?_append_of_ne_nil _ reads.ne_nil]
  | cons head tail => simp

theorem getLast?_append_eq_some_iff (reads : joint.Reads middle) {c : Char} :
    (text ++ (middle ++ rest)).getLast? = some c ↔
      rest.getLast? = some c ∨ rest = [] ∧ middle.getLast? = some c := by
  rw [← List.append_assoc]
  rcases List.eq_nil_or_concat rest with rfl | ⟨init, last, rfl⟩
  · simp [List.getLast?_append_of_ne_nil _ reads.ne_nil]
  · simp

/-- What is flawed in a text of two with a joint between them is so in one of them. -/
theorem flawed_of_append (reads : joint.Reads middle)
    (flawed : Flawed before (text ++ (middle ++ rest)) after) :
    Flawed before text joint ∨ Flawed joint rest after := by
  cases flawed with
  | control member isControl =>
      rcases List.mem_append.mp member with left | member
      · exact .inl (.control left isControl)
      · rcases List.mem_append.mp member with between | right
        · exact absurd isControl (by simp [reads.isControl_eq_false between])
        · exact .inr (.control right isControl)
  | doubleStop double =>
      rcases reads.hasDoubleDot_append_iff.mp double with
        left | ⟨isStop, last⟩ | ⟨isStop, first⟩ | right
      · exact .inl (.doubleStop left)
      · exact .inl (.trailingStop isStop last)
      · exact .inr (.leadingStop isStop first)
      · exact .inr (.doubleStop right)
  | leadingBlank atEdge first blank =>
      rcases reads.head?_append_eq_some_iff.mp first with left | ⟨_, between⟩
      · exact .inl (.leadingBlank atEdge left blank)
      · exact absurd blank (by simp [reads.isBlank_eq_false (List.mem_of_head? between)])
  | trailingBlank atEdge last blank =>
      rcases reads.getLast?_append_eq_some_iff.mp last with right | ⟨_, between⟩
      · exact .inr (.trailingBlank atEdge right blank)
      · exact absurd blank (by simp [reads.isBlank_eq_false (List.mem_of_getLast? between)])
  | leadingStop notOffset first =>
      -- at the beginning the joint itself may show: then nothing stands before it
      rcases reads.head?_append_eq_some_iff.mp first with left | ⟨nothing, between⟩
      · exact .inl (.leadingStop notOffset left)
      · exact .inl (.empty notOffset (reads.head?_eq_stop_iff.mp between) nothing)
  | trailingStop notOffset last =>
      rcases reads.getLast?_append_eq_some_iff.mp last with right | ⟨nothing, between⟩
      · exact .inr (.trailingStop notOffset right)
      · exact .inr (.empty (reads.getLast?_eq_stop_iff.mp between) notOffset nothing)
  | empty _ _ empty => exact absurd empty (by simp [reads.ne_nil])

theorem flawed_append_left (reads : joint.Reads middle) (left : Flawed before text joint) :
    Flawed before (text ++ (middle ++ rest)) after := by
  cases left with
  | control member isControl => exact .control (List.mem_append_left _ member) isControl
  | doubleStop double => exact .doubleStop (reads.hasDoubleDot_append_iff.mpr (.inl double))
  | leadingBlank atEdge first blank =>
      exact .leadingBlank atEdge (reads.head?_append_eq_some_iff.mpr (.inl first)) blank
  | trailingBlank atEdge => exact absurd atEdge reads.ne_edge
  | leadingStop notOffset first =>
      exact .leadingStop notOffset (reads.head?_append_eq_some_iff.mpr (.inl first))
  | trailingStop isStop last =>
      exact .doubleStop (reads.hasDoubleDot_append_iff.mpr (.inr (.inl ⟨isStop, last⟩)))
  | empty notOffset isStop nothing =>
      exact .leadingStop notOffset (reads.head?_append_eq_some_iff.mpr
        (.inr ⟨nothing, reads.head?_eq_stop_iff.mpr isStop⟩))

theorem flawed_append_right (reads : joint.Reads middle) (right : Flawed joint rest after) :
    Flawed before (text ++ (middle ++ rest)) after := by
  cases right with
  | control member isControl =>
      exact .control (List.mem_append_right _ (List.mem_append_right _ member)) isControl
  | doubleStop double =>
      exact .doubleStop (reads.hasDoubleDot_append_iff.mpr (.inr (.inr (.inr double))))
  | leadingBlank atEdge => exact absurd atEdge reads.ne_edge
  | trailingBlank atEdge last blank =>
      exact .trailingBlank atEdge (reads.getLast?_append_eq_some_iff.mpr (.inl last)) blank
  | leadingStop isStop first =>
      exact .doubleStop (reads.hasDoubleDot_append_iff.mpr (.inr (.inr (.inl ⟨isStop, first⟩))))
  | trailingStop notOffset last =>
      exact .trailingStop notOffset (reads.getLast?_append_eq_some_iff.mpr (.inl last))
  | empty isStop notOffset nothing =>
      exact .trailingStop notOffset (reads.getLast?_append_eq_some_iff.mpr
        (.inr ⟨nothing, reads.getLast?_eq_stop_iff.mpr isStop⟩))

/-- A text of two with a joint between them is flawed where one of them is in its place. -/
theorem flawed_append_iff (reads : joint.Reads middle) :
    Flawed before (text ++ (middle ++ rest)) after ↔
      Flawed before text joint ∨ Flawed joint rest after :=
  ⟨reads.flawed_of_append, fun flawed =>
    flawed.elim reads.flawed_append_left reads.flawed_append_right⟩

end Joint.Reads

end Flaws

/-! ## Names by their parts -/

/-- What a type inside of another one adds to the name: a joint, and its simple name if it has
one. -/
inductive Level where
  | member (name : String)
  | localType (start : Nat) (name : String)
  | anonymous (start : Nat)
deriving DecidableEq, Repr

namespace Level

def joint : Level → Joint
  | .member _ => .stop
  | .localType _ _ => .offset
  | .anonymous _ => .offset

/-- The text at the joint. -/
def separator : Level → String
  | .member _ => "."
  | .localType start _ => "$" ++ toString start
  | .anonymous start => "$" ++ toString start

/-- The simple name, which an anonymous class does not have. -/
def name? : Level → Option String
  | .member name => some name
  | .localType _ name => some name
  | .anonymous _ => none

def text (level : Level) : String := level.separator ++ level.name?.getD ""

theorem reads (level : Level) : level.joint.Reads level.separator.toList := by
  cases level with
  | member name => simpa [joint, separator] using Joint.Reads.stop
  | localType start name => simpa [joint, separator] using Joint.Reads.offset start
  | anonymous start => simpa [joint, separator] using Joint.Reads.offset start

end Level

/-- A name, from the outside in. -/
def composed (outermost : String) (levels : List Level) : String :=
  levels.foldl (· ++ ·.text) outermost

theorem composed_concat (outermost : String) (levels : List Level) (level : Level) :
    composed outermost (levels ++ [level]) = composed outermost levels ++ level.text := by
  simp [composed]

theorem toList_composed (outermost : String) (levels : List Level) :
    (composed outermost levels).toList = outermost.toList ++ levels.flatMap (·.text.toList) := by
  induction levels generalizing outermost with
  | nil => simp [composed]
  | cons level rest ih =>
      rw [composed, List.foldl_cons, ← composed, ih]
      simp

/-- A part of a name, with what stands before and behind it. -/
structure Part where
  before : Joint
  text : String
  after : Joint
deriving DecidableEq, Repr

/-- The part is flawed in its place. -/
def Part.IsFlawed (part : Part) : Prop := Flawed part.before part.text.toList part.after

/-- What stands beside the part covers a flaw in it. -/
def Part.IsCovered (part : Part) : Prop := Covered part.before part.text.toList part.after

/-- What stands behind a part, by the levels that follow. -/
def behind : List Level → Joint
  | [] => .edge
  | level :: _ => level.joint

/-- The simple names of levels, in their places. -/
def levelParts : List Level → List Part
  | [] => []
  | level :: rest =>
    (level.name?.map fun name => ⟨level.joint, name, behind rest⟩).toList ++ levelParts rest

/-- The parts of a name, in their places. -/
def parts (outermost : String) (levels : List Level) : List Part :=
  ⟨.edge, outermost, behind levels⟩ :: levelParts levels

/-- A text with levels behind it is flawed where it is itself in its place, or one of the names of
the levels. -/
theorem flawed_chars_iff {before : Joint} {text : List Char} {levels : List Level} :
    Flawed before (text ++ levels.flatMap (·.text.toList)) .edge ↔
      Flawed before text (behind levels) ∨ ∃ part ∈ levelParts levels, part.IsFlawed := by
  induction levels generalizing before text with
  | nil => simp [behind, levelParts]
  | cons level rest ih =>
      have split : text ++ (level :: rest).flatMap (·.text.toList) =
          text ++ (level.separator.toList ++
            ((level.name?.getD "").toList ++ rest.flatMap (·.text.toList))) := by
        simp [Level.text]
      rw [split, level.reads.flawed_append_iff, ih, behind]
      cases level with
      | member name => simp [levelParts, Level.name?, Part.IsFlawed]
      | localType start name => simp [levelParts, Level.name?, Part.IsFlawed]
      | anonymous start => simp [levelParts, Level.name?, Level.joint, not_flawed_nil]

/-- The check of a whole name refuses it where one of its parts is flawed in its place. -/
theorem checkQualified_composed_iff {component : Component} {outermost : String}
    {levels : List Level} :
    checkQualified component (composed outermost levels) ≠ .ok () ↔
      ∃ part ∈ parts outermost levels, part.IsFlawed := by
  rw [← flawed_alone_iff, toList_composed, flawed_chars_iff]
  simp [parts, Part.IsFlawed]

/-! ## The parts of made-up names -/

namespace SourceUnit

variable {unit : SourceUnit} {id : NodeId} {node : SyntaxNode}

/-- What a type without a binding adds to the name of the type around it. -/
inductive LevelOf (unit : SourceUnit) (id : NodeId) (node : SyntaxNode) : Level → Prop
  | member {decl : TypeDecl} (kind : node.kind = .namedType decl)
      (inType : ¬ unit.StandsInBody id) : LevelOf unit id node (.member decl.name)
  | localType {decl : TypeDecl} (kind : node.kind = .namedType decl)
      (inBody : unit.StandsInBody id) : LevelOf unit id node (.localType node.start decl.name)
  | anonymous {body : AnonymousClass} (kind : node.kind = .anonymousClass body) :
      LevelOf unit id node (.anonymous node.start)

/-- What the name of a type is made of: the name of the first type on the way outward that has a
binding, or else the package, if there is one, and the name of the outermost type; and behind that
what each type inside adds. -/
inductive MadeOf (unit : SourceUnit) : NodeId → String → List Level → Prop
  | bound {id : NodeId} {node : SyntaxNode} {binding : TypeBinding}
      (present : unit.node? id = some node) (bound : node.kind.typeBinding = some binding) :
      MadeOf unit id binding.qualifiedName []
  | topLevel {id : NodeId} {node : SyntaxNode} {decl : TypeDecl}
      (present : unit.node? id = some node) (kind : node.kind = .namedType decl)
      (unbound : decl.binding = none) (outermost : unit.enclosingType? id = none)
      (noPackage : unit.package = none ∨ unit.package = some "") :
      MadeOf unit id decl.name []
  | inPackage {id : NodeId} {node : SyntaxNode} {decl : TypeDecl} {package : String}
      (present : unit.node? id = some node) (kind : node.kind = .namedType decl)
      (unbound : decl.binding = none) (outermost : unit.enclosingType? id = none)
      (inPackage : unit.package = some package) (named : package ≠ "") :
      MadeOf unit id package [.member decl.name]
  | nested {id outer : NodeId} {node : SyntaxNode} {level : Level} {outermost : String}
      {levels : List Level} (present : unit.node? id = some node)
      (unbound : node.kind.typeBinding = none) (enclosed : unit.enclosingType? id = some outer)
      (isLevel : unit.LevelOf id node level) (around : MadeOf unit outer outermost levels) :
      MadeOf unit id outermost (levels ++ [level])

theorem appends_iff_levelOf {text : String} :
    unit.Appends id node text ↔ ∃ level, unit.LevelOf id node level ∧ text = level.text := by
  constructor
  · rintro (⟨kind, inType⟩ | ⟨kind, inBody⟩ | kind)
    · exact ⟨_, .member kind inType, rfl⟩
    · exact ⟨_, .localType kind inBody, rfl⟩
    · exact ⟨_, .anonymous kind, by simp [Level.text, Level.separator, Level.name?]⟩
  · rintro ⟨_, ⟨kind, inType⟩ | ⟨kind, inBody⟩ | kind, rfl⟩
    · exact .member kind inType
    · exact .localType kind inBody
    · simpa [Level.text, Level.separator, Level.name?] using Appends.anonymous kind

/-- A name by the rule is composed of its parts. -/
theorem inwardName_of_madeOf {outermost : String} {levels : List Level}
    (made : unit.MadeOf id outermost levels) :
    unit.InwardName id (.ok (composed outermost levels)) := by
  induction made with
  | bound present bound => exact .bound present bound
  | topLevel present kind unbound outermost noPackage =>
      exact .topLevel present kind unbound outermost noPackage
  | inPackage present kind unbound outermost inPackage named =>
      have name := InwardName.inPackage present kind unbound outermost inPackage named
      simpa [composed, Level.text, Level.separator, Level.name?, String.append_assoc] using name
  | nested present unbound enclosed isLevel _ ih =>
      rw [composed_concat]
      exact .nested present unbound enclosed (appends_iff_levelOf.mpr ⟨_, isLevel, rfl⟩) ih

theorem madeOf_of_inwardName {result : Except IdentityError String} {name : String}
    (named : unit.InwardName id result) (succeeds : result = .ok name) :
    ∃ outermost levels, unit.MadeOf id outermost levels := by
  induction named generalizing name with
  | bound present bound => exact ⟨_, _, .bound present bound⟩
  | topLevel present kind unbound outermost noPackage =>
      exact ⟨_, _, .topLevel present kind unbound outermost noPackage⟩
  | inPackage present kind unbound outermost inPackage named =>
      exact ⟨_, _, .inPackage present kind unbound outermost inPackage named⟩
  | outermostAnonymous => cases succeeds
  | nested present unbound enclosed appends _ ih =>
      obtain ⟨around, succeeds, _⟩ := map_eq_ok_iff.mp succeeds
      obtain ⟨outermost, levels, made⟩ := ih succeeds
      obtain ⟨level, isLevel, _⟩ := appends_iff_levelOf.mp appends
      exact ⟨_, _, .nested present unbound enclosed isLevel made⟩

/-- Where a type without a binding has an identity, a name has been made for it that passes its
check, and so do the type parameters. -/
theorem exists_identity_iff (present : unit.node? id = some node)
    (typeLike : node.kind.isTypeLike = true) (unbound : node.kind.typeBinding = none) :
    (∃ identity, unit.typeIdentity id = .ok identity) ↔
      ∃ name, unit.InwardName id (.ok name) ∧ checkQualified .typeName name = .ok () ∧
        checkAllQualified .typeParameter node.kind.typeParameters = .ok () := by
  constructor
  · rintro ⟨identity, identified⟩
    obtain ⟨named, formed⟩ := name_of_typeIdentity present typeLike unbound identified
    obtain ⟨passes, passParameters, _⟩ := Key.ofType_eq_ok_iff.mp formed
    exact ⟨_, named, passes, passParameters⟩
  · rintro ⟨name, named, passes, passParameters⟩
    exact ⟨_, typeIdentity_eq_ok present typeLike unbound named (not_comesBack_of_inwardName named)
      (Key.ofType_eq_ok_iff.mpr ⟨passes, passParameters, rfl⟩)⟩

/-- A type without a binding whose name is made of some parts has no identity exactly where one of
these is flawed in its place, or a type parameter is refused. Where no name can be made it has none
either. A part that would be refused alone is flawed in its place, or what stands beside it covers
that: a full stop or an offset covers a blank, an offset a full stop and an empty part. -/
theorem identity_fails_iff_flawed (present : unit.node? id = some node)
    (typeLike : node.kind.isTypeLike = true) (unbound : node.kind.typeBinding = none) :
    ((∀ outermost levels, ¬ unit.MadeOf id outermost levels) →
        ∃ error, unit.typeIdentity id = .error error) ∧
      ∀ outermost levels, unit.MadeOf id outermost levels →
        ((∃ error, unit.typeIdentity id = .error error) ↔
          (∃ part ∈ parts outermost levels, part.IsFlawed) ∨
            checkAllQualified .typeParameter node.kind.typeParameters ≠ .ok ()) ∧
        ∀ part ∈ parts outermost levels,
          checkQualified .typeName part.text ≠ .ok () ↔ part.IsFlawed ∨ part.IsCovered := by
  rw [exists_error_iff, exists_identity_iff present typeLike unbound]
  constructor
  · rintro unmade ⟨name, named, _⟩
    obtain ⟨outermost, levels, made⟩ := madeOf_of_inwardName named rfl
    exact unmade outermost levels made
  · intro outermost levels made
    have named := inwardName_of_madeOf made
    refine ⟨?_, fun part _ => flawed_alone_iff.symm.trans flawed_or_covered_iff.symm⟩
    rw [← checkQualified_composed_iff, ← not_and_or]
    refine not_congr ⟨?_, fun passes => ⟨_, named, passes⟩⟩
    rintro ⟨name, named', passes⟩
    obtain rfl := Except.ok.inj (named.unique named')
    exact passes

end SourceUnit

/-- A class with a method, a class without a name in the method, and another one in that. -/
def namelessTypes : SourceUnit where
  fileId := ⟨1⟩
  source := "class A { void m() { class { class {} } } }"
  nodes := #[
    { start := 0, stop := 43, kind := .namedType { name := "A", binding := some ⟨"A", []⟩ } },
    { parent := some 0, start := 10, stop := 41, kind := .method { name := "m", hasBody := true } },
    { parent := some 1, start := 21, stop := 39, kind := .namedType { name := "" } },
    { parent := some 2, start := 29, stop := 37, kind := .namedType { name := "" } }]

namespace namelessTypes

theorem outer_madeOf : namelessTypes.MadeOf 2 "A" [.localType 21 ""] := by
  have outermost : namelessTypes.node? 0 = some namelessTypes.nodes[0] := rfl
  have inMethod : namelessTypes.node? 2 = some namelessTypes.nodes[2] := rfl
  exact .nested inMethod rfl (by decide : namelessTypes.enclosingType? 2 = some 0)
    (.localType rfl (by decide)) (.bound outermost rfl)

theorem inner_madeOf : namelessTypes.MadeOf 3 "A" [.localType 21 "", .member ""] := by
  have inLocal : namelessTypes.node? 3 = some namelessTypes.nodes[3] := rfl
  exact .nested inLocal rfl (by decide : namelessTypes.enclosingType? 3 = some 2)
    (.member rfl (by decide)) outer_madeOf

end namelessTypes

/-- The name of the inner class ends in a full stop, and it has no identity. -/
theorem namelessTypes_noticed :
    namelessTypes.MadeOf 3 "A" [.localType 21 "", .member ""] ∧
      (⟨.stop, "", .edge⟩ : Part) ∈ parts "A" [.localType 21 "", .member ""] ∧
      ∃ error, namelessTypes.typeIdentity 3 = .error error := by
  have present : namelessTypes.node? 3 = some namelessTypes.nodes[3] := rfl
  have part : (⟨.stop, "", .edge⟩ : Part) ∈ parts "A" [.localType 21 "", .member ""] := by decide
  have flawed : Part.IsFlawed ⟨.stop, "", .edge⟩ := .empty (by decide) (by decide) rfl
  obtain ⟨_, made⟩ := SourceUnit.identity_fails_iff_flawed present rfl rfl
  obtain ⟨fails, _⟩ := made "A" [.localType 21 "", .member ""] namelessTypes.inner_madeOf
  exact ⟨namelessTypes.inner_madeOf, part, fails.mpr (.inl ⟨_, part, flawed⟩)⟩

/-- The name of the outer class is empty as well, which alone would be refused, but it stands behind
an offset, and the class has the identity of an anonymous one. -/
theorem namelessTypes_unnoticed :
    namelessTypes.MadeOf 2 "A" [.localType 21 ""] ∧
      (⟨.offset, "", .edge⟩ : Part) ∈ parts "A" [.localType 21 ""] ∧
      checkQualified .typeName "" = .error (.empty .typeName) ∧
      namelessTypes.typeIdentity 2 = .ok ⟨⟨"A$21"⟩, "A$21", true⟩ := by
  have present : namelessTypes.node? 2 = some namelessTypes.nodes[2] := rfl
  have named : namelessTypes.InwardName 2 (.ok "A$21") :=
    SourceUnit.inwardName_of_madeOf namelessTypes.outer_madeOf
  exact ⟨namelessTypes.outer_madeOf, by decide, rfl, SourceUnit.typeIdentity_eq_ok present rfl rfl
    named (SourceUnit.not_comesBack_of_inwardName named) rfl⟩

end CodeIndex
