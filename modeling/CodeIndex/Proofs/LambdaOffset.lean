import CodeIndex.Proofs.Ancestry
import CodeIndex.Proofs.Identified
import CodeIndex.Proofs.Overloads

/-!
# Offsets of lambdas

The start of a lambda stands in front of its own canonical string, and of those of methods in
anonymous classes that are written in it, so that what is written twice is told apart.

* `UnderLambda` says which nodes these are, by the way up from the node, however long it is and
  wherever it leads.
* `offset_append_inj`: a number in front of a text is read back, whatever the text begins with.
* `identity_underLambda`: behind the offset stands the string that the node would have outside of
  lambdas (`Signature.keyIn`).
* `underLambda_canonical_iff`: equal strings have equal offsets, and for nodes of one signature in
  types of one string that is all they depend on.
-/

namespace CodeIndex

open Text

/-- The key that a method of this signature has in a type, outside of lambdas. -/
def Signature.keyIn (signature : Signature) (owner : Key) : Except IdentityError Key :=
  Key.ofMethod owner signature.returnType.name signature.name
    (signature.parameters.map (·.name)) none

/-- Two signatures read alike: name, return type and parameter types are the same words, resolved
or not. -/
structure Signature.ReadsLike (signature other : Signature) : Prop where
  name : signature.name = other.name
  returnType : signature.returnType.name = other.returnType.name
  parameters : signature.parameters.map (·.name) = other.parameters.map (·.name)

theorem Signature.ReadsLike.keyIn_eq {signature other : Signature} {owner owner' : Key}
    (alike : signature.ReadsLike other) (sameOwner : owner.canonical = owner'.canonical) :
    signature.keyIn owner = other.keyIn owner' := by
  obtain rfl : owner = owner' := congrArg Key.mk sameOwner
  unfold keyIn
  rw [alike.name, alike.returnType, alike.parameters]

/-- A number and a space in front of a text: both are read back, since digits are no spaces. -/
theorem offset_append_inj {offset offset' : Nat} {rest rest' : String} :
    toString offset ++ " " ++ rest = toString offset' ++ " " ++ rest' ↔
      offset = offset' ∧ rest = rest' := by
  constructor
  · intro same
    have lists : (toString offset).toList ++ ' ' :: rest.toList =
        (toString offset').toList ++ ' ' :: rest'.toList := by
      simpa using congrArg String.toList same
    obtain ⟨digits, behind⟩ :=
      first_part_unique space_not_mem_toString space_not_mem_toString lists
    exact ⟨toString_inj.mp (String.toList_inj.mp digits), String.toList_inj.mp behind⟩
  · rintro ⟨rfl, rfl⟩
    rfl

/-! ## Nodes under lambdas -/

namespace SourceUnit

variable {unit : SourceUnit} {id : NodeId} {offset : Nat} {signature : Signature}
  {identity : NodeIdentity}

/-- A lambda that is the first scope on the way up is what the search among ancestors finds. -/
theorem inLambda_of_firstAbove {steps : Nat} {lambda : NodeId} {opener : SyntaxNode}
    {body : LambdaDecl} (above : unit.FirstAbove (·.kind.scopeKind.isSome) id steps lambda opener)
    (isLambda : opener.kind = .lambda body) : unit.InLambda id opener.start := by
  have found := nearest?_eq_some_iff.mpr ⟨steps, above⟩
  rw [nearest?_eq_find?_ancestors] at found
  exact ⟨lambda, opener, body, found, isLambda, rfl⟩

/-- A lambda itself, or a method on whose way up a lambda stands before any named type, method or
other lambda, with the start of the lambda and the signature of the node. Anonymous classes and
nodes that open no scope may stand in between. -/
inductive UnderLambda (unit : SourceUnit) (id : NodeId) : Nat → Signature → Prop
  | lambda {node : SyntaxNode} {decl : LambdaDecl} (present : unit.node? id = some node)
      (kind : node.kind = .lambda decl) :
      UnderLambda unit id node.start
        ⟨decl.name.getD "lambda", decl.returnType.getD .void, decl.parameters⟩
  | method {node opener : SyntaxNode} {decl : MethodDecl} {body : LambdaDecl} {steps : Nat}
      {lambda : NodeId} (present : unit.node? id = some node) (kind : node.kind = .method decl)
      (above : unit.FirstAbove (·.kind.scopeKind.isSome) id steps lambda opener)
      (isLambda : opener.kind = .lambda body) :
      UnderLambda unit id opener.start
        ⟨decl.name, decl.returnType.getD .void, decl.parameters⟩

namespace UnderLambda

theorem signed (under : unit.UnderLambda id offset signature) :
    ∃ node, unit.node? id = some node ∧ node.kind.signature? = some signature := by
  cases under with
  | lambda present kind => exact ⟨_, present, by rw [kind]; rfl⟩
  | method present kind _ _ => exact ⟨_, present, by rw [kind]; rfl⟩

/-- The search for the scope of the node ends at the lambda. -/
theorem lambdaOffset?_eq (under : unit.UnderLambda id offset signature) :
    unit.lambdaOffset? id = some offset := by
  cases under with
  | lambda present kind =>
      simp [lambdaOffset?, declaringScope?, present, kind, NodeKind.scopeKind, openedScope?]
  | @method node _ _ _ _ _ present kind above isLambda =>
      have outside : node.kind.scopeKind ≠ some .lambda := by
        rw [kind]
        simp [NodeKind.scopeKind]
      exact (lambdaOffset?_eq_some_iff present outside).mpr (inLambda_of_firstAbove above isLambda)

end UnderLambda

/-- A node under a lambda that has an identity stands in a type that has one; its key is the one
that its signature has in that type, behind the offset of the lambda. -/
theorem identity_underLambda (under : unit.UnderLambda id offset signature)
    (identified : unit.methodIdentity id = .ok identity) :
    ∃ owner outside, unit.enclosingTypeIdentity id = .ok owner ∧
      signature.keyIn owner.key = .ok outside ∧
      identity.key.canonical = toString offset ++ " " ++ outside.canonical := by
  obtain ⟨node, found, owner, present, signed, enclosed, keyed⟩ := methodIdentity_key identified
  obtain ⟨other, otherPresent, otherSigned⟩ := under.signed
  obtain rfl : other = node := Option.some.inj (otherPresent.symm.trans present)
  obtain rfl : signature = found := Option.some.inj (otherSigned.symm.trans signed)
  rw [under.lambdaOffset?_eq] at keyed
  obtain ⟨outside, formed, prefixed⟩ := Key.ofMethod_lambda.mp keyed
  exact ⟨owner, outside, enclosed, formed, congrArg Key.canonical prefixed⟩

end SourceUnit

/-- Two nodes under lambdas that have identities, in whichever units. Each string is the offset, a
space, and the string that the node would have outside of lambdas. So equal strings have equal
offsets, and with equal strings of the types around and signatures that read alike the strings are
equal exactly when the offsets are. -/
theorem underLambda_canonical_iff {unit unit' : SourceUnit} {id id' : NodeId}
    {offset offset' : Nat} {signature signature' : Signature} {identity identity' : NodeIdentity}
    (under : unit.UnderLambda id offset signature)
    (under' : unit'.UnderLambda id' offset' signature')
    (identified : unit.methodIdentity id = .ok identity)
    (identified' : unit'.methodIdentity id' = .ok identity') :
    ∃ owner owner' outside outside', unit.enclosingTypeIdentity id = .ok owner ∧
      unit'.enclosingTypeIdentity id' = .ok owner' ∧
      signature.keyIn owner.key = .ok outside ∧ signature'.keyIn owner'.key = .ok outside' ∧
      identity.key.canonical = toString offset ++ " " ++ outside.canonical ∧
      (identity.key.canonical = identity'.key.canonical ↔
        offset = offset' ∧ outside.canonical = outside'.canonical) ∧
      (owner.key.canonical = owner'.key.canonical → signature.ReadsLike signature' →
        (identity.key.canonical = identity'.key.canonical ↔ offset = offset')) := by
  obtain ⟨owner, outside, enclosed, formed, canonical⟩ :=
    SourceUnit.identity_underLambda under identified
  obtain ⟨owner', outside', enclosed', formed', canonical'⟩ :=
    SourceUnit.identity_underLambda under' identified'
  have meets : identity.key.canonical = identity'.key.canonical ↔
      offset = offset' ∧ outside.canonical = outside'.canonical := by
    rw [canonical, canonical', offset_append_inj]
  refine ⟨owner, owner', outside, outside', enclosed, enclosed', formed, formed', canonical,
    meets, ?_⟩
  intro sameOwner alike
  rw [alike.keyIn_eq sameOwner, formed'] at formed
  obtain rfl := Except.ok.inj formed
  rw [meets, and_iff_left rfl]

/-- Two lambdas that give out objects of one class, each with a method `run`. The class around
them and its method name each other as parents. -/
def twinTasks : SourceUnit where
  fileId := ⟨1⟩
  source :=
    "class A { void m() { go(() -> new T() { void run() {} }, () -> new T() { void run() {} }); } }"
  nodes := #[
    { parent := some 1, start := 0, stop := 94,
      kind := .namedType { name := "A", binding := some ⟨"A", []⟩ } },
    { parent := some 0, start := 10, stop := 92,
      kind := .method { name := "m", returnType := some .void, hasBody := true } },
    { parent := some 1, start := 24, stop := 55, kind := .lambda {} },
    { parent := some 2, start := 30, stop := 55, kind := .anonymousClass ⟨some ⟨"T", []⟩⟩ },
    { parent := some 3, start := 40, stop := 53,
      kind := .method { name := "run", returnType := some .void, hasBody := true } },
    { parent := some 1, start := 57, stop := 88, kind := .lambda {} },
    { parent := some 5, start := 63, stop := 88, kind := .anonymousClass ⟨some ⟨"T", []⟩⟩ },
    { parent := some 6, start := 71, stop := 88, kind := .other },
    { parent := some 7, start := 73, stop := 86,
      kind := .method { name := "run", hasBody := true } }]

/-- The two methods have one signature in types of one string, and are told apart by the lambdas
that they stand in. -/
theorem twinTasks_apart :
    twinTasks.UnderLambda 4 24 ⟨"run", .void, []⟩ ∧
      twinTasks.UnderLambda 8 57 ⟨"run", .void, []⟩ ∧
      ∃ identity identity', twinTasks.methodIdentity 4 = .ok identity ∧
        twinTasks.methodIdentity 8 = .ok identity' ∧
        identity.key.canonical ≠ identity'.key.canonical := by
  obtain ⟨steps, above⟩ := SourceUnit.nearest?_eq_some_iff.mp
    (rfl : twinTasks.nearest? (·.kind.scopeKind.isSome) 4 = some (2, twinTasks.nodes[2]))
  obtain ⟨steps', above'⟩ := SourceUnit.nearest?_eq_some_iff.mp
    (rfl : twinTasks.nearest? (·.kind.scopeKind.isSome) 8 = some (5, twinTasks.nodes[5]))
  have present : twinTasks.node? 4 = some twinTasks.nodes[4] := rfl
  have present' : twinTasks.node? 8 = some twinTasks.nodes[8] := rfl
  have under : twinTasks.UnderLambda 4 24 ⟨"run", .void, []⟩ := .method present rfl above rfl
  have under' : twinTasks.UnderLambda 8 57 ⟨"run", .void, []⟩ := .method present' rfl above' rfl
  have identified : twinTasks.methodIdentity 4 = .ok ⟨⟨"24 T void run []"⟩, "T.run", false⟩ := rfl
  have identified' : twinTasks.methodIdentity 8 = .ok ⟨⟨"57 T void run []"⟩, "T.run", false⟩ :=
    rfl
  refine ⟨under, under', _, _, identified, identified', ?_⟩
  intro same
  obtain ⟨_, _, _, _, _, _, _, _, _, meets, _⟩ :=
    underLambda_canonical_iff under under' identified identified'
  exact absurd (meets.mp same).1 (by decide)

end CodeIndex
