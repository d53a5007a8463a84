import CodeIndex.Proofs.Embedding
import CodeIndex.Proofs.Identified

/-!
# Names from the outside in

The walk that makes up a name goes outward and puts together what it has collected at its end. The
rule for such names goes the other way: the name of a type is that of the type around it, with
something behind it.

* `outward` are the types that the walk meets, and `ComesBack` says that it meets one of them again.
* `Appends` is what a type puts behind the name of the type around it, `InwardName` the rule for
  whole names. An outermost anonymous class has no name, and neither has a type inside it.
* `exists_inwardName`: where the walk never comes back, the rule gives a result.
* `outwardName_of_inwardName`: the walk gives the result of the rule, by induction on the rule.
* `typeIdentity_of_inwardName`: so the identity of a type without a binding is made from that name.
* `not_comesBack_of_parentsFirst`: where parents stand before their children, as in the order in
  which a front-end meets them, no walk comes back.
-/

namespace CodeIndex

namespace SourceUnit

variable {unit : SourceUnit} {id outer : NodeId} {node : SyntaxNode} {visited : List NodeId}

/-! ## The way outward -/

/-- The type on whose name that of a type is built: the nearest one around it, if it has no binding
of its own. -/
def outer? (unit : SourceUnit) (id : NodeId) : Option NodeId :=
  match (unit.node? id).bind (·.kind.typeBinding) with
  | some _ => none
  | none => unit.enclosingType? id

/-- The type that is met after some steps outward. The way ends at a type with a binding and at a
type that nothing encloses. -/
def outward (unit : SourceUnit) (id : NodeId) : Nat → Option NodeId
  | 0 => some id
  | steps + 1 => (unit.outward id steps).bind unit.outer?

/-- The way outward meets a type again. -/
def ComesBack (unit : SourceUnit) (id : NodeId) : Prop :=
  ∃ first later type, first < later ∧ unit.outward id first = some type ∧
    unit.outward id later = some type

/-- The way outward meets none of some types. -/
def KeepsOff (unit : SourceUnit) (visited : List NodeId) (id : NodeId) : Prop :=
  ∀ steps type, unit.outward id steps = some type → type ∉ visited

theorem outer?_of_unbound (present : unit.node? id = some node)
    (unbound : node.kind.typeBinding = none) : unit.outer? id = unit.enclosingType? id := by
  simp [outer?, present, unbound]

/-- The way from a type leads on as that from the type around it. -/
theorem outward_succ (around : unit.outer? id = some outer) (steps : Nat) :
    unit.outward id (steps + 1) = unit.outward outer steps := by
  induction steps with
  | zero => simp [outward, around]
  | succ steps ih => rw [outward, ih, outward]

theorem ComesBack.of_outer (around : unit.outer? id = some outer)
    (back : unit.ComesBack outer) : unit.ComesBack id := by
  obtain ⟨first, later, type, before, met, again⟩ := back
  exact ⟨first + 1, later + 1, type, Nat.succ_lt_succ before,
    (outward_succ around first).trans met, (outward_succ around later).trans again⟩

theorem keepsOff_nil : unit.KeepsOff [] id := fun _ _ _ => List.not_mem_nil

theorem KeepsOff.not_mem (off : unit.KeepsOff visited id) : id ∉ visited := off 0 id rfl

/-- One step outward leaves one more type behind. -/
theorem KeepsOff.cons (off : unit.KeepsOff visited id) (straight : ¬ unit.ComesBack id)
    (around : unit.outer? id = some outer) : unit.KeepsOff (id :: visited) outer := by
  intro steps type met left
  have later := (outward_succ around steps).trans met
  rcases List.mem_cons.mp left with rfl | before
  · exact straight ⟨0, steps + 1, type, Nat.succ_pos steps, rfl, later⟩
  · exact off (steps + 1) type later before

/-! ## The rule for names -/

/-- The nearest type, method or lambda around a node is a method or a lambda. -/
def StandsInBody (unit : SourceUnit) (id : NodeId) : Prop :=
  ∃ owner opener,
    (unit.ancestors id).find? (fun entry => entry.2.kind.isOwner) = some (owner, opener) ∧
      opener.kind.isTypeLike = false

/-- What a type without a binding puts behind the name of the type around it. -/
inductive Appends (unit : SourceUnit) (id : NodeId) (node : SyntaxNode) : String → Prop
  | member {decl : TypeDecl} (kind : node.kind = .namedType decl)
      (inType : ¬ unit.StandsInBody id) : Appends unit id node ("." ++ decl.name)
  | localType {decl : TypeDecl} (kind : node.kind = .namedType decl)
      (inBody : unit.StandsInBody id) :
      Appends unit id node ("$" ++ toString node.start ++ decl.name)
  | anonymous {body : AnonymousClass} (kind : node.kind = .anonymousClass body) :
      Appends unit id node ("$" ++ toString node.start)

/-- The name of a type, or why it has none. -/
inductive InwardName (unit : SourceUnit) : NodeId → Except IdentityError String → Prop
  | bound {id : NodeId} {node : SyntaxNode} {binding : TypeBinding}
      (present : unit.node? id = some node) (bound : node.kind.typeBinding = some binding) :
      InwardName unit id (.ok binding.qualifiedName)
  | topLevel {id : NodeId} {node : SyntaxNode} {decl : TypeDecl}
      (present : unit.node? id = some node) (kind : node.kind = .namedType decl)
      (unbound : decl.binding = none) (outermost : unit.enclosingType? id = none)
      (noPackage : unit.package = none ∨ unit.package = some "") :
      InwardName unit id (.ok decl.name)
  | inPackage {id : NodeId} {node : SyntaxNode} {decl : TypeDecl} {package : String}
      (present : unit.node? id = some node) (kind : node.kind = .namedType decl)
      (unbound : decl.binding = none) (outermost : unit.enclosingType? id = none)
      (inPackage : unit.package = some package) (named : package ≠ "") :
      InwardName unit id (.ok (package ++ "." ++ decl.name))
  | outermostAnonymous {id : NodeId} {node : SyntaxNode} {body : AnonymousClass}
      (present : unit.node? id = some node) (kind : node.kind = .anonymousClass body)
      (unbound : body.binding = none) (outermost : unit.enclosingType? id = none) :
      InwardName unit id (.error (.empty .enclosingType))
  | nested {id outer : NodeId} {node : SyntaxNode} {text : String}
      {result : Except IdentityError String} (present : unit.node? id = some node)
      (unbound : node.kind.typeBinding = none) (enclosed : unit.enclosingType? id = some outer)
      (appends : unit.Appends id node text) (around : InwardName unit outer result) :
      InwardName unit id ((· ++ text) <$> result)

/-! ## The rule gives a result -/

/-- The nearest type around a node is a node of the unit. -/
theorem isTypeLike_of_enclosingType? (enclosed : unit.enclosingType? id = some outer) :
    ∃ node, unit.node? outer = some node ∧ node.kind.isTypeLike = true := by
  unfold enclosingType? at enclosed
  obtain ⟨⟨_, node⟩, nearest, rfl⟩ := Option.map_eq_some_iff.mp enclosed
  exact ⟨node, nearest?_eq_some nearest⟩

theorem isLocal_iff : unit.isLocal id = true ↔ unit.StandsInBody id := by
  unfold isLocal enclosingMethod? owner? StandsInBody
  rw [nearest?_eq_find?_ancestors]
  cases (unit.ancestors id).find? (fun entry => entry.2.kind.isOwner) with
  | none => simp
  | some entry => cases typeLike : entry.2.kind.isTypeLike <;> simp [typeLike, Prod.ext_iff]

theorem Appends.isTypeLike {text : String} (appends : unit.Appends id node text) :
    node.kind.isTypeLike = true := by
  cases appends <;> simp_all [NodeKind.isTypeLike]

instance (unit : SourceUnit) (id : NodeId) : Decidable (unit.StandsInBody id) :=
  decidable_of_iff _ isLocal_iff

/-- What the walk collects at a type is what the rule puts behind the name around it. -/
theorem appends_iff {text : String} (typeLike : node.kind.isTypeLike = true) :
    unit.Appends id node text ↔ text = unit.segment id node := by
  constructor
  · rintro (⟨kind, inType⟩ | ⟨kind, inBody⟩ | kind)
    · simp [segment, kind, mt isLocal_iff.mp inType]
    · simp [segment, kind, isLocal_iff.mpr inBody]
    · simp [segment, kind]
  · rintro rfl
    cases kind : node.kind with
    | namedType decl =>
        by_cases inBody : unit.StandsInBody id
        · simpa [segment, kind, isLocal_iff.mpr inBody] using Appends.localType kind inBody
        · simpa [segment, kind, mt isLocal_iff.mp inBody] using Appends.member kind inBody
    | anonymousClass body => simpa [segment, kind] using Appends.anonymous kind
    | _ => simp [NodeKind.isTypeLike, kind] at typeLike

/-- A type that nothing encloses has a name by its package, or none if it is an anonymous class. -/
theorem exists_inwardName_of_outermost (present : unit.node? id = some node)
    (typeLike : node.kind.isTypeLike = true) (unbound : node.kind.typeBinding = none)
    (outermost : unit.enclosingType? id = none) : ∃ result, unit.InwardName id result := by
  cases kind : node.kind with
  | namedType decl =>
      rw [kind] at unbound
      cases package : unit.package with
      | none => exact ⟨_, .topLevel present kind unbound outermost (.inl package)⟩
      | some text =>
          by_cases empty : text = ""
          · exact ⟨_, .topLevel present kind unbound outermost (.inr (empty ▸ package))⟩
          · exact ⟨_, .inPackage present kind unbound outermost package empty⟩
  | anonymousClass body =>
      rw [kind] at unbound
      exact ⟨_, .outermostAnonymous present kind unbound outermost⟩
  | _ => simp [NodeKind.isTypeLike, kind] at typeLike

/-- The rule gives a result where the way outward never comes back: each step leaves one more type
behind, so the way ends. -/
theorem exists_inwardName {visited : List NodeId} {id : NodeId} {node : SyntaxNode}
    (present : unit.node? id = some node) (typeLike : node.kind.isTypeLike = true)
    (off : unit.KeepsOff visited id) (straight : ¬ unit.ComesBack id) :
    ∃ result, unit.InwardName id result := by
  cases binding : node.kind.typeBinding with
  | some binding => exact ⟨_, .bound present ‹_›⟩
  | none =>
      cases enclosed : unit.enclosingType? id with
      | none => exact exists_inwardName_of_outermost present typeLike binding enclosed
      | some outer =>
          obtain ⟨outerNode, outerPresent, outerTypeLike⟩ := isTypeLike_of_enclosingType? enclosed
          have around := (outer?_of_unbound present binding).trans enclosed
          have inRange : id < unit.nodes.size := (Array.getElem?_eq_some_iff.mp present).1
          have fewer := countOutside_cons_lt inRange off.not_mem
          obtain ⟨result, named⟩ := exists_inwardName outerPresent outerTypeLike
            (off.cons straight around) (mt (.of_outer around) straight)
          exact ⟨_, .nested present binding enclosed ((appends_iff typeLike).mpr rfl) named⟩
termination_by unit.countOutside visited

/-! ## The walk gives the result of the rule -/

theorem outwardName_of_present (present : unit.node? id = some node)
    (typeLike : node.kind.isTypeLike = true) (new : id ∉ visited) (suffix : String) :
    unit.outwardName visited id suffix =
      match node.kind.typeBinding with
      | some binding => .ok (binding.qualifiedName ++ suffix)
      | none =>
        match unit.enclosingType? id with
        | some outer => unit.outwardName (id :: visited) outer (unit.segment id node ++ suffix)
        | none =>
          match node.kind with
          | .namedType decl => .ok (unit.topLevelName decl.name ++ suffix)
          | _ => .error (.empty .enclosingType) := by
  rw [outwardName_eq, if_neg new, typeNode_eq_ok_iff.mpr ⟨present, typeLike⟩]
  rfl

/-- A text behind a result, and another one behind that. -/
theorem map_append (result : Except IdentityError String) (text suffix : String) :
    (· ++ suffix) <$> (· ++ text) <$> result = (· ++ (text ++ suffix)) <$> result := by
  rw [← comp_map]
  congr 1
  funext name
  exact String.append_assoc

/-- The walk puts together what the rule says, with what it has collected before behind it. -/
theorem outwardName_of_inwardName {result : Except IdentityError String}
    (named : unit.InwardName id result) (off : unit.KeepsOff visited id)
    (straight : ¬ unit.ComesBack id) (suffix : String) :
    unit.outwardName visited id suffix = (· ++ suffix) <$> result := by
  induction named generalizing visited suffix with
  | bound present bound =>
      rw [outwardName_of_present present (isTypeLike_of_typeBinding bound) off.not_mem, bound]
      rfl
  | topLevel present kind unbound outermost noPackage =>
      rw [outwardName_of_present present (by rw [kind]; rfl) off.not_mem, kind, outermost]
      simp only [NodeKind.typeBinding, unbound]
      rcases noPackage with package | package
      · simp only [topLevelName, package]
        rfl
      · simp only [topLevelName, package]
        rfl
  | inPackage present kind unbound outermost inPackage named =>
      rw [outwardName_of_present present (by rw [kind]; rfl) off.not_mem, kind, outermost]
      simp only [NodeKind.typeBinding, unbound, topLevelName, inPackage, String.isEmpty_iff, named,
        if_false]
      rfl
  | outermostAnonymous present kind unbound outermost =>
      rw [outwardName_of_present present (by rw [kind]; rfl) off.not_mem, kind, outermost]
      simp only [NodeKind.typeBinding, unbound]
      rfl
  | nested present unbound enclosed appends around ih =>
      have typeLike := appends.isTypeLike
      obtain rfl := (appends_iff typeLike).mp appends
      have toOuter := (outer?_of_unbound present unbound).trans enclosed
      rw [outwardName_of_present present typeLike off.not_mem, map_append]
      simp only [unbound, enclosed]
      exact ih (off.cons straight toOuter) (mt (.of_outer toOuter) straight) _

/-- Where the way outward never comes back, the name that is made up for a type is that of the
rule. -/
theorem placeholderName_of_inwardName {result : Except IdentityError String}
    (named : unit.InwardName id result) (straight : ¬ unit.ComesBack id) :
    unit.placeholderName id = result := by
  rw [placeholderName, outwardName_of_inwardName named keepsOff_nil straight]
  cases result <;> simp [Functor.map, Except.map]

/-- A name by the rule and a key that is formed from it make an identity. -/
theorem typeIdentity_eq_ok {name : String} {key : Key} (present : unit.node? id = some node)
    (typeLike : node.kind.isTypeLike = true) (unbound : node.kind.typeBinding = none)
    (named : unit.InwardName id (.ok name)) (straight : ¬ unit.ComesBack id)
    (formed : Key.ofType name node.kind.typeParameters = .ok key) :
    unit.typeIdentity id = .ok ⟨key, name, true⟩ := by
  rw [typeIdentity_eq_of_unbound present typeLike unbound,
    placeholderName_of_inwardName named straight]
  simp only [bind, Except.bind, formed]
  rfl

/-- A type without a binding, from which the way outward never comes back, is named by the rule. Its
identity is made from that name and the type parameters that it is declared with, or is the error
of the rule or of the key. -/
theorem typeIdentity_of_inwardName (present : unit.node? id = some node)
    (typeLike : node.kind.isTypeLike = true) (unbound : node.kind.typeBinding = none)
    (straight : ¬ unit.ComesBack id) :
    (∃ result, unit.InwardName id result) ∧
      ∀ result, unit.InwardName id result →
        unit.placeholderName id = result ∧
          unit.typeIdentity id = do
            let name ← result
            let key ← Key.ofType name node.kind.typeParameters
            return ⟨key, name, true⟩ := by
  have off : unit.KeepsOff [] id := fun _ _ _ => List.not_mem_nil
  refine ⟨exists_inwardName present typeLike off straight, ?_⟩
  intro result named
  have walked := placeholderName_of_inwardName named straight
  refine ⟨walked, ?_⟩
  rw [typeIdentity_eq_of_unbound present typeLike unbound, walked]

/-! ## Units in order -/

/-- Every parent stands before its children. -/
def ParentsFirst (unit : SourceUnit) : Prop :=
  ∀ id (inRange : id < unit.nodes.size), ∀ parent ∈ unit.nodes[id].parent, parent < id

instance (unit : SourceUnit) : Decidable unit.ParentsFirst :=
  inferInstanceAs (Decidable (∀ id (inRange : id < unit.nodes.size),
    ∀ parent ∈ unit.nodes[id].parent, parent < id))

theorem ParentsFirst.parent_lt {parent : NodeId} (first : unit.ParentsFirst)
    (present : unit.node? id = some node) (named : node.parent = some parent) : parent < id := by
  obtain ⟨inRange, rfl⟩ := Array.getElem?_eq_some_iff.mp present
  exact first id inRange parent named

theorem ParentsFirst.le_of_mem_walk (first : unit.ParentsFirst) {steps start : Nat}
    {entry : NodeId × SyntaxNode} (met : entry ∈ unit.walk steps (some start)) :
    entry.1 ≤ start := by
  induction steps generalizing start with
  | zero => cases met
  | succ steps ih =>
      cases present : unit.node? start with
      | none => simp [walk, present] at met
      | some node =>
          rw [walk, present] at met
          rcases List.mem_cons.mp met with rfl | later
          · exact Nat.le_refl _
          · cases named : node.parent with
            | none => cases steps <;> simp [walk, named] at later
            | some parent =>
                rw [named] at later
                exact Nat.le_of_lt (Nat.lt_of_le_of_lt (ih later) (first.parent_lt present named))

theorem ParentsFirst.lt_of_mem_ancestors (first : unit.ParentsFirst)
    {entry : NodeId × SyntaxNode} (met : entry ∈ unit.ancestors id) : entry.1 < id := by
  unfold ancestors parent? at met
  cases present : unit.node? id with
  | none => cases size : unit.nodes.size <;> simp [present, size, walk] at met
  | some node =>
      cases named : node.parent with
      | none => cases size : unit.nodes.size <;> simp [present, named, size, walk] at met
      | some parent =>
          simp only [present, named, Option.bind_some] at met
          exact Nat.lt_of_le_of_lt (first.le_of_mem_walk met) (first.parent_lt present named)

theorem ParentsFirst.outer?_lt (first : unit.ParentsFirst)
    (around : unit.outer? id = some outer) : outer < id := by
  unfold outer? at around
  split at around
  · cases around
  · unfold enclosingType? at around
    rw [nearest?_eq_find?_ancestors] at around
    obtain ⟨entry, found, rfl⟩ := Option.map_eq_some_iff.mp around
    exact first.lt_of_mem_ancestors (List.mem_of_find?_eq_some found)

/-- Each step outward leads to an earlier type. -/
theorem ParentsFirst.outward_lt (first : unit.ParentsFirst) {steps later : Nat}
    {type behind : NodeId} (before : steps < later) (met : unit.outward id steps = some type)
    (reached : unit.outward id later = some behind) : behind < type := by
  induction later generalizing behind with
  | zero => exact absurd before (Nat.not_lt_zero steps)
  | succ later ih =>
      obtain ⟨between, reachedBetween, around⟩ := Option.bind_eq_some_iff.mp reached
      have step := first.outer?_lt around
      rcases Nat.lt_or_eq_of_le (Nat.le_of_lt_succ before) with earlier | rfl
      · exact Nat.lt_trans step (ih earlier reachedBetween)
      · exact Option.some.inj (reachedBetween.symm.trans met) ▸ step

theorem not_comesBack_of_parentsFirst (first : unit.ParentsFirst) : ¬ unit.ComesBack id := by
  rintro ⟨steps, later, type, before, met, again⟩
  exact Nat.lt_irrefl type (first.outward_lt before met again)

end SourceUnit

/-- In a method of a class with a binding a local class, in that a member class, and in that an
anonymous class. -/
def nestedPlaces : SourceUnit where
  fileId := ⟨1⟩
  package := some "p"
  source :=
    "class Map<K> { void run() { class Local { class Part<E> { Object o = new Object() {}; } } } }"
  nodes := #[
    { start := 0, stop := 93,
      kind := .namedType { name := "Map", binding := some ⟨"util.Map", ["K"]⟩ } },
    { parent := some 0, start := 15, stop := 91,
      kind := .method { name := "run", hasBody := true } },
    { parent := some 1, start := 28, stop := 89, kind := .namedType { name := "Local" } },
    { parent := some 2, start := 42, stop := 87,
      kind := .namedType { name := "Part", typeParameters := ["E"] } },
    { parent := some 3, start := 69, stop := 84, kind := .anonymousClass {} }]

/-- The rule names the anonymous class by the class with a binding, the start of the local class and
its own start, and so does its identity. -/
theorem nestedPlaces_named_inward :
    nestedPlaces.node? 4 = some nestedPlaces.nodes[4] ∧ ¬ nestedPlaces.ComesBack 4 ∧
      nestedPlaces.InwardName 4 (.ok "util.Map$28Local.Part$69") ∧
      nestedPlaces.placeholderName 4 = .ok "util.Map$28Local.Part$69" ∧
      nestedPlaces.typeIdentity 4 =
        .ok ⟨⟨"util.Map$28Local.Part$69"⟩, "util.Map$28Local.Part$69", true⟩ := by
  have straight : ¬ nestedPlaces.ComesBack 4 :=
    SourceUnit.not_comesBack_of_parentsFirst (by decide)
  have map : nestedPlaces.node? 0 = some nestedPlaces.nodes[0] := rfl
  have inMethod : nestedPlaces.node? 2 = some nestedPlaces.nodes[2] := rfl
  have inLocal : nestedPlaces.node? 3 = some nestedPlaces.nodes[3] := rfl
  have inPart : nestedPlaces.node? 4 = some nestedPlaces.nodes[4] := rfl
  have mapName : nestedPlaces.InwardName 0 (.ok "util.Map") := .bound map rfl
  have localName : nestedPlaces.InwardName 2 (.ok "util.Map$28Local") :=
    .nested inMethod rfl (by decide : nestedPlaces.enclosingType? 2 = some 0)
      (.localType rfl (by decide)) mapName
  have partName : nestedPlaces.InwardName 3 (.ok "util.Map$28Local.Part") :=
    .nested inLocal rfl (by decide : nestedPlaces.enclosingType? 3 = some 2)
      (.member rfl (by decide)) localName
  have named : nestedPlaces.InwardName 4 (.ok "util.Map$28Local.Part$69") :=
    .nested inPart rfl (by decide : nestedPlaces.enclosingType? 4 = some 3) (.anonymous rfl)
      partName
  obtain ⟨_, determined⟩ := SourceUnit.typeIdentity_of_inwardName inPart rfl rfl straight
  obtain ⟨walked, identified⟩ := determined _ named
  exact ⟨inPart, straight, named, walked, identified⟩

end CodeIndex
