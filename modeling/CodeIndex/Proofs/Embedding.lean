import CodeIndex.NodeIdentity
import CodeIndex.Proofs.Walk

/-!
# Units inside of units

A part of one unit may stand in another unit as well, under other ids and beside other nodes.
What identities are made of is then the same for both.

* `Agrees` relates two results, `SameError` two errors: they are equal up to the ids in their
  wording.
* `SyntaxNode.Matches` lists what an identity can read from a node: the parent, the kind, and the
  start, but that only of lambdas and of types without a binding.
* `SourceUnit.Embeds` says that the nodes of the part match, and that their parents are in the
  part. The units may have different sizes, and nothing else about them has to be the same; only
  where a name has to be made up, the package does.
* `Embeds.nearest?` is the lemma that carries the rest: a search for an ancestor finds the same
  in both units.
* `Embeds.typeIdentity`, `Embeds.methodIdentity` and so on: each identity is the same in both
  units, or the same error.
-/

namespace CodeIndex

/-! ## Results that agree -/

/-- Two results are values that agree, or errors that do. -/
inductive Agrees {ε ε' α β : Type} (errors : ε → ε' → Prop) (values : α → β → Prop) :
    Except ε α → Except ε' β → Prop
  | ok {value : α} {value' : β} (same : values value value') :
      Agrees errors values (.ok value) (.ok value')
  | error {error : ε} {error' : ε'} (same : errors error error') :
      Agrees errors values (.error error) (.error error')

namespace Agrees

variable {ε ε' α β γ δ : Type} {errors : ε → ε' → Prop} {values : α → β → Prop}
  {first : Except ε α} {first' : Except ε' β}

theorem bind {values' : γ → δ → Prop} {next : α → Except ε γ} {next' : β → Except ε' δ}
    (agrees : Agrees errors values first first')
    (continues : ∀ value value', values value value' →
      Agrees errors values' (next value) (next' value')) :
    Agrees errors values' (first >>= next) (first' >>= next') := by
  cases agrees with
  | ok same => exact continues _ _ same
  | error same => exact .error same

theorem map {values' : γ → δ → Prop} {f : α → γ} {f' : β → δ}
    (agrees : Agrees errors values first first')
    (keeps : ∀ value value', values value value' → values' (f value) (f' value')) :
    Agrees errors values' (f <$> first) (f' <$> first') := by
  cases agrees with
  | ok same => exact .ok (keeps _ _ same)
  | error same => exact .error same

/-- Both results are values, or both are errors. -/
theorem ok_or_error (agrees : Agrees errors values first first') :
    (∃ value value', first = .ok value ∧ first' = .ok value' ∧ values value value') ∨
      ∃ error error', first = .error error ∧ first' = .error error' ∧ errors error error' := by
  cases agrees with
  | ok same => exact .inl ⟨_, _, rfl, rfl, same⟩
  | error same => exact .inr ⟨_, _, rfl, rfl, same⟩

/-- Results that agree are equal where errors and values that agree are. -/
theorem eq {errors : ε → ε → Prop} {values : α → α → Prop} {first first' : Except ε α}
    (agrees : Agrees errors values first first')
    (sameError : ∀ error error', errors error error' → error' = error)
    (sameValue : ∀ value value', values value value' → value' = value) : first' = first := by
  cases agrees with
  | ok same => rw [sameValue _ _ same]
  | error same => rw [sameError _ _ same]

end Agrees

/-- The errors are equal, or complain about a node and the node that it is renamed to. -/
inductive SameError (rename : NodeId → NodeId) : IdentityError → IdentityError → Prop
  | refl (error : IdentityError) : SameError rename error error
  | node (component : Component) (id : NodeId) :
      SameError rename (.malformed component (toString id))
        (.malformed component (toString (rename id)))

theorem SameError.eq_of_id {error error' : IdentityError} (same : SameError id error error') :
    error' = error := by
  cases same <;> rfl

theorem Agrees.refl {α : Type} {rename : NodeId → NodeId} (result : Except IdentityError α) :
    Agrees (SameError rename) Eq result result := by
  cases result with
  | error error => exact .error (.refl error)
  | ok value => exact .ok rfl

/-- Where no node is renamed, results that agree are equal. -/
theorem Agrees.eq_of_id {α : Type} {first first' : Except IdentityError α}
    (agrees : Agrees (SameError id) Eq first first') : first' = first :=
  agrees.eq (fun _ _ same => same.eq_of_id) fun _ _ same => same.symm

/-! ## Parts of units -/

namespace NodeKind

/-- A type without a binding. Its name has to be made up. -/
def isUnbound (kind : NodeKind) : Bool := kind.isTypeLike && kind.typeBinding.isNone

/-- The start of a node of this kind may become part of a name. -/
def readsStart (kind : NodeKind) : Bool := kind.isUnbound || kind.scopeKind = some .lambda

end NodeKind

/-- The second node reads like the first one, with its parent renamed. -/
structure SyntaxNode.Matches (rename : NodeId → NodeId) (node node' : SyntaxNode) : Prop where
  parent : node'.parent = node.parent.map rename
  kind : node'.kind = node.kind
  start : node.kind.readsStart = true → node'.start = node.start

theorem SyntaxNode.Matches.of_id (node : SyntaxNode) : node.Matches id node where
  parent := (Option.map_id_apply ..).symm
  kind := rfl
  start := fun _ => rfl

namespace SourceUnit

/-- A part of one unit stands in another unit, with its ids renamed.

* `injective`: no two nodes of the part become one.
* `absent`, `present`: an id of the part stands for nothing in both units, or for nodes that
  match.
* `closed`: the parents of the part are in the part.
* `package`: the packages are the same if the part has a type without a binding. -/
structure Embeds (rename : NodeId → NodeId) (part : NodeId → Prop) (unit unit' : SourceUnit) :
    Prop where
  injective : ∀ id id', part id → part id' → rename id = rename id' → id = id'
  absent : ∀ id, part id → unit.node? id = none → unit'.node? (rename id) = none
  present : ∀ id node, part id → unit.node? id = some node →
    ∃ node', unit'.node? (rename id) = some node' ∧ node.Matches rename node'
  closed : ∀ id node parent, part id → unit.node? id = some node →
    node.parent = some parent → part parent
  package : ∀ id node, part id → unit.node? id = some node → node.kind.isUnbound = true →
    unit'.package = unit.package

/-- Two searches find nothing, or a node of the part and the one that it is renamed to. -/
def SameFind (rename : NodeId → NodeId) (part : NodeId → Prop)
    (found found' : Option (NodeId × SyntaxNode)) : Prop :=
  (found = none ∧ found' = none) ∨
    ∃ id node node', found = some (id, node) ∧ found' = some (rename id, node') ∧ part id ∧
      node.Matches rename node'

/-- The walk outward, without the argument that it ends. -/
theorem outwardName_eq (unit : SourceUnit) (visited : List NodeId) (id : NodeId)
    (suffix : String) :
    unit.outwardName visited id suffix =
      if id ∈ visited then .error (.malformed .typeNesting (toString id))
      else unit.typeNode id >>= fun node =>
        match node.kind.typeBinding with
        | some binding => .ok (binding.qualifiedName ++ suffix)
        | none =>
          match unit.enclosingType? id with
          | some outer =>
            unit.outwardName (id :: visited) outer (unit.segment id node ++ suffix)
          | none =>
            match node.kind with
            | .namedType decl => .ok (unit.topLevelName decl.name ++ suffix)
            | _ => .error (.empty .enclosingType) := by
  rw [outwardName]
  by_cases seen : id ∈ visited
  · rw [dif_pos seen, if_pos seen]
  · rw [dif_neg seen, if_neg seen]
    split
    · next error missing =>
        rw [missing]
        rfl
    · next node found =>
        simp only [found]
        rfl

namespace Embeds

variable {rename : NodeId → NodeId} {part : NodeId → Prop} {unit unit' : SourceUnit}
  {id : NodeId}

/-! ### Searches -/

theorem walkTo? (embeds : Embeds rename part unit unit') (test : NodeKind → Bool) (steps : Nat)
    {start : Option NodeId} (inside : ∀ id, start = some id → part id) :
    SameFind rename part (unit.walkTo? (fun node => test node.kind) steps start)
      (unit'.walkTo? (fun node => test node.kind) steps (start.map rename)) := by
  induction steps generalizing start with
  | zero => exact .inl ⟨rfl, rfl⟩
  | succ steps ih =>
      cases start with
      | none => exact .inl ⟨rfl, rfl⟩
      | some id =>
          have here := inside id rfl
          cases present : unit.node? id with
          | none =>
              exact .inl ⟨walkTo?_of_absent present _,
                walkTo?_of_absent (embeds.absent id here present) _⟩
          | some node =>
              obtain ⟨node', present', same⟩ := embeds.present id node here present
              rw [Option.map_some, walkTo?_of_present present, walkTo?_of_present present',
                same.kind, same.parent]
              cases passes : test node.kind with
              | true => exact .inr ⟨id, node, node', rfl, rfl, here, same⟩
              | false =>
                  -- the walk goes on at the parents, which are in the part again
                  exact ih fun outer parent => embeds.closed id node outer here present parent

theorem parent? (embeds : Embeds rename part unit unit') (inside : part id) :
    unit'.parent? (rename id) = (unit.parent? id).map rename ∧
      ∀ outer, unit.parent? id = some outer → part outer := by
  unfold SourceUnit.parent?
  cases present : unit.node? id with
  | none =>
      rw [embeds.absent id inside present]
      exact ⟨rfl, fun outer named => by cases named⟩
  | some node =>
      obtain ⟨node', present', same⟩ := embeds.present id node inside present
      rw [present']
      exact ⟨same.parent, fun outer => embeds.closed id node outer inside present⟩

/-- The nearest ancestor of some kind is the same in both units. -/
theorem nearest? (embeds : Embeds rename part unit unit') (test : NodeKind → Bool)
    (inside : part id) :
    SameFind rename part (unit.nearest? (fun node => test node.kind) id)
      (unit'.nearest? (fun node => test node.kind) (rename id)) := by
  obtain ⟨parent, outside⟩ := embeds.parent? inside
  unfold SourceUnit.nearest?
  -- the units may have different sizes, but both walks may take as many steps as they like
  rw [parent, ← walkTo?_of_size_le (Nat.le_max_left unit.nodes.size unit'.nodes.size),
    ← walkTo?_of_size_le (Nat.le_max_right unit.nodes.size unit'.nodes.size)]
  exact embeds.walkTo? test _ outside

/-! ### What encloses a node -/

theorem enclosingType? (embeds : Embeds rename part unit unit') (inside : part id) :
    unit'.enclosingType? (rename id) = (unit.enclosingType? id).map rename ∧
      ∀ outer, unit.enclosingType? id = some outer → part outer := by
  unfold SourceUnit.enclosingType?
  rcases embeds.nearest? (·.isTypeLike) inside with
    ⟨none, none'⟩ | ⟨outer, node, node', found, found', within, _⟩
  · rw [none, none']
    exact ⟨rfl, fun outer named => by cases named⟩
  · rw [found, found']
    exact ⟨rfl, fun other named => Option.some.inj named ▸ within⟩

/-- The nearest ancestor that has members or opens a scope is the same in both units. -/
theorem owner? (embeds : Embeds rename part unit unit') (inside : part id) :
    SameFind rename part (unit.owner? id) (unit'.owner? (rename id)) :=
  embeds.nearest? (·.isOwner) inside

theorem enclosingMethod? (embeds : Embeds rename part unit unit') (inside : part id) :
    unit'.enclosingMethod? (rename id) = (unit.enclosingMethod? id).map rename ∧
      ∀ method, unit.enclosingMethod? id = some method → part method := by
  unfold SourceUnit.enclosingMethod?
  rcases embeds.owner? inside with
    ⟨none, none'⟩ | ⟨owner, node, node', found, found', within, same⟩
  · rw [none, none']
    exact ⟨rfl, fun method named => by cases named⟩
  · simp only [found, found', same.kind]
    cases node.kind.isTypeLike with
    | true => exact ⟨rfl, fun method named => by cases named⟩
    | false => exact ⟨rfl, fun method named => Option.some.inj named ▸ within⟩

theorem isLocal (embeds : Embeds rename part unit unit') (inside : part id) :
    unit'.isLocal (rename id) = unit.isLocal id := by
  unfold SourceUnit.isLocal
  rw [(embeds.enclosingMethod? inside).1, Option.isSome_map]

theorem lambdaOffset? (embeds : Embeds rename part unit unit') (inside : part id) :
    unit'.lambdaOffset? (rename id) = unit.lambdaOffset? id := by
  unfold SourceUnit.lambdaOffset? SourceUnit.declaringScope?
  cases present : unit.node? id with
  | none => rw [embeds.absent id inside present]
  | some node =>
      obtain ⟨node', present', same⟩ := embeds.present id node inside present
      simp only [present', same.kind]
      -- a start is read here, but only that of a lambda
      by_cases lambda : node.kind.scopeKind = some .lambda
      · have start := same.start (by simp [NodeKind.readsStart, lambda])
        simp [lambda, openedScope?, same.kind, start]
      · simp only [lambda, if_false]
        rcases embeds.nearest? (·.scopeKind.isSome) inside with
          ⟨none, none'⟩ | ⟨scope, opener, opener', found, found', _, same'⟩
        · rw [none, none']
        · simp only [found, found', Option.bind_some, openedScope?, same'.kind]
          cases kind : opener.kind.scopeKind with
          | none => rfl
          | some opened =>
              cases opened with
              | lambda =>
                  have start := same'.start (by simp [NodeKind.readsStart, kind])
                  simp [start]
              | _ => rfl

/-! ### Names of types -/

/-- Both units have a type there, and the types match, or both have none. -/
theorem typeNode (embeds : Embeds rename part unit unit') (inside : part id) :
    Agrees (SameError rename)
      (fun node node' => unit.node? id = some node ∧ node.kind.isTypeLike = true ∧
        node.Matches rename node')
      (unit.typeNode id) (unit'.typeNode (rename id)) := by
  unfold SourceUnit.typeNode
  cases present : unit.node? id with
  | none =>
      rw [embeds.absent id inside present]
      exact .error (.refl _)
  | some node =>
      obtain ⟨node', present', same⟩ := embeds.present id node inside present
      simp only [present', same.kind]
      cases typeLike : node.kind.isTypeLike with
      | true => exact .ok ⟨rfl, typeLike, same⟩
      | false => exact .error (.node .typeNode id)

theorem segment (embeds : Embeds rename part unit unit') {node node' : SyntaxNode}
    (inside : part id) (same : node.Matches rename node') (unbound : node.kind.isUnbound = true) :
    unit'.segment (rename id) node' = unit.segment id node := by
  have start := same.start (by simp [NodeKind.readsStart, unbound])
  unfold SourceUnit.segment
  rw [same.kind, start, embeds.isLocal inside]

theorem topLevelName (embeds : Embeds rename part unit unit') {node : SyntaxNode}
    (inside : part id) (present : unit.node? id = some node)
    (unbound : node.kind.isUnbound = true) (name : String) :
    unit'.topLevelName name = unit.topLevelName name := by
  unfold SourceUnit.topLevelName
  rw [embeds.package id node inside present unbound]

/-- The walk outward appends the same segments in both units, and ends in the same way. -/
theorem outwardName (embeds : Embeds rename part unit unit') (visited : List NodeId)
    {id : NodeId} (suffix : String) (inside : part id) (left : ∀ other ∈ visited, part other) :
    Agrees (SameError rename) Eq (unit.outwardName visited id suffix)
      (unit'.outwardName (visited.map rename) (rename id) suffix) := by
  -- this is where ids are compared, so no two nodes of the part may become one
  have seen : rename id ∈ visited.map rename ↔ id ∈ visited := by
    constructor
    · intro old
      obtain ⟨other, member, same⟩ := List.mem_map.mp old
      exact embeds.injective other id (left other member) inside same ▸ member
    · exact List.mem_map_of_mem
  rw [outwardName_eq unit, outwardName_eq unit']
  by_cases old : id ∈ visited
  · rw [if_pos old, if_pos (seen.mpr old)]
    exact .error (.node .typeNesting id)
  · rw [if_neg old, if_neg (mt seen.mp old)]
    refine (embeds.typeNode inside).bind ?_
    rintro node node' ⟨present, typeLike, same⟩
    rw [same.kind]
    cases binding : node.kind.typeBinding with
    | some binding => exact .ok rfl
    | none =>
        have unbound : node.kind.isUnbound = true := by
          simp [NodeKind.isUnbound, typeLike, binding]
        obtain ⟨enclosing, within⟩ := embeds.enclosingType? inside
        rw [enclosing]
        cases enclosed : unit.enclosingType? id with
        | some outer =>
            have fewer := countOutside_cons_lt (Array.getElem?_eq_some_iff.mp present).1 old
            simp only [Option.map_some, embeds.segment inside same unbound]
            refine embeds.outwardName (id :: visited) _ (within outer enclosed) ?_
            exact List.forall_mem_cons.mpr ⟨inside, left⟩
        | none =>
            simp only [Option.map_none, embeds.topLevelName inside present unbound]
            exact .refl _
termination_by unit.countOutside visited

/-! ### Identities -/

/-- The identity of a type is the same in both units. -/
theorem typeIdentity (embeds : Embeds rename part unit unit') (inside : part id) :
    Agrees (SameError rename) Eq (unit.typeIdentity id) (unit'.typeIdentity (rename id)) := by
  unfold SourceUnit.typeIdentity
  refine (embeds.typeNode inside).bind ?_
  rintro node node' ⟨_, _, same⟩
  rw [same.kind]
  cases node.kind.typeBinding with
  | some binding => exact .refl _
  | none =>
      refine (embeds.outwardName [] "" inside fun _ old => absurd old List.not_mem_nil).bind ?_
      rintro name _ rfl
      exact .refl _

theorem enclosingTypeIdentity (embeds : Embeds rename part unit unit') (inside : part id) :
    Agrees (SameError rename) Eq (unit.enclosingTypeIdentity id)
      (unit'.enclosingTypeIdentity (rename id)) := by
  unfold SourceUnit.enclosingTypeIdentity
  obtain ⟨enclosing, within⟩ := embeds.enclosingType? inside
  rw [enclosing]
  cases enclosed : unit.enclosingType? id with
  | none => exact .refl _
  | some outer => exact embeds.typeIdentity (within outer enclosed)

/-- The identity of a method is the same in both units. -/
theorem methodIdentity (embeds : Embeds rename part unit unit') (inside : part id) :
    Agrees (SameError rename) Eq (unit.methodIdentity id) (unit'.methodIdentity (rename id)) := by
  unfold SourceUnit.methodIdentity
  cases present : unit.node? id with
  | none =>
      rw [embeds.absent id inside present]
      exact .refl _
  | some node =>
      obtain ⟨node', present', same⟩ := embeds.present id node inside present
      simp only [present', same.kind, embeds.lambdaOffset? inside]
      refine (embeds.enclosingTypeIdentity inside).bind ?_
      rintro owner _ rfl
      cases node.kind.signature? with
      | none => exact .error (.node .methodNode id)
      | some signature => exact .refl _

theorem enclosingMethodKey (embeds : Embeds rename part unit unit') (inside : part id) :
    Agrees (SameError rename) Eq (unit.enclosingMethodKey id)
      (unit'.enclosingMethodKey (rename id)) := by
  unfold SourceUnit.enclosingMethodKey
  obtain ⟨enclosing, within⟩ := embeds.enclosingMethod? inside
  rw [enclosing]
  cases enclosed : unit.enclosingMethod? id with
  | none => exact (embeds.enclosingTypeIdentity inside).map fun _ _ same => congrArg (·.key) same
  | some method =>
      exact (embeds.methodIdentity (within method enclosed)).map fun _ _ same =>
        congrArg (·.key) same

/-- The identity of a field is the same in both units. -/
theorem fieldIdentity (embeds : Embeds rename part unit unit') (inside : part id) (name : String)
    (fieldType : TypeRef) :
    Agrees (SameError rename) Eq (unit.fieldIdentity id name fieldType)
      (unit'.fieldIdentity (rename id) name fieldType) := by
  unfold SourceUnit.fieldIdentity
  refine (embeds.enclosingTypeIdentity inside).bind ?_
  rintro owner _ rfl
  exact .refl _

/-- The identity of a variable is the same in both units. -/
theorem variableIdentity (embeds : Embeds rename part unit unit') (inside : part id)
    (name : String) (variableType : TypeRef) :
    Agrees (SameError rename) Eq (unit.variableIdentity id name variableType)
      (unit'.variableIdentity (rename id) name variableType) := by
  unfold SourceUnit.variableIdentity
  refine (embeds.enclosingMethodKey inside).bind ?_
  rintro method _ rfl
  exact .refl _

/-- The identity of an enum constant is the same in both units. -/
theorem enumConstantIdentity (embeds : Embeds rename part unit unit') (inside : part id)
    (name : String) :
    Agrees (SameError rename) Eq (unit.enumConstantIdentity id name)
      (unit'.enumConstantIdentity (rename id) name) := by
  unfold SourceUnit.enumConstantIdentity
  refine (embeds.enclosingTypeIdentity inside).bind ?_
  rintro owner _ rfl
  exact .refl _

end Embeds

end SourceUnit

end CodeIndex
