import CodeIndex.SourceUnit

/-!
# Ancestors and scopes

A node's ancestors are found by following parents. Parents may run in a circle, so a walk takes
at most as many steps as the unit has nodes: a walk that ends is never cut short by that, and
one in a circle has seen every node it can reach.

* `SourceUnit.ancestors` lists the ancestors, nearest first;
* `SourceUnit.nearest?` is the nearest ancestor that passes a test; it stops there, but finds
  what a search of the list finds (`nearest?_eq_find?_ancestors`);
* `SourceUnit.enclosingType?` and `SourceUnit.owner?` are the nearest ancestors that have
  members, and that have members or open a scope;
* `SourceUnit.declaringScope?` is the scope that a node is declared in; a lambda is its own.
-/

namespace CodeIndex

/-- The scope that a node is declared in: the node that opens it, its kind and its start. -/
structure DeclaringScope where
  node : NodeId
  kind : ScopeKind
  start : Nat
deriving DecidableEq, Repr

namespace SourceUnit

/-- The parent that a node names, if there is such a node and it names one. -/
def parent? (unit : SourceUnit) (id : NodeId) : Option NodeId :=
  (unit.node? id).bind (·.parent)

/-- The nodes met when following parents from an id on, in at most so many steps. -/
def walk (unit : SourceUnit) : Nat → Option NodeId → List (NodeId × SyntaxNode)
  | 0, _ => []
  | _ + 1, none => []
  | steps + 1, some id =>
    match unit.node? id with
    | none => []
    | some node => (id, node) :: unit.walk steps node.parent

/-- The nodes that enclose a node, nearest first. -/
def ancestors (unit : SourceUnit) (id : NodeId) : List (NodeId × SyntaxNode) :=
  unit.walk unit.nodes.size (unit.parent? id)

/-- The first node that passes a test when following parents from an id on, in at most so many
steps. -/
def walkTo? (unit : SourceUnit) (test : SyntaxNode → Bool) :
    Nat → Option NodeId → Option (NodeId × SyntaxNode)
  | 0, _ => none
  | _ + 1, none => none
  | steps + 1, some id =>
    match unit.node? id with
    | none => none
    | some node => if test node then some (id, node) else unit.walkTo? test steps node.parent

/-- The nearest ancestor that passes a test. -/
def nearest? (unit : SourceUnit) (test : SyntaxNode → Bool) (id : NodeId) :
    Option (NodeId × SyntaxNode) :=
  unit.walkTo? test unit.nodes.size (unit.parent? id)

theorem walkTo?_eq_find?_walk (unit : SourceUnit) (test : SyntaxNode → Bool) (steps : Nat)
    (start : Option NodeId) :
    unit.walkTo? test steps start = (unit.walk steps start).find? fun entry => test entry.2 := by
  induction steps generalizing start with
  | zero => simp [walkTo?, walk]
  | succ steps ih =>
    cases start with
    | none => simp [walkTo?, walk]
    | some id =>
      cases found : unit.node? id with
      | none => simp [walkTo?, walk, found]
      | some node => by_cases passes : test node <;> simp [walkTo?, walk, found, passes, ih]

theorem nearest?_eq_find?_ancestors (unit : SourceUnit) (test : SyntaxNode → Bool)
    (id : NodeId) :
    unit.nearest? test id = (unit.ancestors id).find? fun entry => test entry.2 :=
  unit.walkTo?_eq_find?_walk test unit.nodes.size (unit.parent? id)

/-- The nearest ancestor that is a named type or an anonymous class. -/
def enclosingType? (unit : SourceUnit) (id : NodeId) : Option NodeId :=
  (unit.nearest? (·.kind.isTypeLike) id).map (·.1)

/-- The nearest ancestor that is a named type, an anonymous class, a method or a lambda. -/
def owner? (unit : SourceUnit) (id : NodeId) : Option (NodeId × SyntaxNode) :=
  unit.nearest? (·.kind.isOwner) id

/-- The scope that a node opens. -/
def openedScope? (id : NodeId) (node : SyntaxNode) : Option DeclaringScope :=
  node.kind.scopeKind.map fun kind => ⟨id, kind, node.start⟩

/-- The scope that a node is declared in: its own if it is a lambda, and the nearest one around
it otherwise. -/
def declaringScope? (unit : SourceUnit) (id : NodeId) : Option DeclaringScope :=
  match unit.node? id with
  | none => none
  | some node =>
    if node.kind.scopeKind = some .lambda then openedScope? id node
    else (unit.nearest? (·.kind.scopeKind.isSome) id).bind fun (id, node) => openedScope? id node

/-- Where the lambda starts that a node is declared in, if it is declared in one. -/
def lambdaOffset? (unit : SourceUnit) (id : NodeId) : Option Nat :=
  match unit.declaringScope? id with
  | some ⟨_, .lambda, start⟩ => some start
  | _ => none

/-- The method or lambda that a node stands in, if that is nearer than the nearest type. -/
def enclosingMethod? (unit : SourceUnit) (id : NodeId) : Option NodeId :=
  match unit.owner? id with
  | some (owner, node) => if node.kind.isTypeLike then none else some owner
  | none => none

end SourceUnit

end CodeIndex
