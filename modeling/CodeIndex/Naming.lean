import CodeIndex.Identity
import CodeIndex.Scope

/-!
# Names of types

A type that was resolved is named by its binding. Any other type gets a placeholder: starting
from the nearest enclosing type with a binding, or from the outermost type and its package,
each level of nesting appends one segment (`SourceUnit.segment`):

* a member type appends `.Name`;
* a type inside a method or lambda appends `$` and its start offset, then its name;
* an anonymous class appends `$` and its start offset.

`SourceUnit.outwardName` walks outward and collects the segments. The enclosing types may run
in a circle; the walk notes every type it has left and stops with an error when it comes back
to one.
-/

namespace CodeIndex

namespace SourceUnit

/-- The node with an id, if it is one that has members. -/
def typeNode (unit : SourceUnit) (id : NodeId) : Except IdentityError SyntaxNode :=
  match unit.node? id with
  | none => .error (.empty .typeNode)
  | some node =>
    if node.kind.isTypeLike then .ok node else .error (.malformed .typeNode (toString id))

/-- Declared inside a method or lambda, rather than directly inside another type. -/
def isLocal (unit : SourceUnit) (id : NodeId) : Bool := (unit.enclosingMethod? id).isSome

/-- The name of a type that nothing encloses: its simple name, behind the package if there is
one. -/
def topLevelName (unit : SourceUnit) (name : String) : String :=
  match unit.package with
  | some package => if package.isEmpty then name else package ++ "." ++ name
  | none => name

/-- What a type appends to the name of the type around it. -/
def segment (unit : SourceUnit) (id : NodeId) (node : SyntaxNode) : String :=
  match node.kind with
  | .namedType decl =>
    if unit.isLocal id then "$" ++ toString node.start ++ decl.name else "." ++ decl.name
  | _ => "$" ++ toString node.start

/-- How many nodes of the unit are not in a list. -/
def countOutside (unit : SourceUnit) (visited : List NodeId) : Nat :=
  (List.range unit.nodes.size).countP fun id => decide (id ∉ visited)

theorem lt_size_of_typeNode {unit : SourceUnit} {id : NodeId} {node : SyntaxNode}
    (found : unit.typeNode id = .ok node) : id < unit.nodes.size := by
  unfold typeNode node? at found
  split at found
  · cases found
  · next present => exact (Array.getElem?_eq_some_iff.mp present).1

/-- A node that is visited for the first time leaves fewer nodes outside. -/
theorem countOutside_cons_lt {unit : SourceUnit} {visited : List NodeId} {id : NodeId}
    (inRange : id < unit.nodes.size) (fresh : id ∉ visited) :
    unit.countOutside (id :: visited) < unit.countOutside visited := by
  have split : ∀ nodes : List NodeId,
      nodes.countP (fun other => decide (other ∉ id :: visited)) + nodes.count id =
        nodes.countP fun other => decide (other ∉ visited) := by
    intro nodes
    induction nodes with
    | nil => rfl
    | cons head tail ih =>
      rw [List.countP_cons, List.countP_cons, List.count_cons]
      by_cases same : head = id
      · subst same; simp [fresh] at ih ⊢; omega
      · by_cases old : head ∈ visited <;> simp [same, old] at ih ⊢ <;> omega
  have present : 0 < (List.range unit.nodes.size).count id :=
    List.count_pos_iff.mpr (List.mem_range.mpr inRange)
  have := split (List.range unit.nodes.size)
  unfold countOutside
  omega

/-- The name of a type, with what the types inside it have appended so far; `visited` are the
types that the walk has left behind. -/
def outwardName (unit : SourceUnit) (visited : List NodeId) (id : NodeId) (suffix : String) :
    Except IdentityError String :=
  if seen : id ∈ visited then .error (.malformed .typeNesting (toString id))
  else
    match found : unit.typeNode id with
    | .error error => .error error
    | .ok node =>
      match node.kind.typeBinding with
      | some binding => .ok (binding.qualifiedName ++ suffix)
      | none =>
        match unit.enclosingType? id with
        | some outer =>
          have := countOutside_cons_lt (lt_size_of_typeNode found) seen
          unit.outwardName (id :: visited) outer (unit.segment id node ++ suffix)
        | none =>
          match node.kind with
          | .namedType decl => .ok (unit.topLevelName decl.name ++ suffix)
          | _ => .error (.empty .enclosingType)
termination_by unit.countOutside visited

/-- The qualified name of a type without a binding. -/
def placeholderName (unit : SourceUnit) (id : NodeId) : Except IdentityError String :=
  unit.outwardName [] id ""

end SourceUnit

end CodeIndex
