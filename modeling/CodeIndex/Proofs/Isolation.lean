import CodeIndex.Proofs.Correspondence
import CodeIndex.Proofs.Share

/-!
# A change to one node stays with that node

What the other nodes give does not change when a node is changed in a way that they cannot see.

* `Embeds.of_hidden` lists two such changes: one that keeps the parent, the kind and the start of
  the node, and any change at all to a node that is the parent of no other.
* `share_of_hidden`: every other node gives the same rows and the same failure as before.
  Memberships are apart, since a type that starts or stops failing has or loses its members.
* `build_of_hidden`: both builds hold the shares of the nodes in front, then that of the changed
  node, then those of the nodes behind.
-/

namespace CodeIndex

namespace SourceUnit

/-- What the nodes in front of a node give to a build, without memberships. -/
def before (config : Config) (unit : SourceUnit) (id : NodeId) : Share :=
  .sum (((unit.shares config).take id).map (·.withoutMembers))

/-- What the nodes behind a node give to a build, without memberships. -/
def behind (config : Config) (unit : SourceUnit) (id : NodeId) : Share :=
  .sum (((unit.shares config).drop (id + 1)).map (·.withoutMembers))

/-- The other nodes cannot see that the node was replaced: it has kept its parent, its start and
its kind, or none of them names it as its parent. -/
def Hidden (unit : SourceUnit) (place : NodeId) (node node' : SyntaxNode) : Prop :=
  (node'.parent = node.parent ∧ node'.start = node.start ∧ node'.kind = node.kind) ∨
    ∀ id other, id ≠ place → unit.node? id = some other → other.parent ≠ some place

section Changed

variable {config : Config} {unit changed : SourceUnit} {place : NodeId}
  {node node' : SyntaxNode}

/-- All but the nodes of the unit are kept. -/
theorem update?_eq {change : SyntaxNode → SyntaxNode}
    (updated : unit.update? place change = some changed) :
    changed = { unit with nodes := unit.nodes.modify place change } := by
  unfold update? at updated
  split at updated
  · exact (Option.some.inj updated).symm
  · cases updated

theorem node?_of_update? {change : SyntaxNode → SyntaxNode}
    (updated : unit.update? place change = some changed) (id : NodeId) :
    changed.node? id = if place = id then (unit.node? id).map change else unit.node? id := by
  rw [update?_eq updated]
  exact Array.getElem?_modify

theorem node?_of_ne {change : SyntaxNode → SyntaxNode}
    (updated : unit.update? place change = some changed) {id : NodeId} (other : id ≠ place) :
    changed.node? id = unit.node? id := by
  rw [node?_of_update? updated, if_neg other.symm]

/-- All other nodes stand in the changed unit as they stood before. -/
theorem Embeds.of_hidden (present : unit.node? place = some node)
    (updated : unit.update? place (fun _ => node') = some changed)
    (hidden : unit.Hidden place node node') :
    ∃ part : NodeId → Prop, (∀ id, id ≠ place → part id) ∧ Embeds id part unit changed := by
  have package : changed.package = unit.package := by rw [update?_eq updated]
  have replaced : changed.node? place = some node' := by
    rw [node?_of_update? updated, if_pos rfl, present, Option.map_some]
  rcases hidden with ⟨parent, start, kind⟩ | childless
  · -- no identity reads what was changed, so the whole unit stands in the changed one
    refine ⟨fun _ => True, fun _ _ => trivial, ?_⟩
    exact {
      injective := fun _ _ _ _ same => same
      absent := by
        intro id _ missing
        rw [id_eq, node?_of_update? updated, missing, Option.map_none, ite_self]
      present := by
        intro id other _ found
        by_cases same : id = place
        · subst same
          obtain rfl : node = other := Option.some.inj (present.symm.trans found)
          exact ⟨node', replaced, ⟨by rw [parent, Option.map_id_apply], kind, fun _ => start⟩⟩
        · exact ⟨other, (node?_of_ne updated same).trans found, .of_id other⟩
      closed := fun _ _ _ _ _ _ => trivial
      package := fun _ _ _ _ _ => package }
  · -- no parent leads to the place, so all but that one node stand in the changed unit
    refine ⟨(· ≠ place), fun _ other => other, ?_⟩
    exact {
      injective := fun _ _ _ _ same => same
      absent := fun id other missing => (node?_of_ne updated other).trans missing
      present := fun id found other present =>
        ⟨found, (node?_of_ne updated other).trans present, .of_id found⟩
      closed := by
        rintro id found parent other stands named rfl
        exact childless id found other stands named
      package := fun _ _ _ _ _ => package }

/-- What another node gives is the same before and after the change. -/
theorem share_of_hidden (present : unit.node? place = some node)
    (updated : unit.update? place (fun _ => node') = some changed)
    (hidden : unit.Hidden place node node') {sibling : NodeId} (other : sibling ≠ place)
    (found : SyntaxNode) :
    (changed.share config sibling found).withoutMembers =
      (unit.share config sibling found).withoutMembers := by
  obtain ⟨part, others, embeds⟩ := Embeds.of_hidden present updated hidden
  have changed_eq := update?_eq updated
  have same : (changed.context config sibling found).outcome =
      (unit.context config sibling found).outcome := by
    subst changed_eq
    exact (unit.context config sibling found).outcome_eq_of_embeds embeds (others sibling other) rfl
  unfold share
  rw [same]
  exact Outcome.share_withoutMembers _ _ _

/-! ## Builds before and after -/

theorem shares_of_hidden (present : unit.node? place = some node)
    (updated : unit.update? place (fun _ => node') = some changed)
    (hidden : unit.Hidden place node node') :
    (changed.shares config).map (·.withoutMembers) =
      ((unit.shares config).map (·.withoutMembers)).set place
        (changed.share config place node').withoutMembers := by
  have inRange : place < unit.nodes.size := (Array.getElem?_eq_some_iff.mp present).1
  refine List.ext_getElem? fun id => ?_
  rw [List.getElem?_map, getElem?_shares, List.getElem?_set, List.getElem?_map, getElem?_shares]
  by_cases same : place = id
  · subst same
    have shares : place < ((unit.shares config).map (·.withoutMembers)).length := by
      rwa [List.length_map, length_shares]
    rw [if_pos rfl, if_pos shares, node?_of_update? updated, if_pos rfl, present]
    rfl
  · rw [if_neg same, node?_of_ne updated (Ne.symm same)]
    cases unit.node? id with
    | none => rfl
    | some found =>
        exact congrArg some (share_of_hidden present updated hidden (Ne.symm same) found)

/-- A build whose shares are those of a unit but for one is made of that one, of what stands in
front of it in the unit, and of what stands behind. -/
theorem build_of_set {own : Share} (inRange : place < unit.nodes.size)
    (shares : (changed.shares config).map (·.withoutMembers) =
      ((unit.shares config).map (·.withoutMembers)).set place own) :
    (changed.build config).share.withoutMembers =
      unit.before config place ++ own ++ unit.behind config place := by
  have inShares : place < ((unit.shares config).map (·.withoutMembers)).length := by
    rwa [List.length_map, length_shares]
  rw [build_share, Share.sum_withoutMembers, shares, List.set_eq_take_append_cons_drop,
    if_pos inShares, Share.sum_append, Share.sum, ← Share.append_assoc, ← List.map_take,
    ← List.map_drop]
  rfl

end Changed

end SourceUnit

/-- A node is replaced, and the other nodes cannot see that. Then each of them is there as it was
and gives the same rows, failures and counts, apart from memberships; and both builds hold what
the nodes in front of the replaced one give, then what that one gives, then what the nodes behind
it give. Whether the node fails before or afterwards does not matter. -/
theorem build_of_hidden (config : Config) {unit changed : SourceUnit} {place : NodeId}
    {node node' : SyntaxNode} (present : unit.node? place = some node)
    (updated : unit.update? place (fun _ => node') = some changed)
    (hidden : unit.Hidden place node node') :
    (∀ id found, id ≠ place → unit.node? id = some found →
      changed.node? id = some found ∧
        (changed.share config id found).withoutMembers =
          (unit.share config id found).withoutMembers) ∧
      (unit.build config).share.withoutMembers =
        unit.before config place ++ (unit.share config place node).withoutMembers ++
          unit.behind config place ∧
      (changed.build config).share.withoutMembers =
        unit.before config place ++ (changed.share config place node').withoutMembers ++
          unit.behind config place := by
  have inRange : place < unit.nodes.size := (Array.getElem?_eq_some_iff.mp present).1
  refine ⟨?_, ?_, ?_⟩
  · intro id found other stands
    exact ⟨(SourceUnit.node?_of_ne updated other).trans stands,
      SourceUnit.share_of_hidden present updated hidden other found⟩
  · refine SourceUnit.build_of_set inRange ?_
    -- what is set there is what stands there already
    have own : ((unit.shares config).map (·.withoutMembers))[place]? =
        some (unit.share config place node).withoutMembers := by
      rw [List.getElem?_map, SourceUnit.getElem?_shares, present]
      rfl
    obtain ⟨_, own⟩ := List.getElem?_eq_some_iff.mp own
    rw [← own, List.set_getElem_self]
  · exact SourceUnit.build_of_set inRange (SourceUnit.shares_of_hidden present updated hidden)

/-- A class with a field and a method. -/
def fieldAndMethod : SourceUnit where
  fileId := ⟨1⟩
  source := "class A int x void f()"
  nodes := #[
    { start := 0, stop := 22, kind := .namedType { name := "A", binding := some ⟨"p.A", []⟩ } },
    { parent := some 0, start := 8, stop := 13,
      kind := .field { name := "x", fieldType := ⟨"int", some ⟨"int", []⟩⟩ } },
    { parent := some 0, start := 14, stop := 22,
      kind := .method { name := "f", returnType := some .void } }]

/-- The class of `fieldAndMethod` with an end behind that of the text. -/
def unplacedClass : SyntaxNode := { fieldAndMethod.nodes[0] with stop := 99 }

/-- A constructor that stands in itself, if it is the second node. -/
def strayConstructor : SyntaxNode where
  parent := some 1
  start := 3
  stop := 2
  kind := .method { name := "A", isConstructor := true }

/-- In `fieldAndMethod` the class gets an end behind that of the text, or the field is replaced by
a constructor that stands in itself. The changed node fails, and the method gives what it gave. -/
theorem hidden_changes_fail_alone :
    (∃ changed, fieldAndMethod.update? 0 (fun _ => unplacedClass) = some changed ∧
      (changed.build {}).failures.map (·.subject) = [.node 0] ∧
      (changed.share {} 2 fieldAndMethod.nodes[2]).withoutMembers =
        (fieldAndMethod.share {} 2 fieldAndMethod.nodes[2]).withoutMembers) ∧
    ∃ changed, fieldAndMethod.update? 1 (fun _ => strayConstructor) = some changed ∧
      (changed.build {}).failures.map (·.subject) = [.node 1] ∧
      (changed.share {} 2 fieldAndMethod.nodes[2]).withoutMembers =
        (fieldAndMethod.share {} 2 fieldAndMethod.nodes[2]).withoutMembers := by
  have presentClass : fieldAndMethod.node? 0 = some fieldAndMethod.nodes[0] := rfl
  have presentField : fieldAndMethod.node? 1 = some fieldAndMethod.nodes[1] := rfl
  have presentMethod : fieldAndMethod.node? 2 = some fieldAndMethod.nodes[2] := rfl
  have updatedClass : fieldAndMethod.update? 0 (fun _ => unplacedClass) = some _ := rfl
  have updatedField : fieldAndMethod.update? 1 (fun _ => strayConstructor) = some _ := rfl
  have childless : ∀ id other, id ≠ 1 → fieldAndMethod.node? id = some other →
      other.parent ≠ some 1 := by
    intro id other _ stands
    have parents : ∀ node ∈ fieldAndMethod.nodes, node.parent ≠ some 1 := by decide
    exact parents other (Array.mem_of_getElem? stands)
  have class_hidden := build_of_hidden {} presentClass updatedClass (.inl ⟨rfl, rfl, rfl⟩)
  have field_hidden := build_of_hidden {} presentField updatedField (.inr childless)
  exact ⟨⟨_, updatedClass, by decide +kernel, (class_hidden.1 2 _ (by decide) presentMethod).2⟩,
    ⟨_, updatedField, by decide +kernel, (field_hidden.1 2 _ (by decide) presentMethod).2⟩⟩

end CodeIndex
