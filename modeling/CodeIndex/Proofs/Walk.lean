import CodeIndex.Naming

/-!
# Walks that are long enough

A walk over parents takes at most so many steps. As many as the unit has nodes are enough: a walk
that has met every node only comes back to nodes that it has met before, and those have failed
its test.

* `LeftBehind` says what is known about the nodes that a walk has met; `LeftBehind.cons` is one
  step of the walk.
* `LeftBehind.walkTo?_eq_none`: a walk that has come back to such a node goes around in vain.
* `walkTo?_of_size_le`: steps beyond the number of nodes change nothing.
* `nearest?_eq_some`: what a search finds is a node of the unit that passes its test.
-/

namespace CodeIndex

namespace SourceUnit

variable {unit : SourceUnit} {test : SyntaxNode → Bool}

theorem lt_size_of_node? {id : NodeId} {node : SyntaxNode} (present : unit.node? id = some node) :
    id < unit.nodes.size :=
  (Array.getElem?_eq_some_iff.mp present).1

theorem walkTo?_none (steps : Nat) : unit.walkTo? test steps none = none := by
  cases steps <;> rfl

theorem walkTo?_of_absent {id : NodeId} (absent : unit.node? id = none) (steps : Nat) :
    unit.walkTo? test steps (some id) = none := by
  cases steps with
  | zero => rfl
  | succ steps => simp [walkTo?, absent]

theorem walkTo?_of_present {id : NodeId} {node : SyntaxNode} (present : unit.node? id = some node)
    (steps : Nat) :
    unit.walkTo? test (steps + 1) (some id) =
      if test node then some (id, node) else unit.walkTo? test steps node.parent := by
  simp [walkTo?, present]

/-- The nodes that a walk has left behind on its way to `here`: they fail the test, and their
parents are among them, but for the one where the walk is now. -/
structure LeftBehind (unit : SourceUnit) (test : SyntaxNode → Bool) (nodes : List NodeId)
    (here : Option NodeId) : Prop where
  fails : ∀ id ∈ nodes, ∀ node, unit.node? id = some node → test node = false
  leads : ∀ id ∈ nodes, ∀ node, unit.node? id = some node →
    ∀ parent, node.parent = some parent → parent ∈ nodes ∨ here = some parent

namespace LeftBehind

variable {nodes : List NodeId} {here : NodeId}

theorem nil {start : Option NodeId} : LeftBehind unit test [] start where
  fails := fun _ inside => absurd inside List.not_mem_nil
  leads := fun _ inside => absurd inside List.not_mem_nil

/-- The walk leaves one more node behind and goes on to its parent. -/
theorem cons {node : SyntaxNode} (left : LeftBehind unit test nodes (some here))
    (present : unit.node? here = some node) (fails : test node = false) :
    LeftBehind unit test (here :: nodes) node.parent where
  fails := by
    intro id inside found foundPresent
    rcases List.mem_cons.mp inside with rfl | before
    · obtain rfl := Option.some.inj (foundPresent.symm.trans present)
      exact fails
    · exact left.fails id before found foundPresent
  leads := by
    intro id inside found foundPresent parent named
    rcases List.mem_cons.mp inside with rfl | before
    · obtain rfl := Option.some.inj (foundPresent.symm.trans present)
      exact .inr named
    · rcases left.leads id before found foundPresent parent named with back | back
      · exact .inl (List.mem_cons_of_mem _ back)
      · cases back
        exact .inl List.mem_cons_self

/-- A walk that has come back to a node goes around among the nodes behind it. -/
theorem walkTo?_eq_none (left : LeftBehind unit test nodes (some here)) (old : here ∈ nodes)
    (steps : Nat) {id : NodeId} (inside : id ∈ nodes) :
    unit.walkTo? test steps (some id) = none := by
  induction steps generalizing id with
  | zero => rfl
  | succ steps ih =>
      cases present : unit.node? id with
      | none => exact walkTo?_of_absent present _
      | some node =>
          rw [walkTo?_of_present present, left.fails id inside node present]
          cases parent : node.parent with
          | none => exact walkTo?_none steps
          | some outer =>
              rcases left.leads id inside node present outer parent with back | back
              · exact ih back
              · cases back
                exact ih old

end LeftBehind

/-- With a step for every node that is not behind the walk, more steps change nothing. -/
theorem walkTo?_add {nodes : List NodeId} {start : Option NodeId} {steps : Nat}
    (left : LeftBehind unit test nodes start) (enough : unit.countOutside nodes ≤ steps)
    (extra : Nat) : unit.walkTo? test (steps + extra) start = unit.walkTo? test steps start := by
  cases start with
  | none => rw [walkTo?_none, walkTo?_none]
  | some id =>
      cases present : unit.node? id with
      | none => rw [walkTo?_of_absent present, walkTo?_of_absent present]
      | some node =>
          by_cases old : id ∈ nodes
          · rw [left.walkTo?_eq_none old _ old, left.walkTo?_eq_none old _ old]
          · have fewer := countOutside_cons_lt (lt_size_of_node? present) old
            -- the node that the walk is at is still outside, so there is a step left for it
            obtain ⟨rest, rfl⟩ : ∃ rest, steps = rest + 1 := ⟨steps - 1, by omega⟩
            rw [Nat.add_right_comm, walkTo?_of_present present, walkTo?_of_present present]
            cases passes : test node with
            | true => rfl
            | false => exact walkTo?_add (left.cons present passes) (by omega) extra
termination_by steps

/-- Steps beyond the number of nodes change nothing. -/
theorem walkTo?_of_size_le {start : Option NodeId} {steps : Nat}
    (enough : unit.nodes.size ≤ steps) :
    unit.walkTo? test steps start = unit.walkTo? test unit.nodes.size start := by
  have all : unit.countOutside [] ≤ unit.nodes.size := by simp [countOutside]
  obtain ⟨extra, rfl⟩ := Nat.exists_eq_add_of_le enough
  exact walkTo?_add .nil all extra

/-! ## What a walk meets -/

theorem node?_of_mem_walk {steps : Nat} {start : Option NodeId} {entry : NodeId × SyntaxNode}
    (met : entry ∈ unit.walk steps start) : unit.node? entry.1 = some entry.2 := by
  induction steps generalizing start with
  | zero => cases met
  | succ steps ih =>
      cases start with
      | none => cases met
      | some id =>
          cases present : unit.node? id with
          | none => simp [walk, present] at met
          | some node =>
              rw [walk, present] at met
              rcases List.mem_cons.mp met with rfl | later
              · exact present
              · exact ih later

theorem nearest?_eq_some {id outer : NodeId} {node : SyntaxNode}
    (found : unit.nearest? test id = some (outer, node)) :
    unit.node? outer = some node ∧ test node = true := by
  rw [nearest?_eq_find?_ancestors] at found
  have passes := List.find?_some found
  exact ⟨node?_of_mem_walk (List.mem_of_find?_eq_some found), passes⟩

end SourceUnit

end CodeIndex
