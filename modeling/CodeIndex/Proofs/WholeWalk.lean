import CodeIndex.Proofs.TypeNesting
import Mathlib.Data.List.Nodup

/-!
# The list of ancestors is long enough

The list of a node's ancestors has at most as many entries as the unit has nodes. That cuts off no
way that ends, and a way that goes around has met everything by then.

* `met?` is the node that is met so many steps above the parent, without a limit;
  `getElem?_ancestors`: the ancestors are these, as far as the limit goes.
* `lt_size_of_first`: a node is met for the first time below the limit. The nodes before it are all
  different, and there are only so many.
* `ends_or_circles`: the way up ends, or it runs into a circle, and never both.
* `ancestors_whole`: what the list of ancestors holds in both cases, and what the searches in it
  find.
-/

namespace CodeIndex

namespace SourceUnit

/-! ## The nodes on the way up -/

/-- The node that is met so many steps above the parent of a node, if the way up leads that far. -/
def met? (unit : SourceUnit) (id : NodeId) (steps : Nat) : Option (NodeId × SyntaxNode) :=
  (unit.above? id (steps + 1)).bind fun outer => (unit.node? outer).map (outer, ·)

/-- The way up meets so many nodes. Then there is no parent, or one that the unit does not have. -/
structure EndsAfter (unit : SourceUnit) (id : NodeId) (count : Nat) : Prop where
  before : ∀ steps < count, (unit.met? id steps).isSome = true
  last : unit.met? id count = none

/-- The way up leads to a node that stands in itself. -/
def RunsInCircle (unit : SourceUnit) (id : NodeId) : Prop :=
  ∃ here, unit.Reaches id here ∧ unit.InCircle here

section Way

variable {unit : SourceUnit} {id here : NodeId} {node : SyntaxNode} {entry : NodeId × SyntaxNode}
  {steps : Nat}

theorem met?_eq_some_iff :
    unit.met? id steps = some (here, node) ↔
      unit.above? id (steps + 1) = some here ∧ unit.node? here = some node := by
  unfold met?
  rw [Option.bind_eq_some_iff]
  constructor
  · rintro ⟨outer, reached, found⟩
    obtain ⟨other, present, same⟩ := Option.map_eq_some_iff.mp found
    cases same
    exact ⟨reached, present⟩
  · rintro ⟨reached, present⟩
    exact ⟨here, reached, by rw [present, Option.map_some]⟩

theorem met?_of_no_parent (outermost : unit.parent? id = none) (steps : Nat) :
    unit.met? id steps = none := by
  rw [met?, above?, along_succ, outermost, Option.bind_none, Option.bind_none]

theorem met?_zero (named : unit.parent? id = some here) :
    unit.met? id 0 = (unit.node? here).map (here, ·) := by
  rw [met?, above?_one named, Option.bind_some]

theorem met?_succ (named : unit.parent? id = some here) (steps : Nat) :
    unit.met? id (steps + 1) = unit.met? here steps := by
  rw [met?, above?_succ named, met?]

/-- Where the way goes on, it has met a node of the unit. -/
theorem exists_met_of_above (onward : unit.above? id (steps + 2) = some here) :
    ∃ entry, unit.met? id steps = some entry := by
  obtain ⟨between, reached, named⟩ := Option.bind_eq_some_iff.mp onward
  cases present : unit.node? between with
  | some node => exact ⟨(between, node), met?_eq_some_iff.mpr ⟨reached, present⟩⟩
  | none =>
      rw [parent?_of_absent present] at named
      cases named

/-- The way up has met a node at every step before its end. -/
theorem exists_met_of_le {earlier later : Nat} (before : earlier ≤ later)
    (met : unit.met? id later = some entry) : ∃ other, unit.met? id earlier = some other := by
  obtain ⟨reached, _⟩ := met?_eq_some_iff.mp met
  rcases Nat.lt_or_eq_of_le before with strict | rfl
  · obtain ⟨between, reachedBetween⟩ :=
      exists_along_of_le (Nat.succ_le_succ (Nat.succ_le_of_lt strict)) reached
    exact exists_met_of_above reachedBetween
  · exact ⟨entry, met⟩

/-- From the same node the way goes on alike. -/
theorem met?_add_of_met {first second : Nat} (met : unit.met? id first = some entry)
    (again : unit.met? id second = some entry) (more : Nat) :
    unit.met? id (first + more) = unit.met? id (second + more) := by
  have reached := (met?_eq_some_iff.mp met).1
  have reached' := (met?_eq_some_iff.mp again).1
  rw [met?, met?, Nat.add_right_comm, Nat.add_right_comm second, above?, above?,
    along_of_reached reached, along_of_reached reached']

/-! ## As many steps as there are nodes -/

/-- A node that is met twice has been met before: what leads from it to a third one led there
already. -/
theorem not_first_of_twice {first second : Nat} {other : NodeId × SyntaxNode}
    (before : first < second) (within : second ≤ steps) (met : unit.met? id first = some other)
    (again : unit.met? id second = some other) :
    ∃ earlier < steps, unit.met? id earlier = unit.met? id steps := by
  obtain ⟨more, rfl⟩ := Nat.exists_eq_add_of_le within
  exact ⟨first + more, Nat.add_lt_add_right before more, met?_add_of_met met again more⟩

/-- A node is met for the first time after fewer steps than the unit has nodes. -/
theorem lt_size_of_first (met : unit.met? id steps = some entry)
    (first : ∀ earlier < steps, unit.met? id earlier ≠ some entry) : steps < unit.nodes.size := by
  have onWay : ∀ place ∈ List.range (steps + 1), ∃ other, unit.met? id place = some other :=
    fun place within => exists_met_of_le (Nat.le_of_lt_succ (List.mem_range.mp within)) met
  have apart : ∀ place ∈ List.range (steps + 1), ∀ later ∈ List.range (steps + 1),
      place < later → unit.met? id place ≠ unit.met? id later := by
    intro place inside later within before same
    obtain ⟨other, metOther⟩ := onWay place inside
    obtain ⟨earlier, sooner, equal⟩ := not_first_of_twice before
      (Nat.le_of_lt_succ (List.mem_range.mp within)) metOther (same ▸ metOther)
    exact first earlier sooner (equal.trans met)
  have once : ((List.range (steps + 1)).map (unit.met? id)).Nodup := by
    refine List.Nodup.map_on ?_ List.nodup_range
    intro place inside later within same
    rcases Nat.lt_trichotomy place later with before | equal | behind
    · exact absurd same (apart place inside later within before)
    · exact equal
    · exact absurd same.symm (apart later within place inside behind)
  have inUnit : (List.range (steps + 1)).map (unit.met? id) ⊆
      (List.range unit.nodes.size).map fun id => (unit.node? id).map (id, ·) := by
    intro other member
    obtain ⟨place, inside, rfl⟩ := List.mem_map.mp member
    obtain ⟨⟨here, node⟩, metHere⟩ := onWay place inside
    obtain ⟨_, present⟩ := met?_eq_some_iff.mp metHere
    exact List.mem_map.mpr
      ⟨here, List.mem_range.mpr (lt_size_of_node? present), by rw [metHere, present]; rfl⟩
  have atMost := (List.subperm_of_subset once inUnit).length_le
  simp only [List.length_map, List.length_range] at atMost
  exact atMost

/-- What is met at all is met after fewer steps than the unit has nodes. -/
theorem exists_lt_size (met : unit.met? id steps = some entry) :
    ∃ sooner < unit.nodes.size, unit.met? id sooner = some entry := by
  classical
  have ever : ∃ steps, unit.met? id steps = some entry := ⟨steps, met⟩
  exact ⟨Nat.find ever, lt_size_of_first (Nat.find_spec ever) fun _ => Nat.find_min ever,
    Nat.find_spec ever⟩

/-- A way that ends has not met more nodes than there are. -/
theorem EndsAfter.le_size {count : Nat} (ends : unit.EndsAfter id count) :
    count ≤ unit.nodes.size := by
  cases count with
  | zero => exact Nat.zero_le _
  | succ count =>
      obtain ⟨entry, met⟩ :=
        Option.isSome_iff_exists.mp (ends.before count (Nat.lt_succ_self count))
      refine lt_size_of_first met fun earlier before again => ?_
      -- otherwise the way would go on behind its last node as it did before
      have onward := met?_add_of_met again met 1
      obtain ⟨other, metOther⟩ :=
        Option.isSome_iff_exists.mp (ends.before (earlier + 1) (Nat.succ_lt_succ before))
      rw [metOther, ends.last] at onward
      cases onward

/-- A way that runs into a circle never ends. -/
theorem RunsInCircle.goes_on (circles : unit.RunsInCircle id) (steps : Nat) :
    ∃ entry, unit.met? id steps = some entry := by
  obtain ⟨here, ⟨first, reached⟩, period, positive, around⟩ := circles
  have far : unit.above? id (first + period * (steps + 2)) = some here :=
    (along_of_reached reached _).trans (along_mul around (steps + 2))
  have enough : steps + 2 ≤ first + period * (steps + 2) :=
    Nat.le_trans (Nat.le_mul_of_pos_left _ positive) (Nat.le_add_left _ first)
  obtain ⟨other, onward⟩ := exists_along_of_le enough far
  exact exists_met_of_above onward

/-- A way that meets more nodes than there are runs into a circle. -/
theorem runsInCircle_of_met (met : unit.met? id unit.nodes.size = some entry) :
    unit.RunsInCircle id := by
  obtain ⟨sooner, before, again⟩ := exists_lt_size met
  have reached := (met?_eq_some_iff.mp again).1
  have reached' := (met?_eq_some_iff.mp met).1
  obtain ⟨period, same⟩ := Nat.exists_eq_add_of_lt before
  refine ⟨entry.1, ⟨sooner + 1, reached⟩, period + 1, Nat.succ_pos period, ?_⟩
  have onward : unit.nodes.size + 1 = sooner + 1 + (period + 1) := by omega
  rw [onward, above?, along_of_reached reached] at reached'
  exact reached'

/-- The way up ends, or it runs into a circle. -/
theorem ends_or_circles (unit : SourceUnit) (id : NodeId) :
    (∃ count, unit.EndsAfter id count) ∨ unit.RunsInCircle id := by
  classical
  cases last : unit.met? id unit.nodes.size with
  | some entry => exact .inr (runsInCircle_of_met last)
  | none =>
      have ever : ∃ steps, unit.met? id steps = none := ⟨unit.nodes.size, last⟩
      refine .inl ⟨Nat.find ever, fun steps before => ?_, Nat.find_spec ever⟩
      exact Option.isSome_iff_ne_none.mpr (Nat.find_min ever before)

theorem EndsAfter.not_circles {count : Nat} (ends : unit.EndsAfter id count) :
    ¬unit.RunsInCircle id := by
  intro circles
  obtain ⟨entry, met⟩ := circles.goes_on count
  rw [ends.last] at met
  cases met

/-! ## The list -/

/-- A walk lists what is met on the way up, as far as its steps go. -/
theorem getElem?_walk (bound place : Nat) :
    (unit.walk bound (unit.parent? id))[place]? =
      if place < bound then unit.met? id place else none := by
  induction bound generalizing id place with
  | zero => rfl
  | succ bound ih =>
      cases named : unit.parent? id with
      | none => simp [walk, met?_of_no_parent named]
      | some here =>
          cases present : unit.node? here with
          | none =>
              have none (steps : Nat) : unit.met? id steps = none := by
                cases steps with
                | zero => rw [met?_zero named, present, Option.map_none]
                | succ steps =>
                    rw [met?_succ named, met?_of_no_parent (parent?_of_absent present)]
              simp [walk, present, none]
          | some node =>
              rw [walk, present]
              simp only [← parent?_of_present present]
              cases place with
              | zero => simp [met?_zero named, present]
              | succ place =>
                  rw [List.getElem?_cons_succ, ih, met?_succ named]
                  simp only [Nat.succ_lt_succ_iff]

theorem getElem?_ancestors (unit : SourceUnit) (id : NodeId) (place : Nat) :
    (unit.ancestors id)[place]? =
      if place < unit.nodes.size then unit.met? id place else none :=
  getElem?_walk unit.nodes.size place

/-- The ancestors are the nodes that are met on the way up. -/
theorem mem_ancestors_iff :
    entry ∈ unit.ancestors id ↔ ∃ steps, unit.met? id steps = some entry := by
  rw [List.mem_iff_getElem?]
  constructor
  · rintro ⟨place, found⟩
    rw [getElem?_ancestors] at found
    split at found
    · exact ⟨place, found⟩
    · cases found
  · rintro ⟨steps, met⟩
    obtain ⟨sooner, inRange, met⟩ := exists_lt_size met
    exact ⟨sooner, by rw [getElem?_ancestors, if_pos inRange, met]⟩

/-- The first so many nodes on the way up are the ancestors, if these are all that the way or the
limit has. -/
theorem ancestors_eq {count : Nat} (within : count ≤ unit.nodes.size)
    (before : ∀ steps < count, ∃ entry, unit.met? id steps = some entry)
    (last : ∀ steps < unit.nodes.size, count ≤ steps → unit.met? id steps = none) :
    (unit.ancestors id).map some = (List.range count).map (unit.met? id) := by
  refine List.ext_getElem? fun place => ?_
  rw [List.getElem?_map, List.getElem?_map, getElem?_ancestors]
  rcases Nat.lt_or_ge place count with inside | outside
  · obtain ⟨entry, met⟩ := before place inside
    rw [if_pos (Nat.lt_of_lt_of_le inside within), met, List.getElem?_range inside]
    exact congrArg some met.symm
  · have behind : (List.range count)[place]? = none :=
      List.getElem?_eq_none (by rwa [List.length_range])
    rw [behind]
    split
    · next inRange => rw [last place inRange outside]; rfl
    · rfl

/-- A search among ancestors finds nothing only where nothing on the way up passes. -/
theorem nearest?_eq_none_iff {test : SyntaxNode → Bool} :
    unit.nearest? test id = none ↔
      ∀ steps entry, unit.met? id steps = some entry → test entry.2 = false := by
  rw [nearest?_eq_find?_ancestors, List.find?_eq_none]
  constructor
  · intro fails steps entry met
    exact Bool.eq_false_iff.mpr (fails entry (mem_ancestors_iff.mpr ⟨steps, met⟩))
  · intro fails entry member
    obtain ⟨steps, met⟩ := mem_ancestors_iff.mp member
    exact Bool.eq_false_iff.mp (fails steps entry met)

/-- The scope of what is no lambda itself is the one that the nearest opener of a scope opens. -/
theorem declaringScope?_eq (present : unit.node? id = some node)
    (noLambda : node.kind.scopeKind ≠ some .lambda) :
    unit.declaringScope? id =
      (unit.nearest? (·.kind.scopeKind.isSome) id).bind fun (id, node) => openedScope? id node := by
  unfold declaringScope?
  rw [present]
  exact if_neg noLambda

/-- What opens a scope is found with the scope. -/
theorem declaringScope?_eq_none_iff (present : unit.node? id = some node)
    (noLambda : node.kind.scopeKind ≠ some .lambda) :
    unit.declaringScope? id = none ↔
      unit.nearest? (·.kind.scopeKind.isSome) id = none := by
  rw [declaringScope?_eq present noLambda]
  cases found : unit.nearest? (·.kind.scopeKind.isSome) id with
  | none => exact iff_of_true rfl rfl
  | some entry =>
      obtain ⟨kind, opens⟩ := Option.isSome_iff_exists.mp (nearest?_eq_some found).2
      simp [openedScope?, opens]

theorem openedScope?_eq_some_iff {scope : DeclaringScope} :
    openedScope? id node = some scope ↔
      node.kind.scopeKind = some scope.kind ∧ scope.node = id ∧ scope.start = node.start := by
  obtain ⟨place, kind, start⟩ := scope
  unfold openedScope?
  rw [Option.map_eq_some_iff]
  constructor
  · rintro ⟨opened, found, same⟩
    cases same
    exact ⟨found, rfl, rfl⟩
  · rintro ⟨found, rfl, rfl⟩
    exact ⟨kind, found, rfl⟩

end Way

/-! ## Main statement -/

/-- What the list of ancestors holds, and what the searches in it find.

* `ends`: if the way up ends, the ancestors are all that it meets, nearest first.
* `circles`: if it runs into a circle, they are as many as the unit has nodes, one parent after the
  other.
* `decided`: one of the two is so, and not both. `complete`: whatever is met is among them.
* `type`, `noType`: the type around a node is the first one on the way up, and there is none only if
  the way meets none.
* `scope`, `noScope`: so it is with the scope that a node is declared in, unless it is a lambda. -/
structure WalkedWhole (unit : SourceUnit) (id : NodeId) : Prop where
  ends : ∀ count, unit.EndsAfter id count →
    (unit.ancestors id).map some = (List.range count).map (unit.met? id)
  circles : unit.RunsInCircle id →
    (unit.ancestors id).length = unit.nodes.size ∧
      (unit.ancestors id).map some = (List.range unit.nodes.size).map (unit.met? id)
  decided : (∃ count, unit.EndsAfter id count) ↔ ¬unit.RunsInCircle id
  complete : ∀ steps entry, unit.met? id steps = some entry → entry ∈ unit.ancestors id
  type : ∀ outer, unit.enclosingType? id = some outer ↔
    ∃ steps node, unit.FirstAbove (·.kind.isTypeLike) id steps outer node
  noType : unit.enclosingType? id = none ↔
    ∀ steps entry, unit.met? id steps = some entry → entry.2.kind.isTypeLike = false
  scope : ∀ node, unit.node? id = some node → node.kind.scopeKind ≠ some .lambda →
    ∀ scope, unit.declaringScope? id = some scope ↔
      ∃ steps opener, unit.FirstAbove (·.kind.scopeKind.isSome) id steps scope.node opener ∧
        opener.kind.scopeKind = some scope.kind ∧ scope.start = opener.start
  noScope : ∀ node, unit.node? id = some node → node.kind.scopeKind ≠ some .lambda →
    (unit.declaringScope? id = none ↔
      ∀ steps entry, unit.met? id steps = some entry → entry.2.kind.scopeKind = none)

/-- The list of ancestors is never cut short, and misses nothing. -/
theorem ancestors_whole (unit : SourceUnit) (id : NodeId) : WalkedWhole unit id where
  ends := by
    intro count ends
    refine ancestors_eq ends.le_size (fun steps before => ?_) fun steps _ behind => ?_
    · exact Option.isSome_iff_exists.mp (ends.before steps before)
    · by_contra onward
      obtain ⟨entry, met⟩ := Option.ne_none_iff_exists'.mp onward
      obtain ⟨other, met⟩ := exists_met_of_le behind met
      rw [ends.last] at met
      cases met
  circles := by
    intro circles
    have whole : (unit.ancestors id).map some =
        (List.range unit.nodes.size).map (unit.met? id) :=
      ancestors_eq (Nat.le_refl _) (fun steps _ => circles.goes_on steps)
        fun steps inRange behind => absurd inRange (Nat.not_lt.mpr behind)
    refine ⟨?_, whole⟩
    have lengths := congrArg List.length whole
    rwa [List.length_map, List.length_map, List.length_range] at lengths
  decided := by
    constructor
    · rintro ⟨count, ends⟩
      exact ends.not_circles
    · exact (ends_or_circles unit id).resolve_right
  complete := fun steps _ met => mem_ancestors_iff.mpr ⟨steps, met⟩
  type := fun _ => enclosingType?_eq_some_iff
  noType := by
    unfold enclosingType?
    rw [Option.map_eq_none_iff, nearest?_eq_none_iff]
  scope := by
    intro node present noLambda scope
    rw [declaringScope?_eq present noLambda, Option.bind_eq_some_iff]
    constructor
    · rintro ⟨⟨outer, opener⟩, found, opened⟩
      obtain ⟨kind, rfl, start⟩ := openedScope?_eq_some_iff.mp opened
      obtain ⟨steps, above⟩ := nearest?_eq_some_iff.mp found
      exact ⟨steps, opener, above, kind, start⟩
    · rintro ⟨steps, opener, above, kind, start⟩
      exact ⟨(scope.node, opener), nearest?_eq_some_iff.mpr ⟨steps, above⟩,
        openedScope?_eq_some_iff.mpr ⟨kind, rfl, start⟩⟩
  noScope := by
    intro node present noLambda
    rw [declaringScope?_eq_none_iff present noLambda, nearest?_eq_none_iff]
    simp only [Option.isSome_eq_false_iff, Option.isNone_iff_eq_none]

/-- A method in a class that stands in a block, which stands in the class again, and another
method whose parent is no node of the unit. -/
def circledClass : SourceUnit where
  fileId := ⟨1⟩
  source := ""
  nodes := #[
    { parent := some 1, start := 0, stop := 0, kind := .method { name := "run" } },
    { parent := some 2, start := 0, stop := 0, kind := .namedType { name := "A" } },
    { parent := some 1, start := 0, stop := 0, kind := .other },
    { parent := some 9, start := 0, stop := 0, kind := .method { name := "lost" } }]

example : (circledClass.ancestors 0).map (·.1) = [1, 2, 1, 2] ∧ circledClass.ancestors 3 = [] := by
  decide

end SourceUnit

end CodeIndex
