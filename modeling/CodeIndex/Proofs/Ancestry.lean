import CodeIndex.Proofs.Walk
import Mathlib.Data.Nat.Find

/-!
# The way up from a node

A search among ancestors takes at most as many steps as the unit has nodes. Here parents are
followed without such a limit, and what the search finds is said in terms of the whole way.

* `above?` is the node so many steps up, `Reaches` and `InCircle` say where a way leads at all.
* `FirstAbove`: the first node on the way up that passes a test.
* `nearest?_eq_some_iff`: that node is what the search finds, however far up it stands. Past a node
  that fails the test the search is that from this node (`nearest?_of_fails`).
* `InCircle.reaches_back`: from a circle every way leads back to where it started.
-/

namespace CodeIndex

/-! ## Steps -/

section Along

variable {next : NodeId → Option NodeId} {id here : NodeId}

/-- The node that is met after some steps from each node to the next one. The way ends where there
is no next one. -/
def along (next : NodeId → Option NodeId) (id : NodeId) : Nat → Option NodeId
  | 0 => some id
  | steps + 1 => (along next id steps).bind next

/-- A way of two parts. -/
theorem along_add (first second : Nat) :
    along next id (first + second) = (along next id first).bind (along next · second) := by
  induction second with
  | zero => simp [along]
  | succ second ih =>
      rw [← Nat.add_assoc, along, ih, Option.bind_assoc]
      rfl

theorem along_of_reached {first : Nat} (reached : along next id first = some here)
    (second : Nat) : along next id (first + second) = along next here second := by
  rw [along_add, reached, Option.bind_some]

theorem along_succ (steps : Nat) :
    along next id (steps + 1) = (next id).bind (along next · steps) := by
  rw [Nat.add_comm, along_add]
  rfl

/-- The way has met a node at every step before its end. -/
theorem exists_along_of_le {earlier later : Nat} (before : earlier ≤ later)
    (reached : along next id later = some here) : ∃ met, along next id earlier = some met := by
  obtain ⟨more, rfl⟩ := Nat.exists_eq_add_of_le before
  rw [along_add] at reached
  obtain ⟨met, atEarlier, _⟩ := Option.bind_eq_some_iff.mp reached
  exact ⟨met, atEarlier⟩

/-- Any number of times around. -/
theorem along_mul {period : Nat} (around : along next id period = some id) (times : Nat) :
    along next id (period * times) = some id := by
  induction times with
  | zero => rfl
  | succ times ih => rw [Nat.mul_succ, along_of_reached ih, around]

end Along

namespace SourceUnit

variable {unit : SourceUnit} {test : SyntaxNode → Bool} {id here other outer : NodeId}
  {node found : SyntaxNode} {steps : Nat}

/-- The node that is met after some steps from a node to the parent that it names. It may be one
that the unit does not have; the way ends there. -/
def above? (unit : SourceUnit) (id : NodeId) (steps : Nat) : Option NodeId :=
  along unit.parent? id steps

/-- The way up from a node leads to another one, or that is the node itself. -/
def Reaches (unit : SourceUnit) (id other : NodeId) : Prop :=
  ∃ steps, unit.above? id steps = some other

/-- The way up from a node leads back to it. -/
def InCircle (unit : SourceUnit) (id : NodeId) : Prop :=
  ∃ steps, 0 < steps ∧ unit.above? id steps = some id

theorem parent?_of_present (present : unit.node? id = some node) :
    unit.parent? id = node.parent := by
  rw [parent?, present, Option.bind_some]

theorem parent?_of_absent (absent : unit.node? id = none) : unit.parent? id = none := by
  rw [parent?, absent, Option.bind_none]

/-- The way up is that from the parent, behind one step. -/
theorem above?_succ (named : unit.parent? id = some here) (steps : Nat) :
    unit.above? id (steps + 1) = unit.above? here steps := by
  rw [above?, along_succ, named, Option.bind_some, above?]

theorem above?_one (named : unit.parent? id = some here) : unit.above? id 1 = some here :=
  above?_succ named 0

/-! ## Circles -/

theorem Reaches.trans (toHere : unit.Reaches id here) (onward : unit.Reaches here other) :
    unit.Reaches id other := by
  obtain ⟨first, reached⟩ := toHere
  obtain ⟨second, reachedOther⟩ := onward
  exact ⟨first + second, (along_of_reached reached second).trans reachedOther⟩

/-- Of two nodes on one way, one stands on the way up from the other. -/
theorem Reaches.total (toHere : unit.Reaches id here) (toOther : unit.Reaches id other) :
    unit.Reaches here other ∨ unit.Reaches other here := by
  obtain ⟨first, reached⟩ := toHere
  obtain ⟨second, reachedOther⟩ := toOther
  rcases Nat.le_total first second with before | before
  · obtain ⟨more, rfl⟩ := Nat.exists_eq_add_of_le before
    exact .inl ⟨more, (along_of_reached reached more).symm.trans reachedOther⟩
  · obtain ⟨more, rfl⟩ := Nat.exists_eq_add_of_le before
    exact .inr ⟨more, (along_of_reached reachedOther more).symm.trans reached⟩

/-- What a node in a circle reaches stands in the circle, and reaches the node. -/
theorem InCircle.reaches_back (circle : unit.InCircle id) (toOther : unit.Reaches id other) :
    unit.Reaches other id := by
  obtain ⟨period, positive, around⟩ := circle
  obtain ⟨steps, reached⟩ := toOther
  -- as many times around as there are steps is far enough
  obtain ⟨more, far⟩ := Nat.exists_eq_add_of_le (Nat.le_mul_of_pos_left steps positive)
  have back := along_mul around steps
  rw [far, along_of_reached reached] at back
  exact ⟨more, back⟩

/-! ## The first node that passes a test -/

/-- Some steps above the parent of a node stands another one that passes a test, and none before it
on the way does. -/
structure FirstAbove (unit : SourceUnit) (test : SyntaxNode → Bool) (id : NodeId) (steps : Nat)
    (outer : NodeId) (node : SyntaxNode) : Prop where
  reached : unit.above? id (steps + 1) = some outer
  present : unit.node? outer = some node
  passes : test node = true
  first : ∀ earlier < steps, ∀ between, unit.above? id (earlier + 1) = some between →
    ∀ found, unit.node? between = some found → test found = false

/-- There is a parent to begin with. -/
theorem FirstAbove.parent (above : unit.FirstAbove test id steps outer node) :
    ∃ here found, unit.parent? id = some here ∧ unit.node? here = some found := by
  have reached := above.reached
  rw [above?, along_succ] at reached
  obtain ⟨here, named, onward⟩ := Option.bind_eq_some_iff.mp reached
  cases present : unit.node? here with
  | some found => exact ⟨here, found, named, present⟩
  | none =>
      cases steps with
      | zero =>
          cases onward
          cases present.symm.trans above.present
      | succ steps =>
          rw [along_succ, parent?_of_absent present] at onward
          cases onward

/-- Where the parent passes the test, it is the first node above. -/
theorem firstAbove_iff_of_passes (named : unit.parent? id = some here)
    (present : unit.node? here = some found) (passes : test found = true) :
    unit.FirstAbove test id steps outer node ↔ steps = 0 ∧ here = outer ∧ found = node := by
  have toParent := above?_one named
  constructor
  · intro above
    cases steps with
    | zero =>
        obtain rfl := Option.some.inj (toParent.symm.trans above.reached)
        exact ⟨rfl, rfl, Option.some.inj (present.symm.trans above.present)⟩
    | succ steps =>
        have fails := above.first 0 (Nat.succ_pos steps) here toParent found present
        rw [passes] at fails
        cases fails
  · rintro ⟨rfl, rfl, rfl⟩
    exact ⟨toParent, present, passes, fun earlier before => absurd before (Nat.not_lt_zero earlier)⟩

/-- Where the parent fails the test, the first node above is that above the parent. -/
theorem firstAbove_iff_of_fails (named : unit.parent? id = some here)
    (present : unit.node? here = some found) (fails : test found = false) :
    unit.FirstAbove test id steps outer node ↔
      ∃ fewer, steps = fewer + 1 ∧ unit.FirstAbove test here fewer outer node := by
  have toParent := above?_one named
  constructor
  · rintro ⟨reached, outerPresent, passes, first⟩
    cases steps with
    | zero =>
        obtain rfl := Option.some.inj (toParent.symm.trans reached)
        obtain rfl := Option.some.inj (present.symm.trans outerPresent)
        rw [fails] at passes
        cases passes
    | succ fewer =>
        refine ⟨fewer, rfl, (above?_succ named _).symm.trans reached, outerPresent, passes, ?_⟩
        intro earlier before between met
        exact first (earlier + 1) (Nat.succ_lt_succ before) between
          ((above?_succ named _).trans met)
  · rintro ⟨fewer, rfl, reached, outerPresent, passes, first⟩
    refine ⟨(above?_succ named _).trans reached, outerPresent, passes, ?_⟩
    intro earlier before between met other otherPresent
    cases earlier with
    | zero =>
        obtain rfl := Option.some.inj (toParent.symm.trans met)
        obtain rfl := Option.some.inj (present.symm.trans otherPresent)
        exact fails
    | succ earlier =>
        exact first earlier (Nat.lt_of_succ_lt_succ before) between
          ((above?_succ named _).symm.trans met) other otherPresent

/-- A search of so many steps finds the first node above that passes, if it stands that near. -/
theorem walkTo?_eq_some_iff {bound : Nat} :
    unit.walkTo? test bound (unit.parent? id) = some (outer, node) ↔
      ∃ steps < bound, unit.FirstAbove test id steps outer node := by
  induction bound generalizing id with
  | zero => simp [walkTo?]
  | succ bound ih =>
      by_cases parent : ∃ here found, unit.parent? id = some here ∧ unit.node? here = some found
      · obtain ⟨here, found, named, present⟩ := parent
        rw [named, walkTo?_of_present present]
        cases passes : test found with
        | true =>
            simp only [firstAbove_iff_of_passes named present passes, if_true, Option.some.injEq,
              Prod.mk.injEq]
            constructor
            · intro same
              exact ⟨0, Nat.succ_pos bound, rfl, same⟩
            · rintro ⟨_, _, _, same⟩
              exact same
        | false =>
            rw [if_neg Bool.false_ne_true, ← parent?_of_present present, ih]
            simp only [firstAbove_iff_of_fails named present passes]
            constructor
            · rintro ⟨fewer, before, above⟩
              exact ⟨fewer + 1, Nat.succ_lt_succ before, fewer, rfl, above⟩
            · rintro ⟨_, before, fewer, rfl, above⟩
              exact ⟨fewer, Nat.lt_of_succ_lt_succ before, above⟩
      · have none : ¬ ∃ steps < bound + 1, unit.FirstAbove test id steps outer node := by
          rintro ⟨_, _, above⟩
          exact parent above.parent
        refine iff_of_false ?_ none
        intro walked
        cases named : unit.parent? id with
        | none =>
            rw [named] at walked
            cases walked
        | some here =>
            rw [named] at walked
            cases present : unit.node? here with
            | none =>
                rw [walkTo?_of_absent present] at walked
                cases walked
            | some found => exact parent ⟨here, found, named, present⟩

/-- The search among ancestors finds the first node on the way up that passes, however far up. -/
theorem nearest?_eq_some_iff :
    unit.nearest? test id = some (outer, node) ↔
      ∃ steps, unit.FirstAbove test id steps outer node := by
  unfold nearest?
  constructor
  · intro found
    obtain ⟨steps, _, above⟩ := walkTo?_eq_some_iff.mp found
    exact ⟨steps, above⟩
  · rintro ⟨steps, above⟩
    -- a search that is long enough for this node takes no other way
    have near : steps < unit.nodes.size + (steps + 1) := by omega
    have long := walkTo?_eq_some_iff.mpr ⟨steps, near, above⟩
    exact (walkTo?_of_size_le (Nat.le_add_right _ _)).symm.trans long

/-- Where the parent fails the test, the search goes on from it. -/
theorem nearest?_of_fails (named : unit.parent? id = some here)
    (present : unit.node? here = some found) (fails : test found = false) :
    unit.nearest? test id = unit.nearest? test here := by
  refine Option.ext ?_
  rintro ⟨outer, node⟩
  simp only [nearest?_eq_some_iff, firstAbove_iff_of_fails named present fails]
  constructor
  · rintro ⟨_, fewer, rfl, above⟩
    exact ⟨fewer, above⟩
  · rintro ⟨fewer, above⟩
    exact ⟨fewer + 1, fewer, rfl, above⟩

/-- Where a node on the way up passes, there is a first one, and it stands no further up. -/
theorem exists_firstAbove (reached : unit.above? id (steps + 1) = some outer)
    (present : unit.node? outer = some node) (passes : test node = true) :
    ∃ nearer ≤ steps, ∃ first found, unit.FirstAbove test id nearer first found := by
  classical
  have met : ∃ count other found, unit.above? id (count + 1) = some other ∧
      unit.node? other = some found ∧ test found = true :=
    ⟨steps, outer, node, reached, present, passes⟩
  obtain ⟨first, found, reachedFirst, firstPresent, firstPasses⟩ := Nat.find_spec met
  refine ⟨Nat.find met, Nat.find_min' met ⟨outer, node, reached, present, passes⟩, first, found,
    reachedFirst, firstPresent, firstPasses, ?_⟩
  intro earlier before between metBetween other betweenPresent
  exact Bool.eq_false_iff.mpr fun betweenPasses =>
    Nat.find_min met before ⟨between, other, metBetween, betweenPresent, betweenPasses⟩

end SourceUnit

end CodeIndex
