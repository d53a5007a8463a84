import CodeIndex.Proofs.Ancestry
import CodeIndex.Proofs.InwardName
import Mathlib.Data.List.Perm.Subperm

/-!
# Types that stand in themselves

Parents may run in a circle, so a type may stand in itself. The walk that makes up a name ends all
the same, and says so exactly where it went around.

* `round` is one round of the walk, `resultWithin?` its result if so many rounds are enough.
  `resultWithin?_eq`: one more than there are types is.
* `FirstMetAgain` is the first type that the way outward meets again.
  `outwardName_eq_typeNesting_iff`: the walk complains about that type, and about nesting only where
  there is one.
* `comesBack_iff`: the way outward comes back exactly where the way up leads to a type in a circle
  and to no type with a binding.
* `InwardName.unique`: the rule for names gives a result only where the way outward ends, and only
  one. `name_of_typeIdentity`: a type without a binding that has an identity has the name of the
  rule.
-/

namespace CodeIndex

namespace SourceUnit

variable {unit : SourceUnit} {id origin here outer type : NodeId} {node : SyntaxNode}
  {visited : List NodeId} {steps : Nat}

/-! ## Rounds -/

/-- What the walk knows between two rounds: the types that it has left behind, the one where it is
now, and what has been collected. -/
structure Naming where
  visited : List NodeId := []
  here : NodeId
  suffix : String := ""

/-- One round of the walk: it has its result, or goes on at the type around. -/
def round (unit : SourceUnit) (walk : Naming) : Except IdentityError String ⊕ Naming :=
  if walk.here ∈ walk.visited then .inl (.error (.malformed .typeNesting (toString walk.here)))
  else
    match unit.typeNode walk.here with
    | .error error => .inl (.error error)
    | .ok node =>
      match node.kind.typeBinding with
      | some binding => .inl (.ok (binding.qualifiedName ++ walk.suffix))
      | none =>
        match unit.enclosingType? walk.here with
        | some outer =>
          .inr ⟨walk.here :: walk.visited, outer, unit.segment walk.here node ++ walk.suffix⟩
        | none =>
          match node.kind with
          | .namedType decl => .inl (.ok (unit.topLevelName decl.name ++ walk.suffix))
          | _ => .inl (.error (.empty .enclosingType))

/-- The result of a walk that has it after so many rounds or fewer. -/
def resultWithin? (unit : SourceUnit) : Nat → Naming → Option (Except IdentityError String)
  | 0, _ => none
  | rounds + 1, walk =>
    match unit.round walk with
    | .inl result => some result
    | .inr next => unit.resultWithin? rounds next

/-- The walk is its first round and then the rest. -/
theorem outwardName_eq_round (walk : Naming) :
    unit.outwardName walk.visited walk.here walk.suffix =
      match unit.round walk with
      | .inl result => result
      | .inr next => unit.outwardName next.visited next.here next.suffix := by
  rw [outwardName_eq]
  unfold round
  by_cases seen : walk.here ∈ walk.visited
  · rw [if_pos seen, if_pos seen]
  · rw [if_neg seen, if_neg seen]
    cases unit.typeNode walk.here with
    | error error => rfl
    | ok node =>
        simp only [bind, Except.bind]
        cases node.kind.typeBinding with
        | some binding => rfl
        | none =>
            cases unit.enclosingType? walk.here with
            | some outer => rfl
            | none => cases node.kind <;> rfl

/-- The ids of the types of a unit. -/
def types (unit : SourceUnit) : List NodeId :=
  (List.range unit.nodes.size).filter fun id => (unit.node? id).any (·.kind.isTypeLike)

theorem mem_types_of_typeNode (found : unit.typeNode id = .ok node) : id ∈ unit.types := by
  obtain ⟨present, typeLike⟩ := typeNode_eq_ok_iff.mp found
  refine List.mem_filter.mpr ⟨List.mem_range.mpr (lt_size_of_typeNode found), ?_⟩
  rw [present, Option.any_some, typeLike]

/-- A round that goes on leaves behind one more type, and one that was not left before. -/
theorem round_eq_inr {walk next : Naming} (went : unit.round walk = .inr next) :
    walk.here ∉ walk.visited ∧ walk.here ∈ unit.types ∧
      next.visited = walk.here :: walk.visited := by
  unfold round at went
  split at went
  · cases went
  · next new =>
      split at went
      · cases went
      · next node found =>
          refine ⟨new, mem_types_of_typeNode found, ?_⟩
          split at went
          · cases went
          · split at went
            · cases went
              rfl
            · split at went <;> cases went

/-- With a round for every type that is not left behind, and one more, the walk has its result. -/
theorem resultWithin?_eq {rounds : Nat} {walk : Naming} (once : walk.visited.Nodup)
    (left : walk.visited ⊆ unit.types)
    (enough : unit.types.length < walk.visited.length + rounds) :
    unit.resultWithin? rounds walk =
      some (unit.outwardName walk.visited walk.here walk.suffix) := by
  induction rounds generalizing walk with
  | zero =>
      have atMost := (List.subperm_of_subset once left).length_le
      omega
  | succ rounds ih =>
      rw [resultWithin?, outwardName_eq_round]
      cases went : unit.round walk with
      | inl result => rfl
      | inr next =>
          obtain ⟨new, isType, visited⟩ := round_eq_inr went
          refine ih ?_ ?_ ?_
          · rw [visited]
            exact List.nodup_cons.mpr ⟨new, once⟩
          · rw [visited]
            exact List.cons_subset.mpr ⟨isType, left⟩
          · rw [visited, List.length_cons]
            omega

/-! ## The way outward -/

/-- A named type or an anonymous class of the unit. -/
def IsType (unit : SourceUnit) (id : NodeId) : Prop :=
  ∃ node, unit.node? id = some node ∧ node.kind.isTypeLike = true

/-- A type with a binding. -/
def IsBound (unit : SourceUnit) (id : NodeId) : Prop :=
  ∃ node binding, unit.node? id = some node ∧ node.kind.typeBinding = some binding

theorem IsBound.isType (bound : unit.IsBound id) : unit.IsType id := by
  obtain ⟨node, binding, present, bound⟩ := bound
  exact ⟨node, present, isTypeLike_of_typeBinding bound⟩

theorem outer?_of_isBound (bound : unit.IsBound id) : unit.outer? id = none := by
  obtain ⟨node, binding, present, bound⟩ := bound
  simp [outer?, present, bound]

theorem outer?_of_not_isBound (unbound : ¬ unit.IsBound id) :
    unit.outer? id = unit.enclosingType? id := by
  unfold outer?
  split
  · next binding found =>
      obtain ⟨node, present, bound⟩ := Option.bind_eq_some_iff.mp found
      exact absurd ⟨node, binding, present, bound⟩ unbound
  · rfl

/-- The type around a node is the first one on the way up. -/
theorem enclosingType?_eq_some_iff :
    unit.enclosingType? id = some outer ↔
      ∃ steps node, unit.FirstAbove (·.kind.isTypeLike) id steps outer node := by
  unfold enclosingType?
  rw [Option.map_eq_some_iff]
  constructor
  · rintro ⟨⟨_, node⟩, found, rfl⟩
    obtain ⟨steps, above⟩ := nearest?_eq_some_iff.mp found
    exact ⟨steps, node, above⟩
  · rintro ⟨steps, node, above⟩
    exact ⟨(outer, node), nearest?_eq_some_iff.mpr ⟨steps, above⟩, rfl⟩

theorem firstAbove_of_outer? (around : unit.outer? id = some outer) :
    ∃ steps node, unit.FirstAbove (·.kind.isTypeLike) id steps outer node := by
  by_cases bound : unit.IsBound id
  · rw [outer?_of_isBound bound] at around
    cases around
  · rw [outer?_of_not_isBound bound] at around
    exact enclosingType?_eq_some_iff.mp around

theorem outward_eq_along (steps : Nat) : unit.outward id steps = along unit.outer? id steps := by
  induction steps with
  | zero => rfl
  | succ steps ih => rw [outward, ih, along]

theorem exists_outward_of_le {earlier later : Nat} (before : earlier ≤ later)
    (met : unit.outward id later = some type) : ∃ other, unit.outward id earlier = some other := by
  rw [outward_eq_along] at met
  rw [outward_eq_along]
  exact exists_along_of_le before met

theorem outward_of_met {first : Nat} (met : unit.outward id first = some here) (second : Nat) :
    unit.outward id (first + second) = unit.outward here second := by
  simp only [outward_eq_along] at met ⊢
  exact along_of_reached met second

/-- The way outward goes up. -/
theorem exists_above_of_outward {count : Nat} (met : unit.outward id count = some type) :
    ∃ steps ≥ count, unit.above? id steps = some type := by
  induction count generalizing type with
  | zero => exact ⟨0, Nat.le_refl 0, met⟩
  | succ count ih =>
      obtain ⟨between, metBetween, around⟩ := Option.bind_eq_some_iff.mp met
      obtain ⟨steps, enough, reached⟩ := ih metBetween
      obtain ⟨more, node, above⟩ := firstAbove_of_outer? around
      refine ⟨steps + (more + 1), by omega, ?_⟩
      exact (along_of_reached reached _).trans above.reached

/-- The way outward meets every type on the way up, as long as that meets none with a binding. -/
theorem exists_outward_succ (reached : unit.above? id (steps + 1) = some type)
    (isType : unit.IsType type)
    (free : ∀ earlier < steps + 1, ∀ between, unit.above? id earlier = some between →
      ¬ unit.IsBound between) :
    ∃ count, unit.outward id (count + 1) = some type := by
  induction steps using Nat.strongRecOn generalizing id with
  | ind steps ih =>
      obtain ⟨node, present, typeLike⟩ := isType
      obtain ⟨nearer, within, outer, outerNode, above⟩ : ∃ nearer ≤ steps, ∃ outer outerNode,
          unit.FirstAbove (·.kind.isTypeLike) id nearer outer outerNode :=
        exists_firstAbove reached present typeLike
      have around : unit.outer? id = some outer :=
        (outer?_of_not_isBound (free 0 (Nat.succ_pos steps) id rfl)).trans
          (enclosingType?_eq_some_iff.mpr ⟨nearer, outerNode, above⟩)
      obtain ⟨more, rfl⟩ := Nat.exists_eq_add_of_le within
      rw [Nat.add_right_comm, above?, along_of_reached above.reached] at reached
      cases more with
      | zero =>
          obtain rfl := Option.some.inj reached
          exact ⟨0, outward_succ around 0⟩
      | succ more =>
          obtain ⟨count, met⟩ := ih more (by omega) reached (by
            intro earlier before between metBetween
            refine free (nearer + 1 + earlier) (by omega) between ?_
            exact (along_of_reached above.reached earlier).trans metBetween)
          exact ⟨count + 1, (outward_succ around _).trans met⟩

/-- A way outward that comes back never ends. -/
theorem ComesBack.goes_on (back : unit.ComesBack id) (steps : Nat) :
    ∃ type, unit.outward id steps = some type := by
  obtain ⟨first, later, type, before, met, again⟩ := back
  obtain ⟨period, rfl⟩ := Nat.exists_eq_add_of_lt before
  rw [Nat.add_assoc, outward_of_met met, outward_eq_along] at again
  have far : unit.outward id (first + (period + 1) * steps) = some type := by
    rw [outward_of_met met, outward_eq_along, along_mul again]
  refine exists_outward_of_le ?_ far
  exact Nat.le_trans (Nat.le_mul_of_pos_left steps (Nat.succ_pos period)) (Nat.le_add_left _ first)

/-- A name by the rule is built up from where the way outward ends. -/
theorem not_comesBack_of_inwardName {result : Except IdentityError String}
    (named : unit.InwardName id result) : ¬ unit.ComesBack id := by
  have ends : ∃ steps, unit.outward id steps = none := by
    induction named with
    | bound present bound => exact ⟨1, outer?_of_isBound ⟨_, _, present, bound⟩⟩
    | topLevel present kind unbound outermost =>
        exact ⟨1, (outer?_of_unbound present (by rw [kind]; exact unbound)).trans outermost⟩
    | inPackage present kind unbound outermost =>
        exact ⟨1, (outer?_of_unbound present (by rw [kind]; exact unbound)).trans outermost⟩
    | outermostAnonymous present kind unbound outermost =>
        exact ⟨1, (outer?_of_unbound present (by rw [kind]; exact unbound)).trans outermost⟩
    | nested present unbound enclosed _ _ ih =>
        obtain ⟨steps, ends⟩ := ih
        exact ⟨steps + 1,
          (outward_succ ((outer?_of_unbound present unbound).trans enclosed) steps).trans ends⟩
  obtain ⟨steps, ends⟩ := ends
  intro back
  obtain ⟨type, met⟩ := back.goes_on steps
  cases ends.symm.trans met

/-- The rule gives one result. -/
theorem InwardName.unique {result result' : Except IdentityError String}
    (named : unit.InwardName id result) (named' : unit.InwardName id result') :
    result = result' := by
  have straight := not_comesBack_of_inwardName named
  rw [← placeholderName_of_inwardName named straight,
    ← placeholderName_of_inwardName named' straight]

/-- Above a type from which the way outward comes back stands none with a binding: the way would
meet the first of them, and end there. -/
theorem ComesBack.not_isBound (back : unit.ComesBack id)
    (reached : unit.above? id steps = some type) : ¬ unit.IsBound type := by
  induction steps using Nat.strongRecOn generalizing type with
  | ind steps ih =>
      intro bound
      have met : ∃ count, unit.outward id count = some type := by
        cases steps with
        | zero => exact ⟨0, reached⟩
        | succ steps =>
            obtain ⟨count, met⟩ := exists_outward_succ reached bound.isType
              fun earlier before between metBetween => ih earlier before metBetween
            exact ⟨count + 1, met⟩
      obtain ⟨count, met⟩ := met
      obtain ⟨further, onward⟩ := back.goes_on (count + 1)
      rw [outward, met, Option.bind_some, outer?_of_isBound bound] at onward
      cases onward

/-- The way outward comes back exactly where the way up leads into a circle that holds a type, and
to no type with a binding. -/
theorem comesBack_iff :
    unit.ComesBack id ↔
      (∀ other, unit.Reaches id other → ¬ unit.IsBound other) ∧
        ∃ type, unit.Reaches id type ∧ unit.IsType type ∧ unit.InCircle type := by
  constructor
  · intro back
    refine ⟨fun other ⟨steps, reached⟩ => back.not_isBound reached, ?_⟩
    obtain ⟨first, later, type, before, met, again⟩ := back
    obtain ⟨period, rfl⟩ := Nat.exists_eq_add_of_lt before
    obtain ⟨_, _, around⟩ := Option.bind_eq_some_iff.mp again
    obtain ⟨_, node, above⟩ := firstAbove_of_outer? around
    rw [Nat.add_assoc, outward_of_met met] at again
    obtain ⟨toType, _, reached⟩ := exists_above_of_outward met
    obtain ⟨round, enough, back⟩ := exists_above_of_outward again
    exact ⟨type, ⟨toType, reached⟩, ⟨node, above.present, above.passes⟩, round, by omega, back⟩
  · rintro ⟨free, type, ⟨toType, reached⟩, isType, period, positive, around⟩
    have met : ∃ count, unit.outward id count = some type := by
      cases toType with
      | zero => exact ⟨0, reached⟩
      | succ toType =>
          obtain ⟨count, met⟩ := exists_outward_succ reached isType
            fun earlier _ between metBetween => free between ⟨earlier, metBetween⟩
          exact ⟨count + 1, met⟩
    obtain ⟨count, met⟩ := met
    obtain ⟨less, rfl⟩ := Nat.exists_eq_succ_of_ne_zero (Nat.ne_of_gt positive)
    obtain ⟨more, again⟩ := exists_outward_succ around isType
      fun earlier _ between metBetween =>
        free between (Reaches.trans ⟨toType, reached⟩ ⟨earlier, metBetween⟩)
    exact ⟨count, count + (more + 1), type, by omega, met, (outward_of_met met _).trans again⟩

/-- A circle with a type that has a binding, or without any type, does not bring the way outward
back: what a node in a circle reaches is the circle. -/
theorem not_comesBack_of_circle (toCircle : unit.Reaches id here)
    (harmless : (∃ other, unit.Reaches here other ∧ unit.IsBound other) ∨
      ∀ other, unit.Reaches here other → ¬ unit.IsType other) : ¬ unit.ComesBack id := by
  intro back
  obtain ⟨free, type, toType, isType, around⟩ := comesBack_iff.mp back
  rcases harmless with ⟨other, onward, bound⟩ | typeless
  · exact free other (toCircle.trans onward) bound
  · -- there is only one circle on the way up
    have within : unit.Reaches here type := by
      rcases toCircle.total toType with onward | onward
      · exact onward
      · exact around.reaches_back onward
    exact typeless type within isType

/-! ## The type that is met again -/

/-- The way outward meets a type for the second time, and has met none twice before. -/
def FirstMetAgain (unit : SourceUnit) (id type : NodeId) : Prop :=
  ∃ later, unit.outward id later = some type ∧
    (∃ first < later, unit.outward id first = some type) ∧
    ∀ first second, first < second → second < later →
      unit.outward id first ≠ unit.outward id second

theorem exists_firstMetAgain_iff : (∃ type, unit.FirstMetAgain id type) ↔ unit.ComesBack id := by
  constructor
  · rintro ⟨type, later, again, ⟨first, before, met⟩, _⟩
    exact ⟨first, later, type, before, met, again⟩
  · rintro ⟨first, later, type, before, met, again⟩
    classical
    have repeats : ∃ later, ∃ first < later, ∃ type, unit.outward id first = some type ∧
        unit.outward id later = some type :=
      ⟨later, first, before, type, met, again⟩
    obtain ⟨first, before, type, met, again⟩ := Nat.find_spec repeats
    refine ⟨type, Nat.find repeats, again, ⟨first, before, met⟩, ?_⟩
    intro earlier second apart below same
    obtain ⟨found, metFound⟩ := exists_outward_of_le (Nat.le_of_lt below) again
    exact Nat.find_min repeats below ⟨earlier, apart, found, same.trans metFound, metFound⟩

/-- What the walk knows after some rounds from a type: where it is, which types it has left behind,
and that it has not met any of these twice. -/
structure OnWay (unit : SourceUnit) (origin : NodeId) (steps : Nat) (visited : List NodeId)
    (here : NodeId) : Prop where
  here : unit.outward origin steps = some here
  visited : ∀ type, type ∈ visited ↔ ∃ earlier < steps, unit.outward origin earlier = some type
  apart : ∀ first second, first < second → second < steps →
    unit.outward origin first ≠ unit.outward origin second

namespace OnWay

theorem start (id : NodeId) : unit.OnWay id 0 [] id where
  here := rfl
  visited := by simp
  apart := fun _ second _ below => absurd below (Nat.not_lt_zero second)

/-- The walk leaves a new type behind and goes on. -/
theorem next (way : unit.OnWay origin steps visited here) (new : here ∉ visited)
    (around : unit.outer? here = some outer) :
    unit.OnWay origin (steps + 1) (here :: visited) outer where
  here := by rw [outward, way.here, Option.bind_some, around]
  visited := by
    intro type
    rw [List.mem_cons, way.visited]
    constructor
    · rintro (rfl | ⟨earlier, before, met⟩)
      · exact ⟨steps, Nat.lt_succ_self steps, way.here⟩
      · exact ⟨earlier, Nat.lt_succ_of_lt before, met⟩
    · rintro ⟨earlier, before, met⟩
      rcases Nat.lt_or_eq_of_le (Nat.le_of_lt_succ before) with sooner | rfl
      · exact .inr ⟨earlier, sooner, met⟩
      · exact .inl (Option.some.inj (met.symm.trans way.here))
  apart := by
    intro first second before below same
    rcases Nat.lt_or_eq_of_le (Nat.le_of_lt_succ below) with sooner | rfl
    · exact way.apart first second before sooner same
    · exact new ((way.visited here).mpr ⟨first, before, same.trans way.here⟩)

/-- Where the walk is at a type that it has left behind, that is the first one met again. -/
theorem firstMetAgain_iff (way : unit.OnWay origin steps visited here) (old : here ∈ visited) :
    unit.FirstMetAgain origin type ↔ type = here := by
  obtain ⟨first, before, met⟩ := (way.visited here).mp old
  constructor
  · rintro ⟨later, again, ⟨earlier, sooner, metFirst⟩, apart⟩
    rcases Nat.lt_trichotomy later steps with less | rfl | more
    · exact absurd (metFirst.trans again.symm) (way.apart earlier later sooner less)
    · exact Option.some.inj (again.symm.trans way.here)
    · exact absurd (met.trans way.here.symm) (apart first steps before more)
  · rintro rfl
    exact ⟨steps, way.here, ⟨first, before, met⟩, way.apart⟩

/-- Where the way ends at a type that was not left behind, none is met again. -/
theorem not_firstMetAgain (way : unit.OnWay origin steps visited here) (new : here ∉ visited)
    (ends : unit.outer? here = none) : ¬ unit.FirstMetAgain origin type := by
  rintro ⟨later, again, ⟨earlier, sooner, metFirst⟩, _⟩
  rcases Nat.lt_trichotomy later steps with less | rfl | more
  · exact way.apart earlier later sooner less (metFirst.trans again.symm)
  · exact new ((way.visited here).mpr
      ⟨earlier, sooner, metFirst.trans (again.symm.trans way.here)⟩)
  · obtain ⟨_, onward⟩ := exists_outward_of_le more again
    rw [outward, way.here, Option.bind_some, ends] at onward
    cases onward

/-- The walk complains about nesting exactly where the way outward comes back, and names the first
type that it meets again. -/
theorem outwardName_eq_typeNesting_iff {steps : Nat} {visited : List NodeId} {here : NodeId}
    (way : unit.OnWay origin steps visited here) (isType : unit.IsType here) (suffix : String)
    {value : String} :
    unit.outwardName visited here suffix = .error (.malformed .typeNesting value) ↔
      ∃ type, unit.FirstMetAgain origin type ∧ value = toString type := by
  by_cases old : here ∈ visited
  · rw [outwardName_eq, if_pos old]
    simp only [way.firstMetAgain_iff old, Except.error.injEq, IdentityError.malformed.injEq,
      true_and, exists_eq_left]
    exact eq_comm
  · obtain ⟨node, present, typeLike⟩ := isType
    have silent : unit.outer? here = none →
        ¬ ∃ type, unit.FirstMetAgain origin type ∧ value = toString type := by
      rintro ends ⟨type, again, _⟩
      exact way.not_firstMetAgain old ends again
    rw [outwardName_of_present present typeLike old]
    cases bound : node.kind.typeBinding with
    | some binding =>
        exact iff_of_false (by simp) (silent (outer?_of_isBound ⟨node, binding, present, bound⟩))
    | none =>
        have toOuter := outer?_of_unbound present bound
        cases enclosed : unit.enclosingType? here with
        | none =>
            refine iff_of_false ?_ (silent (toOuter.trans enclosed))
            cases node.kind <;> simp
        | some outer =>
            have fewer := countOutside_cons_lt (Array.getElem?_eq_some_iff.mp present).1 old
            exact outwardName_eq_typeNesting_iff (way.next old (toOuter.trans enclosed))
              (isTypeLike_of_enclosingType? enclosed) _
termination_by unit.countOutside visited

end OnWay

/-- The identity of a type fails over nesting when the walk that names it does. -/
theorem typeIdentity_eq_typeNesting_iff (present : unit.node? id = some node)
    (typeLike : node.kind.isTypeLike = true) (unbound : node.kind.typeBinding = none)
    {value : String} :
    unit.typeIdentity id = .error (.malformed .typeNesting value) ↔
      unit.placeholderName id = .error (.malformed .typeNesting value) := by
  rw [typeIdentity_eq_of_unbound present typeLike unbound]
  cases unit.placeholderName id with
  | error error => simp [bind, Except.bind]
  | ok name =>
      refine iff_of_false ?_ (by simp)
      simp only [bind, Except.bind]
      cases formed : Key.ofType name node.kind.typeParameters with
      | ok key => simp [pure, Except.pure]
      | error error =>
          rintro ⟨rfl⟩
          rcases Key.ofType_eq_error formed with (named | named) | ⟨_, _, named | named⟩ <;>
            cases named

/-- A type without a binding that has an identity has the name of the rule, and the key that is made
from it. -/
theorem name_of_typeIdentity {identity : NodeIdentity} (present : unit.node? id = some node)
    (typeLike : node.kind.isTypeLike = true) (unbound : node.kind.typeBinding = none)
    (identified : unit.typeIdentity id = .ok identity) :
    unit.InwardName id (.ok identity.qualifiedName) ∧
      Key.ofType identity.qualifiedName node.kind.typeParameters = .ok identity.key := by
  rw [typeIdentity_eq_of_unbound present typeLike unbound] at identified
  obtain ⟨name, walked, identified⟩ := bind_eq_ok_iff.mp identified
  obtain ⟨key, formed, made⟩ := bind_eq_ok_iff.mp identified
  obtain rfl := Except.ok.inj made
  have straight : ¬ unit.ComesBack id := by
    intro back
    obtain ⟨type, again⟩ := exists_firstMetAgain_iff.mpr back
    have fails := ((OnWay.start id).outwardName_eq_typeNesting_iff ⟨node, present, typeLike⟩ "").mpr
      ⟨type, again, rfl⟩
    rw [placeholderName, fails] at walked
    cases walked
  obtain ⟨result, named⟩ := exists_inwardName present typeLike keepsOff_nil straight
  obtain rfl := (placeholderName_of_inwardName named straight).symm.trans walked
  exact ⟨named, formed⟩

/-- Naming ends on every unit. The walk needs one round more than there are types, at most. It
complains about nesting exactly where the nearest types around lead back to one of them before one
has a binding, and names the first of them that it meets again. That takes a circle of parents with
a type in it and no type with a binding anywhere on the way: a circle in which one has a binding, or
which holds no type, does not bring it about. -/
theorem naming_ends {unit : SourceUnit} {id : NodeId} {node : SyntaxNode}
    (present : unit.node? id = some node) (typeLike : node.kind.isTypeLike = true)
    (unbound : node.kind.typeBinding = none) :
    unit.resultWithin? (unit.types.length + 1) { here := id } = some (unit.placeholderName id) ∧
      (∀ value, unit.typeIdentity id = .error (.malformed .typeNesting value) ↔
        ∃ type, unit.FirstMetAgain id type ∧ value = toString type) ∧
      ((∃ type, unit.FirstMetAgain id type) ↔ unit.ComesBack id) ∧
      (unit.ComesBack id ↔
        (∀ other, unit.Reaches id other → ¬ unit.IsBound other) ∧
          ∃ type, unit.Reaches id type ∧ unit.IsType type ∧ unit.InCircle type) ∧
      ∀ corner, unit.Reaches id corner →
        ((∃ other, unit.Reaches corner other ∧ unit.IsBound other) ∨
          ∀ other, unit.Reaches corner other → ¬ unit.IsType other) →
        ∀ value, unit.typeIdentity id ≠ .error (.malformed .typeNesting value) := by
  have nesting : ∀ value, unit.typeIdentity id = .error (.malformed .typeNesting value) ↔
      ∃ type, unit.FirstMetAgain id type ∧ value = toString type := by
    intro value
    rw [typeIdentity_eq_typeNesting_iff present typeLike unbound]
    exact (OnWay.start id).outwardName_eq_typeNesting_iff ⟨node, present, typeLike⟩ ""
  refine ⟨?_, nesting, exists_firstMetAgain_iff, comesBack_iff, ?_⟩
  · exact resultWithin?_eq List.nodup_nil (List.nil_subset _) (by simp)
  · intro corner toCorner harmless value fails
    obtain ⟨type, again, _⟩ := (nesting value).mp fails
    exact not_comesBack_of_circle toCorner harmless (exists_firstMetAgain_iff.mp ⟨type, again⟩)

end SourceUnit

/-- A class whose method holds a class that it stands in itself, an anonymous class in it, and two
classes that stand in each other, one of them with a binding. -/
def selfNested : SourceUnit where
  fileId := ⟨1⟩
  source :=
    "class A { void run() { class B {} } Object o = new Object() {}; class C { class D {} } }"
  nodes := #[
    { parent := some 2, start := 0, stop := 86, kind := .namedType { name := "A" } },
    { parent := some 0, start := 10, stop := 35,
      kind := .method { name := "run", hasBody := true } },
    { parent := some 1, start := 23, stop := 33, kind := .namedType { name := "B" } },
    { parent := some 0, start := 47, stop := 62, kind := .anonymousClass {} },
    { parent := some 5, start := 64, stop := 84,
      kind := .namedType { name := "C", binding := some ⟨"q.C", []⟩ } },
    { parent := some 4, start := 74, stop := 82, kind := .namedType { name := "D" } }]

/-- From the anonymous class the way outward meets A, B and again A, about which its identity
complains. The circle of C and D has a binding in it, and the identity of D does not complain. -/
theorem selfNested_naming_ends :
    selfNested.FirstMetAgain 3 0 ∧ selfNested.types.length = 5 ∧
      selfNested.typeIdentity 3 = .error (.malformed .typeNesting "0") ∧
      selfNested.resultWithin? 6 { here := 3 } = some (.error (.malformed .typeNesting "0")) ∧
      ∀ value, selfNested.typeIdentity 5 ≠ .error (.malformed .typeNesting value) := by
  have again : selfNested.FirstMetAgain 3 0 := by
    refine ⟨3, by decide, ⟨1, by decide, by decide⟩, ?_⟩
    intro first second before below
    have cases : ∀ second < 3, ∀ first < second,
        selfNested.outward 3 first ≠ selfNested.outward 3 second := by decide
    exact cases second below first before
  have anonymous : selfNested.node? 3 = some selfNested.nodes[3] := rfl
  have inCircle : selfNested.node? 5 = some selfNested.nodes[5] := rfl
  obtain ⟨ends, nesting, _⟩ := SourceUnit.naming_ends anonymous rfl rfl
  obtain ⟨_, _, _, _, harmless⟩ := SourceUnit.naming_ends inCircle rfl rfl
  have fails := (nesting "0").mpr ⟨0, again, rfl⟩
  have walked := (SourceUnit.typeIdentity_eq_typeNesting_iff anonymous rfl rfl).mp fails
  refine ⟨again, rfl, fails, ends.trans (congrArg some walked), ?_⟩
  refine harmless 5 ⟨0, rfl⟩ (.inl ⟨4, ⟨1, rfl⟩, ?_⟩)
  exact ⟨selfNested.nodes[4], ⟨"q.C", []⟩, rfl, rfl⟩

end CodeIndex
