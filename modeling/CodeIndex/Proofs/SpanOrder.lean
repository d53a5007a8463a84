import CodeIndex.Proofs.LineBreaks

/-!
# The order of positions

Offsets that go up have positions that go up, line before column, so that a range of offsets is a
range of positions.

* `Position.Before` is the order of positions; two positions make a span unless they are the wrong
  way round.
* `Text.scanned_before`: one character further on is further on in this order, so any later offset
  is. Between two lines the column begins again, but the line goes up.
* `rangeError?` says why a range does not lie in a text. `lookUpRange_eq_error`: a function that
  looks up both ends of a range, as spans and slices do, refuses it for that reason.
* `LineMap.position_eq_scanned`: in a text of up to `2 ^ 32 - 2` characters every line and column
  is told apart.
* `spans_ordered`: the spans of such a text, what they are and why there are none.
-/

namespace CodeIndex

/-! ## Before -/

/-- One position stands in front of another one: on an earlier line, or on the same line in an
earlier column. -/
def Position.Before (first second : Position) : Prop :=
  first.line < second.line ∨ first.line = second.line ∧ first.column < second.column

instance (first second : Position) : Decidable (first.Before second) :=
  inferInstanceAs (Decidable (_ ∨ _))

namespace Position

variable {first second third : Position}

theorem Before.trans (early : first.Before second) (late : second.Before third) :
    first.Before third := by
  unfold Before at *
  omega

theorem Before.asymm (early : first.Before second) : ¬second.Before first := by
  unfold Before at *
  omega

theorem not_before_self : ¬first.Before first := fun early => early.asymm early

end Position

theorem Span.between?_of_not_before {first last : Position} (ordered : ¬last.Before first) :
    Span.between? first last = some ⟨first.line, first.column, last.line, last.column⟩ :=
  if_neg ordered

/-! ## Offsets in order -/

namespace Text

variable {text : List Char} {offset later : Nat}

theorem scanned_before_succ : (scanned text offset).Before (scanned text (offset + 1)) := by
  rw [scanned_succ]
  split
  · exact .inl (Nat.lt_succ_self _)
  · exact .inr ⟨rfl, Nat.lt_succ_self _⟩

/-- A later offset has a later position. -/
theorem scanned_before (early : offset < later) :
    (scanned text offset).Before (scanned text later) := by
  induction later, early using Nat.le_induction with
  | base => exact scanned_before_succ
  | succ later _ ih => exact ih.trans scanned_before_succ

theorem not_scanned_before (ordered : offset ≤ later) :
    ¬(scanned text later).Before (scanned text offset) := by
  rcases Nat.lt_or_eq_of_le ordered with early | rfl
  · exact (scanned_before early).asymm
  · exact Position.not_before_self

theorem one_le_scanned : 1 ≤ (scanned text offset).line ∧ 1 ≤ (scanned text offset).column :=
  ⟨Nat.le_add_right 1 _, Nat.le_add_right 1 _⟩

/-- With every character the line or the column goes up by at most one. -/
theorem scanned_le (text : List Char) (offset : Nat) :
    (scanned text offset).line ≤ offset + 1 ∧ (scanned text offset).column ≤ offset + 1 := by
  induction offset with
  | zero => exact ⟨Nat.le_refl 1, Nat.le_refl 1⟩
  | succ offset ih =>
      obtain ⟨line, column⟩ := ih
      rw [scanned_succ]
      split
      · exact ⟨Nat.succ_le_succ line, Nat.le_add_left 1 _⟩
      · exact ⟨Nat.le_succ_of_le line, Nat.succ_le_succ column⟩

end Text

/-! ## Ranges -/

section Ranges

variable {α β : Type} {length first last : Nat} {lookUp : Nat → Except PositionError α}
  {combine : α → α → Except PositionError β} {error : PositionError}

/-- Why a range does not lie in a text of some length: it ends before it starts, or its start is
past the end of the text, or else its end is. -/
def rangeError? (length first last : Nat) : Option PositionError :=
  if last < first then some (.inverted first last)
  else if length < first then some (.outOfRange first length)
  else if length < last then some (.outOfRange last length)
  else none

theorem rangeError?_eq_none_iff :
    rangeError? length first last = none ↔ first ≤ last ∧ last ≤ length := by
  unfold rangeError?
  split_ifs <;> simp only [false_iff, true_iff] <;> omega

theorem rangeError?_of_inverted (inverted : last < first) :
    rangeError? length first last = some (.inverted first last) := if_pos inverted

theorem rangeError?_of_start_outside (ordered : first ≤ last) (outside : length < first) :
    rangeError? length first last = some (.outOfRange first length) := by
  unfold rangeError?
  rw [if_neg (Nat.not_lt.mpr ordered), if_pos outside]

theorem rangeError?_of_end_outside (ordered : first ≤ last) (inText : first ≤ length)
    (outside : length < last) :
    rangeError? length first last = some (.outOfRange last length) := by
  unfold rangeError?
  rw [if_neg (Nat.not_lt.mpr ordered), if_neg (Nat.not_lt.mpr inText), if_pos outside]

/-- Looks up the two ends of a range, the start first, and puts together what is found. -/
def lookUpRange (lookUp : Nat → Except PositionError α)
    (combine : α → α → Except PositionError β) (first last : Nat) : Except PositionError β :=
  if last < first then .error (.inverted first last)
  else do
    let start ← lookUp first
    let stop ← lookUp last
    combine start stop

variable (inside : ∀ offset, offset ≤ length → ∃ found, lookUp offset = .ok found)
  (outside : ∀ offset, length < offset → lookUp offset = .error (.outOfRange offset length))

include inside outside in
/-- A range that does not lie in the text is refused for that reason. -/
theorem lookUpRange_eq_error (refused : rangeError? length first last = some error) :
    lookUpRange lookUp combine first last = .error error := by
  unfold rangeError? at refused
  unfold lookUpRange
  split at refused
  · next inverted =>
      cases refused
      exact if_pos inverted
  · next ordered =>
      rw [if_neg ordered]
      split at refused
      · next past =>
          cases refused
          rw [outside first past]
          rfl
      · next inText =>
          obtain ⟨start, found⟩ := inside first (Nat.not_lt.mp inText)
          split at refused
          · next past =>
              cases refused
              rw [found, outside last past]
              rfl
          · cases refused

include inside outside in
/-- A range for which something is found lies in the text. -/
theorem inRange_of_lookUpRange {result : β}
    (found : lookUpRange lookUp combine first last = .ok result) :
    first ≤ last ∧ last ≤ length := by
  rw [← rangeError?_eq_none_iff]
  cases refused : rangeError? length first last with
  | none => rfl
  | some error =>
      rw [lookUpRange_eq_error inside outside refused] at found
      cases found

end Ranges

/-! ## Spans -/

namespace LineMap

open Text

variable {text : String} {offset first last : Nat}

/-- In a text that is not too long, no line and no column is cut down to the largest one. -/
theorem position_eq_scanned (short : text.length ≤ 2 ^ 32 - 2) (inText : offset ≤ text.length) :
    (ofText text).position offset = .ok (scanned text.toList offset) := by
  have largest : maxCoordinate = 2 ^ 32 - 1 := rfl
  obtain ⟨line, column⟩ := scanned_le text.toList offset
  rw [position_of_le inText, Nat.min_eq_left (by omega), Nat.min_eq_left (by omega)]

theorem exists_position_of_le (offset : Nat) (inText : offset ≤ text.length) :
    ∃ position, (ofText text).position offset = .ok position := ⟨_, position_of_le inText⟩

theorem span_eq_error {error : PositionError}
    (refused : rangeError? text.length first last = some error) :
    (ofText text).span first last = .error error :=
  lookUpRange_eq_error exists_position_of_le (fun _ => position_of_gt) refused

/-- A range in the text has the positions of its two ends. -/
theorem span_of_le (short : text.length ≤ 2 ^ 32 - 2) (ordered : first ≤ last)
    (inText : last ≤ text.length) :
    (ofText text).span first last =
      .ok ⟨(scanned text.toList first).line, (scanned text.toList first).column,
        (scanned text.toList last).line, (scanned text.toList last).column⟩ := by
  unfold span
  rw [if_neg (Nat.not_lt.mpr ordered), position_eq_scanned short (ordered.trans inText),
    position_eq_scanned short inText]
  simp only [bind, Except.bind, Span.between?_of_not_before (not_scanned_before ordered)]

/-- A span is found for the ranges in the text, and is that of the positions of their ends. -/
theorem span_eq_ok_iff (short : text.length ≤ 2 ^ 32 - 2) {span : Span} :
    (ofText text).span first last = .ok span ↔
      first ≤ last ∧ last ≤ text.length ∧
        span = ⟨(scanned text.toList first).line, (scanned text.toList first).column,
          (scanned text.toList last).line, (scanned text.toList last).column⟩ := by
  constructor
  · intro found
    obtain ⟨ordered, inText⟩ : first ≤ last ∧ last ≤ text.length :=
      inRange_of_lookUpRange exists_position_of_le (fun _ => position_of_gt) found
    rw [span_of_le short ordered inText] at found
    exact ⟨ordered, inText, (Except.ok.inj found).symm⟩
  · rintro ⟨ordered, inText, rfl⟩
    exact span_of_le short ordered inText

end LineMap

/-- The positions of a text are in the order of its offsets, and its ranges have spans.

* `increasing`: a later offset has a later position, on a later line or in a later column;
  `distinct`: no two offsets share one.
* `located`: exactly the ranges that lie in the text have a span, `ends`: from the position of the
  start to that of the end, `counted` from one and `ordered`.
* `inverted`, `startOutside`, `endOutside`: why any other range has none. A range that ends before
  it starts is inverted wherever it lies.
* `spanned`: the positions of a range in the right order are never the wrong way round. -/
structure SpansOrdered (text : String) : Prop where
  increasing : ∀ first last, first < last → last ≤ text.length →
    ∃ start stop, (LineMap.ofText text).position first = .ok start ∧
      (LineMap.ofText text).position last = .ok stop ∧ start.Before stop
  distinct : ∀ first last, first ≤ text.length → last ≤ text.length →
    (LineMap.ofText text).position first = (LineMap.ofText text).position last → first = last
  located : ∀ first last, (∃ span, (LineMap.ofText text).span first last = .ok span) ↔
    first ≤ last ∧ last ≤ text.length
  ends : ∀ first last span, (LineMap.ofText text).span first last = .ok span →
    (LineMap.ofText text).position first = .ok ⟨span.startLine, span.startColumn⟩ ∧
      (LineMap.ofText text).position last = .ok ⟨span.endLine, span.endColumn⟩
  counted : ∀ first last span, (LineMap.ofText text).span first last = .ok span →
    1 ≤ span.startLine ∧ 1 ≤ span.startColumn ∧ 1 ≤ span.endLine ∧ 1 ≤ span.endColumn
  ordered : ∀ first last span, (LineMap.ofText text).span first last = .ok span →
    ¬Position.Before ⟨span.endLine, span.endColumn⟩ ⟨span.startLine, span.startColumn⟩
  inverted : ∀ first last, last < first →
    (LineMap.ofText text).span first last = .error (.inverted first last)
  startOutside : ∀ first last, first ≤ last → text.length < first →
    (LineMap.ofText text).span first last = .error (.outOfRange first text.length)
  endOutside : ∀ first last, first ≤ last → first ≤ text.length → text.length < last →
    (LineMap.ofText text).span first last = .error (.outOfRange last text.length)
  spanned : ∀ first last start stop, first ≤ last →
    (LineMap.ofText text).position first = .ok start →
    (LineMap.ofText text).position last = .ok stop →
    Span.between? start stop = some ⟨start.line, start.column, stop.line, stop.column⟩

open LineMap Text in
/-- In every text of up to `2 ^ 32 - 2` characters, spans are in order. -/
theorem spans_ordered (text : String) (short : text.length ≤ 2 ^ 32 - 2) : SpansOrdered text where
  increasing := by
    intro first last early inText
    exact ⟨_, _, position_eq_scanned short (early.le.trans inText),
      position_eq_scanned short inText, scanned_before early⟩
  distinct := by
    intro first last inText inText' same
    rw [position_eq_scanned short inText, position_eq_scanned short inText'] at same
    have samePosition := Except.ok.inj same
    rcases Nat.lt_trichotomy first last with early | equal | late
    · exact absurd (samePosition ▸ scanned_before early) Position.not_before_self
    · exact equal
    · exact absurd (samePosition ▸ scanned_before late) Position.not_before_self
  located := by
    intro first last
    constructor
    · rintro ⟨span, found⟩
      obtain ⟨ordered, inText, _⟩ := (span_eq_ok_iff short).mp found
      exact ⟨ordered, inText⟩
    · rintro ⟨ordered, inText⟩
      exact ⟨_, span_of_le short ordered inText⟩
  ends := by
    intro first last span found
    obtain ⟨ordered, inText, rfl⟩ := (span_eq_ok_iff short).mp found
    exact ⟨position_eq_scanned short (ordered.trans inText), position_eq_scanned short inText⟩
  counted := by
    intro first last span found
    obtain ⟨_, _, rfl⟩ := (span_eq_ok_iff short).mp found
    exact ⟨one_le_scanned.1, one_le_scanned.2, one_le_scanned.1, one_le_scanned.2⟩
  ordered := by
    intro first last span found
    obtain ⟨ordered, _, rfl⟩ := (span_eq_ok_iff short).mp found
    exact not_scanned_before ordered
  inverted := fun _ _ inverted => span_eq_error (rangeError?_of_inverted inverted)
  startOutside := fun _ _ ordered outside =>
    span_eq_error (rangeError?_of_start_outside ordered outside)
  endOutside := fun _ _ ordered inText outside =>
    span_eq_error (rangeError?_of_end_outside ordered inText outside)
  spanned := by
    intro first last start stop ordered starts stops
    have inText : last ≤ text.length := by
      by_contra outside
      rw [position_of_gt (Nat.not_le.mp outside)] at stops
      cases stops
    rw [position_eq_scanned short (ordered.trans inText)] at starts
    rw [position_eq_scanned short inText] at stops
    cases starts
    cases stops
    exact Span.between?_of_not_before (not_scanned_before ordered)

/-- A range over a line end of two characters, one of nothing at the end, and two that are none. -/
theorem twoLines_spans :
    "a\r\nb".length ≤ 2 ^ 32 - 2 ∧
      (∃ span, (LineMap.ofText "a\r\nb").span 0 3 = .ok span) ∧
      (∃ span, (LineMap.ofText "a\r\nb").span 4 4 = .ok span) ∧
      (∃ start stop, (LineMap.ofText "a\r\nb").position 2 = .ok start ∧
        (LineMap.ofText "a\r\nb").position 3 = .ok stop ∧ start.Before stop) ∧
      (LineMap.ofText "a\r\nb").span 9 7 = .error (.inverted 9 7) ∧
      (LineMap.ofText "a\r\nb").span 3 7 = .error (.outOfRange 7 4) :=
  have short : "a\r\nb".length ≤ 2 ^ 32 - 2 := by decide
  have inOrder := spans_ordered "a\r\nb" short
  ⟨short, (inOrder.located 0 3).mpr (by decide), (inOrder.located 4 4).mpr (by decide),
    inOrder.increasing 2 3 (by decide) (by decide), inOrder.inverted 9 7 (by decide),
    inOrder.endOutside 3 7 (by decide) (by decide) (by decide)⟩

end CodeIndex
