import CodeIndex.Proofs.Accounting
import CodeIndex.Proofs.SpanOrder
import Mathlib.Data.List.Forall2

/-!
# Slices of a source text

The characters between two offsets, and the text of a node as the rows show it.

* `Text.between` counts characters; `LineMap.slice` counts bytes, from the start of a line that the
  table has in both.
* `LineMap.place_of_le`: the place of an offset is that of so many whole characters, however many
  bytes each takes. So a slice begins and ends between two characters (`LineMap.slice_of_le`).
* `slices_exact`: what a slice gives for any two offsets, how slices fit together, and that every
  row shows the characters of its node.
-/

namespace CodeIndex

/-- The characters of a text from one offset up to another one. -/
def Text.between (text : String) (first last : Nat) : String :=
  String.ofList ((text.toList.drop first).take (last - first))

/-- Where the text of a range is cut off. -/
def Config.cut (config : Config) (first last : Nat) : Nat :=
  match config.maxValueLength with
  | some limit => min last (first + limit)
  | none => last

theorem Config.clip_between (config : Config) (text : String) (first last : Nat) :
    config.clip (Text.between text first last) =
      Text.between text first (config.cut first last) := by
  unfold clip cut Text.between
  cases config.maxValueLength with
  | none => rfl
  | some limit =>
      have kept : min limit (last - first) = min last (first + limit) - first := by omega
      simp only [String.toList_ofList, List.take_take, kept]

/-! ## Places in bytes -/

namespace LineMap

open Text

variable {text : String} {offset first last : Nat}

/-- The place behind so many characters. -/
def placeBehind (text : String) (count : Nat) : String.Pos.Raw :=
  ⟨String.utf8Len (text.toList.take count)⟩

theorem isValid_placeBehind (text : String) (count : Nat) :
    (placeBehind text count).IsValid text :=
  String.Pos.Raw.isValid_iff_exists_take_toList.mpr ⟨count, (String.utf8ByteSize_ofList _).symm⟩

theorem placeBehind_mono (ordered : first ≤ last) :
    placeBehind text first ≤ placeBehind text last :=
  String.utf8Len_le_of_prefix (List.take_prefix_take_left ordered)

/-- The next place is behind one more character. -/
theorem next_placeBehind (inText : offset < text.length) :
    (placeBehind text offset).next text = placeBehind text (offset + 1) := by
  have inList : offset < text.toList.length := String.length_toList ▸ inText
  have parts : text.toList.take offset ++ text.toList[offset] :: text.toList.drop (offset + 1) =
      text.toList := by
    rw [List.getElem_cons_drop, List.take_append_drop]
  have stepped := String.next_of_valid (text.toList.take offset) text.toList[offset]
    (text.toList.drop (offset + 1))
  rw [parts, String.ofList_toList] at stepped
  unfold placeBehind
  rw [stepped, List.take_succ_eq_append_getElem inList, String.utf8Len_append, String.utf8Len_cons,
    String.utf8Len_nil, Nat.zero_add]

theorem advance_placeBehind {count : Nat} (inText : offset + count ≤ text.length) :
    advance text (placeBehind text offset) count = placeBehind text (offset + count) := by
  induction count generalizing offset with
  | zero => rfl
  | succ count ih =>
      rw [advance, next_placeBehind (by omega), ih (by omega)]
      congr 1
      omega

/-- The place of an offset is behind that many characters. -/
theorem place_of_le (inText : offset ≤ text.length) :
    (ofText text).place offset = .ok (placeBehind text offset) := by
  have begins : lineBegin text.toList offset ≤ offset := lineBegin_le
  have whole : lineBegin text.toList offset + (offset - lineBegin text.toList offset) = offset :=
    Nat.add_sub_cancel' begins
  have further := advance_placeBehind (whole.symm ▸ inText)
  rw [whole] at further
  unfold place
  rw [if_neg (show ¬(ofText text).length < offset from Nat.not_lt.mpr inText)]
  simp only [lineIndex_ofText inText, lineStart_ofText inText]
  exact congrArg _ further

theorem place_of_gt (outside : text.length < offset) :
    (ofText text).place offset = .error (.outOfRange offset text.length) := by
  unfold place
  exact if_pos outside

/-- Every entry of the table lies at the beginning of a character, or at the end of the text. -/
theorem isValid_of_mem_starts {start : LineStart} (member : start ∈ (ofText text).starts) :
    String.Pos.Raw.IsValid text ⟨start.bytes⟩ := by
  rw [← Array.mem_toList_iff, starts_ofText] at member
  obtain ⟨place, _, rfl⟩ := List.mem_map.mp member
  exact isValid_placeBehind text place

/-- The line of an offset has an entry, and starts at the offset or in front of it. -/
theorem exists_start (inText : offset ≤ text.length) :
    ∃ start, (ofText text).starts[(ofText text).lineIndex offset]? = some start ∧
      start.chars ≤ offset := by
  have begins : lineBegin text.toList offset ≤ offset := lineBegin_le
  refine ⟨entry text.toList (lineBegin text.toList offset), ?_, begins⟩
  rw [lineIndex_ofText inText, getElem?_starts inText]

/-! ## Slices -/

theorem extract_placeBehind (ordered : first ≤ last) :
    (placeBehind text first).extract text (placeBehind text last) = between text first last := by
  have front : text.toList.take last =
      text.toList.take first ++ (text.toList.drop first).take (last - first) := by
    rw [← List.take_add, Nat.add_sub_cancel' ordered]
  have extracted := String.extract_of_valid (text.toList.take first)
    ((text.toList.drop first).take (last - first)) (text.toList.drop last)
  rw [← front, List.take_append_drop, String.ofList_toList, ← String.utf8Len_append, ← front]
    at extracted
  exact extracted

theorem slice_of_le (ordered : first ≤ last) (inText : last ≤ text.length) :
    (ofText text).slice first last = .ok (between text first last) := by
  unfold slice
  rw [if_neg (Nat.not_lt.mpr ordered), place_of_le (ordered.trans inText), place_of_le inText]
  exact congrArg Except.ok (extract_placeBehind ordered)

theorem exists_place_of_le (offset : Nat) (inText : offset ≤ text.length) :
    ∃ place, (ofText text).place offset = .ok place := ⟨_, place_of_le inText⟩

theorem slice_eq_error {error : PositionError}
    (refused : rangeError? text.length first last = some error) :
    (ofText text).slice first last = .error error :=
  lookUpRange_eq_error exists_place_of_le (fun _ => place_of_gt) refused

/-- A slice is found for the ranges in the text, and has the characters of the range. -/
theorem slice_eq_ok_iff {piece : String} :
    (ofText text).slice first last = .ok piece ↔
      first ≤ last ∧ last ≤ text.length ∧ piece = between text first last := by
  constructor
  · intro found
    obtain ⟨ordered, inText⟩ : first ≤ last ∧ last ≤ text.length :=
      inRange_of_lookUpRange exists_place_of_le (fun _ => place_of_gt) found
    rw [slice_of_le ordered inText] at found
    exact ⟨ordered, inText, (Except.ok.inj found).symm⟩
  · rintro ⟨ordered, inText, rfl⟩
    exact slice_of_le ordered inText

end LineMap

theorem Text.between_append {text : String} {first middle last : Nat} (early : first ≤ middle)
    (late : middle ≤ last) :
    between text first middle ++ between text middle last = between text first last := by
  unfold between
  have further : middle = first + (middle - first) := (Nat.add_sub_cancel' early).symm
  have whole : last - first = (middle - first) + (last - middle) := by omega
  rw [← String.ofList_append, whole, List.take_add, List.drop_drop, ← further]

theorem Text.between_all (text : String) : between text 0 text.length = text := by
  unfold between
  rw [List.drop_zero, Nat.sub_zero, ← String.length_toList, List.take_length,
    String.ofList_toList]

/-! ## The rows of a build -/

/-- The rows for places are those of some nodes, in the order of the nodes and once each. -/
theorem exists_shown (config : Config) (unit : SourceUnit) :
    ∃ shown : List (NodeId × SyntaxNode), shown.Sublist unit.entries ∧
      List.Forall₂ (fun entry astNode =>
        AstNode.IsPlaceOf (unit.context config entry.1 entry.2) astNode)
        shown (unit.build config).records.astNodes := by
  rw [unit.build_records config, RecordSet.concat_rows (·.astNodes) rfl fun _ _ => rfl,
    SourceUnit.shares, List.map_map, List.flatMap_map]
  induction unit.entries with
  | nil => exact ⟨[], .slnil, .nil⟩
  | cons entry rest ih =>
      obtain ⟨shown, sublist, places⟩ := ih
      rw [List.flatMap_cons]
      rcases share_astNodes config unit entry.1 entry.2 with none | ⟨astNode, one, place⟩
      · refine ⟨shown, sublist.cons entry, ?_⟩
        simpa [none] using places
      · refine ⟨entry :: shown, sublist.cons_cons entry, ?_⟩
        simp only [Function.comp_apply, one]
        exact .cons place places

/-- A row that is the place of a node shows the characters of the node, cut off at the limit. -/
theorem value_of_isPlaceOf {config : Config} {unit : SourceUnit} {id : NodeId} {node : SyntaxNode}
    {astNode : AstNode} (place : astNode.IsPlaceOf (unit.context config id node)) :
    node.start ≤ node.stop ∧ node.stop ≤ unit.source.length ∧
      astNode.value =
        Text.between unit.source node.start (config.cut node.start node.stop) := by
  obtain ⟨piece, found, clipped⟩ := place.value
  obtain ⟨ordered, inText, rfl⟩ := LineMap.slice_eq_ok_iff.mp found
  exact ⟨ordered, inText, clipped.trans (config.clip_between ..)⟩

/-- Slices of a text are its characters, with nothing lost and nothing cut in two.

* `starts`: every line starts between two characters; `reached`: the line that an offset is
  looked up in is in the table and does not start behind it.
* `sliced`: for a range in the text both places are found. They lie between two characters, in
  the text and in order, and what stands between them are the characters of the range.
* `joined`, `whole`: slices that meet make up one slice, and the slice of everything is the text.
* `inverted`, `startOutside`, `endOutside`: why there is no slice of any other range. -/
structure SlicedExactly (text : String) : Prop where
  starts : ∀ start ∈ (LineMap.ofText text).starts, String.Pos.Raw.IsValid text ⟨start.bytes⟩
  reached : ∀ offset, offset ≤ text.length → ∃ start,
    (LineMap.ofText text).starts[(LineMap.ofText text).lineIndex offset]? = some start ∧
      start.chars ≤ offset
  sliced : ∀ first last, first ≤ last → last ≤ text.length → ∃ start stop,
    (LineMap.ofText text).place first = .ok start ∧
      (LineMap.ofText text).place last = .ok stop ∧
      start.IsValid text ∧ stop.IsValid text ∧ start ≤ stop ∧ stop ≤ text.rawEndPos ∧
      (LineMap.ofText text).slice first last = .ok (Text.between text first last)
  joined : ∀ first middle last, first ≤ middle → middle ≤ last → last ≤ text.length →
    ∃ front back, (LineMap.ofText text).slice first middle = .ok front ∧
      (LineMap.ofText text).slice middle last = .ok back ∧
      (LineMap.ofText text).slice first last = .ok (front ++ back)
  whole : (LineMap.ofText text).slice 0 text.length = .ok text
  inverted : ∀ first last, last < first →
    (LineMap.ofText text).slice first last = .error (.inverted first last)
  startOutside : ∀ first last, first ≤ last → text.length < first →
    (LineMap.ofText text).slice first last = .error (.outOfRange first text.length)
  endOutside : ∀ first last, first ≤ last → first ≤ text.length → text.length < last →
    (LineMap.ofText text).slice first last = .error (.outOfRange last text.length)

open LineMap Text in
/-- Every text is sliced exactly, and every row for a place shows the characters of its node: the
rows are those of some nodes of the unit, in their order and once each, and the text of each row is
what stands in the source from the start of the node up to where it is cut off. -/
theorem slices_exact (text : String) (config : Config) (unit : SourceUnit) :
    SlicedExactly text ∧
      ∃ shown : List (NodeId × SyntaxNode), shown.Sublist unit.entries ∧
        List.Forall₂ (fun entry astNode =>
          AstNode.IsPlaceOf (unit.context config entry.1 entry.2) astNode ∧
            entry.2.start ≤ entry.2.stop ∧ entry.2.stop ≤ unit.source.length ∧
            astNode.value = between unit.source entry.2.start
              (config.cut entry.2.start entry.2.stop))
          shown (unit.build config).records.astNodes := by
  refine ⟨?_, ?_⟩
  · exact {
      starts := fun _ => isValid_of_mem_starts
      reached := fun _ => exists_start
      sliced := by
        intro first last ordered inText
        exact ⟨_, _, place_of_le (ordered.trans inText), place_of_le inText,
          isValid_placeBehind text first, isValid_placeBehind text last, placeBehind_mono ordered,
          (isValid_placeBehind text last).le_rawEndPos, slice_of_le ordered inText⟩
      joined := by
        intro first middle last early late inText
        refine ⟨_, _, slice_of_le early (late.trans inText), slice_of_le late inText, ?_⟩
        rw [slice_of_le (early.trans late) inText, between_append early late]
      whole := by
        rw [slice_of_le (Nat.zero_le _) (Nat.le_refl _), between_all]
      inverted := fun _ _ inverted => slice_eq_error (rangeError?_of_inverted inverted)
      startOutside := fun _ _ ordered outside =>
        slice_eq_error (rangeError?_of_start_outside ordered outside)
      endOutside := fun _ _ ordered inText outside =>
        slice_eq_error (rangeError?_of_end_outside ordered inText outside) }
  · obtain ⟨shown, sublist, places⟩ := exists_shown config unit
    exact ⟨shown, sublist, places.imp fun _ _ place => ⟨place, value_of_isPlaceOf place⟩⟩

/-- Characters of one, two and four bytes, and a line end in the middle. -/
example : (LineMap.ofText "aé\r\n𝄞b").slice 1 5 = .ok "é\r\n𝄞" := by decide +kernel

end CodeIndex
