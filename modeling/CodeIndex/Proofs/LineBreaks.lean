import CodeIndex.Position
import Mathlib.Data.List.Basic
import Mathlib.Data.String.Basic

/-!
# Line breaks and the table of lines

A plain scan of a text from left to right, and that a lookup in the table of lines gives the same
positions.

* `Text.breakEndsAt` says where a line break ends, character by character; `Text.scanned` counts
  the breaks up to an offset and the characters behind the last one. `Text.scanned_zero` and
  `Text.scanned_succ` read it as a walk over the text.
* `LineMap.starts_ofText`: the table holds the beginning of the text and the ends of its breaks,
  each with its place in bytes, and nothing else.
* `LineMap.firstAfter_eq`: the binary search finds where the entries up to an offset end.
* `positions_by_scan`: a lookup gives the position that the scan gives.
-/

namespace CodeIndex

/-! ## Scanning -/

namespace Text

/-- A line break ends at an offset: the character in front of it is a `\n`, or a `\r` that no
`\n` follows. -/
def breakEndsAt (text : List Char) : Nat → Bool
  | 0 => false
  | before + 1 =>
    text[before]? == some '\n' ||
      (text[before]? == some '\r' && text[before + 1]? != some '\n')

/-- The offsets up to a given one at which line breaks end, in their order. -/
def breakEnds (text : List Char) (offset : Nat) : List Nat :=
  (List.range (offset + 1)).filter (breakEndsAt text)

/-- Where the line of an offset begins: where the last break up to it ends, or else at the
beginning of the text. -/
def lineBegin (text : List Char) (offset : Nat) : Nat := (breakEnds text offset).getLastD 0

/-- The position of an offset by counting breaks, and characters behind the last break. -/
def scanned (text : List Char) (offset : Nat) : Position :=
  ⟨1 + (breakEnds text offset).length, 1 + (offset - lineBegin text offset)⟩

variable {text : List Char} {offset place : Nat}

theorem mem_breakEnds :
    place ∈ breakEnds text offset ↔ place ≤ offset ∧ breakEndsAt text place = true := by
  rw [breakEnds, List.mem_filter, List.mem_range, Nat.lt_succ_iff]

theorem breakEnds_zero : breakEnds text 0 = [] := rfl

theorem breakEnds_succ :
    breakEnds text (offset + 1) =
      breakEnds text offset ++ if breakEndsAt text (offset + 1) then [offset + 1] else [] := by
  unfold breakEnds
  rw [List.range_succ, List.filter_append, List.filter_singleton]
  cases breakEndsAt text (offset + 1) <;> rfl

theorem lineBegin_succ :
    lineBegin text (offset + 1) =
      if breakEndsAt text (offset + 1) then offset + 1 else lineBegin text offset := by
  unfold lineBegin
  rw [breakEnds_succ]
  cases breakEndsAt text (offset + 1) <;> simp

theorem lineBegin_le : lineBegin text offset ≤ offset := by
  induction offset with
  | zero => exact Nat.le_of_eq rfl
  | succ offset ih =>
      rw [lineBegin_succ]
      split
      · exact Nat.le_refl _
      · exact Nat.le_succ_of_le ih

/-- The scan begins in the first line and column. -/
theorem scanned_zero (text : List Char) : scanned text 0 = ⟨1, 1⟩ := rfl

/-- A character goes one column on, or to the beginning of the next line. -/
theorem scanned_succ (text : List Char) (offset : Nat) :
    scanned text (offset + 1) =
      if breakEndsAt text (offset + 1) then ⟨(scanned text offset).line + 1, 1⟩
      else ⟨(scanned text offset).line, (scanned text offset).column + 1⟩ := by
  have begins : lineBegin text offset ≤ offset := lineBegin_le
  unfold scanned
  rw [lineBegin_succ, breakEnds_succ]
  split
  · simp [Nat.add_assoc]
  · simp only [List.append_nil, Position.mk.injEq, true_and]
    omega

/-- The breaks up to an offset are the first ones of those up to a later offset. -/
theorem breakEnds_of_le (text : List Char) {offset stop : Nat} (reached : offset ≤ stop) :
    breakEnds text stop =
      breakEnds text offset ++
        (List.range' (offset + 1) (stop - offset)).filter (breakEndsAt text) := by
  unfold breakEnds
  have parts : List.range (stop + 1) =
      List.range (offset + 1) ++ List.range' (offset + 1) (stop - offset) := by
    have joined := List.range'_append_1 (s := 0) (m := offset + 1) (n := stop - offset)
    rw [Nat.zero_add] at joined
    rw [List.range_eq_range', List.range_eq_range', joined]
    congr 1
    omega
  rw [parts, List.filter_append]

end Text

/-! ## The table -/

namespace LineMap

open Text

/-- The entry of a line that begins at a place: the place in characters and in bytes. -/
def entry (text : List Char) (place : Nat) : LineStart :=
  ⟨place, String.utf8Len (text.take place)⟩

theorem breakEndsAt_append {done rest : List Char} {c : Char} :
    breakEndsAt (done ++ c :: rest) (done.length + 1) = endsLine c rest := by
  simp [breakEndsAt, endsLine, List.getElem?_append_right, List.head?_eq_getElem?]

/-- What is added to a table behind some text: an entry for every break that ends in the rest. -/
theorem toList_addLines (done rest : List Char) (starts : Array LineStart) :
    (addLines starts done.length (String.utf8Len done) rest).toList =
      starts.toList ++
        ((List.range' (done.length + 1) rest.length).filter (breakEndsAt (done ++ rest))).map
          (entry (done ++ rest)) := by
  induction rest generalizing done starts with
  | nil => simp [addLines]
  | cons c rest ih =>
      have whole : done ++ [c] ++ rest = done ++ c :: rest := by simp
      have further := ih (done ++ [c])
      rw [whole, List.length_append, String.utf8Len_append] at further
      have here : entry (done ++ c :: rest) (done.length + 1) =
          ⟨done.length + 1, String.utf8Len done + c.utf8Size⟩ := by
        simp [entry, List.take_length_add_append]
      unfold addLines
      rw [List.length_cons, List.range'_succ, List.filter_cons, breakEndsAt_append]
      cases endsLine c rest with
      | true => simpa [here] using further (starts.push _)
      | false => simpa using further starts

/-- The entries of the lines that begin up to an offset: the first line, and one line for each
break. -/
def entriesUpTo (text : List Char) (offset : Nat) : List LineStart :=
  (0 :: breakEnds text offset).map (entry text)

theorem chars_le_of_mem_entriesUpTo {text : List Char} {offset : Nat} {start : LineStart}
    (member : start ∈ entriesUpTo text offset) : start.chars ≤ offset := by
  obtain ⟨place, begins, rfl⟩ := List.mem_map.mp member
  rcases List.mem_cons.mp begins with rfl | broken
  · exact Nat.zero_le offset
  · exact (mem_breakEnds.mp broken).1

theorem length_entriesUpTo {text : List Char} {offset : Nat} :
    (entriesUpTo text offset).length = (breakEnds text offset).length + 1 := by
  simp [entriesUpTo]

/-- The last of the lines that begin up to an offset. -/
theorem getElem?_entriesUpTo (text : List Char) (offset : Nat) :
    (entriesUpTo text offset)[(breakEnds text offset).length]? =
      some (entry text (lineBegin text offset)) := by
  have last := List.getLast?_eq_getElem? (l := 0 :: breakEnds text offset)
  rw [List.getLast?_cons, List.length_cons, Nat.add_sub_cancel] at last
  rw [entriesUpTo, List.getElem?_map, ← last, lineBegin, List.getLastD_eq_getLast?]
  rfl

variable {text : String} {offset : Nat}

/-- The table of a text has the entries of all its lines. -/
theorem starts_ofText : (ofText text).starts.toList = entriesUpTo text.toList text.length := by
  have added := toList_addLines [] text.toList #[⟨0, 0⟩]
  have breaks := breakEnds_of_le text.toList (Nat.zero_le text.length)
  rw [breakEnds_zero, List.nil_append] at breaks
  rw [entriesUpTo, breaks, List.map_cons, ← String.length_toList]
  simpa [ofText, entry] using added

/-- The lines that begin up to an offset come first in the table. -/
theorem exists_starts_eq_append (inText : offset ≤ text.length) :
    ∃ behind, (ofText text).starts.toList = entriesUpTo text.toList offset ++ behind ∧
      ∀ start ∈ behind, offset < start.chars := by
  refine ⟨((List.range' (offset + 1) (text.length - offset)).filter
    (breakEndsAt text.toList)).map (entry text.toList), ?_, ?_⟩
  · rw [starts_ofText, entriesUpTo, breakEnds_of_le text.toList inText, ← List.cons_append,
      List.map_append]
    rfl
  · intro start member
    obtain ⟨place, broken, rfl⟩ := List.mem_map.mp member
    exact (List.mem_range'_1.mp (List.mem_of_mem_filter broken)).1

/-- The binary search finds the end of the entries that start up to an offset, when these come
first in the table. -/
theorem firstAfter_eq {map : LineMap} {upTo behind : List LineStart} {low high : Nat}
    (table : map.starts.toList = upTo ++ behind)
    (early : ∀ start ∈ upTo, start.chars ≤ offset)
    (late : ∀ start ∈ behind, offset < start.chars)
    (above : low ≤ upTo.length) (below : upTo.length ≤ high) (fits : high ≤ map.starts.size) :
    map.firstAfter offset low high = upTo.length := by
  -- an entry tells by its start on which side of the end it stands
  have side : ∀ (index : Nat) start, map.starts[index]? = some start →
      (index < upTo.length ↔ start.chars ≤ offset) := by
    intro index start found
    rw [← Array.getElem?_toList, table] at found
    by_cases front : index < upTo.length
    · rw [List.getElem?_append_left front] at found
      exact iff_of_true front (early start (List.mem_of_getElem? found))
    · rw [List.getElem?_append_right (Nat.not_lt.mp front)] at found
      exact iff_of_false front (Nat.not_le.mpr (late start (List.mem_of_getElem? found)))
  fun_induction map.firstAfter offset low high with
  | case1 low high nonempty middle start found starts ih =>
      exact ih ((side middle start found).mpr starts) below fits
  | case2 low high nonempty middle start found starts ih =>
      have front := mt (side middle start found).mp starts
      exact ih above (Nat.not_lt.mp front) (by omega)
  | case3 low high nonempty middle missing =>
      have outside := Array.getElem?_eq_none_iff.mp missing
      omega
  | case4 low high empty => omega

theorem firstAfter_ofText (inText : offset ≤ text.length) :
    (ofText text).firstAfter offset 0 (ofText text).starts.size =
      (breakEnds text.toList offset).length + 1 := by
  obtain ⟨behind, table, late⟩ := exists_starts_eq_append inText
  have fits : (entriesUpTo text.toList offset).length ≤ (ofText text).starts.size := by
    rw [← Array.length_toList, table, List.length_append]
    exact Nat.le_add_right ..
  rw [firstAfter_eq table (fun _ => chars_le_of_mem_entriesUpTo) late (Nat.zero_le _) fits
    (Nat.le_refl _), length_entriesUpTo]

/-- The line of an offset has as many lines in front of it as there are breaks up to the offset. -/
theorem lineIndex_ofText (inText : offset ≤ text.length) :
    (ofText text).lineIndex offset = (breakEnds text.toList offset).length := by
  rw [lineIndex, firstAfter_ofText inText, Nat.add_sub_cancel]

/-- The entry of the line of an offset: where the last break up to it ends. -/
theorem getElem?_starts (inText : offset ≤ text.length) :
    (ofText text).starts[(breakEnds text.toList offset).length]? =
      some (entry text.toList (lineBegin text.toList offset)) := by
  obtain ⟨behind, table, _⟩ := exists_starts_eq_append inText
  have found := getElem?_entriesUpTo text.toList offset
  have inFront := (List.getElem?_eq_some_iff.mp found).1
  rw [← Array.getElem?_toList, table, List.getElem?_append_left inFront, found]

theorem lineStart_ofText (inText : offset ≤ text.length) :
    (ofText text).lineStart (breakEnds text.toList offset).length =
      entry text.toList (lineBegin text.toList offset) := by
  rw [lineStart, getElem?_starts inText, Option.getD_some]

/-- The position of an offset in the text, with lines and columns told apart up to the largest
one. -/
theorem position_of_le (inText : offset ≤ text.length) :
    (ofText text).position offset =
      .ok ⟨min (scanned text.toList offset).line maxCoordinate,
        min (scanned text.toList offset).column maxCoordinate⟩ := by
  unfold position
  rw [if_neg (show ¬(ofText text).length < offset from Nat.not_lt.mpr inText)]
  simp only [lineIndex_ofText inText, lineStart_ofText inText, entry, scanned, Nat.add_comm 1]

theorem position_of_gt (outside : text.length < offset) :
    (ofText text).position offset = .error (.outOfRange offset text.length) := by
  unfold position
  exact if_pos outside

end LineMap

/-! ## Positions -/

/-- The position of every offset of every text is that of the plain scan.

* An offset past the end has no position, and every other one has, the end included.
* The line is one more than the number of breaks that end at or before the offset, and the column
  is one more than the number of characters behind the last of them; each counts up to
  `2 ^ 32 - 1`.
* Between `\r` and `\n` no line ends: the offset of the `\n` is on the line of the `\r`. -/
theorem positions_by_scan (text : String) :
    (∀ offset, (LineMap.ofText text).position offset =
      if text.length < offset then .error (.outOfRange offset text.length)
      else
        let ends := Text.breakEnds text.toList offset
        .ok ⟨min (1 + ends.length) (2 ^ 32 - 1),
          min (1 + (offset - ends.getLastD 0)) (2 ^ 32 - 1)⟩) ∧
    (∀ offset, text.toList[offset]? = some '\r' → text.toList[offset + 1]? = some '\n' →
      ∃ line column,
        (LineMap.ofText text).position offset = .ok ⟨line, min column (2 ^ 32 - 1)⟩ ∧
        (LineMap.ofText text).position (offset + 1) =
          .ok ⟨line, min (column + 1) (2 ^ 32 - 1)⟩) := by
  refine ⟨?_, ?_⟩
  · intro offset
    split
    · next outside => exact LineMap.position_of_gt outside
    · next inText => exact LineMap.position_of_le (Nat.not_lt.mp inText)
  · intro offset returns feeds
    have inText : offset + 1 < text.length := by
      rw [← String.length_toList]
      exact (List.getElem?_eq_some_iff.mp feeds).1
    have unbroken : Text.breakEndsAt text.toList (offset + 1) = false := by
      simp [Text.breakEndsAt, returns, feeds]
    have next := Text.scanned_succ text.toList offset
    rw [unbroken] at next
    refine ⟨_, _, LineMap.position_of_le (Nat.le_of_lt (Nat.lt_of_succ_lt inText)), ?_⟩
    rw [LineMap.position_of_le (Nat.le_of_lt inText), next]
    rfl

/-- A text with each kind of line end, and a character of two bytes in front of them. -/
theorem mixedBreaks_positions :
    (LineMap.ofText "é\r\ncd\rx\n").position 3 = .ok ⟨2, 1⟩ ∧
      (LineMap.ofText "é\r\ncd\rx\n").position 7 = .ok ⟨3, 2⟩ ∧
      (LineMap.ofText "é\r\ncd\rx\n").position 8 = .ok ⟨4, 1⟩ ∧
      (LineMap.ofText "é\r\ncd\rx\n").position 9 = .error (.outOfRange 9 8) ∧
      "é\r\ncd\rx\n".toList[1]? = some '\r' ∧ "é\r\ncd\rx\n".toList[2]? = some '\n' ∧
      ∃ line column,
        (LineMap.ofText "é\r\ncd\rx\n").position 1 = .ok ⟨line, min column (2 ^ 32 - 1)⟩ ∧
        (LineMap.ofText "é\r\ncd\rx\n").position 2 =
          .ok ⟨line, min (column + 1) (2 ^ 32 - 1)⟩ :=
  have ⟨scanned, between⟩ := positions_by_scan "é\r\ncd\rx\n"
  ⟨scanned 3, scanned 7, scanned 8, scanned 9, by decide, by decide,
    between 1 (by decide) (by decide)⟩

end CodeIndex
