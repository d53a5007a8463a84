import CodeIndex.Json.Printer
import CodeIndex.Text.Digit
import Mathlib.Data.List.Basic

/-!
# The text of a JSON value is one line

Whatever a value holds, its text holds no line feed: the characters of its strings are escaped
where they could be mistaken for the end of a line, and nothing else in the text is free to be
one. The same is so for the bytes of the text, since in UTF-8 a byte below 128 stands for one
character only.

* `Text.IsOneLine` is a text without a line feed, and `Text.bytes` are its bytes;
* `Json.isOneLine_render`: the text of every value is one line;
* `Text.splitOn_lines`: texts that are one line each, with a line feed behind every one of them,
  are found again by splitting the bytes at the line feeds.
-/

namespace CodeIndex

/-! ## Lines and bytes -/

namespace Text

/-- A text without a line feed. -/
def IsOneLine (text : String) : Prop := '\n' ∉ text.toList

instance (text : String) : Decidable (IsOneLine text) :=
  inferInstanceAs (Decidable ('\n' ∉ text.toList))

/-- The bytes of a text in UTF-8. -/
def bytes (text : String) : List UInt8 := text.toUTF8.data.toList

/-- The byte of a line feed. -/
def lineFeed : UInt8 := 10

/-- Some lines, each with a line feed behind it. -/
def ofLines (lines : List String) : String := String.join (lines.map (· ++ "\n"))

@[simp] theorem bytes_append (text more : String) :
    bytes (text ++ more) = bytes text ++ bytes more := by
  simp only [bytes, String.toUTF8_eq_toByteArray, String.toByteArray_append,
    ByteArray.toList_data_append]

/-- The bytes of a text are those of its characters. -/
theorem bytes_eq (text : String) : bytes text = text.toList.flatMap String.utf8EncodeChar := by
  have encoded : text.toUTF8 = (text.toList.flatMap String.utf8EncodeChar).toByteArray :=
    String.utf8Encode_toList.symm
  rw [bytes, encoded]
  exact List.toList_data_toByteArray

/-- The bytes of a character that takes more than one are all 128 or above. -/
theorem le_of_mem_utf8EncodeChar {c : Char} (wide : 127 < c.val.toNat) {byte : UInt8}
    (member : byte ∈ String.utf8EncodeChar c) : 128 ≤ byte.toNat := by
  simp only [String.utf8EncodeChar, if_neg (Nat.not_le.mpr wide)] at member
  split_ifs at member <;> simp only [List.mem_cons, List.not_mem_nil, or_false] at member
  · rcases member with rfl | rfl <;> rw [UInt8.toNat_ofNat'] <;> omega
  · rcases member with rfl | rfl | rfl <;> rw [UInt8.toNat_ofNat'] <;> omega
  · rcases member with rfl | rfl | rfl | rfl <;> rw [UInt8.toNat_ofNat'] <;> omega

/-- Only a line feed is encoded with the byte of a line feed. -/
theorem eq_of_lineFeed_mem {c : Char} (member : lineFeed ∈ String.utf8EncodeChar c) :
    c = '\n' := by
  rcases Nat.lt_or_ge 127 c.val.toNat with wide | narrow
  · have large : 128 ≤ lineFeed.toNat := le_of_mem_utf8EncodeChar wide member
    exact absurd large (by decide)
  · rw [String.utf8EncodeChar, if_pos narrow, List.mem_singleton] at member
    have same : lineFeed.toNat = c.val.toNat := by
      rw [member, UInt8.toNat_ofNat_of_lt' (Nat.lt_of_le_of_lt narrow (by decide))]
    exact Char.ext (UInt32.toNat_inj.mp same.symm)

theorem IsOneLine.lineFeed_not_mem {text : String} (line : IsOneLine text) :
    lineFeed ∉ bytes text := by
  intro member
  rw [bytes_eq] at member
  obtain ⟨c, inside, encoded⟩ := List.mem_flatMap.mp member
  exact line (eq_of_lineFeed_mem encoded ▸ inside)

/-- Lines are found again by splitting the bytes at the line feeds. -/
theorem splitOn_ofLines {lines : List String} (clean : ∀ line ∈ lines, IsOneLine line) :
    (bytes (ofLines lines)).splitOn lineFeed = lines.map bytes ++ [[]] := by
  induction lines with
  | nil => rfl
  | cons line rest ih =>
      have first : ∀ byte ∈ bytes line, (byte == lineFeed) = false := by
        intro byte member
        have apart : byte ≠ lineFeed := fun same =>
          (clean line List.mem_cons_self).lineFeed_not_mem (same ▸ member)
        exact beq_false_of_ne apart
      have split : bytes (ofLines (line :: rest)) =
          bytes line ++ lineFeed :: bytes (ofLines rest) := by
        simp only [ofLines, List.map_cons, String.join_cons, bytes_append, List.append_assoc]
        rfl
      rw [split, List.splitOn,
        List.splitOnP_append_cons_of_forall_mem first lineFeed (beq_self_eq_true lineFeed)]
      exact congrArg (bytes line :: ·) (ih fun line inside => clean line (.tail _ inside))

/-! ## Texts put together -/

theorem isOneLine_ofList {text : List Char} : IsOneLine (String.ofList text) ↔ '\n' ∉ text := by
  rw [IsOneLine, String.toList_ofList]

theorem isOneLine_append {text more : String} :
    IsOneLine (text ++ more) ↔ IsOneLine text ∧ IsOneLine more := by
  simp only [IsOneLine, String.toList_append, List.mem_append, not_or]

theorem isOneLine_join {texts : List String} :
    IsOneLine (String.join texts) ↔ ∀ text ∈ texts, IsOneLine text := by
  simp only [IsOneLine, String.toList_join, List.mem_flatMap, not_exists, not_and]

/-- The digits of a number are all on one line. -/
theorem isOneLine_toString (n : Nat) : IsOneLine (toString n) := not_mem_toString (by decide)

theorem isOneLine_toString_int (n : Int) : IsOneLine (toString n) :=
  not_mem_toString_int (by decide) (by decide)

end Text

/-! ## Values -/

namespace Json

open Text

theorem hexDigit_ne (n : Nat) : hexDigit n ≠ '\n' := by
  have digits : ∀ digit < 16, Nat.digitChar digit ≠ '\n' := by decide
  exact digits (n % 16) (Nat.mod_lt n (by decide))

/-- The escape of a control by its code is on one line. -/
theorem isOneLine_code (c : Char) :
    IsOneLine (String.ofList ['\\', 'u', '0', '0', hexDigit (c.toNat / 16), hexDigit c.toNat]) := by
  simp only [isOneLine_ofList, List.mem_cons, List.not_mem_nil, or_false, not_or]
  exact ⟨by decide, by decide, by decide, by decide, (hexDigit_ne _).symm, (hexDigit_ne _).symm⟩

theorem isOneLine_of_escape? {c : Char} {escaped : String} (given : escape? c = some escaped) :
    IsOneLine escaped := by
  unfold escape? at given
  split_ifs at given <;> cases given
  all_goals first
    | decide
    | exact isOneLine_code c

/-- A line feed does not stand for itself inside a string. -/
theorem ne_of_escape?_eq_none {c : Char} (bare : escape? c = none) : c ≠ '\n' := by
  rintro rfl
  exact absurd bare (by decide)

/-- The pieces of the inside of a string are on one line each, if the run before is. -/
theorem isOneLine_contentPieces (run text : List Char) (clean : '\n' ∉ run) :
    ∀ piece ∈ contentPieces run text, IsOneLine piece := by
  have ofRun {run : List Char} (clean : '\n' ∉ run) : IsOneLine (String.ofList run.reverse) :=
    isOneLine_ofList.mpr fun member => clean (List.mem_reverse.mp member)
  fun_induction contentPieces run text with
  | case1 => simp
  | case2 run => simpa using ofRun clean
  | case3 run c rest bare ih =>
      refine ih fun member => ?_
      rcases List.mem_cons.mp member with here | before
      · exact ne_of_escape?_eq_none bare here.symm
      · exact clean before
  | case4 run c rest escaped given empty ih =>
      rw [List.forall_mem_cons]
      exact ⟨isOneLine_of_escape? given, ih List.not_mem_nil⟩
  | case5 run c rest escaped given kept ih =>
      rw [List.forall_mem_cons, List.forall_mem_cons]
      exact ⟨ofRun clean, isOneLine_of_escape? given, ih List.not_mem_nil⟩

theorem isOneLine_stringPieces (text : String) :
    ∀ piece ∈ stringPieces text, IsOneLine piece := by
  simp only [stringPieces, List.cons_append, List.forall_mem_cons, List.forall_mem_append]
  exact ⟨by decide, isOneLine_contentPieces [] text.toList List.not_mem_nil, by decide, by simp⟩

theorem isOneLine_decimalText (number : Decimal) : IsOneLine (decimalText number) := by
  simp only [decimalText, isOneLine_append]
  refine ⟨⟨⟨?_, isOneLine_toString number.whole⟩, ?_⟩, ?_⟩
  · split <;> decide
  · split
    · decide
    · refine isOneLine_append.mpr ⟨by decide, isOneLine_join.mpr fun text member => ?_⟩
      obtain ⟨digit, _, rfl⟩ := List.mem_map.mp member
      exact isOneLine_toString (digit % 10)
  · split
    · exact isOneLine_append.mpr ⟨by decide, isOneLine_toString_int _⟩
    · decide

mutual

/-- The pieces of a value are on one line each. -/
theorem isOneLine_pieces (value : Json) : ∀ piece ∈ value.pieces, IsOneLine piece := by
  match value with
  | .null | .bool true | .bool false | .array [] | .object [] | .illFormed =>
      simp only [pieces]
      decide
  | .integer value =>
      simpa only [pieces, List.forall_mem_singleton] using isOneLine_toString_int value
  | .decimal value =>
      simpa only [pieces, List.forall_mem_singleton] using isOneLine_decimalText value
  | .string value => exact isOneLine_stringPieces value
  | .array (item :: rest) =>
      simp only [pieces, List.cons_append, List.forall_mem_cons, List.forall_mem_append]
      exact ⟨by decide, ⟨isOneLine_pieces item, isOneLine_laterItems rest⟩, by decide, by simp⟩
  | .object ((name, value) :: rest) =>
      simp only [pieces, List.cons_append, List.forall_mem_cons, List.forall_mem_append]
      exact ⟨by decide, ⟨⟨isOneLine_stringPieces name, by decide, isOneLine_pieces value⟩,
        isOneLine_laterMembers rest⟩, by decide, by simp⟩

theorem isOneLine_laterItems (items : List Json) :
    ∀ piece ∈ laterItems items, IsOneLine piece := by
  match items with
  | [] => simp [laterItems]
  | item :: rest =>
      simp only [laterItems, List.cons_append, List.forall_mem_cons, List.forall_mem_append]
      exact ⟨by decide, isOneLine_pieces item, isOneLine_laterItems rest⟩

theorem isOneLine_laterMembers (members : List (String × Json)) :
    ∀ piece ∈ laterMembers members, IsOneLine piece := by
  match members with
  | [] => simp [laterMembers]
  | (name, value) :: rest =>
      simp only [laterMembers, List.cons_append, List.forall_mem_cons, List.forall_mem_append]
      exact ⟨by decide, ⟨isOneLine_stringPieces name, by decide, isOneLine_pieces value⟩,
        isOneLine_laterMembers rest⟩

end

/-- The text of a value is one line. -/
theorem isOneLine_render (value : Json) : IsOneLine value.render :=
  isOneLine_join.mpr (isOneLine_pieces value)

end Json

end CodeIndex
