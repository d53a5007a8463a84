import CodeIndex.Json.Printer
import CodeIndex.Json.Reader
import CodeIndex.Proofs.Framing
import Mathlib

/-!
# The text of a value is read as the value

The reader of JSON and the printer belong together: a printed value is read up to its last
character, and what is read is the value. The induction is on the value, for any text behind it.
Only a number looks at what stands behind it, since more digits would go on with it (`Ends`).

* `HasText`: the values that can be written at all. Half a surrogate pair cannot.
* `Reads` is a reader that gives a value and leaves a rest; there is one lemma for each production
  of the grammar, from `reads_string` and `reads_number` to `reads_value_items`.
* `readsBack`, and `parse?_render` for whole documents.
* `JsonLines.parse?_written`: the lines that a sink was given hold the values that were written.
-/

namespace CodeIndex

/-- A decimal number that could not be written as an integer, with digits below ten. -/
structure Decimal.IsProper (number : Decimal) : Prop where
  digits : ∀ digit ∈ number.fraction, digit < 10
  apart : number.fraction = [] → number.exponent = none → number.negative = true ∧ number.whole = 0

namespace Json

open Text (Shorter NoLonger whole skipWhile)

/-! ## Values that have a text -/

mutual

/-- The value has a text of its own: nothing in it is ill-formed, and each decimal number in it is
a proper one. -/
def HasText : Json → Prop
  | .illFormed => False
  | .decimal number => number.IsProper
  | .array items => ItemsHaveText items
  | .object members => MembersHaveText members
  | _ => True

/-- All items have a text. -/
def ItemsHaveText : List Json → Prop
  | [] => True
  | item :: rest => HasText item ∧ ItemsHaveText rest

/-- All members have a text. -/
def MembersHaveText : List (String × Json) → Prop
  | [] => True
  | (_, value) :: rest => HasText value ∧ MembersHaveText rest

end

@[simp] theorem hasText_bool (value : Bool) : HasText (.bool value) := trivial

@[simp] theorem hasText_integer (value : Int) : HasText (.integer value) := trivial

@[simp] theorem hasText_string (text : String) : HasText (.string text) := trivial

@[simp] theorem hasText_array {items : List Json} : HasText (.array items) ↔ ItemsHaveText items :=
  Iff.rfl

@[simp] theorem hasText_object {members : List (String × Json)} :
    HasText (.object members) ↔ MembersHaveText members := Iff.rfl

@[simp] theorem membersHaveText_nil : MembersHaveText [] := trivial

@[simp] theorem membersHaveText_cons {name : String} {value : Json} {rest : List (String × Json)} :
    MembersHaveText ((name, value) :: rest) ↔ HasText value ∧ MembersHaveText rest := Iff.rfl

/-- A reader has read a value, and left a rest. -/
def Reads {α : Type} {text : List Char} (result : Option (α × Shorter text)) (value : α)
    (rest : List Char) : Prop :=
  ∃ shorter, result = some (value, ⟨rest, shorter⟩)

/-- The characters of some pieces of text. -/
def spelled (pieces : List String) : List Char := pieces.flatMap String.toList

@[simp] theorem spelled_nil : spelled [] = [] := rfl

@[simp] theorem spelled_cons (piece : String) (rest : List String) :
    spelled (piece :: rest) = piece.toList ++ spelled rest := rfl

@[simp] theorem spelled_append (first second : List String) :
    spelled (first ++ second) = spelled first ++ spelled second := List.flatMap_append

theorem toList_render (value : Json) : value.render.toList = spelled value.pieces :=
  String.toList_join

/-! ## Strings -/

/-- How a character is written inside a string. -/
def spell (c : Char) : List Char := (escape? c).elim [c] String.toList

theorem spelled_contentPieces (run text : List Char) :
    spelled (contentPieces run text) = run.reverse ++ text.flatMap spell := by
  fun_induction contentPieces run text with
  | case1 run empty => simp [List.isEmpty_iff.mp empty]
  | case2 run filled => simp
  | case3 run c rest bare ih => simp [ih, spell, bare]
  | case4 run c rest escaped given empty ih => simp [ih, spell, given, List.isEmpty_iff.mp empty]
  | case5 run c rest escaped given kept ih => simp [ih, spell, given]

theorem spelled_stringPieces (text : String) :
    spelled (stringPieces text) = '"' :: (text.toList.flatMap spell ++ ['"']) := by
  simp [stringPieces, spelled_contentPieces]

/-- The four digits of the code of a control give its code. -/
theorem numeral?_code {code : Nat} (low : code < 0x20) :
    Text.numeral? 16 ['0', '0', hexDigit (code / 16), hexDigit code] = some code := by
  have codes : ∀ code < 0x20,
      Text.numeral? 16 ['0', '0', hexDigit (code / 16), hexDigit code] = some code := by decide
  exact codes code low

/-- A character is read as it was written. -/
theorem readUnits_spell (units : List Nat) (c : Char) (rest : List Char) :
    readUnits units (spell c ++ rest) = readUnits (c.toNat :: units) rest := by
  unfold spell escape?
  split_ifs with quote slash backspace formFeed lineFeed carriage tab control
  all_goals try (subst c; rfl)
  · simp [readUnits, numeral?_code control]
  · simp [readUnits, slash, control]

theorem readUnits_text (units : List Nat) (text rest : List Char) :
    readUnits units (text.flatMap spell ++ '"' :: rest) =
      some (units.reverse ++ text.map Char.toNat, rest) := by
  induction text generalizing units with
  | nil => simp [readUnits]
  | cons c text ih => simp [readUnits_spell, ih]

/-- No character is half of a surrogate pair. -/
theorem isHalf_toNat (c : Char) : isHighHalf c.toNat = false ∧ isLowHalf c.toNat = false := by
  have valid : c.toNat < 0xD800 ∨ 0xDFFF < c.toNat ∧ c.toNat < 0x110000 := c.valid
  simp only [isHighHalf, isLowHalf, Bool.and_eq_false_iff, decide_eq_false_iff_not]
  omega

/-- The codes of some characters are joined to these characters. -/
theorem joinUnits_text (chars text : List Char) :
    joinUnits chars (text.map Char.toNat) = some (chars.reverse ++ text) := by
  induction text generalizing chars with
  | nil => simp [joinUnits]
  | cons c text ih =>
      obtain ⟨high, low⟩ := isHalf_toNat c
      simp [joinUnits.eq_def _ (c.toNat :: _), high, low, ih]

theorem reads_string (text : String) (rest : List Char) :
    Reads (readString (text.toList.flatMap spell ++ '"' :: rest)) (some text) rest := by
  have units := readUnits_text [] text.toList rest
  have joined := joinUnits_text [] text.toList
  unfold Reads readString
  split
  · next none => simp [units] at none
  · next found more read =>
      obtain ⟨rfl, rfl⟩ := Prod.mk.inj (Option.some.inj (units.symm.trans read))
      exact ⟨length_readUnits units, by simp [joined]⟩

/-! ## Numbers -/

/-- What stands behind a number does not go on with it. -/
def Ends (rest : List Char) : Prop := ∀ c ∈ rest.head?, isDigit c = false ∧ c ∉ ['.', 'e', 'E']

/-- How the digits behind a point are written, if there are any. -/
def fractionText (fraction : List Nat) : List Char :=
  if fraction = [] then [] else '.' :: fraction.map Nat.digitChar

/-- A number behind its sign. Only the minus sign is written. -/
def signed : Bool → List Char → List Char
  | true, number => '-' :: number
  | false, number => number

/-- How an exponent is written, if there is one. -/
def exponentText : Option Int → List Char
  | none => []
  | some exponent => 'e' :: signed (decide (exponent < 0)) (toString exponent.natAbs).toList

/-- How a number is written. -/
def numberText (negative : Bool) (whole : Nat) (fraction : List Nat) (exponent : Option Int) :
    List Char :=
  signed negative ((toString whole).toList ++ (fractionText fraction ++ exponentText exponent))

/-- Digits are read up to the first character that is none. -/
theorem reads_digits {digits rest : List Char} (some_digits : digits ≠ [])
    (all : ∀ c ∈ digits, isDigit c = true) (stop : ∀ c ∈ rest.head?, isDigit c = false) :
    Reads (readDigits (digits ++ rest)) (digits.map digitValue) rest := by
  obtain ⟨first, more, rfl⟩ := List.exists_cons_of_ne_nil some_digits
  have later : ∀ c ∈ more, isDigit c = true := fun c member => all c (.tail _ member)
  have taken : (more ++ rest).takeWhile isDigit = more := by
    cases rest with
    | nil => simpa using later
    | cons c rest => simp [List.takeWhile_append_of_pos later, stop c rfl]
  have dropped : (more ++ rest).dropWhile isDigit = rest := by
    cases rest with
    | nil => simpa using later
    | cons c rest => simp [List.dropWhile_append_of_pos later, stop c rfl]
  unfold Reads
  simp [readDigits, all first List.mem_cons_self, taken, dropped]

theorem isDigit_of_mem_toString {n : Nat} {c : Char} (member : c ∈ (toString n).toList) :
    isDigit c = true :=
  Text.isDigit_of_mem_toString member

/-- The decimal digits of a number make this number. -/
theorem ofDigits_toString (n : Nat) :
    ofDigits ((toString n).toList.map digitValue) = n := by
  rw [Nat.toString_eq_repr, Nat.toList_repr, ofDigits, List.foldl_map]
  exact Nat.ofDigitChars_eq_foldl.symm.trans Nat.ofDigitChars_ten_toDigits

/-- The decimal digits of a number have no zero in front, apart from those of zero. -/
theorem head?_toString {n : Nat} (positive : 0 < n) :
    ((toString n).toList.map digitValue).head? ≠ some 0 := by
  rw [Nat.toString_eq_repr, Nat.toList_repr]
  induction n using Nat.strongRecOn with
  | ind n ih =>
    rcases Nat.lt_or_ge n 10 with small | large
    · have digits : ∀ n < 10, 0 < n → digitValue (Nat.digitChar n) ≠ 0 := by decide
      simpa [Nat.toDigits_of_lt_base small] using digits n small positive
    · rw [Nat.toDigits_of_base_le (by decide) large, List.map_append, List.head?_append_of_ne_nil]
      · exact ih (n / 10) (by omega) (by omega)
      · simp [Nat.toDigits_ne_nil]

theorem reads_natural (n : Nat) {rest : List Char} (stop : ∀ c ∈ rest.head?, isDigit c = false) :
    Reads (readDigits ((toString n).toList ++ rest)) ((toString n).toList.map digitValue) rest :=
  reads_digits (Text.toList_toString_ne_nil n) (fun _ => isDigit_of_mem_toString) stop

theorem readFraction_fractionText {fraction : List Nat} (small : ∀ digit ∈ fraction, digit < 10)
    {rest : List Char} (stop : ∀ c ∈ rest.head?, isDigit c = false ∧ c ≠ '.') :
    ∃ shorter, readFraction (fractionText fraction ++ rest) = some (fraction, ⟨rest, shorter⟩) := by
  unfold fractionText
  by_cases none : fraction = []
  · refine ⟨by simp [none], ?_⟩
    subst none
    cases rest with
    | nil => rfl
    | cons c rest => simp [readFraction, (stop c rfl).2, whole]
  · have digits : ∀ digit < 10, isDigit (Nat.digitChar digit) = true ∧
        digitValue (Nat.digitChar digit) = digit := by decide
    obtain ⟨shorter, read⟩ := reads_digits (mt List.map_eq_nil_iff.mp none)
      (fun c member => by
        obtain ⟨digit, inside, rfl⟩ := List.mem_map.mp member
        exact (digits digit (small digit inside)).1)
      fun c first => (stop c first).1
    have values : (fraction.map Nat.digitChar).map digitValue = fraction := by
      rw [List.map_map]
      exact (List.map_congr_left fun digit inside => (digits digit (small digit inside)).2).trans
        (List.map_id fraction)
    rw [values] at read
    rw [if_neg none]
    refine ⟨Nat.le_succ_of_le (Nat.le_of_lt shorter), ?_⟩
    simp only [List.cons_append, readFraction, read]

/-- The decimal digits of a number begin with a digit. -/
theorem exists_toString (n : Nat) :
    ∃ first more, (toString n).toList = first :: more ∧ isDigit first = true := by
  obtain ⟨first, more, digits⟩ := List.exists_cons_of_ne_nil (Text.toList_toString_ne_nil n)
  exact ⟨first, more, digits, isDigit_of_mem_toString (digits ▸ List.mem_cons_self)⟩

/-- A character that is no digit does not begin a number. -/
theorem ne_of_isDigit {c other : Char} (digit : isDigit c = true) (none : isDigit other = false) :
    c ≠ other := by
  rintro rfl
  rw [digit] at none
  cases none

theorem readSign_toString (n : Nat) (rest : List Char) :
    readSign ((toString n).toList ++ rest) = (false, whole _) := by
  obtain ⟨first, more, digits, digit⟩ := exists_toString n
  have minus : first ≠ '-' := ne_of_isDigit digit (by decide)
  have plus : first ≠ '+' := ne_of_isDigit digit (by decide)
  rw [digits, List.cons_append]
  simp [readSign, minus, plus]

/-- An exponent is its digits behind its sign. -/
theorem readExponent_of_sign {text unsigned rest : List Char} {negative : Bool}
    {noLonger : unsigned.length ≤ text.length} {digits : List Nat}
    {shorter : rest.length < unsigned.length} {value : Int}
    (sign : readSign text = (negative, ⟨unsigned, noLonger⟩))
    (read : readDigits unsigned = some (digits, ⟨rest, shorter⟩))
    (made : (if negative then -(ofDigits digits : Int) else ofDigits digits) = value) :
    ∃ shorter, readExponent ('e' :: text) = some (some value, ⟨rest, shorter⟩) := by
  refine ⟨by simp; omega, ?_⟩
  simp only [readExponent, true_or, if_true]
  rw [sign]
  simp only [read, Int.ofNat_eq_natCast, made]

theorem readExponent_exponentText (exponent : Option Int) {rest : List Char}
    (stop : ∀ c ∈ rest.head?, isDigit c = false ∧ c ∉ ['e', 'E']) :
    ∃ shorter, readExponent (exponentText exponent ++ rest) =
      some (exponent, ⟨rest, shorter⟩) := by
  cases exponent with
  | none =>
    refine ⟨Nat.le_refl _, ?_⟩
    cases rest with
    | nil => rfl
    | cons c rest =>
      have other : ¬(c = 'e' ∨ c = 'E') := by simpa using (stop c rfl).2
      simp [exponentText, readExponent, other, whole]
  | some value =>
    obtain ⟨shorter, read⟩ := reads_natural value.natAbs fun c first => (stop c first).1
    cases sign : decide (value < 0) with
    | true =>
      have text : exponentText (some value) = 'e' :: '-' :: (toString value.natAbs).toList := by
        rw [exponentText, sign, signed]
      have magnitude : -(value.natAbs : Int) = value := by
        have negative := of_decide_eq_true sign
        omega
      rw [text]
      refine readExponent_of_sign (by rfl : readSign _ = (true, ⟨_, Nat.le_succ _⟩)) read ?_
      rw [if_pos rfl, ofDigits_toString, magnitude]
    | false =>
      have text : exponentText (some value) = 'e' :: (toString value.natAbs).toList := by
        rw [exponentText, sign, signed]
      have magnitude : (value.natAbs : Int) = value := by
        have positive := of_decide_eq_false sign
        omega
      rw [text]
      refine readExponent_of_sign (readSign_toString _ _) read ?_
      rw [if_neg Bool.false_ne_true, ofDigits_toString, magnitude]

/-- A number is read as it was written, up to what ends it. -/
theorem reads_unsigned (negative : Bool) (whole : Nat) {fraction : List Nat}
    (small : ∀ digit ∈ fraction, digit < 10) (exponent : Option Int) {rest : List Char}
    (ends : Ends rest) :
    Reads (readUnsigned negative
        ((toString whole).toList ++ (fractionText fraction ++ exponentText exponent ++ rest)))
      (ofParts negative whole fraction exponent) rest := by
  have afterFraction : ∀ c ∈ (exponentText exponent ++ rest).head?,
      isDigit c = false ∧ c ≠ '.' := by
    intro c first
    cases exponent with
    | none => exact ⟨(ends c first).1, fun same => (ends c first).2 (by simp [same])⟩
    | some exponent =>
      obtain rfl : 'e' = c := Option.some.inj first
      decide
  have afterWhole : ∀ c ∈ (fractionText fraction ++ (exponentText exponent ++ rest)).head?,
      isDigit c = false := by
    intro c first
    by_cases none : fraction = []
    · rw [fractionText, if_pos none] at first
      exact (afterFraction c first).1
    · rw [fractionText, if_neg none] at first
      obtain rfl : '.' = c := Option.some.inj first
      decide
  obtain ⟨digits, readWhole⟩ := reads_natural whole afterWhole
  obtain ⟨point, readFraction⟩ := readFraction_fractionText small afterFraction
  obtain ⟨power, readExponent⟩ := readExponent_exponentText exponent
    fun c first => ⟨(ends c first).1, fun member => (ends c first).2 (.tail _ member)⟩
  -- the reader refuses a zero in front of other digits
  have noZero : ¬(((toString whole).toList.map digitValue).head? = some 0 ∧
      ((toString whole).toList.map digitValue).length ≠ 1) := by
    rintro ⟨zero, long⟩
    rcases Nat.eq_zero_or_pos whole with rfl | positive
    · exact long rfl
    · exact head?_toString positive zero
  rw [List.append_assoc]
  refine ⟨Nat.lt_of_le_of_lt (Nat.le_trans power point) digits, ?_⟩
  simp only [readUnsigned, readWhole, if_neg noZero, readFraction, readExponent, ofDigits_toString]

theorem reads_number (negative : Bool) (whole : Nat) {fraction : List Nat}
    (small : ∀ digit ∈ fraction, digit < 10) (exponent : Option Int) {rest : List Char}
    (ends : Ends rest) :
    Reads (readNumber (numberText negative whole fraction exponent ++ rest))
      (ofParts negative whole fraction exponent) rest := by
  have unsigned := reads_unsigned negative whole small exponent ends
  rw [← List.append_assoc] at unsigned
  cases negative with
  | true =>
    obtain ⟨shorter, read⟩ := unsigned
    refine ⟨Nat.lt_succ_of_lt shorter, ?_⟩
    simp only [numberText, signed, List.cons_append, readNumber, read]
  | false =>
    obtain ⟨first, more, digits, digit⟩ := exists_toString whole
    have minus : first ≠ '-' := ne_of_isDigit digit (by decide)
    rw [numberText, signed]
    rw [digits] at unsigned ⊢
    simpa [readNumber, minus] using unsigned

/-! ## Values -/

theorem skipSpace_cons {c : Char} {text : List Char} (filled : isSpace c = false) :
    skipSpace (c :: text) = ⟨c :: text, Nat.le_refl _⟩ :=
  Subtype.ext (by simp [skipSpace, skipWhile, filled])

theorem reads_value_string (text : String) (rest : List Char) :
    Reads (readValue ('"' :: (text.toList.flatMap spell ++ '"' :: rest))) (.string text) rest := by
  obtain ⟨shorter, read⟩ := reads_string text rest
  refine ⟨Nat.lt_succ_of_lt shorter, ?_⟩
  rw [readValue, skipSpace_cons (by decide)]
  simp only [if_true, read]

/-- What is no string, array or object is a word or a number. -/
theorem reads_value_of_scalar {c : Char} {text rest : List Char} {value : Json}
    (filled : isSpace c = false) (other : c ∉ ['"', '[', '\x7b'])
    (read : Reads (readScalar (c :: text)) value rest) :
    Reads (readValue (c :: text)) value rest := by
  obtain ⟨shorter, read⟩ := read
  simp only [List.mem_cons, List.not_mem_nil, or_false, not_or] at other
  refine ⟨shorter, ?_⟩
  rw [readValue, skipSpace_cons filled]
  simp only [other.1, other.2.1, other.2.2, if_false, read]

theorem exists_numberText (negative : Bool) (whole : Nat) (fraction : List Nat)
    (exponent : Option Int) :
    ∃ c more, numberText negative whole fraction exponent = c :: more ∧
      (isDigit c = true ∨ c = '-') := by
  cases negative with
  | true => exact ⟨'-', _, rfl, .inr rfl⟩
  | false =>
    obtain ⟨first, more, digits, digit⟩ := exists_toString whole
    exact ⟨first, _, congrArg (· ++ _) digits, .inl digit⟩

/-- A number begins with a digit or a minus sign, and with nothing else. -/
theorem ne_of_start {c : Char} (start : isDigit c = true ∨ c = '-') (other : Char)
    (none : isDigit other = false) (noMinus : other ≠ '-') : c ≠ other := by
  rcases start with digit | rfl
  · exact ne_of_isDigit digit none
  · exact noMinus.symm

theorem isSpace_of_start {c : Char} (start : isDigit c = true ∨ c = '-') : isSpace c = false := by
  simp [isSpace, ne_of_start start ' ' rfl (by decide), ne_of_start start '\t' rfl (by decide),
    ne_of_start start '\n' rfl (by decide), ne_of_start start '\r' rfl (by decide)]

theorem reads_value_number (negative : Bool) (whole : Nat) {fraction : List Nat}
    (small : ∀ digit ∈ fraction, digit < 10) (exponent : Option Int) {rest : List Char}
    (ends : Ends rest) :
    Reads (readValue (numberText negative whole fraction exponent ++ rest))
      (ofParts negative whole fraction exponent) rest := by
  have read := reads_number negative whole small exponent ends
  obtain ⟨c, more, text, start⟩ := exists_numberText negative whole fraction exponent
  have apart := ne_of_start start
  rw [text, List.cons_append] at read ⊢
  refine reads_value_of_scalar (isSpace_of_start start) ?_ ?_
  · simp [apart '"' rfl (by decide), apart '[' rfl (by decide), apart '\x7b' rfl (by decide)]
  · simpa [readScalar, apart 'n' rfl (by decide), apart 't' rfl (by decide),
      apart 'f' rfl (by decide)] using read

theorem reads_value_noItems (rest : List Char) :
    Reads (readValue ('[' :: ']' :: rest)) (.array []) rest := by
  refine ⟨by simp, ?_⟩
  rw [readValue, skipSpace_cons (by decide)]
  simp [skipSpace_cons (c := ']') (by decide)]

theorem reads_value_noMembers (rest : List Char) :
    Reads (readValue ('\x7b' :: '\x7d' :: rest)) (.object []) rest := by
  refine ⟨by simp, ?_⟩
  rw [readValue, skipSpace_cons (by decide)]
  simp [skipSpace_cons (c := '\x7d') (by decide)]

/-- An array that is not closed at once is read as its items. -/
theorem reads_value_items {c : Char} {more rest : List Char} {items : List Json}
    (filled : isSpace c = false) (goesOn : c ≠ ']')
    (read : Reads (readItems (c :: more)) items rest) :
    Reads (readValue ('[' :: c :: more)) (.array items) rest := by
  obtain ⟨shorter, read⟩ := read
  refine ⟨Nat.lt_succ_of_lt shorter, ?_⟩
  rw [readValue, skipSpace_cons (by decide)]
  simp [skipSpace_cons filled, goesOn, read]

/-- An object that is not closed at once is read as its members. -/
theorem reads_value_members {more rest : List Char} {members : List (Option String × Json)}
    (read : Reads (readMembers ('"' :: more)) members rest) :
    Reads (readValue ('\x7b' :: '"' :: more)) (ofMembers members) rest := by
  obtain ⟨shorter, read⟩ := read
  refine ⟨Nat.lt_succ_of_lt shorter, ?_⟩
  rw [readValue, skipSpace_cons (by decide)]
  simp [skipSpace_cons (c := '"') (by decide), read]

theorem reads_last_item {text rest : List Char} {item : Json}
    (read : Reads (readValue text) item (']' :: rest)) : Reads (readItems text) [item] rest := by
  obtain ⟨shorter, read⟩ := read
  refine ⟨Nat.lt_of_succ_lt shorter, ?_⟩
  rw [readItems, read]
  simp [skipSpace_cons (c := ']') (by decide)]

theorem reads_next_item {text more rest : List Char} {item : Json} {items : List Json}
    (read : Reads (readValue text) item (',' :: more)) (later : Reads (readItems more) items rest) :
    Reads (readItems text) (item :: items) rest := by
  obtain ⟨shorter, read⟩ := read
  obtain ⟨still, later⟩ := later
  refine ⟨Nat.lt_trans still (Nat.lt_of_succ_lt shorter), ?_⟩
  rw [readItems, read]
  simp [skipSpace_cons (c := ',') (by decide), later]

theorem reads_name (name : String) (rest : List Char) :
    Reads (readName (spelled (stringPieces name) ++ ':' :: rest)) (some name) rest := by
  rw [spelled_stringPieces, List.cons_append, List.append_assoc, List.singleton_append]
  obtain ⟨shorter, read⟩ := reads_string name (':' :: rest)
  refine ⟨by simp; omega, ?_⟩
  rw [readName, skipSpace_cons (by decide)]
  simp [read, skipSpace_cons (c := ':') (by decide)]

theorem reads_last_member {text more rest : List Char} {name : Option String} {value : Json}
    (named : Reads (readName text) name more)
    (read : Reads (readValue more) value ('\x7d' :: rest)) :
    Reads (readMembers text) [(name, value)] rest := by
  obtain ⟨behind, named⟩ := named
  obtain ⟨shorter, read⟩ := read
  refine ⟨Nat.lt_trans (Nat.lt_of_succ_lt shorter) behind, ?_⟩
  rw [readMembers, named]
  simp [read, skipSpace_cons (c := '\x7d') (by decide)]

theorem reads_next_member {text more others rest : List Char} {name : Option String} {value : Json}
    {members : List (Option String × Json)} (named : Reads (readName text) name more)
    (read : Reads (readValue more) value (',' :: others))
    (later : Reads (readMembers others) members rest) :
    Reads (readMembers text) ((name, value) :: members) rest := by
  obtain ⟨behind, named⟩ := named
  obtain ⟨shorter, read⟩ := read
  obtain ⟨still, later⟩ := later
  refine ⟨Nat.lt_trans still (Nat.lt_trans (Nat.lt_of_succ_lt shorter) behind), ?_⟩
  rw [readMembers, named]
  simp [read, skipSpace_cons (c := ',') (by decide), later]

/-- An object all of whose names are well-formed is one. -/
theorem ofMembers_some (members : List (String × Json)) :
    ofMembers (members.map fun member => (some member.1, member.2)) = .object members := by
  have all : members.mapM some = some members := by
    induction members with
    | nil => rfl
    | cons member rest ih => simp [ih]
  simp [ofMembers, List.mapM_map, Function.comp_def, all]

/-! ## How values are written -/

/-- The text of an integer is that of its magnitude behind its sign. -/
theorem toList_toString_int (value : Int) :
    (toString value).toList = numberText (decide (value < 0)) value.natAbs [] none := by
  rw [Int.toString_eq_repr, Int.repr_eq_if]
  by_cases negative : value < 0
  · have magnitude : (-value).toNat = value.natAbs := by omega
    simp [numberText, signed, fractionText, exponentText, negative, Int.not_le.mpr negative,
      magnitude]
  · have magnitude : value.toNat = value.natAbs := by omega
    simp [numberText, signed, fractionText, exponentText, negative, Int.not_lt.mp negative,
      magnitude]

theorem ofParts_integer (value : Int) :
    ofParts (decide (value < 0)) value.natAbs [] none = .integer value := by
  have integral : 0 ≤ value ∨ value ≠ 0 := by omega
  have magnitude : (if value < 0 then -(value.natAbs : Int) else value.natAbs) = value := by
    split_ifs <;> omega
  rw [ofParts, if_pos (by simpa using integral)]
  simp only [decide_eq_true_eq, magnitude]

theorem toList_decimalText {number : Decimal} (small : ∀ digit ∈ number.fraction, digit < 10) :
    (decimalText number).toList =
      numberText number.negative number.whole number.fraction number.exponent := by
  have digits : number.fraction.flatMap (fun digit => (toString (digit % 10)).toList) =
      number.fraction.map Nat.digitChar := by
    rw [← List.flatMap_pure_eq_map]
    refine List.flatMap_congr fun digit inside => ?_
    have below := small digit inside
    rw [Nat.mod_eq_of_lt below, Nat.toString_eq_repr, Nat.toList_repr,
      Nat.toDigits_of_lt_base below]
    rfl
  have point : (if number.fraction.isEmpty = true then ""
      else "." ++ String.join (number.fraction.map fun digit => toString (digit % 10))).toList =
      fractionText number.fraction := by
    rw [fractionText]
    cases empty : number.fraction with
    | nil => rfl
    | cons first more =>
      rw [empty] at digits
      rw [if_neg (by simp), if_neg (by simp), String.toList_append, String.toList_join,
        List.flatMap_map, digits]
      rfl
  have sign : (if number.negative = true then "-" else "").toList ++
      (toString number.whole).toList = signed number.negative (toString number.whole).toList := by
    cases number.negative <;> rfl
  have behind (first rest : List Char) :
      signed number.negative (first ++ rest) = signed number.negative first ++ rest := by
    cases number.negative <;> rfl
  rw [numberText, behind, ← sign, decimalText]
  cases number.exponent with
  | none => simp only [String.toList_append, point, exponentText, List.append_assoc]; rfl
  | some exponent =>
    have power : (toString exponent).toList =
        signed (decide (exponent < 0)) (toString exponent.natAbs).toList := by
      simpa [numberText, fractionText, exponentText] using toList_toString_int exponent
    simp only [String.toList_append, point, exponentText, List.append_assoc, ← power]
    rfl

theorem ofParts_decimal {number : Decimal} (proper : number.IsProper) :
    ofParts number.negative number.whole number.fraction number.exponent = .decimal number := by
  rw [ofParts, if_neg]
  intro integral
  simp only [Bool.and_eq_true, List.isEmpty_iff, Option.isNone_iff_eq_none, Bool.not_eq_true',
    Bool.and_eq_false_iff, beq_eq_false_iff_ne] at integral
  obtain ⟨⟨noFraction, noExponent⟩, apart⟩ := integral
  obtain ⟨minus, zero⟩ := proper.apart noFraction noExponent
  rw [minus, zero] at apart
  simp at apart

/-- A value begins with a character that is no blank and closes no array. -/
theorem exists_pieces {value : Json} (has : value.HasText) :
    ∃ c more, spelled value.pieces = c :: more ∧ isSpace c = false ∧ c ≠ ']' := by
  have number (negative : Bool) (whole : Nat) (fraction : List Nat) (exponent : Option Int) :
      ∃ c more, numberText negative whole fraction exponent = c :: more ∧ isSpace c = false ∧
        c ≠ ']' := by
    obtain ⟨c, more, text, start⟩ := exists_numberText negative whole fraction exponent
    exact ⟨c, more, text, isSpace_of_start start, ne_of_start start ']' rfl (by decide)⟩
  match value with
  | .null => exact ⟨'n', _, rfl, by decide, by decide⟩
  | .bool true => exact ⟨'t', _, rfl, by decide, by decide⟩
  | .bool false => exact ⟨'f', _, rfl, by decide, by decide⟩
  | .string _ => exact ⟨'"', _, rfl, by decide, by decide⟩
  | .array [] => exact ⟨'[', _, rfl, by decide, by decide⟩
  | .array (_ :: _) => exact ⟨'[', _, rfl, by decide, by decide⟩
  | .object [] => exact ⟨'\x7b', _, rfl, by decide, by decide⟩
  | .object ((_, _) :: _) => exact ⟨'\x7b', _, rfl, by decide, by decide⟩
  | .integer value =>
      rw [pieces, spelled_cons, spelled_nil, List.append_nil, toList_toString_int]
      exact number ..
  | .decimal _ =>
      rw [HasText] at has
      rw [pieces, spelled_cons, spelled_nil, List.append_nil, toList_decimalText has.digits]
      exact number ..
  | .illFormed => cases has

/-- What stands behind an item or a member does not go on with a number. -/
theorem ends_cons {c : Char} {rest : List Char} (mark : c ∈ [',', ']', '\x7d']) :
    Ends (c :: rest) := by
  rintro _ ⟨⟩
  simp only [List.mem_cons, List.not_mem_nil, or_false] at mark
  rcases mark with rfl | rfl | rfl <;> decide

/-! ## Main statement -/

/-- The value is read as it was written, up to what stands behind it. -/
def ReadsBack (value : Json) : Prop :=
  ∀ rest, Ends rest → Reads (readValue (spelled value.pieces ++ rest)) value rest

theorem reads_items {item : Json} {items : List Json} (first : ReadsBack item)
    (others : ∀ item ∈ items, ReadsBack item) (rest : List Char) :
    Reads (readItems (spelled item.pieces ++ (spelled (laterItems items) ++ ']' :: rest)))
      (item :: items) rest := by
  induction items generalizing item with
  | nil => exact reads_last_item (first _ (ends_cons (by simp)))
  | cons next items ih =>
      have later := ih (others next List.mem_cons_self)
        fun item member => others item (.tail _ member)
      have text : spelled (laterItems (next :: items)) ++ ']' :: rest =
          ',' :: (spelled next.pieces ++ (spelled (laterItems items) ++ ']' :: rest)) := by
        simp [laterItems]
      rw [text]
      exact reads_next_item (first _ (ends_cons (by simp))) later

theorem reads_members (name : String) {value : Json} {members : List (String × Json)}
    (first : ReadsBack value) (others : ∀ member ∈ members, ReadsBack member.2)
    (rest : List Char) :
    Reads (readMembers (spelled (stringPieces name) ++ ':' ::
      (spelled value.pieces ++ (spelled (laterMembers members) ++ '\x7d' :: rest))))
      (((name, value) :: members).map fun member => (some member.1, member.2)) rest := by
  induction members generalizing name value with
  | nil => exact reads_last_member (reads_name name _) (first _ (ends_cons (by simp)))
  | cons next members ih =>
      obtain ⟨other, next⟩ := next
      have later := ih other (others _ List.mem_cons_self)
        fun member inside => others member (.tail _ inside)
      have text : spelled (laterMembers ((other, next) :: members)) ++ '\x7d' :: rest =
          ',' :: (spelled (stringPieces other) ++ ':' ::
            (spelled next.pieces ++ (spelled (laterMembers members) ++ '\x7d' :: rest))) := by
        simp [laterMembers]
      rw [text]
      exact reads_next_member (reads_name name _) (first _ (ends_cons (by simp))) later

theorem readsBack_array {items : List Json} (has : ItemsHaveText items)
    (each : ∀ item ∈ items, ReadsBack item) : ReadsBack (.array items) := by
  intro rest ends
  cases items with
  | nil => exact reads_value_noItems rest
  | cons item items =>
      -- the reader has to see that the array is not closed at once
      have read := reads_items (each item List.mem_cons_self)
        (fun item member => each item (.tail _ member)) rest
      obtain ⟨c, more, begins, filled, goesOn⟩ := exists_pieces has.1
      have text : spelled (pieces (.array (item :: items))) ++ rest =
          '[' :: (spelled item.pieces ++ (spelled (laterItems items) ++ ']' :: rest)) := by
        simp [pieces]
      rw [text]
      rw [begins] at read ⊢
      exact reads_value_items filled goesOn read

theorem readsBack_object {members : List (String × Json)}
    (each : ∀ member ∈ members, ReadsBack member.2) : ReadsBack (.object members) := by
  intro rest ends
  cases members with
  | nil => exact reads_value_noMembers rest
  | cons member members =>
      obtain ⟨name, value⟩ := member
      have read := reads_members name (each _ List.mem_cons_self)
        (fun member inside => each member (.tail _ inside)) rest
      have text : spelled (pieces (.object ((name, value) :: members))) ++ rest =
          '\x7b' :: (spelled (stringPieces name) ++ ':' ::
            (spelled value.pieces ++ (spelled (laterMembers members) ++ '\x7d' :: rest))) := by
        simp [pieces]
      rw [text, ← ofMembers_some]
      rw [spelled_stringPieces, List.cons_append] at read ⊢
      exact reads_value_members read

mutual

/-- Every value that has a text is read as it was written. -/
theorem readsBack (value : Json) (has : value.HasText) : ReadsBack value := by
  match value with
  | .null => exact fun _ _ => reads_value_of_scalar rfl (by decide) ⟨by simp; omega, rfl⟩
  | .bool true => exact fun _ _ => reads_value_of_scalar rfl (by decide) ⟨by simp; omega, rfl⟩
  | .bool false => exact fun _ _ => reads_value_of_scalar rfl (by decide) ⟨by simp; omega, rfl⟩
  | .integer value =>
      intro rest ends
      rw [pieces, spelled_cons, spelled_nil, List.append_nil, toList_toString_int,
        ← ofParts_integer value]
      exact reads_value_number _ _ (by simp) _ ends
  | .decimal number =>
      intro rest ends
      rw [HasText] at has
      rw [pieces, spelled_cons, spelled_nil, List.append_nil, toList_decimalText has.digits,
        ← ofParts_decimal has]
      exact reads_value_number _ _ has.digits _ ends
  | .string text =>
      intro rest _
      rw [pieces, spelled_stringPieces, List.cons_append, List.append_assoc]
      exact reads_value_string text rest
  | .array items => exact readsBack_array has (items_readBack items has)
  | .object members => exact readsBack_object (members_readBack members has)
  | .illFormed => cases has

theorem items_readBack (items : List Json) (has : ItemsHaveText items) :
    ∀ item ∈ items, ReadsBack item := by
  match items with
  | [] => simp
  | item :: rest =>
      rw [List.forall_mem_cons]
      exact ⟨readsBack item has.1, items_readBack rest has.2⟩

theorem members_readBack (members : List (String × Json)) (has : MembersHaveText members) :
    ∀ member ∈ members, ReadsBack member.2 := by
  match members with
  | [] => simp
  | (name, value) :: rest =>
      rw [List.forall_mem_cons]
      exact ⟨readsBack value has.1, members_readBack rest has.2⟩

end

/-- The text of a value is read as the value. -/
theorem parse?_render {value : Json} (has : value.HasText) :
    parse? value.render = some value := by
  have read : Reads (readValue value.render.toList) value [] := by
    rw [toList_render, ← List.append_nil (spelled value.pieces)]
    exact readsBack value has [] nofun
  obtain ⟨shorter, read⟩ := read
  simp only [parse?, read]
  rfl

end Json

/-- Each line that some calls write is read as the value that was written. -/
theorem JsonLines.parse?_written {calls : List SinkCall}
    (texts : ∀ value ∈ calls.filterMap (·.value?), value.HasText) :
    (SinkCall.written calls).map Json.parse? = (calls.filterMap (·.value?)).map some := by
  rw [SinkCall.written, List.map_map]
  exact List.map_congr_left fun value member => Json.parse?_render (texts value member)

end CodeIndex
