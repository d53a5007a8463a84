/-!
# Character classes

The two classes that decide whether a name is clean:

* `isBlank` is the Unicode property White_Space, 25 characters;
* `isControl` is the general category Cc, 65 characters.

A text is *trimmed* (`isTrimmed`) when it neither begins nor ends with a blank. Visible characters
of ASCII belong to neither class. `hasDoubleDot_append` says where two full stops stand side by side
in a text of two.
-/

namespace CodeIndex.Text

/-- The code points of the Unicode property White_Space, as closed ranges. -/
def blankRanges : List (Nat × Nat) :=
  [(0x0009, 0x000D), (0x0020, 0x0020), (0x0085, 0x0085), (0x00A0, 0x00A0), (0x1680, 0x1680),
    (0x2000, 0x200A), (0x2028, 0x2029), (0x202F, 0x202F), (0x205F, 0x205F), (0x3000, 0x3000)]

/-- Whether a code point lies in one of some closed ranges. -/
def inRanges (ranges : List (Nat × Nat)) (code : Nat) : Bool :=
  ranges.any fun range => decide (range.1 ≤ code) && decide (code ≤ range.2)

/-- Separates words: the Unicode property White_Space. -/
def isBlank (c : Char) : Bool := inRanges blankRanges c.toNat

/-- Controls a device and prints nothing: the general category Cc. -/
def isControl (c : Char) : Bool :=
  decide (c.toNat ≤ 0x1F) || (decide (0x7F ≤ c.toNat) && decide (c.toNat ≤ 0x9F))

/-- Neither begins nor ends with a blank. The empty text is trimmed. -/
def isTrimmed (text : List Char) : Bool :=
  !text.head?.any isBlank && !text.getLast?.any isBlank

/-- Two full stops stand side by side somewhere in the text. -/
def hasDoubleDot : List Char → Bool
  | '.' :: '.' :: _ => true
  | _ :: rest => hasDoubleDot rest
  | [] => false

/-- A visible character of ASCII separates and controls nothing. -/
theorem isBlank_of_visible {c : Char} (low : 0x21 ≤ c.toNat) (high : c.toNat ≤ 0x7E) :
    isBlank c = false := by
  simp only [isBlank, inRanges, blankRanges, List.any_cons, List.any_nil, Bool.or_false,
    Bool.or_eq_false_iff, Bool.and_eq_false_iff, decide_eq_false_iff_not]
  omega

theorem isControl_of_visible {c : Char} (low : 0x21 ≤ c.toNat) (high : c.toNat ≤ 0x7E) :
    isControl c = false := by
  simp only [isControl, Bool.or_eq_false_iff, Bool.and_eq_false_iff, decide_eq_false_iff_not]
  omega

/-- Two full stops stand at the beginning, or further on. -/
theorem hasDoubleDot_cons {c : Char} {rest : List Char} :
    hasDoubleDot (c :: rest) = true ↔
      (c = '.' ∧ rest.head? = some '.') ∨ hasDoubleDot rest = true := by
  rw [hasDoubleDot.eq_def]
  split
  · next head tail same =>
      obtain ⟨rfl, rfl⟩ := List.cons.inj same
      simp
  · next head tail apart same =>
      obtain ⟨rfl, rfl⟩ := List.cons.inj same
      refine ⟨.inr, ?_⟩
      rintro (⟨rfl, second⟩ | later)
      · obtain ⟨tail, rfl⟩ := List.head?_eq_some_iff.mp second
        exact absurd rfl (apart tail rfl)
      · exact later
  · next same => cases same

theorem mem_of_hasDoubleDot {text : List Char} (double : hasDoubleDot text = true) :
    '.' ∈ text := by
  induction text with
  | nil => cases double
  | cons c rest ih =>
      rcases hasDoubleDot_cons.mp double with ⟨rfl, _⟩ | later
      · exact List.mem_cons_self
      · exact List.mem_cons_of_mem c (ih later)

/-- Two full stops stand side by side in one of two texts, or where these meet. -/
theorem hasDoubleDot_append {left right : List Char} :
    hasDoubleDot (left ++ right) = true ↔
      hasDoubleDot left = true ∨ (left.getLast? = some '.' ∧ right.head? = some '.') ∨
        hasDoubleDot right = true := by
  induction left with
  | nil => simp [hasDoubleDot]
  | cons c rest ih =>
      rw [List.cons_append, hasDoubleDot_cons, hasDoubleDot_cons, ih]
      cases rest with
      | nil => simp [hasDoubleDot]
      | cons next rest => simp [or_assoc]

end CodeIndex.Text
