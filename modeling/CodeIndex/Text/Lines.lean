/-!
# Lines of a text

A text that is written as a line may itself hold line feeds; whoever reads it back then finds
several lines. A carriage return at the end of a line belongs to the line feed behind it.

* `pieces` cuts a text at each occurrence of a character, and gives at least one piece;
* `linesOf` are the lines that are read back.
-/

namespace CodeIndex.Text

/-- The parts of a text between the occurrences of a character. -/
def pieces (mark : Char) : List Char → List (List Char)
  | [] => [[]]
  | c :: rest =>
    if c = mark then [] :: pieces mark rest
    else
      match pieces mark rest with
      | [] => [[c]]
      | first :: later => (c :: first) :: later

/-- A line without a carriage return at its end. -/
def withoutReturn (line : List Char) : List Char :=
  if line.getLast? = some '\r' then line.dropLast else line

/-- The lines of a text that is written with a line feed behind it. -/
def linesOf (text : String) : List String :=
  (pieces '\n' text.toList).map fun line => String.ofList (withoutReturn line)

theorem pieces_ne_nil (mark : Char) (text : List Char) : pieces mark text ≠ [] := by
  cases text with
  | nil => simp [pieces]
  | cons c rest =>
    rw [pieces]
    split
    · simp
    · split <;> simp

theorem pieces_of_not_mem {mark : Char} {text : List Char} (clean : mark ∉ text) :
    pieces mark text = [text] := by
  induction text with
  | nil => rfl
  | cons c rest ih =>
    simp only [List.mem_cons, not_or] at clean
    rw [pieces, if_neg (Ne.symm clean.1), ih clean.2]

end CodeIndex.Text
