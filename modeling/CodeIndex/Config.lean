/-!
# Configuration

Which rows are written, and how much source text goes into them.
-/

namespace CodeIndex

/-- The choices of a user. Without a limit, the text of a node is kept whole. -/
structure Config where
  emitDocComments : Bool := true
  emitUsages : Bool := true
  maxValueLength : Option Nat := none
deriving DecidableEq, Repr

/-- As many characters of a text as the limit allows. -/
def Config.clip (config : Config) (text : String) : String :=
  match config.maxValueLength with
  | some limit => String.ofList (text.toList.take limit)
  | none => text

end CodeIndex
