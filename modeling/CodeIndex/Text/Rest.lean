/-!
# Rests of a text

A reader takes something off the front of a text and hands back the rest. That the rest is
shorter (`Shorter`), or at least not longer (`NoLonger`), is part of its type, so that whoever
reads on knows that reading ends. A text is a list, of characters or of what was made of them.
-/

namespace CodeIndex.Text

/-- A rest of a text that is shorter than the text. -/
abbrev Shorter {α : Type} (text : List α) := { rest : List α // rest.length < text.length }

/-- A rest of a text that is not longer than the text. -/
abbrev NoLonger {α : Type} (text : List α) := { rest : List α // rest.length ≤ text.length }

/-- The whole text as a rest of itself. -/
def whole {α : Type} (text : List α) : NoLonger text := ⟨text, Nat.le_refl _⟩

namespace NoLonger

/-- A rest of a text is a rest of the text with an item in front. -/
def cons {α : Type} (item : α) {text : List α} (rest : NoLonger text) :
    NoLonger (item :: text) :=
  ⟨rest.val, Nat.le_succ_of_le rest.property⟩

/-- A rest of a rest of a text is a rest of the text. -/
def trans {α : Type} {text behind : List α} (rest : NoLonger behind)
    (shorter : behind.length ≤ text.length) : NoLonger text :=
  ⟨rest.val, Nat.le_trans rest.property shorter⟩

end NoLonger

/-- A shorter rest is not longer than the text. -/
def Shorter.noLonger {α : Type} {text : List α} (rest : Shorter text) : NoLonger text :=
  ⟨rest.val, Nat.le_of_lt rest.property⟩

/-- The text behind an item, as a rest. -/
def tail {α : Type} (item : α) (text : List α) : NoLonger (item :: text) :=
  (whole text).cons item

/-- The text without some items in front. -/
def skip {α : Type} (count : Nat) (text : List α) : NoLonger text :=
  ⟨text.drop count, by rw [List.length_drop]; exact Nat.sub_le _ _⟩

theorem length_dropWhile_le {α : Type} (test : α → Bool) (text : List α) :
    (text.dropWhile test).length ≤ text.length :=
  (List.dropWhile_sublist test).length_le

/-- The text without the items in front that pass a test. -/
def skipWhile {α : Type} (test : α → Bool) (text : List α) : NoLonger text :=
  ⟨text.dropWhile test, length_dropWhile_le test text⟩

end CodeIndex.Text
