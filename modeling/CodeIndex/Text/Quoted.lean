import CodeIndex.Text.Printable

/-!
# Quoted text

A value that a message quotes is written between double quotes, so that a reader sees exactly
which characters it has:

* `\\`, `"`, line feed, carriage return, tab and NUL have two-character forms;
* a character that does not show (`isPrintable`) is written by its code point, `\u` and the
  lower-case hexadecimal digits in braces;
* every other character stands for itself.
-/

namespace CodeIndex.Text

/-- One character of a quoted text. -/
def quoteChar (c : Char) : List Char :=
  if c = '\x00' then ['\\', '0']
  else if c = '\t' then ['\\', 't']
  else if c = '\n' then ['\\', 'n']
  else if c = '\r' then ['\\', 'r']
  else if c = '"' then ['\\', '"']
  else if c = '\\' then ['\\', '\\']
  else if isPrintable c then [c]
  else ['\\', 'u', '\x7b'] ++ Nat.toDigits 16 c.toNat ++ ['\x7d']

/-- The text between double quotes, every character by `quoteChar`. -/
def quoted (text : String) : String :=
  String.ofList ('"' :: text.toList.flatMap quoteChar ++ ['"'])

end CodeIndex.Text
