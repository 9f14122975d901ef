import SExpr.Unicode.Printable

/-!
# Quoting a text in a message

A message is one line, whatever text it speaks about.  So a text is shown between quotation
marks, with everything that could break the line, hide or be mistaken for the closing mark
written as an escape.

* The mark is an apostrophe, unless the text has an apostrophe and no double quote.
* Backslash and the mark in use are preceded by a backslash; tab, line feed and carriage return
  have letters; any other character that is not printable is given by its code point, in two,
  four or eight lower-case hexadecimal digits.
-/

namespace SExpr.Text

/-- The last `width` hexadecimal digits of a number, in lower case. -/
def hexDigits : (width : Nat) → Nat → List Char
  | 0, _ => []
  | width + 1, n => hexDigits width (n / 16) ++ [Nat.digitChar (n % 16)]

/-- The quotation mark to put around a text: the one that needs fewer escapes. -/
def quoteMark (text : List Char) : Char :=
  if '\'' ∈ text ∧ '"' ∉ text then '"' else '\''

/-- How one character is written between two quotation marks. -/
def escaped (mark c : Char) : List Char :=
  if c = '\\' ∨ c = mark then ['\\', c]
  else if c = '\t' then ['\\', 't']
  else if c = '\n' then ['\\', 'n']
  else if c = '\r' then ['\\', 'r']
  else if Unicode.isPrintable c then [c]
  else if c.toNat < 0x100 then '\\' :: 'x' :: hexDigits 2 c.toNat
  else if c.toNat < 0x10000 then '\\' :: 'u' :: hexDigits 4 c.toNat
  else '\\' :: 'U' :: hexDigits 8 c.toNat

/-- The characters of a quoted text, marks included. -/
def quotedChars (text : List Char) : List Char :=
  quoteMark text :: text.flatMap (escaped (quoteMark text)) ++ [quoteMark text]

/-- A text between quotation marks, fit to stand in a one-line message. -/
def quoted (text : String) : String := String.ofList (quotedChars text.toList)

end SExpr.Text
