import SExpr.Reader.Primitive
import SExpr.Datum.Basic

/-!
# The reader of texts

A text stands between double quotation marks.  Inside, a backslash and a code stand for a
character that could not stand there itself; every other character, line feeds included, stands
for itself.

* `scanTextBody` — what stands between the marks, found in one pass.
-/

namespace SExpr.Reader

variable {L : Type} [Log L]

/-- The character that an escape code stands for. -/
def escapeCode? : Char → Option Char
  | '\\' => some '\\'
  | '"' => some '"'
  | 'n' => some '\n'
  | 'r' => some '\r'
  | 't' => some '\t'
  | _ => none

/-- What scanning the inside of a text comes to. -/
inductive TextScan where
  /-- The characters that are meant, and how many were read for them. -/
  | content (meant : List Char) (length : Nat)
  /-- The offset at which an escape code is wanted and does not stand. -/
  | badEscape (offset : Nat)
  deriving DecidableEq, Repr

/-- A scan with one more character in front, for which so many were read. -/
def TextScan.cons (c : Char) (width : Nat) : TextScan → TextScan
  | .content meant length => .content (c :: meant) (width + length)
  | .badEscape offset => .badEscape (width + offset)

/-- Scan a text up to the quotation mark that ends it, or to the end of what is ahead. -/
def scanTextBody : List Char → TextScan
  | [] => .content [] 0
  | ['\\'] => .badEscape 1
  | '\\' :: code :: rest =>
    match escapeCode? code with
    | some c => (scanTextBody rest).cons c 2
    | none => .badEscape 1
  | c :: rest => if c = '"' then .content [] 0 else (scanTextBody rest).cons c 1

/-- Read what stands between the quotation marks of a text. -/
def textBody : Reader L (List Char) := fun ahead =>
  match scanTextBody ahead with
  | .content meant length => ⟨.found meant length, Log.nothing⟩
  | .badEscape offset => failAt offset "escape code" ahead

/-- Read a text. -/
def text : Reader L Datum := do
  token "\""
  let content ← textBody
  token "\""
  return .text (String.ofList content)

end SExpr.Reader
