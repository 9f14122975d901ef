import SExpr.ReadError
import SExpr.Reader.Expression

/-!
# Reading a text

A text is read from its beginning as one of four things: an expression, a sequence of
expressions, a sequence with a tail, or a quoted expression.  A strict reading wants nothing
behind it.

* `Entry.read` — the datum and where it ends, or why there is none.
* `Datum.ofText` — the datum that a text stands for, read as an expression.

A reading that finds something and is not strict forgets its failures.  A strict one adds to them
that it wanted the end of the text, and so still speaks of the furthest place that any alternative
reached, which may lie behind the end of what was found.
-/

namespace SExpr

/-- What a text is to be read as. -/
inductive Entry where
  /-- One expression. -/
  | expression
  /-- Expressions with white space between them. -/
  | list
  /-- Expressions with white space behind each, a point and one more expression. -/
  | dottedList
  /-- An apostrophe and an expression. -/
  | quoted
  deriving DecidableEq, Repr

namespace Entry

/-- The reader that a text is given to. -/
def reader {L : Type} [Log L] (entry : Entry) (composites : Bool) (room : Nat) :
    Reader L Datum :=
  let item : Reader L Datum := Reader.item composites room
  match entry with
  | .expression => Reader.expression composites room
  | .list => Reader.list item
  | .dottedList => Reader.dottedPair item
  | .quoted => Reader.quoted item

/-- What a strict reading wants behind what it found. -/
def endOfInput : String := "end of input"

/-- What a text stands for and where that ends, from what its reader came to. -/
def conclude (options : Options) (source : List Char) (outcome : Outcome Furthest Datum) :
    Except ReadError (Datum × Nat) :=
  match outcome.verdict with
  | .found datum length =>
    if options.strict ∧ length ≠ source.length then
      .error (.ofFurthest source (outcome.log.join (.missedAt length endOfInput)))
    else .ok (datum, length)
  | .missing => .error (.ofFurthest source outcome.log)
  | .tooDeep offset => .error ⟨source, offset, .tooDeep options.maxDepth⟩

/-- Read a text given by its characters: what it stands for and where that ends. -/
def readChars (entry : Entry) (options : Options) (source : List Char) :
    Except ReadError (Datum × Nat) :=
  conclude options source (entry.reader options.composites (options.room 0) source)

/-- Read a text: what it stands for and where that ends. -/
def read (entry : Entry) (options : Options) (source : String) : Except ReadError (Datum × Nat) :=
  entry.readChars options source.toList

/-- Read a text: what it stands for. -/
def readDatum (entry : Entry) (options : Options) (source : String) : Except ReadError Datum :=
  (entry.read options source).map Prod.fst

end Entry

/-- The datum that a text stands for. -/
def Datum.ofText (source : String) (options : Options := {}) : Except ReadError Datum :=
  Entry.expression.readDatum options source

end SExpr
