import SExpr.Reader.Composite
import SExpr.Reader.Literal

/-!
# The reader of expressions

An expression is a literal or, where composite expressions are allowed, a quoted expression or a
list or dotted pair in parentheses.  Every expression inside another is one level deeper, and
there is room for a limited number of levels; the levels that are left are what the reader of
nested expressions recurs on.

* `item` — the reader of an expression inside another.
* `expression` — the reader of an expression that stands by itself.
-/

namespace SExpr

/-- How a text is to be read. -/
structure Options where
  /-- Whether the whole text has to be one expression. -/
  strict : Bool := false
  /-- Whether composite expressions are allowed wherever an expression is. -/
  composites : Bool := false
  /-- How many levels of nested expressions are allowed. -/
  maxDepth : Int := 64
  deriving DecidableEq, Repr

/-- The levels of nesting that are left at a depth. -/
def Options.room (options : Options) (depth : Int) : Nat := (options.maxDepth - depth).toNat

namespace Reader

variable {L : Type} [Log L]

/-- Read a composite expression, if such are allowed; `item` reads what stands inside. -/
def composite (allowed : Bool) (item : Reader L Datum) : Reader L Datum :=
  if allowed then firstOf [quoted item, parenthesized item] else nowhere

/-- Read an expression, trying the kinds of literals in the given order. -/
def dispatch (order : List Literal) (composites : Bool) (item : Reader L Datum) :
    Reader L Datum :=
  Literal.firstIn order <|> composite composites item

/-- Read an expression one level further down, if there is room for it. -/
def itemIn (order : List Literal) (composites : Bool) :
    (room : Nat) → List Char → Outcome L Datum
  | 0, ahead => refuse ahead
  | room + 1, ahead => nested (dispatch order composites (itemIn order composites room)) ahead

/-- Read an expression, with room for so many levels inside it. -/
def expressionIn (order : List Literal) (composites : Bool) (room : Nat) : Reader L Datum :=
  dispatch order composites (itemIn order composites room)

/-- Read an expression inside another, with the kinds of literals in their order. -/
def item (composites : Bool) (room : Nat) : Reader L Datum :=
  itemIn Literal.inOrder composites room

/-- Read an expression that stands by itself, with the kinds of literals in their order. -/
def expression (composites : Bool) (room : Nat) : Reader L Datum :=
  expressionIn Literal.inOrder composites room

end Reader

end SExpr
