import SExpr.Reader.Log

/-!
# Readers

A reader looks at the text ahead of it and comes to a *verdict*: it finds a value and says how
many characters that takes, or it finds nothing, or the text is nested too deeply to go on.  The
second leaves the text untouched, so that another reader can be tried at the same place; the
third ends everything.

A reader is given the text ahead and nothing else.  It cannot look behind, it cannot see how far
others got, and all offsets that it speaks of count from its own place; the combinators below
shift them where one reader goes on after another.
-/

namespace SExpr

/-- What a reader comes to. -/
inductive Verdict (α : Type) where
  /-- A value was found in that many characters. -/
  | found (value : α) (length : Nat)
  /-- What was wanted is not here. -/
  | missing
  /-- An expression at that offset is nested too deeply. -/
  | tooDeep (offset : Nat)
  deriving DecidableEq, Repr

namespace Verdict

variable {α β : Type}

/-- A verdict seen from further left: the characters in between belong to it. -/
def shift (distance : Nat) : Verdict α → Verdict α
  | .found value length => .found value (distance + length)
  | .missing => .missing
  | .tooDeep offset => .tooDeep (distance + offset)

/-- A verdict with another value. -/
def map (f : α → β) : Verdict α → Verdict β
  | .found value length => .found (f value) length
  | .missing => .missing
  | .tooDeep offset => .tooDeep offset

end Verdict

/-- A verdict and the log of how it was come to. -/
structure Outcome (L α : Type) where
  verdict : Verdict α
  log : L
  deriving Repr

/-- A reader of values, which writes a log. -/
def Reader (L α : Type) : Type := List Char → Outcome L α

namespace Reader

variable {L α β : Type} [Log L]

/-! ## Sequence and choice -/

/-- Find a value without reading anything. -/
def succeed (value : α) : Reader L α := fun _ => ⟨.found value 0, Log.nothing⟩

/-- Read one thing, then go on behind it. -/
def andThen (reader : Reader L α) (next : α → Reader L β) : Reader L β := fun ahead =>
  match reader ahead with
  | ⟨.found value length, log⟩ =>
    let outcome := next value (ahead.drop length)
    ⟨outcome.verdict.shift length, Log.join log (Log.shift length outcome.log)⟩
  | ⟨.missing, log⟩ => ⟨.missing, log⟩
  | ⟨.tooDeep offset, log⟩ => ⟨.tooDeep offset, log⟩

/-- Read a thing and make something else of it. -/
def mapped (f : α → β) (reader : Reader L α) : Reader L β := fun ahead =>
  let outcome := reader ahead
  ⟨outcome.verdict.map f, outcome.log⟩

/-- Read one thing or, if it is missing, another at the same place. -/
def orElse (first : Reader L α) (second : Unit → Reader L α) : Reader L α := fun ahead =>
  match first ahead with
  | ⟨.missing, log⟩ =>
    let outcome := second () ahead
    ⟨outcome.verdict, Log.join log outcome.log⟩
  | outcome => outcome

/-- Find nothing, and say nothing about it. -/
def nowhere : Reader L α := fun _ => ⟨.missing, Log.nothing⟩

instance : Monad (Reader L) where
  pure := succeed
  bind := andThen
  map := mapped

instance : Alternative (Reader L) where
  failure := nowhere
  orElse := orElse

/-- The first of several alternatives that finds something. -/
def firstOf : List (Reader L α) → Reader L α
  | [] => nowhere
  | reader :: others => reader <|> firstOf others

/-! ## Nesting -/

/-- Read a nested expression, and note that it was entered and left. -/
def nested (reader : Reader L α) : Reader L α := fun ahead =>
  let outcome := reader ahead
  ⟨outcome.verdict, Log.join Log.opened (Log.join outcome.log Log.closed)⟩

/-- Refuse to go any deeper. -/
def refuse : Reader L α := fun _ => ⟨.tooDeep 0, Log.join Log.opened Log.closed⟩

end Reader

end SExpr
