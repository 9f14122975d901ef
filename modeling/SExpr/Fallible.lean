import SExpr.Datum.Draft
import SExpr.Report

/-!
# Reading with every check in place

A reader makes values of what it reads: it converts numerals, and it builds data from their parts.
Conversions and constructors are choosier than readers.  A conversion refuses what is no numeral, a
decimal numeral that is too long for one piece, and a number that is too large for a double; a
constructor refuses a character of several code points, a ratio with denominator zero, and a part
that is no datum.  Elsewhere such a refusal cannot even be said: numerals are converted by total
functions, and data carry the proof that they are well made.

Here are the readers of expressions once more, with each conversion and each constructor as
something that may break down.  A breakdown ends everything: no alternative is tried after it, and
nothing is read behind it.

* `Conversion` — the conversions of numerals, with all that they can refuse.
* `Fallible` — a reader of values that may break down.
* `Fallible.expression` — the reader of expressions.
* `Fallible.report` — the report about a text, unless reading it breaks down.
-/

namespace SExpr

/-- What can go wrong where a value is made of what was read. -/
inductive Breakdown where
  /-- What is to be converted is no numeral. -/
  | notNumeral (text : List Char)
  /-- A decimal numeral has too many digits to be converted in one piece. -/
  | tooLong (digits : Nat)
  /-- A number is too large for a double. -/
  | overflow (number : Nat)
  /-- A value cannot be built. -/
  | construction (error : DraftError)
  deriving Repr

/-! ## Conversions -/

namespace Conversion

/-- Convert a numeral in one piece.  How many decimal digits a piece may have depends on the system
and is never less than 640, so no more are counted on; in a base that is a power of two there is no
such limit. -/
def inOnePiece (radix : Numeral.Radix) (text : List Char) : Except Breakdown Nat :=
  if text = [] ∨ ¬ text.all radix.isDigit then .error (.notNumeral text)
  else if radix = .decimal ∧ Numeral.pieceWidth < text.length then .error (.tooLong text.length)
  else .ok (Numeral.value radix.base text)

/-- Convert a decimal numeral of any length, cut in two until the pieces are short enough. -/
def decimal (text : List Char) : Except Breakdown Nat :=
  if text.length ≤ Numeral.pieceWidth then inOnePiece .decimal text
  else do
    let rest := text.drop (text.length / 2)
    let high ← decimal (text.take (text.length / 2))
    let low ← decimal rest
    return high * 10 ^ rest.length + low
termination_by text.length
decreasing_by
  all_goals simp only [Numeral.pieceWidth, List.length_take, List.length_drop] at *; omega

/-- Convert a numeral behind a tag. -/
def tagged : Numeral.Radix → List Char → Except Breakdown Nat
  | .decimal => decimal
  | radix => inOnePiece radix

/-- Convert a numeral with a point, which has to have digits on either side. -/
def double (text : List Char) : Except Breakdown Binary64 :=
  let whole := text.takeWhile Char.isDigit
  match text.dropWhile Char.isDigit with
  | '.' :: fraction =>
    if whole ≠ [] ∧ fraction ≠ [] ∧ fraction.all Char.isDigit then .ok (.ofDecimal whole fraction)
    else .error (.notNumeral text)
  | _ => .error (.notNumeral text)

/-- Convert a number to the nearest double, if that is finite. -/
def doubleOfNat (number : Nat) : Except Breakdown Binary64 :=
  if (Binary64.ofNat number).isInfinite then .error (.overflow number) else .ok (.ofNat number)

/-- A conversion to a double that takes a number which is too large for infinite. -/
def orInfinity : Except Breakdown Binary64 → Except Breakdown Binary64
  | .error (.overflow _) => .ok (.infinity false)
  | result => result

/-- Convert a part of a complex number. -/
def part : Reader.Part → Except Breakdown Binary64
  | .decimal value => .ok value
  | .whole value => orInfinity (doubleOfNat value)

end Conversion

/-! ## Readers -/

/-- A reader of values that may break down.  A breakdown is found in place of a value. -/
def Fallible (L α : Type) : Type := Reader L (Except Breakdown α)

namespace Fallible

variable {L α β : Type} [Log L]

/-- Read what no conversion and no constructor takes part in. -/
def plain (reader : Reader L α) : Fallible L α := Reader.mapped .ok reader

/-- Find the result of a conversion, or break down with it. -/
def convert (result : Except Breakdown α) : Fallible L α := Reader.succeed result

/-- Find a value that is built, or break down. -/
def build (result : Except DraftError Value) : Fallible L Value :=
  convert (result.mapError .construction)

/-- Read one thing, then go on behind it unless that broke down. -/
def andThen (reader : Fallible L α) (next : α → Fallible L β) : Fallible L β :=
  Reader.andThen reader fun
    | .ok value => next value
    | .error breakdown => convert (.error breakdown)

instance : Monad (Fallible L) where
  pure value := convert (.ok value)
  bind := andThen
  map f reader := Reader.mapped (Except.map f) reader

instance : Alternative (Fallible L) where
  failure := Reader.nowhere
  orElse := Reader.orElse

/-- The first of several alternatives that finds something or breaks down. -/
def firstOf (readers : List (Fallible L α)) : Fallible L α := Reader.firstOf readers

/-- The reader that uses itself in the way of a step. -/
def loop (step : Fallible L α → Fallible L α) : Fallible L α := Reader.loop step

/-- Read a thing for which the function gives a value; without one, fail where it starts. -/
def refine (reader : Fallible L α) (value? : α → Except Breakdown (Option β)) (what : String) :
    Fallible L β :=
  Reader.refine reader (fun raw =>
    match raw >>= value? with
    | .ok value => value.map .ok
    | .error breakdown => some (.error breakdown)) what

/-- Make sure that a thing is not ahead, and read nothing. -/
def notAhead (reader : Fallible L α) : Fallible L Unit := fun ahead =>
  match reader ahead with
  | ⟨.found (.ok _) _, log⟩ => ⟨.missing, log⟩
  | ⟨.found (.error breakdown) _, log⟩ => ⟨.found (.error breakdown) 0, log⟩
  | ⟨.missing, log⟩ => ⟨.found (.ok ()) 0, log⟩
  | ⟨.tooDeep offset, log⟩ => ⟨.tooDeep offset, log⟩

/-- Run a check only if the text ahead calls for it. -/
def checkWhen (called : List Char → Bool) (check : Fallible L Unit) : Fallible L Unit :=
  fun ahead => if called ahead then check ahead else convert (.ok ()) ahead

/-! ## Literals -/

/-- Read a natural number. -/
def natural : Fallible L Nat := do
  let numeral ← plain Reader.digits
  convert (Conversion.decimal numeral)

/-- Read an integer without a tag. -/
def plainInteger : Fallible L Value := do
  let value ← natural
  return .datum (.integer value)

/-- Read an integer in the base that its tag tells. -/
def radixInteger : Fallible L Value := do
  plain (Reader.token "#")
  let radix ← plain (Reader.pick Numeral.Radix.ofTag? "radix tag")
  let numeral ← plain (Reader.many radix.isDigit radix.digitName 1)
  convert (do return .datum (.integer (← Conversion.tagged radix numeral)))

/-- Read a number with a decimal point and digits on either side. -/
def decimal : Fallible L Binary64 := do
  let whole ← plain Reader.digits
  plain (Reader.token ".")
  let fraction ← plain Reader.digits
  convert (Conversion.double (whole ++ '.' :: fraction))

/-- Read a double-precision number. -/
def float : Fallible L Value := do
  let value ← decimal
  return .datum (.float value)

/-- The denominator that a numeral stands for, if it is not zero. -/
def denominator? (numeral : List Char) : Except Breakdown (Option Int) := do
  let value : Int ← Conversion.decimal numeral
  return if value ≠ 0 then some value else none

/-- Read a ratio. -/
def ratio : Fallible L Value := do
  let numerator ← natural
  plain (Reader.token "/")
  let denominator ← refine (plain Reader.digits) denominator? "non-zero denominator"
  build (Value.ratio numerator denominator)

/-- Read a part of a complex number. -/
def part : Fallible L Reader.Part :=
  firstOf [Reader.Part.decimal <$> decimal, Reader.Part.whole <$> natural]

/-- Read a complex number. -/
def complex : Fallible L Value := do
  let real ← part
  plain (Reader.token "+")
  let imaginary ← part
  plain (Reader.token "i")
  convert (do return .datum (.complex (← Conversion.part real) (← Conversion.part imaginary)))

/-- The text that a character with a name is made of. -/
def content? (name : List Char) : Option String :=
  let lower := name.map Char.toLower
  if lower = "space".toList then some " "
  else if lower = "newline".toList then some "\n"
  else if name.length = 1 then some (String.ofList name)
  else none

/-- Read a character. -/
def character : Fallible L Value := do
  plain (Reader.token "#\\")
  let content ← plain (Reader.refine (Reader.many Unicode.isLetter "letter" 1) content?
    "character name")
  build (Value.character content)

/-- Read any literal, other than an atom, that starts with a number sign. -/
def taggedLiteral : Fallible L Value :=
  firstOf [Value.datum <$> plain Reader.boolean, character, radixInteger]

/-- Read an atom. -/
def atom : Fallible L Value := do
  checkWhen Reader.looksTagged (notAhead taggedLiteral)
  let first ← plain (Reader.satisfy isAtomStart "letter or symbol")
  let rest ← plain (Reader.many isAtomChar "letter, digit or symbol" 0)
  return .datum (.atom (String.ofList (first :: rest)))

/-- The reader of the literals of one kind. -/
def literal : Literal → Fallible L Value
  | .atom => atom
  | .text => Value.datum <$> plain Reader.text
  | .character => character
  | .complex => complex
  | .float => float
  | .ratio => ratio
  | .integer => firstOf [plainInteger, radixInteger]
  | .boolean => Value.datum <$> plain Reader.boolean

/-! ## Composite expressions -/

/-- Read a quoted expression. -/
def quoted (item : Fallible L Value) : Fallible L Value := do
  plain (Reader.token "'")
  let value ← item
  build (Value.list [.datum (.atom "quote"), value])

/-- Read the tail of a dotted pair with the point in front of it. -/
def dottedTail (item : Fallible L Value) : Fallible L Value := do
  plain (Reader.token ".")
  plain Reader.gap
  item

/-- Read a tail, or one item or more and perhaps a tail. -/
def form (item : Fallible L Value) : Fallible L (List Value × Option Value) :=
  loop fun form =>
    (fun tail => ([], some tail)) <$> dottedTail item <|> (do
      let first ← item
      let rest ← (do plain Reader.gap; form) <|> pure ([], none)
      return (first :: rest.1, rest.2))

/-- Build what stands between parentheses from its parts. -/
def ofForm : List Value × Option Value → Except DraftError Value
  | (items, none) => Value.list items
  | (items, some tail) => Value.dotted items tail

/-- Read what stands between parentheses. -/
def formBody (item : Fallible L Value) : Fallible L Value := do
  let body ← form item <|> pure ([], none)
  build (ofForm body)

/-- Read a list or a dotted pair in parentheses. -/
def parenthesized (item : Fallible L Value) : Fallible L Value := do
  plain (Reader.token "(")
  let value ← formBody item
  let _ ← plain (Reader.many Unicode.isSpace "whitespace" 0)
  plain (Reader.token ")")
  return value

/-! ## Expressions -/

/-- Read a composite expression, if such are allowed; `item` reads what stands inside. -/
def composite (allowed : Bool) (item : Fallible L Value) : Fallible L Value :=
  if allowed then firstOf [quoted item, parenthesized item] else failure

/-- Read a literal or, where that is allowed, a composite expression. -/
def dispatch (composites : Bool) (item : Fallible L Value) : Fallible L Value :=
  firstOf (Literal.inOrder.map literal) <|> composite composites item

/-- Read an expression inside another, with room for so many levels. -/
def item (composites : Bool) : (room : Nat) → Fallible L Value
  | 0 => Reader.refuse
  | room + 1 => Reader.nested (dispatch composites (item composites room))

/-- Read an expression that stands by itself. -/
def expression (composites : Bool) (room : Nat) : Fallible L Value :=
  dispatch composites (item composites room)

/-! ## Whole texts -/

/-- What a reader came to, unless it broke down; what it found has to be a datum. -/
def settle (outcome : Outcome L (Except Breakdown Value)) : Except Breakdown (Outcome L Datum) :=
  match outcome with
  | ⟨.found result length, log⟩ => do
    let value ← result
    let datum ← value.toDatum.mapError .construction
    return ⟨.found datum length, log⟩
  | ⟨.missing, log⟩ => .ok ⟨.missing, log⟩
  | ⟨.tooDeep offset, log⟩ => .ok ⟨.tooDeep offset, log⟩

/-- Read a text as an expression: what it stands for and where that ends. -/
def read (options : Options) (source : String) :
    Except Breakdown (Except ReadError (Datum × Nat)) := do
  let outcome : Outcome Furthest Datum ←
    settle (expression options.composites (options.room 0) source.toList)
  return Entry.conclude options source.toList outcome

/-- Tell whether a text starts with an expression. -/
def report (source : String) (options : Options := {}) : Except Breakdown Report := do
  let reading ← read options source
  return Report.ofReading source reading

end Fallible

end SExpr
