import SExpr.Datum.Equality
import SExpr.Numeral.Decimal
import SExpr.Text.Quoted

/-!
# Building data from drafts

A *draft* is a datum before it is checked: a character may have any number of code points, a
ratio any denominator, and anything may stand where a datum is wanted.  Building a draft either
gives a value or the first thing that is wrong with it.

The order of the checks shows in which error is given.  The parts of a node are built first, from
left to right and the tail last; only then does the node look at them, in the same order.
-/

namespace SExpr

/-- A value that is not a datum. -/
inductive Foreign where
  | nothing
  | boolean (value : Bool)
  | integer (value : Int)
  | text (value : String)
  | array (items : List Foreign)
  deriving Repr

namespace Foreign

mutual

/-- How a value that is not a datum is shown in a message. -/
def messageText : Foreign → String
  | .nothing => "None"
  | .boolean true => "True"
  | .boolean false => "False"
  | .integer value => Numeral.decimalText value
  | .text value => Text.quoted value
  | .array items => "[" ++ ", ".intercalate (messageTexts items) ++ "]"

/-- How each of some values is shown. -/
def messageTexts : List Foreign → List String
  | [] => []
  | first :: rest => first.messageText :: messageTexts rest

end

/-- The number that a value is, if it is one; a truth value is one or zero. -/
def number? : Foreign → Option Int
  | .boolean value => some (if value then 1 else 0)
  | .integer value => some value
  | _ => none

mutual

/-- Whether two values are the same; numbers and truth values are compared as numbers. -/
def same : Foreign → Foreign → Bool
  | .nothing, .nothing => true
  | .text a, .text b => a == b
  | .array as, .array bs => sameAll as bs
  | a, b => a.number?.isSome && a.number? == b.number?

/-- Whether two sequences of values have the same length and the same values in each place. -/
def sameAll : List Foreign → List Foreign → Bool
  | [], [] => true
  | a :: as, b :: bs => same a b && sameAll as bs
  | _, _ => false

end

mutual

/-- A code of a value, the same for values that are the same. -/
def hash : Foreign → UInt64
  | .nothing => 1
  | .boolean value => mixHash 2 (Hashable.hash (if value then 1 else 0 : Int))
  | .integer value => mixHash 2 (Hashable.hash value)
  | .text value => mixHash 3 (Hashable.hash value)
  | .array items => mixHash 4 (hashAll items)

/-- A code of a sequence of values. -/
def hashAll : List Foreign → UInt64
  | [] => 5
  | first :: rest => mixHash first.hash (hashAll rest)

end

end Foreign

/-- What a draft builds: a datum, or a value that is none. -/
inductive Value where
  | datum (d : Datum)
  | foreign (value : Foreign)
  deriving Repr

namespace Value

/-- Whether two values are the same; a datum is the same as data only. -/
def same : Value → Value → Bool
  | .datum a, .datum b => a.same b
  | .foreign a, .foreign b => a.same b
  | _, _ => false

/-- A code of a value, the same for values that are the same. -/
def hash : Value → UInt64
  | .datum d => mixHash 1 d.hash
  | .foreign value => mixHash 2 value.hash

end Value

/-- What can be wrong with a draft. -/
inductive DraftError where
  /-- A value that is not a datum stands where a datum is wanted. -/
  | notDatum (value : Foreign)
  /-- A character is to be made of a text that has not exactly one. -/
  | notOneCharacter (text : String)
  /-- A ratio has denominator zero. -/
  | zeroDenominator
  deriving Repr

namespace DraftError

/-- The wording of an error. -/
def message : DraftError → String
  | .notDatum value => "not an Expression: " ++ value.messageText
  | .notOneCharacter text =>
    "Character needs exactly one code point, got " ++ Text.quoted text
  | .zeroDenominator => "Ratio denominator is zero"

end DraftError

namespace Value

/-- The datum that a value has to be where it becomes part of another. -/
def toDatum : Value → Except DraftError Datum
  | .datum d => .ok d
  | .foreign value => .error (.notDatum value)

/-- The list of some values. -/
def list (items : List Value) : Except DraftError Value := do
  return .datum (.list (← items.mapM toDatum))

/-- The dotted pair of some values and a tail. -/
def dotted (items : List Value) (tail : Value) : Except DraftError Value := do
  return .datum (.dotted (← items.mapM toDatum) (← tail.toDatum))

/-- The character that a text consists of. -/
def character (content : String) : Except DraftError Value :=
  match content.toList with
  | [c] => .ok (.datum (.character c))
  | _ => .error (.notOneCharacter content)

/-- The ratio of two numbers. -/
def ratio (numerator denominator : Int) : Except DraftError Value :=
  if nonzero : denominator ≠ 0 then .ok (.datum (.ratio ⟨numerator, denominator, nonzero⟩))
  else .error .zeroDenominator

end Value

/-- A datum before it is checked. -/
inductive Draft where
  | atom (name : String)
  | list (items : List Draft)
  | dotted (items : List Draft) (tail : Draft)
  | integer (value : Int)
  | text (value : String)
  | boolean (value : Bool)
  | character (content : String)
  | float (value : Binary64)
  | ratio (numerator denominator : Int)
  | complex (real imaginary : Binary64)
  | foreign (value : Foreign)
  deriving Repr

namespace Draft

mutual

/-- The value that a draft builds. -/
def build : Draft → Except DraftError Value
  | .atom name => .ok (.datum (.atom name))
  | .list items => do
    let items ← buildAll items
    Value.list items
  | .dotted items tail => do
    let items ← buildAll items
    let tail ← tail.build
    Value.dotted items tail
  | .integer value => .ok (.datum (.integer value))
  | .text value => .ok (.datum (.text value))
  | .boolean value => .ok (.datum (.boolean value))
  | .character content => Value.character content
  | .float value => .ok (.datum (.float value))
  | .ratio numerator denominator => Value.ratio numerator denominator
  | .complex real imaginary => .ok (.datum (.complex real imaginary))
  | .foreign value => .ok (.foreign value)

/-- The values that some drafts build, from left to right. -/
def buildAll : List Draft → Except DraftError (List Value)
  | [] => .ok []
  | first :: rest => do
    let value ← first.build
    return value :: (← buildAll rest)

end

/-- The datum that a draft builds. -/
def buildDatum (draft : Draft) : Except DraftError Datum := do
  let value ← draft.build
  value.toDatum

end Draft

end SExpr
