import SExpr.Entry
import SExpr.Reader.Trace

/-!
# Sessions

A session is a text under examination: readers are tried on it one after another, each at an
offset of its own.  What was read changes nothing for the readers that follow, but the session
keeps the furthest failure of all of them, so that one message can be given for several attempts.

* `Recognizer` — the readers of expressions and of their parts.
* `Primitive` — the readers of characters, which only tell where they ended.
* `Session.perform` — the answer to one step, and the session after it.
-/

namespace SExpr

/-- The readers of expressions and of their parts. -/
inductive Recognizer where
  | expression
  | item
  | atom
  | text
  | character
  | boolean
  | plainInteger
  | radixInteger
  | integer
  | float
  | ratio
  | part
  | complex
  | list
  | dottedPair
  | quoted
  | dottedTail
  | formBody
  | parenthesized
  deriving DecidableEq, Repr

namespace Recognizer

variable {L : Type} [Log L]

/-- The reader itself, with room for so many levels of nested expressions. -/
def reader (recognizer : Recognizer) (composites : Bool) (room : Nat) : Reader L Datum :=
  let item : Reader L Datum := Reader.item composites room
  match recognizer with
  | .expression => Reader.expression composites room
  | .item => item
  | .atom => Reader.atom
  | .text => Reader.text
  | .character => Reader.character
  | .boolean => Reader.boolean
  | .plainInteger => Reader.plainInteger
  | .radixInteger => Reader.radixInteger
  | .integer => Reader.integer
  | .float => Reader.float
  | .ratio => Reader.ratio
  | .part => Reader.Part.toDatum <$> Reader.part
  | .complex => Reader.complex
  | .list => Reader.list item
  | .dottedPair => Reader.dottedPair item
  | .quoted => Reader.quoted item
  | .dottedTail => Reader.dottedTail item
  | .formBody => Reader.formBody item
  | .parenthesized => Reader.parenthesized item

end Recognizer

/-- The sets of characters that the language names. -/
inductive CharClass where
  | digit
  | atomStart
  | atomChar
  | space
  | letter
  deriving DecidableEq, Repr

/-- Whether a character is in a set. -/
def CharClass.contains : CharClass → Char → Bool
  | .digit => Char.isDigit
  | .atomStart => isAtomStart
  | .atomChar => isAtomChar
  | .space => Unicode.isSpace
  | .letter => Unicode.isLetter

instance : Coe CharClass (Char → Bool) := ⟨CharClass.contains⟩

/-- The readers of characters. -/
inductive Primitive where
  /-- Exactly this text. -/
  | token (text : String)
  /-- One character that is accepted. -/
  | satisfy (accept : Char → Bool) (what : String)
  /-- All accepted characters that are ahead, at least so many. -/
  | many (accept : Char → Bool) (what : String) (atLeast : Nat)
  /-- At least one decimal digit. -/
  | digits
  /-- At least one white space character. -/
  | whitespace

namespace Primitive

variable {L : Type} [Log L]

/-- The reader itself. -/
def reader : Primitive → Reader L Unit
  | .token text => Reader.token text
  | .satisfy accept what => (fun _ => ()) <$> Reader.satisfy accept what
  | .many accept what atLeast => (fun _ => ()) <$> Reader.many accept what atLeast
  | .digits => (fun _ => ()) <$> Reader.digits
  | .whitespace => Reader.gap

end Primitive

/-- A text under examination. -/
structure Session where
  source : List Char
  options : Options
  /-- How many nested expressions the session stands in. -/
  depth : Int
  furthest : Furthest

/-- One thing to do in a session. -/
inductive Step where
  /-- Try a reader of expressions at an offset. -/
  | recognize (recognizer : Recognizer) (offset : Nat)
  /-- Try a reader of characters at an offset. -/
  | scan (primitive : Primitive) (offset : Nat)
  /-- Note that something was wanted at an offset and did not stand there. -/
  | fail (offset : Nat) (what : String)
  /-- Give the error of the session as it is. -/
  | describe

/-- The answer to a step. -/
inductive Answer where
  /-- A datum and the offset where it ends, if there is one. -/
  | recognized (found : Option (Datum × Nat))
  /-- The offset where the characters end, if they are there. -/
  | scanned (found : Option Nat)
  /-- An expression is nested too deeply. -/
  | refused (error : ReadError)
  | noted
  | described (error : ReadError)
  deriving Repr

namespace Session

/-- A session in which nothing was done yet. -/
def start (source : List Char) (options : Options) : Session := ⟨source, options, 0, none⟩

/-- The error that speaks of the furthest failure. -/
def error (session : Session) : ReadError := .ofFurthest session.source session.furthest

/-- Try a reader at an offset.  Past the end of the text nothing is ahead. -/
def attempt {α : Type} (session : Session) (reader : Reader Trace α) (offset : Nat) :
    Verdict α × Session :=
  let outcome := reader (session.source.drop offset)
  (outcome.verdict.shift offset,
    { session with
      depth := session.depth + outcome.log.nesting
      furthest := session.furthest.join (outcome.log.furthest.shift offset) })

/-- The reader of characters to use at an offset: past the end of the text not even the empty
text stands. -/
def scanner {L : Type} [Log L] (session : Session) (primitive : Primitive) (offset : Nat) :
    Reader L Unit :=
  match primitive with
  | .token text =>
    if session.source.length < offset then Reader.failAt 0 (Text.quoted text)
    else Reader.token text
  | _ => primitive.reader

/-- What a reader of expressions came to. -/
def recognized (session : Session) : Verdict Datum → Answer
  | .found datum stop => .recognized (some (datum, stop))
  | .missing => .recognized none
  | .tooDeep offset => .refused ⟨session.source, offset, .tooDeep session.options.maxDepth⟩

/-- What a reader of characters came to. -/
def scanned : Verdict Unit → Answer
  | .found _ stop => .scanned (some stop)
  | _ => .scanned none

/-- Do one step. -/
def perform (session : Session) : Step → Answer × Session
  | .recognize recognizer offset =>
    let reader := recognizer.reader session.options.composites (session.options.room session.depth)
    let (verdict, after) := session.attempt reader offset
    (session.recognized verdict, after)
  | .scan primitive offset =>
    let (verdict, after) := session.attempt (session.scanner primitive offset) offset
    (scanned verdict, after)
  | .fail offset what =>
    (.noted, { session with furthest := session.furthest.join (.missedAt offset what) })
  | .describe => (.described session.error, session)

/-- Do some steps one after another: each answer with the session after it. -/
def performAll (session : Session) : List Step → List (Answer × Session)
  | [] => []
  | step :: rest =>
    let (answer, after) := session.perform step
    (answer, after) :: after.performAll rest

end Session

end SExpr
