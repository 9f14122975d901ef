import SExpr.Session

/-!
# Readers of a whole text

A session keeps much from its readers.  They are given the text ahead, and neither what lies behind
them nor how far that is; they leave their failures for the session to record, and never see the
record.  Here are all readers once more, with the session itself in their hands.  They work with
offsets from the beginning of the text: they look a character up at an offset, compare or cut out
what stands between two of them, and pass on the one that they have come to.  They note a failure in
the record when they meet it, and they count levels where the session does.

Nothing in the form of such a reader keeps it from looking behind its offset, from noting a place
that it counted from its own, or from finding one thing or another as the record has it.  That none
does any of that is a matter of what each of them is made of.

As with the readers that count levels there is nothing to recur on.  What can go on for long is run
for a number of times, one for each turn of a loop and one for each level, and does not come to an
end if these are not enough.

* `Attempt` — a reader that is given a session and an offset.
* `Attempt.standsAt`, `runEnd`, `scanText` — what stands in a text, by offsets.
* `Attempt.spanning` — what was read, cut out of the text.
* `Attempt.inside` — one level further down and back.
* `Session.performAllDirectly` — some steps, with each reader working on the session.
-/

namespace SExpr

/-- Note that something was wanted at an offset and did not stand there. -/
def Session.note (session : Session) (offset : Nat) (what : String) : Session :=
  { session with furthest := session.furthest.note offset what }

/-- A reader that is given a session and an offset in its text, and leaves the session changed.  The
offsets in its verdict count from the beginning of the text.  It may not come to an end. -/
def Attempt (α : Type) : Type := Session → (offset : Nat) → Option (Verdict α × Session)

namespace Attempt

variable {α β : Type}

/-! ## Combinators -/

/-- No end so far. -/
def unfinished : Attempt α := fun _ _ => none

/-- Find a value without reading anything. -/
def succeed (value : α) : Attempt α := fun session offset => some (.found value offset, session)

/-- Note that something was wanted at some place, and find nothing. -/
def failAt (place : Nat) (what : String) : Attempt α := fun session _ =>
  some (.missing, session.note place what)

/-- Find nothing, and say nothing about it. -/
def nowhere : Attempt α := fun session _ => some (.missing, session)

/-- Read one thing, then go on where it ends, in the session that it left. -/
def andThen (attempt : Attempt α) (next : α → Attempt β) : Attempt β := fun session offset => do
  let (verdict, session) ← attempt session offset
  match verdict with
  | .found value stop => next value session stop
  | .missing => return (.missing, session)
  | .tooDeep place => return (.tooDeep place, session)

/-- Read a thing and make something else of it. -/
def mapped (f : α → β) (attempt : Attempt α) : Attempt β := fun session offset => do
  let (verdict, session) ← attempt session offset
  return (verdict.map f, session)

/-- Read one thing or, if it is missing, another at the same offset, in the session that the first
one left. -/
def orElse (first : Attempt α) (second : Unit → Attempt α) : Attempt α := fun session offset => do
  let (verdict, session) ← first session offset
  match verdict with
  | .missing => second () session offset
  | verdict => return (verdict, session)

instance : Monad Attempt where
  pure := succeed
  bind := andThen
  map := mapped

instance : Alternative Attempt where
  failure := nowhere
  orElse := orElse

/-- The first of several alternatives that finds something. -/
def firstOf : List (Attempt α) → Attempt α
  | [] => nowhere
  | attempt :: others => attempt <|> firstOf others

/-- The reader that uses itself in the way of a step, so many times at most. -/
def loop (step : Attempt α → Attempt α) : (times : Nat) → Attempt α
  | 0 => unfinished
  | times + 1 => step (loop step times)

/-- The offset that was come to. -/
def here : Attempt Nat := fun session offset => some (.found offset offset, session)

/-- The text from some offset to the one that was come to. -/
def textFrom (start : Nat) : Attempt (List Char) := fun session offset =>
  some (.found (session.source.extract start offset) offset, session)

/-- Read a thing, and find the text that was read for it. -/
def spanning (attempt : Attempt Unit) : Attempt (List Char) := do
  let start ← here
  attempt
  textFrom start

/-- Read a thing for which the function gives a value; without one, fail where it starts. -/
def refine (attempt : Attempt α) (value? : α → Option β) (what : String) : Attempt β := do
  let start ← here
  let raw ← attempt
  match value? raw with
  | some value => pure value
  | none => failAt start what

/-- Make sure that a thing does not stand here, and read nothing. -/
def notAhead (attempt : Attempt α) : Attempt Unit := fun session offset => do
  let (verdict, session) ← attempt session offset
  match verdict with
  | .found _ _ => return (.missing, session)
  | .missing => return (.found () offset, session)
  | .tooDeep place => return (.tooDeep place, session)

/-- Read one level further down.  The level of the session goes up first, and goes down again
whatever comes of it: also where it is one too many, and where a level further down is refused. -/
def inside (maxDepth : Int) (attempt : Attempt α) : Attempt α := fun session offset =>
  let below := { session with depth := session.depth + 1 }
  if maxDepth < below.depth then
    some (.tooDeep offset, { below with depth := below.depth - 1 })
  else do
    let (verdict, session) ← attempt below offset
    return (verdict, { session with depth := session.depth - 1 })

/-! ## Characters -/

/-- Whether a text stands in another at an offset.  Past the end not even the empty text does. -/
def standsAt (text source : List Char) (offset : Nat) : Bool :=
  offset ≤ source.length && source.extract offset (offset + text.length) == text

/-- Read exactly this text. -/
def token (text : String) : Attempt Unit := fun session offset =>
  if standsAt text.toList session.source offset then
    some (.found () (offset + text.length), session)
  else failAt offset (Text.quoted text) session offset

/-- Read one character that is accepted. -/
def satisfy (accept : Char → Bool) (what : String) : Attempt Unit := fun session offset =>
  if session.source[offset]?.any accept then some (.found () (offset + 1), session)
  else failAt offset what session offset

/-- Read one character for which the function gives a value. -/
def pick (value? : Char → Option α) (what : String) : Attempt α := fun session offset =>
  match (session.source.extract offset (offset + 1)).head?.bind value? with
  | some value => some (.found value (offset + 1), session)
  | none => failAt offset what session offset

/-- The first offset from some offset on at which no character stands that is accepted. -/
def runEnd (source : List Char) (accept : Char → Bool) (stop : Nat) : Nat :=
  if within : stop < source.length then
    if accept source[stop] then runEnd source accept (stop + 1) else stop
  else stop
termination_by source.length - stop

/-- Read all the accepted characters that stand here, which have to be that many at least. -/
def many (accept : Char → Bool) (what : String) (atLeast : Nat) : Attempt Unit :=
  fun session offset =>
    let stop := runEnd session.source accept offset
    if stop - offset < atLeast then failAt stop what session offset
    else some (.found () stop, session)

/-- Read at least one decimal digit. -/
def digits : Attempt Unit := many CharClass.digit "digit" 1

/-- Read at least one white space character. -/
def gap : Attempt Unit := many CharClass.space "whitespace" 1

/-! ## Texts -/

/-- Go through the inside of a text up to the quotation mark that ends it, or to the end of
everything: the characters that are meant and the offset that is come to, or the offset at which an
escape code is wanted and does not stand. -/
def scanText (source meant : List Char) (stop : Nat) : Except Nat (List Char × Nat) :=
  if within : stop < source.length then
    if source[stop] = '"' then .ok (meant, stop)
    else if source[stop] = '\\' then
      match (source.extract (stop + 1) (stop + 2)).head?.bind Reader.escapeCode? with
      | some c => scanText source (meant ++ [c]) (stop + 2)
      | none => .error (stop + 1)
    else scanText source (meant ++ [source[stop]]) (stop + 1)
  else .ok (meant, stop)
termination_by source.length - stop

/-- Read what stands between the quotation marks of a text. -/
def textBody : Attempt (List Char) := fun session offset =>
  match scanText session.source [] offset with
  | .ok (meant, stop) => some (.found meant stop, session)
  | .error place => failAt place "escape code" session offset

/-- Read a text. -/
def text : Attempt Datum := do
  token "\""
  let content ← textBody
  token "\""
  return .text (String.ofList content)

/-! ## Literals with a number sign, and atoms -/

/-- Read a character. -/
def character : Attempt Datum := do
  token "#\\"
  let name := spanning (many CharClass.letter "letter" 1)
  let c ← refine name Reader.namedCharacter? "character name"
  return .character c

/-- Read a truth value. -/
def boolean : Attempt Datum := do
  token "#"
  let value ← pick Reader.truthValue? "'t' or 'f'"
  return .boolean value

/-- Read an integer in the base that its tag tells. -/
def radixInteger : Attempt Datum := do
  token "#"
  let radix ← pick Numeral.Radix.ofTag? "radix tag"
  let numeral ← spanning (many radix.isDigit radix.digitName 1)
  return .integer (radix.value numeral)

/-- The characters with which another literal than an atom could go on behind a number sign. -/
def tags : List (List Char) := [['t'], ['f'], ['\\'], ['b'], ['o'], ['d'], ['x']]

/-- Make sure that no literal, other than an atom, stands here. -/
def makeRoom : Attempt Unit := fun session offset =>
  if standsAt ['#'] session.source offset &&
      tags.contains (session.source.extract (offset + 1) (offset + 2)) then
    notAhead (firstOf [boolean, character, radixInteger]) session offset
  else some (.found () offset, session)

/-- Read an atom. -/
def atom : Attempt Datum := do
  makeRoom
  let name ← spanning do
    satisfy CharClass.atomStart "letter or symbol"
    many CharClass.atomChar "letter, digit or symbol" 0
  return .atom (String.ofList name)

/-! ## Numbers -/

/-- Read a natural number. -/
def natural : Attempt Nat := do
  let numeral ← spanning digits
  return Numeral.decimalValue numeral

/-- Read an integer without a tag. -/
def plainInteger : Attempt Datum := do
  let value ← natural
  return .integer value

/-- Read an integer with or without a tag. -/
def integer : Attempt Datum := firstOf [plainInteger, radixInteger]

/-- Read a number with a decimal point and digits on either side. -/
def decimal : Attempt Binary64 := do
  let whole ← spanning digits
  token "."
  let fraction ← spanning digits
  return .ofDecimal whole fraction

/-- Read a double-precision number. -/
def float : Attempt Datum := do
  let value ← decimal
  return .float value

/-- Read a ratio. -/
def ratio : Attempt Datum := do
  let numerator ← natural
  token "/"
  let ⟨denominator, nonzero⟩ ← refine (spanning digits) Reader.denominator? "non-zero denominator"
  return .ratio ⟨numerator, denominator, nonzero⟩

/-- Read a part of a complex number. -/
def part : Attempt Reader.Part :=
  firstOf [Reader.Part.decimal <$> decimal, Reader.Part.whole <$> natural]

/-- Read a complex number. -/
def complex : Attempt Datum := do
  let real ← part
  token "+"
  let imaginary ← part
  token "i"
  return .complex real.toBinary64 imaginary.toBinary64

/-- Read a literal of one kind. -/
def literal : Literal → Attempt Datum
  | .atom => atom
  | .text => text
  | .character => character
  | .complex => complex
  | .float => float
  | .ratio => ratio
  | .integer => integer
  | .boolean => boolean

/-! ## Composite expressions -/

/-- Read a quoted expression. -/
def quoted (item : Attempt Datum) : Attempt Datum := do
  token "'"
  let datum ← item
  return datum.quote

/-- Read one item or more with white space between them. -/
def items (times : Nat) (item : Attempt Datum) : Attempt (List Datum) :=
  loop (fun items => do
    let first ← item
    let rest ← (do gap; items) <|> pure []
    return first :: rest) times

/-- Read any number of items with white space between them. -/
def list (times : Nat) (item : Attempt Datum) : Attempt Datum := do
  let data ← items times item <|> pure []
  return .list data

/-- Read any number of items, each with white space behind it. -/
def spacedItems (times : Nat) (item : Attempt Datum) : Attempt (List Datum) :=
  loop (fun spacedItems =>
    (do
      let first ← item
      gap
      let rest ← spacedItems
      return first :: rest) <|> pure []) times

/-- Read the tail of a dotted pair with the point in front of it. -/
def dottedTail (item : Attempt Datum) : Attempt Datum := do
  token "."
  gap
  item

/-- Read items and the tail of a dotted pair. -/
def dottedPair (times : Nat) (item : Attempt Datum) : Attempt Datum := do
  let data ← spacedItems times item
  let tail ← dottedTail item
  return .dotted data tail

/-- Read a tail, or one item or more and perhaps a tail. -/
def form (times : Nat) (item : Attempt Datum) : Attempt Reader.Form :=
  loop (fun form =>
    Reader.Form.ofTail <$> dottedTail item <|> (do
      let first ← item
      let rest ← (do gap; form) <|> pure Reader.Form.empty
      return rest.cons first)) times

/-- Read what stands between parentheses. -/
def formBody (times : Nat) (item : Attempt Datum) : Attempt Datum := do
  let body ← form times item <|> pure Reader.Form.empty
  return body.toDatum

/-- Read a list or a dotted pair in parentheses. -/
def parenthesized (times : Nat) (item : Attempt Datum) : Attempt Datum := do
  token "("
  let datum ← formBody times item
  many CharClass.space "whitespace" 0
  token ")"
  return datum

/-! ## Expressions -/

/-- Read a composite expression, if such are allowed; `item` reads what stands inside. -/
def composite (times : Nat) (allowed : Bool) (item : Attempt Datum) : Attempt Datum :=
  if allowed then firstOf [quoted item, parenthesized times item] else nowhere

/-- Read a literal or, where that is allowed, a composite expression. -/
def dispatch (times : Nat) (composites : Bool) (item : Attempt Datum) : Attempt Datum :=
  firstOf (Literal.inOrder.map literal) <|> composite times composites item

/-- Read an expression inside another. -/
def item (composites : Bool) (maxDepth : Int) : (times : Nat) → Attempt Datum
  | 0 => unfinished
  | times + 1 => inside maxDepth (dispatch times composites (item composites maxDepth times))

end Attempt

/-- The reader itself, working on the session. -/
def Recognizer.direct (recognizer : Recognizer) (composites : Bool) (maxDepth : Int)
    (times : Nat) : Attempt Datum :=
  let item : Attempt Datum := Attempt.item composites maxDepth times
  match recognizer with
  | .expression => Attempt.dispatch times composites item
  | .item => item
  | .atom => Attempt.atom
  | .text => Attempt.text
  | .character => Attempt.character
  | .boolean => Attempt.boolean
  | .plainInteger => Attempt.plainInteger
  | .radixInteger => Attempt.radixInteger
  | .integer => Attempt.integer
  | .float => Attempt.float
  | .ratio => Attempt.ratio
  | .part => Reader.Part.toDatum <$> Attempt.part
  | .complex => Attempt.complex
  | .list => Attempt.list times item
  | .dottedPair => Attempt.dottedPair times item
  | .quoted => Attempt.quoted item
  | .dottedTail => Attempt.dottedTail item
  | .formBody => Attempt.formBody times item
  | .parenthesized => Attempt.parenthesized times item

/-- The reader itself, working on the session. -/
def Primitive.direct : Primitive → Attempt Unit
  | .token text => Attempt.token text
  | .satisfy accept what => Attempt.satisfy accept what
  | .many accept what atLeast => Attempt.many accept what atLeast
  | .digits => Attempt.digits
  | .whitespace => Attempt.gap

namespace Session

/-- Do one step, with the reader working on the session. -/
def performDirectly (session : Session) (times : Nat) : Step → Option (Answer × Session)
  | .recognize recognizer offset => do
    let reader := recognizer.direct session.options.composites session.options.maxDepth times
    let (verdict, after) ← reader session offset
    return (session.recognized verdict, after)
  | .scan primitive offset => do
    let (verdict, after) ← primitive.direct session offset
    return (scanned verdict, after)
  | .fail offset what => some (.noted, session.note offset what)
  | .describe => some (.described session.error, session)

/-- Do some steps one after another, with each reader working on the session. -/
def performAllDirectly (session : Session) (times : Nat) :
    List Step → Option (List (Answer × Session))
  | [] => some []
  | step :: rest => do
    let (answer, after) ← session.performDirectly times step
    let others ← after.performAllDirectly times rest
    return (answer, after) :: others

end Session

end SExpr
