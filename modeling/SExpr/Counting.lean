import SExpr.Session

/-!
# Counting levels on the spot

How much room there is for nested expressions could be left to a counter: it goes up where one is
entered, is compared with the limit, and goes down where the expression is left.  It has to go down
on every way out, whether something was found or not and whether a level further down was refused;
and where the level itself is one too many it goes down before that is said.  If one of these were
missed, later readings would start too deep and be refused for no reason.

Here are the readers of composite expressions once more, with a counter that they change as they go.
What has no expressions inside leaves the counter alone.  There is no room to recur on, and nothing
else bounds the loops or the levels from the start.  So a reader is run for a number of times, one
for each turn of a loop and one for each level, and gives no answer if these are not enough.

* `Counting` — a reader that keeps a counter and may not come to an end.
* `Counting.inside` — one level further down and back.
* `Counting.item` — the reader of expressions inside others, for so many times.
* `Session.performAllCounting` — some steps one after another, with the counter of the session.
-/

namespace SExpr

/-- An outcome, and the level that the counter is left at. -/
structure Counted (L α : Type) where
  outcome : Outcome L α
  depth : Int

/-- A reader that is given the level it starts at, and that may not come to an end. -/
def Counting (L α : Type) : Type := (depth : Int) → List Char → Option (Counted L α)

namespace Counting

variable {L α β : Type} [Log L]

/-! ## Combinators -/

/-- A reader that leaves the counter alone. -/
def plain (reader : Reader L α) : Counting L α := fun depth ahead => some ⟨reader ahead, depth⟩

/-- No end so far. -/
def unfinished : Counting L α := fun _ _ => none

/-- Read one thing, then go on behind it, at the level that the first one left. -/
def andThen (reader : Counting L α) (next : α → Counting L β) : Counting L β :=
  fun depth ahead => do
    let ⟨⟨verdict, log⟩, depth⟩ ← reader depth ahead
    match verdict with
    | .found value length =>
      let ⟨outcome, depth⟩ ← next value depth (ahead.drop length)
      return ⟨⟨outcome.verdict.shift length, Log.join log (Log.shift length outcome.log)⟩, depth⟩
    | .missing => return ⟨⟨.missing, log⟩, depth⟩
    | .tooDeep offset => return ⟨⟨.tooDeep offset, log⟩, depth⟩

/-- Read a thing and make something else of it. -/
def mapped (f : α → β) (reader : Counting L α) : Counting L β := fun depth ahead => do
  let ⟨outcome, depth⟩ ← reader depth ahead
  return ⟨⟨outcome.verdict.map f, outcome.log⟩, depth⟩

/-- Read one thing or, if it is missing, another, at the level that the first one left. -/
def orElse (first : Counting L α) (second : Unit → Counting L α) : Counting L α :=
  fun depth ahead => do
    let ⟨⟨verdict, log⟩, depth⟩ ← first depth ahead
    match verdict with
    | .missing =>
      let ⟨outcome, depth⟩ ← second () depth ahead
      return ⟨⟨outcome.verdict, Log.join log outcome.log⟩, depth⟩
    | verdict => return ⟨⟨verdict, log⟩, depth⟩

instance : Monad (Counting L) where
  pure value := plain (Reader.succeed value)
  bind := andThen
  map := mapped

instance : Alternative (Counting L) where
  failure := plain Reader.nowhere
  orElse := orElse

/-- The reader that uses itself in the way of a step, so many times at most. -/
def loop (step : Counting L α → Counting L α) : (times : Nat) → Counting L α
  | 0 => unfinished
  | times + 1 => step (loop step times)

/-- Read one level further down.  The counter goes up first, and goes down again whatever comes of
it: also where the level is one too many, and where a level further down is refused. -/
def inside (maxDepth : Int) (reader : Counting L α) : Counting L α := fun depth ahead =>
  let below := depth + 1
  if maxDepth < below then some ⟨Reader.refuse ahead, below - 1⟩
  else do
    let ⟨outcome, depth⟩ ← reader below ahead
    return ⟨Reader.nested (fun _ => outcome) ahead, depth - 1⟩

/-! ## Composite expressions -/

/-- Read a quoted expression. -/
def quoted (item : Counting L Datum) : Counting L Datum := do
  plain (Reader.token "'")
  let datum ← item
  return datum.quote

/-- Read one item or more with white space between them. -/
def items (times : Nat) (item : Counting L Datum) : Counting L (List Datum) :=
  loop (fun items => do
    let first ← item
    let rest ← (do plain Reader.gap; items) <|> pure []
    return first :: rest) times

/-- Read any number of items with white space between them. -/
def list (times : Nat) (item : Counting L Datum) : Counting L Datum := do
  let data ← items times item <|> pure []
  return .list data

/-- Read any number of items, each with white space behind it. -/
def spacedItems (times : Nat) (item : Counting L Datum) : Counting L (List Datum) :=
  loop (fun spacedItems =>
    (do
      let first ← item
      plain Reader.gap
      let rest ← spacedItems
      return first :: rest) <|> pure []) times

/-- Read the tail of a dotted pair with the point in front of it. -/
def dottedTail (item : Counting L Datum) : Counting L Datum := do
  plain (Reader.token ".")
  plain Reader.gap
  item

/-- Read items and the tail of a dotted pair. -/
def dottedPair (times : Nat) (item : Counting L Datum) : Counting L Datum := do
  let data ← spacedItems times item
  let tail ← dottedTail item
  return .dotted data tail

/-- Read a tail, or one item or more and perhaps a tail. -/
def form (times : Nat) (item : Counting L Datum) : Counting L Reader.Form :=
  loop (fun form =>
    Reader.Form.ofTail <$> dottedTail item <|> (do
      let first ← item
      let rest ← (do plain Reader.gap; form) <|> pure Reader.Form.empty
      return rest.cons first)) times

/-- Read what stands between parentheses. -/
def formBody (times : Nat) (item : Counting L Datum) : Counting L Datum := do
  let body ← form times item <|> pure Reader.Form.empty
  return body.toDatum

/-- Read a list or a dotted pair in parentheses. -/
def parenthesized (times : Nat) (item : Counting L Datum) : Counting L Datum := do
  plain (Reader.token "(")
  let datum ← formBody times item
  let _ ← plain (Reader.many Unicode.isSpace "whitespace" 0)
  plain (Reader.token ")")
  return datum

/-! ## Expressions -/

/-- Read a composite expression, if such are allowed; `item` reads what stands inside. -/
def composite (times : Nat) (allowed : Bool) (item : Counting L Datum) : Counting L Datum :=
  if allowed then quoted item <|> parenthesized times item <|> failure else failure

/-- Read a literal or, where that is allowed, a composite expression. -/
def dispatch (times : Nat) (composites : Bool) (item : Counting L Datum) : Counting L Datum :=
  plain (Literal.firstIn Literal.inOrder) <|> composite times composites item

/-- Read an expression inside another. -/
def item (composites : Bool) (maxDepth : Int) : (times : Nat) → Counting L Datum
  | 0 => unfinished
  | times + 1 => inside maxDepth (dispatch times composites (item composites maxDepth times))

end Counting

/-- The reader itself, with a counter in place of the room.  A literal has nothing inside, so it
needs none. -/
def Recognizer.counting {L : Type} [Log L] (recognizer : Recognizer) (composites : Bool)
    (maxDepth : Int) (times : Nat) : Counting L Datum :=
  let item : Counting L Datum := Counting.item composites maxDepth times
  match recognizer with
  | .expression => Counting.dispatch times composites item
  | .item => item
  | .list => Counting.list times item
  | .dottedPair => Counting.dottedPair times item
  | .quoted => Counting.quoted item
  | .dottedTail => Counting.dottedTail item
  | .formBody => Counting.formBody times item
  | .parenthesized => Counting.parenthesized times item
  | literal => Counting.plain (literal.reader composites 0)

namespace Session

/-- Try a reader at an offset, at the level that the session stands at. -/
def attemptCounting {α : Type} (session : Session) (reader : Counting Furthest α) (offset : Nat) :
    Option (Verdict α × Session) := do
  let ⟨outcome, depth⟩ ← reader session.depth (session.source.drop offset)
  return (outcome.verdict.shift offset,
    { session with
      depth := depth
      furthest := session.furthest.join (outcome.log.shift offset) })

/-- Do one step, with the counter of the session. -/
def performCounting (session : Session) (times : Nat) : Step → Option (Answer × Session)
  | .recognize recognizer offset => do
    let reader := recognizer.counting session.options.composites session.options.maxDepth times
    let (verdict, after) ← session.attemptCounting reader offset
    return (session.recognized verdict, after)
  | .scan primitive offset => do
    let reader := Counting.plain (session.scanner primitive offset)
    let (verdict, after) ← session.attemptCounting reader offset
    return (scanned verdict, after)
  | .fail offset what =>
    some (.noted, { session with furthest := session.furthest.join (.missedAt offset what) })
  | .describe => some (.described session.error, session)

/-- Do some steps one after another, each at the level that the one before it left. -/
def performAllCounting (session : Session) (times : Nat) :
    List Step → Option (List (Answer × Session))
  | [] => some []
  | step :: rest => do
    let (answer, after) ← session.performCounting times step
    let others ← after.performAllCounting times rest
    return (answer, after) :: others

end Session

end SExpr
