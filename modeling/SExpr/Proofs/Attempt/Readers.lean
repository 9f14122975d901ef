import SExpr.Proofs.Attempt.Basic

/-!
# Working on the session comes to the same

Reader by reader, what works on the session is the attempt that the session makes of the reader of
the text ahead: literals of readers with nothing nested, composite expressions of readers that count
levels and are run as many times.  There is one equation for each, and no more to it than the
equations of its parts, except for atoms: a name is cut out as one piece, though it was read in two.

* `Attempt.reading_literal` — literals, each kind.
* `Attempt.counting_item` — nested expressions, by induction on the number of times.
* `Recognizer.counting_eq_direct` — all readers of expressions and of their parts.
* `Session.performDirectly_recognize`, `performDirectly_scan` — one step in terms of what the
  session makes of a reader.
* `Session.performAllDirectly_eq` — some steps.
-/

namespace SExpr

namespace Attempt

variable {α β : Type}

/-! ## Literals -/

lemma reading_boolean : reading Reader.boolean = boolean := by
  simp (disch := decide) only [Reader.boolean, boolean, reading_bind, reading_token, reading_pick,
    reading_pure]

lemma reading_character : reading Reader.character = character := by
  simp (disch := decide) only [Reader.character, character, reading_bind, reading_token,
    reading_refine, spanning_many, reading_pure]
  rfl

lemma reading_radixInteger : reading Reader.radixInteger = radixInteger := by
  simp (disch := decide) only [Reader.radixInteger, radixInteger, reading_bind, reading_token,
    reading_pick, spanning_many, reading_pure]

lemma reading_digits : reading Reader.digits = spanning digits := by
  rw [Reader.digits, digits, spanning_many]
  rfl

lemma reading_natural : reading Reader.natural = natural := by
  simp only [Reader.natural, natural, reading_bind, reading_digits, reading_pure]

lemma reading_plainInteger : reading Reader.plainInteger = plainInteger := by
  simp only [Reader.plainInteger, plainInteger, reading_bind, reading_natural, reading_pure]

lemma reading_integer : reading Reader.integer = integer := by
  simp only [Reader.integer, integer, reading_firstOf, List.map_cons, List.map_nil,
    reading_plainInteger, reading_radixInteger]

lemma reading_decimal : reading Reader.decimal = decimal := by
  simp (disch := decide) only [Reader.decimal, decimal, reading_bind, reading_digits, reading_token,
    reading_pure]

lemma reading_float : reading Reader.float = float := by
  simp only [Reader.float, float, reading_bind, reading_decimal, reading_pure]

lemma reading_ratio : reading Reader.ratio = ratio := by
  simp (disch := decide) only [Reader.ratio, ratio, reading_bind, reading_natural, reading_token,
    reading_refine, reading_digits, reading_pure]

lemma reading_part : reading Reader.part = part := by
  simp only [Reader.part, part, reading_firstOf, List.map_cons, List.map_nil, reading_map,
    reading_decimal, reading_natural]

lemma reading_complex : reading Reader.complex = complex := by
  simp (disch := decide) only [Reader.complex, complex, reading_bind, reading_part, reading_token,
    reading_pure]

lemma reading_text : reading Reader.text = text := by
  simp (disch := decide) only [Reader.text, text, reading_bind, reading_token, reading_textBody,
    reading_pure]

/-- The slice behind the number sign holds the one character that is looked at, if there is one. -/
lemma looksTagged_eq (source : List Char) (offset : Nat) :
    Reader.looksTagged (source.drop offset) = (standsAt ['#'] source offset &&
      tags.contains (source.extract (offset + 1) (offset + 2))) := by
  rw [standsAt_cons, List.extract_eq_take_drop, ← List.drop_drop, Nat.add_sub_add_left]
  match source.drop offset with
  | [] => rfl
  | [c] => simp [Reader.looksTagged, tags]
  | c :: tag :: rest =>
      by_cases sign : c = '#'
      · subst sign
        simp [Reader.looksTagged, tags]
      · have other : ¬ '#' = c := Ne.symm sign
        simp [Reader.looksTagged, sign, other]

lemma reading_makeRoom : reading (Reader.checkWhen Reader.looksTagged
    (Reader.notAhead Reader.taggedLiteral)) = makeRoom := by
  have look : reading (Reader.notAhead Reader.taggedLiteral) =
      notAhead (firstOf [boolean, character, radixInteger]) := by
    simp only [reading_notAhead, Reader.taggedLiteral, reading_firstOf, List.map_cons, List.map_nil,
      reading_boolean, reading_character, reading_radixInteger]
  funext session offset
  rw [makeRoom, ← looksTagged_eq, ← look]
  by_cases called : Reader.looksTagged (session.source.drop offset) = true
  · rw [if_pos called, reading_apply, reading_apply, Reader.checkWhen, if_pos called]
  · have read : (Reader.checkWhen Reader.looksTagged (Reader.notAhead Reader.taggedLiteral) :
        Reader Furthest Unit) (session.source.drop offset) = ⟨.found () 0, Log.nothing⟩ :=
      if_neg called
    rw [if_neg called]
    exact reading_of_nothing read

/-- The name that an atom is made of, without what makes room for other literals. -/
def name : Reader Furthest (List Char) := do
  let first ← Reader.satisfy isAtomStart "letter or symbol"
  let rest ← Reader.many isAtomChar "letter, digit or symbol" 0
  return first :: rest

open Reader in
lemma eq_of_reads_name {front rest run : List Char} (found : Reads name front rest run) :
    run = front := by
  obtain ⟨first, left, right, rfl, start, found⟩ := reads_bind.mp found
  obtain ⟨others, left', right', rfl, further, found⟩ := reads_bind.mp found
  obtain ⟨rfl, rfl⟩ := reads_pure.mp found
  obtain ⟨rfl, -⟩ := reads_satisfy.mp start
  obtain ⟨rfl, -⟩ := reads_many.mp further
  simp

instance : Reader.Bounded name := by
  unfold name
  infer_instance

lemma spanning_name : spanning (do
    satisfy CharClass.atomStart "letter or symbol"
    many CharClass.atomChar "letter, digit or symbol" 0) = reading name := by
  rw [← spanning_reading eq_of_reads_name, ← reading_satisfy, ← reading_many]
  simp only [name, reading_bind, reading_pure, map_bind, bind_map_left, bind_pure_comp]
  rfl

lemma reading_atom : reading Reader.atom = atom := by
  rw [atom, spanning_name, name]
  simp only [Reader.atom, reading_bind, reading_makeRoom, reading_pure, bind_assoc, pure_bind]

lemma reading_literal (kind : Literal) : reading kind.reader = literal kind := by
  cases kind with
  | atom => exact reading_atom
  | text => exact reading_text
  | character => exact reading_character
  | complex => exact reading_complex
  | float => exact reading_float
  | ratio => exact reading_ratio
  | integer => exact reading_integer
  | boolean => exact reading_boolean

/-! ## Composite expressions -/

lemma counting_plain (p : Reader Furthest α) : counting (Counting.plain p) = reading p := rfl

lemma counting_pure (a : α) : counting (pure a) = pure a := reading_pure a

lemma reading_gap : reading Reader.gap = gap := by
  rw [gap, ← reading_many]
  simp only [Reader.gap, reading_bind, reading_pure, bind_pure_comp]
  rfl

variable (item : Counting Furthest Datum)

lemma counting_quoted : counting (Counting.quoted item) = quoted (counting item) := by
  simp (disch := decide) only [Counting.quoted, quoted, counting_bind, counting_plain,
    reading_token, counting_pure]

lemma counting_items (times : Nat) :
    counting (Counting.items times item) = items times (counting item) := by
  symm
  refine counting_loop (fun again => ?_) times
  simp only [counting_bind, counting_orElse, counting_plain, reading_gap, counting_pure]

lemma counting_list (times : Nat) :
    counting (Counting.list times item) = list times (counting item) := by
  simp only [Counting.list, list, counting_bind, counting_orElse, counting_items, counting_pure]

lemma counting_spacedItems (times : Nat) :
    counting (Counting.spacedItems times item) = spacedItems times (counting item) := by
  symm
  refine counting_loop (fun again => ?_) times
  simp only [counting_bind, counting_orElse, counting_plain, reading_gap, counting_pure]

lemma counting_dottedTail : counting (Counting.dottedTail item) = dottedTail (counting item) := by
  simp (disch := decide) only [Counting.dottedTail, dottedTail, counting_bind, counting_plain,
    reading_token, reading_gap]

lemma counting_dottedPair (times : Nat) :
    counting (Counting.dottedPair times item) = dottedPair times (counting item) := by
  simp only [Counting.dottedPair, dottedPair, counting_bind, counting_spacedItems,
    counting_dottedTail, counting_pure]

lemma counting_form (times : Nat) :
    counting (Counting.form times item) = form times (counting item) := by
  symm
  refine counting_loop (fun again => ?_) times
  simp only [counting_bind, counting_map, counting_orElse, counting_plain, counting_dottedTail,
    reading_gap, counting_pure]

lemma counting_formBody (times : Nat) :
    counting (Counting.formBody times item) = formBody times (counting item) := by
  simp only [Counting.formBody, formBody, counting_bind, counting_orElse, counting_form,
    counting_pure]

lemma counting_parenthesized (times : Nat) :
    counting (Counting.parenthesized times item) = parenthesized times (counting item) := by
  simp (disch := decide) only [Counting.parenthesized, parenthesized, counting_bind, counting_plain,
    reading_token, counting_formBody, ← reading_many, bind_map_left, counting_pure]
  rfl

lemma counting_composite (times : Nat) (allowed : Bool) :
    counting (Counting.composite times allowed item) = composite times allowed (counting item) := by
  cases allowed with
  | false => exact reading_nowhere
  | true =>
      show counting (Counting.quoted item <|> Counting.parenthesized times item <|>
        Counting.plain Reader.nowhere) = _
      rw [counting_orElse, counting_orElse, counting_quoted, counting_parenthesized, counting_plain,
        reading_nowhere]
      rfl

lemma counting_dispatch (times : Nat) (composites : Bool) :
    counting (Counting.dispatch times composites item) =
      dispatch times composites (counting item) := by
  have literals : firstOf (Literal.inOrder.map literal) =
      reading (Literal.firstIn Literal.inOrder) := by
    rw [Literal.firstIn, reading_firstOf, List.map_map]
    exact congrArg firstOf (List.map_congr_left fun kind _ => (reading_literal kind).symm)
  rw [dispatch, literals, Counting.dispatch, counting_orElse, counting_composite]
  rfl

/-- Nested expressions, by induction on the number of times. -/
lemma counting_item (composites : Bool) (maxDepth : Int) (times : Nat) :
    counting (Counting.item composites maxDepth times) =
      Attempt.item composites maxDepth times := by
  induction times with
  | zero => rfl
  | succ times ih =>
      rw [Counting.item, counting_inside, counting_dispatch, ih]
      rfl

end Attempt

/-! ## Sessions -/

open Attempt

/-- The reader that works on the session is the attempt at the one that counts levels. -/
lemma Recognizer.counting_eq_direct (recognizer : Recognizer) (composites : Bool) (maxDepth : Int)
    (times : Nat) :
    Attempt.counting (recognizer.counting composites maxDepth times) =
      recognizer.direct composites maxDepth times := by
  have inside := counting_item composites maxDepth times
  cases recognizer with
  | expression => exact (counting_dispatch _ _ _).trans (by rw [inside]; rfl)
  | item => exact inside
  | atom => exact reading_atom
  | text => exact reading_text
  | character => exact reading_character
  | boolean => exact reading_boolean
  | plainInteger => exact reading_plainInteger
  | radixInteger => exact reading_radixInteger
  | integer => exact reading_integer
  | float => exact reading_float
  | ratio => exact reading_ratio
  | part => exact (reading_map _ _).trans (congrArg _ reading_part)
  | complex => exact reading_complex
  | list => exact (counting_list _ _).trans (congrArg _ inside)
  | dottedPair => exact (counting_dottedPair _ _).trans (congrArg _ inside)
  | quoted => exact (counting_quoted _).trans (congrArg _ inside)
  | dottedTail => exact (counting_dottedTail _).trans (congrArg _ inside)
  | formBody => exact (counting_formBody _ _).trans (congrArg _ inside)
  | parenthesized => exact (counting_parenthesized _ _).trans (congrArg _ inside)

/-- Past the end of a text not even the empty text stands; elsewhere the offset makes no
difference. -/
lemma Primitive.reading_scanner_eq_direct (primitive : Primitive) (session : Session)
    (offset : Nat) :
    reading (session.scanner primitive offset) session offset =
      primitive.direct session offset := by
  have unnamed {α : Type} {p : Reader Furthest α} {attempt : Attempt Unit}
      (same : (fun _ => ()) <$> reading p = attempt) :
      reading ((fun _ => ()) <$> p) session offset = attempt session offset := by
    rw [reading_map, same]
  cases primitive with
  | token text =>
      show reading (if _ then _ else _) session offset = Attempt.token text session offset
      by_cases past : session.source.length < offset
      · have fails : reading (Reader.failAt 0 (Text.quoted text) : Reader Furthest Unit) session
            offset = failAt offset (Text.quoted text) session offset := reading_of_failAt rfl
        rw [if_pos past, fails, Attempt.token, standsAt_of_gt past]
        rfl
      · rw [if_neg past]
        exact reading_token_apply (standsAt_eq (Nat.not_lt.mp past) _)
  | satisfy accept what => exact unnamed (reading_satisfy accept what)
  | many accept what atLeast => exact unnamed (reading_many accept what atLeast)
  | digits => exact unnamed (reading_many Char.isDigit "digit" 1)
  | whitespace => exact congrFun (congrFun reading_gap _) _

namespace Session

variable {session : Session} {times : Nat}

/-- A step with a reader of expressions answers with what the session makes of it. -/
lemma performDirectly_recognize (recognizer : Recognizer) (offset : Nat) :
    session.performDirectly times (.recognize recognizer offset) =
      (counting (recognizer.counting session.options.composites session.options.maxDepth times)
        session offset).map (Prod.map session.recognized id) := by
  rw [recognizer.counting_eq_direct, performDirectly]
  cases recognizer.direct session.options.composites session.options.maxDepth times session offset
    <;> rfl

/-- A step with a reader of characters answers with what the session makes of it. -/
lemma performDirectly_scan (primitive : Primitive) (offset : Nat) :
    session.performDirectly times (.scan primitive offset) =
      (reading (session.scanner primitive offset) session offset).map (Prod.map scanned id) := by
  rw [primitive.reading_scanner_eq_direct, performDirectly]
  cases primitive.direct session offset <;> rfl

/-- For any number of times a step comes to the same as with readers that are given the text
ahead. -/
lemma performDirectly_eq_performCounting (step : Step) :
    session.performDirectly times step = session.performCounting times step := by
  cases step with
  | recognize recognizer offset =>
      rw [performDirectly_recognize, performCounting, attemptCounting, counting]
      cases (recognizer.counting session.options.composites session.options.maxDepth times :
        Counting Furthest Datum) session.depth (session.source.drop offset) <;> rfl
  | scan primitive offset =>
      rw [performDirectly_scan]
      rfl
  | fail offset what => rw [performDirectly, performCounting, note_eq_noting, noting]
  | describe => rfl

/-- With as many times as there are characters and one more, some steps come to what they come to
where each reader is given the text ahead and the room that is left. -/
lemma performAllDirectly_eq (enough : session.source.length < times) (steps : List Step) :
    session.performAllDirectly times steps = some (session.performAll steps) := by
  have counted (session : Session) :
      session.performAllDirectly times steps = session.performAllCounting times steps := by
    induction steps generalizing session with
    | nil => rfl
    | cons step steps ih =>
        rw [performAllDirectly, performAllCounting, performDirectly_eq_performCounting]
        simp only [ih]
  rw [counted, performAllCounting_eq enough]

end Session

end SExpr
