import SExpr.Reader.Loop
import SExpr.Reader.Primitive
import SExpr.Datum.Basic
import SExpr.Unicode.Space

/-!
# Readers of composite expressions

The readers of expressions with others inside.  Each is given the reader of what stands inside,
so that nothing here knows how deep it is.

A sequence of items ends with its last item: white space behind which no item follows is left
alone.  Inside parentheses a sequence may turn into a dotted pair behind any white space.  So that
no item is read a second time, the point is looked for first, which is safe because no expression
starts with one.

* `items_eq`, `spacedItems_eq`, `form_eq` — the equations that the three sequences satisfy.
-/

namespace SExpr.Reader

variable {L : Type} [Log L]

/-- Read at least one white space character. -/
def gap : Reader L Unit := do
  let _ ← many Unicode.isSpace "whitespace" 1

/-- White space takes at least one character, so less text is ahead behind it. -/
theorem gap_bind_congr {α : Type} {p q : Reader L α} {ahead : List Char}
    (agree : ∀ later : List Char, later.length < ahead.length → p later = q later) :
    (do gap; p) ahead = (do gap; q) ahead := by
  show andThen (andThen (many Unicode.isSpace "whitespace" 1) fun _ => succeed ()) (fun _ => p)
      ahead = andThen (andThen (many Unicode.isSpace "whitespace" 1) fun _ => succeed ())
      (fun _ => q) ahead
  simp only [andThen, many]
  by_cases short : (ahead.takeWhile Unicode.isSpace).length < 1
  · simp [short, failAt]
  · have fits := (List.takeWhile_prefix (l := ahead) Unicode.isSpace).length_le
    have same := agree (ahead.drop (ahead.takeWhile Unicode.isSpace).length)
      (by rw [List.length_drop]; omega)
    simp [short, succeed, Verdict.shift, same]

/-- Read a quoted expression. -/
def quoted (item : Reader L Datum) : Reader L Datum := do
  token "'"
  let datum ← item
  return datum.quote

/-! ## Without parentheses -/

/-- Read one item or more with white space between them. -/
def items (item : Reader L Datum) : Reader L (List Datum) :=
  loop fun items => do
    let first ← item
    let rest ← (do gap; items) <|> pure []
    return first :: rest

theorem items_eq (item : Reader L Datum) :
    items item = (do
      let first ← item
      let rest ← (do gap; items item) <|> pure []
      return first :: rest) := by
  refine loop_eq fun p q ahead agree => ?_
  refine bind_congr rfl fun first later notLonger => bind_congr ?_ fun _ _ _ => rfl
  exact orElse_congr (gap_bind_congr fun _ shorter => agree _ (by omega)) rfl

/-- Read any number of items with white space between them. -/
def list (item : Reader L Datum) : Reader L Datum := do
  let data ← items item <|> pure []
  return .list data

/-- Read any number of items, each with white space behind it. -/
def spacedItems (item : Reader L Datum) : Reader L (List Datum) :=
  loop fun spacedItems =>
    (do
      let first ← item
      gap
      let rest ← spacedItems
      return first :: rest) <|> pure []

theorem spacedItems_eq (item : Reader L Datum) :
    spacedItems item =
      ((do
        let first ← item
        gap
        let rest ← spacedItems item
        return first :: rest) <|> pure []) := by
  refine loop_eq fun p q ahead agree => ?_
  refine orElse_congr (bind_congr rfl fun first later notLonger => ?_) rfl
  exact gap_bind_congr fun _ shorter =>
    bind_congr (agree _ (by omega)) fun _ _ _ => rfl

/-- Read the tail of a dotted pair with the point in front of it. -/
def dottedTail (item : Reader L Datum) : Reader L Datum := do
  token "."
  gap
  item

/-- Read items and the tail of a dotted pair. -/
def dottedPair (item : Reader L Datum) : Reader L Datum := do
  let data ← spacedItems item
  let tail ← dottedTail item
  return .dotted data tail

/-! ## Inside parentheses -/

/-- What stands between parentheses: some items, and perhaps a tail. -/
structure Form where
  items : List Datum
  tail : Option Datum

namespace Form

/-- Nothing at all. -/
def empty : Form := ⟨[], none⟩

/-- A tail without items. -/
def ofTail (tail : Datum) : Form := ⟨[], some tail⟩

/-- One more item in front. -/
def cons (first : Datum) (form : Form) : Form := { form with items := first :: form.items }

/-- The list or dotted pair. -/
def toDatum : Form → Datum
  | ⟨items, none⟩ => .list items
  | ⟨items, some tail⟩ => .dotted items tail

end Form

/-- Read a tail, or one item or more and perhaps a tail. -/
def form (item : Reader L Datum) : Reader L Form :=
  loop fun form =>
    Form.ofTail <$> dottedTail item <|> (do
      let first ← item
      let rest ← (do gap; form) <|> pure Form.empty
      return rest.cons first)

theorem form_eq (item : Reader L Datum) :
    form item =
      (Form.ofTail <$> dottedTail item <|> (do
        let first ← item
        let rest ← (do gap; form item) <|> pure Form.empty
        return rest.cons first)) := by
  refine loop_eq fun p q ahead agree => ?_
  refine orElse_congr rfl (bind_congr rfl fun first later notLonger => ?_)
  refine bind_congr ?_ fun _ _ _ => rfl
  exact orElse_congr (gap_bind_congr fun _ shorter => agree _ (by omega)) rfl

/-- Read what stands between parentheses. -/
def formBody (item : Reader L Datum) : Reader L Datum := do
  let body ← form item <|> pure Form.empty
  return body.toDatum

/-- Read a list or a dotted pair in parentheses. -/
def parenthesized (item : Reader L Datum) : Reader L Datum := do
  token "("
  let datum ← formBody item
  let _ ← many Unicode.isSpace "whitespace" 0
  token ")"
  return datum

end SExpr.Reader
