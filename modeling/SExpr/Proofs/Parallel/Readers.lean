import SExpr.Entry
import SExpr.Proofs.Parallel.Basic

/-!
# Readings of expressions side by side

Every reader of expressions follows itself, whatever the two kinds of logs are.  The readers of
composite expressions follow each other as soon as the readers of items do, and so the readers of
nested expressions do by induction on the room: where a lenient comparison gives the second one more
room, the first one refuses first.

* `follows_item`, `follows_expression` — expressions, inside others and on their own.
* `Entry.follows` — what a text is read as.
* `Entry.verdict_reader` — what a reading comes to does not depend on the log.
-/

namespace SExpr

namespace Reader

variable {L L' : Type} [Log L] [Log L'] {lenient : Prop} {R : L → L' → Prop} [Log.Related R]

/-! ## Literals -/

instance : Follows lenient R (boolean : Reader L Datum) (boolean : Reader L' Datum) := by
  unfold boolean
  infer_instance

instance : Follows lenient R (character : Reader L Datum) (character : Reader L' Datum) := by
  unfold character
  infer_instance

instance : Follows lenient R (radixInteger : Reader L Datum) (radixInteger : Reader L' Datum) := by
  unfold radixInteger
  infer_instance

instance :
    Follows lenient R (taggedLiteral : Reader L Datum) (taggedLiteral : Reader L' Datum) := by
  unfold taggedLiteral
  infer_instance

instance : Follows lenient R (atom : Reader L Datum) (atom : Reader L' Datum) := by
  unfold atom
  infer_instance

instance : Follows lenient R (text : Reader L Datum) (text : Reader L' Datum) := by
  unfold text
  infer_instance

instance : Follows lenient R (natural : Reader L Nat) (natural : Reader L' Nat) := by
  unfold natural
  infer_instance

instance : Follows lenient R (plainInteger : Reader L Datum) (plainInteger : Reader L' Datum) := by
  unfold plainInteger
  infer_instance

instance : Follows lenient R (integer : Reader L Datum) (integer : Reader L' Datum) := by
  unfold integer
  infer_instance

instance : Follows lenient R (decimal : Reader L Binary64) (decimal : Reader L' Binary64) := by
  unfold decimal
  infer_instance

instance : Follows lenient R (float : Reader L Datum) (float : Reader L' Datum) := by
  unfold float
  infer_instance

instance : Follows lenient R (ratio : Reader L Datum) (ratio : Reader L' Datum) := by
  unfold ratio
  infer_instance

instance : Follows lenient R (part : Reader L Part) (part : Reader L' Part) := by
  unfold part
  infer_instance

instance : Follows lenient R (complex : Reader L Datum) (complex : Reader L' Datum) := by
  unfold complex
  infer_instance

instance (kind : Literal) :
    Follows lenient R (kind.reader : Reader L Datum) (kind.reader : Reader L' Datum) := by
  cases kind <;> unfold Literal.reader <;> infer_instance

instance (order : List Literal) : Follows lenient R (Literal.firstIn order : Reader L Datum)
    (Literal.firstIn order : Reader L' Datum) := by
  unfold Literal.firstIn
  induction order with
  | nil => exact inferInstanceAs (Follows lenient R (firstOf []) (firstOf []))
  | cons kind others ih =>
      exact inferInstanceAs
        (Follows lenient R (firstOf (kind.reader :: _)) (firstOf (kind.reader :: _)))

/-! ## Composite expressions -/

section

variable (item : Reader L Datum) (item' : Reader L' Datum) [Follows lenient R item item']

instance : Follows lenient R (quoted item) (quoted item') := by
  unfold quoted
  infer_instance

instance : Follows lenient R (items item) (items item') := .loop fun _ _ _ => inferInstance

instance : Follows lenient R (list item) (list item') := by
  unfold list
  infer_instance

instance : Follows lenient R (spacedItems item) (spacedItems item') :=
  .loop fun _ _ _ => inferInstance

instance : Follows lenient R (dottedTail item) (dottedTail item') := by
  unfold dottedTail
  infer_instance

instance : Follows lenient R (dottedPair item) (dottedPair item') := by
  unfold dottedPair
  infer_instance

instance : Follows lenient R (form item) (form item') := .loop fun _ _ _ => inferInstance

instance : Follows lenient R (formBody item) (formBody item') := by
  unfold formBody
  infer_instance

instance : Follows lenient R (parenthesized item) (parenthesized item') := by
  unfold parenthesized
  infer_instance

instance (allowed : Bool) :
    Follows lenient R (composite allowed item) (composite allowed item') := by
  unfold composite
  split <;> infer_instance

instance (order : List Literal) (allowed : Bool) :
    Follows lenient R (dispatch order allowed item) (dispatch order allowed item') := by
  unfold dispatch
  infer_instance

end

/-! ## All levels -/

/-- The readers of nested expressions follow each other if their room is the same or, where that is
let off, if the second one has more. -/
lemma follows_item (composites : Bool) {room room' : Nat}
    (fits : room = room' ∨ lenient ∧ room ≤ room') :
    Follows lenient R (item composites room : Reader L Datum)
      (item composites room' : Reader L' Datum) := by
  induction room generalizing room' with
  | zero =>
      rcases fits with rfl | ⟨letOff, -⟩
      · exact inferInstanceAs (Follows lenient R refuse refuse)
      · exact Follows.refuse _ letOff
  | succ room ih =>
      obtain ⟨less, rfl⟩ : ∃ less, room' = less + 1 := ⟨room' - 1, by omega⟩
      have inside : Follows lenient R (item composites room : Reader L Datum)
          (item composites less : Reader L' Datum) :=
        ih (fits.imp Nat.succ.inj fun ⟨letOff, more⟩ => ⟨letOff, Nat.le_of_succ_le_succ more⟩)
      exact inferInstanceAs (Follows lenient R
        (nested (dispatch Literal.inOrder composites (item composites room)))
        (nested (dispatch Literal.inOrder composites (item composites less))))

lemma follows_expression (composites : Bool) {room room' : Nat}
    (fits : room = room' ∨ lenient ∧ room ≤ room') :
    Follows lenient R (expression composites room : Reader L Datum)
      (expression composites room' : Reader L' Datum) := by
  have inside : Follows lenient R (item composites room : Reader L Datum)
      (item composites room' : Reader L' Datum) := follows_item composites fits
  exact inferInstanceAs (Follows lenient R (dispatch Literal.inOrder composites (item _ room))
    (dispatch Literal.inOrder composites (item _ room')))

end Reader

namespace Entry

open Reader

variable {L L' : Type} [Log L] [Log L'] {lenient : Prop} {R : L → L' → Prop} [Log.Related R]

lemma follows (entry : Entry) (composites : Bool) {room room' : Nat}
    (fits : room = room' ∨ lenient ∧ room ≤ room') :
    Follows lenient R (entry.reader composites room : Reader L Datum)
      (entry.reader composites room' : Reader L' Datum) := by
  have inside : Follows lenient R (item composites room : Reader L Datum)
      (item composites room' : Reader L' Datum) := follows_item composites fits
  cases entry <;> unfold Entry.reader
  · exact follows_expression composites fits
  all_goals infer_instance

/-- Whatever log is kept, a reading comes to the same. -/
lemma verdict_reader (entry : Entry) (composites : Bool) (room : Nat) (ahead : List Char) :
    (entry.reader composites room ahead : Outcome L Datum).verdict =
      (entry.reader composites room ahead : Outcome L' Datum).verdict := by
  have follows : Follows False (fun _ _ => True) (entry.reader composites room : Reader L Datum)
      (entry.reader composites room : Reader L' Datum) := entry.follows composites (.inl rfl)
  exact follows.verdict_eq ahead

end Entry

end SExpr
